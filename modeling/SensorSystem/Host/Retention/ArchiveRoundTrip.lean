import SensorSystem.Host.Retention.ArchiveRetention
import SensorSystem.Host.Retention.CoverageRoundTrip

/-! Every state of the store meets the checks of the decoder, so that its file is read back, and
an accepted file is the encoding of the state it decodes to. -/

namespace SensorSystem.Host.ArchiveRetentionState

open List Base
open Framing (crc32c)

/-- The checks of the decoder on a state. -/
structure Sound (state : ArchiveRetentionState) : Prop where
  archive : ¬ state.archive.IsZero
  ordered : ¬ (state.acknowledgedAt < state.verifiedAt ∨
    state.deleteAfter ≤ state.acknowledgedAt ∨ state.deletedAt.any (· < state.deleteAfter))
  dependencies : validateDependencies state.dependencies = .ok ()
  ascending : ascending state.dependencies = true

theorem encodedLength_eq_ok {count length : Nat} : encodedLength count = .ok length ↔
    count ≠ 0 ∧ count ≤ maxDependencies ∧ length = headerBytes + count * 40 + crcBytes := by
  rw [encodedLength, guard_eq_ok, not_or, Nat.not_lt, Except.ok.injEq, and_assoc]
  exact and_congr_right fun _ => and_congr_right fun _ => eq_comm

theorem sortKey_injective : Function.Injective SegmentKey.sortKey := by
  intro first second same
  obtain ⟨hardware, rest⟩ := append_inj same (by simp)
  simp only [cons.injEq, and_true] at rest
  obtain ⟨epoch, ordinal, cursor, stop⟩ := rest
  have bytes : first.hardwareId = second.hardwareId := by
    refine Vector.toList_inj.mp (map_injective_iff.mpr ?_ hardware)
    exact fun _ _ same => UInt8.toNat_inj.mp same
  cases first
  cases second
  rw [SegmentKey.mk.injEq]
  exact ⟨bytes, UInt64.toNat_inj.mp epoch, UInt64.toNat_inj.mp ordinal,
    UInt64.toNat_inj.mp cursor, UInt64.toNat_inj.mp stop⟩

theorem nodup_collectDependencies {found : List SegmentKey} {inputs : List ArchiveInputSpan}
    (once : found.Nodup) : (collectDependencies found inputs).Nodup := by
  induction inputs generalizing found with
  | nil => exact once
  | cons input rest ih =>
    rw [collectDependencies]
    refine ih ?_
    split
    · exact once
    rename_i fresh
    exact nodup_append.mpr ⟨once, nodup_singleton _, by
      rintro segment member other last rfl
      exact fresh (mem_singleton.mp last ▸ member)⟩

variable {dependencies : List SegmentKey}

theorem ascending_of_pairwise (sorted : dependencies.Pairwise (·.sortKey < ·.sortKey)) :
    ascending dependencies = true := by
  induction dependencies with
  | nil => rfl
  | cons first rest ih =>
    obtain ⟨before, later⟩ := pairwise_cons.mp sorted
    cases rest with
    | nil => rfl
    | cons second rest =>
      rw [ascending, Bool.and_eq_true, decide_eq_true_eq]
      exact ⟨before second mem_cons_self, ih later⟩

/-- Distinct segments in order have strictly growing keys. -/
theorem ascending_sortDependencies (once : dependencies.Nodup) :
    ascending (sortDependencies dependencies) = true := by
  have sorted : (sortDependencies dependencies).Pairwise
      fun first second => decide (first.sortKey ≤ second.sortKey) := pairwise_mergeSort
    (fun first second third before later => by
      rw [decide_eq_true_eq] at before later ⊢
      exact le_trans before later)
    (fun first second => by
      rw [Bool.or_eq_true, decide_eq_true_eq, decide_eq_true_eq]
      exact le_total _ _) dependencies
  have distinct : (sortDependencies dependencies).Nodup :=
    (mergeSort_perm _ _).nodup_iff.mpr once
  refine ascending_of_pairwise ((sorted.and distinct).imp ?_)
  rintro first second ⟨before, differ⟩
  exact lt_of_le_of_ne (of_decide_eq_true before) fun same => differ (sortKey_injective same)

theorem sound_of_fromVerifiedReplication {index : ArchiveCoverageIndex}
    {verifiedAt acknowledgedAt : TrustedUnixSeconds} {policy : RetentionPolicy}
    {state : ArchiveRetentionState}
    (made : fromVerifiedReplication index verifiedAt acknowledgedAt policy = .ok state) :
    state.Sound := by
  obtain ⟨valid, rest⟩ := check_eq_ok.mp made
  obtain ⟨ordered, rest⟩ := guard_eq_ok.mp rest
  obtain ⟨nonzero, rest⟩ := guard_eq_ok.mp rest
  split at rest
  · cases rest
  rename_i deleteAfter added
  obtain ⟨dependencies, rest⟩ := check_eq_ok.mp rest
  cases rest
  have identity : ¬ index.archive.IsZero := by
    obtain ⟨identity, -⟩ := check_eq_ok.mp (mapError_eq_ok.mp valid)
    exact (guard_eq_ok.mp identity).1
  have sum : addDuration acknowledgedAt policy.archiveRetentionSeconds = .ok deleteAfter := by
    rw [addDuration, if_neg nonzero, added]
  have later : acknowledgedAt < deleteAfter := RetentionState.lt_of_addDuration sum
  refine ⟨identity, ?_, dependencies, ascending_sortDependencies (nodup_collectDependencies
    nodup_nil)⟩
  rintro (before | early | past)
  · exact ordered before
  · exact UInt64.not_le.mpr later early
  · cases past

variable {next : ArchiveRetentionState} {time : TrustedUnixSeconds}

theorem sound_of_markDeleted {state : ArchiveRetentionState} (sound : state.Sound)
    (marked : markDeleted time state = .ok (next, true)) : next.Sound := by
  rw [markDeleted] at marked
  split at marked
  · split at marked <;> cases marked
  obtain ⟨due, rest⟩ := guard_eq_ok.mp marked
  cases rest
  have past : state.deleteAfter ≤ time := by
    have due := not_not.mp due
    rw [deadlineElapsed, Bool.and_eq_true, decide_eq_true_eq] at due
    exact due.2
  refine ⟨sound.archive, ?_, sound.dependencies, sound.ascending⟩
  rintro (before | early | deletion)
  · exact sound.ordered (.inl before)
  · exact sound.ordered (.inr (.inl early))
  · exact UInt64.not_lt.mpr past (of_decide_eq_true deletion)

@[simp] theorem length_archiveMagic : magic.length = 8 := by simp [magic]

theorem length_content (state : ArchiveRetentionState) (total : Nat) :
    (state.content total).length = headerBytes + state.dependencies.length * 40 := by
  have rows := keyRow.length_table state.dependencies
  have width : keyRow.width = 40 := rfl
  rw [width] at rows
  simp [content, rows, headerBytes]
  omega

variable {state : ArchiveRetentionState} {file : List UInt8}

theorem file_of_encodeCheckpoint (written : state.encodeCheckpoint = .ok file) :
    ∃ total, total = headerBytes + state.dependencies.length * 40 + crcBytes ∧
      state.dependencies.length ≠ 0 ∧ state.dependencies.length ≤ maxDependencies ∧
      file = state.content total ++ u32Bytes (crc32c (state.content total)) := by
  obtain ⟨total, counted, rest⟩ := bind_eq_ok.mp written
  obtain ⟨some, few, rfl⟩ := encodedLength_eq_ok.mp counted
  exact ⟨_, rfl, some, few, (Except.ok.inj rest).symm⟩

/-- The fields of the file, each at its offset. -/
theorem slice_content (state : ArchiveRetentionState) (total : Nat) (rest : List UInt8) :
    let file := state.content total ++ rest
    slice file 16 48 = identityBytes state.archive ∧
    slice file 88 8 = timeBytes state.deletedAt ∧
    slice file 104 8 = replicate 8 0 ∧
    readU64 file 64 = state.verifiedAt ∧
    readU64 file 72 = state.acknowledgedAt ∧
    readU64 file 80 = state.deleteAfter ∧
    readU32 file 96 = deletionFlags state.deletedAt := by
  refine ⟨?_, ?_, ?_, ?_, ?_, ?_, ?_⟩ <;> simp [-reduceReplicate, content]

theorem words_content (state : ArchiveRetentionState) (total : Nat) (rest : List UInt8) :
    let file := state.content total ++ rest
    readU16 file 8 = version ∧ readU16 file 10 = UInt16.ofNat headerBytes ∧
    readU32 file 12 = UInt32.ofNat total ∧
    readU32 file 100 = UInt32.ofNat state.dependencies.length := by
  refine ⟨?_, ?_, ?_, ?_⟩ <;> simp [-reduceReplicate, content]

theorem drop_content (state : ArchiveRetentionState) (total : Nat) (rest : List UInt8) :
    (state.content total ++ rest).drop headerBytes = keyRow.table state.dependencies ++ rest := by
  simp [-reduceReplicate, content, headerBytes, drop_append, drop_of_length_le]

/-- A state that meets the checks is read back. -/
theorem readCheckpoint_encode (sound : state.Sound)
    (written : state.encodeCheckpoint = .ok file) : readCheckpoint file = .ok state := by
  obtain ⟨total, totalEq, nonempty, few, fileEq⟩ := file_of_encodeCheckpoint written
  rw [maxDependencies] at few
  rw [headerBytes, crcBytes] at totalEq
  obtain ⟨width, covered, checksum⟩ : file.length = total ∧
      file.take (total - crcBytes) = state.content total ∧
      readU32 file (total - crcBytes) = crc32c (state.content total) :=
    sealed fileEq (by rw [length_content, headerBytes, totalEq])
  obtain ⟨archive, deletion, reserved, verified, acknowledged, deadline, flags⟩ :=
    slice_content state total (u32Bytes (crc32c (state.content total)))
  obtain ⟨versionRead, headerRead, totalRead, countRead⟩ :=
    words_content state total (u32Bytes (crc32c (state.content total)))
  have table := drop_content state total (u32Bytes (crc32c (state.content total)))
  have magicRead : slice file 0 8 = magic := by
    rw [fileEq]
    rfl
  rw [← fileEq] at archive deletion reserved verified acknowledged deadline flags
  rw [← fileEq] at versionRead headerRead totalRead countRead table
  have totalNat := toNat_of_readU32 totalRead (by omega)
  have countNat := toNat_of_readU32 countRead (by omega)
  have rows : keyRow.readTable file headerBytes state.dependencies.length =
      state.dependencies := keyRow.readTable_eq _ table
  have counted : encodedLength state.dependencies.length = .ok total :=
    encodedLength_eq_ok.mpr ⟨nonempty, few, totalEq⟩
  have whole : decodeState file state.dependencies.length state.deletedAt = .ok state := by
    rw [decodeState, rows, verified, acknowledged, deadline, readIdentity_eq archive]
    refine (if_neg sound.archive).trans ((if_neg sound.ordered).trans ?_)
    refine check_eq_ok.mpr ⟨sound.dependencies, ?_⟩
    rw [sound.ascending]
    rfl
  have blank : ¬ (slice file 104 8).any (· != 0) := by
    rw [reserved]
    decide
  have rowWidth : keyRow.width = 40 := rfl
  have frame : ¬ (total < headerBytes + keyRow.width + crcBytes ∨
      total > headerBytes + maxDependencies * keyRow.width + crcBytes) := by
    rw [rowWidth, headerBytes, crcBytes, maxDependencies]
    omega
  have long : ¬ file.length < 16 := by omega
  have holdsOne : ¬ file.length < headerBytes + keyRow.width + crcBytes := by
    rw [width]
    exact fun short => frame (.inl short)
  have known : ¬ (deletionFlags state.deletedAt &&& ~~~knownFlags ≠ 0) :=
    not_not.mpr (deletionFlags_known _)
  rw [readCheckpoint, if_neg long, totalNat]
  simp only []
  rw [if_neg frame, if_neg (by omega), if_neg (not_not.mpr width), decodeCheckpoint,
    if_neg holdsOne, magicRead, versionRead, headerRead, totalNat, countNat, if_neg (by simp),
    if_neg (by simp), if_neg (by decide)]
  simp only []
  rw [if_neg (not_not.mpr width.symm), counted, ok_bind, if_neg (by simp), if_neg blank, covered,
    checksum, if_neg (by simp), flags, if_neg known, readDeletion_eq deletion, ok_bind, whole]

theorem archiveWidths_sum (rows : Nat) :
    8 + (2 + (2 + (4 + (48 + (8 + (8 + (8 + (8 + (4 + (4 + (8 + (rows + 0)))))))))))) =
      112 + rows + 4 - 4 := by
  omega

/-- The fields of an accepted file are its content. -/
theorem content_of_fields {deletedAt : Option TrustedUnixSeconds}
    (magicRead : slice file 0 8 = magic) (versionRead : readU16 file 8 = version)
    (header : readU16 file 10 = UInt16.ofNat headerBytes)
    (deletionField : timeBytes deletedAt = slice file 88 8)
    (flags : deletionFlags deletedAt = readU32 file 96)
    (blank : slice file 104 8 = replicate 8 0)
    (width : (readU32 file 12).toNat = file.length)
    (total : (readU32 file 12).toNat = 112 + (readU32 file 100).toNat * 40 + 4) :
    content ⟨readIdentity file 16, keyRow.readTable file headerBytes
      (readU32 file 100).toNat, readU64 file 64, readU64 file 72, readU64 file 80, deletedAt⟩
        (readU32 file 12).toNat = file.take ((readU32 file 12).toNat - crcBytes) := by
  have listed : (keyRow.readTable file headerBytes (readU32 file 100).toNat).length =
      (readU32 file 100).toNat := keyRow.length_readTable _ _ _
  have rowWidth : keyRow.width = 40 := rfl
  have table : keyRow.table (keyRow.readTable file headerBytes
      (readU32 file 100).toNat) = slice file 112 ((readU32 file 100).toNat * 40) :=
    keyRow.table_readTable (by rw [rowWidth, headerBytes]; omega)
  have ends : 8 + (2 + (2 + (4 + (48 + (8 + (8 + (8 + (8 + (4 + (4 + (8 +
      ((readU32 file 100).toNat * 40 + 0)))))))))))) = (readU32 file 12).toNat - crcBytes := by
    rw [total, crcBytes, archiveWidths_sum]
  have fieldsEq := fields_eq_slice file 0
    [8, 2, 2, 4, 48, 8, 8, 8, 8, 4, 4, 8, (readU32 file 100).toNat * 40]
  simp only [fields, Nat.reduceAdd, append_nil, sum_cons, sum_nil] at fieldsEq
  rw [content, listed, table, deletionField, flags, UInt32.ofNat_toNat, UInt32.ofNat_toNat,
    ← magicRead, ← versionRead, ← header, u16Bytes_readU16 (by omega),
    u16Bytes_readU16 (by omega), u32Bytes_readU32 (by omega), u32Bytes_readU32 (by omega),
    u32Bytes_readU32 (by omega), identityBytes_readIdentity (by omega),
    u64Bytes_readU64 (by omega), u64Bytes_readU64 (by omega), u64Bytes_readU64 (by omega),
    ← blank, fieldsEq, slice, drop_zero, ends]

theorem decodeCheckpoint_of_readCheckpoint (accepted : readCheckpoint file = .ok state) :
    decodeCheckpoint file = .ok state := by
  rw [readCheckpoint] at accepted
  obtain ⟨-, accepted⟩ := guard_eq_ok.mp accepted
  obtain ⟨-, accepted⟩ := guard_eq_ok.mp accepted
  obtain ⟨-, accepted⟩ := guard_eq_ok.mp accepted
  exact (guard_eq_ok.mp accepted).2

theorem encode_of_readCheckpoint (read : readCheckpoint file = .ok state) :
    state.Sound ∧ state.encodeCheckpoint = .ok file := by
  have accepted := decodeCheckpoint_of_readCheckpoint read
  rw [decodeCheckpoint] at accepted
  obtain ⟨-, accepted⟩ := guard_eq_ok.mp accepted
  obtain ⟨magicRead, accepted⟩ := guard_eq_ok.mp accepted
  obtain ⟨versionRead, accepted⟩ := guard_eq_ok.mp accepted
  obtain ⟨headerRead, accepted⟩ := guard_eq_ok.mp accepted
  obtain ⟨width, accepted⟩ := guard_eq_ok.mp accepted
  obtain ⟨expected, counted, accepted⟩ := bind_eq_ok.mp accepted
  obtain ⟨total, accepted⟩ := guard_eq_ok.mp accepted
  obtain ⟨reserved, accepted⟩ := guard_eq_ok.mp accepted
  obtain ⟨checksum, accepted⟩ := guard_eq_ok.mp accepted
  obtain ⟨known, accepted⟩ := guard_eq_ok.mp accepted
  obtain ⟨deletedAt, deletion, accepted⟩ := bind_eq_ok.mp accepted
  rw [decodeState] at accepted
  obtain ⟨archive, accepted⟩ := guard_eq_ok.mp accepted
  obtain ⟨ordered, accepted⟩ := guard_eq_ok.mp accepted
  obtain ⟨dependencies, accepted⟩ := check_eq_ok.mp accepted
  obtain ⟨ascends, accepted⟩ := guard_eq_ok.mp accepted
  cases accepted
  refine ⟨⟨archive, ordered, dependencies, by simpa using ascends⟩, ?_⟩
  obtain ⟨some, few, lengthEq⟩ := encodedLength_eq_ok.mp counted
  have width := not_not.mp width
  have total := (not_not.mp total).trans lengthEq
  rw [headerBytes, crcBytes] at total
  have listed : (keyRow.readTable file headerBytes (readU32 file 100).toNat).length =
      (readU32 file 100).toNat := keyRow.length_readTable _ _ _
  obtain ⟨deletionField, flags⟩ :=
    timeBytes_of_readDeletion (by omega) (not_not.mp known) deletion
  have blank : slice file 104 8 = replicate 8 0 :=
    eq_replicate_of_not_any reserved (length_slice (by omega))
  have header : readU16 file 10 = UInt16.ofNat headerBytes :=
    UInt16.toNat_inj.mp (not_not.mp headerRead)
  have covered := content_of_fields (not_not.mp magicRead) (not_not.mp versionRead) header
    deletionField flags blank width total
  refine bind_eq_ok.mpr ⟨(readU32 file 12).toNat, ?_, congrArg Except.ok ?_⟩
  · rw [listed, counted, lengthEq, total, headerBytes, crcBytes]
  · rw [covered, not_not.mp checksum, u32Bytes_readU32 (by rw [crcBytes]; omega)]
    exact take_append_slice (by rw [crcBytes]; omega)

theorem markDeleted_settles (marked : markDeleted time state = .ok (next, true)) :
    Checkpoint.Settled (markDeleted time) next := by
  rw [markDeleted] at marked
  split at marked
  · split at marked <;> cases marked
  obtain ⟨-, rest⟩ := guard_eq_ok.mp marked
  cases rest
  exact ⟨_, if_pos rfl⟩

/-- Once a deletion is recorded no call changes the state. -/
theorem settled_lasts {other : TrustedUnixSeconds}
    (changes : markDeleted other state = .ok (next, true))
    (settled : Checkpoint.Settled (markDeleted time) state) :
    Checkpoint.Settled (markDeleted time) next := by
  obtain ⟨same, unchanged⟩ := settled
  rw [markDeleted] at changes unchanged
  cases recorded : state.deletedAt with
  | some existing =>
    rw [recorded] at changes
    dsimp only at changes
    split at changes <;> cases changes
  | none =>
    rw [recorded] at unchanged
    obtain ⟨-, rest⟩ := guard_eq_ok.mp unchanged
    cases rest

end SensorSystem.Host.ArchiveRetentionState

namespace SensorSystem.Host.ArchiveRetentionCheckpointStore

open ArchiveRetentionState
open Base

/-- A store that was created, or opened from a file. -/
inductive Started (store : ArchiveRetentionCheckpointStore) : Prop where
  | created (existing : Option (List UInt8)) (index : ArchiveCoverageIndex)
      (verifiedAt acknowledgedAt : TrustedUnixSeconds) (policy : RetentionPolicy)
      (created : create existing index verifiedAt acknowledgedAt policy = .ok store)
  | opened (file : List UInt8) (opened : openFile file = .ok store)

variable {store : ArchiveRetentionCheckpointStore}

theorem Started.sound (started : store.Started) :
    Checkpoint.Stored format store ∧ store.state.Sound := by
  cases started with
  | opened file opened =>
    obtain ⟨rfl, read⟩ := Checkpoint.openFile_eq_ok.mp opened
    exact (encode_of_readCheckpoint read).symm
  | created existing index verifiedAt acknowledgedAt policy created =>
    obtain ⟨state, made, rest⟩ := bind_eq_ok.mp created
    exact Checkpoint.sound_of_createNew (fun _ _ => encode_of_readCheckpoint)
      (sound_of_fromVerifiedReplication made) rest

def run (store : ArchiveRetentionCheckpointStore) (times : List TrustedUnixSeconds) :
    ArchiveRetentionCheckpointStore :=
  Checkpoint.run format ArchiveRetentionState.markDeleted store times

/-- The file can be opened and gives the state in memory. -/
def ReadsBack (store : ArchiveRetentionCheckpointStore) : Prop :=
  Checkpoint.ReadsBack format store

theorem run_readsBack (started : store.Started) (times : List TrustedUnixSeconds) :
    (store.run times).ReadsBack := by
  obtain ⟨stored, sound⟩ := started.sound
  have later : (store.run times).state.Sound := Checkpoint.run_keeps
    (fun _ _ _ marked sound => sound_of_markDeleted sound marked) sound
  exact readCheckpoint_encode later (stored.run times)

end SensorSystem.Host.ArchiveRetentionCheckpointStore
