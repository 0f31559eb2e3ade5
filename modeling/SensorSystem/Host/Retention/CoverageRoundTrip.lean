import SensorSystem.Host.Retention.CoverageCheckpoint
import SensorSystem.Host.Retention.RetentionRuns

/-! Every state of the store meets the checks of the decoder, so that its file is read back, and
an accepted file is the encoding of the state it decodes to. -/

namespace SensorSystem.Host.CaptureCoverageState

open List Base
open Framing (crc32c)

/-- The checks of the decoder on a state. -/
structure Sound (state : CaptureCoverageState) : Prop where
  segment : validateSegment state.segment = .ok ()
  ordered : ¬ (state.deleteAfter ≤ state.fullyReplicatedAt ∨
    state.deletedAt.any (· < state.deleteAfter))
  products : validateProducts state.archiveProducts = .ok ()

theorem encodedLength_eq_ok {count length : Nat} : encodedLength count = .ok length ↔
    count ≠ 0 ∧ count ≤ maxProducts ∧ length = headerBytes + count * 48 + crcBytes := by
  rw [encodedLength, guard_eq_ok, not_or, Nat.not_lt, Except.ok.injEq, and_assoc]
  exact and_congr_right fun _ => and_congr_right fun _ => eq_comm

theorem sound_of_fromProof {proof : CaptureCoverageProof} {policy : RetentionPolicy}
    {state : CaptureCoverageState} (made : fromProof proof policy = .ok state) : state.Sound := by
  obtain ⟨segment, rest⟩ := check_eq_ok.mp made
  obtain ⟨products, rest⟩ := check_eq_ok.mp rest
  obtain ⟨grace, rest⟩ := guard_eq_ok.mp rest
  split at rest
  · cases rest
  rename_i deleteAfter added
  cases rest
  refine ⟨segment, ?_, products⟩
  have sum : addDuration proof.fullyReplicatedAt policy.captureGraceSeconds =
      .ok deleteAfter := by
    rw [addDuration, if_neg grace, added]
  have later : proof.fullyReplicatedAt < deleteAfter := RetentionState.lt_of_addDuration sum
  simpa using later

variable {next : CaptureCoverageState} {time : TrustedUnixSeconds}

theorem sound_of_markDeleted {state : CaptureCoverageState} (sound : state.Sound)
    (marked : markDeleted time state = .ok (next, true)) : next.Sound := by
  rw [markDeleted] at marked
  split at marked
  · split at marked <;> cases marked
  obtain ⟨due, rest⟩ := guard_eq_ok.mp marked
  cases rest
  have past : state.deleteAfter ≤ time := by
    have due := not_not.mp due
    rw [deletable, Bool.and_eq_true, decide_eq_true_eq] at due
    exact due.2
  refine ⟨sound.segment, ?_, sound.products⟩
  rintro (early | before)
  · exact sound.ordered (.inl early)
  · exact UInt64.not_lt.mpr past (of_decide_eq_true before)

@[simp] theorem length_coverageMagic : magic.length = 8 := by simp [magic]

theorem length_content (state : CaptureCoverageState) (total : Nat) :
    (state.content total).length = headerBytes + state.archiveProducts.length * 48 := by
  have rows := identityRow.length_table state.archiveProducts
  have width : identityRow.width = 48 := rfl
  rw [width] at rows
  simp [content, rows, headerBytes]
  omega

variable {state : CaptureCoverageState} {file : List UInt8}

theorem file_of_encodeCheckpoint (written : state.encodeCheckpoint = .ok file) :
    ∃ total, total = headerBytes + state.archiveProducts.length * 48 + crcBytes ∧
      state.archiveProducts.length ≠ 0 ∧ state.archiveProducts.length ≤ maxProducts ∧
      file = state.content total ++ u32Bytes (crc32c (state.content total)) := by
  obtain ⟨total, counted, rest⟩ := bind_eq_ok.mp written
  obtain ⟨some, few, rfl⟩ := encodedLength_eq_ok.mp counted
  exact ⟨_, rfl, some, few, (Except.ok.inj rest).symm⟩

/-- The fields of the file, each at its offset. -/
theorem slice_content (state : CaptureCoverageState) (total : Nat) (rest : List UInt8) :
    let file := state.content total ++ rest
    slice file 16 40 = keyBytes state.segment ∧
    slice file 72 8 = timeBytes state.deletedAt ∧
    slice file 88 8 = replicate 8 0 ∧
    readU64 file 56 = state.fullyReplicatedAt ∧
    readU64 file 64 = state.deleteAfter ∧
    readU32 file 80 = deletionFlags state.deletedAt := by
  refine ⟨?_, ?_, ?_, ?_, ?_, ?_⟩ <;> simp [-reduceReplicate, content]

theorem words_content (state : CaptureCoverageState) (total : Nat) (rest : List UInt8) :
    let file := state.content total ++ rest
    readU16 file 8 = version ∧ readU16 file 10 = UInt16.ofNat headerBytes ∧
    readU32 file 12 = UInt32.ofNat total ∧
    readU32 file 84 = UInt32.ofNat state.archiveProducts.length := by
  refine ⟨?_, ?_, ?_, ?_⟩ <;> simp [-reduceReplicate, content]

theorem drop_content (state : CaptureCoverageState) (total : Nat) (rest : List UInt8) :
    (state.content total ++ rest).drop headerBytes =
      identityRow.table state.archiveProducts ++ rest := by
  simp [-reduceReplicate, content, headerBytes, drop_append, drop_of_length_le]

/-- A state that meets the checks is read back. -/
theorem readCheckpoint_encode (sound : state.Sound)
    (written : state.encodeCheckpoint = .ok file) : readCheckpoint file = .ok state := by
  obtain ⟨total, totalEq, nonempty, few, fileEq⟩ := file_of_encodeCheckpoint written
  rw [maxProducts] at few
  rw [headerBytes, crcBytes] at totalEq
  obtain ⟨width, covered, checksum⟩ : file.length = total ∧
      file.take (total - crcBytes) = state.content total ∧
      readU32 file (total - crcBytes) = crc32c (state.content total) :=
    sealed fileEq (by rw [length_content, headerBytes, totalEq])
  obtain ⟨key, deletion, reserved, replicated, deadline, flags⟩ :=
    slice_content state total (u32Bytes (crc32c (state.content total)))
  obtain ⟨versionRead, headerRead, totalRead, countRead⟩ :=
    words_content state total (u32Bytes (crc32c (state.content total)))
  have table := drop_content state total (u32Bytes (crc32c (state.content total)))
  have magicRead : slice file 0 8 = magic := by
    rw [fileEq]
    rfl
  rw [← fileEq] at key deletion reserved replicated deadline flags
  rw [← fileEq] at versionRead headerRead totalRead countRead table
  have totalNat := toNat_of_readU32 totalRead (by omega)
  have countNat := toNat_of_readU32 countRead (by omega)
  have rows : identityRow.readTable file headerBytes state.archiveProducts.length =
      state.archiveProducts := identityRow.readTable_eq _ table
  have counted : encodedLength state.archiveProducts.length = .ok total :=
    encodedLength_eq_ok.mpr ⟨nonempty, few, totalEq⟩
  have whole : decodeState file state.archiveProducts.length state.deletedAt = .ok state := by
    rw [decodeState, rows, replicated, deadline, readKey_eq key]
    refine check_eq_ok.mpr ⟨sound.segment, (if_neg sound.ordered).trans ?_⟩
    exact check_eq_ok.mpr ⟨sound.products, rfl⟩
  have blank : ¬ (slice file 88 8).any (· != 0) := by
    rw [reserved]
    decide
  have frame : ¬ (total < headerBytes + identityRow.width + crcBytes ∨
      total > headerBytes + maxProducts * identityRow.width + crcBytes) := by
    have rowWidth : identityRow.width = 48 := rfl
    rw [rowWidth, headerBytes, crcBytes, maxProducts]
    omega
  have long : ¬ file.length < 16 := by omega
  have known : ¬ (deletionFlags state.deletedAt &&& ~~~knownFlags ≠ 0) :=
    not_not.mpr (deletionFlags_known _)
  rw [readCheckpoint, if_neg long, magicRead, totalNat, if_neg (by simp)]
  simp only []
  rw [if_neg frame, if_neg (by omega), if_neg (not_not.mpr width), decodeCheckpoint, magicRead,
    versionRead, headerRead, totalNat, countNat, if_neg (by simp), if_neg (by simp),
    if_neg (by decide)]
  simp only []
  rw [if_neg (not_not.mpr width.symm), counted, ok_bind, if_neg (by simp), covered, checksum,
    if_neg (by simp), if_neg blank, flags, if_neg known, readDeletion_eq deletion, ok_bind, whole]

theorem widths_sum (rows : Nat) :
    8 + (2 + (2 + (4 + (40 + (8 + (8 + (8 + (4 + (4 + (8 + (rows + 0))))))))))) =
      96 + rows + 4 - 4 := by
  omega

/-- The fields of an accepted file are its content. -/
theorem content_of_fields {deletedAt : Option TrustedUnixSeconds}
    (magicRead : slice file 0 8 = magic) (versionRead : readU16 file 8 = version)
    (header : readU16 file 10 = UInt16.ofNat headerBytes)
    (deletionField : timeBytes deletedAt = slice file 72 8)
    (flags : deletionFlags deletedAt = readU32 file 80)
    (blank : slice file 88 8 = replicate 8 0) (width : (readU32 file 12).toNat = file.length)
    (total : (readU32 file 12).toNat = 96 + (readU32 file 84).toNat * 48 + 4) :
    content ⟨readKey file 16, identityRow.readTable file headerBytes
      (readU32 file 84).toNat, readU64 file 56, readU64 file 64, deletedAt⟩
        (readU32 file 12).toNat = file.take ((readU32 file 12).toNat - crcBytes) := by
  have listed : (identityRow.readTable file headerBytes (readU32 file 84).toNat).length =
      (readU32 file 84).toNat := identityRow.length_readTable _ _ _
  have rowWidth : identityRow.width = 48 := rfl
  have table : identityRow.table (identityRow.readTable file headerBytes
      (readU32 file 84).toNat) = slice file 96 ((readU32 file 84).toNat * 48) :=
    identityRow.table_readTable (by rw [rowWidth, headerBytes]; omega)
  have ends : 8 + (2 + (2 + (4 + (40 + (8 + (8 + (8 + (4 + (4 + (8 +
      ((readU32 file 84).toNat * 48 + 0))))))))))) = (readU32 file 12).toNat - crcBytes := by
    rw [total, crcBytes, widths_sum]
  have fieldsEq := fields_eq_slice file 0
    [8, 2, 2, 4, 40, 8, 8, 8, 4, 4, 8, (readU32 file 84).toNat * 48]
  simp only [fields, Nat.reduceAdd, append_nil, sum_cons, sum_nil] at fieldsEq
  rw [content, listed, table, deletionField, flags, UInt32.ofNat_toNat, UInt32.ofNat_toNat,
    ← magicRead, ← versionRead, ← header, u16Bytes_readU16 (by omega),
    u16Bytes_readU16 (by omega), u32Bytes_readU32 (by omega), u32Bytes_readU32 (by omega),
    u32Bytes_readU32 (by omega), keyBytes_readKey (by omega), u64Bytes_readU64 (by omega),
    u64Bytes_readU64 (by omega), ← blank, fieldsEq, slice, drop_zero, ends]

theorem decodeCheckpoint_of_readCheckpoint (accepted : readCheckpoint file = .ok state) :
    decodeCheckpoint file = .ok state := by
  rw [readCheckpoint] at accepted
  obtain ⟨-, accepted⟩ := guard_eq_ok.mp accepted
  obtain ⟨-, accepted⟩ := guard_eq_ok.mp accepted
  obtain ⟨-, accepted⟩ := guard_eq_ok.mp accepted
  obtain ⟨-, accepted⟩ := guard_eq_ok.mp accepted
  exact (guard_eq_ok.mp accepted).2

theorem encode_of_readCheckpoint (read : readCheckpoint file = .ok state) :
    state.Sound ∧ state.encodeCheckpoint = .ok file := by
  have accepted := decodeCheckpoint_of_readCheckpoint read
  rw [decodeCheckpoint] at accepted
  obtain ⟨magicRead, accepted⟩ := guard_eq_ok.mp accepted
  obtain ⟨versionRead, accepted⟩ := guard_eq_ok.mp accepted
  obtain ⟨headerRead, accepted⟩ := guard_eq_ok.mp accepted
  obtain ⟨width, accepted⟩ := guard_eq_ok.mp accepted
  obtain ⟨expected, counted, accepted⟩ := bind_eq_ok.mp accepted
  obtain ⟨total, accepted⟩ := guard_eq_ok.mp accepted
  obtain ⟨checksum, accepted⟩ := guard_eq_ok.mp accepted
  obtain ⟨reserved, accepted⟩ := guard_eq_ok.mp accepted
  obtain ⟨known, accepted⟩ := guard_eq_ok.mp accepted
  obtain ⟨deletedAt, deletion, accepted⟩ := bind_eq_ok.mp accepted
  obtain ⟨segment, accepted⟩ := check_eq_ok.mp accepted
  obtain ⟨ordered, accepted⟩ := guard_eq_ok.mp accepted
  obtain ⟨products, accepted⟩ := check_eq_ok.mp accepted
  cases accepted
  refine ⟨⟨segment, ordered, products⟩, ?_⟩
  obtain ⟨some, few, lengthEq⟩ := encodedLength_eq_ok.mp counted
  have width := not_not.mp width
  have total := (not_not.mp total).trans lengthEq
  rw [headerBytes, crcBytes] at total
  have listed : (identityRow.readTable file headerBytes (readU32 file 84).toNat).length =
      (readU32 file 84).toNat := identityRow.length_readTable _ _ _
  obtain ⟨deletionField, flags⟩ :=
    timeBytes_of_readDeletion (by omega) (not_not.mp known) deletion
  have blank : slice file 88 8 = replicate 8 0 :=
    eq_replicate_of_not_any reserved (length_slice (by omega))
  have header : readU16 file 10 = UInt16.ofNat headerBytes :=
    UInt16.toNat_inj.mp (not_not.mp headerRead)
  have covered := content_of_fields (not_not.mp magicRead) (not_not.mp versionRead) header
    deletionField flags blank width total
  refine bind_eq_ok.mpr ⟨(readU32 file 12).toNat, ?_, congrArg Except.ok ?_⟩
  · rw [listed, counted, lengthEq, total, headerBytes, crcBytes]
  · rw [covered, not_not.mp checksum, u32Bytes_readU32 (by rw [crcBytes]; omega)]
    exact take_append_slice (by rw [crcBytes]; omega)

theorem markDeleted_settles (marked : markDeleted time state = .ok (next, true)) :
    Checkpoint.Settled (markDeleted time) next := by
  rw [markDeleted] at marked
  split at marked
  · split at marked <;> cases marked
  obtain ⟨-, rest⟩ := guard_eq_ok.mp marked
  cases rest
  exact ⟨_, if_pos rfl⟩

/-- Once a deletion is recorded no call changes the state. -/
theorem settled_lasts {other : TrustedUnixSeconds}
    (changes : markDeleted other state = .ok (next, true))
    (settled : Checkpoint.Settled (markDeleted time) state) :
    Checkpoint.Settled (markDeleted time) next := by
  obtain ⟨same, unchanged⟩ := settled
  rw [markDeleted] at changes unchanged
  cases recorded : state.deletedAt with
  | some existing =>
    rw [recorded] at changes
    dsimp only at changes
    split at changes <;> cases changes
  | none =>
    rw [recorded] at unchanged
    obtain ⟨-, rest⟩ := guard_eq_ok.mp unchanged
    cases rest

end SensorSystem.Host.CaptureCoverageState

namespace SensorSystem.Host.CaptureCoverageCheckpointStore

open CaptureCoverageState
open Base

/-- A store that was created, or opened from a file. -/
inductive Started (store : CaptureCoverageCheckpointStore) : Prop where
  | created (existing : Option (List UInt8)) (proof : CaptureCoverageProof)
      (policy : RetentionPolicy) (created : create existing proof policy = .ok store)
  | opened (file : List UInt8) (opened : openFile file = .ok store)

variable {store : CaptureCoverageCheckpointStore}

theorem Started.sound (started : store.Started) :
    Checkpoint.Stored format store ∧ store.state.Sound := by
  cases started with
  | opened file opened =>
    obtain ⟨rfl, read⟩ := Checkpoint.openFile_eq_ok.mp opened
    exact (encode_of_readCheckpoint read).symm
  | created existing proof policy created =>
    obtain ⟨state, made, rest⟩ := bind_eq_ok.mp created
    exact Checkpoint.sound_of_createNew (fun _ _ => encode_of_readCheckpoint)
      (sound_of_fromProof made) rest

def run (store : CaptureCoverageCheckpointStore) (times : List TrustedUnixSeconds) :
    CaptureCoverageCheckpointStore :=
  Checkpoint.run format CaptureCoverageState.markDeleted store times

/-- The file can be opened and gives the state in memory. -/
def ReadsBack (store : CaptureCoverageCheckpointStore) : Prop :=
  Checkpoint.ReadsBack format store

theorem run_readsBack (started : store.Started) (times : List TrustedUnixSeconds) :
    (store.run times).ReadsBack := by
  obtain ⟨stored, sound⟩ := started.sound
  have later : (store.run times).state.Sound := Checkpoint.run_keeps
    (fun _ _ _ marked sound => sound_of_markDeleted sound marked) sound
  exact readCheckpoint_encode later (stored.run times)

end SensorSystem.Host.CaptureCoverageCheckpointStore
