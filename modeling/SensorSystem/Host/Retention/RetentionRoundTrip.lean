import SensorSystem.Host.Retention.RetentionCheckpoint

/-! A file that is accepted is the encoding of the state it decodes to, and a state is read back
from its encoding exactly when its event times meet the checks of the decoder. -/

namespace SensorSystem.Host.RetentionState

open List Base
open Framing (crc32c)

theorem flagsOf_known : ∀ bound verified acknowledged capture archive,
    flagsOf bound verified acknowledged capture archive &&& ~~~knownFlags = 0 := by
  decide

theorem flagsOf_bits : ∀ bound verified acknowledged capture archive,
    (flagsOf bound verified acknowledged capture archive &&& archiveBound ≠ 0 ↔ bound) ∧
    (flagsOf bound verified acknowledged capture archive &&& archiveVerified ≠ 0 ↔ verified) ∧
    (flagsOf bound verified acknowledged capture archive &&& replicationAcknowledged ≠ 0 ↔
      acknowledged) ∧
    (flagsOf bound verified acknowledged capture archive &&& captureDeleted ≠ 0 ↔ capture) ∧
    (flagsOf bound verified acknowledged capture archive &&& archiveDeleted ≠ 0 ↔ archive) := by
  decide

theorem flags_bits (state : RetentionState) :
    (state.flags &&& archiveBound ≠ 0 ↔ state.archive.isSome) ∧
    (state.flags &&& archiveVerified ≠ 0 ↔ state.archiveVerifiedAt.isSome) ∧
    (state.flags &&& replicationAcknowledged ≠ 0 ↔ state.replicationAcknowledgedAt.isSome) ∧
    (state.flags &&& captureDeleted ≠ 0 ↔ state.captureDeletedAt.isSome) ∧
    (state.flags &&& archiveDeleted ≠ 0 ↔ state.archiveDeletedAt.isSome) :=
  flagsOf_bits _ _ _ _ _

variable {flags : UInt16} {bytes : List UInt8}

/-- Known flags are the flags of their events. -/
theorem flagsOf_of_known (known : flags &&& ~~~knownFlags = 0) :
    flagsOf (flags &&& archiveBound ≠ 0) (flags &&& archiveVerified ≠ 0)
      (flags &&& replicationAcknowledged ≠ 0) (flags &&& captureDeleted ≠ 0)
        (flags &&& archiveDeleted ≠ 0) = flags := by
  have small : flags.toNat < 2 ^ 5 := toNat_lt_of_and_not (congrArg UInt16.toBitVec known)
  have all : ∀ low : Fin 32,
      flagsOf (UInt16.ofNat low &&& archiveBound ≠ 0) (UInt16.ofNat low &&& archiveVerified ≠ 0)
        (UInt16.ofNat low &&& replicationAcknowledged ≠ 0)
          (UInt16.ofNat low &&& captureDeleted ≠ 0) (UInt16.ofNat low &&& archiveDeleted ≠ 0) =
        UInt16.ofNat low := by
    decide
  have here := all ⟨flags.toNat, small⟩
  rwa [UInt16.ofNat_toNat] at here

/-- The checks of the decoder on a state. -/
structure Readable (state : RetentionState) : Prop where
  key : ¬ (state.key.bootEpoch = 0 ∨ state.key.endExclusive ≤ state.key.firstCursor)
  valid : validateDecodedState state = .ok ()

/-- What the checks say about the events. -/
structure Ordered (state : RetentionState) : Prop where
  identity : ∀ archive, state.archive = some archive → ¬ archive.IsZero
  unbound : state.archive = none →
    state.archiveVerifiedAt = none ∧ state.replicationAcknowledgedAt = none ∧
      state.captureDeletedAt = none ∧ state.archiveDeletedAt = none
  verified : ∀ time, state.archiveVerifiedAt = some time → state.validatedAt ≤ time
  acknowledged : ∀ time, state.replicationAcknowledgedAt = some time →
    ∃ verified capture archive, state.archiveVerifiedAt = some verified ∧ verified ≤ time ∧
      state.captureDeleteAfter = some capture ∧ state.archiveDeleteAfter = some archive ∧
        time < capture ∧ time < archive
  unacknowledged : state.replicationAcknowledgedAt = none →
    state.captureDeleteAfter = none ∧ state.archiveDeleteAfter = none ∧
      state.captureDeletedAt = none ∧ state.archiveDeletedAt = none
  capture : ∀ time, state.captureDeletedAt = some time →
    ∃ deadline, state.captureDeleteAfter = some deadline ∧ deadline ≤ time
  archive : ∀ time, state.archiveDeletedAt = some time →
    ∃ deleted deadline, state.captureDeletedAt = some deleted ∧
      state.archiveDeleteAfter = some deadline ∧ deadline ≤ time ∧ deleted ≤ time

theorem requireNotBefore_eq_ok {value bound : TrustedUnixSeconds} :
    requireNotBefore value bound = .ok () ↔ bound ≤ value := by
  rw [requireNotBefore, guard_eq_ok, UInt64.not_lt]
  simp

theorem checkArchiveIdentity_eq_ok {archive : ArchiveIdentity} :
    checkArchiveIdentity archive = .ok () ↔ ¬ archive.IsZero := by
  rw [checkArchiveIdentity, guard_eq_ok]
  simp

variable {state : RetentionState}

theorem checkArchive_eq_ok : checkArchive state = .ok () ↔
    (∀ archive, state.archive = some archive → ¬ archive.IsZero) ∧
    (state.archive = none → state.archiveVerifiedAt = none ∧
      state.replicationAcknowledgedAt = none ∧ state.captureDeletedAt = none ∧
        state.archiveDeletedAt = none) := by
  unfold checkArchive
  cases state.archive with
  | none => simp
  | some archive => simp [checkArchiveIdentity_eq_ok]

theorem checkVerified_eq_ok : checkVerified state = .ok () ↔
    ∀ time, state.archiveVerifiedAt = some time → state.validatedAt ≤ time := by
  unfold checkVerified
  cases state.archiveVerifiedAt with
  | none => simp
  | some time => simp [requireNotBefore_eq_ok]

theorem checkAcknowledged_eq_ok : checkAcknowledged state = .ok () ↔
    (∀ time, state.replicationAcknowledgedAt = some time →
      ∃ verified capture archive, state.archiveVerifiedAt = some verified ∧ verified ≤ time ∧
        state.captureDeleteAfter = some capture ∧ state.archiveDeleteAfter = some archive ∧
          time < capture ∧ time < archive) ∧
    (state.replicationAcknowledgedAt = none → state.captureDeleteAfter = none ∧
      state.archiveDeleteAfter = none ∧ state.captureDeletedAt = none ∧
        state.archiveDeletedAt = none) := by
  unfold checkAcknowledged
  cases state.replicationAcknowledgedAt with
  | none => simp
  | some time =>
    cases state.archiveVerifiedAt with
    | none => simp
    | some verified =>
      cases state.captureDeleteAfter <;> cases state.archiveDeleteAfter <;>
        simp [check_eq_ok, requireNotBefore_eq_ok]

theorem checkCaptureDeleted_eq_ok : checkCaptureDeleted state = .ok () ↔
    ∀ time, state.captureDeletedAt = some time →
      ∃ deadline, state.captureDeleteAfter = some deadline ∧ deadline ≤ time := by
  unfold checkCaptureDeleted
  cases state.captureDeletedAt with
  | none => simp
  | some time => cases state.captureDeleteAfter <;> simp [requireNotBefore_eq_ok]

theorem checkArchiveDeleted_eq_ok : checkArchiveDeleted state = .ok () ↔
    ∀ time, state.archiveDeletedAt = some time →
      ∃ deleted deadline, state.captureDeletedAt = some deleted ∧
        state.archiveDeleteAfter = some deadline ∧ deadline ≤ time ∧ deleted ≤ time := by
  unfold checkArchiveDeleted
  cases state.archiveDeletedAt with
  | none => simp
  | some time =>
    cases state.captureDeletedAt <;> cases state.archiveDeleteAfter <;>
      simp [check_eq_ok, requireNotBefore_eq_ok]

theorem validateDecodedState_eq_ok : validateDecodedState state = .ok () ↔ state.Ordered := by
  simp only [validateDecodedState, check_eq_ok, checkArchive_eq_ok, checkVerified_eq_ok,
    checkAcknowledged_eq_ok, checkCaptureDeleted_eq_ok, checkArchiveDeleted_eq_ok]
  constructor
  · rintro ⟨⟨identity, unbound⟩, verified, ⟨acknowledged, unacknowledged⟩, capture, archive⟩
    exact ⟨identity, unbound, verified, acknowledged, unacknowledged, capture, archive⟩
  · intro ordered
    exact ⟨⟨ordered.identity, ordered.unbound⟩, ordered.verified,
      ⟨ordered.acknowledged, ordered.unacknowledged⟩, ordered.capture, ordered.archive⟩

@[simp] theorem length_magic : magic.length = 8 := by simp [magic]

@[simp] theorem length_deadlineBytes (acknowledged deadline : Option TrustedUnixSeconds) :
    (deadlineBytes acknowledged deadline).length = 8 := by
  unfold deadlineBytes
  split <;> simp

@[simp] theorem length_archiveBytes (archive : Option ArchiveIdentity) :
    (archiveBytes archive).length = 48 := by
  cases archive <;> simp [archiveBytes]

variable (state)

theorem length_content : (content state).length = crcOffset := by
  simp [content, crcOffset, checkpointBytes]

theorem length_encodeCheckpoint :
    state.encodeCheckpoint.length = checkpointBytes := by
  rw [encodeCheckpoint, length_append, length_content, length_u32Bytes]
  rfl

/-- The fields of the file, each at its offset. -/
theorem slice_encodeCheckpoint :
    slice state.encodeCheckpoint 12 40 = keyBytes state.key ∧
    slice state.encodeCheckpoint 52 8 = u64Bytes state.validatedAt ∧
    slice state.encodeCheckpoint 62 2 = replicate 2 0 ∧
    slice state.encodeCheckpoint 64 48 = archiveBytes state.archive ∧
    slice state.encodeCheckpoint 112 8 = timeBytes state.archiveVerifiedAt ∧
    slice state.encodeCheckpoint 120 8 = timeBytes state.replicationAcknowledgedAt ∧
    slice state.encodeCheckpoint 144 8 = timeBytes state.captureDeletedAt ∧
    slice state.encodeCheckpoint 152 8 = timeBytes state.archiveDeletedAt ∧
    slice state.encodeCheckpoint 160 12 = replicate 12 0 := by
  refine ⟨?_, ?_, ?_, ?_, ?_, ?_, ?_, ?_, ?_⟩ <;>
    simp [-reduceReplicate, encodeCheckpoint, content]

theorem slice_deadlines : slice state.encodeCheckpoint 128 8 =
      deadlineBytes state.replicationAcknowledgedAt state.captureDeleteAfter ∧
    slice state.encodeCheckpoint 136 8 =
      deadlineBytes state.replicationAcknowledgedAt state.archiveDeleteAfter ∧
    slice state.encodeCheckpoint 128 16 =
      deadlineBytes state.replicationAcknowledgedAt state.captureDeleteAfter ++
        deadlineBytes state.replicationAcknowledgedAt state.archiveDeleteAfter := by
  have first : slice state.encodeCheckpoint 128 8 =
      deadlineBytes state.replicationAcknowledgedAt state.captureDeleteAfter := by
    simp [-reduceReplicate, encodeCheckpoint, content]
  have second : slice state.encodeCheckpoint 136 8 =
      deadlineBytes state.replicationAcknowledgedAt state.archiveDeleteAfter := by
    simp [-reduceReplicate, encodeCheckpoint, content]
  refine ⟨first, second, ?_⟩
  rw [← first, ← second]
  have both := fields_eq_slice state.encodeCheckpoint 128 [8, 8]
  simpa only [fields, append_nil, sum_cons, sum_nil, Nat.reduceAdd] using both.symm

theorem readU16_encodeCheckpoint :
    readU16 state.encodeCheckpoint 8 = version ∧
    readU16 state.encodeCheckpoint 10 = UInt16.ofNat checkpointBytes ∧
    readU16 state.encodeCheckpoint 60 = state.flags := by
  refine ⟨?_, ?_, ?_⟩ <;> simp [-reduceReplicate, encodeCheckpoint, content]

variable {state}

theorem requireZero_eq_ok {start stop : Nat} :
    requireZero bytes start stop = .ok () ↔ ¬ (slice bytes start (stop - start)).any (· != 0) := by
  rw [requireZero, guard_eq_ok]
  exact and_iff_left rfl

variable {time : Option TrustedUnixSeconds} {archive : Option ArchiveIdentity}

theorem optionalTime_eq {offset : Nat} {flag : UInt16}
    (held : slice bytes offset 8 = timeBytes time) (told : flags &&& flag ≠ 0 ↔ time.isSome) :
    optionalTime bytes offset flags flag = .ok time := by
  rw [optionalTime]
  cases time with
  | none =>
    have zeros : requireZero bytes offset (offset + 8) = .ok () := by
      rw [requireZero_eq_ok, Nat.add_sub_cancel_left, held]
      decide
    rw [if_neg (by simpa using told), zeros, ok_bind]
  | some time => rw [if_pos (told.mpr rfl), readU64_eq held, Option.getD_some]

theorem decodeArchive_eq (held : slice bytes 64 48 = archiveBytes archive)
    (told : flags &&& archiveBound ≠ 0 ↔ archive.isSome) :
    decodeArchive bytes flags = .ok archive := by
  rw [decodeArchive]
  cases archive with
  | none =>
    have zeros : requireZero bytes 64 112 = .ok () := by
      rw [requireZero_eq_ok, held]
      decide
    rw [if_neg (by simpa using told), zeros, ok_bind]
  | some archive => rw [if_pos (told.mpr rfl), readIdentity_eq held]

theorem decodeDeadlines_eq (ordered : state.Ordered) :
    decodeCaptureDeadline state.encodeCheckpoint state.replicationAcknowledgedAt =
      .ok state.captureDeleteAfter ∧
    (state.replicationAcknowledgedAt.map fun _ => readU64 state.encodeCheckpoint 136) =
      state.archiveDeleteAfter := by
  obtain ⟨capture, archive, both⟩ := slice_deadlines state
  rw [decodeCaptureDeadline]
  cases acknowledged : state.replicationAcknowledgedAt with
  | none =>
    obtain ⟨noCapture, noArchive, -⟩ := ordered.unacknowledged acknowledged
    have zeros : requireZero state.encodeCheckpoint 128 144 = .ok () := by
      rw [requireZero_eq_ok, both, acknowledged, noCapture, noArchive]
      decide
    rw [if_neg (by decide), zeros, ok_bind, noCapture, noArchive]
    exact ⟨rfl, rfl⟩
  | some time =>
    obtain ⟨_, captureAfter, archiveAfter, -, -, sets, alsoSets, -⟩ :=
      ordered.acknowledged time acknowledged
    rw [acknowledged, sets] at capture
    rw [acknowledged, alsoSets] at archive
    rw [if_pos (Option.isSome_some), sets, alsoSets, readU64_eq capture, Option.map_some,
      readU64_eq archive]
    exact ⟨rfl, rfl⟩

/-- A state that meets the checks is read back. -/
theorem readCheckpoint_encode (readable : state.Readable) :
    readCheckpoint state.encodeCheckpoint = .ok state := by
  have length := length_encodeCheckpoint state
  have magic : slice state.encodeCheckpoint 0 8 = magic := rfl
  obtain ⟨key, validated, reserved, archive, verified, acknowledged, capture, product,
    rest⟩ := slice_encodeCheckpoint state
  have deadlines := decodeDeadlines_eq (validateDecodedState_eq_ok.mp readable.valid)
  obtain ⟨version, long, flags⟩ := readU16_encodeCheckpoint state
  have covered : state.encodeCheckpoint.take crcOffset = content state :=
    take_left' (length_content state)
  have checksum : readU32 state.encodeCheckpoint crcOffset = crc32c (content state) := by
    have width := length_content state
    rw [encodeCheckpoint, readU32_append_of_le (Nat.le_of_eq width), width, Nat.sub_self]
    exact readU32_eq (slice_zero_self (length_u32Bytes _))
  obtain ⟨bound, isVerified, isAcknowledged, isCapture, isArchive⟩ := flags_bits state
  rw [readCheckpoint, if_neg (by omega), if_neg (by simp [length]), decodeCheckpoint, magic,
    version, long, covered, checksum, flags, reserved, rest, readKey_eq key, if_neg (by simp),
    if_neg (by simp), if_neg (by decide), if_neg (by simp)]
  simp only []
  rw [if_neg (by simp [RetentionState.flags, flagsOf_known]), if_neg (by decide),
    if_neg readable.key, decodeState, decodeArchive_eq archive bound, ok_bind,
    optionalTime_eq verified isVerified, ok_bind, optionalTime_eq acknowledged isAcknowledged,
    ok_bind, deadlines.1, ok_bind, optionalTime_eq capture isCapture, ok_bind,
    optionalTime_eq product isArchive, ok_bind, deadlines.2, readU64_eq validated]
  exact check_eq_ok.mpr ⟨readable.valid, rfl⟩

theorem requireZero_replicate {start stop : Nat} (zeros : requireZero bytes start stop = .ok ())
    (ordered : start ≤ stop) (inside : stop ≤ bytes.length) :
    slice bytes start (stop - start) = replicate (stop - start) 0 :=
  eq_replicate_of_not_any (requireZero_eq_ok.mp zeros) (length_slice (by omega))

theorem timeBytes_of_optionalTime {offset : Nat} {flag : UInt16}
    (inside : offset + 8 ≤ bytes.length) (read : optionalTime bytes offset flags flag = .ok time) :
    timeBytes time = slice bytes offset 8 ∧ time.isSome = decide (flags &&& flag ≠ 0) := by
  rw [optionalTime] at read
  split at read
  · rename_i told
    cases read
    exact ⟨u64Bytes_readU64 inside, (decide_eq_true told).symm⟩
  rename_i told
  obtain ⟨zeros, none⟩ := check_eq_ok.mp read
  cases none
  have blank := requireZero_replicate zeros (by omega) inside
  rw [Nat.add_sub_cancel_left] at blank
  exact ⟨blank.symm, (decide_eq_false told).symm⟩

theorem archiveBytes_of_decodeArchive (inside : 112 ≤ bytes.length)
    (read : decodeArchive bytes flags = .ok archive) : archiveBytes archive = slice bytes 64 48 ∧
      archive.isSome = decide (flags &&& archiveBound ≠ 0) := by
  rw [decodeArchive] at read
  split at read
  · rename_i told
    cases read
    exact ⟨identityBytes_readIdentity inside, (decide_eq_true told).symm⟩
  rename_i told
  obtain ⟨zeros, none⟩ := check_eq_ok.mp read
  cases none
  exact ⟨(requireZero_replicate zeros (by omega) inside).symm, (decide_eq_false told).symm⟩

theorem deadlineBytes_of_decodeCaptureDeadline {acknowledged capture : Option TrustedUnixSeconds}
    (inside : 144 ≤ bytes.length) (read : decodeCaptureDeadline bytes acknowledged = .ok capture) :
    deadlineBytes acknowledged capture = slice bytes 128 8 ∧
      deadlineBytes acknowledged (acknowledged.map fun _ => readU64 bytes 136) =
        slice bytes 136 8 := by
  rw [decodeCaptureDeadline] at read
  cases acknowledged with
  | some time =>
    cases read
    exact ⟨u64Bytes_readU64 (by omega), u64Bytes_readU64 (by omega)⟩
  | none =>
    obtain ⟨zeros, none⟩ := check_eq_ok.mp read
    cases none
    have blank := requireZero_replicate zeros (by omega) inside
    have part : ∀ start, start + 8 ≤ 16 → slice bytes (128 + start) 8 = replicate 8 0 := by
      intro start within
      rw [← slice_slice within, blank, slice, drop_replicate, take_replicate,
        Nat.min_eq_left (by omega)]
    exact ⟨(part 0 (by omega)).symm, (part 8 (by omega)).symm⟩

theorem encode_of_readCheckpoint {file : List UInt8} (accepted : readCheckpoint file = .ok state) :
    state.Readable ∧ state.encodeCheckpoint = file := by
  rw [readCheckpoint] at accepted
  obtain ⟨-, accepted⟩ := guard_eq_ok.mp accepted
  obtain ⟨width, accepted⟩ := guard_eq_ok.mp accepted
  have width : file.length = 176 := not_not.mp width
  obtain ⟨magic, accepted⟩ := guard_eq_ok.mp accepted
  obtain ⟨version, accepted⟩ := guard_eq_ok.mp accepted
  obtain ⟨long, accepted⟩ := guard_eq_ok.mp accepted
  obtain ⟨checksum, accepted⟩ := guard_eq_ok.mp accepted
  obtain ⟨known, accepted⟩ := guard_eq_ok.mp accepted
  obtain ⟨reserved, accepted⟩ := guard_eq_ok.mp accepted
  obtain ⟨key, accepted⟩ := guard_eq_ok.mp accepted
  obtain ⟨archive, bound, accepted⟩ := bind_eq_ok.mp accepted
  obtain ⟨verified, verifies, accepted⟩ := bind_eq_ok.mp accepted
  obtain ⟨acknowledged, acknowledges, accepted⟩ := bind_eq_ok.mp accepted
  obtain ⟨captureAfter, deadline, accepted⟩ := bind_eq_ok.mp accepted
  obtain ⟨capture, captures, accepted⟩ := bind_eq_ok.mp accepted
  obtain ⟨product, products, accepted⟩ := bind_eq_ok.mp accepted
  obtain ⟨valid, accepted⟩ := check_eq_ok.mp accepted
  cases accepted
  refine ⟨⟨key, valid⟩, ?_⟩
  rw [not_or] at reserved
  have firstReserved : slice file 62 2 = replicate 2 0 :=
    eq_replicate_of_not_any reserved.1 (length_slice (by omega))
  have lastReserved : slice file 160 12 = replicate 12 0 :=
    eq_replicate_of_not_any reserved.2 (length_slice (by omega))
  have long : readU16 file 10 = UInt16.ofNat checkpointBytes :=
    UInt16.toNat_inj.mp (not_not.mp long)
  obtain ⟨archiveField, isBound⟩ := archiveBytes_of_decodeArchive (by omega) bound
  obtain ⟨verifiedField, isVerified⟩ := timeBytes_of_optionalTime (by omega) verifies
  obtain ⟨acknowledgedField, isAcknowledged⟩ := timeBytes_of_optionalTime (by omega) acknowledges
  obtain ⟨captureField, isCapture⟩ := timeBytes_of_optionalTime (by omega) captures
  obtain ⟨productField, isProduct⟩ := timeBytes_of_optionalTime (by omega) products
  obtain ⟨captureDeadline, archiveDeadline⟩ :=
    deadlineBytes_of_decodeCaptureDeadline (by omega) deadline
  have covered : content
      { key := readKey file 12, validatedAt := readU64 file 52, archive,
        archiveVerifiedAt := verified, replicationAcknowledgedAt := acknowledged,
        captureDeleteAfter := captureAfter,
        archiveDeleteAfter := acknowledged.map fun _ => readU64 file 136,
        captureDeletedAt := capture, archiveDeletedAt := product } = file.take crcOffset := by
    have whole := fields_eq_slice file 0 [8, 2, 2, 40, 8, 2, 2, 48, 8, 8, 8, 8, 8, 8, 12]
    simp only [fields, Nat.reduceAdd, append_nil, sum_cons, sum_nil] at whole
    rw [content, RetentionState.flags, isBound, isVerified, isAcknowledged, isCapture, isProduct,
      flagsOf_of_known (not_not.mp known), archiveField, verifiedField, acknowledgedField,
      captureField, productField, captureDeadline, archiveDeadline, ← not_not.mp magic,
      ← not_not.mp version, ← long, u16Bytes_readU16 (by omega), u16Bytes_readU16 (by omega),
      u16Bytes_readU16 (by omega), keyBytes_readKey (by omega), u64Bytes_readU64 (by omega),
      ← firstReserved, ← lastReserved, whole]
    rfl
  rw [encodeCheckpoint, covered, not_not.mp checksum, u32Bytes_readU32 (by rw [width]; decide)]
  exact take_append_slice (by rw [width]; decide)

end SensorSystem.Host.RetentionState
