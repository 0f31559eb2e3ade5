import SensorSystem.Base.Checkpoints
import SensorSystem.Base.Fields
import SensorSystem.Host.Capture.CaptureManifest
import SensorSystem.Host.Retention.ArchiveCoverage

/-! `retention_checkpoint.rs`: the evidence for the deletion of a capture segment and of the
archive product made from it, event by event, and the file it is kept in. -/

namespace SensorSystem.Host

open List Base
open Framing (crc32c)

inductive RetentionCheckpointError where
  | io (kind : IoErrorKind)
  | zeroRetentionDuration
  | invalidSegmentKey
  | invalidArchiveIdentity
  | archiveIdentityConflict
  | archiveNotBound
  | archiveNotVerified
  | eventTimeRegression
  | conflictingEventTime
  | conflictingReplicationAck
  | timestampOverflow
  | captureNotDeletable
  | archiveNotDeletable
  | alreadyExists
  | invalidMagic
  | unsupportedVersion (version : UInt16)
  | invalidLength
  | checksumMismatch
  | unknownFlags (flags : UInt16)
  | nonZeroReservedField
  | invalidStoredState
deriving DecidableEq

structure RetentionPolicy where
  captureGraceSeconds : UInt64
  archiveRetentionSeconds : UInt64

def RetentionPolicy.default : RetentionPolicy where
  captureGraceSeconds := 48 * 60 * 60
  archiveRetentionSeconds := 30 * 24 * 60 * 60

def SegmentKey.ofManifest (manifest : CaptureWindowManifest) : SegmentKey where
  hardwareId := manifest.hardwareId
  bootEpoch := manifest.bootEpoch
  windowOrdinal := manifest.windowOrdinal
  firstCursor := manifest.firstCursor
  endExclusive := manifest.endExclusive

structure RetentionDecision where
  captureDeletable : Bool
  archiveDeletable : Bool

structure RetentionState where
  key : SegmentKey
  validatedAt : TrustedUnixSeconds
  archive : Option ArchiveIdentity
  archiveVerifiedAt : Option TrustedUnixSeconds
  replicationAcknowledgedAt : Option TrustedUnixSeconds
  captureDeleteAfter : Option TrustedUnixSeconds
  archiveDeleteAfter : Option TrustedUnixSeconds
  captureDeletedAt : Option TrustedUnixSeconds
  archiveDeletedAt : Option TrustedUnixSeconds
deriving DecidableEq

def requireNotBefore (value lowerBound : TrustedUnixSeconds) :
    Except RetentionCheckpointError Unit :=
  if value < lowerBound then .error .eventTimeRegression else .ok ()

def addDuration (value : TrustedUnixSeconds) (duration : UInt64) :
    Except RetentionCheckpointError TrustedUnixSeconds :=
  if duration = 0 then .error .zeroRetentionDuration
  else match checkedAdd value duration with
    | none => .error .timestampOverflow
    | some sum => .ok sum

variable (archive : ArchiveIdentity)

def ArchiveIdentity.IsZero : Prop :=
  archive.productId = Vector.replicate 16 0 ∨ archive.sha256 = Vector.replicate 32 0

instance (archive : ArchiveIdentity) : Decidable archive.IsZero :=
  inferInstanceAs (Decidable (_ ∨ _))

namespace RetentionState

abbrev Error := RetentionCheckpointError

/-- A changed state, or the same one and `false`. -/
abbrev Transition := Except Error (RetentionState × Bool)

def checkArchiveIdentity (archive : ArchiveIdentity) : Except Error Unit :=
  if archive.IsZero then .error .invalidArchiveIdentity else .ok ()

def new (manifest : CaptureWindowManifest) (validatedAt : TrustedUnixSeconds) :
    Except Error RetentionState :=
  let key := SegmentKey.ofManifest manifest
  if key.bootEpoch = 0 ∨ key.endExclusive ≤ key.firstCursor then .error .invalidSegmentKey
  else .ok ⟨key, validatedAt, none, none, none, none, none, none, none⟩

variable (state : RetentionState)

def requireArchive (archive : ArchiveIdentity) : Except Error Unit :=
  match state.archive with
  | some existing => if existing = archive then .ok () else .error .archiveIdentityConflict
  | none => .error .archiveNotBound

def bindArchive (archive : ArchiveIdentity) : Transition := do
  checkArchiveIdentity archive
  match state.archive with
  | none => .ok ({ state with archive := some archive }, true)
  | some existing =>
    if existing = archive then .ok (state, false) else .error .archiveIdentityConflict

def markArchiveVerified (archive : ArchiveIdentity) (time : TrustedUnixSeconds) : Transition := do
  state.requireArchive archive
  requireNotBefore time state.validatedAt
  match state.archiveVerifiedAt with
  | none => .ok ({ state with archiveVerifiedAt := some time }, true)
  | some existing =>
    if existing = time then .ok (state, false) else .error .conflictingEventTime

/-- The last part of `mark_replication_acknowledged`, with the deadlines computed. -/
def recordAcknowledgement (time captureDeleteAfter archiveDeleteAfter : TrustedUnixSeconds) :
    Transition :=
  match state.replicationAcknowledgedAt with
  | none =>
    .ok ({ state with
      replicationAcknowledgedAt := some time
      captureDeleteAfter := some captureDeleteAfter
      archiveDeleteAfter := some archiveDeleteAfter }, true)
  | some existing =>
    if existing = time ∧ state.captureDeleteAfter = some captureDeleteAfter ∧
        state.archiveDeleteAfter = some archiveDeleteAfter then .ok (state, false)
    else .error .conflictingReplicationAck

def markReplicationAcknowledged (archive : ArchiveIdentity) (time : TrustedUnixSeconds)
    (policy : RetentionPolicy) : Transition := do
  state.requireArchive archive
  match state.archiveVerifiedAt with
  | none => .error .archiveNotVerified
  | some verifiedAt => do
    requireNotBefore time verifiedAt
    let captureDeleteAfter ← addDuration time policy.captureGraceSeconds
    let archiveDeleteAfter ← addDuration time policy.archiveRetentionSeconds
    state.recordAcknowledgement time captureDeleteAfter archiveDeleteAfter

def decision (now : TrustedUnixSeconds) : RetentionDecision where
  captureDeletable := state.captureDeletedAt.isNone && state.captureDeleteAfter.any (· ≤ now)
  archiveDeletable := state.archiveDeletedAt.isNone && state.captureDeletedAt.isSome &&
    state.archiveDeleteAfter.any (· ≤ now)

def markCaptureDeleted (time : TrustedUnixSeconds) : Transition :=
  match state.captureDeletedAt with
  | some existing => if existing = time then .ok (state, false) else .error .conflictingEventTime
  | none =>
    if ¬ (state.decision time).captureDeletable then .error .captureNotDeletable
    else .ok ({ state with captureDeletedAt := some time }, true)

def markArchiveDeleted (time : TrustedUnixSeconds) : Transition :=
  match state.archiveDeletedAt with
  | some existing => if existing = time then .ok (state, false) else .error .conflictingEventTime
  | none =>
    if ¬ (state.decision time).archiveDeletable then .error .archiveNotDeletable
    else .ok ({ state with archiveDeletedAt := some time }, true)

end RetentionState

def keyBytes (key : SegmentKey) : List UInt8 :=
  key.hardwareId.toList ++ (u64Bytes key.bootEpoch ++ (u64Bytes key.windowOrdinal ++
    (u64Bytes key.firstCursor ++ u64Bytes key.endExclusive)))

def readKey (bytes : List UInt8) (offset : Nat) : SegmentKey where
  hardwareId := readBytes 8 bytes offset
  bootEpoch := readU64 bytes (offset + 8)
  windowOrdinal := readU64 bytes (offset + 16)
  firstCursor := readU64 bytes (offset + 24)
  endExclusive := readU64 bytes (offset + 32)

def identityBytes : List UInt8 :=
  archive.productId.toList ++ archive.sha256.toList

def readIdentity (bytes : List UInt8) (offset : Nat) : ArchiveIdentity where
  productId := readBytes 16 bytes offset
  sha256 := readBytes 32 bytes (offset + 16)

variable (time : Option TrustedUnixSeconds)

/-- A field that is left at zero when there is no time. -/
def timeBytes : List UInt8 := u64Bytes (time.getD 0)

@[simp] theorem length_keyBytes (key : SegmentKey) : (keyBytes key).length = 40 := by
  simp [keyBytes]

@[simp] theorem length_timeBytes : (timeBytes time).length = 8 := by
  simp [timeBytes]

@[simp] theorem length_identityBytes : (identityBytes archive).length = 48 := by
  simp [identityBytes]

variable {bytes : List UInt8} {offset : Nat}

/-- A key read where one was written. -/
theorem readKey_eq {key : SegmentKey} (field : slice bytes offset 40 = keyBytes key) :
    readKey bytes offset = key := by
  have part : ∀ {start count : Nat}, start + count ≤ 40 →
      slice bytes (offset + start) count = slice (keyBytes key) start count := by
    intro start count inside
    rw [← field, slice_slice inside]
  have hardware : slice bytes offset 8 = key.hardwareId.toList := by
    simpa [keyBytes] using part (show 0 + 8 ≤ 40 by omega)
  simp only [readKey, readBytes_eq hardware]
  rw [readU64, readU64, readU64, readU64, part (by omega), part (by omega), part (by omega),
    part (by omega), ← readU64, ← readU64, ← readU64, ← readU64]
  simp [keyBytes]

theorem keyBytes_readKey (inside : offset + 40 ≤ bytes.length) :
    keyBytes (readKey bytes offset) = slice bytes offset 40 := by
  have whole := fields_eq_slice bytes offset [8, 8, 8, 8, 8]
  simp only [fields, append_nil, Nat.add_assoc, Nat.reduceAdd, sum_cons,
    sum_nil] at whole
  rw [keyBytes, readKey, toList_readBytes (by omega), u64Bytes_readU64 (by omega),
    u64Bytes_readU64 (by omega), u64Bytes_readU64 (by omega), u64Bytes_readU64 (by omega), whole]

theorem readIdentity_eq {archive : ArchiveIdentity}
    (field : slice bytes offset 48 = identityBytes archive) :
    readIdentity bytes offset = archive := by
  have split := fields_eq_slice bytes offset [16, 32]
  simp only [fields, append_nil, sum_cons, sum_nil, Nat.reduceAdd] at split
  rw [field, identityBytes] at split
  have short : (slice bytes offset 16).length = archive.productId.toList.length := by
    have width := congrArg length field
    rw [slice, length_take, length_drop, length_identityBytes] at width
    rw [slice, length_take, length_drop, Vector.length_toList]
    omega
  obtain ⟨product, digest⟩ := append_inj split short
  rw [readIdentity, readBytes_eq product, readBytes_eq digest]

theorem identityBytes_readIdentity (inside : offset + 48 ≤ bytes.length) :
    identityBytes (readIdentity bytes offset) = slice bytes offset 48 := by
  have whole := fields_eq_slice bytes offset [16, 32]
  simp only [fields, append_nil, sum_cons, sum_nil, Nat.reduceAdd] at whole
  rw [identityBytes, readIdentity, toList_readBytes (by omega), toList_readBytes (by omega), whole]

def keyRow : Row SegmentKey where
  width := 40
  bytes := keyBytes
  read := readKey
  length_bytes := length_keyBytes
  read_eq := readKey_eq
  bytes_read := keyBytes_readKey

def identityRow : Row ArchiveIdentity where
  width := 48
  bytes := identityBytes
  read := readIdentity
  length_bytes := length_identityBytes
  read_eq := readIdentity_eq
  bytes_read := identityBytes_readIdentity

namespace RetentionState

def magic : List UInt8 := [0x53, 0x53, 0x52, 0x45, 0x54, 0x43, 0x50, 0x31]
def version : UInt16 := 1
def checkpointBytes : Nat := 176
def crcOffset : Nat := checkpointBytes - 4
def archiveBound : UInt16 := 1
def archiveVerified : UInt16 := 2
def replicationAcknowledged : UInt16 := 4
def captureDeleted : UInt16 := 8
def archiveDeleted : UInt16 := 16
def knownFlags : UInt16 :=
  archiveBound ||| archiveVerified ||| replicationAcknowledged ||| captureDeleted ||| archiveDeleted

/-- The flags of the events that are recorded. -/
def flagsOf (bound verified acknowledged capture archive : Bool) : UInt16 :=
  (if bound then archiveBound else 0) ||| (if verified then archiveVerified else 0) |||
    (if acknowledged then replicationAcknowledged else 0) |||
      (if capture then captureDeleted else 0) ||| (if archive then archiveDeleted else 0)

def flags (state : RetentionState) : UInt16 :=
  flagsOf state.archive.isSome state.archiveVerifiedAt.isSome
    state.replicationAcknowledgedAt.isSome state.captureDeletedAt.isSome
      state.archiveDeletedAt.isSome

/-- The deadlines are written with the acknowledgement. -/
def deadlineBytes (acknowledged deadline : Option TrustedUnixSeconds) : List UInt8 :=
  if acknowledged.isSome then timeBytes deadline else replicate 8 0

def archiveBytes : Option ArchiveIdentity → List UInt8
  | some archive => identityBytes archive
  | none => replicate 48 0

/-- The file up to its checksum: consecutive writes into a zeroed array. -/
def content (state : RetentionState) : List UInt8 :=
  magic ++ (u16Bytes version ++ (u16Bytes (UInt16.ofNat checkpointBytes) ++
    (keyBytes state.key ++ (u64Bytes state.validatedAt ++ (u16Bytes state.flags ++
      (replicate 2 0 ++ (archiveBytes state.archive ++
        (timeBytes state.archiveVerifiedAt ++ (timeBytes state.replicationAcknowledgedAt ++
          (deadlineBytes state.replicationAcknowledgedAt state.captureDeleteAfter ++
            (deadlineBytes state.replicationAcknowledgedAt state.archiveDeleteAfter ++
              (timeBytes state.captureDeletedAt ++ (timeBytes state.archiveDeletedAt ++
                replicate 12 0)))))))))))))

/-- An acknowledgement sets both deadlines. -/
def encodeCheckpoint (state : RetentionState) : List UInt8 :=
  content state ++ u32Bytes (crc32c (content state))

def requireZero (bytes : List UInt8) (start stop : Nat) : Except Error Unit :=
  if (slice bytes start (stop - start)).any (· != 0) then .error .invalidStoredState else .ok ()

def optionalTime (bytes : List UInt8) (offset : Nat) (flags flag : UInt16) :
    Except Error (Option TrustedUnixSeconds) :=
  if flags &&& flag ≠ 0 then .ok (some (readU64 bytes offset))
  else do
    requireZero bytes offset (offset + 8)
    .ok none

/-! The checks of `validate_decoded_state`, in their order. -/

def checkArchive (state : RetentionState) : Except Error Unit :=
  match state.archive with
  | some archive => checkArchiveIdentity archive
  | none =>
    if state.archiveVerifiedAt.isSome ∨ state.replicationAcknowledgedAt.isSome ∨
        state.captureDeletedAt.isSome ∨ state.archiveDeletedAt.isSome then
      .error .invalidStoredState
    else .ok ()

def checkVerified (state : RetentionState) : Except Error Unit :=
  match state.archiveVerifiedAt with
  | some verified => requireNotBefore verified state.validatedAt
  | none => .ok ()

def checkAcknowledged (state : RetentionState) : Except Error Unit :=
  match state.replicationAcknowledgedAt with
  | some acknowledged =>
    match state.archiveVerifiedAt with
    | none => .error .invalidStoredState
    | some verified => do
      requireNotBefore acknowledged verified
      match state.captureDeleteAfter, state.archiveDeleteAfter with
      | some captureAfter, some archiveAfter =>
        if captureAfter ≤ acknowledged ∨ archiveAfter ≤ acknowledged then
          .error .invalidStoredState
        else .ok ()
      | _, _ => .error .invalidStoredState
  | none =>
    if state.captureDeleteAfter.isSome ∨ state.archiveDeleteAfter.isSome ∨
        state.captureDeletedAt.isSome ∨ state.archiveDeletedAt.isSome then
      .error .invalidStoredState
    else .ok ()

def checkCaptureDeleted (state : RetentionState) : Except Error Unit :=
  match state.captureDeletedAt with
  | some deleted =>
    match state.captureDeleteAfter with
    | none => .error .invalidStoredState
    | some deadline => requireNotBefore deleted deadline
  | none => .ok ()

def checkArchiveDeleted (state : RetentionState) : Except Error Unit :=
  match state.archiveDeletedAt with
  | some deleted =>
    match state.captureDeletedAt, state.archiveDeleteAfter with
    | some captureDeleted, some deadline => do
      requireNotBefore deleted deadline
      requireNotBefore deleted captureDeleted
    | _, _ => .error .invalidStoredState
  | none => .ok ()

def validateDecodedState (state : RetentionState) : Except Error Unit := do
  checkArchive state
  checkVerified state
  checkAcknowledged state
  checkCaptureDeleted state
  checkArchiveDeleted state

def decodeArchive (bytes : List UInt8) (flags : UInt16) : Except Error (Option ArchiveIdentity) :=
  if flags &&& archiveBound ≠ 0 then .ok (some (readIdentity bytes 64))
  else do
    requireZero bytes 64 112
    .ok none

def decodeCaptureDeadline (bytes : List UInt8) (acknowledged : Option TrustedUnixSeconds) :
    Except Error (Option TrustedUnixSeconds) :=
  if acknowledged.isSome then .ok (some (readU64 bytes 128))
  else do
    requireZero bytes 128 144
    .ok none

/-- The part after the checks of the frame. -/
def decodeState (bytes : List UInt8) (flags : UInt16) (key : SegmentKey) :
    Except Error RetentionState := do
  let archive ← decodeArchive bytes flags
  let archiveVerifiedAt ← optionalTime bytes 112 flags archiveVerified
  let replicationAcknowledgedAt ← optionalTime bytes 120 flags replicationAcknowledged
  let captureDeleteAfter ← decodeCaptureDeadline bytes replicationAcknowledgedAt
  let archiveDeleteAfter := replicationAcknowledgedAt.map fun _ => readU64 bytes 136
  let captureDeletedAt ← optionalTime bytes 144 flags captureDeleted
  let archiveDeletedAt ← optionalTime bytes 152 flags archiveDeleted
  let state : RetentionState :=
    { key, validatedAt := readU64 bytes 52, archive, archiveVerifiedAt,
      replicationAcknowledgedAt, captureDeleteAfter, archiveDeleteAfter, captureDeletedAt,
      archiveDeletedAt }
  validateDecodedState state
  .ok state

def decodeCheckpoint (bytes : List UInt8) : Except Error RetentionState :=
  if slice bytes 0 8 ≠ magic then .error .invalidMagic
  else if readU16 bytes 8 ≠ version then .error (.unsupportedVersion (readU16 bytes 8))
  else if (readU16 bytes 10).toNat ≠ checkpointBytes then .error .invalidLength
  else if crc32c (bytes.take crcOffset) ≠ readU32 bytes crcOffset then .error .checksumMismatch
  else
    let flags := readU16 bytes 60
    if flags &&& ~~~knownFlags ≠ 0 then .error (.unknownFlags flags)
    else if (slice bytes 62 2).any (· != 0) ∨ (slice bytes 160 12).any (· != 0) then
      .error .nonZeroReservedField
    else
      let key := readKey bytes 12
      if key.bootEpoch = 0 ∨ key.endExclusive ≤ key.firstCursor then .error .invalidSegmentKey
      else decodeState bytes flags key

/-- `read_checkpoint` on the bytes of the file. -/
def readCheckpoint (file : List UInt8) : Except Error RetentionState :=
  if file.length < checkpointBytes then .error (.io .unexpectedEof)
  else if file.length ≠ checkpointBytes then .error .invalidLength
  else decodeCheckpoint file

def format : CheckpointFormat Error RetentionState where
  encode state := .ok state.encodeCheckpoint
  decode := readCheckpoint

end RetentionState

abbrev RetentionCheckpointStore := Checkpoint RetentionState

inductive RetentionCall where
  | bindArchive (archive : ArchiveIdentity)
  | markArchiveVerified (archive : ArchiveIdentity) (time : TrustedUnixSeconds)
  | markReplicationAcknowledged (archive : ArchiveIdentity) (time : TrustedUnixSeconds)
      (policy : RetentionPolicy)
  | markCaptureDeleted (time : TrustedUnixSeconds)
  | markArchiveDeleted (time : TrustedUnixSeconds)

def RetentionCall.perform : RetentionCall → RetentionState → RetentionState.Transition
  | bindArchive archive, state => state.bindArchive archive
  | markArchiveVerified archive time, state => state.markArchiveVerified archive time
  | markReplicationAcknowledged archive time policy, state =>
    state.markReplicationAcknowledged archive time policy
  | markCaptureDeleted time, state => state.markCaptureDeleted time
  | markArchiveDeleted time, state => state.markArchiveDeleted time

namespace RetentionCheckpointStore

/-- `create`, given whether the path exists. -/
def create (present : Bool) (manifest : CaptureWindowManifest) (validatedAt : TrustedUnixSeconds) :
    Except RetentionCheckpointError RetentionCheckpointStore :=
  if present then .error .alreadyExists
  else do
    let state ← RetentionState.new manifest validatedAt
    Checkpoint.create RetentionState.format state

def openFile (file : List UInt8) : Except RetentionCheckpointError RetentionCheckpointStore :=
  Checkpoint.openFile RetentionState.format file

/-- A call on the store, and what it answers. -/
def call (store : RetentionCheckpointStore) (call : RetentionCall) :
    RetentionCheckpointStore × Except RetentionCheckpointError Unit :=
  store.update RetentionState.format call.perform

end RetentionCheckpointStore
end SensorSystem.Host

/-! The flag and the time of a deletion, as the checkpoints of a capture and of an archive product
store them. -/

namespace SensorSystem.Host

open List Base
open Framing (crc32c)

def deleted : UInt32 := 1

def deletionFlags (deletedAt : Option TrustedUnixSeconds) : UInt32 :=
  if deletedAt.isSome then deleted else 0

/-- The time of a deletion; `reserved` is for a time without the flag. -/
def readDeletion {ε : Type} (reserved : ε) (bytes : List UInt8) (offset : Nat) (flags : UInt32) :
    Except ε (Option TrustedUnixSeconds) :=
  if flags &&& deleted ≠ 0 then .ok (some (readU64 bytes offset))
  else if readU64 bytes offset ≠ 0 then .error reserved
  else .ok none

@[simp] theorem deletionFlags_none : deletionFlags none = 0 := rfl

@[simp] theorem deletionFlags_some (time : TrustedUnixSeconds) :
    deletionFlags (some time) = deleted := rfl

theorem deletionFlags_known (deletedAt : Option TrustedUnixSeconds) :
    deletionFlags deletedAt &&& ~~~deleted = 0 := by
  cases deletedAt with
  | none => decide
  | some time =>
    rw [deletionFlags_some]
    decide

/-- The parts of a file that ends with the checksum of its content. -/
theorem sealed {content file : List UInt8} {total : Nat}
    (written : file = content ++ u32Bytes (crc32c content)) (width : content.length + 4 = total) :
    file.length = total ∧ file.take (total - 4) = content ∧
      readU32 file (total - 4) = crc32c content := by
  subst width
  subst written
  rw [Nat.add_sub_cancel, readU32_append_of_le (Nat.le_refl _), Nat.sub_self,
    readU32_u32Bytes_self, length_append, length_u32Bytes]
  exact ⟨rfl, take_left, rfl⟩

theorem toNat_of_readU32 {file : List UInt8} {offset value : Nat}
    (read : readU32 file offset = UInt32.ofNat value) (fits : value < 2 ^ 32) :
    (readU32 file offset).toNat = value := by
  rw [read]
  exact UInt32.toNat_ofNat_of_lt' fits

variable {deletedAt : Option TrustedUnixSeconds}

theorem readDeletion_eq {ε : Type} {reserved : ε} {bytes : List UInt8} {offset : Nat}
    (held : slice bytes offset 8 = timeBytes deletedAt) :
    readDeletion reserved bytes offset (deletionFlags deletedAt) = .ok deletedAt := by
  rw [readDeletion, readU64_eq held]
  cases deletedAt with
  | none => rfl
  | some time =>
    rw [deletionFlags_some, if_pos (by decide)]
    rfl

theorem timeBytes_of_readDeletion {ε : Type} {reserved : ε} {bytes : List UInt8} {offset : Nat}
    {flags : UInt32} (inside : offset + 8 ≤ bytes.length) (known : flags &&& ~~~deleted = 0)
    (read : readDeletion reserved bytes offset flags = .ok deletedAt) :
    timeBytes deletedAt = slice bytes offset 8 ∧ deletionFlags deletedAt = flags := by
  have small : flags.toNat < 2 ^ 1 := toNat_lt_of_and_not (congrArg UInt32.toBitVec known)
  have bit : flags = 0 ∨ flags = 1 := by
    rcases Nat.lt_or_ge 0 flags.toNat with one | zero
    · exact .inr (UInt32.toNat_inj.mp (by simp; omega))
    · exact .inl (UInt32.toNat_inj.mp (by simp; omega))
  rcases bit with rfl | rfl
  · obtain ⟨blank, none⟩ := guard_eq_ok.mp read
    cases none
    exact ⟨by rw [← u64Bytes_readU64 inside, not_not.mp blank]; rfl, rfl⟩
  · cases read
    exact ⟨u64Bytes_readU64 inside, rfl⟩

end SensorSystem.Host
