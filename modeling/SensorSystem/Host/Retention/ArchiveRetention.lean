import Mathlib.Data.List.Lex
import SensorSystem.Host.Retention.CoverageCheckpoint

/-! `archive_retention.rs`: the capture segments that a replicated archive product was made from,
the time from which it may be deleted, and whether it was. -/

namespace SensorSystem.Host

open Base
open Framing (crc32c)

/-- The errors of the checkpoint. -/
inductive ArchiveRetentionError where
  | io (kind : IoErrorKind)
  | coverage (error : ArchiveCoverageError)
  | acknowledgementBeforeVerification
  | zeroRetentionDuration
  | timestampOverflow
  | noCaptureDependencies
  | tooManyCaptureDependencies
  | invalidCaptureDependency
  | duplicateCaptureDependency
  | invalidArchiveIdentity
  | archiveNotDeletable
  | conflictingDeletionTime
  | alreadyExists
  | invalidMagic
  | unsupportedVersion (version : UInt16)
  | invalidLength
  | checksumMismatch
  | nonZeroReservedField
  | unknownFlags (flags : UInt32)
  | invalidStoredState

structure ArchiveRetentionState where
  archive : ArchiveIdentity
  dependencies : List SegmentKey
  verifiedAt : TrustedUnixSeconds
  acknowledgedAt : TrustedUnixSeconds
  deleteAfter : TrustedUnixSeconds
  deletedAt : Option TrustedUnixSeconds
deriving DecidableEq

/-- `segment_sort_key`: the tuple as one list, which all have the same length. -/
def SegmentKey.sortKey (segment : SegmentKey) : List Nat :=
  segment.hardwareId.toList.map (·.toNat) ++ [segment.bootEpoch.toNat,
    segment.windowOrdinal.toNat, segment.firstCursor.toNat, segment.endExclusive.toNat]

namespace ArchiveRetentionState

abbrev Error := ArchiveRetentionError

def maxDependencies : Nat := 1024

/-- The loop over the dependencies; `earlier` are those already checked. -/
def checkDependencies : List SegmentKey → List SegmentKey → Except Error Unit
  | _, [] => .ok ()
  | earlier, segment :: rest =>
    if segment.IsInvalid then .error .invalidCaptureDependency
    else if segment ∈ earlier then .error .duplicateCaptureDependency
    else checkDependencies (earlier ++ [segment]) rest

variable (dependencies : List SegmentKey)

def validateDependencies : Except Error Unit :=
  if dependencies = [] then .error .noCaptureDependencies
  else if dependencies.length > maxDependencies then .error .tooManyCaptureDependencies
  else checkDependencies [] dependencies

/-- The segments of the inputs, each once. -/
def collectDependencies : List SegmentKey → List ArchiveInputSpan → List SegmentKey
  | found, [] => found
  | found, input :: rest =>
    collectDependencies (if input.segment ∈ found then found else found ++ [input.segment]) rest

def sortDependencies : List SegmentKey :=
  dependencies.mergeSort fun first second => first.sortKey ≤ second.sortKey

def fromVerifiedReplication (index : ArchiveCoverageIndex)
    (verifiedAt acknowledgedAt : TrustedUnixSeconds) (policy : RetentionPolicy) :
    Except Error ArchiveRetentionState := do
  index.validate.mapError .coverage
  if acknowledgedAt < verifiedAt then .error .acknowledgementBeforeVerification
  else if policy.archiveRetentionSeconds = 0 then .error .zeroRetentionDuration
  else match checkedAdd acknowledgedAt policy.archiveRetentionSeconds with
    | none => .error .timestampOverflow
    | some deleteAfter => do
      let dependencies := sortDependencies (collectDependencies [] index.inputs)
      validateDependencies dependencies
      .ok ⟨index.archive, dependencies, verifiedAt, acknowledgedAt, deleteAfter, none⟩

variable (state : ArchiveRetentionState)

def deadlineElapsed (now : TrustedUnixSeconds) : Bool :=
  state.deletedAt.isNone && state.deleteAfter ≤ now

def markDeleted (time : TrustedUnixSeconds) (state : ArchiveRetentionState) :
    Except Error (ArchiveRetentionState × Bool) :=
  match state.deletedAt with
  | some existing =>
    if existing = time then .ok (state, false) else .error .conflictingDeletionTime
  | none =>
    if ¬ state.deadlineElapsed time then .error .archiveNotDeletable
    else .ok ({ state with deletedAt := some time }, true)

def magic : List UInt8 := [0x53, 0x53, 0x41, 0x52, 0x43, 0x43, 0x50, 0x31]
def version : UInt16 := 1
def headerBytes : Nat := 112
def crcBytes : Nat := 4
def knownFlags : UInt32 := deleted

def encodedLength (dependencyCount : Nat) : Except Error Nat :=
  if dependencyCount = 0 ∨ dependencyCount > maxDependencies then .error .invalidLength
  else .ok (headerBytes + dependencyCount * keyRow.width + crcBytes)

/-- The file up to its checksum: consecutive writes into a zeroed array. -/
def content (totalLength : Nat) : List UInt8 :=
  magic ++ (u16Bytes version ++ (u16Bytes (UInt16.ofNat headerBytes) ++
    (u32Bytes (UInt32.ofNat totalLength) ++ (identityBytes state.archive ++
      (u64Bytes state.verifiedAt ++ (u64Bytes state.acknowledgedAt ++
        (u64Bytes state.deleteAfter ++ (timeBytes state.deletedAt ++
          (u32Bytes (deletionFlags state.deletedAt) ++
            (u32Bytes (UInt32.ofNat state.dependencies.length) ++ (List.replicate 8 0 ++
              keyRow.table state.dependencies)))))))))))

def encodeCheckpoint : Except Error (List UInt8) := do
  let totalLength ← encodedLength state.dependencies.length
  .ok (state.content totalLength ++ u32Bytes (crc32c (state.content totalLength)))

/-- `windows(2)` with strictly growing keys. -/
def ascending : List SegmentKey → Bool
  | first :: second :: rest => first.sortKey < second.sortKey && ascending (second :: rest)
  | _ => true

/-- The part after the checks of the frame. -/
def decodeState (bytes : List UInt8) (dependencyCount : Nat)
    (deletedAt : Option TrustedUnixSeconds) : Except Error ArchiveRetentionState := do
  let archive := readIdentity bytes 16
  let verifiedAt := readU64 bytes 64
  let acknowledgedAt := readU64 bytes 72
  let deleteAfter := readU64 bytes 80
  if archive.IsZero then .error .invalidArchiveIdentity
  else if acknowledgedAt < verifiedAt ∨ deleteAfter ≤ acknowledgedAt ∨
      deletedAt.any (· < deleteAfter) then .error .invalidStoredState
  else do
    let dependencies := keyRow.readTable bytes headerBytes dependencyCount
    validateDependencies dependencies
    if !ascending dependencies then .error .invalidStoredState
    else .ok ⟨archive, dependencies, verifiedAt, acknowledgedAt, deleteAfter, deletedAt⟩

def decodeCheckpoint (bytes : List UInt8) : Except Error ArchiveRetentionState :=
  if bytes.length < headerBytes + keyRow.width + crcBytes then .error .invalidLength
  else if slice bytes 0 8 ≠ magic then .error .invalidMagic
  else if readU16 bytes 8 ≠ version then .error (.unsupportedVersion (readU16 bytes 8))
  else if (readU16 bytes 10).toNat ≠ headerBytes then .error .invalidLength
  else
    let totalLength := (readU32 bytes 12).toNat
    let dependencyCount := (readU32 bytes 100).toNat
    if totalLength ≠ bytes.length then .error .invalidLength
    else do
      let expected ← encodedLength dependencyCount
      if totalLength ≠ expected then .error .invalidLength
      else if (slice bytes 104 8).any (· != 0) then .error .nonZeroReservedField
      else if crc32c (bytes.take (totalLength - crcBytes)) ≠
          readU32 bytes (totalLength - crcBytes) then .error .checksumMismatch
      else
        let flags := readU32 bytes 96
        if flags &&& ~~~knownFlags ≠ 0 then .error (.unknownFlags flags)
        else do
          let deletedAt ← readDeletion .nonZeroReservedField bytes 88 flags
          decodeState bytes dependencyCount deletedAt

/-- `read_checkpoint` on the bytes of the file. -/
def readCheckpoint (file : List UInt8) : Except Error ArchiveRetentionState :=
  if file.length < 16 then .error (.io .unexpectedEof)
  else
    let totalLength := (readU32 file 12).toNat
    if totalLength < headerBytes + keyRow.width + crcBytes ∨
        totalLength > headerBytes + maxDependencies * keyRow.width + crcBytes then
      .error .invalidLength
    else if file.length < totalLength then .error (.io .unexpectedEof)
    else if file.length ≠ totalLength then .error .invalidLength
    else decodeCheckpoint file

def format : CheckpointFormat Error ArchiveRetentionState where
  encode := encodeCheckpoint
  decode := readCheckpoint

end ArchiveRetentionState

abbrev ArchiveRetentionCheckpointStore := Checkpoint ArchiveRetentionState

namespace ArchiveRetentionCheckpointStore

def openFile (file : List UInt8) : Except ArchiveRetentionError ArchiveRetentionCheckpointStore :=
  Checkpoint.openFile ArchiveRetentionState.format file

/-- `create`, given the file that is there already. -/
def create (existing : Option (List UInt8)) (index : ArchiveCoverageIndex)
    (verifiedAt acknowledgedAt : TrustedUnixSeconds) (policy : RetentionPolicy) :
    Except ArchiveRetentionError ArchiveRetentionCheckpointStore := do
  let state ← ArchiveRetentionState.fromVerifiedReplication index verifiedAt acknowledgedAt policy
  match existing with
  | some file => do
    let opened ← openFile file
    if opened.state = state then .ok opened else .error .alreadyExists
  | none => Checkpoint.create ArchiveRetentionState.format state

def markDeleted (store : ArchiveRetentionCheckpointStore) (time : TrustedUnixSeconds) :
    ArchiveRetentionCheckpointStore × Except ArchiveRetentionError Unit :=
  store.update ArchiveRetentionState.format (ArchiveRetentionState.markDeleted time)

end ArchiveRetentionCheckpointStore
end SensorSystem.Host
