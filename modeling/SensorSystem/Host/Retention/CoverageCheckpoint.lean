import SensorSystem.Host.Retention.RetentionCheckpoint

/-! `capture_coverage_checkpoint.rs`: the proof that a segment is held by archive products, the
time from which it may be deleted, and whether it was. -/

namespace SensorSystem.Host

open Base
open Framing (crc32c)

inductive CaptureCoverageCheckpointError where
  | io (kind : IoErrorKind)
  | invalidSegment
  | noArchiveProducts
  | tooManyArchiveProducts
  | invalidArchiveIdentity
  | duplicateArchiveProduct
  | zeroGracePeriod
  | timestampOverflow
  | captureNotDeletable
  | conflictingDeletionTime
  | alreadyExists
  | invalidMagic
  | unsupportedVersion (version : UInt16)
  | invalidLength
  | checksumMismatch
  | nonZeroReservedField
  | unknownFlags (flags : UInt32)
  | invalidStoredState

structure CaptureCoverageState where
  segment : SegmentKey
  archiveProducts : List ArchiveIdentity
  fullyReplicatedAt : TrustedUnixSeconds
  deleteAfter : TrustedUnixSeconds
  deletedAt : Option TrustedUnixSeconds
deriving DecidableEq

def SegmentKey.IsInvalid (segment : SegmentKey) : Prop :=
  segment.hardwareId = Vector.replicate 8 0 ∨ segment.bootEpoch = 0 ∨
    segment.endExclusive ≤ segment.firstCursor

instance (segment : SegmentKey) : Decidable segment.IsInvalid :=
  inferInstanceAs (Decidable (_ ∨ _))

namespace CaptureCoverageState

abbrev Error := CaptureCoverageCheckpointError

def maxProducts : Nat := 32

def validateSegment (segment : SegmentKey) : Except Error Unit :=
  if segment.IsInvalid then .error .invalidSegment else .ok ()

/-- The loop over the products; `earlier` are those already checked. -/
def checkProducts : List ArchiveIdentity → List ArchiveIdentity → Except Error Unit
  | _, [] => .ok ()
  | earlier, product :: rest =>
    if product.IsZero then .error .invalidArchiveIdentity
    else if product ∈ earlier then .error .duplicateArchiveProduct
    else checkProducts (earlier ++ [product]) rest

def validateProducts (products : List ArchiveIdentity) : Except Error Unit :=
  if products = [] then .error .noArchiveProducts
  else if products.length > maxProducts then .error .tooManyArchiveProducts
  else checkProducts [] products

def fromProof (proof : CaptureCoverageProof) (policy : RetentionPolicy) :
    Except Error CaptureCoverageState := do
  validateSegment proof.segment
  validateProducts proof.archiveProducts
  if policy.captureGraceSeconds = 0 then .error .zeroGracePeriod
  else match checkedAdd proof.fullyReplicatedAt policy.captureGraceSeconds with
    | none => .error .timestampOverflow
    | some deleteAfter =>
      .ok ⟨proof.segment, proof.archiveProducts, proof.fullyReplicatedAt, deleteAfter, none⟩

variable (state : CaptureCoverageState)

def deletable (now : TrustedUnixSeconds) : Bool :=
  state.deletedAt.isNone && state.deleteAfter ≤ now

def markDeleted (time : TrustedUnixSeconds) (state : CaptureCoverageState) :
    Except Error (CaptureCoverageState × Bool) :=
  match state.deletedAt with
  | some existing =>
    if existing = time then .ok (state, false) else .error .conflictingDeletionTime
  | none =>
    if ¬ state.deletable time then .error .captureNotDeletable
    else .ok ({ state with deletedAt := some time }, true)

def magic : List UInt8 := [0x53, 0x53, 0x43, 0x4f, 0x56, 0x43, 0x50, 0x32]
def version : UInt16 := 2
def headerBytes : Nat := 96
def crcBytes : Nat := 4
def knownFlags : UInt32 := deleted

def encodedLength (productCount : Nat) : Except Error Nat :=
  if productCount = 0 ∨ productCount > maxProducts then .error .invalidLength
  else .ok (headerBytes + productCount * identityRow.width + crcBytes)

/-- The file up to its checksum: consecutive writes into a zeroed array. -/
def content (totalLength : Nat) : List UInt8 :=
  magic ++ (u16Bytes version ++ (u16Bytes (UInt16.ofNat headerBytes) ++
    (u32Bytes (UInt32.ofNat totalLength) ++ (keyBytes state.segment ++
      (u64Bytes state.fullyReplicatedAt ++ (u64Bytes state.deleteAfter ++
        (timeBytes state.deletedAt ++ (u32Bytes (deletionFlags state.deletedAt) ++
          (u32Bytes (UInt32.ofNat state.archiveProducts.length) ++ (List.replicate 8 0 ++
            identityRow.table state.archiveProducts))))))))))

def encodeCheckpoint : Except Error (List UInt8) := do
  let totalLength ← encodedLength state.archiveProducts.length
  .ok (state.content totalLength ++ u32Bytes (crc32c (state.content totalLength)))

/-- The part after the checks of the frame. -/
def decodeState (bytes : List UInt8) (productCount : Nat)
    (deletedAt : Option TrustedUnixSeconds) : Except Error CaptureCoverageState := do
  let segment := readKey bytes 16
  let fullyReplicatedAt := readU64 bytes 56
  let deleteAfter := readU64 bytes 64
  validateSegment segment
  if deleteAfter ≤ fullyReplicatedAt ∨ deletedAt.any (· < deleteAfter) then
    .error .invalidStoredState
  else do
    let archiveProducts := identityRow.readTable bytes headerBytes productCount
    validateProducts archiveProducts
    .ok ⟨segment, archiveProducts, fullyReplicatedAt, deleteAfter, deletedAt⟩

def decodeCheckpoint (bytes : List UInt8) : Except Error CaptureCoverageState :=
  if slice bytes 0 8 ≠ magic then .error .invalidMagic
  else if readU16 bytes 8 ≠ version then .error (.unsupportedVersion (readU16 bytes 8))
  else if (readU16 bytes 10).toNat ≠ headerBytes then .error .invalidLength
  else
    let totalLength := (readU32 bytes 12).toNat
    let productCount := (readU32 bytes 84).toNat
    if totalLength ≠ bytes.length then .error .invalidLength
    else do
      let expected ← encodedLength productCount
      if totalLength ≠ expected then .error .invalidLength
      else if crc32c (bytes.take (totalLength - crcBytes)) ≠
          readU32 bytes (totalLength - crcBytes) then .error .checksumMismatch
      else if (slice bytes 88 8).any (· != 0) then .error .nonZeroReservedField
      else
        let flags := readU32 bytes 80
        if flags &&& ~~~knownFlags ≠ 0 then .error (.unknownFlags flags)
        else do
          let deletedAt ← readDeletion .nonZeroReservedField bytes 72 flags
          decodeState bytes productCount deletedAt

/-- `read_checkpoint` on the bytes of the file. -/
def readCheckpoint (file : List UInt8) : Except Error CaptureCoverageState :=
  if file.length < 16 then .error (.io .unexpectedEof)
  else if slice file 0 8 ≠ magic then .error .invalidMagic
  else
    let totalLength := (readU32 file 12).toNat
    if totalLength < headerBytes + identityRow.width + crcBytes ∨
        totalLength > headerBytes + maxProducts * identityRow.width + crcBytes then
      .error .invalidLength
    else if file.length < totalLength then .error (.io .unexpectedEof)
    else if file.length ≠ totalLength then .error .invalidLength
    else decodeCheckpoint file

def format : CheckpointFormat Error CaptureCoverageState where
  encode := encodeCheckpoint
  decode := readCheckpoint

end CaptureCoverageState

abbrev CaptureCoverageCheckpointStore := Checkpoint CaptureCoverageState

namespace CaptureCoverageCheckpointStore

def openFile (file : List UInt8) :
    Except CaptureCoverageCheckpointError CaptureCoverageCheckpointStore :=
  Checkpoint.openFile CaptureCoverageState.format file

/-- `create`, given the file that is there already. -/
def create (existing : Option (List UInt8)) (proof : CaptureCoverageProof)
    (policy : RetentionPolicy) :
    Except CaptureCoverageCheckpointError CaptureCoverageCheckpointStore := do
  let state ← CaptureCoverageState.fromProof proof policy
  match existing with
  | some file => do
    let opened ← openFile file
    if opened.state = state then .ok opened else .error .alreadyExists
  | none => Checkpoint.create CaptureCoverageState.format state

def markDeleted (store : CaptureCoverageCheckpointStore) (time : TrustedUnixSeconds) :
    CaptureCoverageCheckpointStore × Except CaptureCoverageCheckpointError Unit :=
  store.update CaptureCoverageState.format (CaptureCoverageState.markDeleted time)

end CaptureCoverageCheckpointStore
end SensorSystem.Host
