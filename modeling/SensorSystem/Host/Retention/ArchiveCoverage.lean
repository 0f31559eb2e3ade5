import SensorSystem.Base.Results
import SensorSystem.Base.Spans
import SensorSystem.Host.Core.Stream

/-! `archive_coverage.rs`: a capture segment may be deleted when the archive products that were
replicated cover it without a hole or an overlap. -/

namespace SensorSystem.Host

open Base

abbrev TrustedUnixSeconds := UInt64

structure SegmentKey where
  hardwareId : HardwareId
  bootEpoch : BootEpoch
  windowOrdinal : UInt64
  firstCursor : SequenceCursor
  endExclusive : SequenceCursor
deriving DecidableEq

structure ArchiveIdentity where
  productId : Vector UInt8 16
  sha256 : Vector UInt8 32
deriving DecidableEq

inductive ArchivePartition where
  | utcHour (start : TrustedUnixSeconds)
  | timeUnresolved (bootEpoch : BootEpoch) (firstCursor endExclusive : SequenceCursor)

structure ArchiveRevision where
  number : UInt32
  supersedesProductId : Option (Vector UInt8 16)

structure ArchiveInputSpan where
  segment : SegmentKey
  firstCursor : SequenceCursor
  endExclusive : SequenceCursor

structure ArchiveCoverageIndex where
  archive : ArchiveIdentity
  hardwareId : HardwareId
  partition : ArchivePartition
  revision : ArchiveRevision
  inputs : List ArchiveInputSpan

/-- The errors of validation and of the proof. -/
inductive ArchiveCoverageError where
  | invalidArchiveIdentity
  | invalidHardwareId
  | unalignedUtcHour
  | invalidUnresolvedPartition
  | invalidRevision
  | noInputs
  | tooManyInputs
  | invalidSegment
  | hardwareMismatch
  | spanOutsideSegment
  | spanOutsidePartition
  | overlappingInputs
  | acknowledgementBeforeVerification
  | duplicateProduct
  | supersededProductPresent
  | noProducts
  | coverageGap (expected actual : SequenceCursor)
  | coverageOverlap
  | coverageIncomplete (expected actual : SequenceCursor)
deriving DecidableEq

def maxSpans : Nat := 1024

variable (archive : ArchiveIdentity)

def validateArchiveIdentity : Except ArchiveCoverageError Unit :=
  if archive.productId = Vector.replicate 16 0 ∨ archive.sha256 = Vector.replicate 32 0 then
    .error .invalidArchiveIdentity
  else .ok ()

def validateRevision (revision : ArchiveRevision) : Except ArchiveCoverageError Unit :=
  match decide (revision.number = 0), revision.supersedesProductId with
  | true, none => .ok ()
  | true, some _ => .error .invalidRevision
  | false, none => .error .invalidRevision
  | false, some productId =>
    if productId = Vector.replicate 16 0 ∨ productId = archive.productId then
      .error .invalidRevision
    else .ok ()

def validateSegment (segment : SegmentKey) : Except ArchiveCoverageError Unit :=
  if segment.hardwareId = Vector.replicate 8 0 ∨ segment.bootEpoch = 0 ∨
      segment.endExclusive ≤ segment.firstCursor then .error .invalidSegment
  else .ok ()

def validatePartition : ArchivePartition → Except ArchiveCoverageError Unit
  | .utcHour start => if start % 3600 ≠ 0 then .error .unalignedUtcHour else .ok ()
  | .timeUnresolved bootEpoch firstCursor endExclusive =>
    if bootEpoch = 0 ∨ endExclusive ≤ firstCursor then .error .invalidUnresolvedPartition
    else .ok ()

def validateSpan (hardwareId : HardwareId) (partition : ArchivePartition)
    (span : ArchiveInputSpan) : Except ArchiveCoverageError Unit := do
  validateSegment span.segment
  if span.segment.hardwareId ≠ hardwareId then .error .hardwareMismatch
  else if span.firstCursor < span.segment.firstCursor ∨
      span.endExclusive > span.segment.endExclusive ∨ span.endExclusive ≤ span.firstCursor then
    .error .spanOutsideSegment
  else match partition with
    | .timeUnresolved bootEpoch firstCursor endExclusive =>
      if span.segment.bootEpoch ≠ bootEpoch ∨ span.firstCursor < firstCursor ∨
          span.endExclusive > endExclusive then .error .spanOutsidePartition
      else .ok ()
    | .utcHour _ => .ok ()

def rangesOverlap (firstA endA firstB endB : SequenceCursor) : Bool :=
  firstA < endB && firstB < endA

/-- The loop over the inputs; `earlier` are those already checked. -/
def validateInputs (hardwareId : HardwareId) (partition : ArchivePartition) :
    List ArchiveInputSpan → List ArchiveInputSpan → Except ArchiveCoverageError Unit
  | _, [] => .ok ()
  | earlier, input :: rest => do
    validateSpan hardwareId partition input
    if earlier.any fun other => other.segment = input.segment ∧ rangesOverlap other.firstCursor
        other.endExclusive input.firstCursor input.endExclusive then .error .overlappingInputs
    else validateInputs hardwareId partition (earlier ++ [input]) rest

def ArchiveCoverageIndex.validate (index : ArchiveCoverageIndex) :
    Except ArchiveCoverageError Unit := do
  validateArchiveIdentity index.archive
  if index.hardwareId = Vector.replicate 8 0 then .error .invalidHardwareId
  else do
    validateRevision index.archive index.revision
    validatePartition index.partition
    if index.inputs = [] then .error .noInputs
    else if index.inputs.length > maxSpans then .error .tooManyInputs
    else validateInputs index.hardwareId index.partition [] index.inputs

structure ReplicatedArchiveCoverage where
  index : ArchiveCoverageIndex
  verifiedAt : TrustedUnixSeconds
  acknowledgedAt : TrustedUnixSeconds

structure CaptureCoverageProof where
  segment : SegmentKey
  archiveProducts : List ArchiveIdentity
  fullyReplicatedAt : TrustedUnixSeconds
deriving DecidableEq

/-- A span with the product it comes from. -/
abbrev CoveredSpan := ArchiveInputSpan × ArchiveIdentity

/-- Any sort by the first cursor; `sort_unstable_by_key` leaves equals open. -/
structure SpanSort where
  sort : List CoveredSpan → List CoveredSpan
  perm : ∀ spans, (sort spans).Perm spans
  sorted : ∀ spans, (sort spans).Pairwise fun earlier later =>
    earlier.1.firstCursor ≤ later.1.firstCursor

/-- The state of the loop over the products. -/
structure CoverageEvidence where
  covered : List CoveredSpan := []
  productIds : List (Vector UInt8 16) := []
  latestAck : Option TrustedUnixSeconds := none

/-- The spans of one product that name the segment. -/
def ReplicatedArchiveCoverage.spans (evidence : ReplicatedArchiveCoverage)
    (segment : SegmentKey) : List CoveredSpan :=
  (evidence.index.inputs.filter (·.segment = segment)).map fun input =>
    (input, evidence.index.archive)

def ReplicatedArchiveCoverage.productId (evidence : ReplicatedArchiveCoverage) : Vector UInt8 16 :=
  evidence.index.archive.productId

def gatherEvidence (segment : SegmentKey) :
    CoverageEvidence → List ReplicatedArchiveCoverage → Except ArchiveCoverageError CoverageEvidence
  | gathered, [] => .ok gathered
  | gathered, evidence :: rest => do
    evidence.index.validate
    if evidence.acknowledgedAt < evidence.verifiedAt then
      .error .acknowledgementBeforeVerification
    else if evidence.productId ∈ gathered.productIds then .error .duplicateProduct
    else
      let spans := evidence.spans segment
      gatherEvidence segment
        { covered := gathered.covered ++ spans
          productIds := gathered.productIds ++ [evidence.productId]
          latestAck := if spans = [] then gathered.latestAck
            else some ((gathered.latestAck.map (max · evidence.acknowledgedAt)).getD
              evidence.acknowledgedAt) } rest

/-- The loop over the sorted spans: where the next one begins, and the products. -/
def followSpans : SequenceCursor → List ArchiveIdentity → List CoveredSpan →
    Except ArchiveCoverageError (SequenceCursor × List ArchiveIdentity)
  | expected, archives, [] => .ok (expected, archives)
  | expected, archives, (span, archive) :: rest =>
    if span.firstCursor < expected then .error .coverageOverlap
    else if span.firstCursor > expected then .error (.coverageGap expected span.firstCursor)
    else followSpans span.endExclusive
      (if archive ∈ archives then archives else archives ++ [archive]) rest

def proveCaptureCoverage (sorter : SpanSort) (segment : SegmentKey)
    (products : List ReplicatedArchiveCoverage) :
    Except ArchiveCoverageError CaptureCoverageProof := do
  validateSegment segment
  let gathered ← gatherEvidence segment {} products
  if products.any fun evidence => evidence.index.revision.supersedesProductId.any
      (· ∈ gathered.productIds) then .error .supersededProductPresent
  else if gathered.covered = [] then .error .noProducts
  else do
    let (expected, archives) ← followSpans segment.firstCursor [] (sorter.sort gathered.covered)
    if expected ≠ segment.endExclusive then
      .error (.coverageIncomplete segment.endExclusive expected)
    else match gathered.latestAck with
      | none => .error .noProducts
      | some fullyReplicatedAt => .ok ⟨segment, archives, fullyReplicatedAt⟩

end SensorSystem.Host
