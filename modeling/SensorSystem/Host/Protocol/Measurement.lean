import SensorSystem.Host.Core.Stream

/-! `measurement.rs`: the pull request, the evidence a node may answer with, and the checks the
host applies to each. A check returns its own argument in the source; here it returns nothing, and
callers keep using the value they checked. -/

namespace SensorSystem.Host

inductive MeasurementContractError where
  | zeroBootEpoch
  | zeroJournalCapacity
  | zeroSampleLimit
  | releaseAheadOfRequest
  | streamChanged
  | requestedRangeUnavailable
  | unexpectedFirstSequence
  | emptySampleChunk
  | sampleLimitExceeded
  | sequenceOverflow
  | retainedAheadOfProduced
  | releasedAheadOfProduced
  | chunkAheadOfProduced
  | firstBeforeRetained
  | emptyGap
  | gapBeforeRetained
  | gapAheadOfProduced
  | invalidExactGapReason
  | breakBeforeRetained
  | breakAheadOfProduced
deriving DecidableEq

structure PullSamplesRequest where
  bootEpoch : BootEpoch
  start : SequenceCursor
  releaseBefore : SequenceCursor
  maxSamples : UInt16
deriving DecidableEq

def PullSamplesRequest.new (bootEpoch : BootEpoch) (start releaseBefore : SequenceCursor)
    (maxSamples : UInt16) : Except MeasurementContractError PullSamplesRequest :=
  if bootEpoch = 0 then .error .zeroBootEpoch
  else if maxSamples = 0 then .error .zeroSampleLimit
  else if releaseBefore > start then .error .releaseAheadOfRequest
  else .ok ⟨bootEpoch, start, releaseBefore, maxSamples⟩

variable (request : PullSamplesRequest)

/-- The requests that `PullSamplesRequest::new` builds. -/
def PullSamplesRequest.Valid : Prop :=
  PullSamplesRequest.new request.bootEpoch request.start request.releaseBefore
    request.maxSamples = .ok request

instance (request : PullSamplesRequest) : Decidable request.Valid :=
  inferInstanceAs (Decidable (_ = _))

theorem PullSamplesRequest.valid_iff : request.Valid ↔
    request.bootEpoch ≠ 0 ∧ request.maxSamples ≠ 0 ∧ request.releaseBefore ≤ request.start := by
  rw [PullSamplesRequest.Valid, PullSamplesRequest.new]
  split
  · simp_all
  split
  · simp_all
  split
  · rename_i ahead
    simp [UInt64.not_le.mpr ahead]
  rename_i epoch limit ordered
  simp [epoch, limit, UInt64.not_lt.mp ordered]

structure StreamState where
  bootEpoch : BootEpoch
  retainedFrom : SequenceCursor
  produced : SequenceCursor
  released : SequenceCursor
  capacitySamples : UInt32
  overwrittenSamples : UInt64
deriving DecidableEq

def StreamState.validate (state : StreamState) : Except MeasurementContractError Unit :=
  if state.bootEpoch = 0 then .error .zeroBootEpoch
  else if state.capacitySamples = 0 then .error .zeroJournalCapacity
  else if state.retainedFrom > state.produced then .error .retainedAheadOfProduced
  else if state.released > state.produced then .error .releasedAheadOfProduced
  else .ok ()

structure SampleChunkHeader where
  bootEpoch : BootEpoch
  retainedFrom : SequenceCursor
  produced : SequenceCursor
  first : SequenceCursor
  sampleCount : UInt16
deriving DecidableEq

namespace SampleChunkHeader

variable (header : SampleChunkHeader)

def validateStructure : Except MeasurementContractError Unit :=
  if header.bootEpoch = 0 then .error .zeroBootEpoch
  else if header.retainedFrom > header.produced then .error .retainedAheadOfProduced
  else if header.sampleCount = 0 then .error .emptySampleChunk
  else if header.first < header.retainedFrom then .error .firstBeforeRetained
  else match checkedAdd header.first header.sampleCount.toUInt64 with
    | none => .error .sequenceOverflow
    | some stop => if stop > header.produced then .error .chunkAheadOfProduced else .ok ()

def validateFor (request : PullSamplesRequest) : Except MeasurementContractError Unit :=
  if header.bootEpoch ≠ request.bootEpoch then .error .streamChanged
  else match header.validateStructure with
    | .error error => .error error
    | .ok () =>
      if request.start < header.retainedFrom then .error .requestedRangeUnavailable
      else if header.first ≠ request.start then .error .unexpectedFirstSequence
      else if header.sampleCount > request.maxSamples then .error .sampleLimitExceeded
      else .ok ()

/-- `SampleChunkHeader::end`; `none` is its `SequenceOverflow`. -/
def endCursor : Option SequenceCursor :=
  checkedAdd header.first header.sampleCount.toUInt64

end SampleChunkHeader

structure GapEvidence where
  bootEpoch : BootEpoch
  retainedFrom : SequenceCursor
  produced : SequenceCursor
  firstMissing : SequenceCursor
  missingCount : UInt64
  reason : GapReason

namespace GapEvidence

variable (gap : GapEvidence)

def endCursor : Option SequenceCursor :=
  checkedAdd gap.firstMissing gap.missingCount

def validateStructure : Except MeasurementContractError Unit :=
  if gap.bootEpoch = 0 then .error .zeroBootEpoch
  else if gap.retainedFrom > gap.produced then .error .retainedAheadOfProduced
  else if gap.missingCount = 0 then .error .emptyGap
  else if gap.reason = .journalOverflow then .error .invalidExactGapReason
  else if gap.firstMissing < gap.retainedFrom then .error .gapBeforeRetained
  else match gap.endCursor with
    | none => .error .sequenceOverflow
    | some stop => if stop > gap.produced then .error .gapAheadOfProduced else .ok ()

def validateFor (request : PullSamplesRequest) : Except MeasurementContractError Unit :=
  if gap.bootEpoch ≠ request.bootEpoch then .error .streamChanged
  else match gap.validateStructure with
    | .error error => .error error
    | .ok () =>
      if request.start < gap.retainedFrom then .error .requestedRangeUnavailable
      else if gap.firstMissing ≠ request.start then .error .unexpectedFirstSequence
      else .ok ()

end GapEvidence

structure ContinuityBreakEvidence where
  bootEpoch : BootEpoch
  retainedFrom : SequenceCursor
  produced : SequenceCursor
  at_ : SequenceCursor
  reason : ContinuityBreakReason

namespace ContinuityBreakEvidence

variable (mark : ContinuityBreakEvidence)

def endCursor : Option SequenceCursor :=
  checkedAdd mark.at_ 1

def validateStructure : Except MeasurementContractError Unit :=
  if mark.bootEpoch = 0 then .error .zeroBootEpoch
  else if mark.retainedFrom > mark.produced then .error .retainedAheadOfProduced
  else if mark.at_ < mark.retainedFrom then .error .breakBeforeRetained
  else match mark.endCursor with
    | none => .error .sequenceOverflow
    | some stop => if stop > mark.produced then .error .breakAheadOfProduced else .ok ()

def validateFor (request : PullSamplesRequest) : Except MeasurementContractError Unit :=
  if mark.bootEpoch ≠ request.bootEpoch then .error .streamChanged
  else match mark.validateStructure with
    | .error error => .error error
    | .ok () =>
      if request.start < mark.retainedFrom then .error .requestedRangeUnavailable
      else if mark.at_ ≠ request.start then .error .unexpectedFirstSequence
      else .ok ()

end ContinuityBreakEvidence
end SensorSystem.Host
