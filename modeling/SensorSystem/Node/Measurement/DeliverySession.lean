import SensorSystem.Node.Measurement.Journal

/-! `sample_timing.h` and `delivery_session.h`: the rules for exposing one journal to the
measurement service. A pull prepares one piece of the stream under a token; completing the token
marks it delivered, aborting forgets it. -/

namespace SensorSystem.Node

def timingValidFlag : UInt16 := 0x0001

structure TimingSummary where
  firstDeviceTimeUs : UInt64 := 0
  lastDeviceTimeUs : UInt64 := 0
  maxFitResidualUs : UInt32 := 0
  qualityFlags : UInt16 := 0
deriving DecidableEq

/-- The statuses of `summarize_timing` other than `Ok`. -/
inductive TimingSummaryError where
  | emptyRange
  | reversedAnchors
  | nonMonotonicSamples
  | invalidValidAnchors
deriving DecidableEq

variable (view : MeasurementReadView)

def sampleAt (index : Nat) : SampleRecord :=
  if index < view.first.length then view.first.getD index default
  else view.second.getD (index - view.first.length) default

/-- The line through the two anchors, as integers. -/
structure TimingFit where
  start : UInt64
  intervals : UInt64
  wholeStep : UInt64
  remainder : UInt64

/-- The distance of one sample from the line, bounded by `UINT32_MAX`. -/
def TimingFit.residual (fit : TimingFit) (index actual : UInt64) : UInt32 :=
  let scaledRemainder := fit.remainder * index
  let expected := fit.start + fit.wholeStep * index +
    (scaledRemainder + fit.intervals / 2) / fit.intervals
  let residual := if actual > expected then actual - expected else expected - actual
  if residual > 0xffffffff then 0xffffffff else residual.toUInt32

/-- The loop of `summarize_timing` over the samples behind the first. -/
def timingLoop (view : MeasurementReadView) (fit : TimingFit) :
    Nat → Nat → TimingSummary → Bool → UInt64 → Except TimingSummaryError (TimingSummary × Bool)
  | 0, _, output, allValid, _ => .ok (output, allValid)
  | remaining + 1, index, output, allValid, previousTime =>
    let sample := sampleAt view index
    if sample.deviceTimeUs < previousTime then .error .nonMonotonicSamples
    else
      let allValid := allValid && sample.timingQualityFlags &&& timingValidFlag != 0
      let bounded := fit.residual (UInt64.ofNat index) sample.deviceTimeUs
      let output := { output with
        qualityFlags := output.qualityFlags ||| (sample.timingQualityFlags &&& ~~~timingValidFlag)
        maxFitResidualUs :=
          if bounded > output.maxFitResidualUs then bounded else output.maxFitResidualUs }
      timingLoop view fit remaining (index + 1) output allValid sample.deviceTimeUs

def summarizeTiming : Except TimingSummaryError TimingSummary :=
  let count := view.sampleCount
  if count = 0 then .error .emptyRange
  else
    let first := sampleAt view 0
    let last := sampleAt view (count - 1)
    if last.deviceTimeUs < first.deviceTimeUs then .error .reversedAnchors
    else
      let output : TimingSummary :=
        { firstDeviceTimeUs := first.deviceTimeUs
          lastDeviceTimeUs := last.deviceTimeUs
          qualityFlags := first.timingQualityFlags }
      if count = 1 then .ok output
      else
        let intervals := UInt64.ofNat (count - 1)
        let duration := last.deviceTimeUs - first.deviceTimeUs
        let fit : TimingFit :=
          ⟨first.deviceTimeUs, intervals, duration / intervals, duration % intervals⟩
        match timingLoop view fit (count - 1) 1 output
            (first.timingQualityFlags &&& timingValidFlag != 0) first.deviceTimeUs with
        | .error error => .error error
        | .ok (output, allValid) =>
          if !allValid then
            .ok { output with qualityFlags := output.qualityFlags &&& ~~~timingValidFlag }
          else if duration = 0 then .error .invalidValidAnchors
          else .ok output

/-- The template arguments of session and handler with their static assertions.
Forty-nine samples fill a wire payload. -/
structure DeliveryLimits where
  journal : JournalCapacity
  maxChunkSamples : Nat
  journalFits : journal.samples < 2 ^ 32
  chunkPositive : 0 < maxChunkSamples
  chunkFits : maxChunkSamples ≤ 49

def DeliveryLimits.small : DeliveryLimits := ⟨fourSamples, 2, by decide, Nat.two_pos, by decide⟩

structure PullCommand where
  bootEpoch : UInt64
  start : UInt64
  releaseBefore : UInt64
  maxSamples : UInt16

inductive PullDecision where
  | sampleChunk
  | gap
  | continuityBreak
  | noData
  | rangeUnavailable
  | streamChanged
  | invalidRelease
  | cursorAhead
  | invalidRequest
  | busy
  | internalError
deriving DecidableEq

structure PreparedChunk where
  token : UInt64 := 0
  firstSequence : Nat := 0
  endSequence : Nat := 0
  configRevision : UInt32 := 0
  timingSegmentId : UInt32 := 0
  timing : TimingSummary := {}
  samples : MeasurementReadView := ⟨.noData, 0, 0, 0, 0, [], [], {}, {}⟩

structure PreparedGap where
  token : UInt64 := 0
  gap : GapRecord := {}
  retainedFrom : Nat := 0
  produced : Nat := 0

structure PreparedContinuityBreak where
  token : UInt64 := 0
  value : ContinuityBreakRecord := {}
  retainedFrom : Nat := 0
  produced : Nat := 0

structure PullPlan where
  decision : PullDecision := .internalError
  state : MeasurementJournalState
  actualBootEpoch : UInt64
  chunk : PreparedChunk := {}
  gap : PreparedGap := {}
  continuityBreak : PreparedContinuityBreak := {}

inductive ReleaseDecision where
  | applied
  | streamChanged
  | invalidRelease
  | busy
  | internalError

structure ReleaseResult where
  decision : ReleaseDecision
  state : MeasurementJournalState
  actualBootEpoch : UInt64

inductive CompletionStatus where
  | ok
  | noPreparedChunk
  | tokenMismatch
  | journalChanged
deriving DecidableEq

structure DeliverySession (limits : DeliveryLimits) where
  bootEpoch : UInt64
  journal : MeasurementJournal limits.journal
  nextToken : UInt64 := 1
  preparedToken : UInt64 := 0
  preparedEnd : Nat := 0

namespace DeliverySession

variable {limits : DeliveryLimits} (session : DeliverySession limits)

/-- Take the next token for a piece of the stream that ends at a cursor. -/
def hold (endSequence : Nat) : DeliverySession limits :=
  { session with
    preparedToken := session.nextToken
    nextToken := session.nextToken + 1
    preparedEnd := endSequence }

/-- The part of `prepare_pull` that turns a prepared read into a plan. -/
def planRead (plan : PullPlan) (view : MeasurementReadView) : PullPlan × DeliverySession limits :=
  let cancelled := { session with journal := session.journal.cancelPrepared }
  match view.status with
  | .noData => ({ plan with decision := .noData }, session)
  | .rangeUnavailable => ({ plan with decision := .rangeUnavailable }, session)
  | .aheadOfProduced => ({ plan with decision := .cursorAhead }, session)
  | status =>
    if session.nextToken = 0 then ({ plan with decision := .internalError }, cancelled)
    else match status with
      | .gap =>
        let session := session.hold view.endSequence
        ({ plan with
            decision := .gap
            gap := ⟨session.preparedToken, view.gap, view.retainedFrom, view.produced⟩ }, session)
      | .continuityBreak =>
        let session := session.hold view.endSequence
        ({ plan with
            decision := .continuityBreak
            continuityBreak :=
              ⟨session.preparedToken, view.continuityBreak, view.retainedFrom, view.produced⟩ },
          session)
      | .samples =>
        match summarizeTiming view with
        | .error _ => ({ plan with decision := .internalError }, cancelled)
        | .ok timing =>
          let first := sampleAt view 0
          let session := session.hold view.endSequence
          ({ plan with
              decision := .sampleChunk
              chunk :=
                { token := session.preparedToken
                  firstSequence := view.firstSequence
                  endSequence := view.endSequence
                  configRevision := first.configRevision
                  timingSegmentId := first.timingSegmentId
                  timing
                  samples := view } }, session)
      | _ => ({ plan with decision := .internalError }, cancelled)

def preparePull (command : PullCommand) : PullPlan × DeliverySession limits :=
  let plan : PullPlan := { actualBootEpoch := session.bootEpoch, state := session.journal.state }
  if session.preparedToken ≠ 0 then ({ plan with decision := .busy }, session)
  else if session.bootEpoch = 0 then ({ plan with decision := .internalError }, session)
  else if command.bootEpoch ≠ session.bootEpoch then
    ({ plan with decision := .streamChanged }, session)
  else if command.maxSamples = 0 then ({ plan with decision := .invalidRequest }, session)
  else if command.releaseBefore > command.start then
    ({ plan with decision := .invalidRelease }, session)
  else
    match session.journal.releaseBefore command.releaseBefore.toNat with
    | (.beyondDeliveredRange, journal) =>
      ({ plan with state := journal.state, decision := .invalidRelease }, { session with journal })
    | (.ok, journal) =>
      let requested := if command.maxSamples.toNat < limits.maxChunkSamples
        then command.maxSamples.toNat else limits.maxChunkSamples
      let (view, journal) := journal.prepareRead command.start.toNat requested
      planRead { session with journal } { plan with state := journal.state } view

def clearPreparedState : DeliverySession limits :=
  { session with preparedToken := 0, preparedEnd := 0 }

def complete (token : UInt64) : CompletionStatus × DeliverySession limits :=
  if session.preparedToken = 0 then (.noPreparedChunk, session)
  else if token ≠ session.preparedToken then (.tokenMismatch, session)
  else
    let (status, journal) := session.journal.markDelivered session.preparedEnd
    (if status = .ok then .ok else .journalChanged,
      { session with journal }.clearPreparedState)

def abort (token : UInt64) : CompletionStatus × DeliverySession limits :=
  if session.preparedToken = 0 then (.noPreparedChunk, session)
  else if token ≠ session.preparedToken then (.tokenMismatch, session)
  else (.ok, { session with journal := session.journal.cancelPrepared }.clearPreparedState)

def release (bootEpoch releaseBefore : UInt64) : ReleaseResult × DeliverySession limits :=
  let result (decision : ReleaseDecision) : ReleaseResult :=
    { decision, state := session.journal.state, actualBootEpoch := session.bootEpoch }
  if session.preparedToken ≠ 0 then (result .busy, session)
  else if session.bootEpoch = 0 then (result .internalError, session)
  else if bootEpoch ≠ session.bootEpoch then (result .streamChanged, session)
  else
    match session.journal.releaseBefore releaseBefore.toNat with
    | (.beyondDeliveredRange, journal) => (result .invalidRelease, { session with journal })
    | (.ok, journal) =>
      ({ result .applied with state := journal.state }, { session with journal })

end DeliverySession
end SensorSystem.Node
