import SensorSystem.Node.Measurement.DeliverySession
import SensorSystem.Node.Protocol.Measurement

/-! `protocol_v3/measurement_handler.h`: one request payload in, one response payload out. The
handler writes into a caller's buffer and says how much of it is the response, and whether a
delivery has to be settled afterwards. -/

namespace SensorSystem.Node

open UInt64 Wire
open Base

structure MeasurementHandlerResult where
  payloadSize : Nat := 0
  completionRequired : Bool := false
  deliveryToken : UInt64 := 0

/-- The handler's result, the response buffer and the session it leaves. -/
abbrev Handled (limits : DeliveryLimits) :=
  MeasurementHandlerResult × List UInt8 × DeliverySession limits

/-- The response payload inside the buffer. -/
def Handled.payload {limits : DeliveryLimits} (handled : Handled limits) : List UInt8 :=
  handled.2.1.take handled.1.payloadSize

def Wire.PullSamplesRequest.command (request : PullSamplesRequest) : PullCommand :=
  ⟨request.bootEpoch, request.start, request.releaseBefore, request.maxSamples⟩

namespace DeliverySession

variable {limits : DeliveryLimits} (session : DeliverySession limits)

/-- `error`: a response of the status byte alone, if there is room for it. -/
def respondError (status : ResponseStatus) (output : List UInt8) : Handled limits :=
  if output.length > 0 then
    ({ payloadSize := 1 }, overwrite output 0 [status.toByte], session)
  else ({}, output, session)

def wireState (state : MeasurementJournalState) : StreamState where
  bootEpoch := session.bootEpoch
  retainedFrom := ofNat state.retainedFrom
  produced := ofNat state.produced
  released := ofNat state.released
  capacitySamples := UInt32.ofNat state.capacitySamples
  overwrittenSamples := ofNat state.discardedSamples

/-- A response that needs no settlement. -/
def respond (encoded : Encoded) : Handled limits :=
  match encoded with
  | (.ok, size, output) => ({ payloadSize := size }, output, session)
  | (_, _, output) => session.respondError .internalError output

/-- A response under a token; a failed encoding aborts the delivery. -/
def respondPrepared (token : UInt64) (encoded : Encoded) : Handled limits :=
  match encoded with
  | (.ok, size, output) =>
    ({ payloadSize := size, completionRequired := true, deliveryToken := token }, output, session)
  | (_, _, output) => (session.abort token).2.respondError .internalError output

def handleGetState (payload output : List UInt8) : Handled limits :=
  if payload.length ≠ 0 then session.respondError .malformedRequest output
  else session.respond
    (encodeStreamStateSuccess (session.wireState session.journal.state) output)

def gapReasonCode : GapReason → GapReasonCode
  | .sourceLoss => .sourceLoss
  | .ingressOverflow => .ingressOverflow
  | _ => .unknownDiscontinuity

def continuityBreakReasonCode : ContinuityBreakReason → ContinuityBreakReasonCode
  | .sensorOverflow => .sensorOverflow
  | .sensorReadUncertain => .sensorReadUncertain
  | .invalidTiming => .invalidTiming
  | .processingReset => .processingReset
  | _ => .unknown

def gapEvidence (prepared : PreparedGap) : Wire.GapEvidence where
  bootEpoch := session.bootEpoch
  retainedFrom := ofNat prepared.retainedFrom
  produced := ofNat prepared.produced
  firstMissing := ofNat prepared.gap.firstMissing
  missingCount := ofNat prepared.gap.missingCount
  reason := gapReasonCode prepared.gap.reason

def continuityBreakEvidence (prepared : PreparedContinuityBreak) :
    Wire.ContinuityBreakEvidence where
  bootEpoch := session.bootEpoch
  retainedFrom := ofNat prepared.retainedFrom
  produced := ofNat prepared.produced
  at_ := ofNat prepared.value.atSequence
  reason := continuityBreakReasonCode prepared.value.reason

def chunkFields (prepared : PreparedChunk) : ChunkFields where
  bootEpoch := session.bootEpoch
  retainedFrom := ofNat prepared.samples.retainedFrom
  produced := ofNat prepared.samples.produced
  first := ofNat prepared.firstSequence
  sampleCount := UInt16.ofNat prepared.samples.sampleCount
  configRevision := prepared.configRevision
  timing :=
    { segmentId := prepared.timingSegmentId
      firstDeviceTimeUs := prepared.timing.firstDeviceTimeUs
      lastDeviceTimeUs := prepared.timing.lastDeviceTimeUs
      maxFitResidualUs := prepared.timing.maxFitResidualUs
      qualityFlags := prepared.timing.qualityFlags }

def readSample (view : MeasurementReadView) (index : Nat) : Option RawSample :=
  if index ≥ view.sampleCount then none
  else
    let source := sampleAt view index
    some ⟨source.x, source.y, source.z⟩

/-- What `handle_pull` does with a plan. -/
def answerPlan (plan : PullPlan) (output : List UInt8) : Handled limits :=
  match plan.decision with
  | .sampleChunk => session.respondPrepared plan.chunk.token
      (encodeSampleChunkView (session.chunkFields plan.chunk) (some (readSample plan.chunk.samples))
        output)
  | .gap => session.respondPrepared plan.gap.token
      (encodePullResponse (.gap (session.gapEvidence plan.gap)) output)
  | .continuityBreak => session.respondPrepared plan.continuityBreak.token
      (encodePullResponse (.continuityBreak (session.continuityBreakEvidence plan.continuityBreak))
        output)
  | .cursorAhead => session.respondError .invalidState output
  | .invalidRequest => session.respondError .malformedRequest output
  | .busy => session.respondError .busy output
  | .internalError => session.respondError .internalError output
  | .streamChanged =>
    session.respond (encodePullResponse (.streamChanged plan.actualBootEpoch) output)
  | .noData =>
    session.respond (encodePullResponse (.state .noData (session.wireState plan.state)) output)
  | .rangeUnavailable =>
    session.respond
      (encodePullResponse (.state .rangeUnavailable (session.wireState plan.state)) output)
  | .invalidRelease =>
    session.respond
      (encodePullResponse (.state .invalidRelease (session.wireState plan.state)) output)

def handlePull (payload output : List UInt8) : Handled limits :=
  match decodePullRequest payload with
  | (.ok, some request) | (.invalidRelease, some request) =>
    let (plan, session) := session.preparePull request.command
    session.answerPlan plan output
  | _ => session.respondError .malformedRequest output

def handleRelease (payload output : List UInt8) : Handled limits :=
  match decodeReleaseRequest payload with
  | (.ok, some request) =>
    let (released, session) := session.release request.bootEpoch request.releaseBefore
    match released.decision with
    | .busy => session.respondError .busy output
    | .internalError => session.respondError .internalError output
    | .applied =>
      session.respond (encodeStreamStateSuccess (session.wireState released.state) output)
    | _ => session.respondError .invalidState output
  | _ => session.respondError .malformedRequest output

def handle (message : UInt8) (payload output : List UInt8) : Handled limits :=
  if message = getStreamStateMessageId then session.handleGetState payload output
  else if message = pullSamplesMessageId then session.handlePull payload output
  else if message = releaseSamplesMessageId then session.handleRelease payload output
  else session.respondError .unsupportedMessage output

end DeliverySession
end SensorSystem.Node
