import SensorSystem.Host.Protocol.Framing
import SensorSystem.Host.Protocol.Measurement

/-! `measurement_wire.rs`: fixed-offset little-endian layouts of the pull request and of the seven
pull responses. An encoder writes into a caller's payload buffer and reports how much of it is the
message. -/

namespace SensorSystem.Host

open Base
open Framing (maxPayloadBytes)

def streamStateFieldsBytes : Nat := 44
def pullRequestBytes : Nat := 26
def chunkFixedBytes : Nat := 66
def gapResponseBytes : Nat := 43
def continuityBreakResponseBytes : Nat := 35
def maxWireChunkSamples : Nat := (maxPayloadBytes - chunkFixedBytes) / 9

def timingValid : UInt16 := 0x0001
def knownTimingFlags : UInt16 := 0x001f

/-- Status byte in front of every application response. -/
inductive ResponseStatus where
  | ok
  | malformedRequest
  | unsupportedService
  | unsupportedMessage
  | wrongMode
  | busy
  | conflict
  | invalidState
  | internalError
deriving DecidableEq

variable (value : UInt8)

def ResponseStatus.tryFrom : Option ResponseStatus :=
  match value.toNat with
  | 0 => some .ok
  | 1 => some .malformedRequest
  | 2 => some .unsupportedService
  | 3 => some .unsupportedMessage
  | 4 => some .wrongMode
  | 5 => some .busy
  | 6 => some .conflict
  | 7 => some .invalidState
  | 8 => some .internalError
  | _ => none

inductive PullResultCode where
  | sampleChunk
  | noData
  | rangeUnavailable
  | streamChanged
  | invalidRelease
  | gap
  | continuityBreak

def PullResultCode.toByte : PullResultCode → UInt8
  | sampleChunk => 0
  | noData => 1
  | rangeUnavailable => 2
  | streamChanged => 3
  | invalidRelease => 4
  | gap => 5
  | continuityBreak => 6

inductive MeasurementWireError where
  | invalidLength
  | unknownResponseStatus (value : UInt8)
  | remoteError (status : ResponseStatus)
  | unknownResult (value : UInt8)
  | unknownTimingFlags (bits : UInt16)
  | zeroTimingSegment
  | reversedTimingAnchors
  | invalidSingleSampleTiming
  | collapsedTimingAnchors
  | zeroConfigRevision
  | sampleCountMismatch
  | chunkTooLarge
  | invalidAxis
  | invalidGapReason
  | unknownGapReason (value : UInt8)
  | unknownContinuityBreakReason (value : UInt8)
  | contract (error : MeasurementContractError)
deriving DecidableEq

def PullResultCode.tryFrom : Except MeasurementWireError PullResultCode :=
  match value.toNat with
  | 0 => .ok .sampleChunk
  | 1 => .ok .noData
  | 2 => .ok .rangeUnavailable
  | 3 => .ok .streamChanged
  | 4 => .ok .invalidRelease
  | 5 => .ok .gap
  | 6 => .ok .continuityBreak
  | _ => .error (.unknownResult value)

structure TimingEvidence where
  segmentId : UInt32
  firstDeviceTimeUs : UInt64
  lastDeviceTimeUs : UInt64
  maxFitResidualUs : UInt32
  qualityFlags : UInt16
deriving DecidableEq

def TimingEvidence.validate (timing : TimingEvidence) (sampleCount : UInt16) :
    Except MeasurementWireError Unit :=
  if timing.segmentId = 0 then .error .zeroTimingSegment
  else if timing.qualityFlags &&& ~~~knownTimingFlags ≠ 0 then
    .error (.unknownTimingFlags (timing.qualityFlags &&& ~~~knownTimingFlags))
  else if timing.lastDeviceTimeUs < timing.firstDeviceTimeUs then .error .reversedTimingAnchors
  else if timing.qualityFlags &&& timingValid ≠ 0 then
    if sampleCount = 1 ∧ timing.lastDeviceTimeUs ≠ timing.firstDeviceTimeUs then
      .error .invalidSingleSampleTiming
    else if sampleCount > 1 ∧ timing.lastDeviceTimeUs = timing.firstDeviceTimeUs then
      .error .collapsedTimingAnchors
    else .ok ()
  else .ok ()

structure SampleChunk where
  header : SampleChunkHeader
  configRevision : UInt32
  timing : TimingEvidence
  samples : List SampleAxes
deriving DecidableEq

/-- The conversion behind `?` on a contract check. -/
def contractCheck (result : Except MeasurementContractError Unit) :
    Except MeasurementWireError Unit :=
  result.mapError .contract

def SampleChunk.validate (chunk : SampleChunk) : Except MeasurementWireError Unit := do
  contractCheck chunk.header.validateStructure
  if chunk.configRevision = 0 then .error .zeroConfigRevision
  else if chunk.samples.length ≠ chunk.header.sampleCount.toNat then .error .sampleCountMismatch
  else if chunk.samples.length > maxWireChunkSamples then .error .chunkTooLarge
  else chunk.timing.validate chunk.header.sampleCount

inductive PullResponse where
  | sampleChunk (chunk : SampleChunk)
  | noData (state : StreamState)
  | rangeUnavailable (state : StreamState)
  | streamChanged (epoch : BootEpoch)
  | invalidRelease (state : StreamState)
  | gap (evidence : GapEvidence)
  | continuityBreak (evidence : ContinuityBreakEvidence)

/-- The check each kind of response applies to its own value. -/
def PullResponse.validate : PullResponse → Except MeasurementWireError Unit
  | sampleChunk chunk => chunk.validate
  | noData state | rangeUnavailable state | invalidRelease state => contractCheck state.validate
  | streamChanged epoch => if epoch = 0 then .error (.contract .zeroBootEpoch) else .ok ()
  | gap evidence => contractCheck evidence.validateStructure
  | continuityBreak evidence => contractCheck evidence.validateStructure

def encodePullRequest (request : PullSamplesRequest) : List UInt8 :=
  let output := List.replicate pullRequestBytes 0
  let output := overwrite output 0 (u64Bytes request.bootEpoch)
  let output := overwrite output 8 (u64Bytes request.start)
  let output := overwrite output 16 (u64Bytes request.releaseBefore)
  overwrite output 24 (u16Bytes request.maxSamples)

variable (payload : List UInt8)

def requireLength (expected : Nat) : Except MeasurementWireError Unit :=
  if payload.length = expected then .ok () else .error .invalidLength

def decodePullRequest : Except MeasurementWireError PullSamplesRequest := do
  requireLength payload pullRequestBytes
  (PullSamplesRequest.new (readU64 payload 0) (readU64 payload 8) (readU64 payload 16)
    (readU16 payload 24)).mapError .contract

/-- `i32::to_le_bytes`. -/
def i32Bytes (value : Int) : List UInt8 :=
  leBytes 4 (value % 2 ^ 32).toNat

/-- `i32::from_le_bytes`. -/
def i32FromBytes (bytes : List UInt8) : Int :=
  let raw := leValue bytes
  if raw < 2 ^ 31 then raw else (raw : Int) - 2 ^ 32

def encodeI24 (axis : SampleAxis) : List UInt8 :=
  (i32Bytes axis.value).take 3

def decodeI24 (input : List UInt8) : Except MeasurementWireError SampleAxis :=
  let sign : UInt8 := if input.getD 2 0 &&& 0x80 = 0 then 0 else 0xff
  match SampleAxis.new (i32FromBytes (input ++ [sign])) with
  | some axis => .ok axis
  | none => .error .invalidAxis

def encodeSamples : List SampleAxes → Nat → List UInt8 → List UInt8
  | [], _, output => output
  | sample :: samples, index, output =>
    let offset := chunkFixedBytes + index * 9
    let output := overwrite output offset (encodeI24 sample.x)
    let output := overwrite output (offset + 3) (encodeI24 sample.y)
    let output := overwrite output (offset + 6) (encodeI24 sample.z)
    encodeSamples samples (index + 1) output

def encodeChunk (chunk : SampleChunk) (output : List UInt8) : List UInt8 :=
  let output := overwrite output 2 (u64Bytes chunk.header.bootEpoch)
  let output := overwrite output 10 (u64Bytes chunk.header.retainedFrom)
  let output := overwrite output 18 (u64Bytes chunk.header.produced)
  let output := overwrite output 26 (u64Bytes chunk.header.first)
  let output := overwrite output 34 (u16Bytes chunk.header.sampleCount)
  let output := overwrite output 36 (u32Bytes chunk.configRevision)
  let output := overwrite output 40 (u32Bytes chunk.timing.segmentId)
  let output := overwrite output 44 (u64Bytes chunk.timing.firstDeviceTimeUs)
  let output := overwrite output 52 (u64Bytes chunk.timing.lastDeviceTimeUs)
  let output := overwrite output 60 (u32Bytes chunk.timing.maxFitResidualUs)
  let output := overwrite output 64 (u16Bytes chunk.timing.qualityFlags)
  encodeSamples chunk.samples 0 output

/-- The loop of `decode_chunk`; `remaining` counts the samples still to read. -/
def decodeSamples (payload : List UInt8) : Nat → Nat → Except MeasurementWireError (List SampleAxes)
  | 0, _ => .ok []
  | remaining + 1, index => do
    let offset := chunkFixedBytes + index * 9
    let x ← decodeI24 (slice payload offset 3)
    let y ← decodeI24 (slice payload (offset + 3) 3)
    let z ← decodeI24 (slice payload (offset + 6) 3)
    let rest ← decodeSamples payload remaining (index + 1)
    .ok (⟨x, y, z⟩ :: rest)

def decodeChunk : Except MeasurementWireError SampleChunk :=
  if payload.length < chunkFixedBytes then .error .invalidLength
  else do
    let count := readU16 payload 34
    requireLength payload (chunkFixedBytes + count.toNat * 9)
    let samples ← decodeSamples payload count.toNat 0
    let chunk : SampleChunk := {
      header := {
        bootEpoch := readU64 payload 2
        retainedFrom := readU64 payload 10
        produced := readU64 payload 18
        first := readU64 payload 26
        sampleCount := count }
      configRevision := readU32 payload 36
      timing := {
        segmentId := readU32 payload 40
        firstDeviceTimeUs := readU64 payload 44
        lastDeviceTimeUs := readU64 payload 52
        maxFitResidualUs := readU32 payload 60
        qualityFlags := readU16 payload 64 }
      samples := samples }
    chunk.validate
    .ok chunk

def gapReasonByte : GapReason → Except MeasurementWireError UInt8
  | .unknownDiscontinuity => .ok 0
  | .sourceLoss => .ok 1
  | .ingressOverflow => .ok 2
  | .journalOverflow => .error .invalidGapReason

def gapReasonOf : Except MeasurementWireError GapReason :=
  match value.toNat with
  | 0 => .ok .unknownDiscontinuity
  | 1 => .ok .sourceLoss
  | 2 => .ok .ingressOverflow
  | _ => .error (.unknownGapReason value)

def encodeGap (gap : GapEvidence) (output : List UInt8) :
    Except MeasurementWireError (Nat × List UInt8) := do
  contractCheck gap.validateStructure
  let output := overwrite output 1 [PullResultCode.gap.toByte]
  let output := overwrite output 2 (u64Bytes gap.bootEpoch)
  let output := overwrite output 10 (u64Bytes gap.retainedFrom)
  let output := overwrite output 18 (u64Bytes gap.produced)
  let output := overwrite output 26 (u64Bytes gap.firstMissing)
  let output := overwrite output 34 (u64Bytes gap.missingCount)
  let reason ← gapReasonByte gap.reason
  .ok (gapResponseBytes, overwrite output 42 [reason])

def decodeGap : Except MeasurementWireError GapEvidence := do
  requireLength payload gapResponseBytes
  let reason ← gapReasonOf (payload.getD 42 0)
  let gap : GapEvidence := {
    bootEpoch := readU64 payload 2
    retainedFrom := readU64 payload 10
    produced := readU64 payload 18
    firstMissing := readU64 payload 26
    missingCount := readU64 payload 34
    reason := reason }
  contractCheck gap.validateStructure
  .ok gap

def breakReasonByte : ContinuityBreakReason → UInt8
  | .unknown => 0
  | .sensorOverflow => 1
  | .sensorReadUncertain => 2
  | .invalidTiming => 3
  | .processingReset => 4

def breakReasonOf : Except MeasurementWireError ContinuityBreakReason :=
  match value.toNat with
  | 0 => .ok .unknown
  | 1 => .ok .sensorOverflow
  | 2 => .ok .sensorReadUncertain
  | 3 => .ok .invalidTiming
  | 4 => .ok .processingReset
  | _ => .error (.unknownContinuityBreakReason value)

def encodeContinuityBreak (mark : ContinuityBreakEvidence) (output : List UInt8) :
    Except MeasurementWireError (Nat × List UInt8) := do
  contractCheck mark.validateStructure
  let output := overwrite output 1 [PullResultCode.continuityBreak.toByte]
  let output := overwrite output 2 (u64Bytes mark.bootEpoch)
  let output := overwrite output 10 (u64Bytes mark.retainedFrom)
  let output := overwrite output 18 (u64Bytes mark.produced)
  let output := overwrite output 26 (u64Bytes mark.at_)
  .ok (continuityBreakResponseBytes, overwrite output 34 [breakReasonByte mark.reason])

def decodeContinuityBreak : Except MeasurementWireError ContinuityBreakEvidence := do
  requireLength payload continuityBreakResponseBytes
  let reason ← breakReasonOf (payload.getD 34 0)
  let mark : ContinuityBreakEvidence := {
    bootEpoch := readU64 payload 2
    retainedFrom := readU64 payload 10
    produced := readU64 payload 18
    at_ := readU64 payload 26
    reason := reason }
  contractCheck mark.validateStructure
  .ok mark

/-- The source passes the sub-slice from `base` on. -/
def encodeStreamStateFields (state : StreamState) (base : Nat) (output : List UInt8) : List UInt8 :=
  let output := overwrite output base (u64Bytes state.bootEpoch)
  let output := overwrite output (base + 8) (u64Bytes state.retainedFrom)
  let output := overwrite output (base + 16) (u64Bytes state.produced)
  let output := overwrite output (base + 24) (u64Bytes state.released)
  let output := overwrite output (base + 32) (u32Bytes state.capacitySamples)
  overwrite output (base + 36) (u64Bytes state.overwrittenSamples)

def decodeStreamStateFields : Except MeasurementWireError StreamState := do
  requireLength payload streamStateFieldsBytes
  let state : StreamState := {
    bootEpoch := readU64 payload 0
    retainedFrom := readU64 payload 8
    produced := readU64 payload 16
    released := readU64 payload 24
    capacitySamples := readU32 payload 32
    overwrittenSamples := readU64 payload 36 }
  contractCheck state.validate
  .ok state

def encodeStateResult (code : PullResultCode) (state : StreamState) (output : List UInt8) :
    Except MeasurementWireError (Nat × List UInt8) := do
  contractCheck state.validate
  let output := overwrite output 1 [code.toByte]
  .ok (46, encodeStreamStateFields state 2 output)

def decodeStateResult : Except MeasurementWireError StreamState := do
  requireLength payload 46
  decodeStreamStateFields (payload.drop 2)

/-- The number of message bytes and the payload buffer that starts with them. -/
def encodePullResponse (response : PullResponse) (output : List UInt8) :
    Except MeasurementWireError (Nat × List UInt8) :=
  let output := overwrite output 0 [0]
  match response with
  | .sampleChunk chunk => do
    chunk.validate
    let output := overwrite output 1 [PullResultCode.sampleChunk.toByte]
    .ok (chunkFixedBytes + chunk.samples.length * 9, encodeChunk chunk output)
  | .noData state => encodeStateResult .noData state output
  | .rangeUnavailable state => encodeStateResult .rangeUnavailable state output
  | .streamChanged epoch =>
    if epoch = 0 then .error (.contract .zeroBootEpoch)
    else
      let output := overwrite output 1 [PullResultCode.streamChanged.toByte]
      .ok (10, overwrite output 2 (u64Bytes epoch))
  | .invalidRelease state => encodeStateResult .invalidRelease state output
  | .gap evidence => encodeGap evidence output
  | .continuityBreak evidence => encodeContinuityBreak evidence output

def decodeOkStatus : Except MeasurementWireError Unit :=
  match payload with
  | [] => .error .invalidLength
  | raw :: _ =>
    match ResponseStatus.tryFrom raw with
    | none => .error (.unknownResponseStatus raw)
    | some .ok => .ok ()
    | some status => .error (.remoteError status)

/-- The dispatch of `decode_pull_response` on the result code. -/
def decodePullResult (code : PullResultCode) (payload : List UInt8) :
    Except MeasurementWireError PullResponse :=
  match code with
  | .sampleChunk => .sampleChunk <$> decodeChunk payload
  | .noData => .noData <$> decodeStateResult payload
  | .rangeUnavailable => .rangeUnavailable <$> decodeStateResult payload
  | .streamChanged => do
    requireLength payload 10
    let epoch := readU64 payload 2
    if epoch = 0 then .error (.contract .zeroBootEpoch) else .ok (.streamChanged epoch)
  | .invalidRelease => .invalidRelease <$> decodeStateResult payload
  | .gap => .gap <$> decodeGap payload
  | .continuityBreak => .continuityBreak <$> decodeContinuityBreak payload

def decodePullResponse : Except MeasurementWireError PullResponse := do
  decodeOkStatus payload
  if payload.length < 2 then .error .invalidLength
  else
    let code ← PullResultCode.tryFrom (payload.getD 1 0)
    decodePullResult code payload

end SensorSystem.Host
