import SensorSystem.Node.Measurement.Records
import SensorSystem.Node.Protocol.Framing

/-! `protocol_v3/measurement.cpp`: the requests the node decodes and the responses it encodes. An
encoder returns its status, the size of the message and the output buffer, whose length is the
capacity. A null output is an empty buffer here: it fails the same capacity checks. -/

namespace SensorSystem.Node.Wire

open Base
open Framing (maxPayloadBytes)

def getStreamStateMessageId : UInt8 := 1
def pullSamplesMessageId : UInt8 := 2
def releaseSamplesMessageId : UInt8 := 3
def streamStateSuccessBytes : Nat := 45
def pullRequestBytes : Nat := 26
def releaseRequestBytes : Nat := 16
def chunkFixedBytes : Nat := 66
def gapResponseBytes : Nat := 43
def continuityBreakResponseBytes : Nat := 35
def xyz24SampleBytes : Nat := 9
def maxWireChunkSamples : Nat := (maxPayloadBytes - chunkFixedBytes) / xyz24SampleBytes

def timingValid : UInt16 := 0x0001
def knownTimingFlags : UInt16 := 0x001f

inductive ResponseStatus where
  | ok
  | malformedRequest
  | unsupportedService
  | unsupportedMessage
  | wrongMode
  | busy
  | conflict
  | invalidState
  | internalError
deriving DecidableEq

def ResponseStatus.toByte : ResponseStatus → UInt8
  | ok => 0
  | malformedRequest => 1
  | unsupportedService => 2
  | unsupportedMessage => 3
  | wrongMode => 4
  | busy => 5
  | conflict => 6
  | invalidState => 7
  | internalError => 8

inductive PullResultCode where
  | sampleChunk
  | noData
  | rangeUnavailable
  | streamChanged
  | invalidRelease
  | gap
  | continuityBreak

def PullResultCode.toByte : PullResultCode → UInt8
  | sampleChunk => 0
  | noData => 1
  | rangeUnavailable => 2
  | streamChanged => 3
  | invalidRelease => 4
  | gap => 5
  | continuityBreak => 6

/-- The handler builds listed codes only, so their last check has nothing to reject. -/
inductive GapReasonCode where
  | unknownDiscontinuity
  | sourceLoss
  | ingressOverflow

def GapReasonCode.toByte : GapReasonCode → UInt8
  | unknownDiscontinuity => 0
  | sourceLoss => 1
  | ingressOverflow => 2

inductive ContinuityBreakReasonCode where
  | unknown
  | sensorOverflow
  | sensorReadUncertain
  | invalidTiming
  | processingReset

def ContinuityBreakReasonCode.toByte : ContinuityBreakReasonCode → UInt8
  | unknown => 0
  | sensorOverflow => 1
  | sensorReadUncertain => 2
  | invalidTiming => 3
  | processingReset => 4

structure StreamState where
  bootEpoch : UInt64 := 0
  retainedFrom : UInt64 := 0
  produced : UInt64 := 0
  released : UInt64 := 0
  capacitySamples : UInt32 := 0
  overwrittenSamples : UInt64 := 0

structure PullSamplesRequest where
  bootEpoch : UInt64
  start : UInt64
  releaseBefore : UInt64
  maxSamples : UInt16

structure ReleaseSamplesRequest where
  bootEpoch : UInt64
  releaseBefore : UInt64

structure RawSample where
  x : Int := 0
  y : Int := 0
  z : Int := 0

structure TimingEvidence where
  segmentId : UInt32 := 0
  firstDeviceTimeUs : UInt64 := 0
  lastDeviceTimeUs : UInt64 := 0
  maxFitResidualUs : UInt32 := 0
  qualityFlags : UInt16 := 0

/-- The fields a chunk and a chunk view share. -/
structure ChunkFields where
  bootEpoch : UInt64 := 0
  retainedFrom : UInt64 := 0
  produced : UInt64 := 0
  first : UInt64 := 0
  sampleCount : UInt16 := 0
  configRevision : UInt32 := 0
  timing : TimingEvidence := {}

structure GapEvidence where
  bootEpoch : UInt64 := 0
  retainedFrom : UInt64 := 0
  produced : UInt64 := 0
  firstMissing : UInt64 := 0
  missingCount : UInt64 := 0
  reason : GapReasonCode := .unknownDiscontinuity

structure ContinuityBreakEvidence where
  bootEpoch : UInt64 := 0
  retainedFrom : UInt64 := 0
  produced : UInt64 := 0
  at_ : UInt64 := 0
  reason : ContinuityBreakReasonCode := .unknown

inductive MeasurementCodecStatus where
  | ok
  | outputTooSmall
  | invalidPayloadLength
  | zeroBootEpoch
  | zeroJournalCapacity
  | invalidCursorOrder
  | zeroSampleLimit
  | invalidRelease
  | emptySampleChunk
  | chunkAheadOfProduced
  | chunkBeforeRetained
  | chunkTooLarge
  | invalidAxis
  | zeroConfigRevision
  | zeroTimingSegment
  | unknownTimingFlags
  | reversedTimingAnchors
  | invalidTimingAnchors
  | missingSampleReader
  | sampleReadFailed
  | emptyGap
  | gapBeforeRetained
  | gapAheadOfProduced
  | breakBeforeRetained
  | breakAheadOfProduced
deriving DecidableEq

def writeU16 (value : UInt16) : List UInt8 := shiftBytes 2 value.toNat
def writeU32 (value : UInt32) : List UInt8 := shiftBytes 4 value.toNat
def writeU64 (value : UInt64) : List UInt8 := shiftBytes 8 value.toNat

def readU16 (input : List UInt8) (offset : Nat) : UInt16 :=
  UInt16.ofNat (orBytes 16 0 (slice input offset 2) 0)
def readU64 (input : List UInt8) (offset : Nat) : UInt64 :=
  UInt64.ofNat (orBytes 64 0 (slice input offset 8) 0)

/-- The cast to `uint32_t` is a remainder; the mask keeps 24 bits of it. -/
def encodeI24 (value : Int) : List UInt8 :=
  shiftBytes 3 ((value % 2 ^ 32).toNat &&& 0x00ffffff)

variable (state : StreamState)

def StreamState.validate : MeasurementCodecStatus :=
  if state.bootEpoch = 0 then .zeroBootEpoch
  else if state.capacitySamples = 0 then .zeroJournalCapacity
  else if state.retainedFrom > state.produced ∨ state.released > state.produced then
    .invalidCursorOrder
  else .ok

def PullSamplesRequest.validate (request : PullSamplesRequest) : MeasurementCodecStatus :=
  if request.bootEpoch = 0 then .zeroBootEpoch
  else if request.maxSamples = 0 then .zeroSampleLimit
  else if request.releaseBefore > request.start then .invalidRelease
  else .ok

def ReleaseSamplesRequest.validate (request : ReleaseSamplesRequest) : MeasurementCodecStatus :=
  if request.bootEpoch = 0 then .zeroBootEpoch else .ok

variable (chunk : ChunkFields)

def ChunkFields.validate : MeasurementCodecStatus :=
  if chunk.bootEpoch = 0 then .zeroBootEpoch
  else if chunk.retainedFrom > chunk.produced then .invalidCursorOrder
  else if chunk.sampleCount = 0 then .emptySampleChunk
  else if chunk.sampleCount.toNat > maxWireChunkSamples then .chunkTooLarge
  else if chunk.first < chunk.retainedFrom then .chunkBeforeRetained
  else if chunk.first > 0xffffffffffffffff - chunk.sampleCount.toUInt64 ∨
      chunk.first + chunk.sampleCount.toUInt64 > chunk.produced then .chunkAheadOfProduced
  else if chunk.configRevision = 0 then .zeroConfigRevision
  else if chunk.timing.segmentId = 0 then .zeroTimingSegment
  else if chunk.timing.qualityFlags &&& ~~~knownTimingFlags ≠ 0 then .unknownTimingFlags
  else if chunk.timing.lastDeviceTimeUs < chunk.timing.firstDeviceTimeUs then
    .reversedTimingAnchors
  else if chunk.timing.qualityFlags &&& timingValid ≠ 0 ∧
      ((chunk.sampleCount = 1 ∧ chunk.timing.firstDeviceTimeUs ≠ chunk.timing.lastDeviceTimeUs) ∨
        (chunk.sampleCount > 1 ∧ chunk.timing.firstDeviceTimeUs = chunk.timing.lastDeviceTimeUs))
    then .invalidTimingAnchors
  else .ok

def GapEvidence.validate (gap : GapEvidence) : MeasurementCodecStatus :=
  if gap.bootEpoch = 0 then .zeroBootEpoch
  else if gap.retainedFrom > gap.produced then .invalidCursorOrder
  else if gap.missingCount = 0 then .emptyGap
  else if gap.firstMissing < gap.retainedFrom then .gapBeforeRetained
  else if gap.firstMissing > 0xffffffffffffffff - gap.missingCount ∨
      gap.firstMissing + gap.missingCount > gap.produced then .gapAheadOfProduced
  else .ok

variable (value : ContinuityBreakEvidence)

def ContinuityBreakEvidence.validate : MeasurementCodecStatus :=
  if value.bootEpoch = 0 then .zeroBootEpoch
  else if value.retainedFrom > value.produced then .invalidCursorOrder
  else if value.at_ < value.retainedFrom then .breakBeforeRetained
  else if value.at_ = 0xffffffffffffffff ∨ value.at_ + 1 > value.produced then
    .breakAheadOfProduced
  else .ok

def decodePullRequest (payload : List UInt8) : MeasurementCodecStatus × Option PullSamplesRequest :=
  if payload.length ≠ pullRequestBytes then (.invalidPayloadLength, none)
  else
    let request : PullSamplesRequest :=
      ⟨readU64 payload 0, readU64 payload 8, readU64 payload 16, readU16 payload 24⟩
    (request.validate, some request)

def decodeReleaseRequest (payload : List UInt8) :
    MeasurementCodecStatus × Option ReleaseSamplesRequest :=
  if payload.length ≠ releaseRequestBytes then (.invalidPayloadLength, none)
  else
    let request : ReleaseSamplesRequest := ⟨readU64 payload 0, readU64 payload 8⟩
    (request.validate, some request)

/-- The status of an encoder, the message size and the output buffer. -/
abbrev Encoded := MeasurementCodecStatus × Nat × List UInt8

def encodeStateFields (base : Nat) (output : List UInt8) : List UInt8 :=
  let output := overwrite output base (writeU64 state.bootEpoch)
  let output := overwrite output (base + 8) (writeU64 state.retainedFrom)
  let output := overwrite output (base + 16) (writeU64 state.produced)
  let output := overwrite output (base + 24) (writeU64 state.released)
  let output := overwrite output (base + 32) (writeU32 state.capacitySamples)
  overwrite output (base + 36) (writeU64 state.overwrittenSamples)

variable (output : List UInt8)

def encodeStreamStateSuccess : Encoded :=
  if state.validate ≠ .ok then (state.validate, 0, output)
  else if output.length < streamStateSuccessBytes then (.outputTooSmall, 0, output)
  else
    let output := overwrite output 0 [ResponseStatus.ok.toByte]
    (.ok, streamStateSuccessBytes, encodeStateFields state 1 output)

def encodeStateResult (result : PullResultCode) (state : StreamState) (output : List UInt8) :
    Encoded :=
  if state.validate ≠ .ok then (state.validate, 0, output)
  else if output.length < 46 then (.outputTooSmall, 0, output)
  else
    let output := overwrite output 0 [ResponseStatus.ok.toByte]
    let output := overwrite output 1 [result.toByte]
    (.ok, 46, encodeStateFields state 2 output)

def encodeStreamChanged (actualBootEpoch : UInt64) (output : List UInt8) : Encoded :=
  if actualBootEpoch = 0 then (.zeroBootEpoch, 0, output)
  else if output.length < 10 then (.outputTooSmall, 0, output)
  else
    let output := overwrite output 0 [ResponseStatus.ok.toByte]
    let output := overwrite output 1 [PullResultCode.streamChanged.toByte]
    (.ok, 10, overwrite output 2 (writeU64 actualBootEpoch))

def encodeGapEvidence (gap : GapEvidence) (output : List UInt8) : Encoded :=
  if gap.validate ≠ .ok then (gap.validate, 0, output)
  else if output.length < gapResponseBytes then (.outputTooSmall, 0, output)
  else
    let output := overwrite output 0 [ResponseStatus.ok.toByte]
    let output := overwrite output 1 [PullResultCode.gap.toByte]
    let output := overwrite output 2 (writeU64 gap.bootEpoch)
    let output := overwrite output 10 (writeU64 gap.retainedFrom)
    let output := overwrite output 18 (writeU64 gap.produced)
    let output := overwrite output 26 (writeU64 gap.firstMissing)
    let output := overwrite output 34 (writeU64 gap.missingCount)
    (.ok, gapResponseBytes, overwrite output 42 [gap.reason.toByte])

def encodeContinuityBreakEvidence : Encoded :=
  if value.validate ≠ .ok then (value.validate, 0, output)
  else if output.length < continuityBreakResponseBytes then (.outputTooSmall, 0, output)
  else
    let output := overwrite output 0 [ResponseStatus.ok.toByte]
    let output := overwrite output 1 [PullResultCode.continuityBreak.toByte]
    let output := overwrite output 2 (writeU64 value.bootEpoch)
    let output := overwrite output 10 (writeU64 value.retainedFrom)
    let output := overwrite output 18 (writeU64 value.produced)
    let output := overwrite output 26 (writeU64 value.at_)
    (.ok, continuityBreakResponseBytes, overwrite output 34 [value.reason.toByte])

def encodeChunkHeader : List UInt8 :=
  let output := overwrite output 0 [ResponseStatus.ok.toByte]
  let output := overwrite output 1 [PullResultCode.sampleChunk.toByte]
  let output := overwrite output 2 (writeU64 chunk.bootEpoch)
  let output := overwrite output 10 (writeU64 chunk.retainedFrom)
  let output := overwrite output 18 (writeU64 chunk.produced)
  let output := overwrite output 26 (writeU64 chunk.first)
  let output := overwrite output 34 (writeU16 chunk.sampleCount)
  let output := overwrite output 36 (writeU32 chunk.configRevision)
  let output := overwrite output 40 (writeU32 chunk.timing.segmentId)
  let output := overwrite output 44 (writeU64 chunk.timing.firstDeviceTimeUs)
  let output := overwrite output 52 (writeU64 chunk.timing.lastDeviceTimeUs)
  let output := overwrite output 60 (writeU32 chunk.timing.maxFitResidualUs)
  overwrite output 64 (writeU16 chunk.timing.qualityFlags)

/-- The three axes of one sample at their offset. -/
def encodeSample (sample : RawSample) (index : Nat) (output : List UInt8) : List UInt8 :=
  let offset := chunkFixedBytes + index * xyz24SampleBytes
  let output := overwrite output offset (encodeI24 sample.x)
  let output := overwrite output (offset + 3) (encodeI24 sample.y)
  overwrite output (offset + 6) (encodeI24 sample.z)

/-- The sample loop of `encode_sample_chunk_view`, with the reader's answers. -/
def encodeSampleLoop (readSample : Nat → Option RawSample) :
    Nat → Nat → List UInt8 → MeasurementCodecStatus × List UInt8
  | 0, _, output => (.ok, output)
  | remaining + 1, index, output =>
    match readSample index with
    | none => (.sampleReadFailed, output)
    | some sample =>
      if !validAxis sample.x || !validAxis sample.y || !validAxis sample.z then
        (.invalidAxis, output)
      else encodeSampleLoop readSample remaining (index + 1) (encodeSample sample index output)

/-- `encode_sample_chunk_view`; `none` is a view without a reader. -/
def encodeSampleChunkView (reader : Option (Nat → Option RawSample)) (output : List UInt8) :
    Encoded :=
  if chunk.validate ≠ .ok then (chunk.validate, 0, output)
  else match reader with
    | none => (.missingSampleReader, 0, output)
    | some readSample =>
      let required := chunkFixedBytes + chunk.sampleCount.toNat * xyz24SampleBytes
      if output.length < required then (.outputTooSmall, 0, output)
      else
        match encodeSampleLoop readSample chunk.sampleCount.toNat 0
            (encodeChunkHeader chunk output) with
        | (.ok, output) => (.ok, required, output)
        | (status, output) => (status, 0, output)

/-- The responses that `encode_pull_response` tells apart by their result code. -/
inductive PullResponse where
  | state (result : PullResultCode) (state : StreamState)
  | streamChanged (actualBootEpoch : UInt64)
  | gap (gap : GapEvidence)
  | continuityBreak (value : ContinuityBreakEvidence)

def encodePullResponse (response : PullResponse) (output : List UInt8) : Encoded :=
  match response with
  | .state result state => encodeStateResult result state output
  | .streamChanged actualBootEpoch => encodeStreamChanged actualBootEpoch output
  | .gap gap => encodeGapEvidence gap output
  | .continuityBreak value => encodeContinuityBreakEvidence value output

end SensorSystem.Node.Wire
