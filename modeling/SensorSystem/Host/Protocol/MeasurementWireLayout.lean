import SensorSystem.Host.Protocol.MeasurementWire

/-! Each message as the concatenation of its fields. The encoders lay out exactly these bytes,
whatever the payload buffer held before. -/

namespace SensorSystem.Host

open List PullResultCode
open Base
open Framing (maxPayloadBytes)

variable (request : PullSamplesRequest)

def pullRequestLayout : List UInt8 :=
  u64Bytes request.bootEpoch ++ (u64Bytes request.start ++
    (u64Bytes request.releaseBefore ++ u16Bytes request.maxSamples))

def streamStateLayout (state : StreamState) : List UInt8 :=
  u64Bytes state.bootEpoch ++ (u64Bytes state.retainedFrom ++ (u64Bytes state.produced ++
    (u64Bytes state.released ++ (u32Bytes state.capacitySamples ++
      u64Bytes state.overwrittenSamples))))

def axesLayout (axes : SampleAxes) : List UInt8 :=
  encodeI24 axes.x ++ (encodeI24 axes.y ++ encodeI24 axes.z)

def chunkLayout (chunk : SampleChunk) : List UInt8 :=
  u64Bytes chunk.header.bootEpoch ++ (u64Bytes chunk.header.retainedFrom ++
    (u64Bytes chunk.header.produced ++ (u64Bytes chunk.header.first ++
      (u16Bytes chunk.header.sampleCount ++ (u32Bytes chunk.configRevision ++
        (u32Bytes chunk.timing.segmentId ++ (u64Bytes chunk.timing.firstDeviceTimeUs ++
          (u64Bytes chunk.timing.lastDeviceTimeUs ++ (u32Bytes chunk.timing.maxFitResidualUs ++
            (u16Bytes chunk.timing.qualityFlags ++ chunk.samples.flatMap axesLayout))))))))))

def gapLayout (gap : GapEvidence) (reason : UInt8) : List UInt8 :=
  u64Bytes gap.bootEpoch ++ (u64Bytes gap.retainedFrom ++ (u64Bytes gap.produced ++
    (u64Bytes gap.firstMissing ++ (u64Bytes gap.missingCount ++ [reason]))))

def continuityBreakLayout (mark : ContinuityBreakEvidence) : List UInt8 :=
  u64Bytes mark.bootEpoch ++ (u64Bytes mark.retainedFrom ++ (u64Bytes mark.produced ++
    (u64Bytes mark.at_ ++ [breakReasonByte mark.reason])))

/-- The wire byte of a gap reason that may appear on the wire. -/
def exactGapReasonByte : GapReason → UInt8
  | .unknownDiscontinuity => 0
  | .sourceLoss => 1
  | .ingressOverflow | .journalOverflow => 2

/-- The message bytes of a response: the status, the result code and the fields. -/
def pullResponseLayout : PullResponse → List UInt8
  | .sampleChunk chunk => 0 :: sampleChunk.toByte :: chunkLayout chunk
  | .noData state => 0 :: noData.toByte :: streamStateLayout state
  | .rangeUnavailable state =>
    0 :: rangeUnavailable.toByte :: streamStateLayout state
  | .streamChanged epoch => 0 :: streamChanged.toByte :: u64Bytes epoch
  | .invalidRelease state => 0 :: invalidRelease.toByte :: streamStateLayout state
  | .gap evidence =>
    0 :: gap.toByte :: gapLayout evidence (exactGapReasonByte evidence.reason)
  | .continuityBreak evidence =>
    0 :: continuityBreak.toByte :: continuityBreakLayout evidence

@[simp] theorem length_encodeI24 (axis : SampleAxis) : (encodeI24 axis).length = 3 := by
  simp [encodeI24, i32Bytes]

@[simp] theorem length_axesLayout (axes : SampleAxes) : (axesLayout axes).length = 9 := by
  simp [axesLayout]

variable (samples : List SampleAxes)

@[simp] theorem length_flatMap_axesLayout :
    (samples.flatMap axesLayout).length = samples.length * 9 := by
  induction samples with
  | nil => rfl
  | cons axes samples ih =>
    rw [flatMap_cons, length_append, ih, length_axesLayout, length_cons]
    omega

theorem length_chunkLayout (chunk : SampleChunk) :
    (chunkLayout chunk).length = 64 + chunk.samples.length * 9 := by
  simp only [chunkLayout, length_append, length_u64Bytes, length_u32Bytes, length_u16Bytes,
    length_flatMap_axesLayout]
  omega

theorem encodePullRequest_eq : encodePullRequest request = pullRequestLayout request := by
  have laidOut : LaidOut pullRequestBytes (encodePullRequest request)
      (u64Bytes request.bootEpoch ++ u64Bytes request.start ++
        u64Bytes request.releaseBefore ++ u16Bytes request.maxSamples) := by
    refine .overwrite (.overwrite (.overwrite
      (laidOut_first length_replicate _ ?_) rfl ?_) rfl ?_) rfl ?_
    all_goals simp [pullRequestBytes]
  rw [laidOut.eq_of_full rfl, pullRequestLayout]
  simp only [append_assoc]

/-- The samples are laid out behind the fixed fields. -/
theorem laidOut_encodeSamples {capacity : Nat} {buffer written : List UInt8} (index : Nat)
    (laidOut : LaidOut capacity buffer written)
    (next : written.length = chunkFixedBytes + index * 9)
    (fits : written.length + samples.length * 9 ≤ capacity) :
    LaidOut capacity (encodeSamples samples index buffer)
      (written ++ samples.flatMap axesLayout) := by
  induction samples generalizing index buffer written with
  | nil => simpa [encodeSamples] using laidOut
  | cons axes samples ih =>
    rw [length_cons] at fits
    have step : LaidOut capacity
        (overwrite (overwrite (overwrite buffer (chunkFixedBytes + index * 9) (encodeI24 axes.x))
          (chunkFixedBytes + index * 9 + 3) (encodeI24 axes.y))
          (chunkFixedBytes + index * 9 + 6) (encodeI24 axes.z))
        (written ++ encodeI24 axes.x ++ encodeI24 axes.y ++ encodeI24 axes.z) := by
      refine .overwrite (.overwrite (.overwrite laidOut ?_ ?_) ?_ ?_) ?_ ?_
      all_goals
        try simp only [length_append, length_encodeI24]
        omega
    have rest := ih (index + 1) step
      (by simp only [length_append, length_encodeI24]; omega)
      (by simp only [length_append, length_encodeI24]; omega)
    simpa [encodeSamples, axesLayout, append_assoc] using rest

section Response

variable {capacity : Nat} {output : List UInt8} (size : output.length = capacity)
include size

theorem laidOut_status (code : PullResultCode) (fits : 2 ≤ capacity) :
    LaidOut capacity (overwrite (overwrite output 0 [0]) 1 [code.toByte])
      ([0] ++ [code.toByte]) := by
  refine .overwrite (laidOut_first size _ ?_) rfl ?_
  all_goals
    simp only [length_singleton]
    omega

theorem laidOut_encodeChunk (chunk : SampleChunk)
    (fits : chunkFixedBytes + chunk.samples.length * 9 ≤ capacity) : LaidOut capacity
      (encodeChunk chunk
        (overwrite (overwrite output 0 [0]) 1 [sampleChunk.toByte]))
      (pullResponseLayout (.sampleChunk chunk)) := by
  have fields : pullResponseLayout (.sampleChunk chunk) =
      ([0] ++ [sampleChunk.toByte] ++ u64Bytes chunk.header.bootEpoch ++
        u64Bytes chunk.header.retainedFrom ++ u64Bytes chunk.header.produced ++
        u64Bytes chunk.header.first ++ u16Bytes chunk.header.sampleCount ++
        u32Bytes chunk.configRevision ++ u32Bytes chunk.timing.segmentId ++
        u64Bytes chunk.timing.firstDeviceTimeUs ++ u64Bytes chunk.timing.lastDeviceTimeUs ++
        u32Bytes chunk.timing.maxFitResidualUs ++ u16Bytes chunk.timing.qualityFlags) ++
        chunk.samples.flatMap axesLayout := by
    simp [pullResponseLayout, chunkLayout, append_assoc]
  rw [fields]
  rw [chunkFixedBytes] at fits
  refine laidOut_encodeSamples chunk.samples 0 (.overwrite (.overwrite (.overwrite (.overwrite
    (.overwrite (.overwrite (.overwrite (.overwrite (.overwrite (.overwrite (.overwrite
      (laidOut_status size .sampleChunk (by omega))
        rfl ?_) rfl ?_) rfl ?_) rfl ?_) rfl ?_) rfl ?_) rfl ?_)
        rfl ?_) rfl ?_) rfl ?_) rfl ?_) rfl ?_
  all_goals
    simp only [length_append, length_singleton, length_u64Bytes, length_u32Bytes,
      length_u16Bytes]
    omega

theorem laidOut_encodeStreamStateFields (code : PullResultCode) (state : StreamState)
    (fits : 46 ≤ capacity) : LaidOut capacity
      (encodeStreamStateFields state 2 (overwrite (overwrite output 0 [0]) 1 [code.toByte]))
      (0 :: code.toByte :: streamStateLayout state) := by
  have fields : 0 :: code.toByte :: streamStateLayout state =
      ([0] ++ [code.toByte] ++ u64Bytes state.bootEpoch ++ u64Bytes state.retainedFrom ++
        u64Bytes state.produced ++ u64Bytes state.released ++ u32Bytes state.capacitySamples ++
        u64Bytes state.overwrittenSamples) := by
    simp [streamStateLayout, append_assoc]
  rw [fields]
  refine .overwrite (.overwrite (.overwrite (.overwrite (.overwrite (.overwrite
    (laidOut_status size code (by omega)) rfl ?_) rfl ?_) rfl ?_) rfl ?_) rfl ?_) rfl ?_
  all_goals
    simp only [length_u64Bytes, length_u32Bytes]
    omega

theorem laidOut_gap (gap : GapEvidence) (reason : UInt8) (fits : gapResponseBytes ≤ capacity) :
    LaidOut capacity
      (overwrite (overwrite (overwrite (overwrite (overwrite (overwrite
        (overwrite (overwrite output 0 [0]) 1 [PullResultCode.gap.toByte])
        2 (u64Bytes gap.bootEpoch)) 10 (u64Bytes gap.retainedFrom)) 18 (u64Bytes gap.produced))
        26 (u64Bytes gap.firstMissing)) 34 (u64Bytes gap.missingCount)) 42 [reason])
      (0 :: PullResultCode.gap.toByte :: gapLayout gap reason) := by
  have fields : 0 :: PullResultCode.gap.toByte :: gapLayout gap reason =
      ([0] ++ [PullResultCode.gap.toByte] ++ u64Bytes gap.bootEpoch ++
        u64Bytes gap.retainedFrom ++ u64Bytes gap.produced ++ u64Bytes gap.firstMissing ++
        u64Bytes gap.missingCount ++ [reason]) := by
    simp [gapLayout, append_assoc]
  rw [fields]
  rw [gapResponseBytes] at fits
  refine .overwrite (.overwrite (.overwrite (.overwrite (.overwrite (.overwrite
    (laidOut_status size .gap (by omega)) rfl ?_) rfl ?_) rfl ?_) rfl ?_) rfl ?_) rfl ?_
  all_goals
    simp only [length_u64Bytes, length_singleton]
    omega

theorem laidOut_continuityBreak (mark : ContinuityBreakEvidence)
    (fits : continuityBreakResponseBytes ≤ capacity) : LaidOut capacity
      (overwrite (overwrite (overwrite (overwrite (overwrite
        (overwrite (overwrite output 0 [0]) 1 [continuityBreak.toByte])
        2 (u64Bytes mark.bootEpoch)) 10 (u64Bytes mark.retainedFrom))
        18 (u64Bytes mark.produced)) 26 (u64Bytes mark.at_)) 34 [breakReasonByte mark.reason])
      (pullResponseLayout (.continuityBreak mark)) := by
  have fields : pullResponseLayout (.continuityBreak mark) =
      ([0] ++ [continuityBreak.toByte] ++ u64Bytes mark.bootEpoch ++
        u64Bytes mark.retainedFrom ++ u64Bytes mark.produced ++ u64Bytes mark.at_ ++
        [breakReasonByte mark.reason]) := by
    simp [pullResponseLayout, continuityBreakLayout, append_assoc]
  rw [fields]
  rw [continuityBreakResponseBytes] at fits
  refine .overwrite (.overwrite (.overwrite (.overwrite (.overwrite
    (laidOut_status size .continuityBreak (by omega)) rfl ?_) rfl ?_) rfl ?_) rfl ?_) rfl ?_
  all_goals
    simp only [length_u64Bytes, length_singleton]
    omega

theorem laidOut_streamChanged (epoch : BootEpoch) (fits : 10 ≤ capacity) : LaidOut capacity
      (overwrite (overwrite (overwrite output 0 [0]) 1 [streamChanged.toByte])
        2 (u64Bytes epoch))
      (pullResponseLayout (.streamChanged epoch)) := by
  refine .overwrite (laidOut_status size .streamChanged (by omega)) rfl ?_
  rw [length_u64Bytes]
  exact fits

end Response
end SensorSystem.Host
