import SensorSystem.Host.Protocol.MeasurementChecks
import SensorSystem.Host.Protocol.MeasurementWireRoundTrip
import SensorSystem.Node.Protocol.Measurement

/-! The node reads every request the host writes. What a node encoder accepts and writes is the
layout of a host value that passes the host's own checks. -/

namespace SensorSystem.System

open Base Host List Node
open Node.Wire (MeasurementCodecStatus ChunkFields RawSample)

def nodeRequest (request : Host.PullSamplesRequest) : Wire.PullSamplesRequest :=
  ⟨request.bootEpoch, request.start, request.releaseBefore, request.maxSamples⟩

variable (state : Wire.StreamState)

def hostState : Host.StreamState where
  bootEpoch := state.bootEpoch
  retainedFrom := state.retainedFrom
  produced := state.produced
  released := state.released
  capacitySamples := state.capacitySamples
  overwrittenSamples := state.overwrittenSamples

def hostGapReason : Wire.GapReasonCode → Host.GapReason
  | .unknownDiscontinuity => .unknownDiscontinuity
  | .sourceLoss => .sourceLoss
  | .ingressOverflow => .ingressOverflow

def hostBreakReason : Wire.ContinuityBreakReasonCode → Host.ContinuityBreakReason
  | .unknown => .unknown
  | .sensorOverflow => .sensorOverflow
  | .sensorReadUncertain => .sensorReadUncertain
  | .invalidTiming => .invalidTiming
  | .processingReset => .processingReset

variable (gap : Wire.GapEvidence)

def hostGap : Host.GapEvidence where
  bootEpoch := gap.bootEpoch
  retainedFrom := gap.retainedFrom
  produced := gap.produced
  firstMissing := gap.firstMissing
  missingCount := gap.missingCount
  reason := hostGapReason gap.reason

variable (mark : Wire.ContinuityBreakEvidence)

def hostBreak : Host.ContinuityBreakEvidence where
  bootEpoch := mark.bootEpoch
  retainedFrom := mark.retainedFrom
  produced := mark.produced
  at_ := mark.at_
  reason := hostBreakReason mark.reason

def hostChunk (chunk : ChunkFields) (samples : List SampleAxes) : SampleChunk where
  header := ⟨chunk.bootEpoch, chunk.retainedFrom, chunk.produced, chunk.first, chunk.sampleCount⟩
  configRevision := chunk.configRevision
  timing :=
    ⟨chunk.timing.segmentId, chunk.timing.firstDeviceTimeUs, chunk.timing.lastDeviceTimeUs,
      chunk.timing.maxFitResidualUs, chunk.timing.qualityFlags⟩
  samples

def rawSample (axes : SampleAxes) : RawSample :=
  ⟨axes.x.value, axes.y.value, axes.z.value⟩

theorem writeU16_eq (value : UInt16) : Wire.writeU16 value = u16Bytes value :=
  shiftBytes_eq_leBytes 2 value.toNat

theorem writeU32_eq (value : UInt32) : Wire.writeU32 value = u32Bytes value :=
  shiftBytes_eq_leBytes 4 value.toNat

theorem writeU64_eq (value : UInt64) : Wire.writeU64 value = u64Bytes value :=
  shiftBytes_eq_leBytes 8 value.toNat

theorem readU16_eq_read (input : List UInt8) (offset : Nat) :
    Wire.readU16 input offset = readU16 input offset := by
  have width := length_slice_le input offset 2
  rw [Wire.readU16, orBytes_zero _ (by omega), readU16]

theorem readU64_eq_read (input : List UInt8) (offset : Nat) :
    Wire.readU64 input offset = readU64 input offset := by
  have width := length_slice_le input offset 8
  rw [Wire.readU64, orBytes_zero _ (by omega), readU64]

theorem encodeI24_agrees (axis : SampleAxis) :
    Wire.encodeI24 axis.value = Host.encodeI24 axis := by
  have mask : (0x00ffffff : Nat) = 2 ^ 24 - 1 := rfl
  rw [Wire.encodeI24, shiftBytes_eq_leBytes, mask, Nat.and_two_pow_sub_one_eq_mod,
    encodeI24_eq]
  exact leBytes_mod 3 _

theorem decodePullRequest_agrees {request : Host.PullSamplesRequest} (valid : request.Valid) :
    Wire.decodePullRequest (encodePullRequest request) =
      (.ok, some (nodeRequest request)) := by
  obtain ⟨epoch, limited, ordered⟩ := (Host.PullSamplesRequest.valid_iff request).mp valid
  have accepted : (nodeRequest request).validate = .ok := by
    simp only [Wire.PullSamplesRequest.validate, nodeRequest, gt_iff_lt]
    rw [if_neg epoch, if_neg limited, if_neg (UInt64.not_lt.mpr ordered)]
  have length : (encodePullRequest request).length = Wire.pullRequestBytes := by
    rw [encodePullRequest_eq]
    simp [pullRequestLayout, Wire.pullRequestBytes]
  have read : (⟨readU64 (encodePullRequest request) 0,
      readU64 (encodePullRequest request) 8, readU64 (encodePullRequest request) 16,
      readU16 (encodePullRequest request) 24⟩ : Wire.PullSamplesRequest) =
      nodeRequest request := by
    rw [encodePullRequest_eq]
    simp [pullRequestLayout, nodeRequest]
  rw [Wire.decodePullRequest, if_neg (not_not.mpr length)]
  simp only [readU64_eq_read, readU16_eq_read, read, accepted]

theorem validate_hostState {state : Wire.StreamState} (valid : state.validate = .ok) :
    (hostState state).validate = .ok () := by
  simp only [Wire.StreamState.validate, status_guard_eq, ne_eq, reduceCtorEq,
    not_false_eq_true, and_true, not_or, gt_iff_lt, UInt64.not_lt, UInt64.le_iff_toNat_le] at valid
  exact Host.StreamState.validate_eq_ok.mpr valid

theorem toNat_add_le {first count produced : UInt64}
    (fits : ¬ (first > 0xffffffffffffffff - count ∨ first + count > produced)) :
    first.toNat + count.toNat ≤ produced.toNat := by
  simp only [not_or, gt_iff_lt, UInt64.not_lt, UInt64.le_iff_toNat_le] at fits
  have bounded := count.toNat_lt
  have room : (0xffffffffffffffff - count).toNat = 0xffffffffffffffff - count.toNat := by
    rw [UInt64.toNat_sub_of_le]
    · rfl
    · rw [UInt64.le_iff_toNat_le]
      exact Nat.le_of_lt_succ bounded
  have sum := UInt64.toNat_add first count
  omega

theorem validate_hostGap {gap : Wire.GapEvidence} (valid : gap.validate = .ok) :
    (hostGap gap).validateStructure = .ok () := by
  simp only [Wire.GapEvidence.validate, status_guard_eq, ne_eq, reduceCtorEq,
    not_false_eq_true, and_true] at valid
  obtain ⟨epoch, ordered, nonempty, retained, fits⟩ := valid
  refine Host.GapEvidence.validateStructure_eq_ok.mpr
    ⟨epoch, UInt64.not_lt.mp ordered, nonempty, ?_, UInt64.not_lt.mp retained, toNat_add_le fits⟩
  change hostGapReason gap.reason ≠ .journalOverflow
  cases gap.reason <;> nofun

theorem validate_hostBreak {mark : Wire.ContinuityBreakEvidence}
    (valid : mark.validate = .ok) : (hostBreak mark).validateStructure = .ok () := by
  simp only [Wire.ContinuityBreakEvidence.validate, status_guard_eq, ne_eq, reduceCtorEq,
    not_false_eq_true, and_true, not_or] at valid
  obtain ⟨epoch, ordered, retained, last, fits⟩ := valid
  refine Host.ContinuityBreakEvidence.validateStructure_eq_ok.mpr
    ⟨epoch, UInt64.not_lt.mp ordered, UInt64.not_lt.mp retained, ?_⟩
  have sum := UInt64.toNat_add mark.at_ 1
  have bounded := mark.at_.toNat_lt
  have below : mark.at_.toNat ≠ 0xffffffffffffffff := fun same => last (UInt64.toNat_inj.mp same)
  have ahead : (mark.at_ + 1).toNat ≤ mark.produced.toNat := UInt64.not_lt.mp fits
  rw [UInt64.toNat_one] at sum
  change mark.at_.toNat + 1 ≤ mark.produced.toNat
  omega

variable {chunk : ChunkFields} {response : Host.PullResponse} {readSample : Nat → Option RawSample}

theorem validate_hostChunk {samples : List SampleAxes} (valid : chunk.validate = .ok)
    (counted : samples.length = chunk.sampleCount.toNat) :
    (hostChunk chunk samples).validate = .ok () := by
  simp only [ChunkFields.validate, status_guard_eq, ne_eq, reduceCtorEq, not_false_eq_true,
    and_true] at valid
  obtain ⟨epoch, ordered, nonempty, bounded, retained, fits, revision, segment, flags, anchors,
    timing⟩ := valid
  have structured : (hostChunk chunk samples).header.validateStructure = .ok () := by
    refine SampleChunkHeader.validateStructure_eq_ok.mpr
      ⟨epoch, UInt64.not_lt.mp ordered, nonempty, UInt64.not_lt.mp retained, ?_⟩
    have inside := toNat_add_le fits
    rwa [UInt16.toNat_toUInt64] at inside
  have small : ¬ samples.length > Host.maxWireChunkSamples := counted ▸ bounded
  refine check_eq_ok.mpr ⟨contractCheck_eq_ok.mpr structured, ?_⟩
  simp only [guard_eq_ok, Host.TimingEvidence.validate]
  refine ⟨revision, not_not.mpr counted, small, segment, flags, anchors, ?_⟩
  split
  · rename_i timed
    rw [guard_eq_ok, guard_eq_ok]
    refine ⟨?_, ?_, rfl⟩
    · rintro ⟨single, differ⟩
      exact timing ⟨timed, .inl ⟨single, Ne.symm differ⟩⟩
    · rintro ⟨several, same⟩
      exact timing ⟨timed, .inr ⟨several, same.symm⟩⟩
  · rfl

/-- A successful encoding is the message of a response that passes its check. -/
def Spells (encoded : Wire.Encoded) (response : Host.PullResponse) : Prop :=
  ∀ size buffer, encoded = (.ok, size, buffer) →
    response.validate = .ok () ∧ buffer.take size = pullResponseLayout response

variable {buffer output : List UInt8}

/-- A response that was checked and for which the buffer has room. -/
theorem spells_of_laidOut {valid : MeasurementCodecStatus} {size : Nat}
    (checked : valid = .ok → response.validate = .ok ())
    (length : (pullResponseLayout response).length = size)
    (laidOut : valid = .ok → size ≤ output.length →
      LaidOut output.length buffer (pullResponseLayout response)) :
    Spells (if valid ≠ .ok then (valid, 0, output)
      else if output.length < size then (.outputTooSmall, 0, output) else (.ok, size, buffer))
      response := by
  intro written found encoded
  split at encoded
  · rename_i invalid
    exact absurd (congrArg Prod.fst encoded) invalid
  rename_i accepted
  have accepted := not_not.mp accepted
  split at encoded
  · cases encoded
  rename_i room
  cases encoded
  refine ⟨checked accepted, ?_⟩
  rw [← length]
  exact (laidOut accepted (Nat.le_of_not_lt room)).take_eq

theorem spells_encodeStateResult {result : Wire.PullResultCode} {code : Host.PullResultCode}
    (output : List UInt8) (same : result.toByte = code.toByte)
    (checked : response.validate = contractCheck (hostState state).validate)
    (layout : pullResponseLayout response =
      0 :: code.toByte :: streamStateLayout (hostState state)) :
    Spells (Wire.encodeStateResult result state output) response := by
  refine spells_of_laidOut (fun valid => ?_) ?_ fun _ room => ?_
  · rw [checked, validate_hostState valid]
    rfl
  · rw [layout]
    simp [streamStateLayout]
  · rw [layout]
    simp only [Wire.encodeStateFields, writeU64_eq, writeU32_eq, same]
    exact laidOut_encodeStreamStateFields rfl code (hostState state) room

theorem spells_encodeStreamChanged (epoch : UInt64) (output : List UInt8) :
    Spells (Wire.encodeStreamChanged epoch output) (.streamChanged epoch) := by
  intro size buffer encoded
  rw [Wire.encodeStreamChanged] at encoded
  split at encoded
  · cases encoded
  rename_i nonzero
  split at encoded
  · cases encoded
  rename_i room
  cases encoded
  have laidOut := laidOut_streamChanged rfl epoch (Nat.le_of_not_lt room)
  refine ⟨if_neg nonzero, ?_⟩
  rw [writeU64_eq]
  exact laidOut.take_eq

theorem gapReason_toByte (reason : Wire.GapReasonCode) :
    reason.toByte = exactGapReasonByte (hostGapReason reason) := by
  cases reason <;> rfl

theorem breakReason_toByte (reason : Wire.ContinuityBreakReasonCode) :
    reason.toByte = breakReasonByte (hostBreakReason reason) := by
  cases reason <;> rfl

theorem spells_encodeGapEvidence (output : List UInt8) :
    Spells (Wire.encodeGapEvidence gap output) (.gap (hostGap gap)) := by
  refine spells_of_laidOut (fun valid => ?_) ?_ fun _ room => ?_
  · exact contractCheck_eq_ok.mpr (validate_hostGap valid)
  · simp [pullResponseLayout, gapLayout, Wire.gapResponseBytes]
  · simp only [writeU64_eq, gapReason_toByte]
    exact laidOut_gap rfl (hostGap gap) _ room

theorem spells_encodeContinuityBreakEvidence (output : List UInt8) :
    Spells (Wire.encodeContinuityBreakEvidence mark output)
      (.continuityBreak (hostBreak mark)) := by
  refine spells_of_laidOut (fun valid => ?_) ?_ fun _ room => ?_
  · exact contractCheck_eq_ok.mpr (validate_hostBreak valid)
  · simp [pullResponseLayout, continuityBreakLayout,
      Wire.continuityBreakResponseBytes]
  · simp only [writeU64_eq, breakReason_toByte]
    exact laidOut_continuityBreak rfl (hostBreak mark) room

/-- An axis of the node's range is an axis of the host. -/
theorem exists_hostAxis {value : Int} (valid : Node.validAxis value = true) :
    ∃ axis : SampleAxis, axis.value = value := by
  rw [Node.validAxis, Bool.and_eq_true, decide_eq_true_eq, decide_eq_true_eq] at valid
  exact ⟨⟨value, valid.1, valid.2⟩, rfl⟩

theorem encodeSampleLoop_agrees {remaining index : Nat}
    (written : Wire.encodeSampleLoop readSample remaining index output = (.ok, buffer)) :
    ∃ samples : List SampleAxes,
      samples.map (fun axes => some (rawSample axes)) =
        (range' index remaining).map readSample ∧
      buffer = encodeSamples samples index output := by
  induction remaining generalizing index output with
  | zero =>
    cases written
    exact ⟨[], rfl, rfl⟩
  | succ remaining ih =>
    rw [Wire.encodeSampleLoop] at written
    split at written
    · cases written
    rename_i sample read
    split at written
    · cases written
    rename_i inside
    simp only [Bool.or_eq_true, Bool.not_eq_true', not_or, Bool.not_eq_false] at inside
    obtain ⟨x, xValue⟩ := exists_hostAxis inside.1.1
    obtain ⟨y, yValue⟩ := exists_hostAxis inside.1.2
    obtain ⟨z, zValue⟩ := exists_hostAxis inside.2
    have same : sample = rawSample ⟨x, y, z⟩ := by
      simp only [rawSample, xValue, yValue, zValue]
    have step : Wire.encodeSample sample index output =
        overwrite (overwrite (overwrite output (Host.chunkFixedBytes + index * 9)
          (Host.encodeI24 x)) (Host.chunkFixedBytes + index * 9 + 3) (Host.encodeI24 y))
          (Host.chunkFixedBytes + index * 9 + 6) (Host.encodeI24 z) := by
      rw [← encodeI24_agrees, ← encodeI24_agrees, ← encodeI24_agrees, same]
      rfl
    obtain ⟨samples, values, encoded⟩ := ih written
    refine ⟨⟨x, y, z⟩ :: samples, ?_, ?_⟩
    · rw [map_cons, values, range'_succ, map_cons, read, same]
    · rw [encoded, step]
      rfl

theorem encodeChunkHeader_agrees (chunk : ChunkFields) (samples : List SampleAxes)
    (output : List UInt8) :
    encodeSamples samples 0 (Wire.encodeChunkHeader chunk output) =
      encodeChunk (hostChunk chunk samples)
        (overwrite (overwrite output 0 [0]) 1 [Host.PullResultCode.sampleChunk.toByte]) := by
  simp only [Wire.encodeChunkHeader, writeU64_eq, writeU32_eq, writeU16_eq]
  rfl

theorem spells_encodeSampleChunkView {size : Nat}
    (encoded : Wire.encodeSampleChunkView chunk (some readSample) output = (.ok, size, buffer)) :
    ∃ samples : List SampleAxes,
      samples.map (fun axes => some (rawSample axes)) =
        (range chunk.sampleCount.toNat).map readSample ∧
      (hostChunk chunk samples).validate = .ok () ∧
      buffer.take size = pullResponseLayout (.sampleChunk (hostChunk chunk samples)) := by
  rw [Wire.encodeSampleChunkView] at encoded
  split at encoded
  · rename_i invalid
    exact absurd (congrArg Prod.fst encoded) invalid
  rename_i valid
  simp only at encoded
  split at encoded
  · cases encoded
  rename_i room
  split at encoded
  · rename_i found written
    cases encoded
    obtain ⟨samples, values, same⟩ := encodeSampleLoop_agrees written
    rw [← range_eq_range'] at values
    have counted : samples.length = chunk.sampleCount.toNat := by
      simpa using congrArg length values
    have fits : Host.chunkFixedBytes + samples.length * 9 ≤ output.length := by
      rw [counted]
      exact Nat.le_of_not_lt room
    have laidOut := laidOut_encodeChunk rfl (hostChunk chunk samples) fits
    refine ⟨samples, values, validate_hostChunk (not_not.mp valid) counted, ?_⟩
    rw [same, encodeChunkHeader_agrees, ← laidOut.take_eq, pullResponseLayout,
      length_cons, length_cons, length_chunkLayout]
    congr 1
    change Wire.chunkFixedBytes + _ = 64 + samples.length * 9 + 1 + 1
    rw [counted, Wire.chunkFixedBytes, Wire.xyz24SampleBytes]
    omega
  · rename_i failed _
    cases encoded
    exact (failed rfl).elim

end SensorSystem.System
