import SensorSystem.Host.Protocol.MeasurementWireLayout

/-! Decoding the layout of a valid message returns it, and every byte string the decoder accepts
is the layout of the message it returned. Together with the encoders laying out exactly those
bytes, encoding and decoding are inverse. -/

namespace SensorSystem.Host

open List Base
open Framing (maxPayloadBytes)

theorem and_signBit_eq_zero (byte : UInt8) : byte &&& 0x80 = 0 ↔ byte.toNat < 128 := by
  cases byte with
  | ofBitVec bits =>
    revert bits
    decide

private theorem leValue_three (value : Nat) (sign : UInt8) :
    leValue (leBytes 3 value ++ [sign]) = value % 2 ^ 24 + 2 ^ 24 * sign.toNat := by
  simp only [leBytes, leValue, cons_append, nil_append, UInt8.toNat_ofNat']
  omega

theorem encodeI24_eq (axis : SampleAxis) :
    encodeI24 axis = leBytes 3 (axis.value % 2 ^ 32).toNat := rfl

theorem decodeI24_encodeI24 (axis : SampleAxis) : decodeI24 (encodeI24 axis) = .ok axis := by
  have lower := axis.lower
  have upper := axis.upper
  generalize spelled : (axis.value % 2 ^ 32).toNat = raw
  have top : (leBytes 3 raw).getD 2 0 &&& 0x80 = 0 ↔ raw / 65536 % 256 < 128 := by
    rw [and_signBit_eq_zero]
    simp [leBytes, Nat.div_div_eq_div_mul]
  have value : i32FromBytes (leBytes 3 raw ++
      [if (leBytes 3 raw).getD 2 0 &&& 0x80 = 0 then (0 : UInt8) else 0xff]) = axis.value := by
    rw [i32FromBytes, leValue_three]
    by_cases nonneg : raw / 65536 % 256 < 128
    · rw [if_pos (top.mpr nonneg)]
      simp only [UInt8.reduceToNat]
      split <;> omega
    rw [if_neg (fun zero => nonneg (top.mp zero))]
    simp only [UInt8.reduceToNat]
    split <;> omega
  rw [encodeI24_eq, spelled, decodeI24]
  simp only [value, SampleAxis.new_value]

theorem encodeI24_of_decodeI24 {input : List UInt8} {axis : SampleAxis} (width : input.length = 3)
    (decoded : decodeI24 input = .ok axis) : encodeI24 axis = input := by
  rw [decodeI24] at decoded
  generalize (if input.getD 2 0 &&& 0x80 = 0 then (0 : UInt8) else 0xff) = sign at decoded
  have spelled := leBytes_leValue (input ++ [sign])
  have bounded := leValue_lt (input ++ [sign])
  simp only [length_append, width, length_singleton] at spelled bounded
  have value : axis.value = i32FromBytes (input ++ [sign]) := by
    rw [SampleAxis.new] at decoded
    split at decoded
    · cases decoded
      rename_i found
      split at found
      · cases found
        rfl
      · cases found
    · cases decoded
  have raw : (axis.value % 2 ^ 32).toNat = leValue (input ++ [sign]) := by
    rw [value, i32FromBytes]
    split <;> omega
  rw [encodeI24, i32Bytes, raw, spelled]
  exact take_left' width

theorem decodeSamples_layout (samples : List SampleAxes) (front : List UInt8) (index : Nat)
    (start : front.length = chunkFixedBytes + index * 9) :
    decodeSamples (front ++ samples.flatMap axesLayout) samples.length index = .ok samples := by
  induction samples generalizing front index with
  | nil => rfl
  | cons axes samples ih =>
    have rest := ih (front ++ axesLayout axes) (index + 1) (by
      rw [length_append, length_axesLayout]
      omega)
    rw [append_assoc] at rest
    have x : slice (front ++ (axes :: samples).flatMap axesLayout)
        (chunkFixedBytes + index * 9) 3 = encodeI24 axes.x := by
      simp [← start, axesLayout]
    have y : slice (front ++ (axes :: samples).flatMap axesLayout)
        (chunkFixedBytes + index * 9 + 3) 3 = encodeI24 axes.y := by
      simp [← start, axesLayout]
    have z : slice (front ++ (axes :: samples).flatMap axesLayout)
        (chunkFixedBytes + index * 9 + 6) 3 = encodeI24 axes.z := by
      simp [← start, axesLayout]
    simp only [length_cons, decodeSamples, x, y, z, decodeI24_encodeI24, ok_bind]
    rw [flatMap_cons, rest]
    rfl

variable {payload output : List UInt8} {request : PullSamplesRequest} {reason : GapReason}
  {mark : ContinuityBreakEvidence}

theorem layout_of_decodeSamples {remaining index : Nat} {samples : List SampleAxes}
    (inside : chunkFixedBytes + (index + remaining) * 9 ≤ payload.length)
    (decoded : decodeSamples payload remaining index = .ok samples) : samples.length = remaining ∧
      samples.flatMap axesLayout = slice payload (chunkFixedBytes + index * 9) (remaining * 9) := by
  induction remaining generalizing index samples with
  | zero =>
    cases decoded
    simp [slice]
  | succ remaining ih =>
    rw [decodeSamples] at decoded
    obtain ⟨x, readX, decoded⟩ := bind_eq_ok.mp decoded
    obtain ⟨y, readY, decoded⟩ := bind_eq_ok.mp decoded
    obtain ⟨z, readZ, decoded⟩ := bind_eq_ok.mp decoded
    obtain ⟨rest, readRest, decoded⟩ := bind_eq_ok.mp decoded
    cases decoded
    obtain ⟨count, bytes⟩ := ih (by omega) readRest
    refine ⟨by rw [length_cons, count], ?_⟩
    have width : ∀ offset, offset ≤ chunkFixedBytes + index * 9 + 6 →
        (slice payload offset 3).length = 3 := fun offset bound => length_slice (by omega)
    have fields := fields_eq_slice payload (chunkFixedBytes + index * 9)
      [3, 3, 3, remaining * 9]
    have next : chunkFixedBytes + index * 9 + 3 + 3 + 3 = chunkFixedBytes + (index + 1) * 9 := by
      omega
    have total : [3, 3, 3, remaining * 9].sum = (remaining + 1) * 9 := by
      simp only [sum_cons, sum_nil]
      omega
    simp only [Base.fields, append_nil, next, total] at fields
    rw [← fields, flatMap_cons, bytes, axesLayout,
      encodeI24_of_decodeI24 (width _ (by omega)) readX,
      encodeI24_of_decodeI24 (width _ (by omega)) readY,
      encodeI24_of_decodeI24 (width _ (by omega)) readZ]
    simp only [append_assoc]

theorem requireLength_eq_ok {expected : Nat} :
    requireLength payload expected = .ok () ↔ payload.length = expected := by
  rw [requireLength]
  split
  · rename_i width
    exact ⟨fun _ => width, fun _ => rfl⟩
  rename_i width
  exact ⟨nofun, fun same => absurd same width⟩

theorem contractCheck_eq_ok {check : Except MeasurementContractError Unit} :
    contractCheck check = .ok () ↔ check = .ok () :=
  mapError_eq_ok

theorem decodePullRequest_layout (valid : request.Valid) :
    decodePullRequest (pullRequestLayout request) = .ok request := by
  rw [PullSamplesRequest.Valid] at valid
  simp [decodePullRequest, requireLength, pullRequestLayout, pullRequestBytes, valid,
    Except.mapError]

variable {bytes : List UInt8} {state : StreamState} {value : UInt8} {gap : GapEvidence}
  {chunk : SampleChunk} {response : PullResponse}

theorem layout_of_decodePullRequest (decoded : decodePullRequest bytes = .ok request) :
    request.Valid ∧ pullRequestLayout request = bytes := by
  obtain ⟨length, decoded⟩ := check_eq_ok.mp decoded
  have width := requireLength_eq_ok.mp length
  rw [mapError_eq_ok] at decoded
  have built : request = ⟨readU64 bytes 0, readU64 bytes 8, readU64 bytes 16,
      readU16 bytes 24⟩ := by
    rw [PullSamplesRequest.new] at decoded
    split at decoded
    · cases decoded
    split at decoded
    · cases decoded
    · split at decoded
      · cases decoded
      · exact (Except.ok.inj decoded).symm
  have whole : fields bytes 0 [8, 8, 8, 2] = bytes := fields_eq_self width
  simp only [fields, Nat.reduceAdd, append_nil] at whole
  rw [pullRequestBytes] at width
  subst built
  refine ⟨decoded, ?_⟩
  rw [pullRequestLayout, u64Bytes_readU64 (by omega), u64Bytes_readU64 (by omega),
    u64Bytes_readU64 (by omega), u16Bytes_readU16 (by omega)]
  exact whole

variable (code : UInt8)

theorem decodeStateResult_layout (valid : state.validate = .ok ()) :
    decodeStateResult (0 :: code :: streamStateLayout state) = .ok state := by
  simp [decodeStateResult, decodeStreamStateFields, requireLength, streamStateLayout,
    streamStateFieldsBytes, contractCheck, valid, Except.mapError]

theorem layout_of_decodeStateResult (decoded : decodeStateResult bytes = .ok state) :
    state.validate = .ok () ∧ slice bytes 0 2 ++ streamStateLayout state = bytes := by
  obtain ⟨length, decoded⟩ := check_eq_ok.mp decoded
  have width := requireLength_eq_ok.mp length
  obtain ⟨tailLength, decoded⟩ := check_eq_ok.mp decoded
  obtain ⟨valid, decoded⟩ := check_eq_ok.mp decoded
  rw [contractCheck_eq_ok] at valid
  cases decoded
  refine ⟨valid, ?_⟩
  have tail := requireLength_eq_ok.mp tailLength
  rw [streamStateFieldsBytes] at tail
  have whole : fields (bytes.drop 2) 0 [8, 8, 8, 8, 4, 8] = bytes.drop 2 := fields_eq_self tail
  simp only [fields, Nat.reduceAdd, append_nil] at whole
  rw [streamStateLayout, u64Bytes_readU64 (by omega), u64Bytes_readU64 (by omega),
    u64Bytes_readU64 (by omega), u64Bytes_readU64 (by omega), u32Bytes_readU32 (by omega),
    u64Bytes_readU64 (by omega), whole, slice, drop_zero, take_append_drop]

theorem gapReasonOf_byte (exact_ : reason ≠ .journalOverflow) :
    gapReasonOf (exactGapReasonByte reason) = .ok reason := by
  cases reason with
  | journalOverflow => exact absurd rfl exact_
  | unknownDiscontinuity => rfl
  | sourceLoss => rfl
  | ingressOverflow => rfl

theorem exactGapReasonByte_of (decoded : gapReasonOf value = .ok reason) :
    exactGapReasonByte reason = value ∧ reason ≠ .journalOverflow := by
  rw [gapReasonOf] at decoded
  split at decoded
  case h_1 zero => cases decoded; exact ⟨(UInt8.toNat_inj.mp zero).symm, nofun⟩
  case h_2 one => cases decoded; exact ⟨(UInt8.toNat_inj.mp one).symm, nofun⟩
  case h_3 two => cases decoded; exact ⟨(UInt8.toNat_inj.mp two).symm, nofun⟩
  case h_4 => cases decoded

theorem breakReasonOf_byte (reason : ContinuityBreakReason) :
    breakReasonOf (breakReasonByte reason) = .ok reason := by
  cases reason <;> rfl

theorem breakReasonByte_of {reason : ContinuityBreakReason}
    (decoded : breakReasonOf value = .ok reason) : breakReasonByte reason = value := by
  rw [breakReasonOf] at decoded
  split at decoded
  case h_1 zero => cases decoded; exact (UInt8.toNat_inj.mp zero).symm
  case h_2 one => cases decoded; exact (UInt8.toNat_inj.mp one).symm
  case h_3 two => cases decoded; exact (UInt8.toNat_inj.mp two).symm
  case h_4 three => cases decoded; exact (UInt8.toNat_inj.mp three).symm
  case h_5 four => cases decoded; exact (UInt8.toNat_inj.mp four).symm
  case h_6 => cases decoded

theorem GapEvidence.reason_ne_of_validate (valid : gap.validateStructure = .ok ()) :
    gap.reason ≠ .journalOverflow := by
  intro lost
  rw [GapEvidence.validateStructure] at valid
  simp only [lost, if_true] at valid
  split at valid
  · cases valid
  · split at valid
    · cases valid
    · split at valid <;> cases valid

theorem decodeGap_layout (valid : gap.validateStructure = .ok ()) :
    decodeGap (0 :: code :: gapLayout gap (exactGapReasonByte gap.reason)) = .ok gap := by
  have reason := gapReasonOf_byte (GapEvidence.reason_ne_of_validate valid)
  have last : (0 :: code :: gapLayout gap (exactGapReasonByte gap.reason)).getD 42 0 =
      exactGapReasonByte gap.reason := by
    simp [gapLayout]
  simp only [decodeGap, last, reason]
  simp [requireLength, gapLayout, gapResponseBytes, contractCheck, valid, Except.mapError]

theorem layout_of_decodeGap (decoded : decodeGap bytes = .ok gap) : gap.validateStructure = .ok () ∧
      slice bytes 0 2 ++ gapLayout gap (exactGapReasonByte gap.reason) = bytes := by
  obtain ⟨length, decoded⟩ := check_eq_ok.mp decoded
  obtain ⟨reason, spelled, decoded⟩ := bind_eq_ok.mp decoded
  obtain ⟨valid, decoded⟩ := check_eq_ok.mp decoded
  rw [contractCheck_eq_ok] at valid
  cases decoded
  refine ⟨valid, ?_⟩
  have width := requireLength_eq_ok.mp length
  rw [gapResponseBytes] at width
  have whole : fields bytes 0 [2, 8, 8, 8, 8, 8, 1] = bytes := fields_eq_self width
  simp only [fields, Nat.reduceAdd, append_nil] at whole
  have last : slice bytes 42 1 = [bytes.getD 42 0] := slice_one (by omega)
  rw [gapLayout, (exactGapReasonByte_of spelled).1, ← last, u64Bytes_readU64 (by omega),
    u64Bytes_readU64 (by omega), u64Bytes_readU64 (by omega), u64Bytes_readU64 (by omega),
    u64Bytes_readU64 (by omega), whole]

theorem decodeContinuityBreak_layout (valid : mark.validateStructure = .ok ()) :
    decodeContinuityBreak (0 :: code :: continuityBreakLayout mark) = .ok mark := by
  have last : (0 :: code :: continuityBreakLayout mark).getD 34 0 =
      breakReasonByte mark.reason := by
    simp [continuityBreakLayout]
  simp only [decodeContinuityBreak, last, breakReasonOf_byte]
  simp [requireLength, continuityBreakLayout, continuityBreakResponseBytes, contractCheck, valid,
    Except.mapError]

theorem layout_of_decodeContinuityBreak (decoded : decodeContinuityBreak bytes = .ok mark) :
    mark.validateStructure = .ok () ∧
      slice bytes 0 2 ++ continuityBreakLayout mark = bytes := by
  obtain ⟨length, decoded⟩ := check_eq_ok.mp decoded
  obtain ⟨reason, spelled, decoded⟩ := bind_eq_ok.mp decoded
  obtain ⟨valid, decoded⟩ := check_eq_ok.mp decoded
  rw [contractCheck_eq_ok] at valid
  cases decoded
  refine ⟨valid, ?_⟩
  have width := requireLength_eq_ok.mp length
  rw [continuityBreakResponseBytes] at width
  have whole : fields bytes 0 [2, 8, 8, 8, 8, 1] = bytes := fields_eq_self width
  simp only [fields, Nat.reduceAdd, append_nil] at whole
  have last : slice bytes 34 1 = [bytes.getD 34 0] := slice_one (by omega)
  rw [continuityBreakLayout, breakReasonByte_of spelled, ← last, u64Bytes_readU64 (by omega),
    u64Bytes_readU64 (by omega), u64Bytes_readU64 (by omega), u64Bytes_readU64 (by omega), whole]

theorem SampleChunk.length_of_validate (valid : chunk.validate = .ok ()) :
    chunk.samples.length = chunk.header.sampleCount.toNat ∧
      chunk.samples.length ≤ maxWireChunkSamples := by
  obtain ⟨-, valid⟩ := check_eq_ok.mp valid
  split at valid
  · cases valid
  split at valid
  · cases valid
  rename_i counted
  split at valid
  · cases valid
  · rename_i bounded
    exact ⟨not_not.mp counted, Nat.le_of_not_lt bounded⟩

theorem decodeChunk_layout (valid : chunk.validate = .ok ()) :
    decodeChunk (0 :: code :: chunkLayout chunk) = .ok chunk := by
  obtain ⟨counted, -⟩ := SampleChunk.length_of_validate valid
  have length : (0 :: code :: chunkLayout chunk).length =
      chunkFixedBytes + chunk.header.sampleCount.toNat * 9 := by
    rw [length_cons, length_cons, length_chunkLayout, counted, chunkFixedBytes]
    omega
  have long : ¬ (0 :: code :: chunkLayout chunk).length < chunkFixedBytes := by omega
  have count : readU16 (0 :: code :: chunkLayout chunk) 34 = chunk.header.sampleCount := by
    simp [chunkLayout]
  have samples : decodeSamples (0 :: code :: chunkLayout chunk)
      chunk.header.sampleCount.toNat 0 = .ok chunk.samples := by
    have front := decodeSamples_layout chunk.samples
      (0 :: code :: (u64Bytes chunk.header.bootEpoch ++ u64Bytes chunk.header.retainedFrom ++
        u64Bytes chunk.header.produced ++ u64Bytes chunk.header.first ++
        u16Bytes chunk.header.sampleCount ++ u32Bytes chunk.configRevision ++
        u32Bytes chunk.timing.segmentId ++ u64Bytes chunk.timing.firstDeviceTimeUs ++
        u64Bytes chunk.timing.lastDeviceTimeUs ++ u32Bytes chunk.timing.maxFitResidualUs ++
        u16Bytes chunk.timing.qualityFlags)) 0 rfl
    rw [← counted]
    simpa only [chunkLayout, cons_append, append_assoc] using front
  rw [decodeChunk, if_neg long]
  simp only [count, requireLength, length, if_true, samples, ok_bind]
  simp only [chunkLayout, length_u64Bytes, length_u32Bytes, length_u16Bytes,
    readU64_cons_of_pos, readU32_cons_of_pos, readU16_cons_of_pos, readU64_append_of_le,
    readU32_append_of_le, readU16_append_of_le, readU64_u64Bytes, readU32_u32Bytes,
    readU16_u16Bytes, Nat.reduceSub, Nat.reduceLeDiff, Nat.reduceLT, Nat.le_refl, Nat.sub_self]
  rw [valid]
  rfl

theorem layout_of_decodeChunk (decoded : decodeChunk bytes = .ok chunk) :
    chunk.validate = .ok () ∧ slice bytes 0 2 ++ chunkLayout chunk = bytes := by
  rw [decodeChunk] at decoded
  split at decoded
  · cases decoded
  obtain ⟨length, decoded⟩ := check_eq_ok.mp decoded
  obtain ⟨samples, read, decoded⟩ := bind_eq_ok.mp decoded
  obtain ⟨valid, decoded⟩ := check_eq_ok.mp decoded
  cases decoded
  refine ⟨valid, ?_⟩
  have width := requireLength_eq_ok.mp length
  rw [chunkFixedBytes] at width
  obtain ⟨-, packed⟩ := layout_of_decodeSamples (by
    rw [chunkFixedBytes]
    omega) read
  have whole : fields bytes 0 [2, 8, 8, 8, 8, 2, 4, 4, 8, 8, 4, 2,
      (readU16 bytes 34).toNat * 9] = bytes := by
    apply fields_eq_self
    rw [width]
    simp only [sum_cons, sum_nil]
    omega
  simp only [fields, Nat.reduceAdd, append_nil] at whole
  rw [chunkLayout, packed, u64Bytes_readU64 (by omega), u64Bytes_readU64 (by omega),
    u64Bytes_readU64 (by omega), u64Bytes_readU64 (by omega), u16Bytes_readU16 (by omega),
    u32Bytes_readU32 (by omega), u32Bytes_readU32 (by omega), u64Bytes_readU64 (by omega),
    u64Bytes_readU64 (by omega), u32Bytes_readU32 (by omega), u16Bytes_readU16 (by omega)]
  exact whole

theorem PullResultCode.tryFrom_toByte (code : PullResultCode) :
    PullResultCode.tryFrom code.toByte = .ok code := by
  cases code <;> rfl

theorem PullResultCode.toByte_of_tryFrom {code : PullResultCode}
    (decoded : PullResultCode.tryFrom value = .ok code) : code.toByte = value := by
  rw [PullResultCode.tryFrom] at decoded
  split at decoded
  case h_1 same => cases decoded; exact (UInt8.toNat_inj.mp same).symm
  case h_2 same => cases decoded; exact (UInt8.toNat_inj.mp same).symm
  case h_3 same => cases decoded; exact (UInt8.toNat_inj.mp same).symm
  case h_4 same => cases decoded; exact (UInt8.toNat_inj.mp same).symm
  case h_5 same => cases decoded; exact (UInt8.toNat_inj.mp same).symm
  case h_6 same => cases decoded; exact (UInt8.toNat_inj.mp same).symm
  case h_7 same => cases decoded; exact (UInt8.toNat_inj.mp same).symm
  case h_8 => cases decoded

theorem eq_zero_of_decodeOkStatus {raw : UInt8} {rest : List UInt8}
    (status : decodeOkStatus (raw :: rest) = .ok ()) : raw = 0 := by
  rw [decodeOkStatus] at status
  split at status
  · cases status
  · rename_i found
    rw [ResponseStatus.tryFrom] at found
    split at found
    case h_1 zero => exact UInt8.toNat_inj.mp zero
    all_goals cases found
  · cases status

theorem decodePullResponse_cons (code : PullResultCode) (rest : List UInt8) :
    decodePullResponse (0 :: code.toByte :: rest) =
      decodePullResult code (0 :: code.toByte :: rest) := by
  have long : ¬ (0 :: code.toByte :: rest).length < 2 := by simp
  have status : decodeOkStatus (0 :: code.toByte :: rest) = .ok () := rfl
  rw [decodePullResponse, status, ok_bind, if_neg long]
  simp [PullResultCode.tryFrom_toByte]

/-- The second byte of an accepted message is its code. -/
theorem decodePullResult_of_decodePullResponse (decoded : decodePullResponse bytes = .ok response) :
    ∃ code, decodePullResult code bytes = .ok response ∧ slice bytes 0 2 = [0, code.toByte] := by
  obtain ⟨status, decoded⟩ := check_eq_ok.mp decoded
  split at decoded
  · cases decoded
  rename_i long
  obtain ⟨code, found, decoded⟩ := bind_eq_ok.mp decoded
  refine ⟨code, decoded, ?_⟩
  match bytes, long with
  | raw :: value :: rest, _ =>
    have same : code.toByte = value := PullResultCode.toByte_of_tryFrom found
    rw [same, eq_zero_of_decodeOkStatus status]
    rfl

theorem decodePullResponse_layout (valid : response.validate = .ok ()) :
    decodePullResponse (pullResponseLayout response) = .ok response := by
  cases response with
  | sampleChunk chunk =>
    rw [pullResponseLayout, decodePullResponse_cons, decodePullResult,
      decodeChunk_layout _ valid, map_ok]
  | noData state =>
    rw [pullResponseLayout, decodePullResponse_cons, decodePullResult,
      decodeStateResult_layout _ (contractCheck_eq_ok.mp valid), map_ok]
  | rangeUnavailable state =>
    rw [pullResponseLayout, decodePullResponse_cons, decodePullResult,
      decodeStateResult_layout _ (contractCheck_eq_ok.mp valid), map_ok]
  | streamChanged epoch =>
    have nonzero : epoch ≠ 0 := by
      intro zero
      rw [PullResponse.validate, if_pos zero] at valid
      cases valid
    rw [pullResponseLayout, decodePullResponse_cons, decodePullResult]
    simp [requireLength, nonzero]
  | invalidRelease state =>
    rw [pullResponseLayout, decodePullResponse_cons, decodePullResult,
      decodeStateResult_layout _ (contractCheck_eq_ok.mp valid), map_ok]
  | gap evidence =>
    rw [pullResponseLayout, decodePullResponse_cons, decodePullResult,
      decodeGap_layout _ (contractCheck_eq_ok.mp valid), map_ok]
  | continuityBreak evidence =>
    rw [pullResponseLayout, decodePullResponse_cons, decodePullResult,
      decodeContinuityBreak_layout _ (contractCheck_eq_ok.mp valid), map_ok]

/-- Accepted bytes are the layout of the response they decode to. -/
theorem layout_of_decodePullResponse (decoded : decodePullResponse bytes = .ok response) :
    response.validate = .ok () ∧ pullResponseLayout response = bytes := by
  obtain ⟨code, decoded, start⟩ := decodePullResult_of_decodePullResponse decoded
  cases code with
  | sampleChunk =>
    obtain ⟨chunk, read, rfl⟩ := map_eq_ok.mp decoded
    obtain ⟨valid, whole⟩ := layout_of_decodeChunk read
    rw [start] at whole
    exact ⟨valid, whole⟩
  | noData =>
    obtain ⟨state, read, rfl⟩ := map_eq_ok.mp decoded
    obtain ⟨valid, whole⟩ := layout_of_decodeStateResult read
    rw [start] at whole
    exact ⟨contractCheck_eq_ok.mpr valid, whole⟩
  | rangeUnavailable =>
    obtain ⟨state, read, rfl⟩ := map_eq_ok.mp decoded
    obtain ⟨valid, whole⟩ := layout_of_decodeStateResult read
    rw [start] at whole
    exact ⟨contractCheck_eq_ok.mpr valid, whole⟩
  | streamChanged =>
    obtain ⟨length, decoded⟩ := check_eq_ok.mp decoded
    have width := requireLength_eq_ok.mp length
    simp only at decoded
    split at decoded
    · cases decoded
    rename_i nonzero
    cases decoded
    refine ⟨by rw [PullResponse.validate, if_neg nonzero], ?_⟩
    have whole : fields bytes 0 [2, 8] = bytes := fields_eq_self width
    simp only [fields, Nat.reduceAdd, append_nil, start] at whole
    rw [pullResponseLayout, u64Bytes_readU64 (by omega)]
    exact whole
  | invalidRelease =>
    obtain ⟨state, read, rfl⟩ := map_eq_ok.mp decoded
    obtain ⟨valid, whole⟩ := layout_of_decodeStateResult read
    rw [start] at whole
    exact ⟨contractCheck_eq_ok.mpr valid, whole⟩
  | gap =>
    obtain ⟨evidence, read, rfl⟩ := map_eq_ok.mp decoded
    obtain ⟨valid, whole⟩ := layout_of_decodeGap read
    rw [start] at whole
    exact ⟨contractCheck_eq_ok.mpr valid, whole⟩
  | continuityBreak =>
    obtain ⟨evidence, read, rfl⟩ := map_eq_ok.mp decoded
    obtain ⟨valid, whole⟩ := layout_of_decodeContinuityBreak read
    rw [start] at whole
    exact ⟨contractCheck_eq_ok.mpr valid, whole⟩

theorem encodeStateResult_layout (size : output.length = maxPayloadBytes) (code : PullResultCode)
    (valid : state.validate = .ok ()) :
    ∃ buffer, encodeStateResult code state (overwrite output 0 [0]) = .ok (46, buffer) ∧
      LaidOut maxPayloadBytes buffer (0 :: code.toByte :: streamStateLayout state) := by
  refine ⟨_, ?_, laidOut_encodeStreamStateFields size code state (by decide)⟩
  simp [encodeStateResult, contractCheck, valid, Except.mapError]

/-- Encoding leaves the layout in front of the buffer. -/
theorem encodePullResponse_layout (size : output.length = maxPayloadBytes)
    (valid : response.validate = .ok ()) : ∃ buffer, encodePullResponse response output =
        .ok ((pullResponseLayout response).length, buffer) ∧
      LaidOut maxPayloadBytes buffer (pullResponseLayout response) := by
  cases response with
  | sampleChunk chunk =>
    have checked : chunk.validate = .ok () := valid
    obtain ⟨-, bounded⟩ := SampleChunk.length_of_validate checked
    have fits : chunkFixedBytes + chunk.samples.length * 9 ≤ maxPayloadBytes := by
      simp only [maxWireChunkSamples, maxPayloadBytes, chunkFixedBytes] at bounded ⊢
      omega
    refine ⟨_, ?_, laidOut_encodeChunk size chunk fits⟩
    have length : (pullResponseLayout (.sampleChunk chunk)).length =
        chunkFixedBytes + chunk.samples.length * 9 := by
      rw [pullResponseLayout, length_cons, length_cons, length_chunkLayout,
        chunkFixedBytes]
      omega
    rw [length, encodePullResponse]
    simp only [checked, ok_bind]
  | noData state => exact encodeStateResult_layout size .noData (contractCheck_eq_ok.mp valid)
  | rangeUnavailable state =>
    exact encodeStateResult_layout size .rangeUnavailable (contractCheck_eq_ok.mp valid)
  | streamChanged epoch =>
    have nonzero : epoch ≠ 0 := by
      intro zero
      rw [PullResponse.validate, if_pos zero] at valid
      cases valid
    refine ⟨_, ?_, laidOut_streamChanged size epoch (by decide)⟩
    rw [encodePullResponse]
    simp only [if_neg nonzero]
    rfl
  | invalidRelease state =>
    exact encodeStateResult_layout size .invalidRelease (contractCheck_eq_ok.mp valid)
  | gap evidence =>
    have checked := contractCheck_eq_ok.mp valid
    have reason : gapReasonByte evidence.reason = .ok (exactGapReasonByte evidence.reason) := by
      have exact_ := GapEvidence.reason_ne_of_validate checked
      cases kind : evidence.reason with
      | journalOverflow => exact absurd kind exact_
      | unknownDiscontinuity => rfl
      | sourceLoss => rfl
      | ingressOverflow => rfl
    refine ⟨_, ?_, laidOut_gap size evidence _ (by decide)⟩
    rw [encodePullResponse]
    simp only [encodeGap, contractCheck, checked, Except.mapError, ok_bind, reason]
    rfl
  | continuityBreak evidence =>
    have checked := contractCheck_eq_ok.mp valid
    refine ⟨_, ?_, laidOut_continuityBreak size evidence (by decide)⟩
    rw [encodePullResponse]
    simp only [encodeContinuityBreak, contractCheck, checked, Except.mapError, ok_bind]
    rfl

/-- The pull codec of the host is a bijection between valid messages and accepted
byte strings. The message of a response is the part of the payload buffer that
the encoder reports, whatever the buffer held before. -/
theorem pull_codec_round_trip : (∀ request : PullSamplesRequest, request.Valid →
        decodePullRequest (encodePullRequest request) = .ok request) ∧
      (∀ bytes request, decodePullRequest bytes = .ok request →
        encodePullRequest request = bytes) ∧
      (∀ (response : PullResponse) (output : List UInt8), output.length = maxPayloadBytes →
        response.validate = .ok () →
          ∃ length buffer, encodePullResponse response output = .ok (length, buffer) ∧
            decodePullResponse (buffer.take length) = .ok response) ∧
      (∀ (bytes output : List UInt8) (response : PullResponse),
        output.length = maxPayloadBytes → decodePullResponse bytes = .ok response →
          ∃ length buffer, encodePullResponse response output = .ok (length, buffer) ∧
            buffer.take length = bytes) := by
  refine ⟨?_, ?_, ?_, ?_⟩
  · intro request valid
    rw [encodePullRequest_eq]
    exact decodePullRequest_layout valid
  · intro bytes request decoded
    rw [encodePullRequest_eq]
    exact (layout_of_decodePullRequest decoded).2
  · intro response output size valid
    obtain ⟨buffer, encoded, laidOut⟩ := encodePullResponse_layout size valid
    refine ⟨_, buffer, encoded, ?_⟩
    rw [laidOut.take_eq]
    exact decodePullResponse_layout valid
  · intro bytes output response size decoded
    obtain ⟨valid, same⟩ := layout_of_decodePullResponse decoded
    obtain ⟨buffer, encoded, laidOut⟩ := encodePullResponse_layout size valid
    exact ⟨_, buffer, encoded, laidOut.take_eq.trans same⟩

end SensorSystem.Host
