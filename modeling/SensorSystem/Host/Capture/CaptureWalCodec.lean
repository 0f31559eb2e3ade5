import SensorSystem.Host.Capture.CaptureWalSink
import SensorSystem.Host.Protocol.MeasurementWireRoundTrip

/-! The header is read back from its bytes, and so is a record that was checked before it was
written. The loop of recovery takes such a record off the front, and stops at any proper part of
one. -/

namespace SensorSystem.Host

open List Base
open Framing (crc32c)

namespace CaptureRecord

def kind : CaptureRecord → RecordKind
  | sampleChunk _ => .sampleChunk
  | gap _ => .gap
  | continuityBreak _ => .continuityBreak
  | windowSeal => .windowSeal

def payload : CaptureRecord → List UInt8
  | sampleChunk chunk => chunkPayload chunk
  | gap value => gapPayload value
  | continuityBreak observed => breakPayload observed
  | windowSeal => []

/-- The bytes of a record in the file. -/
def bytes (record : CaptureRecord) : List UInt8 :=
  wrapRecord record.kind record.payload

/-- The record belongs to the stream, and a chunk is valid. -/
def Storable (config : CaptureWalConfig) : CaptureRecord → Prop
  | sampleChunk chunk => chunk.validate = .ok () ∧ chunk.header.bootEpoch = config.bootEpoch
  | gap value => value.hardwareId = config.hardwareId ∧ value.bootEpoch = config.bootEpoch
  | continuityBreak observed =>
    observed.hardwareId = config.hardwareId ∧ observed.bootEpoch = config.bootEpoch
  | windowSeal => True

end CaptureRecord

theorem length_fileHeader (config : CaptureWalConfig) :
    (fileHeader config).length = fileHeaderBytes := by
  simp [fileHeader, fileHeaderContent, fileMagic, fileHeaderBytes]

theorem decodeFileHeader_fileHeader_eq {config : CaptureWalConfig} (epoch : config.bootEpoch ≠ 0) :
    decodeFileHeader (fileHeader config) = (do
      let windowPolicy ← windowCheck
        (CaptureWindowPolicy.new config.windowPolicy.targetDurationUs)
      .ok {
        hardwareId := config.hardwareId
        bootEpoch := config.bootEpoch
        firstCursor := config.recoveredCursor
        firstWindowOrdinal := config.firstWindowOrdinal
        windowPolicy }) := by
  have width : (fileHeaderContent config).length = fileHeaderCrcOffset := by
    simp [fileHeaderContent, fileMagic, fileHeaderCrcOffset, fileHeaderBytes]
  have covered : (fileHeader config).take fileHeaderCrcOffset = fileHeaderContent config :=
    take_left' width
  have checksum : readU32 (fileHeader config) fileHeaderCrcOffset =
      crc32c (fileHeaderContent config) := by
    rw [fileHeader, readU32_append_of_le (Nat.le_of_eq width), width, Nat.sub_self]
    exact readU32_eq (slice_zero_self (length_u32Bytes _))
  have magic : slice (fileHeader config) 0 8 = fileMagic := rfl
  have version : readU16 (fileHeader config) 8 = fileVersion := by
    simp [fileHeader, fileHeaderContent, fileMagic]
  have long : readU16 (fileHeader config) 10 = UInt16.ofNat fileHeaderBytes := by
    simp [fileHeader, fileHeaderContent, fileMagic]
  have reserved : slice (fileHeader config) 52 8 = replicate 8 0 := by
    simp [-reduceReplicate, fileHeader, fileHeaderContent, fileMagic, slice_cons_of_pos]
  have epochs : readU64 (fileHeader config) 20 = config.bootEpoch := by
    simp [fileHeader, fileHeaderContent, fileMagic]
  have cursor : readU64 (fileHeader config) 28 = config.recoveredCursor := by
    simp [fileHeader, fileHeaderContent, fileMagic]
  have ordinal : readU64 (fileHeader config) 36 = config.firstWindowOrdinal := by
    simp [fileHeader, fileHeaderContent, fileMagic]
  have target : readU64 (fileHeader config) 44 = config.windowPolicy.targetDurationUs := by
    simp [fileHeader, fileHeaderContent, fileMagic]
  have hardware : (Vector.ofFn fun index : Fin 8 => (fileHeader config).getD (12 + index) 0) =
      config.hardwareId := by
    ext index bound
    have inside : index < config.hardwareId.toList.length := by simpa using bound
    have front : (fileMagic ++ (u16Bytes fileVersion ++
        u16Bytes (UInt16.ofNat fileHeaderBytes))).length = 12 := by simp [fileMagic]
    simp only [fileHeader, fileHeaderContent, Vector.getElem_ofFn, append_assoc]
    rw [← append_assoc (u16Bytes fileVersion), ← append_assoc fileMagic,
      getD_eq_getElem?_getD, getElem?_append_right (by omega), front,
      Nat.add_sub_cancel_left, getElem?_append_left inside]
    simp [bound]
  simp only [decodeFileHeader, magic, version, long, covered, checksum, reserved, epochs, cursor,
    ordinal, target, hardware]
  rw [if_neg (by decide), if_neg (by decide), if_neg (by decide), if_neg (by simp),
    if_neg (by decide), if_neg epoch]

/-- The header is read back. -/
theorem decodeFileHeader_fileHeader {config : CaptureWalConfig} (epoch : config.bootEpoch ≠ 0)
    (duration : config.windowPolicy.targetDurationUs ≠ 0) :
    decodeFileHeader (fileHeader config) = .ok {
      hardwareId := config.hardwareId
      bootEpoch := config.bootEpoch
      firstCursor := config.recoveredCursor
      firstWindowOrdinal := config.firstWindowOrdinal
      windowPolicy := config.windowPolicy } := by
  have policy : windowCheck (CaptureWindowPolicy.new config.windowPolicy.targetDurationUs) =
      .ok config.windowPolicy := by
    rw [CaptureWindowPolicy.new, if_neg duration]
    rfl
  rw [decodeFileHeader_fileHeader_eq epoch, policy, ok_bind]

theorem walDecodeSamples_eq (payload : List UInt8) (remaining index : Nat) :
    walDecodeSamples payload remaining index =
      (decodeSamples (replicate 10 0 ++ payload) remaining index).mapError
        fun _ => .invalidRecordPayload := by
  induction remaining generalizing index with
  | zero => rfl
  | succ remaining ih =>
    have moved (offset : Nat) : slice (replicate 10 0 ++ payload) (offset + 10) 3 =
        slice payload offset 3 := by
      rw [slice_append_of_le (by simp)]
      simp
    have base : chunkFixedBytes + index * 9 = chunkFixedPayloadBytes + index * 9 + 10 := by
      rw [chunkFixedBytes, chunkFixedPayloadBytes]
      omega
    have second : chunkFixedPayloadBytes + index * 9 + 10 + 3 =
        chunkFixedPayloadBytes + index * 9 + 3 + 10 := by omega
    have third : chunkFixedPayloadBytes + index * 9 + 10 + 6 =
        chunkFixedPayloadBytes + index * 9 + 6 + 10 := by omega
    simp only [walDecodeSamples, decodeSamples, base, second, third, moved, ih, walDecodeI24]
    cases decodeI24 (slice payload (chunkFixedPayloadBytes + index * 9) 3) with
    | error => rfl
    | ok x =>
      cases decodeI24 (slice payload (chunkFixedPayloadBytes + index * 9 + 3) 3) with
      | error => rfl
      | ok y =>
        cases decodeI24 (slice payload (chunkFixedPayloadBytes + index * 9 + 6) 3) with
        | error => rfl
        | ok z =>
          cases decodeSamples (replicate 10 0 ++ payload) remaining (index + 1) <;> rfl

/-- The fixed fields in front of the samples. -/
theorem chunkPayload_eq (chunk : SampleChunk) : chunkPayload chunk =
    (u64Bytes chunk.header.retainedFrom ++ u64Bytes chunk.header.produced ++
      u64Bytes chunk.header.first ++ u16Bytes chunk.header.sampleCount ++
      u32Bytes chunk.configRevision ++ u32Bytes chunk.timing.segmentId ++
      u64Bytes chunk.timing.firstDeviceTimeUs ++ u64Bytes chunk.timing.lastDeviceTimeUs ++
      u32Bytes chunk.timing.maxFitResidualUs ++ u16Bytes chunk.timing.qualityFlags) ++
      chunk.samples.flatMap axesLayout := by
  simp only [append_assoc]
  rfl

theorem length_chunkPayload (chunk : SampleChunk) :
    (chunkPayload chunk).length = chunkFixedPayloadBytes + chunk.samples.length * 9 := by
  simp only [chunkPayload_eq, length_append, length_u64Bytes, length_u32Bytes,
    length_u16Bytes, length_flatMap_axesLayout, chunkFixedPayloadBytes]

theorem walDecodeChunk_payload {chunk : SampleChunk} (valid : chunk.validate = .ok ()) :
    walDecodeChunk (chunkPayload chunk) chunk.header.bootEpoch = .ok chunk := by
  obtain ⟨counted, -⟩ := SampleChunk.length_of_validate valid
  have length : (chunkPayload chunk).length =
      chunkFixedPayloadBytes + chunk.header.sampleCount.toNat * 9 := by
    rw [length_chunkPayload, counted]
  have count : readU16 (chunkPayload chunk) 24 = chunk.header.sampleCount := by
    simp [chunkPayload]
  have samples : walDecodeSamples (chunkPayload chunk) chunk.header.sampleCount.toNat 0 =
      .ok chunk.samples := by
    rw [walDecodeSamples_eq, ← counted, mapError_eq_ok, chunkPayload_eq, ← append_assoc]
    exact decodeSamples_layout chunk.samples _ 0 (by simp [chunkFixedBytes])
  rw [walDecodeChunk, if_neg (by omega)]
  simp only [count, length, ne_eq, not_true_eq_false, if_false, samples, ok_bind]
  simp only [chunkPayload, length_u64Bytes, length_u32Bytes, length_u16Bytes,
    readU64_append_of_le, readU32_append_of_le, readU16_append_of_le, readU64_u64Bytes,
    readU32_u32Bytes, readU16_u16Bytes, Nat.reduceSub, Nat.reduceLeDiff, Nat.le_refl,
    Nat.sub_self]
  rw [valid]
  rfl

theorem walGapReasonOf_byte (reason : GapReason) :
    walGapReasonOf (walGapReasonByte reason) = .ok reason := by
  cases reason <;> rfl

theorem walBreakReasonOf_byte (reason : ContinuityBreakReason) :
    walBreakReasonOf (walBreakReasonByte reason) = .ok reason := by
  cases reason <;> rfl

theorem Gap.new_eq (gap : Gap) :
    Gap.new gap.hardwareId gap.bootEpoch gap.firstMissing gap.missingCount gap.reason =
      .ok gap := by
  rw [Gap.new, dif_neg gap.nonempty, dif_pos gap.bounded]

variable (observed : ContinuityBreak)

theorem ContinuityBreak.new_eq :
    ContinuityBreak.new observed.hardwareId observed.bootEpoch observed.at_ observed.reason =
      .ok observed := by
  rw [ContinuityBreak.new, dif_pos observed.bounded]

theorem walDecodeGap_payload (gap : Gap) :
    walDecodeGap (gapPayload gap) gap.hardwareId gap.bootEpoch = .ok gap := by
  have length : (gapPayload gap).length = gapPayloadBytes := by
    simp [gapPayload, gapPayloadBytes]
  have reason : (gapPayload gap).getD 16 0 = walGapReasonByte gap.reason := by
    simp [gapPayload]
  have first : readU64 (gapPayload gap) 0 = gap.firstMissing := by
    simp [gapPayload]
  have count : readU64 (gapPayload gap) 8 = gap.missingCount := by
    simp [gapPayload]
  rw [walDecodeGap, if_neg (not_not.mpr length), reason, walGapReasonOf_byte, first, count,
    ok_bind, Gap.new_eq]
  rfl

theorem walDecodeBreak_payload :
    walDecodeBreak (breakPayload observed) observed.hardwareId observed.bootEpoch =
      .ok observed := by
  have length : (breakPayload observed).length = breakPayloadBytes := by
    simp [breakPayload, breakPayloadBytes]
  have reason : (breakPayload observed).getD 8 0 = walBreakReasonByte observed.reason := by
    simp [breakPayload]
  have at_ : readU64 (breakPayload observed) 0 = observed.at_ := by
    simp [breakPayload]
  rw [walDecodeBreak, if_neg (not_not.mpr length), reason, walBreakReasonOf_byte, at_, ok_bind,
    ContinuityBreak.new_eq]
  rfl

theorem RecordKind.tryFrom_toByte (kind : RecordKind) :
    RecordKind.tryFrom kind.toByte = .ok kind := by
  cases kind <;> rfl

namespace CaptureRecord

variable {config : CaptureWalConfig} {record : CaptureRecord}

/-- A stored record is read back from the data its checksum covers. -/
theorem decodeRecord_data (storable : record.Storable config) :
    decodeRecord (recordData record.kind record.payload) config.hardwareId config.bootEpoch =
      .ok record := by
  have long : ¬ (recordData record.kind record.payload).length < recordHeaderBytes := by
    simp [recordData, recordHeaderBytes]
  rw [decodeRecord, if_neg long]
  change RecordKind.tryFrom record.kind.toByte >>= _ = _
  rw [RecordKind.tryFrom_toByte, ok_bind]
  cases record with
  | sampleChunk chunk =>
    obtain ⟨valid, epoch⟩ := storable
    change sampleChunk <$> walDecodeChunk (sampleChunk chunk).payload config.bootEpoch = _
    simp only [payload, ← epoch, walDecodeChunk_payload valid, map_ok]
  | gap value =>
    obtain ⟨hardware, epoch⟩ := storable
    change gap <$> walDecodeGap (gap value).payload config.hardwareId config.bootEpoch = _
    simp only [payload, ← epoch, ← hardware, walDecodeGap_payload, map_ok]
  | continuityBreak observed =>
    obtain ⟨hardware, epoch⟩ := storable
    change continuityBreak <$> walDecodeBreak (continuityBreak observed).payload
      config.hardwareId config.bootEpoch = _
    simp only [payload, ← epoch, ← hardware, walDecodeBreak_payload, map_ok]
  | windowSeal => rfl

theorem length_payload_le (storable : record.Storable config) : record.payload.length ≤ 497 := by
  cases record with
  | sampleChunk chunk =>
    obtain ⟨-, bounded⟩ := SampleChunk.length_of_validate storable.1
    simp only [maxWireChunkSamples, Framing.maxPayloadBytes, chunkFixedBytes] at bounded
    rw [payload, length_chunkPayload, chunkFixedPayloadBytes]
    omega
  | gap value => simp [payload, gapPayload]
  | continuityBreak observed => simp [payload, breakPayload]
  | windowSeal => simp [payload]

/-- The length of what follows the length prefix. -/
def bodyLength (record : CaptureRecord) : Nat :=
  recordHeaderBytes + record.payload.length + recordCrcBytes

theorem length_data (record : CaptureRecord) :
    (recordData record.kind record.payload).length = record.bodyLength - recordCrcBytes := by
  simp only [recordData, length_cons, bodyLength, recordHeaderBytes, recordCrcBytes]
  omega

theorem length_bytes (record : CaptureRecord) :
    record.bytes.length = recordPrefixBytes + record.bodyLength := by
  have data := record.length_data
  simp only [bytes, wrapRecord, length_append, length_u32Bytes, data, recordPrefixBytes,
    bodyLength, recordHeaderBytes, recordCrcBytes]
  omega

theorem bodyLength_bounds (storable : record.Storable config) :
    minRecordBodyBytes ≤ record.bodyLength ∧ record.bodyLength ≤ maxRecordBodyBytes := by
  have bounded := length_payload_le storable
  simp only [minRecordBodyBytes, bodyLength, recordHeaderBytes, recordCrcBytes,
    maxRecordBodyBytes]
  omega

/-- The length prefix of stored bytes, whatever follows it. -/
theorem readU32_bytes (storable : record.Storable config) {bytes : List UInt8}
    (starts : bytes.take 4 = record.bytes.take 4) :
      (readU32 bytes 0).toNat = record.bodyLength := by
  have bounded := (bodyLength_bounds storable).2
  have field : slice bytes 0 4 = u32Bytes (UInt32.ofNat record.bodyLength) := by
    rw [slice, drop_zero, starts, CaptureRecord.bytes, wrapRecord]
    exact take_left' (length_u32Bytes _)
  rw [readU32_eq field, UInt32.toNat_ofNat']
  exact Nat.mod_eq_of_lt (by rw [maxRecordBodyBytes] at bounded; omega)

/-- Behind the prefix: the data and its checksum. -/
theorem slice_bytes (record : CaptureRecord) (rest : List UInt8) :
    slice (record.bytes ++ rest) recordPrefixBytes record.bodyLength =
      recordData record.kind record.payload ++
        u32Bytes (crc32c (recordData record.kind record.payload)) := by
  have data := record.length_data
  have width : (recordData record.kind record.payload ++
      u32Bytes (crc32c (recordData record.kind record.payload))).length = record.bodyLength := by
    rw [length_append, data, length_u32Bytes, recordCrcBytes, bodyLength, recordCrcBytes]
    omega
  rw [bytes, wrapRecord, append_assoc, recordPrefixBytes,
    slice_append_of_le (Nat.le_of_eq (length_u32Bytes _)), length_u32Bytes, Nat.sub_self]
  exact slice_zero_append rest width

end CaptureRecord

section Loop

variable {config : CaptureWalConfig} {record : CaptureRecord}

/-- What a reader finds at the start of a complete record. -/
structure CaptureRecord.FoundIn (record : CaptureRecord) (bytes rest : List UInt8) : Prop where
  long : recordPrefixBytes + record.bodyLength ≤ bytes.length
  bodyLength : (readU32 bytes 0).toNat = record.bodyLength
  data : (slice bytes recordPrefixBytes record.bodyLength).take
    (record.bodyLength - recordCrcBytes) = recordData record.kind record.payload
  checksum : readU32 (slice bytes recordPrefixBytes record.bodyLength)
    (record.bodyLength - recordCrcBytes) = crc32c (recordData record.kind record.payload)
  rest : bytes.drop (recordPrefixBytes + record.bodyLength) = rest

variable (storable : record.Storable config)

include storable

theorem CaptureRecord.foundIn (rest : List UInt8) : record.FoundIn (record.bytes ++ rest) rest := by
  have length := record.length_bytes
  have four : recordPrefixBytes = 4 := rfl
  have body := record.slice_bytes rest
  have data := record.length_data
  constructor
  · rw [length_append]
    omega
  · exact CaptureRecord.readU32_bytes storable (take_append_of_le_length (by omega))
  · rw [body]
    exact take_left' data
  · rw [body, readU32_append_of_le (Nat.le_of_eq data), data, Nat.sub_self]
    exact readU32_eq (slice_zero_self (length_u32Bytes _))
  · rw [← length]
    exact drop_left

/-- The loop takes a complete record off the front. -/
theorem recoverLoop_record (rest : List UInt8) (offset : Nat)
    (state : CaptureWindowLedger × CaptureWalRecovery)
    (bounded : offset + record.bytes.length < 2 ^ 64) :
    recoverLoop config (record.bytes ++ rest) offset state =
      match replayRecord config.hardwareId state record with
      | .error error => .error error
      | .ok state => recoverLoop config rest (offset + record.bytes.length) state := by
  have length := record.length_bytes
  have four : recordPrefixBytes = 4 := rfl
  have bounds := CaptureRecord.bodyLength_bounds storable
  have found := CaptureRecord.foundIn storable rest
  have long := found.long
  rw [recoverLoop]
  simp only [found.bodyLength, found.data, found.checksum, found.rest]
  rw [if_neg (by omega), if_neg (by omega), if_neg (not_not.mpr bounds), if_neg (by omega),
    if_neg (by omega), if_neg (by simp)]
  have decoded := CaptureRecord.decodeRecord_data storable
  cases replayed : replayRecord config.hardwareId state record with
  | error error => simp only [decoded, replayed]
  | ok after => simp only [decoded, replayed, length, Nat.add_assoc]

/-- The loop stops at a record that is not complete. -/
theorem recoverLoop_torn {torn : List UInt8} (starts : torn <+: record.bytes)
    (incomplete : torn.length < record.bytes.length) (nonempty : torn.length ≠ 0) (offset : Nat)
    (state : CaptureWindowLedger × CaptureWalRecovery)
    (bounded : offset + record.bytes.length < 2 ^ 64) : recoverLoop config torn offset state =
      .ok (state.1, { state.2 with truncatedTailBytes := UInt64.ofNat torn.length }, offset) := by
  have length := record.length_bytes
  have bounds := CaptureRecord.bodyLength_bounds storable
  rw [recoverLoop, if_neg nonempty]
  by_cases short : torn.length < recordPrefixBytes
  · rw [if_pos short]
  have four : recordPrefixBytes = 4 := rfl
  have same : torn.take 4 = record.bytes.take 4 := by
    rw [prefix_iff_eq_take.mp starts, take_take, Nat.min_eq_left (by omega)]
  have prefixed : (readU32 torn 0).toNat = record.bodyLength :=
    CaptureRecord.readU32_bytes storable same
  rw [if_neg short]
  simp only [prefixed]
  rw [if_neg (not_not.mpr bounds), if_neg (by omega), if_pos (by omega)]

omit storable

end Loop
end SensorSystem.Host
