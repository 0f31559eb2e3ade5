import SensorSystem.Host.Capture.CaptureSegmentReader
import SensorSystem.Host.Capture.CaptureWalCrash

/-! `CaptureWalReader` goes through a log record by record. It yields what was appended and then
the end, and it takes bytes for a record only when they are the encoding of it. -/

namespace SensorSystem.Host

open List Base
open Framing (crc32c)

/-- The encoders of the four kinds of record. -/
def CaptureRecord.encode : CaptureRecord → Except CaptureWalError (List UInt8)
  | .sampleChunk chunk => encodeChunkRecord chunk
  | .gap value => .ok (encodeGapRecord value)
  | .continuityBreak observed => .ok (encodeBreakRecord observed)
  | .windowSeal => .ok (wrapRecord .windowSeal [])

/-- The configuration of the stream that a header belongs to. -/
def CaptureWalHeader.config (header : CaptureWalHeader) : CaptureWalConfig where
  hardwareId := header.hardwareId
  bootEpoch := header.bootEpoch
  recoveredCursor := header.firstCursor
  firstWindowOrdinal := header.firstWindowOrdinal
  windowPolicy := header.windowPolicy

theorem CaptureRecord.encode_eq {config : CaptureWalConfig} {record : CaptureRecord}
    (storable : record.Storable config) : record.encode = .ok record.bytes := by
  cases record with
  | sampleChunk chunk =>
    rw [encode, encodeChunkRecord, storable.1]
    rfl
  | gap value => rfl
  | continuityBreak observed => rfl
  | windowSeal => rfl

variable {value : UInt8} {bootEpoch : BootEpoch} {payload : List UInt8}

theorem RecordKind.toByte_of_tryFrom {kind : RecordKind}
    (found : RecordKind.tryFrom value = .ok kind) : kind.toByte = value := by
  unfold RecordKind.tryFrom at found
  split at found
  all_goals cases found
  all_goals
    rename_i same
    exact (UInt8.toNat_inj.mp same).symm

theorem walGapReasonByte_of {reason : GapReason} (found : walGapReasonOf value = .ok reason) :
    walGapReasonByte reason = value := by
  unfold walGapReasonOf at found
  split at found
  all_goals cases found
  all_goals
    rename_i same
    exact (UInt8.toNat_inj.mp same).symm

theorem walBreakReasonByte_of {reason : ContinuityBreakReason}
    (found : walBreakReasonOf value = .ok reason) : walBreakReasonByte reason = value := by
  unfold walBreakReasonOf at found
  split at found
  all_goals cases found
  all_goals
    rename_i same
    exact (UInt8.toNat_inj.mp same).symm

variable {hardwareId : HardwareId}

theorem payload_of_walDecodeGap {gap : Gap}
    (decoded : walDecodeGap payload hardwareId bootEpoch = .ok gap) :
    gap.hardwareId = hardwareId ∧ gap.bootEpoch = bootEpoch ∧ gapPayload gap = payload := by
  obtain ⟨length, decoded⟩ := guard_eq_ok.mp decoded
  obtain ⟨reason, spelled, decoded⟩ := bind_eq_ok.mp decoded
  have width : payload.length = 17 := not_not.mp length
  have whole : fields payload 0 [8, 8, 1] = payload := fields_eq_self width
  simp only [fields, Nat.reduceAdd, append_nil] at whole
  rw [mapError_eq_ok, Gap.new] at decoded
  split at decoded
  · cases decoded
  split at decoded
  · cases decoded
    refine ⟨rfl, rfl, ?_⟩
    rw [gapPayload, walGapReasonByte_of spelled, ← slice_one (by omega),
      u64Bytes_readU64 (by omega), u64Bytes_readU64 (by omega), whole]
  · cases decoded

theorem payload_of_walDecodeBreak {observed : ContinuityBreak}
    (decoded : walDecodeBreak payload hardwareId bootEpoch = .ok observed) :
    observed.hardwareId = hardwareId ∧ observed.bootEpoch = bootEpoch ∧
      breakPayload observed = payload := by
  obtain ⟨length, decoded⟩ := guard_eq_ok.mp decoded
  obtain ⟨reason, spelled, decoded⟩ := bind_eq_ok.mp decoded
  have width : payload.length = 9 := not_not.mp length
  have whole : fields payload 0 [8, 1] = payload := fields_eq_self width
  simp only [fields, Nat.reduceAdd, append_nil] at whole
  rw [mapError_eq_ok, ContinuityBreak.new] at decoded
  split at decoded
  · cases decoded
    refine ⟨rfl, rfl, ?_⟩
    rw [breakPayload, walBreakReasonByte_of spelled, ← slice_one (by omega),
      u64Bytes_readU64 (by omega), whole]
  · cases decoded

/-- The samples lie behind the fixed fields. -/
theorem layout_of_walDecodeSamples {count : Nat} {samples : List SampleAxes}
    (inside : chunkFixedPayloadBytes + count * 9 ≤ payload.length)
    (decoded : walDecodeSamples payload count 0 = .ok samples) :
    samples.flatMap axesLayout = slice payload chunkFixedPayloadBytes (count * 9) := by
  rw [walDecodeSamples_eq, mapError_eq_ok] at decoded
  rw [chunkFixedPayloadBytes] at inside ⊢
  have long : chunkFixedBytes + (0 + count) * 9 ≤ (replicate 10 0 ++ payload).length := by
    rw [length_append, length_replicate, chunkFixedBytes]
    omega
  obtain ⟨-, packed⟩ := layout_of_decodeSamples long decoded
  rw [packed, slice_append_of_le (by simp [chunkFixedBytes])]
  simp [chunkFixedBytes]

theorem payload_of_walDecodeChunk {chunk : SampleChunk}
    (decoded : walDecodeChunk payload bootEpoch = .ok chunk) :
    chunk.validate = .ok () ∧ chunk.header.bootEpoch = bootEpoch ∧
      chunkPayload chunk = payload := by
  obtain ⟨-, decoded⟩ := guard_eq_ok.mp decoded
  obtain ⟨length, decoded⟩ := guard_eq_ok.mp decoded
  obtain ⟨samples, read, decoded⟩ := bind_eq_ok.mp decoded
  obtain ⟨valid, decoded⟩ := check_eq_ok.mp decoded
  rw [mapError_eq_ok] at valid
  cases decoded
  refine ⟨valid, rfl, ?_⟩
  have width := not_not.mp length
  have packed := layout_of_walDecodeSamples (Nat.le_of_eq width.symm) read
  rw [chunkFixedPayloadBytes] at width packed
  have whole : fields payload 0 [8, 8, 8, 2, 4, 4, 8, 8, 4, 2,
      (readU16 payload 24).toNat * 9] = payload := by
    apply fields_eq_self
    rw [width]
    simp only [sum_cons, sum_nil]
    omega
  simp only [fields, Nat.reduceAdd, append_nil] at whole
  rw [chunkPayload_eq, packed, u64Bytes_readU64 (by omega), u64Bytes_readU64 (by omega),
    u64Bytes_readU64 (by omega), u16Bytes_readU16 (by omega), u32Bytes_readU32 (by omega),
    u32Bytes_readU32 (by omega), u64Bytes_readU64 (by omega), u64Bytes_readU64 (by omega),
    u32Bytes_readU32 (by omega), u16Bytes_readU16 (by omega)]
  simpa only [append_assoc] using whole

variable {header : CaptureWalHeader} {record : CaptureRecord}

theorem data_of_decodeRecord {data : List UInt8}
    (decoded : decodeRecord data header.hardwareId header.bootEpoch = .ok record) :
    record.Storable header.config ∧ recordData record.kind record.payload = data := by
  obtain ⟨long, decoded⟩ := guard_eq_ok.mp decoded
  obtain ⟨kind, named, decoded⟩ := bind_eq_ok.mp decoded
  obtain ⟨version, decoded⟩ := guard_eq_ok.mp decoded
  obtain ⟨reserved, decoded⟩ := guard_eq_ok.mp decoded
  rcases data with _ | ⟨first, _ | ⟨second, _ | ⟨third, _ | ⟨fourth, payload⟩⟩⟩⟩
  case nil | cons.nil | cons.cons.nil | cons.cons.cons.nil =>
    exact absurd (by simp [recordHeaderBytes]) long
  have zeros := not_or.mp reserved
  obtain rfl : kind.toByte = first := RecordKind.toByte_of_tryFrom named
  obtain rfl : second = recordVersion := not_not.mp version
  obtain rfl : third = 0 := not_not.mp zeros.1
  obtain rfl : fourth = 0 := not_not.mp zeros.2
  cases kind with
  | sampleChunk =>
    obtain ⟨chunk, found, rfl⟩ := map_eq_ok.mp decoded
    obtain ⟨valid, epoch, same⟩ := payload_of_walDecodeChunk found
    exact ⟨⟨valid, epoch⟩, congrArg (recordData .sampleChunk) same⟩
  | gap =>
    obtain ⟨value, found, rfl⟩ := map_eq_ok.mp decoded
    obtain ⟨hardware, epoch, same⟩ := payload_of_walDecodeGap found
    exact ⟨⟨hardware, epoch⟩, congrArg (recordData .gap) same⟩
  | continuityBreak =>
    obtain ⟨observed, found, rfl⟩ := map_eq_ok.mp decoded
    obtain ⟨hardware, epoch, same⟩ := payload_of_walDecodeBreak found
    exact ⟨⟨hardware, epoch⟩, congrArg (recordData .continuityBreak) same⟩
  | windowSeal =>
    obtain ⟨empty, sealed⟩ := guard_eq_ok.mp decoded
    cases sealed
    exact ⟨trivial, congrArg (recordData .windowSeal) (not_not.mp empty).symm⟩

theorem bytes_of_nextRecord {bytes rest : List UInt8} {offset position : Nat}
    (found : nextRecord header bytes offset = .ok (some (record, rest, position))) :
    record.Storable header.config ∧ bytes = record.bytes ++ rest ∧
      position = offset + record.bytes.length := by
  rw [nextRecord] at found
  split at found
  · cases found
  obtain ⟨-, found⟩ := guard_eq_ok.mp found
  obtain ⟨bounds, found⟩ := guard_eq_ok.mp found
  obtain ⟨-, found⟩ := guard_eq_ok.mp found
  obtain ⟨long, found⟩ := guard_eq_ok.mp found
  obtain ⟨checksum, found⟩ := guard_eq_ok.mp found
  obtain ⟨decoded, data, same⟩ := map_eq_ok.mp found
  cases same
  obtain ⟨storable, covered⟩ := data_of_decodeRecord data
  have four : recordPrefixBytes = 4 := rfl
  have crc : recordCrcBytes = 4 := rfl
  have eight : minRecordBodyBytes = 8 := rfl
  generalize field : (readU32 bytes 0).toNat = bodyLength at *
  have width : (slice bytes 4 bodyLength).length = bodyLength := length_slice (by omega)
  have length : record.bodyLength = bodyLength := by
    have whole := record.length_data
    rw [covered, length_take, four, width] at whole
    have header : record.bodyLength = 4 + record.payload.length + 4 := rfl
    omega
  have lengthBytes : u32Bytes (UInt32.ofNat bodyLength) = bytes.take 4 := by
    have spelled : u32Bytes (readU32 bytes 0) = slice bytes 0 4 := u32Bytes_readU32 (by omega)
    rwa [← field, UInt32.ofNat_toNat]
  have body : recordData record.kind record.payload ++
      u32Bytes (crc32c (recordData record.kind record.payload)) = slice bytes 4 bodyLength := by
    rw [covered, not_not.mp checksum, four, u32Bytes_readU32 (by omega),
      take_append_slice (by omega)]
  have spelled : record.bytes = bytes.take (4 + bodyLength) := by
    have prefixed : recordHeaderBytes + record.payload.length + recordCrcBytes = bodyLength :=
      length
    rw [CaptureRecord.bytes, wrapRecord, body]
    simp only [prefixed, lengthBytes]
    rw [slice, take_add]
  refine ⟨storable, ?_, ?_⟩
  · rw [spelled, four, take_append_drop]
  · rw [record.length_bytes, length, Nat.add_assoc]

/-- The file, its header, and how far the reader has come. -/
structure CaptureWalReader where
  file : List UInt8
  header : CaptureWalHeader
  offset : Nat
  inside : offset ≤ file.length

namespace CaptureWalReader

/-- `CaptureWalReader::open`. -/
def openFile (file : List UInt8) : Except CaptureWalError CaptureWalReader :=
  if short : file.length < fileHeaderBytes then .error .truncatedFileHeader
  else do
    let header ← decodeFileHeader (file.take fileHeaderBytes)
    .ok ⟨file, header, fileHeaderBytes, Nat.le_of_not_lt short⟩

variable {rest : List UInt8} {records : List CaptureRecord}

theorem position_inside {file : List UInt8} {offset position : Nat}
    (inside : offset ≤ file.length)
    (found : Host.nextRecord header (file.drop offset) offset =
      .ok (some (record, rest, position))) :
    position ≤ file.length := by
  obtain ⟨-, split, rfl⟩ := bytes_of_nextRecord found
  have length := congrArg List.length split
  rw [length_drop, length_append] at length
  omega

def nextRecord (reader : CaptureWalReader) :
    Except CaptureWalError (Option CaptureRecord × CaptureWalReader) :=
  match found : Host.nextRecord reader.header (reader.file.drop reader.offset) reader.offset with
  | .error error => .error error
  | .ok none => .ok (none, reader)
  | .ok (some (record, _, position)) =>
    .ok (some record, { reader with
      offset := position
      inside := position_inside reader.inside found })

/-- The records that a reader yields, and the reader behind them. -/
inductive Yields : CaptureWalReader → List CaptureRecord → CaptureWalReader → Prop
  | nil (reader : CaptureWalReader) : Yields reader [] reader
  | cons {reader next last : CaptureWalReader} {record : CaptureRecord}
      {records : List CaptureRecord} (first : reader.nextRecord = .ok (some record, next))
      (rest : Yields next records last) : Yields reader (record :: records) last

variable {config : CaptureWalConfig} {reader : CaptureWalReader}

/-- A reader yields the encoded record in front of it. -/
theorem nextRecord_encoded (storable : record.Storable config)
    (same : reader.header = config.header)
    (ahead : reader.file.drop reader.offset = record.bytes ++ rest)
    (bounded : reader.file.length < 2 ^ 64) :
    ∃ next : CaptureWalReader, reader.nextRecord = .ok (some record, next) ∧
      next.file = reader.file ∧ next.header = reader.header ∧
      next.offset = reader.offset + record.bytes.length := by
  have length := congrArg List.length ahead
  rw [length_drop, length_append] at length
  have inside := reader.inside
  have found : Host.nextRecord reader.header (reader.file.drop reader.offset) reader.offset =
      .ok (some (record, rest, reader.offset + record.bytes.length)) := by
    rw [ahead, same]
    exact nextRecord_record storable rest reader.offset (by omega)
  unfold nextRecord
  split
  · rename_i other
    cases found.symm.trans other
  · rename_i other
    cases found.symm.trans other
  · rename_i other
    cases found.symm.trans other
    exact ⟨_, rfl, rfl, rfl, rfl⟩

theorem nextRecord_end (done : reader.offset = reader.file.length) :
    reader.nextRecord = .ok (none, reader) := by
  have found : Host.nextRecord reader.header (reader.file.drop reader.offset) reader.offset =
      .ok none := by
    rw [done, drop_length]
    rfl
  unfold nextRecord
  split
  · rename_i other
    cases found.symm.trans other
  · rfl
  · rename_i other
    cases found.symm.trans other

/-- The records that lie ahead come one by one, and then the end. -/
theorem yields_ahead (storable : ∀ record ∈ records, record.Storable config)
    (same : reader.header = config.header)
    (ahead : reader.file.drop reader.offset = records.flatMap CaptureRecord.bytes)
    (bounded : reader.file.length < 2 ^ 64) :
    ∃ last, reader.Yields records last ∧ last.nextRecord = .ok (none, last) := by
  induction records generalizing reader with
  | nil =>
    have empty := congrArg length ahead
    rw [length_drop, flatMap_nil, length_nil] at empty
    have inside := reader.inside
    exact ⟨reader, .nil reader, nextRecord_end (by omega)⟩
  | cons record records ih =>
    obtain ⟨storableFirst, storableRest⟩ := forall_mem_cons.mp storable
    rw [flatMap_cons] at ahead
    obtain ⟨next, first, file, header, offset⟩ :=
      nextRecord_encoded storableFirst same ahead bounded
    have behind : next.file.drop next.offset = records.flatMap CaptureRecord.bytes := by
      rw [file, offset, ← drop_drop, ahead, drop_left]
    obtain ⟨last, rest, done⟩ := ih storableRest (header.trans same) behind (by rwa [file])
    exact ⟨last, .cons first rest, done⟩

theorem openFile_walBytes (openable : Openable config) (records : List CaptureRecord) :
    ∃ reader, openFile (walBytes config records) = .ok reader ∧
      reader.file = walBytes config records ∧ reader.header = config.header ∧
      reader.offset = fileHeaderBytes := by
  have width := length_fileHeader config
  have long : ¬ (walBytes config records).length < fileHeaderBytes := by
    rw [length_walBytes]
    omega
  have header : decodeFileHeader ((walBytes config records).take fileHeaderBytes) =
      .ok config.header := by
    rw [walBytes, take_left' width]
    exact decodeFileHeader_fileHeader openable.epoch openable.duration
  rw [openFile, dif_neg long, header]
  exact ⟨_, rfl, rfl, rfl, rfl⟩

theorem yields_walBytes (openable : Openable config)
    (storable : ∀ record ∈ records, record.Storable config)
    (bounded : (walBytes config records).length < 2 ^ 64) :
    ∃ reader last, openFile (walBytes config records) = .ok reader ∧
      reader.Yields records last ∧ last.nextRecord = .ok (none, last) := by
  obtain ⟨reader, opened, file, header, offset⟩ := openFile_walBytes openable records
  have ahead : reader.file.drop reader.offset = records.flatMap CaptureRecord.bytes := by
    rw [file, offset, walBytes, drop_left' (length_fileHeader config)]
  obtain ⟨last, yields, done⟩ := yields_ahead storable header ahead (by rwa [file])
  exact ⟨reader, last, opened, yields, done⟩

/-- A record that is yielded has its encoding there. -/
theorem encoded_of_nextRecord {next : CaptureWalReader}
    (found : reader.nextRecord = .ok (some record, next)) : record.Storable reader.header.config ∧
      slice reader.file reader.offset record.bytes.length = record.bytes ∧
      next.file = reader.file ∧ next.header = reader.header ∧
      next.offset = reader.offset + record.bytes.length := by
  unfold nextRecord at found
  split at found
  · cases found
  · cases found
  rename_i taken
  cases found
  obtain ⟨storable, ahead, offset⟩ := bytes_of_nextRecord taken
  refine ⟨storable, ?_, rfl, rfl, offset⟩
  rw [slice, ahead, take_left]

/-- The codec of the log. A record of the stream is encoded and read back where it lies,
the records of a file come in their order with the end behind them, whether they were put
there as bytes or by the calls of a writer, and a reader takes no other bytes for a
record than its encoding. -/
theorem captureWal_reads_back (config : CaptureWalConfig) (openable : Openable config) :
    (∀ (record : CaptureRecord) (reader : CaptureWalReader) (rest : List UInt8),
      record.Storable config → reader.header = config.header →
      reader.file.drop reader.offset = record.bytes ++ rest → reader.file.length < 2 ^ 64 →
      record.encode = .ok record.bytes ∧ ∃ next, reader.nextRecord = .ok (some record, next) ∧
        next.file.drop next.offset = rest) ∧
    (∀ records : List CaptureRecord, (∀ record ∈ records, record.Storable config) →
      (walBytes config records).length < 2 ^ 64 →
      ∃ reader last, openFile (walBytes config records) = .ok reader ∧
        reader.Yields records last ∧ last.nextRecord = .ok (none, last)) ∧
    (∀ (created : CaptureWal) (steps : List CaptureWalStep),
      CaptureWal.create config = .ok created →
      ∃ reader last, openFile (created.run config steps).2.file = .ok reader ∧
        reader.Yields (created.run config steps).2.records last ∧
        last.nextRecord = .ok (none, last)) ∧
    ∀ (record : CaptureRecord) (reader next : CaptureWalReader),
      reader.nextRecord = .ok (some record, next) →
      record.Storable reader.header.config ∧ record.encode = .ok record.bytes ∧
      slice reader.file reader.offset record.bytes.length = record.bytes ∧
      next.offset = reader.offset + record.bytes.length := by
  refine ⟨?_, fun records => yields_walBytes openable, ?_, ?_⟩
  · intro record reader rest storable same ahead bounded
    obtain ⟨next, found, file, -, offset⟩ := nextRecord_encoded storable same ahead bounded
    refine ⟨CaptureRecord.encode_eq storable, next, found, ?_⟩
    rw [file, offset, ← List.drop_drop, ahead, List.drop_left]
  · intro created steps done
    have sound := (CaptureWal.create_eq_ok done).2.run openable steps
    have bounded := sound.bounded
    rw [sound.file] at bounded ⊢
    exact yields_walBytes openable sound.storable bounded
  · intro record reader next found
    obtain ⟨storable, encoded, -, -, offset⟩ := encoded_of_nextRecord found
    exact ⟨storable, CaptureRecord.encode_eq storable, encoded, offset⟩

/-- A break and a seal are appended and read back. -/
theorem captureWal_reads_back_firstCapture :
    let observed : ContinuityBreak := ⟨CaptureWal.firstCapture.hardwareId,
      CaptureWal.firstCapture.bootEpoch, 0, .processingReset, by decide⟩
    let records := [.continuityBreak observed, .windowSeal]
    ∃ reader last, openFile (walBytes CaptureWal.firstCapture records) = .ok reader ∧
      reader.Yields records last ∧ last.nextRecord = .ok (none, last) := by
  intro observed records
  have openable : Openable CaptureWal.firstCapture := openable_of_nonzero (by decide) (by decide)
  refine (captureWal_reads_back CaptureWal.firstCapture openable).2.1 records ?_ ?_
  · exact List.forall_mem_cons.mpr ⟨⟨rfl, rfl⟩, List.forall_mem_singleton.mpr trivial⟩
  · rw [length_walBytes, List.flatMap_cons, List.flatMap_singleton, List.length_append,
      CaptureRecord.length_bytes, CaptureRecord.length_bytes]
    decide

end CaptureWalReader
end SensorSystem.Host
