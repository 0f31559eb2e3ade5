import SensorSystem.Host.Capture.CaptureWindow

/-! `capture_wal.rs`: one file per stream, a header and then records behind length prefixes, each
with its checksum. A file is the list of its bytes. I/O errors are left out: a failed write
poisons the writer for good, and what it leaves in the file is a prefix of the write, as after a
crash. -/

namespace SensorSystem.Host

open Base
open Framing (crc32c)

def fileMagic : List UInt8 := [0x53, 0x53, 0x43, 0x41, 0x50, 0x57, 0x41, 0x4c]
def fileVersion : UInt16 := 1
def fileHeaderBytes : Nat := 64
def fileHeaderCrcOffset : Nat := fileHeaderBytes - 4
def recordVersion : UInt8 := 1
def recordPrefixBytes : Nat := 4
def recordHeaderBytes : Nat := 4
def recordCrcBytes : Nat := 4
def minRecordBodyBytes : Nat := recordHeaderBytes + recordCrcBytes
def maxRecordBodyBytes : Nat := 1024 * 1024
def chunkFixedPayloadBytes : Nat := 56
def gapPayloadBytes : Nat := 17
def breakPayloadBytes : Nat := 9

inductive RecordKind where
  | sampleChunk
  | gap
  | continuityBreak
  | windowSeal

def RecordKind.toByte : RecordKind → UInt8
  | sampleChunk => 1
  | gap => 2
  | continuityBreak => 3
  | windowSeal => 4

structure CaptureWalConfig where
  hardwareId : HardwareId
  bootEpoch : BootEpoch
  recoveredCursor : SequenceCursor
  firstWindowOrdinal : UInt64
  windowPolicy : CaptureWindowPolicy

structure CaptureWalHeader where
  hardwareId : HardwareId
  bootEpoch : BootEpoch
  firstCursor : SequenceCursor
  firstWindowOrdinal : UInt64
  windowPolicy : CaptureWindowPolicy

inductive CaptureRecord where
  | sampleChunk (chunk : SampleChunk)
  | gap (gap : Gap)
  | continuityBreak (observed : ContinuityBreak)
  | windowSeal
deriving DecidableEq

structure CaptureWalRecovery where
  durableCursor : SequenceCursor
  recordCount : UInt64 := 0
  sampleCount : UInt64 := 0
  missingSampleCount : UInt64 := 0
  continuityBreakCount : UInt64 := 0
  sealedWindowCount : UInt64 := 0
  lastSealedWindow : Option CaptureWindowManifest := none
  truncatedTailBytes : UInt64 := 0
deriving DecidableEq

inductive CaptureWalError where
  | window (error : CaptureWindowError)
  | chunkContract (error : MeasurementWireError)
  | zeroBootEpoch
  | truncatedFileHeader
  | invalidFileMagic
  | unsupportedFileVersion (version : UInt16)
  | invalidFileHeaderLength
  | fileHeaderChecksumMismatch
  | hardwareMismatch
  | bootEpochMismatch
  | startingCursorMismatch
  | windowOrdinalMismatch
  | windowPolicyMismatch
  | invalidRecordLength (offset length : Nat)
  | recordChecksumMismatch (offset : Nat)
  | incompleteRecord (offset : Nat)
  | unknownRecordKind (value : UInt8)
  | unsupportedRecordVersion (value : UInt8)
  | nonZeroReservedField
  | invalidRecordPayload
  | lengthOverflow
  | counterOverflow
  | emptyBatch
  | staleBatch
  | batchCrossesWindowBoundary
deriving DecidableEq

variable (value : UInt8)

def RecordKind.tryFrom : Except CaptureWalError RecordKind :=
  match value.toNat with
  | 1 => .ok .sampleChunk
  | 2 => .ok .gap
  | 3 => .ok .continuityBreak
  | 4 => .ok .windowSeal
  | _ => .error (.unknownRecordKind value)

/-- `checked_add` on counters. -/
def addCounter (left right : UInt64) : Except CaptureWalError UInt64 :=
  match checkedAdd left right with
  | some sum => .ok sum
  | none => .error .counterOverflow

def windowCheck {α : Type} (result : Except CaptureWindowError α) : Except CaptureWalError α :=
  result.mapError .window

variable (config : CaptureWalConfig)

/-- The header up to its checksum, its fields one behind the other. -/
def fileHeaderContent : List UInt8 :=
  fileMagic ++ (u16Bytes fileVersion ++ (u16Bytes (UInt16.ofNat fileHeaderBytes) ++
    (config.hardwareId.toList ++ (u64Bytes config.bootEpoch ++ (u64Bytes config.recoveredCursor ++
      (u64Bytes config.firstWindowOrdinal ++ (u64Bytes config.windowPolicy.targetDurationUs ++
        List.replicate 8 0)))))))

def fileHeader : List UInt8 :=
  fileHeaderContent config ++ u32Bytes (crc32c (fileHeaderContent config))

def decodeFileHeader (header : List UInt8) : Except CaptureWalError CaptureWalHeader :=
  if slice header 0 8 ≠ fileMagic then .error .invalidFileMagic
  else if readU16 header 8 ≠ fileVersion then .error (.unsupportedFileVersion (readU16 header 8))
  else if (readU16 header 10).toNat ≠ fileHeaderBytes then .error .invalidFileHeaderLength
  else if crc32c (header.take fileHeaderCrcOffset) ≠ readU32 header fileHeaderCrcOffset then
    .error .fileHeaderChecksumMismatch
  else if (slice header 52 8).any (· != 0) then .error .nonZeroReservedField
  else if readU64 header 20 = 0 then .error .zeroBootEpoch
  else do
    let windowPolicy ← windowCheck (CaptureWindowPolicy.new (readU64 header 44))
    .ok {
      hardwareId := Vector.ofFn fun index => header.getD (12 + index) 0
      bootEpoch := readU64 header 20
      firstCursor := readU64 header 28
      firstWindowOrdinal := readU64 header 36
      windowPolicy }

def validateFileHeader (header : List UInt8) (config : CaptureWalConfig) :
    Except CaptureWalError Unit := do
  let decoded ← decodeFileHeader header
  if decoded.hardwareId ≠ config.hardwareId then .error .hardwareMismatch
  else if decoded.bootEpoch ≠ config.bootEpoch then .error .bootEpochMismatch
  else if decoded.firstCursor ≠ config.recoveredCursor then .error .startingCursorMismatch
  else if decoded.firstWindowOrdinal ≠ config.firstWindowOrdinal then
    .error .windowOrdinalMismatch
  else if decoded.windowPolicy ≠ config.windowPolicy then .error .windowPolicyMismatch
  else .ok ()

def walGapReasonByte : GapReason → UInt8
  | .unknownDiscontinuity => 0
  | .sourceLoss => 1
  | .ingressOverflow => 2
  | .journalOverflow => 3

def walGapReasonOf : Except CaptureWalError GapReason :=
  match value.toNat with
  | 0 => .ok .unknownDiscontinuity
  | 1 => .ok .sourceLoss
  | 2 => .ok .ingressOverflow
  | 3 => .ok .journalOverflow
  | _ => .error .invalidRecordPayload

def walBreakReasonByte : ContinuityBreakReason → UInt8
  | .unknown => 0
  | .sensorOverflow => 1
  | .sensorReadUncertain => 2
  | .invalidTiming => 3
  | .processingReset => 4

def walBreakReasonOf : Except CaptureWalError ContinuityBreakReason :=
  match value.toNat with
  | 0 => .ok .unknown
  | 1 => .ok .sensorOverflow
  | 2 => .ok .sensorReadUncertain
  | 3 => .ok .invalidTiming
  | 4 => .ok .processingReset
  | _ => .error .invalidRecordPayload

/-- Kind, version, two reserved bytes and the payload: what the checksum covers. -/
def recordData (kind : RecordKind) (payload : List UInt8) : List UInt8 :=
  kind.toByte :: recordVersion :: 0 :: 0 :: payload

def wrapRecord (kind : RecordKind) (payload : List UInt8) : List UInt8 :=
  let bodyLength := recordHeaderBytes + payload.length + recordCrcBytes
  u32Bytes (UInt32.ofNat bodyLength) ++ (recordData kind payload ++
    u32Bytes (crc32c (recordData kind payload)))

def chunkPayload (chunk : SampleChunk) : List UInt8 :=
  u64Bytes chunk.header.retainedFrom ++ (u64Bytes chunk.header.produced ++
    (u64Bytes chunk.header.first ++ (u16Bytes chunk.header.sampleCount ++
      (u32Bytes chunk.configRevision ++ (u32Bytes chunk.timing.segmentId ++
        (u64Bytes chunk.timing.firstDeviceTimeUs ++ (u64Bytes chunk.timing.lastDeviceTimeUs ++
          (u32Bytes chunk.timing.maxFitResidualUs ++ (u16Bytes chunk.timing.qualityFlags ++
            chunk.samples.flatMap fun sample =>
              encodeI24 sample.x ++ (encodeI24 sample.y ++ encodeI24 sample.z))))))))))

def encodeChunkRecord (chunk : SampleChunk) : Except CaptureWalError (List UInt8) := do
  chunk.validate.mapError .chunkContract
  .ok (wrapRecord .sampleChunk (chunkPayload chunk))

def gapPayload (gap : Gap) : List UInt8 :=
  u64Bytes gap.firstMissing ++ (u64Bytes gap.missingCount ++ [walGapReasonByte gap.reason])

def encodeGapRecord (gap : Gap) : List UInt8 :=
  wrapRecord .gap (gapPayload gap)

variable (observed : ContinuityBreak)

def breakPayload : List UInt8 :=
  u64Bytes observed.at_ ++ [walBreakReasonByte observed.reason]

def encodeBreakRecord : List UInt8 :=
  wrapRecord .continuityBreak (breakPayload observed)

/-- `decode_i24` of this file: the same bytes with its own error. -/
def walDecodeI24 (bytes : List UInt8) : Except CaptureWalError SampleAxis :=
  (decodeI24 bytes).mapError fun _ => .invalidRecordPayload

def walDecodeSamples (payload : List UInt8) : Nat → Nat → Except CaptureWalError (List SampleAxes)
  | 0, _ => .ok []
  | remaining + 1, index => do
    let offset := chunkFixedPayloadBytes + index * 9
    let x ← walDecodeI24 (slice payload offset 3)
    let y ← walDecodeI24 (slice payload (offset + 3) 3)
    let z ← walDecodeI24 (slice payload (offset + 6) 3)
    let rest ← walDecodeSamples payload remaining (index + 1)
    .ok (⟨x, y, z⟩ :: rest)

variable (payload : List UInt8)

def walDecodeChunk (bootEpoch : BootEpoch) : Except CaptureWalError SampleChunk :=
  if payload.length < chunkFixedPayloadBytes then .error .invalidRecordPayload
  else
    let count := readU16 payload 24
    if payload.length ≠ chunkFixedPayloadBytes + count.toNat * 9 then
      .error .invalidRecordPayload
    else do
      let samples ← walDecodeSamples payload count.toNat 0
      let chunk : SampleChunk := {
        header := {
          bootEpoch
          retainedFrom := readU64 payload 0
          produced := readU64 payload 8
          first := readU64 payload 16
          sampleCount := count }
        configRevision := readU32 payload 26
        timing := {
          segmentId := readU32 payload 30
          firstDeviceTimeUs := readU64 payload 34
          lastDeviceTimeUs := readU64 payload 42
          maxFitResidualUs := readU32 payload 50
          qualityFlags := readU16 payload 54 }
        samples }
      chunk.validate.mapError .chunkContract
      .ok chunk

def walDecodeGap (hardwareId : HardwareId) (bootEpoch : BootEpoch) : Except CaptureWalError Gap :=
  if payload.length ≠ gapPayloadBytes then .error .invalidRecordPayload
  else do
    let reason ← walGapReasonOf (payload.getD 16 0)
    (Gap.new hardwareId bootEpoch (readU64 payload 0) (readU64 payload 8) reason).mapError
      fun _ => .invalidRecordPayload

def walDecodeBreak (hardwareId : HardwareId) (bootEpoch : BootEpoch) :
    Except CaptureWalError ContinuityBreak :=
  if payload.length ≠ breakPayloadBytes then .error .invalidRecordPayload
  else do
    let reason ← walBreakReasonOf (payload.getD 8 0)
    (ContinuityBreak.new hardwareId bootEpoch (readU64 payload 0) reason).mapError
      fun _ => .invalidRecordPayload

def decodeRecord (data : List UInt8) (hardwareId : HardwareId) (bootEpoch : BootEpoch) :
    Except CaptureWalError CaptureRecord :=
  if data.length < recordHeaderBytes then .error .invalidRecordPayload
  else do
    let kind ← RecordKind.tryFrom (data.getD 0 0)
    if data.getD 1 0 ≠ recordVersion then .error (.unsupportedRecordVersion (data.getD 1 0))
    else if data.getD 2 0 ≠ 0 ∨ data.getD 3 0 ≠ 0 then .error .nonZeroReservedField
    else
      let payload := data.drop recordHeaderBytes
      match kind with
      | .sampleChunk => CaptureRecord.sampleChunk <$> walDecodeChunk payload bootEpoch
      | .gap => CaptureRecord.gap <$> walDecodeGap payload hardwareId bootEpoch
      | .continuityBreak =>
        CaptureRecord.continuityBreak <$> walDecodeBreak payload hardwareId bootEpoch
      | .windowSeal =>
        if payload ≠ [] then .error .invalidRecordPayload else .ok .windowSeal

end SensorSystem.Host
