import SensorSystem.Base.RecordFiles
import SensorSystem.Host.Time.ClockObservation
import SensorSystem.Host.Time.TimeFiles

/-! `time_wal.rs` with the records as bytes. A header is the configuration that it encodes. -/

namespace SensorSystem.Host

open Base
open Framing (crc32c)

/-- Content with its checksum. -/
def withChecksum (content : List UInt8) : List UInt8 := content ++ u32Bytes (crc32c content)

theorem length_withChecksum (content : List UInt8) :
    (withChecksum content).length = content.length + 4 := by
  rw [withChecksum, List.length_append, length_u32Bytes]

theorem checksum_withChecksum {content : List UInt8} {size : Nat} (width : content.length = size) :
    crc32c ((withChecksum content).take size) = readU32 (withChecksum content) size := by
  subst width
  rw [withChecksum, List.take_left, readU32_append_of_le (Nat.le_refl _), Nat.sub_self,
    readU32_u32Bytes_self]

/-- The errors about records and their bytes beside the others. -/
inductive TimeWalFileError where
  | wal (error : TimeWalError)
  | recordChecksumMismatch (offset : Nat)
  | incompleteRecord (offset : Nat)
  | emptyBatch

namespace TimeWal

variable (observation : ClockObservation)

def recordContent : List UInt8 :=
  u64Bytes observation.hostSendUs ++ (u64Bytes observation.nodeReceiveUs ++
    (u64Bytes observation.nodeSendUs ++ u64Bytes observation.hostReceiveUs))

def encodeRecord : List UInt8 :=
  withChecksum (recordContent observation)

def decodeRecord (bootEpoch : BootEpoch) (bytes : List UInt8) (offset : Nat) :
    Except TimeWalFileError ClockObservation :=
  if crc32c (bytes.take 32) ≠ readU32 bytes 32 then .error (.recordChecksumMismatch offset)
  else (ClockObservation.new bootEpoch (readU64 bytes 0) (readU64 bytes 8) (readU64 bytes 16)
    (readU64 bytes 24)).mapError (.wal <| .observation ·)

/-- The group is validated as a whole before anything is written. -/
def validateBatch (bootEpoch : BootEpoch) (previous : Option ClockObservation) :
    List ClockObservation → Except TimeWalError Unit
  | [] => .ok ()
  | observation :: rest => do
    validateObservation bootEpoch previous observation
    validateBatch bootEpoch (some observation) rest

/-- `TimeWalSink` and `TimeWalReader`. Every observation that is not refused is new, and `append`
is a batch of one. -/
def log (config : TimeWalConfig) :
    RecordLog TimeWalConfig ClockObservation TimeWalFileError UInt8 (List ClockObservation) where
  config
  validateConfig := config.validate.mapError .wal
  validateHeader actual := (validateHeaderIdentity config actual).mapError .wal
  headerBytes := timeWalHeaderBytes
  recordBytes := timeWalRecordBytes
  encodeRecord
  decodeRecord := decodeRecord config.bootEpoch
  validate previous observation := do
    (validateObservation config.bootEpoch previous observation).mapError .wal
    .ok true
  plan last observations :=
    if observations = [] then .error .emptyBatch
    else do
      (validateBatch config.bootEpoch last observations).mapError .wal
      .ok observations
  poisoned := .wal .poisoned
  io := .wal .io
  lengthOverflow := .wal .lengthOverflow
  duplicateRecord := .wal .nonMonotonicObservation
  incompleteRecord := .incompleteRecord

variable {config : TimeWalConfig} {previous : Option ClockObservation}

theorem validate_eq_ok {observation : ClockObservation} :
    (log config).validate previous observation = .ok true ↔
      validateObservation config.bootEpoch previous observation = .ok () := by
  refine check_eq_ok.trans ?_
  rw [mapError_eq_ok, and_iff_left rfl]

theorem decodeRecord_encodeRecord {bootEpoch : BootEpoch} {observation : ClockObservation}
    (valid : validateObservation bootEpoch previous observation = .ok ()) (offset : Nat) :
    decodeRecord bootEpoch (encodeRecord observation) offset = .ok observation := by
  have width : (recordContent observation).length = 32 := by simp [recordContent]
  have checksum : crc32c ((encodeRecord observation).take 32) =
      readU32 (encodeRecord observation) 32 := checksum_withChecksum width
  obtain ⟨hostSend, nodeReceive, nodeSend, hostReceive⟩ :
      readU64 (encodeRecord observation) 0 = observation.hostSendUs ∧
        readU64 (encodeRecord observation) 8 = observation.nodeReceiveUs ∧
        readU64 (encodeRecord observation) 16 = observation.nodeSendUs ∧
        readU64 (encodeRecord observation) 24 = observation.hostReceiveUs := by
    refine ⟨?_, ?_, ?_, ?_⟩
    all_goals simp [encodeRecord, withChecksum, recordContent]
  unfold validateObservation at valid
  obtain ⟨booted, valid⟩ := guard_eq_ok.mp valid
  obtain rfl := not_not.mp booted
  rw [decodeRecord, if_neg (not_not.mpr checksum), hostSend, nodeReceive, nodeSend, hostReceive,
    mapError_eq_ok]
  cases known : ClockObservation.new observation.bootEpoch observation.hostSendUs
      observation.nodeReceiveUs observation.nodeSendUs observation.hostReceiveUs with
  | error error => simp [known] at valid
  | ok accepted => rw [(ClockObservation.new_eq_ok.mp known).1]

theorem chain_of_validateBatch {observations : List ClockObservation}
    (valid : validateBatch config.bootEpoch previous observations = .ok ()) :
    (log config).Chain previous observations := by
  induction observations generalizing previous with
  | nil => trivial
  | cons observation rest ih =>
    obtain ⟨accepted, valid⟩ := check_eq_ok.mp valid
    exact ⟨validate_eq_ok.mpr accepted, ih valid⟩

theorem lawful_log (valid : config.validate = .ok ()) : (log config).Lawful where
  config := mapError_eq_ok.mpr valid
  header := mapError_eq_ok.mpr (by simp [validateHeaderIdentity, log])
  short := by
    change timeWalHeaderBytes < 2 ^ 64
    decide
  positive := by
    change 0 < timeWalRecordBytes
    decide
  width observation := by
    change (encodeRecord observation).length = timeWalRecordBytes
    rw [encodeRecord, length_withChecksum]
    simp [recordContent, timeWalRecordBytes]
  reads fresh offset := decodeRecord_encodeRecord (validate_eq_ok.mp fresh) offset
  plans planned := by
    obtain ⟨-, planned⟩ := guard_eq_ok.mp planned
    obtain ⟨valid, same⟩ := check_eq_ok.mp planned
    cases same
    exact chain_of_validateBatch (mapError_eq_ok.mp valid)
  single {last record} fresh := by
    have batch : validateBatch config.bootEpoch last [record] = .ok () :=
      check_eq_ok.mpr ⟨validate_eq_ok.mp fresh, rfl⟩
    exact ⟨[record], check_eq_ok.mpr ⟨mapError_eq_ok.mpr batch, rfl⟩⟩

end TimeWal
end SensorSystem.Host
