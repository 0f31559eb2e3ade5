import SensorSystem.Host.Telemetry.TelemetryPersistence
import SensorSystem.Host.Time.TimeWal

/-! `telemetry_wal.rs` with the records as bytes. The last snapshot once more is not written
again. -/

namespace SensorSystem.Host

open Base
open Framing (crc32c)

inductive TelemetryWalFileError where
  | wal (error : TelemetryWalError)
  | temperature (value : UInt16)
  | incompleteRecord
  | recordChecksumMismatch (offset : Nat)
  | nonZeroReservedField

namespace TelemetryWal

open TelemetryWalSink (telemetryWalHeaderBytes telemetryWalRecordBytes validateIdentity)

def recordContent (snapshot : TelemetrySnapshot) : List UInt8 :=
  u64Bytes snapshot.capturedDeviceTimeUs ++
    (u16Bytes snapshot.adxl355Temperature.value ++ [0, 0])

def encodeRecord (snapshot : TelemetrySnapshot) : List UInt8 :=
  withChecksum (recordContent snapshot)

def decodeRecord (bytes : List UInt8) (offset : Nat) :
    Except TelemetryWalFileError TelemetrySnapshot :=
  if crc32c (bytes.take 12) ≠ readU32 bytes 12 then .error (.recordChecksumMismatch offset)
  else if (slice bytes 10 2).any (· != 0) then .error .nonZeroReservedField
  else if within : 750 ≤ readU16 bytes 8 ∧ readU16 bytes 8 ≤ 2700 then
    .ok ⟨readU64 bytes 0, ⟨readU16 bytes 8, within⟩⟩
  else .error (.temperature (readU16 bytes 8))

/-- `TelemetryWalSink` and `TelemetryWalReader`. -/
def log (config : TelemetryWalConfig) :
    RecordLog TelemetryWalConfig TelemetrySnapshot TelemetryWalFileError UInt8
      TelemetrySnapshot where
  config
  validateConfig := config.validate.mapError .wal
  validateHeader actual := (validateIdentity config actual).mapError .wal
  headerBytes := telemetryWalHeaderBytes
  recordBytes := telemetryWalRecordBytes
  encodeRecord
  decodeRecord
  validate previous snapshot := do
    let outcome ← (validateSnapshot previous snapshot).mapError .wal
    .ok (outcome = .appended)
  plan last snapshot := do
    let outcome ← (validateSnapshot last snapshot).mapError .wal
    .ok (if outcome = .appended then [snapshot] else [])
  poisoned := .wal .poisoned
  io := .wal .io
  lengthOverflow := .wal .lengthOverflow
  duplicateRecord := .wal .duplicateRecord
  incompleteRecord _ := .incompleteRecord

theorem decodeRecord_encodeRecord (snapshot : TelemetrySnapshot) (offset : Nat) :
    decodeRecord (encodeRecord snapshot) offset = .ok snapshot := by
  have width : (recordContent snapshot).length = 12 := by simp [recordContent]
  have checksum : crc32c ((encodeRecord snapshot).take 12) =
      readU32 (encodeRecord snapshot) 12 := checksum_withChecksum width
  obtain ⟨captured, temperature, reserved⟩ :
      readU64 (encodeRecord snapshot) 0 = snapshot.capturedDeviceTimeUs ∧
        readU16 (encodeRecord snapshot) 8 = snapshot.adxl355Temperature.value ∧
        slice (encodeRecord snapshot) 10 2 = [0, 0] := by
    refine ⟨?_, ?_, ?_⟩
    all_goals simp [encodeRecord, withChecksum, recordContent]
    rfl
  rw [decodeRecord, if_neg (not_not.mpr checksum), reserved, if_neg (by decide)]
  simp only [temperature, captured, snapshot.adxl355Temperature.within, and_self, dite_true]

variable {config : TelemetryWalConfig} {previous : Option TelemetrySnapshot}
  {snapshot : TelemetrySnapshot}

theorem validate_eq_ok : (log config).validate previous snapshot = .ok true ↔
    validateSnapshot previous snapshot = .ok .appended := by
  refine bind_eq_ok.trans ⟨?_, fun valid => ⟨_, mapError_eq_ok.mpr valid, rfl⟩⟩
  rintro ⟨outcome, valid, appended⟩
  obtain rfl := of_decide_eq_true (Except.ok.inj appended)
  exact mapError_eq_ok.mp valid

theorem lawful_log (valid : config.validate = .ok ()) : (log config).Lawful where
  config := mapError_eq_ok.mpr valid
  header := mapError_eq_ok.mpr (by simp [validateIdentity, log])
  short := by
    change telemetryWalHeaderBytes < 2 ^ 64
    decide
  positive := by
    change 0 < telemetryWalRecordBytes
    decide
  width snapshot := by
    change (encodeRecord snapshot).length = telemetryWalRecordBytes
    rw [encodeRecord, length_withChecksum]
    simp [recordContent, telemetryWalRecordBytes]
  reads _ offset := decodeRecord_encodeRecord _ offset
  plans {last request records} planned := by
    obtain ⟨outcome, valid, same⟩ := bind_eq_ok.mp planned
    cases same
    split
    · rename_i appended
      subst appended
      exact ⟨validate_eq_ok.mpr (mapError_eq_ok.mp valid), trivial⟩
    · trivial
  single {last record} fresh :=
    ⟨record, bind_eq_ok.mpr ⟨.appended, mapError_eq_ok.mpr (validate_eq_ok.mp fresh), rfl⟩⟩

end TelemetryWal

/-- Whatever was appended, a crash behind the header leaves a log of the whole records, and a
refused append does nothing. -/
theorem wal_recovery_spec :
    (∀ config : TimeWalConfig, config.validate = .ok () → (TimeWal.log config).Recovers) ∧
      ∀ config : TelemetryWalConfig, config.validate = .ok () →
        (TelemetryWal.log config).Recovers :=
  ⟨fun _ valid => (TimeWal.lawful_log valid).recovers,
    fun _ valid => (TelemetryWal.lawful_log valid).recovers⟩

theorem new_logs_recover :
    (∃ fresh, (TelemetryWal.log ⟨.replicate 8 1, 5, 1⟩).openSink none = .ok fresh) ∧
      (TimeWal.log ⟨.replicate 8 1, 5, 1, .replicate 16 1⟩).Recovers ∧
      (TelemetryWal.log ⟨.replicate 8 1, 5, 1⟩).Recovers := by
  refine ⟨⟨_, rfl⟩, wal_recovery_spec.1 _ ?_, wal_recovery_spec.2 _ rfl⟩
  rw [TimeWalConfig.validate, if_neg (by decide), if_neg (by decide), if_neg (by simp)]

/-- Over any number of processes, crashes and failed writes, no record is lost that was
acknowledged, none is added twice and none that nobody appended. -/
theorem wal_outlives_crashes :
    (∀ config : TimeWalConfig, config.validate = .ok () → (TimeWal.log config).Outlives) ∧
      ∀ config : TelemetryWalConfig, config.validate = .ok () →
        (TelemetryWal.log config).Outlives :=
  ⟨fun _ valid => (TimeWal.lawful_log valid).outlives,
    fun _ valid => (TelemetryWal.lawful_log valid).outlives⟩

theorem new_logs_outlive :
    (TimeWal.log ⟨.replicate 8 1, 5, 1, .replicate 16 1⟩).Outlives ∧
      (TelemetryWal.log ⟨.replicate 8 1, 5, 1⟩).Outlives := by
  refine ⟨wal_outlives_crashes.1 _ ?_, wal_outlives_crashes.2 _ rfl⟩
  rw [TimeWalConfig.validate, if_neg (by decide), if_neg (by decide), if_neg (by simp)]

end SensorSystem.Host
