import SensorSystem.Host.Capture.CaptureWalReplay

/-! A run commits batches, seals windows, and crashes: some bytes behind the header are lost and
the file is opened again. What is recovered is the replay of the records that survive whole. -/

namespace SensorSystem.Host

open CaptureWalSink List UInt64
open CaptureRecord
open Base

def walBytes (config : CaptureWalConfig) (records : List CaptureRecord) : List UInt8 :=
  fileHeader config ++ records.flatMap bytes

theorem length_walBytes (config : CaptureWalConfig) (records : List CaptureRecord) :
    (walBytes config records).length =
      fileHeaderBytes + (records.flatMap bytes).length := by
  rw [walBytes, length_append, length_fileHeader]

theorem walBytes_append (config : CaptureWalConfig) (first second : List CaptureRecord) :
    walBytes config (first ++ second) =
      walBytes config first ++ second.flatMap bytes := by
  rw [walBytes, flatMap_append, ← append_assoc, walBytes]

variable {config : CaptureWalConfig} {records : List CaptureRecord}
  {state : CaptureWindowLedger × CaptureWalRecovery}

/-- The loop replays complete records. -/
theorem recoverLoop_records (storable : ∀ record ∈ records, record.Storable config)
    (rest : List UInt8) (offset : Nat) {after : CaptureWindowLedger × CaptureWalRecovery}
    (bounded : offset + (records.flatMap bytes).length < 2 ^ 64)
    (done : replay config.hardwareId state records = .ok after) :
    recoverLoop config (records.flatMap bytes ++ rest) offset state =
      recoverLoop config rest (offset + (records.flatMap bytes).length) after := by
  induction records generalizing offset state with
  | nil =>
    cases done
    rfl
  | cons record records ih =>
    obtain ⟨middle, first, done⟩ := bind_eq_ok.mp done
    rw [flatMap_cons, length_append] at bounded ⊢
    rw [append_assoc, recoverLoop_record (storable record mem_cons_self) _ _ _ (by omega),
      first]
    simp only
    rw [ih (fun next member => storable next (mem_cons_of_mem _ member)) _ (by omega) done,
      Nat.add_assoc]

/-- What is left of a record that was to be written at an offset. -/
def TornAt (config : CaptureWalConfig) (offset : Nat) (torn : List UInt8) : Prop :=
  torn = [] ∨ ∃ record : CaptureRecord, record.Storable config ∧ torn <+: record.bytes ∧
    torn.length < record.bytes.length ∧ offset + record.bytes.length < 2 ^ 64

variable {torn : List UInt8}

/-- The loop reports what is left of a torn record. -/
theorem recoverLoop_tail {offset : Nat} (untouched : state.2.truncatedTailBytes = 0)
    (proper : TornAt config offset torn) : recoverLoop config torn offset state =
      .ok (state.1, state.2.withTail (ofNat torn.length), offset) := by
  by_cases empty : torn = []
  · subst empty
    have same : state.2.withTail (ofNat ([] : List UInt8).length) = state.2 := by
      rw [← state.2.withTail_self, untouched]
      rfl
    rw [same, recoverLoop]
    rfl
  obtain ⟨record, storable, starts, incomplete, bounded⟩ := proper.resolve_left empty
  exact recoverLoop_torn storable starts incomplete (by simpa using empty) offset state bounded

/-- The records that lie whole in the first `room` bytes behind the header. -/
def survivingRecords (room : Nat) (records : List CaptureRecord) : List CaptureRecord :=
  wholeRecords bytes room records

/-- A cut file: whole records and a part of the next. -/
theorem take_walBytes (storable : ∀ record ∈ records, record.Storable config)
    (bounded : (walBytes config records).length < 2 ^ 64) (room : Nat) :
    ∃ torn, (walBytes config records).take (fileHeaderBytes + room) =
        walBytes config (survivingRecords room records) ++ torn ∧
      TornAt config (walBytes config (survivingRecords room records)).length torn := by
  obtain ⟨torn, split, proper⟩ := take_flatMap_eq bytes room records
  refine ⟨torn, ?_, proper.imp id ?_⟩
  · rw [walBytes, take_append, length_fileHeader, Nat.add_sub_cancel_left, split,
      take_of_length_le (by rw [length_fileHeader]; omega), ← append_assoc]
    rfl
  rintro ⟨record, lost, parts, starts, incomplete⟩
  refine ⟨record, storable record ?_, starts, incomplete, ?_⟩
  · rw [parts]
    exact mem_append_right _ mem_cons_self
  rw [parts, walBytes_append, length_append, flatMap_cons,
    length_append] at bounded
  change (walBytes config (wholeRecords bytes room records)).length + _ < _
  omega

/-- The header of the file belongs to the stream that opens it. -/
structure Openable (config : CaptureWalConfig) : Prop where
  epoch : config.bootEpoch ≠ 0
  header : validateFileHeader (fileHeader config) config = .ok ()

/-- A new file is opened like one that holds the header. -/
theorem openFile_nil (config : CaptureWalConfig) :
    openFile [] config = openFile (fileHeader config) config := by
  have nonempty : (fileHeader config).length ≠ 0 := by
    rw [length_fileHeader, fileHeaderBytes]
    decide
  simp only [openFile, length_nil, if_neg nonempty, if_true]

theorem openable_of_openFile {result : CaptureWalSink × List UInt8}
    (opened : openFile (fileHeader config) config = .ok result) :
    Openable config := by
  have header := length_fileHeader config
  obtain ⟨epoch, opened⟩ := guard_eq_ok.mp opened
  obtain ⟨recovered, found, -⟩ := bind_eq_ok.mp opened
  rw [if_neg (by rw [header, fileHeaderBytes]; decide)] at found
  obtain ⟨-, found⟩ := guard_eq_ok.mp found
  obtain ⟨valid, -⟩ := check_eq_ok.mp found
  rw [take_of_length_le (Nat.le_of_eq header)] at valid
  exact ⟨epoch, valid⟩

/-- A stream with an epoch and a window duration can have a log. -/
theorem openable_of_nonzero (epoch : config.bootEpoch ≠ 0)
    (duration : config.windowPolicy.targetDurationUs ≠ 0) : Openable config := by
  refine ⟨epoch, ?_⟩
  rw [validateFileHeader, decodeFileHeader_fileHeader epoch duration, ok_bind]
  simp only [ne_eq, not_true_eq_false, if_false]

/-- The windows of a stream that can have a log have a duration. -/
theorem Openable.duration (openable : Openable config) :
    config.windowPolicy.targetDurationUs ≠ 0 := by
  have header := openable.header
  rw [validateFileHeader, decodeFileHeader_fileHeader_eq openable.epoch] at header
  obtain ⟨decoded, checked, -⟩ := bind_eq_ok.mp header
  obtain ⟨policy, built, -⟩ := bind_eq_ok.mp checked
  exact (guard_eq_ok.mp (mapError_eq_ok.mp built)).1

/-- What opening a file of these records returns. -/
def recoveredSink (config : CaptureWalConfig) (records : List CaptureRecord) (tail : Nat)
    (state : CaptureWindowLedger × CaptureWalRecovery) : CaptureWalSink where
  hardwareId := config.hardwareId
  bootEpoch := config.bootEpoch
  ledger := state.1
  recovery := state.2.withTail (ofNat tail)
  durableLen := (walBytes config records).length

/-- Opening replays the complete records and cuts off the rest. -/
theorem openFile_torn (openable : Openable config)
    (storable : ∀ record ∈ records, record.Storable config)
    (bounded : (walBytes config records).length < 2 ^ 64)
    (proper : TornAt config (walBytes config records).length torn)
    (done : replay config.hardwareId config.initial records = .ok state) :
    openFile (walBytes config records ++ torn) config =
      .ok (recoveredSink config records torn.length state, walBytes config records) := by
  have header := length_fileHeader config
  have length := length_walBytes config records
  have parts : walBytes config records ++ torn =
      fileHeader config ++ (records.flatMap bytes ++ torn) := by
    rw [walBytes, append_assoc]
  have long : fileHeaderBytes ≤ (walBytes config records ++ torn).length := by
    rw [length_append]
    omega
  have nonempty : (walBytes config records ++ torn).length ≠ 0 := by
    rw [fileHeaderBytes] at long
    omega
  have untouched := ((Replayed.initial config).run done).tail
  have recovered : recover (walBytes config records ++ torn) config =
      .ok (state.1, state.2.withTail (ofNat torn.length),
        (walBytes config records).length) := by
    rw [recover, if_neg (by omega), parts, take_left' header, drop_left' header,
      openable.header, ok_bind, recoverLoop_records storable _ _ (by omega) done, ← length]
    exact recoverLoop_tail untouched proper
  rw [openFile, if_neg openable.epoch]
  simp only [if_neg nonempty, recovered, ok_bind, take_left]
  rfl

end SensorSystem.Host
