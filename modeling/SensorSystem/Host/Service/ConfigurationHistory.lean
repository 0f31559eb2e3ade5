import SensorSystem.Host.Protocol.ConfigurationWire

/-! `configuration_history.rs`: one file for each sensor, in which the configurations that were
applied follow each other as records of one size. What the file system answers is given with the
call. -/

namespace SensorSystem.Host.Configuration

open List Base
open Framing (crc32c)

def historyMagic : List UInt8 := [0x43, 0x46, 0x47, 0x31]
def historySchema : UInt8 := 1
def recordBytes : Nat := 56
def crcOffset : Nat := 52

structure ConfigurationSnapshot where
  hardwareId : HardwareId
  bootEpoch : BootEpoch
  observed : ObservedConfiguration
  effectiveSampleSeq : UInt64

inductive ConfigurationHistoryError where
  | io
  | invalidSnapshot
  | invalidRecord
  | checksumMismatch
  | conflictingRevision (bootEpoch : BootEpoch) (revision : UInt32)
deriving DecidableEq

inductive ConfigurationAppend where
  | appended
  | existing
deriving DecidableEq

def recordBody (snapshot : ConfigurationSnapshot) (configuration : List UInt8) : List UInt8 :=
  historyMagic ++ ([historySchema, 0, 0, 0] ++ (snapshot.hardwareId.toList ++
    (u64Bytes snapshot.bootEpoch ++ (u32Bytes snapshot.observed.revision ++
      (u64Bytes snapshot.effectiveSampleSeq ++ (configuration ++
        [snapshot.observed.sensorOdr.toByte, snapshot.observed.decimationFactor, 0, 0]))))))

def encodeRecord (snapshot : ConfigurationSnapshot) :
    Except ConfigurationHistoryError (List UInt8) := do
  let configuration ← (encodeConfiguration snapshot.observed.desired).mapError
    fun _ => .invalidSnapshot
  let body := recordBody snapshot configuration
  .ok (body ++ u32Bytes (crc32c body))

def decodeRecord (bytes : List UInt8) : Except ConfigurationHistoryError ConfigurationSnapshot :=
  if slice bytes 0 4 ≠ historyMagic ∨ bytes.getD 4 0 ≠ historySchema ∨
      slice bytes 5 3 ≠ [0, 0, 0] then
    .error .invalidRecord
  else if crc32c (bytes.take crcOffset) ≠ readU32 bytes crcOffset then .error .checksumMismatch
  else if slice bytes 50 2 ≠ [0, 0] then .error .invalidRecord
  else do
    let desired ← (decodeConfiguration (slice bytes 36 12)).mapError fun _ => .invalidRecord
    let sensorOdr ← knownCode (OutputRateCode.fromWire (bytes.getD 48 0)) .invalidRecord
    let snapshot : ConfigurationSnapshot := {
      hardwareId := readHardwareId bytes 8
      bootEpoch := readU64 bytes 16
      observed := ⟨readU32 bytes 24, desired, sensorOdr, bytes.getD 49 0⟩
      effectiveSampleSeq := readU64 bytes 28 }
    if snapshot.bootEpoch = 0 ∨ snapshot.observed.validate.toOption.isNone then
      .error .invalidRecord
    else .ok snapshot

/-- The records of a file, without a tail that is not complete. -/
def records (file : List UInt8) : List (List UInt8) :=
  (range (file.length / recordBytes)).map fun position =>
    slice file (position * recordBytes) recordBytes

/-- What the file system answers while a snapshot is appended. -/
structure HistoryIo where
  /-- The directory and the file are there and open. -/
  opens : Bool
  setsLength : Bool
  syncsLength : Bool
  /-- How many records are read before a read fails. -/
  readable : Option Nat
  /-- How many bytes of the record reach the file before its write fails. -/
  written : Option Nat
  syncs : Bool

/-- The torn end of a file is cut off. -/
def recoverTail (file : List UInt8) (io : HistoryIo) :
    Except ConfigurationHistoryError Unit × List UInt8 :=
  if file.length % recordBytes = 0 then (.ok (), file)
  else if ¬ io.setsLength then (.error .io, file)
  else
    let complete := file.take (file.length - file.length % recordBytes)
    if io.syncsLength then (.ok (), complete) else (.error .io, complete)

/-- The loop over the records: is the revision there already? -/
def findRevision (snapshot : ConfigurationSnapshot) :
    Option Nat → List (List UInt8) → Except ConfigurationHistoryError (Option ConfigurationAppend)
  | some 0, _ => .error .io
  | _, [] => .ok none
  | readable, record :: rest => do
    let existing ← decodeRecord record
    if existing.bootEpoch = snapshot.bootEpoch ∧
        existing.observed.revision = snapshot.observed.revision then
      if existing.hardwareId = snapshot.hardwareId ∧ existing.observed = snapshot.observed then
        .ok (some .existing)
      else .error (.conflictingRevision snapshot.bootEpoch snapshot.observed.revision)
    else findRevision snapshot (readable.map (· - 1)) rest

/-- The record goes to the end of the file. -/
def writeRecord (file : List UInt8) (io : HistoryIo) (snapshot : ConfigurationSnapshot) :
    Except ConfigurationHistoryError ConfigurationAppend × List UInt8 :=
  match encodeRecord snapshot with
  | .error error => (.error error, file)
  | .ok encoded =>
    match io.written with
    | some count => (.error .io, file ++ encoded.take count)
    | none =>
      if io.syncs then (.ok .appended, file ++ encoded) else (.error .io, file ++ encoded)

/-- `append_configuration_snapshot` on the file of its sensor. -/
def appendConfigurationSnapshot (file : List UInt8) (io : HistoryIo)
    (snapshot : ConfigurationSnapshot) :
    Except ConfigurationHistoryError ConfigurationAppend × List UInt8 :=
  if snapshot.observed.validate.toOption.isNone ∨ snapshot.bootEpoch = 0 then
    (.error .invalidSnapshot, file)
  else if ¬ io.opens then (.error .io, file)
  else match recoverTail file io with
    | (.error error, file) => (.error error, file)
    | (.ok (), file) =>
      match findRevision snapshot io.readable (records file) with
      | .error error => (.error error, file)
      | .ok (some found) => (.ok found, file)
      | .ok none => writeRecord file io snapshot

theorem records_take (file : List UInt8) :
    records (file.take (file.length - file.length % recordBytes)) = records file := by
  have whole := Nat.div_add_mod file.length recordBytes
  have size : (file.take (file.length - file.length % recordBytes)).length =
      recordBytes * (file.length / recordBytes) := by
    rw [length_take]
    omega
  rw [records, records, size, Nat.mul_div_cancel_left _ (by decide)]
  refine map_congr_left fun position inside => ?_
  rw [mem_range] at inside
  have room : (position + 1) * recordBytes ≤ recordBytes * (file.length / recordBytes) := by
    rw [Nat.mul_comm]
    exact Nat.mul_le_mul_left _ inside
  rw [Nat.add_one_mul] at room
  rw [slice, slice, drop_take, take_take, Nat.min_eq_left (by omega)]

variable {file encoded : List UInt8} {snapshot : ConfigurationSnapshot}

theorem records_append {rest : List UInt8} (whole : file.length % recordBytes = 0) :
    records (file ++ rest) = records file ++ records rest := by
  obtain ⟨count, size⟩ := Nat.dvd_of_mod_eq_zero whole
  have split : (file ++ rest).length / recordBytes = count + rest.length / recordBytes := by
    rw [length_append, size, Nat.mul_add_div (by decide)]
  have here : file.length / recordBytes = count := by
    rw [size, Nat.mul_div_cancel_left _ (by decide)]
  rw [records, split, range_add, map_append, map_map, records, here, records]
  congr 1
  · refine map_congr_left fun position inside => ?_
    rw [mem_range] at inside
    have room : (position + 1) * recordBytes ≤ file.length := by
      rw [size, Nat.mul_comm]
      exact Nat.mul_le_mul_left _ inside
    rw [Nat.add_one_mul] at room
    rw [slice, slice, drop_append_of_le_length (by omega), take_append_of_le_length]
    rw [length_drop]
    omega
  · refine map_congr_left fun position _ => ?_
    have past : (count + position) * recordBytes - file.length = position * recordBytes := by
      rw [size, Nat.add_mul, Nat.mul_comm count]
      omega
    rw [Function.comp_apply,
      slice_append_of_le (by rw [size, Nat.add_mul, Nat.mul_comm count]; omega),
      past]

theorem records_of_short {part : List UInt8} (short : part.length < recordBytes) :
    records part = [] := by
  rw [records, Nat.div_eq_of_lt short]
  rfl

theorem records_of_full {record : List UInt8} (full : record.length = recordBytes) :
    records record = [record] := by
  rw [records, full, Nat.div_self (by decide), range_one, map_singleton, Nat.zero_mul,
    slice_zero_self full]

theorem length_recordBody (snapshot : ConfigurationSnapshot) (value : MeasurementConfiguration) :
    (recordBody snapshot (configurationBytes value)).length = crcOffset := by
  simp [recordBody, historyMagic, crcOffset]

theorem encodeRecord_eq_ok : encodeRecord snapshot = .ok encoded ↔
      snapshot.observed.desired.validate = .ok snapshot.observed.desired ∧
        encoded = recordBody snapshot (configurationBytes snapshot.observed.desired) ++
          u32Bytes (crc32c (recordBody snapshot
            (configurationBytes snapshot.observed.desired))) := by
  rw [encodeRecord, bind_eq_ok]
  constructor
  · rintro ⟨configuration, found, same⟩
    obtain ⟨valid, rfl⟩ := encodeConfiguration_eq_ok.mp (mapError_eq_ok.mp found)
    exact ⟨valid, (Except.ok.inj same).symm⟩
  · rintro ⟨valid, rfl⟩
    exact ⟨_, mapError_eq_ok.mpr (encodeConfiguration_eq_ok.mpr ⟨valid, rfl⟩), rfl⟩

variable (built : encodeRecord snapshot = .ok encoded)

include built

theorem length_encodeRecord : encoded.length = recordBytes := by
  obtain ⟨_, rfl⟩ := encodeRecord_eq_ok.mp built
  rw [length_append, length_recordBody, length_u32Bytes]
  rfl

theorem decodeRecord_encodeRecord (some : snapshot.bootEpoch ≠ 0)
    (valid : snapshot.observed.validate = .ok snapshot.observed) :
    decodeRecord encoded = .ok snapshot := by
  obtain ⟨fine, made⟩ := encodeRecord_eq_ok.mp built
  have front : encoded.take crcOffset =
      recordBody snapshot (configurationBytes snapshot.observed.desired) := by
    rw [made, ← length_recordBody snapshot snapshot.observed.desired, take_left]
  have stored : readU32 encoded crcOffset =
      crc32c (recordBody snapshot (configurationBytes snapshot.observed.desired)) := by
    have body := length_recordBody snapshot snapshot.observed.desired
    rw [made, readU32_append_of_le (by rw [body]), body, Nat.sub_self, readU32_u32Bytes_self]
  simp only [recordBody, append_assoc] at made
  have magic : slice encoded 0 4 = historyMagic := by
    rw [made]
    rfl
  have schema : slice encoded 4 4 = [historySchema, 0, 0, 0] := by
    rw [made]
    rfl
  have hardware : slice encoded 8 8 = snapshot.hardwareId.toList := by
    rw [made]
    simp [slice_cons_of_pos, historyMagic]
  have boot : slice encoded 16 8 = u64Bytes snapshot.bootEpoch := by
    rw [made]
    simp [slice_cons_of_pos, historyMagic]
  have revision : slice encoded 24 4 = u32Bytes snapshot.observed.revision := by
    rw [made]
    simp [slice_cons_of_pos, historyMagic]
  have sequence : slice encoded 28 8 = u64Bytes snapshot.effectiveSampleSeq := by
    rw [made]
    simp [slice_cons_of_pos, historyMagic]
  have desired : slice encoded 36 12 = configurationBytes snapshot.observed.desired := by
    rw [made]
    simp [slice_cons_of_pos, historyMagic]
  have codes : slice encoded 48 4 =
      [snapshot.observed.sensorOdr.toByte, snapshot.observed.decimationFactor, 0, 0] := by
    rw [made]
    simp [slice_cons_of_pos, historyMagic]
    rfl
  have zeros : slice encoded 5 3 = [0, 0, 0] := by
    rw [made]
    rfl
  have reserved : slice encoded (48 + 2) 2 = [0, 0] := by
    rw [← slice_slice (show 2 + 2 ≤ 4 by decide), codes]
    rfl
  have odr := getD_of_slice codes (show 0 < 4 by decide)
  have decimation := getD_of_slice codes (show 1 < 4 by decide)
  have schemaByte := getD_of_slice schema (show 0 < 4 by decide)
  simp only [Nat.add_zero, getD_cons_zero, getD_cons_succ] at odr decimation schemaByte
  have known : ¬ (slice encoded 0 4 ≠ historyMagic ∨ encoded.getD 4 0 ≠ historySchema ∨
      slice encoded 5 3 ≠ [0, 0, 0]) := by
    rintro (other | other | other)
    · exact other magic
    · exact other schemaByte
    · exact other zeros
  rw [decodeRecord, if_neg known, front, stored,
    if_neg (fun other => other rfl), if_neg (fun other => other reserved), desired,
    decodeConfiguration_configurationBytes fine, odr, decimation, OutputRateCode.fromWire_toByte,
    readU64_eq boot, readU32_eq revision, readU64_eq sequence]
  have identity : readHardwareId encoded 8 = snapshot.hardwareId := readBytes_eq hardware
  rw [identity]
  have checked : ¬ (snapshot.bootEpoch = 0 ∨ snapshot.observed.validate.toOption.isNone) := by
    rw [valid]
    rintro (zero | bad)
    · exact some zero
    · exact nomatch bad
  exact if_neg checked

omit built

/-- A record of the file tells the observed configuration of this boot. -/
def Recorded (file : List UInt8) (snapshot : ConfigurationSnapshot) : Prop :=
  ∃ record ∈ records file, ∃ found, decodeRecord record = .ok found ∧
    found.hardwareId = snapshot.hardwareId ∧ found.bootEpoch = snapshot.bootEpoch ∧
      found.observed = snapshot.observed

theorem findRevision_existing {readable : Option Nat} {held : List (List UInt8)}
    {found : ConfigurationAppend} (finds : findRevision snapshot readable held = .ok (some found)) :
    found = .existing ∧ ∃ record ∈ held, ∃ existing, decodeRecord record = .ok existing ∧
      existing.hardwareId = snapshot.hardwareId ∧ existing.bootEpoch = snapshot.bootEpoch ∧
        existing.observed = snapshot.observed := by
  induction held generalizing readable with
  | nil =>
    rcases readable with _ | _ | more <;> exact nomatch finds
  | cons record rest ih =>
    have reads : (decodeRecord record >>= fun existing =>
        if existing.bootEpoch = snapshot.bootEpoch ∧
            existing.observed.revision = snapshot.observed.revision then
          if existing.hardwareId = snapshot.hardwareId ∧ existing.observed = snapshot.observed then
            .ok (some .existing)
          else .error (.conflictingRevision snapshot.bootEpoch snapshot.observed.revision)
        else findRevision snapshot (readable.map (· - 1)) rest) = .ok (some found) := by
      rcases readable with _ | _ | more
      · exact finds
      · exact nomatch finds
      · exact finds
    obtain ⟨existing, decoded, continued⟩ := bind_eq_ok.mp reads
    split at continued
    · rename_i same
      split at continued
      · rename_i equal
        have kind := Option.some.inj (Except.ok.inj continued)
        exact ⟨kind.symm, record, mem_cons_self, existing, decoded, equal.1, same.1, equal.2⟩
      · exact nomatch continued
    · obtain ⟨kind, other, member, told⟩ := ih continued
      exact ⟨kind, other, mem_cons_of_mem _ member, told⟩

theorem recoverTail_keeps (file : List UInt8) (io : HistoryIo) :
    records (recoverTail file io).2 = records file ∧
      ((recoverTail file io).1 = .ok () → (recoverTail file io).2.length % recordBytes = 0) := by
  rw [recoverTail]
  split
  · rename_i whole
    exact ⟨rfl, fun _ => whole⟩
  split
  · exact ⟨rfl, nofun⟩
  split
  · refine ⟨records_take file, fun _ => ?_⟩
    rw [length_take, Nat.min_eq_left (Nat.sub_le _ _)]
    exact Nat.sub_mod_eq_zero_of_mod_eq (Nat.mod_mod _ _).symm
  · exact ⟨records_take file, nofun⟩

/-- A whole record reaches the file, even if the append fails behind it. -/
def AddsRecord (file : List UInt8) (io : HistoryIo) (snapshot : ConfigurationSnapshot) : Prop :=
  snapshot.observed.validate.toOption.isSome ∧ snapshot.bootEpoch ≠ 0 ∧ io.opens ∧
    (file.length % recordBytes = 0 ∨ io.setsLength ∧ io.syncsLength) ∧
    findRevision snapshot io.readable (records file) = .ok none ∧
    ∀ count ∈ io.written, recordBytes ≤ count

theorem recoverTail_eq_ok (file : List UInt8) (io : HistoryIo) :
    (recoverTail file io).1 = .ok () ↔
      file.length % recordBytes = 0 ∨ io.setsLength ∧ io.syncsLength := by
  rw [recoverTail]
  by_cases whole : file.length % recordBytes = 0
  · simp [whole]
  cases io.setsLength <;> cases io.syncsLength <;> simp [whole]

theorem writeRecord_spec (io : HistoryIo) (whole : file.length % recordBytes = 0)
    (built : encodeRecord snapshot = .ok encoded) :
    records (writeRecord file io snapshot).2 = records file ++
      if ∀ count ∈ io.written, recordBytes ≤ count then [encoded] else [] := by
  have size := length_encodeRecord built
  rw [writeRecord, built]
  cases io.written with
  | none =>
    simp only [Option.mem_def, reduceCtorEq, false_implies, implies_true, if_true]
    split
    · rw [records_append whole, records_of_full size]
    · rw [records_append whole, records_of_full size]
  | some count =>
    simp only [Option.mem_some_iff, forall_eq', records_append whole]
    split
    next all => rw [take_of_length_le (by omega), records_of_full size]
    next few =>
      have short : (encoded.take count).length < recordBytes := by
        rw [length_take]
        omega
      rw [records_of_short short]

theorem ObservedConfiguration.validate_eq {observed : ObservedConfiguration}
    (valid : ¬ observed.validate.toOption.isNone) : observed.validate = .ok observed := by
  cases checked : observed.validate with
  | error error =>
    rw [checked] at valid
    exact absurd rfl valid
  | ok value =>
    obtain ⟨desired, fine, rest⟩ := bind_eq_ok.mp checked
    split at rest
    · exact nomatch rest
    split at rest
    · exact nomatch rest
    · split at rest
      · exact nomatch rest
      · exact rest.symm

/-- An append puts a record behind the others, or nothing. -/
theorem append_spec (file : List UInt8) (io : HistoryIo) (snapshot : ConfigurationSnapshot) :
    (AddsRecord file io snapshot ∧ ∃ record, decodeRecord record = .ok snapshot ∧
      records (appendConfigurationSnapshot file io snapshot).2 = records file ++ [record]) ∨
    (¬ AddsRecord file io snapshot ∧
      records (appendConfigurationSnapshot file io snapshot).2 = records file ∧
      ((appendConfigurationSnapshot file io snapshot).1.toOption.isSome →
        Recorded file snapshot)) := by
  rw [appendConfigurationSnapshot]
  split
  next bad =>
    refine .inr ⟨fun adds => ?_, rfl, nofun⟩
    rcases bad with bad | zero
    · rw [Option.isNone_iff_eq_none] at bad
      exact absurd adds.1 (by rw [bad]; nofun)
    · exact adds.2.1 zero
  rename_i fine
  obtain ⟨checked, some⟩ := not_or.mp fine
  have valid := ObservedConfiguration.validate_eq checked
  split
  next closed => exact .inr ⟨fun adds => closed adds.2.2.1, rfl, nofun⟩
  rename_i opens
  have recovers := recoverTail_eq_ok file io
  obtain ⟨kept, whole⟩ := recoverTail_keeps file io
  generalize recoverTail file io = recovered at kept whole recovers
  obtain ⟨result, cut⟩ := recovered
  cases result with
  | error error =>
    exact .inr ⟨fun adds => (nomatch recovers.mpr adds.2.2.2.1), kept, nofun⟩
  | ok done =>
    simp only [kept]
    cases finds : findRevision snapshot io.readable (records file) with
    | error error =>
      exact .inr ⟨fun adds => (nomatch finds.symm.trans adds.2.2.2.2.1), kept, nofun⟩
    | ok found =>
      cases found with
      | some how =>
        obtain ⟨_, recorded⟩ := findRevision_existing finds
        exact .inr ⟨fun adds => (nomatch finds.symm.trans adds.2.2.2.2.1), kept, fun _ => recorded⟩
      | none =>
        obtain ⟨desired, storable, -⟩ := bind_eq_ok.mp valid
        rw [MeasurementConfiguration.validate_eq_ok storable] at storable
        have built := encodeRecord_eq_ok.mpr ⟨storable, rfl⟩
        have wrote := writeRecord_spec io (whole rfl) built
        simp only at wrote ⊢
        rw [wrote, kept]
        by_cases reaches : ∀ count ∈ io.written, recordBytes ≤ count
        · refine .inl ⟨⟨by rw [valid]; rfl, some, not_not.mp opens, recovers.mp rfl, finds,
            reaches⟩, _, decodeRecord_encodeRecord built some valid, by rw [if_pos reaches]⟩
        · refine .inr ⟨fun adds => reaches adds.2.2.2.2.2, by rw [if_neg reaches, append_nil], ?_⟩
          rw [writeRecord, built]
          cases written : io.written with
          | none => exact absurd (by rw [written]; nofun) reaches
          | some count => exact nofun

end SensorSystem.Host.Configuration
