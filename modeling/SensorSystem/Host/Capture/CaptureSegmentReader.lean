import SensorSystem.Host.Capture.CaptureSegmentChain

/-! A reader goes through the records of a sealed segment as the writer did, finds the seal at the
end and the manifest that the writer published. -/

namespace SensorSystem.Host

open CaptureRecord List UInt64
open Base

/-- The header that a log of this configuration starts with. -/
def CaptureWalConfig.header (config : CaptureWalConfig) : CaptureWalHeader where
  hardwareId := config.hardwareId
  bootEpoch := config.bootEpoch
  firstCursor := config.recoveredCursor
  firstWindowOrdinal := config.firstWindowOrdinal
  windowPolicy := config.windowPolicy

variable {config : CaptureWalConfig} {record : CaptureRecord}

theorem nextRecord_record (storable : record.Storable config) (rest : List UInt8) (offset : Nat)
    (bounded : offset + record.bytes.length < 2 ^ 64) :
    nextRecord config.header (record.bytes ++ rest) offset =
      .ok (some (record, rest, offset + record.bytes.length)) := by
  have length := record.length_bytes
  have four : recordPrefixBytes = 4 := rfl
  have bounds := bodyLength_bounds storable
  have found := foundIn storable rest
  have long := found.long
  rw [nextRecord]
  simp only [found.bodyLength, found.data, found.checksum, found.rest]
  rw [if_neg (by omega), if_neg (by omega), if_neg (not_not.mpr bounds), if_neg (by omega),
    if_neg (by omega), if_neg (by simp)]
  have decoded := decodeRecord_data storable
  simp only [CaptureWalConfig.header, decoded, map_ok, length, Nat.add_assoc]

/-- A plan that is committed at once is the append. -/
theorem CaptureRecord.committed_eq (hardwareId : HardwareId) (ledger : CaptureWindowLedger)
    (record : CaptureRecord) : record.committed hardwareId ledger =
      record.appliedTo hardwareId ledger := by
  cases record with
  | sampleChunk chunk => exact LedgerTrace.Regular.planned_commit ledger (.chunk hardwareId chunk)
  | gap value => exact LedgerTrace.Regular.planned_commit ledger (.gap value)
  | continuityBreak observed =>
    exact LedgerTrace.Regular.planned_commit ledger (.continuityBreak observed)
  | windowSeal => rfl

/-- One round of the loop. -/
theorem reconstruct_record (storable : record.Storable config) (rest : List UInt8) (offset : Nat)
    (bounded : offset + record.bytes.length < 2 ^ 64) {ledger after : CaptureWindowLedger}
    {manifest : Option CaptureWindowManifest} {count next : UInt64}
    (applied : record.appliedTo config.hardwareId ledger = .ok (manifest, after))
    (counted : checkedAdd count 1 = some next) :
    reconstruct config.header (record.bytes ++ rest) offset ledger none count =
      reconstruct config.header rest (offset + record.bytes.length) after manifest next := by
  rw [reconstruct]
  split
  · rename_i error found
    rw [nextRecord_record storable rest offset bounded] at found
    cases found
  · rename_i found
    rw [nextRecord_record storable rest offset bounded] at found
    cases found
  rename_i found
  rw [nextRecord_record storable rest offset bounded] at found
  cases found
  have same : config.header.hardwareId = config.hardwareId := rfl
  simp only [counted, committed_eq, same, applied]
  rfl

theorem reconstruct_nil (header : CaptureWalHeader) (offset : Nat) (ledger : CaptureWindowLedger)
    (manifest : Option CaptureWindowManifest) (count : UInt64) :
    reconstruct header [] offset ledger manifest count = .ok (manifest, count) := by
  rw [reconstruct]
  rfl

variable {records : List CaptureRecord} {torn : List UInt8}

/-- The loop goes through records that seal nothing. -/
theorem reconstruct_open (storable : ∀ record ∈ records, record.Storable config)
    (rest : List UInt8) (offset : Nat)
    (bounded : offset + (records.flatMap bytes).length < 2 ^ 64)
    {ledger last : CaptureWindowLedger} {recovery counted : CaptureWalRecovery} {count : UInt64}
    (behind : count.toNat ≤ offset)
    (done : replay config.hardwareId (ledger, recovery) records = .ok (last, counted))
    (none : counted.sealedWindowCount = 0) : recovery.sealedWindowCount = 0 ∧ ∃ total : UInt64,
      total.toNat ≤ offset + (records.flatMap bytes).length ∧
      reconstruct config.header (records.flatMap bytes ++ rest) offset ledger .none
          count =
        reconstruct config.header rest (offset + (records.flatMap bytes).length)
          last .none total := by
  induction records generalizing ledger recovery offset count with
  | nil =>
    cases done
    exact ⟨none, count, behind, rfl⟩
  | cons record records ih =>
    obtain ⟨storableFirst, storableRest⟩ := forall_mem_cons.mp storable
    obtain ⟨⟨middle, report⟩, first, done⟩ := bind_eq_ok.mp done
    obtain ⟨manifest, applied, counts, -⟩ := replayRecord_eq_ok first
    have length := record.length_bytes
    have four : recordPrefixBytes = 4 := rfl
    rw [flatMap_cons, length_append] at bounded
    have fits : checkedAdd count 1 = some (count + 1) := by
      rw [checkedAdd, if_pos]
      rw [toNat_one]
      omega
    have next : (count + 1).toNat ≤ offset + record.bytes.length := by
      rw [← checkedAdd_eq_some.mp fits, toNat_one]
      omega
    obtain ⟨zero, total, within, equal⟩ :=
      ih storableRest (offset + record.bytes.length) (by omega) next done
    rw [zero] at counts
    have empty : recovery.sealedWindowCount.toNat = 0 ∧ manifest.toList.length = 0 := by
      change 0 = _ at counts
      omega
    have open_ : manifest = .none := by
      cases manifest with
      | none => rfl
      | some value => cases empty.2
    refine ⟨UInt64.toNat_inj.mp empty.1, total, ?_, ?_⟩
    · rw [flatMap_cons, length_append]
      omega
    · rw [flatMap_cons, append_assoc, reconstruct_record storableFirst _ _ (by omega)
        applied fits, open_, equal, length_append, Nat.add_assoc]

/-- A sealed segment and its manifest are accepted. -/
theorem validateCaptureSegment_sealed {manifest : CaptureWindowManifest}
    {state : CaptureWindowLedger × CaptureWalRecovery} {disk : CaptureDisk}
    {wal stored : StoredFile} (openable : Openable config)
    (sealed : SealedWindow config records manifest state)
    (found : disk.lookup (.wal manifest.windowOrdinal) = some wal)
    (content : wal.content = walBytes config records)
    (published : disk.lookup (.manifest manifest.windowOrdinal) = some stored)
    (encoded : stored.content = encodeManifest manifest) :
    ∃ count, validateCaptureSegment disk manifest.windowOrdinal = .ok ⟨manifest, count⟩ := by
  have joins := sealed.joins
  obtain ⟨front, record, before, split, replayed, none, applied⟩ := sealed.closes
  have storable := sealed.window.storable
  have bounded := sealed.window.bounded
  rw [split] at storable bounded
  obtain ⟨storableFront, storableLast⟩ := forall_mem_append.mp storable
  have storableLast := storableLast record (mem_singleton_self _)
  rw [length_walBytes, flatMap_append, length_append, flatMap_singleton] at bounded
  have contract := validateContract_eq_ok.mpr (joins.contract openable.epoch)
  have header : decodeFileHeader (fileHeader config) = .ok config.header :=
    decodeFileHeader_fileHeader openable.epoch openable.duration
  have width := length_fileHeader config
  have body : wal.content.drop fileHeaderBytes =
      front.flatMap bytes ++ (record.bytes ++ []) := by
    rw [content, walBytes, drop_left' width, split, flatMap_append,
      flatMap_singleton, append_nil]
  have top : wal.content.take fileHeaderBytes = fileHeader config := by
    rw [content, walBytes, take_left' width]
  have long : ¬ wal.content.length < fileHeaderBytes := by
    rw [content, length_walBytes]
    omega
  have zero : (0 : UInt64).toNat ≤ fileHeaderBytes := Nat.zero_le _
  obtain ⟨-, total, within, through⟩ := reconstruct_open storableFront (record.bytes ++ [])
    fileHeaderBytes (by omega) zero replayed none
  have fits : checkedAdd total 1 = some (total + 1) := by
    rw [checkedAdd, if_pos]
    rw [toNat_one]
    have length := record.length_bytes
    have four : recordPrefixBytes = 4 := rfl
    omega
  have sealing : reconstruct config.header (wal.content.drop fileHeaderBytes) fileHeaderBytes
      config.initial.1 .none 0 = .ok (some manifest, total + 1) := by
    rw [body]
    refine through.trans ?_
    rw [reconstruct_record storableLast _ _ (by omega) applied fits, reconstruct_nil]
  have identity : ¬ (config.header.hardwareId ≠ manifest.hardwareId ∨
      config.header.bootEpoch ≠ manifest.bootEpoch ∨
      config.header.firstCursor ≠ manifest.firstCursor ∨
      config.header.firstWindowOrdinal ≠ manifest.windowOrdinal) := by
    simp [CaptureWalConfig.header, joins.hardwareId, joins.bootEpoch, joins.first, joins.ordinal]
  have ledger : CaptureWindowLedger.new config.header.windowPolicy config.header.hardwareId
      config.header.bootEpoch config.header.firstCursor config.header.firstWindowOrdinal =
        config.initial.1 := rfl
  refine ⟨total + 1, ?_⟩
  simp only [validateCaptureSegment, published, found, encoded,
    readCaptureManifest_encode manifest contract, ok_bind, if_neg long, top, header, segmentWal,
    Except.mapError, if_neg identity, ledger, sealing, ne_eq, not_true_eq_false, if_false]

/-- The reader stops at a record that is not complete. -/
theorem nextRecord_torn {offset : Nat} (proper : TornAt config offset torn) :
    nextRecord config.header torn offset =
      if torn = [] then .ok none else .error (.incompleteRecord offset) := by
  by_cases empty : torn = []
  · rw [if_pos empty, empty, nextRecord]
    rfl
  obtain ⟨record, storable, starts, incomplete, bounded⟩ := proper.resolve_left empty
  have length := record.length_bytes
  have bounds := bodyLength_bounds storable
  have nonempty : torn.length ≠ 0 := by simpa using empty
  rw [if_neg empty, nextRecord, if_neg nonempty]
  by_cases short : torn.length < recordPrefixBytes
  · rw [if_pos short]
  have four : recordPrefixBytes = 4 := rfl
  have same : torn.take 4 = record.bytes.take 4 := by
    rw [prefix_iff_eq_take.mp starts, take_take, Nat.min_eq_left (by omega)]
  have prefixed : (readU32 torn 0).toNat = record.bodyLength :=
    readU32_bytes storable same
  rw [if_neg short]
  simp only [prefixed]
  rw [if_neg (not_not.mpr bounds), if_neg (by omega), if_pos (by omega)]

/-- What a reader gets from a file before it stops. -/
def recordsIn (header : CaptureWalHeader) (bytes : List UInt8) (offset : Nat) :
    List CaptureRecord :=
  match _ : nextRecord header bytes offset with
  | .ok (some (record, rest, position)) => record :: recordsIn header rest position
  | _ => []
termination_by bytes.length
decreasing_by exact nextRecord_shorter ‹_›

def CaptureDisk.recordsOf (disk : CaptureDisk) (ordinal : UInt64) : List CaptureRecord :=
  let bytes := disk.read (.wal ordinal)
  match decodeFileHeader (bytes.take fileHeaderBytes) with
  | .error _ => []
  | .ok header => recordsIn header (bytes.drop fileHeaderBytes) fileHeaderBytes

/-- The records that lie whole in the logs of a stream, in their order. -/
def CaptureDisk.wholeRecords (disk : CaptureDisk) : List CaptureRecord :=
  match disk.discoverSegmentOrdinals with
  | .error _ => []
  | .ok ordinals => ordinals.flatMap disk.recordsOf

theorem recordsIn_cons (storable : record.Storable config) (rest : List UInt8) (offset : Nat)
    (bounded : offset + record.bytes.length < 2 ^ 64) :
    recordsIn config.header (record.bytes ++ rest) offset =
      record :: recordsIn config.header rest (offset + record.bytes.length) := by
  have found := nextRecord_record storable rest offset bounded
  rw [recordsIn]
  split
  · rename_i same
    rw [found] at same
    cases same
    rfl
  rename_i other
  exact absurd found (other _ _ _)

theorem recordsIn_whole (storable : ∀ record ∈ records, record.Storable config) {offset : Nat}
    (proper : TornAt config (offset + (records.flatMap bytes).length) torn)
    (bounded : offset + (records.flatMap bytes).length < 2 ^ 64) :
    recordsIn config.header (records.flatMap bytes ++ torn) offset = records := by
  induction records generalizing offset with
  | nil =>
    have stops := nextRecord_torn proper
    rw [flatMap_nil, nil_append, recordsIn]
    split
    · rename_i found
      rw [flatMap_nil, length_nil, Nat.add_zero, found] at stops
      split at stops <;> cases stops
    · rfl
  | cons record records ih =>
    obtain ⟨storableFirst, storableRest⟩ := forall_mem_cons.mp storable
    rw [flatMap_cons, length_append, ← Nat.add_assoc] at proper bounded
    rw [flatMap_cons, append_assoc, recordsIn_cons storableFirst _ _ (by omega),
      ih storableRest proper bounded]

theorem CaptureDisk.recordsOf_written {disk : CaptureDisk} {ordinal : UInt64} {file : StoredFile}
    (openable : Openable config) (storable : ∀ record ∈ records, record.Storable config)
    (bounded : (walBytes config records).length < 2 ^ 64)
    (proper : TornAt config (walBytes config records).length torn)
    (found : disk.lookup (.wal ordinal) = some file)
    (content : file.content = walBytes config records ++ torn) :
    disk.recordsOf ordinal = records := by
  have width := length_fileHeader config
  have bytes : disk.read (.wal ordinal) =
      fileHeader config ++ (records.flatMap CaptureRecord.bytes ++ torn) := by
    rw [← append_assoc, ← walBytes, ← content, CaptureDisk.read, found]
    rfl
  have header : decodeFileHeader (fileHeader config) = .ok config.header :=
    decodeFileHeader_fileHeader openable.epoch openable.duration
  rw [length_walBytes] at bounded proper
  simp only [recordsOf, bytes, take_left' width, drop_left' width, header]
  exact recordsIn_whole storable proper bounded

end SensorSystem.Host
