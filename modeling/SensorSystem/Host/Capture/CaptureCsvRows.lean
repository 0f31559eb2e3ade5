import SensorSystem.Host.Capture.CaptureCsv
import SensorSystem.Host.Capture.CaptureWalReader

/-! What the lines of a validated log stand for: they follow each other without a hole from the
first cursor of its window to the last, and carry the samples of its records. -/

namespace SensorSystem.Host

open List Base

def CsvEvent.cursor : CsvEvent → SequenceCursor
  | gap cursor .. => cursor
  | continuityBreak cursor _ => cursor

/-- The count in the line. -/
def CsvEvent.count : CsvEvent → Nat
  | gap _ count _ => count.toNat
  | continuityBreak .. => 1

def CsvEvent.missing : CsvEvent → Nat
  | gap _ count _ => count.toNat
  | continuityBreak .. => 0

def CsvEvent.breaks : CsvEvent → Nat
  | gap .. => 0
  | continuityBreak .. => 1

def CsvRow.first : CsvRow → Nat
  | sample row => row.cursor.toNat
  | event row => row.cursor.toNat

def CsvRow.stop : CsvRow → Nat
  | sample row => row.cursor.toNat + 1
  | event row => row.cursor.toNat + row.count

/-- The samples of a record with their cursors. -/
def CaptureRecord.sampled : CaptureRecord → List (SequenceCursor × SampleAxes)
  | sampleChunk chunk => chunk.samples.zipIdx.map fun (axes, index) =>
      (chunk.header.first + UInt64.ofNat index, axes)
  | _ => []

/-- A chunk of one sample has one device time. -/
def CaptureRecord.Exportable : CaptureRecord → Prop
  | sampleChunk chunk => chunk.samples.length = 1 →
      chunk.timing.firstDeviceTimeUs = chunk.timing.lastDeviceTimeUs
  | _ => True

instance : (record : CaptureRecord) → Decidable record.Exportable
  | .sampleChunk chunk => inferInstanceAs (Decidable (chunk.samples.length = 1 →
      chunk.timing.firstDeviceTimeUs = chunk.timing.lastDeviceTimeUs))
  | .gap _ | .continuityBreak _ | .windowSeal => inferInstanceAs (Decidable True)

/-- How far a stream is and what it has counted. -/
@[ext]
structure StreamAccount where
  next : Nat
  samples : Nat
  missing : Nat
  breaks : Nat

def StreamAccount.add (account : StreamAccount) (record : CaptureRecord) : StreamAccount where
  next := account.next + record.counters.samples.toNat + record.counters.missingSamples.toNat +
    record.counters.continuityBreaks.toNat
  samples := account.samples + record.counters.samples.toNat
  missing := account.missing + record.counters.missingSamples.toNat
  breaks := account.breaks + record.counters.continuityBreaks.toNat

/-- The lines of records bring a stream from one account to another. -/
structure Exported (records : List CaptureRecord) (before after : StreamAccount)
    (rows : List CsvRow) : Prop where
  tiles : Tiles CsvRow.first CsvRow.stop before.next after.next rows
  sampled : (rows.filterMap CsvRow.sample?).map (fun row => (row.cursor, row.axes)) =
    records.flatMap CaptureRecord.sampled
  samples : after.samples = before.samples + (rows.filterMap CsvRow.sample?).length
  missing : after.missing =
    before.missing + ((rows.filterMap CsvRow.event?).map CsvEvent.missing).sum
  breaks : after.breaks = before.breaks + ((rows.filterMap CsvRow.event?).map CsvEvent.breaks).sum

namespace Exported

variable {records later : List CaptureRecord} {before middle after : StreamAccount}
  {rows others : List CsvRow}

theorem nil (account : StreamAccount) : Exported [] account account [] where
  tiles := .nil _
  sampled := rfl
  samples := rfl
  missing := rfl
  breaks := rfl

theorem append (front : Exported records before middle rows)
    (back : Exported later middle after others) :
    Exported (records ++ later) before after (rows ++ others) where
  tiles := front.tiles.append back.tiles
  sampled := by
    rw [filterMap_append, map_append, front.sampled, back.sampled, flatMap_append]
  samples := by
    rw [back.samples, front.samples, filterMap_append, length_append, Nat.add_assoc]
  missing := by
    rw [back.missing, front.missing, filterMap_append, map_append, sum_append,
      Nat.add_assoc]
  breaks := by
    rw [back.breaks, front.breaks, filterMap_append, map_append, sum_append,
      Nat.add_assoc]

/-- What was counted before does not matter. -/
theorem shift {start finish samples missing breaks : Nat} {base : StreamAccount}
    (exported : Exported records ⟨start, 0, 0, 0⟩ ⟨finish, samples, missing, breaks⟩ rows)
    (here : base.next = start) : Exported records base
      ⟨finish, base.samples + samples, base.missing + missing, base.breaks + breaks⟩ rows where
  tiles := here ▸ exported.tiles
  sampled := exported.sampled
  samples := by
    have counted := exported.samples
    dsimp only at counted ⊢
    omega
  missing := by
    have counted := exported.missing
    dsimp only at counted ⊢
    omega
  breaks := by
    have counted := exported.breaks
    dsimp only at counted ⊢
    omega

end Exported

/-- The record begins at a cursor; a seal begins anywhere. -/
def CaptureRecord.StartsAt (cursor : SequenceCursor) : CaptureRecord → Prop
  | .sampleChunk chunk => chunk.header.first = cursor
  | .gap missed => missed.firstMissing = cursor
  | .continuityBreak observed => observed.at_ = cursor
  | .windowSeal => True

variable {chunk : SampleChunk} (valid : chunk.validate = .ok ())

include valid

theorem timing_of_validate : chunk.timing.firstDeviceTimeUs ≤ chunk.timing.lastDeviceTimeUs := by
  rw [SampleChunk.validate] at valid
  obtain ⟨-, valid⟩ := check_eq_ok.mp valid
  obtain ⟨-, valid⟩ := guard_eq_ok.mp valid
  obtain ⟨-, valid⟩ := guard_eq_ok.mp valid
  obtain ⟨-, valid⟩ := guard_eq_ok.mp valid
  obtain ⟨-, valid⟩ := guard_eq_ok.mp valid
  obtain ⟨-, valid⟩ := guard_eq_ok.mp valid
  exact UInt64.not_lt.mp (guard_eq_ok.mp valid).1

variable (exportable : (CaptureRecord.sampleChunk chunk).Exportable)

include exportable

/-- Every sample of a chunk has a device time when a lone one has. -/
theorem interpolateDeviceTime_of_valid {index : Nat} (inside : index < chunk.samples.length) :
    ∃ time, interpolateDeviceTime chunk.timing.firstDeviceTimeUs chunk.timing.lastDeviceTimeUs
      chunk.samples.length index = .ok time := by
  have ordered := timing_of_validate valid
  have few : chunk.samples.length ≤ maxWireChunkSamples :=
    (SampleChunk.length_of_validate valid).2
  by_cases one : chunk.samples.length = 1
  · have same := exportable one
    have zero : index = 0 := by omega
    refine ⟨chunk.timing.firstDeviceTimeUs, ?_⟩
    rw [interpolateDeviceTime, one, zero, if_neg (by
      rintro (impossible | impossible | reversed)
      · exact absurd impossible (by decide)
      · exact absurd impossible (by decide)
      · exact UInt64.not_lt.mpr ordered reversed), if_pos rfl, if_pos ⟨rfl, same⟩]
  · have limit : maxWireChunkSamples < 2 ^ 16 := by decide
    obtain ⟨time, done, -⟩ := interpolateDeviceTime_spec ordered inside one (by omega)
    exact ⟨time, done⟩

theorem exportSamples_ok (fits : chunk.header.first.toNat + chunk.samples.length < 2 ^ 64)
    {samples : List SampleAxes} {index : Nat}
    (rest : index + samples.length = chunk.samples.length) :
    ∃ rows, exportSamples chunk samples index = .ok rows ∧
      Tiles CsvRow.first CsvRow.stop (chunk.header.first.toNat + index)
        (chunk.header.first.toNat + chunk.samples.length) rows ∧
      (rows.filterMap CsvRow.sample?).map (fun row => (row.cursor, row.axes)) =
        (samples.zipIdx index).map (fun (axes, index) =>
          (chunk.header.first + UInt64.ofNat index, axes)) ∧
      (rows.filterMap CsvRow.sample?).length = samples.length ∧
      rows.filterMap CsvRow.event? = [] := by
  induction samples generalizing index with
  | nil =>
    rw [length_nil, Nat.add_zero] at rest
    exact ⟨[], rfl, Tiles.nil_iff.mpr (by rw [rest]), rfl, rfl, rfl⟩
  | cons sample samples ih =>
    rw [length_cons] at rest
    obtain ⟨rows, done, tiles, sampled, counted, quiet⟩ := @ih (index + 1) (by omega)
    obtain ⟨time, timed⟩ := interpolateDeviceTime_of_valid valid exportable
      (show index < chunk.samples.length by omega)
    have small : (UInt64.ofNat index).toNat = index :=
      UInt64.toNat_ofNat_of_lt' (show index < 2 ^ 64 by omega)
    have sum : checkedAdd chunk.header.first (UInt64.ofNat index) =
        some (chunk.header.first + UInt64.ofNat index) := by
      rw [checkedAdd_eq_some, UInt64.toNat_add, small, Nat.mod_eq_of_lt (by omega)]
    have cursor : (chunk.header.first + UInt64.ofNat index).toNat =
        chunk.header.first.toNat + index := by
      rw [← checkedAdd_eq_some.mp sum, small]
    let row : CsvSample := {
      cursor := chunk.header.first + UInt64.ofNat index
      axes := sample
      configRevision := chunk.configRevision
      timingSegmentId := chunk.timing.segmentId
      deviceTimeUsEstimate := time
      maxFitResidualUs := chunk.timing.maxFitResidualUs
      timingQualityFlags := chunk.timing.qualityFlags }
    have exported : exportSample chunk sample index = .ok (.sample row) := by
      rw [exportSample, sum]
      dsimp only
      rw [timed, ok_bind]
    refine ⟨.sample row :: rows, ?_, ?_, ?_, ?_, ?_⟩
    · rw [exportSamples, exported, ok_bind, done, ok_bind]
    · refine Tiles.cons_iff.mpr ⟨cursor, Nat.lt_succ_self _, ?_⟩
      have stop : (CsvRow.sample row).stop = chunk.header.first.toNat + (index + 1) := by
        change (chunk.header.first + UInt64.ofNat index).toNat + 1 = _
        rw [cursor, Nat.add_assoc]
      rw [stop]
      exact tiles
    · rw [zipIdx_cons, map_cons, ← sampled]
      rfl
    · exact congrArg (· + 1) counted
    · exact quiet

omit exportable valid

/-- A record is exported as lines that occupy its cursors. -/
theorem exportRecord_ok {config : CaptureWalConfig} {record : CaptureRecord}
    (storable : record.Storable config) (exportable : record.Exportable) {cursor : SequenceCursor}
    (starts : record.StartsAt cursor) {account : StreamAccount}
    (here : account.next = cursor.toNat) : ∃ rows, exportRecord record = .ok rows ∧
      Exported [record] account (account.add record) rows := by
  cases record with
  | sampleChunk chunk =>
    have starts : chunk.header.first = cursor := starts
    obtain ⟨valid, -⟩ := storable
    obtain ⟨counted, -⟩ := SampleChunk.length_of_validate valid
    have bounded : chunk.header.first.toNat + chunk.samples.length < 2 ^ 64 := by
      obtain ⟨structured, -⟩ := check_eq_ok.mp valid
      have within := (SampleChunkHeader.validateStructure_eq_ok.mp
        (mapError_eq_ok.mp structured)).2.2.2.2
      have limit : chunk.header.produced.toNat < 2 ^ 64 := chunk.header.produced.toNat_lt
      omega
    obtain ⟨rows, done, tiles, sampled, length, quiet⟩ := exportSamples_ok valid exportable bounded
      (Nat.zero_add chunk.samples.length)
    refine ⟨rows, done, ?_, ?_, ?_, ?_, ?_⟩
    · have finish : (account.add (.sampleChunk chunk)).next =
          chunk.header.first.toNat + chunk.samples.length := by
        change account.next + chunk.header.sampleCount.toUInt64.toNat + 0 + 0 = _
        rw [here, ← starts, counted, UInt16.toNat_toUInt64]
        rfl
      rw [finish, here, ← starts]
      exact tiles
    · rw [sampled, flatMap_singleton]
      rfl
    · rw [length, counted]
      change account.samples + chunk.header.sampleCount.toUInt64.toNat = _
      rw [UInt16.toNat_toUInt64]
    · rw [quiet]
      rfl
    · rw [quiet]
      rfl
  | gap gap =>
    have starts : gap.firstMissing = cursor := starts
    have positive : 0 < gap.missingCount.toNat := UInt64.pos_iff_ne_zero.mpr gap.nonempty
    refine ⟨_, rfl, ?_, rfl, rfl, ?_, rfl⟩
    · refine Tiles.cons_iff.mpr ⟨?_, Nat.lt_add_of_pos_right positive, Tiles.nil_iff.mpr ?_⟩
      · rw [here, ← starts]
        rfl
      change gap.firstMissing.toNat + gap.missingCount.toNat =
        account.next + 0 + gap.missingCount.toNat + 0
      rw [here, ← starts]
      omega
    · rfl
  | continuityBreak observed =>
    have starts : observed.at_ = cursor := starts
    refine ⟨_, rfl, ?_, rfl, rfl, rfl, rfl⟩
    refine Tiles.cons_iff.mpr ⟨?_, Nat.lt_succ_self _, Tiles.nil_iff.mpr ?_⟩
    · rw [here, ← starts]
      rfl
    · change observed.at_.toNat + 1 = account.next + 0 + 0 + 1
      rw [here, ← starts]
  | windowSeal => exact ⟨[], rfl, .nil _, rfl, rfl, rfl, rfl⟩

/-- A lone sample between two anchors stops the export. -/
theorem exportable_of_exportRecord {record : CaptureRecord} {rows : List CsvRow}
    (done : exportRecord record = .ok rows) : record.Exportable := by
  cases record with
  | sampleChunk chunk =>
    intro one
    obtain ⟨sample, only⟩ := length_eq_one_iff.mp one
    rw [exportRecord, only, exportSamples] at done
    obtain ⟨row, exported, -⟩ := bind_eq_ok.mp done
    rw [exportSample] at exported
    split at exported
    · cases exported
    obtain ⟨time, timed, -⟩ := bind_eq_ok.mp exported
    rw [interpolateDeviceTime] at timed
    obtain ⟨-, timed⟩ := guard_eq_ok.mp timed
    rw [if_pos one] at timed
    split at timed
    · rename_i same
      exact same.2
    · cases timed
  | _ => exact trivial

end SensorSystem.Host

/-! The validation of a log goes through its records with a ledger, the export without one. What
the ledger has counted at a record is what the lines before it stand for. -/

namespace SensorSystem.Host

open CaptureWindowLedger
open Base

def CaptureWindowLedger.account (ledger : CaptureWindowLedger) : StreamAccount where
  next := ledger.nextCursor.toNat
  samples := ledger.target.sampleCount.toNat
  missing := ledger.target.missingSampleCount.toNat
  breaks := ledger.target.continuityBreakCount.toNat

def CaptureWindowManifest.account (manifest : CaptureWindowManifest) : StreamAccount where
  next := manifest.endExclusive.toNat
  samples := manifest.sampleCount.toNat
  missing := manifest.missingSampleCount.toNat
  breaks := manifest.continuityBreakCount.toNat

/-- The open window ends at the next cursor. -/
def CaptureWindowLedger.Meets (ledger : CaptureWindowLedger) : Prop :=
  ∀ window ∈ ledger.openWindow, window.endExclusive = ledger.nextCursor

/-- The window that is left open or was sealed has come to the account. -/
def StreamAccount.LeftBy (account : StreamAccount) (ledger : CaptureWindowLedger) :
    Option CaptureWindowManifest → Prop
  | none => ledger.Meets ∧ ledger.account = account
  | some manifest => manifest.account = account

variable {ledger after : CaptureWindowLedger} {manifest : Option CaptureWindowManifest}
  {account : StreamAccount} {record : CaptureRecord} {hardwareId : HardwareId}
  {value : CaptureWindowManifest} {window : OpenWindow} {validation : CaptureSegmentValidation}

theorem CaptureWindowLedger.Seals.account_eq (seals : ledger.Seals value after)
    (meets : ledger.Meets) : value.account = ledger.account := by
  obtain ⟨window, opened, -, stop, -, -, samples, missing, breaks⟩ := seals.opened
  have target : ledger.target = window := by
    rw [CaptureWindowLedger.target, Option.mem_def.mp opened, Option.getD_some]
  refine StreamAccount.ext ?_ ?_ ?_ ?_
  · exact congrArg UInt64.toNat (stop.trans (meets window opened))
  · exact congrArg UInt64.toNat (samples.trans (congrArg _ target.symm))
  · exact congrArg UInt64.toNat (missing.trans (congrArg _ target.symm))
  · exact congrArg UInt64.toNat (breaks.trans (congrArg _ target.symm))

theorem CaptureItem.Grows.account_eq {item : CaptureItem} (grows : item.Grows ledger window) :
    (ledger.grown window).account = ledger.account.add item.record :=
  StreamAccount.ext grows.stop grows.samples grows.missing grows.breaks

theorem leftBy_of_leaves (leaves : (ledger.grown window).Leaves manifest after) :
    (ledger.grown window).account.LeftBy after manifest := by
  have meets : (ledger.grown window).Meets := by
    rintro _ ⟨⟩
    rfl
  obtain ⟨rfl, rfl⟩ | ⟨reason, value, rfl, sealed⟩ := leaves
  · exact ⟨meets, rfl⟩
  · exact (seals_of_sealWindow sealed).account_eq meets

theorem leftBy_applied (item : CaptureItem) (done : item.applied ledger = .ok (manifest, after)) :
    (ledger.account.add item.record).LeftBy after manifest := by
  obtain ⟨window, grows, leaves⟩ := grows_applied done
  exact grows.account_eq ▸ leftBy_of_leaves leaves

/-- A record that the ledger takes begins where the stream is. -/
theorem leftBy_committed (done : record.committed hardwareId ledger = .ok (manifest, after))
    (meets : ledger.Meets) :
    record.StartsAt ledger.nextCursor ∧ (ledger.account.add record).LeftBy after manifest := by
  rw [CaptureRecord.committed_eq] at done
  cases record with
  | sampleChunk chunk =>
    refine ⟨?_, leftBy_applied (.chunk hardwareId chunk) done⟩
    obtain ⟨-, done⟩ := check_eq_ok.mp done
    split at done
    · cases done
    · exact validateNext_eq_ok.mp (check_eq_ok.mp done).1
  | gap value =>
    refine ⟨?_, leftBy_applied (.gap value) done⟩
    obtain ⟨-, done⟩ := check_eq_ok.mp done
    exact validateNext_eq_ok.mp (check_eq_ok.mp done).1
  | continuityBreak observed =>
    refine ⟨?_, leftBy_applied (.continuityBreak observed) done⟩
    obtain ⟨-, done⟩ := check_eq_ok.mp done
    exact validateNext_eq_ok.mp (check_eq_ok.mp done).1
  | windowSeal =>
    refine ⟨trivial, ?_⟩
    rw [CaptureRecord.appliedTo, finish] at done
    split at done
    · cases done
      exact ⟨meets, rfl⟩
    · obtain ⟨⟨value, last⟩, sealed, same⟩ := map_eq_ok.mp done
      cases same
      exact (seals_of_sealWindow sealed).account_eq meets

variable {header : CaptureWalHeader} {bytes rest : List UInt8} {offset position : Nat}
  {rows : List CsvRow}

theorem recordsIn_of_nextRecord
    (found : nextRecord header bytes offset = .ok (some (record, rest, position))) :
    recordsIn header bytes offset = record :: recordsIn header rest position := by
  rw [recordsIn]
  split
  · rename_i same
    rw [found] at same
    cases same
    rfl
  rename_i other
  exact absurd found (other _ _ _)

theorem recordsIn_end (found : nextRecord header bytes offset = .ok none) :
    recordsIn header bytes offset = [] := by
  rw [recordsIn]
  split
  · rename_i same
    rw [found] at same
    cases same
  · rfl

theorem exportRecords_of_nextRecord
    (found : nextRecord header bytes offset = .ok (some (record, rest, position))) :
    exportRecords header bytes offset = (do
      let rows ← exportRecord record
      let later ← exportRecords header rest position
      .ok (rows ++ later)) := by
  rw [exportRecords]
  split
  · rename_i same
    rw [found] at same
    cases same
  · rename_i same
    rw [found] at same
    cases same
  rename_i same
  rw [found] at same
  cases same
  rfl

theorem exportRecords_end (found : nextRecord header bytes offset = .ok none) :
    exportRecords header bytes offset = .ok [] := by
  rw [exportRecords]
  split
  · rename_i same
    rw [found] at same
    cases same
  · rfl
  · rename_i same
    rw [found] at same
    cases same

/-- The records of a manifest are exported with its lines. -/
theorem exportRecords_ok {reconstructed : Option CaptureWindowManifest} {count total : UInt64}
    (done : reconstruct header bytes offset ledger reconstructed count = .ok (some value, total))
    (here : account.LeftBy ledger reconstructed)
    (exportable : ∀ record ∈ recordsIn header bytes offset, record.Exportable) :
    ∃ rows, exportRecords header bytes offset = .ok rows ∧
      Exported (recordsIn header bytes offset) account value.account rows := by
  fun_induction reconstruct header bytes offset ledger reconstructed count generalizing account with
  | case1 bytes offset ledger reconstructed count error found => cases done
  | case2 bytes offset ledger reconstructed count found =>
    cases done
    refine ⟨[], exportRecords_end found, ?_⟩
    rw [recordsIn_end found, show value.account = account from here]
    exact .nil account
  | case3 bytes offset ledger reconstructed count record rest position found already => cases done
  | case4 bytes offset ledger reconstructed count record rest position found open_ overflow =>
    cases done
  | case5 bytes offset ledger reconstructed count record rest position found open_ next counted
      error failed => cases done
  | case6 bytes offset ledger reconstructed count record rest position found open_ next counted
      manifest after committed ih =>
    obtain rfl : reconstructed = none := Option.not_isSome_iff_eq_none.mp open_
    obtain ⟨meets, rfl⟩ := here
    have records := recordsIn_of_nextRecord found
    rw [records] at exportable ⊢
    obtain ⟨first, later⟩ := List.forall_mem_cons.mp exportable
    obtain ⟨starts, left⟩ := leftBy_committed committed meets
    have here : ledger.account.next = ledger.nextCursor.toNat := rfl
    obtain ⟨rows, exported, front⟩ :=
      exportRecord_ok (bytes_of_nextRecord found).1 first starts here
    obtain ⟨others, done, back⟩ := ih done left later
    refine ⟨rows ++ others, ?_, front.append back⟩
    rw [exportRecords_of_nextRecord found, exported, ok_bind, done, ok_bind]

theorem exportable_of_exportRecords (done : exportRecords header bytes offset = .ok rows) :
    ∀ record ∈ recordsIn header bytes offset, record.Exportable := by
  fun_induction recordsIn header bytes offset generalizing rows with
  | case1 bytes offset record rest position found ih =>
    rw [exportRecords_of_nextRecord found] at done
    obtain ⟨front, first, done⟩ := bind_eq_ok.mp done
    obtain ⟨others, later, -⟩ := bind_eq_ok.mp done
    exact List.forall_mem_cons.mpr ⟨exportable_of_exportRecord first, ih later⟩
  | case2 bytes offset other => exact nofun

/-- What a validation has found. -/
theorem validateCaptureSegment_eq_ok {disk : CaptureDisk} {ordinal : UInt64}
    (valid : validateCaptureSegment disk ordinal = .ok validation) :
    ∃ wal header total, disk.lookup (.wal ordinal) = some wal ∧
      ¬ wal.content.length < fileHeaderBytes ∧
      decodeFileHeader (wal.content.take fileHeaderBytes) = .ok header ∧
      header.firstCursor = validation.manifest.firstCursor ∧
      reconstruct header (wal.content.drop fileHeaderBytes) fileHeaderBytes
        (.new header.windowPolicy header.hardwareId header.bootEpoch header.firstCursor
          header.firstWindowOrdinal) none 0 = .ok (some validation.manifest, total) := by
  rw [validateCaptureSegment] at valid
  split at valid
  · cases valid
  obtain ⟨manifest, -, valid⟩ := bind_eq_ok.mp valid
  split at valid
  · cases valid
  rename_i wal found
  obtain ⟨long, valid⟩ := guard_eq_ok.mp valid
  obtain ⟨header, decoded, valid⟩ := bind_eq_ok.mp valid
  obtain ⟨same, valid⟩ := guard_eq_ok.mp valid
  obtain ⟨⟨reconstructed, total⟩, rebuilt, valid⟩ := bind_eq_ok.mp valid
  dsimp only at valid
  split at valid
  · cases valid
  obtain ⟨equal, valid⟩ := guard_eq_ok.mp valid
  cases valid
  obtain rfl := not_not.mp equal
  simp only [not_or, not_not] at same
  exact ⟨wal, header, total, found, long, mapError_eq_ok.mp decoded, same.2.2.1, rebuilt⟩

variable {disk : CaptureDisk} {ordinal : UInt64}

/-- A validated log is exported. -/
theorem exportLog_ok (valid : validateCaptureSegment disk ordinal = .ok validation)
    (exportable : ∀ record ∈ disk.recordsOf ordinal, record.Exportable) :
    ∃ rows, exportLog disk ordinal = .ok rows ∧
      Exported (disk.recordsOf ordinal) ⟨validation.manifest.firstCursor.toNat, 0, 0, 0⟩
        validation.manifest.account rows := by
  obtain ⟨wal, header, total, found, long, decoded, first, rebuilt⟩ :=
    validateCaptureSegment_eq_ok valid
  have records : disk.recordsOf ordinal =
      recordsIn header (wal.content.drop fileHeaderBytes) fileHeaderBytes := by
    have read : disk.read (.wal ordinal) = wal.content := by
      rw [CaptureDisk.read, found]
      rfl
    rw [CaptureDisk.recordsOf, read]
    simp only [decoded]
  rw [records] at exportable ⊢
  have start : (⟨validation.manifest.firstCursor.toNat, 0, 0, 0⟩ : StreamAccount).LeftBy
      (.new header.windowPolicy header.hardwareId header.bootEpoch header.firstCursor
        header.firstWindowOrdinal) none := by
    refine ⟨by rintro _ ⟨⟩, ?_⟩
    rw [← first]
    rfl
  obtain ⟨rows, done, exported⟩ := exportRecords_ok rebuilt start exportable
  refine ⟨rows, ?_, exported⟩
  rw [exportLog, found]
  dsimp only
  rw [if_neg long, decoded]
  exact done

theorem exportable_of_exportLog (done : exportLog disk ordinal = .ok rows) :
    ∀ record ∈ disk.recordsOf ordinal, record.Exportable := by
  rw [exportLog] at done
  split at done
  · cases done
  rename_i wal found
  obtain ⟨-, done⟩ := guard_eq_ok.mp done
  obtain ⟨header, decoded, done⟩ := bind_eq_ok.mp done
  have read : disk.read (.wal ordinal) = wal.content := by
    rw [CaptureDisk.read, found]
    rfl
  rw [CaptureDisk.recordsOf, read]
  simp only [mapError_eq_ok.mp decoded]
  exact exportable_of_exportRecords done

end SensorSystem.Host
