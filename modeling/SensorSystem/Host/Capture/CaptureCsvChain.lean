import SensorSystem.Host.Capture.CaptureCsvRows

/-! What the files of an export hold of the logs of a directory. The validation takes two anchors
around one sample, the interpolation does not, and this is all that stands between a directory
that is accepted and its export. -/

namespace SensorSystem.Host

open Base List UInt64

/-- The records in the logs that an export goes through. -/
def CaptureDisk.exportedRecords (disk : CaptureDisk) : List CaptureRecord :=
  match disk.discoverOrdinals with
  | .error _ => []
  | .ok ordinals => ordinals.flatMap disk.recordsOf

namespace CaptureChainState

/-- How far the windows have come that are counted. -/
def account (start : SequenceCursor) (state : CaptureChainState) : StreamAccount where
  next := ((state.previous.map (·.endExclusive)).getD start).toNat
  samples := state.totalSamples.toNat
  missing := state.totalMissing.toNat
  breaks := state.totalBreaks.toNat

/-- The first window is kept from the first one on. -/
def Paired (state : CaptureChainState) : Prop :=
  state.previous = none ↔ state.firstManifest = none

variable {disk : CaptureDisk} {state next : CaptureChainState} {ordinal : UInt64}
  {manifest : CaptureWindowManifest}

theorem validateWindow_eq_ok (done : state.validateWindow disk ordinal = .ok manifest) :
    ∃ validation, validateCaptureSegment disk ordinal = .ok validation ∧
      validation.manifest = manifest ∧ ∀ prior ∈ state.previous, Joins prior manifest := by
  obtain ⟨validation, valid, done⟩ := bind_eq_ok.mp done
  obtain ⟨-, done⟩ := guard_eq_ok.mp done
  split at done
  · rename_i joins
    cases done
    refine ⟨validation, mapError_eq_ok.mp valid, rfl, ?_⟩
    intro prior before
    rw [Option.mem_def.mp before] at joins
    simpa using joins
  · cases done

theorem count_eq_ok {total value after : UInt64} (done : count total value = .ok after) :
    after.toNat = total.toNat + value.toNat := by
  rw [count] at done
  split at done
  · cases done
  · rename_i sum
    cases done
    exact (checkedAdd_eq_some.mp sum).symm

/-- What the append of a window changes. -/
structure Appends (state : CaptureChainState) (manifest : CaptureWindowManifest)
    (next : CaptureChainState) : Prop where
  first : next.firstManifest = some (state.firstManifest.getD manifest)
  previous : next.previous = some manifest
  samples : next.totalSamples.toNat = state.totalSamples.toNat + manifest.sampleCount.toNat
  missing : next.totalMissing.toNat = state.totalMissing.toNat + manifest.missingSampleCount.toNat
  breaks : next.totalBreaks.toNat = state.totalBreaks.toNat + manifest.continuityBreakCount.toNat

theorem appends_of_append (done : state.append manifest = .ok next) :
    state.Appends manifest next := by
  obtain ⟨samples, sampled, done⟩ := bind_eq_ok.mp done
  obtain ⟨missing, missed, done⟩ := bind_eq_ok.mp done
  obtain ⟨breaks, broken, done⟩ := bind_eq_ok.mp done
  cases done
  exact ⟨rfl, rfl, count_eq_ok sampled, count_eq_ok missed, count_eq_ok broken⟩

/-- The lines of a window go on where the windows before it end. -/
theorem Appends.exported {records : List CaptureRecord} {rows : List CsvRow}
    {start : SequenceCursor} (appends : state.Appends manifest next)
    (joins : ∀ prior ∈ state.previous, Joins prior manifest)
    (starts : state.previous = none → manifest.firstCursor = start)
    (exported : Exported records ⟨manifest.firstCursor.toNat, 0, 0, 0⟩ manifest.account rows) :
    Exported records (state.account start) (next.account start) rows := by
  have here : (state.account start).next = manifest.firstCursor.toNat := by
    rw [account]
    cases before : state.previous with
    | none => exact congrArg UInt64.toNat (starts before).symm
    | some prior => exact congrArg UInt64.toNat (joins prior before).2.2.2.symm
  have there : next.account start = ⟨manifest.endExclusive.toNat,
      (state.account start).samples + manifest.sampleCount.toNat,
      (state.account start).missing + manifest.missingSampleCount.toNat,
      (state.account start).breaks + manifest.continuityBreakCount.toNat⟩ := by
    refine StreamAccount.ext ?_ appends.samples appends.missing appends.breaks
    rw [account, appends.previous]
    rfl
  exact there ▸ exported.shift here

end CaptureChainState

variable {disk : CaptureDisk} {state last : CaptureChainState} {ordinals : List UInt64}
  {first : CaptureWindowManifest} {after before : StreamAccount} {records : List CaptureRecord}
  {rows : List CsvRow}

/-- The first window stays the first one. -/
theorem firstManifest_of_validateWindows (done : validateWindows disk state ordinals = .ok last)
    (found : state.firstManifest = some first) : last.firstManifest = some first := by
  induction ordinals generalizing state with
  | nil =>
    cases done
    exact found
  | cons ordinal rest ih =>
    obtain ⟨manifest, -, done⟩ := bind_eq_ok.mp done
    obtain ⟨next, appended, done⟩ := bind_eq_ok.mp done
    refine ih done ?_
    rw [(CaptureChainState.appends_of_append appended).first, found, Option.getD_some]

theorem exportWindows_ok (paired : state.Paired)
    (done : validateWindows disk state ordinals = .ok last)
    (starts : last.firstManifest = some first)
    (exportable : ∀ record ∈ ordinals.flatMap disk.recordsOf, record.Exportable)
    (csv : CaptureCsv) : ∃ rows windows, exportWindows disk state csv ordinals =
        .ok (last, ⟨csv.rows ++ rows, csv.windows ++ windows⟩) ∧
      windows.length = ordinals.length ∧
      Exported (ordinals.flatMap disk.recordsOf) (state.account first.firstCursor)
        (last.account first.firstCursor) rows := by
  induction ordinals generalizing state csv with
  | nil =>
    cases done
    refine ⟨[], [], ?_, rfl, .nil _⟩
    rw [exportWindows, append_nil, append_nil]
  | cons ordinal rest ih =>
    obtain ⟨manifest, window, behind⟩ := bind_eq_ok.mp done
    obtain ⟨next, appended, onwards⟩ := bind_eq_ok.mp behind
    rw [flatMap_cons] at exportable ⊢
    obtain ⟨here, later⟩ := forall_mem_append.mp exportable
    obtain ⟨validation, valid, rfl, joins⟩ := CaptureChainState.validateWindow_eq_ok window
    have appends := CaptureChainState.appends_of_append appended
    have begins : state.previous = none →
        validation.manifest.firstCursor = first.firstCursor := by
      intro fresh
      have kept := appends.first
      rw [paired.mp fresh, Option.getD_none] at kept
      have same := firstManifest_of_validateWindows onwards kept
      rw [starts] at same
      cases same
      rfl
    have after : next.Paired := by
      rw [CaptureChainState.Paired, appends.first, appends.previous]
      simp only [reduceCtorEq]
    obtain ⟨rows, exported, front⟩ := exportLog_ok valid here
    obtain ⟨others, windows, exports, length, back⟩ :=
      ih after onwards later ⟨csv.rows ++ rows, csv.windows ++ [.of validation.manifest]⟩
    refine ⟨rows ++ others, .of validation.manifest :: windows, ?_, congrArg (· + 1) length,
      (appends.exported joins begins front).append back⟩
    rw [exportWindows, window, ok_bind, exported, ok_bind, appended, ok_bind, exports,
      append_assoc, append_assoc, singleton_append]

theorem exportable_of_exportWindows {csv : CaptureCsv} {written : CaptureChainState × CaptureCsv}
    (done : exportWindows disk state csv ordinals = .ok written) :
    ∀ record ∈ ordinals.flatMap disk.recordsOf, record.Exportable := by
  induction ordinals generalizing state csv with
  | nil => exact nofun
  | cons ordinal rest ih =>
    obtain ⟨manifest, -, done⟩ := bind_eq_ok.mp done
    obtain ⟨rows, exported, done⟩ := bind_eq_ok.mp done
    obtain ⟨next, -, done⟩ := bind_eq_ok.mp done
    rw [flatMap_cons]
    exact forall_mem_append.mpr ⟨exportable_of_exportLog exported, ih done⟩

/-- The lines of both files are those that were written. -/
theorem CaptureCsv.perm_rows (csv : CaptureCsv) :
    csv.rows.Perm (csv.samples.map .sample ++ csv.events.map .event) := by
  rw [samples, events]
  generalize csv.rows = rows
  induction rows with
  | nil => exact .refl _
  | cons row rows ih =>
    cases row with
    | sample row => exact .cons _ ih
    | event row => exact (Perm.cons _ ih).trans perm_middle.symm

/-- An export holds every cursor of the directory once, in order. -/
structure ExportsOnce (disk : CaptureDisk) (summary : CaptureExportSummary) (csv : CaptureCsv) :
    Prop where
  partitions : Partitions CsvRow.first CsvRow.stop summary.firstCursor.toNat
    summary.endExclusive.toNat (csv.samples.map .sample ++ csv.events.map .event)
  samplesOrdered : csv.samples.Pairwise fun earlier later => earlier.cursor < later.cursor
  eventsOrdered : csv.events.Pairwise fun earlier later =>
    earlier.cursor.toNat + earlier.count ≤ later.cursor.toNat
  sampled : csv.samples.map (fun row => (row.cursor, row.axes)) =
    disk.exportedRecords.flatMap CaptureRecord.sampled
  windows : summary.windowCount = ofNat csv.windows.length
  sampleCount : summary.sampleCount.toNat = csv.samples.length
  missingSampleCount : summary.missingSampleCount.toNat = (csv.events.map CsvEvent.missing).sum
  continuityBreakCount : summary.continuityBreakCount.toNat =
    (csv.events.map CsvEvent.breaks).sum

theorem Exported.samplesOrdered (exported : Exported records before after rows) :
    (rows.filterMap CsvRow.sample?).Pairwise fun earlier later =>
      earlier.cursor < later.cursor := by
  refine exported.tiles.pairwise.filterMap CsvRow.sample? ?_
  rintro (one | one) (other | other) apart _ ⟨⟩ _ ⟨⟩
  exact lt_iff_toNat_lt.mpr apart

theorem Exported.eventsOrdered (exported : Exported records before after rows) :
    (rows.filterMap CsvRow.event?).Pairwise fun earlier later =>
      earlier.cursor.toNat + earlier.count ≤ later.cursor.toNat := by
  refine exported.tiles.pairwise.filterMap CsvRow.event? ?_
  rintro (one | one) (other | other) apart _ ⟨⟩ _ ⟨⟩
  exact apart

theorem validateCaptureChain_eq_ok {summary : CaptureExportSummary}
    (valid : validateCaptureChain disk = .ok summary) :
    ∃ ordinals last first final, disk.discoverOrdinals = .ok ordinals ∧ ordinals ≠ [] ∧
      validateWindows disk {} ordinals = .ok last ∧ last.firstManifest = some first ∧
      last.previous = some final ∧ last.summary ordinals.length = .ok summary ∧
      summary = ⟨ofNat ordinals.length, last.totalSamples, last.totalMissing,
        last.totalBreaks, first.firstCursor, final.endExclusive⟩ := by
  obtain ⟨ordinals, found, valid⟩ := bind_eq_ok.mp valid
  obtain ⟨nonempty, valid⟩ := guard_eq_ok.mp valid
  obtain ⟨last, windows, valid⟩ := bind_eq_ok.mp valid
  have summarised := valid
  rw [CaptureChainState.summary] at valid
  split at valid
  · rename_i first final starts ends
    cases valid
    exact ⟨ordinals, last, first, final, found, nonempty, windows, starts, ends, summarised, rfl⟩
  · cases valid

/-- A directory that was accepted is exported, and then every cursor once, when no chunk of one
sample lies between two anchors. -/
theorem capture_export_exactly_once (disk : CaptureDisk) (summary : CaptureExportSummary)
    (valid : validateCaptureChain disk = .ok summary) :
    (∃ csv metadata, exportCaptureCsv disk false = .ok (summary, csv, metadata) ∧
      ExportsOnce disk summary csv) ↔
    ∀ record ∈ disk.exportedRecords, record.Exportable := by
  obtain ⟨ordinals, last, first, final, found, nonempty, windows, starts, ends, summarised, same⟩ :=
    validateCaptureChain_eq_ok valid
  have records : disk.exportedRecords = ordinals.flatMap disk.recordsOf := by
    rw [CaptureDisk.exportedRecords, found]
  have unfolded : exportCaptureCsv disk false = exportWindows disk {} {} ordinals >>= fun written =>
      written.1.summary ordinals.length >>= fun summary =>
        exportMetadata written.1 summary >>= fun metadata =>
          .ok (summary, written.2, metadata) := by
    rw [exportCaptureCsv, if_neg (by decide), exportInto, found, ok_bind, if_neg nonempty]
  rw [records, unfolded]
  constructor
  · rintro ⟨csv, metadata, done, -⟩
    obtain ⟨written, exported, -⟩ := bind_eq_ok.mp done
    exact exportable_of_exportWindows exported
  intro exportable
  obtain ⟨rows, lines, exported, length, once⟩ :=
    exportWindows_ok (iff_of_true rfl rfl) windows starts exportable {}
  refine ⟨⟨[] ++ rows, [] ++ lines⟩, ⟨first.hardwareId, first.bootEpoch, summary⟩, ?_, ?_⟩
  · rw [exported, ok_bind]
    rw [summarised, ok_bind, exportMetadata, starts]
    rfl
  have finish : (last.account first.firstCursor).next = final.endExclusive.toNat := by
    rw [CaptureChainState.account, ends]
    rfl
  have tiles := once.tiles
  rw [finish] at tiles
  subst same
  exact {
    partitions := (Partitions.of_tiles tiles).perm (CaptureCsv.perm_rows ⟨rows, lines⟩)
    samplesOrdered := once.samplesOrdered
    eventsOrdered := once.eventsOrdered
    sampled := once.sampled.trans (congrArg _ records.symm)
    windows := congrArg UInt64.ofNat length.symm
    sampleCount := once.samples.trans (Nat.zero_add _)
    missingSampleCount := once.missing.trans (Nat.zero_add _)
    continuityBreakCount := once.breaks.trans (Nat.zero_add _) }

def loneChunk (last : UInt64) : SampleChunk where
  header := ⟨1, 0, 10, 0, 1⟩
  configRevision := 1
  timing := ⟨1, 100, last, 0, 0⟩
  samples := [⟨.zero, .zero, .zero⟩]

def loneWindow : CaptureWindowManifest where
  hardwareId := Vector.replicate 8 7
  bootEpoch := 1
  windowOrdinal := 0
  firstCursor := 0
  endExclusive := 1
  firstSampleCursor := some 0
  lastSampleCursor := some 0
  sampleCount := 1
  missingSampleCount := 0
  continuityBreakCount := 0
  sealReason := .explicitFinish

/-- One sealed window that holds one sample between the anchors 100 and `last`. -/
def loneDirectory (last : UInt64) : CaptureDisk :=
  (CaptureDisk.empty.put (.wal 0)
    ⟨walBytes CaptureWal.firstCapture [.sampleChunk (loneChunk last), .windowSeal], 0⟩).put
      (.manifest 0) ⟨encodeManifest loneWindow, 0⟩

theorem capture_export_exactly_once_lone : ∃ csv metadata,
      exportCaptureCsv (loneDirectory 100) false = .ok (⟨1, 1, 0, 0, 0, 1⟩, csv, metadata) ∧
        ExportsOnce (loneDirectory 100) ⟨1, 1, 0, 0, 0, 1⟩ csv :=
  (capture_export_exactly_once (loneDirectory 100) ⟨1, 1, 0, 0, 0, 1⟩ (by decide +kernel)).mpr
    (by decide +kernel)

/-- Without the flag of a valid timing two anchors may lie around one sample; the validation
takes it and the export does not. -/
theorem capture_export_refuses_accepted :
    validateCaptureChain (loneDirectory 101) = .ok ⟨1, 1, 0, 0, 0, 1⟩ ∧
      exportCaptureCsv (loneDirectory 101) false = .error .invalidTiming := by
  decide +kernel

end SensorSystem.Host
