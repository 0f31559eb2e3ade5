import SensorSystem.Host.Capture.CaptureExport
import SensorSystem.Host.Capture.CaptureSegments

/-! `capture_export.rs`: the check of every sealed window of one stream, and the export of its
records as lines of CSV files. -/

namespace SensorSystem.Host

open Base

structure CaptureExportSummary where
  windowCount : UInt64
  sampleCount : UInt64
  missingSampleCount : UInt64
  continuityBreakCount : UInt64
  firstCursor : SequenceCursor
  endExclusive : SequenceCursor
deriving DecidableEq

variable (disk : CaptureDisk)

/-- `discover_ordinals`. A manifest or a temporary file is not named like a log. -/
def CaptureDisk.discoverOrdinals : Except CaptureExportError (List UInt64) := do
  let found ← (disk.files.keys.mapM fun file => segmentOrdinal file.name).mapError
    fun _ => .invalidWindowName
  let ordinals := (found.filterMap id).insertionSort (· ≤ ·)
  if ordinals.IsChain fun previous next => next = saturatingSucc previous then .ok ordinals
  else .error .nonConsecutiveWindows

/-- What the loops over the windows carry from one to the next. -/
structure CaptureChainState where
  firstManifest : Option CaptureWindowManifest := none
  previous : Option CaptureWindowManifest := none
  totalSamples : UInt64 := 0
  totalMissing : UInt64 := 0
  totalBreaks : UInt64 := 0

namespace CaptureChainState

/-- The window behind `prior` goes on where it ends. -/
def Joins (prior manifest : CaptureWindowManifest) : Prop :=
  manifest.windowOrdinal = saturatingSucc prior.windowOrdinal ∧
    manifest.hardwareId = prior.hardwareId ∧ manifest.bootEpoch = prior.bootEpoch ∧
      manifest.firstCursor = prior.endExclusive

instance (prior manifest : CaptureWindowManifest) : Decidable (Joins prior manifest) :=
  inferInstanceAs (Decidable (_ ∧ _))

/-- The checks of one window. -/
def validateWindow (disk : CaptureDisk) (state : CaptureChainState) (ordinal : UInt64) :
    Except CaptureExportError CaptureWindowManifest := do
  let validation ← (validateCaptureSegment disk ordinal).mapError .segment
  if validation.manifest.windowOrdinal ≠ ordinal then .error .nonConsecutiveWindows
  else if state.previous.all (Joins · validation.manifest) then .ok validation.manifest
  else .error .nonConsecutiveWindows

def count (total value : UInt64) : Except CaptureExportError UInt64 :=
  match checkedAdd total value with
  | none => .error .counterOverflow
  | some total => .ok total

variable (state : CaptureChainState)

/-- The window is counted and becomes the previous one. -/
def append (manifest : CaptureWindowManifest) : Except CaptureExportError CaptureChainState := do
  let totalSamples ← count state.totalSamples manifest.sampleCount
  let totalMissing ← count state.totalMissing manifest.missingSampleCount
  let totalBreaks ← count state.totalBreaks manifest.continuityBreakCount
  .ok { firstManifest := some (state.firstManifest.getD manifest), previous := some manifest,
        totalSamples, totalMissing, totalBreaks }

def summary (windowCount : Nat) : Except CaptureExportError CaptureExportSummary :=
  match state.firstManifest, state.previous with
  | some first, some last =>
    .ok ⟨UInt64.ofNat windowCount, state.totalSamples, state.totalMissing, state.totalBreaks,
      first.firstCursor, last.endExclusive⟩
  | _, _ => .error .noWindows

end CaptureChainState

/-- The loop of `validate_capture_ordinals`. -/
def validateWindows (disk : CaptureDisk) :
    CaptureChainState → List UInt64 → Except CaptureExportError CaptureChainState
  | state, [] => .ok state
  | state, ordinal :: rest => do
    let manifest ← state.validateWindow disk ordinal
    let state ← state.append manifest
    validateWindows disk state rest

def validateCaptureOrdinals (ordinals : List UInt64) :
    Except CaptureExportError CaptureExportSummary :=
  if ordinals = [] then .error .noWindows
  else do
    let state ← validateWindows disk {} ordinals
    state.summary ordinals.length

def validateCaptureChain : Except CaptureExportError CaptureExportSummary := do
  let ordinals ← disk.discoverOrdinals
  validateCaptureOrdinals disk ordinals

/-- A line of `samples.csv`. -/
structure CsvSample where
  cursor : SequenceCursor
  axes : SampleAxes
  configRevision : UInt32
  timingSegmentId : UInt32
  deviceTimeUsEstimate : UInt64
  maxFitResidualUs : UInt32
  timingQualityFlags : UInt16
deriving DecidableEq

/-- A line of `events.csv`: the cursor, the event, its count and its reason. -/
inductive CsvEvent where
  | gap (cursor : SequenceCursor) (count : UInt64) (reason : GapReason)
  | continuityBreak (cursor : SequenceCursor) (reason : ContinuityBreakReason)
deriving DecidableEq

/-- A line of `windows.csv`. -/
structure CsvWindow where
  windowOrdinal : UInt64
  firstCursor : SequenceCursor
  endExclusive : SequenceCursor
  sampleCount : UInt64
  missingSampleCount : UInt64
  continuityBreakCount : UInt64
deriving DecidableEq

/-- A line in the file of its kind. -/
inductive CsvRow where
  | sample (row : CsvSample)
  | event (row : CsvEvent)
deriving DecidableEq

def CsvRow.sample? : CsvRow → Option CsvSample
  | sample row => some row
  | event _ => none

def CsvRow.event? : CsvRow → Option CsvEvent
  | sample _ => none
  | event row => some row

/-- What `metadata.json` tells besides its fixed texts. -/
structure CsvMetadata where
  hardwareId : HardwareId
  bootEpoch : BootEpoch
  summary : CaptureExportSummary
deriving DecidableEq

/-- What the writers hold: the lines in the order they are written. -/
structure CaptureCsv where
  rows : List CsvRow := []
  windows : List CsvWindow := []
deriving DecidableEq

def CaptureCsv.samples (csv : CaptureCsv) : List CsvSample := csv.rows.filterMap CsvRow.sample?

def CaptureCsv.events (csv : CaptureCsv) : List CsvEvent := csv.rows.filterMap CsvRow.event?

def CsvWindow.of (manifest : CaptureWindowManifest) : CsvWindow where
  windowOrdinal := manifest.windowOrdinal
  firstCursor := manifest.firstCursor
  endExclusive := manifest.endExclusive
  sampleCount := manifest.sampleCount
  missingSampleCount := manifest.missingSampleCount
  continuityBreakCount := manifest.continuityBreakCount

/-- The line of one sample of a chunk. -/
def exportSample (chunk : SampleChunk) (sample : SampleAxes) (index : Nat) :
    Except CaptureExportError CsvRow :=
  match checkedAdd chunk.header.first (UInt64.ofNat index) with
  | none => .error .counterOverflow
  | some cursor => do
    let deviceTime ← interpolateDeviceTime chunk.timing.firstDeviceTimeUs
      chunk.timing.lastDeviceTimeUs chunk.samples.length index
    .ok (.sample {
      cursor
      axes := sample
      configRevision := chunk.configRevision
      timingSegmentId := chunk.timing.segmentId
      deviceTimeUsEstimate := deviceTime
      maxFitResidualUs := chunk.timing.maxFitResidualUs
      timingQualityFlags := chunk.timing.qualityFlags })

/-- The lines of the samples from an index on. -/
def exportSamples (chunk : SampleChunk) :
    List SampleAxes → Nat → Except CaptureExportError (List CsvRow)
  | [], _ => .ok []
  | sample :: rest, index => do
    let row ← exportSample chunk sample index
    let rows ← exportSamples chunk rest (index + 1)
    .ok (row :: rows)

def exportRecord : CaptureRecord → Except CaptureExportError (List CsvRow)
  | .sampleChunk chunk => exportSamples chunk chunk.samples 0
  | .gap gap => .ok [.event (.gap gap.firstMissing gap.missingCount gap.reason)]
  | .continuityBreak observed => .ok [.event (.continuityBreak observed.at_ observed.reason)]
  | .windowSeal => .ok []

/-- The loop over the records of a log. -/
def exportRecords (header : CaptureWalHeader) (bytes : List UInt8) (offset : Nat) :
    Except CaptureExportError (List CsvRow) :=
  match _ : nextRecord header bytes offset with
  | .error error => .error (.wal error)
  | .ok none => .ok []
  | .ok (some (record, rest, position)) => do
    let rows ← exportRecord record
    let later ← exportRecords header rest position
    .ok (rows ++ later)
termination_by bytes.length
decreasing_by exact nextRecord_shorter ‹_›

/-- A log that was validated is opened once more and its records are exported. -/
def exportLog (ordinal : UInt64) : Except CaptureExportError (List CsvRow) :=
  match disk.lookup (.wal ordinal) with
  | none => .error (.io .notFound)
  | some wal =>
    if wal.content.length < fileHeaderBytes then .error (.wal .truncatedFileHeader)
    else do
      let header ← (decodeFileHeader (wal.content.take fileHeaderBytes)).mapError .wal
      exportRecords header (wal.content.drop fileHeaderBytes) fileHeaderBytes

/-- The loop of `export_into`. -/
def exportWindows (disk : CaptureDisk) : CaptureChainState → CaptureCsv → List UInt64 →
    Except CaptureExportError (CaptureChainState × CaptureCsv)
  | state, csv, [] => .ok (state, csv)
  | state, csv, ordinal :: rest => do
    let manifest ← state.validateWindow disk ordinal
    let rows ← exportLog disk ordinal
    let state ← state.append manifest
    exportWindows disk state ⟨csv.rows ++ rows, csv.windows ++ [.of manifest]⟩ rest

/-- The parts of the metadata come from the first window. -/
def exportMetadata (state : CaptureChainState) (summary : CaptureExportSummary) :
    Except CaptureExportError CsvMetadata :=
  match state.firstManifest with
  | none => .error .noWindows
  | some first => .ok ⟨first.hardwareId, first.bootEpoch, summary⟩

def exportInto : Except CaptureExportError (CaptureExportSummary × CaptureCsv × CsvMetadata) := do
  let ordinals ← disk.discoverOrdinals
  if ordinals = [] then .error .noWindows
  else do
    let (state, csv) ← exportWindows disk {} {} ordinals
    let summary ← state.summary ordinals.length
    let metadata ← exportMetadata state summary
    .ok (summary, csv, metadata)

/-- `export_capture_csv`; what a failed export has written is removed. -/
def exportCaptureCsv (outputExists : Bool) :
    Except CaptureExportError (CaptureExportSummary × CaptureCsv × CsvMetadata) :=
  if outputExists then .error .outputExists else exportInto disk

end SensorSystem.Host
