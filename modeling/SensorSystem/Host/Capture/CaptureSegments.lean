import SensorSystem.Host.Capture.CaptureDisk
import SensorSystem.Host.Capture.CaptureWalRuns

/-! `capture_segments.rs`: a stream is a row of capture logs, one window in each. The file that
holds the open window is written; a sealed one gets a manifest before the next file is created. A
call returns its result with the disk it leaves and the disks it passed, one for each file
operation. -/

namespace SensorSystem.Host

open Base
open Framing (crc32c)

/-- A disk and the disks before it, where a crash may have come in between. -/
structure CaptureFiles where
  disk : CaptureDisk
  passed : List CaptureDisk := []

namespace CaptureFiles

def perform (files : CaptureFiles) (operation : CaptureDisk → CaptureDisk) : CaptureFiles where
  disk := operation files.disk
  passed := files.passed ++ [files.disk]

/-- Every disk that a crash can find. -/
def visited (files : CaptureFiles) : List CaptureDisk :=
  files.passed ++ [files.disk]

end CaptureFiles

/-- The result of a call and the files it leaves. -/
abbrev SegmentResult (α : Type) := Except CaptureSegmentError α × CaptureFiles

def segmentWal {α : Type} (result : Except CaptureWalError α) : Except CaptureSegmentError α :=
  result.mapError .wal

/-- `CaptureWalSink::open` on the file of an ordinal. -/
def openSegment (ordinal : UInt64) (config : CaptureWalConfig) (files : CaptureFiles) :
    SegmentResult CaptureWalSink :=
  if config.bootEpoch = 0 then (.error (.wal .zeroBootEpoch), files)
  else
    let file := CaptureFile.wal ordinal
    let files := if (files.disk.lookup file).isNone then files.perform (·.create file) else files
    let files :=
      if (files.disk.read file).length = 0 then
        ((files.perform (·.writeHeader file (fileHeader config))).perform (·.sync file)).perform
          (·.syncDirectory)
      else files
    match CaptureWalSink.openFile (files.disk.read file) config with
    | .error error => (.error (.wal error), files)
    | .ok (sink, valid) =>
      (.ok sink,
        if valid.length = (files.disk.read file).length then files
        else (files.perform (·.setLength file valid.length)).perform (·.sync file))

variable (manifest : CaptureWindowManifest)

def validateSegmentManifest (ordinal : UInt64) (firstCursor durableCursor : SequenceCursor) :
    Except CaptureSegmentError Unit :=
  if manifest.windowOrdinal ≠ ordinal then
    .error (.manifestOrdinalMismatch ordinal manifest.windowOrdinal)
  else if manifest.firstCursor ≠ firstCursor then .error .manifestFirstCursorMismatch
  else if manifest.endExclusive ≠ durableCursor then .error (.dataAfterSealedWindow ordinal)
  else .ok ()

def publishManifest (files : CaptureFiles) : SegmentResult Unit :=
  let destination := CaptureFile.manifest manifest.windowOrdinal
  match files.disk.lookup destination with
  | some existing =>
    (match readCaptureManifest existing.content with
      | .error error => .error error
      | .ok found =>
        if found = manifest then .ok () else .error (.manifestConflict manifest.windowOrdinal),
      files)
  | none =>
    let temporary := CaptureFile.temporary manifest.windowOrdinal
    (.ok (),
      ((((files.perform (·.create temporary)).perform
        (·.append temporary (encodeManifest manifest))).perform (·.sync temporary)).perform
          (·.rename temporary destination)).perform (·.syncDirectory))

/-- `CaptureWalReader::next_record` behind an offset, with what is left. -/
def nextRecord (header : CaptureWalHeader) (bytes : List UInt8) (offset : Nat) :
    Except CaptureWalError (Option (CaptureRecord × List UInt8 × Nat)) :=
  if bytes.length = 0 then .ok none
  else if bytes.length < recordPrefixBytes then .error (.incompleteRecord offset)
  else
    let bodyLength := (readU32 bytes 0).toNat
    if ¬ (minRecordBodyBytes ≤ bodyLength ∧ bodyLength ≤ maxRecordBodyBytes) then
      .error (.invalidRecordLength offset bodyLength)
    else if offset + recordPrefixBytes + bodyLength ≥ 2 ^ 64 then .error .lengthOverflow
    else if recordPrefixBytes + bodyLength > bytes.length then .error (.incompleteRecord offset)
    else
      let body := slice bytes recordPrefixBytes bodyLength
      let dataLength := bodyLength - recordCrcBytes
      if crc32c (body.take dataLength) ≠ readU32 body dataLength then
        .error (.recordChecksumMismatch offset)
      else
        (fun record => some (record, bytes.drop (recordPrefixBytes + bodyLength),
          offset + recordPrefixBytes + bodyLength)) <$>
            decodeRecord (body.take dataLength) header.hardwareId header.bootEpoch

theorem nextRecord_shorter {header : CaptureWalHeader} {bytes rest : List UInt8}
    {offset position : Nat} {record : CaptureRecord}
    (found : nextRecord header bytes offset = .ok (some (record, rest, position))) :
    rest.length < bytes.length := by
  rw [nextRecord] at found
  split at found
  · cases found
  rename_i nonempty
  obtain ⟨-, found⟩ := guard_eq_ok.mp found
  obtain ⟨-, found⟩ := guard_eq_ok.mp found
  obtain ⟨-, found⟩ := guard_eq_ok.mp found
  obtain ⟨-, found⟩ := guard_eq_ok.mp found
  obtain ⟨-, found⟩ := guard_eq_ok.mp found
  obtain ⟨decoded, -, same⟩ := map_eq_ok.mp found
  cases same
  rw [List.length_drop, recordPrefixBytes]
  omega

/-- A record planned and committed at once, as the reader does. -/
def CaptureRecord.committed (hardwareId : HardwareId) (ledger : CaptureWindowLedger) :
    CaptureRecord → CaptureWindowLedger.Applied
  | .sampleChunk chunk => ledger.planChunk hardwareId chunk >>= ledger.commit
  | .gap value => ledger.planGap value >>= ledger.commit
  | .continuityBreak observed => ledger.planContinuityBreak observed >>= ledger.commit
  | .windowSeal => ledger.finish

/-- The loop of `validate_capture_segment`. -/
def reconstruct (header : CaptureWalHeader) (bytes : List UInt8) (offset : Nat)
    (ledger : CaptureWindowLedger) (reconstructed : Option CaptureWindowManifest)
    (recordCount : UInt64) : Except CaptureSegmentError (Option CaptureWindowManifest × UInt64) :=
  match _ : nextRecord header bytes offset with
  | .error error => .error (.wal error)
  | .ok none => .ok (reconstructed, recordCount)
  | .ok (some (record, rest, position)) =>
    if reconstructed.isSome then .error .recordAfterSeal
    else match checkedAdd recordCount 1 with
      | none => .error .counterOverflow
      | some recordCount =>
        match record.committed header.hardwareId ledger with
        | .error error => .error (.window error)
        | .ok (reconstructed, ledger) =>
          reconstruct header rest position ledger reconstructed recordCount
termination_by bytes.length
decreasing_by exact nextRecord_shorter ‹_›

structure CaptureSegmentValidation where
  manifest : CaptureWindowManifest
  recordCount : UInt64

/-- `validate_capture_segment` on the files of an ordinal. -/
def validateCaptureSegment (disk : CaptureDisk) (ordinal : UInt64) :
    Except CaptureSegmentError CaptureSegmentValidation :=
  match disk.lookup (.manifest ordinal), disk.lookup (.wal ordinal) with
  | none, _ => .error (.io .notFound)
  | some stored, wal => do
    let manifest ← readCaptureManifest stored.content
    match wal with
    | none => .error (.io .notFound)
    | some wal =>
      if wal.content.length < fileHeaderBytes then .error (.wal .truncatedFileHeader)
      else
        let header ← segmentWal (decodeFileHeader (wal.content.take fileHeaderBytes))
        if header.hardwareId ≠ manifest.hardwareId ∨ header.bootEpoch ≠ manifest.bootEpoch ∨
            header.firstCursor ≠ manifest.firstCursor ∨
            header.firstWindowOrdinal ≠ manifest.windowOrdinal then
          .error .walManifestIdentityMismatch
        else
          let ledger := CaptureWindowLedger.new header.windowPolicy header.hardwareId
            header.bootEpoch header.firstCursor header.firstWindowOrdinal
          let (reconstructed, recordCount) ← reconstruct header
            (wal.content.drop fileHeaderBytes) fileHeaderBytes ledger none 0
          match reconstructed with
          | none => .error .missingSeal
          | some reconstructed =>
            if reconstructed ≠ manifest then .error .manifestDoesNotMatchWal
            else .ok ⟨manifest, recordCount⟩

structure CaptureSegmentStream where
  baseConfig : CaptureWalConfig
  currentOrdinal : UInt64
  current : CaptureWalSink

/-- The base configuration moved to another segment. -/
def CaptureWalConfig.at_ (config : CaptureWalConfig) (recoveredCursor : SequenceCursor)
    (firstWindowOrdinal : UInt64) : CaptureWalConfig :=
  { config with recoveredCursor, firstWindowOrdinal }

namespace CaptureSegmentStream

def durableCursor (stream : CaptureSegmentStream) : SequenceCursor :=
  stream.current.recovery.durableCursor

/-- The loop of `open` over the ordinals that are left. -/
def openSegments (base : CaptureWalConfig) (expectedOrdinal : UInt64)
    (expectedCursor : SequenceCursor) :
    List UInt64 → CaptureFiles → SegmentResult CaptureSegmentStream
  | [], files => (.error .missingCurrentSegment, files)
  | ordinal :: rest, files =>
    if ordinal ≠ expectedOrdinal then
      (.error (.nonConsecutiveSegment expectedOrdinal ordinal), files)
    else match openSegment ordinal (base.at_ expectedCursor ordinal) files with
      | (.error error, files) => (.error error, files)
      | (.ok sink, files) =>
        if sink.recovery.sealedWindowCount = 0 then
          if rest ≠ [] then (.error (.unsealedSegmentBeforeSuccessor ordinal), files)
          else if (files.disk.lookup (.manifest ordinal)).isSome then
            (.error (.manifestForUnsealedSegment ordinal), files)
          else (.ok ⟨base, expectedOrdinal, sink⟩, files)
        else if sink.recovery.sealedWindowCount = 1 then
          match sink.recovery.lastSealedWindow with
          | none => (.error .missingRecoveredManifest, files)
          | some manifest =>
            match validateSegmentManifest manifest ordinal expectedCursor
                sink.recovery.durableCursor with
            | .error error => (.error error, files)
            | .ok () =>
              match publishManifest manifest files with
              | (.error error, files) => (.error error, files)
              | (.ok (), files) =>
                match checkedAdd expectedOrdinal 1 with
                | none => (.error .ordinalOverflow, files)
                | some next =>
                  if rest = [] then
                    match openSegment next (base.at_ manifest.endExclusive next) files with
                    | (.error error, files) => (.error error, files)
                    | (.ok sink, files) => (.ok ⟨base, next, sink⟩, files)
                  else openSegments base next manifest.endExclusive rest files
        else
          (.error (.multipleWindowsInSegment ordinal sink.recovery.sealedWindowCount), files)

/-- `open` on a directory that exists. -/
def openStream (base : CaptureWalConfig) (files : CaptureFiles) :
    SegmentResult CaptureSegmentStream :=
  let files := files.perform (·.syncDirectory)
  match files.disk.discoverSegmentOrdinals with
  | .error error => (.error error, files)
  | .ok [] =>
    match openSegment base.firstWindowOrdinal base files with
    | (.error error, files) => (.error error, files)
    | (.ok sink, files) => (.ok ⟨base, base.firstWindowOrdinal, sink⟩, files)
  | .ok ordinals =>
    openSegments base base.firstWindowOrdinal base.recoveredCursor ordinals files

/-- What a call on a stream returns, with the stream and the files it leaves. -/
abbrev Outcome (α : Type) := Except CaptureSegmentError α × CaptureSegmentStream × CaptureFiles

/-- The loop of `rotate_if_needed`, with at most as many rounds as ordinals. -/
def rotateLoop : Nat → CaptureSegmentStream → CaptureFiles → Outcome Unit
  | 0, stream, files => (.error .ordinalOverflow, stream, files)
  | rounds + 1, stream, files =>
    let recovery := stream.current.recovery
    if recovery.sealedWindowCount = 0 then (.ok (), stream, files)
    else if recovery.sealedWindowCount = 1 then
      match recovery.lastSealedWindow with
      | none => (.error .missingRecoveredManifest, stream, files)
      | some manifest =>
        match validateSegmentManifest manifest manifest.windowOrdinal manifest.firstCursor
            recovery.durableCursor with
        | .error error => (.error error, stream, files)
        | .ok () =>
          match publishManifest manifest files with
          | (.error error, files) => (.error error, stream, files)
          | (.ok (), files) =>
            match checkedAdd manifest.windowOrdinal 1 with
            | none => (.error .ordinalOverflow, stream, files)
            | some next =>
              match openSegment next (stream.baseConfig.at_ manifest.endExclusive next) files with
              | (.error error, files) => (.error error, stream, files)
              | (.ok sink, files) =>
                rotateLoop rounds { stream with currentOrdinal := next, current := sink } files
    else
      let ordinal := (recovery.lastSealedWindow.map (·.windowOrdinal)).getD
        stream.baseConfig.firstWindowOrdinal
      (.error (.multipleWindowsInSegment ordinal recovery.sealedWindowCount), stream, files)

variable (stream : CaptureSegmentStream)

def rotateIfNeeded (files : CaptureFiles) : Outcome Unit :=
  rotateLoop (2 ^ 64) stream files

/-- `write_and_sync` on the file of the open window. -/
def writeAndSync (bytes : List UInt8) (files : CaptureFiles) : CaptureFiles :=
  let file := CaptureFile.wal stream.currentOrdinal
  (files.perform (·.append file bytes)).perform (·.sync file)

/-- `begin_batch`, the records staged one by one, and `commit_batch`. -/
def persist (items : List CaptureItem) (files : CaptureFiles) : Outcome (List CaptureRecord) :=
  match stream.rotateIfNeeded files with
  | (.error error, stream, files) => (.error error, stream, files)
  | (.ok (), stream, files) =>
    let (_, records, batch) := stream.current.beginBatch.stageAll items
    match stream.current.commitBatch batch (files.disk.read (.wal stream.currentOrdinal)) with
    | .error error => (.error (.wal error), stream, files)
    | .ok (sink, _) =>
      (.ok records, { stream with current := sink }, stream.writeAndSync batch.bytes files)

def finishWindow (stream : CaptureSegmentStream) (files : CaptureFiles) :
    Outcome (Option CaptureWindowManifest) :=
  match stream.rotateIfNeeded files with
  | (.error error, stream, files) => (.error error, stream, files)
  | (.ok (), stream, files) =>
    match stream.current.finishWindow (files.disk.read (.wal stream.currentOrdinal)) with
    | .error error => (.error (.wal error), stream, files)
    | .ok (none, _, _) => (.ok none, stream, files)
    | .ok (some manifest, sink, _) =>
      let files := stream.writeAndSync (wrapRecord .windowSeal []) files
      match publishManifest manifest files with
      | (.error error, files) => (.error error, { stream with current := sink }, files)
      | (.ok (), files) => (.ok (some manifest), { stream with current := sink }, files)

end CaptureSegmentStream
end SensorSystem.Host
