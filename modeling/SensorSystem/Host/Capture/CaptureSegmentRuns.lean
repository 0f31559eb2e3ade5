import SensorSystem.Host.Capture.CaptureSegmentCalls
import SensorSystem.Host.Capture.CaptureWalCrash

/-! A process opens its stream, persists records and seals windows. It can crash between any two
file operations of a call, also while it opens. A crash is a loss of power: what it leaves of the
files is on the disk for good. -/

namespace SensorSystem.Host

open CaptureDisk CaptureSegmentStream List
open Base

inductive CaptureCall where
  | openStream
  | persist (items : List CaptureItem)
  | finishWindow

/-- A process and its disk. The stream is gone after a crash. -/
structure CaptureProcess where
  stream : Option CaptureSegmentStream
  disk : CaptureDisk

/-- What a call leaves, and the records it committed. -/
structure CaptureEffect where
  stream : Option CaptureSegmentStream
  files : CaptureFiles
  committed : List CaptureRecord

namespace CaptureProcess

def call (base : CaptureWalConfig) (process : CaptureProcess) : CaptureCall → CaptureEffect
  | .openStream =>
    match openStream base ⟨process.disk, []⟩ with
    | (.error _, files) => ⟨none, files, []⟩
    | (.ok stream, files) => ⟨some stream, files, []⟩
  | .persist items =>
    match process.stream with
    | none => ⟨none, ⟨process.disk, []⟩, []⟩
    | some stream =>
      let (result, next, files) := stream.persist items ⟨process.disk, []⟩
      ⟨some next, files, committedBy result⟩
  | .finishWindow =>
    match process.stream with
    | none => ⟨none, ⟨process.disk, []⟩, []⟩
    | some stream =>
      let (result, next, files) := stream.finishWindow ⟨process.disk, []⟩
      ⟨some next, files, sealedBy result⟩

/-- The states of a process that starts with an empty directory. -/
inductive Reachable (base : CaptureWalConfig) : CaptureProcess → Prop
  | new : Reachable base ⟨none, .empty⟩
  | returns {process : CaptureProcess} (reached : Reachable base process) (call : CaptureCall) :
      Reachable base
        ⟨(process.call base call).stream, (process.call base call).files.disk⟩
  | crashes {process : CaptureProcess} (reached : Reachable base process) (call : CaptureCall)
      {found left : CaptureDisk} (visited : found ∈ (process.call base call).files.visited)
      (crashed : found.Crashed left) : Reachable base ⟨none, left⟩

end CaptureProcess

/-- A stream that goes on behind the records on its disk. -/
structure Continues (base : CaptureWalConfig) (records : List CaptureRecord)
    (stream : CaptureSegmentStream) (disk : CaptureDisk) : Prop where
  /-- The records are still there. -/
  kept : disk.wholeRecords = records
  /-- They determine the ledger, and with it the cursor and the ordinal. -/
  ledger : ledgerAfter base.hardwareId base.initial.1 records = .ok stream.current.ledger
  cursor : stream.durableCursor = stream.current.ledger.nextCursor
  ordinal : stream.currentOrdinal = stream.current.ledger.nextWindowOrdinal
  /-- The last log holds no seal. -/
  unsealed : stream.current.recovery.sealedWindowCount = 0
  unpublished : disk.lookup (.manifest stream.currentOrdinal) = none
  /-- The logs before it are sealed, published and valid, and join each other. -/
  sealed : ∃ manifests : List CaptureWindowManifest,
    disk.discoverSegmentOrdinals =
      .ok (manifests.map (·.windowOrdinal) ++ [stream.currentOrdinal]) ∧
    (manifests.map (·.windowOrdinal) ++ [stream.currentOrdinal]).map UInt64.toNat =
      range' base.firstWindowOrdinal.toNat (manifests.length + 1) ∧
    (∀ manifest ∈ manifests, ∃ count,
      validateCaptureSegment disk manifest.windowOrdinal = .ok ⟨manifest, count⟩) ∧
    (manifests.IsChain fun earlier later => earlier.relationTo later = .ok .contiguous) ∧
    (∀ manifest ∈ manifests.head?, manifest.firstCursor = base.recoveredCursor) ∧
    disk.read (.wal stream.currentOrdinal) =
      walBytes (base.at_ ((manifests.getLast?.map (·.endExclusive)).getD base.recoveredCursor)
        stream.currentOrdinal) (disk.recordsOf stream.currentOrdinal)

variable {base config : CaptureWalConfig} {disk : CaptureDisk} {sealed : List StoredSegment}
  {records log : List CaptureRecord} {stream : CaptureSegmentStream}

theorem AtRest.wholeRecords (rest : AtRest base disk sealed config records) :
    disk.wholeRecords = sealed.flatMap (·.records) ++ records := by
  have openable := rest.held.chain.openable rest.held.openable
  have others : ∀ segment ∈ sealed,
      disk.recordsOf segment.manifest.windowOrdinal = segment.records := by
    intro segment member
    obtain ⟨file, found, content, -⟩ := rest.held.segment segment member
    obtain ⟨state, window⟩ := rest.held.chain.sealed member
    have openable : Openable segment.config := by
      rw [rest.held.chain.stream.2 segment member]
      exact Chain.openable_at rest.held.openable _ _
    exact recordsOf_written openable window.window.storable window.window.bounded
      (.inl rfl) found (content.trans (append_nil _).symm)
  have last : (currentOrdinals disk config).flatMap disk.recordsOf = records := by
    have resting := rest.file
    generalize found : disk.lookup (.wal config.firstWindowOrdinal) = file at resting
    rw [currentOrdinals, found]
    cases resting with
    | absent => rfl
    | empty =>
      have none : disk.read (.wal config.firstWindowOrdinal) = [] := by
        rw [CaptureDisk.read, found]
        rfl
      rw [if_neg (by rintro ⟨⟩), flatMap_singleton, recordsOf, none]
      rfl
    | written window unsealed proper =>
      rw [if_neg (by rintro ⟨⟩), flatMap_singleton]
      exact recordsOf_written openable window.storable window.bounded proper found rfl
  rw [CaptureDisk.wholeRecords, rest.held.discover]
  simp only
  rw [flatMap_append, flatMap_map, last]
  exact congrArg (· ++ records) (flatMap_congr others)

theorem Holds.wholeRecords (holds : Holds base disk log) : disk.wholeRecords = log := by
  obtain ⟨sealed, config, records, rest, same⟩ := holds
  rw [same, rest.wholeRecords]

variable (opened : StreamOpened base disk sealed config records stream)

include opened

theorem StreamOpened.ledger :
    ledgerAfter base.hardwareId base.initial.1 (sealed.flatMap (·.records) ++ records) =
      .ok stream.current.ledger := by
  have own := opened.opened
  have same : config.hardwareId = base.hardwareId := by
    rw [own.held.chain.stream.1]
    rfl
  refine ledgerAfter_append.mpr ⟨_, own.held.chain.ledger, ?_⟩
  rw [← same]
  exact ledgerAfter_of_replay own.window.replayed

/-- The manifests of the sealed segments are valid. -/
theorem StreamOpened.validated (published : Published disk sealed) {segment : StoredSegment}
    (member : segment ∈ sealed) :
    ∃ count, validateCaptureSegment disk segment.manifest.windowOrdinal =
      .ok ⟨segment.manifest, count⟩ := by
  have held := opened.opened.held
  obtain ⟨wal, found, content, -⟩ := held.segment segment member
  obtain ⟨state, window⟩ := held.chain.sealed member
  obtain ⟨stored, there⟩ := Option.ne_none_iff_exists'.mp (published segment member)
  obtain ⟨other, present, same, encoded, -⟩ :=
    held.manifests _ _ (held.chain.ordinal_ge member) there
  cases held.chain.manifest_eq present member same
  have openable : Openable segment.config := by
    rw [held.chain.stream.2 segment member]
    exact Chain.openable_at held.openable _ _
  exact validateCaptureSegment_sealed openable window found content there encoded

omit opened

/-- A chain ends where the next segment starts. -/
theorem Chain.start_eq (chain : Chain base sealed config) :
    config.recoveredCursor = (((sealed.map (·.manifest)).getLast?.map (·.endExclusive)).getD
      base.recoveredCursor) := by
  cases last : sealed.getLast? with
  | none =>
    cases getLast?_eq_none_iff.mp last
    rw [chain.eq_of_nil]
    rfl
  | some segment =>
    rw [getLast?_map, last]
    exact (chain.ends.2 segment last).symm

theorem StreamOpened.continues (opened : StreamOpened base disk sealed config records stream)
    (published : Published disk sealed) :
    Continues base (sealed.flatMap (·.records) ++ records) stream disk := by
  have own := opened.opened
  have held := own.held
  have there : currentOrdinals disk config = [stream.currentOrdinal] := by
    rw [currentOrdinals, own.file, opened.currentOrdinal]
    rfl
  have state := own.sound.state
  obtain ⟨consecutive, free⟩ := held.chain.ordinals
  exact {
    kept := own.rest.wholeRecords
    ledger := opened.ledger
    cursor := state.cursor
    ordinal := opened.currentOrdinal.trans (own.window.ordinal_of_open own.unsealed).1.symm
    unsealed := own.unsealed
    unpublished := by
      rw [opened.currentOrdinal]
      by_contra found
      obtain ⟨file, found⟩ := Option.ne_none_iff_exists'.mp found
      obtain ⟨segment, member, same, -⟩ := held.manifests _ _ held.chain.first_le found
      exact held.fresh member same
    sealed := by
      refine ⟨sealed.map (·.manifest), ?_, ?_, ?_, held.chain.contiguous, ?_, ?_⟩
      · rw [held.discover, there, map_map]
        rfl
      · rw [map_append, map_map, map_map, length_map,
          range'_concat, ← consecutive, opened.currentOrdinal, Nat.one_mul, ← free]
        rfl
      · intro manifest member
        obtain ⟨segment, stored, rfl⟩ := mem_map.mp member
        exact opened.validated published stored
      · intro manifest first
        rw [head?_map] at first
        obtain ⟨segment, front, rfl⟩ := Option.mem_map.mp first
        exact held.chain.ends.1 segment front
      · have records : disk.recordsOf stream.currentOrdinal = records := by
          rw [opened.currentOrdinal]
          exact recordsOf_written (held.chain.openable held.openable)
            own.window.storable own.window.bounded (.inl rfl) own.file (append_nil _).symm
        rw [records, opened.read, ← held.chain.start_eq, opened.currentOrdinal,
          ← held.chain.stream.1] }

namespace CaptureProcess

variable {process : CaptureProcess}

/-- The records of a process, which its stream goes on from. -/
def Keeps (base : CaptureWalConfig) (process : CaptureProcess) (log : List CaptureRecord) : Prop :=
  match process.stream with
  | none => Holds base process.disk log
  | some stream => Attached base process.disk stream log

theorem Keeps.holds (keeps : Keeps base process log) : Holds base process.disk log := by
  rw [Keeps] at keeps
  split at keeps
  · exact keeps
  · exact keeps.holds

/-- One call: what a crash can find on the way, and what it leaves. -/
theorem Keeps.call (keeps : Keeps base process log) (call : CaptureCall) :
    let effect := process.call base call
    effect.files.Pass (Between base log (log ++ effect.committed)) ∧
      Keeps base ⟨effect.stream, effect.files.disk⟩ (log ++ effect.committed) := by
  obtain ⟨stream, disk⟩ := process
  have holds := keeps.holds
  have still : CaptureFiles.Pass ⟨disk, []⟩ (Between base log (log ++ [])) := by
    rw [append_nil]
    exact .start (holds.between prefix_rfl prefix_rfl)
  cases call with
  | openStream =>
    obtain ⟨sealed, config, records, rest, same⟩ := holds
    obtain ⟨opened, files, done, pass, streamOpened, -⟩ := openStream_rest rest
    simp only [CaptureProcess.call, done, append_nil]
    refine ⟨pass.weaken fun disk rest => ?_, ?_⟩
    · exact Holds.between ⟨_, _, _, rest, same⟩ prefix_rfl prefix_rfl
    · rw [same]
      exact .opened streamOpened
  | persist items =>
    cases stream with
    | none =>
      refine ⟨still, ?_⟩
      change Holds base disk (log ++ [])
      rwa [append_nil]
    | some stream => exact persist_attached keeps items
  | finishWindow =>
    cases stream with
    | none =>
      refine ⟨still, ?_⟩
      change Holds base disk (log ++ [])
      rwa [append_nil]
    | some stream => exact finishWindow_attached keeps

theorem Reachable.keeps (openable : Openable base) (reached : Reachable base process) :
    ∃ log, Keeps base process log := by
  induction reached with
  | new =>
    have held : Held base .empty [] base :=
      ⟨openable, .nil base, nofun, nofun, nofun, fun ordinal found => absurd rfl found⟩
    exact ⟨[], [], base, [], ⟨held, .absent, fun _ => rfl⟩, rfl⟩
  | returns _ call ih =>
    obtain ⟨log, keeps⟩ := ih
    exact ⟨_, (keeps.call call).2⟩
  | crashes _ call visited crashed ih =>
    obtain ⟨log, keeps⟩ := ih
    obtain ⟨kept, -, -, holds⟩ := (keeps.call call).1 _ visited _ crashed
    exact ⟨kept, holds⟩

/-- The operations that create the log of an ordinal. -/
def createLog (config : CaptureWalConfig) (files : CaptureFiles) : CaptureFiles :=
  let file := CaptureFile.wal config.firstWindowOrdinal
  (((files.perform (·.create file)).perform (·.writeHeader file (fileHeader config))).perform
    (·.sync file)).perform (·.syncDirectory)

theorem lookup_createLog (files : CaptureFiles) (other : CaptureFile) :
    (createLog config files).disk.lookup other =
      if other = .wal config.firstWindowOrdinal then
        some ⟨fileHeader config, (fileHeader config).length⟩
      else files.disk.lookup other := by
  have header : ((files.disk.create (.wal config.firstWindowOrdinal)).writeHeader
      (.wal config.firstWindowOrdinal) (fileHeader config)).lookup
        (.wal config.firstWindowOrdinal) = some ⟨fileHeader config, (fileHeader config).length⟩ :=
    (lookup_put _ _ _ _).trans (if_pos rfl)
  refine (lookup_sync header other).trans ?_
  split
  · rfl
  rename_i different
  refine (lookup_put _ _ _ _).trans ((if_neg different).trans ?_)
  exact (lookup_put _ _ _ _).trans (if_neg different)

theorem discover_empty : empty.syncDirectory.discoverSegmentOrdinals = .ok [] :=
  discoverSegmentOrdinals_eq .nil fun _ => ⟨nofun, fun found => absurd rfl found⟩

/-- The first open of a directory. -/
theorem openStream_empty (epoch : base.bootEpoch ≠ 0) :
    let written := createLog base (CaptureFiles.perform ⟨.empty, []⟩ (·.syncDirectory))
    openStream base ⟨.empty, []⟩ =
      match CaptureWalSink.openFile (fileHeader base) base with
      | .error error => (.error (.wal error), written)
      | .ok (sink, valid) =>
        (.ok ⟨base, base.firstWindowOrdinal, sink⟩,
          if valid.length = (fileHeader base).length then written
          else (written.perform (·.setLength (.wal base.firstWindowOrdinal) valid.length)).perform
            (·.sync (.wal base.firstWindowOrdinal))) := by
  intro written
  let files : CaptureFiles := CaptureFiles.perform ⟨.empty, []⟩ (·.syncDirectory)
  have nothing : files.disk.discoverSegmentOrdinals = .ok [] := discover_empty
  have absent : files.disk.lookup (.wal base.firstWindowOrdinal) = none := rfl
  have empty : ((files.perform (·.create (.wal base.firstWindowOrdinal))).disk.read
      (.wal base.firstWindowOrdinal)).length = 0 := by
    have created : (files.perform (·.create (.wal base.firstWindowOrdinal))).disk.lookup
        (.wal base.firstWindowOrdinal) = some ⟨[], 0⟩ :=
      (lookup_put _ _ _ _).trans (if_pos rfl)
    rw [CaptureDisk.read, created]
    rfl
  have header : written.disk.read (.wal base.firstWindowOrdinal) = fileHeader base := by
    rw [CaptureDisk.read, lookup_createLog, if_pos rfl]
    rfl
  simp only [written, createLog] at header
  rw [openStream]
  simp only [files] at nothing absent empty
  simp only [nothing, openSegment, if_neg epoch, absent, Option.isNone_none, if_true, empty, header]
  cases CaptureWalSink.openFile (fileHeader base) base <;> rfl

/-- A base that opens a stream in an empty directory can have logs. -/
theorem openable_of_openStream {first : CaptureSegmentStream}
    (opened : (openStream base ⟨.empty, []⟩).1 = .ok first) :
    Openable base := by
  by_cases epoch : base.bootEpoch = 0
  · have nothing : (CaptureFiles.perform ⟨.empty, []⟩
        (·.syncDirectory)).disk.discoverSegmentOrdinals = .ok [] := discover_empty
    rw [openStream] at opened
    simp only [nothing, openSegment, if_pos epoch] at opened
    cases opened
  rw [openStream_empty epoch] at opened
  cases done : CaptureWalSink.openFile (fileHeader base) base with
  | error error =>
    rw [done] at opened
    cases opened
  | ok result => exact openable_of_openFile done

/-- A stream commits the items it is asked to store when it refuses none of them.
Wherever a call is cut off by a crash, the records from before the call are there, with
some of those that the call commits, from the first on. Opening the directory again
succeeds and goes on behind exactly these records. -/
theorem reopening_continues {first : CaptureSegmentStream}
    (opened : (CaptureSegmentStream.openStream base ⟨.empty, []⟩).1 = .ok first)
    (reached : Reachable base process) (call : CaptureCall) {found left : CaptureDisk}
    (visited : found ∈ (process.call base call).files.visited) (crashed : found.Crashed left) :
    let effect := process.call base call
    (∀ stream items, process.stream = some stream → items ≠ [] →
      ∃ rotated after, stream.rotateIfNeeded ⟨process.disk, []⟩ = (.ok (), rotated, after) ∧
        ∀ batch, items.foldlM CaptureWalBatch.stage rotated.current.beginBatch = .ok batch →
          rotated.current.durableLen + batch.bytes.length < 2 ^ 64 →
            (process.call base (.persist items)).committed = items.map (·.record)) ∧
    effect.files.disk.wholeRecords = process.disk.wholeRecords ++ effect.committed ∧
      process.disk.wholeRecords <+: left.wholeRecords ∧
      left.wholeRecords <+: effect.files.disk.wholeRecords ∧
      ∃ stream files, CaptureSegmentStream.openStream base ⟨left, []⟩ = (.ok stream, files) ∧
        Continues base left.wholeRecords stream files.disk := by
  obtain ⟨log, keeps⟩ := reached.keeps (openable_of_openStream opened)
  obtain ⟨pass, after⟩ := keeps.call call
  obtain ⟨kept, before, within, holds⟩ := pass found visited left crashed
  obtain ⟨sealed, config, records, rest, same⟩ := holds
  obtain ⟨stream, files, done, -, streamOpened, published⟩ := openStream_rest rest
  intro effect
  have survivors : left.wholeRecords = kept := by rw [same, rest.wholeRecords]
  have whole : effect.files.disk.wholeRecords = log ++ effect.committed := after.holds.wholeRecords
  rw [whole, keeps.holds.wholeRecords, survivors]
  refine ⟨?_, rfl, before, within, stream, files, done, ?_⟩
  · intro stream items running some
    obtain ⟨own, disk⟩ := process
    cases running
    obtain ⟨rotated, files, moved, accepted⟩ := CaptureSegmentStream.persist_commits keeps some
    refine ⟨rotated, files, moved, fun batch staged fits => ?_⟩
    simp only [CaptureProcess.call, accepted batch staged fits]
    rfl
  · rw [same]
    exact streamOpened.continues published

/-- Only the log of an ordinal is there, and all of it is synced. -/
structure LoneLog (disk : CaptureDisk) (ordinal : UInt64) (content : List UInt8) : Prop where
  lookup : ∀ file, disk.lookup file =
    if file = .wal ordinal then some ⟨content, content.length⟩ else none
  linked : disk.unlinked = []

namespace LoneLog

variable {content : List UInt8} {files : CaptureFiles} {ordinal : UInt64}

theorem createLog : LoneLog (CaptureProcess.createLog config
    (CaptureFiles.perform ⟨.empty, []⟩ (·.syncDirectory))).disk config.firstWindowOrdinal
      (fileHeader config) :=
  ⟨fun file => lookup_createLog _ file, rfl⟩

/-- A crash may leave the directory as it is. -/
theorem crashed (lone : LoneLog disk ordinal content) : disk.Crashed disk where
  kept file stored found := by
    refine ⟨stored, found, ?_, stored.synced, le_rfl, ?_⟩
    all_goals
      rw [lone.lookup] at found
      split at found
    · cases found
      rfl
    · cases found
    · cases found
      exact take_length.symm
    · cases found
  lost file none some := absurd none some
  linked := lone.linked

theorem writeAndSync (lone : LoneLog files.disk stream.currentOrdinal content)
    (bytes : List UInt8) :
    LoneLog (stream.writeAndSync bytes files).disk stream.currentOrdinal (content ++ bytes) := by
  let file := CaptureFile.wal stream.currentOrdinal
  have there : files.disk.lookup file = some ⟨content, content.length⟩ :=
    (lone.lookup file).trans (if_pos rfl)
  have appended : (files.disk.append file bytes).lookup file =
      some ⟨content ++ bytes, content.length⟩ := (lookup_append there bytes file).trans (if_pos rfl)
  constructor
  · intro other
    refine (lookup_sync appended other).trans ?_
    split
    · rfl
    rename_i different
    rw [lookup_append there, if_neg different, lone.lookup, if_neg different]
  · change ((files.disk.append file bytes).sync file).unlinked = []
    rw [CaptureDisk.sync, appended, CaptureDisk.append, there]
    exact lone.linked

theorem wholeRecords (openable : Openable config)
    (storable : ∀ record ∈ records, record.Storable config)
    (bounded : (walBytes config records).length < 2 ^ 64)
    (lone : LoneLog disk ordinal (walBytes config records)) :
    disk.wholeRecords = records := by
  have found : disk.discoverSegmentOrdinals = .ok [ordinal] := by
    refine discoverSegmentOrdinals_eq (pairwise_singleton _ _) fun other => ?_
    rw [mem_singleton, lone.lookup]
    split <;> simp_all
  have there : disk.lookup (.wal ordinal) = some ⟨walBytes config records, _⟩ :=
    (lone.lookup _).trans (if_pos rfl)
  rw [CaptureDisk.wholeRecords, found]
  exact (flatMap_singleton _ _).trans
    (recordsOf_written openable storable bounded (.inl rfl) there (append_nil _).symm)

end LoneLog

theorem persist_unsealed {items : List CaptureItem} {replies : CaptureWalReplies}
    {batch : CaptureWalBatch} {sink : CaptureWalSink} {files : CaptureFiles} {left : List UInt8}
    (unsealed : stream.current.recovery.sealedWindowCount = 0)
    (staged : stream.current.beginBatch.stageAll items = (replies, records, batch))
    (committed : stream.current.commitBatch batch (files.disk.read (.wal stream.currentOrdinal)) =
      .ok (sink, left)) :
    stream.persist items files =
      (.ok records, { stream with current := sink }, stream.writeAndSync batch.bytes files) := by
  rw [CaptureSegmentStream.persist, rotateIfNeeded_unsealed files unsealed]
  simp only [staged, committed]

/-- A window is sealed before its manifest is there. -/
theorem finishWindow_unsealed {manifest : CaptureWindowManifest} {sink : CaptureWalSink}
    {files : CaptureFiles} {left : List UInt8}
    (unsealed : stream.current.recovery.sealedWindowCount = 0)
    (finished : stream.current.finishWindow (files.disk.read (.wal stream.currentOrdinal)) =
      .ok (some manifest, sink, left)) :
    let sealing := stream.writeAndSync CaptureRecord.windowSeal.bytes files
    sealing.disk.lookup (.manifest manifest.windowOrdinal) = none →
      ∃ after, stream.finishWindow files =
        (.ok (some manifest), { stream with current := sink }, after) ∧
          sealing.disk ∈ after.visited := by
  intro sealing unpublished
  have published : ∃ after, publishManifest manifest sealing = (.ok (), after) ∧
      sealing.disk ∈ after.visited := by
    simp only [publishManifest, unpublished]
    refine ⟨_, rfl, ?_⟩
    simp [CaptureFiles.visited, CaptureFiles.perform]
  obtain ⟨after, published, visited⟩ := published
  have published : publishManifest manifest (stream.writeAndSync (wrapRecord .windowSeal [])
      files) = (.ok (), after) := published
  refine ⟨after, ?_, visited⟩
  rw [CaptureSegmentStream.finishWindow, rotateIfNeeded_unsealed files unsealed]
  simp only [finished]
  rw [published]

open CaptureWal (firstCapture)

theorem firstBreak_bounded : (0 : SequenceCursor).toNat + 1 < 2 ^ 64 := by decide

def firstBreak : ContinuityBreak :=
  ⟨firstCapture.hardwareId, firstCapture.bootEpoch, 0, .processingReset, firstBreak_bounded⟩

def firstSink (ledger : CaptureWindowLedger) (recovery : CaptureWalRecovery) (durableLen : Nat) :
    CaptureWalSink :=
  ⟨firstCapture.hardwareId, firstCapture.bootEpoch, ledger, recovery, durableLen⟩

/-- A break opens a window, and the window can be sealed. -/
theorem stage_firstBreak (durableLen : Nat) :
    let sink := firstSink firstCapture.initial.1 firstCapture.initial.2 durableLen
    ∃ batch, sink.beginBatch.stage (.continuityBreak firstBreak) = .ok batch ∧
      batch.bytes = (CaptureRecord.continuityBreak firstBreak).bytes ∧
      batch.recovery.sealedWindowCount = 0 ∧
      (∀ file, durableLen + batch.bytes.length < 2 ^ 64 → ∃ left,
        sink.commitBatch batch file =
          .ok (firstSink batch.ledger batch.recovery (durableLen + batch.bytes.length), left)) ∧
      ∀ length file, length + CaptureRecord.windowSeal.bytes.length < 2 ^ 64 →
        ∃ manifest last left, (firstSink batch.ledger batch.recovery length).finishWindow file =
          .ok (some manifest, last, left) := by
  refine ⟨_, rfl, rfl, rfl, fun file fits =>
    ⟨file ++ (CaptureRecord.continuityBreak firstBreak).bytes, ?_⟩, fun length file fits =>
    ⟨_, _, _, if_neg (Nat.not_le_of_lt fits)⟩⟩
  have fresh : ∀ {α β : Type} (a : α) (b : β), ¬ (a ≠ a ∨ b ≠ b) := by simp
  exact (if_neg (by decide : ¬ (1 : UInt64) = 0)).trans
    ((if_neg (fresh _ _)).trans (if_neg (Nat.not_le_of_lt fits)))

theorem openStream_firstCapture : openStream firstCapture ⟨.empty, []⟩ =
    (.ok ⟨firstCapture, 0, firstSink firstCapture.initial.1 firstCapture.initial.2
      (walBytes firstCapture []).length⟩,
      createLog firstCapture (CaptureFiles.perform ⟨.empty, []⟩ (·.syncDirectory))) := by
  have openable : Openable firstCapture := openable_of_nonzero (by decide) (by decide)
  have opened := openFile_torn openable (forall_mem_nil _)
    (CaptureWal.bounded_walBytes_nil firstCapture) (.inl rfl) rfl
  rw [append_nil, walBytes, flatMap_nil, append_nil] at opened
  rw [openStream_empty openable.epoch, opened]
  simp only [if_true]
  rw [recoveredSink, walBytes, flatMap_nil, append_nil]
  rfl

/-- A break is stored and its window sealed. Power is lost before the manifest of the
window is there. -/
theorem reopening_continues_firstCapture :
    let opened := call firstCapture ⟨none, .empty⟩ .openStream
    let stored := call firstCapture ⟨opened.stream, opened.files.disk⟩
      (.persist [.continuityBreak firstBreak])
    let closed := call firstCapture ⟨stored.stream, stored.files.disk⟩ .finishWindow
    ∃ found ∈ closed.files.visited, found.lookup (.manifest 0) = none ∧ found.Crashed found ∧
      found.wholeRecords = [.continuityBreak firstBreak, .windowSeal] ∧
      ∃ stream files, openStream firstCapture ⟨found, []⟩ = (.ok stream, files) ∧
        Continues firstCapture found.wholeRecords stream files.disk := by
  let written := createLog firstCapture (CaptureFiles.perform ⟨.empty, []⟩ (·.syncDirectory))
  let length := (walBytes firstCapture []).length
  let stream : CaptureSegmentStream :=
    ⟨firstCapture, 0, firstSink firstCapture.initial.1 firstCapture.initial.2 length⟩
  have first : openStream firstCapture ⟨.empty, []⟩ = (.ok stream, written) :=
    openStream_firstCapture
  obtain ⟨batch, staged, bytes, unsealed, commits, seals⟩ := stage_firstBreak length
  let records : List CaptureRecord := [.continuityBreak firstBreak, .windowSeal]
  have parts : walBytes firstCapture [] ++ batch.bytes ++ CaptureRecord.windowSeal.bytes =
      walBytes firstCapture records := by
    rw [walBytes, walBytes, flatMap_nil, append_nil, flatMap_cons, flatMap_singleton, bytes,
      append_assoc]
  have bounded : (walBytes firstCapture records).length < 2 ^ 64 := by
    rw [length_walBytes, flatMap_cons, flatMap_singleton, length_append,
      CaptureRecord.length_bytes, CaptureRecord.length_bytes]
    decide
  have whole : length + batch.bytes.length + CaptureRecord.windowSeal.bytes.length < 2 ^ 64 := by
    simpa only [length, ← length_append, parts] using bounded
  let next : CaptureSegmentStream :=
    ⟨firstCapture, 0, firstSink batch.ledger batch.recovery (length + batch.bytes.length)⟩
  let appended := stream.writeAndSync batch.bytes ⟨written.disk, []⟩
  let sealing := next.writeAndSync CaptureRecord.windowSeal.bytes ⟨appended.disk, []⟩
  have lone : LoneLog sealing.disk 0 (walBytes firstCapture records) := by
    have created : LoneLog written.disk stream.currentOrdinal (walBytes firstCapture []) := by
      rw [walBytes, flatMap_nil, append_nil]
      exact .createLog
    have behind : LoneLog appended.disk next.currentOrdinal
        (walBytes firstCapture [] ++ batch.bytes) := created.writeAndSync _
    rw [← parts]
    exact behind.writeAndSync _
  -- The calls, one after the other.
  obtain ⟨left, committed⟩ := commits (written.disk.read (.wal 0)) (by omega)
  have all : stream.current.beginBatch.stageAll [.continuityBreak firstBreak] =
      ([.ok (.staged batch.recovery.durableCursor)], [.continuityBreak firstBreak], batch) := by
    rw [CaptureWalBatch.stageAll, staged]
    rfl
  have persisted : stream.persist [.continuityBreak firstBreak] ⟨written.disk, []⟩ =
      (.ok [.continuityBreak firstBreak], next, appended) := persist_unsealed rfl all committed
  obtain ⟨manifest, last, left, done⟩ :=
    seals (length + batch.bytes.length) (appended.disk.read (.wal 0)) whole
  have unpublished : ∀ ordinal, sealing.disk.lookup (.manifest ordinal) = none :=
    fun ordinal => (lone.lookup _).trans (if_neg (by simp))
  obtain ⟨after, finished, visited⟩ : ∃ after, next.finishWindow ⟨appended.disk, []⟩ =
      (.ok (some manifest), { next with current := last }, after) ∧
        sealing.disk ∈ after.visited := finishWindow_unsealed unsealed done (unpublished _)
  have openedCall : call firstCapture ⟨none, .empty⟩ .openStream = ⟨some stream, written, []⟩ := by
    simp only [call, first]
  have storedCall : call firstCapture ⟨some stream, written.disk⟩
      (.persist [.continuityBreak firstBreak]) =
        ⟨some next, appended, [.continuityBreak firstBreak]⟩ := by
    simp only [call, persisted]
    rfl
  have reached : Reachable firstCapture ⟨some next, appended.disk⟩ := by
    have opened : Reachable firstCapture _ := .returns .new .openStream
    rw [openedCall] at opened
    have stored := opened.returns (.persist [.continuityBreak firstBreak])
    rwa [storedCall] at stored
  have seen : sealing.disk ∈ (call firstCapture ⟨some next, appended.disk⟩
      .finishWindow).files.visited := by
    simp only [call, finished]
    exact visited
  obtain ⟨-, -, -, -, again⟩ := reopening_continues (congrArg Prod.fst first) reached .finishWindow
    seen lone.crashed
  have storable : ∀ record ∈ records, record.Storable firstCapture :=
    forall_mem_cons.mpr ⟨⟨rfl, rfl⟩, forall_mem_singleton.mpr trivial⟩
  have openable : Openable firstCapture := openable_of_nonzero (by decide) (by decide)
  simp only [openedCall, storedCall]
  exact ⟨_, seen, unpublished 0, lone.crashed, lone.wholeRecords openable storable bounded, again⟩

end CaptureProcess

end SensorSystem.Host
