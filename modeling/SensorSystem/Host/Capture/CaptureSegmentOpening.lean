import SensorSystem.Host.Capture.CaptureSegmentDisk

/-! Every disk on the way of an open holds the same records. The sealed segments get their
manifests, and the file of the open window is brought to its whole records. -/

namespace SensorSystem.Host

open CaptureDisk CaptureSegmentStream List
open Base

/-- Every disk that a crash can find has a property. -/
def CaptureFiles.Pass (files : CaptureFiles) (property : CaptureDisk → Prop) : Prop :=
  ∀ disk ∈ files.visited, property disk

namespace CaptureFiles.Pass

variable {files : CaptureFiles} {property other : CaptureDisk → Prop}

theorem start {disk : CaptureDisk} (holds : property disk) :
    CaptureFiles.Pass ⟨disk, []⟩ property := by
  intro found member
  cases mem_singleton.mp member
  exact holds

theorem perform (pass : files.Pass property) {operation : CaptureDisk → CaptureDisk}
    (holds : property (operation files.disk)) : (files.perform operation).Pass property := by
  intro disk member
  rcases mem_append.mp member with before | last
  · exact pass disk before
  · cases mem_singleton.mp last
    exact holds

theorem weaken (pass : files.Pass property) (weaker : ∀ disk, property disk → other disk) :
    files.Pass other := fun disk member => weaker disk (pass disk member)

end CaptureFiles.Pass

variable {base config : CaptureWalConfig} {disk after : CaptureDisk} {files : CaptureFiles}
  {sealed : List StoredSegment} {records extra : List CaptureRecord} {segment : StoredSegment}
  {state : CaptureWindowLedger × CaptureWalRecovery} {property : CaptureDisk → Prop}

/-- Operations that leave the logs alone and take no manifest away. -/
structure Publishing (disk after : CaptureDisk) : Prop where
  wals : ∀ ordinal, after.lookup (.wal ordinal) = disk.lookup (.wal ordinal)
  unlinked : ∀ ordinal, .wal ordinal ∈ after.unlinked → .wal ordinal ∈ disk.unlinked
  manifests : ∀ ordinal, disk.lookup (.manifest ordinal) ≠ none →
    after.lookup (.manifest ordinal) ≠ none

namespace Publishing

theorem refl (disk : CaptureDisk) : Publishing disk disk :=
  ⟨fun _ => rfl, fun _ => id, fun _ => id⟩

theorem trans {last : CaptureDisk} (first : Publishing disk after)
    (second : Publishing after last) : Publishing disk last where
  wals ordinal := (second.wals ordinal).trans (first.wals ordinal)
  unlinked ordinal entry := first.unlinked ordinal (second.unlinked ordinal entry)
  manifests ordinal found := second.manifests ordinal (first.manifests ordinal found)

end Publishing

theorem AtRest.publishing (rest : AtRest base disk sealed config records)
    (step : Publishing disk after)
    (manifests : ∀ ordinal file, base.firstWindowOrdinal ≤ ordinal →
      after.lookup (.manifest ordinal) = some file →
      ∃ segment ∈ sealed, segment.manifest.windowOrdinal = ordinal ∧
        file.content = encodeManifest segment.manifest ∧ file.synced = file.content.length) :
    AtRest base after sealed config records where
  held := {
    openable := rest.held.openable
    chain := rest.held.chain
    segment := fun segment member => step.wals _ ▸ rest.held.segment segment member
    linked := fun segment member entry =>
      rest.held.linked segment member (step.unlinked _ entry)
    manifests
    wals := fun ordinal found => rest.held.wals ordinal (step.wals ordinal ▸ found) }
  file := step.wals _ ▸ rest.file
  unlinked entry := rest.unlinked (step.unlinked _ entry)

/-- Operations on a temporary file. -/
structure Aside (disk after : CaptureDisk) : Prop where
  wals : ∀ ordinal, after.lookup (.wal ordinal) = disk.lookup (.wal ordinal)
  unlinked : ∀ ordinal, .wal ordinal ∈ after.unlinked → .wal ordinal ∈ disk.unlinked
  manifests : ∀ ordinal, after.lookup (.manifest ordinal) = disk.lookup (.manifest ordinal)

namespace Aside

theorem publishing (aside : Aside disk after) : Publishing disk after :=
  ⟨aside.wals, aside.unlinked, fun ordinal found => aside.manifests ordinal ▸ found⟩

theorem refl (disk : CaptureDisk) : Aside disk disk :=
  ⟨fun _ => rfl, fun _ => id, fun _ => rfl⟩

theorem syncDirectory (disk : CaptureDisk) : Aside disk disk.syncDirectory :=
  ⟨fun _ => rfl, fun _ entry => absurd entry not_mem_nil, fun _ => rfl⟩

theorem put (disk : CaptureDisk) (ordinal : UInt64) (file : StoredFile) :
    Aside disk (disk.put (.temporary ordinal) file) where
  wals other := by rw [lookup_put, if_neg nofun]
  unlinked _ := id
  manifests other := by rw [lookup_put, if_neg nofun]

theorem append (disk : CaptureDisk) (ordinal : UInt64) (bytes : List UInt8) :
    Aside disk (disk.append (.temporary ordinal) bytes) := by
  rw [CaptureDisk.append]
  split
  · exact refl disk
  · exact put disk ordinal _

theorem sync (disk : CaptureDisk) (ordinal : UInt64) :
    Aside disk (disk.sync (.temporary ordinal)) := by
  rw [CaptureDisk.sync]
  split
  · exact refl disk
  · exact put disk ordinal _

theorem create (disk : CaptureDisk) (ordinal : UInt64) :
    Aside disk (disk.create (.temporary ordinal)) where
  wals := (put disk ordinal _).wals
  unlinked _ entry := (mem_cons.mp entry).resolve_left nofun
  manifests := (put disk ordinal _).manifests

end Aside

theorem AtRest.aside (rest : AtRest base disk sealed config records) (aside : Aside disk after) :
    AtRest base after sealed config records :=
  rest.publishing aside.publishing fun ordinal file behind found =>
    rest.held.manifests ordinal file behind (aside.manifests ordinal ▸ found)

/-- Another content for the file of the open window. -/
theorem Held.replaced (held : Held base disk sealed config) (file : StoredFile) :
    Held base (disk.put (.wal config.firstWindowOrdinal) file) sealed config := by
  refine held.congr (fun ordinal other => ?_) (fun ordinal => ?_) fun _ _ => id
  · rw [lookup_put, if_neg]
    intro same
    cases same
    exact other rfl
  · rw [lookup_put, if_neg nofun]

variable {file : StoredFile} {torn : List UInt8}

theorem AtRest.replaced (rest : AtRest base disk sealed config records)
    (resting : Resting config records (some file)) :
    AtRest base (disk.put (.wal config.firstWindowOrdinal) file) sealed config records where
  held := rest.held.replaced file
  file := by
    rw [lookup_put, if_pos rfl]
    exact resting
  unlinked := rest.unlinked

/-- The file of the open window is created. -/
theorem AtRest.created (rest : AtRest base disk sealed config []) :
    AtRest base (disk.create (.wal config.firstWindowOrdinal)) sealed config [] where
  held := (rest.replaced .empty).held.congr (fun _ _ => rfl) (fun _ => rfl)
    fun ordinal other entry => (mem_cons.mp entry).resolve_left fun same => by
      cases same
      exact other rfl
  file := (rest.replaced .empty).file
  unlinked _ := rfl

/-- The manifests of a chain have ordinals of their own. -/
theorem Chain.manifest_eq {first second : StoredSegment} {last : CaptureWalConfig}
    (chain : Chain config sealed last) (here : first ∈ sealed) (there : second ∈ sealed)
    (same : first.manifest.windowOrdinal = second.manifest.windowOrdinal) : first = second := by
  have distinct : (sealed.map (·.manifest.windowOrdinal.toNat)).Nodup := by
    rw [chain.ordinals.1]
    exact nodup_range'
  exact inj_on_of_nodup_map distinct here there (congrArg UInt64.toNat same)

/-- The rename puts a manifest that is complete into place. -/
theorem AtRest.renamed (rest : AtRest base disk sealed config records) (member : segment ∈ sealed)
    (staged : disk.lookup (.temporary segment.manifest.windowOrdinal) =
      some ⟨encodeManifest segment.manifest, (encodeManifest segment.manifest).length⟩) :
    let after := disk.rename (.temporary segment.manifest.windowOrdinal)
      (.manifest segment.manifest.windowOrdinal)
    AtRest base after sealed config records ∧ Publishing disk after ∧
      after.lookup (.manifest segment.manifest.windowOrdinal) ≠ none := by
  intro after
  have renamed : ∀ other, after.lookup other = _ := lookup_rename staged
  have published := (renamed (.manifest segment.manifest.windowOrdinal)).trans (if_pos rfl)
  have unlinked : ∀ file, file ∈ after.unlinked → file ∈ disk.unlinked := by
    intro file entry
    simp only [after, rename, staged] at entry
    exact mem_of_mem_erase (mem_of_mem_erase entry)
  have step : Publishing disk after := {
    wals := fun ordinal => by rw [renamed, if_neg (by rintro ⟨⟩), if_neg (by rintro ⟨⟩)]
    unlinked := fun ordinal => unlinked _
    manifests := by
      intro ordinal found
      rw [renamed]
      split
      · rintro ⟨⟩
      · rwa [if_neg (by rintro ⟨⟩)] }
  refine ⟨rest.publishing step ?_, step, by rw [published]; rintro ⟨⟩⟩
  intro ordinal file behind found
  rw [renamed] at found
  split at found
  · rename_i same
    cases same
    cases found
    exact ⟨segment, member, rfl, rfl, rfl⟩
  · rw [if_neg (by rintro ⟨⟩)] at found
    exact rest.held.manifests ordinal file behind found

theorem publishManifest_rest (rest : AtRest base files.disk sealed config records)
    (member : segment ∈ sealed)
    (keeps : ∀ disk, AtRest base disk sealed config records → property disk)
    (pass : files.Pass property) :
    ∃ after, publishManifest segment.manifest files = (.ok (), after) ∧ after.Pass property ∧
      AtRest base after.disk sealed config records ∧ Publishing files.disk after.disk ∧
      after.disk.lookup (.manifest segment.manifest.windowOrdinal) ≠ none := by
  cases found : files.disk.lookup (.manifest segment.manifest.windowOrdinal) with
  | some existing =>
    obtain ⟨other, there, same, content, -⟩ :=
      rest.held.manifests _ _ (rest.held.chain.ordinal_ge member) found
    cases rest.held.chain.manifest_eq there member same
    obtain ⟨state, window⟩ := rest.held.chain.sealed member
    have contract := validateContract_eq_ok.mpr (window.joins.contract (by
      rw [rest.held.chain.stream.2 segment member]
      exact rest.held.openable.epoch))
    refine ⟨files, ?_, pass, rest, .refl _, by rw [found]; nofun⟩
    simp only [publishManifest, found, content, readCaptureManifest_encode _ contract, if_true]
  | none =>
    let ordinal := segment.manifest.windowOrdinal
    let bytes := encodeManifest segment.manifest
    let created := files.disk.create (.temporary ordinal)
    let appended := created.append (.temporary ordinal) bytes
    let synced := appended.sync (.temporary ordinal)
    have createdFile : created.lookup (.temporary ordinal) = some ⟨[], 0⟩ :=
      (files.disk.lookup_put _ _ _).trans (if_pos rfl)
    have appendedFile : appended.lookup (.temporary ordinal) = some ⟨bytes, 0⟩ :=
      (lookup_append createdFile bytes _).trans (if_pos rfl)
    have syncedFile : synced.lookup (.temporary ordinal) = some ⟨bytes, bytes.length⟩ :=
      (lookup_sync appendedFile _).trans (if_pos rfl)
    have toCreated : Aside files.disk created := .create _ _
    have toAppended : Aside created appended := .append _ _ _
    have toSynced : Aside appended synced := .sync _ _
    have atCreated := rest.aside toCreated
    have atAppended := atCreated.aside toAppended
    have atSynced := atAppended.aside toSynced
    obtain ⟨atRenamed, toRenamed, published⟩ := atSynced.renamed member syncedFile
    have atLast := atRenamed.aside (.syncDirectory _)
    have before := (toCreated.publishing.trans toAppended.publishing).trans toSynced.publishing
    simp only [publishManifest, found]
    refine ⟨_, rfl, ?_, atLast,
      (before.trans toRenamed).trans (Aside.syncDirectory _).publishing, published⟩
    exact ((((pass.perform (keeps _ atCreated)).perform (keeps _ atAppended)).perform
      (keeps _ atSynced)).perform (keeps _ atRenamed)).perform (keeps _ atLast)

/-- A file is opened with its whole records. -/
theorem openSegment_written {ordinal : UInt64} (openable : Openable config)
    (window : OneWindow config records state)
    (proper : TornAt config (walBytes config records).length torn)
    (found : files.disk.lookup (.wal ordinal) = some file)
    (content : file.content = walBytes config records ++ torn) : openSegment ordinal config files =
      (.ok (recoveredSink config records torn.length state),
        if torn = [] then files
        else (files.perform (·.setLength (.wal ordinal) (walBytes config records).length)).perform
          (·.sync (.wal ordinal))) := by
  have bytes : files.disk.read (.wal ordinal) = walBytes config records ++ torn := by
    rw [CaptureDisk.read, found, ← content]
    rfl
  have nonempty : (walBytes config records ++ torn).length ≠ 0 := by
    rw [length_append, length_walBytes, fileHeaderBytes]
    omega
  have opened := openFile_torn openable window.storable window.bounded proper window.replayed
  have cut : (walBytes config records).length = (walBytes config records ++ torn).length ↔
      torn = [] := by
    rw [length_append, ← length_eq_zero_iff]
    omega
  simp only [openSegment, if_neg openable.epoch, found, Option.isNone_some, Bool.false_eq_true,
    if_false, bytes, if_neg nonempty, opened, cut]

/-- The log of a sealed segment is opened without an operation. -/
theorem openSegment_sealed (held : Held base files.disk sealed config) (member : segment ∈ sealed) :
    ∃ sink, openSegment segment.manifest.windowOrdinal segment.config files = (.ok sink, files) ∧
      sink.recovery.sealedWindowCount = 1 ∧
      sink.recovery.lastSealedWindow = some segment.manifest ∧
      sink.recovery.durableCursor = segment.manifest.endExclusive := by
  obtain ⟨file, found, content, -⟩ := held.segment segment member
  obtain ⟨state, window⟩ := held.chain.sealed member
  have openable : Openable segment.config := by
    rw [held.chain.stream.2 segment member]
    exact Chain.openable_at held.openable _ _
  have opened := openSegment_written openable window.window (.inl rfl) found
    (content.trans (append_nil _).symm)
  exact ⟨_, opened, window.count, window.last, window.joins.durable⟩

/-- The writer of an open window and its file. -/
structure Opened (base : CaptureWalConfig) (disk : CaptureDisk) (sealed : List StoredSegment)
    (config : CaptureWalConfig) (records : List CaptureRecord) (sink : CaptureWalSink) :
    Prop where
  held : Held base disk sealed config
  file : disk.lookup (.wal config.firstWindowOrdinal) =
    some ⟨walBytes config records, (walBytes config records).length⟩
  linked : .wal config.firstWindowOrdinal ∉ disk.unlinked
  window : OneWindow config records (sink.ledger, sink.recovery.withTail 0)
  sound : CaptureWal.Sound config ⟨sink, walBytes config records, records⟩
  unsealed : sink.recovery.sealedWindowCount = 0

theorem Opened.rest {sink : CaptureWalSink} (opened : Opened base disk sealed config records sink) :
    AtRest base disk sealed config records where
  held := opened.held
  file := by
    have resting := Resting.written opened.window opened.unsealed (.inl rfl)
    rwa [append_nil, ← opened.file] at resting
  unlinked entry := absurd entry opened.linked

/-- A file that is complete is opened. -/
theorem Held.opened (held : Held base disk sealed config)
    (file : disk.lookup (.wal config.firstWindowOrdinal) =
      some ⟨walBytes config records, (walBytes config records).length⟩)
    (linked : .wal config.firstWindowOrdinal ∉ disk.unlinked)
    (window : OneWindow config records state) (unsealed : state.2.sealedWindowCount = 0)
    (tail : Nat) : Opened base disk sealed config records
      (recoveredSink config records tail state) := by
  have sound := CaptureWal.Sound.of_recoveredSink tail window.storable window.bounded
    window.replayed
  exact {
    held, file, linked, sound, unsealed
    window := by
      have same := window.replayed.symm.trans sound.replayed
      rwa [Except.ok.inj same] at window }

/-- What `openSegment` leaves of the file of the open window. -/
structure Reopened (base : CaptureWalConfig) (files : CaptureFiles) (sealed : List StoredSegment)
    (config : CaptureWalConfig) (records : List CaptureRecord) (property : CaptureDisk → Prop)
    (sink : CaptureWalSink) (after : CaptureFiles) : Prop where
  result : openSegment config.firstWindowOrdinal config files = (.ok sink, after)
  pass : after.Pass property
  opened : Opened base after.disk sealed config records sink
  manifests : ∀ ordinal, after.disk.lookup (.manifest ordinal) =
    files.disk.lookup (.manifest ordinal)

theorem lookup_put_manifest (disk : CaptureDisk) (ordinal other : UInt64) (file : StoredFile) :
    (disk.put (.wal ordinal) file).lookup (.manifest other) = disk.lookup (.manifest other) := by
  rw [lookup_put, if_neg nofun]

/-- A torn record is cut off. -/
theorem openSegment_torn (rest : AtRest base files.disk sealed config records)
    (linked : .wal config.firstWindowOrdinal ∉ files.disk.unlinked)
    (window : OneWindow config records state) (unsealed : state.2.sealedWindowCount = 0)
    (proper : TornAt config (walBytes config records).length torn)
    (found : files.disk.lookup (.wal config.firstWindowOrdinal) =
      some ⟨walBytes config records ++ torn, (walBytes config records ++ torn).length⟩)
    (keeps : ∀ disk, AtRest base disk sealed config records → property disk)
    (pass : files.Pass property) :
    ∃ sink after, Reopened base files sealed config records property sink after := by
  have openable := rest.held.chain.openable rest.held.openable
  have opened := openSegment_written openable window proper found rfl
  by_cases none : torn = []
  · subst none
    rw [append_nil] at found
    exact ⟨_, files, opened, pass, rest.held.opened found linked window unsealed _, fun _ => rfl⟩
  let file := CaptureFile.wal config.firstWindowOrdinal
  let whole : StoredFile := ⟨walBytes config records, (walBytes config records).length⟩
  have resting : Resting config records (some whole) := by
    have resting := Resting.written window unsealed (.inl rfl)
    rwa [append_nil] at resting
  have cut : files.disk.setLength file whole.content.length = files.disk.put file whole := by
    rw [setLength, found]
    simp only [take_left, length_append, Nat.min_eq_right (Nat.le_add_right _ _), whole]
  have synced : (files.disk.put file whole).sync file =
    (files.disk.put file whole).put file whole := by
    rw [sync, lookup_put, if_pos rfl]
  have atCut := rest.replaced resting
  have atSynced := atCut.replaced resting
  rw [if_neg none] at opened
  refine ⟨_, _, opened, (pass.perform ?_).perform ?_, ?_, fun ordinal => ?_⟩
  · rw [cut]
    exact keeps _ atCut
  · change property ((files.disk.setLength file whole.content.length).sync file)
    rw [cut, synced]
    exact keeps _ atSynced
  · change Opened base ((files.disk.setLength file whole.content.length).sync file) _ _ _ _
    rw [cut, synced]
    exact atSynced.held.opened (by rw [lookup_put, if_pos rfl]) linked window
      unsealed _
  · change ((files.disk.setLength file whole.content.length).sync file).lookup _ = _
    rw [cut, synced, lookup_put_manifest, lookup_put_manifest]

/-- An empty file gets its header. -/
theorem openSegment_empty (rest : AtRest base files.disk sealed config [])
    (found : files.disk.lookup (.wal config.firstWindowOrdinal) = some ⟨[], 0⟩)
    (keeps : ∀ disk, AtRest base disk sealed config [] → property disk)
    (pass : files.Pass property) :
    ∃ sink after, Reopened base files sealed config [] property sink after := by
  have openable := rest.held.chain.openable rest.held.openable
  let file := CaptureFile.wal config.firstWindowOrdinal
  let whole : StoredFile := ⟨walBytes config [], (walBytes config []).length⟩
  have resting : Resting config [] (some whole) := by
    have resting := Resting.written (OneWindow.nil config) rfl (.inl rfl)
    rwa [append_nil] at resting
  have header : files.disk.writeHeader file (fileHeader config) = files.disk.put file whole := by
    simp only [writeHeader, whole, walBytes, flatMap_nil, append_nil]
  have synced : (files.disk.put file whole).sync file =
    (files.disk.put file whole).put file whole := by
    rw [sync, lookup_put, if_pos rfl]
  have atHeader := rest.replaced resting
  have atSynced := atHeader.replaced resting
  have atLinked := atSynced.aside (.syncDirectory _)
  let prepared := ((files.perform (·.writeHeader file (fileHeader config))).perform
    (·.sync file)).perform (·.syncDirectory)
  have disk : prepared.disk = ((files.disk.put file whole).put file whole).syncDirectory := by
    change ((files.disk.writeHeader file (fileHeader config)).sync file).syncDirectory = _
    rw [header, synced]
  have there : prepared.disk.lookup file = some whole := by
    rw [disk]
    exact (lookup_put _ _ _ _).trans (if_pos rfl)
  have same : openSegment config.firstWindowOrdinal config files =
      openSegment config.firstWindowOrdinal config prepared := by
    have empty : (files.disk.read file).length = 0 := by
      rw [CaptureDisk.read, found]
      rfl
    have full : (prepared.disk.read file).length ≠ 0 := by
      rw [CaptureDisk.read, there]
      change (walBytes config []).length ≠ 0
      rw [length_walBytes, fileHeaderBytes]
      omega
    simp only [openSegment, if_neg openable.epoch, found, there, Option.isNone_some,
      Bool.false_eq_true, if_false, file, if_pos empty, if_neg full]
    rfl
  have pass : prepared.Pass property := by
    refine ((pass.perform ?_).perform ?_).perform ?_
    · rw [header]
      exact keeps _ atHeader
    · change property ((files.disk.writeHeader file (fileHeader config)).sync file)
      rw [header, synced]
      exact keeps _ atSynced
    · change property prepared.disk
      rw [disk]
      exact keeps _ atLinked
  have proper : TornAt config (walBytes config []).length [] := .inl rfl
  obtain ⟨sink, after, done⟩ := openSegment_torn (disk ▸ atLinked)
    (by rw [disk]; exact not_mem_nil) (OneWindow.nil config) rfl proper
    (by simpa only [append_nil] using there) keeps pass
  refine ⟨sink, after, same.trans done.result, done.pass, done.opened, fun ordinal => ?_⟩
  rw [done.manifests, disk]
  exact (lookup_put_manifest _ _ _ _).trans (lookup_put_manifest _ _ _ _)

theorem openSegment_current (rest : AtRest base files.disk sealed config records)
    (linked : files.disk.lookup (.wal config.firstWindowOrdinal) ≠ none →
      .wal config.firstWindowOrdinal ∉ files.disk.unlinked)
    (keeps : ∀ disk, AtRest base disk sealed config records → property disk)
    (pass : files.Pass property) :
    ∃ sink after, Reopened base files sealed config records property sink after := by
  generalize found : files.disk.lookup (.wal config.firstWindowOrdinal) = file at linked
  have resting := rest.file
  rw [found] at resting
  cases resting with
  | absent =>
    -- The file is created, and is empty then.
    let created := files.perform (·.create (.wal config.firstWindowOrdinal))
    have there : created.disk.lookup (.wal config.firstWindowOrdinal) = some ⟨[], 0⟩ :=
      (lookup_put _ _ _ _).trans (if_pos rfl)
    have atCreated := rest.created
    obtain ⟨sink, after, done⟩ := openSegment_empty atCreated there keeps
      (pass.perform (keeps _ atCreated))
    refine ⟨sink, after, ?_, done.pass, done.opened, fun ordinal =>
      (done.manifests ordinal).trans (lookup_put_manifest _ _ _ _)⟩
    rw [← done.result]
    have openable := rest.held.chain.openable rest.held.openable
    simp only [openSegment, if_neg openable.epoch, found, Option.isNone_none, if_true, there,
      Option.isNone_some, Bool.false_eq_true, if_false]
    rfl
  | empty => exact openSegment_empty rest found keeps pass
  | written window unsealed proper =>
    exact openSegment_torn rest (linked nofun) window unsealed proper found keeps pass

/-- The file of the open window, if it is there. -/
def currentOrdinals (disk : CaptureDisk) (config : CaptureWalConfig) : List UInt64 :=
  if disk.lookup (.wal config.firstWindowOrdinal) = none then [] else [config.firstWindowOrdinal]

theorem Held.discover (held : Held base disk sealed config) : disk.discoverSegmentOrdinals =
      .ok (sealed.map (·.manifest.windowOrdinal) ++ currentOrdinals disk config) := by
  have member : ∀ ordinal, ordinal ∈ currentOrdinals disk config →
      ordinal = config.firstWindowOrdinal ∧ disk.lookup (.wal ordinal) ≠ none := by
    intro ordinal entry
    rw [currentOrdinals] at entry
    split at entry
    · cases entry
    · rename_i there
      cases mem_singleton.mp entry
      exact ⟨rfl, there⟩
  refine discoverSegmentOrdinals_eq (pairwise_append.mpr ⟨?_, ?_, ?_⟩) ?_
  · have ascending : (sealed.map (·.manifest.windowOrdinal.toNat)).Pairwise (· < ·) := by
      rw [held.chain.ordinals.1]
      exact pairwise_lt_range'
    rw [pairwise_map] at ascending ⊢
    exact ascending
  · rw [currentOrdinals]
    split
    · exact .nil
    · exact pairwise_singleton _ _
  · intro first before second behind
    obtain ⟨segment, there, rfl⟩ := mem_map.mp before
    rw [(member second behind).1]
    exact held.chain.ordinal_lt there
  · intro ordinal
    rw [mem_append, mem_map]
    constructor
    · rintro (⟨segment, there, rfl⟩ | entry)
      · obtain ⟨file, found, -⟩ := held.segment segment there
        rw [found]
        nofun
      · exact (member ordinal entry).2
    intro found
    rcases held.wals ordinal found with rfl | ⟨segment, there, same⟩
    · rw [currentOrdinals, if_neg found]
      exact .inr (mem_singleton_self _)
    · exact .inl ⟨segment, there, same⟩

/-- A stream that was opened: its sealed segments have their manifests. -/
structure StreamOpened (base : CaptureWalConfig) (disk : CaptureDisk)
    (sealed : List StoredSegment) (config : CaptureWalConfig) (records : List CaptureRecord)
    (stream : CaptureSegmentStream) : Prop where
  opened : Opened base disk sealed config records stream.current
  /-- The stream may have been opened with earlier segments. -/
  baseConfig : stream.baseConfig.at_ base.recoveredCursor base.firstWindowOrdinal = base
  currentOrdinal : stream.currentOrdinal = config.firstWindowOrdinal

/-- Every one of these segments has its manifest. -/
def Published (disk : CaptureDisk) (segments : List StoredSegment) : Prop :=
  ∀ segment ∈ segments, disk.lookup (.manifest segment.manifest.windowOrdinal) ≠ none

theorem Chain.eq_of_nil {start : CaptureWalConfig} (chain : Chain start [] config) :
    config = start := by
  generalize none : ([] : List StoredSegment) = segments at chain
  cases chain with
  | nil => rfl
  | cons => cases none

/-- The loop goes through the sealed segments that are left. -/
theorem openSegments_rest {start : CaptureWalConfig} {segments : List StoredSegment}
    (left : Chain start segments config) (members : ∀ segment ∈ segments, segment ∈ sealed)
    (rest : AtRest base files.disk sealed config records)
    (linked : files.disk.lookup (.wal config.firstWindowOrdinal) ≠ none →
      .wal config.firstWindowOrdinal ∉ files.disk.unlinked)
    (keeps : ∀ disk, AtRest base disk sealed config records → property disk)
    (pass : files.Pass property)
      (moved : start = base.at_ start.recoveredCursor start.firstWindowOrdinal)
    (nonempty : segments.map (·.manifest.windowOrdinal) ++ currentOrdinals files.disk config ≠ []) :
    ∃ stream after,
      openSegments base start.firstWindowOrdinal start.recoveredCursor
        (segments.map (·.manifest.windowOrdinal) ++ currentOrdinals files.disk config) files =
          (.ok stream, after) ∧
      after.Pass property ∧ StreamOpened base after.disk sealed config records stream ∧
      (∀ ordinal, files.disk.lookup (.manifest ordinal) ≠ none →
        after.disk.lookup (.manifest ordinal) ≠ none) ∧ Published after.disk segments := by
  induction left generalizing files with
  | nil config =>
    obtain ⟨sink, after, done⟩ := openSegment_current rest linked keeps pass
    have there : currentOrdinals files.disk config = [config.firstWindowOrdinal] := by
      rw [map_nil, nil_append, currentOrdinals] at nonempty
      rw [currentOrdinals]
      split at nonempty
      · exact absurd rfl nonempty
      · rename_i found
        exact if_neg found
    have unpublished : after.disk.lookup (.manifest config.firstWindowOrdinal) = none := by
      by_contra found
      obtain ⟨file, found⟩ := Option.ne_none_iff_exists'.mp found
      obtain ⟨segment, member, same, -⟩ :=
        done.opened.held.manifests _ _ done.opened.held.chain.first_le found
      exact done.opened.held.fresh member same
    refine ⟨⟨base, config.firstWindowOrdinal, sink⟩, after, ?_, done.pass,
      ⟨done.opened, rfl, rfl⟩, fun ordinal found => done.manifests ordinal ▸ found, nofun⟩
    simp only [map_nil, nil_append, there, openSegments, ne_eq,
      not_true_eq_false, if_false, ← moved, done.result, done.opened.unsealed, if_true,
      unpublished, Option.isSome_none, Bool.false_eq_true]
  | @cons segment config state later first left ih =>
    have member := members segment mem_cons_self
    obtain ⟨sink, opened, count, last, durable⟩ := openSegment_sealed rest.held member
    obtain ⟨published, done, pass, atPublished, step, there⟩ :=
      publishManifest_rest rest member keeps pass
    have joins := first.joins
    have valid : validateSegmentManifest segment.manifest segment.manifest.windowOrdinal
        segment.config.recoveredCursor sink.recovery.durableCursor = .ok () := by
      simp only [validateSegmentManifest, joins.first, durable, ne_eq, not_true_eq_false, if_false]
    have next : checkedAdd segment.manifest.windowOrdinal 1 =
        some (segment.manifest.windowOrdinal + 1) := by
      rw [checkedAdd, if_pos]
      exact joins.room
    have own : base.at_ segment.config.recoveredCursor segment.manifest.windowOrdinal =
        segment.config := by
      rw [joins.ordinal]
      exact moved.symm
    have behind : base.at_ segment.manifest.endExclusive (segment.manifest.windowOrdinal + 1) =
        segment.config.next segment.manifest := by
      rw [CaptureWalConfig.next, moved]
      rfl
    have linked : published.disk.lookup (.wal config.firstWindowOrdinal) ≠ none →
        .wal config.firstWindowOrdinal ∉ published.disk.unlinked := fun found entry =>
      linked (step.wals _ ▸ found) (step.unlinked _ entry)
    have same : currentOrdinals published.disk config = currentOrdinals files.disk config := by
      rw [currentOrdinals, step.wals, currentOrdinals]
    rw [← joins.ordinal, map_cons, cons_append, openSegments,
      if_neg (not_not.mpr rfl), own]
    simp only [opened, count, last, valid, done, next, behind]
    rw [if_neg (by decide), if_pos trivial]
    by_cases none : later.map (·.manifest.windowOrdinal) ++ currentOrdinals files.disk config = []
    · -- The last log is sealed: the file behind it is opened.
      obtain ⟨nothing, -⟩ := append_eq_nil_iff.mp none
      cases map_eq_nil_iff.mp nothing
      cases left.eq_of_nil
      obtain ⟨sink, after, reopened⟩ := openSegment_current atPublished linked keeps pass
      refine ⟨⟨base, segment.manifest.windowOrdinal + 1, sink⟩, after, ?_, reopened.pass,
        ⟨reopened.opened, rfl, rfl⟩, ?_, ?_⟩
      · rw [if_pos none]
        have result : openSegment (segment.manifest.windowOrdinal + 1)
            (segment.config.next segment.manifest) published = _ := reopened.result
        rw [result]
      · intro ordinal found
        rw [reopened.manifests]
        exact step.manifests ordinal found
      · intro other found
        cases mem_singleton.mp found
        rwa [reopened.manifests]
    · obtain ⟨stream, after, opened, pass, streamOpened, kept, rest⟩ :=
        ih (fun other found => members other (mem_cons_of_mem _ found)) atPublished linked
          keeps pass behind.symm (same ▸ none)
      rw [if_neg none, ← same]
      refine ⟨stream, after, opened, pass, streamOpened,
        fun ordinal found => kept ordinal (step.manifests ordinal found), ?_⟩
      intro other found
      rcases mem_cons.mp found with rfl | found
      · exact kept _ there
      · exact rest other found

theorem openStream_rest (rest : AtRest base disk sealed config records) :
    ∃ stream after, openStream base ⟨disk, []⟩ = (.ok stream, after) ∧
      after.Pass (AtRest base · sealed config records) ∧
      StreamOpened base after.disk sealed config records stream ∧ Published after.disk sealed := by
  let files : CaptureFiles := CaptureFiles.perform ⟨disk, []⟩ (·.syncDirectory)
  have atSynced : AtRest base files.disk sealed config records := rest.aside (.syncDirectory _)
  have pass : files.Pass (AtRest base · sealed config records) :=
    (CaptureFiles.Pass.start rest).perform atSynced
  have linked : files.disk.lookup (.wal config.firstWindowOrdinal) ≠ none →
      .wal config.firstWindowOrdinal ∉ files.disk.unlinked := fun _ => not_mem_nil
  have found := atSynced.held.discover
  rw [openStream]
  by_cases none : sealed.map (·.manifest.windowOrdinal) ++ currentOrdinals files.disk config = []
  · -- There is no log yet.
    rw [none] at found
    obtain ⟨nothing, absent⟩ := append_eq_nil_iff.mp none
    cases map_eq_nil_iff.mp nothing
    cases atSynced.held.chain.eq_of_nil
    obtain ⟨sink, after, reopened⟩ := openSegment_current atSynced linked (fun _ => id) pass
    refine ⟨⟨base, base.firstWindowOrdinal, sink⟩, after, ?_, reopened.pass,
      ⟨reopened.opened, rfl, rfl⟩, nofun⟩
    simp only [files] at found reopened
    simp only [found, reopened.result]
  · obtain ⟨stream, after, opened, pass, streamOpened, -, published⟩ :=
      openSegments_rest atSynced.held.chain (fun _ => id) atSynced linked (fun _ =>
        id) pass rfl none
    refine ⟨stream, after, ?_, pass, streamOpened, published⟩
    generalize ordinals : sealed.map (·.manifest.windowOrdinal) ++
      currentOrdinals files.disk config = list at found none opened
    cases list with
    | nil => exact absurd rfl none
    | cons ordinal list =>
      simp only [files] at found opened
      simp only [found, opened]

end SensorSystem.Host
