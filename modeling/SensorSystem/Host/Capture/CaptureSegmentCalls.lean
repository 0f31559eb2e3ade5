import SensorSystem.Host.Capture.CaptureSegmentOpening

/-! A call rotates to a new segment when the window of its log is sealed, and appends to the log
of the open window. A crash in a call finds the records from before it and some of those the call
appends, from the first on. -/

namespace SensorSystem.Host

open List Base

namespace CaptureWalBatch

variable {config : CaptureWalConfig} {batch next last : CaptureWalBatch}

theorem stagePlanned_sealed {record : List UInt8} {plan : CaptureAppendPlan}
    {counters : RecordCounters} (done : batch.stagePlanned record plan counters = .ok next) :
    next.sealed = true ∨
      next.recovery.sealedWindowCount = batch.recovery.sealedWindowCount := by
  rw [stagePlanned_eq] at done
  obtain ⟨⟨manifest, ledger⟩, -, done⟩ := bind_eq_ok.mp done
  obtain ⟨recovery, counted, done⟩ := bind_eq_ok.mp done
  obtain ⟨staged, -, done⟩ := bind_eq_ok.mp done
  cases done
  cases manifest with
  | some manifest => exact .inl rfl
  | none =>
    obtain ⟨records, -, counted⟩ := bind_eq_ok.mp counted
    obtain ⟨samples, -, counted⟩ := bind_eq_ok.mp counted
    obtain ⟨missing, -, counted⟩ := bind_eq_ok.mp counted
    obtain ⟨breaks, -, counted⟩ := bind_eq_ok.mp counted
    cases counted
    exact .inr rfl

/-- Every item ends in the same step. -/
theorem stage_planned {item : CaptureItem} (done : batch.stage item = .ok next) :
    batch.sealed = false ∧
      ∃ record plan counters, batch.stagePlanned record plan counters = .ok next := by
  have unsealed : ∀ {done}, batch.ensureOpenWindow = .ok done → batch.sealed = false := by
    intro done checked
    exact Bool.eq_false_iff.mpr (guard_eq_ok.mp checked).1
  cases item with
  | chunk hardwareId chunk =>
    obtain ⟨checked, done⟩ := check_eq_ok.mp done
    obtain ⟨plan, -, done⟩ := bind_eq_ok.mp done
    obtain ⟨record, -, done⟩ := bind_eq_ok.mp done
    exact ⟨unsealed checked, _, _, _, done⟩
  | gap gap =>
    obtain ⟨checked, done⟩ := check_eq_ok.mp done
    obtain ⟨plan, -, done⟩ := bind_eq_ok.mp done
    exact ⟨unsealed checked, _, _, _, done⟩
  | continuityBreak observed =>
    obtain ⟨checked, done⟩ := check_eq_ok.mp done
    obtain ⟨plan, -, done⟩ := bind_eq_ok.mp done
    exact ⟨unsealed checked, _, _, _, done⟩

/-- A batch takes records up to the one that seals the window. -/
theorem stage_sealed {item : CaptureItem} (done : batch.stage item = .ok next) :
    batch.sealed = false ∧ (next.sealed = true ∨
      next.recovery.sealedWindowCount = batch.recovery.sealedWindowCount) := by
  obtain ⟨unsealed, record, plan, counters, done⟩ := stage_planned done
  exact ⟨unsealed, stagePlanned_sealed done⟩

theorem stage_counted {item : CaptureItem} (done : batch.stage item = .ok next) :
    batch.recordCount.toNat + 1 = next.recordCount.toNat := by
  obtain ⟨-, record, plan, counters, done⟩ := stage_planned done
  rw [stagePlanned_eq] at done
  obtain ⟨applied, -, done⟩ := bind_eq_ok.mp done
  obtain ⟨recovery, -, done⟩ := bind_eq_ok.mp done
  obtain ⟨staged, counted, done⟩ := bind_eq_ok.mp done
  cases done
  rw [addCounter] at counted
  split at counted
  · rename_i sum found
    cases counted
    exact checkedAdd_eq_some.mp found
  · cases counted

/-- When no item is refused, the batch holds the records of all. -/
theorem stageAll_of_foldlM {items : List CaptureItem}
    (done : items.foldlM CaptureWalBatch.stage batch = .ok last) :
    (∃ replies, batch.stageAll items = (replies, items.map (·.record), last)) ∧
      batch.recordCount.toNat + items.length = last.recordCount.toNat := by
  induction items generalizing batch with
  | nil =>
    cases done
    exact ⟨⟨_, rfl⟩, rfl⟩
  | cons item rest ih =>
    rw [foldlM_cons] at done
    obtain ⟨next, staged, done⟩ := bind_eq_ok.mp done
    obtain ⟨⟨replies, all⟩, counted⟩ := ih done
    have one := stage_counted staged
    refine ⟨⟨.ok (.staged next.recovery.durableCursor) :: replies, ?_⟩, ?_⟩
    · rw [stageAll, staged]
      simp only [all, map_cons]
    · rw [length_cons]
      omega

theorem stageAll_of_sealed (sealed : batch.sealed = true) (items : List CaptureItem) :
    (batch.stageAll items).2.1 = [] := by
  induction items with
  | nil => rfl
  | cons item rest ih =>
    rw [stageAll]
    split
    · exact ih
    rename_i next staged
    rw [(stage_sealed staged).1] at sealed
    cases sealed

/-- Only the last record of a batch can seal. -/
theorem stageAll_unsealed {items : List CaptureItem} {replies : CaptureWalReplies}
    {records front : List CaptureRecord} {before : CaptureWindowLedger × CaptureWalRecovery}
    (hardware : batch.ledger.hardwareId = config.hardwareId)
    (epoch : batch.ledger.bootEpoch = config.bootEpoch)
    (unsealed : batch.recovery.sealedWindowCount = 0)
    (done : batch.stageAll items = (replies, records, last)) (first : front <+: records)
    (other : front ≠ records)
    (replayed : replay config.hardwareId (batch.ledger, batch.recovery) front = .ok before) :
    before.2.sealedWindowCount = 0 := by
  induction items generalizing batch replies records front with
  | nil =>
    cases done
    exact absurd (prefix_nil.mp first) other
  | cons item rest ih =>
    rw [stageAll] at done
    cases staged : batch.stage item with
    | error error =>
      simp only [staged] at done
      cases done
      exact ih hardware epoch unsealed rfl first other replayed
    | ok next =>
      simp only [staged] at done
      cases done
      cases front with
      | nil =>
        cases replayed
        exact unsealed
      | cons record front =>
        obtain ⟨rfl, within⟩ := cons_prefix_cons.mp first
        have step := stage_eq_ok hardware epoch staged
        have stream := step.sameStream
        rw [replay, foldlM_cons, step.replayed, ok_bind] at replayed
        rcases (stage_sealed staged).2 with sealed | same
        · have none := stageAll_of_sealed sealed rest
          rw [none] at within other
          exact absurd (congrArg _ (prefix_nil.mp within)) other
        · exact ih (stream.hardwareId.trans hardware) (stream.bootEpoch.trans epoch)
            (same.trans unsealed) rfl within (fun same => other (congrArg _ same)) replayed

end CaptureWalBatch

variable {base config : CaptureWalConfig} {disk : CaptureDisk} {files : CaptureFiles}
  {sealed : List StoredSegment} {records extra log later : List CaptureRecord}
  {segment : StoredSegment} {stream : CaptureSegmentStream} {sink : CaptureWalSink}
  {property : CaptureDisk → Prop}

/-- A stream and the records on its disk. -/
inductive Attached (base : CaptureWalConfig) (disk : CaptureDisk) (stream : CaptureSegmentStream) :
    List CaptureRecord → Prop
  | opened {sealed : List StoredSegment} {config : CaptureWalConfig}
      {records : List CaptureRecord}
      (opened : StreamOpened base disk sealed config records stream) :
      Attached base disk stream (sealed.flatMap (·.records) ++ records)
  | closed {sealed : List StoredSegment} {segment : StoredSegment}
      (rest : AtRest base disk sealed (segment.config.next segment.manifest) [])
      (member : segment ∈ sealed)
      (absent : disk.lookup (.wal (segment.config.next segment.manifest).firstWindowOrdinal) =
        none)
      (baseConfig : stream.baseConfig.at_ base.recoveredCursor base.firstWindowOrdinal = base)
      (count : stream.current.recovery.sealedWindowCount = 1)
      (last : stream.current.recovery.lastSealedWindow = some segment.manifest)
      (durable : stream.current.recovery.durableCursor = segment.manifest.endExclusive) :
      Attached base disk stream (sealed.flatMap (·.records))

theorem Attached.holds (attached : Attached base disk stream log) : Holds base disk log := by
  cases attached with
  | opened opened => exact ⟨_, _, _, opened.opened.rest, rfl⟩
  | closed rest => exact ⟨_, _, _, rest, (append_nil _).symm⟩

/-- A crash finds the records of a log, and maybe more. -/
def Between (base : CaptureWalConfig) (log later : List CaptureRecord) (disk : CaptureDisk) :
    Prop :=
  ∀ after, disk.Crashed after → ∃ kept, log <+: kept ∧ kept <+: later ∧ Holds base after kept

variable {front : List CaptureRecord} {manifest : CaptureWindowManifest}

theorem Holds.between (holds : Holds base disk log) (first : front <+: log) (more : log <+: later) :
    Between base front later disk :=
  fun _ crashed => ⟨log, first, more, holds.crashed crashed⟩

theorem Writing.between {state : CaptureWindowLedger × CaptureWalRecovery}
    (writing : Writing base disk sealed config records extra state) :
    Between base (sealed.flatMap (·.records) ++ records)
      (sealed.flatMap (·.records) ++ records ++ extra) disk := by
  intro after crashed
  obtain ⟨kept, first, holds⟩ := writing.crashed crashed
  exact ⟨_, prefix_append _ _, (prefix_append_right_inj _).mpr first, holds⟩

theorem CaptureSegmentStream.rotateIfNeeded_unsealed (files : CaptureFiles)
    (unsealed : stream.current.recovery.sealedWindowCount = 0) :
    stream.rotateIfNeeded files = (.ok (), stream, files) := by
  have rounds : 2 ^ 64 = 2 ^ 64 - 1 + 1 := rfl
  rw [rotateIfNeeded, rounds, rotateLoop]
  simp only [unsealed, if_true]

/-- The log of the open window is there when a call goes on. -/
theorem CaptureSegmentStream.rotateIfNeeded_attached
    (attached : Attached base files.disk stream log)
    (keeps : ∀ disk, Holds base disk log → property disk) (pass : files.Pass property) :
    ∃ rotated after sealed config records,
      stream.rotateIfNeeded files = (.ok (), rotated, after) ∧ after.Pass property ∧
      StreamOpened base after.disk sealed config records rotated ∧
      log = sealed.flatMap (·.records) ++ records := by
  have rounds : 2 ^ 64 = 2 ^ 64 - 2 + 1 + 1 := rfl
  cases attached with
  | @opened sealed config records opened =>
    exact ⟨stream, files, sealed, config, records,
      rotateIfNeeded_unsealed files opened.opened.unsealed, pass, opened, rfl⟩
  | @closed sealed segment rest member absent baseConfig count last durable =>
    have keeps : ∀ disk, AtRest base disk sealed (segment.config.next segment.manifest) [] →
        property disk := fun disk rest => keeps disk ⟨_, _, _, rest, (append_nil _).symm⟩
    obtain ⟨state, window⟩ := rest.held.chain.sealed member
    obtain ⟨published, done, pass, rest, step, -⟩ := publishManifest_rest rest member keeps pass
    obtain ⟨sink, after, reopened⟩ := openSegment_current rest
      (fun found => absurd (step.wals _ ▸ absent) found) keeps pass
    have next : checkedAdd segment.manifest.windowOrdinal 1 =
        some (segment.manifest.windowOrdinal + 1) := by
      rw [checkedAdd, if_pos]
      exact window.joins.room
    have valid : validateSegmentManifest segment.manifest segment.manifest.windowOrdinal
        segment.manifest.firstCursor stream.current.recovery.durableCursor = .ok () := by
      simp only [validateSegmentManifest, durable, ne_eq, not_true_eq_false, if_false]
    have behind : stream.baseConfig.at_ segment.manifest.endExclusive
        (segment.manifest.windowOrdinal + 1) = segment.config.next segment.manifest := by
      rw [CaptureWalConfig.next, rest.held.chain.stream.2 segment member, ← baseConfig]
      rfl
    refine ⟨{ stream with currentOrdinal := segment.manifest.windowOrdinal + 1, current := sink },
      after, sealed, _, [], ?_, reopened.pass, ⟨reopened.opened, baseConfig, rfl⟩,
      (append_nil _).symm⟩
    have opened : openSegment (segment.manifest.windowOrdinal + 1)
        (segment.config.next segment.manifest) published = (.ok sink, after) := reopened.result
    rw [rotateIfNeeded, rounds, rotateLoop]
    simp only [count, last, valid, done, next, behind, opened]
    rw [if_neg (by decide), if_pos trivial, rotateLoop]
    simp only [reopened.opened.unsealed, if_true]

/-- Records go to the log of the open window and are synced. -/
theorem StreamOpened.written (opened : StreamOpened base files.disk sealed config records stream)
    (sound : CaptureWal.Sound config ⟨sink, walBytes config (records ++ extra), records ++ extra⟩)
    (window : OneWindow config (records ++ extra) (sink.ledger, sink.recovery.withTail 0))
    (keeps : ∀ disk, Between base (sealed.flatMap (·.records) ++ records)
      (sealed.flatMap (·.records) ++ records ++ extra) disk → property disk)
    (pass : files.Pass property) :
    let written := stream.writeAndSync (extra.flatMap CaptureRecord.bytes) files
    written.Pass property ∧ Attached base written.disk { stream with current := sink }
      (sealed.flatMap (·.records) ++ records ++ extra) := by
  intro written
  have own := opened.opened
  let file := CaptureFile.wal config.firstWindowOrdinal
  let whole : StoredFile :=
    ⟨walBytes config (records ++ extra), (walBytes config (records ++ extra)).length⟩
  let appended := files.disk.put file
    ⟨walBytes config (records ++ extra), (walBytes config records).length⟩
  have first : files.disk.append (.wal stream.currentOrdinal)
      (extra.flatMap CaptureRecord.bytes) = appended := by
    rw [opened.currentOrdinal, CaptureDisk.append, own.file]
    simp only [← walBytes_append]
    rfl
  have second : appended.sync (.wal stream.currentOrdinal) = appended.put file whole := by
    rw [opened.currentOrdinal, CaptureDisk.sync, CaptureDisk.lookup_put, if_pos rfl]
  have writing : Writing base appended sealed config records extra _ :=
    ⟨own.held.replaced _, window, (CaptureDisk.lookup_put _ _ _ _).trans (if_pos rfl), own.linked⟩
  have last : written.disk = appended.put file whole := by
    change (files.disk.append _ _).sync _ = _
    rw [first, second]
  have there : written.disk.lookup file = some whole := by
    rw [last, CaptureDisk.lookup_put, if_pos rfl]
  have attached : Attached base written.disk { stream with current := sink }
      (sealed.flatMap (·.records) ++ records ++ extra) := by
    have heldLast : Held base written.disk sealed config := by
      rw [last]
      exact (own.held.replaced _).replaced _
    have linked : file ∉ written.disk.unlinked := by
      rw [last]
      exact own.linked
    rcases window.open_or_sealed with unsealed | ⟨manifest, sealedWindow⟩
    · rw [append_assoc]
      exact .opened ⟨⟨heldLast, there, linked, window, sound, unsealed⟩, opened.baseConfig,
        opened.currentOrdinal⟩
    let segment : StoredSegment := ⟨config, records ++ extra, manifest⟩
    obtain ⟨added, absent⟩ := heldLast.add sealedWindow there linked
    have joined : sealed.flatMap (·.records) ++ records ++ extra =
        (sealed ++ [segment]).flatMap (·.records) := by
      rw [flatMap_append, flatMap_singleton, append_assoc]
    have member : segment ∈ sealed ++ [segment] :=
      mem_append_right _ (mem_singleton_self _)
    rw [joined]
    exact .closed ⟨added, absent ▸ .absent, fun _ => rfl⟩ member absent opened.baseConfig
      sealedWindow.count sealedWindow.last sealedWindow.joins.durable
  refine ⟨(pass.perform ?_).perform ?_, attached⟩
  · rw [first]
    exact keeps _ writing.between
  · exact keeps _ (attached.holds.between (prefix_append _ _) prefix_rfl)

/-- The records of a window with those that a call adds. -/
theorem Opened.extended (opened : Opened base disk sealed config records sink)
    {next : CaptureWalSink}
    (sound : CaptureWal.Sound config ⟨next, walBytes config (records ++ extra), records ++ extra⟩)
    (unsealed : ∀ front, front <+: extra → front ≠ extra → ∀ before,
      replay config.hardwareId (sink.ledger, sink.recovery) front = .ok before →
        before.2.sealedWindowCount = 0) :
    OneWindow config (records ++ extra) (next.ledger, next.recovery.withTail 0) where
  storable := sound.storable
  bounded := sound.bounded
  replayed := sound.replayed
  unsealed := by
    intro front first other before replayed
    rcases prefix_or_prefix_of_prefix first (prefix_append records extra) with
      within | ⟨tail, rfl⟩
    · by_cases all : front = records
      · rw [all] at replayed
        cases opened.sound.replayed.symm.trans replayed
        exact opened.unsealed
      · exact opened.window.unsealed front within all before replayed
    obtain ⟨middle, earlier, replayed⟩ := replay_append.mp replayed
    cases opened.sound.replayed.symm.trans earlier
    rw [replay_withTail] at replayed
    obtain ⟨reached, counted, rfl⟩ := map_eq_ok.mp replayed
    exact unsealed tail ((prefix_append_right_inj _).mp first)
      (fun same => other (congrArg _ same)) reached counted

/-- The records that a call committed. -/
def committedBy : Except CaptureSegmentError (List CaptureRecord) → List CaptureRecord
  | .ok records => records
  | .error _ => []

theorem StreamOpened.read (opened : StreamOpened base disk sealed config records stream) :
    disk.read (.wal stream.currentOrdinal) = walBytes config records := by
  rw [CaptureDisk.read, opened.currentOrdinal, opened.opened.file]
  rfl

/-- A batch is committed as a whole, up to a seal. -/
theorem CaptureSegmentStream.persist_attached (attached : Attached base disk stream log)
    (items : List CaptureItem) : let (result, next, files) := stream.persist items ⟨disk, []⟩
    files.Pass (Between base log (log ++ committedBy result)) ∧
      Attached base files.disk next (log ++ committedBy result) := by
  rw [persist]
  obtain ⟨rotated, files, sealed, config, records, done, pass, opened, same⟩ :=
    rotateIfNeeded_attached attached (fun _ => id) (.start attached.holds)
  simp only [done]
  rcases staging : rotated.current.beginBatch.stageAll items with ⟨replies, staged, batch⟩
  simp only [opened.read]
  have own := opened.opened
  have state := own.sound.state
  cases committed : rotated.current.commitBatch batch (walBytes config records) with
  | error error =>
    rw [same] at pass ⊢
    simp only [committedBy, append_nil]
    exact ⟨pass.weaken fun disk holds => holds.between prefix_rfl prefix_rfl,
      .opened opened⟩
  | ok written =>
    obtain ⟨sink, bytes⟩ := written
    obtain ⟨-, left, -⟩ := CaptureWalSink.commitBatch_eq_ok committed
    have stagedAll := CaptureWalBatch.stageAll_eq state.hardwareId state.bootEpoch staging
    have content : batch.bytes = staged.flatMap CaptureRecord.bytes := stagedAll.bytes
    have sound : CaptureWal.Sound config
        ⟨sink, walBytes config (records ++ staged), records ++ staged⟩ := by
      have sound := own.sound.persist items
      simp only [CaptureWal.persist, staging, committed] at sound
      rwa [left, content, ← walBytes_append] at sound
    have window := own.extended sound fun front first other before replayed =>
      CaptureWalBatch.stageAll_unsealed state.hardwareId state.bootEpoch own.unsealed staging
        first other replayed
    simp only [committedBy, content]
    rw [same] at pass ⊢
    exact opened.written sound window (fun _ => id)
      (pass.weaken fun disk holds => holds.between prefix_rfl (prefix_append _ _))

/-- A stream that refuses no item commits all of them. -/
theorem CaptureSegmentStream.persist_commits (attached : Attached base disk stream log)
    {items : List CaptureItem} (some : items ≠ []) :
    ∃ rotated after, stream.rotateIfNeeded ⟨disk, []⟩ = (.ok (), rotated, after) ∧
      ∀ batch, items.foldlM CaptureWalBatch.stage rotated.current.beginBatch = .ok batch →
        rotated.current.durableLen + batch.bytes.length < 2 ^ 64 →
          (stream.persist items ⟨disk, []⟩).1 = .ok (items.map (·.record)) := by
  obtain ⟨rotated, files, sealed, config, records, done, -, opened, -⟩ :=
    rotateIfNeeded_attached attached (fun _ => id) (.start attached.holds)
  refine ⟨rotated, files, done, fun batch staged fits => ?_⟩
  have state := opened.opened.sound.state
  obtain ⟨⟨replies, all⟩, counted⟩ := CaptureWalBatch.stageAll_of_foldlM staged
  have base := CaptureWalBatch.stageAll_eq state.hardwareId state.bootEpoch all
  have filled : batch.recordCount ≠ 0 := by
    intro none
    rw [none] at counted
    exact some (length_eq_zero_iff.mp (Nat.eq_zero_of_add_eq_zero_left counted))
  have fresh : ¬ (batch.baseDurableLen ≠ rotated.current.durableLen ∨
      batch.baseRecovery ≠ rotated.current.recovery) := by
    rw [base.baseDurableLen, base.baseRecovery]
    exact fun stale => stale.elim (absurd rfl) (absurd rfl)
  rw [persist, done]
  simp only [all, CaptureWalSink.commitBatch, if_neg filled, if_neg fresh,
    if_neg (Nat.not_le_of_lt fits)]

theorem CaptureWalSink.finishWindow_last {next : CaptureWalSink} {file left : List UInt8}
    (done : sink.finishWindow file = .ok (some manifest, next, left)) :
    next.recovery.lastSealedWindow = some manifest ∧ next.recovery.sealedWindowCount ≠ 0 := by
  obtain ⟨⟨found, last⟩, -, done⟩ := bind_eq_ok.mp done
  cases found with
  | none => cases done
  | some value =>
    obtain ⟨-, done⟩ := guard_eq_ok.mp done
    obtain ⟨records, -, done⟩ := bind_eq_ok.mp done
    obtain ⟨recovery, windows, done⟩ := bind_eq_ok.mp done
    cases done
    obtain ⟨count, added, windows⟩ := bind_eq_ok.mp windows
    cases windows
    refine ⟨rfl, fun none => ?_⟩
    rw [addCounter] at added
    split at added
    · rename_i sum counted
      cases added
      have sum := checkedAdd_eq_some.mp counted
      rw [show count = 0 from none, UInt64.toNat_one] at sum
      exact Nat.succ_ne_zero _ sum
    · cases added

theorem publishManifest_attached (pass : files.Pass (Between base front log))
    (attached : Attached base files.disk stream log)
    (last : stream.current.recovery.lastSealedWindow = some manifest)
    (counted : stream.current.recovery.sealedWindowCount ≠ 0) (first : front <+: log) :
    ∃ after, publishManifest manifest files = (.ok (), after) ∧
      after.Pass (Between base front log) ∧ Attached base after.disk stream log := by
  cases attached with
  | opened opened => exact absurd opened.opened.unsealed counted
  | @closed sealed segment rest member absent baseConfig count found durable =>
    cases last.symm.trans found
    obtain ⟨after, done, pass, rest, step, -⟩ := publishManifest_rest rest member
      (fun disk rest => Holds.between ⟨_, _, _, rest, (append_nil _).symm⟩ first
        prefix_rfl) pass
    exact ⟨after, done, pass,
      .closed rest member ((step.wals _).trans absent) baseConfig count found durable⟩

/-- A seal that a call commits. -/
def sealedBy : Except CaptureSegmentError (Option CaptureWindowManifest) → List CaptureRecord
  | .ok (some _) => [.windowSeal]
  | _ => []

/-- A window is sealed and its manifest published. -/
theorem CaptureSegmentStream.finishWindow_attached (attached : Attached base disk stream log) :
    let (result, next, files) := stream.finishWindow ⟨disk, []⟩
    files.Pass (Between base log (log ++ sealedBy result)) ∧
      Attached base files.disk next (log ++ sealedBy result) := by
  rw [finishWindow]
  obtain ⟨rotated, files, sealed, config, records, done, pass, opened, same⟩ :=
    rotateIfNeeded_attached attached (fun _ => id) (.start attached.holds)
  simp only [done, opened.read]
  have own := opened.opened
  have state := own.sound.state
  have unchanged : files.Pass (Between base log (log ++ [])) ∧
      Attached base files.disk rotated (log ++ []) := by
    rw [append_nil]
    refine ⟨pass.weaken fun disk holds => holds.between prefix_rfl prefix_rfl, ?_⟩
    rw [same]
    exact .opened opened
  cases finished : rotated.current.finishWindow (walBytes config records) with
  | error error => exact unchanged
  | ok outcome =>
    obtain ⟨manifest, sink, bytes⟩ := outcome
    obtain ⟨rfl, rfl, rfl⟩ | ⟨found, rfl, replayed, after, fits⟩ :=
      CaptureWalSink.finishWindow_eq_ok config.hardwareId state.cursor finished
    · exact unchanged
    obtain ⟨manifest, rfl⟩ := Option.isSome_iff_exists.mp found
    have one : [CaptureRecord.windowSeal].flatMap CaptureRecord.bytes =
        CaptureRecord.windowSeal.bytes := flatMap_singleton _ _
    have sound : CaptureWal.Sound config ⟨sink,
        walBytes config (records ++ [.windowSeal]), records ++ [.windowSeal]⟩ := by
      have sound := own.sound.finishWindow
      simp only [CaptureWal.finishWindow, finished, Option.isSome_some, if_true] at sound
      rwa [← one, ← walBytes_append] at sound
    have window := own.extended sound fun front first other before replayed => by
      cases front with
      | nil =>
        cases replayed
        exact own.unsealed
      | cons record front =>
        obtain ⟨rfl, none⟩ := cons_prefix_cons.mp first
        exact absurd (congrArg _ (prefix_nil.mp none)) other
    rw [same] at pass ⊢
    obtain ⟨passed, written⟩ := opened.written sound window (fun _ => id)
      (pass.weaken fun disk holds => holds.between prefix_rfl (prefix_append _ _))
    rw [one] at passed written
    obtain ⟨kept, counted⟩ := CaptureWalSink.finishWindow_last finished
    obtain ⟨after, done, pass, attached⟩ :=
      publishManifest_attached passed written kept counted (prefix_append _ _)
    have done : publishManifest manifest
        (rotated.writeAndSync (wrapRecord .windowSeal []) files) = (.ok (), after) := done
    simp only [done]
    exact ⟨pass, attached⟩

end SensorSystem.Host
