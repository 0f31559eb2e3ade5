import SensorSystem.Host.Capture.CaptureWalRuns

/-! What a recovered log reports about the tail it lost is not read by any call. So it replies
like the log of its records alone, step by step and over whole runs, later crashes included. -/

namespace SensorSystem.Host

open Base

def CaptureWalBatch.withTail (batch : CaptureWalBatch) (tail : UInt64) : CaptureWalBatch :=
  { batch with
    baseRecovery := batch.baseRecovery.withTail tail
    recovery := batch.recovery.withTail tail }

namespace CaptureWalBatch

variable (batch : CaptureWalBatch) (tail : UInt64)

theorem stagePlanned_withTail (record : List UInt8) (plan : CaptureAppendPlan)
    (counters : RecordCounters) : (batch.withTail tail).stagePlanned record plan counters =
      (·.withTail tail) <$> batch.stagePlanned record plan counters := by
  simp only [stagePlanned_eq, withTail, count_withTail, map_bind, bind_map_left, map_ok]

theorem stage_withTail (item : CaptureItem) :
    (batch.withTail tail).stage item = (·.withTail tail) <$> batch.stage item := by
  cases item with
  | chunk hardwareId chunk =>
    simp only [stage, stageChunk, stagePlanned_withTail, map_bind]
    rfl
  | gap gap =>
    simp only [stage, stageGap, stagePlanned_withTail, map_bind]
    rfl
  | continuityBreak observed =>
    simp only [stage, stageContinuityBreak, stagePlanned_withTail, map_bind]
    rfl

theorem stageAll_withTail (items : List CaptureItem) : (batch.withTail tail).stageAll items =
      ((batch.stageAll items).1, (batch.stageAll items).2.1,
        (batch.stageAll items).2.2.withTail tail) := by
  induction items generalizing batch with
  | nil => rfl
  | cons item rest ih =>
    rw [stageAll, stage_withTail]
    cases staged : batch.stage item with
    | error error =>
      simp only [stageAll, staged, ih]
      rfl
    | ok next =>
      simp only [stageAll, staged, map_ok, ih]
      rfl

end CaptureWalBatch

theorem CaptureWalSink.commitBatch_withTail {sink : CaptureWalSink} {batch : CaptureWalBatch}
    (fresh : batch.baseRecovery = sink.recovery) (tail : UInt64) (file : List UInt8) :
    (sink.withTail tail).commitBatch (batch.withTail tail) file =
      (fun result => (result.1.withTail tail, result.2)) <$> sink.commitBatch batch file := by
  have freshTail : (batch.withTail tail).baseRecovery = (sink.withTail tail).recovery :=
    congrArg (·.withTail tail) fresh
  simp only [commitBatch, fresh, freshTail, ne_eq, not_true_eq_false, or_false]
  split_ifs <;> first | rfl | contradiction

theorem CaptureWalSink.finishWindow_withTail (sink : CaptureWalSink) (tail : UInt64)
    (file : List UInt8) : (sink.withTail tail).finishWindow file =
      (fun result => (result.1, result.2.1.withTail tail, result.2.2)) <$>
        sink.finishWindow file := by
  unfold finishWindow
  change windowCheck sink.ledger.finish >>= _ = _
  cases windowCheck sink.ledger.finish with
  | error error => rfl
  | ok finished =>
    obtain ⟨manifest, after⟩ := finished
    cases manifest with
    | none => rfl
    | some manifest =>
      have same : (sink.withTail tail).durableLen = sink.durableLen := rfl
      simp only [ok_bind, CaptureWalRecovery.countSealed, same]
      by_cases long : sink.durableLen + (wrapRecord .windowSeal []).length ≥ 2 ^ 64
      · simp only [if_pos long]
        rfl
      simp only [if_neg long, withTail, CaptureWalRecovery.withTail]
      cases addCounter sink.recovery.recordCount 1 with
      | error error => rfl
      | ok records => cases addCounter sink.recovery.sealedWindowCount 1 <;> rfl

namespace CaptureWal

variable {config : CaptureWalConfig} {wal : CaptureWal}

theorem persist_withTail (sound : Sound config wal) (tail : UInt64) (items : List CaptureItem) :
    (wal.withTail tail).persist items =
      ((wal.persist items).1, (wal.persist items).2.withTail tail) := by
  have state := sound.state
  have begun : (wal.withTail tail).sink.beginBatch = wal.sink.beginBatch.withTail tail := rfl
  unfold persist
  rw [begun, CaptureWalBatch.stageAll_withTail]
  rcases staging : wal.sink.beginBatch.stageAll items with ⟨replies, records, batch⟩
  have staged := CaptureWalBatch.stageAll_eq state.hardwareId state.bootEpoch staging
  have committed : (wal.withTail tail).sink.commitBatch (batch.withTail tail)
      (wal.withTail tail).file = _ :=
    CaptureWalSink.commitBatch_withTail staged.baseRecovery tail wal.file
  dsimp only
  rw [committed]
  cases wal.sink.commitBatch batch wal.file <;> rfl

theorem finishWindow_withTail (wal : CaptureWal) (tail : UInt64) :
    (wal.withTail tail).finishWindow =
      (wal.finishWindow.1, wal.finishWindow.2.withTail tail) := by
  have finished : (wal.withTail tail).sink.finishWindow (wal.withTail tail).file = _ :=
    wal.sink.finishWindow_withTail tail wal.file
  unfold finishWindow
  rw [finished]
  cases wal.sink.finishWindow wal.file <;> rfl

/-- Two logs that differ in the report of an earlier tail at most. -/
def Alike (first second : CaptureWal) : Prop :=
  first.withTail 0 = second.withTail 0

variable {first second : CaptureWal}

/-- They reply alike, and stay so. -/
theorem Alike.step (alike : Alike first second) (firstSound : Sound config first)
    (secondSound : Sound config second) (step : CaptureWalStep) :
    (first.step config step).1 = (second.step config step).1 ∧
      Alike (first.step config step).2 (second.step config step).2 := by
  cases step with
  | persist items =>
    have same := congrArg (·.persist items) alike
    simp only [persist_withTail firstSound, persist_withTail secondSound] at same
    exact Prod.mk.inj same
  | finishWindow =>
    have same := congrArg finishWindow alike
    simp only [finishWindow_withTail] at same
    exact Prod.mk.inj same
  | crash room =>
    obtain ⟨-, file, records⟩ := CaptureWal.mk.inj alike
    simp only [CaptureWal.step, crash, file, records]
    cases CaptureWalSink.openFile (second.file.take (fileHeaderBytes + room)) config with
    | error error => exact ⟨rfl, alike⟩
    | ok opened => exact ⟨rfl, rfl⟩

theorem Alike.run (alike : Alike first second) (openable : Openable config)
    (firstSound : Sound config first) (secondSound : Sound config second)
    (steps : List CaptureWalStep) : (first.run config steps).1 = (second.run config steps).1 ∧
      Alike (first.run config steps).2 (second.run config steps).2 := by
  induction steps generalizing first second with
  | nil => exact ⟨rfl, alike⟩
  | cons step rest ih =>
    obtain ⟨replies, next⟩ := alike.step firstSound secondSound step
    obtain ⟨later, last⟩ := ih next (firstSound.step openable step) (secondSound.step openable step)
    exact ⟨congrArg₂ (· ++ ·) replies later, last⟩

/-- A log whose header and some bytes behind it survive a crash is opened with the
records that lie whole in what survived: their replay, their bytes, and a report
of the rest. From there on it behaves like the log of these records alone. When
nothing was lost, the writer is back as it was. -/
theorem recovery_replays_survivors {created : CaptureWal} (done : create config = .ok created)
    (steps : List CaptureWalStep) (room : Nat) : let wal := (created.run config steps).2
    let survived := wal.file.take (fileHeaderBytes + room)
    let kept := survivingRecords room wal.records
    wal.file = walBytes config wal.records ∧
    (kept <+: wal.records ∧ ∀ whole, whole <+: wal.records →
      (whole <+: kept ↔ walBytes config whole <+: survived)) ∧
    ∃ sink, CaptureWalSink.openFile survived config = .ok (sink, walBytes config kept) ∧
      replay config.hardwareId config.initial kept = .ok (sink.ledger, sink.recovery.withTail 0) ∧
      sink.durableLen = (walBytes config kept).length ∧
      sink.recovery.truncatedTailBytes.toNat =
        survived.length - (walBytes config kept).length ∧
      (∃ clean, CaptureWalSink.openFile (walBytes config kept) config =
          .ok (clean, walBytes config kept) ∧
        ∀ later,
          (run config ⟨sink, walBytes config kept, kept⟩ later).1 =
            (run config ⟨clean, walBytes config kept, kept⟩ later).1 ∧
          Alike (run config ⟨sink, walBytes config kept, kept⟩ later).2
            (run config ⟨clean, walBytes config kept, kept⟩ later).2) ∧
      (survived = wal.file → sink = wal.sink.withTail 0) := by
  intro wal survived kept
  obtain ⟨openable, start⟩ := create_eq_ok done
  have sound : Sound config wal := start.run openable steps
  obtain ⟨storable, bounded, state, replayed⟩ := sound.survives room
  obtain ⟨torn, parts, opened⟩ := sound.openFile_survived openable room replayed
  have recovered : Sound config ⟨recoveredSink config kept torn.length state, _, _⟩ :=
    .of_recoveredSink torn.length storable bounded replayed
  have cleaned : Sound config ⟨recoveredSink config kept 0 state, _, _⟩ :=
    .of_recoveredSink 0 storable bounded replayed
  have length : survived.length = (walBytes config kept).length + torn.length := by
    rw [← List.length_append, ← parts]
  refine ⟨sound.file, ⟨prefix_wholeRecords _ _ _, fun whole first => ?_⟩,
    recoveredSink config kept torn.length state, opened, recovered.replayed, rfl, ?_,
    ⟨recoveredSink config kept 0 state, ?_, fun later => ?_⟩, fun intact => ?_⟩
  · rw [sound.prefix_survivingRecords_iff room first]
  · have short : survived.length ≤ wal.file.length := List.length_take_le' _ _
    have small := sound.bounded
    change (UInt64.ofNat torn.length).toNat = _
    rw [UInt64.toNat_ofNat', Nat.mod_eq_of_lt (by omega)]
    omega
  · have opened := openFile_torn openable storable bounded (.inl rfl) replayed
    rwa [List.append_nil] at opened
  · have alike : Alike ⟨recoveredSink config kept torn.length state, walBytes config kept, kept⟩
        ⟨recoveredSink config kept 0 state, walBytes config kept, kept⟩ := rfl
    exact alike.run openable recovered cleaned later
  · exact sound.recoveredSink_of_intact room intact parts replayed

/-- A stream for the log below. -/
def firstCapture : CaptureWalConfig where
  hardwareId := Vector.replicate 8 7
  bootEpoch := 1
  recoveredCursor := 0
  firstWindowOrdinal := 0
  windowPolicy := ⟨600000000⟩

/-- A break is stored and its window sealed; the crash tears the seal. -/
theorem recovery_replays_survivors_firstCapture :
    ∃ created sink, create firstCapture = .ok created ∧
      let steps := [.persist [.continuityBreak
        ⟨firstCapture.hardwareId, firstCapture.bootEpoch, 0, .processingReset, by decide⟩],
        .finishWindow]
      CaptureWalSink.openFile
          ((created.run firstCapture steps).2.file.take (fileHeaderBytes + 30)) firstCapture =
        .ok (sink, walBytes firstCapture
          (survivingRecords 30 (created.run firstCapture steps).2.records)) := by
  have openable : Openable firstCapture := openable_of_nonzero (by decide) (by decide)
  have created := create_of_openable openable
  obtain ⟨-, -, sink, opened, -⟩ := recovery_replays_survivors created _ 30
  exact ⟨_, sink, created, opened⟩

end CaptureWal
end SensorSystem.Host
