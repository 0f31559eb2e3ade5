import SensorSystem.Base.TornTail
import SensorSystem.Host.Capture.CaptureWalCodec

/-! The state of a log is a function of its records: recovery folds them through the ledger, and
the writer, which stages them one by one, arrives at the same state. -/

namespace SensorSystem.Host

open Base
open Framing (crc32c)

/-- The ledger and the counters after a list of records. -/
def replay (hardwareId : HardwareId) (state : CaptureWindowLedger × CaptureWalRecovery)
    (records : List CaptureRecord) :
    Except CaptureWalError (CaptureWindowLedger × CaptureWalRecovery) :=
  records.foldlM (replayRecord hardwareId) state

variable {hardwareId : HardwareId}

theorem replay_append {state after} {first second : List CaptureRecord} :
    replay hardwareId state (first ++ second) = .ok after ↔
      ∃ middle, replay hardwareId state first = .ok middle ∧
        replay hardwareId middle second = .ok after := by
  rw [replay, List.foldlM_append, bind_eq_ok]
  rfl

theorem replay_concat {state middle after} {records : List CaptureRecord} {record : CaptureRecord}
    (before : replay hardwareId state records = .ok middle)
    (next : replayRecord hardwareId middle record = .ok after) :
    replay hardwareId state (records ++ [record]) = .ok after := by
  refine replay_append.mpr ⟨middle, before, ?_⟩
  rw [replay, List.foldlM_cons, next]
  rfl

/-! `truncated_tail_bytes` says what the last recovery cut off. Nothing reads it. -/

def CaptureWalRecovery.withTail (recovery : CaptureWalRecovery) (tail : UInt64) :
    CaptureWalRecovery :=
  { recovery with truncatedTailBytes := tail }

variable (recovery : CaptureWalRecovery)

@[simp] theorem CaptureWalRecovery.withTail_withTail
    (first second : UInt64) :
      (recovery.withTail first).withTail second = recovery.withTail second :=
  rfl

theorem CaptureWalRecovery.withTail_self :
    recovery.withTail recovery.truncatedTailBytes = recovery := rfl

theorem countSealed_withTail (tail : UInt64)
    (manifest : Option CaptureWindowManifest) : (recovery.withTail tail).countSealed manifest =
      (·.withTail tail) <$> recovery.countSealed manifest := by
  cases manifest with
  | none => rfl
  | some manifest =>
    simp only [CaptureWalRecovery.countSealed, CaptureWalRecovery.withTail]
    cases addCounter recovery.sealedWindowCount 1 <;> rfl

namespace CaptureWindowLedger

/-- The stream of the ledger stays. -/
structure SameStream (before after : CaptureWindowLedger) : Prop where
  hardwareId : after.hardwareId = before.hardwareId
  bootEpoch : after.bootEpoch = before.bootEpoch

variable {ledger : CaptureWindowLedger}

variable {after : CaptureWindowLedger}

theorem sameStream_sealed {sealReason manifest}
    (done : ledger.sealed sealReason = .ok (manifest, after)) :
    SameStream ledger after ∧ after.nextCursor = ledger.nextCursor := by
  obtain ⟨⟨found, last⟩, sealed, same⟩ := map_eq_ok.mp done
  cases same
  rw [sealWindow] at sealed
  split at sealed
  · cases sealed
  split at sealed
  · cases sealed
  · cases sealed
    exact ⟨⟨rfl, rfl⟩, rfl⟩

theorem sameStream_applyChunk {hardwareId chunk manifest}
    (done : ledger.applyChunk hardwareId chunk = .ok (manifest, after)) :
    SameStream ledger after := by
  obtain ⟨-, done⟩ := check_eq_ok.mp done
  split at done
  · cases done
  obtain ⟨-, done⟩ := check_eq_ok.mp done
  simp only at done
  split at done
  · cases done
  split at done
  · have kept := (sameStream_sealed done).1
    exact ⟨kept.hardwareId, kept.bootEpoch⟩
  split at done
  · have kept := (sameStream_sealed done).1
    exact ⟨kept.hardwareId, kept.bootEpoch⟩
  · cases done
    exact ⟨rfl, rfl⟩

theorem sameStream_applyGap {gap manifest}
    (done : ledger.applyGap gap = .ok (manifest, after)) : SameStream ledger after := by
  obtain ⟨-, done⟩ := check_eq_ok.mp done
  obtain ⟨-, done⟩ := check_eq_ok.mp done
  split at done
  · cases done
  simp only at done
  split at done
  · cases done
  · cases done
    exact ⟨rfl, rfl⟩

theorem sameStream_applyContinuityBreak {observed manifest}
    (done : ledger.applyContinuityBreak observed = .ok (manifest, after)) :
    SameStream ledger after := by
  obtain ⟨-, done⟩ := check_eq_ok.mp done
  obtain ⟨-, done⟩ := check_eq_ok.mp done
  simp only at done
  split at done
  · cases done
  · cases done
    exact ⟨rfl, rfl⟩

theorem sameStream_finish {manifest}
    (done : ledger.finish = .ok (manifest, after)) :
    SameStream ledger after ∧ after.nextCursor = ledger.nextCursor := by
  rw [finish] at done
  split at done
  · cases done
    exact ⟨⟨rfl, rfl⟩, rfl⟩
  · exact sameStream_sealed done

theorem validateStream_eq_ok {hardwareId bootEpoch} :
    ledger.validateStream hardwareId bootEpoch = .ok () ↔
      hardwareId = ledger.hardwareId ∧ bootEpoch = ledger.bootEpoch := by
  rw [validateStream, guard_eq_ok, guard_eq_ok]
  simp only [ne_eq, not_not, and_true]

variable {applied : Applied} {plan : CaptureAppendPlan}

/-- A plan succeeds with the append it plans. -/
theorem applied_of_plan (planned : windowCheck (ledger.plan applied) = .ok plan) :
    ∃ result, applied = .ok result := by
  obtain ⟨result, done, -⟩ := map_eq_ok.mp (mapError_eq_ok.mp planned)
  exact ⟨result, done⟩

/-- A plan is committed as it was planned. -/
theorem commit_plan (planned : ledger.plan applied = .ok plan) : ledger.commit plan = applied := by
  obtain ⟨⟨manifest, after⟩, done, rfl⟩ := map_eq_ok.mp planned
  rw [done, commit, if_neg (by simp)]

end CaptureWindowLedger

/-- What a record does to the ledger. -/
def CaptureRecord.appliedTo (hardwareId : HardwareId) (ledger : CaptureWindowLedger) :
    CaptureRecord → CaptureWindowLedger.Applied
  | sampleChunk chunk => ledger.applyChunk hardwareId chunk
  | gap value => ledger.applyGap value
  | continuityBreak observed => ledger.applyContinuityBreak observed
  | windowSeal => ledger.finish

def CaptureRecord.counters : CaptureRecord → RecordCounters
  | sampleChunk chunk => { samples := chunk.header.sampleCount.toUInt64 }
  | gap value => { missingSamples := value.missingCount }
  | continuityBreak _ => { continuityBreaks := 1 }
  | windowSeal => {}

/-- The counters after one more record, in the order of the writer. -/
def CaptureWalRecovery.count (recovery : CaptureWalRecovery) (counters : RecordCounters)
    (manifest : Option CaptureWindowManifest) (durableCursor : SequenceCursor) :
    Except CaptureWalError CaptureWalRecovery := do
  let recordCount ← addCounter recovery.recordCount 1
  let sampleCount ← addCounter recovery.sampleCount counters.samples
  let missingSampleCount ← addCounter recovery.missingSampleCount counters.missingSamples
  let continuityBreakCount ← addCounter recovery.continuityBreakCount counters.continuityBreaks
  { recovery with
    durableCursor, recordCount, sampleCount, missingSampleCount,
    continuityBreakCount }.countSealed manifest

theorem addCounter_zero (value : UInt64) : addCounter value 0 = .ok value := by
  have sum : checkedAdd value 0 = some value :=
    checkedAdd_eq_some.mpr (Nat.add_zero _)
  rw [addCounter, sum]

/-- A plan that is committed at once is the append it plans. -/
theorem windowCheck_plan {β : Type} (ledger : CaptureWindowLedger)
    (applied : CaptureWindowLedger.Applied)
    (next : Option CaptureWindowManifest × CaptureWindowLedger → Except CaptureWalError β) :
    (windowCheck (ledger.plan applied) >>= fun plan => windowCheck (ledger.commit plan) >>= next) =
      windowCheck applied >>= next := by
  cases planned : ledger.plan applied with
  | error error =>
    cases applied with
    | error => cases planned; rfl
    | ok => cases planned
  | ok plan =>
    have committed := CaptureWindowLedger.commit_plan planned
    change windowCheck (ledger.commit plan) >>= next = _
    rw [committed]

/-- Two counters fail alike, so their order does not show. -/
theorem addCounter_comm {β : Type} (first second other more : UInt64)
    (next : UInt64 → UInt64 → Except CaptureWalError β) :
    (addCounter first other >>= fun left => addCounter second more >>= fun right =>
      next left right) =
    (addCounter second more >>= fun right => addCounter first other >>= fun left =>
      next left right) := by
  simp only [addCounter]
  cases checkedAdd first other <;> cases checkedAdd second more <;> rfl

/-- Recovery counts behind the window that it seals. -/
theorem countSealed_bind (report : CaptureWalRecovery) (manifest : Option CaptureWindowManifest)
    (last : CaptureWindowLedger) : (report.countSealed manifest >>= fun report => do
      let recordCount ← addCounter report.recordCount 1
      .ok (last, { report with recordCount, durableCursor := last.nextCursor })) =
    (addCounter report.recordCount 1 >>= fun recordCount => do
      let counted ← { report with
        durableCursor := last.nextCursor, recordCount }.countSealed manifest
      .ok (last, counted)) := by
  cases manifest with
  | none => rfl
  | some manifest =>
    simp only [CaptureWalRecovery.countSealed, bind_assoc, ok_bind]
    exact addCounter_comm _ _ _ _ _

/-- Replay applies a record to the ledger and counts it. -/
theorem replayRecord_eq (hardwareId : HardwareId) (record : CaptureRecord)
    (ledger : CaptureWindowLedger) (recovery : CaptureWalRecovery) :
    replayRecord hardwareId (ledger, recovery) record = (do
      let (manifest, last) ← windowCheck (record.appliedTo hardwareId ledger)
      let counted ← recovery.count record.counters manifest last.nextCursor
      .ok (last, counted)) := by
  unfold replayRecord applyRecord CaptureWalRecovery.count
  cases record with
  | sampleChunk chunk =>
    simp only [CaptureWindowLedger.planChunk, windowCheck_plan, CaptureRecord.appliedTo,
      CaptureRecord.counters, addCounter_zero, ok_bind, bind_assoc, countSealed_bind]
    simp only [addCounter_comm recovery.sampleCount recovery.recordCount]
  | gap value =>
    simp only [CaptureWindowLedger.planGap, windowCheck_plan, CaptureRecord.appliedTo,
      CaptureRecord.counters, addCounter_zero, ok_bind, bind_assoc, countSealed_bind]
    simp only [addCounter_comm recovery.missingSampleCount recovery.recordCount]
  | continuityBreak observed =>
    simp only [CaptureWindowLedger.planContinuityBreak, windowCheck_plan, CaptureRecord.appliedTo,
      CaptureRecord.counters, addCounter_zero, ok_bind, bind_assoc, countSealed_bind]
    simp only [addCounter_comm recovery.continuityBreakCount recovery.recordCount]
  | windowSeal =>
    simp only [CaptureRecord.appliedTo,
      CaptureRecord.counters, addCounter_zero, ok_bind, bind_assoc, countSealed_bind]

theorem count_withTail (recovery : CaptureWalRecovery) (tail : UInt64) (counters : RecordCounters)
    (manifest : Option CaptureWindowManifest) (cursor : SequenceCursor) :
    (recovery.withTail tail).count counters manifest cursor =
      (·.withTail tail) <$> recovery.count counters manifest cursor := by
  simp only [CaptureWalRecovery.count, map_bind, ← countSealed_withTail]
  rfl

/-- The report of an earlier tail is carried along. -/
theorem replayRecord_withTail (hardwareId : HardwareId) (record : CaptureRecord)
    (ledger : CaptureWindowLedger) (recovery : CaptureWalRecovery) (tail : UInt64) :
    replayRecord hardwareId (ledger, recovery.withTail tail) record =
      (fun state => (state.1, state.2.withTail tail)) <$>
        replayRecord hardwareId (ledger, recovery) record := by
  simp only [replayRecord_eq, count_withTail, map_bind, bind_map_left, map_ok]

theorem replay_withTail (hardwareId : HardwareId) (records : List CaptureRecord)
    (ledger : CaptureWindowLedger) (recovery : CaptureWalRecovery) (tail : UInt64) :
    replay hardwareId (ledger, recovery.withTail tail) records =
      (fun state => (state.1, state.2.withTail tail)) <$>
        replay hardwareId (ledger, recovery) records := by
  induction records generalizing ledger recovery with
  | nil => rfl
  | cons record rest ih =>
    simp only [replay, List.foldlM_cons, replayRecord_withTail, bind_map_left, map_bind] at ih ⊢
    simp only [ih]

variable {recovery}

theorem count_durableCursor {after : CaptureWalRecovery} {counters manifest cursor}
    (counted : recovery.count counters manifest cursor = .ok after) :
    after.durableCursor = cursor := by
  obtain ⟨records, -, counted⟩ := bind_eq_ok.mp counted
  obtain ⟨samples, -, counted⟩ := bind_eq_ok.mp counted
  obtain ⟨missing, -, counted⟩ := bind_eq_ok.mp counted
  obtain ⟨breaks, -, counted⟩ := bind_eq_ok.mp counted
  cases manifest with
  | none =>
    cases counted
    rfl
  | some manifest =>
    obtain ⟨windows, -, counted⟩ := bind_eq_ok.mp counted
    cases counted
    rfl

theorem count_tail {after : CaptureWalRecovery} {counters manifest cursor}
    (counted : recovery.count counters manifest cursor = .ok after) :
    after.truncatedTailBytes = recovery.truncatedTailBytes := by
  have carried := count_withTail recovery recovery.truncatedTailBytes counters manifest cursor
  rw [recovery.withTail_self, counted, map_ok] at carried
  have same := Except.ok.inj carried
  exact (congrArg CaptureWalRecovery.truncatedTailBytes same).trans rfl

theorem CaptureRecord.sameStream_appliedTo {record : CaptureRecord}
    {ledger last : CaptureWindowLedger} {manifest}
    (done : record.appliedTo hardwareId ledger = .ok (manifest, last)) :
    CaptureWindowLedger.SameStream ledger last := by
  cases record with
  | sampleChunk chunk => exact CaptureWindowLedger.sameStream_applyChunk done
  | gap value => exact CaptureWindowLedger.sameStream_applyGap done
  | continuityBreak observed => exact CaptureWindowLedger.sameStream_applyContinuityBreak done
  | windowSeal => exact (CaptureWindowLedger.sameStream_finish done).1

/-- What every state that replay reaches has in common. -/
structure Replayed (config : CaptureWalConfig) (state : CaptureWindowLedger × CaptureWalRecovery) :
    Prop where
  hardwareId : state.1.hardwareId = config.hardwareId
  bootEpoch : state.1.bootEpoch = config.bootEpoch
  cursor : state.2.durableCursor = state.1.nextCursor
  tail : state.2.truncatedTailBytes = 0

namespace Replayed

variable {config : CaptureWalConfig} {state after : CaptureWindowLedger × CaptureWalRecovery}

theorem step {record : CaptureRecord} (before : Replayed config state)
    (done : replayRecord config.hardwareId state record = .ok after) : Replayed config after := by
  rw [replayRecord_eq] at done
  obtain ⟨⟨manifest, last⟩, applied, done⟩ := bind_eq_ok.mp done
  obtain ⟨counted, counts, done⟩ := bind_eq_ok.mp done
  cases done
  have stream := CaptureRecord.sameStream_appliedTo (mapError_eq_ok.mp applied)
  constructor
  · exact stream.hardwareId.trans before.hardwareId
  · exact stream.bootEpoch.trans before.bootEpoch
  · exact count_durableCursor counts
  · exact (count_tail counts).trans before.tail

theorem run {records : List CaptureRecord} (before : Replayed config state)
    (done : replay config.hardwareId state records = .ok after) : Replayed config after := by
  induction records generalizing state with
  | nil =>
    cases done
    exact before
  | cons record rest ih =>
    obtain ⟨middle, first, rest⟩ := bind_eq_ok.mp done
    exact ih (before.step first) rest

theorem initial (config : CaptureWalConfig) : Replayed config config.initial :=
  ⟨rfl, rfl, rfl, rfl⟩

end Replayed

/-- What a caller stages. A chunk comes with the hardware it was pulled from. -/
inductive CaptureItem where
  | chunk (hardwareId : HardwareId) (chunk : SampleChunk)
  | gap (gap : Gap)
  | continuityBreak (observed : ContinuityBreak)
deriving DecidableEq

def CaptureItem.record : CaptureItem → CaptureRecord
  | chunk _ value => .sampleChunk value
  | gap value => .gap value
  | continuityBreak observed => .continuityBreak observed

namespace CaptureWalBatch

def stage (batch : CaptureWalBatch) : CaptureItem → Except CaptureWalError CaptureWalBatch
  | .chunk hardwareId chunk => batch.stageChunk hardwareId chunk
  | .gap gap => batch.stageGap gap
  | .continuityBreak observed => batch.stageContinuityBreak observed

variable {config : CaptureWalConfig} {batch after : CaptureWalBatch}

/-- A batch with one more record. -/
structure Staged (config : CaptureWalConfig) (batch : CaptureWalBatch) (record : CaptureRecord)
    (after : CaptureWalBatch) : Prop where
  storable : record.Storable config
  replayed : replayRecord config.hardwareId (batch.ledger, batch.recovery) record =
    .ok (after.ledger, after.recovery)
  bytes : after.bytes = batch.bytes ++ record.bytes
  baseDurableLen : after.baseDurableLen = batch.baseDurableLen
  baseRecovery : after.baseRecovery = batch.baseRecovery

theorem stagePlanned_eq (batch : CaptureWalBatch) (record : List UInt8) (plan : CaptureAppendPlan)
    (counters : RecordCounters) : batch.stagePlanned record plan counters = (do
      let (manifest, ledger) ← windowCheck (batch.ledger.commit plan)
      let recovery ← batch.recovery.count counters manifest ledger.nextCursor
      let staged ← addCounter batch.recordCount 1
      .ok { batch with
        ledger
        recovery
        bytes := batch.bytes ++ record
        recordCount := staged
        sealed := manifest.isSome }) := by
  simp only [stagePlanned, CaptureWalRecovery.count, bind_assoc]

theorem stagePlanned_eq_ok {plan : CaptureAppendPlan} {record : CaptureRecord}
    (planned : batch.ledger.plan (record.appliedTo config.hardwareId batch.ledger) = .ok plan)
    (storable : record.Storable config)
    (done : batch.stagePlanned record.bytes plan record.counters = .ok after) :
    Staged config batch record after := by
  rw [stagePlanned_eq, CaptureWindowLedger.commit_plan planned] at done
  obtain ⟨⟨manifest, last⟩, applied, done⟩ := bind_eq_ok.mp done
  obtain ⟨recovery, counted, done⟩ := bind_eq_ok.mp done
  obtain ⟨staged, -, done⟩ := bind_eq_ok.mp done
  cases done
  refine ⟨storable, ?_, rfl, rfl, rfl⟩
  simp only [replayRecord_eq, applied, counted, ok_bind]

/-- What is staged is what recovery replays. -/
theorem stage_eq_ok {item : CaptureItem} (hardware : batch.ledger.hardwareId = config.hardwareId)
    (epoch : batch.ledger.bootEpoch = config.bootEpoch) (done : batch.stage item = .ok after) :
    Staged config batch item.record after := by
  cases item with
  | chunk hardwareId chunk =>
    obtain ⟨-, done⟩ := check_eq_ok.mp done
    obtain ⟨plan, planned, done⟩ := bind_eq_ok.mp done
    obtain ⟨record, encoded, staged⟩ := bind_eq_ok.mp done
    obtain ⟨valid, written⟩ := check_eq_ok.mp encoded
    cases written
    obtain ⟨result, applied⟩ := CaptureWindowLedger.applied_of_plan planned
    obtain ⟨stream, -⟩ := check_eq_ok.mp applied
    obtain ⟨sameHardware, sameEpoch⟩ := CaptureWindowLedger.validateStream_eq_ok.mp stream
    obtain rfl : hardwareId = config.hardwareId := sameHardware.trans hardware
    exact stagePlanned_eq_ok (mapError_eq_ok.mp planned)
      ⟨mapError_eq_ok.mp valid, sameEpoch.trans epoch⟩ staged
  | gap gap =>
    obtain ⟨-, done⟩ := check_eq_ok.mp done
    obtain ⟨plan, planned, done⟩ := bind_eq_ok.mp done
    obtain ⟨result, applied⟩ := CaptureWindowLedger.applied_of_plan planned
    obtain ⟨stream, -⟩ := check_eq_ok.mp applied
    obtain ⟨sameHardware, sameEpoch⟩ := CaptureWindowLedger.validateStream_eq_ok.mp stream
    exact stagePlanned_eq_ok (mapError_eq_ok.mp planned)
      ⟨sameHardware.trans hardware, sameEpoch.trans epoch⟩ done
  | continuityBreak observed =>
    obtain ⟨-, done⟩ := check_eq_ok.mp done
    obtain ⟨plan, planned, done⟩ := bind_eq_ok.mp done
    obtain ⟨result, applied⟩ := CaptureWindowLedger.applied_of_plan planned
    obtain ⟨stream, -⟩ := check_eq_ok.mp applied
    obtain ⟨sameHardware, sameEpoch⟩ := CaptureWindowLedger.validateStream_eq_ok.mp stream
    exact stagePlanned_eq_ok (mapError_eq_ok.mp planned)
      ⟨sameHardware.trans hardware, sameEpoch.trans epoch⟩ done

end CaptureWalBatch

/-- The seal that ends a window is what recovery replays. -/
theorem CaptureWalSink.finishWindow_eq_ok (hardwareId : HardwareId) {sink after : CaptureWalSink}
    {file left : List UInt8} {manifest : Option CaptureWindowManifest}
    (cursor : sink.recovery.durableCursor = sink.ledger.nextCursor)
    (done : sink.finishWindow file = .ok (manifest, after, left)) :
    (manifest = none ∧ after = sink ∧ left = file) ∨
      manifest.isSome ∧ left = file ++ CaptureRecord.windowSeal.bytes ∧
        replayRecord hardwareId (sink.ledger, sink.recovery) .windowSeal =
          .ok (after.ledger, after.recovery) ∧
        after = { sink with
          durableLen := sink.durableLen + CaptureRecord.windowSeal.bytes.length
          ledger := after.ledger
          recovery := after.recovery } ∧
        after.durableLen < 2 ^ 64 := by
  obtain ⟨⟨found, last⟩, finished, done⟩ := bind_eq_ok.mp done
  cases found with
  | none =>
    cases done
    exact .inl ⟨rfl, rfl, rfl⟩
  | some value =>
    obtain ⟨fits, done⟩ := guard_eq_ok.mp done
    obtain ⟨records, recordsAdded, done⟩ := bind_eq_ok.mp done
    obtain ⟨recovery, windows, done⟩ := bind_eq_ok.mp done
    cases done
    refine .inr ⟨rfl, rfl, ?_, rfl, Nat.lt_of_not_le fits⟩
    have same := (CaptureWindowLedger.sameStream_finish (mapError_eq_ok.mp finished)).2
    have applied : windowCheck (CaptureRecord.windowSeal.appliedTo hardwareId sink.ledger) =
        .ok (some value, last) := finished
    simp only [replayRecord_eq, applied, CaptureWalRecovery.count, CaptureRecord.counters,
      addCounter_zero, recordsAdded, ok_bind, same, ← cursor]
    rw [windows, ok_bind]

end SensorSystem.Host
