import SensorSystem.Node.Measurement.DeliverySession
import SensorSystem.Node.Measurement.JournalReads

/-! A pull first releases, then reads. `Planned` lists the outcomes with everything they say about
the reference log behind the journal. -/

namespace SensorSystem.Node

open Base DeliverySession List

/-- The effect of an accepted release on the journal's cursors. -/
structure Released {capacity : JournalCapacity} (before after : MeasurementJournal capacity)
    (log : List Entry) (cursor : Nat) : Prop where
  represents : Represents after log
  retained_eq : after.retainedFrom = max before.retainedFrom cursor
  released_eq : after.released = max before.released cursor
  delivered_eq : after.delivered = before.delivered
  within : cursor ≤ max before.delivered before.retainedFrom
  discarded_eq : after.discardedSamples = before.discardedSamples

namespace Represents

variable {capacity : JournalCapacity} {journal : MeasurementJournal capacity} {log : List Entry}

/-- A release beyond everything delivered or lost is refused. -/
theorem releaseBefore_effect (represents : Represents journal log) (cursor : Nat) :
    (max journal.delivered journal.retainedFrom < cursor ∧
        journal.releaseBefore cursor =
          (.beyondDeliveredRange, journal.invalidatePreparedView)) ∨
      ∃ after, journal.releaseBefore cursor = (.ok, after) ∧ Released journal after log cursor := by
  have fresh := represents.invalidatePreparedView
  have released := represents.released_le
  rcases represents.releaseBefore_cases cursor with
    ⟨beyond, -, outcome⟩ | ⟨repeated, outcome⟩ | ⟨newer, retained, outcome⟩ |
      ⟨beyond, delivered, kept, effect, outcome⟩
  · exact .inl ⟨beyond, outcome⟩
  · refine .inr ⟨_, outcome, fresh, ?_, ?_, rfl, by omega, rfl⟩
    · exact (Nat.max_eq_left (Nat.le_trans repeated released)).symm
    · exact (Nat.max_eq_left repeated).symm
  · refine .inr ⟨_, outcome, { fresh with released_le := retained }, ?_, ?_, rfl, by omega, rfl⟩
    · exact (Nat.max_eq_left retained).symm
    · exact (Nat.max_eq_right (Nat.le_of_lt newer)).symm
  have represented : Represents { kept with released := cursor } log :=
    { effect.represents with released_le := effect.retained_eq ▸ Nat.le_refl _ }
  refine .inr ⟨_, outcome, represented, ?_, ?_, effect.delivered_eq, by omega,
    effect.discardedSamples_eq⟩
  · exact effect.retained_eq.trans (Nat.max_eq_right (Nat.le_of_lt beyond)).symm
  · exact (Nat.max_eq_right (show journal.released ≤ cursor by omega)).symm

end Represents

variable {capacity : JournalCapacity}

theorem Released.invalidatePreparedView
    {before after : MeasurementJournal capacity} {log : List Entry} {cursor : Nat}
    (released : Released before after log cursor) :
    Released before after.invalidatePreparedView log cursor :=
  { released with represents := released.represents.invalidatePreparedView }

theorem Released.discarded_le
    {before after : MeasurementJournal capacity} {log : List Entry} {cursor : Nat}
    (released : Released before after log cursor)
    (bounded : before.discardedSamples ≤ before.retainedFrom) :
    after.discardedSamples ≤ after.retainedFrom := by
  rw [released.discarded_eq, released.retained_eq]
  exact Nat.le_trans bounded (Nat.le_max_left _ _)

/-- Every read reports where it started and the journal's range. -/
theorem MeasurementJournal.prepareRead_range
    (journal : MeasurementJournal capacity) (start limit : Nat) :
    (journal.prepareRead start limit).1.firstSequence = start ∧
      (journal.prepareRead start limit).1.retainedFrom = journal.retainedFrom ∧
      (journal.prepareRead start limit).1.produced = journal.produced := by
  simp only [MeasurementJournal.prepareRead]
  split
  · exact ⟨rfl, rfl, rfl⟩
  split
  · exact ⟨rfl, rfl, rfl⟩
  split
  · exact ⟨rfl, rfl, rfl⟩
  split
  · exact ⟨rfl, rfl, rfl⟩
  split
  · exact ⟨rfl, rfl, rfl⟩
  split
  · exact ⟨rfl, rfl, rfl⟩
  simp only [MeasurementJournal.readSamples, apply_ite Prod.fst,
    apply_ite MeasurementReadView.firstSequence, apply_ite MeasurementReadView.retainedFrom,
    apply_ite MeasurementReadView.produced, ite_self]
  exact ⟨trivial, rfl, rfl⟩

/-- A plan presents a piece of the log, read from a cursor of a journal. -/
def PullPlan.Shows {capacity : JournalCapacity} (plan : PullPlan)
    (journal : MeasurementJournal capacity) (start : Nat) (token : UInt64) : Log.Content → Prop
  | .gap record => plan.decision = .gap ∧
      plan.gap = ⟨token, record, journal.retainedFrom, journal.produced⟩
  | .continuityBreak record => plan.decision = .continuityBreak ∧
      plan.continuityBreak = ⟨token, record, journal.retainedFrom, journal.produced⟩
  | .samples records => plan.decision = .sampleChunk ∧ plan.chunk.token = token ∧
      plan.chunk.firstSequence = start ∧ plan.chunk.endSequence = start + records.length ∧
      plan.chunk.samples.retainedFrom = journal.retainedFrom ∧
      plan.chunk.samples.produced = journal.produced ∧
      plan.chunk.samples.first ++ plan.chunk.samples.second = records ∧
      plan.chunk.configRevision = (records.headD default).configRevision ∧
      plan.chunk.timingSegmentId = (records.headD default).timingSegmentId ∧
      summarizeTiming plan.chunk.samples = .ok plan.chunk.timing

namespace DeliverySession

variable {limits : DeliveryLimits}

/-- The samples a pull may ask the journal for. -/
def requested (limits : DeliveryLimits) (command : PullCommand) : Nat :=
  if command.maxSamples.toNat < limits.maxChunkSamples then command.maxSamples.toNat
  else limits.maxChunkSamples

/-- The command addresses the stream the session serves. -/
structure Addresses (session : DeliverySession limits) (command : PullCommand) : Prop where
  idle : session.preparedToken = 0
  epoch : command.bootEpoch = session.bootEpoch
  started : session.bootEpoch ≠ 0
  limited : command.maxSamples ≠ 0
  ordered : command.releaseBefore ≤ command.start

/-- A view that holds all its samples in one span. -/
def viewOf (records : List SampleRecord) : MeasurementReadView :=
  ⟨.samples, 0, 0, 0, 0, records, [], {}, {}⟩

/-- What is read can be prepared: it has a token, and its timing can be summarised. -/
def Readable (session : DeliverySession limits) (command : PullCommand) (log : List Entry) : Prop :=
  ∀ content, Log.contentAt log command.start.toNat (requested limits command) = some content →
    session.nextToken ≠ 0 ∧ ∀ records, content = .samples records →
      ∃ timing, summarizeTiming (viewOf records) = .ok timing

/-- The outcomes of `prepare_pull`. -/
inductive Planned (session : DeliverySession limits) (command : PullCommand) (log : List Entry) :
    PullPlan → DeliverySession limits → Prop
  | declined {plan : PullPlan}
      (decision : plan.decision = .busy ∧ session.preparedToken ≠ 0 ∨
        plan.decision = .internalError ∧ session.bootEpoch = 0 ∨
        plan.decision = .invalidRequest ∧ command.maxSamples = 0) :
      Planned session command log plan session
  | streamChanged {plan : PullPlan} (decision : plan.decision = .streamChanged)
      (epoch : plan.actualBootEpoch = session.bootEpoch) (started : session.bootEpoch ≠ 0)
      (other : command.bootEpoch ≠ session.bootEpoch) :
      Planned session command log plan session
  | invalidRelease {plan : PullPlan} {after : DeliverySession limits}
      (decision : plan.decision = .invalidRelease) (state : plan.state = session.journal.state)
      (epoch : command.bootEpoch = session.bootEpoch) (started : session.bootEpoch ≠ 0)
      (idle : session.preparedToken = 0)
      (refused : command.start < command.releaseBefore ∨
        max session.journal.delivered session.journal.retainedFrom <
          command.releaseBefore.toNat)
      (kept : after = session ∨
        after = { session with journal := session.journal.invalidatePreparedView }) :
      Planned session command log plan after
  | unanswered {plan : PullPlan} {journal : MeasurementJournal limits.journal}
      (addresses : session.Addresses command)
      (released : Released session.journal journal log command.releaseBefore.toNat)
      (decision : plan.decision = .cursorAhead ∧ log.length < command.start.toNat ∨
        plan.decision = .internalError ∧ journal.retainedFrom ≤ command.start.toNat ∧
          ¬ session.Readable command log) :
      Planned session command log plan { session with journal }
  | noData {plan : PullPlan} {journal : MeasurementJournal limits.journal}
      (addresses : session.Addresses command)
      (released : Released session.journal journal log command.releaseBefore.toNat)
      (decision : plan.decision = .noData) (state : plan.state = journal.state)
      (exhausted : command.start.toNat = log.length) :
      Planned session command log plan { session with journal }
  | rangeUnavailable {plan : PullPlan} {journal : MeasurementJournal limits.journal}
      (addresses : session.Addresses command)
      (released : Released session.journal journal log command.releaseBefore.toNat)
      (decision : plan.decision = .rangeUnavailable) (state : plan.state = journal.state)
      (lost : command.start.toNat < journal.retainedFrom) :
      Planned session command log plan { session with journal }
  | prepared {plan : PullPlan} {journal : MeasurementJournal limits.journal}
      {content : Log.Content} (addresses : session.Addresses command)
      (released : Released session.journal journal log command.releaseBefore.toNat)
      (token : session.nextToken ≠ 0) (retained : journal.retainedFrom ≤ command.start.toNat)
      (found : Log.contentAt log command.start.toNat (requested limits command) = some content)
      (bounded : command.start.toNat + content.count ≤ log.length)
      (shown : plan.Shows journal command.start.toNat session.nextToken content) :
      Planned session command log plan
        ({ session with
            journal := journal.invalidatePreparedView.prepareThrough
              (command.start.toNat + content.count) }.hold
          (command.start.toNat + content.count))

variable {command : PullCommand} {records : List SampleRecord} {view other : MeasurementReadView}

theorem requested_pos (limits : DeliveryLimits) (limited : command.maxSamples ≠ 0) :
    0 < requested limits command := by
  have positive := limits.chunkPositive
  have samples : 0 < command.maxSamples.toNat := UInt16.pos_iff_ne_zero.mpr limited
  rw [requested]
  split <;> assumption

/-- The first sample of a view is the head of its content. -/
theorem sampleAt_zero (content : view.first ++ view.second = records) :
    sampleAt view 0 = records.headD default := by
  subst content
  rw [sampleAt]
  cases first : view.first with
  | nil =>
    cases second : view.second with
    | nil => rfl
    | cons record rest => rfl
  | cons record rest => rfl

theorem sampleAt_eq (view : MeasurementReadView) (index : Nat) :
    sampleAt view index = (view.first ++ view.second).getD index default := by
  rw [sampleAt]
  split
  · rename_i inside
    rw [getD_eq_getElem?_getD, getD_eq_getElem?_getD, getElem?_append_left inside]
  rename_i outside
  rw [getD_eq_getElem?_getD, getD_eq_getElem?_getD,
    getElem?_append_right (Nat.le_of_not_lt outside)]

variable (same : view.first ++ view.second = other.first ++ other.second)

include same

/-- The timing of a view is that of its samples. -/
theorem timingLoop_congr (fit : TimingFit) (remaining index : Nat) (output : TimingSummary)
    (allValid : Bool) (previous : UInt64) :
    timingLoop view fit remaining index output allValid previous =
      timingLoop other fit remaining index output allValid previous := by
  induction remaining generalizing index output allValid previous with
  | zero => rfl
  | succ remaining ih =>
    simp only [timingLoop, sampleAt_eq, same, ih]

theorem summarizeTiming_congr : summarizeTiming view = summarizeTiming other := by
  have count : view.sampleCount = other.sampleCount := by
    rw [MeasurementReadView.sampleCount, MeasurementReadView.sampleCount, ← length_append,
      same, length_append]
  simp only [summarizeTiming, count, sampleAt_eq, same, timingLoop_congr same]

omit same

theorem summarizeTiming_viewOf (content : view.first ++ view.second = records) :
    summarizeTiming (viewOf records) = summarizeTiming view :=
  summarizeTiming_congr ((append_nil records).trans content.symm)

/-- A read of retained content is prepared, or fails inside. -/
theorem planned_content {session : DeliverySession limits} {log : List Entry}
    {journal : MeasurementJournal limits.journal} {plan : PullPlan}
    (addresses : session.Addresses command)
    (released : Released session.journal journal log command.releaseBefore.toNat)
    (retained : journal.retainedFrom ≤ command.start.toNat)
    (inside : command.start.toNat < log.length) : Planned session command log
      (planRead { session with
        journal := (journal.prepareRead command.start.toNat (requested limits command)).2 } plan
        (journal.prepareRead command.start.toNat (requested limits command)).1).1
      (planRead { session with
        journal := (journal.prepareRead command.start.toNat (requested limits command)).2 } plan
        (journal.prepareRead command.start.toNat (requested limits command)).1).2 := by
  obtain ⟨content, found, shown, stop, bounded, after⟩ := released.represents.prepareRead_content
    (requested_pos limits addresses.limited) retained inside
  have range := journal.prepareRead_range command.start.toNat (requested limits command)
  have effect : Released session.journal (journal.invalidatePreparedView.prepareThrough
      (command.start.toNat + content.count)).cancelPrepared log command.releaseBefore.toNat :=
    released.invalidatePreparedView
  rw [after]
  generalize (journal.prepareRead command.start.toNat (requested limits command)).1 = view at *
  by_cases token : session.nextToken = 0
  · have failed : (planRead { session with
        journal := journal.invalidatePreparedView.prepareThrough
          (command.start.toNat + content.count) } plan view) =
        ({ plan with decision := .internalError }, { session with
          journal := (journal.invalidatePreparedView.prepareThrough
            (command.start.toNat + content.count)).cancelPrepared }) := by
      cases content <;> simp only [planRead, shown.1, if_pos token]
    rw [failed]
    refine .unanswered addresses effect (.inr ⟨rfl, retained, fun readable => ?_⟩)
    exact (readable content found).1 token
  · cases content with
    | gap record =>
      simp only [planRead, shown.1, if_neg token, stop]
      refine .prepared addresses released token retained found bounded ⟨rfl, ?_⟩
      rw [shown.2, range.2.1, range.2.2]
      rfl
    | continuityBreak record =>
      simp only [planRead, shown.1, if_neg token, stop]
      refine .prepared addresses released token retained found bounded ⟨rfl, ?_⟩
      rw [shown.2, range.2.1, range.2.2]
      rfl
    | samples records =>
      simp only [planRead, shown.1, if_neg token, stop]
      cases timing : summarizeTiming view with
      | error error =>
        refine .unanswered addresses effect (.inr ⟨rfl, retained, fun readable => ?_⟩)
        obtain ⟨summary, timed⟩ := (readable _ found).2 records rfl
        rw [summarizeTiming_viewOf shown.2, timing] at timed
        cases timed
      | ok summary =>
        refine .prepared addresses released token retained found bounded ⟨rfl, rfl, range.1, rfl,
          range.2.1, range.2.2, shown.2, ?_, ?_, timing⟩
        · exact congrArg SampleRecord.configRevision (sampleAt_zero shown.2)
        · exact congrArg SampleRecord.timingSegmentId (sampleAt_zero shown.2)

end DeliverySession

/-- Every pull over a represented journal has a listed outcome. -/
theorem Represents.planned {limits : DeliveryLimits} {session : DeliverySession limits}
    {log : List Entry} (represents : Represents session.journal log) (command : PullCommand) :
    session.Planned command log (session.preparePull command).1
      (session.preparePull command).2 := by
  simp only [preparePull]
  split
  · rename_i busy
    exact .declined (.inl ⟨rfl, busy⟩)
  rename_i idle
  split
  · rename_i unstarted
    exact .declined (.inr (.inl ⟨rfl, unstarted⟩))
  rename_i started
  split
  · rename_i other
    exact .streamChanged rfl rfl started other
  rename_i epoch
  split
  · rename_i unlimited
    exact .declined (.inr (.inr ⟨rfl, unlimited⟩))
  rename_i limited
  split
  · rename_i reversed
    exact .invalidRelease rfl rfl (not_not.mp epoch) started (not_not.mp idle) (.inl reversed)
      (.inl rfl)
  rename_i ordered
  have addresses : session.Addresses command :=
    ⟨not_not.mp idle, not_not.mp epoch, started, limited, UInt64.not_lt.mp ordered⟩
  obtain ⟨beyond, outcome⟩ | ⟨journal, outcome, released⟩ :=
    represents.releaseBefore_effect command.releaseBefore.toNat
  · rw [outcome]
    exact .invalidRelease rfl rfl (not_not.mp epoch) started (not_not.mp idle) (.inr beyond)
      (.inr rfl)
  have asked : (if command.maxSamples.toNat < limits.maxChunkSamples
      then command.maxSamples.toNat else limits.maxChunkSamples) =
      requested limits command := rfl
  simp only [outcome, asked]
  by_cases inside : journal.retainedFrom ≤ command.start.toNat ∧
      command.start.toNat < log.length
  · exact planned_content addresses released inside.1 inside.2
  have positive := requested_pos limits limited
  have effect := released.invalidatePreparedView
  obtain ⟨after, view⟩ := released.represents.prepareRead_outside
    (show ¬ (0 < requested limits command ∧
      journal.retainedFrom ≤ command.start.toNat ∧ command.start.toNat < log.length) from
      fun all => inside all.2)
  rw [after, view, if_neg (by omega)]
  by_cases lost : command.start.toNat < journal.retainedFrom
  · rw [if_pos lost]
    exact .rangeUnavailable addresses effect rfl rfl lost
  rw [if_neg lost]
  by_cases ahead : command.start.toNat > log.length
  · rw [if_pos ahead]
    exact .unanswered addresses effect (.inl ⟨rfl, ahead⟩)
  rw [if_neg ahead]
  exact .noData addresses effect rfl rfl (by omega)

end SensorSystem.Node
