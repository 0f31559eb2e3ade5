import SensorSystem.Node.Measurement.DeliveryPlans
import SensorSystem.Node.Measurement.LogContent
import SensorSystem.Node.Protocol.MeasurementHandler

/-! Appends, requests and settlements in any order. Along a run the journal behind the session
keeps representing a log, to which only appends add. -/

namespace SensorSystem.Node

open Base

/-- What can happen to a session: an append to its journal, a request to its
handler, or the settlement of a delivery. -/
inductive NodeEvent where
  | appendSample (sequence : Nat) (sample : SampleRecord)
  | appendGap (gap : GapRecord)
  | appendContinuityBreak (value : ContinuityBreakRecord)
  | handle (message : UInt8) (payload output : List UInt8)
  | complete (token : UInt64)
  | abort (token : UInt64)

/-- The journal call behind an append. -/
def NodeEvent.append? : NodeEvent → Option JournalOperation
  | appendSample sequence sample => some (.appendSample sequence sample)
  | appendGap gap => some (.appendGap gap)
  | appendContinuityBreak value => some (.appendContinuityBreak value)
  | _ => none

/-- The log after an event. -/
def Log.after (log : List Entry) (event : NodeEvent) : List Entry :=
  match event.append? with
  | some operation => Log.step log operation
  | none => log

namespace DeliverySession

variable {limits : DeliveryLimits}

def initial (limits : DeliveryLimits) (bootEpoch : UInt64) : DeliverySession limits where
  bootEpoch
  journal := .initial limits.journal

def append (session : DeliverySession limits) (operation : JournalOperation) :
    DeliverySession limits :=
  { session with journal := session.journal.perform operation }

def perform (session : DeliverySession limits) : NodeEvent → DeliverySession limits
  | .appendSample sequence sample => session.append (.appendSample sequence sample)
  | .appendGap gap => session.append (.appendGap gap)
  | .appendContinuityBreak value => session.append (.appendContinuityBreak value)
  | .handle message payload output => (session.handle message payload output).2.2
  | .complete token => (session.complete token).2
  | .abort token => (session.abort token).2

def run (session : DeliverySession limits) (events : List NodeEvent) : DeliverySession limits :=
  events.foldl perform session

theorem perform_append {session : DeliverySession limits} {event : NodeEvent}
    {operation : JournalOperation} (appends : event.append? = some operation) :
    session.perform event = session.append operation := by
  cases event <;> cases appends <;> rfl

variable (session : DeliverySession limits)

include session

theorem respondError_session (status : Wire.ResponseStatus) (output : List UInt8) :
    (session.respondError status output).2.2 = session := by
  rw [respondError]
  split
  · rfl
  · rfl

theorem respond_session (encoded : Wire.Encoded) : (session.respond encoded).2.2 = session := by
  unfold respond
  split
  · rfl
  · exact session.respondError_session _ _

theorem respondPrepared_session (token : UInt64) (encoded : Wire.Encoded) :
    (session.respondPrepared token encoded).2.2 = session ∨
      (session.respondPrepared token encoded).2.2 = (session.abort token).2 := by
  unfold respondPrepared
  split
  · exact .inl rfl
  · exact .inr (respondError_session _ _ _)

theorem answerPlan_session (plan : PullPlan) (output : List UInt8) :
    (session.answerPlan plan output).2.2 = session ∨
      ∃ token, (session.answerPlan plan output).2.2 = (session.abort token).2 := by
  rw [answerPlan]
  cases plan.decision with
  | sampleChunk | gap | continuityBreak =>
    exact (session.respondPrepared_session _ _).imp id fun aborted => ⟨_, aborted⟩
  | cursorAhead | invalidRequest | busy | internalError =>
    exact .inl (session.respondError_session _ _)
  | streamChanged | noData | rangeUnavailable | invalidRelease =>
    exact .inl (session.respond_session _)

/-- What a request does to the session. -/
theorem handle_session (message : UInt8) (payload output : List UInt8) :
    (session.handle message payload output).2.2 = session ∨
      (∃ command, (session.handle message payload output).2.2 = (session.preparePull command).2 ∨
        ∃ token, (session.handle message payload output).2.2 =
          ((session.preparePull command).2.abort token).2) ∨
      ∃ bootEpoch releaseBefore, (session.handle message payload output).2.2 =
        (session.release bootEpoch releaseBefore).2 := by
  rw [handle]
  split
  · rw [handleGetState]
    split
    · exact .inl (session.respondError_session _ _)
    · exact .inl (session.respond_session _)
  split
  · rw [handlePull]
    split
    · exact .inr (.inl ⟨_, answerPlan_session _ _ _⟩)
    · exact .inr (.inl ⟨_, answerPlan_session _ _ _⟩)
    · exact .inl (session.respondError_session _ _)
  split
  · rw [handleRelease]
    split
    · rename_i request _
      refine .inr (.inr ⟨request.bootEpoch, request.releaseBefore, ?_⟩)
      simp only
      split
      · exact respondError_session _ _ _
      · exact respondError_session _ _ _
      · exact respond_session _ _
      · exact respondError_session _ _ _
    · exact .inl (session.respondError_session _ _)
  · exact .inl (session.respondError_session _ _)

omit session

end DeliverySession

/-- Marking a piece delivered loses nothing. -/
theorem MeasurementJournal.markDelivered_keeps {capacity : JournalCapacity}
    (journal : MeasurementJournal capacity) (endSequence : Nat) :
    (journal.markDelivered endSequence).2.discardedSamples = journal.discardedSamples ∧
      (journal.markDelivered endSequence).2.retainedFrom = journal.retainedFrom := by
  simp only [MeasurementJournal.markDelivered]
  split
  · exact ⟨rfl, rfl⟩
  split
  · exact ⟨rfl, rfl⟩
  · exact ⟨rfl, rfl⟩

/-- What holds of a session along a run. -/
structure Serves {limits : DeliveryLimits} (session : DeliverySession limits)
    (log : List Entry) : Prop where
  represents : Represents session.journal log
  discarded_le : session.journal.discardedSamples ≤ session.journal.retainedFrom
  checked : ∀ entry ∈ log, entry.Checked

namespace Serves

variable {limits : DeliveryLimits} {session : DeliverySession limits} {log : List Entry}

theorem initial (limits : DeliveryLimits) (bootEpoch : UInt64) :
    Serves (DeliverySession.initial limits bootEpoch) [] :=
  ⟨Represents.initial limits.journal, Nat.le_refl _, by simp⟩

variable (serves : Serves session log)

include serves

theorem of_same {after : DeliverySession limits} (represents : Represents after.journal log)
    (discarded : after.journal.discardedSamples = session.journal.discardedSamples)
    (retained : session.journal.retainedFrom ≤ after.journal.retainedFrom) : Serves after log :=
  ⟨represents, by rw [discarded]; exact Nat.le_trans serves.discarded_le retained,
    serves.checked⟩

theorem of_released {after : DeliverySession limits} {cursor : Nat}
    (released : Released session.journal after.journal log cursor) : Serves after log :=
  ⟨released.represents, released.discarded_le serves.discarded_le, serves.checked⟩

variable {operation : JournalOperation} {event : NodeEvent}

theorem append_appends {added : List Entry} {result : StreamAppendResult}
    (step : Log.step log operation = log ++ added)
    (appends : Represents.Appends session.journal (session.journal.perform operation) log added
      result) : Serves (session.append operation) (Log.step log operation) := by
  refine ⟨step ▸ appends.represents, ?_, Log.checked_step serves.checked operation⟩
  have discarded := serves.discarded_le
  have retained := appends.retained_le
  have removed : (samplesOf ((log.drop session.journal.retainedFrom).take
      ((session.journal.perform operation).retainedFrom -
        session.journal.retainedFrom))).length ≤
      (session.journal.perform operation).retainedFrom - session.journal.retainedFrom := by
    refine Nat.le_trans (List.length_filterMap_le _ _) ?_
    rw [List.length_take]
    exact Nat.min_le_left _ _
  change (session.journal.perform operation).discardedSamples ≤
    (session.journal.perform operation).retainedFrom
  rw [appends.discardedSamples_eq]
  omega

/-- An append changes nothing, or adds entries to the log. -/
theorem append_effect (appends : event.append? = some operation) :
    (Log.step log operation = log ∧ session.journal.perform operation = session.journal) ∨
      ∃ added result, Log.step log operation = log ++ added ∧
        Represents.Appends session.journal (session.journal.perform operation) log added
          result := by
  cases event with
  | appendSample sequence sample =>
    cases appends
    by_cases accepted : sequence = log.length ∧ log.length < uint64Max ∧ validSampleRecord sample
    · exact .inr ⟨_, _, if_pos accepted,
        serves.represents.appendSample_accepted accepted.1 accepted.2.1 accepted.2.2⟩
    · exact .inl ⟨if_neg accepted, (serves.represents.appendSample_refused accepted).1⟩
  | appendGap gap =>
    cases appends
    by_cases accepted : gap.firstMissing = log.length ∧ gap.valid
    · exact .inr ⟨_, _, if_pos accepted,
        serves.represents.appendGap_accepted accepted.1 accepted.2⟩
    · exact .inl ⟨if_neg accepted, (serves.represents.appendGap_refused accepted).1⟩
  | appendContinuityBreak value =>
    cases appends
    by_cases accepted : value.atSequence = log.length ∧ value.valid
    · exact .inr ⟨_, _, if_pos accepted,
        serves.represents.appendContinuityBreak_accepted accepted.1 accepted.2⟩
    · exact .inl ⟨if_neg accepted, (serves.represents.appendContinuityBreak_refused accepted).1⟩
  | handle | complete | abort => cases appends

theorem append (appends : event.append? = some operation) :
    Serves (session.append operation) (Log.step log operation) := by
  obtain ⟨step, refused⟩ | ⟨added, result, step, accepted⟩ := serves.append_effect appends
  · rw [step, DeliverySession.append, refused]
    exact serves
  · exact serves.append_appends step accepted

theorem complete (token : UInt64) : Serves (session.complete token).2 log := by
  rw [DeliverySession.complete]
  split
  · exact serves
  split
  · exact serves
  obtain ⟨discarded, retained⟩ := session.journal.markDelivered_keeps session.preparedEnd
  exact serves.of_same (serves.represents.markDelivered session.preparedEnd) discarded
    retained.ge

theorem abort (token : UInt64) : Serves (session.abort token).2 log := by
  rw [DeliverySession.abort]
  split
  · exact serves
  split
  · exact serves
  · exact serves.of_same serves.represents.invalidatePreparedView rfl (Nat.le_refl _)

theorem preparePull (command : PullCommand) : Serves (session.preparePull command).2 log := by
  have planned := serves.represents.planned command
  generalize (session.preparePull command).1 = plan at planned
  generalize (session.preparePull command).2 = after at planned
  cases planned with
  | declined | streamChanged => exact serves
  | invalidRelease _ _ _ _ _ _ kept =>
    obtain rfl | rfl := kept
    · exact serves
    · exact serves.of_same serves.represents.invalidatePreparedView rfl (Nat.le_refl _)
  | unanswered _ released | noData _ released | rangeUnavailable _ released =>
    exact serves.of_released released
  | prepared _ released _ _ _ bounded =>
    exact ⟨released.represents.invalidatePreparedView.prepareThrough bounded,
      released.discarded_le serves.discarded_le, serves.checked⟩

theorem release (bootEpoch releaseBefore : UInt64) :
    Serves (session.release bootEpoch releaseBefore).2 log := by
  simp only [DeliverySession.release]
  split
  · exact serves
  split
  · exact serves
  split
  · exact serves
  obtain ⟨-, outcome⟩ | ⟨journal, outcome, released⟩ :=
    serves.represents.releaseBefore_effect releaseBefore.toNat
  · rw [outcome]
    exact serves.of_same serves.represents.invalidatePreparedView rfl (Nat.le_refl _)
  · rw [outcome]
    exact serves.of_released released

theorem handle (message : UInt8) (payload output : List UInt8) :
    Serves (session.handle message payload output).2.2 log := by
  obtain same | ⟨command, pulled⟩ | ⟨bootEpoch, releaseBefore, released⟩ :=
    session.handle_session message payload output
  · rw [same]
    exact serves
  · have planned := serves.preparePull command
    obtain same | ⟨token, aborted⟩ := pulled
    · rw [same]
      exact planned
    · rw [aborted]
      exact planned.abort token
  · rw [released]
    exact serves.release bootEpoch releaseBefore

/-- Every event keeps the journal on the log. -/
theorem perform (event : NodeEvent) : Serves (session.perform event) (Log.after log event) := by
  cases appends : event.append? with
  | some operation =>
    rw [DeliverySession.perform_append appends, Log.after, appends]
    exact serves.append appends
  | none =>
    rw [Log.after, appends]
    cases event with
    | appendSample | appendGap | appendContinuityBreak => cases appends
    | handle message payload output => exact serves.handle message payload output
    | complete token => exact serves.complete token
    | abort token => exact serves.abort token

theorem run (events : List NodeEvent) :
    Serves (session.run events) (events.foldl Log.after log) := by
  induction events generalizing session log with
  | nil => exact serves
  | cons event events ih => exact ih (serves.perform event)

omit serves

end Serves
end SensorSystem.Node
