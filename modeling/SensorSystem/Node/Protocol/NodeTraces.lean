import SensorSystem.Node.Protocol.NodeRuns

/-! A run together with the cursors that left the journal, told apart by what drove them out: an
append that ran out of room, or a release. -/

namespace SensorSystem.Node

open DeliverySession List

variable {limits : DeliveryLimits}

/-- A session with its log and the cursors it has discarded since boot. -/
structure NodeTrace (limits : DeliveryLimits) where
  session : DeliverySession limits
  log : List Entry := []
  overflowed : List Nat := []
  freed : List Nat := []

namespace NodeTrace

def initial (limits : DeliveryLimits) (bootEpoch : UInt64) : NodeTrace limits where
  session := .initial limits bootEpoch

/-- The cursors that a change of the journal discards. -/
def discarded {capacity : JournalCapacity} (before after : MeasurementJournal capacity) :
    List Nat :=
  range' before.retainedFrom (after.retainedFrom - before.retainedFrom)

def perform (trace : NodeTrace limits) (event : NodeEvent) : NodeTrace limits :=
  let session := trace.session.perform event
  let lost := discarded trace.session.journal session.journal
  { session
    log := Log.after trace.log event
    overflowed := if event.append?.isSome then trace.overflowed ++ lost else trace.overflowed
    freed := if event.append?.isSome then trace.freed else trace.freed ++ lost }

def run (trace : NodeTrace limits) (events : List NodeEvent) : NodeTrace limits :=
  events.foldl perform trace

end NodeTrace

/-- Cursors move forward, and over the retained range only by releasing it. -/
structure Moves {capacity : JournalCapacity} (before after : MeasurementJournal capacity) :
    Prop where
  retained_le : before.retainedFrom ≤ after.retainedFrom
  delivered_le : before.delivered ≤ after.delivered
  released_le : before.released ≤ after.released
  freed : after.retainedFrom ≤ max before.retainedFrom after.released

namespace Moves

variable {capacity : JournalCapacity} {first second third : MeasurementJournal capacity}
  (journal : MeasurementJournal capacity)

theorem refl : Moves journal journal :=
  ⟨Nat.le_refl _, Nat.le_refl _, Nat.le_refl _, Nat.le_max_left _ _⟩

theorem trans (earlier : Moves first second) (later : Moves second third) : Moves first third where
  retained_le := Nat.le_trans earlier.retained_le later.retained_le
  delivered_le := Nat.le_trans earlier.delivered_le later.delivered_le
  released_le := Nat.le_trans earlier.released_le later.released_le
  freed := by
    have first := earlier.freed
    have second := later.freed
    have released := later.released_le
    omega

theorem of_released {log : List Entry} {cursor : Nat}
    (released : Released first second log cursor) :
    Moves first second where
  retained_le := by rw [released.retained_eq]; exact Nat.le_max_left _ _
  delivered_le := released.delivered_eq.ge
  released_le := by rw [released.released_eq]; exact Nat.le_max_left _ _
  freed := by
    rw [released.retained_eq, released.released_eq]
    omega

/-- The prepared view of a journal is no cursor. -/
theorem invalidatePreparedView : Moves journal journal.invalidatePreparedView :=
  ⟨Nat.le_refl _, Nat.le_refl _, Nat.le_refl _, Nat.le_max_left _ _⟩

theorem markDelivered (endSequence : Nat) :
    Moves journal (journal.markDelivered endSequence).2 := by
  rw [MeasurementJournal.markDelivered]
  split
  · exact refl journal
  split
  · rename_i ahead
    exact ⟨Nat.le_refl _, Nat.le_of_lt ahead, Nat.le_refl _, Nat.le_max_left _ _⟩
  · exact invalidatePreparedView journal

end Moves

namespace Serves

variable {session : DeliverySession limits} {log : List Entry}

theorem moves_complete (session : DeliverySession limits) (token : UInt64) :
    Moves session.journal (session.complete token).2.journal := by
  rw [DeliverySession.complete]
  split
  · exact .refl _
  split
  · exact .refl _
  · exact .markDelivered session.journal session.preparedEnd

theorem moves_abort (session : DeliverySession limits) (token : UInt64) :
    Moves session.journal (session.abort token).2.journal := by
  rw [DeliverySession.abort]
  split
  · exact .refl _
  split
  · exact .refl _
  · exact .invalidatePreparedView session.journal

/-- A settlement releases nothing. -/
theorem complete_released (session : DeliverySession limits) (token : UInt64) :
    (session.complete token).2.journal.released = session.journal.released := by
  rw [DeliverySession.complete]
  split
  · rfl
  split
  · rfl
  simp only [MeasurementJournal.markDelivered, clearPreparedState]
  split
  · rfl
  split
  · rfl
  · rfl

/-- A completed delivery was the prepared one. -/
theorem delivered_of_complete {token : UInt64} (done : (session.complete token).1 = .ok) :
    session.preparedToken = token ∧ token ≠ 0 ∧
      session.preparedEnd ≤ (session.complete token).2.journal.delivered := by
  rw [DeliverySession.complete] at done ⊢
  split at done
  · cases done
  split at done
  · cases done
  rename_i idle other
  rw [if_neg idle, if_neg other]
  have same := not_not.mp other
  refine ⟨same.symm, same ▸ idle, ?_⟩
  simp only [MeasurementJournal.markDelivered, clearPreparedState] at done ⊢
  split at done
  · cases done
  rename_i valid
  rw [if_neg valid]
  split
  · exact Nat.le_refl _
  rename_i behind
  exact Nat.le_of_not_lt behind

theorem preparedToken_abort (session : DeliverySession limits) :
    (session.abort session.preparedToken).2.preparedToken = 0 := by
  rw [DeliverySession.abort]
  split
  · assumption
  split
  · rename_i other
    exact absurd rfl other
  · rfl

/-- Aborting a delivery moves no cursor. -/
theorem abort_cursors (session : DeliverySession limits) (token : UInt64) :
    (session.abort token).2.journal.retainedFrom = session.journal.retainedFrom ∧
      (session.abort token).2.journal.released = session.journal.released := by
  rw [DeliverySession.abort]
  split
  · exact ⟨rfl, rfl⟩
  split
  · exact ⟨rfl, rfl⟩
  · exact ⟨rfl, rfl⟩

variable (serves : Serves session log)

include serves

theorem moves_preparePull (command : PullCommand) :
    Moves session.journal (session.preparePull command).2.journal := by
  have planned := serves.represents.planned command
  generalize (session.preparePull command).1 = plan at planned
  generalize (session.preparePull command).2 = after at planned
  cases planned with
  | declined | streamChanged => exact .refl _
  | invalidRelease _ _ _ _ _ _ kept =>
    obtain rfl | rfl := kept
    · exact .refl _
    · exact .invalidatePreparedView session.journal
  | unanswered _ released | noData _ released | rangeUnavailable _ released =>
    exact .of_released released
  | prepared _ released _ _ _ _ =>
    have moved := Moves.of_released released
    exact ⟨moved.retained_le, moved.delivered_le, moved.released_le, moved.freed⟩

theorem moves_release (bootEpoch releaseBefore : UInt64) :
    Moves session.journal (session.release bootEpoch releaseBefore).2.journal := by
  simp only [DeliverySession.release]
  split
  · exact .refl _
  split
  · exact .refl _
  split
  · exact .refl _
  obtain ⟨-, outcome⟩ | ⟨journal, outcome, released⟩ :=
    serves.represents.releaseBefore_effect releaseBefore.toNat
  · rw [outcome]
    exact .invalidatePreparedView session.journal
  · rw [outcome]
    exact .of_released released

theorem moves_handle (message : UInt8) (payload output : List UInt8) :
    Moves session.journal (session.handle message payload output).2.2.journal := by
  obtain same | ⟨command, pulled⟩ | ⟨bootEpoch, releaseBefore, released⟩ :=
    session.handle_session message payload output
  · rw [same]
    exact .refl _
  · have planned := serves.moves_preparePull command
    obtain same | ⟨token, aborted⟩ := pulled
    · rw [same]
      exact planned
    · rw [aborted]
      exact planned.trans (moves_abort _ token)
  · rw [released]
    exact serves.moves_release bootEpoch releaseBefore

/-- An append moves neither the delivered nor the released cursor. -/
theorem append_cursors {event : NodeEvent} {operation : JournalOperation}
    (appends : event.append? = some operation) :
    session.journal.retainedFrom ≤ (session.append operation).journal.retainedFrom ∧
      (session.append operation).journal.delivered = session.journal.delivered ∧
      (session.append operation).journal.released = session.journal.released ∧
      log <+: Log.step log operation := by
  obtain ⟨step, refused⟩ | ⟨added, result, step, accepted⟩ := serves.append_effect appends
  · rw [DeliverySession.append, refused, step]
    exact ⟨Nat.le_refl _, rfl, rfl, prefix_rfl⟩
  · rw [step]
    exact ⟨accepted.retained_le, accepted.delivered_eq, accepted.released_eq,
      prefix_append _ _⟩

omit serves

end Serves

namespace NodeTrace

/-- Every discarded cursor is accounted for, a freed one released. -/
structure Accounts (trace : NodeTrace limits) : Prop where
  serves : Serves trace.session trace.log
  covers : ∀ cursor < trace.session.journal.retainedFrom,
    cursor ∈ trace.overflowed ∨ cursor ∈ trace.freed
  released : ∀ cursor ∈ trace.freed, cursor < trace.session.journal.released

theorem Accounts.initial (limits : DeliveryLimits) (bootEpoch : UInt64) :
    Accounts (NodeTrace.initial limits bootEpoch) where
  serves := .initial limits bootEpoch
  covers := fun _ below => absurd below (Nat.not_lt_zero _)
  released := fun _ member => nomatch member

/-- The journal's cursors only move forward, and its log only grows. -/
structure Grows (before after : NodeTrace limits) : Prop where
  retained_le : before.session.journal.retainedFrom ≤ after.session.journal.retainedFrom
  delivered_le : before.session.journal.delivered ≤ after.session.journal.delivered
  log : before.log <+: after.log
  overflowed : before.overflowed <+: after.overflowed

theorem mem_discarded {capacity : JournalCapacity} {before after : MeasurementJournal capacity}
    {cursor : Nat} (retained : before.retainedFrom ≤ after.retainedFrom) :
    cursor ∈ discarded before after ↔
      before.retainedFrom ≤ cursor ∧ cursor < after.retainedFrom := by
  rw [discarded, mem_range'_1]
  omega

variable {trace : NodeTrace limits} {event : NodeEvent} (accounts : trace.Accounts)

include accounts

/-- What an append drives out has overflowed. -/
theorem Accounts.append {operation : JournalOperation} (appends : event.append? = some operation) :
    (trace.perform event).Accounts ∧ Grows trace (trace.perform event) ∧
      (trace.perform event).session.journal.released = trace.session.journal.released := by
  obtain ⟨retained, delivered, released, log⟩ := accounts.serves.append_cursors appends
  rw [← perform_append appends] at retained delivered released
  have some : event.append?.isSome = true := by rw [appends]; rfl
  have serves := accounts.serves.perform event
  rw [perform, if_pos some, if_pos some]
  refine ⟨⟨serves, ?_, ?_⟩, ⟨retained, delivered.ge, ?_, prefix_append _ _⟩, released⟩
  · intro cursor below
    by_cases earlier : cursor < trace.session.journal.retainedFrom
    · exact (accounts.covers cursor earlier).imp (mem_append_left _) id
    exact .inl (mem_append_right _
      ((mem_discarded retained).mpr ⟨Nat.le_of_not_lt earlier, below⟩))
  · intro cursor member
    rw [released]
    exact accounts.released cursor member
  · rw [Log.after, appends]
    exact log

/-- What anything else drives out has been released. -/
theorem Accounts.moves (other : event.append? = none)
    (moves : Moves trace.session.journal (trace.session.perform event).journal) :
    (trace.perform event).Accounts ∧ Grows trace (trace.perform event) := by
  have none : ¬ event.append?.isSome = true := by rw [other]; exact Bool.false_ne_true
  have serves := accounts.serves.perform event
  rw [perform, if_neg none, if_neg none]
  refine ⟨⟨serves, ?_, ?_⟩,
    ⟨moves.retained_le, moves.delivered_le, ?_, prefix_rfl⟩⟩
  · intro cursor below
    by_cases earlier : cursor < trace.session.journal.retainedFrom
    · exact (accounts.covers cursor earlier).imp id (mem_append_left _)
    exact .inr (mem_append_right _
      ((mem_discarded moves.retained_le).mpr ⟨Nat.le_of_not_lt earlier, below⟩))
  · intro cursor member
    rcases mem_append.mp member with old | new
    · exact Nat.lt_of_lt_of_le (accounts.released cursor old) moves.released_le
    have lost := (mem_discarded moves.retained_le).mp new
    have freed := moves.freed
    change cursor < (trace.session.perform event).journal.released
    omega
  · rw [Log.after, other]

theorem Accounts.perform (event : NodeEvent) :
    (trace.perform event).Accounts ∧ Grows trace (trace.perform event) := by
  cases appends : event.append? with
  | some operation =>
    obtain ⟨after, grows, -⟩ := accounts.append appends
    exact ⟨after, grows⟩
  | none =>
    refine accounts.moves appends ?_
    cases event with
    | appendSample | appendGap | appendContinuityBreak => cases appends
    | handle message payload output => exact accounts.serves.moves_handle message payload output
    | complete token => exact Serves.moves_complete _ token
    | abort token => exact Serves.moves_abort _ token

theorem Accounts.run (events : List NodeEvent) : (trace.run events).Accounts := by
  induction events generalizing trace with
  | nil => exact accounts
  | cons event events ih => exact ih (accounts.perform event).1

omit accounts

end NodeTrace
end SensorSystem.Node
