import Mathlib.Tactic.Common

/-! A step is not there when its party is blocked. A run is a sequence of steps that are there. -/

namespace SensorSystem.Base

universe u v
variable {σ : Type u} {ε : Type v} {step : σ → ε → Option σ}

def runSteps (step : σ → ε → Option σ) : σ → List ε → Option σ
  | state, [] => some state
  | state, event :: events => (step state event).bind (runSteps step · events)

/-- Every step of a run has a property. -/
def Along (step : σ → ε → Option σ) (allowed : σ → ε → Prop) : σ → List ε → Prop
  | _, [] => True
  | state, event :: events =>
    allowed state event ∧ ∀ next, step state event = some next → Along step allowed next events

/-- A run can be checked step by step. -/
instance decidableAlong {allowed : σ → ε → Prop} [∀ state event, Decidable (allowed state event)] :
    (state : σ) → (events : List ε) → Decidable (Along step allowed state events)
  | _, [] => isTrue trivial
  | state, event :: events =>
    haveI : Decidable (∀ next, step state event = some next →
        Along step allowed next events) :=
      match _moves : step state event with
      | none => isTrue nofun
      | some next =>
        match decidableAlong next events with
        | isTrue along => isTrue fun _ same => Option.some.inj same ▸ along
        | isFalse stuck => isFalse fun along => stuck (along next rfl)
    inferInstanceAs (Decidable (_ ∧ _))

variable {events : List ε} {state : σ} {allowed : σ → ε → Prop}

theorem runSteps_cons {after : σ} {event : ε}
    (runs : runSteps step state (event :: events) = some after) :
    ∃ next, step state event = some next ∧ runSteps step next events = some after :=
  Option.bind_eq_some_iff.mp runs

/-- Properties that agree under an invariant hold of the same runs. -/
theorem along_congr {one two : σ → ε → Prop} {keeps : σ → Prop}
    (steps : ∀ {state event next}, keeps state → step state event = some next → keeps next)
    (same : ∀ {state event}, keeps state → (one state event ↔ two state event))
    (before : keeps state) : Along step one state events ↔ Along step two state events := by
  induction events generalizing state with
  | nil => exact Iff.rfl
  | cons event events ih =>
    refine and_congr (same before) (forall_congr' fun next => forall_congr' fun moves => ?_)
    exact ih (steps before moves)

/-- The part of a run behind its first steps. -/
theorem Along.behind {front rest : List ε} {middle : σ}
    (along : Along step allowed state (front ++ rest))
    (runs : runSteps step state front = some middle) : Along step allowed middle rest := by
  induction front generalizing state with
  | nil =>
    cases runs
    exact along
  | cons event front ih =>
    obtain ⟨next, moves, runs⟩ := Option.bind_eq_some_iff.mp runs
    exact ih (along.2 next moves) runs

theorem Along.front {front rest : List ε} (along : Along step allowed state (front ++ rest)) :
    Along step allowed state front := by
  induction front generalizing state with
  | nil => trivial
  | cons event front ih => exact ⟨along.1, fun next moves => ih (along.2 next moves)⟩

theorem Along.and {one two : σ → ε → Prop} (first : Along step one state events)
    (second : Along step two state events) :
    Along step (fun state event => one state event ∧ two state event) state events := by
  induction events generalizing state with
  | nil => trivial
  | cons event events ih =>
    exact ⟨⟨first.1, second.1⟩, fun next moves => ih (first.2 next moves) (second.2 next moves)⟩

/-- What every allowed step keeps, every run keeps. -/
theorem runSteps_keeps {keeps : σ → Prop}
    (steps : ∀ {state event next}, keeps state → allowed state event →
      step state event = some next → keeps next) {after : σ} (before : keeps state)
    (along : Along step allowed state events) (runs : runSteps step state events = some after) :
    keeps after := by
  induction events generalizing state with
  | nil =>
    cases runs
    exact before
  | cons event events ih =>
    obtain ⟨next, moves, rest⟩ := runSteps_cons runs
    exact ih (steps before along.1 moves) (along.2 next moves) rest

/-- As `runSteps_keeps`, of the events so far and the state. -/
theorem runSteps_keeps_past (keeps : List ε → σ → Prop)
    (steps : ∀ {past state event next}, keeps past state → allowed state event →
      step state event = some next → keeps (past ++ [event]) next) {past : List ε} {after : σ}
    (before : keeps past state) (along : Along step allowed state events)
    (runs : runSteps step state events = some after) : keeps (past ++ events) after := by
  induction events generalizing state past with
  | nil =>
    cases runs
    rw [List.append_nil]
    exact before
  | cons event events ih =>
    obtain ⟨next, moves, rest⟩ := runSteps_cons runs
    rw [List.append_cons]
    exact ih (steps before along.1 moves) (along.2 next moves) rest

end SensorSystem.Base
