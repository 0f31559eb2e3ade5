import Mathlib.Tactic.Common

/-! Inversion of successful runs in `Except`, so that a proof takes a chain of early returns apart
one step at a time. -/

namespace SensorSystem.Base

universe u v w
variable {ε : Type u} {α β : Type v}

variable {result : Except ε α}

theorem bind_eq_ok {next : α → Except ε β} {value : β} :
    (result >>= next) = .ok value ↔ ∃ middle, result = .ok middle ∧ next middle = .ok value := by
  cases result with
  | error error => exact ⟨nofun, fun ⟨_, impossible, _⟩ => nomatch impossible⟩
  | ok middle =>
    constructor
    · intro continued
      exact ⟨middle, rfl, continued⟩
    · rintro ⟨found, same, continued⟩
      cases same
      exact continued

/-- The case of a check that returns nothing. -/
theorem check_eq_ok {γ : Type} {check : Except ε Unit} {next : Unit → Except ε γ} {value : γ} :
    (check >>= next) = .ok value ↔ check = .ok () ∧ next () = .ok value := by
  rw [bind_eq_ok]
  constructor
  · rintro ⟨⟨⟩, checked, continued⟩
    exact ⟨checked, continued⟩
  · rintro ⟨checked, continued⟩
    exact ⟨(), checked, continued⟩

theorem map_eq_ok {change : α → β} {value : β} :
    (change <$> result) = .ok value ↔ ∃ middle, result = .ok middle ∧ change middle = value := by
  cases result with
  | error error => exact ⟨nofun, fun ⟨_, impossible, _⟩ => nomatch impossible⟩
  | ok middle =>
    constructor
    · intro mapped
      exact ⟨middle, rfl, Except.ok.inj mapped⟩
    · rintro ⟨found, same, rfl⟩
      cases same
      rfl

theorem mapError_eq_ok {δ : Type w} {convert : ε → δ} {value : α} :
    result.mapError convert = .ok value ↔ result = .ok value := by
  cases result with
  | error error => exact ⟨nofun, nofun⟩
  | ok middle =>
    constructor
    · intro same
      exact congrArg _ (Except.ok.inj same)
    · intro same
      cases same
      rfl

/-- A guard in front of a status. -/
theorem status_guard_eq {γ : Type w} {failed : Prop} [Decidable failed] {bad rest good : γ}
    (differs : bad ≠ good) : (if failed then bad else rest) = good ↔ ¬ failed ∧ rest = good := by
  by_cases fails : failed
  · rw [if_pos fails]
    exact ⟨fun same => absurd same differs, fun both => absurd fails both.1⟩
  rw [if_neg fails]
  exact ⟨fun continued => ⟨fails, continued⟩, And.right⟩

/-- A guard in front of a computation. -/
theorem guard_eq_ok {failed : Prop} [Decidable failed] {error : ε} {rest : Except ε α} {value : α} :
    (if failed then .error error else rest) = .ok value ↔ ¬ failed ∧ rest = .ok value :=
  status_guard_eq nofun

/-- A successful check is passed over. -/
@[simp] theorem ok_bind (value : α) (next : α → Except ε β) :
    ((Except.ok value : Except ε α) >>= next) = next value := rfl

@[simp] theorem map_ok (value : α) (change : α → β) :
    (change <$> (Except.ok value : Except ε α)) = .ok (change value) := rfl

end SensorSystem.Base
