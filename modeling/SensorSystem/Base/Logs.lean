import Mathlib.Tactic.Common

/-! A log grows at its end. A rule relates an entry to the log in front of it, and a log is
justified when each of its entries follows the rule. -/

namespace SensorSystem.Base

open List

variable {α : Type*} {rule : List α → α → Prop} {log : List α} {entry : α}

def Justified (rule : List α → α → Prop) (log : List α) : Prop :=
  ∀ before entry after, log = before ++ entry :: after → rule before entry

theorem Justified.nil : Justified rule [] := by
  intro before entry after same
  cases before <;> cases same

theorem Justified.concat (justified : Justified rule log) (follows : rule log entry) :
    Justified rule (log ++ [entry]) := by
  intro before found after same
  rcases eq_nil_or_concat after with rfl | ⟨rest, last, rfl⟩
  · obtain ⟨rfl, last⟩ := append_inj' same rfl
    cases last
    exact follows
  · rw [concat_eq_append, ← cons_append, ← append_assoc] at same
    obtain ⟨rfl, -⟩ := append_inj' same rfl
    exact justified before found rest rfl

theorem Justified.of_mem (justified : Justified rule log) (member : entry ∈ log) :
    ∃ before, rule before entry := by
  obtain ⟨before, after, same⟩ := append_of_mem member
  exact ⟨before, justified before entry after same⟩

end SensorSystem.Base
