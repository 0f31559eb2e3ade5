import Mathlib.Data.List.Basic
import Mathlib.Tactic.Common

/-! A log is the encodings of its records, one behind the other. When only the first units of it
survive, the records that survive whole are a prefix of the records, and what is left over is a
proper part of the next one. -/

namespace SensorSystem.Base

open List

universe u v
variable {ρ : Type u} {α : Type v} (encode : ρ → List α)

/-- The records that lie whole in the first `room` units of a log. -/
def wholeRecords (room : Nat) : List ρ → List ρ
  | [] => []
  | record :: rest =>
    if (encode record).length ≤ room then
      record :: wholeRecords (room - (encode record).length) rest
    else []

theorem prefix_wholeRecords (room : Nat) (records : List ρ) :
    wholeRecords encode room records <+: records := by
  induction records generalizing room with
  | nil => exact prefix_rfl
  | cons record rest ih =>
    unfold wholeRecords
    split
    · exact (prefix_cons_inj record).mpr (ih _)
    · exact nil_prefix

/-- The log ends inside the record behind the whole ones. -/
theorem take_flatMap_eq (room : Nat) (records : List ρ) :
    ∃ torn, (records.flatMap encode).take room =
        (wholeRecords encode room records).flatMap encode ++ torn ∧
      (torn = [] ∨ ∃ record rest, records = wholeRecords encode room records ++ record :: rest ∧
        torn <+: encode record ∧ torn.length < (encode record).length) := by
  induction records generalizing room with
  | nil => exact ⟨[], by simp [wholeRecords], .inl rfl⟩
  | cons record rest ih =>
    rw [wholeRecords]
    by_cases fits : (encode record).length ≤ room
    · obtain ⟨torn, split, proper⟩ := ih (room - (encode record).length)
      rw [if_pos fits]
      refine ⟨torn, ?_, ?_⟩
      · rw [flatMap_cons, take_append, take_of_length_le fits, split,
          flatMap_cons, append_assoc]
      · apply proper.imp id
        rintro ⟨next, lost, parts, part⟩
        exact ⟨next, lost, congrArg (record :: ·) parts, part⟩
    rw [if_neg fits]
    refine ⟨(encode record).take room, ?_, .inr ⟨record, rest, rfl, ?_, ?_⟩⟩
    · rw [flatMap_cons, take_append_of_le_length (by omega)]
      rfl
    · exact take_prefix _ _
    · rw [length_take]
      omega

/-- They are the longest prefix of the records with room for it. -/
theorem prefix_wholeRecords_iff {room : Nat} {records whole : List ρ} (first : whole <+: records) :
    whole <+: wholeRecords encode room records ↔ (whole.flatMap encode).length ≤ room := by
  induction records generalizing room whole with
  | nil =>
    obtain rfl := prefix_nil.mp first
    exact ⟨fun _ => Nat.zero_le _, fun _ => nil_prefix⟩
  | cons record rest ih =>
    cases whole with
    | nil => exact ⟨fun _ => Nat.zero_le _, fun _ => nil_prefix⟩
    | cons head tail =>
      obtain ⟨rfl, within⟩ := cons_prefix_cons.mp first
      rw [wholeRecords, flatMap_cons, length_append]
      split
      · simp only [cons_prefix_cons, ih within, true_and]
        omega
      rw [prefix_nil]
      exact ⟨nofun, fun fits => absurd fits (by omega)⟩

end SensorSystem.Base
