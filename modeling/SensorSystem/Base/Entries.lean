import Mathlib.Algebra.GroupWithZero.Nat
import Mathlib.Data.List.Nodup

/-! A table is a list of entries that are found by a property which one of them has at most. An
update changes the first entry that is found. -/

namespace SensorSystem.Base

open List

variable {α κ : Type}

/-- Change the first entry with a property. -/
def updateFirst (found : α → Bool) (update : α → α) : List α → List α
  | [] => []
  | entry :: rest =>
    if found entry then update entry :: rest else entry :: updateFirst found update rest

variable {found : α → Bool} {key : α → κ} {update : α → α} {entries : List α} {entry : α}

/-- Keys that an update keeps. -/
theorem map_updateFirst (entries : List α)
    (keeps : ∀ entry ∈ entries, found entry → key (update entry) = key entry) :
    (updateFirst found update entries).map key = entries.map key := by
  induction entries with
  | nil => rfl
  | cons entry rest ih =>
    rw [updateFirst]
    split
    · rename_i here
      rw [map_cons, map_cons, keeps entry mem_cons_self here]
    rw [map_cons, map_cons,
      ih fun other member => keeps other (mem_cons_of_mem _ member)]

theorem updateFirst_append_of_find? {others : List α} (first : entries.find? found = some entry) :
    updateFirst found update (entries ++ others) = updateFirst found update entries ++ others := by
  induction entries with
  | nil => cases first
  | cons head rest ih =>
    rw [cons_append, updateFirst, updateFirst]
    by_cases here : found head
    · rw [if_pos here, if_pos here, cons_append]
    rw [find?_cons_of_neg here] at first
    rw [if_neg here, if_neg here, cons_append, ih first]

theorem mem_updateFirst (member : entry ∈ updateFirst found update entries) :
    entry ∈ entries ∨ ∃ old, entries.find? found = some old ∧ entry = update old := by
  induction entries with
  | nil => exact .inl member
  | cons head rest ih =>
    rw [updateFirst] at member
    by_cases here : found head
    · rw [if_pos here] at member
      rw [find?_cons_of_pos here]
      rcases mem_cons.mp member with same | behind
      · exact .inr ⟨head, rfl, same⟩
      · exact .inl (mem_cons_of_mem _ behind)
    rw [if_neg here] at member
    rw [find?_cons_of_neg here]
    rcases mem_cons.mp member with same | behind
    · exact .inl (same ▸ mem_cons_self)
    · exact (ih behind).imp (mem_cons_of_mem _) id

/-- An entry that is not found stays. -/
theorem mem_updateFirst_of_mem (member : entry ∈ entries) (other : ¬ found entry) :
    entry ∈ updateFirst found update entries := by
  induction entries with
  | nil => exact member
  | cons head rest ih =>
    rw [updateFirst]
    split
    · rename_i here
      rcases mem_cons.mp member with same | behind
      · exact absurd (same ▸ here) other
      · exact mem_cons_of_mem _ behind
    rcases mem_cons.mp member with same | behind
    · exact same ▸ mem_cons_self
    · exact mem_cons_of_mem _ (ih behind)

/-- Only the first entry with the property leaves the list. -/
theorem mem_updateFirst_or_first (member : entry ∈ entries) :
    entry ∈ updateFirst found update entries ∨ entries.find? found = some entry := by
  induction entries with
  | nil => exact absurd member not_mem_nil
  | cons head rest ih =>
    rw [updateFirst]
    by_cases here : found head
    · rw [if_pos here, find?_cons_of_pos here]
      rcases mem_cons.mp member with rfl | later
      · exact .inr rfl
      · exact .inl (mem_cons_of_mem _ later)
    rw [if_neg here, find?_cons_of_neg here]
    rcases mem_cons.mp member with rfl | later
    · exact .inl mem_cons_self
    · exact (ih later).imp_left (mem_cons_of_mem _)

theorem update_mem_updateFirst {old : α} (first : entries.find? found = some old) :
    update old ∈ updateFirst found update entries := by
  induction entries with
  | nil => cases first
  | cons head rest ih =>
    rw [updateFirst]
    by_cases here : found head
    · rw [find?_cons_of_pos here] at first
      cases first
      rw [if_pos here]
      exact mem_cons_self
    rw [find?_cons_of_neg here] at first
    rw [if_neg here]
    exact mem_cons_of_mem _ (ih first)

/-- What is found after an update. -/
theorem find?_updateFirst (entries : List α) (keeps : ∀ entry, found entry → found (update entry)) :
    (updateFirst found update entries).find? found = (entries.find? found).map update := by
  induction entries with
  | nil => rfl
  | cons head rest ih =>
    rw [updateFirst]
    by_cases here : found head
    · rw [if_pos here, find?_cons_of_pos here, find?_cons_of_pos (keeps head here)]
      rfl
    · rw [if_neg here, find?_cons_of_neg here, find?_cons_of_neg here, ih]

/-- Two updates with the same view leave the same views. -/
theorem map_updateFirst_congr {β : Type} {first second : α → α} {view : α → β}
    (found : α → Bool) (entries : List α)
      (same : ∀ entry, view (first entry) = view (second entry)) :
    (updateFirst found first entries).map view = (updateFirst found second entries).map view := by
  induction entries with
  | nil => rfl
  | cons entry rest ih =>
    rw [updateFirst, updateFirst]
    split
    · rw [map_cons, map_cons, same entry]
    · rw [map_cons, map_cons, ih]

/-- An update that keeps the entry it finds keeps the table. -/
theorem updateFirst_eq_self (first : entries.find? found = some entry)
    (kept : update entry = entry) : updateFirst found update entries = entries := by
  induction entries with
  | nil => rfl
  | cons head rest ih =>
    rw [updateFirst]
    by_cases here : found head
    · rw [find?_cons_of_pos here] at first
      cases first
      rw [if_pos here, kept]
    rw [find?_cons_of_neg here] at first
    rw [if_neg here, ih first]

/-- An update adds at most its bound to the sum. -/
theorem sum_updateFirst_le {weight : α → Nat} {bound : Nat} (entries : List α)
    (grows : ∀ entry, weight (update entry) ≤ weight entry + bound) :
    ((updateFirst found update entries).map weight).sum ≤ (entries.map weight).sum + bound := by
  induction entries with
  | nil => exact Nat.zero_le _
  | cons entry rest ih =>
    have grown := grows entry
    rw [updateFirst]
    split
    · rw [map_cons, map_cons, sum_cons, sum_cons]
      omega
    rw [map_cons, map_cons, sum_cons, sum_cons]
    omega

/-- The entries that another property keeps are the same. -/
theorem filter_updateFirst {other : α → Bool} (entries : List α)
    (apart : ∀ entry ∈ entries, found entry → other entry = false ∧ other (update entry) = false) :
    (updateFirst found update entries).filter other = entries.filter other := by
  induction entries with
  | nil => rfl
  | cons entry rest ih =>
    rw [updateFirst]
    split
    · rename_i here
      obtain ⟨before, after⟩ := apart entry mem_cons_self here
      rw [filter_cons_of_neg (by simp [after]), filter_cons_of_neg (by simp [before])]
    rw [filter_cons, filter_cons,
      ih fun other member => apart other (mem_cons_of_mem _ member)]

variable (distinct : (entries.map key).Nodup)

include distinct

/-- Entries with the same key are the same entry. -/
theorem eq_of_key {first second : α} (here : first ∈ entries) (there : second ∈ entries)
    (same : key first = key second) : first = second :=
  inj_on_of_nodup_map distinct here there same

theorem find?_key [DecidableEq κ] {wanted : κ} (member : entry ∈ entries)
    (here : key entry = wanted) : entries.find? (key · = wanted) = some entry := by
  cases first : entries.find? (key · = wanted) with
  | none => exact absurd here (by simpa using find?_eq_none.mp first entry member)
  | some other =>
    have found : key other = wanted := by simpa using find?_some first
    rw [eq_of_key distinct (mem_of_find?_eq_some first) member (found.trans here.symm)]

/-- An update by key touches the entry with the key alone. -/
theorem key_ne_of_mem_updateFirst [DecidableEq κ] {wanted : κ}
    (keeps : ∀ entry, key entry = wanted → key (update entry) = key entry)
    (member : entry ∈ updateFirst (key · = wanted) update entries) :
    (entry ∈ entries ∧ key entry ≠ wanted) ∨
      ∃ old, entries.find? (key · = wanted) = some old ∧ entry = update old := by
  rcases mem_updateFirst member with same | replaced
  · by_cases here : key entry = wanted
    · -- The entry with the key was replaced, so this is what replaced it.
      have stays := map_updateFirst entries
        fun other _ (there : decide (key other = wanted) = true) =>
          keeps other (of_decide_eq_true there)
      have distinct' : ((updateFirst (key · = wanted) update entries).map key).Nodup := by
        rw [stays]
        exact distinct
      cases first : entries.find? (key · = wanted) with
      | none => exact absurd here (by simpa using find?_eq_none.mp first entry same)
      | some old =>
        have found : key old = wanted := by simpa using find?_some first
        have there := @update_mem_updateFirst _ _ update _ _ first
        have equal := eq_of_key distinct' member there (by rw [here, keeps old found, found])
        exact .inr ⟨old, rfl, equal⟩
    · exact .inl ⟨same, here⟩
  · exact .inr replaced

omit distinct

/-- Keys stay distinct when a new key is a fresh one. -/
theorem nodup_updateFirst {others : List κ} (entries : List α)
    (distinct : (entries.map key ++ others).Nodup) (fresh : ∀ entry ∈ entries, found entry →
      key (update entry) = key entry ∨ key (update entry) ∉ entries.map key ++ others) :
    ((updateFirst found update entries).map key ++ others).Nodup := by
  induction entries with
  | nil => exact distinct
  | cons entry rest ih =>
    rw [map_cons, cons_append, nodup_cons] at distinct
    obtain ⟨apart, distinct⟩ := distinct
    rw [updateFirst]
    split
    · rename_i here
      rw [map_cons, cons_append, nodup_cons]
      refine ⟨?_, distinct⟩
      rcases fresh entry mem_cons_self here with same | new
      · rw [same]
        exact apart
      · exact fun member => new (mem_cons_of_mem _ member)
    rw [map_cons, cons_append, nodup_cons]
    have later : ∀ other ∈ rest, found other → key (update other) = key other ∨
        key (update other) ∉ (entry :: rest).map key ++ others :=
      fun other member => fresh other (mem_cons_of_mem _ member)
    refine ⟨fun member => ?_, ih distinct fun other member there =>
      (later other member there).imp_right fun new member =>
        new (mem_cons_of_mem _ member)⟩
    -- A key behind this entry is an old one or a fresh one.
    rcases mem_append.mp member with behind | outside
    · obtain ⟨other, there, same⟩ := mem_map.mp behind
      rcases mem_updateFirst there with old | ⟨old, first, rfl⟩
      · exact apart (mem_append_left _ (same ▸ mem_map_of_mem old))
      have member := mem_of_find?_eq_some first
      rcases later old member (find?_some first) with kept | new
      · rw [kept] at same
        exact apart (mem_append_left _ (same ▸ mem_map_of_mem member))
      · rw [same] at new
        exact new mem_cons_self
    · exact apart (mem_append_right _ outside)

theorem updateFirst_congr {found' : α → Bool} (entries : List α)
    (same : ∀ entry ∈ entries, found entry = found' entry) :
    updateFirst found update entries = updateFirst found' update entries := by
  induction entries with
  | nil => rfl
  | cons entry rest ih =>
    rw [updateFirst, updateFirst, same entry mem_cons_self,
      ih fun other member => same other (mem_cons_of_mem _ member)]

/-- Two updates of one entry. -/
theorem updateFirst_updateFirst {next : α → α} (entries : List α)
    (keeps : ∀ entry, found entry → found (update entry)) :
    updateFirst found next (updateFirst found update entries) =
      updateFirst found (next ∘ update) entries := by
  induction entries with
  | nil => rfl
  | cons entry rest ih =>
    by_cases here : found entry
    · simp only [updateFirst, if_pos here, if_pos (keeps entry here), Function.comp]
    · simp only [updateFirst, if_neg here, ih]

end SensorSystem.Base
