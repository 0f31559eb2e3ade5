import Mathlib.Tactic.Common

/-! Each item occupies the positions from its first one up to its stop. A list tiles a range when
its items follow each other without a hole or an overlap and none is empty. -/

namespace SensorSystem.Base

open List

variable {α : Type*} {first stop : α → Nat}

inductive Tiles (first stop : α → Nat) : Nat → Nat → List α → Prop
  | nil (position : Nat) : Tiles first stop position position []
  | cons {item : α} {items : List α} {finish : Nat} (nonempty : first item < stop item)
      (rest : Tiles first stop (stop item) finish items) :
      Tiles first stop (first item) finish (item :: items)

namespace Tiles

theorem le {start finish : Nat} {items : List α} (tiles : Tiles first stop start finish items) :
    start ≤ finish := by
  induction tiles with
  | nil => exact Nat.le_refl _
  | cons nonempty _ ih => exact Nat.le_trans (Nat.le_of_lt nonempty) ih

theorem append {start middle finish : Nat} {left right : List α}
    (front : Tiles first stop start middle left) (back : Tiles first stop middle finish right) :
    Tiles first stop start finish (left ++ right) := by
  induction front with
  | nil => exact back
  | cons nonempty _ ih => exact .cons nonempty (ih back)

variable {item : α}

theorem single (nonempty : first item < stop item) :
    Tiles first stop (first item) (stop item) [item] :=
  .cons nonempty (.nil _)

variable {start finish : Nat}

theorem nil_iff : Tiles first stop start finish [] ↔ start = finish := by
  constructor
  · intro tiles
    cases tiles
    rfl
  · rintro rfl
    exact .nil start

variable {items : List α}

theorem cons_iff :
    Tiles first stop start finish (item :: items) ↔
      first item = start ∧ first item < stop item ∧ Tiles first stop (stop item) finish items := by
  constructor
  · intro tiles
    cases tiles with
    | cons nonempty rest => exact ⟨rfl, nonempty, rest⟩
  · rintro ⟨rfl, nonempty, rest⟩
    exact .cons nonempty rest

/-- A tiled range can be cut between any two items. -/
theorem split {left right : List α}
    (tiles : Tiles first stop start finish (left ++ right)) :
    ∃ middle, Tiles first stop start middle left ∧ Tiles first stop middle finish right := by
  induction left generalizing start with
  | nil => exact ⟨start, .nil start, tiles⟩
  | cons item left ih =>
    cases tiles with
    | cons nonempty rest =>
      obtain ⟨middle, front, back⟩ := ih rest
      exact ⟨middle, .cons nonempty front, back⟩

/-- Every item lies inside the range. -/
theorem inside (tiles : Tiles first stop start finish items)
    (member : item ∈ items) : start ≤ first item ∧ first item < stop item ∧ stop item ≤ finish := by
  obtain ⟨left, right, rfl⟩ := append_of_mem member
  obtain ⟨middle, front, back⟩ := tiles.split
  cases back with
  | cons nonempty rest => exact ⟨front.le, nonempty, rest.le⟩

/-- Every item stops before the later ones begin. -/
theorem pairwise
    (tiles : Tiles first stop start finish items) :
    items.Pairwise fun earlier later => stop earlier ≤ first later := by
  induction tiles with
  | nil => exact .nil
  | cons _ rest ih => exact .cons (fun later member => (rest.inside member).1) ih

/-- Each item begins where the one before it stops. -/
theorem isChain
    (tiles : Tiles first stop start finish items) :
    items.IsChain fun earlier later => stop earlier = first later := by
  induction tiles with
  | nil => exact .nil
  | @cons item items _ _ rest ih =>
    cases items with
    | nil => exact .singleton _
    | cons next items => exact .cons_cons (cons_iff.mp rest).1.symm ih

/-- Each position lies in exactly one item. -/
theorem exists_item {start finish position : Nat}
    (tiles : Tiles first stop start finish items) (above : start ≤ position)
    (below : position < finish) : ∃ left item right, items = left ++ item :: right ∧
      first item ≤ position ∧ position < stop item ∧
      (∀ other ∈ left, stop other ≤ position) ∧ ∀ other ∈ right, position < first other := by
  induction tiles with
  | nil => omega
  | @cons item items finish nonempty rest ih =>
    by_cases here : position < stop item
    · refine ⟨[], item, items, rfl, above, here, by simp, ?_⟩
      intro other member
      have bounds := rest.inside member
      omega
    obtain ⟨left, found, right, rfl, lower, upper, before, after⟩ := ih (by omega) below
    refine ⟨item :: left, found, right, rfl, lower, upper, ?_, after⟩
    intro other member
    rcases mem_cons.mp member with rfl | member
    · omega
    · exact before other member

/-- The items of a tiling have one order only. -/
theorem eq_of_perm {start finish : Nat} {items others : List α}
    (tiles : Tiles first stop start finish items)
    (also : Tiles first stop start finish others) (same : items.Perm others) : items = others := by
  refine same.eq_of_pairwise (fun one other member _ before behind => ?_) tiles.pairwise
    also.pairwise
  have here := tiles.inside member
  have there := tiles.inside (same.mem_iff.mpr ‹other ∈ others›)
  omega

end Tiles

/-- Items that cut a range into pieces: none is empty, no two meet and every position is in one. -/
structure Partitions (first stop : α → Nat) (start finish : Nat) (items : List α) : Prop where
  inside : ∀ item ∈ items, start ≤ first item ∧ first item < stop item ∧ stop item ≤ finish
  disjoint : items.Pairwise fun one other => stop one ≤ first other ∨ stop other ≤ first one
  covers : ∀ position, start ≤ position → position < finish →
    ∃ item ∈ items, first item ≤ position ∧ position < stop item

namespace Partitions

variable {start finish : Nat} {items : List α}

theorem perm {others : List α} (partitions : Partitions first stop start finish items)
    (same : items.Perm others) : Partitions first stop start finish others where
  inside item member := partitions.inside item (same.mem_iff.mpr member)
  disjoint := same.pairwise partitions.disjoint fun apart => apart.symm
  covers position above below := by
    obtain ⟨item, member, here⟩ := partitions.covers position above below
    exact ⟨item, same.mem_iff.mp member, here⟩

theorem of_tiles (tiles : Tiles first stop start finish items) :
    Partitions first stop start finish items where
  inside item member := tiles.inside member
  disjoint := tiles.pairwise.imp Or.inl
  covers position above below := by
    obtain ⟨left, item, right, rfl, lower, upper, -⟩ := tiles.exists_item above below
    exact ⟨item, by simp, lower, upper⟩

/-- In the order of their beginnings the pieces follow each other. -/
theorem tiles (partitions : Partitions first stop start finish items) (ordered : start ≤ finish)
    (sorted : items.Pairwise fun earlier later => first earlier ≤ first later) :
    Tiles first stop start finish items := by
  induction items generalizing start with
  | nil =>
    rcases Nat.lt_or_eq_of_le ordered with below | same
    · obtain ⟨item, member, -⟩ := partitions.covers start (Nat.le_refl _) below
      cases member
    · exact Tiles.nil_iff.mpr same
  | cons item rest ih =>
    obtain ⟨behind, later⟩ := pairwise_cons.mp sorted
    obtain ⟨apart, disjoint⟩ := pairwise_cons.mp partitions.disjoint
    obtain ⟨lower, nonempty, upper⟩ := partitions.inside item mem_cons_self
    -- The first position is in the first item.
    have begins : first item = start := by
      obtain ⟨found, member, here, -⟩ := partitions.covers start (Nat.le_refl _) (by omega)
      rcases mem_cons.mp member with rfl | member
      · omega
      · have := behind found member
        omega
    refine Tiles.cons_iff.mpr ⟨begins, nonempty, ih ⟨?_, disjoint, ?_⟩ upper later⟩
    · intro other member
      have order := behind other member
      have bounds := partitions.inside other (mem_cons_of_mem _ member)
      have clear := apart other member
      omega
    intro position above below
    obtain ⟨found, member, here, there⟩ := partitions.covers position (by omega) below
    rcases mem_cons.mp member with rfl | member
    · omega
    · exact ⟨found, member, here, there⟩

end Partitions
end SensorSystem.Base
