import Mathlib.Data.List.Range
import Mathlib.Data.Nat.ModEq
import Mathlib.Tactic.Common

/-! A ring stores its elements in a physical array and names the live ones by a head index and a
size. `Ring.toList` is the logical content in queue order; every operation below is characterized
by its effect on that list, so clients reason about lists and never about wrapped indices. -/

namespace SensorSystem.Base

/-- A ring over a physical array; its capacity is positive and bounds its size. -/
structure Ring (α : Type) (capacity : Nat) where
  slots : Vector α capacity
  head : Nat
  size : Nat
  headBounded : head < capacity
  sizeBounded : size ≤ capacity

namespace Ring

variable {α : Type} {capacity : Nat}

/-- An empty ring over a physical array filled with one value. -/
def empty (positive : 0 < capacity) (fill : α) : Ring α capacity where
  slots := Vector.replicate capacity fill
  head := 0
  size := 0
  headBounded := positive
  sizeBounded := Nat.zero_le _

variable (ring : Ring α capacity) (logical : Nat)

/-- The physical index of a logical offset from the head. -/
def physicalIndex : Nat :=
  (ring.head + logical) % capacity

theorem physicalIndex_lt : ring.physicalIndex logical < capacity :=
  Nat.mod_lt _ (Nat.zero_lt_of_lt ring.headBounded)

/-- The element stored at a logical offset from the head. -/
def get : α :=
  have bounded := ring.physicalIndex_lt logical
  ring.slots[ring.physicalIndex logical]

/-- The logical content in queue order. -/
def toList : List α :=
  (List.range ring.size).map ring.get

/-- Store a value behind the last element. A full ring is left unchanged. -/
def push (value : α) : Ring α capacity :=
  if room : ring.size < capacity then
    { slots := ring.slots.set (ring.physicalIndex ring.size) value
        (ring.physicalIndex_lt ring.size)
      head := ring.head
      size := ring.size + 1
      headBounded := ring.headBounded
      sizeBounded := room }
  else ring

/-- Overwrite the element at a logical offset. -/
def set (ring : Ring α capacity) (logical : Nat) (value : α) : Ring α capacity :=
  { ring with
    slots := ring.slots.set (ring.physicalIndex logical) value
      (ring.physicalIndex_lt logical) }

/-- Drop elements from the front by advancing the head. -/
def advance (count : Nat) : Ring α capacity where
  slots := ring.slots
  head := (ring.head + count) % capacity
  size := ring.size - count
  headBounded := Nat.mod_lt _ (Nat.zero_lt_of_lt ring.headBounded)
  sizeBounded := Nat.le_trans (Nat.sub_le _ _) ring.sizeBounded

/-- The last logical element of a non-empty ring. -/
def back : α :=
  ring.get (ring.size - 1)

/-- Pop the front while a condition holds, at most as often as there are elements. -/
def popWhile (condition : α → Bool) (ring : Ring α capacity) : Ring α capacity :=
  loop ring.size ring
where
  loop : Nat → Ring α capacity → Ring α capacity
    | 0, ring => ring
    | rounds + 1, ring =>
      if ring.size ≠ 0 ∧ condition (ring.get 0) then loop rounds (ring.advance 1) else ring

/-- A physical run of cells, as a pointer and a length describe one. -/
def cells (start count : Nat) : List α :=
  (ring.slots.toList.drop start).take count

@[simp] theorem length_toList : ring.toList.length = ring.size := by
  simp [toList]

theorem getElem_toList (index : Nat) (bounded : index < ring.toList.length) :
    ring.toList[index] = ring.get index := by
  simp [toList]

theorem getElem?_toList {index : Nat} (bounded : index < ring.size) :
    ring.toList[index]? = some (ring.get index) := by
  simp [toList, bounded]

/-- Two offsets inside one capacity name different cells. -/
theorem physicalIndex_inj {left right : Nat} (leftBounded : left < capacity)
    (rightBounded : right < capacity) (same : ring.physicalIndex left = ring.physicalIndex right) :
    left = right := by
  have congruent : left ≡ right [MOD capacity] :=
    Nat.ModEq.add_left_cancel' ring.head same
  exact Nat.ModEq.eq_of_lt_of_lt congruent leftBounded rightBounded

/-- Writing one cell changes exactly the offset that names it. -/
theorem get_slots_set (target : Nat) (value : α) {index : Nat} (targetBounded : target < capacity)
    (indexBounded : index < capacity) :
    (ring.set target value).get index = if index = target then value else ring.get index := by
  by_cases same : index = target
  · subst same
    simp [get, set, physicalIndex]
  have different : ring.physicalIndex target ≠ ring.physicalIndex index := by
    intro equal
    exact same (ring.physicalIndex_inj targetBounded indexBounded equal).symm
  simp only [physicalIndex] at different
  simp [get, set, physicalIndex, same, different]

/-- Pushing onto a ring with room appends to its content. -/
theorem toList_push (value : α) (room : ring.size < capacity) :
    (ring.push value).toList = ring.toList ++ [value] := by
  have pushed : (ring.push value).get = (ring.set ring.size value).get := by
    funext index
    simp [push, room, set, get, physicalIndex]
  have size : (ring.push value).size = ring.size + 1 := by simp [push, room]
  rw [toList, size, pushed, List.range_succ, List.map_append]
  congr 1
  · apply List.map_congr_left
    intro index member
    have bounded := List.mem_range.mp member
    rw [ring.get_slots_set _ _ room (Nat.lt_trans bounded room), if_neg (Nat.ne_of_lt bounded)]
  · simp [ring.get_slots_set _ _ room room]

/-- Overwriting a live offset replaces that element of the content. -/
theorem toList_set (target : Nat) (value : α) (live : target < ring.size) :
    (ring.set target value).toList = ring.toList.set target value := by
  apply List.ext_getElem
  · simp [set]
  intro index leftBounded rightBounded
  have bounded : index < ring.size := by simpa [set] using leftBounded
  rw [getElem_toList, ring.get_slots_set _ _ (Nat.lt_of_lt_of_le live ring.sizeBounded)
    (Nat.lt_of_lt_of_le bounded ring.sizeBounded), List.getElem_set, getElem_toList]
  by_cases same : index = target
  · simp [same]
  · simp [same, Ne.symm same]

theorem get_advance (count index : Nat) :
    (ring.advance count).get index = ring.get (count + index) := by
  simp [get, advance, physicalIndex, Nat.add_assoc]

/-- Advancing the head drops a prefix of the content. -/
theorem toList_advance (count : Nat) : (ring.advance count).toList = ring.toList.drop count := by
  apply List.ext_getElem
  · simp [advance]
  · intro index leftBounded rightBounded
    rw [getElem_toList, get_advance, List.getElem_drop, getElem_toList]

theorem toList_eq_nil : ring.toList = [] ↔ ring.size = 0 := by
  rw [← List.length_eq_zero_iff, length_toList]

/-- The content of a non-empty ring starts at its head. -/
theorem toList_eq_cons (nonempty : ring.size ≠ 0) :
    ring.toList = ring.get 0 :: (ring.advance 1).toList := by
  have positive : 0 < ring.toList.length := by
    rw [length_toList]
    omega
  rw [toList_advance, ← getElem_toList ring 0 positive]
  exact (List.drop_eq_getElem_cons positive)

/-- The content of a non-empty ring ends with its last element. -/
theorem toList_eq_dropLast_append (nonempty : ring.size ≠ 0) :
    ring.toList = ring.toList.dropLast ++ [ring.back] := by
  have positive : ring.toList ≠ [] := by rwa [Ne, toList_eq_nil]
  have last : ring.toList.getLast positive = ring.back := by
    rw [List.getLast_eq_getElem, getElem_toList, length_toList, back]
  rw [← last, List.dropLast_append_getLast]

private theorem toList_popWhile_loop (condition : α → Bool) (rounds : Nat)
    (ring : Ring α capacity) (enough : ring.size ≤ rounds) :
    (popWhile.loop condition rounds ring).toList = ring.toList.dropWhile condition := by
  induction rounds generalizing ring with
  | zero =>
      have empty : ring.toList = [] := (toList_eq_nil ring).mpr (by omega)
      simp [popWhile.loop, empty]
  | succ rounds ih =>
      rw [popWhile.loop]
      by_cases nonempty : ring.size = 0
      · have empty : ring.toList = [] := (toList_eq_nil ring).mpr nonempty
        simp [nonempty, empty]
      rw [toList_eq_cons ring nonempty]
      by_cases holds : condition (ring.get 0)
      · rw [if_pos ⟨nonempty, holds⟩, ih _ (by simp only [advance]; omega)]
        simp [holds]
      rw [if_neg (fun both => holds both.2), toList_eq_cons ring nonempty]
      simp [holds]

/-- Popping while a condition holds drops the longest such prefix. -/
theorem toList_popWhile (condition : α → Bool) (ring : Ring α capacity) :
    (ring.popWhile condition).toList = ring.toList.dropWhile condition :=
  toList_popWhile_loop condition ring.size ring (Nat.le_refl _)

/-- Consecutive live elements occupy at most two physical runs. -/
theorem cells_wrap (offset count : Nat) (live : offset + count ≤ ring.size) :
    let start := ring.physicalIndex offset
    let first := if count < capacity - start then count else capacity - start
    ring.cells start first ++ ring.cells 0 (count - first) =
      (ring.toList.drop offset).take count := by
  intro start first
  have startBounded : start < capacity := ring.physicalIndex_lt offset
  have firstBounded : first ≤ capacity - start := by
    simp only [first]
    split <;> omega
  have restBounded : count - first ≤ capacity := by
    have := ring.sizeBounded
    omega
  have firstLength : (ring.cells start first).length = first := by
    simp only [cells, List.length_take, List.length_drop, Vector.length_toList]
    omega
  have restLength : (ring.cells 0 (count - first)).length = count - first := by
    simp only [cells, List.length_take, List.length_drop, Vector.length_toList]
    omega
  have firstLe : first ≤ count := by
    simp only [first]
    split <;> omega
  apply List.ext_getElem
  · simp only [List.length_append, firstLength, restLength, List.length_take, List.length_drop,
      length_toList]
    omega
  intro index leftBounded rightBounded
  have indexBounded : index < count := by
    simp only [List.length_append, firstLength, restLength] at leftBounded
    omega
  have startEq : start = (ring.head + offset) % capacity := rfl
  rw [List.getElem_take, List.getElem_drop, getElem_toList]
  by_cases early : index < first
  · have physical : ring.physicalIndex (offset + index) = start + index := by
      rw [physicalIndex, ← Nat.add_assoc, Nat.add_mod, ← startEq,
        Nat.mod_eq_of_lt (a := index) (by omega), Nat.mod_eq_of_lt (by omega)]
    rw [List.getElem_append_left (by omega)]
    simp [cells, get, physical]
  have wrapped : first = capacity - start := by
    simp only [first]
    split
    · rename_i short
      simp only [first, if_pos short] at early
      omega
    · rfl
  have physical : ring.physicalIndex (offset + index) = index - first := by
    have small : index < capacity := by
      have := ring.sizeBounded
      omega
    rw [physicalIndex, ← Nat.add_assoc, Nat.add_mod, ← startEq,
      Nat.mod_eq_of_lt (a := index) small]
    have wrapped : start + index = (index - first) + capacity := by omega
    rw [wrapped, Nat.add_mod_right, Nat.mod_eq_of_lt (by omega)]
  rw [List.getElem_append_right (by omega)]
  simp [cells, get, physical, Nat.min_eq_left firstBounded]

end Ring
end SensorSystem.Base

/-! An array that is written in a circle keeps the last items of what was written to it. A window
that is not longer than the array is read from the place behind the newest item backwards. -/

namespace SensorSystem.Base

variable {α : Type*} {capacity write : Nat} {history cells : List α}

/-- The cells hold the end of a history, each item at its number's remainder. -/
structure Windowed (capacity : Nat) (history cells : List α) (write : Nat) : Prop where
  length : cells.length = capacity
  write : write = history.length % capacity
  kept : ∀ place, place < history.length → history.length ≤ place + capacity →
    cells[place % capacity]? = history[place]?

/-- The items in a circle, from a count of them before the place to be written. -/
def windowOf (capacity : Nat) (cells : List α) (write count : Nat) (default : α) : List α :=
  (List.range count).map fun offset =>
    cells.getD (((write + capacity - count) % capacity + offset) % capacity) default

namespace Windowed

theorem initial (fill : α) : Windowed capacity [] (List.replicate capacity fill) 0 where
  length := List.length_replicate
  write := (Nat.zero_mod capacity).symm
  kept _ inside := absurd inside (Nat.not_lt_zero _)

variable (windowed : Windowed capacity history cells write)

include windowed

theorem push (positive : 0 < capacity) (item : α) :
    Windowed capacity (history ++ [item]) (cells.set write item) ((write + 1) % capacity) where
  length := List.length_set.trans windowed.length
  write := by rw [windowed.write, List.length_append, List.length_singleton, Nat.mod_add_mod]
  kept place inside recent := by
    rw [List.length_append, List.length_singleton] at inside recent
    have bounded : write < cells.length := by
      rw [windowed.write, windowed.length]
      exact Nat.mod_lt _ positive
    rcases Nat.eq_or_lt_of_le (Nat.le_of_lt_succ inside) with rfl | older
    · rw [← windowed.write, List.getElem?_set_self bounded, List.getElem?_concat_length]
    -- A place that is kept is less than a whole circle behind the new item.
    have apart : write ≠ place % capacity := by
      intro same
      rw [windowed.write] at same
      have congruent : (history.length - place) % capacity = 0 :=
        Nat.sub_mod_eq_zero_of_mod_eq same
      rw [Nat.mod_eq_of_lt (by omega)] at congruent
      omega
    rw [List.getElem?_set_ne apart, List.getElem?_append_left older]
    exact windowed.kept place older (by omega)

/-- The window over a history is its end. -/
theorem windowOf_eq {count : Nat} (fits : count ≤ capacity) (filled : count ≤ history.length)
    (default : α) :
    windowOf capacity cells write count default = history.drop (history.length - count) := by
  apply List.ext_getElem?
  intro offset
  rw [windowOf, List.getElem?_map, List.getElem?_drop]
  rcases Nat.lt_or_ge offset count with inside | outside
  · rw [List.getElem?_range inside, Option.map_some]
    have place : ((write + capacity - count) % capacity + offset) % capacity =
        (history.length - count + offset) % capacity := by
      have circle : (history.length - count) % capacity =
        (write + capacity - count) % capacity := by
        have whole := Nat.div_add_mod history.length capacity
        rw [← windowed.write] at whole
        have sum : write + capacity - count + capacity * (history.length / capacity) =
            history.length - count + capacity := by omega
        rw [← Nat.add_mul_mod_self_left (write + capacity - count) capacity, sum,
          Nat.add_mod_right]
      rw [← circle, Nat.mod_add_mod]
    have kept := windowed.kept (history.length - count + offset) (by omega) (by omega)
    rw [place, List.getD_eq_getElem?_getD, kept,
      List.getElem?_eq_getElem (show history.length - count + offset < history.length by omega),
      Option.getD_some]
  · rw [List.getElem?_eq_none (by rw [List.length_range]; exact outside),
      List.getElem?_eq_none (by omega), Option.map_none]

omit windowed

end Windowed
end SensorSystem.Base
