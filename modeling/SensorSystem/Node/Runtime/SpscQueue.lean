import Mathlib.Data.UInt
import Mathlib.Tactic.Common

/-! `spsc_queue.h`: two 32-bit cursors that only grow and a slot for each position modulo the
capacity. A push or a pop is one step here: a push takes effect when it stores the write cursor, a
pop when it stores the read cursor, and a refusal when it loads the other party's cursor. -/

namespace SensorSystem.Node

open UInt32

/-- The capacities the static assertions admit. -/
structure QueueCapacity where
  slots : Nat
  positive : 0 < slots
  bounded : slots ≤ 0xffffffff / 2

structure SpscQueue (α : Type) (capacity : QueueCapacity) where
  slots : Vector α capacity.slots
  write : UInt32 := 0
  read : UInt32 := 0

namespace SpscQueue

variable {α : Type} {capacity : QueueCapacity}

def initial [Inhabited α] : SpscQueue α capacity where
  slots := Vector.replicate capacity.slots default

/-- The slot of a cursor. -/
def slot (capacity : QueueCapacity) (cursor : UInt32) : Fin capacity.slots :=
  ⟨cursor.toNat % capacity.slots, Nat.mod_lt _ capacity.positive⟩

/-- The distance `write - read` of the cursors. -/
def used (queue : SpscQueue α capacity) : Nat :=
  (queue.write - queue.read).toNat

def tryPush (queue : SpscQueue α capacity) (value : α) : Bool × SpscQueue α capacity :=
  if queue.used ≥ capacity.slots then (false, queue)
  else (true, { queue with
    slots := queue.slots.set (slot capacity queue.write) value
    write := queue.write + 1 })

def tryFront (queue : SpscQueue α capacity) : Option α :=
  if queue.read = queue.write then none else some queue.slots[slot capacity queue.read]

def popFront (queue : SpscQueue α capacity) : Bool × SpscQueue α capacity :=
  if queue.read = queue.write then (false, queue)
  else (true, { queue with read := queue.read + 1 })

/-- The slots between the cursors, in the order the consumer reads them. -/
def contents (queue : SpscQueue α capacity) : List α :=
  (List.range queue.used).map fun offset =>
    queue.slots[slot capacity (queue.read + ofNat offset)]

/-- A push would write a slot that no position between the cursors reads. -/
def SlotFree (queue : SpscQueue α capacity) : Prop :=
  ∀ offset < queue.used,
    slot capacity (queue.read + ofNat offset) ≠ slot capacity queue.write

theorem length_contents (queue : SpscQueue α capacity) : queue.contents.length = queue.used := by
  simp [contents]

/-- A cursor at an offset from another one, as a number. -/
theorem toNat_add_ofNat (cursor : UInt32) (offset : Nat) :
    (cursor + ofNat offset).toNat = (cursor.toNat + offset) % 2 ^ 32 := by
  rw [UInt32.toNat_add, UInt32.toNat_ofNat', Nat.add_mod_mod]

variable (queue : SpscQueue α capacity)

include queue

theorem read_add_used : queue.read + ofNat queue.used = queue.write := by
  rw [used, UInt32.ofNat_toNat, UInt32.add_comm, UInt32.sub_add_cancel]

theorem used_eq : queue.used = (2 ^ 32 - queue.read.toNat + queue.write.toNat) % 2 ^ 32 :=
  UInt32.toNat_sub _ _

theorem used_eq_zero_iff : queue.used = 0 ↔ queue.read = queue.write := by
  constructor
  · intro empty
    have stop := queue.read_add_used
    rwa [empty, show ofNat 0 = 0 from rfl, UInt32.add_zero] at stop
  · intro same
    rw [used, same, UInt32.sub_self]
    rfl

omit queue

theorem contents_initial [Inhabited α] : (initial : SpscQueue α capacity).contents = [] := by
  have used : (initial : SpscQueue α capacity).used = 0 := by
    rw [used_eq_zero_iff]
    rfl
  rw [contents, used]
  rfl

theorem tryPush_full {queue : SpscQueue α capacity} (full : capacity.slots ≤ queue.used)
    (value : α) : queue.tryPush value = (false, queue) :=
  if_pos full

section Push

variable {queue : SpscQueue α capacity} (room : queue.used < capacity.slots)
include room

theorem tryPush_room (value : α) : queue.tryPush value = (true, { queue with
    slots := queue.slots.set (slot capacity queue.write) value
    write := queue.write + 1 }) :=
  if_neg (Nat.not_le.mpr room)

theorem used_tryPush (value : α) : (queue.tryPush value).2.used = queue.used + 1 := by
  have bounded := capacity.bounded
  have before := queue.used_eq
  have read := queue.read.toNat_lt
  rw [tryPush_room room, used_eq]
  simp only [UInt32.toNat_add, toNat_one]
  omega

/-- A push into a free slot leaves the occupied ones alone. -/
theorem contents_tryPush (free : queue.SlotFree) (value : α) : (queue.tryPush value).1 = true ∧
      (queue.tryPush value).2.contents = queue.contents ++ [value] := by
  have grown := used_tryPush room value
  rw [contents, grown, List.range_succ, List.map_append, List.map_singleton]
  rw [tryPush_room room]
  refine ⟨rfl, ?_⟩
  congr 1
  · apply List.map_congr_left
    intro offset member
    have apart := free offset (List.mem_range.mp member)
    simp only [Fin.getElem_fin]
    exact Vector.getElem_set_ne _ _ fun same => apart (Fin.ext same.symm)
  · simp only [Fin.getElem_fin, read_add_used, Vector.getElem_set_self]

/-- A push into an occupied slot shows up at two places. -/
theorem contents_tryPush_occupied (occupied : ¬ queue.SlotFree) (value : α) :
    ∃ offset < queue.used, (queue.tryPush value).2.contents[offset]? = some value ∧
      (queue.tryPush value).2.contents[queue.used]? = some value := by
  obtain ⟨offset, below, shared⟩ : ∃ offset < queue.used,
      slot capacity (queue.read + ofNat offset) = slot capacity queue.write := by
    simpa [SlotFree] using occupied
  have written (position : Nat) (inside : position < queue.used + 1)
      (same : slot capacity (queue.read + ofNat position) = slot capacity queue.write) :
      (queue.tryPush value).2.contents[position]? = some value := by
    have grown := used_tryPush room value
    rw [contents, grown, List.getElem?_map, List.getElem?_range inside, tryPush_room room]
    simp only [Option.map_some, same, Fin.getElem_fin, Vector.getElem_set_self]
  exact ⟨offset, below, written offset (by omega) shared,
    written queue.used (Nat.lt_succ_self _) (by rw [read_add_used])⟩

end Push

/-- An empty queue has every slot free. -/
theorem slotFree_of_empty {queue : SpscQueue α capacity} (empty : queue.used = 0) :
    queue.SlotFree := by
  intro offset below
  omega

/-- Positions share a slot only at a multiple of the capacity. -/
theorem slotFree_of_dvd {queue : SpscQueue α capacity} (divides : capacity.slots ∣ 2 ^ 32)
    (room : queue.used < capacity.slots) : queue.SlotFree := by
  intro offset below same
  have slots := congrArg Fin.val same
  rw [← queue.read_add_used] at slots
  simp only [slot, toNat_add_ofNat, Nat.mod_mod_of_dvd _ divides] at slots
  have apart : offset % capacity.slots = queue.used % capacity.slots :=
    Nat.ModEq.add_left_cancel' _ slots
  rw [Nat.mod_eq_of_lt room, Nat.mod_eq_of_lt (Nat.lt_trans below room)] at apart
  omega

theorem tryFront_empty {queue : SpscQueue α capacity} (empty : queue.contents = []) :
    queue.tryFront = none := by
  rw [← List.length_eq_zero_iff, length_contents, used_eq_zero_iff] at empty
  exact if_pos empty

/-- The front of the queue is read and dropped. -/
theorem popFront_cons {queue : SpscQueue α capacity} {value : α} {rest : List α}
    (front : queue.contents = value :: rest) :
    queue.tryFront = some value ∧ (queue.popFront).1 = true ∧
      (queue.popFront).2.contents = rest := by
  have filled : queue.used = rest.length + 1 := by
    rw [← length_contents, front, List.length_cons]
  have apart : queue.read ≠ queue.write := fun same =>
    absurd (queue.used_eq_zero_iff.mpr same) (by omega)
  have popped : queue.popFront = (true, { queue with read := queue.read + 1 }) := if_neg apart
  have shrunk : ({ queue with read := queue.read + 1 } : SpscQueue α capacity).used =
      rest.length := by
    have before := queue.used_eq
    have read := queue.read.toNat_lt
    rw [used_eq]
    simp only [UInt32.toNat_add, toNat_one]
    omega
  have shifted : ({ queue with read := queue.read + 1 } : SpscQueue α capacity).contents =
      queue.contents.tail := by
    rw [contents, contents, shrunk, filled, List.range_succ_eq_map, List.map_cons, List.tail_cons,
      List.map_map]
    apply List.map_congr_left
    intro offset _
    have cursor : queue.read + 1 + ofNat offset =
        queue.read + ofNat (offset + 1) := by
      rw [ofNat_add, UInt32.add_comm (ofNat offset), ← UInt32.add_assoc]
      rfl
    simp only [Function.comp, Nat.succ_eq_add_one, cursor]
  refine ⟨?_, by rw [popped], ?_⟩
  · have cursor : queue.read + ofNat 0 = queue.read := UInt32.add_zero _
    have head : queue.contents.head? = some queue.slots[slot capacity queue.read] := by
      rw [contents, filled, List.range_succ_eq_map, List.map_cons, List.head?_cons]
      simp only [cursor]
    rw [front, List.head?_cons] at head
    rw [tryFront, if_neg apart, head]
  · rw [popped, shifted, front, List.tail_cons]

end SpscQueue
end SensorSystem.Node
