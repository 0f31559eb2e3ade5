import SensorSystem.Node.Runtime.SpscQueue

/-! The producer pushes. The consumer copies the front value and drops it afterwards, as `try_pop`
does, so that a push may come in between. A run is first in, first out as long as no push writes a
slot that is still in use. -/

namespace SensorSystem.Node

open List SpscQueue UInt32

inductive QueueStep (α : Type) where
  | tryPush (value : α)
  | tryFront
  | popFront

/-- A queue with the values it has accepted and given back so far. -/
structure QueueTrace (α : Type) (capacity : QueueCapacity) where
  queue : SpscQueue α capacity
  accepted : List α := []
  popped : List α := []
  /-- The value that `try_pop` has copied and not dropped yet. -/
  copied : Option α := none

namespace QueueTrace

variable {α : Type} {capacity : QueueCapacity}

def initial [Inhabited α] (capacity : QueueCapacity) : QueueTrace α capacity where
  queue := .initial

def step (trace : QueueTrace α capacity) : QueueStep α → QueueTrace α capacity
  | .tryPush value =>
    { trace with
      queue := (trace.queue.tryPush value).2
      accepted :=
        if (trace.queue.tryPush value).1 then trace.accepted ++ [value] else trace.accepted }
  | .tryFront => { trace with copied := trace.queue.tryFront }
  | .popFront =>
    match trace.copied with
    | none => trace
    | some value =>
      { trace with
        queue := trace.queue.popFront.2
        popped := if trace.queue.popFront.1 then trace.popped ++ [value] else trace.popped
        copied := none }

def run (trace : QueueTrace α capacity) (steps : List (QueueStep α)) : QueueTrace α capacity :=
  steps.foldl step trace

/-- What was popped is the start of what was accepted, and only a full queue refuses. -/
structure Fifo (trace : QueueTrace α capacity) : Prop where
  order : trace.popped <+: trace.accepted
  push_fails : ∀ value, (trace.queue.tryPush value).1 = false ↔
    trace.accepted.length = trace.popped.length + capacity.slots
  front_fails : trace.queue.tryFront = none ↔ trace.accepted.length = trace.popped.length
  pop_succeeds : trace.copied.isSome → trace.queue.popFront.1 = true

/-- A push that is accepted writes a slot that is not in use. -/
def Clear (trace : QueueTrace α capacity) : QueueStep α → Prop
  | .tryPush _ => trace.queue.used < capacity.slots → trace.queue.SlotFree
  | _ => True

/-- The accepted values are those popped and those between the cursors. -/
structure Pending (trace : QueueTrace α capacity) : Prop where
  accepted_eq : trace.accepted = trace.popped ++ trace.queue.contents
  used_le : trace.queue.used ≤ capacity.slots
  copied_eq : ∀ value, trace.copied = some value → trace.queue.contents.head? = some value

variable {trace : QueueTrace α capacity}

theorem Pending.initial [Inhabited α] (capacity : QueueCapacity) :
    Pending (QueueTrace.initial capacity : QueueTrace α capacity) where
  accepted_eq := contents_initial.symm
  used_le := by
    change SpscQueue.initial.used ≤ capacity.slots
    rw [← length_contents, contents_initial]
    exact Nat.zero_le _
  copied_eq := nofun

theorem Pending.length_eq (pending : trace.Pending) :
    trace.accepted.length = trace.popped.length + trace.queue.used := by
  rw [pending.accepted_eq, length_append, length_contents]

theorem tryFront_eq (queue : SpscQueue α capacity) : queue.tryFront = queue.contents.head? := by
  cases shown : queue.contents with
  | nil => exact tryFront_empty shown
  | cons value rest => exact (popFront_cons shown).1

theorem Pending.step (pending : trace.Pending) {step : QueueStep α} (clear : trace.Clear step) :
    (trace.step step).Pending := by
  cases step with
  | tryPush value =>
    rw [QueueTrace.step]
    by_cases room : trace.queue.used < capacity.slots
    · obtain ⟨pushed, contents⟩ := contents_tryPush room (clear room) value
      have grown := used_tryPush room value
      rw [if_pos pushed]
      refine ⟨?_, ?_, ?_⟩
      · rw [contents, pending.accepted_eq, append_assoc]
      · exact grown ▸ room
      intro copy copied
      have front := pending.copied_eq copy copied
      rw [contents, head?_append, front]
      rfl
    · rw [tryPush_full (Nat.le_of_not_lt room)]
      exact pending
  | tryFront =>
    refine ⟨pending.accepted_eq, pending.used_le, fun value copied => ?_⟩
    rw [← tryFront_eq]
    exact copied
  | popFront =>
    rw [QueueTrace.step]
    cases copied : trace.copied with
    | none => exact pending
    | some value =>
      have front := pending.copied_eq value copied
      obtain ⟨rest, shown⟩ := head?_eq_some_iff.mp front
      obtain ⟨-, popped, contents⟩ := popFront_cons shown
      have used := trace.queue.popFront.2.length_contents
      have before := trace.queue.length_contents
      have bound := pending.used_le
      rw [contents] at used
      rw [shown, length_cons] at before
      simp only [if_pos popped]
      refine ⟨?_, ?_, nofun⟩
      · rw [contents, pending.accepted_eq, shown, append_assoc]
        rfl
      · change trace.queue.popFront.2.used ≤ capacity.slots
        omega

/-- Every push of a run is clear. -/
def Clears (trace : QueueTrace α capacity) (steps : List (QueueStep α)) : Prop :=
  ∀ earlier step later, steps = earlier ++ step :: later → (trace.run earlier).Clear step

theorem Pending.run (pending : trace.Pending) {steps : List (QueueStep α)}
    (clears : trace.Clears steps) : (trace.run steps).Pending := by
  induction steps generalizing trace with
  | nil => exact pending
  | cons step steps ih =>
    refine ih (pending.step (clears [] step steps rfl)) ?_
    intro earlier next later split
    exact clears (step :: earlier) next later (by rw [split]; rfl)

theorem Pending.fifo (pending : trace.Pending) : trace.Fifo := by
  have length := pending.length_eq
  have bound := pending.used_le
  refine ⟨?_, ?_, ?_, ?_⟩
  · rw [pending.accepted_eq]
    exact prefix_append _ _
  · intro value
    by_cases room : trace.queue.used < capacity.slots
    · rw [tryPush_room room]
      exact ⟨nofun, fun full => by omega⟩
    rw [tryPush_full (Nat.le_of_not_lt room)]
    exact ⟨fun _ => by omega, fun _ => rfl⟩
  · rw [tryFront_eq, head?_eq_none_iff, ← length_eq_zero_iff,
      length_contents]
    omega
  · intro copied
    obtain ⟨value, copied⟩ := Option.isSome_iff_exists.mp copied
    obtain ⟨rest, shown⟩ := head?_eq_some_iff.mp (pending.copied_eq value copied)
    exact (popFront_cons shown).2.1

/-- A capacity that divides the range keeps every push clear. -/
theorem clear_of_dvd (divides : capacity.slots ∣ 2 ^ 32) (step : QueueStep α) :
    trace.Clear step := by
  cases step with
  | tryPush => exact slotFree_of_dvd divides
  | tryFront | popFront => trivial

/-- A value goes in and comes out again. -/
def round (value : α) : List (QueueStep α) := [.tryPush value, .tryFront, .popFront]

theorem run_append (trace : QueueTrace α capacity) (earlier later : List (QueueStep α)) :
    trace.run (earlier ++ later) = (trace.run earlier).run later := by
  rw [run, foldl_append]
  rfl

/-- An empty queue after some values have gone in and out again. -/
structure Cycled (trace : QueueTrace α capacity) (value : α) (count : Nat) : Prop where
  accepted_eq : trace.accepted = replicate count value
  popped_eq : trace.popped = replicate count value
  read_eq : trace.queue.read = ofNat count
  write_eq : trace.queue.write = ofNat count

variable {count : Nat} {value : α} (cycled : trace.Cycled value count)

include cycled

theorem Cycled.used_eq : trace.queue.used = 0 := by
  rw [used_eq_zero_iff, cycled.read_eq, cycled.write_eq]

theorem Cycled.round : (trace.run (round value)).Cycled value (count + 1) := by
  have room : trace.queue.used < capacity.slots := cycled.used_eq ▸ capacity.positive
  have empty : trace.queue.contents = [] := by
    rw [← length_eq_zero_iff, length_contents, cycled.used_eq]
  obtain ⟨pushed, contents⟩ := contents_tryPush room
    (slotFree_of_empty cycled.used_eq) value
  rw [empty, nil_append] at contents
  obtain ⟨front, popped, -⟩ := popFront_cons contents
  have dropped : (trace.queue.tryPush value).2.popFront.2 =
      { (trace.queue.tryPush value).2 with read := (trace.queue.tryPush value).2.read + 1 } := by
    rw [popFront] at popped ⊢
    split at popped
    · cases popped
    · rename_i apart
      rw [if_neg apart]
  simp only [run, QueueTrace.round, foldl_cons, foldl_nil, step, pushed, front, popped,
    dropped, if_true]
  rw [tryPush_room room]
  refine ⟨?_, ?_, ?_, ?_⟩
  · simp only [cycled.accepted_eq, replicate_succ']
  · simp only [cycled.popped_eq, replicate_succ']
  · simp only [cycled.read_eq, ofNat_add]
    rfl
  · simp only [cycled.write_eq, ofNat_add]
    rfl

theorem Cycled.rounds (more : Nat) :
    (trace.run (replicate more (QueueTrace.round value)).flatten).Cycled value
      (count + more) := by
  induction more generalizing trace count with
  | zero => exact cycled
  | succ more ih =>
    rw [replicate_succ, flatten_cons, run_append, Nat.add_comm more, ← Nat.add_assoc]
    exact ih cycled.round

omit cycled

/-- Pushes that find room, whatever they write. -/
theorem run_pushes (trace : QueueTrace α capacity) (values : List α)
    (room : trace.queue.used + values.length ≤ capacity.slots) :
    let after := trace.run (values.map .tryPush)
    after.accepted = trace.accepted ++ values ∧ after.popped = trace.popped ∧
      after.queue.read = trace.queue.read ∧
      after.queue.write = trace.queue.write + ofNat values.length ∧
      after.queue.used = trace.queue.used + values.length := by
  induction values generalizing trace with
  | nil =>
    refine ⟨(append_nil _).symm, rfl, rfl, ?_, rfl⟩
    exact (UInt32.add_zero _).symm
  | cons value values ih =>
    rw [length_cons] at room
    have first : trace.queue.used < capacity.slots := by omega
    have grown := used_tryPush first value
    have pushed := tryPush_room first value
    have rest := ih (trace.step (.tryPush value)) (by
      change (trace.queue.tryPush value).2.used + values.length ≤ capacity.slots
      omega)
    simp only [map_cons, run, foldl_cons] at rest ⊢
    obtain ⟨accepted, popped, read, write, used⟩ := rest
    refine ⟨?_, popped, ?_, ?_, ?_⟩
    · rw [accepted, step, pushed]
      exact append_assoc _ _ _
    · rw [read, step, pushed]
    · rw [write, step, pushed, length_cons, Nat.add_comm values.length, ofNat_add,
        ← UInt32.add_assoc]
      rfl
    rw [used]
    change (trace.queue.tryPush value).2.used + values.length = _
    rw [grown, length_cons]
    omega

/-- A push into the slot of the front value replaces it. -/
theorem tryFront_of_shared {queue : SpscQueue α capacity} (room : queue.used < capacity.slots)
    (shared : slot capacity queue.read = slot capacity queue.write)
    (value : α) : (queue.tryPush value).2.tryFront = some value ∧
      (queue.tryPush value).2.popFront.1 = true := by
  have grown := used_tryPush room value
  have filled : (queue.tryPush value).2.read ≠ (queue.tryPush value).2.write := by
    intro same
    have empty := (used_eq_zero_iff _).mpr same
    omega
  rw [tryFront, popFront, if_neg filled, if_neg filled]
  refine ⟨?_, rfl⟩
  rw [tryPush_room room]
  simp only [shared, Fin.getElem_fin, Vector.getElem_set_self]

/-- One value at a time up to the last counter, then as many as the wrap shifts. -/
def overtakingRun (capacity : QueueCapacity) (first other : α) : List (QueueStep α) :=
  (replicate (2 ^ 32 - 1) (round other)).flatten ++
    ((first :: replicate (2 ^ 32 % capacity.slots - 1) other).map .tryPush ++
      [.tryPush other, .tryFront, .popFront])

/-- A slot is used again before the capacity is reached. -/
theorem slot_overtaken (capacity : QueueCapacity) (shift : 0 < 2 ^ 32 % capacity.slots) :
    slot capacity (ofNat (2 ^ 32 - 1)) =
      slot capacity
        (ofNat (2 ^ 32 - 1) + ofNat (2 ^ 32 % capacity.slots)) := by
  have bounded := Nat.mod_lt (2 ^ 32) capacity.positive
  have whole := Nat.div_add_mod (2 ^ 32) capacity.slots
  have small := capacity.bounded
  apply Fin.ext
  simp only [slot, toNat_add_ofNat]
  generalize 2 ^ 32 % capacity.slots = rest at *
  have last : (ofNat (2 ^ 32 - 1)).toNat = 2 ^ 32 - 1 := by decide
  have wrapped : (2 ^ 32 - 1 + rest) % 2 ^ 32 = rest - 1 := by omega
  have front : 2 ^ 32 - 1 = rest - 1 + capacity.slots * (2 ^ 32 / capacity.slots) := by omega
  simp only [last, wrapped]
  rw [front, Nat.add_mul_mod_self_left]

theorem not_fifo_overtakingRun [Inhabited α] {first other : α} (distinct : first ≠ other)
    (uneven : ¬ capacity.slots ∣ 2 ^ 32) :
    ¬ ((initial capacity).run (overtakingRun capacity first other)).Fifo := by
  have shift : 0 < 2 ^ 32 % capacity.slots := Nat.pos_of_ne_zero fun zero =>
    uneven (Nat.dvd_of_mod_eq_zero zero)
  have bounded := Nat.mod_lt (2 ^ 32) capacity.positive
  have cycled : ((initial capacity).run
      (replicate (2 ^ 32 - 1) (round other)).flatten).Cycled other (0 + (2 ^ 32 - 1)) :=
    Cycled.rounds ⟨rfl, rfl, rfl, rfl⟩ _
  rw [Nat.zero_add] at cycled
  have shared := slot_overtaken capacity shift
  rw [overtakingRun, run_append, run_append]
  generalize (initial capacity).run (replicate (2 ^ 32 - 1) (round other)).flatten =
    drained at cycled
  generalize 2 ^ 32 % capacity.slots = shift_ at *
  have length : (first :: replicate (shift_ - 1) other).length = shift_ := by
    rw [length_cons, length_replicate]
    omega
  obtain ⟨accepted, popped, read, write, used⟩ := drained.run_pushes
    (first :: replicate (shift_ - 1) other) (by rw [cycled.used_eq, length]; omega)
  generalize drained.run ((first :: replicate (shift_ - 1) other).map .tryPush) =
    filled at accepted popped read write used
  rw [cycled.used_eq, length, Nat.zero_add] at used
  have room : filled.queue.used < capacity.slots := used ▸ bounded
  obtain ⟨front, drops⟩ := tryFront_of_shared room (by
    rw [read, write, cycled.read_eq, cycled.write_eq, length]
    exact shared) other
  have pushed := tryPush_room room other
  intro fifo
  have order := fifo.order
  simp only [run, foldl_cons, foldl_nil, step, front, drops, if_true] at order
  rw [pushed, if_pos rfl, accepted, popped, cycled.accepted_eq, cycled.popped_eq,
    append_assoc, prefix_append_right_inj] at order
  obtain ⟨rest, same⟩ := order
  exact distinct (cons.inj same).1.symm

end QueueTrace

/-- For the capacities that divide the range of the counters, and for no others,
every run is first in, first out. With any capacity a run is, as long as its
pushes write slots that are not in use. -/
theorem queue_fifo {α : Type} [Inhabited α] [Nontrivial α] (capacity : QueueCapacity) :
    ((∀ steps : List (QueueStep α), ((QueueTrace.initial capacity).run steps).Fifo) ↔
      capacity.slots ∣ 2 ^ 32) ∧
    ∀ steps : List (QueueStep α), (QueueTrace.initial capacity).Clears steps →
      ((QueueTrace.initial capacity).run steps).Fifo := by
  have fifo (steps : List (QueueStep α)) (clears : (QueueTrace.initial capacity).Clears steps) :
      ((QueueTrace.initial capacity).run steps).Fifo :=
    ((QueueTrace.Pending.initial capacity).run clears).fifo
  refine ⟨⟨fun always => ?_, fun divides steps => fifo steps ?_⟩, fifo⟩
  · obtain ⟨first, other, distinct⟩ := exists_pair_ne α
    by_contra uneven
    exact QueueTrace.not_fifo_overtakingRun distinct uneven (always _)
  · intro earlier step later _
    exact QueueTrace.clear_of_dvd divides step

/-- Thirty-two slots divide the range of the counters. -/
theorem queue_fifo_thirtyTwo : Nontrivial UInt32 ∧ ∀ steps : List (QueueStep UInt32),
      ((QueueTrace.initial ⟨32, by decide, by decide⟩).run steps).Fifo :=
  ⟨⟨0, 1, by decide⟩, (@queue_fifo UInt32 _ ⟨0, 1, by decide⟩ ⟨32, by decide, by decide⟩).1.mpr
    (by decide)⟩

/-- Thirty-one slots do not: the value before the wrap comes out as a later one. -/
theorem queue_overtakes_thirtyOne : ¬ ((QueueTrace.initial ⟨31, by decide, by decide⟩).run
      (QueueTrace.overtakingRun ⟨31, by decide, by decide⟩ (1 : UInt32) 0)).Fifo :=
  QueueTrace.not_fifo_overtakingRun (by decide) (by decide)

end SensorSystem.Node
