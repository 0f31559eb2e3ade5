import SensorSystem.Node.Timing.DrdyTimestamps

/-! While the binding is valid the ring holds the times of the edges behind the consumed ones, all
of them and in their order. A batch that began with a valid binding takes fewer entries than the
ring has, so an edge that is lost in its course is lost behind all that the batch takes. -/

namespace SensorSystem.Node

open List Option SpscQueue TimingBinding

/-- The times that lie in the ring, oldest first. -/
def TimingBinding.pending (binding : TimingBinding) : List UInt64 :=
  binding.drdyTimestamps.entries.contents.map (·.deviceTimeUs)

def TimingBinding.used (binding : TimingBinding) : Nat :=
  binding.drdyTimestamps.entries.used

theorem TimingBinding.length_pending (binding : TimingBinding) :
    binding.pending.length = binding.used := by
  rw [pending, length_map, length_contents, used]

theorem capacity_dvd : drdyTimestampCapacity.slots ∣ 2 ^ 32 := by decide

theorem invalid_or (flags : UInt16) :
    (timingQualityInvalid ||| flags) &&& timingQualityInvalid ≠ 0 := by
  intro clear
  have bits := congrArg (fun value => (UInt16.toBitVec value)[2]) clear
  simp [timingQualityInvalid] at bits

/-- A time with the flags of an invalid binding is not valid. -/
theorem not_valid_of_flags {time : SampleDeviceTime}
    (marked : time.qualityFlags &&& timingQualityInvalid ≠ 0) : time.valid = false := by
  rw [SampleDeviceTime.valid]
  simp [marked]

/-- The ring of a valid binding holds the edges behind the ones taken. -/
structure Bound (binding : TimingBinding) (edges : List UInt64) (taken : Nat) (lost : Bool) :
    Prop where
  room : binding.used ≤ drdyTimestampCapacity.slots
  marked : binding.timingBindingValid = false →
    binding.timingInvalidFlags &&& timingQualityInvalid ≠ 0
  exact : binding.timingBindingValid = true →
    lost = false ∧ taken ≤ edges.length ∧ binding.pending = edges.drop taken

/-- The next entries of the ring are the edges behind the ones taken. -/
def Ahead (binding : TimingBinding) (edges : List UInt64) (taken count : Nat) : Prop :=
  count ≤ binding.pending.length ∧ binding.pending.take count = (edges.drop taken).take count

/-- A valid time is the one of its sample's edge, and none is valid behind a loss. -/
def TimesExact (times : List SampleDeviceTime) (first : Nat) (edges : List UInt64)
    (segment : UInt32) (spoiled : Bool) : Prop :=
  ∀ index time, times[index]? = some time → time.valid = true →
    edges[first + index]? = some time.deviceTimeUs ∧ time.timingSegmentId = segment ∧
      spoiled = false

/-- The entries that a call has taken so far. -/
def Consuming.taken (call : Consuming) : Nat :=
  match call.point with
  | .exchangeLatch | .overflowed | .readValid => 0
  | .popLoad | .popEntry | .popStore _ | .missing => call.index
  | .checkSequence _ | .excess _ | .record _ => call.index + 1
  | .revise | .finish => call.batch.toRead

/-- What holds of a call wherever it stands. -/
structure Steady (binding : TimingBinding) (edges : List UInt64) (first taken : Nat)
    (lost spoiled : Bool) (call : Consuming) : Prop where
  small : call.batch.toRead < drdyTimestampCapacity.slots
  exact : TimesExact call.times first edges binding.timingSegmentId spoiled
  lost : spoiled = true → lost = true
  trusted : call.batchValid = true → spoiled = false ∧ (binding.timingBindingValid = true ∨
    Ahead binding edges (first + taken) (call.batch.toRead - taken))

/-- A call that no longer trusts its batch has made the binding invalid. -/
def Doubted (binding : TimingBinding) (call : Consuming) : Prop :=
  call.batchValid = false → binding.timingBindingValid = false

/-- The entry in hand is the one of the sample's edge. -/
def HeldFor (edges : List UInt64) (first : Nat) (call : Consuming) (timestamp : DrdyTimestamp) :
    Prop :=
  call.batchValid = true → edges[first + call.index]? = some timestamp.deviceTimeUs

def AtPoint (binding : TimingBinding) (edges : List UInt64) (first : Nat) (call : Consuming) :
    Prop :=
  match call.point with
  | .exchangeLatch | .overflowed | .readValid => call.batchValid = false
  | .popLoad => call.index < call.batch.toRead ∧ Doubted binding call
  | .popEntry => call.index < call.batch.toRead ∧ Doubted binding call ∧
      binding.drdyTimestamps.entries.contents ≠ []
  | .popStore timestamp => call.index < call.batch.toRead ∧ Doubted binding call ∧
      binding.drdyTimestamps.entries.contents.head? = some timestamp ∧
      HeldFor edges first call timestamp
  | .missing => call.index < call.batch.toRead ∧ call.batchValid = false
  | .checkSequence timestamp => call.index < call.batch.toRead ∧ Doubted binding call ∧
      HeldFor edges first call timestamp
  | .excess _ => call.index < call.batch.toRead ∧ call.batchValid = false
  | .record timestamp => call.index < call.batch.toRead ∧ Doubted binding call ∧
      HeldFor edges first call timestamp
  | .revise => call.batchValid = false ∧ Doubted binding call
  | .finish => True

structure Running (binding : TimingBinding) (edges : List UInt64) (first : Nat)
    (lost spoiled : Bool) (call : Consuming) : Prop where
  enabled : binding.sampleTimestampsEnabled = true
  bound : Bound binding edges (first + call.taken) lost
  steady : Steady binding edges first call.taken lost spoiled call
  point : AtPoint binding edges first call

/-- An edge is appended, or the binding becomes invalid. -/
theorem gpioIrqHandler_cases {binding : TimingBinding}
    (enabled : binding.sampleTimestampsEnabled = true)
    (room : binding.used ≤ drdyTimestampCapacity.slots) (deviceTimeUs : UInt64) :
    ∃ ring valid flags, binding.gpioIrqHandler deviceTimeUs =
        { binding with
          drdyTimestamps := ring
          nextDrdyEventSeq := binding.nextDrdyEventSeq + 1
          timingBindingValid := valid
          timingInvalidFlags := flags } ∧
      ((binding.dropsEdge = false ∧ ring.entries.used ≤ drdyTimestampCapacity.slots ∧
          ring.entries.contents = binding.drdyTimestamps.entries.contents ++
            [⟨binding.nextDrdyEventSeq, deviceTimeUs⟩] ∧
          valid = binding.timingBindingValid ∧ flags = binding.timingInvalidFlags) ∨
        (binding.dropsEdge = true ∧ binding.used = drdyTimestampCapacity.slots ∧
          ring.entries = binding.drdyTimestamps.entries ∧ valid = false ∧
          flags &&& timingQualityInvalid ≠ 0)) := by
  rw [TimingBinding.used] at room
  rw [gpioIrqHandler, if_pos enabled, DrdyTimestampRing.pushFromIsr,
    dropsEdge, TimingBinding.used]
  by_cases full : drdyTimestampCapacity.slots ≤ binding.drdyTimestamps.entries.used
  · rw [tryPush_full full]
    refine ⟨_, _, _, rfl, .inr ⟨by simp [enabled, full], by omega, rfl, rfl, ?_⟩⟩
    exact invalid_or _
  have free := slotFree_of_dvd capacity_dvd (Nat.lt_of_not_le full)
  obtain ⟨pushed, contents⟩ := contents_tryPush (Nat.lt_of_not_le full) free
    ⟨binding.nextDrdyEventSeq, deviceTimeUs⟩
  have grown := used_tryPush (Nat.lt_of_not_le full)
    (⟨binding.nextDrdyEventSeq, deviceTimeUs⟩ : DrdyTimestamp)
  simp only [pushed, if_true]
  refine ⟨_, _, _, rfl, .inl ⟨by simp [full], ?_, contents, rfl, rfl⟩⟩
  exact (Nat.le_of_eq grown).trans (Nat.lt_of_not_le full)

section Edge
variable {binding : TimingBinding} {edges : List UInt64} {first taken count : Nat}
  {lost spoiled : Bool} {call : Consuming} {deviceTimeUs : UInt64}

theorem TimesExact.edge {times : List SampleDeviceTime} {segment : UInt32}
    (exact : TimesExact times first edges segment spoiled) :
    TimesExact times first (edges ++ [deviceTimeUs]) segment spoiled := by
  intro index time found valid
  obtain ⟨edge, rest⟩ := exact index time found valid
  rw [getElem?_append_left (List.getElem?_eq_some_iff.mp edge).1]
  exact ⟨edge, rest⟩

theorem HeldFor.edge {timestamp : DrdyTimestamp} (held : HeldFor edges first call timestamp) :
    HeldFor (edges ++ [deviceTimeUs]) first call timestamp := by
  intro trusted
  have edge := held trusted
  rw [getElem?_append_left (List.getElem?_eq_some_iff.mp edge).1, edge]

/-- What lies ahead stays so when ring and edges grow. -/
theorem Ahead.edge {later : TimingBinding} (ahead : Ahead binding edges taken count)
    (grown : binding.pending <+: later.pending) :
    Ahead later (edges ++ [deviceTimeUs]) taken count := by
  obtain ⟨enough, same⟩ := ahead
  refine ⟨enough.trans grown.length_le, ?_⟩
  have inside : count ≤ (edges.drop taken).length := by
    have length := congrArg List.length same
    rw [length_take, length_take, Nat.min_eq_left enough] at length
    omega
  obtain ⟨rest, joined⟩ := grown
  rw [← joined, take_append_of_le_length enough, same]
  by_cases within : taken ≤ edges.length
  · rw [drop_append_of_le_length within, take_append_of_le_length inside]
  rw [drop_eq_nil_of_le (by omega), length_nil] at inside
  obtain rfl : count = 0 := by omega
  rfl

theorem Bound.edge (bound : Bound binding edges taken lost)
    (enabled : binding.sampleTimestampsEnabled = true) :
    Bound (binding.gpioIrqHandler deviceTimeUs) (edges ++ [deviceTimeUs]) taken
      (lost || binding.dropsEdge) := by
  obtain ⟨ring, valid, flags, handled, ⟨kept, room, contents, rfl, rfl⟩ |
    ⟨_, _, same, rfl, marked⟩⟩ := gpioIrqHandler_cases enabled bound.room deviceTimeUs
  · rw [handled, kept, Bool.or_false]
    refine ⟨room, bound.marked, fun valid => ?_⟩
    obtain ⟨none, within, pending⟩ := bound.exact valid
    refine ⟨none, within.trans (by simp), ?_⟩
    rw [TimingBinding.pending, contents, map_append, drop_append_of_le_length within,
      ← pending]
    rfl
  rw [handled]
  refine ⟨?_, fun _ => marked, nofun⟩
  rw [TimingBinding.used, same]
  exact bound.room

theorem pending_gpioIrqHandler (deviceTimeUs : UInt64)
    (enabled : binding.sampleTimestampsEnabled = true)
    (room : binding.used ≤ drdyTimestampCapacity.slots) :
    binding.drdyTimestamps.entries.contents <+:
      (binding.gpioIrqHandler deviceTimeUs).drdyTimestamps.entries.contents := by
  obtain ⟨ring, valid, flags, handled, ⟨_, _, contents, _⟩ | ⟨_, _, same, _⟩⟩ :=
    gpioIrqHandler_cases enabled room deviceTimeUs
  · rw [handled, contents]
    exact prefix_append ..
  · rw [handled, same]

/-- The binding stays valid, or a full ring is ahead of the call. -/
theorem valid_gpioIrqHandler (enabled : binding.sampleTimestampsEnabled = true)
    (bound : Bound binding edges taken lost) (valid : binding.timingBindingValid = true)
    (small : count ≤ drdyTimestampCapacity.slots) :
    (binding.gpioIrqHandler deviceTimeUs).timingBindingValid = true ∨
      Ahead binding edges taken count := by
  obtain ⟨ring, _, flags, handled, ⟨_, _, _, rfl, _⟩ | ⟨_, full, _⟩⟩ :=
    gpioIrqHandler_cases enabled bound.room deviceTimeUs
  · left
    rw [handled]
    exact valid
  right
  obtain ⟨_, _, pending⟩ := bound.exact valid
  rw [Ahead, binding.length_pending, full, pending]
  exact ⟨small, rfl⟩

theorem Steady.edge (steady : Steady binding edges first taken lost spoiled call)
    (enabled : binding.sampleTimestampsEnabled = true)
    (bound : Bound binding edges (first + taken) lost) :
    Steady (binding.gpioIrqHandler deviceTimeUs) (edges ++ [deviceTimeUs]) first taken
      (lost || binding.dropsEdge) spoiled call := by
  have grown : binding.pending <+: (binding.gpioIrqHandler deviceTimeUs).pending :=
    (pending_gpioIrqHandler _ enabled bound.room).map _
  refine ⟨steady.small, ?_, fun spoils => by rw [steady.lost spoils, Bool.true_or], ?_⟩
  · have segment : (binding.gpioIrqHandler deviceTimeUs).timingSegmentId =
        binding.timingSegmentId := by
      obtain ⟨ring, valid, flags, handled, _⟩ :=
        gpioIrqHandler_cases enabled bound.room deviceTimeUs
      rw [handled]
    rw [segment]
    exact steady.exact.edge
  intro trusts
  obtain ⟨clean, valid | ahead⟩ := steady.trusted trusts
  · have small := steady.small
    have few : call.batch.toRead - taken ≤ drdyTimestampCapacity.slots := by omega
    exact ⟨clean, (valid_gpioIrqHandler enabled bound valid few).imp id
      fun ahead => ahead.edge grown⟩
  · exact ⟨clean, .inr (ahead.edge grown)⟩

theorem Doubted.edge (doubted : Doubted binding call)
    (enabled : binding.sampleTimestampsEnabled = true)
    (room : binding.used ≤ drdyTimestampCapacity.slots) :
    Doubted (binding.gpioIrqHandler deviceTimeUs) call := by
  intro doubts
  obtain ⟨ring, valid, flags, handled, ⟨_, _, _, same, _⟩ | ⟨_, _, _, same, _⟩⟩ :=
    gpioIrqHandler_cases enabled room deviceTimeUs
  · rw [handled, same]
    exact doubted doubts
  · rw [handled, same]

theorem Running.edge (running : Running binding edges first lost spoiled call) :
    Running (binding.gpioIrqHandler deviceTimeUs) (edges ++ [deviceTimeUs]) first
      (lost || binding.dropsEdge) spoiled call := by
  have enabled := running.enabled
  have bound := running.bound
  have grown := pending_gpioIrqHandler deviceTimeUs enabled bound.room
  refine ⟨?_, bound.edge enabled, running.steady.edge enabled bound, ?_⟩
  · obtain ⟨ring, valid, flags, handled, _⟩ := gpioIrqHandler_cases enabled bound.room deviceTimeUs
    rw [handled]
    exact enabled
  have point := running.point
  rw [AtPoint] at point ⊢
  cases at_ : call.point with
  | exchangeLatch | overflowed | readValid =>
    rw [at_] at point
    exact point
  | finish => trivial
  | popLoad =>
    rw [at_] at point
    exact ⟨point.1, point.2.edge enabled bound.room⟩
  | popEntry =>
    rw [at_] at point
    obtain ⟨inside, doubted, some⟩ := point
    refine ⟨inside, doubted.edge enabled bound.room, fun empty => some ?_⟩
    rw [empty] at grown
    exact prefix_nil.mp grown
  | popStore timestamp =>
    rw [at_] at point
    obtain ⟨inside, doubted, front, held⟩ := point
    refine ⟨inside, doubted.edge enabled bound.room, ?_, held.edge⟩
    obtain ⟨rest, joined⟩ := grown
    rw [← joined, head?_append, front]
    rfl
  | checkSequence timestamp | record timestamp =>
    rw [at_] at point
    exact ⟨point.1, point.2.1.edge enabled bound.room, point.2.2.edge⟩
  | missing | excess _ =>
    rw [at_] at point
    exact point
  | revise =>
    rw [at_] at point
    exact ⟨point.1, point.2.edge enabled bound.room⟩

end Edge

section Steps
variable {binding : TimingBinding} {edges : List UInt64} {first taken index : Nat}
  {lost spoiled : Bool} {call : Consuming}

variable (enabled : binding.sampleTimestampsEnabled = true) (qualityFlags : UInt16)

include enabled

theorem invalidateTimingBinding_eq : binding.invalidateTimingBinding qualityFlags =
      { binding with
        timingBindingValid := false
        timingInvalidFlags :=
          binding.timingInvalidFlags ||| timingQualityInvalid ||| qualityFlags } :=
  if_pos enabled

theorem enabled_invalidated :
    (binding.invalidateTimingBinding qualityFlags).sampleTimestampsEnabled = true := by
  rw [invalidateTimingBinding_eq enabled]
  exact enabled

theorem segment_invalidated : (binding.invalidateTimingBinding qualityFlags).timingSegmentId =
      binding.timingSegmentId := by
  rw [invalidateTimingBinding_eq enabled]

omit enabled

/-- Once invalid, nothing is said of what the ring holds. -/
theorem Bound.invalidated (bound : Bound binding edges taken lost)
    (enabled : binding.sampleTimestampsEnabled = true) (qualityFlags : UInt16)
    (later : Nat) (lostLater : Bool) :
    Bound (binding.invalidateTimingBinding qualityFlags) edges later lostLater := by
  rw [invalidateTimingBinding_eq enabled]
  refine ⟨bound.room, fun _ => ?_, nofun⟩
  rw [UInt16.or_comm binding.timingInvalidFlags, UInt16.or_assoc]
  exact invalid_or _

theorem Ahead.of_le {count fewer : Nat} (ahead : Ahead binding edges taken count)
    (le : fewer ≤ count) : Ahead binding edges taken fewer := by
  refine ⟨le.trans ahead.1, ?_⟩
  have same := congrArg (take fewer) ahead.2
  rwa [take_take, take_take, Nat.min_eq_left le] at same

variable {timestamp : DrdyTimestamp}

/-- The first entry of the ring is the time of the next edge. -/
theorem head_of_trusted (bound : Bound binding edges taken lost)
    (front : binding.drdyTimestamps.entries.contents.head? = some timestamp)
    (trusted : binding.timingBindingValid = true ∨ Ahead binding edges taken 1) :
    edges[taken]? = some timestamp.deviceTimeUs := by
  have pending : binding.pending.head? = some timestamp.deviceTimeUs := by
    rw [TimingBinding.pending, head?_map, front]
    rfl
  have ahead : (edges.drop taken).head? = binding.pending.head? := by
    obtain valid | ⟨_, same⟩ := trusted
    · rw [(bound.exact valid).2.2]
    · rw [take_one, take_one] at same
      cases there : (edges.drop taken).head? <;> cases here : binding.pending.head? <;>
        simp_all
  rw [pending, head?_drop] at ahead
  exact ahead

variable {rest : List DrdyTimestamp}

/-- Taking the first entry moves on to the next edge. -/
theorem Bound.pop (bound : Bound binding edges taken lost)
    (front : binding.drdyTimestamps.entries.contents = timestamp :: rest) :
    Bound { binding with drdyTimestamps := { binding.drdyTimestamps with
      entries := binding.drdyTimestamps.entries.popFront.2 } } edges (taken + 1) lost := by
  obtain ⟨_, _, popped⟩ := popFront_cons front
  refine ⟨?_, bound.marked, fun valid => ?_⟩
  · have room := bound.room
    rw [TimingBinding.used, ← length_contents] at room ⊢
    rw [front, length_cons] at room
    rw [popped]
    omega
  obtain ⟨none, within, pending⟩ := bound.exact valid
  rw [TimingBinding.pending, front, map_cons] at pending
  have inside : taken < edges.length := by
    have length := congrArg List.length pending
    rw [length_cons, length_drop] at length
    omega
  refine ⟨none, inside, ?_⟩
  rw [TimingBinding.pending, popped, ← tail_drop, ← pending, tail_cons]

theorem Ahead.pop {count : Nat} (ahead : Ahead binding edges taken count)
    (front : binding.drdyTimestamps.entries.contents = timestamp :: rest) :
    Ahead { binding with drdyTimestamps := { binding.drdyTimestamps with
      entries := binding.drdyTimestamps.entries.popFront.2 } } edges (taken + 1) (count - 1) := by
  obtain ⟨_, _, popped⟩ := popFront_cons front
  obtain ⟨enough, same⟩ := ahead
  have pending : binding.pending = timestamp.deviceTimeUs :: rest.map (·.deviceTimeUs) := by
    rw [TimingBinding.pending, front, map_cons]
  have behind : TimingBinding.pending { binding with drdyTimestamps := { binding.drdyTimestamps with
      entries := binding.drdyTimestamps.entries.popFront.2 } } = rest.map (·.deviceTimeUs) := by
    rw [TimingBinding.pending, popped]
  rw [pending, length_cons] at enough
  rw [Ahead, behind]
  refine ⟨by omega, ?_⟩
  cases count with
  | zero => rfl
  | succ count =>
    rw [pending, take_succ_cons] at same
    rw [← tail_drop]
    cases there : edges.drop taken with
    | nil =>
      rw [there] at same
      exact nomatch same
    | cons edge later =>
      rw [there, take_succ_cons] at same
      exact (List.cons.inj same).2

theorem Running.loop (enabled : binding.sampleTimestampsEnabled = true)
    (bound : Bound binding edges (first + index) lost)
    (steady : Steady binding edges first index lost spoiled call)
      (within : index ≤ call.batch.toRead)
    (doubted : Doubted binding call) :
    Running binding edges first lost spoiled (call.loop index) := by
  rw [Consuming.loop]
  split
  · rename_i inside
    exact ⟨enabled, bound, ⟨steady.small, steady.exact, steady.lost, steady.trusted⟩,
      inside, doubted⟩
  obtain rfl : index = call.batch.toRead := by omega
  split
  · exact ⟨enabled, bound, ⟨steady.small, steady.exact, steady.lost, steady.trusted⟩, trivial⟩
  rename_i untrusted
  rw [Bool.not_eq_true] at untrusted
  exact ⟨enabled, bound, ⟨steady.small, steady.exact, steady.lost, steady.trusted⟩,
    untrusted, doubted⟩

variable (exact : TimesExact call.times first edges binding.timingSegmentId spoiled)

include exact

/-- A sample is written with its edge's time, or an invalid one. -/
theorem TimesExact.recorded (held : HeldFor edges first call timestamp)
    (clean : call.batchValid = true → spoiled = false)
    (marked : call.batchValid = false → binding.timingInvalidFlags &&& timingQualityInvalid ≠ 0) :
    TimesExact (call.recorded binding timestamp) first edges binding.timingSegmentId spoiled := by
  rw [Consuming.recorded]
  split
  · intro place time found valid
    rw [getElem?_set] at found
    split at found
    · rename_i same
      split at found
      · obtain rfl := some.inj found
        cases trusts : call.batchValid with
        | true => exact ⟨same ▸ held trusts, rfl, clean trusts⟩
        | false =>
          have invalid : (⟨timestamp.deviceTimeUs, binding.timingSegmentId,
              binding.timingInvalidFlags, .drdyTimeUs64⟩ : SampleDeviceTime).valid = false :=
            not_valid_of_flags (marked trusts)
          simp only [trusts, Bool.false_eq_true, if_false] at valid
          exact nomatch invalid.symm.trans valid
      · exact nomatch found
    · exact exact place time found valid
  · exact exact

theorem TimesExact.revised (marked : binding.timingInvalidFlags &&& timingQualityInvalid ≠ 0) :
    TimesExact (call.revised binding) first edges binding.timingSegmentId spoiled := by
  intro place time found valid
  rw [Consuming.revised, getElem?_modify] at found
  obtain ⟨before, there, changed⟩ := map_eq_some_iff.mp found
  split at changed
  · subst changed
    exact nomatch (not_valid_of_flags marked).symm.trans valid
  · subst changed
    exact exact place _ there valid

omit exact

theorem enabled_advance (call : Consuming) (binding : TimingBinding) :
    (call.advance binding).1.sampleTimestampsEnabled = binding.sampleTimestampsEnabled := by
  have invalidated (flags : UInt16) :
    (binding.invalidateTimingBinding flags).sampleTimestampsEnabled
      = binding.sampleTimestampsEnabled := by
    rw [invalidateTimingBinding]
    split <;> rfl
  rw [Consuming.advance]
  split <;> first | rfl | exact invalidated _ | (split <;> rfl)

theorem Running.advance (running : Running binding edges first lost spoiled call)
    (going : call.point ≠ .finish) :
    Running (call.advance binding).1 edges first (lost || call.point = .missing) spoiled
      (call.advance binding).2 := by
  obtain ⟨enabled, bound, steady, point⟩ := running
  rw [AtPoint] at point
  rw [Consuming.taken] at bound steady
  have marked : call.batchValid = false → Doubted binding call →
      binding.timingInvalidFlags &&& timingQualityInvalid ≠ 0 :=
    fun doubts doubted => bound.marked (doubted doubts)
  cases at_ : call.point with
  | exchangeLatch =>
    rw [at_] at bound steady point
    simp only [Consuming.advance, at_, reduceCtorEq, decide_false, Bool.or_false]
    split
    · exact ⟨enabled, ⟨bound.room, bound.marked, bound.exact⟩,
        ⟨steady.small, steady.exact, steady.lost, steady.trusted⟩, point⟩
    exact ⟨enabled, ⟨bound.room, bound.marked, bound.exact⟩,
      ⟨steady.small, steady.exact, steady.lost, steady.trusted⟩, point⟩
  | overflowed =>
    rw [at_] at bound steady point
    simp only [Consuming.advance, at_, reduceCtorEq, decide_false, Bool.or_false]
    refine ⟨enabled_invalidated enabled _, bound.invalidated enabled _ _ _,
      ⟨steady.small, ?_, steady.lost, fun trusts => nomatch point.symm.trans trusts⟩, point⟩
    rw [segment_invalidated enabled]
    exact steady.exact
  | readValid =>
    rw [at_] at bound steady
    simp only [Consuming.advance, at_, reduceCtorEq, decide_false, Bool.or_false]
    refine Running.loop enabled bound ⟨steady.small, steady.exact, steady.lost, fun valid => ?_⟩
      (Nat.zero_le _) id
    have none := (bound.exact valid).1
    refine ⟨?_, .inl valid⟩
    rw [← Bool.not_eq_true]
    exact fun spoils => nomatch none.symm.trans (steady.lost spoils)
  | popLoad =>
    rw [at_] at bound steady point
    obtain ⟨inside, doubted⟩ := point
    simp only [Consuming.advance, at_, reduceCtorEq, decide_false, Bool.or_false]
    split
    · exact ⟨enabled, bound, ⟨steady.small, steady.exact, steady.lost, nofun⟩, inside, rfl⟩
    rename_i apart
    refine ⟨enabled, bound, ⟨steady.small, steady.exact, steady.lost, steady.trusted⟩, inside,
      doubted, fun empty => apart ?_⟩
    rw [← used_eq_zero_iff, ← length_contents, empty]
    rfl
  | popEntry =>
    rw [at_] at bound steady point
    obtain ⟨inside, doubted, some⟩ := point
    obtain ⟨timestamp, rest, front⟩ := exists_cons_of_ne_nil some
    obtain ⟨shown, _, _⟩ := popFront_cons front
    simp only [Consuming.advance, at_, reduceCtorEq, decide_false, Bool.or_false]
    rw [shown, getD_some]
    refine ⟨enabled, bound, ⟨steady.small, steady.exact, steady.lost, steady.trusted⟩, inside,
      doubted, by rw [front, head?_cons], fun trusts => ?_⟩
    refine head_of_trusted bound (by rw [front, head?_cons]) ?_
    have next : 1 ≤ call.batch.toRead - call.index := by omega
    exact (steady.trusted trusts).2.imp id fun ahead => ahead.of_le next
  | popStore timestamp =>
    rw [at_] at bound steady point
    obtain ⟨inside, doubted, front, held⟩ := point
    obtain ⟨rest, shown⟩ := head?_eq_some_iff.mp front
    simp only [Consuming.advance, at_, reduceCtorEq, decide_false, Bool.or_false]
    refine ⟨enabled, bound.pop shown, ⟨steady.small, steady.exact, steady.lost, fun trusts => ?_⟩,
      inside, doubted, held⟩
    obtain ⟨clean, trusted⟩ := steady.trusted trusts
    refine ⟨clean, trusted.imp id fun ahead => ?_⟩
    have later := ahead.pop shown
    rwa [Nat.sub_sub] at later
  | missing =>
    rw [at_] at bound steady point
    obtain ⟨inside, untrusted⟩ := point
    simp only [Consuming.advance, at_, decide_true, Bool.or_true]
    refine Running.loop (enabled_invalidated enabled _) (bound.invalidated enabled _ _ _)
      ⟨steady.small, ?_, fun _ => rfl, fun trusts => nomatch untrusted.symm.trans trusts⟩ inside
      fun _ => ?_
    · rw [segment_invalidated enabled]
      exact steady.exact
    · rw [invalidateTimingBinding_eq enabled]
  | checkSequence timestamp =>
    rw [at_] at bound steady point
    obtain ⟨inside, doubted, held⟩ := point
    simp only [Consuming.advance, at_, reduceCtorEq, decide_false, Bool.or_false]
    split
    · exact ⟨enabled, bound, ⟨steady.small, steady.exact, steady.lost, nofun⟩, inside, rfl⟩
    exact ⟨enabled, bound, ⟨steady.small, steady.exact, steady.lost, steady.trusted⟩, inside,
      doubted, held⟩
  | excess timestamp =>
    rw [at_] at bound steady point
    obtain ⟨inside, untrusted⟩ := point
    simp only [Consuming.advance, at_, reduceCtorEq, decide_false, Bool.or_false]
    refine ⟨enabled_invalidated enabled _, bound.invalidated enabled _ _ _,
      ⟨steady.small, ?_, steady.lost, fun trusts => nomatch untrusted.symm.trans trusts⟩, inside,
      fun _ => ?_, fun trusts => nomatch untrusted.symm.trans trusts⟩
    · rw [segment_invalidated enabled]
      exact steady.exact
    · rw [invalidateTimingBinding_eq enabled]
  | record timestamp =>
    rw [at_] at bound steady point
    obtain ⟨inside, doubted, held⟩ := point
    simp only [Consuming.advance, at_, reduceCtorEq, decide_false, Bool.or_false]
    refine Running.loop enabled ⟨bound.room, bound.marked, bound.exact⟩
      ⟨steady.small, ?_, steady.lost, steady.trusted⟩ inside doubted
    exact steady.exact.recorded held (fun trusts => (steady.trusted trusts).1)
      fun doubts => marked doubts doubted
  | revise =>
    rw [at_] at bound steady point
    obtain ⟨untrusted, doubted⟩ := point
    simp only [Consuming.advance, at_, reduceCtorEq, decide_false, Bool.or_false]
    split
    · exact ⟨enabled, bound, ⟨steady.small, steady.exact.revised (marked untrusted doubted),
        steady.lost, fun trusts => nomatch untrusted.symm.trans trusts⟩, untrusted, doubted⟩
    · exact ⟨enabled, bound, ⟨steady.small, steady.exact, steady.lost, steady.trusted⟩, trivial⟩
  | finish => exact absurd at_ going

end Steps

/-- Every valid time is the one of its sample's edge; none is valid once an edge or a timestamp was
lost. -/
structure ReturnedBatch.Exact (batch : ReturnedBatch) : Prop where
  time : ∀ index time, batch.times[index]? = some time → time.valid = true →
    batch.edges[batch.first + index]? = some time.deviceTimeUs ∧
      time.timingSegmentId = batch.timingSegmentId
  sticky : batch.spoiled = true → ∀ time ∈ batch.times, time.valid = false

namespace TimingRun

def lost (run : TimingRun) : Bool := run.dropped || run.missed

/-- A driver without timestamps gives out no valid time. -/
def Silent (call : Consuming) : Prop :=
  call.point = .finish ∧ ∀ time ∈ call.times, time.valid = false

structure Sound (run : TimingRun) : Prop where
  returned : ∀ batch ∈ run.returned, batch.Exact
  idle : run.binding.sampleTimestampsEnabled = true → run.call = none →
    Bound run.binding run.edges run.consumed run.lost
  running : run.binding.sampleTimestampsEnabled = true → ∀ call, run.call = some call →
    Running run.binding run.edges run.consumed run.lost run.spoiled call
  silent : run.binding.sampleTimestampsEnabled = false → ∀ call, run.call = some call → Silent call

theorem sound_initial (enabled : Bool) : (initial enabled).Sound where
  returned := nofun
  idle := by
    have marked : timingQualityInvalid &&& timingQualityInvalid ≠ 0 := by decide
    refine fun _ _ => ⟨?_, fun _ => marked, nofun⟩
    rw [TimingBinding.used, ← length_contents]
    exact (congrArg length contents_initial).trans_le (Nat.zero_le _)
  running := nofun
  silent := nofun

variable {times : List SampleDeviceTime}

theorem exact_of_timesExact {first : Nat} {edges : List UInt64} {segment : UInt32}
    {spoiled : Bool} (exact : TimesExact times first edges segment spoiled) (count : Nat) :
    ReturnedBatch.Exact ⟨times.take count, first, edges, segment, spoiled⟩ where
  time := by
    intro index time found valid
    rw [getElem?_take] at found
    split at found
    · obtain ⟨edge, same, _⟩ := exact index time found valid
      exact ⟨edge, same⟩
    · exact nomatch found
  sticky := by
    intro spoils time member
    obtain ⟨index, found⟩ := mem_iff_getElem?.mp (mem_of_mem_take member)
    rw [← Bool.not_eq_true]
    intro valid
    exact nomatch (exact index time found valid).2.2.symm.trans spoils

/-- Times that are not valid say nothing. -/
theorem timesExact_of_invalid (invalid : ∀ time ∈ times, time.valid = false) (first : Nat)
    (edges : List UInt64) (segment : UInt32) (spoiled : Bool) :
    TimesExact times first edges segment spoiled :=
  fun _ time found valid =>
    nomatch (invalid time (mem_of_getElem? found)).symm.trans valid

theorem enabled_gpioIrqHandler (binding : TimingBinding) (deviceTimeUs : UInt64) :
    (binding.gpioIrqHandler deviceTimeUs).sampleTimestampsEnabled =
      binding.sampleTimestampsEnabled := by
  rw [gpioIrqHandler]
  split
  · simp only
    split <;> rfl
  · rfl

variable {run : TimingRun}

theorem Sound.edge (sound : run.Sound) (deviceTimeUs : UInt64) : (run.edge deviceTimeUs).Sound := by
  have lost : (run.edge deviceTimeUs).lost = (run.lost || run.binding.dropsEdge) := by
    rw [TimingRun.edge, TimingRun.lost, TimingRun.lost, Bool.or_right_comm]
  refine ⟨sound.returned, fun enabled none => ?_, fun enabled call under => ?_,
    fun disabled call under => ?_⟩
  · rw [lost]
    rw [TimingRun.edge, enabled_gpioIrqHandler] at enabled
    exact (sound.idle enabled none).edge enabled
  · rw [lost]
    rw [TimingRun.edge, enabled_gpioIrqHandler] at enabled
    exact (sound.running enabled call under).edge
  · rw [TimingRun.edge, enabled_gpioIrqHandler] at disabled
    exact sound.silent disabled call under

theorem Sound.reset (sound : run.Sound) (none : run.call = none) (qualityFlags : UInt16)
    (valid : Bool) : (run.reset qualityFlags valid).Sound := by
  have empty : (run.reset qualityFlags valid).binding.used = 0 := by
    rw [TimingBinding.used, used_eq_zero_iff]
    rfl
  refine ⟨sound.returned, fun enabled _ =>
    ⟨?_, fun invalid => ?_, fun _ => ⟨rfl, Nat.zero_le _, ?_⟩⟩,
    fun _ call under => (nomatch none.symm.trans under),
    fun _ call under => (nomatch none.symm.trans under)⟩
  · exact empty.trans_le (Nat.zero_le _)
  · obtain rfl : valid = false := invalid
    exact invalid_or _
  · rw [← length_pending, length_eq_zero_iff] at empty
    exact empty

theorem Sound.invalidated (sound : run.Sound) (none : run.call = none) (qualityFlags : UInt16) :
    ({ run with binding := run.binding.invalidateTimingBinding qualityFlags } :
      TimingRun).Sound := by
  refine ⟨sound.returned, fun enabled _ => ?_, fun _ call under => (nomatch none.symm.trans under),
    fun _ call under => (nomatch none.symm.trans under)⟩
  by_cases before : run.binding.sampleTimestampsEnabled = true
  · exact (sound.idle before none).invalidated before ..
  rw [invalidateTimingBinding, if_neg before] at enabled
  exact absurd enabled before

theorem batch_small {call : FifoRead} {batch : FifoBatch} (plan : call.plan = .batch batch) :
    batch.toRead < drdyTimestampCapacity.slots := by
  rw [FifoRead.plan] at plan
  split at plan
  · exact nomatch plan
  rename_i entries _
  simp only at plan
  split at plan
  · exact nomatch plan
  split at plan
  · exact nomatch plan
  obtain rfl := FifoPlan.batch.inj plan
  -- The count of entries is a byte, so there are at most 85 samples.
  have few := entries.toNat_lt
  rw [drdyTimestampCapacity]
  simp only
  omega

variable (sound : run.Sound)

include sound

theorem Sound.readFifoBatch (none : run.call = none) (call : FifoRead) :
    (run.readFifoBatch call).Sound := by
  rw [TimingRun.readFifoBatch]
  split
  · exact sound
  · exact sound.invalidated none _
  rename_i batch plan
  have invalid : ∀ time ∈ if call.timed then replicate call.maxSamples {} else [],
      SampleDeviceTime.valid time = false := by
    intro time member
    split at member
    · rw [eq_of_mem_replicate member]
      rfl
    · exact nomatch member
  refine ⟨sound.returned, nofun, fun enabled current under => ?_, fun disabled current under => ?_⟩
  · obtain rfl := some.inj under
    rw [if_pos enabled]
    refine ⟨enabled, sound.idle enabled none, ⟨batch_small plan, ?_, id, nofun⟩, rfl⟩
    exact timesExact_of_invalid invalid _ _ _ _
  obtain rfl := some.inj under
  refine ⟨if_neg ?_, invalid⟩
  rw [disabled]
  exact Bool.false_ne_true

theorem Sound.finish {call : Consuming} (under : run.call = some call)
    (ends : call.point = .finish) : (run.finish call).Sound := by
  have exact : TimesExact call.times run.consumed run.edges run.binding.timingSegmentId
      run.spoiled := by
    cases enabled : run.binding.sampleTimestampsEnabled with
    | true => exact (sound.running enabled call under).steady.exact
    | false => exact timesExact_of_invalid (sound.silent enabled call under).2 _ _ _ _
  refine ⟨?_, fun enabled _ => ?_, nofun, nofun⟩
  · intro batch member
    rw [TimingRun.finish, mem_append, mem_singleton] at member
    obtain earlier | rfl := member
    · exact sound.returned batch earlier
    · exact exact_of_timesExact exact _
  by_cases before : run.binding.sampleTimestampsEnabled = true
  · have bound := (sound.running before call under).bound
    rw [Consuming.taken, ends] at bound
    rw [TimingRun.finish]
    split
    · exact bound.invalidated before ..
    · exact bound
  · rw [TimingRun.finish] at enabled
    simp only [invalidateTimingBinding, if_neg before, ite_self] at enabled
    exact absurd enabled before

theorem Sound.step (step : TimingStep) : (run.step step).Sound := by
  cases step with
  | edge deviceTimeUs => exact sound.edge deviceTimeUs
  | reset qualityFlags valid =>
    rw [TimingRun.step]
    split
    · exact sound
    rename_i none
    exact sound.reset (not_isSome_iff_eq_none.mp none) ..
  | discontinuity qualityFlags =>
    rw [TimingRun.step]
    split
    · exact sound
    rename_i none
    exact sound.invalidated (not_isSome_iff_eq_none.mp none) _
  | readFifoBatch call =>
    rw [TimingRun.step]
    split
    · exact sound
    rename_i none
    exact sound.readFifoBatch (not_isSome_iff_eq_none.mp none) call
  | advance =>
    rw [TimingRun.step]
    cases under : run.call with
    | none => exact sound
    | some call =>
      simp only
      split
      · rename_i ends
        exact sound.finish under ends
      rename_i going
      have kept : (call.advance run.binding).1.sampleTimestampsEnabled =
          run.binding.sampleTimestampsEnabled := enabled_advance call run.binding
      refine ⟨sound.returned, nofun, fun enabled current next => ?_, fun disabled => ?_⟩
      · cases next
        have moved := (sound.running (kept ▸ enabled) call under).advance going
        rw [TimingRun.lost] at moved ⊢
        rw [← Bool.or_assoc]
        exact moved
      · exact absurd (sound.silent (kept ▸ disabled) call under).1 going

theorem Sound.runs (steps : List TimingStep) : (run.run steps).Sound := by
  induction steps generalizing run with
  | nil => exact sound
  | cons step steps ih => exact ih (sound.step step)

omit sound

end TimingRun

/-- Every batch that the driver has given out. -/
def TimingRun.BindsExactly (run : TimingRun) : Prop :=
  ∀ batch ∈ run.returned, batch.Exact

/-- Timestamp binding is exact, whatever edges, batches and resets a run is made of. -/
theorem timestamps_exact (enabled : Bool) (steps : List TimingStep) :
    ((TimingRun.initial enabled).run steps).BindsExactly :=
  ((TimingRun.sound_initial enabled).runs steps).returned

/-- Two samples of six entries, with an edge between two steps of the batch. -/
example : (((TimingRun.initial true).run
    ([.reset timingQualityRecovery true, .edge 100, .edge 350,
      .readFifoBatch ⟨32, true, some 6,
        some [0, 0, 1, 0, 0, 0, 0, 0, 0, 0, 0, 1, 0, 0, 0, 0, 0, 0]⟩] ++
      replicate 7 .advance ++ [.edge 600] ++ replicate 10 .advance)).returned.map
        fun batch => batch.times.map fun time => (time.valid, time.deviceTimeUs)) =
    [[(true, 100), (true, 350)]] := by
  decide +kernel

end SensorSystem.Node
