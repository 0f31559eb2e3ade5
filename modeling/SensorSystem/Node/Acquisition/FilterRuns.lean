import SensorSystem.Base.Ring
import SensorSystem.Node.Acquisition.DecimatingFilter
import Mathlib.Tactic.NormNum

/-! The outputs of the filter as a function of the inputs since its last reset: every second input
from the first full window on gives the rounded sum of the window, at the time of its centre. -/

namespace SensorSystem.Node.Acquisition

open DecimationFilterProfile List
open Node Base

abbrev FilterInput := AccelSample × Option SampleDeviceTime

/-- What the ring holds of an input. -/
def FilterInput.stored (input : FilterInput) : AccelSample × SampleDeviceTime :=
  (input.1, input.2.getD {})

/-- Each value of a window times the coefficient at its place. -/
def products (coefficients values : List Int) : List Int :=
  (values.zip coefficients).map fun (value, coefficient) => value * coefficient

def firSum (coefficients values : List Int) : Int := (products coefficients values).sum

/-- The closest multiple of the Q15 unit, a half away from zero. -/
def roundQ15 (sum : Int) : Int := sum.sign * ((sum.natAbs + 16384) / 32768 : Nat)

def DecimationFilterProfile.taps (profile : DecimationFilterProfile) : Nat :=
  profile.coefficients.length

/-- The output for a full window. -/
def DecimationFilterProfile.output (profile : DecimationFilterProfile)
    (window : List FilterInput) (timed : Bool) : AccelSample × SampleDeviceTime :=
  let axis (value : AccelSample → Int) :=
    roundQ15 (firSum profile.coefficients (window.map fun input => value input.1))
  ({ x := axis (·.x), y := axis (·.y), z := axis (·.z) },
    if timed then ((window.map FilterInput.stored).getD ((profile.taps - 1) / 2) ({}, {})).2
    else {})

/-- The output at the last of the inputs since a reset. -/
def DecimationFilterProfile.expected (profile : DecimationFilterProfile)
    (inputs : List FilterInput) (timed : Bool) : Option (AccelSample × SampleDeviceTime) :=
  if inputs.length % 2 = 0 ∧ profile.taps ≤ inputs.length then
    some (profile.output (inputs.drop (inputs.length - profile.taps)) timed)
  else none

/-- An input of 20 bits on every axis. -/
structure AccelSample.Narrow (sample : AccelSample) : Prop where
  x : sample.x.natAbs ≤ 2 ^ 19
  y : sample.y.natAbs ≤ 2 ^ 19
  z : sample.z.natAbs ≤ 2 ^ 19

def sampleAxes : List (AccelSample → Int) := [AccelSample.x, AccelSample.y, AccelSample.z]

theorem AccelSample.Narrow.axis {sample : AccelSample} (narrow : sample.Narrow) :
    ∀ axis ∈ sampleAxes, (axis sample).natAbs ≤ 2 ^ 19 := by
  rw [sampleAxes, forall_mem_cons, forall_mem_cons, forall_mem_singleton]
  exact ⟨narrow.x, narrow.y, narrow.z⟩

theorem DecimationFilterProfile.taps_odd (profile : DecimationFilterProfile) :
    profile.taps % 2 = 1 ∧ profile.taps ≤ maxTaps := by
  cases profile <;> decide

variable (coefficients : List Int)

/-- The sum of the absolute coefficients. -/
def gain : Nat := (coefficients.map Int.natAbs).sum

theorem natAbs_firSum_le {bound : Nat} {values : List Int}
    (small : ∀ value ∈ values, value.natAbs ≤ bound) (coefficients : List Int) :
    (firSum coefficients values).natAbs ≤ bound * gain coefficients := by
  induction values generalizing coefficients with
  | nil => exact Nat.zero_le _
  | cons value values ih =>
    cases coefficients with
    | nil => exact Nat.zero_le _
    | cons coefficient coefficients =>
      obtain ⟨here, later⟩ := forall_mem_cons.mp small
      have rest := ih later coefficients
      have first : (value * coefficient).natAbs ≤ bound * coefficient.natAbs := by
        rw [Int.natAbs_mul]
        exact Nat.mul_le_mul_right _ here
      calc (firSum (coefficient :: coefficients) (value :: values)).natAbs
          = (value * coefficient + firSum coefficients values).natAbs := rfl
        _ ≤ (value * coefficient).natAbs + (firSum coefficients values).natAbs :=
          Int.natAbs_add_le _ _
        _ ≤ bound * gain (coefficient :: coefficients) := by
          rw [gain, map_cons, sum_cons, Nat.mul_add]
          exact Nat.add_le_add first rest

theorem gain_take_le (count : Nat) : gain (coefficients.take count) ≤ gain coefficients := by
  conv_rhs => rw [← take_append_drop count coefficients]
  rw [gain, gain, map_append, sum_append]
  exact Nat.le_add_right _ _

theorem DecimationFilterProfile.gain_le (profile : DecimationFilterProfile) :
    gain profile.coefficients ≤ 54812 := by
  cases profile <;> decide

/-- The sum after some of the taps. -/
theorem firSum_take (coefficients values : List Int) (count : Nat) :
    firSum (coefficients.take count) (values.take count) =
      ((products coefficients values).take count).sum := by
  rw [firSum, products, products, ← map_take, zip_eq_zipWith, zip_eq_zipWith,
    take_zipWith]

/-- The rounding of the source is that of the specification. -/
theorem rounded_eq (sum : Int) :
    (if sum ≥ 0 then sum + q15Scale / 2 else sum - q15Scale / 2).tdiv q15Scale = roundQ15 sum := by
  have half : q15Scale / 2 = 16384 := rfl
  rw [half, roundQ15, q15Scale]
  rcases lt_trichotomy sum 0 with negative | rfl | positive
  · obtain ⟨size, rfl⟩ : ∃ size : Nat, sum = -(size : Int) := ⟨sum.natAbs, by omega⟩
    rw [if_neg (by omega), Int.natAbs_neg, Int.natAbs_natCast, Int.sign_eq_neg_one_of_neg negative,
      show -(size : Int) - 16384 = -((size + 16384 : Nat) : Int) by omega, Int.neg_tdiv,
      Int.neg_one_mul]
    rfl
  · rfl
  · obtain ⟨size, rfl⟩ : ∃ size : Nat, sum = (size : Int) := ⟨sum.natAbs, by omega⟩
    rw [if_pos (by omega), Int.natAbs_natCast, Int.sign_eq_one_of_pos positive, Int.one_mul]
    rfl

theorem natAbs_roundQ15_le {sum : Int} {bound : Nat} (small : sum.natAbs ≤ bound * 32768) :
    (roundQ15 sum).natAbs ≤ bound := by
  rw [roundQ15, Int.natAbs_mul, Int.natAbs_natCast]
  have sign : sum.sign.natAbs ≤ 1 := by
    rw [Int.natAbs_sign]
    split <;> decide
  calc sum.sign.natAbs * ((sum.natAbs + 16384) / 32768)
      ≤ 1 * ((sum.natAbs + 16384) / 32768) := Nat.mul_le_mul_right _ sign
    _ ≤ bound := by omega

namespace DecimatingFilterX2

def run (filter : DecimatingFilterX2) : List FilterInput →
    List (Option (AccelSample × SampleDeviceTime)) × DecimatingFilterX2
  | [] => ([], filter)
  | input :: inputs =>
    let (output, next) := filter.process input.1 input.2
    let (outputs, last) := next.run inputs
    (output :: outputs, last)

/-- The filter has taken in the inputs since its last reset. -/
structure Follows (filter : DecimatingFilterX2) (profile : DecimationFilterProfile)
    (inputs : List FilterInput) : Prop where
  profile : filter.profile = profile
  ring : Windowed maxTaps (inputs.map FilterInput.stored) filter.ring filter.writeIndex
  seen : filter.samplesSeen = min inputs.length maxTaps
  phase : filter.phase = inputs.length % 2

variable {filter : DecimatingFilterX2} {profile : DecimationFilterProfile}
  {inputs : List FilterInput}

theorem follows_setProfile (profile : DecimationFilterProfile) :
    (setProfile profile).Follows profile [] where
  profile := rfl
  ring := Windowed.initial _
  seen := rfl
  phase := rfl

/-- The input in the state, before an output is asked for. -/
def taken (filter : DecimatingFilterX2) (input : FilterInput) : DecimatingFilterX2 :=
  { filter with
    ring := filter.ring.set filter.writeIndex input.stored
    writeIndex := (filter.writeIndex + 1) % maxTaps
    samplesSeen := if filter.samplesSeen < maxTaps then filter.samplesSeen + 1
      else filter.samplesSeen
    phase := (filter.phase + 1) % decimationFactor }

theorem process_eq (filter : DecimatingFilterX2) (input : FilterInput) :
    filter.process input.1 input.2 =
      if (filter.taken input).phase ≠ 0 ∨
          (filter.taken input).samplesSeen < (filter.taken input).tapCount then
        (none, filter.taken input)
      else
        (some ({ x := (filter.taken input).filterAxis (·.x)
                 y := (filter.taken input).filterAxis (·.y)
                 z := (filter.taken input).filterAxis (·.z) },
            if input.2.isSome then (filter.taken input).centerTime else {}),
          filter.taken input) := rfl

theorem Follows.taken (follows : filter.Follows profile inputs) (input : FilterInput) :
    (filter.taken input).Follows profile (inputs ++ [input]) where
  profile := follows.profile
  ring := by
    rw [map_append, map_singleton]
    exact follows.ring.push (by decide) input.stored
  seen := by
    rw [length_append, length_singleton]
    change (if filter.samplesSeen < maxTaps then filter.samplesSeen + 1 else filter.samplesSeen) = _
    rw [follows.seen]
    split <;> omega
  phase := by
    rw [length_append, length_singleton]
    change (filter.phase + 1) % 2 = _
    rw [follows.phase, Nat.mod_add_mod]

theorem Follows.window_eq (follows : filter.Follows profile inputs)
    (full : profile.taps ≤ inputs.length) : filter.window =
      (inputs.drop (inputs.length - profile.taps)).map FilterInput.stored := by
  have same : filter.window =
      windowOf maxTaps filter.ring filter.writeIndex profile.taps ({}, {}) := by
    rw [← follows.profile]
    rfl
  rw [same, follows.ring.windowOf_eq profile.taps_odd.2 (by rwa [length_map]),
    length_map, map_drop]

variable {values : List Int}

/-- No sum of a window of narrow values is large. -/
theorem natAbs_firSum_narrow (profile : DecimationFilterProfile)
    (narrow : ∀ value ∈ values, value.natAbs ≤ 2 ^ 19) (count : Nat) :
    (firSum (profile.coefficients.take count) (values.take count)).natAbs ≤ 2 ^ 19 * 54812 :=
  calc (firSum (profile.coefficients.take count) (values.take count)).natAbs
      ≤ 2 ^ 19 * gain (profile.coefficients.take count) :=
        natAbs_firSum_le (fun value member => narrow value (mem_of_mem_take member)) _
    _ ≤ 2 ^ 19 * 54812 :=
        Nat.mul_le_mul_left _ (Nat.le_trans (gain_take_le _ _) profile.gain_le)

theorem natAbs_firSum_window (profile : DecimationFilterProfile)
    (narrow : ∀ value ∈ values, value.natAbs ≤ 2 ^ 19) :
    (firSum profile.coefficients values).natAbs ≤ 2 ^ 19 * 54812 :=
  Nat.le_trans (natAbs_firSum_le narrow _) (Nat.mul_le_mul_left _ profile.gain_le)

/-- An axis of a full window of narrow values. -/
theorem Follows.filterAxis_eq (follows : filter.Follows profile inputs)
    (full : profile.taps ≤ inputs.length) (axis : AccelSample → Int)
    (narrow : ∀ input ∈ inputs, (axis input.1).natAbs ≤ 2 ^ 19) :
    filter.filterAxis axis = roundQ15 (firSum profile.coefficients
      ((inputs.drop (inputs.length - profile.taps)).map fun input => axis input.1)) := by
  have window := follows.window_eq full
  generalize taken : inputs.drop (inputs.length - profile.taps) = last at window ⊢
  have small : ∀ value ∈ last.map fun input => axis input.1, value.natAbs ≤ 2 ^ 19 := by
    rw [← taken]
    rintro value member
    obtain ⟨input, inside, rfl⟩ := mem_map.mp member
    exact narrow input (mem_of_mem_drop inside)
  have rounded : filter.filterAxis axis = (roundQ15 ((filter.window.zip
      filter.profile.coefficients).map fun pair => axis pair.1.1 * pair.2).sum).bmod (2 ^ 32) := by
    rw [← rounded_eq]
    rfl
  have sum : ((filter.window.zip filter.profile.coefficients).map fun pair =>
      axis pair.1.1 * pair.2).sum =
        firSum profile.coefficients (last.map fun input => axis input.1) := by
    rw [window, follows.profile, firSum, products, zip_map_left, zip_map_left,
      map_map, map_map]
    rfl
  have bound := natAbs_roundQ15_le (Nat.le_trans (natAbs_firSum_window profile small)
    (show 2 ^ 19 * 54812 ≤ 2 ^ 20 * 32768 by norm_num))
  rw [rounded, sum]
  exact Int.bmod_eq_of_le (by omega) (by omega)

/-- One input. -/
theorem Follows.process (follows : filter.Follows profile inputs) (input : FilterInput)
    (narrow : ∀ value ∈ inputs ++ [input], value.1.Narrow) : (filter.process input.1 input.2).1 =
        profile.expected (inputs ++ [input]) input.2.isSome ∧
      (filter.process input.1 input.2).2.Follows profile (inputs ++ [input]) := by
  have after := follows.taken input
  have taps : (filter.taken input).tapCount = profile.taps := by
    rw [tapCount, after.profile]
    rfl
  have few := profile.taps_odd.2
  rw [process_eq, expected, after.phase, after.seen, taps]
  by_cases due : (inputs ++ [input]).length % 2 = 0 ∧ profile.taps ≤ (inputs ++ [input]).length
  · rw [if_pos due, if_neg (by omega)]
    refine ⟨congrArg some ?_, after⟩
    rw [after.filterAxis_eq due.2 (·.x) fun value member => (narrow value member).x,
      after.filterAxis_eq due.2 (·.y) fun value member => (narrow value member).y,
      after.filterAxis_eq due.2 (·.z) fun value member => (narrow value member).z,
      centerTime, after.window_eq due.2, taps]
    rfl
  · rw [if_neg due, if_pos (by omega)]
    exact ⟨rfl, after⟩

theorem run_cons (filter : DecimatingFilterX2) (input : FilterInput) (inputs : List FilterInput) :
    filter.run (input :: inputs) = ((filter.process input.1 input.2).1 ::
        ((filter.process input.1 input.2).2.run inputs).1,
      ((filter.process input.1 input.2).2.run inputs).2) := rfl

theorem run_append (filter : DecimatingFilterX2) (front later : List FilterInput) :
    filter.run (front ++ later) = ((filter.run front).1 ++ ((filter.run front).2.run later).1,
      ((filter.run front).2.run later).2) := by
  induction front generalizing filter with
  | nil => rfl
  | cons input front ih =>
    rw [cons_append, run_cons, ih]
    rfl

/-- The state after a run that began at a reset. -/
theorem follows_run (profile : DecimationFilterProfile)
    (narrow : ∀ input ∈ inputs, input.1.Narrow) :
    ((setProfile profile).run inputs).2.Follows profile inputs := by
  induction inputs using reverseRecOn with
  | nil => exact follows_setProfile profile
  | append_singleton inputs input ih =>
    rw [run_append]
    exact ((ih fun value member => narrow value (mem_append_left _ member)).process input
      narrow).2

/-- The outputs of a filter that has been reset to a profile. -/
def outputs (profile : DecimationFilterProfile) (inputs : List FilterInput) :
    List (Option (AccelSample × SampleDeviceTime)) := ((setProfile profile).run inputs).1

variable (profile)

/-- One more input gives one more output and changes none. -/
theorem outputs_concat {input : FilterInput}
    (narrow : ∀ value ∈ inputs ++ [input], value.1.Narrow) : outputs profile (inputs ++ [input]) =
      outputs profile inputs ++ [profile.expected (inputs ++ [input]) input.2.isSome] := by
  have follows := follows_run profile fun value member =>
    narrow value (mem_append_left _ member)
  rw [outputs, outputs, run_append, ← (follows.process input narrow).1]
  rfl

theorem length_run (filter : DecimatingFilterX2) (inputs : List FilterInput) :
    (filter.run inputs).1.length = inputs.length := by
  induction inputs generalizing filter with
  | nil => rfl
  | cons input inputs ih => exact congrArg (· + 1) (ih _)

/-- The output at one of the inputs. -/
theorem outputs_getElem?
    (narrow : ∀ input ∈ inputs, input.1.Narrow) {place : Nat} (inside : place < inputs.length) :
    (outputs profile inputs)[place]? =
      some (profile.expected (inputs.take (place + 1)) (inputs.get ⟨place, inside⟩).2.isSome) := by
  induction inputs using reverseRecOn with
  | nil => cases inside
  | append_singleton inputs input ih =>
    have length : (outputs profile inputs).length = inputs.length := length_run _ inputs
    have bound := inside
    rw [length_append, length_singleton] at bound
    rw [outputs_concat profile narrow, get_eq_getElem]
    rcases Nat.eq_or_lt_of_le (Nat.le_of_lt_succ bound) with rfl | within
    · rw [getElem?_append_right (Nat.le_of_eq length), length, Nat.sub_self,
        getElem_concat_length rfl, take_of_length_le (by
          rw [length_append, length_singleton])]
      rfl
    · rw [getElem?_append_left (length ▸ within), getElem_append_left within,
        take_append_of_le_length within]
      exact ih (fun value member => narrow value (mem_append_left _ member)) within

/-- The position of an output among the inputs. -/
theorem filterMap_outputs
    (narrow : ∀ input ∈ inputs, input.1.Narrow) :
    ((outputs profile inputs).filterMap id).length = (inputs.length + 1 - profile.taps) / 2 ∧
      ∀ index < (inputs.length + 1 - profile.taps) / 2,
        ((outputs profile inputs).filterMap id)[index]? =
          (outputs profile inputs)[profile.taps + 2 * index]?.join := by
  have odd := profile.taps_odd.1
  induction inputs using reverseRecOn with
  | nil =>
    have none : (([] : List FilterInput).length + 1 - profile.taps) / 2 = 0 := by
      rw [length_nil]
      omega
    rw [none]
    exact ⟨rfl, fun index inside => absurd inside (Nat.not_lt_zero _)⟩
  | append_singleton inputs input ih =>
    obtain ⟨count, found⟩ := ih fun value member => narrow value (mem_append_left _ member)
    have length : (outputs profile inputs).length = inputs.length := length_run _ inputs
    rw [outputs_concat profile narrow, filterMap_append, length_append,
      length_append, length_singleton, count]
    rw [expected, length_append, length_singleton]
    split
    · rename_i due
      refine ⟨?_, fun index inside => ?_⟩
      · change _ + 1 = _
        omega
      rcases Nat.lt_or_ge index ((inputs.length + 1 - profile.taps) / 2) with older | newest
      · rw [getElem?_append_left (by omega), found index older,
          getElem?_append_left (by omega)]
      have last : index = (inputs.length + 1 - profile.taps) / 2 := by omega
      have place : profile.taps + 2 * index = (outputs profile inputs).length := by omega
      rw [getElem?_append_right (by omega), place, getElem?_concat_length, count,
        last, Nat.sub_self]
      rfl
    · rename_i idle
      refine ⟨?_, fun index inside => ?_⟩
      · change _ + 0 = _
        omega
      · have older : index < (inputs.length + 1 - profile.taps) / 2 := by omega
        rw [getElem?_append_left (by omega), found index older,
          getElem?_append_left (by omega)]

theorem filterMap_outputs_getElem?
    (narrow : ∀ input ∈ inputs, input.1.Narrow) {index : Nat}
    (inside : index < (inputs.length + 1 - profile.taps) / 2) :
    ∃ present : profile.taps + 2 * index < inputs.length,
      ((outputs profile inputs).filterMap id)[index]? =
        some (profile.output ((inputs.drop (2 * index + 1)).take profile.taps)
          (inputs.get ⟨_, present⟩).2.isSome) := by
  have odd := profile.taps_odd.1
  have present : profile.taps + 2 * index < inputs.length := by omega
  refine ⟨present, ?_⟩
  have length : (inputs.take (profile.taps + 2 * index + 1)).length =
      profile.taps + 2 * index + 1 := length_take_of_le present
  rw [(filterMap_outputs profile narrow).2 index inside, outputs_getElem? profile narrow present,
    expected, length, if_pos ⟨by omega, by omega⟩]
  have window : (inputs.take (profile.taps + 2 * index + 1)).drop
      (profile.taps + 2 * index + 1 - profile.taps) =
        (inputs.drop (2 * index + 1)).take profile.taps := by
    rw [drop_take]
    congr 1
    · omega
    · congr 1
      omega
  rw [window]
  rfl

/-- The time of a window is that of the input in its middle. -/
theorem filterMap_outputs_time
    (narrow : ∀ input ∈ inputs, input.1.Narrow) (timed : ∀ input ∈ inputs, input.2.isSome = true)
    {index : Nat} (inside : index < (inputs.length + 1 - profile.taps) / 2) :
    (((outputs profile inputs).filterMap id).map (·.2))[index]? =
      (inputs.map (·.stored.2))[2 * index + 1 + (profile.taps - 1) / 2]? := by
  have odd := profile.taps_odd.1
  obtain ⟨present, found⟩ := filterMap_outputs_getElem? profile narrow inside
  have middle : 2 * index + 1 + (profile.taps - 1) / 2 < inputs.length := by omega
  rw [getElem?_map, found, Option.map_some, output]
  rw [if_pos (timed _ (get_mem _ _)), getElem?_map, getD_eq_getElem?_getD,
    getElem?_map, getElem?_take_of_lt (by omega), getElem?_drop,
    getElem?_eq_getElem middle]
  rfl

theorem filterMap_outputs_ordered
    (narrow : ∀ input ∈ inputs, input.1.Narrow) (timed : ∀ input ∈ inputs, input.2.isSome = true)
    (ordered : (inputs.map (·.stored.2)).Pairwise fun earlier later =>
      earlier.deviceTimeUs ≤ later.deviceTimeUs) :
    (((outputs profile inputs).filterMap id).map (·.2)).Pairwise fun earlier later =>
      earlier.deviceTimeUs ≤ later.deviceTimeUs := by
  have count : (((outputs profile inputs).filterMap id).map (·.2)).length =
      (inputs.length + 1 - profile.taps) / 2 :=
    length_map _ |>.trans (filterMap_outputs profile narrow).1
  rw [pairwise_iff_getElem] at ordered ⊢
  intro earlier later front back before
  rw [count] at front back
  have first := filterMap_outputs_time profile narrow timed front
  have second := filterMap_outputs_time profile narrow timed back
  have far : 2 * later + 1 + (profile.taps - 1) / 2 < (inputs.map (·.stored.2)).length := by
    have odd := profile.taps_odd.1
    rw [length_map]
    omega
  have near : 2 * earlier + 1 + (profile.taps - 1) / 2 < (inputs.map (·.stored.2)).length := by
    omega
  rw [getElem?_eq_getElem (count ▸ front), getElem?_eq_getElem near] at first
  rw [getElem?_eq_getElem (count ▸ back), getElem?_eq_getElem far] at second
  rw [Option.some.inj first, Option.some.inj second]
  exact ordered _ _ near far (by omega)

/-- The partial sums of a window and its rounding fit 64 bits. -/
def SumsFit (profile : DecimationFilterProfile) (values : List Int) : Prop :=
  ∀ count, ((products profile.coefficients values).take count).sum.natAbs + 16384 < 2 ^ 63

theorem sumsFit_of_narrow
    (narrow : ∀ value ∈ values, value.natAbs ≤ 2 ^ 19) : SumsFit profile values := by
  intro count
  rw [← firSum_take]
  have small := natAbs_firSum_narrow profile narrow count
  omega

/-- The limits of an axis of a record. -/
def InRecordLimits (value : Int) : Prop := -0x00800000 ≤ value ∧ value ≤ 0x007fffff

theorem inRecordLimits_of_narrow
    (narrow : ∀ value ∈ values, value.natAbs ≤ 2 ^ 19) :
    InRecordLimits (roundQ15 (firSum profile.coefficients values)) := by
  have small := natAbs_roundQ15_le (Nat.le_trans (natAbs_firSum_window profile narrow)
    (show 2 ^ 19 * 54812 ≤ 2 ^ 20 * 32768 by norm_num))
  constructor <;> omega

theorem profile_run (filter : DecimatingFilterX2) (inputs : List FilterInput) :
    (filter.run inputs).2.profile = filter.profile := by
  induction inputs generalizing filter with
  | nil => rfl
  | cons input inputs ih =>
    rw [run_cons]
    refine (ih _).trans ?_
    rw [process_eq]
    split <;> rfl

/-- The filter from a reset on: an output at every second input once the window is full, each the
rounded sum of the last inputs at the time of the one in their middle; nothing leaves its integers
or the limits of a record, and the times of the outputs do not fall when those of the inputs do
not. What was taken in before a reset does not matter. -/
theorem decimating_filter_spec (inputs : List FilterInput)
    (narrow : ∀ input ∈ inputs, input.1.Narrow) :
    (∀ place (inside : place < inputs.length), (outputs profile inputs)[place]? =
      some (profile.expected (inputs.take (place + 1)) (inputs.get ⟨place, inside⟩).2.isSome)) ∧
    ((outputs profile inputs).filterMap id).length = (inputs.length + 1 - profile.taps) / 2 ∧
    (∀ index < (inputs.length + 1 - profile.taps) / 2,
      ∃ present : profile.taps + 2 * index < inputs.length,
        ((outputs profile inputs).filterMap id)[index]? =
          some (profile.output ((inputs.drop (2 * index + 1)).take profile.taps)
            (inputs.get ⟨_, present⟩).2.isSome)) ∧
    (∀ window : List FilterInput, window <:+: inputs → ∀ axis ∈ sampleAxes,
      SumsFit profile (window.map fun input => axis input.1)) ∧
    (∀ output ∈ (outputs profile inputs).filterMap id, ∀ axis ∈ sampleAxes,
      InRecordLimits (axis output.1)) ∧
    ((∀ input ∈ inputs, input.2.isSome = true) →
      ((inputs.map (·.stored.2)).Pairwise fun earlier later =>
        earlier.deviceTimeUs ≤ later.deviceTimeUs) →
      ((((outputs profile inputs).filterMap id).map (·.2)).Pairwise fun earlier later =>
        earlier.deviceTimeUs ≤ later.deviceTimeUs)) ∧
    ∀ (filter : DecimatingFilterX2) (earlier : List FilterInput), filter.profile = profile →
      ((filter.run earlier).2.reset.run inputs).1 = outputs profile inputs := by
  refine ⟨fun place inside => outputs_getElem? profile narrow inside,
    (filterMap_outputs profile narrow).1,
    fun index inside => filterMap_outputs_getElem? profile narrow inside, ?_, ?_,
    filterMap_outputs_ordered profile narrow, ?_⟩
  · intro window part axis member
    refine sumsFit_of_narrow profile fun value inside => ?_
    obtain ⟨input, found, rfl⟩ := List.mem_map.mp inside
    exact (narrow input (part.subset found)).axis axis member
  · intro output inside axis member
    obtain ⟨index, found⟩ := List.mem_iff_getElem?.mp inside
    have bound := (List.getElem?_eq_some_iff.mp found).1
    rw [(filterMap_outputs profile narrow).1] at bound
    obtain ⟨present, shown⟩ := filterMap_outputs_getElem? profile narrow bound
    rw [shown] at found
    cases found
    have small : ∀ value ∈ ((inputs.drop (2 * index + 1)).take profile.taps).map
        (fun input => axis input.1), value.natAbs ≤ 2 ^ 19 := by
      intro value inside
      obtain ⟨input, found, rfl⟩ := List.mem_map.mp inside
      have source := List.mem_of_mem_drop (List.mem_of_mem_take found)
      exact (narrow input source).axis axis member
    have limits := inRecordLimits_of_narrow profile small
    simp only [sampleAxes, List.mem_cons, List.not_mem_nil, or_false] at member
    rcases member with rfl | rfl | rfl <;> exact limits
  · intro filter earlier same
    rw [reset, profile_run, same]
    rfl

/-- Sixteen inputs fill the window of the light profile; the ninth is its centre. -/
def sixteenInputs : List FilterInput := (range 16).map fun index : Nat =>
  ({ x := Int.ofNat index, y := -Int.ofNat index },
    some { deviceTimeUs := UInt64.ofNat (100 * index) })

theorem decimating_filter_spec_light : ((outputs .light sixteenInputs).filterMap id).length = 1 ∧
      (outputs .light sixteenInputs)[15]? =
        some (some ({ x := 8, y := -8, z := 0 }, { deviceTimeUs := 800 })) := by
  have narrow : ∀ input ∈ sixteenInputs, input.1.Narrow := by
    intro input member
    obtain ⟨index, inside, rfl⟩ := List.mem_map.mp member
    have few := List.mem_range.mp inside
    constructor <;> dsimp only [Int.ofNat_eq_natCast] <;> omega
  obtain ⟨output, count, -⟩ := decimating_filter_spec .light sixteenInputs narrow
  exact ⟨count, (output 15 (by decide)).trans (by decide)⟩

end DecimatingFilterX2
end SensorSystem.Node.Acquisition
