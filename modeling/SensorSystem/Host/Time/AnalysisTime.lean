import Mathlib
import SensorSystem.Host.Time.ClockCoverage
import SensorSystem.Host.Time.TimeFiles

/-! `analysis_time.rs`: the host time of a device time from the observations of a time log, along
the line through the two that are around it or nearest to it. -/

namespace SensorSystem.Host

open ClockAnchor ClockModel ClockObservation List
open Base

/-- The errors that the interpolation can give. -/
inductive AnalysisTimeError where
  | invalidTimeAnchors
  | arithmeticOverflow
deriving DecidableEq

structure TimeAnchors where
  first : ClockObservation
  second : ClockObservation

/-- `partition_point` of observations whose node midpoints increase. -/
def passedObservations (observations : List ClockObservation) (deviceTimeUs : UInt64) : Nat :=
  observations.findIdx fun observation => ¬ observation.nodeMidpointUs ≤ deviceTimeUs

def timeAnchors (observations : List ClockObservation) (several : 2 ≤ observations.length)
    (deviceTimeUs : UInt64) : TimeAnchors :=
  let upper := passedObservations observations deviceTimeUs
  have inside : upper ≤ observations.length := findIdx_le_length
  if before : upper = 0 then ⟨observations[0], observations[1]⟩
  else if behind : upper = observations.length then
    ⟨observations[observations.length - 2], observations[observations.length - 1]⟩
  else ⟨observations[upper - 1], observations[upper]⟩

/-- How far a device time lies outside the anchors. -/
def TimeAnchors.outsideUs (anchors : TimeAnchors) (deviceTimeUs : UInt64) : UInt64 :=
  if deviceTimeUs < anchors.first.nodeMidpointUs then
    anchors.first.nodeMidpointUs - deviceTimeUs
  else if deviceTimeUs < anchors.second.nodeMidpointUs then 0
  else deviceTimeUs - anchors.second.nodeMidpointUs

/-- The host time and its uncertainty. -/
def TimeAnchors.interpolate (anchors : TimeAnchors) (deviceTimeUs : UInt64) :
    Except AnalysisTimeError (UInt64 × UInt64) :=
  let nodeFirst := anchors.first.nodeMidpointUs
  let nodeSecond := anchors.second.nodeMidpointUs
  let hostFirst := anchors.first.hostMidpointUs
  let hostSecond := anchors.second.hostMidpointUs
  if nodeSecond ≤ nodeFirst ∨ hostSecond ≤ hostFirst then .error .invalidTimeAnchors
  else
    let nodeDelta : Int := (nodeSecond - nodeFirst).toNat
    let hostDelta : Int := (hostSecond - hostFirst).toNat
    let targetDelta : Int := deviceTimeUs.toNat - nodeFirst.toNat
    if ¬ fitsI128 (targetDelta * hostDelta) then .error .arithmeticOverflow
    else
      let hostTime := hostFirst.toNat + (targetDelta * hostDelta).tdiv nodeDelta
      if ¬ fitsI128 hostTime then .error .arithmeticOverflow
      else if hostTime < 0 ∨ hostTime ≥ 2 ^ 64 then .error .arithmeticOverflow
      else
        match checkedAdd (max anchors.first.uncertaintyUs anchors.second.uncertaintyUs)
            (divCeilMicros (anchors.outsideUs deviceTimeUs) 10000) with
        | none => .error .arithmeticOverflow
        | some uncertainty => .ok (UInt64.ofNat hostTime.toNat, uncertainty)

def interpolateHostTime (observations : List ClockObservation) (deviceTimeUs : UInt64) :
    Except AnalysisTimeError (Option (UInt64 × UInt64)) :=
  if several : 2 ≤ observations.length then
    ((timeAnchors observations several deviceTimeUs).interpolate deviceTimeUs).map some
  else .ok none

/-- The midpoints of both clocks increase. -/
abbrev ClockObservation.Before (earlier later : ClockObservation) : Prop :=
  Rising (of earlier) (of later)

variable {bootEpoch : BootEpoch}

theorem before_of_validate {previous : Option ClockObservation} {observation : ClockObservation}
    (valid : validateObservation bootEpoch previous observation = .ok ()) :
    observation.Ordered ∧ ∀ last ∈ previous, last.Ordered → last.Before observation := by
  unfold validateObservation at valid
  split at valid
  · cases valid
  split at valid
  · cases valid
  rename_i same accepted
  obtain rfl : same = observation := (new_eq_ok.mp accepted).1
  have ordered : same.Ordered := (new_eq_ok.mp accepted).2
  refine ⟨ordered, fun last found sound => ?_⟩
  cases found
  dsimp only at valid
  split at valid
  · cases valid
  rename_i grows
  simp only [not_or, UInt64.not_le, UInt64.lt_iff_toNat_lt] at grows
  obtain ⟨hostSend, nodeReceive, nodeSend, hostReceive⟩ := grows
  refine ⟨UInt64.lt_iff_toNat_lt.mpr ?_, UInt64.lt_iff_toNat_lt.mpr ?_⟩
  · change last.nodeMidpointUs.toNat < same.nodeMidpointUs.toNat
    rw [sound.toNat_nodeMidpointUs, ordered.toNat_nodeMidpointUs]
    omega
  · change last.hostMidpointUs.toNat < same.hostMidpointUs.toNat
    rw [sound.toNat_hostMidpointUs, ordered.toNat_hostMidpointUs]
    omega

theorem ClockObservation.Before.trans {first second third : ClockObservation}
    (early : first.Before second) (late : second.Before third) : first.Before third :=
  ⟨UInt64.lt_trans early.node late.node, UInt64.lt_trans early.host late.host⟩

/-- The midpoints of the observations that a log accepts increase. -/
theorem pairwise_of_recoverFrom {observations : List ClockObservation}
    {before recovery : TimeWalRecovery}
    (recovers : recoverFrom bootEpoch before observations = .ok recovery)
    (sound : ∀ last ∈ before.lastObservation, last.Ordered) :
    (∀ last ∈ before.lastObservation, ∀ observation ∈ observations, last.Before observation) ∧
      observations.Pairwise Before := by
  induction observations generalizing before with
  | nil => exact ⟨fun _ _ _ => nofun, .nil⟩
  | cons observation rest ih =>
    obtain ⟨valid, recovers⟩ := check_eq_ok.mp recovers
    obtain ⟨ordered, increases⟩ := before_of_validate valid
    obtain ⟨next, sorted⟩ := ih recovers (by rintro last ⟨⟩; exact ordered)
    have later := next observation rfl
    refine ⟨fun last found => forall_mem_cons.mpr ?_, .cons later sorted⟩
    have first := increases last found (sound last found)
    exact ⟨first, fun other member => first.trans (later other member)⟩

section Selection

variable {observations : List ClockObservation}

theorem increasing (sorted : observations.Pairwise Before) {early late : Nat}
    (order : early < late) (inside : late < observations.length) :
    observations[early].Before observations[late] :=
  pairwise_iff_getElem.mp sorted _ _ _ inside order

/-- The device time lies between the two anchors, or beyond the outermost one. -/
structure Neighbours (observations : List ClockObservation) (deviceTimeUs : UInt64)
    (anchors : TimeAnchors) (index : Nat) : Prop where
  inside : index + 1 < observations.length
  first : anchors.first = observations[index]
  second : anchors.second = observations[index + 1]
  passed : index = 0 ∨ observations[index].nodeMidpointUs ≤ deviceTimeUs
  ahead : index + 2 = observations.length ∨
    deviceTimeUs < observations[index + 1].nodeMidpointUs

theorem timeAnchors_neighbours (several : 2 ≤ observations.length)
    (sorted : observations.Pairwise Before) (deviceTimeUs : UInt64) :
    ∃ index, Neighbours observations deviceTimeUs
      (timeAnchors observations several deviceTimeUs) index := by
  have passed : ∀ index (inside : index < observations.length),
      index < passedObservations observations deviceTimeUs →
        observations[index].nodeMidpointUs ≤ deviceTimeUs := by
    intro index inside early
    simpa using not_of_lt_findIdx early
  have ahead : ∀ inside : passedObservations observations deviceTimeUs < observations.length,
      deviceTimeUs < observations[passedObservations observations deviceTimeUs].nodeMidpointUs := by
    intro inside
    have found := findIdx_getElem (w := inside)
    exact UInt64.not_le.mp (of_decide_eq_true found)
  unfold timeAnchors
  dsimp only
  split
  · rename_i none
    refine ⟨0, by omega, rfl, rfl, .inl rfl, ?_⟩
    rcases Nat.lt_or_ge 2 observations.length with more | two
    · have first := ahead (by omega)
      simp only [none] at first
      exact .inr (UInt64.lt_trans first (increasing sorted (Nat.lt_succ_self 0) _).node)
    · exact .inl (by omega)
  split
  · rename_i all
    exact ⟨observations.length - 2, by omega, rfl, getElem_congr_idx (by omega),
      .inr (passed _ _ (by omega)), .inl (by omega)⟩
  rename_i some all
  have inside : passedObservations observations deviceTimeUs ≤ observations.length :=
    findIdx_le_length
  obtain ⟨before, next⟩ : ∃ before, passedObservations observations deviceTimeUs = before + 1 :=
    ⟨_, (Nat.succ_pred some).symm⟩
  have first := ahead (by omega)
  have late := passed before (by omega) (by omega)
  simp only [next, Nat.add_sub_cancel] at first ⊢
  exact ⟨before, by omega, rfl, rfl, .inr late, .inr first⟩

end Selection

namespace TimeAnchors

open ClockModel (line outside)

variable {anchors : TimeAnchors} {deviceTimeUs : UInt64}

/-- The host time over the integers. -/
def exactHostTime (anchors : TimeAnchors) (deviceTimeUs : UInt64) : Int :=
  line (of anchors.first) (of anchors.second) deviceTimeUs

/-- The product of the distances fits the 128 bits it is computed in. -/
def ProductFits (anchors : TimeAnchors) (deviceTimeUs : UInt64) : Prop :=
  fitsI128 (((deviceTimeUs.toNat : Int) - anchors.first.nodeMidpointUs.toNat) *
    (anchors.second.hostMidpointUs.toNat - anchors.first.hostMidpointUs.toNat))

def ResultFits (anchors : TimeAnchors) (deviceTimeUs : UInt64) : Prop :=
  0 ≤ anchors.exactHostTime deviceTimeUs ∧ anchors.exactHostTime deviceTimeUs < 2 ^ 64

instance (anchors : TimeAnchors) (deviceTimeUs : UInt64) :
    Decidable (anchors.ProductFits deviceTimeUs) := inferInstanceAs (Decidable (fitsI128 _))

/-- The larger uncertainty, and 100 ppm of the way outside the anchors. -/
def statedUncertainty (anchors : TimeAnchors) (deviceTimeUs : UInt64) : Nat :=
  max anchors.first.uncertaintyUs.toNat anchors.second.uncertaintyUs.toNat +
    (outside (of anchors.first) (of anchors.second) deviceTimeUs + 9999) /
      10000

/-- The uncertainties are halves of 64 bits. -/
theorem checkedAdd_stated (rising : anchors.first.Before anchors.second) (deviceTimeUs : UInt64) :
    ∃ uncertainty, checkedAdd (max anchors.first.uncertaintyUs anchors.second.uncertaintyUs)
        (divCeilMicros (anchors.outsideUs deviceTimeUs) 10000) = some uncertainty ∧
      uncertainty.toNat = anchors.statedUncertainty deviceTimeUs := by
  have half : ∀ observation : ClockObservation, observation.uncertaintyUs.toNat ≤ 2 ^ 63 := by
    intro observation
    have bound : observation.pathDelayUs.toNat < 2 ^ 64 := observation.pathDelayUs.toNat_lt
    rw [toNat_uncertaintyUs]
    omega
  have far : (anchors.outsideUs deviceTimeUs).toNat = _ :=
    toNat_outsideUs rising.node deviceTimeUs
  have distance := (anchors.outsideUs deviceTimeUs).toNat_lt
  have drift : (divCeilMicros (anchors.outsideUs deviceTimeUs) 10000).toNat = (_ + 9999) / 10000 :=
    toNat_divCeilMicros _ (by decide)
  have first := half anchors.first
  have second := half anchors.second
  rw [far] at drift distance
  cases sum : checkedAdd (max anchors.first.uncertaintyUs anchors.second.uncertaintyUs)
      (divCeilMicros (anchors.outsideUs deviceTimeUs) 10000) with
  | none =>
    have wraps := checkedAdd_eq_none.mp sum
    rw [toNat_max, drift] at wraps
    omega
  | some uncertainty =>
    refine ⟨uncertainty, rfl, ?_⟩
    rw [← checkedAdd_eq_some.mp sum, toNat_max, drift]
    rfl

/-- The checks that are left between increasing anchors. -/
theorem interpolate_eq (rising : anchors.first.Before anchors.second) (deviceTimeUs : UInt64) :
    ∃ uncertainty, uncertainty.toNat = anchors.statedUncertainty deviceTimeUs ∧
      anchors.interpolate deviceTimeUs =
        if ¬ anchors.ProductFits deviceTimeUs then .error .arithmeticOverflow
        else if ¬ fitsI128 (anchors.exactHostTime deviceTimeUs) then .error .arithmeticOverflow
        else if anchors.exactHostTime deviceTimeUs < 0 ∨
            anchors.exactHostTime deviceTimeUs ≥ 2 ^ 64 then .error .arithmeticOverflow
        else .ok (UInt64.ofNat (anchors.exactHostTime deviceTimeUs).toNat, uncertainty) := by
  obtain ⟨uncertainty, sum, stated⟩ := checkedAdd_stated rising deviceTimeUs
  obtain ⟨node, host⟩ := deltas rising
  have increases : ¬ (anchors.second.nodeMidpointUs ≤ anchors.first.nodeMidpointUs ∨
      anchors.second.hostMidpointUs ≤ anchors.first.hostMidpointUs) :=
    not_or.mpr ⟨UInt64.not_le.mpr rising.node, UInt64.not_le.mpr rising.host⟩
  refine ⟨uncertainty, stated, ?_⟩
  unfold interpolate
  dsimp only [of] at node host ⊢
  rw [if_neg increases, node, host, sum]
  rfl

/-- The interpolation gives the line, or fails to fit. -/
theorem interpolate_cases (rising : anchors.first.Before anchors.second) (deviceTimeUs : UInt64) :
    ¬ (anchors.ProductFits deviceTimeUs ∧ anchors.ResultFits deviceTimeUs) ∧
        anchors.interpolate deviceTimeUs = .error .arithmeticOverflow ∨
      anchors.ProductFits deviceTimeUs ∧ anchors.ResultFits deviceTimeUs ∧
        ∃ hostTime uncertainty, anchors.interpolate deviceTimeUs = .ok (hostTime, uncertainty) ∧
          (hostTime.toNat : Int) = anchors.exactHostTime deviceTimeUs ∧
          uncertainty.toNat = anchors.statedUncertainty deviceTimeUs := by
  obtain ⟨uncertainty, stated, same⟩ := interpolate_eq rising deviceTimeUs
  rw [same]
  by_cases product : anchors.ProductFits deviceTimeUs
  swap
  · exact .inl ⟨fun fits => product fits.1, if_pos product⟩
  rw [if_neg (not_not.mpr product)]
  by_cases result : anchors.ResultFits deviceTimeUs
  · obtain ⟨low, high⟩ := result
    refine .inr ⟨product, ⟨low, high⟩, UInt64.ofNat (anchors.exactHostTime deviceTimeUs).toNat,
      uncertainty, ?_, ?_, stated⟩
    · rw [if_neg (not_not.mpr ⟨by omega, by omega⟩), if_neg (by omega)]
    · rw [UInt64.toNat_ofNat_of_lt' (show _ < 2 ^ 64 by omega), Int.toNat_of_nonneg low]
  refine .inl ⟨fun fits => result fits.2, ?_⟩
  unfold ResultFits at result
  rw [if_pos (show _ < (0 : Int) ∨ _ by omega), ite_self]

end TimeAnchors

/-- A bound on the clocks: `node * rate + weight * offset` is `host` up to the uncertainty. -/
structure ClockBound where
  node : Int
  weight : Int
  host : Int
  uncertainty : Int

namespace ClockBound

/-- Zero where two bounds limit the same combination of rate and offset. -/
def turn (first second : ClockBound) : Int :=
  first.node * second.weight - second.node * first.weight

/-- The three bounds leave a clock. -/
def Agree (first second third : ClockBound) : Prop :=
  |second.turn third * first.host + third.turn first * second.host +
      first.turn second * third.host| ≤
    |second.turn third| * first.uncertainty + |third.turn first| * second.uncertainty +
      |first.turn second| * third.uncertainty

/-- The corner of two bounds furthest out on a side is still within the third. -/
def Keep (side : Int) (first second third : ClockBound) : Prop :=
  0 < first.turn second ∧
    |third.turn second| * first.uncertainty + |first.turn third| * second.uncertainty +
        side * (third.turn second * first.host + first.turn third * second.host -
          first.turn second * third.host) ≤ first.turn second * third.uncertainty

/-- The bounds do not contradict each other. -/
def Consistent (bounds : List ClockBound) : Prop :=
  ∀ first ∈ bounds, ∀ second ∈ bounds, ∀ third ∈ bounds, first.Agree second third

/-- On both sides some two of the bounds have their furthest corner within the other one. -/
def Kept (bounds : List ClockBound) (other : ClockBound) : Prop :=
  ∀ side ∈ [(1 : Int), -1], ∃ first ∈ bounds, ∃ second ∈ bounds, Keep side first second other

instance (side : Int) (first second third : ClockBound) :
    Decidable (Keep side first second third) := inferInstanceAs (Decidable (_ ∧ _))

instance (bounds : List ClockBound) (other : ClockBound) : Decidable (Kept bounds other) :=
  inferInstanceAs (Decidable (∀ side ∈ [(1 : Int), -1], _))

end ClockBound

open ClockBound (Agree Consistent Kept Keep turn)

namespace LinearClock

noncomputable def error (clock : LinearClock) (bound : ClockBound) : ℝ :=
  bound.node * clock.rate + bound.weight * clock.offset - bound.host

def Holds (clock : LinearClock) (bound : ClockBound) : Prop :=
  |clock.error bound| ≤ bound.uncertainty

variable {clock : LinearClock} {bounds : List ClockBound} {first second third : ClockBound}
  {side : Int}

/-- Three errors of one clock belong together. -/
theorem turn_error (clock : LinearClock) (first second third : ClockBound) :
    second.turn third * clock.error first + third.turn first * clock.error second +
        first.turn second * clock.error third =
      -((second.turn third * first.host + third.turn first * second.host +
        first.turn second * third.host : Int) : ℝ) := by
  unfold error turn
  push_cast
  ring

/-- Two bounds that are not parallel leave the clock every error. -/
theorem exists_error (apart : first.turn second ≠ 0) (x y : ℝ) :
    ∃ clock : LinearClock, clock.error first = x ∧ clock.error second = y := by
  have turned : (first.turn second : ℝ) =
      first.node * second.weight - second.node * first.weight := by
    unfold turn
    push_cast
    rfl
  have nonzero : (first.turn second : ℝ) ≠ 0 := Int.cast_ne_zero.mpr apart
  refine ⟨⟨((x + first.host) * second.weight - (y + second.host) * first.weight) /
      first.turn second, (first.node * (y + second.host) - second.node * (x + first.host)) /
      first.turn second⟩, ?_, ?_⟩
  · unfold error
    field_simp
    linear_combination (-(x + first.host)) * turned
  · unfold error
    field_simp
    linear_combination (-(y + second.host)) * turned

theorem exists_sign (x : ℝ) : ∃ sign : ℝ, |sign| = 1 ∧ sign * x = |x| := by
  rcases le_total 0 x with up | down
  · exact ⟨1, abs_one, by rw [one_mul, abs_of_nonneg up]⟩
  · exact ⟨-1, by norm_num, by rw [neg_one_mul, abs_of_nonpos down]⟩

/-- A part of the bounds that makes up for a sum they cover. -/
theorem exists_share {sum bound : ℝ} (within : |sum| ≤ bound) :
    ∃ share : ℝ, |share| ≤ 1 ∧ share * bound = sum := by
  rcases (abs_nonneg sum |>.trans within).eq_or_lt with none | some
  · subst none
    exact ⟨0, by norm_num, by rw [abs_nonpos_iff.mp within, zero_mul]⟩
  · exact ⟨sum / bound, by rwa [abs_div, abs_of_pos some, div_le_one some],
      div_mul_cancel₀ _ some.ne'⟩

theorem holds_of_part {part : ℝ} {bound : ClockBound} (some : |part| ≤ 1)
    (positive : 0 ≤ bound.uncertainty) (same : clock.error bound = part * bound.uncertainty) :
    clock.Holds bound := by
  have positive : (0 : ℝ) ≤ bound.uncertainty := Int.cast_nonneg positive
  unfold Holds
  rw [same, abs_mul, abs_of_nonneg positive]
  exact mul_le_of_le_one_left positive some

theorem abs_weighed_le (weight : ℝ) {error bound : ℝ} (within : |error| ≤ bound) :
    |weight * error| ≤ |weight| * bound := by
  rw [abs_mul]
  exact mul_le_mul_of_nonneg_left within (abs_nonneg _)

theorem agree_of_holds (one : clock.Holds first) (two : clock.Holds second)
    (three : clock.Holds third) : first.Agree second third := by
  have sum := clock.turn_error first second third
  unfold Agree
  rw [← Int.cast_le (R := ℝ), Int.cast_abs, ← abs_neg, ← sum]
  push_cast
  refine (abs_add_three _ _ _).trans (add_le_add_three ?_ ?_ ?_)
  · exact abs_weighed_le _ one
  · exact abs_weighed_le _ two
  · exact abs_weighed_le _ three

theorem exists_of_agree (apart : first.turn second ≠ 0) (one : 0 ≤ first.uncertainty)
    (two : 0 ≤ second.uncertainty) (three : 0 ≤ third.uncertainty)
    (agree : first.Agree second third) :
    ∃ clock : LinearClock, clock.Holds first ∧ clock.Holds second ∧ clock.Holds third := by
  unfold Agree at agree
  rw [← Int.cast_le (R := ℝ), Int.cast_abs] at agree
  obtain ⟨share, part, sum⟩ := exists_share agree
  obtain ⟨a, aUnit, aWeighs⟩ := exists_sign (second.turn third : ℝ)
  obtain ⟨b, bUnit, bWeighs⟩ := exists_sign (third.turn first : ℝ)
  obtain ⟨c, cUnit, cWeighs⟩ := exists_sign (first.turn second : ℝ)
  obtain ⟨clock, atFirst, atSecond⟩ :=
    exists_error apart (-share * a * first.uncertainty) (-share * b * second.uncertainty)
  have within : ∀ sign : ℝ, |sign| = 1 → |-share * sign| ≤ 1 := by
    intro sign unit
    rwa [abs_mul, unit, mul_one, abs_neg]
  refine ⟨clock, holds_of_part (within a aUnit) one atFirst,
    holds_of_part (within b bUnit) two atSecond, holds_of_part (within c cUnit) three ?_⟩
  have errors := clock.turn_error first second third
  rw [atFirst, atSecond] at errors
  have nonzero : (first.turn second : ℝ) ≠ 0 := Int.cast_ne_zero.mpr apart
  refine mul_left_cancel₀ nonzero ?_
  push_cast at sum errors
  linear_combination errors + sum + share * first.uncertainty * aWeighs +
    share * second.uncertainty * bWeighs + share * third.uncertainty * cWeighs

/-- A clock within two bounds leaves a third on no kept side. -/
theorem side_le_of_keep (unit : |(side : ℝ)| = 1) (one : clock.Holds first)
    (two : clock.Holds second) (keep : Keep side first second third) :
    side * clock.error third ≤ third.uncertainty := by
  obtain ⟨positive, keep⟩ := keep
  have sum := clock.turn_error first second third
  have early := (le_abs_self _).trans
    (abs_weighed_le (side * third.turn second) one)
  have late := (le_abs_self _).trans
    (abs_weighed_le (side * first.turn third) two)
  rw [abs_mul, unit, one_mul] at early late
  refine le_of_mul_le_mul_left ?_ (Int.cast_pos.mpr positive : (0 : ℝ) < first.turn second)
  rw [← Int.cast_le (R := ℝ)] at keep
  unfold turn at *
  push_cast at sum early late keep ⊢
  linear_combination early + late + keep + side * sum

theorem exists_of_not_keep (positive : 0 < first.turn second) (one : 0 ≤ first.uncertainty)
    (two : 0 ≤ second.uncertainty) (unit : |(side : ℝ)| = 1)
    (keep : ¬ Keep side first second third) :
    ∃ clock : LinearClock, third.uncertainty < side * clock.error third ∧
      clock.Holds first ∧ clock.Holds second := by
  have leaves := not_le.mp fun fits => keep ⟨positive, fits⟩
  obtain ⟨a, aUnit, aWeighs⟩ := exists_sign (side * third.turn second : ℝ)
  obtain ⟨b, bUnit, bWeighs⟩ := exists_sign (side * first.turn third : ℝ)
  rw [abs_mul, unit, one_mul] at aWeighs bWeighs
  obtain ⟨clock, atFirst, atSecond⟩ :=
    exists_error positive.ne' (a * first.uncertainty) (b * second.uncertainty)
  refine ⟨clock, ?_, holds_of_part aUnit.le one atFirst, holds_of_part bUnit.le two atSecond⟩
  have errors := clock.turn_error first second third
  rw [atFirst, atSecond] at errors
  refine lt_of_mul_lt_mul_left ?_ (Int.cast_nonneg positive.le : (0 : ℝ) ≤ first.turn second)
  rw [← Int.cast_lt (R := ℝ)] at leaves
  unfold turn at *
  push_cast at errors leaves aWeighs bWeighs ⊢
  linear_combination leaves - side * errors - first.uncertainty * aWeighs -
    second.uncertainty * bWeighs

/-- The combination of rate and offset that a bound limits. -/
noncomputable def combination (bound : ClockBound) : ℝ × ℝ →ₗ[ℝ] ℝ :=
  (bound.node : ℝ) • LinearMap.fst ℝ ℝ ℝ + (bound.weight : ℝ) • LinearMap.snd ℝ ℝ ℝ

section Helly

open Finset

variable (other : ClockBound)
  (apart : ∀ first ∈ bounds, ∀ second ∈ bounds, first ≠ second → first.turn second ≠ 0)
  (certain : ∀ bound ∈ bounds, 0 ≤ bound.uncertainty) (consistent : Consistent bounds)
  (unit : |(side : ℝ)| = 1)
  (leaves : ∀ first ∈ bounds, ∀ second ∈ bounds, ¬ Keep side first second other)

include apart certain consistent unit leaves

/-- Three of the bounds and the far side have a clock in common. -/
theorem exists_of_three {chosen : Finset (Option ClockBound)} (size : chosen.card = 3)
    (member : ∀ bound ∈ eraseNone chosen, bound ∈ bounds) :
    ∃ clock : LinearClock, (∀ bound ∈ eraseNone chosen, clock.Holds bound) ∧
      (none ∈ chosen → other.uncertainty < side * clock.error other) := by
  classical
  by_cases passed : none ∈ chosen
  · have two := card_eraseNone_of_mem passed
    rw [size] at two
    obtain ⟨a, b, different, pair⟩ := card_eq_two.mp two
    rw [pair] at member ⊢
    have aIn := member a (by simp)
    have bIn := member b (by simp)
    have limited : ∀ a ∈ bounds, ∀ b ∈ bounds, 0 < a.turn b →
        ∃ clock : LinearClock, other.uncertainty < side * clock.error other ∧
          clock.Holds a ∧ clock.Holds b := fun a aIn b bIn positive =>
      exists_of_not_keep positive (certain a aIn) (certain b bIn) unit (leaves a aIn b bIn)
    rcases lt_or_gt_of_ne (apart a aIn b bIn different) with negative | positive
    · have turned : 0 < b.turn a := by
        unfold turn at negative ⊢
        linarith
      obtain ⟨clock, far, near, close⟩ := limited b bIn a aIn turned
      exact ⟨clock, by simp [near, close], fun _ => far⟩
    · obtain ⟨clock, far, near, close⟩ := limited a aIn b bIn positive
      exact ⟨clock, by simp [near, close], fun _ => far⟩
  · have three := card_eraseNone_of_not_mem passed
    rw [size] at three
    obtain ⟨a, b, c, different, -, -, triple⟩ := card_eq_three.mp three
    rw [triple] at member ⊢
    have aIn := member a (by simp)
    have bIn := member b (by simp)
    have cIn := member c (by simp)
    obtain ⟨clock, one, two, three⟩ := exists_of_agree (apart a aIn b bIn different)
      (certain a aIn) (certain b bIn) (certain c cIn) (consistent a aIn b bIn c cIn)
    exact ⟨clock, by simp [one, two, three], fun found => absurd found passed⟩

theorem exists_beyond {first second : ClockBound} (firstIn : first ∈ bounds)
    (secondIn : second ∈ bounds) (several : first ≠ second) :
    ∃ clock : LinearClock, (∀ bound ∈ bounds, clock.Holds bound) ∧
      other.uncertainty < side * clock.error other := by
  classical
  let sets : Option ClockBound → Set (ℝ × ℝ)
    | none => {point | other.uncertainty < side * (⟨point.1, point.2⟩ : LinearClock).error other}
    | some bound => {point | (⟨point.1, point.2⟩ : LinearClock).Holds bound}
  have plane : Module.finrank ℝ (ℝ × ℝ) = 2 := by simp
  have inter : (⋂ i ∈ insertNone bounds.toFinset, sets i).Nonempty := by
    refine Convex.helly_theorem (𝕜 := ℝ) ?_ ?_ ?_
    · rw [plane, card_insertNone]
      exact Nat.succ_le_succ (one_lt_card.mpr ⟨first, List.mem_toFinset.mpr firstIn, second,
        List.mem_toFinset.mpr secondIn, several⟩)
    · rintro (_ | bound) -
      · have far : ∀ point : ℝ × ℝ, (other.uncertainty : ℝ) < side *
            (⟨point.1, point.2⟩ : LinearClock).error other ↔
              other.uncertainty + side * other.host < ((side : ℝ) • combination other) point := by
          intro point
          unfold error
          rw [mul_sub, lt_sub_iff_add_lt]
          rfl
        change Convex ℝ {point | _}
        simp only [far]
        exact convex_halfSpace_gt (LinearMap.isLinear _) _
      · exact (convex_closedBall (bound.host : ℝ) bound.uncertainty).linear_preimage
          (combination bound)
    intro chosen inside size
    rw [plane] at size
    have member : ∀ bound ∈ eraseNone chosen, bound ∈ bounds := by
      intro bound found
      exact List.mem_toFinset.mp (some_mem_insertNone.mp (inside (mem_eraseNone.mp found)))
    obtain ⟨clock, holds, far⟩ :=
      exists_of_three other apart certain consistent unit leaves size member
    refine ⟨(clock.rate, clock.offset), Set.mem_iInter₂.mpr ?_⟩
    rintro (_ | bound) found
    · exact far found
    · exact holds bound (mem_eraseNone.mpr found)
  obtain ⟨point, common⟩ := inter
  have each := Set.mem_iInter₂.mp common
  exact ⟨⟨point.1, point.2⟩, fun bound found =>
    each (some bound) (some_mem_insertNone.mpr (List.mem_toFinset.mpr found)),
    each none none_mem_insertNone⟩

end Helly

theorem holds_iff_kept (other : ClockBound) {first second : ClockBound}
    (firstIn : first ∈ bounds) (secondIn : second ∈ bounds) (several : first ≠ second)
    (apart : ∀ first ∈ bounds, ∀ second ∈ bounds, first ≠ second → first.turn second ≠ 0)
    (certain : ∀ bound ∈ bounds, 0 ≤ bound.uncertainty) :
    (∀ clock : LinearClock, (∀ bound ∈ bounds, clock.Holds bound) → clock.Holds other) ↔
      (Consistent bounds → Kept bounds other) := by
  have units : ∀ side ∈ [(1 : Int), -1], |(side : ℝ)| = 1 := by
    intro side member
    rcases List.mem_pair.mp member with rfl | rfl <;> norm_num
  constructor
  · intro holds consistent side member
    by_contra leaves
    push Not at leaves
    obtain ⟨clock, within, beyond⟩ := exists_beyond other apart certain consistent
      (units side member) leaves firstIn secondIn several
    refine absurd (holds clock within) (not_le.mpr (beyond.trans_le ?_))
    refine (le_abs_self _).trans_eq ?_
    rw [abs_mul, units side member, one_mul]
  intro kept clock within
  have kept := kept fun a aIn b bIn c cIn =>
    agree_of_holds (within a aIn) (within b bIn) (within c cIn)
  obtain ⟨a, aIn, b, bIn, above⟩ := kept 1 (by decide)
  obtain ⟨c, cIn, d, dIn, below⟩ := kept (-1) (by decide)
  have above := side_le_of_keep (units 1 (by decide)) (within a aIn) (within b bIn) above
  have below := side_le_of_keep (units (-1) (by decide)) (within c cIn) (within d dIn) below
  push_cast at above below
  refine abs_le.mpr ⟨?_, ?_⟩
  · linarith
  · linarith

end LinearClock

/-- The line through the anchors, times their distance. -/
def TimeAnchors.scaledLine (anchors : TimeAnchors) (deviceTimeUs : UInt64) : Int :=
  let first := of anchors.first
  let second := of anchors.second
  first.hostUs.toNat * nodeDelta first second +
    ((deviceTimeUs.toNat : Int) - first.nodeUs.toNat) * hostDelta first second -
    truncated first second deviceTimeUs

/-- The stated uncertainty, times the distance of the anchors. -/
def TimeAnchors.bound (anchors : TimeAnchors) (deviceTimeUs : UInt64) : ClockBound :=
  let distance := nodeDelta (of anchors.first) (of anchors.second)
  ⟨deviceTimeUs.toNat * distance, distance, anchors.scaledLine deviceTimeUs,
    anchors.statedUncertainty deviceTimeUs * distance⟩

/-- The rate is within 100 ppm. -/
def ClockBound.drift : ClockBound := ⟨10000, 0, 10000, 1⟩

def ClockBound.of (observation : ClockObservation) : ClockBound :=
  let anchor := ClockAnchor.of observation
  ⟨anchor.nodeUs.toNat, 1, anchor.hostUs.toNat, anchor.uncertaintyUs.toNat⟩

/-- The bounds of a clock within 100 ppm that the observations are true of. -/
def clockBounds (observations : List ClockObservation) : List ClockBound :=
  .drift :: observations.map .of

/-- The clock is within 100 ppm and the stated uncertainty of every observation. -/
structure LinearClock.Honest (clock : LinearClock) (observations : List ClockObservation) :
    Prop where
  rate : |clock.rate - 1| ≤ 100 / 1000000
  meets : ∀ observation ∈ observations, clock.Meets (of observation)

section Coverage

variable {anchors : TimeAnchors} {deviceTimeUs : UInt64} {observations : List ClockObservation}
  {clock : LinearClock}

theorem LinearClock.honest_iff :
    clock.Honest observations ↔ ∀ bound ∈ clockBounds observations, clock.Holds bound := by
  have drift : |clock.rate - 1| ≤ 100 / 1000000 ↔ clock.Holds .drift := by
    unfold LinearClock.Holds LinearClock.error ClockBound.drift
    push_cast
    rw [abs_le, abs_le]
    constructor
    · rintro ⟨low, high⟩
      constructor <;> linarith
    · rintro ⟨low, high⟩
      constructor <;> linarith
  have met : ∀ observation : ClockObservation,
      clock.Meets (ClockAnchor.of observation) ↔ clock.Holds (.of observation) := by
    intro observation
    unfold Meets hostAt Holds error ClockBound.of
    push_cast
    rw [one_mul, add_comm, mul_comm]
  unfold clockBounds
  rw [forall_mem_cons, forall_mem_map, ← drift]
  simp only [← met]
  exact ⟨fun honest => ⟨honest.rate, honest.meets⟩, fun ⟨rate, meets⟩ => ⟨rate, meets⟩⟩

theorem holds_bound_iff (rising : anchors.first.Before anchors.second) :
    clock.Holds (anchors.bound deviceTimeUs) ↔
      |clock.hostAt deviceTimeUs.toNat - anchors.exactHostTime deviceTimeUs| ≤
        anchors.statedUncertainty deviceTimeUs := by
  have positive : (0 : ℝ) < nodeDelta (of anchors.first) (of anchors.second) :=
    Int.cast_pos.mpr (sub_pos.mpr (Int.ofNat_lt.mpr (UInt64.lt_iff_toNat_lt.mp rising.node)))
  have line : anchors.scaledLine deviceTimeUs = anchors.exactHostTime deviceTimeUs *
      nodeDelta (of anchors.first) (of anchors.second) := (line_mul_nodeDelta _ _ _).symm
  have error : clock.error (anchors.bound deviceTimeUs) =
      (clock.hostAt deviceTimeUs.toNat - anchors.exactHostTime deviceTimeUs) *
        nodeDelta (of anchors.first) (of anchors.second) := by
    unfold LinearClock.error LinearClock.hostAt TimeAnchors.bound
    dsimp only
    rw [line]
    push_cast
    ring
  unfold LinearClock.Holds
  rw [error, abs_mul, abs_of_pos positive]
  unfold TimeAnchors.bound
  push_cast
  exact mul_le_mul_iff_left₀ positive

/-- No two of the bounds are parallel. -/
theorem turn_ne_zero (sorted : observations.Pairwise Before) :
    ∀ first ∈ clockBounds observations, ∀ second ∈ clockBounds observations, first ≠ second →
      first.turn second ≠ 0 := by
  have apart : (clockBounds observations).Pairwise fun first second =>
      first.turn second ≠ 0 ∧ second.turn first ≠ 0 := by
    refine .cons ?_ (pairwise_map.mpr (sorted.imp fun rising => ?_))
    · intro bound member
      obtain ⟨observation, -, rfl⟩ := mem_map.mp member
      exact ⟨by simp [turn, ClockBound.drift, ClockBound.of],
        by simp [turn, ClockBound.drift, ClockBound.of]⟩
    · have node := UInt64.lt_iff_toNat_lt.mp rising.node
      unfold turn ClockBound.of
      dsimp only
      omega
  have : Std.Symm fun first second : ClockBound =>
      first.turn second ≠ 0 ∧ second.turn first ≠ 0 := ⟨fun _ _ => And.symm⟩
  exact fun first firstIn second secondIn different =>
    (apart.forall firstIn secondIn different).1

theorem covers_iff (sorted : observations.Pairwise Before) (observed : 0 < observations.length)
    (rising : anchors.first.Before anchors.second) :
    (∀ clock : LinearClock, clock.Honest observations →
      |clock.hostAt deviceTimeUs.toNat - anchors.exactHostTime deviceTimeUs| ≤
        anchors.statedUncertainty deviceTimeUs) ↔
      (Consistent (clockBounds observations) →
        Kept (clockBounds observations) (anchors.bound deviceTimeUs)) := by
  have one : ClockBound.of observations[0] ∈ clockBounds observations :=
    mem_cons_of_mem _ (mem_map_of_mem (getElem_mem observed))
  refine Iff.trans ?_ (LinearClock.holds_iff_kept (anchors.bound deviceTimeUs) mem_cons_self one
    (fun same => Int.zero_ne_one (congrArg ClockBound.weight same)) (turn_ne_zero sorted) ?_)
  · simp only [LinearClock.honest_iff, holds_bound_iff rising]
  · intro bound member
    rcases mem_cons.mp member with rfl | member
    · decide
    · obtain ⟨observation, -, rfl⟩ := mem_map.mp member
      exact Int.natCast_nonneg _

end Coverage

section Reconstruction

variable {observations : List ClockObservation} {deviceTimeUs : UInt64}

theorem Neighbours.rising {anchors : TimeAnchors} {index : Nat}
    (near : Neighbours observations deviceTimeUs anchors index)
    (sorted : observations.Pairwise Before) :
    anchors.first.Before anchors.second := by
  rw [near.first, near.second]
  exact increasing sorted (Nat.lt_succ_self _) _

theorem Neighbours.exact_midpoint {anchors : TimeAnchors} {index : Nat}
    (near : Neighbours observations deviceTimeUs anchors index)
    (sorted : observations.Pairwise Before) {place : Nat}
    (inside : place < observations.length)
    (here : observations[place].nodeMidpointUs = deviceTimeUs) :
    anchors.exactHostTime deviceTimeUs = observations[place].hostMidpointUs.toNat := by
  have rising := near.rising sorted
  rcases Nat.lt_trichotomy place index with early | rfl | late
  · -- Another observation would lie between it and the device time.
    have behind := (increasing sorted early (Nat.lt_of_succ_lt near.inside)).node
    rcases near.passed with first | passed
    · omega
    · exact absurd passed (UInt64.not_le.mpr (here ▸ behind))
  · subst here
    have line := line_first (of anchors.first)
      (of anchors.second)
    rw [near.first] at line
    unfold TimeAnchors.exactHostTime
    rw [near.first]
    exact line
  · rcases Nat.lt_or_eq_of_le (Nat.succ_le_of_lt late) with beyond | same
    · have ahead := (increasing sorted beyond inside).node
      rcases near.ahead with last | before
      · omega
      · exact absurd before (UInt64.not_lt.mpr (UInt64.le_of_lt (here ▸ ahead)))
    subst same
    subst here
    have line := line_second rising
    rw [near.second] at line
    unfold TimeAnchors.exactHostTime
    rw [near.second]
    exact line

/-- From one device time to a later one the line does not fall. -/
theorem exactHostTime_mono (several : 2 ≤ observations.length)
    (sorted : observations.Pairwise Before) {later : UInt64}
    (order : deviceTimeUs ≤ later) :
    (timeAnchors observations several deviceTimeUs).exactHostTime deviceTimeUs ≤
      (timeAnchors observations several later).exactHostTime later := by
  obtain ⟨early, near⟩ := timeAnchors_neighbours several sorted deviceTimeUs
  obtain ⟨late, next⟩ := timeAnchors_neighbours several sorted later
  have rising := near.rising sorted
  rcases Nat.lt_trichotomy early late with before | rfl | behind
  · have inside := next.inside
    have notLast : deviceTimeUs ≤ observations[early + 1].nodeMidpointUs :=
      near.ahead.elim (by omega) UInt64.le_of_lt
    have notFirst : observations[late].nodeMidpointUs ≤ later :=
      next.passed.elim (by omega) id
    rw [← near.second] at notLast
    rw [← next.first] at notFirst
    have up := Int.le_trans (line_mono rising notLast)
      (Int.le_of_eq (line_second rising))
    have down := Int.le_trans (Int.le_of_eq (line_first _ _).symm)
      (line_mono (next.rising sorted) notFirst)
    refine Int.le_trans up (Int.le_trans ?_ down)
    rw [near.second, next.first]
    rcases Nat.lt_or_eq_of_le (Nat.succ_le_of_lt before) with apart | same
    · exact Int.ofNat_le.mpr (UInt64.le_iff_toNat_le.mp
        (UInt64.le_of_lt (increasing sorted apart _).host))
    · subst same
      exact Int.le_refl _
  · unfold TimeAnchors.exactHostTime
    rw [near.first, near.second, next.first, next.second]
    exact line_mono (increasing sorted (Nat.lt_succ_self _) _) order
  · have inside := near.inside
    have notLast : later < observations[late + 1].nodeMidpointUs :=
      next.ahead.elim (by omega) id
    have notFirst : observations[early].nodeMidpointUs ≤ deviceTimeUs :=
      near.passed.elim (by omega) id
    have upTo : observations[late + 1].nodeMidpointUs ≤ observations[early].nodeMidpointUs := by
      rcases Nat.lt_or_eq_of_le (Nat.succ_le_of_lt behind) with apart | same
      · exact UInt64.le_of_lt (increasing sorted apart _).node
      · subst same
        exact UInt64.le_refl _
    have wrong := UInt64.lt_of_lt_of_le notLast
      (UInt64.le_trans upTo (UInt64.le_trans notFirst order))
    exact absurd wrong (UInt64.lt_irrefl _)

end Reconstruction

/-- The host time of a device time, as it should be told. -/
structure Reconstructs (observations : List ClockObservation)
    (several : 2 ≤ observations.length) (deviceTimeUs : UInt64) : Prop where
  anchored : interpolateHostTime observations deviceTimeUs ≠ .error .invalidTimeAnchors
  fails : interpolateHostTime observations deviceTimeUs = .error .arithmeticOverflow →
    ¬ (timeAnchors observations several deviceTimeUs).ResultFits deviceTimeUs
  midpoint : ∀ observation ∈ observations, observation.nodeMidpointUs = deviceTimeUs →
    ∃ uncertainty, interpolateHostTime observations deviceTimeUs =
      .ok (some (observation.hostMidpointUs, uncertainty))
  monotone : ∀ later, deviceTimeUs ≤ later → ∀ early late,
    interpolateHostTime observations deviceTimeUs = .ok (some early) →
    interpolateHostTime observations later = .ok (some late) → early.1 ≤ late.1
  covered : ∀ clock : LinearClock, clock.Honest observations → ∀ hostTime uncertainty,
    interpolateHostTime observations deviceTimeUs = .ok (some (hostTime, uncertainty)) →
    |clock.hostAt deviceTimeUs.toNat - hostTime.toNat| ≤ uncertainty.toNat

/-- The call gives the line through the anchors, or overflows. -/
theorem interpolateHostTime_cases {observations : List ClockObservation}
    (several : 2 ≤ observations.length) (sorted : observations.Pairwise Before)
    (deviceTimeUs : UInt64) : let anchors := timeAnchors observations several deviceTimeUs
    ¬ (anchors.ProductFits deviceTimeUs ∧ anchors.ResultFits deviceTimeUs) ∧
        interpolateHostTime observations deviceTimeUs = .error .arithmeticOverflow ∨
      anchors.ProductFits deviceTimeUs ∧ anchors.ResultFits deviceTimeUs ∧
        ∃ hostTime uncertainty, interpolateHostTime observations deviceTimeUs =
            .ok (some (hostTime, uncertainty)) ∧
          (hostTime.toNat : Int) = anchors.exactHostTime deviceTimeUs ∧
          uncertainty.toNat = anchors.statedUncertainty deviceTimeUs := by
  obtain ⟨index, near⟩ := timeAnchors_neighbours several sorted deviceTimeUs
  unfold interpolateHostTime
  rw [dif_pos several]
  rcases TimeAnchors.interpolate_cases (near.rising sorted) deviceTimeUs with
    ⟨fits, fails⟩ | ⟨product, result, hostTime, uncertainty, done, told⟩
  · exact .inl ⟨fits, by rw [fails]; rfl⟩
  · exact .inr ⟨product, result, hostTime, uncertainty, by rw [done]; rfl, told⟩

/-- For every list that a time log accepts, every device time and every honest clock. -/
theorem interpolate_host_time_spec {bootEpoch : BootEpoch} {observations : List ClockObservation}
    {recovery : TimeWalRecovery}
    (accepted : recoverFrom bootEpoch ⟨0, none⟩ observations = .ok recovery)
    (several : 2 ≤ observations.length) (deviceTimeUs : UInt64) :
    (Reconstructs observations several deviceTimeUs ↔
      ((timeAnchors observations several deviceTimeUs).ResultFits deviceTimeUs →
        (timeAnchors observations several deviceTimeUs).ProductFits deviceTimeUs ∧
          (Consistent (clockBounds observations) → Kept (clockBounds observations)
            ((timeAnchors observations several deviceTimeUs).bound deviceTimeUs)))) ∧
      interpolateHostTime observations deviceTimeUs ≠ .error .invalidTimeAnchors ∧
      ∀ later, deviceTimeUs ≤ later → ∀ early late,
        interpolateHostTime observations deviceTimeUs = .ok (some early) →
        interpolateHostTime observations later = .ok (some late) → early.1 ≤ late.1 := by
  obtain ⟨-, sorted⟩ := pairwise_of_recoverFrom accepted nofun
  obtain ⟨index, near⟩ := timeAnchors_neighbours several sorted deviceTimeUs
  have observed : 0 < observations.length := Nat.lt_of_lt_of_le Nat.zero_lt_two several
  have cases := interpolateHostTime_cases several sorted
  have anchored : interpolateHostTime observations deviceTimeUs ≠ .error .invalidTimeAnchors := by
    rcases cases deviceTimeUs with ⟨-, fails⟩ | ⟨-, -, _, _, done, -⟩
    · rw [fails]
      nofun
    · rw [done]
      nofun
  have monotone : ∀ later, deviceTimeUs ≤ later → ∀ early late,
      interpolateHostTime observations deviceTimeUs = .ok (some early) →
      interpolateHostTime observations later = .ok (some late) → early.1 ≤ late.1 := by
    intro later order early late first second
    rcases cases deviceTimeUs with ⟨-, fails⟩ | ⟨-, -, _, _, done, exact, -⟩
    · cases fails.symm.trans first
    rcases cases later with ⟨-, fails⟩ | ⟨-, -, _, _, done', exact', -⟩
    · cases fails.symm.trans second
    cases done.symm.trans first
    cases done'.symm.trans second
    have mono := exactHostTime_mono several sorted order
    rw [← exact, ← exact'] at mono
    exact UInt64.le_iff_toNat_le.mpr (Int.ofNat_le.mp mono)
  refine ⟨⟨fun reconstructs result => ?_, fun condition => ?_⟩, anchored, monotone⟩
  · rcases cases deviceTimeUs with ⟨-, fails⟩ | ⟨product, -, _, _, done, exact, stated⟩
    · exact absurd result (reconstructs.fails fails)
    refine ⟨product, (covers_iff sorted observed (near.rising sorted)).mp fun clock honest => ?_⟩
    rw [← exact, ← stated, Int.cast_natCast]
    exact reconstructs.covered clock honest _ _ done
  rcases cases deviceTimeUs with ⟨fits, fails⟩ | ⟨-, result, _, _, done, exact, stated⟩
  · have beyond : ¬ (timeAnchors observations several deviceTimeUs).ResultFits deviceTimeUs :=
      fun result => fits ⟨(condition result).1, result⟩
    refine ⟨anchored, fun _ => beyond, ?_, monotone, ?_⟩
    · intro observation member here
      obtain ⟨place, inside, rfl⟩ := List.getElem_of_mem member
      have middle := near.exact_midpoint sorted inside here
      have bound := observations[place].hostMidpointUs.toNat_lt
      exact absurd ⟨by omega, by omega⟩ beyond
    · intro _ _ _ _ done
      cases fails.symm.trans done
  · refine ⟨anchored, ?_, ?_, monotone, ?_⟩
    · intro fails
      cases fails.symm.trans done
    · intro observation member here
      obtain ⟨place, inside, rfl⟩ := List.getElem_of_mem member
      have middle := near.exact_midpoint sorted inside here
      rw [← exact] at middle
      rw [← UInt64.toNat_inj.mp (Int.ofNat_inj.mp middle)]
      exact ⟨_, done⟩
    intro clock honest _ _ again
    cases done.symm.trans again
    have covered := (covers_iff sorted observed (near.rising sorted)).mpr
      (condition result).2 clock honest
    rw [← exact, ← stated, Int.cast_natCast] at covered
    exact covered

/-- Two observations 100 ms apart, each uncertain by 10 microseconds. -/
def closeObservations : List ClockObservation :=
  [⟨7, 1000, 500, 500, 1020⟩, ⟨7, 100980, 100500, 100500, 101000⟩]

/-- Five milliseconds after them the stated 11 microseconds are just enough. -/
theorem interpolate_host_time_spec_of_close :
    Reconstructs closeObservations (by decide) 105500 :=
  have accepted : recoverFrom 7 ⟨0, none⟩ closeObservations =
    .ok ⟨2, closeObservations.getLast?⟩ := by decide
  (interpolate_host_time_spec accepted (by decide) 105500).1.mpr fun _ =>
    ⟨by decide, fun _ => by decide⟩

/-- A second after them the line is 210 microseconds off, and 110 are stated. -/
theorem interpolation_misses_true_time :
    ∃ (observations : List ClockObservation) (several : 2 ≤ observations.length)
      (recovery : TimeWalRecovery) (deviceTimeUs : UInt64),
      recoverFrom 7 ⟨0, none⟩ observations = .ok recovery ∧
      ¬ Reconstructs observations several deviceTimeUs := by
  refine ⟨closeObservations, by decide, ⟨2, closeObservations.getLast?⟩, 1100500, by decide,
    fun reconstructs => ?_⟩
  have honest : (⟨1, 500⟩ : LinearClock).Honest closeObservations := by
    refine ⟨by norm_num, ?_⟩
    intro observation member
    rcases List.mem_cons.mp member with rfl | member
    · change |(500 : ℝ) + 1 * ((500 : Nat) : ℝ) - ((1010 : Nat) : ℝ)| ≤ ((10 : Nat) : ℝ)
      norm_num [abs_le]
    · obtain rfl := List.mem_singleton.mp member
      change |(500 : ℝ) + 1 * ((100500 : Nat) : ℝ) - ((100990 : Nat) : ℝ)| ≤ ((10 : Nat) : ℝ)
      norm_num [abs_le]
  have covered := reconstructs.covered _ honest 1100790 110 (by decide +kernel)
  change |(500 : ℝ) + 1 * ((1100500 : Nat) : ℝ) - ((1100790 : Nat) : ℝ)| ≤ ((110 : Nat) : ℝ)
    at covered
  norm_num [abs_le] at covered

end SensorSystem.Host
