import SensorSystem.Host.Time.ClockIntegrity
import Mathlib.Data.Real.Basic
import Mathlib.Tactic.Linarith
import Mathlib.Tactic.LinearCombination
import Mathlib.Tactic.NormNum

/-! When the uncertainty of an estimate covers the true host time of a linear node clock. -/

namespace SensorSystem.Host

/-- The true host time of every node time, at a constant rate. -/
structure LinearClock where
  rate : ℝ
  offset : ℝ

namespace LinearClock

noncomputable def hostAt (clock : LinearClock) (nodeUs : ℝ) : ℝ :=
  clock.offset + clock.rate * nodeUs

/-- The rate error is within the drift limit of a policy. -/
def Within (clock : LinearClock) (policy : ClockModelPolicy) : Prop :=
  |clock.rate - 1| ≤ policy.maximumDriftPpm.toNat / 1000000

/-- The true host time lies within the stated uncertainty of an anchor. -/
def Meets (clock : LinearClock) (anchor : ClockAnchor) : Prop :=
  |clock.hostAt anchor.nodeUs.toNat - anchor.hostUs.toNat| ≤ anchor.uncertaintyUs.toNat

end LinearClock

namespace ClockModel

/-- Observations whose true offset lies within their uncertainty. -/
inductive HonestRun (clock : LinearClock) (initial : ClockModel) : ClockModel → Prop where
  | start : HonestRun clock initial initial
  | accepted {model next : ClockModel} (run : HonestRun clock initial model)
      (observation : ClockObservation) (honest : clock.Meets (ClockAnchor.of observation))
      (done : model.observe observation = (.ok (), next)) : HonestRun clock initial next
  | rejected {model next : ClockModel} {error : ClockModelError}
      (run : HonestRun clock initial model) (observation : ClockObservation)
      (done : model.observe observation = (.error error, next)) : HonestRun clock initial next

variable {clock : LinearClock} {model next initial : ClockModel}
  {first second anchor : ClockAnchor}

theorem HonestRun.anchored (run : HonestRun clock initial model) (anchored : initial.Anchored) :
    model.Anchored := by
  induction run with
  | start => exact anchored
  | accepted run observation honest done ih =>
    exact ih.accepts (accepts_of_observe done)
  | rejected run observation done ih =>
    rw [unchanged_of_rejected done]
    exact ih

theorem HonestRun.policy (run : HonestRun clock initial model) : model.policy = initial.policy := by
  induction run with
  | start => rfl
  | accepted run observation honest done ih =>
    exact (accepts_of_observe done).policy.trans ih
  | rejected run observation done ih =>
    rw [unchanged_of_rejected done]
    exact ih

/-- An anchor is the accepted observation, or was kept before. -/
theorem Accepts.source {candidate : ClockAnchor} (accepts : Accepts model candidate next)
    (kept : next.Keeps anchor) : anchor = candidate ∨ model.Keeps anchor := by
  cases accepts with
  | opened empty certain =>
    rcases kept with same | same
    · exact .inl (Option.some.inj same).symm
    · exact .inr (.inr same)
  | dropped => exact .inr kept
  | replaced first found unlocked after =>
    rcases kept with same | same
    · exact .inl (Option.some.inj same).symm
    · exact .inr (.inr same)
  | advanced first found after drift =>
    rcases kept with same | same
    · cases locked : model.second with
      | none =>
        rw [locked] at same
        exact .inr (.inl (found.trans same))
      | some second =>
        rw [locked] at same
        exact .inr (.inr (locked.trans same))
    · exact .inl (Option.some.inj same).symm

/-- Every anchor of an honest run meets the clock. -/
theorem HonestRun.meets (run : HonestRun clock initial model)
    (opening : ∀ anchor, initial.Keeps anchor → clock.Meets anchor) (kept : model.Keeps anchor) :
    clock.Meets anchor := by
  induction run with
  | start => exact opening anchor kept
  | accepted run observation honest done ih =>
    rcases (accepts_of_observe done).source kept with rfl | before
    · exact honest
    · exact ih before
  | rejected run observation done ih =>
    rw [unchanged_of_rejected done] at kept
    exact ih kept

/-- The terms of the line at a node time: the anchors' deltas, the fraction cut off and the
uncertainty. -/
def nodeDelta (first second : ClockAnchor) : Int := second.nodeUs.toNat - first.nodeUs.toNat

def hostDelta (first second : ClockAnchor) : Int := second.hostUs.toNat - first.hostUs.toNat

def truncated (first second : ClockAnchor) (nodeUs : UInt64) : Int :=
  (((nodeUs.toNat : Int) - first.nodeUs.toNat) * hostDelta first second).tmod
    (nodeDelta first second)

def reported (policy : ClockModelPolicy) (first second : ClockAnchor) (nodeUs : UInt64) : Nat :=
  max first.uncertaintyUs.toNat second.uncertaintyUs.toNat +
    (outside first second nodeUs * policy.maximumDriftPpm.toNat + 999999) / 1000000

/-- The uncertainties of both anchors leave room for the truncation on a side, `1` above the line.
-/
def BandFits (policy : ClockModelPolicy) (first second : ClockAnchor) (nodeUs : UInt64)
    (side : Int) : Prop :=
  |(second.nodeUs.toNat : Int) - nodeUs.toNat| * first.uncertaintyUs.toNat +
      |(nodeUs.toNat : Int) - first.nodeUs.toNat| * second.uncertaintyUs.toNat +
      side * truncated first second nodeUs ≤
    reported policy first second nodeUs * nodeDelta first second

/-- A clock within the drift limit that starts at one anchor leaves the room. -/
def ConeFits (policy : ClockModelPolicy) (first second : ClockAnchor) (nodeUs : UInt64)
    (side : Int) (anchor : ClockAnchor) : Prop :=
  (anchor.uncertaintyUs.toNat * 1000000 + policy.maximumDriftPpm.toNat *
        |(nodeUs.toNat : Int) - anchor.nodeUs.toNat|) * nodeDelta first second +
      side * (truncated first second nodeUs - ((nodeUs.toNat : Int) - anchor.nodeUs.toNat) *
        (hostDelta first second - nodeDelta first second)) * 1000000 ≤
    reported policy first second nodeUs * nodeDelta first second * 1000000

/-- Both sides of the line have room for every clock the anchors and the drift limit admit. -/
def Roomy (policy : ClockModelPolicy) (first second : ClockAnchor) (nodeUs : UInt64) : Prop :=
  ∀ side ∈ [1, -1], BandFits policy first second nodeUs side ∨
    ConeFits policy first second nodeUs side first ∨
    ConeFits policy first second nodeUs side second

instance (policy : ClockModelPolicy) (first second : ClockAnchor) (nodeUs : UInt64) (side : Int) :
    Decidable (BandFits policy first second nodeUs side) := inferInstanceAs (Decidable (_ ≤ _))

instance (policy : ClockModelPolicy) (first second : ClockAnchor) (nodeUs : UInt64) (side : Int)
    (anchor : ClockAnchor) : Decidable (ConeFits policy first second nodeUs side anchor) :=
  inferInstanceAs (Decidable (_ ≤ _))

instance (policy : ClockModelPolicy) (first second : ClockAnchor) (nodeUs : UInt64) :
    Decidable (Roomy policy first second nodeUs) :=
  inferInstanceAs (Decidable (∀ side ∈ [(1 : Int), -1], _ ∨ _ ∨ _))

theorem line_mul_nodeDelta (first second : ClockAnchor) (nodeUs : UInt64) :
    line first second nodeUs * nodeDelta first second =
      first.hostUs.toNat * nodeDelta first second +
        ((nodeUs.toNat : Int) - first.nodeUs.toNat) * hostDelta first second -
        truncated first second nodeUs := by
  have division := Int.mul_tdiv_add_tmod
    (((nodeUs.toNat : Int) - first.nodeUs.toNat) * hostDelta first second)
    (nodeDelta first second)
  unfold line truncated
  rw [Int.add_mul]
  change _ + (((nodeUs.toNat : Int) - first.nodeUs.toNat) * hostDelta first second).tdiv
    (nodeDelta first second) * nodeDelta first second = _
  rw [Int.mul_comm (Int.tdiv _ _)]
  omega

theorem band_covers {rate offset n₁ n₂ h₁ h₂ u₁ u₂ t est rest room side : ℝ}
    (ordered : 0 < n₂ - n₁) (first : |offset + rate * n₁ - h₁| ≤ u₁)
    (second : |offset + rate * n₂ - h₂| ≤ u₂) (unit : |side| = 1)
    (onLine : est * (n₂ - n₁) = h₁ * (n₂ - n₁) + (t - n₁) * (h₂ - h₁) - rest)
    (fits : |n₂ - t| * u₁ + |t - n₁| * u₂ + side * rest ≤ room * (n₂ - n₁)) :
    side * (offset + rate * t - est) ≤ room := by
  have weigh : ∀ (weight : ℝ) {error bound : ℝ}, |error| ≤ bound →
      side * (weight * error) ≤ |weight| * bound := by
    intro weight error bound within
    calc side * (weight * error) ≤ |side * (weight * error)| := le_abs_self _
      _ = |weight| * |error| := by rw [abs_mul, abs_mul, unit, one_mul]
      _ ≤ |weight| * bound := mul_le_mul_of_nonneg_left within (abs_nonneg _)
  have early := weigh (n₂ - t) first
  have late := weigh (t - n₁) second
  refine le_of_mul_le_mul_right (le_trans ?_ fits) ordered
  have split : side * (offset + rate * t - est) * (n₂ - n₁) =
      side * ((n₂ - t) * (offset + rate * n₁ - h₁)) +
        side * ((t - n₁) * (offset + rate * n₂ - h₂)) + side * rest := by
    linear_combination (-side) * onLine
  rw [split]
  linarith

/-- Moving away from one anchor at a rate within the drift limit. -/
theorem cone_covers {rate offset delta hostDelta n h u t est rest room side drift : ℝ}
    (ordered : 0 < delta) (honest : |offset + rate * n - h| ≤ u)
    (within : |rate - 1| ≤ drift / 1000000) (unit : |side| = 1)
    (onLine : est * delta = h * delta + (t - n) * hostDelta - rest)
    (fits : (u * 1000000 + drift * |t - n|) * delta +
      side * (rest - (t - n) * (hostDelta - delta)) * 1000000 ≤ room * delta * 1000000) :
    side * (offset + rate * t - est) ≤ room := by
  have offsetError : side * (offset + rate * n - h) ≤ u := by
    calc side * (offset + rate * n - h) ≤ |side * (offset + rate * n - h)| := le_abs_self _
      _ = |offset + rate * n - h| := by rw [abs_mul, unit, one_mul]
      _ ≤ u := honest
  have rateError : side * ((rate - 1) * (t - n)) ≤ drift / 1000000 * |t - n| := by
    calc side * ((rate - 1) * (t - n)) ≤ |side * ((rate - 1) * (t - n))| := le_abs_self _
      _ = |rate - 1| * |t - n| := by rw [abs_mul, abs_mul, unit, one_mul]
      _ ≤ drift / 1000000 * |t - n| := mul_le_mul_of_nonneg_right within (abs_nonneg _)
  have both := mul_le_mul_of_nonneg_right (add_le_add offsetError rateError) ordered.le
  refine le_of_mul_le_mul_right ?_ ordered
  have split : side * (offset + rate * t - est) * delta =
      (side * (offset + rate * n - h) + side * ((rate - 1) * (t - n))) * delta +
        side * (rest - (t - n) * (hostDelta - delta)) := by
    linear_combination (-side) * onLine
  rw [split]
  linarith

/-- On a side with room the host time is within the uncertainty. -/
theorem covers_side {nodeUs : UInt64} {estimate : ClockEstimate} {side : Int}
    (answers : Answers model first second nodeUs estimate) (within : clock.Within model.policy)
    (meetsFirst : clock.Meets first) (meetsSecond : clock.Meets second) (unit : |(side : ℝ)| = 1)
    (room : BandFits model.policy first second nodeUs side ∨
      ConeFits model.policy first second nodeUs side first ∨
      ConeFits model.policy first second nodeUs side second) :
    (side : ℝ) * (clock.hostAt nodeUs.toNat - estimate.hostMonotonicUs.toNat) ≤
      estimate.uncertaintyUs.toNat := by
  have uncertainty : estimate.uncertaintyUs.toNat = reported model.policy first second nodeUs :=
    answers.uncertainty
  have node := UInt64.lt_iff_toNat_lt.mp answers.after.node
  have ordered : (0 : ℝ) < second.nodeUs.toNat - first.nodeUs.toNat :=
    sub_pos.mpr (by exact_mod_cast node)
  have exact := line_mul_nodeDelta first second nodeUs
  rw [← answers.host] at exact
  have onLine := congrArg (Int.cast : Int → ℝ) exact
  rw [uncertainty]
  unfold LinearClock.hostAt
  rcases room with band | cone | cone
  · have fits : ((_ : Int) : ℝ) ≤ ((_ : Int) : ℝ) := Int.cast_le.mpr band
    simp only [nodeDelta, hostDelta] at onLine fits
    push_cast at onLine fits
    exact band_covers ordered meetsFirst meetsSecond unit onLine fits
  · have fits : ((_ : Int) : ℝ) ≤ ((_ : Int) : ℝ) := Int.cast_le.mpr cone
    simp only [nodeDelta, hostDelta] at onLine fits
    push_cast at onLine fits
    exact cone_covers ordered meetsFirst within unit onLine fits
  have fits : ((_ : Int) : ℝ) ≤ ((_ : Int) : ℝ) := Int.cast_le.mpr cone
  simp only [nodeDelta, hostDelta] at onLine fits
  push_cast at onLine fits
  refine cone_covers ordered meetsSecond within unit ?_ fits
  linear_combination onLine

/-- In every run of honest observations, an answer whose anchors leave room covers the true host
time of every linear clock within the drift limit. -/
theorem estimate_covers_true_time {bootEpoch : BootEpoch} {policy : ClockModelPolicy}
    (started : ClockModel.new bootEpoch policy = .ok initial) (within : clock.Within policy)
    (run : HonestRun clock initial model) {nodeUs : UInt64} {estimate : ClockEstimate}
    (answered : model.estimate nodeUs = .ok estimate)
    (room : ∀ first second, model.first = some first → model.second = some second →
      Roomy policy first second nodeUs) :
    |clock.hostAt nodeUs.toNat - estimate.hostMonotonicUs.toNat| ≤
      estimate.uncertaintyUs.toNat := by
  have same : model.policy = policy := run.policy.trans (policy_new started)
  subst same
  obtain ⟨first, second, answers⟩ := answers_of_estimate
    (run.anchored (anchored_new started)) answered
  have opening : ∀ anchor, initial.Keeps anchor → clock.Meets anchor := by
    intro anchor kept
    unfold ClockModel.new ClockModelPolicy.validate at started
    split at started
    · cases started
    split at started
    · cases started
    · cases started
      rcases kept with impossible | impossible <;> cases impossible
  have roomy := room first second answers.earlier answers.later
  have meetsFirst := run.meets opening (.inl answers.earlier)
  have meetsSecond := run.meets opening (.inr answers.later)
  have above := covers_side answers within meetsFirst meetsSecond (by norm_num)
    (roomy 1 (by decide))
  have below := covers_side answers within meetsFirst meetsSecond (by norm_num)
    (roomy (-1) (by decide))
  push_cast at above below
  rw [abs_le]
  constructor
  · linarith
  · linarith

/-- A clock of the nominal rate, observed to 100 microseconds and asked in holdover. -/
theorem estimate_covers_true_time_of_nominal : ∃ estimate : ClockEstimate,
      |(⟨1, 4000⟩ : LinearClock).hostAt (1501000 : UInt64).toNat -
        estimate.hostMonotonicUs.toNat| ≤ estimate.uncertaintyUs.toNat := by
  have started : ClockModel.new 7 ⟨100, 1000000, 100, 60000000⟩ =
      .ok ⟨7, ⟨100, 1000000, 100, 60000000⟩, none, none⟩ := rfl
  have within : (⟨1, 4000⟩ : LinearClock).Within ⟨100, 1000000, 100, 60000000⟩ := by
    change |(1 : ℝ) - 1| ≤ ((100 : Nat) : ℝ) / 1000000
    norm_num
  have firstMeets : (⟨1, 4000⟩ : LinearClock).Meets
      (ClockAnchor.of ⟨7, 4950, 1000, 1000, 5150⟩) := by
    change |(4000 : ℝ) + 1 * ((1000 : Nat) : ℝ) - ((5050 : Nat) : ℝ)| ≤ ((100 : Nat) : ℝ)
    norm_num
  have secondMeets : (⟨1, 4000⟩ : LinearClock).Meets
      (ClockAnchor.of ⟨7, 1004950, 1001000, 1001000, 1005150⟩) := by
    change |(4000 : ℝ) + 1 * ((1001000 : Nat) : ℝ) - ((1005050 : Nat) : ℝ)| ≤ ((100 : Nat) : ℝ)
    norm_num
  have run : HonestRun ⟨1, 4000⟩ ⟨7, ⟨100, 1000000, 100, 60000000⟩, none, none⟩
      ⟨7, ⟨100, 1000000, 100, 60000000⟩, some ⟨1000, 5050, 100⟩, some ⟨1001000, 1005050, 100⟩⟩ :=
    (HonestRun.start.accepted _ firstMeets rfl).accepted _ secondMeets rfl
  refine ⟨⟨1505050, 150, .holdover⟩, estimate_covers_true_time started within run (by decide) ?_⟩
  intro first second firstFound secondFound
  cases firstFound
  cases secondFound
  decide

/-- A node clock 100 ppm slow, observed a second apart with an error of 100 microseconds that
turns its sign: after a minute of holdover the estimate is 12.1 ms behind and reports 6.1 ms. -/
theorem estimate_misses_true_time :
    ∃ (clock : LinearClock) (initial model : ClockModel) (nodeUs : UInt64)
      (estimate : ClockEstimate),
      ClockModel.new 7 ⟨100, 1000000, 100, 60000000⟩ = .ok initial ∧
      clock.Within ⟨100, 1000000, 100, 60000000⟩ ∧ HonestRun clock initial model ∧
      model.estimate nodeUs = .ok estimate ∧
      ¬ |clock.hostAt nodeUs.toNat - estimate.hostMonotonicUs.toNat| ≤
        estimate.uncertaintyUs.toNat := by
  have firstMeets : (⟨1.0001, 0⟩ : LinearClock).Meets
      (ClockAnchor.of ⟨7, 1000100, 1000000, 1000000, 1000300⟩) := by
    change |(0 : ℝ) + 1.0001 * ((1000000 : Nat) : ℝ) - ((1000200 : Nat) : ℝ)| ≤ ((100 : Nat) : ℝ)
    norm_num
  have secondMeets : (⟨1.0001, 0⟩ : LinearClock).Meets
      (ClockAnchor.of ⟨7, 2000000, 2000000, 2000000, 2000200⟩) := by
    change |(0 : ℝ) + 1.0001 * ((2000000 : Nat) : ℝ) - ((2000100 : Nat) : ℝ)| ≤ ((100 : Nat) : ℝ)
    norm_num
  have within : (⟨1.0001, 0⟩ : LinearClock).Within ⟨100, 1000000, 100, 60000000⟩ := by
    change |(1.0001 : ℝ) - 1| ≤ ((100 : Nat) : ℝ) / 1000000
    norm_num
  refine ⟨⟨1.0001, 0⟩, _,
    ⟨7, ⟨100, 1000000, 100, 60000000⟩, some ⟨1000000, 1000200, 100⟩, some ⟨2000000, 2000100, 100⟩⟩,
    62000000, ⟨61994100, 6100, .holdover⟩, rfl, within,
    (HonestRun.start.accepted _ firstMeets rfl).accepted _ secondMeets rfl, by decide, ?_⟩
  change ¬ |(0 : ℝ) + 1.0001 * ((62000000 : Nat) : ℝ) - ((61994100 : Nat) : ℝ)| ≤
    ((6100 : Nat) : ℝ)
  norm_num

end ClockModel
end SensorSystem.Host
