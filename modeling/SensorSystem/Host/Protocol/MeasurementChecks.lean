import SensorSystem.Base.Results
import SensorSystem.Host.Protocol.Measurement

/-! Each check of `measurement.rs` as the conjunction of its conditions, with the cursors compared
as numbers. -/

namespace SensorSystem.Host

open Base

theorem StreamState.validate_eq_ok {state : StreamState} : state.validate = .ok () ↔
    state.bootEpoch ≠ 0 ∧ state.capacitySamples ≠ 0 ∧
      state.retainedFrom.toNat ≤ state.produced.toNat ∧
      state.released.toNat ≤ state.produced.toNat := by
  simp only [StreamState.validate, guard_eq_ok, UInt64.lt_iff_toNat_lt, gt_iff_lt, Nat.not_lt,
    and_true, ne_eq]

/-- A range from a cursor that stops at or below a bound. -/
theorem checkedAdd_bounded_eq_ok {first count produced : UInt64}
    {overflow ahead : MeasurementContractError} : (match checkedAdd first count with
      | none => .error overflow
      | some stop => if stop > produced then .error ahead else .ok ()) = Except.ok () ↔
      first.toNat + count.toNat ≤ produced.toNat := by
  have bounded := produced.toNat_lt
  cases sum : checkedAdd first count with
  | none =>
    rw [checkedAdd_eq_none] at sum
    exact ⟨nofun, fun fits => by omega⟩
  | some stop =>
    rw [checkedAdd_eq_some] at sum
    simp only [guard_eq_ok, UInt64.lt_iff_toNat_lt, gt_iff_lt, and_true]
    omega

/-- A structural check in front of the request's own. -/
theorem check_then_eq_ok {check rest : Except MeasurementContractError Unit} : (match check with
      | .error error => Except.error error
      | .ok () => rest) = .ok () ↔ check = .ok () ∧ rest = .ok () := by
  cases check with
  | error error => exact ⟨nofun, fun both => nomatch both.1⟩
  | ok value => exact ⟨fun continued => ⟨rfl, continued⟩, And.right⟩

namespace SampleChunkHeader

variable {header : SampleChunkHeader}

theorem validateStructure_eq_ok : header.validateStructure = .ok () ↔
    header.bootEpoch ≠ 0 ∧ header.retainedFrom.toNat ≤ header.produced.toNat ∧
      header.sampleCount ≠ 0 ∧ header.retainedFrom.toNat ≤ header.first.toNat ∧
      header.first.toNat + header.sampleCount.toNat ≤ header.produced.toNat := by
  rw [validateStructure, guard_eq_ok, guard_eq_ok, guard_eq_ok, guard_eq_ok]
  refine (and_congr_right fun _ => and_congr_right fun _ => and_congr_right fun _ =>
    and_congr_right fun _ => checkedAdd_bounded_eq_ok).trans ?_
  simp only [UInt64.lt_iff_toNat_lt, gt_iff_lt, Nat.not_lt, ne_eq, UInt16.toNat_toUInt64]

theorem validateFor_eq_ok {request : PullSamplesRequest} : header.validateFor request = .ok () ↔
    header.bootEpoch = request.bootEpoch ∧ header.validateStructure = .ok () ∧
      header.first = request.start ∧ header.sampleCount ≤ request.maxSamples := by
  rw [validateFor, guard_eq_ok]
  refine (and_congr_right fun _ => check_then_eq_ok).trans ?_
  simp only [guard_eq_ok, ne_eq, not_not, gt_iff_lt, UInt16.not_lt, and_true]
  constructor
  · rintro ⟨epoch, valid, -, first, limit⟩
    exact ⟨epoch, valid, first, limit⟩
  rintro ⟨epoch, valid, first, limit⟩
  refine ⟨epoch, valid, ?_, first, limit⟩
  rw [← first, UInt64.lt_iff_toNat_lt]
  have retained := (validateStructure_eq_ok.mp valid).2.2.2.1
  omega

end SampleChunkHeader

namespace GapEvidence

variable {gap : GapEvidence}

theorem validateStructure_eq_ok : gap.validateStructure = .ok () ↔
    gap.bootEpoch ≠ 0 ∧ gap.retainedFrom.toNat ≤ gap.produced.toNat ∧ gap.missingCount ≠ 0 ∧
      gap.reason ≠ .journalOverflow ∧ gap.retainedFrom.toNat ≤ gap.firstMissing.toNat ∧
      gap.firstMissing.toNat + gap.missingCount.toNat ≤ gap.produced.toNat := by
  rw [validateStructure, guard_eq_ok, guard_eq_ok, guard_eq_ok, guard_eq_ok, guard_eq_ok]
  refine (and_congr_right fun _ => and_congr_right fun _ => and_congr_right fun _ =>
    and_congr_right fun _ => and_congr_right fun _ => checkedAdd_bounded_eq_ok).trans ?_
  simp only [UInt64.lt_iff_toNat_lt, gt_iff_lt, Nat.not_lt, ne_eq]

theorem validateFor_eq_ok {request : PullSamplesRequest} : gap.validateFor request = .ok () ↔
    gap.bootEpoch = request.bootEpoch ∧ gap.validateStructure = .ok () ∧
      gap.firstMissing = request.start := by
  rw [validateFor, guard_eq_ok]
  refine (and_congr_right fun _ => check_then_eq_ok).trans ?_
  simp only [guard_eq_ok, ne_eq, not_not, and_true]
  constructor
  · rintro ⟨epoch, valid, -, first⟩
    exact ⟨epoch, valid, first⟩
  rintro ⟨epoch, valid, first⟩
  refine ⟨epoch, valid, ?_, first⟩
  rw [← first, UInt64.lt_iff_toNat_lt]
  have retained := (validateStructure_eq_ok.mp valid).2.2.2.2.1
  omega

end GapEvidence

namespace ContinuityBreakEvidence

variable {mark : ContinuityBreakEvidence}

theorem validateStructure_eq_ok : mark.validateStructure = .ok () ↔
    mark.bootEpoch ≠ 0 ∧ mark.retainedFrom.toNat ≤ mark.produced.toNat ∧
      mark.retainedFrom.toNat ≤ mark.at_.toNat ∧ mark.at_.toNat + 1 ≤ mark.produced.toNat := by
  rw [validateStructure, guard_eq_ok, guard_eq_ok, guard_eq_ok]
  refine (and_congr_right fun _ => and_congr_right fun _ => and_congr_right fun _ =>
    checkedAdd_bounded_eq_ok).trans ?_
  simp only [UInt64.lt_iff_toNat_lt, gt_iff_lt, Nat.not_lt, ne_eq, UInt64.toNat_one]

theorem validateFor_eq_ok {request : PullSamplesRequest} : mark.validateFor request = .ok () ↔
    mark.bootEpoch = request.bootEpoch ∧ mark.validateStructure = .ok () ∧
      mark.at_ = request.start := by
  rw [validateFor, guard_eq_ok]
  refine (and_congr_right fun _ => check_then_eq_ok).trans ?_
  simp only [guard_eq_ok, ne_eq, not_not, and_true]
  constructor
  · rintro ⟨epoch, valid, -, first⟩
    exact ⟨epoch, valid, first⟩
  rintro ⟨epoch, valid, first⟩
  refine ⟨epoch, valid, ?_, first⟩
  rw [← first, UInt64.lt_iff_toNat_lt]
  have retained := (validateStructure_eq_ok.mp valid).2.2.1
  omega

end ContinuityBreakEvidence
end SensorSystem.Host
