import SensorSystem.Node.Measurement.DeliverySession
import SensorSystem.Host.Capture.CaptureExport

/-! The node measures its samples against a line of whole steps; the export of the host draws the
same line again. The recorded residual bounds what the two differ by. -/

namespace SensorSystem.System

open Base UInt64
open Node
open Host (interpolateDeviceTime interpolateDeviceTime_spec spanShare
  spanShare_eq_steps spanShare_le spanShare_mono spanShare_zero spanShare_last)

/-- The line `summarize_timing` measures against. -/
def fitBetween (first last : UInt64) (count : Nat) : TimingFit :=
  ⟨first, UInt64.ofNat (count - 1), (last - first) / UInt64.ofNat (count - 1),
    (last - first) % UInt64.ofNat (count - 1)⟩

/-- No step of the evaluation at an index wraps. -/
structure Exact (fit : TimingFit) (index : UInt64) : Prop where
  whole : (fit.wholeStep * index).toNat = fit.wholeStep.toNat * index.toNat
  scaled : (fit.remainder * index).toNat = fit.remainder.toNat * index.toNat
  rounding : (fit.remainder * index + fit.intervals / 2).toNat =
    (fit.remainder * index).toNat + (fit.intervals / 2).toNat
  advance : (fit.start + fit.wholeStep * index).toNat =
    fit.start.toNat + (fit.wholeStep * index).toNat
  expected : (fit.start + fit.wholeStep * index +
      (fit.remainder * index + fit.intervals / 2) / fit.intervals).toNat =
    (fit.start + fit.wholeStep * index).toNat +
      ((fit.remainder * index + fit.intervals / 2) / fit.intervals).toNat

variable {first last : UInt64} {count index : Nat}

theorem fitBetween_exact (ordered : first ≤ last) (several : 1 < count) (wide : count < 2 ^ 32)
    (inside : index < count) : Exact (fitBetween first last count) (UInt64.ofNat index) ∧
      (first + (fitBetween first last count).wholeStep * UInt64.ofNat index +
        ((fitBetween first last count).remainder * UInt64.ofNat index +
          UInt64.ofNat (count - 1) / 2) / UInt64.ofNat (count - 1)).toNat =
        first.toNat + spanShare (last.toNat - first.toNat) (count - 1) index := by
  have le : first.toNat ≤ last.toNat := le_iff_toNat_le.mp ordered
  have bound : last.toNat < 2 ^ 64 := last.toNat_lt
  have positive : 0 < count - 1 := by omega
  have place : (UInt64.ofNat index).toNat = index :=
    toNat_ofNat_of_lt' (show index < 2 ^ 64 by omega)
  have intervals : (UInt64.ofNat (count - 1)).toNat = count - 1 :=
    toNat_ofNat_of_lt' (show count - 1 < 2 ^ 64 by omega)
  have span : (last - first).toNat = last.toNat - first.toNat :=
    UInt64.toNat_sub_of_le _ _ ordered
  have steps := spanShare_eq_steps positive (last.toNat - first.toNat) index
  have share := spanShare_le positive (show index ≤ count - 1 by omega)
    (last.toNat - first.toNat)
  have walked : (last.toNat - first.toNat) / (count - 1) * index ≤ last.toNat - first.toNat :=
    calc (last.toNat - first.toNat) / (count - 1) * index
        ≤ spanShare (last.toNat - first.toNat) (count - 1) index := by
          rw [steps]
          exact Nat.le_add_right _ _
      _ ≤ last.toNat - first.toNat := share
  have wholeStep : (fitBetween first last count).wholeStep.toNat =
      (last.toNat - first.toNat) / (count - 1) := by
    rw [fitBetween, UInt64.toNat_div, span, intervals]
  have remainder : (fitBetween first last count).remainder.toNat =
      (last.toNat - first.toNat) % (count - 1) := by
    rw [fitBetween, UInt64.toNat_mod, span, intervals]
  have rest : (last.toNat - first.toNat) % (count - 1) * index ≤ (2 ^ 32 - 1) * (2 ^ 32 - 1) :=
    Nat.mul_le_mul (by have := Nat.mod_lt (last.toNat - first.toNat) positive; omega) (by omega)
  have half : (UInt64.ofNat (count - 1) / 2).toNat = (count - 1) / 2 := by
    rw [UInt64.toNat_div, intervals]
    rfl
  have whole : ((fitBetween first last count).wholeStep * UInt64.ofNat index).toNat =
      (last.toNat - first.toNat) / (count - 1) * index := by
    rw [UInt64.toNat_mul, wholeStep, place, Nat.mod_eq_of_lt (by omega)]
  have scaled : ((fitBetween first last count).remainder * UInt64.ofNat index).toNat =
      (last.toNat - first.toNat) % (count - 1) * index := by
    rw [UInt64.toNat_mul, remainder, place, Nat.mod_eq_of_lt (by omega)]
  have rounding : ((fitBetween first last count).remainder * UInt64.ofNat index +
      UInt64.ofNat (count - 1) / 2).toNat =
      (last.toNat - first.toNat) % (count - 1) * index + (count - 1) / 2 := by
    rw [UInt64.toNat_add, scaled, half, Nat.mod_eq_of_lt (by omega)]
  have quotient : (((fitBetween first last count).remainder * UInt64.ofNat index +
      UInt64.ofNat (count - 1) / 2) / UInt64.ofNat (count - 1)).toNat =
      ((last.toNat - first.toNat) % (count - 1) * index + (count - 1) / 2) / (count - 1) := by
    rw [UInt64.toNat_div, rounding, intervals]
  have advance : (first + (fitBetween first last count).wholeStep * UInt64.ofNat index).toNat =
      first.toNat + (last.toNat - first.toNat) / (count - 1) * index := by
    rw [UInt64.toNat_add, whole, Nat.mod_eq_of_lt (by omega)]
  have expected : (first + (fitBetween first last count).wholeStep * UInt64.ofNat index +
      ((fitBetween first last count).remainder * UInt64.ofNat index +
        UInt64.ofNat (count - 1) / 2) / UInt64.ofNat (count - 1)).toNat =
      first.toNat + spanShare (last.toNat - first.toNat) (count - 1) index := by
    rw [UInt64.toNat_add, advance, quotient, Nat.mod_eq_of_lt (by omega)]
    omega
  refine ⟨⟨?_, ?_, ?_, ?_, ?_⟩, expected⟩
  · rw [whole, wholeStep, place]
  · rw [scaled, remainder, place]
  · exact rounding.trans (by rw [scaled]; exact congrArg _ half.symm)
  · exact advance.trans (by rw [whole]; rfl)
  · refine expected.trans ?_
    refine Eq.trans ?_ (congrArg₂ (· + ·) advance.symm quotient.symm)
    omega

/-- A residual below its bound is the distance from the line. -/
theorem residual_spec (ordered : first ≤ last) (several : 1 < count) (wide : count < 2 ^ 32)
    (inside : index < count) (actual : UInt64) {time : UInt64}
    (exported : time.toNat = first.toNat + spanShare (last.toNat - first.toNat) (count - 1) index)
    (bounded : (fitBetween first last count).residual (UInt64.ofNat index) actual ≠ 0xffffffff) :
    ((fitBetween first last count).residual (UInt64.ofNat index) actual).toNat =
      ((time.toNat : Int) - actual.toNat).natAbs := by
  obtain ⟨-, expected⟩ := fitBetween_exact ordered several wide inside
  rw [← exported] at expected
  have same : first + (fitBetween first last count).wholeStep * UInt64.ofNat index +
      ((fitBetween first last count).remainder * UInt64.ofNat index +
        UInt64.ofNat (count - 1) / 2) / UInt64.ofNat (count - 1) = time :=
    UInt64.toNat_inj.mp expected
  have unfolded : (fitBetween first last count).residual (UInt64.ofNat index) actual =
      if (if actual > time then actual - time else time - actual) > 0xffffffff then 0xffffffff
      else (if actual > time then actual - time else time - actual).toUInt32 := by
    rw [← same]
    rfl
  have distance : (if actual > time then actual - time else time - actual).toNat =
      ((time.toNat : Int) - actual.toNat).natAbs := by
    split
    · rename_i behind
      have lt := lt_iff_toNat_lt.mp behind
      rw [UInt64.toNat_sub_of_le _ _ (UInt64.le_of_lt behind)]
      omega
    rename_i ahead
    have le := le_iff_toNat_le.mp (UInt64.not_lt.mp ahead)
    rw [UInt64.toNat_sub_of_le _ _ (UInt64.not_lt.mp ahead)]
    omega
  rw [unfolded] at bounded ⊢
  generalize (if actual > time then actual - time else time - actual) = apart at *
  split at bounded
  · exact absurd rfl bounded
  · rename_i small
    have le : apart.toNat ≤ 0xffffffff := le_iff_toNat_le.mp (UInt64.not_lt.mp small)
    rw [if_neg small, toNat_toUInt32, distance, Nat.mod_eq_of_lt (by omega)]

variable {view : MeasurementReadView}

theorem timingLoop_spec {fit : TimingFit} {remaining : Nat} {output result : TimingSummary}
    {allValid valid : Bool} {previous : UInt64}
    (done : timingLoop view fit remaining index output allValid previous = .ok (result, valid)) :
    result.firstDeviceTimeUs = output.firstDeviceTimeUs ∧
      result.lastDeviceTimeUs = output.lastDeviceTimeUs ∧
      output.maxFitResidualUs ≤ result.maxFitResidualUs ∧
      ∀ place, index ≤ place → place < index + remaining →
        fit.residual (UInt64.ofNat place) (sampleAt view place).deviceTimeUs ≤
          result.maxFitResidualUs := by
  induction remaining generalizing index output allValid previous with
  | zero =>
    cases done
    exact ⟨rfl, rfl, UInt32.le_refl _, fun place early late => by omega⟩
  | succ remaining ih =>
    rw [timingLoop] at done
    split at done
    · cases done
    obtain ⟨first, last, grown, residuals⟩ := ih done
    refine ⟨first, last, ?_, fun place early late => ?_⟩
    · refine UInt32.le_trans ?_ grown
      split
      · rename_i above
        exact UInt32.le_of_lt above
      · exact UInt32.le_refl _
    rcases Nat.eq_or_lt_of_le early with rfl | behind
    · refine UInt32.le_trans ?_ grown
      split
      · exact UInt32.le_refl _
      rename_i below
      exact UInt32.not_lt.mp below
    · exact residuals place behind (by omega)

/-- What a summary says of the samples it was made from. -/
structure Summarizes (view : MeasurementReadView) (summary : TimingSummary) : Prop where
  positive : 0 < view.sampleCount
  first : summary.firstDeviceTimeUs = (sampleAt view 0).deviceTimeUs
  last : summary.lastDeviceTimeUs = (sampleAt view (view.sampleCount - 1)).deviceTimeUs
  ordered : summary.firstDeviceTimeUs ≤ summary.lastDeviceTimeUs
  residual : ∀ place, 0 < place → place < view.sampleCount →
    (fitBetween summary.firstDeviceTimeUs summary.lastDeviceTimeUs view.sampleCount).residual
      (UInt64.ofNat place) (sampleAt view place).deviceTimeUs ≤ summary.maxFitResidualUs

theorem summarizes_of {summary : TimingSummary} (summarized : summarizeTiming view = .ok summary) :
    Summarizes view summary := by
  unfold summarizeTiming at summarized
  dsimp only at summarized
  split at summarized
  · cases summarized
  rename_i nonempty
  split at summarized
  · cases summarized
  rename_i ordered
  split at summarized
  · rename_i single
    cases summarized
    exact ⟨Nat.pos_of_ne_zero nonempty, rfl, rfl, UInt64.not_lt.mp ordered,
      fun place early late => by omega⟩
  rename_i several
  cases loop : timingLoop view
      (fitBetween (sampleAt view 0).deviceTimeUs
        (sampleAt view (view.sampleCount - 1)).deviceTimeUs view.sampleCount)
      (view.sampleCount - 1) 1
      { firstDeviceTimeUs := (sampleAt view 0).deviceTimeUs
        lastDeviceTimeUs := (sampleAt view (view.sampleCount - 1)).deviceTimeUs
        qualityFlags := (sampleAt view 0).timingQualityFlags }
      ((sampleAt view 0).timingQualityFlags &&& timingValidFlag != 0)
      (sampleAt view 0).deviceTimeUs with
  | error error =>
    rw [fitBetween] at loop
    rw [loop] at summarized
    cases summarized
  | ok result =>
    obtain ⟨output, valid⟩ := result
    obtain ⟨first, last, -, residuals⟩ := timingLoop_spec loop
    have kept : summary.firstDeviceTimeUs = output.firstDeviceTimeUs ∧
        summary.lastDeviceTimeUs = output.lastDeviceTimeUs ∧
        summary.maxFitResidualUs = output.maxFitResidualUs := by
      rw [fitBetween] at loop
      rw [loop] at summarized
      dsimp only at summarized
      split at summarized
      · cases summarized
        exact ⟨rfl, rfl, rfl⟩
      split at summarized
      · cases summarized
      · cases summarized
        exact ⟨rfl, rfl, rfl⟩
    refine ⟨Nat.pos_of_ne_zero nonempty, kept.1.trans first, kept.2.1.trans last, ?_, ?_⟩
    · rw [kept.1, kept.2.1, first, last]
      exact UInt64.not_lt.mp ordered
    · intro place early late
      rw [kept.1, kept.2.1, kept.2.2, first, last]
      exact residuals place early (by omega)

/-- The chunk the host stores shows the summary of the node's samples. -/
structure StoredFrom (view : MeasurementReadView) (summary : TimingSummary)
    (chunk : Host.SampleChunk) : Prop where
  first : chunk.timing.firstDeviceTimeUs = summary.firstDeviceTimeUs
  last : chunk.timing.lastDeviceTimeUs = summary.lastDeviceTimeUs
  residual : chunk.timing.maxFitResidualUs = summary.maxFitResidualUs
  count : chunk.samples.length = view.sampleCount

/-- The export never runs out of its integers. -/
theorem interpolateDeviceTime_bounded (first last : UInt64) (wide : count < 2 ^ 32) (index : Nat) :
    interpolateDeviceTime first last count index ≠ .error .counterOverflow := by
  intro overflow
  by_cases refused : count = 0 ∨ index ≥ count ∨ last < first
  · rw [interpolateDeviceTime, if_pos refused] at overflow
    cases overflow
  simp only [not_or] at refused
  obtain ⟨nonempty, inside, ordered⟩ := refused
  by_cases single : count = 1
  · rw [interpolateDeviceTime, if_neg (by simp only [not_or]; exact ⟨nonempty, inside, ordered⟩),
      if_pos single] at overflow
    split at overflow <;> cases overflow
  obtain ⟨time, done, -⟩ := interpolateDeviceTime_spec (UInt64.not_lt.mp ordered)
    (Nat.lt_of_not_ge inside) single (by omega)
  rw [done] at overflow
  cases overflow

/-- The device times of the export stay within the residual the node recorded, rise with the
index and meet the node's at both ends. Nothing wraps on the node and nothing overflows on the
host. A count of the node is a `size_t` of 32 bits. -/
theorem exported_times_within_residual {view : MeasurementReadView} {summary : TimingSummary}
    {chunk : Host.SampleChunk} (summarized : summarizeTiming view = .ok summary)
    (stored : StoredFrom view summary chunk) (wide : view.sampleCount < 2 ^ 32) :
    (∃ times : Nat → UInt64,
      (∀ index < chunk.samples.length,
        interpolateDeviceTime chunk.timing.firstDeviceTimeUs chunk.timing.lastDeviceTimeUs
          chunk.samples.length index = .ok (times index)) ∧
      (chunk.timing.maxFitResidualUs ≠ 0xffffffff → ∀ index < chunk.samples.length,
        (((times index).toNat : Int) - (sampleAt view index).deviceTimeUs.toNat).natAbs ≤
          chunk.timing.maxFitResidualUs.toNat) ∧
      (∀ earlier later, earlier ≤ later → later < chunk.samples.length →
        times earlier ≤ times later) ∧
      times 0 = (sampleAt view 0).deviceTimeUs ∧
      times (chunk.samples.length - 1) =
        (sampleAt view (view.sampleCount - 1)).deviceTimeUs) ∧
    (∀ (first last : UInt64) (count index : Nat), first ≤ last → 1 < count →
      count < 2 ^ 32 → index < count →
        Exact (fitBetween first last count) (UInt64.ofNat index)) ∧
    ∀ (first last : UInt64) (count index : Nat), count < 2 ^ 32 →
      interpolateDeviceTime first last count index ≠ .error .counterOverflow := by
  refine ⟨?_, fun first last count index ordered several wide inside =>
    (fitBetween_exact ordered several wide inside).1,
    fun first last count index wide => interpolateDeviceTime_bounded first last wide index⟩
  have summarizes := summarizes_of summarized
  have positive := summarizes.positive
  rw [stored.first, stored.last, stored.residual, stored.count]
  by_cases single : view.sampleCount = 1
  · have same : summary.firstDeviceTimeUs = summary.lastDeviceTimeUs := by
      rw [summarizes.first, summarizes.last, single]
    refine ⟨fun _ => summary.firstDeviceTimeUs, fun index inside => ?_, fun _ index inside => ?_,
      fun _ _ _ _ => UInt64.le_refl _, summarizes.first, ?_⟩
    · obtain rfl : index = 0 := by omega
      rw [single, ← same, interpolateDeviceTime, if_neg (by simp), if_pos rfl, if_pos (by simp)]
    · obtain rfl : index = 0 := by omega
      rw [summarizes.first, Int.sub_self]
      exact Nat.zero_le _
    · rw [single]
      exact summarizes.first
  · -- Between two anchors every time is the share of the span that falls on its index.
    let times : Nat → UInt64 := fun index =>
      (interpolateDeviceTime summary.firstDeviceTimeUs summary.lastDeviceTimeUs view.sampleCount
        index).toOption.getD 0
    have spec : ∀ index < view.sampleCount,
        interpolateDeviceTime summary.firstDeviceTimeUs summary.lastDeviceTimeUs
          view.sampleCount index = .ok (times index) ∧
        (times index).toNat = summary.firstDeviceTimeUs.toNat +
          spanShare (summary.lastDeviceTimeUs.toNat - summary.firstDeviceTimeUs.toNat)
            (view.sampleCount - 1) index := by
      intro index inside
      obtain ⟨time, done, share⟩ :=
        interpolateDeviceTime_spec summarizes.ordered inside single (by omega)
      have same : times index = time := by simp only [times, done]; rfl
      rw [same]
      exact ⟨done, share⟩
    have intervals : 0 < view.sampleCount - 1 := by omega
    have first : times 0 = summary.firstDeviceTimeUs := by
      apply UInt64.toNat_inj.mp
      rw [(spec 0 positive).2, spanShare_zero intervals, Nat.add_zero]
    have last : times (view.sampleCount - 1) = summary.lastDeviceTimeUs := by
      apply UInt64.toNat_inj.mp
      rw [(spec _ (by omega)).2, spanShare_last intervals]
      have := UInt64.le_iff_toNat_le.mp summarizes.ordered
      omega
    refine ⟨times, fun index inside => (spec index inside).1, fun unsaturated index inside => ?_,
      fun earlier later le inside => ?_, first.trans summarizes.first, last.trans summarizes.last⟩
    · rcases Nat.eq_zero_or_pos index with rfl | behind
      · rw [first, summarizes.first, Int.sub_self]
        exact Nat.zero_le _
      have residual := summarizes.residual index behind inside
      have small : (fitBetween summary.firstDeviceTimeUs summary.lastDeviceTimeUs
          view.sampleCount).residual (UInt64.ofNat index)
          (sampleAt view index).deviceTimeUs ≠ 0xffffffff := by
        intro saturated
        rw [saturated] at residual
        have le := UInt32.le_iff_toNat_le.mp residual
        have bound := summary.maxFitResidualUs.toNat_lt
        have top : (0xffffffff : UInt32).toNat = 2 ^ 32 - 1 := rfl
        exact unsaturated (UInt32.toNat_inj.mp (by omega))
      rw [← residual_spec summarizes.ordered (by omega) wide inside _ (spec index inside).2 small]
      exact UInt32.le_iff_toNat_le.mp residual
    · rw [UInt64.le_iff_toNat_le, (spec later inside).2, (spec earlier (by omega)).2]
      exact Nat.add_le_add_left (spanShare_mono _ _ le) _

/-- Three samples, the middle one a microsecond off the line. -/
def threeSamples : MeasurementReadView :=
  ⟨.samples, 0, 0, 0, 0, [{ deviceTimeUs := 100, timingQualityFlags := 1 },
    { deviceTimeUs := 104, timingQualityFlags := 1 }],
    [{ deviceTimeUs := 110, timingQualityFlags := 1 }], {}, {}⟩

def atRest : Host.SampleAxis := .zero

theorem exported_times_within_residual_of_three :
    ∃ time, interpolateDeviceTime 100 110 3 1 = .ok time ∧
      ((time.toNat : Int) - (sampleAt threeSamples 1).deviceTimeUs.toNat).natAbs ≤ 1 := by
  obtain ⟨⟨times, exported, within, -⟩, -⟩ :=
    @exported_times_within_residual threeSamples ⟨100, 110, 1, 1⟩
      ⟨⟨1, 0, 3, 0, 3⟩, 1, ⟨1, 100, 110, 1, 1⟩, List.replicate 3 ⟨atRest, atRest, atRest⟩⟩
      (by decide) ⟨rfl, rfl, rfl, rfl⟩ (by decide)
  exact ⟨times 1, exported 1 (by decide), within (by decide) 1 (by decide)⟩

end SensorSystem.System
