import SensorSystem.Node.Measurement.DeliveryPlans
import SensorSystem.System.ExportedTimes

/-! When `summarize_timing` has a summary for the samples of a chunk, and what the summary says of
them. The samples lie in two spans that the summary does not tell apart. -/

namespace SensorSystem.System

open Node UInt64
open Host (spanShare spanShare_zero)

/-- The time of a sample. -/
def timeAt (view : MeasurementReadView) (index : Nat) : UInt64 :=
  (sampleAt view index).deviceTimeUs

def validAt (view : MeasurementReadView) (index : Nat) : Bool :=
  (sampleAt view index).timingQualityFlags &&& timingValidFlag != 0

/-- The rounded line through the first and the last sample. -/
def lineAt (view : MeasurementReadView) (index : Nat) : Nat :=
  (timeAt view 0).toNat +
    spanShare ((timeAt view (view.sampleCount - 1)).toNat - (timeAt view 0).toNat)
      (view.sampleCount - 1) index

def lineDistance (view : MeasurementReadView) (index : Nat) : Nat :=
  ((lineAt view index : Int) - (timeAt view index).toNat).natAbs

def NonDecreasing (view : MeasurementReadView) : Prop :=
  ∀ earlier later, earlier ≤ later → later < view.sampleCount →
    timeAt view earlier ≤ timeAt view later

def AllValid (view : MeasurementReadView) : Prop :=
  ∀ index < view.sampleCount, validAt view index = true

section Loop

variable {view : MeasurementReadView} {fit : TimingFit} {remaining index : Nat}
  {output result : TimingSummary} {allValid valid : Bool} {previous : UInt64}

/-- The loop gets through times that do not fall. -/
theorem timingLoop_total (behind : 0 < remaining → previous ≤ timeAt view index)
    (steps : ∀ place, index ≤ place → place + 1 < index + remaining →
      timeAt view place ≤ timeAt view (place + 1)) :
    ∃ result valid, timingLoop view fit remaining index output allValid previous =
      .ok (result, valid) := by
  induction remaining generalizing index output allValid previous with
  | zero => exact ⟨output, allValid, rfl⟩
  | succ remaining ih =>
    rw [timingLoop]
    have le : ¬ (sampleAt view index).deviceTimeUs < previous :=
      UInt64.not_lt.mpr (behind (Nat.succ_pos remaining))
    rw [if_neg le]
    exact ih (fun more => steps index (Nat.le_refl index) (by omega))
      fun place early late => steps place (by omega) (by omega)

/-- What a loop that got through has seen. -/
theorem timingLoop_seen
    (done : timingLoop view fit remaining index output allValid previous = .ok (result, valid)) :
    (0 < remaining → previous ≤ timeAt view index) ∧
      (∀ place, index ≤ place → place + 1 < index + remaining →
        timeAt view place ≤ timeAt view (place + 1)) ∧
      (valid = true ↔ allValid = true ∧
        ∀ place, index ≤ place → place < index + remaining → validAt view place = true) ∧
      (result.maxFitResidualUs = output.maxFitResidualUs ∨
        ∃ place, index ≤ place ∧ place < index + remaining ∧
          result.maxFitResidualUs = fit.residual (ofNat place) (timeAt view place)) := by
  induction remaining generalizing index output allValid previous with
  | zero =>
    cases done
    exact ⟨fun none => absurd none (Nat.lt_irrefl 0), fun place early late => by omega,
      ⟨fun set => ⟨set, fun place early late => by omega⟩, And.left⟩, .inl rfl⟩
  | succ remaining ih =>
    rw [timingLoop] at done
    split at done
    · cases done
    rename_i falls
    obtain ⟨next, steps, flags, attained⟩ := ih done
    refine ⟨fun _ => UInt64.not_lt.mp falls, fun place early late => ?_, ?_, ?_⟩
    · rcases Nat.eq_or_lt_of_le early with rfl | later
      · exact next (by omega)
      · exact steps place later (by omega)
    · rw [flags, Bool.and_eq_true]
      constructor
      · rintro ⟨⟨before, here⟩, rest⟩
        refine ⟨before, fun place early late => ?_⟩
        rcases Nat.eq_or_lt_of_le early with rfl | later
        · exact here
        · exact rest place later (by omega)
      · rintro ⟨before, rest⟩
        exact ⟨⟨before, rest index (Nat.le_refl index) (by omega)⟩,
          fun place early late => rest place (by omega) (by omega)⟩
    · rcases attained with kept | ⟨place, early, late, same⟩
      · dsimp only at kept
        split at kept
        · exact .inr ⟨index, Nat.le_refl index, by omega, kept⟩
        · exact .inl kept
      · exact .inr ⟨place, by omega, by omega, same⟩

end Loop

/-- A residual is the distance from the line, cut off. -/
theorem residual_toNat {first last : UInt64} {count index : Nat} (ordered : first ≤ last)
    (several : 1 < count) (wide : count < 2 ^ 32) (inside : index < count) (actual : UInt64) :
    ((fitBetween first last count).residual (ofNat index) actual).toNat =
      min 0xffffffff (((first.toNat + spanShare (last.toNat - first.toNat) (count - 1) index :
        Nat) : Int) - actual.toNat).natAbs := by
  obtain ⟨-, expected⟩ := fitBetween_exact ordered several wide inside
  rw [← expected]
  generalize shown : first + (fitBetween first last count).wholeStep * ofNat index +
    ((fitBetween first last count).remainder * ofNat index +
      ofNat (count - 1) / 2) / ofNat (count - 1) = time
  have unfolded : (fitBetween first last count).residual (ofNat index) actual =
      if (if actual > time then actual - time else time - actual) > 0xffffffff then 0xffffffff
      else (if actual > time then actual - time else time - actual).toUInt32 := by
    rw [← shown]
    rfl
  have distance : (if actual > time then actual - time else time - actual).toNat =
      ((time.toNat : Int) - actual.toNat).natAbs := by
    split
    · rename_i behind
      have lt := lt_iff_toNat_lt.mp behind
      rw [UInt64.toNat_sub_of_le _ _ (UInt64.le_of_lt behind)]
      omega
    rename_i ahead
    have le := UInt64.le_iff_toNat_le.mp (UInt64.not_lt.mp ahead)
    rw [UInt64.toNat_sub_of_le _ _ (UInt64.not_lt.mp ahead)]
    omega
  rw [unfolded, ← distance]
  generalize (if actual > time then actual - time else time - actual) = apart
  have top : (0xffffffff : UInt64).toNat = 0xffffffff := rfl
  split
  · rename_i above
    have lt := lt_iff_toNat_lt.mp above
    rw [top] at lt
    exact (Nat.min_eq_left (Nat.le_of_lt lt)).symm
  rename_i within
  have le := UInt64.le_iff_toNat_le.mp (UInt64.not_lt.mp within)
  rw [top] at le
  rw [toNat_toUInt32, Nat.mod_eq_of_lt (Nat.lt_succ_of_le le), Nat.min_eq_right le]

variable {view : MeasurementReadView}

theorem nonDecreasing_of_steps
    (steps : ∀ place, place + 1 < view.sampleCount → timeAt view place ≤ timeAt view (place + 1)) :
    NonDecreasing view := by
  intro earlier later le inside
  induction later, le using Nat.le_induction with
  | base => exact UInt64.le_refl _
  | succ later le ih => exact UInt64.le_trans (ih (by omega)) (steps later inside)

/-- The distance of the first sample is none. -/
theorem lineDistance_zero (view : MeasurementReadView) : lineDistance view 0 = 0 := by
  have start : lineAt view 0 = (timeAt view 0).toNat := by
    rw [lineAt]
    rcases Nat.eq_zero_or_pos (view.sampleCount - 1) with single | several
    · rw [single, spanShare, Nat.div_zero, Nat.add_zero]
    · rw [spanShare_zero several, Nat.add_zero]
  rw [lineDistance, start, Int.sub_self]
  rfl

/-- What `summarize_timing` has done at the end of the loop. -/
theorem summarizeTiming_eq_loop (nonempty : 1 < view.sampleCount)
    (ordered : timeAt view 0 ≤ timeAt view (view.sampleCount - 1)) : summarizeTiming view =
      match timingLoop view
          (fitBetween (timeAt view 0) (timeAt view (view.sampleCount - 1)) view.sampleCount)
          (view.sampleCount - 1) 1
          { firstDeviceTimeUs := timeAt view 0
            lastDeviceTimeUs := timeAt view (view.sampleCount - 1)
            qualityFlags := (sampleAt view 0).timingQualityFlags }
          (validAt view 0) (timeAt view 0) with
      | .error error => .error error
      | .ok (output, allValid) =>
        if !allValid then
          .ok { output with qualityFlags := output.qualityFlags &&& ~~~timingValidFlag }
        else if timeAt view (view.sampleCount - 1) - timeAt view 0 = 0 then
          .error .invalidValidAnchors
        else .ok output := by
  have rises : ¬ (sampleAt view (view.sampleCount - 1)).deviceTimeUs <
      (sampleAt view 0).deviceTimeUs := UInt64.not_lt.mpr ordered
  unfold summarizeTiming
  rw [if_neg (by omega), if_neg rises, if_neg (by omega)]
  rfl

/-- All samples have a valid timing, and there are several of one time. -/
def Collapsed (view : MeasurementReadView) : Prop :=
  AllValid view ∧ 1 < view.sampleCount ∧ timeAt view (view.sampleCount - 1) = timeAt view 0

/-- What a summary tells of the samples. -/
structure Tells (view : MeasurementReadView) (summary : TimingSummary) : Prop where
  first : summary.firstDeviceTimeUs = timeAt view 0
  last : summary.lastDeviceTimeUs = timeAt view (view.sampleCount - 1)
  bounds : ∀ index < view.sampleCount,
    min 0xffffffff (lineDistance view index) ≤ summary.maxFitResidualUs.toNat
  attained : ∃ index < view.sampleCount,
    summary.maxFitResidualUs.toNat = min 0xffffffff (lineDistance view index)

theorem summarizeTiming_single (single : view.sampleCount = 1) :
    NonDecreasing view ∧ ∃ summary, summarizeTiming view = .ok summary ∧ Tells view summary := by
  have last : view.sampleCount - 1 = 0 := by omega
  refine ⟨nonDecreasing_of_steps fun place inside => by omega,
    { firstDeviceTimeUs := timeAt view 0
      lastDeviceTimeUs := timeAt view 0
      qualityFlags := (sampleAt view 0).timingQualityFlags }, ?_, ⟨rfl, ?_, ?_, ?_⟩⟩
  · unfold summarizeTiming
    rw [if_neg (by omega), last, if_neg (UInt64.lt_irrefl _), if_pos single]
    rfl
  · rw [last]
  · intro index inside
    obtain rfl : index = 0 := by omega
    rw [lineDistance_zero]
    exact Nat.zero_le _
  · refine ⟨0, by omega, ?_⟩
    rw [lineDistance_zero]
    rfl

/-- A loop that got through leaves a summary of its samples. -/
theorem tells_of_loop {output : TimingSummary} {valid : Bool} (nonempty : 1 < view.sampleCount)
    (bounded : view.sampleCount ≤ 65535)
    (ordered : timeAt view 0 ≤ timeAt view (view.sampleCount - 1)) (done : timingLoop view
        (fitBetween (timeAt view 0) (timeAt view (view.sampleCount - 1)) view.sampleCount)
        (view.sampleCount - 1) 1
        { firstDeviceTimeUs := timeAt view 0
          lastDeviceTimeUs := timeAt view (view.sampleCount - 1)
          qualityFlags := (sampleAt view 0).timingQualityFlags }
        (validAt view 0) (timeAt view 0) = .ok (output, valid)) (flags : UInt16) :
    Tells view { output with qualityFlags := flags } := by
  obtain ⟨first, last, -, covers⟩ := timingLoop_spec done
  obtain ⟨-, -, -, attained⟩ := timingLoop_seen done
  have residual : ∀ place < view.sampleCount,
      ((fitBetween (timeAt view 0) (timeAt view (view.sampleCount - 1))
        view.sampleCount).residual (ofNat place) (timeAt view place)).toNat =
          min 0xffffffff (lineDistance view place) := fun place inside =>
    residual_toNat ordered nonempty (by omega) inside (timeAt view place)
  refine ⟨first, last, fun index inside => ?_, ?_⟩
  · rcases Nat.eq_zero_or_pos index with rfl | behind
    · rw [lineDistance_zero]
      exact Nat.zero_le _
    · rw [← residual index inside]
      exact UInt32.le_iff_toNat_le.mp (covers index behind (by omega))
  rcases attained with kept | ⟨place, early, late, same⟩
  · refine ⟨0, by omega, ?_⟩
    rw [lineDistance_zero]
    exact congrArg UInt32.toNat kept
  · have inside : place < view.sampleCount := by omega
    exact ⟨place, inside, (congrArg UInt32.toNat same).trans (residual place inside)⟩

theorem duration_eq_zero_iff (ordered : timeAt view 0 ≤ timeAt view (view.sampleCount - 1)) :
    timeAt view (view.sampleCount - 1) - timeAt view 0 = 0 ↔
      timeAt view (view.sampleCount - 1) = timeAt view 0 := by
  constructor
  · intro none
    have span := UInt64.toNat_sub_of_le _ _ ordered
    rw [none] at span
    have le := UInt64.le_iff_toNat_le.mp ordered
    have zero : (0 : UInt64).toNat = 0 := rfl
    exact UInt64.toNat_inj.mp (by omega)
  · intro same
    rw [same, UInt64.sub_self]

/-- Several samples have a summary when their times do not fall. -/
theorem summarizeTiming_several (nonempty : 1 < view.sampleCount)
    (bounded : view.sampleCount ≤ 65535) :
    ((∃ summary, summarizeTiming view = .ok summary) ↔ NonDecreasing view ∧ ¬ Collapsed view) ∧
      ∀ summary, summarizeTiming view = .ok summary → Tells view summary := by
  by_cases ordered : timeAt view 0 ≤ timeAt view (view.sampleCount - 1)
  · have unfolded := summarizeTiming_eq_loop nonempty ordered
    cases loop : timingLoop view
        (fitBetween (timeAt view 0) (timeAt view (view.sampleCount - 1)) view.sampleCount)
        (view.sampleCount - 1) 1
        { firstDeviceTimeUs := timeAt view 0
          lastDeviceTimeUs := timeAt view (view.sampleCount - 1)
          qualityFlags := (sampleAt view 0).timingQualityFlags }
        (validAt view 0) (timeAt view 0) with
    | error error =>
      rw [loop] at unfolded
      have falls : ¬ NonDecreasing view := by
        intro rises
        have steps : ∀ place, 1 ≤ place → place + 1 < 1 + (view.sampleCount - 1) →
            timeAt view place ≤ timeAt view (place + 1) := fun place _ late =>
          rises place (place + 1) (Nat.le_succ place) (by omega)
        obtain ⟨output, valid, through⟩ :=
          timingLoop_total (fun _ => rises 0 1 (Nat.zero_le 1) nonempty) steps
        rw [through] at loop
        cases loop
      refine ⟨⟨?_, fun ⟨rises, _⟩ => absurd rises falls⟩, ?_⟩
      · rintro ⟨summary, done⟩
        rw [unfolded] at done
        cases done
      · intro summary done
        rw [unfolded] at done
        cases done
    | ok outcome =>
      obtain ⟨output, valid⟩ := outcome
      rw [loop] at unfolded
      dsimp only at unfolded
      obtain ⟨next, steps, flags, -⟩ := timingLoop_seen loop
      have rises : NonDecreasing view := nonDecreasing_of_steps fun place inside => by
        rcases Nat.eq_zero_or_pos place with rfl | behind
        · exact next (by omega)
        · exact steps place behind (by omega)
      have all : valid = true ↔ AllValid view := by
        rw [flags]
        constructor
        · rintro ⟨first, rest⟩ index inside
          rcases Nat.eq_zero_or_pos index with rfl | behind
          · exact first
          · exact rest index behind (by omega)
        · intro every
          exact ⟨every 0 (by omega), fun place early late => every place (by omega)⟩
      rw [unfolded]
      cases valid with
      | false =>
        refine ⟨⟨fun _ => ⟨rises, fun ⟨every, _⟩ => ?_⟩, fun _ => ⟨_, rfl⟩⟩, ?_⟩
        · cases all.mpr every
        · rintro _ ⟨⟩
          exact tells_of_loop nonempty bounded ordered loop _
      | true =>
        rw [if_neg (by decide)]
        by_cases none : timeAt view (view.sampleCount - 1) - timeAt view 0 = 0
        · rw [if_pos none]
          refine ⟨⟨nofun, fun ⟨_, open_⟩ => absurd ?_ open_⟩, nofun⟩
          exact ⟨all.mp rfl, nonempty, (duration_eq_zero_iff ordered).mp none⟩
        rw [if_neg none]
        refine ⟨⟨fun _ => ⟨rises, fun collapsed => ?_⟩, fun _ => ⟨_, rfl⟩⟩, ?_⟩
        · exact none ((duration_eq_zero_iff ordered).mpr collapsed.2.2)
        · rintro _ ⟨⟩
          exact tells_of_loop nonempty bounded ordered loop output.qualityFlags
  · have reversed : summarizeTiming view = .error .reversedAnchors := by
      have falls : (sampleAt view (view.sampleCount - 1)).deviceTimeUs <
          (sampleAt view 0).deviceTimeUs := UInt64.not_le.mp ordered
      unfold summarizeTiming
      rw [if_neg (by omega), if_pos falls]
    rw [reversed]
    exact ⟨⟨nofun, fun ⟨rises, _⟩ => absurd (rises 0 _ (Nat.zero_le _) (by omega)) ordered⟩, nofun⟩

/-- The timing summary of a chunk: when there is one, what it tells, and that no step of the
line it is measured against wraps, whatever the times are. -/
theorem summarize_timing_spec (view : MeasurementReadView) (nonempty : 1 ≤ view.sampleCount)
    (bounded : view.sampleCount ≤ 65535) :
    ((∃ summary, summarizeTiming view = .ok summary) ↔ NonDecreasing view ∧ ¬ Collapsed view) ∧
      (∀ summary, summarizeTiming view = .ok summary → Tells view summary) ∧
      (1 < view.sampleCount → timeAt view 0 ≤ timeAt view (view.sampleCount - 1) →
        (timeAt view (view.sampleCount - 1) - timeAt view 0).toNat =
            (timeAt view (view.sampleCount - 1)).toNat - (timeAt view 0).toNat ∧
          ∀ index < view.sampleCount,
            Exact (fitBetween (timeAt view 0) (timeAt view (view.sampleCount - 1))
              view.sampleCount) (UInt64.ofNat index)) := by
  have exactness : 1 < view.sampleCount → timeAt view 0 ≤ timeAt view (view.sampleCount - 1) →
      (timeAt view (view.sampleCount - 1) - timeAt view 0).toNat =
          (timeAt view (view.sampleCount - 1)).toNat - (timeAt view 0).toNat ∧
        ∀ index < view.sampleCount,
          Exact (fitBetween (timeAt view 0) (timeAt view (view.sampleCount - 1))
            view.sampleCount) (UInt64.ofNat index) := fun several ordered =>
    ⟨UInt64.toNat_sub_of_le _ _ ordered,
      fun index inside => (fitBetween_exact ordered several (by omega) inside).1⟩
  rcases Nat.eq_or_lt_of_le nonempty with single | several
  · obtain ⟨rises, summary, done, tells⟩ := summarizeTiming_single single.symm
    refine ⟨⟨fun _ => ⟨rises, fun collapsed => ?_⟩, fun _ => ⟨summary, done⟩⟩, ?_, exactness⟩
    · have several := collapsed.2.1
      omega
    intro other same
    rw [done] at same
    cases same
    exact tells
  · obtain ⟨exists_, told⟩ := summarizeTiming_several several bounded
    exact ⟨exists_, told, exactness⟩

theorem summarize_timing_spec_of_three :
    ∃ summary, summarizeTiming threeSamples = .ok summary ∧ Tells threeSamples summary := by
  obtain ⟨-, told, -⟩ := summarize_timing_spec threeSamples (by decide) (by decide)
  exact ⟨⟨100, 110, 1, 1⟩, by decide, told _ (by decide)⟩

end SensorSystem.System
