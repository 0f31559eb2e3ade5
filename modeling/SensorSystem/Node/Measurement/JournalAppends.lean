import SensorSystem.Node.Measurement.JournalRefinement

/-! Each append that the reference log accepts is accepted by the journal, whatever its containers
hold: a full container first discards the oldest stretch that frees a place in it. Every other
append is refused and changes nothing. -/

namespace SensorSystem.Node

open List MeasurementJournal
open Base

namespace Represents

variable {capacity : JournalCapacity} {journal : MeasurementJournal capacity} {log : List Entry}

/-- The log grows by the appended entries, and what retention passed over is accounted as discarded.
-/
structure Appends (before after : MeasurementJournal capacity) (log added : List Entry)
    (result : StreamAppendResult) : Prop where
  status_eq : result.status = .ok
  represents : Represents after (log ++ added)
  retained_le : before.retainedFrom ≤ after.retainedFrom
  retained_within : after.retainedFrom ≤ log.length
  delivered_eq : after.delivered = before.delivered
  released_eq : after.released = before.released
  unprepared : after.preparedValid = false
  discardedSequences_eq : after.discardedSequences =
    before.discardedSequences + (after.retainedFrom - before.retainedFrom)
  discardedSamples_eq : after.discardedSamples = before.discardedSamples +
    (samplesOf ((log.drop before.retainedFrom).take
      (after.retainedFrom - before.retainedFrom))).length

variable (represents : Represents journal log)

include represents

theorem drop_append_retained (added : List Entry) :
    (log ++ added).drop journal.retainedFrom = log.drop journal.retainedFrom ++ added :=
  drop_append_of_le_length represents.retained_le

/-- Storing a sample in a ring with room extends the log by it. -/
theorem storeSample (room : journal.samples.size < capacity.samples)
    (space : log.length < uint64Max) (unprepared : journal.preparedValid = false) (sequence : Nat)
    (sample : SampleRecord) (collapsed : Bool) :
    Represents (journal.storeSample sequence sample collapsed).2 (log ++ [.sample sample]) where
  produced_eq := by simp [MeasurementJournal.storeSample, represents.produced_eq]
  log_bounded := by
    rw [length_append]
    exact space
  retained_le := by
    have := represents.retained_le
    simp only [MeasurementJournal.storeSample, length_append]
    omega
  released_le := represents.released_le
  delivered_le := by
    have := represents.delivered_le
    simp only [MeasurementJournal.storeSample, length_append]
    omega
  prepared_le := by simp [MeasurementJournal.storeSample, unprepared]
  samples_eq := by
    simp only [MeasurementJournal.storeSample]
    rw [Ring.toList_push _ _ room, represents.samples_eq, represents.drop_append_retained,
      samplesOf_append]
    rfl
  gaps_eq := by
    simp only [MeasurementJournal.storeSample]
    rw [represents.gaps_eq, represents.drop_append_retained, gapRuns_append_single _ _ rfl]
  breaks_eq := by
    simp only [MeasurementJournal.storeSample]
    rw [represents.breaks_eq, represents.drop_append_retained, breakMarks_append_of_free]
    simp [Entry.isBreak]

/-- Discarding the oldest sample of a full ring frees a slot. -/
theorem discard_oldest_sample (filled : journal.samples.size = capacity.samples) :
    ∃ kept, journal.firstSampleSequence < uint64Max ∧
      journal.discardRetentionBefore (journal.firstSampleSequence + 1) true = some kept ∧
      Discards journal kept log (journal.firstSampleSequence + 1) true ∧
      journal.retainedFrom ≤ journal.firstSampleSequence ∧
      kept.samples.size < capacity.samples := by
  have search := firstSampleLoop_spec journal.retainedFrom (log.drop journal.retainedFrom)
    (journal.gaps.size + journal.continuity.size + 1) 0 (Nat.zero_le _) (by
      rw [Nat.add_zero, drop_zero, ← represents.gaps_eq, ← represents.breaks_eq,
        GapLedger.length_toList, ContinuityLedger.length_toList]
      exact Nat.lt_succ_self _)
  have produced : journal.retainedFrom + (log.drop journal.retainedFrom).length =
      journal.produced := by
    have := represents.retained_le
    rw [length_drop, represents.produced_eq]
    omega
  rw [produced, Nat.add_zero, drop_zero, ← represents.gaps_eq, ← represents.breaks_eq,
    ← represents.samples_eq] at search
  change (∃ before record after, _ ∧ _ ∧ journal.firstSampleSequence = _) ∨ _ at search
  rcases search with ⟨before, record, after, shape, free, found⟩ | vacant
  · have lengths := congrArg length shape
    simp only [length_drop, length_append, length_cons] at lengths
    have bounded := represents.log_bounded
    obtain ⟨kept, discarded, effect⟩ := represents.discardRetentionBefore
      (journal.firstSampleSequence + 1) (by omega) (by omega) true
    refine ⟨kept, by omega, discarded, effect, by omega, ?_⟩
    have rest : log.drop (journal.firstSampleSequence + 1) = after := by
      have position : journal.firstSampleSequence + 1 =
          journal.retainedFrom + (before.length + 1) := by omega
      rw [position, ← drop_drop, shape, ← drop_drop, drop_left]
      rfl
    have size := congrArg length effect.represents.samples_eq
    have full := congrArg length represents.samples_eq
    rw [effect.retained_eq, rest, Ring.length_toList] at size
    rw [shape, samplesOf_append, free, Ring.length_toList] at full
    simp only [nil_append, samplesOf_sample, length_cons] at full
    omega
  · have positive := capacity.samplesPositive
    rw [← Ring.length_toList, vacant, length_nil] at filled
    omega

variable {sample : SampleRecord} {sequence : Nat}

/-- `append_sample` accepts exactly the next valid sample. -/
theorem appendSample_accepted (contiguous : sequence = log.length)
    (space : log.length < uint64Max) (valid : validSampleRecord sample = true) :
    Appends journal (journal.appendSample sequence sample).2 log [.sample sample]
      (journal.appendSample sequence sample).1 := by
  have contiguous' : ¬ sequence ≠ journal.produced := by
    rw [represents.produced_eq]
    exact not_not_intro contiguous
  have space' : ¬ journal.produced = uint64Max := by
    rw [represents.produced_eq]
    omega
  have fresh := represents.invalidatePreparedView
  rw [appendSample, if_neg contiguous', if_neg space', valid]
  simp only [Bool.not_true, Bool.false_eq_true, if_false]
  by_cases filled : journal.invalidatePreparedView.samples.size = capacity.samples
  · obtain ⟨kept, oldest, discarded, effect, retained, room⟩ := fresh.discard_oldest_sample filled
    rw [if_pos filled, if_neg (Nat.ne_of_lt oldest), discarded]
    refine ⟨rfl, effect.represents.storeSample room space effect.prepared_eq _ _ _, ?_, ?_,
      effect.delivered_eq, effect.released_eq, effect.prepared_eq, ?_, ?_⟩
    · change journal.retainedFrom ≤ kept.retainedFrom
      rw [effect.retained_eq]
      exact Nat.le_succ_of_le retained
    · exact effect.represents.retained_le
    · exact effect.discardedSequences_eq.trans (by rw [← effect.retained_eq]; rfl)
    · exact effect.discardedSamples_eq.trans (by rw [← effect.retained_eq]; rfl)
  · have room : journal.invalidatePreparedView.samples.size < capacity.samples :=
      Nat.lt_of_le_of_ne (Ring.sizeBounded _) filled
    rw [if_neg filled]
    refine ⟨rfl, fresh.storeSample room space rfl _ _ _, Nat.le_refl _, represents.retained_le,
      rfl, rfl, rfl, ?_, ?_⟩
    · simp [MeasurementJournal.storeSample, MeasurementJournal.invalidatePreparedView]
    · simp [MeasurementJournal.storeSample, MeasurementJournal.invalidatePreparedView, samplesOf]

/-- Gaps already recorded end at or before the produced cursor. -/
theorem last_gap_le : ∀ last ∈ journal.gaps.toList.getLast?, last.endSequence ≤ log.length := by
  intro last member
  have inLedger := mem_of_getLast? member
  rw [represents.gaps_eq] at inLedger
  have bounds := (bounds_of_mem_gapRuns inLedger).2
  have retained := represents.retained_le
  rw [length_drop] at bounds
  omega

theorem last_break_le :
    ∀ last ∈ journal.continuity.toList.getLast?, last.endSequence ≤ log.length := by
  intro last member
  have inLedger := mem_of_getLast? member
  rw [represents.breaks_eq] at inLedger
  have bounds := (le_atSequence_of_mem_breakMarks inLedger).2
  have retained := represents.retained_le
  rw [length_drop] at bounds
  omega

variable {gap : GapRecord} {value : ContinuityBreakRecord}

/-- Taking the gap extends the log by its cursors. -/
theorem storeGap {gaps : GapLedger capacity.gaps} (contiguous : gap.firstMissing = log.length)
    (valid : gap.valid = true) (unprepared : journal.preparedValid = false)
    (content : gaps.toList = GapLedger.appendIn journal.gaps.toList gap) :
    Represents { journal with gaps := gaps, produced := gap.endSequence }
      (log ++ replicate gap.missingCount (.gap gap.reason)) := by
  obtain ⟨positive, bounded, -⟩ := (GapRecord.valid_iff gap).mp valid
  have retained := represents.retained_le
  have delivered := represents.delivered_le
  have length : (log ++ replicate gap.missingCount (Entry.gap gap.reason)).length =
      gap.endSequence := by
    simp only [length_append, length_replicate, GapRecord.endSequence]
    omega
  have grown : gap.endSequence = log.length + gap.missingCount := by
    rw [GapRecord.endSequence, contiguous]
  exact {
    produced_eq := length.symm
    log_bounded := by rwa [length]
    retained_le := by
      rw [length]
      simp only
      omega
    released_le := represents.released_le
    delivered_le := by
      rw [length]
      simp only
      omega
    prepared_le := by simp [unprepared]
    samples_eq := by
      simp only
      rw [represents.drop_append_retained, samplesOf_append, represents.samples_eq]
      simp [samplesOf, Entry.sample?]
    gaps_eq := by
      rw [represents.drop_append_retained,
        gapRuns_append_replicate _ _ _ _ (Nat.pos_of_ne_zero positive), content,
        represents.gaps_eq, length_drop, Nat.add_sub_cancel' retained, ← contiguous]
    breaks_eq := by
      rw [represents.drop_append_retained, breakMarks_append_of_free, represents.breaks_eq]
      intro entry member
      rw [eq_of_mem_replicate member]
      rfl }

/-- Discarding the oldest gap of a full ledger frees a record. -/
theorem discard_oldest_gap (filled : journal.gaps.size = capacity.gaps) :
    ∃ oldest kept, journal.gaps.oldest = some oldest ∧
      journal.discardRetentionBefore oldest.endSequence true = some kept ∧
      Discards journal kept log oldest.endSequence true ∧
      journal.retainedFrom ≤ oldest.endSequence ∧ kept.gaps.size < capacity.gaps := by
  have positive := capacity.gapsPositive
  cases runs : journal.gaps.toList with
  | nil =>
    rw [← GapLedger.length_toList, runs, length_nil] at filled
    omega
  | cons oldest rest =>
    have ledger := represents.gaps_eq.symm.trans runs
    obtain ⟨before, after, shape, -, start, -, later⟩ := gapRuns_eq_cons ledger
    have bounds := bounds_of_mem_gapRuns (ledger ▸ mem_cons_self : oldest ∈ _)
    have lengths := congrArg length shape
    simp only [length_drop, length_append, length_replicate] at lengths
    have retained := represents.retained_le
    have ends : oldest.endSequence =
        journal.retainedFrom + (before.length + oldest.missingCount) := by
      simp only [GapRecord.endSequence]
      omega
    obtain ⟨kept, discarded, effect⟩ := represents.discardRetentionBefore
      oldest.endSequence (by omega) (by omega) true
    refine ⟨oldest, kept, ?_, discarded, effect, by omega, ?_⟩
    · rw [GapLedger.oldest_eq_head?, runs, head?_cons]
    have remaining : log.drop oldest.endSequence = after := by
      rw [ends, ← drop_drop, shape]
      exact drop_left' (by simp)
    have size := congrArg length effect.represents.gaps_eq
    rw [effect.retained_eq, remaining, later, GapLedger.length_toList] at size
    have full := congrArg length runs
    rw [GapLedger.length_toList, length_cons] at full
    omega

/-- `append_gap` accepts exactly the next valid gap. -/
theorem appendGap_accepted (contiguous : gap.firstMissing = log.length) (valid : gap.valid = true) :
    Appends journal (journal.appendGap gap).2 log
      (replicate gap.missingCount (.gap gap.reason)) (journal.appendGap gap).1 := by
  have contiguous' : ¬ gap.firstMissing ≠ journal.produced := by
    rw [represents.produced_eq]
    exact not_not_intro contiguous
  have fresh := represents.invalidatePreparedView
  have ordered : ∀ last ∈ journal.invalidatePreparedView.gaps.toList.getLast?,
      last.endSequence ≤ gap.firstMissing := contiguous ▸ fresh.last_gap_le
  rw [appendGap, valid, if_neg contiguous']
  simp only [Bool.not_true, Bool.false_eq_true, if_false]
  rcases GapLedger.append_spec _ gap valid ordered with
    ⟨refused, filled⟩ | ⟨status, next, taken, accepted, content⟩
  · obtain ⟨oldest, kept, found, discarded, effect, retained, room⟩ :=
      fresh.discard_oldest_gap filled
    have keptOrdered : ∀ last ∈ kept.gaps.toList.getLast?, last.endSequence ≤ gap.firstMissing :=
      contiguous ▸ effect.represents.last_gap_le
    obtain ⟨status, next, taken, accepted, content⟩ :=
      GapLedger.append_of_room kept.gaps gap valid keptOrdered room
    simp only [refused, if_true, found, discarded, taken, MeasurementJournal.storeGap,
      if_pos accepted]
    refine ⟨rfl, effect.represents.storeGap contiguous valid effect.prepared_eq content, ?_,
      effect.represents.retained_le, effect.delivered_eq, effect.released_eq, effect.prepared_eq,
        ?_, ?_⟩
    · exact effect.retained_eq ▸ retained
    · exact effect.discardedSequences_eq.trans (by rw [← effect.retained_eq]; rfl)
    · exact effect.discardedSamples_eq.trans (by rw [← effect.retained_eq]; rfl)
  · have room : ¬ status = .full := by
      rcases accepted with rfl | rfl <;> simp
    simp only [taken, if_neg room, MeasurementJournal.storeGap, if_pos accepted]
    refine ⟨rfl, fresh.storeGap contiguous valid rfl content, Nat.le_refl _,
      represents.retained_le, rfl, rfl, rfl, ?_, ?_⟩
    · simp [MeasurementJournal.invalidatePreparedView]
    · simp [MeasurementJournal.invalidatePreparedView, samplesOf]

/-- Taking a break into the ledger extends the log by its cursor. -/
theorem storeContinuityBreak {continuity : ContinuityLedger capacity.breaks}
    (contiguous : value.atSequence = log.length) (valid : value.valid = true)
    (unprepared : journal.preparedValid = false)
    (content : continuity.toList = journal.continuity.toList ++ [value]) :
    Represents { journal with continuity := continuity, produced := value.endSequence }
      (log ++ [.continuityBreak value.reason]) := by
  have retained := represents.retained_le
  have delivered := represents.delivered_le
  have bounded := represents.log_bounded
  have below : value.atSequence ≠ uint64Max := by
    simp only [ContinuityBreakRecord.valid, Bool.and_eq_true, bne_iff_ne] at valid
    exact valid.1
  have length : (log ++ [Entry.continuityBreak value.reason]).length = value.endSequence := by
    simp [ContinuityBreakRecord.endSequence, contiguous]
  have grown : value.endSequence = log.length + 1 := by
    rw [ContinuityBreakRecord.endSequence, contiguous]
  exact {
    produced_eq := length.symm
    log_bounded := by
      rw [length]
      omega
    retained_le := by
      rw [length]
      simp only
      omega
    released_le := represents.released_le
    delivered_le := by
      rw [length]
      simp only
      omega
    prepared_le := by simp [unprepared]
    samples_eq := by
      simp only
      rw [represents.drop_append_retained, samplesOf_append, represents.samples_eq]
      simp [samplesOf, Entry.sample?]
    gaps_eq := by
      rw [represents.drop_append_retained, gapRuns_append_single _ _ rfl, represents.gaps_eq]
    breaks_eq := by
      rw [represents.drop_append_retained, breakMarks_append_break, content,
        represents.breaks_eq, length_drop, Nat.add_sub_cancel' retained, ← contiguous] }

/-- Discarding the oldest break of a full ledger frees a record. -/
theorem discard_oldest_break (filled : journal.continuity.size = capacity.breaks) :
    ∃ oldest kept, journal.continuity.oldest = some oldest ∧
      journal.discardRetentionBefore oldest.endSequence true = some kept ∧
      Discards journal kept log oldest.endSequence true ∧
      journal.retainedFrom ≤ oldest.endSequence ∧ kept.continuity.size < capacity.breaks := by
  have positive := capacity.breaksPositive
  cases marks : journal.continuity.toList with
  | nil =>
    rw [← ContinuityLedger.length_toList, marks, length_nil] at filled
    omega
  | cons oldest rest =>
    obtain ⟨before, after, shape, -, start, later⟩ :=
      breakMarks_eq_cons (represents.breaks_eq.symm.trans marks)
    have lengths := congrArg length shape
    simp only [length_drop, length_append, length_cons] at lengths
    have ends : oldest.endSequence = journal.retainedFrom + (before.length + 1) := by
      simp only [ContinuityBreakRecord.endSequence]
      omega
    obtain ⟨kept, discarded, effect⟩ := represents.discardRetentionBefore
      oldest.endSequence (by omega) (by omega) true
    refine ⟨oldest, kept, ?_, discarded, effect, by omega, ?_⟩
    · rw [ContinuityLedger.oldest_eq_head?, marks, head?_cons]
    have remaining : log.drop oldest.endSequence = after := by
      rw [ends, ← drop_drop, shape, ← drop_drop, drop_left]
      rfl
    have size := congrArg length effect.represents.breaks_eq
    rw [effect.retained_eq, remaining, later, ContinuityLedger.length_toList] at size
    have full := congrArg length marks
    rw [ContinuityLedger.length_toList, length_cons] at full
    omega

theorem appendContinuityBreak_accepted (contiguous : value.atSequence = log.length)
    (valid : value.valid = true) : Appends journal (journal.appendContinuityBreak value).2 log
      [.continuityBreak value.reason] (journal.appendContinuityBreak value).1 := by
  have contiguous' : ¬ value.atSequence ≠ journal.produced := by
    rw [represents.produced_eq]
    exact not_not_intro contiguous
  have fresh := represents.invalidatePreparedView
  have ordered : ∀ last ∈ journal.invalidatePreparedView.continuity.toList.getLast?,
      last.endSequence ≤ value.atSequence := contiguous ▸ fresh.last_break_le
  rw [appendContinuityBreak, valid, if_neg contiguous']
  simp only [Bool.not_true, Bool.false_eq_true, if_false]
  rcases ContinuityLedger.append_spec _ value valid ordered with
    ⟨refused, filled⟩ | ⟨next, taken, content⟩
  · obtain ⟨oldest, kept, found, discarded, effect, retained, room⟩ :=
      fresh.discard_oldest_break filled
    have keptOrdered : ∀ last ∈ kept.continuity.toList.getLast?,
        last.endSequence ≤ value.atSequence := contiguous ▸ effect.represents.last_break_le
    rcases ContinuityLedger.append_spec kept.continuity value valid keptOrdered with
      ⟨-, filled⟩ | ⟨next, taken, content⟩
    · omega
    simp only [refused, if_true, found, discarded, taken,
      MeasurementJournal.storeContinuityBreak]
    refine ⟨rfl,
      effect.represents.storeContinuityBreak contiguous valid effect.prepared_eq content, ?_,
      effect.represents.retained_le, effect.delivered_eq, effect.released_eq, effect.prepared_eq,
        ?_, ?_⟩
    · exact effect.retained_eq ▸ retained
    · exact effect.discardedSequences_eq.trans (by rw [← effect.retained_eq]; rfl)
    · exact effect.discardedSamples_eq.trans (by rw [← effect.retained_eq]; rfl)
  · simp only [taken, MeasurementJournal.storeContinuityBreak]
    refine ⟨rfl, fresh.storeContinuityBreak contiguous valid rfl content, Nat.le_refl _,
      represents.retained_le, rfl, rfl, rfl, ?_, ?_⟩
    · simp [MeasurementJournal.invalidatePreparedView]
    · simp [MeasurementJournal.invalidatePreparedView, samplesOf]

theorem appendSample_refused
    (refused : ¬ (sequence = log.length ∧ log.length < uint64Max ∧ validSampleRecord sample)) :
    (journal.appendSample sequence sample).2 = journal ∧
      (journal.appendSample sequence sample).1.status ≠ .ok ∧
      (journal.appendSample sequence sample).1.status ≠ .internalError := by
  have bounded := represents.log_bounded
  rw [appendSample, represents.produced_eq]
  split
  · simp
  rename_i contiguous
  split
  · simp
  rename_i space
  split
  · simp
  rename_i valid
  refine absurd ⟨by simpa using contiguous, by omega, by simpa using valid⟩ refused

theorem appendGap_refused (refused : ¬ (gap.firstMissing = log.length ∧ gap.valid)) :
    (journal.appendGap gap).2 = journal ∧ (journal.appendGap gap).1.status ≠ .ok ∧
      (journal.appendGap gap).1.status ≠ .internalError := by
  rw [appendGap, represents.produced_eq]
  split
  · simp
  rename_i valid
  split
  · simp
  rename_i contiguous
  exact absurd ⟨by simpa using contiguous, by simpa using valid⟩ refused

theorem appendContinuityBreak_refused (refused : ¬ (value.atSequence = log.length ∧ value.valid)) :
    (journal.appendContinuityBreak value).2 = journal ∧
      (journal.appendContinuityBreak value).1.status ≠ .ok ∧
      (journal.appendContinuityBreak value).1.status ≠ .internalError := by
  rw [appendContinuityBreak, represents.produced_eq]
  split
  · simp
  rename_i valid
  split
  · simp
  rename_i contiguous
  exact absurd ⟨by simpa using contiguous, by simpa using valid⟩ refused

omit represents

end Represents
end SensorSystem.Node
