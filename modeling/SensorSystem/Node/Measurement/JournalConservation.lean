import SensorSystem.Node.Measurement.JournalReads

/-! Cursors, containers and loss counters of a reachable journal satisfy one accounting identity,
and a refused call leaves all of them alone. -/

namespace SensorSystem.Node

open List Base

variable {capacity : JournalCapacity}

def JournalOperation.isAppend : JournalOperation → Bool
  | appendSample .. | appendGap .. | appendContinuityBreak .. => true
  | _ => false

/-- The ranges `[from, to)` that appends removed from the retained log. -/
def overflowRanges (journal : MeasurementJournal capacity) :
    List JournalOperation → List (Nat × Nat)
  | [] => []
  | operation :: operations =>
    let after := journal.perform operation
    (if operation.isAppend then [(journal.retainedFrom, after.retainedFrom)] else []) ++
      overflowRanges after operations

/-- The samples of the log in a range of cursors. -/
def Log.samplesIn (log : List Entry) (range : Nat × Nat) : List SampleRecord :=
  samplesOf ((log.drop range.1).take (range.2 - range.1))

theorem Log.prefix_step (log : List Entry) (operation : JournalOperation) :
    log <+: Log.step log operation := by
  cases operation with
  | appendSample sequence sample =>
    rw [Log.step]
    split
    · exact prefix_append _ _
    · exact prefix_rfl
  | appendGap gap =>
    rw [Log.step]
    split
    · exact prefix_append _ _
    · exact prefix_rfl
  | appendContinuityBreak value =>
    rw [Log.step]
    split
    · exact prefix_append _ _
    · exact prefix_rfl
  | prepareRead start sampleLimit => exact prefix_rfl
  | markDelivered endSequence => exact prefix_rfl
  | cancelPrepared => exact prefix_rfl
  | releaseBefore cursor => exact prefix_rfl

theorem Log.prefix_foldl_step (log : List Entry) (operations : List JournalOperation) :
    log <+: operations.foldl Log.step log := by
  induction operations generalizing log with
  | nil => exact prefix_rfl
  | cons operation operations ih =>
    exact (Log.prefix_step log operation).trans (ih _)

theorem Log.samplesIn_of_prefix {log longer : List Entry} (extends_ : log <+: longer)
    (range : Nat × Nat) (within : range.2 ≤ log.length) :
    Log.samplesIn longer range = Log.samplesIn log range := by
  obtain ⟨rest, rfl⟩ := extends_
  rcases Nat.le_total range.1 log.length with inside | outside
  · rw [Log.samplesIn, Log.samplesIn, drop_append_of_le_length inside,
      take_append_of_le_length (by rw [length_drop]; omega)]
  · have empty : range.2 - range.1 = 0 := by omega
    rw [Log.samplesIn, Log.samplesIn, empty]
    rfl

/-- Both journals have the same cursors, stored samples and ledgers. -/
def SameContent (left right : MeasurementJournal capacity) : Prop :=
  left.retainedFrom = right.retainedFrom ∧ left.produced = right.produced ∧
    left.delivered = right.delivered ∧ left.released = right.released ∧
    left.samples = right.samples ∧ left.gaps = right.gaps ∧ left.continuity = right.continuity

namespace Represents

variable {journal : MeasurementJournal capacity} {log : List Entry}

/-- The loss counters after a call, in terms of the retention cursor it moved. -/
structure Accounts (before after : MeasurementJournal capacity) (log : List Entry)
    (isAppend : Bool) : Prop where
  sequences_eq : after.discardedSequences = before.discardedSequences +
    if isAppend then after.retainedFrom - before.retainedFrom else 0
  samples_eq : after.discardedSamples = before.discardedSamples +
    if isAppend then (Log.samplesIn log (before.retainedFrom, after.retainedFrom)).length else 0
  within : isAppend = true → after.retainedFrom ≤ log.length

theorem Appends.accounts {after : MeasurementJournal capacity} {added : List Entry}
    {result : StreamAppendResult} (appends : Appends journal after log added result) :
    Accounts journal after log true :=
  ⟨appends.discardedSequences_eq, appends.discardedSamples_eq, fun _ => appends.retained_within⟩

variable (represents : Represents journal log)

include represents

theorem accounts_refused : Accounts journal journal log true :=
  ⟨by simp, by simp [Log.samplesIn, samplesOf], fun _ => represents.retained_le⟩

/-- Only appends are accounted as losses. -/
theorem perform_accounts (operation : JournalOperation) :
    Accounts journal (journal.perform operation) log operation.isAppend := by
  cases operation with
  | appendSample sequence sample =>
    by_cases accepted : sequence = log.length ∧ log.length < uint64Max ∧ validSampleRecord sample
    · exact (represents.appendSample_accepted accepted.1 accepted.2.1 accepted.2.2).accounts
    rw [MeasurementJournal.perform, (represents.appendSample_refused accepted).1]
    exact represents.accounts_refused
  | appendGap gap =>
    by_cases accepted : gap.firstMissing = log.length ∧ gap.valid
    · exact (represents.appendGap_accepted accepted.1 accepted.2).accounts
    rw [MeasurementJournal.perform, (represents.appendGap_refused accepted).1]
    exact represents.accounts_refused
  | appendContinuityBreak value =>
    by_cases accepted : value.atSequence = log.length ∧ value.valid
    · exact (represents.appendContinuityBreak_accepted accepted.1 accepted.2).accounts
    rw [MeasurementJournal.perform, (represents.appendContinuityBreak_refused accepted).1]
    exact represents.accounts_refused
  | prepareRead start sampleLimit =>
    rw [MeasurementJournal.perform]
    by_cases inside : 0 < sampleLimit ∧ journal.retainedFrom ≤ start ∧ start < log.length
    · obtain ⟨content, -, -, -, -, after⟩ :=
        represents.prepareRead_content inside.1 inside.2.1 inside.2.2
      rw [after]
      exact ⟨rfl, rfl, by rintro ⟨⟩⟩
    rw [(represents.prepareRead_outside inside).1]
    exact ⟨rfl, rfl, by rintro ⟨⟩⟩
  | markDelivered endSequence =>
    rw [MeasurementJournal.perform, MeasurementJournal.markDelivered]
    split
    · exact ⟨rfl, rfl, by rintro ⟨⟩⟩
    split <;> exact ⟨rfl, rfl, by rintro ⟨⟩⟩
  | cancelPrepared => exact ⟨rfl, rfl, by rintro ⟨⟩⟩
  | releaseBefore cursor =>
    rw [MeasurementJournal.perform]
    rcases represents.releaseBefore_cases cursor with
      ⟨-, -, outcome⟩ | ⟨-, outcome⟩ | ⟨-, -, outcome⟩ | ⟨-, -, kept, effect, outcome⟩
    · rw [outcome]
      exact ⟨rfl, rfl, by rintro ⟨⟩⟩
    · rw [outcome]
      exact ⟨rfl, rfl, by rintro ⟨⟩⟩
    · rw [outcome]
      exact ⟨rfl, rfl, by rintro ⟨⟩⟩
    · rw [outcome]
      exact ⟨effect.discardedSequences_eq, effect.discardedSamples_eq, by rintro ⟨⟩⟩

/-- Over a run the counters grow by what appends removed. -/
theorem performAll_accounts (operations : List JournalOperation) :
    (operations.foldl MeasurementJournal.perform journal).discardedSequences =
        journal.discardedSequences +
          ((overflowRanges journal operations).map fun range => range.2 - range.1).sum ∧
      (operations.foldl MeasurementJournal.perform journal).discardedSamples =
        journal.discardedSamples + ((overflowRanges journal operations).map fun range =>
          (Log.samplesIn (operations.foldl Log.step log) range).length).sum := by
  induction operations generalizing journal log with
  | nil => exact ⟨rfl, rfl⟩
  | cons operation operations ih =>
    obtain ⟨sequences, samples⟩ := ih (represents.perform operation)
    have step := represents.perform_accounts operation
    rw [foldl_cons, foldl_cons, sequences, samples, step.sequences_eq, step.samples_eq,
      overflowRanges]
    cases append : operation.isAppend with
    | false => simp
    | true =>
      have slice := Log.samplesIn_of_prefix
        ((Log.prefix_step log operation).trans (Log.prefix_foldl_step _ operations))
        (journal.retainedFrom, (journal.perform operation).retainedFrom) (step.within append)
      simp [slice, Nat.add_assoc]

/-- Samples, missing cursors and breaks fill the range. -/
theorem retained_eq_counts :
    journal.samples.size + (journal.gaps.toList.map GapRecord.missingCount).sum +
      journal.continuity.size = journal.produced - journal.retainedFrom := by
  have counts := length_eq_counts (log.drop journal.retainedFrom)
  rw [← represents.samples_eq, Ring.length_toList, ← sum_missingCount_gapRuns
    journal.retainedFrom, ← represents.gaps_eq, ← length_breakMarks journal.retainedFrom,
    ← represents.breaks_eq, ContinuityLedger.length_toList, length_drop,
    ← represents.produced_eq] at counts
  exact counts.symm

theorem ledgers_ordered :
    journal.gaps.toList.Pairwise (fun left right => left.endSequence ≤ right.firstMissing) ∧
      journal.continuity.toList.Pairwise
        (fun left right => left.endSequence ≤ right.atSequence) ∧
      (∀ gap ∈ journal.gaps.toList, ∀ mark ∈ journal.continuity.toList,
        mark.endSequence ≤ gap.firstMissing ∨ gap.endSequence ≤ mark.atSequence) ∧
      (∀ gap ∈ journal.gaps.toList,
        journal.retainedFrom ≤ gap.firstMissing ∧ gap.endSequence ≤ journal.produced) ∧
      (∀ mark ∈ journal.continuity.toList,
        journal.retainedFrom ≤ mark.atSequence ∧ mark.endSequence ≤ journal.produced) := by
  have retained := represents.retained_le
  have length : journal.retainedFrom + (log.drop journal.retainedFrom).length =
      journal.produced := by
    rw [length_drop, represents.produced_eq]
    omega
  rw [represents.gaps_eq, represents.breaks_eq, ← length]
  refine ⟨pairwise_gapRuns _ _, pairwise_breakMarks _ _, ?_, ?_, ?_⟩
  · intro gap gapMember mark markMember
    exact gapRuns_breakMarks_disjoint gapMember markMember
  · intro gap member
    exact bounds_of_mem_gapRuns member
  · intro mark member
    exact le_atSequence_of_mem_breakMarks member

/-- A refused call keeps cursors, samples and ledgers. -/
theorem refused_sameContent :
    (∀ sequence sample, (journal.appendSample sequence sample).1.status ≠ .ok →
        SameContent (journal.appendSample sequence sample).2 journal) ∧
      (∀ gap, (journal.appendGap gap).1.status ≠ .ok →
        SameContent (journal.appendGap gap).2 journal) ∧
      (∀ value, (journal.appendContinuityBreak value).1.status ≠ .ok →
        SameContent (journal.appendContinuityBreak value).2 journal) ∧
      (∀ endSequence, (journal.markDelivered endSequence).1 ≠ .ok →
        SameContent (journal.markDelivered endSequence).2 journal) ∧
      (∀ cursor, (journal.releaseBefore cursor).1 ≠ .ok →
        SameContent (journal.releaseBefore cursor).2 journal) := by
  have same : SameContent journal journal := ⟨rfl, rfl, rfl, rfl, rfl, rfl, rfl⟩
  refine ⟨?_, ?_, ?_, ?_, ?_⟩
  · intro sequence sample refused
    by_cases accepted : sequence = log.length ∧ log.length < uint64Max ∧ validSampleRecord sample
    · exact absurd (represents.appendSample_accepted accepted.1 accepted.2.1 accepted.2.2).status_eq
        refused
    · rwa [(represents.appendSample_refused accepted).1]
  · intro gap refused
    by_cases accepted : gap.firstMissing = log.length ∧ gap.valid
    · exact absurd (represents.appendGap_accepted accepted.1 accepted.2).status_eq refused
    · rwa [(represents.appendGap_refused accepted).1]
  · intro value refused
    by_cases accepted : value.atSequence = log.length ∧ value.valid
    · exact absurd (represents.appendContinuityBreak_accepted accepted.1 accepted.2).status_eq
        refused
    · rwa [(represents.appendContinuityBreak_refused accepted).1]
  · intro endSequence refused
    rw [MeasurementJournal.markDelivered] at refused ⊢
    split
    · exact same
    rename_i prepared
    rw [if_neg prepared] at refused
    exact absurd rfl refused
  · intro cursor refused
    rcases represents.releaseBefore_cases cursor with
      ⟨-, -, outcome⟩ | ⟨-, outcome⟩ | ⟨-, -, outcome⟩ | ⟨-, -, kept, -, outcome⟩
    · rw [outcome]
      exact same
    all_goals
      rw [outcome] at refused
      exact absurd rfl refused

omit represents

end Represents

/-- The conservation law of the journal, in every state reachable by any calls. -/
theorem journal_conserves_cursors (capacity : JournalCapacity)
    (operations : List JournalOperation) : let journal := MeasurementJournal.run capacity operations
    let gaps := journal.gaps.toList
    let breaks := journal.continuity.toList
    let removed := overflowRanges (MeasurementJournal.initial capacity) operations
    (journal.released ≤ journal.retainedFrom ∧ journal.retainedFrom ≤ journal.produced ∧
        journal.delivered ≤ journal.produced) ∧
      (gaps.Pairwise (fun left right => left.endSequence ≤ right.firstMissing) ∧
        breaks.Pairwise (fun left right => left.endSequence ≤ right.atSequence) ∧
        (∀ gap ∈ gaps, ∀ mark ∈ breaks,
          mark.endSequence ≤ gap.firstMissing ∨ gap.endSequence ≤ mark.atSequence) ∧
        (∀ gap ∈ gaps, journal.retainedFrom ≤ gap.firstMissing ∧
          gap.endSequence ≤ journal.produced) ∧
        (∀ mark ∈ breaks, journal.retainedFrom ≤ mark.atSequence ∧
          mark.endSequence ≤ journal.produced)) ∧
      journal.samples.size + (gaps.map GapRecord.missingCount).sum + journal.continuity.size =
        journal.produced - journal.retainedFrom ∧
      journal.discardedSequences = (removed.map fun range => range.2 - range.1).sum ∧
      journal.discardedSamples = (removed.map fun range =>
        (Log.samplesIn (Log.run operations) range).length).sum ∧
      (∀ sequence sample, (journal.appendSample sequence sample).1.status ≠ .ok →
        SameContent (journal.appendSample sequence sample).2 journal) ∧
      (∀ gap, (journal.appendGap gap).1.status ≠ .ok →
        SameContent (journal.appendGap gap).2 journal) ∧
      (∀ value, (journal.appendContinuityBreak value).1.status ≠ .ok →
        SameContent (journal.appendContinuityBreak value).2 journal) ∧
      (∀ endSequence, (journal.markDelivered endSequence).1 ≠ .ok →
        SameContent (journal.markDelivered endSequence).2 journal) ∧
      (∀ cursor, (journal.releaseBefore cursor).1 ≠ .ok →
        SameContent (journal.releaseBefore cursor).2 journal) := by
  have represents := represents_run capacity operations
  have accounted := (Represents.initial capacity).performAll_accounts operations
  refine ⟨⟨represents.released_le, ?_, ?_⟩, represents.ledgers_ordered,
    represents.retained_eq_counts, ?_, ?_, represents.refused_sameContent⟩
  · exact represents.produced_eq ▸ represents.retained_le
  · exact represents.produced_eq ▸ represents.delivered_le
  · exact accounted.1.trans (Nat.zero_add _)
  · exact accounted.2.trans (Nat.zero_add _)

end SensorSystem.Node
