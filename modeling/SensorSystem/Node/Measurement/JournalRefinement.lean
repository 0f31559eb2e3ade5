import SensorSystem.Node.Measurement.JournalLoops

/-! `Represents` relates a journal to the log of everything it accepted: its three containers are
the sample payloads, gap runs and break marks of the log from `retainedFrom` on. Every call of the
journal preserves the relation while the log takes the step `Log.step`, which knows nothing of the
containers. -/

namespace SensorSystem.Node

open List Base

namespace Log

/-- The log after one journal call: an append in range extends it, nothing else changes it. -/
def step (log : List Entry) : JournalOperation → List Entry
  | .appendSample sequence sample =>
    if sequence = log.length ∧ log.length < uint64Max ∧ validSampleRecord sample then
      log ++ [.sample sample]
    else log
  | .appendGap gap =>
    if gap.firstMissing = log.length ∧ gap.valid then
      log ++ replicate gap.missingCount (.gap gap.reason)
    else log
  | .appendContinuityBreak value =>
    if value.atSequence = log.length ∧ value.valid then
      log ++ [.continuityBreak value.reason]
    else log
  | _ => log

/-- The reference log of a sequence of journal calls. -/
def run (operations : List JournalOperation) : List Entry :=
  operations.foldl step []

end Log

/-- A journal holds the suffix of a log from its retention cursor on. -/
structure Represents {capacity : JournalCapacity} (journal : MeasurementJournal capacity)
    (log : List Entry) : Prop where
  produced_eq : journal.produced = log.length
  log_bounded : log.length ≤ uint64Max
  retained_le : journal.retainedFrom ≤ log.length
  released_le : journal.released ≤ journal.retainedFrom
  delivered_le : journal.delivered ≤ log.length
  prepared_le : journal.preparedValid = true → journal.preparedThrough ≤ log.length
  samples_eq : journal.samples.toList = samplesOf (log.drop journal.retainedFrom)
  gaps_eq : journal.gaps.toList = gapRuns journal.retainedFrom (log.drop journal.retainedFrom)
  breaks_eq : journal.continuity.toList =
    breakMarks journal.retainedFrom (log.drop journal.retainedFrom)

namespace Represents

variable {capacity : JournalCapacity} {journal : MeasurementJournal capacity} {log : List Entry}

theorem initial (capacity : JournalCapacity) :
    Represents (MeasurementJournal.initial capacity) [] where
  produced_eq := rfl
  log_bounded := Nat.zero_le _
  retained_le := Nat.le_refl _
  released_le := Nat.le_refl _
  delivered_le := Nat.le_refl _
  prepared_le := by simp [MeasurementJournal.initial]
  samples_eq := rfl
  gaps_eq := rfl
  breaks_eq := rfl

variable (represents : Represents journal log)

include represents

theorem invalidatePreparedView : Represents journal.invalidatePreparedView log :=
  { represents with prepared_le := by simp [MeasurementJournal.invalidatePreparedView] }

/-- Preparing a read up to an accepted cursor keeps the relation. -/
theorem prepareThrough {cursor : Nat} (bounded : cursor ≤ log.length) :
    Represents (journal.prepareThrough cursor) log :=
  { represents with prepared_le := fun _ => bounded }

/-- The rank computation counts the samples below a cursor. -/
theorem samplesBetween_eq {cursor : Nat} (retained : journal.retainedFrom ≤ cursor)
    (produced : cursor ≤ log.length) : journal.samplesBetween journal.retainedFrom cursor =
      (samplesOf ((log.drop journal.retainedFrom).take
        (cursor - journal.retainedFrom))).length := by
  rw [MeasurementJournal.samplesBetween]
  by_cases nothing : cursor ≤ journal.retainedFrom
  · have none : cursor - journal.retainedFrom = 0 := by omega
    rw [if_pos nothing, none]
    rfl
  have missing := missingLoop_eq journal.retainedFrom cursor
    (log.drop journal.retainedFrom) (journal.gaps.size + 1) 0 0 (Nat.zero_le _) (by
      rw [Nat.add_zero, drop_zero, ← represents.gaps_eq, GapLedger.length_toList]
      exact Nat.lt_succ_self _)
  have breaks := breaksLoop_eq journal.retainedFrom cursor
    (log.drop journal.retainedFrom) (journal.continuity.size + 1) 0 0 (Nat.zero_le _) (by
      rw [Nat.add_zero, drop_zero, ← represents.breaks_eq, ContinuityLedger.length_toList]
      exact Nat.lt_succ_self _)
  simp only [Nat.add_zero, drop_zero, Nat.zero_add, ← represents.gaps_eq,
    ← represents.breaks_eq] at missing breaks
  have counts := length_eq_counts
    ((log.drop journal.retainedFrom).take (cursor - journal.retainedFrom))
  rw [length_take, length_drop] at counts
  simp only [if_neg nothing, missing, breaks]
  omega

omit represents

/-- A discard shrinks the containers, and a loss is accounted for. -/
structure Discards (before after : MeasurementJournal capacity) (log : List Entry)
    (cursor : Nat) (isLoss : Bool) : Prop where
  represents : Represents after log
  retained_eq : after.retainedFrom = cursor
  delivered_eq : after.delivered = before.delivered
  released_eq : after.released = before.released
  prepared_eq : after.preparedValid = before.preparedValid
  discardedSequences_eq : after.discardedSequences =
    before.discardedSequences + if isLoss then cursor - before.retainedFrom else 0
  discardedSamples_eq : after.discardedSamples = before.discardedSamples + if isLoss then
    (samplesOf ((log.drop before.retainedFrom).take (cursor - before.retainedFrom))).length else 0

/-- Discarding up to a cursor of the retained range succeeds. -/
theorem discardRetentionBefore (represents : Represents journal log) (cursor : Nat)
    (retained : journal.retainedFrom ≤ cursor) (produced : cursor ≤ log.length) (isLoss : Bool) :
    ∃ kept, journal.discardRetentionBefore cursor isLoss = some kept ∧
      Discards journal kept log cursor isLoss := by
  have count := represents.samplesBetween_eq retained produced
  have split : log.drop journal.retainedFrom =
      (log.drop journal.retainedFrom).take (cursor - journal.retainedFrom) ++ log.drop cursor := by
    have rest : log.drop cursor =
        (log.drop journal.retainedFrom).drop (cursor - journal.retainedFrom) := by
      rw [drop_drop]
      congr 1
      omega
    rw [rest, take_append_drop]
  have stored : samplesOf (log.drop journal.retainedFrom) =
      samplesOf ((log.drop journal.retainedFrom).take (cursor - journal.retainedFrom)) ++
        samplesOf (log.drop cursor) := by
    conv_lhs => rw [split]
    exact samplesOf_append _ _
  have enough : ¬ journal.samplesBetween journal.retainedFrom cursor > journal.samples.size := by
    rw [count, ← Ring.length_toList, represents.samples_eq, stored, length_append]
    omega
  have samples : (journal.samples.advance
      (journal.samplesBetween journal.retainedFrom cursor)).toList =
        samplesOf (log.drop cursor) := by
    rw [Ring.toList_advance, represents.samples_eq, count, stored, drop_left]
  have whole : journal.retainedFrom + (cursor - journal.retainedFrom) = cursor := by omega
  have inside : cursor - journal.retainedFrom ≤ (log.drop journal.retainedFrom).length := by
    rw [length_drop]
    omega
  have gaps : (journal.gaps.discardBefore cursor).toList = gapRuns cursor (log.drop cursor) := by
    have runs := discardIn_gapRuns journal.retainedFrom _ _ inside
    rw [whole, drop_drop, whole] at runs
    rw [GapLedger.toList_discardBefore, represents.gaps_eq, runs]
  have breaks : (journal.continuity.discardBefore cursor).toList =
      breakMarks cursor (log.drop cursor) := by
    have marks := dropWhile_breakMarks journal.retainedFrom _ _ inside
    rw [whole, drop_drop, whole] at marks
    rw [ContinuityLedger.toList_discardBefore, represents.breaks_eq, marks]
  have released := represents.released_le
  have bounds : ¬ (cursor < journal.retainedFrom ∨ cursor > journal.produced) := by
    rw [represents.produced_eq]
    omega
  refine ⟨_, by rw [MeasurementJournal.discardRetentionBefore, if_neg bounds, if_neg enough], ?_⟩
  cases isLoss with
  | false =>
    refine ⟨?_, rfl, rfl, rfl, rfl, rfl, rfl⟩
    exact {
      produced_eq := represents.produced_eq
      log_bounded := represents.log_bounded
      retained_le := produced
      released_le := Nat.le_trans released retained
      delivered_le := represents.delivered_le
      prepared_le := represents.prepared_le
      samples_eq := samples
      gaps_eq := gaps
      breaks_eq := breaks }
  | true =>
    refine ⟨?_, rfl, rfl, rfl, rfl, rfl, ?_⟩
    · exact {
        produced_eq := represents.produced_eq
        log_bounded := represents.log_bounded
        retained_le := produced
        released_le := Nat.le_trans released retained
        delivered_le := represents.delivered_le
        prepared_le := represents.prepared_le
        samples_eq := samples
        gaps_eq := gaps
        breaks_eq := breaks }
    · simp [count]

end Represents
end SensorSystem.Node
