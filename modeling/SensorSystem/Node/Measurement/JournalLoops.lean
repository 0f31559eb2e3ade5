import SensorSystem.Node.Measurement.Journal
import SensorSystem.Node.Measurement.ReferenceReads

/-! What each scanning loop of the journal computes when the ledgers hold the gap runs and break
marks of a stretch of the reference log. The round bounds the journal passes are always large
enough: every round of a loop consumes at least one ledger record. -/

namespace SensorSystem.Node

open List Option Base

variable {entries : List Entry} {position : Nat}

/-- The next gap record lies at the first remaining run. -/
theorem nextIn_eq_some_of_gapRuns {offset : Nat} {first : GapRecord} {rest : List GapRecord}
    (bounded : offset ≤ entries.length)
    (runs : gapRuns (position + offset) (entries.drop offset) = first :: rest) :
    ∃ next, GapLedger.nextIn (gapRuns position entries) (position + offset) = some next ∧
      next.endSequence = first.endSequence ∧
      first.firstMissing = max next.firstMissing (position + offset) := by
  have lookup := nextIn_gapRuns position offset entries bounded
  rw [runs, head?_cons] at lookup
  obtain ⟨next, found, trimmed⟩ := map_eq_some_iff.mp lookup
  refine ⟨next, found, ?_⟩
  have crossing : position + offset < next.endSequence := by
    simpa using find?_some found
  split at trimmed
  · rename_i early
    subst trimmed
    simp only [GapLedger.trimGap, GapRecord.endSequence] at crossing ⊢
    omega
  · rename_i late
    subst trimmed
    exact ⟨rfl, by omega⟩

theorem nextIn_eq_none_of_gapRuns {offset : Nat} (bounded : offset ≤ entries.length)
    (runs : gapRuns (position + offset) (entries.drop offset) = []) :
    GapLedger.nextIn (gapRuns position entries) (position + offset) = none := by
  have lookup := nextIn_gapRuns position offset entries bounded
  rw [runs, head?_nil] at lookup
  exact map_eq_none_iff.mp lookup

theorem countP_isGap_take_replicate (bound count : Nat) (reason : GapReason) :
    ((replicate count (Entry.gap reason)).take bound).countP Entry.isGap = min bound count := by
  rw [take_replicate, countP_replicate]
  simp [Entry.isGap]

theorem countP_take_of_free {kind : Entry → Bool} (free : ∀ entry ∈ entries, kind entry = false)
    (bound : Nat) : (entries.take bound).countP kind = 0 :=
  countP_eq_zero_of_free fun entry member => free entry (mem_of_mem_take member)

/-- The gap loop counts gap entries up to its stop. -/
theorem missingLoop_eq (position stop : Nat) (entries : List Entry)
    (rounds offset missing : Nat) (bounded : offset ≤ entries.length)
    (enough : (gapRuns (position + offset) (entries.drop offset)).length < rounds) :
    missingLoop (gapRuns position entries) stop rounds (position + offset) missing =
      missing + ((entries.drop offset).take (stop - (position + offset))).countP Entry.isGap := by
  induction rounds generalizing offset missing with
  | zero => omega
  | succ rounds ih =>
    rw [missingLoop]
    by_cases inside : position + offset < stop
    · rw [if_pos inside]
      cases runs : gapRuns (position + offset) (entries.drop offset) with
      | nil =>
        rw [nextIn_eq_none_of_gapRuns bounded runs,
          countP_take_of_free (gapRuns_eq_nil.mp runs), Nat.add_zero]
      | cons first rest =>
        obtain ⟨next, found, ends, starts⟩ := nextIn_eq_some_of_gapRuns bounded runs
        obtain ⟨before, after, shape, free, begins, positive, later⟩ := gapRuns_eq_cons runs
        rw [found, shape]
        simp only [take_append, countP_append, countP_take_of_free free,
          countP_isGap_take_replicate, length_append, length_replicate]
        by_cases beyond : next.firstMissing ≥ stop
        · simp only [if_pos beyond]
          have short : stop - (position + offset) - before.length = 0 := by omega
          have shorter : stop - (position + offset) - (before.length + first.missingCount) = 0 := by
            omega
          simp [short, shorter]
        have firstEnd : first.endSequence =
            position + (offset + before.length + first.missingCount) := by
          simp only [GapRecord.endSequence]
          omega
        have remaining : entries.drop (offset + before.length + first.missingCount) = after := by
          rw [Nat.add_assoc, ← drop_drop, shape]
          exact drop_left' (by simp)
        have lengths := congrArg length shape
        simp only [length_drop, length_append, length_replicate] at lengths
        have remainingRuns : (gapRuns (position + (offset + before.length + first.missingCount))
            (entries.drop (offset + before.length + first.missingCount))).length < rounds := by
          rw [remaining, ← firstEnd, later]
          simp only [runs, length_cons] at enough
          omega
        have tail := fun counted => ih (offset + before.length + first.missingCount) counted
          (by omega) remainingRuns
        simp only [remaining, ← firstEnd] at tail
        have opening : (if next.firstMissing > position + offset then next.firstMissing
            else position + offset) = first.firstMissing := by
          rw [starts]
          split <;> omega
        have covered : stop - (position + offset) - (before.length + first.missingCount) =
            stop - first.endSequence := by omega
        simp only [if_neg beyond, opening, ends, tail, covered]
        split <;> split <;> omega
    · have done : stop - (position + offset) = 0 := by omega
      simp [inside, done]

/-- The break loop counts break entries up to its stop. -/
theorem breaksLoop_eq (position stop : Nat) (entries : List Entry)
    (rounds offset count : Nat) (bounded : offset ≤ entries.length)
    (enough : (breakMarks (position + offset) (entries.drop offset)).length < rounds) :
    breaksLoop (breakMarks position entries) stop rounds (position + offset) count =
      count + ((entries.drop offset).take (stop - (position + offset))).countP Entry.isBreak := by
  induction rounds generalizing offset count with
  | zero => omega
  | succ rounds ih =>
    rw [breaksLoop]
    by_cases inside : position + offset < stop
    · rw [if_pos inside, nextIn_breakMarks _ _ _ bounded]
      cases marks : breakMarks (position + offset) (entries.drop offset) with
      | nil =>
        simp [countP_take_of_free (breakMarks_eq_nil.mp marks)]
      | cons first rest =>
        obtain ⟨before, after, shape, free, begins, later⟩ := breakMarks_eq_cons marks
        rw [head?_cons, shape]
        simp only [take_append, countP_append, countP_take_of_free free]
        by_cases beyond : first.atSequence ≥ stop
        · have short : stop - (position + offset) - before.length = 0 := by omega
          simp [beyond, short]
        have firstEnd : first.endSequence = position + (offset + before.length + 1) := by
          simp only [ContinuityBreakRecord.endSequence]
          omega
        have remaining : entries.drop (offset + before.length + 1) = after := by
          rw [Nat.add_assoc, ← drop_drop, shape, ← drop_drop, drop_left]
          rfl
        have lengths := congrArg length shape
        simp only [length_drop, length_append, length_cons] at lengths
        have tail := ih (offset + before.length + 1) (count + 1) (by omega)
          (by
            rw [remaining, ← firstEnd, later]
            simp only [marks, length_cons] at enough
            omega)
        rw [remaining, ← firstEnd] at tail
        have more : stop - (position + offset) - before.length =
            (stop - first.endSequence) + 1 := by omega
        simp only [if_neg beyond]
        rw [tail, more, take_succ_cons, countP_cons_of_pos rfl]
        omega
    · have done : stop - (position + offset) = 0 := by omega
      simp [inside, done]

/-- The search stops at the first sample or finds none. -/
theorem firstSampleLoop_spec (position : Nat) (entries : List Entry) (rounds offset : Nat)
    (bounded : offset ≤ entries.length)
    (enough : (gapRuns (position + offset) (entries.drop offset)).length +
      (breakMarks (position + offset) (entries.drop offset)).length < rounds) :
    (∃ before record after, entries.drop offset = before ++ .sample record :: after ∧
        samplesOf before = [] ∧
        firstSampleLoop (gapRuns position entries) (breakMarks position entries)
          (position + entries.length) rounds (position + offset) =
            position + offset + before.length) ∨
      samplesOf (entries.drop offset) = [] := by
  induction rounds generalizing offset with
  | zero => omega
  | succ rounds ih =>
    rw [firstSampleLoop, containingIn_gapRuns _ _ _ bounded, containingIn_breakMarks _ _ _ bounded]
    cases shape : entries.drop offset with
    | nil => exact Or.inr rfl
    | cons entry later =>
      have lengths := congrArg length shape
      simp only [length_drop, length_cons] at lengths
      rw [if_pos (by omega)]
      cases entry with
      | sample record => exact Or.inl ⟨[], record, later, rfl, rfl, rfl⟩
      | continuityBreak reason =>
        have remaining : entries.drop (offset + 1) = later := by
          rw [← drop_drop, shape, drop_succ_cons, drop_zero]
        have next := ih (offset + 1) (by omega) (by
          simp only [shape, gapRuns, breakMarks, length_cons] at enough
          rw [remaining, ← Nat.add_assoc]
          omega)
        rw [remaining] at next
        rcases next with ⟨before, record, after, split, free, found⟩ | none
        · refine Or.inl ⟨.continuityBreak reason :: before, record, after, by simp [split], ?_, ?_⟩
          · simpa using free
          · simp only [ContinuityBreakRecord.endSequence, Nat.add_assoc, length_cons] at found ⊢
            rw [found]
            omega
        · exact Or.inr (by simpa using none)
      | gap reason =>
        have run : gapRunLength reason later ≤ later.length := by
          simpa [gapRunLength] using (takeWhile_sublist _).length_le
        have remaining : entries.drop (offset + (gapRunLength reason later + 1)) =
            later.drop (gapRunLength reason later) := by
          rw [← drop_drop, shape, drop_succ_cons]
        have skipped : later = later.take (gapRunLength reason later) ++
            later.drop (gapRunLength reason later) := (take_append_drop _ _).symm
        have gapOnly : samplesOf (later.take (gapRunLength reason later)) = [] :=
          samplesOf_take_gapRun reason later
        have marks : breakMarks (position + offset + 1) later =
            breakMarks (position + offset + 1 + gapRunLength reason later)
              (later.drop (gapRunLength reason later)) :=
          breakMarks_drop_gapRun reason later _
        have next := ih (offset + (gapRunLength reason later + 1)) (by omega) (by
          simp only [shape, gapRuns_gap, breakMarks, marks, length_cons] at enough
          rw [remaining, show position + (offset + (gapRunLength reason later + 1)) =
            position + offset + 1 + gapRunLength reason later by omega]
          omega)
        rw [remaining] at next
        rcases next with ⟨before, record, after, split, free, found⟩ | none
        · refine Or.inl ⟨.gap reason :: later.take (gapRunLength reason later) ++ before, record,
            after, ?_, ?_, ?_⟩
          · rw [append_assoc, ← split, cons_append, ← skipped]
          · simp [samplesOf_append, gapOnly, free]
          simp only [GapRecord.endSequence, Nat.add_assoc, length_cons, length_append,
            length_take] at found ⊢
          rw [found]
          omega
        · rw [skipped, samplesOf_gap, samplesOf_append, gapOnly, none]
          exact Or.inr rfl

/-- A bound lowered to an optional earlier cursor. -/
def earliest (stop : Nat) : Option Nat → Nat
  | some cursor => if cursor < stop then cursor else stop
  | none => stop

@[simp] theorem earliest_some (stop cursor : Nat) :
    earliest stop (some cursor) = min cursor stop := by
  rw [earliest]
  split <;> omega

@[simp] theorem earliest_none (stop : Nat) : earliest stop none = stop := rfl

/-- The first gap, break or end bounds the leading samples. -/
theorem earliest_eq_sampleRun (position : Nat) (entries : List Entry) :
    earliest (earliest (position + entries.length)
        ((gapRuns position entries).head?.map GapRecord.firstMissing))
        ((breakMarks position entries).head?.map ContinuityBreakRecord.atSequence) =
      position + sampleRunLength entries := by
  induction entries generalizing position with
  | nil => rfl
  | cons entry entries ih =>
    cases entry with
    | sample record =>
      have tail := ih (position + 1)
      have longer : sampleRunLength (.sample record :: entries) = sampleRunLength entries + 1 := by
        rw [sampleRunLength, takeWhile_cons_of_pos rfl, length_cons, sampleRunLength]
      rw [longer]
      simp only [gapRuns, breakMarks, length_cons]
      rw [show position + (entries.length + 1) = position + 1 + entries.length by omega, tail]
      omega
    | gap reason =>
      have stop : sampleRunLength (.gap reason :: entries) = 0 := rfl
      rw [gapRuns_gap, stop]
      cases marks : breakMarks (position + 1) entries with
      | nil =>
        simp only [head?_cons, map_some, earliest_some, breakMarks, marks,
          head?_nil, map_none, earliest_none]
        omega
      | cons first rest =>
        have bounds := le_atSequence_of_mem_breakMarks (marks ▸ mem_cons_self : first ∈ _)
        simp only [head?_cons, map_some, earliest_some, breakMarks, marks]
        omega
    | continuityBreak reason =>
      have stop : sampleRunLength (.continuityBreak reason :: entries) = 0 := rfl
      rw [stop]
      cases runs : gapRuns (position + 1) entries with
      | nil =>
        simp only [breakMarks, head?_cons, map_some, earliest_some, gapRuns, runs,
          head?_nil, map_none, earliest_none]
        omega
      | cons first rest =>
        have start := le_firstMissing_of_gapRuns runs
        simp only [breakMarks, head?_cons, map_some, earliest_some, gapRuns, runs,
          length_cons]
        omega

/-- Two samples may share one chunk. -/
def sameSegment (boundary candidate : SampleRecord) : Bool :=
  candidate.configRevision == boundary.configRevision &&
    candidate.timingSegmentId == boundary.timingSegmentId

/-- The loop counts the longest prefix that shares the segment. -/
theorem boundedCountLoop_eq (sampleAt : Nat → SampleRecord) (boundary : SampleRecord)
    (remaining bounded : Nat) (records : List SampleRecord)
    (stored : records = (range' bounded remaining).map sampleAt) :
    boundedCountLoop sampleAt boundary remaining bounded =
      bounded + (records.takeWhile (sameSegment boundary)).length := by
  induction remaining generalizing bounded records with
  | zero =>
    subst stored
    rfl
  | succ remaining ih =>
    rw [range'_succ, map_cons] at stored
    subst stored
    rw [boundedCountLoop]
    by_cases same : sameSegment boundary (sampleAt bounded) = true
    · have joins : ((sampleAt bounded).configRevision != boundary.configRevision ||
          (sampleAt bounded).timingSegmentId != boundary.timingSegmentId) = false := by
        simpa [sameSegment, bne] using same
      rw [joins, takeWhile_cons_of_pos same]
      simp only [Bool.false_eq_true, if_false, length_cons]
      rw [ih (bounded + 1) _ rfl]
      omega
    have parts : ((sampleAt bounded).configRevision != boundary.configRevision ||
        (sampleAt bounded).timingSegmentId != boundary.timingSegmentId) = true := by
      simpa [sameSegment, bne, imp_iff_not_or] using same
    rw [parts, takeWhile_cons_of_neg same]
    simp

end SensorSystem.Node
