import Mathlib.Data.List.TakeWhile
import SensorSystem.Node.Measurement.ReferenceLog

/-! Break marks, leading sample runs and entry counts of a stretch of the log. The three kinds of
entries partition every stretch (`length_eq_counts`), which is the counting identity behind the
journal's cursor-to-slot computation. -/

namespace SensorSystem.Node

open Entry List
open ContinuityBreakRecord
open Base

variable {entries : List Entry} {position : Nat}

theorem le_atSequence_of_mem_breakMarks {mark : ContinuityBreakRecord}
    (member : mark ∈ breakMarks position entries) :
    position ≤ mark.atSequence ∧ mark.endSequence ≤ position + entries.length := by
  induction entries generalizing position with
  | nil => simp [breakMarks] at member
  | cons entry entries ih =>
    cases entry with
    | continuityBreak reason =>
      rcases List.mem_cons.mp member with rfl | later
      · simp only [endSequence, length_cons]
        omega
      · have bounds := ih later
        simp only [length_cons]
        omega
    | sample record =>
      have bounds := ih member
      simp only [length_cons]
      omega
    | gap reason =>
      have bounds := ih member
      simp only [length_cons]
      omega

/-- Discarding breaks leaves the marks of the remaining entries. -/
theorem dropWhile_breakMarks (position count : Nat) (entries : List Entry)
    (bounded : count ≤ entries.length) :
    (breakMarks position entries).dropWhile (fun mark => mark.endSequence ≤ position + count) =
      breakMarks (position + count) (entries.drop count) := by
  induction count generalizing position entries with
  | zero =>
    cases marks : breakMarks position entries with
    | nil => simp [marks]
    | cons first rest =>
      have bounds := le_atSequence_of_mem_breakMarks (marks ▸ mem_cons_self : first ∈ _)
      have kept : ¬ first.endSequence ≤ position := by
        simp only [endSequence]
        omega
      simp [marks, kept]
  | succ count ih =>
    cases entries with
    | nil => simp at bounded
    | cons entry entries =>
      have shifted : position + (count + 1) = position + 1 + count := by omega
      have later := ih (position + 1) entries (by simpa using bounded)
      cases entry with
      | sample record => simpa [breakMarks, shifted] using later
      | gap reason => simpa [breakMarks, shifted] using later
      | continuityBreak reason =>
        have dropped : endSequence ⟨position, reason⟩ ≤
            position + 1 + count := by
          simp only [endSequence]
          omega
        rw [breakMarks, shifted, dropWhile_cons, if_pos (by simpa using dropped), later,
          drop_succ_cons]

variable (marks : List ContinuityBreakRecord)

private theorem containingIn_eq_dropWhile (sequence : Nat) :
    ContinuityLedger.containingIn marks sequence =
      (marks.dropWhile fun mark => mark.endSequence ≤ sequence).head?.filter
        fun mark => mark.atSequence = sequence := by
  induction marks with
  | nil => rfl
  | cons candidate rest ih =>
    rw [ContinuityLedger.containingIn]
    by_cases dropped : candidate.endSequence ≤ sequence
    · have passed : candidate.atSequence < sequence := dropped
      rw [if_neg (by omega), if_neg (by omega), ih]
      simp [dropped]
    have reached : sequence ≤ candidate.atSequence := by
      simp only [endSequence] at dropped
      omega
    by_cases before : sequence < candidate.atSequence
    · simp [before, dropped, Option.filter, show candidate.atSequence ≠ sequence by omega]
    have found : sequence = candidate.atSequence := by omega
    simp [← found, dropped, Option.filter]

/-- The break found at a cursor is the break entry there. -/
theorem containingIn_breakMarks (position count : Nat) (entries : List Entry)
    (bounded : count ≤ entries.length) :
    ContinuityLedger.containingIn (breakMarks position entries) (position + count) =
      match entries.drop count with
      | .continuityBreak reason :: _ => some ⟨position + count, reason⟩
      | _ => none := by
  rw [containingIn_eq_dropWhile, dropWhile_breakMarks _ _ _ bounded]
  cases rest : entries.drop count with
  | nil => rfl
  | cons entry later =>
    have miss : ∀ marks, marks = breakMarks (position + count + 1) later →
        (marks.head?.filter fun mark => mark.atSequence = position + count) = none := by
      rintro marks rfl
      cases marks : breakMarks (position + count + 1) later with
      | nil => rfl
      | cons first others =>
        have bounds := le_atSequence_of_mem_breakMarks (marks ▸ mem_cons_self : first ∈ _)
        simp [Option.filter, show first.atSequence ≠ position + count by omega]
    cases entry with
    | continuityBreak reason => simp [breakMarks, Option.filter]
    | sample record => exact miss _ rfl
    | gap reason => exact miss _ rfl

theorem breakMarks_append_break (position : Nat) (entries : List Entry)
    (reason : ContinuityBreakReason) : breakMarks position (entries ++ [.continuityBreak reason]) =
      breakMarks position entries ++ [⟨position + entries.length, reason⟩] := by
  induction entries generalizing position with
  | nil => simp [breakMarks]
  | cons entry entries ih =>
    have shifted : position + (entries.length + 1) = position + 1 + entries.length := by omega
    cases entry <;> simp [breakMarks, ih, shifted]

theorem breakMarks_append_of_free (position : Nat) (entries added : List Entry)
    (free : ∀ entry ∈ added, entry.isBreak = false) :
    breakMarks position (entries ++ added) = breakMarks position entries := by
  induction entries generalizing position with
  | nil =>
    induction added generalizing position with
    | nil => rfl
    | cons entry added ih =>
      have headFree := free entry mem_cons_self
      have tail := ih (fun entry member => free entry (mem_cons_of_mem _ member))
        (position + 1)
      cases entry with
      | continuityBreak reason => simp [isBreak] at headFree
      | sample record => simpa [breakMarks] using tail
      | gap reason => simpa [breakMarks] using tail
  | cons entry entries ih => cases entry <;> simp [breakMarks, ih]

/-- The first mark, if any, follows a break-free stretch. -/
theorem breakMarks_eq_cons {first : ContinuityBreakRecord} {rest : List ContinuityBreakRecord}
    (marks : breakMarks position entries = first :: rest) :
    ∃ before after, entries = before ++ .continuityBreak first.reason :: after ∧
      (∀ entry ∈ before, entry.isBreak = false) ∧
      position + before.length = first.atSequence ∧
      breakMarks first.endSequence after = rest := by
  induction entries generalizing position with
  | nil => simp [breakMarks] at marks
  | cons entry entries ih =>
    cases entry with
    | continuityBreak reason =>
      rw [breakMarks] at marks
      obtain ⟨rfl, rfl⟩ := List.cons.inj marks
      exact ⟨[], entries, rfl, by simp, rfl, rfl⟩
    | sample record =>
      obtain ⟨before, after, split, free, start, later⟩ := ih marks
      refine ⟨.sample record :: before, after, by simp [split], ?_, ?_, later⟩
      · simpa [isBreak] using free
      · simp only [length_cons]
        omega
    | gap reason =>
      obtain ⟨before, after, split, free, start, later⟩ := ih marks
      refine ⟨.gap reason :: before, after, by simp [split], ?_, ?_, later⟩
      · simpa [isBreak] using free
      · simp only [length_cons]
        omega

theorem breakMarks_eq_nil :
    breakMarks position entries = [] ↔ ∀ entry ∈ entries, entry.isBreak = false := by
  induction entries generalizing position with
  | nil => simp [breakMarks]
  | cons entry entries ih => cases entry <;> simp [breakMarks, ih, isBreak]

theorem nextIn_eq_head?_dropWhile (gaps : List GapRecord) (sequence : Nat) :
    GapLedger.nextIn gaps sequence =
      (gaps.dropWhile fun gap => gap.endSequence ≤ sequence).head? := by
  induction gaps with
  | nil => rfl
  | cons candidate rest ih =>
    simp only [GapLedger.nextIn] at ih
    by_cases dropped : candidate.endSequence ≤ sequence
    · simp [GapLedger.nextIn, dropped, Nat.not_lt.mpr dropped, ih]
    · simp [GapLedger.nextIn, dropped, Nat.lt_of_not_le dropped]

theorem nextBreakIn_eq_head?_dropWhile (sequence : Nat) : ContinuityLedger.nextIn marks sequence =
      (marks.dropWhile fun mark => mark.endSequence ≤ sequence).head? := by
  induction marks with
  | nil => rfl
  | cons candidate rest ih =>
    simp only [ContinuityLedger.nextIn] at ih
    by_cases dropped : candidate.endSequence ≤ sequence
    · have passed : ¬ candidate.atSequence ≥ sequence := by
        simp only [endSequence] at dropped
        omega
      simp [ContinuityLedger.nextIn, dropped, passed, ih]
    have reached : candidate.atSequence ≥ sequence := by
      simp only [endSequence] at dropped
      omega
    simp [ContinuityLedger.nextIn, dropped, reached]

theorem nextIn_gapRuns (position count : Nat) (entries : List Entry)
    (bounded : count ≤ entries.length) :
    (GapLedger.nextIn (gapRuns position entries) (position + count)).map (fun next =>
        if next.firstMissing < position + count then GapLedger.trimGap next (position + count)
        else next) =
      (gapRuns (position + count) (entries.drop count)).head? := by
  rw [nextIn_eq_head?_dropWhile, ← discardIn_gapRuns _ _ _ bounded, GapLedger.discardIn]
  cases (gapRuns position entries).dropWhile fun gap => gap.endSequence ≤ position + count with
  | nil => rfl
  | cons first rest =>
    simp only [head?_cons, Option.map_some]
    split <;> rfl

theorem nextIn_breakMarks (position count : Nat) (entries : List Entry)
    (bounded : count ≤ entries.length) :
    ContinuityLedger.nextIn (breakMarks position entries) (position + count) =
      (breakMarks (position + count) (entries.drop count)).head? := by
  rw [nextBreakIn_eq_head?_dropWhile, dropWhile_breakMarks _ _ _ bounded]

@[simp] theorem samplesOf_sample (record : SampleRecord) (entries : List Entry) :
    samplesOf (.sample record :: entries) = record :: samplesOf entries := rfl

variable (reason : GapReason)

@[simp] theorem samplesOf_gap (entries : List Entry) :
    samplesOf (.gap reason :: entries) = samplesOf entries := rfl

@[simp] theorem samplesOf_continuityBreak (reason : ContinuityBreakReason) (entries : List Entry) :
    samplesOf (.continuityBreak reason :: entries) = samplesOf entries := rfl

theorem length_samplesOf (entries : List Entry) :
    (samplesOf entries).length = entries.countP isSample := by
  induction entries with
  | nil => rfl
  | cons entry entries ih =>
    cases entry <;> simp [ih, List.countP_cons, isSample]

/-- Every entry is a sample, a gap cursor or a break. -/
theorem length_eq_counts (entries : List Entry) :
    entries.length = (samplesOf entries).length + entries.countP isGap +
      entries.countP isBreak := by
  rw [length_samplesOf]
  induction entries with
  | nil => rfl
  | cons entry entries ih =>
    cases entry <;>
      simp only [length_cons, ih, List.countP_cons, isSample, isGap,
        isBreak, Bool.false_eq_true, if_false, if_true] <;> omega

theorem samplesOf_append (left right : List Entry) :
    samplesOf (left ++ right) = samplesOf left ++ samplesOf right :=
  filterMap_append

theorem takeWhile_eq_take_gapRun (entries : List Entry) :
    entries.take (gapRunLength reason entries) =
      entries.takeWhile (fun entry => entry = .gap reason) :=
  (prefix_iff_eq_take.mp (List.takeWhile_prefix _)).symm

theorem eq_gap_of_mem_take_gapRun {reason : GapReason} {entry : Entry}
    (member : entry ∈ entries.take (gapRunLength reason entries)) : entry = .gap reason := by
  rw [takeWhile_eq_take_gapRun] at member
  simpa using mem_takeWhile_imp member

/-- A run of gap entries holds no samples. -/
theorem samplesOf_take_gapRun (entries : List Entry) :
    samplesOf (entries.take (gapRunLength reason entries)) = [] := by
  rw [samplesOf, filterMap_eq_nil_iff]
  intro entry member
  rw [eq_gap_of_mem_take_gapRun member]
  rfl

theorem breakMarks_append_of_free_left {before : List Entry}
    (free : ∀ entry ∈ before, entry.isBreak = false) (position : Nat) (after : List Entry) :
    breakMarks position (before ++ after) = breakMarks (position + before.length) after := by
  induction before generalizing position with
  | nil => rfl
  | cons entry before ih =>
    have headFree := free entry mem_cons_self
    have tail := ih (fun entry member => free entry (mem_cons_of_mem _ member)) (position + 1)
    have shifted : position + (before.length + 1) = position + 1 + before.length := by omega
    cases entry with
    | continuityBreak reason => simp [isBreak] at headFree
    | sample record => simpa [breakMarks, shifted] using tail
    | gap reason => simpa [breakMarks, shifted] using tail

/-- A run of gap entries holds no breaks. -/
theorem breakMarks_drop_gapRun (entries : List Entry) (position : Nat) :
    breakMarks position entries = breakMarks (position + gapRunLength reason entries)
      (entries.drop (gapRunLength reason entries)) := by
  have free : ∀ entry ∈ entries.take (gapRunLength reason entries), entry.isBreak = false := by
    intro entry member
    rw [eq_gap_of_mem_take_gapRun member]
    rfl
  have length : (entries.take (gapRunLength reason entries)).length =
      gapRunLength reason entries := by
    rw [takeWhile_eq_take_gapRun, gapRunLength]
  conv_lhs => rw [← take_append_drop (gapRunLength reason entries) entries]
  rw [breakMarks_append_of_free_left free, length]

theorem countP_eq_zero_of_free {kind : Entry → Bool}
    (free : ∀ entry ∈ entries, kind entry = false) : entries.countP kind = 0 := by
  rw [countP_eq_zero]
  intro entry member
  simp [free entry member]

/-- A run of samples is the payload of the leading sample entries. -/
theorem samplesOf_take_sampleRun (entries : List Entry) (count : Nat)
    (bounded : count ≤ sampleRunLength entries) :
    (samplesOf entries).take count = samplesOf (entries.take count) ∧
      (samplesOf (entries.take count)).length = count := by
  induction count generalizing entries with
  | zero => simp [samplesOf]
  | succ count ih =>
    cases entries with
    | nil => simp [sampleRunLength] at bounded
    | cons entry entries =>
      cases entry with
      | gap reason => simp [sampleRunLength, isSample] at bounded
      | continuityBreak reason => simp [sampleRunLength, isSample] at bounded
      | sample record =>
        have shorter : count ≤ sampleRunLength entries := by
          have longer : sampleRunLength (.sample record :: entries) =
              sampleRunLength entries + 1 := by
            rw [sampleRunLength, takeWhile_cons_of_pos rfl, length_cons, sampleRunLength]
          omega
        obtain ⟨taken, length⟩ := ih entries shorter
        simp only [samplesOf, filterMap_cons, sample?, take_succ_cons,
          length_cons] at taken length ⊢
        exact ⟨by rw [taken], by rw [length]⟩

end SensorSystem.Node

/-! The gap runs and break marks of a stretch of the log are sorted, disjoint and inside the
stretch, and their sizes add up to the number of exception entries. -/

namespace SensorSystem.Node

variable {entries : List Entry} {gap : GapRecord} {position : Nat}
  (member : gap ∈ gapRuns position entries)

include member

/-- Every run is a block of equal gap entries of the log. -/
theorem eq_append_of_mem_gapRuns : ∃ before after,
      entries = before ++ List.replicate gap.missingCount (.gap gap.reason) ++ after ∧
      position + before.length = gap.firstMissing ∧ 0 < gap.missingCount := by
  generalize runs : gapRuns position entries = gaps at member
  induction gaps generalizing position entries with
  | nil => simp at member
  | cons first rest ih =>
    obtain ⟨before, after, shape, -, start, positive, later⟩ := gapRuns_eq_cons runs
    rcases List.mem_cons.mp member with rfl | inRest
    · exact ⟨before, after, shape, start, positive⟩
    obtain ⟨skipped, tail, split, begins, counted⟩ := ih later inRest
    refine ⟨before ++ List.replicate first.missingCount (.gap first.reason) ++ skipped, tail,
      ?_, ?_, counted⟩
    · rw [shape, split]
      simp only [List.append_assoc]
    · simp only [GapRecord.endSequence] at begins
      simp only [List.length_append, List.length_replicate]
      omega

theorem bounds_of_mem_gapRuns :
    position ≤ gap.firstMissing ∧ gap.endSequence ≤ position + entries.length := by
  obtain ⟨before, after, rfl, start, -⟩ := eq_append_of_mem_gapRuns member
  simp only [GapRecord.endSequence, List.length_append, List.length_replicate]
  omega

/-- The entry at a cursor inside a recorded gap is a gap entry. -/
theorem getElem?_of_mem_gapRuns {cursor : Nat} (from_ : gap.firstMissing ≤ cursor)
    (before : cursor < gap.endSequence) : entries[cursor - position]? = some (.gap gap.reason) := by
  obtain ⟨front, after, rfl, start, -⟩ := eq_append_of_mem_gapRuns member
  simp only [GapRecord.endSequence] at before
  rw [List.append_assoc, List.getElem?_append_right (by omega),
    List.getElem?_append_left (by rw [List.length_replicate]; omega), List.getElem?_replicate,
    if_pos (by omega)]

omit member

variable {mark : ContinuityBreakRecord}

theorem getElem?_of_mem_breakMarks (member : mark ∈ breakMarks position entries) :
    entries[mark.atSequence - position]? = some (.continuityBreak mark.reason) := by
  induction entries generalizing position with
  | nil => simp [breakMarks] at member
  | cons entry entries ih =>
    have shifted : mark ∈ breakMarks (position + 1) entries →
        (entry :: entries)[mark.atSequence - position]? =
          some (.continuityBreak mark.reason) := by
      intro later
      have bounds := le_atSequence_of_mem_breakMarks later
      rw [show mark.atSequence - position = mark.atSequence - (position + 1) + 1 by omega,
        List.getElem?_cons_succ, ih later]
    cases entry with
    | continuityBreak reason =>
      rcases List.mem_cons.mp member with rfl | later
      · simp
      · exact shifted later
    | sample record => exact shifted member
    | gap reason => exact shifted member

/-- Recorded gaps are in order and do not overlap. -/
theorem pairwise_gapRuns (position : Nat) (entries : List Entry) :
    (gapRuns position entries).Pairwise fun left right =>
      left.endSequence ≤ right.firstMissing := by
  generalize runs : gapRuns position entries = gaps
  induction gaps generalizing position entries with
  | nil => exact List.Pairwise.nil
  | cons first rest ih =>
    obtain ⟨before, after, -, -, -, -, later⟩ := gapRuns_eq_cons runs
    refine List.Pairwise.cons ?_ (ih _ _ later)
    intro gap member
    exact (bounds_of_mem_gapRuns (later ▸ member)).1

/-- Recorded breaks are in order and at different cursors. -/
theorem pairwise_breakMarks (position : Nat) (entries : List Entry) :
    (breakMarks position entries).Pairwise fun left right =>
      left.endSequence ≤ right.atSequence := by
  induction entries generalizing position with
  | nil => exact List.Pairwise.nil
  | cons entry entries ih =>
    cases entry with
    | continuityBreak reason =>
      refine List.Pairwise.cons ?_ (ih _)
      intro mark member
      exact (le_atSequence_of_mem_breakMarks member).1
    | sample record => exact ih _
    | gap reason => exact ih _

/-- No break lies inside a recorded gap. -/
theorem gapRuns_breakMarks_disjoint (gapMember : gap ∈ gapRuns position entries)
    (markMember : mark ∈ breakMarks position entries) :
    mark.endSequence ≤ gap.firstMissing ∨ gap.endSequence ≤ mark.atSequence := by
  rcases Nat.lt_or_ge mark.atSequence gap.firstMissing with early | reached
  · exact Or.inl early
  refine Or.inr (Nat.le_of_not_lt fun inside => ?_)
  have missing := getElem?_of_mem_gapRuns gapMember reached inside
  rw [getElem?_of_mem_breakMarks markMember] at missing
  simp at missing

theorem sum_missingCount_gapRuns (position : Nat) (entries : List Entry) :
    ((gapRuns position entries).map GapRecord.missingCount).sum = entries.countP Entry.isGap := by
  generalize runs : gapRuns position entries = gaps
  induction gaps generalizing position entries with
  | nil => exact (countP_eq_zero_of_free (gapRuns_eq_nil.mp runs)).symm
  | cons first rest ih =>
    obtain ⟨before, after, shape, free, -, -, later⟩ := gapRuns_eq_cons runs
    rw [List.map_cons, List.sum_cons, ih _ _ later, shape]
    simp [countP_eq_zero_of_free free, List.countP_replicate, Entry.isGap]

theorem length_breakMarks (position : Nat) (entries : List Entry) :
    (breakMarks position entries).length = entries.countP Entry.isBreak := by
  induction entries generalizing position with
  | nil => rfl
  | cons entry entries ih =>
    cases entry <;> simp [breakMarks, ih, List.countP_cons, Entry.isBreak]

end SensorSystem.Node
