import SensorSystem.Node.Measurement.Ledgers

/-! An append-only list of stream entries, one per cursor. It forgets every storage decision of
the journal: nothing is released, discarded or bounded. The gap and break ledgers of a journal are
functions of the retained suffix of this log (`gapRuns` and `breakMarks`), and this module relates
those functions to the ledger operations on their content. -/

namespace SensorSystem.Node

open GapLedger GapRecord List
open Base

/-- What the stream holds at one cursor. -/
inductive Entry where
  | sample (record : SampleRecord)
  | gap (reason : GapReason)
  | continuityBreak (reason : ContinuityBreakReason)
deriving DecidableEq

namespace Entry

def isSample : Entry → Bool
  | sample _ => true
  | _ => false

def isGap : Entry → Bool
  | gap _ => true
  | _ => false

def isBreak : Entry → Bool
  | continuityBreak _ => true
  | _ => false

/-- The stored payload of a sample entry. -/
def sample? : Entry → Option SampleRecord
  | sample record => some record
  | _ => none

end Entry

/-- The samples of a stretch of the log, in order. -/
def samplesOf (entries : List Entry) : List SampleRecord :=
  entries.filterMap Entry.sample?

/-- Put one missing cursor in front of the gaps that follow it. -/
def consGap (position : Nat) (reason : GapReason) : List GapRecord → List GapRecord
  | [] => [⟨position, 1, reason⟩]
  | next :: rest =>
    if next.firstMissing = position + 1 ∧ next.reason = reason then
      ⟨position, next.missingCount + 1, reason⟩ :: rest
    else ⟨position, 1, reason⟩ :: next :: rest

/-- The maximal runs of equal gap entries, with the first entry at `position`. -/
def gapRuns : Nat → List Entry → List GapRecord
  | _, [] => []
  | position, .gap reason :: entries => consGap position reason (gapRuns (position + 1) entries)
  | position, _ :: entries => gapRuns (position + 1) entries

/-- The continuity breaks, with the first entry at `position`. -/
def breakMarks : Nat → List Entry → List ContinuityBreakRecord
  | _, [] => []
  | position, .continuityBreak reason :: entries =>
    ⟨position, reason⟩ :: breakMarks (position + 1) entries
  | position, _ :: entries => breakMarks (position + 1) entries

/-- The leading entries that continue a gap of one reason. -/
def gapRunLength (reason : GapReason) (entries : List Entry) : Nat :=
  (entries.takeWhile fun entry => entry = .gap reason).length

/-- The leading samples. -/
def sampleRunLength (entries : List Entry) : Nat :=
  (entries.takeWhile Entry.isSample).length

variable {entries : List Entry} {position : Nat} {first : GapRecord} {rest : List GapRecord}

/-- The first run is a block of equal gap entries. -/
theorem gapRuns_eq_cons (runs : gapRuns position entries = first :: rest) : ∃ before after,
      entries = before ++ replicate first.missingCount (.gap first.reason) ++ after ∧
      (∀ entry ∈ before, entry.isGap = false) ∧
      position + before.length = first.firstMissing ∧ 0 < first.missingCount ∧
      gapRuns first.endSequence after = rest := by
  induction entries generalizing position first rest with
  | nil => simp [gapRuns] at runs
  | cons entry entries ih =>
    cases entry with
    | sample record =>
      obtain ⟨before, after, split, free, start, positive, later⟩ := ih runs
      refine ⟨.sample record :: before, after, by simp [split], ?_, ?_, positive, later⟩
      · simpa [Entry.isGap] using free
      · simp only [length_cons]
        omega
    | continuityBreak reason =>
      obtain ⟨before, after, split, free, start, positive, later⟩ := ih runs
      refine ⟨.continuityBreak reason :: before, after, by simp [split], ?_, ?_, positive, later⟩
      · simpa [Entry.isGap] using free
      · simp only [length_cons]
        omega
    | gap reason =>
      rw [gapRuns] at runs
      cases following : gapRuns (position + 1) entries with
      | nil =>
        rw [following, consGap] at runs
        obtain ⟨rfl, rfl⟩ := List.cons.inj runs
        exact ⟨[], entries, rfl, by simp, rfl, Nat.one_pos, following⟩
      | cons next later =>
        rw [following, consGap] at runs
        split at runs
        · rename_i continues
          obtain ⟨rfl, rfl⟩ := List.cons.inj runs
          obtain ⟨before, after, split, free, start, positive, tail⟩ := ih following
          have none : before = [] := eq_nil_of_length_eq_zero (by omega)
          subst none
          refine ⟨[], after, ?_, by simp, rfl, Nat.succ_pos _, ?_⟩
          · simp [split, continues.2, replicate_succ]
          have ends : endSequence ⟨position, next.missingCount + 1, reason⟩ =
              next.endSequence := by
            simp only [endSequence, continues.1]
            omega
          rw [ends, tail]
        · obtain ⟨rfl, rfl⟩ := List.cons.inj runs
          exact ⟨[], entries, rfl, by simp, rfl, Nat.one_pos, following⟩

/-- Without gap entries there are no runs, and conversely. -/
theorem gapRuns_eq_nil :
    gapRuns position entries = [] ↔ ∀ entry ∈ entries, entry.isGap = false := by
  induction entries generalizing position with
  | nil => simp [gapRuns]
  | cons entry entries ih =>
    cases entry with
    | sample record => simp [gapRuns, ih, Entry.isGap]
    | continuityBreak reason => simp [gapRuns, ih, Entry.isGap]
    | gap reason =>
      have occupied : gapRuns position (.gap reason :: entries) ≠ [] := by
        rw [gapRuns]
        cases gapRuns (position + 1) entries with
        | nil => simp [consGap]
        | cons next rest =>
          rw [consGap]
          split <;> simp
      simp [occupied, Entry.isGap]

/-- Every run starts at or after the position of the first entry. -/
theorem le_firstMissing_of_gapRuns (runs : gapRuns position entries = first :: rest) :
    position ≤ first.firstMissing := by
  obtain ⟨before, after, _, _, start, _, _⟩ := gapRuns_eq_cons runs
  omega

/-- A leading gap entry starts a run of all equal ones behind it. -/
theorem gapRuns_gap (position : Nat) (reason : GapReason) (entries : List Entry) :
    gapRuns position (.gap reason :: entries) =
      ⟨position, gapRunLength reason entries + 1, reason⟩ ::
        gapRuns (position + 1 + gapRunLength reason entries)
          (entries.drop (gapRunLength reason entries)) := by
  induction entries generalizing position with
  | nil => simp [gapRuns, consGap, gapRunLength]
  | cons entry entries ih =>
    by_cases continues : entry = .gap reason
    · subst continues
      have length : gapRunLength reason (.gap reason :: entries) =
          gapRunLength reason entries + 1 := by simp [gapRunLength]
      rw [gapRuns, ih, length, consGap, if_pos ⟨rfl, rfl⟩, drop_succ_cons]
      congr 2
      omega
    have length : gapRunLength reason (entry :: entries) = 0 := by
      simp [gapRunLength, continues]
    rw [gapRuns, length]
    simp only [Nat.zero_add, Nat.add_zero, drop_zero]
    cases runs : gapRuns (position + 1) (entry :: entries) with
    | nil => rfl
    | cons next rest =>
      rw [consGap, if_neg]
      rintro ⟨start, sameReason⟩
      obtain ⟨before, after, split, _, begins, positive, _⟩ := gapRuns_eq_cons runs
      have none : before = [] := eq_nil_of_length_eq_zero (by omega)
      subst none
      obtain ⟨count, counted⟩ := Nat.exists_eq_succ_of_ne_zero (Nat.ne_of_gt positive)
      rw [counted, sameReason] at split
      simp only [replicate_succ, nil_append, cons_append] at split
      exact continues (List.cons.inj split).1

private theorem discardIn_gapRuns_self (position : Nat) (entries : List Entry) :
    discardIn (gapRuns position entries) position = gapRuns position entries := by
  cases runs : gapRuns position entries with
  | nil => rfl
  | cons first rest =>
    obtain ⟨before, after, _, _, start, positive, _⟩ := gapRuns_eq_cons runs
    have kept : ¬ first.endSequence ≤ position := by
      simp only [endSequence]
      omega
    have whole : ¬ first.firstMissing < position := by omega
    simp [discardIn, kept, whole]

private theorem discardIn_gapRuns_cons (position cursor : Nat) (entry : Entry)
    (entries : List Entry) (later : position + 1 ≤ cursor) :
    discardIn (gapRuns position (entry :: entries)) cursor =
      discardIn (gapRuns (position + 1) entries) cursor := by
  cases entry with
  | sample record => rfl
  | continuityBreak reason => rfl
  | gap reason =>
    rw [gapRuns]
    have single : endSequence ⟨position, 1, reason⟩ ≤ cursor := later
    cases runs : gapRuns (position + 1) entries with
    | nil => simp [consGap, discardIn, single]
    | cons next rest =>
      rw [consGap]
      split
      · rename_i continues
        have ends : endSequence ⟨position, next.missingCount + 1, reason⟩ =
            next.endSequence := by
          simp only [endSequence, continues.1]
          omega
        by_cases dropped : next.endSequence ≤ cursor
        · simp [discardIn, ends, dropped]
        have crossing : position < cursor := by omega
        simp only [discardIn, ends, dropped, dropWhile_cons, decide_false,
          Bool.false_eq_true, if_false, crossing, if_true, trimGap]
        by_cases trimmed : next.firstMissing < cursor
        · simp [trimmed, continues.2]
        have exact_ : next.firstMissing = cursor := by omega
        have count : next.endSequence - cursor = next.missingCount := by
          simp only [endSequence]
          omega
        rw [if_neg trimmed, count]
        obtain ⟨nextFirst, nextCount, nextReason⟩ := next
        simp_all
      · simp [discardIn, single]

/-- Discarding leaves exactly the runs of the remaining entries. -/
theorem discardIn_gapRuns (position count : Nat) (entries : List Entry)
    (bounded : count ≤ entries.length) :
    discardIn (gapRuns position entries) (position + count) =
      gapRuns (position + count) (entries.drop count) := by
  induction count generalizing position entries with
  | zero => exact discardIn_gapRuns_self position entries
  | succ count ih =>
    cases entries with
    | nil => simp at bounded
    | cons entry entries =>
      have shifted : position + (count + 1) = position + 1 + count := by omega
      rw [discardIn_gapRuns_cons _ _ _ _ (by omega), shifted,
        ih _ _ (by simpa using bounded), drop_succ_cons]

/-- A lookup is the head of the discarded ledger. -/
theorem containingIn_eq_discardIn (gaps : List GapRecord) (sequence : Nat) :
    containingIn gaps sequence =
      (discardIn gaps sequence).head?.filter
        fun gap => gap.firstMissing = sequence := by
  induction gaps with
  | nil => rfl
  | cons candidate rest ih =>
    rw [containingIn]
    by_cases before : sequence < candidate.firstMissing
    · have kept : ¬ candidate.endSequence ≤ sequence := by
        simp only [endSequence]
        omega
      have whole : ¬ candidate.firstMissing < sequence := by omega
      have apart : candidate.firstMissing ≠ sequence := by omega
      simp [discardIn, before, kept, whole, Option.filter, apart]
    rw [if_neg before]
    by_cases inside : sequence < candidate.endSequence
    · have kept : ¬ candidate.endSequence ≤ sequence := by omega
      rw [if_pos inside]
      by_cases trimmed : candidate.firstMissing < sequence
      · simp [discardIn, kept, trimmed, trimGap, Option.filter]
      have start : candidate.firstMissing = sequence := by omega
      have count : candidate.endSequence - sequence = candidate.missingCount := by
        simp only [endSequence]
        omega
      obtain ⟨first, missing, reason⟩ := candidate
      subst start
      simp only [count]
      simp [discardIn, kept, Option.filter]
    · have dropped : candidate.endSequence ≤ sequence := by omega
      rw [if_neg inside, ih]
      simp [discardIn, dropped]

/-- The gap found at a cursor is the rest of its run. -/
theorem containingIn_gapRuns (position count : Nat) (entries : List Entry)
    (bounded : count ≤ entries.length) :
    containingIn (gapRuns position entries) (position + count) =
      match entries.drop count with
      | .gap reason :: later => some ⟨position + count, gapRunLength reason later + 1, reason⟩
      | _ => none := by
  rw [containingIn_eq_discardIn, discardIn_gapRuns _ _ _ bounded]
  cases rest : entries.drop count with
  | nil => rfl
  | cons entry later =>
    cases entry with
    | gap reason => simp [gapRuns_gap, Option.filter]
    | sample record =>
      cases runs : gapRuns (position + count) (.sample record :: later) with
      | nil => rfl
      | cons first others =>
        have start : position + count + 1 ≤ first.firstMissing := le_firstMissing_of_gapRuns runs
        simp [Option.filter, show first.firstMissing ≠ position + count by omega]
    | continuityBreak reason =>
      cases runs : gapRuns (position + count) (.continuityBreak reason :: later) with
      | nil => rfl
      | cons first others =>
        have start : position + count + 1 ≤ first.firstMissing := le_firstMissing_of_gapRuns runs
        simp [Option.filter, show first.firstMissing ≠ position + count by omega]

private theorem appendIn_cons (first : GapRecord) (gaps : List GapRecord) (gap : GapRecord)
    (occupied : gaps ≠ []) :
    appendIn (first :: gaps) gap = first :: appendIn gaps gap := by
  obtain ⟨second, rest, rfl⟩ := exists_cons_of_ne_nil occupied
  simp only [appendIn, getLast?_cons_cons, dropLast_cons_cons]
  cases final : (second :: rest).getLast? with
  | none => simp at final
  | some last =>
    simp only
    split <;> rfl

private theorem consGap_appendIn (position : Nat) (reason : GapReason) (gaps : List GapRecord)
    (gap : GapRecord) : consGap position reason (appendIn gaps gap) =
      appendIn (consGap position reason gaps) gap := by
  cases gaps with
  | nil =>
    simp only [appendIn, getLast?_nil, consGap, getLast?_singleton,
      dropLast_singleton, nil_append, endSequence]
    by_cases continues : gap.firstMissing = position + 1 ∧ gap.reason = reason
    · simp [continues, Nat.add_comm]
    · simp [continues]
  | cons first rest =>
    cases rest with
    | nil =>
      simp only [appendIn, getLast?_singleton, dropLast_singleton,
        nil_append, consGap]
      by_cases joins : gap.firstMissing = first.endSequence ∧ gap.reason = first.reason
      · by_cases continues : first.firstMissing = position + 1 ∧ first.reason = reason
        · have ends : endSequence ⟨position, first.missingCount + 1, reason⟩ =
              first.endSequence := by
            simp only [endSequence, continues.1]
            omega
          simp [joins, continues, ends, Nat.add_right_comm]
        · simp [joins, continues]
      by_cases continues : first.firstMissing = position + 1 ∧ first.reason = reason
      · have ends : endSequence ⟨position, first.missingCount + 1, reason⟩ =
            first.endSequence := by
          simp only [endSequence, continues.1]
          omega
        have apart : ¬ (gap.firstMissing = first.endSequence ∧ gap.reason = reason) := by
          rwa [continues.2] at joins
        simp [continues, ends, apart]
      · simp [joins, continues]
    | cons second rest =>
      rw [appendIn_cons _ _ _ (cons_ne_nil _ _), consGap, consGap]
      split
      · rw [appendIn_cons _ _ _ (cons_ne_nil _ _)]
      rw [appendIn_cons _ _ _ (cons_ne_nil _ _),
        appendIn_cons _ _ _ (cons_ne_nil _ _)]

theorem gapRuns_append_replicate (position count : Nat) (reason : GapReason)
    (entries : List Entry) (positive : 0 < count) :
    gapRuns position (entries ++ replicate count (.gap reason)) =
      appendIn (gapRuns position entries)
        ⟨position + entries.length, count, reason⟩ := by
  induction entries generalizing position with
  | nil =>
    obtain ⟨count, rfl⟩ := Nat.exists_eq_succ_of_ne_zero (Nat.ne_of_gt positive)
    have length : gapRunLength reason (replicate count (.gap reason)) = count := by
      simp [gapRunLength]
    rw [nil_append, replicate_succ, gapRuns_gap, length]
    simp [appendIn, gapRuns]
  | cons entry entries ih =>
    have shifted : position + (entries.length + 1) = position + 1 + entries.length := by omega
    cases entry with
    | sample record => simp only [cons_append, gapRuns, ih, length_cons, shifted]
    | continuityBreak mark =>
      simp only [cons_append, gapRuns, ih, length_cons, shifted]
    | gap other =>
      simp only [cons_append, gapRuns, ih, length_cons, shifted, consGap_appendIn]

/-- A sample at the end of the log adds no gap. -/
theorem gapRuns_append_single (position : Nat) (entries : List Entry) {entry : Entry}
    (free : entry.isGap = false) :
    gapRuns position (entries ++ [entry]) = gapRuns position entries := by
  induction entries generalizing position with
  | nil => cases entry <;> simp_all [gapRuns, Entry.isGap]
  | cons head entries ih => cases head <;> simp [gapRuns, ih]

end SensorSystem.Node
