import SensorSystem.Base.Ring
import SensorSystem.Node.Measurement.Records

/-! The bounded metadata ledgers of `stream_gap.h` and `stream_continuity.h`. Each stores its
records in a ring. The lookup loops walk the records from the oldest on, so they are defined over
the logical content; the lemmas below state what every mutation does to that content. -/

namespace SensorSystem.Node

open Base

inductive GapAppendStatus where
  | ok
  | coalesced
  | invalidGap
  | outOfOrder
  | full
deriving DecidableEq

/-- Fixed-capacity metadata for exact missing ranges. -/
structure GapLedger (capacity : Nat) where
  records : Ring GapRecord capacity

namespace GapLedger

variable {capacity : Nat}

def empty (positive : 0 < capacity) : GapLedger capacity :=
  ⟨Ring.empty positive default⟩

/-- The recorded gaps from the oldest on. -/
def toList (ledger : GapLedger capacity) : List GapRecord :=
  ledger.records.toList

def size (ledger : GapLedger capacity) : Nat :=
  ledger.records.size

variable (ledger : GapLedger capacity)

def oldest : Option GapRecord :=
  if ledger.size = 0 then none else some (ledger.records.get 0)

variable (gap : GapRecord)

/-- Record a gap, merging it into the last one when it continues that gap. -/
def append : GapAppendStatus × GapLedger capacity :=
  if !gap.valid then (.invalidGap, ledger)
  else
    let last := ledger.records.back
    if ledger.size ≠ 0 ∧ gap.firstMissing < last.endSequence then (.outOfOrder, ledger)
    else if ledger.size ≠ 0 ∧ gap.firstMissing = last.endSequence ∧ gap.reason = last.reason then
      if last.missingCount > uint64Max - gap.missingCount then (.invalidGap, ledger)
      else
        (.coalesced, ⟨ledger.records.set (ledger.size - 1)
          { last with missingCount := last.missingCount + gap.missingCount }⟩)
    else if ledger.size = capacity then (.full, ledger)
    else (.ok, ⟨ledger.records.push gap⟩)

/-- The remaining part of the gap containing a sequence number, if any. -/
def containingIn : List GapRecord → Nat → Option GapRecord
  | [], _ => none
  | candidate :: rest, sequence =>
    if sequence < candidate.firstMissing then none
    else if sequence < candidate.endSequence then
      some ⟨sequence, candidate.endSequence - sequence, candidate.reason⟩
    else containingIn rest sequence

def containing (sequence : Nat) : Option GapRecord :=
  containingIn ledger.toList sequence

variable (gaps : List GapRecord)

/-- The first gap whose end is after a sequence number. -/
def nextIn (sequence : Nat) : Option GapRecord :=
  gaps.find? fun candidate => candidate.endSequence > sequence

def nextFrom (sequence : Nat) : Option GapRecord :=
  nextIn ledger.toList sequence

/-- The tail of a gap from a retention cursor on. -/
def trimGap (cursor : Nat) : GapRecord :=
  { gap with missingCount := gap.endSequence - cursor, firstMissing := cursor }

/-- Remove metadata before a retention cursor and trim a gap crossing it. -/
def discardBefore (cursor : Nat) : GapLedger capacity :=
  let remaining := ledger.records.popWhile fun gap => gap.endSequence ≤ cursor
  if remaining.size ≠ 0 ∧ (remaining.get 0).firstMissing < cursor then
    ⟨remaining.set 0 (trimGap (remaining.get 0) cursor)⟩
  else ⟨remaining⟩

/-- `discardBefore` on the logical content. -/
def discardIn (cursor : Nat) : List GapRecord :=
  match gaps.dropWhile fun gap => gap.endSequence ≤ cursor with
  | [] => []
  | first :: rest =>
    if first.firstMissing < cursor then trimGap first cursor :: rest else first :: rest

/-- `append` on the logical content, capacity aside. -/
def appendIn (gap : GapRecord) : List GapRecord :=
  match gaps.getLast? with
  | none => [gap]
  | some last =>
    if gap.firstMissing = last.endSequence ∧ gap.reason = last.reason then
      gaps.dropLast ++ [{ last with missingCount := last.missingCount + gap.missingCount }]
    else gaps ++ [gap]

@[simp] theorem length_toList : ledger.toList.length = ledger.size :=
  ledger.records.length_toList

theorem size_le : ledger.size ≤ capacity :=
  ledger.records.sizeBounded

theorem oldest_eq_head? : ledger.oldest = ledger.toList.head? := by
  by_cases vacant : ledger.size = 0
  · simp [oldest, vacant, toList, (Ring.toList_eq_nil ledger.records).mpr vacant]
  · simp [oldest, vacant, toList, Ring.toList_eq_cons ledger.records vacant]

theorem getLast?_toList (occupied : ledger.size ≠ 0) :
    ledger.toList.getLast? = some ledger.records.back := by
  rw [toList, Ring.toList_eq_dropLast_append ledger.records occupied, List.getLast?_concat]

/-- Discarding metadata acts on the content as `discardIn`. -/
theorem toList_discardBefore (cursor : Nat) :
    (ledger.discardBefore cursor).toList = discardIn ledger.toList cursor := by
  simp only [discardBefore, discardIn, toList, ← Ring.toList_popWhile]
  by_cases vacant : (ledger.records.popWhile fun gap => gap.endSequence ≤ cursor).size = 0
  · simp [vacant, (Ring.toList_eq_nil _).mpr vacant]
  have shape := Ring.toList_eq_cons _ vacant
  split
  · rename_i crossing
    rw [Ring.toList_set _ _ _ (Nat.pos_of_ne_zero vacant), shape]
    simp [crossing.2]
  rename_i crossing
  rw [shape]
  simp [show ¬ _ < cursor from fun below => crossing ⟨vacant, below⟩]

theorem append_spec (valid : gap.valid = true)
    (ordered : ∀ last ∈ ledger.toList.getLast?, last.endSequence ≤ gap.firstMissing) :
    (ledger.append gap = (.full, ledger) ∧ ledger.size = capacity) ∨
      ∃ status next, ledger.append gap = (status, next) ∧
        (status = .ok ∨ status = .coalesced) ∧ next.toList = appendIn ledger.toList gap := by
  have bounds := (GapRecord.valid_iff gap).mp valid
  simp only [append, valid, Bool.not_true, Bool.false_eq_true, if_false]
  by_cases vacant : ledger.size = 0
  · have empty : ledger.toList = [] := (Ring.toList_eq_nil ledger.records).mpr vacant
    have room : ledger.records.size < capacity := by
      have positive := Nat.zero_lt_of_lt ledger.records.headBounded
      simp only [size] at vacant
      omega
    have open_ : ledger.size ≠ capacity := Nat.ne_of_lt room
    refine Or.inr ⟨.ok, ⟨ledger.records.push gap⟩, ?_, Or.inl rfl, ?_⟩
    · simp [vacant, show ¬ 0 = capacity from vacant ▸ open_]
    · simp [toList, Ring.toList_push _ _ room, appendIn,
        (Ring.toList_eq_nil ledger.records).mpr vacant]
  · have last := getLast?_toList ledger vacant
    have inOrder := ordered _ last
    rw [if_neg (fun both => absurd both.2 (Nat.not_lt.mpr inOrder))]
    by_cases continues : gap.firstMissing = ledger.records.back.endSequence ∧
        gap.reason = ledger.records.back.reason
    · have fits : ¬ ledger.records.back.missingCount > uint64Max - gap.missingCount := by
        have endBounded := bounds.2.1
        have continued := continues.1
        simp only [GapRecord.endSequence] at endBounded continued
        omega
      rw [if_pos ⟨vacant, continues⟩, if_neg fits]
      refine Or.inr ⟨.coalesced, _, rfl, Or.inr rfl, ?_⟩
      have live : ledger.size - 1 < ledger.records.size := by
        simp only [size] at vacant ⊢
        omega
      have shape := Ring.toList_eq_dropLast_append ledger.records vacant
      simp only [appendIn, last, if_pos continues]
      rw [toList, Ring.toList_set _ _ _ live, toList]
      have length : ledger.records.toList.dropLast.length = ledger.size - 1 := by
        simp [size]
      conv_lhs => rw [shape, ← length]
      simp
    · rw [if_neg (fun both => continues both.2)]
      by_cases filled : ledger.size = capacity
      · exact Or.inl ⟨by rw [if_pos filled], filled⟩
      have room : ledger.records.size < capacity := by
        have := ledger.size_le
        simp only [size] at filled this ⊢
        omega
      refine Or.inr ⟨.ok, ⟨ledger.records.push gap⟩, by rw [if_neg filled], Or.inl rfl, ?_⟩
      simp only [appendIn, last, if_neg continues]
      exact Ring.toList_push _ _ room

/-- A ledger that is not full accepts every valid gap. -/
theorem append_of_room (valid : gap.valid = true)
    (ordered : ∀ last ∈ ledger.toList.getLast?, last.endSequence ≤ gap.firstMissing)
    (room : ledger.size < capacity) : ∃ status next, ledger.append gap = (status, next) ∧
      (status = .ok ∨ status = .coalesced) ∧ next.toList = appendIn ledger.toList gap := by
  rcases ledger.append_spec gap valid ordered with ⟨_, filled⟩ | accepted
  · omega
  · exact accepted

end GapLedger

inductive ContinuityAppendStatus where
  | ok
  | invalidBreak
  | outOfOrder
  | full
deriving DecidableEq

/-- Fixed-capacity metadata for continuity breaks. -/
structure ContinuityLedger (capacity : Nat) where
  records : Ring ContinuityBreakRecord capacity

namespace ContinuityLedger

variable {capacity : Nat}

def empty (positive : 0 < capacity) : ContinuityLedger capacity :=
  ⟨Ring.empty positive default⟩

/-- The recorded breaks from the oldest on. -/
def toList (ledger : ContinuityLedger capacity) : List ContinuityBreakRecord :=
  ledger.records.toList

def size (ledger : ContinuityLedger capacity) : Nat :=
  ledger.records.size

variable (ledger : ContinuityLedger capacity)

def oldest : Option ContinuityBreakRecord :=
  if ledger.size = 0 then none else some (ledger.records.get 0)

variable (value : ContinuityBreakRecord)

def append : ContinuityAppendStatus × ContinuityLedger capacity :=
  if !value.valid then (.invalidBreak, ledger)
  else if ledger.size ≠ 0 ∧ value.atSequence < ledger.records.back.endSequence then
    (.outOfOrder, ledger)
  else if ledger.size = capacity then (.full, ledger)
  else (.ok, ⟨ledger.records.push value⟩)

/-- The break at a sequence number, if any. -/
def containingIn : List ContinuityBreakRecord → Nat → Option ContinuityBreakRecord
  | [], _ => none
  | candidate :: rest, sequence =>
    if sequence < candidate.atSequence then none
    else if sequence = candidate.atSequence then some candidate
    else containingIn rest sequence

def containing (sequence : Nat) : Option ContinuityBreakRecord :=
  containingIn ledger.toList sequence

/-- The first break at or after a sequence number. -/
def nextIn (breaks : List ContinuityBreakRecord) (sequence : Nat) : Option ContinuityBreakRecord :=
  breaks.find? fun candidate => candidate.atSequence ≥ sequence

def nextFrom (sequence : Nat) : Option ContinuityBreakRecord :=
  nextIn ledger.toList sequence

def discardBefore (cursor : Nat) : ContinuityLedger capacity :=
  ⟨ledger.records.popWhile fun value => value.endSequence ≤ cursor⟩

@[simp] theorem length_toList : ledger.toList.length = ledger.size :=
  ledger.records.length_toList

theorem size_le : ledger.size ≤ capacity :=
  ledger.records.sizeBounded

theorem oldest_eq_head? : ledger.oldest = ledger.toList.head? := by
  by_cases vacant : ledger.size = 0
  · simp [oldest, vacant, toList, (Ring.toList_eq_nil ledger.records).mpr vacant]
  · simp [oldest, vacant, toList, Ring.toList_eq_cons ledger.records vacant]

theorem toList_discardBefore (cursor : Nat) : (ledger.discardBefore cursor).toList =
      ledger.toList.dropWhile fun value => value.endSequence ≤ cursor :=
  Ring.toList_popWhile _ _

/-- A valid break is refused only by a full ledger. -/
theorem append_spec (valid : value.valid = true)
    (ordered : ∀ last ∈ ledger.toList.getLast?, last.endSequence ≤ value.atSequence) :
    (ledger.append value = (.full, ledger) ∧ ledger.size = capacity) ∨
      ∃ next, ledger.append value = (.ok, next) ∧ next.toList = ledger.toList ++ [value] := by
  simp only [append, valid, Bool.not_true, Bool.false_eq_true, if_false]
  have inOrder : ¬ (ledger.size ≠ 0 ∧ value.atSequence < ledger.records.back.endSequence) := by
    rintro ⟨occupied, below⟩
    have last : ledger.toList.getLast? = some ledger.records.back := by
      rw [toList, Ring.toList_eq_dropLast_append ledger.records occupied, List.getLast?_concat]
    exact absurd (ordered _ last) (Nat.not_le.mpr below)
  rw [if_neg inOrder]
  by_cases filled : ledger.size = capacity
  · exact Or.inl ⟨by rw [if_pos filled], filled⟩
  have room : ledger.records.size < capacity := by
    have := ledger.size_le
    simp only [size] at filled this ⊢
    omega
  exact Or.inr ⟨⟨ledger.records.push value⟩, by rw [if_neg filled], Ring.toList_push _ _ room⟩

end ContinuityLedger
end SensorSystem.Node
