import SensorSystem.Host.Persistence.GroupedWriter

/-! A recovered cursor that is accepted splits the group: the records that end at or before it are
confirmed, and they are a prefix. A cursor on the border of two records, or past the last one, is
always accepted. -/

namespace SensorSystem.Host

open List Base

variable {recovered : RecoveredCursorEvidence} {ranges : List WriteRecoveryRange}
  {expectedStart stop durable reached : SequenceCursor} {first : PersistenceEnvelope}

variable {range : WriteRecoveryRange} {commands : List WriteCommand}

theorem checkPendingGroup_cons :
    checkPendingGroup recovered expectedStart (range :: ranges) = .ok stop ↔
      (range.hardwareId = recovered.hardwareId ∧ range.bootEpoch = recovered.bootEpoch) ∧
        range.start < range.stop ∧ range.start = expectedStart ∧
        checkPendingGroup recovered range.stop ranges = .ok stop := by
  rw [checkPendingGroup, guard_eq_ok, guard_eq_ok, guard_eq_ok, not_or]
  simp only [ne_eq, not_not, UInt64.not_le]

theorem checkPendingGroup_between
    (checked : checkPendingGroup recovered expectedStart ranges = .ok stop) :
    expectedStart ≤ stop ∧ ∀ range ∈ ranges,
      (range.hardwareId = recovered.hardwareId ∧ range.bootEpoch = recovered.bootEpoch) ∧
        expectedStart ≤ range.start ∧ range.start < range.stop ∧ range.stop ≤ stop := by
  induction ranges generalizing expectedStart with
  | nil =>
    cases checked
    exact ⟨UInt64.le_refl _, fun _ member => absurd member not_mem_nil⟩
  | cons head rest ih =>
    obtain ⟨identity, forward, rfl, continued⟩ := checkPendingGroup_cons.mp checked
    obtain ⟨later, between⟩ := ih continued
    refine ⟨UInt64.le_trans (UInt64.le_of_lt forward) later, fun range member => ?_⟩
    rcases mem_cons.mp member with rfl | member
    · exact ⟨identity, UInt64.le_refl _, forward, later⟩
    · obtain ⟨same, starts, ordered, ends⟩ := between range member
      exact ⟨same, UInt64.le_trans (UInt64.le_of_lt forward) starts, ordered, ends⟩

/-- The records before `confirmed` end at or before the cursor, the others do not. -/
def SplitsAt (durable : SequenceCursor) (ranges : List WriteRecoveryRange) (confirmed : Nat) :
    Prop :=
  ∀ index range, ranges[index]? = some range → (range.stop ≤ durable ↔ index < confirmed)

variable {confirmed : Nat} {decision : GroupRecoveryDisposition}

theorem SplitsAt.cons (splits : SplitsAt durable ranges confirmed) (passed : range.stop ≤ durable) :
    SplitsAt durable (range :: ranges) (confirmed + 1) := by
  intro index found at_
  cases index with
  | zero =>
    cases at_
    exact ⟨fun _ => Nat.succ_pos _, fun _ => passed⟩
  | succ index =>
    rw [Nat.add_lt_add_iff_right]
    exact splits index found at_

/-- A cursor splits a group in one place only. -/
theorem SplitsAt.unique {other : Nat} (splits : SplitsAt durable ranges confirmed)
    (again : SplitsAt durable ranges other) (within : confirmed ≤ ranges.length)
    (otherWithin : other ≤ ranges.length) : confirmed = other := by
  rcases Nat.lt_trichotomy confirmed other with less | same | more
  · have found := getElem?_eq_getElem (Nat.lt_of_lt_of_le less otherWithin)
    have passed := (again _ _ found).mpr less
    exact absurd ((splits _ _ found).mp passed) (Nat.lt_irrefl _)
  · exact same
  · have found := getElem?_eq_getElem (Nat.lt_of_lt_of_le more within)
    have passed := (splits _ _ found).mpr more
    exact absurd ((again _ _ found).mp passed) (Nat.lt_irrefl _)

theorem findBoundary_splits {index : Nat}
    (checked : checkPendingGroup recovered reached ranges = .ok stop) (passed : reached ≤ durable)
    (before : durable < groupEnd reached ranges)
    (found : findBoundary durable reached index ranges passed before = .ok decision) :
    ∃ confirmed ≤ ranges.length, decision.confirmedPrefixRecords = index + confirmed ∧
      SplitsAt durable ranges confirmed := by
  induction ranges generalizing reached index with
  | nil => exact absurd before (UInt64.not_lt.mpr passed)
  | cons range rest ih =>
    obtain ⟨-, forward, -, continued⟩ := checkPendingGroup_cons.mp checked
    rw [findBoundary] at found
    split at found
    · rename_i border
      cases found
      refine ⟨0, Nat.zero_le _, rfl, fun at_ other member => ?_⟩
      obtain ⟨-, starts, ordered, -⟩ :=
        (checkPendingGroup_between checked).2 other (mem_of_getElem? member)
      have entered := (checkPendingGroup_cons.mp checked).2.2.1
      rw [border, entered]
      exact ⟨fun ends => absurd (UInt64.lt_of_le_of_lt starts ordered) (UInt64.not_lt.mpr ends),
        fun none => absurd none (Nat.not_lt_zero _)⟩
    · split at found
      · cases found
      rename_i outside
      obtain ⟨confirmed, within, counted, splits⟩ := ih continued _ _ found
      refine ⟨confirmed + 1, Nat.succ_le_succ within, ?_, splits.cons (UInt64.not_lt.mp outside)⟩
      omega

/-- What an accepted recovery confirms. -/
theorem classifyGroupRecovery_splits
    (accepted : classifyGroupRecovery ranges recovered = .ok decision) :
    decision.confirmedPrefixRecords ≤ ranges.length ∧
      SplitsAt recovered.durable ranges decision.confirmedPrefixRecords ∧
      ∀ range ∈ ranges,
        range.hardwareId = recovered.hardwareId ∧ range.bootEpoch = recovered.bootEpoch := by
  rw [classifyGroupRecovery.eq_def] at accepted
  split at accepted
  · cases accepted
  rename_i head rest
  split at accepted
  · cases accepted
  rename_i last checked
  have between := (checkPendingGroup_between checked).2
  split at accepted
  · cases accepted
  split at accepted
  · rename_i past
    cases accepted
    refine ⟨Nat.le_refl _, fun index range found => ?_, fun range member =>
      (between range member).1⟩
    refine ⟨fun _ => (List.getElem?_eq_some_iff.mp found).1, fun _ => ?_⟩
    exact UInt64.le_trans (between range (mem_of_getElem? found)).2.2.2 past
  obtain ⟨confirmed, within, counted, splits⟩ := findBoundary_splits checked _ _ accepted
  rw [Nat.zero_add] at counted
  rw [counted]
  exact ⟨within, splits, fun range member => (between range member).1⟩

/-- Evidence of the stream of a group, not in front of it and not inside a record. -/
def RecoveredCursorEvidence.OnBorder (evidence : RecoveredCursorEvidence)
    (ranges : List WriteRecoveryRange) : Prop :=
  (∀ range ∈ ranges,
    (range.hardwareId = evidence.hardwareId ∧ range.bootEpoch = evidence.bootEpoch) ∧
      (evidence.durable ≤ range.start ∨ range.stop ≤ evidence.durable)) ∧
    ∀ range ∈ ranges.head?, range.start ≤ evidence.durable

theorem findBoundary_ok {index : Nat} (passed : reached ≤ durable)
    (before : durable < groupEnd reached ranges)
    (checked : checkPendingGroup recovered reached ranges = .ok stop)
    (border : ∀ range ∈ ranges, durable ≤ range.start ∨ range.stop ≤ durable) :
    ∃ decision, findBoundary durable reached index ranges passed before = .ok decision := by
  induction ranges generalizing reached index with
  | nil => exact absurd before (UInt64.not_lt.mpr passed)
  | cons range rest ih =>
    obtain ⟨-, forward, entered, continued⟩ := checkPendingGroup_cons.mp checked
    rw [findBoundary]
    split
    · exact ⟨_, rfl⟩
    rename_i other
    have ends : range.stop ≤ durable := by
      refine (border range mem_cons_self).resolve_left fun starts => other ?_
      exact UInt64.le_antisymm starts (entered ▸ passed)
    rw [dif_neg (UInt64.not_lt.mpr ends)]
    exact ih _ _ continued fun later member => border later (mem_cons_of_mem _ member)

theorem classifyGroupRecovery_ok
    (checked : checkPendingGroup recovered range.start (range :: ranges) = .ok stop)
    (border : recovered.OnBorder (range :: ranges)) :
    ∃ decision, classifyGroupRecovery (range :: ranges) recovered = .ok decision := by
  rw [classifyGroupRecovery]
  split
  · rename_i error failed
    rw [checked] at failed
    cases failed
  rename_i last again
  rw [dif_neg (UInt64.not_lt.mpr (border.2 range rfl))]
  split
  · exact ⟨_, rfl⟩
  · exact findBoundary_ok _ _ checked fun found member => (border.1 found member).2

theorem contiguousRun_le (expected : SequenceCursor) (commands : List WriteCommand) :
    contiguousRun first expected commands ≤ commands.length := by
  induction commands generalizing expected with
  | nil => exact Nat.le_refl _
  | cons command rest ih =>
    rw [contiguousRun]
    split
    · exact Nat.zero_le _
    · exact Nat.succ_le_succ (ih _)

/-- The front of a run is a run. -/
theorem contiguousRun_take {count : Nat}
    (within : count ≤ contiguousRun first expectedStart commands) :
    contiguousRun first expectedStart (commands.take count) = count := by
  induction commands generalizing expectedStart count with
  | nil =>
    rw [take_nil]
    exact (Nat.le_zero.mp within).symm
  | cons command rest ih =>
    cases count with
    | zero => rfl
    | succ count =>
      rw [contiguousRun] at within
      split at within
      · cases within
      · rename_i adjoins
        rw [take_succ_cons, contiguousRun, if_neg adjoins,
          ih (Nat.succ_le_succ_iff.mp within)]

variable (run : contiguousRun first expectedStart commands = commands.length)

include run

theorem contiguousRun_stream :
    ∀ command ∈ commands, command.envelope.hardwareId = first.hardwareId ∧
      command.envelope.bootEpoch = first.bootEpoch := by
  induction commands generalizing expectedStart with
  | nil => exact fun _ member => absurd member not_mem_nil
  | cons head rest ih =>
    rw [contiguousRun] at run
    split at run
    · cases run
    rename_i adjoins
    simp only [ne_eq, not_or, not_not] at adjoins
    intro command member
    rcases mem_cons.mp member with rfl | member
    · exact ⟨adjoins.1, adjoins.2.1⟩
    · exact ih (Nat.succ.inj run) command member

theorem checkPendingGroup_run (hardware : first.hardwareId = recovered.hardwareId)
    (epoch : first.bootEpoch = recovered.bootEpoch) :
    ∃ stop, checkPendingGroup recovered expectedStart (commands.map (·.recoveryRange)) =
      .ok stop := by
  induction commands generalizing expectedStart with
  | nil => exact ⟨_, rfl⟩
  | cons command rest ih =>
    rw [contiguousRun] at run
    split at run
    · cases run
    rename_i adjoins
    simp only [ne_eq, not_or, not_not] at adjoins
    obtain ⟨stop, checked⟩ := ih (Nat.succ.inj run)
    refine ⟨stop, checkPendingGroup_cons.mpr ⟨⟨?_, ?_⟩, command.envelope.forward, ?_, checked⟩⟩
    · exact adjoins.1.trans hardware
    · exact adjoins.2.1.trans epoch
    · exact adjoins.2.2

omit run

end SensorSystem.Host
