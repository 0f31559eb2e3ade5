import SensorSystem.Node.Measurement.DeliveryPlans

/-! The journal remembers a single delivered cursor, and a read may start at any retained cursor.
A release discards nothing undelivered just as long as no read that is marked delivered has left
something undelivered before it. -/

namespace SensorSystem.Node

open List MeasurementJournal

variable {capacity : JournalCapacity}

/-- A journal with the range of its last read and the ranges marked delivered. -/
structure JournalTrace (capacity : JournalCapacity) where
  journal : MeasurementJournal capacity
  read : Nat × Nat := (0, 0)
  delivered : List (Nat × Nat) := []

namespace JournalTrace

def initial (capacity : JournalCapacity) : JournalTrace capacity where
  journal := .initial capacity

def perform (trace : JournalTrace capacity) (operation : JournalOperation) :
    JournalTrace capacity where
  journal := trace.journal.perform operation
  read :=
    match operation with
    | .prepareRead start sampleLimit =>
      let view := (trace.journal.prepareRead start sampleLimit).1
      (view.firstSequence, view.endSequence)
    | _ => trace.read
  delivered :=
    match operation with
    | .markDelivered endSequence =>
      if (trace.journal.markDelivered endSequence).1 = .ok then trace.delivered ++ [trace.read]
      else trace.delivered
    | _ => trace.delivered

def run (trace : JournalTrace capacity) (operations : List JournalOperation) :
    JournalTrace capacity :=
  operations.foldl perform trace

/-- A cursor lies in a range that was read and marked delivered. -/
def Delivered (trace : JournalTrace capacity) (cursor : Nat) : Prop :=
  ∃ range ∈ trace.delivered, range.1 ≤ cursor ∧ cursor < range.2

/-- A release of the journal, if accepted, discards delivered cursors only. -/
def ReleasesDelivered (trace : JournalTrace capacity) (releaseBefore : Nat) : Prop :=
  (trace.journal.releaseBefore releaseBefore).1 = .ok →
    ∀ cursor, trace.journal.retainedFrom ≤ cursor →
      cursor < (trace.journal.releaseBefore releaseBefore).2.retainedFrom → trace.Delivered cursor

/-- A read is delivered only if nothing undelivered lies before it. -/
def Orderly (trace : JournalTrace capacity) : JournalOperation → Prop
  | .markDelivered endSequence => (trace.journal.markDelivered endSequence).1 = .ok →
      trace.read.1 ≤ max trace.journal.delivered trace.journal.retainedFrom
  | _ => True

/-- What holds along every run. -/
structure Tracks (trace : JournalTrace capacity) (log : List Entry) : Prop where
  represents : Represents trace.journal log
  read_eq : trace.journal.preparedValid = true →
    trace.read.2 = trace.journal.preparedThrough ∧ trace.read.1 ≤ trace.read.2
  delivered_le : ∀ range ∈ trace.delivered, range.2 ≤ trace.journal.delivered

/-- Everything retained below the delivered cursor has been delivered. -/
def Covered (trace : JournalTrace capacity) : Prop :=
  ∀ cursor, trace.journal.retainedFrom ≤ cursor → cursor < trace.journal.delivered →
    trace.Delivered cursor

variable {trace : JournalTrace capacity} {log : List Entry}

theorem Tracks.initial (capacity : JournalCapacity) : (JournalTrace.initial capacity).Tracks [] :=
  ⟨.initial capacity, nofun, nofun⟩

variable {endSequence : Nat} {after : JournalTrace capacity}

/-- A delivery is accepted for the last read. -/
theorem Tracks.markDelivered_ok (tracks : trace.Tracks log)
    (accepted : (trace.journal.markDelivered endSequence).1 = .ok) :
    trace.read.2 = endSequence ∧ trace.read.1 ≤ endSequence ∧
      (trace.journal.markDelivered endSequence).2.delivered =
        max trace.journal.delivered endSequence ∧
      (trace.journal.markDelivered endSequence).2.retainedFrom = trace.journal.retainedFrom ∧
      (trace.journal.markDelivered endSequence).2.preparedValid = false := by
  rw [markDelivered] at accepted ⊢
  split at accepted
  · cases accepted
  rename_i prepared
  rw [if_neg prepared]
  obtain ⟨valid, same⟩ := not_or.mp prepared
  obtain ⟨stop, begins⟩ := tracks.read_eq (by simpa using valid)
  have through := not_not.mp same
  refine ⟨stop.trans through.symm, by omega, ?_, ?_, ?_⟩
  · simp only [invalidatePreparedView]
    split
    · rename_i ahead
      exact (Nat.max_eq_right (Nat.le_of_lt ahead)).symm
    rename_i behind
    exact (Nat.max_eq_left (Nat.le_of_not_lt behind)).symm
  · simp only [invalidatePreparedView]
    split <;> rfl
  · rfl

theorem markDelivered_refused {journal : MeasurementJournal capacity}
    (refused : (journal.markDelivered endSequence).1 ≠ .ok) :
    (journal.markDelivered endSequence).2 = journal := by
  rw [markDelivered] at refused ⊢
  split
  · rfl
  rename_i prepared
  rw [if_neg prepared] at refused
  exact absurd rfl refused

/-- What an operation other than a delivery leaves. -/
structure Keeps (before after : JournalTrace capacity) : Prop where
  ranges_eq : after.delivered = before.delivered
  delivered_eq : after.journal.delivered = before.journal.delivered
  retained_le : before.journal.retainedFrom ≤ after.journal.retainedFrom
  read_eq : after.journal.preparedValid = true →
    after.read.2 = after.journal.preparedThrough ∧ after.read.1 ≤ after.read.2

theorem Keeps.tracks {longer : List Entry} (keeps : Keeps trace after) (tracks : trace.Tracks log)
    (represents : Represents after.journal longer) : after.Tracks longer := by
  refine ⟨represents, keeps.read_eq, ?_⟩
  rw [keeps.ranges_eq, keeps.delivered_eq]
  exact tracks.delivered_le

theorem Keeps.covered (keeps : Keeps trace after) (covered : trace.Covered) : after.Covered := by
  intro cursor retained below
  rw [Delivered, keeps.ranges_eq]
  rw [keeps.delivered_eq] at below
  exact covered cursor (Nat.le_trans keeps.retained_le retained) below

variable {operation : JournalOperation}

/-- An append changes nothing, or leaves nothing prepared. -/
theorem Tracks.keeps_append (tracks : trace.Tracks log)
    (ranges : (trace.perform operation).delivered = trace.delivered)
    (read : (trace.perform operation).read = trace.read)
    (outcome : trace.journal.perform operation = trace.journal ∨
      ∃ added result, Represents.Appends trace.journal (trace.journal.perform operation) log added
        result) : Keeps trace (trace.perform operation) := by
  obtain refused | ⟨added, result, appends⟩ := outcome
  · refine ⟨ranges, ?_, ?_, ?_⟩
    · exact congrArg MeasurementJournal.delivered refused
    · exact Nat.le_of_eq (congrArg retainedFrom refused).symm
    rw [read]
    change (trace.journal.perform operation).preparedValid = true →
      _ = (trace.journal.perform operation).preparedThrough ∧ _
    rw [refused]
    exact tracks.read_eq
  · refine ⟨ranges, appends.delivered_eq, appends.retained_le, ?_⟩
    intro prepared
    cases appends.unprepared.symm.trans prepared

theorem Tracks.keeps (tracks : trace.Tracks log)
    (other : ∀ endSequence, operation ≠ .markDelivered endSequence) :
    Keeps trace (trace.perform operation) := by
  cases operation with
  | appendSample sequence sample =>
    refine tracks.keeps_append rfl rfl ?_
    by_cases accepted : sequence = log.length ∧ log.length < uint64Max ∧ validSampleRecord sample
    · exact .inr ⟨_, _, tracks.represents.appendSample_accepted accepted.1 accepted.2.1
        accepted.2.2⟩
    · exact .inl (tracks.represents.appendSample_refused accepted).1
  | appendGap gap =>
    refine tracks.keeps_append rfl rfl ?_
    by_cases accepted : gap.firstMissing = log.length ∧ gap.valid
    · exact .inr ⟨_, _, tracks.represents.appendGap_accepted accepted.1 accepted.2⟩
    · exact .inl (tracks.represents.appendGap_refused accepted).1
  | appendContinuityBreak value =>
    refine tracks.keeps_append rfl rfl ?_
    by_cases accepted : value.atSequence = log.length ∧ value.valid
    · exact .inr ⟨_, _, tracks.represents.appendContinuityBreak_accepted accepted.1 accepted.2⟩
    · exact .inl (tracks.represents.appendContinuityBreak_refused accepted).1
  | prepareRead start sampleLimit =>
    simp only [perform, MeasurementJournal.perform]
    by_cases inside : 0 < sampleLimit ∧ trace.journal.retainedFrom ≤ start ∧ start < log.length
    · obtain ⟨content, -, -, stop, -, after⟩ :=
        tracks.represents.prepareRead_content inside.1 inside.2.1 inside.2.2
      have first := (trace.journal.prepareRead_range start sampleLimit).1
      rw [stop, first, after]
      exact ⟨rfl, rfl, Nat.le_refl _, fun _ => ⟨rfl, Nat.le_add_right _ _⟩⟩
    rw [(tracks.represents.prepareRead_outside inside).1]
    exact ⟨rfl, rfl, Nat.le_refl _, by rintro ⟨⟩⟩
  | markDelivered endSequence => exact absurd rfl (other endSequence)
  | cancelPrepared => exact ⟨rfl, rfl, Nat.le_refl _, by rintro ⟨⟩⟩
  | releaseBefore cursor =>
    simp only [perform, MeasurementJournal.perform]
    rcases tracks.represents.releaseBefore_cases cursor with
      ⟨-, -, outcome⟩ | ⟨-, outcome⟩ | ⟨-, -, outcome⟩ | ⟨beyond, -, kept, effect, outcome⟩
    · rw [outcome]
      exact ⟨rfl, rfl, Nat.le_refl _, by rintro ⟨⟩⟩
    · rw [outcome]
      exact ⟨rfl, rfl, Nat.le_refl _, by rintro ⟨⟩⟩
    · rw [outcome]
      exact ⟨rfl, rfl, Nat.le_refl _, by rintro ⟨⟩⟩
    rw [outcome]
    refine ⟨rfl, effect.delivered_eq, ?_, fun prepared => ?_⟩
    · exact Nat.le_of_lt (effect.retained_eq ▸ beyond)
    · cases effect.prepared_eq.symm.trans prepared

theorem Tracks.perform (tracks : trace.Tracks log) (operation : JournalOperation) :
    (trace.perform operation).Tracks (Log.step log operation) := by
  have represents := tracks.represents.perform operation
  cases operation with
  | markDelivered endSequence =>
    by_cases accepted : (trace.journal.markDelivered endSequence).1 = .ok
    · obtain ⟨stop, -, delivered, -, unprepared⟩ := tracks.markDelivered_ok accepted
      refine ⟨represents, fun prepared => ?_, ?_⟩
      · cases unprepared.symm.trans prepared
      simp only [JournalTrace.perform, MeasurementJournal.perform, if_pos accepted, delivered]
      intro range member
      rcases mem_append.mp member with member | member
      · exact Nat.le_trans (tracks.delivered_le range member) (Nat.le_max_left _ _)
      · rw [mem_singleton.mp member, stop]
        exact Nat.le_max_right _ _
    · refine ⟨represents, ?_, ?_⟩
      · simp only [JournalTrace.perform, MeasurementJournal.perform,
          markDelivered_refused accepted]
        exact tracks.read_eq
      · simp only [JournalTrace.perform, MeasurementJournal.perform,
          markDelivered_refused accepted, if_neg accepted]
        exact tracks.delivered_le
  | appendSample | appendGap | appendContinuityBreak | prepareRead | cancelPrepared
    | releaseBefore => exact Keeps.tracks (tracks.keeps (by rintro _ ⟨⟩)) tracks represents

theorem Covered.perform (tracks : trace.Tracks log) (covered : trace.Covered)
    (orderly : trace.Orderly operation) : (trace.perform operation).Covered := by
  intro cursor retained below
  cases operation with
  | markDelivered endSequence =>
    by_cases accepted : (trace.journal.markDelivered endSequence).1 = .ok
    · obtain ⟨stop, -, delivered, kept, -⟩ := tracks.markDelivered_ok accepted
      have begins := orderly accepted
      simp only [JournalTrace.perform, MeasurementJournal.perform, delivered, kept]
        at retained below
      simp only [Delivered, JournalTrace.perform, if_pos accepted]
      by_cases earlier : cursor < trace.journal.delivered
      · obtain ⟨range, member, inside⟩ := covered cursor retained earlier
        exact ⟨range, mem_append_left _ member, inside⟩
      refine ⟨trace.read, mem_append_right _ (mem_singleton.mpr rfl), ?_, ?_⟩
      · omega
      · omega
    · simp only [JournalTrace.perform, MeasurementJournal.perform,
        markDelivered_refused accepted] at retained below
      simp only [Delivered, JournalTrace.perform, if_neg accepted]
      exact covered cursor retained below
  | appendSample | appendGap | appendContinuityBreak | prepareRead | cancelPrepared
    | releaseBefore =>
    exact Keeps.covered (tracks.keeps (by rintro _ ⟨⟩)) covered cursor retained below

/-- A release reaches at most the delivered cursor. -/
theorem Covered.releasesDelivered (tracks : trace.Tracks log) (covered : trace.Covered)
    (releaseBefore : Nat) : trace.ReleasesDelivered releaseBefore := by
  intro accepted cursor retained below
  obtain ⟨-, outcome⟩ | ⟨after, outcome, released⟩ :=
    tracks.represents.releaseBefore_effect releaseBefore
  · rw [outcome] at accepted
    cases accepted
  · have within := released.within
    rw [outcome, released.retained_eq] at below
    exact covered cursor retained (by omega)

/-- A delivery that leaves something lets a release discard it. -/
theorem Tracks.orderly (tracks : trace.Tracks log)
    (releases : ∀ cursor, (trace.perform operation).ReleasesDelivered cursor) :
    trace.Orderly operation := by
  cases operation with
  | markDelivered endSequence =>
    intro accepted
    by_contra beyond
    obtain ⟨stop, begins, delivered, kept, -⟩ := tracks.markDelivered_ok accepted
    have journal : (trace.perform (.markDelivered endSequence)).journal =
        (trace.journal.markDelivered endSequence).2 := rfl
    have after := tracks.perform (.markDelivered endSequence)
    obtain ⟨refused, -⟩ | ⟨discarded, outcome, released⟩ :=
      after.represents.releaseBefore_effect endSequence
    · rw [journal, delivered, kept] at refused
      omega
    have retained := released.retained_eq
    rw [journal, kept] at retained
    -- The first cursor that was neither delivered nor lost goes with the release.
    obtain ⟨range, member, first, last⟩ := releases endSequence (by rw [outcome])
      (max trace.journal.delivered trace.journal.retainedFrom)
      (by rw [journal, kept]; exact Nat.le_max_right _ _) (by rw [outcome, retained]; omega)
    simp only [JournalTrace.perform, if_pos accepted] at member
    rcases mem_append.mp member with member | member
    · have bound := tracks.delivered_le range member
      omega
    · rw [mem_singleton.mp member] at first
      exact beyond first
  | appendSample | appendGap | appendContinuityBreak | prepareRead | cancelPrepared
    | releaseBefore => trivial

theorem Tracks.releases_iff (tracks : trace.Tracks log) (covered : trace.Covered)
    (operations : List JournalOperation) : (∀ earlier later, operations = earlier ++ later →
        ∀ cursor, (trace.run earlier).ReleasesDelivered cursor) ↔
      ∀ earlier operation later, operations = earlier ++ operation :: later →
        (trace.run earlier).Orderly operation := by
  induction operations generalizing trace log with
  | nil =>
    constructor
    · rintro - earlier operation later split
      exact absurd split.symm (by simp)
    · rintro - earlier later split cursor
      rw [(append_eq_nil_iff.mp split.symm).1]
      exact covered.releasesDelivered tracks cursor
  | cons operation operations ih =>
    have rest (orderly : trace.Orderly operation) :=
      ih (tracks.perform operation) (covered.perform tracks orderly)
    constructor
    · intro releases
      have first : trace.Orderly operation := by
        refine tracks.orderly ?_
        exact releases [operation] operations rfl
      have next := (rest first).mp fun earlier later split =>
        releases (operation :: earlier) later (by rw [split]; rfl)
      rintro (_ | ⟨head, earlier⟩) other later split
      · cases split
        exact first
      · obtain ⟨rfl, tail⟩ := List.cons.inj split
        exact next earlier other later tail
    · intro orderly
      have first := orderly [] operation operations rfl
      have next := (rest first).mpr fun earlier other later split =>
        orderly (operation :: earlier) other later (by rw [split]; rfl)
      rintro (_ | ⟨head, earlier⟩) later split
      · exact covered.releasesDelivered tracks
      · obtain ⟨rfl, tail⟩ := List.cons.inj split
        exact next earlier later tail

end JournalTrace

/-- In a run from a fresh journal every release discards delivered cursors only,
just when each read that is marked delivered began at or below the delivered or
the retained cursor. -/
theorem release_discards_delivered (capacity : JournalCapacity)
    (operations : List JournalOperation) : (∀ earlier later, operations = earlier ++ later →
        ∀ cursor, ((JournalTrace.initial capacity).run earlier).ReleasesDelivered cursor) ↔
      ∀ earlier operation later, operations = earlier ++ operation :: later →
        ((JournalTrace.initial capacity).run earlier).Orderly operation :=
  (JournalTrace.Tracks.initial capacity).releases_iff
    (fun _ _ below => absurd below (Nat.not_lt_zero _)) operations

/-- Two samples, of which only the second is read and delivered. -/
def skippingRead : List JournalOperation :=
  [.appendSample 0 { configRevision := 1, timingSegmentId := 1 },
    .appendSample 1 { configRevision := 1, timingSegmentId := 1 },
    .prepareRead 1 4, .markDelivered 2]

/-- The release behind the second sample discards the first one too. -/
theorem release_discards_undelivered :
    ¬ ((JournalTrace.initial fourSamples).run skippingRead).ReleasesDelivered 2 := by
  intro releases
  obtain ⟨range, member, first, -⟩ := releases (by decide) 0 (by decide) (by decide)
  have delivered : ((JournalTrace.initial fourSamples).run skippingRead).delivered = [(1, 2)] := by
    decide
  rw [delivered, List.mem_singleton] at member
  rw [member] at first
  exact absurd first (by decide)

end SensorSystem.Node
