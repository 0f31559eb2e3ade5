import SensorSystem.Node.Measurement.JournalAppends

/-! A read of a retained cursor returns what the reference log holds there. Deliveries and
releases move cursors over the log without changing it. -/

namespace SensorSystem.Node

open ContinuityLedger Entry List
open Base

namespace Log

/-- What a read finds from one cursor on. -/
inductive Content where
  | gap (record : GapRecord)
  | continuityBreak (record : ContinuityBreakRecord)
  | samples (records : List SampleRecord)

/-- The cursors a piece of content covers. -/
def Content.count : Content → Nat
  | gap record => record.missingCount
  | continuityBreak _ => 1
  | samples records => records.length

/-- What a read must return: the rest of the gap, the break, or the longest run of one segment. -/
def contentAt (log : List Entry) (cursor limit : Nat) : Option Content :=
  match log.drop cursor with
  | [] => none
  | .gap reason :: later => some (.gap ⟨cursor, gapRunLength reason later + 1, reason⟩)
  | .continuityBreak reason :: _ => some (.continuityBreak ⟨cursor, reason⟩)
  | .sample record :: later =>
    some (.samples (record ::
      (samplesOf ((later.take (limit - 1)).takeWhile isSample)).takeWhile
        (sameSegment record)))

/-- A view presents a piece of content. -/
def Content.ShownBy (view : MeasurementReadView) : Content → Prop
  | gap record => view.status = .gap ∧ view.gap = record
  | continuityBreak record => view.status = .continuityBreak ∧ view.continuityBreak = record
  | samples records => view.status = .samples ∧ view.first ++ view.second = records

theorem count_pos_of_contentAt {log : List Entry} {cursor limit : Nat} {content : Content}
    (found : contentAt log cursor limit = some content) : 0 < content.count := by
  rw [contentAt] at found
  split at found
  · cases found
  all_goals
    cases found
    simp [Content.count]

end Log

theorem sampleRunLength_sample (record : SampleRecord) (entries : List Entry) :
    sampleRunLength (.sample record :: entries) = sampleRunLength entries + 1 := by
  rw [sampleRunLength, takeWhile_cons_of_pos rfl, length_cons, sampleRunLength]

theorem takeWhile_isSample_take (entries : List Entry) (limit : Nat) :
    (entries.take limit).takeWhile isSample =
      entries.take (min limit (sampleRunLength entries)) := by
  have run : entries.takeWhile isSample = entries.take (sampleRunLength entries) :=
    prefix_iff_eq_take.mp (List.takeWhile_prefix _)
  rw [← take_takeWhile, run, take_take]

/-- From a sample the next gap starts where the first run does. -/
theorem nextIn_firstMissing_of_sample (position : Nat) {offset : Nat} {entries later : List Entry}
    {record : SampleRecord} (bounded : offset ≤ entries.length)
    (shape : entries.drop offset = .sample record :: later) :
    (GapLedger.nextIn (gapRuns position entries) (position + offset)).map
        GapRecord.firstMissing =
      (gapRuns (position + offset) (entries.drop offset)).head?.map GapRecord.firstMissing := by
  cases runs : gapRuns (position + offset) (entries.drop offset) with
  | nil => rw [nextIn_eq_none_of_gapRuns bounded runs, head?_nil, Option.map_none]
  | cons first rest =>
    obtain ⟨next, found, -, starts⟩ := nextIn_eq_some_of_gapRuns bounded runs
    have after : position + offset + 1 ≤ first.firstMissing := by
      rw [shape] at runs
      exact le_firstMissing_of_gapRuns runs
    rw [found, head?_cons, Option.map_some, Option.map_some]
    congr 1
    omega

namespace Represents

variable {capacity : JournalCapacity} {journal : MeasurementJournal capacity} {log : List Entry}
  {cursor : Nat}

theorem drop_drop_retained (log : List Entry) (retained : journal.retainedFrom ≤ cursor) :
    (log.drop journal.retainedFrom).drop (cursor - journal.retainedFrom) = log.drop cursor := by
  rw [drop_drop, Nat.add_sub_cancel' retained]

variable {later : List Entry} {record : SampleRecord} {limit : Nat}
  (represents : Represents journal log) (retained : journal.retainedFrom ≤ cursor)

include represents retained

theorem sampleEnd_eq (shape : log.drop cursor = .sample record :: later) :
    journal.sampleEnd cursor = cursor + sampleRunLength (log.drop cursor) := by
  have whole : journal.retainedFrom + (cursor - journal.retainedFrom) = cursor :=
    Nat.add_sub_cancel' retained
  have lengths := congrArg length shape
  simp only [length_drop, length_cons] at lengths
  have inside : cursor - journal.retainedFrom ≤ (log.drop journal.retainedFrom).length := by
    rw [length_drop]
    omega
  have rest := drop_drop_retained log retained
  have gaps := nextIn_firstMissing_of_sample journal.retainedFrom inside
    (rest.trans shape)
  have breaks := nextIn_breakMarks journal.retainedFrom _ _ inside
  rw [whole, rest] at gaps breaks
  rw [← represents.gaps_eq] at gaps
  rw [← represents.breaks_eq] at breaks
  have bound := earliest_eq_sampleRun cursor (log.drop cursor)
  have produced : cursor + (log.drop cursor).length = journal.produced := by
    rw [represents.produced_eq, length_drop]
    omega
  rw [← gaps, ← breaks, produced] at bound
  rw [← bound, MeasurementJournal.sampleEnd, GapLedger.nextFrom, nextFrom]
  cases GapLedger.nextIn journal.gaps.toList cursor with
  | none =>
    cases nextIn journal.continuity.toList cursor with
    | none => rfl
    | some mark => rfl
  | some gap =>
    cases nextIn journal.continuity.toList cursor with
    | none => rfl
    | some mark => rfl

/-- Retained samples split at a cursor. -/
theorem samples_split (produced : cursor ≤ log.length) :
    journal.samples.toList.drop (journal.samplesBetween journal.retainedFrom cursor) =
      samplesOf (log.drop cursor) := by
  obtain ⟨kept, discarded, effect⟩ :=
    represents.discardRetentionBefore cursor retained produced false
  rw [MeasurementJournal.discardRetentionBefore] at discarded
  split at discarded
  · cases discarded
  simp only at discarded
  split at discarded
  · cases discarded
  · cases discarded
    have content := effect.represents.samples_eq
    simpa [Ring.toList_advance] using content

/-- The sample branch of a read returns a run of one segment. -/
theorem readSamples (shape : log.drop cursor = .sample record :: later) (positive : 0 < limit)
    (view : MeasurementReadView) : ∃ first second,
      first ++ second = record ::
        (samplesOf ((later.take (limit - 1)).takeWhile isSample)).takeWhile
          (sameSegment record) ∧
      journal.readSamples cursor limit view =
        ({ view with
            status := .samples
            endSequence := cursor + (first ++ second).length
            first := first
            second := second },
          journal.prepareThrough (cursor + (first ++ second).length)) := by
  have lengths := congrArg length shape
  simp only [length_drop, length_cons] at lengths
  have stop := represents.sampleEnd_eq retained shape
  have split := represents.samples_split retained (by omega)
  rw [shape, samplesOf_sample] at split
  rw [shape, sampleRunLength_sample] at stop
  generalize offsetEq : journal.samplesBetween journal.retainedFrom cursor = offset at split
  have room := congrArg length split
  rw [length_drop, Ring.length_toList, length_cons] at room
  -- The run of samples the boundary loop may extend over.
  have prefixRun := samplesOf_take_sampleRun later (min (limit - 1) (sampleRunLength later))
    (Nat.min_le_right _ _)
  have window : samplesOf ((later.take (limit - 1)).takeWhile isSample) =
      (samplesOf later).take (min (limit - 1) (sampleRunLength later)) := by
    rw [takeWhile_isSample_take, prefixRun.1]
  have windowLength := prefixRun.2
  rw [← prefixRun.1, length_take] at windowLength
  have available : journal.sampleEnd cursor - cursor = sampleRunLength later + 1 := by omega
  have countEq : (if journal.sampleEnd cursor - cursor < limit then
      journal.sampleEnd cursor - cursor else limit) =
        min (limit - 1) (sampleRunLength later) + 1 := by
    rw [available]
    split <;> omega
  have boundary : journal.samples.get offset = record := by
    have head := congrArg (fun records => records[0]?) split
    simp only [getElem?_drop, Nat.add_zero, getElem?_cons_zero] at head
    rw [Ring.getElem?_toList _ (by omega)] at head
    exact Option.some.inj head
  have stored : (samplesOf later).take (min (limit - 1) (sampleRunLength later)) =
      (range' 1 (min (limit - 1) (sampleRunLength later))).map
        fun index => journal.samples.get (offset + index) := by
    apply ext_getElem?
    intro index
    by_cases inside : index < min (limit - 1) (sampleRunLength later)
    · have entry := congrArg (fun records => records[index + 1]?) split
      simp only [getElem?_drop, getElem?_cons_succ] at entry
      rw [getElem?_take_of_lt inside, ← entry, Ring.getElem?_toList _ (by omega)]
      simp [inside, Nat.add_comm 1 index]
    rw [getElem?_eq_none (by rw [length_take]; omega),
      getElem?_eq_none (by simpa using Nat.le_of_not_lt inside)]
  have loop := boundedCountLoop_eq (fun index => journal.samples.get (offset + index)) record
    (min (limit - 1) (sampleRunLength later)) 1 _ stored
  rw [← window] at loop
  have cells := Ring.cells_wrap journal.samples offset
    (1 + ((samplesOf ((later.take (limit - 1)).takeWhile isSample)).takeWhile
      (sameSegment record)).length) (by
      have shorter := (takeWhile_sublist (sameSegment record)
        (l := samplesOf ((later.take (limit - 1)).takeWhile isSample))).length_le
      rw [window, length_take] at shorter
      rw [window]
      omega)
  have content : (journal.samples.toList.drop offset).take
      (1 + ((samplesOf ((later.take (limit - 1)).takeWhile isSample)).takeWhile
        (sameSegment record)).length) = record ::
          (samplesOf ((later.take (limit - 1)).takeWhile isSample)).takeWhile
            (sameSegment record) := by
    have leading : (samplesOf ((later.take (limit - 1)).takeWhile isSample)).takeWhile
        (sameSegment record) <+: samplesOf later := by
      refine (List.takeWhile_prefix _).trans ?_
      rw [window]
      exact take_prefix _ _
    rw [split, Nat.add_comm, take_succ_cons, ← prefix_iff_eq_take.mp leading]
  have accepted : ¬ (min (limit - 1) (sampleRunLength later) + 1 = 0 ∨
      offset ≥ journal.samples.size ∨
      min (limit - 1) (sampleRunLength later) + 1 > journal.samples.size - offset) := by
    omega
  refine ⟨_, _, cells.trans content, ?_⟩
  rw [cells, content, MeasurementJournal.readSamples, countEq, offsetEq, if_neg accepted]
  simp only [boundary, Nat.add_sub_cancel, loop]
  rw [length_cons, Nat.add_comm _ 1]

omit retained

/-- A read shows the log's content and prepares exactly its end. -/
theorem prepareRead_content (positive : 0 < limit) (retained : journal.retainedFrom ≤ cursor)
    (produced : cursor < log.length) : ∃ content, Log.contentAt log cursor limit = some content ∧
      content.ShownBy (journal.prepareRead cursor limit).1 ∧
      (journal.prepareRead cursor limit).1.endSequence = cursor + content.count ∧
      cursor + content.count ≤ log.length ∧
      (journal.prepareRead cursor limit).2 =
        journal.invalidatePreparedView.prepareThrough (cursor + content.count) := by
  have fresh := represents.invalidatePreparedView
  have whole : journal.retainedFrom + (cursor - journal.retainedFrom) = cursor :=
    Nat.add_sub_cancel' retained
  have inside : cursor - journal.retainedFrom ≤ (log.drop journal.retainedFrom).length := by
    rw [length_drop]
    omega
  have rest := drop_drop_retained log retained
  have gapAt := containingIn_gapRuns journal.retainedFrom _ _ inside
  have breakAt := containingIn_breakMarks journal.retainedFrom _ _ inside
  rw [whole, rest, ← represents.gaps_eq] at gapAt
  rw [whole, rest, ← represents.breaks_eq] at breakAt
  have open_ : ¬ limit = 0 := by omega
  have kept : ¬ cursor < journal.invalidatePreparedView.retainedFrom :=
    Nat.not_lt.mpr retained
  have behind : ¬ cursor > journal.invalidatePreparedView.produced := by
    rw [fresh.produced_eq]
    omega
  have more : ¬ cursor = journal.invalidatePreparedView.produced := by
    rw [fresh.produced_eq]
    omega
  simp only [MeasurementJournal.prepareRead, if_neg open_, if_neg kept, if_neg behind,
    if_neg more, GapLedger.containing, containing]
  change GapLedger.containingIn journal.invalidatePreparedView.gaps.toList cursor = _ at gapAt
  change containingIn journal.invalidatePreparedView.continuity.toList cursor =
    _ at breakAt
  have lengths : (log.drop cursor).length = log.length - cursor := length_drop
  cases shape : log.drop cursor with
  | nil =>
    rw [shape, length_nil] at lengths
    omega
  | cons entry later =>
    rw [shape, length_cons] at lengths
    rw [Log.contentAt, shape]
    rw [shape] at gapAt breakAt
    cases entry with
    | gap reason =>
      have run : gapRunLength reason later ≤ later.length := by
        simpa [gapRunLength] using (takeWhile_sublist _).length_le
      simp only at gapAt
      refine ⟨_, rfl, ?_⟩
      rw [gapAt]
      refine ⟨⟨rfl, rfl⟩, rfl, ?_, rfl⟩
      simp only [Log.Content.count]
      omega
    | continuityBreak reason =>
      refine ⟨_, rfl, ?_⟩
      rw [gapAt, breakAt]
      refine ⟨⟨rfl, rfl⟩, rfl, ?_, rfl⟩
      simp only [Log.Content.count]
      omega
    | sample record =>
      rw [gapAt, breakAt]
      obtain ⟨first, second, spans, read⟩ := fresh.readSamples retained shape positive
        ⟨.noData, cursor, cursor, journal.invalidatePreparedView.retainedFrom,
          journal.invalidatePreparedView.produced, [], [], {}, {}⟩
      refine ⟨.samples (first ++ second), by rw [spans], ?_⟩
      simp only [read]
      refine ⟨⟨rfl, rfl⟩, rfl, ?_, rfl⟩
      have shorter := (takeWhile_sublist (sameSegment record)
        (l := samplesOf ((later.take (limit - 1)).takeWhile isSample))).length_le
      have run := (takeWhile_sublist isSample (l := later.take (limit - 1))).length_le
      have counts := length_eq_counts ((later.take (limit - 1)).takeWhile isSample)
      rw [length_take] at run
      simp only [Log.Content.count, spans, length_cons]
      omega

/-- Reads outside the retained range prepare nothing. -/
theorem prepareRead_outside
    (outside : ¬ (0 < limit ∧ journal.retainedFrom ≤ cursor ∧ cursor < log.length)) :
    (journal.prepareRead cursor limit).2 = journal.invalidatePreparedView ∧
      (journal.prepareRead cursor limit).1 =
        ⟨if limit = 0 then .invalidLimit
          else if cursor < journal.retainedFrom then .rangeUnavailable
          else if cursor > log.length then .aheadOfProduced else .noData,
          cursor, cursor, journal.retainedFrom, log.length, [], [], {}, {}⟩ := by
  have produced : journal.invalidatePreparedView.produced = log.length :=
    represents.invalidatePreparedView.produced_eq
  have retained : journal.invalidatePreparedView.retainedFrom = journal.retainedFrom := rfl
  simp only [MeasurementJournal.prepareRead, produced, retained]
  by_cases none : limit = 0
  · simp [none, MeasurementJournal.invalidatePreparedView]
  rw [if_neg none, if_neg none]
  by_cases early : cursor < journal.retainedFrom
  · rw [if_pos early, if_pos early]
    exact ⟨rfl, rfl⟩
  rw [if_neg early, if_neg early]
  by_cases ahead : cursor > log.length
  · simp [ahead, MeasurementJournal.invalidatePreparedView]
  have exhausted : cursor = log.length := by omega
  subst exhausted
  rw [if_neg ahead, if_pos rfl, if_neg ahead]
  exact ⟨rfl, rfl⟩

theorem prepareRead (cursor limit : Nat) : Represents (journal.prepareRead cursor limit).2 log := by
  by_cases inside : 0 < limit ∧ journal.retainedFrom ≤ cursor ∧ cursor < log.length
  · obtain ⟨content, -, -, -, bounded, after⟩ :=
      represents.prepareRead_content inside.1 inside.2.1 inside.2.2
    rw [after]
    exact represents.invalidatePreparedView.prepareThrough bounded
  rw [(represents.prepareRead_outside inside).1]
  exact represents.invalidatePreparedView

/-- A delivery moves the cursor up to the prepared end. -/
theorem markDelivered (endSequence : Nat) :
    Represents (journal.markDelivered endSequence).2 log := by
  rw [MeasurementJournal.markDelivered]
  split
  · exact represents
  rename_i prepared
  simp only [not_or, Bool.not_eq_true, Bool.not_eq_false', not_not] at prepared
  have bounded := represents.prepared_le prepared.1
  rw [← prepared.2] at bounded
  refine Represents.invalidatePreparedView ?_
  split
  · exact { represents with delivered_le := bounded }
  · exact represents

/-- A release is refused, repeats an older one, or drops. -/
theorem releaseBefore_cases (cursor : Nat) :
    (max journal.delivered journal.retainedFrom < cursor ∧ journal.released < cursor ∧
        journal.releaseBefore cursor =
          (.beyondDeliveredRange, journal.invalidatePreparedView)) ∨
      (cursor ≤ journal.released ∧
        journal.releaseBefore cursor = (.ok, journal.invalidatePreparedView)) ∨
      (journal.released < cursor ∧ cursor ≤ journal.retainedFrom ∧
        journal.releaseBefore cursor =
          (.ok, { journal.invalidatePreparedView with released := cursor })) ∨
      (journal.retainedFrom < cursor ∧ cursor ≤ journal.delivered ∧
        ∃ kept, Discards journal.invalidatePreparedView kept log cursor false ∧
          journal.releaseBefore cursor = (.ok, { kept with released := cursor })) := by
  have fresh := represents.invalidatePreparedView
  have delivered := represents.delivered_le
  have released := represents.released_le
  have maximum : (if journal.invalidatePreparedView.delivered >
      journal.invalidatePreparedView.retainedFrom then journal.invalidatePreparedView.delivered
      else journal.invalidatePreparedView.retainedFrom) =
        max journal.delivered journal.retainedFrom := by
    change (if journal.delivered > journal.retainedFrom then journal.delivered
      else journal.retainedFrom) = _
    split
    · exact (Nat.max_eq_left (by omega)).symm
    · exact (Nat.max_eq_right (by omega)).symm
  simp only [MeasurementJournal.releaseBefore, maximum]
  by_cases repeated : cursor ≤ journal.released
  · exact Or.inr (Or.inl ⟨repeated, if_pos repeated⟩)
  rw [if_neg (show ¬ cursor ≤ journal.invalidatePreparedView.released from repeated)]
  by_cases beyond : cursor > max journal.delivered journal.retainedFrom
  · exact Or.inl ⟨beyond, by omega, if_pos beyond⟩
  rw [if_neg beyond]
  by_cases retained : cursor > journal.retainedFrom
  · obtain ⟨kept, discarded, effect⟩ :=
      fresh.discardRetentionBefore cursor (Nat.le_of_lt retained) (by omega) false
    refine Or.inr (Or.inr (Or.inr ⟨retained, by omega, kept, effect, ?_⟩))
    rw [if_pos (show cursor > journal.invalidatePreparedView.retainedFrom from retained),
      discarded]
  refine Or.inr (Or.inr (Or.inl ⟨by omega, by omega, ?_⟩))
  exact if_neg retained

theorem releaseBefore (cursor : Nat) : Represents (journal.releaseBefore cursor).2 log := by
  have fresh := represents.invalidatePreparedView
  rcases represents.releaseBefore_cases cursor with
    ⟨-, -, outcome⟩ | ⟨-, outcome⟩ | ⟨-, retained, outcome⟩ | ⟨-, -, kept, effect, outcome⟩
  · rwa [outcome]
  · rwa [outcome]
  · rw [outcome]
    exact { fresh with released_le := retained }
  · rw [outcome]
    exact { effect.represents with released_le := effect.retained_eq ▸ Nat.le_refl _ }

omit represents

end Represents
end SensorSystem.Node

/-! From a fresh journal every sequence of calls keeps `Represents` with the reference log of the
same calls, so every read returns the log's content. -/

namespace SensorSystem.Node

open Base

variable {capacity : JournalCapacity}

namespace Represents

variable {journal : MeasurementJournal capacity} {log : List Entry}

/-- One call of the journal is one step of the log. -/
theorem perform (represents : Represents journal log) (operation : JournalOperation) :
    Represents (journal.perform operation) (Log.step log operation) := by
  cases operation with
  | appendSample sequence sample =>
    rw [MeasurementJournal.perform, Log.step]
    split
    · rename_i accepted
      exact (represents.appendSample_accepted accepted.1 accepted.2.1 accepted.2.2).represents
    rename_i refused
    rwa [(represents.appendSample_refused refused).1]
  | appendGap gap =>
    rw [MeasurementJournal.perform, Log.step]
    split
    · rename_i accepted
      exact (represents.appendGap_accepted accepted.1 accepted.2).represents
    rename_i refused
    rwa [(represents.appendGap_refused refused).1]
  | appendContinuityBreak value =>
    rw [MeasurementJournal.perform, Log.step]
    split
    · rename_i accepted
      exact (represents.appendContinuityBreak_accepted accepted.1 accepted.2).represents
    rename_i refused
    rwa [(represents.appendContinuityBreak_refused refused).1]
  | prepareRead start sampleLimit => exact represents.prepareRead start sampleLimit
  | markDelivered endSequence => exact represents.markDelivered endSequence
  | cancelPrepared => exact represents.invalidatePreparedView
  | releaseBefore cursor => exact represents.releaseBefore cursor

theorem performAll (represents : Represents journal log) (operations : List JournalOperation) :
    Represents (operations.foldl MeasurementJournal.perform journal)
      (operations.foldl Log.step log) :=
  List.foldl_rel represents fun operation _ _ _ related => related.perform operation

end Represents

/-- Every reachable journal holds a suffix of its reference log. -/
theorem represents_run (capacity : JournalCapacity) (operations : List JournalOperation) :
    Represents (MeasurementJournal.run capacity operations) (Log.run operations) :=
  (Represents.initial capacity).performAll operations

/-- A read answer that reports a refused request or an inconsistent journal. -/
def StreamReadStatus.isError : StreamReadStatus → Bool
  | samples | gap | continuityBreak | noData => false
  | rangeUnavailable | aheadOfProduced | invalidLimit | internalError => true

namespace Represents

variable {journal : MeasurementJournal capacity} {log : List Entry}
  (represents : Represents journal log)

include represents

theorem prepareRead_unavailable {cursor limit : Nat} (positive : 0 < limit)
    (early : cursor < journal.retainedFrom) :
    (journal.prepareRead cursor limit).1.status = .rangeUnavailable := by
  have outside := (represents.prepareRead_outside
    (show ¬ (0 < limit ∧ journal.retainedFrom ≤ cursor ∧ cursor < log.length) by omega)).2
  rw [outside, if_neg (by omega), if_pos early]

theorem prepareRead_ne_internalError (cursor limit : Nat) :
    (journal.prepareRead cursor limit).1.status ≠ .internalError := by
  by_cases inside : 0 < limit ∧ journal.retainedFrom ≤ cursor ∧ cursor < log.length
  · obtain ⟨content, -, shown, -⟩ :=
      represents.prepareRead_content inside.1 inside.2.1 inside.2.2
    cases content <;> simp only [Log.Content.ShownBy] at shown <;> simp [shown.1]
  rw [(represents.prepareRead_outside inside).2]
  split
  · simp
  split
  · simp
  · split <;> simp

theorem prepareRead_covers {cursor limit : Nat} (produced : cursor < journal.produced)
    (answered : (journal.prepareRead cursor limit).1.status.isError = false) :
    cursor < (journal.prepareRead cursor limit).1.endSequence := by
  rw [represents.produced_eq] at produced
  by_cases inside : 0 < limit ∧ journal.retainedFrom ≤ cursor ∧ cursor < log.length
  · obtain ⟨content, found, -, stop, -⟩ :=
      represents.prepareRead_content inside.1 inside.2.1 inside.2.2
    have covered := Log.count_pos_of_contentAt found
    omega
  rw [(represents.prepareRead_outside inside).2] at answered
  split at answered
  · simp [StreamReadStatus.isError] at answered
  · split at answered
    · simp [StreamReadStatus.isError] at answered
    · omega

theorem appendSample_status (sequence : Nat) (sample : SampleRecord) :
    ((journal.appendSample sequence sample).1.status = .ok ↔
      Log.step log (.appendSample sequence sample) ≠ log) ∧
      (journal.appendSample sequence sample).1.status ≠ .internalError := by
  by_cases accepted : sequence = log.length ∧ log.length < uint64Max ∧ validSampleRecord sample
  · have status := (represents.appendSample_accepted accepted.1 accepted.2.1 accepted.2.2).status_eq
    rw [status]
    simp [Log.step, accepted]
  obtain ⟨-, refused, sound⟩ := represents.appendSample_refused accepted
  simp [refused, sound, Log.step, accepted]

theorem appendGap_status (gap : GapRecord) :
    ((journal.appendGap gap).1.status = .ok ↔ Log.step log (.appendGap gap) ≠ log) ∧
      (journal.appendGap gap).1.status ≠ .internalError := by
  by_cases accepted : gap.firstMissing = log.length ∧ gap.valid
  · have status := (represents.appendGap_accepted accepted.1 accepted.2).status_eq
    have positive := ((GapRecord.valid_iff gap).mp accepted.2).1
    simp [status, Log.step, accepted, positive]
  obtain ⟨-, refused, sound⟩ := represents.appendGap_refused accepted
  simp [refused, sound, Log.step, accepted]

theorem appendContinuityBreak_status (value : ContinuityBreakRecord) :
    ((journal.appendContinuityBreak value).1.status = .ok ↔
      Log.step log (.appendContinuityBreak value) ≠ log) ∧
      (journal.appendContinuityBreak value).1.status ≠ .internalError := by
  by_cases accepted : value.atSequence = log.length ∧ value.valid
  · have status := (represents.appendContinuityBreak_accepted accepted.1 accepted.2).status_eq
    simp [status, Log.step, accepted]
  obtain ⟨-, refused, sound⟩ := represents.appendContinuityBreak_refused accepted
  simp [refused, sound, Log.step, accepted]

omit represents

end Represents

/-- The journal refines the append-only log. After any sequence of calls, a read
of a retained cursor shows the log's content there, split over two spans; older
cursors are unavailable; an answered read below `produced` makes progress; and
no call reports an inconsistency. -/
theorem journal_refines_log (capacity : JournalCapacity) (operations : List JournalOperation) :
    let journal := MeasurementJournal.run capacity operations
    let log := Log.run operations
    journal.produced = log.length ∧
      (∀ cursor limit, 0 < limit → journal.retainedFrom ≤ cursor → cursor < journal.produced →
        ∃ content, Log.contentAt log cursor limit = some content ∧
          content.ShownBy (journal.prepareRead cursor limit).1 ∧
          (journal.prepareRead cursor limit).1.endSequence = cursor + content.count) ∧
      (∀ cursor limit, 0 < limit → cursor < journal.retainedFrom →
        (journal.prepareRead cursor limit).1.status = .rangeUnavailable) ∧
      (∀ cursor limit, cursor < journal.produced →
        (journal.prepareRead cursor limit).1.status.isError = false →
          cursor < (journal.prepareRead cursor limit).1.endSequence) ∧
      (∀ cursor limit, (journal.prepareRead cursor limit).1.status ≠ .internalError) ∧
      (∀ sequence sample,
        ((journal.appendSample sequence sample).1.status = .ok ↔
          Log.step log (.appendSample sequence sample) ≠ log) ∧
        (journal.appendSample sequence sample).1.status ≠ .internalError) ∧
      (∀ gap, ((journal.appendGap gap).1.status = .ok ↔ Log.step log (.appendGap gap) ≠ log) ∧
        (journal.appendGap gap).1.status ≠ .internalError) ∧
      (∀ value, ((journal.appendContinuityBreak value).1.status = .ok ↔
          Log.step log (.appendContinuityBreak value) ≠ log) ∧
        (journal.appendContinuityBreak value).1.status ≠ .internalError) := by
  have represents := represents_run capacity operations
  refine ⟨represents.produced_eq, ?_, ?_, ?_, ?_, ?_, ?_, ?_⟩
  · intro cursor limit positive retained produced
    rw [represents.produced_eq] at produced
    obtain ⟨content, found, shown, stop, -⟩ :=
      represents.prepareRead_content positive retained produced
    exact ⟨content, found, shown, stop⟩
  · intro cursor limit positive early
    exact represents.prepareRead_unavailable positive early
  · intro cursor limit produced answered
    exact represents.prepareRead_covers produced answered
  · exact represents.prepareRead_ne_internalError
  · exact represents.appendSample_status
  · exact represents.appendGap_status
  · exact represents.appendContinuityBreak_status

end SensorSystem.Node
