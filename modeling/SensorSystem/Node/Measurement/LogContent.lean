import SensorSystem.Node.Measurement.JournalReads

/-! What a read returns is checked data, entry by entry what the log holds at its cursors. -/

namespace SensorSystem.Node

open List Base

/-- An entry that passed the checks of its append. -/
def Entry.Checked : Entry → Prop
  | .sample record => validSampleRecord record = true
  | .gap reason => reason.isKnown = true
  | .continuityBreak reason => reason.isKnown = true

variable {log : List Entry} {cursor limit index : Nat}

theorem Log.checked_step (checked : ∀ entry ∈ log, entry.Checked) (operation : JournalOperation) :
    ∀ entry ∈ Log.step log operation, entry.Checked := by
  intro entry member
  cases operation with
  | appendSample sequence sample =>
    rw [Log.step] at member
    split at member
    · rename_i accepted
      rcases mem_append.mp member with old | new
      · exact checked entry old
      · rw [mem_singleton] at new
        subst new
        exact accepted.2.2
    · exact checked entry member
  | appendGap gap =>
    rw [Log.step] at member
    split at member
    · rename_i accepted
      rcases mem_append.mp member with old | new
      · exact checked entry old
      · rw [(mem_replicate.mp new).2]
        exact ((GapRecord.valid_iff gap).mp accepted.2).2.2
    · exact checked entry member
  | appendContinuityBreak value =>
    rw [Log.step] at member
    split at member
    · rename_i accepted
      rcases mem_append.mp member with old | new
      · exact checked entry old
      rw [mem_singleton] at new
      subst new
      have known := accepted.2
      rw [ContinuityBreakRecord.valid, Bool.and_eq_true] at known
      exact known.2
    · exact checked entry member
  | prepareRead | markDelivered | cancelPrepared | releaseBefore => exact checked entry member

/-- Content starts at its cursor, has a known reason and keeps to its limit. -/
def Log.Content.Regular (cursor limit : Nat) : Log.Content → Prop
  | .gap record => record.firstMissing = cursor ∧ record.reason.isKnown = true
  | .continuityBreak record => record.atSequence = cursor ∧ record.reason.isKnown = true
  | .samples records => records.length ≤ limit

theorem Log.regular_of_contentAt (checked : ∀ entry ∈ log, entry.Checked) (positive : 0 < limit)
    {content : Log.Content} (found : Log.contentAt log cursor limit = some content) :
    content.Regular cursor limit := by
  rw [Log.contentAt] at found
  split at found
  · cases found
  · rename_i reason later shape
    cases found
    exact ⟨rfl, checked (.gap reason) (mem_of_mem_drop (shape ▸ mem_cons_self))⟩
  · rename_i reason later shape
    cases found
    exact ⟨rfl, checked (.continuityBreak reason)
      (mem_of_mem_drop (shape ▸ mem_cons_self))⟩
  rename_i record later shape
  cases found
  have run : ((samplesOf ((later.take (limit - 1)).takeWhile Entry.isSample)).takeWhile
      (sameSegment record)).length ≤ limit - 1 := by
    calc _ ≤ (samplesOf ((later.take (limit - 1)).takeWhile Entry.isSample)).length :=
          (takeWhile_sublist _).length_le
      _ ≤ ((later.take (limit - 1)).takeWhile Entry.isSample).length :=
          length_filterMap_le _ _
      _ ≤ (later.take (limit - 1)).length := (takeWhile_sublist _).length_le
      _ ≤ limit - 1 := length_take_le _ _
  change (record :: _).length ≤ limit
  rw [length_cons]
  omega

theorem getElem?_of_isPrefixed {α : Type} {first second : List α} (within : first <+: second)
    {item : α} (found : first[index]? = some item) : second[index]? = some item := by
  obtain ⟨rest, rfl⟩ := within
  rw [getElem?_append_left (List.getElem?_eq_some_iff.mp found).1]
  exact found

variable {entries : List Entry} {record : SampleRecord}

theorem Log.getElem?_of_drop (rest : log.drop cursor = entries) (index : Nat) :
    log[cursor + index]? = entries[index]? := by
  rw [← rest, getElem?_drop]

/-- A gap that is found covers gap entries of its reason. -/
theorem Log.getElem?_of_gap {record : GapRecord}
    (found : Log.contentAt log cursor limit = some (.gap record))
    (inside : index < record.missingCount) : log[cursor + index]? = some (.gap record.reason) := by
  rw [Log.contentAt] at found
  split at found
  · cases found
  · rename_i reason later shape
    cases found
    rw [Log.getElem?_of_drop shape]
    cases index with
    | zero => rfl
    | succ index =>
      have below : index < gapRunLength reason later := Nat.lt_of_succ_lt_succ inside
      have short : gapRunLength reason later ≤ later.length := (takeWhile_sublist _).length_le
      have bound : index < later.length := Nat.lt_of_lt_of_le below short
      have member : later[index] ∈ later.take (gapRunLength reason later) :=
        mem_take_iff_getElem.mpr ⟨index, by omega, rfl⟩
      rw [getElem?_cons_succ, getElem?_eq_getElem bound]
      exact congrArg some (eq_gap_of_mem_take_gapRun member)
  · cases found
  · cases found

theorem Log.getElem?_of_continuityBreak {record : ContinuityBreakRecord}
    (found : Log.contentAt log cursor limit = some (.continuityBreak record)) :
    record.atSequence = cursor ∧ log[cursor]? = some (.continuityBreak record.reason) := by
  rw [Log.contentAt] at found
  split at found
  · cases found
  · cases found
  · rename_i reason later shape
    cases found
    exact ⟨rfl, Log.getElem?_of_drop shape 0⟩
  · cases found

/-- The leading samples of a list are its first entries. -/
theorem getElem?_of_samplesOf_takeWhile
    (found : (samplesOf (entries.takeWhile Entry.isSample))[index]? = some record) :
    entries[index]? = some (.sample record) := by
  induction entries generalizing index with
  | nil => simp [samplesOf] at found
  | cons entry entries ih =>
    cases entry with
    | gap | continuityBreak => simp [samplesOf, Entry.isSample] at found
    | sample first =>
      rw [takeWhile_cons_of_pos rfl, samplesOf_sample] at found
      cases index with
      | zero => simpa using found
      | succ index => exact ih found

/-- Samples that are found are the entries from the cursor on. -/
theorem Log.getElem?_of_samples {records : List SampleRecord}
    (found : Log.contentAt log cursor limit = some (.samples records))
    (inside : records[index]? = some record) : log[cursor + index]? = some (.sample record) ∧
      record.configRevision = (records.headD default).configRevision ∧
      record.timingSegmentId = (records.headD default).timingSegmentId := by
  rw [Log.contentAt] at found
  split at found
  · cases found
  · cases found
  · cases found
  rename_i first later shape
  cases found
  rw [Log.getElem?_of_drop shape]
  cases index with
  | zero =>
    cases inside
    exact ⟨rfl, rfl, rfl⟩
  | succ index =>
    rw [getElem?_cons_succ] at inside ⊢
    have same : sameSegment first record = true :=
      mem_takeWhile_imp (mem_of_getElem? inside)
    rw [sameSegment, Bool.and_eq_true, beq_iff_eq, beq_iff_eq] at same
    refine ⟨?_, same.1, same.2⟩
    have early := getElem?_of_samplesOf_takeWhile
      (getElem?_of_isPrefixed (List.takeWhile_prefix _) inside)
    rw [getElem?_take] at early
    split at early
    · exact early
    · cases early

end SensorSystem.Node
