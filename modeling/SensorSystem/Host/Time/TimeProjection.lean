import SensorSystem.Host.Time.TimeDurability

/-! What the completions in flight will make of the health of the time service. -/

namespace SensorSystem.Host

open List Base

namespace TimePersistenceHealth

/-- What an observed completion makes of a health without a fault. -/
inductive Observes (health : TimePersistenceHealth) (record : TimeObservationRecord)
    (item : TimeStreamHealth) :
    Except TimeRepositoryError TimeDurableReceipt → TimePersistenceHealth → Prop where
  | failed (error : TimeRepositoryError) (healthy : health.state = .healthy) :
      Observes health record item (.error error)
        { health with uncertain := some record, state := .recoveryRequired }
  | counted (room : item.durableRecordCount + 1 < 2 ^ 64)
      (expected : health.state = .healthy ∧ health.uncertain = none ∨
        health.state = .recovering ∧ health.uncertain = some record) :
      Observes health record item (.ok ⟨record.key, item.durableRecordCount + 1⟩)
        (health.advance record.key (item.durableRecordCount + 1))

variable {health next : TimePersistenceHealth} {completion : TimePersistenceCompletion}
  {record : TimeObservationRecord} {item : TimeStreamHealth}
  {result : Except TimeRepositoryError TimeDurableReceipt}

theorem observeCompletion_of (found : health.streams.find? (·.stream = record.key) = some item)
    (observes : Observes health record item result next) :
    health.observeCompletion ⟨record, result⟩ = (.ok (), next) := by
  cases observes with
  | failed error healthy =>
    simp [observeCompletion, found, healthy]
  | counted room expected =>
    have fits : ¬ item.durableRecordCount + 1 ≥ 2 ^ 64 := Nat.not_le_of_lt room
    rcases expected with ⟨state, uncertain⟩ | ⟨state, uncertain⟩
    · simp only [observeCompletion, found, state, uncertain, if_neg fits]
      simp
    · simp only [observeCompletion, found, state, uncertain, if_neg fits]
      simp

theorem observes_of (observed : health.observeCompletion completion = (.ok (), next)) :
    ∃ item, health.streams.find? (·.stream = completion.record.key) = some item ∧
      Observes health completion.record item completion.result next := by
  obtain ⟨record, result⟩ := completion
  unfold observeCompletion at observed
  split at observed
  · cases observed
  simp only at observed
  split at observed
  · cases observed
  rename_i item found
  refine ⟨item, found, ?_⟩
  split at observed
  · split at observed
    · cases observed
    · rename_i healthy
      cases observed
      exact .failed _ (not_not.mp healthy)
  split at observed
  · cases observed
  rename_i receipt matching
  obtain ⟨stream, recordCount⟩ := receipt
  obtain rfl : stream = record.key := not_not.mp matching
  split at observed
  · rename_i uncertain known
    split at observed
    · cases observed
    rename_i recovering
    simp only [not_or, not_not] at recovering
    obtain ⟨rfl, state⟩ := recovering
    split at observed
    · cases observed
    rename_i fits
    split at observed
    · cases observed
    rename_i counts
    obtain rfl : recordCount = item.durableRecordCount + 1 := not_not.mp counts
    cases observed
    exact .counted (Nat.lt_of_not_le fits) (.inr ⟨state, known⟩)
  · rename_i none
    split at observed
    · cases observed
    rename_i healthy
    split at observed
    · cases observed
    rename_i fits
    split at observed
    · cases observed
    rename_i counts
    obtain rfl : recordCount = item.durableRecordCount + 1 := not_not.mp counts
    cases observed
    exact .counted (Nat.lt_of_not_le fits) (.inl ⟨not_not.mp healthy, none⟩)

/-- The health after completions of which none is a fault. -/
def observeAll (health : TimePersistenceHealth) :
    List TimePersistenceCompletion → Option TimePersistenceHealth
  | [] => some health
  | completion :: rest =>
    match health.observeCompletion completion with
    | (.ok (), next) => next.observeAll rest
    | (.error _, _) => none

theorem observeAll_cons {rest : List TimePersistenceCompletion} {last : TimePersistenceHealth} :
    health.observeAll (completion :: rest) = some last ↔
      ∃ next, health.observeCompletion completion = (.ok (), next) ∧
        next.observeAll rest = some last := by
  rw [observeAll]
  constructor
  · intro observed
    split at observed
    · rename_i next first
      exact ⟨next, first, observed⟩
    · cases observed
  · rintro ⟨next, first, observed⟩
    rw [first]
    exact observed

theorem observeAll_append (first second : List TimePersistenceCompletion) :
    health.observeAll (first ++ second) = (health.observeAll first).bind (·.observeAll second) := by
  induction first generalizing health with
  | nil => rfl
  | cons completion rest ih =>
    rw [cons_append, observeAll, observeAll]
    split
    · exact ih
    · rfl

variable {completions : List TimePersistenceCompletion}
  (observed : health.observeAll completions = some next)

include observed

/-- A required recovery comes before every further completion. -/
theorem observeAll_required (required : health.state = .recoveryRequired) : completions = [] := by
  cases completions with
  | nil => rfl
  | cons completion rest =>
    obtain ⟨after, first, -⟩ := observeAll_cons.mp observed
    obtain ⟨item, -, observes⟩ := observes_of first
    generalize completion.result = result at observes
    cases observes with
    | failed error healthy =>
      rw [required] at healthy
      cases healthy
    | counted room expected =>
      rcases expected with ⟨state, -⟩ | ⟨state, -⟩ <;> rw [required] at state <;> cases state

/-- A fault stays. -/
theorem observeAll_integrityFault (fault : health.state = .integrityFault) :
    next.state = .integrityFault := by
  cases completions with
  | nil =>
    cases observed
    exact fault
  | cons completion rest =>
    obtain ⟨after, first, -⟩ := observeAll_cons.mp observed
    simp only [observeCompletion, fault, if_true] at first
    cases first

omit observed

/-- A stream that is registered while completions are in flight. -/
def register (health : TimePersistenceHealth) (stream : TimeStreamHealth) : TimePersistenceHealth :=
  { health with streams := health.streams ++ [stream] }

theorem Observes.register (found : health.streams.find? (·.stream = record.key) = some item)
    (observes : Observes health record item result next) (stream : TimeStreamHealth) :
    Observes (health.register stream) record item result (next.register stream) := by
  cases observes with
  | failed error healthy => exact .failed error healthy
  | counted room expected =>
    have later : Observes (health.register stream) record item _ _ := .counted room expected
    have same : (health.advance record.key (item.durableRecordCount + 1)).register stream =
        (health.register stream).advance record.key (item.durableRecordCount + 1) := by
      simp only [TimePersistenceHealth.register, advance]
      rw [updateFirst_append_of_find? found]
    rw [same]
    exact later

theorem observeAll_register (observed : health.observeAll completions = some next)
    (stream : TimeStreamHealth) :
    (health.register stream).observeAll completions = some (next.register stream) := by
  induction completions generalizing health with
  | nil =>
    cases observed
    rfl
  | cons completion rest ih =>
    obtain ⟨after, first, observed⟩ := observeAll_cons.mp observed
    obtain ⟨item, found, observes⟩ := observes_of first
    have kept : (health.register stream).streams.find? (·.stream = completion.record.key) =
        some item := by
      rw [TimePersistenceHealth.register, find?_append, found, Option.some_or]
    exact observeAll_cons.mpr
      ⟨_, observeCompletion_of kept (observes.register found stream), ih observed⟩

end TimePersistenceHealth

/-- The counts of the streams with these records. -/
def tallies (before : TimeDisk) (records : List TimeObservationRecord)
    (specs : List TimeStreamSpec) : List TimeStreamHealth :=
  specs.map fun spec => ⟨spec.config.key, tally before records spec⟩

variable {before : TimeDisk} {records : List TimeObservationRecord} {record : TimeObservationRecord}
  {specs : List TimeStreamSpec} {spec : TimeStreamSpec}

theorem tallies_find? (distinct : (specs.map (·.config.key)).Nodup) (member : spec ∈ specs) :
    (tallies before records specs).find? (·.stream = spec.config.key) =
      some ⟨spec.config.key, tally before records spec⟩ := by
  have keys : (tallies before records specs).map (·.stream) = specs.map (·.config.key) := by
    rw [tallies, map_map]
    rfl
  exact find?_key (keys ▸ distinct)
    (mem_map_of_mem (f := fun spec : TimeStreamSpec =>
      (⟨spec.config.key, tally before records spec⟩ : TimeStreamHealth)) member) rfl

theorem tallies_append (distinct : (specs.map (·.config.key)).Nodup) (member : spec ∈ specs)
    (here : spec.config.key = record.key) : updateFirst (·.stream = record.key)
        ({ · with durableRecordCount := tally before records spec + 1 })
        (tallies before records specs) =
      tallies before (records ++ [record]) specs := by
  induction specs with
  | nil => exact absurd member not_mem_nil
  | cons head rest ih =>
    obtain ⟨fresh, distinct⟩ := nodup_cons.mp distinct
    simp only [tallies, map_cons, updateFirst, decide_eq_true_eq]
    by_cases same : head.config.key = record.key
    · -- the keys differ, so this is the stream
      have alone : ∀ other ∈ rest, record.key ≠ other.config.key := fun other there equal =>
        fresh (mem_map.mpr ⟨other, there, equal.symm.trans same.symm⟩)
      have only : spec = head := by
        rcases mem_cons.mp member with first | later
        · exact first
        · exact absurd here.symm (alone spec later)
      subst only
      rw [if_pos same, tally_append_self here]
      refine congrArg _ (map_congr_left fun other there => ?_)
      rw [tally_append_ne (alone other there)]
    · have later : spec ∈ rest := by
        rcases mem_cons.mp member with first | later
        · exact absurd (first ▸ here) same
        · exact later
      rw [if_neg same, tally_append_ne fun equal => same equal.symm]
      exact congrArg _ (ih distinct later)

end SensorSystem.Host
