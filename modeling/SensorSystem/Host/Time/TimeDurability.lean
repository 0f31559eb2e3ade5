import SensorSystem.Host.Time.TimeFiles
import SensorSystem.Host.Time.TimePersistence

/-! Which of the submitted observations the files hold, in the order of their submission. -/

namespace SensorSystem.Host

open List TimeRepository
open Base
open TimeRepository (AppendsRecord RolledOver)

/-- The records that a run accepts. -/
def acceptedRecords (events : List TimeEvent) : List TimeObservationRecord :=
  events.filterMap fun
    | .submit record => some record
    | _ => none

theorem acceptedRecords_append (past : List TimeEvent) (event : TimeEvent) :
    acceptedRecords (past ++ [event]) = acceptedRecords past ++ acceptedRecords [event] :=
  filterMap_append ..

/-- The observations of one stream. -/
def observationsOf (key : TimeStreamKey) (records : List TimeObservationRecord) :
    List ClockObservation :=
  (records.filter (·.key = key)).map (·.observation)

theorem observationsOf_append (key : TimeStreamKey) (first second : List TimeObservationRecord) :
    observationsOf key (first ++ second) = observationsOf key first ++
      observationsOf key second := by
  simp only [observationsOf, filter_append, map_append]

theorem observationsOf_self (record : TimeObservationRecord) :
    observationsOf record.key [record] = [record.observation] := by
  simp [observationsOf]

theorem observationsOf_ne {key : TimeStreamKey} {records : List TimeObservationRecord}
    (apart : ∀ record ∈ records, record.key ≠ key) : observationsOf key records = [] := by
  unfold observationsOf
  rw [map_eq_nil_iff, filter_eq_nil_iff]
  exact fun record member => by simpa using apart record member

/-- The files of the streams hold these records after what they held before. -/
structure Written (before disk : TimeDisk) (specs : List TimeStreamSpec)
    (records : List TimeObservationRecord) : Prop where
  files : ∀ spec ∈ specs, disk.observationsAt spec.path =
    before.observationsAt spec.path ++ observationsOf spec.config.key records
  elsewhere : ∀ path, (∀ spec ∈ specs, spec.path ≠ path) →
    disk.observationsAt path = before.observationsAt path
  known : ∀ record ∈ records, ∃ spec ∈ specs, spec.config.key = record.key

/-- How many observations a stream has with these records. -/
def tally (before : TimeDisk) (records : List TimeObservationRecord) (spec : TimeStreamSpec) :
    Nat :=
  (before.observationsAt spec.path ++ observationsOf spec.config.key records).length

variable {before disk after : TimeDisk} {repository rolled : TimeRepository}
  {specs : List TimeStreamSpec} {records : List TimeObservationRecord}
  {record : TimeObservationRecord}

theorem Written.same (written : Written before disk specs records)
    (files : after.observationsAt = disk.observationsAt) : Written before after specs records :=
  ⟨fun spec member => files ▸ written.files spec member,
    fun path apart => files ▸ written.elsewhere path apart, written.known⟩

variable {sink : TimeWalSink} {spec : TimeStreamSpec}
  (written : Written before disk repository.specs records)

include written

theorem Written.append (sound : repository.Sound disk)
    (appends : AppendsRecord disk repository record sink after) :
    Written before after repository.specs (records ++ [record]) := by
  obtain ⟨member, here, rfl⟩ := appends
  have matched := sound.matched sink member
  refine ⟨?_, ?_, ?_⟩
  · intro spec there
    obtain ⟨other, present, rfl⟩ := mem_map.mp there
    have held := written.files _ there
    rw [observationsOf_append, ← append_assoc, ← held]
    by_cases same : other.config.key = sink.config.key
    · obtain rfl := eq_of_key sound.distinct present member same
      simp only [specOf, write_observationsAt matched, here,
        observationsOf_self]
    have apart := sound.path_ne present member same
    rw [specOf, write_observationsAt_ne matched _ apart,
      observationsOf_ne, append_nil]
    intro only one
    obtain rfl := mem_singleton.mp one
    exact fun equal => same (equal.symm.trans here.symm)
  · intro path apart
    have away := apart _ (mem_map_of_mem member)
    rw [write_observationsAt_ne matched _ fun same => away same.symm]
    exact written.elsewhere path apart
  · intro other there
    rcases mem_append.mp there with old | new
    · exact written.known other old
    · obtain rfl := mem_singleton.mp new
      exact ⟨_, mem_map_of_mem member, here⟩

/-- A new stream starts with what its file held before. -/
theorem Written.opened (files : after.observationsAt = disk.observationsAt)
    (sound : rolled.Sound after) {next : TimeStreamSpec}
    (fresh : ∀ spec ∈ repository.specs, spec.config.key ≠ next.config.key)
    (grown : rolled.specs = repository.specs ++ [next]) :
    Written before after rolled.specs records := by
  have last : next ∈ rolled.specs := by simp [grown]
  have apart : ∀ spec ∈ repository.specs, spec.path ≠ next.path := by
    intro spec member
    have there : spec ∈ rolled.specs := by simp [grown, member]
    obtain ⟨first, here, rfl⟩ := mem_map.mp there
    obtain ⟨second, here', rfl⟩ := mem_map.mp last
    exact sound.path_ne here here' (fresh _ member)
  refine ⟨?_, ?_, ?_⟩
  · intro spec member
    rw [grown] at member
    rcases mem_append.mp member with old | new
    · rw [files]
      exact written.files spec old
    obtain rfl := mem_singleton.mp new
    rw [files, written.elsewhere _ apart, observationsOf_ne, append_nil]
    intro record there same
    obtain ⟨spec, known, key⟩ := written.known record there
    exact fresh spec known (key.trans same)
  · intro path away
    rw [files]
    exact written.elsewhere path fun spec member => away spec (by simp [grown, member])
  · intro record member
    obtain ⟨spec, known, key⟩ := written.known record member
    exact ⟨spec, by simp [grown, known], key⟩

omit written

theorem written_nil (files : disk.observationsAt = before.observationsAt)
    (specs : List TimeStreamSpec) : Written before disk specs [] := by
  refine ⟨fun spec _ => ?_, fun path _ => congrFun files path,
    fun _ member => absurd member not_mem_nil⟩
  rw [files]
  exact (append_nil _).symm

/-- A sound repository counts what its files hold. -/
theorem Written.counted (written : Written before disk repository.specs records)
    (sound : repository.Sound disk) (member : sink ∈ repository.streams) :
    sink.recovery.recordCount = tally before records (specOf sink) := by
  have held := written.files _ (mem_map_of_mem member)
  rw [tally, ← held]
  exact congrArg TimeWalRecovery.recordCount (sound.matched sink member).recovery

theorem tally_append_self (here : spec.config.key = record.key) :
    tally before (records ++ [record]) spec = tally before records spec + 1 := by
  simp only [tally, observationsOf_append, here, observationsOf_self, length_append,
    length_singleton]
  omega

theorem tally_append_ne (apart : record.key ≠ spec.config.key) :
    tally before (records ++ [record]) spec = tally before records spec := by
  have none : observationsOf spec.config.key [record] = [] :=
    observationsOf_ne (by simpa using apart)
  rw [tally, observationsOf_append, none, append_nil, tally]

end SensorSystem.Host
