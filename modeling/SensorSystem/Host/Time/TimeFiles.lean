import SensorSystem.Host.Time.TimeRepository

/-! What a repository knows of its streams is what their files hold. -/

namespace SensorSystem.Host

open List TimeDisk
open TimeWalSink
open Base

/-- Files stay as they are, and new ones may come. -/
def TimeDisk.Keeps (before after : TimeDisk) : Prop :=
  ∀ path file, before path = some file → after path = some file

namespace TimeDisk

variable {disk middle after : TimeDisk} {path other : String} {file : TimeFile}

theorem Keeps.refl (disk : TimeDisk) : disk.Keeps disk := fun _ _ => id

theorem Keeps.trans (first : disk.Keeps middle) (second : middle.Keeps after) : disk.Keeps after :=
  fun path file here => second path file (first path file here)

@[simp] theorem put_self (disk : TimeDisk) (path : String) (file : TimeFile) :
    disk.put path file path = some file := if_pos rfl

theorem put_ne (apart : other ≠ path) : disk.put path file other = disk other := if_neg apart

/-- The observations of the file at a path. -/
def observationsAt (disk : TimeDisk) (path : String) : List ClockObservation :=
  ((disk path).map (·.observations)).getD []

theorem observationsAt_of_eq (here : disk path = some file) :
    disk.observationsAt path = file.observations := by
  simp only [observationsAt, here, Option.map_some, Option.getD_some]

/-- Files stay as they are, and new ones are empty. -/
structure Opens (before after : TimeDisk) : Prop where
  keeps : before.Keeps after
  observationsAt : after.observationsAt = before.observationsAt

theorem Opens.refl (disk : TimeDisk) : disk.Opens disk := ⟨.refl disk, rfl⟩

theorem Opens.trans (first : disk.Opens middle) (second : middle.Opens after) : disk.Opens after :=
  ⟨first.keeps.trans second.keeps, second.observationsAt.trans first.observationsAt⟩

end TimeDisk

theorem validateHeaderIdentity_eq_ok {expected actual : TimeWalConfig}
    (valid : validateHeaderIdentity expected actual = .ok ()) : actual = expected := by
  unfold validateHeaderIdentity at valid
  repeat' split at valid
  all_goals try cases valid
  cases actual
  cases expected
  simp_all

/-- A recovery counts the records and knows the last. -/
theorem recoverFrom_eq_ok {bootEpoch : BootEpoch} {observations : List ClockObservation}
    {before recovery : TimeWalRecovery}
    (recovers : recoverFrom bootEpoch before observations = .ok recovery) :
    recovery = ⟨before.recordCount + observations.length,
      observations.getLast?.or before.lastObservation⟩ := by
  induction observations generalizing before with
  | nil =>
    cases recovers
    rfl
  | cons observation rest ih =>
    obtain ⟨-, recovers⟩ := check_eq_ok.mp recovers
    rw [ih recovers]
    simp only [length_cons, TimeWalRecovery.mk.injEq]
    refine ⟨by omega, ?_⟩
    cases rest with
    | nil => rfl
    | cons next rest => simp [getLast?_cons]

/-- A sink knows what its file holds. -/
def TimeWalSink.Matches (disk : TimeDisk) (sink : TimeWalSink) : Prop :=
  sink.poisoned = false ∧ ∃ observations, disk sink.path = some ⟨sink.config, observations⟩ ∧
    sink.recovery = ⟨observations.length, observations.getLast?⟩

namespace TimeWalSink

variable {disk after : TimeDisk} {path : String} {config : TimeWalConfig} {outcome : IoOutcome}
  {sink : TimeWalSink}

theorem create_opens (disk : TimeDisk) (path : String) (config : TimeWalConfig) :
    disk.Opens (create disk path config) := by
  unfold create
  cases known : disk path with
  | some present => exact .refl disk
  | none =>
    refine ⟨fun other file here => (put_ne ?_).trans here, funext fun other => ?_⟩
    · rintro rfl
      rw [known] at here
      cases here
    by_cases here : other = path
    · subst here
      simp [observationsAt, known]
    · simp only [observationsAt, put_ne here]

theorem openWal_opens (disk : TimeDisk) (path : String) (config : TimeWalConfig)
    (outcome : IoOutcome) : disk.Opens (openWal disk path config outcome).2 := by
  unfold openWal
  split
  · exact .refl disk
  cases outcome
  · exact create_opens disk path config
  · exact .refl disk
  · exact create_opens disk path config

theorem openWal_eq_ok (opens : openWal disk path config outcome = (.ok sink, after)) :
    sink.path = path ∧ sink.config = config ∧ sink.Matches after := by
  unfold openWal at opens
  split at opens
  · cases opens
  cases outcome with
  | failsBefore => cases opens
  | failsAfter => cases opens
  | succeeds =>
    simp only [Prod.mk.injEq] at opens
    obtain ⟨opens, rfl⟩ := opens
    obtain ⟨identity, opens⟩ := check_eq_ok.mp opens
    obtain ⟨recovery, recovers, same⟩ := bind_eq_ok.mp opens
    cases same
    refine ⟨rfl, rfl, rfl, ?_⟩
    have there : ∃ file, create disk path config path = some file := by
      unfold create
      cases here : disk path with
      | some file => exact ⟨file, here⟩
      | none => exact ⟨_, put_self disk path _⟩
    obtain ⟨file, here⟩ := there
    rw [here] at identity recovers
    have config' := validateHeaderIdentity_eq_ok identity
    refine ⟨file.observations, ?_, ?_⟩
    · rw [here, ← config']
      rfl
    · have counted := recoverFrom_eq_ok recovers
      simpa using counted

theorem Matches.recovery (matched : sink.Matches disk) :
    sink.recovery = ⟨(disk.observationsAt sink.path).length,
      (disk.observationsAt sink.path).getLast?⟩ := by
  obtain ⟨-, observations, here, recovery⟩ := matched
  rw [recovery, observationsAt_of_eq here]

theorem Matches.keeps (matched : sink.Matches disk) (keeps : disk.Keeps after) :
    sink.Matches after := by
  obtain ⟨sound, observations, here, recovery⟩ := matched
  exact ⟨sound, observations, keeps _ _ here, recovery⟩

end TimeWalSink

namespace TimeRepository

/-- The keys differ, and every sink knows what its file holds. -/
structure Sound (disk : TimeDisk) (repository : TimeRepository) : Prop where
  distinct : (repository.streams.map (·.config.key)).Nodup
  matched : ∀ sink ∈ repository.streams, sink.Matches disk

variable {disk after : TimeDisk} {repository : TimeRepository} {record : TimeObservationRecord}
  {outcome : IoOutcome} (sound : repository.Sound disk)

include sound

theorem Sound.keeps (keeps : disk.Keeps after) : repository.Sound after :=
  ⟨sound.distinct, fun sink member => (sound.matched sink member).keeps keeps⟩

/-- Streams with different keys have different files. -/
theorem Sound.path_ne {first second : TimeWalSink} (here : first ∈ repository.streams)
    (there : second ∈ repository.streams) (apart : first.config.key ≠ second.config.key) :
    first.path ≠ second.path := by
  intro same
  obtain ⟨-, _, ours, -⟩ := sound.matched first here
  obtain ⟨-, _, theirs, -⟩ := sound.matched second there
  rw [same, theirs] at ours
  have config := congrArg TimeFile.config (Option.some.inj ours)
  exact apart (congrArg TimeWalConfig.key config).symm

theorem Sound.append {sink : TimeWalSink} (matched : sink.Matches disk)
    (fresh : hasKey repository.streams sink.config.key = false) :
    Sound disk { repository with streams := repository.streams ++ [sink] } := by
  refine ⟨?_, ?_⟩
  · rw [map_append, nodup_append]
    refine ⟨sound.distinct, by simp, ?_⟩
    intro first here second there same
    obtain ⟨other, member, rfl⟩ := mem_map.mp here
    have last : second = sink.config.key := by simpa using there
    have known : hasKey repository.streams sink.config.key = true :=
      any_eq_true.mpr ⟨other, member, by simp [same, last]⟩
    rw [fresh] at known
    cases known
  · intro other member
    rcases mem_append.mp member with known | last
    · exact sound.matched other known
    · obtain rfl := mem_singleton.mp last
      exact matched

omit sound

variable (hostClockId : HostClockId)

theorem openLoop_opens (specs : List TimeStreamSpec) (streams : List TimeWalSink)
    (disk : TimeDisk) (outcomes : List IoOutcome) :
    disk.Opens (openLoop hostClockId streams disk specs outcomes).2 := by
  induction specs generalizing streams disk outcomes with
  | nil => exact .refl disk
  | cons spec specs ih =>
    unfold openLoop
    split
    · exact .refl disk
    split
    · exact .refl disk
    have kept := openWal_opens disk spec.path spec.config (outcomes.headD .succeeds)
    rcases opened : openWal disk spec.path spec.config (outcomes.headD .succeeds) with
      ⟨result, disk'⟩
    rw [opened] at kept
    cases result with
    | error error => exact kept
    | ok sink => exact kept.trans (ih _ _ _)

/-- What a sink was opened with. -/
def specOf (sink : TimeWalSink) : TimeStreamSpec := ⟨sink.path, sink.config⟩

def specs (repository : TimeRepository) : List TimeStreamSpec := repository.streams.map specOf

variable {outcomes : List IoOutcome}

theorem openLoop_eq_ok {hostClockId : HostClockId} {specs : List TimeStreamSpec}
    {streams : List TimeWalSink} (sound : Sound disk ⟨hostClockId, streams⟩)
    (opens : openLoop hostClockId streams disk specs outcomes = (.ok repository, after)) :
    repository.Sound after ∧ repository.streams.map specOf = streams.map specOf ++ specs := by
  induction specs generalizing streams disk outcomes with
  | nil =>
    cases opens
    exact ⟨sound, by simp⟩
  | cons spec specs ih =>
    unfold openLoop at opens
    split at opens
    · cases opens
    split at opens
    · cases opens
    rename_i fresh
    have kept := (openWal_opens disk spec.path spec.config (outcomes.headD .succeeds)).keeps
    rcases opened : openWal disk spec.path spec.config (outcomes.headD .succeeds) with
      ⟨result, disk'⟩
    rw [opened] at opens kept
    cases result with
    | error error => cases opens
    | ok sink =>
      obtain ⟨path, config, matched⟩ := openWal_eq_ok opened
      have fresh' : hasKey streams sink.config.key = false := by
        rw [config]
        simpa using fresh
      have grown := (sound.keeps kept).append matched fresh'
      obtain ⟨sound', specs'⟩ := ih grown opens
      refine ⟨sound', ?_⟩
      have spec' : specOf sink = spec := by
        cases spec
        simp_all [specOf]
      rw [specs']
      simp [spec']

theorem openStreams_eq_ok {specs : List TimeStreamSpec}
    (opens : openStreams disk specs outcomes = (.ok repository, after)) :
    repository.Sound after ∧ repository.specs = specs := by
  unfold openStreams at opens
  split at opens
  · cases opens
  rename_i first rest
  have none : Sound disk ⟨first.config.hostClockId, []⟩ :=
    ⟨nodup_nil, fun _ member => absurd member not_mem_nil⟩
  obtain ⟨sound, specs⟩ := openLoop_eq_ok none opens
  exact ⟨sound, specs⟩

theorem openStreams_opens (disk : TimeDisk) (specs : List TimeStreamSpec)
    (outcomes : List IoOutcome) : disk.Opens (openStreams disk specs outcomes).2 := by
  unfold openStreams
  split
  · exact .refl disk
  · exact openLoop_opens _ _ _ _ _

variable {sink : TimeWalSink}

theorem stream_eq_some {key : TimeStreamKey}
    (found : repository.stream key = some sink) :
    sink ∈ repository.streams ∧ sink.config.key = key :=
  ⟨mem_of_find?_eq_some found, by simpa using find?_some found⟩

theorem specs_keys (streams : List TimeWalSink) :
    (streams.map specOf).map (·.config.key) = streams.map (·.config.key) := by
  rw [map_map]
  rfl

/-- A write lengthens the file of its stream. -/
theorem write_eq (matched : sink.Matches disk)
    (observation : ClockObservation) : sink.write disk observation =
      disk.put sink.path ⟨sink.config, disk.observationsAt sink.path ++ [observation]⟩ := by
  obtain ⟨-, observations, here, -⟩ := matched
  simp only [write, here, observationsAt_of_eq here]

theorem write_observationsAt (matched : sink.Matches disk)
    (observation : ClockObservation) : (sink.write disk observation).observationsAt sink.path =
      disk.observationsAt sink.path ++ [observation] := by
  rw [write_eq matched]
  exact observationsAt_of_eq (put_self ..)

theorem write_observationsAt_ne (matched : sink.Matches disk)
    (observation : ClockObservation) {path : String} (apart : path ≠ sink.path) :
    (sink.write disk observation).observationsAt path = disk.observationsAt path := by
  rw [write_eq matched]
  simp only [observationsAt, put_ne apart]

theorem Sound.write_matches (sound : repository.Sound disk) {sink other : TimeWalSink}
    (member : sink ∈ repository.streams) (known : other ∈ repository.streams)
    (apart : other.config.key ≠ sink.config.key) (observation : ClockObservation) :
    other.Matches (sink.write disk observation) := by
  obtain ⟨sane, observations, here, recovery⟩ := sound.matched other known
  refine ⟨sane, observations, ?_, recovery⟩
  rw [write_eq (sound.matched sink member)]
  exact (put_ne (sound.path_ne known member apart)).trans here

/-- After a write the sink knows its file again. -/
theorem Matches.written {sink : TimeWalSink} (matched : sink.Matches disk)
    (observation : ClockObservation) :
    ({ sink with recovery := ⟨sink.recovery.recordCount + 1, some observation⟩ } :
      TimeWalSink).Matches (sink.write disk observation) := by
  refine ⟨matched.1, disk.observationsAt sink.path ++ [observation], ?_, ?_⟩
  · rw [write_eq matched]
    exact put_self ..
  · simp only [matched.recovery, length_append, length_singleton,
      getLast?_append, getLast?_singleton, Option.some_or]

theorem append_spec (disk : TimeDisk) (sink : TimeWalSink) (observation : ClockObservation)
    (outcome : IoOutcome) : specOf (sink.append disk observation outcome).2.1 = specOf sink := by
  unfold append
  split
  · rfl
  split
  · rfl
  split
  · rfl
  split <;> rfl

theorem append_cases (sink : TimeWalSink) (disk : TimeDisk) (observation : ClockObservation)
    (outcome : IoOutcome) : (sink.recovery.recordCount + 1 < 2 ^ 64 ∧
      sink.append disk observation outcome = (.ok (), { sink with
        recovery := ⟨sink.recovery.recordCount + 1, some observation⟩ },
      sink.write disk observation)) ∨
    ∃ error appended written, sink.append disk observation outcome =
        (.error error, appended, written) ∧
      (written = disk ∨ written = sink.write disk observation) := by
  unfold append
  split
  · exact .inr ⟨_, _, _, rfl, .inl rfl⟩
  split
  · exact .inr ⟨_, _, _, rfl, .inl rfl⟩
  split
  · exact .inr ⟨_, _, _, rfl, .inl rfl⟩
  rename_i room
  cases outcome with
  | succeeds =>
    refine .inl ⟨?_, rfl⟩
    simp only [timeWalHeaderBytes, timeWalRecordBytes] at room
    omega
  | failsBefore => exact .inr ⟨_, _, _, rfl, .inl rfl⟩
  | failsAfter => exact .inr ⟨_, _, _, rfl, .inr rfl⟩

/-- An append to the file of a stream. -/
structure AppendsRecord (disk : TimeDisk) (repository : TimeRepository)
    (record : TimeObservationRecord) (sink : TimeWalSink) (after : TimeDisk) : Prop where
  member : sink ∈ repository.streams
  here : sink.config.key = record.key
  written : after = sink.write disk record.observation

/-- What an append makes of the repository and its files. -/
inductive Persisted (disk : TimeDisk) (repository : TimeRepository)
    (record : TimeObservationRecord) :
    Except TimeRepositoryError TimeDurableReceipt × TimeRepository × TimeDisk → Prop where
  | durable (sink : TimeWalSink) (appended : TimeRepository) (after : TimeDisk)
      (appends : AppendsRecord disk repository record sink after)
      (room : sink.recovery.recordCount + 1 < 2 ^ 64)
      (sound : appended.Sound after) (specs : appended.specs = repository.specs) :
      Persisted disk repository record
        (.ok ⟨record.key, sink.recovery.recordCount + 1⟩, appended, after)
  | failed (error : TimeRepositoryError) (appended : TimeRepository) (after : TimeDisk)
      (files : after = disk ∨ ∃ sink, AppendsRecord disk repository record sink after)
      (specs : appended.specs = repository.specs) :
      Persisted disk repository record (.error error, appended, after)

theorem Sound.persist (sound : repository.Sound disk) (record : TimeObservationRecord)
    (outcome : IoOutcome) :
    Persisted disk repository record (repository.persist disk record outcome) := by
  unfold TimeRepository.persist
  cases found : repository.stream record.key with
  | none => exact .failed _ _ _ (.inl rfl) rfl
  | some sink =>
    simp only
    obtain ⟨member, here⟩ := stream_eq_some found
    have only : ∀ other ∈ repository.streams, decide (other.config.key = record.key) = true →
        other = sink := fun other there named =>
      eq_of_key sound.distinct there member ((of_decide_eq_true named).trans here.symm)
    have spec := append_spec disk sink record.observation outcome
    have specs : (updateFirst (fun stream : TimeWalSink => decide (stream.config.key = record.key))
        (fun _ => (sink.append disk record.observation outcome).2.1) repository.streams).map
          specOf = repository.specs :=
      map_updateFirst _ fun other there named => by rw [spec, only other there named]
    rcases append_cases sink disk record.observation outcome with
      ⟨room, done⟩ | ⟨error, appended, written, failed, files⟩
    · rw [done] at specs ⊢
      refine .durable sink _ _ ⟨member, here, rfl⟩ room ⟨?_, ?_⟩ specs
      · have keys := congrArg (map (·.config.key)) specs
        rw [specs_keys, TimeRepository.specs, specs_keys] at keys
        rw [keys]
        exact sound.distinct
      intro other there
      have keeps : ∀ old : TimeWalSink, old.config.key = record.key →
          ({ sink with recovery := ⟨sink.recovery.recordCount + 1, some record.observation⟩ } :
            TimeWalSink).config.key = old.config.key :=
        fun old same => here.trans same.symm
      rcases key_ne_of_mem_updateFirst sound.distinct keeps there with
        ⟨old, apart⟩ | ⟨old, -, rfl⟩
      · exact sound.write_matches member old (here.symm ▸ apart) _
      · exact Matches.written (sound.matched sink member) _
    · rw [failed] at specs ⊢
      refine .failed _ _ _ ?_ specs
      rcases files with same | more
      · exact .inl same
      · exact .inr ⟨sink, member, here, more⟩

/-- A rollover adds at most the next stream. -/
inductive RolledOver (disk : TimeDisk) (repository : TimeRepository) (next : TimeStreamSpec) :
    Except TimeRepositoryError TimeStreamRollover × TimeRepository × TimeDisk → Prop where
  | refused (error : TimeRepositoryError) (after : TimeDisk)
      (files : after.observationsAt = disk.observationsAt) (sound : repository.Sound after) :
      RolledOver disk repository next (.error error, repository, after)
  | present (sink : TimeWalSink) (member : sink ∈ repository.streams)
      (here : sink.config.key = next.config.key) :
      RolledOver disk repository next
        (.ok ⟨next.config.key, sink.recovery.recordCount⟩, repository, disk)
  | opened (rolled : TimeRepository) (after : TimeDisk)
      (files : after.observationsAt = disk.observationsAt) (sound : rolled.Sound after)
      (fresh : hasKey repository.streams next.config.key = false)
      (grown : rolled.specs = repository.specs ++ [next]) :
      RolledOver disk repository next
        (.ok ⟨next.config.key, (after.observationsAt next.path).length⟩, rolled, after)

theorem Sound.rolloverStream (sound : repository.Sound disk) (previous : TimeStreamKey)
    (next : TimeStreamSpec) (outcome : IoOutcome) :
    RolledOver disk repository next (repository.rolloverStream disk previous next outcome) := by
  unfold TimeRepository.rolloverStream
  simp only
  split
  · exact .refused _ _ rfl sound
  split
  · exact .refused _ _ rfl sound
  split
  · exact .refused _ _ rfl sound
  split
  · exact .refused _ _ rfl sound
  cases found : repository.stream next.config.key with
  | some existing =>
    obtain ⟨member, key⟩ := stream_eq_some found
    exact .present existing member key
  | none =>
    have kept := openWal_opens disk next.path next.config outcome
    rcases opened : openWal disk next.path next.config outcome with ⟨created, after⟩
    rw [opened] at kept
    obtain ⟨kept, files⟩ := kept
    cases created with
    | error error => exact .refused _ _ files (sound.keeps kept)
    | ok sink =>
      obtain ⟨path, config, matched⟩ := openWal_eq_ok opened
      have fresh : hasKey repository.streams next.config.key = false := by
        simpa [hasKey, TimeRepository.stream] using found
      have spec : specOf sink = next := by
        cases next
        simp_all [specOf]
      have count : sink.recovery.recordCount = (after.observationsAt next.path).length := by
        rw [matched.recovery, path]
      have sound' := (sound.keeps kept).append matched (config.symm ▸ fresh)
      simp only
      rw [count]
      refine .opened _ _ files sound' fresh ?_
      simp [specs, spec]

end TimeRepository
end SensorSystem.Host
