import SensorSystem.Host.Telemetry.TelemetryPersistence

/-! Without a failed append every accepted snapshot is in the file of its stream when the storage
thread has stopped. -/

namespace SensorSystem.Host

open List TelemetryRepository TelemetryWalSink
open Base

/-- Files keep their identity and grow. -/
def TelemetryDisk.Grows (before after : TelemetryDisk) : Prop :=
  ∀ path file, before path = some file → ∃ grown, after path = some grown ∧
    grown.config = file.config ∧ file.snapshots ⊆ grown.snapshots

namespace TelemetryDisk

variable {disk middle after : TelemetryDisk} {path : String} {file : TelemetryFile}

theorem Grows.refl (disk : TelemetryDisk) : disk.Grows disk :=
  fun _ file here => ⟨file, here, rfl, Subset.refl _⟩

/-- A file that grows in place. -/
theorem put_grows (here : disk path = some file) {snapshots : List TelemetrySnapshot}
    (more : file.snapshots ⊆ snapshots) : disk.Grows (disk.put path { file with snapshots }) := by
  intro other known there
  by_cases same : other = path
  · subst same
    obtain rfl := Option.some.inj (here.symm.trans there)
    exact ⟨_, if_pos rfl, rfl, more⟩
  · exact ⟨known, (if_neg same).trans there, rfl, Subset.refl _⟩

theorem put_new_grows (absent : disk path = none) (file : TelemetryFile) :
    disk.Grows (disk.put path file) := by
  intro other known there
  have apart : other ≠ path := by
    rintro rfl
    rw [absent] at there
    cases there
  exact ⟨known, (if_neg apart).trans there, rfl, Subset.refl _⟩

end TelemetryDisk

/-- The last snapshot that a sink knows is in its file. -/
def TelemetryWalSink.Matches (disk : TelemetryDisk) (sink : TelemetryWalSink) : Prop :=
  ∃ file, disk sink.path = some file ∧ file.config = sink.config ∧
    ∀ last, sink.recovery.lastSnapshot = some last → last ∈ file.snapshots

namespace TelemetryWalSink

variable {disk after : TelemetryDisk} {sink : TelemetryWalSink} {path : String}
  {config : TelemetryWalConfig} {outcome : IoOutcome}

theorem Matches.grows (matched : sink.Matches disk) (grows : disk.Grows after) :
    sink.Matches after := by
  obtain ⟨file, here, config, last⟩ := matched
  obtain ⟨grown, there, config', more⟩ := grows _ _ here
  exact ⟨grown, there, config'.trans config, fun snapshot known => more (last snapshot known)⟩

theorem create_grows (disk : TelemetryDisk) (path : String) (config : TelemetryWalConfig) :
    disk.Grows (create disk path config) := by
  unfold create
  cases known : disk path with
  | some present => exact .refl disk
  | none => exact TelemetryDisk.put_new_grows known _

theorem openWal_grows (disk : TelemetryDisk) (path : String) (config : TelemetryWalConfig)
    (outcome : IoOutcome) : disk.Grows (openWal disk path config outcome).2 := by
  unfold openWal
  split
  · exact .refl disk
  cases outcome
  · exact create_grows disk path config
  · exact .refl disk
  · exact create_grows disk path config

theorem validateIdentity_eq_ok {expected actual : TelemetryWalConfig}
    (valid : validateIdentity expected actual = .ok ()) : actual = expected := by
  unfold validateIdentity at valid
  repeat' split at valid
  all_goals try cases valid
  cases actual
  cases expected
  simp_all

theorem recoverSnapshots_last {snapshots : List TelemetrySnapshot}
    {before recovery : TelemetryWalRecovery}
    (recovers : recoverSnapshots before snapshots = .ok recovery) :
    ∀ last, recovery.lastSnapshot = some last →
      last ∈ snapshots ∨ before.lastSnapshot = some last := by
  induction snapshots generalizing before with
  | nil =>
    cases recovers
    exact fun last known => .inr known
  | cons snapshot rest ih =>
    obtain ⟨disposition, -, recovers⟩ := bind_eq_ok.mp recovers
    split at recovers
    · cases recovers
    intro last known
    rcases ih recovers last known with later | first
    · exact .inl (mem_cons_of_mem _ later)
    · cases first
      exact .inl mem_cons_self

theorem openWal_eq_ok (opens : openWal disk path config outcome = (.ok sink, after)) :
    sink.Matches after := by
  unfold openWal at opens
  split at opens
  · cases opens
  cases outcome with
  | failsBefore => cases opens
  | failsAfter => cases opens
  | succeeds =>
    simp only [Prod.mk.injEq] at opens
    obtain ⟨opens, rfl⟩ := opens
    obtain ⟨identity, opens⟩ := check_eq_ok.mp opens
    obtain ⟨recovery, recovers, same⟩ := bind_eq_ok.mp opens
    cases same
    have there : ∃ file, create disk path config path = some file := by
      unfold create
      cases here : disk path with
      | some file => exact ⟨file, here⟩
      | none => exact ⟨_, if_pos rfl⟩
    obtain ⟨file, here⟩ := there
    rw [here] at identity recovers
    refine ⟨file, here, validateIdentity_eq_ok identity, fun last known => ?_⟩
    rcases recoverSnapshots_last recovers last known with recorded | none
    · exact recorded
    · cases none

/-- The snapshot is in the file of the sink. -/
theorem write_mem (matched : sink.Matches disk) (snapshot : TelemetrySnapshot) :
    disk.Grows (sink.write disk snapshot) ∧ ∃ file,
      sink.write disk snapshot sink.path = some file ∧ file.config = sink.config ∧
        snapshot ∈ file.snapshots := by
  obtain ⟨file, here, config, -⟩ := matched
  unfold write
  rw [here]
  exact ⟨TelemetryDisk.put_grows here (subset_append_left _ _), _, if_pos rfl, config,
    mem_append_right _ mem_cons_self⟩

/-- An append that does not fail leaves the snapshot in the file. -/
theorem append_eq_ok (matched : sink.Matches disk) {snapshot : TelemetrySnapshot}
    {appended : TelemetryWalSink} {disposition : TelemetryAppend}
    (appends : sink.append disk snapshot outcome = (.ok disposition, appended, after)) :
    disk.Grows after ∧ appended.path = sink.path ∧ appended.config = sink.config ∧
      appended.Matches after ∧ ∃ file, after sink.path = some file ∧ file.config = sink.config ∧
        snapshot ∈ file.snapshots := by
  unfold append at appends
  split at appends
  · cases appends
  split at appends
  · cases appends
  · -- the last snapshot once more
    rename_i duplicate
    cases appends
    obtain ⟨file, here, config, last⟩ := matched
    refine ⟨.refl disk, rfl, rfl, ⟨file, here, config, last⟩, file, here, config, ?_⟩
    unfold validateSnapshot at duplicate
    repeat' split at duplicate
    all_goals try cases duplicate
    rename_i previous known _ _ same
    rw [same]
    exact last previous known
  · split at appends
    · cases appends
    cases outcome with
    | failsBefore => cases appends
    | failsAfter => cases appends
    | succeeds =>
      cases appends
      obtain ⟨grows, file, here, config, recorded⟩ := write_mem matched snapshot
      refine ⟨grows, rfl, rfl, ⟨file, here, config, fun last known => ?_⟩, file, here, config,
        recorded⟩
      cases known
      exact recorded

end TelemetryWalSink

namespace TelemetryRepository

/-- Every sink matches its file. -/
def Sound (disk : TelemetryDisk) (repository : TelemetryRepository) : Prop :=
  ∀ sink ∈ repository, sink.Matches disk

/-- The snapshot of a record is in the file of its stream. -/
def Durable (disk : TelemetryDisk) (repository : TelemetryRepository)
    (record : TelemetryObservationRecord) : Prop :=
  ∃ sink ∈ repository, sink.config = record.key ∧ ∃ file, disk sink.path = some file ∧
    file.config = record.key ∧ record.snapshot ∈ file.snapshots

variable {disk after : TelemetryDisk} {repository next : TelemetryRepository}
  {record : TelemetryObservationRecord}

theorem Sound.grows (sound : Sound disk repository) (grows : disk.Grows after) :
    Sound after repository := fun sink member => (sound sink member).grows grows

/-- Every stream stays with its file. -/
def Extends (before after : TelemetryRepository) : Prop :=
  ∀ sink ∈ before, ∃ kept ∈ after, kept.path = sink.path ∧ kept.config = sink.config

theorem Durable.grows (durable : Durable disk repository record) (grows : disk.Grows after)
    (stays : Extends repository next) : Durable after next record := by
  obtain ⟨sink, member, key, file, here, config, recorded⟩ := durable
  obtain ⟨kept, member', path, config'⟩ := stays sink member
  obtain ⟨grown, there, config'', more⟩ := grows _ _ here
  exact ⟨kept, member', config'.trans key, grown, path ▸ there, config''.trans config,
    more recorded⟩

variable (sound : Sound disk repository)

include sound

theorem openLoop_eq_ok {specs : List TelemetryStreamSpec} {outcomes : List IoOutcome}
    (opens : openLoop repository disk specs outcomes = (.ok next, after)) : Sound after next := by
  induction specs generalizing repository disk outcomes with
  | nil =>
    unfold openLoop at opens
    split at opens
    · cases opens
    · cases opens
      exact sound
  | cons spec specs ih =>
    unfold openLoop at opens
    split at opens
    · cases opens
    have grows := openWal_grows disk spec.path spec.config
      (outcomes.headD .succeeds)
    rcases opened : openWal disk spec.path spec.config
      (outcomes.headD .succeeds) with ⟨result, disk'⟩
    rw [opened] at opens grows
    cases result with
    | error error => cases opens
    | ok sink =>
      refine ih (fun other member => ?_) opens
      rcases mem_append.mp member with known | new
      · exact (sound other known).grows grows
      · obtain rfl := mem_singleton.mp new
        exact openWal_eq_ok opened

/-- A record whose append does not fail is durable. -/
theorem persist_eq_ok {outcome : IoOutcome} {receipt : TelemetryDurableReceipt}
    (persists : persist repository disk record outcome = (.ok receipt, next, after)) :
    disk.Grows after ∧ Extends repository next ∧ Sound after next ∧ Durable after next record := by
  unfold persist at persists
  split at persists
  · cases persists
  rename_i sink found
  have member : sink ∈ repository := mem_of_find?_eq_some found
  have here : sink.config = record.key := by simpa using find?_some found
  rcases appends : sink.append disk record.snapshot outcome with ⟨result, appended, disk'⟩
  rw [appends] at persists
  cases result with
  | error error => cases persists
  | ok disposition =>
    cases persists
    obtain ⟨grows, path, config, matched, file, there, config', recorded⟩ :=
      append_eq_ok (sound sink member) appends
    refine ⟨grows, ?_, ?_, appended, update_mem_updateFirst found, config.trans here, file,
      path.symm ▸ there, config'.trans here, recorded⟩
    · intro other known
      rcases mem_updateFirst_or_first known with stays | first
      · exact ⟨other, stays, rfl, rfl⟩
      · obtain rfl := Option.some.inj (first.symm.trans found)
        exact ⟨appended, update_mem_updateFirst found, path, config⟩
    intro other known
    rcases mem_updateFirst known with old | ⟨old, -, rfl⟩
    · exact (sound other old).grows grows
    · exact matched

theorem rolloverStream_keeps (previous : TelemetryStreamKey) (spec : TelemetryStreamSpec)
    (outcome : IoOutcome) : disk.Grows (rolloverStream repository disk previous spec outcome).2.2 ∧
      Extends repository (rolloverStream repository disk previous spec outcome).2.1 ∧
      Sound (rolloverStream repository disk previous spec outcome).2.2
        (rolloverStream repository disk previous spec outcome).2.1 := by
  have stays : Extends repository repository := fun sink member => ⟨sink, member, rfl, rfl⟩
  unfold rolloverStream
  simp only
  split
  · exact ⟨.refl disk, stays, sound⟩
  split
  · exact ⟨.refl disk, stays, sound⟩
  split
  · exact ⟨.refl disk, stays, sound⟩
  split
  · split
    · exact ⟨.refl disk, stays, sound⟩
    · exact ⟨.refl disk, stays, sound⟩
  have grows := openWal_grows disk spec.path spec.config outcome
  rcases opened : openWal disk spec.path spec.config outcome with ⟨created, after⟩
  rw [opened] at grows
  cases created with
  | error error => exact ⟨grows, stays, sound.grows grows⟩
  | ok sink =>
    refine ⟨grows, fun other member => ⟨other, mem_append_left _ member, rfl, rfl⟩, ?_⟩
    intro other member
    rcases mem_append.mp member with known | new
    · exact (sound other known).grows grows
    · obtain rfl := mem_singleton.mp new
      exact openWal_eq_ok opened

omit sound

end TelemetryRepository

/-- The snapshots that a run accepts. -/
def acceptedSnapshots (events : List TelemetryEvent) : List TelemetryObservationRecord :=
  events.filterMap fun
    | .submit record => some record
    | _ => none

theorem acceptedSnapshots_append (past : List TelemetryEvent) (event : TelemetryEvent) :
    acceptedSnapshots (past ++ [event]) = acceptedSnapshots past ++ acceptedSnapshots [event] :=
  filterMap_append ..

namespace TelemetryHost

/-- The thread has met a failed append. -/
def failed (host : TelemetryHost) : Bool :=
  host.faulted || match host.phase with
    | .drainSend completion => !completion.result.isOk
    | _ => false

def ErrorFree (host : TelemetryHost) (event : TelemetryEvent) : Prop :=
  (host.step event).all (fun next => !next.failed) = true

instance (host : TelemetryHost) (event : TelemetryEvent) : Decidable (host.ErrorFree event) :=
  inferInstanceAs (Decidable (_ = true))

/-- Every record is in its file or still queued. -/
structure Stored (records input : List TelemetryObservationRecord) (disk : TelemetryDisk)
    (repository : TelemetryRepository) : Prop where
  sound : Sound disk repository
  durable : ∀ record ∈ records, record ∈ input ∨
    Durable disk repository record

/-- What holds until a shutdown. -/
structure Serving (records : List TelemetryObservationRecord) (host : TelemetryHost) : Prop where
  submitters : host.submitters = true
  connected : host.controlConnected = true
  serves : host.phase = .control ∨ host.phase = .input ∨ ∃ completion, host.phase = .send completion
  stays : host.waits ≠ some .shutdown ∧ host.control ≠ some .shutdown
  free : host.waits = none → host.control = none
  unanswered : host.reply ≠ none → host.control = none
  healthy : host.failed = false
  stored : Stored records host.input host.disk host.repository

/-- What holds after a shutdown. A stopped thread has taken every record. -/
structure Stopping (records : List TelemetryObservationRecord) (host : TelemetryHost) : Prop where
  submitters : host.submitters = false
  waits : host.waits = some .shutdown
  asked : host.control = some .shutdown ∧ (host.phase = .control ∨ host.phase = .input ∨
      ∃ completion, host.phase = .send completion) ∨
    host.phase = .drainInput ∨ (∃ completion, host.phase = .drainSend completion) ∨
      host.phase = .stopped ∧ host.input = []
  healthy : host.failed = false
  stored : Stored records host.input host.disk host.repository

variable {host next : TelemetryHost} {disk : TelemetryDisk} {repository : TelemetryRepository}
  {records input : List TelemetryObservationRecord} {record : TelemetryObservationRecord}

theorem faulted_of_failed (healthy : host.failed = false) : host.faulted = false := by
  simp only [failed, Bool.or_eq_false_iff] at healthy
  exact healthy.1

/-- The next record is in its file when its append does not fail. -/
theorem Stored.persisted (stored : Stored records (record :: input) host.disk host.repository)
    {outcome : IoOutcome}
    (succeeds : (host.persistRecord record input outcome).1.result.isOk = true) :
    Stored records input (host.persistRecord record input outcome).2.disk
      (host.persistRecord record input outcome).2.repository := by
  unfold persistRecord at succeeds ⊢
  rcases persists : persist host.repository host.disk record outcome with
    ⟨result, repository, disk⟩
  rw [persists] at succeeds
  cases result with
  | error error => cases succeeds
  | ok receipt =>
    obtain ⟨grows, stays, sound, durable⟩ := persist_eq_ok stored.sound persists
    refine ⟨sound, fun other member => ?_⟩
    rcases stored.durable other member with waiting | known
    · rcases mem_cons.mp waiting with rfl | later
      · exact .inr durable
      · exact .inl later
    · exact .inr (known.grows grows stays)

theorem Stored.rolledOver (stored : Stored records input disk repository)
    (previous : TelemetryStreamKey) (spec : TelemetryStreamSpec) (outcome : IoOutcome) :
    Stored records input
      (TelemetryRepository.rolloverStream repository disk previous spec outcome).2.2
      (TelemetryRepository.rolloverStream repository disk previous spec outcome).2.1 := by
  obtain ⟨grows, stays, sound⟩ :=
    rolloverStream_keeps stored.sound previous spec outcome
  exact ⟨sound, fun record member => (stored.durable record member).imp_right
    (·.grows grows stays)⟩

theorem storageSend_eq {completion : TelemetryPersistenceCompletion} {done : TelemetryThreadPhase}
    (steps : host.storageSend completion done = some next) :
    next = { host with completions := host.completions ++ [completion], phase := done } := by
  unfold storageSend at steps
  split at steps
  · exact (Option.some.inj steps).symm
  · cases steps

variable (stored : Stored records host.input host.disk host.repository)

include stored

/-- The thread takes the next record. -/
theorem Stored.storageInput {outcome : IoOutcome}
    (healthy : (host.storageInput outcome).failed = false) :
    (host.input = [] ∧ host.storageInput outcome =
      { host with phase := if host.submitters then .control else .stopped }) ∨
    ∃ completion input disk repository, Stored records input disk repository ∧
      host.storageInput outcome =
        { host with input, disk, repository, faulted := false, phase := .send completion } := by
  unfold TelemetryHost.storageInput at healthy ⊢
  cases waiting : host.input with
  | nil =>
    refine .inl ⟨rfl, ?_⟩
    cases submits : host.submitters <;> simp
  | cons record input =>
    rw [waiting] at stored healthy
    have sane := faulted_of_failed healthy
    have succeeds : (host.persistRecord record input outcome).1.result.isOk = true := by
      simpa using sane
    refine .inr ⟨(host.persistRecord record input outcome).1, _, _, _,
      stored.persisted succeeds, ?_⟩
    simp only [succeeds, not_true_eq_false, decide_false]
    rfl

/-- A drain takes the next record. -/
theorem Stored.storageDrain {outcome : IoOutcome} (healthy : next.failed = false)
    (steps : host.storageDrain outcome = some next) :
    (host.input = [] ∧ next = { host with phase := .stopped }) ∨
    ∃ completion input disk repository, Stored records input disk repository ∧
      next = { host with input, disk, repository, phase := .drainSend completion } := by
  unfold TelemetryHost.storageDrain at steps
  cases waiting : host.input with
  | nil =>
    rw [waiting] at steps
    refine .inl ⟨rfl, ?_⟩
    simp only at steps
    split at steps
    · cases steps
    · exact (Option.some.inj steps).symm
  | cons record input =>
    rw [waiting] at stored steps
    cases steps
    have succeeds : (host.persistRecord record input outcome).1.result.isOk = true := by
      simp only [failed, Bool.or_eq_false_iff, Bool.not_eq_eq_eq_not, Bool.not_false] at healthy
      exact healthy.2
    exact .inr ⟨_, _, _, _, stored.persisted succeeds, rfl⟩

omit stored

namespace Serving

variable (serving : Serving records host)

include serving

theorem storageStep {outcome : IoOutcome} (healthy : next.failed = false)
    (steps : host.storageStep outcome = some next) : Serving records next := by
  have sane := faulted_of_failed serving.healthy
  unfold TelemetryHost.storageStep at steps
  rcases serving.serves with here | here | ⟨completion, here⟩
  · rw [here] at steps
    cases steps
    unfold TelemetryHost.storageControl at healthy ⊢
    rw [if_neg (by simp [sane])] at healthy ⊢
    split
    · rename_i shutdown
      exact absurd shutdown serving.stays.2
    · rw [if_neg (by simp [sane])]
      rename_i previous spec asks
      exact ⟨serving.submitters, serving.connected, .inr (.inl rfl), ⟨serving.stays.1, nofun⟩,
        fun _ => rfl, fun _ => rfl, by simp [failed, sane],
        serving.stored.rolledOver previous spec outcome⟩
    · rw [if_pos serving.connected]
      exact ⟨serving.submitters, serving.connected, .inr (.inl rfl), serving.stays, serving.free,
        serving.unanswered, by simp [failed, sane], serving.stored⟩
  · rw [here] at steps
    cases steps
    rcases serving.stored.storageInput healthy with
      ⟨empty, same⟩ | ⟨completion, input, disk, repository, stored, same⟩
    · rw [same, if_pos serving.submitters] at healthy ⊢
      exact ⟨serving.submitters, serving.connected, .inl rfl, serving.stays, serving.free,
        serving.unanswered, healthy, serving.stored⟩
    · rw [same] at healthy ⊢
      exact ⟨serving.submitters, serving.connected, .inr (.inr ⟨completion, rfl⟩), serving.stays,
        serving.free, serving.unanswered, healthy, stored⟩
  · rw [here] at steps
    obtain rfl := storageSend_eq steps
    exact ⟨serving.submitters, serving.connected, .inl rfl, serving.stays, serving.free,
      serving.unanswered, healthy, serving.stored⟩

theorem rolloverStream {previous : TelemetryStreamKey} {spec : TelemetryStreamSpec}
    (rolls : host.rolloverStream previous spec = some next) : Serving records next := by
  unfold TelemetryHost.rolloverStream at rolls
  split at rolls
  · cases rolls
  split at rolls
  · cases rolls
    exact serving
  · cases rolls
    exact ⟨serving.submitters, serving.connected, serving.serves, ⟨nofun, nofun⟩, nofun,
      fun answered => absurd rfl answered, serving.healthy, serving.stored⟩

theorem receiveReply (receives : host.receiveReply = some next) : Serving records next := by
  have here : host.phase ≠ .stopped := by
    rcases serving.serves with here | here | ⟨completion, here⟩ <;> rw [here] <;> nofun
  unfold TelemetryHost.receiveReply at receives
  split at receives
  · split at receives
    · rename_i answered
      cases receives
      exact ⟨serving.submitters, serving.connected, serving.serves, ⟨nofun, serving.stays.2⟩,
        fun _ => serving.unanswered (by simp [answered]), fun later => absurd rfl later,
        serving.healthy, serving.stored⟩
    · rename_i answered
      cases receives
      exact ⟨serving.submitters, serving.connected, serving.serves, ⟨nofun, serving.stays.2⟩,
        fun _ => serving.unanswered (by simp [answered]), fun later => absurd rfl later,
        serving.healthy, serving.stored⟩
    · rw [if_neg here] at receives
      cases receives
  · cases receives

theorem shutdown (stops : host.shutdown = some next) : Stopping records next := by
  unfold TelemetryHost.shutdown at stops
  split at stops
  · cases stops
  rename_i free
  have idle := serving.free (by simpa using free)
  cases stops
  exact ⟨rfl, rfl, .inl ⟨by simp [idle], serving.serves⟩, serving.healthy, serving.stored⟩

omit serving

end Serving

namespace Stopping

theorem storageStep (stopping : Stopping records host) {outcome : IoOutcome}
    (healthy : next.failed = false) (steps : host.storageStep outcome = some next) :
    Stopping records next := by
  unfold TelemetryHost.storageStep at steps
  rcases stopping.asked with ⟨asked, here | here | ⟨completion, here⟩⟩ | here |
    ⟨completion, here⟩ | ⟨here, empty⟩
  · simp only [here, TelemetryHost.storageControl, asked] at steps
    cases steps
    exact ⟨stopping.submitters, stopping.waits, .inr (.inl rfl), healthy, stopping.stored⟩
  · rw [here] at steps
    cases steps
    rcases stopping.stored.storageInput healthy with
      ⟨empty, same⟩ | ⟨completion, input, disk, repository, stored, same⟩
    · rw [same, if_neg (by simp [stopping.submitters])] at healthy ⊢
      exact ⟨stopping.submitters, stopping.waits, .inr (.inr (.inr ⟨rfl, empty⟩)), healthy,
        stopping.stored⟩
    · rw [same] at healthy ⊢
      exact ⟨stopping.submitters, stopping.waits, .inl ⟨asked, .inr (.inr ⟨completion, rfl⟩)⟩,
        healthy, stored⟩
  · rw [here] at steps
    obtain rfl := storageSend_eq steps
    exact ⟨stopping.submitters, stopping.waits, .inl ⟨asked, .inl rfl⟩, healthy, stopping.stored⟩
  · rw [here] at steps
    rcases stopping.stored.storageDrain healthy steps with
      ⟨empty, rfl⟩ | ⟨completion, input, disk, repository, stored, rfl⟩
    · exact ⟨stopping.submitters, stopping.waits, .inr (.inr (.inr ⟨rfl, empty⟩)), healthy,
        stopping.stored⟩
    · exact ⟨stopping.submitters, stopping.waits, .inr (.inr (.inl ⟨completion, rfl⟩)), healthy,
        stored⟩
  · have succeeds : completion.result.isOk = true := by
      have sane := stopping.healthy
      simp only [failed, here, Bool.or_eq_false_iff, Bool.not_eq_eq_eq_not, Bool.not_false] at sane
      exact sane.2
    rw [here] at steps
    simp only [succeeds, if_true] at steps
    obtain rfl := storageSend_eq steps
    exact ⟨stopping.submitters, stopping.waits, .inr (.inl rfl), healthy, stopping.stored⟩
  · rw [here] at steps
    cases steps

theorem step (stopping : Stopping records host) {event : TelemetryEvent}
    (healthy : next.failed = false) (steps : host.step event = some next) :
    Stopping records next := by
  have waits := stopping.waits
  cases event with
  | storage outcome => exact stopping.storageStep healthy steps
  | collect =>
    rw [TelemetryHost.step, TelemetryHost.collect, if_pos waits] at steps
    cases steps
    exact ⟨stopping.submitters, waits, stopping.asked, healthy, stopping.stored⟩
  | submit record => simp [TelemetryHost.step, TelemetryHost.submit, stopping.submitters] at steps
  | poll => simp [TelemetryHost.step, TelemetryHost.pollHealth, waits] at steps
  | rollover previous spec =>
    simp [TelemetryHost.step, TelemetryHost.rolloverStream, waits] at steps
  | receive => simp [TelemetryHost.step, TelemetryHost.receiveReply, waits] at steps
  | shutdown => simp [TelemetryHost.step, TelemetryHost.shutdown, waits] at steps

end Stopping

/-- A step before the shutdown. -/
def ServingStep (host : TelemetryHost) (event : TelemetryEvent) : Prop :=
  host.ErrorFree event ∧ event ≠ .shutdown

instance (host : TelemetryHost) (event : TelemetryEvent) : Decidable (host.ServingStep event) :=
  inferInstanceAs (Decidable (_ ∧ _))

variable {event : TelemetryEvent}

theorem ErrorFree.healthy (free : host.ErrorFree event) (steps : host.step event = some next) :
    next.failed = false := by
  simpa [ErrorFree, steps] using free

theorem Serving.step {past : List TelemetryEvent}
    (serving : Serving (acceptedSnapshots past) host) (allowed : host.ServingStep event)
    (steps : host.step event = some next) : Serving (acceptedSnapshots (past ++ [event])) next := by
  have healthy := allowed.1.healthy steps
  have goesOn : Serving (acceptedSnapshots past) next → acceptedSnapshots [event] = [] →
      Serving (acceptedSnapshots (past ++ [event])) next := by
    intro serving' none
    rw [acceptedSnapshots_append, none, append_nil]
    exact serving'
  cases event with
  | submit record =>
    simp only [TelemetryHost.step, TelemetryHost.submit] at steps
    split at steps
    · cases steps
      refine ⟨serving.submitters, serving.connected, serving.serves, serving.stays, serving.free,
        serving.unanswered, healthy, serving.stored.sound, fun other member => ?_⟩
      rw [acceptedSnapshots_append] at member
      rcases mem_append.mp member with old | new
      · exact (serving.stored.durable other old).imp_left (mem_append_left _)
      · exact .inl (mem_append_right _ new)
    · cases steps
  | storage outcome => exact goesOn (serving.storageStep healthy steps) rfl
  | poll =>
    simp only [TelemetryHost.step, TelemetryHost.pollHealth] at steps
    split at steps
    · cases steps
    split at steps
    · cases steps
      exact goesOn serving rfl
    · cases steps
      exact goesOn ⟨serving.submitters, serving.connected, serving.serves, serving.stays,
        serving.free, serving.unanswered, healthy, serving.stored⟩ rfl
  | rollover previous spec => exact goesOn (serving.rolloverStream steps) rfl
  | receive => exact goesOn (serving.receiveReply steps) rfl
  | shutdown => exact absurd rfl allowed.2
  | collect =>
    simp only [TelemetryHost.step, TelemetryHost.collect, if_neg serving.stays.1] at steps
    cases steps

theorem serving_start {streams : List TelemetryStreamSpec} {outcomes : List IoOutcome}
    {capacity : Nat} (starts : TelemetryHost.start disk streams outcomes capacity = .ok host) :
    Serving (acceptedSnapshots []) host := by
  unfold TelemetryHost.start at starts
  split at starts
  · cases starts
  split at starts
  · cases starts
  rename_i repository opened opens
  cases starts
  have sound := openLoop_eq_ok
    (fun _ member => absurd member not_mem_nil) opens
  exact ⟨rfl, rfl, .inl rfl, ⟨nofun, nofun⟩, fun _ => rfl, fun answered => absurd rfl answered, rfl,
    sound, fun _ member => absurd member not_mem_nil⟩

/-- Every record is in the file of its stream. -/
def AllDurable (records : List TelemetryObservationRecord) (host : TelemetryHost) : Prop :=
  ∀ record ∈ records, Durable host.disk host.repository record

theorem Stopping.allDurable (stopping : Stopping records host) (stopped : host.phase = .stopped) :
    host.AllDurable records := by
  intro record member
  have empty : host.input = [] := by
    rcases stopping.asked with ⟨-, here | here | ⟨completion, here⟩⟩ | here |
      ⟨completion, here⟩ | ⟨-, empty⟩
    all_goals first | exact empty | (rw [stopped] at here; cases here)
  rcases stopping.stored.durable record member with waiting | durable
  · rw [empty] at waiting
    exact absurd waiting not_mem_nil
  · exact durable

end TelemetryHost
end SensorSystem.Host
