import SensorSystem.Host.Time.TimeDeadlock
import SensorSystem.Host.Time.TimeProjection

/-! What worker, files and health have to do with the accepted records, over any interleaving of
submissions, storage steps and coordinator steps. -/

namespace SensorSystem.Host

open List TimePersistenceHealth
open Base
open TimeRepository (Persisted RolledOver specOf)

/-- The health after a recovery. -/
def TimePersistenceHealth.recovering (health : TimePersistenceHealth) : TimePersistenceHealth :=
  { health with state := .recovering }

/-- The health that a pending answer leads to. -/
def TimePersistenceHealth.answered (health : TimePersistenceHealth) :
    Option TimeWait → Option TimeReply → TimePersistenceHealth
  | some .recovery, some (.replaced (.ok _)) => health.recovering
  | some (.rollover _ false), some (.rolledOver (.ok rollover)) =>
    health.register ⟨rollover.stream, rollover.durableRecordCount⟩
  | _, _ => health

theorem TimePersistenceHealth.answered_none (health : TimePersistenceHealth)
    (waits : Option TimeWait) : health.answered waits none = health := by
  unfold answered
  split <;> simp_all

/-- The stream that a pending answer adds. -/
def announced : Option TimeWait → Option TimeReply → List TimeStreamSpec
  | some (.rollover next false), some (.rolledOver (.ok _)) => [next]
  | _, _ => []

theorem announced_none (waits : Option TimeWait) : announced waits none = [] := by
  unfold announced
  split <;> simp_all

/-- Where a request of the coordinator stands. -/
inductive Dialogue (streams : List TimeStreamSpec) (disk : TimeDisk)
    (health : TimePersistenceHealth) :
    Option TimeWait → Option TimePersistenceControl → Option TimeReply → Prop where
  | idle : Dialogue streams disk health none none none
  | replacing (repository : TimeRepository) (required : health.state = .recoveryRequired)
      (sound : repository.Sound disk) (specs : repository.specs = streams) :
      Dialogue streams disk health (some .recovery) (some (.replace repository)) none
  | replaced (result : Except TimePersistenceRecoveryError TimePersistenceRecoveryDisposition)
      (required : health.state = .recoveryRequired) (uncertain : health.uncertain ≠ none) :
      Dialogue streams disk health (some .recovery) none (some (.replaced result))
  | rolling (previous : TimeStreamKey) (next : TimeStreamSpec)
      (healthy : health.state = .healthy) :
      Dialogue streams disk health
        (some (.rollover next (streams.any (·.config.key = next.config.key))))
        (some (.rolloverStream previous next)) none
  | rolledOver (next : TimeStreamSpec) (registered : Bool)
      (result : Except TimeStreamManagementError TimeStreamRollover)
      (healthy : health.state = .healthy) :
      Dialogue streams disk health (some (.rollover next registered)) none
        (some (.rolledOver result))

/-- How far the worker is with the records it has taken from the queue. -/
inductive Progress (before disk : TimeDisk) (worker : TimePersistenceWorker)
    (taken settled durable : List TimeObservationRecord) (projected : TimePersistenceHealth) :
    Prop where
  | serving (healthy : worker.faulted = false) (certain : worker.failed = none)
      (retried : worker.retry = none) (sound : worker.repository.Sound disk)
      (order : taken = settled) (files : durable = settled)
      (state : projected.state = .healthy) (none : projected.uncertain = none)
  | retrying (record : TimeObservationRecord) (spec : TimeStreamSpec)
      (member : spec ∈ worker.repository.specs) (here : spec.config.key = record.key)
      (healthy : worker.faulted = false)
      (certain : worker.failed = none) (retry : worker.retry = some record)
      (sound : worker.repository.Sound disk) (order : taken = settled ++ [record])
      (files : durable = settled) (state : projected.state = .recovering)
      (uncertain : projected.uncertain = some record)
  | failed (record : TimeObservationRecord) (spec : TimeStreamSpec)
      (member : spec ∈ worker.repository.specs) (here : spec.config.key = record.key)
      (fault : worker.faulted = true)
      (known : worker.failed = some ⟨record, some (tally before settled spec)⟩)
      (retried : worker.retry = none) (order : taken = settled ++ [record])
      (files : durable = settled ∨ durable = settled ++ [record])
      (state : projected.state = .recoveryRequired)
      (uncertain : projected.uncertain = some record)

/-- What holds until a shutdown. -/
structure Tracks (before : TimeDisk) (taken settled durable : List TimeObservationRecord)
    (projected : TimePersistenceHealth) (host : TimeHost) : Prop where
  submitters : host.submitters = true
  connected : host.controlConnected = true
  serves : host.phase = .control ∨ host.phase = .input ∨ host.phase = .forward
  dialogue : Dialogue host.streams host.disk host.health host.waits host.control host.reply
  specs : host.worker.repository.specs = host.streams ++ announced host.waits host.reply
  distinct : (host.worker.repository.specs.map (·.config.key)).Nodup
  known : ∀ record ∈ taken ++ host.input, ∃ spec ∈ host.streams, spec.config.key = record.key
  written : Written before host.disk host.worker.repository.specs durable
  walk : (host.health.answered host.waits host.reply).observeAll host.flight = some projected
  tallied : projected.streams = tallies before settled host.worker.repository.specs
  progress : Progress before host.disk host.worker taken settled durable projected

variable {before disk after : TimeDisk} {host : TimeHost} {health : TimePersistenceHealth}
  {streams : List TimeStreamSpec} {waits : Option TimeWait}
  {control : Option TimePersistenceControl} {reply : Option TimeReply}
  {taken settled durable : List TimeObservationRecord} {projected : TimePersistenceHealth}
  {record : TimeObservationRecord} {repository : TimeRepository}

namespace Dialogue

theorem of_free (dialogue : Dialogue streams disk health none control reply) :
    control = none ∧ reply = none := by
  cases dialogue
  exact ⟨rfl, rfl⟩

theorem of_replace
    (dialogue : Dialogue streams disk health waits (some (.replace repository)) reply) :
    waits = some .recovery ∧ reply = none ∧ health.state = .recoveryRequired ∧
      repository.Sound disk ∧ repository.specs = streams := by
  cases dialogue with
  | replacing _ required sound specs => exact ⟨rfl, rfl, required, sound, specs⟩

theorem of_rollover {previous : TimeStreamKey} {next : TimeStreamSpec}
    (dialogue : Dialogue streams disk health waits (some (.rolloverStream previous next)) reply) :
    waits = some (.rollover next (streams.any (·.config.key = next.config.key))) ∧
      reply = none ∧ health.state = .healthy := by
  cases dialogue with
  | rolling _ _ healthy => exact ⟨rfl, rfl, healthy⟩

variable (dialogue : Dialogue streams disk health waits control reply)

include dialogue

theorem not_shutdown : control ≠ some .shutdown ∧ waits ≠ some .shutdown := by
  cases dialogue <;> exact ⟨nofun, nofun⟩

/-- Only a pending replacement knows the files. -/
theorem on_disk (apart : ∀ repository, control ≠ some (.replace repository)) (after : TimeDisk) :
    Dialogue streams after health waits control reply := by
  cases dialogue with
  | idle => exact .idle
  | replacing repository required sound specs => exact absurd rfl (apart repository)
  | replaced result required uncertain => exact .replaced result required uncertain
  | rolling previous next healthy => exact .rolling previous next healthy
  | rolledOver next registered result healthy => exact .rolledOver next registered result healthy

/-- A pending answer asks for no recovery. -/
theorem answered_required (required : (health.answered waits reply).state = .recoveryRequired) :
    health.state = .recoveryRequired ∧
      (health.answered waits reply).uncertain = health.uncertain := by
  cases dialogue with
  | idle => exact ⟨required, rfl⟩
  | replacing repository state sound specs => exact ⟨state, rfl⟩
  | replaced result state uncertain =>
    cases result with
    | error error => exact ⟨state, rfl⟩
    | ok disposition => cases required
  | rolling previous next healthy =>
    rw [health.answered_none] at required ⊢
    exact ⟨required, rfl⟩
  | rolledOver next registered result healthy =>
    cases result with
    | error error => cases registered <;> exact ⟨required, rfl⟩
    | ok rollover => cases registered <;> exact ⟨required, rfl⟩

theorem answered_fault (fault : health.state = .integrityFault) :
    (health.answered waits reply).state = .integrityFault := by
  cases dialogue with
  | idle => exact fault
  | replacing repository state sound specs => rw [fault] at state; cases state
  | replaced result state uncertain => rw [fault] at state; cases state
  | rolling previous next healthy => rw [fault] at healthy; cases healthy
  | rolledOver next registered result healthy => rw [fault] at healthy; cases healthy

omit dialogue

end Dialogue

theorem Progress.not_fault (progress : Progress before disk host.worker taken settled durable
    projected) : projected.state ≠ .integrityFault := by
  cases progress with
  | serving _ _ _ _ _ _ state _ => rw [state]; nofun
  | retrying _ _ _ _ _ _ _ _ _ _ state _ => rw [state]; nofun
  | failed _ _ _ _ _ _ _ _ _ state _ => rw [state]; nofun

variable {worker : TimePersistenceWorker}
  (progress : Progress before disk worker taken settled durable projected)

include progress

theorem Progress.fault (required : projected.state = .recoveryRequired) :
    worker.faulted = true ∧ projected.uncertain ≠ none := by
  cases progress with
  | serving _ _ _ _ _ _ state _ => rw [required] at state; cases state
  | retrying _ _ _ _ _ _ _ _ _ _ state _ => rw [required] at state; cases state
  | failed _ _ _ _ fault _ _ _ _ _ uncertain => exact ⟨fault, by rw [uncertain]; nofun⟩

theorem Progress.sound (healthy : worker.faulted = false) :
    worker.repository.Sound disk ∧ durable = settled := by
  cases progress with
  | serving _ _ _ sound _ files _ _ => exact ⟨sound, files⟩
  | retrying _ _ _ _ _ _ _ sound _ files _ _ => exact ⟨sound, files⟩
  | failed _ _ _ _ fault => rw [healthy] at fault; cases fault

/-- A rollover leaves the records of the worker as they are. -/
theorem Progress.rolled (healthy : worker.faulted = false) (sound : repository.Sound after)
    (keeps : ∀ spec ∈ worker.repository.specs, spec ∈ repository.specs)
    {registered : TimePersistenceHealth} (state : registered.state = projected.state)
    (uncertain : registered.uncertain = projected.uncertain) :
    Progress before after { worker with repository } taken settled durable registered := by
  cases progress with
  | serving _ certain retried _ order files state' none =>
    exact .serving healthy certain retried sound order files (state.trans state')
      (uncertain.trans none)
  | retrying record spec member here _ certain retry _ order files state' uncertain' =>
    exact .retrying record spec (keeps spec member) here healthy certain retry sound order files
      (state.trans state') (uncertain.trans uncertain')
  | failed _ _ _ _ fault => rw [healthy] at fault; cases fault

omit progress

namespace Tracks

variable (tracks : Tracks before taken settled durable projected host)

include tracks

/-- A required recovery has no completion ahead of it. -/
theorem required
    (required : (host.health.answered host.waits host.reply).state = .recoveryRequired) :
    host.flight = [] ∧ projected = host.health.answered host.waits host.reply ∧
      host.worker.faulted = true ∧ projected.uncertain ≠ none := by
  have walk := tracks.walk
  have empty := observeAll_required walk required
  rw [empty] at walk
  have same := (Option.some.inj walk).symm
  exact ⟨empty, same, tracks.progress.fault (same ▸ required)⟩

theorem not_replacing (healthy : host.worker.faulted = false) (repository : TimeRepository) :
    host.control ≠ some (.replace repository) := by
  intro asks
  have dialogue := tracks.dialogue
  rw [asks] at dialogue
  obtain ⟨waits, unanswered, required, -, -⟩ := dialogue.of_replace
  have fault := (tracks.required (by rw [waits, unanswered]; exact required)).2.2.1
  rw [healthy] at fault
  cases fault

variable {phase : TimeThreadPhase} {next : TimeStreamSpec} {previous : TimeStreamKey}
  {outcome : IoOutcome}

theorem moves (serves : phase = .control ∨ phase = .input ∨ phase = .forward) :
    Tracks before taken settled durable projected { host with phase } :=
  ⟨tracks.submitters, tracks.connected, serves, tracks.dialogue, tracks.specs, tracks.distinct,
    tracks.known, tracks.written, tracks.walk, tracks.tallied, tracks.progress⟩

theorem submit (known : ∃ spec ∈ host.streams, spec.config.key = record.key) :
    Tracks before taken settled durable projected
      { host with input := host.input ++ [record] } := by
  refine ⟨tracks.submitters, tracks.connected, tracks.serves, tracks.dialogue, tracks.specs,
    tracks.distinct, ?_, tracks.written, tracks.walk, tracks.tallied, tracks.progress⟩
  intro other member
  rw [← append_assoc] at member
  rcases mem_append.mp member with old | new
  · exact tracks.known other old
  · obtain rfl := mem_singleton.mp new
    exact known

omit tracks

variable {spec : TimeStreamSpec}

theorem mem_specs (member : spec ∈ repository.specs) :
    ∃ sink ∈ repository.streams, specOf sink = spec := mem_map.mp member

theorem durableRecordCount_eq (sound : repository.Sound disk)
    (written : Written before disk repository.specs durable) (member : spec ∈ repository.specs) :
    repository.durableRecordCount spec.config.key = some (tally before durable spec) := by
  obtain ⟨sink, present, rfl⟩ := mem_specs member
  have found : repository.stream sink.config.key = some sink :=
    find?_key sound.distinct present rfl
  rw [TimeRepository.durableRecordCount, show (specOf sink).config.key = sink.config.key from rfl,
    found, Option.map_some, written.counted sound present]

include tracks

/-- A reopened repository tells what is durable. -/
theorem replaced (asks : host.control = some (.replace repository))
    {answer : Except TimePersistenceRecoveryError
      TimePersistenceRecoveryDisposition × TimePersistenceWorker}
    (answers : TimeHost.Replacement host.worker repository answer) :
    ∃ settled projected, Tracks before taken settled durable projected { host with
      control := none, worker := answer.2, reply := some (.replaced answer.1)
      phase := .forward } := by
  have dialogue := tracks.dialogue
  rw [asks] at dialogue
  obtain ⟨waits, unanswered, required, sound, specs⟩ := dialogue.of_replace
  have asked : host.health.answered host.waits host.reply = host.health := by
    rw [unanswered, host.health.answered_none]
  have streams : host.worker.repository.specs = host.streams := by
    rw [tracks.specs, unanswered, announced_none, append_nil]
  obtain ⟨empty, same, fault, uncertain⟩ := tracks.required (by rw [asked]; exact required)
  rw [asked] at same
  obtain ⟨received, sent⟩ := append_eq_nil_iff.mp empty
  have written : Written before host.disk repository.specs durable := by
    rw [specs, ← streams]
    exact tracks.written
  have tallied := tracks.tallied
  rw [same, streams, ← specs] at tallied
  have distinct := tracks.distinct
  rw [streams, ← specs] at distinct
  cases tracks.progress with
  | serving healthy => rw [fault] at healthy; cases healthy
  | retrying _ _ _ _ healthy => rw [fault] at healthy; cases healthy
  | failed record spec member here _ known retried order files state uncertain =>
    rw [same] at uncertain
    rw [streams, ← specs] at member
    have counted := durableRecordCount_eq sound written member
    rw [here] at counted
    cases answers with
    | refused error =>
      refine ⟨settled, projected, tracks.submitters, tracks.connected, .inr (.inr rfl), ?_, ?_,
        tracks.distinct, tracks.known, tracks.written, ?_, tracks.tallied, tracks.progress⟩
      · simp only [waits]
        exact .replaced _ required (by rw [uncertain]; nofun)
      · simp only [waits]
        rw [streams]
        exact (append_nil _).symm
      have walk := tracks.walk
      rw [asked] at walk
      simp only [waits]
      exact walk
    | retried failed base sent' known' recovered =>
      obtain ⟨rfl, based⟩ : failed = record ∧ base = tally before settled spec := by
        rw [known] at known'
        cases known'
        exact ⟨rfl, rfl⟩
      have absent : durable = settled := by
        rcases files with same | more
        · exact same
        · rw [counted, more, tally_append_self here, based] at recovered
          have impossible := Option.some.inj recovered
          omega
      refine ⟨settled, host.health.recovering, tracks.submitters,
        tracks.connected, .inr (.inr rfl), ?_, ?_, distinct, tracks.known, written, ?_, tallied,
        ?_⟩
      · simp only [waits]
        exact .replaced _ required (by rw [uncertain]; nofun)
      · simp only [waits, specs]
        exact (append_nil _).symm
      · simp only [TimeHost.flight, received, sent', waits]
        rfl
      · exact .retrying failed spec member here rfl rfl rfl sound order absent rfl uncertain
    | durable failed base sent' known' recovered room =>
      obtain ⟨rfl, based⟩ : failed = record ∧ base = tally before settled spec := by
        rw [known] at known'
        cases known'
        exact ⟨rfl, rfl⟩
      have present : durable = settled ++ [failed] := by
        rcases files with same | more
        · rw [counted, same, based] at recovered
          have impossible := Option.some.inj recovered
          omega
        · exact more
      have found : host.health.recovering.streams.find? (·.stream = failed.key) =
          some ⟨failed.key, base⟩ := by
        rw [based, ← here]
        exact tallied.symm ▸ tallies_find? distinct member
      refine ⟨settled ++ [failed], .advance host.health.recovering failed.key (base + 1),
        tracks.submitters, tracks.connected, .inr (.inr rfl), ?_, ?_, distinct, tracks.known,
          written, ?_, ?_, ?_⟩
      · simp only [waits]
        exact .replaced _ required (by rw [uncertain]; nofun)
      · simp only [waits, specs]
        exact (append_nil _).symm
      · simp only [TimeHost.flight, received, waits, nil_append]
        have observes : host.health.recovering.Observes failed ⟨failed.key, base⟩
            (.ok ⟨failed.key, base + 1⟩) (.advance host.health.recovering failed.key (base + 1)) :=
          .counted room (.inr ⟨rfl, uncertain⟩)
        exact observeAll_cons.mpr
          ⟨_, observeCompletion_of found observes, rfl⟩
      · simp only [advance, recovering, tallied, based]
        exact tallies_append distinct member here
      · exact .serving rfl rfl retried sound order present rfl rfl

variable (asks : host.control = some (.rolloverStream previous next))

include asks

/-- A rollover that fails leaves the streams as they are. -/
theorem refused (error : TimeStreamManagementError)
    (files : after.observationsAt = host.disk.observationsAt)
    (serves : phase = .control ∨ phase = .input ∨ phase = .forward)
    (progress : Progress before after host.worker taken settled durable projected) :
    Tracks before taken settled durable projected { host with
      control := none, disk := after, reply := some (.rolledOver (.error error)), phase } := by
  have dialogue := tracks.dialogue
  rw [asks] at dialogue
  obtain ⟨waits, unanswered, healthy⟩ := dialogue.of_rollover
  have walk := tracks.walk
  have specs := tracks.specs
  rw [unanswered, host.health.answered_none] at walk
  rw [unanswered, announced_none] at specs
  have announces : announced host.waits (some (.rolledOver (.error error))) = [] := by
    rw [waits]
    unfold announced
    split <;> simp_all
  have answers : host.health.answered host.waits (some (.rolledOver (.error error))) =
      host.health := by
    rw [waits]
    unfold answered
    split <;> simp_all
  refine ⟨tracks.submitters, tracks.connected, serves, ?_, ?_, tracks.distinct, tracks.known,
    tracks.written.same files, ?_, tracks.tallied, progress⟩
  · simp only [waits]
    exact .rolledOver next _ _ healthy
  · simp only [announces]
    exact specs
  · simp only [answers]
    exact walk

theorem rolledOver (serving : host.worker.faulted = false) (outcome : IoOutcome) :
    ∃ projected, Tracks before taken settled durable projected { host with
      control := none
      worker := (host.worker.rolloverStream host.disk previous next outcome).2.1
      disk := (host.worker.rolloverStream host.disk previous next outcome).2.2
      reply := some (.rolledOver (host.worker.rolloverStream host.disk previous next outcome).1)
      phase := .input } := by
  have dialogue := tracks.dialogue
  rw [asks] at dialogue
  obtain ⟨waits, unanswered, healthy⟩ := dialogue.of_rollover
  obtain ⟨sound, absent⟩ := tracks.progress.sound serving
  have specs := tracks.specs
  rw [unanswered, announced_none, append_nil] at specs
  have walk := tracks.walk
  rw [unanswered, host.health.answered_none] at walk
  have rolled := sound.rolloverStream previous next outcome
  unfold TimePersistenceWorker.rolloverStream
  rw [if_neg (by simp [serving])]
  generalize host.worker.repository.rolloverStream host.disk previous next outcome = answer
    at rolled
  cases rolled with
  | refused error disk files sound' =>
    exact ⟨projected, tracks.refused asks _ files (.inr (.inl rfl))
      (tracks.progress.rolled serving sound' (fun _ => id) rfl rfl)⟩
  | present sink member here =>
    have registered : host.streams.any (·.config.key = next.config.key) = true :=
      any_eq_true.mpr
        ⟨specOf sink, specs ▸ mem_map_of_mem member, decide_eq_true here⟩
    rw [registered] at waits
    refine ⟨projected, tracks.submitters, tracks.connected, .inr (.inl rfl), ?_, ?_,
      tracks.distinct, tracks.known, tracks.written, ?_, tracks.tallied, tracks.progress⟩
    · simp only [waits]
      exact .rolledOver next _ _ healthy
    · simp only [waits]
      rw [specs]
      exact (append_nil _).symm
    · simp only [waits]
      exact walk
  | opened rolled disk files sound' fresh grown =>
    have fresh : ∀ spec ∈ host.worker.repository.specs, spec.config.key ≠ next.config.key := by
      intro spec member same
      obtain ⟨sink, present, rfl⟩ := mem_specs member
      have known : TimeRepository.hasKey host.worker.repository.streams next.config.key = true :=
        any_eq_true.mpr ⟨sink, present, decide_eq_true same⟩
      rw [fresh] at known
      cases known
    have unregistered : host.streams.any (·.config.key = next.config.key) = false := by
      rw [any_eq_false]
      exact fun spec member => by simpa using fresh spec (specs ▸ member)
    rw [unregistered] at waits
    have written := tracks.written.opened files sound' fresh grown
    have counted : (disk.observationsAt next.path).length = tally before settled next := by
      rw [written.files next (by simp [grown]), absent, tally]
    refine ⟨projected.register ⟨next.config.key, (disk.observationsAt next.path).length⟩,
      tracks.submitters, tracks.connected, .inr (.inl rfl), ?_, ?_, ?_, tracks.known, written, ?_,
      ?_, tracks.progress.rolled serving sound'
        (fun spec member => by simp [grown, member]) rfl rfl⟩
    · simp only [waits]
      exact .rolledOver next _ _ healthy
    · simp only [waits]
      rw [grown, specs]
      rfl
    · simp only [TimeRepository.specs, TimeRepository.specs_keys]
      exact sound'.distinct
    · simp only [waits]
      exact observeAll_register walk _
    · simp only [register, tracks.tallied, grown, counted, tallies,
        map_append]
      rfl

omit asks

theorem storageControl {next : TimeHost} (steps : host.storageControl outcome = some next) :
    ∃ settled projected, Tracks before taken settled durable projected next ∧
      next.input = host.input := by
  unfold TimeHost.storageControl at steps
  split at steps
  · rename_i shutdown
    exact absurd shutdown tracks.dialogue.not_shutdown.1
  · rename_i repository asks
    split at steps
    · cases steps
      obtain ⟨settled, projected, tracked⟩ :=
        tracks.replaced asks (TimeHost.replacement host.worker repository)
      exact ⟨settled, projected, tracked, rfl⟩
    · rename_i healthy
      exact absurd asks (tracks.not_replacing (by simpa using healthy) repository)
  · rename_i previous wanted asks
    split at steps
    · rename_i fault
      cases steps
      exact ⟨settled, projected,
        tracks.refused asks _ rfl (.inr (.inr rfl)) tracks.progress, rfl⟩
    rename_i healthy
    cases steps
    obtain ⟨projected, tracked⟩ := tracks.rolledOver asks (by simpa using healthy) outcome
    exact ⟨settled, projected, tracked, rfl⟩
  · split at steps
    · rename_i gone
      exact absurd tracks.connected gone
    split at steps
    · cases steps
    · cases steps
      exact ⟨settled, projected, tracks.moves (.inr (.inl rfl)), rfl⟩

/-- One more record is taken, or the uncertain one once more. -/
theorem persisted (worker : TimePersistenceWorker) (serving : host.worker.faulted = false)
    (same : worker.repository = host.worker.repository)
    (completions : worker.completions = host.worker.completions)
    (healthy : worker.faulted = false) (certain : worker.failed = none)
    (retried : worker.retry = none) {input : List TimeObservationRecord}
    (known : ∀ other ∈ settled ++ [record] ++ input,
      ∃ spec ∈ host.streams, spec.config.key = other.key)
    (member : spec ∈ host.worker.repository.specs) (here : spec.config.key = record.key)
    (outcome : IoOutcome) (accepts : projected.state = .healthy ∧ projected.uncertain = none ∨
      (projected.state = .recovering ∧ projected.uncertain = some record) ∧
        (host.worker.repository.persist host.disk record outcome).1.isOk = true) :
    ∃ settled' durable projected, Tracks before (settled ++ [record]) settled' durable projected
      { host with
        input
        worker := (worker.persistRecord host.disk record outcome).1
        disk := (worker.persistRecord host.disk record outcome).2
        phase := .forward } := by
  obtain ⟨sound, absent⟩ := tracks.progress.sound serving
  have counted : host.worker.repository.durableRecordCount record.key =
      some (tally before settled spec) := by
    rw [← here, durableRecordCount_eq sound tracks.written member, absent]
  have found : projected.streams.find? (·.stream = record.key) =
      some ⟨record.key, tally before settled spec⟩ := by
    rw [← here]
    exact tracks.tallied.symm ▸ tallies_find? tracks.distinct member
  have walks : ∀ {result next}, Observes projected record
      ⟨record.key, tally before settled spec⟩ result next →
      (host.health.answered host.waits host.reply).observeAll
        (host.completions ++ (worker.completions ++ [⟨record, result⟩])) = some next := by
    intro result next observes
    have walk := tracks.walk
    rw [TimeHost.flight, ← completions] at walk
    rw [← append_assoc, observeAll_append, walk]
    exact observeAll_cons.mpr
      ⟨_, observeCompletion_of found observes, rfl⟩
  have free : ∀ after, Dialogue host.streams after host.health host.waits host.control
      host.reply := tracks.dialogue.on_disk (tracks.not_replacing serving)
  have answers := sound.persist record outcome
  unfold TimePersistenceWorker.persistRecord
  rw [same]
  generalize host.worker.repository.persist host.disk record outcome = answer at answers accepts
  cases answers with
  | durable sink appended disk appends room sound' specs =>
    have counts : sink.recovery.recordCount = tally before settled spec := by
      have present : host.worker.repository.stream record.key = some sink :=
        find?_key sound.distinct
          appends.member appends.here
      rw [TimeRepository.durableRecordCount, present] at counted
      exact Option.some.inj counted
    have expected : projected.state = .healthy ∧ projected.uncertain = none ∨
        projected.state = .recovering ∧ projected.uncertain = some record :=
      accepts.imp_right And.left
    rw [counts] at room ⊢
    refine ⟨settled ++ [record], settled ++ [record], _, tracks.submitters, tracks.connected,
      .inr (.inr rfl), free _, specs.trans tracks.specs, ?_, known, ?_,
      walks (.counted room expected), ?_, ?_⟩
    · rw [specs]
      exact tracks.distinct
    · rw [specs, ← absent]
      exact tracks.written.append sound appends
    · simp only [advance, tracks.tallied, specs]
      exact tallies_append tracks.distinct member here
    · exact .serving healthy certain retried sound' rfl rfl rfl rfl
  | failed error appended disk files specs =>
    obtain ⟨state, -⟩ : projected.state = .healthy ∧ projected.uncertain = none := by
      rcases accepts with healthy | ⟨-, succeeds⟩
      · exact healthy
      · cases succeeds
    have written : ∃ durable, Written before disk host.worker.repository.specs durable ∧
        (durable = settled ∨ durable = settled ++ [record]) := by
      rcases files with rfl | ⟨sink, appends⟩
      · exact ⟨durable, tracks.written, .inl absent⟩
      · refine ⟨settled ++ [record], ?_, .inr rfl⟩
        rw [← absent]
        exact tracks.written.append sound appends
    obtain ⟨durable, written, either⟩ := written
    refine ⟨settled, durable, _, tracks.submitters, tracks.connected, .inr (.inr rfl), free _,
      specs.trans tracks.specs, ?_, known, ?_, walks (.failed error state), ?_, ?_⟩
    · rw [specs]
      exact tracks.distinct
    · rw [specs]
      exact written
    · rw [specs]
      exact tracks.tallied
    · rw [counted]
      exact .failed record spec (specs.symm ▸ member) here rfl rfl retried rfl either rfl rfl

theorem storageInput (retries : ∀ record, host.worker.retry = some record →
      (host.worker.repository.persist host.disk record outcome).1.isOk = true) {next : TimeHost}
    (steps : host.storageInput outcome = some next) :
    ∃ taken' settled durable projected, Tracks before taken' settled durable projected next ∧
      taken' ++ next.input = taken ++ host.input := by
  have specs := tracks.specs
  unfold TimeHost.storageInput at steps
  simp only at steps
  split at steps
  · cases steps
    exact ⟨taken, settled, durable, projected, tracks.moves (.inr (.inr rfl)), rfl⟩
  rename_i ready
  have serving : host.worker.faulted = false := by
    simp only [not_or, Bool.not_eq_true] at ready
    exact ready.1
  split at steps
  · rename_i record retry
    cases steps
    cases tracks.progress with
    | serving _ _ retried => rw [retry] at retried; cases retried
    | failed _ _ _ _ _ _ retried => rw [retry] at retried; cases retried
    | retrying uncertain spec member here _ certain retry' _ order _ state known =>
      obtain rfl : record = uncertain := Option.some.inj (retry.symm.trans retry')
      obtain ⟨settled', durable, projected, tracked⟩ := tracks.persisted
        { host.worker with retry := none } serving rfl rfl serving certain rfl
        (order ▸ tracks.known) member here outcome (.inr ⟨⟨state, known⟩, retries record retry⟩)
      exact ⟨_, settled', durable, projected, tracked, by rw [order]⟩
  · rename_i none
    split at steps
    · rename_i record input waiting
      cases steps
      cases tracks.progress with
      | retrying _ _ _ _ _ _ retry => rw [none] at retry; cases retry
      | failed _ _ _ _ fault => rw [serving] at fault; cases fault
      | serving _ certain _ _ order _ state known =>
        obtain ⟨spec, registered, here⟩ := tracks.known record (by simp [waiting])
        have member : spec ∈ host.worker.repository.specs := by simp [specs, registered]
        have taking : settled ++ [record] ++ input = taken ++ host.input := by
          rw [order, waiting, append_assoc]
          rfl
        obtain ⟨settled', durable, projected, tracked⟩ := tracks.persisted host.worker serving rfl
          rfl serving certain none (taking ▸ tracks.known) member here outcome (.inl ⟨state, known⟩)
        exact ⟨_, settled', durable, projected, tracked, taking⟩
    · split at steps
      · cases steps
        exact ⟨taken, settled, durable, projected, tracks.moves (.inr (.inr rfl)), rfl⟩
      · rename_i gone
        exact absurd tracks.submitters gone

omit tracks

end Tracks
end SensorSystem.Host
