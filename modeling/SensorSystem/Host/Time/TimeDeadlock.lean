import SensorSystem.Host.Time.TimePersistence

/-! The coordinator waits for the answer to a request, the storage thread for room in the
completion channel. What rules out that both wait at once. -/

namespace SensorSystem.Host

open List TimePersistenceHealth
open Base

namespace TimeHost

variable {host after : TimeHost}

/-- The completions that the coordinator has not seen. -/
def flight (host : TimeHost) : List TimePersistenceCompletion :=
  host.completions ++ host.worker.completions

/-- The answer to a recovery is on its way. -/
def Replaced (host : TimeHost) : Prop :=
  host.waits = some .recovery ∧ ∃ disposition, host.reply = some (.replaced (.ok disposition))

/-- The thread looks for a control message, or has room for all it may send before. -/
def SendRoom (host : TimeHost) : Prop :=
  host.phase = .control ∨ host.completions.length + host.worker.completions.length ≤
    if host.phase = .input then host.capacity else host.capacity + 1

/-- What holds until a shutdown. -/
structure Paced (host : TimeHost) : Prop where
  submitters : host.submitters = true
  connected : host.controlConnected = true
  serves : host.phase = .control ∨ host.phase = .input ∨ host.phase = .forward
  stays : host.waits ≠ some .shutdown ∧ host.control ≠ some .shutdown
  replacing : ∀ repository, host.control = some (.replace repository) →
    host.waits = some .recovery
  rolling : ∀ previous next, host.control = some (.rolloverStream previous next) →
    ∃ registered, host.waits = some (.rollover next registered)
  unanswered : host.control ≠ none → host.reply = none
  asked : ∀ next registered, host.waits = some (.rollover next registered) →
    host.reply = none → host.control ≠ none
  recovers : host.waits = some .recovery → host.health.state = .recoveryRequired
  settled : host.phase ≠ .forward → host.worker.completions = []
  single : host.worker.completions.length ≤ 1
  last : ∀ completion ∈ host.flight.dropLast, ∃ receipt, completion.result = .ok receipt
  faulted : (∃ completion ∈ host.flight, ∃ error, completion.result = .error error) →
    host.worker.faulted = true
  idle : host.worker.faulted = true → host.phase ≠ .input
  required : host.health.state = .recoveryRequired → ¬ host.Replaced →
    host.flight = [] ∧ host.worker.faulted = true
  room : ∀ next registered, host.waits = some (.rollover next registered) → host.reply = none →
    host.SendRoom

theorem awaitsReply_iff : host.awaitsReply = true ↔ host.reply = none ∧
    (host.waits = some .recovery ∨
      ∃ next registered, host.waits = some (.rollover next registered)) := by
  unfold awaitsReply
  cases host.waits with
  | none => simp
  | some wait => cases wait <;> simp

theorem Paced.not_deadlocked (paced : host.Paced) : ¬ host.Deadlocked := by
  rintro ⟨awaits, blocked⟩
  obtain ⟨unanswered, waits⟩ := awaitsReply_iff.mp awaits
  simp only [awaitsRoom, decide_eq_true_eq, Bool.not_eq_true] at blocked
  obtain ⟨forwards, pending, full⟩ := blocked
  have counted : 1 ≤ host.worker.completions.length :=
    length_pos_iff.mpr pending
  have forward : host.phase = .forward := by
    rcases forwards with forward | drain
    · exact forward
    · rcases paced.serves with here | here | here <;> rw [here] at drain <;> cases drain
  rcases waits with recovery | ⟨next, registered, rollover⟩
  · -- a recovery is asked for when the thread has sent everything
    have early : ¬ host.Replaced := by
      rintro ⟨-, disposition, answered⟩
      rw [unanswered] at answered
      cases answered
    have empty := (paced.required (paced.recovers recovery) early).1
    exact pending (append_eq_nil_iff.mp empty).2
  rcases paced.room next registered rollover unanswered with control | room
  · rw [control] at forward
    cases forward
  rw [forward] at room
  simp only [completionRoom, decide_eq_false_iff_not] at full
  simp at room
  omega

theorem Paced.submit (paced : host.Paced) {record : TimeObservationRecord}
    (submits : host.submit record = some after) : after.Paced := by
  unfold TimeHost.submit at submits
  split at submits
  · cases submits
    exact ⟨paced.submitters, paced.connected, paced.serves, paced.stays, paced.replacing,
      paced.rolling, paced.unanswered, paced.asked, paced.recovers, paced.settled, paced.single,
      paced.last, paced.faulted, paced.idle, paced.required, paced.room⟩
  · cases submits

/-- What a reopened repository makes of the worker. -/
inductive Replacement (worker : TimePersistenceWorker) (repository : TimeRepository) :
    Except TimePersistenceRecoveryError TimePersistenceRecoveryDisposition ×
      TimePersistenceWorker → Prop where
  | refused (error : TimePersistenceRecoveryError) :
      Replacement worker repository (.error error, worker)
  | retried (failed : TimeObservationRecord) (base : Nat) (sent : worker.completions = [])
      (known : worker.failed = some ⟨failed, some base⟩)
      (recovered : repository.durableRecordCount failed.key = some base) :
      Replacement worker repository (.ok .retryRequired, { worker with
        repository, failed := none, faulted := false, retry := some failed })
  | durable (failed : TimeObservationRecord) (base : Nat) (sent : worker.completions = [])
      (known : worker.failed = some ⟨failed, some base⟩)
      (recovered : repository.durableRecordCount failed.key = some (base + 1))
      (room : base + 1 < 2 ^ 64) :
      Replacement worker repository (.ok .alreadyDurable, { worker with
        repository, failed := none, faulted := false
        completions := [⟨failed, .ok ⟨failed.key, base + 1⟩⟩] })

theorem replacement (worker : TimePersistenceWorker) (repository : TimeRepository) :
    Replacement worker repository (worker.replaceRecoveredRepository repository) := by
  unfold TimePersistenceWorker.replaceRecoveredRepository
  split
  · exact .refused _
  split
  · exact .refused _
  rename_i sent
  have sent : worker.completions = [] := not_not.mp sent
  split
  · exact .refused _
  split
  · exact .refused _
  rename_i failed known
  obtain ⟨record, baseRecordCount⟩ := failed
  simp only
  cases baseRecordCount with
  | none => exact .refused _
  | some base =>
    simp only
    split
    · exact .refused _
    rename_i recovered counted
    split
    · exact .refused _
    rename_i room
    split
    · rename_i same
      exact .retried record base sent known (same ▸ counted)
    split
    · rename_i more
      exact .durable record base sent known (more ▸ counted) (Nat.lt_of_not_le room)
    · exact .refused _

variable {disk : TimeDisk} {next : TimeStreamSpec} {outcome : IoOutcome} {previous : TimeStreamKey}
  {worker : TimePersistenceWorker} {health : TimePersistenceHealth} {outcomes : List IoOutcome}

theorem rolloverStream_keeps {rolled : TimePersistenceWorker} {disk' : TimeDisk}
    {result : Except TimeStreamManagementError TimeStreamRollover}
    (rolls : worker.rolloverStream disk previous next outcome = (result, rolled, disk')) :
    rolled.completions = worker.completions ∧ rolled.faulted = worker.faulted := by
  unfold TimePersistenceWorker.rolloverStream at rolls
  split at rolls
  · cases rolls
    exact ⟨rfl, rfl⟩
  · cases rolls
    exact ⟨rfl, rfl⟩

/-- One record makes one completion, and a failure makes a fault. -/
theorem persistRecord_cases (worker : TimePersistenceWorker) (disk : TimeDisk)
    (record : TimeObservationRecord) (outcome : IoOutcome) :
    ∃ result, (worker.persistRecord disk record outcome).1.completions =
        worker.completions ++ [⟨record, result⟩] ∧
      ((∃ error, result = .error error) →
        (worker.persistRecord disk record outcome).1.faulted = true) := by
  unfold TimePersistenceWorker.persistRecord
  rcases worker.repository.persist disk record outcome with ⟨result, repository, disk⟩
  cases result with
  | ok receipt => exact ⟨.ok receipt, rfl, fun ⟨_, same⟩ => (nomatch same)⟩
  | error error => exact ⟨.error error, rfl, fun _ => rfl⟩

variable (paced : host.Paced)

include paced

theorem Paced.not_replaced (pending : host.control ≠ none) : ¬ host.Replaced := by
  rintro ⟨-, disposition, answered⟩
  rw [paced.unanswered pending] at answered
  cases answered

/-- A request is answered and the completions stay. -/
theorem Paced.answered (pending : host.control ≠ none) (worker : TimePersistenceWorker)
    (disk : TimeDisk) (reply : TimeReply)
    (completions : worker.completions = host.worker.completions)
    (faults : worker.faulted = host.worker.faulted) {phase : TimeThreadPhase}
    (next : phase = .forward ∨
      phase = .input ∧ host.worker.faulted = false ∧ host.worker.completions = []) :
    { host with control := none, reply := some reply, worker, disk, phase }.Paced := by
  have flights : flight { host with control := none, reply := some reply, worker, disk, phase } =
      host.flight := by
    simp only [flight, completions]
  refine ⟨paced.submitters, paced.connected, ?_, ⟨paced.stays.1, nofun⟩, nofun, nofun,
    fun none => absurd rfl none, fun _ _ _ unanswered => (nomatch unanswered), paced.recovers, ?_,
    ?_, ?_, ?_, ?_, ?_, fun _ _ _ unanswered => (nomatch unanswered)⟩
  · rcases next with forward | ⟨input, -⟩
    · exact .inr (.inr forward)
    · exact .inr (.inl input)
  · intro elsewhere
    rcases next with forward | ⟨-, -, empty⟩
    · exact absurd forward elsewhere
    · exact completions.trans empty
  · simp only [completions]
    exact paced.single
  · rw [flights]
    exact paced.last
  · rw [flights]
    exact fun failure => faults.trans (paced.faulted failure)
  · intro fault here
    rcases next with forward | ⟨-, healthy, -⟩
    · rw [forward] at here
      cases here
    · rw [faults, healthy] at fault
      cases fault
  · intro state _
    obtain ⟨empty, fault⟩ := paced.required state (paced.not_replaced pending)
    exact ⟨flights.trans empty, faults.trans fault⟩

theorem Paced.replaced {repository : TimeRepository}
    (asks : host.control = some (.replace repository))
    (disposition : TimePersistenceRecoveryDisposition) (completions : worker.completions = [] ∨
      ∃ record receipt, worker.completions = [⟨record, .ok receipt⟩]) : { host with
      control := none, reply := some (.replaced (.ok disposition)), worker
      phase := .forward }.Paced := by
  have recovery := paced.replacing repository asks
  have pending : host.control ≠ none := by simp [asks]
  obtain ⟨empty, -⟩ := paced.required (paced.recovers recovery) (paced.not_replaced pending)
  have sent : host.completions = [] := (append_eq_nil_iff.mp empty).1
  have flights : flight { host with
      control := none, reply := some (.replaced (.ok disposition)), worker
      phase := .forward } = worker.completions := by
    simp only [flight, sent, nil_append]
  refine ⟨paced.submitters, paced.connected, .inr (.inr rfl), ⟨paced.stays.1, nofun⟩, nofun, nofun,
    fun none => absurd rfl none, fun _ _ _ unanswered => (nomatch unanswered), paced.recovers,
    fun elsewhere => absurd rfl elsewhere, ?_, ?_, ?_, fun _ => nofun, ?_,
    fun _ _ _ unanswered => (nomatch unanswered)⟩
  · rcases completions with none | ⟨record, receipt, one⟩
    · simp only [none, length_nil, Nat.zero_le]
    · simp only [one, length_singleton, Nat.le_refl]
  · rw [flights]
    rcases completions with none | ⟨record, receipt, one⟩
    · rw [none]
      exact fun _ member => absurd member not_mem_nil
    · rw [one]
      exact fun _ member => absurd member not_mem_nil
  · rw [flights]
    rintro ⟨completion, member, error, failed⟩
    rcases completions with none | ⟨record, receipt, one⟩
    · rw [none] at member
      exact absurd member not_mem_nil
    · rw [one] at member
      obtain rfl := mem_singleton.mp member
      cases failed
  · exact fun _ early => absurd ⟨recovery, disposition, rfl⟩ early

theorem Paced.storageControl (here : host.phase = .control)
    (steps : host.storageControl outcome = some after) : after.Paced := by
  have empty : host.worker.completions = [] := paced.settled (by rw [here]; nofun)
  unfold TimeHost.storageControl at steps
  split at steps
  · rename_i shutdown
    exact absurd shutdown paced.stays.2
  · rename_i repository asks
    have pending : host.control ≠ none := by simp [asks]
    split at steps
    · have replaced := replacement host.worker repository
      generalize host.worker.replaceRecoveredRepository repository = answer at replaced steps
      cases replaced with
      | refused error =>
        cases steps
        exact paced.answered pending host.worker host.disk _ rfl rfl (.inl rfl)
      | retried failed base sent known recovered =>
        cases steps
        exact paced.replaced asks _ (.inl sent)
      | durable failed base sent known recovered room =>
        cases steps
        exact paced.replaced asks _ (.inr ⟨_, _, rfl⟩)
    · rename_i healthy
      cases steps
      exact paced.answered pending host.worker host.disk _ rfl rfl
        (.inr ⟨rfl, by simpa using healthy, empty⟩)
  · rename_i previous next asks
    have pending : host.control ≠ none := by simp [asks]
    split at steps
    · cases steps
      exact paced.answered pending host.worker host.disk _ rfl rfl (.inl rfl)
    rename_i healthy
    have healthy : host.worker.faulted = false := by simpa using healthy
    rcases rolled : host.worker.rolloverStream host.disk previous next outcome with
      ⟨result, worker, disk⟩
    rw [rolled] at steps
    cases steps
    obtain ⟨completions, faults⟩ := rolloverStream_keeps rolled
    exact paced.answered pending worker disk _ completions faults (.inr ⟨rfl, healthy, empty⟩)
  · rename_i none
    split at steps
    · rename_i gone
      exact absurd paced.connected gone
    split at steps
    · cases steps
    rename_i healthy
    have healthy : host.worker.faulted = false := by simpa using healthy
    cases steps
    refine ⟨paced.submitters, paced.connected, .inr (.inl rfl), paced.stays, paced.replacing,
      paced.rolling, paced.unanswered, paced.asked, paced.recovers, fun _ => empty, paced.single,
      paced.last, paced.faulted, ?_, paced.required, ?_⟩
    · intro fault
      have impossible := healthy.symm.trans fault
      cases impossible
    · intro next registered waits unanswered
      exact absurd none (paced.asked next registered waits unanswered)

/-- A processed record is the next completion. -/
theorem Paced.persisted (here : host.phase = .input) (worker : TimePersistenceWorker)
    (same : worker.completions = host.worker.completions) (input : List TimeObservationRecord)
    (record : TimeObservationRecord) (outcome : IoOutcome) : { host with
      input
      worker := (worker.persistRecord host.disk record outcome).1
      disk := (worker.persistRecord host.disk record outcome).2
      phase := .forward }.Paced := by
  have empty : host.worker.completions = [] := paced.settled (by rw [here]; nofun)
  have healthy : host.worker.faulted = false := by
    by_contra fault
    exact paced.idle (by simpa using fault) here
  obtain ⟨result, completions, fails⟩ :=
    persistRecord_cases worker host.disk record outcome
  rw [same, empty, nil_append] at completions
  have sound : ∀ completion ∈ host.completions, ∃ receipt, completion.result = .ok receipt := by
    intro completion member
    cases known : completion.result with
    | ok receipt => exact ⟨receipt, rfl⟩
    | error error =>
      have fault := paced.faulted ⟨completion, mem_append_left _ member, error, known⟩
      rw [healthy] at fault
      cases fault
  refine ⟨paced.submitters, paced.connected, .inr (.inr rfl), paced.stays, paced.replacing,
    paced.rolling, paced.unanswered, paced.asked, paced.recovers, fun elsewhere =>
      absurd rfl elsewhere,
    ?_, ?_, ?_, fun _ => nofun, ?_, ?_⟩
  · simp only [completions, length_singleton, Nat.le_refl]
  · simp only [flight, completions, dropLast_concat]
    exact sound
  · rintro ⟨completion, member, error, failed⟩
    simp only [flight, completions] at member
    rcases mem_append.mp member with old | new
    · obtain ⟨receipt, succeeded⟩ := sound completion old
      rw [succeeded] at failed
      cases failed
    · obtain rfl := mem_singleton.mp new
      exact fails ⟨error, failed⟩
  · intro state early
    have fault := (paced.required state early).2
    rw [healthy] at fault
    cases fault
  · intro next registered waits unanswered
    right
    have room := paced.room next registered waits unanswered
    unfold SendRoom at room
    rw [here] at room
    rcases room with impossible | room
    · cases impossible
    · simp only [if_true, empty, length_nil] at room
      simp only [completions, length_singleton, reduceCtorEq, if_false]
      omega

theorem Paced.storageInput (here : host.phase = .input)
    (steps : host.storageInput outcome = some after) : after.Paced := by
  have empty : host.worker.completions = [] := paced.settled (by rw [here]; nofun)
  have forwards : { host with phase := .forward }.Paced := by
    refine ⟨paced.submitters, paced.connected, .inr (.inr rfl), paced.stays, paced.replacing,
      paced.rolling, paced.unanswered, paced.asked, paced.recovers, fun _ => empty, paced.single,
      paced.last, paced.faulted, fun _ => nofun, paced.required, ?_⟩
    intro next registered waits unanswered
    have room := paced.room next registered waits unanswered
    unfold SendRoom at room
    rw [here] at room
    rcases room with impossible | room
    · cases impossible
    simp only [if_true] at room
    refine .inr ?_
    simp only [reduceCtorEq, if_false]
    omega
  unfold TimeHost.storageInput at steps
  simp only at steps
  split at steps
  · cases steps
    exact forwards
  split at steps
  · rename_i record retry
    cases steps
    exact paced.persisted here { host.worker with retry := none } rfl host.input record outcome
  split at steps
  · rename_i record input waiting
    cases steps
    exact paced.persisted here host.worker rfl input record outcome
  split at steps
  · cases steps
    exact forwards
  · rename_i gone
    exact absurd paced.submitters gone

theorem Paced.storageForward (here : host.phase = .forward)
    (steps : host.storageForward .control = some after) : after.Paced := by
  unfold TimeHost.storageForward at steps
  split at steps
  · rename_i empty
    cases steps
    refine ⟨paced.submitters, paced.connected, .inl rfl, paced.stays, paced.replacing,
      paced.rolling, paced.unanswered, paced.asked, paced.recovers, fun _ => empty, paced.single,
      paced.last, paced.faulted, fun _ => nofun, paced.required, fun _ _ _ _ => .inl rfl⟩
  rename_i completion rest pending
  split at steps
  · cases steps
    have flights : flight { host with
        worker := { host.worker with completions := rest }
        completions := host.completions ++ [completion] } = host.flight := by
      simp only [flight, pending, append_assoc, singleton_append]
    have single := paced.single
    rw [pending, length_cons] at single
    refine ⟨paced.submitters, paced.connected, paced.serves, paced.stays, paced.replacing,
      paced.rolling, paced.unanswered, paced.asked, paced.recovers, ?_, ?_, ?_, ?_, ?_, ?_, ?_⟩
    · exact fun elsewhere => absurd here elsewhere
    · simp only
      omega
    · rw [flights]
      exact paced.last
    · rw [flights]
      exact paced.faulted
    · exact paced.idle
    · rw [flights]
      exact paced.required
    · intro next registered waits unanswered
      have room := paced.room next registered waits unanswered
      unfold SendRoom at room ⊢
      simp only [pending, length_cons, length_append, length_nil] at room ⊢
      rcases room with control | room
      · exact .inl control
      · exact .inr (by omega)
  · cases steps

theorem Paced.storageStep (steps : host.storageStep outcome = some after) : after.Paced := by
  unfold TimeHost.storageStep at steps
  rcases paced.serves with here | here | here
  · rw [here] at steps
    exact paced.storageControl here steps
  · rw [here] at steps
    exact paced.storageInput here steps
  · rw [here] at steps
    exact paced.storageForward here steps

omit paced

/-- Only a failed append of a healthy service asks for a recovery. -/
theorem observeCompletion_required {completion : TimePersistenceCompletion}
    (required : (health.observeCompletion completion).2.state = .recoveryRequired) :
    ∃ error, completion.result = .error error := by
  cases result : completion.result with
  | error error => exact ⟨error, rfl⟩
  | ok receipt =>
    exfalso
    unfold observeCompletion at required
    split at required
    · rename_i fault
      rw [fault] at required
      cases required
    simp only [result] at required
    repeat' split at required
    all_goals cases required

include paced

theorem Paced.pollHealth (polls : host.pollHealth = some after) : after.Paced := by
  unfold TimeHost.pollHealth at polls
  split at polls
  · cases polls
  rename_i free
  have free : host.waits = none := by simpa using free
  split at polls
  · cases polls
    exact paced
  rename_i completion completions waiting
  cases polls
  have flights : host.flight = completion :: (completions ++ host.worker.completions) := by
    simp only [flight, waiting, cons_append]
  refine ⟨paced.submitters, paced.connected, paced.serves, paced.stays, paced.replacing,
    paced.rolling, paced.unanswered, paced.asked, ?_, paced.settled, paced.single, ?_, ?_,
    paced.idle, ?_, ?_⟩
  · intro waits
    have impossible := free.symm.trans waits
    cases impossible
  · intro other member
    refine paced.last other ?_
    rw [flights]
    cases rest : completions ++ host.worker.completions with
    | nil =>
      simp only [flight, rest] at member
      exact absurd member not_mem_nil
    | cons head tail =>
      simp only [flight, rest] at member
      rw [dropLast_cons_of_ne_nil (cons_ne_nil head tail)]
      exact mem_cons_of_mem _ member
  · rintro ⟨other, member, failed⟩
    refine paced.faulted ⟨other, ?_, failed⟩
    rw [flights]
    exact mem_cons_of_mem _ member
  · -- a failure is the last that is in flight
    intro state _
    obtain ⟨error, failed⟩ := observeCompletion_required state
    refine ⟨?_, paced.faulted ⟨completion, by simp [flights], error, failed⟩⟩
    by_contra more
    have more : completions ++ host.worker.completions ≠ [] := more
    obtain ⟨receipt, succeeded⟩ := paced.last completion (by
      rw [flights, dropLast_cons_of_ne_nil more]
      exact mem_cons_self)
    rw [failed] at succeeded
    cases succeeded
  · intro next registered waits
    have impossible := free.symm.trans waits
    cases impossible

theorem Paced.recover (recovers : host.recover outcomes = some after) : after.Paced := by
  unfold TimeHost.recover at recovers
  split at recovers
  · cases recovers
  rename_i guard
  simp only [not_or, not_not] at guard
  obtain ⟨free, required⟩ := guard
  have free : host.waits = none := by simpa using free
  have opened : ∀ disk, { host with disk }.Paced := fun disk =>
    ⟨paced.submitters, paced.connected, paced.serves, paced.stays, paced.replacing,
      paced.rolling, paced.unanswered, paced.asked, paced.recovers, paced.settled, paced.single,
      paced.last, paced.faulted, paced.idle, paced.required, paced.room⟩
  split at recovers
  · cases recovers
    exact opened _
  rename_i repository disk opens
  cases recovers
  unfold request
  split
  · exact opened disk
  have early : ¬ host.Replaced := by
    rintro ⟨waits, -⟩
    rw [free] at waits
    cases waits
  refine ⟨paced.submitters, paced.connected, paced.serves, ⟨nofun, nofun⟩, fun _ _ => rfl,
    nofun, fun _ => rfl, nofun, fun _ => required, paced.settled, paced.single, paced.last,
    paced.faulted, paced.idle, ?_, nofun⟩
  exact fun _ _ => paced.required required early

theorem Paced.rolloverStream (spare : host.health.state = .healthy → host.SendRoom)
    (rolls : host.rolloverStream previous next = some after) : after.Paced := by
  unfold TimeHost.rolloverStream at rolls
  split at rolls
  · cases rolls
  split at rolls
  · cases rolls
    exact paced
  rename_i healthy
  have healthy : host.health.state = .healthy := not_not.mp healthy
  simp only at rolls
  cases rolls
  unfold request
  split
  · exact paced
  refine ⟨paced.submitters, paced.connected, paced.serves, ⟨nofun, nofun⟩, nofun, ?_,
    fun _ => rfl, fun _ _ _ _ => nofun, nofun, paced.settled, paced.single, paced.last,
    paced.faulted, paced.idle, ?_, ?_⟩
  · intro asked wanted same
    cases same
    exact ⟨_, rfl⟩
  · intro state
    have impossible := healthy.symm.trans state
    cases impossible
  · exact fun _ _ _ _ => spare healthy

omit paced

theorem registerStream_state {registered : TimePersistenceHealth} {stream : TimeStreamKey}
    {count : Nat} (registers : health.registerStream stream count = .ok registered) :
    registered.state = health.state := by
  unfold registerStream at registers
  split at registers
  · cases registers
  split at registers
  · cases registers
  · cases registers
    rfl

theorem observeRecovery_state (health : TimePersistenceHealth)
    (disposition : TimePersistenceRecoveryDisposition) :
    (health.observeRecovery disposition).2.state ≠ .recoveryRequired := by
  unfold observeRecovery
  split
  · nofun
  · nofun

/-- The coordinator goes on with an answer. -/
theorem Paced.received (paced : host.Paced) (answered : host.reply ≠ none)
    (health : TimePersistenceHealth) (streams : List TimeStreamSpec)
    (required : health.state = .recoveryRequired → host.flight = [] ∧ host.worker.faulted = true) :
    { host with reply := none, waits := none, health, streams }.Paced := by
  have taken : host.control = none := by
    by_contra pending
    exact answered (paced.unanswered pending)
  refine ⟨paced.submitters, paced.connected, paced.serves, ⟨nofun, paced.stays.2⟩, ?_, ?_,
    fun _ => rfl, nofun, nofun, paced.settled, paced.single, paced.last, paced.faulted, paced.idle,
    fun state _ => required state, nofun⟩
  · intro repository asks
    have impossible := taken.symm.trans asks
    cases impossible
  · intro previous next asks
    have impossible := taken.symm.trans asks
    cases impossible

theorem Paced.receiveReply (paced : host.Paced) (receives : host.receiveReply = some after) :
    after.Paced := by
  have serving : host.phase ≠ .stopped := by
    rcases paced.serves with here | here | here <;> rw [here] <;> nofun
  have unchanged : ¬ host.Replaced → host.health.state = .recoveryRequired →
      host.flight = [] ∧ host.worker.faulted = true := fun early state => paced.required state early
  unfold TimeHost.receiveReply at receives
  split at receives
  · rename_i disposition waits reply
    cases receives
    refine paced.received (by simp [reply]) _ host.streams ?_
    exact fun state => absurd state (observeRecovery_state host.health disposition)
  · rename_i next registered rollover waits reply
    have early : ¬ host.Replaced := fun replaced => by
      have impossible := waits.symm.trans replaced.1
      cases impossible
    split at receives
    · cases receives
      exact paced.received (by simp [reply]) host.health host.streams (unchanged early)
    split at receives
    · cases receives
      exact paced.received (by simp [reply]) host.health host.streams (unchanged early)
    rename_i health registers
    cases receives
    refine paced.received (by simp [reply]) health _ ?_
    intro state
    exact unchanged early ((registerStream_state registers).symm.trans state)
  · rename_i reply refused waits answered
    cases receives
    refine paced.received (by simp [answered]) host.health host.streams (unchanged ?_)
    rintro ⟨-, disposition, replaced⟩
    exact refused disposition (Option.some.inj (answered.symm.trans replaced))
  · rename_i next registered reply refused waits answered
    cases receives
    refine paced.received (by simp [answered]) host.health host.streams (unchanged ?_)
    rintro ⟨waits', -⟩
    have impossible := waits.symm.trans waits'
    cases impossible
  · rw [if_neg serving] at receives
    cases receives
  · rw [if_neg serving] at receives
    cases receives
  · cases receives

/-- A step before any shutdown, with room at a rollover that is asked of the thread. -/
def PacedStep (host : TimeHost) : TimeEvent → Prop
  | .rollover _ _ => host.health.state = .healthy → host.SendRoom
  | .shutdown => False
  | _ => True

instance (host : TimeHost) (event : TimeEvent) : Decidable (host.PacedStep event) := by
  unfold PacedStep SendRoom
  split <;> infer_instance

theorem Paced.step (paced : host.Paced) {event : TimeEvent} (allowed : host.PacedStep event)
    (steps : host.step event = some after) : after.Paced := by
  cases event with
  | submit record => exact paced.submit steps
  | storage outcome => exact paced.storageStep steps
  | poll => exact paced.pollHealth steps
  | recover outcomes => exact paced.recover steps
  | rollover previous next => exact paced.rolloverStream allowed steps
  | receive => exact paced.receiveReply steps
  | shutdown => exact absurd allowed id
  | collect =>
    simp only [TimeHost.step, collect, paced.stays.1, if_false] at steps
    cases steps

theorem paced_start {streams : List TimeStreamSpec} {capacity : Nat}
    (starts : TimeHost.start disk streams outcomes capacity = .ok host) : host.Paced := by
  unfold TimeHost.start at starts
  split at starts
  · cases starts
  split at starts
  · cases starts
  split at starts
  · cases starts
  rename_i health recovers
  cases starts
  have healthy : health.state = .healthy := by
    unfold fromRecovery at recovers
    obtain ⟨added, -, recovers⟩ := bind_eq_ok.mp recovers
    split at recovers
    · cases recovers
    · cases recovers
      rfl
  refine ⟨rfl, rfl, .inl rfl, ⟨nofun, nofun⟩, nofun, nofun, fun _ => rfl, nofun, nofun,
    fun _ => rfl, Nat.zero_le _, fun _ member => absurd member not_mem_nil, ?_, nofun, ?_,
    nofun⟩
  · rintro ⟨completion, member, -⟩
    exact absurd member not_mem_nil
  · intro state
    have impossible := healthy.symm.trans state
    cases impossible

end TimeHost
end SensorSystem.Host
