import SensorSystem.Host.Time.TimeDurability

/-! Runs without a failed append, up to a shutdown and from there to the end of the storage
thread. -/

namespace SensorSystem.Host

open List Base
open TimeRepository (AppendsRecord Persisted RolledOver)

namespace TimeHost

/-- What the worker has taken from the queue is in the files. -/
structure Stored (before disk : TimeDisk) (taken : List TimeObservationRecord)
    (worker : TimePersistenceWorker) : Prop where
  healthy : worker.faulted = false
  retried : worker.retry = none
  capacity : 0 < worker.completionCapacity
  sound : worker.repository.Sound disk
  written : Written before disk worker.repository.specs taken

/-- What holds until a shutdown. -/
structure Serving (before : TimeDisk) (taken : List TimeObservationRecord) (host : TimeHost) :
    Prop where
  submitters : host.submitters = true
  connected : host.controlConnected = true
  serves : host.phase = .control ∨ host.phase = .input ∨ host.phase = .forward
  stays : host.waits ≠ some .shutdown ∧ host.control ≠ some .shutdown
  free : host.waits = none → host.control = none
  unanswered : host.reply ≠ none → host.control = none
  settled : host.phase ≠ .forward → host.worker.completions = []
  stored : Stored before host.disk taken host.worker

/-- The records that the thread still takes from the queue after a shutdown. -/
def lastTaken (host : TimeHost) : List TimeObservationRecord :=
  host.input.take (if host.phase = .input then 1 else 0)

/-- What holds after a shutdown. -/
structure Stopping (before : TimeDisk) (goal taken : List TimeObservationRecord)
    (host : TimeHost) : Prop where
  submitters : host.submitters = false
  waits : host.waits = some .shutdown
  asked : host.control = some .shutdown ∨ host.phase = .drain ∨ host.phase = .stopped
  settled : host.phase = .control ∨ host.phase = .input → host.worker.completions = []
  order : goal = taken ++ host.lastTaken
  stored : Stored before host.disk taken host.worker

variable {before disk after : TimeDisk} {host next : TimeHost}
  {taken goal : List TimeObservationRecord} {worker : TimePersistenceWorker}

variable (stored : Stored before disk taken worker)

include stored

theorem Stored.same (files : after.observationsAt = disk.observationsAt)
    (sound : worker.repository.Sound after) : Stored before after taken worker :=
  ⟨stored.healthy, stored.retried, stored.capacity, sound, stored.written.same files⟩

/-- A record whose append does not fail is in the files. -/
theorem Stored.persisted (record : TimeObservationRecord) (outcome : IoOutcome)
    (succeeds : (worker.persistRecord disk record outcome).1.faulted = false) :
    Stored before (worker.persistRecord disk record outcome).2 (taken ++ [record])
      (worker.persistRecord disk record outcome).1 := by
  have answers := stored.sound.persist record outcome
  unfold TimePersistenceWorker.persistRecord at succeeds ⊢
  generalize worker.repository.persist disk record outcome = answer at answers succeeds
  cases answers with
  | durable sink appended after appends room sound specs =>
    refine ⟨stored.healthy, stored.retried, stored.capacity, sound, ?_⟩
    rw [specs]
    exact stored.written.append stored.sound appends
  | failed error appended after files specs => cases succeeds

theorem Stored.rolledOver (previous : TimeStreamKey) (wanted : TimeStreamSpec)
    (outcome : IoOutcome) :
    Stored before (worker.rolloverStream disk previous wanted outcome).2.2 taken
        (worker.rolloverStream disk previous wanted outcome).2.1 ∧
      (worker.rolloverStream disk previous wanted outcome).2.1.completions =
        worker.completions := by
  have answers := stored.sound.rolloverStream previous wanted outcome
  unfold TimePersistenceWorker.rolloverStream
  rw [if_neg (by simp [stored.healthy])]
  generalize worker.repository.rolloverStream disk previous wanted outcome = answer at answers
  cases answers with
  | refused error after files sound => exact ⟨stored.same files sound, rfl⟩
  | present sink member here => exact ⟨stored, rfl⟩
  | opened rolled after files sound fresh grown =>
    refine ⟨⟨stored.healthy, stored.retried, stored.capacity, sound, ?_⟩, rfl⟩
    refine stored.written.opened files sound (fun spec member same => ?_) grown
    obtain ⟨sink, known, rfl⟩ := mem_map.mp member
    have present : TimeRepository.hasKey worker.repository.streams wanted.config.key = true :=
      any_eq_true.mpr ⟨sink, known, decide_eq_true same⟩
    rw [fresh] at present
    cases present

omit stored

/-- The thread takes the next record. -/
theorem Stored.storageInput (stored : Stored before host.disk taken host.worker)
    (settled : host.worker.completions = []) {outcome : IoOutcome}
    (succeeds : next.worker.faulted = false) (steps : host.storageInput outcome = some next) :
    (host.input = [] ∧ next = { host with phase := if host.submitters then .forward else .drain }) ∨
    ∃ record input, host.input = record :: input ∧
      Stored before next.disk (taken ++ [record]) next.worker ∧
      next = { host with input, worker := next.worker, disk := next.disk, phase := .forward } := by
  have ready : ¬ (host.worker.faulted = true ∨
      host.worker.completions.length ≥ host.worker.completionCapacity) := by
    have capacity := stored.capacity
    simp only [stored.healthy, settled, Bool.false_eq_true, length_nil, false_or]
    omega
  unfold TimeHost.storageInput at steps
  simp only [if_neg ready, stored.retried] at steps
  split at steps
  · rename_i record input waiting
    cases steps
    exact .inr ⟨record, input, waiting, stored.persisted record outcome succeeds, rfl⟩
  rename_i empty
  split at steps
  · rename_i submits
    cases steps
    exact .inl ⟨empty, by simp [submits]⟩
  · rename_i gone
    cases steps
    exact .inl ⟨empty, by simp [gone]⟩

theorem storageForward_cases {done : TimeThreadPhase}
    (steps : host.storageForward done = some next) :
    (host.worker.completions = [] ∧ next = { host with phase := done }) ∨
    ∃ completion completions, host.worker.completions = completion :: completions ∧
      next = { host with
        worker := { host.worker with completions }
        completions := host.completions ++ [completion] } := by
  unfold TimeHost.storageForward at steps
  split at steps
  · rename_i empty
    cases steps
    exact .inl ⟨empty, rfl⟩
  rename_i completion completions pending
  split at steps
  · cases steps
    exact .inr ⟨completion, completions, pending, rfl⟩
  · cases steps

theorem Stored.forwarded (stored : Stored before disk taken worker)
    (completions : List TimePersistenceCompletion) :
    Stored before disk taken { worker with completions } :=
  ⟨stored.healthy, stored.retried, stored.capacity, stored.sound, stored.written⟩

namespace Serving

variable (serving : Serving before taken host)

include serving

/-- A request is answered. -/
theorem answered (stays : host.waits ≠ some .shutdown)
    (same : worker.completions = host.worker.completions) (here : host.phase = .control)
    (stored : Stored before after taken worker) (reply : TimeReply) :
    Serving before taken { host with
      control := none, worker, disk := after, reply := some reply, phase := .input } := by
  have empty : host.worker.completions = [] := serving.settled (by rw [here]; nofun)
  exact ⟨serving.submitters, serving.connected, .inr (.inl rfl), ⟨stays, nofun⟩, fun _ => rfl,
    fun _ => rfl, fun _ => same.trans empty, stored⟩

variable {outcome : IoOutcome}

theorem storageControl (here : host.phase = .control)
    (steps : host.storageControl outcome = some next) :
    Serving before taken next ∧ next.input = host.input := by
  have healthy := serving.stored.healthy
  unfold TimeHost.storageControl at steps
  split at steps
  · rename_i shutdown
    exact absurd shutdown serving.stays.2
  · split at steps
    · rename_i fault
      rw [healthy] at fault
      cases fault
    · cases steps
      exact ⟨serving.answered serving.stays.1 rfl here serving.stored _, rfl⟩
  · rename_i previous wanted asks
    split at steps
    · rename_i fault
      rw [healthy] at fault
      cases fault
    · cases steps
      obtain ⟨stored, same⟩ := serving.stored.rolledOver previous wanted outcome
      exact ⟨serving.answered serving.stays.1 same here stored _, rfl⟩
  · split at steps
    · rename_i gone
      exact absurd serving.connected gone
    split at steps
    · cases steps
    cases steps
    have empty : host.worker.completions = [] := serving.settled (by rw [here]; nofun)
    exact ⟨⟨serving.submitters, serving.connected, .inr (.inl rfl), serving.stays, serving.free,
      serving.unanswered, fun _ => empty, serving.stored⟩, rfl⟩

theorem storageStep (succeeds : next.worker.faulted = false)
    (steps : host.storageStep outcome = some next) :
    ∃ taken', Serving before taken' next ∧ taken' ++ next.input = taken ++ host.input := by
  unfold TimeHost.storageStep at steps
  rcases serving.serves with here | here | here
  · rw [here] at steps
    obtain ⟨serving', same⟩ := serving.storageControl here steps
    exact ⟨taken, serving', by rw [same]⟩
  · rw [here] at steps
    have settled : host.worker.completions = [] := serving.settled (by rw [here]; nofun)
    rcases serving.stored.storageInput settled succeeds steps with
      ⟨empty, rfl⟩ | ⟨record, input, waiting, stored, same⟩
    · rw [if_pos serving.submitters]
      exact ⟨taken, ⟨serving.submitters, serving.connected, .inr (.inr rfl), serving.stays,
        serving.free, serving.unanswered, fun away => absurd rfl away, serving.stored⟩, rfl⟩
    refine ⟨taken ++ [record], ?_, ?_⟩
    · rw [same]
      exact ⟨serving.submitters, serving.connected, .inr (.inr rfl), serving.stays,
        serving.free, serving.unanswered, fun away => absurd rfl away, stored⟩
    · rw [same, waiting, append_assoc]
      rfl
  · rw [here] at steps
    rcases storageForward_cases steps with ⟨empty, rfl⟩ | ⟨completion, completions, pending, rfl⟩
    · exact ⟨taken, ⟨serving.submitters, serving.connected, .inl rfl, serving.stays, serving.free,
        serving.unanswered, fun _ => empty, serving.stored⟩, rfl⟩
    · exact ⟨taken, ⟨serving.submitters, serving.connected, serving.serves, serving.stays,
        serving.free, serving.unanswered, fun away => absurd here away,
        serving.stored.forwarded completions⟩, rfl⟩

/-- The coordinator asks for something. -/
theorem request {message : TimePersistenceControl} {waits : TimeWait} (waits' : waits ≠ .shutdown)
    (message' : message ≠ .shutdown) : Serving before taken (host.request message waits) ∧
      (host.request message waits).input = host.input := by
  unfold TimeHost.request
  split
  · exact ⟨serving, rfl⟩
  exact ⟨⟨serving.submitters, serving.connected, serving.serves,
    ⟨fun same => waits' (Option.some.inj same), fun same => message' (Option.some.inj same)⟩,
    nofun, fun answered => absurd rfl answered, serving.settled, serving.stored⟩, rfl⟩

theorem recover {outcomes : List IoOutcome} (recovers : host.recover outcomes = some next) :
    Serving before taken next ∧ next.input = host.input := by
  obtain ⟨kept, files⟩ := TimeRepository.openStreams_opens host.disk host.streams outcomes
  have reopened : ∀ disk, disk.observationsAt = host.disk.observationsAt → host.disk.Keeps disk →
      Serving before taken { host with disk } := fun disk files kept =>
    ⟨serving.submitters, serving.connected, serving.serves, serving.stays, serving.free,
      serving.unanswered, serving.settled,
      serving.stored.same files (serving.stored.sound.keeps kept)⟩
  unfold TimeHost.recover at recovers
  split at recovers
  · cases recovers
  split at recovers
  · rename_i error disk opens
    rw [opens] at files kept
    cases recovers
    exact ⟨reopened disk files kept, rfl⟩
  rename_i repository disk opens
  rw [opens] at files kept
  cases recovers
  exact (reopened disk files kept).request nofun nofun

theorem rolloverStream {previous : TimeStreamKey} {spec : TimeStreamSpec}
    (rolls : host.rolloverStream previous spec = some next) :
    Serving before taken next ∧ next.input = host.input := by
  unfold TimeHost.rolloverStream at rolls
  split at rolls
  · cases rolls
  split at rolls
  · cases rolls
    exact ⟨serving, rfl⟩
  · cases rolls
    exact serving.request nofun nofun

/-- The coordinator goes on with an answer. -/
theorem received (answered : host.reply ≠ none) (health : TimePersistenceHealth)
    (streams : List TimeStreamSpec) :
    Serving before taken { host with reply := none, waits := none, health, streams } :=
  ⟨serving.submitters, serving.connected, serving.serves, ⟨nofun, serving.stays.2⟩,
    fun _ => serving.unanswered answered, fun answered => absurd rfl answered, serving.settled,
    serving.stored⟩

theorem receiveReply (receives : host.receiveReply = some next) :
    Serving before taken next ∧ next.input = host.input := by
  have here : host.phase ≠ .stopped := by
    rcases serving.serves with here | here | here <;> rw [here] <;> nofun
  unfold TimeHost.receiveReply at receives
  split at receives
  · rename_i reply
    cases receives
    exact ⟨serving.received (by simp [reply]) _ _, rfl⟩
  · rename_i reply
    split at receives
    · cases receives
      exact ⟨serving.received (by simp [reply]) _ _, rfl⟩
    split at receives
    · cases receives
      exact ⟨serving.received (by simp [reply]) _ _, rfl⟩
    · cases receives
      exact ⟨serving.received (by simp [reply]) _ _, rfl⟩
  · rename_i reply
    cases receives
    exact ⟨serving.received (by simp [reply]) _ _, rfl⟩
  · rename_i reply
    cases receives
    exact ⟨serving.received (by simp [reply]) _ _, rfl⟩
  · rw [if_neg here] at receives
    cases receives
  · rw [if_neg here] at receives
    cases receives
  · cases receives

omit serving

end Serving

theorem Serving.shutdown (serving : Serving before taken host) (stops : host.shutdown = some next) :
    Stopping before (taken ++ host.lastTaken) taken next := by
  unfold TimeHost.shutdown at stops
  split at stops
  · cases stops
  rename_i free
  have idle := serving.free (by simpa using free)
  cases stops
  refine ⟨rfl, rfl, .inl (by simp [idle]), ?_, rfl, serving.stored⟩
  intro here
  exact serving.settled
    (by rcases here with here | here <;> rw [show host.phase = _ from here] <;> nofun)

namespace Stopping

/-- The thread stops to take records. -/
theorem drains (stopping : Stopping before goal taken host) (none : host.lastTaken = [])
    {control : Option TimePersistenceControl} {phase : TimeThreadPhase}
    (later : phase = .drain ∨ phase = .stopped) :
    Stopping before goal taken { host with control, phase } := by
  refine ⟨stopping.submitters, stopping.waits, .inr later, ?_, ?_, stopping.stored⟩
  · rintro (here | here) <;> rcases later with rfl | rfl <;> cases here
  have order := stopping.order
  rw [none] at order
  rw [order, lastTaken]
  rcases later with rfl | rfl <;> rfl

theorem asks (stopping : Stopping before goal taken host)
    (here : host.phase = .control ∨ host.phase = .input ∨ host.phase = .forward) :
    host.control = some .shutdown := by
  rcases stopping.asked with asked | later | later
  · exact asked
  · rw [later] at here
    rcases here with here | here | here <;> cases here
  · rw [later] at here
    rcases here with here | here | here <;> cases here

theorem lastTaken_of_ne (away : host.phase ≠ .input) : host.lastTaken = [] := by
  rw [lastTaken, if_neg away, take_zero]

theorem storageStep (stopping : Stopping before goal taken host) {outcome : IoOutcome}
    (succeeds : next.worker.faulted = false) (steps : host.storageStep outcome = some next) :
    ∃ taken', Stopping before goal taken' next := by
  have order := stopping.order
  unfold TimeHost.storageStep at steps
  split at steps
  · rename_i here
    have away : host.phase ≠ .input := by rw [here]; nofun
    have asked := stopping.asks (.inl here)
    simp only [TimeHost.storageControl, asked] at steps
    cases steps
    exact ⟨taken, stopping.drains (lastTaken_of_ne away) (.inl rfl)⟩
  · rename_i here
    have settled := stopping.settled (.inr here)
    rcases stopping.stored.storageInput settled succeeds steps with
      ⟨empty, rfl⟩ | ⟨record, input, waiting, stored, same⟩
    · rw [if_neg (by simp [stopping.submitters])]
      have none : host.lastTaken = [] := by simp [lastTaken, empty]
      exact ⟨taken, stopping.drains none (.inl rfl)⟩
    refine ⟨taken ++ [record], ?_⟩
    have asked := stopping.asks (.inr (.inl here))
    rw [lastTaken, if_pos here, waiting] at order
    rw [same]
    refine ⟨stopping.submitters, stopping.waits, .inl asked, ?_, ?_, stored⟩
    · rintro (there | there) <;> cases there
    · exact order.trans (append_nil _).symm
  · rename_i here
    have away : host.phase ≠ .input := by rw [here]; nofun
    have asked := stopping.asks (.inr (.inr here))
    rw [lastTaken_of_ne away] at order
    rcases storageForward_cases steps with ⟨empty, rfl⟩ | ⟨completion, completions, pending, rfl⟩
    · exact ⟨taken, stopping.submitters, stopping.waits, .inl asked, fun _ => empty,
        order, stopping.stored⟩
    refine ⟨taken, stopping.submitters, stopping.waits, .inl asked, ?_, stopping.order,
      stopping.stored.forwarded completions⟩
    intro there
    rw [show host.phase = .forward from here] at there
    rcases there with there | there <;> cases there
  · rename_i here
    have away : host.phase ≠ .input := by rw [here]; nofun
    rcases storageForward_cases steps with ⟨empty, rfl⟩ | ⟨completion, completions, pending, rfl⟩
    · exact ⟨taken, stopping.drains (lastTaken_of_ne away) (.inr rfl)⟩
    refine ⟨taken, stopping.submitters, stopping.waits, .inr (.inl here), ?_, order,
      stopping.stored.forwarded completions⟩
    intro there
    rw [show host.phase = .drain from here] at there
    rcases there with there | there <;> cases there
  · cases steps

theorem step (stopping : Stopping before goal taken host) {event : TimeEvent}
    (succeeds : next.worker.faulted = false) (steps : host.step event = some next) :
    ∃ taken', Stopping before goal taken' next := by
  have waits := stopping.waits
  cases event with
  | storage outcome => exact stopping.storageStep succeeds steps
  | collect =>
    rw [TimeHost.step, TimeHost.collect, if_pos waits] at steps
    cases steps
    exact ⟨taken, stopping.submitters, waits, stopping.asked, stopping.settled, stopping.order,
      stopping.stored⟩
  | submit record =>
    simp [TimeHost.step, TimeHost.submit, stopping.submitters] at steps
  | poll => simp [TimeHost.step, TimeHost.pollHealth, waits] at steps
  | recover outcomes => simp [TimeHost.step, TimeHost.recover, waits] at steps
  | rollover previous spec => simp [TimeHost.step, TimeHost.rolloverStream, waits] at steps
  | receive => simp [TimeHost.step, TimeHost.receiveReply, waits] at steps
  | shutdown => simp [TimeHost.step, TimeHost.shutdown, waits] at steps

end Stopping

/-- The thread has met no failed append. -/
def ErrorFree (host : TimeHost) (event : TimeEvent) : Prop :=
  (host.step event).all (fun next => !next.worker.faulted) = true

instance (host : TimeHost) (event : TimeEvent) : Decidable (host.ErrorFree event) :=
  inferInstanceAs (Decidable (_ = true))

/-- A step before the shutdown. -/
def ServingStep (host : TimeHost) (event : TimeEvent) : Prop :=
  host.ErrorFree event ∧ event ≠ .shutdown

instance (host : TimeHost) (event : TimeEvent) : Decidable (host.ServingStep event) :=
  inferInstanceAs (Decidable (_ ∧ _))

variable {event : TimeEvent}

theorem ErrorFree.succeeds (free : host.ErrorFree event) (steps : host.step event = some next) :
    next.worker.faulted = false := by
  simpa [ErrorFree, steps] using free

/-- What the thread still does leads to the goal. -/
def Ending (before : TimeDisk) (goal : List TimeObservationRecord) (host : TimeHost) : Prop :=
  ∃ taken, Stopping before goal taken host

theorem Ending.step (ending : Ending before goal host) (free : host.ErrorFree event)
    (steps : host.step event = some next) : Ending before goal next := by
  obtain ⟨taken, stopping⟩ := ending
  exact stopping.step (free.succeeds steps) steps

/-- The records after a past without a shutdown. -/
def Served (before : TimeDisk) (past : List TimeEvent) (host : TimeHost) : Prop :=
  ∃ taken, Serving before taken host ∧ acceptedRecords past = taken ++ host.input

theorem Served.step {past : List TimeEvent} (served : Served before past host)
    (allowed : host.ServingStep event) (steps : host.step event = some next) :
    Served before (past ++ [event]) next := by
  obtain ⟨taken, serving, order⟩ := served
  have succeeds := allowed.1.succeeds steps
  have goesOn : Serving before taken next ∧ next.input = host.input →
      acceptedRecords [event] = [] → Served before (past ++ [event]) next := by
    rintro ⟨serving', same⟩ none
    refine ⟨taken, serving', ?_⟩
    rw [acceptedRecords_append, none, append_nil, order, same]
  cases event with
  | submit record =>
    simp only [TimeHost.step, TimeHost.submit] at steps
    split at steps
    · cases steps
      refine ⟨taken, ⟨serving.submitters, serving.connected, serving.serves, serving.stays,
        serving.free, serving.unanswered, serving.settled, serving.stored⟩, ?_⟩
      rw [acceptedRecords_append, order, append_assoc]
      rfl
    · cases steps
  | storage outcome =>
    obtain ⟨taken', serving', same⟩ := serving.storageStep succeeds steps
    refine ⟨taken', serving', ?_⟩
    rw [acceptedRecords_append, order, same]
    exact append_nil _
  | poll =>
    simp only [TimeHost.step, TimeHost.pollHealth] at steps
    split at steps
    · cases steps
    split at steps
    · cases steps
      exact goesOn ⟨serving, rfl⟩ rfl
    · cases steps
      exact goesOn ⟨⟨serving.submitters, serving.connected, serving.serves, serving.stays,
        serving.free, serving.unanswered, serving.settled, serving.stored⟩, rfl⟩ rfl
  | recover outcomes => exact goesOn (serving.recover steps) rfl
  | rollover previous spec => exact goesOn (serving.rolloverStream steps) rfl
  | receive => exact goesOn (serving.receiveReply steps) rfl
  | shutdown => exact absurd rfl allowed.2
  | collect =>
    simp only [TimeHost.step, TimeHost.collect, if_neg serving.stays.1] at steps
    cases steps

theorem served_start {streams : List TimeStreamSpec} {outcomes : List IoOutcome} {capacity : Nat}
    (starts : TimeHost.start disk streams outcomes capacity = .ok host) : Served disk [] host := by
  have files := (TimeRepository.openStreams_opens disk streams outcomes).observationsAt
  unfold TimeHost.start at starts
  split at starts
  · cases starts
  rename_i capacity
  split at starts
  · cases starts
  rename_i repository opened opens
  rw [opens] at files
  obtain ⟨sound, specs⟩ := TimeRepository.openStreams_eq_ok opens
  split at starts
  · cases starts
  cases starts
  exact ⟨[], ⟨rfl, rfl, .inl rfl, ⟨nofun, nofun⟩, fun _ => rfl, fun answered => absurd rfl answered,
    fun _ => rfl, ⟨rfl, rfl, Nat.pos_of_ne_zero capacity, sound, written_nil files _⟩⟩, rfl⟩

/-- Every record is in the file of its stream, in the order of submission. -/
def AllDurable (before : TimeDisk) (records : List TimeObservationRecord) (host : TimeHost) :
    Prop :=
  ∀ record ∈ records, ∃ spec ∈ host.worker.repository.specs, spec.config.key = record.key ∧
    host.disk.observationsAt spec.path =
      before.observationsAt spec.path ++ observationsOf record.key records

theorem Stored.allDurable_iff (stored : Stored before host.disk taken host.worker)
    (lost : List TimeObservationRecord) : host.AllDurable before (taken ++ lost) ↔ lost = [] := by
  constructor
  · intro all
    by_contra more
    obtain ⟨record, member⟩ := exists_mem_of_ne_nil lost more
    obtain ⟨spec, known, here, held⟩ := all record (mem_append_right _ member)
    rw [stored.written.files spec known, here, observationsOf_append] at held
    have none : observationsOf record.key lost = [] := by
      simpa using held
    have found : record.observation ∈ observationsOf record.key lost :=
      mem_map_of_mem (mem_filter.mpr ⟨member, decide_eq_true rfl⟩)
    rw [none] at found
    exact not_mem_nil found
  · rintro rfl record member
    rw [append_nil] at member ⊢
    obtain ⟨spec, known, here⟩ := stored.written.known record member
    exact ⟨spec, known, here, here ▸ stored.written.files spec known⟩

end TimeHost
end SensorSystem.Host
