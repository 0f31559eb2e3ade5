import SensorSystem.Host.Service.StorageWaits
import SensorSystem.Host.Time.TimeTracking

/-! Runs of the time service before a shutdown, with any append failing before or after its bytes
became durable. -/

namespace SensorSystem.Host

open List TimePersistenceHealth TimeRepository
open Base

namespace TimePersistenceHealth

variable {health next : TimePersistenceHealth}

/-- Completions register no stream. -/
theorem observeAll_keys {completions : List TimePersistenceCompletion}
    (observed : health.observeAll completions = some next) :
    next.streams.map (·.stream) = health.streams.map (·.stream) := by
  induction completions generalizing health with
  | nil =>
    cases observed
    rfl
  | cons completion rest ih =>
    obtain ⟨after, first, observed⟩ := observeAll_cons.mp observed
    rw [ih observed]
    obtain ⟨item, -, observes⟩ := observes_of first
    generalize completion.result = result at observes
    cases observes with
    | failed => rfl
    | counted => exact map_updateFirst _ fun _ _ _ => rfl

end TimePersistenceHealth

namespace Tracks

variable {before disk after : TimeDisk} {host next : TimeHost}
  {taken settled durable : List TimeObservationRecord} {projected : TimePersistenceHealth}
  {repository : TimeRepository} (tracks : Tracks before taken settled durable projected host)

include tracks

theorem storageForward (steps : host.storageForward .control = some next) :
    Tracks before taken settled durable projected next ∧ next.input = host.input := by
  unfold TimeHost.storageForward at steps
  split at steps
  · cases steps
    exact ⟨tracks.moves (.inl rfl), rfl⟩
  rename_i completion rest pending
  split at steps
  · cases steps
    refine ⟨⟨tracks.submitters, tracks.connected, tracks.serves, tracks.dialogue, tracks.specs,
      tracks.distinct, tracks.known, tracks.written, ?_, tracks.tallied, ?_⟩, rfl⟩
    · have walk := tracks.walk
      rw [TimeHost.flight, pending, append_cons] at walk
      exact walk
    cases tracks.progress with
    | serving healthy certain retried sound order files state none =>
      exact .serving healthy certain retried sound order files state none
    | retrying record spec member here healthy certain retry sound order files state uncertain =>
      exact .retrying record spec member here healthy certain retry sound order files state
        uncertain
    | failed record spec member here fault known retried order files state uncertain =>
      exact .failed record spec member here fault known retried order files state uncertain
  · cases steps

theorem storageStep {outcome : IoOutcome} (retries : host.phase = .input → ∀ record,
      host.worker.retry = some record →
        (host.worker.repository.persist host.disk record outcome).1.isOk = true)
    (steps : host.storageStep outcome = some next) :
    ∃ taken' settled durable projected, Tracks before taken' settled durable projected next ∧
      taken' ++ next.input = taken ++ host.input := by
  unfold TimeHost.storageStep at steps
  rcases tracks.serves with here | here | here
  · rw [here] at steps
    obtain ⟨settled, projected, tracked, same⟩ := tracks.storageControl steps
    exact ⟨taken, settled, durable, projected, tracked, by rw [same]⟩
  · rw [here] at steps
    exact tracks.storageInput (retries here) steps
  · rw [here] at steps
    obtain ⟨tracked, same⟩ := tracks.storageForward steps
    exact ⟨taken, settled, durable, projected, tracked, by rw [same]⟩

theorem pollHealth (polls : host.pollHealth = some next) :
    Tracks before taken settled durable projected next ∧ next.input = host.input := by
  unfold TimeHost.pollHealth at polls
  split at polls
  · cases polls
  rename_i free
  have free : host.waits = none := by simpa using free
  have dialogue := tracks.dialogue
  have specs := tracks.specs
  have walk := tracks.walk
  rw [free] at dialogue
  obtain ⟨idle, unanswered⟩ := dialogue.of_free
  rw [free, unanswered] at walk
  split at polls
  · cases polls
    exact ⟨tracks, rfl⟩
  rename_i completion rest waiting
  cases polls
  rw [TimeHost.flight, waiting] at walk
  obtain ⟨health, observed, walk⟩ := observeAll_cons.mp walk
  have observed : (host.health.observeCompletion completion).2 = health :=
    congrArg Prod.snd observed
  refine ⟨⟨tracks.submitters, tracks.connected, tracks.serves, ?_, tracks.specs,
    tracks.distinct, tracks.known, tracks.written, ?_, tracks.tallied, tracks.progress⟩, rfl⟩
  · simp only [free, idle, unanswered]
    exact .idle
  · simp only [free, unanswered, observed]
    exact walk

/-- A faulted worker does not know its files. -/
theorem reopened (fault : host.worker.faulted = true) (free : host.waits = none)
    (files : after.observationsAt = host.disk.observationsAt) :
    Tracks before taken settled durable projected { host with disk := after } := by
  have dialogue := tracks.dialogue
  rw [free] at dialogue
  obtain ⟨idle, unanswered⟩ := dialogue.of_free
  refine ⟨tracks.submitters, tracks.connected, tracks.serves, ?_, tracks.specs, tracks.distinct,
    tracks.known, tracks.written.same files, tracks.walk, tracks.tallied, ?_⟩
  · simp only [free, idle, unanswered]
    exact .idle
  cases tracks.progress with
  | serving healthy => rw [fault] at healthy; cases healthy
  | retrying _ _ _ _ healthy => rw [fault] at healthy; cases healthy
  | failed record spec member here fault known retried order files state uncertain =>
    exact .failed record spec member here fault known retried order files state uncertain

/-- A request is on its way. -/
theorem request (free : host.waits = none) {message : TimePersistenceControl} {waits : TimeWait}
    (asks : Dialogue host.streams host.disk host.health (some waits) (some message) none) :
    Tracks before taken settled durable projected (host.request message waits) ∧
      (host.request message waits).input = host.input := by
  have dialogue := tracks.dialogue
  rw [free] at dialogue
  obtain ⟨idle, unanswered⟩ := dialogue.of_free
  have specs := tracks.specs
  have walk := tracks.walk
  rw [unanswered, announced_none] at specs
  rw [unanswered, host.health.answered_none] at walk
  unfold TimeHost.request
  split
  · exact ⟨tracks, rfl⟩
  refine ⟨⟨tracks.submitters, tracks.connected, tracks.serves, asks, ?_, tracks.distinct,
    tracks.known, tracks.written, ?_, tracks.tallied, tracks.progress⟩, rfl⟩
  · simp only [announced_none]
    exact specs
  · simp only [answered_none]
    exact walk

theorem recover {outcomes : List IoOutcome} (recovers : host.recover outcomes = some next) :
    Tracks before taken settled durable projected next ∧ next.input = host.input := by
  unfold TimeHost.recover at recovers
  split at recovers
  · cases recovers
  rename_i guard
  simp only [not_or, not_not] at guard
  obtain ⟨free, required⟩ := guard
  have free : host.waits = none := by simpa using free
  have dialogue := tracks.dialogue
  rw [free] at dialogue
  obtain ⟨idle, unanswered⟩ := dialogue.of_free
  have fault := (tracks.required (by rw [free, unanswered]; exact required)).2.2.1
  have files := (openStreams_opens host.disk host.streams outcomes).observationsAt
  split at recovers
  · rename_i error disk opens
    rw [opens] at files
    cases recovers
    exact ⟨tracks.reopened fault free files, rfl⟩
  rename_i repository disk opens
  rw [opens] at files
  cases recovers
  obtain ⟨sound, specs⟩ := openStreams_eq_ok opens
  exact (tracks.reopened fault free files).request free
    (.replacing repository required sound specs)

variable {spec : TimeStreamSpec}

theorem rolloverStream {previous : TimeStreamKey}
    (rolls : host.rolloverStream previous spec = some next) :
    Tracks before taken settled durable projected next ∧ next.input = host.input := by
  unfold TimeHost.rolloverStream at rolls
  split at rolls
  · cases rolls
  rename_i free
  split at rolls
  · cases rolls
    exact ⟨tracks, rfl⟩
  · rename_i healthy
    cases rolls
    exact tracks.request (by simpa using free) (.rolling previous spec (not_not.mp healthy))

/-- The answer is taken, and the health is the one it led to. -/
theorem received (idle : host.control = none) {streams : List TimeStreamSpec}
    (specs : host.worker.repository.specs = streams)
    (keeps : ∀ spec ∈ host.streams, spec ∈ streams) :
    Tracks before taken settled durable projected { host with
      reply := none, waits := none, health := host.health.answered host.waits host.reply
      streams } := by
  refine ⟨tracks.submitters, tracks.connected, tracks.serves, ?_, ?_, tracks.distinct, ?_,
    tracks.written, tracks.walk, tracks.tallied, tracks.progress⟩
  · simp only [idle]
    exact .idle
  · simp only [specs, announced_none, append_nil]
  · intro record member
    obtain ⟨spec, known, here⟩ := tracks.known record member
    exact ⟨spec, keeps spec known, here⟩

/-- A stream that is announced can be registered. -/
theorem registers {rollover : TimeStreamRollover}
    (waits : host.waits = some (.rollover spec false))
    (answered : host.reply = some (.rolledOver (.ok rollover)))
    (healthy : host.health.state = .healthy) :
    host.health.registerStream rollover.stream rollover.durableRecordCount =
      .ok (host.health.register ⟨rollover.stream, rollover.durableRecordCount⟩) := by
  have walk := tracks.walk
  have keys := observeAll_keys walk
  rw [waits, answered, tracks.tallied] at keys
  have distinct := tracks.distinct
  have same : (tallies before settled host.worker.repository.specs).map (·.stream) =
      host.worker.repository.specs.map (·.config.key) := by
    rw [tallies, map_map]
    rfl
  rw [← same, keys] at distinct
  simp only [TimePersistenceHealth.answered, register, map_append,
    nodup_append] at distinct
  have fresh : host.health.streams.any (·.stream = rollover.stream) = false := by
    rw [any_eq_false]
    intro item member same
    exact distinct.2.2 _ (mem_map_of_mem member) rollover.stream (by simp)
      (of_decide_eq_true same)
  unfold registerStream
  rw [if_neg (not_not.mpr healthy), fresh, if_neg Bool.false_ne_true]
  rfl

theorem receiveReply (receives : host.receiveReply = some next) :
    Tracks before taken settled durable projected next ∧ next.input = host.input := by
  have serving : host.phase ≠ .stopped := by
    rcases tracks.serves with here | here | here <;> rw [here] <;> nofun
  have specs := tracks.specs
  have dialogue := tracks.dialogue
  generalize waits : host.waits = wait at dialogue
  generalize asked : host.control = control at dialogue
  generalize answered : host.reply = reply at dialogue
  rw [waits, answered] at specs
  have stays : announced wait reply = [] → (host.health.answered wait reply) = host.health →
      control = none → Tracks before taken settled durable projected
        { host with reply := none, waits := none } := by
    intro none same idle
    rw [none, append_nil] at specs
    have tracked := tracks.received (asked.trans idle) specs fun _ => id
    rw [waits, answered, same] at tracked
    exact tracked
  cases dialogue with
  | idle =>
    simp only [TimeHost.receiveReply, waits] at receives
    cases receives
  | replacing repository required sound specs =>
    simp only [TimeHost.receiveReply, waits, answered, if_neg serving] at receives
    cases receives
  | rolling previous spec healthy =>
    simp only [TimeHost.receiveReply, waits, answered, if_neg serving] at receives
    cases receives
  | replaced result required uncertain =>
    cases result with
    | error error =>
      simp only [TimeHost.receiveReply, waits, answered] at receives
      cases receives
      exact ⟨stays rfl rfl rfl, rfl⟩
    | ok disposition =>
      simp only [TimeHost.receiveReply, waits, answered, observeRecovery,
        required, uncertain] at receives
      cases receives
      have tracked := tracks.received asked (specs.trans (append_nil _)) fun _ => id
      rw [waits, answered] at tracked
      exact ⟨tracked, rfl⟩
  | rolledOver spec registered result healthy =>
    cases result with
    | error error =>
      simp only [TimeHost.receiveReply, waits, answered] at receives
      cases receives
      refine ⟨stays ?_ ?_ rfl, rfl⟩ <;> cases registered <;> rfl
    | ok rollover =>
      cases registered with
      | true =>
        simp only [TimeHost.receiveReply, waits, answered, if_true] at receives
        cases receives
        exact ⟨stays rfl rfl rfl, rfl⟩
      | false =>
        have registered := tracks.registers waits answered healthy
        simp only [TimeHost.receiveReply, waits, answered, registered, Bool.false_eq_true,
          if_false] at receives
        cases receives
        have tracked := tracks.received asked specs fun _ => mem_append_left _
        rw [waits, answered] at tracked
        exact ⟨tracked, rfl⟩

omit tracks

end Tracks

namespace TimeHost

/-- A submission goes to a registered stream, and a retry after a recovery succeeds. -/
def RecoveringStep (host : TimeHost) : TimeEvent → Prop
  | .submit record => ∃ spec ∈ host.streams, spec.config.key = record.key
  | .storage outcome => host.phase = .input → host.worker.retry.all (fun record =>
    (host.worker.repository.persist host.disk record outcome).1.isOk) = true
  | .shutdown | .collect => False
  | _ => True

instance (host : TimeHost) : (event : TimeEvent) → Decidable (host.RecoveringStep event)
  | .submit record => inferInstanceAs
    (Decidable (∃ spec ∈ host.streams, spec.config.key = record.key))
  | .storage _ => inferInstanceAs (Decidable (host.phase = .input → _ = true))
  | .shutdown | .collect => inferInstanceAs (Decidable False)
  | .poll | .recover _ | .rollover _ _ | .receive => inferInstanceAs (Decidable True)

/-- The record whose append failed, until it is known to be durable. -/
def uncertain (host : TimeHost) : Option TimeObservationRecord :=
  (host.worker.failed.map (·.record)).or host.worker.retry

/-- The state of the records after a past. -/
def Tracked (before : TimeDisk) (past : List TimeEvent) (host : TimeHost) : Prop :=
  ∃ taken settled durable projected, Tracks before taken settled durable projected host ∧
    acceptedRecords past = taken ++ host.input

variable {before disk : TimeDisk} {past : List TimeEvent} {host next : TimeHost}

theorem Tracked.step (tracked : Tracked before past host) {event : TimeEvent}
    (allowed : host.RecoveringStep event) (steps : host.step event = some next) :
    Tracked before (past ++ [event]) next := by
  obtain ⟨taken, settled, durable, projected, tracks, order⟩ := tracked
  have goesOn : Tracks before taken settled durable projected next ∧ next.input = host.input →
      acceptedRecords [event] = [] → Tracked before (past ++ [event]) next := by
    rintro ⟨tracks', same⟩ none
    refine ⟨taken, settled, durable, projected, tracks', ?_⟩
    rw [acceptedRecords_append, none, append_nil, order, same]
  cases event with
  | submit record =>
    simp only [TimeHost.step, TimeHost.submit] at steps
    split at steps
    · cases steps
      refine ⟨taken, settled, durable, projected, tracks.submit allowed, ?_⟩
      rw [acceptedRecords_append, order, append_assoc]
      rfl
    · cases steps
  | storage outcome =>
    have retries : host.phase = .input → ∀ record, host.worker.retry = some record →
        (host.worker.repository.persist host.disk record outcome).1.isOk = true := by
      intro here record retry
      simpa [retry] using allowed here
    obtain ⟨taken', settled, durable, projected, tracks', same⟩ :=
      tracks.storageStep retries steps
    refine ⟨taken', settled, durable, projected, tracks', ?_⟩
    rw [acceptedRecords_append, order, same]
    exact append_nil _
  | poll => exact goesOn (tracks.pollHealth steps) rfl
  | recover outcomes => exact goesOn (tracks.recover steps) rfl
  | rollover previous spec => exact goesOn (tracks.rolloverStream steps) rfl
  | receive => exact goesOn (tracks.receiveReply steps) rfl
  | shutdown => exact absurd allowed id
  | collect => exact absurd allowed id

theorem addRecovered_eq_ok {streams health : List TimeStreamHealth}
    {recovered : List (TimeStreamKey × Nat)}
    (adds : addRecovered streams recovered = .ok health) :
    health = streams ++ recovered.map fun entry => ⟨entry.1, entry.2⟩ := by
  induction recovered generalizing streams with
  | nil =>
    cases adds
    exact (append_nil _).symm
  | cons entry rest ih =>
    unfold addRecovered at adds
    split at adds
    · cases adds
    · rw [ih adds, append_assoc]
      rfl

theorem tracked_start {streams : List TimeStreamSpec} {outcomes : List IoOutcome} {capacity : Nat}
    (starts : TimeHost.start disk streams outcomes capacity = .ok host) : Tracked disk [] host := by
  have files := (openStreams_opens disk streams outcomes).observationsAt
  unfold TimeHost.start at starts
  split at starts
  · cases starts
  split at starts
  · cases starts
  rename_i repository opened opens
  rw [opens] at files
  obtain ⟨sound, specs⟩ := openStreams_eq_ok opens
  split at starts
  · cases starts
  rename_i health recovers
  cases starts
  have written := written_nil files repository.specs
  obtain ⟨added, adds, recovers⟩ := bind_eq_ok.mp recovers
  split at recovers
  · cases recovers
  cases recovers
  have tallied : added = tallies disk [] repository.specs := by
    rw [addRecovered_eq_ok adds]
    simp only [recoveries, TimeRepository.specs, tallies, map_map,
      nil_append]
    exact map_congr_left fun sink member => by simp [written.counted sound member,
      specOf]
  refine ⟨[], [], [], { streams := added }, ⟨rfl, rfl, .inl rfl, .idle, ?_, ?_,
    fun _ member => absurd member not_mem_nil, written, rfl, tallied,
    .serving rfl rfl rfl sound rfl rfl rfl rfl⟩, rfl⟩
  · rw [announced_none, specs, append_nil]
  · rw [TimeRepository.specs, specs_keys]
    exact sound.distinct

end TimeHost

/-- Only the record that a recovery is for can be durable and not yet counted. -/
def TimeHost.Counts (host : TimeHost) (item : TimeStreamHealth) (spec : TimeStreamSpec) : Prop :=
  item.stream = spec.config.key ∧
    ((host.disk.observationsAt spec.path).length = item.durableRecordCount ∨
      (host.disk.observationsAt spec.path).length = item.durableRecordCount + 1 ∧
        host.health.state = .recoveryRequired ∧
          ∃ record, host.health.uncertain = some record ∧ record.key = item.stream)

variable {before : TimeDisk} {host : TimeHost} {taken settled durable : List TimeObservationRecord}
  {projected : TimePersistenceHealth} (tracks : Tracks before taken settled durable projected host)

include tracks

/-- With no completion in flight every settled record counts. -/
theorem Tracks.counted (empty : host.flight = []) :
    host.health.streams = tallies before settled host.streams := by
  have walk := tracks.walk
  rw [empty] at walk
  have tallied := tracks.tallied
  rw [← Option.some.inj walk, tracks.specs] at tallied
  have dialogue := tracks.dialogue
  generalize host.waits = waits at dialogue tallied
  generalize host.control = control at dialogue
  generalize host.reply = reply at dialogue tallied
  have stays : announced waits reply = [] → host.health.answered waits reply = host.health →
      host.health.streams = tallies before settled host.streams := by
    intro none same
    rwa [none, same, append_nil] at tallied
  cases dialogue with
  | idle => exact stays rfl rfl
  | replacing repository required sound specs => exact stays rfl rfl
  | rolling previous spec healthy =>
    exact stays (announced_none _) (host.health.answered_none _)
  | replaced result required uncertain =>
    cases result with
    | error error => exact stays rfl rfl
    | ok disposition =>
      simp only [announced, append_nil] at tallied
      exact tallied
  | rolledOver spec registered result healthy =>
    cases result with
    | error error => cases registered <;> exact stays rfl rfl
    | ok rollover =>
      cases registered with
      | true => exact stays rfl rfl
      | false =>
        simp only [announced, answered, register,
          tallies, map_append, map_cons, map_nil] at tallied
        exact append_inj_left' tallied rfl

theorem Tracks.counts (empty : host.flight = []) :
    Forall₂ host.Counts host.health.streams host.streams := by
  rw [tracks.counted empty, tallies, forall₂_map_left_iff, forall₂_same]
  intro spec member
  refine ⟨rfl, ?_⟩
  have files : host.disk.observationsAt spec.path =
      before.observationsAt spec.path ++ observationsOf spec.config.key durable :=
    tracks.written.files spec (by simp [tracks.specs, member])
  rw [files]
  cases tracks.progress with
  | serving _ _ _ _ _ same => exact .inl (same ▸ rfl)
  | retrying _ _ _ _ _ _ _ _ _ same => exact .inl (same ▸ rfl)
  | failed record _ _ _ _ _ _ _ either state uncertain =>
    rcases either with same | more
    · exact .inl (same ▸ rfl)
    by_cases here : record.key = spec.config.key
    · have walk := tracks.walk
      rw [empty] at walk
      have answered := Option.some.inj walk
      obtain ⟨required, kept⟩ := tracks.dialogue.answered_required (answered ▸ state)
      refine .inr ⟨?_, required, record, ?_, here⟩
      · rw [more]
        exact tally_append_self here.symm
      · rw [← kept, answered, uncertain]
    · refine .inl ?_
      rw [more]
      exact tally_append_ne here

omit tracks

/-- Every record that the storage thread has taken is durable exactly once and in order, but
for the last one while its append is uncertain, and the health counts the files when no
completion is in flight. -/
theorem timePersistence_exact {disk : TimeDisk} {streams : List TimeStreamSpec}
    {outcomes : List IoOutcome} {capacity : Nat} {host after : TimeHost} {events : List TimeEvent}
    (starts : TimeHost.start disk streams outcomes capacity = .ok host)
    (along : Along TimeHost.step TimeHost.RecoveringStep host events)
    (runs : host.run events = some after) : after.health.state ≠ .integrityFault ∧
    (∃ processed durable,
      acceptedRecords events = processed ++ after.input ∧
      (durable = processed ∨
        ∃ record, after.uncertain = some record ∧ processed = durable ++ [record]) ∧
      (∀ record ∈ processed, ∃ spec ∈ after.streams, spec.config.key = record.key) ∧
      (∀ spec ∈ after.streams, after.disk.observationsAt spec.path =
        disk.observationsAt spec.path ++ observationsOf spec.config.key durable)) ∧
    (after.flight = [] → List.Forall₂ after.Counts after.health.streams after.streams) := by
  have tracked : TimeHost.Tracked disk ([] ++ events) after :=
    runSteps_keeps_past (TimeHost.Tracked disk)
    (fun tracked allowed steps => TimeHost.Tracked.step tracked allowed steps)
    (TimeHost.tracked_start starts) along runs
  obtain ⟨taken, settled, durable, projected, tracks, order⟩ := tracked
  refine ⟨?_, ⟨taken, durable, order, ?_, fun record member =>
    tracks.known record (List.mem_append_left _ member), ?_⟩, tracks.counts⟩
  · intro fault
    have answered := tracks.dialogue.answered_fault fault
    exact tracks.progress.not_fault
      (TimePersistenceHealth.observeAll_integrityFault tracks.walk answered)
  · cases tracks.progress with
    | serving _ _ _ _ order same => exact .inl (same.trans order.symm)
    | retrying record _ _ _ _ certain retry _ order same =>
      exact .inr ⟨record, by simp [TimeHost.uncertain, certain, retry], same ▸ order⟩
    | failed record _ _ _ _ known _ order either =>
      rcases either with same | more
      · exact .inr ⟨record, by simp [TimeHost.uncertain, known], same ▸ order⟩
      · exact .inl (more.trans order.symm)
  · intro spec member
    exact tracks.written.files spec (by simp [tracks.specs, member])

namespace StorageExample

/-- The bytes of a record are durable, but its append fails. -/
def uncertainAppend : List TimeEvent :=
  [.submit (observation 1), .storage .succeeds, .storage .failsAfter, .storage .succeeds,
    .storage .succeeds, .poll]

/-- A record that is not durable is found out and appended once more. -/
def retriedAppend : List TimeEvent :=
  [.submit (observation 1), .storage .succeeds, .storage .failsBefore, .storage .succeeds,
    .storage .succeeds, .poll, .recover [], .storage .succeeds, .storage .succeeds, .receive,
    .storage .succeeds, .storage .succeeds, .storage .succeeds, .poll]

end StorageExample

open StorageExample in
theorem timePersistence_exact_retried : ∃ after, timeHost.run retriedAppend = some after ∧
      after.health.state ≠ .integrityFault ∧
      (after.flight = [] → List.Forall₂ after.Counts after.health.streams after.streams) := by
  have along : Along TimeHost.step TimeHost.RecoveringStep timeHost retriedAppend := by
    decide +kernel
  have moves : (timeHost.run retriedAppend).isSome = true := by decide +kernel
  obtain ⟨after, runs⟩ := Option.isSome_iff_exists.mp moves
  have exact' := timePersistence_exact timeHost_starts along runs
  exact ⟨after, runs, exact'.1, exact'.2.2⟩

open StorageExample in
/-- A durable record is not counted before its recovery, with no completion in flight. -/
theorem timePersistence_uncounted :
    TimeHost.start (fun _ => none) [⟨"time-1", timeConfig 1⟩] [] 1 = .ok timeHost ∧
    Along TimeHost.step TimeHost.RecoveringStep timeHost uncertainAppend ∧
    ∃ after, timeHost.run uncertainAppend = some after ∧ after.flight = [] ∧
      ∃ item ∈ after.health.streams, ∃ spec ∈ after.streams, item.stream = spec.config.key ∧
        (after.disk.observationsAt spec.path).length ≠ item.durableRecordCount := by
  have along : Along TimeHost.step TimeHost.RecoveringStep timeHost uncertainAppend := by
    decide +kernel
  have differs : (timeHost.run uncertainAppend).any (fun after => decide (after.flight = [] ∧
      ∃ item ∈ after.health.streams, ∃ spec ∈ after.streams, item.stream = spec.config.key ∧
        (after.disk.observationsAt spec.path).length ≠ item.durableRecordCount)) = true := by
    decide +kernel
  obtain ⟨after, runs, differs⟩ := (Option.any_eq_true ..).mp differs
  exact ⟨timeHost_starts, along, after, runs, of_decide_eq_true differs⟩

end SensorSystem.Host
