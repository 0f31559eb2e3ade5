import SensorSystem.Host.Telemetry.TelemetryPersistence

/-! The same cyclic wait as in time persistence, with one completion in the hands of the thread. -/

namespace SensorSystem.Host

open Base

namespace TelemetryHost

variable {host after : TelemetryHost}

/-- The thread looks at the control channel next. -/
def AtControl (host : TelemetryHost) : Prop :=
  host.phase = .control ∨ host.phase = .faultedWait

/-- What holds until a shutdown. -/
structure Paced (host : TelemetryHost) : Prop where
  submitters : host.submitters = true
  connected : host.controlConnected = true
  serves : host.AtControl ∨ host.phase = .input ∨ ∃ completion, host.phase = .send completion
  stays : host.waits ≠ some .shutdown ∧ host.control ≠ some .shutdown
  unanswered : host.control ≠ none → host.reply = none
  asked : ∀ next registered, host.waits = some (.rollover next registered) →
    host.reply = none → host.control ≠ none
  room : ∀ next registered, host.waits = some (.rollover next registered) → host.reply = none →
    host.AtControl ∨ host.completionRoom = true

theorem awaitsReply_iff : host.awaitsReply = true ↔ host.reply = none ∧
    ∃ next registered, host.waits = some (.rollover next registered) := by
  unfold awaitsReply
  cases host.waits with
  | none => simp
  | some wait => cases wait <;> simp

variable (paced : host.Paced)

include paced

/-- With room for its completion the thread is not blocked. -/
theorem Paced.not_deadlocked : ¬ host.Deadlocked := by
  rintro ⟨awaits, blocked⟩
  obtain ⟨unanswered, next, registered, waits⟩ := awaitsReply_iff.mp awaits
  unfold awaitsRoom at blocked
  rcases paced.room next registered waits unanswered with control | room
  · rcases control with control | control
    · rw [control] at blocked
      cases blocked
    · rw [control] at blocked
      cases blocked
  · rw [room] at blocked
    split at blocked <;> cases blocked

theorem Paced.submit {record : TelemetryObservationRecord}
    (submits : host.submit record = some after) : after.Paced := by
  unfold TelemetryHost.submit at submits
  split at submits
  · cases submits
    exact ⟨paced.submitters, paced.connected, paced.serves, paced.stays, paced.unanswered,
      paced.asked, paced.room⟩
  · cases submits

/-- A request is answered. -/
theorem Paced.answered (repository : TelemetryRepository) (disk : TelemetryDisk)
    (result : Except TelemetryRepositoryError TelemetryStreamRollover)
    {phase : TelemetryThreadPhase}
    (next : phase = .control ∨ phase = .faultedWait ∨ phase = .input) :
    { host with control := none, reply := some result, repository, disk, phase }.Paced := by
  refine ⟨paced.submitters, paced.connected, ?_, ⟨paced.stays.1, nofun⟩,
    fun none => absurd rfl none, fun _ _ _ unanswered => (nomatch unanswered),
    fun _ _ _ unanswered => (nomatch unanswered)⟩
  rcases next with control | faulted | input
  · exact .inl (.inl control)
  · exact .inl (.inr faulted)
  · exact .inr (.inl input)

theorem Paced.storageControl (outcome : IoOutcome) : (host.storageControl outcome).Paced := by
  have next : ∀ faulted : Bool, (if faulted then TelemetryThreadPhase.faultedWait else .input) =
      .control ∨ (if faulted then TelemetryThreadPhase.faultedWait else .input) = .faultedWait ∨
        (if faulted then TelemetryThreadPhase.faultedWait else .input) = .input := by
    intro faulted
    cases faulted
    · exact .inr (.inr rfl)
    · exact .inr (.inl rfl)
  unfold TelemetryHost.storageControl
  simp only
  split
  · rename_i shutdown
    exact absurd shutdown paced.stays.2
  · split
    · exact paced.answered host.repository host.disk _ (next true)
    · exact paced.answered _ _ _ (next false)
  rename_i none
  rw [if_pos paced.connected]
  refine ⟨paced.submitters, paced.connected, ?_, paced.stays, paced.unanswered, paced.asked, ?_⟩
  · rcases next host.faulted with control | faulted | input
    · exact .inl (.inl control)
    · exact .inl (.inr faulted)
    · exact .inr (.inl input)
  · intro wanted registered waits unanswered
    exact absurd none (paced.asked wanted registered waits unanswered)

theorem Paced.storageFaulted (steps : host.storageFaulted = some after) : after.Paced := by
  unfold TelemetryHost.storageFaulted at steps
  split at steps
  · rename_i shutdown
    exact absurd shutdown paced.stays.2
  · cases steps
    exact paced.answered host.repository host.disk _ (.inl rfl)
  · rw [if_pos paced.connected] at steps
    cases steps

/-- The thread is past its control message. -/
theorem Paced.storageInput (here : host.phase = .input) (outcome : IoOutcome) :
    (host.storageInput outcome).Paced := by
  have room : ∀ next registered, host.waits = some (.rollover next registered) →
      host.reply = none → host.completionRoom = true := by
    intro next registered waits unanswered
    rcases paced.room next registered waits unanswered with control | room
    · rcases control with control | control
      · rw [here] at control
        cases control
      · rw [here] at control
        cases control
    · exact room
  unfold TelemetryHost.storageInput
  split
  · exact ⟨paced.submitters, paced.connected, .inr (.inr ⟨_, rfl⟩), paced.stays, paced.unanswered,
      paced.asked, fun next registered waits unanswered =>
        .inr (room next registered waits unanswered)⟩
  rw [if_pos paced.submitters]
  exact ⟨paced.submitters, paced.connected, .inl (.inl rfl), paced.stays, paced.unanswered,
    paced.asked, fun _ _ _ _ => .inl (.inl rfl)⟩

theorem Paced.storageSend {completion : TelemetryPersistenceCompletion}
    (steps : host.storageSend completion .control = some after) : after.Paced := by
  unfold TelemetryHost.storageSend at steps
  split at steps
  · cases steps
    exact ⟨paced.submitters, paced.connected, .inl (.inl rfl), paced.stays, paced.unanswered,
      paced.asked, fun _ _ _ _ => .inl (.inl rfl)⟩
  · cases steps

theorem Paced.storageStep {outcome : IoOutcome} (steps : host.storageStep outcome = some after) :
    after.Paced := by
  unfold TelemetryHost.storageStep at steps
  rcases paced.serves with (here | here) | here | ⟨completion, here⟩
  · rw [here] at steps
    cases steps
    exact paced.storageControl outcome
  · rw [here] at steps
    exact paced.storageFaulted steps
  · rw [here] at steps
    cases steps
    exact paced.storageInput here outcome
  · rw [here] at steps
    exact paced.storageSend steps

theorem Paced.pollHealth (polls : host.pollHealth = some after) : after.Paced := by
  unfold TelemetryHost.pollHealth at polls
  split at polls
  · cases polls
  rename_i free
  have free : host.waits = none := by simpa using free
  split at polls
  · cases polls
    exact paced
  cases polls
  refine ⟨paced.submitters, paced.connected, paced.serves, paced.stays, paced.unanswered,
    paced.asked, ?_⟩
  intro next registered waits
  have impossible := free.symm.trans waits
  cases impossible

theorem Paced.rolloverStream {previous : TelemetryStreamKey} {next : TelemetryStreamSpec}
    (spare : host.control = none → host.AtControl ∨ host.completionRoom = true)
    (rolls : host.rolloverStream previous next = some after) : after.Paced := by
  unfold TelemetryHost.rolloverStream at rolls
  split at rolls
  · cases rolls
  split at rolls
  · cases rolls
    exact paced
  · rename_i sends
    cases rolls
    have free : host.control = none := by simp_all
    exact ⟨paced.submitters, paced.connected, paced.serves, ⟨nofun, nofun⟩, fun _ => rfl,
      fun _ _ _ _ => nofun, fun _ _ _ _ => spare free⟩

theorem Paced.receiveReply (receives : host.receiveReply = some after) : after.Paced := by
  have serving : host.phase ≠ .stopped := by
    rcases paced.serves with (here | here) | here | ⟨completion, here⟩ <;> rw [here] <;> nofun
  unfold TelemetryHost.receiveReply at receives
  split at receives
  · split at receives
    · cases receives
      exact ⟨paced.submitters, paced.connected, paced.serves, ⟨nofun, paced.stays.2⟩,
        fun _ => rfl, nofun, nofun⟩
    · cases receives
      exact ⟨paced.submitters, paced.connected, paced.serves, ⟨nofun, paced.stays.2⟩,
        fun _ => rfl, nofun, nofun⟩
    · rw [if_neg serving] at receives
      cases receives
  · cases receives

omit paced

/-- A step before any shutdown, with a rollover that is asked of the thread at its control message
or with room in the completion channel. -/
def PacedStep (host : TelemetryHost) : TelemetryEvent → Prop
  | .rollover _ _ => host.control = none → host.AtControl ∨ host.completionRoom = true
  | .shutdown => False
  | _ => True

instance (host : TelemetryHost) (event : TelemetryEvent) : Decidable (host.PacedStep event) := by
  unfold PacedStep AtControl
  split <;> infer_instance

theorem Paced.step (paced : host.Paced) {event : TelemetryEvent} (allowed : host.PacedStep event)
    (steps : host.step event = some after) : after.Paced := by
  cases event with
  | submit record => exact paced.submit steps
  | storage outcome => exact paced.storageStep steps
  | poll => exact paced.pollHealth steps
  | rollover previous next => exact paced.rolloverStream allowed steps
  | receive => exact paced.receiveReply steps
  | shutdown => exact absurd allowed id
  | collect =>
    simp only [TelemetryHost.step, collect, paced.stays.1, if_false] at steps
    cases steps

theorem paced_start {disk : TelemetryDisk} {streams : List TelemetryStreamSpec}
    {outcomes : List IoOutcome} {capacity : Nat}
    (starts : TelemetryHost.start disk streams outcomes capacity = .ok host) : host.Paced := by
  unfold TelemetryHost.start at starts
  split at starts
  · cases starts
  split at starts
  · cases starts
  · cases starts
    exact ⟨rfl, rfl, .inl (.inl rfl), ⟨nofun, nofun⟩, fun _ => rfl, nofun, nofun⟩

end TelemetryHost
end SensorSystem.Host
