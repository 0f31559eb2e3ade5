import SensorSystem.Host.Channel.AgentResponses

/-! In a run whose submissions can be sent, whose frames are in time and whose accepted payloads
can be used, the active work is in flight or can be sent again in every state. One unusable
payload is enough to keep the channel for good. -/

namespace SensorSystem.Host

open Base List
open PendingWork (CanStart InFlight Formed Usable)
open ChannelAgent (isUnaddressed)
open Framing (Frame hostAddress broadcastAddress)

/-- What the agent does not check of a submission. -/
def Submission.Startable : Submission → Prop
  | lifecycle nodeAddress _ _ => isUnaddressed nodeAddress = false
  | handshake requirements => isUnaddressed requirements.nodeAddress = false
  | measurement transfer => isUnaddressed transfer.nodeAddress = false ∧
      transfer.session.Built ∧ (transfer.session.beginPull transfer.maxSamples).1.isOk
  | _ => True

variable {nodeAddress : UInt8} {timeout : DurationMicros}

theorem addressed_of_isUnaddressed (addressed : isUnaddressed nodeAddress = false) :
    nodeAddress ≠ hostAddress ∧ nodeAddress ≠ broadcastAddress := by
  simpa only [isUnaddressed, Bool.or_eq_false_iff, beq_eq_false_iff_ne] using addressed

theorem LifecycleOperation.canStart_of_new {command : RuntimeCommand}
    {operation : LifecycleOperation}
    (addressed : nodeAddress ≠ hostAddress ∧ nodeAddress ≠ broadcastAddress)
    (built : LifecycleOperation.new nodeAddress command = .ok operation) :
    CanStart timeout (.lifecycle operation) := by
  obtain ⟨encoded, encodes, built⟩ := bind_eq_ok.mp built
  cases built
  have begins : PendingWork.beginAttempt timeout (.lifecycle { nodeAddress, command }) = .ok _ :=
    map_eq_ok.mpr ⟨_, mapError_eq_ok.mpr (guard_eq_ok.mpr
      ⟨not_not.mpr rfl, bind_eq_ok.mpr ⟨encoded, encodes, rfl⟩⟩), rfl⟩
  exact ⟨_, _, _, rfl, begins, addressed⟩

/-- The addresses that a configuration may have are those of nodes. -/
theorem ConfigurationOperation.canStart_of_new {request : ConfigurationRequest}
    {operation : ConfigurationOperation}
    (built : ConfigurationOperation.new nodeAddress request = .ok operation) :
    CanStart timeout (.configuration operation) := by
  obtain ⟨range, built⟩ := guard_eq_ok.mp built
  obtain ⟨payload, encodes, built⟩ := bind_eq_ok.mp built
  cases built
  have begins : PendingWork.beginAttempt timeout (.configuration { nodeAddress, request }) =
      .ok _ :=
    map_eq_ok.mpr ⟨_, mapError_eq_ok.mpr (guard_eq_ok.mpr
      ⟨not_not.mpr rfl, bind_eq_ok.mpr ⟨payload, encodes, rfl⟩⟩), rfl⟩
  refine ⟨_, _, _, rfl, begins, ?_, ?_⟩
  · rintro rfl
    exact range (by decide)
  · rintro rfl
    exact range (by decide)

theorem CommissioningOperation.canStart_of_new {request : CommissioningRequest}
    {operation : CommissioningOperation}
    (built : CommissioningOperation.new request = .ok operation) :
    CanStart timeout (.commissioning operation) := by
  obtain ⟨payload, encodes, built⟩ := bind_eq_ok.mp built
  cases built
  have begins : PendingWork.beginAttempt timeout (.commissioning { request }) = .ok _ :=
    map_eq_ok.mpr ⟨_, mapError_eq_ok.mpr (guard_eq_ok.mpr
      ⟨not_not.mpr rfl, bind_eq_ok.mpr ⟨payload, encodes, rfl⟩⟩), rfl⟩
  have route : broadcastAddress ≠ hostAddress ∧ commissioningAddress ≠ hostAddress ∧
      commissioningAddress ≠ broadcastAddress := by decide
  exact ⟨_, _, _, rfl, begins, route⟩

theorem MeasurementTransfer.canStart_of_isOk {transfer : MeasurementTransfer}
    (addressed : transfer.nodeAddress ≠ hostAddress ∧ transfer.nodeAddress ≠ broadcastAddress)
    (begins : (transfer.session.beginPull transfer.maxSamples).1.isOk) :
    CanStart timeout (.measurement transfer) := by
  cases done : transfer.session.beginPull transfer.maxSamples with
  | mk result session =>
    cases result with
    | error error =>
      rw [done] at begins
      cases begins
    | ok pull =>
      have started : PendingWork.beginAttempt timeout (.measurement transfer) = .ok _ :=
        map_eq_ok.mpr ⟨_, mapError_eq_ok.mpr (by rw [MeasurementTransfer.beginAttempt, done]), rfl⟩
      exact ⟨_, _, _, rfl, started, addressed⟩

theorem Submission.canStart_of_work {submission : Submission} {operationId : UInt32}
    {work : PendingWork} (startable : submission.Startable)
    (built : submission.work operationId = .ok work) : work.CanStart timeout ∧ work.Formed := by
  cases submission with
  | lifecycle nodeAddress operation requestedProfile =>
    obtain ⟨value, done, rfl⟩ := map_eq_ok.mp built
    exact ⟨LifecycleOperation.canStart_of_new (addressed_of_isUnaddressed startable)
      (mapError_eq_ok.mp done), trivial⟩
  | getConfiguration | validateConfiguration | applyConfiguration | resetConfiguration =>
    obtain ⟨value, done, rfl⟩ := map_eq_ok.mp built
    exact ⟨ConfigurationOperation.canStart_of_new (mapError_eq_ok.mp done), trivial⟩
  | commissioningProbe | commissioningAssignment =>
    obtain ⟨value, done, rfl⟩ := map_eq_ok.mp built
    exact ⟨CommissioningOperation.canStart_of_new (mapError_eq_ok.mp done), trivial⟩
  | handshake requirements =>
    cases built
    exact ⟨NodeHandshake.canStart_iff.mpr ⟨nofun, addressed_of_isUnaddressed startable⟩, nofun⟩
  | streamState | telemetry =>
    obtain ⟨addressed, built⟩ := guard_eq_ok.mp built
    cases built
    rw [Bool.not_eq_true] at addressed
    exact ⟨⟨_, _, _, rfl, rfl, addressed_of_isUnaddressed addressed⟩, trivial⟩
  | timeSync nodeAddress expectedBootEpoch =>
    obtain ⟨addressed, built⟩ := guard_eq_ok.mp built
    obtain ⟨-, built⟩ := guard_eq_ok.mp built
    cases built
    rw [Bool.not_eq_true] at addressed
    exact ⟨⟨_, _, _, rfl, rfl, addressed_of_isUnaddressed addressed⟩, trivial⟩
  | measurement transfer =>
    cases built
    obtain ⟨addressed, sessionBuilt, begins⟩ := startable
    exact ⟨MeasurementTransfer.canStart_of_isOk (addressed_of_isUnaddressed addressed) begins,
      sessionBuilt.sound⟩

namespace ChannelAgent

variable {agent : ChannelAgent} {active : ActiveWork} {now : MonotonicMicros}

/-- A submission can be sent, a frame is in time, a payload can be used. -/
def Careful (agent : ChannelAgent) : AgentCall → Prop
  | .submit submission => submission.Startable
  | .receive now frame => agent.Punctual (.receive now frame) ∧
      ∀ transaction active, agent.transactions.state = .awaiting transaction →
        transaction.matchesFrame frame → agent.active = some active →
          active.work.Usable frame.payload
  | call => agent.Punctual call

def CarefulRun (agent : ChannelAgent) : List AgentCall → Prop
  | [] => True
  | call :: calls => agent.Careful call ∧ (agent.call call).CarefulRun calls

theorem Careful.punctual {call : AgentCall} (careful : agent.Careful call) :
    agent.Punctual call := by
  cases call with
  | submit => trivial
  | receive => exact careful.1
  | poll | takeOutbound | transmitCompleted | transmitFailed | takeCompletedMeasurement
    | abandonControlWork => exact careful

/-- Active work is in flight or can start, and so can all that is queued. -/
structure Healthy (agent : ChannelAgent) : Prop where
  inStep : agent.InStep
  rests : ¬ agent.Busy → ∀ active, agent.active = some active →
    active.work.CanStart agent.policy.transactionTimeout
  formed : ∀ active, agent.active = some active → active.work.Formed
  queue : ∀ work ∈ agent.pending, work.CanStart agent.policy.transactionTimeout ∧ work.Formed

/-- The next work of a healthy agent can start. -/
theorem Healthy.next {pending : List PendingWork} {events : List AttemptEvent}
    (healthy : agent.Healthy) (calm : ¬ agent.Busy) (next : agent.Next active pending events) :
    active.work.CanStart agent.policy.transactionTimeout ∧ active.work.Formed ∧
      ∀ work ∈ pending, work ∈ agent.pending := by
  cases next with
  | retried active held =>
    exact ⟨healthy.rests calm active held, healthy.formed active held, fun _ member => member⟩
  | activated work pending now free queue =>
    obtain ⟨canStart, formed⟩ := healthy.queue work (by rw [queue]; exact mem_cons_self)
    refine ⟨canStart, formed, fun other member => ?_⟩
    rw [queue]
    exact mem_cons_of_mem _ member

variable {after : ChannelAgent}

theorem Healthy.of_returns {told : PendingWork} (inStep : after.InStep)
    (returns : agent.Returns told after)
    (queue : ∀ work ∈ agent.pending, work.CanStart agent.policy.transactionTimeout ∧ work.Formed)
    (canStart : after.active.isSome → told.CanStart agent.policy.transactionTimeout)
    (formed : told.Formed) : after.Healthy := by
  have policy : after.policy = agent.policy := by rw [returns.same]
  have pending : after.pending = agent.pending := by rw [returns.same]
  have kept (last : ActiveWork) (held : after.active = some last) : last.work = told := by
    cases returns.placed with
    | active found holds same =>
      cases holds.symm.trans held
      exact same
    | ended free | handedOff _ free => cases free.symm.trans held
  refine ⟨inStep, ?_, ?_, ?_⟩
  · intro _ last held
    rw [policy, kept last held]
    exact canStart (by rw [held]; rfl)
  · intro last held
    rw [kept last held]
    exact formed
  · rw [policy, pending]
    exact queue

theorem Healthy.of_handled {good : Prop} (inStep : after.InStep) (leaves : agent.Leaves after)
    (queue : ∀ work ∈ agent.pending, work.CanStart agent.policy.transactionTimeout ∧ work.Formed)
    (handled : Handled agent.policy.transactionTimeout good after) (holds : good) :
    after.Healthy := by
  have policy : after.policy = agent.policy := by rw [leaves.same]
  have pending : after.pending = agent.pending := by rw [leaves.same]
  have kept (last : ActiveWork) (held : after.active = some last) :
      last.work.CanStart agent.policy.transactionTimeout ∧ last.work.Formed := by
    cases handled with
    | ended _ free => cases free.symm.trans held
    | again _ found holds canStart formed =>
      cases holds.symm.trans held
      exact ⟨canStart, formed⟩
    | stuck fails => exact absurd holds fails
  refine ⟨inStep, ?_, fun last held => (kept last held).2, ?_⟩
  · intro _ last held
    rw [policy]
    exact (kept last held).1
  · rw [policy, pending]
    exact queue

theorem Healthy.step {call : AgentCall} {events : List AttemptEvent} (healthy : agent.Healthy)
    (careful : agent.Careful call) (step : agent.Step call after events) : after.Healthy := by
  have inStep := healthy.inStep.step step
  cases step with
  | kept pending fewer nextOperationId =>
    exact { healthy with
      inStep
      queue := fun work member => healthy.queue work (fewer work member) }
  | submitted submission operationId work made built nextOperationId =>
    subst made
    refine { healthy with inStep, queue := fun found member => ?_ }
    rcases mem_append.mp member with old | new
    · exact healthy.queue found old
    · rw [mem_singleton.mp new]
      exact Submission.canStart_of_work careful built
  | taken => exact { healthy with inStep }
  | handedOver => exact { healthy with inStep }
  | abandoned idle =>
    refine ⟨inStep, ?_, ?_, healthy.queue⟩
    · rintro - found ⟨⟩
    · rintro found ⟨⟩
  | waited active pending events next calm free last same =>
    obtain ⟨canStart, formed, fewer⟩ := healthy.next calm next
    obtain rfl | cannot := same
    · refine ⟨inStep, ?_, ?_, fun work member => healthy.queue work (fewer work member)⟩
      · rintro - found ⟨⟩
        exact canStart
      · rintro found ⟨⟩
        exact formed
    · exact absurd canStart cannot
  | started active pending events next free after starts =>
    obtain ⟨prepared, prepares⟩ := starts.core
    obtain ⟨request, payload, begun, begins, held⟩ := starts.work
    have idle : agent.transactions.state = .idle := prepares.idle
    obtain ⟨-, formed, fewer⟩ := healthy.next (by simp [Busy, idle]) next
    have policy : after.policy = agent.policy := by rw [starts.same]
    have queue : after.pending = pending := by rw [starts.same]
    refine ⟨inStep, fun calm => absurd (.inl ⟨prepared, prepares.state⟩) calm, ?_, ?_⟩
    · intro found holds
      cases held.symm.trans holds
      exact formed.begins begins
    · rw [policy, queue]
      exact fun work member => healthy.queue work (fewer work member)
  | transmitted prepared transaction now transmitting bounded outbound =>
    obtain ⟨active, held, -⟩ := healthy.inStep.inFlight (.inl ⟨prepared, transmitting⟩)
    refine ⟨inStep, fun calm => absurd (.inr ⟨transaction, rfl⟩) calm, ?_, healthy.queue⟩
    intro found holds
    rw [held] at holds
    cases holds
    exact (healthy.formed active held).sent now
  | failed prepared active told after transmitting held marked canStart returns =>
    exact .of_returns inStep returns healthy.queue (fun _ => canStart)
      ((healthy.formed active held).markTransmitFailed marked)
  | accepted transaction now frame made awaiting inTime matched =>
    subst made
    obtain ⟨active, held, inFlight⟩ := healthy.inStep.inFlight (.inr ⟨transaction, awaiting⟩)
    have usable := careful.2 transaction active awaiting matched held
    have left := acceptResponse_leaves { agent with
      transactions := { agent.transactions with state := .idle } } now frame.payload
    have handled := acceptResponse_handled { agent with
      transactions := { agent.transactions with state := .idle } } now frame.payload held
      inFlight (healthy.formed active held)
    exact .of_handled inStep left healthy.queue handled usable
  | expired core now active told after expires held marked canStart returns once =>
    refine .of_returns inStep returns healthy.queue (fun some_ => canStart ?_)
      ((healthy.formed active held).markTimeout marked)
    rw [← Bool.not_eq_true]
    intro probe
    rw [once probe] at some_
    cases some_
  | released expired until_ waiting =>
    refine { healthy with inStep, rests := fun _ => healthy.rests ?_ }
    simp [Busy, waiting]

def run (agent : ChannelAgent) (calls : List AgentCall) : ChannelAgent :=
  calls.foldl call agent

theorem Healthy.run (healthy : agent.Healthy) {calls : List AgentCall}
    (careful : agent.CarefulRun calls) : (agent.run calls).Healthy := by
  induction calls generalizing agent with
  | nil => exact healthy
  | cons call calls ih =>
    have step := call_step healthy.inStep call careful.1.punctual
    exact ih (healthy.step careful.1 step) careful.2

theorem Healthy.new {transactionSeed operationSeed : UInt32} {quarantineDuration : DurationMicros}
    {policy : ChannelPolicy}
    (built : new transactionSeed operationSeed quarantineDuration policy = .ok agent) :
    agent.Healthy := by
  have inStep := InStep.new built
  obtain ⟨checked, -, built⟩ := bind_eq_ok.mp built
  cases built
  refine ⟨inStep, ?_, ?_, fun work member => absurd member not_mem_nil⟩
  · rintro - active ⟨⟩
  · rintro active ⟨⟩

/-- The phase of the session that an event about a transfer speaks of. -/
def sessionPhase : ChannelEvent → Option SessionPhase
  | .measurementNotAccepted _ | .measurementAttemptsExhausted _ | .measurementNoData _ _ =>
    some .ready
  | .measurementPersistenceRequired _ kind => some kind.phase
  | .measurementRecoveryRequired _ _ => some .recoveryRequired
  | _ => none

/-- The transfer is active or waits for its owner, and its session is in the phase of the event. -/
def Reports (result : AgentResult ChannelEvent) : Prop :=
  ∃ transfer, ((∃ last, result.2.active = some last ∧ last.work = .measurement transfer) ∨
      result.2.active = none ∧ result.2.completedMeasurement = some transfer) ∧
    match result.1 with
    | .ok event => sessionPhase event = some transfer.session.phase
    | .error error => error = .timeOverflow ∧ transfer.session.phase = .ready

theorem scheduleRetry_reports {transfer : MeasurementTransfer} {nodeAddress : UInt8}
    (free : agent.completedMeasurement = none) (ready : transfer.session.phase = .ready) :
    Reports (agent.scheduleRetry { active with work := .measurement transfer } now
      (.measurementNotAccepted nodeAddress)) := by
  unfold scheduleRetry
  split
  · exact ⟨transfer, .inl ⟨_, rfl, rfl⟩, rfl, ready⟩
  simp only
  split_ifs with spent single
  · simp only [handoffExhausted, handoffActiveMeasurement, handoff, free, Option.isSome_none,
      Bool.false_eq_true, if_false]
    exact ⟨transfer, .inr ⟨rfl, rfl⟩, congrArg some ready.symm⟩
  · cases single
  · exact ⟨transfer, .inl ⟨_, rfl, rfl⟩, congrArg some ready.symm⟩

theorem sessionPhase_measurementEvent (nodeAddress : UInt8) (outcome : MeasurementOutcome) :
    sessionPhase (measurementEvent nodeAddress outcome) = some outcome.phase := by
  cases outcome <;> rfl

theorem receiveMeasurement_reports {transfer : MeasurementTransfer} {payload : List UInt8}
    (free : agent.completedMeasurement = none) (sound : transfer.session.Sound)
    (awaiting : transfer.session.phase = .awaitingPull) (usable : transfer.Usable payload) :
    Reports (agent.receiveMeasurement active now transfer payload) := by
  have settles := MeasurementTransfer.acceptResponse_settles sound awaiting payload
  unfold receiveMeasurement
  split
  · rename_i error after accepted
    rw [accepted] at settles
    cases settles with
    | refused _ _ fails => exact absurd usable fails
  · rename_i after accepted
    rw [accepted] at settles
    cases settles with
    | accepted _ _ holds ends => exact scheduleRetry_reports free ends
  rename_i outcome after other accepted
  rw [accepted] at settles
  cases settles with
  | accepted _ _ holds ends =>
    simp only [handoff, free, Option.isSome_none, Bool.false_eq_true, if_false]
    refine ⟨after, .inr ⟨rfl, rfl⟩, ?_⟩
    exact (sessionPhase_measurementEvent _ outcome).trans (congrArg some ends.symm)

/-- A frame that the core accepts for the active work. -/
structure Accepts (agent : ChannelAgent) (active : ActiveWork) (now : MonotonicMicros)
    (frame : Frame) : Prop where
  held : agent.active = some active
  transaction : ∃ transaction, agent.transactions.state = .awaiting transaction ∧
    now ≤ transaction.deadline ∧ transaction.matchesFrame frame

theorem Accepts.receive_eq {frame : Frame} (accepts : agent.Accepts active now frame) :
    agent.receive now frame = acceptResponse { agent with
      transactions := { agent.transactions with state := .idle } } now frame.payload := by
  obtain ⟨transaction, awaiting, inTime, matched⟩ := accepts.transaction
  have accepted : agent.transactions.receive now frame =
      .ok (.accepted, { agent.transactions with state := .idle }) := by
    simp only [TransactionCore.receive, awaiting, inTime, matched, if_true]
  simp only [receive, accepted]

/-- In a careful run the active work is in flight or is sent again by later polls.
Whatever response the core accepts next, the work is over or can start afterwards
exactly when the payload can be used; a transfer then ends in the phase that the
event names. -/
theorem responses_leave_progress {transactionSeed operationSeed : UInt32}
    {quarantineDuration : DurationMicros} {policy : ChannelPolicy} {agent : ChannelAgent}
    (built : new transactionSeed operationSeed quarantineDuration policy = .ok agent)
    (calls : List AgentCall) (careful : agent.CarefulRun calls) : let last := agent.run calls
    (∀ active, last.active = some active →
      last.Busy ∧ active.work.InFlight last.policy.transactionTimeout ∨ last.Retries active) ∧
    ∀ active now frame, last.Accepts active now frame →
      ((∀ kept, (last.receive now frame).2.active = some kept →
        kept.work.CanStart last.policy.transactionTimeout) ↔ active.work.Usable frame.payload) ∧
      ∀ transfer, active.work = .measurement transfer → transfer.Usable frame.payload →
        Reports (last.receive now frame) := by
  intro last
  have healthy : last.Healthy := (Healthy.new built).run careful
  refine ⟨fun active held => ?_, fun active now frame accepts => ?_⟩
  · by_cases busy : last.Busy
    · obtain ⟨found, holds, inFlight⟩ := healthy.inStep.inFlight busy
      cases held.symm.trans holds
      exact .inl ⟨busy, inFlight⟩
    · exact .inr (healthy.inStep.retries busy held (healthy.rests busy active held))
  obtain ⟨transaction, awaiting, -⟩ := accepts.transaction
  obtain ⟨found, holds, inFlight⟩ := healthy.inStep.inFlight (.inr ⟨transaction, awaiting⟩)
  cases accepts.held.symm.trans holds
  have formed := healthy.formed active accepts.held
  rw [accepts.receive_eq]
  constructor
  · cases acceptResponse_handled { last with
      transactions := { last.transactions with state := .idle } } now frame.payload accepts.held
        inFlight formed with
    | ended usable free =>
      refine iff_of_true (fun kept held => ?_) usable
      cases free.symm.trans held
    | again usable found holds canStart =>
      refine iff_of_true (fun kept held => ?_) usable
      cases holds.symm.trans held
      exact canStart
    | stuck useless found holds cannot =>
      exact iff_of_false (fun all => cannot (all found holds)) useless
  · intro transfer kind usable
    rw [kind] at inFlight formed
    simp only [acceptResponse, accepts.held, kind]
    exact receiveMeasurement_reports (healthy.inStep.completed_eq_none accepts.held) formed
      (awaiting_of_inFlight inFlight) usable

open AgentTrace (quickAgent sendCommand emptyResponse)

def busyResponse : Frame := { emptyResponse with payload := [5], payloadBounded := by decide }

def startedResponse : Frame := { emptyResponse with
  transactionId := 2, payload := [0, 1, 0, 0, 0, 0, 2, 0, 0], payloadBounded := by decide }

/-- The node is busy at first and is asked again. -/
def askedAgain : List AgentCall := sendCommand ++
  [.receive 5 busyResponse, .poll 6, .takeOutbound, .transmitCompleted 6]

theorem responses_leave_progress_quickAgent : let asked := quickAgent.run askedAgain
    new 1 1 ⟨5, by decide⟩ quickAgent.policy = .ok quickAgent ∧ quickAgent.CarefulRun askedAgain ∧
      ∃ active, asked.active = some active ∧
        (asked.Busy ∧ active.work.InFlight asked.policy.transactionTimeout ∨
          asked.Retries active) ∧
        asked.Accepts active 7 startedResponse ∧
        ∀ kept, (asked.receive 7 startedResponse).2.active = some kept →
          kept.work.CanStart asked.policy.transactionTimeout := by
  have built : new 1 1 ⟨5, by decide⟩ quickAgent.policy = .ok quickAgent := rfl
  have careful : quickAgent.CarefulRun askedAgain := by
    refine ⟨rfl, trivial, trivial, ?_, ⟨?_, ?_⟩, trivial, trivial, ?_, trivial⟩
    · intro prepared transmitting
      cases transmitting
      decide
    · intro transaction awaiting
      cases awaiting
      decide
    · intro transaction active awaiting matched held
      cases held
      exact rfl
    · intro prepared transmitting
      cases transmitting
      decide
  have progress := responses_leave_progress built askedAgain careful
  obtain ⟨active, held⟩ := Option.isSome_iff_exists.mp
    (show (quickAgent.run askedAgain).active.isSome by decide)
  have accepts : (quickAgent.run askedAgain).Accepts active 7 startedResponse :=
    ⟨held, _, rfl, by decide, by decide⟩
  refine ⟨built, careful, active, held, progress.1 active held, accepts, ?_⟩
  refine ((progress.2 active 7 startedResponse accepts).1).mpr ?_
  cases held
  exact rfl

/-- A response without a payload, in time, fails the command and leaves it active.
Every later poll is idle. -/
theorem response_keeps_channel : let sent := quickAgent.run sendCommand
    let agent := (sent.receive 5 emptyResponse).2
    (sent.receive 5 emptyResponse).1 = .error (.lifecycle (.wire .invalidLength)) ∧
      agent.active.isSome ∧ ∀ now, agent.poll now = (.ok .idle, agent) := by
  refine ⟨by decide, by decide, fun now => ?_⟩
  exact poll_of_waits (by decide) (by decide) (by decide) (by decide)

end ChannelAgent
end SensorSystem.Host
