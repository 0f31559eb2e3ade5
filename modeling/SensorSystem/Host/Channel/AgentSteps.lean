import SensorSystem.Host.Channel.WireAttempts

/-! The calls that an endpoint and the owners of work make, and what each of them can do to the
agent. The invariants of whole runs are derived from these. -/

namespace SensorSystem.Host

open Option TransactionCore
open Base
open Framing (Frame)

inductive Submission where
  | lifecycle (nodeAddress : UInt8) (operation : RuntimeOperation)
      (requestedProfile : ObservabilityProfile)
  | getConfiguration (nodeAddress : UInt8)
  | validateConfiguration (nodeAddress : UInt8) (configuration : MeasurementConfiguration)
  | applyConfiguration (nodeAddress : UInt8) (expectedRevision : UInt32)
      (configuration : MeasurementConfiguration)
  | resetConfiguration (nodeAddress : UInt8) (expectedRevision : UInt32)
  | commissioningProbe (request : ProbeSlotRequest)
  | commissioningAssignment (roundNonce : UInt64) (hardwareId : HardwareId) (nodeAddress : UInt8)
  | handshake (requirements : HandshakeRequirements)
  | streamState (nodeAddress : UInt8)
  | timeSync (nodeAddress : UInt8) (expectedBootEpoch : BootEpoch)
  | telemetry (nodeAddress : UInt8)
  | measurement (transfer : MeasurementTransfer)

/-- The work of a submission under the operation id it is given. -/
def Submission.work (operationId : UInt32) : Submission → Except ChannelAgentError PendingWork
  | lifecycle nodeAddress operation requestedProfile =>
    .lifecycle <$> (LifecycleOperation.new nodeAddress
      ⟨operationId, operation, requestedProfile⟩).mapError .lifecycle
  | getConfiguration nodeAddress =>
    .configuration <$> (ConfigurationOperation.new nodeAddress .get).mapError .configuration
  | validateConfiguration nodeAddress configuration =>
    .configuration <$> (ConfigurationOperation.new nodeAddress
      (.validate configuration)).mapError .configuration
  | applyConfiguration nodeAddress expectedRevision configuration =>
    .configuration <$> (ConfigurationOperation.new nodeAddress
      (.apply ⟨operationId, expectedRevision, configuration⟩)).mapError .configuration
  | resetConfiguration nodeAddress expectedRevision =>
    .configuration <$> (ConfigurationOperation.new nodeAddress
      (.reset operationId expectedRevision)).mapError .configuration
  | commissioningProbe request =>
    .commissioning <$> (CommissioningOperation.new (.probe request)).mapError .commissioning
  | commissioningAssignment roundNonce hardwareId nodeAddress =>
    .commissioning <$> (CommissioningOperation.new
      (.assign ⟨operationId, roundNonce, hardwareId, nodeAddress⟩)).mapError .commissioning
  | handshake requirements => .ok (.handshake { requirements })
  | streamState nodeAddress =>
    if ChannelAgent.isUnaddressed nodeAddress then
      .error (.invalidStreamStateNodeAddress nodeAddress)
    else .ok (.streamState nodeAddress)
  | timeSync nodeAddress expectedBootEpoch =>
    if ChannelAgent.isUnaddressed nodeAddress then .error (.invalidTimeNodeAddress nodeAddress)
    else if expectedBootEpoch = 0 then .error .zeroTimeBootEpoch
    else .ok (.timeSync { nodeAddress, expectedBootEpoch })
  | telemetry nodeAddress =>
    if ChannelAgent.isUnaddressed nodeAddress then
      .error (.invalidTelemetryNodeAddress nodeAddress)
    else .ok (.telemetry nodeAddress)
  | measurement transfer => .ok (.measurement transfer)

inductive AgentCall where
  | submit (submission : Submission)
  | poll (now : MonotonicMicros)
  | takeOutbound
  | transmitCompleted (now : MonotonicMicros)
  | transmitFailed (now : MonotonicMicros)
  | receive (now : MonotonicMicros) (frame : Frame)
  | takeCompletedMeasurement
  | abandonControlWork (key : ControlWorkKey)

namespace ChannelAgent

def submit (agent : ChannelAgent) : Submission → ChannelAgent
  | .lifecycle nodeAddress operation requestedProfile =>
    (agent.submitLifecycle nodeAddress operation requestedProfile).2
  | .getConfiguration nodeAddress => (agent.submitGetConfiguration nodeAddress).2
  | .validateConfiguration nodeAddress configuration =>
    (agent.submitValidateConfiguration nodeAddress configuration).2
  | .applyConfiguration nodeAddress expectedRevision configuration =>
    (agent.submitApplyConfiguration nodeAddress expectedRevision configuration).2
  | .resetConfiguration nodeAddress expectedRevision =>
    (agent.submitResetConfiguration nodeAddress expectedRevision).2
  | .commissioningProbe request => (agent.submitCommissioningProbe request).2
  | .commissioningAssignment roundNonce hardwareId nodeAddress =>
    (agent.submitCommissioningAssignment roundNonce hardwareId nodeAddress).2
  | .handshake requirements => (agent.submitHandshake requirements).2
  | .streamState nodeAddress => (agent.submitStreamState nodeAddress).2
  | .timeSync nodeAddress expectedBootEpoch =>
    (agent.submitTimeSync nodeAddress expectedBootEpoch).2
  | .telemetry nodeAddress => (agent.submitTelemetry nodeAddress).2
  | .measurement transfer => (agent.submitMeasurement transfer).2

/-- The agent after a call. -/
def call (agent : ChannelAgent) : AgentCall → ChannelAgent
  | .submit submission => agent.submit submission
  | .poll now => (agent.poll now).2
  | .takeOutbound => agent.takeOutbound.2
  | .transmitCompleted now => (agent.transmitCompleted now).2
  | .transmitFailed now => (agent.transmitFailed now).2
  | .receive now frame => (agent.receive now frame).2
  | .takeCompletedMeasurement => agent.takeCompletedMeasurement.2
  | .abandonControlWork key => (agent.abandonControlWork key).2

variable {agent : ChannelAgent} {active : ActiveWork} {now : MonotonicMicros}

/-- At most one piece of work joins the end of the queue. -/
def Enqueues (agent : ChannelAgent) (submission : Submission) (after : ChannelAgent) : Prop :=
  ∃ nextOperationId, after = { agent with nextOperationId } ∨
    ∃ operationId work, submission.work operationId = .ok work ∧
      after = { agent with pending := agent.pending ++ [work], nextOperationId }

variable (agent)

theorem Enqueues.refl (submission : Submission) :
    agent.Enqueues submission agent := ⟨_, .inl rfl⟩

theorem submitWork_enqueues (submission : Submission)
    (operationId : UInt32) :
    agent.Enqueues submission (agent.submitWork (submission.work operationId)).2 := by
  unfold submitWork
  split
  · exact .refl agent submission
  split
  · exact .refl agent submission
  rename_i work built
  exact ⟨_, .inr ⟨operationId, work, built, rfl⟩⟩

theorem allocateLoop_eq (rounds : Nat) :
    ∃ nextOperationId, (agent.allocateLoop rounds).2 = { agent with nextOperationId } := by
  induction rounds generalizing agent with
  | zero => exact ⟨_, rfl⟩
  | succ rounds ih =>
    simp only [allocateLoop]
    split_ifs
    all_goals first | exact ⟨_, rfl⟩ | exact ih _

theorem submitOperation_enqueues (submission : Submission) :
    agent.Enqueues submission (agent.submitOperation submission.work).2 := by
  obtain ⟨nextOperationId, same⟩ :=
    allocateLoop_eq agent (agent.policy.maxPendingWorkItems + 1)
  unfold submitOperation
  split
  · exact .refl agent submission
  split <;> rename_i allocates <;> rw [allocateOperationId] at allocates <;>
    rw [allocates] at same <;> cases same
  · exact ⟨_, .inl rfl⟩
  rename_i operationId
  split
  · exact ⟨_, .inl rfl⟩
  rename_i work built
  exact ⟨_, .inr ⟨operationId, work, built, rfl⟩⟩

theorem submitConfiguration_enqueues (submission : Submission)
    {operation : Except ConfigurationError ConfigurationOperation}
    (same : submission.work 0 = .configuration <$> operation.mapError .configuration) :
    agent.Enqueues submission (agent.submitConfiguration operation).2 := by
  unfold submitConfiguration
  split
  · exact .refl agent submission
  have enqueues := submitWork_enqueues agent submission 0
  rwa [same] at enqueues

theorem submit_enqueues (submission : Submission) :
    agent.Enqueues submission (agent.submit submission) := by
  cases submission with
  | lifecycle | applyConfiguration | resetConfiguration | commissioningAssignment =>
    exact submitOperation_enqueues agent _
  | getConfiguration | validateConfiguration => exact submitConfiguration_enqueues agent _ rfl
  | commissioningProbe | handshake | streamState | timeSync | telemetry | measurement =>
    exact submitWork_enqueues agent _ 0

variable {agent}

/-- An attempt of the active work is on its way to the transmitter. -/
structure Starts (agent : ChannelAgent) (active : ActiveWork) (after : ChannelAgent) : Prop where
  core : ∃ prepared, agent.transactions.Prepares prepared after.transactions
  work : ∃ request payload begun,
    active.work.Begins agent.policy.transactionTimeout request payload begun ∧
      after.active = some (active.started begun)
  outbound : after.outbound.isSome
  same : after = { agent with
    transactions := after.transactions, active := after.active, outbound := after.outbound }

variable {payload : List UInt8} {request : WireRequest} {pending : List PendingWork}

theorem transmit_of_addressable (agent : ChannelAgent) (idle : agent.transactions.state = .idle)
    (addressable : request.Addressable) (fits : payload.length ≤ Framing.maxPayloadBytes) :
    ∃ prepared core frame, agent.transactions.Prepares prepared core ∧
      agent.transmit request payload =
        (.ok .transmitReady, { agent with transactions := core, outbound := some frame }) := by
  obtain ⟨prepared, core, prepares, destination, state⟩ :=
    prepareWire_eq_ok idle addressable
  obtain ⟨frame, framed⟩ := PreparedTransaction.requestFrame_eq_ok destination fits
  refine ⟨prepared, core, frame, state, ?_⟩
  simp only [transmit, prepares, framed]

theorem transmit_of_not_addressable (unaddressable : ¬ request.Addressable) :
    (agent.transmit request payload).2 = agent := by
  rw [transmit]
  split
  · rfl
  rename_i done
  exact absurd (addressable_of_prepareWire done).1 unaddressable

/-- Work that can start does when its time has come. -/
theorem startAttempt_of_canStart (idle : agent.transactions.state = .idle)
    (due : active.retryNotBefore ≤ now)
    (canStart : active.work.CanStart agent.policy.transactionTimeout) :
    (agent.startAttempt active now).1 = .ok .transmitReady ∧
      agent.Starts active (agent.startAttempt active now).2 := by
  obtain ⟨request, payload, begun, begins⟩ := canStart
  obtain ⟨prepared, core, frame, prepares, transmits⟩ := transmit_of_addressable
    { agent with active := some (active.started begun) } idle begins.addressable
    (PendingWork.length_of_beginAttempt begins.begins)
  have started : agent.startAttempt active now = (.ok .transmitReady, { agent with
      active := some (active.started begun), transactions := core, outbound := some frame }) := by
    rw [startAttempt, if_neg, if_neg]
    · simp only [begins.begins, transmits]
    · simp only [begins.attemptable, Bool.false_eq_true, not_false_eq_true]
    · simp only [isIdle, idle, beq_self_eq_true, not_true_eq_false, or_false,
        UInt64.not_lt, due]
  rw [started]
  exact ⟨rfl, ⟨prepared, prepares⟩, ⟨request, payload, begun, begins, rfl⟩, rfl, rfl⟩

theorem startAttempt_cases (agent : ChannelAgent) (active : ActiveWork) (now : MonotonicMicros) :
    agent.Starts active (agent.startAttempt active now).2 ∨
      ∃ last, (agent.startAttempt active now).2 = { agent with active := some last } ∧
        (last = active ∨ ¬ active.work.CanStart agent.policy.transactionTimeout) := by
  by_cases canStart : active.work.CanStart agent.policy.transactionTimeout
  · by_cases ready : agent.transactions.state = .idle ∧ active.retryNotBefore ≤ now
    · exact .inl (startAttempt_of_canStart ready.1 ready.2 canStart).2
    refine .inr ⟨active, ?_, .inl rfl⟩
    rw [startAttempt, if_pos]
    simp only [isIdle, beq_iff_eq]
    rw [not_and_or, UInt64.not_le] at ready
    exact ready.symm
  right
  simp only [startAttempt]
  split_ifs with waits attemptable
  · exact ⟨active, rfl, .inl rfl⟩
  · exact ⟨active, rfl, .inl rfl⟩
  split
  · exact ⟨active, rfl, .inl rfl⟩
  rename_i request payload begun begins
  have unaddressable : ¬ request.Addressable := fun addressable =>
    canStart ⟨request, payload, begun, by simpa using attemptable, begins, addressable⟩
  refine ⟨active.started begun, ?_, .inr canStart⟩
  rw [transmit_of_not_addressable unaddressable]

/-- Where work is after a failed attempt: active, over, or with its owner. -/
inductive Placed (completed : Option MeasurementTransfer) (work : PendingWork)
    (after : ChannelAgent) : Prop where
  | active (last : ActiveWork) (held : after.active = some last) (same : last.work = work)
      (unchanged : after.completedMeasurement = completed)
  | ended (free : after.active = none) (once : work.isProbe ∨ work.isSingleAttempt)
      (unchanged : after.completedMeasurement = completed)
  | handedOff (transfer : MeasurementTransfer) (free : after.active = none)
      (same : work = .measurement transfer) (owner : after.completedMeasurement = some transfer)

structure Returns (agent : ChannelAgent) (work : PendingWork) (after : ChannelAgent) : Prop where
  placed : Placed agent.completedMeasurement work after
  same : after = { agent with
    active := after.active, completedMeasurement := after.completedMeasurement }

theorem scheduleRetry_returns (agent : ChannelAgent) (active : ActiveWork)
    (now : MonotonicMicros) (event : ChannelEvent) :
    agent.Returns active.work (agent.scheduleRetry active now event).2 := by
  rw [scheduleRetry]
  split
  · exact ⟨.active _ rfl rfl rfl, rfl⟩
  rename_i retryNotBefore sum
  simp only
  split_ifs with spent single
  · obtain ⟨isMeasurement, -⟩ := Bool.and_eq_true_iff.mp spent
    obtain ⟨work, earlier, attempts⟩ := active
    cases work with
    | measurement transfer =>
      simp only [handoffExhausted, handoffActiveMeasurement, handoff]
      split_ifs <;> exact ⟨.handedOff transfer rfl rfl rfl, rfl⟩
    | _ => cases isMeasurement
  · exact ⟨.ended rfl (.inr single) rfl, rfl⟩
  · exact ⟨.active _ rfl rfl rfl, rfl⟩

/-- The work in flight is told that its time is over. -/
def Tells (agent after : ChannelAgent) : Prop :=
  ∃ active told, agent.active = some active ∧ active.work.markTimeout = .ok told ∧
    Placed agent.completedMeasurement told after

theorem timedOut_returns (agent : ChannelAgent) (now : MonotonicMicros)
    (held : agent.active = some active)
    (inFlight : active.work.InFlight agent.policy.transactionTimeout) :
    ∃ told, active.work.markTimeout = .ok told ∧
      (told.isProbe = false → told.CanStart agent.policy.transactionTimeout) ∧
      agent.Returns told (agent.timedOut now).2 ∧
      (told.isProbe → (agent.timedOut now).2.active = none) := by
  obtain ⟨told, marked, same, canStart⟩ := inFlight.markTimeout
  refine ⟨told, marked, fun repeated => canStart (same ▸ repeated), ?_⟩
  simp only [timedOut, held, marked]
  split_ifs with probe
  · exact ⟨⟨.ended rfl (.inl probe) rfl, rfl⟩, fun _ => rfl⟩
  · exact ⟨scheduleRetry_returns agent { active with work := told } now _,
      fun isProbe => absurd isProbe probe⟩

/-- What every response leaves as it is. -/
structure Leaves (agent after : ChannelAgent) : Prop where
  same : after = { agent with
    active := after.active, completedMeasurement := after.completedMeasurement }
  owner : agent.completedMeasurement = none → after.completedMeasurement.isSome →
    after.active = none

variable (agent)

theorem Leaves.refl : agent.Leaves agent := by
  refine ⟨rfl, fun free handed => ?_⟩
  rw [free] at handed
  cases handed

theorem finish_leaves (result : Except ChannelAgentError ChannelEvent) :
    agent.Leaves (agent.finish result).2 :=
  ⟨rfl, fun _ _ => rfl⟩

theorem keep_leaves (active : ActiveWork) (work : PendingWork)
    (result : Except ChannelAgentError ChannelEvent) :
    agent.Leaves (agent.keep active work result).2 := by
  refine ⟨rfl, fun free handed => ?_⟩
  rw [show (agent.keep active work result).2.completedMeasurement = none from free] at handed
  cases handed

theorem delay_leaves (active : ActiveWork) (work : PendingWork)
    (now : MonotonicMicros) (event : ChannelEvent) :
    agent.Leaves (agent.delay active work now event).2 := by
  unfold delay
  split <;> exact keep_leaves agent _ work _

theorem handoff_leaves (transfer : MeasurementTransfer) :
    agent.Leaves (agent.handoff transfer).2 := by
  unfold handoff
  split <;> exact ⟨rfl, fun _ _ => rfl⟩

variable {agent}

variable {after : ChannelAgent}

theorem Returns.leaves {work : PendingWork} (returns : agent.Returns work after) :
    agent.Leaves after := by
  refine ⟨returns.same, fun free handed => ?_⟩
  cases returns.placed with
  | active last held same unchanged =>
    rw [unchanged, free] at handed
    cases handed
  | ended gone once unchanged => exact gone
  | handedOff transfer gone same owner => exact gone

theorem acceptResponse_leaves (agent : ChannelAgent) (now : MonotonicMicros)
    (payload : List UInt8) : agent.Leaves (agent.acceptResponse now payload).2 := by
  unfold acceptResponse
  split
  · exact .refl agent
  rename_i active held
  split
  · unfold receiveHandshake
    simp only
    split
    · exact .refl agent
    split
    · split
      · exact finish_leaves agent _
      · exact keep_leaves agent _ _ _
    · exact keep_leaves agent _ _ _
  · unfold receiveStreamState
    split
    · exact finish_leaves agent _
    · exact delay_leaves agent _ _ _ _
    · exact finish_leaves agent _
  · unfold receiveLifecycle
    split
    · exact keep_leaves agent _ _ _
    · exact delay_leaves agent _ _ _ _
    · exact delay_leaves agent _ _ _ _
    · exact finish_leaves agent _
  · unfold receiveConfiguration
    split
    · exact keep_leaves agent _ _ _
    · exact delay_leaves agent _ _ _ _
    · exact finish_leaves agent _
  · unfold receiveCommissioning
    split
    · exact keep_leaves agent _ _ _
    · split
      · exact keep_leaves agent _ _ _
      · exact delay_leaves agent _ _ _ _
    · exact finish_leaves agent _
  · unfold receiveMeasurement
    split
    · exact keep_leaves agent _ _ _
    · exact (scheduleRetry_returns agent _ _ _).leaves
    · rename_i transfer _ _
      have left := handoff_leaves agent transfer
      split <;> rename_i handed <;> rw [handed] at left <;> exact left
  · exact finish_leaves agent _
  · exact finish_leaves agent _

/-- What happens to the active work and its wire attempts. -/
inductive AttemptEvent where
  | activated
  | started
  | accepted
  | failed
  | expired
  | timedOut
  | released
deriving DecidableEq

/-- Events of the transaction core. -/
def coreEvents : TransactionState → TransactionState → List AttemptEvent
  | .idle, .transmitting _ => [.started]
  | .transmitting _, .idle => [.failed]
  | .awaiting _, .idle => [.accepted]
  | .awaiting _, .quarantine _ _ => [.expired]
  | .quarantine _ _, .idle => [.released]
  | _, _ => []

/-- The events of a call. Only a poll activates work or tells it of a timeout. -/
def observed (agent : ChannelAgent) (call : AgentCall) : List AttemptEvent :=
  let after := agent.call call
  let events := coreEvents agent.transactions.state after.transactions.state
  match call with
  | .poll _ =>
    (if agent.active.isNone ∧ after.active.isSome then [.activated] else []) ++ events ++
      if events = [.expired] ∧ agent.active.any (·.work.markTimeout.isOk) then [.timedOut] else []
  | _ => events

/-- The core has an attempt that is neither answered nor expired. -/
def Busy (agent : ChannelAgent) : Prop :=
  (∃ prepared, agent.transactions.state = .transmitting prepared) ∨
    ∃ transaction, agent.transactions.state = .awaiting transaction

/-- The active work is in step with the transaction core. -/
structure InStep (agent : ChannelAgent) : Prop where
  inFlight : agent.Busy → ∃ active, agent.active = some active ∧
    active.work.InFlight agent.policy.transactionTimeout
  bounded : ∀ transaction, agent.transactions.state = .awaiting transaction →
    transaction.deadline.toNat + agent.transactions.quarantineDuration.value.toNat < 2 ^ 64
  outbound : agent.outbound.isSome → ∃ prepared, agent.transactions.state = .transmitting prepared
  owner : agent.completedMeasurement.isSome → agent.active = none

/-- A frame is in time, and the times of an attempt can be represented. -/
def Punctual (agent : ChannelAgent) : AgentCall → Prop
  | .receive now _ => ∀ transaction, agent.transactions.state = .awaiting transaction →
    now ≤ transaction.deadline
  | .transmitCompleted now => ∀ prepared, agent.transactions.state = .transmitting prepared →
    now.toNat + prepared.timeout.value.toNat +
      agent.transactions.quarantineDuration.value.toNat < 2 ^ 64
  | _ => True

/-- The work whose attempt is next, and the queue behind it. -/
inductive Next (agent : ChannelAgent) : ActiveWork → List PendingWork → List AttemptEvent → Prop
  | retried (active : ActiveWork) (held : agent.active = some active) :
    Next agent active agent.pending []
  | activated (work : PendingWork) (pending : List PendingWork) (now : MonotonicMicros)
      (free : agent.active = none) (queue : agent.pending = work :: pending) :
    Next agent ⟨work, now, 0⟩ pending [.activated]

inductive Step (agent : ChannelAgent) (call : AgentCall) :
    ChannelAgent → List AttemptEvent → Prop
  | kept (pending : List PendingWork) (fewer : ∀ work ∈ pending, work ∈ agent.pending)
      (nextOperationId : UInt32) : Step agent call { agent with pending, nextOperationId } []
  | submitted (submission : Submission) (operationId : UInt32) (work : PendingWork)
      (made : call = .submit submission) (built : submission.work operationId = .ok work)
      (nextOperationId : UInt32) :
    Step agent call { agent with pending := agent.pending ++ [work], nextOperationId } []
  | taken : Step agent call { agent with outbound := none } []
  | handedOver : Step agent call { agent with completedMeasurement := none } []
  | abandoned (idle : agent.transactions.state = .idle) :
    Step agent call { agent with active := none } []
  | waited (active : ActiveWork) (pending : List PendingWork) (events : List AttemptEvent)
      (next : agent.Next active pending events) (calm : ¬ agent.Busy)
      (free : agent.completedMeasurement = none) (last : ActiveWork)
      (same : last = active ∨ ¬ active.work.CanStart agent.policy.transactionTimeout) :
    Step agent call { agent with pending, active := some last } events
  | started (active : ActiveWork) (pending : List PendingWork) (events : List AttemptEvent)
      (next : agent.Next active pending events) (free : agent.completedMeasurement = none)
      (after : ChannelAgent) (starts : Starts { agent with pending } active after) :
    Step agent call after (events ++ [.started])
  | transmitted (prepared : PreparedTransaction) (transaction : ActiveTransaction)
      (now : MonotonicMicros) (transmitting : agent.transactions.state = .transmitting prepared)
      (bounded : transaction.deadline.toNat +
        agent.transactions.quarantineDuration.value.toNat < 2 ^ 64)
      (outbound : agent.outbound = none) :
    Step agent call { agent with
      transactions := { agent.transactions with state := .awaiting transaction }
      active := agent.active.map fun active => { active with work := active.work.sent now } } []
  | failed (prepared : PreparedTransaction) (active : ActiveWork) (told : PendingWork)
      (after : ChannelAgent) (transmitting : agent.transactions.state = .transmitting prepared)
      (held : agent.active = some active) (marked : active.work.markTransmitFailed = .ok told)
      (canStart : told.CanStart agent.policy.transactionTimeout)
      (returns : Returns { agent with
        transactions := { agent.transactions with state := .idle }, outbound := none } told after) :
    Step agent call after [.failed]
  | accepted (transaction : ActiveTransaction) (now : MonotonicMicros) (frame : Frame)
      (made : call = .receive now frame)
      (awaiting : agent.transactions.state = .awaiting transaction)
      (inTime : now ≤ transaction.deadline) (matched : transaction.matchesFrame frame) :
    Step agent call ({ agent with transactions := { agent.transactions with state := .idle } }
      |>.acceptResponse now frame.payload).2 [.accepted]
  | expired (core : TransactionCore) (now : MonotonicMicros) (active : ActiveWork)
      (told : PendingWork) (after : ChannelAgent) (expires : agent.transactions.Expires now core)
      (held : agent.active = some active) (marked : active.work.markTimeout = .ok told)
      (canStart : told.isProbe = false → told.CanStart agent.policy.transactionTimeout)
      (returns : Returns { agent with transactions := core } told after)
      (once : told.isProbe → after.active = none) :
    Step agent call after [.expired, .timedOut]
  | released (expired : ActiveTransaction) (until_ : MonotonicMicros)
      (waiting : agent.transactions.state = .quarantine expired until_) :
    Step agent call { agent with transactions :=
      { agent.transactions with state := .idle } } [.released]

theorem Step.refl (agent : ChannelAgent) (call : AgentCall) : agent.Step call agent [] :=
  .kept agent.pending (fun _ member => member) agent.nextOperationId

@[simp] theorem coreEvents_self (state : TransactionState) : coreEvents state state = [] := by
  cases state <;> rfl

theorem transmitCompleted_step (punctual : agent.Punctual (.transmitCompleted now)) :
    agent.Step (.transmitCompleted now) (agent.call (.transmitCompleted now))
      (agent.observed (.transmitCompleted now)) := by
  simp only [observed, call, transmitCompleted]
  split_ifs with waits
  · rw [coreEvents_self]
    exact .refl agent _
  rw [Bool.not_eq_true, isSome_eq_false_iff, isNone_iff_eq_none] at waits
  split
  · rw [coreEvents_self]
    exact .refl agent _
  rename_i transaction core done
  obtain ⟨prepared, transmitting, -, deadline, rfl⟩ :=
    markTransmitted_eq_ok done
  have bounded := punctual prepared transmitting
  rw [transmitting]
  exact .transmitted prepared transaction now transmitting (by omega) waits

theorem transmitFailed_step (inStep : agent.InStep) :
    agent.Step (.transmitFailed now) (agent.call (.transmitFailed now))
      (agent.observed (.transmitFailed now)) := by
  simp only [observed, call, transmitFailed]
  split
  · rw [coreEvents_self]
    exact .taken
  rename_i core done
  obtain ⟨rfl, prepared, transmitting⟩ := cancelTransmit_eq_ok done
  obtain ⟨active, held, inFlight⟩ := inStep.inFlight (.inl ⟨prepared, transmitting⟩)
  obtain ⟨told, marked, canStart⟩ := inFlight.markTransmitFailed
  have returns := scheduleRetry_returns { agent with
    transactions := { agent.transactions with state := .idle }, outbound := none }
      { active with work := told } now (.wireAttemptFailed told.nodeAddress)
  split
  · rename_i none_
    rw [held] at none_
    cases none_
  rename_i found same
  cases held.symm.trans same
  simp only [marked]
  have events : coreEvents agent.transactions.state
      (scheduleRetry { agent with
        transactions := { agent.transactions with state := .idle }, outbound := none }
          { active with work := told } now
          (.wireAttemptFailed told.nodeAddress)).2.transactions.state = [.failed] := by
    rw [returns.same, transmitting]
    rfl
  rw [events]
  exact .failed prepared active told _ transmitting held marked canStart returns

theorem receive_step {frame : Frame} (punctual : agent.Punctual (.receive now frame)) :
    agent.Step (.receive now frame) (agent.call (.receive now frame))
      (agent.observed (.receive now frame)) := by
  have unchanged {disposition : ResponseDisposition} {core : TransactionCore}
      (done : agent.transactions.receive now frame = .ok (disposition, core))
      (refused : disposition ≠ .accepted) : core = agent.transactions := by
    obtain ⟨accepted, -⟩ | ⟨-, same | ⟨transaction, until_, awaiting, passed, -⟩⟩ :=
      receive_eq_ok done
    · exact absurd accepted refused
    · exact same
    · exact absurd (punctual transaction awaiting) (UInt64.not_le.mpr passed)
  simp only [observed, call, receive]
  split
  · rw [coreEvents_self]
    exact .refl agent _
  · rename_i core done
    obtain rfl := unchanged done nofun
    rw [coreEvents_self]
    exact .refl agent _
  · rename_i core done
    obtain rfl := unchanged done nofun
    rw [coreEvents_self]
    exact .refl agent _
  · rename_i core done
    obtain rfl := unchanged done nofun
    rw [coreEvents_self]
    exact .refl agent _
  · rename_i core done
    obtain ⟨-, transaction, awaiting, inTime, matched, rfl⟩ | ⟨refused, -⟩ :=
      receive_eq_ok done
    · have left := acceptResponse_leaves { agent with
        transactions := { agent.transactions with state := .idle } } now frame.payload
      have events : coreEvents agent.transactions.state
          (acceptResponse { agent with
            transactions := { agent.transactions with state := .idle } } now
              frame.payload).2.transactions.state = [.accepted] := by
        rw [left.same, awaiting]
        rfl
      rw [events]
      exact .accepted transaction now frame rfl awaiting inTime matched
    · exact absurd rfl refused

theorem abandonControlWork_step (key : ControlWorkKey) :
    agent.Step (.abandonControlWork key) (agent.call (.abandonControlWork key))
      (agent.observed (.abandonControlWork key)) := by
  simp only [observed, call, abandonControlWork]
  split_ifs with matched busy
  · rw [coreEvents_self]
    exact .refl agent _
  · rw [coreEvents_self]
    rw [not_or, not_not, isIdle, beq_iff_eq] at busy
    exact .abandoned busy.2
  split
  · rw [coreEvents_self]
    exact .refl agent _
  rw [coreEvents_self]
  exact .kept _ (fun _ member => List.mem_of_mem_eraseIdx member) _

/-- A poll that leaves the agent as it is. -/
theorem poll_step_of_eq (same : agent.call (.poll now) = agent) :
    agent.Step (.poll now) (agent.call (.poll now)) (agent.observed (.poll now)) := by
  have events : agent.observed (.poll now) = [] := by
    simp only [observed, same, coreEvents_self]
    cases agent.active <;> simp
  rw [events, same]
  exact .refl agent _

/-- A poll with nothing to send or hand over looks at the timer. -/
theorem poll_eq (outbound : agent.outbound = none) (free : agent.completedMeasurement = none) :
    agent.poll now = match agent.transactions.onTimer now with
      | .error error => (.error (.transaction error), agent)
      | .ok (.timedOut _ _ _, transactions) => { agent with transactions }.timedOut now
      | .ok (.quarantineEnded, transactions) =>
        (.ok .quarantineEnded, { agent with transactions })
      | .ok (.none, transactions) => { agent with transactions }.nextAttempt now := by
  cases agent
  subst outbound free
  rfl

variable {events : List AttemptEvent}

theorem Next.activation (next : agent.Next active pending events) (after : ChannelAgent)
    (held : after.active.isSome) :
    (if agent.active.isNone ∧ after.active.isSome then [AttemptEvent.activated] else []) =
      events := by
  cases next with
  | retried active holds => rw [holds, if_neg (by simp)]
  | activated work pending now free queue => rw [free, if_pos ⟨rfl, held⟩]

theorem attempt_step (calm : ¬ agent.Busy) (free : agent.completedMeasurement = none)
    (next : agent.Next active pending events)
    (polled : agent.call (.poll now) = (startAttempt { agent with pending } active now).2) :
    agent.Step (.poll now) (agent.call (.poll now)) (agent.observed (.poll now)) := by
  obtain starts | ⟨last, waits, kept⟩ := startAttempt_cases { agent with pending } active now
  · rw [← polled] at starts
    obtain ⟨prepared, prepares⟩ := starts.core
    obtain ⟨request, payload, begun, begins, held⟩ := starts.work
    have changed : coreEvents agent.transactions.state
        (agent.call (.poll now)).transactions.state = [.started] := by
      rw [show agent.transactions.state = .idle from prepares.idle, prepares.state]
      rfl
    have activation := next.activation (agent.call (.poll now)) (by rw [held]; rfl)
    have all : agent.observed (.poll now) = events ++ [.started] := by
      simp only [observed, activation, changed]
      simp
    rw [all]
    exact .started active pending events next free _ starts
  · rw [waits] at polled
    have activation := next.activation (agent.call (.poll now)) (by rw [polled]; rfl)
    have all : agent.observed (.poll now) = events := by
      simp only [observed, activation]
      rw [polled, coreEvents_self]
      simp
    rw [all, polled]
    exact .waited active pending events next calm free last kept

theorem nextAttempt_step (calm : ¬ agent.Busy) (free : agent.completedMeasurement = none)
    (polled : agent.call (.poll now) = (agent.nextAttempt now).2) :
    agent.Step (.poll now) (agent.call (.poll now)) (agent.observed (.poll now)) := by
  rw [nextAttempt] at polled
  split at polled
  · rename_i active held
    exact attempt_step calm free (.retried active held) polled
  · exact poll_step_of_eq polled
  · rename_i work pending none_ queue
    exact attempt_step calm free (.activated work pending now none_ queue) polled

/-- An attempt that is not answered yet is left alone. -/
theorem nextAttempt_of_busy (busy : agent.transactions.state ≠ .idle)
    (held : agent.active = some active) : agent.nextAttempt now = (.ok .idle, agent) := by
  have waits : ¬ agent.transactions.isIdle := by
    rwa [isIdle, beq_iff_eq]
  rw [nextAttempt, held]
  simp only [startAttempt]
  rw [if_pos (.inr waits), ← held]

/-- Work outside of its sending phases keeps an idle channel. -/
theorem poll_of_waits (outbound : agent.outbound = none) (free : agent.completedMeasurement = none)
    (idle : agent.transactions.state = .idle) (waits : agent.active.any (·.work.waits)) :
    agent.poll now = (.ok .idle, agent) := by
  obtain ⟨active, held⟩ : ∃ active, agent.active = some active := by
    cases held : agent.active with
    | none =>
      rw [held] at waits
      cases waits
    | some active => exact ⟨active, rfl⟩
  rw [held, any_some] at waits
  rw [poll_eq outbound free]
  simp only [onTimer, idle]
  rw [nextAttempt, held]
  simp only [startAttempt, waits, if_true, ite_self]
  rw [← held]

variable (inStep : agent.InStep)

include inStep

theorem InStep.outbound_eq_none
    (other : ∀ prepared, agent.transactions.state ≠ .transmitting prepared) :
    agent.outbound = none := by
  by_contra outbound
  obtain ⟨prepared, transmitting⟩ := inStep.outbound (isSome_iff_ne_none.mpr outbound)
  exact other prepared transmitting

theorem InStep.completed_eq_none (held : agent.active = some active) :
    agent.completedMeasurement = none := by
  by_contra completed
  have free := inStep.owner (isSome_iff_ne_none.mpr completed)
  rw [held] at free
  cases free

/-- A poll after the deadline tells the work. -/
theorem poll_of_passed {transaction : ActiveTransaction}
    (awaiting : agent.transactions.state = .awaiting transaction)
    (passed : transaction.deadline < now) :
    ∃ core active told, agent.transactions.Expires now core ∧ agent.active = some active ∧
      active.work.markTimeout = .ok told ∧
      (told.isProbe = false → told.CanStart agent.policy.transactionTimeout) ∧
      Returns { agent with transactions := core } told (agent.call (.poll now)) ∧
      (told.isProbe → (agent.call (.poll now)).active = none) ∧
      agent.observed (.poll now) = [.expired, .timedOut] := by
  obtain ⟨active, held, inFlight⟩ := inStep.inFlight (.inr ⟨transaction, awaiting⟩)
  have outbound := inStep.outbound_eq_none (by simp [awaiting])
  have polled : agent.call (.poll now) = (agent.poll now).2 := rfl
  rw [poll_eq outbound (inStep.completed_eq_none held)] at polled
  obtain ⟨until_, core, fires, expires⟩ :=
    onTimer_of_passed awaiting passed (inStep.bounded transaction awaiting)
  simp only [fires] at polled
  obtain ⟨told, marked, canStart, returns, once⟩ :=
    timedOut_returns { agent with transactions := core } now held inFlight
  rw [← polled] at returns once
  have changed : coreEvents agent.transactions.state
      (agent.call (.poll now)).transactions.state = [.expired] := by
    obtain ⟨found, until_, awaiting, -, -, rfl⟩ := expires.passed
    rw [returns.same, awaiting]
    rfl
  refine ⟨core, active, told, expires, held, marked, canStart, returns, once, ?_⟩
  simp only [observed, changed, held, any_some, marked]
  rfl

theorem poll_step :
    agent.Step (.poll now) (agent.call (.poll now)) (agent.observed (.poll now)) := by
  by_cases outbound : agent.outbound = none
  · by_cases free : agent.completedMeasurement = none
    · have polled : agent.call (.poll now) = (agent.poll now).2 := rfl
      rw [poll_eq outbound free] at polled
      cases state : agent.transactions.state with
      | idle =>
        simp only [onTimer, state] at polled
        exact nextAttempt_step (by simp [Busy, state]) free polled
      | transmitting prepared =>
        obtain ⟨active, held, -⟩ := inStep.inFlight (.inl ⟨prepared, state⟩)
        simp only [onTimer, state] at polled
        rw [nextAttempt_of_busy (by rw [state]; rintro ⟨⟩) held] at polled
        exact poll_step_of_eq polled
      | awaiting transaction =>
        obtain ⟨active, held, -⟩ := inStep.inFlight (.inr ⟨transaction, state⟩)
        by_cases passed : transaction.deadline < now
        · obtain ⟨core, active, told, expires, held, marked, canStart, returns, once, events⟩ :=
            poll_of_passed inStep state passed
          rw [events]
          exact .expired core now active told _ expires held marked canStart returns once
        simp only [onTimer, state, UInt64.not_lt.mp passed, if_true] at polled
        rw [nextAttempt_of_busy (by rw [state]; rintro ⟨⟩) held] at polled
        exact poll_step_of_eq polled
      | quarantine expired until_ =>
        by_cases waiting : now < until_
        · simp only [onTimer, state, waiting, if_true] at polled
          exact nextAttempt_step (by simp [Busy, state]) free polled
        simp only [onTimer, state, waiting, if_false] at polled
        have all : agent.observed (.poll now) = [.released] := by
          simp only [observed, polled, state]
          cases agent.active <;> simp [coreEvents]
        rw [all, polled]
        exact .released expired until_ state
    · obtain ⟨transfer, completed⟩ := ne_none_iff_exists'.mp free
      refine poll_step_of_eq ?_
      simp only [call, poll, outbound, completed]
      rfl
  · refine poll_step_of_eq ?_
    rw [call, poll, if_pos (isSome_iff_ne_none.mpr outbound)]

/-- Every call of an agent in step does one of the steps above. -/
theorem call_step (call : AgentCall) (punctual : agent.Punctual call) :
    agent.Step call (agent.call call) (agent.observed call) := by
  cases call with
  | submit submission =>
    obtain ⟨nextOperationId, same | ⟨operationId, work, built, same⟩⟩ :=
      submit_enqueues agent submission
    · simp only [observed, ChannelAgent.call, same, coreEvents_self]
      exact .kept agent.pending (fun _ member => member) nextOperationId
    · simp only [observed, ChannelAgent.call, same, coreEvents_self]
      exact .submitted submission operationId work rfl built nextOperationId
  | poll now => exact poll_step inStep
  | takeOutbound =>
    simp only [observed, ChannelAgent.call, takeOutbound, coreEvents_self]
    exact .taken
  | transmitCompleted now => exact transmitCompleted_step punctual
  | transmitFailed now => exact transmitFailed_step inStep
  | receive now frame => exact receive_step punctual
  | takeCompletedMeasurement =>
    simp only [observed, ChannelAgent.call, takeCompletedMeasurement, coreEvents_self]
    exact .handedOver
  | abandonControlWork key => exact abandonControlWork_step key

omit inStep

theorem InStep.new {transactionSeed operationSeed : UInt32} {quarantineDuration : DurationMicros}
    {policy : ChannelPolicy}
    (built : new transactionSeed operationSeed quarantineDuration policy = .ok agent) :
    agent.InStep := by
  obtain ⟨checked, -, built⟩ := bind_eq_ok.mp built
  cases built
  refine ⟨?_, nofun, nofun, nofun⟩
  rintro (⟨prepared, impossible⟩ | ⟨transaction, impossible⟩) <;> cases impossible

/-- With a calm core only the handover is left to show. -/
theorem InStep.of_calm (calm : ¬ agent.Busy) (outbound : agent.outbound = none)
    (owner : agent.completedMeasurement.isSome → agent.active = none) : agent.InStep := by
  refine ⟨fun busy => absurd busy calm, ?_, ?_, owner⟩
  · intro transaction awaiting
    exact absurd (.inr ⟨transaction, awaiting⟩) calm
  · intro some_
    rw [outbound] at some_
    cases some_

/-- Work that has come back leaves a calm core. -/
theorem InStep.of_leaves (leaves : agent.Leaves after) (calm : ¬ agent.Busy)
    (outbound : agent.outbound = none) (free : agent.completedMeasurement = none) :
    after.InStep := by
  refine .of_calm ?_ ?_ (leaves.owner free)
  · rw [leaves.same]
    exact calm
  · rw [leaves.same]
    exact outbound

theorem InStep.step (inStep : agent.InStep) {call : AgentCall}
    (step : agent.Step call after events) : after.InStep := by
  cases step with
  | kept pending fewer nextOperationId => exact { inStep with }
  | submitted submission operationId work made built nextOperationId => exact { inStep with }
  | taken => exact { inStep with outbound := nofun }
  | handedOver => exact { inStep with owner := nofun }
  | abandoned idle =>
    refine .of_calm ?_ ?_ fun _ => rfl
    · simp [Busy, idle]
    · exact inStep.outbound_eq_none (by simp [idle])
  | waited active pending events next calm free last same =>
    refine .of_calm calm ?_ ?_
    · exact inStep.outbound_eq_none fun prepared transmitting =>
        calm (.inl ⟨prepared, transmitting⟩)
    · simp [free]
  | started active pending events next free after starts =>
    obtain ⟨prepared, prepares⟩ := starts.core
    obtain ⟨request, payload, begun, begins, held⟩ := starts.work
    have policy : after.policy = agent.policy := by rw [starts.same]
    have completed : after.completedMeasurement = none := by rw [starts.same]; exact free
    refine ⟨fun _ => ⟨_, held, ?_⟩, ?_, fun _ => ⟨prepared, prepares.state⟩, ?_⟩
    · rw [policy]
      exact begins.inFlight
    · intro transaction awaiting
      cases prepares.state.symm.trans awaiting
    · simp [completed]
  | transmitted prepared transaction now transmitting bounded outbound =>
    obtain ⟨active, held, inFlight⟩ := inStep.inFlight (.inl ⟨prepared, transmitting⟩)
    refine ⟨fun _ => ⟨{ active with work := active.work.sent now }, ?_, inFlight.sent now⟩,
      ?_, ?_, ?_⟩
    · rw [held]
      rfl
    · rintro found ⟨⟩
      exact bounded
    · simp [outbound]
    · simp [inStep.completed_eq_none held]
  | failed prepared active told after transmitting held marked canStart returns =>
    exact .of_leaves returns.leaves (by simp [Busy]) rfl (inStep.completed_eq_none held)
  | accepted transaction now frame made awaiting inTime matched =>
    obtain ⟨active, held, -⟩ := inStep.inFlight (.inr ⟨transaction, awaiting⟩)
    exact .of_leaves (acceptResponse_leaves _ now frame.payload) (by simp [Busy])
      (inStep.outbound_eq_none (by simp [awaiting])) (inStep.completed_eq_none held)
  | expired core now active told after expires held marked canStart returns once =>
    obtain ⟨transaction, until_, awaiting, -, -, rfl⟩ := expires.passed
    exact .of_leaves returns.leaves (by simp [Busy])
      (inStep.outbound_eq_none (by simp [awaiting])) (inStep.completed_eq_none held)
  | released expired until_ waiting =>
    refine .of_calm (by simp [Busy]) ?_ inStep.owner
    exact inStep.outbound_eq_none (by simp [waiting])

end ChannelAgent
end SensorSystem.Host
