import SensorSystem.Host.Channel.ControlOperations
import SensorSystem.Host.Channel.MeasurementTransfer
import SensorSystem.Host.Protocol.ObservationWire

/-! `channel_agent.rs`: the queue of work for one half-duplex channel and the one transaction it
has in flight. A call returns its result with the agent it leaves, since a failing call may
already have changed something. -/

namespace SensorSystem.Host

open Framing (Frame FrameError hostAddress broadcastAddress)

structure ChannelPolicy where
  transactionTimeout : DurationMicros
  retryDelay : DurationMicros
  measurementAttemptsPerSlot : UInt8
  maxPendingWorkItems : Nat

inductive ChannelEvent where
  | idle
  | transmitReady
  | handshakeProgress (nodeAddress : UInt8) (phase : HandshakePhase)
  | handshakeComplete (nodeAddress : UInt8) (identity : NodeIdentity)
      (capabilities : NodeCapabilities)
  | handshakeTimedOut (nodeAddress : UInt8) (phase : HandshakePhase)
  | streamState (nodeAddress : UInt8) (state : StreamState)
  | streamStateTimedOut (nodeAddress : UInt8)
  | streamStateNotAccepted (nodeAddress : UInt8)
  | measurementNotAccepted (nodeAddress : UInt8)
  | measurementNoData (nodeAddress : UInt8) (state : StreamState)
  | measurementPersistenceRequired (nodeAddress : UInt8) (kind : PersistenceKind)
  | measurementRecoveryRequired (nodeAddress : UInt8) (reason : RecoveryReason)
  | measurementTimedOut (nodeAddress : UInt8)
  | measurementAttemptsExhausted (nodeAddress : UInt8)
  | timeObservation (nodeAddress : UInt8) (observation : ClockObservation)
  | timeSyncTimedOut (nodeAddress : UInt8)
  | timeSyncNotAccepted (nodeAddress : UInt8)
  | timeSyncInvalidObservation (nodeAddress : UInt8) (error : ClockObservationError)
  | telemetrySnapshot (nodeAddress : UInt8) (snapshot : TelemetrySnapshot)
  | telemetryTimedOut (nodeAddress : UInt8)
  | telemetryNotAccepted (nodeAddress : UInt8)
  | measurementHandoffPending (nodeAddress : UInt8)
  | lifecycleNotAccepted (nodeAddress : UInt8) (operationId : UInt32)
  | lifecycleProgress (nodeAddress : UInt8) (operationId : UInt32) (state : RuntimeState)
  | lifecycleComplete (nodeAddress : UInt8) (result : RuntimeResult)
  | lifecycleTimedOut (nodeAddress : UInt8) (operationId : UInt32)
  | configurationNotAccepted (nodeAddress : UInt8) (operationId : Option UInt32)
  | configurationComplete (nodeAddress : UInt8) (outcome : ConfigurationOutcome)
  | configurationTimedOut (nodeAddress : UInt8) (operationId : Option UInt32)
  | commissioningSlotEmpty (roundNonce : UInt64) (slotIndex : UInt16)
  | commissioningNotAccepted (operationId : UInt32)
  | commissioningComplete (outcome : CommissioningOutcome)
  | commissioningTimedOut (operationId : UInt32)
  | wireAttemptFailed (nodeAddress : UInt8)
  | quarantineEnded
  | unrelatedResponse
  | lateResponse
  | unsolicitedResponse
deriving DecidableEq

inductive ControlWorkKey where
  | handshake (nodeAddress : UInt8)
  | streamState (nodeAddress : UInt8)
  | lifecycle (nodeAddress : UInt8) (operationId : UInt32)
  | configuration (nodeAddress : UInt8) (operationId : Option UInt32)
  | commissioningProbe (roundNonce : UInt64) (slotIndex : UInt16)
  | commissioningAssignment (operationId : UInt32)
deriving DecidableEq

inductive ChannelAgentError where
  | zeroQueueCapacity
  | zeroMeasurementAttemptBudget
  | queueFull
  | operationIdExhausted
  | outboundNotTaken
  | timeOverflow
  | invariantViolation
  | transaction (error : TransactionError)
  | handshake (error : HandshakeError)
  | lifecycle (error : LifecycleError)
  | configuration (error : ConfigurationError)
  | commissioning (error : CommissioningError)
  | measurement (error : MeasurementTransferError)
  | streamStateWire (error : MeasurementWireError)
  | timeWire (error : TimeWireError)
  | telemetryWire (error : TelemetryWireError)
  | frame (error : FrameError)
  | invalidTimeNodeAddress (address : UInt8)
  | invalidTelemetryNodeAddress (address : UInt8)
  | invalidStreamStateNodeAddress (address : UInt8)
  | zeroTimeBootEpoch
  | controlAttemptInFlight (key : ControlWorkKey)
  | controlWorkNotFound (key : ControlWorkKey)
  | timeBootEpochMismatch
  | timeRequestNotTransmitted
deriving DecidableEq

def ChannelPolicy.validate (policy : ChannelPolicy) : Except ChannelAgentError ChannelPolicy :=
  if policy.maxPendingWorkItems = 0 then .error .zeroQueueCapacity
  else if policy.measurementAttemptsPerSlot = 0 then .error .zeroMeasurementAttemptBudget
  else .ok policy

structure TimeSyncAttempt where
  nodeAddress : UInt8
  expectedBootEpoch : BootEpoch
  hostSendUs : Option UInt64 := none

inductive PendingWork where
  | handshake (handshake : NodeHandshake)
  | streamState (nodeAddress : UInt8)
  | lifecycle (operation : LifecycleOperation)
  | configuration (operation : ConfigurationOperation)
  | commissioning (operation : CommissioningOperation)
  | measurement (transfer : MeasurementTransfer)
  | timeSync (attempt : TimeSyncAttempt)
  | telemetry (nodeAddress : UInt8)

structure ActiveWork where
  work : PendingWork
  retryNotBefore : MonotonicMicros
  attemptsStarted : UInt8

structure ChannelAgent where
  transactions : TransactionCore
  policy : ChannelPolicy
  nextOperationId : UInt32
  pending : List PendingWork := []
  active : Option ActiveWork := none
  outbound : Option Frame := none
  completedMeasurement : Option MeasurementTransfer := none

/-- The result of a call and the agent after it. -/
abbrev AgentResult (α : Type) := Except ChannelAgentError α × ChannelAgent

namespace PendingWork

def nodeAddress : PendingWork → UInt8
  | handshake value => value.requirements.nodeAddress
  | streamState nodeAddress => nodeAddress
  | lifecycle operation => operation.nodeAddress
  | configuration operation => operation.nodeAddress
  | commissioning _ => commissioningAddress
  | measurement transfer => transfer.nodeAddress
  | timeSync attempt => attempt.nodeAddress
  | telemetry nodeAddress => nodeAddress

def usesOperationId (operationId : UInt32) : PendingWork → Bool
  | lifecycle operation => operation.command.operationId == operationId
  | configuration operation => operation.request.operationId == some operationId
  | commissioning operation => operation.request.operationId == some operationId
  | _ => false

def matchesControlKey : PendingWork → ControlWorkKey → Bool
  | handshake value, .handshake nodeAddress => value.requirements.nodeAddress == nodeAddress
  | streamState pending, .streamState nodeAddress => pending == nodeAddress
  | lifecycle operation, .lifecycle nodeAddress operationId =>
    operation.nodeAddress == nodeAddress && operation.command.operationId == operationId
  | configuration operation, .configuration nodeAddress operationId =>
    operation.nodeAddress == nodeAddress && operation.request.operationId == operationId
  | commissioning operation, .commissioningProbe roundNonce slotIndex =>
    match operation.request with
    | .probe request => request.roundNonce == roundNonce && request.slotIndex == slotIndex
    | .assign _ => false
  | commissioning operation, .commissioningAssignment operationId =>
    operation.request.operationId == some operationId
  | _, _ => false

/-- The work is told that its attempt got no response. -/
def markTimeout : PendingWork → Except ChannelAgentError PendingWork
  | lifecycle operation => lifecycle <$> operation.markTimeout.mapError .lifecycle
  | configuration operation => configuration <$> operation.markTimeout.mapError .configuration
  | commissioning operation => commissioning <$> operation.markTimeout.mapError .commissioning
  | measurement transfer => measurement <$> transfer.markAttemptUncertain.mapError .measurement
  | work => .ok work

/-- The work is told that its request may not have left the transmitter. -/
def markTransmitFailed : PendingWork → Except ChannelAgentError PendingWork
  | commissioning operation =>
    commissioning <$> operation.markTransmitFailed.mapError .commissioning
  | work => work.markTimeout

/-- The event of a timeout. A handshake reports the phase it is in. -/
def timeoutEvent : PendingWork → ChannelEvent
  | handshake value => .handshakeTimedOut value.requirements.nodeAddress value.phase
  | streamState nodeAddress => .streamStateTimedOut nodeAddress
  | lifecycle operation => .lifecycleTimedOut operation.nodeAddress operation.command.operationId
  | configuration operation =>
    .configurationTimedOut operation.nodeAddress operation.request.operationId
  | commissioning operation =>
    match operation.request with
    | .probe request => .commissioningSlotEmpty request.roundNonce request.slotIndex
    | .assign request => .commissioningTimedOut request.operationId
  | measurement transfer => .measurementTimedOut transfer.nodeAddress
  | timeSync attempt => .timeSyncTimedOut attempt.nodeAddress
  | telemetry nodeAddress => .telemetryTimedOut nodeAddress

def isProbe : PendingWork → Bool
  | commissioning operation =>
    match operation.request with
    | .probe _ => true
    | .assign _ => false
  | _ => false

def isMeasurement : PendingWork → Bool
  | measurement _ => true
  | _ => false

/-- Probes of the clock and of telemetry are not repeated. -/
def isSingleAttempt : PendingWork → Bool
  | timeSync _ | telemetry _ => true
  | _ => false

/-- An operation that keeps a phase waits outside of the two that can be sent. -/
def waits : PendingWork → Bool
  | lifecycle operation => !operation.phase.attemptable
  | configuration operation => !operation.phase.attemptable
  | commissioning operation => !operation.phase.attemptable
  | _ => false

end PendingWork

inductive WireRequest where
  | addressed (request : RequestSpec)
  | routed (request : RoutedRequestSpec)

def TransactionCore.prepareWire (core : TransactionCore) :
    WireRequest → Except TransactionError (PreparedTransaction × TransactionCore)
  | .addressed request => core.prepare request
  | .routed request => core.prepareRouted request

/-- A read of a service without a payload. -/
def readRequest (nodeAddress service message : UInt8) (timeout : DurationMicros) :
    WireRequest × List UInt8 :=
  (.addressed ⟨nodeAddress, service, message, message, timeout, .retrySafe⟩, [])

/-- The request of the next attempt and the waiting work. -/
def PendingWork.beginAttempt (timeout : DurationMicros) : PendingWork →
    Except ChannelAgentError ((WireRequest × List UInt8) × PendingWork)
  | .handshake value =>
    match value.phase with
    | .needIdentity =>
      .ok ((.addressed (identityRequest value.requirements.nodeAddress timeout), []),
        .handshake value)
    | .needCapabilities =>
      .ok ((.addressed (capabilitiesRequest value.requirements.nodeAddress timeout), []),
        .handshake value)
    | .ready => .error .invariantViolation
  | .streamState nodeAddress =>
    .ok (readRequest nodeAddress ServiceId.measurement.toByte getStreamStateMessageId timeout,
      .streamState nodeAddress)
  | .lifecycle operation =>
    (fun (attempt, operation) =>
        ((.addressed attempt.request, attempt.payload), .lifecycle operation)) <$>
      (operation.beginAttempt timeout).mapError .lifecycle
  | .configuration operation =>
    (fun (attempt, operation) =>
        ((.addressed attempt.request, attempt.payload), .configuration operation)) <$>
      (operation.beginAttempt timeout).mapError .configuration
  | .commissioning operation =>
    (fun (attempt, operation) =>
        ((.routed attempt.request, attempt.payload), .commissioning operation)) <$>
      (operation.beginAttempt timeout).mapError .commissioning
  | .measurement transfer =>
    (fun (request, payload, transfer) =>
        ((.addressed request, payload), .measurement transfer)) <$>
      (transfer.beginAttempt timeout).mapError .measurement
  | .timeSync attempt =>
    .ok (readRequest attempt.nodeAddress timeServiceId observeClockMessageId timeout,
      .timeSync { attempt with hostSendUs := none })
  | .telemetry nodeAddress =>
    .ok (readRequest nodeAddress telemetryServiceId getTelemetrySnapshotMessageId timeout,
      .telemetry nodeAddress)

/-- `u8::saturating_add(1)` for the attempts of a measurement. -/
def ActiveWork.started (active : ActiveWork) (work : PendingWork) : ActiveWork :=
  { active with
    work
    attemptsStarted :=
      if work.isMeasurement ∧ active.attemptsStarted ≠ 255 then active.attemptsStarted + 1
      else active.attemptsStarted }

/-- A clock probe notes when its request has left the transmitter. -/
def PendingWork.sent (now : MonotonicMicros) : PendingWork → PendingWork
  | .timeSync attempt => .timeSync { attempt with hostSendUs := some now }
  | work => work

namespace ChannelAgent

def new (transactionSeed operationSeed : UInt32) (quarantineDuration : DurationMicros)
    (policy : ChannelPolicy) : Except ChannelAgentError ChannelAgent := do
  let policy ← policy.validate
  .ok {
    transactions := .new transactionSeed quarantineDuration
    policy
    nextOperationId := if operationSeed = 0 then 1 else operationSeed }

variable (agent : ChannelAgent)

def queuedWorkItems : Nat :=
  agent.pending.length + agent.active.toList.length + agent.completedMeasurement.toList.length

def ensureQueueCapacity : Except ChannelAgentError Unit :=
  if agent.queuedWorkItems ≥ agent.policy.maxPendingWorkItems then .error .queueFull else .ok ()

def operationIdInUse (operationId : UInt32) : Bool :=
  agent.active.any (·.work.usesOperationId operationId) ||
    agent.pending.any (·.usesOperationId operationId)

/-- The loop of `allocate_operation_id` over the rounds that are left. -/
def allocateLoop (agent : ChannelAgent) : Nat → AgentResult UInt32
  | 0 => (.error .operationIdExhausted, agent)
  | rounds + 1 =>
    let candidate := agent.nextOperationId
    let next := if candidate + 1 = 0 then 1 else candidate + 1
    let agent := { agent with nextOperationId := next }
    if candidate ≠ 0 ∧ ¬ agent.operationIdInUse candidate then (.ok candidate, agent)
    else agent.allocateLoop rounds

def allocateOperationId : AgentResult UInt32 :=
  agent.allocateLoop (agent.policy.maxPendingWorkItems + 1)

/-- The queue takes a piece of work at its end. -/
def push (work : PendingWork) : ChannelAgent :=
  { agent with pending := agent.pending ++ [work] }

/-- Submit work that needs no id. -/
def submitWork (work : Except ChannelAgentError PendingWork) : AgentResult Unit :=
  match agent.ensureQueueCapacity with
  | .error error => (.error error, agent)
  | .ok () =>
    match work with
    | .error error => (.error error, agent)
    | .ok work => (.ok (), agent.push work)

/-- Submit work under a new operation id, which a refusal uses up. -/
def submitOperation (work : UInt32 → Except ChannelAgentError PendingWork) : AgentResult UInt32 :=
  match agent.ensureQueueCapacity with
  | .error error => (.error error, agent)
  | .ok () =>
    match agent.allocateOperationId with
    | (.error error, agent) => (.error error, agent)
    | (.ok operationId, agent) =>
      match work operationId with
      | .error error => (.error error, agent)
      | .ok work => (.ok operationId, agent.push work)

def submitLifecycle (nodeAddress : UInt8) (operation : RuntimeOperation)
    (requestedProfile : ObservabilityProfile) : AgentResult UInt32 :=
  agent.submitOperation fun operationId =>
    .lifecycle <$> (LifecycleOperation.new nodeAddress
      ⟨operationId, operation, requestedProfile⟩).mapError .lifecycle

/-- An operation is built before the queue is looked at. -/
def submitConfiguration (operation : Except ConfigurationError ConfigurationOperation) :
    AgentResult Unit :=
  match operation with
  | .error error => (.error (.configuration error), agent)
  | .ok operation => agent.submitWork (.ok (.configuration operation))

def submitGetConfiguration (nodeAddress : UInt8) : AgentResult Unit :=
  agent.submitConfiguration (ConfigurationOperation.new nodeAddress .get)

def submitValidateConfiguration (nodeAddress : UInt8) (configuration : MeasurementConfiguration) :
    AgentResult Unit :=
  agent.submitConfiguration (ConfigurationOperation.new nodeAddress (.validate configuration))

def submitApplyConfiguration (nodeAddress : UInt8) (expectedRevision : UInt32)
    (configuration : MeasurementConfiguration) : AgentResult UInt32 :=
  agent.submitOperation fun operationId =>
    .configuration <$> (ConfigurationOperation.new nodeAddress
      (.apply ⟨operationId, expectedRevision, configuration⟩)).mapError .configuration

def submitResetConfiguration (nodeAddress : UInt8) (expectedRevision : UInt32) :
    AgentResult UInt32 :=
  agent.submitOperation fun operationId =>
    .configuration <$> (ConfigurationOperation.new nodeAddress
      (.reset operationId expectedRevision)).mapError .configuration

def submitCommissioningProbe (request : ProbeSlotRequest) : AgentResult Unit :=
  agent.submitWork
    (.commissioning <$> (CommissioningOperation.new (.probe request)).mapError .commissioning)

def submitCommissioningAssignment (roundNonce : UInt64) (hardwareId : HardwareId)
    (nodeAddress : UInt8) : AgentResult UInt32 :=
  agent.submitOperation fun operationId =>
    .commissioning <$> (CommissioningOperation.new
      (.assign ⟨operationId, roundNonce, hardwareId, nodeAddress⟩)).mapError .commissioning

def submitHandshake (requirements : HandshakeRequirements) : AgentResult Unit :=
  agent.submitWork (.ok (.handshake { requirements }))

def isUnaddressed (nodeAddress : UInt8) : Bool :=
  nodeAddress == hostAddress || nodeAddress == broadcastAddress

def submitStreamState (nodeAddress : UInt8) : AgentResult Unit :=
  agent.submitWork
    (if isUnaddressed nodeAddress then .error (.invalidStreamStateNodeAddress nodeAddress)
      else .ok (.streamState nodeAddress))

def submitTimeSync (nodeAddress : UInt8) (expectedBootEpoch : BootEpoch) : AgentResult Unit :=
  agent.submitWork
    (if isUnaddressed nodeAddress then .error (.invalidTimeNodeAddress nodeAddress)
      else if expectedBootEpoch = 0 then .error .zeroTimeBootEpoch
      else .ok (.timeSync { nodeAddress, expectedBootEpoch }))

def submitTelemetry (nodeAddress : UInt8) : AgentResult Unit :=
  agent.submitWork
    (if isUnaddressed nodeAddress then .error (.invalidTelemetryNodeAddress nodeAddress)
      else .ok (.telemetry nodeAddress))

variable (transfer : MeasurementTransfer)

/-- `try_submit_measurement`; a refused transfer goes back. -/
def submitMeasurement : AgentResult Unit :=
  agent.submitWork (.ok (.measurement transfer))

/-- The active measurement leaves the agent, whatever it is. -/
def handoff : AgentResult UInt8 :=
  let after := { agent with active := none, completedMeasurement := some transfer }
  if agent.completedMeasurement.isSome then (.error .invariantViolation, after)
  else (.ok transfer.nodeAddress, after)

def handoffActiveMeasurement : AgentResult UInt8 :=
  match agent.active with
  | some ⟨.measurement transfer, _, _⟩ => agent.handoff transfer
  | _ => (.error .invariantViolation, { agent with active := none })

variable (active : ActiveWork)

/-- The measurement has used up the attempts of its bus slot. -/
def exhausted : Bool :=
  active.work.isMeasurement && active.attemptsStarted ≥ agent.policy.measurementAttemptsPerSlot

def handoffExhausted : AgentResult ChannelEvent :=
  match agent.handoffActiveMeasurement with
  | (.error error, agent) => (.error error, agent)
  | (.ok nodeAddress, agent) => (.ok (.measurementAttemptsExhausted nodeAddress), agent)

/-- The next attempt waits for the retry delay, or the slot ends. -/
def scheduleRetry (now : MonotonicMicros) (event : ChannelEvent) : AgentResult ChannelEvent :=
  match checkedAdd now agent.policy.retryDelay.value with
  | none => (.error .timeOverflow, { agent with active := some active })
  | some retryNotBefore =>
    let active := { active with retryNotBefore }
    let agent := { agent with active := some active }
    if agent.exhausted active then agent.handoffExhausted
    else if active.work.isSingleAttempt then (.ok event, { agent with active := none })
    else (.ok event, agent)

variable (now : MonotonicMicros)

/-- The deadline of the active attempt has passed. -/
def timedOut : AgentResult ChannelEvent :=
  match agent.active with
  | none => (.error .invariantViolation, agent)
  | some active =>
    match active.work.markTimeout with
    | .error error => (.error error, agent)
    | .ok work =>
      if work.isProbe then (.ok work.timeoutEvent, { agent with active := none })
      else agent.scheduleRetry { active with work } now work.timeoutEvent

/-- Hand the request of an attempt to the transmitter. -/
def transmit (request : WireRequest) (payload : List UInt8) : AgentResult ChannelEvent :=
  match agent.transactions.prepareWire request with
  | .error error => (.error (.transaction error), agent)
  | .ok (prepared, transactions) =>
    let agent := { agent with transactions }
    match prepared.requestFrame payload with
    | .error error => (.error (.frame error), agent)
    | .ok frame => (.ok .transmitReady, { agent with outbound := some frame })

def startAttempt (now : MonotonicMicros) : AgentResult ChannelEvent :=
  let agent := { agent with active := some active }
  if now < active.retryNotBefore ∨ ¬ agent.transactions.isIdle then (.ok .idle, agent)
  else if active.work.waits then (.ok .idle, agent)
  else
    match active.work.beginAttempt agent.policy.transactionTimeout with
    | .error error => (.error error, agent)
    | .ok ((request, payload), work) =>
      { agent with active := some (active.started work) }.transmit request payload

/-- The active work goes on, or the oldest of the queue becomes active. -/
def nextAttempt : AgentResult ChannelEvent :=
  match agent.active, agent.pending with
  | some active, _ => agent.startAttempt active now
  | none, [] => (.ok .idle, agent)
  | none, work :: pending => { agent with pending }.startAttempt ⟨work, now, 0⟩ now

def poll : AgentResult ChannelEvent :=
  if agent.outbound.isSome then (.ok .transmitReady, agent)
  else match agent.completedMeasurement with
    | some transfer => (.ok (.measurementHandoffPending transfer.nodeAddress), agent)
    | none =>
      match agent.transactions.onTimer now with
      | .error error => (.error (.transaction error), agent)
      | .ok (.timedOut _ _ _, transactions) => { agent with transactions }.timedOut now
      | .ok (.quarantineEnded, transactions) =>
        (.ok .quarantineEnded, { agent with transactions })
      | .ok (.none, transactions) => { agent with transactions }.nextAttempt now

def takeOutbound : Option Frame × ChannelAgent :=
  (agent.outbound, { agent with outbound := none })

def transmitCompleted : AgentResult Unit :=
  if agent.outbound.isSome then (.error .outboundNotTaken, agent)
  else match agent.transactions.markTransmitted now with
    | .error error => (.error (.transaction error), agent)
    | .ok (_, transactions) =>
      (.ok (), { agent with
        transactions
        active := agent.active.map fun active =>
          { active with work := active.work.sent now } })

def transmitFailed : AgentResult ChannelEvent :=
  let agent := { agent with outbound := none }
  match agent.transactions.cancelTransmit with
  | .error error => (.error (.transaction error), agent)
  | .ok transactions =>
    let agent := { agent with transactions }
    match agent.active with
    | none => (.error .invariantViolation, agent)
    | some active =>
      match active.work.markTransmitFailed with
      | .error error => (.error error, agent)
      | .ok work =>
        agent.scheduleRetry { active with work } now (.wireAttemptFailed work.nodeAddress)

/-- The work is over. -/
def finish (result : Except ChannelAgentError ChannelEvent) : AgentResult ChannelEvent :=
  (result, { agent with active := none })

/-- The work stays active as it is. -/
def keep (work : PendingWork) (result : Except ChannelAgentError ChannelEvent) :
    AgentResult ChannelEvent :=
  (result, { agent with active := some { active with work } })

/-- The work stays active and waits for the retry delay. -/
def delay (work : PendingWork) (now : MonotonicMicros) (event : ChannelEvent) :
    AgentResult ChannelEvent :=
  match checkedAdd now agent.policy.retryDelay.value with
  | none => agent.keep active work (.error .timeOverflow)
  | some retryNotBefore => agent.keep { active with retryNotBefore } work (.ok event)

def receiveHandshake (now : MonotonicMicros) (handshake : NodeHandshake) (payload : List UInt8) :
    AgentResult ChannelEvent :=
  let nodeAddress := handshake.requirements.nodeAddress
  let accepted : Except ChannelAgentError NodeHandshake :=
    match handshake.phase with
    | .needIdentity => (handshake.acceptIdentity payload).mapError .handshake
    | .needCapabilities => (handshake.acceptCapabilities payload).mapError .handshake
    | .ready => .error .invariantViolation
  match accepted with
  | .error error => (.error error, agent)
  | .ok handshake =>
    if handshake.phase = .ready then
      match handshake.identity, handshake.capabilities with
      | some identity, some capabilities =>
        agent.finish (.ok (.handshakeComplete nodeAddress identity capabilities))
      | _, _ => agent.keep active (.handshake handshake) (.error .invariantViolation)
    else
      agent.keep { active with retryNotBefore := now } (.handshake handshake)
        (.ok (.handshakeProgress nodeAddress handshake.phase))

def receiveStreamState (now : MonotonicMicros) (nodeAddress : UInt8) (payload : List UInt8) :
    AgentResult ChannelEvent :=
  match decodeStreamStateSuccess payload with
  | .ok state => agent.finish (.ok (.streamState nodeAddress state))
  | .error (.remoteError .busy) =>
    agent.delay active active.work now (.streamStateNotAccepted nodeAddress)
  | .error error => agent.finish (.error (.streamStateWire error))

def receiveLifecycle (now : MonotonicMicros) (operation : LifecycleOperation)
    (payload : List UInt8) : AgentResult ChannelEvent :=
  match operation.acceptResponse payload with
  | (.error error, operation) =>
    agent.keep active (.lifecycle operation) (.error (.lifecycle error))
  | (.ok .notAccepted, operation) =>
    agent.delay active (.lifecycle operation) now
      (.lifecycleNotAccepted operation.nodeAddress operation.command.operationId)
  | (.ok (.inProgress result), operation) =>
    agent.delay active (.lifecycle operation) now
      (.lifecycleProgress operation.nodeAddress result.operationId result.state)
  | (.ok (.complete result), operation) =>
    agent.finish (.ok (.lifecycleComplete operation.nodeAddress result))

def receiveConfiguration (now : MonotonicMicros) (operation : ConfigurationOperation)
    (payload : List UInt8) : AgentResult ChannelEvent :=
  match operation.acceptResponse payload with
  | (.error error, operation) =>
    agent.keep active (.configuration operation) (.error (.configuration error))
  | (.ok .notAccepted, operation) =>
    agent.delay active (.configuration operation) now
      (.configurationNotAccepted operation.nodeAddress operation.request.operationId)
  | (.ok outcome, operation) =>
    agent.finish (.ok (.configurationComplete operation.nodeAddress outcome))

def receiveCommissioning (now : MonotonicMicros) (operation : CommissioningOperation)
    (payload : List UInt8) : AgentResult ChannelEvent :=
  match operation.acceptResponse payload with
  | (.error error, operation) =>
    agent.keep active (.commissioning operation) (.error (.commissioning error))
  | (.ok .notAccepted, operation) =>
    match operation.request.operationId with
    | none => agent.keep active (.commissioning operation) (.error .invariantViolation)
    | some operationId =>
      agent.delay active (.commissioning operation) now (.commissioningNotAccepted operationId)
  | (.ok outcome, _) => agent.finish (.ok (.commissioningComplete outcome))

/-- The event of an outcome that ends the transfer's stay on the channel. -/
def measurementEvent (nodeAddress : UInt8) : MeasurementOutcome → ChannelEvent
  | .notAccepted => .measurementNotAccepted nodeAddress
  | .noData state => .measurementNoData nodeAddress state
  | .persistenceRequired kind => .measurementPersistenceRequired nodeAddress kind
  | .recoveryRequired reason => .measurementRecoveryRequired nodeAddress reason

def receiveMeasurement (now : MonotonicMicros) (transfer : MeasurementTransfer)
    (payload : List UInt8) : AgentResult ChannelEvent :=
  match transfer.acceptResponse payload with
  | (.error error, transfer) =>
    agent.keep active (.measurement transfer) (.error (.measurement error))
  | (.ok .notAccepted, transfer) =>
    agent.scheduleRetry { active with work := .measurement transfer } now
      (.measurementNotAccepted transfer.nodeAddress)
  | (.ok outcome, transfer) =>
    match agent.handoff transfer with
    | (.error error, agent) => (.error error, agent)
    | (.ok nodeAddress, agent) => (.ok (measurementEvent nodeAddress outcome), agent)

def receiveTimeSync (attempt : TimeSyncAttempt) (payload : List UInt8) : AgentResult ChannelEvent :=
  agent.finish <|
    match decodeTimeResponse payload with
    | .error (.remote _) => .ok (.timeSyncNotAccepted attempt.nodeAddress)
    | .error error => .error (.timeWire error)
    | .ok decoded =>
      if decoded.bootEpoch ≠ attempt.expectedBootEpoch then .error .timeBootEpochMismatch
      else match attempt.hostSendUs with
        | none => .error .timeRequestNotTransmitted
        | some hostSendUs =>
          match ClockObservation.new decoded.bootEpoch hostSendUs decoded.nodeReceiveUs
              decoded.nodeSendUs now with
          | .error error => .ok (.timeSyncInvalidObservation attempt.nodeAddress error)
          | .ok observation => .ok (.timeObservation attempt.nodeAddress observation)

def receiveTelemetry (nodeAddress : UInt8) (payload : List UInt8) : AgentResult ChannelEvent :=
  agent.finish <|
    match decodeTelemetrySnapshot payload with
    | .ok snapshot => .ok (.telemetrySnapshot nodeAddress snapshot)
    | .error (.remote _) => .ok (.telemetryNotAccepted nodeAddress)
    | .error error => .error (.telemetryWire error)

/-- The response of the active work. -/
def acceptResponse (payload : List UInt8) : AgentResult ChannelEvent :=
  match agent.active with
  | none => (.error .invariantViolation, agent)
  | some active =>
    match active.work with
    | .handshake handshake => agent.receiveHandshake active now handshake payload
    | .streamState nodeAddress => agent.receiveStreamState active now nodeAddress payload
    | .lifecycle operation => agent.receiveLifecycle active now operation payload
    | .configuration operation => agent.receiveConfiguration active now operation payload
    | .commissioning operation => agent.receiveCommissioning active now operation payload
    | .measurement transfer => agent.receiveMeasurement active now transfer payload
    | .timeSync attempt => agent.receiveTimeSync now attempt payload
    | .telemetry nodeAddress => agent.receiveTelemetry nodeAddress payload

def receive (agent : ChannelAgent) (now : MonotonicMicros) (frame : Frame) :
    AgentResult ChannelEvent :=
  match agent.transactions.receive now frame with
  | .error error => (.error (.transaction error), agent)
  | .ok (.unrelated, transactions) => (.ok .unrelatedResponse, { agent with transactions })
  | .ok (.late, transactions) => (.ok .lateResponse, { agent with transactions })
  | .ok (.unsolicited, transactions) => (.ok .unsolicitedResponse, { agent with transactions })
  | .ok (.accepted, transactions) => { agent with transactions }.acceptResponse now frame.payload

def takeCompletedMeasurement : Option MeasurementTransfer × ChannelAgent :=
  (agent.completedMeasurement, { agent with completedMeasurement := none })

inductive AbandonedControlWork where
  | queued (key : ControlWorkKey)
  | active (key : ControlWorkKey)

def abandonControlWork (key : ControlWorkKey) : AgentResult AbandonedControlWork :=
  if agent.active.any (·.work.matchesControlKey key) then
    if agent.outbound.isSome ∨ ¬ agent.transactions.isIdle then
      (.error (.controlAttemptInFlight key), agent)
    else (.ok (.active key), { agent with active := none })
  else match agent.pending.findIdx? (·.matchesControlKey key) with
    | none => (.error (.controlWorkNotFound key), agent)
    | some position =>
      (.ok (.queued key), { agent with pending := agent.pending.eraseIdx position })

end ChannelAgent
end SensorSystem.Host
