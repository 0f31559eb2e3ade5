import SensorSystem.Host.Channel.ChannelAgent

/-! `safe_state.rs`: a node is brought to a stable state by ordinary commands, and by restarts
when these fail. The converger decides and counts; the wire operation submits its actions through
the agent of the channel and reports what came of them. -/

namespace SensorSystem.Host

inductive SafeStateTarget where
  | idle
  | maintenance
  | recording
deriving DecidableEq

/-- The runtime state that a target asks for. -/
def SafeStateTarget.state : SafeStateTarget → RuntimeState
  | idle => .idle
  | maintenance => .maintenance
  | recording => .recording

structure SafeStatePolicy where
  orderlyAttempts : UInt8
  restartAttempts : UInt8
  restartCycles : UInt8
deriving DecidableEq

inductive SafeStateAction where
  | getState
  | start
  | stop
  | enterMaintenance
  | exitMaintenance
  | restart
deriving DecidableEq

inductive SafeStateStatus where
  | converging
  | reached (target : SafeStateTarget)
  | convergenceFailed
  | offline
deriving DecidableEq

inductive SafeStateError where
  | zeroOrderlyAttempts
  | zeroRestartAttempts
  | zeroRestartCycles
  | actionAlreadyPending
  | noPendingAction
  | wrongCompletion (expected received : SafeStateAction)
deriving DecidableEq

def SafeStatePolicy.validate (policy : SafeStatePolicy) : Except SafeStateError SafeStatePolicy :=
  if policy.orderlyAttempts = 0 then .error .zeroOrderlyAttempts
  else if policy.restartAttempts = 0 then .error .zeroRestartAttempts
  else if policy.restartCycles = 0 then .error .zeroRestartCycles
  else .ok policy

/-- `u8::saturating_add(1)`. -/
def saturatingIncrement (value : UInt8) : UInt8 := if value = 255 then 255 else value + 1

structure SafeStateConverger where
  target : SafeStateTarget
  policy : SafeStatePolicy
  observed : Option RuntimeState := none
  pending : Option SafeStateAction := none
  orderlyFailures : UInt8 := 0
  restartFailures : UInt8 := 0
  completedRestartCycles : UInt8 := 0
  status : SafeStateStatus := .converging
deriving DecidableEq

namespace SafeStateConverger

variable (target : SafeStateTarget)

def new (policy : SafeStatePolicy) : Except SafeStateError SafeStateConverger := do
  let policy ← policy.validate
  .ok { target, policy }

/-- An action, or nothing when the target is reached. -/
def actionFor : Option RuntimeState → Option SafeStateAction
  | none => some .getState
  | some .idle =>
    match target with
    | .idle => none
    | .recording => some .start
    | .maintenance => some .enterMaintenance
  | some .maintenance => if target = .maintenance then none else some .exitMaintenance
  | some .recording => if target = .recording then none else some .stop
  | some .stopping => some .stop
  | some .faulted => some .restart

variable (converger : SafeStateConverger) (action : SafeStateAction)

def submit : Except SafeStateError (Option SafeStateAction) × SafeStateConverger :=
  (.ok (some action), { converger with pending := some action })

def nextAction : Except SafeStateError (Option SafeStateAction) × SafeStateConverger :=
  if converger.pending.isSome then (.error .actionAlreadyPending, converger)
  else if converger.status ≠ .converging then (.ok none, converger)
  else if converger.orderlyFailures ≥ converger.policy.orderlyAttempts then
    if converger.completedRestartCycles ≥ converger.policy.restartCycles then
      (.ok none, { converger with status := .convergenceFailed })
    else converger.submit .restart
  else match actionFor converger.target converger.observed with
    | none => (.ok none, { converger with status := .reached converger.target })
    | some action => converger.submit action

def takePending : Except SafeStateError SafeStateConverger :=
  match converger.pending with
  | some expected =>
    if expected = action then .ok { converger with pending := none }
    else .error (.wrongCompletion expected action)
  | none => .error .noPendingAction

def complete (observed : RuntimeState) : Except SafeStateError SafeStateConverger := do
  let converger ← converger.takePending action
  .ok (if action = .restart then
    { converger with
      observed := none
      orderlyFailures := 0
      restartFailures := 0
      completedRestartCycles := saturatingIncrement converger.completedRestartCycles }
  else { converger with observed := some observed, orderlyFailures := 0 })

def fail : Except SafeStateError SafeStateConverger := do
  let converger ← converger.takePending action
  .ok (if action = .restart then
    let failures := saturatingIncrement converger.restartFailures
    { converger with
      restartFailures := failures
      status := if failures ≥ converger.policy.restartAttempts then .offline
        else converger.status }
  else
    { converger with orderlyFailures := saturatingIncrement converger.orderlyFailures })

end SafeStateConverger

structure SafeStateWirePolicy where
  actionDeadline : DurationMicros
  restartSettleDelay : DurationMicros
  restartConfirmationDeadline : DurationMicros
deriving DecidableEq

inductive WirePhase where
  | ready
  | lifecycle (action : SafeStateAction) (operationId : UInt32) (deadline : MonotonicMicros)
  | restartDelay (previousBootEpoch : BootEpoch) (probeNotBefore deadline : MonotonicMicros)
  | restartHandshake (previousBootEpoch : BootEpoch) (deadline : MonotonicMicros)
deriving DecidableEq

inductive SafeStateWireProgress where
  | waiting
  | submitted (action : SafeStateAction) (operationId : UInt32)
  | restartHandshakeSubmitted
  | restartConfirmationStarted
  | awaitingWireSettlement (action : SafeStateAction)
  | attemptFailed (action : SafeStateAction)
  | reached (target : SafeStateTarget)
  | offline
  | convergenceFailed
deriving DecidableEq

inductive SafeStateEventDisposition where
  | ignored
  | progressed
  | attemptFailed (action : SafeStateAction)
  | restartObserved (identity : NodeIdentity)

inductive SafeStateWireError where
  | zeroBootEpoch
  | wireActionPending
  | channelNotExclusive
  | timeOverflow
  | invariantViolation
  | convergence (error : SafeStateError)
  | agent (error : ChannelAgentError)
deriving DecidableEq

structure SafeStateWireOperation where
  nodeAddress : UInt8
  requirements : HandshakeRequirements
  currentBootEpoch : BootEpoch
  policy : SafeStateWirePolicy
  converger : SafeStateConverger
  phase : WirePhase := .ready
deriving DecidableEq

def SafeStateAction.runtimeOperation : SafeStateAction → RuntimeOperation
  | getState => .getState
  | start => .start
  | stop => .stop
  | enterMaintenance => .enterMaintenance
  | exitMaintenance => .exitMaintenance
  | restart => .restartNode

def runtimeResultMatchesAction : SafeStateAction → RuntimeState → Bool
  | .getState, _ | .restart, _ => true
  | .start, state => state = .recording
  | .stop, state | .exitMaintenance, state => state = .idle
  | .enterMaintenance, state => state = .maintenance

def checkedDeadline (now : MonotonicMicros) (duration : DurationMicros) :
    Except SafeStateWireError MonotonicMicros :=
  match checkedAdd now duration.value with
  | some deadline => .ok deadline
  | none => .error .timeOverflow

namespace SafeStateWireOperation

/-- The result of a call and what it leaves of the operation. -/
abbrev WireResult (α : Type) := Except SafeStateWireError α × SafeStateWireOperation

def new (target : SafeStateTarget) (safeStatePolicy : SafeStatePolicy)
    (wirePolicy : SafeStateWirePolicy) (requirements : HandshakeRequirements)
    (currentBootEpoch : BootEpoch) : Except SafeStateWireError SafeStateWireOperation :=
  if currentBootEpoch = 0 then .error .zeroBootEpoch
  else match SafeStateConverger.new target safeStatePolicy with
    | .error error => .error (.convergence error)
    | .ok converger => .ok {
        nodeAddress := requirements.nodeAddress
        requirements
        currentBootEpoch
        policy := wirePolicy
        converger }

variable (operation : SafeStateWireOperation)

/-- The action has failed, and the operation is ready again. -/
def failAction {α : Type} (action : SafeStateAction) (result : α) : WireResult α :=
  match operation.converger.fail action with
  | .error error => (.error (.convergence error), operation)
  | .ok converger => (.ok result, { operation with converger, phase := .ready })

def beginRestartConfirmation {α : Type} (now : MonotonicMicros) (result : α) : WireResult α :=
  match checkedDeadline now operation.policy.restartSettleDelay,
    checkedDeadline now operation.policy.restartConfirmationDeadline with
  | .error error, _ => (.error error, operation)
  | _, .error error => (.error error, operation)
  | .ok probeNotBefore, .ok deadline =>
    (.ok result,
      { operation with
        phase := .restartDelay operation.currentBootEpoch probeNotBefore deadline })

/-- How a status that is final is reported. -/
def finalProgress : SafeStateStatus → Option SafeStateWireProgress
  | .reached target => some (.reached target)
  | .offline => some .offline
  | .convergenceFailed => some .convergenceFailed
  | .converging => none

variable (agent : ChannelAgent)

def submitNextAction (now : MonotonicMicros) : WireResult SafeStateWireProgress × ChannelAgent :=
  match finalProgress operation.converger.status with
  | some progress => ((.ok progress, operation), agent)
  | none =>
    if agent.queuedWorkItems ≠ 0 then ((.error .channelNotExclusive, operation), agent)
    else
      let (next, converger) := operation.converger.nextAction
      let operation := { operation with converger }
      match next with
      | .error error => ((.error (.convergence error), operation), agent)
      | .ok none =>
        match finalProgress converger.status with
        | some progress => ((.ok progress, operation), agent)
        | none => ((.error .invariantViolation, operation), agent)
      | .ok (some action) =>
        match agent.submitLifecycle operation.nodeAddress action.runtimeOperation .production with
        | (.error error, agent) => ((.error (.agent error), operation), agent)
        | (.ok operationId, agent) =>
          match checkedDeadline now operation.policy.actionDeadline with
          | .error error => ((.error error, operation), agent)
          | .ok deadline =>
            ((.ok (.submitted action operationId),
              { operation with phase := .lifecycle action operationId deadline }), agent)

/-- The confirmation of a restart runs out. -/
def failRestartConfirmation : WireResult SafeStateWireProgress × ChannelAgent :=
  match operation.phase with
  | .restartHandshake _ _ =>
    match agent.abandonControlWork (.handshake operation.nodeAddress) with
    | (.ok _, agent) => (operation.failAction .restart (.attemptFailed .restart), agent)
    | (.error (.controlAttemptInFlight _), agent) =>
      ((.ok (.awaitingWireSettlement .restart), operation), agent)
    | (.error error, agent) => ((.error (.agent error), operation), agent)
  | _ => (operation.failAction .restart (.attemptFailed .restart), agent)

def drive (now : MonotonicMicros) : WireResult SafeStateWireProgress × ChannelAgent :=
  match operation.phase with
  | .ready => operation.submitNextAction agent now
  | .lifecycle action operationId deadline =>
    if now ≥ deadline then
      match agent.abandonControlWork (.lifecycle operation.nodeAddress operationId) with
      | (.ok _, agent) =>
        if action = .restart then
          (operation.beginRestartConfirmation now .restartConfirmationStarted, agent)
        else (operation.failAction action (.attemptFailed action), agent)
      | (.error (.controlAttemptInFlight _), agent) =>
        ((.ok (.awaitingWireSettlement action), operation), agent)
      | (.error error, agent) => ((.error (.agent error), operation), agent)
    else ((.ok .waiting, operation), agent)
  | .restartDelay previousBootEpoch probeNotBefore deadline =>
    if now ≥ deadline then operation.failRestartConfirmation agent
    else if now ≥ probeNotBefore then
      if agent.queuedWorkItems ≠ 0 then ((.error .channelNotExclusive, operation), agent)
      else match agent.submitHandshake operation.requirements with
        | (.error error, agent) => ((.error (.agent error), operation), agent)
        | (.ok _, agent) =>
          ((.ok .restartHandshakeSubmitted,
            { operation with phase := .restartHandshake previousBootEpoch deadline }), agent)
    else ((.ok .waiting, operation), agent)
  | .restartHandshake _ deadline =>
    if now ≥ deadline then operation.failRestartConfirmation agent
    else ((.ok .waiting, operation), agent)

def handleEvent (event : ChannelEvent) (now : MonotonicMicros) :
    WireResult SafeStateEventDisposition :=
  match operation.phase, event with
  | .lifecycle action operationId _, .lifecycleComplete nodeAddress result =>
    if nodeAddress = operation.nodeAddress ∧ result.operationId = operationId then
      if result.code ≠ .ok ∨ ¬ runtimeResultMatchesAction action result.state then
        operation.failAction action (.attemptFailed action)
      else if action = .restart then operation.beginRestartConfirmation now .progressed
      else match operation.converger.complete action result.state with
        | .error error => (.error (.convergence error), operation)
        | .ok converger => (.ok .progressed, { operation with converger, phase := .ready })
    else (.ok .ignored, operation)
  | .restartHandshake previousBootEpoch deadline, .handshakeComplete nodeAddress identity _ =>
    if nodeAddress = operation.nodeAddress then
      if identity.bootEpoch = previousBootEpoch then
        match checkedDeadline now operation.policy.restartSettleDelay with
        | .error error => (.error error, operation)
        | .ok probeNotBefore =>
          (.ok .progressed,
            { operation with phase := .restartDelay previousBootEpoch probeNotBefore deadline })
      else
        let operation := { operation with currentBootEpoch := identity.bootEpoch }
        match operation.converger.complete .restart .idle with
        | .error error => (.error (.convergence error), operation)
        | .ok converger =>
          (.ok (.restartObserved identity), { operation with converger, phase := .ready })
    else (.ok .ignored, operation)
  | _, _ => (.ok .ignored, operation)

end SafeStateWireOperation
end SensorSystem.Host
