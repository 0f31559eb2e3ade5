import SensorSystem.Host.Channel.ChannelEndpoint
import SensorSystem.Host.Service.Operations

/-! `channel_worker.rs`: a configuration, a commissioning or a restart is driven by the channel's
own steps until it ends, and has a deadline. Each of the three drives looks at its deadline, gives
up its work and steps the endpoint in an order of its own. -/

namespace SensorSystem.Host.Service

open Operations (OperationsError OperationResult)

/-- An instant of the clock of the deadlines. -/
abbrev Instant := Nat

/-- What the operations are told, or the error that ends the channel's step. -/
inductive Ending where
  | completed (result : OperationResult)
  | failed (error : OperationsError)
  | rejected (result : OperationResult) (error : OperationsError)
  | stepFailed (error : OperationsError)

inductive Driven (ε : Type) where
  | ended (ending : Ending)
  | goesOn (execution : ε)

/-- What the clocks and the port answer in one drive. -/
structure DriveInputs where
  /-- The instant that is compared with the deadline. -/
  instant : Instant
  /-- The instant behind the step of the endpoint. -/
  stepped : Instant
  endpoint : EndpointInputs

inductive Abandoned where
  /-- The work is gone, or was not there. -/
  | gone
  | inFlight
  | failed

/-- How the drives tell the results of `abandon_control_work` apart. -/
def abandon (agent : ChannelAgent) (key : ControlWorkKey) : Abandoned × ChannelAgent :=
  match agent.abandonControlWork key with
  | (.ok _, agent) => (.gone, agent)
  | (.error (.controlWorkNotFound _), agent) => (.gone, agent)
  | (.error (.controlAttemptInFlight _), agent) => (.inFlight, agent)
  | (.error _, agent) => (.failed, agent)

structure ConfigurationExecution where
  nodeAddress : UInt8
  operationId : Option UInt32
  deadline : Instant
  terminalError : Option OperationsError := none

namespace ConfigurationExecution

variable (execution : ConfigurationExecution)

def key : ControlWorkKey :=
  .configuration execution.nodeAddress execution.operationId

/-- The outcome of the work. The commit of a configuration may fail, and tells whether the step
fails. -/
def settle (commit : ConfigOperationResult → Except (OperationsError × Bool) Unit) :
    ConfigurationOutcome → Driven ConfigurationExecution
  | .observed value => .ended (.completed (.configurationObserved value))
  | .validated value => .ended (.completed (.configurationValidated value))
  | .applied value =>
    if value.code ≠ .applied then
      .ended (.rejected (.configurationApplied value) .configurationRejected)
    else match commit value with
      | .ok () => .ended (.completed (.configurationApplied value))
      | .error (error, false) => .goesOn { execution with terminalError := some error }
      | .error (error, true) => .ended (.stepFailed error)
  | .notAccepted => .goesOn { execution with terminalError := some .configurationFailed }

/-- The step of the endpoint, with what its event means for the execution. -/
def stepped (commit : ConfigOperationResult → Except (OperationsError × Bool) Unit)
    (agent : ChannelAgent) (inputs : DriveInputs) : Driven ConfigurationExecution × ChannelAgent :=
  match agent.endpointStep inputs.endpoint with
  | (.error _, agent) =>
    (.goesOn { execution with terminalError := some .configurationFailed }, agent)
  | (.ok event, agent) =>
    if execution.terminalError.isSome then (.goesOn execution, agent)
    else match event with
      | .agent (.configurationComplete nodeAddress outcome) =>
        if nodeAddress = execution.nodeAddress then (execution.settle commit outcome, agent)
        else (.goesOn execution, agent)
      | _ => (.goesOn execution, agent)

/-- The deadline becomes the terminal error of an execution that has none. -/
def expired (instant : Instant) : ConfigurationExecution :=
  if execution.terminalError.isNone ∧ execution.deadline ≤ instant then
    { execution with terminalError := some .configurationDeadline }
  else execution

def drive (commit : ConfigOperationResult → Except (OperationsError × Bool) Unit)
    (execution : ConfigurationExecution) (agent : ChannelAgent) (inputs : DriveInputs) :
    Driven ConfigurationExecution × ChannelAgent :=
  let execution := execution.expired inputs.instant
  match execution.terminalError with
  | none => execution.stepped commit agent inputs
  | some error =>
    match abandon agent execution.key with
    | (.gone, agent) => (.ended (.failed error), agent)
    | (.inFlight, agent) => execution.stepped commit agent inputs
    | (.failed, agent) => (.ended (.stepFailed error), agent)

end ConfigurationExecution

inductive CommissioningAssignPhase where
  | assigning (operationId : UInt32)
  | verifying (assigned : AssignAddressResponse)

structure CommissioningScan where
  roundNonce : UInt64
  slotCount : UInt16
  nextSlot : UInt16 := 0
  activeSlot : Option UInt16 := none
  discovered : List CommissioningIdentity := []
  deadline : Instant

structure CommissioningAssign where
  expected : CommissioningIdentity
  nodeAddress : UInt8
  phase : CommissioningAssignPhase
  deadline : Instant

inductive CommissioningExecution where
  | scan (scan : CommissioningScan)
  | assign (assign : CommissioningAssign)

namespace CommissioningExecution

def deadline : CommissioningExecution → Instant
  | scan value => value.deadline
  | assign value => value.deadline

/-- The work that the execution has at the agent. -/
def key : CommissioningExecution → Option ControlWorkKey
  | scan value => value.activeSlot.map (.commissioningProbe value.roundNonce)
  | assign value =>
    match value.phase with
    | .assigning operationId => some (.commissioningAssignment operationId)
    | .verifying _ => some (.handshake value.nodeAddress)

/-- `saturating_add(1)`. -/
def followingSlot (slot : UInt16) : UInt16 := if slot = 0xffff then slot else slot + 1

def recordingServices : UInt32 :=
  ServiceId.identity.capabilityBit ||| ServiceId.measurement.capabilityBit |||
    ServiceId.lifecycle.capabilityBit

/-- What the node must turn out to be under its new address. -/
def requirements (assign : CommissioningAssign) : HandshakeRequirements where
  hardwareId := assign.expected.hardwareId
  nodeAddress := assign.nodeAddress
  boardRevision := assign.expected.boardRevision
  requiredServices := recordingServices ||| ServiceId.configuration.capabilityBit |||
    ServiceId.time.capabilityBit
  requiredFeatures := 0
  requiredOutputRate := none
  schema1MigrationFirmware := none

def scanEvent (value : CommissioningScan) : ChannelEndpointEvent → CommissioningScan
  | .agent (.commissioningComplete (.discovered identity)) =>
    if identity.roundNonce = value.roundNonce then
      { value with
        discovered :=
          if value.discovered.any (·.hardwareId = identity.hardwareId) then value.discovered
          else value.discovered ++ [identity]
        nextSlot := followingSlot value.nextSlot
        activeSlot := none }
    else value
  | .agent (.commissioningSlotEmpty roundNonce slotIndex) =>
    if roundNonce = value.roundNonce ∧ some slotIndex = value.activeSlot then
      { value with nextSlot := followingSlot value.nextSlot, activeSlot := none }
    else value
  | _ => value

def assignEvent (value : CommissioningAssign) (agent : ChannelAgent) :
    ChannelEndpointEvent → Driven CommissioningExecution × ChannelAgent
  | .agent (.commissioningComplete (.assigned assigned)) =>
    if assigned.hardwareId = value.expected.hardwareId ∧
        assigned.nodeAddress = value.nodeAddress then
      match agent.submitHandshake (requirements value) with
      | (.error _, agent) => (.ended (.stepFailed .commissioningFailed), agent)
      | (.ok (), agent) => (.goesOn (.assign { value with phase := .verifying assigned }), agent)
    else (.goesOn (.assign value), agent)
  | .agent (.handshakeComplete nodeAddress identity _) =>
    match value.phase with
    | .verifying assigned =>
      if nodeAddress = value.nodeAddress ∧ identity.hardwareId = value.expected.hardwareId then
        (.ended (.completed (.addressAssigned assigned)), agent)
      else (.goesOn (.assign value), agent)
    | .assigning _ => (.goesOn (.assign value), agent)
  | _ => (.goesOn (.assign value), agent)

variable (execution : CommissioningExecution) (agent : ChannelAgent) (inputs : DriveInputs)

/-- The step of the endpoint, with what its event means for the execution. -/
def stepped : Driven CommissioningExecution × ChannelAgent :=
  match agent.endpointStep inputs.endpoint with
  | (.error _, agent) => (.ended (.stepFailed .commissioningFailed), agent)
  | (.ok event, agent) =>
    match execution with
    | scan value => (.goesOn (.scan (scanEvent value event)), agent)
    | assign value => assignEvent value agent event

/-- A scan without a probe under way sends the next one, or is complete. -/
def advance : Driven CommissioningExecution × ChannelAgent :=
  match execution with
  | scan value =>
    if value.activeSlot.isNone then
      if value.nextSlot = value.slotCount then
        (.ended (.completed (.commissioningScan value.roundNonce value.slotCount
          value.discovered)), agent)
      else match agent.submitCommissioningProbe
          ⟨value.roundNonce, value.slotCount, value.nextSlot⟩ with
        | (.error _, agent) => (.ended (.stepFailed .commissioningFailed), agent)
        | (.ok (), agent) =>
          (scan { value with activeSlot := some value.nextSlot }).stepped agent inputs
    else (scan value).stepped agent inputs
  | assign value => (assign value).stepped agent inputs

def drive : Driven CommissioningExecution × ChannelAgent :=
  if execution.deadline ≤ inputs.instant then
    match execution.key with
    | none => (.ended (.failed .commissioningDeadline), agent)
    | some key =>
      match abandon agent key with
      | (.gone, agent) => (.ended (.failed .commissioningDeadline), agent)
      | (.inFlight, agent) => (.goesOn execution, agent)
      | (.failed, agent) => (.ended (.stepFailed .commissioningFailed), agent)
  else execution.advance agent inputs

end CommissioningExecution

structure RestartExecution where
  nodeAddress : UInt8
  operationId : UInt32
  deadline : Instant
  settleUntil : Option Instant := none
  terminalError : Option OperationsError := none

namespace RestartExecution

/-- Ten seconds in the unit of the instants. -/
def settleTime : Nat := 10000

variable (execution : RestartExecution)

def key : ControlWorkKey :=
  .lifecycle execution.nodeAddress execution.operationId

def stepped (execution : RestartExecution) (agent : ChannelAgent) (inputs : DriveInputs) :
    Driven RestartExecution × ChannelAgent :=
  match agent.endpointStep inputs.endpoint with
  | (.error _, agent) => (.goesOn { execution with terminalError := some .restartFailed }, agent)
  | (.ok (.agent (.lifecycleComplete nodeAddress result)), agent) =>
    if nodeAddress = execution.nodeAddress ∧ result.operationId = execution.operationId ∧
        result.code = .ok ∧ execution.settleUntil.isNone then
      (.goesOn { execution with settleUntil := some (inputs.stepped + settleTime) }, agent)
    else (.goesOn execution, agent)
  | (.ok _, agent) => (.goesOn execution, agent)

def expired (instant : Instant) : RestartExecution :=
  if execution.terminalError.isNone ∧ execution.deadline ≤ instant then
    { execution with terminalError := some .restartDeadline }
  else execution

def drive (agent : ChannelAgent) (inputs : DriveInputs) : Driven RestartExecution × ChannelAgent :=
  match execution.settleUntil with
  | some settleUntil =>
    -- The reset was answered: the endpoint is left alone while the node starts again.
    if inputs.instant < settleUntil then (.goesOn execution, agent)
    else (.ended (.completed (.nodeRestartRequested execution.nodeAddress)), agent)
  | none =>
    let execution := execution.expired inputs.instant
    match execution.terminalError with
    | none => execution.stepped agent inputs
    | some error =>
      match abandon agent execution.key with
      | (.gone, agent) => (.ended (.failed error), agent)
      | (.inFlight, agent) => (.goesOn execution, agent)
      | (.failed, agent) => (.ended (.stepFailed .restartFailed), agent)

end RestartExecution

inductive Execution where
  | configuration (execution : ConfigurationExecution)
  | commissioning (execution : CommissioningExecution)
  | restart (execution : RestartExecution)

namespace Execution

def deadline : Execution → Instant
  | configuration execution => execution.deadline
  | commissioning execution => execution.deadline
  | restart execution => execution.deadline

def wrap {ε : Type} (make : ε → Execution) (driven : Driven ε × ChannelAgent) :
    Driven Execution × ChannelAgent :=
  match driven with
  | (.ended ending, agent) => (.ended ending, agent)
  | (.goesOn execution, agent) => (.goesOn (make execution), agent)

def drive (commit : ConfigOperationResult → Except (OperationsError × Bool) Unit) :
    Execution → ChannelAgent → DriveInputs → Driven Execution × ChannelAgent
  | configuration execution, agent, inputs =>
    wrap configuration (execution.drive commit agent inputs)
  | commissioning execution, agent, inputs => wrap commissioning (execution.drive agent inputs)
  | restart execution, agent, inputs => wrap restart (execution.drive agent inputs)

end Execution
end SensorSystem.Host.Service
