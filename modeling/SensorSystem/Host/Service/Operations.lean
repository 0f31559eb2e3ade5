import SensorSystem.Base.Entries
import SensorSystem.Host.Protocol.ControlWire

/-! `operations.rs`: requests wait in a bounded mailbox, the channel task takes at most one of
them per poll, and a bounded ledger keeps what became of them. Every change is appended to an
audit and published. Both can fail, and a call then returns with what it has done so far. -/

namespace SensorSystem.Host.Operations

open Base

/-- `OperationId` is nonzero. -/
@[ext] structure OperationId where
  value : UInt64
  nonzero : value ≠ 0
deriving Repr

instance : DecidableEq OperationId := fun _ _ => decidable_of_iff _ OperationId.ext_iff.symm

inductive OperationTarget where
  | channel (channelId : UInt8)
  | node (channelId nodeAddress : UInt8)
deriving DecidableEq

inductive ChannelOperatingMode where
  | recording
  | enteringMaintenance
  | maintenance
  | resumingRecording
  | faulted
  | offline
deriving DecidableEq

inductive OperationPhase where
  | accepted
  | running
  | succeeded
  | rejected
  | failed
deriving DecidableEq

def OperationPhase.isTerminal : OperationPhase → Bool
  | succeeded | rejected | failed => true
  | accepted | running => false

inductive OperationKind where
  | readStatus
  | enterMaintenance
  | resumeRecording
  | getConfiguration
  | validateConfiguration (configuration : MeasurementConfiguration)
  | applyConfiguration (expectedRevision : UInt32) (configuration : MeasurementConfiguration)
  | resetConfiguration (expectedRevision : UInt32)
  | setTelemetryInterval (intervalSeconds : UInt32)
  | restartNode
  | scanUnassigned (roundNonce : UInt64) (slotCount : UInt16)
  | assignAddress (roundNonce : UInt64) (hardwareId : HardwareId) (nodeAddress : UInt8)
deriving DecidableEq

structure OperationRequest where
  operationId : OperationId
  target : OperationTarget
  kind : OperationKind
deriving DecidableEq

inductive OperationsError where
  | zeroOperationId
  | invalidChannelId (channelId : UInt8)
  | invalidNodeAddress (nodeAddress : UInt8)
  | invalidConfiguration
  | invalidTelemetryInterval (seconds : UInt32)
  | zeroExpectedRevision
  | zeroRoundNonce
  | invalidSlotCount (count : UInt16)
  | wrongTargetScope
  | wrongMode (mode : ChannelOperatingMode)
  | zeroCapacity
  | operationIdConflict (operationId : OperationId)
  | ledgerFull
  | unknownOperation (operationId : OperationId)
  | invalidPhaseTransition (current next : OperationPhase)
  | invalidErrorPhase (phase : OperationPhase)
  | invalidResultPhase (phase : OperationPhase)
  | commandPathDisconnected
  | wrongChannel (expected received : UInt8)
  | operationInProgress
  | noActiveOperation
  | statusUnavailable
  | auditUnavailable
  | executorUnavailable
  | nodeNotConfigured
  | configurationDeadline
  | configurationFailed
  | configurationAdmissionRejected
  | configurationRejected
  | commissioningFailed
  | commissioningDeadline
  | commissioningIdentityNotScanned
  | commissioningAddressConflict
  | restartFailed
  | restartDeadline
  | maintenanceBarrierDeadline
  | maintenanceDrainDeadline
  | maintenanceConvergenceFailed
  | streamReconciliationRequired
  | resumeVerificationFailed
  | resumeAdmissionRejected
  | resumeActivationFailed
  | nodeOffline
deriving DecidableEq

inductive OperationResult where
  | configurationObserved (configuration : ObservedConfiguration)
  | configurationValidated (result : ConfigValidationResult)
  | configurationApplied (result : ConfigOperationResult)
  | commissioningScan (roundNonce : UInt64) (slotCount : UInt16)
      (discovered : List CommissioningIdentity)
  | addressAssigned (response : AssignAddressResponse)
  | nodeRestartRequested (nodeAddress : UInt8)
  | telemetryIntervalApplied (nodeAddress : UInt8) (intervalSeconds : UInt32)
deriving DecidableEq

def maxHostChannels : Nat := 16

namespace OperationTarget

def channelId : OperationTarget → UInt8
  | channel channelId | node channelId _ => channelId

/-- An address that a node can have. -/
def checkNodeAddress (nodeAddress : UInt8) : Except OperationsError Unit :=
  if 1 ≤ nodeAddress ∧ nodeAddress ≤ 253 then .ok () else .error (.invalidNodeAddress nodeAddress)

def validate (target : OperationTarget) : Except OperationsError Unit :=
  if target.channelId = 0 ∨ target.channelId.toNat > maxHostChannels then
    .error (.invalidChannelId target.channelId)
  else match target with
    | channel _ => .ok ()
    | node _ nodeAddress => checkNodeAddress nodeAddress

end OperationTarget

/-- Maintenance and commissioning are for a channel, all else is for a node. -/
def validateScope : OperationTarget → OperationKind → Except OperationsError Unit
  | _, .readStatus => .ok ()
  | .channel _, .enterMaintenance | .channel _, .resumeRecording => .ok ()
  | .channel _, .scanUnassigned .. | .channel _, .assignAddress .. => .ok ()
  | .node _ _, .getConfiguration | .node _ _, .validateConfiguration _ => .ok ()
  | .node _ _, .applyConfiguration .. | .node _ _, .resetConfiguration _ => .ok ()
  | .node _ _, .setTelemetryInterval _ | .node _ _, .restartNode => .ok ()
  | _, _ => .error .wrongTargetScope

namespace OperationKind

def checkConfiguration (configuration : MeasurementConfiguration) : Except OperationsError Unit :=
  match configuration.validate with
  | .ok _ => .ok ()
  | .error _ => .error .invalidConfiguration

def checkRevision (expectedRevision : UInt32) : Except OperationsError Unit :=
  if expectedRevision = 0 then .error .zeroExpectedRevision else .ok ()

def checkNonce (roundNonce : UInt64) : Except OperationsError Unit :=
  if roundNonce = 0 then .error .zeroRoundNonce else .ok ()

/-- `u16::is_power_of_two` between 1 and 16. -/
def checkSlotCount (slotCount : UInt16) : Except OperationsError Unit :=
  if slotCount ∈ [1, 2, 4, 8, 16] then .ok () else .error (.invalidSlotCount slotCount)

def validate : OperationKind → Except OperationsError Unit
  | validateConfiguration configuration => checkConfiguration configuration
  | applyConfiguration expectedRevision configuration => do
    checkConfiguration configuration
    checkRevision expectedRevision
  | resetConfiguration expectedRevision => checkRevision expectedRevision
  | setTelemetryInterval intervalSeconds =>
    if 60 ≤ intervalSeconds ∧ intervalSeconds ≤ 86400 then .ok ()
    else .error (.invalidTelemetryInterval intervalSeconds)
  | scanUnassigned roundNonce slotCount => do
    checkNonce roundNonce
    checkSlotCount slotCount
  | assignAddress roundNonce _ nodeAddress => do
    checkNonce roundNonce
    OperationTarget.checkNodeAddress nodeAddress
  | readStatus | enterMaintenance | resumeRecording | getConfiguration | restartNode => .ok ()

/-- The modes in which a kind of operation is admitted. -/
def admittedIn : OperationKind → ChannelOperatingMode → Bool
  | readStatus, _ => true
  | enterMaintenance, mode => mode = .recording
  | resumeRecording, mode => mode = .maintenance
  | getConfiguration, mode | validateConfiguration _, mode | applyConfiguration .., mode
  | resetConfiguration _, mode | setTelemetryInterval _, mode =>
    mode = .recording ∨ mode = .maintenance ∨ mode = .faulted
  | restartNode, mode => mode = .maintenance ∨ mode = .faulted ∨ mode = .offline
  | scanUnassigned .., mode | assignAddress .., mode => mode = .maintenance

end OperationKind

def OperationRequest.validate (request : OperationRequest) : Except OperationsError Unit := do
  request.target.validate
  request.kind.validate
  validateScope request.target request.kind

def admitOperation (request : OperationRequest) (mode : ChannelOperatingMode) :
    Except OperationsError Unit := do
  request.validate
  if request.kind.admittedIn mode then .ok () else .error (.wrongMode mode)

structure OperationRecord where
  request : OperationRequest
  phase : OperationPhase
  result : Option OperationResult
  error : Option OperationsError
deriving DecidableEq

def OperationRecord.operationId (record : OperationRecord) : OperationId :=
  record.request.operationId

inductive RegisterOutcome where
  | accepted
  | existing (phase : OperationPhase)

def validPhaseTransition : OperationPhase → OperationPhase → Bool
  | .accepted, .running | .accepted, .rejected | .accepted, .failed => true
  | .running, .succeeded | .running, .failed => true
  | _, _ => false

structure OperationLedger where
  capacity : Nat
  records : List OperationRecord
deriving DecidableEq

namespace OperationLedger

def new (capacity : Nat) : Except OperationsError OperationLedger :=
  if capacity = 0 then .error .zeroCapacity else .ok ⟨capacity, []⟩

variable (ledger : OperationLedger)

def get (operationId : OperationId) : Option OperationRecord :=
  ledger.records.find? (·.operationId = operationId)

/-- A full ledger gives up its first final record. -/
def register (request : OperationRequest) :
    Except OperationsError (RegisterOutcome × OperationLedger) := do
  request.validate
  match ledger.get request.operationId with
  | some record =>
    if record.request = request then .ok (.existing record.phase, ledger)
    else .error (.operationIdConflict request.operationId)
  | none =>
    let accepted : OperationRecord := ⟨request, .accepted, none, none⟩
    if ledger.records.length = ledger.capacity then
      if ledger.records.any (·.phase.isTerminal) then
        .ok (.accepted, { ledger with
          records := ledger.records.eraseP (·.phase.isTerminal) ++ [accepted] })
      else .error .ledgerFull
    else .ok (.accepted, { ledger with records := ledger.records ++ [accepted] })

def update (operationId : OperationId) (change : OperationRecord → OperationRecord) :
    OperationLedger :=
  { ledger with records := updateFirst (·.operationId = operationId) change ledger.records }

def setPhase (operationId : OperationId) (next : OperationPhase) :
    Except OperationsError OperationLedger :=
  match ledger.get operationId with
  | none => .error (.unknownOperation operationId)
  | some record =>
    if validPhaseTransition record.phase next then
      .ok (ledger.update operationId ({ · with phase := next }))
    else .error (.invalidPhaseTransition record.phase next)

def setError (operationId : OperationId) (phase : OperationPhase) (error : OperationsError) :
    Except OperationsError OperationLedger :=
  if phase = .rejected ∨ phase = .failed then do
    let ledger ← ledger.setPhase operationId phase
    .ok (ledger.update operationId ({ · with error := some error }))
  else .error (.invalidErrorPhase phase)

def setResult (operationId : OperationId) (result : OperationResult) :
    Except OperationsError OperationLedger :=
  match ledger.get operationId with
  | none => .error (.unknownOperation operationId)
  | some record =>
    if record.phase ≠ .running then .error (.invalidResultPhase record.phase)
    else .ok (ledger.update operationId ({ · with result := some result }))

end OperationLedger

inductive CommandSubmitError where
  | invalid (error : OperationsError)
  | queueFull
  | disconnected

structure ChannelOperationsPolicy where
  mailboxCapacity : Nat
  ledgerCapacity : Nat

def ChannelOperationsPolicy.validate (policy : ChannelOperationsPolicy) :
    Except OperationsError ChannelOperationsPolicy :=
  if policy.mailboxCapacity = 0 ∨ policy.ledgerCapacity = 0 then .error .zeroCapacity
  else .ok policy

/-- The mailbox between the handles and the channel task. -/
structure ChannelCommandInbox where
  capacity : Nat
  queue : List OperationRequest := []
  connected : Bool := true
deriving DecidableEq

def ChannelCommandInbox.tryReceive (inbox : ChannelCommandInbox) :
    Except OperationsError (Option OperationRequest × ChannelCommandInbox) :=
  match inbox.queue with
  | request :: queue => .ok (some request, { inbox with queue })
  | [] => if inbox.connected then .ok (none, inbox) else .error .commandPathDisconnected

inductive ChannelCommandDecision where
  | none
  | existing (operationId : OperationId) (phase : OperationPhase)
  | rejected (operationId : OperationId) (reason : OperationsError)
  | started (request : OperationRequest)
deriving DecidableEq

structure ChannelOperationsSnapshot where
  channelId : UInt8
  mode : ChannelOperatingMode
  activeOperation : Option OperationId
  records : List OperationRecord
deriving DecidableEq

structure ChannelOperationsController where
  channelId : UInt8
  mode : ChannelOperatingMode := .recording
  inbox : ChannelCommandInbox
  ledger : OperationLedger
  activeOperation : Option OperationId := Option.none
  published : ChannelOperationsSnapshot
deriving DecidableEq

/-- What the audit and the status do during one call. -/
structure CallOutcomes where
  appends : Nat → Bool
  statusAvailable : Bool

namespace ChannelOperationsController

/-- The result of a call and what it leaves of the controller. -/
abbrev Call (α : Type) := Except OperationsError α × ChannelOperationsController

def new (channelId : UInt8) (policy : ChannelOperationsPolicy) :
    Except OperationsError ChannelOperationsController := do
  (OperationTarget.channel channelId).validate
  let policy ← policy.validate
  let ledger ← OperationLedger.new policy.ledgerCapacity
  .ok {
    channelId
    inbox := { capacity := policy.mailboxCapacity }
    ledger
    published := ⟨channelId, .recording, none, []⟩ }

variable (controller : ChannelOperationsController)

/-- `ChannelOperationsHandle::try_submit`. -/
def trySubmit (request : OperationRequest) :
    Except CommandSubmitError Unit × ChannelOperationsController :=
  if request.target.channelId ≠ controller.channelId then
    (.error (.invalid (.wrongChannel controller.channelId request.target.channelId)), controller)
  else match request.validate with
    | .error error => (.error (.invalid error), controller)
    | .ok () =>
      if controller.inbox.queue.length ≥ controller.inbox.capacity then
        (.error .queueFull, controller)
      else (.ok (), { controller with
        inbox := { controller.inbox with queue := controller.inbox.queue ++ [request] } })

def publish {α : Type} (outcomes : CallOutcomes) (value : α) : Call α :=
  if outcomes.statusAvailable then
    (.ok value, { controller with
      published := ⟨controller.channelId, controller.mode, controller.activeOperation,
        controller.ledger.records⟩ })
  else (.error .statusUnavailable, controller)

def auditRecord (operationId : OperationId) (appended : Bool) : Except OperationsError Unit :=
  match controller.ledger.get operationId with
  | none => .error (.unknownOperation operationId)
  | some _ => if appended then .ok () else .error .auditUnavailable

/-- Go on with a changed ledger. -/
def withLedger {α : Type} (ledger : Except OperationsError OperationLedger)
    (next : ChannelOperationsController → Call α) : Call α :=
  match ledger with
  | .error error => (.error error, controller)
  | .ok ledger => next { controller with ledger }

/-- Go on after an append to the audit. -/
def audited {α : Type} (operationId : OperationId) (appended : Bool) (next : Call α) : Call α :=
  match controller.auditRecord operationId appended with
  | .error error => (.error error, controller)
  | .ok () => next

def reject (operationId : OperationId) (reason : OperationsError) (outcomes : CallOutcomes) :
    Call ChannelCommandDecision :=
  controller.withLedger (controller.ledger.setError operationId .rejected reason) fun controller =>
    controller.audited operationId (outcomes.appends 1)
      (controller.publish outcomes (.rejected operationId reason))

/-- An admitted request runs. A status request is done at once. -/
def start (request : OperationRequest) (outcomes : CallOutcomes) : Call ChannelCommandDecision :=
  let operationId := request.operationId
  controller.withLedger (controller.ledger.setPhase operationId .running) fun controller =>
    controller.audited operationId (outcomes.appends 1)
      (if request.kind = .readStatus then
        controller.withLedger (controller.ledger.setPhase operationId .succeeded) fun controller =>
          controller.audited operationId (outcomes.appends 2)
            (controller.publish outcomes (.existing operationId .succeeded))
      else
        { controller with activeOperation := some operationId }.publish outcomes
          (.started request))

def pollCommand (outcomes : CallOutcomes) : Call ChannelCommandDecision :=
  match controller.inbox.tryReceive with
  | .error error => (.error error, controller)
  | .ok (none, inbox) => (.ok .none, { controller with inbox })
  | .ok (some request, inbox) =>
    let controller := { controller with inbox }
    if request.target.channelId ≠ controller.channelId then
      (.error (.wrongChannel controller.channelId request.target.channelId), controller)
    else match controller.ledger.register request with
      | .error error => (.error error, controller)
      | .ok (.existing phase, _) =>
        controller.publish outcomes (.existing request.operationId phase)
      | .ok (.accepted, ledger) =>
        let controller := { controller with ledger }
        controller.audited request.operationId (outcomes.appends 0)
          (match admitOperation request controller.mode with
          | .error reason => controller.reject request.operationId reason outcomes
          | .ok () =>
            if controller.activeOperation.isSome then
              controller.reject request.operationId .operationInProgress outcomes
            else controller.start request outcomes)

def setMode (mode : ChannelOperatingMode) (outcomes : CallOutcomes) : Call Unit :=
  { controller with mode }.publish outcomes ()

/-- The active operation is over, whatever becomes of its record. -/
def conclude (outcomes : CallOutcomes)
    (change : OperationLedger → OperationId → Except OperationsError OperationLedger) :
    Call OperationId :=
  match controller.activeOperation with
  | none => (.error .noActiveOperation, controller)
  | some operationId =>
    let controller := { controller with activeOperation := none }
    controller.withLedger (change controller.ledger operationId) fun controller =>
      controller.audited operationId (outcomes.appends 0)
        (controller.publish outcomes operationId)

def finishActive (succeeded : Bool) (outcomes : CallOutcomes) : Call OperationId :=
  controller.conclude outcomes fun ledger operationId =>
    ledger.setPhase operationId (if succeeded then .succeeded else .failed)

def completeActive (result : OperationResult) (outcomes : CallOutcomes) : Call OperationId :=
  controller.conclude outcomes fun ledger operationId => do
    let ledger ← ledger.setResult operationId result
    ledger.setPhase operationId .succeeded

def failActive (error : OperationsError) (outcomes : CallOutcomes) : Call OperationId :=
  controller.conclude outcomes fun ledger operationId => ledger.setError operationId .failed error

def failActiveWithResult (result : OperationResult) (error : OperationsError)
    (outcomes : CallOutcomes) : Call OperationId :=
  controller.conclude outcomes fun ledger operationId => do
    let ledger ← ledger.setResult operationId result
    ledger.setError operationId .failed error

end ChannelOperationsController
end SensorSystem.Host.Operations
