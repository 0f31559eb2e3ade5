import SensorSystem.Host.Channel.Transaction
import SensorSystem.Host.Protocol.ControlWire

/-! `handshake.rs`, `lifecycle.rs`, `configuration.rs` and `commissioning.rs`: one logical
operation across any number of wire attempts. A response that fails is returned with the operation
it leaves, since the phase has moved by then. -/

namespace SensorSystem.Host

open Framing (broadcastAddress)

/-- The phases of the three operations that keep one. -/
inductive OperationPhase where
  | readyToSend
  | awaitingResponse
  | reconcileRequired
  | complete
  | failed
deriving DecidableEq

/-- A wire attempt may begin. -/
def OperationPhase.attemptable (phase : OperationPhase) : Bool :=
  phase == .readyToSend || phase == .reconcileRequired

/-- The request of an attempt with its payload. -/
structure OperationAttempt (Request : Type) where
  request : Request
  payload : List UInt8

structure HandshakeRequirements where
  hardwareId : HardwareId
  nodeAddress : UInt8
  boardRevision : UInt8
  requiredServices : UInt32
  requiredFeatures : UInt64
  requiredOutputRate : Option OutputRateCode
  schema1MigrationFirmware : Option FirmwareVersion
deriving DecidableEq

inductive HandshakePhase where
  | needIdentity
  | needCapabilities
  | ready
deriving DecidableEq

inductive HandshakeError where
  | unexpectedPhase
  | contract (error : IdentityContractError)
  | hardwareIdMismatch
  | nodeAddressMismatch
  | boardRevisionMismatch
  | firmwareVersionMismatch
  | missingServices (bits : UInt32)
  | missingFeatures (bits : UInt64)
  | unsupportedOutputRate (rate : OutputRateCode)
deriving DecidableEq

structure NodeHandshake where
  requirements : HandshakeRequirements
  phase : HandshakePhase := .needIdentity
  identity : Option NodeIdentity := none
  capabilities : Option NodeCapabilities := none

namespace NodeHandshake

variable (handshake : NodeHandshake)

/-- A payload that is refused leaves the handshake as it is. -/
def acceptIdentity (payload : List UInt8) : Except HandshakeError NodeHandshake := do
  if handshake.phase ≠ .needIdentity then .error .unexpectedPhase
  else
    let identity ← (NodeIdentity.decode payload >>= NodeIdentity.requireLocalProtocol).mapError
      .contract
    if identity.hardwareId ≠ handshake.requirements.hardwareId then .error .hardwareIdMismatch
    else if identity.nodeAddress ≠ handshake.requirements.nodeAddress then
      .error .nodeAddressMismatch
    else if identity.boardRevision ≠ handshake.requirements.boardRevision then
      .error .boardRevisionMismatch
    else .ok { handshake with identity := some identity, phase := .needCapabilities }

/-- The capabilities of a payload, if it is of the expected release. -/
def decodeCapabilities (payload : List UInt8) : Except HandshakeError NodeCapabilities :=
  match NodeCapabilities.decode payload with
  | .ok capabilities => .ok capabilities
  | .error error =>
    match handshake.requirements.schema1MigrationFirmware with
    | none => .error (.contract error)
    | some expectedFirmware =>
      if handshake.identity.map (·.firmware) ≠ some expectedFirmware then
        .error .firmwareVersionMismatch
      else (NodeCapabilities.decodeSchema1ForMigration payload).mapError .contract

def acceptCapabilities (payload : List UInt8) : Except HandshakeError NodeHandshake := do
  if handshake.phase ≠ .needCapabilities then .error .unexpectedPhase
  else
    let capabilities ← handshake.decodeCapabilities payload
    let missingServices := handshake.requirements.requiredServices &&& ~~~capabilities.serviceFlags
    let missingFeatures := handshake.requirements.requiredFeatures &&& ~~~capabilities.featureFlags
    if missingServices ≠ 0 then .error (.missingServices missingServices)
    else if missingFeatures ≠ 0 then .error (.missingFeatures missingFeatures)
    else match handshake.requirements.requiredOutputRate with
      | some rate =>
        if ¬ capabilities.supportsOutputRate rate then .error (.unsupportedOutputRate rate)
        else .ok { handshake with capabilities := some capabilities, phase := .ready }
      | none => .ok { handshake with capabilities := some capabilities, phase := .ready }

end NodeHandshake

/-- Both requests of the handshake, which differ in their message. -/
def handshakeRequest (message nodeAddress : UInt8) (timeout : DurationMicros) : RequestSpec where
  nodeAddress
  service := identityServiceId
  requestMessage := message
  responseMessage := message
  timeout
  timeoutRecovery := .retrySafe

def identityRequest : UInt8 → DurationMicros → RequestSpec := handshakeRequest getIdentityMessageId
def capabilitiesRequest : UInt8 → DurationMicros → RequestSpec :=
  handshakeRequest getCapabilitiesMessageId

inductive LifecycleOutcome where
  | notAccepted
  | inProgress (result : RuntimeResult)
  | complete (result : RuntimeResult)

inductive LifecycleError where
  | unexpectedPhase
  | wire (error : LifecycleWireError)
  | operationIdMismatch (expected received : UInt32)
deriving DecidableEq

structure LifecycleOperation where
  nodeAddress : UInt8
  command : RuntimeCommand
  phase : OperationPhase := .readyToSend
  terminalResult : Option RuntimeResult := none

namespace LifecycleOperation

def new (nodeAddress : UInt8) (command : RuntimeCommand) :
    Except LifecycleError LifecycleOperation := do
  let _ ← (encodeLifecycleRequest command).mapError LifecycleError.wire
  .ok { nodeAddress, command }

variable (operation : LifecycleOperation)

def beginAttempt (timeout : DurationMicros) :
    Except LifecycleError (OperationAttempt RequestSpec × LifecycleOperation) := do
  if ¬ operation.phase.attemptable then .error .unexpectedPhase
  else
    let encoded ← (encodeLifecycleRequest operation.command).mapError LifecycleError.wire
    let request := {
      nodeAddress := operation.nodeAddress
      service := lifecycleServiceId
      requestMessage := encoded.message
      responseMessage := encoded.message
      timeout
      timeoutRecovery := .reconcileState }
    .ok (⟨request, encoded.payload⟩, { operation with phase := .awaitingResponse })

def markTimeout : Except LifecycleError LifecycleOperation :=
  if operation.phase ≠ .awaitingResponse then .error .unexpectedPhase
  else .ok { operation with phase := .reconcileRequired }

def acceptResponse (payload : List UInt8) :
    Except LifecycleError LifecycleOutcome × LifecycleOperation :=
  if operation.phase ≠ .awaitingResponse then (.error .unexpectedPhase, operation)
  else match decodeLifecycleResponse payload with
    | .error (.remoteError .busy) => (.ok .notAccepted, { operation with phase := .readyToSend })
    | .error error => (.error (.wire error), { operation with phase := .failed })
    | .ok result =>
      if result.operationId ≠ operation.command.operationId then
        (.error (.operationIdMismatch operation.command.operationId result.operationId),
          { operation with phase := .failed })
      else if result.code = .inProgress then
        (.ok (.inProgress result), { operation with phase := .reconcileRequired })
      else
        (.ok (.complete result),
          { operation with phase := .complete, terminalResult := some result })

end LifecycleOperation

inductive ConfigurationRequest where
  | get
  | validate (configuration : MeasurementConfiguration)
  | apply (request : ConfigOperationRequest)
  | reset (operationId expectedRevision : UInt32)

namespace ConfigurationRequest

def operationId : ConfigurationRequest → Option UInt32
  | apply request => some request.operationId
  | reset operationId _ => some operationId
  | get | validate _ => none

def messageId : ConfigurationRequest → UInt8
  | get => getConfigMessageId
  | validate _ => validateConfigMessageId
  | apply _ => applyConfigMessageId
  | reset _ _ => resetConfigMessageId

def mutates : ConfigurationRequest → Bool
  | apply _ | reset _ _ => true
  | get | validate _ => false

/-- The payload of a request; `validate_request` is whether there is one. -/
def payload : ConfigurationRequest → Except ConfigurationWireError (List UInt8)
  | get => .ok []
  | validate configuration => encodeConfiguration configuration
  | apply request => encodeApplyConfigRequest request
  | reset operationId expectedRevision => encodeResetConfigRequest operationId expectedRevision

end ConfigurationRequest

inductive ConfigurationOutcome where
  | notAccepted
  | observed (configuration : ObservedConfiguration)
  | validated (result : ConfigValidationResult)
  | applied (result : ConfigOperationResult)
deriving DecidableEq

inductive ConfigurationError where
  | invalidNodeAddress (address : UInt8)
  | unexpectedPhase
  | operationIdMismatch (expected : Option UInt32) (received : UInt32)
  | wire (error : ConfigurationWireError)
deriving DecidableEq

structure ConfigurationOperation where
  nodeAddress : UInt8
  request : ConfigurationRequest
  phase : OperationPhase := .readyToSend

namespace ConfigurationOperation

def new (nodeAddress : UInt8) (request : ConfigurationRequest) :
    Except ConfigurationError ConfigurationOperation := do
  if ¬ (1 ≤ nodeAddress ∧ nodeAddress ≤ 253) then .error (.invalidNodeAddress nodeAddress)
  else
    let _ ← request.payload.mapError ConfigurationError.wire
    .ok { nodeAddress, request }

variable (operation : ConfigurationOperation)

def beginAttempt (timeout : DurationMicros) :
    Except ConfigurationError (OperationAttempt RequestSpec × ConfigurationOperation) := do
  if ¬ operation.phase.attemptable then .error .unexpectedPhase
  else
    let payload ← operation.request.payload.mapError ConfigurationError.wire
    let request := {
      nodeAddress := operation.nodeAddress
      service := configurationServiceId
      requestMessage := operation.request.messageId
      responseMessage := operation.request.messageId
      timeout
      timeoutRecovery := if operation.request.mutates then .reconcileState else .retrySafe }
    .ok (⟨request, payload⟩, { operation with phase := .awaitingResponse })

def markTimeout : Except ConfigurationError ConfigurationOperation :=
  if operation.phase ≠ .awaitingResponse then .error .unexpectedPhase
  else .ok { operation with phase := .reconcileRequired }

def decodeResponse (payload : List UInt8) : Except ConfigurationWireError ConfigurationOutcome :=
  match operation.request with
  | .get => .observed <$> decodeGetConfigResponse payload
  | .validate _ => .validated <$> decodeValidateConfigResponse payload
  | .apply _ | .reset _ _ => .applied <$> decodeConfigOperationResponse payload

/-- The response is about another operation than the request. -/
def mismatched : ConfigurationOutcome → Option UInt32
  | .applied result =>
    if some result.operationId ≠ operation.request.operationId then some result.operationId
    else none
  | _ => none

def acceptResponse (payload : List UInt8) :
    Except ConfigurationError ConfigurationOutcome × ConfigurationOperation :=
  if operation.phase ≠ .awaitingResponse then (.error .unexpectedPhase, operation)
  else match operation.decodeResponse payload with
    | .ok outcome =>
      match operation.mismatched outcome with
      | some received =>
        (.error (.operationIdMismatch operation.request.operationId received),
          { operation with phase := .failed })
      | none => (.ok outcome, { operation with phase := .complete })
    | .error (.remote .busy) =>
      (.ok .notAccepted,
        { operation with
          phase := if operation.request.mutates then .reconcileRequired else .readyToSend })
    | .error error => (.error (.wire error), { operation with phase := .failed })

end ConfigurationOperation

def commissioningAddress : UInt8 := 254

inductive CommissioningRequest where
  | probe (request : ProbeSlotRequest)
  | assign (request : AssignAddressRequest)

namespace CommissioningRequest

def operationId : CommissioningRequest → Option UInt32
  | probe _ => none
  | assign request => some request.operationId

/-- The payload of a request; `validate_request` is whether there is one. -/
def payload : CommissioningRequest → Except CommissioningWireError (List UInt8)
  | probe request => encodeProbeSlotRequest request
  | assign request => encodeAssignAddressRequest request

def messageId : CommissioningRequest → UInt8
  | probe _ => probeSlotMessageId
  | assign _ => assignAddressMessageId

def timeoutRecovery : CommissioningRequest → TimeoutRecovery
  | probe _ => .retrySafe
  | assign _ => .reconcileState

end CommissioningRequest

inductive CommissioningOutcome where
  | notAccepted
  | discovered (identity : CommissioningIdentity)
  | assigned (response : AssignAddressResponse)
deriving DecidableEq

inductive CommissioningError where
  | unexpectedPhase
  | roundNonceMismatch
  | operationIdMismatch
  | assignmentMismatch
  | wire (error : CommissioningWireError)
deriving DecidableEq

structure CommissioningOperation where
  request : CommissioningRequest
  phase : OperationPhase := .readyToSend

namespace CommissioningOperation

def new (request : CommissioningRequest) : Except CommissioningError CommissioningOperation := do
  let _ ← request.payload.mapError CommissioningError.wire
  .ok { request }

variable (operation : CommissioningOperation)

def beginAttempt (timeout : DurationMicros) :
    Except CommissioningError (OperationAttempt RoutedRequestSpec × CommissioningOperation) := do
  if ¬ operation.phase.attemptable then .error .unexpectedPhase
  else
    let payload ← operation.request.payload.mapError CommissioningError.wire
    let request := {
      requestDestination := broadcastAddress
      responseSource := commissioningAddress
      service := commissioningServiceId
      requestMessage := operation.request.messageId
      responseMessage := operation.request.messageId
      timeout
      timeoutRecovery := operation.request.timeoutRecovery }
    .ok (⟨request, payload⟩, { operation with phase := .awaitingResponse })

def markTimeout : Except CommissioningError CommissioningOperation :=
  if operation.phase ≠ .awaitingResponse then .error .unexpectedPhase
  else match operation.request with
    | .probe _ => .ok { operation with phase := .complete }
    | .assign _ => .ok { operation with phase := .reconcileRequired }

def markTransmitFailed : Except CommissioningError CommissioningOperation :=
  if operation.phase ≠ .awaitingResponse then .error .unexpectedPhase
  else match operation.request with
    | .probe _ => .ok { operation with phase := .readyToSend }
    | .assign _ => .ok { operation with phase := .reconcileRequired }

def fail (error : CommissioningError) :
    Except CommissioningError CommissioningOutcome × CommissioningOperation :=
  (.error error, { operation with phase := .failed })

/-- A probe response that fails to decode leaves the phase. -/
def acceptResponse (payload : List UInt8) :
    Except CommissioningError CommissioningOutcome × CommissioningOperation :=
  if operation.phase ≠ .awaitingResponse then (.error .unexpectedPhase, operation)
  else match operation.request with
    | .probe expected =>
      match decodeProbeSlotResponse payload with
      | .error error => (.error (.wire error), operation)
      | .ok identity =>
        if identity.roundNonce ≠ expected.roundNonce then operation.fail .roundNonceMismatch
        else (.ok (.discovered identity), { operation with phase := .complete })
    | .assign expected =>
      match decodeAssignAddressResponse payload with
      | .error (.remote .busy) =>
        (.ok .notAccepted, { operation with phase := .reconcileRequired })
      | .error error => operation.fail (.wire error)
      | .ok assigned =>
        if assigned.operationId ≠ expected.operationId then operation.fail .operationIdMismatch
        else if assigned.hardwareId ≠ expected.hardwareId ∨
            assigned.nodeAddress ≠ expected.nodeAddress then
          operation.fail .assignmentMismatch
        else (.ok (.assigned assigned), { operation with phase := .complete })

end CommissioningOperation
end SensorSystem.Host
