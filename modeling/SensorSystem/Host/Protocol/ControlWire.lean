import SensorSystem.Host.Protocol.ConfigurationWire

/-! `lifecycle_wire.rs` and `commissioning_wire.rs`: the requests the host sends and the responses
it takes. -/

namespace SensorSystem.Host

open Base

def lifecycleServiceId : UInt8 := ServiceId.lifecycle.toByte
def lifecycleResponseBytes : Nat := 9

inductive LifecycleWireError where
  | invalidLength
  | unknownMessage (value : UInt8)
  | zeroOperationId
  | unknownResponseStatus (value : UInt8)
  | remoteError (status : ResponseStatus)
  | unknownResultCode (value : UInt8)
  | unknownRuntimeState (value : UInt8)
  | unknownObservabilityProfile (value : UInt8)
  | unknownSensorStatus (value : UInt8)
deriving DecidableEq

inductive RuntimeOperation where
  | getState
  | start
  | stop
  | enterMaintenance
  | exitMaintenance
  | setObservabilityProfile
  | prepareFirmwareUpdate
  | confirmTrialBoot
  | restartNode
deriving DecidableEq

def RuntimeOperation.messageId : RuntimeOperation → UInt8
  | getState => 1
  | start => 2
  | stop => 3
  | enterMaintenance => 4
  | exitMaintenance => 5
  | setObservabilityProfile => 6
  | prepareFirmwareUpdate => 7
  | confirmTrialBoot => 8
  | restartNode => 9

inductive RuntimeState where
  | idle
  | recording
  | stopping
  | maintenance
  | faulted
deriving DecidableEq

variable (value : UInt8)

def RuntimeState.tryFrom : Except LifecycleWireError RuntimeState :=
  match value.toNat with
  | 0 => .ok idle
  | 1 => .ok recording
  | 2 => .ok stopping
  | 3 => .ok maintenance
  | 4 => .ok faulted
  | _ => .error (.unknownRuntimeState value)

inductive ObservabilityProfile where
  | production
  | diagnostic
deriving DecidableEq

def ObservabilityProfile.toByte : ObservabilityProfile → UInt8
  | production => 0
  | diagnostic => 1

def ObservabilityProfile.tryFrom : Except LifecycleWireError ObservabilityProfile :=
  match value.toNat with
  | 0 => .ok production
  | 1 => .ok diagnostic
  | _ => .error (.unknownObservabilityProfile value)

inductive RuntimeResultCode where
  | ok
  | invalidOperation
  | invalidState
  | invalidArgument
  | inProgress
  | transitionFailed
  | faulted
deriving DecidableEq

def RuntimeResultCode.tryFrom : Except LifecycleWireError RuntimeResultCode :=
  match value.toNat with
  | 0 => .ok ok
  | 1 => .ok invalidOperation
  | 2 => .ok invalidState
  | 3 => .ok invalidArgument
  | 4 => .ok inProgress
  | 5 => .ok transitionFailed
  | 6 => .ok faulted
  | _ => .error (.unknownResultCode value)

inductive SensorStatusCode where
  | ok
  | notInitialized
  | busy
  | commError
  | timeout
  | invalidParam
  | notSupported
  | invalidDevice
  | noData
  | invalidSample
  | internalError
deriving DecidableEq

def SensorStatusCode.tryFrom : Except LifecycleWireError SensorStatusCode :=
  match value.toNat with
  | 0 => .ok ok
  | 1 => .ok notInitialized
  | 2 => .ok busy
  | 3 => .ok commError
  | 4 => .ok timeout
  | 5 => .ok invalidParam
  | 6 => .ok notSupported
  | 7 => .ok invalidDevice
  | 8 => .ok noData
  | 9 => .ok invalidSample
  | 10 => .ok internalError
  | _ => .error (.unknownSensorStatus value)

structure RuntimeCommand where
  operationId : UInt32
  operation : RuntimeOperation
  requestedProfile : ObservabilityProfile

/-- The message of a command and the used part of its payload. -/
structure EncodedRuntimeCommand where
  message : UInt8
  payload : List UInt8

structure RuntimeResult where
  operationId : UInt32
  code : RuntimeResultCode
  state : RuntimeState
  observability : ObservabilityProfile
  sensorStatus : SensorStatusCode
deriving DecidableEq

def encodeLifecycleRequest (command : RuntimeCommand) :
    Except LifecycleWireError EncodedRuntimeCommand :=
  if command.operationId = 0 then .error .zeroOperationId
  else .ok {
    message := command.operation.messageId
    payload := u32Bytes command.operationId ++
      if command.operation = .setObservabilityProfile then [command.requestedProfile.toByte]
      else [] }

variable (payload : List UInt8)

def decodeLifecycleResponse : Except LifecycleWireError RuntimeResult :=
  match payload with
  | [] => .error .invalidLength
  | raw :: _ =>
    match ResponseStatus.tryFrom raw with
    | none => .error (.unknownResponseStatus raw)
    | some .ok => do
      if payload.length ≠ lifecycleResponseBytes then .error .invalidLength
      else if readU32 payload 1 = 0 then .error .zeroOperationId
      else
        let code ← RuntimeResultCode.tryFrom (payload.getD 5 0)
        let state ← RuntimeState.tryFrom (payload.getD 6 0)
        let observability ← ObservabilityProfile.tryFrom (payload.getD 7 0)
        let sensorStatus ← SensorStatusCode.tryFrom (payload.getD 8 0)
        .ok ⟨readU32 payload 1, code, state, observability, sensorStatus⟩
    | some status => .error (.remoteError status)

def commissioningServiceId : UInt8 := ServiceId.commissioning.toByte
def probeSlotMessageId : UInt8 := 1
def assignAddressMessageId : UInt8 := 2
def probeSlotResponseBytes : Nat := 23
def assignAddressResponseBytes : Nat := 14
def maxCommissioningSlots : UInt16 := 256

inductive CommissioningWireError where
  | invalidLength (length : Nat)
  | zeroRoundNonce
  | invalidSlotCount (count : UInt16)
  | invalidSlotIndex (index count : UInt16)
  | zeroOperationId
  | invalidNodeAddress (address : UInt8)
  | invalidBoardRevision
  | unknownResponseStatus (value : UInt8)
  | remote (status : ResponseStatus)
deriving DecidableEq

structure ProbeSlotRequest where
  roundNonce : UInt64
  slotCount : UInt16
  slotIndex : UInt16

variable (request : ProbeSlotRequest)

def ProbeSlotRequest.validate : Except CommissioningWireError ProbeSlotRequest :=
  if request.roundNonce = 0 then .error .zeroRoundNonce
  else if request.slotCount = 0 ∨ request.slotCount > maxCommissioningSlots ∨
      request.slotCount &&& (request.slotCount - 1) ≠ 0 then
    .error (.invalidSlotCount request.slotCount)
  else if request.slotIndex ≥ request.slotCount then
    .error (.invalidSlotIndex request.slotIndex request.slotCount)
  else .ok request

structure CommissioningIdentity where
  roundNonce : UInt64
  hardwareId : HardwareId
  boardRevision : UInt8
  firmware : FirmwareVersion
  protocol : ProtocolVersion
deriving DecidableEq

structure AssignAddressRequest where
  operationId : UInt32
  roundNonce : UInt64
  hardwareId : HardwareId
  nodeAddress : UInt8

structure AssignAddressResponse where
  operationId : UInt32
  hardwareId : HardwareId
  nodeAddress : UInt8
deriving DecidableEq

def encodeProbeSlotRequest : Except CommissioningWireError (List UInt8) := do
  let request ← request.validate
  .ok (u64Bytes request.roundNonce ++ u16Bytes request.slotCount ++ u16Bytes request.slotIndex)

def validateAssignment (operationId : UInt32) (roundNonce : UInt64) (address : UInt8) :
    Except CommissioningWireError Unit :=
  if operationId = 0 then .error .zeroOperationId
  else if roundNonce = 0 then .error .zeroRoundNonce
  else if ¬ (1 ≤ address ∧ address ≤ 253) then .error (.invalidNodeAddress address)
  else .ok ()

def encodeAssignAddressRequest (request : AssignAddressRequest) :
    Except CommissioningWireError (List UInt8) := do
  validateAssignment request.operationId request.roundNonce request.nodeAddress
  .ok (u32Bytes request.operationId ++ u64Bytes request.roundNonce ++
    request.hardwareId.toList ++ [request.nodeAddress])

def commissioningSuccess (expected : Nat) : Except CommissioningWireError Unit :=
  match payload with
  | [] => .error (.invalidLength 0)
  | raw :: _ =>
    match ResponseStatus.tryFrom raw with
    | none => .error (.unknownResponseStatus raw)
    | some .ok =>
      if payload.length ≠ expected then .error (.invalidLength payload.length) else .ok ()
    | some status =>
      if payload.length ≠ 1 then .error (.invalidLength payload.length)
      else .error (.remote status)

def decodeProbeSlotResponse : Except CommissioningWireError CommissioningIdentity := do
  commissioningSuccess payload probeSlotResponseBytes
  if readU64 payload 1 = 0 then .error .zeroRoundNonce
  else if payload.getD 17 0 = 0 then .error .invalidBoardRevision
  else .ok {
    roundNonce := readU64 payload 1
    hardwareId := readHardwareId payload 9
    boardRevision := payload.getD 17 0
    firmware := ⟨payload.getD 18 0, payload.getD 19 0, payload.getD 20 0⟩
    protocol := ⟨payload.getD 21 0, payload.getD 22 0⟩ }

def decodeAssignAddressResponse : Except CommissioningWireError AssignAddressResponse := do
  commissioningSuccess payload assignAddressResponseBytes
  validateAssignment (readU32 payload 1) 1 (payload.getD 13 0)
  .ok ⟨readU32 payload 1, readHardwareId payload 5, payload.getD 13 0⟩

end SensorSystem.Host
