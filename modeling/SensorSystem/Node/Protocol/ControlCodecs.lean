import SensorSystem.Node.Protocol.ApplicationServices

/-! `configuration.cpp`, `lifecycle.cpp` and `commissioning.cpp`: the requests that the node
decodes and the responses it encodes. A code that is cast from a byte stays a byte until it is
checked. A decoder gives a value only with its success; an encoder gets the whole output buffer,
and a null output is an empty one. -/

namespace SensorSystem.Node.Wire

open Base

def readU32 (input : List UInt8) (offset : Nat) : UInt32 :=
  UInt32.ofNat (orBytes 32 0 (slice input offset 4) 0)

def getConfigMessageId : UInt8 := 1
def validateConfigMessageId : UInt8 := 2
def applyConfigMessageId : UInt8 := 3
def resetConfigMessageId : UInt8 := 4
def configurationSchemaVersion : UInt8 := 1
def configurationValueBytes : Nat := 12
def observedConfigBytes : Nat := 18
def getConfigResponseBytes : Nat := 19
def validateConfigResponseBytes : Nat := 3
def applyConfigRequestBytes : Nat := 20
def resetConfigRequestBytes : Nat := 8
def configOperationResponseBytes : Nat := 32

inductive ConfigurationCodecStatus where
  | ok
  | outputTooSmall
  | invalidPayloadLength
  | unsupportedSchema
  | unknownOutputRate
  | invalidRange
  | invalidHighPassCorner
  | unknownFilterProfile
  | invalidFifoWatermark
  | zeroOperationId
  | zeroRevision
  | unknownSensorOdr
  | zeroDecimationFactor
  | inconsistentObservedRate
deriving DecidableEq

structure MeasurementConfiguration where
  outputRate : UInt8 := 5
  rangeG : UInt8 := 2
  highPassCorner : UInt8 := 0
  filterProfile : UInt8 := 1
  fifoWatermark : UInt8 := 30
  offsetX : Int16 := 0
  offsetY : Int16 := 0
  offsetZ : Int16 := 0
deriving DecidableEq

structure ObservedConfiguration where
  revision : UInt32 := 0
  desired : MeasurementConfiguration := {}
  sensorOdrRegister : UInt8 := 0
  decimationFactor : UInt8 := 0

inductive ConfigValidationCode where
  | valid
  | unsupportedOutputRate
  | invalidRange
  | invalidHighPassCorner
  | invalidFilterProfile
  | invalidFifoWatermark
  | invalidOffset

def ConfigValidationCode.toByte : ConfigValidationCode → UInt8
  | valid => 0
  | unsupportedOutputRate => 1
  | invalidRange => 2
  | invalidHighPassCorner => 3
  | invalidFilterProfile => 4
  | invalidFifoWatermark => 5
  | invalidOffset => 6

inductive ConfigField where
  | none
  | outputRate
  | range
  | highPassCorner
  | filterProfile
  | fifoWatermark
  | offsetX
  | offsetY
  | offsetZ

def ConfigField.toByte : ConfigField → UInt8
  | none => 0
  | outputRate => 1
  | range => 2
  | highPassCorner => 3
  | filterProfile => 4
  | fifoWatermark => 5
  | offsetX => 6
  | offsetY => 7
  | offsetZ => 8

structure ConfigValidationResult where
  code : ConfigValidationCode := .valid
  field : ConfigField := .none

structure ConfigOperationRequest where
  operationId : UInt32 := 0
  expectedRevision : UInt32 := 0
  configuration : MeasurementConfiguration := {}
deriving DecidableEq

inductive ConfigOperationCode where
  | applied
  | revisionConflict
  | invalidConfiguration
  | storageFailed
  | sensorFailed
  | rollbackFailed
  | wrongMode
deriving DecidableEq

def ConfigOperationCode.toByte : ConfigOperationCode → UInt8
  | applied => 0
  | revisionConflict => 1
  | invalidConfiguration => 2
  | storageFailed => 3
  | sensorFailed => 4
  | rollbackFailed => 5
  | wrongMode => 6

structure ConfigOperationResult where
  operationId : UInt32 := 0
  code : ConfigOperationCode := .applied
  observed : ObservedConfiguration := {}
  effectiveSampleSeq : UInt64 := 0

variable (value : UInt8)

def knownOutputRate : Bool := value ≤ 10

def knownSensorOdr : Bool := value ≤ 0x0a

/-- The comparison is of integers: the code is one at least. -/
def ratesMatch (output sensorOdr factor : UInt8) : Bool :=
  factor = 2 && output ≥ 1 && sensorOdr.toNat = output.toNat - 1

def MeasurementConfiguration.validate (value : MeasurementConfiguration) :
    ConfigurationCodecStatus :=
  if !knownOutputRate value.outputRate then .unknownOutputRate
  else if value.rangeG ≠ 2 ∧ value.rangeG ≠ 4 ∧ value.rangeG ≠ 8 then .invalidRange
  else if value.highPassCorner > 7 then .invalidHighPassCorner
  else if value.filterProfile > 2 then .unknownFilterProfile
  else if value.fifoWatermark < 3 ∨ value.fifoWatermark > 96 ∨ value.fifoWatermark % 3 ≠ 0 then
    .invalidFifoWatermark
  else .ok

def ObservedConfiguration.validate (value : ObservedConfiguration) : ConfigurationCodecStatus :=
  if value.desired.validate ≠ .ok then value.desired.validate
  else if value.revision = 0 then .zeroRevision
  else if !knownSensorOdr value.sensorOdrRegister then .unknownSensorOdr
  else if value.decimationFactor = 0 then .zeroDecimationFactor
  else if !ratesMatch value.desired.outputRate value.sensorOdrRegister value.decimationFactor then
    .inconsistentObservedRate
  else .ok

variable (payload : List UInt8)

def readConfiguration (offset : Nat) : MeasurementConfiguration where
  outputRate := payload.getD (offset + 1) 0
  rangeG := payload.getD (offset + 2) 0
  highPassCorner := payload.getD (offset + 3) 0
  filterProfile := payload.getD (offset + 4) 0
  fifoWatermark := payload.getD (offset + 5) 0
  offsetX := (readU16 payload (offset + 6)).toInt16
  offsetY := (readU16 payload (offset + 8)).toInt16
  offsetZ := (readU16 payload (offset + 10)).toInt16

def decodeConfiguration : ConfigurationCodecStatus × Option MeasurementConfiguration :=
  if payload.length ≠ configurationValueBytes then (.invalidPayloadLength, none)
  else if payload.getD 0 0 ≠ configurationSchemaVersion then (.unsupportedSchema, none)
  else
    let output := readConfiguration payload 0
    if output.validate = .ok then (.ok, some output) else (output.validate, none)

def decodeApplyConfigRequest : ConfigurationCodecStatus × Option ConfigOperationRequest :=
  if payload.length ≠ applyConfigRequestBytes then (.invalidPayloadLength, none)
  else if readU32 payload 0 = 0 then (.zeroOperationId, none)
  else if readU32 payload 4 = 0 then (.zeroRevision, none)
  else match decodeConfiguration (slice payload 8 configurationValueBytes) with
    | (status, configuration) =>
      (status, configuration.map fun configuration =>
        ⟨readU32 payload 0, readU32 payload 4, configuration⟩)

def decodeResetConfigRequest : ConfigurationCodecStatus × Option (UInt32 × UInt32) :=
  if payload.length ≠ resetConfigRequestBytes then (.invalidPayloadLength, none)
  else if readU32 payload 0 = 0 then (.zeroOperationId, none)
  else if readU32 payload 4 = 0 then (.zeroRevision, none)
  else (.ok, some (readU32 payload 0, readU32 payload 4))

/-- `encode_configuration` behind an offset of the output. -/
def encodeConfiguration (value : MeasurementConfiguration) (output : List UInt8) (offset : Nat) :
    ConfigurationCodecStatus × List UInt8 :=
  if value.validate ≠ .ok then (value.validate, output)
  else if output.length < offset + configurationValueBytes then (.outputTooSmall, output)
  else
    let output := overwrite output offset [configurationSchemaVersion]
    let output := overwrite output (offset + 1) [value.outputRate]
    let output := overwrite output (offset + 2) [value.rangeG]
    let output := overwrite output (offset + 3) [value.highPassCorner]
    let output := overwrite output (offset + 4) [value.filterProfile]
    let output := overwrite output (offset + 5) [value.fifoWatermark]
    let output := overwrite output (offset + 6) (writeU16 value.offsetX.toUInt16)
    let output := overwrite output (offset + 8) (writeU16 value.offsetY.toUInt16)
    (.ok, overwrite output (offset + 10) (writeU16 value.offsetZ.toUInt16))

/-- `encode_observed` behind an offset of the output. -/
def encodeObserved (value : ObservedConfiguration) (output : List UInt8) (offset : Nat) :
    ConfigurationCodecStatus × List UInt8 :=
  if value.validate ≠ .ok then (value.validate, output)
  else if output.length < offset + observedConfigBytes then (.outputTooSmall, output)
  else
    let output := overwrite output offset (writeU32 value.revision)
    match encodeConfiguration value.desired output (offset + 4) with
    | (.ok, output) =>
      let output := overwrite output (offset + 16) [value.sensorOdrRegister]
      (.ok, overwrite output (offset + 17) [value.decimationFactor])
    | (status, output) => (status, output)

def encodeGetConfigSuccess (value : ObservedConfiguration) (output : List UInt8) :
    ConfigurationCodecStatus × List UInt8 :=
  if output.length < getConfigResponseBytes then (.outputTooSmall, output)
  else encodeObserved value (overwrite output 0 [ResponseStatus.ok.toByte]) 1

def encodeValidateConfigSuccess (value : ConfigValidationResult) (output : List UInt8) :
    ConfigurationCodecStatus × List UInt8 :=
  if output.length < validateConfigResponseBytes then (.outputTooSmall, output)
  else
    let output := overwrite output 0 [ResponseStatus.ok.toByte]
    let output := overwrite output 1 [value.code.toByte]
    (.ok, overwrite output 2 [value.field.toByte])

def encodeConfigOperationSuccess (value : ConfigOperationResult) (output : List UInt8) :
    ConfigurationCodecStatus × List UInt8 :=
  if value.operationId = 0 then (.zeroOperationId, output)
  else if output.length < configOperationResponseBytes then (.outputTooSmall, output)
  else
    let output := overwrite output 0 [ResponseStatus.ok.toByte]
    let output := overwrite output 1 (writeU32 value.operationId)
    let output := overwrite output 5 [value.code.toByte]
    match encodeObserved value.observed output 6 with
    | (.ok, output) => (.ok, overwrite output 24 (writeU64 value.effectiveSampleSeq))
    | (status, output) => (status, output)

def prepareFirmwareUpdateMessageId : UInt8 := 7
def confirmTrialBootMessageId : UInt8 := 8
def restartNodeMessageId : UInt8 := 9
def lifecycleOperationRequestBytes : Nat := 4
def lifecycleProfileRequestBytes : Nat := 5
def lifecycleResponseBytes : Nat := 9

inductive LifecycleCodecStatus where
  | ok
  | outputTooSmall
  | invalidPayloadLength
  | unknownMessage
  | zeroOperationId
  | unknownObservabilityProfile
deriving DecidableEq

inductive SensorRuntimeOperation where
  | getState
  | start
  | stop
  | enterMaintenance
  | exitMaintenance
  | setObservabilityProfile
deriving DecidableEq

inductive ObservabilityProfile where
  | production
  | diagnostic
deriving DecidableEq

def ObservabilityProfile.toByte : ObservabilityProfile → UInt8
  | production => 0
  | diagnostic => 1

inductive SensorRuntimeState where
  | idle
  | recording
  | stopping
  | maintenance
  | faulted
deriving DecidableEq

def SensorRuntimeState.toByte : SensorRuntimeState → UInt8
  | idle => 0
  | recording => 1
  | stopping => 2
  | maintenance => 3
  | faulted => 4

inductive SensorRuntimeResultCode where
  | ok
  | invalidOperation
  | invalidState
  | invalidArgument
  | inProgress
  | transitionFailed
  | faulted

def SensorRuntimeResultCode.toByte : SensorRuntimeResultCode → UInt8
  | ok => 0
  | invalidOperation => 1
  | invalidState => 2
  | invalidArgument => 3
  | inProgress => 4
  | transitionFailed => 5
  | faulted => 6

inductive SensorStatus where
  | ok
  | notInitialized
  | busy
  | commError
  | timeout
  | invalidParam
  | notSupported
  | invalidDevice
  | noData
  | invalidSample
  | internalError
deriving DecidableEq

def SensorStatus.toByte : SensorStatus → UInt8
  | ok => 0
  | notInitialized => 1
  | busy => 2
  | commError => 3
  | timeout => 4
  | invalidParam => 5
  | notSupported => 6
  | invalidDevice => 7
  | noData => 8
  | invalidSample => 9
  | internalError => 10

structure SensorRuntimeCommand where
  operationId : UInt32 := 0
  operation : SensorRuntimeOperation := .getState
  requestedProfile : ObservabilityProfile := .production
deriving DecidableEq

/-- The enumerations hold listed values only, so the encoder's checks on them have nothing to
reject. -/
structure SensorRuntimeResult where
  operationId : UInt32 := 0
  code : SensorRuntimeResultCode := .ok
  state : SensorRuntimeState := .idle
  observability : ObservabilityProfile := .production
  sensorStatus : SensorStatus := .ok

def operationForMessage (message : UInt8) : Option SensorRuntimeOperation :=
  match message.toNat with
  | 1 => some .getState
  | 2 => some .start
  | 3 => some .stop
  | 4 => some .enterMaintenance
  | 5 => some .exitMaintenance
  | 6 => some .setObservabilityProfile
  | _ => none

/-- The cast of a profile that is known. -/
def profileFromByte : Option ObservabilityProfile :=
  match value.toNat with
  | 0 => some .production
  | 1 => some .diagnostic
  | _ => none

def decodeLifecycleRequest (message : UInt8) (payload : List UInt8) :
    LifecycleCodecStatus × Option SensorRuntimeCommand :=
  match operationForMessage message with
  | none => (.unknownMessage, none)
  | some operation =>
    let hasProfile : Bool := operation = .setObservabilityProfile
    let required :=
      if hasProfile then lifecycleProfileRequestBytes else lifecycleOperationRequestBytes
    if payload.length ≠ required then (.invalidPayloadLength, none)
    else if readU32 payload 0 = 0 then (.zeroOperationId, none)
    else if hasProfile then
      match profileFromByte (payload.getD 4 0) with
      | none => (.unknownObservabilityProfile, none)
      | some profile => (.ok, some ⟨readU32 payload 0, operation, profile⟩)
    else (.ok, some ⟨readU32 payload 0, operation, .production⟩)

/-- `decode_prepare_firmware_update_request`, and the like. -/
def decodeOperationRequest : LifecycleCodecStatus × Option UInt32 :=
  if payload.length ≠ lifecycleOperationRequestBytes then (.invalidPayloadLength, none)
  else if readU32 payload 0 = 0 then (.zeroOperationId, none)
  else (.ok, some (readU32 payload 0))

def decodePrepareFirmwareUpdateRequest := decodeOperationRequest
def decodeConfirmTrialBootRequest := decodeOperationRequest
def decodeRestartNodeRequest := decodeOperationRequest

def encodeLifecycleResponse (result : SensorRuntimeResult) (output : List UInt8) :
    LifecycleCodecStatus × List UInt8 :=
  if result.operationId = 0 then (.zeroOperationId, output)
  else if output.length < lifecycleResponseBytes then (.outputTooSmall, output)
  else
    let output := overwrite output 0 [ResponseStatus.ok.toByte]
    let output := overwrite output 1 (writeU32 result.operationId)
    let output := overwrite output 5 [result.code.toByte]
    let output := overwrite output 6 [result.state.toByte]
    let output := overwrite output 7 [result.observability.toByte]
    (.ok, overwrite output 8 [result.sensorStatus.toByte])

def probeSlotMessageId : UInt8 := 1
def assignAddressMessageId : UInt8 := 2
def probeSlotRequestBytes : Nat := 12
def probeSlotResponseBytes : Nat := 23
def assignAddressRequestBytes : Nat := 21
def assignAddressResponseBytes : Nat := 14
def maxCommissioningSlots : UInt16 := 256

structure ProbeSlotRequest where
  roundNonce : UInt64 := 0
  slotCount : UInt16 := 0
  slotIndex : UInt16 := 0
deriving DecidableEq

structure CommissioningIdentity where
  roundNonce : UInt64 := 0
  hardwareId : Vector UInt8 8 := Vector.replicate 8 0
  boardRevision : UInt8 := 0
  firmware : FirmwareVersion := {}
  framingVersion : UInt8 := Framing.framingVersion
  applicationVersion : UInt8 := 5

structure AssignAddressRequest where
  operationId : UInt32 := 0
  roundNonce : UInt64 := 0
  hardwareId : Vector UInt8 8 := Vector.replicate 8 0
  nodeAddress : UInt8 := 0
deriving DecidableEq

structure AssignAddressResponse where
  operationId : UInt32 := 0
  hardwareId : Vector UInt8 8 := Vector.replicate 8 0
  nodeAddress : UInt8 := 0

inductive CommissioningCodecStatus where
  | ok
  | outputTooSmall
  | invalidPayloadLength
  | zeroRoundNonce
  | invalidSlotCount
  | invalidSlotIndex
  | zeroOperationId
  | invalidNodeAddress
  | invalidBoardRevision
deriving DecidableEq

def validSlotCount (count : UInt16) : Bool :=
  count ≠ 0 && count ≤ maxCommissioningSlots && count &&& (count - 1) = 0

def isAssignableNodeAddress (address : UInt8) : Bool := address ≥ 1 && address ≤ 253

/-- `memcpy` of a hardware id. -/
def copyHardwareId (offset : Nat) : Vector UInt8 8 :=
  Vector.ofFn fun index => payload.getD (offset + index) 0

def decodeProbeSlotRequest : CommissioningCodecStatus × Option ProbeSlotRequest :=
  let output : ProbeSlotRequest := ⟨readU64 payload 0, readU16 payload 8, readU16 payload 10⟩
  if payload.length ≠ probeSlotRequestBytes then (.invalidPayloadLength, none)
  else if output.roundNonce = 0 then (.zeroRoundNonce, none)
  else if !validSlotCount output.slotCount then (.invalidSlotCount, none)
  else if output.slotIndex ≥ output.slotCount then (.invalidSlotIndex, none)
  else (.ok, some output)

def decodeAssignAddressRequest : CommissioningCodecStatus × Option AssignAddressRequest :=
  let output : AssignAddressRequest :=
    ⟨readU32 payload 0, readU64 payload 4, copyHardwareId payload 12, payload.getD 20 0⟩
  if payload.length ≠ assignAddressRequestBytes then (.invalidPayloadLength, none)
  else if output.operationId = 0 then (.zeroOperationId, none)
  else if output.roundNonce = 0 then (.zeroRoundNonce, none)
  else if !isAssignableNodeAddress output.nodeAddress then (.invalidNodeAddress, none)
  else (.ok, some output)

def encodeProbeSlotSuccess (value : CommissioningIdentity) (output : List UInt8) :
    CommissioningCodecStatus × List UInt8 :=
  if value.roundNonce = 0 then (.zeroRoundNonce, output)
  else if value.boardRevision = 0 then (.invalidBoardRevision, output)
  else if output.length < probeSlotResponseBytes then (.outputTooSmall, output)
  else
    let output := overwrite output 0 [ResponseStatus.ok.toByte]
    let output := overwrite output 1 (writeU64 value.roundNonce)
    let output := overwrite output 9 value.hardwareId.toList
    let output := overwrite output 17 [value.boardRevision]
    let output := overwrite output 18 [value.firmware.major]
    let output := overwrite output 19 [value.firmware.minor]
    let output := overwrite output 20 [value.firmware.patch]
    let output := overwrite output 21 [value.framingVersion]
    (.ok, overwrite output 22 [value.applicationVersion])

def encodeAssignAddressSuccess (value : AssignAddressResponse) (output : List UInt8) :
    CommissioningCodecStatus × List UInt8 :=
  if value.operationId = 0 then (.zeroOperationId, output)
  else if !isAssignableNodeAddress value.nodeAddress then (.invalidNodeAddress, output)
  else if output.length < assignAddressResponseBytes then (.outputTooSmall, output)
  else
    let output := overwrite output 0 [ResponseStatus.ok.toByte]
    let output := overwrite output 1 (writeU32 value.operationId)
    let output := overwrite output 5 value.hardwareId.toList
    (.ok, overwrite output 13 [value.nodeAddress])

end SensorSystem.Node.Wire
