import SensorSystem.Host.Protocol.Identity
import SensorSystem.Base.Fields

/-! `configuration_wire.rs`: the requests the host sends and the responses it takes. -/

namespace SensorSystem.Host

open Base

def configurationServiceId : UInt8 := ServiceId.configuration.toByte
def getConfigMessageId : UInt8 := 1
def validateConfigMessageId : UInt8 := 2
def applyConfigMessageId : UInt8 := 3
def resetConfigMessageId : UInt8 := 4
def configurationSchemaVersion : UInt8 := 1
def configurationValueBytes : Nat := 12
def observedConfigBytes : Nat := 18
def getConfigResponseBytes : Nat := 1 + observedConfigBytes
def validateConfigResponseBytes : Nat := 3
def configOperationResponseBytes : Nat := 1 + 4 + 1 + observedConfigBytes + 8

inductive ConfigurationWireError where
  | invalidLength (length : Nat)
  | unsupportedSchema (value : UInt8)
  | unknownOutputRate (value : UInt8)
  | unknownSensorOdr (value : UInt8)
  | unknownFilterProfile (value : UInt8)
  | invalidRange (value : UInt8)
  | invalidHighPassCorner (value : UInt8)
  | invalidFifoWatermark (value : UInt8)
  | zeroOperationId
  | zeroRevision
  | zeroDecimationFactor
  | inconsistentObservedRate
  | unknownResponseStatus (value : UInt8)
  | remote (status : ResponseStatus)
  | unknownValidationCode (value : UInt8)
  | unknownConfigField (value : UInt8)
  | unknownOperationCode (value : UInt8)
deriving DecidableEq

inductive DecimationFilterProfile where
  | light
  | balanced
  | aggressive
deriving DecidableEq

def DecimationFilterProfile.toByte : DecimationFilterProfile → UInt8
  | light => 0
  | balanced => 1
  | aggressive => 2

def DecimationFilterProfile.fromWire (value : UInt8) : Option DecimationFilterProfile :=
  match value.toNat with
  | 0 => some light
  | 1 => some balanced
  | 2 => some aggressive
  | _ => none

structure MeasurementConfiguration where
  outputRate : OutputRateCode
  rangeG : UInt8
  highPassCorner : UInt8
  filterProfile : DecimationFilterProfile
  fifoWatermark : UInt8
  offsetX : Int16
  offsetY : Int16
  offsetZ : Int16
deriving DecidableEq

def MeasurementConfiguration.validate (value : MeasurementConfiguration) :
    Except ConfigurationWireError MeasurementConfiguration :=
  if ¬ (value.rangeG = 2 ∨ value.rangeG = 4 ∨ value.rangeG = 8) then
    .error (.invalidRange value.rangeG)
  else if value.highPassCorner > 7 then .error (.invalidHighPassCorner value.highPassCorner)
  else if ¬ (3 ≤ value.fifoWatermark ∧ value.fifoWatermark ≤ 96) ∨
      value.fifoWatermark % 3 ≠ 0 then
    .error (.invalidFifoWatermark value.fifoWatermark)
  else .ok value

/-- A register value and the output rate of its code have one sample rate, so one type serves both.
-/
abbrev Adxl355Odr := OutputRateCode

structure ObservedConfiguration where
  revision : UInt32
  desired : MeasurementConfiguration
  sensorOdr : Adxl355Odr
  decimationFactor : UInt8
deriving DecidableEq

def ObservedConfiguration.validate (value : ObservedConfiguration) :
    Except ConfigurationWireError ObservedConfiguration := do
  let _ ← value.desired.validate
  if value.revision = 0 then .error .zeroRevision
  else if value.decimationFactor = 0 then .error .zeroDecimationFactor
  else if dividedBy value.sensorOdr.sampleRate value.decimationFactor.toUInt32 ≠
      some value.desired.outputRate.sampleRate then
    .error .inconsistentObservedRate
  else .ok value

inductive ConfigValidationCode where
  | valid
  | unsupportedOutputRate
  | invalidRange
  | invalidHighPassCorner
  | invalidFilterProfile
  | invalidFifoWatermark
  | invalidOffset
deriving DecidableEq

def ConfigValidationCode.fromWire (value : UInt8) : Option ConfigValidationCode :=
  match value.toNat with
  | 0 => some valid
  | 1 => some unsupportedOutputRate
  | 2 => some invalidRange
  | 3 => some invalidHighPassCorner
  | 4 => some invalidFilterProfile
  | 5 => some invalidFifoWatermark
  | 6 => some invalidOffset
  | _ => none

inductive ConfigField where
  | none
  | outputRate
  | range
  | highPassCorner
  | filterProfile
  | fifoWatermark
  | offsetX
  | offsetY
  | offsetZ
deriving DecidableEq

def ConfigField.fromWire (value : UInt8) : Option ConfigField :=
  match value.toNat with
  | 0 => some none
  | 1 => some outputRate
  | 2 => some range
  | 3 => some highPassCorner
  | 4 => some filterProfile
  | 5 => some fifoWatermark
  | 6 => some offsetX
  | 7 => some offsetY
  | 8 => some offsetZ
  | _ => .none

structure ConfigValidationResult where
  code : ConfigValidationCode
  field : ConfigField
deriving DecidableEq

structure ConfigOperationRequest where
  operationId : UInt32
  expectedRevision : UInt32
  configuration : MeasurementConfiguration

inductive ConfigOperationCode where
  | applied
  | revisionConflict
  | invalidConfiguration
  | storageFailed
  | sensorFailed
  | rollbackFailed
  | wrongMode
deriving DecidableEq

def ConfigOperationCode.fromWire (value : UInt8) : Option ConfigOperationCode :=
  match value.toNat with
  | 0 => some applied
  | 1 => some revisionConflict
  | 2 => some invalidConfiguration
  | 3 => some storageFailed
  | 4 => some sensorFailed
  | 5 => some rollbackFailed
  | 6 => some wrongMode
  | _ => none

structure ConfigOperationResult where
  operationId : UInt32
  code : ConfigOperationCode
  observed : ObservedConfiguration
  effectiveSampleSeq : UInt64
deriving DecidableEq

/-- `ok_or` on the value of a wire code. -/
def knownCode {α ε : Type} (found : Option α) (error : ε) : Except ε α :=
  match found with
  | none => .error error
  | some value => .ok value

def i16Bytes (value : Int16) : List UInt8 := u16Bytes value.toUInt16

def encodeConfiguration (value : MeasurementConfiguration) :
    Except ConfigurationWireError (List UInt8) := do
  let value ← value.validate
  .ok ([configurationSchemaVersion, value.outputRate.toByte, value.rangeG, value.highPassCorner,
    value.filterProfile.toByte, value.fifoWatermark] ++ i16Bytes value.offsetX ++
      i16Bytes value.offsetY ++ i16Bytes value.offsetZ)

def validateOperationIds (operationId revision : UInt32) : Except ConfigurationWireError Unit :=
  if operationId = 0 then .error .zeroOperationId
  else if revision = 0 then .error .zeroRevision
  else .ok ()

def encodeApplyConfigRequest (request : ConfigOperationRequest) :
    Except ConfigurationWireError (List UInt8) := do
  validateOperationIds request.operationId request.expectedRevision
  let encoded ← encodeConfiguration request.configuration
  .ok (u32Bytes request.operationId ++ u32Bytes request.expectedRevision ++ encoded)

def encodeResetConfigRequest (operationId expectedRevision : UInt32) :
    Except ConfigurationWireError (List UInt8) := do
  validateOperationIds operationId expectedRevision
  .ok (u32Bytes operationId ++ u32Bytes expectedRevision)

variable (payload : List UInt8)

def configurationSuccess (expected : Nat) : Except ConfigurationWireError Unit :=
  match payload with
  | [] => .error (.invalidLength 0)
  | raw :: _ =>
    match ResponseStatus.tryFrom raw with
    | none => .error (.unknownResponseStatus raw)
    | some .ok =>
      if payload.length ≠ expected then .error (.invalidLength payload.length) else .ok ()
    | some status =>
      if payload.length ≠ 1 then .error (.invalidLength payload.length)
      else .error (.remote status)

def readI16 (offset : Nat) : Int16 := (readU16 payload offset).toInt16

def decodeConfiguration : Except ConfigurationWireError MeasurementConfiguration := do
  if payload.length ≠ configurationValueBytes then .error (.invalidLength payload.length)
  else if payload.getD 0 0 ≠ configurationSchemaVersion then
    .error (.unsupportedSchema (payload.getD 0 0))
  else
    let outputRate ← knownCode (OutputRateCode.fromWire (payload.getD 1 0))
      (.unknownOutputRate (payload.getD 1 0))
    let filterProfile ← knownCode (DecimationFilterProfile.fromWire (payload.getD 4 0))
      (.unknownFilterProfile (payload.getD 4 0))
    MeasurementConfiguration.validate {
      outputRate
      rangeG := payload.getD 2 0
      highPassCorner := payload.getD 3 0
      filterProfile
      fifoWatermark := payload.getD 5 0
      offsetX := readI16 payload 6
      offsetY := readI16 payload 8
      offsetZ := readI16 payload 10 }

def decodeObserved : Except ConfigurationWireError ObservedConfiguration := do
  if payload.length ≠ observedConfigBytes then .error (.invalidLength payload.length)
  else
    let desired ← decodeConfiguration (slice payload 4 12)
    let sensorOdr ← knownCode (OutputRateCode.fromWire (payload.getD 16 0))
      (.unknownSensorOdr (payload.getD 16 0))
    ObservedConfiguration.validate
      ⟨readU32 payload 0, desired, sensorOdr, payload.getD 17 0⟩

def decodeGetConfigResponse : Except ConfigurationWireError ObservedConfiguration := do
  configurationSuccess payload getConfigResponseBytes
  decodeObserved (payload.drop 1)

def decodeValidateConfigResponse : Except ConfigurationWireError ConfigValidationResult := do
  configurationSuccess payload validateConfigResponseBytes
  let code ← knownCode (ConfigValidationCode.fromWire (payload.getD 1 0))
    (.unknownValidationCode (payload.getD 1 0))
  let field ← knownCode (ConfigField.fromWire (payload.getD 2 0))
    (.unknownConfigField (payload.getD 2 0))
  .ok ⟨code, field⟩

def decodeConfigOperationResponse : Except ConfigurationWireError ConfigOperationResult := do
  configurationSuccess payload configOperationResponseBytes
  let code ← knownCode (ConfigOperationCode.fromWire (payload.getD 5 0))
    (.unknownOperationCode (payload.getD 5 0))
  let observed ← decodeObserved (slice payload 6 18)
  if readU32 payload 1 = 0 then .error .zeroOperationId
  else .ok ⟨readU32 payload 1, code, observed, readU64 payload 24⟩

end SensorSystem.Host

/-! The codes and the twelve bytes of a measurement configuration are read back as they were
written. -/

namespace SensorSystem.Host

open Base

theorem OutputRateCode.fromWire_toByte (rate : OutputRateCode) :
    OutputRateCode.fromWire rate.toByte = some rate := by
  cases rate <;> rfl

theorem DecimationFilterProfile.fromWire_toByte (profile : DecimationFilterProfile) :
    DecimationFilterProfile.fromWire profile.toByte = some profile := by
  cases profile <;> rfl

variable {value : MeasurementConfiguration} {bytes : List UInt8}

theorem MeasurementConfiguration.validate_eq_ok {checked : MeasurementConfiguration}
    (valid : value.validate = .ok checked) : checked = value := by
  rw [validate] at valid
  split at valid
  · exact nomatch valid
  split at valid
  · exact nomatch valid
  · split at valid
    · exact nomatch valid
    · exact (Except.ok.inj valid).symm

/-- The bytes of a valid configuration. -/
def configurationBytes (value : MeasurementConfiguration) : List UInt8 :=
  [configurationSchemaVersion, value.outputRate.toByte, value.rangeG, value.highPassCorner,
    value.filterProfile.toByte, value.fifoWatermark] ++ i16Bytes value.offsetX ++
      i16Bytes value.offsetY ++ i16Bytes value.offsetZ

@[simp] theorem length_configurationBytes (value : MeasurementConfiguration) :
    (configurationBytes value).length = 12 := by
  simp [configurationBytes, i16Bytes]

theorem encodeConfiguration_eq_ok : encodeConfiguration value = .ok bytes ↔
      value.validate = .ok value ∧ bytes = configurationBytes value := by
  rw [encodeConfiguration, bind_eq_ok]
  constructor
  · rintro ⟨checked, valid, same⟩
    obtain rfl := MeasurementConfiguration.validate_eq_ok valid
    exact ⟨valid, (Except.ok.inj same).symm⟩
  · rintro ⟨valid, rfl⟩
    exact ⟨value, valid, rfl⟩

theorem readI16_eq {offset : Nat} {value : Int16} (field : slice bytes offset 2 = i16Bytes value) :
    readI16 bytes offset = value := by
  rw [readI16, readU16_eq field]
  exact Int16.toInt16_toUInt16 value

theorem decodeConfiguration_configurationBytes (valid : value.validate = .ok value) :
    decodeConfiguration (configurationBytes value) = .ok value := by
  have x : readI16 (configurationBytes value) 6 = value.offsetX :=
    readI16_eq (by simp [configurationBytes, i16Bytes, slice_cons_of_pos])
  have y : readI16 (configurationBytes value) 8 = value.offsetY :=
    readI16_eq (by simp [configurationBytes, i16Bytes, slice_cons_of_pos])
  have z : readI16 (configurationBytes value) 10 = value.offsetZ :=
    readI16_eq (by simp [configurationBytes, i16Bytes, slice_cons_of_pos])
  rw [decodeConfiguration, if_neg (by simp [configurationValueBytes]), x, y, z]
  simp only [configurationBytes, List.cons_append, List.getD_cons_zero, List.getD_cons_succ,
    OutputRateCode.fromWire_toByte, DecimationFilterProfile.fromWire_toByte, knownCode]
  exact valid

end SensorSystem.Host
