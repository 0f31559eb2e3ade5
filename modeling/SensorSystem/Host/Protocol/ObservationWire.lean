import SensorSystem.Host.Protocol.Identity

/-! The three reads that change nothing on the node: `decode_stream_state_success` of
`measurement_wire.rs`, `time_wire.rs` with the observation that `time.rs` builds from it, and
`telemetry_wire.rs`. -/

namespace SensorSystem.Host

open Base

def getStreamStateMessageId : UInt8 := 1
def streamStateSuccessBytes : Nat := 1 + streamStateFieldsBytes

variable (payload : List UInt8)

def decodeStreamStateSuccess : Except MeasurementWireError StreamState := do
  decodeOkStatus payload
  requireLength payload streamStateSuccessBytes
  decodeStreamStateFields (payload.drop 1)

def timeServiceId : UInt8 := ServiceId.time.toByte
def observeClockMessageId : UInt8 := 1
def observeClockResponseBytes : Nat := 25

inductive TimeWireError where
  | invalidRequestLength (length : Nat)
  | invalidResponseLength (length : Nat)
  | invalidRemoteErrorLength (length : Nat)
  | unknownResponseStatus (value : UInt8)
  | remote (status : ResponseStatus)
  | zeroBootEpoch
  | nodeClockRegressed
deriving DecidableEq

structure TimeExchangeResponse where
  bootEpoch : BootEpoch
  nodeReceiveUs : UInt64
  nodeSendUs : UInt64

def TimeExchangeResponse.validate (response : TimeExchangeResponse) :
    Except TimeWireError TimeExchangeResponse :=
  if response.bootEpoch = 0 then .error .zeroBootEpoch
  else if response.nodeSendUs < response.nodeReceiveUs then .error .nodeClockRegressed
  else .ok response

def decodeTimeResponse : Except TimeWireError TimeExchangeResponse :=
  match payload with
  | [] => .error (.invalidResponseLength 0)
  | raw :: _ =>
    match ResponseStatus.tryFrom raw with
    | none => .error (.unknownResponseStatus raw)
    | some .ok =>
      if payload.length ≠ observeClockResponseBytes then
        .error (.invalidResponseLength payload.length)
      else TimeExchangeResponse.validate ⟨readU64 payload 1, readU64 payload 9, readU64 payload 17⟩
    | some status =>
      if payload.length ≠ 1 then .error (.invalidRemoteErrorLength payload.length)
      else .error (.remote status)

inductive ClockObservationError where
  | zeroBootEpoch
  | hostClockRegressed
  | nodeClockRegressed
  | processingExceedsRoundTrip
deriving DecidableEq

structure ClockObservation where
  bootEpoch : BootEpoch
  hostSendUs : UInt64
  nodeReceiveUs : UInt64
  nodeSendUs : UInt64
  hostReceiveUs : UInt64
deriving DecidableEq

def ClockObservation.new (bootEpoch : BootEpoch)
    (hostSendUs nodeReceiveUs nodeSendUs hostReceiveUs : UInt64) :
    Except ClockObservationError ClockObservation :=
  if bootEpoch = 0 then .error .zeroBootEpoch
  else if hostReceiveUs < hostSendUs then .error .hostClockRegressed
  else if nodeSendUs < nodeReceiveUs then .error .nodeClockRegressed
  else if nodeSendUs - nodeReceiveUs > hostReceiveUs - hostSendUs then
    .error .processingExceedsRoundTrip
  else .ok ⟨bootEpoch, hostSendUs, nodeReceiveUs, nodeSendUs, hostReceiveUs⟩

def telemetryServiceId : UInt8 := ServiceId.telemetry.toByte
def getTelemetrySnapshotMessageId : UInt8 := 1
def telemetrySchemaVersion : UInt8 := 1
def telemetrySnapshotResponseBytes : Nat := 14
def adxl355TemperatureField : UInt16 := 1

inductive TelemetryWireError where
  | invalidLength
  | unknownStatus (value : UInt8)
  | remote (status : ResponseStatus)
  | unsupportedSchema (value : UInt8)
  | invalidFields (fields : UInt16)
  | zeroCapturedTime
  | invalidTemperature (value : UInt16)
deriving DecidableEq

/-- A temperature code in the range `Adxl355TemperatureCode::new` accepts. -/
structure Adxl355TemperatureCode where
  value : UInt16
  within : 750 ≤ value ∧ value ≤ 2700
deriving DecidableEq

structure TelemetrySnapshot where
  capturedDeviceTimeUs : UInt64
  adxl355Temperature : Adxl355TemperatureCode
deriving DecidableEq

def decodeTelemetrySnapshot : Except TelemetryWireError TelemetrySnapshot :=
  match payload with
  | [] => .error .invalidLength
  | raw :: _ =>
    match ResponseStatus.tryFrom raw with
    | none => .error (.unknownStatus raw)
    | some .ok =>
      if payload.length ≠ telemetrySnapshotResponseBytes then .error .invalidLength
      else if payload.getD 1 0 ≠ telemetrySchemaVersion then
        .error (.unsupportedSchema (payload.getD 1 0))
      else if readU64 payload 2 = 0 then .error .zeroCapturedTime
      else if readU16 payload 10 ≠ adxl355TemperatureField then
        .error (.invalidFields (readU16 payload 10))
      else if within : 750 ≤ readU16 payload 12 ∧ readU16 payload 12 ≤ 2700 then
        .ok ⟨readU64 payload 2, readU16 payload 12, within⟩
      else .error (.invalidTemperature (readU16 payload 12))
    | some status =>
      if payload.length ≠ 1 then .error .invalidLength else .error (.remote status)

end SensorSystem.Host
