import SensorSystem.Node.Acquisition.AcquisitionEngine
import SensorSystem.Node.Measurement.SampleIngress

/-! `measurement_ingress_sink.h`, `sensor_runtime.h` and `configuration_runtime.h` on one state.
The queue to core 1 is the list of what it holds, and before each access to it core 1 may have
appended any number of its events to the journal. A service of the sensor gets a number of passes;
a call that needs more of them does not return. -/

namespace SensorSystem.Node

open Base
open Acquisition
open Node.Config (DeviceConfig PersistentConfig ConfigManager.next
  sanitizeDeviceConfig)
open Node.Wire (SensorStatus SensorRuntimeState SensorRuntimeResultCode
  SensorRuntimeCommand SensorRuntimeResult ObservabilityProfile MeasurementConfiguration
  ConfigOperationCode)

/-- The queue, what core 1 has appended, and how much it appends next. -/
structure IngressPort where
  queue : List IngressEvent := []
  journal : List IngressEvent := []
  rounds : List Nat := []

namespace IngressPort

variable (port : IngressPort)

def consume (count : Nat) : IngressPort :=
  { port with
    queue := port.queue.drop count
    journal := port.journal ++ port.queue.take count }

/-- What core 1 does before an access of core 0. -/
def interleave : IngressPort :=
  { port.consume (port.rounds.headD 0) with rounds := port.rounds.tail }

/-- A push into a queue of so many slots. -/
def tryPush (capacity : Nat) (port : IngressPort) (event : IngressEvent) : Bool × IngressPort :=
  let port := port.interleave
  if port.queue.length < capacity then (true, { port with queue := port.queue ++ [event] })
  else (false, port)

def queueSizeApprox : Nat × IngressPort :=
  let port := port.interleave
  (port.queue.length, port)

/-- Everything that entered the queue, in order. -/
def stream : List IngressEvent :=
  port.journal ++ port.queue

end IngressPort

structure MeasurementIngressSink (pendingCapacity : Nat) where
  ingress : SampleIngress pendingCapacity := {}
  configRevision : UInt32
  acceptedSamples : Nat := 0
  exactGaps : Nat := 0
  continuityBreaks : Nat := 0
  rejectedEvents : Nat := 0
  faulted : Bool := false

namespace MeasurementIngressSink

variable {pendingCapacity : Nat}

def initial (configRevision : UInt32) : MeasurementIngressSink pendingCapacity :=
  { configRevision, faulted := configRevision = 0 }

variable (sink : MeasurementIngressSink pendingCapacity)

def reject : MeasurementIngressSink pendingCapacity :=
  { sink with rejectedEvents := saturatingIncrement sink.rejectedEvents, faulted := true }

def record (stored : StoredSample) (time : SampleDeviceTime) : SampleRecord where
  deviceTimeUs := time.deviceTimeUs
  x := stored.x
  y := stored.y
  z := stored.z
  configRevision := sink.configRevision
  timingSegmentId := time.timingSegmentId
  timingQualityFlags := time.qualityFlags
  reserved := 0

/-- The loop of `publish`, which the first rejection ends. -/
def publish (capacity : Nat) (sink : MeasurementIngressSink pendingCapacity) (port : IngressPort) :
    List (StoredSample × SampleDeviceTime) → MeasurementIngressSink pendingCapacity × IngressPort
  | [] => (sink, port)
  | (stored, time) :: rest =>
    let ((status, ingress), port) :=
      (sink.ingress.publishSample (sink.record stored time)).run (IngressPort.tryPush capacity) port
    let sink := { sink with ingress }
    match status with
    | .queued => publish capacity
        { sink with acceptedSamples := saturatingIncrement sink.acceptedSamples } port rest
    | .accountedAsGap => publish capacity
        { sink with exactGaps := saturatingIncrement sink.exactGaps } port rest
    | _ => (sink.reject, port)

def onSamples (capacity : Nat) (sink : MeasurementIngressSink pendingCapacity) (port : IngressPort)
    (batch : List (StoredSample × SampleDeviceTime)) :
    MeasurementIngressSink pendingCapacity × IngressPort :=
  if sink.faulted then (sink, port) else sink.publish capacity port batch

def onContinuityBreak (capacity : Nat) (sink : MeasurementIngressSink pendingCapacity)
    (port : IngressPort) (reason : ContinuityBreakReason) :
    MeasurementIngressSink pendingCapacity × IngressPort :=
  if sink.faulted then (sink, port)
  else
    let ((status, ingress), port) :=
      (sink.ingress.publishContinuityBreak reason).run (IngressPort.tryPush capacity) port
    let sink := { sink with ingress }
    if status = .queued ∨ status = .bufferedContinuityBreak then
      ({ sink with continuityBreaks := saturatingIncrement sink.continuityBreaks }, port)
    else (sink.reject, port)

/-- The calls of the engine, in their order. -/
def receive (capacity : Nat) (sink : MeasurementIngressSink pendingCapacity) (port : IngressPort) :
    List SinkCall → MeasurementIngressSink pendingCapacity × IngressPort
  | [] => (sink, port)
  | .onSamples batch :: rest =>
    let (sink, port) := sink.onSamples capacity port batch
    receive capacity sink port rest
  | .onContinuityBreak reason :: rest =>
    let (sink, port) := sink.onContinuityBreak capacity port reason
    receive capacity sink port rest

def flushPending (capacity : Nat) (sink : MeasurementIngressSink pendingCapacity)
    (port : IngressPort) : MeasurementIngressSink pendingCapacity × IngressPort :=
  if sink.faulted then (sink, port)
  else
    let ((flushed, ingress), port) :=
      sink.ingress.flushPending.run (IngressPort.tryPush capacity) port
    ({ sink with ingress, faulted := !flushed && ingress.faulted }, port)

def settled (port : IngressPort) : Bool × IngressPort :=
  let (queueSize, port) := port.queueSizeApprox
  (!sink.faulted && !sink.ingress.faulted && sink.ingress.pending.isEmpty && queueSize = 0, port)

def setConfigRevision (revision : UInt32) : Bool × MeasurementIngressSink pendingCapacity :=
  if revision = 0 ∨ sink.faulted then (false, sink)
  else (true, { sink with configRevision := revision })

end MeasurementIngressSink

structure Core0Sizes where
  queue : Nat
  pending : Nat

/-- The runtimes with what they share. -/
structure Core0 (δ : Type) (sizes : Core0Sizes) where
  engine : AcquisitionEngine δ
  sink : MeasurementIngressSink sizes.pending
  port : IngressPort := {}
  state : SensorRuntimeState := .idle
  observability : ObservabilityProfile := .production
  lastSensorStatus : SensorStatus := .ok
  config : PersistentConfig

namespace Core0

variable {δ : Type} {sizes : Core0Sizes} (sensor : Accelerometer δ) (core : Core0 δ sizes)

/-- The calls that the engine has made reach the sink. -/
def deliver : Core0 δ sizes :=
  let (sink, port) := core.sink.receive sizes.queue core.port core.engine.handed
  { core with engine := { core.engine with handed := [] }, sink, port }

variable (operationId : UInt32)

def result (code : SensorRuntimeResultCode) : SensorRuntimeResult where
  operationId := operationId
  code := code
  state := core.state
  observability := core.observability
  sensorStatus := core.lastSensorStatus

def enterFault (status : SensorStatus) : Core0 δ sizes :=
  { core with engine := core.engine.pause, lastSensorStatus := status, state := .faulted }

def fail (status : SensorStatus) : Core0 δ sizes :=
  if core.state = .faulted then core else core.enterFault status

def flush : Core0 δ sizes :=
  let (sink, port) := core.sink.flushPending sizes.queue core.port
  { core with sink, port }

def serviceIngressHealth : Core0 δ sizes :=
  if core.flush.sink.faulted ∧ core.flush.state ≠ .faulted then
    core.flush.enterFault .internalError
  else core.flush

/-- A stop goes on until the ingress has settled. -/
def progressStop : Core0 δ sizes :=
  if core.state ≠ .stopping then core
  else
    let core := core.flush
    if core.sink.faulted then core.enterFault .internalError
    else
      let (settled, port) := core.sink.settled core.port
      { core with port, state := if settled then .idle else .stopping }

def start : SensorRuntimeResult × Core0 δ sizes :=
  match core.state with
  | .faulted => (core.result operationId .faulted, core)
  | .recording => (core.result operationId .ok, core)
  | .stopping | .maintenance => (core.result operationId .invalidState, core)
  | .idle =>
    if core.sink.faulted then
      let core := core.enterFault .internalError
      (core.result operationId .faulted, core)
    else
      let (status, engine) := core.engine.prepareForRuntime sensor
      let core := { core with engine, lastSensorStatus := status }
      if status ≠ .ok then
        let core := core.enterFault status
        (core.result operationId .transitionFailed, core)
      else
        let core := { core with engine := core.engine.resume, state := .recording }
        (core.result operationId .ok, core)

/-- The result of a stop that has made progress. -/
def stopResult : SensorRuntimeResult :=
  core.result operationId <| match core.state with
    | .idle => .ok
    | .faulted => .faulted
    | _ => .inProgress

def stop (passes : Nat) : Option (SensorRuntimeResult × Core0 δ sizes) :=
  match core.state with
  | .faulted => some (core.result operationId .faulted, core)
  | .idle | .maintenance => some (core.result operationId .ok, core)
  | .stopping =>
    let core := core.progressStop
    some (core.stopResult operationId, core)
  | .recording => do
    let (status, engine) ← core.engine.finishRecording sensor passes
    let core := { core with engine }.deliver
    let core := { core with lastSensorStatus := status }
    if status ≠ .ok then
      let core := core.enterFault status
      some (core.result operationId .transitionFailed, core)
    else
      let core := { core with state := .stopping }.progressStop
      some (core.stopResult operationId, core)

def enterMaintenance : SensorRuntimeResult × Core0 δ sizes :=
  match core.state with
  | .faulted => (core.result operationId .faulted, core)
  | .recording | .stopping => (core.result operationId .invalidState, core)
  | .maintenance => (core.result operationId .ok, core)
  | .idle =>
    let core := { core with state := .maintenance }
    (core.result operationId .ok, core)

def exitMaintenance : SensorRuntimeResult × Core0 δ sizes :=
  match core.state with
  | .faulted => (core.result operationId .faulted, core)
  | .recording | .stopping => (core.result operationId .invalidState, core)
  | .idle => (core.result operationId .ok, core)
  | .maintenance =>
    let core := { core with state := .idle }
    (core.result operationId .ok, core)

/-- Every profile of the enumeration is known. -/
def setObservabilityProfile (profile : ObservabilityProfile) :
    SensorRuntimeResult × Core0 δ sizes :=
  if core.state = .faulted then (core.result operationId .faulted, core)
  else
    let core := { core with observability := profile }
    (core.result operationId .ok, core)

/-- `SensorRuntime::handle`. -/
def handle (command : SensorRuntimeCommand) (passes : Nat) :
    Option (SensorRuntimeResult × Core0 δ sizes) :=
  match command.operation with
  | .getState => some (core.result command.operationId .ok, core)
  | .start => some (core.start sensor command.operationId)
  | .stop => core.stop sensor command.operationId passes
  | .enterMaintenance => some (core.enterMaintenance command.operationId)
  | .exitMaintenance => some (core.exitMaintenance command.operationId)
  | .setObservabilityProfile =>
    some (core.setObservabilityProfile command.operationId command.requestedProfile)

/-- `SensorRuntime::poll`. -/
def poll (passes : Nat) : Option (Core0 δ sizes) :=
  let core := core.serviceIngressHealth
  if core.state = .stopping then some core.progressStop
  else if core.state ≠ .recording then some core
  else do
    let engine ← core.engine.update sensor passes
    some { core with engine }.deliver.serviceIngressHealth

end Core0

inductive ConfigurationOperation where
  | apply
  | reset
deriving DecidableEq

structure ConfigurationCommand where
  operationId : UInt32 := 0
  expectedRevision : UInt32 := 0
  operation : ConfigurationOperation := .apply
  configuration : MeasurementConfiguration := {}

structure ConfigurationResult where
  operationId : UInt32 := 0
  code : ConfigOperationCode := .applied
  revision : UInt32 := 0
  configuration : MeasurementConfiguration := {}
  sensorOdrRegister : UInt8 := 0
  decimationFactor : UInt8 := 2
  effectiveSampleSeq : UInt64 := 0

/-- The rate and its register. -/
def outputRateToSensor (outputRateCode : UInt8) : Option (UInt16 × UInt8) :=
  match outputRateCode.toNat with
  | 1 => some (4000, 0)
  | 2 => some (2000, 1)
  | 3 => some (1000, 2)
  | 4 => some (500, 3)
  | 5 => some (250, 4)
  | 6 => some (125, 5)
  | _ => none

def outputRateCode (odrHz : UInt16) : UInt8 :=
  match odrHz.toNat with
  | 4000 => 1
  | 2000 => 2
  | 1000 => 3
  | 500 => 4
  | 250 => 5
  | 125 => 6
  | _ => 0xFF

def runtimeConfigurationFromDevice (value : DeviceConfig) : MeasurementConfiguration where
  outputRate := outputRateCode value.odrHz
  rangeG := value.rangeG
  highPassCorner := value.highPassCorner
  filterProfile := value.filterProfile
  fifoWatermark := value.fifoWatermark
  offsetX := value.offsetX.toInt16
  offsetY := value.offsetY.toInt16
  offsetZ := value.offsetZ.toInt16

def validRuntimeConfiguration (value : MeasurementConfiguration) : Bool :=
  (outputRateToSensor value.outputRate).isSome &&
    (value.rangeG = 2 || value.rangeG = 4 || value.rangeG = 8) &&
    value.highPassCorner ≤ 7 && value.filterProfile ≤ 2 &&
    value.fifoWatermark ≥ 3 && value.fifoWatermark ≤ 96 && value.fifoWatermark % 3 = 0

/-- `ConfigManager::default_device_config`. -/
def defaultDeviceConfig : DeviceConfig := {}

namespace Core0

variable {δ : Type} {sizes : Core0Sizes} (sensor : Accelerometer δ) (core : Core0 δ sizes)
  (operationId : UInt32) (code : ConfigOperationCode)

def configurationResult : ConfigurationResult :=
  let configuration := runtimeConfigurationFromDevice core.config.device
  { operationId
    code
    revision := core.config.generation
    configuration
    sensorOdrRegister := ((outputRateToSensor configuration.outputRate).map Prod.snd).getD 0xFF
    decimationFactor := 2
    effectiveSampleSeq := core.engine.nextSampleSeq }

variable (command : ConfigurationCommand)

/-- The configuration of a command. -/
def requested : MeasurementConfiguration :=
  match command.operation with
  | .apply => command.configuration
  | .reset => runtimeConfigurationFromDevice defaultDeviceConfig

variable (previous : DeviceConfig)

def nextDeviceConfig (requested : MeasurementConfiguration) (odrHz : UInt16) : DeviceConfig :=
  { previous with
    odrHz
    rangeG := requested.rangeG
    highPassCorner := requested.highPassCorner
    filterProfile := requested.filterProfile
    fifoWatermark := requested.fifoWatermark
    offsetX := requested.offsetX.toInt32
    offsetY := requested.offsetY.toInt32
    offsetZ := requested.offsetZ.toInt32 }

/-- `reload_runtime_config`, with what it hands to the sink. -/
def reload (config : DeviceConfig) (passes : Nat) : Option (SensorStatus × Core0 δ sizes) := do
  let (status, engine) ← core.engine.reloadRuntimeConfig sensor config passes
  some (status, { core with engine }.deliver)

def replaceDeviceConfig (config : DeviceConfig) : Core0 δ sizes :=
  { core with config :=
      ({ core.config with device := sanitizeDeviceConfig config } : PersistentConfig).finalize }

/-- The store has failed, and the sensor gets its configuration back. -/
def rollBack (passes : Nat) : Option (ConfigurationResult × Core0 δ sizes) := do
  let (rollback, core) ← core.reload sensor previous passes
  some (core.configurationResult operationId (if rollback = .ok then code else .rollbackFailed),
    core)

/-- The configuration goes to the sensor, to the store and to the sink. -/
def commit (previous next : DeviceConfig) (saves : Bool) (passes : Nat) :
    Option (ConfigurationResult × Core0 δ sizes) :=
  let core := core.replaceDeviceConfig next
  match (ConfigManager.next core.config).filter fun _ => saves with
  | none =>
    (core.replaceDeviceConfig previous).rollBack sensor operationId .storageFailed previous passes
  | some saved =>
    let core := { core with config := saved }
    let (accepted, sink) := core.sink.setConfigRevision core.config.generation
    let core := { core with sink }
    some (core.configurationResult operationId (if accepted then .applied else .rollbackFailed),
      core)

/-- `ConfigurationRuntime::handle`. The store says whether it `saves`. -/
def configure (saves : Bool) (passes : Nat) : Option (ConfigurationResult × Core0 δ sizes) :=
  let id := command.operationId
  if core.state ≠ .maintenance ∧ core.state ≠ .faulted then
    some (core.configurationResult id .wrongMode, core)
  else if command.expectedRevision ≠ core.config.generation then
    some (core.configurationResult id .revisionConflict, core)
  else if !validRuntimeConfiguration (requested command) then
    some (core.configurationResult id .invalidConfiguration, core)
  else match outputRateToSensor (requested command).outputRate with
    | none => some (core.configurationResult id .invalidConfiguration, core)
    | some (odrHz, _) => do
      let previous := core.config.device
      let next := nextDeviceConfig previous (requested command) odrHz
      let (status, core) ← core.reload sensor next passes
      if status ≠ .ok then core.rollBack sensor id .sensorFailed previous passes
      else core.commit sensor id previous next saves passes

end Core0
end SensorSystem.Node
