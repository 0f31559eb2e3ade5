import SensorSystem.Node.Acquisition.DecimatingFilter
import SensorSystem.Node.Config.ConfigStore
import SensorSystem.Node.Protocol.ControlCodecs

/-! `acquisition_engine.h` over any accelerometer: the FIFO service that reads the sensor's
samples, filters them and hands the outputs to the sinks, and the calls that start it. The sinks
return nothing, so what they are called with is kept in order, for the caller to pass on. The
statistics and the diagnostic store that nothing of this reads are left out. -/

namespace SensorSystem.Node.Acquisition

open Node
open Node.Config (DeviceConfig)
open Node.Wire (SensorStatus)

def uint32Max : Nat := 0xFFFFFFFF

structure AccelerometerConfig where
  odrHz : UInt16 := 250
  rangeG : UInt8 := 2
  highPassCorner : UInt8 := 0

structure SensorDiagnosticSnapshot where
  lastIntMap : UInt8 := 0
  lastFifoSamples : UInt8 := 0

inductive InputContinuity where
  | preserved
  | broken
deriving DecidableEq

inductive SensorReadBreakReason where
  | none
  | invalidFifoData
  | transportUncertain
deriving DecidableEq

/-- One FIFO transaction with the samples it wrote, so many as `samples_read`. -/
structure FifoReadOutcome where
  status : SensorStatus := .internalError
  samples : List (AccelSample × SampleDeviceTime) := []
  discardedInputSamples : Nat := 0
  continuity : InputContinuity := .preserved
  breakReason : SensorReadBreakReason := .none

variable (outcome : FifoReadOutcome)

def FifoReadOutcome.validFor (maxSamples : Nat) : Bool :=
  if outcome.samples.length > maxSamples then false
  else match outcome.continuity with
    | .preserved => outcome.breakReason = .none && outcome.discardedInputSamples = 0
    | .broken => outcome.breakReason ≠ .none

/-- The samples of one FIFO transaction. -/
def batchCapacity : Nat := 32

/-- An outcome that is not valid is an internal error. -/
def FifoReadOutcome.checked : FifoReadOutcome :=
  if outcome.validFor batchCapacity then outcome else { status := .internalError }

/-- `IAccelerometer` on a device that an access may change, with the clock. -/
structure Accelerometer (δ : Type) where
  nowMs : δ → UInt32
  supportsFifo : δ → Bool
  supportsSampleTimestamps : δ → Bool
  supportsDataReadyInterrupt : δ → Bool
  configure : AccelerometerConfig → δ → SensorStatus × δ
  configureFifo : UInt8 → δ → SensorStatus × δ
  setOffset : Int32 → Int32 → Int32 → δ → SensorStatus × δ
  consumeDataReadyEventSources : δ → UInt8 × δ
  diagnosticSnapshot : δ → SensorDiagnosticSnapshot
  refreshDiagnosticSnapshot : δ → δ
  readStatus : δ → (SensorStatus × UInt8) × δ
  readFifoEntries : δ → (SensorStatus × UInt8) × δ
  readFifoBatch : Nat → δ → FifoReadOutcome × δ
  notifyFifoTimingDiscontinuity : UInt16 → δ → δ
  readSample : δ → (SensorStatus × AccelSample) × δ

def statusFifoFullMask : UInt8 := (1 : UInt8) <<< 1
def statusFifoOvrMask : UInt8 := (1 : UInt8) <<< 2
def intFullEn1 : UInt8 := (1 : UInt8) <<< 1
def intOvrEn1 : UInt8 := (1 : UInt8) <<< 2
def sensorDiagFlagInt1Event : UInt8 := 0x04
def sensorDiagFlagDrdyEvent : UInt8 := 0x08
def timingQualityFifoOverrun : UInt16 := (1 : UInt16) <<< 6

namespace FifoServicePolicy

def axesPerSample : Nat := 3
def fifoCapacityEntries : Nat := 96

def watermarkIrqConfigured (intMap : UInt8) : Bool :=
  intMap &&& (intFullEn1 ||| intOvrEn1) ≠ 0

def fifoReady (status fifoEntries watermarkEntries : UInt8) : Bool :=
  fifoEntries.toNat ≥ axesPerSample &&
    (status &&& (statusFifoFullMask ||| statusFifoOvrMask) ≠ 0 ||
      fifoEntries ≥ watermarkEntries)

def ceilDiv (numerator denominator : Nat) : Nat :=
  (numerator + denominator - 1) / denominator

def fallbackIntervalMs (odrHz watermarkEntries : Nat) : Nat :=
  let odrHz := if odrHz = 0 then 250 else odrHz
  let watermarkEntries := if watermarkEntries < axesPerSample then axesPerSample
    else watermarkEntries
  let watermarkEntries := if watermarkEntries > fifoCapacityEntries then fifoCapacityEntries
    else watermarkEntries
  let entriesPerSecond := odrHz * axesPerSample
  let watermarkMs := ceilDiv (watermarkEntries * 1000) entriesPerSecond
  let fifoFullMs := ceilDiv (fifoCapacityEntries * 1000) entriesPerSecond
  let intervalMs := watermarkMs + watermarkMs / 4 + 1
  let latestSafeMs := if fifoFullMs > 2 then fifoFullMs - 2 else 1
  let intervalMs := if intervalMs > latestSafeMs then latestSafeMs else intervalMs
  if intervalMs = 0 then 1 else intervalMs

end FifoServicePolicy

structure StoredSample where
  sampleSeq : UInt64 := 0
  x : Int := 0
  y : Int := 0
  z : Int := 0

/-- The calls of the sample sink and the quality sink. -/
inductive SinkCall where
  | onSamples (batch : List (StoredSample × SampleDeviceTime))
  | onContinuityBreak (reason : ContinuityBreakReason)

/-- `diagnostics` says that a diagnostic store is attached. -/
structure AcquisitionEngine (δ : Type) where
  device : δ
  diagnostics : Bool := true
  resampler : DecimatingFilterX2 := {}
  initialized : Bool := false
  paused : Bool := false
  nextSampleSeq : UInt64 := 0
  consecutiveNoDataReads : Nat := 0
  consecutiveSensorErrors : Nat := 0
  fifoOverrunEvents : Nat := 0
  lastConfig : DeviceConfig := {}
  hasLastConfig : Bool := false
  lastFifoServiceMs : UInt32 := 0
  lastSoftRecoverMs : UInt32 := 0
  handed : List SinkCall := []

def legacyPollingIntervalMs : Nat := 8
def softRecoverNoDataThreshold : Nat := 32
def softRecoverCooldownMs : Nat := 1000

def saturatingIncrement32 (value : Nat) : Nat :=
  if value ≠ uint32Max then value + 1 else value

/-- Reports come at a threshold and then at the powers of two. -/
def shouldLogStreak (streak threshold : Nat) : Bool :=
  streak ≥ threshold && streak &&& (streak - 1) = 0

def intervalElapsed (now since : UInt32) (intervalMs : Nat) : Bool :=
  (now - since).toNat ≥ intervalMs

namespace AcquisitionEngine

variable {δ : Type} (sensor : Accelerometer δ) (engine : AcquisitionEngine δ)

def hand (call : SinkCall) : AcquisitionEngine δ :=
  { engine with handed := engine.handed ++ [call] }

def emitContinuityBreak (reason : ContinuityBreakReason) : AcquisitionEngine δ :=
  engine.hand (.onContinuityBreak reason)

/-- `pack_sensor_snapshot_locked`, which asks the sensor again. -/
def packSensorSnapshot : AcquisitionEngine δ :=
  { engine with device := sensor.refreshDiagnosticSnapshot engine.device }

/-- A report of the diagnostic store, if the streak is due. -/
def logStreak (streak threshold : Nat) : AcquisitionEngine δ :=
  if engine.diagnostics && shouldLogStreak streak threshold then engine.packSensorSnapshot sensor
  else engine

def countSensorError : AcquisitionEngine δ :=
  { engine with
    consecutiveSensorErrors := saturatingIncrement32 engine.consecutiveSensorErrors }

/-- A failed access is counted and reported. -/
def accessFailed : AcquisitionEngine δ :=
  let engine := engine.countSensorError
  engine.logStreak sensor engine.consecutiveSensorErrors 1

def fifoWatermark (config : DeviceConfig) : UInt8 :=
  let watermark := if config.fifoWatermark < 3 then 3 else config.fifoWatermark
  let watermark := if watermark > 96 then 96 else watermark
  watermark - watermark % 3

variable (config : DeviceConfig)

def applyFifoConfig : SensorStatus × AcquisitionEngine δ :=
  if !sensor.supportsFifo engine.device then (.notSupported, engine)
  else
    let (status, device) := sensor.configureFifo (fifoWatermark config) engine.device
    (status, { engine with device })

def applyConfig : SensorStatus × AcquisitionEngine δ :=
  let (status, device) := sensor.configure
    { odrHz := config.odrHz, rangeG := config.rangeG, highPassCorner := config.highPassCorner }
    engine.device
  let engine := { engine with device }
  if status ≠ .ok then (status, engine)
  else
    let (status, engine) := engine.applyFifoConfig sensor config
    if status ≠ .ok then (status, engine)
    else (.ok, { engine with
      resampler := DecimatingFilterX2.setProfile (.ofByte config.filterProfile) })

def applyOffsets : SensorStatus × AcquisitionEngine δ :=
  let (status, device) := sensor.setOffset config.offsetX config.offsetY config.offsetZ
    engine.device
  (status, { engine with device })

def fifoFallbackIntervalMs (snapshot : SensorDiagnosticSnapshot) : Nat :=
  if !engine.hasLastConfig then legacyPollingIntervalMs
  else
    let odrHz := if engine.lastConfig.odrHz = 0 then 250 else engine.lastConfig.odrHz.toNat
    let watermark := if snapshot.lastFifoSamples = 0 then engine.lastConfig.fifoWatermark
      else snapshot.lastFifoSamples
    FifoServicePolicy.fallbackIntervalMs odrHz (if watermark < 3 then 3 else watermark.toNat)

def maybeSoftRecoverFromNoData (nowMs : UInt32) : AcquisitionEngine δ :=
  if !engine.hasLastConfig then engine
  else if engine.consecutiveNoDataReads < softRecoverNoDataThreshold then engine
  else if !intervalElapsed nowMs engine.lastSoftRecoverMs softRecoverCooldownMs then engine
  else
    let (status, engine) :=
      { engine with lastSoftRecoverMs := nowMs }.applyFifoConfig sensor engine.lastConfig
    if status ≠ .ok then engine.countSensorError
    else { engine with consecutiveNoDataReads := 0, lastFifoServiceMs := nowMs }

def processAndStoreSample (input : AccelSample) (time : Option SampleDeviceTime) :
    Option (StoredSample × SampleDeviceTime) × AcquisitionEngine δ :=
  match engine.resampler.process input time with
  | (none, resampler) => (none, { engine with resampler })
  | (some (output, outputTime), resampler) =>
    (some ({ sampleSeq := engine.nextSampleSeq, x := output.x, y := output.y, z := output.z },
      outputTime), { engine with
        resampler
        nextSampleSeq := engine.nextSampleSeq + 1 })

/-- The loop over the inputs of a batch. -/
def storeBatch (engine : AcquisitionEngine δ) : List (AccelSample × Option SampleDeviceTime) →
    List (StoredSample × SampleDeviceTime) × AcquisitionEngine δ
  | [] => ([], engine)
  | (input, time) :: rest =>
    let (stored, engine) := engine.processAndStoreSample input time
    let (batch, engine) := storeBatch engine rest
    (stored.toList ++ batch, engine)

/-- What one pass of the service loop leaves for the next. -/
structure FifoService where
  forceService : Bool
  nowMs : UInt32
  snapshot : SensorDiagnosticSnapshot
  rawIrqSeen : Bool
  firstRead : Bool := true
  totalSamplesRead : Nat := 0

/-- What a pass does with the samples it has read. -/
def handleSamples (outcome : FifoReadOutcome) : Option SensorStatus × AcquisitionEngine δ :=
  let timed := sensor.supportsSampleTimestamps engine.device
  if timed && outcome.samples.any (fun sample => !sample.2.valid) then
    let engine := { engine with resampler := engine.resampler.reset }
    let engine := engine.emitContinuityBreak .invalidTiming
    (some .invalidSample,
      if engine.hasLastConfig then (engine.applyFifoConfig sensor engine.lastConfig).2 else engine)
  else
    let (batch, engine) := engine.storeBatch <| outcome.samples.map fun (input, time) =>
      (input, if sensor.supportsSampleTimestamps engine.device then some time else none)
    let engine := { engine with
      consecutiveNoDataReads := 0
      consecutiveSensorErrors := if outcome.status = .ok then 0 else engine.consecutiveSensorErrors
      lastFifoServiceMs := sensor.nowMs engine.device }
    (none, if batch ≠ [] then engine.hand (.onSamples batch) else engine)

variable (service : FifoService)

/-- What a pass does with a batch without data. -/
def handleNoData (discarded : Nat) : AcquisitionEngine δ :=
  if discarded > 0 then engine.countSensorError
  else if service.totalSamplesRead = 0 then
    let engine := { engine with
      consecutiveNoDataReads := saturatingIncrement32 engine.consecutiveNoDataReads }
    let engine := engine.logStreak sensor engine.consecutiveNoDataReads 8
    engine.maybeSoftRecoverFromNoData sensor service.nowMs
  else engine

/-- The samples of a transaction, if there are any. -/
def takeSamples (outcome : FifoReadOutcome) : Option SensorStatus × AcquisitionEngine δ :=
  if outcome.checked.samples = [] then (none, engine)
  else engine.handleSamples sensor outcome.checked

def markUncertain (outcome : FifoReadOutcome) : AcquisitionEngine δ :=
  if !outcome.validFor batchCapacity || outcome.continuity = .broken then
    engine.emitContinuityBreak .sensorReadUncertain
  else engine

/-- The end of a pass; only a full batch lets the loop go on. -/
def endPass (read : FifoReadOutcome) : (Option SensorStatus × FifoService) × AcquisitionEngine δ :=
  if read.status = .noData then
    ((some (if read.discardedInputSamples > 0 then .noData else .ok), service),
      engine.handleNoData sensor service read.discardedInputSamples)
  else if read.status ≠ .ok then ((some read.status, service), engine.accessFailed sensor)
  else if read.samples = [] then ((some .internalError, service), engine.countSensorError)
  else if read.samples.length < batchCapacity then ((some .ok, service), engine)
  else ((none, { service with firstRead := false, rawIrqSeen := false }), engine)

/-- The rest of a pass, from the FIFO transaction on. -/
def readBatch : (Option SensorStatus × FifoService) × AcquisitionEngine δ :=
  let (outcome, device) := sensor.readFifoBatch batchCapacity engine.device
  let service := { service with
    totalSamplesRead := service.totalSamplesRead + outcome.checked.samples.length }
  match { engine with device }.takeSamples sensor outcome with
  | (some status, engine) => ((some status, service), engine)
  | (none, engine) => (engine.markUncertain outcome).endPass sensor service outcome.checked

/-- A sticky overrun is a break of the stream in front of what is read next. -/
def noteOverrun (status : UInt8) : AcquisitionEngine δ :=
  if status &&& statusFifoOvrMask = 0 then engine
  else
    let engine := { engine with
      fifoOverrunEvents := saturatingIncrement32 engine.fifoOverrunEvents
      device := sensor.notifyFifoTimingDiscontinuity
        (timingQualityInvalid ||| timingQualityFifoOverrun) engine.device }
    let engine := engine.emitContinuityBreak .sensorOverflow
    engine.logStreak sensor engine.fifoOverrunEvents 1

variable (lastConfig : DeviceConfig)

/-- The entries that an interrupt announces. -/
def FifoService.configuredWatermark : UInt8 :=
  if service.snapshot.lastFifoSamples ≠ 0 then service.snapshot.lastFifoSamples
  else lastConfig.fifoWatermark

/-- An interrupt without entries, or an empty FIFO, ends the service. -/
def FifoService.nothingReady (status fifoEntries : UInt8) : Bool :=
  service.rawIrqSeen && service.firstRead && !service.forceService &&
      !FifoServicePolicy.fifoReady status fifoEntries (service.configuredWatermark lastConfig) ||
    service.forceService && !service.rawIrqSeen && fifoEntries < 3

/-- One pass of the service loop; without a status the loop goes on. -/
def servicePass : (Option SensorStatus × FifoService) × AcquisitionEngine δ :=
  let ((statusRead, status), device) := sensor.readStatus engine.device
  let engine := { engine with device }
  if statusRead ≠ .ok then ((some statusRead, service), engine.accessFailed sensor)
  else
    let ((entriesStatus, fifoEntries), device) := sensor.readFifoEntries engine.device
    let engine := { engine with device }
    if entriesStatus ≠ .ok then ((some entriesStatus, service), engine.accessFailed sensor)
    else if service.nothingReady engine.lastConfig status fifoEntries then
      ((some .ok, service), engine)
    else (engine.noteOverrun sensor status).readBatch sensor service

/-- The service loop. Without a result the passes were not enough for it to end. -/
def serviceLoop (engine : AcquisitionEngine δ) (service : FifoService) :
    Nat → Option (SensorStatus × AcquisitionEngine δ)
  | 0 => none
  | passes + 1 => match engine.servicePass sensor service with
    | ((some status, _), engine) => some (status, engine)
    | ((none, service), engine) => serviceLoop engine service passes

/-- What starts a service: the interrupts, or the time since the last. -/
def openService (forceService : Bool) : Option FifoService × AcquisitionEngine δ :=
  let nowMs := sensor.nowMs engine.device
  if sensor.supportsDataReadyInterrupt engine.device then
    let (irqSources, device) := sensor.consumeDataReadyEventSources engine.device
    let engine := { engine with device }
    let snapshot := sensor.diagnosticSnapshot engine.device
    let int1Event := irqSources &&& sensorDiagFlagInt1Event ≠ 0
    let drdyEvent := irqSources &&& sensorDiagFlagDrdyEvent ≠ 0
    let watermarkIrq := FifoServicePolicy.watermarkIrqConfigured snapshot.lastIntMap
    let rawIrqSeen : Bool := if watermarkIrq then int1Event else int1Event ∨ drdyEvent
    if !rawIrqSeen && !forceService && !intervalElapsed nowMs engine.lastFifoServiceMs
        (if watermarkIrq then engine.fifoFallbackIntervalMs snapshot
          else legacyPollingIntervalMs) then
      (none, engine)
    else (some { forceService, nowMs, snapshot, rawIrqSeen }, engine)
  else
    (some { forceService, nowMs, snapshot := sensor.diagnosticSnapshot engine.device,
            rawIrqSeen := false }, engine)

def updateFifoWatermarkMode (forceService : Bool) (passes : Nat) :
    Option (SensorStatus × AcquisitionEngine δ) :=
  match engine.openService sensor forceService with
  | (none, engine) => some (.ok, engine)
  | (some service, engine) => engine.serviceLoop sensor service passes

def updateSingleSampleMode : AcquisitionEngine δ :=
  let ((status, sample), device) := sensor.readSample engine.device
  let engine := { engine with device }
  if status = .noData then { engine with
    consecutiveNoDataReads := saturatingIncrement32 engine.consecutiveNoDataReads }
  else if status ≠ .ok then engine.countSensorError
  else
    let engine := { engine with consecutiveNoDataReads := 0, consecutiveSensorErrors := 0 }
    match engine.processAndStoreSample sample none with
    | (none, engine) => engine
    | (some stored, engine) => engine.hand (.onSamples [stored])

def pause : AcquisitionEngine δ := { engine with paused := true }

def resume : AcquisitionEngine δ := { engine with paused := false }

def prepareForRuntime : SensorStatus × AcquisitionEngine δ :=
  if !engine.initialized || !engine.hasLastConfig then (.notInitialized, engine)
  else
    let (status, engine) := engine.applyFifoConfig sensor engine.lastConfig
    if status ≠ .ok then (status, engine)
    else (.ok, { engine with
      resampler := engine.resampler.reset
      lastFifoServiceMs := sensor.nowMs engine.device })

variable (passes : Nat)

/-- The forced service of a sensor with a FIFO. -/
def collect : Option (SensorStatus × AcquisitionEngine δ) :=
  if sensor.supportsFifo engine.device then engine.updateFifoWatermarkMode sensor true passes
  else some (.ok, engine)

def finishRecording : Option (SensorStatus × AcquisitionEngine δ) :=
  if !engine.initialized then some (.notInitialized, engine)
  else (engine.pause.collect sensor passes).map fun (status, engine) =>
    (status, if status = .ok then engine.emitContinuityBreak .processingReset else engine)

/-- The end of `reload_runtime_config`. -/
def reconfigure : SensorStatus × AcquisitionEngine δ :=
  let (status, engine) := engine.applyConfig sensor config
  if status ≠ .ok then (status, engine)
  else
    let (status, engine) := engine.applyOffsets sensor config
    if status ≠ .ok then (status, engine)
    else (.ok, { engine with
      lastConfig := config
      hasLastConfig := true
      lastFifoServiceMs := sensor.nowMs engine.device })

/-- The status of the service does not count. -/
def reloadRuntimeConfig (passes : Nat) : Option (SensorStatus × AcquisitionEngine δ) :=
  if !engine.initialized then some (engine.reconfigure sensor config)
  else (engine.collect sensor passes).map fun collected => collected.2.reconfigure sensor config

def update : Option (AcquisitionEngine δ) :=
  if !engine.initialized then some engine
  else if engine.paused then some engine
  else if sensor.supportsFifo engine.device then
    Prod.snd <$> engine.updateFifoWatermarkMode sensor false passes
  else some (engine.updateSingleSampleMode sensor)

end AcquisitionEngine
end SensorSystem.Node.Acquisition
