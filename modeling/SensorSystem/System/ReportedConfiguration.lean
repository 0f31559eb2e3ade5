import SensorSystem.Node.Runtime.ConfigurationTracking
import SensorSystem.System.ControlAgreement

/-! What the host reads when it asks a node for its configuration, from the copies in the flash to
the decoder of the response. A load leaves the rate, the range, the offsets and the generation as
they are, and not every value of these has a place on the wire. -/

namespace SensorSystem.System

open Base Host List Node
open Node.Acquisition (AcquisitionEngine Accelerometer)
open Node.Config
open Node (Core0Sizes ConfigurationNode ConfigurationService ConfigurationStep
  Reportable Sanitised Held Reflects CarriedOffset)

/-- A decoded response carries the configuration, with the decimated output rate. -/
structure Reports (config : PersistentConfig) (observed : ObservedConfiguration) : Prop where
  revision : observed.revision = config.generation
  sensorRate : observed.sensorOdr.sampleRate.toNat = config.device.odrHz.toNat * 1000000000
  outputRate : observed.desired.outputRate.sampleRate.toNat * observed.decimationFactor.toNat =
    config.device.odrHz.toNat * 1000000000
  range : observed.desired.rangeG = config.device.rangeG
  corner : observed.desired.highPassCorner = config.device.highPassCorner
  profile : observed.desired.filterProfile.toByte = config.device.filterProfile
  watermark : observed.desired.fifoWatermark = config.device.fifoWatermark
  offsetX : observed.desired.offsetX.toInt = config.device.offsetX.toInt
  offsetY : observed.desired.offsetY.toInt = config.device.offsetY.toInt
  offsetZ : observed.desired.offsetZ.toInt = config.device.offsetZ.toInt

variable {flash : Node.Boot.Flash} {loaded : PersistentConfig}

theorem initial_of_loadConfig (loads : flash.loadConfig = some loaded) :
    ConfigManager.initial flash =
      PersistentConfig.finalize { loaded with device := sanitizeDeviceConfig loaded.device } := by
  rw [ConfigManager.initial, ConfigManager.init, loads]
  simp only [isValid_loadConfig loads, if_true, Option.getD_some]

theorem reportable_initial (loads : flash.loadConfig = some loaded) :
    Reportable (ConfigManager.initial flash) ↔ Reportable loaded := by
  have same := Node.unsanitised_sanitizeDeviceConfig loaded.device
  rw [initial_of_loadConfig loads]
  constructor
  · intro reportable
    exact reportable.of_device reportable.revision
      ⟨same.rate.symm, same.range.symm, same.offsetX.symm, same.offsetY.symm, same.offsetZ.symm⟩
  · intro reportable
    exact reportable.of_device reportable.revision same

variable {odrHz : UInt16}

theorem mem_sensorRates (known : Wire.knownOutputRate (Node.outputRateCode odrHz) = true) :
    odrHz ∈ Node.sensorRates := by
  rw [Node.outputRateCode] at known
  split at known
  · rw [UInt16.toNat_inj.mp ‹odrHz.toNat = (4000 : UInt16).toNat›]
    decide
  · rw [UInt16.toNat_inj.mp ‹odrHz.toNat = (2000 : UInt16).toNat›]
    decide
  · rw [UInt16.toNat_inj.mp ‹odrHz.toNat = (1000 : UInt16).toNat›]
    decide
  · rw [UInt16.toNat_inj.mp ‹odrHz.toNat = (500 : UInt16).toNat›]
    decide
  · rw [UInt16.toNat_inj.mp ‹odrHz.toNat = (250 : UInt16).toNat›]
    decide
  · rw [UInt16.toNat_inj.mp ‹odrHz.toNat = (125 : UInt16).toNat›]
    decide
  · exact absurd known (by decide)

def sensorRegister (odrHz : UInt16) : UInt8 :=
  ((Node.outputRateToSensor (Node.outputRateCode odrHz)).map Prod.snd).getD 0xFF

variable (known : odrHz ∈ Node.sensorRates)

include known

theorem sensorRates_cases :
    odrHz = 4000 ∨ odrHz = 2000 ∨ odrHz = 1000 ∨ odrHz = 500 ∨ odrHz = 250 ∨ odrHz = 125 := by
  rwa [Node.sensorRates, mem_cons, mem_cons, mem_cons, mem_cons,
    mem_cons, mem_singleton] at known

theorem codes_of_sensorRates : Wire.knownOutputRate (Node.outputRateCode odrHz) = true ∧
      Wire.knownSensorOdr (sensorRegister odrHz) = true ∧
      Wire.ratesMatch (Node.outputRateCode odrHz) (sensorRegister odrHz) 2 = true := by
  obtain rfl | rfl | rfl | rfl | rfl | rfl := sensorRates_cases known <;> decide

variable (rate : OutputRateCode)

theorem sampleRate_sensor (same : rate.toByte = sensorRegister odrHz) :
    rate.sampleRate.toNat = odrHz.toNat * 1000000000 := by
  revert same
  obtain rfl | rfl | rfl | rfl | rfl | rfl := sensorRates_cases known <;> cases rate <;> decide

theorem sampleRate_output (same : rate.toByte = Node.outputRateCode odrHz) :
    rate.sampleRate.toNat * 2 = odrHz.toNat * 1000000000 := by
  revert same
  obtain rfl | rfl | rfl | rfl | rfl | rfl := sensorRates_cases known <;> cases rate <;> decide

omit known

theorem toInt_toInt16 {value : Int32} (carried : CarriedOffset value) :
    value.toInt16.toInt = value.toInt := by
  obtain ⟨low, high⟩ := carried
  rw [Int32.toInt_toInt16]
  exact Int.bmod_eq_of_le (by omega) (by omega)

theorem carried_of_toInt {value : Int32} {carried : Int16} (same : carried.toInt = value.toInt) :
    CarriedOffset value :=
  ⟨same ▸ carried.le_toInt, same ▸ carried.toInt_lt⟩

/-- A check that is negated in a guard lets its value pass. -/
theorem passes {check : Bool} (holds : check = true) : ¬ (!check) = true := by
  rw [holds]
  decide

theorem holds_of_passes {check : Bool} (passes : ¬ (!check) = true) : check = true := by
  rwa [Bool.not_eq_true', Bool.not_eq_false] at passes

section Reflecting

variable {config : PersistentConfig} {result : Node.ConfigurationResult}
  (reflects : Reflects config result)
include reflects

/-- A held configuration passes the encoder's check. -/
theorem validate_observedFrom (held : Held config) :
    (ConfigurationService.observedFrom result).validate = .ok := by
  obtain ⟨reportable, corner, profile, watermark⟩ := held
  obtain ⟨output, sensor, consistent⟩ := codes_of_sensorRates reportable.rate
  have desired : result.configuration.validate = .ok := by
    rw [reflects.configuration]
    refine (if_neg (passes output)).trans ((if_neg ?_).trans
      ((if_neg (UInt8.not_lt.mpr corner)).trans ((if_neg (UInt8.not_lt.mpr profile)).trans
        (if_neg ?_))))
    · rcases reportable.range with range | range | range
      · exact fun wrong => wrong.1 range
      · exact fun wrong => wrong.2.1 range
      · exact fun wrong => wrong.2.2 range
    rintro (low | high | rest)
    · exact UInt8.not_lt.mpr watermark.1 low
    · exact UInt8.not_lt.mpr watermark.2.1 high
    · exact rest watermark.2.2
  have revision : result.revision ≠ 0 := reflects.revision ▸ reportable.revision
  have register : Wire.knownSensorOdr result.sensorOdrRegister = true :=
    reflects.register ▸ sensor
  have rates : Wire.ratesMatch result.configuration.outputRate result.sensorOdrRegister
      result.decimationFactor = true := by
    rw [reflects.configuration, reflects.register, reflects.decimation]
    exact consistent
  have factor : result.decimationFactor ≠ 0 := reflects.decimation ▸ (by decide : (2 : UInt8) ≠ 0)
  exact (if_neg (not_not.mpr desired)).trans ((if_neg revision).trans
    ((if_neg (passes register)).trans ((if_neg factor).trans (if_neg (passes rates)))))

/-- What the check of the encoder covers. -/
theorem checked_of_validate (valid : (ConfigurationService.observedFrom result).validate = .ok) :
    config.generation ≠ 0 ∧ config.device.odrHz ∈ Node.sensorRates ∧
      (config.device.rangeG = 2 ∨ config.device.rangeG = 4 ∨ config.device.rangeG = 8) := by
  rw [Wire.ObservedConfiguration.validate] at valid
  split at valid
  · rename_i invalid
    exact absurd valid invalid
  rename_i desired
  simp only [status_guard_eq, ne_eq, reduceCtorEq, not_false_eq_true] at valid
  have desired : result.configuration.validate = .ok := not_not.mp desired
  rw [reflects.configuration, Wire.MeasurementConfiguration.validate] at desired
  simp only [status_guard_eq, ne_eq, reduceCtorEq, not_false_eq_true] at desired
  obtain ⟨rate, range, -⟩ := desired
  refine ⟨reflects.revision ▸ valid.1, mem_sensorRates (holds_of_passes rate), ?_⟩
  by_contra wrong
  rw [not_or, not_or] at wrong
  exact range wrong

theorem reports_of_node (reportable : Reportable config) {observed : ObservedConfiguration}
    (same : nodeObserved observed = ConfigurationService.observedFrom result) :
    Reports config observed := by
  have revision := congrArg Wire.ObservedConfiguration.revision same
  have desired := congrArg Wire.ObservedConfiguration.desired same
  have register := congrArg Wire.ObservedConfiguration.sensorOdrRegister same
  have decimation := congrArg Wire.ObservedConfiguration.decimationFactor same
  have desired := desired.trans reflects.configuration
  have factor : observed.decimationFactor = 2 := decimation.trans reflects.decimation
  have x := congrArg (·.offsetX.toInt) desired
  have y := congrArg (·.offsetY.toInt) desired
  have z := congrArg (·.offsetZ.toInt) desired
  exact {
    revision := revision.trans reflects.revision
    sensorRate := sampleRate_sensor reportable.rate _ (register.trans reflects.register)
    outputRate := by
      rw [factor]
      exact sampleRate_output reportable.rate _ (congrArg (·.outputRate) desired)
    range := congrArg (·.rangeG) desired
    corner := congrArg (·.highPassCorner) desired
    profile := congrArg (·.filterProfile) desired
    watermark := congrArg (·.fifoWatermark) desired
    offsetX := x.trans (toInt_toInt16 reportable.offsetX)
    offsetY := y.trans (toInt_toInt16 reportable.offsetY)
    offsetZ := z.trans (toInt_toInt16 reportable.offsetZ) }

end Reflecting

section Asking

variable {δ : Type} {sizes : Core0Sizes} {sensor : Accelerometer δ}
  {node : ConfigurationNode δ sizes} {output : List UInt8}

theorem getConfig_eq (working : node.service.pollResult.faulted = false)
    (room : Wire.getConfigResponseBytes ≤ output.length) :
    node.getConfig output = match Wire.encodeGetConfigSuccess
        (ConfigurationService.observedFrom node.service.pollResult.observed) output with
      | (.ok, written) => written.take Wire.getConfigResponseBytes
      | (_, written) => (ConfigurationService.error .internalError written).2.take
        (ConfigurationService.error .internalError written).1 := by
  have filled : output ≠ [] := by
    rintro rfl
    exact absurd room (by decide)
  rw [ConfigurationNode.getConfig, ConfigurationService.handle, ConfigurationService.answer,
    if_neg filled, if_pos rfl, if_neg (by decide), ConfigurationService.encodeObserved, working,
    if_neg (by decide)]
  obtain ⟨status, written⟩ := Wire.encodeGetConfigSuccess
    (ConfigurationService.observedFrom node.service.pollResult.observed) output
  cases status <;> rfl

theorem take_error (status : Wire.ResponseStatus) (filled : output ≠ []) :
    (ConfigurationService.error status output).2.take (ConfigurationService.error status output).1 =
      [status.toByte] := by
  rw [ConfigurationService.error, if_neg filled]
  rfl

variable (working : node.service.pollResult.faulted = false)
  (room : Wire.getConfigResponseBytes ≤ output.length)

include working room

theorem getConfig_read
    (valid : (ConfigurationService.observedFrom node.service.pollResult.observed).validate = .ok) :
    ∃ observed, nodeObserved observed =
        ConfigurationService.observedFrom node.service.pollResult.observed ∧
      decodeGetConfigResponse (node.getConfig output) = .ok observed := by
  have answered := getConfig_eq working room
  generalize ConfigurationService.observedFrom node.service.pollResult.observed = value
    at answered valid ⊢
  obtain ⟨host, -, rfl⟩ := exists_hostObserved valid
  rw [Wire.getConfigResponseBytes] at room
  have front : LaidOut output.length (overwrite output 0 [Wire.ResponseStatus.ok.toByte])
      [0] := laidOut_first rfl _ (by
    rw [length_singleton]
    omega)
  obtain ⟨buffer, encoded, -⟩ :=
    laidOut_encodeObserved front (show 1 = _ from rfl) (by omega) valid
  have whole : Wire.encodeGetConfigSuccess (nodeObserved host) output = (.ok, buffer) :=
    (if_neg (Nat.not_lt.mpr room)).trans encoded
  rw [whole] at answered
  refine understood_getConfig (nodeObserved host) output _ ?_
  rw [NodeResponse.encode, sent, whole, if_pos rfl, answered]

/-- What the host reads has passed the encoder's check. -/
theorem validate_of_read {observed : ObservedConfiguration}
    (read : decodeGetConfigResponse (node.getConfig output) = .ok observed) :
    (ConfigurationService.observedFrom node.service.pollResult.observed).validate = .ok := by
  by_contra invalid
  rw [getConfig_eq working room, Wire.encodeGetConfigSuccess, if_neg (Nat.not_lt.mpr room),
    Wire.encodeObserved, if_pos invalid] at read
  generalize (ConfigurationService.observedFrom node.service.pollResult.observed).validate = status
    at invalid read
  -- The response is the one byte of the status.
  have filled : overwrite output 0 [Wire.ResponseStatus.ok.toByte] ≠ [] := nofun
  have refused : decodeGetConfigResponse [Wire.ResponseStatus.internalError.toByte] =
      .ok observed := by
    rw [← take_error _ filled]
    cases status with
    | ok => exact absurd rfl invalid
    | _ => exact read
  exact nomatch refused

omit room working

end Asking

/-- A node answers with the configuration it holds, in every state that it reaches from a load
exactly if the loaded configuration can be reported. -/
theorem reported_configuration_iff {δ : Type} {sizes : Core0Sizes} (sensor : Accelerometer δ)
    (engine : AcquisitionEngine δ) (flash : Node.Boot.Flash) (loaded : PersistentConfig)
    (loads : flash.loadConfig = some loaded) :
    (∀ (events : List (ConfigurationStep δ)) (reached : ConfigurationNode δ sizes)
        (output : List UInt8), Node.Wire.getConfigResponseBytes ≤ output.length →
      runSteps (ConfigurationNode.step sensor)
        (ConfigurationNode.start engine (ConfigManager.initial flash)) events = some reached →
      ∃ observed, Host.decodeGetConfigResponse (reached.getConfig output) = .ok observed ∧
        Reports reached.core.config observed) ↔ Reportable loaded := by
  have started : (ConfigurationNode.start engine (ConfigManager.initial flash) :
      ConfigurationNode δ sizes).Tracked := Node.ConfigurationNode.start_tracked engine _
  constructor
  · intro always
    obtain ⟨observed, read, reports⟩ := always [] _ (List.replicate 19 0) (by decide) rfl
    obtain ⟨working, -, reflects⟩ :=
      ConfigurationService.pollResult_tracks started.working started.tracks
    have valid := validate_of_read working (by decide) read
    obtain ⟨revision, rate, range⟩ := checked_of_validate reflects valid
    exact (reportable_initial loads).mp ⟨revision, rate, range, carried_of_toInt reports.offsetX,
      carried_of_toInt reports.offsetY, carried_of_toInt reports.offsetZ⟩
  intro reportable events reached output room runs
  obtain ⟨tracked, kept⟩ := Node.ConfigurationNode.runSteps_tracked started runs
  have first : Held (ConfigManager.initial flash) := by
    refine ⟨(reportable_initial loads).mpr reportable, ?_⟩
    rw [initial_of_loadConfig loads]
    exact Node.sanitised_sanitizeDeviceConfig _
  have held := kept first
  obtain ⟨working, -, reflects⟩ :=
    ConfigurationService.pollResult_tracks tracked.working tracked.tracks
  obtain ⟨observed, same, read⟩ :=
    getConfig_read working room (validate_observedFrom reflects held)
  exact ⟨observed, read, reports_of_node reflects held.reportable same⟩

/-- A sensor without samples. -/
def restingSensor : Accelerometer Unit where
  nowMs _ := 0
  supportsFifo _ := true
  supportsSampleTimestamps _ := false
  supportsDataReadyInterrupt _ := false
  configure _ _ := (.ok, ())
  configureFifo _ _ := (.ok, ())
  setOffset _ _ _ _ := (.ok, ())
  consumeDataReadyEventSources _ := (0, ())
  diagnosticSnapshot _ := {}
  refreshDiagnosticSnapshot _ := ()
  readStatus _ := ((.ok, 0), ())
  readFifoEntries _ := ((.ok, 0), ())
  readFifoBatch _ _ := ({ status := .noData }, ())
  notifyFifoTimingDiscontinuity _ _ := ()
  readSample _ := ((.noData, {}), ())

/-- What a save has stored of a device configuration. -/
def storedConfig (device : DeviceConfig) : PersistentConfig :=
  PersistentConfig.finalize { generation := 2, device }

def storedFlash (device : DeviceConfig) : Node.Boot.Flash :=
  erasedFlash.writeRecord configCopy0Offset (storedConfig device).bytes

/-- The node on a flash. -/
def bootedOn (flash : Node.Boot.Flash) : ConfigurationNode Unit ⟨8, 4⟩ :=
  .start { device := () } (ConfigManager.initial flash)

/-- The default configuration is reported. -/
theorem reported_configuration_iff_of_defaults :
    (storedFlash {}).loadConfig = some (storedConfig {}) ∧
      ((∀ (events : List (ConfigurationStep Unit)) (reached : ConfigurationNode Unit ⟨8, 4⟩)
          (output : List UInt8), Node.Wire.getConfigResponseBytes ≤ output.length →
        runSteps (ConfigurationNode.step restingSensor)
            (ConfigurationNode.start { device := () } (ConfigManager.initial (storedFlash {})))
            events = some reached →
        ∃ observed, Host.decodeGetConfigResponse (reached.getConfig output) = .ok observed ∧
          Reports reached.core.config observed) ↔ Reportable (storedConfig {})) := by
  have loads : (storedFlash {}).loadConfig = some (storedConfig {}) := by decide +kernel
  exact ⟨loads, reported_configuration_iff restingSensor { device := () } _ _ loads⟩

/-- At a stored rate without a code the node only answers with an error, and a stored offset of
70000 is read as 4464. -/
theorem stored_configuration_misread :
    (storedFlash { odrHz := 62 }).loadConfig = some (storedConfig { odrHz := 62 }) ∧
      Host.decodeGetConfigResponse
        ((bootedOn (storedFlash { odrHz := 62 })).getConfig (List.replicate 19 0)) =
          .error (.remote .internalError) ∧
      (storedFlash { offsetX := 70000 }).loadConfig = some (storedConfig { offsetX := 70000 }) ∧
      (Host.decodeGetConfigResponse
        ((bootedOn (storedFlash { offsetX := 70000 })).getConfig (List.replicate 19 0))).map
          (·.desired.offsetX) = .ok 4464 ∧
      ¬ ∀ (flash : Node.Boot.Flash) (loaded : PersistentConfig), flash.loadConfig = some loaded →
        ∀ (events : List (ConfigurationStep Unit)) (reached : ConfigurationNode Unit ⟨8, 4⟩)
          (output : List UInt8), Node.Wire.getConfigResponseBytes ≤ output.length →
        runSteps (ConfigurationNode.step restingSensor) (bootedOn flash) events = some reached →
        ∃ observed, Host.decodeGetConfigResponse (reached.getConfig output) = .ok observed ∧
          Reports reached.core.config observed := by
  have loads : (storedFlash { odrHz := 62 }).loadConfig = some (storedConfig { odrHz := 62 }) := by
    decide +kernel
  have refused : Host.decodeGetConfigResponse
      ((bootedOn (storedFlash { odrHz := 62 })).getConfig (List.replicate 19 0)) =
        .error (.remote .internalError) := by decide +kernel
  refine ⟨loads, refused, by decide +kernel, by decide +kernel, fun always => ?_⟩
  obtain ⟨observed, read, -⟩ := always _ _ loads [] _ (List.replicate 19 0) (by decide) rfl
  exact nomatch refused.symm.trans read

end SensorSystem.System
