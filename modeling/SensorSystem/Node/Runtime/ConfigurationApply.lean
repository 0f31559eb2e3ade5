import SensorSystem.Node.Runtime.ConfigurationTracking

/-! A command checks its revision, reconfigures the sensor and saves. When a step fails the sensor
goes back to the configuration that is stored; what the manager holds is then what it held before,
since it only ever holds what a load would leave alone. -/

namespace SensorSystem.Node

open Option Base
open Acquisition
open Config
open Node.Boot (Flash)
open Wire

theorem sanitisedWatermark_of_valid {value : UInt8} (low : 3 ≤ value) (high : value ≤ 96)
    (whole : value % 3 = 0) : sanitisedWatermark value = value := by
  have every : ∀ value : Fin 256, 3 ≤ UInt8.ofFin value → UInt8.ofFin value ≤ 96 →
      UInt8.ofFin value % 3 = 0 → sanitisedWatermark (UInt8.ofFin value) = UInt8.ofFin value := by
    decide +kernel
  exact every value.toFin low high whole

theorem baudrate_sanitizeDeviceConfig (device : DeviceConfig) :
    (sanitizeDeviceConfig device).baudrate ∈ supportedBaudrates := by
  have same : (sanitizeDeviceConfig device).baudrate =
      if device.baudrate ∈ supportedBaudrates then device.baudrate else 115200 := by
    simp only [sanitizeDeviceConfig, apply_ite DeviceConfig.baudrate, ite_self]
  rw [same]
  split
  · assumption
  · decide

theorem sanitizeDeviceConfig_of_sanitised {device : DeviceConfig}
    (baudrate : device.baudrate ∈ supportedBaudrates) (sanitised : Sanitised device) :
    sanitizeDeviceConfig device = device := by
  obtain ⟨low, high, whole⟩ := sanitised.watermark
  have watermark := sanitisedWatermark_of_valid low high whole
  rw [sanitisedWatermark] at watermark
  unfold sanitizeDeviceConfig
  dsimp only at watermark ⊢
  rw [if_pos baudrate, if_neg (UInt8.not_lt.mpr sanitised.corner),
    if_neg (UInt8.not_lt.mpr sanitised.profile), watermark]

/-- A configuration as the manager keeps it: sanitised, and with its checksum. -/
structure SettledConfig (config : PersistentConfig) : Prop where
  device : sanitizeDeviceConfig config.device = config.device
  finalized : config.finalize = config

theorem settled_finalize {config : PersistentConfig}
    (device : sanitizeDeviceConfig config.device = config.device) : SettledConfig config.finalize :=
  ⟨device, rfl⟩

theorem sanitizeDeviceConfig_idem (device : DeviceConfig) :
    sanitizeDeviceConfig (sanitizeDeviceConfig device) = sanitizeDeviceConfig device :=
  sanitizeDeviceConfig_of_sanitised (baudrate_sanitizeDeviceConfig device)
    (sanitised_sanitizeDeviceConfig device)

theorem settled_initial (flash : Flash) : SettledConfig (ConfigManager.initial flash) := by
  unfold ConfigManager.initial ConfigManager.init
  split
  · split
    · exact settled_finalize (sanitizeDeviceConfig_idem _)
    · exact settled_finalize (by decide)
  · exact settled_finalize (by decide)

theorem SettledConfig.next {config saved : PersistentConfig} (settled : SettledConfig config)
    (next : ConfigManager.next config = some saved) :
    SettledConfig saved ∧ saved.device = config.device ∧
      saved.generation.toNat = config.generation.toNat + 1 := by
  have later := (generation_next next).2
  rw [ConfigManager.next] at next
  split at next
  · cases next
  rename_i bounded
  cases next
  have room : config.generation.toNat ≠ 0xFFFFFFFF :=
    fun full => bounded (UInt32.toNat_inj.mp full)
  have small := config.generation.toNat_lt
  refine ⟨settled_finalize settled.device, rfl, ?_⟩
  change (config.generation + 1).toNat = _
  rw [UInt32.toNat_add, UInt32.toNat_one]
  omega

theorem sanitise_next {previous : DeviceConfig} {requested : MeasurementConfiguration}
    (odrHz : UInt16) (kept : sanitizeDeviceConfig previous = previous)
    (valid : validRuntimeConfiguration requested = true) :
    sanitizeDeviceConfig (Core0.nextDeviceConfig previous requested odrHz) =
      Core0.nextDeviceConfig previous requested odrHz := by
  simp only [validRuntimeConfiguration, Bool.and_eq_true, Bool.or_eq_true, decide_eq_true_eq]
    at valid
  obtain ⟨⟨⟨⟨⟨_, corner⟩, profile⟩, low⟩, high⟩, whole⟩ := valid
  have baudrate : previous.baudrate ∈ supportedBaudrates :=
    kept ▸ baudrate_sanitizeDeviceConfig previous
  exact sanitizeDeviceConfig_of_sanitised baudrate ⟨corner, profile, low, high, whole⟩

theorem outputRateCode_of_sensor {code : UInt8} {odrHz : UInt16} {register : UInt8}
    (known : outputRateToSensor code = some (odrHz, register)) : outputRateCode odrHz = code := by
  rw [outputRateToSensor] at known
  split at known
  all_goals
    cases known
  all_goals
    rename_i same
    exact UInt8.toNat_inj.mp same.symm

/-- What the manager holds afterwards is what was asked for. -/
theorem runtimeConfiguration_next (previous : DeviceConfig) {requested : MeasurementConfiguration}
    {odrHz : UInt16} {register : UInt8}
    (known : outputRateToSensor requested.outputRate = some (odrHz, register)) :
    runtimeConfigurationFromDevice (Core0.nextDeviceConfig previous requested odrHz) =
      requested := by
  simp only [runtimeConfigurationFromDevice, Core0.nextDeviceConfig,
    outputRateCode_of_sensor known, Int16.toInt16_toInt32]

/-- The sensor took every part of a configuration, and the engine works with it. -/
def RunsOn {δ : Type} (sensor : Accelerometer δ) (config : DeviceConfig)
    (engine : AcquisitionEngine δ) : Prop :=
  engine.hasLastConfig = true ∧ engine.lastConfig = config ∧
    ∃ before : AcquisitionEngine δ, (before.reconfigure sensor config).1 = .ok ∧
      engine = { (before.reconfigure sensor config).2 with handed := [] }

namespace Core0

variable {δ : Type} {sizes : Core0Sizes} {sensor : Accelerometer δ} {core after : Core0 δ sizes}
  {passes : Nat}

theorem runsOn_reload {config : DeviceConfig}
    (reloaded : core.reload sensor config passes = some (.ok, after)) :
    RunsOn sensor config after.engine := by
  obtain ⟨⟨status, engine⟩, engineReloads, delivered⟩ := bind_eq_some_iff.mp reloaded
  cases delivered
  have source : ∃ before : AcquisitionEngine δ,
      before.reconfigure sensor config = (.ok, engine) := by
    unfold AcquisitionEngine.reloadRuntimeConfig at engineReloads
    split at engineReloads
    · exact ⟨_, Option.some.inj engineReloads⟩
    · obtain ⟨collected, _, reconfigured⟩ := map_eq_some_iff.mp engineReloads
      exact ⟨_, reconfigured⟩
  obtain ⟨before, reconfigured⟩ := source
  have kept : engine.hasLastConfig = true ∧ engine.lastConfig = config := by
    unfold AcquisitionEngine.reconfigure at reconfigured
    dsimp only at reconfigured
    split at reconfigured
    · rename_i failed
      exact absurd (congrArg Prod.fst reconfigured) failed
    split at reconfigured
    · rename_i failed
      exact absurd (congrArg Prod.fst reconfigured) failed
    · obtain ⟨-, rfl⟩ := Prod.mk.inj reconfigured
      exact ⟨rfl, rfl⟩
  refine ⟨kept.1, kept.2, before, ?_, ?_⟩
  · rw [reconfigured]
  · rw [reconfigured]
    rfl

variable {operationId : UInt32} {result : ConfigurationResult} {command : ConfigurationCommand}
  {event : Core0Step δ}

theorem rollBack_spec {code : ConfigOperationCode} {previous : DeviceConfig}
    (rolled : core.rollBack sensor operationId code previous passes = some (result, after)) :
    after.config = core.config ∧
      (result.code = .rollbackFailed ∨
        result.code = code ∧ RunsOn sensor previous after.engine) := by
  obtain ⟨⟨status, middle⟩, reloaded, ended⟩ := bind_eq_some_iff.mp rolled
  cases ended
  refine ⟨config_reload reloaded, ?_⟩
  by_cases accepted : status = .ok
  · have given : (if status = .ok then code else ConfigOperationCode.rollbackFailed) = code :=
      if_pos accepted
    exact .inr ⟨given, runsOn_reload (accepted ▸ reloaded)⟩
  have given : (if status = .ok then code else ConfigOperationCode.rollbackFailed) =
      .rollbackFailed := if_neg accepted
  exact .inl given

/-- The expected revision was there, and the manager holds the next one with the settings asked for.
-/
structure Renews (command : ConfigurationCommand) (before after : PersistentConfig) : Prop where
  expected : command.expectedRevision = before.generation
  generation : after.generation.toNat = before.generation.toNat + 1
  configuration : runtimeConfigurationFromDevice after.device = requested command
  others : ∃ odrHz, after.device = nextDeviceConfig before.device (requested command) odrHz

/-- What a command can come to. -/
inductive Outcome (sensor : Accelerometer δ) (core after : Core0 δ sizes)
    (command : ConfigurationCommand) : ConfigOperationCode → Prop where
  | refused {code : ConfigOperationCode}
      (early : code = .wrongMode ∨ code = .revisionConflict ∨ code = .invalidConfiguration)
      (same : after = core) : Outcome sensor core after command code
  | restored {code : ConfigOperationCode} (late : code = .sensorFailed ∨ code = .storageFailed)
      (stored : after.config = core.config)
      (live : RunsOn sensor core.config.device after.engine) :
      Outcome sensor core after command code
  | applied (stored : Renews command core.config after.config)
      (live : RunsOn sensor after.config.device after.engine) :
      Outcome sensor core after command .applied
  | rollbackFailed
      (stored : after.config = core.config ∨ Renews command core.config after.config) :
      Outcome sensor core after command .rollbackFailed

/-- The sink may still refuse the new revision. -/
theorem Outcome.of_saved (accepted : Bool) (stored : Renews command core.config after.config)
    (live : RunsOn sensor after.config.device after.engine) :
    Outcome sensor core after command (if accepted then .applied else .rollbackFailed) := by
  cases accepted with
  | true => exact .applied stored live
  | false => exact .rollbackFailed (.inr stored)

theorem rollBack_outcome {code : ConfigOperationCode} {middle : Core0 δ sizes}
    (late : code = .sensorFailed ∨ code = .storageFailed) (kept : middle.config = core.config)
    (rolled : middle.rollBack sensor operationId code core.config.device passes =
      some (result, after)) :
    Outcome sensor core after command result.code ∧ after.config = core.config := by
  obtain ⟨config, ended⟩ := rollBack_spec rolled
  have same := config.trans kept
  rcases ended with failed | ⟨restored, live⟩
  · rw [failed]
    exact ⟨.rollbackFailed (.inl same), same⟩
  · rw [restored]
    exact ⟨.restored late same live, same⟩

variable (settled : SettledConfig core.config)

include settled

/-- The sensor has taken the configuration. -/
theorem commit_outcome {odrHz : UInt16} {register : UInt8} {saves : Bool} {middle : Core0 δ sizes}
    (kept : middle.config = core.config)
    (expected : command.expectedRevision = core.config.generation)
    (valid : validRuntimeConfiguration (requested command) = true)
    (known : outputRateToSensor (requested command).outputRate = some (odrHz, register))
    (live : RunsOn sensor (nextDeviceConfig core.config.device (requested command) odrHz)
      middle.engine) (committed : middle.commit sensor operationId core.config.device
      (nextDeviceConfig core.config.device (requested command) odrHz) saves passes =
        some (result, after)) :
    Outcome sensor core after command result.code ∧ SettledConfig after.config := by
  have clean := sanitise_next odrHz settled.device valid
  have replaced : (middle.replaceDeviceConfig
      (nextDeviceConfig core.config.device (requested command) odrHz)).config =
      ({ core.config with device := nextDeviceConfig core.config.device (requested command) odrHz }
        : PersistentConfig).finalize := by
    rw [replaceDeviceConfig, kept, clean]
  rw [commit] at committed
  rw [replaced] at committed
  split at committed
  · -- The manager gets back exactly what it held.
    have back : ((middle.replaceDeviceConfig
        (nextDeviceConfig core.config.device (requested command) odrHz)).replaceDeviceConfig
          core.config.device).config = core.config := by
      rw [replaceDeviceConfig, replaced, settled.device]
      exact settled.finalized
    obtain ⟨outcome, same⟩ := rollBack_outcome (.inr rfl) back committed
    exact ⟨outcome, same ▸ settled⟩
  rename_i saved stored
  obtain ⟨found, -⟩ := filter_eq_some_iff.mp stored
  have renewed : SettledConfig ({ core.config with
      device := nextDeviceConfig core.config.device (requested command) odrHz }
        : PersistentConfig).finalize := settled_finalize clean
  obtain ⟨again, device, generation⟩ := renewed.next found
  cases committed
  have renews : Renews command core.config saved := {
    expected
    generation
    configuration := by
      rw [device]
      exact runtimeConfiguration_next _ known
    others := ⟨odrHz, device⟩ }
  have runs : RunsOn sensor saved.device middle.engine := device ▸ live
  exact ⟨.of_saved _ renews runs, again⟩

theorem configure_outcome {saves : Bool}
    (configured : core.configure sensor command saves passes = some (result, after)) :
    Outcome sensor core after command result.code ∧ SettledConfig after.config := by
  have unchanged {code : ConfigOperationCode}
      (early : code = .wrongMode ∨ code = .revisionConflict ∨ code = .invalidConfiguration)
      (same : some (core.configurationResult command.operationId code, core) =
        some (result, after)) :
      Outcome sensor core after command result.code ∧ SettledConfig after.config := by
    cases same
    exact ⟨.refused early rfl, settled⟩
  rw [configure] at configured
  dsimp only at configured
  split at configured
  · exact unchanged (.inl rfl) configured
  split at configured
  · exact unchanged (.inr (.inl rfl)) configured
  rename_i expected
  split at configured
  · exact unchanged (.inr (.inr rfl)) configured
  rename_i valid
  split at configured
  · exact unchanged (.inr (.inr rfl)) configured
  rename_i odrHz register known
  obtain ⟨⟨status, middle⟩, reloaded, ended⟩ := bind_eq_some_iff.mp configured
  have kept := config_reload reloaded
  split at ended
  · obtain ⟨outcome, same⟩ := rollBack_outcome (.inl rfl) kept ended
    exact ⟨outcome, same ▸ settled⟩
  rename_i accepted
  obtain rfl := not_not.mp accepted
  exact commit_outcome settled kept (not_not.mp expected) (by simpa using valid) known
    (runsOn_reload reloaded) ended

theorem settled_step (moves : core.step sensor event = some after) :
    SettledConfig after.config := by
  by_cases other : ∀ command saves passes rounds,
      event ≠ .call (.configure command saves) passes rounds
  · rw [config_step moves other]
    exact settled
  simp only [not_forall, not_not] at other
  obtain ⟨command, saves, passes, rounds, rfl⟩ := other
  obtain ⟨⟨result, last⟩, configured, rfl⟩ := map_eq_some_iff.mp moves
  have opened : SettledConfig (core.withRounds rounds).config := settled
  exact (configure_outcome opened configured).2

theorem settled_run {steps : List (Core0Step δ)}
    (runs : runSteps (Core0.step sensor) core steps = some after) : SettledConfig after.config := by
  induction steps generalizing core with
  | nil =>
    cases runs
    exact settled
  | cons event steps ih =>
    obtain ⟨middle, moves, rest⟩ := bind_eq_some_iff.mp runs
    exact ih (settled_step settled moves) rest

theorem step_renews (moves : core.step sensor event = some after) : after.config = core.config ∨
      ∃ command saves passes rounds, event = .call (.configure command saves) passes rounds ∧
        Renews command core.config after.config := by
  by_cases other : ∀ command saves passes rounds,
      event ≠ .call (.configure command saves) passes rounds
  · exact .inl (config_step moves other)
  simp only [not_forall, not_not] at other
  obtain ⟨command, saves, passes, rounds, rfl⟩ := other
  obtain ⟨⟨result, last⟩, configured, rfl⟩ := map_eq_some_iff.mp moves
  have opened : SettledConfig (core.withRounds rounds).config := settled
  have outcome := (configure_outcome opened configured).1
  generalize result.code = code at outcome
  cases outcome with
  | refused early same => exact .inl (by rw [same]; rfl)
  | restored late stored live => exact .inl stored
  | applied stored live => exact .inr ⟨command, saves, passes, rounds, rfl, stored⟩
  | rollbackFailed stored =>
    rcases stored with same | renews
    · exact .inl same
    · exact .inr ⟨command, saves, passes, rounds, rfl, renews⟩

omit settled

/-- A command for a revision that changes what the manager holds. -/
def TakesEffect (revision : UInt32) (core after : Core0 δ sizes) : Core0Step δ → Bool
  | .call (.configure command _) _ _ =>
    command.expectedRevision = revision && after.config ≠ core.config
  | _ => false

/-- How many commands for a revision take effect in a run. -/
def effects (sensor : Accelerometer δ) (revision : UInt32) (core : Core0 δ sizes) :
    List (Core0Step δ) → Nat
  | [] => 0
  | event :: events =>
    match core.step sensor event with
    | none => 0
    | some after =>
      (if TakesEffect revision core after event then 1 else 0) +
        effects sensor revision after events

theorem takesEffect_cases (revision : UInt32) (settled : SettledConfig core.config)
    (moves : core.step sensor event = some after) : (TakesEffect revision core after event = false ∧
      core.config.generation.toNat ≤ after.config.generation.toNat) ∨
    (core.config.generation = revision ∧
      after.config.generation.toNat = revision.toNat + 1) := by
  rcases step_renews settled moves with same | ⟨command, saves, passes, rounds, rfl, renews⟩
  · refine .inl ⟨?_, Nat.le_of_eq (by rw [same])⟩
    unfold TakesEffect
    split
    · simp only [same, ne_eq, not_true_eq_false, decide_false, Bool.and_false]
    · rfl
  by_cases asked : command.expectedRevision = revision
  · exact .inr ⟨renews.expected.symm.trans asked, by
      rw [renews.generation, ← renews.expected, asked]⟩
  refine .inl ⟨?_, by have later := renews.generation; omega⟩
  simp only [TakesEffect, asked, decide_false, Bool.false_and]

/-- A revision that has passed does not come back. -/
theorem effects_behind {revision : UInt32} {events : List (Core0Step δ)}
    (settled : SettledConfig core.config) (behind : revision.toNat < core.config.generation.toNat) :
    effects sensor revision core events = 0 := by
  induction events generalizing core with
  | nil => rfl
  | cons event events ih =>
    unfold effects
    split
    · rfl
    rename_i after moves
    rcases takesEffect_cases revision settled moves with
      ⟨none, onward⟩ | ⟨there, _⟩
    · rw [none, ih (settled_step settled moves) (by omega)]
      rfl
    · rw [there] at behind
      exact absurd behind (Nat.lt_irrefl _)

theorem effects_le_one {revision : UInt32} {events : List (Core0Step δ)}
    (settled : SettledConfig core.config) : effects sensor revision core events ≤ 1 := by
  induction events generalizing core with
  | nil => exact Nat.zero_le _
  | cons event events ih =>
    unfold effects
    split
    · exact Nat.zero_le _
    rename_i after moves
    have onward := settled_step settled moves
    rcases takesEffect_cases revision settled moves with
      ⟨none, _⟩ | ⟨there, passed⟩
    · rw [none]
      have rest := ih onward
      simpa using rest
    rw [effects_behind onward (by omega)]
    split
    · exact Nat.le_refl _
    · exact Nat.zero_le _

/-- A command that is refused or fails leaves what is stored, and the sensor stays on it or goes
back to it; an applied one renews both; and a revision is used up by one command. -/
theorem configuration_apply_spec (sensor : Accelerometer δ) (engine : AcquisitionEngine δ)
    (flash : Flash) : (∀ steps (core : Core0 δ sizes),
      runSteps (Core0.step sensor) (boot engine (ConfigManager.initial flash)) steps = some core →
        ∀ command saves passes rounds result after,
          (core.withRounds rounds).configure sensor command saves passes = some (result, after) →
            Outcome sensor (core.withRounds rounds) after command result.code) ∧
    ∀ revision steps,
      effects sensor revision (boot engine (ConfigManager.initial flash) : Core0 δ sizes)
        steps ≤ 1 := by
  have settled : SettledConfig (boot engine (ConfigManager.initial flash) : Core0 δ sizes).config :=
    settled_initial flash
  constructor
  · intro steps core runs command saves passes rounds result after configured
    have held : SettledConfig core.config := settled_run settled runs
    have opened : SettledConfig (core.withRounds rounds).config := held
    exact (configure_outcome opened configured).1
  · intro revision steps
    exact effects_le_one settled

end Core0

/-- A sensor that answers each configuration as it is told. -/
def scriptedSensor : Accelerometer (List SensorStatus) where
  nowMs _ := 0
  supportsFifo _ := true
  supportsSampleTimestamps _ := true
  supportsDataReadyInterrupt _ := false
  configure _ answers := (answers.headD .ok, answers.tail)
  configureFifo _ answers := (.ok, answers)
  setOffset _ _ _ answers := (.ok, answers)
  consumeDataReadyEventSources answers := (0, answers)
  diagnosticSnapshot _ := {}
  refreshDiagnosticSnapshot answers := answers
  readStatus answers := ((.ok, 0), answers)
  readFifoEntries answers := ((.ok, 0), answers)
  readFifoBatch _ answers := ({ status := .noData }, answers)
  notifyFifoTimingDiscontinuity _ answers := answers
  readSample answers := ((.noData, {}), answers)

/-- A node on the defaults. -/
def defaultNode : Core0 (List SensorStatus) ⟨8, 4⟩ :=
  Core0.boot { device := [] } (PersistentConfig.finalize { generation := 1 })

/-- Ranges of 4 and 8 for the first revision; the store refuses both. -/
def wider : ConfigurationCommand :=
  { operationId := 2, expectedRevision := 1, configuration := { rangeG := 4 } }

def widest : ConfigurationCommand :=
  { operationId := 3, expectedRevision := 1, configuration := { rangeG := 8 } }

/-- In maintenance the sensor takes the first of them, and then not the way back. -/
def strandedSteps : List (Core0Step (List SensorStatus)) :=
  [.call (.command { operationId := 1, operation := .enterMaintenance }) 4 [],
    .sense [.ok, .commError], .call (.configure wider false) 4 []]

/-- The second command fails with its sensor rolled back, but not to where it was. -/
theorem failed_save_moves_sensor :
    ((runSteps (Core0.step scriptedSensor) defaultNode strandedSteps).bind fun before =>
      (before.configure scriptedSensor widest false 4).map fun (result, after) =>
        (result.code, before.engine.lastConfig.rangeG, after.engine.lastConfig.rangeG)) =
      some (.storageFailed, 4, 2) := by
  decide +kernel

end SensorSystem.Node
