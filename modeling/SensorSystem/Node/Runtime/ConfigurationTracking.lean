import SensorSystem.Node.Config.ConfigSurvival
import SensorSystem.Node.Runtime.ConfigurationService
import Mathlib.Tactic.Tauto

/-! The service's last result is that of the configuration which core 0 holds, or one on its way
to the service is. A configuration that can be reported stays one: whatever is applied is checked
first, and a rollback goes back to one. -/

namespace SensorSystem.Node

open Option Base
open Acquisition
open Config
open Wire

/-- A stored offset that the wire can carry. -/
def CarriedOffset (value : Int32) : Prop := -2 ^ 15 ≤ value.toInt ∧ value.toInt < 2 ^ 15

def sensorRates : List UInt16 := [4000, 2000, 1000, 500, 250, 125]

/-- A configuration whose fields all have a place on the wire. -/
structure Reportable (config : PersistentConfig) : Prop where
  revision : config.generation ≠ 0
  rate : config.device.odrHz ∈ sensorRates
  range : config.device.rangeG = 2 ∨ config.device.rangeG = 4 ∨ config.device.rangeG = 8
  offsetX : CarriedOffset config.device.offsetX
  offsetY : CarriedOffset config.device.offsetY
  offsetZ : CarriedOffset config.device.offsetZ

/-- The fields that a load sanitises. -/
structure Sanitised (device : DeviceConfig) : Prop where
  corner : device.highPassCorner ≤ 7
  profile : device.filterProfile ≤ 2
  watermark : 3 ≤ device.fifoWatermark ∧ device.fifoWatermark ≤ 96 ∧ device.fifoWatermark % 3 = 0

/-- The fields that a load does not sanitise. -/
structure Unsanitised (device other : DeviceConfig) : Prop where
  rate : device.odrHz = other.odrHz
  range : device.rangeG = other.rangeG
  offsetX : device.offsetX = other.offsetX
  offsetY : device.offsetY = other.offsetY
  offsetZ : device.offsetZ = other.offsetZ

/-- The watermark that a load leaves. -/
def sanitisedWatermark (value : UInt8) : UInt8 :=
  let watermark := if value < 3 then 3 else value
  let watermark := if watermark > 96 then 96 else watermark
  let watermark := watermark - watermark % 3
  if watermark < 3 then 3 else watermark

theorem sanitisedWatermark_valid (value : UInt8) : 3 ≤ sanitisedWatermark value ∧
    sanitisedWatermark value ≤ 96 ∧ sanitisedWatermark value % 3 = 0 := by
  have every : ∀ value : Fin 256, 3 ≤ sanitisedWatermark (UInt8.ofFin value) ∧
      sanitisedWatermark (UInt8.ofFin value) ≤ 96 ∧
        sanitisedWatermark (UInt8.ofFin value) % 3 = 0 := by decide +kernel
  exact every value.toFin

theorem sanitised_sanitizeDeviceConfig (device : DeviceConfig) :
    Sanitised (sanitizeDeviceConfig device) where
  corner := by
    have same : (sanitizeDeviceConfig device).highPassCorner =
        if device.highPassCorner > 7 then 0 else device.highPassCorner := by
      simp only [sanitizeDeviceConfig, apply_ite DeviceConfig.highPassCorner, ite_self]
    rw [same]
    split
    · decide
    · exact UInt8.not_lt.mp ‹_›
  profile := by
    have same : (sanitizeDeviceConfig device).filterProfile =
        if device.filterProfile > 2 then 1 else device.filterProfile := by
      simp only [sanitizeDeviceConfig, apply_ite DeviceConfig.filterProfile, ite_self]
    rw [same]
    split
    · decide
    · exact UInt8.not_lt.mp ‹_›
  watermark := by
    have same : (sanitizeDeviceConfig device).fifoWatermark =
        sanitisedWatermark device.fifoWatermark := by
      simp only [sanitizeDeviceConfig, apply_ite DeviceConfig.fifoWatermark, ite_self]
      rfl
    rw [same]
    exact sanitisedWatermark_valid _

theorem unsanitised_sanitizeDeviceConfig (device : DeviceConfig) :
    Unsanitised (sanitizeDeviceConfig device) device := by
  unfold sanitizeDeviceConfig
  dsimp only
  split_ifs <;> exact ⟨rfl, rfl, rfl, rfl, rfl⟩

theorem Reportable.of_device {config other : PersistentConfig} (reportable : Reportable config)
    (revision : other.generation ≠ 0) (device : Unsanitised other.device config.device) :
    Reportable other where
  revision := revision
  rate := device.rate ▸ reportable.rate
  range := device.range ▸ reportable.range
  offsetX := device.offsetX ▸ reportable.offsetX
  offsetY := device.offsetY ▸ reportable.offsetY
  offsetZ := device.offsetZ ▸ reportable.offsetZ

/-- A result that carries a configuration. -/
structure Reflects (config : PersistentConfig) (result : ConfigurationResult) : Prop where
  revision : result.revision = config.generation
  configuration : result.configuration = runtimeConfigurationFromDevice config.device
  register : result.sensorOdrRegister =
    ((outputRateToSensor (outputRateCode config.device.odrHz)).map Prod.snd).getD 0xFF
  decimation : result.decimationFactor = 2

/-- What the manager keeps of a configuration that can be reported. -/
structure Held (config : PersistentConfig) : Prop where
  reportable : Reportable config
  sanitised : Sanitised config.device

namespace Core0

variable {δ : Type} {sizes : Core0Sizes} {sensor : Accelerometer δ} {core after : Core0 δ sizes}
  {passes : Nat}

theorem reflects_configurationResult (core : Core0 δ sizes) (operationId : UInt32)
    (code : ConfigOperationCode) :
    Reflects core.config (core.configurationResult operationId code) :=
  ⟨rfl, rfl, rfl, rfl⟩

theorem config_serviceIngressHealth (core : Core0 δ sizes) :
    core.serviceIngressHealth.config = core.config := by
  rw [serviceIngressHealth]
  split
  · rfl
  · rfl

theorem config_progressStop (core : Core0 δ sizes) : core.progressStop.config = core.config := by
  rw [progressStop]
  split
  · rfl
  dsimp only
  split
  · rfl
  · rfl

theorem config_start (core : Core0 δ sizes) (operationId : UInt32) :
    (core.start sensor operationId).2.config = core.config := by
  rw [start]
  split
  · rfl
  · rfl
  · rfl
  · rfl
  · split
    · rfl
    dsimp only
    split
    · rfl
    · rfl

variable {operationId : UInt32} {result : ConfigurationResult}

theorem config_stop {result : SensorRuntimeResult}
    (stopped : core.stop sensor operationId passes = some (result, after)) :
    after.config = core.config := by
  rw [stop] at stopped
  split at stopped
  · obtain ⟨-, rfl⟩ := Prod.mk.inj (Option.some.inj stopped)
    rfl
  · obtain ⟨-, rfl⟩ := Prod.mk.inj (Option.some.inj stopped)
    rfl
  · obtain ⟨-, rfl⟩ := Prod.mk.inj (Option.some.inj stopped)
    rfl
  · obtain ⟨-, rfl⟩ := Prod.mk.inj (Option.some.inj stopped)
    exact config_progressStop core
  · obtain ⟨⟨status, engine⟩, finished, rest⟩ := bind_eq_some_iff.mp stopped
    dsimp only at rest
    split at rest
    · obtain ⟨-, rfl⟩ := Prod.mk.inj (Option.some.inj rest)
      rfl
    · obtain ⟨-, rfl⟩ := Prod.mk.inj (Option.some.inj rest)
      exact config_progressStop _

theorem config_handle {command : SensorRuntimeCommand} {result : SensorRuntimeResult}
    (handled : core.handle sensor command passes = some (result, after)) :
    after.config = core.config := by
  rw [handle] at handled
  split at handled
  · obtain ⟨-, rfl⟩ := Prod.mk.inj (Option.some.inj handled)
    rfl
  · obtain rfl : (core.start sensor command.operationId).2 = after :=
      congrArg Prod.snd (Option.some.inj handled)
    exact config_start core _
  · exact config_stop handled
  · obtain rfl : (core.enterMaintenance command.operationId).2 = after :=
      congrArg Prod.snd (Option.some.inj handled)
    rw [enterMaintenance]
    split <;> rfl
  · obtain rfl : (core.exitMaintenance command.operationId).2 = after :=
      congrArg Prod.snd (Option.some.inj handled)
    rw [exitMaintenance]
    split <;> rfl
  · obtain rfl : (core.setObservabilityProfile command.operationId command.requestedProfile).2 =
        after := congrArg Prod.snd (Option.some.inj handled)
    rw [setObservabilityProfile]
    split <;> rfl

theorem config_poll (polled : core.poll sensor passes = some after) :
    after.config = core.config := by
  rw [poll] at polled
  split at polled
  · cases polled
    exact (config_progressStop _).trans (config_serviceIngressHealth core)
  split at polled
  · cases polled
    exact config_serviceIngressHealth core
  · obtain ⟨engine, updated, ended⟩ := bind_eq_some_iff.mp polled
    cases ended
    exact (config_serviceIngressHealth _).trans (config_serviceIngressHealth core)

/-- Nothing but a configuration command changes the configuration. -/
theorem config_step {event : Core0Step δ} (moves : core.step sensor event = some after)
    (other : ∀ command saves passes rounds,
      event ≠ .call (.configure command saves) passes rounds) :
    after.config = core.config := by
  cases event with
  | consume count =>
    cases moves
    rfl
  | sense device =>
    cases moves
    rfl
  | call call passes rounds =>
    cases call with
    | command command =>
      obtain ⟨⟨result, after⟩, handled, rfl⟩ := map_eq_some_iff.mp moves
      have kept : after.config = (core.withRounds rounds).config := config_handle handled
      exact kept
    | configure command saves => exact absurd rfl (other command saves passes rounds)
    | poll =>
      have kept : after.config = (core.withRounds rounds).config := config_poll moves
      exact kept
    | fail status =>
      cases moves
      rw [fail]
      split <;> rfl

variable {register : UInt8} {previous : DeviceConfig}

theorem outputRateToSensor_rate {code : UInt8} {odrHz : UInt16}
    (known : outputRateToSensor code = some (odrHz, register)) : odrHz ∈ sensorRates := by
  rw [outputRateToSensor] at known
  split at known
  all_goals
    cases known
  all_goals decide

theorem carriedOffset_toInt32 (value : Int16) : CarriedOffset value.toInt32 := by
  rw [CarriedOffset, Int16.toInt_toInt32]
  exact ⟨value.le_toInt, value.toInt_lt⟩

theorem held_replaceDeviceConfig {device : DeviceConfig}
    (held : Reportable { core.config with device }) :
    Held (core.replaceDeviceConfig device).config :=
  ⟨held.of_device held.revision (unsanitised_sanitizeDeviceConfig device),
    sanitised_sanitizeDeviceConfig device⟩

/-- A checked configuration can be reported. -/
theorem reportable_next {config : PersistentConfig} {requested : MeasurementConfiguration}
    {odrHz : UInt16} (revision : config.generation ≠ 0)
    (valid : validRuntimeConfiguration requested = true)
    (known : outputRateToSensor requested.outputRate = some (odrHz, register)) :
    Reportable { config with device := nextDeviceConfig config.device requested odrHz } := by
  simp only [validRuntimeConfiguration, Bool.and_eq_true, Bool.or_eq_true, decide_eq_true_eq]
    at valid
  exact ⟨revision, outputRateToSensor_rate known, by tauto, carriedOffset_toInt32 _,
    carriedOffset_toInt32 _, carriedOffset_toInt32 _⟩

theorem config_reload {config : DeviceConfig} {status : SensorStatus}
    (reloaded : core.reload sensor config passes = some (status, after)) :
    after.config = core.config := by
  obtain ⟨⟨status', engine⟩, engineReloads, delivered⟩ := bind_eq_some_iff.mp reloaded
  obtain ⟨-, rfl⟩ := Prod.mk.inj (Option.some.inj delivered)
  rfl

theorem rollBack_reflects {code : ConfigOperationCode}
    (rolled : core.rollBack sensor operationId code previous passes = some (result, after)) :
    Reflects after.config result ∧ after.config = core.config := by
  obtain ⟨⟨status, middle⟩, reloaded, ended⟩ := bind_eq_some_iff.mp rolled
  cases ended
  exact ⟨reflects_configurationResult _ _ _, config_reload reloaded⟩

theorem held_saved {current saved : PersistentConfig} (held : Held current)
    (next : ConfigManager.next current = some saved) : Held saved := by
  have later := (generation_next next).2
  have positive : saved.generation ≠ 0 := by
    intro zero
    rw [zero] at later
    exact absurd later (UInt32.not_lt.mpr (UInt32.zero_le))
  rw [ConfigManager.next] at next
  split at next
  · exact nomatch next
  · cases next
    exact ⟨held.reportable.of_device positive ⟨rfl, rfl, rfl, rfl, rfl⟩, held.sanitised⟩

theorem commit_reflects {next : DeviceConfig} {saves : Bool}
    (committed : core.commit sensor operationId previous next saves passes = some (result, after)) :
    Reflects after.config result ∧
      (Reportable { core.config with device := previous } →
        Reportable { core.config with device := next } → Held after.config) := by
  rw [commit] at committed
  split at committed
  · obtain ⟨reflects, config⟩ := rollBack_reflects committed
    refine ⟨reflects, fun before _ => ?_⟩
    have again : Reportable { (core.replaceDeviceConfig next).config with device := previous } :=
      before.of_device before.revision ⟨rfl, rfl, rfl, rfl, rfl⟩
    exact config ▸ held_replaceDeviceConfig again
  rename_i saved stored
  cases committed
  obtain ⟨found, -⟩ := filter_eq_some_iff.mp stored
  exact ⟨reflects_configurationResult _ _ _,
    fun _ renewed => held_saved (held_replaceDeviceConfig renewed) found⟩

/-- Every result carries the configuration behind it. -/
theorem configure_reflects {command : ConfigurationCommand} {saves : Bool}
    (configured : core.configure sensor command saves passes = some (result, after)) :
    Reflects after.config result ∧ (Held core.config → Held after.config) := by
  have unchanged {code : ConfigOperationCode}
      (same : some (core.configurationResult command.operationId code, core) =
        some (result, after)) :
      Reflects after.config result ∧ (Held core.config → Held after.config) := by
    cases same
    exact ⟨reflects_configurationResult _ _ _, id⟩
  rw [configure] at configured
  dsimp only at configured
  split at configured
  · exact unchanged configured
  split at configured
  · exact unchanged configured
  split at configured
  · exact unchanged configured
  rename_i valid
  split at configured
  · exact unchanged configured
  rename_i odrHz register known
  obtain ⟨⟨status, middle⟩, reloaded, ended⟩ := bind_eq_some_iff.mp configured
  have config := config_reload reloaded
  split at ended
  · obtain ⟨reflects, same⟩ := rollBack_reflects ended
    exact ⟨reflects, fun held => (same.trans config) ▸ held⟩
  obtain ⟨reflects, kept⟩ := commit_reflects ended
  rw [config] at kept
  refine ⟨reflects, fun held => kept held.reportable ?_⟩
  exact reportable_next held.reportable.revision (by simpa using valid) known

end Core0

/-- A command is nowhere, on its way to core 0, or back with its result. -/
inductive Tracks (config : PersistentConfig) :
    Option ConfigurationCommand → ConfigurationMailbox → ConfigurationResult → Prop where
  | settled {observed : ConfigurationResult} (reflects : Reflects config observed) :
      Tracks config none ⟨[], []⟩ observed
  | sent {command : ConfigurationCommand} {observed : ConfigurationResult}
      (reflects : Reflects config observed) : Tracks config (some command) ⟨[command], []⟩ observed
  | done {command : ConfigurationCommand} {observed result : ConfigurationResult}
      (own : result.operationId = command.operationId) (reflects : Reflects config result) :
      Tracks config (some command) ⟨[], [result]⟩ observed

namespace ConfigurationService

variable {service : ConfigurationService} {config : PersistentConfig}

/-- A poll of a service that tracks has nothing left to see. -/
theorem pollResult_tracks (working : service.faulted = false)
    (tracks : Tracks config service.active service.mailbox service.observed) :
    service.pollResult.faulted = false ∧
      Tracks config service.pollResult.active service.pollResult.mailbox
        service.pollResult.observed ∧
      Reflects config service.pollResult.observed := by
  obtain ⟨observed, active, cache, nextCache, faulted, mailbox⟩ := service
  cases tracks with
  | settled reflects => exact ⟨working, .settled reflects, reflects⟩
  | sent reflects => exact ⟨working, .sent reflects, reflects⟩
  | done own reflects =>
    simp only [pollResult, own, ne_eq, not_true_eq_false, if_false]
    exact ⟨working, .settled reflects, reflects⟩

/-- A service that has sent a command. -/
def sending (service : ConfigurationService) (command : ConfigurationCommand) :
    ConfigurationService :=
  { service with
    mailbox := { service.mailbox with commands := service.mailbox.commands ++ [command] }
    active := some command }

/-- An answer leaves the service, or sends a command when none is under way. -/
def Answered (service after : ConfigurationService) : Prop :=
  after = service ∨ ∃ command, service.active = none ∧ after = service.sending command

theorem submit_answered (service : ConfigurationService) (command : ConfigurationCommand)
    (output : List UInt8) : service.Answered (service.submit command output).2 := by
  rw [submit]
  split
  · split
    · exact .inl rfl
    · exact .inl rfl
  split
  · split
    · exact .inl rfl
    split
    · exact .inl rfl
    · exact .inl rfl
  rename_i idle
  split
  · exact .inl rfl
  rename_i mailbox found
  rw [ConfigurationMailbox.trySendCommand] at found
  split at found
  · obtain ⟨-, rfl⟩ := Prod.mk.inj found
    exact .inr ⟨command, idle, rfl⟩
  · exact nomatch (Prod.mk.inj found).1

theorem answer_answered (service : ConfigurationService) (message : UInt8)
    (request output : List UInt8) : service.Answered (service.answer message request output).2 := by
  rw [answer]
  split
  · exact .inl rfl
  split
  · split
    · exact .inl rfl
    · exact .inl rfl
  split
  · split
    · split
      · exact .inl rfl
      · exact .inl rfl
    · exact .inl rfl
  split
  · exact .inl rfl
  split
  · split
    · exact submit_answered _ _ _
    · exact .inl rfl
  split
  · exact submit_answered _ _ _
  · exact .inl rfl

theorem handle_tracks (working : service.faulted = false)
    (tracks : Tracks config service.active service.mailbox service.observed) (message : UInt8)
    (request output : List UInt8) : (service.handle message request output).2.faulted = false ∧
      Tracks config (service.handle message request output).2.active
        (service.handle message request output).2.mailbox
        (service.handle message request output).2.observed := by
  obtain ⟨working, tracks, reflects⟩ := pollResult_tracks working tracks
  rw [handle]
  rcases answer_answered service.pollResult message request output with
    same | ⟨command, idle, same⟩
  · rw [same]
    exact ⟨working, tracks⟩
  rw [same]
  refine ⟨working, ?_⟩
  generalize service.pollResult = polled at tracks idle reflects
  obtain ⟨observed, active, cache, nextCache, faulted, mailbox⟩ := polled
  cases tracks with
  | settled => exact .sent reflects
  | sent => exact nomatch idle
  | done => exact nomatch idle

end ConfigurationService

namespace ConfigurationNode

variable {δ : Type} {sizes : Core0Sizes} {sensor : Accelerometer δ}
  {node after : ConfigurationNode δ sizes}

/-- The service will see what core 0 holds. -/
structure Tracked (node : ConfigurationNode δ sizes) : Prop where
  working : node.service.faulted = false
  published : node.pendingResult = none
  tracks : Tracks node.core.config node.service.active node.service.mailbox node.service.observed

theorem start_tracked (engine : AcquisitionEngine δ) (config : PersistentConfig) :
    (start engine config : ConfigurationNode δ sizes).Tracked :=
  ⟨rfl, rfl, .settled (Core0.reflects_configurationResult _ _ _)⟩

variable (tracked : node.Tracked)

include tracked

/-- A poll of the executor brings the result of a command back. -/
theorem execute_tracked {saves : Bool} {passes : Nat} {rounds : List Nat}
    (executed : node.execute sensor saves passes rounds = some after) :
    after.Tracked ∧ (Held node.core.config → Held after.core.config) := by
  obtain ⟨working, published, tracks⟩ := tracked
  obtain ⟨core, pendingResult, ⟨observed, active, cache, nextCache, faulted, mailbox⟩⟩ := node
  obtain rfl : pendingResult = none := published
  rw [execute] at executed
  cases tracks with
  | settled reflects =>
    cases executed
    exact ⟨⟨working, rfl, .settled reflects⟩, id⟩
  | done own reflects =>
    cases executed
    exact ⟨⟨working, rfl, .done own reflects⟩, id⟩
  | @sent command _ reflects =>
    obtain ⟨⟨result, core'⟩, configured, rest⟩ := bind_eq_some_iff.mp executed
    cases rest
    obtain ⟨reflects, kept⟩ := Core0.configure_reflects configured
    exact ⟨⟨working, rfl, .done rfl ⟨reflects.revision, reflects.configuration,
      reflects.register, reflects.decimation⟩⟩, kept⟩

theorem step_tracked {event : ConfigurationStep δ} (moves : node.step sensor event = some after) :
    after.Tracked ∧ (Held node.core.config → Held after.core.config) := by
  cases event with
  | request message request output =>
    cases moves
    obtain ⟨working, tracks⟩ := ConfigurationService.handle_tracks tracked.working tracked.tracks
      message request output
    exact ⟨⟨working, tracked.published, tracks⟩, id⟩
  | execute saves passes rounds => exact execute_tracked tracked moves
  | core0 event =>
    have other (apart : ∀ command saves passes rounds,
        event ≠ .call (.configure command saves) passes rounds)
        (moves : (node.core.step sensor event).map (fun core => { node with core }) = some after) :
        after.Tracked ∧ (Held node.core.config → Held after.core.config) := by
      obtain ⟨core, stepped, rfl⟩ := map_eq_some_iff.mp moves
      have kept := Core0.config_step stepped apart
      exact ⟨⟨tracked.working, tracked.published, kept.symm ▸ tracked.tracks⟩,
        fun held => kept.symm ▸ held⟩
    cases event with
    | consume count => exact other nofun moves
    | sense device => exact other nofun moves
    | call call passes rounds =>
      cases call with
      | configure command saves => exact nomatch moves
      | command command => exact other nofun moves
      | poll => exact other nofun moves
      | fail status => exact other nofun moves

/-- Along every run the service tracks core 0. -/
theorem runSteps_tracked {events : List (ConfigurationStep δ)}
    (runs : runSteps (ConfigurationNode.step sensor) node events = some after) :
    after.Tracked ∧ (Held node.core.config → Held after.core.config) := by
  induction events generalizing node with
  | nil =>
    cases runs
    exact ⟨tracked, id⟩
  | cons event events ih =>
    obtain ⟨next, moves, rest⟩ := runSteps_cons runs
    obtain ⟨tracked, kept⟩ := step_tracked tracked moves
    obtain ⟨reached, later⟩ := ih tracked rest
    exact ⟨reached, later ∘ kept⟩

omit tracked

end ConfigurationNode
end SensorSystem.Node
