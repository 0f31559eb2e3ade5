import SensorSystem.Base.BlockingRuns
import SensorSystem.Node.Runtime.IngressSink

/-! Runs of core 0: lifecycle and configuration commands, polls, and in between whatever the
sensor and core 1 do. Cursors are for a session: they are taken while the runtime records or
inside the command that stops it, and a stop settles when everything has left the ingress. A
reload of the sensor's configuration is outside, and breaks this when its forced service finds
something. -/

namespace SensorSystem.Node

open List Option Base
open Acquisition
open Node.Config (DeviceConfig ConfigManager.next)
open Node.Wire (SensorStatus SensorRuntimeState SensorRuntimeCommand
  SensorRuntimeOperation)

inductive Core0Call where
  | command (command : SensorRuntimeCommand)
  | configure (command : ConfigurationCommand) (saves : Bool)
  | poll
  | fail (status : SensorStatus)

/-- A call with the rounds of core 1 during it, or something between two calls. -/
inductive Core0Step (δ : Type) where
  | call (call : Core0Call) (passes : Nat) (rounds : List Nat)
  | consume (count : Nat)
  | sense (device : δ)

namespace Core0

variable {δ : Type} {sizes : Core0Sizes} (sensor : Accelerometer δ)

def perform (core : Core0 δ sizes) (passes : Nat) : Core0Call → Option (Core0 δ sizes)
  | .command command => (core.handle sensor command passes).map Prod.snd
  | .configure command saves => (core.configure sensor command saves passes).map Prod.snd
  | .poll => core.poll sensor passes
  | .fail status => some (core.fail status)

/-- What core 1 does during a call. -/
def withRounds (core : Core0 δ sizes) (rounds : List Nat) : Core0 δ sizes :=
  { core with port := { core.port with rounds } }

def step (core : Core0 δ sizes) : Core0Step δ → Option (Core0 δ sizes)
  | .call call passes rounds => (core.withRounds rounds).perform sensor passes call
  | .consume count => some { core with port := core.port.consume count }
  | .sense device => some { core with engine := { core.engine with device } }

/-- Core 0 when its runtimes start. -/
def boot (engine : AcquisitionEngine δ) (config : Config.PersistentConfig) : Core0 δ sizes where
  engine := { engine with nextSampleSeq := 0, handed := [] }.pause
  sink := .initial config.generation
  config := config

/-- The next cursor of the stream. -/
def cursor (core : Core0 δ sizes) : Nat := core.sink.cursor

/-- Every event has left the ingress. -/
def Drained (core : Core0 δ sizes) : Prop :=
  core.sink.ingress.pending = [] ∧ core.port.queue = []

/-- No cursor is taken, and a drained ingress stays drained. -/
structure Quiet (before after : Core0 δ sizes) : Prop where
  handed : after.engine.handed = before.engine.handed
  cursor : after.cursor = before.cursor
  journal : before.Drained → after.Drained ∧ after.port.journal = before.port.journal

variable {sensor} {first before core after : Core0 δ sizes} {passes : Nat}

theorem Quiet.of_eq (handed : after.engine.handed = before.engine.handed)
    (sink : after.sink = before.sink) (port : after.port = before.port) : before.Quiet after := by
  refine ⟨handed, congrArg MeasurementIngressSink.cursor sink, fun drained => ?_⟩
  rw [Drained, sink, port]
  exact ⟨drained, rfl⟩

variable (core)

theorem Quiet.refl : core.Quiet core := .of_eq rfl rfl rfl

theorem Quiet.trans (one : first.Quiet before) (two : before.Quiet after) : first.Quiet after := by
  refine ⟨two.handed.trans one.handed, two.cursor.trans one.cursor, fun drained => ?_⟩
  obtain ⟨drained, same⟩ := one.journal drained
  obtain ⟨drained, same'⟩ := two.journal drained
  exact ⟨drained, same'.trans same⟩

theorem enterFault_quiet (status : SensorStatus) :
    core.Quiet (core.enterFault status) := .of_eq rfl rfl rfl

theorem flush_quiet : core.Quiet core.flush := by
  refine ⟨rfl, core.sink.flushPending_cursor sizes.queue core.port, fun drained => ?_⟩
  obtain ⟨ingress, port⟩ := core.sink.flushPending_empty sizes.queue drained.1 core.port
  rw [Drained, flush]
  dsimp only
  rw [ingress, port]
  exact ⟨drained, rfl⟩

theorem serviceIngressHealth_quiet :
    core.Quiet core.serviceIngressHealth := by
  rw [serviceIngressHealth]
  split
  · exact (flush_quiet core).trans (enterFault_quiet _ _)
  · exact flush_quiet core

theorem serviceIngressHealth_state :
    core.serviceIngressHealth.state = core.state ∨ core.serviceIngressHealth.state = .faulted := by
  rw [serviceIngressHealth]
  split
  · exact .inr rfl
  · exact .inl rfl

theorem interleave_empty {port : IngressPort} (empty : port.queue = []) :
    port.interleave.queue = [] ∧ port.interleave.journal = port.journal := by
  simp [IngressPort.interleave, IngressPort.consume, empty]

/-- A stop that goes on publishes nothing. -/
theorem progressStop_quiet : core.Quiet core.progressStop ∧
    (core.state = .stopping → core.progressStop.state ≠ .recording ∧
      (core.progressStop.state = .idle → core.progressStop.Drained)) := by
  by_cases stopping : core.state = .stopping
  · rw [progressStop, if_neg (not_not.mpr stopping)]
    dsimp only
    split
    · exact ⟨(flush_quiet core).trans (enterFault_quiet _ _), fun _ => ⟨nofun, nofun⟩⟩
    refine ⟨(flush_quiet core).trans ⟨rfl, rfl, fun drained => ?_⟩, fun _ => ⟨?_, ?_⟩⟩
    · have interleaved := interleave_empty drained.2
      exact ⟨⟨drained.1, interleaved.1⟩, interleaved.2⟩
    · split <;> exact nofun
    split
    · rename_i settled
      intro _
      simp only [MeasurementIngressSink.settled, IngressPort.queueSizeApprox, Bool.and_eq_true,
        List.isEmpty_iff, decide_eq_true_eq, length_eq_zero_iff] at settled
      exact ⟨settled.1.2, settled.2⟩
    · exact nofun
  · rw [progressStop, if_pos stopping]
    exact ⟨.refl core, fun held => absurd held stopping⟩

theorem start_quiet (operationId : UInt32) :
    core.Quiet (core.start sensor operationId).2 := by
  have prepared : core.engine.Same (core.engine.prepareForRuntime sensor).2 :=
    core.engine.prepareForRuntime_same
  rw [start]
  split
  · exact .refl core
  · exact .refl core
  · exact .refl core
  · exact .refl core
  · split
    · exact enterFault_quiet core _
    dsimp only
    split
    · exact .of_eq prepared.1 rfl rfl
    · exact .of_eq prepared.1 rfl rfl

/-- Only an accepted start begins to record. -/
theorem start_state (operationId : UInt32)
    (apart : core.state ≠ .recording) :
    (core.start sensor operationId).2.state = .recording → core.state = .idle := by
  rw [start]
  split
  · rename_i faulted
    exact fun recording => nomatch faulted.symm.trans recording
  · rename_i recording
    exact absurd recording apart
  · rename_i stopping
    exact fun recording => nomatch stopping.symm.trans recording
  · rename_i maintenance
    exact fun recording => nomatch maintenance.symm.trans recording
  · rename_i idle
    exact fun _ => idle

variable {core}

variable {operationId : UInt32} {result : Wire.SensorRuntimeResult}
  (stopped : core.stop sensor operationId passes = some (result, after))

include stopped

/-- A stop outside a recording publishes nothing. -/
theorem stop_quiet (apart : core.state ≠ .recording) : core.Quiet after ∧ after.state ≠ .recording ∧
      (core.state = .stopping → after.state = .idle → after.Drained) := by
  rw [stop] at stopped
  split at stopped
  · rename_i faulted
    obtain ⟨-, rfl⟩ := Prod.mk.inj (some.inj stopped)
    exact ⟨.refl core, apart, fun stopping => nomatch faulted.symm.trans stopping⟩
  · rename_i idle
    obtain ⟨-, rfl⟩ := Prod.mk.inj (some.inj stopped)
    exact ⟨.refl core, apart, fun stopping => nomatch idle.symm.trans stopping⟩
  · rename_i maintenance
    obtain ⟨-, rfl⟩ := Prod.mk.inj (some.inj stopped)
    exact ⟨.refl core, apart, fun stopping => nomatch maintenance.symm.trans stopping⟩
  · rename_i stopping
    obtain ⟨-, rfl⟩ := Prod.mk.inj (some.inj stopped)
    obtain ⟨quiet, settles⟩ := progressStop_quiet core
    exact ⟨quiet, (settles stopping).1, fun _ => (settles stopping).2⟩
  · rename_i recording
    exact absurd recording apart

/-- The stop of a recording ends it. -/
theorem stop_ends (recording : core.state = .recording) : after.engine.handed = [] ∧
      after.state ≠ .recording ∧ (after.state = .idle → after.Drained) := by
  rw [stop, recording] at stopped
  obtain ⟨⟨status, engine⟩, -, ended⟩ := bind_eq_some_iff.mp stopped
  dsimp only at ended
  split at ended
  · obtain ⟨-, rfl⟩ := Prod.mk.inj (some.inj ended)
    exact ⟨rfl, nofun, nofun⟩
  obtain ⟨-, rfl⟩ := Prod.mk.inj (some.inj ended)
  have progress := progressStop_quiet
    { ({ core with engine } : Core0 δ sizes).deliver with
      lastSensorStatus := status, state := .stopping }
  exact ⟨progress.1.handed.trans rfl, progress.2 rfl⟩

omit stopped

theorem enterMaintenance_quiet (core : Core0 δ sizes) (operationId : UInt32) :
    core.Quiet (core.enterMaintenance operationId).2 ∧
      ((core.enterMaintenance operationId).2.state = core.state ∨
        (core.enterMaintenance operationId).2.state = .maintenance) := by
  rw [enterMaintenance]
  split
  · exact ⟨.refl core, .inl rfl⟩
  · exact ⟨.refl core, .inl rfl⟩
  · exact ⟨.refl core, .inl rfl⟩
  · exact ⟨.refl core, .inl rfl⟩
  · exact ⟨.of_eq rfl rfl rfl, .inr rfl⟩

theorem exitMaintenance_quiet (core : Core0 δ sizes) (operationId : UInt32) :
    core.Quiet (core.exitMaintenance operationId).2 ∧
      ((core.exitMaintenance operationId).2.state = core.state ∨
        core.state = .maintenance ∧ (core.exitMaintenance operationId).2.state = .idle) := by
  rw [exitMaintenance]
  split
  · exact ⟨.refl core, .inl rfl⟩
  · exact ⟨.refl core, .inl rfl⟩
  · exact ⟨.refl core, .inl rfl⟩
  · exact ⟨.refl core, .inl rfl⟩
  · rename_i maintenance
    exact ⟨.of_eq rfl rfl rfl, .inr ⟨maintenance, rfl⟩⟩

theorem setObservabilityProfile_quiet (core : Core0 δ sizes) (operationId : UInt32)
    (profile : Wire.ObservabilityProfile) :
    core.Quiet (core.setObservabilityProfile operationId profile).2 ∧
      (core.setObservabilityProfile operationId profile).2.state = core.state := by
  rw [setObservabilityProfile]
  split
  · exact ⟨.refl core, rfl⟩
  · exact ⟨.of_eq rfl rfl rfl, rfl⟩

/-- The FIFO gives nothing to publish, or the sink takes no events. -/
def ReloadQuiet (sensor : Accelerometer δ) (core : Core0 δ sizes) (passes : Nat) : Prop :=
  core.sink.Closed ∨ core.engine.ReloadFindsNothing sensor passes

/-- A reload passes on what its service hands over. -/
theorem reload_receives {config : DeviceConfig} {status : SensorStatus}
    (reloaded : core.reload sensor config passes = some (status, after))
    (settled : core.engine.handed = []) : ∃ calls, (∀ call ∈ calls, call.Proper) ∧
      (core.ReloadQuiet sensor passes ↔ core.sink.Closed ∨ calls = []) ∧
      after.engine.handed = [] ∧ after.state = core.state ∧
      (after.sink, after.port) = core.sink.receive sizes.queue core.port calls := by
  obtain ⟨⟨status', engine⟩, engineReloads, delivered⟩ := bind_eq_some_iff.mp reloaded
  obtain ⟨-, rfl⟩ := Prod.mk.inj (Option.some.inj delivered)
  obtain ⟨calls, handed, proper, -⟩ := AcquisitionEngine.reloadRuntimeConfig_hands engineReloads
  have nothing := AcquisitionEngine.reload_nothing engineReloads
  rw [settled, nil_append] at handed
  refine ⟨calls, proper, ?_, rfl, rfl, ?_⟩
  · rw [ReloadQuiet, ← nothing, settled, handed]
  · rw [deliver]
    rw [← handed]

section Reload

variable {config : DeviceConfig} {status : SensorStatus}
  (reloaded : core.reload sensor config passes = some (status, after))
  (settled : core.engine.handed = [])
include reloaded settled

theorem reload_mono : core.cursor ≤ after.cursor := by
  obtain ⟨calls, proper, -, -, -, received⟩ := reload_receives reloaded settled
  have grows := core.sink.receive_mono sizes.queue core.port proper
  rwa [← received] at grows

theorem reload_quiet (quiet : core.ReloadQuiet sensor passes) :
    core.Quiet after ∧ after.state = core.state := by
  obtain ⟨calls, proper, nothing, handed, state, received⟩ := reload_receives reloaded settled
  have same : (core.sink.receive sizes.queue core.port calls).1.ingress = core.sink.ingress ∧
      (core.sink.receive sizes.queue core.port calls).2 = core.port := by
    rcases nothing.mp quiet with closed | rfl
    · exact MeasurementIngressSink.receive_closed sizes.queue closed core.port proper
    · exact ⟨rfl, rfl⟩
  rw [← received] at same
  obtain ⟨ingress, port⟩ : after.sink.ingress = core.sink.ingress ∧ after.port = core.port := same
  refine ⟨⟨handed.trans settled.symm, ?_, fun drained => ?_⟩, state⟩
  · exact congrArg (·.sequencer.next) ingress
  · rw [Drained]
    rw [ingress, port]
    exact ⟨drained, rfl⟩

theorem reload_loud (loud : ¬ core.ReloadQuiet sensor passes) :
    core.cursor < after.cursor := by
  obtain ⟨calls, proper, nothing, -, -, received⟩ := reload_receives reloaded settled
  obtain ⟨takes, found⟩ := not_or.mp (nothing.not.mp loud)
  obtain ⟨call, rest, rfl⟩ := exists_cons_of_ne_nil found
  have grows : core.sink.cursor < (core.sink.receive sizes.queue core.port _).1.cursor :=
    MeasurementIngressSink.receive_takes sizes.queue takes proper
  rwa [← received] at grows

end Reload

/-- The rate of a command that reaches the sensor. -/
def acceptedRate (core : Core0 δ sizes) (command : ConfigurationCommand) : Option UInt16 :=
  if core.state ≠ .maintenance ∧ core.state ≠ .faulted then none
  else if command.expectedRevision ≠ core.config.generation then none
  else if !validRuntimeConfiguration (requested command) then none
  else (outputRateToSensor (requested command).outputRate).map Prod.fst

/-- The reloads of a command, of the new configuration and of the rollback, each with its state. -/
def reloads (sensor : Accelerometer δ) (core : Core0 δ sizes) (command : ConfigurationCommand)
    (saves : Bool) (passes : Nat) : List (Core0 δ sizes × DeviceConfig) :=
  match core.acceptedRate command with
  | none => []
  | some odrHz =>
    let previous := core.config.device
    let next := nextDeviceConfig previous (requested command) odrHz
    (core, next) :: match core.reload sensor next passes with
      | none => []
      | some (status, core) =>
        if status ≠ .ok then [(core, previous)]
        else match (ConfigManager.next (core.replaceDeviceConfig next).config).filter
            fun _ => saves with
          | none => [((core.replaceDeviceConfig next).replaceDeviceConfig previous, previous)]
          | some _ => []

/-- States that differ in the configuration and its revision only. -/
structure Alike (before after : Core0 δ sizes) : Prop where
  engine : after.engine = before.engine
  ingress : after.sink.ingress = before.sink.ingress
  port : after.port = before.port
  state : after.state = before.state

theorem Alike.refl (core : Core0 δ sizes) : core.Alike core := ⟨rfl, rfl, rfl, rfl⟩

theorem Alike.quiet (alike : before.Alike after) : before.Quiet after := by
  refine ⟨congrArg _ alike.engine, congrArg (·.sequencer.next) alike.ingress, fun drained => ?_⟩
  rw [Drained, alike.ingress, alike.port]
  exact ⟨drained, rfl⟩

/-- A sequence of reloads that ends in a state. -/
inductive ReloadPath (sensor : Accelerometer δ) (passes : Nat) :
    Core0 δ sizes → List (Core0 δ sizes × DeviceConfig) → Core0 δ sizes → Prop where
  | done {origin last : Core0 δ sizes} (alike : origin.Alike last) :
      ReloadPath sensor passes origin [] last
  | reload {origin start middle last : Core0 δ sizes} {config : DeviceConfig}
      {status : SensorStatus} {rest : List (Core0 δ sizes × DeviceConfig)}
      (alike : origin.Alike start)
      (reloaded : start.reload sensor config passes = some (status, middle))
      (path : ReloadPath sensor passes middle rest last) :
      ReloadPath sensor passes origin ((start, config) :: rest) last

theorem rollBack_path {start : Core0 δ sizes} {code : Wire.ConfigOperationCode}
    {previous : DeviceConfig} {result : ConfigurationResult} (alike : before.Alike start)
    (rolled : start.rollBack sensor operationId code previous passes = some (result, after)) :
    ReloadPath sensor passes before [(start, previous)] after := by
  obtain ⟨⟨status, middle⟩, reloaded, ended⟩ := bind_eq_some_iff.mp rolled
  obtain ⟨-, rfl⟩ := Prod.mk.inj (Option.some.inj ended)
  exact .reload alike reloaded (.done (.refl _))

theorem configure_path {command : ConfigurationCommand} {saves : Bool}
    {result : ConfigurationResult}
    (configured : core.configure sensor command saves passes = some (result, after)) :
    ReloadPath sensor passes core (core.reloads sensor command saves passes) after := by
  have unchanged {code : Wire.ConfigOperationCode}
      (same : some (core.configurationResult command.operationId code, core) =
        some (result, after)) : ReloadPath sensor passes core [] after := by
    obtain ⟨-, rfl⟩ := Prod.mk.inj (Option.some.inj same)
    exact .done (.refl _)
  rw [configure] at configured
  rw [reloads, acceptedRate]
  dsimp only at configured
  split at configured
  · rename_i mode
    rw [if_pos mode]
    exact unchanged configured
  rename_i mode
  rw [if_neg mode]
  split at configured
  · rename_i conflict
    rw [if_pos conflict]
    exact unchanged configured
  rename_i revision
  rw [if_neg revision]
  split at configured
  · rename_i invalid
    rw [if_pos invalid]
    exact unchanged configured
  rename_i valid
  rw [if_neg valid]
  split at configured
  · rename_i unknown
    rw [unknown]
    exact unchanged configured
  rename_i odrHz register known
  rw [known]
  obtain ⟨⟨status, middle⟩, reloaded, ended⟩ := bind_eq_some_iff.mp configured
  simp only [map_some, reloaded]
  refine .reload (.refl core) reloaded ?_
  split at ended
  · rename_i failed
    rw [if_pos failed]
    exact rollBack_path (.refl _) ended
  rename_i works
  rw [if_neg works]
  rw [commit] at ended
  dsimp only at ended
  cases stored : (ConfigManager.next (middle.replaceDeviceConfig
      (nextDeviceConfig core.config.device (requested command) odrHz)).config).filter
        fun _ => saves with
  | none =>
    rw [stored] at ended
    exact rollBack_path ⟨rfl, rfl, rfl, rfl⟩ ended
  | some saved =>
    rw [stored] at ended
    obtain ⟨-, rfl⟩ := Prod.mk.inj (Option.some.inj ended)
    refine .done ⟨rfl, ?_, rfl, rfl⟩
    dsimp only [MeasurementIngressSink.setConfigRevision]
    split <;> rfl

section Path

variable {list : List (Core0 δ sizes × DeviceConfig)} (settled : before.engine.handed = [])
include settled

variable (path : ReloadPath sensor passes before list after)

include path

theorem ReloadPath.handed : after.engine.handed = [] := by
  induction path with
  | done alike => exact (congrArg _ alike.engine).trans settled
  | reload alike reloaded _ ih =>
    obtain ⟨_, _, _, handed, _⟩ :=
      reload_receives reloaded ((congrArg _ alike.engine).trans settled)
    exact ih handed

theorem ReloadPath.mono : before.cursor ≤ after.cursor := by
  induction path with
  | done alike => exact alike.quiet.cursor.ge
  | reload alike reloaded _ ih =>
    have started := (congrArg _ alike.engine).trans settled
    obtain ⟨_, _, _, handed, _⟩ := reload_receives reloaded started
    exact (alike.quiet.cursor.ge.trans (reload_mono reloaded started)).trans (ih handed)

theorem ReloadPath.quiet (quiet : ∀ item ∈ list, item.1.ReloadQuiet sensor passes) :
    before.Quiet after ∧ after.state = before.state := by
  induction path with
  | done alike => exact ⟨alike.quiet, alike.state⟩
  | reload alike reloaded _ ih =>
    have started := (congrArg _ alike.engine).trans settled
    obtain ⟨still, state⟩ := reload_quiet reloaded started (quiet _ mem_cons_self)
    obtain ⟨rest, state'⟩ := ih (still.handed.trans started)
      fun item member => quiet item (mem_cons_of_mem _ member)
    exact ⟨(alike.quiet.trans still).trans rest, (state'.trans state).trans alike.state⟩

theorem ReloadPath.loud (loud : ∃ item ∈ list, ¬ item.1.ReloadQuiet sensor passes) :
    before.cursor < after.cursor := by
  induction path with
  | done => obtain ⟨_, member, _⟩ := loud; exact nomatch member
  | reload alike reloaded path ih =>
    have started := (congrArg _ alike.engine).trans settled
    obtain ⟨_, _, _, handed, _⟩ := reload_receives reloaded started
    obtain ⟨item, member, loud⟩ := loud
    rcases mem_cons.mp member with rfl | member
    · exact (alike.quiet.cursor.ge.trans_lt (reload_loud reloaded started loud)).trans_le
        (path.mono handed)
    · exact (alike.quiet.cursor.ge.trans (reload_mono reloaded started)).trans_lt
        (ih handed ⟨item, member, loud⟩)

omit path

end Path

end Core0

namespace Core0Step

variable {δ : Type} {sizes : Core0Sizes}

/-- A poll, or the command that ends a recording. -/
def Records : Core0Step δ → Prop
  | call .poll _ _ => True
  | call (.command command) _ _ => command.operation = .stop
  | _ => False

def Starts : Core0Step δ → Prop
  | call (.command command) _ _ => command.operation = .start
  | _ => False

/-- What a configuration command reloads finds nothing to publish. -/
def ReloadsQuietly (sensor : Accelerometer δ) (before : Core0 δ sizes) : Core0Step δ → Prop
  | call (.configure command saves) passes rounds =>
    ∀ item ∈ (before.withRounds rounds).reloads sensor command saves passes,
      item.1.ReloadQuiet sensor passes
  | _ => True

end Core0Step

namespace Core0

variable {δ : Type} {sizes : Core0Sizes}

/-- What a step may do to the sessions of a node. -/
structure InSession (before : Core0 δ sizes) (step : Core0Step δ) (after : Core0 δ sizes) :
    Prop where
  claims : after.cursor ≠ before.cursor → before.state = .recording ∧ step.Records
  starts : after.state = .recording → before.state = .recording ∨
    before.state = .idle ∧ step.Starts
  settles : before.state = .recording ∨ before.state = .stopping → after.state = .idle →
    after.Drained

variable {sensor : Accelerometer δ} {before core after : Core0 δ sizes} {passes : Nat}
  {event : Core0Step δ} {rounds : List Nat}

/-- A step that publishes nothing, and what it does to the state. -/
theorem Quiet.inSession (quiet : before.Quiet after)
    (starts : after.state = .recording → before.state = .recording ∨
      before.state = .idle ∧ event.Starts)
    (settles : before.state = .recording ∨ before.state = .stopping → after.state = .idle →
      after.Drained) : before.InSession event after :=
  ⟨fun moved => absurd quiet.cursor moved, starts, settles⟩

theorem Quiet.inSession_of_state (quiet : before.Quiet after)
    (state : after.state = before.state ∨ after.state = .faulted ∨ after.state = .maintenance) :
    before.InSession event after := by
  refine quiet.inSession (fun recording => ?_) fun running idle => ?_
  · rcases state with same | faulted | maintenance
    · exact .inl (same.symm.trans recording)
    · exact nomatch faulted.symm.trans recording
    · exact nomatch maintenance.symm.trans recording
  rcases state with same | faulted | maintenance
  · rcases running with recording | stopping
    · exact nomatch recording.symm.trans (same.symm.trans idle)
    · exact nomatch stopping.symm.trans (same.symm.trans idle)
  · exact nomatch faulted.symm.trans idle
  · exact nomatch maintenance.symm.trans idle

/-- What a call does, from the state in which it starts. -/
structure CallSpec (before : Core0 δ sizes) (step : Core0Step δ) (after : Core0 δ sizes) :
    Prop where
  handed : after.engine.handed = []
  inSession : before.InSession step after
  quiet : before.state ≠ .recording → before.Quiet after

theorem Quiet.callSpec (settled : before.engine.handed = []) (quiet : before.Quiet after)
    (inSession : before.InSession event after) : before.CallSpec event after :=
  ⟨quiet.handed.trans settled, inSession, fun _ => quiet⟩

variable (settled : core.engine.handed = [])

include settled

theorem handle_spec {command : SensorRuntimeCommand} {result : Wire.SensorRuntimeResult}
    (handled : core.handle sensor command passes = some (result, after)) :
    core.CallSpec (.call (.command command) passes rounds) after := by
  rw [handle] at handled
  split at handled
  · obtain ⟨-, rfl⟩ := Prod.mk.inj (Option.some.inj handled)
    exact (Quiet.refl core).callSpec settled ((Quiet.refl core).inSession_of_state (.inl rfl))
  · rename_i operation
    obtain rfl : (core.start sensor command.operationId).2 = after :=
      congrArg Prod.snd (Option.some.inj handled)
    have quiet : core.Quiet (core.start sensor command.operationId).2 :=
      start_quiet core command.operationId
    refine quiet.callSpec settled ?_
    by_cases recording : core.state = .recording
    · refine quiet.inSession_of_state (.inl ?_)
      rw [start, recording]
      exact recording
    refine quiet.inSession (fun started => .inr ⟨?_, operation⟩) fun running idle => ?_
    · exact start_state core command.operationId recording started
    · have stopping := running.resolve_left recording
      rw [start, stopping] at idle
      exact nomatch stopping.symm.trans idle
  · rename_i operation
    by_cases recording : core.state = .recording
    · obtain ⟨handed, ended, settles⟩ := stop_ends handled recording
      exact ⟨handed, ⟨fun _ => ⟨recording, operation⟩, fun again => absurd again ended,
        fun _ => settles⟩, fun apart => absurd recording apart⟩
    obtain ⟨quiet, apart, settles⟩ := stop_quiet handled recording
    exact quiet.callSpec settled (quiet.inSession (fun again => absurd again apart)
      fun running => settles (running.resolve_left recording))
  · obtain rfl : (core.enterMaintenance command.operationId).2 = after :=
      congrArg Prod.snd (Option.some.inj handled)
    obtain ⟨quiet, state⟩ := enterMaintenance_quiet core command.operationId
    exact quiet.callSpec settled (quiet.inSession_of_state (state.imp_right .inr))
  · obtain rfl : (core.exitMaintenance command.operationId).2 = after :=
      congrArg Prod.snd (Option.some.inj handled)
    obtain ⟨quiet, same | ⟨maintenance, idle⟩⟩ := exitMaintenance_quiet core command.operationId
    · exact quiet.callSpec settled (quiet.inSession_of_state (.inl same))
    refine quiet.callSpec settled (quiet.inSession (fun recording => ?_) fun running _ => ?_)
    · exact nomatch idle.symm.trans recording
    · rcases running with recording | stopping
      · exact nomatch maintenance.symm.trans recording
      · exact nomatch maintenance.symm.trans stopping
  · obtain rfl : (core.setObservabilityProfile command.operationId command.requestedProfile).2 =
        after := congrArg Prod.snd (Option.some.inj handled)
    obtain ⟨quiet, same⟩ :=
      setObservabilityProfile_quiet core command.operationId command.requestedProfile
    exact quiet.callSpec settled (quiet.inSession_of_state (.inl same))

theorem poll_spec (polled : core.poll sensor passes = some after) :
    core.CallSpec (.call .poll passes rounds) after := by
  have healthy := serviceIngressHealth_quiet core
  have state := serviceIngressHealth_state core
  rw [poll] at polled
  split at polled
  · rename_i stopping
    cases polled
    obtain ⟨quiet, settles⟩ := progressStop_quiet core.serviceIngressHealth
    obtain ⟨apart, settles⟩ := settles stopping
    exact (healthy.trans quiet).callSpec settled ((healthy.trans quiet).inSession
      (fun recording => absurd recording apart) fun _ => settles)
  split at polled
  · cases polled
    exact healthy.callSpec settled (healthy.inSession_of_state (state.imp_right .inl))
  rename_i recording
  have recording := not_not.mp recording
  have before : core.state = .recording :=
    (state.resolve_right fun faulted => nomatch faulted.symm.trans recording).symm.trans recording
  obtain ⟨engine, -, ended⟩ := bind_eq_some_iff.mp polled
  cases ended
  have last := serviceIngressHealth_state ({ core.serviceIngressHealth with
    engine } : Core0 δ sizes).deliver
  refine ⟨(serviceIngressHealth_quiet _).handed.trans rfl, ⟨fun _ => ⟨before, trivial⟩,
    fun _ => .inl before, fun _ idle => ?_⟩, fun apart => absurd before apart⟩
  rcases last with same | faulted
  · exact nomatch recording.symm.trans (same.symm.trans idle)
  · exact nomatch faulted.symm.trans idle

theorem fail_spec {status : SensorStatus} :
    core.CallSpec (.call (.fail status) passes rounds) (core.fail status) := by
  rw [fail]
  split
  · exact (Quiet.refl core).callSpec settled ((Quiet.refl core).inSession_of_state (.inl rfl))
  exact (enterFault_quiet core status).callSpec settled
    ((enterFault_quiet core status).inSession_of_state (.inr (.inl rfl)))

omit settled

/-- What a step does, if its reloads are quiet. -/
theorem step_spec (settled : before.engine.handed = [])
    (quiet : event.ReloadsQuietly sensor before) (moves : before.step sensor event = some after) :
    before.CallSpec event after := by
  cases event with
  | consume count =>
    cases moves
    have still : before.Quiet { before with port := before.port.consume count } :=
      ⟨rfl, rfl, fun drained => by simp [Drained, IngressPort.consume, drained.1, drained.2]⟩
    exact still.callSpec settled (still.inSession_of_state (.inl rfl))
  | sense device =>
    cases moves
    have still : before.Quiet { before with engine := { before.engine with device } } :=
      ⟨rfl, rfl, fun drained => ⟨drained, rfl⟩⟩
    exact still.callSpec settled (still.inSession_of_state (.inl rfl))
  | call call passes rounds =>
    -- the rounds of the call are no part of what the specification compares
    have settled : (before.withRounds rounds).engine.handed = [] := settled
    have spec : (before.withRounds rounds).CallSpec (.call call passes rounds) after := by
      cases call with
      | command command =>
        obtain ⟨⟨result, after⟩, handled, rfl⟩ := map_eq_some_iff.mp moves
        exact handle_spec settled handled
      | configure command saves =>
        obtain ⟨⟨result, after⟩, configured, rfl⟩ := map_eq_some_iff.mp moves
        obtain ⟨still, state⟩ := (configure_path configured).quiet settled quiet
        exact still.callSpec settled (still.inSession_of_state (.inl state))
      | poll => exact poll_spec settled moves
      | fail status =>
        cases moves
        exact fail_spec settled
    exact ⟨spec.handed, ⟨spec.inSession.claims, spec.inSession.starts, spec.inSession.settles⟩,
      fun apart => ⟨(spec.quiet apart).handed, (spec.quiet apart).cursor,
        (spec.quiet apart).journal⟩⟩

theorem step_handed (settled : before.engine.handed = [])
    (moves : before.step sensor event = some after) : after.engine.handed = [] := by
  by_cases quiet : event.ReloadsQuietly sensor before
  · exact (step_spec settled quiet moves).handed
  cases event with
  | consume => exact absurd trivial quiet
  | sense => exact absurd trivial quiet
  | call call passes rounds =>
    cases call with
    | configure command saves =>
      obtain ⟨⟨result, after⟩, configured, rfl⟩ := map_eq_some_iff.mp moves
      have settled : (before.withRounds rounds).engine.handed = [] := settled
      exact (configure_path configured).handed settled
    | _ => exact absurd trivial quiet

/-- A reload that is not quiet takes a cursor. -/
theorem step_loud (settled : before.engine.handed = [])
    (loud : ¬ event.ReloadsQuietly sensor before) (moves : before.step sensor event = some after) :
    before.cursor < after.cursor ∧ ¬ event.Records := by
  cases event with
  | consume => exact absurd trivial loud
  | sense => exact absurd trivial loud
  | call call passes rounds =>
    cases call with
    | configure command saves =>
      obtain ⟨⟨result, after⟩, configured, rfl⟩ := map_eq_some_iff.mp moves
      have settled : (before.withRounds rounds).engine.handed = [] := settled
      have moved : (before.withRounds rounds).cursor < after.cursor := by
        refine (configure_path configured).loud settled ?_
        simpa only [Core0Step.ReloadsQuietly, not_forall, exists_prop] using loud
      exact ⟨moved, id⟩
    | _ => exact absurd trivial loud

theorem step_inSession_iff (settled : before.engine.handed = []) :
    (∀ after, before.step sensor event = some after → before.InSession event after) ↔
      ∀ after, before.step sensor event = some after → event.ReloadsQuietly sensor before := by
  refine forall_congr' fun after => forall_congr' fun moves => ⟨fun bounded => ?_, fun quiet => ?_⟩
  · by_contra loud
    obtain ⟨moved, apart⟩ := step_loud settled loud moves
    exact apart (bounded.claims (Nat.ne_of_gt moved)).2
  · exact (step_spec settled quiet moves).inSession

/-- The boundary of the sessions of a run. -/
structure SessionsBounded (sensor : Accelerometer δ) (core : Core0 δ sizes)
    (steps : List (Core0Step δ)) : Prop where
  inSession : Along (Core0.step sensor) (fun before event => ∀ after,
    before.step sensor event = some after → before.InSession event after) core steps
  rests : ∀ front idle rest settled last, steps = front ++ idle ++ rest →
    runSteps (Core0.step sensor) core front = some settled → settled.state = .idle →
    settled.Drained → Along (Core0.step sensor) (fun before event => ∀ after,
      before.step sensor event = some after → after.state ≠ .recording) settled idle →
    runSteps (Core0.step sensor) settled idle = some last →
      last.cursor = settled.cursor ∧ last.Drained ∧ last.port.journal = settled.port.journal

/-- Every reload of a run is quiet. -/
def ReloadsQuietly (sensor : Accelerometer δ) (core : Core0 δ sizes)
    (steps : List (Core0Step δ)) : Prop :=
  Along (Core0.step sensor) (fun before event => ∀ after,
    before.step sensor event = some after → event.ReloadsQuietly sensor before) core steps

/-- Since a stop has settled, nothing has been published. -/
def RestsSince (settled core : Core0 δ sizes) : Prop :=
  core.engine.handed = [] ∧ core.state ≠ .recording ∧ core.cursor = settled.cursor ∧
    core.Drained ∧ core.port.journal = settled.port.journal

/-- After a settled stop the journal holds the whole stream. -/
theorem rests_of_quiet {idle : List (Core0Step δ)} {settled last : Core0 δ sizes}
    (handed : settled.engine.handed = []) (quiet : ReloadsQuietly sensor settled idle)
    (begins : settled.state = .idle) (drained : settled.Drained)
    (apart : Along (Core0.step sensor) (fun before event => ∀ after,
      before.step sensor event = some after → after.state ≠ .recording) settled idle)
    (runs : runSteps (Core0.step sensor) settled idle = some last) :
    last.cursor = settled.cursor ∧ last.Drained ∧ last.port.journal = settled.port.journal := by
  have steps {core next : Core0 δ sizes} {event : Core0Step δ} (rests : settled.RestsSince core)
      (allowed : (∀ after, core.step sensor event = some after →
          event.ReloadsQuietly sensor core) ∧
        ∀ after, core.step sensor event = some after → after.state ≠ .recording)
      (moves : core.step sensor event = some next) : settled.RestsSince next := by
    obtain ⟨handed, idle, cursor, drained, journal⟩ := rests
    have spec := step_spec handed (allowed.1 next moves) moves
    have still := spec.quiet idle
    obtain ⟨drained, same⟩ := still.journal drained
    exact ⟨spec.handed, allowed.2 next moves, still.cursor.trans cursor, drained,
      same.trans journal⟩
  have apart_now : settled.state ≠ .recording := fun recording =>
    nomatch begins.symm.trans recording
  have starts : settled.RestsSince settled := ⟨handed, apart_now, rfl, drained, rfl⟩
  exact (runSteps_keeps steps starts (quiet.and apart) runs).2.2

/-- The sessions of a node are bounded exactly if no reload of its configuration finds anything
to publish in the FIFO while the sink takes events. -/
theorem sessionsBounded_iff (sensor : Accelerometer δ) (sizes : Core0Sizes)
    (engine : AcquisitionEngine δ) (config : Config.PersistentConfig) (steps : List (Core0Step δ)) :
    SessionsBounded sensor (boot engine config : Core0 δ sizes) steps ↔
      ReloadsQuietly sensor (boot engine config : Core0 δ sizes) steps := by
  have same : Along (Core0.step sensor) (fun before event => ∀ after,
      before.step sensor event = some after → before.InSession event after)
      (boot engine config : Core0 δ sizes) steps ↔
      ReloadsQuietly sensor (boot engine config : Core0 δ sizes) steps :=
    along_congr step_handed step_inSession_iff rfl
  refine ⟨fun bounded => same.mp bounded.inSession, fun quiet => ⟨same.mpr quiet, ?_⟩⟩
  rintro front idle rest settled last rfl runs begins drained apart ends
  have handed : settled.engine.handed = [] :=
    runSteps_keeps (fun handed _ moves => step_handed handed moves) rfl quiet.front.front runs
  exact rests_of_quiet handed (quiet.front.behind runs) begins drained apart ends

/-- A sensor whose FIFO has run over, and that one read empties. -/
def overrunSensor : Accelerometer Bool where
  nowMs _ := 0
  supportsFifo _ := true
  supportsSampleTimestamps _ := false
  supportsDataReadyInterrupt _ := false
  configure _ full := (.ok, full)
  configureFifo _ full := (.ok, full)
  setOffset _ _ _ full := (.ok, full)
  consumeDataReadyEventSources full := (0, full)
  diagnosticSnapshot _ := {}
  refreshDiagnosticSnapshot full := full
  readStatus full := ((.ok, if full then statusFifoFullMask ||| statusFifoOvrMask else 0), full)
  readFifoEntries full := ((.ok, if full then 96 else 0), full)
  readFifoBatch _ full :=
    (if full then { status := .ok, samples := replicate 32 ({}, {}) }
      else { status := .noData }, false)
  notifyFifoTimingDiscontinuity _ full := full
  readSample full := ((.noData, {}), full)

/-- A node that has booted and not recorded yet. -/
def bootedNode : Core0 Bool ⟨8, 4⟩ :=
  boot { device := true, initialized := true, hasLastConfig := true } { generation := 1 }

def applyInMaintenance : List (Core0Step Bool) :=
  [.call (.command { operationId := 1, operation := .enterMaintenance }) 4 [],
    .call (.configure { operationId := 2, expectedRevision := 1 } true) 4 []]

/-- A break and a sample enter the stream before anything has been recorded. -/
theorem configuration_publishes :
    ¬ SessionsBounded overrunSensor bootedNode applyInMaintenance := by
  intro bounded
  obtain ⟨-, behind⟩ := bounded.inSession
  have maintained := (behind { bootedNode with state := .maintenance } rfl).1
  have published : (Core0.step overrunSensor { bootedNode with state := .maintenance }
      (.call (.configure { operationId := 2, expectedRevision := 1 } true) 4 [])).map cursor =
      some 2 := by decide +kernel
  obtain ⟨after, moves, cursors⟩ := Option.map_eq_some_iff.mp published
  have moved : after.cursor ≠ bootedNode.cursor := by
    rw [cursors]
    decide
  exact ((maintained after moves).claims moved).2

end Core0
end SensorSystem.Node
