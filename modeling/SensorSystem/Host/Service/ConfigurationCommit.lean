import SensorSystem.Host.Service.ChannelStartup
import SensorSystem.Host.Service.ConfigurationHistory
import SensorSystem.Host.Service.Operations

/-! `channel_worker.rs`: what the host does once a node says that it has applied a configuration.
The plan, the history, the schedule, the published configuration and the worker's own node follow
each other, and each of these steps may fail behind the ones before it. -/

namespace SensorSystem.Host.Configuration

open Base
open Operations (OperationsError)

structure ChannelControlNode where
  nodeAddress : UInt8
  requirements : HandshakeRequirements
  bootEpoch : BootEpoch
  configuration : ObservedConfiguration

/-- The worker's node behind an applied configuration. -/
def ChannelControlNode.follow (observed : ObservedConfiguration) (node : ChannelControlNode) :
    ChannelControlNode :=
  { node with
    configuration := observed
    requirements :=
      { node.requirements with requiredOutputRate := some observed.desired.outputRate } }

inductive MeasurementCoordinatorError where
  | reconfigurationNotQuiescent
  | resumeNotReady
  | unknownNode (nodeAddress : UInt8)
  | runtime (error : ChannelRuntimeError)
deriving DecidableEq

/-- The coordinator of a channel: its configuration and its scheduling. -/
structure ChannelCoordinator where
  runtime : ChannelRuntime
  quiescing : Bool
  hasActiveDispatch : Bool
  pendingCompletion : Bool
  inFlightWrites : Nat
  shutdownDrain : Bool
  /-- The configuration that is published for each address. -/
  published : List (UInt8 × Option ObservedConfiguration)

namespace ChannelCoordinator

variable (coordinator : ChannelCoordinator)

def isQuiescent : Bool :=
  coordinator.quiescing && !coordinator.hasActiveDispatch && !coordinator.pendingCompletion &&
    coordinator.inFlightWrites == 0

def reconfigureNode (coordinator : ChannelCoordinator) (config : NodeScheduleConfig)
    (now : MonotonicMicros) : Except MeasurementCoordinatorError Unit × ChannelCoordinator :=
  if ¬ coordinator.isQuiescent ∨ coordinator.shutdownDrain then
    (.error .reconfigurationNotQuiescent, coordinator)
  else match coordinator.runtime.reconfigureNode config now with
    | (.error error, runtime) => (.error (.runtime error), { coordinator with runtime })
    | (.ok (), runtime) => (.ok (), { coordinator with runtime })

def observeConfiguration (nodeAddress : UInt8) (configuration : ObservedConfiguration) :
    Except MeasurementCoordinatorError Unit × ChannelCoordinator :=
  match coordinator.published.find? (·.1 = nodeAddress) with
  | none => (.error (.unknownNode nodeAddress), coordinator)
  | some _ => (.ok (), { coordinator with
      published := updateFirst (·.1 = nodeAddress) (fun session => (session.1, some configuration))
        coordinator.published })

def resumeScheduling : Except MeasurementCoordinatorError Unit × ChannelCoordinator :=
  if ¬ coordinator.isQuiescent ∨ coordinator.shutdownDrain then
    (.error .resumeNotReady, coordinator)
  else (.ok (), { coordinator with quiescing := false })

end ChannelCoordinator

/-- What a channel's worker and files hold about the configuration of its nodes. -/
structure ConfiguredChannel where
  plan : ChannelStartupPlan
  nodes : List ChannelControlNode
  coordinator : ChannelCoordinator
  /-- The history of each sensor. -/
  histories : HardwareId → List UInt8

/-- What the storage answers during one commit. -/
structure CommitFaults where
  /-- `finish_capture_stream` succeeds. -/
  finishes : Bool
  history : HistoryIo

namespace ConfiguredChannel
variable (channel : ConfiguredChannel)

variable (nodeAddress : UInt8)

def node? : Option ChannelControlNode :=
  channel.nodes.find? (·.nodeAddress = nodeAddress)

def snapshot (node : ChannelControlNode) (value : ConfigOperationResult) :
    ConfigurationSnapshot where
  hardwareId := node.requirements.hardwareId
  bootEpoch := node.bootEpoch
  observed := value.observed
  effectiveSampleSeq := value.effectiveSampleSeq

variable (value : ConfigOperationResult)

/-- What the commit reads before it changes anything. The error tells whether the step of the
channel fails. -/
def prepare (faults : CommitFaults) : Except (OperationsError × Bool)
      (ChannelStartupPlan × NodeScheduleConfig × ChannelControlNode) :=
  match channel.plan.acceptConfiguration nodeAddress value.observed with
  | .error _ => .error (.configurationAdmissionRejected, false)
  | .ok candidate =>
    match candidate.node? nodeAddress with
    | none => .error (.nodeNotConfigured, true)
    | some planned =>
      match channel.node? nodeAddress with
      | none => .error (.nodeNotConfigured, true)
      | some identity =>
        if faults.finishes then .ok (candidate, planned.schedule, identity)
        else .error (.configurationFailed, false)

/-- The snapshot goes to the history of the sensor. -/
def record (identity : ChannelControlNode) (value : ConfigOperationResult) (faults : CommitFaults) :
    Except ConfigurationHistoryError ConfigurationAppend × ConfiguredChannel :=
  let hardwareId := identity.requirements.hardwareId
  match appendConfigurationSnapshot (channel.histories hardwareId) faults.history
      (snapshot identity value) with
  | (result, file) => (result, { channel with
      histories := Function.update channel.histories hardwareId file })

def reschedule (schedule : NodeScheduleConfig) (now : MonotonicMicros) :
    Except MeasurementCoordinatorError Unit × ConfiguredChannel :=
  match channel.coordinator.reconfigureNode schedule now with
  | (result, coordinator) => (result, { channel with coordinator })

def publish : Except MeasurementCoordinatorError Unit × ConfiguredChannel :=
  match channel.coordinator.observeConfiguration nodeAddress value.observed with
  | (result, coordinator) => (result, { channel with coordinator })

/-- The plan is replaced, and the worker's node follows it. -/
def adopt (candidate : ChannelStartupPlan) (nodeAddress : UInt8) (value : ConfigOperationResult) :
    ConfiguredChannel :=
  { channel with
    plan := candidate
    nodes := updateFirst (·.nodeAddress = nodeAddress) (·.follow value.observed) channel.nodes }

/-- The commit of an applied configuration in `drive_configuration`. -/
def commit (now : MonotonicMicros) (faults : CommitFaults) :
    Except (OperationsError × Bool) Unit × ConfiguredChannel :=
  match channel.prepare nodeAddress value faults with
  | .error error => (.error error, channel)
  | .ok (candidate, schedule, identity) =>
    match channel.record identity value faults with
    | (.error _, channel) => (.error (.configurationFailed, false), channel)
    | (.ok _, channel) =>
      match channel.reschedule schedule now with
      | (.error _, channel) => (.error (.configurationFailed, false), channel)
      | (.ok (), channel) =>
        match channel.publish nodeAddress value with
        | (.error _, channel) => (.error (.configurationFailed, false), channel)
        | (.ok (), channel) => (.ok (), channel.adopt candidate nodeAddress value)

/-- The end of `drive_resume`, once the nodes are verified, their streams reconciled and the
nodes recording again; none of that looks at a configuration. There is no channel behind a
resume that fails. -/
def resumeRecording : Option ConfiguredChannel :=
  if ¬ channel.plan.admission.accepted then none
  else match channel.coordinator.resumeScheduling with
    | (.error _, _) => none
    | (.ok (), coordinator) => some { channel with coordinator }

end ConfiguredChannel
end SensorSystem.Host.Configuration
