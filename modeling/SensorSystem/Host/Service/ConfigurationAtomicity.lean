import SensorSystem.Host.Channel.ChannelCalls
import SensorSystem.Host.Service.ConfigurationCommit

/-! The steps of a commit do not read what the steps before them wrote, so which of them fail can
be told from the channel before the commit. A commit that fails leaves what the earlier steps did,
and a channel that can be resumed with a configuration that its node has left. -/

namespace SensorSystem.Host.Configuration.ConfiguredChannel

open ChannelCoordinator ChannelStartupPlan
open Base
variable {channel before after : ConfiguredChannel} {nodeAddress : UInt8}
  {value : ConfigOperationResult} {now : MonotonicMicros} {faults : CommitFaults}

/-- Plan, node and published configuration are those of the report. -/
structure Adopted (channel : ConfiguredChannel) (nodeAddress : UInt8)
    (value : ConfigOperationResult) : Prop where
  planned : ∃ node, channel.plan.node? nodeAddress = some node ∧
    node.configuration = value.observed ∧
      node.schedule.outputRate = value.observed.desired.outputRate.rate ∧
        node.requirements.requiredOutputRate = some value.observed.desired.outputRate
  worker : ∃ node, channel.node? nodeAddress = some node ∧ node.configuration = value.observed ∧
    node.requirements.requiredOutputRate = some value.observed.desired.outputRate
  published : channel.coordinator.published.find? (·.1 = nodeAddress) =
    some (nodeAddress, some value.observed)

/-- The node is scheduled as it is planned. -/
def Scheduled (channel : ConfiguredChannel) (nodeAddress : UInt8) : Prop :=
  ∃ node, channel.plan.node? nodeAddress = some node ∧
    (channel.coordinator.runtime.node? nodeAddress).map (·.config) = some node.schedule

/-- The history of the node's sensor has the report. -/
def OnRecord (channel : ConfiguredChannel) (nodeAddress : UInt8)
    (value : ConfigOperationResult) : Prop :=
  ∃ node, channel.node? nodeAddress = some node ∧
    Recorded (channel.histories node.requirements.hardwareId) (snapshot node value)

/-- All of it describes the configuration that the node reported. -/
structure Describes (channel : ConfiguredChannel) (nodeAddress : UInt8)
    (value : ConfigOperationResult) : Prop where
  adopted : channel.Adopted nodeAddress value
  scheduled : channel.Scheduled nodeAddress
  onRecord : channel.OnRecord nodeAddress value

/-- The record of the report reaches the history of its sensor as a whole. -/
def AddsRecord (before : ConfiguredChannel) (identity : ChannelControlNode)
    (value : ConfigOperationResult) (faults : CommitFaults) : Prop :=
  Configuration.AddsRecord (before.histories identity.requirements.hardwareId) faults.history
    (snapshot identity value)

/-- The channel is as the report says, up to the history. -/
def Held (before : ConfiguredChannel) (nodeAddress : UInt8) (value : ConfigOperationResult)
    (faults : CommitFaults) : Prop :=
  before.Adopted nodeAddress value ∧ before.Scheduled nodeAddress ∧
    (before.OnRecord nodeAddress value ∨ ∃ candidate schedule identity,
      before.prepare nodeAddress value faults = .ok (candidate, schedule, identity) ∧
        before.AddsRecord identity value faults)

variable {candidate : ChannelStartupPlan} {identity : ChannelControlNode}
  {schedule : NodeScheduleConfig}

theorem runtime_reconfigureNode (runtime : ChannelRuntime) (schedule : NodeScheduleConfig)
    (now : MonotonicMicros) :
    (∃ error, runtime.reconfigureNode schedule now = (.error error, runtime)) ∨
      ∃ later, runtime.reconfigureNode schedule now = (.ok (), later) ∧
        (later.node? schedule.nodeAddress).map (·.config) = some schedule := by
  rw [ChannelRuntime.reconfigureNode]
  split
  · exact .inl ⟨_, rfl⟩
  rename_i valid accepted
  cases ChannelRuntime.validate_ok accepted
  split
  · exact .inl ⟨_, rfl⟩
  split
  · exact .inl ⟨_, rfl⟩
  rename_i node found
  split
  · exact .inl ⟨_, rfl⟩
  refine .inr ⟨_, rfl, ?_⟩
  rw [ChannelRuntime.node?, ChannelRuntime.updateNode,
    find?_updateFirst _ fun _ _ => by simp [NodeScheduleState.address], ← ChannelRuntime.node?,
    found]
  rfl

/-- A coordinator that takes a schedule could be resumed as well. -/
theorem reconfigureNode_cases (coordinator : ChannelCoordinator) (schedule : NodeScheduleConfig)
    (now : MonotonicMicros) :
    (∃ error, coordinator.reconfigureNode schedule now = (.error error, coordinator)) ∨
      ∃ runtime, coordinator.isQuiescent = true ∧ coordinator.shutdownDrain = false ∧
        coordinator.reconfigureNode schedule now = (.ok (), { coordinator with runtime }) ∧
          (runtime.node? schedule.nodeAddress).map (·.config) = some schedule := by
  rw [reconfigureNode]
  split
  · exact .inl ⟨_, rfl⟩
  rename_i ready
  obtain ⟨quiet, drained⟩ := not_or.mp ready
  rw [Classical.not_not] at quiet
  rw [Bool.not_eq_true] at drained
  obtain ⟨error, same⟩ | ⟨runtime, done, follows⟩ :=
    runtime_reconfigureNode coordinator.runtime schedule now
  · rw [same]
    exact .inl ⟨_, rfl⟩
  · rw [done]
    exact .inr ⟨runtime, quiet, drained, rfl, follows⟩

theorem resumeRecording_eq_none : channel.resumeRecording = none ↔
    ¬ (channel.coordinator.isQuiescent = true ∧ channel.coordinator.shutdownDrain = false) := by
  rw [resumeRecording, if_neg (fun other => other channel.plan.accepted),
    resumeScheduling]
  by_cases ready : ¬ channel.coordinator.isQuiescent ∨ channel.coordinator.shutdownDrain
  · rw [if_pos ready]
    refine iff_of_true rfl fun both => ?_
    rw [both.1, both.2] at ready
    simp at ready
  rw [if_neg ready]
  refine iff_of_false (nofun) ?_
  rw [not_or, Classical.not_not, Bool.not_eq_true] at ready
  exact fun other => other ready

/-- The channel on another schedule. -/
def withRuntime (channel : ConfiguredChannel) (runtime : ChannelRuntime) : ConfiguredChannel :=
  { channel with coordinator := { channel.coordinator with runtime } }

/-- Which steps of a commit are reached, and what they leave. -/
inductive Commits (before : ConfiguredChannel) (nodeAddress : UInt8)
    (value : ConfigOperationResult) (now : MonotonicMicros) (faults : CommitFaults) :
    ConfiguredChannel → Prop where
  | refused (stops : ∀ prepared, before.prepare nodeAddress value faults ≠ .ok prepared) :
    Commits before nodeAddress value now faults before
  | recorded {candidate : ChannelStartupPlan} {schedule : NodeScheduleConfig}
      {identity : ChannelControlNode}
      (prepares : before.prepare nodeAddress value faults = .ok (candidate, schedule, identity))
      (stops : ¬ (before.record identity value faults).1.toOption.isSome ∨
        (before.reschedule schedule now).1 ≠ .ok ()) :
    Commits before nodeAddress value now faults (before.record identity value faults).2
  | scheduled {candidate : ChannelStartupPlan} {schedule : NodeScheduleConfig}
      {identity : ChannelControlNode} {runtime : ChannelRuntime}
      (prepares : before.prepare nodeAddress value faults = .ok (candidate, schedule, identity))
      (ready : before.resumeRecording ≠ none)
      (stops : before.coordinator.published.find? (·.1 = nodeAddress) = none) :
    Commits before nodeAddress value now faults
      ((before.record identity value faults).2.withRuntime runtime)
  | adopted {candidate : ChannelStartupPlan} {schedule : NodeScheduleConfig}
      {identity : ChannelControlNode} {runtime : ChannelRuntime}
      (prepares : before.prepare nodeAddress value faults = .ok (candidate, schedule, identity))
      (records : (before.record identity value faults).1.toOption.isSome)
      (reschedules : (before.reschedule schedule now).1 = .ok ())
      (follows : (runtime.node? schedule.nodeAddress).map (·.config) = some schedule)
      (published : (before.publish nodeAddress value).1 = .ok ())
      (publishes : (((before.record identity value faults).2.withRuntime runtime).publish
        nodeAddress value).1 = .ok ()) :
    Commits before nodeAddress value now faults
      ((((before.record identity value faults).2.withRuntime runtime).publish nodeAddress
        value).2.adopt candidate nodeAddress value)

theorem publish_cases (channel : ConfiguredChannel) (nodeAddress : UInt8)
    (value : ConfigOperationResult) :
    (channel.coordinator.published.find? (·.1 = nodeAddress) = none ∧
      ∃ error, channel.publish nodeAddress value = (.error error, channel)) ∨
    ∃ later, channel.publish nodeAddress value = (.ok (), later) := by
  rw [publish, observeConfiguration]
  cases channel.coordinator.published.find? (·.1 = nodeAddress) with
  | none => exact .inl ⟨rfl, _, rfl⟩
  | some session => exact .inr ⟨_, rfl⟩

theorem commits (before : ConfiguredChannel) (nodeAddress : UInt8)
    (value : ConfigOperationResult) (now : MonotonicMicros) (faults : CommitFaults) :
    Commits before nodeAddress value now faults (before.commit nodeAddress value now faults).2 := by
  rw [commit]
  cases prepares : before.prepare nodeAddress value faults with
  | error error => exact .refused fun prepared done => nomatch prepares.symm.trans done
  | ok prepared =>
    obtain ⟨candidate, schedule, identity⟩ := prepared
    simp only
    have stays := @Commits.recorded _ _ _ now _ _ _ _ prepares
    have goesOn := fun runtime => @Commits.scheduled _ _ _ now _ _ _ _ runtime prepares
    have ends := fun runtime => @Commits.adopted _ _ _ now _ _ _ _ runtime prepares
    have kept : (before.record identity value faults).2.coordinator = before.coordinator := rfl
    generalize before.record identity value faults = taken at stays goesOn ends kept
    obtain ⟨result, channel⟩ := taken
    cases result with
    | error error => exact stays (.inl (by simp [Except.toOption]))
    | ok how =>
      simp only at stays goesOn ends kept ⊢
      obtain ⟨error, fails⟩ | ⟨runtime, quiet, drained, done, follows⟩ :=
        reconfigureNode_cases before.coordinator schedule now
      · have failed : channel.reschedule schedule now = (.error error, channel) := by
          rw [reschedule, kept, fails, ← kept]
        rw [failed]
        refine stays (.inr ?_)
        rw [reschedule, fails]
        exact nofun
      have passed : channel.reschedule schedule now = (.ok (), channel.withRuntime runtime) := by
        rw [reschedule, kept, done, withRuntime, kept]
      have reschedules : (before.reschedule schedule now).1 = .ok () := by
        rw [reschedule, done]
      rw [passed]
      simp only
      have same : (channel.withRuntime runtime).coordinator.published =
          before.coordinator.published := by
        rw [withRuntime, kept]
      obtain ⟨unknown, error, fails⟩ | ⟨later, publishes⟩ :=
        publish_cases (channel.withRuntime runtime) nodeAddress value
      · rw [fails]
        rw [same] at unknown
        refine goesOn runtime ?_ unknown
        rw [Ne, resumeRecording_eq_none, Classical.not_not]
        exact ⟨quiet, drained⟩
      have ends := ends runtime rfl reschedules follows
      rw [publishes] at ends ⊢
      refine ends ?_ rfl
      obtain ⟨unknown, _⟩ | ⟨other, publishes'⟩ := publish_cases before nodeAddress value
      · rw [← same] at unknown
        rw [publish, observeConfiguration, unknown] at publishes
        exact nomatch (Prod.mk.inj publishes).1
      · rw [publishes']

theorem recorded_iff {one other : List UInt8} (same : records one = records other)
    (snapshot : ConfigurationSnapshot) : Recorded one snapshot ↔ Recorded other snapshot := by
  rw [Recorded, Recorded, same]

/-- The step puts the report on record, or leaves the histories. -/
theorem records_of_record (channel : ConfiguredChannel) (identity : ChannelControlNode)
    (value : ConfigOperationResult) (faults : CommitFaults) :
    let after := (channel.record identity value faults).2
    let hardwareId := identity.requirements.hardwareId
    (channel.AddsRecord identity value faults ∧
      Recorded (after.histories hardwareId) (snapshot identity value) ∧
      records (after.histories hardwareId) ≠ records (channel.histories hardwareId)) ∨
    (¬ channel.AddsRecord identity value faults ∧
      (∀ other, records (after.histories other) = records (channel.histories other)) ∧
      ((channel.record identity value faults).1.toOption.isSome →
        Recorded (channel.histories hardwareId) (snapshot identity value))) := by
  intro after hardwareId
  have here : after.histories hardwareId = (appendConfigurationSnapshot
      (channel.histories hardwareId) faults.history (snapshot identity value)).2 :=
    Function.update_self ..
  obtain ⟨adds, record, told, same⟩ | ⟨keeps, same, succeeds⟩ := append_spec
    (channel.histories hardwareId) faults.history (snapshot identity value)
  · rw [here, same]
    refine .inl ⟨adds, ⟨record, ?_, _, told, rfl, rfl, rfl⟩, ?_⟩
    · rw [same]
      exact List.mem_append_right _ List.mem_cons_self
    · exact fun all => nomatch List.append_right_eq_self.mp all
  · refine .inr ⟨keeps, fun other => ?_, succeeds⟩
    by_cases equal : other = hardwareId
    · rw [equal, here]
      exact same
    · exact congrArg records (Function.update_of_ne equal ..)

/-- The record step does not take a configuration off the record. -/
theorem OnRecord.record (known : channel.node? nodeAddress = some identity) :
    (channel.record identity value faults).2.OnRecord nodeAddress value ↔
      channel.OnRecord nodeAddress value ∨ channel.AddsRecord identity value faults := by
  have spec := records_of_record channel identity value faults
  constructor
  · rintro ⟨node, found, holds⟩
    obtain rfl := Option.some.inj (known.symm.trans found)
    obtain ⟨adds, -⟩ | ⟨-, same, -⟩ := spec
    · exact .inr adds
    · exact .inl ⟨identity, known, (recorded_iff (same _) _).mp holds⟩
  · rintro (⟨node, found, holds⟩ | adds)
    · obtain rfl := Option.some.inj (known.symm.trans found)
      obtain ⟨-, written, -⟩ | ⟨-, same, -⟩ := spec
      · exact ⟨identity, known, written⟩
      · exact ⟨identity, known, (recorded_iff (same _) _).mpr holds⟩
    · obtain ⟨-, written, -⟩ | ⟨keeps, -⟩ := spec
      · exact ⟨identity, known, written⟩
      · exact absurd adds keeps

variable {runtime : ChannelRuntime}

/-- A configuration of the given revision, without decimation. -/
def atRate (revision : UInt32) (rate : OutputRateCode) : ObservedConfiguration where
  revision := revision
  desired :=
    { outputRate := rate
      rangeG := 2
      highPassCorner := 0
      filterProfile := .balanced
      fifoWatermark := 30
      offsetX := 0
      offsetY := 0
      offsetZ := 0 }
  sensorOdr := rate
  decimationFactor := 1

end SensorSystem.Host.Configuration.ConfiguredChannel
