import SensorSystem.Host.Channel.ChannelRuntime
import SensorSystem.Host.Channel.ControlOperations

/-! `channel_admission.rs` and `channel_startup.rs`: what the nodes of a channel are planned to
take of its time, and how an observed configuration enters the plan. The parts of a plan that only
its construction reads are left out. -/

namespace SensorSystem.Host

open Base

structure PeriodicTraffic where
  transactionTime : DurationMicros
  interval : DurationMicros

structure NodeTrafficDemand where
  outputRate : SampleRate
  samplesPerChunk : UInt16
  measurementTransactionTime : DurationMicros
  timeSync : Option PeriodicTraffic
  health : Option PeriodicTraffic

structure AdmissionPolicy where
  maximumUtilizationPpm : UInt32
  recoveryReservePpm : UInt32

structure AdmissionReport where
  nominalUtilizationPpm : UInt32
  recoveryReservePpm : UInt32
  requiredUtilizationPpm : UInt32
  maximumUtilizationPpm : UInt32

def AdmissionReport.accepted (report : AdmissionReport) : Bool :=
  report.requiredUtilizationPpm ≤ report.maximumUtilizationPpm

inductive AdmissionError where
  | invalidMaximumUtilization
  | recoveryReserveConsumesBudget
  | zeroSamplesPerChunk
  | arithmeticOverflow
  | demandExceedsChannel

def partsPerMillion : Nat := 1000000
def nanoPerUnit : Nat := 1000000000

variable (policy : AdmissionPolicy)

/-- `ChannelAdmission::new`. -/
def AdmissionPolicy.validate : Except AdmissionError AdmissionPolicy :=
  if policy.maximumUtilizationPpm = 0 ∨ policy.maximumUtilizationPpm.toNat > partsPerMillion then
    .error .invalidMaximumUtilization
  else if policy.recoveryReservePpm ≥ policy.maximumUtilizationPpm then
    .error .recoveryReserveConsumesBudget
  else .ok policy

def measurementPpm (demand : NodeTrafficDemand) : Nat :=
  divCeil (demand.outputRate.nanohertz.toNat * demand.measurementTransactionTime.value.toNat)
    (demand.samplesPerChunk.toNat * nanoPerUnit)

/-- `checked_add` of 128 bits. -/
def checkedAdd128 (left right : Nat) : Except AdmissionError Nat :=
  if left + right < 2 ^ 128 then .ok (left + right) else .error .arithmeticOverflow

def checkedAddPeriodic (current : Nat) : Option PeriodicTraffic → Except AdmissionError Nat
  | none => .ok current
  | some traffic => checkedAdd128 current
    (divCeil (traffic.transactionTime.value.toNat * partsPerMillion) traffic.interval.value.toNat)

/-- The loop over the demands. -/
def nominalPpm : Nat → List NodeTrafficDemand → Except AdmissionError Nat
  | nominal, [] => .ok nominal
  | nominal, demand :: rest =>
    if demand.samplesPerChunk = 0 then .error .zeroSamplesPerChunk
    else do
      let measured ← checkedAdd128 nominal (measurementPpm demand)
      let timed ← checkedAddPeriodic measured demand.timeSync
      let nominal ← checkedAddPeriodic timed demand.health
      nominalPpm nominal rest

/-- `u32::try_from` of the demand of a channel. -/
def channelPpm (ppm : Nat) : Except AdmissionError UInt32 :=
  if ppm < 2 ^ 32 then .ok (UInt32.ofNat ppm) else .error .demandExceedsChannel

def AdmissionPolicy.evaluate (nodes : List NodeTrafficDemand) :
    Except AdmissionError AdmissionReport := do
  let nominal ← nominalPpm 0 nodes
  let nominalUtilizationPpm ← channelPpm nominal
  let required ← checkedAdd128 nominal policy.recoveryReservePpm.toNat
  let requiredUtilizationPpm ← channelPpm required
  .ok ⟨nominalUtilizationPpm, policy.recoveryReservePpm, requiredUtilizationPpm,
    policy.maximumUtilizationPpm⟩

structure ChannelStartupPolicy where
  admission : AdmissionPolicy
  measurementTransactionTime : DurationMicros
  timeSyncTransactionTime : DurationMicros
  timeSyncSchedule : TimeSyncScheduleConfig

/-- A planned node; its schedule is of its own address. -/
structure NodeStartupPlan where
  nodeAddress : UInt8
  requirements : HandshakeRequirements
  schedule : NodeScheduleConfig
  configuration : ObservedConfiguration
  outputRateMask : UInt16
  telemetry : Option TelemetryScheduleConfig
  scheduled : schedule.nodeAddress = nodeAddress

/-- A plan is kept only with an admission that is accepted. -/
structure ChannelStartupPlan where
  channelId : UInt8
  admission : AdmissionReport
  nodes : List NodeStartupPlan
  policy : ChannelStartupPolicy
  accepted : admission.accepted = true

inductive ChannelStartupError where
  | zeroTargetChunk
  | transactionExceedsSlot
  | timeTransactionExceedsSlot
  | inconsistentChannelIdentity (channelId : UInt8)
  | channelOverCapacity (channelId : UInt8) (report : AdmissionReport)
  | admission (error : AdmissionError)
  | runtime (error : ChannelRuntimeError)
  | invariantViolation
  | missingObservedConfiguration (channelId nodeAddress : UInt8)
  | invalidConfiguration
  | invalidTelemetryInterval
  | telemetryUnavailable (nodeAddress : UInt8)
  | unknownNode (nodeAddress : UInt8)
  | unsupportedOutputRate (nodeAddress : UInt8) (rate : OutputRateCode)

def OutputRateCode.rate (code : OutputRateCode) : SampleRate where
  nanohertz := code.sampleRate
  nonzero := by cases code <;> decide

/-- A node whose schedule follows another output rate. -/
def NodeStartupPlan.atRate (node : NodeStartupPlan) (rate : SampleRate) : NodeStartupPlan :=
  { node with
    schedule := { node.schedule with outputRate := rate }
    scheduled := node.scheduled }

def NodeStartupPlan.demand (policy : ChannelStartupPolicy) (node : NodeStartupPlan) :
    NodeTrafficDemand where
  outputRate := node.schedule.outputRate
  samplesPerChunk := node.schedule.targetChunkSamples
  measurementTransactionTime := policy.measurementTransactionTime
  timeSync := some ⟨policy.timeSyncTransactionTime, policy.timeSyncSchedule.interval⟩
  health := node.telemetry.map fun telemetry => ⟨telemetry.estimatedSlot, telemetry.interval⟩

def evaluatePlanAdmission (admission : AdmissionPolicy) (nodes : List NodeStartupPlan)
    (policy : ChannelStartupPolicy) : Except ChannelStartupError AdmissionReport :=
  (admission.evaluate (nodes.map (·.demand policy))).mapError .admission

namespace ChannelStartupPlan

variable (plan : ChannelStartupPlan) (nodeAddress : UInt8)

def node? : Option NodeStartupPlan :=
  plan.nodes.find? (·.nodeAddress = nodeAddress)

def previewConfiguration (configuration : MeasurementConfiguration) :
    Except ChannelStartupError AdmissionReport := do
  let _ ← configuration.validate.mapError fun _ => .invalidConfiguration
  match plan.node? nodeAddress with
  | none => .error (.unknownNode nodeAddress)
  | some node =>
    if node.outputRateMask &&& configuration.outputRate.capabilityBit = 0 then
      .error (.unsupportedOutputRate nodeAddress configuration.outputRate)
    else
      let nodes := updateFirst (fun node => node.nodeAddress = nodeAddress)
        (·.atRate configuration.outputRate.rate) plan.nodes
      let admission ← plan.policy.admission.validate.mapError .admission
      evaluatePlanAdmission admission nodes plan.policy

variable (observed : ObservedConfiguration)

/-- A planned node that runs an observed configuration. -/
def accept (node : NodeStartupPlan) : NodeStartupPlan :=
  { node.atRate observed.desired.outputRate.rate with
    configuration := observed
    requirements :=
      { node.requirements with requiredOutputRate := some observed.desired.outputRate } }

/-- What an observed configuration leaves of a plan, behind its preview. -/
def adopt (report : AdmissionReport) : Except ChannelStartupError ChannelStartupPlan :=
  if fits : report.accepted = true then
    match plan.node? nodeAddress with
    | none => .error (.unknownNode nodeAddress)
    | some _ => .ok { plan with
        nodes := updateFirst (fun node => node.nodeAddress = nodeAddress) (accept observed)
          plan.nodes
        admission := report
        accepted := fits }
  else .error (.channelOverCapacity plan.channelId report)

/-- `accept_configuration`, with the plan it leaves. -/
def acceptConfiguration : Except ChannelStartupError ChannelStartupPlan := do
  let _ ← observed.validate.mapError fun _ => .invalidConfiguration
  let report ← plan.previewConfiguration nodeAddress observed.desired
  plan.adopt nodeAddress observed report

end ChannelStartupPlan
end SensorSystem.Host
