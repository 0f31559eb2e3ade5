import SensorSystem.Host.Service.ChannelStartup
import Mathlib.Algebra.Order.Field.Rat
import Mathlib.Algebra.Order.Field.Basic
import Mathlib.Tactic.Linarith
import Mathlib.Tactic.NormNum

/-! `channel_startup.rs`: the plans a discovered installation starts with, and the telemetry
interval an operator changes in them. A plan always carries the admission of its own nodes. -/

namespace SensorSystem.Host

open Base List UInt32

/-- The policy with the fields that only the construction of a plan reads. -/
structure PlanningPolicy extends ChannelStartupPolicy where
  targetChunkSamples : UInt16
  measurementSlot : DurationMicros
  maximumServiceInterval : DurationMicros
  retryBaseDelay : DurationMicros
  retryMaxDelay : DurationMicros
  retryAttemptLimit : UInt8
  offlineProbeInterval : DurationMicros
  telemetrySchedule : TelemetryScheduleConfig

/-- `ChannelStartupPolicy::validate`. -/
def PlanningPolicy.validate (policy : PlanningPolicy) :
    Except ChannelStartupError PlanningPolicy := do
  let _ ← policy.admission.validate.mapError .admission
  if policy.targetChunkSamples = 0 then .error .zeroTargetChunk
  else if policy.measurementTransactionTime.value > policy.measurementSlot.value then
    .error .transactionExceedsSlot
  else if policy.timeSyncTransactionTime.value > policy.timeSyncSchedule.estimatedSlot.value then
    .error .timeTransactionExceedsSlot
  else do
    let _ ← (TimeSyncScheduleConfig.validate policy.timeSyncSchedule).mapError .runtime
    let _ ← (TelemetryScheduleConfig.validate policy.telemetrySchedule).mapError .runtime
    .ok policy

/-- A node of the inventory, whose telemetry interval is not zero. -/
structure DiscoveredNode where
  channelName : String
  channelId : UInt8
  nodeAddress : UInt8
  outputRate : OutputRateCode
  telemetryIntervalSeconds : UInt32
  identity : NodeIdentity
  capabilities : NodeCapabilities
  configuration : Option ObservedConfiguration
  measured : telemetryIntervalSeconds ≠ 0

/-- Seconds in microseconds; the product of 32 bits and a million fits. -/
def secondsUs (seconds : UInt32) : UInt64 := seconds.toUInt64 * 1000000

theorem secondsUs_ne_zero {seconds : UInt32} (positive : seconds ≠ 0) : secondsUs seconds ≠ 0 := by
  intro zero
  have bound := seconds.toNat_lt
  have nat := congrArg UInt64.toNat zero
  have million : (1000000 : UInt64).toNat = 1000000 := rfl
  have fits : seconds.toNat * 1000000 < 2 ^ 64 :=
    lt_of_lt_of_le (Nat.mul_lt_mul_of_pos_right bound (by decide)) (by decide)
  rw [secondsUs, UInt64.toNat_mul, toNat_toUInt64, million, UInt64.toNat_zero,
    Nat.mod_eq_of_lt fits] at nat
  rcases Nat.mul_eq_zero.mp nat with none | impossible
  · exact positive (UInt32.toNat_inj.mp none)
  · exact absurd impossible (by decide)

def requiredRecordingFeatures : UInt64 := featureSampleJournal ||| featureDrdyTimestamps

variable (discovered : DiscoveredNode)

/-- `HandshakeRequirements::recording_node` with the services the plan adds. -/
def planRequirements : HandshakeRequirements where
  hardwareId := discovered.identity.hardwareId
  nodeAddress := discovered.nodeAddress
  boardRevision := discovered.identity.boardRevision
  requiredServices := ServiceId.identity.capabilityBit ||| ServiceId.measurement.capabilityBit |||
    ServiceId.lifecycle.capabilityBit ||| (ServiceId.time.capabilityBit |||
      ServiceId.configuration.capabilityBit)
  requiredFeatures := requiredRecordingFeatures
  requiredOutputRate := some discovered.outputRate
  schema1MigrationFirmware := none

def planSchedule (policy : PlanningPolicy) : NodeScheduleConfig where
  nodeAddress := discovered.nodeAddress
  outputRate := discovered.outputRate.rate
  journalCapacitySamples := discovered.capabilities.journalCapacitySamples
  maxSampleChunkSamples := discovered.capabilities.maxSampleChunkSamples
  targetChunkSamples :=
    if policy.targetChunkSamples ≤ discovered.capabilities.maxSampleChunkSamples then
      policy.targetChunkSamples
    else discovered.capabilities.maxSampleChunkSamples
  measurementSlot := policy.measurementSlot
  maximumServiceInterval := policy.maximumServiceInterval
  retryBaseDelay := policy.retryBaseDelay
  retryMaxDelay := policy.retryMaxDelay
  retryAttemptLimit := policy.retryAttemptLimit
  offlineProbeInterval := policy.offlineProbeInterval

def nodePlan (policy : PlanningPolicy) : Except ChannelStartupError NodeStartupPlan :=
  match discovered.configuration with
  | none => .error (.missingObservedConfiguration discovered.channelId discovered.nodeAddress)
  | some configuration =>
    match (planSchedule discovered policy).validate with
    | .error error => .error (.runtime error)
    | .ok _ => .ok {
      nodeAddress := discovered.nodeAddress
      requirements := planRequirements discovered
      schedule := planSchedule discovered policy
      configuration
      outputRateMask := discovered.capabilities.outputRateMask
      telemetry :=
        if discovered.capabilities.supportsService .telemetry then
          some { policy.telemetrySchedule with
            interval := ⟨secondsUs discovered.telemetryIntervalSeconds,
              secondsUs_ne_zero discovered.measured⟩ }
        else none
      scheduled := rfl }

/-- A plan before its admission, which the source fills with a placeholder. -/
structure PlanDraft where
  channelId : UInt8
  channelName : String
  nodes : List NodeStartupPlan

/-- The drafts with one for the channel of a node at the end. -/
def openDraft (drafts : List PlanDraft) (discovered : DiscoveredNode) : List PlanDraft :=
  if drafts.getLast?.all (·.channelId ≠ discovered.channelId) then
    drafts ++ [⟨discovered.channelId, discovered.channelName, []⟩]
  else drafts

/-- One turn of the loop over the inventory. -/
def placeNode (policy : PlanningPolicy) (drafts : List PlanDraft) (discovered : DiscoveredNode) :
    Except ChannelStartupError (List PlanDraft) :=
  let drafts := openDraft drafts discovered
  match drafts.getLast? with
  | none => .error .invariantViolation
  | some draft =>
    if draft.channelName ≠ discovered.channelName then
      .error (.inconsistentChannelIdentity discovered.channelId)
    else do
      let node ← nodePlan discovered policy
      .ok (drafts.dropLast ++ [{ draft with nodes := draft.nodes ++ [node] }])

def finishPlan (policy : PlanningPolicy) (draft : PlanDraft) :
    Except ChannelStartupError ChannelStartupPlan := do
  let report ← evaluatePlanAdmission policy.admission draft.nodes policy.toChannelStartupPolicy
  if fits : report.accepted = true then
    .ok ⟨draft.channelId, report, draft.nodes, policy.toChannelStartupPolicy, fits⟩
  else .error (.channelOverCapacity draft.channelId report)

def buildChannelStartupPlans (inventory : List DiscoveredNode) (policy : PlanningPolicy) :
    Except ChannelStartupError (List ChannelStartupPlan) := do
  let policy ← policy.validate
  let _ ← policy.admission.validate.mapError .admission
  let drafts ← inventory.foldlM (placeNode policy) []
  drafts.mapM (finishPlan policy)

/-- A node with another telemetry schedule. -/
def NodeStartupPlan.withTelemetry (telemetry : Option TelemetryScheduleConfig)
    (node : NodeStartupPlan) : NodeStartupPlan :=
  { node with telemetry }

namespace ChannelStartupPlan

/-- A plan with another telemetry schedule for one of its nodes. -/
def setTelemetry (plan : ChannelStartupPlan) (nodeAddress : UInt8)
    (telemetry : Option TelemetryScheduleConfig) : ChannelStartupPlan :=
  { plan with
    nodes := updateFirst (fun node => node.nodeAddress = nodeAddress)
      (·.withTelemetry telemetry) plan.nodes }

/-- The last part of `accept_telemetry_interval`, with the plan it leaves. -/
def changeTelemetry (plan : ChannelStartupPlan) (nodeAddress : UInt8)
    (previous telemetry : TelemetryScheduleConfig) :
    Except ChannelStartupError (AdmissionReport × TelemetryScheduleConfig) ×
      ChannelStartupPlan :=
  let changed := plan.setTelemetry nodeAddress (some telemetry)
  match plan.policy.admission.validate with
  | .error error => (.error (.admission error), changed)
  | .ok admission =>
    match evaluatePlanAdmission admission changed.nodes plan.policy with
    | .error error => (.error error, changed)
    | .ok report =>
      if fits : report.accepted = true then
        (.ok (report, telemetry), { changed with admission := report, accepted := fits })
      else match changed.node? nodeAddress with
        | none => (.error (.unknownNode nodeAddress), changed)
        | some _ =>
          (.error (.channelOverCapacity plan.channelId report),
            changed.setTelemetry nodeAddress (some previous))

/-- The part of `accept_telemetry_interval` behind `DurationMicros::new`. -/
def retimeTelemetry (plan : ChannelStartupPlan) (nodeAddress : UInt8)
    (previous : TelemetryScheduleConfig) : Except TransactionError DurationMicros →
    Except ChannelStartupError (AdmissionReport × TelemetryScheduleConfig) ×
      ChannelStartupPlan
  | .error _ => (.error .invalidTelemetryInterval, plan)
  | .ok interval =>
    match TelemetryScheduleConfig.validate { previous with interval } with
    | .error error => (.error (.runtime error), plan)
    | .ok telemetry => plan.changeTelemetry nodeAddress previous telemetry

def acceptTelemetryInterval (plan : ChannelStartupPlan) (nodeAddress : UInt8)
    (intervalSeconds : UInt32) :
    Except ChannelStartupError (AdmissionReport × TelemetryScheduleConfig) ×
      ChannelStartupPlan :=
  match plan.node? nodeAddress with
  | none => (.error (.unknownNode nodeAddress), plan)
  | some node =>
    match node.telemetry with
    | none => (.error (.telemetryUnavailable nodeAddress), plan)
    | some previous =>
      plan.retimeTelemetry nodeAddress previous (DurationMicros.new (secondsUs intervalSeconds))

end ChannelStartupPlan

def periodicPpm : Option PeriodicTraffic → Nat
  | none => 0
  | some traffic =>
    divCeil (traffic.transactionTime.value.toNat * partsPerMillion) traffic.interval.value.toNat

variable (demand : NodeTrafficDemand)

/-- The rounded parts of a channel's time that one node takes. -/
def NodeTrafficDemand.ppm : Nat :=
  measurementPpm demand + periodicPpm demand.timeSync + periodicPpm demand.health

def demandPpm (demands : List NodeTrafficDemand) : Nat := (demands.map (·.ppm)).sum

theorem checkedAdd128_eq_ok {left right sum : Nat} :
    checkedAdd128 left right = .ok sum ↔ left + right < 2 ^ 128 ∧ sum = left + right := by
  rw [checkedAdd128]
  split
  · rename_i fits
    rw [Except.ok.injEq]
    exact ⟨fun same => ⟨fits, same.symm⟩, fun both => both.2.symm⟩
  rename_i wraps
  exact ⟨nofun, fun both => absurd both.1 wraps⟩

theorem checkedAddPeriodic_eq_ok {current sum : Nat} {traffic : Option PeriodicTraffic}
    (bounded : current < 2 ^ 128) : checkedAddPeriodic current traffic = .ok sum ↔
      current + periodicPpm traffic < 2 ^ 128 ∧ sum = current + periodicPpm traffic := by
  cases traffic with
  | none =>
    rw [checkedAddPeriodic, periodicPpm, Except.ok.injEq, Nat.add_zero]
    exact ⟨fun same => ⟨bounded, same.symm⟩, fun both => both.2.symm⟩
  | some traffic => exact checkedAdd128_eq_ok

variable {demands : List NodeTrafficDemand} {policy : AdmissionPolicy}

theorem nominalPpm_eq_ok {nominal total : Nat} (bounded : nominal < 2 ^ 128) :
    nominalPpm nominal demands = .ok total ↔
      (∀ demand ∈ demands, demand.samplesPerChunk ≠ 0) ∧ nominal + demandPpm demands < 2 ^ 128 ∧
        total = nominal + demandPpm demands := by
  induction demands generalizing nominal with
  | nil =>
    rw [nominalPpm, Except.ok.injEq]
    constructor
    · rintro rfl
      exact ⟨nofun, bounded, rfl⟩
    · rintro ⟨-, -, same⟩
      exact same.symm
  | cons demand rest ih =>
    have sum : demandPpm (demand :: rest) = demand.ppm + demandPpm rest := by
      rw [demandPpm, map_cons, sum_cons, demandPpm]
    rw [nominalPpm, guard_eq_ok, forall_mem_cons, sum]
    simp only [bind_eq_ok, checkedAdd128_eq_ok]
    constructor
    · rintro ⟨samples, measured, ⟨fits, rfl⟩, timed, second, next, third, later⟩
      obtain ⟨fits, rfl⟩ := (checkedAddPeriodic_eq_ok fits).mp second
      obtain ⟨fits, rfl⟩ := (checkedAddPeriodic_eq_ok fits).mp third
      obtain ⟨all, fits, rfl⟩ := (ih fits).mp later
      have own : demand.ppm = measurementPpm demand + periodicPpm demand.timeSync +
        periodicPpm demand.health := rfl
      exact ⟨⟨samples, all⟩, by omega, by omega⟩
    rintro ⟨⟨samples, all⟩, fits, same⟩
    have own : demand.ppm = measurementPpm demand + periodicPpm demand.timeSync +
      periodicPpm demand.health := rfl
    have first : nominal + measurementPpm demand < 2 ^ 128 := by omega
    have second : nominal + measurementPpm demand + periodicPpm demand.timeSync < 2 ^ 128 := by
      omega
    have third : nominal + measurementPpm demand + periodicPpm demand.timeSync +
      periodicPpm demand.health < 2 ^ 128 := by omega
    refine ⟨samples, _, ⟨first, rfl⟩, _, (checkedAddPeriodic_eq_ok first).mpr ⟨second, rfl⟩, _,
      (checkedAddPeriodic_eq_ok second).mpr ⟨third, rfl⟩, (ih third).mpr ⟨all, ?_, ?_⟩⟩
    · omega
    · omega

theorem channelPpm_eq_ok {ppm : Nat} {value : UInt32} :
    channelPpm ppm = .ok value ↔ ppm < 2 ^ 32 ∧ value = ofNat ppm := by
  rw [channelPpm]
  split
  · rename_i fits
    rw [Except.ok.injEq]
    exact ⟨fun same => ⟨fits, same.symm⟩, fun both => both.2.symm⟩
  rename_i wraps
  exact ⟨nofun, fun both => absurd both.1 wraps⟩

variable {report : AdmissionReport} {validated : AdmissionPolicy}

/-- An evaluation sums the parts of all nodes and the reserve. -/
theorem evaluate_eq_ok : policy.evaluate demands = .ok report ↔
      (∀ demand ∈ demands, demand.samplesPerChunk ≠ 0) ∧
        demandPpm demands + policy.recoveryReservePpm.toNat < 2 ^ 32 ∧
        report = ⟨ofNat (demandPpm demands), policy.recoveryReservePpm,
          ofNat (demandPpm demands + policy.recoveryReservePpm.toNat),
          policy.maximumUtilizationPpm⟩ := by
  rw [AdmissionPolicy.evaluate]
  simp only [bind_eq_ok, nominalPpm_eq_ok (show 0 < 2 ^ 128 by decide), channelPpm_eq_ok,
    checkedAdd128_eq_ok, Nat.zero_add]
  constructor
  · rintro ⟨_, ⟨all, -, rfl⟩, _, ⟨-, rfl⟩, _, ⟨-, rfl⟩, _, ⟨fits, rfl⟩, done⟩
    exact ⟨all, fits, (Except.ok.inj done).symm⟩
  · rintro ⟨all, fits, rfl⟩
    exact ⟨_, ⟨all, by omega, rfl⟩, _, ⟨by omega, rfl⟩, _, ⟨by omega, rfl⟩, _, ⟨fits, rfl⟩, rfl⟩

/-- The exact parts per million that one kind of traffic takes. -/
def exactPeriodicPpm : Option PeriodicTraffic → ℚ
  | none => 0
  | some traffic => traffic.transactionTime.value.toNat * 1000000 / traffic.interval.value.toNat

/-- Rate times transaction over chunk, and transaction over interval. -/
def NodeTrafficDemand.exactPpm : ℚ :=
  demand.outputRate.nanohertz.toNat * demand.measurementTransactionTime.value.toNat /
      (demand.samplesPerChunk.toNat * 1000000000) +
    exactPeriodicPpm demand.timeSync + exactPeriodicPpm demand.health

theorem div_le_divCeil (numerator : Nat) {denominator : Nat} (positive : 0 < denominator) :
    (numerator : ℚ) / denominator ≤ divCeil numerator denominator := by
  rw [div_le_iff₀ (by exact_mod_cast positive)]
  exact_mod_cast le_divCeil_mul numerator positive

theorem exactPeriodicPpm_le (traffic : Option PeriodicTraffic) :
    exactPeriodicPpm traffic ≤ periodicPpm traffic := by
  cases traffic with
  | none => simp [exactPeriodicPpm, periodicPpm]
  | some traffic =>
    have positive : 0 < traffic.interval.value.toNat :=
      UInt64.pos_iff_ne_zero.mpr traffic.interval.nonzero
    have bound := div_le_divCeil (traffic.transactionTime.value.toNat * partsPerMillion) positive
    have million : (partsPerMillion : ℚ) = 1000000 := by norm_num [partsPerMillion]
    rw [Nat.cast_mul, million] at bound
    exact bound

theorem NodeTrafficDemand.exactPpm_le {demand : NodeTrafficDemand}
    (samples : demand.samplesPerChunk ≠ 0) : demand.exactPpm ≤ demand.ppm := by
  have positive : 0 < demand.samplesPerChunk.toNat * nanoPerUnit :=
    Nat.mul_pos (UInt16.pos_iff_ne_zero.mpr samples) (by decide)
  have measured := div_le_divCeil (demand.outputRate.nanohertz.toNat *
    demand.measurementTransactionTime.value.toNat) positive
  have nano : (nanoPerUnit : ℚ) = 1000000000 := by norm_num [nanoPerUnit]
  rw [Nat.cast_mul, Nat.cast_mul, nano] at measured
  have timed := exactPeriodicPpm_le demand.timeSync
  have health := exactPeriodicPpm_le demand.health
  rw [exactPpm, ppm, Nat.cast_add, Nat.cast_add]
  exact add_le_add (add_le_add measured timed) health

/-- The required parts are no less than the exact ones. -/
theorem exactPpm_le_required (evaluated : policy.evaluate demands = .ok report) :
    (demands.map (·.exactPpm)).sum + policy.recoveryReservePpm.toNat ≤
      report.requiredUtilizationPpm.toNat := by
  obtain ⟨all, fits, rfl⟩ := evaluate_eq_ok.mp evaluated
  have terms : (demands.map (·.exactPpm)).sum ≤ (demandPpm demands : ℚ) := by
    clear fits evaluated
    induction demands with
    | nil => simp [demandPpm]
    | cons demand rest ih =>
      rw [forall_mem_cons] at all
      rw [map_cons, sum_cons, demandPpm, map_cons, sum_cons, Nat.cast_add]
      exact add_le_add (NodeTrafficDemand.exactPpm_le all.1) (ih all.2)
  rw [toNat_ofNat_of_lt' (show _ < 2 ^ 32 from fits), Nat.cast_add]
  exact add_le_add_left terms _

/-- What the worker calls on a plan. -/
inductive PlanCall where
  | acceptConfiguration (nodeAddress : UInt8) (observed : ObservedConfiguration)
  | acceptTelemetryInterval (nodeAddress : UInt8) (intervalSeconds : UInt32)

namespace ChannelStartupPlan

/-- The result of a call and the plan it leaves. -/
def perform (plan : ChannelStartupPlan) :
    PlanCall → Except ChannelStartupError Unit × ChannelStartupPlan
  | .acceptConfiguration nodeAddress observed =>
    match plan.acceptConfiguration nodeAddress observed with
    | .error error => (.error error, plan)
    | .ok candidate => (.ok (), candidate)
  | .acceptTelemetryInterval nodeAddress intervalSeconds =>
    match plan.acceptTelemetryInterval nodeAddress intervalSeconds with
    | (.error error, left) => (.error error, left)
    | (.ok _, left) => (.ok (), left)

def performAll (plan : ChannelStartupPlan) (calls : List PlanCall) : ChannelStartupPlan :=
  calls.foldl (fun plan call => (plan.perform call).2) plan

/-- The stored admission is the evaluation of the nodes under a validated policy. -/
structure Sound (plan : ChannelStartupPlan) : Prop where
  validated : plan.policy.admission.validate = .ok plan.policy.admission
  evaluated : evaluatePlanAdmission plan.policy.admission plan.nodes plan.policy =
    .ok plan.admission

end ChannelStartupPlan

theorem AdmissionPolicy.validate_eq_ok :
    policy.validate = .ok validated ↔ policy.maximumUtilizationPpm ≠ 0 ∧
      policy.maximumUtilizationPpm.toNat ≤ partsPerMillion ∧
      policy.recoveryReservePpm < policy.maximumUtilizationPpm ∧ validated = policy := by
  rw [validate, guard_eq_ok, guard_eq_ok, Except.ok.injEq]
  constructor
  · rintro ⟨bounded, reserved, same⟩
    rw [not_or, Nat.not_lt] at bounded
    exact ⟨bounded.1, bounded.2, UInt32.not_le.mp reserved, same.symm⟩
  · rintro ⟨some, bounded, reserved, same⟩
    exact ⟨fun wrong => wrong.elim some (Nat.not_lt.mpr bounded), UInt32.not_le.mpr reserved,
      same.symm⟩

theorem AdmissionPolicy.validate_self (valid : policy.validate = .ok validated) :
    policy.validate = .ok policy := by
  obtain ⟨-, -, -, rfl⟩ := validate_eq_ok.mp valid
  exact valid

/-- What the source's placeholder becomes. -/
theorem finishPlan_sound {policy : PlanningPolicy} {draft : PlanDraft} {plan : ChannelStartupPlan}
    (validated : policy.admission.validate = .ok policy.admission)
    (finished : finishPlan policy draft = .ok plan) :
    plan.Sound ∧ plan.policy = policy.toChannelStartupPolicy := by
  obtain ⟨report, evaluated, rest⟩ := bind_eq_ok.mp finished
  split at rest
  · cases rest
    exact ⟨⟨validated, evaluated⟩, rfl⟩
  · cases rest

theorem PlanningPolicy.validate_admission {policy validated : PlanningPolicy}
    (valid : policy.validate = .ok validated) :
    policy.admission.validate = .ok policy.admission ∧ validated = policy := by
  obtain ⟨admission, checked, rest⟩ := bind_eq_ok.mp valid
  simp only [guard_eq_ok, bind_eq_ok] at rest
  obtain ⟨-, -, -, -, -, -, -, done⟩ := rest
  exact ⟨AdmissionPolicy.validate_self (mapError_eq_ok.mp checked), (Except.ok.inj done).symm⟩

/-- A mapped plan comes from one of the drafts. -/
theorem exists_of_mem_mapM {ε α β : Type} {step : α → Except ε β} {entries : List α}
    {results : List β} {result : β} (mapped : entries.mapM step = .ok results)
    (member : result ∈ results) : ∃ entry ∈ entries, step entry = .ok result := by
  induction entries generalizing results with
  | nil =>
    rw [mapM_nil] at mapped
    cases mapped
    exact nomatch member
  | cons entry rest ih =>
    rw [mapM_cons] at mapped
    obtain ⟨first, here, mapped⟩ := bind_eq_ok.mp mapped
    obtain ⟨others, later, mapped⟩ := bind_eq_ok.mp mapped
    cases mapped
    rcases mem_cons.mp member with rfl | behind
    · exact ⟨entry, mem_cons_self, here⟩
    · obtain ⟨found, inside, same⟩ := ih later behind
      exact ⟨found, mem_cons_of_mem _ inside, same⟩

theorem buildChannelStartupPlans_sound {inventory : List DiscoveredNode} {policy : PlanningPolicy}
    {plans : List ChannelStartupPlan} {plan : ChannelStartupPlan}
    (built : buildChannelStartupPlans inventory policy = .ok plans) (member : plan ∈ plans) :
    plan.Sound ∧ plan.policy = policy.toChannelStartupPolicy := by
  obtain ⟨validated, checked, rest⟩ := bind_eq_ok.mp built
  obtain ⟨valid, rfl⟩ := PlanningPolicy.validate_admission checked
  obtain ⟨_, -, rest⟩ := bind_eq_ok.mp rest
  obtain ⟨drafts, -, finished⟩ := bind_eq_ok.mp rest
  obtain ⟨draft, -, same⟩ := exists_of_mem_mapM finished member
  exact finishPlan_sound valid same

namespace ChannelStartupPlan

theorem demand_accept (policy : ChannelStartupPolicy) (observed : ObservedConfiguration)
    (node : NodeStartupPlan) : (accept observed node).demand policy =
      (node.atRate observed.desired.outputRate.rate).demand policy := rfl

variable {nodeAddress : UInt8} {plan left : ChannelStartupPlan}
  {telemetry : TelemetryScheduleConfig} {node : NodeStartupPlan}
  {result : Except ChannelStartupError (AdmissionReport × TelemetryScheduleConfig)}

/-- An accepted configuration leaves a sound plan. -/
theorem Sound.acceptConfiguration {candidate : ChannelStartupPlan}
    {observed : ObservedConfiguration} (sound : plan.Sound)
    (accepts : plan.acceptConfiguration nodeAddress observed = .ok candidate) :
    candidate.Sound ∧ candidate.policy = plan.policy := by
  obtain ⟨_, -, rest⟩ := bind_eq_ok.mp accepts
  obtain ⟨report, previewed, adopted⟩ := bind_eq_ok.mp rest
  obtain ⟨_, -, previewed⟩ := bind_eq_ok.mp previewed
  rw [adopt] at adopted
  split at adopted
  · cases found : plan.node? nodeAddress with
    | none =>
      rw [found] at adopted
      cases adopted
    | some node =>
      rw [found] at adopted previewed
      obtain ⟨-, previewed⟩ := guard_eq_ok.mp previewed
      obtain ⟨admission, valid, evaluated⟩ := bind_eq_ok.mp previewed
      obtain ⟨-, -, -, rfl⟩ := AdmissionPolicy.validate_eq_ok.mp (mapError_eq_ok.mp valid)
      cases adopted
      refine ⟨⟨sound.validated, ?_⟩, rfl⟩
      have same := map_updateFirst_congr (fun node => node.nodeAddress = nodeAddress)
        plan.nodes (demand_accept plan.policy observed)
      rw [evaluatePlanAdmission] at evaluated ⊢
      exact (congrArg (fun demands => (plan.policy.admission.evaluate demands).mapError
        ChannelStartupError.admission) same).trans evaluated
  · cases adopted

theorem divCeil_le_million {slot interval : DurationMicros} (fits : slot.value ≤ interval.value) :
    periodicPpm (some ⟨slot, interval⟩) ≤ partsPerMillion := by
  have bound : slot.value.toNat ≤ interval.value.toNat := fits
  exact divCeil_le (by rw [Nat.mul_comm]; exact Nat.mul_le_mul_left _ bound)

/-- Another telemetry schedule adds at most its own part to a node. -/
theorem demand_withTelemetry_ppm (policy : ChannelStartupPolicy) (node : NodeStartupPlan)
    (fits : telemetry.estimatedSlot.value ≤ telemetry.interval.value) :
    ((node.withTelemetry (some telemetry)).demand policy).ppm ≤
      (node.demand policy).ppm + partsPerMillion := by
  have added := divCeil_le_million fits
  have same : ((node.withTelemetry (some telemetry)).demand policy).ppm =
    measurementPpm (node.demand policy) + periodicPpm (node.demand policy).timeSync +
      periodicPpm (some ⟨telemetry.estimatedSlot, telemetry.interval⟩) := rfl
  rw [same, NodeTrafficDemand.ppm]
  omega

/-- The parts of a sound plan and its reserve fit into a channel. -/
theorem Sound.fits (sound : plan.Sound) :
    (∀ demand ∈ plan.nodes.map (·.demand plan.policy), demand.samplesPerChunk ≠ 0) ∧
      demandPpm (plan.nodes.map (·.demand plan.policy)) +
        plan.policy.admission.recoveryReservePpm.toNat ≤ partsPerMillion := by
  obtain ⟨-, limit, -, -⟩ := AdmissionPolicy.validate_eq_ok.mp sound.validated
  obtain ⟨samples, fits, same⟩ := evaluate_eq_ok.mp (mapError_eq_ok.mp sound.evaluated)
  have accepted := plan.accepted
  rw [same] at accepted
  have within : (ofNat _).toNat ≤ _ := of_decide_eq_true accepted
  rw [toNat_ofNat_of_lt' (show _ < 2 ^ 32 from fits)] at within
  exact ⟨samples, within.trans limit⟩

theorem demandPpm_setTelemetry_le (plan : ChannelStartupPlan) (nodeAddress : UInt8)
    (fits : telemetry.estimatedSlot.value ≤ telemetry.interval.value) :
    demandPpm ((plan.setTelemetry nodeAddress (some telemetry)).nodes.map
      (·.demand plan.policy)) ≤
        demandPpm (plan.nodes.map (·.demand plan.policy)) + partsPerMillion := by
  have sums : ((plan.setTelemetry nodeAddress (some telemetry)).nodes.map
      fun node => (node.demand plan.policy).ppm).sum ≤
        (plan.nodes.map fun node => (node.demand plan.policy).ppm).sum + partsPerMillion :=
    sum_updateFirst_le plan.nodes fun node => demand_withTelemetry_ppm plan.policy node fits
  rw [demandPpm, demandPpm, map_map, map_map]
  exact sums

/-- The evaluation behind a change of telemetry cannot fail. -/
theorem Sound.evaluates (sound : plan.Sound) (nodeAddress : UInt8)
    (valid : telemetry.estimatedSlot.value ≤ telemetry.interval.value) :
    ∃ report, evaluatePlanAdmission plan.policy.admission
      (plan.setTelemetry nodeAddress (some telemetry)).nodes plan.policy = .ok report := by
  obtain ⟨samples, fits⟩ := sound.fits
  have grown := plan.demandPpm_setTelemetry_le nodeAddress valid
  have room : partsPerMillion + partsPerMillion < 2 ^ 32 := by decide
  refine ⟨_, mapError_eq_ok.mpr (evaluate_eq_ok.mpr ⟨?_, ?_, rfl⟩)⟩
  case refine_2 => omega
  -- The chunks of a node do not follow its telemetry.
  intro demand member
  obtain ⟨node, inside, rfl⟩ := mem_map.mp member
  rcases mem_updateFirst inside with old | ⟨old, found, rfl⟩
  · exact samples _ (mem_map_of_mem old)
  have planned : old.demand plan.policy ∈ plan.nodes.map (·.demand plan.policy) :=
    mem_map_of_mem (mem_of_find?_eq_some found)
  have same : ((old.withTelemetry (some telemetry)).demand plan.policy).samplesPerChunk =
    (old.demand plan.policy).samplesPerChunk := rfl
  rw [same]
  exact samples _ planned

/-- The previous telemetry gives the plan back. -/
theorem setTelemetry_restores (found : plan.node? nodeAddress = some node)
    (telemetry : Option TelemetryScheduleConfig) :
    (plan.setTelemetry nodeAddress telemetry).setTelemetry nodeAddress node.telemetry = plan := by
  have keeps : ∀ node : NodeStartupPlan, decide (node.nodeAddress = nodeAddress) = true →
      decide ((node.withTelemetry telemetry).nodeAddress = nodeAddress) = true := fun _ here => here
  have nodes : ((plan.setTelemetry nodeAddress telemetry).setTelemetry nodeAddress
      node.telemetry).nodes = plan.nodes := by
    rw [setTelemetry, setTelemetry]
    exact (updateFirst_updateFirst plan.nodes keeps).trans (updateFirst_eq_self found rfl)
  exact congrArg (fun nodes => { plan with nodes }) nodes

theorem node?_setTelemetry (plan : ChannelStartupPlan) (nodeAddress : UInt8)
    (telemetry : Option TelemetryScheduleConfig) :
    (plan.setTelemetry nodeAddress telemetry).node? nodeAddress =
      (plan.node? nodeAddress).map (·.withTelemetry telemetry) :=
  find?_updateFirst plan.nodes fun _ here => here

variable {previous : TelemetryScheduleConfig} (sound : plan.Sound)
  (found : plan.node? nodeAddress = some node)

include sound found

/-- A telemetry change leaves a sound plan. -/
theorem Sound.changeTelemetry (stored : node.telemetry = some previous)
    (valid : telemetry.estimatedSlot.value ≤ telemetry.interval.value)
    (called : plan.changeTelemetry nodeAddress previous telemetry = (result, left)) :
    (∃ error, result = .error error ∧ left = plan) ∨
      ((∃ value, result = .ok value) ∧ left.Sound ∧ left.policy = plan.policy) := by
  obtain ⟨report, evaluated⟩ := sound.evaluates nodeAddress valid
  have there := plan.node?_setTelemetry nodeAddress (some telemetry)
  rw [found, Option.map_some] at there
  unfold ChannelStartupPlan.changeTelemetry at called
  simp only [sound.validated, evaluated, there] at called
  split at called
  · rename_i fits
    cases called
    exact .inr ⟨⟨_, rfl⟩, ⟨sound.validated, evaluated⟩, rfl⟩
  · -- The exit over capacity puts the previous schedule back.
    cases called
    exact .inl ⟨_, rfl, stored ▸ setTelemetry_restores found _⟩

theorem Sound.retimeTelemetry {interval : Except TransactionError DurationMicros}
    (stored : node.telemetry = some previous)
    (called : plan.retimeTelemetry nodeAddress previous interval = (result, left)) :
    (∃ error, result = .error error ∧ left = plan) ∨
      ((∃ value, result = .ok value) ∧ left.Sound ∧ left.policy = plan.policy) := by
  unfold ChannelStartupPlan.retimeTelemetry at called
  split at called
  · cases called
    exact .inl ⟨_, rfl, rfl⟩
  split at called
  · cases called
    exact .inl ⟨_, rfl, rfl⟩
  rename_i telemetry checked
  obtain ⟨valid, same⟩ := guard_eq_ok.mp checked
  exact sound.changeTelemetry found stored (Except.ok.inj same ▸ UInt64.not_lt.mp valid) called

omit found

theorem Sound.acceptTelemetryInterval {intervalSeconds : UInt32}
    (called : plan.acceptTelemetryInterval nodeAddress intervalSeconds = (result, left)) :
    (∃ error, result = .error error ∧ left = plan) ∨
      ((∃ value, result = .ok value) ∧ left.Sound ∧ left.policy = plan.policy) := by
  unfold ChannelStartupPlan.acceptTelemetryInterval at called
  split at called
  · cases called
    exact .inl ⟨_, rfl, rfl⟩
  rename_i node found
  split at called
  · cases called
    exact .inl ⟨_, rfl, rfl⟩
  rename_i previous stored
  exact sound.retimeTelemetry found stored called

/-- A failed call leaves the plan, another one a sound plan. -/
theorem Sound.perform (call : PlanCall) :
    (plan.perform call).2.Sound ∧ (plan.perform call).2.policy = plan.policy ∧
      ∀ error, (plan.perform call).1 = .error error → (plan.perform call).2 = plan := by
  cases call with
  | acceptConfiguration nodeAddress observed =>
    rw [ChannelStartupPlan.perform]
    cases accepted : plan.acceptConfiguration nodeAddress observed with
    | error error => exact ⟨sound, rfl, fun _ _ => rfl⟩
    | ok candidate =>
      obtain ⟨kept, policy⟩ := sound.acceptConfiguration accepted
      exact ⟨kept, policy, nofun⟩
  | acceptTelemetryInterval nodeAddress intervalSeconds =>
    rw [ChannelStartupPlan.perform]
    cases called : plan.acceptTelemetryInterval nodeAddress intervalSeconds with
    | mk result left =>
      rcases sound.acceptTelemetryInterval called with
        ⟨error, rfl, rfl⟩ | ⟨⟨_, rfl⟩, kept, policy⟩
      · exact ⟨sound, rfl, fun _ _ => rfl⟩
      · exact ⟨kept, policy, nofun⟩

theorem Sound.performAll (calls : List PlanCall) :
    (plan.performAll calls).Sound ∧ (plan.performAll calls).policy = plan.policy := by
  induction calls generalizing plan with
  | nil => exact ⟨sound, rfl⟩
  | cons call calls ih =>
    obtain ⟨kept, policy, -⟩ := sound.perform call
    obtain ⟨reached, same⟩ := ih kept
    exact ⟨reached, same.trans policy⟩

omit sound

/-- The exact parts per million of the time that a plan takes, with the recovery reserve. -/
def exactUtilizationPpm (plan : ChannelStartupPlan) : ℚ :=
  (plan.nodes.map fun node => (node.demand plan.policy).exactPpm).sum +
    plan.policy.admission.recoveryReservePpm.toNat

theorem Sound.exactUtilizationPpm_le (sound : plan.Sound) :
    plan.exactUtilizationPpm ≤ plan.admission.requiredUtilizationPpm.toNat := by
  have bound := exactPpm_le_required (mapError_eq_ok.mp sound.evaluated)
  rw [map_map] at bound
  exact bound

/-- After any calls the admission of a built plan is the accepted evaluation of its nodes, it
bounds their exact utilisation, and a call that fails changes nothing. -/
theorem admission_sound_after_calls {inventory : List DiscoveredNode} {policy : PlanningPolicy}
    {plans : List ChannelStartupPlan} {plan : ChannelStartupPlan}
    (built : buildChannelStartupPlans inventory policy = .ok plans) (member : plan ∈ plans)
    (calls : List PlanCall) : evaluatePlanAdmission policy.admission (plan.performAll calls).nodes
        policy.toChannelStartupPolicy = .ok (plan.performAll calls).admission ∧
      (plan.performAll calls).admission.accepted = true ∧
      (plan.performAll calls).exactUtilizationPpm ≤
        (plan.performAll calls).admission.requiredUtilizationPpm.toNat ∧
      ∀ call error, ((plan.performAll calls).perform call).1 = .error error →
        ((plan.performAll calls).perform call).2 = plan.performAll calls := by
  obtain ⟨sound, own⟩ := buildChannelStartupPlans_sound built member
  obtain ⟨reached, same⟩ := sound.performAll calls
  have evaluated := reached.evaluated
  rw [same, own] at evaluated
  exact ⟨evaluated, (plan.performAll calls).accepted, reached.exactUtilizationPpm_le,
    fun call => (reached.perform call).2.2⟩

end ChannelStartupPlan

/-- An installation of one node at 125 Hz that reports its health once a minute. -/
def oneNodeInventory : List DiscoveredNode := [{
  channelName := "north"
  channelId := 1
  nodeAddress := 5
  outputRate := .hz125
  telemetryIntervalSeconds := 60
  identity := ⟨Vector.replicate 8 1, 1, 5, 2, ⟨1, 0, 0⟩, localProtocolVersion⟩
  capabilities := ⟨2, 0xffffffff, requiredRecordingFeatures, 1024, 4096, 0xffff, 64⟩
  configuration := some ⟨1, ⟨.hz125, 2, 0, .balanced, 30, 0, 0, 0⟩, .hz125, 1⟩
  measured := by decide }]

def oneNodePolicy : PlanningPolicy where
  admission := ⟨800000, 100000⟩
  measurementTransactionTime := ⟨9000, by decide⟩
  timeSyncTransactionTime := ⟨3000, by decide⟩
  timeSyncSchedule := ⟨⟨10000000, by decide⟩, ⟨4000, by decide⟩, ⟨100000, by decide⟩⟩
  targetChunkSamples := 32
  measurementSlot := ⟨12000, by decide⟩
  maximumServiceInterval := ⟨500000, by decide⟩
  retryBaseDelay := ⟨10000, by decide⟩
  retryMaxDelay := ⟨100000, by decide⟩
  retryAttemptLimit := 3
  offlineProbeInterval := .second
  telemetrySchedule := ⟨⟨60000000, by decide⟩, ⟨900000, by decide⟩, ⟨100000, by decide⟩⟩

/-- Half a minute fits into the channel; one second does not and is put back. -/
theorem ChannelStartupPlan.admission_sound_after_calls_of_one_node : ∃ plan : ChannelStartupPlan,
      buildChannelStartupPlans oneNodeInventory oneNodePolicy = .ok [plan] ∧
        (let reached := plan.performAll
          [.acceptTelemetryInterval 5 30, .acceptTelemetryInterval 5 1]
        evaluatePlanAdmission oneNodePolicy.admission reached.nodes
            oneNodePolicy.toChannelStartupPolicy = .ok reached.admission ∧
          reached.admission.accepted = true ∧
          reached.exactUtilizationPpm ≤ reached.admission.requiredUtilizationPpm.toNat ∧
          ∀ call error, (reached.perform call).1 = .error error →
            (reached.perform call).2 = reached) := by
  have one : ((buildChannelStartupPlans oneNodeInventory oneNodePolicy).map List.length).toOption =
      some 1 := by decide
  cases built : buildChannelStartupPlans oneNodeInventory oneNodePolicy with
  | error error =>
    rw [built] at one
    exact nomatch one
  | ok plans =>
    rw [built] at one
    obtain ⟨plan, rfl⟩ := List.length_eq_one_iff.mp (Option.some.inj one)
    exact ⟨plan, rfl, admission_sound_after_calls built List.mem_cons_self _⟩

end SensorSystem.Host
