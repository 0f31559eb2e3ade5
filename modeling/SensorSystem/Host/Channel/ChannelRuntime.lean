import SensorSystem.Base.Entries
import SensorSystem.Host.Channel.ChannelScheduler

/-! `channel_runtime.rs`: the schedule of the nodes on one channel. One dispatch is active at a
time; a measurement whose data is being stored leaves the channel and stays in flight. The buffer
of candidates that the source reuses is left out. A call returns its result with the runtime it
leaves, since a failing call may already have changed something. -/

namespace SensorSystem.Host

open Base
open Framing (hostAddress broadcastAddress)

/-- `SampleRate`: a positive frequency in nanohertz. -/
@[ext] structure SampleRate where
  nanohertz : UInt64
  nonzero : nanohertz ≠ 0
deriving Repr

instance : DecidableEq SampleRate := fun _ _ => decidable_of_iff _ SampleRate.ext_iff.symm

def nanoHertzMicrosPerSample : Nat := 1000000000000000

inductive ChannelRuntimeError where
  | zeroNodeCapacity
  | nodeCapacityReached
  | invalidNodeAddress (address : UInt8)
  | duplicateNode (address : UInt8)
  | duplicateTimeSync (address : UInt8)
  | duplicateTelemetry (address : UInt8)
  | telemetryNotConfigured (address : UInt8)
  | unknownNode (address : UInt8)
  | zeroJournalCapacity
  | invalidChunkSize
  | invalidTargetChunkSize
  | slotExceedsServiceInterval
  | invalidRetryDelays
  | zeroRetryLimit
  | timeSyncSlotExceedsInterval
  | telemetrySlotExceedsInterval
  | receivedAheadOfProduced
  | streamRegressed
  | recoveryNotRequired (address : UInt8)
  | recoveryRequired (address : UInt8)
  | resumeWhileActive
  | reconfigurationWhileActive
  | resumeCursorMismatch (nodeAddress : UInt8) (scheduled recovered : SequenceCursor)
  | staleDispatch
  | unifiedDispatchRequired
  | clockRegressed
  | timeOverflow
  | workIdExhausted
  | invariantViolation
  | scheduler (error : SchedulerError)
deriving DecidableEq

structure NodeScheduleConfig where
  nodeAddress : UInt8
  outputRate : SampleRate
  journalCapacitySamples : UInt32
  maxSampleChunkSamples : UInt16
  targetChunkSamples : UInt16
  measurementSlot : DurationMicros
  maximumServiceInterval : DurationMicros
  retryBaseDelay : DurationMicros
  retryMaxDelay : DurationMicros
  retryAttemptLimit : UInt8
  offlineProbeInterval : DurationMicros
deriving DecidableEq

variable (config : NodeScheduleConfig)

def NodeScheduleConfig.validate : Except ChannelRuntimeError NodeScheduleConfig :=
  if config.nodeAddress = hostAddress ∨ config.nodeAddress = broadcastAddress then
    .error (.invalidNodeAddress config.nodeAddress)
  else if config.journalCapacitySamples = 0 then .error .zeroJournalCapacity
  else if config.maxSampleChunkSamples = 0 ∨
      config.maxSampleChunkSamples.toUInt32 > config.journalCapacitySamples then
    .error .invalidChunkSize
  else if config.targetChunkSamples = 0 ∨
      config.targetChunkSamples > config.maxSampleChunkSamples then
    .error .invalidTargetChunkSize
  else if config.measurementSlot.value > config.maximumServiceInterval.value then
    .error .slotExceedsServiceInterval
  else if config.retryBaseDelay.value > config.retryMaxDelay.value then
    .error .invalidRetryDelays
  else if config.retryAttemptLimit = 0 then .error .zeroRetryLimit
  else .ok config

structure MeasurementProgress where
  received : SequenceCursor
  produced : SequenceCursor

variable (progress : MeasurementProgress)

def MeasurementProgress.validate : Except ChannelRuntimeError MeasurementProgress :=
  if progress.received > progress.produced then .error .receivedAheadOfProduced
  else .ok progress

structure MeasurementDispatch where
  workId : UInt64
  nodeAddress : UInt8
  maxSamples : UInt16
deriving DecidableEq

/-- A dispatch without further data. -/
structure WorkDispatch where
  workId : UInt64
  nodeAddress : UInt8
deriving DecidableEq

abbrev RecoveryDispatch := WorkDispatch
abbrev TimeSyncDispatch := WorkDispatch
abbrev TelemetryDispatch := WorkDispatch

inductive ChannelDispatch where
  | measurement (dispatch : MeasurementDispatch)
  | recovery (dispatch : RecoveryDispatch)
  | timeSync (dispatch : TimeSyncDispatch)
  | telemetry (dispatch : TelemetryDispatch)
deriving DecidableEq

namespace ChannelDispatch

def workId : ChannelDispatch → UInt64
  | measurement dispatch => dispatch.workId
  | recovery dispatch => dispatch.workId
  | timeSync dispatch => dispatch.workId
  | telemetry dispatch => dispatch.workId

def nodeAddress : ChannelDispatch → UInt8
  | measurement dispatch => dispatch.nodeAddress
  | recovery dispatch => dispatch.nodeAddress
  | timeSync dispatch => dispatch.nodeAddress
  | telemetry dispatch => dispatch.nodeAddress

end ChannelDispatch

inductive RecoveryCause where
  | streamChanged
  | invalidRelease
  | invalidResponse
  | streamRegressed
deriving DecidableEq

inductive OfflineCause where
  | unresponsive
  | recovery (cause : RecoveryCause)
deriving DecidableEq

inductive NodeAvailability where
  | online
  | retryBackoff (failures : UInt8)
  | recovering (cause : RecoveryCause) (failures : UInt8)
  | offline (cause : OfflineCause) (failures : UInt8)
deriving DecidableEq

namespace NodeAvailability

def failures : NodeAvailability → UInt8
  | online => 0
  | retryBackoff failures => failures
  | recovering _ failures => failures
  | offline _ failures => failures

def recoveryCause : NodeAvailability → Option RecoveryCause
  | recovering cause _ => some cause
  | offline (.recovery cause) _ => some cause
  | _ => none

def allowsAuxiliary : NodeAvailability → Bool
  | online => true
  | retryBackoff _ => true
  | _ => false

end NodeAvailability

/-- `TimeSyncScheduleConfig` and `TelemetryScheduleConfig`. -/
structure ServiceScheduleConfig where
  interval : DurationMicros
  estimatedSlot : DurationMicros
  retryDelay : DurationMicros
deriving DecidableEq

abbrev TimeSyncScheduleConfig := ServiceScheduleConfig
abbrev TelemetryScheduleConfig := ServiceScheduleConfig

def ServiceScheduleConfig.validateOr (error : ChannelRuntimeError)
    (config : ServiceScheduleConfig) : Except ChannelRuntimeError ServiceScheduleConfig :=
  if config.estimatedSlot.value > config.interval.value then .error error else .ok config

def TimeSyncScheduleConfig.validate (config : TimeSyncScheduleConfig) :
    Except ChannelRuntimeError TimeSyncScheduleConfig :=
  config.validateOr .timeSyncSlotExceedsInterval

def TelemetryScheduleConfig.validate (config : TelemetryScheduleConfig) :
    Except ChannelRuntimeError TelemetryScheduleConfig :=
  config.validateOr .telemetrySlotExceedsInterval

/-- `TimeSyncScheduleState` and `TelemetryScheduleState`. -/
structure ServiceScheduleState where
  nodeAddress : UInt8
  config : ServiceScheduleConfig
  deadline : MonotonicMicros
  readyAt : MonotonicMicros
  queuedAt : MonotonicMicros
  workId : UInt64
  inFlight : Bool
deriving DecidableEq

def ServiceScheduleState.candidate (class_ : TrafficClass) (state : ServiceScheduleState) :
    Option WorkCandidate :=
  if state.inFlight then none
  else some {
    workId := state.workId
    nodeAddress := state.nodeAddress
    class_
    readyAt := state.readyAt
    deadline := some state.deadline
    queuedAt := state.queuedAt
    timeToOverflowUs := none
    estimatedSlot := state.config.estimatedSlot }

structure NodeScheduleState where
  config : NodeScheduleConfig
  received : SequenceCursor
  observedProduced : SequenceCursor
  observedAt : MonotonicMicros
  serviceDeadline : MonotonicMicros
  readyAt : MonotonicMicros
  queuedAt : MonotonicMicros
  availability : NodeAvailability
  workId : UInt64
  inFlight : Bool
deriving DecidableEq

def divCeil (numerator denominator : Nat) : Nat :=
  numerator / denominator + if numerator % denominator = 0 then 0 else 1

theorem le_divCeil_mul (numerator : Nat) {denominator : Nat} (positive : 0 < denominator) :
    numerator ≤ divCeil numerator denominator * denominator := by
  have whole := Nat.div_add_mod numerator denominator
  have rest := Nat.mod_lt numerator positive
  rw [divCeil, Nat.add_mul, Nat.mul_comm (numerator / denominator)]
  split
  · omega
  · omega

theorem divCeil_le {numerator denominator limit : Nat}
    (fits : numerator ≤ limit * denominator) : divCeil numerator denominator ≤ limit := by
  have quotient : numerator / denominator ≤ limit := Nat.div_le_of_le_mul
    (by rw [Nat.mul_comm]; exact fits)
  rw [divCeil]
  split
  · exact quotient
  rename_i rest
  have whole := Nat.div_add_mod numerator denominator
  have below : numerator / denominator ≠ limit := by
    rintro rfl
    rw [Nat.mul_comm] at fits
    omega
  omega

/-- A number of microseconds as `u64::try_from` and `unwrap_or(u64::MAX)` give it. -/
def clampMicros (micros : Nat) : UInt64 := UInt64.ofNat (min micros (2 ^ 64 - 1))

namespace NodeScheduleState

variable (node : NodeScheduleState)

def address : UInt8 := node.config.nodeAddress

def timeToOverflowUs (now : MonotonicMicros) : Except ChannelRuntimeError UInt64 :=
  if now < node.observedAt then .error .clockRegressed
  else
    let rate := node.config.outputRate.nanohertz.toNat
    let elapsed := now.toNat - node.observedAt.toNat
    let producedSince := divCeil (rate * elapsed) nanoHertzMicrosPerSample
    let backlog := node.observedProduced.toNat + producedSince - node.received.toNat
    let capacity := node.config.journalCapacitySamples.toNat
    .ok (clampMicros (nanoHertzMicrosPerSample * (capacity - min backlog capacity) / rate))

def candidate (now : MonotonicMicros) : Except ChannelRuntimeError (Option WorkCandidate) :=
  if node.inFlight then .ok none
  else if node.availability.recoveryCause.isSome then
    .ok (some {
      workId := node.workId
      nodeAddress := node.config.nodeAddress
      class_ := .control
      readyAt := node.readyAt
      deadline := some node.readyAt
      queuedAt := node.queuedAt
      timeToOverflowUs := none
      estimatedSlot := node.config.measurementSlot })
  else do
    let timeToOverflowUs ← node.timeToOverflowUs now
    .ok (some {
      workId := node.workId
      nodeAddress := node.config.nodeAddress
      class_ := .measurement
      readyAt := node.readyAt
      deadline := some node.serviceDeadline
      queuedAt := node.queuedAt
      timeToOverflowUs := some timeToOverflowUs
      estimatedSlot := node.config.measurementSlot })

end NodeScheduleState

/-- The loop of `exponential_delay`; its delays are positive. -/
def exponentialDelay (base maximum : DurationMicros) (failureCount : UInt8) : UInt64 :=
  let doubled := (List.range (failureCount.toNat - 1)).foldl
    (fun delay _ => min (min (delay * 2) (2 ^ 64 - 1)) maximum.value.toNat) base.value.toNat
  UInt64.ofNat (min doubled maximum.value.toNat)

def nextMeasurementReadyAt (now : MonotonicMicros) : Except ChannelRuntimeError MonotonicMicros :=
  let backlog := progress.produced.toNat - progress.received.toNat
  let missing := config.targetChunkSamples.toNat - backlog
  let fillTime := nanoHertzMicrosPerSample * missing / config.outputRate.nanohertz.toNat
  let latestSafeStart := config.maximumServiceInterval.value - config.measurementSlot.value
  match checkedAdd now (min (clampMicros fillTime) latestSafeStart) with
  | some readyAt => .ok readyAt
  | none => .error .timeOverflow

structure ChannelRuntime where
  scheduler : ChannelScheduler
  observability : ObservabilityProfile
  maxNodes : Nat
  nextWorkId : UInt64
  nodes : List NodeScheduleState
  timeSync : List ServiceScheduleState
  telemetry : List ServiceScheduleState
  activeDispatch : Option ChannelDispatch
deriving DecidableEq

abbrev ScheduleResult (α : Type) := Except ChannelRuntimeError α × ChannelRuntime

/-- `max(1)` on a work id. -/
def atLeastOne (value : UInt64) : UInt64 := if value = 0 then 1 else value

def checkedTime (now : MonotonicMicros) (delay : UInt64) :
    Except ChannelRuntimeError MonotonicMicros :=
  match checkedAdd now delay with
  | some time => .ok time
  | none => .error .timeOverflow

namespace ChannelRuntime

def new (scheduler : ChannelScheduler) (observability : ObservabilityProfile) (maxNodes : Nat)
    (workIdSeed : UInt64) : Except ChannelRuntimeError ChannelRuntime :=
  if maxNodes = 0 then .error .zeroNodeCapacity
  else .ok {
    scheduler
    observability
    maxNodes
    nextWorkId := atLeastOne workIdSeed
    nodes := []
    timeSync := []
    telemetry := []
    activeDispatch := none }

variable (runtime : ChannelRuntime)

def node? (address : UInt8) : Option NodeScheduleState :=
  runtime.nodes.find? (·.address = address)

def updateNode (address : UInt8) (update : NodeScheduleState → NodeScheduleState) :
    ChannelRuntime :=
  { runtime with nodes := updateFirst (·.address = address) update runtime.nodes }

def updateTimeSync (address : UInt8) (update : ServiceScheduleState → ServiceScheduleState) :
    ChannelRuntime :=
  { runtime with timeSync := updateFirst (·.nodeAddress = address) update runtime.timeSync }

def updateTelemetry (address : UInt8) (update : ServiceScheduleState → ServiceScheduleState) :
    ChannelRuntime :=
  { runtime with telemetry := updateFirst (·.nodeAddress = address) update runtime.telemetry }

/-- The channel is free again. -/
def release : ChannelRuntime :=
  { runtime with activeDispatch := none }

def workIds : List UInt64 :=
  runtime.nodes.map (·.workId) ++ (runtime.timeSync.map (·.workId) ++
    runtime.telemetry.map (·.workId))

/-- The loop of `allocate_work_id`. -/
def allocateLoop : Nat → ChannelRuntime → ScheduleResult UInt64
  | 0, runtime => (.error .workIdExhausted, runtime)
  | rounds + 1, runtime =>
    let candidate := atLeastOne runtime.nextWorkId
    let runtime := { runtime with nextWorkId := atLeastOne (candidate + 1) }
    if candidate ∈ runtime.workIds then allocateLoop rounds runtime else (.ok candidate, runtime)

def allocateWorkId : ScheduleResult UInt64 :=
  allocateLoop (runtime.maxNodes + 1) runtime

def registerNode (config : NodeScheduleConfig) (recoveredCursor : SequenceCursor)
    (now : MonotonicMicros) : ScheduleResult Unit :=
  match config.validate with
  | .error error => (.error error, runtime)
  | .ok config =>
    if runtime.nodes.length ≥ runtime.maxNodes then (.error .nodeCapacityReached, runtime)
    else if (runtime.node? config.nodeAddress).isSome then
      (.error (.duplicateNode config.nodeAddress), runtime)
    else match runtime.allocateWorkId with
      | (.error error, runtime) => (.error error, runtime)
      | (.ok workId, runtime) =>
        (.ok (), { runtime with nodes := runtime.nodes ++ [{
          config
          received := recoveredCursor
          observedProduced := recoveredCursor
          observedAt := now
          serviceDeadline := now
          readyAt := now
          queuedAt := now
          availability := .online
          workId
          inFlight := false }] })

def reconfigureNode (config : NodeScheduleConfig) (now : MonotonicMicros) : ScheduleResult Unit :=
  match config.validate with
  | .error error => (.error error, runtime)
  | .ok config =>
    if runtime.activeDispatch.isSome then (.error .reconfigurationWhileActive, runtime)
    else match runtime.node? config.nodeAddress with
      | none => (.error (.unknownNode config.nodeAddress), runtime)
      | some node =>
        if node.inFlight ∨ node.availability.recoveryCause.isSome then
          (.error .reconfigurationWhileActive, runtime)
        else
          (.ok (), runtime.updateNode config.nodeAddress fun node => { node with
            config, observedAt := now, serviceDeadline := now, readyAt := now, queuedAt := now })

def setObservability (observability : ObservabilityProfile) : ChannelRuntime :=
  { runtime with observability }

/-- A service schedule with its first deadline. -/
def firstServiceState (nodeAddress : UInt8) (config : ServiceScheduleConfig)
    (firstDeadline : MonotonicMicros) (workId : UInt64) : ServiceScheduleState :=
  let firstReadyAt :=
    if firstDeadline < config.estimatedSlot.value then 0
    else firstDeadline - config.estimatedSlot.value
  { nodeAddress
    config
    deadline := firstDeadline
    readyAt := firstReadyAt
    queuedAt := firstReadyAt
    workId
    inFlight := false }

def configureTimeSync (nodeAddress : UInt8) (config : TimeSyncScheduleConfig)
    (firstDeadline : MonotonicMicros) : ScheduleResult Unit :=
  match TimeSyncScheduleConfig.validate config with
  | .error error => (.error error, runtime)
  | .ok config =>
    match runtime.node? nodeAddress with
    | none => (.error (.unknownNode nodeAddress), runtime)
    | some node =>
      if node.availability.recoveryCause.isSome then
        (.error (.recoveryRequired nodeAddress), runtime)
      else if runtime.timeSync.any (·.nodeAddress = nodeAddress) then
        (.error (.duplicateTimeSync nodeAddress), runtime)
      else match runtime.allocateWorkId with
        | (.error error, runtime) => (.error error, runtime)
        | (.ok workId, runtime) =>
          (.ok (), { runtime with
            timeSync := runtime.timeSync ++
              [firstServiceState nodeAddress config firstDeadline workId] })

def configureTelemetry (nodeAddress : UInt8) (config : TelemetryScheduleConfig)
    (firstDeadline : MonotonicMicros) : ScheduleResult Unit :=
  match TelemetryScheduleConfig.validate config with
  | .error error => (.error error, runtime)
  | .ok config =>
    match runtime.node? nodeAddress with
    | none => (.error (.unknownNode nodeAddress), runtime)
    | some node =>
      if node.availability.recoveryCause.isSome then
        (.error (.recoveryRequired nodeAddress), runtime)
      else if runtime.telemetry.any (·.nodeAddress = nodeAddress) then
        (.error (.duplicateTelemetry nodeAddress), runtime)
      else match runtime.allocateWorkId with
        | (.error error, runtime) => (.error error, runtime)
        | (.ok workId, runtime) =>
          (.ok (), { runtime with
            telemetry := runtime.telemetry ++
              [firstServiceState nodeAddress config firstDeadline workId] })

def reconfigureTelemetry (nodeAddress : UInt8) (config : TelemetryScheduleConfig)
    (now : MonotonicMicros) : ScheduleResult Unit :=
  match TelemetryScheduleConfig.validate config with
  | .error error => (.error error, runtime)
  | .ok config =>
    match runtime.telemetry.find? (·.nodeAddress = nodeAddress) with
    | none => (.error (.telemetryNotConfigured nodeAddress), runtime)
    | some state =>
      let runtime := runtime.updateTelemetry nodeAddress fun state => { state with config }
      if state.inFlight then (.ok (), runtime)
      else match checkedTime now config.interval.value with
        | .error error => (.error error, runtime)
        | .ok deadline =>
          let readyAt :=
            if deadline < config.estimatedSlot.value then 0
            else deadline - config.estimatedSlot.value
          (.ok (), runtime.updateTelemetry nodeAddress fun state => { state with
            deadline, readyAt, queuedAt := now })

variable (now : MonotonicMicros)

/-- Candidates of the nodes, in order. -/
def nodeCandidates : Except ChannelRuntimeError (List WorkCandidate) := do
  let candidates ← runtime.nodes.mapM (·.candidate now)
  .ok (candidates.filterMap id)

def nodeAvailable (nodeAddress : UInt8) : Bool :=
  runtime.nodes.any fun node =>
    node.config.nodeAddress = nodeAddress ∧ node.availability.allowsAuxiliary ∧ ¬ node.inFlight

/-- Candidates of a service for the nodes that are available. -/
def serviceCandidates (class_ : TrafficClass) (states : List ServiceScheduleState) :
    List WorkCandidate :=
  (states.filter (runtime.nodeAvailable ·.nodeAddress)).filterMap (·.candidate class_)

def scheduleContext : ScheduleContext where
  now
  observability := runtime.observability
  diagnosticBudgetUs := 0

def schedule (candidates : List WorkCandidate) :
    Except ChannelRuntimeError (Option ScheduledWork) :=
  (runtime.scheduler.select (runtime.scheduleContext now) candidates).mapError .scheduler

/-- The entry behind the selected work goes in flight. -/
def dispatchSelected (selected : ScheduledWork) : ScheduleResult (Option ChannelDispatch) :=
  match selected.class_ with
  | .control =>
    match runtime.nodes.find? (·.workId = selected.workId) with
    | none => (.error .invariantViolation, runtime)
    | some node =>
      if node.availability.recoveryCause = none then (.error .invariantViolation, runtime)
      else
        let dispatch := ChannelDispatch.recovery ⟨node.workId, node.config.nodeAddress⟩
        (.ok (some dispatch), { runtime with
          nodes := updateFirst (·.workId = selected.workId)
            (fun node => { node with inFlight := true }) runtime.nodes
          activeDispatch := some dispatch })
  | .measurement =>
    match runtime.nodes.find? (·.workId = selected.workId) with
    | none => (.error .invariantViolation, runtime)
    | some node =>
      let dispatch := ChannelDispatch.measurement
        ⟨node.workId, node.config.nodeAddress, node.config.maxSampleChunkSamples⟩
      (.ok (some dispatch), { runtime with
        nodes := updateFirst (·.workId = selected.workId)
          (fun node => { node with inFlight := true }) runtime.nodes
        activeDispatch := some dispatch })
  | .timeSync =>
    match runtime.timeSync.find? (·.workId = selected.workId) with
    | none => (.error .invariantViolation, runtime)
    | some state =>
      let dispatch := ChannelDispatch.timeSync ⟨state.workId, state.nodeAddress⟩
      (.ok (some dispatch), { runtime with
        timeSync := updateFirst (·.workId = selected.workId)
          (fun state => { state with inFlight := true }) runtime.timeSync
        activeDispatch := some dispatch })
  | .telemetry =>
    match runtime.telemetry.find? (·.workId = selected.workId) with
    | none => (.error .invariantViolation, runtime)
    | some state =>
      let dispatch := ChannelDispatch.telemetry ⟨state.workId, state.nodeAddress⟩
      (.ok (some dispatch), { runtime with
        telemetry := updateFirst (·.workId = selected.workId)
          (fun state => { state with inFlight := true }) runtime.telemetry
        activeDispatch := some dispatch })
  | _ => (.error .invariantViolation, runtime)

def selectWork : ScheduleResult (Option ChannelDispatch) :=
  if runtime.activeDispatch.isSome then (.ok none, runtime)
  else match runtime.nodeCandidates now with
    | .error error => (.error error, runtime)
    | .ok candidates =>
      match runtime.schedule now (candidates ++
          (runtime.serviceCandidates .timeSync runtime.timeSync ++
            runtime.serviceCandidates .telemetry runtime.telemetry)) with
      | .error error => (.error error, runtime)
      | .ok none => (.ok none, runtime)
      | .ok (some selected) => runtime.dispatchSelected selected

def selectMeasurement : ScheduleResult (Option ChannelDispatch) :=
  if runtime.timeSync ≠ [] ∨ runtime.telemetry ≠ [] then (.error .unifiedDispatchRequired, runtime)
  else if runtime.activeDispatch.isSome then (.ok none, runtime)
  else match runtime.nodeCandidates now with
    | .error error => (.error error, runtime)
    | .ok candidates =>
      match runtime.schedule now candidates with
      | .error error => (.error error, runtime)
      | .ok none => (.ok none, runtime)
      | .ok (some selected) =>
        if selected.class_ ≠ .measurement then (.ok none, runtime)
        else match runtime.nodes.find? (·.workId = selected.workId) with
          | none => (.error .invariantViolation, runtime)
          | some node =>
            if node.inFlight then (.error .invariantViolation, runtime)
            else runtime.dispatchSelected selected

def selectShutdownMeasurement (nodeAddress : UInt8) (now : MonotonicMicros) :
    ScheduleResult (Option ChannelDispatch) :=
  if runtime.activeDispatch.isSome then (.ok none, runtime)
  else match runtime.node? nodeAddress with
    | none => (.error (.unknownNode nodeAddress), runtime)
    | some node =>
      if node.availability.recoveryCause.isSome then (.ok none, runtime)
      else if node.inFlight then (.ok none, runtime)
      else if node.availability.failures > 0 ∧ node.readyAt > now then (.ok none, runtime)
      else
        let dispatch := ChannelDispatch.measurement
          ⟨node.workId, nodeAddress, node.config.maxSampleChunkSamples⟩
        (.ok (some dispatch), { runtime.updateNode nodeAddress fun node =>
          { node with inFlight := true } with activeDispatch := some dispatch })

variable (dispatch : MeasurementDispatch)

def inFlightNode : Except ChannelRuntimeError NodeScheduleState :=
  match runtime.node? dispatch.nodeAddress with
  | none => .error (.unknownNode dispatch.nodeAddress)
  | some node =>
    if ¬ node.inFlight ∨ node.workId ≠ dispatch.workId then .error .staleDispatch
    else if node.config.maxSampleChunkSamples ≠ dispatch.maxSamples then .error .staleDispatch
    else .ok node

def activeNode : Except ChannelRuntimeError NodeScheduleState :=
  if runtime.activeDispatch ≠ some (.measurement dispatch) then .error .staleDispatch
  else runtime.inFlightNode dispatch

def activeRecovery (dispatch : RecoveryDispatch) : Except ChannelRuntimeError NodeScheduleState :=
  if runtime.activeDispatch ≠ some (.recovery dispatch) then .error .staleDispatch
  else match runtime.node? dispatch.nodeAddress with
    | none => .error (.unknownNode dispatch.nodeAddress)
    | some node =>
      if ¬ node.inFlight ∨ node.workId ≠ dispatch.workId then .error .staleDispatch
      else .ok node

/-- `active_time_sync_index` and `active_telemetry_index`. -/
def activeService (active : ChannelDispatch) (states : List ServiceScheduleState)
    (dispatch : WorkDispatch) : Except ChannelRuntimeError ServiceScheduleState :=
  if runtime.activeDispatch ≠ some active then .error .staleDispatch
  else match states.find? (·.nodeAddress = dispatch.nodeAddress) with
    | none => .error (.unknownNode dispatch.nodeAddress)
    | some state =>
      if ¬ state.inFlight ∨ state.workId ≠ dispatch.workId then .error .staleDispatch
      else .ok state

def activeTimeSync (dispatch : TimeSyncDispatch) :
    Except ChannelRuntimeError ServiceScheduleState :=
  runtime.activeService (.timeSync dispatch) runtime.timeSync dispatch

def activeTelemetry (dispatch : TelemetryDispatch) :
    Except ChannelRuntimeError ServiceScheduleState :=
  runtime.activeService (.telemetry dispatch) runtime.telemetry dispatch

/-- The common part of the two completions of a measurement. -/
def settleMeasurement (node : NodeScheduleState) (progress : MeasurementProgress)
    (now : MonotonicMicros) (free : ChannelRuntime → ChannelRuntime) : ScheduleResult Unit :=
  if progress.received < node.received ∨ progress.produced < node.observedProduced then
    (.error .streamRegressed, free (runtime.updateNode node.address fun node => { node with
      inFlight := false
      availability := .recovering .streamRegressed 0
      readyAt := now }))
  else match checkedTime now node.config.maximumServiceInterval.value with
    | .error error => (.error error, runtime)
    | .ok nextDeadline =>
      match runtime.allocateWorkId with
      | (.error error, runtime) => (.error error, runtime)
      | (.ok nextWorkId, runtime) =>
        let runtime := runtime.updateNode node.address fun node => { node with
          received := progress.received
          observedProduced := progress.produced
          observedAt := now
          serviceDeadline := nextDeadline }
        match nextMeasurementReadyAt node.config progress now with
        | .error error => (.error error, runtime)
        | .ok readyAt =>
          (.ok (), free (runtime.updateNode node.address fun node => { node with
            readyAt
            queuedAt := now
            availability := .online
            workId := nextWorkId
            inFlight := false }))

def completeMeasurement (progress : MeasurementProgress) (now : MonotonicMicros) :
    ScheduleResult Unit :=
  match progress.validate with
  | .error error => (.error error, runtime)
  | .ok progress =>
    match runtime.activeNode dispatch with
    | .error error => (.error error, runtime)
    | .ok node => runtime.settleMeasurement node progress now release

def parkMeasurement : ScheduleResult Unit :=
  match runtime.activeNode dispatch with
  | .error error => (.error error, runtime)
  | .ok _ => (.ok (), runtime.release)

def completeParkedMeasurement (progress : MeasurementProgress) (now : MonotonicMicros) :
    ScheduleResult Unit :=
  if runtime.activeDispatch = some (.measurement dispatch) then
    (.error .invariantViolation, runtime)
  else match progress.validate with
    | .error error => (.error error, runtime)
    | .ok progress =>
      match runtime.inFlightNode dispatch with
      | .error error => (.error error, runtime)
      | .ok node => runtime.settleMeasurement node progress now id

def requireRecovery (cause : RecoveryCause) (now : MonotonicMicros) : ScheduleResult Unit :=
  match runtime.activeNode dispatch with
  | .error error => (.error error, runtime)
  | .ok node =>
    (.ok (), (runtime.updateNode node.address fun node => { node with
      inFlight := false
      availability := .recovering cause 0
      readyAt := now
      queuedAt := now }).release)

/-- Another failure and the delay it costs. -/
def afterFailure (node : NodeScheduleState) : UInt8 × UInt64 :=
  let failures := if node.availability.failures = 255 then 255 else node.availability.failures + 1
  (failures,
    if failures > node.config.retryAttemptLimit then node.config.offlineProbeInterval.value
    else exponentialDelay node.config.retryBaseDelay node.config.retryMaxDelay failures)

def failMeasurement (now : MonotonicMicros) : ScheduleResult Unit :=
  match runtime.activeNode dispatch with
  | .error error => (.error error, runtime)
  | .ok node =>
    let (failures, delay) := afterFailure node
    let availability :=
      if failures > node.config.retryAttemptLimit then .offline .unresponsive failures
      else .retryBackoff failures
    let runtime := runtime.updateNode node.address fun node => { node with availability }
    match checkedTime now delay with
    | .error error => (.error error, runtime)
    | .ok readyAt =>
      (.ok (), (runtime.updateNode node.address fun node =>
        { node with readyAt, inFlight := false }).release)

def cancelMeasurement : ScheduleResult Unit :=
  match runtime.activeNode dispatch with
  | .error error => (.error error, runtime)
  | .ok node =>
    (.ok (), (runtime.updateNode node.address fun node => { node with inFlight := false }).release)

/-- A node that starts over. -/
def restarted (received observedProduced : SequenceCursor) (now : MonotonicMicros)
    (workId : UInt64) (inFlight : Bool) (node : NodeScheduleState) : NodeScheduleState :=
  { node with
    received
    observedProduced
    observedAt := now
    serviceDeadline := now
    readyAt := now
    queuedAt := now
    availability := .online
    workId
    inFlight }

def completeRecovery (dispatch : RecoveryDispatch)
    (recoveredCursor observedProduced : SequenceCursor) (now : MonotonicMicros) :
    ScheduleResult Unit :=
  match runtime.activeRecovery dispatch with
  | .error error => (.error error, runtime)
  | .ok node =>
    if node.availability.recoveryCause = none then
      (.error (.recoveryNotRequired dispatch.nodeAddress), runtime)
    else if recoveredCursor > observedProduced then (.error .receivedAheadOfProduced, runtime)
    else match runtime.allocateWorkId with
      | (.error error, runtime) => (.error error, runtime)
      | (.ok workId, runtime) =>
        (.ok (), (runtime.updateNode node.address
          (restarted recoveredCursor observedProduced now workId false)).release)

/-- `recover_node`: it frees the channel whatever is active there. -/
def recoverNode (nodeAddress : UInt8) (recoveredCursor : SequenceCursor) (now : MonotonicMicros) :
    ScheduleResult Unit :=
  match runtime.node? nodeAddress with
  | none => (.error (.unknownNode nodeAddress), runtime)
  | some node =>
    if node.availability.recoveryCause = none then
      (.error (.recoveryNotRequired nodeAddress), runtime)
    else match runtime.allocateWorkId with
      | (.error error, runtime) => (.error error, runtime)
      | (.ok workId, runtime) =>
        (.ok (), (runtime.updateNode nodeAddress
          (restarted recoveredCursor recoveredCursor now workId false)).release)

def resumeNode (nodeAddress : UInt8) (recoveredCursor observedProduced : SequenceCursor)
    (now : MonotonicMicros) : ScheduleResult Unit :=
  if runtime.activeDispatch.isSome then (.error .resumeWhileActive, runtime)
  else match runtime.node? nodeAddress with
    | none => (.error (.unknownNode nodeAddress), runtime)
    | some node =>
      if node.availability.recoveryCause.isSome then
        (.error (.recoveryRequired nodeAddress), runtime)
      else if node.received ≠ recoveredCursor then
        (.error (.resumeCursorMismatch nodeAddress node.received recoveredCursor), runtime)
      else match runtime.allocateWorkId with
        | (.error error, runtime) => (.error error, runtime)
        | (.ok workId, runtime) =>
          (.ok (), runtime.updateNode nodeAddress
            (restarted node.received observedProduced now workId node.inFlight))

def replaceQuiescedNode (nodeAddress : UInt8) (recoveredCursor observedProduced : SequenceCursor)
    (now : MonotonicMicros) : ScheduleResult Unit :=
  if runtime.activeDispatch.isSome then (.error .resumeWhileActive, runtime)
  else match runtime.node? nodeAddress with
    | none => (.error (.unknownNode nodeAddress), runtime)
    | some _ =>
      match runtime.allocateWorkId with
      | (.error error, runtime) => (.error error, runtime)
      | (.ok workId, runtime) =>
        (.ok (), runtime.updateNode nodeAddress
          (restarted recoveredCursor observedProduced now workId false))

def failRecovery (dispatch : RecoveryDispatch) (now : MonotonicMicros) : ScheduleResult Unit :=
  match runtime.activeRecovery dispatch with
  | .error error => (.error error, runtime)
  | .ok node =>
    match node.availability.recoveryCause with
    | none => (.error (.recoveryNotRequired dispatch.nodeAddress), runtime)
    | some cause =>
      let (failures, delay) := afterFailure node
      let availability :=
        if failures > node.config.retryAttemptLimit then .offline (.recovery cause) failures
        else .recovering cause failures
      let runtime := runtime.updateNode node.address fun node => { node with availability }
      match checkedTime now delay with
      | .error error => (.error error, runtime)
      | .ok readyAt =>
        (.ok (), (runtime.updateNode node.address fun node =>
          { node with readyAt, queuedAt := now, inFlight := false }).release)

variable (active : Except ChannelRuntimeError ServiceScheduleState)

/-- `complete_time_sync` and `complete_telemetry`. -/
def completeService (now : MonotonicMicros)
    (update : ChannelRuntime → UInt8 → (ServiceScheduleState → ServiceScheduleState) →
      ChannelRuntime) : ScheduleResult Unit :=
  match active with
  | .error error => (.error error, runtime)
  | .ok state =>
    match checkedTime now state.config.interval.value with
    | .error error => (.error error, runtime)
    | .ok nextDeadline =>
      match runtime.allocateWorkId with
      | (.error error, runtime) => (.error error, runtime)
      | (.ok nextWorkId, runtime) =>
        (.ok (), (update runtime state.nodeAddress fun state => { state with
          deadline := nextDeadline
          readyAt := now
          queuedAt := now
          workId := nextWorkId
          inFlight := false }).release)

def failService (now : MonotonicMicros)
    (update : ChannelRuntime → UInt8 → (ServiceScheduleState → ServiceScheduleState) →
      ChannelRuntime) : ScheduleResult Unit :=
  match active with
  | .error error => (.error error, runtime)
  | .ok state =>
    match checkedTime now state.config.retryDelay.value with
    | .error error => (.error error, runtime)
    | .ok readyAt =>
      (.ok (), (update runtime state.nodeAddress fun state => { state with
        readyAt, queuedAt := now, inFlight := false }).release)

def cancelService
    (update : ChannelRuntime → UInt8 → (ServiceScheduleState → ServiceScheduleState) →
      ChannelRuntime) : ScheduleResult Unit :=
  match active with
  | .error error => (.error error, runtime)
  | .ok state =>
    (.ok (), (update runtime state.nodeAddress fun state =>
      { state with inFlight := false }).release)

def completeTimeSync (dispatch : TimeSyncDispatch) (now : MonotonicMicros) : ScheduleResult Unit :=
  runtime.completeService (runtime.activeTimeSync dispatch) now updateTimeSync

def failTimeSync (dispatch : TimeSyncDispatch) (now : MonotonicMicros) : ScheduleResult Unit :=
  runtime.failService (runtime.activeTimeSync dispatch) now updateTimeSync

def cancelTimeSync (dispatch : TimeSyncDispatch) : ScheduleResult Unit :=
  runtime.cancelService (runtime.activeTimeSync dispatch) updateTimeSync

def completeTelemetry (dispatch : TelemetryDispatch) (now : MonotonicMicros) :
    ScheduleResult Unit :=
  runtime.completeService (runtime.activeTelemetry dispatch) now updateTelemetry

def failTelemetry (dispatch : TelemetryDispatch) (now : MonotonicMicros) : ScheduleResult Unit :=
  runtime.failService (runtime.activeTelemetry dispatch) now updateTelemetry

def cancelTelemetry (dispatch : TelemetryDispatch) : ScheduleResult Unit :=
  runtime.cancelService (runtime.activeTelemetry dispatch) updateTelemetry

end ChannelRuntime
end SensorSystem.Host
