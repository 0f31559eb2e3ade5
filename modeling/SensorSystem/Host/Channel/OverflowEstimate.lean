import SensorSystem.Host.Channel.ChannelRuntimeRuns
import Mathlib.Algebra.Order.Floor.Semiring
import Mathlib.Algebra.Order.Archimedean.Real.Basic
import Mathlib.Tactic.Linarith
import Mathlib.Tactic.NormNum

/-! When the time to overflow that the runtime gives the scheduler is conservative. -/

namespace SensorSystem.Host

open List Base

/-- What the overflow estimate of a node is made from. -/
structure Sighting where
  config : NodeScheduleConfig
  received : SequenceCursor
  produced : SequenceCursor
  at_ : MonotonicMicros

def NodeScheduleState.sighting (node : NodeScheduleState) : Sighting :=
  ⟨node.config, node.received, node.observedProduced, node.observedAt⟩

namespace ChannelRuntime

variable {runtime after : ChannelRuntime} {address : UInt8} {node : NodeScheduleState}

def sightings (runtime : ChannelRuntime) : List Sighting := runtime.nodes.map (·.sighting)

def sighting? (runtime : ChannelRuntime) (address : UInt8) : Option Sighting :=
  (runtime.node? address).map (·.sighting)

theorem sighting?_eq (runtime : ChannelRuntime) (address : UInt8) :
    runtime.sighting? address = runtime.sightings.find? (·.config.nodeAddress = address) := by
  rw [sighting?, sightings, find?_map]
  rfl

variable {update : NodeScheduleState → NodeScheduleState}

theorem sightings_updateNode (keeps : ∀ node, (update node).sighting = node.sighting) :
    (runtime.updateNode address update).sightings = runtime.sightings :=
  map_updateFirst _ fun entry _ _ => keeps entry

variable (keeps : ∀ node, (update node).config = node.config)

include keeps

theorem node?_updateNode :
    (runtime.updateNode address update).node? address = (runtime.node? address).map update := by
  refine find?_updateFirst runtime.nodes fun entry here => ?_
  rw [NodeScheduleState.address, keeps]
  exact here

theorem node?_updateNode_of_ne {other : UInt8} (apart : other ≠ address) :
    (runtime.updateNode address update).node? other = runtime.node? other := by
  rw [node?, node?, ← head?_filter, ← head?_filter]
  refine congrArg head? (filter_updateFirst runtime.nodes fun entry _ here => ?_)
  have there : entry.config.nodeAddress = address := of_decide_eq_true here
  simp only [NodeScheduleState.address, keeps, there, decide_eq_false_iff_not]
  exact ⟨Ne.symm apart, Ne.symm apart⟩

omit keeps

/-- Nothing, or the progress of its node at the instant of the call. -/
inductive SettlesSighting (runtime : ChannelRuntime) (node : NodeScheduleState)
    (progress : MeasurementProgress) (now : MonotonicMicros) :
    Except ChannelRuntimeError Unit → ChannelRuntime → Prop where
  | kept {error : ChannelRuntimeError} {after : ChannelRuntime}
      (same : after.sightings = runtime.sightings) :
      SettlesSighting runtime node progress now (.error error) after
  | moved {result : Except ChannelRuntimeError Unit} {after : ChannelRuntime}
      (here : after.sighting? node.address =
        some ⟨node.config, progress.received, progress.produced, now⟩)
      (others : ∀ address, address ≠ node.address →
        after.sighting? address = runtime.sighting? address) :
      SettlesSighting runtime node progress now result after

theorem SettlesSighting.of_update {progress : MeasurementProgress} {now : MonotonicMicros}
    {result : Except ChannelRuntimeError Unit} (update : NodeScheduleState → NodeScheduleState)
    (found : runtime.node? node.address = some node) (sets : ∀ node, (update node).sighting =
      ⟨node.config, progress.received, progress.produced, now⟩)
    (same : after.sightings = (runtime.updateNode node.address update).sightings) :
    SettlesSighting runtime node progress now result after := by
  have keeps : ∀ node, (update node).config = node.config := fun node =>
    congrArg Sighting.config (sets node)
  have lift : ∀ other, after.sighting? other =
      (runtime.updateNode node.address update).sighting? other := by
    intro other
    rw [sighting?_eq, sighting?_eq, same]
  refine .moved ?_ fun other apart => ?_
  · rw [lift, sighting?, node?_updateNode keeps, found]
    exact congrArg some (sets node)
  · rw [lift, sighting?, node?_updateNode_of_ne keeps apart]
    rfl

theorem settleMeasurement_sighting (found : runtime.node? node.address = some node)
    (progress : MeasurementProgress) (now : MonotonicMicros)
    {free : ChannelRuntime → ChannelRuntime}
    (frees : ∀ runtime, (free runtime).sightings = runtime.sightings) :
    SettlesSighting runtime node progress now
      (runtime.settleMeasurement node progress now free).1
      (runtime.settleMeasurement node progress now free).2 := by
  rw [settleMeasurement]
  split
  · refine .kept ?_
    rw [frees]
    exact sightings_updateNode fun _ => rfl
  cases checkedTime now node.config.maximumServiceInterval.value with
  | error error => exact .kept rfl
  | ok nextDeadline =>
    rcases runtime.allocateWorkId_cases with ⟨next, done⟩ | ⟨next, id, done, -⟩
    · rw [done]
      exact .kept rfl
    rw [done]
    cases nextMeasurementReadyAt node.config progress now with
    | error error =>
      exact .of_update (fun node => { node with
        received := progress.received
        observedProduced := progress.produced
        observedAt := now
        serviceDeadline := nextDeadline }) found (fun _ => rfl) rfl
    | ok readyAt =>
      refine .of_update (fun node => { node with
        received := progress.received
        observedProduced := progress.produced
        observedAt := now
        serviceDeadline := nextDeadline }) found (fun _ => rfl) ?_
      rw [frees]
      exact sightings_updateNode fun _ => rfl

theorem progress_validate {progress valid : MeasurementProgress}
    (checked : progress.validate = .ok valid) : progress = valid := by
  unfold MeasurementProgress.validate at checked
  split at checked
  · cases checked
  · cases checked
    rfl

variable (dispatch : MeasurementDispatch)

theorem completeMeasurement_sighting (progress : MeasurementProgress) (now : MonotonicMicros) :
    (∃ error, (runtime.completeMeasurement dispatch progress now).1 = .error error ∧
      (runtime.completeMeasurement dispatch progress now).2 = runtime) ∨
    ∃ node, node.address = dispatch.nodeAddress ∧
      runtime.node? dispatch.nodeAddress = some node ∧
      SettlesSighting runtime node progress now
        (runtime.completeMeasurement dispatch progress now).1
        (runtime.completeMeasurement dispatch progress now).2 := by
  rw [completeMeasurement]
  cases checked : progress.validate with
  | error error => exact .inl ⟨error, rfl, rfl⟩
  | ok valid =>
    obtain rfl := progress_validate checked
    cases active : runtime.activeNode dispatch with
    | error error => exact .inl ⟨error, rfl, rfl⟩
    | ok node =>
      obtain ⟨found, here, -⟩ := inFlightNode_ok (activeNode_ok active).2
      exact .inr ⟨node, here, found,
        settleMeasurement_sighting (by rw [here]; exact found) progress now fun _ => rfl⟩

theorem completeParkedMeasurement_sighting (progress : MeasurementProgress)
    (now : MonotonicMicros) :
    (∃ error, (runtime.completeParkedMeasurement dispatch progress now).1 = .error error ∧
      (runtime.completeParkedMeasurement dispatch progress now).2 = runtime) ∨
    ∃ node, node.address = dispatch.nodeAddress ∧
      runtime.node? dispatch.nodeAddress = some node ∧
      SettlesSighting runtime node progress now
        (runtime.completeParkedMeasurement dispatch progress now).1
        (runtime.completeParkedMeasurement dispatch progress now).2 := by
  rw [completeParkedMeasurement]
  split
  · exact .inl ⟨_, rfl, rfl⟩
  cases checked : progress.validate with
  | error error => exact .inl ⟨error, rfl, rfl⟩
  | ok valid =>
    obtain rfl := progress_validate checked
    cases flying : runtime.inFlightNode dispatch with
    | error error => exact .inl ⟨error, rfl, rfl⟩
    | ok node =>
      obtain ⟨found, here, -⟩ := inFlightNode_ok flying
      exact .inr ⟨node, here, found,
        settleMeasurement_sighting (by rw [here]; exact found) progress now fun _ => rfl⟩

theorem sightings_fly {found : NodeScheduleState → Bool} {active : Option ChannelDispatch} :
    ({ runtime with
      nodes := updateFirst found (fun node => { node with inFlight := true }) runtime.nodes
      activeDispatch := active } : ChannelRuntime).sightings = runtime.sightings :=
  map_updateFirst _ fun _ _ _ => rfl

variable (runtime)

theorem sightings_dispatchSelected (selected : ScheduledWork) :
    (runtime.dispatchSelected selected).2.sightings = runtime.sightings := by
  unfold dispatchSelected
  cases selected.class_ with
  | control =>
    dsimp only
    split
    · rfl
    split
    · rfl
    · exact sightings_fly
  | measurement =>
    dsimp only
    split
    · rfl
    · exact sightings_fly
  | timeSync =>
    dsimp only
    split <;> rfl
  | telemetry =>
    dsimp only
    split <;> rfl
  | _ => rfl

theorem sightings_selectWork (now : MonotonicMicros) :
    (runtime.selectWork now).2.sightings = runtime.sightings := by
  unfold selectWork
  split
  · rfl
  split
  · rfl
  split
  · rfl
  · rfl
  · exact sightings_dispatchSelected _ _

theorem sightings_selectMeasurement (now : MonotonicMicros) :
    (runtime.selectMeasurement now).2.sightings = runtime.sightings := by
  unfold selectMeasurement
  split
  · rfl
  split
  · rfl
  split
  · rfl
  split
  · rfl
  · rfl
  split
  · rfl
  split
  · rfl
  split
  · rfl
  · exact sightings_dispatchSelected _ _

theorem sightings_selectShutdownMeasurement (address : UInt8)
    (now : MonotonicMicros) :
    (runtime.selectShutdownMeasurement address now).2.sightings = runtime.sightings := by
  unfold selectShutdownMeasurement
  split
  · rfl
  split
  · rfl
  split
  · rfl
  split
  · rfl
  split
  · rfl
  · exact sightings_updateNode fun _ => rfl

theorem sightings_failMeasurement (dispatch : MeasurementDispatch)
    (now : MonotonicMicros) :
    (runtime.failMeasurement dispatch now).2.sightings = runtime.sightings := by
  unfold failMeasurement
  split
  · rfl
  dsimp only
  split
  · exact sightings_updateNode fun _ => rfl
  change ((runtime.updateNode _ _).updateNode _ _).sightings = _
  rw [sightings_updateNode, sightings_updateNode]
  · exact fun _ => rfl
  · exact fun _ => rfl

theorem sightings_failRecovery (dispatch : RecoveryDispatch)
    (now : MonotonicMicros) :
    (runtime.failRecovery dispatch now).2.sightings = runtime.sightings := by
  unfold failRecovery
  split
  · rfl
  split
  · rfl
  dsimp only
  split
  · exact sightings_updateNode fun _ => rfl
  change ((runtime.updateNode _ _).updateNode _ _).sightings = _
  rw [sightings_updateNode, sightings_updateNode]
  · exact fun _ => rfl
  · exact fun _ => rfl

end ChannelRuntime

/-- Calls that neither configure a node nor report its stream. -/
def RuntimeCall.reportless : RuntimeCall → Bool
  | .setObservability _ | .selectWork _ | .selectMeasurement _ | .selectShutdownMeasurement _ _
  | .parkMeasurement _ | .requireRecovery _ _ _ | .failMeasurement _ _ | .cancelMeasurement _
  | .failRecovery _ _ => true
  | _ => false

open ChannelRuntime in
theorem RuntimeCall.sightings_of_reportless {runtime : ChannelRuntime} {call : RuntimeCall}
    (reportless : call.reportless) : (call.apply runtime).2.sightings = runtime.sightings := by
  cases call with
  | setObservability observability => rfl
  | selectWork now => exact sightings_selectWork runtime now
  | selectMeasurement now => exact sightings_selectMeasurement runtime now
  | selectShutdownMeasurement address now =>
    exact sightings_selectShutdownMeasurement runtime address now
  | parkMeasurement dispatch =>
    rcases runtime.parkMeasurement_cases dispatch with ⟨error, refused⟩ | ⟨-, done⟩
    · rw [apply, unit, refused]
    · rw [apply, unit, done]
      rfl
  | requireRecovery dispatch cause now =>
    rw [apply, unit, ChannelRuntime.requireRecovery]
    split
    · rfl
    · exact sightings_updateNode fun _ => rfl
  | failMeasurement dispatch now => exact sightings_failMeasurement runtime dispatch now
  | cancelMeasurement dispatch =>
    rw [apply, unit, ChannelRuntime.cancelMeasurement]
    split
    · rfl
    · exact sightings_updateNode fun _ => rfl
  | failRecovery dispatch now => exact sightings_failRecovery runtime dispatch now
  | _ => cases reportless

/-- `n` samples after an instant need `n - 1` whole periods. -/
def AtMostAtRate (rate : SampleRate) (samples : ℝ → ℕ) (from_ : MonotonicMicros)
    (produced : SequenceCursor) : Prop :=
  ∀ time : ℝ, (from_.toNat : ℝ) ≤ time →
    ((samples time : ℝ) - produced.toNat) * nanoHertzMicrosPerSample <
      rate.nanohertz.toNat * (time - from_.toNat) + nanoHertzMicrosPerSample

/-- An estimate is at most the time until a node can overflow. -/
theorem timeToOverflowUs_le {node : NodeScheduleState} {samples : ℝ → ℕ}
    (rate : AtMostAtRate node.config.outputRate samples node.observedAt node.observedProduced)
    {now : MonotonicMicros} {estimate : UInt64}
    (answered : node.timeToOverflowUs now = .ok estimate) {time : ℝ}
    (later : (now.toNat : ℝ) ≤ time)
    (overflow :
      (node.config.journalCapacitySamples.toNat : ℝ) < samples time - node.received.toNat) :
    (estimate.toNat : ℝ) ≤ time - now.toNat := by
  unfold NodeScheduleState.timeToOverflowUs at answered
  split at answered
  · cases answered
  rename_i forward
  have le := UInt64.le_iff_toNat_le.mp (UInt64.not_lt.mp forward)
  dsimp only at answered
  generalize counted : divCeil (node.config.outputRate.nanohertz.toNat *
    (now.toNat - node.observedAt.toNat)) nanoHertzMicrosPerSample = since at answered
  generalize backed : node.observedProduced.toNat + since - node.received.toNat = backlog
    at answered
  generalize freed : node.config.journalCapacitySamples.toNat -
    min backlog node.config.journalCapacitySamples.toNat = free at answered
  have positive : 0 < node.config.outputRate.nanohertz.toNat :=
    UInt64.pos_iff_ne_zero.mpr node.config.outputRate.nonzero
  have bound : estimate.toNat * node.config.outputRate.nanohertz.toNat ≤
      nanoHertzMicrosPerSample * free := by
    cases answered
    rw [clampMicros, UInt64.toNat_ofNat_of_lt' (show _ < 2 ^ 64 by omega)]
    exact le_trans (Nat.mul_le_mul_right _ (Nat.min_le_left _ _)) (Nat.div_mul_le_self _ _)
  have elapsed : node.config.outputRate.nanohertz.toNat * (now.toNat - node.observedAt.toNat) ≤
      since * nanoHertzMicrosPerSample := by
    rw [← counted]
    exact le_divCeil_mul _ (by decide)
  by_cases full : free = 0
  · rw [full, Nat.mul_zero, Nat.le_zero, Nat.mul_eq_zero] at bound
    rw [bound.resolve_right positive.ne', Nat.cast_zero]
    linarith
  -- Samples beyond the capacity need the free room and what the elapsed time was counted for.
  have room : free + since + node.observedProduced.toNat ≤
      node.config.journalCapacitySamples.toNat + node.received.toNat := by omega
  have produced := rate time (le_trans (by exact_mod_cast le) later)
  have roomReal : (free : ℝ) + since + node.observedProduced.toNat ≤
      node.config.journalCapacitySamples.toNat + node.received.toNat := by exact_mod_cast room
  have elapsedReal : (node.config.outputRate.nanohertz.toNat : ℝ) *
      (now.toNat - node.observedAt.toNat) ≤ since * nanoHertzMicrosPerSample := by
    have cast : ((node.config.outputRate.nanohertz.toNat *
        (now.toNat - node.observedAt.toNat) : ℕ) : ℝ) ≤
        ((since * nanoHertzMicrosPerSample : ℕ) : ℝ) := by exact_mod_cast elapsed
    rw [Nat.cast_mul, Nat.cast_sub le, Nat.cast_mul] at cast
    exact cast
  have boundReal : (estimate.toNat : ℝ) * node.config.outputRate.nanohertz.toNat ≤
      nanoHertzMicrosPerSample * free := by exact_mod_cast bound
  have extra : (node.config.journalCapacitySamples.toNat : ℝ) + 1 ≤
      samples time - node.received.toNat := by
    have whole : node.config.journalCapacitySamples.toNat + node.received.toNat <
        samples time := by
      have sum : ((node.config.journalCapacitySamples.toNat + node.received.toNat : ℕ) : ℝ) <
          samples time := by
        rw [Nat.cast_add]
        linarith
      exact_mod_cast sum
    have step : ((node.config.journalCapacitySamples.toNat + node.received.toNat + 1 : ℕ) : ℝ) ≤
        samples time := by exact_mod_cast whole
    rw [Nat.cast_add, Nat.cast_add, Nat.cast_one] at step
    linarith
  have unitPositive : (0 : ℝ) < (nanoHertzMicrosPerSample : ℕ) := by
    rw [nanoHertzMicrosPerSample]
    norm_num
  have many : ((free : ℝ) + since + 1) * nanoHertzMicrosPerSample ≤
      ((samples time : ℝ) - node.observedProduced.toNat) * nanoHertzMicrosPerSample :=
    mul_le_mul_of_nonneg_right (by linarith) unitPositive.le
  have ratePositive : (0 : ℝ) < node.config.outputRate.nanohertz.toNat := by
    exact_mod_cast positive
  refine le_of_mul_le_mul_right ?_ ratePositive
  linarith

/-- A response's progress, its instant, and that of its completion. -/
structure PullReport where
  received : SequenceCursor
  produced : SequenceCursor
  reportedAt : MonotonicMicros
  settledAt : MonotonicMicros

def PullReport.progress (report : PullReport) : MeasurementProgress :=
  ⟨report.received, report.produced⟩

/-- The calls of a runtime: completions with the progress of responses, others that report nothing
and refused ones. For one node: whether a completion has succeeded, and what was reported. -/
inductive ReportHistory (address : UInt8) (initial : ChannelRuntime) :
    Bool → List PullReport → ChannelRuntime → Prop where
  | start : ReportHistory address initial false [] initial
  | completed {settled : Bool} {reports : List PullReport} {runtime : ChannelRuntime}
      (history : ReportHistory address initial settled reports runtime)
      (dispatch : MeasurementDispatch) (report : PullReport)
      (later : report.reportedAt ≤ report.settledAt) :
      ReportHistory address initial
        (settled || (decide (dispatch.nodeAddress = address) &&
          (runtime.completeMeasurement dispatch report.progress report.settledAt).1.isOk))
        (if dispatch.nodeAddress = address then report :: reports else reports)
        (runtime.completeMeasurement dispatch report.progress report.settledAt).2
  | completedParked {settled : Bool} {reports : List PullReport} {runtime : ChannelRuntime}
      (history : ReportHistory address initial settled reports runtime)
      (dispatch : MeasurementDispatch) (report : PullReport)
      (later : report.reportedAt ≤ report.settledAt) :
      ReportHistory address initial
        (settled || (decide (dispatch.nodeAddress = address) &&
          (runtime.completeParkedMeasurement dispatch report.progress report.settledAt).1.isOk))
        (if dispatch.nodeAddress = address then report :: reports else reports)
        (runtime.completeParkedMeasurement dispatch report.progress report.settledAt).2
  | other {settled : Bool} {reports : List PullReport} {runtime : ChannelRuntime}
      (history : ReportHistory address initial settled reports runtime) (call : RuntimeCall)
      (reportless : call.reportless) :
      ReportHistory address initial settled reports (call.apply runtime).2
  | refused {settled : Bool} {reports : List PullReport} {runtime : ChannelRuntime}
      (history : ReportHistory address initial settled reports runtime) (call : RuntimeCall)
      (unseen : (call.apply runtime).2.sighting? address = runtime.sighting? address) :
      ReportHistory address initial settled reports (call.apply runtime).2

namespace ReportHistory

open ChannelRuntime

variable {address : UInt8} {initial runtime : ChannelRuntime} {settled : Bool}
  {reports : List PullReport}

/-- The sighting of a node is one of its reports, at its completion. -/
def Shows (runtime : ChannelRuntime) (address : UInt8) (reports : List PullReport) : Prop :=
  ∃ sighting, runtime.sighting? address = some sighting ∧ ∃ report ∈ reports,
    sighting.received = report.received ∧ sighting.produced = report.produced ∧
      sighting.at_ = report.settledAt

/-- One completion, parked or not. -/
theorem shows_of_settles {dispatch : MeasurementDispatch} {report : PullReport}
    {result : Except ChannelRuntimeError Unit} {after : ChannelRuntime}
    (before : settled = true → Shows runtime address reports)
    (outcome : (∃ error, result = .error error ∧ after = runtime) ∨
      ∃ node, node.address = dispatch.nodeAddress ∧
        runtime.node? dispatch.nodeAddress = some node ∧
        SettlesSighting runtime node report.progress report.settledAt result after)
    (succeeded : (settled || (decide (dispatch.nodeAddress = address) && result.isOk)) = true) :
    Shows after address
      (if dispatch.nodeAddress = address then report :: reports else reports) := by
  have grows : Shows after address reports → Shows after address
      (if dispatch.nodeAddress = address then report :: reports else reports) := by
    rintro ⟨sighting, found, known, member, same⟩
    refine ⟨sighting, found, known, ?_, same⟩
    split
    · exact mem_cons_of_mem _ member
    · exact member
  rcases outcome with ⟨error, rfl, rfl⟩ | ⟨node, here, found, settles⟩
  · refine grows (before ?_)
    simpa [Except.isOk, Except.toBool] using succeeded
  cases settles with
  | kept same =>
    obtain ⟨sighting, seen, known⟩ := before (by
      simpa [Except.isOk, Except.toBool] using succeeded)
    refine grows ⟨sighting, ?_, known⟩
    rw [sighting?_eq, same, ← sighting?_eq]
    exact seen
  | moved moved others =>
    by_cases own : dispatch.nodeAddress = address
    · refine ⟨⟨node.config, report.received, report.produced, report.settledAt⟩, ?_, report, ?_,
        rfl, rfl, rfl⟩
      · rw [← own, ← here]
        exact moved
      · rw [if_pos own]
        exact mem_cons_self
    obtain ⟨sighting, seen, known⟩ := before (by simpa [own] using succeeded)
    refine grows ⟨sighting, ?_, known⟩
    rw [others address (by rw [here]; exact Ne.symm own)]
    exact seen

theorem shows (history : ReportHistory address initial settled reports runtime)
    (succeeded : settled = true) : Shows runtime address reports := by
  induction history with
  | start => cases succeeded
  | completed history dispatch report later ih =>
    exact shows_of_settles ih (completeMeasurement_sighting dispatch _ _) succeeded
  | completedParked history dispatch report later ih =>
    exact shows_of_settles ih (completeParkedMeasurement_sighting dispatch _ _) succeeded
  | other history call reportless ih =>
    obtain ⟨sighting, seen, known⟩ := ih succeeded
    refine ⟨sighting, ?_, known⟩
    rw [sighting?_eq, RuntimeCall.sightings_of_reportless reportless, ← sighting?_eq]
    exact seen
  | refused history call unseen ih =>
    obtain ⟨sighting, seen, known⟩ := ih succeeded
    exact ⟨sighting, unseen.trans seen, known⟩

/-- The integers of an estimate stay inside 128 bits. -/
theorem products_bounded (node : NodeScheduleState) (now : MonotonicMicros) :
    node.config.outputRate.nanohertz.toNat * (now.toNat - node.observedAt.toNat) < 2 ^ 128 ∧
      node.observedProduced.toNat + divCeil (node.config.outputRate.nanohertz.toNat *
        (now.toNat - node.observedAt.toNat)) nanoHertzMicrosPerSample < 2 ^ 128 ∧
      nanoHertzMicrosPerSample * node.config.journalCapacitySamples.toNat < 2 ^ 128 := by
  have rate := node.config.outputRate.nanohertz.toNat_lt
  have elapsed := now.toNat_lt
  have produced := node.observedProduced.toNat_lt
  have capacity := node.config.journalCapacitySamples.toNat_lt
  have product : node.config.outputRate.nanohertz.toNat *
      (now.toNat - node.observedAt.toNat) ≤ (2 ^ 64 - 1) * (2 ^ 64 - 1) :=
    Nat.mul_le_mul (by omega) (by omega)
  generalize node.config.outputRate.nanohertz.toNat *
    (now.toNat - node.observedAt.toNat) = numerator at *
  refine ⟨by omega, ?_, ?_⟩
  · rw [divCeil, nanoHertzMicrosPerSample]
    split <;> omega
  · rw [nanoHertzMicrosPerSample]
    omega

/-- In every history whose completions settle at the instant of the response, unless they are
refused, the estimate is conservative; and its products never overflow. -/
theorem overflow_estimate_conservative
    (history : ReportHistory address initial true reports runtime)
    (prompt : ∀ report ∈ reports, report.settledAt = report.reportedAt) {node : NodeScheduleState}
    (found : runtime.node? address = some node) {samples : ℝ → ℕ} (rate : ∀ report ∈ reports,
      AtMostAtRate node.config.outputRate samples report.reportedAt report.produced)
    (now : MonotonicMicros) :
    (∀ estimate, node.timeToOverflowUs now = .ok estimate → ∀ time : ℝ, (now.toNat : ℝ) ≤ time →
      (node.config.journalCapacitySamples.toNat : ℝ) < samples time - node.received.toNat →
        (estimate.toNat : ℝ) ≤ time - now.toNat) ∧
      node.config.outputRate.nanohertz.toNat * (now.toNat - node.observedAt.toNat) < 2 ^ 128 ∧
      node.observedProduced.toNat + divCeil (node.config.outputRate.nanohertz.toNat *
        (now.toNat - node.observedAt.toNat)) nanoHertzMicrosPerSample < 2 ^ 128 ∧
      nanoHertzMicrosPerSample * node.config.journalCapacitySamples.toNat < 2 ^ 128 := by
  obtain ⟨sighting, seen, report, member, received, produced, instant⟩ := history.shows rfl
  rw [sighting?, found, Option.map_some] at seen
  cases seen
  refine ⟨fun estimate answered time later overflow =>
    timeToOverflowUs_le ?_ answered later overflow, products_bounded node now⟩
  have atReport := rate report member
  rw [← prompt report member, ← instant, ← produced] at atReport
  exact atReport

/-- Node 1 with a measurement in flight. -/
def pulling : ChannelRuntime :=
  (RuntimeCall.apply (RuntimeCall.apply TrackedRuntime.twoNodes
    (.registerNode (TrackedRuntime.nodeConfig 1) 0 0)).2 (.selectShutdownMeasurement 1 0)).2

def parked : ChannelRuntime := (RuntimeCall.apply pulling (.parkMeasurement ⟨1, 1, 10⟩)).2

/-- One sample a second, from an instant on. -/
theorem atMostAtRate_ceil (from_ : MonotonicMicros) :
    AtMostAtRate (TrackedRuntime.nodeConfig 1).outputRate
      (fun time => ⌈(time - from_.toNat) / 1000000⌉₊) from_ 0 := by
  intro time later
  have elapsed : 0 ≤ (time - from_.toNat) / 1000000 := div_nonneg (by linarith) (by norm_num)
  have lt := Nat.ceil_lt_add_one elapsed
  change ((⌈(time - from_.toNat) / 1000000⌉₊ : ℝ) - ((0 : ℕ) : ℝ)) *
    ((1000000000000000 : ℕ) : ℝ) < ((1000000000 : ℕ) : ℝ) * (time - from_.toNat) +
      ((1000000000000000 : ℕ) : ℝ)
  linarith

theorem settles_parked (report : PullReport) (later : report.reportedAt ≤ report.settledAt)
    (settles : (parked.completeParkedMeasurement ⟨1, 1, 10⟩ report.progress
      report.settledAt).1.isOk = true) : ReportHistory 1 pulling true [report]
      (parked.completeParkedMeasurement ⟨1, 1, 10⟩ report.progress report.settledAt).2 := by
  have start : ReportHistory 1 pulling _ _ _ := .start
  have history := (start.other (.parkMeasurement ⟨1, 1, 10⟩) rfl).completedParked ⟨1, 1, 10⟩ report
    later
  change ReportHistory 1 pulling (false || (true && (parked.completeParkedMeasurement ⟨1, 1, 10⟩
    report.progress report.settledAt).1.isOk)) [report] _ at history
  rw [settles] at history
  exact history

/-- A response that is durable at once: at the completion a second of 101 is still to come. -/
theorem overflow_estimate_conservative_of_prompt :
    ((100000000 : UInt64).toNat : ℝ) ≤ (151000000 : ℝ) - (50000000 : UInt64).toNat := by
  have history := settles_parked ⟨0, 0, 50000000, 50000000⟩ (by decide) (by decide)
  let node : NodeScheduleState := ⟨TrackedRuntime.nodeConfig 1, 0, 0, 50000000, 51000000,
    50999000, 50000000, .online, 2, false⟩
  let samples : ℝ → ℕ := fun time => ⌈(time - (50000000 : UInt64).toNat) / 1000000⌉₊
  refine (@overflow_estimate_conservative _ _ _ _ history (by simp) node (by decide) samples ?_
    50000000).1 100000000 (by decide) 151000000 ?_ ?_
  · intro report member
    obtain rfl := List.mem_singleton.mp member
    exact atMostAtRate_ceil 50000000
  · change ((50000000 : ℕ) : ℝ) ≤ 151000000
    norm_num
  · change ((100 : ℕ) : ℝ) < ((⌈((151000000 : ℝ) - ((50000000 : ℕ) : ℝ)) / 1000000⌉₊ : ℕ) : ℝ) -
      ((0 : ℕ) : ℝ)
    norm_num

/-- A response of instant 0 that is durable after 50 seconds: the runtime then expects 100
seconds to the overflow, but a node at its rate overflows after 51. -/
theorem overflow_estimate_optimistic :
    ∃ (initial runtime : ChannelRuntime) (reports : List PullReport) (node : NodeScheduleState)
      (samples : ℝ → ℕ) (now : MonotonicMicros) (estimate : UInt64) (time : ℝ),
      ReportHistory 1 initial true reports runtime ∧ runtime.node? 1 = some node ∧
      (∀ report ∈ reports,
        AtMostAtRate node.config.outputRate samples report.reportedAt report.produced) ∧
      node.timeToOverflowUs now = .ok estimate ∧ (now.toNat : ℝ) ≤ time ∧
      (node.config.journalCapacitySamples.toNat : ℝ) < samples time - node.received.toNat ∧
      ¬ (estimate.toNat : ℝ) ≤ time - now.toNat := by
  refine ⟨pulling, _, [⟨0, 0, 0, 50000000⟩],
    ⟨TrackedRuntime.nodeConfig 1, 0, 0, 50000000, 51000000, 50999000, 50000000, .online, 2, false⟩,
    fun time => ⌈(time - (0 : UInt64).toNat) / 1000000⌉₊, 50000000, 100000000, 101000000,
    settles_parked ⟨0, 0, 0, 50000000⟩ (by decide) (by decide), by decide, ?_, by decide,
    ?_, ?_, ?_⟩
  · intro report member
    obtain rfl := List.mem_singleton.mp member
    exact atMostAtRate_ceil 0
  · change ((50000000 : ℕ) : ℝ) ≤ 101000000
    norm_num
  · change ((100 : ℕ) : ℝ) < ((⌈((101000000 : ℝ) - ((0 : ℕ) : ℝ)) / 1000000⌉₊ : ℕ) : ℝ) -
      ((0 : ℕ) : ℝ)
    norm_num
  · change ¬ ((100000000 : ℕ) : ℝ) ≤ (101000000 : ℝ) - ((50000000 : ℕ) : ℝ)
    norm_num

end ReportHistory

end SensorSystem.Host
