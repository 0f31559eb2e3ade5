import SensorSystem.Host.Channel.ChannelCalls

/-! The nodes on a channel stay isolated over every run whose calls are guarded: nobody recovers a
node while another one holds the channel, and nobody completes a parked measurement while the
recovery of the same work holds it. The source leaves both guards to its callers. -/

namespace SensorSystem.Host

open ChannelRuntime List
open Base

/-- The public operations that change the runtime. -/
inductive RuntimeCall where
  | registerNode (config : NodeScheduleConfig) (cursor : SequenceCursor) (now : MonotonicMicros)
  | reconfigureNode (config : NodeScheduleConfig) (now : MonotonicMicros)
  | setObservability (observability : ObservabilityProfile)
  | configureTimeSync (address : UInt8) (config : TimeSyncScheduleConfig)
      (first : MonotonicMicros)
  | configureTelemetry (address : UInt8) (config : TelemetryScheduleConfig)
      (first : MonotonicMicros)
  | reconfigureTelemetry (address : UInt8) (config : TelemetryScheduleConfig)
      (now : MonotonicMicros)
  | selectWork (now : MonotonicMicros)
  | selectMeasurement (now : MonotonicMicros)
  | selectShutdownMeasurement (address : UInt8) (now : MonotonicMicros)
  | completeMeasurement (dispatch : MeasurementDispatch) (progress : MeasurementProgress)
      (now : MonotonicMicros)
  | parkMeasurement (dispatch : MeasurementDispatch)
  | completeParkedMeasurement (dispatch : MeasurementDispatch) (progress : MeasurementProgress)
      (now : MonotonicMicros)
  | requireRecovery (dispatch : MeasurementDispatch) (cause : RecoveryCause)
      (now : MonotonicMicros)
  | failMeasurement (dispatch : MeasurementDispatch) (now : MonotonicMicros)
  | cancelMeasurement (dispatch : MeasurementDispatch)
  | completeRecovery (dispatch : RecoveryDispatch) (cursor produced : SequenceCursor)
      (now : MonotonicMicros)
  | failRecovery (dispatch : RecoveryDispatch) (now : MonotonicMicros)
  | recoverNode (address : UInt8) (cursor : SequenceCursor) (now : MonotonicMicros)
  | resumeNode (address : UInt8) (cursor produced : SequenceCursor) (now : MonotonicMicros)
  | replaceQuiescedNode (address : UInt8) (cursor produced : SequenceCursor)
      (now : MonotonicMicros)
  | completeTimeSync (dispatch : TimeSyncDispatch) (now : MonotonicMicros)
  | failTimeSync (dispatch : TimeSyncDispatch) (now : MonotonicMicros)
  | cancelTimeSync (dispatch : TimeSyncDispatch)
  | completeTelemetry (dispatch : TelemetryDispatch) (now : MonotonicMicros)
  | failTelemetry (dispatch : TelemetryDispatch) (now : MonotonicMicros)
  | cancelTelemetry (dispatch : TelemetryDispatch)

namespace RuntimeCall

/-- A call that selects nothing. -/
def unit (result : ScheduleResult Unit) : ScheduleResult (Option ChannelDispatch) :=
  (result.1.map fun _ => none, result.2)

def apply (runtime : ChannelRuntime) : RuntimeCall → ScheduleResult (Option ChannelDispatch)
  | registerNode config cursor now => unit (runtime.registerNode config cursor now)
  | reconfigureNode config now => unit (runtime.reconfigureNode config now)
  | setObservability observability => (.ok none, runtime.setObservability observability)
  | configureTimeSync address config first => unit (runtime.configureTimeSync address config first)
  | configureTelemetry address config first =>
    unit (runtime.configureTelemetry address config first)
  | reconfigureTelemetry address config now =>
    unit (runtime.reconfigureTelemetry address config now)
  | selectWork now => runtime.selectWork now
  | selectMeasurement now => runtime.selectMeasurement now
  | selectShutdownMeasurement address now => runtime.selectShutdownMeasurement address now
  | completeMeasurement dispatch progress now =>
    unit (runtime.completeMeasurement dispatch progress now)
  | parkMeasurement dispatch => unit (runtime.parkMeasurement dispatch)
  | completeParkedMeasurement dispatch progress now =>
    unit (runtime.completeParkedMeasurement dispatch progress now)
  | requireRecovery dispatch cause now => unit (runtime.requireRecovery dispatch cause now)
  | failMeasurement dispatch now => unit (runtime.failMeasurement dispatch now)
  | cancelMeasurement dispatch => unit (runtime.cancelMeasurement dispatch)
  | completeRecovery dispatch cursor produced now =>
    unit (runtime.completeRecovery dispatch cursor produced now)
  | failRecovery dispatch now => unit (runtime.failRecovery dispatch now)
  | recoverNode address cursor now => unit (runtime.recoverNode address cursor now)
  | resumeNode address cursor produced now =>
    unit (runtime.resumeNode address cursor produced now)
  | replaceQuiescedNode address cursor produced now =>
    unit (runtime.replaceQuiescedNode address cursor produced now)
  | completeTimeSync dispatch now => unit (runtime.completeTimeSync dispatch now)
  | failTimeSync dispatch now => unit (runtime.failTimeSync dispatch now)
  | cancelTimeSync dispatch => unit (runtime.cancelTimeSync dispatch)
  | completeTelemetry dispatch now => unit (runtime.completeTelemetry dispatch now)
  | failTelemetry dispatch now => unit (runtime.failTelemetry dispatch now)
  | cancelTelemetry dispatch => unit (runtime.cancelTelemetry dispatch)

/-- The node that a call names. -/
def node? : RuntimeCall → Option UInt8
  | registerNode config _ _ => some config.nodeAddress
  | reconfigureNode config _ => some config.nodeAddress
  | setObservability _ => none
  | configureTimeSync address _ _ => some address
  | configureTelemetry address _ _ => some address
  | reconfigureTelemetry address _ _ => some address
  | selectWork _ => none
  | selectMeasurement _ => none
  | selectShutdownMeasurement address _ => some address
  | completeMeasurement dispatch _ _ => some dispatch.nodeAddress
  | parkMeasurement dispatch => some dispatch.nodeAddress
  | completeParkedMeasurement dispatch _ _ => some dispatch.nodeAddress
  | requireRecovery dispatch _ _ => some dispatch.nodeAddress
  | failMeasurement dispatch _ => some dispatch.nodeAddress
  | cancelMeasurement dispatch => some dispatch.nodeAddress
  | completeRecovery dispatch _ _ _ => some dispatch.nodeAddress
  | failRecovery dispatch _ => some dispatch.nodeAddress
  | recoverNode address _ _ => some address
  | resumeNode address _ _ _ => some address
  | replaceQuiescedNode address _ _ _ => some address
  | completeTimeSync dispatch _ => some dispatch.nodeAddress
  | failTimeSync dispatch _ => some dispatch.nodeAddress
  | cancelTimeSync dispatch => some dispatch.nodeAddress
  | completeTelemetry dispatch _ => some dispatch.nodeAddress
  | failTelemetry dispatch _ => some dispatch.nodeAddress
  | cancelTelemetry dispatch => some dispatch.nodeAddress

/-- The guards that the callers owe: `recover_node` only while nobody else holds the channel, a
parked completion only while its work is not being recovered. -/
def Guarded (runtime : ChannelRuntime) : RuntimeCall → Prop
  | recoverNode address _ _ =>
    (runtime.node? address).any (·.availability.recoveryCause.isSome) →
      ∀ dispatch, runtime.activeDispatch = some dispatch → dispatch.nodeAddress = address
  | completeParkedMeasurement dispatch _ _ => (runtime.inFlightNode dispatch).isOk →
      runtime.activeDispatch ≠ some (.recovery ⟨dispatch.workId, dispatch.nodeAddress⟩)
  | _ => True

/-- The nodes that are parked after a call. -/
def parkedAfter (parked : List UInt8) :
    RuntimeCall → Except ChannelRuntimeError (Option ChannelDispatch) → List UInt8
  | parkMeasurement dispatch, .ok _ => dispatch.nodeAddress :: parked
  | _, .ok (some dispatch) =>
    if dispatch.onNode then parked.filter (· ≠ dispatch.nodeAddress) else parked
  | _, _ => parked

end RuntimeCall

namespace ChannelRuntime

variable {runtime after : ChannelRuntime} {address : UInt8} {parked : List UInt8}
  {dispatch : ChannelDispatch}

/-- A node that was selected is no longer parked. -/
theorem Isolated.selected (isolated : runtime.Isolated parked)
    (active : runtime.activeDispatch = some dispatch) (onNode : dispatch.onNode) :
    runtime.Isolated (parked.filter (· ≠ dispatch.nodeAddress)) where
  nodeAddresses := isolated.nodeAddresses
  serviceAddresses := isolated.serviceAddresses
  workIds := isolated.workIds
  active := isolated.active
  inFlight node member flight := by
    obtain ⟨own, inside, there, workId, -⟩ := (isolated.active _ active).node onNode
    by_cases here : node.address = dispatch.nodeAddress
    · rw [eq_of_key isolated.nodeAddresses member inside (here.trans there.symm)]
      exact .inl ⟨dispatch, active, onNode, workId.symm, there.symm⟩
    refine (isolated.inFlight node member flight).imp_right fun left => ?_
    exact mem_filter.mpr ⟨left, by simpa using here⟩

theorem Isolated.parks (isolated : runtime.Isolated parked)
    (active : runtime.activeDispatch = some dispatch) :
    runtime.release.Isolated (dispatch.nodeAddress :: parked) where
  nodeAddresses := isolated.nodeAddresses
  serviceAddresses service := by
    rw [services_release]
    exact isolated.serviceAddresses service
  workIds := isolated.workIds
  active := nofun
  inFlight node member flight := by
    refine .inr ?_
    rcases isolated.inFlight node member flight with ⟨other, same, -, -, there⟩ | left
    · cases active.symm.trans same
      exact there ▸ mem_cons_self
    · exact mem_cons_of_mem _ left

/-- A selection keeps the nodes isolated. -/
theorem Selects.isolated {result : ScheduleResult (Option ChannelDispatch)}
    (selects : Selects runtime result) (isolated : runtime.Isolated parked) :
    result.2.Isolated parked ∧ ∀ dispatch, result.1 = .ok (some dispatch) →
      result.2.activeDispatch = some dispatch := by
  cases selects with
  | nothing none => exact ⟨isolated, fun dispatch same => absurd same (none dispatch)⟩
  | dispatches active move =>
    refine ⟨move.isolated isolated, fun dispatch same => ?_⟩
    cases same
    exact active

end ChannelRuntime

namespace RuntimeCall

variable {runtime : ChannelRuntime} {address : UInt8} {parked : List UInt8} {call : RuntimeCall}

theorem move (isolated : runtime.Isolated parked) (guarded : call.Guarded runtime)
    (named : call.node? = some address) (parks : ∀ dispatch, call ≠ .parkMeasurement dispatch) :
    runtime.Move address (call.apply runtime).2 := by
  cases call with
  | setObservability | selectWork | selectMeasurement => cases named
  | parkMeasurement dispatch => exact absurd rfl (parks dispatch)
  | registerNode config cursor now =>
    cases named
    exact registerNode_move config cursor now
  | reconfigureNode config now =>
    cases named
    exact reconfigureNode_move config now
  | configureTimeSync at' config first =>
    cases named
    exact configureTimeSync_move config first
  | configureTelemetry at' config first =>
    cases named
    exact configureTelemetry_move config first
  | reconfigureTelemetry at' config now =>
    cases named
    exact reconfigureTelemetry_move config now
  | selectShutdownMeasurement at' now =>
    cases named
    exact selectShutdownMeasurement_move now
  | completeMeasurement dispatch progress now =>
    cases named
    exact completeMeasurement_move progress now
  | completeParkedMeasurement dispatch progress now =>
    cases named
    exact completeParkedMeasurement_move isolated progress now guarded
  | requireRecovery dispatch cause now =>
    cases named
    exact requireRecovery_move cause now
  | failMeasurement dispatch now =>
    cases named
    exact failMeasurement_move now
  | cancelMeasurement dispatch =>
    cases named
    exact cancelMeasurement_move
  | completeRecovery dispatch cursor produced now =>
    cases named
    exact completeRecovery_move cursor produced now
  | failRecovery dispatch now =>
    cases named
    exact failRecovery_move now
  | recoverNode at' cursor now =>
    cases named
    exact recoverNode_move cursor now guarded
  | resumeNode at' cursor produced now =>
    cases named
    exact resumeNode_move cursor produced now
  | replaceQuiescedNode at' cursor produced now =>
    cases named
    exact replaceQuiescedNode_move cursor produced now
  | completeTimeSync dispatch now =>
    cases named
    exact completeService_move table_timeSync
      checks_timeSync now
  | failTimeSync dispatch now =>
    cases named
    exact failService_move table_timeSync
      checks_timeSync now
  | cancelTimeSync dispatch =>
    cases named
    exact cancelService_move table_timeSync
      checks_timeSync
  | completeTelemetry dispatch now =>
    cases named
    exact completeService_move table_telemetry
      checks_telemetry now
  | failTelemetry dispatch now =>
    cases named
    exact failService_move table_telemetry
      checks_telemetry now
  | cancelTelemetry dispatch =>
    cases named
    exact cancelService_move table_telemetry
      checks_telemetry

/-- A call that selects a dispatch makes it the active one. -/
theorem active_of_selected (isolated : runtime.Isolated parked) {dispatch : ChannelDispatch}
    (selected : (call.apply runtime).1 = .ok (some dispatch)) :
    (call.apply runtime).2.activeDispatch = some dispatch := by
  have none : ∀ result : ScheduleResult Unit, (unit result).1 ≠ .ok (some dispatch) := by
    rintro ⟨result, _⟩ same
    cases result <;> cases same
  cases call with
  | selectWork now =>
    exact ((selectWork_selects isolated now).isolated isolated).2 _ selected
  | selectMeasurement now =>
    exact ((selectMeasurement_selects isolated now).isolated isolated).2 _ selected
  | selectShutdownMeasurement at' now =>
    exact ((selectShutdownMeasurement_selects now).isolated isolated).2 _ selected
  | setObservability observability => cases selected
  | _ => exact absurd selected (none _)

/-- A guarded call keeps the nodes isolated. -/
theorem isolated_tables (isolated : runtime.Isolated parked) (guarded : call.Guarded runtime)
    (parks : ∀ dispatch, call ≠ .parkMeasurement dispatch) :
    (call.apply runtime).2.Isolated parked := by
  cases named : call.node? with
  | some address => exact (move isolated guarded named parks).isolated isolated
  | none =>
    cases call with
    | setObservability observability =>
      exact (@setObservability_move runtime 0 observability).isolated isolated
    | selectWork now =>
      exact ((selectWork_selects isolated now).isolated isolated).1
    | selectMeasurement now =>
      exact ((selectMeasurement_selects isolated now).isolated isolated).1
    | _ => cases named

theorem parkedAfter_of_none {result : Except ChannelRuntimeError (Option ChannelDispatch)}
    (parks : ∀ dispatch, call ≠ .parkMeasurement dispatch)
    (none : ∀ dispatch, result ≠ .ok (some dispatch)) :
    parkedAfter parked call result = parked := by
  unfold parkedAfter
  split
  · exact absurd rfl (parks _)
  · exact absurd rfl (none _)
  · rfl

/-- One guarded call keeps the nodes isolated. -/
theorem isolated_after (isolated : runtime.Isolated parked) (guarded : call.Guarded runtime) :
    (call.apply runtime).2.Isolated (call.parkedAfter parked (call.apply runtime).1) := by
  by_cases parks : ∃ dispatch, call = .parkMeasurement dispatch
  · obtain ⟨dispatch, rfl⟩ := parks
    rw [apply]
    rcases runtime.parkMeasurement_cases dispatch with ⟨error, done⟩ | ⟨active, done⟩
    · rw [done]
      exact isolated
    · rw [done]
      exact isolated.parks active
  push Not at parks
  have tables := isolated_tables isolated guarded parks
  cases result : (call.apply runtime).1 with
  | error error =>
    rw [parkedAfter_of_none parks fun dispatch same => by cases same]
    exact tables
  | ok selected =>
    cases selected with
    | none =>
      rw [parkedAfter_of_none parks fun dispatch same => by cases same]
      exact tables
    | some dispatch =>
      have active := active_of_selected isolated result
      have after : parkedAfter parked call (.ok (some dispatch)) =
          if dispatch.onNode then parked.filter (· ≠ dispatch.nodeAddress) else parked := by
        unfold parkedAfter
        split
        · exact absurd rfl (parks _)
        · rename_i same
          cases same
          rfl
        · rename_i other _
          exact absurd rfl (other _)
      rw [after]
      split
      · rename_i onNode
        exact tables.selected active onNode
      · exact tables

/-- A guarded call about one node leaves the others alone. -/
theorem frame (isolated : runtime.Isolated parked) (guarded : call.Guarded runtime)
    (named : call.node? = some address) : runtime.Frame address (call.apply runtime).2 := by
  by_cases parks : ∃ dispatch, call = .parkMeasurement dispatch
  · obtain ⟨dispatch, rfl⟩ := parks
    cases named
    rw [apply]
    rcases runtime.parkMeasurement_cases dispatch with ⟨error, done⟩ | ⟨active, done⟩
    · rw [done]
      exact (ChannelRuntime.Move.same).frame
    rw [done]
    refine ⟨rfl, fun service => by rw [unit, services_release], ?_⟩
    intro other same different
    cases active.symm.trans same
    exact absurd rfl different
  · push Not at parks
    exact (move isolated guarded named parks).frame

end RuntimeCall

/-- The calls by which the owner of a dispatch completes, fails or cancels it. -/
inductive Settles : ChannelDispatch → RuntimeCall → Prop
  | completeMeasurement (dispatch progress now) :
      Settles (.measurement dispatch) (.completeMeasurement dispatch progress now)
  | failMeasurement (dispatch now) :
      Settles (.measurement dispatch) (.failMeasurement dispatch now)
  | cancelMeasurement (dispatch) : Settles (.measurement dispatch) (.cancelMeasurement dispatch)
  | completeRecovery (dispatch cursor produced now) :
      Settles (.recovery dispatch) (.completeRecovery dispatch cursor produced now)
  | failRecovery (dispatch now) : Settles (.recovery dispatch) (.failRecovery dispatch now)
  | completeTimeSync (dispatch now) :
      Settles (.timeSync dispatch) (.completeTimeSync dispatch now)
  | failTimeSync (dispatch now) : Settles (.timeSync dispatch) (.failTimeSync dispatch now)
  | cancelTimeSync (dispatch) : Settles (.timeSync dispatch) (.cancelTimeSync dispatch)
  | completeTelemetry (dispatch now) :
      Settles (.telemetry dispatch) (.completeTelemetry dispatch now)
  | failTelemetry (dispatch now) : Settles (.telemetry dispatch) (.failTelemetry dispatch now)
  | cancelTelemetry (dispatch) : Settles (.telemetry dispatch) (.cancelTelemetry dispatch)

/-- The runtime does not know the dispatch that a call names. -/
def ChannelRuntimeError.refusesDispatch : ChannelRuntimeError → Bool
  | staleDispatch => true
  | unknownNode _ => true
  | recoveryNotRequired _ => true
  | invariantViolation => true
  | _ => false

/-- The owner can settle the dispatch: no call of his is refused. -/
def ChannelRuntime.Usable (runtime : ChannelRuntime) (dispatch : ChannelDispatch) : Prop :=
  ∀ call, Settles dispatch call → ∀ error, (call.apply runtime).1 = .error error →
    error.refusesDispatch = false

namespace ChannelRuntime

variable {runtime after : ChannelRuntime} {address : UInt8} {parked : List UInt8}

theorem unit_error {result : ScheduleResult Unit} {error : ChannelRuntimeError}
    (failed : (RuntimeCall.unit result).1 = .error error) : result.1 = .error error := by
  obtain ⟨result, runtime⟩ := result
  cases result with
  | error => exact congrArg _ (Except.error.inj failed)
  | ok => cases failed

variable {now : MonotonicMicros} {progress : MeasurementProgress}

variable {error : ChannelRuntimeError}

theorem checkedTime_error {delay : UInt64}
    (failed : checkedTime now delay = .error error) : error = .timeOverflow := by
  rw [checkedTime] at failed
  split at failed <;> cases failed
  rfl

theorem validate_error (failed : progress.validate = .error error) :
    error = .receivedAheadOfProduced := by
  rw [MeasurementProgress.validate] at failed
  split at failed <;> cases failed
  rfl

theorem nextMeasurementReadyAt_error {config : NodeScheduleConfig}
    (failed : nextMeasurementReadyAt config progress now = .error error) :
    error = .timeOverflow := by
  rw [nextMeasurementReadyAt] at failed
  split at failed <;> cases failed
  rfl

theorem settleMeasurement_error {node : NodeScheduleState}
    {free : ChannelRuntime → ChannelRuntime}
    (failed : (runtime.settleMeasurement node progress now free).1 = .error error) :
    error.refusesDispatch = false := by
  rw [settleMeasurement] at failed
  split at failed
  · cases failed
    rfl
  cases time : checkedTime now node.config.maximumServiceInterval.value with
  | error =>
    rw [time] at failed
    cases failed
    rw [checkedTime_error time]
    rfl
  | ok deadline =>
    rw [time] at failed
    rcases runtime.allocateWorkId_cases with ⟨next, done⟩ | ⟨next, id, done, -⟩
    · rw [done] at failed
      cases failed
      rfl
    rw [done] at failed
    cases ready : nextMeasurementReadyAt node.config progress now with
    | error =>
      rw [ready] at failed
      cases failed
      rw [nextMeasurementReadyAt_error ready]
      rfl
    | ok readyAt =>
      rw [ready] at failed
      cases failed

/-- What is active passes its own check. -/
theorem Isolated.activeNode (isolated : runtime.Isolated parked) {dispatch : MeasurementDispatch}
    (active : runtime.activeDispatch = some (.measurement dispatch)) :
    ∃ node, runtime.activeNode dispatch = .ok node := by
  obtain ⟨node, member, there, workId, flight, samples⟩ := isolated.active _ active
  refine ⟨node, ?_⟩
  rw [ChannelRuntime.activeNode, if_neg (not_not.mpr active), inFlightNode, node?,
    find?_key isolated.nodeAddresses member there]
  simp [flight, workId, samples]

theorem Isolated.activeRecovery (isolated : runtime.Isolated parked)
    {dispatch : RecoveryDispatch} (active : runtime.activeDispatch = some (.recovery dispatch)) :
    ∃ node cause, runtime.activeRecovery dispatch = .ok node ∧
      node.availability.recoveryCause = some cause := by
  obtain ⟨node, member, there, workId, flight, cause⟩ := isolated.active _ active
  obtain ⟨cause, known⟩ := Option.isSome_iff_exists.mp cause
  refine ⟨node, cause, ?_, known⟩
  rw [ChannelRuntime.activeRecovery, if_neg (not_not.mpr active), node?,
    find?_key isolated.nodeAddresses member there]
  simp [flight, workId]

theorem Isolated.activeService (isolated : runtime.Isolated parked) {service : Service}
    {dispatch : WorkDispatch} (active : runtime.activeDispatch = some (service.dispatch dispatch)) :
    ∃ state, runtime.activeService (service.dispatch dispatch) (runtime.services service)
      dispatch = .ok state := by
  obtain ⟨state, member, there, workId, flight⟩ := holds_service.mp (isolated.active _ active)
  refine ⟨state, ?_⟩
  rw [ChannelRuntime.activeService, if_neg (not_not.mpr active),
    find?_key (isolated.serviceAddresses service) member there]
  simp [flight, workId]

section Errors

variable {state : ServiceScheduleState}
  {update : ChannelRuntime → UInt8 → (ServiceScheduleState → ServiceScheduleState) →
    ChannelRuntime}

theorem completeService_error
    (failed : (runtime.completeService (.ok state) now update).1 = .error error) :
    error.refusesDispatch = false := by
  rw [completeService] at failed
  cases time : checkedTime now state.config.interval.value with
  | error =>
    rw [time] at failed
    cases failed
    rw [checkedTime_error time]
    rfl
  | ok deadline =>
    rw [time] at failed
    rcases runtime.allocateWorkId_cases with ⟨next, done⟩ | ⟨next, id, done, -⟩
    · rw [done] at failed
      cases failed
      rfl
    · rw [done] at failed
      cases failed

theorem failService_error (failed : (runtime.failService (.ok state) now update).1 = .error error) :
    error.refusesDispatch = false := by
  rw [failService] at failed
  cases time : checkedTime now state.config.retryDelay.value with
  | error =>
    rw [time] at failed
    cases failed
    rw [checkedTime_error time]
    rfl
  | ok readyAt =>
    rw [time] at failed
    cases failed

end Errors

/-- The owner of the active dispatch can settle it. -/
theorem Isolated.usable (isolated : runtime.Isolated parked) {dispatch : ChannelDispatch}
    (active : runtime.activeDispatch = some dispatch) : runtime.Usable dispatch := by
  intro call settles error failed
  cases settles with
  | completeMeasurement dispatch progress now =>
    obtain ⟨node, checked⟩ := isolated.activeNode active
    have failed := unit_error failed
    rw [completeMeasurement, checked] at failed
    cases valid : progress.validate with
    | error =>
      rw [valid] at failed
      cases failed
      rw [validate_error valid]
      rfl
    | ok progress =>
      rw [valid] at failed
      exact settleMeasurement_error failed
  | failMeasurement dispatch now =>
    obtain ⟨node, checked⟩ := isolated.activeNode active
    have failed := unit_error failed
    rw [failMeasurement, checked] at failed
    dsimp only at failed
    split at failed
    · rename_i time
      cases failed
      rw [checkedTime_error time]
      rfl
    · cases failed
  | cancelMeasurement dispatch =>
    obtain ⟨node, checked⟩ := isolated.activeNode active
    have failed := unit_error failed
    rw [cancelMeasurement, checked] at failed
    cases failed
  | completeRecovery dispatch cursor produced now =>
    obtain ⟨node, cause, checked, known⟩ := isolated.activeRecovery active
    have failed := unit_error failed
    rw [completeRecovery, checked] at failed
    dsimp only at failed
    rw [if_neg (by simp [known])] at failed
    split at failed
    · cases failed
      rfl
    rcases runtime.allocateWorkId_cases with ⟨next, done⟩ | ⟨next, id, done, -⟩
    · rw [done] at failed
      cases failed
      rfl
    · rw [done] at failed
      cases failed
  | failRecovery dispatch now =>
    obtain ⟨node, cause, checked, known⟩ := isolated.activeRecovery active
    have failed := unit_error failed
    rw [failRecovery, checked] at failed
    dsimp only at failed
    rw [known] at failed
    dsimp only at failed
    split at failed
    · rename_i time
      cases failed
      rw [checkedTime_error time]
      rfl
    · cases failed
  | completeTimeSync dispatch now =>
    obtain ⟨state, checked⟩ := @Isolated.activeService _ _ isolated .timeSync _ active
    have failed := unit_error failed
    rw [completeTimeSync, activeTimeSync, show runtime.activeService (.timeSync dispatch)
      runtime.timeSync dispatch = _ from checked] at failed
    exact completeService_error failed
  | failTimeSync dispatch now =>
    obtain ⟨state, checked⟩ := @Isolated.activeService _ _ isolated .timeSync _ active
    have failed := unit_error failed
    rw [failTimeSync, activeTimeSync, show runtime.activeService (.timeSync dispatch)
      runtime.timeSync dispatch = _ from checked] at failed
    exact failService_error failed
  | cancelTimeSync dispatch =>
    obtain ⟨state, checked⟩ := @Isolated.activeService _ _ isolated .timeSync _ active
    have failed := unit_error failed
    rw [cancelTimeSync, activeTimeSync, show runtime.activeService (.timeSync dispatch)
      runtime.timeSync dispatch = _ from checked] at failed
    cases failed
  | completeTelemetry dispatch now =>
    obtain ⟨state, checked⟩ := @Isolated.activeService _ _ isolated .telemetry _ active
    have failed := unit_error failed
    rw [completeTelemetry, activeTelemetry, show runtime.activeService (.telemetry dispatch)
      runtime.telemetry dispatch = _ from checked] at failed
    exact completeService_error failed
  | failTelemetry dispatch now =>
    obtain ⟨state, checked⟩ := @Isolated.activeService _ _ isolated .telemetry _ active
    have failed := unit_error failed
    rw [failTelemetry, activeTelemetry, show runtime.activeService (.telemetry dispatch)
      runtime.telemetry dispatch = _ from checked] at failed
    exact failService_error failed
  | cancelTelemetry dispatch =>
    obtain ⟨state, checked⟩ := @Isolated.activeService _ _ isolated .telemetry _ active
    have failed := unit_error failed
    rw [cancelTelemetry, activeTelemetry, show runtime.activeService (.telemetry dispatch)
      runtime.telemetry dispatch = _ from checked] at failed
    cases failed

theorem Isolated.start {scheduler : ChannelScheduler} {observability : ObservabilityProfile}
    {maxNodes : Nat} {seed : UInt64}
    (made : ChannelRuntime.new scheduler observability maxNodes seed = .ok runtime) :
    runtime.Isolated [] := by
  rw [ChannelRuntime.new, guard_eq_ok] at made
  cases made.2
  refine ⟨nodup_nil, fun service => ?_, nodup_nil, nofun, nofun⟩
  cases service <;> exact nodup_nil

end ChannelRuntime

/-- A runtime with the nodes whose measurement is parked. -/
structure TrackedRuntime where
  runtime : ChannelRuntime
  parked : List UInt8

namespace TrackedRuntime

variable (tracked : TrackedRuntime)

def step (call : RuntimeCall) : TrackedRuntime :=
  let (result, runtime) := call.apply tracked.runtime
  ⟨runtime, call.parkedAfter tracked.parked result⟩

def run (calls : List RuntimeCall) : TrackedRuntime :=
  calls.foldl step tracked

/-- Every call of a run is guarded in the state it is made in. -/
def GuardedRun : TrackedRuntime → List RuntimeCall → Prop
  | _, [] => True
  | tracked, call :: rest => call.Guarded tracked.runtime ∧ GuardedRun (tracked.step call) rest

theorem run_isolated {tracked : TrackedRuntime} {calls : List RuntimeCall}
    (isolated : tracked.runtime.Isolated tracked.parked) (guarded : GuardedRun tracked calls) :
    (tracked.run calls).runtime.Isolated (tracked.run calls).parked := by
  induction calls generalizing tracked with
  | nil => exact isolated
  | cons call rest ih =>
    obtain ⟨first, later⟩ := guarded
    exact ih (call.isolated_after isolated first) later

variable {scheduler : ChannelScheduler} {observability : ObservabilityProfile}
  {maxNodes : Nat} {seed : UInt64} {start : ChannelRuntime}

/-- In every state of a guarded run the nodes are isolated, and a guarded call about one
node leaves the others and their dispatch alone, which its owner can then settle. -/
theorem isolated_of_guarded
    (made : ChannelRuntime.new scheduler observability maxNodes seed = .ok start)
    {calls : List RuntimeCall} (guarded : GuardedRun ⟨start, []⟩ calls) :
    let reached := run ⟨start, []⟩ calls
    reached.runtime.Isolated reached.parked ∧
      ∀ (call : RuntimeCall) (address : UInt8), call.node? = some address →
        call.Guarded reached.runtime →
        reached.runtime.Frame address (call.apply reached.runtime).2 ∧
        ∀ dispatch, reached.runtime.activeDispatch = some dispatch →
          dispatch.nodeAddress ≠ address →
            (call.apply reached.runtime).2.Usable dispatch := by
  intro reached
  have isolated : reached.runtime.Isolated reached.parked := run_isolated (.start made) guarded
  refine ⟨isolated, fun call address named guardedCall => ?_⟩
  have frame := call.frame isolated guardedCall named
  refine ⟨frame, fun dispatch active other => ?_⟩
  exact (call.isolated_after isolated guardedCall).usable (frame.active dispatch active other)

/-- A runtime for two nodes. -/
def twoNodes : ChannelRuntime where
  scheduler := ⟨⟨.milli, ⟨5000, by decide⟩⟩⟩
  observability := .production
  maxNodes := 2
  nextWorkId := 1
  nodes := []
  timeSync := []
  telemetry := []
  activeDispatch := none

def nodeConfig (address : UInt8) : NodeScheduleConfig where
  nodeAddress := address
  outputRate := ⟨1000000000, by decide⟩
  journalCapacitySamples := 100
  maxSampleChunkSamples := 10
  targetChunkSamples := 10
  measurementSlot := .milli
  maximumServiceInterval := .second
  retryBaseDelay := .milli
  retryMaxDelay := .milli
  retryAttemptLimit := 3
  offlineProbeInterval := .second

/-- Node 1 needs recovery while a measurement of node 2 is on the channel. -/
def recoveryBesideMeasurement : List RuntimeCall :=
  [.registerNode (nodeConfig 1) 0 0, .registerNode (nodeConfig 2) 0 0,
    .selectShutdownMeasurement 1 0, .requireRecovery ⟨1, 1, 10⟩ .invalidResponse 0,
    .selectShutdownMeasurement 2 0]

/-- Node 1 is being recovered under the work id of its last measurement. -/
def recoveryOfMeasurement : List RuntimeCall :=
  [.registerNode (nodeConfig 1) 0 0, .selectShutdownMeasurement 1 0,
    .requireRecovery ⟨1, 1, 10⟩ .invalidResponse 0, .selectWork 0]

theorem isolated_of_guarded_twoNodes : let reached := run ⟨twoNodes, []⟩ recoveryBesideMeasurement
    reached.runtime.Isolated reached.parked ∧
      reached.runtime.activeDispatch = some (.measurement ⟨2, 2, 10⟩) := by
  refine ⟨?_, by decide⟩
  have made : ChannelRuntime.new twoNodes.scheduler .production 2 1 = .ok twoNodes := by decide
  have guarded : GuardedRun ⟨twoNodes, []⟩ recoveryBesideMeasurement :=
    ⟨trivial, trivial, trivial, trivial, trivial, trivial⟩
  exact (isolated_of_guarded made guarded).1

def afterRecovery : TrackedRuntime :=
  (run ⟨twoNodes, []⟩ recoveryBesideMeasurement).step (.recoverNode 1 0 0)

def afterCompletion : TrackedRuntime :=
  (run ⟨twoNodes, []⟩ recoveryOfMeasurement).step
    (.completeParkedMeasurement ⟨1, 1, 10⟩ ⟨0, 0⟩ 0)

/-- Recovering node 1 takes the channel from node 2, which stays in flight; and a
measurement completed beside its recovery leaves a dispatch without its entry. -/
theorem isolation_lost : ¬ afterRecovery.runtime.Isolated afterRecovery.parked ∧
      ¬ afterRecovery.runtime.Usable (.measurement ⟨2, 2, 10⟩) ∧
      ¬ afterCompletion.runtime.Isolated afterCompletion.parked := by
  refine ⟨fun isolated => ?_, fun usable => ?_, fun isolated => ?_⟩
  · have flight : ∃ node ∈ afterRecovery.runtime.nodes, node.inFlight = true := by decide
    have idle : afterRecovery.runtime.activeDispatch = none := by decide
    have unparked : afterRecovery.parked = [] := by decide
    obtain ⟨node, member, flight⟩ := flight
    rcases isolated.inFlight node member flight with ⟨dispatch, active, -⟩ | parked
    · rw [idle] at active
      cases active
    · rw [unparked] at parked
      cases parked
  · have refused := usable _ (.cancelMeasurement _) .staleDispatch (by decide)
    cases refused
  · obtain ⟨node, member, -, -, flight, -⟩ := isolated.active (.recovery ⟨1, 1⟩) (by decide)
    have rest : ∀ node ∈ afterCompletion.runtime.nodes, node.inFlight = false := by decide
    rw [rest node member] at flight
    cases flight

end TrackedRuntime

end SensorSystem.Host
