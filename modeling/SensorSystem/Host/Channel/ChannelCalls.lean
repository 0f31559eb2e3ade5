import SensorSystem.Host.Channel.ChannelMoves

/-! The public operations of the runtime as one type, with the move that each of them makes. Two
of them make one under a condition only, see `RuntimeCall.Guarded`. -/

namespace SensorSystem.Host

open List Option Base

namespace ChannelRuntime

variable {runtime : ChannelRuntime} {address : UInt8} {parked : List UInt8}

theorem Move.same : Move runtime address runtime := .keeps rfl (fun _ => rfl) rfl

theorem allocateLoop_cases (rounds : Nat) (runtime : ChannelRuntime) :
    (∃ next, allocateLoop rounds runtime =
      (.error .workIdExhausted, { runtime with nextWorkId := next })) ∨
    ∃ next id, allocateLoop rounds runtime = (.ok id, { runtime with nextWorkId := next }) ∧
      id ∉ runtime.workIds := by
  induction rounds generalizing runtime with
  | zero => exact .inl ⟨runtime.nextWorkId, rfl⟩
  | succ rounds ih =>
    rw [allocateLoop]
    split
    · exact ih { runtime with nextWorkId := atLeastOne (atLeastOne runtime.nextWorkId + 1) }
    rename_i fresh
    exact .inr ⟨_, _, rfl, fresh⟩

/-- An allocated work id is fresh, and nothing else changes. -/
theorem allocateWorkId_cases (runtime : ChannelRuntime) : (∃ next, runtime.allocateWorkId =
      (.error .workIdExhausted, { runtime with nextWorkId := next })) ∨
    ∃ next id, runtime.allocateWorkId = (.ok id, { runtime with nextWorkId := next }) ∧
      id ∉ runtime.workIds :=
  allocateLoop_cases _ runtime

theorem Move.allocated (next : UInt64) : Move runtime address { runtime with nextWorkId := next } :=
  .keeps rfl (fun service => by cases service <;> rfl) rfl

section NodeUpdates

variable {old : NodeScheduleState} {update : NodeScheduleState → NodeScheduleState}

/-- A node comes to rest; `free` says whether it held the channel. -/
theorem Move.settled (next : UInt64) (found : runtime.node? address = some old)
    (here : ∀ node, (update node).address = node.address)
    (fresh : (update old).workId = old.workId ∨ (update old).workId ∉ runtime.workIds)
    (rest : (update old).inFlight = false) {free : ChannelRuntime → ChannelRuntime}
    (freed : (free = release ∧ ∀ dispatch, runtime.activeDispatch = some dispatch →
        dispatch.nodeAddress = address) ∨
      (free = id ∧ ∀ dispatch, runtime.activeDispatch = some dispatch → dispatch.onNode →
        dispatch.nodeAddress ≠ address)) : Move runtime address
      (free (updateNode { runtime with nextWorkId := next } address update)) := by
  have here' : ∀ node, node.address = address → (update node).address = address :=
    fun node there => (here node).trans there
  rcases freed with ⟨rfl, own⟩ | ⟨rfl, apart⟩
  · exact .node found rfl here' fresh (fun service => by cases service <;> rfl)
      (.rests rest rfl own)
  · exact .node found rfl here' fresh (fun service => by cases service <;> rfl)
      (.leaves rest rfl apart)

theorem Move.edited (next : UInt64) (found : runtime.node? address = some old)
    (here : ∀ node, node.address = address → (update node).address = address)
    (fresh : (update old).workId = old.workId ∨ (update old).workId ∉ runtime.workIds)
    (flight : (update old).inFlight = old.inFlight)
    (described : ∀ dispatch, runtime.activeDispatch = some dispatch → old.inFlight →
      (update old).workId = old.workId ∧
        (update old).config.maxSampleChunkSamples = old.config.maxSampleChunkSamples ∧
        (∀ own, dispatch = .recovery own → old.availability.recoveryCause.isSome →
          (update old).availability.recoveryCause.isSome)) :
    Move runtime address (updateNode { runtime with nextWorkId := next } address update) :=
  .node found rfl here fresh (fun service => by cases service <;> rfl)
    (.stays flight rfl described)

end NodeUpdates

/-- Two updates of one node are one. -/
theorem updateNode_updateNode (update next : NodeScheduleState → NodeScheduleState)
    (keeps : ∀ node, (update node).address = node.address) :
    (runtime.updateNode address update).updateNode address next =
      runtime.updateNode address (next ∘ update) := by
  rw [updateNode, updateNode, updateNode, updateFirst_updateFirst]
  exact fun node there => by simpa [keeps node] using there

theorem validate_ok {config valid : NodeScheduleConfig} (accepted : config.validate = .ok valid) :
    valid = config := by
  simp only [NodeScheduleConfig.validate, guard_eq_ok] at accepted
  exact (Except.ok.inj accepted.2.2.2.2.2.2.2).symm

theorem node?_none (none : runtime.node? address = none) :
    ∀ other ∈ runtime.nodes, other.address ≠ address :=
  fun other member there => by simpa [there] using find?_eq_none.mp none other member

variable (config : NodeScheduleConfig)

theorem registerNode_move (cursor : SequenceCursor) (now : MonotonicMicros) :
    Move runtime config.nodeAddress (runtime.registerNode config cursor now).2 := by
  rw [registerNode]
  split
  · exact .same
  rename_i valid accepted
  cases validate_ok accepted
  split
  · exact .same
  split
  · exact .same
  rename_i unknown
  have new := node?_none (not_isSome_iff_eq_none.mp unknown)
  rcases runtime.allocateWorkId_cases with ⟨next, done⟩ | ⟨next, id, done, fresh⟩
  · rw [done]
    exact .allocated next
  · rw [done]
    exact .addsNode rfl rfl new fresh rfl (fun service => by cases service <;> rfl) rfl

theorem reconfigureNode_move (now : MonotonicMicros) :
    Move runtime config.nodeAddress (runtime.reconfigureNode config now).2 := by
  rw [reconfigureNode]
  split
  · exact .same
  rename_i valid accepted
  cases validate_ok accepted
  split
  · exact .same
  rename_i idle
  split
  · exact .same
  rename_i node found
  split
  · exact .same
  refine Move.edited runtime.nextWorkId found (fun _ _ => rfl) (.inl rfl) rfl ?_
  intro dispatch active
  rw [active] at idle
  exact absurd rfl idle

theorem setObservability_move (observability : ObservabilityProfile) :
    Move runtime address (runtime.setObservability observability) :=
  .keeps rfl (fun service => by cases service <;> rfl) rfl

theorem any_nodeAddress {states : List ServiceScheduleState}
    (none : ¬ states.any (·.nodeAddress = address)) :
    ∀ other ∈ states, other.nodeAddress ≠ address := by
  simpa using none

theorem configureTimeSync_move (config : TimeSyncScheduleConfig) (first : MonotonicMicros) :
    Move runtime address (runtime.configureTimeSync address config first).2 := by
  rw [configureTimeSync]
  split
  · exact .same
  split
  · exact .same
  split
  · exact .same
  split
  · exact .same
  rename_i unknown
  rcases runtime.allocateWorkId_cases with ⟨next, done⟩ | ⟨next, id, done, fresh⟩
  · rw [done]
    exact .allocated next
  rw [done]
  refine .addsService .timeSync rfl rfl (any_nodeAddress unknown) fresh rfl ?_ rfl
  intro other different
  cases other <;> trivial

theorem configureTelemetry_move (config : TelemetryScheduleConfig) (first : MonotonicMicros) :
    Move runtime address (runtime.configureTelemetry address config first).2 := by
  rw [configureTelemetry]
  split
  · exact .same
  split
  · exact .same
  split
  · exact .same
  split
  · exact .same
  rename_i unknown
  rcases runtime.allocateWorkId_cases with ⟨next, done⟩ | ⟨next, id, done, fresh⟩
  · rw [done]
    exact .allocated next
  rw [done]
  refine .addsService .telemetry rfl rfl (any_nodeAddress unknown) fresh rfl ?_ rfl
  intro other different
  cases other <;> trivial

variable {after : ChannelRuntime}

theorem services_ne_telemetry (timeSync : after.timeSync = runtime.timeSync) :
    ∀ other ≠ Service.telemetry, after.services other = runtime.services other := by
  intro other different
  cases other with
  | timeSync => exact timeSync
  | telemetry => exact absurd rfl different

theorem services_ne_timeSync (telemetry : after.telemetry = runtime.telemetry) :
    ∀ other ≠ Service.timeSync, after.services other = runtime.services other := by
  intro other different
  cases other with
  | timeSync => exact absurd rfl different
  | telemetry => exact telemetry

theorem reconfigureTelemetry_move (config : TelemetryScheduleConfig) (now : MonotonicMicros) :
    Move runtime address (runtime.reconfigureTelemetry address config now).2 := by
  rw [reconfigureTelemetry]
  split
  · exact .same
  split
  · exact .same
  rename_i state found
  have configured : ∀ valid : ServiceScheduleConfig, Move runtime address
      (runtime.updateTelemetry address fun state => { state with config := valid }) :=
    fun valid => .service .telemetry found rfl (fun _ => rfl) (.inl rfl) rfl
      (services_ne_telemetry rfl) (.stays rfl rfl rfl)
  split
  · exact configured _
  split
  · exact configured _
  refine .service .telemetry found (updateFirst_updateFirst _ fun _ there => ?_)
    (fun _ => ?_) (.inl ?_) rfl (services_ne_telemetry ?_) (.stays ?_ rfl ?_)
  · exact there
  all_goals rfl

/-- A table entry by its work id is the one by its address. -/
theorem updateFirst_workId {α : Type} {id : α → UInt64} {key : α → UInt8} {entries : List α}
    {entry : α} {wanted : UInt64} (ids : (entries.map id).Nodup) (keys : (entries.map key).Nodup)
    (found : entries.find? (id · = wanted) = some entry) (update : α → α) :
    updateFirst (id · = wanted) update entries =
      updateFirst (key · = key entry) update entries := by
  have member := mem_of_find?_eq_some found
  have here : id entry = wanted := by simpa using find?_some found
  refine updateFirst_congr entries fun other inside => decide_eq_decide.mpr ⟨?_, ?_⟩
  · intro same
    rw [eq_of_key ids inside member (same.trans here.symm)]
  · intro same
    rw [eq_of_key keys inside member same, here]

theorem Isolated.nodeIds (isolated : runtime.Isolated parked) :
    (runtime.nodes.map (·.workId)).Nodup :=
  (nodup_append.mp isolated.workIds).1

theorem Isolated.serviceIds (isolated : runtime.Isolated parked) (service : Service) :
    ((runtime.services service).map (·.workId)).Nodup :=
  (nodup_append.mp ((runtime.workIds_perm service).nodup_iff.mp isolated.workIds)).1

/-- Nothing happens, or a dispatch becomes active together with its entry. -/
inductive Selects (runtime : ChannelRuntime) : ScheduleResult (Option ChannelDispatch) → Prop
  | nothing {result : Except ChannelRuntimeError (Option ChannelDispatch)}
      (none : ∀ dispatch, result ≠ .ok (some dispatch)) : Selects runtime (result, runtime)
  | dispatches {dispatch : ChannelDispatch} {after : ChannelRuntime}
      (active : after.activeDispatch = some dispatch)
      (move : Move runtime dispatch.nodeAddress after) :
      Selects runtime (.ok (some dispatch), after)

variable (isolated : runtime.Isolated parked)

include isolated

theorem dispatchSelected_selects (idle : runtime.activeDispatch = none) (selected : ScheduledWork) :
    Selects runtime (runtime.dispatchSelected selected) := by
  rw [dispatchSelected]
  split
  · split
    · exact .nothing nofun
    rename_i node found
    split
    · exact .nothing nofun
    rename_i cause
    have same := updateFirst_workId isolated.nodeIds isolated.nodeAddresses found
    have member := mem_of_find?_eq_some found
    refine .dispatches rfl (.node (find?_key isolated.nodeAddresses member rfl) (same _)
      (fun _ there => there) (.inl rfl) (fun service => by cases service <;> rfl) ?_)
    exact .recovers idle rfl (isSome_iff_ne_none.mpr cause) rfl
  · split
    · exact .nothing nofun
    rename_i node found
    have same := updateFirst_workId isolated.nodeIds isolated.nodeAddresses found
    have member := mem_of_find?_eq_some found
    exact .dispatches rfl (.node (find?_key isolated.nodeAddresses member rfl) (same _)
      (fun _ there => there) (.inl rfl) (fun service => by cases service <;> rfl)
      (.measures idle rfl rfl))
  · split
    · exact .nothing nofun
    rename_i state found
    have keys := isolated.serviceAddresses .timeSync
    have same := updateFirst_workId (isolated.serviceIds .timeSync) keys found
    have member := mem_of_find?_eq_some found
    exact .dispatches rfl (.service .timeSync (find?_key keys member rfl) (same _)
      (fun _ => rfl) (.inl rfl) rfl (services_ne_timeSync rfl) (.starts idle rfl rfl))
  · split
    · exact .nothing nofun
    rename_i state found
    have keys := isolated.serviceAddresses .telemetry
    have same := updateFirst_workId (isolated.serviceIds .telemetry) keys found
    have member := mem_of_find?_eq_some found
    exact .dispatches rfl (.service .telemetry (find?_key keys member rfl) (same _)
      (fun _ => rfl) (.inl rfl) rfl (services_ne_telemetry rfl) (.starts idle rfl rfl))
  · exact .nothing nofun

variable (now : MonotonicMicros)

theorem selectWork_selects : Selects runtime (runtime.selectWork now) := by
  rw [selectWork]
  split
  · exact .nothing nofun
  rename_i idle
  split
  · exact .nothing nofun
  split
  · exact .nothing nofun
  · exact .nothing nofun
  · exact dispatchSelected_selects isolated (not_isSome_iff_eq_none.mp idle) _

theorem selectMeasurement_selects : Selects runtime (runtime.selectMeasurement now) := by
  rw [selectMeasurement]
  split
  · exact .nothing nofun
  split
  · exact .nothing nofun
  rename_i idle
  split
  · exact .nothing nofun
  split
  · exact .nothing nofun
  · exact .nothing nofun
  split
  · exact .nothing nofun
  split
  · exact .nothing nofun
  split
  · exact .nothing nofun
  · exact dispatchSelected_selects isolated (not_isSome_iff_eq_none.mp idle) _

omit isolated

theorem selectShutdownMeasurement_selects :
    Selects runtime (runtime.selectShutdownMeasurement address now) := by
  rw [selectShutdownMeasurement]
  split
  · exact .nothing nofun
  rename_i idle
  split
  · exact .nothing nofun
  rename_i node found
  split
  · exact .nothing nofun
  split
  · exact .nothing nofun
  split
  · exact .nothing nofun
  exact .dispatches rfl (.node found rfl (fun _ there => there) (.inl rfl)
    (fun service => by cases service <;> rfl)
    (.measures (not_isSome_iff_eq_none.mp idle) rfl rfl))

/-- A selection about a given node is a move of that node. -/
theorem selectShutdownMeasurement_move :
    Move runtime address (runtime.selectShutdownMeasurement address now).2 := by
  rw [selectShutdownMeasurement]
  split
  · exact .same
  rename_i idle
  split
  · exact .same
  rename_i node found
  split
  · exact .same
  split
  · exact .same
  split
  · exact .same
  exact .node found rfl (fun _ there => there) (.inl rfl)
    (fun service => by cases service <;> rfl)
    (.measures (not_isSome_iff_eq_none.mp idle) rfl rfl)

section Measurements

variable {dispatch : MeasurementDispatch} {node : NodeScheduleState}

theorem inFlightNode_ok (checked : runtime.inFlightNode dispatch = .ok node) :
    runtime.node? dispatch.nodeAddress = some node ∧ node.address = dispatch.nodeAddress ∧
      node.inFlight ∧ node.workId = dispatch.workId ∧
      node.config.maxSampleChunkSamples = dispatch.maxSamples := by
  rw [inFlightNode] at checked
  split at checked
  · cases checked
  rename_i found
  rw [guard_eq_ok, guard_eq_ok] at checked
  obtain ⟨current, samples, same⟩ := checked
  cases same
  push Not at current samples
  exact ⟨found, by simpa using find?_some found, current.1, current.2, samples⟩

theorem activeNode_ok (checked : runtime.activeNode dispatch = .ok node) :
    runtime.activeDispatch = some (.measurement dispatch) ∧
      runtime.inFlightNode dispatch = .ok node := by
  rw [activeNode, guard_eq_ok, not_not] at checked
  exact checked

/-- The owner of the channel is the dispatch's node. -/
theorem own_of_active {active : ChannelDispatch} (now : runtime.activeDispatch = some active)
    (here : active.nodeAddress = address) :
    ∀ other, runtime.activeDispatch = some other → other.nodeAddress = address := by
  intro other same
  cases now.symm.trans same
  exact here

theorem settleMeasurement_move (found : runtime.node? address = some node)
    (progress : MeasurementProgress) (now : MonotonicMicros)
    {free : ChannelRuntime → ChannelRuntime}
    (freed : (free = release ∧ ∀ dispatch, runtime.activeDispatch = some dispatch →
        dispatch.nodeAddress = address) ∨
      (free = id ∧ ∀ dispatch, runtime.activeDispatch = some dispatch → dispatch.onNode →
        dispatch.nodeAddress ≠ address)) :
    Move runtime address (runtime.settleMeasurement node progress now free).2 := by
  have here : node.address = address := by simpa using find?_some found
  rw [settleMeasurement, here]
  split
  · refine Move.settled runtime.nextWorkId found (fun _ => ?_) (.inl ?_) ?_ freed
    all_goals rfl
  generalize checkedTime now node.config.maximumServiceInterval.value = deadline
  generalize nextMeasurementReadyAt node.config progress now = ready
  cases deadline with
  | error => exact .same
  | ok deadline =>
    rcases runtime.allocateWorkId_cases with ⟨next, done⟩ | ⟨next, id, done, fresh⟩
    · rw [done]
      exact .allocated next
    rw [done]
    cases ready with
    | error =>
      refine Move.edited next found (fun _ there => ?_) (.inl ?_) ?_
        fun _ _ _ => ⟨?_, ?_, fun _ _ cause => ?_⟩
      · exact there
      · rfl
      · rfl
      · rfl
      · rfl
      · exact cause
    | ok ready =>
      -- Both updates of the entry are one.
      refine (congrArg (Move runtime address ∘ free)
        (updateNode_updateNode _ _ fun _ => ?_)).mpr
        (Move.settled next found (fun _ => ?_) (.inr fresh) ?_ freed)
      all_goals rfl

theorem completeMeasurement_move (progress : MeasurementProgress) (now : MonotonicMicros) :
    Move runtime dispatch.nodeAddress (runtime.completeMeasurement dispatch progress now).2 := by
  rw [completeMeasurement]
  split
  · exact .same
  split
  · exact .same
  rename_i checked
  obtain ⟨active, checked⟩ := activeNode_ok checked
  exact settleMeasurement_move (inFlightNode_ok checked).1 _ now
    (.inl ⟨rfl, own_of_active active rfl⟩)

/-- With a recovery on the channel, the entry is not the caller's. -/
theorem completeParkedMeasurement_move (isolated : runtime.Isolated parked)
    (progress : MeasurementProgress) (now : MonotonicMicros)
    (guarded : (runtime.inFlightNode dispatch).isOk →
      runtime.activeDispatch ≠ some (.recovery ⟨dispatch.workId, dispatch.nodeAddress⟩)) :
    Move runtime dispatch.nodeAddress
      (runtime.completeParkedMeasurement dispatch progress now).2 := by
  rw [completeParkedMeasurement]
  split
  · exact .same
  rename_i other
  split
  · exact .same
  split
  · exact .same
  rename_i node checked
  rw [checked] at guarded
  obtain ⟨found, here, flight, workId, samples⟩ := inFlightNode_ok checked
  refine settleMeasurement_move found _ now (.inr ⟨rfl, ?_⟩)
  intro active now onNode there
  -- The dispatch that has the channel would be the one that completes.
  cases active with
  | measurement own =>
    obtain ⟨entry, member, at', id, -, chunk⟩ := isolated.active _ now
    have same : entry = node := eq_of_key isolated.nodeAddresses member
      (mem_of_find?_eq_some found) (at'.trans (there.trans here.symm))
    subst same
    obtain ⟨_, _, _⟩ := own
    obtain ⟨_, _, _⟩ := dispatch
    simp only [ChannelDispatch.nodeAddress] at there
    subst there workId samples id chunk
    exact other now
  | recovery own =>
    obtain ⟨entry, member, at', id, -⟩ := isolated.active _ now
    have same : entry = node := eq_of_key isolated.nodeAddresses member
      (mem_of_find?_eq_some found) (at'.trans (there.trans here.symm))
    subst same
    obtain ⟨_, _⟩ := own
    simp only [ChannelDispatch.nodeAddress] at there id
    subst there id
    exact guarded rfl (workId ▸ now)
  | timeSync own => cases onNode
  | telemetry own => cases onNode

theorem requireRecovery_move (cause : RecoveryCause) (now : MonotonicMicros) :
    Move runtime dispatch.nodeAddress (runtime.requireRecovery dispatch cause now).2 := by
  rw [requireRecovery]
  split
  · exact .same
  rename_i checked
  obtain ⟨active, checked⟩ := activeNode_ok checked
  obtain ⟨found, here, -⟩ := inFlightNode_ok checked
  rw [here]
  refine Move.settled runtime.nextWorkId found (fun _ => ?_) (.inl ?_) ?_
    (.inl ⟨rfl, own_of_active active rfl⟩)
  all_goals rfl

theorem cancelMeasurement_move :
    Move runtime dispatch.nodeAddress (runtime.cancelMeasurement dispatch).2 := by
  rw [cancelMeasurement]
  split
  · exact .same
  rename_i checked
  obtain ⟨active, checked⟩ := activeNode_ok checked
  obtain ⟨found, here, -⟩ := inFlightNode_ok checked
  rw [here]
  refine Move.settled runtime.nextWorkId found (fun _ => ?_) (.inl ?_) ?_
    (.inl ⟨rfl, own_of_active active rfl⟩)
  all_goals rfl

theorem failMeasurement_move (now : MonotonicMicros) :
    Move runtime dispatch.nodeAddress (runtime.failMeasurement dispatch now).2 := by
  rw [failMeasurement]
  split
  · exact .same
  rename_i node checked
  obtain ⟨active, checked⟩ := activeNode_ok checked
  obtain ⟨found, here, -⟩ := inFlightNode_ok checked
  rw [here]
  generalize afterFailure node = failed
  dsimp only
  generalize checkedTime now failed.2 = ready
  cases ready with
  | error =>
    refine Move.edited runtime.nextWorkId found (fun _ there => ?_) (.inl ?_) ?_
      fun _ same _ => ⟨?_, ?_, fun own recovers => ?_⟩
    · exact there
    · rfl
    · rfl
    · rfl
    · rfl
    · cases recovers
      cases active.symm.trans same
  | ok readyAt =>
    refine (congrArg (Move runtime dispatch.nodeAddress ∘ release)
      (updateNode_updateNode _ _ fun _ => ?_)).mpr
      (Move.settled runtime.nextWorkId found (fun _ => ?_) (.inl ?_) ?_
        (.inl ⟨rfl, own_of_active active rfl⟩))
    all_goals rfl

/-- A parked measurement gives up the channel. -/
theorem parkMeasurement_cases (runtime : ChannelRuntime) (dispatch : MeasurementDispatch) :
    (∃ error, runtime.parkMeasurement dispatch = (.error error, runtime)) ∨
      runtime.activeDispatch = some (.measurement dispatch) ∧
        runtime.parkMeasurement dispatch = (.ok (), runtime.release) := by
  rw [parkMeasurement]
  cases checked : runtime.activeNode dispatch with
  | error error => exact .inl ⟨error, rfl⟩
  | ok node => exact .inr ⟨(activeNode_ok checked).1, rfl⟩

end Measurements

section Recovery

variable {dispatch : RecoveryDispatch} {node : NodeScheduleState}

theorem activeRecovery_ok (checked : runtime.activeRecovery dispatch = .ok node) :
    runtime.activeDispatch = some (.recovery dispatch) ∧
      runtime.node? dispatch.nodeAddress = some node ∧ node.address = dispatch.nodeAddress ∧
      node.inFlight ∧ node.workId = dispatch.workId := by
  rw [activeRecovery, guard_eq_ok, not_not] at checked
  obtain ⟨active, checked⟩ := checked
  split at checked
  · cases checked
  rename_i found
  rw [guard_eq_ok] at checked
  obtain ⟨current, same⟩ := checked
  cases same
  push Not at current
  exact ⟨active, found, by simpa using find?_some found, current.1, current.2⟩

theorem completeRecovery_move (cursor produced : SequenceCursor) (now : MonotonicMicros) :
    Move runtime dispatch.nodeAddress
      (runtime.completeRecovery dispatch cursor produced now).2 := by
  rw [completeRecovery]
  split
  · exact .same
  rename_i node checked
  obtain ⟨active, found, here, -⟩ := activeRecovery_ok checked
  rw [here]
  split
  · exact .same
  split
  · exact .same
  rcases runtime.allocateWorkId_cases with ⟨next, done⟩ | ⟨next, id, done, fresh⟩
  · rw [done]
    exact .allocated next
  rw [done]
  refine Move.settled next found (fun _ => ?_) (.inr ?_) ?_
    (.inl ⟨rfl, own_of_active active rfl⟩)
  · rfl
  · exact fresh
  · rfl

theorem failRecovery_move (now : MonotonicMicros) :
    Move runtime dispatch.nodeAddress (runtime.failRecovery dispatch now).2 := by
  rw [failRecovery]
  split
  · exact .same
  rename_i node checked
  obtain ⟨active, found, here, -⟩ := activeRecovery_ok checked
  rw [here]
  split
  · exact .same
  generalize afterFailure node = failed
  dsimp only
  generalize checkedTime now failed.2 = ready
  cases ready with
  | error =>
    refine Move.edited runtime.nextWorkId found (fun _ there => ?_) (.inl ?_) ?_
      fun _ _ _ => ⟨?_, ?_, fun _ _ _ => ?_⟩
    · exact there
    · rfl
    · rfl
    · rfl
    · rfl
    · dsimp only
      split <;> rfl
  | ok readyAt =>
    refine (congrArg (Move runtime dispatch.nodeAddress ∘ release)
      (updateNode_updateNode _ _ fun _ => ?_)).mpr
      (Move.settled runtime.nextWorkId found (fun _ => ?_) (.inl ?_) ?_
        (.inl ⟨rfl, own_of_active active rfl⟩))
    all_goals rfl

/-- `recover_node` frees the channel, so nobody else may hold it. -/
theorem recoverNode_move (cursor : SequenceCursor) (now : MonotonicMicros)
    (guarded : (runtime.node? address).any (·.availability.recoveryCause.isSome) →
      ∀ dispatch, runtime.activeDispatch = some dispatch → dispatch.nodeAddress = address) :
    Move runtime address (runtime.recoverNode address cursor now).2 := by
  rw [recoverNode]
  split
  · exact .same
  rename_i node found
  split
  · exact .same
  rename_i cause
  rw [found, any_some, isSome_iff_ne_none] at guarded
  rcases runtime.allocateWorkId_cases with ⟨next, done⟩ | ⟨next, id, done, fresh⟩
  · rw [done]
    exact .allocated next
  rw [done]
  refine Move.settled next found (fun _ => ?_) (.inr ?_) ?_ (.inl ⟨rfl, guarded cause⟩)
  · rfl
  · exact fresh
  · rfl

theorem resumeNode_move (cursor produced : SequenceCursor) (now : MonotonicMicros) :
    Move runtime address (runtime.resumeNode address cursor produced now).2 := by
  rw [resumeNode]
  split
  · exact .same
  rename_i idle
  split
  · exact .same
  rename_i node found
  split
  · exact .same
  split
  · exact .same
  rcases runtime.allocateWorkId_cases with ⟨next, done⟩ | ⟨next, id, done, fresh⟩
  · rw [done]
    exact .allocated next
  rw [done]
  refine Move.edited next found (fun _ there => there) (.inr fresh) rfl ?_
  intro dispatch active
  rw [active] at idle
  exact absurd rfl idle

theorem replaceQuiescedNode_move (cursor produced : SequenceCursor) (now : MonotonicMicros) :
    Move runtime address (runtime.replaceQuiescedNode address cursor produced now).2 := by
  rw [replaceQuiescedNode]
  split
  · exact .same
  rename_i idle
  split
  · exact .same
  rename_i node found
  rcases runtime.allocateWorkId_cases with ⟨next, done⟩ | ⟨next, id, done, fresh⟩
  · rw [done]
    exact .allocated next
  rw [done]
  refine .node found rfl (fun _ there => there) (.inr fresh)
    (fun service => by cases service <;> rfl)
    (.rests rfl (not_isSome_iff_eq_none.mp idle) ?_)
  intro dispatch active
  rw [active] at idle
  exact absurd rfl idle

end Recovery

section Services

variable {dispatch : WorkDispatch} {state : ServiceScheduleState}

theorem activeService_ok {active : ChannelDispatch} {states : List ServiceScheduleState}
    (checked : runtime.activeService active states dispatch = .ok state) :
    runtime.activeDispatch = some active ∧
      states.find? (·.nodeAddress = dispatch.nodeAddress) = some state ∧
      state.nodeAddress = dispatch.nodeAddress := by
  rw [activeService, guard_eq_ok, not_not] at checked
  obtain ⟨now, checked⟩ := checked
  split at checked
  · cases checked
  rename_i found
  rw [guard_eq_ok] at checked
  obtain ⟨-, same⟩ := checked
  cases same
  exact ⟨now, found, by simpa using find?_some found⟩

/-- What `completeService` and its siblings need of the table of a service. -/
structure Table (service : Service)
    (update : ChannelRuntime → UInt8 → (ServiceScheduleState → ServiceScheduleState) →
      ChannelRuntime) : Prop where
  states : ∀ runtime address change, (update runtime address change).services service =
    updateFirst (·.nodeAddress = address) change (runtime.services service)
  nodes : ∀ runtime address change, (update runtime address change).nodes = runtime.nodes
  others : ∀ runtime address change, ∀ other ≠ service,
    (update runtime address change).services other = runtime.services other

theorem table_timeSync : Table .timeSync updateTimeSync where
  states _ _ _ := rfl
  nodes _ _ _ := rfl
  others _ _ _ := services_ne_timeSync rfl

theorem table_telemetry : Table .telemetry updateTelemetry where
  states _ _ _ := rfl
  nodes _ _ _ := rfl
  others _ _ _ := services_ne_telemetry rfl

variable {service : Service} {update : ChannelRuntime → UInt8 →
  (ServiceScheduleState → ServiceScheduleState) → ChannelRuntime}
  {active : Except ChannelRuntimeError ServiceScheduleState}

@[simp] theorem services_allocated (next : UInt64) :
    services { runtime with nextWorkId := next } service = runtime.services service := by
  cases service <;> rfl

@[simp] theorem services_release : runtime.release.services service = runtime.services service := by
  cases service <;> rfl

/-- The entry of a service comes to rest and frees the channel. -/
theorem Table.settled (table : Table service update) (next : UInt64)
    {change : ServiceScheduleState → ServiceScheduleState}
    (held : runtime.activeDispatch = some (service.dispatch dispatch))
    (found : (runtime.services service).find? (·.nodeAddress = dispatch.nodeAddress) = some state)
    (here : ∀ state, (change state).nodeAddress = state.nodeAddress)
    (fresh : (change state).workId = state.workId ∨ (change state).workId ∉ runtime.workIds) :
    Move runtime dispatch.nodeAddress
      (update { runtime with nextWorkId := next } dispatch.nodeAddress change).release := by
  refine .service service found ?_ here fresh ?_ ?_ (.rests rfl held rfl)
  · rw [services_release, table.states, services_allocated]
  · exact table.nodes _ _ _
  · intro other different
    rw [services_release, table.others _ _ _ other different, services_allocated]

/-- A successful check of a dispatch of the service. -/
def Checks (runtime : ChannelRuntime) (service : Service) (dispatch : WorkDispatch)
    (active : Except ChannelRuntimeError ServiceScheduleState) : Prop :=
  ∀ state, active = .ok state →
    runtime.activeDispatch = some (service.dispatch dispatch) ∧
      (runtime.services service).find? (·.nodeAddress = dispatch.nodeAddress) = some state ∧
      state.nodeAddress = dispatch.nodeAddress

theorem checks_timeSync : Checks runtime .timeSync dispatch (runtime.activeTimeSync dispatch) :=
  fun _ checked => activeService_ok checked

theorem checks_telemetry : Checks runtime .telemetry dispatch (runtime.activeTelemetry dispatch) :=
  fun _ checked => activeService_ok checked

variable (table : Table service update) (checks : Checks runtime service dispatch active)

include table checks

theorem completeService_move (now : MonotonicMicros) :
    Move runtime dispatch.nodeAddress (runtime.completeService active now update).2 := by
  cases active with
  | error => exact .same
  | ok state =>
    rw [completeService]
    obtain ⟨held, found, here⟩ := checks state rfl
    split
    · exact .same
    rcases runtime.allocateWorkId_cases with ⟨next, done⟩ | ⟨next, id, done, fresh⟩
    · rw [done]
      exact .allocated next
    rw [done, here]
    refine table.settled next held found (fun _ => ?_) (.inr ?_)
    · rfl
    · exact fresh

theorem failService_move (now : MonotonicMicros) :
    Move runtime dispatch.nodeAddress (runtime.failService active now update).2 := by
  cases active with
  | error => exact .same
  | ok state =>
    rw [failService]
    obtain ⟨held, found, here⟩ := checks state rfl
    split
    · exact .same
    rw [here]
    refine table.settled runtime.nextWorkId held found (fun _ => ?_) (.inl ?_)
    all_goals rfl

theorem cancelService_move :
    Move runtime dispatch.nodeAddress (runtime.cancelService active update).2 := by
  cases active with
  | error => exact .same
  | ok state =>
    rw [cancelService]
    obtain ⟨held, found, here⟩ := checks state rfl
    rw [here]
    refine table.settled runtime.nextWorkId held found (fun _ => ?_) (.inl ?_)
    all_goals rfl

omit checks table

end Services

end ChannelRuntime
end SensorSystem.Host
