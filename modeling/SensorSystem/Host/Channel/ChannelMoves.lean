import SensorSystem.Host.Channel.ChannelRuntime

/-! What the calls of the runtime do to its tables, said once: a call adds an entry, or changes
one entry together with the active dispatch. The isolation of the nodes follows from each move. -/

namespace SensorSystem.Host

open List Base

/-- The two services that are scheduled beside the measurements. -/
inductive Service where
  | timeSync
  | telemetry
deriving DecidableEq

def Service.dispatch : Service → WorkDispatch → ChannelDispatch
  | timeSync, dispatch => .timeSync dispatch
  | telemetry, dispatch => .telemetry dispatch

/-- The dispatch is about a node's own entry. -/
def ChannelDispatch.onNode : ChannelDispatch → Bool
  | measurement _ => true
  | recovery _ => true
  | timeSync _ => false
  | telemetry _ => false

namespace ChannelRuntime

variable {runtime after : ChannelRuntime} {address : UInt8} {parked : List UInt8}
  {dispatch : ChannelDispatch}

def services (runtime : ChannelRuntime) : Service → List ServiceScheduleState
  | .timeSync => runtime.timeSync
  | .telemetry => runtime.telemetry

/-- The work ids outside a service's table. -/
def idsBeside (runtime : ChannelRuntime) : Service → List UInt64
  | .timeSync => runtime.nodes.map (·.workId) ++ runtime.telemetry.map (·.workId)
  | .telemetry => runtime.nodes.map (·.workId) ++ runtime.timeSync.map (·.workId)

theorem workIds_perm (runtime : ChannelRuntime) (service : Service) : runtime.workIds.Perm
      ((runtime.services service).map (·.workId) ++ runtime.idsBeside service) := by
  cases service with
  | timeSync =>
    rw [workIds, ← append_assoc]
    refine (perm_append_comm.append_right _).trans ?_
    rw [append_assoc]
    exact .refl _
  | telemetry =>
    rw [workIds, ← append_assoc]
    exact perm_append_comm

/-- An entry of the dispatch is there, in flight and as the dispatch describes it. -/
def Holds (runtime : ChannelRuntime) : ChannelDispatch → Prop
  | .measurement dispatch => ∃ node ∈ runtime.nodes, node.address = dispatch.nodeAddress ∧
      node.workId = dispatch.workId ∧ node.inFlight ∧
      node.config.maxSampleChunkSamples = dispatch.maxSamples
  | .recovery dispatch => ∃ node ∈ runtime.nodes, node.address = dispatch.nodeAddress ∧
      node.workId = dispatch.workId ∧ node.inFlight ∧ node.availability.recoveryCause.isSome
  | .timeSync dispatch => ∃ state ∈ runtime.timeSync, state.nodeAddress = dispatch.nodeAddress ∧
      state.workId = dispatch.workId ∧ state.inFlight
  | .telemetry dispatch => ∃ state ∈ runtime.telemetry, state.nodeAddress = dispatch.nodeAddress ∧
      state.workId = dispatch.workId ∧ state.inFlight

/-- The active dispatch is about this node. -/
def Named (active : Option ChannelDispatch) (node : NodeScheduleState) : Prop :=
  ∃ dispatch, active = some dispatch ∧ dispatch.onNode ∧ dispatch.workId = node.workId ∧
    dispatch.nodeAddress = node.address

/-- Who holds the channel, and whose measurement left it in flight. -/
structure Isolated (runtime : ChannelRuntime) (parked : List UInt8) : Prop where
  nodeAddresses : (runtime.nodes.map (·.address)).Nodup
  serviceAddresses : ∀ service, ((runtime.services service).map (·.nodeAddress)).Nodup
  workIds : runtime.workIds.Nodup
  active : ∀ dispatch, runtime.activeDispatch = some dispatch → runtime.Holds dispatch
  inFlight : ∀ node ∈ runtime.nodes, node.inFlight →
    Named runtime.activeDispatch node ∨ node.address ∈ parked

/-- What happens to a node's entry and the active dispatch together. -/
inductive NodeMove (runtime : ChannelRuntime) (address : UInt8) (old new : NodeScheduleState)
    (active : Option ChannelDispatch) : Prop
  /-- The node comes to rest and frees the channel, which it held if anyone did. -/
  | rests (rest : new.inFlight = false) (free : active = none)
      (own : ∀ dispatch, runtime.activeDispatch = some dispatch → dispatch.nodeAddress = address)
  /-- A node that left the channel comes to rest. -/
  | leaves (rest : new.inFlight = false) (kept : active = runtime.activeDispatch)
      (apart : ∀ dispatch, runtime.activeDispatch = some dispatch → dispatch.onNode →
        dispatch.nodeAddress ≠ address)
  | stays (same : new.inFlight = old.inFlight) (kept : active = runtime.activeDispatch)
      (described : ∀ dispatch, runtime.activeDispatch = some dispatch → old.inFlight →
        new.workId = old.workId ∧
          new.config.maxSampleChunkSamples = old.config.maxSampleChunkSamples ∧
          (∀ own, dispatch = .recovery own → old.availability.recoveryCause.isSome →
            new.availability.recoveryCause.isSome))
  | measures (idle : runtime.activeDispatch = none) (flight : new.inFlight)
      (selected : active = some
        (.measurement ⟨new.workId, address, new.config.maxSampleChunkSamples⟩))
  | recovers (idle : runtime.activeDispatch = none) (flight : new.inFlight)
      (cause : new.availability.recoveryCause.isSome)
      (selected : active = some (.recovery ⟨new.workId, address⟩))

/-- The same for an entry of a service. -/
inductive ServiceMove (runtime : ChannelRuntime) (service : Service) (address : UInt8)
    (old new : ServiceScheduleState) (active : Option ChannelDispatch) : Prop
  | rests (free : active = none) {dispatch : WorkDispatch}
      (own : runtime.activeDispatch = some (service.dispatch dispatch))
      (here : dispatch.nodeAddress = address)
  | stays (same : new.inFlight = old.inFlight) (kept : active = runtime.activeDispatch)
      (described : new.workId = old.workId)
  | starts (idle : runtime.activeDispatch = none) (flight : new.inFlight)
      (selected : active = some (service.dispatch ⟨new.workId, address⟩))

/-- What a call about the node at `address` can do. -/
inductive Move (runtime : ChannelRuntime) (address : UInt8) : ChannelRuntime → Prop
  | keeps {after : ChannelRuntime} (nodes : after.nodes = runtime.nodes)
      (services : ∀ service, after.services service = runtime.services service)
      (active : after.activeDispatch = runtime.activeDispatch) : Move runtime address after
  | addsNode {after : ChannelRuntime} {node : NodeScheduleState}
      (nodes : after.nodes = runtime.nodes ++ [node]) (here : node.address = address)
      (new : ∀ other ∈ runtime.nodes, other.address ≠ address)
      (fresh : node.workId ∉ runtime.workIds) (rest : node.inFlight = false)
      (services : ∀ service, after.services service = runtime.services service)
      (active : after.activeDispatch = runtime.activeDispatch) : Move runtime address after
  | addsService {after : ChannelRuntime} {state : ServiceScheduleState} (service : Service)
      (states : after.services service = runtime.services service ++ [state])
      (here : state.nodeAddress = address)
      (new : ∀ other ∈ runtime.services service, other.nodeAddress ≠ address)
      (fresh : state.workId ∉ runtime.workIds) (nodes : after.nodes = runtime.nodes)
      (others : ∀ other ≠ service, after.services other = runtime.services other)
      (active : after.activeDispatch = runtime.activeDispatch) : Move runtime address after
  | node {after : ChannelRuntime} {old : NodeScheduleState}
      {update : NodeScheduleState → NodeScheduleState}
      (found : runtime.node? address = some old)
      (nodes : after.nodes = updateFirst (·.address = address) update runtime.nodes)
      (here : ∀ node, node.address = address → (update node).address = address)
      (fresh : (update old).workId = old.workId ∨ (update old).workId ∉ runtime.workIds)
      (services : ∀ service, after.services service = runtime.services service)
      (move : NodeMove runtime address old (update old) after.activeDispatch) :
      Move runtime address after
  | service {after : ChannelRuntime} {old : ServiceScheduleState} (service : Service)
      {update : ServiceScheduleState → ServiceScheduleState}
      (found : (runtime.services service).find? (·.nodeAddress = address) = some old)
      (states : after.services service =
        updateFirst (·.nodeAddress = address) update (runtime.services service))
      (here : ∀ state, (update state).nodeAddress = state.nodeAddress)
      (fresh : (update old).workId = old.workId ∨ (update old).workId ∉ runtime.workIds)
      (nodes : after.nodes = runtime.nodes)
      (others : ∀ other ≠ service, after.services other = runtime.services other)
      (move : ServiceMove runtime service address old (update old) after.activeDispatch) :
      Move runtime address after

/-- A dispatch keeps its entry where the entries of its node stay. -/
theorem Holds.mono (holds : runtime.Holds dispatch)
    (nodes : dispatch.onNode → ∀ node ∈ runtime.nodes, node.address = dispatch.nodeAddress →
      node ∈ after.nodes) (services : ∀ service own, dispatch = Service.dispatch service own →
      ∀ state ∈ runtime.services service, state.nodeAddress = own.nodeAddress →
        state ∈ after.services service) : after.Holds dispatch := by
  cases dispatch with
  | measurement own =>
    obtain ⟨node, member, there, rest⟩ := holds
    exact ⟨node, nodes rfl node member there, there, rest⟩
  | recovery own =>
    obtain ⟨node, member, there, rest⟩ := holds
    exact ⟨node, nodes rfl node member there, there, rest⟩
  | timeSync own =>
    obtain ⟨state, member, there, rest⟩ := holds
    exact ⟨state, services .timeSync own rfl state member there, there, rest⟩
  | telemetry own =>
    obtain ⟨state, member, there, rest⟩ := holds
    exact ⟨state, services .telemetry own rfl state member there, there, rest⟩

theorem holds_service {service : Service} {own : WorkDispatch} :
    runtime.Holds (service.dispatch own) ↔ ∃ state ∈ runtime.services service,
      state.nodeAddress = own.nodeAddress ∧ state.workId = own.workId ∧ state.inFlight := by
  cases service <;> rfl

/-- A node that holds the channel is in its table. -/
theorem Holds.node (holds : runtime.Holds dispatch) (onNode : dispatch.onNode) :
    ∃ node ∈ runtime.nodes, node.address = dispatch.nodeAddress ∧
      node.workId = dispatch.workId ∧ node.inFlight := by
  cases dispatch with
  | measurement own =>
    obtain ⟨node, member, there, workId, flight, -⟩ := holds
    exact ⟨node, member, there, workId, flight⟩
  | recovery own =>
    obtain ⟨node, member, there, workId, flight, -⟩ := holds
    exact ⟨node, member, there, workId, flight⟩
  | timeSync own => cases onNode
  | telemetry own => cases onNode

theorem workIds_congr (nodes : after.nodes = runtime.nodes)
    (services : ∀ service, after.services service = runtime.services service) :
    after.workIds = runtime.workIds := by
  have timeSync := services .timeSync
  have telemetry := services .telemetry
  simp only [ChannelRuntime.services] at timeSync telemetry
  rw [workIds, workIds, nodes, timeSync, telemetry]

theorem idsBeside_congr {service : Service} (nodes : after.nodes = runtime.nodes)
    (others : ∀ other ≠ service, after.services other = runtime.services other) :
    after.idsBeside service = runtime.idsBeside service := by
  cases service with
  | timeSync =>
    have telemetry := others .telemetry (by decide)
    simp only [services] at telemetry
    rw [idsBeside, idsBeside, nodes, telemetry]
  | telemetry =>
    have timeSync := others .timeSync (by decide)
    simp only [services] at timeSync
    rw [idsBeside, idsBeside, nodes, timeSync]

/-- The work ids of the services. -/
def serviceIds (runtime : ChannelRuntime) : List UInt64 :=
  runtime.timeSync.map (·.workId) ++ runtime.telemetry.map (·.workId)

theorem serviceIds_congr (services : ∀ service, after.services service = runtime.services service) :
    after.serviceIds = runtime.serviceIds := by
  have timeSync := services .timeSync
  have telemetry := services .telemetry
  simp only [ChannelRuntime.services] at timeSync telemetry
  rw [serviceIds, serviceIds, timeSync, telemetry]

section NodeMoves

variable {old new : NodeScheduleState} {update : NodeScheduleState → NodeScheduleState}
  {active : Option ChannelDispatch}

/-- The nodes after a move are the others and the one that moved. -/
theorem Isolated.mem_nodes (isolated : runtime.Isolated parked)
    (found : runtime.node? address = some old)
    (nodes : after.nodes = updateFirst (·.address = address) update runtime.nodes)
    (here : ∀ node, node.address = address → (update node).address = address)
    {node : NodeScheduleState} (member : node ∈ after.nodes) :
    (node ∈ runtime.nodes ∧ node.address ≠ address) ∨ node = update old := by
  rw [nodes] at member
  rcases key_ne_of_mem_updateFirst isolated.nodeAddresses
      (fun node there => (here node there).trans there.symm) member with
    other | ⟨found', first, same⟩
  · exact .inl other
  · rw [node?, first] at found
    cases found
    exact .inr same

/-- The active dispatch still has its entry after a node's move. -/
theorem NodeMove.holds (isolated : runtime.Isolated parked)
    (found : runtime.node? address = some old)
    (nodes : after.nodes = updateFirst (·.address = address) update runtime.nodes)
    (here : ∀ node, node.address = address → (update node).address = address)
    (services : ∀ service, after.services service = runtime.services service)
    (move : NodeMove runtime address old (update old) active) (now : active = some dispatch) :
    after.Holds dispatch := by
  have there : old.address = address := by simpa using find?_some found
  have newMember : update old ∈ after.nodes := nodes ▸ update_mem_updateFirst found
  have others : ∀ node ∈ runtime.nodes, node.address ≠ address → node ∈ after.nodes :=
    fun node member other => nodes ▸ mem_updateFirst_of_mem member (by simpa using other)
  have kept : ∀ service own, dispatch = Service.dispatch service own →
      ∀ state ∈ runtime.services service, state.nodeAddress = own.nodeAddress →
        state ∈ after.services service :=
    fun service _ _ state member _ => (services service).symm ▸ member
  cases move with
  | rests rest free own =>
    rw [free] at now
    cases now
  | leaves rest same apart =>
    have before := same.symm.trans now
    refine (isolated.active _ before).mono (fun onNode node member there => ?_) kept
    exact others node member (there ▸ apart _ before onNode)
  | stays same keptActive described =>
    have before := keptActive.symm.trans now
    have holds := isolated.active _ before
    by_cases own : dispatch.nodeAddress = address
    · cases dispatch with
      | measurement dispatch =>
        obtain ⟨node, member, at', workId, flight, samples⟩ := holds
        have first : node = old := eq_of_key isolated.nodeAddresses member
          (mem_of_find?_eq_some found) (at'.trans (own.trans there.symm))
        subst first
        obtain ⟨sameId, sameSamples, -⟩ := described _ before flight
        exact ⟨_, newMember, (here node there).trans own.symm, sameId.trans workId,
          same.trans flight, sameSamples.trans samples⟩
      | recovery dispatch =>
        obtain ⟨node, member, at', workId, flight, cause⟩ := holds
        have first : node = old := eq_of_key isolated.nodeAddresses member
          (mem_of_find?_eq_some found) (at'.trans (own.trans there.symm))
        subst first
        obtain ⟨sameId, -, sameCause⟩ := described _ before flight
        exact ⟨_, newMember, (here node there).trans own.symm, sameId.trans workId,
          same.trans flight, sameCause dispatch rfl cause⟩
      | timeSync dispatch => exact holds.mono (fun onNode => nomatch onNode) kept
      | telemetry dispatch => exact holds.mono (fun onNode => nomatch onNode) kept
    · exact holds.mono (fun _ node member there => others node member (there ▸ own)) kept
  | measures idle flight selected =>
    cases selected.symm.trans now
    exact ⟨_, newMember, here old there, rfl, flight, rfl⟩
  | recovers idle flight cause selected =>
    cases selected.symm.trans now
    exact ⟨_, newMember, here old there, rfl, flight, cause⟩

theorem NodeMove.explains (isolated : runtime.Isolated parked)
    (found : runtime.node? address = some old) (newAddress : new.address = address)
    (move : NodeMove runtime address old new active) :
    (new.inFlight → Named active new ∨ new.address ∈ parked) ∧
      ∀ node ∈ runtime.nodes, node.address ≠ address → node.inFlight →
        Named active node ∨ node.address ∈ parked := by
  have there : old.address = address := by simpa using find?_some found
  have member := mem_of_find?_eq_some found
  cases move with
  | rests rest free own =>
    refine ⟨fun flight => absurd flight (by simp [rest]), fun node inside other flight => .inr ?_⟩
    rcases isolated.inFlight node inside flight with ⟨dispatch, before, -, -, same⟩ | left
    · exact absurd (same.symm.trans (own dispatch before)) other
    · exact left
  | leaves rest kept apart =>
    refine ⟨fun flight => absurd flight (by simp [rest]), fun node inside _ flight => ?_⟩
    rw [kept]
    exact isolated.inFlight node inside flight
  | stays same kept described =>
    rw [kept]
    refine ⟨fun flight => ?_, fun node inside _ flight => isolated.inFlight node inside flight⟩
    have flying : old.inFlight = true := same.symm.trans flight
    rw [newAddress, ← there]
    refine (isolated.inFlight old member flying).imp ?_ id
    rintro ⟨dispatch, before, onNode, workId, at'⟩
    exact ⟨dispatch, before, onNode, workId.trans (described _ before flying).1.symm,
      at'.trans (there.trans newAddress.symm)⟩
  | measures idle flight selected =>
    refine ⟨fun _ => .inl ⟨_, selected, rfl, rfl, newAddress.symm⟩,
      fun node inside other flying => .inr ?_⟩
    rcases isolated.inFlight node inside flying with ⟨dispatch, before, -⟩ | left
    · rw [idle] at before
      cases before
    · exact left
  | recovers idle flight cause selected =>
    refine ⟨fun _ => .inl ⟨_, selected, rfl, rfl, newAddress.symm⟩,
      fun node inside other flying => .inr ?_⟩
    rcases isolated.inFlight node inside flying with ⟨dispatch, before, -⟩ | left
    · rw [idle] at before
      cases before
    · exact left

end NodeMoves

section ServiceMoves

variable {service : Service} {old : ServiceScheduleState}
  {update : ServiceScheduleState → ServiceScheduleState} {active : Option ChannelDispatch}

/-- A service's move leaves the entries of other dispatches. -/
theorem ServiceMove.holds_other (holds : runtime.Holds dispatch)
    (states : after.services service =
      updateFirst (·.nodeAddress = address) update (runtime.services service))
    (nodes : after.nodes = runtime.nodes)
    (others : ∀ other ≠ service, after.services other = runtime.services other)
    (apart : ∀ own, dispatch = service.dispatch own → own.nodeAddress ≠ address) :
    after.Holds dispatch := by
  refine holds.mono (fun _ node member _ => nodes.symm ▸ member) ?_
  intro other own same state member there
  by_cases own' : other = service
  · subst own'
    rw [states]
    exact mem_updateFirst_of_mem member (by simpa [there] using apart own same)
  rw [others other own']
  exact member

theorem ServiceMove.holds (isolated : runtime.Isolated parked)
    (found : (runtime.services service).find? (·.nodeAddress = address) = some old)
    (states : after.services service =
      updateFirst (·.nodeAddress = address) update (runtime.services service))
    (here : ∀ state, (update state).nodeAddress = state.nodeAddress)
    (nodes : after.nodes = runtime.nodes)
    (others : ∀ other ≠ service, after.services other = runtime.services other)
    (move : ServiceMove runtime service address old (update old) active)
    (now : active = some dispatch) : after.Holds dispatch := by
  have there : old.nodeAddress = address := by simpa using find?_some found
  have newMember : update old ∈ after.services service := states ▸ update_mem_updateFirst found
  cases move with
  | rests free own here =>
    rw [free] at now
    cases now
  | stays same kept described =>
    have holds := isolated.active _ (kept.symm.trans now)
    by_cases apart : ∀ own, dispatch = service.dispatch own → own.nodeAddress ≠ address
    · exact ServiceMove.holds_other holds states nodes others apart
    -- The dispatch is the one of this entry.
    push Not at apart
    obtain ⟨own, rfl, at'⟩ := apart
    obtain ⟨state, member, place, workId, flight⟩ := holds_service.mp holds
    have first : state = old := eq_of_key (isolated.serviceAddresses service) member
      (mem_of_find?_eq_some found) (place.trans (at'.trans there.symm))
    subst first
    exact holds_service.mpr ⟨_, newMember, (here state).trans place,
      described.trans workId, same.trans flight⟩
  | starts idle flight selected =>
    cases selected.symm.trans now
    exact holds_service.mpr ⟨_, newMember, (here old).trans there, rfl, flight⟩

/-- The nodes in flight are explained after a service's move. -/
theorem ServiceMove.explains (isolated : runtime.Isolated parked)
    {new : ServiceScheduleState} (move : ServiceMove runtime service address old new active)
    {node : NodeScheduleState} (member : node ∈ runtime.nodes) (flight : node.inFlight) :
    Named active node ∨ node.address ∈ parked := by
  rcases isolated.inFlight node member flight with ⟨dispatch, before, onNode, same⟩ | left
  · cases move with
    | rests free own here =>
      rw [own] at before
      cases before
      cases service <;> cases onNode
    | stays same' kept described => exact .inl ⟨dispatch, kept.trans before, onNode, same⟩
    | starts idle flight selected =>
      rw [idle] at before
      cases before
  · exact .inr left

end ServiceMoves

theorem workIds_addNode {node : NodeScheduleState} (distinct : runtime.workIds.Nodup)
    (nodes : after.nodes = runtime.nodes ++ [node]) (fresh : node.workId ∉ runtime.workIds)
    (services : ∀ service, after.services service = runtime.services service) :
    after.workIds.Nodup := by
  have same : after.workIds = runtime.nodes.map (·.workId) ++ [node.workId] ++
      runtime.serviceIds := by
    rw [← serviceIds_congr services, workIds, nodes, map_append]
    rfl
  have moved : after.workIds.Perm (node.workId :: runtime.workIds) := by
    rw [same]
    simpa only [append_assoc, singleton_append, workIds, serviceIds] using
      perm_middle
  exact moved.nodup_iff.mpr (nodup_cons.mpr ⟨fresh, distinct⟩)

theorem workIds_addService {service : Service} {state : ServiceScheduleState}
    (distinct : runtime.workIds.Nodup)
    (states : after.services service = runtime.services service ++ [state])
    (fresh : state.workId ∉ runtime.workIds) (nodes : after.nodes = runtime.nodes)
    (others : ∀ other ≠ service, after.services other = runtime.services other) :
    after.workIds.Nodup := by
  have moved : after.workIds.Perm (state.workId :: runtime.workIds) := by
    refine (after.workIds_perm service).trans ?_
    rw [states, idsBeside_congr nodes others, map_append, append_assoc]
    exact perm_middle.trans (.cons _ (runtime.workIds_perm service).symm)
  exact moved.nodup_iff.mpr (nodup_cons.mpr ⟨fresh, distinct⟩)

theorem workIds_node {old : NodeScheduleState} {update : NodeScheduleState → NodeScheduleState}
    (isolated : runtime.Isolated parked) (found : runtime.node? address = some old)
    (nodes : after.nodes = updateFirst (·.address = address) update runtime.nodes)
    (fresh : (update old).workId = old.workId ∨ (update old).workId ∉ runtime.workIds)
    (services : ∀ service, after.services service = runtime.services service) :
    after.workIds.Nodup := by
  have distinct : (runtime.nodes.map (·.workId) ++ runtime.serviceIds).Nodup := isolated.workIds
  have same : after.workIds =
      (updateFirst (·.address = address) update runtime.nodes).map (·.workId) ++
        runtime.serviceIds := by
    rw [← serviceIds_congr services, ← nodes]
    rfl
  rw [same]
  refine nodup_updateFirst runtime.nodes distinct fun node member there => ?_
  have first : node = old := by
    have found' := find?_key isolated.nodeAddresses member (of_decide_eq_true there)
    exact Option.some.inj (found'.symm.trans found)
  subst first
  exact fresh

theorem workIds_service {service : Service} {old : ServiceScheduleState}
    {update : ServiceScheduleState → ServiceScheduleState} (isolated : runtime.Isolated parked)
    (found : (runtime.services service).find? (·.nodeAddress = address) = some old)
    (states : after.services service =
      updateFirst (·.nodeAddress = address) update (runtime.services service))
    (fresh : (update old).workId = old.workId ∨ (update old).workId ∉ runtime.workIds)
    (nodes : after.nodes = runtime.nodes)
    (others : ∀ other ≠ service, after.services other = runtime.services other) :
    after.workIds.Nodup := by
  have perm := runtime.workIds_perm service
  rw [(after.workIds_perm service).nodup_iff, states, idsBeside_congr nodes others]
  refine nodup_updateFirst _ (perm.nodup_iff.mp isolated.workIds) fun state member there => ?_
  have first : state = old := by
    have found' := find?_key (isolated.serviceAddresses service) member (of_decide_eq_true there)
    exact Option.some.inj (found'.symm.trans found)
  subst first
  exact fresh.imp_right fun new member => new (perm.mem_iff.mpr member)

/-- Every move keeps the nodes isolated. -/
theorem Move.isolated (isolated : runtime.Isolated parked)
    (move : Move runtime address after) : after.Isolated parked := by
  cases move with
  | keeps nodes services active =>
    refine ⟨?_, ?_, ?_, ?_, ?_⟩
    · rw [nodes]
      exact isolated.nodeAddresses
    · intro service
      rw [services]
      exact isolated.serviceAddresses service
    · rw [workIds_congr nodes services]
      exact isolated.workIds
    · intro dispatch now
      refine (isolated.active _ (active.symm.trans now)).mono
        (fun _ node member _ => nodes.symm ▸ member) ?_
      exact fun service _ _ state member _ => (services service).symm ▸ member
    · rw [nodes, active]
      exact isolated.inFlight
  | addsNode nodes here new fresh rest services active =>
    rename_i node
    refine ⟨?_, ?_, workIds_addNode isolated.workIds nodes fresh services, ?_, ?_⟩
    · rw [nodes, map_append, map_singleton, nodup_append_comm]
      refine nodup_cons.mpr ⟨fun member => ?_, isolated.nodeAddresses⟩
      obtain ⟨other, inside, same⟩ := mem_map.mp member
      exact new other inside (same.trans here)
    · intro service
      rw [services]
      exact isolated.serviceAddresses service
    · intro dispatch now
      refine (isolated.active _ (active.symm.trans now)).mono
        (fun _ node member _ => nodes.symm ▸ mem_append_left _ member) ?_
      exact fun service _ _ state member _ => (services service).symm ▸ member
    · intro other member flight
      rw [nodes] at member
      rw [active]
      rcases mem_append.mp member with inside | last
      · exact isolated.inFlight other inside flight
      · rw [mem_singleton.mp last, rest] at flight
        cases flight
  | addsService service states here new fresh nodes others active =>
    rename_i state
    refine ⟨?_, ?_, workIds_addService isolated.workIds states fresh nodes others, ?_, ?_⟩
    · rw [nodes]
      exact isolated.nodeAddresses
    · intro other
      by_cases same : other = service
      · subst same
        rw [states, map_append, map_singleton, nodup_append_comm]
        refine nodup_cons.mpr ⟨fun member => ?_, isolated.serviceAddresses other⟩
        obtain ⟨old, inside, same⟩ := mem_map.mp member
        exact new old inside (same.trans here)
      rw [others other same]
      exact isolated.serviceAddresses other
    · intro dispatch now
      refine (isolated.active _ (active.symm.trans now)).mono
        (fun _ node member _ => nodes.symm ▸ member) fun other _ _ state member _ => ?_
      by_cases same : other = service
      · subst same
        rw [states]
        exact mem_append_left _ member
      rw [others other same]
      exact member
    · rw [nodes, active]
      exact isolated.inFlight
  | node found nodes here fresh services move =>
    rename_i old update
    have there : old.address = address := by simpa using find?_some found
    have explained := move.explains isolated found (here old there)
    refine ⟨?_, ?_, workIds_node isolated found nodes fresh services, ?_, ?_⟩
    · rw [nodes, map_updateFirst runtime.nodes fun node _ at' => ?_]
      · exact isolated.nodeAddresses
      · have at' : node.address = address := of_decide_eq_true at'
        exact (here node at').trans at'.symm
    · intro service
      rw [services]
      exact isolated.serviceAddresses service
    · exact fun dispatch now => move.holds isolated found nodes here services now
    intro node member flight
    rcases isolated.mem_nodes found nodes here member with ⟨inside, other⟩ | rfl
    · exact explained.2 node inside other flight
    · exact explained.1 flight
  | service service found states here fresh nodes others move =>
    rename_i old update
    refine ⟨?_, ?_, workIds_service isolated found states fresh nodes others, ?_, ?_⟩
    · rw [nodes]
      exact isolated.nodeAddresses
    · intro other
      by_cases same : other = service
      · subst same
        rw [states, map_updateFirst _ fun state _ _ => here state]
        exact isolated.serviceAddresses other
      rw [others other same]
      exact isolated.serviceAddresses other
    · exact fun dispatch now => move.holds isolated found states here nodes others now
    · rw [nodes]
      exact fun node member flight => move.explains isolated member flight

/-- The entries of the other nodes, and their hold on the channel, are left alone. -/
structure Frame (runtime : ChannelRuntime) (address : UInt8) (after : ChannelRuntime) : Prop where
  nodes : after.nodes.filter (·.address ≠ address) = runtime.nodes.filter (·.address ≠ address)
  services : ∀ service, (after.services service).filter (·.nodeAddress ≠ address) =
    (runtime.services service).filter (·.nodeAddress ≠ address)
  active : ∀ dispatch, runtime.activeDispatch = some dispatch →
    dispatch.nodeAddress ≠ address → after.activeDispatch = some dispatch

theorem Move.frame (move : Move runtime address after) : runtime.Frame address after := by
  cases move with
  | keeps nodes services active =>
    exact ⟨by rw [nodes], fun service => by rw [services], fun _ now _ => active.trans now⟩
  | addsNode nodes here new fresh rest services active =>
    refine ⟨?_, fun service => by rw [services], fun _ now _ => active.trans now⟩
    rw [nodes, filter_append, filter_singleton]
    simp [here]
  | addsService service states here new fresh nodes others active =>
    refine ⟨by rw [nodes], fun other => ?_, fun _ now _ => active.trans now⟩
    by_cases same : other = service
    · subst same
      rw [states, filter_append, filter_singleton]
      simp [here]
    · rw [others other same]
  | node found nodes here fresh services move =>
    refine ⟨?_, fun service => by rw [services], fun dispatch now other => ?_⟩
    · rw [nodes]
      refine filter_updateFirst _ fun node _ there => ?_
      have there : node.address = address := of_decide_eq_true there
      simp [there, here node there]
    cases move with
    | rests rest free own => exact absurd (own dispatch now) other
    | leaves rest kept apart => exact kept.trans now
    | stays same kept described => exact kept.trans now
    | measures idle flight selected =>
      rw [idle] at now
      cases now
    | recovers idle flight cause selected =>
      rw [idle] at now
      cases now
  | service service found states here fresh nodes others move =>
    refine ⟨by rw [nodes], fun other => ?_, fun dispatch now other => ?_⟩
    · by_cases same : other = service
      · subst same
        rw [states]
        refine filter_updateFirst _ fun state _ there => ?_
        have there : state.nodeAddress = address := of_decide_eq_true there
        simp [there, here state]
      · rw [others other same]
    cases move with
    | rests free own here =>
      rw [own] at now
      cases now
      exact absurd (by cases service <;> exact here) other
    | stays same kept described => exact kept.trans now
    | starts idle flight selected =>
      rw [idle] at now
      cases now

end ChannelRuntime
end SensorSystem.Host
