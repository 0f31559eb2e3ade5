import SensorSystem.Node.Protocol.TransportEndpoint

/-! What became of the responses that were queued: those that are done, in order, each with its
own events; then the active one; then the outbox. Every call of the endpoint keeps the books. -/

namespace SensorSystem.Node

open List Base
open Framing Wire

/-- The same response, with a time stamp of a later attempt to send it. -/
inductive Restamped (response : QueuedResponse) : QueuedResponse → Prop
  | same : Restamped response response
  | again {stamped : QueuedResponse} (earlier : Restamped response stamped) (nowUs : UInt64) :
      Restamped response { stamped with
        frame := (ApplicationDispatcher.prepareTransmission stamped.frame nowUs).2 }

variable (completion : TransmissionCompletion) (transmitted : Bool)

/-- The settlement of a response, if it wants one. -/
def settlement : List ResponseEvent :=
  if completion.required then [.settled completion transmitted] else []

/-- How a response ended. -/
inductive Fate where
  | completed (wire : List UInt8)
  | aborted (wire : List UInt8)
  | dropped

/-- All that happens to a response that ended so. -/
def Fate.events (response : QueuedResponse) : Fate → List ResponseEvent
  | completed wire =>
    .started response wire :: .completed :: settlement response.transmission true
  | aborted wire => .started response wire :: .aborted :: settlement response.transmission false
  | dropped => settlement response.transmission false ++ [.dropped response]

def ResponseEvent.queued? : ResponseEvent → Option QueuedResponse
  | queued response => some response
  | _ => none

def ResponseEvent.sent? : ResponseEvent → Option ResponseEvent
  | queued _ => none
  | event => some event

/-- The responses queued so far. -/
def queuedOf (events : List ResponseEvent) : List QueuedResponse := events.filterMap (·.queued?)

/-- What happened to them afterwards. -/
def sentOf (events : List ResponseEvent) : List ResponseEvent := events.filterMap (·.sent?)

theorem queuedOf_append (first second : List ResponseEvent) :
    queuedOf (first ++ second) = queuedOf first ++ queuedOf second :=
  filterMap_append

theorem sentOf_append (first second : List ResponseEvent) :
    sentOf (first ++ second) = sentOf first ++ sentOf second :=
  filterMap_append

namespace TransportEndpoint

variable {capacity : Nat} {limits : DeliveryLimits} {σ : Type}
  {endpoint : TransportEndpoint capacity limits σ} {events : List ResponseEvent}

/-- `finished` are the responses that ended, `active` is the one on its way. -/
structure Ledger (endpoint : TransportEndpoint capacity limits σ) (events : List ResponseEvent)
    (finished : List (QueuedResponse × Fate)) (active : Option (QueuedResponse × List UInt8)) :
    Prop where
  /-- One response after the other, each from its start to its settlement. -/
  sent : sentOf events = finished.flatMap (fun entry => entry.2.events entry.1) ++
    (active.map fun entry => .started entry.1 entry.2).toList
  /-- They leave in the order they were queued, and none is missing. -/
  order : Forall₂ Restamped (queuedOf events)
    (finished.map (·.1) ++ ((active.map (·.1)).toList ++ endpoint.outbox.toList))
  busy : endpoint.txActive = active.isSome
  transmission : ∀ entry, active = some entry →
    endpoint.activeTransmission = entry.1.transmission

/-- The books are kept. -/
def Kept (endpoint : TransportEndpoint capacity limits σ) (events : List ResponseEvent) : Prop :=
  ∃ finished active, endpoint.Ledger events finished active

theorem settleTransmission_events (endpoint : TransportEndpoint capacity limits σ)
    (completion : TransmissionCompletion) (transmitted : Bool) :
    (endpoint.settleTransmission completion transmitted).2 =
      settlement completion transmitted := by
  rw [settleTransmission, settlement]
  cases completion.required with
  | false => rfl
  | true => rfl

theorem settleTransmission_kept (endpoint : TransportEndpoint capacity limits σ)
    (completion : TransmissionCompletion) (transmitted : Bool) :
    let after := (endpoint.settleTransmission completion transmitted).1
    after.outbox = endpoint.outbox ∧ after.txActive = endpoint.txActive ∧
      after.activeTransmission = endpoint.activeTransmission := by
  dsimp only
  rw [settleTransmission]
  split
  · exact ⟨rfl, rfl, rfl⟩
  dsimp only
  split
  · exact ⟨rfl, rfl, rfl⟩
  · exact ⟨rfl, rfl, rfl⟩

/-- The end of the active transmission. -/
theorem settleActiveTransmission_spec (endpoint : TransportEndpoint capacity limits σ)
    (transmitted : Bool) : let settled := endpoint.settleActiveTransmission transmitted
    settled.2 = settlement endpoint.activeTransmission transmitted ∧
      settled.1.outbox = endpoint.outbox ∧ settled.1.txActive = endpoint.txActive := by
  rw [settleActiveTransmission]
  split
  · rename_i optional
    rw [settlement, if_neg (by simpa using optional)]
    exact ⟨rfl, rfl, rfl⟩
  obtain ⟨outbox, active, -⟩ :=
    endpoint.settleTransmission_kept endpoint.activeTransmission transmitted
  exact ⟨endpoint.settleTransmission_events _ _, outbox, active⟩

variable {after : TransportEndpoint capacity limits σ}

/-- The books when the active transmission ends. -/
theorem Ledger.ends {finished : List (QueuedResponse × Fate)} {response : QueuedResponse}
    {wire : List UInt8} (ledger : endpoint.Ledger events finished (some (response, wire)))
    {new : List ResponseEvent} (fate : Fate) (outbox : after.outbox = endpoint.outbox)
    (idle : after.txActive = false)
    (ended : .started response wire :: sentOf new = fate.events response)
    (nothing : queuedOf new = []) : after.Kept (events ++ new) := by
  refine ⟨finished ++ [(response, fate)], none, ?_, ?_, idle, nofun⟩
  · rw [sentOf_append, ledger.sent, flatMap_append, append_assoc]
    simp [← ended]
  · rw [queuedOf_append, nothing, append_nil, outbox]
    simpa using ledger.order

variable {added : List QueuedResponse}
  {state : TransportEndpoint capacity limits σ × List ResponseEvent}

variable (kept : endpoint.Kept events)

include kept

/-- The books when responses are queued. -/
theorem Kept.queue (grown : after.outbox.toList = endpoint.outbox.toList ++ added)
    (active : after.txActive = endpoint.txActive)
    (transmission : after.activeTransmission = endpoint.activeTransmission) :
    after.Kept (events ++ added.map .queued) := by
  obtain ⟨finished, current, ledger⟩ := kept
  have queuedAdded : queuedOf (added.map .queued) = added := by
    rw [queuedOf, filterMap_map]
    exact filterMap_some
  have sentAdded : sentOf (added.map .queued) = [] := by
    rw [sentOf, filterMap_map]
    exact filterMap_none added
  refine ⟨finished, current, ?_, ?_, active.trans ledger.busy, fun entry same => ?_⟩
  · rw [sentOf_append, sentAdded, append_nil]
    exact ledger.sent
  · rw [queuedOf_append, queuedAdded, grown]
    have later : Forall₂ Restamped added added := forall₂_same.mpr fun _ _ => .same
    simpa only [append_assoc] using rel_append ledger.order later
  · exact transmission.trans (ledger.transmission entry same)

variable (nowUs : UInt64)

/-- A step that touches neither the outbox nor the transmission. -/
theorem Kept.same (outbox : after.outbox = endpoint.outbox)
    (active : after.txActive = endpoint.txActive)
    (transmission : after.activeTransmission = endpoint.activeTransmission) :
    after.Kept events := by
  obtain ⟨finished, current, ledger⟩ := kept
  refine ⟨finished, current, ledger.sent, ?_, active.trans ledger.busy, fun entry same => ?_⟩
  · rw [outbox]
    exact ledger.order
  · exact transmission.trans (ledger.transmission entry same)

/-- Nobody is on the way and a response stands in front. -/
theorem Kept.front (idle : endpoint.txActive = false) (nonempty : endpoint.outbox.size ≠ 0) :
    ∃ finished, endpoint.Ledger events finished none ∧
      endpoint.outbox.toList = endpoint.outbox.get 0 :: (endpoint.outbox.advance 1).toList := by
  obtain ⟨finished, active, ledger⟩ := kept
  cases active with
  | some entry =>
    rw [ledger.busy] at idle
    cases idle
  | none => exact ⟨finished, ledger, endpoint.outbox.toList_eq_cons nonempty⟩

omit kept

variable (idle : endpoint.txActive = false)

include kept idle

omit idle

omit kept

/-- An update, or anything else that changes the services and the journal. -/
inductive Step (limits : DeliveryLimits) (σ : Type) where
  | update (nowUs : UInt64) (answers : PortAnswers)
  | outside (dispatcher : ApplicationDispatcher limits σ)

def step (state : TransportEndpoint capacity limits σ × List ResponseEvent) :
    Step limits σ → TransportEndpoint capacity limits σ × List ResponseEvent
  | .update nowUs answers =>
    let (endpoint, events) := state.1.update nowUs answers
    (endpoint, state.2 ++ events)
  | .outside dispatcher => ({ state.1 with dispatcher }, state.2)

def run (endpoint : TransportEndpoint capacity limits σ) (steps : List (Step limits σ)) :
    TransportEndpoint capacity limits σ × List ResponseEvent :=
  steps.foldl step (endpoint, [])

/-- An endpoint that was just made. -/
def initial (positive : 0 < capacity) (policy : TransportEndpointPolicy)
    (dispatcher : ApplicationDispatcher limits σ) : TransportEndpoint capacity limits σ where
  policy
  dispatcher
  outbox := .empty positive {}

end TransportEndpoint
end SensorSystem.Node
