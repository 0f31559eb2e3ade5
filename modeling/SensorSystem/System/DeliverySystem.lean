import SensorSystem.Host.Session.StreamRecovery
import SensorSystem.Node.Protocol.NodeTraces
import SensorSystem.System.PullAgreement

/-! One host session and one node, and between them the payloads each has sent. The channel
delivers any of them at any time, late, twice or never, which covers one that loses requests and
responses. The response under a token waits for its settlement, so appends and further requests
may come in between. -/

namespace SensorSystem.System

open Node (DeliveryLimits DeliverySession NodeTrace NodeEvent)
open Host (NodeSession SessionCall SessionRecord SequenceCursor ExpectedStreamState)

/-- `accept_response` of `measurement_transfer.rs`. -/
def responseCall (payload : List UInt8) : SessionCall :=
  match Host.decodePullResponse payload with
  | .error (.remoteError .busy) => .abandonPullForRetry
  | .error _ => .failPullForRecovery
  | .ok (.sampleChunk chunk) => .acceptWireChunk chunk
  | .ok (.noData state) => .acceptNoData state
  | .ok (.rangeUnavailable state) => .acceptRangeUnavailable state
  | .ok (.gap evidence) => .acceptGap evidence
  | .ok (.continuityBreak evidence) => .acceptContinuityBreak evidence
  | .ok (.streamChanged _) => .streamChanged
  | .ok (.invalidRelease state) => .invalidRelease state

structure DeliverySystem (limits : DeliveryLimits) where
  node : NodeTrace limits
  /-- The response that waits for its settlement, with its token. -/
  outstanding : Option (UInt64 × List UInt8) := none
  /-- How the node has decided the pulls it served. -/
  decisions : List Node.PullDecision := []
  requests : List (List UInt8) := []
  responses : List (List UInt8) := []
  /-- The session, unless the host is down. -/
  session : Option NodeSession
  /-- The record that was accepted and is not confirmed yet. -/
  accepted : Option SessionRecord := none
  durable : SequenceCursor
  confirmed : List SessionRecord := []

inductive DeliveryStep where
  | append (event : NodeEvent)
  | serve (payload output : List UInt8)
  | settle (sent : Bool)
  | beginPull (maxSamples : UInt16)
  | abandonPullForRetry
  | receive (payload : List UInt8)
  | takePendingPersistence
  | confirmDurable (receipt : Host.DurableReceipt)
  /-- The host comes back with a state that the node has reported; a record handed out may be on the
  disk. -/
  | restart (persisted : Bool) (state : Host.StreamState)

namespace DeliverySystem

variable {limits : DeliveryLimits}

def append (system : DeliverySystem limits) (event : NodeEvent) : DeliverySystem limits :=
  if event.append?.isSome then { system with node := system.node.perform event } else system

/-- The decision on a request that the handler decodes. -/
def pullDecision (session : DeliverySession limits) (payload : List UInt8) :
    Option Node.PullDecision :=
  match Node.Wire.decodePullRequest payload with
  | (.ok, some request) | (.invalidRelease, some request) =>
    some (session.preparePull request.command).1.decision
  | _ => none

variable (system : DeliverySystem limits)

/-- The node handles a request that is in the channel. -/
def serve (payload output : List UInt8) : DeliverySystem limits :=
  if payload ∈ system.requests then
    let handled := system.node.session.handle Node.Wire.pullSamplesMessageId payload output
    let served := { system with
      node := system.node.perform (.handle Node.Wire.pullSamplesMessageId payload output)
      decisions := system.decisions ++ (pullDecision system.node.session payload).toList }
    if handled.1.completionRequired then
      { served with outstanding := some (handled.1.deliveryToken, handled.payload) }
    else { served with responses := system.responses ++ [handled.payload] }
  else system

/-- A response under a token is queued when its delivery completes. -/
def settle (sent : Bool) : DeliverySystem limits :=
  match system.outstanding with
  | none => system
  | some (token, payload) =>
    if sent then
      { system with
        node := system.node.perform (.complete token)
        outstanding := none
        responses := if (system.node.session.complete token).1 = .ok then
          system.responses ++ [payload] else system.responses }
    else { system with node := system.node.perform (.abort token), outstanding := none }

/-- A call, with the request it sends or the record it accepts or confirms. -/
def call (system : DeliverySystem limits) (call : SessionCall) : DeliverySystem limits :=
  match system.session with
  | none => system
  | some session =>
    match session.perform call with
    | (.ok (.request request), after) =>
      { system with
        session := some after
        requests := system.requests ++ [Host.encodePullRequest request] }
    | (.ok .accepted, after) =>
      { system with session := some after, accepted := after.pendingRecord }
    | (.ok .confirmed, after) =>
      { system with
        session := some after
        accepted := none
        durable := after.cursors.durable
        confirmed := system.confirmed ++ system.accepted.toList }
    | (_, after) => { system with session := some after }

def receive (payload : List UInt8) : DeliverySystem limits :=
  if payload ∈ system.responses then system.call (responseCall payload) else system

/-- What Capture holds when the record handed out last has reached the disk. -/
def stored : SequenceCursor × List SessionRecord :=
  match system.session, system.accepted with
  | some session, some record =>
    if session.phase.isPersisting ∧ session.pendingRecord = none then
      (session.cursors.received, system.confirmed ++ [record])
    else (system.durable, system.confirmed)
  | _, _ => (system.durable, system.confirmed)

variable (expected : ExpectedStreamState)

def restart (system : DeliverySystem limits) (persisted : Bool) (state : Host.StreamState) :
    DeliverySystem limits :=
  let (durable, confirmed) :=
    if persisted then system.stored else (system.durable, system.confirmed)
  { system with
    durable
    confirmed
    accepted := none
    session :=
      match Host.reconcileExistingCapture expected
          ⟨expected.hardwareId, expected.bootEpoch, durable⟩ state with
      | .ok stream => some stream.session
      | .error _ => none }

def step (system : DeliverySystem limits) : DeliveryStep → DeliverySystem limits
  | .append event => system.append event
  | .serve payload output => system.serve payload output
  | .settle sent => system.settle sent
  | .beginPull maxSamples => system.call (.beginPull maxSamples)
  | .abandonPullForRetry => system.call .abandonPullForRetry
  | .receive payload => system.receive payload
  | .takePendingPersistence => system.call .takePendingPersistence
  | .confirmDurable receipt => system.call (.confirmDurable receipt)
  | .restart persisted state => system.restart expected persisted state

def run (system : DeliverySystem limits) (steps : List DeliveryStep) : DeliverySystem limits :=
  steps.foldl (step expected) system

/-- Both sides at the start, nothing in the channel. -/
def start (node : NodeTrace limits) (stream : Host.ReconciledStream) (durable : SequenceCursor) :
    DeliverySystem limits where
  node
  session := some stream.session
  durable

end DeliverySystem

/-- A stream of the small node. -/
def firstStream : ExpectedStreamState := ⟨Vector.replicate 8 0, 7, 4⟩

end SensorSystem.System
