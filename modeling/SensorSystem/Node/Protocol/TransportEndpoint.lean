import SensorSystem.Node.Protocol.ResponseOutbox

/-! `transport_endpoint.h`: one transmission at a time, bytes in and response frames out. The port
is whatever answers its calls: an update gets all answers of the port as its input. Beside the
endpoint an update returns what it did to the responses, in order. -/

namespace SensorSystem.Node

open Base UInt64
open Framing Wire

structure TransportEndpointPolicy where
  maxRxBytesPerUpdate : Nat := 256
  txTimeoutUs : UInt64 := 100000
  responseTurnaroundUs : UInt64 := 0

structure TransportEndpointStats where
  rxBytes : UInt64 := 0
  decodedFrames : UInt64 := 0
  framingErrors : UInt64 := 0
  ignoredFrames : UInt64 := 0
  responseQueueFull : UInt64 := 0
  invalidResponses : UInt64 := 0
  completionRejections : UInt64 := 0
  txStarted : UInt64 := 0
  txCompleted : UInt64 := 0
  txStartFailures : UInt64 := 0
  txTimeouts : UInt64 := 0
  txEncodeFailures : UInt64 := 0
  unexpectedPortBusy : UInt64 := 0
  transmissionCompletionRejections : UInt64 := 0

/-- `increment`: a counter that stays at its last value. -/
def increment (counter : UInt64) : UInt64 :=
  if counter ≠ ofNat (2 ^ 64 - 1) then counter + 1 else counter

/-- The answers of the port during one update; `first` and `second` are for the two attempts to
start. -/
structure PortAnswers where
  activeBusy : Bool
  completed : Bool
  firstBusy : Bool
  firstStarts : Bool
  received : List UInt8
  secondBusy : Bool
  secondStarts : Bool

/-- What happens to the responses; `completed` and `aborted` end a transmission. -/
inductive ResponseEvent where
  | queued (response : QueuedResponse)
  | started (response : QueuedResponse) (wire : List UInt8)
  | completed
  | aborted
  | settled (completion : TransmissionCompletion) (transmitted : Bool)
  | dropped (response : QueuedResponse)

structure TransportEndpoint (capacity : Nat) (limits : DeliveryLimits) (σ : Type) where
  policy : TransportEndpointPolicy
  dispatcher : ApplicationDispatcher limits σ
  decoder : StreamDecoder := {}
  outbox : ResponseOutbox capacity
  txWire : List UInt8 := List.replicate maxWireFrameBytes 0
  txStartedAtUs : UInt64 := 0
  txNotBeforeUs : UInt64 := 0
  txActive : Bool := false
  activeTransmission : TransmissionCompletion := {}
  stats : TransportEndpointStats := {}

namespace TransportEndpoint

variable {capacity : Nat} {limits : DeliveryLimits} {σ : Type}
  (endpoint : TransportEndpoint capacity limits σ)

/-- Add to the counters. -/
def counting (count : TransportEndpointStats → TransportEndpointStats) :
    TransportEndpoint capacity limits σ :=
  { endpoint with stats := count endpoint.stats }

def validPolicy : Bool :=
  endpoint.policy.maxRxBytesPerUpdate > 0 ∧ endpoint.policy.txTimeoutUs > 0

/-- A required settlement with the dispatcher; a rejection is counted. -/
def settleTransmission (endpoint : TransportEndpoint capacity limits σ)
    (completion : TransmissionCompletion) (transmitted : Bool) :
    TransportEndpoint capacity limits σ × List ResponseEvent :=
  if !completion.required then (endpoint, [])
  else
    let (status, dispatcher) := endpoint.dispatcher.settleTransmission completion transmitted
    let endpoint := { endpoint with dispatcher }
    (if status ≠ .ok then endpoint.counting fun stats =>
        { stats with transmissionCompletionRejections :=
            increment stats.transmissionCompletionRejections }
      else endpoint,
      [.settled completion transmitted])

def settleActiveTransmission (transmitted : Bool) :
    TransportEndpoint capacity limits σ × List ResponseEvent :=
  if !endpoint.activeTransmission.required then (endpoint, [])
  else
    let (endpoint, events) :=
      endpoint.settleTransmission endpoint.activeTransmission transmitted
    ({ endpoint with activeTransmission := {} }, events)

variable (nowUs : UInt64)

def serviceActiveTx (answers : PortAnswers) :
    TransportEndpoint capacity limits σ × List ResponseEvent :=
  if !endpoint.txActive then (endpoint, [])
  else if !answers.activeBusy && answers.completed then
    let (endpoint, events) := ({ endpoint with txActive := false }.counting fun stats =>
      { stats with txCompleted := increment stats.txCompleted }).settleActiveTransmission true
    (endpoint, .completed :: events)
  else if nowUs - endpoint.txStartedAtUs ≥ endpoint.policy.txTimeoutUs then
    let (endpoint, events) := ({ endpoint with txActive := false }.counting fun stats =>
      { stats with txTimeouts := increment stats.txTimeouts }).settleActiveTransmission false
    (endpoint, .aborted :: events)
  else (endpoint, [])

/-- `now_us + response_turnaround_us`, at most the last instant. -/
def turnaroundEnd : UInt64 :=
  if nowUs > ofNat (2 ^ 64 - 1) - endpoint.policy.responseTurnaroundUs then
    ofNat (2 ^ 64 - 1)
  else nowUs + endpoint.policy.responseTurnaroundUs

/-- A decoded request goes to the outbox. -/
def acceptFrame (request : Frame) : TransportEndpoint capacity limits σ × List ResponseEvent :=
  let (accepted, outbox, dispatcher) :=
    endpoint.outbox.acceptRequestAt endpoint.dispatcher request nowUs
  let added := outbox.toList.drop endpoint.outbox.size
  let endpoint := { endpoint with outbox, dispatcher }
  (match accepted with
    | .ignored => endpoint.counting fun stats =>
        { stats with ignoredFrames := increment stats.ignoredFrames }
    | .queueFull => endpoint.counting fun stats =>
        { stats with responseQueueFull := increment stats.responseQueueFull }
    | .invalidResponse => endpoint.counting fun stats =>
        { stats with invalidResponses := increment stats.invalidResponses }
    | .completionRejected => endpoint.counting fun stats =>
        { stats with completionRejections := increment stats.completionRejections }
    | .queued => { endpoint with txNotBeforeUs := endpoint.turnaroundEnd nowUs },
    added.map .queued)

/-- One byte of `process_rx`. -/
def receiveByte (byte : UInt8) : TransportEndpoint capacity limits σ × List ResponseEvent :=
  let endpoint := endpoint.counting fun stats => { stats with rxBytes := increment stats.rxBytes }
  let (status, decoder, request) := endpoint.decoder.push byte {}
  let endpoint := { endpoint with decoder }
  match status with
  | .noFrame => (endpoint, [])
  | .ok => (endpoint.counting fun stats =>
      { stats with decodedFrames := increment stats.decodedFrames }).acceptFrame nowUs request
  | _ => (endpoint.counting fun stats =>
      { stats with framingErrors := increment stats.framingErrors }, [])

def receiveBytes (endpoint : TransportEndpoint capacity limits σ) (nowUs : UInt64) :
    List UInt8 → TransportEndpoint capacity limits σ × List ResponseEvent
  | [] => (endpoint, [])
  | byte :: rest =>
    let (endpoint, events) := endpoint.receiveByte nowUs byte
    let (endpoint, later) := endpoint.receiveBytes nowUs rest
    (endpoint, events ++ later)

def processRx (received : List UInt8) : TransportEndpoint capacity limits σ × List ResponseEvent :=
  endpoint.receiveBytes nowUs (received.take endpoint.policy.maxRxBytesPerUpdate)

/-- A response that cannot be sent leaves the outbox. -/
def dropFront : TransportEndpoint capacity limits σ × List ResponseEvent :=
  let front := endpoint.outbox.get 0
  let (endpoint, events) := endpoint.settleTransmission front.transmission false
  ({ endpoint with outbox := ResponseOutbox.pop endpoint.outbox }.counting fun stats =>
      { stats with txEncodeFailures := increment stats.txEncodeFailures },
    events ++ [.dropped front])

/-- The response in front is on its way. -/
def startFront (wireSize : Nat) : TransportEndpoint capacity limits σ × List ResponseEvent :=
  let front := endpoint.outbox.get 0
  ({ endpoint with
      activeTransmission := front.transmission
      outbox := ResponseOutbox.pop endpoint.outbox
      txActive := true
      txStartedAtUs := nowUs }.counting fun stats =>
        { stats with txStarted := increment stats.txStarted },
    [.started front (endpoint.txWire.take wireSize)])

/-- `try_start_tx`; `busy` and `starts` are the answers of the port. -/
def tryStartTx (busy starts : Bool) :
    Bool × TransportEndpoint capacity limits σ × List ResponseEvent :=
  if endpoint.txActive ∨ endpoint.outbox.size = 0 then (false, endpoint, [])
  else if nowUs < endpoint.txNotBeforeUs then (false, endpoint, [])
  else if busy then
    (false, endpoint.counting fun stats =>
      { stats with unexpectedPortBusy := increment stats.unexpectedPortBusy }, [])
  else
    let front := endpoint.outbox.get 0
    let (prepared, frame) := ApplicationDispatcher.prepareTransmission front.frame nowUs
    let endpoint := { endpoint with outbox := endpoint.outbox.set 0 { front with frame } }
    if !prepared then (false, endpoint.dropFront)
    else
      match encode frame (some endpoint.txWire) with
      | (.ok, wireSize, wire) =>
        let endpoint := { endpoint with txWire := wire.getD [] }
        if !starts then
          (false, endpoint.counting fun stats =>
            { stats with txStartFailures := increment stats.txStartFailures }, [])
        else (true, endpoint.startFront nowUs wireSize)
      | (_, _, wire) => (false, { endpoint with txWire := wire.getD [] }.dropFront)

def update (answers : PortAnswers) : TransportEndpoint capacity limits σ × List ResponseEvent :=
  if !endpoint.validPolicy then (endpoint, [])
  else
    let (endpoint, serviced) := endpoint.serviceActiveTx nowUs answers
    if endpoint.txActive then (endpoint, serviced)
    else
      let (started, endpoint, first) :=
        endpoint.tryStartTx nowUs answers.firstBusy answers.firstStarts
      if started then (endpoint, serviced ++ first)
      else
        let (endpoint, received) := endpoint.processRx nowUs answers.received
        let (_, endpoint, second) :=
          endpoint.tryStartTx nowUs answers.secondBusy answers.secondStarts
        (endpoint, serviced ++ first ++ received ++ second)

end TransportEndpoint
end SensorSystem.Node
