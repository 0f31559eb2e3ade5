import SensorSystem.Host.Protocol.Framing
import SensorSystem.Host.Core.Stream

/-! `transaction.rs`: one request and its response on a half-duplex channel. Only this state
machine declares a wire attempt complete. A method that fails has changed nothing, so a failure is
its error alone. `begin`, which only tests call, is `prepare` and `mark_transmitted` in a row. -/

namespace SensorSystem.Host

/-- Monotonic time supplied by the runtime clock. -/
abbrev MonotonicMicros := UInt64

inductive TransactionError where
  | zeroDuration
  | channelBusy
  | requestRequiresAddressedNode
  | invalidRoutedRequest
  | notTransmitting
  | timeOverflow
deriving DecidableEq

/-- A duration as `DurationMicros::new` builds it. -/
@[ext] structure DurationMicros where
  value : UInt64
  nonzero : value ≠ 0
deriving Repr

instance : DecidableEq DurationMicros := fun _ _ => decidable_of_iff _ DurationMicros.ext_iff.symm

def DurationMicros.new (value : UInt64) : Except TransactionError DurationMicros :=
  if nonzero : value = 0 then .error .zeroDuration else .ok ⟨value, nonzero⟩

def DurationMicros.micro : DurationMicros := ⟨1, by decide⟩
def DurationMicros.milli : DurationMicros := ⟨1000, by decide⟩
def DurationMicros.second : DurationMicros := ⟨1000000, by decide⟩

/-- Meaning of a missing response for the application service. -/
inductive TimeoutRecovery where
  | retrySafe
  | reconcileState
deriving DecidableEq

structure RequestSpec where
  nodeAddress : UInt8
  service : UInt8
  requestMessage : UInt8
  responseMessage : UInt8
  timeout : DurationMicros
  timeoutRecovery : TimeoutRecovery

/-- A request whose destination differs from the source of its response. -/
structure RoutedRequestSpec where
  requestDestination : UInt8
  responseSource : UInt8
  service : UInt8
  requestMessage : UInt8
  responseMessage : UInt8
  timeout : DurationMicros
  timeoutRecovery : TimeoutRecovery

structure ActiveTransaction where
  transactionId : UInt32
  nodeAddress : UInt8
  requestDestination : UInt8
  service : UInt8
  requestMessage : UInt8
  responseMessage : UInt8
  deadline : MonotonicMicros
  timeoutRecovery : TimeoutRecovery
deriving DecidableEq

structure PreparedTransaction where
  transactionId : UInt32
  nodeAddress : UInt8
  requestDestination : UInt8
  service : UInt8
  requestMessage : UInt8
  responseMessage : UInt8
  timeout : DurationMicros
  timeoutRecovery : TimeoutRecovery
deriving DecidableEq

open Framing (Frame FrameError hostAddress broadcastAddress)

variable (prepared : PreparedTransaction)

def PreparedTransaction.requestFrame (payload : List UInt8) : Except FrameError Frame :=
  Frame.new .request prepared.requestDestination hostAddress prepared.service
    prepared.requestMessage prepared.transactionId payload

def ActiveTransaction.matchesFrame (active : ActiveTransaction) (frame : Frame) : Bool :=
  frame.role == .response && frame.destination == hostAddress &&
    frame.source == active.nodeAddress && frame.service == active.service &&
    frame.message == active.responseMessage && frame.transactionId == active.transactionId

inductive ResponseDisposition where
  | accepted
  | unrelated
  | late
  | unsolicited

inductive TimerEvent where
  | none
  | timedOut (transactionId : UInt32) (recovery : TimeoutRecovery)
      (quarantineUntil : MonotonicMicros)
  | quarantineEnded

inductive TransactionState where
  | idle
  | transmitting (prepared : PreparedTransaction)
  | awaiting (active : ActiveTransaction)
  | quarantine (expired : ActiveTransaction) (until_ : MonotonicMicros)
deriving DecidableEq

structure TransactionCore where
  nextTransactionId : UInt32
  quarantineDuration : DurationMicros
  state : TransactionState := .idle

/-- The transaction of a prepared one that has been sent. -/
def PreparedTransaction.activate (deadline : MonotonicMicros) : ActiveTransaction where
  transactionId := prepared.transactionId
  nodeAddress := prepared.nodeAddress
  requestDestination := prepared.requestDestination
  service := prepared.service
  requestMessage := prepared.requestMessage
  responseMessage := prepared.responseMessage
  deadline
  timeoutRecovery := prepared.timeoutRecovery

namespace TransactionCore

def new (seed : UInt32) (quarantineDuration : DurationMicros) : TransactionCore where
  nextTransactionId := seed
  quarantineDuration

variable (core : TransactionCore)

def isIdle : Bool :=
  core.state == .idle

def prepare (request : RequestSpec) :
    Except TransactionError (PreparedTransaction × TransactionCore) :=
  if core.state ≠ .idle then .error .channelBusy
  else if request.nodeAddress = hostAddress ∨ request.nodeAddress = broadcastAddress then
    .error .requestRequiresAddressedNode
  else
    let transaction := {
      transactionId := core.nextTransactionId
      nodeAddress := request.nodeAddress
      requestDestination := request.nodeAddress
      service := request.service
      requestMessage := request.requestMessage
      responseMessage := request.responseMessage
      timeout := request.timeout
      timeoutRecovery := request.timeoutRecovery }
    .ok (transaction, { core with
      nextTransactionId := core.nextTransactionId + 1
      state := .transmitting transaction })

def prepareRouted (request : RoutedRequestSpec) :
    Except TransactionError (PreparedTransaction × TransactionCore) :=
  if core.state ≠ .idle then .error .channelBusy
  else if request.requestDestination = hostAddress ∨ request.responseSource = hostAddress ∨
      request.responseSource = broadcastAddress then
    .error .invalidRoutedRequest
  else
    let transaction := {
      transactionId := core.nextTransactionId
      nodeAddress := request.responseSource
      requestDestination := request.requestDestination
      service := request.service
      requestMessage := request.requestMessage
      responseMessage := request.responseMessage
      timeout := request.timeout
      timeoutRecovery := request.timeoutRecovery }
    .ok (transaction, { core with
      nextTransactionId := core.nextTransactionId + 1
      state := .transmitting transaction })

variable (now : MonotonicMicros)

def markTransmitted : Except TransactionError (ActiveTransaction × TransactionCore) :=
  match core.state with
  | .transmitting prepared =>
    match checkedAdd now prepared.timeout.value with
    | none => .error .timeOverflow
    | some deadline =>
      .ok (prepared.activate deadline,
        { core with state := .awaiting (prepared.activate deadline) })
  | _ => .error .notTransmitting

def cancelTransmit : Except TransactionError TransactionCore :=
  match core.state with
  | .transmitting _ => .ok { core with state := .idle }
  | _ => .error .notTransmitting

variable (expired : ActiveTransaction)

def enterQuarantine : Except TransactionError (MonotonicMicros × TransactionCore) :=
  match checkedAdd expired.deadline core.quarantineDuration.value with
  | none => .error .timeOverflow
  | some until_ => .ok (until_, { core with state := .quarantine expired until_ })

/-- What a frame is that arrives when its transaction has expired. -/
def lateDisposition (frame : Frame) : ResponseDisposition :=
  if expired.matchesFrame frame then .late else .unrelated

def receive (frame : Frame) : Except TransactionError (ResponseDisposition × TransactionCore) :=
  match core.state with
  | .idle => .ok (.unsolicited, core)
  | .transmitting _ => .ok (.unrelated, core)
  | .awaiting active =>
    if now ≤ active.deadline then
      if active.matchesFrame frame then .ok (.accepted, { core with state := .idle })
      else .ok (.unrelated, core)
    else
      (fun (_, core) => (lateDisposition active frame, core)) <$> core.enterQuarantine active
  | .quarantine expired _ => .ok (lateDisposition expired frame, core)

def onTimer : Except TransactionError (TimerEvent × TransactionCore) :=
  match core.state with
  | .idle | .transmitting _ => .ok (.none, core)
  | .awaiting active =>
    if now ≤ active.deadline then .ok (.none, core)
    else
      (fun (until_, core) =>
        (.timedOut active.transactionId active.timeoutRecovery until_, core)) <$>
          core.enterQuarantine active
  | .quarantine _ until_ =>
    if now < until_ then .ok (.none, core)
    else .ok (.quarantineEnded, { core with state := .idle })

end TransactionCore
end SensorSystem.Host
