import SensorSystem.Host.Channel.Transaction
import SensorSystem.Host.Protocol.Identity
import SensorSystem.Host.Session.NodeSession

/-! `measurement_transfer.rs`: the session of one node on its way through the channel. A response
leads to one call of the session; an error of that call is returned with the transfer it leaves. -/

namespace SensorSystem.Host

def pullSamplesMessageId : UInt8 := 2

inductive PersistenceKind where
  | sampleChunk (sampleCount : UInt16)
  | gap (gap : Gap)
  | continuityBreak (observed : ContinuityBreak)
deriving DecidableEq

inductive RecoveryReason where
  | streamChanged (epoch : BootEpoch)
  | invalidRelease (state : StreamState)
  | invalidResponse
deriving DecidableEq

inductive MeasurementOutcome where
  | notAccepted
  | noData (state : StreamState)
  | persistenceRequired (kind : PersistenceKind)
  | recoveryRequired (reason : RecoveryReason)

inductive MeasurementTransferError where
  | zeroSampleLimit
  | session (error : SessionError)
  | wire (error : MeasurementWireError)
deriving DecidableEq

structure MeasurementTransfer where
  nodeAddress : UInt8
  maxSamples : UInt16
  session : NodeSession
  observedProduced : Option SequenceCursor := none
  persistenceKind : Option PersistenceKind := none
  recoveryReason : Option RecoveryReason := none

namespace MeasurementTransfer

variable (transfer : MeasurementTransfer)

def beginAttempt (timeout : DurationMicros) :
    Except MeasurementTransferError (RequestSpec × List UInt8 × MeasurementTransfer) :=
  match transfer.session.beginPull transfer.maxSamples with
  | (.error error, _) => .error (.session error)
  | (.ok pull, session) =>
    .ok ({
      nodeAddress := transfer.nodeAddress
      service := ServiceId.measurement.toByte
      requestMessage := pullSamplesMessageId
      responseMessage := pullSamplesMessageId
      timeout
      timeoutRecovery := .retrySafe }, encodePullRequest pull, { transfer with session })

def markAttemptUncertain : Except MeasurementTransferError MeasurementTransfer :=
  match transfer.session.abandonPullForRetry with
  | (.error error, _) => .error (.session error)
  | (.ok (), session) => .ok { transfer with session }

/-- A call of the session, and what the transfer notes when it succeeds. -/
def settle {α : Type} (result : SessionResult α)
    (note : α → MeasurementTransfer → MeasurementOutcome × MeasurementTransfer) :
    Except MeasurementTransferError MeasurementOutcome × MeasurementTransfer :=
  match result with
  | (.error error, session) => (.error (.session error), { transfer with session })
  | (.ok value, session) =>
    let (outcome, transfer) := note value { transfer with session }
    (.ok outcome, transfer)

/-- The notes of evidence that has to be made durable. -/
def persist (kind : PersistenceKind) (produced : SequenceCursor) (transfer : MeasurementTransfer) :
    MeasurementOutcome × MeasurementTransfer :=
  (.persistenceRequired kind,
    { transfer with observedProduced := some produced, persistenceKind := some kind })

def recover (reason : RecoveryReason) (transfer : MeasurementTransfer) :
    MeasurementOutcome × MeasurementTransfer :=
  (.recoveryRequired reason, { transfer with recoveryReason := some reason })

def acceptResponse (payload : List UInt8) :
    Except MeasurementTransferError MeasurementOutcome × MeasurementTransfer :=
  let session := transfer.session
  match decodePullResponse payload with
  | .error (.remoteError .busy) =>
    transfer.settle session.abandonPullForRetry fun _ transfer => (.notAccepted, transfer)
  | .error _ =>
    transfer.settle session.failPullForRecovery fun _ => recover .invalidResponse
  | .ok (.sampleChunk chunk) =>
    transfer.settle (session.acceptWireChunk chunk) fun _ =>
      persist (.sampleChunk chunk.header.sampleCount) chunk.header.produced
  | .ok (.noData state) =>
    transfer.settle (session.acceptNoData state) fun _ transfer =>
      (.noData state, { transfer with observedProduced := some state.produced })
  | .ok (.rangeUnavailable state) =>
    transfer.settle (session.acceptRangeUnavailable state) fun gap =>
      persist (.gap gap) state.produced
  | .ok (.gap evidence) =>
    transfer.settle (session.acceptGap evidence) fun gap => persist (.gap gap) evidence.produced
  | .ok (.continuityBreak evidence) =>
    transfer.settle (session.acceptContinuityBreak evidence) fun observed =>
      persist (.continuityBreak observed) evidence.produced
  | .ok (.streamChanged epoch) =>
    transfer.settle session.streamChanged fun _ => recover (.streamChanged epoch)
  | .ok (.invalidRelease state) =>
    transfer.settle (session.invalidRelease state) fun _ transfer =>
      recover (.invalidRelease state) { transfer with observedProduced := some state.produced }

end MeasurementTransfer
end SensorSystem.Host
