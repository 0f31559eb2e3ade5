import SensorSystem.Host.Protocol.MeasurementWire

/-! `node_session.rs`: one pull at a time, each answer turned into one pending record that has to
be made durable before the next pull. A call returns its result with the session it leaves, since
a failing call may already have changed something. -/

namespace SensorSystem.Host

structure DurableReceipt where
  hardwareId : HardwareId
  bootEpoch : BootEpoch
  stop : SequenceCursor
deriving DecidableEq

inductive SessionPhase where
  | ready
  | awaitingPull
  | persistingChunk
  | persistingGap
  | persistingContinuityBreak
  | recoveryRequired
deriving DecidableEq

inductive PendingChunk where
  | legacy (header : SampleChunkHeader) (samples : List SampleAxes)
  | wire (chunk : SampleChunk)
deriving DecidableEq

inductive PendingPersistence where
  | chunk (hardwareId : HardwareId) (body : SampleChunk)
  | gap (missing : Gap)
  | continuityBreak (observed : ContinuityBreak)

def ContinuityBreak.endCursor (observed : ContinuityBreak) : SequenceCursor :=
  observed.at_ + 1

def PendingPersistence.receipt : PendingPersistence → DurableReceipt
  | .chunk hardwareId body =>
    ⟨hardwareId, body.header.bootEpoch, body.header.first + body.header.sampleCount.toUInt64⟩
  | .gap missing =>
    ⟨missing.hardwareId, missing.bootEpoch, missing.firstMissing + missing.missingCount⟩
  | .continuityBreak observed => ⟨observed.hardwareId, observed.bootEpoch, observed.endCursor⟩

inductive SessionError where
  | unexpectedPhase
  | missingPending
  | sampleCountMismatch
  | unexpectedNoData
  | unexpectedRangeUnavailable
  | streamChanged
  | receiptIdentityMismatch
  | receiptCursorMismatch
  | nonWirePending
  | pendingAlreadyHandedOff
  | cursor (error : CursorError)
  | contract (error : MeasurementContractError)
  | wire (error : MeasurementWireError)
  | gap (error : GapError)
  | continuityBreak (error : ContinuityBreakError)
deriving DecidableEq

structure NodeSession where
  hardwareId : HardwareId
  bootEpoch : BootEpoch
  cursors : DeliveryCursors
  phase : SessionPhase
  activePull : Option PullSamplesRequest
  pendingChunk : Option PendingChunk
  pendingGap : Option Gap
  pendingContinuityBreak : Option ContinuityBreak
  pendingReceipt : Option DurableReceipt
deriving DecidableEq

/-- The result of a call and the session after it. -/
abbrev SessionResult (α : Type) := Except SessionError α × NodeSession

namespace NodeSession

def recovered (hardwareId : HardwareId) (bootEpoch : BootEpoch)
    (durable released : SequenceCursor) : Except SessionError NodeSession :=
  match DeliveryCursors.new durable durable released with
  | .error error => .error (.cursor error)
  | .ok cursors => .ok
    { hardwareId, bootEpoch, cursors
      phase := .ready
      activePull := none
      pendingChunk := none
      pendingGap := none
      pendingContinuityBreak := none
      pendingReceipt := none }

variable (session : NodeSession)

def beginPull (maxSamples : UInt16) : SessionResult PullSamplesRequest :=
  if session.phase ≠ .ready then (.error .unexpectedPhase, session)
  else match PullSamplesRequest.new session.bootEpoch session.cursors.received
      session.cursors.durable maxSamples with
    | .error error => (.error (.contract error), session)
    | .ok request =>
      (.ok request, { session with activePull := some request, phase := .awaitingPull })

/-- Leave the pull for another phase, as three calls do in the same way. -/
def leavePull (phase : SessionPhase) : SessionResult Unit :=
  if session.phase ≠ .awaitingPull then (.error .unexpectedPhase, session)
  else (.ok (), { session with activePull := none, phase })

def abandonPullForRetry : SessionResult Unit := session.leavePull .ready
def streamChanged : SessionResult Unit :=
  session.leavePull .recoveryRequired
def failPullForRecovery : SessionResult Unit :=
  session.leavePull .recoveryRequired

/-- `active_pull()`. -/
def requireActivePull : Except SessionError PullSamplesRequest :=
  if session.phase ≠ .awaitingPull then .error .unexpectedPhase
  else match session.activePull with
    | some request => .ok request
    | none => .error .missingPending

def enterRecovery {α : Type} (error : SessionError) : SessionResult α :=
  (.error error, { session with activePull := none, phase := .recoveryRequired })

variable (state : StreamState)

def validateStateForActiveStream : SessionResult Unit :=
  match state.validate with
  | .error error => (.error (.contract error), session)
  | .ok () =>
    if state.bootEpoch ≠ session.bootEpoch then
      (.error .streamChanged, { session with phase := .recoveryRequired })
    else (.ok (), session)

variable (request : PullSamplesRequest)

/-- The pull is over, and the node has seen the release the request carried. -/
def settlePull : SessionResult Unit :=
  let session := { session with activePull := none }
  match session.cursors.markReleased request.releaseBefore with
  | .error error => (.error (.cursor error), session)
  | .ok cursors => (.ok (), { session with cursors })

def acceptNoData : SessionResult Unit :=
  match session.requireActivePull with
  | .error error => (.error error, session)
  | .ok request => match session.validateStateForActiveStream state with
    | (.error error, session) => (.error error, session)
    | (.ok (), session) =>
      if request.start ≠ state.produced then session.enterRecovery .unexpectedNoData
      else match session.settlePull request with
        | (.error error, session) => (.error error, session)
        | (.ok (), session) => (.ok (), { session with phase := .ready })

variable (header : SampleChunkHeader)

/-- The common tail of the two chunk calls. -/
def receiveChunk (chunk : PendingChunk) : SessionResult Unit :=
  match session.settlePull request with
  | (.error error, session) => (.error error, session)
  | (.ok (), session) => match session.cursors.acceptContiguous header.first header.sampleCount with
    | .error error => (.error (.cursor error), session)
    | .ok cursors =>
      let session := { session with cursors }
      match header.endCursor with
      | none => (.error (.contract .sequenceOverflow), session)
      | some stop =>
        (.ok (), { session with
          pendingChunk := some chunk
          pendingReceipt := some ⟨session.hardwareId, session.bootEpoch, stop⟩
          phase := .persistingChunk })

def acceptChunk (samples : List SampleAxes) : SessionResult Unit :=
  match session.requireActivePull with
  | .error error => (.error error, session)
  | .ok request => match header.validateFor request with
    | .error error => session.enterRecovery (.contract error)
    | .ok () =>
      if samples.length ≠ header.sampleCount.toNat then session.enterRecovery .sampleCountMismatch
      else session.receiveChunk request header (.legacy header samples)

def acceptWireChunk (chunk : SampleChunk) : SessionResult Unit :=
  match chunk.validate with
  | .error error => (.error (.wire error), session)
  | .ok () => match session.requireActivePull with
    | .error error => (.error error, session)
    | .ok request => match chunk.header.validateFor request with
      | .error error => session.enterRecovery (.contract error)
      | .ok () =>
        if chunk.samples.length ≠ chunk.header.sampleCount.toNat then
          session.enterRecovery .sampleCountMismatch
        else session.receiveChunk request chunk.header (.wire chunk)

/-- The common tail of the two calls that account a gap. -/
def receiveGap (first : SampleSequence) (count : UInt64) (reason : GapReason) : SessionResult Gap :=
  match session.settlePull request with
  | (.error error, session) => (.error error, session)
  | (.ok (), session) =>
    match Gap.new session.hardwareId session.bootEpoch first count reason with
    | .error error => (.error (.gap error), session)
    | .ok gap => match session.cursors.accountGap gap.firstMissing gap.missingCount with
      | .error error => (.error (.cursor error), session)
      | .ok cursors =>
        (.ok gap, { session with
          cursors
          pendingGap := some gap
          pendingReceipt := some
            ⟨gap.hardwareId, gap.bootEpoch, gap.firstMissing + gap.missingCount⟩
          phase := .persistingGap })

def acceptRangeUnavailable : SessionResult Gap :=
  match session.requireActivePull with
  | .error error => (.error error, session)
  | .ok request => match session.validateStateForActiveStream state with
    | (.error error, session) => (.error error, session)
    | (.ok (), session) =>
      if request.start ≥ state.retainedFrom then
        session.enterRecovery .unexpectedRangeUnavailable
      else
        session.receiveGap request request.start (state.retainedFrom - request.start)
          .journalOverflow

def acceptGap (evidence : GapEvidence) : SessionResult Gap :=
  match session.requireActivePull with
  | .error error => (.error error, session)
  | .ok request => match evidence.validateFor request with
    | .error error => session.enterRecovery (.contract error)
    | .ok () =>
      session.receiveGap request evidence.firstMissing evidence.missingCount evidence.reason

def acceptContinuityBreak (evidence : ContinuityBreakEvidence) : SessionResult ContinuityBreak :=
  match session.requireActivePull with
  | .error error => (.error error, session)
  | .ok request => match evidence.validateFor request with
    | .error error => session.enterRecovery (.contract error)
    | .ok () => match session.settlePull request with
      | (.error error, session) => (.error error, session)
      | (.ok (), session) =>
        match ContinuityBreak.new session.hardwareId session.bootEpoch evidence.at_
            evidence.reason with
        | .error error => (.error (.continuityBreak error), session)
        | .ok observed => match session.cursors.accountContinuityBreak observed.at_ with
          | .error error => (.error (.cursor error), session)
          | .ok cursors =>
            (.ok observed, { session with
              cursors
              pendingContinuityBreak := some observed
              pendingReceipt := some
                ⟨observed.hardwareId, observed.bootEpoch, observed.endCursor⟩
              phase := .persistingContinuityBreak })

def invalidRelease : SessionResult Unit :=
  match session.requireActivePull with
  | .error error => (.error error, session)
  | .ok _ => match session.validateStateForActiveStream state with
    | (.error error, session) => (.error error, session)
    | (.ok (), session) =>
      (.ok (), { session with activePull := none, phase := .recoveryRequired })

/-- The last check of `take_pending_persistence`; the record has left the session. -/
def handOff (record : PendingPersistence) : SessionResult PendingPersistence :=
  if some record.receipt ≠ session.pendingReceipt then (.error .receiptCursorMismatch, session)
  else (.ok record, session)

def takePendingPersistence : SessionResult PendingPersistence :=
  match session.phase with
  | .persistingChunk => match session.pendingChunk with
    | some (.wire chunk) =>
      { session with pendingChunk := none }.handOff (.chunk session.hardwareId chunk)
    | some (.legacy _ _) => (.error .nonWirePending, session)
    | none => (.error .pendingAlreadyHandedOff, session)
  | .persistingGap => match session.pendingGap with
    | some gap => { session with pendingGap := none }.handOff (.gap gap)
    | none => (.error .pendingAlreadyHandedOff, session)
  | .persistingContinuityBreak => match session.pendingContinuityBreak with
    | some observed =>
      { session with pendingContinuityBreak := none }.handOff (.continuityBreak observed)
    | none => (.error .pendingAlreadyHandedOff, session)
  | _ => (.error .unexpectedPhase, session)

def confirmDurable (receipt : DurableReceipt) : SessionResult Unit :=
  if receipt.hardwareId ≠ session.hardwareId ∨ receipt.bootEpoch ≠ session.bootEpoch then
    (.error .receiptIdentityMismatch, session)
  else match session.phase with
    | .persistingChunk | .persistingGap | .persistingContinuityBreak =>
      if session.pendingReceipt ≠ some receipt then (.error .receiptCursorMismatch, session)
      else match session.cursors.markDurable receipt.stop with
        | .error error => (.error (.cursor error), session)
        | .ok cursors =>
          (.ok (), { session with
            cursors
            pendingChunk := none
            pendingGap := none
            pendingContinuityBreak := none
            pendingReceipt := none
            phase := .ready })
    | _ => (.error .unexpectedPhase, session)

end NodeSession
end SensorSystem.Host
