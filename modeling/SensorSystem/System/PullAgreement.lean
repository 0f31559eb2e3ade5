import SensorSystem.Node.Protocol.NodeRuns
import SensorSystem.System.MeasurementAgreement

/-! A request of the host goes through the node's handler, and the response through the host's
decoder and its checks for the request. -/

namespace SensorSystem.System

open Base Host List UInt64
open Node (DeliverySession DeliveryLimits PullPlan PreparedChunk PreparedGap
  PreparedContinuityBreak MeasurementJournalState Serves)

/-- The command the node's handler plans for a request. -/
def pullCommand (request : PullSamplesRequest) : Node.PullCommand :=
  (nodeRequest request).command

/-- The reason a host reads for a reason of the node's journal. -/
def listedGapReason : Node.GapReason → Option Host.GapReason
  | .unknownDiscontinuity => some .unknownDiscontinuity
  | .sourceLoss => some .sourceLoss
  | .ingressOverflow => some .ingressOverflow
  | .unlisted _ => none

def listedBreakReason : Node.ContinuityBreakReason → Option Host.ContinuityBreakReason
  | .unknown => some .unknown
  | .sensorOverflow => some .sensorOverflow
  | .sensorReadUncertain => some .sensorReadUncertain
  | .invalidTiming => some .invalidTiming
  | .processingReset => some .processingReset
  | .unlisted _ => none

/-- The host state shows the journal state of the stream. -/
structure SameState (bootEpoch : UInt64) (held : MeasurementJournalState)
    (state : StreamState) : Prop where
  bootEpoch_eq : state.bootEpoch = bootEpoch
  retainedFrom_eq : state.retainedFrom.toNat = held.retainedFrom
  produced_eq : state.produced.toNat = held.produced
  released_eq : state.released.toNat = held.released
  capacitySamples_eq : state.capacitySamples.toNat = held.capacitySamples
  overwrittenSamples_eq : state.overwrittenSamples.toNat = held.discardedSamples

structure SameChunk (bootEpoch : UInt64) (held : PreparedChunk) (chunk : SampleChunk) :
    Prop where
  bootEpoch_eq : chunk.header.bootEpoch = bootEpoch
  retainedFrom_eq : chunk.header.retainedFrom.toNat = held.samples.retainedFrom
  produced_eq : chunk.header.produced.toNat = held.samples.produced
  first_eq : chunk.header.first.toNat = held.firstSequence
  end_eq : chunk.header.first.toNat + chunk.header.sampleCount.toNat = held.endSequence
  configRevision_eq : chunk.configRevision = held.configRevision
  timing_eq : chunk.timing =
    ⟨held.timingSegmentId, held.timing.firstDeviceTimeUs, held.timing.lastDeviceTimeUs,
      held.timing.maxFitResidualUs, held.timing.qualityFlags⟩
  samples_eq : chunk.samples.map rawSample =
    (held.samples.first ++ held.samples.second).map fun record => ⟨record.x, record.y, record.z⟩

structure SameGap (bootEpoch : UInt64) (held : PreparedGap) (gap : GapEvidence) : Prop where
  bootEpoch_eq : gap.bootEpoch = bootEpoch
  retainedFrom_eq : gap.retainedFrom.toNat = held.retainedFrom
  produced_eq : gap.produced.toNat = held.produced
  firstMissing_eq : gap.firstMissing.toNat = held.gap.firstMissing
  missingCount_eq : gap.missingCount.toNat = held.gap.missingCount
  reason_eq : listedGapReason held.gap.reason = some gap.reason

structure SameBreak (bootEpoch : UInt64) (held : PreparedContinuityBreak)
    (mark : ContinuityBreakEvidence) : Prop where
  bootEpoch_eq : mark.bootEpoch = bootEpoch
  retainedFrom_eq : mark.retainedFrom.toNat = held.retainedFrom
  produced_eq : mark.produced.toNat = held.produced
  at_eq : mark.at_.toNat = held.value.atSequence
  reason_eq : listedBreakReason held.value.reason = some mark.reason

/-- A response has the kind of the plan and the values the plan held. -/
def Carries (bootEpoch : UInt64) (plan : PullPlan) : PullResponse → Prop
  | .sampleChunk chunk => plan.decision = .sampleChunk ∧ SameChunk bootEpoch plan.chunk chunk
  | .noData state => plan.decision = .noData ∧ SameState bootEpoch plan.state state
  | .rangeUnavailable state =>
    plan.decision = .rangeUnavailable ∧ SameState bootEpoch plan.state state
  | .streamChanged epoch => plan.decision = .streamChanged ∧ epoch = plan.actualBootEpoch
  | .invalidRelease state => plan.decision = .invalidRelease ∧ SameState bootEpoch plan.state state
  | .gap gap => plan.decision = .gap ∧ SameGap bootEpoch plan.gap gap
  | .continuityBreak mark =>
    plan.decision = .continuityBreak ∧ SameBreak bootEpoch plan.continuityBreak mark

/-- The checks the host applies to a response to its request. -/
def AcceptedFor (request : PullSamplesRequest) : PullResponse → Prop
  | .sampleChunk chunk =>
    chunk.validate = .ok () ∧ chunk.header.validateFor request = .ok ()
  | .noData state =>
    state.validate = .ok () ∧ state.bootEpoch = request.bootEpoch ∧ request.start = state.produced
  | .rangeUnavailable state =>
    state.validate = .ok () ∧ state.bootEpoch = request.bootEpoch ∧
      request.start < state.retainedFrom
  | .streamChanged epoch => epoch ≠ 0 ∧ epoch ≠ request.bootEpoch
  | .invalidRelease state => state.validate = .ok () ∧ state.bootEpoch = request.bootEpoch
  | .gap gap => gap.validateFor request = .ok ()
  | .continuityBreak mark => mark.validateFor request = .ok ()

section Handler

variable {limits : DeliveryLimits} {session : DeliverySession limits}

theorem head_payload_respondError {status : Node.Wire.ResponseStatus} (failure : status ≠ .ok)
    (output : List UInt8) : (session.respondError status output).payload.head? ≠ some 0 := by
  rw [DeliverySession.respondError]
  split
  · rename_i room
    have nonzero : status.toByte ≠ 0 := by
      cases status <;> first | decide | exact absurd rfl failure
    simpa [Node.Handled.payload, overwrite] using nonzero
  · simp [Node.Handled.payload]

variable {encoded : Node.Wire.Encoded}

/-- A successful response is what its encoder wrote. -/
theorem encoded_of_respond (success : (session.respond encoded).payload.head? = some 0) :
    ∃ size buffer, encoded = (.ok, size, buffer) ∧
      (session.respond encoded).payload = buffer.take size := by
  unfold DeliverySession.respond at success ⊢
  split at success
  · rename_i size buffer
    exact ⟨size, buffer, rfl, rfl⟩
  · refine absurd success (head_payload_respondError ?_ _)
    decide

theorem encoded_of_respondPrepared {token : UInt64}
    (success : (session.respondPrepared token encoded).payload.head? = some 0) :
    ∃ size buffer, encoded = (.ok, size, buffer) ∧
      (session.respondPrepared token encoded).payload = buffer.take size := by
  unfold DeliverySession.respondPrepared at success ⊢
  split at success
  · rename_i size buffer
    exact ⟨size, buffer, rfl, rfl⟩
  · refine absurd success (head_payload_respondError ?_ _)
    decide

end Handler

section Responses

open Node (uint64Max Represents MeasurementJournal)

variable {limits : DeliveryLimits} {session : DeliverySession limits} {log : List Node.Entry}
  {journal : MeasurementJournal limits.journal}

theorem toNat_ofNat_of_le {value : Nat} (bounded : value ≤ uint64Max) :
    (ofNat value).toNat = value :=
  toNat_ofNat_of_lt' (Nat.lt_of_le_of_lt bounded Node.uint64Max_lt)

theorem sameState_wireState (represents : Represents journal log)
    (discarded : journal.discardedSamples ≤ journal.retainedFrom) :
    SameState session.bootEpoch journal.state (hostState (session.wireState journal.state)) := by
  have bounded := represents.log_bounded
  have retained := represents.retained_le
  have released := represents.released_le
  have produced := represents.produced_eq
  have capacity := limits.journalFits
  refine ⟨rfl, toNat_ofNat_of_le (Nat.le_trans retained bounded),
    toNat_ofNat_of_le (Nat.le_trans produced.le bounded), toNat_ofNat_of_le ?_, ?_,
    toNat_ofNat_of_le ?_⟩
  · exact Nat.le_trans released (Nat.le_trans retained bounded)
  · exact UInt32.toNat_ofNat_of_lt' capacity
  · exact Nat.le_trans discarded (Nat.le_trans retained bounded)

theorem listedGapReason_code {reason : Node.GapReason} (known : reason.isKnown = true) :
    listedGapReason reason = some (hostGapReason (DeliverySession.gapReasonCode reason)) := by
  cases reason with
  | unlisted => cases known
  | _ => rfl

theorem listedBreakReason_code {reason : Node.ContinuityBreakReason}
    (known : reason.isKnown = true) : listedBreakReason reason =
      some (hostBreakReason (DeliverySession.continuityBreakReasonCode reason)) := by
  cases reason with
  | unlisted => cases known
  | _ => rfl

theorem sameGap_gapEvidence (represents : Represents journal log) {record : Node.GapRecord}
    (inside : record.firstMissing + record.missingCount ≤ log.length)
    (known : record.reason.isKnown = true) (token : UInt64) :
    SameGap session.bootEpoch ⟨token, record, journal.retainedFrom, journal.produced⟩
      (hostGap (session.gapEvidence
        ⟨token, record, journal.retainedFrom, journal.produced⟩)) := by
  have bounded := represents.log_bounded
  have retained := represents.retained_le
  have produced := represents.produced_eq
  refine ⟨rfl, toNat_ofNat_of_le (Nat.le_trans retained bounded),
    toNat_ofNat_of_le (Nat.le_trans produced.le bounded), toNat_ofNat_of_le ?_,
      toNat_ofNat_of_le ?_,
    listedGapReason_code known⟩
  · change record.firstMissing ≤ uint64Max
    omega
  · change record.missingCount ≤ uint64Max
    omega

theorem sameBreak_continuityBreakEvidence (represents : Represents journal log)
    {record : Node.ContinuityBreakRecord} (inside : record.atSequence < log.length)
    (known : record.reason.isKnown = true) (token : UInt64) :
    SameBreak session.bootEpoch ⟨token, record, journal.retainedFrom, journal.produced⟩
      (hostBreak (session.continuityBreakEvidence
        ⟨token, record, journal.retainedFrom, journal.produced⟩)) := by
  have bounded := represents.log_bounded
  have retained := represents.retained_le
  have produced := represents.produced_eq
  refine ⟨rfl, toNat_ofNat_of_le (Nat.le_trans retained bounded),
    toNat_ofNat_of_le (Nat.le_trans produced.le bounded), toNat_ofNat_of_le ?_,
      listedBreakReason_code known⟩
  change record.atSequence ≤ uint64Max
  omega

/-- The reader of a view goes through both of its spans in order. -/
theorem map_readSample (view : Node.MeasurementReadView) :
    (range view.sampleCount).map (DeliverySession.readSample view) =
      (view.first ++ view.second).map fun record => some ⟨record.x, record.y, record.z⟩ := by
  refine ext_getElem (by simp [Node.MeasurementReadView.sampleCount]) ?_
  intro index left right
  have below : index < view.sampleCount := by simpa using left
  have within : index < (view.first ++ view.second).length := by simpa using right
  have found : Node.sampleAt view index = (view.first ++ view.second)[index] := by
    rw [Node.sampleAt, getElem_append]
    split
    · exact (getElem_eq_getD default).symm
    · exact (getElem_eq_getD default).symm
  simp only [getElem_map, getElem_range, DeliverySession.readSample, found,
    if_neg (Nat.not_le.mpr below)]

/-- An encoded chunk view carries the prepared chunk. -/
theorem sameChunk_chunkFields (represents : Represents journal log) {held : PreparedChunk}
    {records : List Node.SampleRecord} {start : Nat} {samples : List SampleAxes}
    (retained : held.samples.retainedFrom = journal.retainedFrom)
    (produced : held.samples.produced = journal.produced)
    (first : held.firstSequence = start) (stop : held.endSequence = start + records.length)
    (content : held.samples.first ++ held.samples.second = records)
    (inside : start + records.length ≤ log.length) (small : records.length < 2 ^ 16)
    (read : samples.map (fun axes => some (rawSample axes)) =
      (range (session.chunkFields held).sampleCount.toNat).map
        (DeliverySession.readSample held.samples)) :
    SameChunk session.bootEpoch held (hostChunk (session.chunkFields held) samples) := by
  have bounded := represents.log_bounded
  have retainedBounded := represents.retained_le
  have producedBounded := represents.produced_eq
  have count : held.samples.sampleCount = records.length := by
    rw [← content, length_append, Node.MeasurementReadView.sampleCount]
  have counted : (session.chunkFields held).sampleCount.toNat = held.samples.sampleCount :=
    UInt16.toNat_ofNat_of_lt' (count ▸ small)
  have started : (session.chunkFields held).first.toNat = held.firstSequence :=
    toNat_ofNat_of_le (by omega)
  refine ⟨rfl, ?_, ?_, started, ?_, rfl, rfl, ?_⟩
  · exact toNat_ofNat_of_le (by omega)
  · exact toNat_ofNat_of_le (by omega)
  · change (session.chunkFields held).first.toNat +
      (session.chunkFields held).sampleCount.toNat = _
    rw [started, counted, stop, first, count]
  rw [counted, map_readSample] at read
  refine map_injective_iff.mpr (Option.some_injective _) ?_
  rw [map_map, map_map]
  exact read

end Responses

section Pull

open Node (MeasurementJournal)

variable {limits : DeliveryLimits} {session : DeliverySession limits} {log : List Node.Entry}
  {request : PullSamplesRequest} {plan : PullPlan} {output : List UInt8}

/-- A response payload is decoded to what the plan held, and accepted. -/
def Agrees (session : DeliverySession limits) (request : PullSamplesRequest)
    (plan : PullPlan) (payload : List UInt8) : Prop :=
  ∃ response, decodePullResponse payload = .ok response ∧
    Carries session.bootEpoch plan response ∧ AcceptedFor request response

theorem agrees_of_spells {encoded : Node.Wire.Encoded} {response : PullResponse} {size : Nat}
    {buffer payload : List UInt8} (spells : Spells encoded response)
    (written : encoded = (.ok, size, buffer)) (read : payload = buffer.take size)
    (carries : response.validate = .ok () → Carries session.bootEpoch plan response)
    (accepted : response.validate = .ok () → AcceptedFor request response) :
    Agrees session request plan payload := by
  obtain ⟨valid, layout⟩ := spells size buffer written
  refine ⟨response, ?_, carries valid, accepted valid⟩
  rw [read, layout]
  exact decodePullResponse_layout valid

variable {after : DeliverySession limits}

theorem agrees_streamChanged (decision : plan.decision = .streamChanged)
    (epoch : plan.actualBootEpoch = session.bootEpoch) (started : session.bootEpoch ≠ 0)
    (other : request.bootEpoch ≠ session.bootEpoch)
    (success : (after.answerPlan plan output).payload.head? = some 0) :
    Agrees session request plan (after.answerPlan plan output).payload := by
  simp only [DeliverySession.answerPlan, decision] at success ⊢
  obtain ⟨size, buffer, written, read⟩ := encoded_of_respond success
  refine agrees_of_spells (spells_encodeStreamChanged _ _) written read
    (fun _ => ⟨decision, rfl⟩) (fun _ => ?_)
  rw [epoch]
  exact ⟨started, other.symm⟩

/-- The three results that show the journal's state. -/
theorem agrees_state (code : PullResultCode) (response : PullResponse)
    {result : Node.Wire.PullResultCode} {journal : MeasurementJournal limits.journal}
    (same : result.toByte = code.toByte) (epoch : after.bootEpoch = session.bootEpoch)
    (represents : Node.Represents journal log)
    (discarded : journal.discardedSamples ≤ journal.retainedFrom)
    (state : plan.state = journal.state) (success : (after.respond (Node.Wire.encodePullResponse
      (.state result (after.wireState plan.state)) output)).payload.head? = some 0)
    (checked : response.validate =
      contractCheck (hostState (after.wireState plan.state)).validate)
    (layout : pullResponseLayout response =
      0 :: code.toByte :: streamStateLayout (hostState (after.wireState plan.state)))
    (carries : SameState session.bootEpoch plan.state (hostState (after.wireState plan.state)) →
      Carries session.bootEpoch plan response)
    (accepted : SameState session.bootEpoch plan.state (hostState (after.wireState plan.state)) →
      (hostState (after.wireState plan.state)).validate = .ok () →
        AcceptedFor request response) :
    Agrees session request plan (after.respond (Node.Wire.encodePullResponse
      (.state result (after.wireState plan.state)) output)).payload := by
  obtain ⟨size, buffer, written, read⟩ := encoded_of_respond success
  have shown : SameState session.bootEpoch plan.state (hostState (after.wireState plan.state)) := by
    rw [← epoch, state]
    exact sameState_wireState represents discarded
  refine agrees_of_spells (spells_encodeStateResult _ _ same checked layout) written read
    (fun _ => carries shown) (fun valid => accepted shown ?_)
  rw [checked] at valid
  exact contractCheck_eq_ok.mp valid

/-- A prepared piece is answered with what the log holds. -/
theorem agrees_prepared {journal : MeasurementJournal limits.journal} {content : Node.Log.Content}
    {token : UInt64} {limit : Nat} (epoch : after.bootEpoch = session.bootEpoch)
    (addressed : request.bootEpoch = session.bootEpoch) (represents : Node.Represents journal log)
    (regular : content.Regular request.start.toNat limit)
    (limited : limit ≤ request.maxSamples.toNat)
    (bounded : request.start.toNat + content.count ≤ log.length)
    (shown : plan.Shows journal request.start.toNat token content)
    (success : (after.answerPlan plan output).payload.head? = some 0) :
    Agrees session request plan (after.answerPlan plan output).payload := by
  cases content with
  | gap record =>
    obtain ⟨decision, held⟩ := shown
    obtain ⟨start, known⟩ := regular
    simp only [DeliverySession.answerPlan, decision] at success ⊢
    obtain ⟨size, buffer, written, read⟩ := encoded_of_respondPrepared success
    have same : SameGap session.bootEpoch plan.gap (hostGap (after.gapEvidence plan.gap)) := by
      rw [← epoch, held]
      exact sameGap_gapEvidence represents (start ▸ bounded) known token
    refine agrees_of_spells (spells_encodeGapEvidence _ _) written read
      (fun _ => ⟨decision, same⟩) (fun valid => GapEvidence.validateFor_eq_ok.mpr
        ⟨same.bootEpoch_eq.trans addressed.symm, contractCheck_eq_ok.mp valid, ?_⟩)
    apply UInt64.toNat_inj.mp
    rw [same.firstMissing_eq, held]
    exact start
  | continuityBreak record =>
    obtain ⟨decision, held⟩ := shown
    obtain ⟨start, known⟩ := regular
    simp only [DeliverySession.answerPlan, decision] at success ⊢
    obtain ⟨size, buffer, written, read⟩ := encoded_of_respondPrepared success
    have same : SameBreak session.bootEpoch plan.continuityBreak
        (hostBreak (after.continuityBreakEvidence plan.continuityBreak)) := by
      rw [← epoch, held]
      exact sameBreak_continuityBreakEvidence represents (start ▸ bounded) known token
    refine agrees_of_spells (spells_encodeContinuityBreakEvidence _ _) written read
      (fun _ => ⟨decision, same⟩) (fun valid => ContinuityBreakEvidence.validateFor_eq_ok.mpr
        ⟨same.bootEpoch_eq.trans addressed.symm, contractCheck_eq_ok.mp valid, ?_⟩)
    apply UInt64.toNat_inj.mp
    rw [same.at_eq, held]
    exact start
  | samples records =>
    obtain ⟨decision, -, first, stop, retained, produced, records_eq, -, -, -⟩ := shown
    simp only [DeliverySession.answerPlan, decision] at success ⊢
    obtain ⟨size, buffer, written, read⟩ := encoded_of_respondPrepared success
    obtain ⟨samples, values, valid, layout⟩ := spells_encodeSampleChunkView written
    have short : records.length ≤ limit := regular
    have limitBounded := request.maxSamples.toNat_lt
    have same : SameChunk session.bootEpoch plan.chunk
        (hostChunk (after.chunkFields plan.chunk) samples) := by
      rw [← epoch]
      exact sameChunk_chunkFields represents retained produced first stop records_eq bounded
        (by omega) values
    have count := same.end_eq
    rw [same.first_eq, first, stop] at count
    refine ⟨.sampleChunk (hostChunk (after.chunkFields plan.chunk) samples), ?_,
      ⟨decision, same⟩, valid, ?_⟩
    · rw [read, layout]
      exact decodePullResponse_layout valid
    refine SampleChunkHeader.validateFor_eq_ok.mpr
      ⟨same.bootEpoch_eq.trans addressed.symm,
        contractCheck_eq_ok.mp (check_eq_ok.mp valid).1, ?_, ?_⟩
    · apply UInt64.toNat_inj.mp
      rw [same.first_eq, first]
    · rw [UInt16.le_iff_toNat_le]
      omega

theorem handle_pull (session : DeliverySession limits) (output : List UInt8)
    (valid : request.Valid) :
    session.handle Node.Wire.pullSamplesMessageId (encodePullRequest request) output =
      (session.preparePull (pullCommand request)).2.answerPlan
        (session.preparePull (pullCommand request)).1 output := by
  rw [DeliverySession.handle, if_neg (by decide), if_pos rfl, DeliverySession.handlePull,
    decodePullRequest_agrees valid]
  rfl

theorem agrees_planned (serves : Serves session log)
    (planned : session.Planned (pullCommand request) log plan after)
    (success : (after.answerPlan plan output).payload.head? = some 0) :
    Agrees session request plan (after.answerPlan plan output).payload := by
  have discarded := serves.discarded_le
  cases planned with
  | declined decision =>
    obtain decision | decision | decision := decision
    all_goals
      simp only [DeliverySession.answerPlan, decision] at success
      exact absurd success (head_payload_respondError (by decide) output)
  | streamChanged decision epoch started other =>
    exact agrees_streamChanged decision epoch started other success
  | invalidRelease decision state epoch started idle refused kept =>
    have kept : after.bootEpoch = session.bootEpoch := by
      obtain rfl | rfl := kept <;> rfl
    simp only [DeliverySession.answerPlan, decision] at success ⊢
    refine agrees_state .invalidRelease
      (.invalidRelease _) rfl kept serves.represents discarded state success rfl rfl
      (fun same => ⟨decision, same⟩) (fun same valid => ⟨valid, ?_⟩)
    exact same.bootEpoch_eq.trans epoch.symm
  | unanswered addresses released decision =>
    obtain decision | decision := decision
    all_goals
      simp only [DeliverySession.answerPlan, decision] at success
      exact absurd success (head_payload_respondError (by decide) output)
  | noData addresses released decision state exhausted =>
    simp only [DeliverySession.answerPlan, decision] at success ⊢
    refine agrees_state .noData (.noData _) rfl rfl released.represents
      (released.discarded_le discarded) state success rfl rfl
      (fun same => ⟨decision, same⟩) (fun same valid => ⟨valid, ?_, ?_⟩)
    · exact same.bootEpoch_eq.trans addresses.epoch.symm
    · apply UInt64.toNat_inj.mp
      rw [same.produced_eq, state]
      exact exhausted.trans released.represents.produced_eq.symm
  | rangeUnavailable addresses released decision state lost =>
    simp only [DeliverySession.answerPlan, decision] at success ⊢
    refine agrees_state .rangeUnavailable (.rangeUnavailable _) rfl rfl released.represents
      (released.discarded_le discarded) state success rfl rfl
      (fun same => ⟨decision, same⟩) (fun same valid => ⟨valid, ?_, ?_⟩)
    · exact same.bootEpoch_eq.trans addresses.epoch.symm
    · rw [lt_iff_toNat_lt, same.retainedFrom_eq, state]
      exact lost
  | prepared addresses released token retained found bounded shown =>
    have limited : DeliverySession.requested limits (pullCommand request) ≤
        request.maxSamples.toNat := by
      rw [DeliverySession.requested]
      split
      · exact Nat.le_refl _
      rename_i above
      exact Nat.le_of_not_lt above
    have regular := Node.Log.regular_of_contentAt serves.checked
      (DeliverySession.requested_pos limits addresses.limited) found
    exact agrees_prepared rfl addresses.epoch released.represents regular limited bounded shown
      success

end Pull

/-- The node's answers agree with the host, in every state a session can reach and
for every request the host's type accepts. A successful response is decoded to
the kind and the values the handler held, and passes the host's checks for the
request. -/
theorem pull_agrees (limits : DeliveryLimits) (bootEpoch : UInt64) (events : List Node.NodeEvent)
    (request : Host.PullSamplesRequest) (valid : request.Valid) (output : List UInt8) :
    let session := (DeliverySession.initial limits bootEpoch).run events
    let payload := (session.handle Node.Wire.pullSamplesMessageId
      (Host.encodePullRequest request) output).payload
    payload.head? = some Node.Wire.ResponseStatus.ok.toByte →
      ∃ response, Host.decodePullResponse payload = .ok response ∧
        Carries session.bootEpoch (session.preparePull (pullCommand request)).1 response ∧
        AcceptedFor request response := by
  intro session payload success
  have serves := (Serves.initial limits bootEpoch).run events
  have planned := serves.represents.planned (pullCommand request)
  have handled := handle_pull session output valid
  rw [show payload = _ from congrArg Node.Handled.payload handled] at success ⊢
  exact agrees_planned serves planned success

def smallLimits : DeliveryLimits := .small

/-- One sample, accepted at the first cursor. -/
def firstSample : Node.NodeEvent :=
  .appendSample 0
    { deviceTimeUs := 100, x := -8388608, y := 8388607, configRevision := 1, timingSegmentId := 1 }

def firstPull : PullSamplesRequest := ⟨7, 0, 0, 4⟩

/-- A session with one sample answers the first pull with it. -/
theorem pull_agrees_firstPull : firstPull.Valid ∧
      ∃ response, Host.decodePullResponse
          (((DeliverySession.initial smallLimits 7).run [firstSample]).handle
            Node.Wire.pullSamplesMessageId (Host.encodePullRequest firstPull)
            (List.replicate 75 0)).payload = .ok response ∧
        Carries 7 (((DeliverySession.initial smallLimits 7).run [firstSample]).preparePull
          (pullCommand firstPull)).1 response ∧
        AcceptedFor firstPull response := by
  refine ⟨by decide, ?_⟩
  exact pull_agrees smallLimits 7 [firstSample] firstPull (by decide) (List.replicate 75 0)
    (by decide +kernel)

end SensorSystem.System
