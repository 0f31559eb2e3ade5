import SensorSystem.System.DeliverySystem

/-! Every response payload of the node, whenever the host reads it, shows entries of the log at
their cursors, or a retained range that the journal has left behind. -/

namespace SensorSystem.System

open Node (DeliveryLimits DeliverySession NodeTrace PullPlan Entry)
open Host (SessionRecord)

variable {limits : DeliveryLimits}

/-- What the node appended at a cursor, or an overflow gap over it. -/
def HoldsAt (node : NodeTrace limits) (cursor : Nat) : SessionRecord → Prop
  | .chunk (.wire chunk) => ∃ sample axes,
      node.log[cursor]? = some (.sample sample) ∧
      chunk.samples[cursor - chunk.header.first.toNat]? = some axes ∧
      rawSample axes = ⟨sample.x, sample.y, sample.z⟩ ∧
      chunk.configRevision = sample.configRevision ∧
      chunk.timing.segmentId = sample.timingSegmentId
  | .chunk (.legacy _ _) => False
  | .gap missing =>
    (∃ reason, node.log[cursor]? = some (.gap reason) ∧
      listedGapReason reason = some missing.reason) ∨
    missing.reason = .journalOverflow ∧ cursor ∈ node.overflowed
  | .continuityBreak observed => ∃ reason, node.log[cursor]? = some (.continuityBreak reason) ∧
      listedBreakReason reason = some observed.reason

/-- The timing of a chunk summarises the samples at its cursors. -/
def Timed (node : NodeTrace limits) : SessionRecord → Prop
  | .chunk (.wire chunk) => ∃ (view : Node.MeasurementReadView) (timing : Node.TimingSummary),
      (view.first ++ view.second).length = chunk.header.sampleCount.toNat ∧
      (∀ index sample, (view.first ++ view.second)[index]? = some sample →
        node.log[chunk.header.first.toNat + index]? = some (.sample sample)) ∧
      Node.summarizeTiming view = .ok timing ∧
      chunk.timing = ⟨chunk.timing.segmentId, timing.firstDeviceTimeUs, timing.lastDeviceTimeUs,
        timing.maxFitResidualUs, timing.qualityFlags⟩
  | _ => True

/-- A record holds the entries of all its cursors. -/
def Holds (node : NodeTrace limits) (record : SessionRecord) : Prop :=
  Timed node record ∧ ∀ cursor, record.first ≤ cursor → cursor < record.stop →
    HoldsAt node cursor record

variable {after : NodeTrace limits} {record : SessionRecord}

theorem HoldsAt.grows {node : NodeTrace limits} (grows : NodeTrace.Grows node after)
    {cursor : Nat} (holds : HoldsAt node cursor record) : HoldsAt after cursor record := by
  cases record with
  | chunk body =>
    cases body with
    | legacy => exact holds
    | wire chunk =>
      obtain ⟨sample, axes, found, rest⟩ := holds
      exact ⟨sample, axes, Node.getElem?_of_isPrefixed grows.log found, rest⟩
  | gap missing =>
    obtain ⟨reason, found, listed⟩ | ⟨overflow, member⟩ := holds
    · exact .inl ⟨reason, Node.getElem?_of_isPrefixed grows.log found, listed⟩
    · exact .inr ⟨overflow, grows.overflowed.subset member⟩
  | continuityBreak observed =>
    obtain ⟨reason, found, listed⟩ := holds
    exact ⟨reason, Node.getElem?_of_isPrefixed grows.log found, listed⟩

theorem Timed.grows {node : NodeTrace limits} (grows : NodeTrace.Grows node after)
    (timed : Timed node record) : Timed after record := by
  cases record with
  | chunk body =>
    cases body with
    | legacy => exact timed
    | wire chunk =>
      obtain ⟨view, timing, counted, read, summary, same⟩ := timed
      refine ⟨view, timing, counted, fun index sample found => ?_, summary, same⟩
      exact Node.getElem?_of_isPrefixed grows.log (read index sample found)
  | gap | continuityBreak => exact timed

theorem Holds.grows {node : NodeTrace limits} (grows : NodeTrace.Grows node after)
    (holds : Holds node record) : Holds after record :=
  ⟨holds.1.grows grows, fun cursor lower upper => (holds.2 cursor lower upper).grows grows⟩

/-- What a response shows lies below a bound, and is what the log holds there. -/
def Truthful (node : NodeTrace limits) (bound : Nat) : Host.PullResponse → Prop
  | .sampleChunk chunk =>
    chunk.header.first.toNat + chunk.header.sampleCount.toNat ≤ bound ∧
      Holds node (.chunk (.wire chunk))
  | .gap evidence =>
    evidence.firstMissing.toNat + evidence.missingCount.toNat ≤ bound ∧
      ∀ cursor, evidence.firstMissing.toNat ≤ cursor →
        cursor < evidence.firstMissing.toNat + evidence.missingCount.toNat →
        ∃ reason, node.log[cursor]? = some (.gap reason) ∧
          listedGapReason reason = some evidence.reason
  | .continuityBreak evidence =>
    evidence.at_.toNat + 1 ≤ bound ∧
      ∃ reason, node.log[evidence.at_.toNat]? = some (.continuityBreak reason) ∧
        listedBreakReason reason = some evidence.reason
  | .rangeUnavailable state => state.retainedFrom.toNat ≤ node.session.journal.retainedFrom
  | .invalidRelease _ => False
  | .noData _ | .streamChanged _ => True

theorem Truthful.grows {node : NodeTrace limits} (grows : NodeTrace.Grows node after)
    {bound limit : Nat} (above : bound ≤ limit) {response : Host.PullResponse}
    (truthful : Truthful node bound response) : Truthful after limit response := by
  cases response with
  | sampleChunk chunk => exact ⟨Nat.le_trans truthful.1 above, truthful.2.grows grows⟩
  | gap evidence =>
    refine ⟨Nat.le_trans truthful.1 above, fun cursor lower upper => ?_⟩
    obtain ⟨reason, found, listed⟩ := truthful.2 cursor lower upper
    exact ⟨reason, Node.getElem?_of_isPrefixed grows.log found, listed⟩
  | continuityBreak evidence =>
    obtain ⟨stop, reason, found, listed⟩ := truthful
    exact ⟨Nat.le_trans stop above, reason, Node.getElem?_of_isPrefixed grows.log found, listed⟩
  | rangeUnavailable state => exact Nat.le_trans truthful grows.retained_le
  | invalidRelease | noData | streamChanged => exact truthful

/-- A payload is truthful when what it decodes to is. -/
def TruthfulPayload (node : NodeTrace limits) (bound : Nat) (payload : List UInt8) : Prop :=
  ∀ response, Host.decodePullResponse payload = .ok response → Truthful node bound response

section Prepared

variable {node : NodeTrace limits} {bootEpoch : UInt64} {plan : PullPlan} {start limit : Nat}

theorem truthful_gap {record : Node.GapRecord} {evidence : Host.GapEvidence}
    (found : Node.Log.contentAt node.log start limit = some (.gap record))
    (first : record.firstMissing = start) (held : plan.gap.gap = record)
    (same : SameGap bootEpoch plan.gap evidence) :
    Truthful node (start + record.missingCount) (.gap evidence) := by
  have missing : evidence.firstMissing.toNat = start := by
    rw [same.firstMissing_eq, held, first]
  have count : evidence.missingCount.toNat = record.missingCount := by
    rw [same.missingCount_eq, held]
  refine ⟨by omega, fun cursor lower upper => ⟨record.reason, ?_, ?_⟩⟩
  · have entry := Node.Log.getElem?_of_gap found
      (show cursor - start < record.missingCount by omega)
    rwa [Nat.add_sub_cancel' (by omega)] at entry
  · rw [← held]
    exact same.reason_eq

theorem truthful_continuityBreak {record : Node.ContinuityBreakRecord}
    {evidence : Host.ContinuityBreakEvidence}
    (found : Node.Log.contentAt node.log start limit = some (.continuityBreak record))
    (held : plan.continuityBreak.value = record)
    (same : SameBreak bootEpoch plan.continuityBreak evidence) :
    Truthful node (start + 1) (.continuityBreak evidence) := by
  obtain ⟨position, entry⟩ := Node.Log.getElem?_of_continuityBreak found
  have at_ : evidence.at_.toNat = start := by rw [same.at_eq, held, position]
  refine ⟨by omega, record.reason, ?_, ?_⟩
  · rw [at_]
    exact entry
  · rw [← held]
    exact same.reason_eq

variable {records : List Node.SampleRecord}

/-- The axes of a chunk are those of the samples it was made of. -/
theorem getElem?_of_map_rawSample {samples : List Host.SampleAxes}
    (same : samples.map rawSample = records.map fun record => ⟨record.x, record.y, record.z⟩)
    {index : Nat} {record : Node.SampleRecord} (found : records[index]? = some record) :
    ∃ axes, samples[index]? = some axes ∧ rawSample axes = ⟨record.x, record.y, record.z⟩ := by
  have entry := congrArg (·[index]?) same
  simp only [List.getElem?_map, found, Option.map_some, Option.map_eq_some_iff] at entry
  exact entry

theorem truthful_samples {chunk : Host.SampleChunk}
    (found : Node.Log.contentAt node.log start limit = some (.samples records))
    (first : plan.chunk.firstSequence = start)
    (stop : plan.chunk.endSequence = start + records.length)
    (content : plan.chunk.samples.first ++ plan.chunk.samples.second = records)
    (revision : plan.chunk.configRevision = (records.headD default).configRevision)
    (segment : plan.chunk.timingSegmentId = (records.headD default).timingSegmentId)
    (timing : Node.summarizeTiming plan.chunk.samples = .ok plan.chunk.timing)
    (same : SameChunk bootEpoch plan.chunk chunk) :
    Truthful node (start + records.length) (.sampleChunk chunk) := by
  have begins : chunk.header.first.toNat = start := same.first_eq.trans first
  have ends := same.end_eq.trans stop
  have axes := same.samples_eq
  rw [content] at axes
  have entries (index : Nat) (sample : Node.SampleRecord) (member : records[index]? = some sample) :
      node.log[start + index]? = some (.sample sample) :=
    (Node.Log.getElem?_of_samples found member).1
  refine ⟨Nat.le_of_eq ends, ⟨plan.chunk.samples, plan.chunk.timing, ?_, ?_, timing, ?_⟩, ?_⟩
  · rw [content]
    omega
  · rw [content, begins]
    exact entries
  · rw [same.timing_eq]
  intro cursor lower upper
  change chunk.header.first.toNat ≤ cursor at lower
  change cursor < chunk.header.first.toNat + chunk.header.sampleCount.toNat at upper
  have inside : cursor - start < records.length := by omega
  have member := List.getElem?_eq_getElem inside
  obtain ⟨-, sameRevision, sameSegment⟩ := Node.Log.getElem?_of_samples found member
  obtain ⟨value, stored, raw⟩ := getElem?_of_map_rawSample axes member
  refine ⟨records[cursor - start], value, ?_, ?_, raw, ?_, ?_⟩
  · rw [← entries _ _ member, Nat.add_sub_cancel' (by omega)]
  · rw [begins]
    exact stored
  · rw [same.configRevision_eq, revision, sameRevision]
  · rw [same.timing_eq, sameSegment]
    exact segment

/-- The response carries what the plan shows of the log. -/
theorem truthful_prepared {journal : Node.MeasurementJournal limits.journal} {token : UInt64}
    {content : Node.Log.Content} {response : Host.PullResponse}
    (found : Node.Log.contentAt node.log start limit = some content)
    (regular : content.Regular start limit) (shown : plan.Shows journal start token content)
    (carries : Carries bootEpoch plan response) :
    Truthful node (start + content.count) response := by
  cases content with
  | gap record =>
    obtain ⟨decision, held⟩ := shown
    cases response with
    | gap evidence => exact truthful_gap found regular.1 (by rw [held]) carries.2
    | sampleChunk | noData | rangeUnavailable | streamChanged | invalidRelease
        | continuityBreak => cases decision.symm.trans carries.1
  | continuityBreak record =>
    obtain ⟨decision, held⟩ := shown
    cases response with
    | continuityBreak evidence =>
      exact truthful_continuityBreak found (by rw [held]) carries.2
    | sampleChunk | noData | rangeUnavailable | streamChanged | invalidRelease | gap =>
      cases decision.symm.trans carries.1
  | samples records =>
    obtain ⟨decision, -, first, stop, -, -, held, revision, segment, timing⟩ := shown
    cases response with
    | sampleChunk chunk =>
      exact truthful_samples found first stop held revision segment timing carries.2
    | noData | rangeUnavailable | streamChanged | invalidRelease | gap | continuityBreak =>
      cases decision.symm.trans carries.1

end Prepared

section Answer

variable {session : DeliverySession limits} {plan : PullPlan} {output : List UInt8}

/-- Only a payload that reports success is decoded. -/
theorem head_of_decodePullResponse {payload : List UInt8} {response : Host.PullResponse}
    (decoded : Host.decodePullResponse payload = .ok response) : payload.head? = some 0 := by
  obtain ⟨status, -⟩ := Base.check_eq_ok.mp decoded
  cases payload with
  | nil => cases status
  | cons raw rest =>
    have zero : raw.toNat = 0 := by
      rw [Host.decodeOkStatus, Host.ResponseStatus.tryFrom] at status
      split at status
      · cases status
      · rename_i found
        split at found
        · assumption
        all_goals cases found
      · cases status
    exact congrArg some (UInt8.toNat_inj.mp zero)

theorem completionRequired_respondError (session : DeliverySession limits)
    (status : Node.Wire.ResponseStatus) (output : List UInt8) :
    (session.respondError status output).1.completionRequired = false := by
  rw [DeliverySession.respondError]
  split
  · rfl
  · rfl

theorem completionRequired_respond (session : DeliverySession limits)
    (encoded : Node.Wire.Encoded) : (session.respond encoded).1.completionRequired = false := by
  unfold DeliverySession.respond
  split
  · rfl
  · exact completionRequired_respondError _ _ _

/-- A response keeps the session, or its delivery is aborted. -/
theorem respondPrepared_cases (session : DeliverySession limits) (token : UInt64)
    (encoded : Node.Wire.Encoded) :
    ((session.respondPrepared token encoded).1.completionRequired = true ∧
        (session.respondPrepared token encoded).1.deliveryToken = token ∧
        (session.respondPrepared token encoded).2.2 = session) ∨
      (session.respondPrepared token encoded).1.completionRequired = false ∧
        (session.respondPrepared token encoded).payload.head? ≠ some 0 ∧
        (session.respondPrepared token encoded).2.2 = (session.abort token).2 := by
  unfold DeliverySession.respondPrepared
  split
  · exact .inl ⟨rfl, rfl, rfl⟩
  refine .inr ⟨completionRequired_respondError _ _ _, head_payload_respondError ?_ _,
    DeliverySession.respondError_session _ _ _⟩
  decide

/-- The token under which a plan was prepared. -/
def preparedToken (plan : PullPlan) : Option UInt64 :=
  match plan.decision with
  | .sampleChunk => some plan.chunk.token
  | .gap => some plan.gap.token
  | .continuityBreak => some plan.continuityBreak.token
  | _ => none

theorem answerPlan_unprepared (none : preparedToken plan = none) :
    (session.answerPlan plan output).1.completionRequired = false ∧
      (session.answerPlan plan output).2.2 = session := by
  rw [preparedToken] at none
  rw [DeliverySession.answerPlan]
  cases decision : plan.decision with
  | sampleChunk | gap | continuityBreak =>
    rw [decision] at none
    cases none
  | cursorAhead | invalidRequest | busy | internalError =>
    exact ⟨completionRequired_respondError _ _ _, session.respondError_session _ _⟩
  | streamChanged | noData | rangeUnavailable | invalidRelease =>
    exact ⟨completionRequired_respond _ _, session.respond_session _⟩

theorem answerPlan_prepared {token : UInt64} (held : preparedToken plan = some token)
    (output : List UInt8) : ((session.answerPlan plan output).1.completionRequired = true ∧
        (session.answerPlan plan output).1.deliveryToken = token ∧
        (session.answerPlan plan output).2.2 = session) ∨
      (session.answerPlan plan output).1.completionRequired = false ∧
        (session.answerPlan plan output).payload.head? ≠ some 0 ∧
        (session.answerPlan plan output).2.2 = (session.abort token).2 := by
  rw [preparedToken] at held
  rw [DeliverySession.answerPlan]
  cases decision : plan.decision with
  | sampleChunk | gap | continuityBreak =>
    rw [decision] at held
    cases held
    exact respondPrepared_cases _ _ _
  | cursorAhead | invalidRequest | busy | internalError | streamChanged | noData
    | rangeUnavailable | invalidRelease =>
    rw [decision] at held
    cases held

theorem preparedToken_of_shows {journal : Node.MeasurementJournal limits.journal} {start : Nat}
    {token : UInt64} {content : Node.Log.Content} (shown : plan.Shows journal start token content) :
    preparedToken plan = some token := by
  rw [preparedToken]
  cases content with
  | gap record =>
    obtain ⟨decision, held⟩ := shown
    rw [decision, held]
  | continuityBreak record =>
    obtain ⟨decision, held⟩ := shown
    rw [decision, held]
  | samples records =>
    obtain ⟨decision, held, -⟩ := shown
    rw [decision]
    exact congrArg some held

end Answer

/-- After a served pull the node has released up to the request at most, and its answer is truthful.
-/
structure Served (before : NodeTrace limits) (request : Host.PullSamplesRequest)
    (handled : Node.Handled limits) (after : NodeTrace limits) : Prop where
  released : after.session.journal.released ≤
    max before.session.journal.released request.releaseBefore.toNat
  answered : handled.1.completionRequired = false →
    TruthfulPayload after after.session.journal.delivered handled.payload
  kept : handled.1.completionRequired = false → after.session.preparedToken = 0 ∨
    after.session.preparedToken = before.session.preparedToken ∧
      after.session.preparedEnd = before.session.preparedEnd
  prepared : handled.1.completionRequired = true →
    after.session.preparedToken = handled.1.deliveryToken ∧
      TruthfulPayload after after.session.preparedEnd handled.payload

/-- An answer that decodes to a kind its plan does not have. -/
theorem truthfulPayload_of_carries {node : NodeTrace limits}
    {session after : DeliverySession limits}
    {request : Host.PullSamplesRequest} {log : List Entry} {plan : PullPlan} {output : List UInt8}
    {bound : Nat} (serves : Node.Serves session log)
    (planned : session.Planned (pullCommand request) log plan after)
    (truth : ∀ response, Carries session.bootEpoch plan response → Truthful node bound response) :
    TruthfulPayload node bound (after.answerPlan plan output).payload := by
  intro response decoded
  obtain ⟨found, same, carries, -⟩ :=
    agrees_planned serves planned (head_of_decodePullResponse decoded)
  rw [decoded] at same
  cases same
  exact truth response carries

section Serving

variable {node : NodeTrace limits} {request : Host.PullSamplesRequest} {plan : PullPlan}
  {planned : DeliverySession limits}

/-- The node after answering a plan. -/
def answered (node : NodeTrace limits) (planned : DeliverySession limits) (plan : PullPlan)
    (output : List UInt8) : NodeTrace limits where
  session := (planned.answerPlan plan output).2.2
  log := node.log
  overflowed := node.overflowed
  freed := node.freed ++ NodeTrace.discarded node.session.journal
    (planned.answerPlan plan output).2.2.journal

/-- Answering moves no cursor that the plan has not moved. -/
theorem answered_cursors (node : NodeTrace limits) (planned : DeliverySession limits)
    (plan : PullPlan) (output : List UInt8) :
    (answered node planned plan output).session.journal.retainedFrom =
        planned.journal.retainedFrom ∧
      (answered node planned plan output).session.journal.released =
        planned.journal.released := by
  simp only [answered]
  obtain same | ⟨token, aborted⟩ := planned.answerPlan_session plan output
  · rw [same]
    exact ⟨rfl, rfl⟩
  · rw [aborted]
    exact Node.Serves.abort_cursors planned token

/-- A plan without a token. -/
theorem served_unprepared (accounts : node.Accounts)
    (plans : node.session.Planned (pullCommand request) node.log plan planned)
    (none : preparedToken plan = none)
    (same : planned.preparedToken = node.session.preparedToken ∧
      planned.preparedEnd = node.session.preparedEnd) (released : planned.journal.released ≤
      max node.session.journal.released request.releaseBefore.toNat) (output : List UInt8)
    (truth : ∀ response, Carries node.session.bootEpoch plan response →
      Truthful (answered node planned plan output)
        (answered node planned plan output).session.journal.delivered response) :
    Served node request (planned.answerPlan plan output) (answered node planned plan output) where
  released := by
    rw [(answered_cursors node planned plan output).2]
    exact released
  answered := fun _ => truthfulPayload_of_carries accounts.serves plans truth
  kept := by
    intro _
    simp only [answered, (answerPlan_unprepared none).2]
    exact .inr same
  prepared := by
    intro required
    rw [(answerPlan_unprepared none).1] at required
    cases required

/-- A plan under a token. -/
theorem served_prepared (accounts : node.Accounts)
    (plans : node.session.Planned (pullCommand request) node.log plan planned)
    (held : preparedToken plan = some planned.preparedToken)
    (released : planned.journal.released ≤
      max node.session.journal.released request.releaseBefore.toNat) (output : List UInt8)
    (truth : ∀ response, Carries node.session.bootEpoch plan response →
      Truthful (answered node planned plan output) planned.preparedEnd response) :
    Served node request (planned.answerPlan plan output) (answered node planned plan output) where
  released := by
    rw [(answered_cursors node planned plan output).2]
    exact released
  answered := by
    intro unprepared response decoded
    obtain ⟨required, -⟩ | ⟨-, failed, -⟩ := answerPlan_prepared held output
    · rw [required] at unprepared
      cases unprepared
    · exact absurd (head_of_decodePullResponse decoded) failed
  kept := by
    intro unprepared
    obtain ⟨required, -⟩ | ⟨-, -, aborted⟩ := answerPlan_prepared held output
    · rw [required] at unprepared
      cases unprepared
    · refine .inl ?_
      simp only [answered, aborted]
      exact Node.Serves.preparedToken_abort planned
  prepared := by
    intro required
    obtain ⟨-, token, kept⟩ | ⟨unprepared, -⟩ := answerPlan_prepared held output
    · have same : (answered node planned plan output).session = planned := kept
      rw [same, token]
      exact ⟨rfl, truthfulPayload_of_carries accounts.serves plans truth⟩
    · rw [required] at unprepared
      cases unprepared

/-- No response carries a plan of another decision. -/
theorem not_carries {bootEpoch : UInt64} (response : Host.PullResponse)
    (decision : plan.decision = .busy ∨ plan.decision = .internalError ∨
      plan.decision = .invalidRequest ∨ plan.decision = .cursorAhead) :
    ¬ Carries bootEpoch plan response := by
  intro carries
  rcases decision with decision | decision | decision | decision
  all_goals cases response <;> cases decision.symm.trans carries.1

theorem preparedToken_eq_none (decision : plan.decision = .busy ∨ plan.decision = .internalError ∨
      plan.decision = .invalidRequest ∨ plan.decision = .cursorAhead) :
    preparedToken plan = none ∧ plan.decision ≠ .invalidRelease := by
  rw [preparedToken]
  rcases decision with decision | decision | decision | decision
  all_goals
    rw [decision]
    exact ⟨rfl, nofun⟩

theorem served_planned (accounts : node.Accounts) (valid : request.Valid)
    (covered : request.releaseBefore.toNat ≤
      max node.session.journal.delivered node.session.journal.retainedFrom)
    (plans : node.session.Planned (pullCommand request) node.log plan planned)
    (output : List UInt8) : plan.decision ≠ .invalidRelease ∧
      Served node request (planned.answerPlan plan output) (answered node planned plan output) := by
  have cursors := answered_cursors node planned plan output
  have served := served_unprepared accounts plans
  cases plans with
  | declined decision =>
    have silent : plan.decision = .busy ∨ plan.decision = .internalError ∨
        plan.decision = .invalidRequest ∨ plan.decision = .cursorAhead :=
      decision.imp And.left (Or.imp And.left fun request => .inl request.1)
    obtain ⟨none, other⟩ := preparedToken_eq_none silent
    exact ⟨other, served none ⟨rfl, rfl⟩ (Nat.le_max_left _ _) output
      fun response carries => absurd carries (not_carries response silent)⟩
  | streamChanged decision epoch started other =>
    have none : preparedToken plan = none := by rw [preparedToken, decision]
    refine ⟨by rw [decision]; nofun, served none ⟨rfl, rfl⟩ (Nat.le_max_left _ _) output
      fun response carries => ?_⟩
    cases response with
    | streamChanged => trivial
    | sampleChunk | noData | rangeUnavailable | invalidRelease | gap | continuityBreak =>
      cases decision.symm.trans carries.1
  | invalidRelease decision state epoch started idle refused kept =>
    obtain ⟨-, -, ordered⟩ := (Host.PullSamplesRequest.valid_iff request).mp valid
    obtain reversed | beyond := refused
    · exact absurd ordered (UInt64.not_le.mpr reversed)
    · exact absurd covered (Nat.not_le.mpr beyond)
  | unanswered addresses released decision =>
    have silent : plan.decision = .busy ∨ plan.decision = .internalError ∨
        plan.decision = .invalidRequest ∨ plan.decision = .cursorAhead :=
      decision.elim (fun ahead => .inr (.inr (.inr ahead.1))) fun failed => .inr (.inl failed.1)
    obtain ⟨none, other⟩ := preparedToken_eq_none silent
    exact ⟨other, served none ⟨rfl, rfl⟩ released.released_eq.le output
      fun response carries => absurd carries (not_carries response silent)⟩
  | noData addresses released decision state exhausted =>
    have none : preparedToken plan = none := by rw [preparedToken, decision]
    refine ⟨by rw [decision]; nofun, served none ⟨rfl, rfl⟩ released.released_eq.le output
      fun response carries => ?_⟩
    cases response with
    | noData => trivial
    | sampleChunk | streamChanged | rangeUnavailable | invalidRelease | gap | continuityBreak =>
      cases decision.symm.trans carries.1
  | rangeUnavailable addresses released decision state lost =>
    have none : preparedToken plan = none := by rw [preparedToken, decision]
    refine ⟨by rw [decision]; nofun, served none ⟨rfl, rfl⟩ released.released_eq.le output
      fun response carries => ?_⟩
    cases response with
    | rangeUnavailable shown =>
      refine Nat.le_of_eq (carries.2.retainedFrom_eq.trans ?_)
      rw [cursors.1, state]
      rfl
    | sampleChunk | streamChanged | noData | invalidRelease | gap | continuityBreak =>
      cases decision.symm.trans carries.1
  | prepared addresses released token retained found bounded shown =>
    have held := preparedToken_of_shows shown
    have regular := Node.Log.regular_of_contentAt accounts.serves.checked
      (DeliverySession.requested_pos limits addresses.limited) found
    refine ⟨?_, served_prepared accounts
      (.prepared addresses released token retained found bounded shown) held
      released.released_eq.le output fun response carries => ?_⟩
    · intro refused
      rw [preparedToken, refused] at held
      cases held
    · exact truthful_prepared found regular shown carries

end Serving
end SensorSystem.System
