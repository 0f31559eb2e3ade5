import SensorSystem.Base.Spans
import SensorSystem.Host.Protocol.MeasurementChecks
import SensorSystem.Host.Session.NodeSession

/-! Every call of a sound session has one of a few effects, listed by `Transition`: it is refused,
gives the pull up for recovery, begins or leaves a pull, accepts one record at the received
cursor, hands that record out or confirms it. -/

namespace SensorSystem.Host

open DeliveryCursors
open Base

/-- What an accepting call leaves to be persisted. -/
inductive SessionRecord where
  | chunk (body : PendingChunk)
  | gap (missing : Gap)
  | continuityBreak (observed : ContinuityBreak)

def PendingChunk.header : PendingChunk → SampleChunkHeader
  | legacy header _ => header
  | wire body => body.header

namespace SessionRecord

def first : SessionRecord → Nat
  | chunk body => body.header.first.toNat
  | gap missing => missing.firstMissing.toNat
  | continuityBreak observed => observed.at_.toNat

def stop : SessionRecord → Nat
  | chunk body => body.header.first.toNat + body.header.sampleCount.toNat
  | gap missing => missing.firstMissing.toNat + missing.missingCount.toNat
  | continuityBreak observed => observed.at_.toNat + 1

/-- The stream a record names. A chunk carries no hardware identity. -/
def BelongsTo (hardwareId : HardwareId) (bootEpoch : BootEpoch) : SessionRecord → Prop
  | chunk body => body.header.bootEpoch = bootEpoch
  | gap missing => missing.hardwareId = hardwareId ∧ missing.bootEpoch = bootEpoch
  | continuityBreak observed => observed.hardwareId = hardwareId ∧ observed.bootEpoch = bootEpoch

end SessionRecord

def SessionPhase.isPersisting : SessionPhase → Bool
  | .persistingChunk | .persistingGap | .persistingContinuityBreak => true
  | _ => false

def PendingPersistence.record : PendingPersistence → SessionRecord
  | .chunk _ body => .chunk (.wire body)
  | .gap missing => .gap missing
  | .continuityBreak observed => .continuityBreak observed

inductive SessionCall where
  | beginPull (maxSamples : UInt16)
  | abandonPullForRetry
  | acceptChunk (header : SampleChunkHeader) (samples : List SampleAxes)
  | acceptWireChunk (chunk : SampleChunk)
  | acceptNoData (state : StreamState)
  | acceptRangeUnavailable (state : StreamState)
  | acceptGap (evidence : GapEvidence)
  | acceptContinuityBreak (evidence : ContinuityBreakEvidence)
  | streamChanged
  | invalidRelease (state : StreamState)
  | failPullForRecovery
  | takePendingPersistence
  | confirmDurable (receipt : DurableReceipt)

/-- A call that accepts a record also returns it. -/
inductive SessionReply where
  | done
  | request (request : PullSamplesRequest)
  | accepted
  | handedOut (record : PendingPersistence)
  | confirmed

namespace NodeSession

def answer {α : Type} (result : SessionResult α) (reply : α → SessionReply) :
    SessionResult SessionReply :=
  (result.1.map reply, result.2)

def perform (session : NodeSession) : SessionCall → SessionResult SessionReply
  | .beginPull maxSamples => answer (session.beginPull maxSamples) .request
  | .abandonPullForRetry => answer session.abandonPullForRetry fun _ => .done
  | .acceptChunk header samples => answer (session.acceptChunk header samples) fun _ => .accepted
  | .acceptWireChunk chunk => answer (session.acceptWireChunk chunk) fun _ => .accepted
  | .acceptNoData state => answer (session.acceptNoData state) fun _ => .done
  | .acceptRangeUnavailable state =>
    answer (session.acceptRangeUnavailable state) fun _ => .accepted
  | .acceptGap evidence => answer (session.acceptGap evidence) fun _ => .accepted
  | .acceptContinuityBreak evidence =>
    answer (session.acceptContinuityBreak evidence) fun _ => .accepted
  | .streamChanged => answer session.streamChanged fun _ => .done
  | .invalidRelease state => answer (session.invalidRelease state) fun _ => .done
  | .failPullForRecovery => answer session.failPullForRecovery fun _ => .done
  | .takePendingPersistence => answer session.takePendingPersistence .handedOut
  | .confirmDurable receipt => answer (session.confirmDurable receipt) fun _ => .confirmed

/-- The record that waits in the session, unless it has been handed out. -/
def pendingRecord (session : NodeSession) : Option SessionRecord :=
  match session.phase with
  | .persistingChunk => session.pendingChunk.map .chunk
  | .persistingGap => session.pendingGap.map .gap
  | .persistingContinuityBreak => session.pendingContinuityBreak.map .continuityBreak
  | _ => none

/-- Put a record into the field of its kind. -/
def keep (session : NodeSession) : SessionRecord → NodeSession
  | .chunk body => { session with pendingChunk := some body, phase := .persistingChunk }
  | .gap missing => { session with pendingGap := some missing, phase := .persistingGap }
  | .continuityBreak observed =>
    { session with
      pendingContinuityBreak := some observed
      phase := .persistingContinuityBreak }

/-- The session after a record that stops at a cursor is accepted. -/
def receive (session : NodeSession) (record : SessionRecord) (stop : SequenceCursor) :
    NodeSession :=
  { session with
    activePull := none
    cursors := ⟨stop, session.cursors.durable, session.cursors.durable⟩
    pendingReceipt := some ⟨session.hardwareId, session.bootEpoch, stop⟩ }.keep record

/-- No record waits in the session. -/
def withoutPending (session : NodeSession) : NodeSession :=
  { session with pendingChunk := none, pendingGap := none, pendingContinuityBreak := none }

/-- What holds between calls. -/
structure Sound (session : NodeSession) : Prop where
  ordered : session.cursors.Ordered
  ready : session.phase = .ready → session.activePull = none
  awaiting : session.phase = .awaitingPull → ∃ request, session.activePull = some request ∧
    request.bootEpoch = session.bootEpoch ∧ request.start = session.cursors.received ∧
    request.releaseBefore = session.cursors.durable
  idle : session.phase.isPersisting = false →
    session.cursors.received = session.cursors.durable ∧ session.pendingReceipt = none
  chunk : session.phase ≠ .persistingChunk → session.pendingChunk = none
  gap : session.phase ≠ .persistingGap → session.pendingGap = none
  continuityBreak :
    session.phase ≠ .persistingContinuityBreak → session.pendingContinuityBreak = none
  persisting : session.phase.isPersisting = true → session.activePull = none ∧
    session.pendingReceipt =
      some ⟨session.hardwareId, session.bootEpoch, session.cursors.received⟩
  pending : ∀ record, session.pendingRecord = some record →
    record.first = session.cursors.durable.toNat ∧ record.first < record.stop ∧
      record.stop = session.cursors.received.toNat ∧
      record.BelongsTo session.hardwareId session.bootEpoch

end NodeSession

/-- The records an accepting call may put into the session. -/
def SessionCall.Offers (call : SessionCall) : SessionRecord → Prop
  | .chunk (.legacy header samples) => call = .acceptChunk header samples
  | .chunk (.wire body) => call = .acceptWireChunk body
  | .gap missing =>
    (∃ evidence, call = .acceptGap evidence ∧ missing.firstMissing = evidence.firstMissing ∧
      missing.missingCount = evidence.missingCount ∧ missing.reason = evidence.reason) ∨
    ∃ state, call = .acceptRangeUnavailable state ∧
      missing.firstMissing.toNat + missing.missingCount.toNat = state.retainedFrom.toNat ∧
      missing.reason = .journalOverflow
  | .continuityBreak observed => ∃ evidence, call = .acceptContinuityBreak evidence ∧
      observed.at_ = evidence.at_ ∧ observed.reason = evidence.reason

/-- The effects of a call on a sound session. -/
inductive NodeSession.Transition (call : SessionCall) (before : NodeSession) :
    Except SessionError SessionReply → NodeSession → Prop
  | refused (error : SessionError) : Transition call before (.error error) before
  | recovering (error : SessionError) (activePull : Option PullSamplesRequest)
      (phase : before.phase = .awaitingPull) :
      Transition call before (.error error)
        { before with activePull, phase := .recoveryRequired }
  | began {request : PullSamplesRequest} {maxSamples : UInt16} (phase : before.phase = .ready)
      (built : PullSamplesRequest.new before.bootEpoch before.cursors.received
        before.cursors.durable maxSamples = .ok request) :
      Transition call before (.ok (.request request))
        { before with activePull := some request, phase := .awaitingPull }
  | left (next : SessionPhase) (phase : before.phase = .awaitingPull)
      (target : next = .ready ∨ next = .recoveryRequired) :
      Transition call before (.ok .done) { before with activePull := none, phase := next }
  | noData (phase : before.phase = .awaitingPull) :
      Transition call before (.ok .done)
        { before with
          activePull := none
          cursors := { before.cursors with released := before.cursors.durable }
          phase := .ready }
  | received (record : SessionRecord) (stop : SequenceCursor) (phase : before.phase = .awaitingPull)
      (first : record.first = before.cursors.received.toNat) (nonempty : record.first < record.stop)
      (last : record.stop = stop.toNat)
      (identity : record.BelongsTo before.hardwareId before.bootEpoch)
      (offered : call.Offers record) :
      Transition call before (.ok .accepted) (before.receive record stop)
  | handedOut (record : PendingPersistence)
      (pending : before.pendingRecord = some record.record) :
      Transition call before (.ok (.handedOut record)) before.withoutPending
  | confirmed (phase : before.phase.isPersisting = true) :
      Transition call before (.ok .confirmed)
        { before.withoutPending with
          cursors := { before.cursors with durable := before.cursors.received }
          pendingReceipt := none
          phase := .ready }

namespace NodeSession

variable {session : NodeSession}

theorem transition_beginPull (maxSamples : UInt16) :
    Transition (.beginPull maxSamples) session (session.perform (.beginPull maxSamples)).1
      (session.perform (.beginPull maxSamples)).2 := by
  simp only [perform, answer, beginPull]
  split
  · exact .refused _
  rename_i phase
  split
  · exact .refused _
  rename_i request built
  exact .began (not_not.mp phase) built

theorem transition_leavePull (call : SessionCall) (next : SessionPhase)
    (target : next = .ready ∨ next = .recoveryRequired) :
    Transition call session (answer (session.leavePull next) fun _ => .done).1
      (answer (session.leavePull next) fun _ => .done).2 := by
  simp only [answer, leavePull]
  split
  · exact .refused _
  rename_i phase
  exact .left next (not_not.mp phase) target

variable {request : PullSamplesRequest}

/-- An active pull asks for what follows the durable prefix. -/
theorem Sound.pull (sound : session.Sound) (active : session.requireActivePull = .ok request) :
    session.phase = .awaitingPull ∧ request.bootEpoch = session.bootEpoch ∧
      request.start = session.cursors.received ∧
      request.releaseBefore = session.cursors.durable := by
  rw [requireActivePull, guard_eq_ok, ne_eq, not_not] at active
  obtain ⟨phase, active⟩ := active
  obtain ⟨found, stored, facts⟩ := sound.awaiting phase
  rw [stored] at active
  cases active
  exact ⟨phase, facts⟩

/-- The release that an answer carries is always acceptable. -/
theorem Sound.settlePull_eq (sound : session.Sound)
    (active : session.requireActivePull = .ok request) :
    session.settlePull request = (.ok (), { session with
      activePull := none
      cursors := { session.cursors with released := session.cursors.durable } }) := by
  obtain ⟨-, -, -, release⟩ := sound.pull active
  simp only [settlePull, release, sound.ordered.markReleased_durable]

variable (state : StreamState)

theorem validateStateForActiveStream_cases :
    (∃ error, session.validateStateForActiveStream state = (.error error, session)) ∨
      (∃ error, session.validateStateForActiveStream state =
        (.error error, { session with phase := .recoveryRequired })) ∨
      session.validateStateForActiveStream state = (.ok (), session) := by
  rw [validateStateForActiveStream]
  split
  · exact .inl ⟨_, rfl⟩
  split
  · exact .inr (.inl ⟨_, rfl⟩)
  · exact .inr (.inr rfl)

variable (sound : session.Sound)

include sound

theorem Sound.transition_acceptNoData :
    Transition (.acceptNoData state) session (session.perform (.acceptNoData state)).1
      (session.perform (.acceptNoData state)).2 := by
  simp only [perform, answer, acceptNoData]
  cases active : session.requireActivePull with
  | error error => exact .refused error
  | ok request =>
    obtain ⟨phase, -⟩ := sound.pull active
    obtain ⟨error, checked⟩ | ⟨error, checked⟩ | checked :=
      session.validateStateForActiveStream_cases state
    · simp only [checked]
      exact .refused error
    · simp only [checked]
      exact .recovering error session.activePull phase
    simp only [checked]
    split
    · exact .recovering _ none phase
    rw [sound.settlePull_eq active]
    exact .noData phase

theorem Sound.transition_invalidRelease :
    Transition (.invalidRelease state) session (session.perform (.invalidRelease state)).1
      (session.perform (.invalidRelease state)).2 := by
  simp only [perform, answer, invalidRelease]
  cases active : session.requireActivePull with
  | error error => exact .refused error
  | ok request =>
    obtain ⟨phase, -⟩ := sound.pull active
    obtain ⟨error, checked⟩ | ⟨error, checked⟩ | checked :=
      session.validateStateForActiveStream_cases state
    · simp only [checked]
      exact .refused error
    · simp only [checked]
      exact .recovering error session.activePull phase
    · simp only [checked]
      exact .left .recoveryRequired phase (.inr rfl)

/-- A chunk with a checked header is accepted. -/
theorem Sound.receiveChunk_eq (active : session.requireActivePull = .ok request)
    {header : SampleChunkHeader} (valid : header.validateFor request = .ok ())
    (chunk : PendingChunk) : ∃ stop, session.receiveChunk request header chunk =
        (.ok (), session.receive (.chunk chunk) stop) ∧
      header.first.toNat + header.sampleCount.toNat = stop.toNat := by
  obtain ⟨-, epoch, start, release⟩ := sound.pull active
  obtain ⟨-, structured, first, -⟩ := SampleChunkHeader.validateFor_eq_ok.mp valid
  obtain ⟨-, -, nonempty, -, fits⟩ := SampleChunkHeader.validateStructure_eq_ok.mp structured
  have bounded := header.produced.toNat_lt
  have sum : header.first.toNat + header.sampleCount.toUInt64.toNat =
      (header.first + header.sampleCount.toUInt64).toNat := by
    rw [UInt64.toNat_add, UInt16.toNat_toUInt64]
    omega
  refine ⟨header.first + header.sampleCount.toUInt64, ?_, by
    rw [← sum, UInt16.toNat_toUInt64]⟩
  have received : header.first = session.cursors.received := first.trans start
  have contiguous : acceptContiguous
      { session.cursors with released := session.cursors.durable } header.first
        header.sampleCount =
      .ok ⟨header.first + header.sampleCount.toUInt64, session.cursors.durable,
        session.cursors.durable⟩ := by
    rw [acceptContiguous, if_neg nonempty, if_neg (not_not.mpr received)]
    exact advance_eq (by rw [← sum, received])
  simp only [receiveChunk, sound.settlePull_eq active, contiguous, SampleChunkHeader.endCursor,
    checkedAdd_eq_some.mpr sum]
  rfl

theorem Sound.transition_acceptChunk (header : SampleChunkHeader) (samples : List SampleAxes) :
    Transition (.acceptChunk header samples) session
      (session.perform (.acceptChunk header samples)).1
      (session.perform (.acceptChunk header samples)).2 := by
  simp only [perform, answer, acceptChunk]
  cases active : session.requireActivePull with
  | error error => exact .refused error
  | ok request =>
    obtain ⟨phase, epoch, start, -⟩ := sound.pull active
    cases valid : header.validateFor request with
    | error error =>
      simp only [valid]
      exact .recovering _ none phase
    | ok checked =>
      obtain ⟨stop, accepted, sum⟩ := sound.receiveChunk_eq active valid (.legacy header samples)
      obtain ⟨sameEpoch, structured, first, -⟩ := SampleChunkHeader.validateFor_eq_ok.mp valid
      have nonempty := (SampleChunkHeader.validateStructure_eq_ok.mp structured).2.2.1
      simp only [valid, accepted]
      split
      · exact .recovering _ none phase
      refine .received (.chunk (.legacy header samples)) stop phase ?_ ?_ sum ?_ rfl
      · exact congrArg UInt64.toNat (first.trans start)
      · exact Nat.lt_add_of_pos_right (UInt16.pos_iff_ne_zero.mpr nonempty)
      · exact sameEpoch.trans epoch

theorem Sound.transition_acceptWireChunk (chunk : SampleChunk) :
    Transition (.acceptWireChunk chunk) session (session.perform (.acceptWireChunk chunk)).1
      (session.perform (.acceptWireChunk chunk)).2 := by
  simp only [perform, answer, acceptWireChunk]
  cases wellFormed : chunk.validate with
  | error error => exact .refused _
  | ok _ =>
    cases active : session.requireActivePull with
    | error error => exact .refused error
    | ok request =>
      obtain ⟨phase, epoch, start, -⟩ := sound.pull active
      cases valid : chunk.header.validateFor request with
      | error error =>
        simp only [valid]
        exact .recovering _ none phase
      | ok checked =>
        obtain ⟨stop, accepted, sum⟩ := sound.receiveChunk_eq active valid (.wire chunk)
        obtain ⟨sameEpoch, structured, first, -⟩ := SampleChunkHeader.validateFor_eq_ok.mp valid
        have nonempty := (SampleChunkHeader.validateStructure_eq_ok.mp structured).2.2.1
        simp only [valid, accepted]
        split
        · exact .recovering _ none phase
        refine .received (.chunk (.wire chunk)) stop phase ?_ ?_ sum ?_ rfl
        · exact congrArg UInt64.toNat (first.trans start)
        · exact Nat.lt_add_of_pos_right (UInt16.pos_iff_ne_zero.mpr nonempty)
        · exact sameEpoch.trans epoch

/-- A gap from the received cursor is accepted. -/
theorem Sound.receiveGap_eq (active : session.requireActivePull = .ok request)
    {first : SampleSequence} {count : UInt64} (contiguous : first = session.cursors.received)
    (nonempty : count ≠ 0) (fits : first.toNat + count.toNat < 2 ^ 64) (reason : GapReason) :
    session.receiveGap request first count reason =
      (.ok ⟨session.hardwareId, session.bootEpoch, first, count, reason, nonempty, fits⟩,
        session.receive
          (.gap ⟨session.hardwareId, session.bootEpoch, first, count, reason, nonempty, fits⟩)
          (first + count)) ∧ first.toNat + count.toNat = (first + count).toNat := by
  have sum : first.toNat + count.toNat = (first + count).toNat := by
    rw [UInt64.toNat_add, Nat.mod_eq_of_lt fits]
  refine ⟨?_, sum⟩
  have accounted : accountGap
      { session.cursors with released := session.cursors.durable } first count =
      .ok ⟨first + count, session.cursors.durable, session.cursors.durable⟩ := by
    rw [accountGap, if_neg nonempty, if_neg (not_not.mpr contiguous)]
    exact advance_eq (by rw [← sum, contiguous])
  simp only [receiveGap, sound.settlePull_eq active, Gap.new, dif_neg nonempty, dif_pos fits,
    accounted]
  rfl

theorem Sound.transition_acceptGap (evidence : GapEvidence) :
    Transition (.acceptGap evidence) session (session.perform (.acceptGap evidence)).1
      (session.perform (.acceptGap evidence)).2 := by
  simp only [perform, answer, acceptGap]
  cases active : session.requireActivePull with
  | error error => exact .refused error
  | ok request =>
    obtain ⟨phase, epoch, start, -⟩ := sound.pull active
    cases valid : evidence.validateFor request with
    | error error =>
      simp only [valid]
      exact .recovering _ none phase
    | ok checked =>
      obtain ⟨-, structured, first⟩ := GapEvidence.validateFor_eq_ok.mp valid
      obtain ⟨-, -, nonempty, -, -, fits⟩ := GapEvidence.validateStructure_eq_ok.mp structured
      have bounded := evidence.produced.toNat_lt
      obtain ⟨accepted, sum⟩ := sound.receiveGap_eq active (first.trans start) nonempty (by omega)
        evidence.reason
      simp only [valid, accepted]
      refine .received (.gap _) _ phase ?_ ?_ sum ⟨rfl, rfl⟩ (.inl ⟨evidence, rfl, rfl, rfl, rfl⟩)
      · exact congrArg UInt64.toNat (first.trans start)
      · exact Nat.lt_add_of_pos_right (UInt64.pos_iff_ne_zero.mpr nonempty)

theorem Sound.receiveRange_eq (active : session.requireActivePull = .ok request)
    {retainedFrom : SequenceCursor} (below : request.start < retainedFrom) :
    ∃ gap stop, session.receiveGap request request.start (retainedFrom - request.start)
        .journalOverflow = (.ok gap, session.receive (.gap gap) stop) ∧
      gap.hardwareId = session.hardwareId ∧ gap.bootEpoch = session.bootEpoch ∧
      gap.firstMissing = session.cursors.received ∧ gap.missingCount ≠ 0 ∧
      gap.firstMissing.toNat + gap.missingCount.toNat = retainedFrom.toNat ∧
      retainedFrom.toNat = stop.toNat ∧ gap.reason = .journalOverflow := by
  obtain ⟨-, -, start, -⟩ := sound.pull active
  rw [UInt64.lt_iff_toNat_lt] at below
  have bounded := retainedFrom.toNat_lt
  have difference : (retainedFrom - request.start).toNat =
      retainedFrom.toNat - request.start.toNat :=
    UInt64.toNat_sub_of_le _ _ (UInt64.le_iff_toNat_le.mpr (Nat.le_of_lt below))
  have nonempty : retainedFrom - request.start ≠ 0 := by
    rw [ne_eq, ← UInt64.toNat_inj, difference, UInt64.toNat_zero]
    omega
  have total : request.start.toNat + (retainedFrom - request.start).toNat =
      retainedFrom.toNat := by omega
  obtain ⟨accepted, sum⟩ := sound.receiveGap_eq active start nonempty (by omega) .journalOverflow
  exact ⟨_, _, accepted, rfl, rfl, start, nonempty, total, total.symm.trans sum, rfl⟩

theorem Sound.transition_acceptRangeUnavailable : Transition (.acceptRangeUnavailable state) session
      (session.perform (.acceptRangeUnavailable state)).1
      (session.perform (.acceptRangeUnavailable state)).2 := by
  simp only [perform, answer, acceptRangeUnavailable]
  cases active : session.requireActivePull with
  | error error => exact .refused error
  | ok request =>
    obtain ⟨phase, epoch, start, -⟩ := sound.pull active
    obtain ⟨error, checked⟩ | ⟨error, checked⟩ | checked :=
      session.validateStateForActiveStream_cases state
    · simp only [checked]
      exact .refused error
    · simp only [checked]
      exact .recovering error session.activePull phase
    simp only [checked]
    split
    · exact .recovering _ none phase
    rename_i below
    obtain ⟨gap, stop, accepted, hardware, epoch, first, nonempty, total, last, reason⟩ :=
      sound.receiveRange_eq active (UInt64.not_le.mp below)
    simp only [accepted]
    refine .received (.gap gap) stop phase ?_ ?_ (total.trans last) ⟨hardware, epoch⟩
      (.inr ⟨state, rfl, total, reason⟩)
    · exact congrArg UInt64.toNat first
    · exact Nat.lt_add_of_pos_right (UInt64.pos_iff_ne_zero.mpr nonempty)

/-- A checked continuity break is accepted. -/
theorem Sound.acceptContinuityBreak_eq (active : session.requireActivePull = .ok request)
    {evidence : ContinuityBreakEvidence} (valid : evidence.validateFor request = .ok ()) :
    ∃ observed, session.acceptContinuityBreak evidence =
        (.ok observed, session.receive (.continuityBreak observed) (evidence.at_ + 1)) ∧
      observed.hardwareId = session.hardwareId ∧ observed.bootEpoch = session.bootEpoch ∧
      observed.at_ = evidence.at_ ∧ observed.reason = evidence.reason ∧
      evidence.at_ = session.cursors.received ∧
      evidence.at_.toNat + 1 = (evidence.at_ + 1).toNat := by
  obtain ⟨-, -, start, -⟩ := sound.pull active
  obtain ⟨-, structured, first⟩ := ContinuityBreakEvidence.validateFor_eq_ok.mp valid
  obtain ⟨-, -, -, below⟩ := ContinuityBreakEvidence.validateStructure_eq_ok.mp structured
  have bounded := evidence.produced.toNat_lt
  have fits : evidence.at_.toNat + 1 < 2 ^ 64 := by omega
  have sum : evidence.at_.toNat + (1 : UInt64).toNat = (evidence.at_ + 1).toNat := by
    rw [UInt64.toNat_add, UInt64.toNat_one, Nat.mod_eq_of_lt fits]
  have received : evidence.at_ = session.cursors.received := first.trans start
  have accounted : accountContinuityBreak
      { session.cursors with released := session.cursors.durable } evidence.at_ =
      .ok ⟨evidence.at_ + 1, session.cursors.durable, session.cursors.durable⟩ := by
    rw [accountContinuityBreak, if_neg (not_not.mpr received)]
    exact advance_eq (by rw [← sum, received])
  refine ⟨⟨session.hardwareId, session.bootEpoch, evidence.at_, evidence.reason, fits⟩, ?_,
    rfl, rfl, rfl, rfl, received, sum⟩
  simp only [acceptContinuityBreak, active, valid, sound.settlePull_eq active,
    ContinuityBreak.new, dif_pos fits, accounted]
  rfl

theorem Sound.transition_acceptContinuityBreak (evidence : ContinuityBreakEvidence) :
    Transition (.acceptContinuityBreak evidence) session
      (session.perform (.acceptContinuityBreak evidence)).1
      (session.perform (.acceptContinuityBreak evidence)).2 := by
  cases active : session.requireActivePull with
  | error error =>
    simp only [perform, answer, acceptContinuityBreak, active]
    exact .refused error
  | ok request =>
    obtain ⟨phase, -⟩ := sound.pull active
    cases valid : evidence.validateFor request with
    | error error =>
      simp only [perform, answer, acceptContinuityBreak, active, valid]
      exact .recovering _ none phase
    | ok checked =>
      obtain ⟨observed, accepted, hardware, epoch, position, reason, received, sum⟩ :=
        sound.acceptContinuityBreak_eq active valid
      simp only [perform, answer, accepted]
      refine .received (.continuityBreak observed) _ phase ?_ ?_ ?_ ⟨hardware, epoch⟩
        ⟨evidence, rfl, position, reason⟩
      · exact congrArg UInt64.toNat (position.trans received)
      · exact Nat.lt_succ_self _
      · exact (congrArg (UInt64.toNat · + 1) position).trans sum

theorem Sound.receipt_eq {record : PendingPersistence}
    (pending : session.pendingRecord = some record.record)
    (owner : ∀ hardwareId body, record = .chunk hardwareId body → hardwareId = session.hardwareId) :
    record.receipt = ⟨session.hardwareId, session.bootEpoch, session.cursors.received⟩ := by
  obtain ⟨-, -, last, identity⟩ := sound.pending _ pending
  have fits := session.cursors.received.toNat_lt
  rw [← last] at fits
  cases record with
  | chunk hardwareId body =>
    have stop : body.header.first + body.header.sampleCount.toUInt64 =
        session.cursors.received := by
      rw [← UInt64.toNat_inj, UInt64.toNat_add, UInt16.toNat_toUInt64, ← last]
      exact Nat.mod_eq_of_lt fits
    simp only [PendingPersistence.receipt, owner hardwareId body rfl, stop]
    exact congrArg (DurableReceipt.mk _ · _) identity
  | gap missing =>
    have stop : missing.firstMissing + missing.missingCount = session.cursors.received := by
      rw [← UInt64.toNat_inj, UInt64.toNat_add, ← last]
      exact Nat.mod_eq_of_lt fits
    simp only [PendingPersistence.receipt, stop, identity.1, identity.2]
  | continuityBreak observed =>
    have stop : observed.endCursor = session.cursors.received := by
      rw [ContinuityBreak.endCursor, ← UInt64.toNat_inj, UInt64.toNat_add, ← last]
      exact Nat.mod_eq_of_lt fits
    simp only [PendingPersistence.receipt, stop, identity.1, identity.2]

/-- Handing out a waiting record only takes it out of the session. -/
theorem Sound.transition_handOff (record : PendingPersistence)
    (pending : session.pendingRecord = some record.record)
    (owner : ∀ hardwareId body, record = .chunk hardwareId body → hardwareId = session.hardwareId)
    {after : NodeSession} (taken : after = session.withoutPending) :
    Transition .takePendingPersistence session
      (answer (after.handOff record) .handedOut).1
        (answer (after.handOff record) .handedOut).2 := by
  have persisting : session.phase.isPersisting = true := by
    rw [pendingRecord] at pending
    cases phase : session.phase <;> simp_all [SessionPhase.isPersisting]
  have expected : some record.receipt = after.pendingReceipt := by
    rw [sound.receipt_eq pending owner, taken]
    exact (sound.persisting persisting).2.symm
  rw [handOff, if_neg (not_not.mpr expected), taken]
  exact .handedOut record pending

theorem Sound.transition_takePendingPersistence :
    Transition .takePendingPersistence session (session.perform .takePendingPersistence).1
      (session.perform .takePendingPersistence).2 := by
  simp only [perform, takePendingPersistence]
  cases phase : session.phase with
  | persistingChunk =>
    cases stored : session.pendingChunk with
    | none => exact .refused _
    | some body =>
      cases body with
      | legacy header samples => exact .refused _
      | wire body =>
        refine sound.transition_handOff (.chunk session.hardwareId body) ?_ ?_ ?_
        · simp only [pendingRecord, phase, stored, Option.map_some, PendingPersistence.record]
        · rintro hardwareId other same
          cases same
          rfl
        · simp only [withoutPending, phase, sound.gap (by simp [phase]),
            sound.continuityBreak (by simp [phase])]
  | persistingGap =>
    cases stored : session.pendingGap with
    | none => exact .refused _
    | some missing =>
      refine sound.transition_handOff (.gap missing) ?_ (by simp) ?_
      · simp only [pendingRecord, phase, stored, Option.map_some, PendingPersistence.record]
      · simp only [withoutPending, phase, sound.chunk (by simp [phase]),
          sound.continuityBreak (by simp [phase])]
  | persistingContinuityBreak =>
    cases stored : session.pendingContinuityBreak with
    | none => exact .refused _
    | some observed =>
      refine sound.transition_handOff (.continuityBreak observed) ?_ (by simp) ?_
      · simp only [pendingRecord, phase, stored, Option.map_some, PendingPersistence.record]
      · simp only [withoutPending, phase, sound.chunk (by simp [phase]),
          sound.gap (by simp [phase])]
  | ready => exact .refused _
  | awaitingPull => exact .refused _
  | recoveryRequired => exact .refused _

omit sound

/-- Confirming in one of the persisting phases. -/
theorem confirmDurable_eq (persisting : session.phase.isPersisting = true)
    {receipt : DurableReceipt}
    (identity : ¬ (receipt.hardwareId ≠ session.hardwareId ∨
      receipt.bootEpoch ≠ session.bootEpoch)) :
    session.confirmDurable receipt =
      if session.pendingReceipt ≠ some receipt then (.error .receiptCursorMismatch, session)
      else match session.cursors.markDurable receipt.stop with
        | .error error => (.error (.cursor error), session)
        | .ok cursors =>
          (.ok (), { session.withoutPending with cursors, pendingReceipt := none, phase := .ready })
    := by
  rw [confirmDurable, if_neg identity]
  cases phase : session.phase with
  | persistingChunk | persistingGap | persistingContinuityBreak => rfl
  | ready | awaitingPull | recoveryRequired =>
    rw [phase] at persisting
    exact nomatch persisting

theorem Sound.transition_confirmDurable (sound : session.Sound) (receipt : DurableReceipt) :
    Transition (.confirmDurable receipt) session (session.perform (.confirmDurable receipt)).1
      (session.perform (.confirmDurable receipt)).2 := by
  rw [perform]
  by_cases identity : receipt.hardwareId ≠ session.hardwareId ∨
      receipt.bootEpoch ≠ session.bootEpoch
  · rw [confirmDurable, if_pos identity]
    exact .refused _
  cases persisting : session.phase.isPersisting with
  | false =>
    rw [confirmDurable, if_neg identity]
    cases phase : session.phase with
    | persistingChunk | persistingGap | persistingContinuityBreak =>
      rw [phase] at persisting
      exact nomatch persisting
    | ready | awaitingPull | recoveryRequired => exact .refused _
  | true =>
    rw [confirmDurable_eq persisting identity]
    by_cases expected : session.pendingReceipt = some receipt
    · -- The expected receipt stops at the received cursor.
      have stop : receipt.stop = session.cursors.received := by
        rw [(sound.persisting persisting).2] at expected
        cases expected
        rfl
      rw [if_neg (not_not.mpr expected), stop, sound.ordered.markDurable_received]
      exact .confirmed persisting
    · rw [if_pos expected]
      exact .refused _

/-- Every call of a sound session has one of the listed effects. -/
theorem Sound.transition (sound : session.Sound) (call : SessionCall) :
    Transition call session (session.perform call).1 (session.perform call).2 := by
  cases call with
  | beginPull maxSamples => exact transition_beginPull maxSamples
  | abandonPullForRetry => exact transition_leavePull _ .ready (.inl rfl)
  | acceptChunk header samples => exact sound.transition_acceptChunk header samples
  | acceptWireChunk chunk => exact sound.transition_acceptWireChunk chunk
  | acceptNoData state => exact sound.transition_acceptNoData state
  | acceptRangeUnavailable state => exact sound.transition_acceptRangeUnavailable state
  | acceptGap evidence => exact sound.transition_acceptGap evidence
  | acceptContinuityBreak evidence => exact sound.transition_acceptContinuityBreak evidence
  | streamChanged => exact transition_leavePull _ .recoveryRequired (.inr rfl)
  | invalidRelease state => exact sound.transition_invalidRelease state
  | failPullForRecovery => exact transition_leavePull _ .recoveryRequired (.inr rfl)
  | takePendingPersistence => exact sound.transition_takePendingPersistence
  | confirmDurable receipt => exact sound.transition_confirmDurable receipt

end NodeSession
end SensorSystem.Host
