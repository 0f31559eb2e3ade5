import SensorSystem.Host.Channel.MeasurementTransfer
import SensorSystem.Host.Protocol.MeasurementWireRoundTrip
import SensorSystem.Host.Session.SessionInvariant

/-! A response that decodes need not be an answer to the pull that is active. The session tells
which it is: an answer leaves it in the phase of the outcome, and anything else fails and leaves
it outside of `ready`. -/

namespace SensorSystem.Host

open Base

/-- The checks of a response against the pull it answers. -/
def PullResponse.Answers (pull : PullSamplesRequest) : PullResponse → Prop
  | sampleChunk chunk => chunk.header.validateFor pull = .ok ()
  | noData state => state.bootEpoch = pull.bootEpoch ∧ pull.start = state.produced
  | rangeUnavailable state =>
    state.bootEpoch = pull.bootEpoch ∧ pull.start < state.retainedFrom
  | streamChanged _ => True
  | invalidRelease state => state.bootEpoch = pull.bootEpoch
  | gap evidence => evidence.validateFor pull = .ok ()
  | continuityBreak evidence => evidence.validateFor pull = .ok ()

def PersistenceKind.phase : PersistenceKind → SessionPhase
  | sampleChunk _ => .persistingChunk
  | gap _ => .persistingGap
  | continuityBreak _ => .persistingContinuityBreak

/-- The phase that an outcome says the session is in. -/
def MeasurementOutcome.phase : MeasurementOutcome → SessionPhase
  | notAccepted | noData _ => .ready
  | persistenceRequired kind => kind.phase
  | recoveryRequired _ => .recoveryRequired

namespace NodeSession

/-- A call succeeds and ends in a phase exactly when its answer is good. -/
inductive Settles {α : Type} (good : Prop) (phase : SessionPhase) : SessionResult α → Prop
  | accepted (value : α) (after : NodeSession) (holds : good) (ends : after.phase = phase) :
    Settles good phase (.ok value, after)
  | refused (error : SessionError) (after : NodeSession) (fails : ¬ good)
      (ends : after.phase ≠ .ready) : Settles good phase (.error error, after)

variable {session : NodeSession} {pull : PullSamplesRequest} {phase : SessionPhase}
  {state : StreamState} {good : Prop} {α : Type}

theorem Settles.of_iff {rest : Prop} {result : SessionResult α} (same : good ↔ rest)
    (settles : Settles rest phase result) : Settles good phase result := by
  cases settles with
  | accepted value after holds ends => exact .accepted value after (same.mpr holds) ends
  | refused error after fails ends => exact .refused error after (mt same.mp fails) ends

theorem enterRecovery_settles (error : SessionError) (fails : ¬ good) :
    Settles good phase (session.enterRecovery error : SessionResult α) :=
  .refused error _ fails nofun

theorem leavePull_settles (awaiting : session.phase = .awaitingPull) (next : SessionPhase) :
    Settles True next (session.leavePull next) := by
  rw [leavePull, if_neg (not_not.mpr awaiting)]
  exact .accepted () _ trivial rfl

variable (sound : session.Sound) (active : session.requireActivePull = .ok pull)
  (valid : state.validate = .ok ())

include sound active valid

/-- A state of another boot epoch is refused. -/
theorem validateState_settles {rest : Prop} {next : NodeSession → SessionResult α}
    (split : good ↔ state.bootEpoch = pull.bootEpoch ∧ rest)
    (continued : Settles rest phase (next session)) :
    Settles good phase (match session.validateStateForActiveStream state with
      | (.error error, session) => (.error error, session)
      | (.ok (), session) => next session) := by
  obtain ⟨-, epoch, -⟩ := sound.pull active
  by_cases same : state.bootEpoch = session.bootEpoch
  · have checked : session.validateStateForActiveStream state = (.ok (), session) := by
      simp only [validateStateForActiveStream, valid, same, ne_eq, not_true_eq_false, if_false]
    rw [checked]
    refine continued.of_iff (split.trans ?_)
    rw [epoch]
    exact and_iff_right same
  have checked : session.validateStateForActiveStream state =
      (.error .streamChanged, { session with phase := .recoveryRequired }) := by
    simp only [validateStateForActiveStream, valid, same, ne_eq, not_false_eq_true, if_true]
  rw [checked]
  refine .refused _ _ ?_ (by rintro ⟨⟩)
  rw [split, epoch]
  exact fun both => same both.1

theorem Sound.acceptNoData_settles :
    Settles ((PullResponse.noData state).Answers pull) .ready (session.acceptNoData state) := by
  simp only [acceptNoData, active]
  refine validateState_settles sound active valid Iff.rfl ?_
  by_cases start : pull.start = state.produced
  · rw [if_neg (not_not.mpr start), sound.settlePull_eq active]
    exact .accepted () _ start rfl
  rw [if_pos start]
  exact enterRecovery_settles _ start

theorem Sound.invalidRelease_settles :
    Settles ((PullResponse.invalidRelease state).Answers pull) .recoveryRequired
      (session.invalidRelease state) := by
  simp only [NodeSession.invalidRelease, active]
  exact validateState_settles sound active valid (and_true _).symm.to_iff
    (.accepted () _ trivial rfl)

theorem Sound.acceptRangeUnavailable_settles :
    Settles ((PullResponse.rangeUnavailable state).Answers pull) .persistingGap
      (session.acceptRangeUnavailable state) := by
  simp only [acceptRangeUnavailable, active]
  refine validateState_settles sound active valid Iff.rfl ?_
  by_cases below : pull.start < state.retainedFrom
  · obtain ⟨gap, stop, accepted, -⟩ := sound.receiveRange_eq active below
    rw [if_neg (UInt64.not_le.mpr below), accepted]
    exact .accepted gap _ below rfl
  rw [if_pos (UInt64.not_lt.mp below)]
  exact enterRecovery_settles _ below

omit valid

theorem Sound.acceptWireChunk_settles {chunk : SampleChunk} (wellFormed : chunk.validate = .ok ()) :
    Settles ((PullResponse.sampleChunk chunk).Answers pull) .persistingChunk
      (session.acceptWireChunk chunk) := by
  simp only [acceptWireChunk, wellFormed, active]
  cases valid : chunk.header.validateFor pull with
  | error error =>
    refine enterRecovery_settles _ ?_
    rw [PullResponse.Answers, valid]
    rintro ⟨⟩
  | ok _ =>
    obtain ⟨stop, accepted, -⟩ := sound.receiveChunk_eq active valid (.wire chunk)
    simp only [SampleChunk.length_of_validate wellFormed, ne_eq, not_true_eq_false, if_false,
      accepted]
    exact .accepted () _ valid rfl

theorem Sound.acceptGap_settles (evidence : GapEvidence) :
    Settles ((PullResponse.gap evidence).Answers pull) .persistingGap
      (session.acceptGap evidence) := by
  simp only [acceptGap, active]
  cases valid : evidence.validateFor pull with
  | error error =>
    refine enterRecovery_settles _ ?_
    rw [PullResponse.Answers, valid]
    rintro ⟨⟩
  | ok _ =>
    obtain ⟨-, -, start, -⟩ := sound.pull active
    obtain ⟨-, structured, first⟩ := GapEvidence.validateFor_eq_ok.mp valid
    obtain ⟨-, -, nonempty, -, -, fits⟩ := GapEvidence.validateStructure_eq_ok.mp structured
    have bounded := evidence.produced.toNat_lt
    obtain ⟨accepted, -⟩ := sound.receiveGap_eq active (first.trans start) nonempty (by omega)
      evidence.reason
    rw [accepted]
    exact .accepted _ _ valid rfl

theorem Sound.acceptContinuityBreak_settles (evidence : ContinuityBreakEvidence) :
    Settles ((PullResponse.continuityBreak evidence).Answers pull) .persistingContinuityBreak
      (session.acceptContinuityBreak evidence) := by
  cases valid : evidence.validateFor pull with
  | error error =>
    simp only [acceptContinuityBreak, active, valid]
    refine enterRecovery_settles _ ?_
    rw [PullResponse.Answers, valid]
    rintro ⟨⟩
  | ok _ =>
    obtain ⟨observed, accepted, -⟩ := sound.acceptContinuityBreak_eq active valid
    rw [accepted]
    exact .accepted observed _ valid rfl

omit active sound

end NodeSession

namespace MeasurementTransfer

/-- A response settles the transfer, or leaves it where no pull can begin. -/
inductive Settles (before : MeasurementTransfer) (good : Prop) :
    Except MeasurementTransferError MeasurementOutcome × MeasurementTransfer → Prop
  | accepted (outcome : MeasurementOutcome) (after : MeasurementTransfer) (holds : good)
      (ends : after.session.phase = outcome.phase)
      (again : outcome = .notAccepted → before.markAttemptUncertain = .ok after) :
    Settles before good (.ok outcome, after)
  | refused (error : MeasurementTransferError) (after : MeasurementTransfer) (fails : ¬ good)
      (ends : after.session.phase ≠ .ready) : Settles before good (.error error, after)

theorem settle_settles {α : Type} {good : Prop} {phase : SessionPhase} {result : SessionResult α}
    {note : α → MeasurementTransfer → MeasurementOutcome × MeasurementTransfer}
    (transfer : MeasurementTransfer) (settles : NodeSession.Settles good phase result)
    (noted : ∀ value session, (note value { transfer with session }).2.session = session ∧
      (note value { transfer with session }).1.phase = phase ∧
      (note value { transfer with session }).1 ≠ .notAccepted) :
    transfer.Settles good (transfer.settle result note) := by
  cases settles with
  | accepted value after holds ends =>
    obtain ⟨same, reported, final⟩ := noted value after
    refine .accepted _ _ holds ?_ fun again => absurd again final
    rw [same, ends, reported]
  | refused error after fails ends => exact .refused _ _ fails ends

/-- The response to the active pull can be used, if only to send the session to recovery. -/
def Usable (transfer : MeasurementTransfer) (payload : List UInt8) : Prop :=
  ∀ response pull, decodePullResponse payload = .ok response →
    transfer.session.activePull = some pull → response.Answers pull

variable {transfer : MeasurementTransfer} {payload : List UInt8}

/-- With a pull and a response only its checks are left. -/
theorem usable_iff {response : PullResponse} {pull : PullSamplesRequest}
    (decoded : decodePullResponse payload = .ok response)
    (stored : transfer.session.activePull = some pull) :
    transfer.Usable payload ↔ response.Answers pull := by
  refine ⟨fun usable => usable response pull decoded stored, ?_⟩
  intro answers found active again held
  cases decoded.symm.trans again
  cases stored.symm.trans held
  exact answers

theorem usable_of_error {error : MeasurementWireError}
    (failed : decodePullResponse payload = .error error) : transfer.Usable payload := by
  intro response pull decoded
  cases failed.symm.trans decoded

theorem acceptResponse_settles (sound : transfer.session.Sound)
    (awaiting : transfer.session.phase = .awaitingPull) (payload : List UInt8) :
    transfer.Settles (transfer.Usable payload) (transfer.acceptResponse payload) := by
  obtain ⟨pull, stored, -⟩ := sound.awaiting awaiting
  have active : transfer.session.requireActivePull = .ok pull := by
    rw [NodeSession.requireActivePull, if_neg (not_not.mpr awaiting), stored]
  have left := NodeSession.leavePull_settles awaiting .recoveryRequired
  unfold acceptResponse
  simp only
  split
  · rename_i failed
    have abandoned : transfer.session.abandonPullForRetry =
        (.ok (), { transfer.session with activePull := none, phase := .ready }) := by
      rw [NodeSession.abandonPullForRetry, NodeSession.leavePull, if_neg (not_not.mpr awaiting)]
    rw [abandoned]
    refine .accepted .notAccepted _ (usable_of_error failed) rfl fun _ => ?_
    rw [markAttemptUncertain, abandoned]
  · rename_i failed
    exact settle_settles transfer (left.of_iff (iff_true_intro (usable_of_error failed)))
      fun _ _ => ⟨rfl, rfl, by rintro ⟨⟩⟩
  · rename_i decoded
    obtain ⟨valid, -⟩ := layout_of_decodePullResponse decoded
    exact settle_settles transfer ((sound.acceptWireChunk_settles active valid).of_iff
      (usable_iff decoded stored)) fun _ _ => ⟨rfl, rfl, by rintro ⟨⟩⟩
  · rename_i decoded
    obtain ⟨valid, -⟩ := layout_of_decodePullResponse decoded
    exact settle_settles transfer ((sound.acceptNoData_settles active
      (contractCheck_eq_ok.mp valid)).of_iff (usable_iff decoded stored))
        fun _ _ => ⟨rfl, rfl, by rintro ⟨⟩⟩
  · rename_i decoded
    obtain ⟨valid, -⟩ := layout_of_decodePullResponse decoded
    exact settle_settles transfer ((sound.acceptRangeUnavailable_settles active
      (contractCheck_eq_ok.mp valid)).of_iff (usable_iff decoded stored))
        fun _ _ => ⟨rfl, rfl, by rintro ⟨⟩⟩
  · rename_i decoded
    exact settle_settles transfer ((sound.acceptGap_settles active _).of_iff
      (usable_iff decoded stored)) fun _ _ => ⟨rfl, rfl, by rintro ⟨⟩⟩
  · rename_i decoded
    exact settle_settles transfer ((sound.acceptContinuityBreak_settles active _).of_iff
      (usable_iff decoded stored)) fun _ _ => ⟨rfl, rfl, by rintro ⟨⟩⟩
  · rename_i decoded
    exact settle_settles transfer (left.of_iff (usable_iff decoded stored))
      fun _ _ => ⟨rfl, rfl, by rintro ⟨⟩⟩
  · rename_i decoded
    obtain ⟨valid, -⟩ := layout_of_decodePullResponse decoded
    exact settle_settles transfer ((sound.invalidRelease_settles active
      (contractCheck_eq_ok.mp valid)).of_iff (usable_iff decoded stored))
        fun _ _ => ⟨rfl, rfl, by rintro ⟨⟩⟩

end MeasurementTransfer
end SensorSystem.Host
