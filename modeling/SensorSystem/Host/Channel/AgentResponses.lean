import SensorSystem.Host.Channel.AgentTimeouts
import SensorSystem.Host.Channel.TransferResponses

/-! What a response leaves of the active work: it is over, it can be sent again, or it stays in a
phase from which nothing starts. The last happens exactly when the payload cannot be used, and
then the work keeps the channel for itself. -/

namespace SensorSystem.Host

open CommissioningOperation NodeSession PendingWork
open Base
open Framing (Frame hostAddress broadcastAddress)

namespace PendingWork

/-- A busy node is asked again, and an answer has to be about the request. The other
kinds of work are dropped or sent again whatever the payload is. -/
def Usable (payload : List UInt8) : PendingWork → Prop
  | lifecycle operation =>
    match decodeLifecycleResponse payload with
    | .ok result => result.operationId = operation.command.operationId
    | .error error => error = .remoteError .busy
  | configuration operation =>
    match operation.decodeResponse payload with
    | .ok outcome => operation.mismatched outcome = none
    | .error error => error = .remote .busy
  | commissioning operation =>
    match operation.request with
    | .probe expected => ∃ identity, decodeProbeSlotResponse payload = .ok identity ∧
        identity.roundNonce = expected.roundNonce
    | .assign expected =>
      match decodeAssignAddressResponse payload with
      | .ok assigned => assigned.operationId = expected.operationId ∧
          assigned.hardwareId = expected.hardwareId ∧ assigned.nodeAddress = expected.nodeAddress
      | .error error => error = .remote .busy
  | measurement transfer => transfer.Usable payload
  | handshake _ | streamState _ | timeSync _ | telemetry _ => True

/-- What the constructors of the kinds of work promise between calls. -/
def Formed : PendingWork → Prop
  | handshake value => value.phase = .needCapabilities → value.identity.isSome
  | measurement transfer => transfer.session.Sound
  | _ => True

variable {timeout : DurationMicros} {work told rest begun : PendingWork} {request : WireRequest}
  {payload : List UInt8}

theorem not_canStart_of_waits (waiting : work.waits = true) : ¬ CanStart timeout work := by
  rintro ⟨request, payload, begun, begins⟩
  rw [begins.attemptable] at waiting
  cases waiting

theorem not_canStart_of_phase {transfer : MeasurementTransfer}
    (phase : transfer.session.phase ≠ .ready) : ¬ CanStart timeout (.measurement transfer) := by
  rintro ⟨request, payload, begun, begins⟩
  obtain ⟨⟨spec, encoded, after⟩, done, -⟩ := map_eq_ok.mp begins.begins
  replace done := mapError_eq_ok.mp done
  rw [MeasurementTransfer.beginAttempt, beginPull, if_pos phase] at done
  cases done

theorem Formed.begins (formed : rest.Formed) (begins : Begins timeout rest request payload begun) :
    begun.Formed := by
  have done := begins.begins
  cases rest with
  | handshake value =>
    rw [beginAttempt] at done
    split at done <;> cases done <;> exact formed
  | streamState | telemetry | timeSync =>
    cases done
    trivial
  | lifecycle | configuration | commissioning =>
    obtain ⟨attempt, -, same⟩ := map_eq_ok.mp done
    cases same
    trivial
  | measurement transfer =>
    obtain ⟨⟨spec, encoded, after⟩, begun, same⟩ := map_eq_ok.mp done
    cases same
    replace done := mapError_eq_ok.mp begun
    have kept := (formed.transition (.beginPull transfer.maxSamples)).sound formed
    rw [MeasurementTransfer.beginAttempt] at done
    split at done
    · cases done
    rename_i pull session pulled
    cases done
    simp only [perform, answer, pulled] at kept
    exact kept

variable (formed : work.Formed)

include formed

theorem Formed.sent (now : MonotonicMicros) : (work.sent now).Formed := by
  cases work <;> exact formed

theorem Formed.markTimeout (marked : work.markTimeout = .ok told) : told.Formed := by
  cases work with
  | lifecycle | configuration | commissioning =>
    obtain ⟨operation, -, rfl⟩ := map_eq_ok.mp marked
    trivial
  | measurement transfer =>
    obtain ⟨after, done, rfl⟩ := map_eq_ok.mp marked
    replace done := mapError_eq_ok.mp done
    have kept := (formed.transition .abandonPullForRetry).sound formed
    rw [MeasurementTransfer.markAttemptUncertain] at done
    split at done
    · cases done
    rename_i session left
    cases done
    simp only [perform, answer, left] at kept
    exact kept
  | handshake | streamState | timeSync | telemetry =>
    cases marked
    exact formed

theorem Formed.markTransmitFailed (marked : work.markTransmitFailed = .ok told) : told.Formed := by
  cases work with
  | commissioning =>
    obtain ⟨operation, -, rfl⟩ := map_eq_ok.mp marked
    trivial
  | handshake | streamState | lifecycle | configuration | measurement | timeSync | telemetry =>
    exact formed.markTimeout marked

omit formed

end PendingWork

theorem LifecycleOperation.acceptResponse_of_error {operation : LifecycleOperation}
    {payload : List UInt8} {error : LifecycleWireError}
    (waiting : operation.phase = .awaitingResponse)
    (failed : decodeLifecycleResponse payload = .error error) (other : error ≠ .remoteError .busy) :
    operation.acceptResponse payload =
      (.error (.wire error), { operation with phase := .failed }) := by
  rw [acceptResponse, if_neg (not_not.mpr waiting)]
  split <;> rename_i found <;> cases failed.symm.trans found
  · exact absurd rfl other
  · rfl

variable {operation : ConfigurationOperation}

theorem ConfigurationOperation.acceptResponse_of_error {payload : List UInt8}
    {error : ConfigurationWireError} (waiting : operation.phase = .awaitingResponse)
    (failed : operation.decodeResponse payload = .error error) (other : error ≠ .remote .busy) :
    operation.acceptResponse payload =
      (.error (.wire error), { operation with phase := .failed }) := by
  rw [acceptResponse, if_neg (not_not.mpr waiting)]
  split <;> rename_i found <;> cases failed.symm.trans found
  · exact absurd rfl other
  · rfl

/-- Only its status says that a request was not accepted. -/
theorem ConfigurationOperation.decodeResponse_ne {payload : List UInt8}
    {outcome : ConfigurationOutcome} (decoded : operation.decodeResponse payload = .ok outcome) :
    outcome ≠ .notAccepted := by
  rw [decodeResponse] at decoded
  split at decoded
  all_goals
    obtain ⟨result, -, rfl⟩ := map_eq_ok.mp decoded
    nofun

theorem CommissioningOperation.acceptResponse_of_error {operation : CommissioningOperation}
    {payload : List UInt8} {expected : AssignAddressRequest} {error : CommissioningWireError}
    (waiting : operation.phase = .awaitingResponse) (assigns : operation.request = .assign expected)
    (failed : decodeAssignAddressResponse payload = .error error)
    (other : error ≠ .remote .busy) :
    operation.acceptResponse payload =
      (.error (.wire error), { operation with phase := .failed }) := by
  rw [acceptResponse, if_neg (not_not.mpr waiting), assigns]
  simp only
  split <;> rename_i found <;> cases failed.symm.trans found
  · exact absurd rfl other
  · rw [fail, assigns]

namespace NodeHandshake

variable {handshake after : NodeHandshake} {payload : List UInt8} {timeout : DurationMicros}

theorem acceptIdentity_eq_ok (done : handshake.acceptIdentity payload = .ok after) :
    ∃ identity, after =
      { handshake with identity := some identity, phase := .needCapabilities } := by
  obtain ⟨-, done⟩ := guard_eq_ok.mp done
  obtain ⟨identity, -, done⟩ := bind_eq_ok.mp done
  obtain ⟨-, done⟩ := guard_eq_ok.mp done
  obtain ⟨-, done⟩ := guard_eq_ok.mp done
  obtain ⟨-, done⟩ := guard_eq_ok.mp done
  cases done
  exact ⟨identity, rfl⟩

theorem acceptCapabilities_eq_ok (done : handshake.acceptCapabilities payload = .ok after) :
    ∃ capabilities,
      after = { handshake with capabilities := some capabilities, phase := .ready } := by
  obtain ⟨-, done⟩ := guard_eq_ok.mp done
  obtain ⟨capabilities, -, done⟩ := bind_eq_ok.mp done
  obtain ⟨-, done⟩ := guard_eq_ok.mp done
  obtain ⟨-, done⟩ := guard_eq_ok.mp done
  refine ⟨capabilities, ?_⟩
  split at done
  · obtain ⟨-, done⟩ := guard_eq_ok.mp done
    cases done
    rfl
  · cases done
    rfl

/-- Both requests of a handshake go to the same address. -/
theorem canStart_iff : (PendingWork.handshake handshake).CanStart timeout ↔
    handshake.phase ≠ .ready ∧ handshake.requirements.nodeAddress ≠ hostAddress ∧
      handshake.requirements.nodeAddress ≠ broadcastAddress := by
  constructor
  · rintro ⟨request, payload, begun, begins⟩
    have done := begins.begins
    have addressable := begins.addressable
    rw [PendingWork.beginAttempt] at done
    split at done
    · rename_i phase
      cases done
      exact ⟨by rw [phase]; rintro ⟨⟩, addressable⟩
    · rename_i phase
      cases done
      exact ⟨by rw [phase]; rintro ⟨⟩, addressable⟩
    · cases done
  · rintro ⟨unfinished, addressed⟩
    cases phase : handshake.phase with
    | needIdentity =>
      exact ⟨.addressed (identityRequest handshake.requirements.nodeAddress timeout), [],
        .handshake handshake, rfl, by simp only [PendingWork.beginAttempt, phase], addressed⟩
    | needCapabilities =>
      exact ⟨.addressed (capabilitiesRequest handshake.requirements.nodeAddress timeout), [],
        .handshake handshake, rfl, by simp only [PendingWork.beginAttempt, phase], addressed⟩
    | ready => exact absurd phase unfinished

end NodeHandshake

namespace ChannelAgent

open PendingWork (CanStart InFlight Formed Usable)

/-- The work is over or can be sent again exactly when the payload is good. -/
inductive Handled (timeout : DurationMicros) (good : Prop) (after : ChannelAgent) : Prop
  | ended (holds : good) (free : after.active = none)
  | again (holds : good) (last : ActiveWork) (held : after.active = some last)
      (canStart : last.work.CanStart timeout) (formed : last.work.Formed)
  | stuck (fails : ¬ good) (last : ActiveWork) (held : after.active = some last)
      (cannot : ¬ last.work.CanStart timeout)

variable {agent : ChannelAgent} {active : ActiveWork} {now : MonotonicMicros}
  {timeout : DurationMicros} {good : Prop} {result : Except ChannelAgentError ChannelEvent}
  {transfer : MeasurementTransfer}

theorem finish_handled (holds : good) : Handled timeout good (agent.finish result).2 :=
  .ended holds rfl

theorem keep_stuck {work : PendingWork} (fails : ¬ good) (cannot : ¬ work.CanStart timeout) :
    Handled timeout good (agent.keep active work result).2 :=
  .stuck fails { active with work } rfl cannot

theorem delay_handled {work : PendingWork} {event : ChannelEvent} (holds : good)
    (canStart : work.CanStart timeout) (formed : work.Formed) :
    Handled timeout good (agent.delay active work now event).2 := by
  unfold delay
  split
  · exact .again holds _ rfl canStart formed
  · exact .again holds _ rfl canStart formed

variable {payload : List UInt8}

theorem receiveLifecycle_handled {operation : LifecycleOperation}
    (inFlight : (PendingWork.lifecycle operation).InFlight timeout) :
    Handled timeout ((PendingWork.lifecycle operation).Usable payload)
      (agent.receiveLifecycle active now operation payload).2 := by
  obtain ⟨waiting, restarts⟩ := inFlight
  have failed : ¬ CanStart timeout (.lifecycle { operation with phase := .failed }) :=
    not_canStart_of_waits rfl
  cases decoded : decodeLifecycleResponse payload with
  | ok result =>
    simp only [receiveLifecycle, LifecycleOperation.acceptResponse, waiting, decoded, ne_eq,
      not_true_eq_false, if_false]
    by_cases same : result.operationId = operation.command.operationId
    · have holds : Usable payload (.lifecycle operation) := by
        simp only [Usable, decoded, same]
      by_cases progress : result.code = .inProgress
      · simp only [same, progress, not_true_eq_false, if_true, if_false]
        exact delay_handled holds (restarts _ rfl) trivial
      simp only [same, progress, not_true_eq_false, if_false]
      exact finish_handled holds
    · simp only [same, not_false_eq_true, if_true]
      refine keep_stuck ?_ failed
      simp only [Usable, decoded, same, not_false_eq_true]
  | error error =>
    by_cases busy : error = .remoteError .busy
    · subst busy
      simp only [receiveLifecycle, LifecycleOperation.acceptResponse, waiting, decoded, ne_eq,
        not_true_eq_false, if_false]
      exact delay_handled (by simp only [Usable, decoded]) (restarts _ rfl) trivial
    rw [receiveLifecycle, LifecycleOperation.acceptResponse_of_error waiting decoded busy]
    refine keep_stuck ?_ failed
    simp only [Usable, decoded, busy, not_false_eq_true]

theorem receiveConfiguration_handled
    (inFlight : (PendingWork.configuration operation).InFlight timeout) :
    Handled timeout ((PendingWork.configuration operation).Usable payload)
      (agent.receiveConfiguration active now operation payload).2 := by
  obtain ⟨waiting, restarts⟩ := inFlight
  have failed : ¬ CanStart timeout (.configuration { operation with phase := .failed }) :=
    not_canStart_of_waits rfl
  cases decoded : operation.decodeResponse payload with
  | ok outcome =>
    simp only [receiveConfiguration, ConfigurationOperation.acceptResponse, waiting, decoded,
      ne_eq, not_true_eq_false, if_false]
    cases mismatched : operation.mismatched outcome with
    | none =>
      have holds : Usable payload (.configuration operation) := by
        simp only [Usable, decoded, mismatched]
      cases outcome with
      | notAccepted => exact absurd rfl (ConfigurationOperation.decodeResponse_ne decoded)
      | observed | validated | applied => exact finish_handled holds
    | some received =>
      refine keep_stuck ?_ failed
      simp only [Usable, decoded, mismatched, reduceCtorEq, not_false_eq_true]
  | error error =>
    by_cases busy : error = .remote .busy
    · subst busy
      simp only [receiveConfiguration, ConfigurationOperation.acceptResponse, waiting, decoded,
        ne_eq, not_true_eq_false, if_false]
      refine delay_handled (by simp only [Usable, decoded]) (restarts _ ?_) trivial
      split <;> rfl
    rw [receiveConfiguration, ConfigurationOperation.acceptResponse_of_error waiting decoded busy]
    refine keep_stuck ?_ failed
    simp only [Usable, decoded, busy, not_false_eq_true]

theorem receiveCommissioning_handled {operation : CommissioningOperation}
    (inFlight : (PendingWork.commissioning operation).InFlight timeout) :
    Handled timeout ((PendingWork.commissioning operation).Usable payload)
      (agent.receiveCommissioning active now operation payload).2 := by
  obtain ⟨request, phase⟩ := operation
  obtain ⟨rfl : phase = .awaitingResponse, restarts⟩ := inFlight
  have failed : ¬ CanStart timeout (.commissioning ⟨request, .failed⟩) :=
    not_canStart_of_waits rfl
  cases request with
  | probe expected =>
    cases decoded : decodeProbeSlotResponse payload with
    | ok identity =>
      simp only [receiveCommissioning, CommissioningOperation.acceptResponse, decoded, ne_eq,
        not_true_eq_false, if_false]
      by_cases same : identity.roundNonce = expected.roundNonce
      · simp only [same, not_true_eq_false, if_false]
        exact finish_handled ⟨identity, decoded, same⟩
      simp only [same, not_false_eq_true, if_true, fail]
      refine keep_stuck ?_ failed
      rintro ⟨found, again, nonce⟩
      cases decoded.symm.trans again
      exact same nonce
    | error error =>
      simp only [receiveCommissioning, CommissioningOperation.acceptResponse, decoded, ne_eq,
        not_true_eq_false, if_false]
      refine keep_stuck ?_ (not_canStart_of_waits rfl)
      rintro ⟨found, again, nonce⟩
      cases decoded.symm.trans again
  | assign expected =>
    cases decoded : decodeAssignAddressResponse payload with
    | ok assigned =>
      have usable : Usable payload (.commissioning ⟨.assign expected, .awaitingResponse⟩) ↔
          assigned.operationId = expected.operationId ∧ assigned.hardwareId = expected.hardwareId ∧
            assigned.nodeAddress = expected.nodeAddress := by
        simp only [Usable, decoded]
      rw [usable]
      simp only [receiveCommissioning, CommissioningOperation.acceptResponse, decoded, ne_eq,
        not_true_eq_false, if_false]
      by_cases same : assigned.operationId = expected.operationId
      · by_cases whole : assigned.hardwareId = expected.hardwareId ∧
            assigned.nodeAddress = expected.nodeAddress
        · simp only [same, whole, not_true_eq_false, or_self, if_false]
          exact finish_handled ⟨trivial, trivial, trivial⟩
        rw [not_and_or] at whole
        simp only [same, whole, not_true_eq_false, if_true, if_false, fail]
        exact keep_stuck (fun both => not_and_or.mpr whole both.2) failed
      · simp only [same, not_false_eq_true, if_true, fail]
        exact keep_stuck (fun both => both.1) failed
    | error error =>
      by_cases busy : error = .remote .busy
      · subst busy
        simp only [receiveCommissioning, CommissioningOperation.acceptResponse, decoded, ne_eq,
          not_true_eq_false, if_false]
        refine delay_handled ?_ (restarts _ rfl) trivial
        simp only [Usable, decoded]
      rw [receiveCommissioning,
        CommissioningOperation.acceptResponse_of_error rfl rfl decoded busy]
      refine keep_stuck ?_ failed
      simp only [Usable, decoded, busy, not_false_eq_true]

/-- A refused handshake response is asked for again. -/
theorem receiveHandshake_handled {handshake : NodeHandshake}
    (held : agent.active = some active) (same : active.work = .handshake handshake)
    (inFlight : (PendingWork.handshake handshake).InFlight timeout)
    (formed : (PendingWork.handshake handshake).Formed) :
    Handled timeout True (agent.receiveHandshake active now handshake payload).2 := by
  have unchanged : Handled timeout True agent :=
    .again trivial active held (same ▸ inFlight) (same ▸ formed)
  obtain ⟨unfinished, addressed⟩ := NodeHandshake.canStart_iff.mp inFlight
  cases phase : handshake.phase with
  | needIdentity =>
    cases accepted : handshake.acceptIdentity payload with
    | error error =>
      simp only [receiveHandshake, phase, accepted, Except.mapError]
      exact unchanged
    | ok after =>
      obtain ⟨identity, rfl⟩ := NodeHandshake.acceptIdentity_eq_ok accepted
      simp only [receiveHandshake, phase, accepted, Except.mapError, reduceCtorEq, if_false]
      exact .again trivial _ rfl (NodeHandshake.canStart_iff.mpr ⟨nofun, addressed⟩) fun _ => rfl
  | needCapabilities =>
    cases accepted : handshake.acceptCapabilities payload with
    | error error =>
      simp only [receiveHandshake, phase, accepted, Except.mapError]
      exact unchanged
    | ok after =>
      obtain ⟨capabilities, rfl⟩ := NodeHandshake.acceptCapabilities_eq_ok accepted
      obtain ⟨identity, known⟩ := Option.isSome_iff_exists.mp (formed phase)
      simp only [receiveHandshake, phase, accepted, Except.mapError, known, if_true]
      exact finish_handled trivial
  | ready => exact absurd phase unfinished

theorem receiveStreamState_handled {nodeAddress : UInt8}
    (same : active.work = .streamState nodeAddress)
    (inFlight : (PendingWork.streamState nodeAddress).InFlight timeout) :
    Handled timeout True (agent.receiveStreamState active now nodeAddress payload).2 := by
  unfold receiveStreamState
  split
  · exact finish_handled trivial
  · exact delay_handled trivial (same ▸ inFlight) (same ▸ trivial)
  · exact finish_handled trivial

variable (inFlight : (PendingWork.measurement transfer).InFlight timeout)

include inFlight

theorem awaiting_of_inFlight : transfer.session.phase = .awaitingPull := by
  obtain ⟨told, uncertain, -⟩ := inFlight
  by_contra other
  rw [MeasurementTransfer.markAttemptUncertain, abandonPullForRetry,
    leavePull, if_pos other] at uncertain
  cases uncertain

theorem receiveMeasurement_handled {payload : List UInt8}
    (formed : (PendingWork.measurement transfer).Formed) : Handled timeout (transfer.Usable payload)
      (agent.receiveMeasurement active now transfer payload).2 := by
  have settles := MeasurementTransfer.acceptResponse_settles formed
    (awaiting_of_inFlight inFlight) payload
  unfold receiveMeasurement
  split
  · rename_i error after accepted
    rw [accepted] at settles
    cases settles with
    | refused _ _ fails ends => exact keep_stuck fails (not_canStart_of_phase ends)
  · rename_i after accepted
    rw [accepted] at settles
    cases settles with
    | accepted _ _ holds ends again =>
      obtain ⟨told, uncertain, canStart⟩ := inFlight
      rw [show told = after from Except.ok.inj (uncertain.symm.trans (again rfl))] at canStart
      have marked : (PendingWork.measurement transfer).markTimeout = .ok (.measurement after) := by
        rw [PendingWork.markTimeout, again rfl]
        rfl
      cases (scheduleRetry_returns agent { active with work := .measurement after } now
          (.measurementNotAccepted after.nodeAddress)).placed with
      | active last held same =>
        exact .again holds last held (same ▸ canStart) (same ▸ formed.markTimeout marked)
      | ended free | handedOff _ free => exact .ended holds free
  · rename_i outcome after other accepted
    rw [accepted] at settles
    cases settles with
    | accepted _ _ holds ends again =>
      have handed : (agent.handoff after).2.active = none := by
        unfold handoff
        split <;> rfl
      split <;> rename_i left <;> rw [left] at handed <;> exact .ended holds handed

omit inFlight

/-- What an accepted response leaves of work in flight. -/
theorem acceptResponse_handled (agent : ChannelAgent) (now : MonotonicMicros)
    (payload : List UInt8) (held : agent.active = some active)
      (inFlight : active.work.InFlight timeout) (formed : active.work.Formed) :
    Handled timeout (active.work.Usable payload) (agent.acceptResponse now payload).2 := by
  simp only [acceptResponse, held]
  cases kind : active.work with
  | handshake handshake =>
    rw [kind] at inFlight formed
    exact receiveHandshake_handled held kind inFlight formed
  | streamState nodeAddress =>
    rw [kind] at inFlight
    exact receiveStreamState_handled kind inFlight
  | lifecycle operation =>
    rw [kind] at inFlight
    exact receiveLifecycle_handled inFlight
  | configuration operation =>
    rw [kind] at inFlight
    exact receiveConfiguration_handled inFlight
  | commissioning operation =>
    rw [kind] at inFlight
    exact receiveCommissioning_handled inFlight
  | measurement transfer =>
    rw [kind] at inFlight formed
    exact receiveMeasurement_handled inFlight formed
  | timeSync attempt => exact finish_handled trivial
  | telemetry nodeAddress => exact finish_handled trivial

end ChannelAgent
end SensorSystem.Host
