import SensorSystem.Host.Channel.ChannelAgent
import SensorSystem.Host.Channel.TransactionRuns

/-! Work at rest begins an attempt, and work in flight is told when the attempt fails or times
out. Being told brings it back to rest, whatever kind of work it is, so that the request it sent
can be sent again. -/

namespace SensorSystem.Host

open List Base
open Framing (Frame hostAddress broadcastAddress maxPayloadBytes)

theorem length_of_encodeLifecycleRequest {command : RuntimeCommand}
    {encoded : EncodedRuntimeCommand} (done : encodeLifecycleRequest command = .ok encoded) :
    encoded.payload.length ≤ 5 := by
  obtain ⟨-, done⟩ := guard_eq_ok.mp done
  cases done
  rw [length_append, length_u32Bytes]
  split
  · exact Nat.le_refl _
  · exact Nat.le_succ _

theorem length_of_encodeConfiguration {value : MeasurementConfiguration} {payload : List UInt8}
    (done : encodeConfiguration value = .ok payload) : payload.length = 12 := by
  obtain ⟨checked, -, done⟩ := bind_eq_ok.mp done
  cases done
  simp only [i16Bytes, length_append, length_cons, length_nil, length_u16Bytes]

theorem ConfigurationRequest.length_of_payload {request : ConfigurationRequest}
    {payload : List UInt8} (done : request.payload = .ok payload) : payload.length ≤ 20 := by
  cases request with
  | get =>
    cases done
    exact Nat.zero_le _
  | validate configuration =>
    rw [length_of_encodeConfiguration done]
    decide
  | apply request =>
    obtain ⟨-, done⟩ := check_eq_ok.mp done
    obtain ⟨encoded, encodes, done⟩ := bind_eq_ok.mp done
    cases done
    simp only [length_append, length_u32Bytes, length_of_encodeConfiguration encodes]
    decide
  | reset operationId expectedRevision =>
    obtain ⟨-, done⟩ := check_eq_ok.mp done
    cases done
    simp only [length_append, length_u32Bytes]
    decide

theorem CommissioningRequest.length_of_payload {request : CommissioningRequest}
    {payload : List UInt8} (done : request.payload = .ok payload) : payload.length ≤ 21 := by
  cases request with
  | probe request =>
    obtain ⟨checked, -, done⟩ := bind_eq_ok.mp done
    cases done
    simp only [length_append, length_u64Bytes, length_u16Bytes]
    decide
  | assign request =>
    obtain ⟨-, done⟩ := check_eq_ok.mp done
    cases done
    simp only [length_append, length_u32Bytes, length_u64Bytes, Vector.length_toList,
      length_singleton]
    decide

theorem length_encodePullRequest (request : PullSamplesRequest) :
    (encodePullRequest request).length = pullRequestBytes := by
  simp [encodePullRequest, overwrite, pullRequestBytes]

variable {attempt : OperationAttempt RequestSpec} {core : TransactionCore}
  {prepared : PreparedTransaction}

variable {timeout : DurationMicros}

/-- An attempt is the same from every phase in which it may begin. -/
theorem LifecycleOperation.repeats {operation after : LifecycleOperation}
    (done : operation.beginAttempt timeout = .ok (attempt, after)) :
    attempt.payload.length ≤ maxPayloadBytes ∧ after.phase = .awaitingResponse ∧
      ∀ phase : OperationPhase, phase.attemptable →
        { after with phase }.beginAttempt timeout = .ok (attempt, after) := by
  obtain ⟨-, done⟩ := guard_eq_ok.mp done
  obtain ⟨encoded, encodes, done⟩ := bind_eq_ok.mp done
  cases done
  refine ⟨?_, rfl, ?_⟩
  · exact (length_of_encodeLifecycleRequest (mapError_eq_ok.mp encodes)).trans (by decide)
  · intro phase attemptable
    exact guard_eq_ok.mpr ⟨not_not.mpr attemptable, bind_eq_ok.mpr ⟨encoded, encodes, rfl⟩⟩

theorem ConfigurationOperation.repeats {operation after : ConfigurationOperation}
    (done : operation.beginAttempt timeout = .ok (attempt, after)) :
    attempt.payload.length ≤ maxPayloadBytes ∧ after.phase = .awaitingResponse ∧
      ∀ phase : OperationPhase, phase.attemptable →
        { after with phase }.beginAttempt timeout = .ok (attempt, after) := by
  obtain ⟨-, done⟩ := guard_eq_ok.mp done
  obtain ⟨encoded, encodes, done⟩ := bind_eq_ok.mp done
  cases done
  refine ⟨?_, rfl, ?_⟩
  · exact (ConfigurationRequest.length_of_payload (mapError_eq_ok.mp encodes)).trans (by decide)
  · intro phase attemptable
    exact guard_eq_ok.mpr ⟨not_not.mpr attemptable, bind_eq_ok.mpr ⟨encoded, encodes, rfl⟩⟩

theorem CommissioningOperation.repeats {operation after : CommissioningOperation}
    {attempt : OperationAttempt RoutedRequestSpec}
    (done : operation.beginAttempt timeout = .ok (attempt, after)) :
    attempt.payload.length ≤ maxPayloadBytes ∧ after.phase = .awaitingResponse ∧
      ∀ phase : OperationPhase, phase.attemptable →
        { after with phase }.beginAttempt timeout = .ok (attempt, after) := by
  obtain ⟨-, done⟩ := guard_eq_ok.mp done
  obtain ⟨encoded, encodes, done⟩ := bind_eq_ok.mp done
  cases done
  refine ⟨?_, rfl, ?_⟩
  · exact (CommissioningRequest.length_of_payload (mapError_eq_ok.mp encodes)).trans (by decide)
  · intro phase attemptable
    exact guard_eq_ok.mpr ⟨not_not.mpr attemptable, bind_eq_ok.mpr ⟨encoded, encodes, rfl⟩⟩

/-- A pull that is abandoned can be asked for again. -/
theorem MeasurementTransfer.repeats {transfer after : MeasurementTransfer} {request : RequestSpec}
    {payload : List UInt8}
    (done : transfer.beginAttempt timeout = .ok (request, payload, after)) :
    payload.length ≤ maxPayloadBytes ∧ ∃ told, after.markAttemptUncertain = .ok told ∧
      told.beginAttempt timeout = .ok (request, payload, after) := by
  rw [beginAttempt] at done
  split at done
  · cases done
  rename_i pull session begins
  cases done
  rw [NodeSession.beginPull] at begins
  split at begins
  · cases begins
  split at begins
  · cases begins
  rename_i built
  cases begins
  refine ⟨?_, _, rfl, ?_⟩
  · rw [length_encodePullRequest]
    decide
  · rw [beginAttempt, NodeSession.beginPull]
    simp only [ne_eq, not_true_eq_false, if_false, built]

/-- The routes that the transaction core takes. -/
def WireRequest.Addressable : WireRequest → Prop
  | addressed request =>
    request.nodeAddress ≠ hostAddress ∧ request.nodeAddress ≠ broadcastAddress
  | routed request =>
    request.requestDestination ≠ hostAddress ∧ request.responseSource ≠ hostAddress ∧
      request.responseSource ≠ broadcastAddress

namespace PendingWork

variable {work rest begun : PendingWork} {request : WireRequest}
  {payload : List UInt8}

/-- An attempt begins with a request that can be sent. -/
structure Begins (timeout : DurationMicros) (rest : PendingWork) (request : WireRequest)
    (payload : List UInt8) (begun : PendingWork) : Prop where
  attemptable : rest.waits = false
  begins : rest.beginAttempt timeout = .ok ((request, payload), begun)
  addressable : request.Addressable

/-- A poll that may start an attempt of the work does. -/
def CanStart (timeout : DurationMicros) (rest : PendingWork) : Prop :=
  ∃ request payload begun, Begins timeout rest request payload begun

/-- The request of the work is on its way. What follows a response, a timeout or a
failed transmission can start again. -/
def InFlight (timeout : DurationMicros) : PendingWork → Prop
  | lifecycle operation => operation.phase = .awaitingResponse ∧
      ∀ phase : OperationPhase, phase.attemptable →
        CanStart timeout (.lifecycle { operation with phase })
  | configuration operation => operation.phase = .awaitingResponse ∧
      ∀ phase : OperationPhase, phase.attemptable →
        CanStart timeout (.configuration { operation with phase })
  | commissioning operation => operation.phase = .awaitingResponse ∧
      ∀ phase : OperationPhase, phase.attemptable →
        CanStart timeout (.commissioning { operation with phase })
  | measurement transfer => ∃ told, transfer.markAttemptUncertain = .ok told ∧
      CanStart timeout (.measurement told)
  | work => CanStart timeout work

theorem length_of_beginAttempt
    (done : work.beginAttempt timeout = .ok ((request, payload), begun)) :
    payload.length ≤ maxPayloadBytes := by
  cases work with
  | handshake value =>
    rw [beginAttempt] at done
    split at done <;> cases done <;> exact Nat.zero_le _
  | streamState | timeSync | telemetry =>
    cases done
    exact Nat.zero_le _
  | lifecycle operation =>
    obtain ⟨⟨attempt, after⟩, begins, same⟩ := map_eq_ok.mp done
    cases same
    exact (LifecycleOperation.repeats (mapError_eq_ok.mp begins)).1
  | configuration operation =>
    obtain ⟨⟨attempt, after⟩, begins, same⟩ := map_eq_ok.mp done
    cases same
    exact (ConfigurationOperation.repeats (mapError_eq_ok.mp begins)).1
  | commissioning operation =>
    obtain ⟨⟨attempt, after⟩, begins, same⟩ := map_eq_ok.mp done
    cases same
    exact (CommissioningOperation.repeats (mapError_eq_ok.mp begins)).1
  | measurement transfer =>
    obtain ⟨⟨spec, encoded, after⟩, begins, same⟩ := map_eq_ok.mp done
    cases same
    exact (MeasurementTransfer.repeats (mapError_eq_ok.mp begins)).1

theorem Begins.inFlight (begins : Begins timeout rest request payload begun) :
    InFlight timeout begun := by
  have again {told : PendingWork} (waits : told.waits = false)
      (done : told.beginAttempt timeout = .ok ((request, payload), begun)) :
      CanStart timeout told := ⟨request, payload, begun, waits, done, begins.addressable⟩
  cases rest with
  | handshake value =>
    have unchanged : begun = .handshake value := by
      have done := begins.begins
      rw [beginAttempt] at done
      split at done <;> cases done <;> rfl
    subst unchanged
    exact ⟨_, _, _, begins⟩
  | streamState | telemetry =>
    cases begins.begins
    exact ⟨_, _, _, begins⟩
  | timeSync attempt =>
    cases begins.begins
    exact again rfl rfl
  | lifecycle operation =>
    obtain ⟨⟨attempt, after⟩, done, equal⟩ := map_eq_ok.mp begins.begins
    cases equal
    obtain ⟨-, waiting, repeats⟩ := LifecycleOperation.repeats (mapError_eq_ok.mp done)
    refine ⟨waiting, fun phase attemptable => again ?_ ?_⟩
    · simp only [waits, attemptable, Bool.not_true]
    · rw [beginAttempt, repeats phase attemptable]
      rfl
  | configuration operation =>
    obtain ⟨⟨attempt, after⟩, done, equal⟩ := map_eq_ok.mp begins.begins
    cases equal
    obtain ⟨-, waiting, repeats⟩ := ConfigurationOperation.repeats (mapError_eq_ok.mp done)
    refine ⟨waiting, fun phase attemptable => again ?_ ?_⟩
    · simp only [waits, attemptable, Bool.not_true]
    · rw [beginAttempt, repeats phase attemptable]
      rfl
  | commissioning operation =>
    obtain ⟨⟨attempt, after⟩, done, equal⟩ := map_eq_ok.mp begins.begins
    cases equal
    obtain ⟨-, waiting, repeats⟩ := CommissioningOperation.repeats (mapError_eq_ok.mp done)
    refine ⟨waiting, fun phase attemptable => again ?_ ?_⟩
    · simp only [waits, attemptable, Bool.not_true]
    · rw [beginAttempt, repeats phase attemptable]
      rfl
  | measurement transfer =>
    obtain ⟨⟨spec, encoded, after⟩, done, equal⟩ := map_eq_ok.mp begins.begins
    cases equal
    obtain ⟨-, told, uncertain, repeats⟩ := MeasurementTransfer.repeats (mapError_eq_ok.mp done)
    refine ⟨told, uncertain, again rfl ?_⟩
    rw [beginAttempt, repeats]
    rfl

theorem InFlight.sent (inFlight : InFlight timeout work) (now : MonotonicMicros) :
    InFlight timeout (work.sent now) := by
  cases work with
  | timeSync attempt =>
    obtain ⟨request, payload, begun, begins⟩ := inFlight
    cases begins.begins
    exact ⟨_, _, _, rfl, rfl, begins.addressable⟩
  | _ => exact inFlight

/-- A timeout brings the work back to rest. -/
theorem InFlight.markTimeout (inFlight : InFlight timeout work) :
    ∃ told, work.markTimeout = .ok told ∧ told.isProbe = work.isProbe ∧
      (work.isProbe = false → CanStart timeout told) := by
  cases work with
  | lifecycle operation =>
    obtain ⟨waiting, restarts⟩ := inFlight
    refine ⟨.lifecycle { operation with phase := .reconcileRequired }, ?_, rfl,
      fun _ => restarts _ rfl⟩
    simp only [PendingWork.markTimeout, LifecycleOperation.markTimeout, waiting]
    rfl
  | configuration operation =>
    obtain ⟨waiting, restarts⟩ := inFlight
    refine ⟨.configuration { operation with phase := .reconcileRequired }, ?_, rfl,
      fun _ => restarts _ rfl⟩
    simp only [PendingWork.markTimeout, ConfigurationOperation.markTimeout, waiting]
    rfl
  | commissioning operation =>
    obtain ⟨waiting, restarts⟩ := inFlight
    cases kind : operation.request with
    | probe request =>
      refine ⟨.commissioning { operation with phase := .complete }, ?_, ?_, ?_⟩
      · simp only [PendingWork.markTimeout, CommissioningOperation.markTimeout, waiting, kind]
        rfl
      · simp only [isProbe, kind]
      · simp only [isProbe, kind, Bool.true_eq_false, false_implies]
    | assign request =>
      refine ⟨.commissioning { operation with phase := .reconcileRequired }, ?_, ?_,
        fun _ => restarts _ rfl⟩
      · simp only [PendingWork.markTimeout, CommissioningOperation.markTimeout, waiting, kind]
        rfl
      · simp only [isProbe, kind]
  | measurement transfer =>
    obtain ⟨told, uncertain, restarts⟩ := inFlight
    refine ⟨.measurement told, ?_, rfl, fun _ => restarts⟩
    rw [PendingWork.markTimeout, uncertain]
    rfl
  | handshake | streamState | timeSync | telemetry => exact ⟨_, rfl, rfl, fun _ => inFlight⟩

/-- A failed transmission brings every kind of work back to rest. -/
theorem InFlight.markTransmitFailed (inFlight : InFlight timeout work) :
    ∃ told, work.markTransmitFailed = .ok told ∧ CanStart timeout told := by
  cases work with
  | commissioning operation =>
    obtain ⟨waiting, restarts⟩ := inFlight
    cases kind : operation.request with
    | probe request =>
      refine ⟨.commissioning { operation with phase := .readyToSend }, ?_, restarts _ rfl⟩
      simp only [PendingWork.markTransmitFailed, CommissioningOperation.markTransmitFailed,
        waiting, kind]
      rfl
    | assign request =>
      refine ⟨.commissioning { operation with phase := .reconcileRequired }, ?_, restarts _ rfl⟩
      simp only [PendingWork.markTransmitFailed, CommissioningOperation.markTransmitFailed,
        waiting, kind]
      rfl
  | handshake | streamState | lifecycle | configuration | measurement | timeSync | telemetry =>
    obtain ⟨told, marked, -, restarts⟩ := inFlight.markTimeout
    exact ⟨told, marked, restarts rfl⟩

end PendingWork

/-- An idle core prepares what can be addressed. -/
theorem TransactionCore.prepareWire_eq_ok {request : WireRequest} (idle : core.state = .idle)
    (addressable : request.Addressable) :
    ∃ prepared after, core.prepareWire request = .ok (prepared, after) ∧
      prepared.requestDestination ≠ hostAddress ∧ core.Prepares prepared after := by
  cases request with
  | addressed request =>
    have prepares : core.prepare request = .ok _ :=
      guard_eq_ok.mpr ⟨not_not.mpr idle, guard_eq_ok.mpr
        ⟨not_or.mpr ⟨addressable.1, addressable.2⟩, rfl⟩⟩
    exact ⟨_, _, prepares, addressable.1, prepares_of_prepare prepares⟩
  | routed request =>
    have prepares : core.prepareRouted request = .ok _ :=
      guard_eq_ok.mpr ⟨not_not.mpr idle, guard_eq_ok.mpr
        ⟨not_or.mpr ⟨addressable.1, not_or.mpr addressable.2⟩, rfl⟩⟩
    exact ⟨_, _, prepares, addressable.1, prepares_of_prepareRouted prepares⟩

theorem TransactionCore.addressable_of_prepareWire {after : TransactionCore}
    {request : WireRequest} (done : core.prepareWire request = .ok (prepared, after)) :
    request.Addressable ∧ core.state = .idle := by
  cases request with
  | addressed request =>
    obtain ⟨idle, done⟩ := guard_eq_ok.mp done
    obtain ⟨addressable, -⟩ := guard_eq_ok.mp done
    exact ⟨not_or.mp addressable, not_not.mp idle⟩
  | routed request =>
    obtain ⟨idle, done⟩ := guard_eq_ok.mp done
    obtain ⟨addressable, -⟩ := guard_eq_ok.mp done
    rw [not_or, not_or] at addressable
    exact ⟨addressable, not_not.mp idle⟩

theorem PreparedTransaction.requestFrame_eq_ok {payload : List UInt8}
    (addressed : prepared.requestDestination ≠ hostAddress)
    (fits : payload.length ≤ maxPayloadBytes) :
    ∃ frame, prepared.requestFrame payload = .ok frame := by
  have valid : Framing.validRoute .request prepared.requestDestination hostAddress = true := by
    simpa only [Framing.validRoute, beq_self_eq_true, Bool.true_and, bne_iff_ne] using addressed
  rw [requestFrame, Frame.new, Framing.validateRoute, if_pos valid, ok_bind, dif_pos fits]
  exact ⟨_, rfl⟩

end SensorSystem.Host
