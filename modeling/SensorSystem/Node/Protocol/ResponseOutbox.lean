import SensorSystem.Node.Protocol.Dispatcher
import SensorSystem.Node.Protocol.NodeRuns

/-! `response_outbox.h`: the bounded queue of response frames. Accepting a request dispatches it
and settles its delivery in one operation, so that no delivery is left open when the operation
returns. -/

namespace SensorSystem.Node

open Base DeliverySession List
open Framing Wire

inductive RequestAcceptanceStatus where
  | queued
  | ignored
  | queueFull
  | invalidResponse
  | completionRejected
deriving DecidableEq

structure QueuedResponse where
  frame : Frame := {}
  transmission : TransmissionCompletion := {}

/-- The slots with head and size; `tail_` is the slot behind the last response. -/
abbrev ResponseOutbox (capacity : Nat) := Ring QueuedResponse capacity

namespace ResponseOutbox

variable {capacity : Nat} {limits : DeliveryLimits} {σ : Type}

def acceptRequestAt (outbox : ResponseOutbox capacity)
    (dispatcher : ApplicationDispatcher limits σ) (request : Frame) (nodeReceiveUs : UInt64) :
    RequestAcceptanceStatus × ResponseOutbox capacity × ApplicationDispatcher limits σ :=
  if outbox.size = capacity then (.queueFull, outbox, dispatcher)
  else
    let (dispatched, response, dispatcher) := dispatcher.dispatchAt request nodeReceiveUs
    if !dispatched.responseProduced then (.ignored, outbox, dispatcher)
    else if validate response ≠ .ok then
      let dispatcher := if dispatched.completion.required then
        (dispatcher.settleResponse dispatched.completion false).2 else dispatcher
      let dispatcher := if dispatched.transmission.required then
        (dispatcher.settleTransmission dispatched.transmission false).2 else dispatcher
      (.invalidResponse, outbox, dispatcher)
    else
      let (status, dispatcher) := if dispatched.completion.required then
        dispatcher.settleResponse dispatched.completion true else (.ok, dispatcher)
      if status ≠ .ok then (.completionRejected, outbox, dispatcher)
      else (.queued, outbox.push ⟨response, dispatched.transmission⟩, dispatcher)

def pop (outbox : ResponseOutbox capacity) : ResponseOutbox capacity :=
  if outbox.size = 0 then outbox else outbox.advance 1

end ResponseOutbox

namespace DeliverySession

variable {limits : DeliveryLimits} {session : DeliverySession limits} {log : List Entry}

/-- A piece of the stream is prepared under a token. -/
structure Holds (session : DeliverySession limits) (token : UInt64) : Prop where
  held : session.preparedToken = token
  live : token ≠ 0
  valid : session.journal.preparedValid = true
  through : session.journal.preparedThrough = session.preparedEnd

variable {token : UInt64} {before : DeliverySession limits}

theorem Holds.complete (holds : session.Holds token) :
    (session.complete token).1 = .ok ∧ (session.complete token).2.preparedToken = 0 ∧
      (session.complete token).2.journal.delivered =
        max session.journal.delivered session.preparedEnd := by
  have outcome : session.journal.markDelivered session.preparedEnd =
      (.ok, (if session.preparedEnd > session.journal.delivered then
        { session.journal with delivered := session.preparedEnd }
        else session.journal).invalidatePreparedView) := by
    rw [MeasurementJournal.markDelivered, if_neg (by simp [holds.valid, holds.through])]
  have busy : session.preparedToken ≠ 0 := holds.held ▸ holds.live
  rw [DeliverySession.complete, if_neg busy, if_neg (not_not.mpr holds.held.symm), outcome]
  refine ⟨rfl, rfl, ?_⟩
  change (MeasurementJournal.invalidatePreparedView _).delivered = _
  split
  · rename_i ahead
    exact (Nat.max_eq_right (Nat.le_of_lt ahead)).symm
  rename_i behind
  exact (Nat.max_eq_left (Nat.le_of_not_lt behind)).symm

theorem Holds.abort (holds : session.Holds token) : (session.abort token).2.preparedToken = 0 ∧
      (session.abort token).2.journal.delivered = session.journal.delivered := by
  have busy : session.preparedToken ≠ 0 := holds.held ▸ holds.live
  rw [DeliverySession.abort, if_neg busy, if_neg (not_not.mpr holds.held.symm)]
  exact ⟨rfl, rfl⟩

/-- Nothing is prepared, or the piece that the response carries. -/
def Answered (before : DeliverySession limits) (result : MeasurementHandlerResult)
    (after : DeliverySession limits) : Prop :=
  after.journal.delivered = before.journal.delivered ∧
    ((result.completionRequired = false ∧ after.preparedToken = 0) ∨
      (result.completionRequired = true ∧ after.Holds result.deliveryToken))

theorem respondError_answered (status : ResponseStatus) (output : List UInt8)
    (idle : session.preparedToken = 0)
    (delivered : session.journal.delivered = before.journal.delivered) :
    before.Answered (session.respondError status output).1
      (session.respondError status output).2.2 := by
  rw [respondError]
  split
  · exact ⟨delivered, .inl ⟨rfl, idle⟩⟩
  · exact ⟨delivered, .inl ⟨rfl, idle⟩⟩

theorem respond_answered (encoded : Encoded) (idle : session.preparedToken = 0)
    (delivered : session.journal.delivered = before.journal.delivered) :
    before.Answered (session.respond encoded).1 (session.respond encoded).2.2 := by
  unfold respond
  split
  · exact ⟨delivered, .inl ⟨rfl, idle⟩⟩
  · exact respondError_answered _ _ idle delivered

theorem respondPrepared_answered (encoded : Encoded) (holds : session.Holds token)
    (delivered : session.journal.delivered = before.journal.delivered) :
    before.Answered (session.respondPrepared token encoded).1
      (session.respondPrepared token encoded).2.2 := by
  unfold respondPrepared
  split
  · exact ⟨delivered, .inr ⟨rfl, holds⟩⟩
  · exact respondError_answered _ _ holds.abort.1 (holds.abort.2.trans delivered)

/-- A pull of an idle session prepares a piece, or nothing. -/
theorem answerPlan_answered (serves : Serves session log) (idle : session.preparedToken = 0)
    (command : PullCommand) (output : List UInt8) :
    let planned := session.preparePull command
    session.Answered (planned.2.answerPlan planned.1 output).1
      (planned.2.answerPlan planned.1 output).2.2 := by
  have outcome := serves.represents.planned command
  dsimp only
  generalize (session.preparePull command).1 = plan at outcome ⊢
  generalize (session.preparePull command).2 = after at outcome ⊢
  rw [answerPlan]
  cases outcome with
  | declined decision =>
    rcases decision with ⟨-, busy⟩ | ⟨decision, -⟩ | ⟨decision, -⟩
    · exact absurd idle busy
    · rw [decision]
      exact respondError_answered _ _ idle rfl
    · rw [decision]
      exact respondError_answered _ _ idle rfl
  | streamChanged decision =>
    rw [decision]
    exact respond_answered _ idle rfl
  | invalidRelease decision _ _ _ _ _ kept =>
    rw [decision]
    rcases kept with rfl | rfl
    · exact respond_answered _ idle rfl
    · exact respond_answered _ idle rfl
  | unanswered _ released decision =>
    rcases decision with ⟨decision, -⟩ | ⟨decision, -⟩
    · rw [decision]
      exact respondError_answered _ _ idle released.delivered_eq
    · rw [decision]
      exact respondError_answered _ _ idle released.delivered_eq
  | noData _ released decision =>
    rw [decision]
    exact respond_answered _ idle released.delivered_eq
  | rangeUnavailable _ released decision =>
    rw [decision]
    exact respond_answered _ idle released.delivered_eq
  | prepared _ released token _ _ _ shown =>
    rename_i journal content _ _ _ _
    have holds : ({ session with
        journal := journal.invalidatePreparedView.prepareThrough
          (command.start.toNat + content.count) }.hold
        (command.start.toNat + content.count)).Holds session.nextToken :=
      ⟨rfl, token, rfl, rfl⟩
    cases content with
    | gap record =>
      rw [shown.1, shown.2]
      exact respondPrepared_answered _ holds released.delivered_eq
    | continuityBreak record =>
      rw [shown.1, shown.2]
      exact respondPrepared_answered _ holds released.delivered_eq
    | samples records =>
      rw [shown.1, shown.2.1]
      exact respondPrepared_answered _ holds released.delivered_eq

/-- An idle session has an answer for every pull. -/
theorem preparePull_not_busy (serves : Serves session log) (idle : session.preparedToken = 0)
    (command : PullCommand) : (session.preparePull command).1.decision ≠ .busy := by
  have outcome := serves.represents.planned command
  generalize (session.preparePull command).1 = plan at outcome ⊢
  generalize (session.preparePull command).2 = after at outcome
  intro busy
  cases outcome with
  | declined decision =>
    rcases decision with ⟨-, held⟩ | ⟨decision, -⟩ | ⟨decision, -⟩
    · exact held idle
    · cases decision.symm.trans busy
    · cases decision.symm.trans busy
  | streamChanged decision => cases decision.symm.trans busy
  | invalidRelease decision => cases decision.symm.trans busy
  | unanswered _ _ decision =>
    rcases decision with ⟨decision, -⟩ | ⟨decision, -⟩
    · cases decision.symm.trans busy
    · cases decision.symm.trans busy
  | noData _ _ decision => cases decision.symm.trans busy
  | rangeUnavailable _ _ decision => cases decision.symm.trans busy
  | prepared _ _ _ _ _ _ shown =>
    rename_i content _ _ _ _ _ _
    cases content <;> cases shown.1.symm.trans busy

theorem release_delivered (serves : Serves session log) (bootEpoch releaseBefore : UInt64) :
    (session.release bootEpoch releaseBefore).2.journal.delivered = session.journal.delivered ∧
      (session.release bootEpoch releaseBefore).2.preparedToken = session.preparedToken := by
  simp only [DeliverySession.release]
  split
  · exact ⟨rfl, rfl⟩
  split
  · exact ⟨rfl, rfl⟩
  split
  · exact ⟨rfl, rfl⟩
  obtain ⟨-, outcome⟩ | ⟨journal, outcome, released⟩ :=
    serves.represents.releaseBefore_effect releaseBefore.toNat
  · rw [outcome]
    exact ⟨rfl, rfl⟩
  · rw [outcome]
    exact ⟨released.delivered_eq, rfl⟩

/-- Every request to an idle session. -/
theorem handle_answered (serves : Serves session log) (idle : session.preparedToken = 0)
    (message : UInt8) (payload output : List UInt8) :
    session.Answered (session.handle message payload output).1
      (session.handle message payload output).2.2 := by
  rw [handle]
  split
  · rw [handleGetState]
    split
    · exact respondError_answered _ _ idle rfl
    · exact respond_answered _ idle rfl
  split
  · rw [handlePull]
    split
    · exact answerPlan_answered serves idle _ output
    · exact answerPlan_answered serves idle _ output
    · exact respondError_answered _ _ idle rfl
  split
  · rw [handleRelease]
    split
    · rename_i request _
      obtain ⟨delivered, token⟩ :=
        release_delivered serves request.bootEpoch request.releaseBefore
      have idle := token.trans idle
      dsimp only
      split
      · exact respondError_answered _ _ idle delivered
      · exact respondError_answered _ _ idle delivered
      · exact respond_answered _ idle delivered
      · exact respondError_answered _ _ idle delivered
    · exact respondError_answered _ _ idle rfl
  · exact respondError_answered _ _ idle rfl

end DeliverySession

namespace ApplicationDispatcher

variable {limits : DeliveryLimits} {σ : Type} {dispatcher : ApplicationDispatcher limits σ}
  {log : List Entry}

/-- Between two calls nothing is prepared. -/
def Ready (dispatcher : ApplicationDispatcher limits σ) (log : List Entry) : Prop :=
  ∀ session, dispatcher.measurement = some session →
    Serves session log ∧ session.preparedToken = 0

/-- The delivered cursor of the journal behind the measurement service. -/
def delivered (dispatcher : ApplicationDispatcher limits σ) : Nat :=
  (dispatcher.measurement.map (·.journal.delivered)).getD 0

/-- The end of the piece that is prepared. -/
def preparedEnd (dispatcher : ApplicationDispatcher limits σ) : Nat :=
  (dispatcher.measurement.map (·.preparedEnd)).getD 0

/-- An idle session, or one that holds the piece which the response carries. -/
structure Dispatched (before : ApplicationDispatcher limits σ) (result : DispatchResult)
    (after : ApplicationDispatcher limits σ) (log : List Entry) : Prop where
  delivered : after.delivered = before.delivered
  serves : ∀ session, after.measurement = some session → Serves session log
  settled : result.completion.required = false → ∀ session,
    after.measurement = some session → session.preparedToken = 0
  open_ : result.completion.required = true →
    result.responseProduced = true ∧
      result.completion.service = ServiceId.measurement.toByte ∧
      ∃ session, after.measurement = some session ∧ session.Holds result.completion.token

/-- Nothing happened to the measurement service. -/
theorem Dispatched.other (ready : dispatcher.Ready log) {result : DispatchResult}
    {after : ApplicationDispatcher limits σ} (plain : result.completion.required = false)
    (same : after.measurement = dispatcher.measurement) :
    dispatcher.Dispatched result after log where
  delivered := by rw [ApplicationDispatcher.delivered, ApplicationDispatcher.delivered, same]
  serves session found := (ready session (same ▸ found)).1
  settled _ session found := (ready session (same ▸ found)).2
  open_ required := by
    rw [plain] at required
    cases required

theorem dispatchHandler_dispatched {ρ : Type} (ready : dispatcher.Ready log) (service : ServiceId)
    (handler : ServiceHandler σ ρ) (answer : ρ → Option ServiceAnswer) (request response : Frame) :
    let dispatched := dispatcher.dispatchHandler service handler answer request response
    dispatcher.Dispatched dispatched.1 dispatched.2.2 log := by
  dsimp only
  rw [dispatchHandler]
  generalize handler request.message (requestPayload request) response.payload.toList
    dispatcher.services = outcome
  obtain ⟨handled, output, services⟩ := outcome
  dsimp only
  split
  · exact .other ready rfl rfl
  split
  · exact .other ready rfl rfl
  · exact .other ready rfl rfl

theorem dispatchService_dispatched {ρ : Type} (ready : dispatcher.Ready log) (service : ServiceId)
    (handler : Option (ServiceHandler σ ρ)) (answer : ρ → Option ServiceAnswer)
    (request response : Frame) :
    let dispatched := dispatcher.dispatchService service handler answer request response
    dispatcher.Dispatched dispatched.1 dispatched.2.2 log := by
  rw [dispatchService.eq_def]
  split
  · exact .other ready rfl rfl
  split
  · exact .other ready rfl rfl
  · exact dispatchHandler_dispatched ready service _ answer request response

theorem dispatchMeasurement_dispatched (ready : dispatcher.Ready log) (request response : Frame) :
    let dispatched := dispatcher.dispatchMeasurement request response
    dispatcher.Dispatched dispatched.1 dispatched.2.2 log := by
  dsimp only
  rw [dispatchMeasurement]
  split
  · exact .other ready rfl rfl
  split
  · exact .other ready rfl rfl
  rename_i session found
  obtain ⟨serves, idle⟩ := ready session found
  have before : dispatcher.delivered = session.journal.delivered := by
    rw [delivered, found]
    rfl
  obtain ⟨kept, prepared⟩ := handle_answered serves idle request.message
    (requestPayload request) response.payload.toList
  have served := serves.handle request.message (requestPayload request)
    response.payload.toList
  generalize session.handle request.message (requestPayload request)
    response.payload.toList = handled at kept prepared served
  obtain ⟨handled, output, after⟩ := handled
  dsimp only at kept prepared served ⊢
  split
  · -- The payload has no valid size, so what was prepared is given up.
    rcases prepared with ⟨plain, token⟩ | ⟨required, holds⟩
    · rw [plain]
      refine ⟨kept.trans before.symm, ?_, ?_, nofun⟩
      · rintro session ⟨⟩
        exact served
      · rintro - session ⟨⟩
        exact token
    rw [required]
    obtain ⟨token, aborted⟩ := holds.abort
    refine ⟨aborted.trans (kept.trans before.symm), ?_, ?_, nofun⟩
    · rintro session ⟨⟩
      exact served.abort _
    · rintro - session ⟨⟩
      exact token
  · rcases prepared with ⟨plain, token⟩ | ⟨required, holds⟩
    · rw [plain]
      refine ⟨kept.trans before.symm, ?_, ?_, nofun⟩
      · rintro session ⟨⟩
        exact served
      · rintro - session ⟨⟩
        exact token
    rw [required]
    refine ⟨kept.trans before.symm, ?_, nofun, fun _ => ⟨rfl, rfl, after, rfl, holds⟩⟩
    rintro session ⟨⟩
    exact served

theorem dispatchAt_dispatched (ready : dispatcher.Ready log) (request : Frame) (now : UInt64) :
    let dispatched := dispatcher.dispatchAt request now
    dispatcher.Dispatched dispatched.1 dispatched.2.2 log := by
  rw [dispatchAt]
  split
  · exact .other ready rfl rfl
  split
  · rw [dispatchCommissioning]
    split
    · exact .other ready rfl rfl
    · exact dispatchHandler_dispatched ready _ _ _ _ _
  split
  · exact .other ready rfl rfl
  split
  · exact dispatchMeasurement_dispatched ready _ _
  split
  · exact .other ready rfl rfl
  split
  · exact dispatchService_dispatched ready _ _ _ _ _
  split
  · exact dispatchService_dispatched ready _ _ _ _ _
  split
  · exact dispatchService_dispatched ready _ _ _ _ _
  split
  · exact dispatchService_dispatched ready _ _ _ _ _
  · exact .other ready rfl rfl

section Settlement

variable {after : ApplicationDispatcher limits σ} {result : DispatchResult}

/-- A queued response delivers its piece. -/
theorem Dispatched.accept (dispatched : dispatcher.Dispatched result after log)
    (required : result.completion.required = true) :
    (after.settleResponse result.completion true).1 = .ok ∧
      (after.settleResponse result.completion true).2.Ready log ∧
      (after.settleResponse result.completion true).2.delivered =
        max dispatcher.delivered after.preparedEnd := by
  obtain ⟨-, service, session, found, holds⟩ := dispatched.open_ required
  have before := dispatched.delivered
  have served := (dispatched.serves session found).complete result.completion.token
  obtain ⟨status, idle, moved⟩ := holds.complete
  rw [settleResponse, if_neg (by simp [required]), if_neg (not_not.mpr service), found]
  simp only [if_true]
  refine ⟨by rw [status]; rfl, ?_, ?_⟩
  · rintro other ⟨⟩
    exact ⟨served, idle⟩
  · rw [← before]
    simp only [ApplicationDispatcher.delivered, preparedEnd, found]
    exact moved

/-- A response that is not queued gives its piece up. -/
theorem Dispatched.refuse (dispatched : dispatcher.Dispatched result after log)
    (required : result.completion.required = true) :
    (after.settleResponse result.completion false).2.Ready log ∧
      (after.settleResponse result.completion false).2.delivered = dispatcher.delivered := by
  obtain ⟨-, service, session, found, holds⟩ := dispatched.open_ required
  have before := dispatched.delivered
  have served := (dispatched.serves session found).abort result.completion.token
  obtain ⟨idle, kept⟩ := holds.abort
  rw [settleResponse, if_neg (by simp [required]), if_neg (not_not.mpr service), found]
  refine ⟨?_, ?_⟩
  · rintro other ⟨⟩
    exact ⟨served, idle⟩
  · rw [← before]
    simp only [ApplicationDispatcher.delivered, found]
    exact kept

theorem Dispatched.ready (dispatched : dispatcher.Dispatched result after log)
    (plain : result.completion.required = false) : after.Ready log :=
  fun session found => ⟨dispatched.serves session found, dispatched.settled plain session found⟩

theorem settleTransmission_measurement (dispatcher : ApplicationDispatcher limits σ)
    (completion : TransmissionCompletion) (transmitted : Bool) :
    (dispatcher.settleTransmission completion transmitted).2.measurement =
      dispatcher.measurement := by
  rw [settleTransmission]
  split
  · rfl
  split
  · dsimp only
    split
    · rfl
    · rfl
  split
  · rfl
  dsimp only
  split
  · rfl
  · rfl

theorem Ready.settleTransmission (ready : dispatcher.Ready log)
    (completion : TransmissionCompletion) (transmitted : Bool) :
    (dispatcher.settleTransmission completion transmitted).2.Ready log := by
  intro session found
  rw [settleTransmission_measurement] at found
  exact ready session found

/-- A response that is dropped with its transmission. -/
theorem Ready.abandon (ready : dispatcher.Ready log) (completion : TransmissionCompletion) :
    (if completion.required then (dispatcher.settleTransmission completion false).2
      else dispatcher).Ready log ∧
    (if completion.required then (dispatcher.settleTransmission completion false).2
      else dispatcher).delivered = dispatcher.delivered := by
  split
  · refine ⟨ready.settleTransmission completion false, ?_⟩
    rw [delivered, settleTransmission_measurement, delivered]
  · exact ⟨ready, rfl⟩

end Settlement

end ApplicationDispatcher

namespace ResponseOutbox

variable {capacity : Nat} {limits : DeliveryLimits} {σ : Type} {outbox : ResponseOutbox capacity}
  {dispatcher : ApplicationDispatcher limits σ} {log : List Entry}

/-- An accepted request leaves no delivery open, and delivers the piece of its response exactly when
that is queued. -/
structure Accepts (outbox : ResponseOutbox capacity)
    (dispatcher : ApplicationDispatcher limits σ) (request : Frame) (now : UInt64)
    (log : List Entry) : Prop where
  ready : (outbox.acceptRequestAt dispatcher request now).2.2.Ready log
  full : outbox.size = capacity →
    outbox.acceptRequestAt dispatcher request now = (.queueFull, outbox, dispatcher)
  delivered : (outbox.acceptRequestAt dispatcher request now).2.2.delivered =
    if (outbox.acceptRequestAt dispatcher request now).1 = .queued ∧
        (dispatcher.dispatchAt request now).1.completion.required then
      max dispatcher.delivered (dispatcher.dispatchAt request now).2.2.preparedEnd
    else dispatcher.delivered
  queue : (outbox.acceptRequestAt dispatcher request now).2.1.toList =
    outbox.toList ++
      if (outbox.acceptRequestAt dispatcher request now).1 = .queued then
        [⟨(dispatcher.dispatchAt request now).2.1,
          (dispatcher.dispatchAt request now).1.transmission⟩]
      else []

theorem acceptRequestAt_accepts (ready : dispatcher.Ready log) (request : Frame) (now : UInt64) :
    outbox.Accepts dispatcher request now log := by
  by_cases full : outbox.size = capacity
  · have refused : outbox.acceptRequestAt dispatcher request now =
        (.queueFull, outbox, dispatcher) := by rw [acceptRequestAt, if_pos full]
    refine ⟨?_, fun _ => refused, ?_, ?_⟩
    · rw [refused]
      exact ready
    · rw [refused]
      simp
    · rw [refused]
      simp
  have room : outbox.size < capacity := Nat.lt_of_le_of_ne outbox.sizeBounded full
  have dispatched := ApplicationDispatcher.dispatchAt_dispatched ready request now
  generalize outcome : dispatcher.dispatchAt request now = middle at dispatched
  obtain ⟨result, response, after⟩ := middle
  -- It is enough to know what the call returns.
  have finish : ∀ status queue final,
      outbox.acceptRequestAt dispatcher request now = (status, queue, final) →
      final.Ready log →
      final.delivered = (if status = .queued ∧ result.completion.required then
        max dispatcher.delivered after.preparedEnd else dispatcher.delivered) →
      queue.toList = outbox.toList ++ (if status = .queued then
        [⟨response, result.transmission⟩] else []) →
      outbox.Accepts dispatcher request now log := by
    intro status queue final same ready delivered content
    refine ⟨?_, fun full' => absurd full' full, ?_, ?_⟩
    · rw [same]
      exact ready
    · rw [same, outcome]
      exact delivered
    · rw [same, outcome]
      exact content
  cases produced : result.responseProduced with
  | false =>
    have closed : result.completion.required = false := by
      by_contra required
      have answered := (dispatched.open_ (by simpa using required)).1
      rw [produced] at answered
      cases answered
    refine finish .ignored outbox after ?_ (dispatched.ready closed) ?_ (by simp)
    · rw [acceptRequestAt, if_neg full, outcome]
      simp [produced]
    · simpa using dispatched.delivered
  | true =>
    by_cases valid : validate response = .ok
    · cases required : result.completion.required with
      | false =>
        refine finish .queued (outbox.push ⟨response, result.transmission⟩) after ?_
          (dispatched.ready required) ?_ ?_
        · rw [acceptRequestAt, if_neg full, outcome]
          simp [produced, valid, required]
        · simpa [required] using dispatched.delivered
        · simpa using outbox.toList_push _ room
      | true =>
        obtain ⟨status, settled, moved⟩ := dispatched.accept required
        refine finish .queued (outbox.push ⟨response, result.transmission⟩)
          (after.settleResponse result.completion true).2 ?_ settled ?_ ?_
        · rw [acceptRequestAt, if_neg full, outcome]
          simp [produced, valid, required, status]
        · simpa [required] using moved
        · simpa using outbox.toList_push _ room
    · cases required : result.completion.required with
      | false =>
        have abandoned := (dispatched.ready required).abandon result.transmission
        refine finish .invalidResponse outbox _ ?_ abandoned.1 ?_ (by simp)
        · rw [acceptRequestAt, if_neg full, outcome]
          simp [produced, valid, required]
        · simpa using abandoned.2.trans dispatched.delivered
      | true =>
        obtain ⟨settled, kept⟩ := dispatched.refuse required
        have abandoned := settled.abandon result.transmission
        refine finish .invalidResponse outbox _ ?_ abandoned.1 ?_ (by simp)
        · rw [acceptRequestAt, if_neg full, outcome]
          simp [produced, valid, required]
        · simpa using abandoned.2.trans kept

end ResponseOutbox

/-- An outbox in front of a dispatcher. -/
structure NodeService (capacity : Nat) (limits : DeliveryLimits) (σ : Type) where
  outbox : ResponseOutbox capacity
  dispatcher : ApplicationDispatcher limits σ

/-- What can happen to it: a request, an append to the journal, or the transmission of
the response in front with its settlement. -/
inductive ServiceEvent where
  | accept (request : Frame) (nodeReceiveUs : UInt64)
  | appendSample (sequence : Nat) (sample : SampleRecord)
  | appendGap (gap : GapRecord)
  | appendContinuityBreak (value : ContinuityBreakRecord)
  | pop
  | settleTransmission (completion : TransmissionCompletion) (transmitted : Bool)

namespace NodeService

variable {capacity : Nat} {limits : DeliveryLimits} {σ : Type}

def append (service : NodeService capacity limits σ) (event : NodeEvent) :
    NodeService capacity limits σ :=
  let measurement := service.dispatcher.measurement.map fun session => session.perform event
  { service with dispatcher := { service.dispatcher with measurement } }

def perform (service : NodeService capacity limits σ) :
    ServiceEvent → NodeService capacity limits σ
  | .accept request now =>
    let (_, outbox, dispatcher) := service.outbox.acceptRequestAt service.dispatcher request now
    ⟨outbox, dispatcher⟩
  | .appendSample sequence sample => service.append (.appendSample sequence sample)
  | .appendGap gap => service.append (.appendGap gap)
  | .appendContinuityBreak value => service.append (.appendContinuityBreak value)
  | .pop => { service with outbox := ResponseOutbox.pop service.outbox }
  | .settleTransmission completion transmitted =>
    { service with
      dispatcher := (service.dispatcher.settleTransmission completion transmitted).2 }

def run (service : NodeService capacity limits σ) (events : List ServiceEvent) :
    NodeService capacity limits σ :=
  events.foldl perform service

/-- A node that was just started, with any content of the outbox. -/
def started (outbox : ResponseOutbox capacity) (identity : NodeIdentity)
    (capabilities : NodeCapabilities) (handlers : ServiceHandlers σ) (services : σ)
    (bootEpoch : Option UInt64) : NodeService capacity limits σ where
  outbox
  dispatcher :=
    { identity, capabilities, handlers, services
      measurement := bootEpoch.map (initial limits) }

variable {service : NodeService capacity limits σ}

theorem ready_append {log : List Entry} (ready : service.dispatcher.Ready log) {event : NodeEvent}
    {operation : JournalOperation} (appends : event.append? = some operation) :
    (service.append event).dispatcher.Ready (Log.step log operation) := by
  intro session found
  rw [append] at found
  obtain ⟨before, present, rfl⟩ := Option.map_eq_some_iff.mp found
  obtain ⟨serves, idle⟩ := ready before present
  rw [perform_append appends]
  exact ⟨serves.append appends, idle⟩

/-- Every event leaves the dispatcher ready for the next request. -/
theorem ready_perform {log : List Entry} (ready : service.dispatcher.Ready log)
    (event : ServiceEvent) : ∃ log', (service.perform event).dispatcher.Ready log' := by
  cases event with
  | accept request now =>
    exact ⟨log, (ResponseOutbox.acceptRequestAt_accepts ready request now).ready⟩
  | appendSample sequence sample =>
    exact ⟨_, ready_append ready
      (show NodeEvent.append? (.appendSample sequence sample) = some _ from rfl)⟩
  | appendGap gap =>
    exact ⟨_, ready_append ready (show NodeEvent.append? (.appendGap gap) = some _ from rfl)⟩
  | appendContinuityBreak value =>
    exact ⟨_, ready_append ready
      (show NodeEvent.append? (.appendContinuityBreak value) = some _ from rfl)⟩
  | pop => exact ⟨log, ready⟩
  | settleTransmission completion transmitted =>
    exact ⟨log, ready.settleTransmission completion transmitted⟩

theorem ready_run {log : List Entry} (ready : service.dispatcher.Ready log)
    (events : List ServiceEvent) : ∃ log', (service.run events).dispatcher.Ready log' := by
  induction events generalizing service log with
  | nil => exact ⟨log, ready⟩
  | cons event rest ih =>
    obtain ⟨log', ready'⟩ := ready_perform ready event
    exact ih ready'

theorem ready_started (outbox : ResponseOutbox capacity) (identity : NodeIdentity)
    (capabilities : NodeCapabilities) (handlers : ServiceHandlers σ) (services : σ)
    (bootEpoch : Option UInt64) :
    (started outbox identity capabilities handlers services bootEpoch :
      NodeService capacity limits σ).dispatcher.Ready [] := by
  intro session found
  obtain ⟨epoch, -, rfl⟩ := Option.map_eq_some_iff.mp found
  exact ⟨.initial limits epoch, rfl⟩

/-- Accepting a request, in every state of every run: no delivery stays open, so that no
later pull is answered busy; the delivered cursor moves to the end of the response's
piece exactly when the response is queued, unless it was there before; and a full outbox
refuses the request with everything unchanged. -/
theorem accept_settles (outbox : ResponseOutbox capacity) (identity : NodeIdentity)
    (capabilities : NodeCapabilities) (handlers : ServiceHandlers σ) (services : σ)
    (bootEpoch : Option UInt64) (events : List ServiceEvent) (request : Frame) (now : UInt64) :
    let reached : NodeService capacity limits σ :=
      (started outbox identity capabilities handlers services bootEpoch).run events
    let dispatched := reached.dispatcher.dispatchAt request now
    let accepted := reached.outbox.acceptRequestAt reached.dispatcher request now
    (∀ session, accepted.2.2.measurement = some session → session.preparedToken = 0 ∧
      ∀ command, (session.preparePull command).1.decision ≠ .busy) ∧
    accepted.2.2.delivered =
      (if accepted.1 = .queued ∧ dispatched.1.completion.required then
        max reached.dispatcher.delivered dispatched.2.2.preparedEnd
      else reached.dispatcher.delivered) ∧
    accepted.2.1.toList = reached.outbox.toList ++
      (if accepted.1 = .queued then [⟨dispatched.2.1, dispatched.1.transmission⟩] else []) ∧
    (reached.outbox.size = capacity →
      accepted = (.queueFull, reached.outbox, reached.dispatcher)) := by
  intro reached dispatched accepted
  obtain ⟨log, ready⟩ : ∃ log, reached.dispatcher.Ready log :=
    ready_run (ready_started outbox identity capabilities handlers services bootEpoch) events
  have accepts : reached.outbox.Accepts reached.dispatcher request now log :=
    ResponseOutbox.acceptRequestAt_accepts ready request now
  refine ⟨fun session found => ?_, accepts.delivered, accepts.queue, accepts.full⟩
  obtain ⟨serves, idle⟩ := accepts.ready session found
  exact ⟨idle, fun command => DeliverySession.preparePull_not_busy serves idle command⟩

def fewSamples : DeliveryLimits := .small

def noHandlers : ServiceHandlers Unit where
  lifecycle := none
  diagnostics := none
  configuration := none
  commissioning := none
  telemetry := none
  settleLifecycle _ _ services := (false, services)
  settleCommissioning _ _ services := (false, services)

/-- A pull of one sample from the start of the stream. -/
def pullFromStart : Frame where
  destination := 7
  service := ServiceId.measurement.toByte
  message := pullSamplesMessageId
  payload := copyPayload (writeU64 1 ++ writeU64 0 ++ writeU64 0 ++ writeU16 1)
  payloadSize := pullRequestBytes

/-- One sample was appended, pulled and delivered. -/
def pulledOnce : NodeService 2 fewSamples Unit :=
  (started (.empty Nat.two_pos {}) { bootEpoch := 1, nodeAddress := 7, boardRevision := 1 }
    { serviceFlags := 3 } noHandlers () (some 1)).run
    [.appendSample 0 { deviceTimeUs := 1, configRevision := 1, timingSegmentId := 1 },
      .accept pullFromStart 0]

/-- A repeated pull is answered and queued again, without moving the delivered cursor. -/
theorem repeated_pull_queued :
    pulledOnce.dispatcher.delivered = 1 ∧
      (pulledOnce.dispatcher.dispatchAt pullFromStart 0).1.completion.required = true ∧
      (pulledOnce.outbox.acceptRequestAt pulledOnce.dispatcher pullFromStart 0).1 = .queued ∧
      (pulledOnce.outbox.acceptRequestAt pulledOnce.dispatcher pullFromStart 0).2.2.delivered =
        1 := by
  decide +kernel

end NodeService
end SensorSystem.Node
