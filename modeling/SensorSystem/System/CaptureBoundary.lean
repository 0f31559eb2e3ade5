import SensorSystem.System.DeliverySystem

/-! A new recording begins at the produced cursor the node reports. Its first pull asks to release
everything before, which the node grants up to what it has delivered or lost. -/

namespace SensorSystem.System

open Base List
open Node (DeliveryLimits DeliverySession NodeEvent PullDecision)
open Host (ExpectedStreamState StreamState)

variable {limits : DeliveryLimits}

/-- `prepare_capture_stream` for a node without an origin, `reconcile_channel_streams` and
`begin_pull`. -/
def firstPullRequest (expected : ExpectedStreamState) (reported : StreamState)
    (maxSamples : UInt16) : Option Host.PullSamplesRequest :=
  match Host.newCaptureBoundary expected reported with
  | .error _ => none
  | .ok boundary =>
    match Host.reconcileExistingCapture expected
        ⟨boundary.hardwareId, boundary.bootEpoch, boundary.cursor⟩ reported with
    | .error _ => none
    | .ok stream =>
      match stream.session.beginPull maxSamples with
      | (.error _, _) => none
      | (.ok request, _) => some request

/-- The decisions that answer a pull with the stream. -/
def answers : PullDecision → Bool
  | .sampleChunk | .gap | .continuityBreak | .noData | .rangeUnavailable => true
  | _ => false

variable {maxSamples : UInt16} {request : Host.PullSamplesRequest} {appends : List NodeEvent}
  {log : List Node.Entry} {session : DeliverySession limits}

/-- The first request of a recovered session. -/
theorem beginPull_recovered {hardwareId : Host.HardwareId} {bootEpoch : Host.BootEpoch}
    {durable released : Host.SequenceCursor} {session after : Host.NodeSession}
    (recovered : Host.NodeSession.recovered hardwareId bootEpoch durable released = .ok session)
    (built : session.beginPull maxSamples = (.ok request, after)) :
    request = ⟨bootEpoch, durable, durable, maxSamples⟩ ∧ bootEpoch ≠ 0 ∧ maxSamples ≠ 0 := by
  rw [Host.NodeSession.recovered] at recovered
  split at recovered
  · cases recovered
  rename_i cursors ordered
  obtain ⟨rfl, -⟩ := Host.DeliveryCursors.ordered_of_new ordered
  cases recovered
  simp only [Host.NodeSession.beginPull, ne_eq, not_true_eq_false, if_false] at built
  split at built
  · cases built
  rename_i requested made
  cases built
  rw [Host.PullSamplesRequest.new, guard_eq_ok, guard_eq_ok, guard_eq_ok] at made
  obtain ⟨epoch, limited, -, made⟩ := made
  cases made
  exact ⟨rfl, epoch, limited⟩

theorem firstPullRequest_eq_some {expected : ExpectedStreamState} {reported : StreamState}
    (begun : firstPullRequest expected reported maxSamples = some request) :
    request = ⟨reported.bootEpoch, reported.produced, reported.produced, maxSamples⟩ ∧
      reported.bootEpoch ≠ 0 ∧ maxSamples ≠ 0 := by
  rw [firstPullRequest] at begun
  split at begun
  · cases begun
  rename_i boundary bounded
  split at begun
  · cases begun
  rename_i stream reconciled
  split at begun
  · cases begun
  rename_i built
  cases begun
  obtain ⟨-, bounded⟩ := check_eq_ok.mp bounded
  obtain ⟨-, bounded⟩ := check_eq_ok.mp bounded
  cases bounded
  obtain ⟨epoch, -, recovered⟩ := Host.reconcileExistingCapture_eq_ok reconciled
  rw [epoch]
  exact beginPull_recovered recovered built

/-- Appends leave the session of a node, except for its journal. -/
theorem run_appends (session : DeliverySession limits)
    (only : ∀ event ∈ appends, event.append?.isSome = true) :
    (session.run appends).bootEpoch = session.bootEpoch ∧
      (session.run appends).preparedToken = session.preparedToken ∧
      (session.run appends).nextToken = session.nextToken := by
  induction appends generalizing session with
  | nil => exact ⟨rfl, rfl, rfl⟩
  | cons event appends ih =>
    obtain ⟨operation, appended⟩ := Option.isSome_iff_exists.mp (only event (by simp))
    have rest := ih (session.perform event) fun other member => only other (by simp [member])
    rw [DeliverySession.perform_append appended] at rest
    rw [DeliverySession.run, foldl_cons, DeliverySession.perform_append appended]
    exact rest

/-- Appends move neither cursor backwards. -/
theorem run_appends_cursors (serves : Node.Serves session log)
    (only : ∀ event ∈ appends, event.append?.isSome = true) :
    (session.run appends).journal.delivered = session.journal.delivered ∧
      log.length ≤ (appends.foldl Node.Log.after log).length := by
  induction appends generalizing session log with
  | nil => exact ⟨rfl, Nat.le_refl _⟩
  | cons event appends ih =>
    obtain ⟨operation, appended⟩ := Option.isSome_iff_exists.mp (only event (by simp))
    obtain ⟨delivered, longer⟩ := ih (serves.perform event)
      fun other member => only other (by simp [member])
    obtain ⟨-, same, -, grown⟩ := serves.append_cursors appended
    rw [DeliverySession.perform_append appended] at delivered
    rw [DeliverySession.run, foldl_cons, DeliverySession.perform_append appended]
    refine ⟨delivered.trans same, Nat.le_trans grown.length_le ?_⟩
    rw [Node.Log.after, appended] at longer
    rw [foldl_cons, Node.Log.after, appended]
    exact longer

theorem answers_of_shows {plan : Node.PullPlan}
    {journal : Node.MeasurementJournal limits.journal} {start : Nat} {token : UInt64}
    {content : Node.Log.Content} (shown : plan.Shows journal start token content) :
    answers plan.decision = true ∧ plan.decision ≠ .invalidRelease := by
  cases content with
  | gap record => exact shown.1 ▸ ⟨rfl, nofun⟩
  | continuityBreak record => exact shown.1 ▸ ⟨rfl, nofun⟩
  | samples records => exact shown.1 ▸ ⟨rfl, nofun⟩

theorem answers_iff (represents : Node.Represents session.journal log)
    (command : Node.PullCommand) (epoch : command.bootEpoch = session.bootEpoch)
    (started : session.bootEpoch ≠ 0) (limited : command.maxSamples ≠ 0)
    (same : command.releaseBefore = command.start) (produced : command.start.toNat ≤ log.length) :
    (answers (session.preparePull command).1.decision = true ↔
      session.preparedToken = 0 ∧
        command.start.toNat ≤ max session.journal.delivered session.journal.retainedFrom ∧
        (session.journal.retainedFrom ≤ command.start.toNat → session.Readable command log)) ∧
    ((session.preparePull command).1.decision = .invalidRelease ↔
      session.preparedToken = 0 ∧
        max session.journal.delivered session.journal.retainedFrom < command.start.toNat) := by
  have planned := represents.planned command
  generalize (session.preparePull command).1 = plan at planned
  generalize (session.preparePull command).2 = after at planned
  cases planned with
  | declined decision =>
    rcases decision with ⟨decision, busy⟩ | ⟨-, unstarted⟩ | ⟨-, unlimited⟩
    · rw [decision]
      exact ⟨⟨by rintro ⟨⟩, fun all => absurd all.1 busy⟩,
        ⟨by rintro ⟨⟩, fun all => absurd all.1 busy⟩⟩
    · exact absurd unstarted started
    · exact absurd unlimited limited
  | streamChanged decision _ _ other => exact absurd epoch other
  | invalidRelease decision state _ _ idle refused kept =>
    have beyond : max session.journal.delivered session.journal.retainedFrom <
        command.start.toNat := by
      rcases refused with reversed | beyond
      · rw [same] at reversed
        exact absurd reversed (UInt64.lt_irrefl _)
      · rwa [same] at beyond
    rw [decision]
    exact ⟨⟨by rintro ⟨⟩, fun all => by omega⟩, ⟨fun _ => ⟨idle, beyond⟩, fun _ => rfl⟩⟩
  | unanswered addresses released decision =>
    have within := released.within
    rw [same] at within
    rcases decision with ⟨-, ahead⟩ | ⟨decision, retained, unreadable⟩
    · omega
    have kept : session.journal.retainedFrom ≤ command.start.toNat := by
      rw [released.retained_eq] at retained
      omega
    rw [decision]
    exact ⟨⟨by rintro ⟨⟩, fun all => absurd (all.2.2 kept) unreadable⟩,
      ⟨by rintro ⟨⟩, fun all => by omega⟩⟩
  | noData addresses released decision state exhausted =>
    have within := released.within
    rw [same] at within
    rw [decision]
    refine ⟨⟨fun _ => ⟨addresses.idle, within, fun _ => ?_⟩, fun _ => rfl⟩,
      ⟨by rintro ⟨⟩, fun all => by omega⟩⟩
    intro content found
    rw [Node.Log.contentAt, exhausted, drop_length] at found
    cases found
  | rangeUnavailable addresses released decision state lost =>
    have within := released.within
    rw [same] at within
    rw [released.retained_eq, same] at lost
    rw [decision]
    exact ⟨⟨fun _ => ⟨addresses.idle, within, fun kept => by omega⟩, fun _ => rfl⟩,
      ⟨by rintro ⟨⟩, fun all => by omega⟩⟩
  | prepared addresses released token retained found bounded shown =>
    have within := released.within
    rw [same] at within
    obtain ⟨answered, other⟩ := answers_of_shows shown
    refine ⟨⟨fun _ => ⟨addresses.idle, within, fun _ => ?_⟩, fun _ => answered⟩,
      ⟨fun refused => absurd refused other, fun all => by omega⟩⟩
    intro content shownAt
    cases found.symm.trans shownAt
    refine ⟨token, fun records samples => ?_⟩
    subst samples
    obtain ⟨-, -, -, -, -, -, held, -, -, timing⟩ := shown
    exact ⟨_, (DeliverySession.summarizeTiming_viewOf held).trans timing⟩

/-- When the first pull of a new recording is answered with the stream, in every
state of a node and after any appends behind the boundary. It is refused just
when the node has produced more than it has delivered or lost. -/
theorem first_pull_answered (limits : DeliveryLimits) (bootEpoch : UInt64)
    (events : List NodeEvent) (session : DeliverySession limits)
    (booted : session = (DeliverySession.initial limits bootEpoch).run events)
    (expected : ExpectedStreamState) (maxSamples : UInt16) (request : Host.PullSamplesRequest)
    (begun : firstPullRequest expected (hostState (session.wireState session.journal.state))
      maxSamples = some request) (appends : List NodeEvent)
    (only : ∀ event ∈ appends, event.append?.isSome = true) : let after := session.run appends
    let log := (events ++ appends).foldl Node.Log.after []
    let boundary := session.journal.produced
    (answers (after.preparePull (pullCommand request)).1.decision = true ↔
      session.preparedToken = 0 ∧
        boundary ≤ max session.journal.delivered after.journal.retainedFrom ∧
        (after.journal.retainedFrom ≤ boundary → after.Readable (pullCommand request) log)) ∧
    ((after.preparePull (pullCommand request)).1.decision = .invalidRelease ↔
      session.preparedToken = 0 ∧
        max session.journal.delivered after.journal.retainedFrom < boundary) := by
  intro after log boundary
  have serves : Node.Serves session (events.foldl Node.Log.after []) :=
    booted ▸ (Node.Serves.initial limits bootEpoch).run events
  have served : Node.Serves after log := by
    have run := serves.run appends
    rwa [← List.foldl_append] at run
  obtain ⟨epoch, token, -⟩ := run_appends session only
  obtain ⟨delivered, longer⟩ := run_appends_cursors serves only
  rw [← List.foldl_append] at longer
  have reported : SameState session.bootEpoch session.journal.state
      (hostState (session.wireState session.journal.state)) :=
    sameState_wireState serves.represents serves.discarded_le
  obtain ⟨rfl, started, limited⟩ := firstPullRequest_eq_some begun
  have start : (hostState (session.wireState session.journal.state)).produced.toNat = boundary :=
    reported.produced_eq
  have decided := answers_iff served.represents (pullCommand ⟨_, _, _, maxSamples⟩) epoch.symm
    (epoch ▸ started) limited rfl (by
      change (hostState (session.wireState session.journal.state)).produced.toNat ≤ _
      rw [start]
      exact Nat.le_trans serves.represents.produced_eq.le longer)
  rw [token, delivered] at decided
  exact start ▸ decided

/-- A node that has produced nothing yet answers, here with a sample appended behind
the boundary. -/
theorem first_pull_answered_fresh : firstPullRequest firstStream
        (hostState ((DeliverySession.initial smallLimits 7).wireState
          (DeliverySession.initial smallLimits 7).journal.state)) 4 = some ⟨7, 0, 0, 4⟩ ∧
      answers (((DeliverySession.initial smallLimits 7).run [firstSample]).preparePull
        (pullCommand ⟨7, 0, 0, 4⟩)).1.decision = true := by
  have answered := first_pull_answered smallLimits 7 [] (.initial smallLimits 7) rfl firstStream 4
    ⟨7, 0, 0, 4⟩ (by decide) [firstSample] (by decide)
  refine ⟨by decide, answered.1.mpr ⟨rfl, by decide, fun _ content found => ?_⟩⟩
  refine ⟨by decide, fun records samples => ?_⟩
  subst samples
  cases found
  exact ⟨_, rfl⟩

/-- A node with one sample that nobody has pulled refuses the first pull behind it. -/
theorem first_pull_refused : firstPullRequest firstStream
        (hostState (((DeliverySession.initial smallLimits 7).run [firstSample]).wireState
          ((DeliverySession.initial smallLimits 7).run [firstSample]).journal.state)) 4 =
        some ⟨7, 1, 1, 4⟩ ∧
      (((DeliverySession.initial smallLimits 7).run [firstSample]).preparePull
        (pullCommand ⟨7, 1, 1, 4⟩)).1.decision = .invalidRelease := by
  exact ⟨by decide, by decide⟩

end SensorSystem.System
