import SensorSystem.System.ResponseTruth

/-! In every run of the delivery system the confirmed records tile the stream from the start to
the durable cursor, each holding what the node appended there. The node's release cursor stays
behind the durable one, which stays behind what the node has delivered or lost; that is why no
release is ever refused. -/

namespace SensorSystem.System

open List Base
open Node (DeliveryLimits DeliverySession NodeTrace NodeEvent)
open Host (NodeSession SessionCall SessionRecord SequenceCursor ExpectedStreamState)

variable {limits : DeliveryLimits}

namespace DeliverySystem

/-- The cursors the node can be asked to release: delivered, or lost. -/
def reach (node : NodeTrace limits) : Nat :=
  max node.session.journal.delivered node.session.journal.retainedFrom

/-- It continues the durable prefix, and the record it waits for is a true one. -/
structure Continues (system : DeliverySystem limits) (session : NodeSession) : Prop where
  sound : session.Sound
  durable : session.cursors.durable = system.durable
  waiting : session.phase.isPersisting = true → ∃ record, system.accepted = some record ∧
    record.first = system.durable.toNat ∧ record.first < record.stop ∧
    record.stop = session.cursors.received.toNat ∧ record.stop ≤ reach system.node ∧
    Holds system.node record

structure Consistent (start : Nat) (system : DeliverySystem limits) : Prop where
  accounts : system.node.Accounts
  released : system.node.session.journal.released ≤ system.durable.toNat
  covered : system.durable.toNat ≤ reach system.node
  requests : ∀ payload ∈ system.requests, ∃ request, payload = Host.encodePullRequest request ∧
    request.Valid ∧ request.releaseBefore.toNat ≤ system.durable.toNat
  responses : ∀ payload ∈ system.responses,
    TruthfulPayload system.node system.node.session.journal.delivered payload
  outstanding : ∀ token payload, system.outstanding = some (token, payload) →
    system.node.session.preparedToken = token → token ≠ 0 →
      TruthfulPayload system.node system.node.session.preparedEnd payload
  decisions : Node.PullDecision.invalidRelease ∉ system.decisions
  tiles : Tiles SessionRecord.first SessionRecord.stop start system.durable.toNat system.confirmed
  holds : ∀ record ∈ system.confirmed, Holds system.node record
  session : ∀ session, system.session = some session → system.Continues session

variable {start : Nat} {system : DeliverySystem limits} {after node : NodeTrace limits}
  {bound : Nat} {payload : List UInt8} {session : NodeSession} {request : Host.PullSamplesRequest}
  {record : SessionRecord} {durable : SequenceCursor} {state : Host.StreamState}
  {expected : ExpectedStreamState}

theorem reach_grows (grows : NodeTrace.Grows node after) : reach node ≤ reach after := by
  have delivered := grows.delivered_le
  have retained := grows.retained_le
  rw [reach, reach]
  omega

theorem TruthfulPayload.grows (grows : NodeTrace.Grows node after) {limit : Nat}
    (above : bound ≤ limit) (truthful : TruthfulPayload node bound payload) :
    TruthfulPayload after limit payload :=
  fun response decoded => (truthful response decoded).grows grows above

/-- What a session continues stays the same. -/
theorem Continues.of_same (continues : system.Continues session) {other : DeliverySystem limits}
    (node : other.node = system.node) (durable : other.durable = system.durable)
    (accepted : other.accepted = system.accepted) : other.Continues session where
  sound := continues.sound
  durable := continues.durable.trans durable.symm
  waiting := by
    rw [node, durable, accepted]
    exact continues.waiting

theorem Continues.grows (continues : system.Continues session)
    (grows : NodeTrace.Grows system.node node) : Continues { system with node } session where
  sound := continues.sound
  durable := continues.durable
  waiting := by
    intro persisting
    obtain ⟨record, found, first, nonempty, stop, reached, holds⟩ := continues.waiting persisting
    exact ⟨record, found, first, nonempty, stop, Nat.le_trans reached (reach_grows grows),
      holds.grows grows⟩

variable (consistent : system.Consistent start)

include consistent

/-- The node moves on, and with it what it has to say. -/
theorem Consistent.moves {outstanding : Option (UInt64 × List UInt8)}
    {decisions : List Node.PullDecision} {responses : List (List UInt8)}
    (accounts : node.Accounts) (grows : NodeTrace.Grows system.node node)
    (released : node.session.journal.released ≤ system.durable.toNat)
    (prepared : ∀ token payload, outstanding = some (token, payload) →
      node.session.preparedToken = token → token ≠ 0 →
        TruthfulPayload node node.session.preparedEnd payload)
    (accepted : Node.PullDecision.invalidRelease ∉ decisions)
    (truthful : ∀ payload ∈ responses,
      TruthfulPayload node node.session.journal.delivered payload) :
    Consistent start { system with node, outstanding, decisions, responses } where
  accounts
  released
  covered := Nat.le_trans consistent.covered (reach_grows grows)
  requests := consistent.requests
  responses := truthful
  outstanding := prepared
  decisions := accepted
  tiles := consistent.tiles
  holds := fun record member => (consistent.holds record member).grows grows
  session := by
    intro session found
    exact ((consistent.session session found).grows grows).of_same rfl rfl rfl

/-- What was sent stays true. -/
theorem Consistent.responses_grow (grows : NodeTrace.Grows system.node node)
    (sent : payload ∈ system.responses) :
    TruthfulPayload node node.session.journal.delivered payload :=
  TruthfulPayload.grows grows grows.delivered_le (consistent.responses payload sent)

/-- A piece that waits for its settlement. -/
theorem Consistent.outstanding_grow (grows : NodeTrace.Grows system.node node)
    (kept : node.session.preparedToken = 0 ∨
      node.session.preparedToken = system.node.session.preparedToken ∧
        node.session.preparedEnd = system.node.session.preparedEnd) (token : UInt64)
    (payload : List UInt8) (waits : system.outstanding = some (token, payload))
    (same : node.session.preparedToken = token) (held : token ≠ 0) :
    TruthfulPayload node node.session.preparedEnd payload := by
  obtain cleared | ⟨sameToken, sameEnd⟩ := kept
  · exact absurd (same.symm.trans cleared) held
  · rw [sameEnd]
    exact TruthfulPayload.grows grows (Nat.le_refl _)
      (consistent.outstanding token payload waits (sameToken.symm.trans same) held)

theorem Consistent.append (event : NodeEvent) : (system.append event).Consistent start := by
  rw [DeliverySystem.append]
  split
  · rename_i appended
    obtain ⟨operation, appends⟩ := Option.isSome_iff_exists.mp appended
    obtain ⟨accounts, grows, released⟩ := consistent.accounts.append appends
    refine consistent.moves accounts grows (released ▸ consistent.released)
      (consistent.outstanding_grow grows (.inr ?_)) consistent.decisions
      fun _ sent => consistent.responses_grow grows sent
    simp only [NodeTrace.perform, DeliverySession.perform_append appends]
    exact ⟨rfl, rfl⟩
  · exact consistent

omit consistent

/-- Handling a request of the host is answering its plan. -/
theorem perform_pull (node : NodeTrace limits) (valid : request.Valid) (output : List UInt8) :
    node.perform (.handle Node.Wire.pullSamplesMessageId (Host.encodePullRequest request) output) =
      answered node (node.session.preparePull (pullCommand request)).2
        (node.session.preparePull (pullCommand request)).1 output := by
  rw [answered, ← handle_pull node.session output valid]
  rfl

/-- The node's decision on a request of the host. -/
theorem pullDecision_of_valid (session : DeliverySession limits) (valid : request.Valid) :
    pullDecision session (Host.encodePullRequest request) =
      some (session.preparePull (pullCommand request)).1.decision := by
  rw [pullDecision, decodePullRequest_agrees valid]
  rfl

theorem Consistent.serve (consistent : system.Consistent start) (payload output : List UInt8) :
    (system.serve payload output).Consistent start := by
  rw [DeliverySystem.serve]
  split
  case isFalse => exact consistent
  rename_i sent
  obtain ⟨request, rfl, valid, behind⟩ := consistent.requests payload sent
  obtain ⟨accounts, grows⟩ := consistent.accounts.perform
    (.handle Node.Wire.pullSamplesMessageId (Host.encodePullRequest request) output)
  have plans := consistent.accounts.serves.represents.planned (pullCommand request)
  obtain ⟨accepted, served⟩ := served_planned consistent.accounts valid
    (Nat.le_trans behind consistent.covered) plans output
  rw [← handle_pull system.node.session output valid, ← perform_pull _ valid] at served
  have released := Nat.le_trans served.released (Nat.max_le.mpr ⟨consistent.released, behind⟩)
  have decided : Node.PullDecision.invalidRelease ∉ system.decisions ++
      (pullDecision system.node.session (Host.encodePullRequest request)).toList := by
    rw [pullDecision_of_valid _ valid, mem_append, Option.toList_some, mem_singleton]
    exact not_or.mpr ⟨consistent.decisions, accepted.symm⟩
  simp only
  split
  · rename_i required
    obtain ⟨token, truthful⟩ := served.prepared required
    refine consistent.moves accounts grows released ?_ decided
      fun _ sent => consistent.responses_grow grows sent
    rintro other payload ⟨⟩ - -
    exact truthful
  rename_i unprepared
  have answered := Bool.eq_false_iff.mpr unprepared
  refine consistent.moves accounts grows released
    (consistent.outstanding_grow grows (served.kept answered)) decided ?_
  intro payload sent
  rcases mem_append.mp sent with sent | sent
  · exact consistent.responses_grow grows sent
  · rw [mem_singleton.mp sent]
    exact served.answered answered

theorem Consistent.settle (consistent : system.Consistent start) (sent : Bool) :
    (system.settle sent).Consistent start := by
  rw [DeliverySystem.settle]
  split
  · exact consistent
  rename_i token payload waits
  split
  · obtain ⟨accounts, grows⟩ := consistent.accounts.perform (.complete token)
    have released : (system.node.perform (.complete token)).session.journal.released ≤
        system.durable.toNat := by
      refine Nat.le_trans (Nat.le_of_eq ?_) consistent.released
      exact Node.Serves.complete_released system.node.session token
    refine consistent.moves accounts grows released nofun consistent.decisions ?_
    intro other queued
    split at queued
    · rename_i done
      obtain ⟨same, held, reached⟩ := Node.Serves.delivered_of_complete done
      rcases mem_append.mp queued with queued | queued
      · exact consistent.responses_grow grows queued
      · rw [mem_singleton.mp queued]
        exact TruthfulPayload.grows grows reached
          (consistent.outstanding token payload waits same held)
    · exact consistent.responses_grow grows queued
  · obtain ⟨accounts, grows⟩ := consistent.accounts.perform (.abort token)
    have released : (system.node.perform (.abort token)).session.journal.released ≤
        system.durable.toNat := by
      refine Nat.le_trans (Nat.le_of_eq ?_) consistent.released
      exact (Node.Serves.abort_cursors system.node.session token).2
    exact consistent.moves accounts grows released nofun consistent.decisions
      fun _ queued => consistent.responses_grow grows queued

/-- A record that the session may take next is a true one. -/
def Truth (system : DeliverySystem limits) (call : SessionCall) : Prop :=
  ∀ record, call.Offers record → record.first = system.durable.toNat →
    record.stop ≤ reach system.node ∧ Holds system.node record

/-- A session that waits for no record. -/
theorem continues_of_idle (sound : session.Sound)
    (durable : session.cursors.durable = system.durable)
    (idle : session.phase.isPersisting = false) : system.Continues session where
  sound
  durable
  waiting := by
    intro persisting
    rw [idle] at persisting
    cases persisting

variable (continues : system.Continues session)

include consistent continues

theorem Consistent.continue : Consistent start { system with session := some session } :=
  { consistent with
    session := by
      rintro other ⟨⟩
      exact continues.of_same rfl rfl rfl }

/-- A pull asks to release the durable prefix. -/
theorem Consistent.began {bootEpoch : UInt64} {from_ : SequenceCursor} {maxSamples : UInt16}
    (built : Host.PullSamplesRequest.new bootEpoch from_ system.durable maxSamples = .ok request) :
    Consistent start
      { system with
        session := some session
        requests := system.requests ++ [Host.encodePullRequest request] } := by
  refine { consistent.continue continues with requests := ?_, session := ?_ }
  case refine_2 =>
    rintro other ⟨⟩
    exact continues.of_same rfl rfl rfl
  intro payload sent
  rcases mem_append.mp sent with sent | sent
  · exact consistent.requests payload sent
  have same := built
  rw [Host.PullSamplesRequest.new, guard_eq_ok, guard_eq_ok, guard_eq_ok] at same
  obtain ⟨-, -, -, same⟩ := same
  cases same
  exact ⟨_, mem_singleton.mp sent, built, Nat.le_refl _⟩

/-- An accepted record waits to be confirmed. -/
theorem Consistent.received {stop : SequenceCursor} (taken : (session.receive record stop).Sound ∧
      (session.receive record stop).pendingRecord = some record)
    (first : record.first = system.durable.toNat) (nonempty : record.first < record.stop)
    (last : record.stop = stop.toNat) (reached : record.stop ≤ reach system.node)
    (holds : Holds system.node record) : Consistent start
      { system with
        session := some (session.receive record stop)
        accepted := (session.receive record stop).pendingRecord } := by
  have cursors : (session.receive record stop).cursors =
      ⟨stop, session.cursors.durable, session.cursors.durable⟩ := by
    cases record <;> rfl
  refine { consistent with session := ?_ }
  rintro other ⟨⟩
  refine ⟨taken.1, ?_, fun _ => ⟨record, taken.2, first, nonempty, ?_, reached, holds⟩⟩
  · rw [cursors]
    exact continues.durable
  · rw [cursors]
    exact last

omit continues

/-- A confirmed record extends the tiled prefix. -/
theorem Consistent.confirmed {session : Option NodeSession} {accepted : Option SessionRecord}
    (first : record.first = system.durable.toNat) (nonempty : record.first < record.stop)
    (stop : record.stop = durable.toNat) (reached : record.stop ≤ reach system.node)
    (holds : Holds system.node record) (continues : ∀ other, session = some other →
      Continues { system with session, accepted, durable } other) : Consistent start
      { system with session, accepted, durable, confirmed := system.confirmed ++ [record] } := by
  have advanced : system.durable.toNat ≤ durable.toNat := by omega
  refine { consistent with
    released := Nat.le_trans consistent.released advanced
    covered := stop ▸ reached
    requests := ?_
    tiles := consistent.tiles.append (stop ▸ first ▸ .single nonempty)
    holds := ?_
    session := ?_ }
  · intro payload sent
    obtain ⟨request, same, valid, behind⟩ := consistent.requests payload sent
    exact ⟨request, same, valid, Nat.le_trans behind advanced⟩
  · intro other member
    rcases mem_append.mp member with member | member
    · exact consistent.holds other member
    · rw [mem_singleton.mp member]
      exact holds
  · intro other found
    exact (continues other found).of_same rfl rfl rfl

theorem Consistent.call {call : SessionCall} (truth : system.Truth call) :
    (system.call call).Consistent start := by
  rw [DeliverySystem.call]
  cases present : system.session with
  | none => exact consistent
  | some session =>
    have continues := consistent.session session present
    have transition := continues.sound.transition call
    have sound := transition.sound continues.sound
    simp only
    generalize session.perform call = outcome at transition sound
    obtain ⟨result, after⟩ := outcome
    cases transition with
    | refused error => exact consistent.continue continues
    | recovering error activePull phase =>
      exact consistent.continue (continues_of_idle sound continues.durable rfl)
    | began phase built =>
      rw [continues.durable] at built
      exact consistent.began (continues_of_idle sound continues.durable rfl) built
    | left next phase target =>
      refine consistent.continue (continues_of_idle sound continues.durable ?_)
      obtain rfl | rfl := target <;> rfl
    | noData phase => exact consistent.continue (continues_of_idle sound continues.durable rfl)
    | received record stop phase first nonempty last identity offered =>
      have idle := (continues.sound.idle (by rw [phase]; rfl)).1
      have begins : record.first = system.durable.toNat := by
        rw [first, idle, continues.durable]
      have pending := (continues.sound.receive phase first nonempty last identity).2
      obtain ⟨reached, holds⟩ := truth record offered begins
      exact consistent.received continues ⟨sound, pending⟩ begins nonempty last reached holds
    | handedOut record pending =>
      exact consistent.continue ⟨sound, continues.durable, continues.waiting⟩
    | confirmed persisting =>
      obtain ⟨record, found, first, nonempty, stop, reached, holds⟩ :=
        continues.waiting persisting
      rw [found]
      refine consistent.confirmed first nonempty stop reached holds ?_
      rintro other ⟨⟩
      exact continues_of_idle sound rfl rfl

omit consistent

/-- The calls that may put a record into the session. -/
def accepts : SessionCall → Bool
  | .acceptChunk _ _ | .acceptWireChunk _ | .acceptRangeUnavailable _ | .acceptGap _
  | .acceptContinuityBreak _ => true
  | _ => false

theorem accepts_of_offers {call : SessionCall} (offered : call.Offers record) :
    accepts call = true := by
  match record, offered with
  | .chunk (.legacy _ _), offered => rw [offered]; rfl
  | .chunk (.wire _), offered => rw [offered]; rfl
  | .gap _, .inl ⟨_, offered, _⟩ => rw [offered]; rfl
  | .gap _, .inr ⟨_, offered, _⟩ => rw [offered]; rfl
  | .continuityBreak _, ⟨_, offered, _⟩ => rw [offered]; rfl

theorem truth_of_not_accepts {call : SessionCall} (other : accepts call = false) :
    system.Truth call := by
  intro record offered
  rw [accepts_of_offers offered] at other
  cases other

variable (bounded : bound ≤ reach system.node)

include bounded

theorem truth_acceptWireChunk {chunk : Host.SampleChunk}
    (truthful : Truthful system.node bound (.sampleChunk chunk)) :
    system.Truth (.acceptWireChunk chunk) := by
  intro record offered first
  match record, offered with
  | .chunk (.wire _), rfl => exact ⟨Nat.le_trans truthful.1 bounded, truthful.2⟩
  | .gap _, .inl ⟨_, offered, _⟩ => cases offered
  | .gap _, .inr ⟨_, offered, _⟩ => cases offered
  | .continuityBreak _, ⟨_, offered, _⟩ => cases offered

theorem truth_acceptGap {evidence : Host.GapEvidence}
    (truthful : Truthful system.node bound (.gap evidence)) :
    system.Truth (.acceptGap evidence) := by
  intro record offered first
  match record, offered with
  | .gap missing, .inl ⟨_, rfl, begins, count, reason⟩ =>
    obtain ⟨stop, entries⟩ := truthful
    rw [← begins, ← count] at stop entries
    refine ⟨Nat.le_trans stop bounded, trivial, fun cursor lower upper => .inl ?_⟩
    rw [reason]
    exact entries cursor lower upper
  | .gap _, .inr ⟨_, offered, _⟩ => cases offered
  | .continuityBreak _, ⟨_, offered, _⟩ => cases offered

theorem truth_acceptContinuityBreak {evidence : Host.ContinuityBreakEvidence}
    (truthful : Truthful system.node bound (.continuityBreak evidence)) :
    system.Truth (.acceptContinuityBreak evidence) := by
  intro record offered first
  match record, offered with
  | .gap _, .inl ⟨_, offered, _⟩ => cases offered
  | .gap _, .inr ⟨_, offered, _⟩ => cases offered
  | .continuityBreak observed, ⟨_, rfl, at_, reason⟩ =>
    obtain ⟨stop, entry⟩ := truthful
    rw [← at_] at stop entry
    refine ⟨Nat.le_trans stop bounded, trivial, fun cursor lower upper => ?_⟩
    have same : cursor = observed.at_.toNat := by
      simp only [SessionRecord.first, SessionRecord.stop] at lower upper
      omega
    rw [HoldsAt, same, reason]
    exact entry

omit bounded

include consistent

/-- What the node has lost before it was durable has overflowed. -/
theorem Consistent.truth_acceptRangeUnavailable
    (truthful : Truthful system.node bound (.rangeUnavailable state)) :
    system.Truth (.acceptRangeUnavailable state) := by
  intro record offered first
  match record, offered with
  | .gap _, .inl ⟨_, offered, _⟩ => cases offered
  | .gap missing, .inr ⟨_, rfl, stop, reason⟩ =>
    have retained : state.retainedFrom.toNat ≤ system.node.session.journal.retainedFrom := truthful
    refine ⟨?_, trivial, fun cursor lower upper => .inr ⟨reason, ?_⟩⟩
    · change missing.firstMissing.toNat + missing.missingCount.toNat ≤ _
      rw [stop]
      exact Nat.le_trans retained (Nat.le_max_right _ _)
    change cursor < missing.firstMissing.toNat + missing.missingCount.toNat at upper
    have below : cursor < system.node.session.journal.retainedFrom := by omega
    refine (consistent.accounts.covers cursor below).resolve_right fun freed => ?_
    have released := consistent.accounts.released cursor freed
    have behind := consistent.released
    omega
  | .continuityBreak _, ⟨_, offered, _⟩ => cases offered

/-- A response leads the session to a true record, if to any. -/
theorem Consistent.truth (sent : payload ∈ system.responses) :
    system.Truth (responseCall payload) := by
  have truthful := consistent.responses payload sent
  have bounded : system.node.session.journal.delivered ≤ reach system.node := Nat.le_max_left _ _
  cases decoded : Host.decodePullResponse payload with
  | error error =>
    refine truth_of_not_accepts ?_
    rw [responseCall, decoded]
    cases error with
    | remoteError status => cases status <;> rfl
    | _ => rfl
  | ok response =>
    have true_ := truthful response decoded
    rw [responseCall, decoded]
    cases response with
    | sampleChunk chunk => exact truth_acceptWireChunk bounded true_
    | gap evidence => exact truth_acceptGap bounded true_
    | continuityBreak evidence => exact truth_acceptContinuityBreak bounded true_
    | rangeUnavailable state => exact consistent.truth_acceptRangeUnavailable true_
    | noData | streamChanged | invalidRelease => exact truth_of_not_accepts rfl

theorem Consistent.receive (payload : List UInt8) : (system.receive payload).Consistent start := by
  rw [DeliverySystem.receive]
  split
  · rename_i sent
    exact consistent.call (consistent.truth sent)
  · exact consistent

omit consistent

/-- The session that a restart leaves, if any. -/
def rebuilt (expected : ExpectedStreamState) (durable : SequenceCursor)
    (state : Host.StreamState) : Option NodeSession :=
  match Host.reconcileExistingCapture expected
      ⟨expected.hardwareId, expected.bootEpoch, durable⟩ state with
  | .ok stream => some stream.session
  | .error _ => none

theorem continues_rebuilt (found : rebuilt expected system.durable state = some session) :
    system.Continues session := by
  rw [rebuilt] at found
  split at found
  · rename_i stream done
    cases found
    obtain ⟨sound, phase, durable⟩ := Host.sound_reconciled done
    refine continues_of_idle sound durable ?_
    rw [phase]
    rfl
  · cases found

include consistent

theorem Consistent.restart (expected : ExpectedStreamState) (persisted : Bool)
    (state : Host.StreamState) : (system.restart expected persisted state).Consistent start := by
  have rebuild : Consistent start
      { system with accepted := none, session := rebuilt expected system.durable state } := by
    refine { consistent with session := ?_ }
    intro session found
    exact continues_rebuilt found
  cases persisted with
  | false => exact rebuild
  | true =>
    cases present : system.session with
    | none =>
      rw [DeliverySystem.restart, stored, present]
      exact rebuild
    | some session =>
      cases waits : system.accepted with
      | none =>
        rw [DeliverySystem.restart, stored, present, waits]
        exact rebuild
      | some record =>
        rw [DeliverySystem.restart, stored, present, waits]
        by_cases handed : session.phase.isPersisting ∧ session.pendingRecord = none
        · obtain ⟨other, found, first, nonempty, stop, reached, holds⟩ :=
            (consistent.session session present).waiting handed.1
          cases waits.symm.trans found
          simp only [if_pos handed, if_true]
          exact consistent.confirmed first nonempty stop reached holds
            fun session found => continues_rebuilt found
        simp only [if_neg handed, if_true]
        exact rebuild

theorem Consistent.step (expected : ExpectedStreamState) (step : DeliveryStep) :
    (system.step expected step).Consistent start := by
  cases step with
  | append event => exact consistent.append event
  | serve payload output => exact consistent.serve payload output
  | settle sent => exact consistent.settle sent
  | receive payload => exact consistent.receive payload
  | restart persisted state => exact consistent.restart expected persisted state
  | beginPull | abandonPullForRetry | takePendingPersistence | confirmDurable =>
    exact consistent.call (truth_of_not_accepts rfl)

theorem Consistent.run (expected : ExpectedStreamState) (steps : List DeliveryStep) :
    (system.run expected steps).Consistent start := by
  induction steps generalizing system with
  | nil => exact consistent
  | cons step steps ih => exact ih (consistent.step expected step)

omit consistent

/-- A session that was reconciled with the state the node reports. -/
theorem consistent_start (accounts : node.Accounts) {stream : Host.ReconciledStream}
    (reconciled : Host.reconcileExistingCapture expected
      ⟨expected.hardwareId, expected.bootEpoch, durable⟩
      (hostState (node.session.wireState node.session.journal.state)) = .ok stream)
    (covered : durable.toNat ≤ reach node) :
    (DeliverySystem.start node stream durable).Consistent durable.toNat := by
  obtain ⟨-, released, -⟩ := Host.reconcileExistingCapture_eq_ok reconciled
  obtain ⟨sound, phase, same⟩ := Host.sound_reconciled reconciled
  have reported : SameState node.session.bootEpoch node.session.journal.state
      (hostState (node.session.wireState node.session.journal.state)) :=
    sameState_wireState accounts.serves.represents accounts.serves.discarded_le
  refine ⟨accounts, ?_, covered, nofun, nofun, nofun, nofun, .nil _, nofun, ?_⟩
  · rw [UInt64.le_iff_toNat_le, reported.released_eq] at released
    exact released
  rintro session ⟨⟩
  refine continues_of_idle sound same ?_
  rw [phase]
  rfl

/-- A cursor below the durable one is recorded once. -/
theorem Consistent.recorded (consistent : system.Consistent start) {cursor : Nat}
    (above : start ≤ cursor) (below : cursor < system.durable.toNat) :
    ∃ left record right, system.confirmed = left ++ record :: right ∧
      record.first ≤ cursor ∧ cursor < record.stop ∧
      (∀ other ∈ left ++ right, ¬ (other.first ≤ cursor ∧ cursor < other.stop)) ∧
      HoldsAt system.node cursor record ∧ Timed system.node record := by
  obtain ⟨left, record, right, split, first, last, before, after⟩ :=
    consistent.tiles.exists_item above below
  have member : record ∈ system.confirmed := by rw [split]; simp
  obtain ⟨timed, holds⟩ := consistent.holds record member
  refine ⟨left, record, right, split, first, last, ?_, holds cursor first last, timed⟩
  intro other found
  rcases mem_append.mp found with found | found
  · have stops := before other found
    omega
  · have begins := after other found
    omega

end DeliverySystem

/-- In every run from a session that the node covers, each cursor up to the durable
one is recorded by one confirmed record, which holds what the node appended there
or accounts for its overflow. The node refuses no release, and frees nothing that
is not durable. -/
theorem delivers_exactly_once (limits : DeliveryLimits) (bootEpoch : UInt64)
    (events : List NodeEvent) (node : NodeTrace limits)
    (booted : node = (NodeTrace.initial limits bootEpoch).run events)
    (expected : ExpectedStreamState) (durable : SequenceCursor) (stream : Host.ReconciledStream)
    (reconciled : Host.reconcileExistingCapture expected
      ⟨expected.hardwareId, expected.bootEpoch, durable⟩
      (hostState (node.session.wireState node.session.journal.state)) = .ok stream)
    (covered : durable.toNat ≤ max node.session.journal.delivered node.session.journal.retainedFrom)
    (steps : List DeliveryStep) (system : DeliverySystem limits)
    (run : system = (DeliverySystem.start node stream durable).run expected steps) :
    (∀ cursor, durable.toNat ≤ cursor → cursor < system.durable.toNat →
      ∃ left record right, system.confirmed = left ++ record :: right ∧
        record.first ≤ cursor ∧ cursor < record.stop ∧
        (∀ other ∈ left ++ right, ¬ (other.first ≤ cursor ∧ cursor < other.stop)) ∧
        HoldsAt system.node cursor record ∧ Timed system.node record) ∧
    Node.PullDecision.invalidRelease ∉ system.decisions ∧
    (∀ payload ∈ system.responses, ∀ state,
      Host.decodePullResponse payload ≠ .ok (.invalidRelease state)) ∧
    ∀ cursor ∈ system.node.freed, cursor < system.durable.toNat := by
  have accounts : node.Accounts := booted ▸ (NodeTrace.Accounts.initial limits bootEpoch).run events
  have consistent : system.Consistent durable.toNat :=
    run ▸ (DeliverySystem.consistent_start accounts reconciled covered).run expected steps
  refine ⟨fun cursor above below => consistent.recorded above below, consistent.decisions, ?_, ?_⟩
  · intro payload sent state decoded
    exact consistent.responses payload sent _ decoded
  · intro cursor freed
    exact Nat.lt_of_lt_of_le (consistent.accounts.released cursor freed) consistent.released

def firstNode : NodeTrace smallLimits := (NodeTrace.initial smallLimits 7).run [firstSample]

/-- The first sample is pulled, and the answer to it is lost once. -/
def firstDelivery : List DeliveryStep :=
  let serves := DeliveryStep.serve (Host.encodePullRequest firstPull) (replicate 75 0)
  [.beginPull 4, serves, .settle true, .abandonPullForRetry, .beginPull 4, serves, .settle true,
    .receive (firstNode.session.handle Node.Wire.pullSamplesMessageId
      (Host.encodePullRequest firstPull) (replicate 75 0)).payload,
    .takePendingPersistence, .confirmDurable ⟨Vector.replicate 8 0, 7, 1⟩]

/-- The session of a stream without durable records. -/
def firstReconciled : Host.ReconciledStream where
  session := { Host.freshSession with bootEpoch := 7 }
  continuity := .contiguous

/-- The lost answer leaves one record, which holds the sample. -/
theorem delivers_exactly_once_firstDelivery :
    let system := (DeliverySystem.start firstNode firstReconciled 0).run firstStream firstDelivery
    system.durable = 1 ∧ ∃ left record right, system.confirmed = left ++ record :: right ∧
      record.first ≤ 0 ∧ 0 < record.stop ∧
      (∀ other ∈ left ++ right, ¬ (other.first ≤ 0 ∧ 0 < other.stop)) ∧
      HoldsAt system.node 0 record ∧ Timed system.node record := by
  intro system
  have durable : system.durable = 1 := by decide +kernel
  have delivered := delivers_exactly_once smallLimits 7 [firstSample] firstNode rfl firstStream 0
    firstReconciled (by decide +kernel) (by decide +kernel) firstDelivery system rfl
  exact ⟨durable, delivered.1 0 (Nat.le_refl _) (by rw [durable]; decide)⟩

end SensorSystem.System
