import SensorSystem.Host.Session.SessionCalls

/-! Soundness holds after every call, and along a run the accepted records tile the stream from
the initial durable cursor to the received one. -/

namespace SensorSystem.Host

open List NodeSession Option
open Base

namespace NodeSession

variable {session : NodeSession}

/-- A session without a record in flight. -/
theorem sound_of_idle (ordered : session.cursors.Ordered)
    (idle : session.phase.isPersisting = false)
    (equal : session.cursors.received = session.cursors.durable)
    (cleared : session.pendingChunk = none ∧ session.pendingGap = none ∧
      session.pendingContinuityBreak = none ∧ session.pendingReceipt = none)
    (ready : session.phase = .ready → session.activePull = none)
    (awaiting : session.phase = .awaitingPull → ∃ request, session.activePull = some request ∧
      request.bootEpoch = session.bootEpoch ∧ request.start = session.cursors.received ∧
      request.releaseBefore = session.cursors.durable) : session.Sound where
  ordered
  ready
  awaiting
  idle := fun _ => ⟨equal, cleared.2.2.2⟩
  chunk := fun _ => cleared.1
  gap := fun _ => cleared.2.1
  continuityBreak := fun _ => cleared.2.2.1
  persisting := fun persisting => by
    rw [idle] at persisting
    cases persisting
  pending := by
    intro record pending
    rw [pendingRecord, cleared.1, cleared.2.1, cleared.2.2.1] at pending
    cases phase : session.phase <;> rw [phase] at pending <;> cases pending

/-- Nothing waits in a session that is not persisting. -/
theorem Sound.cleared (sound : session.Sound) (idle : session.phase.isPersisting = false) :
    session.pendingChunk = none ∧ session.pendingGap = none ∧
      session.pendingContinuityBreak = none ∧ session.pendingReceipt = none := by
  refine ⟨sound.chunk ?_, sound.gap ?_, sound.continuityBreak ?_, (sound.idle idle).2⟩
  all_goals
    intro phase
    rw [phase] at idle
    exact nomatch idle

/-- A recovered session waits for its first pull. -/
theorem sound_recovered {hardwareId : HardwareId} {bootEpoch : BootEpoch}
    {durable released : SequenceCursor}
    (recovered : NodeSession.recovered hardwareId bootEpoch durable released = .ok session) :
    session.Sound ∧ session.cursors.received = durable ∧ session.pendingRecord = none := by
  rw [NodeSession.recovered] at recovered
  cases built : DeliveryCursors.new durable durable released with
  | error error =>
    rw [built] at recovered
    exact nomatch recovered
  | ok cursors =>
    rw [built] at recovered
    cases recovered
    obtain ⟨rfl, ordered⟩ := DeliveryCursors.ordered_of_new built
    exact ⟨sound_of_idle ordered rfl rfl ⟨rfl, rfl, rfl, rfl⟩ (fun _ => rfl) nofun, rfl, rfl⟩

/-- An accepted record is the only one in the session. -/
theorem Sound.receive (sound : session.Sound) (phase : session.phase = .awaitingPull)
    {record : SessionRecord} {stop : SequenceCursor}
    (first : record.first = session.cursors.received.toNat)
    (nonempty : record.first < record.stop) (last : record.stop = stop.toNat)
    (identity : record.BelongsTo session.hardwareId session.bootEpoch) :
    (session.receive record stop).Sound ∧
      (session.receive record stop).pendingRecord = some record := by
  have idle : session.phase.isPersisting = false := by rw [phase]; rfl
  obtain ⟨chunk, gap, mark, -⟩ := sound.cleared idle
  obtain ⟨equal, -⟩ := sound.idle idle
  have advanced : session.cursors.durable ≤ stop := by
    rw [UInt64.le_iff_toNat_le, ← equal]
    omega
  have start : record.first = session.cursors.durable.toNat := by rw [first, equal]
  cases record with
  | chunk body =>
    refine ⟨⟨⟨UInt64.le_rfl, advanced⟩, nofun, nofun, nofun, fun other => absurd rfl other,
      fun _ => gap, fun _ => mark, fun _ => ⟨rfl, rfl⟩, ?_⟩, rfl⟩
    rintro other ⟨⟩
    exact ⟨start, nonempty, last, identity⟩
  | gap missing =>
    refine ⟨⟨⟨UInt64.le_rfl, advanced⟩, nofun, nofun, nofun, fun _ => chunk,
      fun other => absurd rfl other, fun _ => mark, fun _ => ⟨rfl, rfl⟩, ?_⟩, rfl⟩
    rintro other ⟨⟩
    exact ⟨start, nonempty, last, identity⟩
  | continuityBreak observed =>
    refine ⟨⟨⟨UInt64.le_rfl, advanced⟩, nofun, nofun, nofun, fun _ => chunk, fun _ => gap,
      fun other => absurd rfl other, fun _ => ⟨rfl, rfl⟩, ?_⟩, rfl⟩
    rintro other ⟨⟩
    exact ⟨start, nonempty, last, identity⟩

theorem pendingRecord_withoutPending (session : NodeSession) :
    session.withoutPending.pendingRecord = none := by
  cases phase : session.phase <;> simp [pendingRecord, withoutPending, phase]

/-- Soundness is kept by every effect. -/
theorem Transition.sound {call : SessionCall} {before after : NodeSession}
    {result : Except SessionError SessionReply} (sound : before.Sound)
    (transition : Transition call before result after) : after.Sound := by
  have awaiting (phase : before.phase = .awaitingPull) : before.phase.isPersisting = false := by
    rw [phase]; rfl
  cases transition with
  | refused error => exact sound
  | recovering error activePull phase =>
    exact sound_of_idle sound.ordered rfl (sound.idle (awaiting phase)).1
      (sound.cleared (awaiting phase)) (by rintro ⟨⟩) (by rintro ⟨⟩)
  | @began request maxSamples phase built =>
    have idle : before.phase.isPersisting = false := by rw [phase]; rfl
    refine sound_of_idle sound.ordered rfl (sound.idle idle).1 (sound.cleared idle)
      (by rintro ⟨⟩) ?_
    intro _
    rw [PullSamplesRequest.new, guard_eq_ok, guard_eq_ok, guard_eq_ok] at built
    obtain ⟨-, -, -, built⟩ := built
    cases built
    exact ⟨_, rfl, rfl, rfl, rfl⟩
  | left next phase target =>
    obtain rfl | rfl := target
    · exact sound_of_idle sound.ordered rfl (sound.idle (awaiting phase)).1
        (sound.cleared (awaiting phase)) (fun _ => rfl) (by rintro ⟨⟩)
    · exact sound_of_idle sound.ordered rfl (sound.idle (awaiting phase)).1
        (sound.cleared (awaiting phase)) (by rintro ⟨⟩) (by rintro ⟨⟩)
  | noData phase =>
    exact sound_of_idle ⟨UInt64.le_rfl, sound.ordered.durable_le⟩ rfl
      (sound.idle (awaiting phase)).1 (sound.cleared (awaiting phase)) (fun _ => rfl) (by rintro ⟨⟩)
  | received record stop phase first nonempty last identity offered =>
    exact (sound.receive phase first nonempty last identity).1
  | handedOut record pending =>
    refine ⟨sound.ordered, sound.ready, sound.awaiting, sound.idle, fun _ => rfl, fun _ => rfl,
      fun _ => rfl, sound.persisting, ?_⟩
    intro other pending
    rw [pendingRecord_withoutPending] at pending
    cases pending
  | confirmed persisting =>
    exact sound_of_idle
      ⟨UInt64.le_trans sound.ordered.released_le sound.ordered.durable_le, UInt64.le_rfl⟩ rfl rfl
      ⟨rfl, rfl, rfl, rfl⟩ (fun _ => (sound.persisting persisting).1) (by rintro ⟨⟩)

/-- Sessions as `recovered` and the calls of a session build them. -/
inductive Built : NodeSession → Prop
  | recovered {hardwareId : HardwareId} {bootEpoch : BootEpoch} {durable released : SequenceCursor}
      {session : NodeSession}
      (done : NodeSession.recovered hardwareId bootEpoch durable released = .ok session) :
    Built session
  | called {session : NodeSession} (built : Built session) (call : SessionCall) :
    Built (session.perform call).2

theorem Built.sound (built : Built session) : session.Sound := by
  induction built with
  | recovered done => exact (sound_recovered done).1
  | called built call ih => exact (ih.transition call).sound ih

end NodeSession

/-- A session with what its calls have accepted, handed out and confirmed. -/
structure SessionHistory where
  session : NodeSession
  accepted : List SessionRecord := []
  handedOut : List PendingPersistence := []
  unclaimed : List SessionRecord := []

namespace SessionHistory

def perform (history : SessionHistory) (call : SessionCall) : SessionHistory :=
  match history.session.perform call with
  | (.ok .accepted, session) =>
    { history with session, accepted := history.accepted ++ session.pendingRecord.toList }
  | (.ok (.handedOut record), session) =>
    { history with session, handedOut := history.handedOut ++ [record] }
  | (.ok .confirmed, session) =>
    { history with
      session
      unclaimed := history.unclaimed ++ history.session.pendingRecord.toList }
  | (_, session) => { history with session }

def run (history : SessionHistory) (calls : List SessionCall) : SessionHistory :=
  calls.foldl perform history

/-- The records taken out of the session or still waiting in it. -/
def claimed (history : SessionHistory) : List SessionRecord :=
  history.handedOut.map PendingPersistence.record ++ history.session.pendingRecord.toList

/-- What a run keeps. -/
structure Keeps (start : Nat) (history : SessionHistory) : Prop where
  sound : history.session.Sound
  tiles : Tiles SessionRecord.first SessionRecord.stop start
    history.session.cursors.received.toNat history.accepted
  claims : history.claimed.Sublist history.accepted
  complete : history.unclaimed = [] → history.claimed = history.accepted

variable {history : SessionHistory} {start : Nat} (keeps : Keeps start history)

include keeps

/-- A history whose session kept its records. -/
theorem Keeps.of_same {session : NodeSession} (sound : session.Sound)
    (received : session.cursors.received = history.session.cursors.received)
    (pending : session.pendingRecord = history.session.pendingRecord) :
    Keeps start { history with session } where
  sound
  tiles := by
    rw [received]
    exact keeps.tiles
  claims := by
    rw [claimed, pending]
    exact keeps.claims
  complete := by
    rw [claimed, pending]
    exact keeps.complete

theorem Keeps.perform (call : SessionCall) : Keeps start (history.perform call) := by
  have transition := keeps.sound.transition call
  have sound := transition.sound keeps.sound
  rw [SessionHistory.perform]
  generalize history.session.perform call = outcome at transition sound
  obtain ⟨result, after⟩ := outcome
  simp only at transition sound
  cases transition with
  | refused error => exact keeps
  | recovering error activePull phase =>
    exact keeps.of_same sound rfl (by rw [pendingRecord, pendingRecord, phase])
  | began phase built =>
    exact keeps.of_same sound rfl (by rw [pendingRecord, pendingRecord, phase])
  | left next phase target =>
    refine keeps.of_same sound rfl ?_
    obtain rfl | rfl := target <;> rw [pendingRecord, pendingRecord, phase]
  | noData phase =>
    exact keeps.of_same sound rfl (by rw [pendingRecord, pendingRecord, phase])
  | received record stop phase first nonempty last identity offered =>
    have waiting := (keeps.sound.receive phase first nonempty last identity).2
    have empty : history.session.pendingRecord = none := by rw [pendingRecord, phase]
    have claims := keeps.claims
    have complete := keeps.complete
    rw [claimed, empty, toList_none, append_nil] at claims complete
    have cursor : (history.session.receive record stop).cursors.received = stop := by
      cases record <;> rfl
    refine ⟨sound, ?_, ?_, ?_⟩
    · simp only [waiting, cursor, toList_some]
      rw [← last]
      exact keeps.tiles.append (first ▸ .single nonempty)
    · simp only [claimed, waiting, toList_some]
      exact claims.append (Sublist.refl _)
    · simp only [claimed, waiting, toList_some]
      intro none
      rw [complete none]
  | handedOut record pending =>
    have claims := keeps.claims
    have complete := keeps.complete
    rw [claimed, pending, toList_some] at claims complete
    have moved : claimed { history with
        session := history.session.withoutPending
        handedOut := history.handedOut ++ [record] } =
        history.handedOut.map PendingPersistence.record ++ [record.record] := by
      rw [claimed, pendingRecord_withoutPending]
      simp
    refine ⟨sound, keeps.tiles, ?_, ?_⟩
    · rw [moved]
      exact claims
    · rw [moved]
      exact complete
  | confirmed persisting =>
    have claims := keeps.claims
    have complete := keeps.complete
    refine ⟨sound, keeps.tiles, ?_, ?_⟩
    · refine Sublist.trans ?_ claims
      exact Sublist.append (Sublist.refl _) (nil_sublist _)
    intro none
    obtain ⟨earlier, waiting⟩ := append_eq_nil_iff.mp none
    rw [claimed, waiting] at complete
    exact complete earlier

theorem Keeps.run (calls : List SessionCall) : Keeps start (history.run calls) := by
  induction calls generalizing history with
  | nil => exact keeps
  | cons call calls ih => exact ih (keeps.perform call)

theorem Keeps.tiles_handedOut (taken : history.unclaimed = []) :
    Tiles SessionRecord.first SessionRecord.stop start
      (match history.session.pendingRecord with
        | none => history.session.cursors.received.toNat
        | some _ => history.session.cursors.durable.toNat)
      (history.handedOut.map PendingPersistence.record) := by
  have tiles := keeps.tiles
  rw [← keeps.complete taken, claimed] at tiles
  cases pending : history.session.pendingRecord with
  | none =>
    rw [pending, toList_none, append_nil] at tiles
    exact tiles
  | some record =>
    rw [pending, toList_some] at tiles
    obtain ⟨middle, front, back⟩ := tiles.split
    cases back with
    | cons nonempty rest =>
      rw [(keeps.sound.pending record pending).1] at front
      exact front

omit keeps

end SessionHistory

/-- A failing call keeps the cursors. -/
theorem NodeSession.Transition.failed {call : SessionCall} {before after : NodeSession}
    {error : SessionError} (transition : Transition call before (.error error) after) :
    after.cursors = before.cursors ∧
      (after.phase = before.phase ∨ after.phase = .recoveryRequired) := by
  cases transition with
  | refused => exact ⟨rfl, .inl rfl⟩
  | recovering => exact ⟨rfl, .inr rfl⟩

/-- Every run of calls on a recovered session keeps its cursors ordered and each
phase's fields consistent. The accepted records tile the stream from the initial
durable cursor to the received one. Those handed out are among them in order, and
tile it themselves when none was confirmed before it was taken. A failing call
leaves the cursors, and the phase unless it moves to recovery. -/
theorem session_accounts_for_stream (hardwareId : HardwareId) (bootEpoch : BootEpoch)
    (durable released : SequenceCursor) (session : NodeSession)
    (recovered : NodeSession.recovered hardwareId bootEpoch durable released = .ok session)
    (calls : List SessionCall) (history : SessionHistory)
    (run : history = SessionHistory.run { session } calls) :
    (history.session.cursors.released ≤ history.session.cursors.durable ∧
      history.session.cursors.durable ≤ history.session.cursors.received) ∧
    (history.session.phase = .ready →
      history.session.cursors.received = history.session.cursors.durable ∧
        history.session.activePull = none ∧ history.session.pendingReceipt = none) ∧
    (history.session.phase = .awaitingPull → ∃ request,
      history.session.activePull = some request ∧
        request.start = history.session.cursors.received ∧
        request.releaseBefore = history.session.cursors.durable) ∧
    (history.session.phase.isPersisting = true → ∃ receipt,
      history.session.pendingReceipt = some receipt ∧
        receipt.stop = history.session.cursors.received) ∧
    Tiles SessionRecord.first SessionRecord.stop durable.toNat
      history.session.cursors.received.toNat history.accepted ∧
    (history.handedOut.map PendingPersistence.record).Sublist history.accepted ∧
    (history.unclaimed = [] →
      Tiles SessionRecord.first SessionRecord.stop durable.toNat
        (match history.session.pendingRecord with
          | none => history.session.cursors.received.toNat
          | some _ => history.session.cursors.durable.toNat)
        (history.handedOut.map PendingPersistence.record)) ∧
    ∀ call error, (history.session.perform call).1 = .error error →
      (history.session.perform call).2.cursors = history.session.cursors ∧
        ((history.session.perform call).2.phase = history.session.phase ∨
          (history.session.perform call).2.phase = .recoveryRequired) := by
  obtain ⟨sound, received, empty⟩ := NodeSession.sound_recovered recovered
  have initial : SessionHistory.Keeps durable.toNat { session } := by
    refine ⟨sound, ?_, ?_, ?_⟩
    · simp only [received]
      exact .nil _
    · simp [SessionHistory.claimed, empty]
    · simp [SessionHistory.claimed, empty]
  have keeps : SessionHistory.Keeps durable.toNat history := run ▸ initial.run calls
  refine ⟨⟨keeps.sound.ordered.released_le, keeps.sound.ordered.durable_le⟩, ?_, ?_, ?_,
    keeps.tiles,
    ?_, keeps.tiles_handedOut, ?_⟩
  · intro phase
    obtain ⟨equal, receipt⟩ := keeps.sound.idle (by rw [phase]; rfl)
    exact ⟨equal, keeps.sound.ready phase, receipt⟩
  · intro phase
    obtain ⟨request, active, -, start, release⟩ := keeps.sound.awaiting phase
    exact ⟨request, active, start, release⟩
  · intro persisting
    exact ⟨_, (keeps.sound.persisting persisting).2, rfl⟩
  · exact (List.sublist_append_left _ _).trans keeps.claims
  · intro call error failed
    have transition := keeps.sound.transition call
    rw [failed] at transition
    exact transition.failed

/-- A session of a stream that starts at its origin. -/
def freshSession : NodeSession where
  hardwareId := Vector.replicate 8 0
  bootEpoch := 1
  cursors := ⟨0, 0, 0⟩
  phase := .ready
  activePull := none
  pendingChunk := none
  pendingGap := none
  pendingContinuityBreak := none
  pendingReceipt := none

/-- A gap confirmed where it lies, and one that is taken. -/
def partlyTakenCalls : List SessionCall :=
  [.beginPull 8, .acceptGap ⟨1, 0, 3, 0, 3, .sourceLoss⟩,
    .confirmDurable ⟨Vector.replicate 8 0, 1, 3⟩,
    .beginPull 8, .acceptGap ⟨1, 0, 5, 3, 2, .sourceLoss⟩, .takePendingPersistence]

theorem session_accounts_for_partlyTakenCalls :
    NodeSession.recovered (Vector.replicate 8 0) 1 0 0 = .ok freshSession ∧
      Tiles SessionRecord.first SessionRecord.stop 0
        (SessionHistory.run { session := freshSession }
          partlyTakenCalls).session.cursors.received.toNat
        (SessionHistory.run { session := freshSession } partlyTakenCalls).accepted :=
  ⟨rfl, (session_accounts_for_stream (Vector.replicate 8 0) 1 0 0 freshSession rfl
    partlyTakenCalls _ rfl).2.2.2.2.1⟩

/-- What is handed out need not tile the stream: a confirmation does not wait for it. -/
theorem handedOut_not_tiling :
    NodeSession.recovered (Vector.replicate 8 0) 1 0 0 = .ok freshSession ∧
      ¬ Tiles SessionRecord.first SessionRecord.stop 0
        (SessionHistory.run { session := freshSession }
          partlyTakenCalls).session.cursors.received.toNat
        ((SessionHistory.run { session := freshSession } partlyTakenCalls).handedOut.map
          PendingPersistence.record) := by
  refine ⟨rfl, ?_⟩
  have handed : (SessionHistory.run { session := freshSession } partlyTakenCalls).handedOut.map
      PendingPersistence.record =
      [.gap ⟨Vector.replicate 8 0, 1, 3, 2, .sourceLoss, by decide, by decide⟩] := rfl
  rw [handed]
  intro tiles
  obtain ⟨left, item, right, split, lower, -⟩ := tiles.exists_item (Nat.le_refl 0) (by decide)
  have member : item ∈ left ++ item :: right := by simp
  rw [← split, List.mem_singleton] at member
  rw [member] at lower
  exact absurd lower (by decide)

end SensorSystem.Host
