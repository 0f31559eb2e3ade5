import SensorSystem.Host.Retention.RetentionRoundTrip

/-! What each call can do to the state, and what a run of calls keeps: an event that is recorded
stays, and the state can be read back until an archive deletion is recorded that is older than the
capture deletion. -/

namespace SensorSystem.Host

open Option RetentionState
open Base

namespace RetentionState

variable {state next : RetentionState} {archive : ArchiveIdentity} {time : TrustedUnixSeconds}
  {policy : RetentionPolicy} {changed : Bool}

theorem requireArchive_eq_ok :
    state.requireArchive archive = .ok () ↔ state.archive = some archive := by
  unfold requireArchive
  cases state.archive with
  | none => simp
  | some existing =>
    by_cases same : existing = archive
    · simp [same]
    · simp [same]

variable {duration : UInt64} {sum : TrustedUnixSeconds} {fresh : Prop}

theorem addDuration_eq_ok : addDuration time duration = .ok sum ↔
      duration ≠ 0 ∧ time.toNat + duration.toNat = sum.toNat := by
  rw [addDuration, guard_eq_ok, ← checkedAdd_eq_some]
  cases checkedAdd time duration <;> simp

/-- A deadline is past the time it was counted from. -/
theorem lt_of_addDuration (added : addDuration time duration = .ok sum) : time < sum := by
  obtain ⟨nonzero, total⟩ := addDuration_eq_ok.mp added
  rw [UInt64.lt_iff_toNat_lt]
  have positive : duration.toNat ≠ 0 := fun zero => nonzero (UInt64.toNat_inj.mp zero)
  omega

/-- The event is recorded now, or it was before. -/
def Outcome (state : RetentionState) (fresh same : Prop) (recorded next : RetentionState)
    (changed : Bool) : Prop :=
  (fresh ∧ next = recorded ∧ changed = true) ∨ (same ∧ next = state ∧ changed = false)

variable {recorded : RetentionState}

/-- What a call answers when the event was recorded before. -/
theorem again_eq_ok {α : Type} [DecidableEq α] {existing value : α} {error : Error}
    (stale : ¬ fresh) :
    (if existing = value then .ok (state, false) else .error error : Transition) =
        .ok (next, changed) ↔
      Outcome state fresh (some existing = some value) recorded next changed := by
  rw [Outcome]
  by_cases same : existing = value
  · simp [stale, same, eq_comm]
  rw [if_neg same]
  simp [stale, same]

theorem first_eq_ok {α : Type} {value : α} :
    (.ok (recorded, true) : Transition) = .ok (next, changed) ↔
      Outcome state ((none : Option α) = none) (none = some value) recorded next changed := by
  simp [Outcome, eq_comm]

theorem bindArchive_eq_ok : state.bindArchive archive = .ok (next, changed) ↔
    ¬ archive.IsZero ∧ Outcome state (state.archive = none) (state.archive = some archive)
      { state with archive := some archive } next changed := by
  rw [bindArchive, check_eq_ok, checkArchiveIdentity_eq_ok]
  refine and_congr_right fun _ => ?_
  cases state.archive with
  | none => exact first_eq_ok
  | some existing => exact again_eq_ok nofun

theorem markArchiveVerified_eq_ok : state.markArchiveVerified archive time = .ok (next, changed) ↔
      state.archive = some archive ∧ state.validatedAt ≤ time ∧
        Outcome state (state.archiveVerifiedAt = none) (state.archiveVerifiedAt = some time)
          { state with archiveVerifiedAt := some time } next changed := by
  rw [markArchiveVerified, check_eq_ok, requireArchive_eq_ok, check_eq_ok,
    requireNotBefore_eq_ok]
  refine and_congr_right fun _ => and_congr_right fun _ => ?_
  cases state.archiveVerifiedAt with
  | none => exact first_eq_ok
  | some existing => exact again_eq_ok nofun

/-- The state with an acknowledgement and its deadlines. -/
def acknowledged (state : RetentionState) (time capture product : TrustedUnixSeconds) :
    RetentionState :=
  { state with
    replicationAcknowledgedAt := some time
    captureDeleteAfter := some capture
    archiveDeleteAfter := some product }

theorem recordAcknowledgement_eq_ok {capture product : TrustedUnixSeconds} :
    state.recordAcknowledgement time capture product = .ok (next, changed) ↔
      Outcome state (state.replicationAcknowledgedAt = none)
        (state.replicationAcknowledgedAt = some time ∧
          state.captureDeleteAfter = some capture ∧ state.archiveDeleteAfter = some product)
        (state.acknowledged time capture product) next changed := by
  rw [recordAcknowledgement, Outcome, acknowledged]
  cases state.replicationAcknowledgedAt with
  | none => simp [eq_comm]
  | some existing =>
    by_cases same : existing = time ∧ state.captureDeleteAfter = some capture ∧
        state.archiveDeleteAfter = some product
    · simp [same, eq_comm]
    dsimp only
    rw [if_neg same]
    simp [same]

theorem markReplicationAcknowledged_eq_ok :
    state.markReplicationAcknowledged archive time policy = .ok (next, changed) ↔
      state.archive = some archive ∧ ∃ verified capture product,
        state.archiveVerifiedAt = some verified ∧ verified ≤ time ∧
        addDuration time policy.captureGraceSeconds = .ok capture ∧
        addDuration time policy.archiveRetentionSeconds = .ok product ∧
        Outcome state (state.replicationAcknowledgedAt = none)
          (state.replicationAcknowledgedAt = some time ∧
            state.captureDeleteAfter = some capture ∧ state.archiveDeleteAfter = some product)
          (state.acknowledged time capture product) next changed := by
  rw [markReplicationAcknowledged, check_eq_ok, requireArchive_eq_ok]
  refine and_congr_right fun _ => ?_
  cases state.archiveVerifiedAt with
  | none => simp
  | some verified =>
    rw [check_eq_ok, requireNotBefore_eq_ok]
    constructor
    · rintro ⟨later, continued⟩
      obtain ⟨capture, captureAdded, continued⟩ := bind_eq_ok.mp continued
      obtain ⟨product, productAdded, continued⟩ := bind_eq_ok.mp continued
      refine ⟨verified, capture, product, rfl, later, captureAdded, productAdded, ?_⟩
      exact recordAcknowledgement_eq_ok.mp continued
    rintro ⟨_, capture, product, same, later, captureAdded, productAdded, outcome⟩
    cases same
    refine ⟨later, bind_eq_ok.mpr ⟨capture, captureAdded, bind_eq_ok.mpr
      ⟨product, productAdded, ?_⟩⟩⟩
    exact recordAcknowledgement_eq_ok.mpr outcome

theorem markCaptureDeleted_eq_ok : state.markCaptureDeleted time = .ok (next, changed) ↔
      Outcome state ((state.decision time).captureDeletable) (state.captureDeletedAt = some time)
        { state with captureDeletedAt := some time } next changed := by
  rw [markCaptureDeleted, decision]
  cases state.captureDeletedAt with
  | none =>
    rw [Outcome]
    by_cases due : state.captureDeleteAfter.any (· ≤ time) <;> simp [due, eq_comm]
  | some existing => exact again_eq_ok (by simp)

theorem markArchiveDeleted_eq_ok : state.markArchiveDeleted time = .ok (next, changed) ↔
      Outcome state ((state.decision time).archiveDeletable) (state.archiveDeletedAt = some time)
        { state with archiveDeletedAt := some time } next changed := by
  rw [markArchiveDeleted, decision]
  cases state.archiveDeletedAt with
  | none =>
    rw [Outcome]
    by_cases due : state.captureDeletedAt.isSome && state.archiveDeleteAfter.any (· ≤ time) <;>
      simp [due, eq_comm]
  | some existing => exact again_eq_ok (by simp)

theorem outcome_true {same : Prop} :
    Outcome state fresh same recorded next true ↔ fresh ∧ next = recorded := by
  simp [Outcome]

theorem outcome_false {same : Prop} :
    Outcome state fresh same recorded next false ↔ same ∧ next = state := by
  simp [Outcome]

/-- Nothing that is recorded is taken back. -/
structure Extends (state next : RetentionState) : Prop where
  validatedAt : next.validatedAt = state.validatedAt
  archive : ∀ value, state.archive = some value → next.archive = some value
  verified : ∀ value, state.archiveVerifiedAt = some value → next.archiveVerifiedAt = some value
  acknowledged : ∀ value, state.replicationAcknowledgedAt = some value →
    next.replicationAcknowledgedAt = some value ∧
      next.captureDeleteAfter = state.captureDeleteAfter ∧
        next.archiveDeleteAfter = state.archiveDeleteAfter
  capture : ∀ value, state.captureDeletedAt = some value → next.captureDeletedAt = some value
  product : ∀ value, state.archiveDeletedAt = some value → next.archiveDeletedAt = some value

end RetentionState

namespace RetentionCall

open RetentionState (Outcome outcome_true outcome_false Extends)

variable {state next : RetentionState} {call : RetentionCall}

/-- The state says what the call is about. -/
def Recorded : RetentionCall → RetentionState → Prop
  | bindArchive archive, state => ¬ archive.IsZero ∧ state.archive = some archive
  | markArchiveVerified archive time, state =>
    state.archive = some archive ∧ state.validatedAt ≤ time ∧
      state.archiveVerifiedAt = some time
  | markReplicationAcknowledged archive time policy, state =>
    state.archive = some archive ∧ ∃ verified capture product,
      state.archiveVerifiedAt = some verified ∧ verified ≤ time ∧
      addDuration time policy.captureGraceSeconds = .ok capture ∧
      addDuration time policy.archiveRetentionSeconds = .ok product ∧
      state.replicationAcknowledgedAt = some time ∧ state.captureDeleteAfter = some capture ∧
        state.archiveDeleteAfter = some product
  | markCaptureDeleted time, state => state.captureDeletedAt = some time
  | markArchiveDeleted time, state => state.archiveDeletedAt = some time

/-- A call changes nothing exactly when the state says it already. -/
theorem settled_iff : Checkpoint.Settled call.perform state ↔ call.Recorded state := by
  unfold Checkpoint.Settled
  cases call with
  | markReplicationAcknowledged archive time policy =>
    simp only [perform, Recorded, markReplicationAcknowledged_eq_ok, outcome_false]
    constructor
    · rintro ⟨_, bound, verified, capture, product, verifies, later, captureAdded, productAdded,
        recorded, -⟩
      exact ⟨bound, verified, capture, product, verifies, later, captureAdded, productAdded,
        recorded⟩
    rintro ⟨bound, verified, capture, product, verifies, later, captureAdded, productAdded,
      recorded⟩
    exact ⟨state, bound, verified, capture, product, verifies, later, captureAdded,
      productAdded, recorded, rfl⟩
  | _ =>
    simp only [perform, Recorded, bindArchive_eq_ok,
      markArchiveVerified_eq_ok, markCaptureDeleted_eq_ok,
      markArchiveDeleted_eq_ok, outcome_false, exists_and_left, exists_eq, and_true]

variable (changes : call.perform state = .ok (next, true))

include changes

theorem recorded_of_perform : call.Recorded next := by
  cases call with
  | bindArchive archive =>
    obtain ⟨nonzero, outcome⟩ := bindArchive_eq_ok.mp changes
    obtain ⟨-, rfl⟩ := outcome_true.mp outcome
    exact ⟨nonzero, rfl⟩
  | markArchiveVerified archive time =>
    obtain ⟨bound, later, outcome⟩ := markArchiveVerified_eq_ok.mp changes
    obtain ⟨-, rfl⟩ := outcome_true.mp outcome
    exact ⟨bound, later, rfl⟩
  | markReplicationAcknowledged archive time policy =>
    obtain ⟨bound, verified, capture, product, verifies, later, captureAdded, productAdded,
      outcome⟩ := markReplicationAcknowledged_eq_ok.mp changes
    obtain ⟨-, rfl⟩ := outcome_true.mp outcome
    exact ⟨bound, verified, capture, product, verifies, later, captureAdded, productAdded, rfl,
      rfl, rfl⟩
  | markCaptureDeleted time =>
    obtain ⟨-, rfl⟩ := outcome_true.mp (markCaptureDeleted_eq_ok.mp changes)
    rfl
  | markArchiveDeleted time =>
    obtain ⟨-, rfl⟩ := outcome_true.mp (markArchiveDeleted_eq_ok.mp changes)
    rfl

theorem extends_of_perform : Extends state next := by
  cases call with
  | bindArchive archive =>
    obtain ⟨-, outcome⟩ := bindArchive_eq_ok.mp changes
    obtain ⟨unbound, rfl⟩ := outcome_true.mp outcome
    exact ⟨rfl, fun _ held => (nomatch unbound.symm.trans held), fun _ held => held,
      fun _ held => ⟨held, rfl, rfl⟩, fun _ held => held, fun _ held => held⟩
  | markArchiveVerified archive time =>
    obtain ⟨-, -, outcome⟩ := markArchiveVerified_eq_ok.mp changes
    obtain ⟨unverified, rfl⟩ := outcome_true.mp outcome
    exact ⟨rfl, fun _ held => held, fun _ held => (nomatch unverified.symm.trans held),
      fun _ held => ⟨held, rfl, rfl⟩, fun _ held => held, fun _ held => held⟩
  | markReplicationAcknowledged archive time policy =>
    obtain ⟨-, _, _, _, -, -, -, -, outcome⟩ :=
      markReplicationAcknowledged_eq_ok.mp changes
    obtain ⟨unacknowledged, rfl⟩ := outcome_true.mp outcome
    exact ⟨rfl, fun _ held => held, fun _ held => held,
      fun _ held => (nomatch unacknowledged.symm.trans held), fun _ held => held,
      fun _ held => held⟩
  | markCaptureDeleted time =>
    obtain ⟨due, rfl⟩ := outcome_true.mp (markCaptureDeleted_eq_ok.mp changes)
    have present : state.captureDeletedAt = none := by
      simp only [decision, Bool.and_eq_true, isNone_iff_eq_none] at due
      exact due.1
    exact ⟨rfl, fun _ held => held, fun _ held => held, fun _ held => ⟨held, rfl, rfl⟩,
      fun _ held => (nomatch present.symm.trans held), fun _ held => held⟩
  | markArchiveDeleted time =>
    obtain ⟨due, rfl⟩ := outcome_true.mp (markArchiveDeleted_eq_ok.mp changes)
    have present : state.archiveDeletedAt = none := by
      simp only [decision, Bool.and_eq_true, isNone_iff_eq_none] at due
      exact due.1.1
    exact ⟨rfl, fun _ held => held, fun _ held => held, fun _ held => ⟨held, rfl, rfl⟩,
      fun _ held => held, fun _ held => (nomatch present.symm.trans held)⟩

omit changes

theorem Recorded.extends (recorded : call.Recorded state) (grows : Extends state next) :
    call.Recorded next := by
  cases call with
  | bindArchive archive => exact ⟨recorded.1, grows.archive _ recorded.2⟩
  | markArchiveVerified archive time =>
    obtain ⟨bound, later, verified⟩ := recorded
    exact ⟨grows.archive _ bound, grows.validatedAt ▸ later, grows.verified _ verified⟩
  | markReplicationAcknowledged archive time policy =>
    obtain ⟨bound, verified, capture, product, verifies, later, captureAdded, productAdded,
      acknowledged, captureAfter, productAfter⟩ := recorded
    obtain ⟨still, sameCapture, sameProduct⟩ := grows.acknowledged _ acknowledged
    exact ⟨grows.archive _ bound, verified, capture, product, grows.verified _ verifies, later,
      captureAdded, productAdded, still, sameCapture.trans captureAfter,
      sameProduct.trans productAfter⟩
  | markCaptureDeleted time => exact grows.capture _ recorded
  | markArchiveDeleted time => exact grows.product _ recorded

/-- An archive deletion accepted with a time before the capture deletion. -/
def regresses : RetentionCall → RetentionState → Bool
  | markArchiveDeleted time, state =>
    (state.decision time).archiveDeletable && state.captureDeletedAt.any (time < ·)
  | _, _ => false

theorem decision_capture {time : TrustedUnixSeconds}
    (due : (state.decision time).captureDeletable) :
    state.captureDeletedAt = none ∧ ∃ deadline, state.captureDeleteAfter = some deadline ∧
      deadline ≤ time := by
  simp only [decision, Bool.and_eq_true, isNone_iff_eq_none] at due
  obtain ⟨deadline, sets, past⟩ := (any_eq_true ..).mp due.2
  exact ⟨due.1, deadline, sets, of_decide_eq_true past⟩

theorem decision_archive {time : TrustedUnixSeconds}
    (due : (state.decision time).archiveDeletable) :
    state.archiveDeletedAt = none ∧ ∃ deleted deadline, state.captureDeletedAt = some deleted ∧
      state.archiveDeleteAfter = some deadline ∧ deadline ≤ time := by
  simp only [decision, Bool.and_eq_true, isNone_iff_eq_none] at due
  obtain ⟨deleted, present⟩ := isSome_iff_exists.mp due.1.2
  obtain ⟨deadline, sets, past⟩ := (any_eq_true ..).mp due.2
  exact ⟨due.1.1, deleted, deadline, present, sets, of_decide_eq_true past⟩

/-- Every change but the one keeps the order of the events. -/
theorem ordered_of_perform (ordered : state.Ordered)
    (changes : call.perform state = .ok (next, true)) (forward : call.regresses state = false) :
    next.Ordered ∧ next.key = state.key := by
  obtain ⟨identity, unbound, verified, acknowledged, unacknowledged, capture, product⟩ := ordered
  cases call with
  | bindArchive archive =>
    obtain ⟨nonzero, outcome⟩ := bindArchive_eq_ok.mp changes
    obtain ⟨-, rfl⟩ := outcome_true.mp outcome
    refine ⟨⟨?_, nofun, verified, acknowledged, unacknowledged, capture, product⟩, rfl⟩
    intro other bound
    cases bound
    exact nonzero
  | markArchiveVerified archive time =>
    obtain ⟨bound, later, outcome⟩ := markArchiveVerified_eq_ok.mp changes
    obtain ⟨absent, rfl⟩ := outcome_true.mp outcome
    refine ⟨⟨identity, fun none => (nomatch bound.symm.trans none), ?_, ?_, unacknowledged,
      capture, product⟩, rfl⟩
    · intro other verifies
      cases verifies
      exact later
    · intro other acknowledges
      obtain ⟨_, _, _, present, -⟩ := acknowledged other acknowledges
      cases absent.symm.trans present
  | markReplicationAcknowledged archive time policy =>
    obtain ⟨bound, verifiedAt, captureAfter, productAfter, verifies, later, captureAdded,
      productAdded, outcome⟩ := markReplicationAcknowledged_eq_ok.mp changes
    obtain ⟨absent, rfl⟩ := outcome_true.mp outcome
    obtain ⟨-, -, noCapture, noProduct⟩ := unacknowledged absent
    refine ⟨⟨identity, fun none => (nomatch bound.symm.trans none), verified, ?_, nofun, ?_, ?_⟩,
      rfl⟩
    · intro other acknowledges
      cases acknowledges
      exact ⟨verifiedAt, captureAfter, productAfter, verifies, later, rfl, rfl,
        lt_of_addDuration captureAdded,
        lt_of_addDuration productAdded⟩
    · intro other deleted
      cases noCapture.symm.trans deleted
    · intro other deleted
      cases noProduct.symm.trans deleted
  | markCaptureDeleted time =>
    obtain ⟨due, rfl⟩ := outcome_true.mp (markCaptureDeleted_eq_ok.mp changes)
    obtain ⟨absent, deadline, sets, past⟩ := decision_capture due
    refine ⟨⟨identity, ?_, verified, acknowledged, ?_, ?_, ?_⟩, rfl⟩
    · intro none
      cases sets.symm.trans (unacknowledged (unbound none).2.1).1
    · intro none
      cases sets.symm.trans (unacknowledged none).1
    · intro other deleted
      cases deleted
      exact ⟨deadline, sets, past⟩
    · intro other deleted
      obtain ⟨_, _, present, -⟩ := product other deleted
      cases absent.symm.trans present
  | markArchiveDeleted time =>
    obtain ⟨due, rfl⟩ := outcome_true.mp (markArchiveDeleted_eq_ok.mp changes)
    obtain ⟨-, deleted, deadline, present, sets, past⟩ := decision_archive due
    rw [regresses, due, Bool.true_and, present, any_some, decide_eq_false_iff_not,
      UInt64.not_lt] at forward
    refine ⟨⟨identity, ?_, verified, acknowledged, ?_, capture, ?_⟩, rfl⟩
    · intro none
      cases present.symm.trans (unbound none).2.2.1
    · intro none
      cases present.symm.trans (unacknowledged none).2.2.1
    · intro other recorded
      cases recorded
      exact ⟨deleted, deadline, present, sets, past, forward⟩

theorem readable_of_perform (readable : state.Readable)
    (changes : call.perform state = .ok (next, true)) (forward : call.regresses state = false) :
    next.Readable := by
  obtain ⟨ordered, same⟩ := ordered_of_perform
    (validateDecodedState_eq_ok.mp readable.valid) changes forward
  exact ⟨same ▸ readable.key, validateDecodedState_eq_ok.mpr ordered⟩

end RetentionCall

/-- The capture deletion is recorded later than the archive deletion. -/
def RetentionState.Regressed (state : RetentionState) : Prop :=
  ∃ deleted time, state.captureDeletedAt = some deleted ∧ state.archiveDeletedAt = some time ∧
    time < deleted

theorem RetentionState.Regressed.not_readable {state : RetentionState}
    (regressed : state.Regressed) : ¬ state.Readable := by
  intro readable
  obtain ⟨deleted, time, captured, archived, before⟩ := regressed
  obtain ⟨other, _, present, -, -, after⟩ :=
    (validateDecodedState_eq_ok.mp readable.valid).archive time archived
  cases captured.symm.trans present
  exact UInt64.not_lt.mpr after before

theorem RetentionState.Regressed.extends {state next : RetentionState}
    (regressed : state.Regressed) (grows : state.Extends next) : next.Regressed := by
  obtain ⟨deleted, time, captured, archived, before⟩ := regressed
  exact ⟨deleted, time, grows.capture _ captured, grows.product _ archived, before⟩

/-- The one change that cannot be read back. -/
theorem RetentionCall.regresses_perform {call : RetentionCall} {state : RetentionState}
    (back : call.regresses state = true) :
    ∃ next, call.perform state = .ok (next, true) ∧ next.Regressed := by
  cases call with
  | markArchiveDeleted time =>
    obtain ⟨due, earlier⟩ := (Bool.and_eq_true_iff ..).mp back
    obtain ⟨deleted, present, before⟩ := (any_eq_true ..).mp earlier
    exact ⟨_, markArchiveDeleted_eq_ok.mpr (.inl ⟨due, rfl, rfl⟩), deleted, time,
      present, rfl, of_decide_eq_true before⟩
  | _ => cases back

namespace RetentionCheckpointStore

variable {store : RetentionCheckpointStore} {calls : List RetentionCall}

def run (store : RetentionCheckpointStore) (calls : List RetentionCall) :
    RetentionCheckpointStore :=
  Checkpoint.run format RetentionCall.perform store calls

/-- The file can be opened and gives the state in memory. -/
def ReadsBack (store : RetentionCheckpointStore) : Prop :=
  Checkpoint.ReadsBack format store

/-- The file holds the state. -/
abbrev Stored (store : RetentionCheckpointStore) : Prop :=
  Checkpoint.Stored format store

theorem readsBack_iff (stored : store.Stored) : store.ReadsBack ↔ store.state.Readable := by
  have file : store.state.encodeCheckpoint = store.file := Except.ok.inj stored
  constructor
  · intro reads
    exact (encode_of_readCheckpoint reads).1
  intro readable
  unfold ReadsBack Checkpoint.ReadsBack
  rw [← file]
  exact readCheckpoint_encode readable

/-- A store that was created, or opened from a file. -/
inductive Started (store : RetentionCheckpointStore) : Prop where
  | created (present : Bool) (manifest : CaptureWindowManifest)
      (validatedAt : TrustedUnixSeconds) (created : create present manifest validatedAt = .ok store)
  | opened (file : List UInt8) (opened : openFile file = .ok store)

theorem Started.sound (started : store.Started) : store.Stored ∧ store.state.Readable := by
  cases started with
  | created present manifest validatedAt created =>
    obtain ⟨-, created⟩ := guard_eq_ok.mp created
    obtain ⟨state, new, created⟩ := bind_eq_ok.mp created
    obtain ⟨written, rfl⟩ := Checkpoint.create_eq_ok.mp created
    obtain ⟨key, new⟩ := guard_eq_ok.mp new
    refine ⟨written, ?_⟩
    rw [← Except.ok.inj new]
    exact ⟨key, rfl⟩
  | opened file opened =>
    obtain ⟨rfl, read⟩ := Checkpoint.openFile_eq_ok.mp opened
    obtain ⟨readable, same⟩ := encode_of_readCheckpoint read
    exact ⟨congrArg Except.ok same, readable⟩

theorem run_readable_iff (readable : store.state.Readable) : (store.run calls).state.Readable ↔
      ∀ before call after, calls = before ++ call :: after →
        call.regresses (store.run before).state = false := by
  constructor
  · rintro readable before call after rfl
    by_contra back
    obtain ⟨next, changes, regressed⟩ :=
      RetentionCall.regresses_perform ((Bool.not_eq_false _).mp back)
    have taken : ((store.run before).call call).1.state = next := by
      rw [RetentionCheckpointStore.call, Checkpoint.update, changes]
      rfl
    have stays : (((store.run before).call call).1.run after).state.Regressed :=
      Checkpoint.run_keeps (fun _ _ _ changes regressed => regressed.extends
        (RetentionCall.extends_of_perform changes)) (taken ▸ regressed)
    have whole : store.run (before ++ call :: after) =
        ((store.run before).call call).1.run after :=
      Checkpoint.run_append store before (call :: after)
    rw [whole] at readable
    exact stays.not_readable readable
  · intro forward
    induction calls generalizing store with
    | nil => exact readable
    | cons call rest ih =>
      have first := forward [] call rest rfl
      have next : (store.call call).1.state.Readable :=
        Checkpoint.update_keeps (fun _ changes =>
          RetentionCall.readable_of_perform readable changes first) readable
      exact ih next fun before other after split =>
        forward (call :: before) other after (congrArg (call :: ·) split)

end RetentionCheckpointStore
end SensorSystem.Host
