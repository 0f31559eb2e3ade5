import SensorSystem.Host.Service.SafeStateBounds

/-! A run is an unbounded sequence of calls. The agent of a drive and the event of a call are
arbitrary, so a run covers every node behaviour and every loss on the wire. -/

namespace SensorSystem.Host

open SafeStateConverger

inductive SafeStateCall where
  | drive (agent : ChannelAgent) (now : MonotonicMicros)
  | event (event : ChannelEvent) (now : MonotonicMicros)

def SafeStateCall.Drives : SafeStateCall → Prop
  | .drive _ _ => True
  | .event _ _ => False

/-- What a call returns. -/
inductive SafeStateReport where
  | error (error : SafeStateWireError)
  | progress (progress : SafeStateWireProgress)
  | disposition (disposition : SafeStateEventDisposition)

/-- What the reports of a run count up to. -/
structure SafeStateTally where
  submitted : Nat := 0
  restarts : Nat := 0
  failedRestarts : Nat := 0

/-- A completed restart ends a sequence of failed ones. -/
def SafeStateTally.note (tally : SafeStateTally) : SafeStateReport → SafeStateTally
  | .progress (.submitted _ _) => { tally with submitted := tally.submitted + 1 }
  | .progress (.attemptFailed .restart) | .disposition (.attemptFailed .restart) =>
    { tally with failedRestarts := tally.failedRestarts + 1 }
  | .disposition (.restartObserved _) =>
    { tally with restarts := tally.restarts + 1, failedRestarts := 0 }
  | _ => tally

namespace SafeStateWireOperation

def report (operation : SafeStateWireOperation) : SafeStateCall → SafeStateReport
  | .drive agent now =>
    match (operation.drive agent now).1.1 with
    | .ok progress => .progress progress
    | .error error => .error error
  | .event event now =>
    match (operation.handleEvent event now).1 with
    | .ok disposition => .disposition disposition
    | .error error => .error error

def step (operation : SafeStateWireOperation) : SafeStateCall → SafeStateWireOperation
  | .drive agent now => (operation.drive agent now).1.2
  | .event event now => (operation.handleEvent event now).2

/-- The operation after the first calls of a run. -/
def stateAt (operation : SafeStateWireOperation) (calls : Nat → SafeStateCall) :
    Nat → SafeStateWireOperation
  | 0 => operation
  | count + 1 => (operation.stateAt calls count).step (calls count)

def tallyAt (operation : SafeStateWireOperation) (calls : Nat → SafeStateCall) :
    Nat → SafeStateTally
  | 0 => {}
  | count + 1 =>
    (operation.tallyAt calls count).note ((operation.stateAt calls count).report (calls count))

/-- No action is decided on a fault that was observed after the last restart. -/
def Admits (operation : SafeStateWireOperation) (call : SafeStateCall) : Prop :=
  call.Drives → operation.phase = .ready → ¬ operation.converger.FaultedAgain

/-- The time up to which a phase waits. -/
def phaseDeadline : WirePhase → MonotonicMicros
  | .ready => 0
  | .lifecycle _ _ deadline | .restartDelay _ _ deadline | .restartHandshake _ deadline => deadline

/-- A result that does not wait for the wire. -/
def Settling (result : Except SafeStateWireError SafeStateWireProgress) : Prop :=
  ∃ progress, result = .ok progress ∧ ∀ action, progress ≠ .awaitingWireSettlement action

/-- A drive that finds the time of the phase over and no frame on the wire. -/
def Driven (operation : SafeStateWireOperation) : SafeStateCall → Prop
  | .drive agent now =>
    phaseDeadline operation.phase ≤ now ∧ Settling (operation.drive agent now).1.1
  | .event _ _ => False

def phaseRank : WirePhase → Nat
  | .ready => 3
  | .lifecycle _ _ _ => 2
  | .restartDelay _ _ _ | .restartHandshake _ _ => 1

/-- A report that counts nothing. -/
def Quiet (report : SafeStateReport) : Prop := ∀ tally : SafeStateTally, tally.note report = tally

/-- Only a drive decides on an action, and one past the deadline makes progress. -/
inductive Moves (decides driven : Prop) (operation : SafeStateWireOperation) :
    SafeStateReport → SafeStateWireOperation → Prop
  | stays {report after} (same : after.converger = operation.converger) (quiet : Quiet report)
      (rank : phaseRank after.phase ≤ phaseRank operation.phase)
      (lowers : driven → phaseRank after.phase < phaseRank operation.phase ∨
        after.converger.status ≠ .converging) :
      Moves decides driven operation report after
  | asks {report after} (driving : decides) (ready : operation.phase = .ready)
      (same : after.converger = operation.converger.nextAction.2)
      (counts : Quiet report ∨ ∃ action operationId,
        report = .progress (.submitted action operationId) ∧
          operation.converger.nextAction.1 = .ok (some action))
      (rank : phaseRank after.phase ≤ phaseRank operation.phase)
      (lowers : driven → phaseRank after.phase < phaseRank operation.phase ∨
        after.converger.status ≠ .converging) :
      Moves decides driven operation report after
  | fails {report after} (action : SafeStateAction)
      (fails : operation.converger.fail action = .ok after.converger)
      (counts : report = .progress (.attemptFailed action) ∨
        report = .disposition (.attemptFailed action)) :
      Moves decides driven operation report after
  | completes {report after} (action : SafeStateAction) (state : RuntimeState)
      (ordinary : action ≠ .restart) (fits : runtimeResultMatchesAction action state = true)
      (completes : operation.converger.complete action state = .ok after.converger)
      (quiet : Quiet report) : Moves decides driven operation report after
  | restarted {report after} (identity : NodeIdentity)
      (completes : operation.converger.complete .restart .idle = .ok after.converger)
      (counts : report = .disposition (.restartObserved identity)) :
      Moves decides driven operation report after

variable {operation : SafeStateWireOperation} {past : Prop}

def ofProgress : Except SafeStateWireError SafeStateWireProgress → SafeStateReport
  | .ok progress => .progress progress
  | .error error => .error error

def ofDisposition : Except SafeStateWireError SafeStateEventDisposition → SafeStateReport
  | .ok disposition => .disposition disposition
  | .error error => .error error

/-- The move of a drive, which counts as driven past the deadline. -/
abbrev DriveMoves (past : Prop) (operation : SafeStateWireOperation)
    (result : WireResult SafeStateWireProgress) : Prop :=
  Moves True (past ∧ Settling result.1) operation (ofProgress result.1) result.2

theorem driveMoves_error (error : SafeStateWireError) :
    DriveMoves past operation (.error error, operation) := by
  refine .stays rfl (fun _ => rfl) (Nat.le_refl _) ?_
  rintro ⟨-, progress, same, -⟩
  cases same

theorem driveMoves_awaiting (action : SafeStateAction) :
    DriveMoves past operation (.ok (.awaitingWireSettlement action), operation) := by
  refine .stays rfl (fun _ => rfl) (Nat.le_refl _) ?_
  rintro ⟨-, progress, same, settles⟩
  cases same
  exact absurd rfl (settles action)

theorem driveMoves_waiting (early : ¬ past) : DriveMoves past operation (.ok .waiting, operation) :=
  .stays rfl (fun _ => rfl) (Nat.le_refl _) fun driven => absurd driven.1 early

theorem driveMoves_failAction (action : SafeStateAction) :
    DriveMoves past operation (operation.failAction action (.attemptFailed action)) := by
  unfold failAction
  cases result : operation.converger.fail action with
  | error error => exact driveMoves_error _
  | ok converger => exact .fails action result (.inl rfl)

variable {action : SafeStateAction} {now : MonotonicMicros} {call : SafeStateCall}
  {target : SafeStateTarget} {agent : ChannelAgent}

theorem driveMoves_beginRestartConfirmation {operationId : UInt32} {deadline : MonotonicMicros}
    (phase : operation.phase = .lifecycle action operationId deadline) : DriveMoves past operation
      (operation.beginRestartConfirmation now .restartConfirmationStarted) := by
  unfold beginRestartConfirmation
  split
  · exact driveMoves_error _
  · exact driveMoves_error _
  · have lower : (1 : Nat) < phaseRank operation.phase := by simp [phase, phaseRank]
    exact .stays rfl (fun _ => rfl) (Nat.le_of_lt lower) fun _ => .inl lower

theorem driveMoves_failRestartConfirmation (agent : ChannelAgent) :
    DriveMoves past operation (operation.failRestartConfirmation agent).1 := by
  unfold failRestartConfirmation
  split
  · split
    · exact driveMoves_failAction .restart
    · exact driveMoves_awaiting .restart
    · exact driveMoves_error _
  · exact driveMoves_failAction .restart

variable {status : SafeStateStatus} {calls : Nat → SafeStateCall}

theorem finalProgress_eq_some {progress : SafeStateWireProgress}
    (final : finalProgress status = some progress) :
    status ≠ .converging ∧ Quiet (.progress progress) := by
  cases status with
  | converging => cases final
  | reached target =>
    cases final
    exact ⟨nofun, fun _ => rfl⟩
  | convergenceFailed =>
    cases final
    exact ⟨nofun, fun _ => rfl⟩
  | offline =>
    cases final
    exact ⟨nofun, fun _ => rfl⟩

theorem driveMoves_submitNextAction (ready : operation.phase = .ready) (agent : ChannelAgent)
    (now : MonotonicMicros) :
    DriveMoves past operation (operation.submitNextAction agent now).1 := by
  unfold submitNextAction
  split
  · rename_i progress final
    obtain ⟨ended, quiet⟩ := finalProgress_eq_some final
    exact .stays rfl quiet (Nat.le_refl _) fun _ => .inr ended
  split
  · exact driveMoves_error _
  rcases asked : operation.converger.nextAction with ⟨next, converger⟩
  have same : converger = operation.converger.nextAction.2 := by rw [asked]
  have errs : ∀ error, DriveMoves past operation (.error error, { operation with converger }) := by
    intro error
    refine .asks trivial ready same (.inl fun _ => rfl) (Nat.le_refl _) ?_
    rintro ⟨-, progress, impossible, -⟩
    cases impossible
  cases next with
  | error error => exact errs _
  | ok next =>
    cases next with
    | none =>
      simp only
      split
      · rename_i progress final
        obtain ⟨ended, quiet⟩ := finalProgress_eq_some final
        exact .asks trivial ready same (.inl quiet) (Nat.le_refl _) fun _ => .inr ended
      · exact errs _
    | some action =>
      simp only
      split
      · exact errs _
      split
      · exact errs _
      have lower : (2 : Nat) < phaseRank operation.phase := by simp [ready, phaseRank]
      exact .asks trivial ready same (.inr ⟨action, _, rfl, by rw [asked]⟩) (Nat.le_of_lt lower)
        fun _ => .inl lower

theorem drive_moves (agent : ChannelAgent) (now : MonotonicMicros) :
    DriveMoves (phaseDeadline operation.phase ≤ now) operation (operation.drive agent now).1 := by
  unfold drive
  split
  · rename_i ready
    exact driveMoves_submitNextAction ready agent now
  · rename_i action operationId deadline phase
    split
    · split
      · split
        · exact driveMoves_beginRestartConfirmation phase
        · exact driveMoves_failAction action
      · exact driveMoves_awaiting action
      · exact driveMoves_error _
    rename_i early
    refine driveMoves_waiting ?_
    rw [phase]
    exact early
  · rename_i epoch probe deadline phase
    have same : phaseDeadline operation.phase = deadline := by rw [phase, phaseDeadline]
    have rank : (1 : Nat) ≤ phaseRank operation.phase := by simp [phase, phaseRank]
    split
    · exact driveMoves_failRestartConfirmation agent
    rename_i early
    rw [same]
    split
    · split
      · exact driveMoves_error _
      split
      · exact driveMoves_error _
      · exact .stays rfl (fun _ => rfl) rank fun driven => absurd driven.1 early
    · exact driveMoves_waiting early
  · rename_i epoch deadline phase
    split
    · exact driveMoves_failRestartConfirmation agent
    rename_i early
    refine driveMoves_waiting ?_
    rw [phase]
    exact early

theorem handleEvent_moves (event : ChannelEvent) (now : MonotonicMicros) :
    Moves False False operation (ofDisposition (operation.handleEvent event now).1)
      (operation.handleEvent event now).2 := by
  have ignores : ∀ disposition, Quiet (.disposition disposition) →
      Moves False False operation (ofDisposition (.ok disposition)) operation :=
    fun disposition quiet => .stays rfl quiet (Nat.le_refl _) nofun
  have errs : ∀ error, Moves False False operation (ofDisposition (.error error)) operation :=
    fun error => .stays rfl (fun _ => rfl) (Nat.le_refl _) nofun
  unfold handleEvent
  split
  · rename_i action operationId deadline nodeAddress result phase
    split
    · split
      · unfold failAction
        cases fails : operation.converger.fail action with
        | error error => exact errs _
        | ok converger => exact .fails action fails (.inr rfl)
      rename_i accepted
      split
      · unfold beginRestartConfirmation
        split
        · exact errs _
        · exact errs _
        · have lower : (1 : Nat) ≤ phaseRank operation.phase := by simp [phase, phaseRank]
          exact .stays rfl (fun _ => rfl) lower nofun
      rename_i ordinary
      have fits : runtimeResultMatchesAction action result.state = true := by
        simp only [not_or, not_not] at accepted
        exact accepted.2
      split
      · exact errs _
      rename_i converger completes
      exact .completes action result.state ordinary fits completes fun _ => rfl
    · exact ignores .ignored fun _ => rfl
  · rename_i epoch deadline nodeAddress identity capabilities phase
    have rank : (1 : Nat) ≤ phaseRank operation.phase := by simp [phase, phaseRank]
    split
    · split
      · split
        · exact errs _
        · exact .stays rfl (fun _ => rfl) rank nofun
      simp only
      split
      · exact .stays rfl (fun _ => rfl) (Nat.le_refl _) nofun
      rename_i converger completes
      exact .restarted identity completes rfl
    · exact ignores .ignored fun _ => rfl
  · exact ignores .ignored fun _ => rfl

theorem step_moves (call : SafeStateCall) :
    Moves call.Drives (operation.Driven call) operation (operation.report call)
      (operation.step call) := by
  cases call with
  | drive agent now => exact drive_moves agent now
  | event event now => exact handleEvent_moves event now

/-- An action that is under way is already counted. -/
def underWay (operation : SafeStateWireOperation) : Nat :=
  if operation.converger.pending = none then 0 else 1

/-- The reports agree with the counters, and the rest of the budget bounds them. -/
structure Tallied (policy : SafeStatePolicy) (allowed : Nat) (operation : SafeStateWireOperation)
    (tally : SafeStateTally) : Prop where
  bounded : operation.converger.Bounded
  policy : operation.converger.policy = policy
  submitted : tally.submitted + operation.converger.budget ≤ allowed + operation.underWay
  restarts : tally.restarts = operation.converger.completedRestartCycles.toNat
  failed : tally.failedRestarts = operation.converger.restartFailures.toNat

variable {policy : SafeStatePolicy} {allowed : Nat} {tally : SafeStateTally}
  {after : SafeStateWireOperation} {report : SafeStateReport}
  (tallied : Tallied policy allowed operation tally)

include tallied

/-- A settled action gives back what it was counted for. -/
theorem Tallied.settled (settles : operation.converger.Settles after.converger) :
    tally.submitted + after.converger.budget ≤ allowed + after.underWay := by
  have counted := tallied.submitted
  have cheaper := settles.cheaper
  simp only [underWay, if_neg settles.pended, if_pos settles.idle] at counted ⊢
  omega

theorem Tallied.fails (fails : operation.converger.fail action = .ok after.converger)
    (counts : report = .progress (.attemptFailed action) ∨
      report = .disposition (.attemptFailed action)) :
    Tallied policy allowed after (tally.note report) := by
  by_cases restart : action = .restart
  · subst restart
    obtain ⟨pending, same⟩ := fail_restart_eq_ok fails
    have settles : operation.converger.Settles after.converger :=
      same ▸ settles_failedRestart tallied.bounded pending
    have online := tallied.bounded.online (tallied.bounded.pends settles.pended)
    have limit := operation.converger.policy.restartAttempts.toNat_lt
    have noted : tally.note report =
        { tally with failedRestarts := tally.failedRestarts + 1 } := by
      obtain rfl | rfl := counts <;> rfl
    rw [noted]
    refine ⟨settles.bounded, settles.policy.trans tallied.policy, tallied.settled settles, ?_, ?_⟩
    · rw [same]
      exact tallied.restarts
    · rw [same]
      simp only [toNat_saturatingIncrement, tallied.failed]
      omega
  · obtain ⟨pending, same⟩ := fail_eq_ok restart fails
    have settles : operation.converger.Settles after.converger :=
      same ▸ settles_failed tallied.bounded restart pending
    have noted : tally.note report = tally := by
      obtain rfl | rfl := counts <;> cases action <;> first | rfl | exact absurd rfl restart
    rw [noted]
    refine ⟨settles.bounded, settles.policy.trans tallied.policy, tallied.settled settles, ?_, ?_⟩
    · rw [same]
      exact tallied.restarts
    · rw [same]
      exact tallied.failed

theorem Tallied.completes {state : RuntimeState} (ordinary : action ≠ .restart)
    (fits : runtimeResultMatchesAction action state = true)
    (completes : operation.converger.complete action state = .ok after.converger) :
    Tallied policy allowed after tally := by
  obtain ⟨pending, same⟩ := complete_eq_ok ordinary completes
  have settles : operation.converger.Settles after.converger :=
    same ▸ settles_completed tallied.bounded ordinary pending fits
  refine ⟨settles.bounded, settles.policy.trans tallied.policy, tallied.settled settles, ?_, ?_⟩
  · rw [same]
    exact tallied.restarts
  · rw [same]
    exact tallied.failed

theorem Tallied.restarted
    (completes : operation.converger.complete .restart .idle = .ok after.converger) :
    Tallied policy allowed after
      { tally with restarts := tally.restarts + 1, failedRestarts := 0 } := by
  obtain ⟨pending, same⟩ := complete_restart_eq_ok completes
  have settles : operation.converger.Settles after.converger :=
    same ▸ settles_restarted tallied.bounded pending
  have room := tallied.bounded.restart pending
  have limit := operation.converger.policy.restartCycles.toNat_lt
  refine ⟨settles.bounded, settles.policy.trans tallied.policy, tallied.settled settles, ?_, ?_⟩
  · rw [same]
    simp only [toNat_saturatingIncrement, tallied.restarts]
    omega
  · rw [same]
    rfl

theorem Tallied.asks (guard : ¬ operation.converger.FaultedAgain)
    (same : after.converger = operation.converger.nextAction.2)
    (counts : Quiet report ∨ ∃ action operationId,
      report = .progress (.submitted action operationId) ∧
        operation.converger.nextAction.1 = .ok (some action)) :
    Tallied policy allowed after (tally.note report) := by
  have asks := nextAction_asks tallied.bounded guard
  have counted := tallied.submitted
  have budget : after.converger.budget = operation.converger.budget := by rw [same, asks.budget]
  rcases counts with quiet | ⟨action, operationId, rfl, submits⟩
  · rw [quiet]
    refine ⟨same ▸ asks.bounded, same ▸ asks.policy.trans tallied.policy, ?_, ?_, ?_⟩
    · have grows : operation.underWay ≤ after.underWay := by
        unfold underWay
        split
        · exact Nat.zero_le _
        rename_i pended
        rw [same, if_neg (asks.pending pended)]
      omega
    · rw [tallied.restarts, same, asks.cycles]
    · rw [tallied.failed, same, asks.failures]
  · obtain ⟨idle, pending⟩ := asks.submits action submits
    refine ⟨same ▸ asks.bounded, same ▸ asks.policy.trans tallied.policy, ?_, ?_, ?_⟩
    · have pended : after.converger.pending ≠ none := by simp [same, pending]
      simp only [underWay, if_pos idle, if_neg pended] at counted ⊢
      simp only [SafeStateTally.note]
      omega
    · rw [same, asks.cycles]
      exact tallied.restarts
    · rw [same, asks.failures]
      exact tallied.failed

theorem Tallied.step (admits : operation.Admits call) :
    Tallied policy allowed (operation.step call) (tally.note (operation.report call)) := by
  cases operation.step_moves call with
  | stays same quiet rank lowers =>
    rw [quiet]
    refine ⟨same ▸ tallied.bounded, same ▸ tallied.policy, ?_, ?_, ?_⟩
    · rw [underWay, same]
      exact tallied.submitted
    · rw [same]
      exact tallied.restarts
    · rw [same]
      exact tallied.failed
  | asks decides ready same counts rank lowers =>
    exact tallied.asks (admits decides ready) same counts
  | fails action fails counts => exact tallied.fails fails counts
  | completes action state ordinary fits completes quiet =>
    rw [quiet]
    exact tallied.completes ordinary fits completes
  | restarted identity completes counts =>
    rw [counts]
    exact tallied.restarted completes

omit tallied

theorem Tallied.stateAt (tallied : Tallied policy allowed operation {})
    (admits : ∀ count, (operation.stateAt calls count).Admits (calls count)) (count : Nat) :
    Tallied policy allowed (operation.stateAt calls count) (operation.tallyAt calls count) := by
  induction count with
  | zero => exact tallied
  | succ count earlier => exact earlier.step (admits count)

/-- What the policy allows in all. -/
def allowance (policy : SafeStatePolicy) : Nat :=
  (policy.restartCycles.toNat + 1) * cycleBudget policy

theorem tallied_new {wirePolicy : SafeStateWirePolicy} {requirements : HandshakeRequirements}
    {bootEpoch : BootEpoch}
    (opens : SafeStateWireOperation.new target policy wirePolicy requirements bootEpoch =
      .ok operation) : Tallied policy (allowance policy) operation {} := by
  unfold SafeStateWireOperation.new SafeStateConverger.new SafeStatePolicy.validate at opens
  split at opens
  · cases opens
  split at opens
  · cases opens
  rename_i converger valid
  split at valid
  · cases valid
  split at valid
  · cases valid
  rename_i attempts
  split at valid
  · cases valid
  cases opens
  cases valid
  have positive : 0 < policy.restartAttempts.toNat :=
    Nat.pos_of_ne_zero fun zero => attempts (UInt8.toNat_inj.mp zero)
  refine ⟨⟨Nat.zero_le _, Nat.zero_le _, fun _ => positive, Nat.zero_le _, fun none =>
    absurd rfl none,
    nofun, nofun, nofun⟩, rfl, ?_, rfl, rfl⟩
  simp only [allowance, budget, cycleBudget,
    distance, UInt8.toNat_zero, Nat.sub_zero, Nat.add_mul, Nat.one_mul, underWay,
    if_true]
  omega

def rank (operation : SafeStateWireOperation) : Nat :=
  4 * operation.converger.budget + phaseRank operation.phase

theorem phaseRank_pos (phase : WirePhase) : 0 < phaseRank phase := by
  cases phase <;> simp [phaseRank]

theorem phaseRank_le (phase : WirePhase) : phaseRank phase ≤ 3 := by
  cases phase <;> simp [phaseRank]

theorem rank_lt_of_settles (settles : operation.converger.Settles after.converger) :
    after.rank < operation.rank := by
  have cheaper := settles.cheaper
  have before := phaseRank_pos operation.phase
  have most := phaseRank_le after.phase
  unfold rank
  omega

/-- A call never raises the rank, a driven one lowers it. -/
theorem rank_step (bounded : operation.converger.Bounded) (admits : operation.Admits call) :
    (operation.step call).rank ≤ operation.rank ∧
      (operation.Driven call → (operation.step call).rank < operation.rank ∨
        (operation.step call).converger.status ≠ .converging) := by
  have settled : operation.converger.Settles (operation.step call).converger →
      (operation.step call).rank ≤ operation.rank ∧
        (operation.Driven call → (operation.step call).rank < operation.rank ∨
          (operation.step call).converger.status ≠ .converging) :=
    fun settles =>
      ⟨Nat.le_of_lt (rank_lt_of_settles settles), fun _ => .inl (rank_lt_of_settles settles)⟩
  have kept : (operation.step call).converger.budget = operation.converger.budget →
      phaseRank (operation.step call).phase ≤ phaseRank operation.phase →
      (operation.Driven call →
        phaseRank (operation.step call).phase < phaseRank operation.phase ∨
          (operation.step call).converger.status ≠ .converging) →
      (operation.step call).rank ≤ operation.rank ∧
        (operation.Driven call → (operation.step call).rank < operation.rank ∨
          (operation.step call).converger.status ≠ .converging) := by
    intro budget rank lowers
    unfold SafeStateWireOperation.rank
    rw [budget]
    exact ⟨by omega, fun driven => (lowers driven).imp_left (by omega)⟩
  cases operation.step_moves call with
  | stays same quiet rank lowers => exact kept (by rw [same]) rank lowers
  | asks driving ready same counts rank lowers =>
    have asks := nextAction_asks bounded (admits driving ready)
    exact kept (by rw [same, asks.budget]) rank lowers
  | fails action fails counts => exact settled (fail_settles bounded fails)
  | completes action state ordinary fits completes quiet =>
    obtain ⟨pending, same⟩ := complete_eq_ok ordinary completes
    exact settled (same ▸ settles_completed bounded ordinary pending fits)
  | restarted identity completes counts =>
    obtain ⟨pending, same⟩ := complete_restart_eq_ok completes
    exact settled (same ▸ settles_restarted bounded pending)

/-- A final status stays. -/
theorem status_step (bounded : operation.converger.Bounded) (call : SafeStateCall)
    (final : operation.converger.status ≠ .converging) :
    (operation.step call).converger.status = operation.converger.status := by
  have idle : operation.converger.pending = none := by
    by_contra pended
    exact final (bounded.pends pended)
  cases operation.step_moves call with
  | stays same quiet rank lowers => rw [same]
  | asks driving ready same counts rank lowers =>
    have unchanged : operation.converger.nextAction = (.ok none, operation.converger) := by
      simp [nextAction, idle, final]
    rw [same, unchanged]
  | fails action fails counts =>
    exact absurd idle (fail_settles bounded fails).pended
  | completes action state ordinary fits completes quiet =>
    obtain ⟨pending, -⟩ := complete_eq_ok ordinary completes
    rw [idle] at pending
    cases pending
  | restarted identity completes counts =>
    obtain ⟨pending, -⟩ := complete_restart_eq_ok completes
    rw [idle] at pending
    cases pending

theorem failAction_result {α : Type} {result other : α}
    (returns : (operation.failAction action result).1 = .ok other) : other = result := by
  unfold failAction at returns
  split at returns
  · cases returns
  · cases returns
    rfl

theorem failRestartConfirmation_ne_reached :
    (operation.failRestartConfirmation agent).1.1 ≠ .ok (.reached target) := by
  intro reached
  unfold failRestartConfirmation at reached
  split at reached
  · split at reached
    · cases failAction_result reached
    · cases reached
    · cases reached
  · cases failAction_result reached

theorem finalProgress_eq_reached (final : finalProgress status = some (.reached target)) :
    status = .reached target := by
  cases status <;> cases final
  rfl

theorem submitNextAction_reached
    (reached : (operation.submitNextAction agent now).1.1 = .ok (.reached target)) :
    (operation.submitNextAction agent now).1.2.converger.status = .reached target := by
  unfold submitNextAction at reached ⊢
  split at reached
  · rename_i progress final
    cases reached
    exact finalProgress_eq_reached final
  split at reached
  · cases reached
  rename_i exclusive
  rw [if_neg exclusive]
  rcases asked : operation.converger.nextAction with ⟨next, converger⟩
  rw [asked] at reached
  cases next with
  | error error => cases reached
  | ok next =>
    cases next with
    | none =>
      simp only at reached ⊢
      split at reached
      · rename_i progress final
        cases reached
        exact finalProgress_eq_reached final
      · cases reached
    | some action =>
      simp only at reached
      split at reached
      · cases reached
      split at reached <;> cases reached

/-- Only the converger says that the target is reached. -/
theorem drive_reached (reached : (operation.drive agent now).1.1 = .ok (.reached target)) :
    (operation.drive agent now).1.2.converger.status = .reached target := by
  unfold drive at reached ⊢
  split at reached
  · exact submitNextAction_reached reached
  · split at reached
    · split at reached
      · split at reached
        · unfold beginRestartConfirmation at reached
          split at reached <;> cases reached
        · cases failAction_result reached
      · cases reached
      · cases reached
    · cases reached
  · split at reached
    · exact absurd reached failRestartConfirmation_ne_reached
    split at reached
    · split at reached
      · cases reached
      split at reached <;> cases reached
    · cases reached
  · split at reached
    · exact absurd reached failRestartConfirmation_ne_reached
    · cases reached

theorem report_reached (reached : operation.report call = .progress (.reached target)) :
    (operation.step call).converger.status = .reached target := by
  cases call with
  | drive agent now =>
    simp only [report] at reached
    split at reached
    · rename_i progress result
      cases reached
      exact drive_reached result
    · cases reached
  | event event now =>
    simp only [report] at reached
    split at reached <;> cases reached

/-- A run that is driven often enough ends. -/
theorem exists_final (bounded : ∀ count, (operation.stateAt calls count).converger.Bounded)
    (admits : ∀ count, (operation.stateAt calls count).Admits (calls count))
    (fair : ∀ count, ∃ later, count ≤ later ∧
      (operation.stateAt calls later).Driven (calls later)) :
    ∃ count, (operation.stateAt calls count).converger.status ≠ .converging := by
  by_contra endless
  simp only [not_exists, not_not] at endless
  have falls : ∀ count more, (operation.stateAt calls (count + more)).rank ≤
      (operation.stateAt calls count).rank := by
    intro count more
    induction more with
    | zero => exact Nat.le_refl _
    | succ more earlier =>
      exact (rank_step (bounded (count + more)) (admits (count + more))).1.trans earlier
  have spends : ∀ spent, ∃ count,
      (operation.stateAt calls count).rank + spent ≤ operation.rank := by
    intro spent
    induction spent with
    | zero => exact ⟨0, Nat.le_refl _⟩
    | succ spent earlier =>
      obtain ⟨count, below⟩ := earlier
      obtain ⟨later, after, driven⟩ := fair count
      obtain ⟨more, rfl⟩ := Nat.exists_eq_add_of_le after
      have lower := (rank_step (bounded (count + more)) (admits (count + more))).2 driven
      have strictly := lower.resolve_right fun final => final (endless (count + more + 1))
      have kept := falls count more
      refine ⟨count + more + 1, ?_⟩
      have same : (operation.stateAt calls (count + more + 1)).rank <
          (operation.stateAt calls (count + more)).rank := strictly
      omega
  obtain ⟨count, below⟩ := spends (operation.rank + 1)
  omega

end SafeStateWireOperation

open SafeStateWireOperation

/-- What the policy bounds of a run: restarts, failures and submitted actions, and with them
the run. -/
theorem safeState_bounded {target : SafeStateTarget} {policy : SafeStatePolicy}
    {wirePolicy : SafeStateWirePolicy} {requirements : HandshakeRequirements}
    {bootEpoch : BootEpoch} {operation : SafeStateWireOperation}
    (opens : SafeStateWireOperation.new target policy wirePolicy requirements bootEpoch =
      .ok operation) (calls : Nat → SafeStateCall)
    (admits : ∀ count, (operation.stateAt calls count).Admits (calls count)) : (∀ count,
      (operation.tallyAt calls count).restarts ≤ policy.restartCycles.toNat ∧
      (operation.tallyAt calls count).failedRestarts ≤ policy.restartAttempts.toNat ∧
      (operation.tallyAt calls count).submitted ≤
        (policy.restartCycles.toNat + 1) *
          (4 * policy.orderlyAttempts.toNat + policy.restartAttempts.toNat) ∧
      ∀ reached, (operation.stateAt calls count).report (calls count) =
          .progress (.reached reached) →
        (operation.stateAt calls (count + 1)).converger.observed = some reached.state) ∧
    ((∀ count, ∃ later, count ≤ later ∧ (operation.stateAt calls later).Driven (calls later)) →
      ∃ count status, status ≠ .converging ∧
        ∀ later, count ≤ later → (operation.stateAt calls later).converger.status = status) := by
  have tallied := fun count => (tallied_new opens).stateAt admits count
  refine ⟨?_, ?_⟩
  · intro count
    have current := tallied count
    have policyKept := current.policy
    refine ⟨?_, ?_, ?_, ?_⟩
    · rw [current.restarts, ← policyKept]
      exact current.bounded.cycles
    · rw [current.failed, ← policyKept]
      exact current.bounded.restarts
    · have counted := current.submitted
      -- an action under way still has its failure in the budget
      have covered : (operation.stateAt calls count).underWay ≤
          (operation.stateAt calls count).converger.budget := by
        unfold underWay
        split
        · exact Nat.zero_le _
        rename_i pended
        have online := current.bounded.online (current.bounded.pends pended)
        simp only [SafeStateConverger.budget]
        omega
      have allowed : (operation.tallyAt calls count).submitted ≤ allowance policy := by omega
      exact allowed
    · intro reached reports
      exact (tallied (count + 1)).bounded.reached reached (report_reached reports)
  · intro fair
    have bounded := fun count => (tallied count).bounded
    obtain ⟨count, final⟩ := exists_final bounded admits fair
    refine ⟨count, _, final, ?_⟩
    intro later after
    obtain ⟨more, rfl⟩ := Nat.exists_eq_add_of_le after
    induction more with
    | zero => rfl
    | succ more earlier =>
      have same := earlier (Nat.le_add_right count more)
      rw [← same]
      exact status_step (bounded (count + more)) (calls (count + more)) (same ▸ final)

namespace SafeStateExample

def micros : DurationMicros := .micro

def agent : ChannelAgent where
  transactions := .new 1 micros
  policy := ⟨micros, micros, 1, 4⟩
  nextOperationId := 1

def requirements : HandshakeRequirements := ⟨Vector.replicate 8 1, 5, 1, 0, 0, none, none⟩

def operation : SafeStateWireOperation where
  nodeAddress := 5
  requirements
  currentBootEpoch := 1
  policy := ⟨⟨10, of_decide_eq_false rfl⟩, micros, ⟨10, of_decide_eq_false rfl⟩⟩
  converger := { target := .idle, policy := ⟨1, 1, 1⟩ }

/-- The node accepts an action and tells its state. -/
def answer (state : RuntimeState) : SafeStateCall :=
  .event (.lifecycleComplete 5 ⟨1, .ok, state, .production, .ok⟩) 0

def rebooted (bootEpoch : BootEpoch) : SafeStateCall :=
  .event (.handshakeComplete 5
    ⟨Vector.replicate 8 1, bootEpoch, 5, 1, ⟨1, 0, 0⟩, localProtocolVersion⟩
    ⟨1, 0, 0, 0, 0, 0, 0⟩) 1

/-- The calls around one restart of a node that is faulted when it is asked. -/
def faultedCycle (bootEpoch : BootEpoch) : List SafeStateCall :=
  [.drive agent 0, answer .faulted, .drive agent 0, answer .faulted, .drive agent 1,
    rebooted bootEpoch]

variable (count : Nat)

/-- The node boots into its fault again and again. -/
def faultedCalls : SafeStateCall :=
  (faultedCycle 2 ++ faultedCycle 3).getD count (.drive agent 1)

/-- The node is idle. -/
def idleCalls : Nat → SafeStateCall
  | 1 => answer .idle
  | _ => .drive agent 0

theorem operation_opens :
    SafeStateWireOperation.new .idle ⟨1, 1, 1⟩ operation.policy requirements 1 =
      .ok operation := by
  decide

/-- From the third call on nothing changes. -/
theorem idleCalls_stays :
    operation.stateAt idleCalls (count + 3) = operation.stateAt idleCalls 3 := by
  induction count with
  | zero => rfl
  | succ count earlier =>
    have last : operation.stateAt idleCalls (count + 1 + 3) =
        (operation.stateAt idleCalls (count + 3)).step (.drive agent 0) := rfl
    rw [last, earlier]
    decide +kernel

theorem idleCalls_admits : (operation.stateAt idleCalls count).Admits (idleCalls count) := by
  intro _ _ faulted
  have observed := faulted.2.2.2.1
  match count with
  | 0 => cases observed
  | 1 => cases observed
  | 2 => cases observed
  | count + 3 =>
    rw [idleCalls_stays] at observed
    cases observed

theorem idleCalls_driven : ∃ later, count ≤ later ∧
    (operation.stateAt idleCalls later).Driven (idleCalls later) := by
  refine ⟨count + 3, Nat.le_add_right _ _, ?_⟩
  rw [idleCalls_stays]
  exact ⟨by decide +kernel, .reached .idle, by decide +kernel, nofun⟩

end SafeStateExample

open SafeStateExample in
/-- One restart is allowed and two are completed. -/
theorem safeState_faultedAgain :
    SafeStateWireOperation.new .idle ⟨1, 1, 1⟩ operation.policy requirements 1 =
        .ok operation ∧
      (operation.tallyAt faultedCalls 12).restarts = 2 ∧
      (operation.stateAt faultedCalls 12).converger.status = .converging := by
  exact ⟨operation_opens, by decide +kernel, by decide +kernel⟩

open SafeStateExample in
theorem safeState_bounded_idle : (operation.tallyAt idleCalls 3).restarts ≤ 1 ∧
      ∃ count status, status ≠ .converging ∧
        ∀ later, count ≤ later → (operation.stateAt idleCalls later).converger.status = status :=
  have bounds := safeState_bounded operation_opens idleCalls idleCalls_admits
  ⟨(bounds.1 3).1, bounds.2 idleCalls_driven⟩

end SensorSystem.Host
