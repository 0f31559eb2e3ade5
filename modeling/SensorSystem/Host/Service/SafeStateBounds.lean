import SensorSystem.Host.Service.SafeState

/-! What the policy bounds, whatever a node does: the counters, the submitted actions and with
them the run. The argument is a budget that every settled action lowers. -/

namespace SensorSystem.Host

theorem toNat_saturatingIncrement (value : UInt8) :
    (saturatingIncrement value).toNat = min 255 (value.toNat + 1) := by
  have bound := value.toNat_lt
  unfold saturatingIncrement
  split
  · rename_i full
    rw [full]
    rfl
  rename_i room
  have below : value.toNat ≠ 255 := fun full => room (UInt8.toNat_inj.mp full)
  rw [UInt8.toNat_add]
  simp only [UInt8.toNat_one]
  omega

namespace SafeStateConverger

variable {converger after : SafeStateConverger} {action : SafeStateAction} {state : RuntimeState}

/-- How many ordinary actions may lie between an observation and the target. -/
def distance (target : SafeStateTarget) : Option RuntimeState → Nat
  | none => 3
  | some .faulted => 0
  | some state =>
    if state = target.state then 0 else if state = .idle ∨ target = .idle then 1 else 2

/-- The actions of a cycle: up to a restart, and restarts up to a new boot. -/
def cycleBudget (policy : SafeStatePolicy) : Nat :=
  4 * policy.orderlyAttempts.toNat + policy.restartAttempts.toNat

/-- The actions that can still be settled. -/
def budget (converger : SafeStateConverger) : Nat :=
  let policy := converger.policy
  (policy.restartCycles.toNat - converger.completedRestartCycles.toNat) * cycleBudget policy +
    distance converger.target converger.observed * policy.orderlyAttempts.toNat +
    (policy.orderlyAttempts.toNat - converger.orderlyFailures.toNat) +
    (policy.restartAttempts.toNat - converger.restartFailures.toNat)

/-- What holds of a converger in every run. -/
structure Bounded (converger : SafeStateConverger) : Prop where
  orderly : converger.orderlyFailures.toNat ≤ converger.policy.orderlyAttempts.toNat
  restarts : converger.restartFailures.toNat ≤ converger.policy.restartAttempts.toNat
  online : converger.status = .converging →
    converger.restartFailures.toNat < converger.policy.restartAttempts.toNat
  cycles : converger.completedRestartCycles.toNat ≤ converger.policy.restartCycles.toNat
  pends : converger.pending ≠ none → converger.status = .converging
  ordinary : ∀ action, converger.pending = some action → action ≠ .restart →
    converger.orderlyFailures.toNat < converger.policy.orderlyAttempts.toNat ∧
      actionFor converger.target converger.observed = some action
  restart : converger.pending = some .restart →
    converger.completedRestartCycles.toNat < converger.policy.restartCycles.toNat
  reached : ∀ target, converger.status = .reached target →
    converger.observed = some target.state

variable {observed : Option RuntimeState} {target : SafeStateTarget}

/-- A successful ordinary action comes nearer to the target. -/
theorem distance_lt (asked : actionFor target observed = some action)
    (ordinary : action ≠ .restart) (fits : runtimeResultMatchesAction action state = true) :
    distance target (some state) < distance target observed := by
  cases observed with
  | none => cases target <;> cases state <;> decide
  | some before =>
    cases before <;> cases target <;> simp [actionFor] at asked <;> subst asked <;>
      cases state <;> simp_all [runtimeResultMatchesAction, distance, SafeStateTarget.state]

theorem takePending_eq_ok {taken : SafeStateConverger}
    (takes : converger.takePending action = .ok taken) :
    converger.pending = some action ∧ taken = { converger with pending := none } := by
  unfold takePending at takes
  split at takes
  · rename_i expected pending
    split at takes
    · rename_i same
      cases takes
      exact ⟨same ▸ pending, rfl⟩
    · cases takes
  · cases takes

/-- What a settled action leaves. -/
structure Settles (converger after : SafeStateConverger) : Prop where
  bounded : after.Bounded
  cheaper : after.budget < converger.budget
  pended : converger.pending ≠ none
  idle : after.pending = none
  policy : after.policy = converger.policy

variable (bounded : converger.Bounded)

include bounded

/-- A new boot opens a new cycle. -/
theorem settles_restarted (pending : converger.pending = some .restart) :
    Settles converger { converger with
      pending := none
      observed := none
      orderlyFailures := 0
      restartFailures := 0
      completedRestartCycles := saturatingIncrement converger.completedRestartCycles } := by
  have pended : converger.pending ≠ none := by simp [pending]
  have converging := bounded.pends pended
  have room := bounded.restart pending
  have online := bounded.online converging
  have limit := converger.policy.restartCycles.toNat_lt
  have next : (saturatingIncrement converger.completedRestartCycles).toNat =
      converger.completedRestartCycles.toNat + 1 := by
    rw [toNat_saturatingIncrement]
    omega
  have cycles : (converger.policy.restartCycles.toNat - converger.completedRestartCycles.toNat) =
      (converger.policy.restartCycles.toNat -
        (converger.completedRestartCycles.toNat + 1)) + 1 := by
    omega
  refine ⟨⟨Nat.zero_le _, Nat.zero_le _, ?_, ?_, nofun, nofun, nofun, ?_⟩, ?_, pended, rfl, rfl⟩
  · exact fun _ => Nat.lt_of_le_of_lt (Nat.zero_le _) online
  · rw [next]
    exact room
  · intro target reached
    rw [converging] at reached
    cases reached
  · simp only [budget, next, cycles, Nat.add_mul, Nat.one_mul, distance, cycleBudget,
      UInt8.toNat_zero, Nat.sub_zero]
    omega

theorem settles_completed (ordinary : action ≠ .restart)
    (pending : converger.pending = some action)
    (fits : runtimeResultMatchesAction action state = true) : Settles converger { converger with
      pending := none, observed := some state, orderlyFailures := 0 } := by
  have pended : converger.pending ≠ none := by simp [pending]
  have converging := bounded.pends pended
  obtain ⟨left, asked⟩ := bounded.ordinary action pending ordinary
  have nearer := distance_lt asked ordinary fits
  have spent : (distance converger.target (some state) + 1) *
      converger.policy.orderlyAttempts.toNat ≤
        distance converger.target converger.observed * converger.policy.orderlyAttempts.toNat :=
    Nat.mul_le_mul_right _ nearer
  refine ⟨⟨Nat.zero_le _, bounded.restarts, bounded.online, bounded.cycles, nofun, nofun, nofun,
    ?_⟩,
    ?_, pended, rfl, rfl⟩
  · intro target reached
    rw [converging] at reached
    cases reached
  · rw [Nat.add_mul, Nat.one_mul] at spent
    simp only [budget, UInt8.toNat_zero, Nat.sub_zero]
    omega

theorem settles_failedRestart (pending : converger.pending = some .restart) :
    Settles converger { converger with
      pending := none
      restartFailures := saturatingIncrement converger.restartFailures
      status := if saturatingIncrement converger.restartFailures ≥ converger.policy.restartAttempts
        then .offline else converger.status } := by
  have pended : converger.pending ≠ none := by simp [pending]
  have converging := bounded.pends pended
  have online := bounded.online converging
  have limit := converger.policy.restartAttempts.toNat_lt
  have next : (saturatingIncrement converger.restartFailures).toNat =
      converger.restartFailures.toNat + 1 := by
    rw [toNat_saturatingIncrement]
    omega
  refine ⟨⟨bounded.orderly, ?_, ?_, bounded.cycles, nofun, nofun, nofun, ?_⟩, ?_, pended, rfl, rfl⟩
  · rw [next]
    exact online
  · intro still
    by_cases exhausted :
      saturatingIncrement converger.restartFailures ≥ converger.policy.restartAttempts
    · simp only [if_pos exhausted] at still
      cases still
    have below := UInt8.lt_iff_toNat_lt.mp (UInt8.not_le.mp exhausted)
    exact below
  · intro target reached
    rw [converging] at reached
    split at reached
    · cases reached
    · cases reached
  · simp only [budget, next]
    omega

theorem settles_failed (ordinary : action ≠ .restart) (pending : converger.pending = some action) :
    Settles converger { converger with
      pending := none
      orderlyFailures := saturatingIncrement converger.orderlyFailures } := by
  have pended : converger.pending ≠ none := by simp [pending]
  have converging := bounded.pends pended
  obtain ⟨left, -⟩ := bounded.ordinary action pending ordinary
  have limit := converger.policy.orderlyAttempts.toNat_lt
  have next : (saturatingIncrement converger.orderlyFailures).toNat =
      converger.orderlyFailures.toNat + 1 := by
    rw [toNat_saturatingIncrement]
    omega
  refine ⟨⟨?_, bounded.restarts, bounded.online, bounded.cycles, nofun, nofun, nofun,
    bounded.reached⟩, ?_, pended, rfl, rfl⟩
  · rw [next]
    exact left
  · simp only [budget, next]
    omega

omit bounded

theorem complete_restart_eq_ok (completes : converger.complete .restart state = .ok after) :
    converger.pending = some .restart ∧ after = { converger with
      pending := none
      observed := none
      orderlyFailures := 0
      restartFailures := 0
      completedRestartCycles := saturatingIncrement converger.completedRestartCycles } := by
  cases takes : converger.takePending .restart with
  | error error => simp [complete, takes, bind, Except.bind] at completes
  | ok taken =>
    obtain ⟨pending, rfl⟩ := takePending_eq_ok takes
    simp only [complete, takes, bind, Except.bind, if_true, Except.ok.injEq] at completes
    exact ⟨pending, completes.symm⟩

theorem complete_eq_ok (ordinary : action ≠ .restart)
    (completes : converger.complete action state = .ok after) : converger.pending = some action ∧
      after = { converger with pending := none, observed := some state, orderlyFailures := 0 } := by
  cases takes : converger.takePending action with
  | error error => simp [complete, takes, bind, Except.bind] at completes
  | ok taken =>
    obtain ⟨pending, rfl⟩ := takePending_eq_ok takes
    simp only [complete, takes, bind, Except.bind, if_neg ordinary, Except.ok.injEq] at completes
    exact ⟨pending, completes.symm⟩

theorem fail_restart_eq_ok (fails : converger.fail .restart = .ok after) :
    converger.pending = some .restart ∧ after = { converger with
      pending := none
      restartFailures := saturatingIncrement converger.restartFailures
      status := if saturatingIncrement converger.restartFailures ≥ converger.policy.restartAttempts
        then .offline else converger.status } := by
  cases takes : converger.takePending .restart with
  | error error => simp [fail, takes, bind, Except.bind] at fails
  | ok taken =>
    obtain ⟨pending, rfl⟩ := takePending_eq_ok takes
    simp only [fail, takes, bind, Except.bind, if_true, Except.ok.injEq] at fails
    exact ⟨pending, fails.symm⟩

theorem fail_eq_ok (ordinary : action ≠ .restart) (fails : converger.fail action = .ok after) :
    converger.pending = some action ∧ after = { converger with
      pending := none
      orderlyFailures := saturatingIncrement converger.orderlyFailures } := by
  cases takes : converger.takePending action with
  | error error => simp [fail, takes, bind, Except.bind] at fails
  | ok taken =>
    obtain ⟨pending, rfl⟩ := takePending_eq_ok takes
    simp only [fail, takes, bind, Except.bind, if_neg ordinary, Except.ok.injEq] at fails
    exact ⟨pending, fails.symm⟩

theorem fail_settles (bounded : converger.Bounded) (fails : converger.fail action = .ok after) :
    Settles converger after := by
  by_cases restart : action = .restart
  · subst restart
    obtain ⟨pending, rfl⟩ := fail_restart_eq_ok fails
    exact settles_failedRestart bounded pending
  obtain ⟨pending, rfl⟩ := fail_eq_ok restart fails
  exact settles_failed bounded restart pending

/-- A fault is observed although no restart is left. -/
def FaultedAgain (converger : SafeStateConverger) : Prop :=
  converger.pending = none ∧ converger.status = .converging ∧
    converger.orderlyFailures < converger.policy.orderlyAttempts ∧
    converger.observed = some .faulted ∧
    converger.completedRestartCycles ≥ converger.policy.restartCycles

/-- What the next action leaves. -/
structure Asks (converger : SafeStateConverger)
    (next : Except SafeStateError (Option SafeStateAction) × SafeStateConverger) : Prop where
  bounded : next.2.Bounded
  budget : next.2.budget = converger.budget
  policy : next.2.policy = converger.policy
  cycles : next.2.completedRestartCycles = converger.completedRestartCycles
  failures : next.2.restartFailures = converger.restartFailures
  pending : converger.pending ≠ none → next.2.pending ≠ none
  submits : ∀ action, next.1 = .ok (some action) →
    converger.pending = none ∧ next.2.pending = some action
  final : next.1 = .ok none → next.2.status ≠ .converging

theorem asks_submit (bounded : converger.Bounded) (idle : converger.pending = none)
    (converging : converger.status = .converging) (ordinary : action ≠ .restart →
      converger.orderlyFailures.toNat < converger.policy.orderlyAttempts.toNat ∧
        actionFor converger.target converger.observed = some action)
    (restart : action = .restart →
      converger.completedRestartCycles.toNat < converger.policy.restartCycles.toNat) :
    Asks converger (converger.submit action) := by
  refine ⟨⟨bounded.orderly, bounded.restarts, bounded.online, bounded.cycles, fun _ => converging,
    ?_, ?_, bounded.reached⟩, rfl, rfl, rfl, rfl, nofun, ?_, nofun⟩
  · intro pending same different
    cases same
    exact ordinary different
  · intro same
    cases same
    exact restart rfl
  · intro pending same
    cases same
    exact ⟨idle, rfl⟩

/-- Only a state that is the target asks for nothing. -/
theorem actionFor_eq_none (nothing : actionFor target observed = none) :
    observed = some target.state := by
  cases observed with
  | none => cases nothing
  | some state => cases state <;> cases target <;> simp_all [actionFor, SafeStateTarget.state]

/-- Only a fault asks for a restart. -/
theorem actionFor_eq_restart (restart : actionFor target observed = some .restart) :
    observed = some .faulted := by
  cases observed with
  | none => cases restart
  | some state => cases state <;> cases target <;> simp_all [actionFor]

theorem nextAction_asks (bounded : converger.Bounded) (guard : ¬ converger.FaultedAgain) :
    Asks converger converger.nextAction := by
  unfold nextAction
  split
  · exact ⟨bounded, rfl, rfl, rfl, rfl, id, nofun, nofun⟩
  rename_i idle
  have idle : converger.pending = none := by simpa using idle
  split
  · rename_i final
    exact ⟨bounded, rfl, rfl, rfl, rfl, id, nofun, fun _ => final⟩
  rename_i converging
  have converging : converger.status = .converging := by simpa using converging
  split
  · -- ordinary actions are spent
    split
    · refine ⟨⟨bounded.orderly, bounded.restarts, nofun, bounded.cycles, ?_, bounded.ordinary,
        bounded.restart, nofun⟩, rfl, rfl, rfl, rfl, id, nofun, nofun⟩
      exact fun pending => absurd idle pending
    rename_i room
    refine asks_submit bounded idle converging (fun different => absurd rfl different) ?_
    exact fun _ => UInt8.lt_iff_toNat_lt.mp (UInt8.not_le.mp room)
  rename_i left
  have left := UInt8.not_le.mp left
  cases asked : actionFor converger.target converger.observed with
  | none =>
    refine ⟨⟨bounded.orderly, bounded.restarts, nofun, bounded.cycles, ?_, bounded.ordinary,
      bounded.restart, ?_⟩, rfl, rfl, rfl, rfl, id, nofun, nofun⟩
    · exact fun pending => absurd idle pending
    · intro target reached
      cases reached
      exact actionFor_eq_none asked
  | some action =>
    refine asks_submit bounded idle converging
      (fun _ => ⟨UInt8.lt_iff_toNat_lt.mp left, asked⟩) ?_
    intro restart
    subst restart
    -- the guard is what the code does not check here
    have faulted := actionFor_eq_restart asked
    by_contra spent
    exact guard ⟨idle, converging, left, faulted,
      UInt8.le_iff_toNat_le.mpr (Nat.le_of_not_lt spent)⟩

end SafeStateConverger
end SensorSystem.Host
