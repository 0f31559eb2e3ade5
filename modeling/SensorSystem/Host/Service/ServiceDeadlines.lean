import SensorSystem.Host.Channel.AgentTimeouts
import SensorSystem.Host.Service.ServiceExecutions

/-! An attempt that is in flight leaves the agent by three steps of the endpoint at most: it is
sent, it times out and its quarantine ends. A configuration takes these steps when its deadline
has passed. A commissioning and a restart only wait for them. -/

namespace SensorSystem.Host

open List Option Base
open Framing (Frame)

namespace ChannelAgent
variable {agent : ChannelAgent} {now : MonotonicMicros}

/-- An attempt is ready exactly when the core transmits, and the end of every quarantine can be
represented. -/
structure Paced (agent : ChannelAgent) : Prop where
  sending : agent.outbound.isSome ↔ ∃ prepared, agent.transactions.state = .transmitting prepared
  owner : agent.completedMeasurement.isSome → agent.active = none
  bounded : ∀ transaction, agent.transactions.state = .awaiting transaction →
    transaction.deadline.toNat + agent.transactions.quarantineDuration.value.toNat < 2 ^ 64

theorem timedOut_leaves (agent : ChannelAgent) (now : MonotonicMicros) :
    agent.Leaves (agent.timedOut now).2 := by
  unfold timedOut
  split
  · exact .refl agent
  rename_i active held
  split
  · exact .refl agent
  split
  · exact ⟨rfl, fun _ _ => rfl⟩
  · exact (scheduleRetry_returns agent _ now _).leaves

variable {after : ChannelAgent} {prepared : PreparedTransaction}

/-- Work that comes back changes nothing of what an attempt needs. -/
theorem Paced.of_leaves (paced : agent.Paced) (leaves : agent.Leaves after)
    (kept : agent.active = none → after = agent) : after.Paced := by
  by_cases free : agent.completedMeasurement = none
  · rw [leaves.same]
    refine ⟨paced.sending, fun handed => ?_, paced.bounded⟩
    exact leaves.owner free handed
  rw [kept (paced.owner (isSome_iff_ne_none.mpr free))]
  exact paced

theorem timedOut_of_free (free : agent.active = none) : (agent.timedOut now).2 = agent := by
  rw [timedOut, free]

theorem acceptResponse_of_free (free : agent.active = none) (payload : List UInt8) :
    (agent.acceptResponse now payload).2 = agent := by
  rw [acceptResponse, free]

theorem Paced.outbound_eq_none (paced : agent.Paced)
    (other : ∀ prepared, agent.transactions.state ≠ .transmitting prepared) :
    agent.outbound = none := by
  by_contra some
  obtain ⟨prepared, transmitting⟩ := paced.sending.mp (isSome_iff_ne_none.mpr some)
  exact other prepared transmitting

/-- The core comes to rest, or a timer of it starts. -/
theorem Paced.rest (paced : agent.Paced) (other : ∀ prepared,
    agent.transactions.state ≠ .transmitting prepared) {core : TransactionCore}
    (idle : core.state = .idle ∨ ∃ expired until_, core.state = .quarantine expired until_) :
    ({ agent with transactions := core } : ChannelAgent).Paced := by
  have outbound := paced.outbound_eq_none other
  refine ⟨?_, paced.owner, fun transaction awaiting => ?_⟩
  · refine iff_of_false (by simp [outbound]) ?_
    rintro ⟨prepared, transmitting⟩
    obtain idle | ⟨expired, until_, waits⟩ := idle
    · exact nomatch idle.symm.trans transmitting
    · exact nomatch waits.symm.trans transmitting
  · obtain idle | ⟨expired, until_, waits⟩ := idle
    · exact nomatch idle.symm.trans awaiting
    · exact nomatch waits.symm.trans awaiting

/-- How far an attempt is from leaving the agent. -/
def stage (agent : ChannelAgent) : Nat :=
  match agent.transactions.state with
  | .idle => 0
  | .quarantine _ _ => 1
  | .awaiting _ => 2
  | .transmitting _ => 3

theorem stage_le (agent : ChannelAgent) : agent.stage ≤ 3 := by
  rw [stage]
  split <;> decide

/-- The timer that the agent waits for has passed. -/
def Late (agent : ChannelAgent) (now : MonotonicMicros) : Prop :=
  (∀ transaction, agent.transactions.state = .awaiting transaction → transaction.deadline < now) ∧
    ∀ expired until_, agent.transactions.state = .quarantine expired until_ → until_ ≤ now

theorem stage_of_leaves (leaves : agent.Leaves after) : after.stage = agent.stage := by
  rw [leaves.same]
  rfl

/-- A started attempt is ready to be sent. -/
theorem startAttempt_ready_iff (outbound : agent.outbound = none) (active : ActiveWork) :
    (agent.startAttempt active now).1 = .ok .transmitReady ↔
      (agent.startAttempt active now).2.outbound.isSome := by
  simp only [startAttempt]
  split
  · simp [outbound]
  split
  · simp [outbound]
  split
  · simp [outbound]
  simp only [transmit]
  split
  · simp [outbound]
  split
  · simp [outbound]
  · simp

theorem nextAttempt_ready_iff (outbound : agent.outbound = none) :
    (agent.nextAttempt now).1 = .ok .transmitReady ↔ (agent.nextAttempt now).2.outbound.isSome := by
  rw [nextAttempt]
  split
  · exact startAttempt_ready_iff outbound _
  · simp [outbound]
  · rename_i pending _ _
    have emptied : ({ agent with pending } : ChannelAgent).outbound = none := outbound
    exact startAttempt_ready_iff emptied _

theorem Paced.startAttempt (paced : agent.Paced) (free : agent.completedMeasurement = none)
    (active : ActiveWork) : (agent.startAttempt active now).2.Paced := by
  obtain starts | ⟨last, same, _⟩ := startAttempt_cases agent active now
  · obtain ⟨prepared, prepares⟩ := starts.core
    have transmitting := prepares.state
    refine ⟨iff_of_true starts.outbound ⟨prepared, transmitting⟩, fun handed => ?_,
      fun transaction awaiting => nomatch transmitting.symm.trans awaiting⟩
    rw [starts.same] at handed
    exact nomatch (congrArg isSome free).symm.trans handed
  · rw [same]
    refine ⟨paced.sending, fun handed => ?_, paced.bounded⟩
    exact nomatch (congrArg isSome free).symm.trans handed

theorem Paced.nextAttempt (paced : agent.Paced) (free : agent.completedMeasurement = none) :
    (agent.nextAttempt now).2.Paced := by
  rw [ChannelAgent.nextAttempt]
  split
  · exact paced.startAttempt free _
  · exact paced
  rename_i pending _ _
  have emptied : ({ agent with pending } : ChannelAgent).Paced :=
    ⟨paced.sending, paced.owner, paced.bounded⟩
  exact emptied.startAttempt free _

theorem scheduleRetry_ne_ready {active : ActiveWork} {event : ChannelEvent}
    (other : event ≠ .transmitReady) :
    (agent.scheduleRetry active now event).1 ≠ .ok .transmitReady := by
  have told : Except.ok event ≠ (.ok .transmitReady : Except ChannelAgentError ChannelEvent) :=
    fun same => other (Except.ok.inj same)
  rw [scheduleRetry]
  split
  · rintro ⟨⟩
  simp only
  split
  · rw [handoffExhausted]
    split <;> rintro ⟨⟩
  · split <;> exact told

theorem timedOut_ne_ready : (agent.timedOut now).1 ≠ .ok .transmitReady := by
  have other (work : PendingWork) : work.timeoutEvent ≠ .transmitReady := by
    cases work with
    | commissioning operation =>
      rw [PendingWork.timeoutEvent.eq_def]
      simp only
      split <;> rintro ⟨⟩
    | _ => rintro ⟨⟩
  rw [timedOut]
  split
  · rintro ⟨⟩
  split
  · rintro ⟨⟩
  split
  · exact fun same => other _ (Except.ok.inj same)
  · exact scheduleRetry_ne_ready (other _)

/-- A poll keeps the pace. -/
theorem Paced.poll (paced : agent.Paced) (now : MonotonicMicros) : (agent.poll now).2.Paced ∧
    ((agent.poll now).1 = .ok .transmitReady ↔ (agent.poll now).2.outbound.isSome) := by
  by_cases outbound : agent.outbound = none
  · by_cases free : agent.completedMeasurement = none
    · rw [poll_eq outbound free]
      cases state : agent.transactions.state with
      | idle =>
        simp only [TransactionCore.onTimer, state]
        exact ⟨paced.nextAttempt free, nextAttempt_ready_iff outbound⟩
      | transmitting prepared =>
        have sending := paced.sending.mpr ⟨prepared, state⟩
        rw [outbound] at sending
        cases sending
      | awaiting transaction =>
        by_cases passed : transaction.deadline < now
        · obtain ⟨until_, core, fires, expires⟩ :=
            TransactionCore.onTimer_of_passed state passed (paced.bounded transaction state)
          obtain ⟨expired, later, _, _, _, rfl⟩ := expires.passed
          simp only [fires]
          have rests : ({ agent with transactions :=
              { agent.transactions with state := .quarantine expired later } } :
                ChannelAgent).Paced :=
            paced.rest (by simp [state]) (.inr ⟨expired, later, rfl⟩)
          have leaves := timedOut_leaves { agent with
            transactions := { agent.transactions with state := .quarantine expired later } } now
          refine ⟨rests.of_leaves leaves timedOut_of_free, ?_⟩
          refine iff_of_false timedOut_ne_ready ?_
          rw [leaves.same]
          simp [outbound]
        · simp only [TransactionCore.onTimer, state, UInt64.not_lt.mp passed, if_true]
          exact ⟨paced.nextAttempt free, nextAttempt_ready_iff outbound⟩
      | quarantine expired until_ =>
        by_cases waits : now < until_
        · simp only [TransactionCore.onTimer, state, if_pos waits]
          exact ⟨paced.nextAttempt free, nextAttempt_ready_iff outbound⟩
        simp only [TransactionCore.onTimer, state, if_neg waits]
        refine ⟨paced.rest (by simp [state]) (.inl rfl), ?_⟩
        simp [outbound]
    · obtain ⟨transfer, completed⟩ := ne_none_iff_exists'.mp free
      simp only [ChannelAgent.poll, outbound, completed, isSome_none, Bool.false_eq_true,
        if_false]
      exact ⟨paced, by simp⟩
  · have some := isSome_iff_ne_none.mpr outbound
    rw [ChannelAgent.poll, if_pos some]
    exact ⟨paced, by simp [some]⟩

/-- A poll that finds its timer passed brings an attempt on. -/
theorem Paced.stage_poll (paced : agent.Paced) (held : agent.active.isSome)
    (late : agent.Late now) (waits : agent.stage = 1 ∨ agent.stage = 2) :
    (agent.poll now).2.stage < agent.stage := by
  have free : agent.completedMeasurement = none := by
    by_contra some
    rw [paced.owner (isSome_iff_ne_none.mpr some)] at held
    exact nomatch held
  cases state : agent.transactions.state with
  | idle =>
    rw [stage, state] at waits
    simp at waits
  | transmitting prepared =>
    rw [stage, state] at waits
    simp at waits
  | awaiting transaction =>
    have outbound := paced.outbound_eq_none (by simp [state])
    have passed := late.1 transaction state
    obtain ⟨until_, core, fires, expires⟩ :=
      TransactionCore.onTimer_of_passed state passed (paced.bounded transaction state)
    obtain ⟨expired, later, _, _, _, rfl⟩ := expires.passed
    rw [poll_eq outbound free]
    simp only [fires]
    rw [stage_of_leaves (timedOut_leaves _ now), stage, stage, state]
    exact Nat.one_lt_two
  | quarantine expired until_ =>
    have outbound := paced.outbound_eq_none (by simp [state])
    have passed : ¬ now < until_ := UInt64.not_lt.mpr (late.2 expired until_ state)
    rw [poll_eq outbound free]
    simp only [TransactionCore.onTimer, state, if_neg passed]
    rw [stage, stage, state]
    exact Nat.zero_lt_one

/-- The time of an attempt that is sent, and of its quarantine, can be represented. -/
def Representable (agent : ChannelAgent) (inputs : EndpointInputs) : Prop :=
  inputs.transmits = true → ∀ prepared,
    (agent.poll inputs.polled).2.transactions.state = .transmitting prepared →
    inputs.settled.toNat + prepared.timeout.value.toNat +
      (agent.poll inputs.polled).2.transactions.quarantineDuration.value.toNat < 2 ^ 64

/-- A failed transmission gives the work back. -/
theorem transmitFailed_leaves (now : MonotonicMicros)
    (transmitting : agent.transactions.state = .transmitting prepared) :
    let rested : ChannelAgent := { agent with
      outbound := none
      transactions := { agent.transactions with state := .idle } }
    rested.Leaves (({ agent with outbound := none } : ChannelAgent).transmitFailed now).2 ∧
      (rested.active = none →
        (({ agent with outbound := none } : ChannelAgent).transmitFailed now).2 = rested) := by
  intro rested
  simp only [transmitFailed, TransactionCore.cancelTransmit, transmitting]
  split
  · exact ⟨.refl rested, fun _ => rfl⟩
  rename_i active held
  split
  · exact ⟨.refl rested, fun _ => rfl⟩
  rename_i work _
  refine ⟨(scheduleRetry_returns rested { active with work } now _).leaves, fun free => ?_⟩
  cases held.symm.trans free

/-- An attempt that is sent waits for its response. -/
theorem Paced.sendOutbound (paced : agent.Paced) {inputs : EndpointInputs}
    (transmitting : agent.transactions.state = .transmitting prepared)
    (fits : inputs.transmits = true →
      inputs.settled.toNat + prepared.timeout.value.toNat +
        agent.transactions.quarantineDuration.value.toNat < 2 ^ 64) :
    (agent.sendOutbound inputs).2.Paced ∧ (agent.sendOutbound inputs).2.stage < agent.stage := by
  obtain ⟨frame, outbound⟩ := isSome_iff_exists.mp (paced.sending.mpr ⟨prepared, transmitting⟩)
  have sending : agent.stage = 3 := by rw [stage, transmitting]
  rw [ChannelAgent.sendOutbound, takeOutbound, outbound]
  simp only
  split
  · rename_i transmits
    have fits := fits transmits
    have deadline : checkedAdd inputs.settled prepared.timeout.value =
        some (inputs.settled + prepared.timeout.value) := by
      rw [checkedAdd, if_pos (by omega)]
    have sum := checkedAdd_eq_some.mp deadline
    simp only [transmitCompleted, TransactionCore.markTransmitted, transmitting, deadline,
      isSome_none, Bool.false_eq_true, if_false]
    refine ⟨⟨by simp, fun handed => ?_, fun transaction awaiting => ?_⟩, ?_⟩
    · simp only [paced.owner handed, map_none]
    · obtain rfl := TransactionState.awaiting.inj awaiting
      rw [PreparedTransaction.activate]
      simp only
      omega
    · rw [sending]
      exact Nat.lt_succ_self 2
  · have rests : ({ agent with
        outbound := none
        transactions := { agent.transactions with state := .idle } } : ChannelAgent).Paced :=
      ⟨by simp, paced.owner, by rintro _ ⟨⟩⟩
    obtain ⟨leaves, kept⟩ := transmitFailed_leaves inputs.settled transmitting
    have ended : (({ agent with outbound := none } : ChannelAgent).transmitFailed
          inputs.settled).2.Paced ∧
        (({ agent with outbound := none } : ChannelAgent).transmitFailed inputs.settled).2.stage <
          agent.stage := by
      refine ⟨rests.of_leaves leaves kept, ?_⟩
      rw [stage_of_leaves leaves, sending, stage]
      exact Nat.zero_lt_succ 2
    split
    · rename_i after done
      rw [done] at ended
      exact ended
    rename_i after done
    rw [done] at ended
    exact ended

/-- A received frame brings no attempt back. -/
theorem Paced.receive (paced : agent.Paced) (now : MonotonicMicros) (frame : Frame) :
    (agent.receive now frame).2.Paced ∧ (agent.receive now frame).2.stage ≤ agent.stage := by
  rw [ChannelAgent.receive]
  split
  · exact ⟨paced, Nat.le_refl _⟩
  all_goals
    rename_i core done
    obtain ⟨accepted, transaction, awaiting, _, _, rfl⟩ | ⟨other, rfl | expires⟩ :=
      TransactionCore.receive_eq_ok done
  · cases accepted
  · exact ⟨paced, Nat.le_refl _⟩
  · obtain ⟨expired, until_, awaiting, _, _, rfl⟩ := expires.passed
    refine ⟨paced.rest (by simp [awaiting]) (.inr ⟨_, _, rfl⟩), ?_⟩
    rw [stage, stage, awaiting]
    exact Nat.le_succ 1
  · cases accepted
  · exact ⟨paced, Nat.le_refl _⟩
  · obtain ⟨expired, until_, awaiting, _, _, rfl⟩ := expires.passed
    refine ⟨paced.rest (by simp [awaiting]) (.inr ⟨_, _, rfl⟩), ?_⟩
    rw [stage, stage, awaiting]
    exact Nat.le_succ 1
  · cases accepted
  · exact ⟨paced, Nat.le_refl _⟩
  · obtain ⟨expired, until_, awaiting, _, _, rfl⟩ := expires.passed
    refine ⟨paced.rest (by simp [awaiting]) (.inr ⟨_, _, rfl⟩), ?_⟩
    rw [stage, stage, awaiting]
    exact Nat.le_succ 1
  · have rests : ({ agent with transactions :=
        { agent.transactions with state := .idle } } : ChannelAgent).Paced :=
      paced.rest (by simp [awaiting]) (.inl rfl)
    have leaves := acceptResponse_leaves { agent with
      transactions := { agent.transactions with state := .idle } } now frame.payload
    refine ⟨rests.of_leaves leaves fun free => acceptResponse_of_free free _, ?_⟩
    rw [stage_of_leaves leaves, stage]
    exact Nat.zero_le _
  · exact absurd rfl other
  · exact absurd rfl other

theorem Paced.pollPort (paced : agent.Paced) (inputs : EndpointInputs) :
    (agent.pollPort inputs).2.Paced ∧ (agent.pollPort inputs).2.stage ≤ agent.stage := by
  rw [ChannelAgent.pollPort]
  split
  · exact ⟨paced, Nat.le_refl _⟩
  · rename_i frame _
    have received := paced.receive inputs.settled frame
    split <;> rename_i done <;> rw [done] at received <;> exact received
  · exact ⟨paced, Nat.le_refl _⟩
  · exact ⟨paced, Nat.le_refl _⟩
  · exact ⟨paced, Nat.le_refl _⟩

theorem Paced.endpointStep (paced : agent.Paced) {inputs : EndpointInputs}
    (representable : agent.Representable inputs) : (agent.endpointStep inputs).2.Paced ∧
      (agent.endpointStep inputs).2.stage ≤ (agent.poll inputs.polled).2.stage := by
  obtain ⟨polled, ready⟩ := paced.poll inputs.polled
  rw [Representable] at representable
  rw [ChannelAgent.endpointStep]
  split
  · rename_i after done
    rw [done] at polled
    exact ⟨polled, by rw [done]⟩
  · rename_i after done
    rw [done] at polled ready representable ⊢
    obtain ⟨prepared, transmitting⟩ := polled.sending.mp (ready.mp rfl)
    obtain ⟨sent, sooner⟩ := polled.sendOutbound transmitting fun transmits =>
      representable transmits prepared transmitting
    exact ⟨sent, Nat.le_of_lt sooner⟩
  · rename_i after done
    rw [done] at polled ⊢
    exact polled.pollPort inputs
  · rename_i after _ _ done
    rw [done] at polled
    exact ⟨polled, by rw [done]⟩

/-- A step that is late enough brings the attempt on. -/
theorem Paced.stage_endpointStep (paced : agent.Paced) {inputs : EndpointInputs}
    (representable : agent.Representable inputs) (held : agent.active.isSome)
    (late : agent.Late inputs.polled) (waits : agent.stage ≠ 0) :
    (agent.endpointStep inputs).2.stage < agent.stage := by
  cases state : agent.transactions.state with
  | idle =>
    rw [stage, state] at waits
    exact absurd rfl waits
  | transmitting prepared =>
    have some := paced.sending.mpr ⟨prepared, state⟩
    have polled : agent.poll inputs.polled = (.ok .transmitReady, agent) := by
      rw [ChannelAgent.poll, if_pos some]
    rw [Representable, polled] at representable
    rw [ChannelAgent.endpointStep, polled]
    exact (paced.sendOutbound state fun transmits => representable transmits prepared state).2
  | awaiting transaction =>
    have sooner := paced.stage_poll held late (.inr (by rw [stage, state]))
    exact Nat.lt_of_le_of_lt (paced.endpointStep representable).2 sooner
  | quarantine expired until_ =>
    have sooner := paced.stage_poll held late (.inl (by rw [stage, state]))
    exact Nat.lt_of_le_of_lt (paced.endpointStep representable).2 sooner

/-- The agents that a worker can have. -/
inductive Reachable : ChannelAgent → Prop where
  | new {transactionSeed operationSeed : UInt32} {quarantineDuration : DurationMicros}
      {policy : ChannelPolicy} {agent : ChannelAgent}
      (built : ChannelAgent.new transactionSeed operationSeed quarantineDuration policy =
        .ok agent) : Reachable agent
  | submit {agent : ChannelAgent} (before : Reachable agent) (submission : Submission) :
    Reachable (agent.submit submission)
  | step {agent : ChannelAgent} (before : Reachable agent) (inputs : EndpointInputs)
      (representable : agent.Representable inputs) : Reachable (agent.endpointStep inputs).2
  | takeCompletedMeasurement {agent : ChannelAgent} (before : Reachable agent) :
    Reachable agent.takeCompletedMeasurement.2
  | abandon {agent : ChannelAgent} (before : Reachable agent) (key : ControlWorkKey) :
    Reachable (agent.abandonControlWork key).2

theorem Paced.new {transactionSeed operationSeed : UInt32} {quarantineDuration : DurationMicros}
    {policy : ChannelPolicy} (built : ChannelAgent.new transactionSeed operationSeed
      quarantineDuration policy = .ok agent) : agent.Paced := by
  rw [ChannelAgent.new] at built
  obtain ⟨_, _, made⟩ := bind_eq_ok.mp built
  cases made
  exact ⟨by simp [TransactionCore.new], nofun, nofun⟩

theorem Paced.submit (paced : agent.Paced) (submission : Submission) :
    (agent.submit submission).Paced := by
  obtain ⟨nextOperationId, same | ⟨operationId, work, built, same⟩⟩ :=
    submit_enqueues agent submission
  · rw [same]
    exact ⟨paced.sending, paced.owner, paced.bounded⟩
  · rw [same]
    exact ⟨paced.sending, paced.owner, paced.bounded⟩

theorem Paced.abandonControlWork (paced : agent.Paced) (key : ControlWorkKey) :
    (agent.abandonControlWork key).2.Paced := by
  rw [ChannelAgent.abandonControlWork]
  split
  · split
    · exact paced
    · exact ⟨paced.sending, fun _ => rfl, paced.bounded⟩
  split
  · exact paced
  · exact ⟨paced.sending, paced.owner, paced.bounded⟩

theorem Reachable.paced (reachable : agent.Reachable) : agent.Paced := by
  induction reachable with
  | new built => exact .new built
  | submit before submission ih => exact ih.submit submission
  | step before inputs representable ih => exact (ih.endpointStep representable).1
  | takeCompletedMeasurement before ih => exact ⟨ih.sending, nofun, ih.bounded⟩
  | abandon before key ih => exact ih.abandonControlWork key

/-- How much work of this key the agent holds. -/
def controlWork (agent : ChannelAgent) (key : ControlWorkKey) : Nat :=
  (agent.active.any (·.work.matchesControlKey key)).toNat +
    agent.pending.countP (·.matchesControlKey key)

/-- The attempt of this work is to be sent, sent, or in quarantine. -/
def AttemptInFlight (agent : ChannelAgent) (key : ControlWorkKey) : Prop :=
  agent.active.any (·.work.matchesControlKey key) = true ∧
    (agent.outbound.isSome = true ∨ agent.transactions.isIdle = false)

theorem AttemptInFlight.stage_ne_zero (paced : agent.Paced) {key : ControlWorkKey}
    (inFlight : agent.AttemptInFlight key) : agent.stage ≠ 0 := by
  intro rests
  have idle : agent.transactions.state = .idle := by
    cases state : agent.transactions.state with
    | idle => rfl
    | _ =>
      rw [stage, state] at rests
      simp at rests
  obtain ⟨_, sending | busy⟩ := inFlight
  · obtain ⟨prepared, transmitting⟩ := paced.sending.mp sending
    cases idle.symm.trans transmitting
  · rw [TransactionCore.isIdle, idle] at busy
    cases busy

theorem AttemptInFlight.held {key : ControlWorkKey} (inFlight : agent.AttemptInFlight key) :
    agent.active.isSome := by
  cases held : agent.active with
  | none =>
    have none := inFlight.1
    rw [held] at none
    exact nomatch none
  | some active => rfl

/-- The last moment of the clock is late enough for every timer. -/
theorem Paced.late_max (paced : agent.Paced) : agent.Late 0xffffffffffffffff := by
  refine ⟨fun transaction awaiting => ?_, fun _ until_ _ => ?_⟩
  · have bounded := paced.bounded transaction awaiting
    have some : agent.transactions.quarantineDuration.value.toNat ≠ 0 := fun zero =>
      agent.transactions.quarantineDuration.nonzero (UInt64.toNat_inj.mp zero)
    rw [UInt64.lt_iff_toNat_lt]
    have last : (0xffffffffffffffff : UInt64).toNat = 2 ^ 64 - 1 := rfl
    omega
  have bounded := until_.toNat_lt
  rw [UInt64.le_iff_toNat_le]
  have last : (0xffffffffffffffff : UInt64).toNat = 2 ^ 64 - 1 := rfl
  omega

end ChannelAgent

namespace Service
variable {agent : ChannelAgent}

open ChannelAgent (AttemptInFlight)
open Operations (OperationsError)

/-- Taking out the first match takes one off the count. -/
theorem countP_eraseIdx {α : Type} {p : α → Bool} {items : List α} {position : Nat}
    (found : items.findIdx? p = some position) :
    (items.eraseIdx position).countP p = items.countP p - 1 := by
  induction items generalizing position with
  | nil => exact nomatch found
  | cons item rest ih =>
    rw [findIdx?_cons] at found
    by_cases holds : p item
    · rw [if_pos holds] at found
      cases found
      rw [eraseIdx_cons_zero, countP_cons_of_pos holds]
      rfl
    rw [if_neg holds] at found
    obtain ⟨later, there, rfl⟩ := map_eq_some_iff.mp found
    rw [eraseIdx_cons_succ, countP_cons_of_neg holds, countP_cons_of_neg holds]
    exact ih there

theorem abandon_of_inFlight {key : ControlWorkKey} (inFlight : agent.AttemptInFlight key) :
    abandon agent key = (.inFlight, agent) := by
  obtain ⟨found, busy⟩ := inFlight
  have busy : agent.outbound.isSome = true ∨ ¬ agent.transactions.isIdle = true := by
    rwa [Bool.not_eq_true]
  rw [abandon, ChannelAgent.abandonControlWork, if_pos found, if_pos busy]

theorem abandon_of_not_inFlight {key : ControlWorkKey} (rests : ¬ agent.AttemptInFlight key) :
    ∃ after, abandon agent key = (.gone, after) ∧
      after.controlWork key = agent.controlWork key - 1 := by
  rw [abandon, ChannelAgent.abandonControlWork]
  by_cases found : agent.active.any (·.work.matchesControlKey key) = true
  · have calm : ¬ (agent.outbound.isSome = true ∨ ¬ agent.transactions.isIdle = true) := by
      rw [Bool.not_eq_true]
      exact fun busy => rests ⟨found, busy⟩
    rw [if_pos found, if_neg calm]
    refine ⟨_, rfl, ?_⟩
    rw [ChannelAgent.controlWork, ChannelAgent.controlWork, found]
    simp only [any_none, Bool.toNat_false, Bool.toNat_true]
    omega
  rw [if_neg found]
  rw [Bool.not_eq_true] at found
  cases place : agent.pending.findIdx? (·.matchesControlKey key) with
  | none =>
    refine ⟨_, rfl, ?_⟩
    have none : agent.pending.countP (·.matchesControlKey key) = 0 :=
      countP_eq_zero.mpr fun work held => by
        simpa using findIdx?_eq_none_iff.mp place work held
    rw [ChannelAgent.controlWork, found, none]
    rfl
  | some position =>
    refine ⟨_, rfl, ?_⟩
    rw [ChannelAgent.controlWork, ChannelAgent.controlWork, found]
    simp only [countP_eraseIdx place, Bool.toNat_false, Nat.zero_add]

/-- The work that an execution has at the agent. -/
def Execution.key : Execution → Option ControlWorkKey
  | .configuration execution => some execution.key
  | .commissioning execution => execution.key
  | .restart execution => if execution.settleUntil.isNone then some execution.key else none

/-- A drive ends the execution and takes its work from the agent. -/
def EndsNow (commit : ConfigOperationResult → Except (OperationsError × Bool) Unit)
    (execution : Execution) (agent : ChannelAgent) (inputs : DriveInputs) : Prop :=
  ∃ ending after, execution.drive commit agent inputs = (.ended ending, after) ∧
    ∀ key, execution.key = some key → after.controlWork key = agent.controlWork key - 1

/-- A drive ends the execution, or steps the endpoint. -/
def EndsOrSteps (commit : ConfigOperationResult → Except (OperationsError × Bool) Unit)
    (execution : Execution) (agent : ChannelAgent) (inputs : DriveInputs) : Prop :=
  EndsNow commit execution agent inputs ∨
    (execution.drive commit agent inputs).2 = (agent.endpointStep inputs.endpoint).2

/-- One drive after the other, as long as the execution goes on. -/
def drives (commit : ConfigOperationResult → Except (OperationsError × Bool) Unit) :
    Execution → ChannelAgent → List DriveInputs → Driven Execution × ChannelAgent
  | execution, agent, [] => (.goesOn execution, agent)
  | execution, agent, inputs :: rest =>
    match execution.drive commit agent inputs with
    | (.ended ending, agent) => (.ended ending, agent)
    | (.goesOn execution, agent) => drives commit execution agent rest

/-- Every drive comes behind the deadline and the timer that the agent waits for. -/
def Overdue (commit : ConfigOperationResult → Except (OperationsError × Bool) Unit) :
    Execution → ChannelAgent → List DriveInputs → Prop
  | _, _, [] => True
  | execution, agent, inputs :: rest =>
    (execution.deadline ≤ inputs.instant ∧ agent.Late inputs.endpoint.polled ∧
      agent.Representable inputs.endpoint) ∧
    match execution.drive commit agent inputs with
    | (.ended _, _) => True
    | (.goesOn execution, agent) => Overdue commit execution agent rest

/-- Each drive at the deadline ends the operation or steps the endpoint, and one of four drives ends
it. -/
structure EndsInTime (commit : ConfigOperationResult → Except (OperationsError × Bool) Unit)
    (execution : Execution) (agent : ChannelAgent) : Prop where
  each : ∀ inputs, execution.deadline ≤ inputs.instant →
    EndsOrSteps commit execution agent inputs
  bounded : ∀ calls, Overdue commit execution agent calls → 4 ≤ calls.length →
    ∃ ending, (drives commit execution agent calls).1 = .ended ending

/-- No attempt of a commissioning or a restart is in flight at the deadline. -/
def Free (agent : ChannelAgent) : Execution → Prop
  | .configuration _ => True
  | .commissioning execution => ∀ key, execution.key = some key → ¬ agent.AttemptInFlight key
  | .restart execution =>
    match execution.settleUntil with
    | some settleUntil => settleUntil ≤ execution.deadline
    | none => ¬ agent.AttemptInFlight execution.key

section Drives
variable (commit : ConfigOperationResult → Except (OperationsError × Bool) Unit)
  {inputs : DriveInputs}

variable {execution : ConfigurationExecution}

theorem expired_terminalError (past : execution.deadline ≤ inputs.instant) :
    ∃ error, (execution.expired inputs.instant).terminalError = some error ∧
      (execution.expired inputs.instant).deadline = execution.deadline ∧
      (execution.expired inputs.instant).key = execution.key := by
  rw [ConfigurationExecution.expired]
  cases had : execution.terminalError with
  | none =>
    rw [if_pos ⟨rfl, past⟩]
    exact ⟨_, rfl, rfl, rfl⟩
  | some error =>
    rw [if_neg (by simp)]
    exact ⟨error, had, rfl, rfl⟩

/-- An execution that has failed only steps the endpoint. -/
theorem stepped_of_terminalError (agent : ChannelAgent) (inputs : DriveInputs)
    (failed : execution.terminalError.isSome) : ∃ later : ConfigurationExecution,
      execution.stepped commit agent inputs =
        (.goesOn later, (agent.endpointStep inputs.endpoint).2) ∧
      later.deadline = execution.deadline := by
  rw [ConfigurationExecution.stepped]
  split
  · rename_i after done
    exact ⟨{ execution with terminalError := some .configurationFailed }, by rw [done], rfl⟩
  rename_i event after done
  rw [if_pos failed]
  exact ⟨execution, by rw [done], rfl⟩

theorem RestartExecution.expired_failed (execution : RestartExecution) {instant : Instant}
    (past : execution.deadline ≤ instant) :
    ∃ error, (execution.expired instant).terminalError = some error := by
  rw [expired]
  cases had : execution.terminalError with
  | none =>
    rw [if_pos ⟨rfl, past⟩]
    exact ⟨_, rfl⟩
  | some error =>
    rw [if_neg (by simp)]
    exact ⟨error, had⟩

theorem RestartExecution.expired_deadline (execution : RestartExecution) (instant : Instant) :
    (execution.expired instant).deadline = execution.deadline := by
  rw [expired]
  split <;> rfl

theorem RestartExecution.expired_settleUntil (execution : RestartExecution) (instant : Instant) :
    (execution.expired instant).settleUntil = execution.settleUntil := by
  rw [expired]
  split <;> rfl

theorem RestartExecution.expired_key (execution : RestartExecution) (instant : Instant) :
    (execution.expired instant).key = execution.key := by
  rw [expired]
  split <;> rfl

variable (past : execution.deadline ≤ inputs.instant)

include past

theorem drive_configuration_of_inFlight (inFlight : agent.AttemptInFlight execution.key) :
    ∃ later : ConfigurationExecution,
      (Execution.configuration execution).drive commit agent inputs =
      (.goesOn (.configuration later), (agent.endpointStep inputs.endpoint).2) ∧
        later.deadline = execution.deadline := by
  obtain ⟨error, failed, deadline, key⟩ := expired_terminalError past
  have ended : (execution.expired inputs.instant).terminalError.isSome := by rw [failed]; rfl
  obtain ⟨later, stepped, same⟩ := stepped_of_terminalError commit agent inputs ended
  refine ⟨later, ?_, same.trans deadline⟩
  rw [← key] at inFlight
  rw [Execution.drive, ConfigurationExecution.drive]
  simp only [failed, abandon_of_inFlight inFlight, stepped, Execution.wrap]

theorem configuration_endsNow (rests : ¬ agent.AttemptInFlight execution.key) :
    EndsNow commit (.configuration execution) agent inputs := by
  obtain ⟨error, failed, deadline, key⟩ := expired_terminalError past
  obtain ⟨after, gone, removed⟩ := abandon_of_not_inFlight rests
  rw [← key] at gone
  refine ⟨.failed error, after, ?_, fun key same => some.inj same ▸ removed⟩
  rw [Execution.drive, ConfigurationExecution.drive]
  simp only [failed, gone, Execution.wrap]

omit past

theorem drives_of_endsNow {execution : Execution} {rest : List DriveInputs}
    (endsNow : EndsNow commit execution agent inputs) :
    ∃ ending, (drives commit execution agent (inputs :: rest)).1 = .ended ending := by
  obtain ⟨ending, after, driven, _⟩ := endsNow
  exact ⟨ending, by rw [drives, driven]⟩

/-- Late drives of a configuration run out of stages. -/
theorem configuration_ends {calls : List DriveInputs} (paced : agent.Paced)
    (overdue : Overdue commit (.configuration execution) agent calls)
    (enough : agent.stage < calls.length) :
    ∃ ending, (drives commit (.configuration execution) agent calls).1 = .ended ending := by
  induction calls generalizing execution agent with
  | nil => exact absurd enough (Nat.not_lt_zero _)
  | cons inputs rest ih =>
    obtain ⟨⟨past, late, representable⟩, following⟩ := overdue
    by_cases inFlight : agent.AttemptInFlight execution.key
    · obtain ⟨later, driven, same⟩ := drive_configuration_of_inFlight commit past inFlight
      have sooner := paced.stage_endpointStep representable inFlight.held late
        (inFlight.stage_ne_zero paced)
      rw [driven] at following
      rw [drives, driven]
      refine ih (paced.endpointStep representable).1 following ?_
      rw [length_cons] at enough
      omega
    · exact drives_of_endsNow commit (configuration_endsNow commit past inFlight)

theorem commissioning_endsNow {execution : CommissioningExecution}
    (past : execution.deadline ≤ inputs.instant)
    (rests : ∀ key, execution.key = some key → ¬ agent.AttemptInFlight key) :
    EndsNow commit (.commissioning execution) agent inputs := by
  rw [EndsNow, Execution.drive, CommissioningExecution.drive, if_pos past, Execution.key]
  cases waits : execution.key with
  | none => exact ⟨_, agent, rfl, nofun⟩
  | some key =>
    obtain ⟨after, gone, removed⟩ := abandon_of_not_inFlight (rests key waits)
    simp only [gone, Execution.wrap]
    exact ⟨_, after, rfl, fun other same => Option.some.inj same ▸ removed⟩

/-- A commissioning leaves an attempt in flight as it is. -/
theorem drive_commissioning_of_inFlight {execution : CommissioningExecution} {key : ControlWorkKey}
    (past : execution.deadline ≤ inputs.instant) (waits : execution.key = some key)
    (inFlight : agent.AttemptInFlight key) :
    (Execution.commissioning execution).drive commit agent inputs =
      (.goesOn (.commissioning execution), agent) := by
  rw [Execution.drive, CommissioningExecution.drive, if_pos past]
  simp only [waits, abandon_of_inFlight inFlight, Execution.wrap]

theorem restart_endsNow {execution : RestartExecution}
    (past : execution.deadline ≤ inputs.instant) (free : Free agent (.restart execution)) :
    EndsNow commit (.restart execution) agent inputs := by
  rw [EndsNow, Execution.drive, RestartExecution.drive, Execution.key]
  cases settles : execution.settleUntil with
  | some settleUntil =>
    simp only [Free, settles] at free
    simp only [if_neg (Nat.not_lt.mpr (Nat.le_trans free past)), Execution.wrap]
    exact ⟨_, agent, rfl, nofun⟩
  | none =>
    simp only [Free, settles] at free
    obtain ⟨after, gone, removed⟩ := abandon_of_not_inFlight free
    obtain ⟨error, failed⟩ := execution.expired_failed past
    rw [← execution.expired_key inputs.instant] at gone
    simp only [failed, gone, Execution.wrap]
    exact ⟨_, after, rfl, fun other same => Option.some.inj same ▸ removed⟩

/-- A restart leaves an attempt alone. -/
theorem drive_restart_of_not_free {execution : RestartExecution}
    (past : inputs.instant = execution.deadline) (kept : ¬ Free agent (.restart execution)) :
    ∃ later : RestartExecution, (Execution.restart execution).drive commit agent inputs =
      (.goesOn (.restart later), agent) ∧ later.deadline = execution.deadline ∧
        ¬ Free agent (.restart later) := by
  cases settles : execution.settleUntil with
  | some settleUntil =>
    refine ⟨execution, ?_, rfl, kept⟩
    simp only [Free, settles] at kept
    rw [Execution.drive, RestartExecution.drive]
    simp only [settles, past, if_pos (Nat.lt_of_not_le kept), Execution.wrap]
  | none =>
    obtain ⟨error, failed⟩ := execution.expired_failed (Nat.le_of_eq past.symm)
    have key := execution.expired_key inputs.instant
    refine ⟨execution.expired inputs.instant, ?_, execution.expired_deadline _, ?_⟩
    · simp only [Free, settles, Classical.not_not] at kept
      rw [← key] at kept
      rw [Execution.drive, RestartExecution.drive]
      simp only [settles, failed, abandon_of_inFlight kept, Execution.wrap]
    · simp only [Free, settles, key, execution.expired_settleUntil inputs.instant] at kept ⊢
      exact kept

/-- An execution that is not free leaves the agent as it is. -/
theorem drive_of_not_free (inputs : DriveInputs) {execution : Execution}
    (past : inputs.instant = execution.deadline)
    (kept : ¬ Free agent execution) :
    ∃ later : Execution, execution.drive commit agent inputs = (.goesOn later, agent) ∧
      later.deadline = execution.deadline ∧ ¬ Free agent later := by
  cases execution with
  | configuration execution => exact absurd trivial kept
  | commissioning execution =>
    simp only [Free, Classical.not_forall, Classical.not_not] at kept
    obtain ⟨key, waits, inFlight⟩ := kept
    refine ⟨_, drive_commissioning_of_inFlight commit (Nat.le_of_eq past.symm) waits inFlight, rfl,
      ?_⟩
    exact fun free => free key waits inFlight
  | restart execution =>
    obtain ⟨later, driven, deadline, kept⟩ :=
      drive_restart_of_not_free commit past kept
    exact ⟨.restart later, driven, deadline, kept⟩

/-- A drive at the deadline, at the clock's end, with a silent node. -/
def silentDrive (instant : Instant) : DriveInputs where
  instant := instant
  stepped := instant
  endpoint :=
    { polled := 0xffffffffffffffff
      settled := 0xffffffffffffffff
      transmits := false
      receives := .noData }

/-- An execution that is not free never ends. -/
theorem drives_of_not_free {execution : Execution} (paced : agent.Paced)
    (kept : ¬ Free agent execution) (count : Nat) :
    Overdue commit execution agent (.replicate count (silentDrive execution.deadline)) ∧
      ∃ later, drives commit execution agent
        (.replicate count (silentDrive execution.deadline)) = (.goesOn later, agent) := by
  induction count generalizing execution with
  | zero => exact ⟨trivial, execution, rfl⟩
  | succ count ih =>
    obtain ⟨later, driven, deadline, kept⟩ :=
      drive_of_not_free commit (silentDrive execution.deadline) rfl kept
    obtain ⟨overdue, ends⟩ := ih kept
    rw [deadline] at overdue ends
    rw [replicate_succ, drives, Overdue, driven]
    exact ⟨⟨⟨Nat.le_refl _, paced.late_max, nofun⟩, overdue⟩, ends⟩

/-- A free execution that is not a configuration ends at once. -/
theorem endsInTime_of_endsNow {execution : Execution}
    (ends : ∀ inputs : DriveInputs, execution.deadline ≤ inputs.instant →
      EndsNow commit execution agent inputs) : EndsInTime commit execution agent := by
  refine ⟨fun inputs past => .inl (ends inputs past), fun calls overdue enough => ?_⟩
  cases calls with
  | nil => exact absurd enough (by decide)
  | cons inputs rest => exact drives_of_endsNow commit (ends inputs overdue.1.1)

theorem endsInTime_configuration (paced : agent.Paced) (execution : ConfigurationExecution) :
    EndsInTime commit (.configuration execution) agent := by
  refine ⟨fun inputs past => ?_, fun calls overdue enough => ?_⟩
  · by_cases inFlight : agent.AttemptInFlight execution.key
    · obtain ⟨later, driven, _⟩ := drive_configuration_of_inFlight commit past inFlight
      exact .inr (by rw [driven])
    · exact .inl (configuration_endsNow commit past inFlight)
  · exact configuration_ends commit paced overdue (Nat.lt_of_le_of_lt agent.stage_le enough)

end Drives

/-- A service operation ends in time exactly when it is a configuration, or has no attempt in
flight and no node to settle. -/
theorem deadlines_end {agent : ChannelAgent} (reachable : agent.Reachable)
    (commit : ConfigOperationResult → Except (OperationsError × Bool) Unit)
    (execution : Execution) : EndsInTime commit execution agent ↔ Free agent execution := by
  have paced := reachable.paced
  constructor
  · intro ends
    refine Classical.not_not.mp fun kept => ?_
    obtain ⟨overdue, later, goesOn⟩ := drives_of_not_free commit paced kept 4
    obtain ⟨ending, ended⟩ := ends.bounded _ overdue (by simp)
    rw [goesOn] at ended
    exact nomatch ended
  intro free
  cases execution with
  | configuration execution => exact endsInTime_configuration commit paced execution
  | commissioning execution =>
    exact endsInTime_of_endsNow commit fun _ past => commissioning_endsNow commit past free
  | restart execution =>
    exact endsInTime_of_endsNow commit fun _ past => restart_endsNow commit past free

open AgentTrace (quickAgent)

/-- The probe of a scan has been sent at time 0. -/
def probingAgent : ChannelAgent :=
  ((quickAgent.submit (.commissioningProbe ⟨7, 1, 0⟩)).endpointStep ⟨0, 0, true, .noData⟩).2

def probingScan : CommissioningScan where
  roundNonce := 7
  slotCount := 1
  activeSlot := some 0
  deadline := 15000

theorem probingAgent_reachable : probingAgent.Reachable := by
  have built : ChannelAgent.new 1 1 ⟨5, by decide⟩ quickAgent.policy = .ok quickAgent := rfl
  refine .step (.submit (.new built) _) _ ?_
  intro _ prepared transmitting
  cases transmitting
  decide

theorem probingScan_inFlight : probingAgent.AttemptInFlight (.commissioningProbe 7 0) := by
  refine ⟨?_, .inr ?_⟩ <;> decide

theorem probingScan_not_free : ¬ Free probingAgent (.commissioning (.scan probingScan)) :=
  fun free => free _ rfl probingScan_inFlight

theorem deadlines_end_probingAgent : probingAgent.Reachable ∧
    (EndsInTime (fun _ => .ok ()) (.commissioning (.scan probingScan)) probingAgent ↔
      Free probingAgent (.commissioning (.scan probingScan))) :=
  ⟨probingAgent_reachable, deadlines_end probingAgent_reachable _ _⟩

/-- A scan whose probe is not answered is never over: no drive behind its deadline ends it, or
changes the agent. -/
theorem scan_never_ends : probingAgent.Reachable ∧
    ∀ commit : ConfigOperationResult → Except (OperationsError × Bool) Unit,
      (∀ inputs : DriveInputs, probingScan.deadline ≤ inputs.instant →
        (Execution.commissioning (.scan probingScan)).drive commit probingAgent inputs =
          (.goesOn (.commissioning (.scan probingScan)), probingAgent)) ∧
      ¬ EndsInTime commit (.commissioning (.scan probingScan)) probingAgent := by
  refine ⟨probingAgent_reachable, fun commit => ⟨fun inputs past => ?_, fun ends => ?_⟩⟩
  · exact drive_commissioning_of_inFlight commit past rfl probingScan_inFlight
  obtain ⟨overdue, later, goesOn⟩ :=
    drives_of_not_free commit probingAgent_reachable.paced probingScan_not_free 4
  obtain ⟨ending, ended⟩ := ends.bounded _ overdue (by simp)
  rw [goesOn] at ended
  exact nomatch ended

end Service
end SensorSystem.Host
