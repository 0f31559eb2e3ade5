import SensorSystem.Host.Channel.AgentSteps

/-! A run makes calls of the endpoint and of the owners in any order. Its log holds what happened
to the active work and its wire attempts. An attempt that expires is reported to the work in the
same call, before the quarantine ends, and the work can then be sent again. A frame that arrives
after the deadline breaks this: the core enters the quarantine and nobody tells the work. -/

namespace SensorSystem.Host

open List Base
open ChannelAgent (AttemptEvent)
open ChannelAgent.AttemptEvent
open Framing (Frame)

structure AgentTrace where
  agent : ChannelAgent
  log : List AttemptEvent := []

namespace AgentTrace

def call (trace : AgentTrace) (call : AgentCall) : AgentTrace where
  agent := trace.agent.call call
  log := trace.log ++ trace.agent.observed call

def run (trace : AgentTrace) (calls : List AgentCall) : AgentTrace :=
  calls.foldl call trace

end AgentTrace

/-- Every call of a run is punctual when it is made. -/
def ChannelAgent.PunctualRun (agent : ChannelAgent) : List AgentCall → Prop
  | [] => True
  | call :: calls => agent.Punctual call ∧ (agent.call call).PunctualRun calls

/-- The last event of an attempt. -/
def lastAttempt (log : List AttemptEvent) : Option AttemptEvent :=
  (log.filter (· ≠ .activated)).getLast?

/-- The last event of the active work, which the end of a quarantine is not. -/
def lastOwned (log : List AttemptEvent) : Option AttemptEvent :=
  (log.filter (· ≠ .released)).getLast?

/-- An attempt is started, then accepted, failed or expired, and an expired one is reported once. -/
def Orderly (before : List AttemptEvent) : AttemptEvent → Prop
  | activated => lastAttempt before ≠ some started ∧ lastAttempt before ≠ some expired
  | started => lastAttempt before ≠ some started ∧ lastAttempt before ≠ some expired ∧
      lastAttempt before ≠ some timedOut
  | accepted | failed | expired => lastAttempt before = some started
  | timedOut => lastAttempt before = some expired
  | released => lastAttempt before = some timedOut

variable {log : List AttemptEvent}

theorem lastAttempt_concat (log : List AttemptEvent) (event : AttemptEvent)
    (attempt : event ≠ activated) : lastAttempt (log ++ [event]) = some event := by
  simp [lastAttempt, attempt]

theorem lastAttempt_activated :
    lastAttempt (log ++ [activated]) = lastAttempt log := by
  simp [lastAttempt]

theorem lastOwned_ne (log : List AttemptEvent) (event : AttemptEvent) (owned : event ≠ released)
    (other : event ≠ timedOut) : lastOwned (log ++ [event]) ≠ some timedOut := by
  simp [lastOwned, owned, other]

theorem lastOwned_released : lastOwned (log ++ [released]) = lastOwned log := by
  simp [lastOwned]

theorem lastOwned_of_started (last : lastAttempt log = some started) :
    lastOwned log ≠ some timedOut := by
  rcases eq_nil_or_concat log with rfl | ⟨front, event, rfl⟩
  · cases last
  rw [concat_eq_append] at last ⊢
  by_cases new : event = activated
  · subst new
    exact lastOwned_ne front activated nofun nofun
  rw [lastAttempt_concat front event new] at last
  cases last
  exact lastOwned_ne front started nofun nofun

/-- The last event of an attempt for each state of the core. -/
def TransactionState.Last : TransactionState → Option AttemptEvent → Prop
  | idle, last => last ≠ some started ∧ last ≠ some expired ∧ last ≠ some timedOut
  | transmitting _, last | awaiting _, last => last = some started
  | quarantine _ _, last => last = some timedOut

namespace ChannelAgent

variable {agent : ChannelAgent} {active : ActiveWork} {now : MonotonicMicros}

/-- Polls wait for the quarantine and the retry delay, and then send the work again. -/
structure Retries (agent : ChannelAgent) (active : ActiveWork) : Prop where
  calm : ¬ agent.Busy
  quarantine : ∀ expired until_ now, agent.transactions.state = .quarantine expired until_ →
    (agent.poll now).1 = .ok (if now < until_ then .idle else .quarantineEnded)
  idle : ∀ now, agent.transactions.state = .idle →
    (agent.poll now).1 = .ok (if now < active.retryNotBefore then .idle else .transmitReady)

theorem InStep.retries (inStep : agent.InStep) (calm : ¬ agent.Busy)
    (held : agent.active = some active)
    (canStart : active.work.CanStart agent.policy.transactionTimeout) : agent.Retries active := by
  have outbound := inStep.outbound_eq_none
    fun prepared transmitting => calm (.inl ⟨prepared, transmitting⟩)
  have free := inStep.completed_eq_none held
  refine ⟨calm, ?_, ?_⟩
  · intro expired until_ now waiting
    rw [poll_eq outbound free]
    by_cases early : now < until_
    · simp only [TransactionCore.onTimer, waiting, early, if_true]
      rw [nextAttempt_of_busy (by rw [waiting]; rintro ⟨⟩) held]
    · simp only [TransactionCore.onTimer, waiting, early, if_false]
  intro now idle
  rw [poll_eq outbound free]
  simp only [TransactionCore.onTimer, idle]
  rw [nextAttempt, held]
  by_cases early : now < active.retryNotBefore
  · rw [if_pos early]
    simp only [startAttempt, early, true_or, if_true]
  rw [if_neg early]
  exact (startAttempt_of_canStart idle (UInt64.not_lt.mp early) canStart).1

end ChannelAgent

namespace AgentTrace

structure Sound (trace : AgentTrace) : Prop where
  inStep : trace.agent.InStep
  orderly : Justified Orderly trace.log
  last : trace.agent.transactions.state.Last (lastAttempt trace.log)
  retry : lastOwned trace.log = some timedOut → ∀ active, trace.agent.active = some active →
    active.work.CanStart trace.agent.policy.transactionTimeout

/-- A calm core allows new work to become active. -/
theorem last_of_calm {agent : ChannelAgent} (calm : ¬ agent.Busy)
    (last : agent.transactions.state.Last (lastAttempt log)) :
    lastAttempt log ≠ some started ∧ lastAttempt log ≠ some expired := by
  cases state : agent.transactions.state with
  | idle =>
    rw [state] at last
    exact ⟨last.1, last.2.1⟩
  | transmitting prepared => exact absurd (.inl ⟨prepared, state⟩) calm
  | awaiting transaction => exact absurd (.inr ⟨transaction, state⟩) calm
  | quarantine expired until_ =>
    rw [state] at last
    rw [show lastAttempt log = some timedOut from last]
    exact ⟨nofun, nofun⟩

variable {events : List AttemptEvent}

/-- The log with the activation of the next work, if it needs one. -/
theorem Sound.activate {agent : ChannelAgent} {active : ActiveWork} {pending : List PendingWork}
    (sound : Sound ⟨agent, log⟩) (next : agent.Next active pending events) (calm : ¬ agent.Busy) :
    Justified Orderly (log ++ events) ∧ lastAttempt (log ++ events) = lastAttempt log ∧
      (lastOwned (log ++ events) = some timedOut →
        active.work.CanStart agent.policy.transactionTimeout) := by
  cases next with
  | retried active held =>
    rw [append_nil]
    exact ⟨sound.orderly, rfl, fun owned => sound.retry owned active held⟩
  | activated work pending now free queue =>
    refine ⟨sound.orderly.concat (last_of_calm calm sound.last), lastAttempt_activated, ?_⟩
    exact fun owned => absurd owned (lastOwned_ne log activated nofun nofun)

theorem Sound.step {agent after : ChannelAgent} {call : AgentCall} (sound : Sound ⟨agent, log⟩)
    (step : agent.Step call after events) : Sound ⟨after, log ++ events⟩ := by
  have inStep := sound.inStep.step step
  cases step with
  | kept pending fewer nextOperationId =>
    rw [append_nil]
    exact { sound with inStep }
  | submitted submission operationId work made built nextOperationId =>
    rw [append_nil]
    exact { sound with inStep }
  | taken =>
    rw [append_nil]
    exact { sound with inStep }
  | handedOver =>
    rw [append_nil]
    exact { sound with inStep }
  | abandoned idle =>
    rw [append_nil]
    refine { sound with inStep, retry := ?_ }
    rintro - active ⟨⟩
  | waited active pending events next calm free last same =>
    obtain ⟨orderly, unchanged, canStart⟩ := sound.activate next calm
    refine ⟨inStep, orderly, ?_, ?_⟩
    · exact unchanged ▸ sound.last
    rintro owned found ⟨⟩
    obtain rfl | cannot := same
    · exact canStart owned
    · exact absurd (canStart owned) cannot
  | started active pending events next free after starts =>
    obtain ⟨prepared, prepares⟩ := starts.core
    have idle : agent.transactions.state = .idle := prepares.idle
    obtain ⟨orderly, unchanged, -⟩ := sound.activate next (by simp [ChannelAgent.Busy, idle])
    have last : TransactionState.idle.Last (lastAttempt log) := idle ▸ sound.last
    rw [← append_assoc]
    refine ⟨inStep, orderly.concat ?_, ?_, ?_⟩
    · rw [Orderly, unchanged]
      exact last
    · rw [prepares.state]
      exact lastAttempt_concat _ started (by rintro ⟨⟩)
    · exact fun owned => absurd owned (lastOwned_ne _ started (by rintro ⟨⟩) (by rintro ⟨⟩))
  | transmitted prepared transaction now transmitting bounded outbound =>
    have last : lastAttempt log = some started := by
      have last := sound.last
      rwa [transmitting] at last
    rw [append_nil]
    exact ⟨inStep, sound.orderly, last, fun owned => absurd owned (lastOwned_of_started last)⟩
  | failed prepared active told after transmitting held marked canStart returns =>
    have last : lastAttempt log = some started := by
      have last := sound.last
      rwa [transmitting] at last
    refine ⟨inStep, sound.orderly.concat last, ?_, ?_⟩
    · rw [returns.same, lastAttempt_concat log failed (by rintro ⟨⟩)]
      exact ⟨by rintro ⟨⟩, by rintro ⟨⟩, by rintro ⟨⟩⟩
    · exact fun owned => absurd owned (lastOwned_ne log failed (by rintro ⟨⟩) (by rintro ⟨⟩))
  | accepted transaction now frame made awaiting inTime matched =>
    have last : lastAttempt log = some started := by
      have last := sound.last
      rwa [awaiting] at last
    refine ⟨inStep, sound.orderly.concat last, ?_, ?_⟩
    · rw [(ChannelAgent.acceptResponse_leaves _ now frame.payload).same,
        lastAttempt_concat log accepted (by rintro ⟨⟩)]
      exact ⟨by rintro ⟨⟩, by rintro ⟨⟩, by rintro ⟨⟩⟩
    · exact fun owned => absurd owned (lastOwned_ne log accepted (by rintro ⟨⟩) (by rintro ⟨⟩))
  | expired core now active told after expires held marked canStart returns once =>
    obtain ⟨transaction, until_, awaiting, -, -, rfl⟩ := expires.passed
    have last : lastAttempt log = some started := by
      have last := sound.last
      rwa [awaiting] at last
    have expiry : Justified Orderly (log ++ [.expired]) := sound.orderly.concat last
    have both : log ++ [.expired, .timedOut] = log ++ [.expired] ++ [.timedOut] := by simp
    rw [both]
    refine ⟨inStep, expiry.concat (lastAttempt_concat log .expired (by rintro ⟨⟩)), ?_, ?_⟩
    · rw [returns.same]
      exact lastAttempt_concat _ timedOut (by rintro ⟨⟩)
    intro _ found holds
    have repeated : told.isProbe = false := by
      rw [← Bool.not_eq_true]
      intro probe
      rw [once probe] at holds
      cases holds
    rw [returns.same]
    cases returns.placed with
    | active last held same unchanged =>
      cases held.symm.trans holds
      exact same ▸ canStart repeated
    | ended free | handedOff transfer free =>
      cases free.symm.trans holds
  | released expired until_ waiting =>
    have last : lastAttempt log = some timedOut := by
      have last := sound.last
      rwa [waiting] at last
    refine ⟨inStep, sound.orderly.concat last, ?_, ?_⟩
    · rw [lastAttempt_concat log released (by rintro ⟨⟩)]
      exact ⟨by rintro ⟨⟩, by rintro ⟨⟩, by rintro ⟨⟩⟩
    · rw [lastOwned_released]
      exact sound.retry

variable {trace : AgentTrace}

theorem Sound.run (sound : trace.Sound) {calls : List AgentCall}
    (punctual : trace.agent.PunctualRun calls) : (trace.run calls).Sound := by
  induction calls generalizing trace with
  | nil => exact sound
  | cons call calls ih =>
    have step := ChannelAgent.call_step sound.inStep call punctual.1
    exact @ih (trace.call call) (sound.step step) punctual.2

theorem Sound.initial {transactionSeed operationSeed : UInt32}
    {quarantineDuration : DurationMicros} {policy : ChannelPolicy} {agent : ChannelAgent}
    (built : ChannelAgent.new transactionSeed operationSeed quarantineDuration policy =
      .ok agent) : Sound ⟨agent, []⟩ := by
  have inStep := ChannelAgent.InStep.new built
  obtain ⟨checked, -, built⟩ := bind_eq_ok.mp built
  cases built
  exact ⟨inStep, .nil, ⟨nofun, nofun, nofun⟩, nofun⟩

/-- A poll after the deadline settles the attempt. -/
theorem Sound.settles (sound : trace.Sound) {transaction : ActiveTransaction}
    {now : MonotonicMicros} (awaiting : trace.agent.transactions.state = .awaiting transaction)
    (passed : transaction.deadline < now) : trace.agent.observed (.poll now) = [expired, timedOut] ∧
      trace.agent.Tells (trace.agent.call (.poll now)) := by
  obtain ⟨core, active, told, -, held, marked, -, returns, -, events⟩ :=
    ChannelAgent.poll_of_passed sound.inStep awaiting passed
  exact ⟨events, active, told, held, marked, returns.placed⟩

theorem Sound.not_expired (sound : trace.Sound) : lastAttempt trace.log ≠ some expired := by
  have last := sound.last
  cases state : trace.agent.transactions.state with
  | idle =>
    rw [state] at last
    exact last.2.1
  | transmitting | awaiting | quarantine =>
    rw [state] at last
    rw [show lastAttempt trace.log = _ from last]
    nofun

theorem Sound.calm (sound : trace.Sound) (owned : lastOwned trace.log = some timedOut) :
    ¬ trace.agent.Busy := by
  have last := sound.last
  rintro (⟨prepared, state⟩ | ⟨transaction, state⟩) <;> rw [state] at last <;>
    exact lastOwned_of_started last owned

/-- In a run without late frames an expired attempt is settled once, by the poll that
finds it, and the work is sent again when quarantine and retry delay are over. -/
theorem timeouts_settled {transactionSeed operationSeed : UInt32}
    {quarantineDuration : DurationMicros} {policy : ChannelPolicy} {agent : ChannelAgent}
    (built : ChannelAgent.new transactionSeed operationSeed quarantineDuration policy = .ok agent)
    (calls : List AgentCall) (punctual : agent.PunctualRun calls) :
    let trace := AgentTrace.run ⟨agent, []⟩ calls
    Justified Orderly trace.log ∧ lastAttempt trace.log ≠ some expired ∧
      (∀ transaction now, trace.agent.transactions.state = .awaiting transaction →
        transaction.deadline < now →
          (trace.call (.poll now)).log = trace.log ++ [expired, timedOut] ∧
            trace.agent.Tells (trace.agent.call (.poll now))) ∧
      (lastOwned trace.log = some timedOut → ∀ active, trace.agent.active = some active →
        trace.agent.Retries active) := by
  intro trace
  have sound : trace.Sound := (Sound.initial built).run punctual
  refine ⟨sound.orderly, sound.not_expired, ?_, ?_⟩
  · intro transaction now awaiting passed
    obtain ⟨events, tells⟩ := sound.settles awaiting passed
    exact ⟨congrArg (trace.log ++ ·) events, tells⟩
  · intro owned active held
    exact sound.inStep.retries (sound.calm owned) held (sound.retry owned active held)

/-- A channel with a timeout of ten microseconds and a quarantine of five. -/
def quickAgent : ChannelAgent where
  transactions := .new 1 ⟨5, by decide⟩
  policy := ⟨⟨10, by decide⟩, .micro, 1, 4⟩
  nextOperationId := 1

/-- A lifecycle command to the node with address 1 is sent at time 0. -/
def sendCommand : List AgentCall :=
  [.submit (.lifecycle 1 .start .production), .poll 0, .takeOutbound, .transmitCompleted 0]

theorem timeouts_settled_quickAgent :
    ChannelAgent.new 1 1 ⟨5, by decide⟩ quickAgent.policy = .ok quickAgent ∧
      quickAgent.PunctualRun (sendCommand ++ [.poll 11, .poll 20]) ∧
      Justified Orderly
        (AgentTrace.run ⟨quickAgent, []⟩ (sendCommand ++ [.poll 11, .poll 20])).log := by
  have built : ChannelAgent.new 1 1 ⟨5, by decide⟩ quickAgent.policy = .ok quickAgent := rfl
  have punctual : quickAgent.PunctualRun (sendCommand ++ [.poll 11, .poll 20]) := by
    refine ⟨trivial, trivial, trivial, ?_, trivial, trivial, trivial⟩
    intro prepared transmitting
    cases transmitting
    decide
  exact ⟨built, punctual, (timeouts_settled built _ punctual).1⟩

/-- A response to the command, without a payload. -/
def emptyResponse : Frame where
  role := .response
  destination := Framing.hostAddress
  source := 1
  service := lifecycleServiceId
  message := RuntimeOperation.start.messageId
  transactionId := 1
  payload := []
  payloadBounded := Nat.zero_le _

/-- The late response starts the quarantine. The command is never told, and every
poll after the quarantine is idle. -/
theorem timeout_lost :
    let trace := AgentTrace.run ⟨quickAgent, []⟩
      (sendCommand ++ [.receive 11 emptyResponse, .poll 20])
    trace.log = [activated, started, expired, released] ∧ trace.agent.active.isSome ∧
      ∀ now, trace.agent.poll now = (.ok .idle, trace.agent) := by
  refine ⟨by decide, by decide, fun now => ?_⟩
  exact ChannelAgent.poll_of_waits (by decide) (by decide) (by decide) (by decide)

end AgentTrace
end SensorSystem.Host
