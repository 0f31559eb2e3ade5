import SensorSystem.Node.Runtime.SpscQueue

/-! `operation_mailbox.h`: core 1 sends commands and receives results, core 0 executes the
commands. A poll of core 0 takes a command and sends its result afterwards; in between core 1 goes
on. -/

namespace SensorSystem.Node

open List

namespace SpscQueue

variable {α : Type} {capacity : QueueCapacity}

theorem tryPush_cases (divides : capacity.slots ∣ 2 ^ 32) (queue : SpscQueue α capacity)
    (value : α) :
    (∃ grown, queue.tryPush value = (true, grown) ∧
        grown.contents = queue.contents ++ [value]) ∨
      (queue.tryPush value = (false, queue) ∧ queue.contents ≠ []) := by
  by_cases room : queue.used < capacity.slots
  · obtain ⟨pushed, contents⟩ := contents_tryPush room (slotFree_of_dvd divides room) value
    exact .inl ⟨_, Prod.ext pushed rfl, contents⟩
  have full := Nat.le_of_not_lt room
  refine .inr ⟨tryPush_full full value, fun empty => ?_⟩
  rw [← queue.length_contents, empty] at full
  exact Nat.not_lt.mpr full capacity.positive

theorem tryFront_cases (queue : SpscQueue α capacity) :
    (queue.tryFront = none ∧ queue.contents = []) ∨ ∃ value, queue.tryFront = some value ∧
      queue.contents = value :: queue.popFront.2.contents := by
  cases content : queue.contents with
  | nil => exact .inl ⟨tryFront_empty content, rfl⟩
  | cons value rest =>
    obtain ⟨front, -, left⟩ := popFront_cons content
    exact .inr ⟨value, front, by rw [left]⟩

end SpscQueue

/-- A command or a result. -/
structure Operation (β : Type) where
  operationId : UInt32 := 0
  body : β
deriving Inhabited

inductive OperationExecutorStatus where
  | idle
  | pendingResultPublished
  | pendingResultBlocked
  | commandExecutedAndPublished
  | commandExecutedResultPending

/-- The queues and the executor, with the commands accepted and executed and the results received.
-/
structure OperationMailbox (κ ρ : Type) (commandCapacity resultCapacity : QueueCapacity) where
  commands : SpscQueue (Operation κ) commandCapacity
  results : SpscQueue (Operation ρ) resultCapacity
  pendingResult : Option (Operation ρ) := none
  executedCount : UInt32 := 0
  resultBackpressureCount : UInt32 := 0
  accepted : List (Operation κ) := []
  executed : List (Operation κ × Operation ρ) := []
  received : List (Operation ρ) := []

inductive CoreOneStep (κ : Type) where
  | trySendCommand (command : Operation κ)
  | tryReceiveResult

/-- A poll has a handler, and what core 1 does before the result is sent. -/
inductive MailboxStep (κ ρ : Type) where
  | coreOne (step : CoreOneStep κ)
  | poll (handler : Operation κ → Operation ρ) (meanwhile : List (CoreOneStep κ))

namespace OperationMailbox

variable {κ ρ : Type} {m n : QueueCapacity}

def initial [Inhabited κ] [Inhabited ρ] : OperationMailbox κ ρ m n where
  commands := .initial
  results := .initial

section Steps

variable (mailbox : OperationMailbox κ ρ m n) (handler : Operation κ → Operation ρ)

def coreOne : CoreOneStep κ → OperationMailbox κ ρ m n
  | .trySendCommand command =>
    let (sent, commands) := mailbox.commands.tryPush command
    if sent then { mailbox with commands, accepted := mailbox.accepted ++ [command] } else mailbox
  | .tryReceiveResult =>
    match mailbox.results.tryFront with
    | none => mailbox
    | some result =>
      { mailbox with
        results := mailbox.results.popFront.2, received := mailbox.received ++ [result] }

def saturatingIncrement (value : UInt32) : UInt32 :=
  if value ≠ 0xFFFFFFFF then value + 1 else value

/-- `try_send_result`; without room the result stays pending. -/
def sendResult (result : Operation ρ) : Bool × OperationMailbox κ ρ m n :=
  let (sent, results) := mailbox.results.tryPush result
  (sent, { mailbox with
    results
    pendingResult := if sent then none else some result
    resultBackpressureCount :=
      if sent then mailbox.resultBackpressureCount
      else saturatingIncrement mailbox.resultBackpressureCount })

/-- The result gets the id of its command, whatever the handler wrote there. -/
def answer (executed : Operation κ × Operation ρ) : Operation ρ :=
  { executed.2 with operationId := executed.1.operationId }

/-- The front command is taken and executed. -/
def take (executed : Operation κ × Operation ρ) : OperationMailbox κ ρ m n :=
  { mailbox with
    commands := mailbox.commands.popFront.2
    executedCount := saturatingIncrement mailbox.executedCount
    executed := mailbox.executed ++ [executed] }

def poll (meanwhile : List (CoreOneStep κ)) :
    OperationExecutorStatus × OperationMailbox κ ρ m n :=
  match mailbox.pendingResult with
  | some result =>
    let (sent, mailbox) := mailbox.sendResult result
    (if sent then .pendingResultPublished else .pendingResultBlocked, mailbox)
  | none =>
    match mailbox.commands.tryFront with
    | none => (.idle, mailbox)
    | some command =>
      let executed := (command, handler command)
      let (sent, mailbox) :=
        (meanwhile.foldl coreOne (mailbox.take executed)).sendResult (answer executed)
      (if sent then .commandExecutedAndPublished else .commandExecutedResultPending, mailbox)

def step : MailboxStep κ ρ → OperationMailbox κ ρ m n
  | .coreOne step => mailbox.coreOne step
  | .poll handler meanwhile => (mailbox.poll handler meanwhile).2

/-- Core 0 polls, and core 1 takes a result. -/
def round : OperationMailbox κ ρ m n :=
  (mailbox.step (.poll handler [])).coreOne .tryReceiveResult

/-- A command is queued or executed, a result received, queued or held. -/
structure Answers (held : List (Operation ρ)) : Prop where
  accepted_eq : mailbox.accepted = mailbox.executed.map Prod.fst ++ mailbox.commands.contents
  results_eq : mailbox.executed.map answer =
    mailbox.received ++ (mailbox.results.contents ++ held)

def Correlated : Prop := mailbox.Answers mailbox.pendingResult.toList

/-- The results received are those of the first commands, and the others follow. -/
structure AnswersOnce : Prop where
  received : mailbox.received <+: mailbox.executed.map answer
  executed : mailbox.executed.map Prod.fst <+: mailbox.accepted
  drains : ∀ handler, let drained := (round · handler)^[mailbox.accepted.length] mailbox
    drained.accepted = mailbox.accepted ∧ drained.executed.map Prod.fst = mailbox.accepted ∧
      drained.received = drained.executed.map answer

end Steps

variable {mailbox : OperationMailbox κ ρ m n} {held : List (Operation ρ)}
  (commandsFit : m.slots ∣ 2 ^ 32) (resultsFit : n.slots ∣ 2 ^ 32)

include commandsFit in
theorem Answers.coreOne (answers : mailbox.Answers held) (step : CoreOneStep κ) :
    (mailbox.coreOne step).Answers held ∧
      (mailbox.coreOne step).pendingResult = mailbox.pendingResult := by
  cases step with
  | trySendCommand command =>
    rw [OperationMailbox.coreOne]
    rcases mailbox.commands.tryPush_cases commandsFit command with
      ⟨grown, sent, contents⟩ | ⟨full, -⟩
    · rw [sent]
      refine ⟨⟨?_, answers.results_eq⟩, rfl⟩
      simp only [if_true, contents, answers.accepted_eq, append_assoc]
    · rw [full]
      exact ⟨answers, rfl⟩
  | tryReceiveResult =>
    rw [OperationMailbox.coreOne]
    rcases mailbox.results.tryFront_cases with ⟨empty, -⟩ | ⟨result, front, contents⟩
    · rw [empty]
      exact ⟨answers, rfl⟩
    · rw [front]
      refine ⟨⟨answers.accepted_eq, ?_⟩, rfl⟩
      simp [answers.results_eq, contents]

theorem Answers.settled (answers : mailbox.Answers held)
    (all : mailbox.accepted.length ≤ mailbox.received.length) :
    mailbox.executed.map Prod.fst = mailbox.accepted ∧
      mailbox.received = mailbox.executed.map answer := by
  obtain ⟨accepted, results⟩ := answers
  have commands := congrArg length accepted
  have answered := congrArg length results
  simp only [length_append, length_map] at commands answered
  have empty : mailbox.commands.contents = [] := eq_nil_of_length_eq_zero (by omega)
  have rest : mailbox.results.contents ++ held = [] :=
    eq_nil_of_length_eq_zero (by rw [length_append]; omega)
  rw [accepted, results, empty, rest, append_nil, append_nil]
  exact ⟨rfl, rfl⟩

include resultsFit

/-- A result that was held is in the queue or pending. -/
theorem Answers.sendResult {result : Operation ρ} (answers : mailbox.Answers [result]) :
    (mailbox.sendResult result).2.Correlated ∧
      (mailbox.sendResult result).2.results.contents ≠ [] := by
  rw [OperationMailbox.sendResult]
  rcases mailbox.results.tryPush_cases resultsFit result with
    ⟨grown, sent, contents⟩ | ⟨full, filled⟩
  · rw [sent]
    refine ⟨⟨answers.accepted_eq, ?_⟩, ?_⟩
    · simp [answers.results_eq, contents]
    · simp [contents]
  · rw [full]
    exact ⟨⟨answers.accepted_eq, answers.results_eq⟩, filled⟩

variable (handler : Operation κ → Operation ρ)

include commandsFit

/-- A poll that leaves no result to receive had nothing to do. -/
theorem Correlated.poll (correlated : mailbox.Correlated) (meanwhile : List (CoreOneStep κ)) :
    (mailbox.poll handler meanwhile).2.Correlated ∧
      ((mailbox.poll handler meanwhile).2.results.contents = [] →
        mailbox.accepted.length = mailbox.received.length) := by
  have answers : mailbox.Answers mailbox.pendingResult.toList := correlated
  rw [OperationMailbox.poll]
  cases pending : mailbox.pendingResult with
  | some result =>
    rw [pending] at answers
    obtain ⟨after, filled⟩ := answers.sendResult resultsFit
    exact ⟨after, fun empty => absurd empty filled⟩
  | none =>
    rw [pending] at answers
    rcases mailbox.commands.tryFront_cases with ⟨front, empty⟩ | ⟨command, front, contents⟩
    · rw [front]
      refine ⟨correlated, fun none => ?_⟩
      have executed := congrArg length answers.results_eq
      simpa [answers.accepted_eq, empty, none] using executed
    rw [front]
    have taken : (mailbox.take (command, handler command)).Answers
        [answer (command, handler command)] := by
      constructor
      · simp [take, answers.accepted_eq, contents]
      · simp [take, answers.results_eq]
    obtain ⟨after, filled⟩ := (foldlRecOn (motive := (Answers · _)) meanwhile _
      taken fun _ answers step _ => (answers.coreOne commandsFit step).1).sendResult resultsFit
    exact ⟨after, fun empty => absurd empty filled⟩

theorem Correlated.step (correlated : mailbox.Correlated) (step : MailboxStep κ ρ) :
    (mailbox.step step).Correlated := by
  cases step with
  | coreOne step =>
    obtain ⟨answers, same⟩ := Answers.coreOne commandsFit correlated step
    rwa [← same] at answers
  | poll handler meanwhile => exact (correlated.poll commandsFit resultsFit handler meanwhile).1

omit commandsFit resultsFit in
theorem poll_logs : (mailbox.poll handler []).2.accepted = mailbox.accepted ∧
    (mailbox.poll handler []).2.received = mailbox.received := by
  rw [OperationMailbox.poll]
  split
  · exact ⟨rfl, rfl⟩
  · split <;> exact ⟨rfl, rfl⟩

theorem Correlated.round (correlated : mailbox.Correlated) :
    (mailbox.round handler).Correlated ∧ (mailbox.round handler).accepted = mailbox.accepted ∧
      (mailbox.accepted.length ≤ (mailbox.round handler).received.length ∨
        (mailbox.round handler).received.length = mailbox.received.length + 1) := by
  obtain ⟨polled, idle⟩ := correlated.poll commandsFit resultsFit handler []
  obtain ⟨accepted, received⟩ := mailbox.poll_logs handler
  refine ⟨polled.step commandsFit resultsFit (.coreOne .tryReceiveResult), ?_⟩
  rw [OperationMailbox.round, OperationMailbox.step, OperationMailbox.coreOne]
  rcases SpscQueue.tryFront_cases (mailbox.poll handler []).2.results with
    ⟨front, empty⟩ | ⟨result, front, -⟩ <;> rw [front]
  · exact ⟨accepted, .inl (by rw [received, idle empty])⟩
  · exact ⟨accepted, .inr (by simp [received])⟩

theorem Correlated.drain (correlated : mailbox.Correlated) {rounds : Nat}
    (enough : mailbox.accepted.length ≤ mailbox.received.length + rounds) :
    let drained := (OperationMailbox.round · handler)^[rounds] mailbox
    drained.Correlated ∧ drained.accepted = mailbox.accepted ∧
      drained.accepted.length ≤ drained.received.length := by
  induction rounds generalizing mailbox with
  | zero => exact ⟨correlated, rfl, enough⟩
  | succ rounds ih =>
    obtain ⟨next, accepted, moves⟩ := correlated.round commandsFit resultsFit handler
    have drained := ih next (by rw [accepted]; omega)
    rwa [accepted] at drained

theorem correlated_run [Inhabited κ] [Inhabited ρ] (steps : List (MailboxStep κ ρ)) :
    (steps.foldl step (initial : OperationMailbox κ ρ m n)).Correlated := by
  refine foldlRecOn steps _ ?_ fun _ correlated step _ =>
    correlated.step commandsFit resultsFit step
  constructor
  · exact SpscQueue.contents_initial.symm
  · simp [initial, SpscQueue.contents_initial]

theorem Correlated.answersOnce (correlated : mailbox.Correlated) : mailbox.AnswersOnce := by
  refine ⟨⟨_, correlated.results_eq.symm⟩, ⟨_, correlated.accepted_eq.symm⟩, fun handler => ?_⟩
  obtain ⟨drained, same, all⟩ := correlated.drain commandsFit resultsFit handler
    (Nat.le_add_left _ _)
  obtain ⟨executed, received⟩ := drained.settled all
  exact ⟨same, executed.trans same, received⟩

end OperationMailbox

/-- Whatever the cores do and whenever they do it, no command is lost or executed twice, and no
result. -/
theorem mailbox_answers_once {κ ρ : Type} [Inhabited κ] [Inhabited ρ] {m n : QueueCapacity}
    (commandsFit : m.slots ∣ 2 ^ 32) (resultsFit : n.slots ∣ 2 ^ 32)
    (steps : List (MailboxStep κ ρ)) :
    (steps.foldl OperationMailbox.step (.initial : OperationMailbox κ ρ m n)).AnswersOnce :=
  (OperationMailbox.correlated_run commandsFit resultsFit steps).answersOnce commandsFit resultsFit

theorem mailbox_answers_once_four :
    ([.coreOne (.trySendCommand ⟨7, ()⟩), .poll (fun _ => ⟨0, ()⟩) []].foldl OperationMailbox.step
      (.initial : OperationMailbox Unit Unit ⟨4, by decide, by decide⟩
        ⟨4, by decide, by decide⟩)).AnswersOnce :=
  mailbox_answers_once (by decide) (by decide) _

end SensorSystem.Node
