import SensorSystem.Node.Measurement.IngressContract
import SensorSystem.Node.Measurement.JournalReads

/-! Both cores on one queue: calls of `SampleIngress` on core 0, rounds of `poll_ingress` in
`core1_measurement_runtime.h` and the journal's readers on core 1, in any order. A call of core 0
advances one queue access at a time. -/

namespace SensorSystem.Node

open Base List UInt32

structure PipelineSizes where
  queue : QueueCapacity
  pending : Nat
  journal : JournalCapacity

structure Core1MeasurementRuntime (capacity : JournalCapacity) where
  journal : MeasurementJournal capacity
  consumedSamples : Nat := 0
  consumedGaps : Nat := 0
  consumedContinuityBreaks : Nat := 0
  rejectedEvents : Nat := 0
  faulted : Bool := false

/-- One round of the loop in `poll_ingress`, which a fault ends for good. -/
def Core1MeasurementRuntime.pollOnce {capacity : JournalCapacity} {queueCapacity : QueueCapacity}
    (core1 : Core1MeasurementRuntime capacity) (queue : SpscQueue IngressEvent queueCapacity) :
    Core1MeasurementRuntime capacity × SpscQueue IngressEvent queueCapacity :=
  if core1.faulted then (core1, queue)
  else
    let (status, queue, journal) := consumeIngressOnce queue core1.journal
    let core1 := { core1 with journal }
    match status with
    | .empty => (core1, queue)
    | .journalRejected =>
      ({ core1 with
        rejectedEvents := saturatingIncrement core1.rejectedEvents
        faulted := true }, queue)
    | .sampleAppended =>
      ({ core1 with consumedSamples := saturatingIncrement core1.consumedSamples }, queue)
    | .gapAppended =>
      ({ core1 with consumedGaps := saturatingIncrement core1.consumedGaps }, queue)
    | .continuityBreakAppended =>
      ({ core1 with
        consumedContinuityBreaks := saturatingIncrement core1.consumedContinuityBreaks }, queue)

/-- What the delivery side does to the journal between two rounds. -/
inductive JournalAccess where
  | prepareRead (start sampleLimit : Nat)
  | markDelivered (endSequence : Nat)
  | cancelPrepared
  | releaseBefore (cursor : Nat)

def JournalAccess.operation : JournalAccess → JournalOperation
  | prepareRead start sampleLimit => .prepareRead start sampleLimit
  | markDelivered endSequence => .markDelivered endSequence
  | cancelPrepared => .cancelPrepared
  | releaseBefore cursor => .releaseBefore cursor

inductive IngressCall where
  | publishSample (sample : SampleRecord)
  | publishGap (count : Nat) (reason : GapReason)
  | publishContinuityBreak (reason : ContinuityBreakReason)
  | flushPending

namespace IngressCall

variable {pendingCapacity : Nat} (ingress : SampleIngress pendingCapacity)

def program : IngressCall → Offers IngressEvent (SampleIngress pendingCapacity)
  | publishSample sample => Prod.snd <$> ingress.publishSample sample
  | publishGap count reason => Prod.snd <$> ingress.publishGap count reason
  | publishContinuityBreak reason => Prod.snd <$> ingress.publishContinuityBreak reason
  | flushPending => Prod.snd <$> ingress.flushPending

/-- The samples a call gives cursors. -/
def claims : IngressCall → List (Nat × SampleRecord)
  | publishSample sample => ingress.samplesClaimed sample
  | _ => []

end IngressCall

inductive PipelineStep where
  | call (call : IngressCall)
  | offer
  | consume
  | access (access : JournalAccess)

/-- The state of both cores; no step reads `published`. -/
structure IngressPipeline (sizes : PipelineSizes) where
  queue : SpscQueue IngressEvent sizes.queue
  core0 : Offers IngressEvent (SampleIngress sizes.pending)
  core1 : Core1MeasurementRuntime sizes.journal
  published : List (Nat × SampleRecord) := []

namespace IngressPipeline

variable {sizes : PipelineSizes}

/-- Both cores after their start, with a boot epoch that is not zero. -/
def initial (sizes : PipelineSizes) : IngressPipeline sizes where
  queue := .initial
  core0 := .done {}
  core1 := { journal := .initial sizes.journal }

/-- A call starts when the last one has ended, and an offer needs a call. -/
def step (state : IngressPipeline sizes) : PipelineStep → IngressPipeline sizes
  | .call call => match state.core0 with
    | .done ingress => { state with
        core0 := call.program ingress
        published := state.published ++ call.claims ingress }
    | .offer _ _ => state
  | .offer => match state.core0 with
    | .done _ => state
    | .offer event next =>
      let (accepted, queue) := state.queue.tryPush event
      { state with queue, core0 := next accepted }
  | .consume =>
    let (core1, queue) := state.core1.pollOnce state.queue
    { state with core1, queue }
  | .access access =>
    { state with core1 := { state.core1 with
        journal := state.core1.journal.perform access.operation } }

def run (state : IngressPipeline sizes) (steps : List PipelineStep) : IngressPipeline sizes :=
  steps.foldl step state

theorem run_append (state : IngressPipeline sizes) (before after : List PipelineStep) :
    state.run (before ++ after) = (state.run before).run after :=
  foldl_append

/-- The step does not push over an event that nobody has read. -/
def Clear (state : IngressPipeline sizes) : PipelineStep → Prop
  | .offer => match state.core0 with
    | .offer _ _ => state.queue.used < sizes.queue.slots → state.queue.SlotFree
    | .done _ => True
  | _ => True

/-- No step of a run overwrites an unread event. -/
def RunClear (state : IngressPipeline sizes) : List PipelineStep → Prop
  | [] => True
  | step :: steps => state.Clear step ∧ (state.step step).RunClear steps

/-- Log, queued events and pending events follow each other up to the source cursor, and every
published sample is in them or in a gap. -/
structure Accounted (state : IngressPipeline sizes) : Prop where
  contiguous : ∃ log, Represents state.core1.journal log ∧
    (∃ reached, Tiles IngressEvent.first IngressEvent.stop log.length reached
      state.queue.contents) ∧
    ∀ ingress, state.core0 = .done ingress → ingress.faulted = false →
      Tiles IngressEvent.first IngressEvent.stop log.length ingress.sequencer.next
        (state.queue.contents ++ ingress.pending) ∧
      Covers state.published (log ++ pendingEntries (state.queue.contents ++ ingress.pending))
  taken : state.core1.faulted = false ∧
    (consumeIngressOnce state.queue state.core1.journal).1 ≠ .journalRejected

/-- Everything that entered the queue, for a given log of the journal. -/
def accepted (state : IngressPipeline sizes) (log : List Entry) : List Entry :=
  log ++ pendingEntries state.queue.contents

/-- The invariant of both cores. -/
structure Sound (state : IngressPipeline sizes) (log : List Entry) : Prop where
  represents : Represents state.core1.journal log
  queued : Pending [] log state.queue.contents (state.accepted log).length
  core0 : Publishes state.core0 (state.accepted log) fun ingress accepted =>
    Settled state.published ingress accepted
  core1 : state.core1.faulted = false

theorem sound_initial (sizes : PipelineSizes) : (initial sizes).Sound [] := by
  have empty : (initial sizes).queue.contents = [] := SpscQueue.contents_initial
  have nothing : (initial sizes).accepted [] = [] := by
    rw [accepted, empty]
    rfl
  refine ⟨.initial sizes.journal, ?_, ?_, rfl⟩
  · rw [nothing, empty]
    exact ⟨.nil 0, nofun, .nil _⟩
  · rw [nothing]
    exact ⟨Nat.zero_le _, fun _ => ⟨Nat.zero_le _, .nil 0, nofun, .nil _⟩⟩

/-- What a round of core 1 does with a queue in order. -/
theorem pollOnce_cases {capacity : JournalCapacity} {queueCapacity : QueueCapacity}
    {core1 : Core1MeasurementRuntime capacity} {queue : SpscQueue IngressEvent queueCapacity}
    {log : List Entry} {reached : Nat} (represents : Represents core1.journal log)
    (running : core1.faulted = false) (queued : Pending [] log queue.contents reached) :
    (consumeIngressOnce queue core1.journal).1 ≠ .journalRejected ∧
      ((queue.contents = [] ∧ core1.pollOnce queue = (core1, queue)) ∨
        ∃ event rest, queue.contents = event :: rest ∧
          (core1.pollOnce queue).2 = queue.popFront.2 ∧
          (core1.pollOnce queue).1.faulted = false ∧
          Represents (core1.pollOnce queue).1.journal (IngressEvent.extend log event)) := by
  cases contents : queue.contents with
  | nil =>
    have consumed : consumeIngressOnce queue core1.journal = (.empty, queue, core1.journal) := by
      rw [consumeIngressOnce, SpscQueue.tryFront_empty contents]
    refine ⟨by rw [consumed]; nofun, .inl ⟨rfl, ?_⟩⟩
    rw [Core1MeasurementRuntime.pollOnce, if_neg (by simp [running]), consumed]
  | cons event rest =>
    rw [contents] at queued
    obtain ⟨follows, -⟩ := queued.pop
    obtain ⟨front, popped, -⟩ := SpscQueue.popFront_cons contents
    obtain ⟨status, after, success⟩ := IngressEvent.appendTo_follows represents follows
    have consumed : consumeIngressOnce queue core1.journal =
        ((event.appendTo core1.journal).2, queue.popFront.2,
          (event.appendTo core1.journal).1.2) := by
      simp only [consumeIngressOnce, front, status, popped, ne_eq, not_true_eq_false, if_false,
        if_true]
    refine ⟨by rw [consumed]; exact success, .inr ⟨event, rest, rfl, ?_⟩⟩
    rw [Core1MeasurementRuntime.pollOnce, if_neg (by simp [running]), consumed]
    cases event with
    | sample sequence value => exact ⟨rfl, running, after⟩
    | gap value => exact ⟨rfl, running, after⟩
    | continuityBreak value => exact ⟨rfl, running, after⟩

/-- A push over an unread event leaves the queue out of order. -/
theorem not_accounted {state : IngressPipeline sizes} {step : PipelineStep}
    (collides : ¬ state.Clear step) : ¬ (state.step step).Accounted := by
  intro accounted
  cases step with
  | call => exact collides trivial
  | consume => exact collides trivial
  | access => exact collides trivial
  | offer =>
    rw [Clear] at collides
    cases running : state.core0 with
    | done ingress =>
      rw [running] at collides
      exact collides trivial
    | offer event next =>
      rw [running] at collides
      obtain ⟨room, occupied⟩ := Classical.not_imp.mp collides
      obtain ⟨offset, below, early, late⟩ := SpscQueue.contents_tryPush_occupied room occupied event
      obtain ⟨log, -, ⟨reached, tiles⟩, -⟩ := accounted.contiguous
      have contents : (state.step .offer).queue.contents =
          (state.queue.tryPush event).2.contents := by
        simp only [IngressPipeline.step, running]
      rw [contents] at tiles
      have apart := pairwise_iff_getElem.mp tiles.pairwise offset state.queue.used
        (List.getElem?_eq_some_iff.mp early).1 (List.getElem?_eq_some_iff.mp late).1 below
      rw [(List.getElem?_eq_some_iff.mp early).2, (List.getElem?_eq_some_iff.mp late).2] at apart
      have inside := tiles.inside (mem_of_getElem? early)
      omega

namespace Sound

variable {state : IngressPipeline sizes} {log : List Entry} (sound : state.Sound log)

include sound

theorem call (call : IngressCall) : (state.step (.call call)).Sound log := by
  have core0 := sound.core0
  simp only [step]
  cases running : state.core0 with
  | offer event next => exact sound
  | done ingress =>
    rw [running] at core0
    refine ⟨sound.represents, sound.queued, ?_, sound.core1⟩
    have settled : Settled state.published ingress (state.accepted log) := core0
    cases call with
    | publishSample sample =>
      exact Offers.keeps_bind ((publishSample_publishes settled sample).mono fun _ _ => id)
    | publishGap count reason =>
      simp only [IngressCall.claims, append_nil]
      exact Offers.keeps_bind ((publishGap_publishes settled count reason).mono fun _ _ => id)
    | publishContinuityBreak reason =>
      simp only [IngressCall.claims, append_nil]
      exact Offers.keeps_bind ((publishContinuityBreak_publishes settled reason).mono fun _ _ => id)
    | flushPending =>
      simp only [IngressCall.claims, append_nil]
      exact Offers.keeps_bind ((flushPending_publishes settled).mono fun _ _ => id)

theorem offer (clear : state.Clear .offer) : (state.step .offer).Sound log := by
  have core0 := sound.core0
  simp only [step]
  rw [Clear] at clear
  cases running : state.core0 with
  | done ingress => exact sound
  | offer event next =>
    rw [running] at core0 clear
    obtain ⟨follows, taken, refused⟩ := core0
    change Sound { state with
      queue := (state.queue.tryPush event).2
      core0 := next (state.queue.tryPush event).1 } log
    by_cases room : state.queue.used < sizes.queue.slots
    · obtain ⟨answer, contents⟩ := SpscQueue.contents_tryPush room (clear room) event
      have grown : log ++ pendingEntries (state.queue.tryPush event).2.contents =
          IngressEvent.extend (state.accepted log) event := by
        rw [contents, accepted, IngressEvent.extend]
        simp [pendingEntries]
      refine ⟨sound.represents, ?_, ?_, sound.core1⟩
      · change Pending [] log (state.queue.tryPush event).2.contents
          (log ++ pendingEntries (state.queue.tryPush event).2.contents).length
        rw [grown, IngressEvent.length_extend follows, contents]
        exact sound.queued.push follows.1 follows.2 (.nil _)
      change Publishes (next (state.queue.tryPush event).1)
        (log ++ pendingEntries (state.queue.tryPush event).2.contents) _
      rw [grown, answer]
      exact taken
    · rw [SpscQueue.tryPush_full (Nat.le_of_not_lt room)]
      exact ⟨sound.represents, sound.queued, refused, sound.core1⟩

theorem consume : ∃ log, (state.step .consume).Sound log := by
  simp only [step]
  rcases (pollOnce_cases sound.represents sound.core1 sound.queued).2 with
    ⟨-, idle⟩ | ⟨event, rest, contents, popped, running, represents⟩
  · rw [idle]
    exact ⟨log, sound⟩
  have queued := sound.queued
  rw [contents] at queued
  have dropped : (state.core1.pollOnce state.queue).2.contents = rest := by
    rw [popped]
    exact (SpscQueue.popFront_cons contents).2.2
  have moved : IngressEvent.extend log event ++ pendingEntries rest = state.accepted log := by
    rw [accepted, contents, IngressEvent.extend]
    simp [pendingEntries]
  refine ⟨IngressEvent.extend log event, represents, ?_, ?_, running⟩
  · simp only [accepted, dropped, moved]
    exact queued.pop.2
  · simp only [accepted, dropped, moved]
    exact sound.core0

theorem access (access : JournalAccess) : (state.step (.access access)).Sound log := by
  have represents := sound.represents.perform access.operation
  have kept : Log.step log access.operation = log := by
    cases access <;> rfl
  rw [kept] at represents
  exact ⟨represents, sound.queued, sound.core0, sound.core1⟩

theorem step {step : PipelineStep} (clear : state.Clear step) :
    ∃ log, (state.step step).Sound log := by
  cases step with
  | call call => exact ⟨log, sound.call call⟩
  | offer => exact ⟨log, sound.offer clear⟩
  | consume => exact sound.consume
  | access access => exact ⟨log, sound.access access⟩

theorem accounted : state.Accounted := by
  have queued := sound.queued
  refine ⟨⟨log, sound.represents, ⟨_, queued.tiles⟩, ?_⟩, sound.core1,
    (pollOnce_cases sound.represents sound.core1 queued).1⟩
  intro ingress idle running
  have core0 := sound.core0
  rw [idle] at core0
  obtain ⟨-, waiting⟩ := Settled.accounted core0 running
  refine ⟨queued.tiles.append waiting.tiles, ?_⟩
  have joined : log ++ pendingEntries (state.queue.contents ++ ingress.pending) =
      state.accepted log ++ pendingEntries ingress.pending := by
    simp [accepted, pendingEntries]
  rw [joined]
  exact waiting.covers

/-- A run stays in order while it pushes over nothing unread. -/
theorem runClear_iff (steps : List PipelineStep) :
    state.RunClear steps ↔ ∀ count, (state.run (steps.take count)).Accounted := by
  induction steps generalizing state log with
  | nil =>
    refine ⟨fun _ count => ?_, fun _ => trivial⟩
    rw [take_nil]
    exact sound.accounted
  | cons step steps ih =>
    constructor
    · rintro ⟨clear, rest⟩ count
      obtain ⟨after, stepped⟩ := sound.step clear
      cases count with
      | zero => exact sound.accounted
      | succ count => exact (ih stepped).mp rest count
    intro accounted
    have clear : state.Clear step := by
      by_contra collides
      exact not_accounted collides (accounted 1)
    obtain ⟨after, stepped⟩ := sound.step clear
    exact ⟨clear, (ih stepped).mpr fun count => accounted (count + 1)⟩

omit sound

end Sound

theorem runClear_of_dvd (divides : sizes.queue.slots ∣ 2 ^ 32) (state : IngressPipeline sizes)
    (steps : List PipelineStep) : state.RunClear steps := by
  induction steps generalizing state with
  | nil => trivial
  | cons step steps ih =>
    refine ⟨?_, ih _⟩
    cases step with
    | call => trivial
    | consume => trivial
    | access => trivial
    | offer =>
      rw [Clear]
      split
      · exact SpscQueue.slotFree_of_dvd divides
      · trivial

/-- The pipeline conserves every source cursor in every state of a run, exactly
when no step of the run pushes over an unread event. If the capacity of the queue
divides the range of its 32-bit cursors, that is every run. -/
theorem pipeline_conserves_cursors (sizes : PipelineSizes) (steps : List PipelineStep) :
    ((initial sizes).RunClear steps ↔
        ∀ count, ((initial sizes).run (steps.take count)).Accounted) ∧
      (sizes.queue.slots ∣ 2 ^ 32 →
        ∀ count, ((initial sizes).run (steps.take count)).Accounted) := by
  have exact_ := (sound_initial sizes).runClear_iff steps
  exact ⟨exact_, fun divides => exact_.mp (runClear_of_dvd divides _ _)⟩

section Wrap

variable {state : IngressPipeline sizes} {count : Nat} {sample : SampleRecord}

/-- An empty pipeline that has taken a number of samples. -/
structure Drained (state : IngressPipeline sizes) (count : Nat) : Prop where
  sound : ∃ log, state.Sound log
  idle : ∃ ingress, state.core0 = .done ingress ∧ ingress.faulted = false ∧
    ingress.pending = [] ∧ ingress.sequencer.next = count
  read_eq : state.queue.read = ofNat count
  write_eq : state.queue.write = ofNat count

/-- A valid sample with nothing pending is offered at once. -/
theorem program_publishSample {pendingCapacity : Nat} {ingress : SampleIngress pendingCapacity}
    (running : ingress.faulted = false) (empty : ingress.pending = [])
    (bounded : ingress.sequencer.next < uint64Max) (valid : validSampleRecord sample = true) :
    ∃ next after, (IngressCall.publishSample sample).program ingress =
        .offer (.sample ingress.sequencer.next sample) next ∧
      next true = .done after ∧ after.faulted = false ∧ after.pending = [] ∧
      after.sequencer.next = ingress.sequencer.next + 1 := by
  obtain ⟨sequencer, pending, counters, faulted⟩ := ingress
  obtain rfl : faulted = false := running
  obtain rfl : pending = [] := empty
  have room : ¬ sequencer.next + 1 > uint64Max := Nat.not_lt.mpr bounded
  have claim : sequencer.claimSample =
      (⟨.ok, sequencer.next, 1⟩, ⟨sequencer.next + 1⟩) := by
    rw [SourceSequencer.claimSample, SourceSequencer.claim, if_neg (by decide), if_neg room]
  let claimed : SampleIngress pendingCapacity := ⟨⟨sequencer.next + 1⟩, [], counters, false⟩
  let event : IngressEvent := .sample sequencer.next sample
  let after : SampleIngress pendingCapacity :=
    { claimed with counters := counters.queued event }
  refine ⟨fun answer => Prod.snd <$> (if answer then pure (.queued, after)
    else pure (SampleIngress.accountAsGap sequencer.next 1 .ingressOverflow
      { claimed with counters := counters.queueFull }) :
      Offers IngressEvent (PublishStatus × SampleIngress pendingCapacity)), after, ?_, rfl, rfl,
    rfl, rfl⟩
  simp only [IngressCall.program, SampleIngress.publishSample, claim, valid]
  rfl

/-- A pipeline in which a sample waits in the queue and nowhere else. -/
structure Holding (state : IngressPipeline sizes) (count : Nat) : Prop where
  sound : ∃ log, state.Sound log
  idle : ∃ ingress, state.core0 = .done ingress ∧ ingress.faulted = false ∧
    ingress.pending = [] ∧ ingress.sequencer.next = count + 1
  read_eq : state.queue.read = ofNat count
  write_eq : state.queue.write = ofNat (count + 1)

theorem Drained.publish (drained : Drained state count) (bounded : count < uint64Max)
    (valid : validSampleRecord sample = true) :
    Holding (state.run [.call (.publishSample sample), .offer]) count := by
  obtain ⟨log, sound⟩ := drained.sound
  obtain ⟨ingress, idle, running, empty, rfl⟩ := drained.idle
  obtain ⟨next, after, program, answered, kept, none, claimed⟩ :=
    program_publishSample running empty bounded valid
  have called := sound.call (.publishSample sample)
  have nothing : state.queue.used = 0 := by
    rw [SpscQueue.used_eq_zero_iff, drained.read_eq, drained.write_eq]
  have room : state.queue.used < sizes.queue.slots := nothing ▸ sizes.queue.positive
  have entered : state.step (.call (.publishSample sample)) = { state with
      core0 := .offer (.sample ingress.sequencer.next sample) next
      published := state.published ++ ingress.samplesClaimed sample } := by
    simp only [step, idle, program]
    rfl
  have clear : (state.step (.call (.publishSample sample))).Clear .offer := by
    rw [entered]
    exact fun _ => SpscQueue.slotFree_of_empty nothing
  obtain ⟨log, offered⟩ := called.step clear
  have pushed : state.run [.call (.publishSample sample), .offer] = { state with
      queue := (state.queue.tryPush (.sample ingress.sequencer.next sample)).2
      core0 := .done after
      published := state.published ++ ingress.samplesClaimed sample } := by
    change (state.step (.call (.publishSample sample))).step .offer = _
    rw [entered]
    simp only [step, SpscQueue.tryPush_room room, answered]
  refine ⟨⟨log, offered⟩, ⟨after, ?_, kept, none, claimed⟩, ?_, ?_⟩
  · rw [pushed]
  · rw [pushed, SpscQueue.tryPush_room room]
    exact drained.read_eq
  rw [pushed, SpscQueue.tryPush_room room]
  change state.queue.write + 1 = _
  rw [drained.write_eq, ofNat_add]
  rfl

theorem Holding.consume (holding : Holding state count) :
    Drained (state.step .consume) (count + 1) := by
  obtain ⟨log, sound⟩ := holding.sound
  have apart : state.queue.read ≠ state.queue.write := by
    intro same
    rw [holding.read_eq, holding.write_eq] at same
    have cursors := congrArg toNat same
    rw [toNat_ofNat', toNat_ofNat'] at cursors
    omega
  rcases (pollOnce_cases sound.represents sound.core1 sound.queued).2 with
    ⟨empty, -⟩ | ⟨event, rest, -, popped, -⟩
  · rw [← length_eq_zero_iff, SpscQueue.length_contents,
      SpscQueue.used_eq_zero_iff] at empty
    exact absurd empty apart
  rw [SpscQueue.popFront, if_neg apart] at popped
  refine ⟨sound.consume, holding.idle, ?_, ?_⟩
  · change (state.core1.pollOnce state.queue).2.read = _
    rw [popped]
    rw [holding.read_eq, ofNat_add]
    rfl
  · change (state.core1.pollOnce state.queue).2.write = _
    rw [popped]
    exact holding.write_eq

/-- One sample through the whole pipeline. -/
def round (sample : SampleRecord) : List PipelineStep :=
  [.call (.publishSample sample), .offer, .consume]

theorem drained_rounds (sizes : PipelineSizes) (valid : validSampleRecord sample = true)
    (bounded : count ≤ uint64Max) :
    Drained ((initial sizes).run (replicate count (round sample)).flatten) count := by
  induction count with
  | zero =>
    exact ⟨⟨[], sound_initial sizes⟩, ⟨{}, rfl, rfl, rfl, rfl⟩, rfl, rfl⟩
  | succ count ih =>
    have before := ih (Nat.le_of_succ_le bounded)
    rw [replicate_succ', flatten_append, flatten_singleton, run_append]
    exact (before.publish bounded valid).consume

end Wrap

def threeSlots : PipelineSizes where
  queue := ⟨3, by decide, by decide⟩
  pending := 3
  journal := fourSamples

def plainSample : SampleRecord :=
  { configRevision := 1, timingSegmentId := 1 }

/-- Samples one at a time up to the last write cursor, then two at once. -/
def wrappingRun : List PipelineStep :=
  (replicate (2 ^ 32 - 1) (round plainSample)).flatten ++
    [.call (.publishSample plainSample), .offer, .call (.publishSample plainSample), .offer]

theorem Drained.collides {state : IngressPipeline threeSlots} {sample : SampleRecord}
    (drained : Drained state (2 ^ 32 - 1)) (valid : validSampleRecord sample = true) :
    ¬ (state.run [.call (.publishSample sample), .offer, .call (.publishSample sample),
      .offer]).Accounted := by
  have holding := drained.publish (by decide) valid
  change ¬ (((state.run [.call (.publishSample sample), .offer]).step
    (.call (.publishSample sample))).step .offer).Accounted
  generalize state.run [.call (.publishSample sample), .offer] = held at holding
  obtain ⟨ingress, idle, running, empty, next⟩ := holding.idle
  have bounded : ingress.sequencer.next < uint64Max := by
    rw [next]
    decide
  obtain ⟨resume, -, program, -⟩ := program_publishSample running empty bounded valid
  have used : held.queue.used = 1 := by
    rw [SpscQueue.used, holding.read_eq, holding.write_eq]
    decide
  apply not_accounted
  intro clear
  simp only [Clear, step, idle, program] at clear
  have free := clear (by rw [used]; decide) 0 (by rw [used]; decide)
  rw [holding.read_eq, holding.write_eq] at free
  exact free (by decide)

/-- With three slots, the sample behind the wrap of the write cursor overwrites
the unread one before it. -/
theorem pipeline_overwrites_at_wrap : ¬ ((initial threeSlots).run wrappingRun).Accounted := by
  have valid : validSampleRecord plainSample = true := by decide
  have drained := drained_rounds threeSlots valid (show 2 ^ 32 - 1 ≤ uint64Max by decide)
  rw [wrappingRun, run_append]
  exact drained.collides valid

end IngressPipeline
end SensorSystem.Node
