import SensorSystem.Node.Acquisition.SinkCalls
import SensorSystem.Node.Runtime.SensorRuntime

/-! A sample or a break that the sink passes on takes one cursor, unless the ingress is closed:
then nothing that the engine hands over changes the stream. A flush takes no cursor, and without
pending events it does nothing. -/

namespace SensorSystem.Node

open List SourceSequencer
open Base
open Acquisition

theorem SourceSequencer.claim_one (sequencer : SourceSequencer) : (sequencer.claim 1).2 =
      if uint64Max ≤ sequencer.next then sequencer else ⟨sequencer.next + 1⟩ := by
  rw [claim, if_neg Nat.one_ne_zero]
  by_cases full : uint64Max ≤ sequencer.next
  · rw [if_pos (Nat.lt_succ_of_le full), if_pos full]
  · rw [if_neg (Nat.not_lt.mpr (Nat.lt_of_not_le full)), if_neg full]

namespace SampleIngress

variable {pendingCapacity : Nat} (ingress : SampleIngress pendingCapacity)

include ingress

theorem bufferEvent_sequencer (event : IngressEvent) :
    (ingress.bufferEvent event).2.sequencer = ingress.sequencer := by
  rw [bufferEvent]
  split <;> rfl

theorem accountMissing_sequencer (first count : Nat) (reason : GapReason) :
    (ingress.accountMissing first count reason).2.sequencer = ingress.sequencer := by
  have buffered := bufferEvent_sequencer ingress (.gap ⟨first, count, reason⟩)
  rw [accountMissing]
  split
  · split <;> rfl
  generalize ingress.bufferEvent (.gap ⟨first, count, reason⟩) = result at buffered
  obtain ⟨done, after⟩ := result
  cases done <;> exact buffered

theorem accountAsGap_sequencer (first count : Nat) (reason : GapReason) :
    (accountAsGap first count reason ingress).2.sequencer = ingress.sequencer :=
  accountMissing_sequencer ingress first count reason

theorem bufferBreak_sequencer (event : IngressEvent) :
    (bufferBreak event ingress).2.sequencer = ingress.sequencer :=
  bufferEvent_sequencer ingress event

omit ingress

section Programs

variable {ingress : SampleIngress pendingCapacity} {sequencer : SourceSequencer}
  (starts : ingress.sequencer = sequencer)
include starts

theorem flushLoop_always (events : List IngressEvent) :
    (ingress.flushLoop events).Always fun result => result.2.sequencer = sequencer := by
  induction events generalizing ingress with
  | nil => exact starts
  | cons event rest ih =>
    refine Offers.always_bind (Offers.always_try fun answer => ?_)
    cases answer with
    | true =>
      change (flushLoop { ingress with
        pending := rest
        counters := ingress.counters.flushed event } rest).Always _
      exact ih starts
    | false => exact starts

theorem flushPending_always :
    ingress.flushPending.Always fun result => result.2.sequencer = sequencer := by
  rw [flushPending]
  split
  · exact starts
  · exact flushLoop_always starts _

theorem flushFirst_always :
    ingress.flushFirst.Always fun result => result.2.sequencer = sequencer := by
  rw [flushFirst]
  split
  · exact flushPending_always starts
  · exact starts

theorem send_always (event : IngressEvent)
    {otherwise : SampleIngress pendingCapacity → PublishStatus × SampleIngress pendingCapacity}
    (keeps : ∀ after, (otherwise after).2.sequencer = after.sequencer) :
    (ingress.send event otherwise).Always fun result => result.2.sequencer = sequencer := by
  refine Offers.always_bind ((flushFirst_always starts).mono ?_)
  rintro ⟨ready, after⟩ same
  cases ready with
  | false => exact (keeps after).trans same
  | true =>
    refine Offers.always_bind (Offers.always_try fun answer => ?_)
    cases answer with
    | true => exact same
    | false => exact (keeps _).trans same

end Programs

theorem publishSample_always (ingress : SampleIngress pendingCapacity) (sample : SampleRecord) :
    (ingress.publishSample sample).Always fun result => result.2.sequencer =
      if ingress.faulted then ingress.sequencer else (ingress.sequencer.claim 1).2 := by
  rw [publishSample, claimSample]
  split
  · rfl
  dsimp only
  split
  · rfl
  split
  · exact accountAsGap_sequencer _ _ _ _
  refine send_always ?_ _ fun after => ?_
  · rfl
  exact accountAsGap_sequencer after _ _ _

theorem publishContinuityBreak_always (ingress : SampleIngress pendingCapacity)
    {reason : ContinuityBreakReason} (known : reason.isKnown = true) :
    (ingress.publishContinuityBreak reason).Always fun result => result.2.sequencer =
      if ingress.faulted then ingress.sequencer else (ingress.sequencer.claim 1).2 := by
  rw [publishContinuityBreak, claimContinuityBreak]
  split
  · rfl
  simp only [known, Bool.not_true, Bool.false_eq_true, if_false]
  split
  · rfl
  split
  · rfl
  refine send_always ?_ _ fun after => ?_
  · rfl
  exact bufferBreak_sequencer after _

end SampleIngress

namespace MeasurementIngressSink

variable {pendingCapacity : Nat}

/-- The next cursor of the stream. -/
def cursor (sink : MeasurementIngressSink pendingCapacity) : Nat :=
  sink.ingress.sequencer.next

/-- No event takes a cursor any more. -/
def Closed (sink : MeasurementIngressSink pendingCapacity) : Prop :=
  sink.faulted = true ∨ sink.ingress.faulted = true ∨ uint64Max ≤ sink.cursor

section Receive

variable (capacity : Nat) {sink : MeasurementIngressSink pendingCapacity} {port : IngressPort}

/-- The cursor behind the next event. -/
def nextCursor (sink : MeasurementIngressSink pendingCapacity) : Nat :=
  if sink.ingress.faulted then sink.cursor else (sink.ingress.sequencer.claim 1).2.next

theorem cursor_le_nextCursor (sink : MeasurementIngressSink pendingCapacity) :
    sink.cursor ≤ sink.nextCursor := by
  rw [nextCursor, claim_one]
  split
  · exact Nat.le_refl _
  split
  · exact Nat.le_refl _
  · exact Nat.le_succ _

theorem cursor_lt_nextCursor (takes : ¬ sink.Closed) : sink.cursor < sink.nextCursor := by
  obtain ⟨-, running, room⟩ := by simpa only [Closed, not_or] using takes
  rw [cursor] at room
  rw [nextCursor, if_neg running, claim_one, if_neg room]
  exact Nat.lt_succ_self _

/-- The first sample of a batch takes the next cursor. -/
theorem publish_cons_cursor {rest : List (StoredSample × SampleDeviceTime)}
    (grows : ∀ (sink : MeasurementIngressSink pendingCapacity) (port : IngressPort),
      sink.cursor ≤ (sink.publish capacity port rest).1.cursor)
    (head : StoredSample × SampleDeviceTime) :
    sink.nextCursor ≤ (sink.publish capacity port (head :: rest)).1.cursor := by
  obtain ⟨stored, time⟩ := head
  rw [publish]
  have claimed := Offers.Always.run (IngressPort.tryPush capacity)
    (SampleIngress.publishSample_always sink.ingress (sink.record stored time)) port
  generalize (sink.ingress.publishSample (sink.record stored time)).run
    (IngressPort.tryPush capacity) port = result at claimed ⊢
  obtain ⟨⟨status, ingress⟩, port⟩ := result
  have claimed : sink.nextCursor = ingress.sequencer.next := by
    rw [nextCursor, cursor, claimed]
    split <;> rfl
  rw [claimed]
  cases status with
  | queued => exact grows { sink with
      ingress, acceptedSamples := saturatingIncrement sink.acceptedSamples } port
  | accountedAsGap => exact grows { sink with
      ingress, exactGaps := saturatingIncrement sink.exactGaps } port
  | _ => exact Nat.le_refl _

theorem publish_mono (sink : MeasurementIngressSink pendingCapacity) (port : IngressPort)
    (batch : List (StoredSample × SampleDeviceTime)) :
    sink.cursor ≤ (sink.publish capacity port batch).1.cursor := by
  induction batch generalizing sink port with
  | nil => exact Nat.le_refl _
  | cons head rest ih =>
    exact (cursor_le_nextCursor sink).trans (publish_cons_cursor capacity ih head)

theorem onContinuityBreak_cursor {reason : ContinuityBreakReason} (known : reason.isKnown = true)
    (unfaulted : sink.faulted = false) :
    (sink.onContinuityBreak capacity port reason).1.cursor = sink.nextCursor := by
  have claimed := Offers.Always.run (IngressPort.tryPush capacity)
    (SampleIngress.publishContinuityBreak_always sink.ingress known) port
  rw [onContinuityBreak, if_neg (by simp [unfaulted])]
  generalize (sink.ingress.publishContinuityBreak reason).run
    (IngressPort.tryPush capacity) port = result at claimed ⊢
  obtain ⟨⟨status, ingress⟩, port⟩ := result
  have claimed : sink.nextCursor = ingress.sequencer.next := by
    rw [nextCursor, cursor, claimed]
    split <;> rfl
  rw [claimed]
  dsimp only
  split <;> rfl

/-- One call of the sinks; every call is one of these. -/
def receiveOne (sink : MeasurementIngressSink pendingCapacity) (port : IngressPort) :
    SinkCall → MeasurementIngressSink pendingCapacity × IngressPort
  | .onSamples batch => sink.onSamples capacity port batch
  | .onContinuityBreak reason => sink.onContinuityBreak capacity port reason

theorem receive_cons (sink : MeasurementIngressSink pendingCapacity) (port : IngressPort)
    (call : SinkCall) (rest : List SinkCall) :
    sink.receive capacity port (call :: rest) = (sink.receiveOne capacity port call).1.receive
      capacity (sink.receiveOne capacity port call).2 rest := by
  cases call <;> rfl

variable {call : SinkCall}

theorem receiveOne_mono (sink : MeasurementIngressSink pendingCapacity) (port : IngressPort)
    (proper : call.Proper) : sink.cursor ≤ (sink.receiveOne capacity port call).1.cursor := by
  by_cases faulted : sink.faulted = true
  · cases call with
    | onSamples batch => rw [receiveOne, onSamples, if_pos faulted]
    | onContinuityBreak reason => rw [receiveOne, onContinuityBreak, if_pos faulted]
  cases call with
  | onSamples batch =>
    rw [receiveOne, onSamples, if_neg faulted]
    exact publish_mono capacity sink port batch
  | onContinuityBreak reason =>
    rw [receiveOne, onContinuityBreak_cursor capacity proper (Bool.eq_false_iff.mpr faulted)]
    exact cursor_le_nextCursor sink

theorem receive_mono (sink : MeasurementIngressSink pendingCapacity) (port : IngressPort)
    {calls : List SinkCall} (proper : ∀ call ∈ calls, call.Proper) :
    sink.cursor ≤ (sink.receive capacity port calls).1.cursor := by
  induction calls generalizing sink port with
  | nil => exact Nat.le_refl _
  | cons call rest ih =>
    rw [receive_cons]
    exact (receiveOne_mono capacity sink port (proper call mem_cons_self)).trans
      (ih _ _ fun call member => proper call (mem_cons_of_mem _ member))

/-- A sink that takes events gives the first call a cursor. -/
theorem receive_takes (takes : ¬ sink.Closed) {rest : List SinkCall}
    (proper : ∀ handed ∈ call :: rest, handed.Proper) :
    sink.cursor < (sink.receive capacity port (call :: rest)).1.cursor := by
  have next := cursor_lt_nextCursor takes
  obtain ⟨unfaulted, -⟩ := by simpa only [Closed, not_or] using takes
  have first : sink.nextCursor ≤ (sink.receiveOne capacity port call).1.cursor := by
    cases call with
    | onSamples batch =>
      obtain ⟨head, tail, rfl⟩ := exists_cons_of_ne_nil (proper _ mem_cons_self)
      rw [receiveOne, onSamples, if_neg unfaulted]
      exact publish_cons_cursor capacity (publish_mono capacity · · tail) head
    | onContinuityBreak reason =>
      exact (onContinuityBreak_cursor capacity (proper _ mem_cons_self)
        (Bool.eq_false_iff.mpr unfaulted)).ge
  rw [receive_cons]
  exact (next.trans_le first).trans_le (receive_mono capacity _ _
    fun call member => proper call (mem_cons_of_mem _ member))

end Receive

section Closed

variable (capacity : Nat)

theorem publishSample_closed {ingress : SampleIngress pendingCapacity}
    (closed : ingress.faulted = true ∨ uint64Max ≤ ingress.sequencer.next)
    (sample : SampleRecord) : ∃ status, status ≠ .queued ∧ status ≠ .accountedAsGap ∧
      ingress.publishSample sample = .done (status, ingress) := by
  by_cases faulted : ingress.faulted = true
  · exact ⟨.internalError, nofun, nofun, if_pos faulted⟩
  have full := closed.resolve_left faulted
  refine ⟨.sequenceExhausted, nofun, nofun, ?_⟩
  have exhausted : ingress.sequencer.claim 1 =
      (⟨.exhausted, ingress.sequencer.next, 0⟩, ingress.sequencer) := by
    rw [claim, if_neg Nat.one_ne_zero, if_pos (Nat.lt_succ_of_le full)]
  rw [SampleIngress.publishSample, if_neg faulted, claimSample, exhausted]
  rfl

theorem publishContinuityBreak_closed {ingress : SampleIngress pendingCapacity}
    (closed : ingress.faulted = true ∨ uint64Max ≤ ingress.sequencer.next)
    {reason : ContinuityBreakReason} (known : reason.isKnown = true) :
    ∃ status, status ≠ .queued ∧ status ≠ .bufferedContinuityBreak ∧
      ingress.publishContinuityBreak reason = .done (status, ingress) := by
  by_cases faulted : ingress.faulted = true
  · exact ⟨.internalError, nofun, nofun, if_pos faulted⟩
  have full := closed.resolve_left faulted
  refine ⟨.sequenceExhausted, nofun, nofun, ?_⟩
  have exhausted : ingress.sequencer.claim 1 =
      (⟨.exhausted, ingress.sequencer.next, 0⟩, ingress.sequencer) := by
    rw [claim, if_neg Nat.one_ne_zero, if_pos (Nat.lt_succ_of_le full)]
  rw [SampleIngress.publishContinuityBreak, if_neg faulted,
    claimContinuityBreak, known, exhausted]
  rfl

theorem receiveOne_closed {sink : MeasurementIngressSink pendingCapacity} (closed : sink.Closed)
    (port : IngressPort) {call : SinkCall} (proper : call.Proper) :
    (sink.receiveOne capacity port call).1.Closed ∧
      (sink.receiveOne capacity port call).1.ingress = sink.ingress ∧
      (sink.receiveOne capacity port call).2 = port := by
  by_cases faulted : sink.faulted = true
  · cases call with
    | onSamples batch =>
      rw [receiveOne, onSamples, if_pos faulted]
      exact ⟨closed, rfl, rfl⟩
    | onContinuityBreak reason =>
      rw [receiveOne, onContinuityBreak, if_pos faulted]
      exact ⟨closed, rfl, rfl⟩
  have shut := closed.resolve_left faulted
  cases call with
  | onSamples batch =>
    rw [receiveOne, onSamples, if_neg faulted]
    obtain ⟨⟨stored, time⟩, rest, rfl⟩ := exists_cons_of_ne_nil proper
    obtain ⟨status, queued, accounted, refused⟩ :=
      publishSample_closed shut (sink.record stored time)
    rw [publish, refused, Offers.run]
    cases status with
    | queued => exact absurd rfl queued
    | accountedAsGap => exact absurd rfl accounted
    | _ => exact ⟨.inl rfl, rfl, rfl⟩
  | onContinuityBreak reason =>
    obtain ⟨status, queued, buffered, refused⟩ := publishContinuityBreak_closed shut proper
    rw [receiveOne, onContinuityBreak, if_neg faulted, refused, Offers.run]
    dsimp only
    rw [if_neg (not_or.mpr ⟨queued, buffered⟩)]
    exact ⟨.inl rfl, rfl, rfl⟩

/-- A closed sink changes nothing of the stream. -/
theorem receive_closed {sink : MeasurementIngressSink pendingCapacity} (closed : sink.Closed)
    (port : IngressPort) {calls : List SinkCall} (proper : ∀ call ∈ calls, call.Proper) :
    (sink.receive capacity port calls).1.ingress = sink.ingress ∧
      (sink.receive capacity port calls).2 = port := by
  induction calls generalizing sink port with
  | nil => exact ⟨rfl, rfl⟩
  | cons call rest ih =>
    obtain ⟨closed', ingress, same⟩ :=
      receiveOne_closed capacity closed port (proper call mem_cons_self)
    have tail := ih closed' (sink.receiveOne capacity port call).2
      fun call member => proper call (mem_cons_of_mem _ member)
    rw [receive_cons]
    exact ⟨tail.1.trans ingress, tail.2.trans same⟩

end Closed

theorem flushPending_cursor (capacity : Nat) (sink : MeasurementIngressSink pendingCapacity)
    (port : IngressPort) : (sink.flushPending capacity port).1.cursor = sink.cursor := by
  rw [flushPending]
  split
  · rfl
  have same : sink.ingress.flushPending.Always fun result =>
      result.2.sequencer = sink.ingress.sequencer := SampleIngress.flushPending_always rfl
  exact congrArg next (same.run _ port)

theorem flushPending_empty (capacity : Nat) {sink : MeasurementIngressSink pendingCapacity}
    (nothing : sink.ingress.pending = []) (port : IngressPort) :
    (sink.flushPending capacity port).1.ingress = sink.ingress ∧
      (sink.flushPending capacity port).2 = port := by
  have done : ∃ flushed, sink.ingress.flushPending = .done (flushed, sink.ingress) := by
    rw [SampleIngress.flushPending, nothing]
    split
    · exact ⟨false, rfl⟩
    · exact ⟨true, rfl⟩
  obtain ⟨flushed, done⟩ := done
  rw [flushPending, done]
  split
  · exact ⟨rfl, rfl⟩
  · exact ⟨rfl, rfl⟩

end MeasurementIngressSink
end SensorSystem.Node
