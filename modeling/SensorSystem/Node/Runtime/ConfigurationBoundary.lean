import SensorSystem.Node.Config.ConfigSurvival
import SensorSystem.Node.Runtime.RecordingSessions

/-! The result of an applied configuration reports the engine's count of samples as the cursor
from which the stream has the new revision. The cursors of the stream also count the breaks: in
every run the reported value lies as far in front of the next cursor as there have been breaks. -/

namespace SensorSystem.Node

open IngressPort List UInt64
open Base
open Acquisition
open Node.Config (DeviceConfig PersistentConfig ConfigManager.next generation_next)
open Node.Wire (SensorStatus)

/-- A gap or a break. -/
def IngressEvent.Mark : IngressEvent → Prop
  | sample _ _ => False
  | gap _ => True
  | continuityBreak _ => True

namespace SampleIngress

variable {pendingCapacity : Nat} {ingress : SampleIngress pendingCapacity}

/-- No sample waits in front of the queue. -/
def Marked (ingress : SampleIngress pendingCapacity) : Prop :=
  ∀ event ∈ ingress.pending, event.Mark

variable (marked : ingress.Marked)

include marked

theorem Marked.bufferEvent {event : IngressEvent} (mark : event.Mark) :
    (ingress.bufferEvent event).2.Marked := by
  rw [SampleIngress.bufferEvent]
  split
  · exact marked
  intro waiting member
  rcases mem_append.mp member with member | member
  · exact marked waiting member
  · rw [mem_singleton.mp member]
    exact mark

theorem Marked.accountMissing (first count : Nat) (reason : GapReason) :
    (ingress.accountMissing first count reason).2.Marked := by
  rw [SampleIngress.accountMissing]
  split
  · split
    · exact marked
    intro waiting member
    rcases mem_append.mp member with member | member
    · exact marked waiting (mem_of_mem_dropLast member)
    · rw [mem_singleton.mp member]
      trivial
  have buffered : (ingress.bufferEvent (.gap ⟨first, count, reason⟩)).2.Marked :=
    marked.bufferEvent trivial
  generalize ingress.bufferEvent (.gap ⟨first, count, reason⟩) = result at buffered
  obtain ⟨done, after⟩ := result
  cases done <;> exact buffered

theorem Marked.accountAsGap (first count : Nat) (reason : GapReason) :
    (SampleIngress.accountAsGap first count reason ingress).2.Marked :=
  marked.accountMissing first count reason

theorem Marked.bufferBreak (value : ContinuityBreakRecord) :
    (SampleIngress.bufferBreak (.continuityBreak value) ingress).2.Marked :=
  marked.bufferEvent trivial

omit marked

theorem flushLoop_through {events : List IngressEvent} (marks : ∀ event ∈ events, event.Mark)
    (marked : ingress.Marked) :
    (ingress.flushLoop events).Through IngressEvent.Mark fun result => result.2.Marked := by
  induction events generalizing ingress with
  | nil => exact marked
  | cons event rest ih =>
    have tail : ∀ event ∈ rest, event.Mark := fun event member =>
      marks event (mem_cons_of_mem _ member)
    refine Offers.through_bind (Offers.through_try (marks event mem_cons_self) ?_)
    intro answer
    cases answer with
    | true =>
      change (flushLoop { ingress with
        pending := rest
        counters := ingress.counters.flushed event } rest).Through _ _
      exact ih tail tail
    | false => exact marked

include marked

theorem Marked.flushPending :
    ingress.flushPending.Through IngressEvent.Mark fun result => result.2.Marked := by
  rw [SampleIngress.flushPending]
  split
  · exact marked
  · exact flushLoop_through marked marked

theorem Marked.flushFirst :
    ingress.flushFirst.Through IngressEvent.Mark fun result => result.2.Marked := by
  rw [SampleIngress.flushFirst]
  split
  · exact marked.flushPending
  · exact marked

theorem Marked.send (event : IngressEvent)
    {otherwise : SampleIngress pendingCapacity → PublishStatus × SampleIngress pendingCapacity}
    (keeps : ∀ after : SampleIngress pendingCapacity, after.Marked → (otherwise after).2.Marked) :
    (ingress.send event otherwise).Through (fun offered => offered.Mark ∨ offered = event)
      fun result => result.2.Marked := by
  refine Offers.through_bind (marked.flushFirst.mono (fun _ => .inl) ?_)
  rintro ⟨ready, after⟩ still
  cases ready with
  | false => exact keeps after still
  | true =>
    refine Offers.through_bind (Offers.through_try (.inr rfl) fun answer => ?_)
    cases answer with
    | true => exact still
    | false => exact keeps _ still

omit marked

theorem first_claim (sequencer : SourceSequencer) :
    (sequencer.claim 1).1.first = sequencer.next := by
  rw [SourceSequencer.claim, if_neg Nat.one_ne_zero]
  split <;> rfl

theorem Marked.publishSample (marked : ingress.Marked) (sample : SampleRecord) :
    (ingress.publishSample sample).Through
      (fun offered => offered.Mark ∨ offered = .sample ingress.sequencer.next sample)
      fun result => result.2.Marked := by
  have claimed : ({ ingress with sequencer := (ingress.sequencer.claim 1).2 } :
      SampleIngress pendingCapacity).Marked := marked
  rw [SampleIngress.publishSample, SourceSequencer.claimSample]
  split
  · exact marked
  dsimp only
  split
  · exact marked
  split
  · exact claimed.accountAsGap _ _ _
  rw [first_claim]
  refine claimed.send _ fun after still => ?_
  exact still.accountAsGap _ _ _

theorem Marked.publishContinuityBreak (marked : ingress.Marked) {reason : ContinuityBreakReason}
    (known : reason.isKnown = true) :
    (ingress.publishContinuityBreak reason).Through IngressEvent.Mark
      fun result => result.2.Marked := by
  have claimed : ({ ingress with sequencer := (ingress.sequencer.claim 1).2 } :
      SampleIngress pendingCapacity).Marked := marked
  rw [SampleIngress.publishContinuityBreak, SourceSequencer.claimContinuityBreak]
  split
  · exact marked
  simp only [known, Bool.not_true, Bool.false_eq_true, if_false]
  split
  · exact marked
  split
  · exact marked
  generalize (if (ingress.sequencer.claim 1).1.status = .ok then
      ({ atSequence := (ingress.sequencer.claim 1).1.first, reason } : ContinuityBreakRecord)
    else {}) = value
  refine (claimed.send (.continuityBreak value) fun after still => ?_).mono ?_ fun _ => id
  · exact still.bufferBreak value
  · rintro offered (mark | rfl)
    · exact mark
    · trivial

end SampleIngress

namespace IngressPort

theorem stream_interleave (port : IngressPort) : port.interleave.stream = port.stream := by
  simp [stream, interleave, consume, append_assoc]

/-- What a push leaves in the stream was there or is the event. -/
theorem mem_stream_tryPush {capacity : Nat} {port : IngressPort} {item event : IngressEvent}
    (member : event ∈ (tryPush capacity port item).2.stream) :
    event ∈ port.stream ∨ event = item := by
  rw [tryPush] at member
  split at member
  · change event ∈ port.interleave.journal ++ (port.interleave.queue ++ [item]) at member
    rw [← append_assoc] at member
    rcases mem_append.mp member with member | member
    · exact .inl (stream_interleave port ▸ member)
    · exact .inr (mem_singleton.mp member)
  · exact .inl (stream_interleave port ▸ member)

/-- What a program adds to the stream is what it may offer. -/
theorem mem_stream_run {α : Type} {allowed : IngressEvent → Prop} {post : α → Prop}
    {program : Offers IngressEvent α} (capacity : Nat) (port : IngressPort)
    (through : program.Through allowed post) : post (program.run (tryPush capacity) port).1 ∧
      ∀ event ∈ (program.run (tryPush capacity) port).2.stream,
        event ∈ port.stream ∨ allowed event := by
  have steps (reached : IngressPort) (item : IngressEvent) (fine : allowed item)
      (before : ∀ event ∈ reached.stream, event ∈ port.stream ∨ allowed event) :
      ∀ event ∈ (tryPush capacity reached item).2.stream, event ∈ port.stream ∨ allowed event := by
    intro event member
    rcases mem_stream_tryPush member with member | rfl
    · exact before event member
    · exact .inr fine
  exact Offers.Through.run steps through fun event => .inl

end IngressPort

namespace MeasurementIngressSink

variable {pendingCapacity : Nat} {sink after : MeasurementIngressSink pendingCapacity}
  {port next : IngressPort}

/-- Cursors only grow, and a new sample has one of the cursors taken. -/
structure Extends (sink : MeasurementIngressSink pendingCapacity) (port : IngressPort)
    (after : MeasurementIngressSink pendingCapacity) (next : IngressPort) : Prop where
  marked : after.ingress.Marked
  cursor : sink.cursor ≤ after.cursor
  revision : after.configRevision = sink.configRevision
  samples : ∀ sequence sample, .sample sequence sample ∈ next.stream →
    .sample sequence sample ∈ port.stream ∨ sink.cursor ≤ sequence ∧ sequence < after.cursor ∧
      sample.configRevision = sink.configRevision

theorem Extends.refl (marked : sink.ingress.Marked) (port : IngressPort) :
    sink.Extends port sink port :=
  ⟨marked, Nat.le_refl _, rfl, fun _ _ => .inl⟩

theorem Extends.trans {last : MeasurementIngressSink pendingCapacity} {final : IngressPort}
    (one : sink.Extends port after next) (two : after.Extends next last final) :
    sink.Extends port last final := by
  refine ⟨two.marked, one.cursor.trans two.cursor, two.revision.trans one.revision, ?_⟩
  intro sequence sample member
  rcases two.samples sequence sample member with member | ⟨above, below, revision⟩
  · rcases one.samples sequence sample member with member | ⟨above, below, revision⟩
    · exact .inl member
    · exact .inr ⟨above, below.trans_le two.cursor, revision⟩
  · exact .inr ⟨one.cursor.trans above, below, revision.trans one.revision⟩

/-- While the sink works, its cursors are the samples and the breaks it has counted. -/
def Accounted (produced : Nat) (sink : MeasurementIngressSink pendingCapacity) : Prop :=
  sink.faulted = false →
    produced + sink.continuityBreaks = sink.cursor ∧ sink.cursor ≤ uint64Max

/-- A publication takes the next cursor, or is refused. -/
structure Published (sink : MeasurementIngressSink pendingCapacity) (port : IngressPort)
    (fresh : IngressEvent → Prop) (ingress : SampleIngress pendingCapacity) (next : IngressPort) :
    Prop where
  marked : ingress.Marked
  cursor : sink.cursor ≤ ingress.sequencer.next
  stream : ∀ event ∈ next.stream, event ∈ port.stream ∨ event.Mark ∨
    fresh event ∧ sink.cursor < ingress.sequencer.next

theorem nextCursor_open (running : ¬ (sink.ingress.faulted = true ∨
    uint64Max ≤ sink.ingress.sequencer.next)) :
    sink.nextCursor = sink.cursor + 1 ∧ sink.cursor < uint64Max := by
  obtain ⟨running, room⟩ := not_or.mp running
  rw [nextCursor, if_neg running, SourceSequencer.claim_one, if_neg room]
  exact ⟨rfl, Nat.lt_of_not_le room⟩

variable {status : PublishStatus} {reason : ContinuityBreakReason}

theorem publishSample_published (capacity : Nat) (marked : sink.ingress.Marked)
    (port : IngressPort) (sample : SampleRecord) {ingress : SampleIngress pendingCapacity}
    (published : (sink.ingress.publishSample sample).run (tryPush capacity) port =
      ((status, ingress), next)) :
    sink.Published port (· = .sample sink.cursor sample) ingress next ∧
      (status = .queued ∨ status = .accountedAsGap →
        ingress.sequencer.next = sink.cursor + 1 ∧ sink.cursor < uint64Max) := by
  by_cases closed : sink.ingress.faulted = true ∨ uint64Max ≤ sink.ingress.sequencer.next
  · obtain ⟨refusal, queued, accounted, refused⟩ := publishSample_closed closed sample
    rw [refused] at published
    obtain ⟨same, rfl⟩ := Prod.mk.inj published
    cases same
    refine ⟨⟨marked, Nat.le_refl _, fun _ => .inl⟩, ?_⟩
    rintro (taken | taken)
    · exact absurd taken queued
    · exact absurd taken accounted
  have moved := Offers.Always.run (tryPush capacity)
    (SampleIngress.publishSample_always sink.ingress sample) port
  have kept := mem_stream_run capacity port (marked.publishSample sample)
  rw [published] at moved kept
  obtain ⟨step, room⟩ := nextCursor_open closed
  have claimed : ingress.sequencer.next = sink.cursor + 1 := by
    rw [← step, nextCursor]
    rw [moved]
    split <;> rfl
  refine ⟨⟨kept.1, by omega, fun event member => ?_⟩, fun _ => ⟨claimed, room⟩⟩
  rcases kept.2 event member with there | mark | fresh
  · exact .inl there
  · exact .inr (.inl mark)
  · exact .inr (.inr ⟨fresh, by omega⟩)

theorem publishContinuityBreak_published (capacity : Nat) (marked : sink.ingress.Marked)
    (port : IngressPort) (known : reason.isKnown = true) {ingress : SampleIngress pendingCapacity}
    (published : (sink.ingress.publishContinuityBreak reason).run (tryPush capacity)
      port = ((status, ingress), next)) : sink.Published port (fun _ => False) ingress next ∧
      (status = .queued ∨ status = .bufferedContinuityBreak →
        ingress.sequencer.next = sink.cursor + 1 ∧ sink.cursor < uint64Max) := by
  by_cases closed : sink.ingress.faulted = true ∨ uint64Max ≤ sink.ingress.sequencer.next
  · obtain ⟨refusal, queued, buffered, refused⟩ := publishContinuityBreak_closed closed known
    rw [refused] at published
    obtain ⟨same, rfl⟩ := Prod.mk.inj published
    cases same
    refine ⟨⟨marked, Nat.le_refl _, fun _ => .inl⟩, ?_⟩
    rintro (taken | taken)
    · exact absurd taken queued
    · exact absurd taken buffered
  have moved := Offers.Always.run (tryPush capacity)
    (SampleIngress.publishContinuityBreak_always sink.ingress known) port
  have kept := mem_stream_run capacity port (marked.publishContinuityBreak known)
  rw [published] at moved kept
  obtain ⟨step, room⟩ := nextCursor_open closed
  have claimed : ingress.sequencer.next = sink.cursor + 1 := by
    rw [← step, nextCursor]
    rw [moved]
    split <;> rfl
  refine ⟨⟨kept.1, by omega, fun event member => ?_⟩, fun _ => ⟨claimed, room⟩⟩
  exact (kept.2 event member).imp_right .inl

/-- A publication of a sample extends the stream. -/
theorem Published.extends {fresh : IngressEvent → Prop} {ingress : SampleIngress pendingCapacity}
    (published : sink.Published port fresh ingress next)
    (revised : ∀ sequence sample, fresh (.sample sequence sample) →
      sequence = sink.cursor ∧ sample.configRevision = sink.configRevision)
    (same : after.ingress = ingress) (revision : after.configRevision = sink.configRevision) :
    sink.Extends port after next := by
  subst same
  refine ⟨published.marked, published.cursor, revision, fun sequence sample member => ?_⟩
  rcases published.stream _ member with there | mark | ⟨fresh, moved⟩
  · exact .inl there
  · exact absurd mark id
  · obtain ⟨rfl, revision⟩ := revised sequence sample fresh
    exact .inr ⟨Nat.le_refl _, moved, revision⟩

variable {produced : Nat} (capacity : Nat) (marked : sink.ingress.Marked)

include capacity marked

/-- A batch: its stream, and the count of its samples. -/
theorem publish_extends (port : IngressPort) (batch : List (StoredSample × SampleDeviceTime))
    (accounted : sink.Accounted produced) (working : sink.faulted = false) :
    sink.Extends port (sink.publish capacity port batch).1 (sink.publish capacity port batch).2 ∧
      (sink.publish capacity port batch).1.Accounted (produced + batch.length) := by
  induction batch generalizing sink port produced with
  | nil => exact ⟨.refl marked port, accounted⟩
  | cons head rest ih =>
    obtain ⟨stored, time⟩ := head
    obtain ⟨balance, bounded⟩ := accounted working
    rw [publish]
    generalize published : (sink.ingress.publishSample (sink.record stored time)).run
      (tryPush capacity) port = result
    obtain ⟨⟨status, ingress⟩, next⟩ := result
    obtain ⟨left, taken⟩ := publishSample_published capacity marked port _ published
    have head (after : MeasurementIngressSink pendingCapacity) (same : after.ingress = ingress)
        (revision : after.configRevision = sink.configRevision) : sink.Extends port after next := by
      refine left.extends (fun sequence sample fresh => ?_) same revision
      obtain ⟨rfl, rfl⟩ := IngressEvent.sample.inj fresh
      exact ⟨rfl, rfl⟩
    have tail (after : MeasurementIngressSink pendingCapacity) (same : after.ingress = ingress)
        (revision : after.configRevision = sink.configRevision) (works : after.faulted = false)
        (breaks : after.continuityBreaks = sink.continuityBreaks)
        (took : ingress.sequencer.next = sink.cursor + 1 ∧ sink.cursor < uint64Max) :
        sink.Extends port (after.publish capacity next rest).1
            (after.publish capacity next rest).2 ∧
          (after.publish capacity next rest).1.Accounted (produced + (rest.length + 1)) := by
      have counted : after.Accounted (produced + 1) := by
        intro _
        have cursor : after.cursor = sink.cursor + 1 := by rw [← took.1, cursor, same]
        omega
      obtain ⟨extended, final⟩ := ih (same ▸ left.marked) next counted works
      refine ⟨(head after same revision).trans extended, ?_⟩
      rwa [show produced + 1 + rest.length = produced + (rest.length + 1) by omega] at final
    cases status with
    | queued => exact tail _ rfl rfl working rfl (taken (.inl rfl))
    | accountedAsGap => exact tail _ rfl rfl working rfl (taken (.inr rfl))
    | _ => exact ⟨head _ rfl rfl, by rintro ⟨⟩⟩

theorem onContinuityBreak_extends (port : IngressPort) (known : reason.isKnown = true)
    (accounted : sink.Accounted produced) :
    sink.Extends port (sink.onContinuityBreak capacity port reason).1
        (sink.onContinuityBreak capacity port reason).2 ∧
      (sink.onContinuityBreak capacity port reason).1.Accounted produced := by
  rw [onContinuityBreak]
  split
  · exact ⟨.refl marked port, accounted⟩
  rename_i working
  obtain ⟨balance, bounded⟩ := accounted (Bool.eq_false_iff.mpr working)
  generalize published : (sink.ingress.publishContinuityBreak reason).run
    (tryPush capacity) port = result
  obtain ⟨⟨status, ingress⟩, next⟩ := result
  obtain ⟨left, taken⟩ := publishContinuityBreak_published capacity marked port known published
  have extended (after : MeasurementIngressSink pendingCapacity) (same : after.ingress = ingress)
      (revision : after.configRevision = sink.configRevision) : sink.Extends port after next :=
    left.extends (fun _ _ never => never.elim) same revision
  dsimp only
  split
  · rename_i done
    obtain ⟨claimed, room⟩ := taken done
    refine ⟨extended _ rfl rfl, fun _ => ?_⟩
    change produced + saturatingIncrement sink.continuityBreaks = ingress.sequencer.next ∧
      ingress.sequencer.next ≤ uint64Max
    rw [saturatingIncrement, if_pos (by omega)]
    omega
  · exact ⟨extended _ rfl rfl, by rintro ⟨⟩⟩

theorem onSamples_extends (port : IngressPort) (batch : List (StoredSample × SampleDeviceTime))
    (accounted : sink.Accounted produced) : sink.Extends port (sink.onSamples capacity port batch).1
        (sink.onSamples capacity port batch).2 ∧
      (sink.onSamples capacity port batch).1.Accounted (produced + batch.length) := by
  rw [onSamples]
  split
  · rename_i faulted
    exact ⟨.refl marked port, fun working => by cases faulted.symm.trans working⟩
  rename_i working
  exact publish_extends capacity marked port batch accounted (Bool.eq_false_iff.mpr working)

theorem receive_extends (port : IngressPort) {calls : List SinkCall}
    (proper : ∀ call ∈ calls, call.Proper) (accounted : sink.Accounted produced) :
    sink.Extends port (sink.receive capacity port calls).1 (sink.receive capacity port calls).2 ∧
      (sink.receive capacity port calls).1.Accounted
        (produced + (calls.map SinkCall.samples).sum) := by
  induction calls generalizing sink port produced with
  | nil => exact ⟨.refl marked port, accounted⟩
  | cons call rest ih =>
    have head : sink.Extends port (sink.receiveOne capacity port call).1
        (sink.receiveOne capacity port call).2 ∧
        (sink.receiveOne capacity port call).1.Accounted (produced + call.samples) := by
      cases call with
      | onSamples batch => exact onSamples_extends capacity marked port batch accounted
      | onContinuityBreak reason =>
        exact onContinuityBreak_extends capacity marked port (proper _ mem_cons_self) accounted
    obtain ⟨extended, counted⟩ := head
    obtain ⟨extended', counted'⟩ := ih extended.marked (sink.receiveOne capacity port call).2
      (fun call member => proper call (mem_cons_of_mem _ member)) counted
    rw [receive_cons, map_cons, sum_cons, ← Nat.add_assoc]
    exact ⟨extended.trans extended', counted'⟩

theorem flushPending_extends (port : IngressPort) (accounted : sink.Accounted produced) :
    sink.Extends port (sink.flushPending capacity port).1 (sink.flushPending capacity port).2 ∧
      (sink.flushPending capacity port).1.Accounted produced := by
  have cursor := flushPending_cursor capacity sink port
  rw [Accounted, cursor]
  rw [flushPending] at cursor ⊢
  split at cursor
  · rename_i faulted
    rw [if_pos faulted]
    exact ⟨.refl marked port, accounted⟩
  rename_i working
  rw [if_neg working]
  have kept := mem_stream_run capacity port marked.flushPending
  refine ⟨⟨kept.1, cursor.ge, rfl, fun sequence sample member => ?_⟩,
    fun _ => accounted (Bool.eq_false_iff.mpr working)⟩
  exact (kept.2 _ member).imp_right fun mark => absurd mark id

omit marked capacity

end MeasurementIngressSink

namespace Core0

variable {δ : Type} {sizes : Core0Sizes} {sensor : Accelerometer δ}
  {first before core after : Core0 δ sizes} {passes : Nat}

/-- The numbering of the stream between two calls. -/
structure Numbered (core : Core0 δ sizes) : Prop where
  handed : core.engine.handed = []
  marked : core.sink.ingress.Marked
  produced : ∃ produced, core.engine.nextSampleSeq = ofNat produced ∧
    core.sink.Accounted produced
  samples : ∀ sequence sample, .sample sequence sample ∈ core.port.stream →
    sequence < core.cursor ∧ sample.configRevision ≤ core.sink.configRevision
  revision : core.sink.configRevision ≤ core.config.generation

/-- What comes later lies behind the cursor and has no older revision. -/
structure Later (before after : Core0 δ sizes) : Prop where
  cursor : before.cursor ≤ after.cursor
  revision : before.sink.configRevision ≤ after.sink.configRevision
  samples : ∀ sequence sample, .sample sequence sample ∈ after.port.stream →
    .sample sequence sample ∈ before.port.stream ∨
      before.cursor ≤ sequence ∧ before.sink.configRevision ≤ sample.configRevision

theorem Later.refl (core : Core0 δ sizes) : core.Later core :=
  ⟨Nat.le_refl _, UInt32.le_refl _, fun _ _ => .inl⟩

theorem Later.trans (one : first.Later before) (two : before.Later after) : first.Later after := by
  refine ⟨one.cursor.trans two.cursor, UInt32.le_trans one.revision two.revision, ?_⟩
  intro sequence sample member
  rcases two.samples sequence sample member with member | ⟨above, revision⟩
  · exact one.samples sequence sample member
  · exact .inr ⟨one.cursor.trans above, UInt32.le_trans one.revision revision⟩

/-- A transition that keeps the numbering. -/
def Moves (before after : Core0 δ sizes) : Prop :=
  before.Numbered → after.Numbered ∧ before.Later after

theorem Moves.refl (core : Core0 δ sizes) : core.Moves core := fun numbered =>
  ⟨numbered, .refl core⟩

theorem Moves.trans (one : first.Moves before) (two : before.Moves after) : first.Moves after := by
  intro numbered
  obtain ⟨numbered, later⟩ := one numbered
  obtain ⟨numbered, later'⟩ := two numbered
  exact ⟨numbered, later.trans later'⟩

/-- The sink and the stream are the same. -/
theorem Moves.of_eq (same : before.engine.Same after.engine) (sink : after.sink = before.sink)
    (stream : after.port.stream = before.port.stream)
    (generation : before.config.generation ≤ after.config.generation) : before.Moves after := by
  intro numbered
  obtain ⟨produced, counted, accounted⟩ := numbered.produced
  refine ⟨⟨same.1.trans numbered.handed, sink ▸ numbered.marked,
    ⟨produced, same.2.trans counted, sink ▸ accounted⟩, ?_, ?_⟩, ?_⟩
  · rw [cursor, sink, stream]
    exact numbered.samples
  · rw [sink]
    exact UInt32.le_trans numbered.revision generation
  refine ⟨?_, ?_, ?_⟩
  · rw [cursor, cursor, sink]
  · rw [sink]
    exact UInt32.le_refl _
  · rw [stream]
    exact fun _ _ => .inl

theorem enterFault_moves (core : Core0 δ sizes) (status : SensorStatus) :
    core.Moves (core.enterFault status) :=
  .of_eq ⟨rfl, rfl⟩ rfl rfl (UInt32.le_refl _)

theorem Moves.of_extends {calls : Nat} (settled : after.engine.handed = [])
    (produced : after.engine.nextSampleSeq = before.engine.nextSampleSeq + ofNat calls)
    (config : after.config = before.config)
    (extended : ∀ count, before.sink.ingress.Marked → before.sink.Accounted count →
      before.sink.Extends before.port after.sink after.port ∧
        after.sink.Accounted (count + calls)) : before.Moves after := by
  intro numbered
  obtain ⟨count, counted, accounted⟩ := numbered.produced
  obtain ⟨extended, accounted⟩ := extended count numbered.marked accounted
  refine ⟨⟨settled, extended.marked, ⟨count + calls, ?_, accounted⟩, ?_, ?_⟩,
    extended.cursor, ?_, ?_⟩
  · rw [produced, counted, ofNat_add]
  · intro sequence sample member
    rw [extended.revision]
    rcases extended.samples sequence sample member with member | ⟨-, below, revision⟩
    · obtain ⟨below, revision⟩ := numbered.samples sequence sample member
      exact ⟨below.trans_le extended.cursor, revision⟩
    · exact ⟨below, revision ▸ UInt32.le_refl _⟩
  · rw [extended.revision, config]
    exact numbered.revision
  · rw [extended.revision]
    exact UInt32.le_refl _
  · intro sequence sample member
    rcases extended.samples sequence sample member with member | ⟨above, -, revision⟩
    · exact .inl member
    · exact .inr ⟨above, revision ▸ UInt32.le_refl _⟩

theorem flush_moves (core : Core0 δ sizes) : core.Moves core.flush := by
  intro numbered
  refine Moves.of_extends numbered.handed (UInt64.add_zero _).symm rfl ?_ numbered
  exact fun count marked accounted =>
    core.sink.flushPending_extends sizes.queue marked core.port accounted

theorem deliver_moves {engine : AcquisitionEngine δ} (hands : core.engine.Hands engine) :
    core.Moves ({ core with engine } : Core0 δ sizes).deliver := by
  intro numbered
  obtain ⟨calls, handed, proper, produced⟩ := hands
  rw [numbered.handed, nil_append] at handed
  refine Moves.of_extends rfl produced rfl (fun count marked accounted => ?_) numbered
  have extended := core.sink.receive_extends sizes.queue marked core.port proper accounted
  rw [deliver]
  rw [handed]
  exact extended

theorem serviceIngressHealth_moves (core : Core0 δ sizes) :
    core.Moves core.serviceIngressHealth := by
  rw [serviceIngressHealth]
  split
  · exact (flush_moves core).trans (enterFault_moves _ _)
  · exact flush_moves core

theorem progressStop_moves (core : Core0 δ sizes) : core.Moves core.progressStop := by
  rw [progressStop]
  split
  · exact .refl core
  dsimp only
  split
  · exact (flush_moves core).trans (enterFault_moves _ _)
  exact (flush_moves core).trans
    (.of_eq (.refl _) rfl (stream_interleave _) (UInt32.le_refl _))

theorem start_moves (core : Core0 δ sizes) (operationId : UInt32) :
    core.Moves (core.start sensor operationId).2 := by
  have prepared : core.engine.Same (core.engine.prepareForRuntime sensor).2 :=
    core.engine.prepareForRuntime_same
  rw [start]
  split
  · exact .refl core
  · exact .refl core
  · exact .refl core
  · exact .refl core
  · split
    · exact enterFault_moves core _
    dsimp only
    split
    · exact .of_eq prepared rfl rfl (UInt32.le_refl _)
    · exact .of_eq prepared rfl rfl (UInt32.le_refl _)

variable {operationId : UInt32} {result : ConfigurationResult}

theorem stop_moves {result : Wire.SensorRuntimeResult}
    (stopped : core.stop sensor operationId passes = some (result, after)) : core.Moves after := by
  rw [stop] at stopped
  split at stopped
  · obtain ⟨-, rfl⟩ := Prod.mk.inj (Option.some.inj stopped)
    exact .refl core
  · obtain ⟨-, rfl⟩ := Prod.mk.inj (Option.some.inj stopped)
    exact .refl core
  · obtain ⟨-, rfl⟩ := Prod.mk.inj (Option.some.inj stopped)
    exact .refl core
  · obtain ⟨-, rfl⟩ := Prod.mk.inj (Option.some.inj stopped)
    exact progressStop_moves core
  · obtain ⟨⟨status, engine⟩, finished, ended⟩ := Option.bind_eq_some_iff.mp stopped
    have delivered : core.Moves ({ core with engine } : Core0 δ sizes).deliver :=
      deliver_moves (AcquisitionEngine.finishRecording_hands finished)
    dsimp only at ended
    split at ended
    · obtain ⟨-, rfl⟩ := Prod.mk.inj (Option.some.inj ended)
      exact delivered.trans (.of_eq ⟨rfl, rfl⟩ rfl rfl (UInt32.le_refl _))
    · obtain ⟨-, rfl⟩ := Prod.mk.inj (Option.some.inj ended)
      refine Moves.trans (Moves.trans delivered ?_) (progressStop_moves _)
      exact .of_eq ⟨rfl, rfl⟩ rfl rfl (UInt32.le_refl _)

theorem handle_moves {command : Wire.SensorRuntimeCommand} {result : Wire.SensorRuntimeResult}
    (handled : core.handle sensor command passes = some (result, after)) : core.Moves after := by
  rw [handle] at handled
  split at handled
  · obtain ⟨-, rfl⟩ := Prod.mk.inj (Option.some.inj handled)
    exact .refl core
  · obtain rfl : (core.start sensor command.operationId).2 = after :=
      congrArg Prod.snd (Option.some.inj handled)
    exact start_moves core command.operationId
  · exact stop_moves handled
  · obtain rfl : (core.enterMaintenance command.operationId).2 = after :=
      congrArg Prod.snd (Option.some.inj handled)
    rw [enterMaintenance]
    split
    · exact .refl core
    · exact .refl core
    · exact .refl core
    · exact .refl core
    · exact .of_eq ⟨rfl, rfl⟩ rfl rfl (UInt32.le_refl _)
  · obtain rfl : (core.exitMaintenance command.operationId).2 = after :=
      congrArg Prod.snd (Option.some.inj handled)
    rw [exitMaintenance]
    split
    · exact .refl core
    · exact .refl core
    · exact .refl core
    · exact .refl core
    · exact .of_eq ⟨rfl, rfl⟩ rfl rfl (UInt32.le_refl _)
  · obtain rfl : (core.setObservabilityProfile command.operationId command.requestedProfile).2 =
        after := congrArg Prod.snd (Option.some.inj handled)
    rw [setObservabilityProfile]
    split
    · exact .refl core
    · exact .of_eq ⟨rfl, rfl⟩ rfl rfl (UInt32.le_refl _)

theorem poll_moves (polled : core.poll sensor passes = some after) : core.Moves after := by
  rw [poll] at polled
  split at polled
  · cases polled
    exact (serviceIngressHealth_moves core).trans (progressStop_moves _)
  split at polled
  · cases polled
    exact serviceIngressHealth_moves core
  obtain ⟨engine, updated, ended⟩ := Option.bind_eq_some_iff.mp polled
  cases ended
  exact ((serviceIngressHealth_moves core).trans
    (deliver_moves (AcquisitionEngine.update_hands updated))).trans (serviceIngressHealth_moves _)

theorem reload_moves {config : DeviceConfig} {status : SensorStatus}
    (reloaded : core.reload sensor config passes = some (status, after)) :
    core.Moves after ∧ after.config = core.config := by
  obtain ⟨⟨status', engine⟩, engineReloads, delivered⟩ := Option.bind_eq_some_iff.mp reloaded
  obtain ⟨-, rfl⟩ := Prod.mk.inj (Option.some.inj delivered)
  exact ⟨deliver_moves (AcquisitionEngine.reloadRuntimeConfig_hands engineReloads), rfl⟩

variable {previous : DeviceConfig}

theorem rollBack_moves {code : Wire.ConfigOperationCode}
    (rolled : core.rollBack sensor operationId code previous passes = some (result, after)) :
    core.Moves after ∧ (result.code = code ∨ result.code = .rollbackFailed) := by
  obtain ⟨⟨status, middle⟩, reloaded, ended⟩ := Option.bind_eq_some_iff.mp rolled
  cases ended
  refine ⟨(reload_moves reloaded).1, ?_⟩
  rw [configurationResult]
  split
  · exact .inl rfl
  · exact .inr rfl

/-- The values of its result, and older samples in front of it. -/
structure AppliedSpec (result : ConfigurationResult) (after : Core0 δ sizes) : Prop where
  effective : result.effectiveSampleSeq = after.engine.nextSampleSeq
  revision : result.revision = after.sink.configRevision
  working : after.sink.faulted = false
  older : ∀ sequence sample, .sample sequence sample ∈ after.port.stream →
    sample.configRevision < result.revision

theorem commit_moves {next : DeviceConfig} {saves : Bool}
    (committed : core.commit sensor operationId previous next saves passes = some (result, after)) :
    core.Moves after ∧ (core.Numbered → result.code = .applied → AppliedSpec result after) := by
  rw [commit] at committed
  dsimp only at committed
  split at committed
  · obtain ⟨rolled, code⟩ := rollBack_moves committed
    have replaced : core.Moves ((core.replaceDeviceConfig next).replaceDeviceConfig previous) :=
      .of_eq (.refl _) rfl rfl (UInt32.le_refl _)
    refine ⟨replaced.trans rolled, fun _ applied => ?_⟩
    rcases code with code | code
    · cases code.symm.trans applied
    · cases code.symm.trans applied
  rename_i saved stored
  cases committed
  obtain ⟨found, -⟩ := Option.filter_eq_some_iff.mp stored
  have newer : core.config.generation < saved.generation := (generation_next found).2
  rw [MeasurementIngressSink.setConfigRevision]
  split
  · refine ⟨.of_eq (.refl _) rfl rfl (UInt32.le_of_lt newer), fun _ applied => ?_⟩
    cases applied
  rename_i accepted
  obtain ⟨-, working⟩ := not_or.mp accepted
  refine ⟨fun numbered => ?_, fun numbered _ => ?_⟩
  · have renewed := UInt32.le_trans numbered.revision (UInt32.le_of_lt newer)
    refine ⟨⟨numbered.handed, numbered.marked, numbered.produced, ?_, UInt32.le_refl _⟩,
      Nat.le_refl _, renewed, fun _ _ => .inl⟩
    intro sequence sample member
    obtain ⟨below, revision⟩ := numbered.samples sequence sample member
    exact ⟨below, UInt32.le_trans revision renewed⟩
  · refine ⟨rfl, rfl, Bool.eq_false_iff.mpr working, fun sequence sample member => ?_⟩
    have revision := (numbered.samples sequence sample member).2
    exact UInt32.lt_of_le_of_lt (UInt32.le_trans revision numbered.revision) newer

theorem configure_moves {command : ConfigurationCommand} {saves : Bool}
    (configured : core.configure sensor command saves passes = some (result, after)) :
    core.Moves after ∧ (core.Numbered → result.code = .applied → AppliedSpec result after) := by
  have unchanged {code : Wire.ConfigOperationCode}
      (same : some (core.configurationResult command.operationId code, core) =
        some (result, after)) (apart : code ≠ .applied) :
      core.Moves after ∧ (core.Numbered → result.code = .applied → AppliedSpec result after) := by
    cases same
    exact ⟨.refl _, fun _ applied => absurd applied apart⟩
  rw [configure] at configured
  dsimp only at configured
  split at configured
  · exact unchanged configured (by rintro ⟨⟩)
  split at configured
  · exact unchanged configured (by rintro ⟨⟩)
  split at configured
  · exact unchanged configured (by rintro ⟨⟩)
  split at configured
  · exact unchanged configured (by rintro ⟨⟩)
  obtain ⟨⟨status, middle⟩, reloaded, ended⟩ := Option.bind_eq_some_iff.mp configured
  have reloads := (reload_moves reloaded).1
  split at ended
  · obtain ⟨rolled, code⟩ := rollBack_moves ended
    refine ⟨reloads.trans rolled, fun _ applied => ?_⟩
    rcases code with code | code
    · cases code.symm.trans applied
    · cases code.symm.trans applied
  · obtain ⟨moved, applied⟩ := commit_moves ended
    exact ⟨reloads.trans moved, fun numbered => applied (reloads numbered).1⟩

theorem step_moves {event : Core0Step δ} (moves : before.step sensor event = some after) :
    before.Moves after := by
  cases event with
  | consume count =>
    cases moves
    refine .of_eq (.refl _) rfl ?_ (UInt32.le_refl _)
    simp [stream, IngressPort.consume, append_assoc]
  | sense device =>
    cases moves
    exact .of_eq ⟨rfl, rfl⟩ rfl rfl (UInt32.le_refl _)
  | call call passes rounds =>
    have opened : before.Moves (before.withRounds rounds) :=
      .of_eq (.refl _) rfl rfl (UInt32.le_refl _)
    refine opened.trans ?_
    cases call with
    | command command =>
      obtain ⟨⟨result, after⟩, handled, rfl⟩ := Option.map_eq_some_iff.mp moves
      exact handle_moves handled
    | configure command saves =>
      obtain ⟨⟨result, after⟩, configured, rfl⟩ := Option.map_eq_some_iff.mp moves
      exact (configure_moves configured).1
    | poll => exact poll_moves moves
    | fail status =>
      cases moves
      rw [fail]
      split
      · exact .refl _
      · exact enterFault_moves _ _

theorem runSteps_moves {steps : List (Core0Step δ)}
    (runs : runSteps (Core0.step sensor) before steps = some after) : before.Moves after := by
  induction steps generalizing before with
  | nil =>
    cases runs
    exact .refl _
  | cons event events ih =>
    obtain ⟨next, moves, rest⟩ := runSteps_cons runs
    exact (step_moves moves).trans (ih rest)

/-- The result of an applied command of a run, and the state behind it. -/
def AppliedIn (sensor : Accelerometer δ) (core : Core0 δ sizes) (steps : List (Core0Step δ))
    (result : ConfigurationResult) (after : Core0 δ sizes) : Prop :=
  ∃ front command saves passes rounds rest before,
    steps = front ++ .call (.configure command saves) passes rounds :: rest ∧
      runSteps (Core0.step sensor) core front = some before ∧
      (before.withRounds rounds).configure sensor command saves passes = some (result, after) ∧
      result.code = .applied

/-- The reported cursor separates the samples of a journal by their revisions. -/
def Separates (result : ConfigurationResult) (journal : List IngressEvent) : Prop :=
  ∀ sequence sample, .sample sequence sample ∈ journal →
    (result.effectiveSampleSeq.toNat ≤ sequence → result.revision ≤ sample.configRevision) ∧
      (sequence < result.effectiveSampleSeq.toNat → sample.configRevision < result.revision)

/-- None of the last cursors, as many as there were breaks, is a sample's. -/
def SamplesInFront (core : Core0 δ sizes) : Prop :=
  ∀ sequence sample, .sample sequence sample ∈ core.port.stream →
    sequence + core.sink.continuityBreaks < core.cursor

theorem boot_numbered (engine : AcquisitionEngine δ) (config : PersistentConfig) :
    (boot engine config : Core0 δ sizes).Numbered := by
  have waiting : (boot engine config : Core0 δ sizes).sink.ingress.Marked :=
    fun _ member => nomatch member
  have samples (sequence : Nat) (sample : SampleRecord) (member : .sample sequence sample ∈
      (boot engine config : Core0 δ sizes).port.stream) : False := nomatch member
  exact ⟨rfl, waiting, ⟨0, rfl, fun _ => ⟨rfl, Nat.zero_le _⟩⟩,
    fun sequence sample member => (samples sequence sample member).elim, UInt32.le_refl _⟩

/-- The reported value and the breaks make up the next cursor. -/
theorem AppliedSpec.effective_add_breaks (spec : AppliedSpec result after)
    (numbered : after.Numbered) :
    result.effectiveSampleSeq.toNat + after.sink.continuityBreaks = after.cursor := by
  obtain ⟨produced, counted, accounted⟩ := numbered.produced
  obtain ⟨balance, bounded⟩ := accounted spec.working
  have small := uint64Max_lt
  rw [spec.effective, counted, toNat_ofNat', Nat.mod_eq_of_lt (by omega)]
  exact balance

theorem AppliedSpec.separates_iff (spec : AppliedSpec result after) (numbered : after.Numbered) :
    (∀ more last, runSteps (Core0.step sensor) after more = some last →
      Separates result last.port.journal) ↔ after.SamplesInFront := by
  have boundary := spec.effective_add_breaks numbered
  refine ⟨fun separates sequence sample member => ?_, fun front more last runs => ?_⟩
  · -- core 1 takes the rest of the queue
    have taken : sequence < result.effectiveSampleSeq.toNat := by
      by_contra behind
      have older := spec.older sequence sample member
      have drained := separates [.consume after.port.queue.length] _ rfl sequence sample (by
        simpa [consume, stream] using member)
      exact UInt32.not_lt.mpr (drained.1 (Nat.le_of_not_lt behind)) older
    omega
  obtain ⟨-, later⟩ := runSteps_moves runs numbered
  intro sequence sample member
  have streamed := mem_append_left last.port.queue member
  rcases later.samples sequence sample streamed with there | ⟨above, revision⟩
  · have older := spec.older sequence sample there
    have inFront := front sequence sample there
    exact ⟨fun behind => by omega, fun _ => older⟩
  refine ⟨fun _ => spec.revision ▸ revision, fun inFront => ?_⟩
  change after.sink.cursor ≤ sequence at above
  rw [cursor] at boundary
  omega

/-- The boundaries that a run reports are exact precisely if, whenever it applies a configuration,
none of the last cursors, as many as there have been breaks, is that of a sample. -/
theorem boundaries_exact_iff (sensor : Accelerometer δ) (sizes : Core0Sizes)
    (engine : AcquisitionEngine δ) (config : PersistentConfig) (steps : List (Core0Step δ)) :
    (∀ result after, AppliedIn sensor (boot engine config : Core0 δ sizes) steps result after →
      ∀ more last, runSteps (Core0.step sensor) after more = some last →
        Separates result last.port.journal) ↔
      ∀ result after, AppliedIn sensor (boot engine config : Core0 δ sizes) steps result after →
        after.SamplesInFront := by
  refine forall_congr' fun result => forall_congr' fun after => forall_congr' fun applied => ?_
  obtain ⟨front, command, saves, passes, rounds, rest, before, -, runs, configured, code⟩ := applied
  have numbered := (runSteps_moves runs (boot_numbered engine config)).1
  have opened : (before.withRounds rounds).Numbered :=
    ⟨numbered.handed, numbered.marked, numbered.produced, numbered.samples, numbered.revision⟩
  obtain ⟨moved, spec⟩ := configure_moves configured
  exact (spec opened code).separates_iff (moved opened).1

/-- The time of each of its samples. -/
def batchTime : SampleDeviceTime :=
  { timingSegmentId := 1, qualityFlags := timingQualityLocked, source := .drdyTimeUs64 }

/-- A sensor that gives one batch whenever it is filled. -/
def batchSensor : Accelerometer Bool where
  nowMs _ := 0
  supportsFifo _ := true
  supportsSampleTimestamps _ := true
  supportsDataReadyInterrupt _ := false
  configure _ full := (.ok, full)
  configureFifo _ _ := (.ok, false)
  setOffset _ _ _ full := (.ok, full)
  consumeDataReadyEventSources full := (0, full)
  diagnosticSnapshot _ := {}
  refreshDiagnosticSnapshot full := full
  readStatus full := ((.ok, if full then statusFifoFullMask else 0), full)
  readFifoEntries full := ((.ok, if full then 96 else 0), full)
  readFifoBatch _ full :=
    (if full then { status := .ok, samples := replicate 32 ({}, batchTime) }
      else { status := .noData }, false)
  notifyFifoTimingDiscontinuity _ full := full
  readSample full := ((.noData, {}), full)

/-- A session of one sample, with the break that its stop publishes. -/
def recordOnce : List (Core0Step Bool) :=
  [.call (.command { operationId := 1, operation := .start }) 4 [], .sense true,
    .call .poll 4 [], .call (.command { operationId := 2, operation := .stop }) 4 [], .consume 2,
    .call .poll 4 []]

def recordTwice : List (Core0Step Bool) :=
  recordOnce ++ recordOnce ++
    [.call (.command { operationId := 3, operation := .enterMaintenance }) 4 []]

def timedNode : Core0 Bool ⟨8, 4⟩ :=
  boot { device := false, initialized := true, hasLastConfig := true } { generation := 1 }

/-- The cursors and revisions of the samples in a journal. -/
def revisionsOf (journal : List IngressEvent) : List (Nat × UInt32) :=
  journal.filterMap fun
    | .sample sequence sample => some (sequence, sample.configRevision)
    | _ => none

/-- The second sample is older than the new revision, and lies at the reported cursor. -/
theorem boundary_not_exact : ¬ ∀ result after,
    AppliedIn batchSensor timedNode
      (recordTwice ++ [.call (.configure { operationId := 4, expectedRevision := 1 } true) 4 []])
      result after →
    ∀ more last, runSteps (Core0.step batchSensor) after more = some last →
      Separates result last.port.journal := by
  intro bounded
  have ran : ((runSteps (Core0.step batchSensor) timedNode recordTwice).bind fun before =>
      (before.withRounds []).configure batchSensor { operationId := 4, expectedRevision := 1 } true
        4).map (fun applied => (applied.1.code, applied.1.effectiveSampleSeq, applied.1.revision,
          revisionsOf applied.2.port.journal)) = some (.applied, 2, 2, [(0, 1), (2, 1)]) := by
    decide +kernel
  obtain ⟨⟨result, after⟩, configured, values⟩ := Option.map_eq_some_iff.mp ran
  obtain ⟨before, runs, configured⟩ := Option.bind_eq_some_iff.mp configured
  obtain ⟨code, values⟩ := Prod.mk.inj values
  obtain ⟨effective, values⟩ := Prod.mk.inj values
  obtain ⟨revision, revisions⟩ := Prod.mk.inj values
  have member : (2, 1) ∈ revisionsOf after.port.journal := by
    rw [revisions]
    decide
  obtain ⟨event, member, found⟩ := List.mem_filterMap.mp member
  have separates := bounded result after
    ⟨recordTwice, _, _, _, _, [], before, rfl, runs, configured, code⟩ [] after rfl
  split at found
  · rename_i sequence sample
    obtain ⟨rfl, old⟩ := Prod.mk.inj (Option.some.inj found)
    have newer := (separates _ sample member).1 (by rw [effective]; decide)
    rw [revision, old] at newer
    exact absurd newer (by decide)
  · exact nomatch found

end Core0

end SensorSystem.Node
