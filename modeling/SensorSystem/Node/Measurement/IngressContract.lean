import SensorSystem.Base.Spans
import SensorSystem.Node.Measurement.JournalAppends
import SensorSystem.Node.Measurement.SampleIngress

/-! Every claimed cursor is accounted for: by what entered the queue, by a pending event, or by
the fault of the ingress. Each call of core 0 keeps that up, whatever the queue answers. -/

namespace SensorSystem.Node

open IngressEvent List SampleIngress
open Base

namespace IngressEvent

def first : IngressEvent → Nat
  | sample sequence _ => sequence
  | gap value => value.firstMissing
  | continuityBreak value => value.atSequence

/-- The cursors an event occupies, as the journal will log them. -/
def entries : IngressEvent → List Entry
  | sample _ value => [.sample value]
  | gap value => replicate value.missingCount (.gap value.reason)
  | continuityBreak value => [.continuityBreak value.reason]

def stop (event : IngressEvent) : Nat :=
  event.first + event.entries.length

/-- The journal's own checks of an event, its cursor aside. -/
def Valid : IngressEvent → Prop
  | sample sequence value => sequence < uint64Max ∧ validSampleRecord value = true
  | gap value => value.valid = true
  | continuityBreak value => value.valid = true

variable {event : IngressEvent} {log : List Entry}

theorem first_lt_stop (valid : event.Valid) : event.first < event.stop := by
  cases event with
  | sample sequence value => exact Nat.lt_succ_self sequence
  | gap value =>
    have positive := ((GapRecord.valid_iff value).mp valid).1
    simp only [stop, entries, length_replicate, first]
    omega
  | continuityBreak value => exact Nat.lt_succ_self value.atSequence

/-- The events that may follow a log. -/
def Follows (log : List Entry) (event : IngressEvent) : Prop :=
  event.first = log.length ∧ event.Valid

def extend (log : List Entry) (event : IngressEvent) : List Entry :=
  log ++ event.entries

theorem length_extend (follows : Follows log event) : (extend log event).length = event.stop := by
  rw [extend, length_append, stop, follows.1]

/-- The journal accepts an event that follows its log. -/
theorem appendTo_follows {capacity : JournalCapacity} {journal : MeasurementJournal capacity}
    (represents : Represents journal log) (follows : Follows log event) :
    (event.appendTo journal).1.1.status = .ok ∧
      Represents (event.appendTo journal).1.2 (extend log event) ∧
      (event.appendTo journal).2 ≠ .journalRejected := by
  obtain ⟨contiguous, valid⟩ := follows
  cases event with
  | sample sequence value =>
    have space : log.length < uint64Max := contiguous ▸ valid.1
    have appends := represents.appendSample_accepted contiguous space valid.2
    exact ⟨appends.status_eq, appends.represents, nofun⟩
  | gap value =>
    have appends := represents.appendGap_accepted contiguous valid
    exact ⟨appends.status_eq, appends.represents, nofun⟩
  | continuityBreak value =>
    have appends := represents.appendContinuityBreak_accepted contiguous valid
    exact ⟨appends.status_eq, appends.represents, nofun⟩

end IngressEvent

/-- Published samples are stored at their own cursors, or lie in a gap. -/
def Covers (published : List (Nat × SampleRecord)) (entries : List Entry) : Prop :=
  ∀ claim ∈ published, entries[claim.1]? = some (.sample claim.2) ∨
    ∃ reason, entries[claim.1]? = some (.gap reason)

namespace Covers

variable {published fresh : List (Nat × SampleRecord)} {entries more : List Entry}

theorem nil (entries : List Entry) : Covers [] entries := by
  simp [Covers]

theorem append (covers : Covers published entries) (added : Covers fresh entries) :
    Covers (published ++ fresh) entries := by
  intro claim member
  rcases mem_append.mp member with member | member
  · exact covers claim member
  · exact added claim member

theorem extend (covers : Covers published entries) (more : List Entry) :
    Covers published (entries ++ more) := by
  intro claim member
  rcases covers claim member with stored | ⟨reason, missing⟩
  · exact .inl (getElem?_append_left (List.getElem?_eq_some_iff.mp stored).1 ▸ stored)
  · exact .inr ⟨reason,
      getElem?_append_left (List.getElem?_eq_some_iff.mp missing).1 ▸ missing⟩

/-- A gap may grow and change its reason. -/
theorem merge {count added : Nat} {reason merged : GapReason}
    (covers : Covers published (entries ++ replicate count (.gap reason))) :
    Covers published (entries ++ replicate (count + added) (.gap merged)) := by
  intro claim member
  have before := covers claim member
  by_cases inside : claim.1 < entries.length
  · rw [getElem?_append_left inside] at before ⊢
    exact before
  rw [getElem?_append_right (Nat.le_of_not_lt inside)] at before ⊢
  have below : claim.1 - entries.length < count := by
    rcases before with stored | ⟨_, missing⟩
    · simpa using (List.getElem?_eq_some_iff.mp stored).1
    · simpa using (List.getElem?_eq_some_iff.mp missing).1
  refine .inr ⟨merged, ?_⟩
  rw [getElem?_replicate, if_pos (by omega)]

/-- Everything inside a gap is covered by it. -/
theorem of_gap {count : Nat} (reason : GapReason)
    (inside : ∀ claim ∈ fresh, entries.length ≤ claim.1 ∧ claim.1 < entries.length + count) :
    Covers fresh (entries ++ replicate count (.gap reason)) := by
  intro claim member
  obtain ⟨above, below⟩ := inside claim member
  refine .inr ⟨reason, ?_⟩
  rw [getElem?_append_right above, getElem?_replicate, if_pos (by omega)]

end Covers

/-- The cursors of the pending events. -/
def pendingEntries (pending : List IngressEvent) : List Entry :=
  pending.flatMap entries

/-- Pending events reach from the end of what entered the queue up to a cursor. -/
structure Pending (published : List (Nat × SampleRecord)) (accepted : List Entry)
    (pending : List IngressEvent) (reached : Nat) : Prop where
  tiles : Tiles first stop accepted.length reached pending
  valid : ∀ event ∈ pending, event.Valid
  covers : Covers published (accepted ++ pendingEntries pending)

theorem length_pendingEntries {start finish : Nat} {pending : List IngressEvent}
    (tiles : Tiles first stop start finish pending) :
    start + (pendingEntries pending).length = finish := by
  induction tiles with
  | nil => rfl
  | @cons event events finish _ _ ih =>
    rw [pendingEntries, flatMap_cons, length_append]
    rw [pendingEntries, stop] at ih
    omega

namespace Pending

variable {published fresh : List (Nat × SampleRecord)} {accepted : List Entry}
  {pending : List IngressEvent} {reached : Nat}
  (waiting : Pending published accepted pending reached)

include waiting

theorem length_eq : (accepted ++ pendingEntries pending).length = reached := by
  rw [length_append, length_pendingEntries waiting.tiles]

variable {event : IngressEvent}

/-- An event at the reached cursor can wait behind the others. -/
theorem push (contiguous : event.first = reached) (valid : event.Valid)
    (covers : Covers fresh (accepted ++ pendingEntries pending ++ event.entries)) :
    Pending (published ++ fresh) accepted (pending ++ [event]) event.stop where
  tiles := waiting.tiles.append (contiguous ▸ .single (first_lt_stop valid))
  valid := by
    intro other member
    rcases mem_append.mp member with member | member
    · exact waiting.valid other member
    · rw [mem_singleton] at member
      exact member ▸ valid
  covers := by
    have joined : accepted ++ pendingEntries (pending ++ [event]) =
        accepted ++ pendingEntries pending ++ event.entries := by
      simp [pendingEntries]
    rw [joined]
    exact (waiting.covers.extend event.entries).append covers

omit waiting

/-- The front event enters the queue. -/
theorem pop {rest : List IngressEvent}
    (waiting : Pending published accepted (event :: rest) reached) :
    Follows accepted event ∧
      Pending published (extend accepted event) rest reached := by
  obtain ⟨contiguous, -, tiles⟩ := Tiles.cons_iff.mp waiting.tiles
  have follows : Follows accepted event :=
    ⟨contiguous, waiting.valid event mem_cons_self⟩
  refine ⟨follows, ?_, fun other member => waiting.valid other (mem_cons_of_mem _ member), ?_⟩
  · rw [length_extend follows]
    exact tiles
  have joined : extend accepted event ++ pendingEntries rest =
      accepted ++ pendingEntries (event :: rest) := by
    simp [extend, pendingEntries]
  rw [joined]
  exact waiting.covers

/-- The last gap takes the cursors behind it. -/
theorem merge {front : List IngressEvent} {last : GapRecord} {count : Nat} {reason : GapReason}
    (waiting : Pending published accepted (front ++ [.gap last]) reached)
    (bounded : reached + count ≤ uint64Max)
    (inside : ∀ claim ∈ fresh, reached ≤ claim.1 ∧ claim.1 < reached + count) :
    Pending (published ++ fresh) accepted
      (front ++ [.gap (mergeGap last count reason)]) (reached + count) := by
  obtain ⟨middle, before, behind⟩ := waiting.tiles.split
  obtain ⟨contiguous, -, stopped⟩ := Tiles.cons_iff.mp behind
  have reaches : last.firstMissing + last.missingCount = reached := by
    have stop := Tiles.nil_iff.mp stopped
    simpa [IngressEvent.stop, first, entries] using stop
  have checked := (GapRecord.valid_iff last).mp (waiting.valid (.gap last) (by simp))
  have merged : (IngressEvent.gap (mergeGap last count reason)).Valid := by
    refine (GapRecord.valid_iff _).mpr ⟨?_, ?_, ?_⟩
    · change last.missingCount + count ≠ 0
      omega
    · change last.firstMissing + (last.missingCount + count) ≤ uint64Max
      omega
    simp only [mergeGap]
    split
    · rfl
    · exact checked.2.2
  have stops : (IngressEvent.gap (mergeGap last count reason)).stop =
      reached + count := by
    simp only [IngressEvent.stop, first, entries,
      mergeGap, length_replicate]
    omega
  have joined (gap : GapRecord) : accepted ++ pendingEntries (front ++ [.gap gap]) =
      accepted ++ pendingEntries front ++ replicate gap.missingCount (.gap gap.reason) := by
    simp [pendingEntries, entries]
  have start : (accepted ++ pendingEntries front).length = last.firstMissing := by
    rw [length_append, length_pendingEntries before]
    exact contiguous.symm
  refine ⟨?_, ?_, ?_⟩
  · rw [← stops]
    exact before.append (contiguous ▸ .single (first_lt_stop merged))
  · intro other member
    rcases mem_append.mp member with member | member
    · exact waiting.valid other (mem_append_left _ member)
    · rw [mem_singleton] at member
      exact member ▸ merged
  have covers := waiting.covers
  rw [joined] at covers ⊢
  refine covers.merge.append (.of_gap _ fun claim member => ?_)
  obtain ⟨above, below⟩ := inside claim member
  omega

end Pending

/-- What holds of the ingress between two calls. -/
structure Settled {pendingCapacity : Nat} (published : List (Nat × SampleRecord))
    (ingress : SampleIngress pendingCapacity) (accepted : List Entry) : Prop where
  fits : ingress.pending.length ≤ pendingCapacity
  accounted : ingress.faulted = false →
    ingress.sequencer.next ≤ uint64Max ∧
      Pending published accepted ingress.pending ingress.sequencer.next

/-- What holds inside a call: the claimed cursors start behind the pending events. -/
structure Claimed {pendingCapacity : Nat} (published : List (Nat × SampleRecord))
    (ingress : SampleIngress pendingCapacity) (accepted : List Entry) (first : Nat) : Prop where
  fits : ingress.pending.length ≤ pendingCapacity
  running : ingress.faulted = false
  bounded : ingress.sequencer.next ≤ uint64Max
  waiting : Pending published accepted ingress.pending first

section Calls

variable {pendingCapacity : Nat} {published fresh : List (Nat × SampleRecord)}
  {ingress : SampleIngress pendingCapacity} {accepted : List Entry} {first : Nat}

theorem settled_of_faulted (fits : ingress.pending.length ≤ pendingCapacity)
    (faulted : ingress.faulted = true) : Settled published ingress accepted :=
  ⟨fits, fun running => absurd faulted (by simp [running])⟩

variable {event : IngressEvent} (claimed : Claimed published ingress accepted first)

include claimed

/-- An event of the claimed cursors waits, or the ingress faults. -/
theorem Claimed.bufferEvent (contiguous : event.first = first)
    (stops : event.stop = ingress.sequencer.next) (valid : event.Valid)
    (covers : Covers fresh (accepted ++ pendingEntries ingress.pending ++ event.entries)) :
    Settled (published ++ fresh) (ingress.bufferEvent event).2 accepted := by
  rw [SampleIngress.bufferEvent]
  split
  · exact settled_of_faulted claimed.fits rfl
  rename_i room
  refine ⟨?_, fun _ => ⟨claimed.bounded, ?_⟩⟩
  · have fits := claimed.fits
    simp only [length_append, length_singleton]
    omega
  · have pushed := claimed.waiting.push contiguous valid covers
    rwa [stops] at pushed

theorem Claimed.accountMissing {count : Nat} {reason : GapReason} (positive : 0 < count)
    (known : reason.isKnown = true) (stops : first + count = ingress.sequencer.next)
    (inside : ∀ claim ∈ fresh, first ≤ claim.1 ∧ claim.1 < first + count) :
    Settled (published ++ fresh) (ingress.accountMissing first count reason).2 accepted := by
  have bounded := claimed.bounded
  have fits := claimed.fits
  have waiting := claimed.waiting
  rw [SampleIngress.accountMissing]
  split
  · rename_i last found
    obtain ⟨front, shape⟩ : ∃ front, ingress.pending = front ++ [.gap last] :=
      getLast?_eq_some_iff.mp found
    split
    · exact settled_of_faulted fits rfl
    rw [shape] at waiting fits
    refine ⟨?_, fun _ => ⟨bounded, ?_⟩⟩
    · simp only [shape, dropLast_concat]
      simpa using fits
    · simp only [shape, dropLast_concat]
      rw [← stops]
      exact waiting.merge (by omega) inside
  · have valid : (gap ⟨first, count, reason⟩).Valid :=
      (GapRecord.valid_iff _).mpr
        ⟨Nat.ne_of_gt positive, show first + count ≤ uint64Max by omega, known⟩
    have covers : Covers fresh (accepted ++ pendingEntries ingress.pending ++
        (gap ⟨first, count, reason⟩).entries) := by
      refine .of_gap reason fun claim member => ?_
      rw [waiting.length_eq]
      exact inside claim member
    have stopped : (gap ⟨first, count, reason⟩).stop = ingress.sequencer.next := by
      rw [← stops]
      simp [stop, IngressEvent.first, entries]
    have buffered := claimed.bufferEvent rfl stopped valid covers
    generalize ingress.bufferEvent (.gap ⟨first, count, reason⟩) = result at buffered
    obtain ⟨done, after⟩ := result
    cases done with
    | false => exact buffered
    | true => exact ⟨buffered.fits, buffered.accounted⟩

omit claimed

/-- Programs that only offer events that follow what was accepted before. -/
abbrev Publishes {α : Type} (program : Offers IngressEvent α) (accepted : List Entry)
    (post : α → List Entry → Prop) : Prop :=
  program.Keeps Follows extend post accepted

theorem flushLoop_publishes (events : List IngressEvent) (same : ingress.pending = events)
    (claimed : Claimed published ingress accepted first) :
    Publishes (ingress.flushLoop events) accepted fun result accepted =>
      Claimed published result.2 accepted first ∧
        result.2.sequencer = ingress.sequencer ∧ (result.1 = true → result.2.pending = []) := by
  induction events generalizing ingress accepted with
  | nil => exact ⟨claimed, rfl, fun _ => same⟩
  | cons event rest ih =>
    have fits := claimed.fits
    have waiting := claimed.waiting
    rw [same] at fits waiting
    obtain ⟨follows, popped⟩ := waiting.pop
    refine Offers.keeps_bind (Offers.keeps_try follows ?_ ⟨claimed, rfl, nofun⟩)
    change Publishes (flushLoop { ingress with
      pending := rest
      counters := ingress.counters.flushed event } rest) _ _
    exact ih rfl ⟨Nat.le_of_succ_le fits, claimed.running, claimed.bounded, popped⟩

theorem flushPending_publishes (settled : Settled published ingress accepted) :
    Publishes ingress.flushPending accepted fun result accepted =>
      Settled published result.2 accepted := by
  rw [flushPending]
  split
  · exact settled
  rename_i running
  have running : ingress.faulted = false := by simpa using running
  obtain ⟨bounded, waiting⟩ := settled.accounted running
  refine (flushLoop_publishes ingress.pending rfl
    ⟨settled.fits, running, bounded, waiting⟩).mono ?_
  rintro ⟨done, after⟩ accepted ⟨claimed, same, -⟩
  exact ⟨claimed.fits, fun _ => ⟨claimed.bounded, same ▸ claimed.waiting⟩⟩

include claimed

theorem Claimed.flushFirst : Publishes ingress.flushFirst accepted fun result accepted =>
      Claimed published result.2 accepted first ∧
        result.2.sequencer = ingress.sequencer ∧ (result.1 = true → result.2.pending = []) := by
  rw [SampleIngress.flushFirst]
  split
  · rw [flushPending, if_neg (by simp [claimed.running])]
    exact flushLoop_publishes ingress.pending rfl claimed
  rename_i empty
  exact ⟨claimed, rfl, fun _ => not_not.mp empty⟩

/-- Sending an event of the claimed cursors settles the call. -/
theorem Claimed.send
    {otherwise : SampleIngress pendingCapacity → PublishStatus × SampleIngress pendingCapacity}
    (contiguous : event.first = first) (stops : event.stop = ingress.sequencer.next)
    (valid : event.Valid) (fresh_eq : ∀ claim ∈ fresh, event = .sample claim.1 claim.2)
    (settles : ∀ (after : SampleIngress pendingCapacity) accepted,
      Claimed published after accepted first → after.sequencer = ingress.sequencer →
        Settled (published ++ fresh) (otherwise after).2 accepted) :
    Publishes (ingress.send event otherwise) accepted fun result accepted =>
      Settled (published ++ fresh) result.2 accepted := by
  refine Offers.keeps_bind (claimed.flushFirst.mono ?_)
  rintro ⟨ready, after⟩ accepted ⟨claimed, same, empty⟩
  cases ready with
  | false => exact settles after accepted claimed same
  | true =>
    have nothing : after.pending = [] := empty rfl
    have waiting := claimed.waiting
    rw [nothing] at waiting
    have reached : accepted.length = first := Tiles.nil_iff.mp waiting.tiles
    have follows : Follows accepted event := ⟨contiguous.trans reached.symm, valid⟩
    refine Offers.keeps_bind (Offers.keeps_try follows ?_ ?_)
    · refine ⟨claimed.fits, fun _ => ⟨claimed.bounded, ?_⟩⟩
      rw [nothing, same, ← stops]
      refine ⟨?_, nofun, ?_⟩
      · rw [length_extend follows]
        exact .nil _
      have covers := waiting.covers
      simp only [pendingEntries, flatMap_nil, append_nil] at covers ⊢
      refine (covers.extend event.entries).append ?_
      intro claim member
      have sampled := fresh_eq claim member
      subst sampled
      refine .inl ?_
      have here : claim.1 = accepted.length := follows.1
      rw [here]
      exact getElem?_concat_length
    · exact settles _ accepted ⟨claimed.fits, claimed.running, claimed.bounded, claimed.waiting⟩
        same

omit claimed

/-- A claim is refused, or moves the cursor. -/
theorem SourceSequencer.claim_cases (sequencer : SourceSequencer) (count : Nat) :
    (∃ status, status ≠ .ok ∧
        sequencer.claim count = (⟨status, sequencer.next, 0⟩, sequencer)) ∨
      0 < count ∧ sequencer.next + count ≤ uint64Max ∧
        sequencer.claim count = (⟨.ok, sequencer.next, count⟩, ⟨sequencer.next + count⟩) := by
  rw [SourceSequencer.claim]
  split
  · exact .inl ⟨.invalidCount, nofun, rfl⟩
  rename_i positive
  split
  · exact .inl ⟨.exhausted, nofun, rfl⟩
  rename_i bounded
  exact .inr ⟨Nat.pos_of_ne_zero positive, Nat.le_of_not_lt bounded, rfl⟩

/-- The sample a call gives a cursor, if it does. -/
def SampleIngress.samplesClaimed (ingress : SampleIngress pendingCapacity)
    (sample : SampleRecord) : List (Nat × SampleRecord) :=
  if ingress.faulted = false ∧ ingress.sequencer.claimSample.1.status = .ok then
    [(ingress.sequencer.next, sample)]
  else []

variable (settled : Settled published ingress accepted)

include settled

/-- A settled ingress that runs opens a call with a claim. -/
theorem Settled.claim (running : ingress.faulted = false) {count : Nat}
    (bounded : ingress.sequencer.next + count ≤ uint64Max) :
    Claimed published ({ ingress with sequencer := ⟨ingress.sequencer.next + count⟩ } :
      SampleIngress pendingCapacity) accepted ingress.sequencer.next :=
  ⟨settled.fits, running, bounded, (settled.accounted running).2⟩

theorem publishSample_publishes (sample : SampleRecord) :
    Publishes (ingress.publishSample sample) accepted fun result accepted =>
      Settled (published ++ ingress.samplesClaimed sample) result.2 accepted := by
  rw [publishSample, samplesClaimed]
  split
  · rename_i faulted
    rw [if_neg (by simp [faulted]), append_nil]
    exact settled
  rename_i running
  have running : ingress.faulted = false := by simpa using running
  rw [SourceSequencer.claimSample]
  rcases ingress.sequencer.claim_cases 1 with ⟨status, failed, result⟩ | ⟨-, bounded, result⟩
  · rw [result, if_neg (by simp [failed]), append_nil]
    simp only [if_pos failed]
    exact settled
  have claimed := settled.claim running bounded
  rw [result, if_pos ⟨running, rfl⟩]
  simp only [ne_eq, not_true_eq_false, if_false]
  split
  · refine claimed.accountMissing (by decide) rfl rfl fun claim member => ?_
    rw [mem_singleton] at member
    subst member
    exact ⟨Nat.le_refl _, Nat.lt_succ_self _⟩
  rename_i valid
  refine claimed.send rfl rfl ⟨bounded, by simpa using valid⟩ ?_ ?_
  · intro claim member
    rw [mem_singleton] at member
    subst member
    rfl
  intro after accepted claimed same
  refine claimed.accountMissing (by decide) rfl (by rw [same]) fun claim member => ?_
  rw [mem_singleton] at member
  subst member
  exact ⟨Nat.le_refl _, Nat.lt_succ_self _⟩

theorem publishGap_publishes (count : Nat) (reason : GapReason) :
    Publishes (ingress.publishGap count reason) accepted fun result accepted =>
      Settled published result.2 accepted := by
  rw [publishGap]
  split
  · exact settled
  rename_i running
  have running : ingress.faulted = false := by simpa using running
  rw [SourceSequencer.claimGap]
  by_cases known : reason.isKnown = true
  · simp only [known, Bool.not_true, Bool.false_eq_true, if_false]
    rcases ingress.sequencer.claim_cases count with
      ⟨status, failed, result⟩ | ⟨positive, bounded, result⟩
    · simp only [result, if_pos failed]
      split
      · exact settled
      · exact settled
    have claimed := settled.claim running bounded
    simp only [result, reduceCtorEq, or_self, if_false, if_true, ne_eq, not_true_eq_false]
    have valid : (gap ⟨ingress.sequencer.next, count, reason⟩).Valid :=
      (GapRecord.valid_iff _).mpr ⟨Nat.ne_of_gt positive, bounded, known⟩
    have stops : (gap ⟨ingress.sequencer.next, count, reason⟩).stop =
        ingress.sequencer.next + count := by
      simp [stop, first, entries]
    rw [← append_nil published]
    refine claimed.send rfl stops valid nofun fun after accepted claimed same => ?_
    exact claimed.accountMissing positive known (by rw [same]) nofun
  · simp only [known]
    exact settled

theorem publishContinuityBreak_publishes (reason : ContinuityBreakReason) :
    Publishes (ingress.publishContinuityBreak reason) accepted fun result accepted =>
      Settled published result.2 accepted := by
  rw [publishContinuityBreak]
  split
  · exact settled
  rename_i running
  have running : ingress.faulted = false := by simpa using running
  rw [SourceSequencer.claimContinuityBreak]
  by_cases known : reason.isKnown = true
  · simp only [known, Bool.not_true, Bool.false_eq_true, if_false]
    rcases ingress.sequencer.claim_cases 1 with ⟨status, failed, result⟩ | ⟨-, bounded, result⟩
    · simp only [result, if_pos failed]
      split
      · exact settled
      · exact settled
    have claimed := settled.claim running bounded
    simp only [result, reduceCtorEq, if_false, if_true, ne_eq, not_true_eq_false]
    have below : ingress.sequencer.next ≠ uint64Max := Nat.ne_of_lt bounded
    have valid : (continuityBreak ⟨ingress.sequencer.next, reason⟩).Valid := by
      simp [Valid, ContinuityBreakRecord.valid, below, known]
    rw [← append_nil published]
    refine claimed.send rfl rfl valid (by rintro _ ⟨⟩) fun after accepted claimed same => ?_
    exact claimed.bufferEvent rfl (by rw [same]; rfl) valid (.nil _)
  · simp only [known]
    exact settled

omit settled

end Calls

end SensorSystem.Node
