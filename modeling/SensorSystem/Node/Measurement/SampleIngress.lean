import SensorSystem.Base.Offers
import SensorSystem.Node.Measurement.Journal
import SensorSystem.Node.Runtime.SpscQueue

/-! `source_sequencer.h` and `sample_ingress.h`: core 0 gives every event its cursors and offers
it to the queue, core 1 moves queued events into the journal. A call of core 0 is a program of
offers, since core 1 may take events between two of them. Losses that find the queue full wait as
pending events, in front of everything later. -/

namespace SensorSystem.Node

open Base

inductive SequenceClaimStatus where
  | ok
  | invalidCount
  | invalidReason
  | exhausted
deriving DecidableEq

structure SequenceClaim where
  status : SequenceClaimStatus := .exhausted
  first : Nat := 0
  count : Nat := 0

structure SourceSequencer where
  next : Nat := 0

namespace SourceSequencer

variable (sequencer : SourceSequencer)

/-- The source compares `next > UINT64_MAX - count`. -/
def claim (count : Nat) : SequenceClaim × SourceSequencer :=
  if count = 0 then (⟨.invalidCount, sequencer.next, 0⟩, sequencer)
  else if sequencer.next + count > uint64Max then (⟨.exhausted, sequencer.next, 0⟩, sequencer)
  else (⟨.ok, sequencer.next, count⟩, ⟨sequencer.next + count⟩)

def claimSample : SequenceClaim × SourceSequencer :=
  sequencer.claim 1

/-- The claim and the record it is written to. -/
def claimGap (count : Nat) (reason : GapReason) : SequenceClaim × GapRecord × SourceSequencer :=
  if !reason.isKnown then (⟨.invalidReason, sequencer.next, 0⟩, {}, sequencer)
  else
    let (result, sequencer) := sequencer.claim count
    (result, if result.status = .ok then ⟨result.first, result.count, reason⟩ else {}, sequencer)

def claimContinuityBreak (reason : ContinuityBreakReason) :
    SequenceClaim × ContinuityBreakRecord × SourceSequencer :=
  if !reason.isKnown then (⟨.invalidReason, sequencer.next, 0⟩, {}, sequencer)
  else
    let (result, sequencer) := sequencer.claim 1
    (result, if result.status = .ok then ⟨result.first, reason⟩ else {}, sequencer)

end SourceSequencer

inductive IngressEvent where
  | sample (sequence : Nat) (value : SampleRecord)
  | gap (value : GapRecord)
  | continuityBreak (value : ContinuityBreakRecord)

instance : Inhabited IngressEvent := ⟨.sample 0 default⟩

inductive PublishStatus where
  | queued
  | accountedAsGap
  | bufferedContinuityBreak
  | sequenceExhausted
  | invalidGap
  | invalidContinuityBreak
  | internalError
deriving DecidableEq

structure IngressCounters where
  queuedSamples : Nat := 0
  queuedGaps : Nat := 0
  queuedContinuityBreaks : Nat := 0
  sequencesAccountedAsGap : Nat := 0
  queueFullEvents : Nat := 0
  mixedReasonMerges : Nat := 0
  pendingOverflowFaults : Nat := 0

def saturatingAdd (value increment : Nat) : Nat :=
  if value + increment > uint64Max then uint64Max else value + increment

def saturatingIncrement (value : Nat) : Nat :=
  if value ≠ uint64Max then value + 1 else value

namespace IngressCounters

variable (counters : IngressCounters)

/-- Count an event that entered the queue. -/
def queued : IngressEvent → IngressCounters
  | .sample _ _ => { counters with queuedSamples := saturatingIncrement counters.queuedSamples }
  | .gap _ => { counters with queuedGaps := saturatingIncrement counters.queuedGaps }
  | .continuityBreak _ => { counters with
      queuedContinuityBreaks := saturatingIncrement counters.queuedContinuityBreaks }

/-- Count a pending event that entered the queue. No sample ever waits there. -/
def flushed : IngressEvent → IngressCounters
  | .sample _ _ => counters
  | event => counters.queued event

def accounted (count : Nat) : IngressCounters :=
  { counters with
    sequencesAccountedAsGap := saturatingAdd counters.sequencesAccountedAsGap count }

def queueFull : IngressCounters :=
  { counters with queueFullEvents := saturatingIncrement counters.queueFullEvents }

def mixed : IngressCounters :=
  { counters with mixedReasonMerges := saturatingIncrement counters.mixedReasonMerges }

def pendingOverflowed : IngressCounters :=
  { counters with pendingOverflowFaults := saturatingIncrement counters.pendingOverflowFaults }

end IngressCounters

structure SampleIngress (pendingCapacity : Nat) where
  sequencer : SourceSequencer := {}
  pending : List IngressEvent := []
  counters : IngressCounters := {}
  faulted : Bool := false

namespace SampleIngress

variable {pendingCapacity : Nat} (ingress : SampleIngress pendingCapacity) (event : IngressEvent)

def bufferEvent : Bool × SampleIngress pendingCapacity :=
  if ingress.pending.length = pendingCapacity then
    (false, { ingress with
      counters := ingress.counters.pendingOverflowed
      faulted := true })
  else (true, { ingress with pending := ingress.pending ++ [event] })

/-- A pending gap extended by an adjacent loss; two reasons become unknown. -/
def mergeGap (last : GapRecord) (count : Nat) (reason : GapReason) : GapRecord :=
  { last with
    missingCount := last.missingCount + count
    reason := if last.reason ≠ reason then .unknownDiscontinuity else last.reason }

def accountMissing (first count : Nat) (reason : GapReason) :
    Bool × SampleIngress pendingCapacity :=
  let accounted (ingress : SampleIngress pendingCapacity) : SampleIngress pendingCapacity :=
    { ingress with counters := ingress.counters.accounted count }
  match ingress.pending.getLast? with
  | some (.gap last) =>
    if last.endSequence ≠ first ∨ last.missingCount + count > uint64Max then
      (false, { ingress with faulted := true })
    else
      let mixed := last.reason ≠ reason ∧ last.reason ≠ .unknownDiscontinuity
      (true, accounted { ingress with
        pending := ingress.pending.dropLast ++ [.gap (mergeGap last count reason)]
        counters := if mixed then ingress.counters.mixed else ingress.counters })
  | _ =>
    match ingress.bufferEvent (.gap ⟨first, count, reason⟩) with
    | (false, ingress) => (false, ingress)
    | (true, ingress) => (true, accounted ingress)

/-- The loop of `flush_pending` over the events still pending. -/
def flushLoop (ingress : SampleIngress pendingCapacity) :
    List IngressEvent → Offers IngressEvent (Bool × SampleIngress pendingCapacity)
  | [] => pure (true, ingress)
  | event :: rest => do
    if ← Offers.try_ event then
      flushLoop { ingress with
        pending := rest
        counters := ingress.counters.flushed event } rest
    else pure (false, ingress)

def flushPending : Offers IngressEvent (Bool × SampleIngress pendingCapacity) :=
  if ingress.faulted then pure (false, ingress) else ingress.flushLoop ingress.pending

/-- `pending_size_ != 0 && !flush_pending()`, whose failure is `false`. -/
def flushFirst : Offers IngressEvent (Bool × SampleIngress pendingCapacity) :=
  if ingress.pending ≠ [] then ingress.flushPending else pure (true, ingress)

/-- Pending events go first; one that cannot be queued is accounted some other way. -/
def send
    (otherwise : SampleIngress pendingCapacity → PublishStatus × SampleIngress pendingCapacity) :
    Offers IngressEvent (PublishStatus × SampleIngress pendingCapacity) := do
  let (ready, ingress) ← ingress.flushFirst
  if !ready then pure (otherwise ingress)
  else if ← Offers.try_ event then
    pure (.queued, { ingress with counters := ingress.counters.queued event })
  else
    pure (otherwise { ingress with counters := ingress.counters.queueFull })

/-- Account cursors as missing, and say so. -/
def accountAsGap (first count : Nat) (reason : GapReason)
    (ingress : SampleIngress pendingCapacity) : PublishStatus × SampleIngress pendingCapacity :=
  let (accounted, ingress) := ingress.accountMissing first count reason
  (if accounted then .accountedAsGap else .internalError, ingress)

def bufferBreak (ingress : SampleIngress pendingCapacity) :
    PublishStatus × SampleIngress pendingCapacity :=
  let (buffered, ingress) := ingress.bufferEvent event
  (if buffered then .bufferedContinuityBreak else .internalError, ingress)

def publishSample (sample : SampleRecord) :
    Offers IngressEvent (PublishStatus × SampleIngress pendingCapacity) :=
  if ingress.faulted then pure (.internalError, ingress)
  else
    let (claim, sequencer) := ingress.sequencer.claimSample
    let ingress := { ingress with sequencer }
    if claim.status ≠ .ok then pure (.sequenceExhausted, ingress)
    else if !validSampleRecord sample then pure (ingress.accountAsGap claim.first 1 .sourceLoss)
    else ingress.send (.sample claim.first sample) (accountAsGap claim.first 1 .ingressOverflow)

def publishGap (count : Nat) (reason : GapReason) :
    Offers IngressEvent (PublishStatus × SampleIngress pendingCapacity) :=
  if ingress.faulted then pure (.internalError, ingress)
  else
    let (claim, claimed, sequencer) := ingress.sequencer.claimGap count reason
    let ingress := { ingress with sequencer }
    if claim.status = .invalidCount ∨ claim.status = .invalidReason then
      pure (.invalidGap, ingress)
    else if claim.status ≠ .ok then pure (.sequenceExhausted, ingress)
    else ingress.send (.gap claimed)
      (accountAsGap claimed.firstMissing claimed.missingCount reason)

def publishContinuityBreak (reason : ContinuityBreakReason) :
    Offers IngressEvent (PublishStatus × SampleIngress pendingCapacity) :=
  if ingress.faulted then pure (.internalError, ingress)
  else
    let (claim, claimed, sequencer) := ingress.sequencer.claimContinuityBreak reason
    let ingress := { ingress with sequencer }
    if claim.status = .invalidReason then pure (.invalidContinuityBreak, ingress)
    else if claim.status ≠ .ok then pure (.sequenceExhausted, ingress)
    else ingress.send (.continuityBreak claimed) (bufferBreak (.continuityBreak claimed))

end SampleIngress

inductive ConsumeIngressStatus where
  | empty
  | sampleAppended
  | gapAppended
  | continuityBreakAppended
  | journalRejected

variable {capacity : JournalCapacity} {queueCapacity : QueueCapacity}

/-- Append an event to the journal and say what a success is called. -/
def IngressEvent.appendTo (journal : MeasurementJournal capacity) : IngressEvent →
    (StreamAppendResult × MeasurementJournal capacity) × ConsumeIngressStatus
  | sample sequence value => (journal.appendSample sequence value, .sampleAppended)
  | gap value => (journal.appendGap value, .gapAppended)
  | continuityBreak value => (journal.appendContinuityBreak value, .continuityBreakAppended)

def consumeIngressOnce (queue : SpscQueue IngressEvent queueCapacity)
    (journal : MeasurementJournal capacity) :
    ConsumeIngressStatus × SpscQueue IngressEvent queueCapacity × MeasurementJournal capacity :=
  match queue.tryFront with
  | none => (.empty, queue, journal)
  | some event =>
    let ((appended, journal), success) := event.appendTo journal
    if appended.status ≠ .ok then (.journalRejected, queue, journal)
    else
      let (popped, queue) := queue.popFront
      (if popped then success else .journalRejected, queue, journal)

end SensorSystem.Node
