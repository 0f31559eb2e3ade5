import SensorSystem.Node.Measurement.Ledgers

/-! `measurement_journal.h`: one logical cursor space over a compact sample ring and two bounded
ledgers of exceptions. Sizes and ring indices are natural numbers; a sample ring that fits in
memory is far smaller than `size_t`. Loops of the source over the ledgers carry a round bound,
which `JournalLoops` shows to be large enough. -/

namespace SensorSystem.Node

open Base

/-- The template arguments of a journal with its static assertions. -/
structure JournalCapacity where
  samples : Nat
  gaps : Nat
  breaks : Nat
  samplesPositive : 0 < samples
  gapsPositive : 0 < gaps
  breaksPositive : 0 < breaks

def fourSamples : JournalCapacity := ⟨4, 2, 2, by decide, by decide, by decide⟩

structure MeasurementJournal (capacity : JournalCapacity) where
  samples : Ring SampleRecord capacity.samples
  gaps : GapLedger capacity.gaps
  continuity : ContinuityLedger capacity.breaks
  retainedFrom : Nat := 0
  produced : Nat := 0
  delivered : Nat := 0
  released : Nat := 0
  discardedSamples : Nat := 0
  discardedSequences : Nat := 0
  retentionCollapses : Nat := 0
  preparedValid : Bool := false
  preparedThrough : Nat := 0

inductive StreamAppendStatus where
  | ok
  | invalidSample
  | invalidGap
  | invalidContinuityBreak
  | nonContiguous
  | sequenceExhausted
  | internalError
deriving DecidableEq

structure StreamAppendResult where
  status : StreamAppendStatus
  firstSequence : Nat
  endSequence : Nat
  retentionCollapsed : Bool := false

inductive StreamReadStatus where
  | samples
  | gap
  | continuityBreak
  | noData
  | rangeUnavailable
  | aheadOfProduced
  | invalidLimit
  | internalError

/-- A prepared read. The two spans are the physical runs the read points at. -/
structure MeasurementReadView where
  status : StreamReadStatus
  firstSequence : Nat
  endSequence : Nat
  retainedFrom : Nat
  produced : Nat
  first : List SampleRecord := []
  second : List SampleRecord := []
  gap : GapRecord := {}
  continuityBreak : ContinuityBreakRecord := {}

def MeasurementReadView.sampleCount (view : MeasurementReadView) : Nat :=
  view.first.length + view.second.length

inductive StreamDeliveryStatus where
  | ok
  | beyondPreparedRange
deriving DecidableEq

inductive StreamReleaseStatus where
  | ok
  | beyondDeliveredRange
deriving DecidableEq

/-- The observable summary returned by `state()`. -/
structure MeasurementJournalState where
  retainedFrom : Nat
  produced : Nat
  delivered : Nat
  released : Nat
  discardedSamples : Nat
  discardedSequences : Nat
  retentionCollapses : Nat
  storedSamples : Nat
  capacitySamples : Nat
  storedGaps : Nat
  capacityGaps : Nat
  storedContinuityBreaks : Nat
  capacityContinuityBreaks : Nat

/-- The gap loop of `samples_between`: missing cursors in `[cursor, stop)`. -/
def missingLoop (gaps : List GapRecord) (stop : Nat) : Nat → Nat → Nat → Nat
  | 0, _, missing => missing
  | rounds + 1, cursor, missing =>
    if cursor < stop then
      match GapLedger.nextIn gaps cursor with
      | none => missing
      | some next =>
        if next.firstMissing ≥ stop then missing
        else
          let gapBegin := if next.firstMissing > cursor then next.firstMissing else cursor
          let gapEnd := if next.endSequence < stop then next.endSequence else stop
          missingLoop gaps stop rounds next.endSequence
            (if gapEnd > gapBegin then missing + (gapEnd - gapBegin) else missing)
    else missing

/-- The break loop of `samples_between`: breaks in `[cursor, stop)`. -/
def breaksLoop (breaks : List ContinuityBreakRecord) (stop : Nat) : Nat → Nat → Nat → Nat
  | 0, _, count => count
  | rounds + 1, cursor, count =>
    if cursor < stop then
      match ContinuityLedger.nextIn breaks cursor with
      | none => count
      | some next =>
        if next.atSequence ≥ stop then count
        else breaksLoop breaks stop rounds next.endSequence (count + 1)
    else count

/-- The loop of `first_sample_sequence`; `uint64Max` when there is no sample. -/
def firstSampleLoop (gaps : List GapRecord) (breaks : List ContinuityBreakRecord)
    (produced : Nat) : Nat → Nat → Nat
  | 0, _ => uint64Max
  | rounds + 1, cursor =>
    if cursor < produced then
      match GapLedger.containingIn gaps cursor with
      | some gap => firstSampleLoop gaps breaks produced rounds gap.endSequence
      | none =>
        match ContinuityLedger.containingIn breaks cursor with
        | some mark => firstSampleLoop gaps breaks produced rounds mark.endSequence
        | none => cursor
    else uint64Max

/-- The loop of `prepare_read` that stops at a change of revision or segment. -/
def boundedCountLoop (sampleAt : Nat → SampleRecord) (boundary : SampleRecord) : Nat → Nat → Nat
  | 0, bounded => bounded
  | remaining + 1, bounded =>
    if (sampleAt bounded).configRevision != boundary.configRevision ||
        (sampleAt bounded).timingSegmentId != boundary.timingSegmentId then bounded
    else boundedCountLoop sampleAt boundary remaining (bounded + 1)

namespace MeasurementJournal

variable {capacity : JournalCapacity}

/-- A freshly constructed journal. -/
def initial (capacity : JournalCapacity) : MeasurementJournal capacity where
  samples := Ring.empty capacity.samplesPositive default
  gaps := GapLedger.empty capacity.gapsPositive
  continuity := ContinuityLedger.empty capacity.breaksPositive

variable (journal : MeasurementJournal capacity)

def state : MeasurementJournalState where
  retainedFrom := journal.retainedFrom
  produced := journal.produced
  delivered := journal.delivered
  released := journal.released
  discardedSamples := journal.discardedSamples
  discardedSequences := journal.discardedSequences
  retentionCollapses := journal.retentionCollapses
  storedSamples := journal.samples.size
  capacitySamples := capacity.samples
  storedGaps := journal.gaps.size
  capacityGaps := capacity.gaps
  storedContinuityBreaks := journal.continuity.size
  capacityContinuityBreaks := capacity.breaks

variable (cursor : Nat)

def prepareThrough : MeasurementJournal capacity :=
  { journal with preparedValid := true, preparedThrough := cursor }

def invalidatePreparedView : MeasurementJournal capacity :=
  { journal with preparedValid := false, preparedThrough := 0 }

/-- The number of stored samples with a cursor in `[start, stop)`. -/
def samplesBetween (start stop : Nat) : Nat :=
  if stop ≤ start then 0
  else
    let missing := missingLoop journal.gaps.toList stop (journal.gaps.size + 1) start 0
    let breaks := breaksLoop journal.continuity.toList stop (journal.continuity.size + 1) start 0
    (stop - start) - missing - breaks

/-- The cursor of the oldest stored sample, or `uint64Max`. -/
def firstSampleSequence : Nat :=
  firstSampleLoop journal.gaps.toList journal.continuity.toList journal.produced
    (journal.gaps.size + journal.continuity.size + 1) journal.retainedFrom

/-- Forget everything before a cursor; `none` is the source's `false`. -/
def discardRetentionBefore (isLoss : Bool) : Option (MeasurementJournal capacity) :=
  if cursor < journal.retainedFrom ∨ cursor > journal.produced then none
  else
    let remove := journal.samplesBetween journal.retainedFrom cursor
    if remove > journal.samples.size then none
    else
      let kept := { journal with
        samples := journal.samples.advance remove
        gaps := journal.gaps.discardBefore cursor
        continuity := journal.continuity.discardBefore cursor
        retainedFrom := cursor }
      some (if isLoss then
        { kept with
          discardedSamples := journal.discardedSamples + remove
          discardedSequences := journal.discardedSequences + (cursor - journal.retainedFrom)
          retentionCollapses := journal.retentionCollapses + 1 }
      else kept)

/-- The common tail of `append_sample` once there is room. -/
def storeSample (sequence : Nat) (sample : SampleRecord) (collapsed : Bool) :
    StreamAppendResult × MeasurementJournal capacity :=
  let stored := { journal with
    samples := journal.samples.push sample
    produced := journal.produced + 1 }
  (⟨.ok, sequence, stored.produced, collapsed⟩, stored)

def appendSample (sequence : Nat) (sample : SampleRecord) :
    StreamAppendResult × MeasurementJournal capacity :=
  if sequence ≠ journal.produced then (⟨.nonContiguous, sequence, sequence, false⟩, journal)
  else if journal.produced = uint64Max then
    (⟨.sequenceExhausted, sequence, sequence, false⟩, journal)
  else if !validSampleRecord sample then (⟨.invalidSample, sequence, sequence, false⟩, journal)
  else
    let journal := journal.invalidatePreparedView
    if journal.samples.size = capacity.samples then
      let oldest := journal.firstSampleSequence
      if oldest = uint64Max then (⟨.internalError, sequence, sequence, false⟩, journal)
      else
        match journal.discardRetentionBefore (oldest + 1) true with
        | none => (⟨.internalError, sequence, sequence, false⟩, journal)
        | some collapsed => collapsed.storeSample sequence sample true
    else journal.storeSample sequence sample false

/-- The common tail of `append_gap` after the ledger took or refused the gap. -/
def storeGap (gap : GapRecord) (collapsed : Bool) : GapAppendStatus × GapLedger capacity.gaps →
      StreamAppendResult × MeasurementJournal capacity
  | (status, gaps) =>
    if status = .ok ∨ status = .coalesced then
      (⟨.ok, gap.firstMissing, gap.endSequence, collapsed⟩,
        { journal with gaps := gaps, produced := gap.endSequence })
    else
      let status := match status with
        | .invalidGap => StreamAppendStatus.invalidGap
        | .outOfOrder => .nonContiguous
        | _ => .internalError
      (⟨status, gap.firstMissing, gap.firstMissing, collapsed⟩, { journal with gaps := gaps })

def appendGap (gap : GapRecord) : StreamAppendResult × MeasurementJournal capacity :=
  if !gap.valid then (⟨.invalidGap, gap.firstMissing, gap.firstMissing, false⟩, journal)
  else if gap.firstMissing ≠ journal.produced then
    (⟨.nonContiguous, gap.firstMissing, gap.firstMissing, false⟩, journal)
  else
    let journal := journal.invalidatePreparedView
    let attempt := journal.gaps.append gap
    if attempt.1 = .full then
      match journal.gaps.oldest with
      | none => (⟨.internalError, gap.firstMissing, gap.firstMissing, false⟩, journal)
      | some oldest =>
        match journal.discardRetentionBefore oldest.endSequence true with
        | none => (⟨.internalError, gap.firstMissing, gap.firstMissing, false⟩, journal)
        | some collapsed => collapsed.storeGap gap true (collapsed.gaps.append gap)
    else journal.storeGap gap false attempt

variable (value : ContinuityBreakRecord)

/-- The common tail of `append_continuity_break` after the ledger's answer. -/
def storeContinuityBreak (collapsed : Bool) :
    ContinuityAppendStatus × ContinuityLedger capacity.breaks →
      StreamAppendResult × MeasurementJournal capacity
  | (status, continuity) =>
    if status = .ok then
      (⟨.ok, value.atSequence, value.endSequence, collapsed⟩,
        { journal with continuity := continuity, produced := value.endSequence })
    else
      let status := match status with
        | .invalidBreak => StreamAppendStatus.invalidContinuityBreak
        | .outOfOrder => .nonContiguous
        | _ => .internalError
      (⟨status, value.atSequence, value.atSequence, collapsed⟩,
        { journal with continuity := continuity })

def appendContinuityBreak : StreamAppendResult × MeasurementJournal capacity :=
  if !value.valid then
    (⟨.invalidContinuityBreak, value.atSequence, value.atSequence, false⟩, journal)
  else if value.atSequence ≠ journal.produced then
    (⟨.nonContiguous, value.atSequence, value.atSequence, false⟩, journal)
  else
    let journal := journal.invalidatePreparedView
    let attempt := journal.continuity.append value
    if attempt.1 = .full then
      match journal.continuity.oldest with
      | none => (⟨.internalError, value.atSequence, value.atSequence, false⟩, journal)
      | some oldest =>
        match journal.discardRetentionBefore oldest.endSequence true with
        | none => (⟨.internalError, value.atSequence, value.atSequence, false⟩, journal)
        | some collapsed =>
          collapsed.storeContinuityBreak value true (collapsed.continuity.append value)
    else journal.storeContinuityBreak value false attempt

/-- Where samples must stop: at the next gap, the next break or the produced cursor. -/
def sampleEnd (start : Nat) : Nat :=
  let stop := journal.produced
  let stop := match journal.gaps.nextFrom start with
    | some next => if next.firstMissing < stop then next.firstMissing else stop
    | none => stop
  match journal.continuity.nextFrom start with
  | some next => if next.atSequence < stop then next.atSequence else stop
  | none => stop

/-- The sample branch of `prepare_read`. -/
def readSamples (start sampleLimit : Nat) (view : MeasurementReadView) :
    MeasurementReadView × MeasurementJournal capacity :=
  let available := journal.sampleEnd start - start
  let count := if available < sampleLimit then available else sampleLimit
  let offset := journal.samplesBetween journal.retainedFrom start
  if count = 0 ∨ offset ≥ journal.samples.size ∨ count > journal.samples.size - offset then
    ({ view with status := .internalError }, journal)
  else
    let boundary := journal.samples.get offset
    let count := boundedCountLoop (fun index => journal.samples.get (offset + index)) boundary
      (count - 1) 1
    let physical := journal.samples.physicalIndex offset
    let firstSize :=
      if count < capacity.samples - physical then count else capacity.samples - physical
    ({ view with
        status := .samples
        endSequence := start + count
        first := journal.samples.cells physical firstSize
        second := journal.samples.cells 0 (count - firstSize) },
      journal.prepareThrough (start + count))

def prepareRead (start sampleLimit : Nat) : MeasurementReadView × MeasurementJournal capacity :=
  let journal := journal.invalidatePreparedView
  let view : MeasurementReadView :=
    ⟨.noData, start, start, journal.retainedFrom, journal.produced, [], [], {}, {}⟩
  if sampleLimit = 0 then ({ view with status := .invalidLimit }, journal)
  else if start < journal.retainedFrom then ({ view with status := .rangeUnavailable }, journal)
  else if start > journal.produced then ({ view with status := .aheadOfProduced }, journal)
  else if start = journal.produced then ({ view with status := .noData }, journal)
  else
    match journal.gaps.containing start with
    | some gap =>
      ({ view with status := .gap, gap := gap, endSequence := gap.endSequence },
        journal.prepareThrough gap.endSequence)
    | none =>
      match journal.continuity.containing start with
      | some mark =>
        ({ view with
            status := .continuityBreak
            continuityBreak := mark
            endSequence := mark.endSequence },
          journal.prepareThrough mark.endSequence)
      | none => journal.readSamples start sampleLimit view

def markDelivered (endSequence : Nat) : StreamDeliveryStatus × MeasurementJournal capacity :=
  if !journal.preparedValid ∨ endSequence ≠ journal.preparedThrough then
    (.beyondPreparedRange, journal)
  else
    let journal := if endSequence > journal.delivered then
      { journal with delivered := endSequence } else journal
    (.ok, journal.invalidatePreparedView)

def cancelPrepared : MeasurementJournal capacity :=
  journal.invalidatePreparedView

def releaseBefore : StreamReleaseStatus × MeasurementJournal capacity :=
  let journal := journal.invalidatePreparedView
  if cursor ≤ journal.released then (.ok, journal)
  else
    let maximum := if journal.delivered > journal.retainedFrom then journal.delivered
      else journal.retainedFrom
    if cursor > maximum then (.beyondDeliveredRange, journal)
    else if cursor > journal.retainedFrom then
      match journal.discardRetentionBefore cursor false with
      | none => (.beyondDeliveredRange, journal)
      | some kept => (.ok, { kept with released := cursor })
    else (.ok, { journal with released := cursor })

end MeasurementJournal

/-- One call on a journal. -/
inductive JournalOperation where
  | appendSample (sequence : Nat) (sample : SampleRecord)
  | appendGap (gap : GapRecord)
  | appendContinuityBreak (value : ContinuityBreakRecord)
  | prepareRead (start sampleLimit : Nat)
  | markDelivered (endSequence : Nat)
  | cancelPrepared
  | releaseBefore (cursor : Nat)

namespace MeasurementJournal

variable {capacity : JournalCapacity}

/-- The journal after one call, its result aside. -/
def perform (journal : MeasurementJournal capacity) : JournalOperation → MeasurementJournal capacity
  | .appendSample sequence sample => (journal.appendSample sequence sample).2
  | .appendGap gap => (journal.appendGap gap).2
  | .appendContinuityBreak value => (journal.appendContinuityBreak value).2
  | .prepareRead start sampleLimit => (journal.prepareRead start sampleLimit).2
  | .markDelivered endSequence => (journal.markDelivered endSequence).2
  | .cancelPrepared => journal.cancelPrepared
  | .releaseBefore cursor => (journal.releaseBefore cursor).2

/-- The journal after a sequence of calls. -/
def run (capacity : JournalCapacity) (operations : List JournalOperation) :
    MeasurementJournal capacity :=
  operations.foldl perform (initial capacity)

end MeasurementJournal
end SensorSystem.Node
