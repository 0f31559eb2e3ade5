import SensorSystem.Node.Runtime.SpscQueue

/-! `drdy_timestamp_ring.h` and the timing side of `adxl355_driver.cpp`: every edge of the
data-ready pin leaves its time in a ring, and a batch that is read from the sensor's FIFO takes
one of them for each of its samples. The diagnostic counters are not part of the model. -/

namespace SensorSystem.Node

def timingQualityLocked : UInt16 := (1 : UInt16) <<< 0
def timingQualityInvalid : UInt16 := (1 : UInt16) <<< 2
def timingQualityDrdyMissing : UInt16 := (1 : UInt16) <<< 3
def timingQualityDrdyExcess : UInt16 := (1 : UInt16) <<< 4
def timingQualityRingOverflow : UInt16 := (1 : UInt16) <<< 5
def timingQualityIncompleteSample : UInt16 := (1 : UInt16) <<< 7
def timingQualityRecovery : UInt16 := (1 : UInt16) <<< 8

inductive TimestampSource where
  | none
  | drdyTimeUs64
deriving DecidableEq

structure DrdyTimestamp where
  eventSeq : UInt64 := 0
  deviceTimeUs : UInt64 := 0
deriving DecidableEq, Repr, Inhabited

structure SampleDeviceTime where
  deviceTimeUs : UInt64 := 0
  timingSegmentId : UInt32 := 0
  qualityFlags : UInt16 := timingQualityInvalid
  source : TimestampSource := .none
deriving DecidableEq

def SampleDeviceTime.valid (time : SampleDeviceTime) : Bool :=
  time.source = .drdyTimeUs64 ∧ time.qualityFlags &&& timingQualityInvalid = 0

/-- The entries with their counters, and what is kept of refused pushes. -/
structure DrdyTimestampRing (capacity : QueueCapacity) where
  entries : SpscQueue DrdyTimestamp capacity
  overflowLatched : Bool := false
  overflowCount : UInt32 := 0

namespace DrdyTimestampRing
variable {capacity : QueueCapacity}

variable (ring : DrdyTimestampRing capacity)

def pushFromIsr (value : DrdyTimestamp) : Bool × DrdyTimestampRing capacity :=
  if (ring.entries.tryPush value).1 then
    (true, { ring with entries := (ring.entries.tryPush value).2 })
  else
    (false, { ring with overflowLatched := true, overflowCount := ring.overflowCount + 1 })

/-- The entries stay where they are. -/
def reset : DrdyTimestampRing capacity where
  entries := { ring.entries with read := 0, write := 0 }

end DrdyTimestampRing

def drdyTimestampCapacity : QueueCapacity where
  slots := 512
  positive := by decide
  bounded := by decide

/-- What the driver keeps to bind times to samples. -/
structure TimingBinding where
  sampleTimestampsEnabled : Bool
  drdyTimestamps : DrdyTimestampRing drdyTimestampCapacity
  nextDrdyEventSeq : UInt64 := 1
  lastConsumedDrdyEventSeq : UInt64 := 0
  timingSegmentId : UInt32 := 1
  timingBindingValid : Bool := false
  timingInvalidFlags : UInt16 := timingQualityInvalid

namespace TimingBinding

/-- A driver that has just been made. -/
def constructed (enabled : Bool) : TimingBinding where
  sampleTimestampsEnabled := enabled
  drdyTimestamps := { entries := .initial }

variable (binding : TimingBinding)

/-- An edge finds the ring full, so its time is lost. -/
def dropsEdge : Bool :=
  binding.sampleTimestampsEnabled ∧
    drdyTimestampCapacity.slots ≤ binding.drdyTimestamps.entries.used

/-- `gpio_irq_handler` on the data-ready pin, at the time `time_us_64` returns. -/
def gpioIrqHandler (deviceTimeUs : UInt64) : TimingBinding :=
  let timestamp := ⟨binding.nextDrdyEventSeq, deviceTimeUs⟩
  let counted := { binding with nextDrdyEventSeq := binding.nextDrdyEventSeq + 1 }
  if binding.sampleTimestampsEnabled then
    let (pushed, ring) := binding.drdyTimestamps.pushFromIsr timestamp
    if pushed then { counted with drdyTimestamps := ring }
    else { counted with
      drdyTimestamps := ring
      timingBindingValid := false
      timingInvalidFlags := timingQualityInvalid ||| timingQualityRingOverflow }
  else counted

def nextSegmentId (segment : UInt32) : UInt32 :=
  if segment + 1 = 0 then 1 else segment + 1

def resetTimingBinding (qualityFlags : UInt16) (valid : Bool) : TimingBinding :=
  { binding with
    drdyTimestamps := binding.drdyTimestamps.reset
    nextDrdyEventSeq := 1
    lastConsumedDrdyEventSeq := 0
    timingSegmentId := nextSegmentId binding.timingSegmentId
    timingBindingValid := valid
    timingInvalidFlags :=
      if valid then timingQualityLocked ||| qualityFlags
      else timingQualityInvalid ||| qualityFlags }

def invalidateTimingBinding (qualityFlags : UInt16) : TimingBinding :=
  if binding.sampleTimestampsEnabled then
    { binding with
      timingBindingValid := false
      timingInvalidFlags := binding.timingInvalidFlags ||| timingQualityInvalid ||| qualityFlags }
  else binding

end TimingBinding

/-- An entry of the sensor's FIFO; the value of the axis is left out. -/
structure FifoEntry where
  isEmpty : Bool
  isXAxis : Bool

def decodeFifoEntry (buffer : List UInt8) (offset : Nat) : FifoEntry where
  isEmpty := buffer.getD (offset + 2) 0 &&& 0x02 ≠ 0
  isXAxis := buffer.getD (offset + 2) 0 &&& 0x01 ≠ 0

/-- The three entries of a sample are there, the first one of the x axis. -/
def decodesSample (buffer : List UInt8) (index : Nat) : Bool :=
  let x := decodeFifoEntry buffer (index * 9)
  let y := decodeFifoEntry buffer (index * 9 + 3)
  let z := decodeFifoEntry buffer (index * 9 + 6)
  !(x.isEmpty || y.isEmpty || z.isEmpty) && x.isXAxis && !(y.isXAxis || z.isXAxis)

/-- A call of `read_fifo_batch` with what the sensor answers. -/
structure FifoRead where
  maxSamples : Nat
  /-- Whether the caller asks for times. -/
  timed : Bool
  /-- What `read_fifo_entries` returns, or nothing when it fails. -/
  fifoEntries : Option UInt8
  /-- What `read_fifo_raw` returns, or nothing when it fails. -/
  raw : Option (List UInt8)

/-- The samples whose timestamps a call consumes, and how many of them it returns. -/
structure FifoBatch where
  toRead : Nat
  samplesRead : Nat

inductive FifoPlan where
  | nothing
  /-- The transaction failed and may have advanced the FIFO. -/
  | uncertain
  | batch (batch : FifoBatch)

def FifoRead.plan (call : FifoRead) : FifoPlan :=
  match call.fifoEntries with
  | none => .nothing
  | some fifoEntries =>
    let toRead := min (fifoEntries.toNat / 3) call.maxSamples
    if toRead = 0 then .nothing
    else match call.raw with
      | none => .uncertain
      | some buffer =>
        .batch ⟨toRead, ((List.range toRead).takeWhile (decodesSample buffer)).length⟩

/-- Where `consume_fifo_timestamps` stands. An edge may come before each of these. -/
inductive ConsumePoint where
  /-- `consume_overflow_latched`. -/
  | exchangeLatch
  | overflowed
  /-- `batch_valid = timing_binding_valid_`. -/
  | readValid
  /-- `pop` loads the counters, then the entry, then stores the read counter. -/
  | popLoad
  | popEntry
  | popStore (timestamp : DrdyTimestamp)
  | missing
  | checkSequence (timestamp : DrdyTimestamp)
  | excess (timestamp : DrdyTimestamp)
  | record (timestamp : DrdyTimestamp)
  /-- The last loop, over the times of an invalid batch. -/
  | revise
  | finish
deriving DecidableEq

structure Consuming where
  batch : FifoBatch
  times : List SampleDeviceTime
  index : Nat := 0
  batchValid : Bool := false
  point : ConsumePoint

namespace Consuming

variable (call : Consuming)

/-- The head of the loop over the samples, and of the loop behind it. -/
def loop (index : Nat) : Consuming :=
  if index < call.batch.toRead then { call with index := index, point := .popLoad }
  else if call.batchValid then { call with index := 0, point := .finish }
  else { call with index := 0, point := .revise }

def recorded (binding : TimingBinding) (timestamp : DrdyTimestamp) : List SampleDeviceTime :=
  if call.index < call.batch.samplesRead then
    call.times.set call.index
      { deviceTimeUs := timestamp.deviceTimeUs
        timingSegmentId := binding.timingSegmentId
        qualityFlags :=
          if call.batchValid then timingQualityLocked else binding.timingInvalidFlags
        source := .drdyTimeUs64 }
  else call.times

/-- The last loop leaves the device time as it is. -/
def revised (binding : TimingBinding) : List SampleDeviceTime :=
  call.times.modify call.index fun time =>
    { time with
      timingSegmentId := binding.timingSegmentId
      qualityFlags := binding.timingInvalidFlags
      source := .drdyTimeUs64 }

/-- One step of the call, up to the one that ends it. -/
def advance (binding : TimingBinding) : TimingBinding × Consuming :=
  match call.point with
  | .exchangeLatch =>
    ({ binding with drdyTimestamps := { binding.drdyTimestamps with overflowLatched := false } },
      { call with
        point := if binding.drdyTimestamps.overflowLatched then .overflowed else .readValid })
  | .overflowed =>
    (binding.invalidateTimingBinding (timingQualityInvalid ||| timingQualityRingOverflow),
      { call with point := .readValid })
  | .readValid => (binding, { call with batchValid := binding.timingBindingValid }.loop 0)
  | .popLoad =>
    if binding.drdyTimestamps.entries.read = binding.drdyTimestamps.entries.write then
      (binding, { call with batchValid := false, point := .missing })
    else (binding, { call with point := .popEntry })
  | .popEntry =>
    (binding, { call with point := .popStore (binding.drdyTimestamps.entries.tryFront.getD {}) })
  | .popStore timestamp =>
    ({ binding with drdyTimestamps := { binding.drdyTimestamps with
        entries := binding.drdyTimestamps.entries.popFront.2 } },
      { call with point := .checkSequence timestamp })
  | .missing =>
    (binding.invalidateTimingBinding (timingQualityInvalid ||| timingQualityDrdyMissing),
      call.loop (call.index + 1))
  | .checkSequence timestamp =>
    if binding.lastConsumedDrdyEventSeq ≠ 0 ∧
        timestamp.eventSeq ≠ binding.lastConsumedDrdyEventSeq + 1 then
      (binding, { call with batchValid := false, point := .excess timestamp })
    else (binding, { call with point := .record timestamp })
  | .excess timestamp =>
    (binding.invalidateTimingBinding (timingQualityInvalid ||| timingQualityDrdyExcess),
      { call with point := .record timestamp })
  | .record timestamp =>
    ({ binding with lastConsumedDrdyEventSeq := timestamp.eventSeq },
      { call with times := call.recorded binding timestamp }.loop (call.index + 1))
  | .revise =>
    if call.index < call.batch.samplesRead then
      (binding, { call with times := call.revised binding, index := call.index + 1 })
    else (binding, { call with point := .finish })
  | .finish => (binding, call)

end Consuming

/-- A batch as the caller gets it back, with the samples and edges since the last reset, and what
had been lost when it began. -/
structure ReturnedBatch where
  times : List SampleDeviceTime
  first : Nat
  edges : List UInt64
  timingSegmentId : UInt32
  spoiled : Bool

/-- The driver with what has happened since the last reset. -/
structure TimingRun where
  binding : TimingBinding
  call : Option Consuming := none
  edges : List UInt64 := []
  consumed : Nat := 0
  dropped : Bool := false
  missed : Bool := false
  /-- Whether the batch began behind a dropped edge or a missing timestamp. -/
  spoiled : Bool := false
  returned : List ReturnedBatch := []

inductive TimingStep where
  | edge (deviceTimeUs : UInt64)
  | reset (qualityFlags : UInt16) (valid : Bool)
  /-- `notify_fifo_timing_discontinuity`. -/
  | discontinuity (qualityFlags : UInt16)
  | readFifoBatch (call : FifoRead)
  /-- The next step of the batch that is under way. -/
  | advance

namespace TimingRun

def initial (enabled : Bool) : TimingRun where
  binding := .constructed enabled

def edge (run : TimingRun) (deviceTimeUs : UInt64) : TimingRun :=
  { run with
    binding := run.binding.gpioIrqHandler deviceTimeUs
    edges := run.edges ++ [deviceTimeUs]
    dropped := run.dropped || run.binding.dropsEdge }

def reset (run : TimingRun) (qualityFlags : UInt16) (valid : Bool) : TimingRun :=
  { run with
    binding := run.binding.resetTimingBinding qualityFlags valid
    edges := []
    consumed := 0
    dropped := false
    missed := false }

def incompleteSample : UInt16 := timingQualityInvalid ||| timingQualityIncompleteSample

/-- The times start empty, and a driver without timestamps leaves them so. -/
def readFifoBatch (run : TimingRun) (call : FifoRead) : TimingRun :=
  match call.plan with
  | .nothing => run
  | .uncertain => { run with binding := run.binding.invalidateTimingBinding incompleteSample }
  | .batch batch =>
    { run with
      spoiled := run.dropped || run.missed
      call := some {
        batch
        times := if call.timed then List.replicate call.maxSamples {} else []
        point := if run.binding.sampleTimestampsEnabled then .exchangeLatch else .finish } }

/-- The call returns; a sample that did not decode invalidates the binding first. -/
def finish (run : TimingRun) (call : Consuming) : TimingRun :=
  { run with
    binding :=
      if call.batch.samplesRead < call.batch.toRead then
        run.binding.invalidateTimingBinding incompleteSample
      else run.binding
    call := none
    consumed := run.consumed + call.batch.toRead
    returned := run.returned ++ [{
      times := call.times.take call.batch.samplesRead
      first := run.consumed
      edges := run.edges
      timingSegmentId := run.binding.timingSegmentId
      spoiled := run.spoiled }] }

/-- The driver's code is one thread, which edges interrupt. -/
def step (run : TimingRun) : TimingStep → TimingRun
  | .edge deviceTimeUs => run.edge deviceTimeUs
  | .advance =>
    match run.call with
    | none => run
    | some call =>
      if call.point = .finish then run.finish call
      else
        { run with
          binding := (call.advance run.binding).1
          call := some (call.advance run.binding).2
          missed := run.missed || call.point = .missing }
  | .reset qualityFlags valid => if run.call.isSome then run else run.reset qualityFlags valid
  | .discontinuity qualityFlags =>
    if run.call.isSome then run
    else { run with binding := run.binding.invalidateTimingBinding qualityFlags }
  | .readFifoBatch call => if run.call.isSome then run else run.readFifoBatch call

def run (start : TimingRun) (steps : List TimingStep) : TimingRun :=
  steps.foldl step start

end TimingRun
end SensorSystem.Node
