import SensorSystem.Host.Persistence.BoundedWriter

/-! `persistence_executor.rs`: jobs are written in groups of adjoining records of one stream.
After a failure the attempted jobs are kept until a recovered cursor tells which of them are
durable. -/

namespace SensorSystem.Host

open GroupDurableMeasurementSink (Error persistGroup)

structure WriteCommand where
  id : WriteJobId
  envelope : PersistenceEnvelope

structure WriteRecoveryRange where
  hardwareId : HardwareId
  bootEpoch : BootEpoch
  start : SequenceCursor
  stop : SequenceCursor
deriving DecidableEq

structure RecoveredCursorEvidence where
  hardwareId : HardwareId
  bootEpoch : BootEpoch
  durable : SequenceCursor

structure GroupRecoveryDisposition where
  confirmedPrefixRecords : Nat

inductive RecoveryClassificationError where
  | identityMismatch
  | invalidPendingRange
  | cursorInsidePendingRecord
  | emptyPendingGroup
  | nonContiguousPendingGroup
  | cursorBeforePendingRange

/-- The first loop of `classify_group_recovery`, with the last `expected_start`. -/
def checkPendingGroup (recovered : RecoveredCursorEvidence) (expectedStart : SequenceCursor) :
    List WriteRecoveryRange → Except RecoveryClassificationError SequenceCursor
  | [] => .ok expectedStart
  | range :: rest =>
    if range.hardwareId ≠ recovered.hardwareId ∨ range.bootEpoch ≠ recovered.bootEpoch then
      .error .identityMismatch
    else if range.stop ≤ range.start then .error .invalidPendingRange
    else if range.start ≠ expectedStart then .error .nonContiguousPendingGroup
    else checkPendingGroup recovered range.stop rest

/-- Where a checked group ends. -/
def groupEnd (expectedStart : SequenceCursor) : List WriteRecoveryRange → SequenceCursor
  | [] => expectedStart
  | range :: rest => groupEnd range.stop rest

theorem checkPendingGroup_end {recovered : RecoveredCursorEvidence}
    {ranges : List WriteRecoveryRange} {expectedStart stop : SequenceCursor}
    (checked : checkPendingGroup recovered expectedStart ranges = .ok stop) :
    stop = groupEnd expectedStart ranges := by
  induction ranges generalizing expectedStart with
  | nil => exact (Except.ok.inj checked).symm
  | cons range rest ih =>
    obtain ⟨-, checked⟩ := Base.guard_eq_ok.mp checked
    obtain ⟨-, checked⟩ := Base.guard_eq_ok.mp checked
    obtain ⟨-, checked⟩ := Base.guard_eq_ok.mp checked
    exact ih checked

/-- The second loop of `classify_group_recovery`, which never runs out of records. -/
def findBoundary (durable reached : SequenceCursor) (index : Nat) :
    (ranges : List WriteRecoveryRange) → reached ≤ durable → durable < groupEnd reached ranges →
      Except RecoveryClassificationError GroupRecoveryDisposition
  | [], passed, before => absurd before (UInt64.not_lt.mpr passed)
  | range :: rest, _, before =>
    if durable = range.start then .ok ⟨index⟩
    else if inside : durable < range.stop then .error .cursorInsidePendingRecord
    else findBoundary durable range.stop (index + 1) rest (UInt64.not_lt.mp inside) before

def classifyGroupRecovery (pending : List WriteRecoveryRange)
    (recovered : RecoveredCursorEvidence) :
    Except RecoveryClassificationError GroupRecoveryDisposition :=
  match pending with
  | [] => .error .emptyPendingGroup
  | first :: rest =>
    match checked : checkPendingGroup recovered first.start (first :: rest) with
    | .error error => .error error
    | .ok expectedStart =>
      if early : recovered.durable < first.start then .error .cursorBeforePendingRange
      else if past : expectedStart ≤ recovered.durable then .ok ⟨(first :: rest).length⟩
      else findBoundary recovered.durable first.start 0 (first :: rest) (UInt64.not_lt.mp early)
        (checkPendingGroup_end checked ▸ UInt64.not_le.mp past)

inductive GroupedWriterError where
  | zeroCapacity
  | zeroGroupLimit
  | invalidSinkProgress

structure GroupedPersistenceWorker (S : Type) [GroupDurableMeasurementSink S] where
  sink : S
  capacity : Nat
  maxGroupRecords : Nat
  nextJobId : UInt64
  pending : List WriteCommand
  failedGroup : List WriteCommand
  completions : List (WriteCompletion (Error S))
  faulted : Bool

/-- The completion of a job whose record is durable. -/
def WriteCommand.succeeded {E : Type} (command : WriteCommand) : WriteCompletion E where
  id := command.id
  result := .ok command.envelope.receipt

def WriteCommand.recoveryRange (command : WriteCommand) : WriteRecoveryRange where
  hardwareId := command.envelope.hardwareId
  bootEpoch := command.envelope.bootEpoch
  start := command.envelope.startCursor
  stop := command.envelope.endCursor

/-- The loop of `contiguous_group_len` behind the commands already counted. -/
def contiguousRun (first : PersistenceEnvelope) (expected : SequenceCursor) :
    List WriteCommand → Nat
  | [] => 0
  | command :: rest =>
    if command.envelope.hardwareId ≠ first.hardwareId ∨
        command.envelope.bootEpoch ≠ first.bootEpoch ∨
        command.envelope.startCursor ≠ expected then 0
    else contiguousRun first command.envelope.endCursor rest + 1

namespace GroupedPersistenceWorker

variable {S : Type} [GroupDurableMeasurementSink S]

def new (sink : S) (capacity maxGroupRecords : Nat) :
    Except GroupedWriterError (GroupedPersistenceWorker S) :=
  if capacity = 0 then .error .zeroCapacity
  else if maxGroupRecords = 0 then .error .zeroGroupLimit
  else .ok
    { sink, capacity, maxGroupRecords
      nextJobId := 1
      pending := []
      failedGroup := []
      completions := []
      faulted := false }

variable (worker : GroupedPersistenceWorker S)

def submitRecord (envelope : PersistenceEnvelope) :
    Except SubmitError WriteJobId × GroupedPersistenceWorker S :=
  if worker.faulted then (.error ⟨.workerFaulted, envelope⟩, worker)
  else if worker.pending.length + worker.failedGroup.length + worker.completions.length ≥
      worker.capacity then (.error ⟨.queueFull, envelope⟩, worker)
  else match checkedAdd worker.nextJobId 1 with
    | none => (.error ⟨.jobIdExhausted, envelope⟩, worker)
    | some next =>
      (.ok worker.nextJobId,
        { worker with
          nextJobId := next
          pending := worker.pending ++ [⟨worker.nextJobId, envelope⟩] })

def contiguousGroupLen : Nat :=
  match worker.pending with
  | [] => 0
  | first :: _ => contiguousRun first.envelope first.envelope.startCursor
      (worker.pending.take worker.maxGroupRecords)

/-- The records of the next group. -/
def nextGroup : List PersistenceEnvelope :=
  (worker.pending.take worker.contiguousGroupLen).map (·.envelope)

/-- What the answer of the sink does to the queues. -/
def settleGroup (groupLen : Nat) : Except (GroupPersistError (Error S)) GroupPersistSuccess →
      Except GroupedWriterError Nat × GroupedPersistenceWorker S
  | .ok success =>
    let persisted := success.persistedRecords
    if persisted = 0 ∨ persisted > groupLen then (.error .invalidSinkProgress, worker)
    else (.ok persisted,
      { worker with
        pending := worker.pending.drop persisted
        completions := worker.completions ++ (worker.pending.take persisted).map (·.succeeded) })
  | .error (.preparation error) =>
    (.ok 1,
      { worker with
        pending := worker.pending.drop 1
        failedGroup := worker.failedGroup ++ worker.pending.take 1
        completions := worker.completions ++ (worker.pending.take 1).map (⟨·.id, .error error⟩)
        faulted := true })
  | .error (.commit attemptedRecords error) =>
    if attemptedRecords = 0 ∨ attemptedRecords > groupLen then
      (.error .invalidSinkProgress, worker)
    else
      let failedGroup := worker.failedGroup ++ worker.pending.take attemptedRecords
      (.ok attemptedRecords,
        { worker with
          pending := worker.pending.drop attemptedRecords
          failedGroup
          completions := worker.completions ++ (failedGroup.take 1).map (⟨·.id, .error error⟩)
          faulted := true })

def processOneGroup : Except GroupedWriterError Nat × GroupedPersistenceWorker S :=
  if worker.faulted ∨ worker.pending = [] then (.ok 0, worker)
  else
    let (result, sink) := persistGroup worker.sink worker.nextGroup
    { worker with sink }.settleGroup worker.contiguousGroupLen result

def failedRanges : List WriteRecoveryRange :=
  worker.failedGroup.map (·.recoveryRange)

def replaceRecoveredSink (sink : S) (evidence : RecoveredCursorEvidence) :
    Except RecoveryClassificationError GroupRecoveryDisposition × GroupedPersistenceWorker S :=
  match classifyGroupRecovery worker.failedRanges evidence with
  | .error error => (.error error, worker)
  | .ok decision =>
    let confirmed := decision.confirmedPrefixRecords
    (.ok decision,
      { worker with
        sink
        pending := worker.failedGroup.drop confirmed ++ worker.pending
        failedGroup := []
        completions :=
          worker.completions ++ (worker.failedGroup.take confirmed).map (·.succeeded)
        faulted := false })

def pollCompletion : Option (WriteCompletion (Error S)) × GroupedPersistenceWorker S :=
  match worker.completions with
  | [] => (none, worker)
  | completion :: rest => (some completion, { worker with completions := rest })

end GroupedPersistenceWorker
end SensorSystem.Host
