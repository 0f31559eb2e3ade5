import SensorSystem.Base.BlockingRuns
import SensorSystem.Host.Time.TimeRepository

/-! `time_persistence.rs`, `time_health.rs` and `time_runtime.rs`: channels submit observations to
a bounded queue, one storage thread appends them, and the coordinator learns of every append from
a bounded channel of completions. The coordinator asks for a rollover or a recovery over a control
channel and waits for the answer. -/

namespace SensorSystem.Host

open Base

structure TimePersistenceCompletion where
  record : TimeObservationRecord
  result : Except TimeRepositoryError TimeDurableReceipt

inductive TimePersistenceRecoveryDisposition where
  | retryRequired
  | alreadyDurable

inductive TimePersistenceRecoveryError where
  | workerNotFaulted
  | completionPending
  | hostClockMismatch
  | missingFailedRecord
  | unclassifiableAttempt
  | repository (error : TimeRepositoryError)
  | counterOverflow
  | unexpectedRecordCount (expectedAbsent expectedDurable recovered : Nat)

inductive TimeStreamManagementError where
  | workerFaulted
  | repository (error : TimeRepositoryError)

structure FailedTimeObservation where
  record : TimeObservationRecord
  baseRecordCount : Option Nat

structure TimePersistenceWorker where
  repository : TimeRepository
  completionCapacity : Nat
  completions : List TimePersistenceCompletion := []
  retry : Option TimeObservationRecord := none
  failed : Option FailedTimeObservation := none
  faulted : Bool := false

namespace TimePersistenceWorker

def persistRecord (worker : TimePersistenceWorker) (disk : TimeDisk)
    (record : TimeObservationRecord) (outcome : IoOutcome) : TimePersistenceWorker × TimeDisk :=
  let baseRecordCount := worker.repository.durableRecordCount record.key
  let (result, repository, disk) := worker.repository.persist disk record outcome
  let completions := worker.completions ++ [⟨record, result⟩]
  match result with
  | .ok _ => ({ worker with repository, completions }, disk)
  | .error _ =>
    ({ worker with
      repository, completions, failed := some ⟨record, baseRecordCount⟩, faulted := true }, disk)

def rolloverStream (worker : TimePersistenceWorker) (disk : TimeDisk) (previous : TimeStreamKey)
    (next : TimeStreamSpec) (outcome : IoOutcome) :
    Except TimeStreamManagementError TimeStreamRollover × TimePersistenceWorker × TimeDisk :=
  if worker.faulted then (.error .workerFaulted, worker, disk)
  else
    let (result, repository, disk) :=
      worker.repository.rolloverStream disk previous next outcome
    (result.mapError .repository, { worker with repository }, disk)

/-- The uncertain append is told from the count of the reopened stream. -/
def replaceRecoveredRepository (worker : TimePersistenceWorker) (repository : TimeRepository) :
    Except TimePersistenceRecoveryError TimePersistenceRecoveryDisposition ×
      TimePersistenceWorker :=
  if ¬ worker.faulted then (.error .workerNotFaulted, worker)
  else if worker.completions ≠ [] then (.error .completionPending, worker)
  else if repository.hostClockId ≠ worker.repository.hostClockId then
    (.error .hostClockMismatch, worker)
  else match worker.failed with
    | none => (.error .missingFailedRecord, worker)
    | some failed =>
      match failed.baseRecordCount with
      | none => (.error .unclassifiableAttempt, worker)
      | some base =>
        let stream := failed.record.key
        match repository.durableRecordCount stream with
        | none => (.error (.repository (.unknownStream stream)), worker)
        | some recovered =>
          let replaced := { worker with repository, failed := none, faulted := false }
          if base + 1 ≥ 2 ^ 64 then (.error .counterOverflow, worker)
          else if recovered = base then
            (.ok .retryRequired, { replaced with retry := some failed.record })
          else if recovered = base + 1 then
            (.ok .alreadyDurable, { replaced with
              completions := [⟨failed.record, .ok ⟨stream, base + 1⟩⟩] })
          else (.error (.unexpectedRecordCount base (base + 1) recovered), worker)

end TimePersistenceWorker

inductive TimePersistenceHealthState where
  | healthy
  | recoveryRequired
  | recovering
  | integrityFault
deriving DecidableEq

structure TimeStreamHealth where
  stream : TimeStreamKey
  durableRecordCount : Nat

inductive TimeHealthIntegrityError where
  | noStreams
  | duplicateStream (stream : TimeStreamKey)
  | unknownStream (stream : TimeStreamKey)
  | receiptStreamMismatch
  | unexpectedFailure
  | unexpectedSuccess
  | unexpectedRecovery
  | unexpectedRecoveryCompletion
  | recordCountOverflow
  | nonSequentialRecordCount (expected received : Nat)
  | alreadyFaulted
  | streamRegistrationWhileUnhealthy

structure TimePersistenceHealth where
  streams : List TimeStreamHealth
  state : TimePersistenceHealthState := .healthy
  uncertain : Option TimeObservationRecord := none
  integrityError : Option TimeHealthIntegrityError := none

namespace TimePersistenceHealth

/-- The loop of `from_recovery`. -/
def addRecovered (streams : List TimeStreamHealth) :
    List (TimeStreamKey × Nat) → Except TimeHealthIntegrityError (List TimeStreamHealth)
  | [] => .ok streams
  | (stream, durableRecordCount) :: rest =>
    if streams.any (·.stream = stream) then .error (.duplicateStream stream)
    else addRecovered (streams ++ [⟨stream, durableRecordCount⟩]) rest

def fromRecovery (recovered : List (TimeStreamKey × Nat)) :
    Except TimeHealthIntegrityError TimePersistenceHealth := do
  let streams ← addRecovered [] recovered
  if streams = [] then .error .noStreams else .ok { streams }

variable (health : TimePersistenceHealth)

def registerStream (stream : TimeStreamKey) (durableRecordCount : Nat) :
    Except TimeHealthIntegrityError TimePersistenceHealth :=
  if health.state ≠ .healthy then .error .streamRegistrationWhileUnhealthy
  else if health.streams.any (·.stream = stream) then .error (.duplicateStream stream)
  else .ok { health with streams := health.streams ++ [⟨stream, durableRecordCount⟩] }

def fail (error : TimeHealthIntegrityError) :
    Except TimeHealthIntegrityError Unit × TimePersistenceHealth :=
  (.error error, { health with state := .integrityFault, integrityError := some error })

/-- The count of a stream is the next one. -/
def advance (stream : TimeStreamKey) (recordCount : Nat) : TimePersistenceHealth :=
  { health with
    streams := updateFirst (·.stream = stream)
      ({ · with durableRecordCount := recordCount }) health.streams
    uncertain := none
    state := .healthy }

def observeCompletion (completion : TimePersistenceCompletion) :
    Except TimeHealthIntegrityError Unit × TimePersistenceHealth :=
  if health.state = .integrityFault then
    (.error (health.integrityError.getD .alreadyFaulted), health)
  else
    let record := completion.record
    let stream := record.key
    match health.streams.find? (·.stream = stream) with
    | none => health.fail (.unknownStream stream)
    | some item =>
      match completion.result with
      | .error _ =>
        if health.state ≠ .healthy then health.fail .unexpectedFailure
        else (.ok (), { health with uncertain := some record, state := .recoveryRequired })
      | .ok receipt =>
        if receipt.stream ≠ stream then health.fail .receiptStreamMismatch
        else
          let expected := item.durableRecordCount + 1
          let counted :=
            if expected ≥ 2 ^ 64 then health.fail .recordCountOverflow
            else if receipt.recordCount ≠ expected then
              health.fail (.nonSequentialRecordCount expected receipt.recordCount)
            else (.ok (), health.advance stream receipt.recordCount)
          match health.uncertain with
          | some uncertain =>
            if uncertain ≠ record ∨ health.state ≠ .recovering then
              health.fail .unexpectedRecoveryCompletion
            else counted
          | none => if health.state ≠ .healthy then health.fail .unexpectedSuccess else counted

def observeRecovery (_disposition : TimePersistenceRecoveryDisposition) :
    Except TimeHealthIntegrityError Unit × TimePersistenceHealth :=
  if health.state ≠ .recoveryRequired ∨ health.uncertain = none then
    health.fail .unexpectedRecovery
  else (.ok (), { health with state := .recovering })

end TimePersistenceHealth

inductive TimePersistenceControl where
  | replace (repository : TimeRepository)
  | rolloverStream (previous : TimeStreamKey) (next : TimeStreamSpec)
  | shutdown

/-- The answer on the channel of one request. -/
inductive TimeReply where
  | replaced (result : Except TimePersistenceRecoveryError TimePersistenceRecoveryDisposition)
  | rolledOver (result : Except TimeStreamManagementError TimeStreamRollover)

/-- Where the storage thread is in `run_time_persistence_executor`. -/
inductive TimeThreadPhase where
  | control
  | input
  | forward
  | drain
  | stopped
deriving DecidableEq

/-- What the coordinator waits for. -/
inductive TimeWait where
  | recovery
  | rollover (next : TimeStreamSpec) (alreadyRegistered : Bool)
  | shutdown
deriving DecidableEq

/-- The storage thread, the coordinator and what is in flight between them. -/
structure TimeHost where
  capacity : Nat
  disk : TimeDisk
  input : List TimeObservationRecord := []
  submitters : Bool := true
  control : Option TimePersistenceControl := none
  controlConnected : Bool := true
  completions : List TimePersistenceCompletion := []
  reply : Option TimeReply := none
  worker : TimePersistenceWorker
  phase : TimeThreadPhase := .control
  streams : List TimeStreamSpec
  health : TimePersistenceHealth
  waits : Option TimeWait := none

inductive TimeRuntimeError where
  | zeroCapacity
  | repository (error : TimeRepositoryError)
  | health (error : TimeHealthIntegrityError)

namespace TimeHost

/-- `TimeRuntimeConfig::start`. -/
def start (disk : TimeDisk) (streams : List TimeStreamSpec) (outcomes : List IoOutcome)
    (capacity : Nat) : Except TimeRuntimeError TimeHost :=
  if capacity = 0 then .error .zeroCapacity
  else match TimeRepository.openStreams disk streams outcomes with
    | (.error error, _) => .error (.repository error)
    | (.ok repository, disk) =>
      match TimePersistenceHealth.fromRecovery repository.recoveries with
      | .error error => .error (.health error)
      | .ok health => .ok {
          capacity
          disk
          worker := { repository, completionCapacity := capacity }
          streams
          health }

variable (host : TimeHost)

/-- The completion channel has one place more than the queue. -/
def completionRoom : Bool := host.completions.length < host.capacity + 1

/-- `try_submit` of an accepted record. -/
def submit (record : TimeObservationRecord) : Option TimeHost :=
  if host.submitters ∧ host.phase ≠ .stopped ∧ host.input.length < host.capacity then
    some { host with input := host.input ++ [record] }
  else none

/-- Take a control message. A faulted thread waits for one. -/
def storageControl (outcome : IoOutcome) : Option TimeHost :=
  let taken := { host with control := none }
  match host.control with
  | some .shutdown => some { taken with phase := .drain }
  | some (.replace repository) =>
    if host.worker.faulted then
      let (result, worker) := host.worker.replaceRecoveredRepository repository
      some { taken with worker, reply := some (.replaced result), phase := .forward }
    else some { taken with reply := some (.replaced (.error .workerNotFaulted)), phase := .input }
  | some (.rolloverStream previous next) =>
    if host.worker.faulted then
      some { taken with reply := some (.rolledOver (.error .workerFaulted)), phase := .forward }
    else
      let (result, worker, disk) := host.worker.rolloverStream host.disk previous next outcome
      some { taken with worker, disk, reply := some (.rolledOver result), phase := .input }
  | none =>
    if ¬ host.controlConnected then some { host with phase := .drain }
    else if host.worker.faulted then none
    else some { host with phase := .input }

/-- `process_next_wait`. -/
def storageInput (outcome : IoOutcome) : Option TimeHost :=
  let worker := host.worker
  if worker.faulted ∨ worker.completions.length ≥ worker.completionCapacity then
    some { host with phase := .forward }
  else match worker.retry with
    | some record =>
      let (worker, disk) :=
        { worker with retry := none }.persistRecord host.disk record outcome
      some { host with worker, disk, phase := .forward }
    | none =>
      match host.input with
      | record :: input =>
        let (worker, disk) := worker.persistRecord host.disk record outcome
        some { host with input, worker, disk, phase := .forward }
      | [] =>
        if host.submitters then some { host with phase := .forward }
        else some { host with phase := .drain }

/-- Send the next completion, which blocks on a full channel. -/
def storageForward (done : TimeThreadPhase) : Option TimeHost :=
  match host.worker.completions with
  | [] => some { host with phase := done }
  | completion :: completions =>
    if host.completionRoom then
      some { host with
        worker := { host.worker with completions }
        completions := host.completions ++ [completion] }
    else none

/-- One step of the storage thread, unless it is blocked. -/
def storageStep (outcome : IoOutcome) : Option TimeHost :=
  match host.phase with
  | .control => host.storageControl outcome
  | .input => host.storageInput outcome
  | .forward => host.storageForward .control
  | .drain => host.storageForward .stopped
  | .stopped => none

/-- `poll_health`: at most one completion, without waiting. -/
def pollHealth : Option TimeHost :=
  if host.waits.isSome then none
  else match host.completions with
    | [] => some host
    | completion :: completions =>
      some { host with completions, health := (host.health.observeCompletion completion).2 }

/-- Send a request and wait for its answer. -/
def request (message : TimePersistenceControl) (waits : TimeWait) : TimeHost :=
  if host.control.isSome ∨ host.phase = .stopped then host
  else { host with control := some message, reply := none, waits := some waits }

/-- `TimeRuntime::recover`, which the coordinator calls when recovery is required. -/
def recover (outcomes : List IoOutcome) : Option TimeHost :=
  if host.waits.isSome ∨ host.health.state ≠ .recoveryRequired then none
  else match TimeRepository.openStreams host.disk host.streams outcomes with
    | (.error _, disk) => some { host with disk }
    | (.ok repository, disk) => some ({ host with disk }.request (.replace repository) .recovery)

def rolloverStream (host : TimeHost) (previous : TimeStreamKey) (next : TimeStreamSpec) :
    Option TimeHost :=
  if host.waits.isSome then none
  else if host.health.state ≠ .healthy then some host
  else
    let alreadyRegistered := host.streams.any (·.config.key = next.config.key)
    some (host.request (.rolloverStream previous next) (.rollover next alreadyRegistered))

/-- The answer is there, or the thread is gone. -/
def receiveReply : Option TimeHost :=
  let received := { host with reply := none, waits := none }
  match host.waits, host.reply with
  | some .recovery, some (.replaced (.ok disposition)) =>
    some { received with health := (host.health.observeRecovery disposition).2 }
  | some (.rollover next alreadyRegistered), some (.rolledOver (.ok rollover)) =>
    if alreadyRegistered then some received
    else match host.health.registerStream rollover.stream rollover.durableRecordCount with
      | .error _ => some received
      | .ok health => some { received with health, streams := host.streams ++ [next] }
  | some .recovery, some _ | some (.rollover _ _), some _ => some received
  | some .recovery, none | some (.rollover _ _), none =>
    if host.phase = .stopped then some received else none
  | _, _ => none

/-- `TimePersistenceExecutor::shutdown`, with every submitter dropped before. -/
def shutdown (host : TimeHost) : Option TimeHost :=
  if host.waits.isSome then none
  else some { host with
    submitters := false
    control := some (host.control.getD .shutdown)
    controlConnected := false
    waits := some .shutdown }

/-- A shutdown takes every completion. -/
def collect : Option TimeHost :=
  if host.waits = some .shutdown then some { host with completions := host.completions.tail }
  else none

end TimeHost

inductive TimeEvent where
  | submit (record : TimeObservationRecord)
  | storage (outcome : IoOutcome)
  | poll
  | recover (outcomes : List IoOutcome)
  | rollover (previous : TimeStreamKey) (next : TimeStreamSpec)
  | receive
  | shutdown
  | collect
deriving DecidableEq

namespace TimeHost

variable (host : TimeHost)

/-- One step of a party, unless it is blocked. -/
def step : TimeEvent → Option TimeHost
  | .submit record => host.submit record
  | .storage outcome => host.storageStep outcome
  | .poll => host.pollHealth
  | .recover outcomes => host.recover outcomes
  | .rollover previous next => host.rolloverStream previous next
  | .receive => host.receiveReply
  | .shutdown => host.shutdown
  | .collect => host.collect

def run (events : List TimeEvent) : Option TimeHost := runSteps step host events

/-- The coordinator waits for the answer to a request. -/
def awaitsReply : Bool :=
  match host.waits with
  | some .recovery | some (.rollover _ _) => host.reply = none
  | _ => false

/-- The thread has a completion to send and no room for it. -/
def awaitsRoom : Bool :=
  (host.phase = .forward ∨ host.phase = .drain) ∧ host.worker.completions ≠ [] ∧
    ¬ host.completionRoom

/-- The coordinator waits for an answer and the thread for room in the completion channel. -/
def Deadlocked : Prop := host.awaitsReply = true ∧ host.awaitsRoom = true

instance (host : TimeHost) : Decidable host.Deadlocked :=
  inferInstanceAs (Decidable (_ ∧ _))

end TimeHost
end SensorSystem.Host
