import SensorSystem.Base.BlockingRuns
import SensorSystem.Host.Time.TimeRepository

/-! `telemetry_wal.rs`, `telemetry_repository.rs`, `telemetry_persistence.rs` and
`telemetry_runtime.rs` at the level of records. The parties and their channels are those of time
persistence, but a failed append is final and a shutdown drains the queue. -/

namespace SensorSystem.Host

open Base
open Framing (hostAddress broadcastAddress)

/-- The identity of a stream is its key. -/
structure TelemetryWalConfig where
  hardwareId : HardwareId
  nodeAddress : UInt8
  bootEpoch : BootEpoch
deriving DecidableEq

abbrev TelemetryStreamKey := TelemetryWalConfig

inductive TelemetryWalError where
  | io
  | invalidNodeAddress (nodeAddress : UInt8)
  | zeroBootEpoch
  | hardwareMismatch
  | nodeAddressMismatch
  | bootEpochMismatch
  | zeroCapturedTime
  | nonMonotonicTime
  | conflictingSnapshot
  | duplicateRecord
  | lengthOverflow
  | poisoned
deriving DecidableEq

def TelemetryWalConfig.validate (config : TelemetryWalConfig) : Except TelemetryWalError Unit :=
  if config.nodeAddress = hostAddress ∨ config.nodeAddress = broadcastAddress then
    .error (.invalidNodeAddress config.nodeAddress)
  else if config.bootEpoch = 0 then .error .zeroBootEpoch
  else .ok ()

structure TelemetryFile where
  config : TelemetryWalConfig
  snapshots : List TelemetrySnapshot

abbrev TelemetryDisk := String → Option TelemetryFile

def TelemetryDisk.put (disk : TelemetryDisk) (path : String) (file : TelemetryFile) :
    TelemetryDisk :=
  fun other => if other = path then some file else disk other

inductive TelemetryAppend where
  | appended
  | duplicate
deriving DecidableEq

/-- The temperature is in range by its type. -/
def validateSnapshot (previous : Option TelemetrySnapshot) (snapshot : TelemetrySnapshot) :
    Except TelemetryWalError TelemetryAppend :=
  if snapshot.capturedDeviceTimeUs = 0 then .error .zeroCapturedTime
  else match previous with
    | none => .ok .appended
    | some previous =>
      if snapshot.capturedDeviceTimeUs < previous.capturedDeviceTimeUs then
        .error .nonMonotonicTime
      else if snapshot.capturedDeviceTimeUs = previous.capturedDeviceTimeUs then
        if snapshot = previous then .ok .duplicate else .error .conflictingSnapshot
      else .ok .appended

structure TelemetryWalRecovery where
  recordCount : Nat
  lastSnapshot : Option TelemetrySnapshot

/-- The loop of `recover` over the records of a file. -/
def recoverSnapshots (recovery : TelemetryWalRecovery) :
    List TelemetrySnapshot → Except TelemetryWalError TelemetryWalRecovery
  | [] => .ok recovery
  | snapshot :: rest => do
    if (← validateSnapshot recovery.lastSnapshot snapshot) ≠ .appended then
      .error .duplicateRecord
    else recoverSnapshots ⟨recovery.recordCount + 1, some snapshot⟩ rest

structure TelemetryWalSink where
  path : String
  config : TelemetryWalConfig
  recovery : TelemetryWalRecovery
  poisoned : Bool := false

namespace TelemetryWalSink

def validateIdentity (expected actual : TelemetryWalConfig) : Except TelemetryWalError Unit :=
  if actual.hardwareId ≠ expected.hardwareId then .error .hardwareMismatch
  else if actual.nodeAddress ≠ expected.nodeAddress then .error .nodeAddressMismatch
  else if actual.bootEpoch ≠ expected.bootEpoch then .error .bootEpochMismatch
  else .ok ()

def create (disk : TelemetryDisk) (path : String) (config : TelemetryWalConfig) : TelemetryDisk :=
  match disk path with
  | some _ => disk
  | none => disk.put path ⟨config, []⟩

def openWal (disk : TelemetryDisk) (path : String) (config : TelemetryWalConfig)
    (outcome : IoOutcome) : Except TelemetryWalError TelemetryWalSink × TelemetryDisk :=
  match config.validate with
  | .error error => (.error error, disk)
  | .ok () =>
    let created := create disk path config
    match outcome with
    | .failsBefore => (.error .io, disk)
    | .failsAfter => (.error .io, created)
    | .succeeds =>
      let file := (created path).getD ⟨config, []⟩
      (do
        validateIdentity config file.config
        let recovery ← recoverSnapshots ⟨0, none⟩ file.snapshots
        .ok { path, config, recovery }, created)

def telemetryWalHeaderBytes : Nat := 64
def telemetryWalRecordBytes : Nat := 16

def write (sink : TelemetryWalSink) (disk : TelemetryDisk) (snapshot : TelemetrySnapshot) :
    TelemetryDisk :=
  match disk sink.path with
  | some file => disk.put sink.path { file with snapshots := file.snapshots ++ [snapshot] }
  | none => disk

/-- The last snapshot once more is taken for durable. -/
def append (sink : TelemetryWalSink) (disk : TelemetryDisk) (snapshot : TelemetrySnapshot)
    (outcome : IoOutcome) :
    Except TelemetryWalError TelemetryAppend × TelemetryWalSink × TelemetryDisk :=
  if sink.poisoned then (.error .poisoned, sink, disk)
  else match validateSnapshot sink.recovery.lastSnapshot snapshot with
    | .error error => (.error error, sink, disk)
    | .ok .duplicate => (.ok .duplicate, sink, disk)
    | .ok .appended =>
      if telemetryWalHeaderBytes + telemetryWalRecordBytes * (sink.recovery.recordCount + 1) ≥
          2 ^ 64 then (.error .lengthOverflow, sink, disk)
      else match outcome with
        | .failsBefore => (.error .io, { sink with poisoned := true }, disk)
        | .failsAfter => (.error .io, { sink with poisoned := true }, sink.write disk snapshot)
        | .succeeds =>
          (.ok .appended, { sink with
            recovery := ⟨sink.recovery.recordCount + 1, some snapshot⟩ },
            sink.write disk snapshot)

end TelemetryWalSink

structure TelemetryObservationRecord where
  hardwareId : HardwareId
  nodeAddress : UInt8
  bootEpoch : BootEpoch
  snapshot : TelemetrySnapshot
deriving DecidableEq

def TelemetryObservationRecord.key (record : TelemetryObservationRecord) : TelemetryStreamKey :=
  ⟨record.hardwareId, record.nodeAddress, record.bootEpoch⟩

structure TelemetryStreamSpec where
  path : String
  config : TelemetryWalConfig
deriving DecidableEq

structure TelemetryDurableReceipt where
  stream : TelemetryStreamKey
  recordCount : Nat
  disposition : TelemetryAppend
deriving DecidableEq

structure TelemetryStreamRollover where
  stream : TelemetryStreamKey
  durableRecordCount : Nat

inductive TelemetryRepositoryError where
  | wal (error : TelemetryWalError)
  | noStreams
  | duplicateStream (stream : TelemetryStreamKey)
  | unknownStream (stream : TelemetryStreamKey)
  | rolloverIdentityMismatch (previous next : TelemetryStreamKey)
  | unchangedBootEpoch (stream : TelemetryStreamKey)
  | conflictingStreamPath (stream : TelemetryStreamKey)
  | persistenceFaulted
deriving DecidableEq

abbrev TelemetryRepository := List TelemetryWalSink

namespace TelemetryRepository

/-- The loop of `open` over the specifications. -/
def openLoop (streams : TelemetryRepository) (disk : TelemetryDisk) :
    List TelemetryStreamSpec → List IoOutcome →
      Except TelemetryRepositoryError TelemetryRepository × TelemetryDisk
  | [], _ => (if streams = [] then .error .noStreams else .ok streams, disk)
  | spec :: specs, outcomes =>
    if streams.any (·.config = spec.config) then (.error (.duplicateStream spec.config), disk)
    else match TelemetryWalSink.openWal disk spec.path spec.config
        (outcomes.headD .succeeds) with
      | (.error error, disk) => (.error (.wal error), disk)
      | (.ok sink, disk) => openLoop (streams ++ [sink]) disk specs outcomes.tail

variable (repository : TelemetryRepository)

def stream (key : TelemetryStreamKey) : Option TelemetryWalSink :=
  repository.find? (·.config = key)

def persist (disk : TelemetryDisk) (record : TelemetryObservationRecord) (outcome : IoOutcome) :
    Except TelemetryRepositoryError TelemetryDurableReceipt × TelemetryRepository ×
      TelemetryDisk :=
  match stream repository record.key with
  | none => (.error (.unknownStream record.key), repository, disk)
  | some sink =>
    let (result, appended, disk) := sink.append disk record.snapshot outcome
    let repository := updateFirst (·.config = record.key) (fun _ => appended) repository
    match result with
    | .error error => (.error (.wal error), repository, disk)
    | .ok disposition =>
      (.ok ⟨record.key, appended.recovery.recordCount, disposition⟩, repository, disk)

def rolloverStream (disk : TelemetryDisk) (previous : TelemetryStreamKey)
    (next : TelemetryStreamSpec) (outcome : IoOutcome) :
    Except TelemetryRepositoryError TelemetryStreamRollover × TelemetryRepository ×
      TelemetryDisk :=
  let nextKey : TelemetryStreamKey := next.config
  if stream repository previous = none then (.error (.unknownStream previous), repository, disk)
  else if previous.hardwareId ≠ nextKey.hardwareId ∨
      previous.nodeAddress ≠ nextKey.nodeAddress then
    (.error (.rolloverIdentityMismatch previous nextKey), repository, disk)
  else if previous.bootEpoch = nextKey.bootEpoch then
    (.error (.unchangedBootEpoch previous), repository, disk)
  else match stream repository nextKey with
    | some existing =>
      if existing.path ≠ next.path then
        (.error (.conflictingStreamPath nextKey), repository, disk)
      else (.ok ⟨nextKey, existing.recovery.recordCount⟩, repository, disk)
    | none =>
      match TelemetryWalSink.openWal disk next.path next.config outcome with
      | (.error error, disk) => (.error (.wal error), repository, disk)
      | (.ok sink, disk) =>
        (.ok ⟨nextKey, sink.recovery.recordCount⟩, repository ++ [sink], disk)

end TelemetryRepository

structure TelemetryPersistenceCompletion where
  record : TelemetryObservationRecord
  result : Except TelemetryRepositoryError TelemetryDurableReceipt
deriving DecidableEq

inductive TelemetryPersistenceControl where
  | rolloverStream (previous : TelemetryStreamKey) (next : TelemetryStreamSpec)
  | shutdown

/-- Where the storage thread is in `run_telemetry_persistence_executor`. -/
inductive TelemetryThreadPhase where
  | control
  | faultedWait
  | input
  | send (completion : TelemetryPersistenceCompletion)
  | drainInput
  | drainSend (completion : TelemetryPersistenceCompletion)
  | stopped
deriving DecidableEq

/-- What the coordinator waits for. -/
inductive TelemetryWait where
  | rollover (next : TelemetryStreamSpec) (alreadyRegistered : Bool)
  | shutdown
deriving DecidableEq

structure TelemetryHost where
  capacity : Nat
  disk : TelemetryDisk
  input : List TelemetryObservationRecord := []
  submitters : Bool := true
  control : Option TelemetryPersistenceControl := none
  controlConnected : Bool := true
  completions : List TelemetryPersistenceCompletion := []
  reply : Option (Except TelemetryRepositoryError TelemetryStreamRollover) := none
  repository : TelemetryRepository
  faulted : Bool := false
  phase : TelemetryThreadPhase := .control
  streams : List TelemetryStreamSpec
  durableCompletions : Nat := 0
  waits : Option TelemetryWait := none

inductive TelemetryRuntimeError where
  | zeroCapacity
  | repository (error : TelemetryRepositoryError)

namespace TelemetryHost

/-- `TelemetryRuntimeConfig::start`. -/
def start (disk : TelemetryDisk) (streams : List TelemetryStreamSpec) (outcomes : List IoOutcome)
    (capacity : Nat) : Except TelemetryRuntimeError TelemetryHost :=
  if capacity = 0 then .error .zeroCapacity
  else match TelemetryRepository.openLoop [] disk streams outcomes with
    | (.error error, _) => .error (.repository error)
    | (.ok repository, disk) => .ok { capacity, disk, repository, streams }

variable (host : TelemetryHost)

def completionRoom : Bool := host.completions.length < host.capacity + 1

def submit (record : TelemetryObservationRecord) : Option TelemetryHost :=
  if host.submitters ∧ host.phase ≠ .stopped ∧ host.input.length < host.capacity then
    some { host with input := host.input ++ [record] }
  else none

/-- Take a control message if there is one. -/
def storageControl (outcome : IoOutcome) : TelemetryHost :=
  let next : TelemetryThreadPhase := if host.faulted then .faultedWait else .input
  match host.control with
  | some .shutdown => { host with control := none, phase := .drainInput }
  | some (.rolloverStream previous spec) =>
    if host.faulted then
      { host with control := none, reply := some (.error .persistenceFaulted), phase := next }
    else
      let (result, repository, disk) :=
        TelemetryRepository.rolloverStream host.repository host.disk previous spec outcome
      { host with control := none, repository, disk, reply := some result, phase := next }
  | none =>
    if host.controlConnected then { host with phase := next } else { host with phase := .stopped }

/-- A faulted thread waits for a control message. -/
def storageFaulted : Option TelemetryHost :=
  match host.control with
  | some .shutdown => some { host with control := none, phase := .stopped }
  | some (.rolloverStream _ _) =>
    some { host with
      control := none, reply := some (.error .persistenceFaulted), phase := .control }
  | none => if host.controlConnected then none else some { host with phase := .stopped }

/-- Append a record and hold its completion. -/
def persistRecord (record : TelemetryObservationRecord) (input : List TelemetryObservationRecord)
    (outcome : IoOutcome) : TelemetryPersistenceCompletion × TelemetryHost :=
  let (result, repository, disk) :=
    TelemetryRepository.persist host.repository host.disk record outcome
  (⟨record, result⟩, { host with input, repository, disk })

def storageInput (outcome : IoOutcome) : TelemetryHost :=
  match host.input with
  | record :: input =>
    let (completion, host) := host.persistRecord record input outcome
    { host with faulted := ¬ completion.result.isOk, phase := .send completion }
  | [] =>
    if host.submitters then { host with phase := .control } else { host with phase := .stopped }

/-- A drain waits until every submitter is gone. -/
def storageDrain (outcome : IoOutcome) : Option TelemetryHost :=
  match host.input with
  | record :: input =>
    let (completion, host) := host.persistRecord record input outcome
    some { host with phase := .drainSend completion }
  | [] => if host.submitters then none else some { host with phase := .stopped }

/-- Send a completion, which blocks on a full channel. -/
def storageSend (completion : TelemetryPersistenceCompletion) (next : TelemetryThreadPhase) :
    Option TelemetryHost :=
  if host.completionRoom then
    some { host with completions := host.completions ++ [completion], phase := next }
  else none

/-- One step of the storage thread, unless it is blocked. -/
def storageStep (outcome : IoOutcome) : Option TelemetryHost :=
  match host.phase with
  | .control => some (host.storageControl outcome)
  | .faultedWait => host.storageFaulted
  | .input => some (host.storageInput outcome)
  | .send completion => host.storageSend completion .control
  | .drainInput => host.storageDrain outcome
  | .drainSend completion =>
    host.storageSend completion (if completion.result.isOk then .drainInput else .stopped)
  | .stopped => none

/-- `poll_health`: at most one completion, without waiting. -/
def pollHealth : Option TelemetryHost :=
  if host.waits.isSome then none
  else match host.completions with
    | [] => some host
    | completion :: completions =>
      some { host with
        completions
        durableCompletions :=
          if completion.result.isOk then min (2 ^ 64 - 1) (host.durableCompletions + 1)
          else host.durableCompletions }

def rolloverStream (host : TelemetryHost) (previous : TelemetryStreamKey)
    (next : TelemetryStreamSpec) : Option TelemetryHost :=
  if host.waits.isSome then none
  else if host.control.isSome ∨ host.phase = .stopped then some host
  else
    let alreadyRegistered := host.streams.any (·.config = next.config)
    some { host with
      control := some (.rolloverStream previous next)
      reply := none
      waits := some (.rollover next alreadyRegistered) }

def receiveReply : Option TelemetryHost :=
  match host.waits with
  | some (.rollover next alreadyRegistered) =>
    match host.reply with
    | some (.ok _) =>
      some { host with
        reply := none
        waits := none
        streams := if alreadyRegistered then host.streams else host.streams ++ [next] }
    | some (.error _) => some { host with reply := none, waits := none }
    | none => if host.phase = .stopped then some { host with waits := none } else none
  | _ => none

/-- `TelemetryPersistenceExecutor::shutdown`, with every submitter dropped before. -/
def shutdown (host : TelemetryHost) : Option TelemetryHost :=
  if host.waits.isSome then none
  else some { host with
    submitters := false
    control := some (host.control.getD .shutdown)
    controlConnected := false
    waits := some .shutdown }

/-- A shutdown takes every completion. -/
def collect : Option TelemetryHost :=
  if host.waits = some .shutdown then some { host with completions := host.completions.tail }
  else none

end TelemetryHost

inductive TelemetryEvent where
  | submit (record : TelemetryObservationRecord)
  | storage (outcome : IoOutcome)
  | poll
  | rollover (previous : TelemetryStreamKey) (next : TelemetryStreamSpec)
  | receive
  | shutdown
  | collect
deriving DecidableEq

namespace TelemetryHost

variable (host : TelemetryHost)

def step : TelemetryEvent → Option TelemetryHost
  | .submit record => host.submit record
  | .storage outcome => host.storageStep outcome
  | .poll => host.pollHealth
  | .rollover previous next => host.rolloverStream previous next
  | .receive => host.receiveReply
  | .shutdown => host.shutdown
  | .collect => host.collect

def run (events : List TelemetryEvent) : Option TelemetryHost :=
  runSteps step host events

/-- The coordinator waits for the answer to a request. -/
def awaitsReply : Bool :=
  match host.waits with
  | some (.rollover _ _) => ¬ host.reply.isSome
  | _ => false

/-- The thread has a completion to send and no room for it. -/
def awaitsRoom : Bool :=
  match host.phase with
  | .send _ | .drainSend _ => ¬ host.completionRoom
  | _ => false

/-- The coordinator waits for an answer and the thread for room in the completion channel. -/
def Deadlocked : Prop :=
  host.awaitsReply = true ∧ host.awaitsRoom = true

instance (host : TelemetryHost) : Decidable host.Deadlocked :=
  inferInstanceAs (Decidable (_ ∧ _))

end TelemetryHost
end SensorSystem.Host
