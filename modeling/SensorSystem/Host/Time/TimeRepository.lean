import SensorSystem.Base.Entries
import SensorSystem.Host.Protocol.ObservationWire

/-! `time_wal.rs` and `time_repository.rs` at the level of records: a file holds the identity of
its stream and the observations whose bytes are durable. An append can fail before or after its
bytes became durable, and its handle is poisoned in both cases. -/

namespace SensorSystem.Host

open Base
open Framing (hostAddress broadcastAddress)

abbrev HostClockId := Vector UInt8 16

structure TimeWalConfig where
  hardwareId : HardwareId
  nodeAddress : UInt8
  bootEpoch : BootEpoch
  hostClockId : HostClockId
deriving DecidableEq

inductive TimeWalError where
  | io
  | invalidNodeAddress (nodeAddress : UInt8)
  | zeroBootEpoch
  | zeroHostClockId
  | hardwareMismatch
  | nodeAddressMismatch
  | bootEpochMismatch
  | hostClockMismatch
  | observation (error : ClockObservationError)
  | nonMonotonicObservation
  | lengthOverflow
  | poisoned
deriving DecidableEq

def TimeWalConfig.validate (config : TimeWalConfig) : Except TimeWalError Unit :=
  if config.nodeAddress = hostAddress ∨ config.nodeAddress = broadcastAddress then
    .error (.invalidNodeAddress config.nodeAddress)
  else if config.bootEpoch = 0 then .error .zeroBootEpoch
  else if config.hostClockId.all (· = 0) then .error .zeroHostClockId
  else .ok ()

structure TimeFile where
  config : TimeWalConfig
  observations : List ClockObservation

/-- The files by their paths. -/
abbrev TimeDisk := String → Option TimeFile

def TimeDisk.put (disk : TimeDisk) (path : String) (file : TimeFile) : TimeDisk :=
  fun other => if other = path then some file else disk other

/-- What the filesystem does in one operation. -/
inductive IoOutcome where
  | succeeds
  | failsBefore
  | failsAfter
deriving DecidableEq

def timeWalHeaderBytes : Nat := 64
def timeWalRecordBytes : Nat := 36

def validateHeaderIdentity (expected actual : TimeWalConfig) : Except TimeWalError Unit :=
  if actual.hardwareId ≠ expected.hardwareId then .error .hardwareMismatch
  else if actual.nodeAddress ≠ expected.nodeAddress then .error .nodeAddressMismatch
  else if actual.bootEpoch ≠ expected.bootEpoch then .error .bootEpochMismatch
  else if actual.hostClockId ≠ expected.hostClockId then .error .hostClockMismatch
  else .ok ()

def validateObservation (bootEpoch : BootEpoch) (previous : Option ClockObservation)
    (observation : ClockObservation) : Except TimeWalError Unit :=
  if observation.bootEpoch ≠ bootEpoch then .error .bootEpochMismatch
  else match ClockObservation.new observation.bootEpoch observation.hostSendUs
      observation.nodeReceiveUs observation.nodeSendUs observation.hostReceiveUs with
    | .error error => .error (.observation error)
    | .ok _ =>
      match previous with
      | none => .ok ()
      | some previous =>
        if observation.hostSendUs ≤ previous.hostSendUs ∨
            observation.nodeReceiveUs ≤ previous.nodeReceiveUs ∨
            observation.nodeSendUs ≤ previous.nodeSendUs ∨
            observation.hostReceiveUs ≤ previous.hostReceiveUs then
          .error .nonMonotonicObservation
        else .ok ()

structure TimeWalRecovery where
  recordCount : Nat
  lastObservation : Option ClockObservation
deriving DecidableEq

/-- The loop of `recover` over the records of a file. -/
def recoverFrom (bootEpoch : BootEpoch) (recovery : TimeWalRecovery) :
    List ClockObservation → Except TimeWalError TimeWalRecovery
  | [] => .ok recovery
  | observation :: rest => do
    validateObservation bootEpoch recovery.lastObservation observation
    recoverFrom bootEpoch ⟨recovery.recordCount + 1, some observation⟩ rest

structure TimeWalSink where
  path : String
  config : TimeWalConfig
  recovery : TimeWalRecovery
  poisoned : Bool := false

namespace TimeWalSink

/-- A file that is not there yet is created with its header. -/
def create (disk : TimeDisk) (path : String) (config : TimeWalConfig) : TimeDisk :=
  match disk path with
  | some _ => disk
  | none => disk.put path ⟨config, []⟩

def openWal (disk : TimeDisk) (path : String) (config : TimeWalConfig) (outcome : IoOutcome) :
    Except TimeWalError TimeWalSink × TimeDisk :=
  match config.validate with
  | .error error => (.error error, disk)
  | .ok () =>
    let created := create disk path config
    match outcome with
    | .failsBefore => (.error .io, disk)
    | .failsAfter => (.error .io, created)
    | .succeeds =>
      let file := (created path).getD ⟨config, []⟩
      (do
        validateHeaderIdentity config file.config
        let recovery ← recoverFrom config.bootEpoch ⟨0, none⟩ file.observations
        .ok { path, config, recovery }, created)

/-- The bytes of an observation are in the file. -/
def write (sink : TimeWalSink) (disk : TimeDisk) (observation : ClockObservation) : TimeDisk :=
  match disk sink.path with
  | some file =>
    disk.put sink.path { file with observations := file.observations ++ [observation] }
  | none => disk

def append (sink : TimeWalSink) (disk : TimeDisk) (observation : ClockObservation)
    (outcome : IoOutcome) : Except TimeWalError Unit × TimeWalSink × TimeDisk :=
  if sink.poisoned then (.error .poisoned, sink, disk)
  else match validateObservation sink.config.bootEpoch sink.recovery.lastObservation
      observation with
    | .error error => (.error error, sink, disk)
    | .ok () =>
      if timeWalHeaderBytes + timeWalRecordBytes * (sink.recovery.recordCount + 1) ≥ 2 ^ 64 then
        (.error .lengthOverflow, sink, disk)
      else match outcome with
        | .failsBefore => (.error .io, { sink with poisoned := true }, disk)
        | .failsAfter =>
          (.error .io, { sink with poisoned := true }, sink.write disk observation)
        | .succeeds =>
          (.ok (), { sink with
            recovery := ⟨sink.recovery.recordCount + 1, some observation⟩ },
            sink.write disk observation)

end TimeWalSink

structure TimeStreamKey where
  hardwareId : HardwareId
  nodeAddress : UInt8
  bootEpoch : BootEpoch
deriving DecidableEq

def TimeWalConfig.key (config : TimeWalConfig) : TimeStreamKey :=
  ⟨config.hardwareId, config.nodeAddress, config.bootEpoch⟩

structure TimeObservationRecord where
  hardwareId : HardwareId
  nodeAddress : UInt8
  observation : ClockObservation
deriving DecidableEq

def TimeObservationRecord.key (record : TimeObservationRecord) : TimeStreamKey :=
  ⟨record.hardwareId, record.nodeAddress, record.observation.bootEpoch⟩

structure TimeStreamSpec where
  path : String
  config : TimeWalConfig
deriving DecidableEq

structure TimeDurableReceipt where
  stream : TimeStreamKey
  recordCount : Nat

structure TimeStreamRollover where
  stream : TimeStreamKey
  durableRecordCount : Nat

inductive TimeRepositoryError where
  | wal (error : TimeWalError)
  | noStreams
  | mixedHostClockIds
  | duplicateStream (stream : TimeStreamKey)
  | unknownStream (stream : TimeStreamKey)
  | rolloverIdentityMismatch (previous next : TimeStreamKey)
  | unchangedBootEpoch (stream : TimeStreamKey)

structure TimeRepository where
  hostClockId : HostClockId
  streams : List TimeWalSink

namespace TimeRepository

def hasKey (streams : List TimeWalSink) (key : TimeStreamKey) : Bool :=
  streams.any (·.config.key = key)

/-- The loop of `open` over the specifications. -/
def openLoop (hostClockId : HostClockId) (streams : List TimeWalSink) (disk : TimeDisk) :
    List TimeStreamSpec → List IoOutcome → Except TimeRepositoryError TimeRepository × TimeDisk
  | [], _ => (.ok ⟨hostClockId, streams⟩, disk)
  | spec :: specs, outcomes =>
    if spec.config.hostClockId ≠ hostClockId then (.error .mixedHostClockIds, disk)
    else if hasKey streams spec.config.key then
      (.error (.duplicateStream spec.config.key), disk)
    else match TimeWalSink.openWal disk spec.path spec.config (outcomes.headD .succeeds) with
      | (.error error, disk) => (.error (.wal error), disk)
      | (.ok sink, disk) => openLoop hostClockId (streams ++ [sink]) disk specs outcomes.tail

/-- The clock of the first stream is the clock of all. -/
def openStreams (disk : TimeDisk) (specs : List TimeStreamSpec) (outcomes : List IoOutcome) :
    Except TimeRepositoryError TimeRepository × TimeDisk :=
  match specs with
  | [] => (.error .noStreams, disk)
  | first :: _ => openLoop first.config.hostClockId [] disk specs outcomes

variable (repository : TimeRepository)

def stream (key : TimeStreamKey) : Option TimeWalSink :=
  repository.streams.find? (·.config.key = key)

def recoveries : List (TimeStreamKey × Nat) :=
  repository.streams.map fun sink => (sink.config.key, sink.recovery.recordCount)

def durableRecordCount (key : TimeStreamKey) : Option Nat :=
  (repository.stream key).map (·.recovery.recordCount)

def rolloverStream (disk : TimeDisk) (previous : TimeStreamKey) (next : TimeStreamSpec)
    (outcome : IoOutcome) :
    Except TimeRepositoryError TimeStreamRollover × TimeRepository × TimeDisk :=
  let nextKey := next.config.key
  if repository.stream previous = none then (.error (.unknownStream previous), repository, disk)
  else if previous.hardwareId ≠ nextKey.hardwareId ∨
      previous.nodeAddress ≠ nextKey.nodeAddress then
    (.error (.rolloverIdentityMismatch previous nextKey), repository, disk)
  else if previous.bootEpoch = nextKey.bootEpoch then
    (.error (.unchangedBootEpoch nextKey), repository, disk)
  else if next.config.hostClockId ≠ repository.hostClockId then
    (.error .mixedHostClockIds, repository, disk)
  else match repository.stream nextKey with
    | some existing => (.ok ⟨nextKey, existing.recovery.recordCount⟩, repository, disk)
    | none =>
      match TimeWalSink.openWal disk next.path next.config outcome with
      | (.error error, disk) => (.error (.wal error), repository, disk)
      | (.ok sink, disk) =>
        (.ok ⟨nextKey, sink.recovery.recordCount⟩,
          { repository with streams := repository.streams ++ [sink] }, disk)

def persist (disk : TimeDisk) (record : TimeObservationRecord) (outcome : IoOutcome) :
    Except TimeRepositoryError TimeDurableReceipt × TimeRepository × TimeDisk :=
  match repository.stream record.key with
  | none => (.error (.unknownStream record.key), repository, disk)
  | some sink =>
    let (result, appended, disk) := sink.append disk record.observation outcome
    let repository := { repository with
      streams := updateFirst (·.config.key = record.key) (fun _ => appended) repository.streams }
    match result with
    | .error error => (.error (.wal error), repository, disk)
    | .ok () => (.ok ⟨record.key, appended.recovery.recordCount⟩, repository, disk)

end TimeRepository
end SensorSystem.Host
