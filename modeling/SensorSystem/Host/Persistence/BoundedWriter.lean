import SensorSystem.Host.Protocol.MeasurementChecks
import SensorSystem.Host.Session.NodeSession

/-! `bounded_writer.rs`: an envelope holds one record and the receipt its durable copy earns. Jobs
wait in a bounded queue, and a sink makes the leading records of a group durable and says how
many. -/

namespace SensorSystem.Host

open Base

abbrev WriteJobId := UInt64

inductive PersistenceRecord where
  | chunk (hardwareId : HardwareId) (body : SampleChunk)
  | gap (missing : Gap)
  | continuityBreak (observed : ContinuityBreak)
deriving DecidableEq

def PersistenceRecord.startCursor : PersistenceRecord → SequenceCursor
  | .chunk _ body => body.header.first
  | .gap missing => missing.firstMissing
  | .continuityBreak observed => observed.at_

/-- A record and its receipt. Every constructor leaves the end behind the start. -/
structure PersistenceEnvelope where
  record : PersistenceRecord
  receipt : DurableReceipt
  forward : record.startCursor < receipt.stop
deriving DecidableEq

inductive PersistenceEnvelopeError where
  | invalidChunk (error : MeasurementWireError)
  | invalidContract (error : MeasurementContractError)

namespace PersistenceEnvelope

theorem chunk_forward {body : SampleChunk} {stop : SequenceCursor} (valid : body.validate = .ok ())
    (reached : body.header.endCursor = some stop) : body.header.first < stop := by
  obtain ⟨structured, -⟩ := check_eq_ok.mp valid
  obtain ⟨-, -, filled, -⟩ :=
    SampleChunkHeader.validateStructure_eq_ok.mp (mapError_eq_ok.mp structured)
  have sum := checkedAdd_eq_some.mp reached
  have positive := UInt16.toNat_inj.not.mpr filled
  rw [UInt64.lt_iff_toNat_lt]
  simp only [UInt16.toNat_toUInt64, UInt16.toNat_zero] at sum positive
  omega

def chunk (hardwareId : HardwareId) (body : SampleChunk) :
    Except PersistenceEnvelopeError PersistenceEnvelope :=
  match valid : body.validate with
  | .error error => .error (.invalidChunk error)
  | .ok () => match reached : body.header.endCursor with
    | none => .error (.invalidContract .sequenceOverflow)
    | some stop => .ok
      { record := .chunk hardwareId body
        receipt := ⟨hardwareId, body.header.bootEpoch, stop⟩
        forward := chunk_forward valid reached }

theorem gap_forward (missing : Gap) :
    missing.firstMissing < missing.firstMissing + missing.missingCount := by
  have positive := UInt64.toNat_inj.not.mpr missing.nonempty
  have bounded := missing.bounded
  rw [UInt64.lt_iff_toNat_lt, UInt64.toNat_add, Nat.mod_eq_of_lt bounded]
  simp only [UInt64.toNat_zero] at positive
  omega

def gap (missing : Gap) : PersistenceEnvelope where
  record := .gap missing
  receipt := ⟨missing.hardwareId, missing.bootEpoch, missing.firstMissing + missing.missingCount⟩
  forward := gap_forward missing

theorem continuityBreak_forward (observed : ContinuityBreak) :
    observed.at_ < observed.endCursor := by
  rw [UInt64.lt_iff_toNat_lt, ContinuityBreak.endCursor, UInt64.toNat_add, UInt64.toNat_one,
    Nat.mod_eq_of_lt observed.bounded]
  exact Nat.lt_succ_self _

def continuityBreak (observed : ContinuityBreak) : PersistenceEnvelope where
  record := .continuityBreak observed
  receipt := ⟨observed.hardwareId, observed.bootEpoch, observed.endCursor⟩
  forward := continuityBreak_forward observed

def fromPending : PendingPersistence → Except PersistenceEnvelopeError PersistenceEnvelope
  | .chunk hardwareId body => chunk hardwareId body
  | .gap missing => .ok (gap missing)
  | .continuityBreak observed => .ok (continuityBreak observed)

def hardwareId (envelope : PersistenceEnvelope) : HardwareId := envelope.receipt.hardwareId
def bootEpoch (envelope : PersistenceEnvelope) : BootEpoch := envelope.receipt.bootEpoch
def startCursor (envelope : PersistenceEnvelope) : SequenceCursor := envelope.record.startCursor
def endCursor (envelope : PersistenceEnvelope) : SequenceCursor := envelope.receipt.stop

end PersistenceEnvelope

structure GroupPersistSuccess where
  persistedRecords : Nat

inductive GroupPersistError (E : Type) where
  | preparation (error : E)
  | commit (attemptedRecords : Nat) (error : E)

/-- `GroupDurableMeasurementSink` with its associated error type. -/
class GroupDurableMeasurementSink (S : Type) where
  Error : Type
  persistGroup : S → List PersistenceEnvelope →
    Except (GroupPersistError Error) GroupPersistSuccess × S

structure WriteCompletion (E : Type) where
  id : WriteJobId
  result : Except E DurableReceipt

inductive SubmitErrorKind where
  | queueFull
  | workerFaulted
  | jobIdExhausted

/-- A refused submission hands its envelope back. -/
structure SubmitError where
  kind : SubmitErrorKind
  envelope : PersistenceEnvelope

end SensorSystem.Host
