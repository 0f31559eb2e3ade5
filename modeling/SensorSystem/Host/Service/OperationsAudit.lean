import SensorSystem.Base.TornTail
import SensorSystem.Host.Service.OperationEvents

/-! `operations_audit.rs`: one file for a channel, to which every change of an operation is
appended and synced. Opening it reads all of its records and cuts off an incomplete last one;
anything else that does not read is an error. A failed append leaves the handle as it was. -/

namespace SensorSystem.Host.Operations

open Base Framing

def auditMagic : List UInt8 := [0x4f, 0x50, 0x41, 0x31]
def auditSchemaVersion : UInt8 := 1
def auditHeaderBytes : Nat := 16
def auditMaxPayloadBytes : Nat := 8192

inductive OperationsAuditError where
  | invalidChannel
  | wrongChannel
  | invalidRecord
  | checksumMismatch
  | sequenceOverflow
  | payloadTooLarge (length : Nat)
  | io
  | serialize
  | deserialize

/-- `serde_json::to_vec` and `serde_json::from_slice`. -/
structure SerdeJson where
  toVec : Json → Option (List UInt8)
  fromSlice : List UInt8 → Option Json

/-- What is documented of the two: a value reads back, and no text at all is not a value. An
object of the library is a map sorted by name. Here it is the list of its members, and one order,
the source's, stands for the map: `toVec` has no text for another. -/
structure SerdeJson.ReadsBack (serde : SerdeJson) : Prop where
  written : ∀ {value bytes}, serde.toVec value = some bytes → serde.fromSlice bytes = some value
  empty : serde.fromSlice [] = none

structure OperationsAuditWal where
  file : List UInt8
  channelId : UInt8
  nextSequence : UInt64

/-- The writes of one append end well, or with so many bytes of the record in the file. -/
inductive IoEnd where
  | synced
  | failed (reached : Nat)
deriving DecidableEq

/-- The longest file: its length is an `i64`. -/
def maxFileBytes : Nat := 2 ^ 63 - 1

/-- The bytes of a record that reach a file. -/
def IoEnd.reached (ending : IoEnd) (file bytes : List UInt8) : Nat :=
  match ending with
  | synced => min bytes.length (maxFileBytes - file.length)
  | failed reached => min reached (min bytes.length (maxFileBytes - file.length))

def IoEnd.succeeds (ending : IoEnd) (file bytes : List UInt8) : Prop :=
  ending = synced ∧ file.length + bytes.length ≤ maxFileBytes

instance (ending : IoEnd) (file bytes : List UInt8) : Decidable (ending.succeeds file bytes) :=
  inferInstanceAs (Decidable (_ ∧ _))

def auditHeader (payload : List UInt8) : List UInt8 :=
  auditMagic ++ [auditSchemaVersion, 0, 0, 0] ++ u32Bytes (.ofNat payload.length) ++
    u32Bytes (crc32c payload)

/-- A record: its header and the text of the event. -/
def auditRecord (payload : List UInt8) : List UInt8 := auditHeader payload ++ payload

namespace OperationsAuditWal
variable (serde : SerdeJson)

variable (wal : OperationsAuditWal)

/-- The text that `append_record` writes, with the clock as it is read. -/
def payloadOf (unixTimeMs : UInt64) (record : OperationRecord) :
    Except OperationsAuditError (List UInt8) :=
  if record.request.target.channelId ≠ wal.channelId then .error .wrongChannel
  else match serde.toVec (eventJson wal.nextSequence unixTimeMs record) with
    | none => .error .serialize
    | some bytes =>
      if bytes.length > auditMaxPayloadBytes then .error (.payloadTooLarge bytes.length)
      else .ok bytes

/-- `append_record`, with what becomes of the handle. -/
def appendRecord (unixTimeMs : UInt64) (record : OperationRecord) (ending : IoEnd) :
    Except OperationsAuditError Unit × OperationsAuditWal :=
  match wal.payloadOf serde unixTimeMs record with
  | .error error => (.error error, wal)
  | .ok payload =>
    let bytes := auditRecord payload
    let written := { wal with file := wal.file ++ bytes.take (ending.reached wal.file bytes) }
    if ending.succeeds wal.file bytes then
      match checkedAdd wal.nextSequence 1 with
      | none => (.error .sequenceOverflow, written)
      | some next => (.ok (), { written with nextSequence := next })
    else (.error .io, written)

end OperationsAuditWal

/-- The length of the next record's text, or nothing when the record is incomplete. -/
def nextLength (rest : List UInt8) : Except OperationsAuditError (Option Nat) :=
  if rest.length < auditHeaderBytes then .ok none
  else if rest.take 4 ≠ auditMagic ∨ rest.getD 4 0 ≠ auditSchemaVersion ∨
      slice rest 5 3 ≠ [0, 0, 0] then .error .invalidRecord
  else
    let length := (readU32 rest 8).toNat
    if length = 0 ∨ length > auditMaxPayloadBytes then .error .invalidRecord
    else if rest.length < auditHeaderBytes + length then .ok none
    else .ok (some length)

/-- The text of a complete record, against its checksum and its place. -/
def checkPayload (serde : SerdeJson) (channelId : UInt8) (count : UInt64) (checksum : UInt32)
    (payload : List UInt8) : Except OperationsAuditError Unit :=
  if crc32c payload ≠ checksum then .error .checksumMismatch
  else match serde.fromSlice payload with
    | none => .error .deserialize
    | some value =>
      if value.isEvent channelId count then .ok () else .error .invalidRecord

/-- `recover_and_count` from an offset: how much stays, and the next sequence. -/
def recoverLoop (serde : SerdeJson) (channelId : UInt8) (rest : List UInt8) (count : UInt64) :
    Except OperationsAuditError (Nat × UInt64) :=
  if rest = [] then .ok (0, count)
  else match nextLength rest with
    | .error error => .error error
    | .ok none => .ok (0, count)
    | .ok (some length) =>
      match checkPayload serde channelId count (readU32 rest 12)
          (slice rest auditHeaderBytes length) with
      | .error error => .error error
      | .ok () =>
        match checkedAdd count 1 with
        | none => .error .sequenceOverflow
        | some next =>
          match recoverLoop serde channelId (rest.drop (auditHeaderBytes + length)) next with
          | .error error => .error error
          | .ok (kept, total) => .ok (auditHeaderBytes + length + kept, total)
  termination_by rest.length
  decreasing_by
    have behind := List.length_pos_of_ne_nil ‹rest ≠ []›
    rw [List.length_drop, auditHeaderBytes]
    omega

/-- `OperationsAuditWal::open` on the bytes of the file. -/
def OperationsAuditWal.openFile (serde : SerdeJson) (channelId : UInt8) (file : List UInt8) :
    Except OperationsAuditError OperationsAuditWal :=
  if channelId = 0 then .error .invalidChannel
  else match recoverLoop serde channelId file 0 with
    | .error error => .error error
    | .ok (kept, nextSequence) => .ok ⟨file.take kept, channelId, nextSequence⟩

end SensorSystem.Host.Operations
