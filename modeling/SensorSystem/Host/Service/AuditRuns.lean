import SensorSystem.Host.Service.OperationsAudit

/-! A run is a list of appends on one open audit, each with what its writes come to. The records
in the file stay the ones that the appends made, up to the point where an append is made behind
what a failed one left. -/

namespace SensorSystem.Host.Operations

open List OperationsAuditWal
open Base Framing

/-- A text that can stand at this place of an audit. -/
structure Placed (serde : SerdeJson) (channelId : UInt8) (index : Nat) (payload : List UInt8) :
    Prop where
  nonempty : payload ≠ []
  small : payload.length ≤ auditMaxPayloadBytes
  event : ∃ value, serde.fromSlice payload = some value ∧ value.isEvent channelId (.ofNat index)

def InOrder (serde : SerdeJson) (channelId : UInt8) (base : Nat) (payloads : List (List UInt8)) :
    Prop :=
  ∀ index payload, payloads[index]? = some payload → Placed serde channelId (base + index) payload

@[simp] theorem length_auditHeader (payload : List UInt8) :
    (auditHeader payload).length = auditHeaderBytes := by
  simp [auditHeader, auditMagic, auditHeaderBytes]

@[simp] theorem length_auditRecord (payload : List UInt8) :
    (auditRecord payload).length = auditHeaderBytes + payload.length := by
  rw [auditRecord, length_append, length_auditHeader]

section InOrder
variable {serde : SerdeJson} {channelId : UInt8} {base : Nat}
  {payload : List UInt8} {payloads : List (List UInt8)}

theorem InOrder.nil : InOrder serde channelId base [] := fun _ _ found => nomatch found

theorem inOrder_cons : InOrder serde channelId base (payload :: payloads) ↔
    Placed serde channelId base payload ∧ InOrder serde channelId (base + 1) payloads := by
  constructor
  · refine fun ordered => ⟨ordered 0 payload rfl, fun index later found => ?_⟩
    rw [Nat.add_assoc, Nat.add_comm 1]
    exact ordered (index + 1) later found
  rintro ⟨first, rest⟩ index later found
  cases index with
  | zero =>
    obtain rfl : payload = later := Option.some.inj found
    exact first
  | succ index =>
    rw [Nat.add_comm index, ← Nat.add_assoc]
    exact rest index later found

theorem InOrder.concat (ordered : InOrder serde channelId base payloads)
    (placed : Placed serde channelId (base + payloads.length) payload) :
    InOrder serde channelId base (payloads ++ [payload]) := by
  intro index later found
  rw [getElem?_append] at found
  split at found
  · exact ordered index later found
  obtain ⟨rfl, inside⟩ : payload = later ∧ index - payloads.length = 0 := by
    cases offset : index - payloads.length with
    | zero =>
      rw [offset] at found
      exact ⟨Option.some.inj found, rfl⟩
    | succ offset' =>
      rw [offset] at found
      exact nomatch found
  obtain rfl : index = payloads.length := by omega
  exact placed

theorem InOrder.of_prefix {whole : List (List UInt8)} (ordered : InOrder serde channelId base whole)
    (first : payloads <+: whole) : InOrder serde channelId base payloads := by
  intro index payload found
  obtain ⟨rest, rfl⟩ := first
  apply ordered index payload
  rw [getElem?_append_left (List.getElem?_eq_some_iff.mp found).1, found]

end InOrder

section Reading
variable {serde : SerdeJson} {channelId : UInt8} {payload rest : List UInt8}

variable (nonempty : payload ≠ []) (small : payload.length ≤ auditMaxPayloadBytes)

include nonempty small

theorem nextLength_of_header (header : rest.take auditHeaderBytes = auditHeader payload) :
    nextLength rest = if rest.length < auditHeaderBytes + payload.length then .ok none
      else .ok (some payload.length) := by
  obtain ⟨tail, rfl⟩ : ∃ tail, rest = auditHeader payload ++ tail := by
    refine ⟨rest.drop auditHeaderBytes, ?_⟩
    rw [← header, take_append_drop]
  have some := length_pos_of_ne_nil nonempty
  rw [auditMaxPayloadBytes] at small
  have size : (UInt32.ofNat payload.length).toNat = payload.length := by
    rw [UInt32.toNat_ofNat']
    omega
  have spelled : readU32 (auditHeader payload ++ tail) 8 = .ofNat payload.length := by
    simp [auditHeader, auditMagic]
  have long : ¬ (auditHeader payload ++ tail).length < auditHeaderBytes := by simp
  have known : ¬ ((auditHeader payload ++ tail).take 4 ≠ auditMagic ∨
      (auditHeader payload ++ tail).getD 4 0 ≠ auditSchemaVersion ∨
      slice (auditHeader payload ++ tail) 5 3 ≠ [0, 0, 0]) := by
    simp [auditHeader, auditMagic, auditSchemaVersion, slice]
  rw [nextLength, if_neg long, if_neg known]
  simp only [spelled, size]
  rw [if_neg (by rw [auditMaxPayloadBytes]; omega)]

theorem nextLength_record :
    nextLength (auditRecord payload ++ rest) = .ok (some payload.length) := by
  rw [nextLength_of_header nonempty small, if_neg]
  · simp
  · rw [auditRecord, append_assoc, take_left' (length_auditHeader payload)]

/-- A proper part of a record is cut off. -/
theorem nextLength_torn {torn : List UInt8} (part : torn <+: auditRecord payload)
    (proper : torn.length < (auditRecord payload).length) : nextLength torn = .ok none := by
  by_cases short : torn.length < auditHeaderBytes
  · rw [nextLength, if_pos short]
  rw [length_auditRecord] at proper
  rw [nextLength_of_header nonempty small, if_pos proper]
  rw [prefix_iff_eq_take.mp part, take_take, Nat.min_eq_left (by omega), auditRecord,
    take_left' (length_auditHeader payload)]

omit small nonempty

variable {count : UInt64}

theorem checkPayload_eq_ok {checksum : UInt32} :
    checkPayload serde channelId count checksum payload = .ok () ↔ crc32c payload = checksum ∧
      ∃ value, serde.fromSlice payload = some value ∧ value.isEvent channelId count := by
  rw [checkPayload]
  by_cases matching : crc32c payload = checksum
  · rw [if_neg (not_not_intro matching)]
    cases read : serde.fromSlice payload with
    | none => exact ⟨nofun, fun ⟨_, _, impossible, _⟩ => nomatch impossible⟩
    | some value =>
      by_cases fits : value.isEvent channelId count
      · simp only [if_pos fits]
        exact ⟨fun _ => ⟨matching, value, rfl, fits⟩, fun _ => trivial⟩
      simp only [if_neg fits]
      refine ⟨nofun, fun ⟨_, other, same, event⟩ => ?_⟩
      exact absurd (Option.some.inj same ▸ event) fits
  · rw [if_pos matching]
    exact ⟨nofun, fun ⟨same, _⟩ => absurd same matching⟩

/-- What stands behind the complete records: nothing, or a part of a next one. -/
def TornEnd (torn : List UInt8) : Prop :=
  torn = [] ∨ ∃ payload, payload ≠ [] ∧ payload.length ≤ auditMaxPayloadBytes ∧
    torn <+: auditRecord payload ∧ torn.length < (auditRecord payload).length

theorem recoverLoop_torn {torn : List UInt8} (tornEnd : TornEnd torn) (count : UInt64) :
    recoverLoop serde channelId torn count = .ok (0, count) := by
  rw [recoverLoop]
  obtain empty | ⟨payload, nonempty, small, part, proper⟩ := tornEnd
  · rw [if_pos empty]
  · rw [nextLength_torn nonempty small part proper]
    exact ite_self _

theorem recoverLoop_record (placed : Placed serde channelId count.toNat payload)
    (room : count.toNat + 1 < 2 ^ 64) :
    recoverLoop serde channelId (auditRecord payload ++ rest) count =
      (recoverLoop serde channelId rest (count + 1)).map fun (kept, total) =>
        ((auditRecord payload).length + kept, total) := by
  have next : checkedAdd count 1 = some (count + 1) := by
    rw [checkedAdd_eq_some, UInt64.toNat_add]
    exact (Nat.mod_eq_of_lt room).symm
  have text : slice (auditRecord payload ++ rest) auditHeaderBytes payload.length = payload := by
    rw [auditRecord, append_assoc, slice_append_of_le (by simp), length_auditHeader,
      Nat.sub_self, slice_zero_append _ rfl]
  have checksum : readU32 (auditRecord payload ++ rest) 12 = crc32c payload := by
    simp [auditRecord, auditHeader, auditMagic]
  have checked : checkPayload serde channelId count (crc32c payload) payload = .ok () := by
    rw [checkPayload_eq_ok]
    have event := placed.event
    rw [UInt64.ofNat_toNat] at event
    exact ⟨rfl, event⟩
  have some : auditRecord payload ++ rest ≠ [] := by simp [auditRecord, auditHeader, auditMagic]
  have behind : (auditRecord payload ++ rest).drop (auditHeaderBytes + payload.length) = rest := by
    rw [← length_auditRecord, drop_left]
  rw [recoverLoop, if_neg some, nextLength_record placed.nonempty placed.small]
  simp only [text, checksum, checked, next, behind, length_auditRecord]
  cases recoverLoop serde channelId rest (count + 1) <;> rfl

/-- Records are counted, and an incomplete end is cut off. -/
theorem recoverLoop_records {payloads : List (List UInt8)} {torn : List UInt8}
    (ordered : InOrder serde channelId count.toNat payloads) (tornEnd : TornEnd torn)
    (room : count.toNat + payloads.length < 2 ^ 64) :
    ∃ total, recoverLoop serde channelId (payloads.flatMap auditRecord ++ torn) count =
        .ok ((payloads.flatMap auditRecord).length, total) ∧
      total.toNat = count.toNat + payloads.length := by
  induction payloads generalizing count with
  | nil => exact ⟨count, recoverLoop_torn tornEnd count, rfl⟩
  | cons payload payloads ih =>
    rw [length_cons] at room
    obtain ⟨placed, later⟩ := inOrder_cons.mp ordered
    have next : (count + 1).toNat = count.toNat + 1 := by
      rw [UInt64.toNat_add]
      exact Nat.mod_eq_of_lt (by simp; omega)
    obtain ⟨total, rest, sum⟩ := ih (next ▸ later) (by omega)
    refine ⟨total, ?_, by rw [sum, next, length_cons]; omega⟩
    rw [flatMap_cons, append_assoc, recoverLoop_record placed (by omega), rest,
      length_append]
    rfl

/-- What `recover_and_count` reads as a complete record is one. -/
theorem record_of_nextLength {length : Nat} (read : nextLength rest = .ok (some length))
    (matching : crc32c (slice rest auditHeaderBytes length) = readU32 rest 12) :
    ∃ payload, rest = auditRecord payload ++ rest.drop (auditHeaderBytes + length) ∧
      slice rest auditHeaderBytes length = payload ∧ payload.length = length ∧ payload ≠ [] ∧
      payload.length ≤ auditMaxPayloadBytes := by
  rw [nextLength] at read
  simp only at read
  split at read
  · exact nomatch read
  split at read
  · exact nomatch read
  split at read
  · exact nomatch read
  split at read
  · exact nomatch read
  rename_i long known bounds room
  obtain rfl := Option.some.inj (Except.ok.inj read)
  simp only [not_or, ne_eq, not_not] at known
  obtain ⟨magic, version, reserved⟩ := known
  rw [auditHeaderBytes] at long room ⊢
  have size : (slice rest 16 (readU32 rest 8).toNat).length = (readU32 rest 8).toNat :=
    length_slice (by omega)
  have spelled : u32Bytes (.ofNat (slice rest 16 (readU32 rest 8).toNat).length) =
      slice rest 8 4 := by
    rw [size, UInt32.ofNat_toNat, u32Bytes_readU32 (by omega)]
  have checksum : u32Bytes (crc32c (slice rest 16 (readU32 rest 8).toNat)) = slice rest 12 4 := by
    rw [auditHeaderBytes] at matching
    rw [matching, u32Bytes_readU32 (by omega)]
  have whole := fields_eq_slice rest 0 [4, 1, 3, 4, 4, (readU32 rest 8).toNat]
  simp only [fields, append_nil, sum_cons, sum_nil, Nat.add_zero, Nat.zero_add,
    Nat.reduceAdd] at whole
  refine ⟨slice rest 16 (readU32 rest 8).toNat, ?_, rfl, size, ?_, by omega⟩
  · have first : slice rest 0 4 = auditMagic := magic
    have second : slice rest 4 1 = [auditSchemaVersion] := by
      rw [slice_one (by omega), version]
    rw [auditRecord, auditHeader, spelled, checksum, ← first]
    have joined : slice rest 0 4 ++ [auditSchemaVersion, 0, 0, 0] ++ slice rest 8 4 ++
        slice rest 12 4 ++ slice rest 16 (readU32 rest 8).toNat =
          rest.take (16 + (readU32 rest 8).toNat) := by
      have all : slice rest 0 (4 + (1 + (3 + (4 + (4 + (readU32 rest 8).toNat))))) =
          rest.take (16 + (readU32 rest 8).toNat) := by
        rw [slice, drop_zero]
        congr 1
        omega
      rw [← all, ← whole, second, reserved]
      simp
    rw [joined, take_append_drop]
  · intro empty
    rw [empty] at size
    exact bounds (.inl size.symm)

/-- A file is its counted records, and what was cut off. -/
theorem records_of_recoverLoop {total : UInt64} {kept : Nat}
    (read : recoverLoop serde channelId rest count = .ok (kept, total)) :
    ∃ payloads, InOrder serde channelId count.toNat payloads ∧
      rest.take kept = payloads.flatMap auditRecord ∧
      total.toNat = count.toNat + payloads.length := by
  induction rest, count using recoverLoop.induct serde channelId generalizing kept total with
  | case1 count =>
    rw [recoverLoop, if_pos rfl] at read
    cases read
    exact ⟨[], .nil, rfl, rfl⟩
  | case2 rest count some error refused =>
    rw [recoverLoop, if_neg some, refused] at read
    exact nomatch read
  | case3 rest count some torn =>
    rw [recoverLoop, if_neg some, torn] at read
    cases read
    exact ⟨[], .nil, take_zero, rfl⟩
  | case4 rest count some length complete error refused =>
    rw [recoverLoop, if_neg some, complete] at read
    simp only [refused] at read
    exact nomatch read
  | case5 rest count some length complete checked full =>
    rw [recoverLoop, if_neg some, complete] at read
    simp only [checked, full] at read
    exact nomatch read
  | case6 rest count some length complete checked next added error refused =>
    rw [recoverLoop, if_neg some, complete] at read
    simp only [checked, added, refused] at read
    exact nomatch read
  | case7 rest count some length complete checked next added later laterTotal behind ih =>
    rw [recoverLoop, if_neg some, complete] at read
    simp only [checked, added, behind] at read
    cases read
    obtain ⟨payloads, ordered, split, sum⟩ := ih behind
    obtain ⟨matching, event⟩ := checkPayload_eq_ok.mp checked
    obtain ⟨payload, record, text, size, nonempty, small⟩ := record_of_nextLength complete matching
    have step : count.toNat + 1 = next.toNat := checkedAdd_eq_some.mp added
    rw [text] at event
    refine ⟨payload :: payloads, inOrder_cons.mpr ⟨⟨nonempty, small, ?_⟩, step ▸ ordered⟩, ?_, ?_⟩
    · rwa [UInt64.ofNat_toNat]
    · rw [flatMap_cons, ← split, record, ← size, ← length_auditRecord, drop_left,
        take_length_add_append]
    · rw [sum, length_cons]
      omega

end Reading

/-- One call of `append_record`, and what its writes come to. -/
structure AuditCall where
  unixTimeMs : UInt64
  record : OperationRecord
  ending : IoEnd

/-- A record whose append returned success, and the length of the file then. -/
structure AcknowledgedRecord where
  sequence : UInt64
  payload : List UInt8
  stop : Nat

structure AuditRun where
  wal : OperationsAuditWal
  acknowledged : List AcknowledgedRecord

namespace AuditCall
variable (serde : SerdeJson)

/-- The bytes of the call that reach the file. -/
def stored (call : AuditCall) (wal : OperationsAuditWal) : Nat :=
  match wal.payloadOf serde call.unixTimeMs call.record with
  | .error _ => 0
  | .ok payload => call.ending.reached wal.file (auditRecord payload)

/-- The call fails when some of its bytes have reached the file. -/
def tears (call : AuditCall) (wal : OperationsAuditWal) : Bool :=
  match wal.payloadOf serde call.unixTimeMs call.record with
  | .error _ => false
  | .ok payload =>
    0 < call.ending.reached wal.file (auditRecord payload) ∧
      ¬ call.ending.succeeds wal.file (auditRecord payload)

def appended (call : AuditCall) (wal : OperationsAuditWal) :
    Except OperationsAuditError Unit × OperationsAuditWal :=
  wal.appendRecord serde call.unixTimeMs call.record call.ending

end AuditCall

namespace AuditRun
variable (serde : SerdeJson)

def call (run : AuditRun) (call : AuditCall) : AuditRun :=
  let (result, wal) := call.appended serde run.wal
  match result, run.wal.payloadOf serde call.unixTimeMs call.record with
  | .ok (), .ok payload =>
    ⟨wal, run.acknowledged ++ [⟨run.wal.nextSequence, payload, wal.file.length⟩]⟩
  | _, _ => ⟨wal, run.acknowledged⟩

def calls (run : AuditRun) (calls : List AuditCall) : AuditRun :=
  calls.foldl (AuditRun.call serde) run

end AuditRun

/-- No call puts a byte behind what a failed one left in the file. -/
def Undisturbed (serde : SerdeJson) : OperationsAuditWal → Bool → List AuditCall → Prop
  | _, _, [] => True
  | wal, torn, call :: calls =>
    (torn = true → call.stored serde wal = 0) ∧
      Undisturbed serde (call.appended serde wal).2 (torn || call.tears serde wal) calls

/-- The complete records of a file, one behind the other. -/
def CompleteRecords (file : List UInt8) (payloads : List (List UInt8)) : Prop :=
  ∃ torn, file = payloads.flatMap auditRecord ++ torn ∧
    ∀ payload rest, payload.length ≤ auditMaxPayloadBytes → torn ≠ auditRecord payload ++ rest

/-- A file opens again with its complete records, the acknowledged ones among them. -/
def ReopensWhole (serde : SerdeJson) (channelId : UInt8) (file : List UInt8)
    (acknowledged : List AcknowledgedRecord) : Prop :=
  ∃ recovered payloads, openFile serde channelId file = .ok recovered ∧
    CompleteRecords file payloads ∧ recovered.nextSequence.toNat = payloads.length ∧
    recovered.file = payloads.flatMap auditRecord ∧
    (∀ index payload, payloads[index]? = some payload →
      ∃ value, serde.fromSlice payload = some value ∧
        value.u64At "event_sequence" = some (.ofNat index)) ∧
    ∀ record ∈ acknowledged, record.stop ≤ file.length →
      payloads[record.sequence.toNat]? = some record.payload

/-- The file is the first part of records in order, and without a failed append it is these records.
-/
structure Intact (serde : SerdeJson) (channelId : UInt8) (run : AuditRun) (torn : Bool)
    (payloads : List (List UInt8)) : Prop where
  channel : run.wal.channelId = channelId
  ordered : InOrder serde channelId 0 payloads
  first : run.wal.file <+: payloads.flatMap auditRecord
  bounded : run.wal.file.length ≤ maxFileBytes
  whole : torn = false → run.wal.file = payloads.flatMap auditRecord ∧
    run.wal.nextSequence.toNat = payloads.length
  acknowledged : ∀ record ∈ run.acknowledged,
    payloads[record.sequence.toNat]? = some record.payload ∧
      record.stop = ((payloads.take (record.sequence.toNat + 1)).flatMap auditRecord).length

theorem length_records (payloads : List (List UInt8)) :
    16 * payloads.length ≤ (payloads.flatMap auditRecord).length := by
  induction payloads with
  | nil => exact Nat.zero_le _
  | cons payload payloads ih =>
    rw [flatMap_cons, length_append, length_auditRecord, auditHeaderBytes,
      length_cons]
    omega

/-- An incomplete record has no complete one in front. -/
theorem TornEnd.incomplete {torn : List UInt8} (tornEnd : TornEnd torn) (payload rest : List UInt8)
    (small : payload.length ≤ auditMaxPayloadBytes) : torn ≠ auditRecord payload ++ rest := by
  rintro rfl
  obtain empty | ⟨next, nonempty, nextSmall, part, proper⟩ := tornEnd
  · simp [auditRecord, auditHeader, auditMagic] at empty
  -- Both headers are the same, so the lengths that they tell are.
  have headers : auditHeader payload = auditHeader next := by
    have same := part.take auditHeaderBytes
    rw [auditRecord, append_assoc, take_left' (length_auditHeader payload), auditRecord,
      take_left' (length_auditHeader next)] at same
    exact same.eq_of_length (by simp)
  have lengths : UInt32.ofNat payload.length = UInt32.ofNat next.length := by
    have spelled (text : List UInt8) : readU32 (auditHeader text) 8 = .ofNat text.length := by
      simp [auditHeader, auditMagic]
    rw [← spelled, headers, spelled]
  have equal := congrArg UInt32.toNat lengths
  rw [UInt32.toNat_ofNat', UInt32.toNat_ofNat'] at equal
  rw [auditMaxPayloadBytes] at small nextSmall
  rw [length_append, length_auditRecord, length_auditRecord] at proper
  omega

theorem AuditRun.call_wal (serde : SerdeJson) (run : AuditRun) (call : AuditCall) :
    (run.call serde call).wal = (call.appended serde run.wal).2 := by
  rw [AuditRun.call]
  simp only
  split <;> rfl

variable {file : List UInt8} {wal : OperationsAuditWal}

theorem reached_of_succeeds {ending : IoEnd} {bytes : List UInt8}
    (succeeds : ending.succeeds file bytes) : ending.reached file bytes = bytes.length := by
  obtain ⟨rfl, room⟩ := succeeds
  rw [IoEnd.reached]
  omega

theorem reached_le (ending : IoEnd) (bounded : file.length ≤ maxFileBytes) (bytes : List UInt8) :
    (file ++ bytes.take (ending.reached file bytes)).length ≤ maxFileBytes := by
  rw [length_append, length_take]
  cases ending with
  | synced =>
    rw [IoEnd.reached]
    omega
  | failed reached =>
    rw [IoEnd.reached]
    omega

/-- The text of a record is one for the place that comes next. -/
theorem placed_of_payloadOf {serde : SerdeJson} (reads : serde.ReadsBack) {unixTimeMs : UInt64}
    {record : OperationRecord} {payload : List UInt8}
    (made : wal.payloadOf serde unixTimeMs record = .ok payload) :
    Placed serde wal.channelId wal.nextSequence.toNat payload := by
  rw [payloadOf, guard_eq_ok, ne_eq, not_not] at made
  obtain ⟨channel, made⟩ := made
  split at made
  · exact nomatch made
  rename_i bytes spelled
  rw [guard_eq_ok] at made
  obtain ⟨small, same⟩ := made
  cases same
  have text := reads.written spelled
  refine ⟨?_, by omega, _, text, ?_⟩
  · rintro rfl
    exact nomatch reads.empty.symm.trans text
  · rw [UInt64.ofNat_toNat, ← channel]
    exact isEvent_eventJson ..

namespace Intact
variable {serde : SerdeJson} {channelId : UInt8} {run : AuditRun} {torn : Bool}
  {payloads : List (List UInt8)}

theorem tornEnd {whole : List (List UInt8)} {part : List UInt8}
    (ordered : InOrder serde channelId 0 payloads)
    (proper : part = [] ∨ ∃ record rest, payloads = whole ++ record :: rest ∧
      part <+: auditRecord record ∧ part.length < (auditRecord record).length) : TornEnd part := by
  apply proper.imp id
  rintro ⟨record, rest, rfl, first, shorter⟩
  have placed := ordered whole.length record (by simp)
  exact ⟨record, placed.nonempty, placed.small, first, shorter⟩

variable (intact : Intact serde channelId run torn payloads)

include intact

/-- Whatever part of the file a crash leaves, it opens again. -/
theorem reopens (known : channelId ≠ 0) (kept : Nat) :
    ReopensWhole serde channelId (run.wal.file.take kept) run.acknowledged := by
  have cut : run.wal.file.take kept =
      (payloads.flatMap auditRecord).take (min kept run.wal.file.length) := by
    rw [← take_take, ← prefix_iff_eq_take.mp intact.first]
  obtain ⟨part, split, proper⟩ :=
    take_flatMap_eq auditRecord (min kept run.wal.file.length) payloads
  set whole := wholeRecords auditRecord (min kept run.wal.file.length) payloads with wholeRecords
  have first : whole <+: payloads := prefix_wholeRecords ..
  have ordered := intact.ordered.of_prefix first
  have ends := tornEnd intact.ordered proper
  have length : (whole.flatMap auditRecord).length ≤ (run.wal.file.take kept).length := by
    rw [cut, split, length_append]
    omega
  have few : whole.length < 2 ^ 64 := by
    have room := length_records whole
    have bounded := intact.bounded
    rw [maxFileBytes] at bounded
    rw [length_take] at length
    omega
  have room : (0 : UInt64).toNat + whole.length < 2 ^ 64 := by simpa using few
  obtain ⟨total, read, sum⟩ := recoverLoop_records ordered ends room
  refine ⟨⟨whole.flatMap auditRecord, channelId, total⟩, whole, ?_, ⟨part, cut.trans split,
    fun payload rest small => ends.incomplete payload rest small⟩, by simpa using sum, rfl, ?_, ?_⟩
  · rw [openFile, if_neg known, cut, split, read]
    simp only [take_left]
  · intro index payload found
    obtain ⟨value, text, event⟩ := (ordered index payload found).event
    rw [Nat.zero_add] at event
    exact ⟨value, text, event.2.2⟩
  intro record member inside
  obtain ⟨found, stop⟩ := intact.acknowledged record member
  -- The records up to an acknowledged one fit, so they are among the whole ones.
  have fits : payloads.take (record.sequence.toNat + 1) <+: whole := by
    rw [wholeRecords, prefix_wholeRecords_iff auditRecord (List.take_prefix ..), ← stop]
    rw [length_take] at inside
    exact inside
  have place : (payloads.take (record.sequence.toNat + 1))[record.sequence.toNat]? =
      some record.payload := by
    rw [getElem?_take_of_lt (Nat.lt_succ_self _), found]
  obtain ⟨rest, joined⟩ := fits
  rw [← joined, getElem?_append_left (List.getElem?_eq_some_iff.mp place).1, place]

/-- A call changes nothing, or begins the next record. -/
theorem call (reads : serde.ReadsBack) (call : AuditCall)
    (undisturbed : torn = true → call.stored serde run.wal = 0) :
    ∃ later, Intact serde channelId (run.call serde call) (torn || call.tears serde run.wal)
      later := by
  rw [AuditRun.call, AuditCall.appended, appendRecord]
  rw [AuditCall.stored] at undisturbed
  rw [AuditCall.tears]
  cases made : run.wal.payloadOf serde call.unixTimeMs call.record with
  | error error =>
    rw [Bool.or_false]
    exact ⟨payloads, intact⟩
  | ok payload =>
    rw [made] at undisturbed
    simp only at undisturbed ⊢
    have kept := reached_le call.ending intact.bounded (auditRecord payload)
    by_cases none : call.ending.reached run.wal.file (auditRecord payload) = 0
    · -- Not a byte reached the file, so the call cannot have succeeded.
      have fails : ¬ call.ending.succeeds run.wal.file (auditRecord payload) := by
        intro succeeds
        have all := reached_of_succeeds succeeds
        rw [none, length_auditRecord, auditHeaderBytes] at all
        omega
      rw [if_neg fails, none, take_zero, append_nil]
      refine ⟨payloads, ?_⟩
      simpa using intact
    · obtain rfl : torn = false := by
        cases torn with
        | false => rfl
        | true => exact absurd (undisturbed rfl) none
      obtain ⟨file, count⟩ := intact.whole rfl
      have placed : Placed serde channelId (0 + payloads.length) payload := by
        rw [Nat.zero_add, ← count, ← intact.channel]
        exact placed_of_payloadOf reads made
      have ordered := intact.ordered.concat placed
      have grows : (payloads ++ [payload]).flatMap auditRecord =
          payloads.flatMap auditRecord ++ auditRecord payload := by simp
      have first : run.wal.file ++ (auditRecord payload).take
          (call.ending.reached run.wal.file (auditRecord payload)) <+:
            (payloads ++ [payload]).flatMap auditRecord := by
        rw [grows, file]
        exact (prefix_append_right_inj _).mpr (List.take_prefix ..)
      have acknowledged : ∀ record ∈ run.acknowledged,
          (payloads ++ [payload])[record.sequence.toNat]? = some record.payload ∧
            record.stop = (((payloads ++ [payload]).take (record.sequence.toNat + 1)).flatMap
              auditRecord).length := by
        intro record member
        obtain ⟨found, stop⟩ := intact.acknowledged record member
        have inside := (List.getElem?_eq_some_iff.mp found).1
        rw [getElem?_append_left inside, take_append_of_le_length inside]
        exact ⟨found, stop⟩
      refine ⟨payloads ++ [payload], ?_⟩
      by_cases succeeds : call.ending.succeeds run.wal.file (auditRecord payload)
      · have all := reached_of_succeeds succeeds
        have room := length_records (payloads ++ [payload])
        have fits := succeeds.2
        rw [maxFileBytes] at fits
        rw [grows, length_append, ← file, length_append, length_singleton] at room
        have next : checkedAdd run.wal.nextSequence 1 = some (run.wal.nextSequence + 1) := by
          rw [checkedAdd_eq_some, UInt64.toNat_add]
          exact (Nat.mod_eq_of_lt (by simp; omega)).symm
        rw [if_pos succeeds, next]
        rw [all, take_length] at first kept ⊢
        simp only [succeeds, not_true, and_false, decide_false, Bool.or_false]
        refine ⟨intact.channel, ordered, first, by simpa using kept, fun _ => ⟨?_, ?_⟩, ?_⟩
        · exact (congrArg (· ++ auditRecord payload) file).trans grows.symm
        · rw [← checkedAdd_eq_some.mp next, count, length_append]
          rfl
        intro record member
        rw [mem_append, mem_singleton] at member
        obtain earlier | rfl := member
        · exact acknowledged record earlier
        · refine ⟨by simp [count], ?_⟩
          rw [take_of_length_le (by simp [count]), grows, file]
      · rw [if_neg succeeds]
        have tears : (false || decide (0 < call.ending.reached run.wal.file (auditRecord payload) ∧
            ¬ call.ending.succeeds run.wal.file (auditRecord payload))) = true := by
          simp only [Bool.false_or, decide_eq_true_eq]
          exact ⟨Nat.pos_of_ne_zero none, succeeds⟩
        rw [tears]
        exact ⟨intact.channel, ordered, first, kept, by rintro ⟨⟩, acknowledged⟩

theorem calls (reads : serde.ReadsBack) {calls : List AuditCall}
    (undisturbed : Undisturbed serde run.wal torn calls) :
    ∃ torn later, Intact serde channelId (run.calls serde calls) torn later := by
  induction calls generalizing run torn payloads with
  | nil => exact ⟨torn, payloads, intact⟩
  | cons call calls ih =>
    obtain ⟨first, rest⟩ := undisturbed
    obtain ⟨later, next⟩ := intact.call reads call first
    rw [← AuditRun.call_wal] at rest
    exact ih next rest

omit intact

end Intact

/-- An audit that has just been opened. -/
theorem intact_of_openFile {serde : SerdeJson} {channelId : UInt8}
    (opened : openFile serde channelId file = .ok wal)
    (bounded : file.length ≤ maxFileBytes) :
    channelId ≠ 0 ∧ ∃ payloads, Intact serde channelId ⟨wal, []⟩ false payloads := by
  rw [openFile, guard_eq_ok] at opened
  obtain ⟨known, opened⟩ := opened
  split at opened
  · cases opened
  rename_i kept total read
  cases opened
  obtain ⟨payloads, ordered, split, sum⟩ := records_of_recoverLoop read
  rw [UInt64.toNat_zero, Nat.zero_add] at sum
  refine ⟨known, payloads, rfl, ordered, split ▸ prefix_rfl, ?_, fun _ =>
    ⟨split, sum⟩, by rintro _ ⟨⟩⟩
  exact (length_take_le' ..).trans bounded

/-- As long as no append puts a byte behind what a failed one left, every prefix of the file
opens again and has every acknowledged record that fits in it. -/
theorem audit_stays_readable {serde : SerdeJson} (reads : serde.ReadsBack) {channelId : UInt8}
    {file : List UInt8} {wal : OperationsAuditWal}
    (opened : OperationsAuditWal.openFile serde channelId file = .ok wal)
    (bounded : file.length ≤ maxFileBytes) {calls : List AuditCall}
    (undisturbed : Undisturbed serde wal false calls) (kept : Nat) :
    ReopensWhole serde channelId (((AuditRun.mk wal []).calls serde calls).wal.file.take kept)
      ((AuditRun.mk wal []).calls serde calls).acknowledged := by
  obtain ⟨known, payloads, intact⟩ := intact_of_openFile opened bounded
  obtain ⟨torn, later, still⟩ := intact.calls reads undisturbed
  exact still.reopens known kept

def acceptedRecord : OperationRecord :=
  ⟨⟨⟨7, by decide⟩, .channel 2, .enterMaintenance⟩, .accepted, none, none⟩

def acceptedEvent : Json := eventJson 0 1750000000000 acceptedRecord

/-- The members of an object are written in the order of their names. -/
def acceptedText : List UInt8 :=
  ("\x7b\"channel_id\":2,\"error\":null,\"event_sequence\":0,\"node_address\":null," ++
    "\"operation\":\x7b\"kind\":\"enter_maintenance\"\x7d,\"operation_id\":7," ++
    "\"phase\":\"accepted\",\"result\":null,\"schema_version\":1," ++
    "\"unix_time_ms\":1750000000000\x7d").toUTF8.data.toList

open Classical in
/-- The library on the one event and its text. -/
noncomputable def acceptedSerde : SerdeJson where
  toVec value := if value = acceptedEvent then some acceptedText else none
  fromSlice bytes := if bytes = acceptedText then some acceptedEvent else none

theorem length_acceptedText : acceptedText.length = 207 := by decide +kernel

theorem readsBack_accepted : acceptedSerde.ReadsBack where
  written := by
    intro value bytes spelled
    simp only [acceptedSerde] at spelled ⊢
    split at spelled
    · rename_i same
      rw [if_pos (Option.some.inj spelled).symm, same]
    · exact nomatch spelled
  empty := by
    have some : [] ≠ acceptedText := by
      intro empty
      exact nomatch (congrArg length empty).trans length_acceptedText
    simp only [acceptedSerde, if_neg some]

/-- A new audit file. -/
def newAudit : OperationsAuditWal := ⟨[], 2, 0⟩

theorem openFile_newAudit (serde : SerdeJson) :
    openFile serde 2 [] = .ok newAudit := by
  rw [openFile, if_neg (by decide), recoverLoop, if_pos rfl]
  rfl

/-- The first append fails before a byte is written, and is made once more. -/
def secondTry : List AuditCall :=
  [⟨1750000000000, acceptedRecord, .failed 0⟩, ⟨1750000000000, acceptedRecord, .synced⟩]

theorem undisturbed_secondTry : Undisturbed acceptedSerde newAudit false secondTry := by
  have untorn : (AuditCall.mk 1750000000000 acceptedRecord (.failed 0)).tears acceptedSerde
      newAudit = false := by
    rw [AuditCall.tears]
    split
    · rfl
    · simp [IoEnd.reached]
  rw [secondTry, Undisturbed, Undisturbed, untorn]
  exact ⟨nofun, nofun, trivial⟩

theorem audit_stays_readable_secondTry : ReopensWhole acceptedSerde 2
      (((AuditRun.mk newAudit []).calls acceptedSerde secondTry).wal.file.take 300)
      ((AuditRun.mk newAudit []).calls acceptedSerde secondTry).acknowledged :=
  audit_stays_readable readsBack_accepted (openFile_newAudit _) (Nat.zero_le _)
    undisturbed_secondTry 300

/-- The first append fails behind the magic, and is made once more. -/
def retriedAppend : List AuditCall :=
  [⟨1750000000000, acceptedRecord, .failed 4⟩, ⟨1750000000000, acceptedRecord, .synced⟩]

theorem payloadOf_accepted (file : List UInt8) :
    payloadOf acceptedSerde ⟨file, 2, 0⟩ 1750000000000 acceptedRecord =
      .ok acceptedText := by
  have spelled : acceptedSerde.toVec (eventJson 0 1750000000000 acceptedRecord) =
      some acceptedText := if_pos rfl
  have small : ¬ acceptedText.length > auditMaxPayloadBytes := by
    rw [length_acceptedText]
    decide
  have channel : ¬ acceptedRecord.request.target.channelId ≠ 2 := by decide
  simp only [payloadOf, if_neg channel, spelled, if_neg small]

/-- The record that was acknowledged stands behind the torn one, and the audit does not open. -/
theorem audit_unreadable_after_retry : ¬ ∀ kept, ReopensWhole acceptedSerde 2
    (((AuditRun.mk newAudit []).calls acceptedSerde retriedAppend).wal.file.take kept)
    ((AuditRun.mk newAudit []).calls acceptedSerde retriedAppend).acknowledged := by
  have size := length_acceptedText
  have first : ((AuditRun.mk newAudit []).call acceptedSerde
      ⟨1750000000000, acceptedRecord, .failed 4⟩).wal = ⟨auditMagic, 2, 0⟩ := by
    rw [AuditRun.call_wal, AuditCall.appended, OperationsAuditWal.appendRecord, newAudit]
    simp [payloadOf_accepted, IoEnd.succeeds, IoEnd.reached, auditRecord, auditHeader, auditMagic,
      maxFileBytes]
  have file : ((AuditRun.mk newAudit []).calls acceptedSerde retriedAppend).wal.file =
      auditMagic ++ auditRecord acceptedText := by
    rw [retriedAppend, AuditRun.calls, List.foldl_cons, List.foldl_cons, List.foldl_nil,
      AuditRun.call_wal, AuditCall.appended, first, OperationsAuditWal.appendRecord]
    have all : IoEnd.synced.succeeds auditMagic (auditRecord acceptedText) := by
      refine ⟨rfl, ?_⟩
      rw [length_auditRecord, size]
      decide
    have next : checkedAdd 0 1 = some 1 := rfl
    simp only [payloadOf_accepted, if_pos all, next, reached_of_succeeds all, List.take_length]
  have refused : OperationsAuditWal.openFile acceptedSerde 2
    (auditMagic ++ auditRecord acceptedText)
      = .error .invalidRecord := by
    have some : auditMagic ++ auditRecord acceptedText ≠ [] := by simp [auditMagic]
    have read : nextLength (auditMagic ++ auditRecord acceptedText) = .error .invalidRecord := by
      have long : ¬ (auditMagic ++ auditRecord acceptedText).length < auditHeaderBytes := by
        rw [List.length_append, length_auditRecord]
        omega
      rw [nextLength, if_neg long, if_pos]
      exact .inr (.inl (by simp [auditMagic, auditRecord, auditHeader, auditSchemaVersion]))
    rw [OperationsAuditWal.openFile, if_neg (by decide), recoverLoop, if_neg some, read]
  intro readable
  obtain ⟨recovered, payloads, opened, _⟩ :=
    readable (auditMagic ++ auditRecord acceptedText).length
  rw [file, List.take_length, refused] at opened
  exact nomatch opened

end SensorSystem.Host.Operations
