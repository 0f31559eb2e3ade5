import Mathlib.Algebra.GroupWithZero.Nat
import SensorSystem.Base.Results
import SensorSystem.Base.TornTail

/-! A file has a header and, behind it, records of one size, each of which may follow the one
before it. A handle counts them and knows the last; what a crash leaves of them is read back
record by record, and what is left over is cut off. -/

namespace SensorSystem.Base

open List

/-- How the records of a file are written and read back, and what a request adds. -/
structure RecordLog (κ ρ ε α β : Type) where
  config : κ
  /-- The checks of the configuration, and of the header of a file against it. -/
  validateConfig : Except ε Unit
  validateHeader : κ → Except ε Unit
  headerBytes : Nat
  recordBytes : Nat
  encodeRecord : ρ → List α
  decodeRecord : List α → Nat → Except ε ρ
  /-- Whether a record is new behind the last one. -/
  validate : Option ρ → ρ → Except ε Bool
  /-- The records that a request adds behind the last one. -/
  plan : Option ρ → β → Except ε (List ρ)
  poisoned : ε
  io : ε
  lengthOverflow : ε
  duplicateRecord : ε
  incompleteRecord : Nat → ε

/-- A file by what its header says and the bytes behind it. -/
structure RecordFile (κ α : Type) where
  header : κ
  bytes : List α

/-- A handle, which writes at its position behind the header. -/
structure RecordSink (ρ : Type) where
  recordCount : Nat
  last : Option ρ
  durableLen : Nat
  position : Nat
  poisoned : Bool := false

/-- A handle with the bytes behind the header, and how many were cut off. -/
structure OpenedLog (ρ α : Type) where
  sink : RecordSink ρ
  bytes : List α
  truncatedTailBytes : Nat

structure RecordReader (ρ : Type) where
  offset : Nat
  previous : Option ρ := none

namespace RecordLog

variable {κ ρ ε α β : Type} (log : RecordLog κ ρ ε α β)

/-- The loop over the records that lie whole in the file. -/
def recoverRecords : Nat → Nat → List α → Nat × Option ρ → Except ε (Nat × Option ρ)
  | 0, _, _, recovery => .ok recovery
  | left + 1, offset, bytes, (recordCount, last) => do
    let record ← log.decodeRecord (bytes.take log.recordBytes) offset
    if (← log.validate last record) = false then .error log.duplicateRecord
    else if recordCount + 1 ≥ 2 ^ 64 then .error log.lengthOverflow
    else
      recoverRecords left (offset + log.recordBytes) (bytes.drop log.recordBytes)
        (recordCount + 1, some record)

/-- `open`, with `recover`; there is no file before the first time. -/
def openSink (file : Option (RecordFile κ α)) : Except ε (OpenedLog ρ α) := do
  log.validateConfig
  let file := file.getD ⟨log.config, []⟩
  log.validateHeader file.header
  let completeLen := file.bytes.length / log.recordBytes * log.recordBytes
  let (recordCount, last) ← log.recoverRecords (file.bytes.length / log.recordBytes)
    log.headerBytes file.bytes (0, none)
  .ok {
    sink := { recordCount, last, durableLen := log.headerBytes + completeLen,
              position := completeLen }
    bytes := file.bytes.take completeLen
    truncatedTailBytes := file.bytes.length - completeLen }

/-- The bytes from a position on are replaced. -/
def overwrite (file : List α) (position : Nat) (bytes : List α) : List α :=
  file.take position ++ bytes ++ file.drop (position + bytes.length)

/-- The records are written and synced; a failed write leaves some bytes. -/
def write (sink : RecordSink ρ) (file : List α) (records : List ρ) (failure : Option Nat) :
    Except ε (List ρ) × RecordSink ρ × List α :=
  let bytes := records.flatMap log.encodeRecord
  let durableLen := sink.durableLen + records.length * log.recordBytes
  let recordCount := sink.recordCount + records.length
  if durableLen ≥ 2 ^ 64 ∨ recordCount ≥ 2 ^ 64 then (.error log.lengthOverflow, sink, file)
  else match failure with
    | some written =>
      (.error log.io, { sink with poisoned := true },
        overwrite file sink.position (bytes.take written))
    | none =>
      (.ok records, { sink with
        recordCount
        last := records.getLast?.or sink.last
        durableLen
        position := sink.position + bytes.length }, overwrite file sink.position bytes)

/-- A request is judged as a whole before anything is written. The result is what was added. -/
def append (sink : RecordSink ρ) (file : List α) (request : β) (failure : Option Nat) :
    Except ε (List ρ) × RecordSink ρ × List α :=
  if sink.poisoned then (.error log.poisoned, sink, file)
  else match log.plan sink.last request with
    | .error error => (.error error, sink, file)
    | .ok records =>
      if records.isEmpty then (.ok [], sink, file) else log.write sink file records failure

/-- Appends one after the other, with their results. -/
def appends (sink : RecordSink ρ) (file : List α) :
    List β → List (Except ε (List ρ)) × RecordSink ρ × List α
  | [] => ([], sink, file)
  | request :: rest =>
    let (result, sink, file) := log.append sink file request none
    let (results, last) := appends sink file rest
    (result :: results, last)

/-- What the accepted appends have added. -/
def added (results : List (Except ε (List ρ))) : List ρ :=
  results.flatMap fun
    | .ok records => records
    | .error _ => []

def openReader (bytes : List α) : Except ε (RecordReader ρ) :=
  let torn := bytes.length % log.recordBytes
  if torn ≠ 0 then .error (log.incompleteRecord (log.headerBytes + bytes.length - torn))
  else .ok { offset := 0 }

def next (bytes : List α) (reader : RecordReader ρ) : Except ε (Option (ρ × RecordReader ρ)) :=
  if reader.offset = bytes.length then .ok none
  else do
    let record ← log.decodeRecord ((bytes.drop reader.offset).take log.recordBytes)
      (log.headerBytes + reader.offset)
    if (← log.validate reader.previous record) = false then .error log.duplicateRecord
    else .ok (some (record, ⟨reader.offset + log.recordBytes, some record⟩))

/-- The reader returns these records in order, and then that there are no more. -/
def Reads (bytes : List α) : RecordReader ρ → List ρ → Prop
  | reader, [] => log.next bytes reader = .ok none
  | reader, record :: rest =>
    ∃ onward, log.next bytes reader = .ok (some (record, onward)) ∧ Reads bytes onward rest

/-- A handle that can write adds exactly what is planned, unless the file is full. -/
def AddsPlanned : Prop := ∀ sink file request, sink.poisoned = false →
  (log.append sink file request none).1 = log.plan sink.last request ∨
    (log.append sink file request none).1 = .error log.lengthOverflow

/-- A log behind whose header a crash came is one with only the whole records written. -/
structure Recovers : Prop where
  planned : log.AddsPlanned
  recovers : ∀ fresh, log.openSink none = .ok fresh → ∀ requests room,
    let (results, _, left) := log.appends fresh.sink fresh.bytes requests
    let whole := wholeRecords log.encodeRecord room (added results)
    ∃ reopened, log.openSink (some ⟨log.config, left.take room⟩) = .ok reopened ∧
      reopened.bytes = whole.flatMap log.encodeRecord ∧
      reopened.sink.recordCount = whole.length ∧ reopened.sink.last = whole.getLast? ∧
      reopened.truncatedTailBytes = (left.take room).length - reopened.bytes.length ∧
      (∃ again, added (log.appends fresh.sink fresh.bytes again).1 = whole) ∧
      (∀ again, added (log.appends fresh.sink fresh.bytes again).1 = whole →
        (log.appends fresh.sink fresh.bytes again).2 = (reopened.sink, reopened.bytes)) ∧
      ∃ reader, log.openReader reopened.bytes = .ok reader ∧ log.Reads reopened.bytes reader whole
  refuses : ∀ sink file request error, (log.append sink file request none).1 = .error error →
    (log.append sink file request none).2 = (sink, file)

/-- Every record is new behind the one before it. -/
def Chain : Option ρ → List ρ → Prop
  | _, [] => True
  | previous, record :: rest =>
    log.validate previous record = .ok true ∧ Chain (some record) rest

structure Lawful : Prop where
  config : log.validateConfig = .ok ()
  header : log.validateHeader log.config = .ok ()
  short : log.headerBytes < 2 ^ 64
  positive : 0 < log.recordBytes
  width : ∀ record, (log.encodeRecord record).length = log.recordBytes
  reads : ∀ {previous record}, log.validate previous record = .ok true →
    ∀ offset, log.decodeRecord (log.encodeRecord record) offset = .ok record
  plans : ∀ {last request records}, log.plan last request = .ok records → log.Chain last records
  single : ∀ {last record}, log.validate last record = .ok true →
    ∃ request, log.plan last request = .ok [record]

/-- The bytes of a list of records, and the handle that wrote them. -/
def bytesOf (records : List ρ) : List α := records.flatMap log.encodeRecord

def handle (records : List ρ) : RecordSink ρ where
  recordCount := records.length
  last := records.getLast?
  durableLen := log.headerBytes + records.length * log.recordBytes
  position := records.length * log.recordBytes

/-- The records can be in a file. -/
structure Fits (records : List ρ) : Prop where
  chain : log.Chain none records
  small : log.headerBytes + records.length * log.recordBytes < 2 ^ 64

variable {log} {records more : List ρ}

theorem getLast?_cons_or (record : ρ) (rest : List ρ) (previous : Option ρ) :
    (record :: rest).getLast?.or previous = rest.getLast?.or (some record) := by
  cases rest with
  | nil => rfl
  | cons next rest => simp [getLast?_cons]

variable {previous : Option ρ}

theorem chain_append : log.Chain previous (records ++ more) ↔
      log.Chain previous records ∧ log.Chain (records.getLast?.or previous) more := by
  induction records generalizing previous with
  | nil => exact ⟨fun chain => ⟨trivial, chain⟩, fun chain => chain.2⟩
  | cons record rest ih =>
    rw [cons_append, Chain, Chain, ih, getLast?_cons_or, and_assoc]

theorem Lawful.length_bytesOf (lawful : log.Lawful) (records : List ρ) :
    (log.bytesOf records).length = records.length * log.recordBytes := by
  unfold bytesOf
  induction records with
  | nil => exact (Nat.zero_mul _).symm
  | cons record rest ih =>
    rw [flatMap_cons, length_append, lawful.width, ih, length_cons, Nat.add_mul,
      Nat.one_mul, Nat.add_comm]

variable (fits : log.Fits records) (lawful : log.Lawful)

include fits lawful

theorem Fits.count : records.length < 2 ^ 64 := by
  have spread : records.length ≤ records.length * log.recordBytes :=
    Nat.le_mul_of_pos_right _ lawful.positive
  have small := fits.small
  omega

theorem Fits.write (chain : log.Chain records.getLast? more) : (log.Fits (records ++ more) ∧
        log.write (log.handle records) (log.bytesOf records) more none =
          (.ok more, log.handle (records ++ more), log.bytesOf (records ++ more))) ∨
      ¬ log.Fits (records ++ more) ∧
        log.write (log.handle records) (log.bytesOf records) more none =
          (.error log.lengthOverflow, log.handle records, log.bytesOf records) := by
  have width := lawful.length_bytesOf
  have length : (records ++ more).length = records.length + more.length := length_append
  have longer : (records ++ more).length * log.recordBytes =
      records.length * log.recordBytes + more.length * log.recordBytes := by
    rw [length, Nat.add_mul]
  by_cases full : (log.handle records).durableLen + more.length * log.recordBytes ≥ 2 ^ 64 ∨
      (log.handle records).recordCount + more.length ≥ 2 ^ 64
  · refine .inr ⟨fun onward => ?_, if_pos full⟩
    dsimp only [handle] at full
    have small := onward.small
    have count := onward.count lawful
    omega
  have written : overwrite (log.bytesOf records) (records.length * log.recordBytes)
      (more.flatMap log.encodeRecord) = log.bytesOf (records ++ more) := by
    rw [← width, overwrite, take_length, drop_eq_nil_of_le (Nat.le_add_right _ _),
      append_nil, bytesOf, bytesOf, flatMap_append]
  have added : (more.flatMap log.encodeRecord).length = _ := width more
  have wrote : log.write (log.handle records) (log.bytesOf records) more none = _ := if_neg full
  rw [wrote]
  dsimp only [handle] at full ⊢
  refine .inl ⟨⟨chain_append.mpr ⟨fits.chain, ?_⟩, by omega⟩, ?_⟩
  · rw [Option.or_none]
    exact chain
  · simp only [written, added, length, getLast?_append, Nat.add_mul, Nat.add_assoc]

/-- Records that are planned are added when they have room. -/
theorem Fits.append_planned {request : β} (planned : log.plan records.getLast? request = .ok more) :
    (log.Fits (records ++ more) ∧
        log.append (log.handle records) (log.bytesOf records) request none =
          (.ok more, log.handle (records ++ more), log.bytesOf (records ++ more))) ∨
      ¬ log.Fits (records ++ more) ∧
        log.append (log.handle records) (log.bytesOf records) request none =
          (.error log.lengthOverflow, log.handle records, log.bytesOf records) := by
  have healthy : ¬ (log.handle records).poisoned = true := by rintro ⟨⟩
  have last : log.plan (log.handle records).last request = .ok more := planned
  rw [RecordLog.append, if_neg healthy, last]
  dsimp only
  split
  · rename_i none
    obtain rfl := List.isEmpty_iff.mp none
    rw [append_nil]
    exact .inl ⟨fits, rfl⟩
  · exact fits.write lawful (lawful.plans planned)

/-- An append does nothing, or its records follow the others. -/
theorem Fits.append (request : β) :
    (∃ error, log.append (log.handle records) (log.bytesOf records) request none =
        (.error error, log.handle records, log.bytesOf records)) ∨
      ∃ more, log.Fits (records ++ more) ∧
        log.append (log.handle records) (log.bytesOf records) request none =
          (.ok more, log.handle (records ++ more), log.bytesOf (records ++ more)) := by
  cases planned : log.plan records.getLast? request with
  | error error =>
    have healthy : ¬ (log.handle records).poisoned = true := by rintro ⟨⟩
    have last : log.plan (log.handle records).last request = .error error := planned
    exact .inl ⟨error, by rw [RecordLog.append, if_neg healthy, last]⟩
  | ok more =>
    rcases fits.append_planned lawful planned with accepted | ⟨-, refused⟩
    · exact .inr ⟨more, accepted⟩
    · exact .inl ⟨_, refused⟩

theorem Fits.appends (requests : List β) :
    let (results, left) := log.appends (log.handle records) (log.bytesOf records) requests
    log.Fits (records ++ added results) ∧
      left = (log.handle (records ++ added results), log.bytesOf (records ++ added results)) := by
  induction requests generalizing records with
  | nil =>
    change log.Fits (records ++ []) ∧ _ = (log.handle (records ++ []), log.bytesOf (records ++ []))
    rw [append_nil]
    exact ⟨fits, rfl⟩
  | cons request rest ih =>
    rw [RecordLog.appends]
    rcases fits.append lawful request with ⟨error, refused⟩ | ⟨more, onward, accepted⟩
    · rw [refused]
      exact ih fits
    rw [accepted]
    have later := ih onward
    dsimp only at later ⊢
    rw [append_assoc] at later
    exact later

omit lawful fits

/-- Records that follow each other can be written one by one. -/
theorem Fits.reached (lawful : log.Lawful) (more : List ρ) (fits : log.Fits records)
    (longer : log.Fits (records ++ more)) : ∃ requests,
      added (log.appends (log.handle records) (log.bytesOf records) requests).1 = more := by
  induction more generalizing records with
  | nil => exact ⟨[], rfl⟩
  | cons record rest ih =>
    rw [← singleton_append, ← append_assoc] at longer
    have small := longer.small
    rw [length_append, Nat.add_mul] at small
    have onward : log.Fits (records ++ [record]) :=
      ⟨(chain_append.mp longer.chain).1, by omega⟩
    have fresh := (chain_append.mp onward.chain).2.1
    rw [Option.or_none] at fresh
    obtain ⟨request, planned⟩ := lawful.single fresh
    obtain ⟨-, accepted⟩ | ⟨full, -⟩ := fits.append_planned lawful planned
    swap
    · exact absurd onward full
    obtain ⟨requests, follows⟩ := ih onward longer
    refine ⟨request :: requests, ?_⟩
    rw [RecordLog.appends, accepted]
    exact congrArg (record :: ·) follows

/-- Records that follow each other are all recovered. -/
theorem Lawful.recoverRecords (lawful : log.Lawful) (offset : Nat) (rest : List α)
    {recordCount : Nat} {last : Option ρ} (chain : log.Chain last records)
    (small : recordCount + records.length < 2 ^ 64) :
    log.recoverRecords records.length offset (log.bytesOf records ++ rest) (recordCount, last) =
      .ok (recordCount + records.length, records.getLast?.or last) := by
  induction records generalizing offset recordCount last with
  | nil => rfl
  | cons record records ih =>
    obtain ⟨fresh, chain⟩ := chain
    rw [length_cons] at small
    rw [length_cons, RecordLog.recoverRecords, bytesOf, flatMap_cons, append_assoc,
      take_left' (lawful.width record), drop_left' (lawful.width record),
      lawful.reads fresh]
    simp only [ok_bind, fresh]
    rw [if_neg (by decide), if_neg (by omega), getLast?_cons_or,
      show recordCount + (records.length + 1) = recordCount + 1 + records.length by omega]
    exact ih _ chain (by omega)

/-- What is left of the records is opened with the whole ones. -/
theorem Fits.openSink (fits : log.Fits records) (lawful : log.Lawful) (room : Nat) :
    let whole := wholeRecords log.encodeRecord room records
    log.Fits whole ∧ log.openSink (some ⟨log.config, (log.bytesOf records).take room⟩) =
      .ok ⟨log.handle whole, log.bytesOf whole,
        ((log.bytesOf records).take room).length - (log.bytesOf whole).length⟩ := by
  intro whole
  obtain ⟨torn, split, proper⟩ := take_flatMap_eq log.encodeRecord room records
  have short : torn.length < log.recordBytes := by
    rcases proper with rfl | ⟨record, rest, _, _, short⟩
    · exact lawful.positive
    · rwa [lawful.width] at short
  have left : (log.bytesOf records).take room = log.bytesOf whole ++ torn := split
  obtain ⟨rest, parts⟩ : whole <+: records := prefix_wholeRecords _ _ _
  have small := fits.small
  rw [← parts, length_append, Nat.add_mul] at small
  have kept : log.Fits whole := ⟨(chain_append.mp (parts ▸ fits.chain)).1, by omega⟩
  have width := lawful.length_bytesOf whole
  have count : (log.bytesOf whole ++ torn).length / log.recordBytes = whole.length := by
    rw [length_append, width, Nat.mul_comm, Nat.mul_add_div lawful.positive,
      Nat.div_eq_of_lt short, Nat.add_zero]
  have recovers := lawful.recoverRecords log.headerBytes torn kept.chain
    (show 0 + whole.length < 2 ^ 64 by have count := kept.count lawful; omega)
  rw [Option.or_none, Nat.zero_add] at recovers
  refine ⟨kept, ?_⟩
  rw [RecordLog.openSink, lawful.config, ok_bind]
  dsimp only [Option.getD_some]
  rw [lawful.header, ok_bind, left, count, recovers, ok_bind, ← width, take_left]
  simp only [handle, width]

theorem Lawful.reads_from (lawful : log.Lawful) (before : List α)
    (chain : log.Chain previous records) :
    log.Reads (before ++ log.bytesOf records) ⟨before.length, previous⟩ records := by
  induction records generalizing before previous with
  | nil =>
    rw [bytesOf, flatMap_nil, append_nil]
    exact if_pos rfl
  | cons record rest ih =>
    obtain ⟨fresh, chain⟩ := chain
    refine ⟨⟨before.length + log.recordBytes, some record⟩, ?_, ?_⟩
    · have more : before.length ≠ (before ++ log.bytesOf (record :: rest)).length := by
        have positive := lawful.positive
        rw [length_append, lawful.length_bytesOf, length_cons, Nat.add_mul]
        omega
      rw [next, if_neg more]
      rw [drop_left, bytesOf, flatMap_cons, take_left' (lawful.width record),
        lawful.reads fresh, ok_bind, fresh, ok_bind, if_neg (by decide)]
    · have onward := ih (before ++ log.encodeRecord record) chain
      rw [length_append, lawful.width, append_assoc] at onward
      exact onward

theorem Fits.openReader (fits : log.Fits records) (lawful : log.Lawful) :
    ∃ reader, log.openReader (log.bytesOf records) = .ok reader ∧
      log.Reads (log.bytesOf records) reader records := by
  refine ⟨{ offset := 0 }, ?_, lawful.reads_from [] fits.chain⟩
  rw [RecordLog.openReader, lawful.length_bytesOf, Nat.mul_mod_left]
  exact if_neg (not_not.mpr rfl)

theorem addsPlanned (log : RecordLog κ ρ ε α β) : log.AddsPlanned := by
  intro sink file request healthy
  rw [RecordLog.append, if_neg (by rw [healthy]; nofun)]
  split
  next error refused => exact .inl refused.symm
  next records planned =>
    rw [planned, RecordLog.write]
    split
    next none => exact .inl (congrArg Except.ok (List.isEmpty_iff.mp none).symm)
    split
    · exact .inr rfl
    · exact .inl rfl

theorem append_refused {sink : RecordSink ρ} {file : List α} {request : β} {error : ε}
    (refused : (log.append sink file request none).1 = .error error) :
    (log.append sink file request none).2 = (sink, file) := by
  unfold RecordLog.append RecordLog.write at refused ⊢
  split
  · rfl
  rename_i healthy
  rw [if_neg healthy] at refused
  split
  · rfl
  rename_i planned
  rw [planned] at refused
  dsimp only at refused ⊢
  split
  · rfl
  rename_i some
  rw [if_neg some] at refused
  split
  · rfl
  rename_i room
  rw [if_neg room] at refused
  cases refused

theorem Lawful.recovers (lawful : log.Lawful) : log.Recovers where
  planned := log.addsPlanned
  refuses _ _ _ _ refused := append_refused refused
  recovers fresh opened requests room := by
    have start : log.Fits [] := ⟨trivial, by
      have short := lawful.short
      simpa using short⟩
    have empty := (start.openSink lawful 0).2
    have made := Except.ok.inj (empty.symm.trans opened)
    have sink : fresh.sink = log.handle [] := congrArg OpenedLog.sink made.symm
    have bytes : fresh.bytes = log.bytesOf [] := congrArg OpenedLog.bytes made.symm
    rw [sink, bytes]
    have ran := start.appends lawful requests
    generalize log.appends (log.handle []) (log.bytesOf []) requests = after at ran ⊢
    obtain ⟨results, sink, left⟩ := after
    obtain ⟨fits, same⟩ := ran
    cases same
    rw [nil_append] at fits
    obtain ⟨kept, reopens⟩ := fits.openSink lawful room
    refine ⟨_, reopens, rfl, rfl, rfl, rfl, start.reached lawful _ kept, ?_,
      kept.openReader lawful⟩
    intro again same
    obtain ⟨-, after⟩ := start.appends lawful again
    rw [nil_append] at after
    rw [same] at after
    exact after

end RecordLog

/-! A process opens its log, appends, and ends, perhaps in the middle of an append. The next one
finds what the lives before it have added, and of each append that was cut off the first records. -/

/-- The answered appends, and one cut off with so many of its bytes in the file. -/
structure Life (β : Type) where
  requests : List β
  cut : Option (β × Nat) := none

/-- All that was added, and of each append that was cut off the first records. -/
inductive Survive {ρ : Type} : List (List ρ × List ρ) → List ρ → Prop
  | start : Survive [] []
  | life {told : List (List ρ × List ρ)} {records begun kept : List ρ} (added : List ρ)
      (before : Survive told records) (part : kept <+: begun) :
      Survive (told ++ [(added, begun)]) (records ++ added ++ kept)

namespace RecordLog

variable {κ ρ ε α β : Type} (log : RecordLog κ ρ ε α β)

/-- What was added, what the append that was cut off would have added, the file. -/
def live (file : Option (RecordFile κ α)) (life : Life β) :
    Except ε (List ρ × List ρ × RecordFile κ α) := do
  let opened ← log.openSink file
  let (results, sink, bytes) := log.appends opened.sink opened.bytes life.requests
  match life.cut with
  | none => .ok (added results, [], ⟨log.config, bytes⟩)
  | some (request, written) =>
    .ok (added results, (log.append sink bytes request none).1.toOption.getD [],
      ⟨log.config, (log.append sink bytes request (some written)).2.2⟩)

/-- One life after the other, from a disk without the file. -/
def lives : List (Life β) → Except ε (List (List ρ × List ρ) × Option (RecordFile κ α))
  | [] => .ok ([], none)
  | life :: before => do
    let (told, file) ← lives before
    let (added, begun, file) ← log.live file life
    .ok (told ++ [(added, begun)], some file)

/-- An append that is cut off leaves a beginning of it. -/
theorem append_cut (sink : RecordSink ρ) (file : List α) (request : β) (written : Nat) :
    (log.append sink file request (some written)).2.2 = overwrite file sink.position
      ((log.bytesOf ((log.append sink file request none).1.toOption.getD [])).take written) := by
  have nothing : overwrite file sink.position ((log.bytesOf []).take written) = file := by
    rw [bytesOf, flatMap_nil, take_nil, overwrite, append_nil]
    exact take_append_drop _ _
  unfold append
  split
  · exact nothing.symm
  split
  · exact nothing.symm
  split
  · exact nothing.symm
  unfold write
  dsimp only
  split
  · exact nothing.symm
  · rfl

/-- No life fails to open the log, and a reader returns what was added, with a part of what was cut
off. -/
def Outlives : Prop :=
  log.AddsPlanned ∧ ∀ before : List (Life β), ∃ told file records opened reader,
    log.lives before = .ok (told, file) ∧ Survive told records ∧
      log.openSink file = .ok opened ∧ opened.bytes = records.flatMap log.encodeRecord ∧
      opened.sink.recordCount = records.length ∧ opened.sink.last = records.getLast? ∧
      log.openReader opened.bytes = .ok reader ∧ log.Reads opened.bytes reader records

variable {log} {records more : List ρ}

/-- A file is opened with these records. -/
def Holds (log : RecordLog κ ρ ε α β) (file : Option (RecordFile κ α)) (records : List ρ) : Prop :=
  log.Fits records ∧ ∃ torn,
    log.openSink file = .ok ⟨log.handle records, log.bytesOf records, torn⟩

theorem bytesOf_append : log.bytesOf (records ++ more) = log.bytesOf records ++ log.bytesOf more :=
  flatMap_append

theorem wholeRecords_append (encode : ρ → List α) (room : Nat) (records more : List ρ) :
    wholeRecords encode ((records.flatMap encode).length + room) (records ++ more) =
      records ++ wholeRecords encode room more := by
  induction records with
  | nil => rw [flatMap_nil, length_nil, Nat.zero_add, nil_append, nil_append]
  | cons record rest ih =>
    rw [cons_append, wholeRecords, flatMap_cons, length_append, Nat.add_assoc,
      if_pos (Nat.le_add_right _ _), Nat.add_sub_cancel_left, ih, cons_append]

/-- The whole ones of the records that were begun are found. -/
theorem Fits.reopens (fits : log.Fits (records ++ more)) (lawful : log.Lawful) (written : Nat) :
    ∃ kept, kept <+: more ∧ log.Holds
      (some ⟨log.config, log.bytesOf records ++ (log.bytesOf more).take written⟩)
      (records ++ kept) := by
  obtain ⟨kept, opens⟩ := fits.openSink lawful ((log.bytesOf records).length + written)
  have left : (log.bytesOf (records ++ more)).take ((log.bytesOf records).length + written) =
      log.bytesOf records ++ (log.bytesOf more).take written := by
    rw [bytesOf_append, take_length_add_append]
  rw [left, bytesOf, wholeRecords_append] at opens
  rw [bytesOf, wholeRecords_append] at kept
  exact ⟨_, prefix_wholeRecords _ _ _, kept, _, opens⟩

/-- A life adds to what is there. -/
theorem Lawful.live (lawful : log.Lawful) {file : Option (RecordFile κ α)}
    (holds : log.Holds file records) (life : Life β) :
    ∃ added begun next kept, log.live file life = .ok (added, begun, next) ∧ kept <+: begun ∧
      log.Holds (some next) (records ++ added ++ kept) := by
  obtain ⟨fits, torn, opens⟩ := holds
  have ran := fits.appends lawful life.requests
  rw [RecordLog.live, opens, ok_bind]
  dsimp only
  generalize log.appends (log.handle records) (log.bytesOf records) life.requests = after at ran ⊢
  obtain ⟨results, sink, bytes⟩ := after
  obtain ⟨onward, same⟩ := ran
  cases same
  dsimp only
  cases life.cut with
  | none =>
    obtain ⟨kept, part, left⟩ := Fits.reopens (by rwa [append_nil]) lawful 0
    rw [take_zero, append_nil] at left
    exact ⟨_, _, _, kept, rfl, part, left⟩
  | some cut =>
    obtain ⟨request, written⟩ := cut
    dsimp only
    rw [log.append_cut]
    have position : (log.handle (records ++ added results)).position =
      (log.bytesOf (records ++ added results)).length := (lawful.length_bytesOf _).symm
    rw [position, overwrite, take_length, drop_eq_nil_of_le (Nat.le_add_right _ _),
      append_nil]
    generalize answered : (log.append (log.handle (records ++ added results))
      (log.bytesOf (records ++ added results)) request none).1.toOption.getD [] = begun
    have longer : log.Fits (records ++ added results ++ begun) := by
      rcases onward.append lawful request with ⟨error, refused⟩ | ⟨more, longer, accepted⟩
      · rw [refused] at answered
        subst answered
        rwa [show (Except.error error : Except ε (List ρ)).toOption.getD [] = [] from rfl,
          append_nil]
      · rw [accepted] at answered
        subst answered
        exact longer
    obtain ⟨kept, part, left⟩ := longer.reopens lawful written
    exact ⟨_, _, _, kept, rfl, part, left⟩

theorem Lawful.lives (lawful : log.Lawful) (before : List (Life β)) :
    ∃ told file records, log.lives before = .ok (told, file) ∧ Survive told records ∧
      log.Holds file records := by
  induction before with
  | nil =>
    have start : log.Fits [] := ⟨trivial, by
      have short := lawful.short
      simpa using short⟩
    exact ⟨[], none, [], rfl, .start, start, _, (start.openSink lawful 0).2⟩
  | cons life before ih =>
    obtain ⟨told, file, records, lived, survive, holds⟩ := ih
    obtain ⟨added, begun, next, kept, live, part, left⟩ := lawful.live holds life
    refine ⟨_, _, _, ?_, .life added survive part, left⟩
    rw [RecordLog.lives, lived, ok_bind]
    dsimp only
    rw [live, ok_bind]

theorem Lawful.outlives (lawful : log.Lawful) : log.Outlives := by
  refine ⟨log.addsPlanned, fun before => ?_⟩
  obtain ⟨told, file, records, lived, survive, fits, torn, opens⟩ := lawful.lives before
  obtain ⟨reader, made, reads⟩ := fits.openReader lawful
  exact ⟨told, file, records, _, reader, lived, survive, opens, rfl, rfl, rfl, made, reads⟩

end RecordLog
end SensorSystem.Base
