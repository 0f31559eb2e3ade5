import SensorSystem.Node.Boot.TrialSafety

/-! Any calls of the engine, in any order and with any arguments. What they do to the flash is one
erase of the target slot and the accepted chunks, programmed one behind the other; a chunk that
comes again is only compared, and what the slot holds at the end decides whether the update
finishes. -/

namespace SensorSystem.Node.Boot

open BootUpdateEngine List
open Base

/-- What a begin announces, with the metadata that picks the slot. -/
structure Announcement where
  metadata : BootMetadata
  imageSize : UInt32
  imageCrc32 : UInt32
  imageVersion : UInt32

namespace Announcement

def target (announced : Announcement) : SlotId := chooseTargetSlot announced.metadata

def Admissible (announced : Announcement) : Prop :=
  announced.imageSize ≠ 0 ∧ announced.imageSize.toNat ≤ bootSlotSize announced.target

end Announcement

/-- A chunk may come with a null pointer; its flash length is that of its bytes. -/
inductive UpdateCall where
  | begin (announced : Announcement)
  | writeChunk (offset : UInt32) (data : Option (List UInt8)) (validLength : UInt16)
  | finish (metadata : BootMetadata) (expectedCrc32 : UInt32)
  | abort

/-- `write_chunk` on a pointer. -/
def BootUpdateEngine.writeChunkAt (engine : BootUpdateEngine) (flash : Flash) (offset : UInt32)
    (data : Option (List UInt8)) (validLength : UInt16) : UpdateStatus × BootUpdateEngine × Flash :=
  match data with
  | some data => engine.writeChunk flash offset.toNat data validLength.toNat
  | none =>
    if engine.state ≠ .receivingImage then (.badState, engine, flash)
    else (.badLength, engine.fail, flash)

/-- An engine with the flash it works on. -/
structure EngineRun where
  engine : BootUpdateEngine := {}
  flash : Flash

namespace EngineRun

def step (run : EngineRun) : UpdateCall → EngineRun
  | .begin announced =>
    let (_, engine, flash) := run.engine.begin announced.metadata run.flash announced.imageSize
      announced.imageCrc32 announced.imageVersion
    { engine, flash }
  | .writeChunk offset data validLength =>
    let (_, engine, flash) := run.engine.writeChunkAt run.flash offset data validLength
    { engine, flash }
  | .finish metadata expectedCrc32 =>
    { run with engine := (run.engine.finish metadata run.flash expectedCrc32).2.1 }
  | .abort => { run with engine := run.engine.abort }

def run (start : EngineRun) (calls : List UpdateCall) : EngineRun := calls.foldl step start

end EngineRun

namespace BootUpdateEngine

variable {engine : BootUpdateEngine} {flash : Flash} {offset : Nat} {data : List UInt8}
  {validLength : Nat}

/-- The engine behind a chunk that was programmed. -/
def advance (engine : BootUpdateEngine) (flashLength validLength : Nat) : BootUpdateEngine :=
  { engine with
    programmedFlashBytes := engine.programmedFlashBytes + flashLength
    receivedValidBytes := engine.receivedValidBytes + validLength }

/-- The lengths and the place of a chunk are checked before anything else. -/
structure WellFormed (offset : Nat) (data : List UInt8) (validLength : Nat) : Prop where
  valid : 0 < validLength ∧ validLength ≤ data.length
  pages : data.length % flashPageSize = 0
  aligned : offset % flashPageSize = 0

theorem WellFormed.nonempty (formed : WellFormed offset data validLength) : 0 < data.length :=
  Nat.lt_of_lt_of_le formed.valid.1 formed.valid.2

/-- The chunk that is expected next, and still fits. -/
structure Next (engine : BootUpdateEngine) (offset : Nat) (data : List UInt8)
    (validLength : Nat) : Prop where
  formed : WellFormed offset data validLength
  place : offset = engine.programmedFlashBytes
  inSlot : offset + data.length ≤ engine.targetSlotSize
  inImage : engine.receivedValidBytes + validLength ≤ engine.expectedImageSize.toNat

/-- A chunk that the slot holds already. -/
structure Repeated (engine : BootUpdateEngine) (flash : Flash) (offset : Nat)
    (data : List UInt8) (validLength : Nat) : Prop where
  formed : WellFormed offset data validLength
  behind : offset + data.length ≤ engine.programmedFlashBytes
  same : flash.read (engine.targetSlotOffset + offset) data.length = data

variable (receiving : engine.state = .receivingImage)

include receiving

theorem writeChunk_formed (formed : WellFormed offset data validLength) :
    engine.writeChunk flash offset data validLength =
      if offset ≠ engine.programmedFlashBytes then
        if offset < engine.programmedFlashBytes ∧
            offset + data.length ≤ engine.programmedFlashBytes ∧
            flash.read (engine.targetSlotOffset + offset) data.length = data then
          (.ok, engine, flash)
        else (.badOffset, engine.fail, flash)
      else if offset + data.length > engine.targetSlotSize then (.badLength, engine.fail, flash)
      else if engine.receivedValidBytes + validLength > engine.expectedImageSize.toNat then
        (.badLength, engine.fail, flash)
      else (.ok, engine.advance data.length validLength,
        flash.flashRangeProgram (engine.targetSlotOffset + offset) data) := by
  have sized := formed.nonempty
  have valid := formed.valid
  unfold writeChunk
  rw [if_neg (not_not.mpr receiving), if_neg (by omega), if_neg (by omega),
    if_neg (not_not.mpr formed.pages), if_neg (not_not.mpr formed.aligned)]
  rfl

theorem writeChunk_next (next : engine.Next offset data validLength) :
    engine.writeChunk flash offset data validLength =
      (.ok, engine.advance data.length validLength,
        flash.flashRangeProgram (engine.targetSlotOffset + offset) data) := by
  have inSlot := next.inSlot
  have inImage := next.inImage
  rw [writeChunk_formed receiving next.formed, if_neg (not_not.mpr next.place),
    if_neg (by omega), if_neg (by omega)]

theorem writeChunk_repeated (again : engine.Repeated flash offset data validLength) :
    engine.writeChunk flash offset data validLength = (.ok, engine, flash) := by
  have sized := again.formed.nonempty
  have behind := again.behind
  rw [writeChunk_formed receiving again.formed, if_pos (by omega),
    if_pos ⟨by omega, behind, again.same⟩]

omit receiving

/-- A call that was refused: the flash stays, and the engine at most gives up. -/
structure Refused (engine : BootUpdateEngine) (flash : Flash)
    (result : UpdateStatus × BootUpdateEngine × Flash) : Prop where
  status : result.1 ≠ .ok
  gaveUp : result.2.1 = engine ∧ engine.state ≠ .receivingImage ∨ result.2.1 = engine.fail
  flash : result.2.2 = flash

theorem writeChunk_cases (engine : BootUpdateEngine) (flash : Flash) (offset : Nat)
    (data : List UInt8) (validLength : Nat) :
    engine.state = .receivingImage ∧ engine.Next offset data validLength ∨
    engine.state = .receivingImage ∧ engine.Repeated flash offset data validLength ∨
    engine.Refused flash (engine.writeChunk flash offset data validLength) := by
  by_cases receiving : engine.state = .receivingImage
  swap
  · refine .inr (.inr ?_)
    unfold writeChunk
    rw [if_pos receiving]
    exact ⟨nofun, .inl ⟨rfl, receiving⟩, rfl⟩
  by_cases formed : WellFormed offset data validLength
  swap
  · -- One of the checks at the head refuses the chunk.
    refine .inr (.inr ?_)
    unfold writeChunk
    rw [if_neg (not_not.mpr receiving)]
    split
    · exact ⟨nofun, .inr rfl, rfl⟩
    rename_i sized
    split
    · exact ⟨nofun, .inr rfl, rfl⟩
    rename_i valid
    split
    · exact ⟨nofun, .inr rfl, rfl⟩
    rename_i pages
    split
    · exact ⟨nofun, .inr rfl, rfl⟩
    rename_i aligned
    exact absurd ⟨by omega, by omega, by omega⟩ formed
  rw [writeChunk_formed receiving formed]
  split
  · split
    · rename_i same
      exact .inr (.inl ⟨receiving, formed, same.2.1, same.2.2⟩)
    · exact .inr (.inr ⟨nofun, .inr rfl, rfl⟩)
  rename_i place
  split
  · exact .inr (.inr ⟨nofun, .inr rfl, rfl⟩)
  rename_i inSlot
  split
  · exact .inr (.inr ⟨nofun, .inr rfl, rfl⟩)
  rename_i inImage
  exact .inl ⟨receiving, formed, not_not.mp place, by omega, by omega⟩

end BootUpdateEngine

/-- The sectors from an offset on, as the log has them. -/
def sectorErases (offset : Nat) : Nat → List FlashOp
  | 0 => []
  | count + 1 => .erase offset flashSectorSize :: sectorErases (offset + flashSectorSize) count

/-- Pieces of an image, programmed one behind the other. -/
def programs (offset : Nat) : List (List UInt8) → List FlashOp
  | [] => []
  | piece :: rest => .program offset piece :: programs (offset + piece.length) rest

/-- The positions that an operation programs. -/
def FlashOp.programmed : FlashOp → List Nat
  | erase _ _ => []
  | program offset data => range' offset data.length

theorem eraseSectors_log (flash : Flash) (offset count : Nat) :
    (flash.eraseSectors offset count).log = flash.log ++ sectorErases offset count := by
  induction count generalizing flash offset with
  | zero => exact (append_nil _).symm
  | succ count ih =>
    rw [Flash.eraseSectors, ih, sectorErases, Flash.flashRangeErase, append_assoc]
    rfl

theorem eraseSectors_content (flash : Flash) {offset count position : Nat}
    (inside : offset ≤ position ∧ position < offset + count * flashSectorSize) :
    (flash.eraseSectors offset count).content position = 0xFF := by
  have kept : ∀ (count : Nat) (flash : Flash) (offset : Nat),
      flash.content position = 0xFF →
        (flash.eraseSectors offset count).content position = 0xFF := by
    intro count
    induction count with
    | zero => exact fun _ _ erased => erased
    | succ count ih =>
      intro flash offset erased
      refine ih _ _ ?_
      simp only [Flash.flashRangeErase, erased, ite_self]
  induction count generalizing flash offset with
  | zero => omega
  | succ count ih =>
    rw [Nat.add_mul, Nat.one_mul] at inside
    by_cases first : position < offset + flashSectorSize
    · exact kept count _ _ (if_pos ⟨inside.1, first⟩)
    · exact ih _ ⟨by omega, by omega⟩

theorem mem_sectorErases {op : FlashOp} {offset count : Nat}
    (member : op ∈ sectorErases offset count) :
    ∃ start, op = .erase start flashSectorSize ∧ offset ≤ start ∧
      start + flashSectorSize ≤ offset + count * flashSectorSize := by
  induction count generalizing offset with
  | zero => exact absurd member not_mem_nil
  | succ count ih =>
    rw [Nat.add_mul, Nat.one_mul]
    rcases mem_cons.mp member with rfl | member
    · exact ⟨offset, rfl, Nat.le_refl _, by omega⟩
    · obtain ⟨start, erases, low, high⟩ := ih member
      exact ⟨start, erases, by omega, by omega⟩

theorem mem_programs {op : FlashOp} {offset : Nat} {pieces : List (List UInt8)}
    (member : op ∈ programs offset pieces) :
    ∃ start piece, op = .program start piece ∧ offset ≤ start ∧
      start + piece.length ≤ offset + pieces.flatten.length := by
  induction pieces generalizing offset with
  | nil => exact absurd member not_mem_nil
  | cons piece rest ih =>
    rw [flatten_cons, length_append]
    rcases mem_cons.mp member with rfl | member
    · exact ⟨offset, piece, rfl, Nat.le_refl _, by omega⟩
    · obtain ⟨start, later, programs, low, high⟩ := ih member
      exact ⟨start, later, programs, by omega, by omega⟩

theorem programs_append (offset : Nat) (early late : List (List UInt8)) :
    programs offset (early ++ late) =
      programs offset early ++ programs (offset + early.flatten.length) late := by
  induction early generalizing offset with
  | nil => rfl
  | cons piece rest ih =>
    rw [cons_append, programs, programs, ih, flatten_cons, length_append,
      cons_append, Nat.add_assoc]

theorem programmed_sectorErases (offset count : Nat) :
    (sectorErases offset count).flatMap FlashOp.programmed = [] := by
  refine flatMap_eq_nil_iff.mpr fun op member => ?_
  obtain ⟨start, rfl, _⟩ := mem_sectorErases member
  rfl

theorem programmed_programs (offset : Nat) (pieces : List (List UInt8)) :
    (programs offset pieces).flatMap FlashOp.programmed =
      range' offset pieces.flatten.length := by
  induction pieces generalizing offset with
  | nil => rfl
  | cons piece rest ih =>
    rw [programs, flatMap_cons, ih, flatten_cons, length_append,
      FlashOp.programmed, range'_append_1]

/-- The sectors of a slot are all of it. -/
theorem whole_sectors (slot : SlotId) :
    bootSlotSize slot / flashSectorSize * flashSectorSize = bootSlotSize slot := by
  cases slot <;> rfl

/-- The target slot of a session: erased, then filled with the pieces. -/
structure Holds (start flash : Flash) (slot : SlotId) (pieces : List (List UInt8)) : Prop where
  log : flash.log = start.log ++
    (sectorErases (bootSlotOffset slot) (bootSlotSize slot / flashSectorSize) ++
      programs (bootSlotOffset slot) pieces)
  content : ∀ index < bootSlotSize slot,
    flash.content (bootSlotOffset slot + index) = pieces.flatten.getD index 0xFF
  fits : pieces.flatten.length ≤ bootSlotSize slot
  pages : pieces.flatten.length % flashPageSize = 0

namespace Holds

variable {start flash : Flash} {slot : SlotId} {pieces : List (List UInt8)}

theorem erased (start : Flash) (slot : SlotId) :
    Holds start (start.eraseSectors (bootSlotOffset slot) (bootSlotSize slot / flashSectorSize))
      slot [] where
  log := by rw [eraseSectors_log, programs, append_nil]
  content index inside := by
    refine eraseSectors_content start ⟨Nat.le_add_right _ _, ?_⟩
    rw [whole_sectors]
    omega
  fits := Nat.zero_le _
  pages := rfl

variable (holds : Holds start flash slot pieces)

include holds

theorem program {data : List UInt8}
    (inSlot : pieces.flatten.length + data.length ≤ bootSlotSize slot)
    (whole : data.length % flashPageSize = 0) : Holds start
      (flash.flashRangeProgram (bootSlotOffset slot + pieces.flatten.length) data) slot
      (pieces ++ [data]) where
  log := by
    rw [Flash.flashRangeProgram, holds.log, programs_append, append_assoc, append_assoc]
    rfl
  content index inside := by
    have held := holds.content index inside
    rw [flatten_append, flatten_singleton, getD_eq_getElem?_getD]
    simp only [Flash.flashRangeProgram, held]
    by_cases early : index < pieces.flatten.length
    · rw [if_neg (by omega), getElem?_append_left early, getD_eq_getElem?_getD]
    rw [getElem?_append_right (by omega), getD_eq_getElem?_getD,
      getElem?_eq_none (by omega), Option.getD_none]
    by_cases late : index - pieces.flatten.length < data.length
    · -- What was erased takes every bit of the page.
      have shift : bootSlotOffset slot + index - (bootSlotOffset slot + pieces.flatten.length) =
          index - pieces.flatten.length := by omega
      rw [if_pos (by omega), erased_and, shift, getD_eq_getElem?_getD,
        getElem?_eq_getElem late]
      rfl
    rw [if_neg (by omega), getElem?_eq_none (by omega)]
    rfl
  fits := by
    rw [flatten_append, flatten_singleton, length_append]
    exact inSlot
  pages := by
    have held := holds.pages
    rw [flatten_append, flatten_singleton, length_append, Nat.add_mod, whole, held]
    rfl

/-- What lies behind the pieces is not read. -/
theorem read {offset length : Nat} (behind : offset + length ≤ pieces.flatten.length) :
    flash.read (bootSlotOffset slot + offset) length =
      (pieces.flatten.drop offset).take length := by
  have fits := holds.fits
  refine ext_getElem ?_ fun index low high => ?_
  · rw [Flash.read, length_map, length_range, length_take, length_drop]
    omega
  rw [Flash.read, length_map, length_range] at low
  simp only [Flash.read, getElem_map, getElem_range, getElem_take,
    getElem_drop]
  rw [Nat.add_assoc, holds.content (offset + index) (by omega), getD_eq_getElem?_getD,
    getElem?_eq_getElem (by omega)]
  rfl

/-- Every operation of the session stays inside the slot. -/
theorem inSlot {op : FlashOp}
    (member : op ∈ sectorErases (bootSlotOffset slot) (bootSlotSize slot / flashSectorSize) ++
      programs (bootSlotOffset slot) pieces) {position : Nat} (touches : op.Touches position) :
    InSlot slot position := by
  have fits := holds.fits
  rcases mem_append.mp member with member | member
  · obtain ⟨first, rfl, low, high⟩ := mem_sectorErases member
    rw [whole_sectors] at high
    exact ⟨Nat.le_trans low touches.1, Nat.lt_of_lt_of_le touches.2 high⟩
  · obtain ⟨first, piece, rfl, low, high⟩ := mem_programs member
    exact ⟨Nat.le_trans low touches.1, Nat.lt_of_lt_of_le touches.2 (by omega)⟩

omit holds

end Holds

variable (metadata : BootMetadata)

theorem target_ne_none : chooseTargetSlot metadata ≠ .none := by
  unfold chooseTargetSlot
  split
  · nofun
  split
  · nofun
  · nofun

theorem target_ne_active : chooseTargetSlot metadata ≠ metadata.activeSlot := by
  unfold chooseTargetSlot
  split
  · rename_i a
    rw [a]
    nofun
  split
  · rename_i b
    rw [b]
    nofun
  rename_i b
  exact fun same => b same.symm

/-- A session that was begun, until the engine is thrown away. -/
structure Session (start : Flash) (announced : Announcement) (run : EngineRun) : Prop where
  admissible : announced.Admissible
  begun : run.engine.state ≠ .waitingBegin ∧ run.engine.state ≠ .idle
  slot : run.engine.targetSlot = announced.target
  slotOffset : run.engine.targetSlotOffset = bootSlotOffset announced.target
  slotSize : run.engine.targetSlotSize = bootSlotSize announced.target
  imageSize : run.engine.expectedImageSize = announced.imageSize
  imageCrc32 : run.engine.expectedImageCrc32 = announced.imageCrc32
  imageVersion : run.engine.imageVersion = announced.imageVersion
  holds : ∃ pieces, Holds start run.flash announced.target pieces ∧
    run.engine.programmedFlashBytes = pieces.flatten.length

namespace Session

variable {start : Flash} {announced : Announcement} {run : EngineRun}
  (session : Session start announced run)

include session

/-- Only what the engine is doing changes. -/
theorem enter {state : UpdateEngineState} (begun : state ≠ .waitingBegin ∧ state ≠ .idle) :
    Session start announced { run with engine := { run.engine with state } } :=
  { session with begun }

theorem writeChunk_next {offset : Nat} {data : List UInt8} {validLength : Nat}
    (next : run.engine.Next offset data validLength) : Session start announced
      { engine := run.engine.advance data.length validLength
        flash := run.flash.flashRangeProgram (run.engine.targetSlotOffset + offset) data } := by
  obtain ⟨pieces, holds, programmed⟩ := session.holds
  have inSlot := next.inSlot
  rw [session.slotSize, next.place, programmed] at inSlot
  refine { session with holds := ⟨pieces ++ [data], ?_, ?_⟩ }
  · rw [session.slotOffset, next.place, programmed]
    exact holds.program inSlot next.formed.pages
  · rw [flatten_append, flatten_singleton, length_append, ← programmed]
    rfl

theorem refused {result : UpdateStatus × BootUpdateEngine × Flash}
    (refused : run.engine.Refused run.flash result) :
    Session start announced { engine := result.2.1, flash := result.2.2 } := by
  rw [refused.flash]
  rcases refused.gaveUp with ⟨same, _⟩ | gaveUp
  · rw [same]
    exact session
  · rw [gaveUp]
    exact session.enter ⟨nofun, nofun⟩

/-- No call leaves the session. -/
theorem step (call : UpdateCall) : Session start announced (run.step call) := by
  cases call with
  | begin other =>
    have busy : run.engine.begin other.metadata run.flash other.imageSize other.imageCrc32
        other.imageVersion = (.badState, run.engine, run.flash) := if_pos session.begun
    rw [EngineRun.step, busy]
    exact session
  | writeChunk offset data validLength =>
    cases data with
    | none =>
      unfold EngineRun.step writeChunkAt
      simp only
      split
      · exact session
      · exact session.enter ⟨nofun, nofun⟩
    | some data =>
      unfold EngineRun.step writeChunkAt
      rcases run.engine.writeChunk_cases run.flash offset.toNat data validLength.toNat with
        ⟨receiving, next⟩ | ⟨receiving, again⟩ | refused
      · simp only [BootUpdateEngine.writeChunk_next receiving next]
        exact session.writeChunk_next next
      · simp only [writeChunk_repeated receiving again]
        exact session
      · exact session.refused refused
  | finish metadata expectedCrc32 =>
    rw [EngineRun.step]
    rcases run.engine.finish_cases metadata run.flash expectedCrc32 with
      ⟨_, same | gaveUp, _⟩ | ⟨_, _, gaveUp, _⟩ | ⟨_, _, completed, _⟩
    · rw [same]
      exact session
    · rw [gaveUp]
      exact session.enter ⟨nofun, nofun⟩
    · rw [gaveUp]
      exact session.enter ⟨nofun, nofun⟩
    · rw [completed]
      exact session.enter ⟨nofun, nofun⟩
  | abort => exact session.enter ⟨nofun, nofun⟩

theorem calls (calls : List UpdateCall) : Session start announced (run.run calls) := by
  induction calls generalizing run with
  | nil => exact session
  | cons call calls ih => exact ih (session.step call)

omit session

end Session

/-- Before a begin is accepted nothing touches the flash. -/
structure Unserved (start : Flash) (run : EngineRun) : Prop where
  flash : run.flash = start
  waits : run.engine.state ≠ .receivingImage

namespace Unserved

variable {start : Flash} {run : EngineRun} (unserved : Unserved start run)

include unserved

theorem enter {engine : BootUpdateEngine} (waits : engine.state ≠ .receivingImage) :
    Unserved start { run with engine } :=
  ⟨unserved.flash, waits⟩

theorem begin (announced : Announcement) : Unserved start (run.step (.begin announced)) ∨
      Session start announced (run.step (.begin announced)) := by
  unfold EngineRun.step BootUpdateEngine.begin
  simp only
  split
  · exact .inl unserved
  split
  · exact .inl (unserved.enter nofun)
  split
  · exact .inl (unserved.enter nofun)
  rename_i sized
  have admissible : announced.Admissible := by
    refine ⟨fun empty => sized (.inl empty), ?_⟩
    exact Nat.le_of_not_lt fun large => sized (.inr large)
  refine .inr ⟨admissible, ⟨nofun, nofun⟩, rfl, rfl, rfl, rfl, rfl, rfl, [], ?_, rfl⟩
  rw [unserved.flash]
  exact Holds.erased start announced.target

theorem step (call : UpdateCall) : Unserved start (run.step call) ∨
      ∃ announced, call = .begin announced ∧ Session start announced (run.step call) := by
  cases call with
  | begin announced =>
    exact (unserved.begin announced).imp id fun session => ⟨announced, rfl, session⟩
  | writeChunk offset data validLength =>
    refine .inl ?_
    unfold EngineRun.step writeChunkAt
    cases data with
    | none =>
      simp only
      rw [if_pos unserved.waits]
      exact unserved
    | some data =>
      unfold BootUpdateEngine.writeChunk
      simp only
      rw [if_pos unserved.waits]
      exact unserved
  | finish metadata expectedCrc32 =>
    refine .inl ?_
    have idle : (run.engine.finish metadata run.flash expectedCrc32).2.1 = run.engine := by
      rw [BootUpdateEngine.finish, if_pos unserved.waits]
    rw [EngineRun.step, idle]
    exact unserved
  | abort => exact .inl (unserved.enter nofun)

theorem calls (calls : List UpdateCall) : Unserved start (run.run calls) ∨
      ∃ announced, .begin announced ∈ calls ∧ Session start announced (run.run calls) := by
  induction calls generalizing run with
  | nil => exact .inl unserved
  | cons call calls ih =>
    rcases unserved.step call with still | ⟨announced, rfl, session⟩
    · refine (ih still).imp id ?_
      rintro ⟨announced, member, session⟩
      exact ⟨announced, mem_cons_of_mem _ member, session⟩
    · exact .inr ⟨announced, mem_cons_self, session.calls calls⟩

omit unserved

end Unserved

theorem read_program_behind (flash : Flash) (offset length start : Nat) (data : List UInt8)
    (behind : offset + length ≤ start) :
    (flash.flashRangeProgram start data).read offset length = flash.read offset length := by
  refine map_congr_left fun index member => ?_
  have bound := mem_range.mp member
  exact if_neg (by omega)

/-- While the image is received, the slot holds this chunk. -/
def EngineRun.Keeps (run : EngineRun) (offset : Nat) (data : List UInt8) (validLength : Nat) :
    Prop :=
  run.engine.state = .receivingImage →
    run.engine.Repeated run.flash offset data validLength

namespace Session

variable {start : Flash} {announced : Announcement} {run : EngineRun} {offset : Nat}
  {data : List UInt8} {validLength : Nat} (session : Session start announced run)

include session

/-- A chunk that was programmed is there. -/
theorem repeated_of_next (next : run.engine.Next offset data validLength) :
    (run.engine.advance data.length validLength).Repeated
      (run.flash.flashRangeProgram (run.engine.targetSlotOffset + offset) data) offset data
      validLength := by
  obtain ⟨pieces, holds, programmed⟩ := session.holds
  have inSlot := next.inSlot
  have place := next.place
  rw [session.slotSize, place, programmed] at inSlot
  refine ⟨next.formed, Nat.le_of_eq (by rw [place]; rfl), ?_⟩
  have held := holds.program inSlot next.formed.pages
  have through : pieces.flatten.length + data.length ≤ (pieces ++ [data]).flatten.length := by
    rw [flatten_append, flatten_singleton, length_append]
  have same := held.read through
  rw [flatten_append, flatten_singleton, drop_left, take_length] at same
  have slotOffset : (run.engine.advance data.length validLength).targetSlotOffset =
      bootSlotOffset announced.target := session.slotOffset
  rw [slotOffset, session.slotOffset, place, programmed]
  exact same

variable (keeps : run.Keeps offset data validLength)

include keeps

/-- What comes next is programmed behind it. -/
theorem keeps_step (call : UpdateCall) : (run.step call).Keeps offset data validLength := by
  have behind : ∀ {later : List UInt8} {place valid : Nat},
      run.engine.state = .receivingImage → run.engine.Next place later valid →
        (run.engine.advance later.length valid).Repeated
          (run.flash.flashRangeProgram (run.engine.targetSlotOffset + place) later) offset data
          validLength := by
    intro later place valid receiving next
    have held := keeps receiving
    have before := held.behind
    have at_end := next.place
    refine ⟨held.formed, Nat.le_trans held.behind (Nat.le_add_right _ _), ?_⟩
    have untouched := read_program_behind run.flash (run.engine.targetSlotOffset + offset)
      data.length (run.engine.targetSlotOffset + place) later (by omega)
    exact untouched.trans held.same
  cases call with
  | begin other =>
    have busy : run.engine.begin other.metadata run.flash other.imageSize other.imageCrc32
        other.imageVersion = (.badState, run.engine, run.flash) := if_pos session.begun
    rw [EngineRun.step, busy]
    exact keeps
  | writeChunk place later valid =>
    unfold EngineRun.step writeChunkAt
    cases later with
    | none =>
      simp only
      split
      · exact keeps
      · exact nofun
    | some later =>
      rcases run.engine.writeChunk_cases run.flash place.toNat later valid.toNat with
        ⟨receiving, next⟩ | ⟨receiving, again⟩ | refused
      · simp only [BootUpdateEngine.writeChunk_next receiving next]
        exact fun _ => behind receiving next
      · simp only [writeChunk_repeated receiving again]
        exact keeps
      simp only [refused.flash]
      rcases refused.gaveUp with ⟨same, _⟩ | gaveUp
      · rw [same]
        exact keeps
      · rw [gaveUp]
        exact nofun
  | finish metadata expectedCrc32 =>
    rw [EngineRun.step]
    rcases run.engine.finish_cases metadata run.flash expectedCrc32 with
      ⟨_, same | gaveUp, _⟩ | ⟨_, _, gaveUp, _⟩ | ⟨_, _, completed, _⟩
    · rw [same]
      exact keeps
    · rw [gaveUp]
      exact nofun
    · rw [gaveUp]
      exact nofun
    · rw [completed]
      exact nofun
  | abort => exact nofun

theorem keeps_calls (calls : List UpdateCall) : (run.run calls).Keeps offset data validLength := by
  induction calls generalizing run with
  | nil => exact keeps
  | cons call calls ih => exact ih (session.step call) (session.keeps_step keeps call)

omit keeps

/-- A chunk that is accepted is kept from then on. -/
theorem keeps_accepted {place : UInt32} {valid : UInt16}
    (accepted : (run.engine.writeChunk run.flash place.toNat data valid.toNat).1 = .ok) :
    (run.step (.writeChunk place (some data) valid)).Keeps place.toNat data valid.toNat := by
  unfold EngineRun.step writeChunkAt
  rcases run.engine.writeChunk_cases run.flash place.toNat data valid.toNat with
    ⟨receiving, next⟩ | ⟨receiving, again⟩ | refused
  · simp only [BootUpdateEngine.writeChunk_next receiving next]
    exact fun _ => session.repeated_of_next next
  · simp only [writeChunk_repeated receiving again]
    exact fun _ => again
  · exact absurd accepted refused.status

omit session

end Session

/-- The record of the target slot, its trial, and no request for an update. -/
def Announcement.finished (announced : Announcement) (metadata : BootMetadata) : BootMetadata :=
  { setSlotMetadata metadata announced.target fun record =>
      { record with
        imageSize := announced.imageSize
        imageCrc32 := announced.imageCrc32
        imageVersion := announced.imageVersion
        imageValid := 1
        failedTrialBoots := 0 } with
    trialSlot := announced.target
    trialArmed := 1
    trialAttempted := 0
    bootSlot := announced.target
    bootFlags := metadata.bootFlags &&& ~~~ bootFlagEnterUpdate }

/-- The image as the slot holds it. -/
def Announcement.image (announced : Announcement) (flash : Flash) : List UInt8 :=
  flash.read (bootSlotOffset announced.target) announced.imageSize.toNat

namespace Session

variable {start : Flash} {announced : Announcement} {run : EngineRun}
  (session : Session start announced run)

include session

theorem finished (metadata : BootMetadata) :
    (run.engine.installed metadata).armTrial run.engine.targetSlot =
      announced.finished metadata := by
  have record : run.engine.imageRecord = fun record =>
      { record with
        imageSize := announced.imageSize
        imageCrc32 := announced.imageCrc32
        imageVersion := announced.imageVersion
        imageValid := 1
        failedTrialBoots := 0 } := by
    funext record
    rw [imageRecord, session.imageSize, session.imageCrc32,
      session.imageVersion]
  rw [installed, session.slot, record]
  rfl

/-- An update finishes on the announced bytes only. -/
theorem finish_ok {metadata : BootMetadata} {expectedCrc32 : UInt32}
    (finishes : (run.engine.finish metadata run.flash expectedCrc32).1 = .ok) :
    bootCrc32 (announced.image run.flash) = announced.imageCrc32 ∧
      (run.engine.finish metadata run.flash expectedCrc32).2.2 = announced.finished metadata := by
  rcases run.engine.finish_cases metadata run.flash expectedCrc32 with
    ⟨refused, _⟩ | ⟨_, refused, _⟩ | ⟨_, _, _, installed⟩
  · exact absurd finishes refused
  · exact absurd finishes refused
  rw [installed, session.finished]
  refine ⟨?_, rfl⟩
  by_contra differs
  refine absurd finishes ?_
  have read : bootCrc32 (run.flash.read (bootSlotOffset run.engine.targetSlot)
      run.engine.expectedImageSize.toNat) ≠ run.engine.expectedImageCrc32 := by
    rw [session.slot, session.imageSize, session.imageCrc32]
    exact differs
  unfold finish
  rw [if_pos read]
  split
  · nofun
  split
  · nofun
  split
  · nofun
  · nofun

omit session

end Session

/-- An image in order from an offset on: whole pages, and a last chunk filled up. -/
inductive Sends : Nat → List UInt8 → List UpdateCall → Prop where
  | last {offset : Nat} {image padding : List UInt8} (filled : image ≠ [])
      (pages : (image ++ padding).length % flashPageSize = 0)
      (short : padding.length < flashPageSize) (small : (image ++ padding).length < 2 ^ 16) :
      Sends offset image
        [.writeChunk (UInt32.ofNat offset) (image ++ padding) (UInt16.ofNat image.length)]
  | more {offset : Nat} {piece rest : List UInt8} {calls : List UpdateCall} (filled : piece ≠ [])
      (pages : piece.length % flashPageSize = 0) (small : piece.length < 2 ^ 16)
      (later : Sends (offset + piece.length) rest calls) :
      Sends offset (piece ++ rest)
        (.writeChunk (UInt32.ofNat offset) piece (UInt16.ofNat piece.length) :: calls)

theorem slotSize_pages (slot : SlotId) :
    bootSlotSize slot % flashPageSize = 0 ∧ bootSlotSize slot < 2 ^ 32 := by
  cases slot <;> decide

/-- The pieces so far are the beginning of the image. -/
structure Receives (start : Flash) (announced : Announcement) (run : EngineRun)
    (sent : List UInt8) : Prop where
  session : Session start announced run
  receiving : run.engine.state = .receivingImage
  received : run.engine.receivedValidBytes = sent.length
  programmed : run.engine.programmedFlashBytes = sent.length
  pages : sent.length % flashPageSize = 0
  read : run.flash.read (bootSlotOffset announced.target) sent.length = sent

namespace Receives

variable {start : Flash} {announced : Announcement} {run : EngineRun} {sent : List UInt8}
  (receives : Receives start announced run sent)

include receives

/-- The next chunk of an image that fits. -/
theorem next {piece padding : List UInt8} (filled : piece ≠ [])
    (pages : (piece ++ padding).length % flashPageSize = 0)
    (short : padding.length < flashPageSize)
    (inImage : sent.length + piece.length ≤ announced.imageSize.toNat) :
    run.engine.Next sent.length (piece ++ padding) piece.length := by
  have fits := receives.session.admissible.2
  obtain ⟨whole, _⟩ := slotSize_pages announced.target
  have sentPages := receives.pages
  have sized : 0 < piece.length := length_pos_iff.mpr filled
  rw [length_append] at pages
  simp only [flashPageSize] at pages whole sentPages short
  refine ⟨⟨⟨sized, ?_⟩, ?_, receives.pages⟩, receives.programmed.symm, ?_, ?_⟩
  · rw [length_append]
    exact Nat.le_add_right _ _
  · rw [length_append, flashPageSize]
    exact pages
  · rw [receives.session.slotSize, length_append]
    omega
  · rw [receives.received, receives.session.imageSize]
    exact inImage

theorem step (piece padding : List UInt8) (filled : piece ≠ [])
    (pages : (piece ++ padding).length % flashPageSize = 0)
    (short : padding.length < flashPageSize) (small : (piece ++ padding).length < 2 ^ 16)
    (inImage : sent.length + piece.length ≤ announced.imageSize.toNat) :
    ∃ after, run.step (.writeChunk (UInt32.ofNat sent.length) (piece ++ padding)
        (UInt16.ofNat piece.length)) = after ∧
      Session start announced after ∧ after.engine.state = .receivingImage ∧
      after.engine.receivedValidBytes = (sent ++ piece).length ∧
      after.engine.programmedFlashBytes = sent.length + (piece ++ padding).length ∧
      after.flash.read (bootSlotOffset announced.target) (sent ++ piece).length =
        sent ++ piece := by
  have next := receives.next filled pages short inImage
  have fits := receives.session.admissible.2
  obtain ⟨_, bounded⟩ := slotSize_pages announced.target
  have offset : (UInt32.ofNat sent.length).toNat = sent.length :=
    UInt32.toNat_ofNat_of_lt' (by rw [UInt32.size]; omega)
  have valid : (UInt16.ofNat piece.length).toNat = piece.length := by
    rw [length_append] at small
    exact UInt16.toNat_ofNat_of_lt' (by rw [UInt16.size]; omega)
  have writes : run.engine.writeChunk run.flash sent.length (piece ++ padding) piece.length = _ :=
    writeChunk_next receives.receiving next
  refine ⟨_, rfl, ?_⟩
  unfold EngineRun.step writeChunkAt
  simp only [offset, valid, writes]
  have session := receives.session.writeChunk_next next
  refine ⟨session, receives.receiving, ?_, ?_, ?_⟩
  · rw [(length_append : (sent ++ piece).length = _), ← receives.received]
    rfl
  · rw [← receives.programmed]
    rfl
  obtain ⟨pieces, holds, programmed⟩ := receives.session.holds
  rw [receives.programmed] at programmed
  have whole : pieces.flatten = sent := by
    have read : run.flash.read (bootSlotOffset announced.target + 0) sent.length = _ :=
      holds.read (by omega)
    rw [drop_zero, take_of_length_le (Nat.le_of_eq programmed.symm)] at read
    exact read.symm.trans receives.read
  have inSlot := next.inSlot
  rw [receives.session.slotSize, programmed] at inSlot
  have held := holds.program inSlot next.formed.pages
  have through : 0 + (sent ++ piece).length ≤ (pieces ++ [piece ++ padding]).flatten.length := by
    rw [flatten_append, flatten_singleton, whole, Nat.zero_add, length_append,
      length_append, length_append]
    omega
  have read := held.read through
  rw [drop_zero, flatten_append, flatten_singleton, whole, ← append_assoc,
    take_left] at read
  rw [receives.session.slotOffset]
  exact read

/-- The rest of the image arrives, and the slot holds all of it. -/
theorem sends {rest : List UInt8} {calls : List UpdateCall} (sends : Sends sent.length rest calls)
    (whole : (sent ++ rest).length = announced.imageSize.toNat) :
    Session start announced (run.run calls) ∧
      (run.run calls).engine.state = .receivingImage ∧
      (run.run calls).engine.receivedValidBytes = announced.imageSize.toNat ∧
      announced.image (run.run calls).flash = sent ++ rest := by
  generalize place : sent.length = offset at sends
  induction sends generalizing run sent with
  | last filled pages short small =>
    subst place
    obtain ⟨_, rfl, session, receiving, received, _, read⟩ :=
      receives.step _ _ filled pages short small (by rw [length_append] at whole; omega)
    rw [whole] at received read
    exact ⟨session, receiving, received, read⟩
  | @more _ piece rest calls filled pages small later ih =>
    subst place
    have alone : piece ++ [] = piece := append_nil piece
    have inImage : sent.length + piece.length ≤ announced.imageSize.toNat := by
      rw [length_append, length_append] at whole
      omega
    obtain ⟨after, steps, session, receiving, received, programmed, read⟩ :=
      receives.step piece [] filled (by rw [alone]; exact pages) (by decide)
        (by rw [alone]; exact small) inImage
    rw [alone] at steps programmed
    have onward : Receives start announced after (sent ++ piece) := {
      session, receiving, received, read
      programmed := by rw [programmed, length_append]
      pages := by
        have held := receives.pages
        rw [length_append, Nat.add_mod, pages, held]
        rfl }
    have arrives := ih onward (by rw [append_assoc]; exact whole)
      (by rw [length_append])
    rw [append_assoc, ← steps] at arrives
    exact arrives

omit receives

end Receives

/-- What the calls did for an announcement. -/
structure Serves (start : Flash) (calls : List UpdateCall) (run : EngineRun)
    (announced : Announcement) : Prop where
  begun : .begin announced ∈ calls
  inactive : announced.target ≠ .none ∧ announced.target ≠ announced.metadata.activeSlot
  /-- Only the target slot was touched, and programmed there page by page. -/
  confined : ∃ done, run.flash.log = start.log ++ done ∧
    (∀ op ∈ done, ∀ position, op.Touches position → InSlot announced.target position) ∧
    ∃ pages, done.flatMap FlashOp.programmed =
      range' (bootSlotOffset announced.target) (pages * flashPageSize)
  /-- A chunk behind the last page changes nothing. -/
  behind : ∀ (offset : UInt32) data validLength,
    offset.toNat < run.engine.programmedFlashBytes →
      (run.step (.writeChunk offset data validLength)).flash = run.flash
  /-- A chunk that was accepted is accepted again. -/
  again : ∀ offset data validLength later,
    (run.engine.writeChunkAt run.flash offset data validLength).1 = .ok →
      let after := (run.step (.writeChunk offset data validLength)).run later
      (after.step (.writeChunk offset data validLength)).flash = after.flash ∧
        (after.engine.state = .receivingImage →
          (after.engine.writeChunkAt after.flash offset data validLength).1 = .ok)
  finishes : ∀ metadata expectedCrc32,
    (run.engine.finish metadata run.flash expectedCrc32).1 = .ok →
      bootCrc32 (announced.image run.flash) = announced.imageCrc32 ∧
        (run.engine.finish metadata run.flash expectedCrc32).2.2 = announced.finished metadata

namespace Session

variable {start : Flash} {announced : Announcement} {run : EngineRun}

theorem confined (session : Session start announced run) :
    ∃ done, run.flash.log = start.log ++ done ∧
      (∀ op ∈ done, ∀ position, op.Touches position → InSlot announced.target position) ∧
      ∃ pages, done.flatMap FlashOp.programmed =
        range' (bootSlotOffset announced.target) (pages * flashPageSize) := by
  obtain ⟨pieces, holds, _⟩ := session.holds
  refine ⟨_, holds.log, fun op member position touches => holds.inSlot member touches,
    pieces.flatten.length / flashPageSize, ?_⟩
  rw [flatMap_append, programmed_sectorErases, nil_append, programmed_programs,
    Nat.div_mul_cancel (Nat.dvd_of_mod_eq_zero holds.pages)]

theorem behind (run : EngineRun) {offset : UInt32} (data : Option (List UInt8))
    (validLength : UInt16) (early : offset.toNat < run.engine.programmedFlashBytes) :
    (run.step (.writeChunk offset data validLength)).flash = run.flash := by
  unfold EngineRun.step writeChunkAt
  cases data with
  | none =>
    simp only
    split
    · rfl
    · rfl
  | some data =>
    rcases run.engine.writeChunk_cases run.flash offset.toNat data validLength.toNat with
      ⟨_, next⟩ | ⟨receiving, again⟩ | refused
    · have place := next.place
      omega
    · simp only [writeChunk_repeated receiving again]
    · exact refused.flash

theorem again (session : Session start announced run) {offset : UInt32}
    {data : Option (List UInt8)} {validLength : UInt16}
    (accepted : (run.engine.writeChunkAt run.flash offset data validLength).1 = .ok)
    (later : List UpdateCall) :
    let after := (run.step (.writeChunk offset data validLength)).run later
    (after.step (.writeChunk offset data validLength)).flash = after.flash ∧
      (after.engine.state = .receivingImage →
        (after.engine.writeChunkAt after.flash offset data validLength).1 = .ok) := by
  cases data with
  | none =>
    unfold writeChunkAt at accepted
    simp only at accepted
    split at accepted
    · exact nomatch accepted
    · exact nomatch accepted
  | some data =>
    intro after
    have keeps : after.Keeps offset.toNat data validLength.toNat :=
      (session.step _).keeps_calls (session.keeps_accepted accepted) later
    by_cases receiving : after.engine.state = .receivingImage
    · have same := writeChunk_repeated receiving (keeps receiving)
      have stays : after.engine.writeChunkAt after.flash offset (some data) validLength =
          (.ok, after.engine, after.flash) := same
      rw [EngineRun.step, stays]
      exact ⟨rfl, fun _ => rfl⟩
    refine ⟨?_, fun still => absurd still receiving⟩
    unfold EngineRun.step writeChunkAt writeChunk
    simp only
    rw [if_pos receiving]

theorem serves {calls : List UpdateCall} (session : Session start announced run)
    (member : .begin announced ∈ calls) : Serves start calls run announced where
  begun := member
  inactive := ⟨target_ne_none _, target_ne_active _⟩
  confined := session.confined
  behind _ data validLength early := behind run data validLength early
  again _ _ _ later accepted := session.again accepted later
  finishes _ _ finishes := session.finish_ok finishes

end Session

end SensorSystem.Node.Boot
