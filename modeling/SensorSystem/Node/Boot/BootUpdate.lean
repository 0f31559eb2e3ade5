import SensorSystem.Node.Boot.BootDecision

/-! `boot_update_engine.cpp` and `boot_update_server.cpp`: a host sends an image in chunks, the
engine erases and programs the slot that is not active, and the server keeps the metadata. The
bytes of a packet on the line are left out: a session is fed with what `receive_packet` returns.
Erasing and programming leave a record, so that what a session touches can be stated. -/

namespace SensorSystem.Node.Boot

open Base

inductive FlashOp where
  | erase (offset length : Nat)
  | program (offset : Nat) (data : List UInt8)

/-- The bytes an operation reaches. -/
def FlashOp.Touches (position : Nat) : FlashOp → Prop
  | erase offset length => offset ≤ position ∧ position < offset + length
  | program offset data => offset ≤ position ∧ position < offset + data.length

/-- The flash, with what was done to it. -/
structure Flash where
  content : Nat → UInt8
  log : List FlashOp := []

namespace Flash

variable (flash : Flash)

def flashRangeErase (offset length : Nat) : Flash where
  content position :=
    if offset ≤ position ∧ position < offset + length then 0xFF else flash.content position
  log := flash.log ++ [.erase offset length]

/-- Programming only clears bits. -/
def flashRangeProgram (offset : Nat) (data : List UInt8) : Flash where
  content position :=
    if offset ≤ position ∧ position < offset + data.length then
      flash.content position &&& data.getD (position - offset) 0
    else flash.content position
  log := flash.log ++ [.program offset data]

def read (offset length : Nat) : List UInt8 :=
  (List.range length).map fun index => flash.content (offset + index)

/-- The sectors from an offset on. -/
def eraseSectors (flash : Flash) (offset : Nat) : Nat → Flash
  | 0 => flash
  | count + 1 =>
    (flash.flashRangeErase offset flashSectorSize).eraseSectors (offset + flashSectorSize) count

def vectorTableLooksValid (offset : Nat) : Bool :=
  let vectors := flash.read offset 8
  let initialSp := readU32 vectors 0
  let resetHandler := readU32 vectors 4
  initialSp &&& 0xFF000000 = 0x20000000 && resetHandler &&& 0xFF000000 = 0x10000000 &&
    resetHandler &&& 1 ≠ 0

def bootImageHeaderLooksValid (slot : SlotId) : Bool :=
  if slot = .none then false else flash.vectorTableLooksValid (bootSlotOffset slot)

end Flash

inductive UpdateEngineState where
  | idle
  | waitingBegin
  | receivingImage
  | completed
  | failed
  | aborted
deriving DecidableEq

inductive UpdateStatus where
  | ok
  | badPacket
  | badState
  | badOffset
  | badLength
  | badCrc
  | flashError
  | imageTooLarge
  | invalidSlot
  | internalError
  | timeout
deriving DecidableEq

/-- The engine after `reset`, which the constructor calls. -/
structure BootUpdateEngine where
  state : UpdateEngineState := .waitingBegin
  targetSlot : SlotId := .none
  targetSlotOffset : Nat := 0
  targetSlotSize : Nat := 0
  expectedImageSize : UInt32 := 0
  expectedImageCrc32 : UInt32 := 0
  imageVersion : UInt32 := 0
  receivedValidBytes : Nat := 0
  programmedFlashBytes : Nat := 0
deriving DecidableEq

def chooseTargetSlot (metadata : BootMetadata) : SlotId :=
  if metadata.activeSlot = .a then .b
  else if metadata.activeSlot = .b then .a
  else .b

namespace BootUpdateEngine

variable (engine : BootUpdateEngine)

def fail : BootUpdateEngine :=
  { engine with state := .failed }

def eraseTargetSlot (flash : Flash) : Flash :=
  flash.eraseSectors engine.targetSlotOffset
    (bootSlotSize engine.targetSlot / flashSectorSize)

variable (metadata : BootMetadata)

def begin (flash : Flash) (imageSize imageCrc32 imageVersion : UInt32) :
    UpdateStatus × BootUpdateEngine × Flash :=
  if engine.state ≠ .waitingBegin ∧ engine.state ≠ .idle then (.badState, engine, flash)
  else
    let slot := chooseTargetSlot metadata
    if slot = .none then (.invalidSlot, engine.fail, flash)
    else if imageSize = 0 ∨ imageSize.toNat > bootSlotSize slot then
      (.imageTooLarge, engine.fail, flash)
    else
      let engine := { engine with
        state := .receivingImage
        targetSlot := slot
        targetSlotOffset := bootSlotOffset slot
        targetSlotSize := bootSlotSize slot
        expectedImageSize := imageSize
        expectedImageCrc32 := imageCrc32
        imageVersion
        receivedValidBytes := 0
        programmedFlashBytes := 0 }
      (.ok, engine, engine.eraseTargetSlot flash)

/-- `write_chunk`; `data` holds `flash_length` bytes. -/
def writeChunk (flash : Flash) (offset : Nat) (data : List UInt8) (validLength : Nat) :
    UpdateStatus × BootUpdateEngine × Flash :=
  let flashLength := data.length
  if engine.state ≠ .receivingImage then (.badState, engine, flash)
  else if flashLength = 0 ∨ validLength = 0 then (.badLength, engine.fail, flash)
  else if validLength > flashLength then (.badLength, engine.fail, flash)
  else if flashLength % flashPageSize ≠ 0 then (.badLength, engine.fail, flash)
  else if offset % flashPageSize ≠ 0 then (.badOffset, engine.fail, flash)
  else if offset ≠ engine.programmedFlashBytes then
    -- A chunk that was programmed before is only compared.
    if offset < engine.programmedFlashBytes ∧
        offset + flashLength ≤ engine.programmedFlashBytes ∧
        flash.read (engine.targetSlotOffset + offset) flashLength = data then (.ok, engine, flash)
    else (.badOffset, engine.fail, flash)
  else if offset + flashLength > engine.targetSlotSize then (.badLength, engine.fail, flash)
  else if engine.receivedValidBytes + validLength > engine.expectedImageSize.toNat then
    (.badLength, engine.fail, flash)
  else
    (.ok, { engine with
        programmedFlashBytes := engine.programmedFlashBytes + flashLength
        receivedValidBytes := engine.receivedValidBytes + validLength },
      flash.flashRangeProgram (engine.targetSlotOffset + offset) data)

/-- The record of the image that was received. -/
def imageRecord (record : SlotMetadata) : SlotMetadata :=
  { record with
    imageSize := engine.expectedImageSize
    imageCrc32 := engine.expectedImageCrc32
    imageVersion := engine.imageVersion
    imageValid := 1
    failedTrialBoots := 0 }

/-- The metadata with this record, and without the request for an update. -/
def installed : BootMetadata :=
  { setSlotMetadata metadata engine.targetSlot engine.imageRecord with
    bootFlags := metadata.bootFlags &&& ~~~ bootFlagEnterUpdate }

def finish (flash : Flash) (expectedCrc32 : UInt32) :
    UpdateStatus × BootUpdateEngine × BootMetadata :=
  if engine.state ≠ .receivingImage then (.badState, engine, metadata)
  else if engine.receivedValidBytes ≠ engine.expectedImageSize.toNat then
    (.badLength, engine.fail, metadata)
  else if expectedCrc32 ≠ engine.expectedImageCrc32 then (.badCrc, engine.fail, metadata)
  else if bootCrc32 (flash.read (bootSlotOffset engine.targetSlot)
      engine.expectedImageSize.toNat) ≠ engine.expectedImageCrc32 then
    (.badCrc, engine.fail, metadata)
  else
    match bootMarkTrialPending (engine.installed metadata) engine.targetSlot with
    | (false, metadata) => (.internalError, engine.fail, metadata)
    | (true, metadata) => (.ok, { engine with state := .completed }, metadata)

def abort : BootUpdateEngine :=
  { engine with state := .aborted }

end BootUpdateEngine

inductive UpdatePacketType where
  | hello
  | begin
  | chunk
  | end_
  | abort
  | ack
  | error
deriving DecidableEq

/-- What `receive_packet` returns. -/
inductive Received where
  | timeout
  | ignored
  | badPacket
  | packet (type : UpdatePacketType) (sequence : UInt32) (payload : List UInt8)
deriving DecidableEq

/-- An answer on the line. `slot` is the byte that only the answer to a hello uses. -/
structure UpdateReply where
  ok : Bool
  sequence : UInt32
  status : UpdateStatus
  slot : SlotId := .none
  value : UInt32

/-- The values that the answers carry. -/
def UpdateEngineState.code : UpdateEngineState → UInt32
  | idle => 0
  | waitingBegin => 1
  | receivingImage => 2
  | completed => 3
  | failed => 4
  | aborted => 5

def UpdatePacketType.code : UpdatePacketType → UInt32
  | hello => 1
  | begin => 2
  | chunk => 3
  | end_ => 4
  | abort => 5
  | ack => 100
  | error => 101

def SlotId.code (slot : SlotId) : UInt32 := slot.toByte.toUInt32

/-- A session that runs: its engine, the metadata, what is stored, the flash. -/
structure UpdateSession where
  engine : BootUpdateEngine := {}
  metadata : BootMetadata
  stored : Option BootMetadata
  flash : Flash

/-- How a packet leaves the session: `finished` is the value that `run` returns. -/
structure SessionStep where
  session : UpdateSession
  reply : Option UpdateReply := none
  finished : Option Bool := none

namespace UpdateSession

variable (session : UpdateSession)

/-- `boot_metadata_save` on the metadata in memory. -/
def save : UpdateSession :=
  let saved := bootMetadataSave session.metadata
  { session with metadata := saved, stored := some saved }

def sendAck (sequence value : UInt32) : SessionStep where
  session := session
  reply := some ⟨true, sequence, .ok, .none, value⟩

variable (sequence : UInt32)

def sendError (status : UpdateStatus) (value : UInt32) : SessionStep where
  session := session
  reply := some ⟨false, sequence, status, .none, value⟩

/-- Every accepted request is answered with its status. -/
def answer (status : UpdateStatus) (accepted refused : UInt32) : SessionStep :=
  if status = .ok then session.sendAck sequence accepted
  else session.sendError sequence status refused

def handleHello (nodeId : UInt8) (sequence : UInt32) : SessionStep where
  session := session
  reply := some {
    ok := true
    sequence
    status := .ok
    slot := chooseTargetSlot session.metadata
    value := (nodeId.toUInt32 <<< 24) ||| ((2 : UInt32) <<< 16) ||| 1024 }

variable (payload : List UInt8)

def handleBegin : SessionStep :=
  if payload.length ≠ 12 then
    session.sendError sequence .badLength (UInt32.ofNat payload.length)
  else
    let slot := chooseTargetSlot session.metadata
    if slot = .none then session.sendError sequence .invalidSlot 0
    else
      let metadata := setSlotMetadata session.metadata slot fun record =>
        { record with
          imageValid := 0
          imageSize := 0
          imageCrc32 := 0
          imageVersion := readU32 payload 8 }
      let session := { session with metadata }.save
      let (status, engine, flash) := session.engine.begin session.metadata session.flash
        (readU32 payload 0) (readU32 payload 4) (readU32 payload 8)
      { session with engine, flash }.answer sequence status engine.targetSlot.code
        engine.targetSlot.code

def handleChunk : SessionStep :=
  if payload.length < 8 then
    session.sendError sequence .badLength (UInt32.ofNat payload.length)
  else if payload.length ≠ 8 + (readU16 payload 4).toNat then
    session.sendError sequence .badLength (UInt32.ofNat payload.length)
  else
    let offset := readU32 payload 0
    let validLength := readU16 payload 6
    let (status, engine, flash) := session.engine.writeChunk session.flash offset.toNat
      (payload.drop 8) validLength.toNat
    { session with engine, flash }.answer sequence status (offset + validLength.toUInt32) offset

def handleEnd : SessionStep :=
  if payload.length ≠ 4 then
    session.sendError sequence .badLength (UInt32.ofNat payload.length)
  else
    let (status, engine, metadata) := session.engine.finish session.metadata session.flash
      (readU32 payload 0)
    let session := { session with engine, metadata }
    if status ≠ .ok then session.sendError sequence status 0
    else { session.save.sendAck sequence engine.targetSlot.code with finished := some true }

/-- One round of the loop of `run`. -/
def handle (nodeId : UInt8) : Received → SessionStep
  | .timeout =>
    { session.sendError 0 .timeout session.engine.state.code with finished := some false }
  | .ignored => { session }
  | .badPacket => session.sendError 0 .badPacket 0
  | .packet .hello sequence _ => session.handleHello nodeId sequence
  | .packet .begin sequence payload => session.handleBegin sequence payload
  | .packet .chunk sequence payload => session.handleChunk sequence payload
  | .packet .end_ sequence payload => session.handleEnd sequence payload
  | .packet .abort sequence _ =>
    { { session with engine := session.engine.abort }.sendAck sequence 0 with
      finished := some false }
  | .packet type sequence _ => session.sendError sequence .badPacket type.code

end UpdateSession
end SensorSystem.Node.Boot

/-! A record lies at the start of a sector of its own. It is written by erasing the sector and
programming one page, and power may be lost after the erase or after any prefix of the program. -/

namespace SensorSystem.Node.Boot

/-- The page that holds a record, filled up with zeros. -/
def recordPage (record : List UInt8) : List UInt8 :=
  record ++ List.replicate (flashPageSize - record.length) 0

/-- The sector is erased and a prefix of the page is programmed. -/
def Flash.writeRecordUntil (flash : Flash) (offset : Nat) (record : List UInt8)
    (programmed : Nat) : Flash :=
  (flash.flashRangeErase offset flashSectorSize).flashRangeProgram offset
    ((recordPage record).take programmed)

def Flash.writeRecord (flash : Flash) (offset : Nat) (record : List UInt8) : Flash :=
  flash.writeRecordUntil offset record flashPageSize

/-- What a prefix of the program leaves of a record. -/
def tornRecord (record : List UInt8) (programmed : Nat) : List UInt8 :=
  record.take programmed ++ List.replicate (record.length - programmed) 0xFF

/-- The first bytes of a sector. -/
def Apart (offset other length : Nat) : Prop :=
  other + length ≤ offset ∨ offset + flashSectorSize ≤ other

variable {record : List UInt8}

theorem length_recordPage (fits : record.length ≤ flashPageSize) :
    (recordPage record).length = flashPageSize := by
  rw [recordPage, List.length_append, List.length_replicate]
  omega

theorem erased_and (byte : UInt8) : 0xFF &&& byte = byte := by
  refine UInt8.eq_of_toBitVec_eq ?_
  exact BitVec.allOnes_and

theorem length_tornRecord (record : List UInt8) (programmed : Nat) :
    (tornRecord record programmed).length = record.length := by
  rw [tornRecord, List.length_append, List.length_take, List.length_replicate]
  omega

theorem tornRecord_of_le {programmed : Nat} (whole : record.length ≤ programmed) :
    tornRecord record programmed = record := by
  rw [tornRecord, List.take_of_length_le whole, Nat.sub_eq_zero_of_le whole]
  exact List.append_nil record

theorem read_writeRecordUntil (flash : Flash) (offset : Nat)
    (fits : record.length ≤ flashPageSize) (programmed : Nat) :
    (flash.writeRecordUntil offset record programmed).read offset record.length =
      tornRecord record programmed := by
  have page := length_recordPage fits
  have sector : record.length ≤ flashSectorSize := Nat.le_trans fits (by decide)
  refine List.ext_getElem ?_ fun index inside _ => ?_
  · rw [length_tornRecord, Flash.read, List.length_map, List.length_range]
  have bound : index < record.length := by
    rw [Flash.read, List.length_map, List.length_range] at inside
    exact inside
  have erased : offset ≤ offset + index ∧ offset + index < offset + flashSectorSize := by omega
  simp only [Flash.read, List.getElem_map, List.getElem_range, Flash.writeRecordUntil,
    Flash.flashRangeProgram, Flash.flashRangeErase, if_pos erased, List.length_take, page,
    Nat.add_sub_cancel_left]
  by_cases early : index < programmed
  · have reached : offset ≤ offset + index ∧
        offset + index < offset + min programmed flashPageSize := by omega
    have inPage : index < ((recordPage record).take programmed).length := by
      rw [List.length_take, page]
      omega
    rw [if_pos reached, erased_and, List.getD_eq_getElem?_getD, List.getElem?_eq_getElem inPage,
      Option.getD_some, List.getElem_take]
    simp only [recordPage, tornRecord]
    rw [List.getElem_append_left bound,
      List.getElem_append_left (by rw [List.length_take]; omega), List.getElem_take]
  · have beyond : ¬ (offset ≤ offset + index ∧
        offset + index < offset + min programmed flashPageSize) := by omega
    rw [if_neg beyond]
    simp only [tornRecord]
    rw [List.getElem_append_right (by rw [List.length_take]; omega), List.getElem_replicate]

/-- Another sector is not touched. -/
theorem read_writeRecordUntil_apart (flash : Flash) {offset other length : Nat}
    (fits : record.length ≤ flashPageSize) (apart : Apart offset other length) (programmed : Nat) :
    (flash.writeRecordUntil offset record programmed).read other length =
      flash.read other length := by
  have page := length_recordPage fits
  have small : flashPageSize ≤ flashSectorSize := by decide
  refine List.map_congr_left fun index member => ?_
  have bound := List.mem_range.mp member
  unfold Apart at apart
  have outside : ¬ (offset ≤ other + index ∧ other + index < offset + flashSectorSize) := by omega
  have beyond : ¬ (offset ≤ other + index ∧
      other + index < offset + min programmed flashPageSize) := by omega
  simp only [Flash.writeRecordUntil, Flash.flashRangeProgram, Flash.flashRangeErase,
    List.length_take, page, if_neg outside, if_neg beyond]

end SensorSystem.Node.Boot
