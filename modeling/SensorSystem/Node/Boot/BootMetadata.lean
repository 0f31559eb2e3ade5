import SensorSystem.Base.Bytes

/-! `boot_config.h` and `boot_metadata.cpp`: the layout of the flash, the record that the
bootloader and the application share, its checksum, and which slots it allows to boot. -/

namespace SensorSystem.Node.Boot

open Base

def slotAOffset : Nat := 0x00040000
def slotASize : Nat := 0x001E0000
def slotBOffset : Nat := 0x00220000
def slotBSize : Nat := 0x001E0000
def flashPageSize : Nat := 256
def flashSectorSize : Nat := 4096
def requestedUpdateMaxSessions : Nat := 6

inductive SlotId where
  | none
  | a
  | b
deriving DecidableEq

def SlotId.toByte : SlotId → UInt8
  | none => 0
  | a => 1
  | b => 2

inductive BootMode where
  | normal
  | safe
  | maintenance
  | halt

/-- What the operator asks for in the maintenance window. -/
inductive MaintenanceCommand where
  | none
  | bootDefault
  | bootSlotA
  | bootSlotB
  | bootSafeA
  | bootSafeB
  | enterUpdate
  | stayInBoot
deriving DecidableEq

def bootMetadataMagic : UInt32 := 0x424F4F54
def bootMetadataVersion : UInt16 := 2
def bootFlagNone : UInt8 := 0
def bootFlagEnterUpdate : UInt8 := 1
def unassignedNodeId : UInt8 := 0

structure SlotMetadata where
  imageSize : UInt32 := 0
  imageCrc32 : UInt32 := 0
  imageVersion : UInt32 := 0
  confirmedBoots : UInt32 := 0
  failedTrialBoots : UInt32 := 0
  imageValid : UInt8 := 0
  reserved0 : UInt8 := 0
  reserved1 : UInt16 := 0
deriving DecidableEq

structure BootMetadata where
  magic : UInt32 := bootMetadataMagic
  version : UInt16 := bootMetadataVersion
  reserved0 : UInt16 := 0
  generation : UInt32 := 0
  activeSlot : SlotId := .none
  bootSlot : SlotId := .none
  trialSlot : SlotId := .none
  trialArmed : UInt8 := 0
  trialAttempted : UInt8 := 0
  nodeId : UInt8 := unassignedNodeId
  bootFlags : UInt8 := bootFlagNone
  slotA : SlotMetadata := {}
  slotB : SlotMetadata := {}
  bootCounter : UInt32 := 0
  lastError : UInt32 := 0
  metadataCrc32 : UInt32 := 0
deriving DecidableEq

def crc32Bit (crc : UInt32) : UInt32 :=
  let mask := 0 - (crc &&& 1)
  (crc >>> 1) ^^^ (0xEDB88320 &&& mask)

def crc32Update (crc : UInt32) (byte : UInt8) : UInt32 :=
  Nat.repeat crc32Bit 8 (crc ^^^ byte.toUInt32)

def bootCrc32 (data : List UInt8) : UInt32 :=
  if data = [] then 0 else ~~~ data.foldl crc32Update 0xFFFFFFFF

/-- The packed record. -/
def SlotMetadata.bytes (slot : SlotMetadata) : List UInt8 :=
  u32Bytes slot.imageSize ++ (u32Bytes slot.imageCrc32 ++ (u32Bytes slot.imageVersion ++
    (u32Bytes slot.confirmedBoots ++ (u32Bytes slot.failedTrialBoots ++
      ([slot.imageValid, slot.reserved0] ++ u16Bytes slot.reserved1)))))

variable (metadata : BootMetadata)

/-- The packed record up to its checksum. -/
def BootMetadata.content : List UInt8 :=
  u32Bytes metadata.magic ++ (u16Bytes metadata.version ++ (u16Bytes metadata.reserved0 ++
    (u32Bytes metadata.generation ++ ([metadata.activeSlot.toByte, metadata.bootSlot.toByte,
      metadata.trialSlot.toByte, metadata.trialArmed, metadata.trialAttempted, metadata.nodeId,
      metadata.bootFlags] ++ (metadata.slotA.bytes ++ (metadata.slotB.bytes ++
        (u32Bytes metadata.bootCounter ++ u32Bytes metadata.lastError)))))))

def BootMetadata.bytes : List UInt8 :=
  metadata.content ++ u32Bytes metadata.metadataCrc32

def bootMetadataFinalize : BootMetadata :=
  let metadata := { metadata with
    magic := bootMetadataMagic
    version := bootMetadataVersion
    metadataCrc32 := 0 }
  { metadata with metadataCrc32 := bootCrc32 metadata.bytes }

def bootMetadataIsValid : Bool :=
  metadata.magic = bootMetadataMagic && metadata.version = bootMetadataVersion &&
    metadata.metadataCrc32 = bootCrc32 { metadata with metadataCrc32 := 0 }.bytes

/-- The record of a slot. Slot A stands in for no slot. -/
def bootSlotMetadata : SlotId → SlotMetadata
  | .a => metadata.slotA
  | .b => metadata.slotB
  | .none => metadata.slotA

/-- A change of the record of a slot. -/
def setSlotMetadata (slot : SlotId) (update : SlotMetadata → SlotMetadata) : BootMetadata :=
  match slot with
  | .a => { metadata with slotA := update metadata.slotA }
  | .b => { metadata with slotB := update metadata.slotB }
  | .none => { metadata with slotA := update metadata.slotA }

def bootSlotIsBootable (slot : SlotId) : Bool :=
  if slot = .none then false
  else
    let record := bootSlotMetadata metadata slot
    if record.imageValid = 0 then false
    else if record.imageSize = 0 then false
    else if record.imageCrc32 = 0 then false
    else if slot = .a ∧ record.imageSize.toNat > slotASize then false
    else if slot = .b ∧ record.imageSize.toNat > slotBSize then false
    else true

def bootSlotOffset : SlotId → Nat
  | .a => slotAOffset
  | .b => slotBOffset
  | .none => 0

def bootSlotSize : SlotId → Nat
  | .a => slotASize
  | .b => slotBSize
  | .none => 0

def bootMetadataMakeDefault : BootMetadata :=
  bootMetadataFinalize {
    generation := 1
    activeSlot := .a
    bootSlot := .a }

/-- What `boot_metadata_save` and `app_boot_metadata_save` write. -/
def bootMetadataSave : BootMetadata :=
  bootMetadataFinalize { metadata with generation := metadata.generation + 1 }

theorem bootMetadataIsValid_finalize :
    bootMetadataIsValid (bootMetadataFinalize metadata) = true := by
  simp [bootMetadataIsValid, bootMetadataFinalize]

theorem bootMetadataIsValid_save : bootMetadataIsValid (bootMetadataSave metadata) = true :=
  bootMetadataIsValid_finalize _

end SensorSystem.Node.Boot
