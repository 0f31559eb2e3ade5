import SensorSystem.Node.Boot.BootUpdate

/-! `boot_flash.cpp` and `boot_shared_metadata_io.cpp`: the record is kept twice. A save erases
and programs the primary copy and then the secondary one, and a load takes the newest copy that is
valid. A copy is whatever bytes lie at its place, so it is judged as bytes. -/

namespace SensorSystem.Node.Boot

open BootMetadata List
open Base

def metadataPrimaryOffset : Nat := 0x00020000
def metadataSecondaryOffset : Nat := 0x00021000

/-- `sizeof(BootMetadata)`, and where its checksum lies. -/
def metadataSize : Nat := 79
def metadataChecksumOffset : Nat := 75

/-- `boot_metadata_is_valid` on the bytes of a copy. -/
def copyIsValid (copy : List UInt8) : Bool :=
  readU32 copy 0 = bootMetadataMagic && readU16 copy 4 = bootMetadataVersion &&
    readU32 copy metadataChecksumOffset =
      bootCrc32 (copy.take metadataChecksumOffset ++ u32Bytes 0)

def copyGeneration (copy : List UInt8) : UInt32 := readU32 copy 8

def pickNewestValidCopy (a b : List UInt8) : Option (List UInt8) :=
  if ¬ copyIsValid a ∧ ¬ copyIsValid b then none
  else if copyIsValid a ∧ ¬ copyIsValid b then some a
  else if ¬ copyIsValid a ∧ copyIsValid b then some b
  else if copyGeneration a ≥ copyGeneration b then some a
  else some b

namespace Flash

def primaryCopy (flash : Flash) : List UInt8 := flash.read metadataPrimaryOffset metadataSize
def secondaryCopy (flash : Flash) : List UInt8 := flash.read metadataSecondaryOffset metadataSize

/-- `boot_metadata_load` and `app_boot_metadata_load`. -/
def loadMetadata (flash : Flash) : Option (List UInt8) :=
  pickNewestValidCopy flash.primaryCopy flash.secondaryCopy

end Flash

/-- So many bytes of a copy were programmed behind its erase. -/
inductive SaveEnd where
  | primary (programmed : Nat)
  | secondary (programmed : Nat)
  | completed
deriving DecidableEq

/-- The two programs that save. -/
inductive Saver where
  | bootloader
  | application

structure Save where
  saver : Saver
  metadata : BootMetadata
  ends : SaveEnd

/-- What the save writes. -/
def Save.record (save : Save) : List UInt8 := (bootMetadataSave save.metadata).bytes

/-- Both copies, one behind the other, as far as the power lasts. -/
def Flash.writeCopies (flash : Flash) (record : List UInt8) : SaveEnd → Flash
  | .primary programmed => flash.writeRecordUntil metadataPrimaryOffset record programmed
  | .secondary programmed =>
    (flash.writeRecord metadataPrimaryOffset record).writeRecordUntil metadataSecondaryOffset
      record programmed
  | .completed =>
    (flash.writeRecord metadataPrimaryOffset record).writeRecord metadataSecondaryOffset record

/-- `boot_metadata_save`. -/
def Flash.bootMetadataSave (flash : Flash) (metadata : BootMetadata) (ends : SaveEnd) : Flash :=
  flash.writeCopies (Boot.bootMetadataSave metadata).bytes ends

/-- `app_boot_metadata_save`, which goes through `flash_safe_execute`. -/
def Flash.appBootMetadataSave (flash : Flash) (metadata : BootMetadata) (ends : SaveEnd) : Flash :=
  flash.writeCopies (Boot.bootMetadataSave metadata).bytes ends

def Flash.save (flash : Flash) (save : Save) : Flash :=
  match save.saver with
  | .bootloader => flash.bootMetadataSave save.metadata save.ends
  | .application => flash.appBootMetadataSave save.metadata save.ends

def Flash.saves (flash : Flash) (saves : List Save) : Flash := saves.foldl Flash.save flash

variable (metadata : BootMetadata)

theorem length_content : metadata.content.length = metadataChecksumOffset := by
  simp [content, SlotMetadata.bytes, metadataChecksumOffset]

theorem length_record : metadata.bytes.length = metadataSize := by
  rw [bytes, length_append, length_content]
  rfl

/-- The check of the bytes is the check of the record they spell. -/
theorem copyIsValid_bytes : copyIsValid metadata.bytes = bootMetadataIsValid metadata := by
  have content := length_content metadata
  have magic : readU32 metadata.bytes 0 = metadata.magic := by
    simp only [bytes, BootMetadata.content, append_assoc]
    exact readU32_u32Bytes _ _
  have version : readU16 metadata.bytes 4 = metadata.version := by
    simp only [bytes, BootMetadata.content, append_assoc]
    rw [readU16_append_of_le (by simp), length_u32Bytes]
    exact readU16_u16Bytes _ _
  have checksum : readU32 metadata.bytes metadataChecksumOffset = metadata.metadataCrc32 := by
    rw [bytes, readU32_append_of_le (Nat.le_of_eq content), content, Nat.sub_self,
      ← append_nil (u32Bytes _)]
    exact readU32_u32Bytes _ _
  have front : metadata.bytes.take metadataChecksumOffset = metadata.content := by
    rw [bytes, ← content, take_left']
    rfl
  rw [copyIsValid, magic, version, checksum, front, bootMetadataIsValid]
  rfl

theorem Save.valid (save : Save) : copyIsValid save.record = true := by
  rw [Save.record, copyIsValid_bytes]
  exact bootMetadataIsValid_save _

theorem Save.length_record (save : Save) : save.record.length = metadataSize :=
  Boot.length_record _

theorem Save.fits (save : Save) : save.record.length ≤ flashPageSize := by
  rw [save.length_record]
  decide

variable (flash : Flash)

include flash

theorem save_eq (save : Save) : flash.save save = flash.writeCopies save.record save.ends := by
  unfold Flash.save
  cases save.saver with
  | bootloader => rfl
  | application => rfl

theorem primaryCopy_write (save : Save) (programmed : Nat) :
    (flash.writeRecordUntil metadataPrimaryOffset save.record programmed).primaryCopy =
      tornRecord save.record programmed := by
  rw [Flash.primaryCopy, ← save.length_record]
  exact read_writeRecordUntil flash _ save.fits programmed

theorem secondaryCopy_write (save : Save) (programmed : Nat) :
    (flash.writeRecordUntil metadataSecondaryOffset save.record programmed).secondaryCopy =
      tornRecord save.record programmed := by
  rw [Flash.secondaryCopy, ← save.length_record]
  exact read_writeRecordUntil flash _ save.fits programmed

theorem secondaryCopy_writePrimary (save : Save) (programmed : Nat) :
    (flash.writeRecordUntil metadataPrimaryOffset save.record programmed).secondaryCopy =
      flash.secondaryCopy :=
  read_writeRecordUntil_apart flash save.fits (.inr (by decide)) programmed

theorem primaryCopy_writeSecondary (save : Save) (programmed : Nat) :
    (flash.writeRecordUntil metadataSecondaryOffset save.record programmed).primaryCopy =
      flash.primaryCopy :=
  read_writeRecordUntil_apart flash save.fits (.inl (by decide)) programmed

omit flash

/-- A page that was programmed to its end holds the whole record. -/
theorem Save.tornRecord_page (save : Save) : tornRecord save.record flashPageSize = save.record :=
  tornRecord_of_le save.fits

/-- The copies that a save leaves, as far as it came. -/
theorem save_copies (flash : Flash) (save : Save) :
    ((flash.save save).primaryCopy, (flash.save save).secondaryCopy) =
      match save.ends with
      | .primary programmed => (tornRecord save.record programmed, flash.secondaryCopy)
      | .secondary programmed => (save.record, tornRecord save.record programmed)
      | .completed => (save.record, save.record) := by
  rw [save_eq]
  cases save.ends with
  | primary programmed =>
    simp only [Flash.writeCopies, primaryCopy_write, secondaryCopy_writePrimary]
  | secondary programmed =>
    simp only [Flash.writeCopies, Flash.writeRecord, primaryCopy_writeSecondary,
      primaryCopy_write, secondaryCopy_write, save.tornRecord_page]
  | completed =>
    simp only [Flash.writeCopies, Flash.writeRecord, primaryCopy_writeSecondary,
      primaryCopy_write, secondaryCopy_write, save.tornRecord_page]

/-- The records that a load may return: of the last completed save, and of the saves behind it. -/
def remembered (start : Flash) (saves : List Save) : List (List UInt8) :=
  saves.foldl (fun records save =>
    if save.ends = .completed then [save.record] else records ++ [save.record])
    ([start.primaryCopy, start.secondaryCopy].filter copyIsValid)

/-- After every save of a series a load returns one of them. -/
def Survives (start : Flash) (saves : List Save) : Prop :=
  ∀ early late, saves = early ++ late →
    ∃ record ∈ remembered start early, (start.saves early).loadMetadata = some record

/-- The power was lost before the record stood in the primary copy. -/
def Save.LosesPrimary (save : Save) : Prop :=
  ∃ programmed, save.ends = .primary programmed ∧ tornRecord save.record programmed ≠ save.record

/-- A copy that is not whole does not pass the checksum. -/
def Save.TornRejected (save : Save) : Prop :=
  ∀ programmed, save.ends = .primary programmed ∨ save.ends = .secondary programmed →
    copyIsValid (tornRecord save.record programmed) = true →
    tornRecord save.record programmed = save.record

/-- What the copies are along a series of saves. -/
structure CopiesFrom (flash : Flash) (records : List (List UInt8)) : Prop where
  primary : copyIsValid flash.primaryCopy = true → flash.primaryCopy ∈ records
  secondary : copyIsValid flash.secondaryCopy = true → flash.secondaryCopy ∈ records
  one : copyIsValid flash.primaryCopy = true ∨ copyIsValid flash.secondaryCopy = true

theorem pickNewestValidCopy_eq_some {a b copy : List UInt8}
    (picked : pickNewestValidCopy a b = some copy) :
    copy = a ∧ copyIsValid a = true ∨ copy = b ∧ copyIsValid b = true := by
  unfold pickNewestValidCopy at picked
  by_cases first : copyIsValid a <;> by_cases second : copyIsValid b
  all_goals simp only [first, second] at picked
  all_goals grind

theorem pickNewestValidCopy_eq_none {a b : List UInt8} :
    pickNewestValidCopy a b = none ↔ copyIsValid a = false ∧ copyIsValid b = false := by
  unfold pickNewestValidCopy
  by_cases first : copyIsValid a <;> by_cases second : copyIsValid b
  all_goals simp only [first, second]
  all_goals grind

namespace CopiesFrom

variable {flash : Flash} {records : List (List UInt8)}

theorem start (flash : Flash) (holds : flash.loadMetadata ≠ none) :
    CopiesFrom flash ([flash.primaryCopy, flash.secondaryCopy].filter copyIsValid) := by
  refine ⟨fun valid => ?_, fun valid => ?_, ?_⟩
  · exact mem_filter.mpr ⟨mem_cons_self, valid⟩
  · exact mem_filter.mpr ⟨mem_cons_of_mem _ mem_cons_self, valid⟩
  by_contra neither
  obtain ⟨first, second⟩ := not_or.mp neither
  exact holds (pickNewestValidCopy_eq_none.mpr
    ⟨Bool.eq_false_iff.mpr first, Bool.eq_false_iff.mpr second⟩)

/-- A load returns one of the records. -/
theorem load (copies : CopiesFrom flash records) :
    ∃ record ∈ records, flash.loadMetadata = some record := by
  cases loaded : flash.loadMetadata with
  | none =>
    obtain ⟨first, second⟩ := pickNewestValidCopy_eq_none.mp loaded
    rcases copies.one with valid | valid
    · rw [first] at valid
      cases valid
    · rw [second] at valid
      cases valid
  | some record =>
    rcases pickNewestValidCopy_eq_some loaded with ⟨rfl, valid⟩ | ⟨rfl, valid⟩
    · exact ⟨_, copies.primary valid, rfl⟩
    · exact ⟨_, copies.secondary valid, rfl⟩

theorem save (copies : CopiesFrom flash records) (save : Save) (rejected : save.TornRejected)
    (spare : save.LosesPrimary → copyIsValid flash.secondaryCopy = true) :
    CopiesFrom (flash.save save)
      (if save.ends = .completed then [save.record] else records ++ [save.record]) := by
  have left := save_copies flash save
  cases ends : save.ends with
  | primary programmed =>
    rw [ends] at left
    obtain ⟨primary, secondary⟩ := Prod.mk.inj left
    rw [if_neg nofun]
    refine ⟨?_, ?_, ?_⟩
    · rw [primary]
      intro valid
      rw [rejected programmed (.inl ends) valid]
      exact mem_append_right _ mem_cons_self
    · rw [secondary]
      exact fun valid => mem_append_left _ (copies.secondary valid)
    rw [primary, secondary]
    by_cases whole : tornRecord save.record programmed = save.record
    · rw [whole]
      exact .inl save.valid
    · exact .inr (spare ⟨programmed, ends, whole⟩)
  | secondary programmed =>
    rw [ends] at left
    obtain ⟨primary, secondary⟩ := Prod.mk.inj left
    rw [if_neg nofun]
    refine ⟨?_, ?_, ?_⟩
    · rw [primary]
      exact fun _ => mem_append_right _ mem_cons_self
    · rw [secondary]
      intro valid
      rw [rejected programmed (.inr ends) valid]
      exact mem_append_right _ mem_cons_self
    · rw [primary]
      exact .inl save.valid
  | completed =>
    rw [ends] at left
    obtain ⟨primary, secondary⟩ := Prod.mk.inj left
    rw [if_pos rfl]
    refine ⟨?_, ?_, ?_⟩
    · rw [primary]
      exact fun _ => mem_cons_self
    · rw [secondary]
      exact fun _ => mem_cons_self
    · rw [primary]
      exact .inl save.valid

end CopiesFrom

/-- Losing the primary copy beside an invalid one leaves nothing. -/
theorem loadMetadata_lost {flash : Flash} {save : Save} (rejected : save.TornRejected)
    (loses : save.LosesPrimary) (invalid : copyIsValid flash.secondaryCopy = false) :
    (flash.save save).loadMetadata = none := by
  obtain ⟨programmed, ends, torn⟩ := loses
  have left := save_copies flash save
  rw [ends] at left
  obtain ⟨primary, secondary⟩ := Prod.mk.inj left
  refine pickNewestValidCopy_eq_none.mpr ⟨?_, ?_⟩
  · rw [primary]
    exact Bool.eq_false_iff.mpr fun valid => torn (rejected programmed (.inl ends) valid)
  · rw [secondary]
    exact invalid

theorem saves_concat (start : Flash) (saves : List Save) (save : Save) :
    start.saves (saves ++ [save]) = (start.saves saves).save save :=
  foldl_concat ..

theorem remembered_concat (start : Flash) (saves : List Save) (save : Save) :
    remembered start (saves ++ [save]) = if save.ends = .completed then [save.record]
      else remembered start saves ++ [save.record] :=
  foldl_concat ..

theorem copiesFrom_saves {start : Flash} (holds : start.loadMetadata ≠ none) {saves : List Save}
    (rejected : ∀ save ∈ saves, save.TornRejected)
    (spare : ∀ early save late, saves = early ++ save :: late → save.LosesPrimary →
      copyIsValid (start.saves early).secondaryCopy = true) :
    CopiesFrom (start.saves saves) (remembered start saves) := by
  induction saves using reverseRecOn with
  | nil => exact .start start holds
  | append_singleton saves save ih =>
    rw [saves_concat, remembered_concat]
    refine (ih ?_ ?_).save save (rejected save (by simp)) (spare saves save [] rfl)
    · exact fun earlier member => rejected earlier (mem_append_left _ member)
    · intro early earlier late split
      exact spare early earlier (late ++ [save]) (by rw [split]; simp)

/-- The boot metadata survives a series of saves exactly if none of them loses the primary
copy while the secondary one is invalid. -/
theorem survives_iff (start : Flash) (holds : start.loadMetadata ≠ none) (saves : List Save)
    (rejected : ∀ save ∈ saves, save.TornRejected) :
    Survives start saves ↔ ∀ early save late, saves = early ++ save :: late →
      save.LosesPrimary → copyIsValid (start.saves early).secondaryCopy = true := by
  constructor
  · intro survives early save late split loses
    by_contra invalid
    obtain ⟨record, -, loaded⟩ := survives (early ++ [save]) late (by rw [split]; simp)
    have lost := loadMetadata_lost (rejected save (by rw [split]; simp)) loses
      (Bool.eq_false_iff.mpr invalid)
    rw [saves_concat, lost] at loaded
    cases loaded
  intro spare early late split
  refine (copiesFrom_saves holds ?_ ?_).load
  · exact fun save member => rejected save (by rw [split]; exact List.mem_append_left _ member)
  · intro before save after inner
    exact spare before save (after ++ late) (by rw [split, inner]; simp)

/-- A flash whose two copies hold the default metadata. -/
def savedFlash : Flash :=
  ({ content := fun _ => 0xFF } : Flash).save ⟨.bootloader, bootMetadataMakeDefault, .completed⟩

/-- The application loses power behind the primary copy, and the bootloader saves. -/
def resumedSave : List Save :=
  [⟨.application, bootMetadataMakeDefault, .secondary 0⟩,
    ⟨.bootloader, bootMetadataMakeDefault, .completed⟩]

theorem survives_resumedSave : Survives savedFlash resumedSave := by
  refine (survives_iff savedFlash (by decide +kernel) resumedSave ?_).mpr ?_
  · intro save member programmed ends
    rcases List.mem_cons.mp member with rfl | member
    · rcases ends with ends | ends
      · cases ends
      · cases ends
        decide +kernel
    rw [List.mem_singleton.mp member] at ends
    rcases ends with ends | ends
    · cases ends
    · cases ends
  · rintro early save late split ⟨programmed, ends, -⟩
    have member : save ∈ resumedSave := by
      rw [split]
      simp
    rcases List.mem_cons.mp member with rfl | member
    · cases ends
    · rw [List.mem_singleton.mp member] at ends
      cases ends

/-- The bootloader loses power too, before the primary copy stands again. -/
def lostSave : List Save :=
  [⟨.application, bootMetadataMakeDefault, .secondary 0⟩,
    ⟨.bootloader, bootMetadataMakeDefault, .primary 0⟩]

theorem not_survives_lostSave :
    savedFlash.loadMetadata ≠ none ∧ ¬ Survives savedFlash lostSave := by
  refine ⟨by decide +kernel, fun survives => ?_⟩
  obtain ⟨record, -, loaded⟩ := survives lostSave [] rfl
  have lost : (savedFlash.saves lostSave).loadMetadata = none := by decide +kernel
  rw [lost] at loaded
  cases loaded

end SensorSystem.Node.Boot
