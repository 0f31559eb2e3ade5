import SensorSystem.Node.Boot.BootNode

/-! What a node keeps through every run: the active slot can boot and no session touches it, a
trial is always of the other slot, and nothing but a completed update makes one. -/

namespace SensorSystem.Node.Boot

open BootMetadata BootUpdateEngine List
open Base

/-- What decides whether a slot can boot. -/
def BootMetadata.image (metadata : BootMetadata) (slot : SlotId) : UInt8 × UInt32 × UInt32 :=
  let record := bootSlotMetadata metadata slot
  (record.imageValid, record.imageSize, record.imageCrc32)

variable {one other : BootMetadata}

theorem bootable_congr {slot : SlotId} (same : one.image slot = other.image slot) :
    bootSlotIsBootable one slot = bootSlotIsBootable other slot := by
  obtain ⟨valid, size, crc⟩ : _ ∧ _ ∧ _ := by simpa [image] using same
  simp only [bootSlotIsBootable, valid, size, crc]

theorem bootable_none (metadata : BootMetadata) : bootSlotIsBootable metadata .none = false := by
  simp [bootSlotIsBootable]

theorem ne_none_of_bootable {metadata : BootMetadata} {slot : SlotId}
    (bootable : bootSlotIsBootable metadata slot = true) : slot ≠ .none := by
  rintro rfl
  rw [bootable_none] at bootable
  cases bootable

theorem otherSlot_ne {slot : SlotId} (named : slot ≠ .none) : otherSlot slot ≠ slot := by
  cases slot <;> simp_all [otherSlot]

theorem otherSlot_ne_none {slot : SlotId} (named : slot ≠ .none) : otherSlot slot ≠ .none := by
  cases slot <;> simp_all [otherSlot]

/-- Sessions write to the slot that is not active. -/
theorem chooseTargetSlot_eq {metadata : BootMetadata} (named : metadata.activeSlot ≠ .none) :
    chooseTargetSlot metadata = otherSlot metadata.activeSlot := by
  unfold chooseTargetSlot
  cases active : metadata.activeSlot <;> simp_all [otherSlot]

variable {changed : SlotId} {update : SlotMetadata → SlotMetadata} {third : BootMetadata}

/-- A change of one slot leaves the image of another alone. -/
theorem image_setSlotMetadata_of_ne {metadata : BootMetadata} {slot : SlotId}
    (named : changed ≠ .none) (other : slot ≠ .none) (differs : changed ≠ slot) :
    (setSlotMetadata metadata changed update).image slot = metadata.image slot := by
  cases changed <;> cases slot <;> simp_all [image, bootSlotMetadata, setSlotMetadata]

/-- A change that keeps the image fields. -/
theorem image_setSlotMetadata_of_same {metadata : BootMetadata} {slot : SlotId}
    (keeps : ∀ record, (update record).imageValid = record.imageValid ∧
      (update record).imageSize = record.imageSize ∧
      (update record).imageCrc32 = record.imageCrc32) :
    (setSlotMetadata metadata changed update).image slot = metadata.image slot := by
  cases changed <;> cases slot <;>
    simp [image, bootSlotMetadata, setSlotMetadata, keeps]

variable (metadata : BootMetadata) (slot : SlotId)

include metadata slot

@[simp] theorem setSlotMetadata_activeSlot (update : SlotMetadata → SlotMetadata) :
    (setSlotMetadata metadata slot update).activeSlot = metadata.activeSlot := by
  cases slot <;> rfl

@[simp] theorem setSlotMetadata_bootSlot (update : SlotMetadata → SlotMetadata) :
    (setSlotMetadata metadata slot update).bootSlot = metadata.bootSlot := by
  cases slot <;> rfl

@[simp] theorem setSlotMetadata_trialSlot (update : SlotMetadata → SlotMetadata) :
    (setSlotMetadata metadata slot update).trialSlot = metadata.trialSlot := by
  cases slot <;> rfl

@[simp] theorem setSlotMetadata_trialArmed (update : SlotMetadata → SlotMetadata) :
    (setSlotMetadata metadata slot update).trialArmed = metadata.trialArmed := by
  cases slot <;> rfl

@[simp] theorem setSlotMetadata_trialAttempted (update : SlotMetadata → SlotMetadata) :
    (setSlotMetadata metadata slot update).trialAttempted = metadata.trialAttempted := by
  cases slot <;> rfl

omit slot metadata

/-- A trial that was not booted yet. -/
def BootMetadata.Untried (metadata : BootMetadata) : Prop :=
  metadata.TrialPending ∧ metadata.trialAttempted = 0

instance (metadata : BootMetadata) : Decidable metadata.Untried :=
  inferInstanceAs (Decidable (_ ∧ _))

def InSlot (slot : SlotId) (position : Nat) : Prop :=
  bootSlotOffset slot ≤ position ∧ position < bootSlotOffset slot + bootSlotSize slot

/-- What was done between two contents of the flash leaves a slot alone. -/
structure FlashKeeps (slot : SlotId) (before after : Flash) : Prop where
  log : ∃ done, after.log = before.log ++ done ∧
    ∀ op ∈ done, ∀ position, InSlot slot position → ¬ op.Touches position
  content : ∀ position, InSlot slot position → after.content position = before.content position

namespace FlashKeeps

variable {slot : SlotId} {before middle after : Flash}

theorem refl (slot : SlotId) (flash : Flash) : FlashKeeps slot flash flash :=
  ⟨⟨[], (append_nil _).symm, nofun⟩, fun _ _ => rfl⟩

theorem trans (first : FlashKeeps slot before middle) (second : FlashKeeps slot middle after) :
    FlashKeeps slot before after := by
  obtain ⟨early, logged, avoids⟩ := first.log
  obtain ⟨late, extended, spares⟩ := second.log
  refine ⟨⟨early ++ late, by rw [extended, logged, append_assoc], ?_⟩, ?_⟩
  · intro op member
    rcases mem_append.mp member with member | member
    · exact avoids op member
    · exact spares op member
  · intro position inside
    rw [second.content position inside, first.content position inside]

variable {offset : Nat}

theorem erase {length : Nat}
    (apart : ∀ position, InSlot slot position →
      ¬ (offset ≤ position ∧ position < offset + length)) :
    FlashKeeps slot before (before.flashRangeErase offset length) := by
  refine ⟨⟨[_], rfl, forall_mem_singleton.mpr apart⟩, ?_⟩
  intro position inside
  exact if_neg (apart position inside)

theorem program {data : List UInt8} (apart : ∀ position, InSlot slot position →
    ¬ (offset ≤ position ∧ position < offset + data.length)) :
    FlashKeeps slot before (before.flashRangeProgram offset data) := by
  refine ⟨⟨[_], rfl, forall_mem_singleton.mpr apart⟩, ?_⟩
  intro position inside
  exact if_neg (apart position inside)

theorem eraseSectors {flash : Flash} {count : Nat} (apart : ∀ position, InSlot slot position →
      ¬ (offset ≤ position ∧ position < offset + count * flashSectorSize)) :
    FlashKeeps slot flash (flash.eraseSectors offset count) := by
  induction count generalizing flash offset with
  | zero => exact refl slot flash
  | succ count ih =>
    have wide : (count + 1) * flashSectorSize = flashSectorSize + count * flashSectorSize := by
      rw [Nat.add_mul, Nat.one_mul, Nat.add_comm]
    rw [wide] at apart
    refine (erase ?_).trans (ih ?_)
    · intro position inside hit
      exact apart position inside ⟨hit.1, by omega⟩
    · intro position inside hit
      exact apart position inside ⟨by omega, by omega⟩

/-- The image of the slot still has its vectors. -/
theorem header (keeps : FlashKeeps slot before after) :
    after.bootImageHeaderLooksValid slot = before.bootImageHeaderLooksValid slot := by
  unfold Flash.bootImageHeaderLooksValid
  by_cases named : slot = .none
  · rw [if_pos named, if_pos named]
  have wide : 8 ≤ bootSlotSize slot := by
    cases slot <;> first | exact absurd rfl named | decide
  have vectors : after.read (bootSlotOffset slot) 8 = before.read (bootSlotOffset slot) 8 := by
    refine map_congr_left fun index member => keeps.content _ ⟨by omega, ?_⟩
    have := mem_range.mp member
    omega
  rw [if_neg named, if_neg named, Flash.vectorTableLooksValid, Flash.vectorTableLooksValid,
    vectors]

end FlashKeeps

/-- The two slots lie apart. -/
theorem inSlot_apart {slot : SlotId} (named : slot ≠ .none) {position : Nat}
    (inside : InSlot slot position) : ¬ (bootSlotOffset (otherSlot slot) ≤ position ∧
      position < bootSlotOffset (otherSlot slot) + bootSlotSize (otherSlot slot)) := by
  cases slot with
  | none => exact absurd rfl named
  | a =>
    simp only [InSlot, otherSlot, bootSlotOffset, bootSlotSize, slotAOffset, slotASize,
      slotBOffset, slotBSize] at inside ⊢
    omega
  | b =>
    simp only [InSlot, otherSlot, bootSlotOffset, bootSlotSize, slotAOffset, slotASize,
      slotBOffset, slotBSize] at inside ⊢
    omega

/-- Two records that decide alike. -/
structure Alike (one other : BootMetadata) : Prop where
  activeSlot : one.activeSlot = other.activeSlot
  bootSlot : one.bootSlot = other.bootSlot
  trialSlot : one.trialSlot = other.trialSlot
  trialArmed : one.trialArmed = other.trialArmed
  trialAttempted : one.trialAttempted = other.trialAttempted
  image : ∀ slot, one.image slot = other.image slot

theorem Alike.save (metadata : BootMetadata) : Alike metadata (bootMetadataSave metadata) :=
  ⟨rfl, rfl, rfl, rfl, rfl, fun _ => rfl⟩

theorem Alike.trans (first : Alike one other) (second : Alike other third) : Alike one third where
  activeSlot := first.activeSlot.trans second.activeSlot
  bootSlot := first.bootSlot.trans second.bootSlot
  trialSlot := first.trialSlot.trans second.trialSlot
  trialArmed := first.trialArmed.trans second.trialArmed
  trialAttempted := first.trialAttempted.trans second.trialAttempted
  image slot := (first.image slot).trans (second.image slot)

theorem Alike.trialPending (alike : Alike one other) : one.TrialPending ↔ other.TrialPending := by
  rw [TrialPending, TrialPending, alike.trialArmed, alike.trialSlot]

theorem Alike.untried (alike : Alike one other) : one.Untried ↔ other.Untried := by
  rw [Untried, Untried, alike.trialPending, alike.trialAttempted]

/-- A record with the active slot of another one, and the same image in it. -/
structure SameActive (kept metadata : BootMetadata) : Prop where
  slot : metadata.activeSlot = kept.activeSlot
  image : metadata.image kept.activeSlot = kept.image kept.activeSlot

theorem SameActive.refl (metadata : BootMetadata) : SameActive metadata metadata := ⟨rfl, rfl⟩

theorem SameActive.trans (first : SameActive one other) (second : SameActive other third) :
    SameActive one third := by
  refine ⟨second.slot.trans first.slot, ?_⟩
  have image := second.image
  rw [first.slot] at image
  exact image.trans first.image

theorem SameActive.of_alike {kept : BootMetadata} (same : SameActive kept one)
    (alike : Alike one other) : SameActive kept other :=
  ⟨alike.activeSlot.symm.trans same.slot, (alike.image _).symm.trans same.image⟩

/-- The active slot can boot, and a trial is of the other slot. -/
structure Coherent (flash : Flash) (metadata : BootMetadata) : Prop where
  bootable : bootSlotIsBootable metadata metadata.activeSlot = true
  header : flash.bootImageHeaderLooksValid metadata.activeSlot = true
  trial : metadata.TrialPending → metadata.trialSlot = otherSlot metadata.activeSlot
  boot : metadata.bootSlot = metadata.activeSlot ∨
    metadata.TrialPending ∧ metadata.bootSlot = metadata.trialSlot ∨
    bootSlotIsBootable metadata metadata.bootSlot = false

namespace Coherent

variable {flash : Flash} {metadata : BootMetadata} (coherent : Coherent flash metadata)

include coherent

theorem active_ne_none : metadata.activeSlot ≠ .none :=
  ne_none_of_bootable coherent.bootable

theorem of_alike (alike : Alike metadata other) : Coherent flash other := by
  refine ⟨?_, ?_, ?_, ?_⟩
  · rw [← alike.activeSlot, ← bootable_congr (alike.image _)]
    exact coherent.bootable
  · rw [← alike.activeSlot]
    exact coherent.header
  · rw [← alike.trialPending, ← alike.trialSlot, ← alike.activeSlot]
    exact coherent.trial
  · rw [← alike.trialPending, ← alike.trialSlot, ← alike.activeSlot, ← alike.bootSlot,
      ← bootable_congr (alike.image _)]
    exact coherent.boot

theorem save : Coherent flash (bootMetadataSave metadata) :=
  coherent.of_alike (.save metadata)

theorem keep {after : Flash} (keeps : FlashKeeps metadata.activeSlot flash after) :
    Coherent after metadata :=
  { coherent with header := keeps.header.trans coherent.header }

/-- The record of the other slot changes to one that cannot boot. -/
theorem setOther
    (dead : bootSlotIsBootable (setSlotMetadata metadata (otherSlot metadata.activeSlot) update)
      (otherSlot metadata.activeSlot) = false) :
    Coherent flash (setSlotMetadata metadata (otherSlot metadata.activeSlot) update) := by
  have named := coherent.active_ne_none
  have kept : bootSlotIsBootable (setSlotMetadata metadata (otherSlot metadata.activeSlot) update)
      metadata.activeSlot = bootSlotIsBootable metadata metadata.activeSlot :=
    bootable_congr (image_setSlotMetadata_of_ne (otherSlot_ne_none named) named
      (otherSlot_ne named))
  have pending : (setSlotMetadata metadata (otherSlot metadata.activeSlot) update).TrialPending ↔
      metadata.TrialPending := by
    simp only [TrialPending, setSlotMetadata_trialArmed, setSlotMetadata_trialSlot]
  refine ⟨?_, ?_, ?_, ?_⟩
  · rw [setSlotMetadata_activeSlot, kept]
    exact coherent.bootable
  · rw [setSlotMetadata_activeSlot]
    exact coherent.header
  · rw [pending, setSlotMetadata_trialSlot, setSlotMetadata_activeSlot]
    exact coherent.trial
  rw [pending, setSlotMetadata_bootSlot, setSlotMetadata_trialSlot, setSlotMetadata_activeSlot]
  rcases coherent.boot with active | trial | unbootable
  · exact .inl active
  · exact .inr (.inl trial)
  -- The slot to boot is none of the two, or the one that has just died.
  refine .inr (.inr ?_)
  by_cases same : metadata.bootSlot = otherSlot metadata.activeSlot
  · rw [same]
    exact dead
  by_cases absent : metadata.bootSlot = .none
  · rw [absent, bootable_none]
  rw [bootable_congr (image_setSlotMetadata_of_ne (otherSlot_ne_none named) absent
    (Ne.symm same)), unbootable]

/-- The other slot is put on trial. -/
theorem armTrial {changed : BootMetadata} (active : SameActive metadata changed) :
    Coherent flash (changed.armTrial (otherSlot metadata.activeSlot)) := by
  have named := coherent.active_ne_none
  have slot : (changed.armTrial (otherSlot metadata.activeSlot)).activeSlot =
      metadata.activeSlot := active.slot
  refine ⟨?_, by rw [slot]; exact coherent.header, fun _ => by rw [slot]; rfl, ?_⟩
  · rw [slot, ← coherent.bootable]
    exact bootable_congr active.image
  · exact .inr (.inl ⟨⟨nofun, otherSlot_ne_none named⟩, rfl⟩)

omit coherent

end Coherent

/-- Metadata in memory beside the record that is stored. -/
structure Follows (flash : Flash) (kept metadata : BootMetadata) : Prop where
  coherent : Coherent flash metadata
  active : SameActive kept metadata
  untried : metadata.Untried → kept.Untried

/-- What is stored is valid and fits the flash. -/
structure Kept (flash : Flash) (stored : Option BootMetadata) (kept : BootMetadata) : Prop where
  stored : stored = some kept
  valid : bootMetadataIsValid kept = true
  coherent : Coherent flash kept

/-- An engine that receives an image works on the slot that is not active. -/
def BootUpdateEngine.Aims (engine : BootUpdateEngine) (active : SlotId) : Prop :=
  engine.state = .receivingImage → engine.targetSlot = otherSlot active ∧
    engine.targetSlotOffset = bootSlotOffset (otherSlot active) ∧
    engine.targetSlotSize = bootSlotSize (otherSlot active)

structure UpdateSession.Sound (session : UpdateSession) (kept : BootMetadata) : Prop where
  disk : Kept session.flash session.stored kept
  memory : Follows session.flash kept session.metadata
  aims : session.engine.Aims kept.activeSlot

/-- The active slot is left alone, and only a completed update puts a slot on trial. -/
structure SessionStep.Spares (step : SessionStep) (flash : Flash) (kept after : BootMetadata) :
    Prop where
  sound : step.session.Sound after
  active : SameActive kept after
  keeps : FlashKeeps kept.activeSlot flash step.session.flash
  untried : after.Untried → kept.Untried ∨ step.finished = some true

namespace BootUpdateEngine

variable {engine : BootUpdateEngine} {active : SlotId}

theorem aims_of_ne (other : engine.state ≠ .receivingImage) : engine.Aims active :=
  fun receiving => absurd receiving other

theorem aims_new (active : SlotId) : ({} : BootUpdateEngine).Aims active :=
  aims_of_ne nofun

theorem aims_fail (engine : BootUpdateEngine) (active : SlotId) : engine.fail.Aims active :=
  aims_of_ne nofun

/-- An image that begins erases the other slot and nothing else. -/
theorem begin_spares {metadata : BootMetadata} (aims : engine.Aims metadata.activeSlot)
    (named : metadata.activeSlot ≠ .none) (flash : Flash)
    (imageSize imageCrc32 imageVersion : UInt32) :
    let begun := engine.begin metadata flash imageSize imageCrc32 imageVersion
    begun.2.1.Aims metadata.activeSlot ∧ FlashKeeps metadata.activeSlot flash begun.2.2 := by
  have target := chooseTargetSlot_eq named
  unfold begin
  simp only [target]
  split
  · exact ⟨aims, .refl _ _⟩
  split
  · exact ⟨aims_fail _ _, .refl _ _⟩
  split
  · exact ⟨aims_fail _ _, .refl _ _⟩
  refine ⟨fun _ => ⟨rfl, rfl, rfl⟩, FlashKeeps.eraseSectors ?_⟩
  intro position inside
  have whole : bootSlotSize (otherSlot metadata.activeSlot) / flashSectorSize * flashSectorSize =
      bootSlotSize (otherSlot metadata.activeSlot) := by
    cases otherSlot metadata.activeSlot <;> rfl
  rw [whole]
  exact inSlot_apart named inside

/-- A chunk is programmed inside the other slot. -/
theorem writeChunk_spares (aims : engine.Aims active) (named : active ≠ .none) (flash : Flash)
    (offset : Nat) (data : List UInt8) (validLength : Nat) :
    let wrote := engine.writeChunk flash offset data validLength
    wrote.2.1.Aims active ∧ FlashKeeps active flash wrote.2.2 := by
  unfold writeChunk
  simp only
  split
  · exact ⟨aims, .refl _ _⟩
  rename_i receiving
  obtain ⟨slot, start, size⟩ := aims (not_not.mp receiving)
  iterate 4
    split
    · exact ⟨aims_fail _ _, .refl _ _⟩
  split
  · split
    · exact ⟨aims, .refl _ _⟩
    · exact ⟨aims_fail _ _, .refl _ _⟩
  split
  · exact ⟨aims_fail _ _, .refl _ _⟩
  rename_i fits
  split
  · exact ⟨aims_fail _ _, .refl _ _⟩
  refine ⟨fun _ => ⟨slot, start, size⟩, FlashKeeps.program ?_⟩
  intro position inside hit
  refine inSlot_apart named inside ?_
  rw [start] at hit
  rw [size] at fits
  omega

/-- How an update can end. -/
theorem finish_cases (engine : BootUpdateEngine) (metadata : BootMetadata) (flash : Flash)
    (expectedCrc32 : UInt32) : let done := engine.finish metadata flash expectedCrc32
    (done.1 ≠ .ok ∧ (done.2.1 = engine ∨ done.2.1 = engine.fail) ∧ done.2.2 = metadata) ∨
    (engine.state = .receivingImage ∧ done.1 ≠ .ok ∧ done.2.1 = engine.fail ∧
      done.2.2 = engine.installed metadata ∧
      bootSlotIsBootable (engine.installed metadata) engine.targetSlot = false) ∨
    (engine.state = .receivingImage ∧ done.1 = .ok ∧
      done.2.1 = { engine with state := .completed } ∧
      done.2.2 = (engine.installed metadata).armTrial engine.targetSlot) := by
  unfold finish
  split
  · exact .inl ⟨nofun, .inl rfl, rfl⟩
  rename_i receiving
  iterate 3
    split
    · exact .inl ⟨nofun, .inr rfl, rfl⟩
  refine .inr ?_
  unfold bootMarkTrialPending
  by_cases bootable : bootSlotIsBootable (engine.installed metadata) engine.targetSlot
  · rw [if_neg (not_not.mpr bootable)]
    exact .inr ⟨not_not.mp receiving, rfl, rfl, rfl⟩
  rw [if_pos bootable]
  exact .inl ⟨not_not.mp receiving, nofun, rfl, rfl, Bool.eq_false_iff.mpr bootable⟩

end BootUpdateEngine

namespace UpdateSession

variable {session : UpdateSession} {kept : BootMetadata}

/-- The flash changes outside the active slot only. -/
theorem Sound.work (sound : session.Sound kept) {engine : BootUpdateEngine} {flash : Flash}
    (keeps : FlashKeeps kept.activeSlot session.flash flash) (aims : engine.Aims kept.activeSlot) :
    ({ session with engine, flash } : UpdateSession).Sound kept where
  disk := { sound.disk with coherent := sound.disk.coherent.keep keeps }
  memory := { sound.memory with
    coherent := by
      refine sound.memory.coherent.keep ?_
      rw [sound.memory.active.slot]
      exact keeps }
  aims := aims

/-- The metadata in memory is stored. -/
theorem sound_save (coherent : Coherent session.flash session.metadata)
    (aims : session.engine.Aims session.metadata.activeSlot) :
    session.save.Sound (bootMetadataSave session.metadata) where
  disk := ⟨rfl, bootMetadataIsValid_save _, coherent.save⟩
  memory := ⟨coherent.save, .refl _, id⟩
  aims := aims

variable (sound : session.Sound kept)

include sound

theorem Sound.save : session.save.Sound (bootMetadataSave session.metadata) := by
  refine sound_save sound.memory.coherent ?_
  rw [sound.memory.active.slot]
  exact sound.aims

/-- The metadata in memory changes where no decision looks. -/
theorem Sound.of_alike {metadata : BootMetadata} (alike : Alike session.metadata metadata) :
    ({ session with metadata } : UpdateSession).Sound kept where
  disk := sound.disk
  memory := {
    coherent := sound.memory.coherent.of_alike alike
    active := sound.memory.active.of_alike alike
    untried := fun untried => sound.memory.untried (alike.untried.mpr untried) }
  aims := sound.aims

/-- A packet that is only answered. -/
theorem Sound.spares {step : SessionStep} (same : step.session = session) :
    step.Spares session.flash kept kept := by
  refine ⟨by rwa [same], .refl kept, ?_, Or.inl⟩
  rw [same]
  exact .refl _ _

omit sound

theorem answer_session (session : UpdateSession) (sequence : UInt32) (status : UpdateStatus)
    (accepted refused : UInt32) :
    (session.answer sequence status accepted refused).session = session := by
  unfold answer
  split <;> rfl

include sound

/-- The record of the other slot changes in memory. -/
theorem Sound.setOther {changed : BootMetadata} (sets : changed =
      setSlotMetadata session.metadata (otherSlot session.metadata.activeSlot) update)
    (dead : bootSlotIsBootable changed (otherSlot session.metadata.activeSlot) = false) :
    ({ session with metadata := changed } : UpdateSession).Sound kept where
  disk := sound.disk
  memory := by
    have named := sound.memory.coherent.active_ne_none
    subst sets
    refine ⟨sound.memory.coherent.setOther dead, ⟨?_, ?_⟩, ?_⟩
    · rw [setSlotMetadata_activeSlot]
      exact sound.memory.active.slot
    · rw [← sound.memory.active.image, ← sound.memory.active.slot]
      exact image_setSlotMetadata_of_ne (otherSlot_ne_none named) named (otherSlot_ne named)
    · intro untried
      refine sound.memory.untried ?_
      simpa [Untried, TrialPending] using untried
  aims := sound.aims

variable (sequence : UInt32) (payload : List UInt8)

theorem Sound.handleBegin_spares :
    ∃ after, (session.handleBegin sequence payload).Spares session.flash kept after := by
  have named := sound.memory.coherent.active_ne_none
  have target := chooseTargetSlot_eq named
  unfold handleBegin
  simp only [target]
  split
  · exact ⟨kept, sound.spares rfl⟩
  split
  · exact ⟨kept, sound.spares rfl⟩
  generalize sets : (setSlotMetadata session.metadata (otherSlot session.metadata.activeSlot) _) =
    invalid
  have dead : bootSlotIsBootable invalid (otherSlot session.metadata.activeSlot) = false := by
    rw [← sets]
    cases active : session.metadata.activeSlot <;>
      simp [bootSlotIsBootable, bootSlotMetadata, setSlotMetadata, otherSlot]
  have invalidated := sound.setOther sets.symm dead
  have saved := invalidated.save
  have spares := begin_spares saved.aims
    saved.memory.coherent.active_ne_none session.flash (readU32 payload 0) (readU32 payload 4)
    (readU32 payload 8)
  refine ⟨bootMetadataSave invalid, ?_, ?_, ?_, ?_⟩
  · rw [answer_session]
    exact saved.work spares.2 spares.1
  · exact invalidated.memory.active.of_alike (.save invalid)
  · rw [answer_session]
    have slot : (bootMetadataSave invalid).activeSlot = kept.activeSlot :=
      invalidated.memory.active.slot
    rw [← slot]
    exact spares.2
  · intro untried
    exact .inl (invalidated.memory.untried ((Alike.save invalid).untried.mpr untried))

theorem Sound.handleChunk_spares :
    (session.handleChunk sequence payload).Spares session.flash kept kept := by
  unfold handleChunk
  split
  · exact sound.spares rfl
  split
  · exact sound.spares rfl
  have spares := writeChunk_spares sound.aims
    sound.disk.coherent.active_ne_none session.flash (readU32 payload 0).toNat (payload.drop 8)
    (readU16 payload 6).toNat
  refine ⟨?_, .refl kept, ?_, Or.inl⟩
  · rw [answer_session]
    exact sound.work spares.2 spares.1
  · rw [answer_session]
    exact spares.2

/-- The session goes on with another engine that does not receive. -/
theorem Sound.stop {engine : BootUpdateEngine}
    (stopped : engine = session.engine ∨ engine.state ≠ .receivingImage) :
    ({ session with engine } : UpdateSession).Sound kept := by
  refine sound.work (.refl _ _) ?_
  rcases stopped with rfl | other
  · exact sound.aims
  · exact aims_of_ne other

theorem Sound.handleEnd_spares :
    ∃ after, (session.handleEnd sequence payload).Spares session.flash kept after := by
  have named := sound.memory.coherent.active_ne_none
  unfold handleEnd
  split
  · exact ⟨kept, sound.spares rfl⟩
  rcases ends : session.engine.finish session.metadata session.flash (readU32 payload 0) with
    ⟨status, engine, metadata⟩
  have cases := session.engine.finish_cases session.metadata session.flash (readU32 payload 0)
  simp only [ends] at cases ⊢
  rcases cases with ⟨refused, engines, rfl⟩ | ⟨receiving, refused, rfl, rfl, dead⟩ |
    ⟨receiving, rfl, rfl, rfl⟩
  · rw [if_pos refused]
    refine ⟨kept, sound.stop ?_, .refl kept, .refl _ _, Or.inl⟩
    rcases engines with rfl | rfl
    · exact .inl rfl
    · exact .inr nofun
  · -- The image has no checksum to check: only the memory changes.
    rw [if_pos refused]
    obtain ⟨target, -, -⟩ := sound.aims receiving
    rw [← sound.memory.active.slot] at target
    rw [target] at dead
    have changed := sound.setOther (congrArg
      (setSlotMetadata session.metadata · session.engine.imageRecord) target) dead
    have alike : Alike (setSlotMetadata session.metadata session.engine.targetSlot
        session.engine.imageRecord) (session.engine.installed session.metadata) :=
      ⟨rfl, rfl, rfl, rfl, rfl, fun _ => rfl⟩
    exact ⟨kept, (changed.of_alike alike).stop (.inr nofun), .refl kept, .refl _ _, Or.inl⟩
  · rw [if_neg (not_not.mpr rfl)]
    obtain ⟨target, -, -⟩ := sound.aims receiving
    rw [← sound.memory.active.slot] at target
    have changed : SameActive session.metadata (session.engine.installed session.metadata) := by
      refine ⟨setSlotMetadata_activeSlot _ _ _, ?_⟩
      rw [installed, target]
      exact image_setSlotMetadata_of_ne (otherSlot_ne_none named) named (otherSlot_ne named)
    have coherent := sound.memory.coherent.armTrial changed
    rw [← target] at coherent
    refine ⟨_, sound_save coherent (aims_of_ne nofun), ?_, .refl _ _,
      fun _ => .inr rfl⟩
    have active := sound.memory.active.trans changed
    exact ⟨active.slot, active.image⟩

theorem Sound.handle_spares (nodeId : UInt8) (received : Received) :
    ∃ after, (session.handle nodeId received).Spares session.flash kept after := by
  cases received with
  | timeout => exact ⟨kept, sound.spares rfl⟩
  | ignored => exact ⟨kept, sound.spares rfl⟩
  | badPacket => exact ⟨kept, sound.spares rfl⟩
  | packet type sequence payload =>
    cases type with
    | begin => exact sound.handleBegin_spares sequence payload
    | chunk => exact ⟨kept, sound.handleChunk_spares sequence payload⟩
    | end_ => exact sound.handleEnd_spares sequence payload
    | abort => exact ⟨kept, sound.stop (.inr nofun), .refl kept, .refl _ _, Or.inl⟩
    | hello => exact ⟨kept, sound.spares rfl⟩
    | ack => exact ⟨kept, sound.spares rfl⟩
    | error => exact ⟨kept, sound.spares rfl⟩

omit sound

end UpdateSession
end SensorSystem.Node.Boot
