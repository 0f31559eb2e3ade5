import SensorSystem.Node.Boot.TrialSafety

/-! What the bootloader decides from the metadata and the images, and what its decision does to
the metadata. -/

namespace SensorSystem.Node.Boot

variable {flash : Flash} {metadata : BootMetadata}

variable (metadata)

theorem not_trialPending_clearTrial :
    ¬ metadata.clearTrial.TrialPending :=
  fun pending => pending.1 rfl

theorem not_trialPending_rollBackTrial :
    ¬ metadata.rollBackTrial.TrialPending :=
  fun pending => pending.1 rfl

theorem rollBackTrial_image (slot : SlotId) :
    metadata.rollBackTrial.image slot = metadata.image slot :=
  image_setSlotMetadata_of_same fun _ => ⟨rfl, rfl, rfl⟩

theorem rollBackTrial_activeSlot :
    metadata.rollBackTrial.activeSlot = metadata.activeSlot :=
  setSlotMetadata_activeSlot _ _ _

theorem rollBackTrial_bootable (slot : SlotId) :
    bootSlotIsBootable metadata.rollBackTrial slot = bootSlotIsBootable metadata slot :=
  bootable_congr (rollBackTrial_image metadata slot)

theorem SameActive.rollBackTrial :
    SameActive metadata metadata.rollBackTrial :=
  ⟨rollBackTrial_activeSlot metadata, rollBackTrial_image metadata _⟩

variable {metadata}

namespace Coherent

variable (coherent : Coherent flash metadata)

include coherent

theorem rollBackTrial : Coherent flash metadata.rollBackTrial := by
  have active := rollBackTrial_activeSlot metadata
  refine ⟨?_, ?_, fun pending => absurd pending (not_trialPending_rollBackTrial metadata), ?_⟩
  · rw [active, rollBackTrial_bootable]
    exact coherent.bootable
  · rw [active]
    exact coherent.header
  · exact .inl active.symm

/-- A trial whose slot is dead is forgotten. -/
theorem clearTrial (dead : bootSlotIsBootable metadata metadata.trialSlot = false) :
    Coherent flash metadata.clearTrial := by
  refine ⟨coherent.bootable, coherent.header,
    fun pending => absurd pending (not_trialPending_clearTrial metadata), ?_⟩
  rcases coherent.boot with active | ⟨-, trial⟩ | unbootable
  · exact .inl active
  · refine .inr (.inr ?_)
    rw [← trial] at dead
    exact dead
  · exact .inr (.inr unbootable)

theorem tryTrial (pending : metadata.TrialPending) :
    Coherent flash { metadata with trialAttempted := 1, bootSlot := metadata.trialSlot } :=
  ⟨coherent.bootable, coherent.header, coherent.trial, .inr (.inl ⟨pending, rfl⟩)⟩

/-- Without a trial the active slot is the one to boot. -/
theorem selectDefaultBootableSlot_eq (settled : ¬ metadata.TrialPending) :
    selectDefaultBootableSlot metadata = metadata.activeSlot := by
  unfold selectDefaultBootableSlot
  split
  · rename_i bootable
    rcases coherent.boot with active | ⟨pending, -⟩ | unbootable
    · exact active
    · exact absurd pending settled
    · rw [unbootable] at bootable
      cases bootable
  · rw [if_pos coherent.bootable]

omit coherent

end Coherent

/-- What the decision may do to the metadata. -/
structure Decides (flash : Flash) (before after : BootMetadata) : Prop where
  coherent : Coherent flash after
  active : SameActive before after
  untried : after.Untried → before.Untried

theorem Decides.refl (coherent : Coherent flash metadata) : Decides flash metadata metadata :=
  ⟨coherent, .refl _, id⟩

theorem Decides.of_alike {before after other : BootMetadata} (decides : Decides flash before after)
    (alike : Alike after other) : Decides flash before other where
  coherent := decides.coherent.of_alike alike
  active := decides.active.of_alike alike
  untried := fun untried => decides.untried (alike.untried.mpr untried)

theorem Decides.rollBackTrial (coherent : Coherent flash metadata) :
    Decides flash metadata metadata.rollBackTrial :=
  ⟨coherent.rollBackTrial, .rollBackTrial metadata,
    fun untried => absurd untried.1 (not_trialPending_rollBackTrial metadata)⟩

theorem Decides.trans {before middle after : BootMetadata} (first : Decides flash before middle)
    (second : Decides flash middle after) : Decides flash before after where
  coherent := second.coherent
  active := first.active.trans second.active
  untried := fun untried => first.untried (second.untried untried)

/-- The four ways a default boot can go. -/
inductive DefaultDecision (metadata : BootMetadata) : BootMetadata → BootDecision → Prop
  | dead (pending : metadata.TrialPending)
      (dead : bootSlotIsBootable metadata metadata.trialSlot = false) :
      DefaultDecision metadata
        { metadata.clearTrial with lastError := BootError.requestedSlotNotBootable.code }
        { mode := .maintenance, error := .requestedSlotNotBootable, metadataChanged := true }
  | trial (untried : metadata.Untried)
      (bootable : bootSlotIsBootable metadata metadata.trialSlot = true) :
      DefaultDecision metadata
        { metadata with trialAttempted := 1, bootSlot := metadata.trialSlot }
        { mode := .normal, slot := metadata.trialSlot, metadataChanged := true }
  | rollBack (pending : metadata.TrialPending) (attempted : metadata.trialAttempted ≠ 0)
      (bootable : bootSlotIsBootable metadata metadata.trialSlot = true) :
      DefaultDecision metadata metadata.rollBackTrial
        { mode := .normal, slot := metadata.activeSlot, error := .trialRollback,
          metadataChanged := true }
  | settled (settled : ¬ metadata.TrialPending) :
      DefaultDecision metadata { metadata with bootSlot := metadata.activeSlot }
        { mode := .normal, slot := metadata.activeSlot }

theorem decideDefault_cases (coherent : Coherent flash metadata) :
    DefaultDecision metadata (decideDefault metadata).1 (decideDefault metadata).2 := by
  unfold decideDefault
  by_cases pending : metadata.TrialPending
  · rw [if_pos pending]
    by_cases bootable : bootSlotIsBootable metadata metadata.trialSlot
    · rw [if_neg (not_not.mpr bootable)]
      by_cases attempted : metadata.trialAttempted = 0
      · rw [if_pos attempted]
        exact .trial ⟨pending, attempted⟩ bootable
      rw [if_neg attempted]
      simp only [rollBackTrial_bootable, coherent.bootable, if_true]
      exact .rollBack pending attempted bootable
    · rw [if_pos bootable]
      exact .dead pending (Bool.eq_false_iff.mpr bootable)
  · rw [if_neg pending]
    simp only [coherent.selectDefaultBootableSlot_eq pending, coherent.active_ne_none, if_false]
    exact .settled pending

theorem DefaultDecision.decides {after : BootMetadata} {decision : BootDecision}
    (coherent : Coherent flash metadata) (decided : DefaultDecision metadata after decision) :
    Decides flash metadata after := by
  cases decided with
  | dead pending dead =>
    have clears : Decides flash metadata metadata.clearTrial :=
      ⟨coherent.clearTrial dead, ⟨rfl, rfl⟩,
        fun untried => absurd untried.1 (not_trialPending_clearTrial metadata)⟩
    exact clears.of_alike ⟨rfl, rfl, rfl, rfl, rfl, fun _ => rfl⟩
  | trial untried bootable =>
    exact ⟨coherent.tryTrial untried.1, ⟨rfl, rfl⟩, fun again => nomatch again.2⟩
  | rollBack pending attempted bootable => exact .rollBackTrial coherent
  | settled settled =>
    refine ⟨⟨coherent.bootable, coherent.header, coherent.trial, .inl rfl⟩, ⟨rfl, rfl⟩, id⟩

/-- A default boot leaves no trial to be tried. -/
theorem DefaultDecision.not_untried {after : BootMetadata} {decision : BootDecision}
    (decided : DefaultDecision metadata after decision) : ¬ after.Untried := by
  cases decided with
  | dead pending dead => exact fun untried => untried.1.1 rfl
  | trial untried bootable => exact fun again => nomatch again.2
  | rollBack pending attempted bootable =>
    exact fun untried => not_trialPending_rollBackTrial metadata untried.1
  | settled settled => exact fun untried => settled untried.1

/-- What becomes of a trial is always saved. -/
theorem DefaultDecision.changed {after : BootMetadata} {decision : BootDecision}
    (decided : DefaultDecision metadata after decision) (pending : metadata.TrialPending) :
    decision.metadataChanged = true := by
  cases decided with
  | dead pending dead => rfl
  | trial untried bootable => rfl
  | rollBack pending attempted bootable => rfl
  | settled settled => exact absurd pending settled

theorem bootDecideNext_decides (coherent : Coherent flash metadata) (command : MaintenanceCommand) :
    Decides flash metadata (bootDecideNext metadata command).1 := by
  unfold bootDecideNext
  split
  · exact .refl coherent
  cases command with
  | none => exact (decideDefault_cases coherent).decides coherent
  | bootDefault => exact (decideDefault_cases coherent).decides coherent
  | bootSlotA => exact .refl coherent
  | bootSlotB => exact .refl coherent
  | bootSafeA => exact .refl coherent
  | bootSafeB => exact .refl coherent
  | enterUpdate => exact .refl coherent
  | stayInBoot => exact .refl coherent

theorem checkImageHeader_decides (coherent : Coherent flash metadata) (decision : BootDecision) :
    Decides flash metadata (checkImageHeader flash metadata decision).1 := by
  unfold checkImageHeader
  split
  · split
    · simp only
      split
      · exact .rollBackTrial coherent
      · exact .rollBackTrial coherent
    · exact (Decides.refl coherent).of_alike ⟨rfl, rfl, rfl, rfl, rfl, fun _ => rfl⟩
  · exact .refl coherent

theorem checkImageHeader_changed (flash : Flash) (metadata : BootMetadata) {decision : BootDecision}
    (changed : decision.metadataChanged = true) :
    (checkImageHeader flash metadata decision).2.metadataChanged = true := by
  unfold checkImageHeader
  split
  · split
    · simp only
      split <;> rfl
    · rfl
  · exact changed

/-- A slot with an image is jumped to. -/
theorem bootJumpToSlot_eq {slot : SlotId} (header : flash.bootImageHeaderLooksValid slot = true) :
    bootJumpToSlot flash slot = .running slot := by
  unfold Flash.bootImageHeaderLooksValid at header
  split at header
  · cases header
  rename_i named
  have placed : bootSlotOffset slot ≠ 0 := by
    cases slot <;> first | exact absurd rfl named | decide
  rw [bootJumpToSlot, if_pos ⟨placed, header⟩]

namespace BootNode

variable {node : BootNode} {command : MaintenanceCommand}

/-- The command that asks for nothing in particular. -/
def IsDefault (command : MaintenanceCommand) : Prop :=
  command = .none ∨ command = .bootDefault

instance (command : MaintenanceCommand) : Decidable (IsDefault command) :=
  inferInstanceAs (Decidable (_ ∨ _))

theorem bootDecideNext_default (valid : bootMetadataIsValid metadata = true)
    (default : IsDefault command) : bootDecideNext metadata command = decideDefault metadata := by
  unfold bootDecideNext
  rw [if_neg (not_not.mpr valid)]
  rcases default with rfl | rfl
  · rfl
  · rfl

/-- Where a default boot leads when the active slot can boot. -/
def defaultTarget (flash : Flash) (metadata : BootMetadata) : Option SlotId :=
  if metadata.TrialPending then
    if bootSlotIsBootable metadata metadata.trialSlot then
      if metadata.trialAttempted = 0 ∧ flash.bootImageHeaderLooksValid metadata.trialSlot then
        some metadata.trialSlot
      else some metadata.activeSlot
    else none
  else if bootSlotIsBootable metadata metadata.bootSlot then
    if flash.bootImageHeaderLooksValid metadata.bootSlot then some metadata.bootSlot else none
  else some metadata.activeSlot

/-- What the phase after the decision is. -/
def Reaches (node : BootNode) : Option SlotId → Prop
  | some slot => node.phase = .running slot
  | none => ∃ metadata, node.phase = .maintenance metadata {}

variable {chosen after : BootMetadata} {choice decision : BootDecision}
  (phase : node.phase = .deciding metadata command)
  (decided : bootDecideNext metadata command = (chosen, choice))
  (checked : checkImageHeader node.flash chosen choice = (after, decision))

include phase decided checked

theorem decide_jumps (normal : decision.mode = .normal)
    (header : node.flash.bootImageHeaderLooksValid decision.slot = true) :
    node.decide.Reaches (some decision.slot) := by
  simp only [Reaches, decide, phase, decided, checked, normal]
  exact bootJumpToSlot_eq header

theorem decide_stays (maintenance : decision.mode = .maintenance) : node.decide.Reaches none := by
  simp only [Reaches, decide, phase, decided, checked, maintenance]
  exact ⟨_, rfl⟩

omit checked decided phase

/-- The look at the image changes nothing. -/
theorem checkImageHeader_pass
    (fine : decision.slot = .none ∨ flash.bootImageHeaderLooksValid decision.slot = true) :
    checkImageHeader flash metadata decision = (metadata, decision) := by
  refine if_neg ?_
  rintro ⟨named, invalid⟩
  exact fine.elim named invalid

/-- A trial without an image is rolled back at once. -/
theorem checkImageHeader_rollBack (pending : metadata.TrialPending)
    (trial : decision.slot = metadata.trialSlot)
    (invalid : ¬ flash.bootImageHeaderLooksValid metadata.trialSlot)
    (bootable : bootSlotIsBootable metadata metadata.activeSlot = true)
    (header : flash.bootImageHeaderLooksValid metadata.activeSlot = true) :
    checkImageHeader flash metadata decision = (metadata.rollBackTrial,
      { mode := .normal, slot := metadata.activeSlot, error := .trialRollback,
        metadataChanged := true }) := by
  rw [checkImageHeader, trial, if_pos ⟨pending.2, invalid⟩, if_pos ⟨pending.1, rfl⟩]
  exact if_pos ⟨(rollBackTrial_bootable _ _).trans bootable, header⟩

/-- Any other slot without an image is refused. -/
theorem checkImageHeader_refuse (named : decision.slot ≠ .none)
    (invalid : ¬ flash.bootImageHeaderLooksValid decision.slot)
    (other : ¬ (metadata.trialArmed ≠ 0 ∧ decision.slot = metadata.trialSlot)) :
    checkImageHeader flash metadata decision =
      ({ metadata with lastError := BootError.requestedSlotNotBootable.code },
        { mode := .maintenance, error := .requestedSlotNotBootable, metadataChanged := true }) := by
  rw [checkImageHeader, if_pos ⟨named, invalid⟩, if_neg other]

/-- A default boot of a valid record. -/
theorem decide_default (phase : node.phase = .deciding metadata command)
    (default : IsDefault command) (valid : bootMetadataIsValid metadata = true)
    (bootable : bootSlotIsBootable metadata metadata.activeSlot = true)
    (header : node.flash.bootImageHeaderLooksValid metadata.activeSlot = true) :
    node.decide.Reaches (defaultTarget node.flash metadata) := by
  have decides := bootDecideNext_default valid default
  have named := ne_none_of_bootable bootable
  unfold defaultTarget
  by_cases pending : metadata.TrialPending
  · rw [if_pos pending]
    by_cases trial : bootSlotIsBootable metadata metadata.trialSlot
    · rw [if_pos trial]
      by_cases attempted : metadata.trialAttempted = 0
      · have first : decideDefault metadata =
            ({ metadata with trialAttempted := 1, bootSlot := metadata.trialSlot },
              { mode := .normal, slot := metadata.trialSlot, metadataChanged := true }) := by
          rw [decideDefault, if_pos pending, if_neg (not_not.mpr trial), if_pos attempted]
        by_cases image : node.flash.bootImageHeaderLooksValid metadata.trialSlot
        · rw [if_pos ⟨attempted, image⟩]
          exact decide_jumps phase (decides.trans first) (checkImageHeader_pass (.inr image)) rfl
            image
        rw [if_neg fun both => image both.2]
        exact decide_jumps phase (decides.trans first)
          (checkImageHeader_rollBack pending rfl image bootable header) rfl header
      · rw [if_neg fun both => attempted both.1]
        have second : decideDefault metadata = (metadata.rollBackTrial,
            { mode := .normal, slot := metadata.activeSlot, error := .trialRollback,
              metadataChanged := true }) := by
          rw [decideDefault, if_pos pending, if_neg (not_not.mpr trial), if_neg attempted]
          exact if_pos ((rollBackTrial_bootable _ _).trans bootable)
        exact decide_jumps phase (decides.trans second) (checkImageHeader_pass (.inr header)) rfl
          header
    · have dead : decideDefault metadata =
          ({ metadata.clearTrial with lastError := BootError.requestedSlotNotBootable.code },
            { mode := .maintenance, error := .requestedSlotNotBootable,
              metadataChanged := true }) := by
        rw [decideDefault, if_pos pending, if_pos trial]
      rw [if_neg trial]
      exact decide_stays phase (decides.trans dead) (checkImageHeader_pass (.inl rfl)) rfl
  · rw [if_neg pending]
    by_cases boot : bootSlotIsBootable metadata metadata.bootSlot
    · have present := ne_none_of_bootable boot
      have asked : decideDefault metadata =
          (metadata, { mode := .normal, slot := metadata.bootSlot }) := by
        simp only [decideDefault, if_neg pending, selectDefaultBootableSlot, if_pos boot,
          if_neg present]
      rw [if_pos boot]
      by_cases image : node.flash.bootImageHeaderLooksValid metadata.bootSlot
      · rw [if_pos image]
        exact decide_jumps phase (decides.trans asked) (checkImageHeader_pass (.inr image)) rfl
          image
      rw [if_neg image]
      have other : ¬ (metadata.trialArmed ≠ 0 ∧ metadata.bootSlot = metadata.trialSlot) :=
        fun both => pending ⟨both.1, both.2 ▸ present⟩
      exact decide_stays phase (decides.trans asked)
        (checkImageHeader_refuse present image other) rfl
    · have fallback : decideDefault metadata =
          ({ metadata with bootSlot := metadata.activeSlot },
            { mode := .normal, slot := metadata.activeSlot }) := by
        simp only [decideDefault, if_neg pending, selectDefaultBootableSlot, if_neg boot,
          if_pos bootable, if_neg named]
      rw [if_neg boot]
      exact decide_jumps phase (decides.trans fallback) (checkImageHeader_pass (.inr header)) rfl
        header

theorem loadMetadata_valid
    (stored : ∀ metadata, node.stored = some metadata → bootMetadataIsValid metadata = true) :
    bootMetadataIsValid node.loadMetadata = true := by
  unfold loadMetadata
  split
  · rename_i metadata found
    exact stored metadata found
  · exact bootMetadataIsValid_save _

theorem start_default (default : IsDefault command)
    (quiet : node.loadMetadata.bootFlags &&& bootFlagEnterUpdate = 0) :
    (node.start command).phase = .deciding node.loadMetadata command := by
  have idle : ¬ (node.loadMetadata.bootFlags &&& bootFlagEnterUpdate ≠ 0) := not_not.mpr quiet
  have other : command ≠ .enterUpdate := by
    rcases default with rfl | rfl
    · nofun
    · nofun
  simp only [start, if_neg idle, if_neg other]

/-- A default boot without a request, from the reset on. With a trial that can boot, or
without one, it ends in a slot: the trial on its first attempt, the active slot behind a
trial that was tried or has no image, and otherwise the slot to boot or, when that one is
dead, the active slot. -/
theorem default_boot_runs (node : BootNode) (command : MaintenanceCommand)
    (default : IsDefault command)
    (stored : ∀ metadata, node.stored = some metadata → bootMetadataIsValid metadata = true)
    (quiet : node.loadMetadata.bootFlags &&& bootFlagEnterUpdate = 0)
    (bootable : bootSlotIsBootable node.loadMetadata node.loadMetadata.activeSlot = true)
    (header : node.flash.bootImageHeaderLooksValid node.loadMetadata.activeSlot = true)
    (trial : node.loadMetadata.TrialPending →
      bootSlotIsBootable node.loadMetadata node.loadMetadata.trialSlot = true)
    (boot : ¬ node.loadMetadata.TrialPending →
      bootSlotIsBootable node.loadMetadata node.loadMetadata.bootSlot = true →
      node.flash.bootImageHeaderLooksValid node.loadMetadata.bootSlot = true) :
    let metadata := node.loadMetadata
    (node.start command).decide.phase = .running (
      if metadata.Untried ∧ node.flash.bootImageHeaderLooksValid metadata.trialSlot then
        metadata.trialSlot
      else if ¬ metadata.TrialPending ∧ bootSlotIsBootable metadata metadata.bootSlot then
        metadata.bootSlot
      else metadata.activeSlot) := by
  intro metadata
  have reached : (node.start command).decide.Reaches (defaultTarget node.flash metadata) :=
    decide_default (start_default default quiet) default (loadMetadata_valid stored) bootable header
  unfold defaultTarget at reached
  by_cases pending : metadata.TrialPending
  · rw [if_pos pending, if_pos (trial pending)] at reached
    rw [if_neg fun (both : ¬ metadata.TrialPending ∧ _) => both.1 pending]
    by_cases first : metadata.trialAttempted = 0 ∧
        node.flash.bootImageHeaderLooksValid metadata.trialSlot
    · rw [if_pos first] at reached
      rw [if_pos ⟨⟨pending, first.1⟩, first.2⟩]
      exact reached
    rw [if_neg first] at reached
    rw [if_neg fun (both : metadata.Untried ∧ _) => first ⟨both.1.2, both.2⟩]
    exact reached
  · rw [if_neg pending] at reached
    rw [if_neg fun (both : metadata.Untried ∧ _) => pending both.1.1]
    by_cases asked : bootSlotIsBootable metadata metadata.bootSlot
    · rw [if_pos asked, if_pos (boot pending asked)] at reached
      rw [if_pos ⟨pending, asked⟩]
      exact reached
    rw [if_neg asked] at reached
    rw [if_neg fun (both : ¬ metadata.TrialPending ∧ _) => asked both.2]
    exact reached

/-- Images in both slots: a stack pointer and a reset vector. -/
def imagesFlash : Flash where
  content position :=
    if position = slotAOffset + 3 ∨ position = slotBOffset + 3 then 0x20
    else if position = slotAOffset + 4 ∨ position = slotBOffset + 4 then 0x01
    else if position = slotAOffset + 7 ∨ position = slotBOffset + 7 then 0x10
    else 0

/-- Slot A is active, and slot B was booted for its trial. -/
def triedMetadata : BootMetadata :=
  bootMetadataFinalize {
    generation := 1
    activeSlot := .a
    bootSlot := .b
    trialSlot := .b
    trialArmed := 1
    trialAttempted := 1
    slotA := { imageSize := 1024, imageCrc32 := 1, imageVersion := 1, imageValid := 1 }
    slotB := { imageSize := 1024, imageCrc32 := 2, imageVersion := 2, imageValid := 1 } }

def triedNode : BootNode where
  stored := some triedMetadata
  flash := imagesFlash
  phase := .running .b

theorem triedNode_valid (metadata : BootMetadata) (found : triedNode.stored = some metadata) :
    bootMetadataIsValid metadata = true := by
  cases found
  exact bootMetadataIsValid_finalize _

theorem default_boot_runs_triedNode : (triedNode.start .none).decide.phase = .running .a :=
  default_boot_runs triedNode .none (.inl rfl) triedNode_valid (by decide) (by decide) (by decide)
    (by decide) (by decide)

/-- The slot on trial is armed and can boot, and the default boot takes the other one. -/
theorem armed_trial_not_booted : triedNode.loadMetadata.TrialPending ∧
    bootSlotIsBootable triedNode.loadMetadata triedNode.loadMetadata.trialSlot = true ∧
    triedNode.flash.bootImageHeaderLooksValid triedNode.loadMetadata.trialSlot = true ∧
    bootSlotIsBootable triedNode.loadMetadata triedNode.loadMetadata.activeSlot = true ∧
    triedNode.flash.bootImageHeaderLooksValid triedNode.loadMetadata.activeSlot = true ∧
    triedNode.loadMetadata.bootFlags &&& bootFlagEnterUpdate = 0 ∧
    (triedNode.start .none).decide.phase ≠ .running triedNode.loadMetadata.trialSlot := by
  refine ⟨by decide, by decide, by decide, by decide, by decide, by decide, ?_⟩
  have reached : (triedNode.start .none).decide.Reaches (some .a) :=
    decide_default (start_default (.inl rfl) (by decide)) (.inl rfl)
      (loadMetadata_valid triedNode_valid) (by decide) (by decide)
  rw [show (triedNode.start .none).decide.phase = .running .a from reached]
  decide

end BootNode

end SensorSystem.Node.Boot
