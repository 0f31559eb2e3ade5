import SensorSystem.Node.Boot.BootMetadata

/-! `boot_decision.cpp` and `boot_runtime_logic.cpp`: which slot is booted next, and how the
running application confirms a trial. -/

namespace SensorSystem.Node.Boot

inductive BootError where
  | none
  | invalidMetadata
  | trialRollback
  | requestedSlotNotBootable
  | noBootableSlot
  | requestedUpdateTimeout

def BootError.code : BootError → UInt32
  | none => 0
  | invalidMetadata => 1
  | trialRollback => 2
  | requestedSlotNotBootable => 3
  | noBootableSlot => 4
  | requestedUpdateTimeout => 5

structure BootDecision where
  mode : BootMode := .halt
  slot : SlotId := .none
  error : BootError := .none
  metadataChanged : Bool := false

def otherSlot : SlotId → SlotId
  | .a => .b
  | .b => .a
  | .none => .none

variable (metadata : BootMetadata)

def selectDefaultBootableSlot : SlotId :=
  if bootSlotIsBootable metadata metadata.bootSlot then metadata.bootSlot
  else if bootSlotIsBootable metadata metadata.activeSlot then metadata.activeSlot
  else if bootSlotIsBootable metadata (otherSlot metadata.activeSlot) then
    otherSlot metadata.activeSlot
  else if bootSlotIsBootable metadata .a then .a
  else if bootSlotIsBootable metadata .b then .b
  else .none

def maintenanceOrHalt (error : BootError) : BootDecision where
  mode := .maintenance
  error := error

/-- A trial is waiting for its boot or for its confirmation. -/
def BootMetadata.TrialPending : Prop :=
  metadata.trialArmed ≠ 0 ∧ metadata.trialSlot ≠ .none

instance (metadata : BootMetadata) : Decidable metadata.TrialPending :=
  inferInstanceAs (Decidable (_ ∧ _))

def BootMetadata.clearTrial : BootMetadata :=
  { metadata with trialArmed := 0, trialAttempted := 0, trialSlot := .none }

/-- The trial counts as failed, and the active slot is the one to boot. -/
def BootMetadata.rollBackTrial : BootMetadata :=
  { (setSlotMetadata metadata metadata.trialSlot fun record =>
      { record with failedTrialBoots := record.failedTrialBoots + 1 }).clearTrial with
    bootSlot := metadata.activeSlot
    lastError := BootError.trialRollback.code }

variable (slot : SlotId)

/-- A slot that the operator named. -/
def decideRequested (mode : BootMode) : BootDecision :=
  if bootSlotIsBootable metadata slot then { mode, slot } else
    maintenanceOrHalt .requestedSlotNotBootable

/-- The decision when nothing was asked for. -/
def decideDefault : BootMetadata × BootDecision :=
  if metadata.TrialPending then
    if ¬ bootSlotIsBootable metadata metadata.trialSlot then
      ({ metadata.clearTrial with lastError := BootError.requestedSlotNotBootable.code },
        { mode := .maintenance, error := .requestedSlotNotBootable, metadataChanged := true })
    else if metadata.trialAttempted = 0 then
      ({ metadata with trialAttempted := 1, bootSlot := metadata.trialSlot },
        { mode := .normal, slot := metadata.trialSlot, metadataChanged := true })
    else
      let rolledBack := metadata.rollBackTrial
      if bootSlotIsBootable rolledBack metadata.activeSlot then
        (rolledBack, { mode := .normal, slot := metadata.activeSlot, error := .trialRollback,
                       metadataChanged := true })
      else
        let fallback := selectDefaultBootableSlot rolledBack
        if fallback ≠ .none then
          ({ rolledBack with bootSlot := fallback },
            { mode := .normal, slot := fallback, error := .trialRollback,
              metadataChanged := true })
        else
          (rolledBack,
            { mode := .maintenance, error := .noBootableSlot, metadataChanged := true })
  else
    let slot := selectDefaultBootableSlot metadata
    if slot = .none then (metadata, { mode := .maintenance, error := .noBootableSlot })
    else ({ metadata with bootSlot := slot }, { mode := .normal, slot })

def bootDecideNext (command : MaintenanceCommand) : BootMetadata × BootDecision :=
  if ¬ bootMetadataIsValid metadata then
    (metadata, { mode := .maintenance, error := .invalidMetadata })
  else match command with
    | .enterUpdate | .stayInBoot => (metadata, { mode := .maintenance })
    | .bootSlotA => (metadata, decideRequested metadata .a .normal)
    | .bootSlotB => (metadata, decideRequested metadata .b .normal)
    | .bootSafeA => (metadata, decideRequested metadata .a .safe)
    | .bootSafeB => (metadata, decideRequested metadata .b .safe)
    | .bootDefault | .none => decideDefault metadata

def BootMetadata.armTrial : BootMetadata :=
  { metadata with trialSlot := slot, trialArmed := 1, trialAttempted := 0, bootSlot := slot }

/-- Arm a trial of a slot; a slot that cannot boot is refused. -/
def bootMarkTrialPending : Bool × BootMetadata :=
  if ¬ bootSlotIsBootable metadata slot then (false, metadata)
  else (true, metadata.armTrial slot)

inductive TrialBootState where
  | unavailable
  | notRunningFromSlot
  | stable
  | pendingCurrentSlot
  | pendingOtherSlot

inductive TrialBootConfirmResult where
  | confirmed
  | alreadyConfirmed
  | notRunningTrial
  | invalidMetadata

def classifyTrialBoot (currentSlot : SlotId) : TrialBootState :=
  if ¬ bootMetadataIsValid metadata then .unavailable
  else if currentSlot = .none then .notRunningFromSlot
  else if metadata.trialArmed = 0 ∨ metadata.trialSlot = .none then
    if metadata.activeSlot = currentSlot ∧ metadata.bootSlot = currentSlot then .stable
    else .unavailable
  else if metadata.trialSlot = currentSlot ∧ metadata.bootSlot = currentSlot ∧
      metadata.trialAttempted ≠ 0 then .pendingCurrentSlot
  else .pendingOtherSlot

def confirmTrialBootInMetadata (currentSlot : SlotId) : TrialBootConfirmResult × BootMetadata :=
  match classifyTrialBoot metadata currentSlot with
  | .stable => (.alreadyConfirmed, metadata)
  | .unavailable => (.invalidMetadata, metadata)
  | .notRunningFromSlot | .pendingOtherSlot => (.notRunningTrial, metadata)
  | .pendingCurrentSlot =>
    if ¬ bootSlotIsBootable metadata currentSlot then (.invalidMetadata, metadata)
    else
      let metadata := { metadata with activeSlot := currentSlot, bootSlot := currentSlot }
      let metadata := setSlotMetadata metadata currentSlot fun record =>
        if record.confirmedBoots ≠ 0xFFFFFFFF then
          { record with confirmedBoots := record.confirmedBoots + 1 }
        else record
      (.confirmed, { metadata.clearTrial with lastError := 0 })

end SensorSystem.Node.Boot
