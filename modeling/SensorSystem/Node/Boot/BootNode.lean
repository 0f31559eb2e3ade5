import SensorSystem.Node.Boot.BootUpdate

/-! `boot_main.cpp` and `boot_runtime_api.cpp`. The bootloader loads the metadata, runs update
sessions when they are asked for, decides and jumps; the application works on what is stored. A
reset may come in any phase and loses what was only in memory. What is stored is the record of the
last save, or nothing when no copy is valid. -/

namespace SensorSystem.Node.Boot

/-- The length of an image: what lies in front of the erased end of its slot. -/
def usedSize (flash : Flash) (offset : Nat) : Nat → Nat
  | 0 => 0
  | size + 1 =>
    if flash.content (offset + size) ≠ 0xFF then size + 1 else usedSize flash offset size

variable (flash : Flash)

def inferSlotImageProperties (slot : SlotId) : Option (UInt32 × UInt32) :=
  if ¬ flash.bootImageHeaderLooksValid slot then none
  else
    let size := usedSize flash (bootSlotOffset slot) (bootSlotSize slot)
    if size = 0 then none
    else some (UInt32.ofNat size, bootCrc32 (flash.read (bootSlotOffset slot) size))

def bootRebuildFactoryMetadata : Option BootMetadata :=
  (inferSlotImageProperties flash .a).map fun (imageSize, imageCrc32) =>
    { bootMetadataMakeDefault with
      slotA := { bootMetadataMakeDefault.slotA with imageSize, imageCrc32, imageValid := 1 } }

inductive BootPhase where
  /-- Off, or on the way through a reset. -/
  | off
  /-- A requested update: one of the sessions that the host may use. -/
  | updating (metadata : BootMetadata) (attempt : Nat) (engine : BootUpdateEngine)
  /-- The window is over. -/
  | deciding (metadata : BootMetadata) (command : MaintenanceCommand)
  /-- Sessions until one succeeds. -/
  | maintenance (metadata : BootMetadata) (engine : BootUpdateEngine)
  /-- The application in a slot. -/
  | running (slot : SlotId)
  | halted
deriving DecidableEq

structure BootNode where
  stored : Option BootMetadata
  flash : Flash
  phase : BootPhase := .off

inductive BootEvent where
  /-- A reset. The bootloader starts, and the window ends with a command. -/
  | start (command : MaintenanceCommand)
  | receive (received : Received)
  | decide
  | confirm
  | sync (nodeId : UInt8)
  | requestUpdate
deriving DecidableEq

variable (stored : Option BootMetadata)

def appConfirmCurrentTrial (currentSlot : SlotId) : TrialBootConfirmResult × Option BootMetadata :=
  match stored with
  | none => (.invalidMetadata, none)
  | some metadata =>
    match confirmTrialBootInMetadata metadata currentSlot with
    | (.confirmed, metadata) => (.confirmed, some (bootMetadataSave metadata))
    | (result, _) => (result, stored)

def appSyncBootSettings (nodeId : UInt8) : Option BootMetadata :=
  let metadata := stored.getD bootMetadataMakeDefault
  if metadata.nodeId = nodeId then stored
  else some (bootMetadataSave { metadata with nodeId })

def appRequestEnterBootloader : Option BootMetadata :=
  let metadata := stored.getD bootMetadataMakeDefault
  some (bootMetadataSave { metadata with
    bootFlags := metadata.bootFlags ||| bootFlagEnterUpdate
    lastError := 0 })

/-- The slot that was decided on has no image to jump to. -/
def checkImageHeader (metadata : BootMetadata) (decision : BootDecision) :
    BootMetadata × BootDecision :=
  if decision.slot ≠ .none ∧ ¬ flash.bootImageHeaderLooksValid decision.slot then
    if metadata.trialArmed ≠ 0 ∧ decision.slot = metadata.trialSlot then
      let rolledBack := metadata.rollBackTrial
      if bootSlotIsBootable rolledBack metadata.activeSlot ∧
          flash.bootImageHeaderLooksValid metadata.activeSlot then
        (rolledBack, { mode := .normal, slot := metadata.activeSlot, error := .trialRollback,
                       metadataChanged := true })
      else
        (rolledBack, { mode := .maintenance, error := .noBootableSlot, metadataChanged := true })
    else
      ({ metadata with lastError := BootError.requestedSlotNotBootable.code },
        { mode := .maintenance, error := .requestedSlotNotBootable, metadataChanged := true })
  else (metadata, decision)

/-- `boot_jump_to_slot`, which looks at the vectors again. -/
def bootJumpToSlot (slot : SlotId) : BootPhase :=
  if bootSlotOffset slot ≠ 0 ∧ flash.vectorTableLooksValid (bootSlotOffset slot) then .running slot
  else .halted

namespace BootNode

variable (node : BootNode)

/-- What is stored, or what the bootloader rebuilds and saves. -/
def loadMetadata : BootMetadata :=
  match node.stored with
  | some metadata => metadata
  | none => bootMetadataSave ((bootRebuildFactoryMetadata node.flash).getD bootMetadataMakeDefault)

def start (command : MaintenanceCommand) : BootNode :=
  let metadata := node.loadMetadata
  let forceUpdate := metadata.bootFlags &&& bootFlagEnterUpdate ≠ 0
  let command := if forceUpdate then .enterUpdate else command
  { node with
    stored := some metadata
    phase := if command = .enterUpdate then .updating metadata 0 {}
      else .deciding metadata command }

/-- The last session of a requested update has ended. -/
def endRequestedUpdate (metadata : BootMetadata) : BootNode :=
  let saved := bootMetadataSave { metadata with
    bootFlags := metadata.bootFlags &&& ~~~ bootFlagEnterUpdate
    lastError := BootError.requestedUpdateTimeout.code }
  { node with stored := some saved, phase := .deciding saved .bootDefault }

def receive (received : Received) : BootNode :=
  match node.phase with
  | .updating metadata attempt engine =>
    let step := UpdateSession.handle ⟨engine, metadata, node.stored, node.flash⟩ metadata.nodeId
      received
    let after := step.session
    let node := { node with stored := after.stored, flash := after.flash }
    match step.finished with
    | none => { node with phase := .updating after.metadata attempt after.engine }
    | some true => { node with phase := .off }
    | some false =>
      if attempt + 1 < requestedUpdateMaxSessions then
        { node with phase := .updating after.metadata (attempt + 1) {} }
      else node.endRequestedUpdate after.metadata
  | .maintenance metadata engine =>
    let step := UpdateSession.handle ⟨engine, metadata, node.stored, node.flash⟩ metadata.nodeId
      received
    let after := step.session
    let node := { node with stored := after.stored, flash := after.flash }
    match step.finished with
    | none => { node with phase := .maintenance after.metadata after.engine }
    | some true => { node with phase := .off }
    | some false => { node with phase := .maintenance after.metadata {} }
  | _ => node

/-- The decision, the look at the image, the save and the jump. -/
def decide : BootNode :=
  match node.phase with
  | .deciding metadata command =>
    let (metadata, decision) := bootDecideNext metadata command
    let (metadata, decision) := checkImageHeader node.flash metadata decision
    let metadata := { metadata with bootCounter := metadata.bootCounter + 1 }
    let metadata := if decision.metadataChanged then bootMetadataSave metadata else metadata
    { node with
      stored := if decision.metadataChanged then some metadata else node.stored
      phase := match decision.mode with
        | .normal | .safe => bootJumpToSlot node.flash decision.slot
        | .maintenance => .maintenance metadata {}
        | .halt => .halted }
  | _ => node

def step : BootEvent → BootNode
  | .start command => node.start command
  | .receive received => node.receive received
  | .decide => node.decide
  | .confirm =>
    match node.phase with
    | .running slot => { node with stored := (appConfirmCurrentTrial node.stored slot).2 }
    | _ => node
  | .sync nodeId =>
    match node.phase with
    | .running _ => { node with stored := appSyncBootSettings node.stored nodeId }
    | _ => node
  | .requestUpdate =>
    match node.phase with
    | .running _ => { node with stored := appRequestEnterBootloader node.stored }
    | _ => node

def run (events : List BootEvent) : BootNode :=
  events.foldl step node

end BootNode
end SensorSystem.Node.Boot
