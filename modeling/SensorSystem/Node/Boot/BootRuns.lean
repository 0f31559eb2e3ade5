import SensorSystem.Node.Boot.DefaultBoot

/-! Resets, sessions, decisions and calls of the application in any order. A step keeps the active
slot and its image, and changes which slot is active only when the application of a trial confirms
it. -/

namespace SensorSystem.Node.Boot

open List

namespace BootNode

variable (flash : Flash)

/-- What holds of the phase beside the record that is stored. -/
def PhaseSound (kept : BootMetadata) : BootPhase → Prop
  | .updating metadata _ engine => Follows flash kept metadata ∧ engine.Aims kept.activeSlot
  | .maintenance metadata engine => Follows flash kept metadata ∧ engine.Aims kept.activeSlot
  | .deciding metadata _ => Follows flash kept metadata ∧ bootMetadataIsValid metadata = true
  | .running slot => flash.bootImageHeaderLooksValid slot = true
  | .off => True
  | .halted => True

structure Sound (node : BootNode) (kept : BootMetadata) : Prop where
  disk : Kept node.flash node.stored kept
  phase : PhaseSound node.flash kept node.phase

/-- How a packet ends the session it belongs to. -/
def sessionEnds (node : BootNode) (received : Received) : Option Bool :=
  match node.phase with
  | .updating metadata _ engine | .maintenance metadata engine =>
    (UpdateSession.handle ⟨engine, metadata, node.stored, node.flash⟩ metadata.nodeId
      received).finished
  | _ => none

/-- The step completes an update. -/
def completesUpdate (node : BootNode) : BootEvent → Bool
  | .receive received => node.sessionEnds received = some true
  | _ => false

/-- A decision that was not asked for, and its metadata. -/
def decidesByDefault (node : BootNode) : BootEvent → Option BootMetadata
  | .decide =>
    match node.phase with
    | .deciding metadata command => if IsDefault command then some metadata else none
    | _ => none
  | _ => none

/-- A default boot of a slot that is not the active one. -/
def bootsTrial (node : BootNode) (event : BootEvent) : Bool :=
  match node.decidesByDefault event, (node.step event).phase with
  | some metadata, .running slot => slot ≠ metadata.activeSlot
  | _, _ => false

/-- The application in the slot on trial confirms it. -/
def ConfirmsTrial (node : BootNode) (kept : BootMetadata) (slot : SlotId) (event : BootEvent) :
    Prop :=
  event = .confirm ∧ node.phase = .running slot ∧ kept.TrialPending ∧ kept.trialSlot = slot ∧
    kept.trialAttempted ≠ 0

/-- What a step leaves alone. -/
structure Spares (node : BootNode) (event : BootEvent) (kept after : BootMetadata) : Prop where
  sound : (node.step event).Sound after
  slot : after.activeSlot = kept.activeSlot ∨ node.ConfirmsTrial kept after.activeSlot event
  image : after.image kept.activeSlot = kept.image kept.activeSlot
  keeps : FlashKeeps kept.activeSlot node.flash (node.step event).flash
  untried : after.Untried → kept.Untried ∨ node.completesUpdate event = true
  tried : node.bootsTrial event = true → kept.Untried ∧ ¬ after.Untried

variable {node : BootNode} {kept : BootMetadata}

theorem Sound.follows (sound : node.Sound kept) : Follows node.flash kept kept :=
  ⟨sound.disk.coherent, .refl kept, id⟩

variable {event : BootEvent} {metadata : BootMetadata} {slot : SlotId} {after : BootMetadata}

theorem spares_of_sameActive (sound : (node.step event).Sound after)
    (active : SameActive kept after)
    (keeps : FlashKeeps kept.activeSlot node.flash (node.step event).flash)
    (untried : after.Untried → kept.Untried ∨ node.completesUpdate event = true)
    (quiet : node.decidesByDefault event = none) : node.Spares event kept after where
  sound := sound
  slot := .inl active.slot
  image := active.image
  keeps := keeps
  untried := untried
  tried boots := by
    rw [bootsTrial, quiet] at boots
    cases boots

variable (sound : node.Sound kept)

include sound

theorem Sound.loadMetadata_eq : node.loadMetadata = kept := by
  rw [loadMetadata, sound.disk.stored]

theorem Sound.start (command : MaintenanceCommand) : (node.start command).Sound kept := by
  have loaded := sound.loadMetadata_eq
  refine ⟨⟨?_, sound.disk.valid, sound.disk.coherent⟩, ?_⟩
  · rw [BootNode.start, loaded]
  simp only [BootNode.start, loaded]
  generalize (if kept.bootFlags &&& bootFlagEnterUpdate ≠ 0 then
    MaintenanceCommand.enterUpdate else command) = asked
  by_cases update : asked = .enterUpdate
  · rw [if_pos update]
    exact ⟨sound.follows, BootUpdateEngine.aims_new _⟩
  rw [if_neg update]
  exact ⟨sound.follows, sound.disk.valid⟩

/-- The session of a phase. -/
theorem Sound.session {engine : BootUpdateEngine} (follows : Follows node.flash kept metadata)
    (aims : engine.Aims kept.activeSlot) :
    (⟨engine, metadata, node.stored, node.flash⟩ : UpdateSession).Sound kept :=
  ⟨sound.disk, follows, aims⟩

omit sound

/-- The record behind a requested update that nobody finished. -/
def timedOut (metadata : BootMetadata) : BootMetadata :=
  { metadata with
    bootFlags := metadata.bootFlags &&& ~~~ bootFlagEnterUpdate
    lastError := BootError.requestedUpdateTimeout.code }

theorem alike_timedOut (metadata : BootMetadata) : Alike metadata (timedOut metadata) :=
  ⟨rfl, rfl, rfl, rfl, rfl, fun _ => rfl⟩

theorem sound_endRequestedUpdate (coherent : Coherent node.flash metadata) :
    (node.endRequestedUpdate metadata).Sound (bootMetadataSave (timedOut metadata)) := by
  have saved := (coherent.of_alike (alike_timedOut metadata)).save
  exact ⟨⟨rfl, bootMetadataIsValid_save _, saved⟩, ⟨saved, .refl _, id⟩, bootMetadataIsValid_save _⟩

/-- A step that changes nothing. -/
theorem Sound.idle (sound : node.Sound kept) (same : node.step event = node)
    (quiet : node.decidesByDefault event = none) : node.Spares event kept kept := by
  refine spares_of_sameActive (by rwa [same]) (.refl kept) ?_ Or.inl quiet
  rw [same]
  exact .refl _ _

theorem completesUpdate_receive {received : Received} {finished : Option Bool}
    (ends : node.sessionEnds received = finished) (completed : finished = some true) :
    node.completesUpdate (.receive received) = true :=
  decide_eq_true (ends.trans completed)

theorem Sound.receive (sound : node.Sound kept) (received : Received) :
    ∃ after, node.Spares (.receive received) kept after := by
  have phase := sound.phase
  cases current : node.phase with
  | updating metadata attempt engine =>
    rw [current] at phase
    obtain ⟨after, spares⟩ := (sound.session phase.1 phase.2).handle_spares metadata.nodeId received
    have ends : node.sessionEnds received = (UpdateSession.handle
        ⟨engine, metadata, node.stored, node.flash⟩ metadata.nodeId received).finished := by
      simp only [sessionEnds, current]
    generalize handled : UpdateSession.handle ⟨engine, metadata, node.stored, node.flash⟩
      metadata.nodeId received = answered at spares ends
    have disk := spares.sound.disk
    have memory := spares.sound.memory
    have untried : after.Untried → kept.Untried ∨ node.completesUpdate (.receive received) = true :=
      fun untried => (spares.untried untried).imp_right (completesUpdate_receive ends)
    cases finished : answered.finished with
    | none =>
      refine ⟨after, spares_of_sameActive ?_ spares.active ?_ untried rfl⟩
      all_goals simp only [step, BootNode.receive, current, handled, finished]
      · exact ⟨disk, memory, spares.sound.aims⟩
      · exact spares.keeps
    | some completed =>
      cases completed with
      | true =>
        refine ⟨after, spares_of_sameActive ?_ spares.active ?_ untried rfl⟩
        all_goals simp only [step, BootNode.receive, current, handled, finished]
        · exact ⟨disk, trivial⟩
        · exact spares.keeps
      | false =>
        by_cases more : attempt + 1 < requestedUpdateMaxSessions
        · refine ⟨after, spares_of_sameActive ?_ spares.active ?_ untried rfl⟩
          all_goals simp only [step, BootNode.receive, current, handled, finished, if_pos more]
          · exact ⟨disk, memory, BootUpdateEngine.aims_new _⟩
          · exact spares.keeps
        have alike := (alike_timedOut answered.session.metadata).trans (.save _)
        refine ⟨bootMetadataSave (timedOut answered.session.metadata),
          spares_of_sameActive ?_ ?_ ?_ ?_ rfl⟩
        · simp only [step, BootNode.receive, current, handled, finished, if_neg more]
          exact sound_endRequestedUpdate memory.coherent
        · exact (spares.active.trans memory.active).of_alike alike
        · simp only [step, BootNode.receive, current, handled, finished, if_neg more]
          exact spares.keeps
        · intro again
          exact untried (memory.untried (alike.untried.mpr again))
  | maintenance metadata engine =>
    rw [current] at phase
    obtain ⟨after, spares⟩ := (sound.session phase.1 phase.2).handle_spares metadata.nodeId received
    have ends : node.sessionEnds received = (UpdateSession.handle
        ⟨engine, metadata, node.stored, node.flash⟩ metadata.nodeId received).finished := by
      simp only [sessionEnds, current]
    generalize handled : UpdateSession.handle ⟨engine, metadata, node.stored, node.flash⟩
      metadata.nodeId received = answered at spares ends
    have disk := spares.sound.disk
    have memory := spares.sound.memory
    refine ⟨after, spares_of_sameActive ?_ spares.active ?_
      (fun untried => (spares.untried untried).imp_right (completesUpdate_receive ends)) rfl⟩
    all_goals simp only [step, BootNode.receive, current, handled]
    · cases answered.finished with
      | none => exact ⟨disk, memory, spares.sound.aims⟩
      | some completed =>
        cases completed with
        | true => exact ⟨disk, trivial⟩
        | false => exact ⟨disk, memory, BootUpdateEngine.aims_new _⟩
    · cases answered.finished with
      | none => exact spares.keeps
      | some completed =>
        cases completed with
        | true => exact spares.keeps
        | false => exact spares.keeps
  | off => exact ⟨kept, sound.idle (by simp only [step, BootNode.receive, current]) rfl⟩
  | deciding metadata command =>
    exact ⟨kept, sound.idle (by simp only [step, BootNode.receive, current]) rfl⟩
  | running slot => exact ⟨kept, sound.idle (by simp only [step, BootNode.receive, current]) rfl⟩
  | halted => exact ⟨kept, sound.idle (by simp only [step, BootNode.receive, current]) rfl⟩

/-- The record is saved with nothing changed that decides. -/
theorem Sound.saves (sound : node.Sound kept) (running : node.phase = .running slot)
    (alike : Alike kept metadata)
    (saves : node.step event = { node with stored := some (bootMetadataSave metadata) })
    (quiet : node.decidesByDefault event = none) :
    node.Spares event kept (bootMetadataSave metadata) := by
  have stored := alike.trans (.save metadata)
  refine spares_of_sameActive ?_ ((SameActive.refl kept).of_alike stored) ?_ ?_ quiet
  · have phase := sound.phase
    rw [running] at phase
    rw [saves]
    refine ⟨⟨rfl, bootMetadataIsValid_save _, sound.disk.coherent.of_alike stored⟩, ?_⟩
    rw [running]
    exact phase
  · rw [saves]
    exact .refl _ _
  · exact fun untried => .inl (stored.untried.mpr untried)

/-- A call of the application. -/
def IsCall : BootEvent → Prop
  | .confirm | .sync _ | .requestUpdate => True
  | _ => False

/-- The application works only while it runs. -/
theorem step_stopped (call : IsCall event) (stopped : ∀ slot, node.phase ≠ .running slot) :
    node.step event = node := by
  cases event with
  | start command => exact call.elim
  | receive received => exact call.elim
  | decide => exact call.elim
  | confirm => simp only [step]
  | sync nodeId => simp only [step]
  | requestUpdate => simp only [step]

theorem decidesByDefault_call (call : IsCall event) : node.decidesByDefault event = none := by
  cases event with
  | decide => exact call.elim
  | start command => rfl
  | receive received => rfl
  | confirm => rfl
  | sync nodeId => rfl
  | requestUpdate => rfl

include sound

theorem Sound.call (call : IsCall event)
    (works : ∀ slot, node.phase = .running slot → ∃ after, node.Spares event kept after) :
    ∃ after, node.Spares event kept after := by
  by_cases running : ∃ slot, node.phase = .running slot
  · obtain ⟨slot, running⟩ := running
    exact works slot running
  exact ⟨kept, sound.idle (step_stopped call (not_exists.mp running))
    (decidesByDefault_call call)⟩

theorem Sound.sync (nodeId : UInt8) : ∃ after, node.Spares (.sync nodeId) kept after := by
  have stored := sound.disk.stored
  refine sound.call trivial fun slot current => ?_
  by_cases same : kept.nodeId = nodeId
  · refine ⟨kept, sound.idle ?_ rfl⟩
    simp only [step, current, appSyncBootSettings, stored, Option.getD_some, if_pos same]
    rw [← current, ← stored]
  refine ⟨bootMetadataSave { kept with nodeId }, sound.saves current
    ⟨rfl, rfl, rfl, rfl, rfl, fun _ => rfl⟩ ?_ rfl⟩
  simp only [step, current, appSyncBootSettings, stored, Option.getD_some, if_neg same]

theorem Sound.requestUpdate : ∃ after, node.Spares .requestUpdate kept after := by
  have stored := sound.disk.stored
  refine sound.call trivial fun slot current => ?_
  refine ⟨bootMetadataSave { kept with
      bootFlags := kept.bootFlags ||| bootFlagEnterUpdate, lastError := 0 },
    sound.saves current ⟨rfl, rfl, rfl, rfl, rfl, fun _ => rfl⟩ ?_ rfl⟩
  simp only [step, current, appRequestEnterBootloader, stored, Option.getD_some]

omit sound

/-- The record behind a confirmed trial. -/
def confirmed (metadata : BootMetadata) (slot : SlotId) : BootMetadata :=
  { (setSlotMetadata { metadata with activeSlot := slot, bootSlot := slot } slot fun record =>
      if record.confirmedBoots ≠ 0xFFFFFFFF then
        { record with confirmedBoots := record.confirmedBoots + 1 }
      else record).clearTrial with
    lastError := 0 }

theorem confirmed_image (metadata : BootMetadata) (slot other : SlotId) :
    (confirmed metadata slot).image other = metadata.image other := by
  have counted := @image_setSlotMetadata_of_same slot (fun record =>
      if record.confirmedBoots ≠ 0xFFFFFFFF then
        { record with confirmedBoots := record.confirmedBoots + 1 }
      else record)
    { metadata with activeSlot := slot, bootSlot := slot } other
  refine counted fun record => ?_
  split
  · exact ⟨rfl, rfl, rfl⟩
  · exact ⟨rfl, rfl, rfl⟩

theorem classifyTrialBoot_pending (state : classifyTrialBoot metadata slot = .pendingCurrentSlot) :
    metadata.TrialPending ∧ metadata.trialSlot = slot ∧ metadata.trialAttempted ≠ 0 := by
  unfold classifyTrialBoot at state
  split at state
  · cases state
  split at state
  · cases state
  split at state
  · split at state <;> cases state
  rename_i armed
  split at state
  · rename_i current
    exact ⟨not_or.mp armed, current.1, current.2.2⟩
  · cases state

/-- A confirmation is of the trial that runs. -/
theorem confirmTrialBoot_cases (metadata : BootMetadata) (slot : SlotId) :
    (confirmTrialBootInMetadata metadata slot).1 ≠ .confirmed ∨
    (confirmTrialBootInMetadata metadata slot = (.confirmed, confirmed metadata slot) ∧
      metadata.TrialPending ∧ metadata.trialSlot = slot ∧ metadata.trialAttempted ≠ 0 ∧
      bootSlotIsBootable metadata slot = true) := by
  unfold confirmTrialBootInMetadata
  cases state : classifyTrialBoot metadata slot with
  | stable => exact .inl nofun
  | unavailable => exact .inl nofun
  | notRunningFromSlot => exact .inl nofun
  | pendingOtherSlot => exact .inl nofun
  | pendingCurrentSlot =>
    by_cases bootable : bootSlotIsBootable metadata slot
    · simp only [if_neg (not_not.mpr bootable)]
      obtain ⟨pending, trial, attempted⟩ := classifyTrialBoot_pending state
      exact .inr ⟨rfl, pending, trial, attempted, bootable⟩
    simp only [if_pos bootable]
    exact .inl nofun

theorem appConfirmCurrentTrial_refused
    (refused : (confirmTrialBootInMetadata metadata slot).1 ≠ .confirmed) :
    (appConfirmCurrentTrial (some metadata) slot).2 = some metadata := by
  simp only [appConfirmCurrentTrial]

theorem Sound.confirm (sound : node.Sound kept) : ∃ after, node.Spares .confirm kept after := by
  have stored := sound.disk.stored
  refine sound.call trivial fun slot current => ?_
  have header := sound.phase
  rw [current] at header
  rcases confirmTrialBoot_cases kept slot with refused | ⟨confirms, pending, trial, attempted,
    bootable⟩
  · refine ⟨kept, sound.idle ?_ rfl⟩
    have same : (appConfirmCurrentTrial node.stored slot).2 = node.stored := by
      rw [stored]
      exact appConfirmCurrentTrial_refused refused
    simp only [step, current, same]
    rw [← current]
  have steps : node.step .confirm =
      { node with stored := some (bootMetadataSave (confirmed kept slot)) } := by
    simp only [step, current, appConfirmCurrentTrial, stored, confirms]
  have alike := Alike.save (confirmed kept slot)
  have active : (confirmed kept slot).activeSlot = slot := setSlotMetadata_activeSlot _ _ _
  have coherent : Coherent node.flash (confirmed kept slot) := by
    refine ⟨?_, ?_, fun pending => absurd rfl pending.1, .inl ?_⟩
    · rw [active, bootable_congr (confirmed_image kept slot slot)]
      exact bootable
    · rw [active]
      exact header
    · rw [active]
      exact setSlotMetadata_bootSlot _ _ _
  refine ⟨bootMetadataSave (confirmed kept slot), ?_, .inr ?_, ?_, ?_, ?_, nofun⟩
  · rw [steps]
    refine ⟨⟨rfl, bootMetadataIsValid_save _, coherent.save⟩, ?_⟩
    rw [current]
    exact header
  · rw [← alike.activeSlot, active]
    exact ⟨rfl, current, pending, trial, attempted⟩
  · rw [← alike.image, confirmed_image]
  · rw [steps]
    exact .refl _ _
  · exact fun untried => absurd rfl untried.1.1

/-- A jump ends in an image or not at all. -/
theorem phaseSound_bootJumpToSlot (kept : BootMetadata) (slot : SlotId) :
    PhaseSound flash kept (bootJumpToSlot flash slot) := by
  unfold bootJumpToSlot
  split
  · rename_i image
    have named : slot ≠ .none := by
      rintro rfl
      exact image.1 rfl
    rw [PhaseSound, Flash.bootImageHeaderLooksValid, if_neg named]
    exact image.2
  · trivial

/-- The phase that a decision leads to. -/
def decidedPhase (metadata : BootMetadata) (decision : BootDecision) : BootPhase :=
  match decision.mode with
  | .normal | .safe => bootJumpToSlot flash decision.slot
  | .maintenance => .maintenance metadata {}
  | .halt => .halted

theorem phaseSound_decidedPhase {flash : Flash} (follows : Follows flash kept metadata)
    (decision : BootDecision) : PhaseSound flash kept (decidedPhase flash metadata decision) := by
  unfold decidedPhase
  cases decision.mode with
  | normal => exact phaseSound_bootJumpToSlot _ _ _
  | safe => exact phaseSound_bootJumpToSlot _ _ _
  | maintenance => exact ⟨follows, BootUpdateEngine.aims_new _⟩
  | halt => trivial

/-- A decision leaves the flash as it is. -/
theorem decide_flash (node : BootNode) : node.decide.flash = node.flash := by
  unfold BootNode.decide
  split <;> rfl

/-- What a decision leaves, whether its record is saved or not. -/
theorem Sound.decided (sound : node.Sound kept) {command : MaintenanceCommand}
    (phase : node.phase = .deciding metadata command) :
    ∃ after, node.decide.Sound after ∧ SameActive kept after ∧ (after.Untried → kept.Untried) ∧
      (IsDefault command → metadata.Untried → ¬ after.Untried) := by
  have deciding := sound.phase
  rw [phase] at deciding
  obtain ⟨follows, valid⟩ := deciding
  have chosen := bootDecideNext_decides follows.coherent command
  rcases decides : bootDecideNext metadata command with ⟨choice, decision⟩
  rw [decides] at chosen
  have looked := checkImageHeader_decides chosen.coherent decision
  rcases checks : checkImageHeader node.flash choice decision with ⟨last, made⟩
  rw [checks] at looked
  have counted : Alike last { last with bootCounter := last.bootCounter + 1 } :=
    ⟨rfl, rfl, rfl, rfl, rfl, fun _ => rfl⟩
  have whole := (chosen.trans looked).of_alike counted
  have active := follows.active.trans whole.active
  have untried := fun tried => follows.untried (whole.untried tried)
  by_cases changed : made.metadataChanged
  · have saved := (Alike.save { last with bootCounter := last.bootCounter + 1 })
    refine ⟨_, ⟨⟨?_, bootMetadataIsValid_save _, ?_⟩, ?_⟩,
      active.of_alike saved, fun tried => untried (saved.untried.mpr tried), ?_⟩
    · simp only [BootNode.decide, phase, decides, checks, if_pos changed]
    · rw [decide_flash]
      exact whole.coherent.of_alike saved
    · rw [decide_flash]
      simp only [BootNode.decide, phase, decides, checks, if_pos changed]
      exact phaseSound_decidedPhase ⟨whole.coherent.of_alike saved, .refl _, id⟩ made
    intro default _ tried
    rw [bootDecideNext_default valid default] at decides
    have cases := decideDefault_cases follows.coherent
    rw [decides] at cases
    exact cases.not_untried (looked.untried ((counted.trans saved).untried.mpr tried))
  · refine ⟨kept, ⟨⟨?_, sound.disk.valid, ?_⟩, ?_⟩, .refl kept, id, ?_⟩
    · simp only [BootNode.decide, phase, decides, checks, if_neg changed]
      exact sound.disk.stored
    · rw [decide_flash]
      exact sound.disk.coherent
    · rw [decide_flash]
      simp only [BootNode.decide, phase, decides, checks, if_neg changed]
      exact phaseSound_decidedPhase ⟨whole.coherent, active, untried⟩ made
    intro default pending
    rw [bootDecideNext_default valid default] at decides
    have cases := decideDefault_cases follows.coherent
    rw [decides] at cases
    have changes := checkImageHeader_changed node.flash choice (cases.changed pending.1)
    rw [checks] at changes
    exact absurd changes changed

theorem defaultTarget_eq {flash : Flash} (coherent : Coherent flash metadata) :
    defaultTarget flash metadata =
      if metadata.TrialPending ∧ ¬ bootSlotIsBootable metadata metadata.trialSlot then none
      else if metadata.Untried ∧ flash.bootImageHeaderLooksValid metadata.trialSlot then
        some metadata.trialSlot
      else some metadata.activeSlot := by
  unfold defaultTarget
  by_cases pending : metadata.TrialPending
  · rw [if_pos pending]
    by_cases bootable : bootSlotIsBootable metadata metadata.trialSlot
    · have alive : ¬ (metadata.TrialPending ∧
          ¬ bootSlotIsBootable metadata metadata.trialSlot) := fun both => both.2 bootable
      rw [if_pos bootable, if_neg alive]
      simp only [BootMetadata.Untried, pending, true_and]
    · rw [if_neg bootable, if_pos ⟨pending, bootable⟩]
  have alive : ¬ (metadata.TrialPending ∧
      ¬ bootSlotIsBootable metadata metadata.trialSlot) := fun both => pending both.1
  have tried : ¬ (metadata.Untried ∧ flash.bootImageHeaderLooksValid metadata.trialSlot) :=
    fun both => pending both.1.1
  rw [if_neg pending, if_neg alive, if_neg tried]
  by_cases bootable : bootSlotIsBootable metadata metadata.bootSlot
  · have active : metadata.bootSlot = metadata.activeSlot := by
      rcases coherent.boot with active | ⟨tried, -⟩ | dead
      · exact active
      · exact absurd tried pending
      · exact absurd bootable (Bool.eq_false_iff.mp dead)
    rw [if_pos bootable, active, if_pos coherent.header]
  · rw [if_neg bootable]

theorem decidesByDefault_cases (decides : node.decidesByDefault event = some metadata) :
    event = .decide ∧ ∃ command, IsDefault command ∧ node.phase = .deciding metadata command := by
  cases event with
  | decide =>
    simp only [decidesByDefault] at decides
    split at decides
    · rename_i command phase
      split at decides
      · rename_i default
        cases decides
        exact ⟨rfl, command, default, phase⟩
      · cases decides
    · cases decides
  | start command => cases decides
  | receive received => cases decides
  | confirm => cases decides
  | sync nodeId => cases decides
  | requestUpdate => cases decides

/-- A default boot along a run. -/
theorem Sound.reaches (sound : node.Sound kept)
    (decides : node.decidesByDefault event = some metadata) :
    Follows node.flash kept metadata ∧ (node.step event).Reaches (
      if metadata.TrialPending ∧ ¬ bootSlotIsBootable metadata metadata.trialSlot then none
      else if metadata.Untried ∧ node.flash.bootImageHeaderLooksValid metadata.trialSlot then
        some metadata.trialSlot
      else some metadata.activeSlot) := by
  obtain ⟨rfl, command, default, phase⟩ := decidesByDefault_cases decides
  have deciding := sound.phase
  rw [phase] at deciding
  obtain ⟨follows, valid⟩ := deciding
  refine ⟨follows, ?_⟩
  rw [← defaultTarget_eq follows.coherent]
  exact decide_default phase default valid follows.coherent.bootable follows.coherent.header

theorem decidesByDefault_of_bootsTrial (boots : node.bootsTrial event = true) :
    ∃ metadata, node.decidesByDefault event = some metadata := by
  cases decides : node.decidesByDefault event with
  | none =>
    rw [bootsTrial, decides] at boots
    cases boots
  | some metadata => exact ⟨metadata, rfl⟩

include sound

/-- The slot beside the active one is on its first trial. -/
theorem Sound.untried_of_bootsTrial (boots : node.bootsTrial event = true) :
    ∃ metadata, node.decidesByDefault event = some metadata ∧ metadata.Untried ∧ kept.Untried := by
  obtain ⟨metadata, decides⟩ := decidesByDefault_of_bootsTrial boots
  obtain ⟨follows, reaches⟩ := sound.reaches decides
  suffices untried : metadata.Untried from ⟨metadata, decides, untried, follows.untried untried⟩
  by_contra tried
  rw [if_neg fun (both : metadata.Untried ∧ _) => tried both.1] at reaches
  simp only [bootsTrial, decides] at boots
  split at reaches
  · obtain ⟨left, stays⟩ := reaches
    rw [stays] at boots
    cases boots
  · rw [show (node.step event).phase = .running metadata.activeSlot from reaches] at boots
    exact of_decide_eq_true boots rfl

theorem Sound.decide : ∃ after, node.Spares .decide kept after := by
  by_cases deciding : ∃ metadata command, node.phase = .deciding metadata command
  · obtain ⟨metadata, command, phase⟩ := deciding
    obtain ⟨after, decided, active, untried, tries⟩ := sound.decided phase
    refine ⟨after, decided, .inl active.slot, active.image, ?_, fun tried =>
      .inl (untried tried), ?_⟩
    · rw [show (node.step .decide).flash = node.flash from decide_flash node]
      exact .refl _ _
    intro boots
    obtain ⟨decided, decides, first, pending⟩ := sound.untried_of_bootsTrial boots
    obtain ⟨-, asked, default, same⟩ := decidesByDefault_cases decides
    rw [phase] at same
    cases same
    exact ⟨pending, tries default first⟩
  · refine ⟨kept, sound.idle ?_ ?_⟩
    · simp only [step, BootNode.decide]
      split
      · exact absurd ⟨_, _, ‹_›⟩ deciding
      · rfl
    simp only [decidesByDefault]
    split
    · exact absurd ⟨_, _, ‹_›⟩ deciding
    · rfl

theorem Sound.step (event : BootEvent) : ∃ after, node.Spares event kept after := by
  cases event with
  | start command =>
    exact ⟨kept, spares_of_sameActive (sound.start command) (.refl kept) (.refl _ _) Or.inl rfl⟩
  | receive received => exact sound.receive received
  | decide => exact sound.decide
  | confirm => exact sound.confirm
  | sync nodeId => exact sound.sync nodeId
  | requestUpdate => exact sound.requestUpdate

omit sound

theorem run_cons (node : BootNode) (event : BootEvent) (events : List BootEvent) :
    node.run (event :: events) = (node.step event).run events := rfl

theorem run_append (node : BootNode) (early late : List BootEvent) :
    node.run (early ++ late) = (node.run early).run late :=
  foldl_append

/-- Every state of a run keeps a sound record. -/
theorem Sound.run (sound : node.Sound kept) (events : List BootEvent) :
    ∃ after, (node.run events).Sound after := by
  induction events generalizing node kept with
  | nil => exact ⟨kept, sound⟩
  | cons event events ih =>
    obtain ⟨after, spares⟩ := sound.step event
    exact ih spares.sound

/-- How many steps of a run do something. -/
def count (does : BootNode → BootEvent → Bool) (node : BootNode) : List BootEvent → Nat
  | [] => 0
  | event :: events => (does node event).toNat + count does (node.step event) events

/-- The trials that a record has left. -/
def untriedTrials (metadata : BootMetadata) : Nat :=
  if metadata.Untried then 1 else 0

/-- A trial boot uses up the completed update it comes from. -/
theorem Spares.trials_le (spares : node.Spares event kept after) :
    (node.bootsTrial event).toNat + untriedTrials after ≤
      (node.completesUpdate event).toNat + untriedTrials kept := by
  unfold untriedTrials
  by_cases boots : node.bootsTrial event = true
  · obtain ⟨before, behind⟩ := spares.tried boots
    simp [boots, before, behind]
  by_cases untried : after.Untried
  · rcases spares.untried untried with before | completes
    · simp [boots, untried, before]
    · simp [boots, untried, completes]
  · simp [boots, untried]

theorem Sound.trials_le (sound : node.Sound kept) (events : List BootEvent) :
    count bootsTrial node events ≤ count completesUpdate node events + untriedTrials kept := by
  induction events generalizing node kept with
  | nil => exact Nat.zero_le _
  | cons event events ih =>
    obtain ⟨after, spares⟩ := sound.step event
    have rest := ih spares.sound
    have paid := spares.trials_le
    simp only [count]
    omega

/-- Without a completed update nothing is put on trial. -/
theorem Sound.run_tried (sound : node.Sound kept) (tried : ¬ kept.Untried)
    (events : List BootEvent) (none : count completesUpdate node events = 0) :
    ∃ after, (node.run events).Sound after ∧ ¬ after.Untried := by
  induction events generalizing node kept with
  | nil => exact ⟨kept, sound, tried⟩
  | cons event events ih =>
    obtain ⟨idle, rest⟩ := Nat.add_eq_zero_iff.mp none
    obtain ⟨after, spares⟩ := sound.step event
    refine ih spares.sound (fun untried => ?_) rest
    rcases spares.untried untried with before | completes
    · exact tried before
    · rw [completes] at idle
      cases idle

/-- The active slot changes with the confirmation of the trial only, and nothing touches its image.
-/
def KeepsActive (node : BootNode) (event : BootEvent) : Prop :=
  ∃ before after, node.stored = some before ∧ (node.step event).stored = some after ∧
    (after.activeSlot ≠ before.activeSlot →
      node.ConfirmsTrial before after.activeSlot event) ∧
    after.image before.activeSlot = before.image before.activeSlot ∧
    FlashKeeps before.activeSlot node.flash (node.step event).flash

/-- At most one default boot of an unconfirmed image for each completed update. -/
def TriesOnce (node : BootNode) (events : List BootEvent) : Prop :=
  ∃ before, node.stored = some before ∧
    count bootsTrial node events ≤ count completesUpdate node events + untriedTrials before

/-- A trial boot, then no completed update, and then a default decision. -/
structure BootsAgain (node : BootNode) (events : List BootEvent) (last : BootNode)
    (event : BootEvent) (metadata : BootMetadata) : Prop where
  split : ∃ early first middle late, events = early ++ first :: (middle ++ event :: late) ∧
    (node.run early).bootsTrial first = true ∧
    count completesUpdate (node.run (early ++ [first])) middle = 0 ∧
    last = node.run (early ++ first :: middle)
  decides : last.decidesByDefault event = some metadata

/-- The active slot is booted. -/
def BootsActive (node : BootNode) (event : BootEvent) : Prop :=
  ∃ kept, node.stored = some kept ∧ (node.step event).phase = .running kept.activeSlot

/-- Trial boots are safe along a run. -/
structure TrialSafe (node : BootNode) (events : List BootEvent) : Prop where
  active : ∀ early event late, events = early ++ event :: late →
    (node.run early).KeepsActive event
  once : ∀ early middle late, events = early ++ (middle ++ late) →
    (node.run early).TriesOnce middle
  again : ∀ last event metadata, node.BootsAgain events last event metadata →
    last.BootsActive event

theorem Sound.keepsActive (sound : node.Sound kept) (event : BootEvent) :
    node.KeepsActive event := by
  obtain ⟨after, spares⟩ := sound.step event
  refine ⟨kept, after, sound.disk.stored, spares.sound.disk.stored, ?_, spares.image, spares.keeps⟩
  exact fun changed => spares.slot.resolve_left changed

/-- After a trial boot comes the active slot. -/
theorem Sound.bootsActive_iff (sound : node.Sound kept) {events : List BootEvent}
    {last : BootNode} (again : node.BootsAgain events last event metadata) :
    last.BootsActive event ↔
      (metadata.TrialPending → bootSlotIsBootable metadata metadata.trialSlot = true) := by
  obtain ⟨⟨early, first, middle, late, rfl, boots, none, rfl⟩, decides⟩ := again
  obtain ⟨before, earlier⟩ := sound.run early
  obtain ⟨after, spares⟩ := earlier.step first
  have tried := (spares.tried boots).2
  rw [run_append] at none
  obtain ⟨now, there, settled⟩ := spares.sound.run_tried tried middle none
  rw [run_append, run_cons] at decides ⊢
  obtain ⟨follows, reaches⟩ := there.reaches decides
  rw [if_neg fun (both : metadata.Untried ∧ _) => settled (follows.untried both.1)] at reaches
  have stored := there.disk.stored
  constructor
  · rintro ⟨kept, found, running⟩ pending
    by_contra dead
    rw [if_pos ⟨pending, dead⟩] at reaches
    obtain ⟨left, stays⟩ := reaches
    rw [running] at stays
    cases stays
  intro alive
  have living : ¬ (metadata.TrialPending ∧ ¬ bootSlotIsBootable metadata metadata.trialSlot) :=
    fun both => both.2 (alive both.1)
  rw [if_neg living] at reaches
  refine ⟨now, stored, ?_⟩
  rw [← follows.active.slot]
  exact reaches

/-- Trial boots are safe along every run from a sound node, but for one thing: a session
that was begun and left while the trial waited has killed the slot on trial. -/
theorem trialSafe_iff (node : BootNode) (kept : BootMetadata) (sound : node.Sound kept)
    (events : List BootEvent) :
    node.TrialSafe events ↔ ∀ last event metadata, node.BootsAgain events last event metadata →
      metadata.TrialPending → bootSlotIsBootable metadata metadata.trialSlot = true := by
  constructor
  · intro safe last event metadata again
    exact (sound.bootsActive_iff again).mp (safe.again last event metadata again)
  intro alive
  refine ⟨?_, ?_, ?_⟩
  · intro early event late _
    obtain ⟨before, there⟩ := sound.run early
    exact there.keepsActive event
  · intro early middle late _
    obtain ⟨before, there⟩ := sound.run early
    exact ⟨before, there.disk.stored, there.trials_le middle⟩
  · intro last event metadata again
    exact (sound.bootsActive_iff again).mpr (alive last event metadata again)

/-- Slot A is active, and slot B waits for its trial. -/
def updatedMetadata : BootMetadata :=
  bootMetadataFinalize { triedMetadata with trialAttempted := 0 }

def updatedNode : BootNode where
  stored := some updatedMetadata
  flash := imagesFlash

theorem updatedNode_sound : updatedNode.Sound updatedMetadata := by
  refine ⟨⟨rfl, bootMetadataIsValid_finalize _, ?_⟩, trivial⟩
  exact ⟨by decide, by decide, fun _ => rfl, .inr (.inl (by decide))⟩

/-- A trial that hangs, and the boot behind it. -/
def hungTrial : List BootEvent := [.start .none, .decide, .start .none, .decide]

theorem hungTrial_alive (last : BootNode) (event : BootEvent) (metadata : BootMetadata)
    (again : updatedNode.BootsAgain hungTrial last event metadata) :
    bootSlotIsBootable metadata metadata.trialSlot = true := by
  obtain ⟨⟨early, first, middle, late, split, boots, -, rfl⟩, decides⟩ := again
  obtain ⟨rfl, -⟩ := decidesByDefault_cases decides
  obtain ⟨tried, trial⟩ := decidesByDefault_of_bootsTrial boots
  obtain ⟨rfl, -⟩ := decidesByDefault_cases trial
  -- The two decisions of the run are its second and its fourth step.
  have found : early = [.start .none] ∧ middle = [.start .none] := by
    rcases early with _ | ⟨one, _ | ⟨two, _ | ⟨three, early⟩⟩⟩
    · simp [hungTrial] at split
    · rcases middle with _ | ⟨three, _ | ⟨four, middle⟩⟩
      · simp [hungTrial] at split
      · simp only [hungTrial, cons_append, nil_append, cons.injEq] at split
        exact ⟨by rw [split.1], by rw [split.2.2.1]⟩
      · simp [hungTrial] at split
    · simp [hungTrial] at split
    · have length := congrArg List.length split
      simp only [hungTrial, length_cons, length_append, length_nil] at length
      omega
  obtain ⟨rfl, rfl⟩ := found
  have alive : ((updatedNode.run [.start .none, .decide, .start .none]).decidesByDefault
      .decide).all (fun found => bootSlotIsBootable found found.trialSlot) = true := by
    decide +kernel
  rw [cons_append, nil_append] at decides
  rw [decides] at alive
  exact alive

theorem trialSafe_iff_hungTrial : updatedNode.TrialSafe hungTrial :=
  (trialSafe_iff updatedNode updatedMetadata updatedNode_sound hungTrial).mpr
    fun last event metadata again _ => hungTrial_alive last event metadata again

/-- The trial asks for an update, whose sessions end after the image was begun. -/
def leftSession : List BootEvent :=
  [.start .none, .decide, .requestUpdate, .start .none,
    .receive (.packet .begin 1 [0, 4, 0, 0, 1, 0, 0, 0, 2, 0, 0, 0])] ++
  replicate 6 (.receive .timeout)

theorem leftSession_not_trialSafe :
    updatedNode.Sound updatedMetadata ∧ ¬ updatedNode.TrialSafe (leftSession ++ [.decide]) := by
  refine ⟨updatedNode_sound, fun safe => ?_⟩
  have decides : ((updatedNode.run leftSession).decidesByDefault .decide).isSome = true := by
    decide +kernel
  obtain ⟨metadata, decided⟩ := Option.isSome_iff_exists.mp decides
  have again : updatedNode.BootsAgain (leftSession ++ [.decide]) (updatedNode.run leftSession)
      .decide metadata := by
    refine ⟨⟨[.start .none], .decide, leftSession.drop 2, [], rfl, ?_, ?_, rfl⟩, decided⟩
    · decide +kernel
    · decide +kernel
  obtain ⟨kept, -, running⟩ := safe.again _ _ _ again
  have stays : ∀ slot, ((updatedNode.run leftSession).step .decide).phase ≠ .running slot := by
    intro slot
    cases slot <;> decide +kernel
  exact stays _ running

end BootNode
end SensorSystem.Node.Boot
