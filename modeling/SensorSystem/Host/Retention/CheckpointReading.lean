import SensorSystem.Host.Retention.ArchiveRoundTrip

/-! The three checkpoint files of the retention of captures and archives: what is read back, what
a repeated call does, and what a refused one leaves behind. -/

namespace SensorSystem.Host

open RetentionCall
open Base

section Promises

universe u v w

variable {ε : Type u} {σ : Type v} {κ : Type w} (format : CheckpointFormat ε σ)

/-- A call that was accepted answers the same again and changes nothing. -/
def RepeatsAreNoOps (perform : κ → σ → Except ε (σ × Bool)) : Prop :=
  ∀ (store : Checkpoint σ) (call : κ) (calls : List κ),
    (store.update format (perform call)).2 = .ok () →
      let after := (store.update format (perform call)).1.run format perform calls
      after.update format (perform call) = (after, .ok ())

/-- A call that is refused changes neither the file nor the state. -/
def RefusalsChangeNothing (perform : κ → σ → Except ε (σ × Bool)) : Prop :=
  ∀ (store : Checkpoint σ) (call : κ) (error : ε),
    (store.update format (perform call)).2 = .error error →
      (store.update format (perform call)).1 = store

theorem repeatsAreNoOps {format : CheckpointFormat ε σ} {perform : κ → σ → Except ε (σ × Bool)}
    (settles : ∀ call state next, perform call state = .ok (next, true) →
      Checkpoint.Settled (perform call) next)
    (lasts : ∀ call other state next, perform other state = .ok (next, true) →
      Checkpoint.Settled (perform call) state → Checkpoint.Settled (perform call) next) :
    RepeatsAreNoOps format perform :=
  fun _ call _ accepted => Checkpoint.update_again (settles call) (lasts call) accepted

theorem refusalsChangeNothing (perform : κ → σ → Except ε (σ × Bool)) :
    RefusalsChangeNothing format perform :=
  fun _ _ _ refused => Checkpoint.update_error refused

/-- What holds of the calls on a store besides the reading back. -/
structure Dependable (format : CheckpointFormat ε σ) (perform : κ → σ → Except ε (σ × Bool)) :
    Prop where
  canonical : Checkpoint.Canonical format
  repeats : RepeatsAreNoOps format perform
  refusals : RefusalsChangeNothing format perform

end Promises

theorem RetentionState.dependable : Dependable RetentionState.format perform where
  canonical _ _ accepted := congrArg Except.ok (RetentionState.encode_of_readCheckpoint accepted).2
  repeats := repeatsAreNoOps
    (fun _ _ _ changes => settled_iff.mpr (recorded_of_perform changes))
    (fun _ _ _ _ changes settled => settled_iff.mpr
      ((settled_iff.mp settled).extends (extends_of_perform changes)))
  refusals := refusalsChangeNothing _ _

theorem CaptureCoverageState.dependable :
    Dependable CaptureCoverageState.format CaptureCoverageState.markDeleted where
  canonical _ _ accepted := (CaptureCoverageState.encode_of_readCheckpoint accepted).2
  repeats := repeatsAreNoOps (fun _ _ _ => CaptureCoverageState.markDeleted_settles)
    (fun _ _ _ _ => CaptureCoverageState.settled_lasts)
  refusals := refusalsChangeNothing _ _

theorem ArchiveRetentionState.dependable :
    Dependable ArchiveRetentionState.format ArchiveRetentionState.markDeleted where
  canonical _ _ accepted := (ArchiveRetentionState.encode_of_readCheckpoint accepted).2
  repeats := repeatsAreNoOps (fun _ _ _ => ArchiveRetentionState.markDeleted_settles)
    (fun _ _ _ _ => ArchiveRetentionState.settled_lasts)
  refusals := refusalsChangeNothing _ _

/-- A started store of each kind, and the calls that are made on it. -/
structure RetentionRun where
  retention : {store : RetentionCheckpointStore // store.Started}
  calls : List RetentionCall
  coverage : {store : CaptureCoverageCheckpointStore // store.Started}
  coverageTimes : List TrustedUnixSeconds
  archive : {store : ArchiveRetentionCheckpointStore // store.Started}
  archiveTimes : List TrustedUnixSeconds

namespace RetentionRun

variable (run : RetentionRun)

/-- No archive deletion has a time before the capture deletion. -/
def DeletesInOrder : Prop :=
  ∀ before call after, run.calls = before ++ call :: after →
    call.regresses (run.retention.val.run before).state = false

/-- Every file decodes to the state in memory. -/
structure Survives : Prop where
  retention : (run.retention.val.run run.calls).ReadsBack
  coverage : (run.coverage.val.run run.coverageTimes).ReadsBack
  archive : (run.archive.val.run run.archiveTimes).ReadsBack
  retentionCalls : Dependable RetentionState.format perform
  coverageCalls : Dependable CaptureCoverageState.format CaptureCoverageState.markDeleted
  archiveCalls : Dependable ArchiveRetentionState.format ArchiveRetentionState.markDeleted

theorem retention_readsBack_iff :
    (run.retention.val.run run.calls).ReadsBack ↔ run.DeletesInOrder := by
  obtain ⟨stored, readable⟩ := run.retention.property.sound
  have later : (run.retention.val.run run.calls).Stored := Checkpoint.Stored.run stored run.calls
  exact (RetentionCheckpointStore.readsBack_iff later).trans
    (RetentionCheckpointStore.run_readable_iff readable)

/-- The evidence survives a restart exactly when the deletions are recorded in their order. -/
theorem evidenceSurvives_iff : run.Survives ↔ run.DeletesInOrder := by
  constructor
  · intro survives
    exact run.retention_readsBack_iff.mp survives.retention
  intro ordered
  exact ⟨run.retention_readsBack_iff.mpr ordered,
    CaptureCoverageCheckpointStore.run_readsBack run.coverage.property run.coverageTimes,
    ArchiveRetentionCheckpointStore.run_readsBack run.archive.property run.archiveTimes,
    RetentionState.dependable, CaptureCoverageState.dependable,
    ArchiveRetentionState.dependable⟩

end RetentionRun

def sealedManifest : CaptureWindowManifest where
  hardwareId := Vector.replicate 8 1
  bootEpoch := 1
  windowOrdinal := 0
  firstCursor := 0
  endExclusive := 5
  firstSampleCursor := some 0
  lastSampleCursor := some 4
  sampleCount := 5
  missingSampleCount := 0
  continuityBreakCount := 0
  sealReason := .explicitFinish

def product : ArchiveIdentity := ⟨Vector.replicate 16 1, Vector.replicate 32 1⟩

/-- The capture is deleted before the archive. -/
def deletions : List RetentionCall :=
  [.bindArchive product, .markArchiveVerified product 110,
    .markReplicationAcknowledged product 120 RetentionPolicy.default,
    .markCaptureDeleted 2700000, .markArchiveDeleted 3000000]

def coverageProof : CaptureCoverageProof where
  segment := ⟨Vector.replicate 8 1, 1, 0, 0, 5⟩
  archiveProducts := [product]
  fullyReplicatedAt := 120

def coverageIndex : ArchiveCoverageIndex where
  archive := product
  hardwareId := Vector.replicate 8 1
  partition := .utcHour 0
  revision := ⟨0, none⟩
  inputs := [⟨coverageProof.segment, 0, 5⟩]

/-- Stores of all three kinds are created, and the run deletes in order. -/
theorem evidenceSurvives_iff_deletions : ∃ run : RetentionRun,
    RetentionCheckpointStore.create false sealedManifest 100 = .ok run.retention.val ∧
      CaptureCoverageCheckpointStore.create none coverageProof .default = .ok run.coverage.val ∧
      ArchiveRetentionCheckpointStore.create none coverageIndex 110 120 .default =
        .ok run.archive.val ∧
      run.calls = deletions ∧ run.coverageTimes = [3000000] ∧ run.archiveTimes = [3000000] ∧
      run.Survives := by
  have possible : (ArchiveRetentionCheckpointStore.create none coverageIndex 110 120
      .default).isOk := by
    decide +kernel
  cases archived : ArchiveRetentionCheckpointStore.create none coverageIndex 110 120 .default with
  | error error =>
    rw [archived] at possible
    exact nomatch possible
  | ok archive =>
    refine ⟨⟨⟨_, .created false sealedManifest 100 rfl⟩, deletions,
      ⟨_, .created none coverageProof .default rfl⟩, [3000000],
      ⟨archive, .created _ _ _ _ _ archived⟩, [3000000]⟩, rfl, rfl, rfl, rfl, rfl, rfl,
      (RetentionRun.evidenceSurvives_iff _).mpr fun before call after split => ?_⟩
    obtain _ | ⟨_, _ | ⟨_, _ | ⟨_, _ | ⟨_, _ | ⟨_, rest⟩⟩⟩⟩⟩ := before
    case cons.cons.cons.cons.cons =>
      exact absurd (congrArg List.length split) (by simp [deletions])
    all_goals
      cases split
      dsimp only
      decide +kernel

/-- The capture is deleted in time, the archive with an earlier time. -/
def earlyDeletion : List RetentionCall :=
  [.bindArchive product, .markArchiveVerified product 110,
    .markReplicationAcknowledged product 120 RetentionPolicy.default,
    .markCaptureDeleted 3000000, .markArchiveDeleted 2700000]

/-- Every call is accepted, and the file that is left cannot be opened. -/
theorem earlyDeletion_notReadBack : ∃ store : RetentionCheckpointStore,
    RetentionCheckpointStore.create false sealedManifest 100 = .ok store ∧
      (store.run earlyDeletion).state.archiveDeletedAt = some 2700000 ∧
      RetentionState.readCheckpoint (store.run earlyDeletion).file = .error .eventTimeRegression :=
  ⟨_, rfl, by decide +kernel, by decide +kernel⟩

end SensorSystem.Host
