import SensorSystem.Host.Capture.CaptureManifest
import SensorSystem.Host.Capture.CaptureWalReplay

/-! What one record does to the window it goes to, and what a seal takes out of the ledger. An
open window accounts for every cursor it covers, so its manifest meets the contract of manifests. -/

namespace SensorSystem.Host

open Base UInt64

namespace CaptureItem

/-- The plan of a record, by its kind. -/
def planned (ledger : CaptureWindowLedger) :
    CaptureItem → Except CaptureWindowError CaptureAppendPlan
  | chunk hardwareId value => ledger.planChunk hardwareId value
  | gap value => ledger.planGap value
  | continuityBreak observed => ledger.planContinuityBreak observed

/-- The append of a record, by its kind. -/
def applied (ledger : CaptureWindowLedger) : CaptureItem → CaptureWindowLedger.Applied
  | chunk hardwareId value => ledger.applyChunk hardwareId value
  | gap value => ledger.applyGap value
  | continuityBreak observed => ledger.applyContinuityBreak observed

/-- Gaps and breaks occupy a cursor by construction, a chunk by its own check. -/
def Occupied : CaptureItem → Prop
  | chunk _ value => value.header.sampleCount ≠ 0
  | gap _ | continuityBreak _ => True

instance : (item : CaptureItem) → Decidable item.Occupied
  | chunk _ value => inferInstanceAs (Decidable (value.header.sampleCount ≠ 0))
  | gap _ | continuityBreak _ => inferInstanceAs (Decidable True)

theorem planned_eq (ledger : CaptureWindowLedger) (item : CaptureItem) :
    item.planned ledger = ledger.plan (item.applied ledger) := by
  cases item <;> rfl

end CaptureItem

/-- The window that the next record goes to. -/
def CaptureWindowLedger.target (ledger : CaptureWindowLedger) : OpenWindow :=
  ledger.openWindow.getD (.new ledger.nextCursor)

/-- The ledger with a record counted in its target window. -/
def CaptureWindowLedger.grown (ledger : CaptureWindowLedger) (window : OpenWindow) :
    CaptureWindowLedger :=
  { ledger with nextCursor := window.endExclusive, openWindow := some window }

/-- What a record changes of the window it goes to. -/
structure CaptureItem.Grows (item : CaptureItem) (ledger : CaptureWindowLedger)
    (window : OpenWindow) : Prop where
  first : window.firstCursor = ledger.target.firstCursor
  samples : window.sampleCount.toNat =
    ledger.target.sampleCount.toNat + item.record.counters.samples.toNat
  missing : window.missingSampleCount.toNat =
    ledger.target.missingSampleCount.toNat + item.record.counters.missingSamples.toNat
  breaks : window.continuityBreakCount.toNat =
    ledger.target.continuityBreakCount.toNat + item.record.counters.continuityBreaks.toNat
  stop : window.endExclusive.toNat = ledger.nextCursor.toNat +
    item.record.counters.samples.toNat + item.record.counters.missingSamples.toNat +
    item.record.counters.continuityBreaks.toNat
  occupied : item.Occupied → ledger.nextCursor.toNat < window.endExclusive.toNat
  cursors :
    (window.firstSampleCursor = ledger.target.firstSampleCursor ∧
      window.lastSampleCursor = ledger.target.lastSampleCursor ∧
      item.record.counters.samples = 0) ∨
    (window.firstSampleCursor =
        some (ledger.target.firstSampleCursor.getD ledger.nextCursor) ∧
      window.lastSampleCursor = some (window.endExclusive - 1) ∧
      (item.Occupied → item.record.counters.samples ≠ 0))

/-- What an append leaves: the grown window, open or sealed. -/
def CaptureWindowLedger.Leaves (ledger : CaptureWindowLedger)
    (manifest : Option CaptureWindowManifest) (after : CaptureWindowLedger) : Prop :=
  (manifest = none ∧ after = ledger) ∨
    ∃ reason value, manifest = some value ∧ ledger.sealWindow reason = .ok (value, after)

namespace CaptureWindowLedger

variable {ledger after : CaptureWindowLedger} {manifest : Option CaptureWindowManifest}

theorem validateNext_eq_ok {first : SequenceCursor} :
    ledger.validateNext first = .ok () ↔ first = ledger.nextCursor := by
  rw [validateNext, guard_eq_ok, guard_eq_ok]
  constructor
  · rintro ⟨above, below, -⟩
    exact UInt64.le_antisymm (UInt64.not_lt.mp below) (UInt64.not_lt.mp above)
  · rintro rfl
    exact ⟨UInt64.lt_irrefl _, UInt64.lt_irrefl _, rfl⟩

theorem leaves_of_sealed {reason : WindowSealReason}
    (done : ledger.sealed reason = .ok (manifest, after)) : ledger.Leaves manifest after := by
  obtain ⟨⟨value, last⟩, sealed, same⟩ := map_eq_ok.mp done
  cases same
  exact .inr ⟨reason, value, rfl, sealed⟩

theorem toUInt64_ne_zero {count : UInt16} (occupied : count ≠ 0) : count.toUInt64 ≠ 0 := by
  intro zero
  apply occupied
  have same := congrArg UInt64.toNat zero
  exact UInt16.toNat_inj.mp (by simpa using same)

/-! `start` sets the fields of the first chunk and leaves the counters. -/

variable (window : OpenWindow) (chunk : SampleChunk)

include window chunk

theorem start_firstSampleCursor : (OpenWindow.start window chunk).firstSampleCursor =
      some (window.firstSampleCursor.getD chunk.header.first) := by
  rw [OpenWindow.start]
  cases found : window.firstSampleCursor with
  | none => rfl
  | some first => exact found

@[simp] theorem start_firstCursor :
    (OpenWindow.start window chunk).firstCursor = window.firstCursor := by
  rw [OpenWindow.start]
  split <;> rfl

@[simp] theorem start_sampleCount :
    (OpenWindow.start window chunk).sampleCount = window.sampleCount := by
  rw [OpenWindow.start]
  split <;> rfl

@[simp] theorem start_missingSampleCount :
    (OpenWindow.start window chunk).missingSampleCount = window.missingSampleCount := by
  rw [OpenWindow.start]
  split <;> rfl

@[simp] theorem start_continuityBreakCount :
    (OpenWindow.start window chunk).continuityBreakCount = window.continuityBreakCount := by
  rw [OpenWindow.start]
  split <;> rfl

omit chunk window

theorem grows_applyChunk {hardwareId : HardwareId} {chunk : SampleChunk}
    (done : ledger.applyChunk hardwareId chunk = .ok (manifest, after)) :
    ∃ window, (CaptureItem.chunk hardwareId chunk).Grows ledger window ∧
      (ledger.grown window).Leaves manifest after := by
  obtain ⟨-, done⟩ := check_eq_ok.mp done
  split at done
  · cases done
  rename_i stop stops
  obtain ⟨next, done⟩ := check_eq_ok.mp done
  have first := validateNext_eq_ok.mp next
  have sum := checkedAdd_eq_some.mp stops
  simp only [first] at done
  split at done
  · cases done
  rename_i sampleCount counted
  have total := checkedAdd_eq_some.mp counted
  refine ⟨{ OpenWindow.start ledger.target chunk with
    endExclusive := stop, lastSampleCursor := some (stop - 1), sampleCount }, ?_, ?_⟩
  · rw [first] at sum
    rw [start_sampleCount] at total
    have cursor := start_firstSampleCursor ledger.target chunk
    rw [first] at cursor
    exact {
      first := start_firstCursor ..
      samples := total.symm
      missing := congrArg UInt64.toNat (start_missingSampleCount ..)
      breaks := congrArg UInt64.toNat (start_continuityBreakCount ..)
      stop := sum.symm
      occupied := by
        intro occupied
        have positive := UInt64.toNat_inj.not.mpr (toUInt64_ne_zero occupied)
        show ledger.nextCursor.toNat < stop.toNat
        have zero : (0 : UInt64).toNat = 0 := rfl
        omega
      cursors := .inr ⟨cursor, rfl, fun occupied => toUInt64_ne_zero occupied⟩ }
  · split at done
    · exact leaves_of_sealed done
    split at done
    · exact leaves_of_sealed done
    · cases done
      exact .inl ⟨rfl, rfl⟩

theorem grows_applyGap {gap : Gap} (done : ledger.applyGap gap = .ok (manifest, after)) :
    ∃ window, (CaptureItem.gap gap).Grows ledger window ∧
      (ledger.grown window).Leaves manifest after := by
  obtain ⟨-, done⟩ := check_eq_ok.mp done
  obtain ⟨next, done⟩ := check_eq_ok.mp done
  have first := validateNext_eq_ok.mp next
  split at done
  · cases done
  rename_i stop stops
  have sum := checkedAdd_eq_some.mp stops
  simp only [first] at done
  split at done
  · cases done
  rename_i missingSampleCount counted
  have total := checkedAdd_eq_some.mp counted
  cases done
  refine ⟨{ ledger.target with endExclusive := stop, missingSampleCount }, ?_, .inl ⟨rfl, rfl⟩⟩
  rw [first] at sum
  have positive := UInt64.toNat_inj.not.mpr gap.nonempty
  have zero : (0 : UInt64).toNat = 0 := rfl
  exact {
    first := rfl
    samples := rfl
    missing := total.symm
    breaks := rfl
    stop := sum.symm
    occupied := by
      intro _
      show ledger.nextCursor.toNat < stop.toNat
      omega
    cursors := .inl ⟨rfl, rfl, rfl⟩ }

theorem grows_applyContinuityBreak {observed : ContinuityBreak}
    (done : ledger.applyContinuityBreak observed = .ok (manifest, after)) :
    ∃ window, (CaptureItem.continuityBreak observed).Grows ledger window ∧
      (ledger.grown window).Leaves manifest after := by
  obtain ⟨-, done⟩ := check_eq_ok.mp done
  obtain ⟨next, done⟩ := check_eq_ok.mp done
  have first := validateNext_eq_ok.mp next
  simp only [first] at done
  split at done
  · cases done
  rename_i continuityBreakCount counted
  have total := checkedAdd_eq_some.mp counted
  cases done
  refine ⟨{ ledger.target with endExclusive := ledger.nextCursor + 1, continuityBreakCount }, ?_,
    .inl ⟨rfl, rfl⟩⟩
  have stop : (ledger.nextCursor + 1).toNat = ledger.nextCursor.toNat + 1 := by
    have bounded := observed.bounded
    rw [first] at bounded
    rw [UInt64.toNat_add]
    exact Nat.mod_eq_of_lt bounded
  exact {
    first := rfl
    samples := rfl
    missing := rfl
    breaks := total.symm
    stop
    occupied := fun _ => stop ▸ Nat.lt_succ_self _
    cursors := .inl ⟨rfl, rfl, rfl⟩ }

theorem grows_applied {item : CaptureItem} (done : item.applied ledger = .ok (manifest, after)) :
    ∃ window, item.Grows ledger window ∧ (ledger.grown window).Leaves manifest after := by
  cases item with
  | chunk hardwareId chunk => exact grows_applyChunk done
  | gap gap => exact grows_applyGap done
  | continuityBreak observed => exact grows_applyContinuityBreak done

end CaptureWindowLedger

/-- An open window accounts for every cursor it covers. -/
structure OpenWindow.Regular (window : OpenWindow) : Prop where
  covered : window.firstCursor.toNat + window.sampleCount.toNat +
    window.missingSampleCount.toNat + window.continuityBreakCount.toNat =
      window.endExclusive.toNat
  cursors :
    (window.sampleCount = 0 ∧ window.firstSampleCursor = none ∧
      window.lastSampleCursor = none) ∨
    ∃ first last, window.sampleCount ≠ 0 ∧ window.firstSampleCursor = some first ∧
      window.lastSampleCursor = some last ∧ window.firstCursor ≤ first ∧ first ≤ last ∧
      last < window.endExclusive

theorem OpenWindow.Regular.new (cursor : SequenceCursor) : (OpenWindow.new cursor).Regular :=
  ⟨rfl, .inl ⟨rfl, rfl, rfl⟩⟩

namespace CaptureWindowLedger

variable {ledger after : CaptureWindowLedger}

/-- The open window is not empty and ends at the next cursor. -/
structure OpensAt (ledger : CaptureWindowLedger) (window : OpenWindow) : Prop where
  regular : window.Regular
  nonempty : window.firstCursor.toNat < window.endExclusive.toNat
  stop : window.endExclusive = ledger.nextCursor

def Regular (ledger : CaptureWindowLedger) : Prop :=
  ∀ window ∈ ledger.openWindow, ledger.OpensAt window

theorem Regular.target (regular : ledger.Regular) :
    ledger.target.Regular ∧ ledger.target.endExclusive = ledger.nextCursor := by
  rw [CaptureWindowLedger.target]
  cases found : ledger.openWindow with
  | none => exact ⟨.new _, rfl⟩
  | some window => exact ⟨(regular window found).regular, (regular window found).stop⟩

theorem Regular.grown (regular : ledger.Regular) {item : CaptureItem} {window : OpenWindow}
    (grows : item.Grows ledger window) (occupied : item.Occupied) :
    (ledger.grown window).Regular := by
  rintro _ ⟨⟩
  obtain ⟨before, meet⟩ := regular.target
  have covered := before.covered
  have first := congrArg UInt64.toNat grows.first
  have samples := grows.samples
  have missing := grows.missing
  have breaks := grows.breaks
  have stop := grows.stop
  have further := grows.occupied occupied
  rw [meet] at covered
  refine ⟨⟨by omega, ?_⟩, by omega, rfl⟩
  rcases grows.cursors with ⟨firstSample, lastSample, none⟩ | ⟨firstSample, lastSample, some⟩
  · -- A gap or a break leaves the sample cursors and moves the end up.
    have count : window.sampleCount = ledger.target.sampleCount := by
      apply UInt64.toNat_inj.mp
      rw [samples, none]
      rfl
    rw [firstSample, lastSample, count, grows.first]
    rcases before.cursors with empty | ⟨low, high, counted, isLow, isHigh, above, ordered, below⟩
    · exact .inl empty
    refine .inr ⟨low, high, counted, isLow, isHigh, above, ordered, ?_⟩
    rw [meet] at below
    rw [lt_iff_toNat_lt] at below ⊢
    omega
  · have counted := UInt64.toNat_inj.not.mpr (some occupied)
    have zero : (0 : UInt64).toNat = 0 := rfl
    have last : (window.endExclusive - 1).toNat = window.endExclusive.toNat - 1 := by
      apply UInt64.toNat_sub_of_le
      rw [UInt64.le_iff_toNat_le]
      exact Nat.lt_of_le_of_lt (Nat.zero_le _) further
    refine .inr ⟨_, _, ?_, firstSample, lastSample, ?_⟩
    · intro empty
      rw [empty] at samples
      omega
    rw [grows.first]
    simp only [UInt64.le_iff_toNat_le, lt_iff_toNat_lt, last]
    rcases before.cursors with ⟨-, isNone, -⟩ | ⟨low, high, -, isLow, -, above, ordered, below⟩
    · rw [isNone, Option.getD_none]
      omega
    rw [meet] at below
    rw [isLow, Option.getD_some]
    simp only [UInt64.le_iff_toNat_le, lt_iff_toNat_lt] at above ordered below
    omega

/-- What a seal does. -/
structure Seals (ledger : CaptureWindowLedger) (manifest : CaptureWindowManifest)
    (after : CaptureWindowLedger) : Prop where
  opened : ∃ window ∈ ledger.openWindow,
    manifest.firstCursor = window.firstCursor ∧ manifest.endExclusive = window.endExclusive ∧
    manifest.firstSampleCursor = window.firstSampleCursor ∧
    manifest.lastSampleCursor = window.lastSampleCursor ∧
    manifest.sampleCount = window.sampleCount ∧
    manifest.missingSampleCount = window.missingSampleCount ∧
    manifest.continuityBreakCount = window.continuityBreakCount
  hardwareId : manifest.hardwareId = ledger.hardwareId
  bootEpoch : manifest.bootEpoch = ledger.bootEpoch
  windowOrdinal : manifest.windowOrdinal = ledger.nextWindowOrdinal
  ordinal : after.nextWindowOrdinal.toNat = ledger.nextWindowOrdinal.toNat + 1
  closed : after.openWindow = none
  cursor : after.nextCursor = ledger.nextCursor
  stream : SameStream ledger after

theorem seals_of_sealWindow {reason : WindowSealReason} {manifest : CaptureWindowManifest}
    (done : ledger.sealWindow reason = .ok (manifest, after)) : ledger.Seals manifest after := by
  rw [sealWindow] at done
  split at done
  · cases done
  rename_i window found
  split at done
  · cases done
  rename_i ordinal next
  cases done
  exact {
    opened := ⟨window, found, rfl, rfl, rfl, rfl, rfl, rfl, rfl⟩
    hardwareId := rfl
    bootEpoch := rfl
    windowOrdinal := rfl
    ordinal := (checkedAdd_eq_some.mp next).symm
    closed := rfl
    cursor := rfl
    stream := ⟨rfl, rfl⟩ }

theorem Seals.contract {manifest : CaptureWindowManifest} (seals : ledger.Seals manifest after)
    (regular : ledger.Regular) (epoch : ledger.bootEpoch ≠ 0) : manifest.Contract := by
  obtain ⟨window, opened, first, stop, low, high, samples, missing, breaks⟩ := seals.opened
  obtain ⟨regular, nonempty, -⟩ := regular window opened
  refine ⟨seals.bootEpoch ▸ epoch, ?_, ?_, ?_⟩
  · rw [first, stop]
    exact nonempty
  · rw [first, stop, samples, missing, breaks]
    exact regular.covered
  · rw [first, stop, low, high, samples]
    exact regular.cursors

end CaptureWindowLedger
end SensorSystem.Host
