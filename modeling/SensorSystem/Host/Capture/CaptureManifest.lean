import SensorSystem.Host.Capture.CaptureWal

/-! How two manifests of one stream join, and what `capture_segments.rs` checks of a manifest on
its own. -/

namespace SensorSystem.Host

open Base UInt64

inductive CaptureWindowRelation where
  | contiguous
  | newBootEpoch

inductive CaptureWindowJoinError where
  | differentHardware
  | nonConsecutiveOrdinal (previous next : UInt64)
  | overlap (previousEnd nextFirst : SequenceCursor)
  | unrecordedRange (expected actual : SequenceCursor)

/-- What a file system call that reads can report when the disk works. -/
inductive IoErrorKind where
  | notFound
  | unexpectedEof
deriving DecidableEq

inductive CaptureSegmentError where
  | io (kind : IoErrorKind)
  | wal (error : CaptureWalError)
  | window (error : CaptureWindowError)
  | invalidSegmentName
  | duplicateSegmentOrdinal
  | originOrdinalMismatch (file header : UInt64)
  | nonConsecutiveSegment (expected actual : UInt64)
  | unsealedSegmentBeforeSuccessor (ordinal : UInt64)
  | manifestForUnsealedSegment (ordinal : UInt64)
  | multipleWindowsInSegment (ordinal count : UInt64)
  | missingRecoveredManifest
  | missingCurrentSegment
  | manifestOrdinalMismatch (expected actual : UInt64)
  | manifestFirstCursorMismatch
  | dataAfterSealedWindow (ordinal : UInt64)
  | ordinalOverflow
  | manifestConflict (ordinal : UInt64)
  | invalidManifestMagic
  | unsupportedManifestVersion (version : UInt16)
  | invalidManifestLength
  | manifestChecksumMismatch
  | nonZeroManifestReservedField
  | unknownManifestFlags (flags : UInt8)
  | invalidManifestOptionalCursor
  | invalidManifestContract
  | unknownSealReason (value : UInt8)
  | walManifestIdentityMismatch
  | recordAfterSeal
  | missingSeal
  | manifestDoesNotMatchWal
  | counterOverflow
deriving DecidableEq

/-- `u64::saturating_add(1)`. -/
def saturatingSucc (value : UInt64) : UInt64 :=
  (checkedAdd value 1).getD (ofNat (2 ^ 64 - 1))

namespace CaptureWindowManifest

def relationTo (manifest next : CaptureWindowManifest) :
    Except CaptureWindowJoinError CaptureWindowRelation :=
  if manifest.hardwareId ≠ next.hardwareId then .error .differentHardware
  else if manifest.bootEpoch ≠ next.bootEpoch then .ok .newBootEpoch
  else if next.windowOrdinal ≠ saturatingSucc manifest.windowOrdinal then
    .error (.nonConsecutiveOrdinal manifest.windowOrdinal next.windowOrdinal)
  else if next.firstCursor < manifest.endExclusive then
    .error (.overlap manifest.endExclusive next.firstCursor)
  else if next.firstCursor > manifest.endExclusive then
    .error (.unrecordedRange manifest.endExclusive next.firstCursor)
  else .ok .contiguous

/-- Records of the window: samples, missing samples and breaks. -/
def covered (manifest : CaptureWindowManifest) : Option UInt64 :=
  (checkedAdd manifest.sampleCount manifest.missingSampleCount).bind
    (checkedAdd · manifest.continuityBreakCount)

/-- The match over the sample count and the two sample cursors. -/
def validateSampleCursors (manifest : CaptureWindowManifest) : Except CaptureSegmentError Unit :=
  match manifest.sampleCount == 0, manifest.firstSampleCursor, manifest.lastSampleCursor with
  | true, none, none => .ok ()
  | true, _, _ | _, none, _ | _, _, none => .error .invalidManifestContract
  | false, some first, some last =>
    if first < manifest.firstCursor ∨ last < first ∨ last ≥ manifest.endExclusive then
      .error .invalidManifestContract
    else .ok ()

/-- `validate_manifest_contract`. -/
def validateContract (manifest : CaptureWindowManifest) : Except CaptureSegmentError Unit :=
  if manifest.bootEpoch = 0 ∨ manifest.endExclusive ≤ manifest.firstCursor then
    .error .invalidManifestContract
  else match manifest.covered with
    | none => .error .invalidManifestContract
    | some covered =>
      if checkedAdd manifest.firstCursor covered ≠ some manifest.endExclusive then
        .error .invalidManifestContract
      else manifest.validateSampleCursors

end CaptureWindowManifest

/-- A sealed window that accounts for every cursor it covers. -/
structure CaptureWindowManifest.Contract (manifest : CaptureWindowManifest) : Prop where
  epoch : manifest.bootEpoch ≠ 0
  nonempty : manifest.firstCursor.toNat < manifest.endExclusive.toNat
  covered : manifest.firstCursor.toNat + manifest.sampleCount.toNat +
    manifest.missingSampleCount.toNat + manifest.continuityBreakCount.toNat =
      manifest.endExclusive.toNat
  cursors :
    (manifest.sampleCount = 0 ∧ manifest.firstSampleCursor = none ∧
      manifest.lastSampleCursor = none) ∨
    ∃ first last, manifest.sampleCount ≠ 0 ∧ manifest.firstSampleCursor = some first ∧
      manifest.lastSampleCursor = some last ∧ manifest.firstCursor ≤ first ∧ first ≤ last ∧
      last < manifest.endExclusive

variable {manifest next : CaptureWindowManifest}

theorem covered_eq_some {covered : UInt64} :
    manifest.covered = some covered ↔ manifest.sampleCount.toNat +
      manifest.missingSampleCount.toNat + manifest.continuityBreakCount.toNat =
        covered.toNat := by
  rw [CaptureWindowManifest.covered, Option.bind_eq_some_iff]
  constructor
  · rintro ⟨middle, first, second⟩
    rw [checkedAdd_eq_some.mp first, checkedAdd_eq_some.mp second]
  intro sum
  have bounded : covered.toNat < size := covered.toNat_lt
  refine ⟨ofNat (manifest.sampleCount.toNat + manifest.missingSampleCount.toNat), ?_, ?_⟩
  · rw [checkedAdd_eq_some, toNat_ofNat_of_lt' (by omega)]
  · rw [checkedAdd_eq_some, toNat_ofNat_of_lt' (by omega), sum]

theorem validateSampleCursors_eq_ok : manifest.validateSampleCursors = .ok () ↔
    (manifest.sampleCount = 0 ∧ manifest.firstSampleCursor = none ∧
      manifest.lastSampleCursor = none) ∨
    ∃ first last, manifest.sampleCount ≠ 0 ∧ manifest.firstSampleCursor = some first ∧
      manifest.lastSampleCursor = some last ∧ manifest.firstCursor ≤ first ∧ first ≤ last ∧
      last < manifest.endExclusive := by
  rw [CaptureWindowManifest.validateSampleCursors]
  by_cases empty : manifest.sampleCount = 0
  · cases manifest.firstSampleCursor <;> cases manifest.lastSampleCursor <;> simp [empty]
  have some : (manifest.sampleCount == 0) = false := beq_false_of_ne empty
  cases manifest.firstSampleCursor <;> cases manifest.lastSampleCursor <;>
    simp [empty, some]

/-- What `validate_manifest_contract` accepts. -/
theorem validateContract_eq_ok : manifest.validateContract = .ok () ↔ manifest.Contract := by
  rw [CaptureWindowManifest.validateContract, guard_eq_ok, not_or, UInt64.not_le]
  constructor
  · rintro ⟨⟨epoch, nonempty⟩, rest⟩
    split at rest
    · cases rest
    rename_i covered counted
    obtain ⟨advance, cursors⟩ := guard_eq_ok.mp rest
    have sum := covered_eq_some.mp counted
    have stop := checkedAdd_eq_some.mp (not_not.mp advance)
    exact ⟨epoch, lt_iff_toNat_lt.mp nonempty, by omega,
      validateSampleCursors_eq_ok.mp cursors⟩
  · intro contract
    refine ⟨⟨contract.epoch, lt_iff_toNat_lt.mpr contract.nonempty⟩, ?_⟩
    have bounded : manifest.endExclusive.toNat < size := manifest.endExclusive.toNat_lt
    have sum := contract.covered
    have counted : manifest.covered = some (ofNat (manifest.sampleCount.toNat +
        manifest.missingSampleCount.toNat + manifest.continuityBreakCount.toNat)) := by
      rw [covered_eq_some, toNat_ofNat_of_lt' (by omega)]
    simp only [counted]
    refine guard_eq_ok.mpr ⟨not_not.mpr ?_, validateSampleCursors_eq_ok.mpr contract.cursors⟩
    rw [checkedAdd_eq_some, toNat_ofNat_of_lt' (by omega), ← sum]
    omega

theorem saturatingSucc_toNat {value : UInt64} (room : value.toNat + 1 < 2 ^ 64) :
    (saturatingSucc value).toNat = value.toNat + 1 := by
  rw [saturatingSucc, checkedAdd, if_pos (by simpa using room), Option.getD_some,
    UInt64.toNat_add, Nat.mod_eq_of_lt (by simpa using room)]
  rfl

/-- Consecutive windows of one stream that meet at a cursor. -/
theorem relationTo_contiguous (hardware : manifest.hardwareId = next.hardwareId)
    (epoch : manifest.bootEpoch = next.bootEpoch)
    (ordinal : next.windowOrdinal.toNat = manifest.windowOrdinal.toNat + 1)
    (meet : next.firstCursor = manifest.endExclusive) :
    manifest.relationTo next = .ok .contiguous := by
  have room : manifest.windowOrdinal.toNat + 1 < 2 ^ 64 := ordinal ▸ next.windowOrdinal.toNat_lt
  have succ : next.windowOrdinal = saturatingSucc manifest.windowOrdinal :=
    UInt64.toNat_inj.mp (ordinal.trans (saturatingSucc_toNat room).symm)
  simp [CaptureWindowManifest.relationTo, hardware, epoch, succ, meet]

end SensorSystem.Host
