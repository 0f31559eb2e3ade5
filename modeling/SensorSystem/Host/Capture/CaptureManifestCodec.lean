import SensorSystem.Host.Capture.CaptureManifest
import SensorSystem.Host.Capture.CaptureWalCodec
import SensorSystem.Base.Fields

/-! `capture_segments.rs`: the manifest of a sealed window as a file of fixed length with a
checksum. A manifest that meets its contract is read back as it was. -/

namespace SensorSystem.Host

open List Base
open Framing (crc32c)

def manifestMagic : List UInt8 := [0x53, 0x53, 0x43, 0x41, 0x50, 0x4d, 0x41, 0x4e]
def manifestVersion : UInt16 := 1
def manifestBytes : Nat := 104
def manifestCrcOffset : Nat := manifestBytes - 4
def firstSamplePresent : UInt8 := 1
def lastSamplePresent : UInt8 := 2

def encodeSealReason : WindowSealReason → UInt8
  | .targetDurationReached => 0
  | .timingSegmentChanged => 1
  | .explicitFinish => 2

def decodeSealReason (value : UInt8) : Except CaptureSegmentError WindowSealReason :=
  match value.toNat with
  | 0 => .ok .targetDurationReached
  | 1 => .ok .timingSegmentChanged
  | 2 => .ok .explicitFinish
  | _ => .error (.unknownSealReason value)

/-- Which of the sample cursors are present. -/
def CaptureWindowManifest.flags (manifest : CaptureWindowManifest) : UInt8 :=
  (if manifest.firstSampleCursor.isSome then firstSamplePresent else 0) |||
    (if manifest.lastSampleCursor.isSome then lastSamplePresent else 0)

/-- The file up to its checksum; a cursor that is absent is left at zero. -/
def manifestContent (manifest : CaptureWindowManifest) : List UInt8 :=
  manifestMagic ++ (u16Bytes manifestVersion ++ (u16Bytes (UInt16.ofNat manifestBytes) ++
    (manifest.hardwareId.toList ++ (u64Bytes manifest.bootEpoch ++
      (u64Bytes manifest.windowOrdinal ++ (u64Bytes manifest.firstCursor ++
        (u64Bytes manifest.endExclusive ++ (u64Bytes (manifest.firstSampleCursor.getD 0) ++
          (u64Bytes (manifest.lastSampleCursor.getD 0) ++ (u64Bytes manifest.sampleCount ++
            (u64Bytes manifest.missingSampleCount ++ (u64Bytes manifest.continuityBreakCount ++
              (manifest.flags :: encodeSealReason manifest.sealReason ::
                List.replicate 6 0)))))))))))))

def encodeManifest (manifest : CaptureWindowManifest) : List UInt8 :=
  manifestContent manifest ++ u32Bytes (crc32c (manifestContent manifest))

def decodeManifest (bytes : List UInt8) : Except CaptureSegmentError CaptureWindowManifest :=
  if slice bytes 0 8 ≠ manifestMagic then .error .invalidManifestMagic
  else if readU16 bytes 8 ≠ manifestVersion then
    .error (.unsupportedManifestVersion (readU16 bytes 8))
  else if (readU16 bytes 10).toNat ≠ manifestBytes then .error .invalidManifestLength
  else if crc32c (bytes.take manifestCrcOffset) ≠ readU32 bytes manifestCrcOffset then
    .error .manifestChecksumMismatch
  else if (slice bytes 94 6).any (· != 0) then .error .nonZeroManifestReservedField
  else
    let flags := bytes.getD 92 0
    if flags &&& ~~~(firstSamplePresent ||| lastSamplePresent) ≠ 0 then
      .error (.unknownManifestFlags flags)
    else if flags &&& firstSamplePresent = 0 ∧ readU64 bytes 52 ≠ 0 then
      .error .invalidManifestOptionalCursor
    else if flags &&& lastSamplePresent = 0 ∧ readU64 bytes 60 ≠ 0 then
      .error .invalidManifestOptionalCursor
    else do
      let sealReason ← decodeSealReason (bytes.getD 93 0)
      let manifest : CaptureWindowManifest := {
        hardwareId := Vector.ofFn fun index => bytes.getD (12 + index) 0
        bootEpoch := readU64 bytes 20
        windowOrdinal := readU64 bytes 28
        firstCursor := readU64 bytes 36
        endExclusive := readU64 bytes 44
        firstSampleCursor :=
          if flags &&& firstSamplePresent ≠ 0 then some (readU64 bytes 52) else none
        lastSampleCursor :=
          if flags &&& lastSamplePresent ≠ 0 then some (readU64 bytes 60) else none
        sampleCount := readU64 bytes 68
        missingSampleCount := readU64 bytes 76
        continuityBreakCount := readU64 bytes 84
        sealReason }
      manifest.validateContract
      .ok manifest

/-- `read_capture_manifest` on the bytes of the file. -/
def readCaptureManifest (file : List UInt8) : Except CaptureSegmentError CaptureWindowManifest :=
  if file.length < manifestBytes then .error (.io .unexpectedEof)
  else if file.length ≠ manifestBytes then .error .invalidManifestLength
  else decodeManifest file

variable (manifest : CaptureWindowManifest)

theorem length_manifestContent : (manifestContent manifest).length = manifestCrcOffset := by
  simp [manifestContent, manifestMagic, manifestCrcOffset, manifestBytes]

theorem length_encodeManifest : (encodeManifest manifest).length = manifestBytes := by
  rw [encodeManifest, length_append, length_manifestContent, length_u32Bytes]
  rfl

theorem decodeSealReason_encode (reason : WindowSealReason) :
    decodeSealReason (encodeSealReason reason) = .ok reason := by
  cases reason <;> rfl

theorem flags_known : manifest.flags &&& ~~~(firstSamplePresent ||| lastSamplePresent) = 0 := by
  rw [CaptureWindowManifest.flags]
  cases manifest.firstSampleCursor <;> cases manifest.lastSampleCursor <;> simp <;> decide

theorem flags_first :
    manifest.flags &&& firstSamplePresent = 0 ↔ manifest.firstSampleCursor = none := by
  rw [CaptureWindowManifest.flags]
  cases manifest.firstSampleCursor <;> cases manifest.lastSampleCursor <;> simp <;> decide

theorem flags_last :
    manifest.flags &&& lastSamplePresent = 0 ↔ manifest.lastSampleCursor = none := by
  rw [CaptureWindowManifest.flags]
  cases manifest.firstSampleCursor <;> cases manifest.lastSampleCursor <;> simp <;> decide

/-- The fields of the file, each at its offset. -/
theorem readU64_encodeManifest : readU64 (encodeManifest manifest) 20 = manifest.bootEpoch ∧
    readU64 (encodeManifest manifest) 28 = manifest.windowOrdinal ∧
    readU64 (encodeManifest manifest) 36 = manifest.firstCursor ∧
    readU64 (encodeManifest manifest) 44 = manifest.endExclusive ∧
    readU64 (encodeManifest manifest) 52 = manifest.firstSampleCursor.getD 0 ∧
    readU64 (encodeManifest manifest) 60 = manifest.lastSampleCursor.getD 0 ∧
    readU64 (encodeManifest manifest) 68 = manifest.sampleCount ∧
    readU64 (encodeManifest manifest) 76 = manifest.missingSampleCount ∧
    readU64 (encodeManifest manifest) 84 = manifest.continuityBreakCount := by
  refine ⟨?_, ?_, ?_, ?_, ?_, ?_, ?_, ?_, ?_⟩ <;>
    simp [encodeManifest, manifestContent, manifestMagic]

theorem hardwareId_encodeManifest :
    (Vector.ofFn fun index : Fin 8 => (encodeManifest manifest).getD (12 + index) 0) =
      manifest.hardwareId := by
  ext index bound
  have inside : index < manifest.hardwareId.toList.length := by simpa using bound
  have front : (manifestMagic ++ (u16Bytes manifestVersion ++
      u16Bytes (UInt16.ofNat manifestBytes))).length = 12 := by simp [manifestMagic]
  simp only [encodeManifest, manifestContent, Vector.getElem_ofFn, append_assoc]
  rw [← append_assoc (u16Bytes manifestVersion), ← append_assoc manifestMagic,
    getD_eq_getElem?_getD, getElem?_append_right (by omega), front,
    Nat.add_sub_cancel_left, getElem?_append_left inside]
  simp [bound]

/-- The flags, the reason and the reserved bytes. -/
theorem getD_encodeManifest : (encodeManifest manifest).getD 92 0 = manifest.flags ∧
      (encodeManifest manifest).getD 93 0 = encodeSealReason manifest.sealReason ∧
      slice (encodeManifest manifest) 94 6 = List.replicate 6 0 := by
  refine ⟨?_, ?_, ?_⟩
  · simp [encodeManifest, manifestContent, manifestMagic, getD_eq_getElem?_getD]
  · simp [encodeManifest, manifestContent, manifestMagic, getD_eq_getElem?_getD]
  · simp [-reduceReplicate, encodeManifest, manifestContent, manifestMagic,
      slice_cons_of_pos]

/-- A manifest that meets its contract is read back. -/
theorem readCaptureManifest_encode (contract : manifest.validateContract = .ok ()) :
    readCaptureManifest (encodeManifest manifest) = .ok manifest := by
  have length := length_encodeManifest manifest
  rw [readCaptureManifest, if_neg (by omega), if_neg (by simp [length]), decodeManifest]
  have covered : (encodeManifest manifest).take manifestCrcOffset = manifestContent manifest :=
    take_left' (length_manifestContent manifest)
  have checksum : readU32 (encodeManifest manifest) manifestCrcOffset =
      crc32c (manifestContent manifest) := by
    have width := length_manifestContent manifest
    rw [encodeManifest, readU32_append_of_le (Nat.le_of_eq width), width, Nat.sub_self]
    exact readU32_eq (slice_zero_self (length_u32Bytes _))
  have magic : slice (encodeManifest manifest) 0 8 = manifestMagic := rfl
  have version : readU16 (encodeManifest manifest) 8 = manifestVersion := by
    simp [encodeManifest, manifestContent, manifestMagic]
  have long : readU16 (encodeManifest manifest) 10 = UInt16.ofNat manifestBytes := by
    simp [encodeManifest, manifestContent, manifestMagic]
  obtain ⟨epoch, ordinal, first, stop, firstSample, lastSample, samples, missing, breaks⟩ :=
    readU64_encodeManifest manifest
  obtain ⟨flags, reason, reserved⟩ := getD_encodeManifest manifest
  simp only [covered, checksum, magic, version, long, flags, reason, reserved, epoch, ordinal,
    first, stop, firstSample, lastSample, samples, missing, breaks,
    hardwareId_encodeManifest manifest, decodeSealReason_encode, ok_bind]
  have absentFirst : ¬ (manifest.flags &&& firstSamplePresent = 0 ∧
      manifest.firstSampleCursor.getD 0 ≠ 0) := by
    rintro ⟨absent, present⟩
    rw [(flags_first manifest).mp absent] at present
    exact present rfl
  have absentLast : ¬ (manifest.flags &&& lastSamplePresent = 0 ∧
      manifest.lastSampleCursor.getD 0 ≠ 0) := by
    rintro ⟨absent, present⟩
    rw [(flags_last manifest).mp absent] at present
    exact present rfl
  have optional : ∀ cursor : Option SequenceCursor,
      (if ¬ cursor = none then some (cursor.getD 0) else none) = cursor := by
    intro cursor
    cases cursor <;> rfl
  rw [if_neg (by decide), if_neg (by decide), if_neg (by decide), if_neg (by simp),
    if_neg (by decide), if_neg (by simp [flags_known]), if_neg absentFirst, if_neg absentLast]
  simp only [ne_eq, flags_first, flags_last, optional, contract, ok_bind]

end SensorSystem.Host

/-! The other direction of the codec: an accepted manifest file is the encoding of the manifest
that was read from it. -/

namespace SensorSystem.Host

open Base
open Framing (crc32c)

theorem encodeSealReason_of_decode {value : UInt8} {reason : WindowSealReason}
    (read : decodeSealReason value = .ok reason) : encodeSealReason reason = value := by
  rw [decodeSealReason] at read
  split at read
  · cases read
    exact UInt8.toNat_inj.mp (Eq.symm ‹_›)
  · cases read
    exact UInt8.toNat_inj.mp (Eq.symm ‹_›)
  · cases read
    exact UInt8.toNat_inj.mp (Eq.symm ‹_›)
  · exact nomatch read

/-- Known flags are the flags of the cursors they announce. -/
theorem flags_of_known {manifest : CaptureWindowManifest} {flags : UInt8}
    (known : flags &&& ~~~(firstSamplePresent ||| lastSamplePresent) = 0)
    (first : manifest.firstSampleCursor.isSome = decide (flags &&& firstSamplePresent ≠ 0))
    (last : manifest.lastSampleCursor.isSome = decide (flags &&& lastSamplePresent ≠ 0)) :
    manifest.flags = flags := by
  have small : flags.toNat < 2 ^ 2 := toNat_lt_of_and_not (congrArg UInt8.toBitVec known)
  have all : ∀ low : Fin 4,
      (if decide (UInt8.ofNat low &&& firstSamplePresent ≠ 0) then firstSamplePresent else 0) |||
        (if decide (UInt8.ofNat low &&& lastSamplePresent ≠ 0) then lastSamplePresent else 0) =
          UInt8.ofNat low := by
    decide
  have here := all ⟨flags.toNat, small⟩
  rw [UInt8.ofNat_toNat] at here
  rw [CaptureWindowManifest.flags, first, last, here]

variable {file : List UInt8}

/-- A cursor that is not announced is left at zero. -/
theorem cursorBytes_of_flag {offset : Nat} {flags flag : UInt8}
    (inside : offset + 8 ≤ file.length) (blank : ¬ (flags &&& flag = 0 ∧ readU64 file offset ≠ 0)) :
    u64Bytes ((if flags &&& flag ≠ 0 then some (readU64 file offset) else none).getD 0) =
      slice file offset 8 := by
  by_cases present : flags &&& flag ≠ 0
  · rw [if_pos present, Option.getD_some, u64Bytes_readU64 inside]
  have zero : readU64 file offset = 0 := by
    by_contra nonzero
    exact blank ⟨not_not.mp present, nonzero⟩
  rw [if_neg present, Option.getD_none, ← zero, u64Bytes_readU64 inside]

theorem isSome_ite {flagged : Prop} [Decidable flagged] (cursor : SequenceCursor) :
    (if flagged then some cursor else none).isSome = decide flagged := by
  by_cases told : flagged
  · rw [if_pos told, decide_eq_true told]
    rfl
  rw [if_neg told, decide_eq_false told]
  rfl

/-- The manifest whose fields stand at their offsets. -/
def manifestFields (file : List UInt8) (sealReason : WindowSealReason) : CaptureWindowManifest where
  hardwareId := readBytes 8 file 12
  bootEpoch := readU64 file 20
  windowOrdinal := readU64 file 28
  firstCursor := readU64 file 36
  endExclusive := readU64 file 44
  firstSampleCursor :=
    if file.getD 92 0 &&& firstSamplePresent ≠ 0 then some (readU64 file 52) else none
  lastSampleCursor :=
    if file.getD 92 0 &&& lastSamplePresent ≠ 0 then some (readU64 file 60) else none
  sampleCount := readU64 file 68
  missingSampleCount := readU64 file 76
  continuityBreakCount := readU64 file 84
  sealReason

/-- The fields of an accepted file are its content. -/
theorem manifestContent_fields {sealReason : WindowSealReason} (width : file.length = 104)
    (magic : slice file 0 8 = manifestMagic) (version : readU16 file 8 = manifestVersion)
    (header : readU16 file 10 = UInt16.ofNat manifestBytes)
    (blank : slice file 94 6 = List.replicate 6 0)
    (known : file.getD 92 0 &&& ~~~(firstSamplePresent ||| lastSamplePresent) = 0)
    (noFirst : ¬ (file.getD 92 0 &&& firstSamplePresent = 0 ∧ readU64 file 52 ≠ 0))
    (noLast : ¬ (file.getD 92 0 &&& lastSamplePresent = 0 ∧ readU64 file 60 ≠ 0))
    (reason : encodeSealReason sealReason = file.getD 93 0) :
    manifestContent (manifestFields file sealReason) = file.take manifestCrcOffset := by
  have flags : (manifestFields file sealReason).flags = file.getD 92 0 :=
    flags_of_known known (isSome_ite _) (isSome_ite _)
  have flagByte : slice file 92 1 = [file.getD 92 0] := slice_one (by omega)
  have reasonByte : slice file 93 1 = [file.getD 93 0] := slice_one (by omega)
  have whole := fields_eq_slice file 0 [8, 2, 2, 8, 8, 8, 8, 8, 8, 8, 8, 8, 8, 1, 1, 6]
  simp only [fields, Nat.reduceAdd, List.append_nil, List.sum_cons, List.sum_nil, flagByte,
    reasonByte, List.singleton_append] at whole
  rw [manifestContent, flags, manifestFields]
  rw [reason, cursorBytes_of_flag (by omega) noFirst, cursorBytes_of_flag (by omega) noLast,
    ← magic, ← version, ← header, u16Bytes_readU16 (by omega), u16Bytes_readU16 (by omega),
    toList_readBytes (by omega), u64Bytes_readU64 (by omega), u64Bytes_readU64 (by omega),
    u64Bytes_readU64 (by omega), u64Bytes_readU64 (by omega), u64Bytes_readU64 (by omega),
    u64Bytes_readU64 (by omega), u64Bytes_readU64 (by omega), ← blank, whole]
  rfl

/-- An accepted file is the encoding of the manifest that was read. -/
theorem encodeManifest_of_read {manifest : CaptureWindowManifest}
    (accepted : readCaptureManifest file = .ok manifest) :
    manifest.validateContract = .ok () ∧ encodeManifest manifest = file := by
  rw [readCaptureManifest] at accepted
  obtain ⟨-, accepted⟩ := guard_eq_ok.mp accepted
  obtain ⟨width, accepted⟩ := guard_eq_ok.mp accepted
  have width : file.length = 104 := not_not.mp width
  rw [decodeManifest] at accepted
  obtain ⟨magic, accepted⟩ := guard_eq_ok.mp accepted
  obtain ⟨version, accepted⟩ := guard_eq_ok.mp accepted
  obtain ⟨long, accepted⟩ := guard_eq_ok.mp accepted
  obtain ⟨checksum, accepted⟩ := guard_eq_ok.mp accepted
  obtain ⟨reserved, accepted⟩ := guard_eq_ok.mp accepted
  obtain ⟨known, accepted⟩ := guard_eq_ok.mp accepted
  obtain ⟨noFirst, accepted⟩ := guard_eq_ok.mp accepted
  obtain ⟨noLast, accepted⟩ := guard_eq_ok.mp accepted
  obtain ⟨sealReason, sealed, accepted⟩ := bind_eq_ok.mp accepted
  obtain ⟨contract, same⟩ := check_eq_ok.mp accepted
  obtain rfl : manifestFields file sealReason = manifest := Except.ok.inj same
  have blank : slice file 94 6 = List.replicate 6 0 :=
    eq_replicate_of_not_any reserved (length_slice (by omega))
  have header : readU16 file 10 = UInt16.ofNat manifestBytes :=
    UInt16.toNat_inj.mp (not_not.mp long)
  have covered := manifestContent_fields width (not_not.mp magic) (not_not.mp version) header blank
    (not_not.mp known) noFirst noLast (encodeSealReason_of_decode sealed)
  refine ⟨contract, ?_⟩
  rw [encodeManifest, covered, not_not.mp checksum, u32Bytes_readU32 (by rw [width]; decide)]
  exact take_append_slice (by rw [width]; decide)

end SensorSystem.Host
