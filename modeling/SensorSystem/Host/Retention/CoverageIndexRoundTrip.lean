import SensorSystem.Host.Capture.CaptureManifestCodec
import SensorSystem.Host.Retention.CoverageIndexFile

/-! A valid coverage index is read back from its file, and an accepted file is the encoding of the
index that was read; the same holds of the manifests of sealed windows. -/

namespace SensorSystem.Host

open Base
open Framing (crc32c)

namespace ArchiveCoverageIndex

theorem encodedLength_eq_ok {count length : Nat} : encodedLength count = .ok length ↔
    count ≠ 0 ∧ count ≤ maxSpans ∧ length = headerBytes + count * 56 + crcBytes := by
  rw [encodedLength, guard_eq_ok, not_or, Nat.not_lt, Except.ok.injEq, and_assoc]
  exact and_congr_right fun _ => and_congr_right fun _ => eq_comm

variable {partition : ArchivePartition}

theorem new_eq_ok {archive : ArchiveIdentity} {hardwareId : HardwareId}
    {revision : ArchiveRevision} {inputs : List ArchiveInputSpan} {index : ArchiveCoverageIndex} :
    new archive hardwareId partition revision inputs = .ok index ↔
      index = ⟨archive, hardwareId, partition, revision, inputs⟩ ∧ index.validate = .ok () := by
  rw [new, check_eq_ok]
  constructor
  · rintro ⟨valid, same⟩
    cases same
    exact ⟨rfl, valid⟩
  · rintro ⟨rfl, valid⟩
    exact ⟨valid, rfl⟩

/-- A valid index names between one span and the limit. -/
theorem length_inputs_of_validate {index : ArchiveCoverageIndex} (valid : index.validate = .ok ()) :
    index.inputs.length ≠ 0 ∧ index.inputs.length ≤ maxSpans := by
  obtain ⟨-, valid⟩ := check_eq_ok.mp valid
  obtain ⟨-, valid⟩ := guard_eq_ok.mp valid
  obtain ⟨-, valid⟩ := check_eq_ok.mp valid
  obtain ⟨-, valid⟩ := check_eq_ok.mp valid
  obtain ⟨some, valid⟩ := guard_eq_ok.mp valid
  obtain ⟨few, -⟩ := guard_eq_ok.mp valid
  exact ⟨fun empty => some (List.eq_nil_of_length_eq_zero empty), Nat.not_lt.mp few⟩

@[simp] theorem length_indexMagic : magic.length = 8 := by simp [magic]

theorem length_content (index : ArchiveCoverageIndex) (total : Nat) :
    (index.content total).length = headerBytes + index.inputs.length * 56 := by
  have rows := spanRow.length_table index.inputs
  have width : spanRow.width = 56 := rfl
  rw [width] at rows
  simp [content, rows, headerBytes]
  omega

variable {index : ArchiveCoverageIndex} {file : List UInt8}

/-- The fields of the file, each at its offset. -/
theorem slice_content (index : ArchiveCoverageIndex) (total : Nat) (rest : List UInt8) :
    let file := index.content total ++ rest
    slice file 16 48 = identityBytes index.archive ∧
    slice file 64 8 = index.hardwareId.toList ∧
    slice file 72 1 = [index.partition.tag] ∧
    slice file 73 7 = List.replicate 7 0 ∧
    slice file 80 24 = index.partition.bytes ∧
    slice file 112 16 = supersedesBytes index.revision.supersedesProductId ∧
    slice file 132 12 = List.replicate 12 0 := by
  refine ⟨?_, ?_, ?_, ?_, ?_, ?_, ?_⟩
  case refine_3 =>
    simp [-List.reduceReplicate, content]
    rfl
  all_goals simp [-List.reduceReplicate, content, slice_cons_of_pos]

theorem words_content (index : ArchiveCoverageIndex) (total : Nat) (rest : List UInt8) :
    let file := index.content total ++ rest
    readU16 file 8 = version ∧ readU16 file 10 = UInt16.ofNat headerBytes ∧
    readU32 file 12 = UInt32.ofNat total ∧
    readU32 file 104 = index.revision.number ∧
    readU32 file 108 = supersedesFlags index.revision.supersedesProductId ∧
    readU32 file 128 = UInt32.ofNat index.inputs.length := by
  refine ⟨?_, ?_, ?_, ?_, ?_, ?_⟩ <;> simp [-List.reduceReplicate, content]

theorem drop_content (index : ArchiveCoverageIndex) (total : Nat) (rest : List UInt8) :
    (index.content total ++ rest).drop headerBytes = spanRow.table index.inputs ++ rest := by
  simp [-List.reduceReplicate, content, headerBytes, List.drop_append, List.drop_of_length_le]

/-- A valid index is read back. -/
theorem read_encodeIndex (valid : index.validate = .ok ()) :
    ∃ file, index.encodeIndex = .ok file ∧ readArchiveCoverageIndex file = .ok index := by
  obtain ⟨nonempty, few⟩ := length_inputs_of_validate valid
  obtain ⟨total, totalEq⟩ : ∃ total, total = headerBytes + index.inputs.length * 56 + crcBytes :=
    ⟨_, rfl⟩
  have counted : encodedLength index.inputs.length = .ok total :=
    encodedLength_eq_ok.mpr ⟨nonempty, few, totalEq⟩
  obtain ⟨file, fileEq⟩ : ∃ file, file = index.content total ++
      u32Bytes (crc32c (index.content total)) := ⟨_, rfl⟩
  refine ⟨file, by rw [encodeIndex, counted, ok_bind, fileEq], ?_⟩
  rw [maxSpans] at few
  rw [headerBytes, crcBytes] at totalEq
  obtain ⟨width, covered, checksum⟩ : file.length = total ∧
      file.take (total - crcBytes) = index.content total ∧
      readU32 file (total - crcBytes) = crc32c (index.content total) :=
    sealed fileEq (by rw [length_content, headerBytes, totalEq])
  obtain ⟨archive, hardware, tag, reserved, partition, supersedes, blank⟩ :=
    slice_content index total (u32Bytes (crc32c (index.content total)))
  obtain ⟨versionRead, headerRead, totalRead, number, flags, countRead⟩ :=
    words_content index total (u32Bytes (crc32c (index.content total)))
  have table := drop_content index total (u32Bytes (crc32c (index.content total)))
  have magicRead : slice file 0 8 = magic := by
    rw [fileEq]
    rfl
  rw [← fileEq] at archive hardware tag reserved partition supersedes blank
  rw [← fileEq] at versionRead headerRead totalRead number flags countRead table
  have totalNat := toNat_of_readU32 totalRead (by omega)
  have countNat := toNat_of_readU32 countRead (by omega)
  have rows : spanRow.readTable file headerBytes index.inputs.length = index.inputs :=
    spanRow.readTable_eq _ table
  have zeros : ¬ ((slice file 73 7).any (· != 0) = true ∨ (slice file 132 12).any (· != 0)) := by
    rw [reserved, blank]
    decide
  have known : ¬ (supersedesFlags index.revision.supersedesProductId &&& ~~~knownFlags ≠ 0) :=
    not_not.mpr (supersedesFlags_known _)
  have made : new index.archive index.hardwareId index.partition
      ⟨index.revision.number, index.revision.supersedesProductId⟩ index.inputs = .ok index :=
    new_eq_ok.mpr ⟨rfl, valid⟩
  have whole : decodeIndex file index.inputs.length = .ok index := by
    rw [decodeIndex, if_neg zeros, decodePartition_eq tag partition, ok_bind, flags]
    dsimp only
    rw [if_neg known, decodeSupersedes_eq supersedes, ok_bind, readIdentity_eq archive,
      readBytes_eq hardware, number, rows, made]
    rfl
  have long : ¬ file.length < headerBytes := by
    rw [headerBytes]
    omega
  rw [readArchiveCoverageIndex, if_neg long, magicRead, versionRead, headerRead, totalNat,
    countNat, if_neg (by simp), if_neg (by simp), if_neg (by decide)]
  dsimp only
  rw [counted, ok_bind, if_neg (by simp), if_neg (by omega), if_neg (not_not.mpr width), covered,
    checksum, if_neg (by simp), whole]

theorem indexWidths_sum (rows : Nat) :
    8 + (2 + (2 + (4 + (48 + (8 + (1 + (7 + (24 + (4 + (4 + (16 + (4 + (12 +
      (rows + 0)))))))))))))) = 144 + rows + 4 - 4 := by
  omega

/-- The fields of an accepted file are its content. -/
theorem content_of_fields {supersedes : Option (Vector UInt8 16)}
    (magicRead : slice file 0 8 = magic) (versionRead : readU16 file 8 = version)
    (header : readU16 file 10 = UInt16.ofNat headerBytes)
    (reserved : slice file 73 7 = List.replicate 7 0)
    (blank : slice file 132 12 = List.replicate 12 0) (tag : [partition.tag] = slice file 72 1)
    (body : partition.bytes = slice file 80 24)
    (product : supersedesBytes supersedes = slice file 112 16)
    (flags : supersedesFlags supersedes = readU32 file 108)
    (width : (readU32 file 12).toNat = file.length)
    (total : (readU32 file 12).toNat = 144 + (readU32 file 128).toNat * 56 + 4) :
    content ⟨readIdentity file 16, readBytes 8 file 64, partition,
      ⟨readU32 file 104, supersedes⟩,
      spanRow.readTable file headerBytes (readU32 file 128).toNat⟩ (readU32 file 12).toNat =
        file.take ((readU32 file 12).toNat - crcBytes) := by
  have listed : (spanRow.readTable file headerBytes (readU32 file 128).toNat).length =
      (readU32 file 128).toNat := spanRow.length_readTable _ _ _
  have rowWidth : spanRow.width = 56 := rfl
  have table : spanRow.table (spanRow.readTable file headerBytes (readU32 file 128).toNat) =
      slice file 144 ((readU32 file 128).toNat * 56) :=
    spanRow.table_readTable (by rw [rowWidth, headerBytes]; omega)
  have ends : 8 + (2 + (2 + (4 + (48 + (8 + (1 + (7 + (24 + (4 + (4 + (16 + (4 + (12 +
      ((readU32 file 128).toNat * 56 + 0)))))))))))))) = (readU32 file 12).toNat - crcBytes := by
    rw [total, crcBytes, indexWidths_sum]
  have fieldsEq := fields_eq_slice file 0
    [8, 2, 2, 4, 48, 8, 1, 7, 24, 4, 4, 16, 4, 12, (readU32 file 128).toNat * 56]
  simp only [fields, Nat.reduceAdd, List.append_nil, List.sum_cons, List.sum_nil] at fieldsEq
  rw [content, listed, table, tag, body, product, flags, UInt32.ofNat_toNat, UInt32.ofNat_toNat,
    ← magicRead, ← versionRead, ← header, u16Bytes_readU16 (by omega),
    u16Bytes_readU16 (by omega), u32Bytes_readU32 (by omega), u32Bytes_readU32 (by omega),
    u32Bytes_readU32 (by omega), u32Bytes_readU32 (by omega), identityBytes_readIdentity (by omega),
    toList_readBytes (by omega), ← reserved, ← blank, fieldsEq, slice, List.drop_zero, ends]

/-- An accepted file is the encoding of the index that was read. -/
theorem encodeIndex_of_read (read : readArchiveCoverageIndex file = .ok index) :
    index.validate = .ok () ∧ index.encodeIndex = .ok file := by
  rw [readArchiveCoverageIndex] at read
  obtain ⟨long, read⟩ := guard_eq_ok.mp read
  obtain ⟨magicRead, read⟩ := guard_eq_ok.mp read
  obtain ⟨versionRead, read⟩ := guard_eq_ok.mp read
  obtain ⟨headerRead, read⟩ := guard_eq_ok.mp read
  obtain ⟨expected, counted, read⟩ := bind_eq_ok.mp read
  obtain ⟨total, read⟩ := guard_eq_ok.mp read
  obtain ⟨-, read⟩ := guard_eq_ok.mp read
  obtain ⟨width, read⟩ := guard_eq_ok.mp read
  obtain ⟨checksum, read⟩ := guard_eq_ok.mp read
  rw [decodeIndex] at read
  obtain ⟨zeros, read⟩ := guard_eq_ok.mp read
  obtain ⟨partition, tagged, read⟩ := bind_eq_ok.mp read
  obtain ⟨known, read⟩ := guard_eq_ok.mp read
  obtain ⟨supersedes, product, read⟩ := bind_eq_ok.mp read
  obtain ⟨rfl, valid⟩ := new_eq_ok.mp (mapError_eq_ok.mp read)
  refine ⟨valid, ?_⟩
  obtain ⟨some, few, lengthEq⟩ := encodedLength_eq_ok.mp counted
  have width : file.length = (readU32 file 12).toNat := not_not.mp width
  have total := (not_not.mp total).trans lengthEq
  rw [headerBytes, crcBytes] at total
  rw [not_or] at zeros
  have listed : (spanRow.readTable file headerBytes (readU32 file 128).toNat).length =
      (readU32 file 128).toNat := spanRow.length_readTable _ _ _
  obtain ⟨tag, body⟩ := bytes_of_decodePartition (by omega) tagged
  obtain ⟨productField, flags⟩ := bytes_of_decodeSupersedes (by omega) (not_not.mp known) product
  have reserved : slice file 73 7 = List.replicate 7 0 :=
    eq_replicate_of_not_any zeros.1 (length_slice (by omega))
  have blank : slice file 132 12 = List.replicate 12 0 :=
    eq_replicate_of_not_any zeros.2 (length_slice (by omega))
  have header : readU16 file 10 = UInt16.ofNat headerBytes :=
    UInt16.toNat_inj.mp (not_not.mp headerRead)
  have covered := content_of_fields (not_not.mp magicRead) (not_not.mp versionRead) header
    reserved blank tag body productField flags width.symm total
  refine bind_eq_ok.mpr ⟨(readU32 file 12).toNat, ?_, congrArg Except.ok ?_⟩
  · rw [listed, counted, lengthEq, total, headerBytes, crcBytes]
  · rw [covered, not_not.mp checksum, u32Bytes_readU32 (by rw [crcBytes]; omega)]
    exact take_append_slice (by rw [crcBytes]; omega)

end ArchiveCoverageIndex

/-- Manifests that meet their contract and valid coverage indexes are read back as they were,
and a file that is accepted is the encoding of the value it gives. -/
theorem evidence_files_round_trip :
    (∀ manifest : CaptureWindowManifest, manifest.validateContract = .ok () →
      readCaptureManifest (encodeManifest manifest) = .ok manifest) ∧
    (∀ file manifest, readCaptureManifest file = .ok manifest →
      manifest.validateContract = .ok () ∧ encodeManifest manifest = file) ∧
    (∀ index : ArchiveCoverageIndex, index.validate = .ok () →
      ∃ file, index.encodeIndex = .ok file ∧
        ArchiveCoverageIndex.readArchiveCoverageIndex file = .ok index) ∧
    (∀ file index, ArchiveCoverageIndex.readArchiveCoverageIndex file = .ok index →
      index.validate = .ok () ∧ index.encodeIndex = .ok file) :=
  ⟨fun manifest => readCaptureManifest_encode manifest, fun _ _ => encodeManifest_of_read,
    fun _ => ArchiveCoverageIndex.read_encodeIndex,
    fun _ _ => ArchiveCoverageIndex.encodeIndex_of_read⟩

def recordedWindow : CaptureWindowManifest where
  hardwareId := Vector.replicate 8 1
  bootEpoch := 1
  windowOrdinal := 0
  firstCursor := 0
  endExclusive := 5
  firstSampleCursor := some 0
  lastSampleCursor := some 4
  sampleCount := 5
  missingSampleCount := 0
  continuityBreakCount := 0
  sealReason := .explicitFinish

/-- A product of the whole window. -/
def recordedHour : ArchiveCoverageIndex where
  archive := ⟨Vector.replicate 16 1, Vector.replicate 32 1⟩
  hardwareId := Vector.replicate 8 1
  partition := .utcHour 3600
  revision := ⟨0, none⟩
  inputs := [⟨.ofManifest recordedWindow, 0, 5⟩]

theorem evidence_files_round_trip_of_recorded :
    readCaptureManifest (encodeManifest recordedWindow) = .ok recordedWindow ∧
      ∃ file, recordedHour.encodeIndex = .ok file ∧
        ArchiveCoverageIndex.readArchiveCoverageIndex file = .ok recordedHour :=
  ⟨evidence_files_round_trip.1 recordedWindow (by decide),
    evidence_files_round_trip.2.2.1 recordedHour (by decide)⟩

end SensorSystem.Host
