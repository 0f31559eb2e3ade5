import SensorSystem.Host.Retention.RetentionCheckpoint

/-! `archive_coverage.rs`: a coverage index in a file, a header and one row for each span, with a
checksum. -/

namespace SensorSystem.Host

open Base
open Framing (crc32c)

/-- The errors of the codec, and those of the check of an index. -/
inductive CoverageIndexError where
  | io (kind : IoErrorKind)
  | coverage (error : ArchiveCoverageError)
  | invalidMagic
  | unsupportedVersion (version : UInt16)
  | invalidLength
  | checksumMismatch
  | nonZeroReservedField
  | unknownPartition (value : UInt8)
  | unknownFlags (flags : UInt32)

variable (span : ArchiveInputSpan)

def spanBytes : List UInt8 :=
  keyBytes span.segment ++ (u64Bytes span.firstCursor ++ u64Bytes span.endExclusive)

def readSpan (bytes : List UInt8) (offset : Nat) : ArchiveInputSpan where
  segment := readKey bytes offset
  firstCursor := readU64 bytes (offset + 40)
  endExclusive := readU64 bytes (offset + 48)

@[simp] theorem length_spanBytes : (spanBytes span).length = 56 := by
  simp [spanBytes]

theorem readSpan_eq {bytes : List UInt8} {offset : Nat} {span : ArchiveInputSpan}
    (field : slice bytes offset 56 = spanBytes span) : readSpan bytes offset = span := by
  have part : ∀ {start count : Nat}, start + count ≤ 56 →
      slice bytes (offset + start) count = slice (spanBytes span) start count := by
    intro start count inside
    rw [← field, slice_slice inside]
  have key : slice bytes offset 40 = keyBytes span.segment := by
    simpa [spanBytes] using part (show 0 + 40 ≤ 56 by omega)
  simp only [readSpan, readKey_eq key]
  rw [readU64, readU64, part (by omega), part (by omega), ← readU64, ← readU64]
  simp [spanBytes]

theorem spanBytes_readSpan {bytes : List UInt8} {offset : Nat}
    (inside : offset + 56 ≤ bytes.length) :
    spanBytes (readSpan bytes offset) = slice bytes offset 56 := by
  have whole := fields_eq_slice bytes offset [40, 8, 8]
  simp only [fields, List.append_nil, Nat.add_assoc, Nat.reduceAdd, List.sum_cons,
    List.sum_nil] at whole
  rw [spanBytes, readSpan, keyBytes_readKey (by omega), u64Bytes_readU64 (by omega),
    u64Bytes_readU64 (by omega), whole]

def spanRow : Row ArchiveInputSpan where
  width := 56
  bytes := spanBytes
  read := readSpan
  length_bytes := length_spanBytes
  read_eq := readSpan_eq
  bytes_read := spanBytes_readSpan

def ArchivePartition.tag : ArchivePartition → UInt8
  | .utcHour _ => 1
  | .timeUnresolved .. => 2

/-- The fields behind the tag. An hour leaves the last two at zero. -/
def ArchivePartition.bytes : ArchivePartition → List UInt8
  | .utcHour start => u64Bytes start ++ List.replicate 16 0
  | .timeUnresolved bootEpoch firstCursor endExclusive =>
    u64Bytes bootEpoch ++ (u64Bytes firstCursor ++ u64Bytes endExclusive)

def decodePartition (bytes : List UInt8) : Except CoverageIndexError ArchivePartition :=
  let value := bytes.getD 72 0
  match value.toNat with
  | 1 =>
    if (slice bytes 88 16).any (· != 0) then .error .nonZeroReservedField
    else .ok (.utcHour (readU64 bytes 80))
  | 2 => .ok (.timeUnresolved (readU64 bytes 80) (readU64 bytes 88) (readU64 bytes 96))
  | _ => .error (.unknownPartition value)

@[simp] theorem ArchivePartition.length_bytes (partition : ArchivePartition) :
    partition.bytes.length = 24 := by
  cases partition <;> simp [ArchivePartition.bytes]

variable {partition : ArchivePartition} {productId : Option (Vector UInt8 16)}

theorem decodePartition_eq {bytes : List UInt8} (tag : slice bytes 72 1 = [partition.tag])
    (field : slice bytes 80 24 = partition.bytes) : decodePartition bytes = .ok partition := by
  have value : bytes.getD 72 0 = partition.tag := getD_of_slice tag (Nat.zero_lt_one)
  have part : ∀ {start count : Nat}, start + count ≤ 24 →
      slice bytes (80 + start) count = slice partition.bytes start count := by
    intro start count inside
    rw [← field, slice_slice inside]
  have first : slice bytes 80 8 = slice partition.bytes 0 8 := part (show 0 + 8 ≤ 24 by omega)
  have second : slice bytes 88 8 = slice partition.bytes 8 8 := part (show 8 + 8 ≤ 24 by omega)
  have third : slice bytes 96 8 = slice partition.bytes 16 8 := part (show 16 + 8 ≤ 24 by omega)
  have last : slice bytes 88 16 = slice partition.bytes 8 16 := part (show 8 + 16 ≤ 24 by omega)
  rw [decodePartition, value]
  cases partition with
  | utcHour start =>
    have zeros : slice bytes 88 16 = List.replicate 16 0 := by
      rw [last]
      simp [-List.reduceReplicate, ArchivePartition.bytes]
    have hour : readU64 bytes 80 = start := readU64_eq (by rw [first]; rfl)
    change (if (slice bytes 88 16).any (· != 0) then _ else _) = _
    rw [zeros, if_neg (by decide), hour]
  | timeUnresolved bootEpoch firstCursor endExclusive =>
    have epoch : readU64 bytes 80 = bootEpoch := readU64_eq (by rw [first]; rfl)
    have begins : readU64 bytes 88 = firstCursor := readU64_eq (by rw [second]; rfl)
    have ends : readU64 bytes 96 = endExclusive := readU64_eq (by rw [third]; rfl)
    change Except.ok (ArchivePartition.timeUnresolved _ _ _) = _
    rw [epoch, begins, ends]

theorem bytes_of_decodePartition {bytes : List UInt8} (inside : 104 ≤ bytes.length)
    (read : decodePartition bytes = .ok partition) :
    [partition.tag] = slice bytes 72 1 ∧ partition.bytes = slice bytes 80 24 := by
  have value : slice bytes 72 1 = [bytes.getD 72 0] := slice_one (by omega)
  have halves := fields_eq_slice bytes 80 [8, 16]
  have thirds := fields_eq_slice bytes 80 [8, 8, 8]
  simp only [fields, Nat.reduceAdd, List.append_nil, List.sum_cons, List.sum_nil] at halves thirds
  rw [decodePartition] at read
  rw [value]
  split at read
  · rename_i hour
    obtain ⟨reserved, same⟩ := guard_eq_ok.mp read
    cases same
    have zeros : slice bytes 88 16 = List.replicate 16 0 :=
      eq_replicate_of_not_any reserved (length_slice (by omega))
    refine ⟨congrArg (fun byte => [byte]) (UInt8.toNat_inj.mp hour.symm), ?_⟩
    rw [ArchivePartition.bytes, u64Bytes_readU64 (by omega), ← zeros, halves]
  · rename_i unresolved
    cases read
    refine ⟨congrArg (fun byte => [byte]) (UInt8.toNat_inj.mp unresolved.symm), ?_⟩
    rw [ArchivePartition.bytes, u64Bytes_readU64 (by omega), u64Bytes_readU64 (by omega),
      u64Bytes_readU64 (by omega), thirds]
  · cases read

def supersedesPresent : UInt32 := 1

def supersedesFlags (productId : Option (Vector UInt8 16)) : UInt32 :=
  if productId.isSome then supersedesPresent else 0

/-- A field that is left at zero when no product is superseded. -/
def supersedesBytes (productId : Option (Vector UInt8 16)) : List UInt8 :=
  (productId.getD (Vector.replicate 16 0)).toList

def decodeSupersedes (bytes : List UInt8) (flags : UInt32) :
    Except CoverageIndexError (Option (Vector UInt8 16)) :=
  if flags &&& supersedesPresent ≠ 0 then .ok (some (readBytes 16 bytes 112))
  else if (slice bytes 112 16).any (· != 0) then .error .nonZeroReservedField
  else .ok none

@[simp] theorem length_supersedesBytes (productId : Option (Vector UInt8 16)) :
    (supersedesBytes productId).length = 16 := by
  simp [supersedesBytes]

theorem supersedesFlags_known (productId : Option (Vector UInt8 16)) :
    supersedesFlags productId &&& ~~~supersedesPresent = 0 := by
  cases productId with
  | none => decide
  | some productId =>
    change supersedesPresent &&& ~~~supersedesPresent = 0
    decide

theorem decodeSupersedes_eq {bytes : List UInt8}
    (field : slice bytes 112 16 = supersedesBytes productId) :
    decodeSupersedes bytes (supersedesFlags productId) = .ok productId := by
  rw [decodeSupersedes]
  cases productId with
  | none =>
    rw [if_neg (by decide), field, if_neg (by decide)]
  | some productId =>
    change (if supersedesPresent &&& supersedesPresent ≠ 0 then _ else _) = _
    rw [if_pos (by decide), readBytes_eq field, Option.getD_some]

theorem bytes_of_decodeSupersedes {bytes : List UInt8} {flags : UInt32}
    (inside : 128 ≤ bytes.length) (known : flags &&& ~~~supersedesPresent = 0)
    (read : decodeSupersedes bytes flags = .ok productId) :
    supersedesBytes productId = slice bytes 112 16 ∧ supersedesFlags productId = flags := by
  have small : flags.toNat < 2 ^ 1 := toNat_lt_of_and_not (congrArg UInt32.toBitVec known)
  have bit : flags = 0 ∨ flags = 1 := by
    rcases Nat.lt_or_ge 0 flags.toNat with one | zero
    · exact .inr (UInt32.toNat_inj.mp (by simp; omega))
    · exact .inl (UInt32.toNat_inj.mp (by simp; omega))
  rcases bit with rfl | rfl
  · obtain ⟨reserved, same⟩ := guard_eq_ok.mp read
    cases same
    exact ⟨(eq_replicate_of_not_any reserved (length_slice (by omega))).symm, rfl⟩
  · cases read
    exact ⟨toList_readBytes (by omega), rfl⟩

namespace ArchiveCoverageIndex

def magic : List UInt8 := [0x53, 0x53, 0x41, 0x52, 0x43, 0x49, 0x58, 0x31]
def version : UInt16 := 1
def headerBytes : Nat := 144
def crcBytes : Nat := 4
def knownFlags : UInt32 := supersedesPresent

def encodedLength (spanCount : Nat) : Except CoverageIndexError Nat :=
  if spanCount = 0 ∨ spanCount > maxSpans then .error .invalidLength
  else .ok (headerBytes + spanCount * spanRow.width + crcBytes)

variable (index : ArchiveCoverageIndex)

/-- The file up to its checksum: writes into a zeroed array. -/
def content (totalLength : Nat) : List UInt8 :=
  magic ++ (u16Bytes version ++ (u16Bytes (UInt16.ofNat headerBytes) ++
    (u32Bytes (UInt32.ofNat totalLength) ++ (identityBytes index.archive ++
      (index.hardwareId.toList ++ ([index.partition.tag] ++ (List.replicate 7 0 ++
        (index.partition.bytes ++ (u32Bytes index.revision.number ++
          (u32Bytes (supersedesFlags index.revision.supersedesProductId) ++
            (supersedesBytes index.revision.supersedesProductId ++
              (u32Bytes (UInt32.ofNat index.inputs.length) ++ (List.replicate 12 0 ++
                spanRow.table index.inputs)))))))))))))

def encodeIndex : Except CoverageIndexError (List UInt8) := do
  let totalLength ← encodedLength index.inputs.length
  .ok (index.content totalLength ++ u32Bytes (crc32c (index.content totalLength)))

def new (archive : ArchiveIdentity) (hardwareId : HardwareId) (partition : ArchivePartition)
    (revision : ArchiveRevision) (inputs : List ArchiveInputSpan) :
    Except ArchiveCoverageError ArchiveCoverageIndex := do
  let value : ArchiveCoverageIndex := ⟨archive, hardwareId, partition, revision, inputs⟩
  value.validate
  .ok value

def decodeIndex (bytes : List UInt8) (spanCount : Nat) :
    Except CoverageIndexError ArchiveCoverageIndex :=
  if (slice bytes 73 7).any (· != 0) ∨ (slice bytes 132 12).any (· != 0) then
    .error .nonZeroReservedField
  else do
    let partition ← decodePartition bytes
    let flags := readU32 bytes 108
    if flags &&& ~~~knownFlags ≠ 0 then .error (.unknownFlags flags)
    else do
      let supersedesProductId ← decodeSupersedes bytes flags
      (new (readIdentity bytes 16) (readBytes 8 bytes 64) partition
        ⟨readU32 bytes 104, supersedesProductId⟩
        (spanRow.readTable bytes headerBytes spanCount)).mapError .coverage

/-- `read_archive_coverage_index` on the bytes of the file. -/
def readArchiveCoverageIndex (file : List UInt8) : Except CoverageIndexError ArchiveCoverageIndex :=
  if file.length < headerBytes then .error (.io .unexpectedEof)
  else if slice file 0 8 ≠ magic then .error .invalidMagic
  else if readU16 file 8 ≠ version then .error (.unsupportedVersion (readU16 file 8))
  else if (readU16 file 10).toNat ≠ headerBytes then .error .invalidLength
  else
    let totalLength := (readU32 file 12).toNat
    let spanCount := (readU32 file 128).toNat
    do
      let expectedLength ← encodedLength spanCount
      if totalLength ≠ expectedLength then .error .invalidLength
      else if file.length < totalLength then .error (.io .unexpectedEof)
      else if file.length ≠ totalLength then .error .invalidLength
      else if crc32c (file.take (totalLength - crcBytes)) ≠
          readU32 file (totalLength - crcBytes) then .error .checksumMismatch
      else decodeIndex file spanCount

end ArchiveCoverageIndex
end SensorSystem.Host
