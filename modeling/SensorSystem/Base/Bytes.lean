import Mathlib.Data.UInt
import Mathlib.Tactic.Common

/-! Little-endian integers, reads at a fixed offset and writes into a larger buffer. A message
laid out by consecutive writes is the concatenation of its fields, and a field read back at its
offset is the field that was written. -/

namespace SensorSystem.Base

open List

/-- The low `count` bytes of a number, least significant first. -/
def leBytes : Nat → Nat → List UInt8
  | 0, _ => []
  | count + 1, value => UInt8.ofNat value :: leBytes count (value / 256)

/-- The number spelled by little-endian bytes. -/
def leValue : List UInt8 → Nat
  | [] => 0
  | byte :: bytes => byte.toNat + 256 * leValue bytes

@[simp] theorem length_leBytes (count value : Nat) : (leBytes count value).length = count := by
  induction count generalizing value with
  | zero => rfl
  | succ count ih => simp [leBytes, ih]

theorem leValue_lt (bytes : List UInt8) : leValue bytes < 256 ^ bytes.length := by
  induction bytes with
  | nil => simp [leValue]
  | cons byte bytes ih =>
    have small := byte.toNat_lt
    simp only [leValue, length_cons, Nat.pow_succ]
    omega

variable {count offset size : Nat} {bytes front rest buffer written : List UInt8} {byte : UInt8}

theorem leValue_leBytes {value : Nat} (bounded : value < 256 ^ count) :
    leValue (leBytes count value) = value := by
  induction count generalizing value with
  | zero =>
    rw [Nat.pow_zero] at bounded
    simp only [leBytes, leValue]
    omega
  | succ count ih =>
    have quotient : value / 256 < 256 ^ count := by
      rw [Nat.pow_succ] at bounded
      omega
    rw [leBytes, leValue, ih quotient, UInt8.toNat_ofNat']
    omega

theorem leBytes_leValue (bytes : List UInt8) : leBytes bytes.length (leValue bytes) = bytes := by
  induction bytes with
  | nil => rfl
  | cons byte bytes ih =>
    have small := byte.toNat_lt
    have quotient : (byte.toNat + 256 * leValue bytes) / 256 = leValue bytes := by omega
    rw [length_cons, leValue, leBytes, quotient, ih]
    congr 1
    apply UInt8.toNat_inj.mp
    rw [UInt8.toNat_ofNat']
    omega

/-- Only the low bytes of a number count. -/
theorem leBytes_mod (count value : Nat) :
    leBytes count (value % 256 ^ count) = leBytes count value := by
  induction count generalizing value with
  | zero => rfl
  | succ count ih =>
    have low : value % 256 ^ (count + 1) = value % 256 + 256 * (value / 256 % 256 ^ count) := by
      rw [Nat.pow_succ, Nat.mul_comm, Nat.mod_mul]
    have byte : UInt8.ofNat (value % 256 ^ (count + 1)) = UInt8.ofNat value := by
      apply UInt8.toNat_inj.mp
      rw [UInt8.toNat_ofNat', UInt8.toNat_ofNat', low]
      omega
    have quotient : value % 256 ^ (count + 1) / 256 = value / 256 % 256 ^ count := by
      rw [low]
      omega
    rw [leBytes, leBytes, byte, quotient, ih]

/-- The bytes `[offset, offset + count)` of a byte string. -/
def slice (bytes : List UInt8) (offset count : Nat) : List UInt8 :=
  (bytes.drop offset).take count

theorem length_slice (inside : offset + count ≤ bytes.length) :
    (slice bytes offset count).length = count := by
  rw [slice, length_take, length_drop]
  omega

variable {field : List UInt8}

@[simp] theorem slice_zero_append (rest : List UInt8) (width : field.length = count) :
    slice (field ++ rest) 0 count = field := by
  subst width
  simp [slice]

@[simp] theorem slice_zero_self (width : field.length = count) : slice field 0 count = field := by
  subst width
  simp [slice]

@[simp] theorem slice_append_of_le (past : front.length ≤ offset) :
    slice (front ++ rest) offset count = slice rest (offset - front.length) count := by
  rw [slice, drop_append, drop_eq_nil_of_le past, nil_append, slice]

/-- The last field behind the bytes in front of it. -/
theorem take_append_slice (filled : bytes.length ≤ offset + count) :
    bytes.take offset ++ slice bytes offset count = bytes := by
  have rest : (bytes.drop offset).length ≤ count := by
    rw [length_drop]
    omega
  rw [slice, take_of_length_le rest, take_append_drop]

theorem slice_one (inside : offset < bytes.length) :
    slice bytes offset 1 = [bytes.getD offset 0] := by
  rw [slice, drop_eq_getElem_cons inside, take_succ_cons, take_zero]
  simp [inside]

/-- Consecutive slices of given widths from an offset on. -/
def fields (bytes : List UInt8) : Nat → List Nat → List UInt8
  | _, [] => []
  | offset, width :: widths => slice bytes offset width ++ fields bytes (offset + width) widths

theorem fields_eq_slice (bytes : List UInt8) (offset : Nat) (widths : List Nat) :
    fields bytes offset widths = slice bytes offset widths.sum := by
  induction widths generalizing offset with
  | nil => simp [fields, slice]
  | cons width widths ih =>
    rw [fields, ih, sum_cons, slice, slice, slice, ← drop_drop, take_add]

/-- Fields that fill a byte string from its start make it up. -/
theorem fields_eq_self {widths : List Nat} (filled : bytes.length = widths.sum) :
    fields bytes 0 widths = bytes := by
  rw [fields_eq_slice, slice, drop_zero, ← filled, take_length]

variable (value : UInt16)

/-- `u16::to_le_bytes`. -/
def u16Bytes : List UInt8 := leBytes 2 value.toNat
/-- `u32::to_le_bytes`. -/
def u32Bytes (value : UInt32) : List UInt8 := leBytes 4 value.toNat
/-- `u64::to_le_bytes`. -/
def u64Bytes (value : UInt64) : List UInt8 := leBytes 8 value.toNat

/-- A little-endian read of two bytes at an offset. -/
def readU16 (bytes : List UInt8) (offset : Nat) : UInt16 :=
  UInt16.ofNat (leValue (slice bytes offset 2))
/-- A little-endian read of four bytes at an offset. -/
def readU32 (bytes : List UInt8) (offset : Nat) : UInt32 :=
  UInt32.ofNat (leValue (slice bytes offset 4))
/-- A little-endian read of eight bytes at an offset. -/
def readU64 (bytes : List UInt8) (offset : Nat) : UInt64 :=
  UInt64.ofNat (leValue (slice bytes offset 8))

@[simp] theorem length_u16Bytes : (u16Bytes value).length = 2 :=
  length_leBytes _ _
@[simp] theorem length_u32Bytes (value : UInt32) : (u32Bytes value).length = 4 :=
  length_leBytes _ _
@[simp] theorem length_u64Bytes (value : UInt64) : (u64Bytes value).length = 8 :=
  length_leBytes _ _

theorem readU16_eq {value : UInt16} (field : slice bytes offset 2 = u16Bytes value) :
    readU16 bytes offset = value := by
  rw [readU16, field, u16Bytes, leValue_leBytes (by simpa using value.toNat_lt)]
  exact UInt16.ofNat_toNat

theorem readU32_eq {value : UInt32} (field : slice bytes offset 4 = u32Bytes value) :
    readU32 bytes offset = value := by
  rw [readU32, field, u32Bytes, leValue_leBytes (by simpa using value.toNat_lt)]
  exact UInt32.ofNat_toNat

theorem readU64_eq {value : UInt64} (field : slice bytes offset 8 = u64Bytes value) :
    readU64 bytes offset = value := by
  rw [readU64, field, u64Bytes, leValue_leBytes (by simpa using value.toNat_lt)]
  exact UInt64.ofNat_toNat

variable (past : 0 < offset)

include past

theorem slice_cons_of_pos : slice (byte :: rest) offset count = slice rest (offset - 1) count := by
  obtain ⟨before, rfl⟩ := Nat.exists_eq_succ_of_ne_zero (Nat.ne_of_gt past)
  rfl

@[simp] theorem readU16_cons_of_pos :
    readU16 (byte :: rest) offset = readU16 rest (offset - 1) := by
  rw [readU16, slice_cons_of_pos past, readU16]

@[simp] theorem readU32_cons_of_pos :
    readU32 (byte :: rest) offset = readU32 rest (offset - 1) := by
  rw [readU32, slice_cons_of_pos past, readU32]

@[simp] theorem readU64_cons_of_pos :
    readU64 (byte :: rest) offset = readU64 rest (offset - 1) := by
  rw [readU64, slice_cons_of_pos past, readU64]

omit past

@[simp] theorem readU16_append_of_le (past : front.length ≤ offset) :
    readU16 (front ++ rest) offset = readU16 rest (offset - front.length) := by
  rw [readU16, slice_append_of_le past, readU16]

@[simp] theorem readU32_append_of_le (past : front.length ≤ offset) :
    readU32 (front ++ rest) offset = readU32 rest (offset - front.length) := by
  rw [readU32, slice_append_of_le past, readU32]

@[simp] theorem readU64_append_of_le (past : front.length ≤ offset) :
    readU64 (front ++ rest) offset = readU64 rest (offset - front.length) := by
  rw [readU64, slice_append_of_le past, readU64]

@[simp] theorem readU16_u16Bytes (rest : List UInt8) : readU16 (u16Bytes value ++ rest) 0 = value :=
  readU16_eq (slice_zero_append rest (length_u16Bytes value))

@[simp] theorem readU32_u32Bytes (value : UInt32) (rest : List UInt8) :
    readU32 (u32Bytes value ++ rest) 0 = value :=
  readU32_eq (slice_zero_append rest (length_u32Bytes value))

@[simp] theorem readU64_u64Bytes (value : UInt64) (rest : List UInt8) :
    readU64 (u64Bytes value ++ rest) 0 = value :=
  readU64_eq (slice_zero_append rest (length_u64Bytes value))

@[simp] theorem readU16_u16Bytes_self : readU16 (u16Bytes value) 0 = value :=
  readU16_eq (slice_zero_self (length_u16Bytes value))

@[simp] theorem readU32_u32Bytes_self (value : UInt32) : readU32 (u32Bytes value) 0 = value :=
  readU32_eq (slice_zero_self (length_u32Bytes value))

@[simp] theorem readU64_u64Bytes_self (value : UInt64) : readU64 (u64Bytes value) 0 = value :=
  readU64_eq (slice_zero_self (length_u64Bytes value))

private theorem leBytes_leValue_slice (inside : offset + count ≤ bytes.length) :
    leBytes count (leValue (slice bytes offset count)) = slice bytes offset count := by
  have spelled := leBytes_leValue (slice bytes offset count)
  rwa [length_slice inside] at spelled

private theorem leValue_slice_lt (inside : offset + count ≤ bytes.length) :
    leValue (slice bytes offset count) < 256 ^ count := by
  have bound := leValue_lt (slice bytes offset count)
  rwa [length_slice inside] at bound

theorem u16Bytes_readU16 (inside : offset + 2 ≤ bytes.length) :
    u16Bytes (readU16 bytes offset) = slice bytes offset 2 := by
  rw [u16Bytes, readU16, UInt16.toNat_ofNat_of_lt' (leValue_slice_lt inside),
    leBytes_leValue_slice inside]

theorem u32Bytes_readU32 (inside : offset + 4 ≤ bytes.length) :
    u32Bytes (readU32 bytes offset) = slice bytes offset 4 := by
  rw [u32Bytes, readU32, UInt32.toNat_ofNat_of_lt' (leValue_slice_lt inside),
    leBytes_leValue_slice inside]

theorem u64Bytes_readU64 (inside : offset + 8 ≤ bytes.length) :
    u64Bytes (readU64 bytes offset) = slice bytes offset 8 := by
  rw [u64Bytes, readU64, UInt64.toNat_ofNat_of_lt' (leValue_slice_lt inside),
    leBytes_leValue_slice inside]

/-- Replace the bytes from an offset on, as a copy into a sub-slice does. -/
def overwrite (buffer : List UInt8) (offset : Nat) (bytes : List UInt8) : List UInt8 :=
  buffer.take offset ++ bytes ++ buffer.drop (offset + bytes.length)

theorem length_overwrite (inside : offset + bytes.length ≤ buffer.length) :
    (overwrite buffer offset bytes).length = buffer.length := by
  simp only [overwrite, length_append, length_take, length_drop]
  omega

/-- A buffer of a fixed size that starts with the bytes laid out so far. -/
structure LaidOut (size : Nat) (buffer written : List UInt8) : Prop where
  length_eq : buffer.length = size
  starts : written <+: buffer

/-- Writing a field behind the laid-out bytes extends them. -/
theorem LaidOut.overwrite (laidOut : LaidOut size buffer written) (next : offset = written.length)
    (fits : offset + bytes.length ≤ size) :
    LaidOut size (overwrite buffer offset bytes) (written ++ bytes) := by
  obtain ⟨length, starts⟩ := laidOut
  refine ⟨?_, ?_⟩
  · rw [length_overwrite (by omega), length]
  have leading : buffer.take offset = written := by
    rw [next]
    exact (prefix_iff_eq_take.mp starts).symm
  rw [Base.overwrite, leading]
  exact prefix_append _ _

/-- Writing the first field into a buffer starts a layout. -/
theorem laidOut_first (length : buffer.length = size) (bytes : List UInt8)
    (fits : bytes.length ≤ size) : LaidOut size (overwrite buffer 0 bytes) bytes :=
  LaidOut.overwrite ⟨length, nil_prefix⟩ rfl (by simpa using fits)

/-- A buffer that is laid out completely is its fields. -/
theorem LaidOut.eq_of_full (laidOut : LaidOut size buffer written) (full : written.length = size) :
    buffer = written :=
  (laidOut.starts.eq_of_length (full.trans laidOut.length_eq.symm)).symm

theorem LaidOut.take_eq (laidOut : LaidOut size buffer written) :
    buffer.take written.length = written :=
  (prefix_iff_eq_take.mp laidOut.starts).symm

end SensorSystem.Base
