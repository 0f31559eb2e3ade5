import SensorSystem.Base.Bytes

/-! Serialization by shifting a value right byte by byte, and reassembly by shifting bytes left
and joining them with `or`, agree with the little-endian spelling. -/

namespace SensorSystem.Base

open List

/-- The low bytes of a value, each taken after a right shift. -/
def shiftBytes (count value : Nat) : List UInt8 :=
  (range count).map fun index => UInt8.ofNat (value >>> (8 * index))

/-- Join bytes into a word; a left shift drops the bits that leave it. -/
def orBytes (width : Nat) : Nat → List UInt8 → Nat → Nat
  | _, [], value => value
  | shift, byte :: bytes, value =>
    orBytes width (shift + 8) bytes (value ||| (byte.toNat <<< shift) % 2 ^ width)

theorem shiftBytes_eq_leBytes (count value : Nat) :
    shiftBytes count value = leBytes count value := by
  induction count generalizing value with
  | zero => rfl
  | succ count ih =>
    have tail : ∀ index, value >>> (8 * (index + 1)) = (value / 256) >>> (8 * index) := by
      intro index
      have split : 8 * (index + 1) = 8 + 8 * index := by omega
      rw [split, Nat.shiftRight_add, Nat.shiftRight_eq_div_pow value 8]
    rw [leBytes, ← ih, shiftBytes, shiftBytes, range_succ_eq_map, map_cons, map_map]
    congr 1
    apply map_congr_left
    intro index _
    simp only [Function.comp, Nat.succ_eq_add_one, tail]

variable {width : Nat}

/-- A byte shifted above the bits of a value is added to it. -/
theorem or_shiftLeft_eq_add {shift value : Nat} (byte : UInt8) (bounded : value < 2 ^ shift)
    (inside : shift + 8 ≤ width) :
    value ||| (byte.toNat <<< shift) % 2 ^ width = value + byte.toNat * 2 ^ shift ∧
      value + byte.toNat * 2 ^ shift < 2 ^ (shift + 8) := by
  have small := byte.toNat_lt
  have widened : value + byte.toNat * 2 ^ shift < 2 ^ (shift + 8) := by
    have room : (byte.toNat + 1) * 2 ^ shift ≤ 2 ^ 8 * 2 ^ shift := Nat.mul_le_mul_right _ small
    rw [Nat.add_mul, Nat.one_mul] at room
    rw [Nat.pow_add, Nat.mul_comm (2 ^ shift)]
    omega
  have kept : byte.toNat <<< shift < 2 ^ width := by
    have room : 2 ^ (shift + 8) ≤ 2 ^ width := Nat.pow_le_pow_right (by decide) inside
    rw [Nat.shiftLeft_eq]
    omega
  refine ⟨?_, widened⟩
  rw [Nat.mod_eq_of_lt kept, Nat.or_comm, ← Nat.shiftLeft_add_eq_or_of_lt bounded, Nat.shiftLeft_eq,
    Nat.add_comm]

theorem orBytes_eq (shift : Nat) (bytes : List UInt8) (value : Nat) (bounded : value < 2 ^ shift)
    (inside : shift + 8 * bytes.length ≤ width) :
    orBytes width shift bytes value = value + 2 ^ shift * leValue bytes := by
  induction bytes generalizing shift value with
  | nil => simp [orBytes, leValue]
  | cons byte bytes ih =>
    rw [length_cons] at inside
    obtain ⟨joined, widened⟩ :=
      or_shiftLeft_eq_add byte bounded (show shift + 8 ≤ width by omega)
    calc orBytes width shift (byte :: bytes) value
        = orBytes width (shift + 8) bytes (value + byte.toNat * 2 ^ shift) := by
          rw [orBytes, joined]
      _ = value + byte.toNat * 2 ^ shift + 2 ^ shift * 256 * leValue bytes := by
          rw [ih _ _ widened (by omega), Nat.pow_add]
      _ = value + 2 ^ shift * leValue (byte :: bytes) := by
          rw [leValue, Nat.mul_add, Nat.mul_comm byte.toNat, Nat.mul_assoc, Nat.add_assoc]

/-- Bytes that fit a word join to the number they spell. -/
theorem orBytes_zero (bytes : List UInt8) (inside : 8 * bytes.length ≤ width) :
    orBytes width 0 bytes 0 = leValue bytes := by
  rw [orBytes_eq 0 bytes 0 (by decide) (by omega)]
  simp

theorem length_slice_le (bytes : List UInt8) (offset count : Nat) :
    (slice bytes offset count).length ≤ count := by
  rw [slice, length_take]
  omega

end SensorSystem.Base
