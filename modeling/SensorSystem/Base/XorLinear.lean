import Mathlib.Data.Nat.Bitwise
import Mathlib.Data.List.Zip
import Mathlib.Tactic.Ring

/-! A checksum register takes in a byte at a time: the byte is added to the register by exclusive
or, and the register is moved on by a linear map. The difference of two registers then depends on
nothing but the difference of what they took in. -/

namespace SensorSystem.Base

/-- A map of registers that exclusive or passes through. -/
def XorLinear (move : UInt32 → UInt32) : Prop :=
  ∀ one other, move (one ^^^ other) = move one ^^^ move other

/-- A byte comes in. -/
def absorb (move : UInt32 → UInt32) (register : UInt32) (byte : UInt8) : UInt32 :=
  move (register ^^^ byte.toUInt32)

theorem XorLinear.comp {first second : UInt32 → UInt32} (outer : XorLinear first)
    (inner : XorLinear second) : XorLinear (fun register => first (second register)) := by
  intro one other
  change first (second (one ^^^ other)) = first (second one) ^^^ first (second other)
  rw [inner, outer]

theorem XorLinear.repeat {move : UInt32 → UInt32} (linear : XorLinear move) (rounds : Nat) :
    XorLinear (Nat.repeat move rounds) := by
  induction rounds with
  | zero => exact fun _ _ => rfl
  | succ rounds ih => exact linear.comp ih

/-- Two registers take in bytes of one length each. -/
theorem XorLinear.foldl_absorb {move : UInt32 → UInt32} (linear : XorLinear move)
    (one other : List UInt8) (same : one.length = other.length) (first second : UInt32) :
    one.foldl (absorb move) first ^^^ other.foldl (absorb move) second =
      (List.zipWith (· ^^^ ·) one other).foldl (absorb move) (first ^^^ second) := by
  induction one generalizing other first second with
  | nil =>
    cases other with
    | nil => rfl
    | cons byte rest => cases same
  | cons byte rest ih =>
    cases other with
    | nil => cases same
    | cons second_byte more =>
      simp only [List.foldl_cons, List.zipWith_cons_cons]
      rw [ih more (Nat.succ.inj same), absorb, absorb, absorb, ← linear]
      congr 2
      rw [UInt8.toUInt32_xor]
      ac_rfl

/-- Behind the same bytes only what follows differs. -/
theorem XorLinear.foldl_absorb_append {move : UInt32 → UInt32} (linear : XorLinear move)
    (front one other : List UInt8) (same : one.length = other.length) (start : UInt32) :
    (front ++ one).foldl (absorb move) start ^^^ (front ++ other).foldl (absorb move) start =
      (List.zipWith (· ^^^ ·) one other).foldl (absorb move) 0 := by
  rw [List.foldl_append, List.foldl_append, linear.foldl_absorb one other same, UInt32.xor_self]

/-- The same low bits, exactly if their difference has none. -/
theorem mod_two_pow_eq_iff (one other : UInt32) (bits : Nat) :
    one.toNat % 2 ^ bits = other.toNat % 2 ^ bits ↔
      (one ^^^ other).toNat % 2 ^ bits = 0 := by
  rw [UInt32.toNat_xor, Nat.xor_mod_two_pow, Nat.xor_eq_zero_iff]

end SensorSystem.Base

/-! A checksum register that takes in its bytes can as well take in their bits one after another,
the low bit of a byte first. From an empty register the bits of a burst that is not longer than
the register stand in it as one word, and no round takes a word to zero that is not zero. -/

namespace SensorSystem.Base

open List

variable (byte : UInt8)

def bitsOf : List Bool := (range 8).map byte.toNat.testBit

/-- The bits of a byte string in the order of their transmission. -/
def transmitted (bytes : List UInt8) : List Bool := bytes.flatMap bitsOf

def bitsValue : List Bool → Nat
  | [] => 0
  | bit :: bits => bit.toNat + 2 * bitsValue bits

@[simp] theorem length_bitsOf : (bitsOf byte).length = 8 := rfl

theorem bitsValue_bitsOf : bitsValue (bitsOf byte) = byte.toNat := by
  have all : ∀ value < 256, bitsValue ((range 8).map value.testBit) = value := by
    decide +kernel
  exact all byte.toNat byte.toNat_lt

theorem bitsValue_lt (bits : List Bool) : bitsValue bits < 2 ^ bits.length := by
  induction bits with
  | nil => exact Nat.one_pos
  | cons bit bits ih =>
    have small := bit.toNat_lt
    rw [bitsValue, length_cons, Nat.pow_succ]
    omega

theorem bitsValue_ne_zero {bits : List Bool} (set : true ∈ bits) : bitsValue bits ≠ 0 := by
  induction bits with
  | nil => cases set
  | cons bit bits ih =>
    rw [bitsValue]
    rcases mem_cons.mp set with rfl | later
    · rw [Bool.toNat_true]
      omega
    · have rest := ih later
      omega

/-- A linear map that takes no word but zero to zero. -/
structure ShiftRegister (move : UInt32 → UInt32) : Prop where
  linear : XorLinear move
  shifts : ∀ value < 2 ^ 31, move (UInt32.ofNat (2 * value)) = UInt32.ofNat value
  kernel : ∀ register, move register = 0 → register = 0

/-- The register takes in one bit. -/
def feedBit (move : UInt32 → UInt32) (register : UInt32) (bit : Bool) : UInt32 :=
  move (register ^^^ UInt32.ofNat bit.toNat)

theorem repeat_move (move : UInt32 → UInt32) (rounds : Nat) (register : UInt32) :
    Nat.repeat move rounds (move register) = move (Nat.repeat move rounds register) := by
  induction rounds with
  | zero => rfl
  | succ rounds ih => exact congrArg move ih

theorem ofNat_bit_add (bit : Bool) (value : Nat) :
    UInt32.ofNat (bit.toNat + 2 * value) = UInt32.ofNat bit.toNat ^^^ UInt32.ofNat (2 * value) := by
  have joined : bit.toNat + 2 * value = bit.toNat ^^^ 2 * value := by
    apply Nat.eq_of_testBit_eq
    intro index
    cases index with
    | zero => cases bit <;> simp [Nat.testBit_zero]
    | succ index =>
      have small := bit.toNat_lt
      have sum : (bit.toNat + 2 * value) / 2 = value := by omega
      have low : bit.toNat / 2 = 0 := by omega
      have high : 2 * value / 2 = value := by omega
      rw [Nat.testBit_xor, Nat.testBit_succ, Nat.testBit_succ, Nat.testBit_succ, sum, low, high,
        Nat.zero_testBit, Bool.false_xor]
  rw [joined, UInt32.ofNat_xor]

namespace ShiftRegister

variable {move : UInt32 → UInt32} (shift : ShiftRegister move)

include shift

theorem zero : move 0 = 0 := shift.shifts 0 (by decide)

/-- A few bits come in as one word. -/
theorem foldl_feedBit (bits : List Bool) (short : bits.length ≤ 32) (register : UInt32) :
    bits.foldl (feedBit move) register =
      Nat.repeat move bits.length (register ^^^ UInt32.ofNat (bitsValue bits)) := by
  induction bits generalizing register with
  | nil => exact (UInt32.xor_zero).symm
  | cons bit bits ih =>
    rw [length_cons] at short
    have below : bitsValue bits < 2 ^ 31 :=
      Nat.lt_of_lt_of_le (bitsValue_lt bits) (Nat.pow_le_pow_right (by decide) (by omega))
    have moved : move (register ^^^ UInt32.ofNat (bitsValue (bit :: bits))) =
        feedBit move register bit ^^^ UInt32.ofNat (bitsValue bits) := by
      rw [bitsValue, ofNat_bit_add, ← UInt32.xor_assoc, shift.linear, shift.shifts _ below]
      rfl
    rw [foldl_cons, ih (by omega), ← moved, repeat_move]
    rfl

/-- Taking in bytes is taking in their bits. -/
theorem foldl_absorb (bytes : List UInt8) (register : UInt32) :
    bytes.foldl (absorb (Nat.repeat move 8)) register =
      (transmitted bytes).foldl (feedBit move) register := by
  induction bytes generalizing register with
  | nil => rfl
  | cons byte bytes ih =>
    have word : UInt32.ofNat byte.toNat = byte.toUInt32 :=
      UInt32.toNat_inj.mp (by
        rw [UInt8.toNat_toUInt32]
        exact UInt32.toNat_ofNat_of_lt' (Nat.lt_trans byte.toNat_lt (by decide)))
    rw [foldl_cons, ih, transmitted, transmitted, flatMap_cons, foldl_append,
      shift.foldl_feedBit (bitsOf byte) (length_bitsOf byte ▸ by decide), bitsValue_bitsOf, word]
    rfl

theorem repeat_ne_zero (rounds : Nat) {register : UInt32} (filled : register ≠ 0) :
    Nat.repeat move rounds register ≠ 0 := by
  induction rounds with
  | zero => exact filled
  | succ rounds ih => exact fun empty => ih (shift.kernel _ empty)

omit shift

/-- Clear bits only move the register. -/
theorem foldl_clear {bits : List Bool} (clear : true ∉ bits) (register : UInt32) :
    bits.foldl (feedBit move) register = Nat.repeat move bits.length register := by
  induction bits generalizing register with
  | nil => rfl
  | cons bit bits ih =>
    have low : true ≠ bit := fun on => clear (mem_cons.mpr (.inl on))
    have rest : true ∉ bits := fun on => clear (mem_cons_of_mem bit on)
    have off : bit = false := Bool.eq_false_iff.mpr fun on => low on.symm
    have step : feedBit move register bit = move register := by
      rw [off]
      exact congrArg move UInt32.xor_zero
    rw [foldl_cons, step, ih rest, repeat_move]
    rfl

theorem repeat_zero (shift : ShiftRegister move) (rounds : Nat) : Nat.repeat move rounds 0 = 0 := by
  induction rounds with
  | zero => rfl
  | succ rounds ih => exact (congrArg move ih).trans shift.zero

/-- A burst that fits the register stays in it. -/
theorem burst_ne_zero (shift : ShiftRegister move) {front burst back : List Bool}
    (before : true ∉ front) (short : burst.length ≤ 32) (set : true ∈ burst)
    (behind : true ∉ back) : (front ++ burst ++ back).foldl (feedBit move) 0 ≠ 0 := by
  rw [foldl_append, foldl_append, foldl_clear before, shift.repeat_zero,
    shift.foldl_feedBit burst short, foldl_clear behind, UInt32.zero_xor]
  refine shift.repeat_ne_zero _ (shift.repeat_ne_zero _ fun empty => ?_)
  have below : bitsValue burst < 2 ^ 32 :=
    Nat.lt_of_lt_of_le (bitsValue_lt burst) (Nat.pow_le_pow_right (by decide) short)
  have same := congrArg UInt32.toNat empty
  rw [UInt32.toNat_ofNat_of_lt' below] at same
  exact bitsValue_ne_zero set same

end ShiftRegister

/-- Some bits of an error are set, all of them among 32 that follow each other. -/
structure Burst (error : List UInt8) : Prop where
  some : true ∈ transmitted error
  confined : ∃ start, ∀ place, (transmitted error)[place]? = .some true →
    start ≤ place ∧ place < start + 32

/-- The bits outside of a window of 32 are clear. -/
theorem Burst.split {error : List UInt8} (burst : Burst error) : ∃ front middle back,
    transmitted error = front ++ middle ++ back ∧ true ∉ front ∧ middle.length ≤ 32 ∧
      true ∈ middle ∧ true ∉ back := by
  obtain ⟨start, confined⟩ := burst.confined
  have whole : transmitted error = (transmitted error).take start ++
      ((transmitted error).drop start).take 32 ++ ((transmitted error).drop start).drop 32 := by
    rw [append_assoc, take_append_drop, take_append_drop]
  have front : true ∉ (transmitted error).take start := by
    intro member
    obtain ⟨place, found⟩ := mem_iff_getElem?.mp member
    rw [getElem?_take] at found
    split at found
    · have inside := confined place found
      omega
    · cases found
  have back : true ∉ ((transmitted error).drop start).drop 32 := by
    intro member
    obtain ⟨place, found⟩ := mem_iff_getElem?.mp member
    rw [getElem?_drop, getElem?_drop] at found
    have inside := confined _ found
    omega
  refine ⟨_, _, _, whole, front, length_take_le .., ?_, back⟩
  have member := burst.some
  rw [whole] at member
  rcases mem_append.mp member with member | member
  · exact (mem_append.mp member).resolve_left front
  · exact absurd member back

/-- A burst changes the register behind any bytes. -/
theorem ShiftRegister.detects {move : UInt32 → UInt32} (shift : ShiftRegister move)
    {bytes error : List UInt8} (same : error.length = bytes.length) (burst : Burst error)
    (start : UInt32) :
    (zipWith (· ^^^ ·) bytes error).foldl (absorb (Nat.repeat move 8)) start ≠
      bytes.foldl (absorb (Nat.repeat move 8)) start := by
  intro equal
  have linear : XorLinear (Nat.repeat move 8) := shift.linear.repeat 8
  have length : (zipWith (· ^^^ ·) bytes error).length = bytes.length := by
    rw [length_zipWith, same, Nat.min_self]
  have difference := linear.foldl_absorb (zipWith (· ^^^ ·) bytes error) bytes length start
    start
  have only : zipWith (· ^^^ ·) (zipWith (· ^^^ ·) bytes error) bytes = error := by
    clear equal difference length burst
    induction bytes generalizing error with
    | nil => exact (length_eq_zero_iff.mp same).symm
    | cons byte bytes ih =>
      cases error with
      | nil => cases same
      | cons flip error =>
        rw [zipWith_cons_cons, zipWith_cons_cons, ih (Nat.succ.inj same),
          UInt8.xor_comm byte, UInt8.xor_assoc, UInt8.xor_self, UInt8.xor_zero]
  rw [equal, UInt32.xor_self, UInt32.xor_self, only, shift.foldl_absorb] at difference
  obtain ⟨front, middle, back, split, before, short, set, behind⟩ := burst.split
  rw [split] at difference
  exact shift.burst_ne_zero before short set behind difference.symm

end SensorSystem.Base
