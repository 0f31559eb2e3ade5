import SensorSystem.Base.XorLinear
import SensorSystem.Host.Protocol.Framing

/-! `crc32c` is a register that is moved right eight times for each byte. The feedback sets the
high bit exactly when the bit that falls out is set, so no round loses anything. -/

namespace SensorSystem.Host.Framing

open Base

theorem and_one_cases (value : UInt32) : value &&& 1 = 0 ∨ value &&& 1 = 1 := by
  have bound : (value &&& 1).toNat < 2 := by
    rw [UInt32.toNat_and]
    exact Nat.lt_of_le_of_lt Nat.and_le_right (by decide)
  have cases : (value &&& 1).toNat = 0 ∨ (value &&& 1).toNat = 1 := by omega
  exact cases.imp UInt32.toNat_inj.mp UInt32.toNat_inj.mp

theorem and_xor_distrib (mask one other : UInt32) :
    mask &&& (one ^^^ other) = (mask &&& one) ^^^ (mask &&& other) := by
  refine UInt32.eq_of_toBitVec_eq (BitVec.eq_of_getLsbD_eq fun index _ => ?_)
  simp only [UInt32.toBitVec_and, UInt32.toBitVec_xor, BitVec.getLsbD_and, BitVec.getLsbD_xor]
  exact Bool.and_xor_distrib_left _ _ _

/-- The round of the checksum is linear: its mask is. -/
theorem xorLinear_crc32cRound : XorLinear crc32cRound := by
  have mask : ∀ one other : UInt32, (0 : UInt32) - ((one ^^^ other) &&& 1) =
      (0 - (one &&& 1)) ^^^ (0 - (other &&& 1)) := by
    intro one other
    rw [UInt32.and_comm, and_xor_distrib, UInt32.and_comm 1 one, UInt32.and_comm 1 other]
    rcases and_one_cases one with first | first <;> rcases and_one_cases other with second | second
    all_goals
      rw [first, second]
      decide
  intro one other
  simp only [crc32cRound, mask, UInt32.shiftRight_xor, and_xor_distrib]
  ac_rfl

theorem xorLinear_rounds : XorLinear (Nat.repeat crc32cRound 8) :=
  xorLinear_crc32cRound.repeat 8

/-- A round by the bit that falls out. -/
theorem crc32cRound_cases (crc : UInt32) :
    (crc.toNat % 2 = 0 ∧ (crc32cRound crc).toNat = crc.toNat / 2) ∨
      (crc.toNat % 2 = 1 ∧ (crc32cRound crc).toNat = crc.toNat / 2 ^^^ 0x82f63b78) := by
  have low : (crc &&& 1).toNat = crc.toNat % 2 := by
    rw [UInt32.toNat_and, UInt32.toNat_one, Nat.and_one_is_mod]
  have moved : (crc >>> 1).toNat = crc.toNat / 2 := by
    rw [UInt32.toNat_shiftRight]
    exact Nat.shiftRight_eq_div_pow _ 1
  rcases and_one_cases crc with clear | set
  · refine .inl ⟨by rw [← low, clear]; rfl, ?_⟩
    rw [crc32cRound, clear]
    exact (congrArg UInt32.toNat UInt32.xor_zero).trans moved
  · refine .inr ⟨by rw [← low, set]; rfl, ?_⟩
    rw [crc32cRound, set, UInt32.toNat_xor, moved]
    rfl

theorem shiftRegister_crc32cRound : ShiftRegister crc32cRound where
  linear := xorLinear_crc32cRound
  shifts value small := by
    have double : (UInt32.ofNat (2 * value)).toNat = 2 * value :=
      UInt32.toNat_ofNat_of_lt' (show 2 * value < 2 ^ 32 by omega)
    have single : (UInt32.ofNat value).toNat = value :=
      UInt32.toNat_ofNat_of_lt' (show value < 2 ^ 32 by omega)
    apply UInt32.toNat_inj.mp
    rw [single]
    rcases crc32cRound_cases (UInt32.ofNat (2 * value)) with ⟨-, moved⟩ | ⟨odd, -⟩
    · rw [moved, double]
      omega
    · rw [double] at odd
      omega
  kernel register empty := by
    apply UInt32.toNat_inj.mp
    have zero : (crc32cRound register).toNat = 0 := congrArg UInt32.toNat empty
    rcases crc32cRound_cases register with ⟨even, moved⟩ | ⟨-, moved⟩
    · rw [moved] at zero
      rw [UInt32.toNat_zero]
      omega
    -- Half of the register is below the high bit of the feedback.
    have half : register.toNat / 2 = 0x82f63b78 := Nat.xor_eq_zero_iff.mp (moved.symm.trans zero)
    have bound := register.toNat_lt
    omega

/-- Errors that lie within 32 bits in the order of transmission change the checksum. -/
theorem crc32c_detects_burst (bytes error : List UInt8) (same : error.length = bytes.length)
    (burst : Burst error) : crc32c (List.zipWith (· ^^^ ·) bytes error) ≠ crc32c bytes := by
  intro equal
  refine shiftRegister_crc32cRound.detects same burst 0xffffffff ?_
  rw [crc32c, crc32c] at equal
  have registers := congrArg (~~~ ·) equal
  rwa [UInt32.not_not, UInt32.not_not] at registers

/-- An error over the border of two bytes. -/
theorem crc32c_detects_burst_of_two :
    crc32c (List.zipWith (· ^^^ ·) [0x01, 0x02, 0x03] [0x00, 0x80, 0x01]) ≠
      crc32c [0x01, 0x02, 0x03] := by
  have bits : ∀ place < 24, (transmitted [0x00, 0x80, 0x01])[place]? = some true →
      15 ≤ place ∧ place < 15 + 32 := by decide
  refine crc32c_detects_burst _ _ rfl ⟨by decide, 15, fun place set => ?_⟩
  exact bits place (List.getElem?_eq_some_iff.mp set).1 set

end SensorSystem.Host.Framing
