import SensorSystem.Host.Protocol.ControlWire
import SensorSystem.Host.Protocol.FramingChecksum
import SensorSystem.System.FramingAgreement

/-! `commissioning_slot` of the node and of the host. A node that has no address answers in the
slot that a checksum of the nonce of the round and of its hardware id names. The checksum is
linear, so the nonce moves all nodes of a round together: whether two of them share a slot is up
to their ids alone. -/

namespace SensorSystem.Node.Commissioning

open Base

def maxCommissioningSlots : UInt16 := 256

def validSlotCount (count : UInt16) : Bool :=
  count ≠ 0 && count ≤ maxCommissioningSlots && count &&& (count - 1) = 0

/-- `write_u64`. -/
def writeU64 (value : UInt64) : List UInt8 := shiftBytes 8 value.toNat

variable (hardwareId : Option (Vector UInt8 8))

/-- `commissioning_slot`; no id is a null pointer. -/
def commissioningSlot (roundNonce : UInt64) (slotCount : UInt16) : UInt16 :=
  match hardwareId with
  | none => 0xFFFF
  | some hardwareId =>
    if roundNonce = 0 ∨ ¬ validSlotCount slotCount then 0xFFFF
    else
      let key := writeU64 roundNonce ++ hardwareId.toList
      (Framing.crc32c key % slotCount.toUInt32).toUInt16

end SensorSystem.Node.Commissioning

namespace SensorSystem.Host

open Base

def commissioningSlot (hardwareId : HardwareId) (roundNonce : UInt64) (slotCount : UInt16) :
    Except CommissioningWireError UInt16 := do
  let _ ← ProbeSlotRequest.validate ⟨roundNonce, slotCount, 0⟩
  let key := u64Bytes roundNonce ++ hardwareId.toList
  .ok (Framing.crc32c key % slotCount.toUInt32).toUInt16

end SensorSystem.Host

namespace SensorSystem.System

open Base Host
open Host.Framing (crc32c crc32cByte xorLinear_rounds)

/-- The part of the checksum of two ids that no nonce changes. -/
def idDifference (one other : HardwareId) : UInt32 :=
  (List.zipWith (· ^^^ ·) one.toList other.toList).foldl crc32cByte 0

theorem crc32c_xor_crc32c (front : List UInt8) (one other : HardwareId) :
    crc32c (front ++ one.toList) ^^^ crc32c (front ++ other.toList) = idDifference one other := by
  have difference := xorLinear_rounds.foldl_absorb_append front one.toList other.toList
    (by simp) 0xffffffff
  rw [crc32c, crc32c, UInt32.not_xor, UInt32.xor_not, UInt32.not_not]
  exact difference

/-- A valid number of slots is a power of two. -/
theorem exists_two_pow {count : UInt16} (valid : Node.Commissioning.validSlotCount count = true) :
    ∃ bits, count.toNat = 2 ^ bits := by
  have all : ∀ number < 257, Node.Commissioning.validSlotCount (UInt16.ofNat number) = true →
      ∃ bits < 9, (UInt16.ofNat number).toNat = 2 ^ bits := by decide +kernel
  have bound : count.toNat < 257 := by
    simp only [Node.Commissioning.validSlotCount, Bool.and_eq_true, decide_eq_true_eq] at valid
    exact Nat.lt_succ_of_le (UInt16.le_iff_toNat_le.mp valid.1.2)
  have found := all count.toNat bound
  rw [UInt16.ofNat_toNat] at found
  obtain ⟨bits, -, power⟩ := found valid
  exact ⟨bits, power⟩

theorem writeU64_eq_u64Bytes (value : UInt64) :
    Node.Commissioning.writeU64 value = u64Bytes value :=
  shiftBytes_eq_leBytes 8 value.toNat

section Slots

variable {count : UInt16} {nonce : UInt64} (valid : Node.Commissioning.validSlotCount count = true)
  (fresh : nonce ≠ 0)

include valid fresh

theorem node_commissioningSlot_eq (hardwareId : HardwareId) :
    Node.Commissioning.commissioningSlot (some hardwareId) nonce count =
      (crc32c (u64Bytes nonce ++ hardwareId.toList) % count.toUInt32).toUInt16 := by
  have passes : ¬ (nonce = 0 ∨ ¬ Node.Commissioning.validSlotCount count = true) :=
    fun refused => refused.elim fresh (fun invalid => invalid valid)
  simp only [Node.Commissioning.commissioningSlot, if_neg passes, writeU64_eq_u64Bytes]
  rfl

/-- The two implementations name the same slot. -/
theorem host_commissioningSlot_eq (hardwareId : HardwareId) :
    Host.commissioningSlot hardwareId nonce count =
      .ok (Node.Commissioning.commissioningSlot (some hardwareId) nonce count) := by
  rw [node_commissioningSlot_eq valid fresh]
  simp only [Node.Commissioning.validSlotCount, Bool.and_eq_true, decide_eq_true_eq] at valid
  obtain ⟨⟨some, bounded⟩, power⟩ := valid
  have passes : ¬ (count = 0 ∨ count > maxCommissioningSlots ∨ count &&& (count - 1) ≠ 0) := by
    rintro (none | large | odd)
    · exact some none
    · exact UInt16.not_lt.mpr bounded large
    · exact odd power
  have below : ¬ (0 : UInt16) ≥ count := fun least =>
    some (UInt16.le_antisymm least (UInt16.zero_le))
  simp only [Host.commissioningSlot, ProbeSlotRequest.validate, if_neg fresh, if_neg passes,
    if_neg below]
  rfl

theorem commissioningSlot_eq_iff (one other : HardwareId) :
    Node.Commissioning.commissioningSlot (some one) nonce count =
      Node.Commissioning.commissioningSlot (some other) nonce count ↔
    (idDifference one other).toNat % count.toNat = 0 := by
  obtain ⟨bits, power⟩ := exists_two_pow valid
  have small := count.toNat_lt
  have positive : 0 < count.toNat := by
    rw [power]
    exact Nat.two_pow_pos bits
  rw [node_commissioningSlot_eq valid fresh, node_commissioningSlot_eq valid fresh,
    ← UInt16.toNat_inj]
  have slot : ∀ value : UInt32, (value % count.toUInt32).toUInt16.toNat =
      value.toNat % count.toNat := by
    intro value
    rw [UInt32.toNat_toUInt16, UInt32.toNat_mod, UInt16.toNat_toUInt32]
    exact Nat.mod_eq_of_lt (Nat.lt_trans (Nat.mod_lt _ positive) small)
  rw [slot, slot, power, mod_two_pow_eq_iff, crc32c_xor_crc32c]

omit fresh valid

end Slots

/-- A round can separate two ids exactly if their difference leaves a remainder, whatever
its nonce; and node and host agree on every slot. -/
theorem rounds_separate_iff (one other : HardwareId) (count : UInt16)
    (valid : Node.Commissioning.validSlotCount count = true) :
    ((∃ nonce, nonce ≠ 0 ∧ Node.Commissioning.commissioningSlot (some one) nonce count ≠
        Node.Commissioning.commissioningSlot (some other) nonce count) ∧
      ∀ hardwareId nonce, nonce ≠ 0 → Host.commissioningSlot hardwareId nonce count =
        .ok (Node.Commissioning.commissioningSlot (some hardwareId) nonce count)) ↔
    (idDifference one other).toNat % count.toNat ≠ 0 := by
  constructor
  · rintro ⟨⟨nonce, fresh, apart⟩, -⟩ none
    exact apart ((commissioningSlot_eq_iff valid fresh one other).mpr none)
  intro differ
  refine ⟨⟨1, by decide, fun same => differ ?_⟩, fun hardwareId nonce fresh => ?_⟩
  · exact (commissioningSlot_eq_iff valid (by decide) one other).mp same
  · exact host_commissioningSlot_eq valid fresh hardwareId

/-- An id that differs from others in its first byte. -/
def idOf (first : UInt8) : HardwareId := #v[first, 0, 0, 0, 0, 0, 0, 0]

theorem rounds_separate_neighbours :
    ∃ nonce, nonce ≠ 0 ∧ Node.Commissioning.commissioningSlot (some (idOf 0)) nonce 16 ≠
      Node.Commissioning.commissioningSlot (some (idOf 1)) nonce 16 :=
  ((rounds_separate_iff (idOf 0) (idOf 1) 16 (by decide)).mpr (by decide +kernel)).1

/-- Two ids that no round separates, with the most slots there are. -/
theorem rounds_never_separate : idOf 0 ≠ idOf 169 ∧ Node.Commissioning.validSlotCount 256 = true ∧
    ¬ ∃ nonce, nonce ≠ 0 ∧ Node.Commissioning.commissioningSlot (some (idOf 0)) nonce 256 ≠
      Node.Commissioning.commissioningSlot (some (idOf 169)) nonce 256 := by
  refine ⟨by decide, by decide, ?_⟩
  rintro ⟨nonce, fresh, apart⟩
  exact apart ((commissioningSlot_eq_iff (by decide) fresh (idOf 0) (idOf 169)).mpr
    (by decide +kernel))

end SensorSystem.System
