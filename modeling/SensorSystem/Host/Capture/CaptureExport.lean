import SensorSystem.Host.Capture.CaptureManifest
import Mathlib.Tactic.Ring

/-! `capture_export.rs`: the device time the export writes for one sample of a chunk. -/

namespace SensorSystem.Host

inductive CaptureExportError where
  | io (kind : IoErrorKind)
  | json
  | segment (error : CaptureSegmentError)
  | wal (error : CaptureWalError)
  | outputExists
  | noWindows
  | invalidWindowName
  | nonConsecutiveWindows
  | invalidTiming
  | counterOverflow
deriving DecidableEq

/-- The line through the device times of the first and the last sample, in `u128` with its checks.
-/
def interpolateDeviceTime (first last : UInt64) (count index : Nat) :
    Except CaptureExportError UInt64 :=
  if count = 0 ∨ index ≥ count ∨ last < first then .error .invalidTiming
  else if count = 1 then
    if index = 0 ∧ first = last then .ok first else .error .invalidTiming
  else
    let numerator := (last - first).toNat * index
    let denominator := count - 1
    if numerator ≥ 2 ^ 128 then .error .counterOverflow
    else if numerator + denominator / 2 ≥ 2 ^ 128 then .error .counterOverflow
    else
      let offset := (numerator + denominator / 2) / denominator
      if offset ≥ 2 ^ 64 then .error .counterOverflow
      else match checkedAdd first (UInt64.ofNat offset) with
        | some time => .ok time
        | none => .error .counterOverflow

/-- The rounded share of the span that falls on an index. -/
def spanShare (span intervals index : Nat) : Nat := (span * index + intervals / 2) / intervals

variable {intervals : Nat}

theorem spanShare_zero (positive : 0 < intervals) (span : Nat) :
    spanShare span intervals 0 = 0 := by
  rw [spanShare, Nat.mul_zero, Nat.zero_add]
  exact Nat.div_eq_of_lt (Nat.div_lt_self positive (by decide))

theorem spanShare_last (positive : 0 < intervals) (span : Nat) :
    spanShare span intervals intervals = span := by
  have half : intervals / 2 < intervals := Nat.div_lt_self positive (by decide)
  rw [spanShare, Nat.add_comm, Nat.add_mul_div_right _ _ positive, Nat.div_eq_of_lt half,
    Nat.zero_add]

theorem spanShare_mono (span intervals : Nat) {earlier later : Nat} (le : earlier ≤ later) :
    spanShare span intervals earlier ≤ spanShare span intervals later :=
  Nat.div_le_div_right (Nat.add_le_add_right (Nat.mul_le_mul_left span le) _)

theorem spanShare_le {index : Nat} (positive : 0 < intervals) (inside : index ≤ intervals)
    (span : Nat) : spanShare span intervals index ≤ span :=
  calc spanShare span intervals index
      ≤ spanShare span intervals intervals := spanShare_mono span intervals inside
    _ = span := spanShare_last positive span

/-- Whole steps and the scaled rest add up to the same share. -/
theorem spanShare_eq_steps (positive : 0 < intervals) (span index : Nat) :
    spanShare span intervals index =
      span / intervals * index + (span % intervals * index + intervals / 2) / intervals := by
  have whole : span * index + intervals / 2 =
      (span % intervals * index + intervals / 2) + span / intervals * index * intervals := by
    calc span * index + intervals / 2
        = (intervals * (span / intervals) + span % intervals) * index + intervals / 2 := by
          rw [Nat.div_add_mod]
      _ = _ := by ring
  rw [spanShare, whole, Nat.add_mul_div_right _ _ positive, Nat.add_comm]

/-- The interpolation is the share of the span. -/
theorem interpolateDeviceTime_spec {first last : UInt64} {count index : Nat}
    (ordered : first ≤ last) (inside : index < count) (several : count ≠ 1)
    (fits : count ≤ 2 ^ 63) : ∃ time, interpolateDeviceTime first last count index = .ok time ∧
      time.toNat = first.toNat + spanShare (last.toNat - first.toNat) (count - 1) index := by
  have le : first.toNat ≤ last.toNat := UInt64.le_iff_toNat_le.mp ordered
  have bound : last.toNat < 2 ^ 64 := last.toNat_lt
  have share := spanShare_le (show 0 < count - 1 by omega) (show index ≤ count - 1 by omega)
    (last.toNat - first.toNat)
  have product : (last.toNat - first.toNat) * index ≤ (2 ^ 64 - 1) * 2 ^ 63 :=
    Nat.mul_le_mul (by omega) (by omega)
  have span : (last - first).toNat = last.toNat - first.toNat :=
    UInt64.toNat_sub_of_le _ _ ordered
  have offset : (UInt64.ofNat (spanShare (last.toNat - first.toNat) (count - 1) index)).toNat =
      spanShare (last.toNat - first.toNat) (count - 1) index :=
    UInt64.toNat_ofNat_of_lt' (show _ < 2 ^ 64 by omega)
  have sum : checkedAdd first
      (UInt64.ofNat (spanShare (last.toNat - first.toNat) (count - 1) index)) =
      some (first + UInt64.ofNat (spanShare (last.toNat - first.toNat) (count - 1) index)) := by
    rw [checkedAdd_eq_some, UInt64.toNat_add, offset, Nat.mod_eq_of_lt (by omega)]
  have folded : ((last.toNat - first.toNat) * index + (count - 1) / 2) / (count - 1) =
      spanShare (last.toNat - first.toNat) (count - 1) index := rfl
  refine ⟨first + UInt64.ofNat (spanShare (last.toNat - first.toNat) (count - 1) index), ?_, ?_⟩
  · unfold interpolateDeviceTime
    rw [if_neg (by
      rintro (empty | behind | reversed)
      · omega
      · omega
      · exact absurd reversed (UInt64.not_lt.mpr ordered)), if_neg several]
    simp only [span]
    rw [if_neg (by omega), if_neg (by omega), folded, if_neg (by omega), sum]
  · rw [UInt64.toNat_add, offset, Nat.mod_eq_of_lt (by omega)]

end SensorSystem.Host
