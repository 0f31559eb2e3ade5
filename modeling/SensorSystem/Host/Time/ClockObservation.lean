import SensorSystem.Host.Protocol.ObservationWire

/-! `time.rs`: what one exchange of four timestamps says about the offset of the host clock from
the node clock. -/

namespace SensorSystem.Host

def midpoint (first second : UInt64) : UInt64 := first + (second - first) / 2

/-- `u64::div_ceil`. -/
def divCeilMicros (value divisor : UInt64) : UInt64 :=
  if value % divisor > 0 then value / divisor + 1 else value / divisor

namespace ClockObservation

def hostMidpointUs (observation : ClockObservation) : UInt64 :=
  midpoint observation.hostSendUs observation.hostReceiveUs

def nodeMidpointUs (observation : ClockObservation) : UInt64 :=
  midpoint observation.nodeReceiveUs observation.nodeSendUs

/-- What is left of the round trip without the time spent on the node. -/
def pathDelayUs (observation : ClockObservation) : UInt64 :=
  (observation.hostReceiveUs - observation.hostSendUs) -
    (observation.nodeSendUs - observation.nodeReceiveUs)

def uncertaintyUs (observation : ClockObservation) : UInt64 :=
  divCeilMicros observation.pathDelayUs 2

end ClockObservation

theorem toNat_midpoint {first second : UInt64} (ordered : first ≤ second) :
    (midpoint first second).toNat = (first.toNat + second.toNat) / 2 := by
  have le : first.toNat ≤ second.toNat := UInt64.le_iff_toNat_le.mp ordered
  have half : ((second - first) / 2).toNat = (second.toNat - first.toNat) / 2 := by
    rw [UInt64.toNat_div, UInt64.toNat_sub_of_le _ _ ordered]
    rfl
  have bound : second.toNat < 2 ^ 64 := second.toNat_lt
  rw [midpoint, UInt64.toNat_add, half, Nat.mod_eq_of_lt (by omega)]
  omega

theorem toNat_divCeilMicros (value : UInt64) {divisor : UInt64} (positive : 0 < divisor.toNat) :
    (divCeilMicros value divisor).toNat =
      (value.toNat + (divisor.toNat - 1)) / divisor.toNat := by
  have bound : value.toNat < 2 ^ 64 := value.toNat_lt
  have split := Nat.div_add_mod value.toNat divisor.toNat
  have small := Nat.mod_lt value.toNat positive
  have rest : value % divisor > 0 ↔ 0 < value.toNat % divisor.toNat := by
    rw [gt_iff_lt, UInt64.lt_iff_toNat_lt, UInt64.toNat_mod]
    rfl
  unfold divCeilMicros
  by_cases some : value % divisor > 0
  · have more := rest.mp some
    have half : value.toNat / divisor.toNat * 2 ≤ value.toNat / divisor.toNat * divisor.toNat :=
      Nat.mul_le_mul_left _ (by omega)
    rw [Nat.mul_comm] at split
    rw [if_pos some, UInt64.toNat_add, UInt64.toNat_div, UInt64.toNat_one,
      Nat.mod_eq_of_lt (by omega)]
    refine (Nat.div_eq_of_lt_le ?_ ?_).symm
    · rw [Nat.add_mul]
      omega
    · rw [Nat.add_mul, Nat.add_mul]
      omega
  · have none := rest.not.mp some
    rw [Nat.mul_comm] at split
    rw [if_neg some, UInt64.toNat_div]
    refine (Nat.div_eq_of_lt_le ?_ ?_).symm
    · omega
    · rw [Nat.add_mul]
      omega

namespace ClockObservation

/-- The order of the timestamps that `new` checks. -/
structure Ordered (observation : ClockObservation) : Prop where
  booted : observation.bootEpoch ≠ 0
  host : observation.hostSendUs ≤ observation.hostReceiveUs
  node : observation.nodeReceiveUs ≤ observation.nodeSendUs
  processing : observation.nodeSendUs - observation.nodeReceiveUs ≤
    observation.hostReceiveUs - observation.hostSendUs

variable {bootEpoch : BootEpoch} {hostSendUs nodeReceiveUs nodeSendUs hostReceiveUs : UInt64}
  {observation : ClockObservation}

theorem new_eq_ok :
    ClockObservation.new bootEpoch hostSendUs nodeReceiveUs nodeSendUs hostReceiveUs =
      .ok observation ↔
    observation = ⟨bootEpoch, hostSendUs, nodeReceiveUs, nodeSendUs, hostReceiveUs⟩ ∧
      observation.Ordered := by
  constructor
  · intro accepted
    unfold ClockObservation.new at accepted
    split at accepted
    · cases accepted
    rename_i booted
    split at accepted
    · cases accepted
    rename_i host
    split at accepted
    · cases accepted
    rename_i node
    split at accepted
    · cases accepted
    rename_i processing
    cases accepted
    exact ⟨rfl, booted, UInt64.not_lt.mp host, UInt64.not_lt.mp node,
      UInt64.not_lt.mp processing⟩
  · rintro ⟨rfl, ordered⟩
    unfold ClockObservation.new
    rw [if_neg ordered.booted, if_neg (UInt64.not_lt.mpr ordered.host),
      if_neg (UInt64.not_lt.mpr ordered.node), if_neg (UInt64.not_lt.mpr ordered.processing)]

namespace Ordered

variable (ordered : observation.Ordered)

include ordered

theorem toNat_roundTrip :
    (observation.hostReceiveUs - observation.hostSendUs).toNat + observation.hostSendUs.toNat =
      observation.hostReceiveUs.toNat := by
  have le := UInt64.le_iff_toNat_le.mp ordered.host
  rw [UInt64.toNat_sub_of_le _ _ ordered.host]
  omega

theorem toNat_processing : (observation.nodeSendUs - observation.nodeReceiveUs).toNat +
      observation.nodeReceiveUs.toNat = observation.nodeSendUs.toNat := by
  have le := UInt64.le_iff_toNat_le.mp ordered.node
  rw [UInt64.toNat_sub_of_le _ _ ordered.node]
  omega

theorem toNat_pathDelayUs : observation.pathDelayUs.toNat + observation.hostSendUs.toNat +
        observation.nodeSendUs.toNat =
      observation.hostReceiveUs.toNat + observation.nodeReceiveUs.toNat := by
  have trip := ordered.toNat_roundTrip
  have work := ordered.toNat_processing
  have le := UInt64.le_iff_toNat_le.mp ordered.processing
  rw [pathDelayUs, UInt64.toNat_sub_of_le _ _ ordered.processing]
  omega

theorem toNat_hostMidpointUs : observation.hostMidpointUs.toNat =
      (observation.hostSendUs.toNat + observation.hostReceiveUs.toNat) / 2 :=
  toNat_midpoint ordered.host

theorem toNat_nodeMidpointUs : observation.nodeMidpointUs.toNat =
      (observation.nodeReceiveUs.toNat + observation.nodeSendUs.toNat) / 2 :=
  toNat_midpoint ordered.node

omit ordered

end Ordered

theorem toNat_uncertaintyUs (observation : ClockObservation) :
    observation.uncertaintyUs.toNat = (observation.pathDelayUs.toNat + 1) / 2 :=
  toNat_divCeilMicros _ (by decide)

/-- The midpoints of an accepted exchange tell the offset of the clocks up to the
uncertainty, and every value on the way to them is the one over the integers. -/
theorem offset_within_uncertainty
    (accepted : ClockObservation.new bootEpoch hostSendUs nodeReceiveUs nodeSendUs
      hostReceiveUs = .ok observation) :
    (∀ offset : Int, (hostSendUs.toNat : Int) ≤ nodeReceiveUs.toNat + offset →
        (nodeSendUs.toNat : Int) + offset ≤ hostReceiveUs.toNat →
        ((observation.hostMidpointUs.toNat : Int) - observation.nodeMidpointUs.toNat -
          offset).natAbs ≤ observation.uncertaintyUs.toNat) ∧
      ((hostReceiveUs - hostSendUs).toNat : Int) = hostReceiveUs.toNat - hostSendUs.toNat ∧
      ((nodeSendUs - nodeReceiveUs).toNat : Int) = nodeSendUs.toNat - nodeReceiveUs.toNat ∧
      (observation.pathDelayUs.toNat : Int) = (hostReceiveUs.toNat - hostSendUs.toNat) -
        (nodeSendUs.toNat - nodeReceiveUs.toNat) ∧
      observation.hostMidpointUs.toNat =
        hostSendUs.toNat + (hostReceiveUs - hostSendUs).toNat / 2 ∧
      observation.nodeMidpointUs.toNat =
        nodeReceiveUs.toNat + (nodeSendUs - nodeReceiveUs).toNat / 2 ∧
      observation.uncertaintyUs.toNat =
        observation.pathDelayUs.toNat / 2 + observation.pathDelayUs.toNat % 2 := by
  obtain ⟨rfl, ordered⟩ := new_eq_ok.mp accepted
  have trip := ordered.toNat_roundTrip
  have work := ordered.toNat_processing
  have path := ordered.toNat_pathDelayUs
  have host := ordered.toNat_hostMidpointUs
  have node := ordered.toNat_nodeMidpointUs
  have uncertainty := toNat_uncertaintyUs
    ⟨bootEpoch, hostSendUs, nodeReceiveUs, nodeSendUs, hostReceiveUs⟩
  simp only at trip work path host node
  refine ⟨fun offset request response => ?_, by omega, by omega, by omega, by omega, by omega,
    by omega⟩
  -- The offset lies between `t4 - t3` and `t1 - t2`; the midpoints halve that interval.
  rw [host, node, uncertainty]
  omega

theorem offset_within_uncertainty_of_odd_trip :
    (((ClockObservation.mk 7 1000 300 301 1006).hostMidpointUs.toNat : Int) -
        (ClockObservation.mk 7 1000 300 301 1006).nodeMidpointUs.toNat - 700).natAbs ≤
      (ClockObservation.mk 7 1000 300 301 1006).uncertaintyUs.toNat :=
  (offset_within_uncertainty
    (show ClockObservation.new 7 1000 300 301 1006 = .ok ⟨7, 1000, 300, 301, 1006⟩ by decide)).1
    700 (by decide) (by decide)

end ClockObservation
end SensorSystem.Host
