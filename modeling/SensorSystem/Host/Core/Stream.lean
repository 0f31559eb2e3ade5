import Mathlib.Data.UInt
import Mathlib.Tactic.Common

/-! `sensor-core`: identities, cursors, sample axes, gaps and continuity breaks. The newtypes over
`u64` have no invariant and are abbreviations. Values whose only constructor checks something
carry what it checked. -/

namespace SensorSystem.Host

abbrev BootEpoch := UInt64
abbrev SampleSequence := UInt64

/-- Exclusive position in one sample stream: `N` describes the prefix `[0, N)`. -/
abbrev SequenceCursor := UInt64

abbrev HardwareId := Vector UInt8 8

/-- `u64::checked_add`, behind `checked_add` and `checked_advance` of the newtypes. -/
def checkedAdd (value count : UInt64) : Option UInt64 :=
  if value.toNat + count.toNat < 2 ^ 64 then some (value + count) else none

theorem checkedAdd_eq_some {value count result : UInt64} :
    checkedAdd value count = some result ↔ value.toNat + count.toNat = result.toNat := by
  have bounded := result.toNat_lt
  rw [checkedAdd]
  split
  · rename_i fits
    rw [Option.some.injEq, ← UInt64.toNat_inj, UInt64.toNat_add, Nat.mod_eq_of_lt fits]
  rename_i wraps
  refine ⟨nofun, fun sum => ?_⟩
  omega

theorem checkedAdd_eq_none {value count : UInt64} :
    checkedAdd value count = none ↔ 2 ^ 64 ≤ value.toNat + count.toNat := by
  rw [checkedAdd]
  split
  · rename_i fits
    exact ⟨nofun, fun wraps => absurd fits (Nat.not_lt.mpr wraps)⟩
  rename_i wraps
  exact ⟨fun _ => Nat.le_of_not_lt wraps, fun _ => rfl⟩

/-- One signed axis value inside the 24-bit range of the wire format. -/
structure SampleAxis where
  value : Int
  lower : -8388608 ≤ value
  upper : value ≤ 8388607
deriving DecidableEq

def SampleAxis.zero : SampleAxis := ⟨0, by decide, by decide⟩

/-- `SampleAxis::new`; `none` is the source's `SampleAxisError`. -/
def SampleAxis.new (value : Int) : Option SampleAxis :=
  if bounds : -8388608 ≤ value ∧ value ≤ 8388607 then some ⟨value, bounds.1, bounds.2⟩ else none

theorem SampleAxis.new_value (axis : SampleAxis) : SampleAxis.new axis.value = some axis := by
  rw [SampleAxis.new, dif_pos ⟨axis.lower, axis.upper⟩]

structure SampleAxes where
  x : SampleAxis
  y : SampleAxis
  z : SampleAxis
deriving DecidableEq

inductive GapReason where
  | unknownDiscontinuity
  | sourceLoss
  | ingressOverflow
  | journalOverflow
deriving DecidableEq

inductive ContinuityBreakReason where
  | unknown
  | sensorOverflow
  | sensorReadUncertain
  | invalidTiming
  | processingReset
deriving DecidableEq

/-- A missing range of one stream, as `Gap::new` builds it. -/
structure Gap where
  hardwareId : HardwareId
  bootEpoch : BootEpoch
  firstMissing : SampleSequence
  missingCount : UInt64
  reason : GapReason
  nonempty : missingCount ≠ 0
  bounded : firstMissing.toNat + missingCount.toNat < 2 ^ 64
deriving DecidableEq

inductive GapError where
  | empty
  | sequenceOverflow
deriving DecidableEq

variable (hardwareId : HardwareId)

def Gap.new (bootEpoch : BootEpoch) (firstMissing : SampleSequence) (missingCount : UInt64)
    (reason : GapReason) : Except GapError Gap :=
  if nonempty : missingCount = 0 then .error .empty
  else if bounded : firstMissing.toNat + missingCount.toNat < 2 ^ 64 then
    .ok ⟨hardwareId, bootEpoch, firstMissing, missingCount, reason, nonempty, bounded⟩
  else .error .sequenceOverflow

/-- A continuity break of one stream, as `ContinuityBreak::new` builds it. -/
structure ContinuityBreak where
  hardwareId : HardwareId
  bootEpoch : BootEpoch
  at_ : SequenceCursor
  reason : ContinuityBreakReason
  bounded : at_.toNat + 1 < 2 ^ 64
deriving DecidableEq

inductive ContinuityBreakError where
  | sequenceOverflow
deriving DecidableEq

def ContinuityBreak.new (bootEpoch : BootEpoch) (at_ : SequenceCursor)
    (reason : ContinuityBreakReason) : Except ContinuityBreakError ContinuityBreak :=
  if bounded : at_.toNat + 1 < 2 ^ 64 then .ok ⟨hardwareId, bootEpoch, at_, reason, bounded⟩
  else .error .sequenceOverflow

end SensorSystem.Host

/-! `delivery.rs`: the three boundaries of one host session. `received` moves over contiguous
samples and accounted gaps, `durable` after storage and `released` after the node may discard. An
operation checks before it assigns, so a failure is the error alone; the cursor that an advance
also returns is `received`. -/

namespace SensorSystem.Host

structure DeliveryCursors where
  received : SequenceCursor
  durable : SequenceCursor
  released : SequenceCursor
deriving DecidableEq

inductive CursorError where
  | emptyChunk
  | emptyGap
  | nonContiguous (expected received : SampleSequence)
  | sequenceOverflow
  | durableRegression
  | durableAheadOfReceived
  | releasedRegression
  | releasedAheadOfDurable
deriving DecidableEq

namespace DeliveryCursors

def new (received durable released : SequenceCursor) : Except CursorError DeliveryCursors :=
  if durable > received then .error .durableAheadOfReceived
  else if released > durable then .error .releasedAheadOfDurable
  else .ok ⟨received, durable, released⟩

/-- The last step of the three ways to advance `received`. -/
def advance (cursors : DeliveryCursors) (count : UInt64) : Except CursorError DeliveryCursors :=
  match checkedAdd cursors.received count with
  | some received => .ok { cursors with received }
  | none => .error .sequenceOverflow

def acceptContiguous (cursors : DeliveryCursors) (first : SampleSequence) (count : UInt16) :
    Except CursorError DeliveryCursors :=
  if count = 0 then .error .emptyChunk
  else if first ≠ cursors.received then .error (.nonContiguous cursors.received first)
  else cursors.advance count.toUInt64

def accountGap (cursors : DeliveryCursors) (first : SampleSequence) (count : UInt64) :
    Except CursorError DeliveryCursors :=
  if count = 0 then .error .emptyGap
  else if first ≠ cursors.received then .error (.nonContiguous cursors.received first)
  else cursors.advance count

def accountContinuityBreak (cursors : DeliveryCursors) (at_ : SequenceCursor) :
    Except CursorError DeliveryCursors :=
  if at_ ≠ cursors.received then .error (.nonContiguous cursors.received at_)
  else cursors.advance 1

def markDurable (cursors : DeliveryCursors) (cursor : SequenceCursor) :
    Except CursorError DeliveryCursors :=
  if cursor < cursors.durable then .error .durableRegression
  else if cursor > cursors.received then .error .durableAheadOfReceived
  else .ok { cursors with durable := cursor }

def markReleased (cursors : DeliveryCursors) (cursor : SequenceCursor) :
    Except CursorError DeliveryCursors :=
  if cursor < cursors.released then .error .releasedRegression
  else if cursor > cursors.durable then .error .releasedAheadOfDurable
  else .ok { cursors with released := cursor }

/-- The order every operation keeps. -/
structure Ordered (cursors : DeliveryCursors) : Prop where
  released_le : cursors.released ≤ cursors.durable
  durable_le : cursors.durable ≤ cursors.received

variable {cursors : DeliveryCursors}

theorem ordered_of_new {received durable released : SequenceCursor}
    (built : new received durable released = .ok cursors) :
    cursors = ⟨received, durable, released⟩ ∧ cursors.Ordered := by
  rw [new] at built
  split at built
  · exact nomatch built
  split at built
  · exact nomatch built
  · rename_i received durable
    cases built
    exact ⟨rfl, UInt64.not_lt.mp durable, UInt64.not_lt.mp received⟩

/-- Releasing up to the durable cursor never fails. -/
theorem Ordered.markReleased_durable (ordered : cursors.Ordered) :
    cursors.markReleased cursors.durable = .ok { cursors with released := cursors.durable } := by
  rw [markReleased, if_neg (UInt64.not_lt.mpr ordered.released_le),
    if_neg (UInt64.not_lt.mpr UInt64.le_rfl)]

/-- Committing up to the received cursor never fails. -/
theorem Ordered.markDurable_received (ordered : cursors.Ordered) :
    cursors.markDurable cursors.received = .ok { cursors with durable := cursors.received } := by
  rw [markDurable, if_neg (UInt64.not_lt.mpr ordered.durable_le),
    if_neg (UInt64.not_lt.mpr UInt64.le_rfl)]

theorem advance_eq {count stop : UInt64} (sum : cursors.received.toNat + count.toNat = stop.toNat) :
    cursors.advance count = .ok { cursors with received := stop } := by
  rw [advance, checkedAdd_eq_some.mpr sum]

end DeliveryCursors
end SensorSystem.Host
