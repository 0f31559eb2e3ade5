import Mathlib.Data.UInt
import Mathlib.Tactic.Common

/-! The payload and metadata records of `sample_record.h`, `stream_gap.h` and
`stream_continuity.h`. Stream cursors are natural numbers: every addition of the source is guarded
by a comparison with `UINT64_MAX`, and those guards are kept. A C++ enumeration with a fixed
underlying type can hold values outside its enumerators, so each reason type has one extra
constructor for them. -/

namespace SensorSystem.Node

/-- `UINT64_MAX`. -/
def uint64Max : Nat := 2 ^ 64 - 1

theorem uint64Max_lt : uint64Max < 2 ^ 64 := by decide

def sampleAxisMin : Int := -0x00800000
def sampleAxisMax : Int := 0x007fffff
def knownTimingQualityFlags : UInt16 := 0x001f

/-- One acquired sample; its sequence number belongs to the journal. -/
structure SampleRecord where
  deviceTimeUs : UInt64 := 0
  x : Int := 0
  y : Int := 0
  z : Int := 0
  configRevision : UInt32 := 0
  timingSegmentId : UInt32 := 0
  timingQualityFlags : UInt16 := 0
  reserved : UInt16 := 0
deriving DecidableEq, Repr, Inhabited

/-- One axis inside the signed 24-bit range of the wire format. -/
def validAxis (value : Int) : Bool :=
  sampleAxisMin ≤ value && value ≤ sampleAxisMax

def validSampleRecord (sample : SampleRecord) : Bool :=
  validAxis sample.x && validAxis sample.y && validAxis sample.z &&
    sample.configRevision != 0 && sample.timingSegmentId != 0 &&
    (sample.timingQualityFlags &&& ~~~knownTimingQualityFlags) == 0

/-- Why a range of sequence numbers carries no samples. -/
inductive GapReason where
  | unknownDiscontinuity
  | sourceLoss
  | ingressOverflow
  | unlisted (above : Fin 253)
deriving DecidableEq

def GapReason.isKnown : GapReason → Bool
  | .unknownDiscontinuity | .sourceLoss | .ingressOverflow => true
  | .unlisted _ => false

/-- An exact missing range `[firstMissing, firstMissing + missingCount)`. -/
structure GapRecord where
  firstMissing : Nat := 0
  missingCount : Nat := 0
  reason : GapReason := .unknownDiscontinuity

namespace GapRecord

instance : Inhabited GapRecord := ⟨{}⟩

variable (gap : GapRecord)

/-- The source compares `first_missing <= UINT64_MAX - missing_count`. -/
def valid : Bool :=
  gap.missingCount != 0 && gap.firstMissing + gap.missingCount ≤ uint64Max &&
    gap.reason.isKnown

/-- The exclusive end of the missing range. -/
def endSequence : Nat :=
  gap.firstMissing + gap.missingCount

theorem valid_iff : gap.valid = true ↔
    gap.missingCount ≠ 0 ∧ gap.endSequence ≤ uint64Max ∧ gap.reason.isKnown = true := by
  simp [valid, endSequence, and_assoc]

end GapRecord

/-- Why the samples on both sides of a marker may not be joined. -/
inductive ContinuityBreakReason where
  | unknown
  | sensorOverflow
  | sensorReadUncertain
  | invalidTiming
  | processingReset
  | unlisted (above : Fin 251)
deriving DecidableEq

def ContinuityBreakReason.isKnown : ContinuityBreakReason → Bool
  | .unknown | .sensorOverflow | .sensorReadUncertain | .invalidTiming
  | .processingReset => true
  | .unlisted _ => false

/-- A marker occupying one cursor position without claiming a lost sample. -/
structure ContinuityBreakRecord where
  atSequence : Nat := 0
  reason : ContinuityBreakReason := .unknown

namespace ContinuityBreakRecord

instance : Inhabited ContinuityBreakRecord := ⟨{}⟩

variable (value : ContinuityBreakRecord)

def valid : Bool :=
  value.atSequence != uint64Max && value.reason.isKnown

def endSequence : Nat :=
  value.atSequence + 1

end ContinuityBreakRecord

end SensorSystem.Node
