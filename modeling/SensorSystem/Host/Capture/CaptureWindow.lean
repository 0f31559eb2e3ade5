import SensorSystem.Host.Protocol.MeasurementWire

/-! `capture_window.rs`: ordering and rotation of the records of one stream. The ledger plans an
append on a copy of itself and takes the result over when the append is durable. A method that
fails leaves a copy behind that nobody keeps, so a failure is the error alone. -/

namespace SensorSystem.Host

structure CaptureWindowPolicy where
  targetDurationUs : UInt64
deriving DecidableEq

inductive CaptureWindowError where
  | zeroTargetDuration
  | wrongHardware
  | wrongBootEpoch
  | overlap (expected actual : SequenceCursor)
  | unrecordedRange (expected actual : SequenceCursor)
  | sequenceOverflow
  | counterOverflow
  | windowOrdinalOverflow
  | noOpenWindow
  | staleAppendPlan
deriving DecidableEq

def CaptureWindowPolicy.new (targetDurationUs : UInt64) :
    Except CaptureWindowError CaptureWindowPolicy :=
  if targetDurationUs = 0 then .error .zeroTargetDuration else .ok ⟨targetDurationUs⟩

inductive WindowSealReason where
  | targetDurationReached
  | timingSegmentChanged
  | explicitFinish
deriving DecidableEq

structure CaptureWindowManifest where
  hardwareId : HardwareId
  bootEpoch : BootEpoch
  windowOrdinal : UInt64
  firstCursor : SequenceCursor
  endExclusive : SequenceCursor
  firstSampleCursor : Option SequenceCursor
  lastSampleCursor : Option SequenceCursor
  sampleCount : UInt64
  missingSampleCount : UInt64
  continuityBreakCount : UInt64
  sealReason : WindowSealReason
deriving DecidableEq

structure OpenWindow where
  firstCursor : SequenceCursor
  endExclusive : SequenceCursor
  firstSampleCursor : Option SequenceCursor := none
  lastSampleCursor : Option SequenceCursor := none
  sampleCount : UInt64 := 0
  missingSampleCount : UInt64 := 0
  continuityBreakCount : UInt64 := 0
  timingSegmentId : Option UInt32 := none
  firstDeviceTimeUs : Option UInt64 := none
deriving DecidableEq

def OpenWindow.new (firstCursor : SequenceCursor) : OpenWindow where
  firstCursor
  endExclusive := firstCursor

structure CaptureWindowLedger where
  policy : CaptureWindowPolicy
  hardwareId : HardwareId
  bootEpoch : BootEpoch
  nextCursor : SequenceCursor
  nextWindowOrdinal : UInt64
  openWindow : Option OpenWindow := none
deriving DecidableEq

structure CaptureAppendPlan where
  before : CaptureWindowLedger
  after : CaptureWindowLedger
  targetWindowOrdinal : UInt64
  sealedManifest : Option CaptureWindowManifest

namespace CaptureWindowLedger

variable (policy : CaptureWindowPolicy)

def new (hardwareId : HardwareId) (bootEpoch : BootEpoch) (recoveredCursor : SequenceCursor)
    (firstWindowOrdinal : UInt64) : CaptureWindowLedger where
  policy
  hardwareId
  bootEpoch
  nextCursor := recoveredCursor
  nextWindowOrdinal := firstWindowOrdinal

variable (ledger : CaptureWindowLedger) (hardwareId : HardwareId)

def validateStream (bootEpoch : BootEpoch) : Except CaptureWindowError Unit :=
  if hardwareId ≠ ledger.hardwareId then .error .wrongHardware
  else if bootEpoch ≠ ledger.bootEpoch then .error .wrongBootEpoch
  else .ok ()

def validateNext (first : SequenceCursor) : Except CaptureWindowError Unit :=
  if first < ledger.nextCursor then .error (.overlap ledger.nextCursor first)
  else if first > ledger.nextCursor then .error (.unrecordedRange ledger.nextCursor first)
  else .ok ()

variable (sealReason : WindowSealReason)

/-- `seal` with the manifest it returns and the ledger it leaves. -/
def sealWindow : Except CaptureWindowError (CaptureWindowManifest × CaptureWindowLedger) :=
  match ledger.openWindow with
  | none => .error .noOpenWindow
  | some window =>
    match checkedAdd ledger.nextWindowOrdinal 1 with
    | none => .error .windowOrdinalOverflow
    | some nextWindowOrdinal =>
      .ok ({
        hardwareId := ledger.hardwareId
        bootEpoch := ledger.bootEpoch
        windowOrdinal := ledger.nextWindowOrdinal
        firstCursor := window.firstCursor
        endExclusive := window.endExclusive
        firstSampleCursor := window.firstSampleCursor
        lastSampleCursor := window.lastSampleCursor
        sampleCount := window.sampleCount
        missingSampleCount := window.missingSampleCount
        continuityBreakCount := window.continuityBreakCount
        sealReason }, { ledger with nextWindowOrdinal, openWindow := none })

/-- The manifest of a window that an append seals, if it does. -/
abbrev Applied := Except CaptureWindowError (Option CaptureWindowManifest × CaptureWindowLedger)

def sealed : Applied :=
  (fun (manifest, ledger) => (some manifest, ledger)) <$> ledger.sealWindow sealReason

/-- The fields that the first chunk of a window sets. -/
def OpenWindow.start (window : OpenWindow) (chunk : SampleChunk) : OpenWindow :=
  if window.firstSampleCursor.isNone then
    { window with
      firstSampleCursor := some chunk.header.first
      timingSegmentId := some chunk.timing.segmentId
      firstDeviceTimeUs := some chunk.timing.firstDeviceTimeUs }
  else window

/-- The chunk reaches the target duration of a window in its own segment. -/
def durationReached (window : OpenWindow) (chunk : SampleChunk) : Bool :=
  match window.firstDeviceTimeUs with
  | none => false
  | some firstTime =>
    if chunk.timing.lastDeviceTimeUs < firstTime then false
    else chunk.timing.lastDeviceTimeUs - firstTime ≥ policy.targetDurationUs

/-- `end - 1` wraps for an empty chunk at cursor zero, whose own check fails before. -/
def applyChunk (chunk : SampleChunk) : Applied := do
  ledger.validateStream hardwareId chunk.header.bootEpoch
  let first := chunk.header.first
  match chunk.header.endCursor with
  | none => .error .sequenceOverflow
  | some stop =>
    ledger.validateNext first
    let window := ledger.openWindow.getD (.new first)
    let timingSegmentChanged :=
      window.timingSegmentId.any fun segment => segment != chunk.timing.segmentId
    let window := OpenWindow.start window chunk
    match checkedAdd window.sampleCount chunk.header.sampleCount.toUInt64 with
    | none => .error .counterOverflow
    | some sampleCount =>
      let window := { window with
        endExclusive := stop
        lastSampleCursor := some (stop - 1)
        sampleCount }
      let ledger := { ledger with nextCursor := stop, openWindow := some window }
      if timingSegmentChanged then ledger.sealed .timingSegmentChanged
      else if durationReached ledger.policy window chunk then ledger.sealed .targetDurationReached
      else .ok (none, ledger)

def applyGap (gap : Gap) : Applied := do
  ledger.validateStream gap.hardwareId gap.bootEpoch
  let first := gap.firstMissing
  ledger.validateNext first
  match checkedAdd first gap.missingCount with
  | none => .error .sequenceOverflow
  | some stop =>
    let window := ledger.openWindow.getD (.new first)
    match checkedAdd window.missingSampleCount gap.missingCount with
    | none => .error .counterOverflow
    | some missingSampleCount =>
      let window := { window with endExclusive := stop, missingSampleCount }
      .ok (none, { ledger with nextCursor := stop, openWindow := some window })

variable (observed : ContinuityBreak)

def applyContinuityBreak : Applied := do
  ledger.validateStream observed.hardwareId observed.bootEpoch
  ledger.validateNext observed.at_
  let stop := observed.at_ + 1
  let window := ledger.openWindow.getD (.new observed.at_)
  match checkedAdd window.continuityBreakCount 1 with
  | none => .error .counterOverflow
  | some continuityBreakCount =>
    let window := { window with endExclusive := stop, continuityBreakCount }
    .ok (none, { ledger with nextCursor := stop, openWindow := some window })

/-- The plan for an append on a copy of the ledger. -/
def plan (applied : Applied) : Except CaptureWindowError CaptureAppendPlan :=
  (fun (sealedManifest, after) =>
    ⟨ledger, after, ledger.nextWindowOrdinal, sealedManifest⟩) <$> applied

def planChunk (chunk : SampleChunk) : Except CaptureWindowError CaptureAppendPlan :=
  ledger.plan (ledger.applyChunk hardwareId chunk)

def planGap (gap : Gap) : Except CaptureWindowError CaptureAppendPlan :=
  ledger.plan (ledger.applyGap gap)

def planContinuityBreak : Except CaptureWindowError CaptureAppendPlan :=
  ledger.plan (ledger.applyContinuityBreak observed)

def commit (plan : CaptureAppendPlan) : Applied :=
  if ledger ≠ plan.before then .error .staleAppendPlan
  else .ok (plan.sealedManifest, plan.after)

def finish : Applied :=
  if ledger.openWindow.isNone then .ok (none, ledger) else ledger.sealed .explicitFinish

end CaptureWindowLedger
end SensorSystem.Host
