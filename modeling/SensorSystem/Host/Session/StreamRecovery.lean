import SensorSystem.Host.Session.SessionInvariant

/-! `stream_recovery.rs`: the journal state a node reports is reconciled with what Capture has
proven durable. No host cursor advances here, and a node that has released beyond durable storage
is not forgiven. -/

namespace SensorSystem.Host

open Base

structure ExpectedStreamState where
  hardwareId : HardwareId
  bootEpoch : BootEpoch
  journalCapacitySamples : UInt32

structure CaptureRecoveryEvidence where
  hardwareId : HardwareId
  bootEpoch : BootEpoch
  durableCursor : SequenceCursor

inductive RecoveryContinuity where
  | contiguous
  | journalGapRequired (firstMissing : SequenceCursor) (missingCount : UInt64)
deriving DecidableEq

structure ReconciledStream where
  session : NodeSession
  continuity : RecoveryContinuity
deriving DecidableEq

inductive StreamRecoveryError where
  | invalidNodeState (error : MeasurementContractError)
  | captureHardwareMismatch
  | captureBootEpochMismatch (expected actual : BootEpoch)
  | nodeBootEpochMismatch (expected actual : BootEpoch)
  | journalCapacityMismatch (expected actual : UInt32)
  | releasedBeyondDurable (released durable : SequenceCursor)
  | captureAheadOfNode (durable produced : SequenceCursor)
  | session (error : SessionError)
deriving DecidableEq

def validateCaptureIdentity (expected : ExpectedStreamState) (capture : CaptureRecoveryEvidence) :
    Except StreamRecoveryError Unit :=
  if capture.hardwareId ≠ expected.hardwareId then .error .captureHardwareMismatch
  else if capture.bootEpoch ≠ expected.bootEpoch then
    .error (.captureBootEpochMismatch expected.bootEpoch capture.bootEpoch)
  else .ok ()

def validateNodeIdentity (expected : ExpectedStreamState) (node : StreamState) :
    Except StreamRecoveryError Unit :=
  if node.bootEpoch ≠ expected.bootEpoch then
    .error (.nodeBootEpochMismatch expected.bootEpoch node.bootEpoch)
  else if node.capacitySamples ≠ expected.journalCapacitySamples then
    .error (.journalCapacityMismatch expected.journalCapacitySamples node.capacitySamples)
  else .ok ()

def reconcileExistingCapture (expected : ExpectedStreamState) (capture : CaptureRecoveryEvidence)
    (node : StreamState) : Except StreamRecoveryError ReconciledStream := do
  node.validate.mapError .invalidNodeState
  validateCaptureIdentity expected capture
  validateNodeIdentity expected node
  if node.released > capture.durableCursor then
    .error (.releasedBeyondDurable node.released capture.durableCursor)
  else if capture.durableCursor > node.produced then
    .error (.captureAheadOfNode capture.durableCursor node.produced)
  else
    let continuity :=
      if capture.durableCursor < node.retainedFrom then
        .journalGapRequired capture.durableCursor (node.retainedFrom - capture.durableCursor)
      else .contiguous
    let session ← (NodeSession.recovered expected.hardwareId expected.bootEpoch
      capture.durableCursor node.released).mapError .session
    .ok { session, continuity }

structure NewCaptureBoundary where
  hardwareId : HardwareId
  bootEpoch : BootEpoch
  cursor : SequenceCursor

def newCaptureBoundary (expected : ExpectedStreamState) (node : StreamState) :
    Except StreamRecoveryError NewCaptureBoundary := do
  node.validate.mapError .invalidNodeState
  validateNodeIdentity expected node
  .ok ⟨expected.hardwareId, expected.bootEpoch, node.produced⟩

variable {capture : CaptureRecoveryEvidence} {expected : ExpectedStreamState} {node : StreamState}
  {stream : ReconciledStream} (done : reconcileExistingCapture expected capture node = .ok stream)

include done

/-- What a reconciled session starts with. -/
theorem reconcileExistingCapture_eq_ok :
    node.bootEpoch = expected.bootEpoch ∧ node.released ≤ capture.durableCursor ∧
      NodeSession.recovered expected.hardwareId expected.bootEpoch capture.durableCursor
        node.released = .ok stream.session := by
  obtain ⟨-, done⟩ := check_eq_ok.mp done
  obtain ⟨-, done⟩ := check_eq_ok.mp done
  obtain ⟨identity, done⟩ := check_eq_ok.mp done
  obtain ⟨epoch, -⟩ := guard_eq_ok.mp identity
  obtain ⟨released, done⟩ := guard_eq_ok.mp done
  obtain ⟨-, done⟩ := guard_eq_ok.mp done
  obtain ⟨session, recovered, done⟩ := bind_eq_ok.mp done
  cases done
  exact ⟨not_not.mp epoch, UInt64.not_lt.mp released, mapError_eq_ok.mp recovered⟩

/-- A reconciled session waits at the durable cursor. -/
theorem sound_reconciled : stream.session.Sound ∧ stream.session.phase = .ready ∧
      stream.session.cursors.durable = capture.durableCursor := by
  obtain ⟨-, -, recovered⟩ := reconcileExistingCapture_eq_ok done
  have sound := (NodeSession.sound_recovered recovered).1
  rw [NodeSession.recovered] at recovered
  split at recovered
  · cases recovered
  rename_i cursors built
  obtain ⟨-, built⟩ := guard_eq_ok.mp built
  obtain ⟨-, built⟩ := guard_eq_ok.mp built
  cases built
  have same := Except.ok.inj recovered
  exact ⟨sound, by rw [← same], by rw [← same]⟩

omit done

end SensorSystem.Host
