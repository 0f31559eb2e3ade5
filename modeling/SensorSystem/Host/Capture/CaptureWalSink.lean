import SensorSystem.Host.Capture.CaptureWal

/-! A batch encodes records and runs them through a copy of the window ledger; its commit appends
the bytes and takes the copy over. Recovery runs the records of the file through a new ledger and
cuts off a record that is not complete. -/

namespace SensorSystem.Host

open Base
open Framing (crc32c)

structure RecordCounters where
  samples : UInt64 := 0
  missingSamples : UInt64 := 0
  continuityBreaks : UInt64 := 0

structure CaptureWalBatch where
  baseDurableLen : Nat
  baseRecovery : CaptureWalRecovery
  ledger : CaptureWindowLedger
  recovery : CaptureWalRecovery
  bytes : List UInt8 := []
  recordCount : UInt64 := 0
  sealed : Bool := false

/-- Count a sealed window, if there is one. -/
def CaptureWalRecovery.countSealed (recovery : CaptureWalRecovery) :
    Option CaptureWindowManifest → Except CaptureWalError CaptureWalRecovery
  | none => .ok recovery
  | some manifest => do
    let sealedWindowCount ← addCounter recovery.sealedWindowCount 1
    .ok { recovery with sealedWindowCount, lastSealedWindow := some manifest }

namespace CaptureWalBatch

variable (batch : CaptureWalBatch)

def stagePlanned (record : List UInt8) (plan : CaptureAppendPlan) (counters : RecordCounters) :
    Except CaptureWalError CaptureWalBatch := do
  let (manifest, ledger) ← windowCheck (batch.ledger.commit plan)
  let recovery := { batch.recovery with durableCursor := ledger.nextCursor }
  let recordCount ← addCounter recovery.recordCount 1
  let sampleCount ← addCounter recovery.sampleCount counters.samples
  let missingSampleCount ← addCounter recovery.missingSampleCount counters.missingSamples
  let continuityBreakCount ← addCounter recovery.continuityBreakCount counters.continuityBreaks
  let recovery ← { recovery with
    recordCount, sampleCount, missingSampleCount, continuityBreakCount }.countSealed manifest
  let staged ← addCounter batch.recordCount 1
  .ok { batch with
    ledger
    recovery
    bytes := batch.bytes ++ record
    recordCount := staged
    sealed := manifest.isSome }

def ensureOpenWindow : Except CaptureWalError Unit :=
  if batch.sealed then .error .batchCrossesWindowBoundary else .ok ()

def stageChunk (hardwareId : HardwareId) (chunk : SampleChunk) :
    Except CaptureWalError CaptureWalBatch := do
  batch.ensureOpenWindow
  let plan ← windowCheck (batch.ledger.planChunk hardwareId chunk)
  let record ← encodeChunkRecord chunk
  batch.stagePlanned record plan { samples := chunk.header.sampleCount.toUInt64 }

def stageGap (gap : Gap) : Except CaptureWalError CaptureWalBatch := do
  batch.ensureOpenWindow
  let plan ← windowCheck (batch.ledger.planGap gap)
  batch.stagePlanned (encodeGapRecord gap) plan { missingSamples := gap.missingCount }

def stageContinuityBreak (observed : ContinuityBreak) : Except CaptureWalError CaptureWalBatch := do
  batch.ensureOpenWindow
  let plan ← windowCheck (batch.ledger.planContinuityBreak observed)
  batch.stagePlanned (encodeBreakRecord observed) plan { continuityBreaks := 1 }

end CaptureWalBatch

/-- What a record does to the ledger, and what it counts. -/
def applyRecord (ledger : CaptureWindowLedger) (hardwareId : HardwareId)
    (report : CaptureWalRecovery) : CaptureRecord →
    Except CaptureWalError (Option CaptureWindowManifest × CaptureWindowLedger × CaptureWalRecovery)
  | .sampleChunk chunk => do
    let plan ← windowCheck (ledger.planChunk hardwareId chunk)
    let (manifest, ledger) ← windowCheck (ledger.commit plan)
    let sampleCount ← addCounter report.sampleCount chunk.header.sampleCount.toUInt64
    .ok (manifest, ledger, { report with sampleCount })
  | .gap gap => do
    let plan ← windowCheck (ledger.planGap gap)
    let (manifest, ledger) ← windowCheck (ledger.commit plan)
    let missingSampleCount ← addCounter report.missingSampleCount gap.missingCount
    .ok (manifest, ledger, { report with missingSampleCount })
  | .continuityBreak observed => do
    let plan ← windowCheck (ledger.planContinuityBreak observed)
    let (manifest, ledger) ← windowCheck (ledger.commit plan)
    let continuityBreakCount ← addCounter report.continuityBreakCount 1
    .ok (manifest, ledger, { report with continuityBreakCount })
  | .windowSeal => do
    let (manifest, ledger) ← windowCheck ledger.finish
    .ok (manifest, ledger, report)

/-- `replay_record` and the rest of the loop body in `recover`. -/
def replayRecord (hardwareId : HardwareId) (state : CaptureWindowLedger × CaptureWalRecovery)
    (record : CaptureRecord) :
    Except CaptureWalError (CaptureWindowLedger × CaptureWalRecovery) := do
  let (manifest, ledger, report) ← applyRecord state.1 hardwareId state.2 record
  let report ← report.countSealed manifest
  let recordCount ← addCounter report.recordCount 1
  .ok (ledger, { report with recordCount, durableCursor := ledger.nextCursor })

/-- The loop of `recover`, with the length of the valid part. -/
def recoverLoop (config : CaptureWalConfig) (bytes : List UInt8) (offset : Nat)
    (state : CaptureWindowLedger × CaptureWalRecovery) :
    Except CaptureWalError (CaptureWindowLedger × CaptureWalRecovery × Nat) :=
  let torn : CaptureWindowLedger × CaptureWalRecovery × Nat :=
    (state.1, { state.2 with truncatedTailBytes := UInt64.ofNat bytes.length }, offset)
  if bytes.length = 0 then .ok (state.1, state.2, offset)
  else if bytes.length < recordPrefixBytes then .ok torn
  else
    let bodyLength := (readU32 bytes 0).toNat
    if ¬ (minRecordBodyBytes ≤ bodyLength ∧ bodyLength ≤ maxRecordBodyBytes) then
      .error (.invalidRecordLength offset bodyLength)
    else if offset + recordPrefixBytes + bodyLength ≥ 2 ^ 64 then .error .lengthOverflow
    else if recordPrefixBytes + bodyLength > bytes.length then .ok torn
    else
      let body := slice bytes recordPrefixBytes bodyLength
      let dataLength := bodyLength - recordCrcBytes
      if crc32c (body.take dataLength) ≠ readU32 body dataLength then
        .error (.recordChecksumMismatch offset)
      else
        match decodeRecord (body.take dataLength) config.hardwareId config.bootEpoch with
        | .error error => .error error
        | .ok record =>
          match replayRecord config.hardwareId state record with
          | .error error => .error error
          | .ok state =>
            recoverLoop config (bytes.drop (recordPrefixBytes + bodyLength))
              (offset + recordPrefixBytes + bodyLength) state
termination_by bytes.length
decreasing_by
  simp only [List.length_drop, recordPrefixBytes] at *
  omega

/-- The ledger and the counters of a log without records. -/
def CaptureWalConfig.initial (config : CaptureWalConfig) :
    CaptureWindowLedger × CaptureWalRecovery :=
  ({ policy := config.windowPolicy
     hardwareId := config.hardwareId
     bootEpoch := config.bootEpoch
     nextCursor := config.recoveredCursor
     nextWindowOrdinal := config.firstWindowOrdinal },
    { durableCursor := config.recoveredCursor })

/-- `recover`; the file it leaves is the valid part. -/
def recover (file : List UInt8) (config : CaptureWalConfig) :
    Except CaptureWalError (CaptureWindowLedger × CaptureWalRecovery × Nat) :=
  if file.length < fileHeaderBytes then .error .truncatedFileHeader
  else do
    validateFileHeader (file.take fileHeaderBytes) config
    recoverLoop config (file.drop fileHeaderBytes) fileHeaderBytes config.initial

structure CaptureWalSink where
  hardwareId : HardwareId
  bootEpoch : BootEpoch
  ledger : CaptureWindowLedger
  recovery : CaptureWalRecovery
  durableLen : Nat

namespace CaptureWalSink

/-- `open` on the bytes a file holds, none for a new one, with the file it leaves. -/
def openFile (file : List UInt8) (config : CaptureWalConfig) :
    Except CaptureWalError (CaptureWalSink × List UInt8) :=
  if config.bootEpoch = 0 then .error .zeroBootEpoch
  else do
    let file := if file.length = 0 then fileHeader config else file
    let (ledger, recovery, durableLen) ← recover file config
    .ok ({
      hardwareId := config.hardwareId
      bootEpoch := config.bootEpoch
      ledger
      recovery
      durableLen }, file.take durableLen)

variable (sink : CaptureWalSink)

def beginBatch : CaptureWalBatch where
  baseDurableLen := sink.durableLen
  baseRecovery := sink.recovery
  ledger := sink.ledger
  recovery := sink.recovery

/-- Commit a batch at the end of the file. -/
def commitBatch (batch : CaptureWalBatch) (file : List UInt8) :
    Except CaptureWalError (CaptureWalSink × List UInt8) :=
  if batch.recordCount = 0 then .error .emptyBatch
  else if batch.baseDurableLen ≠ sink.durableLen ∨ batch.baseRecovery ≠ sink.recovery then
    .error .staleBatch
  else if sink.durableLen + batch.bytes.length ≥ 2 ^ 64 then .error .lengthOverflow
  else .ok ({ sink with
      durableLen := sink.durableLen + batch.bytes.length
      ledger := batch.ledger
      recovery := batch.recovery }, file ++ batch.bytes)

def finishWindow (file : List UInt8) :
    Except CaptureWalError (Option CaptureWindowManifest × CaptureWalSink × List UInt8) := do
  let (manifest, after) ← windowCheck sink.ledger.finish
  match manifest with
  | none => .ok (none, sink, file)
  | some value =>
    let record := wrapRecord .windowSeal []
    if sink.durableLen + record.length ≥ 2 ^ 64 then .error .lengthOverflow
    else
      let recordCount ← addCounter sink.recovery.recordCount 1
      let recovery ← { sink.recovery with recordCount }.countSealed (some value)
      .ok (some value, { sink with
        durableLen := sink.durableLen + record.length
        ledger := after
        recovery }, file ++ record)

end CaptureWalSink
end SensorSystem.Host
