import SensorSystem.Host.Telemetry.TelemetryDeadlock
import SensorSystem.Host.Time.TimeDeadlock

/-! The coordinator of `host_coordinator.rs` takes one completion of each service per turn and
waits for the answer to a rollover or a recovery. -/

namespace SensorSystem.Host

open Base

/-- No run deadlocks in which every rollover is asked for at the control message of the
thread, or with room for what it sends before that. -/
theorem storage_not_deadlocked (outcomes : List IoOutcome) (capacity : Nat) :
    (∀ disk streams host events after,
      TimeHost.start disk streams outcomes capacity = .ok host →
      Along TimeHost.step TimeHost.PacedStep host events → host.run events = some after →
        ¬ after.Deadlocked) ∧
    (∀ disk streams host events after,
      TelemetryHost.start disk streams outcomes capacity = .ok host →
      Along TelemetryHost.step TelemetryHost.PacedStep host events →
      host.run events = some after → ¬ after.Deadlocked) := by
  refine ⟨?_, ?_⟩
  · intro disk streams host events after starts along runs
    have paced := runSteps_keeps (fun before allowed steps =>
      TimeHost.Paced.step before allowed steps)
      (TimeHost.paced_start starts) along runs
    exact paced.not_deadlocked
  intro disk streams host events after starts along runs
  have paced := runSteps_keeps
    (fun before allowed steps => TelemetryHost.Paced.step before allowed steps)
    (TelemetryHost.paced_start starts) along runs
  exact paced.not_deadlocked

namespace StorageExample

def hardwareId : HardwareId := Vector.replicate 8 1

def timeConfig (bootEpoch : BootEpoch) : TimeWalConfig :=
  ⟨hardwareId, 5, bootEpoch, Vector.replicate 16 9⟩

def timeHost : TimeHost :=
  { capacity := 1
    disk := TimeDisk.put (fun _ => none) "time-1" ⟨timeConfig 1, []⟩
    worker := {
      repository := ⟨Vector.replicate 16 9, [⟨"time-1", timeConfig 1, ⟨0, none⟩, false⟩]⟩
      completionCapacity := 1 }
    streams := [⟨"time-1", timeConfig 1⟩]
    health := { streams := [⟨(timeConfig 1).key, 0⟩] } }

variable (instant : UInt64)

def observation : TimeObservationRecord :=
  ⟨hardwareId, 5, ⟨1, 10 * instant, 10 * instant, 10 * instant + 1, 10 * instant + 5⟩⟩

/-- A record is appended, and the thread holds its completion. -/
def timeAppend : List TimeEvent :=
  [.submit (observation instant), .storage .succeeds, .storage .succeeds]

/-- The thread sends its completion and looks for a control message again. -/
def timeForward : List TimeEvent := [.storage .succeeds, .storage .succeeds]

def timeRollover : TimeEvent := .rollover (timeConfig 1).key ⟨"time-2", timeConfig 2⟩

/-- The completion channel is full, and the thread fills each place again. -/
def timeTurns : List TimeEvent :=
  timeAppend 1 ++ timeForward ++ timeAppend 2 ++ timeForward ++ timeAppend 3 ++
    [.poll] ++ timeForward ++ timeAppend 4 ++ [timeRollover]

def telemetryConfig (bootEpoch : BootEpoch) : TelemetryWalConfig := ⟨hardwareId, 5, bootEpoch⟩

def telemetryHost : TelemetryHost :=
  { capacity := 1
    disk := TelemetryDisk.put (fun _ => none) "telemetry-1" ⟨telemetryConfig 1, []⟩
    repository := [⟨"telemetry-1", telemetryConfig 1, ⟨0, none⟩, false⟩]
    streams := [⟨"telemetry-1", telemetryConfig 1⟩] }

def snapshot : TelemetryObservationRecord :=
  ⟨hardwareId, 5, 1, ⟨instant, ⟨1885, by decide⟩⟩⟩

def telemetryAppend : List TelemetryEvent :=
  [.submit (snapshot instant), .storage .succeeds, .storage .succeeds]

def telemetryRollover : TelemetryEvent :=
  .rollover (telemetryConfig 1) ⟨"telemetry-2", telemetryConfig 2⟩

def telemetryTurns : List TelemetryEvent :=
  telemetryAppend 1 ++ [.storage .succeeds] ++ telemetryAppend 2 ++ [.storage .succeeds] ++
    telemetryAppend 3 ++ [.poll, .storage .succeeds] ++ telemetryAppend 4 ++
    [telemetryRollover]

/-- The rollover is answered, and then the completion taken. -/
def timeQueued : List TimeEvent :=
  timeAppend 1 ++ timeForward ++ [timeRollover] ++ List.replicate 3 (.storage .succeeds)

def telemetryQueued : List TelemetryEvent :=
  telemetryAppend 1 ++ [.storage .succeeds, .storage .succeeds, telemetryRollover] ++
    List.replicate 2 (.storage .succeeds)

theorem timeHost_starts :
    TimeHost.start (fun _ => none) [⟨"time-1", timeConfig 1⟩] [] 1 = .ok timeHost := by
  have valid : (timeConfig 1).validate = .ok () := by decide +kernel
  simp only [TimeHost.start, TimeRepository.openStreams, TimeRepository.openLoop,
    TimeWalSink.openWal, valid]
  rfl

theorem telemetryHost_starts :
    TelemetryHost.start (fun _ => none) [⟨"telemetry-1", telemetryConfig 1⟩] [] 1 =
      .ok telemetryHost := by
  rfl

end StorageExample

open StorageExample in
/-- Both services deadlock when a rollover is asked for while the thread refills the channel. -/
theorem storage_deadlocks :
    TimeHost.start (fun _ => none) [⟨"time-1", timeConfig 1⟩] [] 1 = .ok timeHost ∧
      (∃ after, timeHost.run timeTurns = some after ∧ after.Deadlocked) ∧
      TelemetryHost.start (fun _ => none) [⟨"telemetry-1", telemetryConfig 1⟩] [] 1 =
        .ok telemetryHost ∧
      (∃ after, telemetryHost.run telemetryTurns = some after ∧ after.Deadlocked) := by
  have time : (timeHost.run timeTurns).any (fun after => decide after.Deadlocked) = true := by
    decide +kernel
  have telemetry : (telemetryHost.run telemetryTurns).any
      (fun after => decide after.Deadlocked) = true := by
    decide +kernel
  obtain ⟨time, timeRuns, timeDead⟩ := (Option.any_eq_true ..).mp time
  obtain ⟨telemetry, telemetryRuns, telemetryDead⟩ := (Option.any_eq_true ..).mp telemetry
  exact ⟨timeHost_starts, ⟨time, timeRuns, of_decide_eq_true timeDead⟩, telemetryHost_starts,
    ⟨telemetry, telemetryRuns, of_decide_eq_true telemetryDead⟩⟩

open StorageExample in
/-- The rollover is asked for with a completion in the channel and the thread at its input. -/
theorem storage_not_deadlocked_rollover :
    (∃ after, timeHost.run timeQueued = some after ∧ ¬ after.Deadlocked) ∧
      ∃ after, telemetryHost.run telemetryQueued = some after ∧ ¬ after.Deadlocked := by
  have time : (timeHost.run timeQueued).isSome = true := by decide +kernel
  have telemetry : (telemetryHost.run telemetryQueued).isSome = true := by decide +kernel
  obtain ⟨time, timeRuns⟩ := Option.isSome_iff_exists.mp time
  obtain ⟨telemetry, telemetryRuns⟩ := Option.isSome_iff_exists.mp telemetry
  refine ⟨⟨time, timeRuns, ?_⟩, telemetry, telemetryRuns, ?_⟩
  · exact (storage_not_deadlocked _ _).1 _ _ timeHost _ time timeHost_starts (by decide +kernel)
      timeRuns
  · exact (storage_not_deadlocked _ _).2 _ _ telemetryHost _ telemetry telemetryHost_starts
      (by decide +kernel) telemetryRuns

end SensorSystem.Host
