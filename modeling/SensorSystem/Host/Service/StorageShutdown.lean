import SensorSystem.Host.Service.StorageWaits
import SensorSystem.Host.Telemetry.TelemetryShutdown
import SensorSystem.Host.Time.TimeShutdown

/-! `HostCoordinatorRuntime::shutdown` drops every submitter and asks both storage threads to
stop. The telemetry thread drains its queue before it stops, the time thread does not. -/

namespace SensorSystem.Host

open Base

/-- A shutdown without a storage error keeps every accepted snapshot, and every accepted
observation exactly when the time queue holds none, or one that the thread is about to take. -/
theorem shutdown_durable (outcomes : List IoOutcome) (capacity : Nat) :
    (∀ disk streams host events before stopping rest after,
      TimeHost.start disk streams outcomes capacity = .ok host →
      Along TimeHost.step TimeHost.ServingStep host events → host.run events = some before →
      before.shutdown = some stopping →
      Along TimeHost.step TimeHost.ErrorFree stopping rest → stopping.run rest = some after →
      after.phase = .stopped →
        (after.AllDurable disk (acceptedRecords events) ↔
          before.input.length ≤ if before.phase = .input then 1 else 0)) ∧
    (∀ disk streams host events before stopping rest after,
      TelemetryHost.start disk streams outcomes capacity = .ok host →
      Along TelemetryHost.step TelemetryHost.ServingStep host events →
      host.run events = some before → before.shutdown = some stopping →
      Along TelemetryHost.step TelemetryHost.ErrorFree stopping rest →
      stopping.run rest = some after → after.phase = .stopped →
        after.AllDurable (acceptedSnapshots events)) := by
  refine ⟨?_, ?_⟩
  · intro disk streams host events before stopping rest after starts along runs stops along'
      runs' stopped
    have served : TimeHost.Served disk ([] ++ events) before :=
      runSteps_keeps_past (TimeHost.Served disk)
        (fun served allowed steps => TimeHost.Served.step served allowed steps)
        (TimeHost.served_start starts) along runs
    obtain ⟨taken, serving, order⟩ := served
    have ends : TimeHost.Ending disk (taken ++ before.lastTaken) after :=
      runSteps_keeps (fun ending free steps => TimeHost.Ending.step ending free steps)
        ⟨taken, serving.shutdown stops⟩ along' runs'
    obtain ⟨taken', ending⟩ := ends
    have none : after.lastTaken = [] := TimeHost.Stopping.lastTaken_of_ne (by rw [stopped]; nofun)
    have taken_eq : taken ++ before.lastTaken = taken' := by
      rw [ending.order, none, List.append_nil]
    -- what the thread does not take any more is lost
    have split : acceptedRecords events =
        taken' ++ before.input.drop (if before.phase = .input then 1 else 0) := by
      rw [← taken_eq, List.append_assoc, TimeHost.lastTaken, List.take_append_drop]
      exact order
    rw [split, ending.stored.allDurable_iff, List.drop_eq_nil_iff]
  · intro disk streams host events before stopping rest after starts along runs stops along'
      runs' stopped
    have serving : TelemetryHost.Serving (acceptedSnapshots ([] ++ events)) before :=
      runSteps_keeps_past (fun past host => TelemetryHost.Serving (acceptedSnapshots past) host)
        (fun serving allowed steps => TelemetryHost.Serving.step serving allowed steps)
        (TelemetryHost.serving_start starts) along runs
    have ending : TelemetryHost.Stopping (acceptedSnapshots events) after :=
      runSteps_keeps
        (fun stopping free steps => TelemetryHost.Stopping.step stopping (free.healthy steps) steps)
        (serving.shutdown stops) along' runs'
    exact ending.allDurable stopped

namespace StorageExample

/-- What the time thread does after a shutdown until it has stopped. -/
def timeStop : List TimeEvent := List.replicate 4 (.storage .succeeds)

def telemetryStop : List TelemetryEvent := List.replicate 4 (.storage .succeeds)

end StorageExample

open StorageExample in
theorem shutdown_durable_idle :
    (∃ before stopping after, timeHost.run (timeAppend 1) = some before ∧
      before.shutdown = some stopping ∧ stopping.run timeStop = some after ∧
      (after.AllDurable (fun _ => none) (acceptedRecords (timeAppend 1)) ↔
        before.input.length ≤ if before.phase = .input then 1 else 0)) ∧
    (∃ before stopping after, telemetryHost.run [.submit (snapshot 1)] = some before ∧
      before.shutdown = some stopping ∧ stopping.run telemetryStop = some after ∧
      after.AllDurable (acceptedSnapshots [.submit (snapshot 1)])) := by
  have timeServes : Along TimeHost.step TimeHost.ServingStep timeHost (timeAppend 1) := by
    decide +kernel
  have timeStops : ((timeHost.run (timeAppend 1)).any fun before =>
      before.shutdown.any fun stopping =>
        decide (Along TimeHost.step TimeHost.ErrorFree stopping timeStop) &&
          (stopping.run timeStop).any fun after => decide (after.phase = .stopped)) = true := by
    decide +kernel
  have telemetryServes : Along TelemetryHost.step TelemetryHost.ServingStep telemetryHost
      [.submit (snapshot 1)] := by
    decide +kernel
  have telemetryStops : ((telemetryHost.run [.submit (snapshot 1)]).any fun before =>
      before.shutdown.any fun stopping =>
        decide (Along TelemetryHost.step TelemetryHost.ErrorFree stopping telemetryStop) &&
          (stopping.run telemetryStop).any fun after =>
            decide (after.phase = .stopped)) = true := by
    decide +kernel
  refine ⟨?_, ?_⟩
  · obtain ⟨before, runs, stops⟩ := (Option.any_eq_true ..).mp timeStops
    obtain ⟨stopping, shuts, stops⟩ := (Option.any_eq_true ..).mp stops
    obtain ⟨free, stops⟩ := (Bool.and_eq_true_iff ..).mp stops
    obtain ⟨after, ends, stopped⟩ := (Option.any_eq_true ..).mp stops
    exact ⟨before, stopping, after, runs, shuts, ends,
      (shutdown_durable _ _).1 _ _ timeHost _ before stopping _ after timeHost_starts timeServes
        runs shuts (of_decide_eq_true free) ends (of_decide_eq_true stopped)⟩
  obtain ⟨before, runs, stops⟩ := (Option.any_eq_true ..).mp telemetryStops
  obtain ⟨stopping, shuts, stops⟩ := (Option.any_eq_true ..).mp stops
  obtain ⟨free, stops⟩ := (Bool.and_eq_true_iff ..).mp stops
  obtain ⟨after, ends, stopped⟩ := (Option.any_eq_true ..).mp stops
  exact ⟨before, stopping, after, runs, shuts, ends,
    (shutdown_durable _ _).2 _ _ telemetryHost _ before stopping _ after telemetryHost_starts
      telemetryServes runs shuts (of_decide_eq_true free) ends (of_decide_eq_true stopped)⟩

open StorageExample in
/-- An accepted observation is lost when the thread takes the message to stop first. -/
theorem shutdown_loses :
    TimeHost.start (fun _ => none) [⟨"time-1", timeConfig 1⟩] [] 1 = .ok timeHost ∧
    Along TimeHost.step TimeHost.ServingStep timeHost [.submit (observation 1)] ∧
    ∃ before stopping after, timeHost.run [.submit (observation 1)] = some before ∧
      before.shutdown = some stopping ∧
      Along TimeHost.step TimeHost.ErrorFree stopping
        [.storage .succeeds, .storage .succeeds] ∧
      stopping.run [.storage .succeeds, .storage .succeeds] = some after ∧
      after.phase = .stopped ∧ observation 1 ∈ acceptedRecords [.submit (observation 1)] ∧
      ∀ spec ∈ after.worker.repository.specs, after.disk.observationsAt spec.path = [] := by
  have along : Along TimeHost.step TimeHost.ServingStep timeHost [.submit (observation 1)] := by
    decide +kernel
  have submits : ((timeHost.run [.submit (observation 1)]).bind TimeHost.shutdown).any
      (fun stopping => decide (Along TimeHost.step TimeHost.ErrorFree stopping
          [.storage .succeeds, .storage .succeeds]) &&
        (stopping.run [.storage .succeeds, .storage .succeeds]).any fun after =>
          decide (after.phase = .stopped ∧ ∀ spec ∈ after.worker.repository.specs,
            after.disk.observationsAt spec.path = [])) = true := by
    decide +kernel
  obtain ⟨stopping, runs, checked⟩ := (Option.any_eq_true ..).mp submits
  obtain ⟨before, runs, stops⟩ := Option.bind_eq_some_iff.mp runs
  obtain ⟨free, ends⟩ := (Bool.and_eq_true_iff ..).mp checked
  obtain ⟨after, runs', stopped⟩ := (Option.any_eq_true ..).mp ends
  obtain ⟨stopped, lost⟩ := of_decide_eq_true stopped
  exact ⟨timeHost_starts, along, before, stopping, after, runs, stops, of_decide_eq_true free,
    runs', stopped, List.mem_singleton.mpr rfl, lost⟩

end SensorSystem.Host
