import SensorSystem.Host.Protocol.ObservationWire
import SensorSystem.Node.Protocol.ControlCodecs

/-! The driver's temperature read, the producer that fills the snapshot cache, the service that
answers from the cache and the host's decoder of the answers. -/

namespace SensorSystem.Node.Telemetry

open Base Host List
open Node.Wire (ResponseStatus SensorStatus)

def maximumReadAttempts : Nat := 3

def decodeRaw (temp2 temp1 : UInt8) : UInt16 :=
  (temp2 &&& 0x0F).toUInt16 <<< 8 ||| temp1.toUInt16

def isPlausibleRaw (raw : UInt16) : Bool := 750 ≤ raw && raw ≤ 2700

def absoluteDelta (lhs rhs : UInt16) : UInt16 := if lhs ≥ rhs then lhs - rhs else rhs - lhs

def readingsAreCoherent (lhs rhs : UInt16) : Bool := absoluteDelta lhs rhs ≤ 2

/-- What the bus returns, by the number of attempts left after the read. -/
abbrev Bus := Nat → SensorStatus × UInt8 × UInt8

def readTemperatureRaw (bus : Bus) : Option UInt16 → Nat → Except SensorStatus UInt16
  | _, 0 => .error .invalidSample
  | previous, left + 1 =>
    let candidate := decodeRaw (bus left).2.1 (bus left).2.2
    if (bus left).1 ≠ .ok then .error (bus left).1
    else if !isPlausibleRaw candidate then readTemperatureRaw bus none left
    else if previous.any (readingsAreCoherent · candidate) then .ok candidate
    else readTemperatureRaw bus (some candidate) left

/-- With so many attempts left after it, the bus gave this credible value. -/
def Reads (bus : Bus) (left : Nat) (raw : UInt16) : Prop :=
  (bus left).1 = .ok ∧ decodeRaw (bus left).2.1 (bus left).2.2 = raw ∧ isPlausibleRaw raw

/-- With so many attempts left, the value agrees with the one read before it. -/
def AgreesAt (bus : Bus) (left : Nat) (raw : UInt16) : Prop :=
  left + 1 < maximumReadAttempts ∧
    ∃ before, Reads bus (left + 1) before ∧ Reads bus left raw ∧ readingsAreCoherent before raw

/-- Among the reads with fewer attempts left, the first value that agrees with the one before it,
before the bus fails. -/
def SettlesWithin (bus : Bus) (attempts : Nat) (raw : UInt16) : Prop :=
  ∃ left < attempts, AgreesAt bus left raw ∧
    (∀ other, left ≤ other → other < attempts → (bus other).1 = .ok) ∧
    ∀ other value, left < other → other < attempts → ¬ AgreesAt bus other value

/-- What the sensor settles on in all of its attempts. -/
def Settles (bus : Bus) (raw : UInt16) : Prop :=
  SettlesWithin bus maximumReadAttempts raw

theorem Settles.credible {bus : Bus} {raw : UInt16} (settles : Settles bus raw) :
    isPlausibleRaw raw := by
  obtain ⟨-, -, ⟨-, -, -, ⟨-, -, credible⟩, -⟩, -⟩ := settles
  exact credible

theorem settlesWithin_succ {bus : Bus} {raw : UInt16} {left : Nat} (ok : (bus left).1 = .ok)
    (disagrees : ∀ value, ¬ AgreesAt bus left value) :
    SettlesWithin bus (left + 1) raw ↔ SettlesWithin bus left raw := by
  constructor
  · rintro ⟨at_, inside, agrees, working, first⟩
    have other : at_ ≠ left := fun same => disagrees raw (same ▸ agrees)
    exact ⟨at_, by omega, agrees, fun other low high => working other low (by omega),
      fun other value low high => first other value low (by omega)⟩
  rintro ⟨at_, inside, agrees, working, first⟩
  refine ⟨at_, by omega, agrees, fun other low high => ?_, fun other value low high => ?_⟩
  · obtain rfl | within := Nat.eq_or_lt_of_le (Nat.le_of_lt_succ high)
    · exact ok
    · exact working other low within
  · obtain rfl | within := Nat.eq_or_lt_of_le (Nat.le_of_lt_succ high)
    · exact disagrees value
    · exact first other value low within

theorem read_eq_ok_iff {bus : Bus} {raw : UInt16} {left : Nat} {previous : Option UInt16}
    (bounded : left ≤ maximumReadAttempts)
    (known : ∀ before,
      previous = some before ↔ left < maximumReadAttempts ∧ Reads bus left before) :
    readTemperatureRaw bus previous left = .ok raw ↔ SettlesWithin bus left raw := by
  induction left generalizing previous with
  | zero => simp [readTemperatureRaw, SettlesWithin]
  | succ left ih =>
    simp only [readTemperatureRaw]
    split
    next failed =>
      refine ⟨nofun, ?_⟩
      rintro ⟨at_, inside, -, working, -⟩
      exact absurd (working left (Nat.le_of_lt_succ inside) (Nat.lt_succ_self left)) failed
    next ok =>
    have ok : (bus left).1 = .ok := by simpa using ok
    split
    next strange =>
      have none : ∀ value, ¬ Reads bus left value := by
        rintro value ⟨-, rfl, credible⟩
        simp [credible] at strange
      rw [settlesWithin_succ ok fun value agrees => none value agrees.2.choose_spec.2.1]
      exact ih (by omega) fun before => ⟨nofun, fun reads => absurd reads.2 (none before)⟩
    next credible =>
    have here : Reads bus left (decodeRaw (bus left).2.1 (bus left).2.2) :=
      ⟨ok, rfl, by simpa using credible⟩
    split
    next agrees =>
      obtain ⟨before, same, coherent⟩ := (Option.any_eq_true _ previous).mp agrees
      obtain ⟨inside, reads⟩ := (known before).mp same
      have settled : AgreesAt bus left (decodeRaw (bus left).2.1 (bus left).2.2) :=
        ⟨inside, before, reads, here, coherent⟩
      constructor
      · rintro ⟨⟩
        exact ⟨left, Nat.lt_succ_self left, settled,
          fun other low high => (by omega : left = other) ▸ ok,
          fun other value low high => by omega⟩
      rintro ⟨at_, inside, later, -, first⟩
      obtain rfl | within := Nat.eq_or_lt_of_le (Nat.le_of_lt_succ inside)
      · obtain ⟨-, -, -, ⟨-, rfl, -⟩, -⟩ := later
        rfl
      · exact absurd settled (first left _ within (Nat.lt_succ_self left))
    next disagrees =>
      rw [settlesWithin_succ ok]
      · refine ih (by omega) fun before => ⟨?_, ?_⟩
        · rintro ⟨⟩
          exact ⟨bounded, here⟩
        · rintro ⟨-, -, rfl, -⟩
          rfl
      · rintro value ⟨inside, before, reads, ⟨-, rfl, -⟩, coherent⟩
        refine disagrees ((Option.any_eq_true _ previous).mpr ⟨before, ?_, coherent⟩)
        exact (known before).mpr ⟨inside, reads⟩

theorem read_eq_ok_iff_settles {bus : Bus} {raw : UInt16} :
    readTemperatureRaw bus none maximumReadAttempts = .ok raw ↔ Settles bus raw :=
  read_eq_ok_iff le_rfl fun _ => ⟨nofun, fun inside => absurd inside.1 (lt_irrefl _)⟩

structure Snapshot where
  capturedDeviceTimeUs : UInt64 := 0
  validFields : UInt16 := 0
  adxl355TemperatureRaw : UInt16 := 0

/-- `SnapshotCache::publish`; at first the cache holds nothing. -/
def publish (cache : Option Snapshot) (snapshot : Snapshot) : Bool × Option Snapshot :=
  if snapshot.capturedDeviceTimeUs = 0 ∨ snapshot.validFields ≠ adxl355TemperatureField then
    (false, cache)
  else (true, some snapshot)

structure TelemetryRuntimePolicy where
  refreshIntervalUs : UInt64 := 60 * 1000 * 1000
  retryIntervalUs : UInt64 := 1000 * 1000

def TelemetryRuntimePolicy.valid (policy : TelemetryRuntimePolicy) : Bool :=
  policy.refreshIntervalUs > 0 && policy.retryIntervalUs > 0 &&
    policy.retryIntervalUs ≤ policy.refreshIntervalUs

/-- `hasClock` is false where the device time source is null. -/
structure TelemetryRuntime where
  hasClock : Bool
  policy : TelemetryRuntimePolicy := {}
  cache : Option Snapshot := none
  lastStatus : SensorStatus := .noData
  nextRefreshUs : UInt64 := 0
  successfulRefreshes : UInt32 := 0
  failedRefreshes : UInt32 := 0

/-- What one poll meets: the clock before and after the read, and the bus. -/
structure Poll where
  nowUs : UInt64
  bus : Bus
  capturedUs : UInt64

def saturatingAdd (lhs rhs : UInt64) : UInt64 :=
  if 0xFFFFFFFFFFFFFFFF - lhs < rhs then 0xFFFFFFFFFFFFFFFF else lhs + rhs

def increment (value : UInt32) : UInt32 := if value ≠ 0xFFFFFFFF then value + 1 else value

namespace TelemetryRuntime

def ready (runtime : TelemetryRuntime) : Bool := runtime.hasClock && runtime.policy.valid

def waits (runtime : TelemetryRuntime) (nowUs : UInt64) : Bool :=
  runtime.nextRefreshUs ≠ 0 && nowUs < runtime.nextRefreshUs

def failed (runtime : TelemetryRuntime) (status : SensorStatus) (capturedUs : UInt64) :
    TelemetryRuntime :=
  { runtime with
    lastStatus := status
    failedRefreshes := increment runtime.failedRefreshes
    nextRefreshUs := saturatingAdd capturedUs runtime.policy.retryIntervalUs }

def poll (runtime : TelemetryRuntime) (poll : Poll) : TelemetryRuntime :=
  if !runtime.ready then
    { runtime with
      lastStatus := .invalidParam, failedRefreshes := increment runtime.failedRefreshes }
  else if runtime.waits poll.nowUs then runtime
  else match readTemperatureRaw poll.bus none maximumReadAttempts with
    | .error status => runtime.failed status poll.capturedUs
    | .ok raw =>
      let (published, cache) :=
        publish runtime.cache ⟨poll.capturedUs, adxl355TemperatureField, raw⟩
      if poll.capturedUs ≠ 0 && published then
        { runtime with
          cache
          lastStatus := .ok
          successfulRefreshes := increment runtime.successfulRefreshes
          nextRefreshUs := saturatingAdd poll.capturedUs runtime.policy.refreshIntervalUs }
      else runtime.failed .invalidSample poll.capturedUs

/-- The capture time and the value of a poll that reads the sensor. -/
def refreshed (runtime : TelemetryRuntime) (poll : Poll) : Option (UInt64 × UInt16) :=
  if runtime.ready && !runtime.waits poll.nowUs && poll.capturedUs ≠ 0 then
    (readTemperatureRaw poll.bus none maximumReadAttempts).toOption.map (poll.capturedUs, ·)
  else none

/-- The poll reads the sensor. -/
def accesses (runtime : TelemetryRuntime) (poll : Poll) : Bool :=
  runtime.ready && !runtime.waits poll.nowUs

/-- How long the sensor rests after a poll that reads it. -/
def interval (runtime : TelemetryRuntime) (poll : Poll) : UInt64 :=
  if (runtime.refreshed poll).isSome then runtime.policy.refreshIntervalUs
  else runtime.policy.retryIntervalUs

variable {runtime : TelemetryRuntime} {timeUs : UInt64} {raw : UInt16}

/-- A poll that reads the sensor refuses a capture time of zero. -/
theorem refreshed_eq_some {next : Poll} : runtime.refreshed next = some (timeUs, raw) ↔
    runtime.accesses next ∧ next.capturedUs ≠ 0 ∧ Settles next.bus raw ∧
      timeUs = next.capturedUs := by
  rw [refreshed, accesses, ← read_eq_ok_iff_settles]
  split
  next due =>
    simp only [Bool.and_eq_true, decide_eq_true_eq] at due
    cases readTemperatureRaw next.bus none maximumReadAttempts with
    | error status => simp [Except.toOption]
    | ok value => grind [Except.toOption]
  next idle =>
    simp only [Bool.and_eq_true, decide_eq_true_eq] at idle
    grind

theorem isSome_refreshed {next : Poll} : (runtime.refreshed next).isSome ↔
    runtime.accesses next ∧ next.capturedUs ≠ 0 ∧ ∃ raw, Settles next.bus raw := by
  rw [Option.isSome_iff_exists]
  constructor
  · rintro ⟨⟨timeUs, raw⟩, fresh⟩
    obtain ⟨reads, captured, settles, -⟩ := refreshed_eq_some.mp fresh
    exact ⟨reads, captured, raw, settles⟩
  · rintro ⟨reads, captured, raw, settles⟩
    exact ⟨_, refreshed_eq_some.mpr ⟨reads, captured, settles, rfl⟩⟩

theorem poll_policy (runtime : TelemetryRuntime) (next : Poll) :
    (runtime.poll next).policy = runtime.policy := by
  unfold poll
  grind [failed]

theorem run_policy (runtime : TelemetryRuntime) (polls : List Poll) :
    (polls.foldl poll runtime).policy = runtime.policy := by
  induction polls generalizing runtime with
  | nil => rfl
  | cons next polls ih => exact (ih _).trans (poll_policy runtime next)

/-- A poll by what it refreshes. -/
theorem poll_spec (runtime : TelemetryRuntime) (next : Poll) :
    (runtime.poll next).cache = ((runtime.refreshed next).map fun fresh =>
        ⟨fresh.1, adxl355TemperatureField, fresh.2⟩).or runtime.cache ∧
      (runtime.poll next).nextRefreshUs =
        if runtime.accesses next then saturatingAdd next.capturedUs (runtime.interval next)
        else runtime.nextRefreshUs := by
  unfold poll interval refreshed accesses
  cases runtime.ready <;> cases runtime.waits next.nowUs <;>
    cases readTemperatureRaw next.bus none maximumReadAttempts <;>
    by_cases zero : next.capturedUs = 0 <;>
    simp [zero, publish, failed, Except.toOption]

theorem le_saturatingAdd (lhs rhs : UInt64) :
    lhs ≤ saturatingAdd lhs rhs ∧ rhs ≤ saturatingAdd lhs rhs := by
  unfold saturatingAdd
  split <;> grind

/-- A sensor that was read rests for some time. -/
theorem due_pos {next : Poll} (reads : runtime.accesses next) :
    0 < saturatingAdd next.capturedUs (runtime.interval next) := by
  refine UInt64.lt_of_lt_of_le ?_ (le_saturatingAdd next.capturedUs _).2
  simp only [accesses, ready, TelemetryRuntimePolicy.valid, Bool.and_eq_true,
    decide_eq_true_eq] at reads
  unfold interval
  split
  · exact reads.1.2.1.1
  · exact reads.1.2.1.2

/-- When a poll behind another one is due. -/
theorem accesses_after {next later : Poll} : (runtime.poll next).accesses later ↔
    if runtime.accesses next then
      saturatingAdd next.capturedUs (runtime.interval next) ≤ later.nowUs
    else runtime.accesses later := by
  have ready : (runtime.poll next).ready = runtime.ready := by
    unfold poll
    grind [TelemetryRuntime.ready, failed]
  have due := (poll_spec runtime next).2
  rw [accesses, waits, ready, due]
  split
  next reads =>
    have positive := due_pos reads
    have working : runtime.ready := (Bool.and_eq_true_iff.mp reads).1
    have other : saturatingAdd next.capturedUs (runtime.interval next) ≠ 0 := by grind
    simp [working, other]
  · rfl

theorem le_of_accesses {next : Poll} {bound : UInt64} (positive : 0 < bound)
    (rests : bound ≤ runtime.nextRefreshUs) (reads : runtime.accesses next) :
    bound ≤ next.nowUs := by
  simp only [accesses, waits, Bool.and_eq_true, Bool.not_eq_true', Bool.and_eq_false_iff,
    decide_eq_false_iff_not, not_not, UInt64.not_lt] at reads
  obtain ⟨-, zero | passed⟩ := reads
  · grind
  · exact UInt64.le_trans rests passed

theorem rests_run {bound : UInt64} {polls : List Poll} (positive : 0 < bound)
    (rests : bound ≤ runtime.nextRefreshUs)
    (forward : ∀ next ∈ polls, next.nowUs ≤ next.capturedUs) :
    bound ≤ (polls.foldl poll runtime).nextRefreshUs := by
  induction polls generalizing runtime with
  | nil => exact rests
  | cons next polls ih =>
    refine ih ?_ fun other among => forward other (mem_cons_of_mem next among)
    rw [(poll_spec _ _).2]
    split
    next reads =>
      have due := le_of_accesses positive rests reads
      have captured := forward next mem_cons_self
      exact UInt64.le_trans (UInt64.le_trans due captured) (le_saturatingAdd _ _).1
    · exact rests

/-- Whatever comes between, after a read the sensor rests for the refresh interval, or for the
retry interval if the read failed, when no poll captures a time before its start. -/
theorem accesses_spaced (runtime : TelemetryRuntime) (first second : Poll) (between : List Poll)
    (reads : runtime.accesses first) (forward : ∀ next ∈ between, next.nowUs ≤ next.capturedUs)
    (again : (between.foldl poll (runtime.poll first)).accesses second) :
    saturatingAdd first.capturedUs (runtime.interval first) ≤ second.nowUs := by
  refine le_of_accesses (due_pos reads) (rests_run (due_pos reads) ?_ forward) again
  rw [(poll_spec _ _).2, if_pos reads]
  exact UInt64.le_refl _

/-- A failed read at 5 us is repeated after 2 us. -/
theorem accesses_spaced_of_failed : saturatingAdd 5 2 ≤ 7 :=
  accesses_spaced { hasClock := true, policy := ⟨60, 2⟩ } ⟨4, fun _ => (.timeout, 0, 0), 5⟩
    ⟨7, fun _ => (.ok, 0, 0), 8⟩ [⟨6, fun _ => (.ok, 0, 0), 6⟩] (by decide) (by decide)
    (by decide)

end TelemetryRuntime

/-- `TelemetryServiceHandler::handle`, with the bytes it writes as its result. -/
def handle (source : Option Snapshot) (message : UInt8) (requestPayloadSize capacity : Nat) :
    List UInt8 :=
  if capacity = 0 then []
  else if message ≠ getTelemetrySnapshotMessageId then
    [ResponseStatus.unsupportedMessage.toByte]
  else if requestPayloadSize ≠ 0 then [ResponseStatus.malformedRequest.toByte]
  else if capacity < telemetrySnapshotResponseBytes then
    [ResponseStatus.internalError.toByte]
  else match source with
    | none => [ResponseStatus.busy.toByte]
    | some snapshot =>
      if snapshot.capturedDeviceTimeUs = 0 ∨
          snapshot.validFields ≠ adxl355TemperatureField then
        [ResponseStatus.internalError.toByte]
      else [ResponseStatus.ok.toByte, telemetrySchemaVersion] ++
        u64Bytes snapshot.capturedDeviceTimeUs ++ u16Bytes snapshot.validFields ++
        u16Bytes snapshot.adxl355TemperatureRaw

end SensorSystem.Node.Telemetry

namespace SensorSystem.System

open Node.Telemetry
open Host (TelemetrySnapshot TelemetryWireError decodeTelemetrySnapshot)

theorem decode_handle {timeUs : UInt64} {raw : UInt16} (spare : Nat) (captured : timeUs ≠ 0)
    (credible : isPlausibleRaw raw) :
    ∃ snapshot : TelemetrySnapshot, snapshot.capturedDeviceTimeUs = timeUs ∧
      snapshot.adxl355Temperature.value = raw ∧
      decodeTelemetrySnapshot (handle (some ⟨timeUs, Host.adxl355TemperatureField, raw⟩)
        Host.getTelemetrySnapshotMessageId 0 (Host.telemetrySnapshotResponseBytes + spare)) =
          .ok snapshot := by
  have within : 750 ≤ raw ∧ raw ≤ 2700 := by simpa [isPlausibleRaw] using credible
  refine ⟨⟨timeUs, raw, within⟩, rfl, rfl, ?_⟩
  have accepted : Host.ResponseStatus.tryFrom 0 = some .ok := rfl
  have roomy : ¬ 14 + spare < 14 := by omega
  simp [handle, decodeTelemetrySnapshot, Node.Wire.ResponseStatus.toByte, accepted, captured,
    within, roomy, Host.telemetrySnapshotResponseBytes]

/-- What the host reads from an answer of the service. -/
def answer (runtime : TelemetryRuntime) (spare : Nat) :
    Except TelemetryWireError (UInt64 × UInt16) :=
  (decodeTelemetrySnapshot (handle runtime.cache Host.getTelemetrySnapshotMessageId 0
    (Host.telemetrySnapshotResponseBytes + spare))).map
      fun snapshot => (snapshot.capturedDeviceTimeUs, snapshot.adxl355Temperature.value)

/-- The host reads Busy at first. A poll that is due, captures a time other than zero and finds a
settled value makes the host read this value and time; any other poll changes nothing that the
host reads. The first poll of a ready producer is due, and one after a read when the refresh
interval, or after a failure the retry interval, has passed. -/
theorem snapshots_follow_sensor (hasClock : Bool) (policy : TelemetryRuntimePolicy) (spare : Nat) :
    let start : TelemetryRuntime := { hasClock, policy }
    answer start spare = .error (.remote .busy) ∧
    (∀ next, start.accesses next ↔ hasClock ∧ policy.valid) ∧
    ∀ (polls : List Poll) (next : Poll),
      let runtime := polls.foldl TelemetryRuntime.poll start
      (∀ raw, runtime.accesses next → next.capturedUs ≠ 0 → Settles next.bus raw →
        answer (runtime.poll next) spare = .ok (next.capturedUs, raw)) ∧
      (¬ (runtime.accesses next ∧ next.capturedUs ≠ 0 ∧ ∃ raw, Settles next.bus raw) →
        answer (runtime.poll next) spare = answer runtime spare) ∧
      ∀ later,
        (runtime.accesses next → (next.capturedUs ≠ 0 ∧ ∃ raw, Settles next.bus raw) →
          ((runtime.poll next).accesses later ↔
            saturatingAdd next.capturedUs policy.refreshIntervalUs ≤ later.nowUs)) ∧
        (runtime.accesses next → ¬ (next.capturedUs ≠ 0 ∧ ∃ raw, Settles next.bus raw) →
          ((runtime.poll next).accesses later ↔
            saturatingAdd next.capturedUs policy.retryIntervalUs ≤ later.nowUs)) ∧
        (¬ runtime.accesses next →
          ((runtime.poll next).accesses later ↔ runtime.accesses later)) := by
  intro start
  refine ⟨?_, ?_, ?_⟩
  · have busy : Host.ResponseStatus.tryFrom 5 = some .busy := rfl
    have roomy : ¬ 14 + spare < 14 := by omega
    simp [start, answer, handle, decodeTelemetrySnapshot, Node.Wire.ResponseStatus.toByte, busy,
      roomy, Host.telemetrySnapshotResponseBytes, Except.map]
  · intro next
    simp [start, TelemetryRuntime.accesses, TelemetryRuntime.ready, TelemetryRuntime.waits]
  intro polls next runtime
  obtain ⟨cached, due⟩ := TelemetryRuntime.poll_spec runtime next
  refine ⟨?_, ?_, ?_⟩
  · intro raw reads captured settles
    obtain ⟨snapshot, timed, valued, decoded⟩ := decode_handle spare captured settles.credible
    have fresh := TelemetryRuntime.refreshed_eq_some.mpr ⟨reads, captured, settles, rfl⟩
    rw [fresh] at cached
    rw [answer, cached]
    simp only [Option.map_some, Option.some_or, decoded, Except.map, timed, valued]
  · intro idle
    have nothing : runtime.refreshed next = none :=
      Option.not_isSome_iff_eq_none.mp (TelemetryRuntime.isSome_refreshed.not.mpr idle)
    rw [nothing] at cached
    rw [answer, cached]
    rfl
  · intro later
    have after : (runtime.poll next).accesses later ↔ _ := TelemetryRuntime.accesses_after
    have same : runtime.policy = policy := TelemetryRuntime.run_policy start polls
    refine ⟨fun reads fresh => ?_, fun reads stale => ?_, fun idle => ?_⟩
    · have refreshed := TelemetryRuntime.isSome_refreshed.mpr ⟨reads, fresh⟩
      rwa [if_pos reads, TelemetryRuntime.interval, if_pos refreshed, same] at after
    · have failed : ¬ (runtime.refreshed next).isSome := fun refreshed =>
        stale (TelemetryRuntime.isSome_refreshed.mp refreshed).2
      rwa [if_pos reads, TelemetryRuntime.interval, if_neg failed, same] at after
    · rwa [if_neg idle] at after

end SensorSystem.System
