import SensorSystem.Host.Channel.Transaction
import SensorSystem.Host.Protocol.ControlWire

/-! `channel_scheduler.rs`: which of the ready transactions gets the half-duplex channel next. The
scheduler only chooses; it has no state of its own. -/

namespace SensorSystem.Host

open Base
open Framing (hostAddress broadcastAddress)

/-- A class of work competing for one half-duplex channel. -/
inductive TrafficClass where
  | control
  | measurement
  | timeSync
  | health
  | telemetry
  | diagnostics
deriving DecidableEq

structure WorkCandidate where
  workId : UInt64
  nodeAddress : UInt8
  class_ : TrafficClass
  readyAt : MonotonicMicros
  deadline : Option MonotonicMicros
  queuedAt : MonotonicMicros
  timeToOverflowUs : Option UInt64
  estimatedSlot : DurationMicros

structure ScheduleContext where
  now : MonotonicMicros
  observability : ObservabilityProfile
  diagnosticBudgetUs : UInt64

structure ScheduledWork where
  candidateIndex : Nat
  workId : UInt64
  nodeAddress : UInt8
  class_ : TrafficClass

structure ChannelSchedulerPolicy where
  overflowGuard : DurationMicros
  maxSlot : DurationMicros
deriving DecidableEq

structure ChannelScheduler where
  policy : ChannelSchedulerPolicy
deriving DecidableEq

inductive SchedulerError where
  | invalidNodeAddress (address : UInt8)
  | slotExceedsPolicy (workId estimatedUs maximumUs : UInt64)
  | overflowOnNonMeasurement (workId : UInt64)
  | missingDeadline (workId : UInt64)
  | missingOverflowEstimate (workId : UInt64)
  | diagnosticDeadline (workId : UInt64)
deriving DecidableEq

def classOrder : TrafficClass → UInt64
  | .control => 0
  | .measurement => 1
  | .timeSync => 2
  | .health => 3
  | .telemetry => 4
  | .diagnostics => 5

structure Rank where
  tier : UInt8
  primary : UInt64
  secondary : UInt64
  nodeAddress : UInt8
  workId : UInt64

namespace Rank

def new (tier : UInt8) (primary secondary : UInt64) (candidate : WorkCandidate) : Rank where
  tier
  primary
  secondary
  nodeAddress := candidate.nodeAddress
  workId := candidate.workId

/-- The fields in the order in which the derived `Ord` compares them. -/
def key (rank : Rank) : List Nat :=
  [rank.tier.toNat, rank.primary.toNat, rank.secondary.toNat, rank.nodeAddress.toNat,
    rank.workId.toNat]

end Rank

/-- `saturating_add` on microseconds. -/
def saturatingAdd (left right : UInt64) : UInt64 :=
  (checkedAdd left right).getD (UInt64.ofNat (2 ^ 64 - 1))

namespace ChannelScheduler

variable (scheduler : ChannelScheduler)

def validateCandidate (candidate : WorkCandidate) : Except SchedulerError Unit :=
  if candidate.nodeAddress = hostAddress ∨ candidate.nodeAddress = broadcastAddress then
    .error (.invalidNodeAddress candidate.nodeAddress)
  else if candidate.estimatedSlot.value > scheduler.policy.maxSlot.value then
    .error (.slotExceedsPolicy candidate.workId candidate.estimatedSlot.value
      scheduler.policy.maxSlot.value)
  else match candidate.class_ with
    | .measurement =>
      if candidate.deadline = none then .error (.missingDeadline candidate.workId)
      else if candidate.timeToOverflowUs = none then
        .error (.missingOverflowEstimate candidate.workId)
      else .ok ()
    | .diagnostics =>
      if candidate.deadline.isSome then .error (.diagnosticDeadline candidate.workId)
      else if candidate.timeToOverflowUs.isSome then
        .error (.overflowOnNonMeasurement candidate.workId)
      else .ok ()
    | _ =>
      if candidate.deadline = none then .error (.missingDeadline candidate.workId)
      else if candidate.timeToOverflowUs.isSome then
        .error (.overflowOnNonMeasurement candidate.workId)
      else .ok ()

variable (context : ScheduleContext)

/-- Imminent overflow first, then work whose deadline has come. -/
def urgentRank (candidate : WorkCandidate) : Option Rank :=
  let overflow := candidate.timeToOverflowUs.filter
    (· ≤ scheduler.policy.overflowGuard.value)
  let due := candidate.deadline.filter
    (· ≤ saturatingAdd context.now candidate.estimatedSlot.value)
  match overflow, due with
  | some timeToOverflowUs, _ => some (.new 0 timeToOverflowUs candidate.queuedAt candidate)
  | none, some deadline => some (.new 1 deadline (classOrder candidate.class_) candidate)
  | none, none => none

def rank (scheduler : ChannelScheduler) (context : ScheduleContext)
    (candidate : WorkCandidate) : Option Rank :=
  if candidate.readyAt > context.now then none
  else if candidate.class_ = .diagnostics ∧ (context.observability ≠ .diagnostic ∨
      candidate.estimatedSlot.value > context.diagnosticBudgetUs) then none
  else match scheduler.urgentRank context candidate with
    | some rank => some rank
    | none =>
      match candidate.class_ with
      | .measurement =>
        some (.new 2 (candidate.timeToOverflowUs.getD (UInt64.ofNat (2 ^ 64 - 1)))
          candidate.queuedAt candidate)
      | .control => some (.new 3 candidate.queuedAt 0 candidate)
      | .diagnostics => some (.new 4 candidate.queuedAt 0 candidate)
      | _ => none

/-- The loop of `select` over the candidates that are left. -/
def selectLoop (scheduler : ChannelScheduler) (context : ScheduleContext) (index : Nat)
    (selected : Option (ScheduledWork × Rank)) :
    List WorkCandidate → Except SchedulerError (Option ScheduledWork)
  | [] => .ok (selected.map (·.1))
  | candidate :: rest => do
    scheduler.validateCandidate candidate
    match scheduler.rank context candidate with
    | none => scheduler.selectLoop context (index + 1) selected rest
    | some rank =>
      if selected.all fun best => rank.key < best.2.key then
        scheduler.selectLoop context (index + 1)
          (some (⟨index, candidate.workId, candidate.nodeAddress, candidate.class_⟩, rank)) rest
      else scheduler.selectLoop context (index + 1) selected rest

def select (candidates : List WorkCandidate) : Except SchedulerError (Option ScheduledWork) :=
  scheduler.selectLoop context 0 none candidates

end ChannelScheduler
end SensorSystem.Host
