import SensorSystem.Base.Logs
import SensorSystem.Host.Channel.Transaction

/-! A run makes calls on one core in any order, with times that do not decrease. Its log holds the
transactions it prepared and transmitted, the frames it accepted and the expiries it observed, and
each entry is justified by the log before it. -/

namespace SensorSystem.Host

open List TransactionCore
open Base
open Framing (Frame hostAddress)

inductive TransactionCall where
  | prepare (request : RequestSpec)
  | prepareRouted (request : RoutedRequestSpec)
  | markTransmitted (now : MonotonicMicros)
  | cancelTransmit
  | receive (now : MonotonicMicros) (frame : Frame)
  | onTimer (now : MonotonicMicros)

def TransactionCall.time : TransactionCall → Option MonotonicMicros
  | markTransmitted now | receive now _ | onTimer now => some now
  | prepare _ | prepareRouted _ | cancelTransmit => none

inductive TransactionEvent where
  | prepared (transaction : PreparedTransaction) (clock : MonotonicMicros)
  | transmitted (active : ActiveTransaction) (now : MonotonicMicros)
  | accepted (now : MonotonicMicros) (frame : Frame)
  | expired (active : ActiveTransaction) (now : MonotonicMicros)

namespace TransactionEvent

def isPrepared : TransactionEvent → Bool
  | prepared _ _ => true
  | _ => false

def isAccepted : TransactionEvent → Bool
  | accepted _ _ => true
  | _ => false

/-- Transactions that were prepared. -/
def preparations (events : List TransactionEvent) : Nat :=
  events.countP isPrepared

end TransactionEvent

/-- A core, the time of its last call and the log. -/
structure TransactionTrace where
  core : TransactionCore
  clock : MonotonicMicros := 0
  events : List TransactionEvent := []

namespace TransactionTrace

def log (trace : TransactionTrace) (event : TransactionEvent) (core : TransactionCore) :
    TransactionTrace :=
  { trace with core, events := trace.events ++ [event] }

/-- The time of a call passes, and with it perhaps the deadline. -/
def observe (trace : TransactionTrace) (now : MonotonicMicros) : TransactionTrace :=
  match trace.core.state with
  | .awaiting active =>
    if now ≤ active.deadline then { trace with clock := now }
    else { trace with clock := now, events := trace.events ++ [.expired active now] }
  | _ => { trace with clock := now }

def prepared (trace : TransactionTrace) :
    Except TransactionError (PreparedTransaction × TransactionCore) → TransactionTrace
  | .error _ => trace
  | .ok (transaction, core) => trace.log (.prepared transaction trace.clock) core

def call (trace : TransactionTrace) : TransactionCall → TransactionTrace
  | .prepare request => trace.prepared (trace.core.prepare request)
  | .prepareRouted request => trace.prepared (trace.core.prepareRouted request)
  | .markTransmitted now =>
    match trace.core.markTransmitted now with
    | .error _ => trace.observe now
    | .ok (active, core) => (trace.observe now).log (.transmitted active now) core
  | .cancelTransmit =>
    match trace.core.cancelTransmit with
    | .error _ => trace
    | .ok core => { trace with core }
  | .receive now frame =>
    match trace.core.receive now frame with
    | .error _ => trace.observe now
    | .ok (.accepted, core) => (trace.observe now).log (.accepted now frame) core
    | .ok (_, core) => { trace.observe now with core }
  | .onTimer now =>
    match trace.core.onTimer now with
    | .error _ => trace.observe now
    | .ok (_, core) => { trace.observe now with core }

def run (trace : TransactionTrace) (calls : List TransactionCall) : TransactionTrace :=
  calls.foldl call trace

end TransactionTrace

open TransactionEvent (preparations)

/-- The latest transaction of a log is prepared and no frame was accepted for it. -/
structure Pending (events : List TransactionEvent) (transaction : PreparedTransaction)
    (since : List TransactionEvent) : Prop where
  split : ∃ earlier clock, events = earlier ++ .prepared transaction clock :: since
  latest : preparations since = 0
  unanswered : since.countP TransactionEvent.isAccepted = 0

/-- The latest transaction of a log was sent and waits for its response. -/
structure Sent (events : List TransactionEvent) (transaction : PreparedTransaction)
    (active : ActiveTransaction) : Prop where
  pending : ∃ since now, Pending events transaction since ∧ .transmitted active now ∈ since ∧
    active.deadline.toNat = now.toNat + transaction.timeout.value.toNat
  same : active = transaction.activate active.deadline

/-- A frame is the response to a transaction. -/
structure Answers (frame : Frame) (transaction : PreparedTransaction) : Prop where
  role : frame.role = .response
  destination : frame.destination = hostAddress
  source : frame.source = transaction.nodeAddress
  service : frame.service = transaction.service
  message : frame.message = transaction.responseMessage
  transactionId : frame.transactionId = transaction.transactionId

/-- No id of an earlier transaction, up to a whole turn of the ids. -/
def NotDelayed (before : List TransactionEvent) (frame : Frame) : Prop :=
  ∀ earlier transaction clock later, before = earlier ++ .prepared transaction clock :: later →
    0 < preparations later → preparations later < 2 ^ 32 →
      frame.transactionId ≠ transaction.transactionId

def Correlated (quarantine : DurationMicros) (before : List TransactionEvent) :
    TransactionEvent → Prop
  | .prepared _ clock => ∀ active now, .expired active now ∈ before →
      active.deadline.toNat + quarantine.value.toNat ≤ clock.toNat
  | .transmitted _ _ => True
  | .accepted now frame =>
    (∃ transaction active, Sent before transaction active ∧ Answers frame transaction ∧
      now ≤ active.deadline) ∧ NotDelayed before frame
  | .expired active now => active.deadline < now

/-- The ids count up from the seed. -/
def Numbered (seed : UInt32) (before : List TransactionEvent) : TransactionEvent → Prop
  | .prepared transaction _ =>
    transaction.transactionId = seed + UInt32.ofNat (preparations before)
  | _ => True

namespace TransactionCore

variable {core after : TransactionCore} {now : MonotonicMicros}

/-- Both ways to prepare a transaction. -/
structure Prepares (core : TransactionCore) (transaction : PreparedTransaction)
    (after : TransactionCore) : Prop where
  idle : core.state = .idle
  id : transaction.transactionId = core.nextTransactionId
  next : after.nextTransactionId = core.nextTransactionId + 1
  quarantine : after.quarantineDuration = core.quarantineDuration
  state : after.state = .transmitting transaction

theorem prepares_of_prepare {request : RequestSpec} {transaction : PreparedTransaction}
    (done : core.prepare request = .ok (transaction, after)) : core.Prepares transaction after := by
  obtain ⟨idle, done⟩ := guard_eq_ok.mp done
  obtain ⟨-, done⟩ := guard_eq_ok.mp done
  cases done
  exact ⟨not_not.mp idle, rfl, rfl, rfl, rfl⟩

theorem prepares_of_prepareRouted {request : RoutedRequestSpec}
    {transaction : PreparedTransaction}
    (done : core.prepareRouted request = .ok (transaction, after)) :
    core.Prepares transaction after := by
  obtain ⟨idle, done⟩ := guard_eq_ok.mp done
  obtain ⟨-, done⟩ := guard_eq_ok.mp done
  cases done
  exact ⟨not_not.mp idle, rfl, rfl, rfl, rfl⟩

theorem markTransmitted_eq_ok {active : ActiveTransaction}
    (done : core.markTransmitted now = .ok (active, after)) :
    ∃ transaction, core.state = .transmitting transaction ∧
      active = transaction.activate active.deadline ∧
      active.deadline.toNat = now.toNat + transaction.timeout.value.toNat ∧
      after = { core with state := .awaiting active } := by
  rw [markTransmitted] at done
  split at done
  · rename_i transaction transmitting
    split at done
    · cases done
    · rename_i deadline sum
      cases done
      exact ⟨transaction, transmitting, rfl, (checkedAdd_eq_some.mp sum).symm, rfl⟩
  · cases done

theorem cancelTransmit_eq_ok (done : core.cancelTransmit = .ok after) :
    after = { core with state := .idle } ∧
      ∃ transaction, core.state = .transmitting transaction := by
  rw [cancelTransmit] at done
  split at done
  · rename_i transaction transmitting
    cases done
    exact ⟨rfl, transaction, transmitting⟩
  · cases done

/-- A call that meets a passed deadline. -/
structure Expires (core : TransactionCore) (now : MonotonicMicros) (after : TransactionCore) :
    Prop where
  passed : ∃ active until_, core.state = .awaiting active ∧ active.deadline < now ∧
    until_.toNat = active.deadline.toNat + core.quarantineDuration.value.toNat ∧
    after = { core with state := .quarantine active until_ }

theorem expires_of_enterQuarantine {active : ActiveTransaction} {until_ : MonotonicMicros}
    (awaiting : core.state = .awaiting active) (passed : ¬ now ≤ active.deadline)
    (done : core.enterQuarantine active = .ok (until_, after)) : core.Expires now after := by
  rw [enterQuarantine] at done
  split at done
  · cases done
  · rename_i sum
    cases done
    exact ⟨active, until_, awaiting, UInt64.not_le.mp passed, (checkedAdd_eq_some.mp sum).symm, rfl⟩

/-- The timer finds a deadline that has passed. -/
theorem onTimer_of_passed {active : ActiveTransaction} (awaiting : core.state = .awaiting active)
    (passed : active.deadline < now)
    (bounded : active.deadline.toNat + core.quarantineDuration.value.toNat < 2 ^ 64) :
    ∃ until_ after, core.onTimer now =
        .ok (.timedOut active.transactionId active.timeoutRecovery until_, after) ∧
      core.Expires now after := by
  have late : ¬ now ≤ active.deadline := UInt64.not_le.mpr passed
  obtain ⟨until_, sum⟩ : ∃ until_,
      checkedAdd active.deadline core.quarantineDuration.value = some until_ := by
    rw [checkedAdd, if_pos bounded]
    exact ⟨_, rfl⟩
  have entered : core.enterQuarantine active =
      .ok (until_, { core with state := .quarantine active until_ }) := by
    rw [enterQuarantine, sum]
  refine ⟨until_, _, ?_, expires_of_enterQuarantine awaiting late entered⟩
  simp only [onTimer, awaiting, late, if_false, entered]
  rfl

theorem receive_eq_ok {frame : Frame} {disposition : ResponseDisposition}
    (done : core.receive now frame = .ok (disposition, after)) :
    (disposition = .accepted ∧ ∃ active, core.state = .awaiting active ∧ now ≤ active.deadline ∧
      active.matchesFrame frame ∧ after = { core with state := .idle }) ∨
    (disposition ≠ .accepted ∧ (after = core ∨ core.Expires now after)) := by
  have late (expired : ActiveTransaction) : lateDisposition expired frame ≠ .accepted := by
    rw [lateDisposition]
    split <;> nofun
  rw [receive] at done
  split at done
  · cases done
    exact .inr ⟨nofun, .inl rfl⟩
  · cases done
    exact .inr ⟨nofun, .inl rfl⟩
  · rename_i active awaiting
    split at done
    · rename_i inTime
      split at done
      · rename_i found
        cases done
        exact .inl ⟨rfl, active, awaiting, inTime, found, rfl⟩
      · cases done
        exact .inr ⟨nofun, .inl rfl⟩
    rename_i passed
    obtain ⟨⟨until_, last⟩, entered, same⟩ := map_eq_ok.mp done
    cases same
    exact .inr ⟨late active, .inr (expires_of_enterQuarantine awaiting passed entered)⟩
  · cases done
    exact .inr ⟨late _, .inl rfl⟩

/-- A timer does nothing, meets a deadline, or ends the quarantine. -/
theorem onTimer_eq_ok {event : TimerEvent} (done : core.onTimer now = .ok (event, after)) :
    after = core ∨ core.Expires now after ∨
      ∃ expired until_, core.state = .quarantine expired until_ ∧ until_ ≤ now ∧
        after = { core with state := .idle } := by
  rw [onTimer] at done
  split at done
  · cases done
    exact .inl rfl
  · cases done
    exact .inl rfl
  · rename_i active awaiting
    split at done
    · cases done
      exact .inl rfl
    rename_i passed
    obtain ⟨⟨until_, last⟩, entered, same⟩ := map_eq_ok.mp done
    cases same
    exact .inr (.inl (expires_of_enterQuarantine awaiting passed entered))
  · rename_i expired until_ waiting
    split at done
    · cases done
      exact .inl rfl
    · rename_i ended
      cases done
      exact .inr (.inr ⟨expired, until_, waiting, UInt64.not_lt.mp ended, rfl⟩)

theorem answers_of_matchesFrame {transaction : PreparedTransaction} {deadline : MonotonicMicros}
    {frame : Frame} (found : (transaction.activate deadline).matchesFrame frame) :
    Answers frame transaction := by
  simp only [ActiveTransaction.matchesFrame, PreparedTransaction.activate, Bool.and_eq_true,
    beq_iff_eq] at found
  obtain ⟨⟨⟨⟨⟨role, destination⟩, source⟩, service⟩, message⟩, transactionId⟩ := found
  exact ⟨role, destination, source, service, message, transactionId⟩

end TransactionCore

theorem preparations_concat (events : List TransactionEvent) (event : TransactionEvent) :
    preparations (events ++ [event]) =
      preparations events + if event.isPrepared then 1 else 0 := by
  rw [preparations, countP_append, countP_singleton]
  rfl

variable {events : List TransactionEvent} {event : TransactionEvent}
  {transaction : PreparedTransaction} {active : ActiveTransaction}

theorem Pending.prepared (events : List TransactionEvent) (transaction : PreparedTransaction)
    (clock : MonotonicMicros) : Pending (events ++ [.prepared transaction clock]) transaction [] :=
  ⟨⟨events, clock, rfl⟩, rfl, rfl⟩

theorem Pending.concat {since : List TransactionEvent} (pending : Pending events transaction since)
    (other : event.isPrepared = false) (unanswered : event.isAccepted = false) :
    Pending (events ++ [event]) transaction (since ++ [event]) := by
  obtain ⟨earlier, clock, rfl⟩ := pending.split
  refine ⟨⟨earlier, clock, by simp⟩, ?_, ?_⟩
  · rw [preparations_concat, pending.latest, other]
    rfl
  · rw [countP_append, pending.unanswered, countP_singleton, unanswered]
    rfl

theorem Sent.concat (sent : Sent events transaction active) (other : event.isPrepared = false)
    (unanswered : event.isAccepted = false) : Sent (events ++ [event]) transaction active := by
  obtain ⟨since, now, pending, member, deadline⟩ := sent.pending
  exact ⟨⟨_, now, pending.concat other unanswered, mem_append_left _ member, deadline⟩,
    sent.same⟩

/-- Ids that count up differ until they have gone round. -/
theorem Sent.notDelayed {seed : UInt32} (sent : Sent events transaction active)
    (numbered : Justified (Numbered seed) events) {frame : Frame}
    (answers : Answers frame transaction) : NotDelayed events frame := by
  intro earlier old clock later same positive bounded equal
  obtain ⟨since, -, pending, -⟩ := sent.pending
  obtain ⟨front, preparedAt, split⟩ := pending.split
  have oldId : old.transactionId = _ := numbered _ _ _ same
  have newId : transaction.transactionId = _ := numbered _ _ _ split
  rw [answers.transactionId, oldId, newId, add_right_inj] at equal
  have indices := congrArg UInt32.toNat equal
  simp only [UInt32.toNat_ofNat'] at indices
  have count : preparations front = preparations earlier + preparations later := by
    have both := congrArg preparations (split.symm.trans same)
    simp only [preparations, countP_append, countP_cons, TransactionEvent.isPrepared,
      if_true] at both ⊢
    have latest := pending.latest
    rw [preparations] at latest
    omega
  omega

/-- What the state of the core says about the log. -/
def TransactionState.Fits (quarantine : DurationMicros) (events : List TransactionEvent) :
    TransactionState → Prop
  | idle => True
  | transmitting transaction => ∃ since, Pending events transaction since
  | awaiting active => ∃ transaction, Sent events transaction active
  | .quarantine expired until_ =>
    until_.toNat = expired.deadline.toNat + quarantine.value.toNat

theorem TransactionState.Fits.concat {quarantine : DurationMicros} {state : TransactionState}
    (fits : state.Fits quarantine events) (other : event.isPrepared = false)
    (unanswered : event.isAccepted = false) : state.Fits quarantine (events ++ [event]) := by
  cases state with
  | idle => trivial
  | transmitting transaction =>
    obtain ⟨since, pending⟩ := fits
    exact ⟨_, pending.concat other unanswered⟩
  | awaiting active =>
    obtain ⟨transaction, sent⟩ := fits
    exact ⟨transaction, sent.concat other unanswered⟩
  | quarantine expired until_ => exact fits

/-- The core has not let go of a transaction. -/
def TransactionState.WaitsOn (active : ActiveTransaction) : TransactionState → Prop
  | idle | transmitting _ => False
  | awaiting waiting => waiting = active
  | .quarantine expired _ => expired = active

namespace TransactionTrace

structure Sound (seed : UInt32) (quarantine : DurationMicros) (trace : TransactionTrace) :
    Prop where
  correlated : Justified (Correlated quarantine) trace.events
  numbered : Justified (Numbered seed) trace.events
  duration : trace.core.quarantineDuration = quarantine
  next : trace.core.nextTransactionId = seed + UInt32.ofNat (preparations trace.events)
  fits : trace.core.state.Fits quarantine trace.events
  past : ∀ active now, .expired active now ∈ trace.events → now ≤ trace.clock
  expiries : ∀ active now, .expired active now ∈ trace.events →
    active.deadline.toNat + quarantine.value.toNat ≤ trace.clock.toNat ∨
      trace.core.state.WaitsOn active

namespace Sound

variable {seed : UInt32} {quarantine : DurationMicros} {trace : TransactionTrace}
  {now : MonotonicMicros}

theorem initial (seed : UInt32) (quarantine : DurationMicros) :
    Sound seed quarantine ⟨.new seed quarantine, 0, []⟩ where
  correlated := .nil
  numbered := .nil
  duration := rfl
  next := (UInt32.add_zero seed).symm
  fits := trivial
  past := nofun
  expiries := nofun

variable (sound : Sound seed quarantine trace)

include sound

/-- An expiry that was let go of lies a quarantine back. -/
theorem settled (free : ∀ active, ¬ trace.core.state.WaitsOn active)
    (member : .expired active now ∈ trace.events) :
    active.deadline.toNat + quarantine.value.toNat ≤ trace.clock.toNat := by
  rcases sound.expiries active now member with settled | waits
  · exact settled
  · exact absurd waits (free active)

theorem tick (later : trace.clock ≤ now) : Sound seed quarantine { trace with clock := now } := by
  refine { sound with past := ?_, expiries := ?_ }
  · intro active at_ member
    exact UInt64.le_trans (sound.past active at_ member) later
  intro active at_ member
  rw [UInt64.le_iff_toNat_le] at later
  rcases sound.expiries active at_ member with settled | waits
  · exact .inl (Nat.le_trans settled later)
  · exact .inr waits

theorem observe (later : trace.clock ≤ now) : Sound seed quarantine (trace.observe now) := by
  have ticked := sound.tick later
  rw [TransactionTrace.observe]
  split
  · rename_i active awaiting
    split
    · exact ticked
    rename_i passed
    exact {
      correlated := ticked.correlated.concat (UInt64.not_le.mp passed)
      numbered := ticked.numbered.concat trivial
      duration := ticked.duration
      next := by
        rw [preparations_concat]
        exact ticked.next
      fits := ticked.fits.concat rfl rfl
      past := by
        intro other at_ member
        rcases mem_append.mp member with member | member
        · exact ticked.past other at_ member
        · cases mem_singleton.mp member
          exact UInt64.le_refl _
      expiries := by
        intro other at_ member
        rcases mem_append.mp member with member | member
        · exact ticked.expiries other at_ member
        cases mem_singleton.mp member
        refine .inr ?_
        simp only [awaiting]
        rfl }
  · exact ticked

omit sound

@[simp] theorem observe_core (trace : TransactionTrace) (now : MonotonicMicros) :
    (trace.observe now).core = trace.core := by
  rw [TransactionTrace.observe]
  split
  · split <;> rfl
  · rfl

@[simp] theorem observe_clock (trace : TransactionTrace) (now : MonotonicMicros) :
    (trace.observe now).clock = now := by
  rw [TransactionTrace.observe]
  split
  · split <;> rfl
  · rfl

variable {core : TransactionCore}

include sound

/-- A new entry that is no expiry. -/
theorem log (unexpired : ∀ active now, event ≠ .expired active now)
    (correlated : Correlated quarantine trace.events event)
    (numbered : Numbered seed trace.events event)
    (duration : core.quarantineDuration = trace.core.quarantineDuration)
    (next : core.nextTransactionId = seed + UInt32.ofNat (preparations (trace.events ++ [event])))
    (fits : core.state.Fits quarantine (trace.events ++ [event]))
    (expiries : ∀ active now, .expired active now ∈ trace.events →
      active.deadline.toNat + quarantine.value.toNat ≤ trace.clock.toNat ∨
        core.state.WaitsOn active) : Sound seed quarantine (trace.log event core) := by
  have keeps : ∀ active now, .expired active now ∈ trace.events ++ [event] →
      .expired active now ∈ trace.events := by
    intro active now member
    rcases mem_append.mp member with member | member
    · exact member
    · exact absurd (mem_singleton.mp member).symm (unexpired active now)
  exact {
    correlated := sound.correlated.concat correlated
    numbered := sound.numbered.concat numbered
    duration := duration.trans sound.duration
    next
    fits
    past := fun active now member => sound.past active now (keeps active now member)
    expiries := fun active now member => expiries active now (keeps active now member) }

theorem prepared (prepares : trace.core.Prepares transaction core) :
    Sound seed quarantine (trace.log (.prepared transaction trace.clock) core) := by
  have free : ∀ active, ¬ trace.core.state.WaitsOn active := by
    intro active
    rw [prepares.idle]
    exact id
  refine sound.log nofun ?_ (prepares.id.trans sound.next) prepares.quarantine ?_ ?_ ?_
  · intro active now member
    exact sound.settled free member
  · rw [preparations_concat, prepares.next, sound.next]
    simp only [TransactionEvent.isPrepared, if_true]
    rw [UInt32.ofNat_add, ← UInt32.add_assoc]
    rfl
  · rw [prepares.state]
    exact ⟨_, .prepared ..⟩
  · intro active now member
    exact .inl (sound.settled free member)

theorem transmitted (done : trace.core.markTransmitted now = .ok (active, core)) :
    Sound seed quarantine (trace.log (.transmitted active now) core) := by
  obtain ⟨transaction, transmitting, same, deadline, rfl⟩ :=
    markTransmitted_eq_ok done
  have free : ∀ active, ¬ trace.core.state.WaitsOn active := by
    intro active
    rw [transmitting]
    exact id
  have fits := sound.fits
  rw [transmitting] at fits
  obtain ⟨since, pending⟩ := fits
  refine sound.log nofun trivial trivial rfl ?_ ?_ ?_
  · rw [preparations_concat]
    exact sound.next
  · exact ⟨transaction, ⟨_, now, pending.concat rfl rfl,
      mem_append_right _ (mem_singleton.mpr rfl), deadline⟩, same⟩
  · intro active at_ member
    exact .inl (sound.settled free member)

theorem cancelled (done : trace.core.cancelTransmit = .ok core) :
    Sound seed quarantine { trace with core } := by
  obtain ⟨rfl, transaction, transmitting⟩ := cancelTransmit_eq_ok done
  have free : ∀ active, ¬ trace.core.state.WaitsOn active := by
    intro active
    rw [transmitting]
    exact id
  exact { sound with
    fits := trivial
    expiries := fun active now member => .inl (sound.settled free member) }

/-- The quarantine holds on to the transaction that was awaited. -/
theorem expires (expires : trace.core.Expires now core) :
    Sound seed quarantine { trace with core } := by
  obtain ⟨active, until_, awaiting, -, sum, rfl⟩ := expires
  refine { sound with fits := ?_, expiries := ?_ }
  · rw [sound.duration] at sum
    exact sum
  intro other at_ member
  rcases sound.expiries other at_ member with settled | waits
  · exact .inl settled
  · rw [awaiting] at waits
    exact .inr waits

theorem quarantineEnded (time : trace.clock = now) {expired : ActiveTransaction}
    {until_ : MonotonicMicros} (waiting : trace.core.state = .quarantine expired until_)
    (ended : until_ ≤ now) :
    Sound seed quarantine { trace with core := { trace.core with state := .idle } } := by
  refine { sound with fits := trivial, expiries := ?_ }
  intro other at_ member
  rcases sound.expiries other at_ member with settled | waits
  · exact .inl settled
  have sum := sound.fits
  rw [waiting] at sum waits
  cases waits
  rw [UInt64.le_iff_toNat_le, ← time] at ended
  exact .inl (Nat.le_trans (Nat.le_of_eq sum.symm) ended)

theorem accepted (time : trace.clock = now) {frame : Frame}
    (awaiting : trace.core.state = .awaiting active) (inTime : now ≤ active.deadline)
    (found : active.matchesFrame frame) : Sound seed quarantine
      (trace.log (.accepted now frame) { trace.core with state := .idle }) := by
  have fits := sound.fits
  rw [awaiting] at fits
  obtain ⟨transaction, sent⟩ := fits
  rw [sent.same] at found
  have answers := answers_of_matchesFrame found
  refine sound.log nofun ?_ trivial rfl ?_ trivial ?_
  · exact ⟨⟨transaction, active, sent, answers, inTime⟩, sent.notDelayed sound.numbered answers⟩
  · rw [preparations_concat]
    exact sound.next
  -- An expiry of the awaited transaction would lie behind its deadline.
  intro other at_ member
  rcases sound.expiries other at_ member with settled | waits
  · exact .inl settled
  rw [awaiting] at waits
  cases waits
  obtain ⟨before, passed⟩ := sound.correlated.of_mem member
  have past := sound.past _ _ member
  rw [time] at past
  exact absurd (UInt64.lt_of_lt_of_le passed (UInt64.le_trans past inTime))
    (UInt64.lt_irrefl _)

theorem received (later : trace.clock ≤ now) (frame : Frame) :
    Sound seed quarantine (trace.call (.receive now frame)) := by
  have observed := sound.observe later
  have time := observe_clock trace now
  rw [TransactionTrace.call, ← observe_core trace now]
  cases done : (trace.observe now).core.receive now frame with
  | error error => exact observed
  | ok result =>
    obtain ⟨disposition, core⟩ := result
    obtain ⟨rfl, active, awaiting, inTime, found, rfl⟩ | ⟨other, rest⟩ :=
      receive_eq_ok done
    · exact observed.accepted time awaiting inTime found
    have kept : Sound seed quarantine { trace.observe now with core } := by
      rcases rest with rfl | expires
      · exact observed
      · exact observed.expires expires
    cases disposition with
    | accepted => exact absurd rfl other
    | unrelated => exact kept
    | late => exact kept
    | unsolicited => exact kept

theorem timed (later : trace.clock ≤ now) : Sound seed quarantine (trace.call (.onTimer now)) := by
  have observed := sound.observe later
  have time := observe_clock trace now
  rw [TransactionTrace.call, ← observe_core trace now]
  cases done : (trace.observe now).core.onTimer now with
  | error error => exact observed
  | ok result =>
    obtain ⟨event, core⟩ := result
    obtain rfl | expires | ⟨expired, until_, waiting, ended, rfl⟩ :=
      onTimer_eq_ok done
    · exact observed
    · exact observed.expires expires
    · exact observed.quarantineEnded time waiting ended

theorem call {call : TransactionCall} (later : ∀ now ∈ call.time, trace.clock ≤ now) :
    Sound seed quarantine (trace.call call) := by
  cases call with
  | prepare request =>
    rw [TransactionTrace.call]
    cases done : trace.core.prepare request with
    | error error => exact sound
    | ok result => exact sound.prepared (prepares_of_prepare done)
  | prepareRouted request =>
    rw [TransactionTrace.call]
    cases done : trace.core.prepareRouted request with
    | error error => exact sound
    | ok result => exact sound.prepared (prepares_of_prepareRouted done)
  | markTransmitted now =>
    have observed := sound.observe (later now rfl)
    rw [TransactionTrace.call, ← observe_core trace now]
    cases done : (trace.observe now).core.markTransmitted now with
    | error error => exact observed
    | ok result => exact observed.transmitted done
  | cancelTransmit =>
    rw [TransactionTrace.call]
    cases done : trace.core.cancelTransmit with
    | error error => exact sound
    | ok core => exact sound.cancelled done
  | receive now frame => exact sound.received (later now rfl) frame
  | onTimer now => exact sound.timed (later now rfl)

omit sound

end Sound

/-- The clock shows the last time a call brought with it. -/
theorem call_clock (trace : TransactionTrace) (call : TransactionCall) :
    (trace.call call).clock = call.time.getD trace.clock := by
  have prepared (result : Except TransactionError (PreparedTransaction × TransactionCore)) :
      (trace.prepared result).clock = trace.clock := by
    cases result <;> rfl
  cases call with
  | prepare request => exact prepared _
  | prepareRouted request => exact prepared _
  | markTransmitted now =>
    rw [TransactionTrace.call]
    split
    · exact Sound.observe_clock trace now
    · exact Sound.observe_clock trace now
  | cancelTransmit =>
    rw [TransactionTrace.call]
    split <;> rfl
  | receive now frame =>
    rw [TransactionTrace.call]
    split <;> exact Sound.observe_clock trace now
  | onTimer now =>
    rw [TransactionTrace.call]
    split <;> exact Sound.observe_clock trace now

theorem Sound.run {seed : UInt32} {quarantine : DurationMicros} {trace : TransactionTrace}
    (sound : Sound seed quarantine trace) {calls : List TransactionCall}
    (ordered : (trace.clock :: calls.filterMap TransactionCall.time).Pairwise (· ≤ ·)) :
    Sound seed quarantine (trace.run calls) := by
  induction calls generalizing trace with
  | nil => exact sound
  | cons call rest ih =>
    have clock := trace.call_clock call
    cases time : call.time with
    | none =>
      rw [filterMap_cons_none time] at ordered
      rw [time, Option.getD_none] at clock
      refine ih (sound.call ?_) (clock ▸ ordered)
      rw [time]
      exact nofun
    | some now =>
      rw [filterMap_cons_some time] at ordered
      rw [time, Option.getD_some] at clock
      refine ih (sound.call ?_) (clock ▸ ordered.of_cons)
      rw [time]
      rintro _ ⟨⟩
      exact rel_of_pairwise_cons ordered mem_cons_self

end TransactionTrace

/-- Every entry in the log of every run is justified. -/
theorem transactions_correlate (seed : UInt32) (quarantine : DurationMicros)
    (calls : List TransactionCall)
    (ordered : (calls.filterMap TransactionCall.time).Pairwise (· ≤ ·)) :
    Justified (Correlated quarantine)
      (TransactionTrace.run ⟨.new seed quarantine, 0, []⟩ calls).events := by
  refine ((TransactionTrace.Sound.initial seed quarantine).run ?_).correlated
  exact .cons (fun now _ => UInt64.zero_le) ordered

/-- A repetition after the quarantine meets the late answer to the first request. -/
def repeatedRequest : List TransactionCall :=
  let request := ⟨7, 2, 3, 4, .milli, .retrySafe⟩
  let response (transactionId : UInt32) : Frame :=
    ⟨.response, hostAddress, 7, 2, 4, transactionId, [], by decide⟩
  [.prepare request, .markTransmitted 10, .onTimer 1011, .onTimer 51010, .prepare request,
    .markTransmitted 51010, .receive 51020 (response 5), .receive 51030 (response 6)]

theorem transactions_correlate_repeatedRequest :
    let trace := TransactionTrace.run ⟨.new 5 ⟨50000, by decide⟩, 0, []⟩ repeatedRequest
    preparations trace.events = 2 ∧ trace.events.countP TransactionEvent.isAccepted = 1 ∧
      Justified (Correlated ⟨50000, by decide⟩) trace.events := by
  refine ⟨by decide, by decide, ?_⟩
  exact transactions_correlate 5 ⟨50000, by decide⟩ repeatedRequest (by decide)

end SensorSystem.Host
