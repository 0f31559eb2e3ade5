import Mathlib.Data.List.Chain
import SensorSystem.Base.Spans
import SensorSystem.Host.Capture.CaptureLedgerSteps

/-! A run offers records and seals to one ledger. The windows it seals, followed by the one that
is open, cut the recorded range without a hole, and each of them accounts for the records between
its cursors. -/

namespace SensorSystem.Host

open CaptureWindowLedger List Option
open Base

inductive LedgerCall where
  | append (item : CaptureItem)
  | finish
deriving DecidableEq

def LedgerCall.Occupied : LedgerCall → Prop
  | append item => item.Occupied
  | finish => True

instance : (call : LedgerCall) → Decidable call.Occupied
  | .append item => inferInstanceAs (Decidable item.Occupied)
  | .finish => inferInstanceAs (Decidable True)

/-- A ledger, the manifests it returned and the records it took. -/
structure LedgerTrace where
  ledger : CaptureWindowLedger
  manifests : List CaptureWindowManifest := []
  records : List CaptureItem := []

namespace LedgerTrace

def append (trace : LedgerTrace) (item : CaptureItem) : LedgerTrace :=
  match item.planned trace.ledger >>= trace.ledger.commit with
  | .error _ => trace
  | .ok (manifest, ledger) =>
    ⟨ledger, trace.manifests ++ manifest.toList, trace.records ++ [item]⟩

/-- `finish` takes the open window out of the ledger and counts the ordinal up. -/
def finish (trace : LedgerTrace) : LedgerTrace :=
  match trace.ledger.finish with
  | .error _ => { trace with ledger := { trace.ledger with openWindow := none } }
  | .ok (manifest, ledger) => { trace with
      ledger, manifests := trace.manifests ++ manifest.toList }

def call (trace : LedgerTrace) : LedgerCall → LedgerTrace
  | .append item => trace.append item
  | .finish => trace.finish

def run (trace : LedgerTrace) (calls : List LedgerCall) : LedgerTrace :=
  calls.foldl call trace

/-- No `finish` of the run meets an open window that has no ordinal behind it. -/
def OrdinalsLast (trace : LedgerTrace) : List LedgerCall → Prop
  | [] => True
  | call :: rest =>
    (call = .finish → trace.ledger.openWindow.isSome →
      trace.ledger.nextWindowOrdinal.toNat + 1 < 2 ^ 64) ∧ (trace.call call).OrdinalsLast rest

instance : (trace : LedgerTrace) → (calls : List LedgerCall) → Decidable (trace.OrdinalsLast calls)
  | _, [] => inferInstanceAs (Decidable True)
  | trace, call :: rest =>
    have := instDecidableOrdinalsLast (trace.call call) rest
    inferInstanceAs (Decidable (_ ∧ _))

end LedgerTrace

namespace LedgerTrace

/-- First cursor and end of every window, the open one last. -/
def spans (trace : LedgerTrace) : List (Nat × Nat) :=
  trace.manifests.map (fun manifest =>
      (manifest.firstCursor.toNat, manifest.endExclusive.toNat)) ++
    trace.ledger.openWindow.toList.map fun window =>
      (window.firstCursor.toNat, window.endExclusive.toNat)

/-- A counter summed over every window. -/
def total (trace : LedgerTrace) (ofManifest : CaptureWindowManifest → UInt64)
    (ofWindow : OpenWindow → UInt64) : Nat :=
  (trace.manifests.map fun manifest => (ofManifest manifest).toNat).sum +
    (trace.ledger.openWindow.toList.map fun window => (ofWindow window).toNat).sum

/-- A counter summed over the records that were taken. -/
def recorded (trace : LedgerTrace) (counter : RecordCounters → UInt64) : Nat :=
  (trace.records.map fun item => (counter item.record.counters).toNat).sum

/-- The windows of a run that began at a ledger without an open window. -/
structure Partitions (start : CaptureWindowLedger) (trace : LedgerTrace) : Prop where
  tiles : Tiles Prod.fst Prod.snd start.nextCursor.toNat trace.ledger.nextCursor.toNat trace.spans
  ordinals : trace.manifests.map (·.windowOrdinal.toNat) =
    range' start.nextWindowOrdinal.toNat trace.manifests.length
  next : trace.ledger.nextWindowOrdinal.toNat =
    start.nextWindowOrdinal.toNat + trace.manifests.length
  stream : ∀ manifest ∈ trace.manifests,
    manifest.hardwareId = start.hardwareId ∧ manifest.bootEpoch = start.bootEpoch
  samples : trace.total (·.sampleCount) (·.sampleCount) = trace.recorded (·.samples)
  missing : trace.total (·.missingSampleCount) (·.missingSampleCount) =
    trace.recorded (·.missingSamples)
  breaks : trace.total (·.continuityBreakCount) (·.continuityBreakCount) =
    trace.recorded (·.continuityBreaks)

/-- The invariant of runs. -/
structure Regular (start : CaptureWindowLedger) (trace : LedgerTrace) : Prop where
  partitions : Partitions start trace
  sameStream : SameStream start trace.ledger
  ledger : trace.ledger.Regular
  contracts : start.bootEpoch ≠ 0 → ∀ manifest ∈ trace.manifests, manifest.Contract

namespace Regular

variable {start : CaptureWindowLedger} {trace : LedgerTrace}

theorem initial (empty : start.openWindow = none) : Regular start ⟨start, [], []⟩ := by
  refine ⟨⟨?_, rfl, rfl, nofun, ?_, ?_, ?_⟩, ⟨rfl, rfl⟩, ?_, nofun⟩
  · rw [spans, empty]
    exact .nil _
  · rw [total, empty]
    rfl
  · rw [total, empty]
    rfl
  · rw [total, empty]
    rfl
  · intro window opened
    rw [empty] at opened
    cases opened

variable {ofWindow : OpenWindow → UInt64} {manifest : CaptureWindowManifest}

/-- The target window counts what the open one does. -/
theorem total_grown (trace : LedgerTrace) (window : OpenWindow) (records : List CaptureItem)
    (ofManifest : CaptureWindowManifest → UInt64) {more : Nat}
    (zero : ∀ cursor, ofWindow (.new cursor) = 0)
    (grows : (ofWindow window).toNat = (ofWindow trace.ledger.target).toNat + more) :
    total ⟨trace.ledger.grown window, trace.manifests, records⟩ ofManifest ofWindow =
      trace.total ofManifest ofWindow + more := by
  rw [target] at grows
  simp only [total, CaptureWindowLedger.grown]
  cases found : trace.ledger.openWindow with
  | none =>
    rw [found, getD_none, zero] at grows
    simp [grows]
  | some before =>
    rw [found, getD_some] at grows
    simp [grows]
    omega

variable {item : CaptureItem} {window : OpenWindow} {after : CaptureWindowLedger}

/-- The open window can be taken off the tiling and put back. -/
theorem tiles_grown (regular : Regular start trace) (grows : item.Grows trace.ledger window)
    (occupied : item.Occupied) (records : List CaptureItem) :
    Tiles Prod.fst Prod.snd start.nextCursor.toNat window.endExclusive.toNat
      (spans ⟨trace.ledger.grown window, trace.manifests, records⟩) := by
  obtain ⟨middle, front, back⟩ := regular.partitions.tiles.split
  have nonempty := ((regular.ledger.grown grows occupied) window rfl).nonempty
  have first := congrArg UInt64.toNat grows.first
  have begins : middle = window.firstCursor.toNat := by
    rw [first, target]
    cases found : trace.ledger.openWindow with
    | none =>
      rw [found] at back
      exact Tiles.nil_iff.mp back
    | some before =>
      rw [found] at back
      exact (Tiles.cons_iff.mp back).1.symm
  subst begins
  have last : Tiles Prod.fst Prod.snd window.firstCursor.toNat window.endExclusive.toNat
      [(window.firstCursor.toNat, window.endExclusive.toNat)] :=
    Tiles.cons_iff.mpr ⟨rfl, nonempty, .nil _⟩
  exact front.append last

theorem grown (regular : Regular start trace) (grows : item.Grows trace.ledger window)
    (occupied : item.Occupied) :
    Regular start ⟨trace.ledger.grown window, trace.manifests, trace.records ++ [item]⟩ := by
  obtain ⟨partitions, sameStream, ledger, contracts⟩ := regular
  refine ⟨{ partitions with tiles := ?_, samples := ?_, missing := ?_, breaks := ?_ },
    ⟨sameStream.hardwareId, sameStream.bootEpoch⟩, ledger.grown grows occupied, contracts⟩
  · exact tiles_grown ⟨partitions, sameStream, ledger, contracts⟩ grows occupied _
  · rw [total_grown trace window _ _ (fun _ => rfl) grows.samples, partitions.samples]
    simp [recorded]
  · rw [total_grown trace window _ _ (fun _ => rfl) grows.missing, partitions.missing]
    simp [recorded]
  · rw [total_grown trace window _ _ (fun _ => rfl) grows.breaks, partitions.breaks]
    simp [recorded]

/-- A seal moves the open window behind the manifests. -/
theorem total_sealed (opened : window ∈ trace.ledger.openWindow)
    (closed : after.openWindow = none) {ofManifest : CaptureWindowManifest → UInt64}
    (same : ofManifest manifest = ofWindow window) :
    total ⟨after, trace.manifests ++ [manifest], trace.records⟩ ofManifest ofWindow =
      trace.total ofManifest ofWindow := by
  simp [total, closed, mem_def.mp opened, same]

theorem sealed (regular : Regular start trace) (seals : trace.ledger.Seals manifest after) :
    Regular start ⟨after, trace.manifests ++ [manifest], trace.records⟩ := by
  obtain ⟨partitions, sameStream, ledger, contracts⟩ := regular
  obtain ⟨window, opened, first, stop, -, -, samples, missing, breaks⟩ := seals.opened
  have spansSame : spans ⟨after, trace.manifests ++ [manifest], trace.records⟩ = trace.spans := by
    simp [spans, seals.closed, mem_def.mp opened, first, stop]
  refine ⟨?_, ⟨?_, ?_⟩, ?_, ?_⟩
  · exact {
      tiles := by
        rw [spansSame, seals.cursor]
        exact partitions.tiles
      ordinals := by
        rw [map_append, partitions.ordinals, length_append, length_singleton,
          range'_concat, map_singleton, seals.windowOrdinal, partitions.next, Nat.one_mul]
      next := by
        rw [seals.ordinal, partitions.next, length_append, length_singleton,
          Nat.add_assoc]
      stream := by
        intro other member
        rcases mem_append.mp member with member | member
        · exact partitions.stream other member
        · rw [mem_singleton.mp member, seals.hardwareId, seals.bootEpoch]
          exact ⟨sameStream.hardwareId, sameStream.bootEpoch⟩
      samples := (total_sealed opened seals.closed samples).trans partitions.samples
      missing := (total_sealed opened seals.closed missing).trans partitions.missing
      breaks := (total_sealed opened seals.closed breaks).trans partitions.breaks }
  · rw [seals.stream.hardwareId, sameStream.hardwareId]
  · rw [seals.stream.bootEpoch, sameStream.bootEpoch]
  · intro other found
    rw [seals.closed] at found
    cases found
  · intro epoch other member
    rcases mem_append.mp member with member | member
    · exact contracts epoch other member
    · rw [mem_singleton.mp member]
      exact seals.contract ledger (sameStream.bootEpoch ▸ epoch)

/-- A plan that is committed at once is the append. -/
theorem planned_commit (ledger : CaptureWindowLedger) (item : CaptureItem) :
    (item.planned ledger >>= ledger.commit) = item.applied ledger := by
  rw [item.planned_eq]
  cases planned : ledger.plan (item.applied ledger) with
  | ok plan => exact commit_plan planned
  | error error =>
    cases applied : item.applied ledger with
    | ok result =>
      rw [applied] at planned
      cases planned
    | error refused =>
      rw [applied] at planned
      cases planned
      rfl

variable (regular : Regular start trace)

include regular

theorem leaves {manifest : Option CaptureWindowManifest}
    (leaves : trace.ledger.Leaves manifest after) :
    Regular start ⟨after, trace.manifests ++ manifest.toList, trace.records⟩ := by
  rcases leaves with ⟨rfl, rfl⟩ | ⟨reason, value, rfl, done⟩
  · rw [toList_none, append_nil]
    exact regular
  · exact regular.sealed (seals_of_sealWindow done)

theorem append (occupied : item.Occupied) : Regular start (trace.append item) := by
  rw [LedgerTrace.append, planned_commit]
  split
  · exact regular
  rename_i manifest after done
  obtain ⟨window, grows, left⟩ := grows_applied done
  exact (regular.grown grows occupied).leaves left

theorem finish
    (fits : trace.ledger.openWindow.isSome → trace.ledger.nextWindowOrdinal.toNat + 1 < 2 ^ 64) :
    Regular start trace.finish := by
  rw [LedgerTrace.finish, CaptureWindowLedger.finish]
  cases found : trace.ledger.openWindow with
  | none =>
    simp only [isNone_none, if_pos, toList_none, append_nil]
    exact regular
  | some window =>
    obtain ⟨manifest, after, done⟩ :
        ∃ manifest after, trace.ledger.sealWindow .explicitFinish = .ok (manifest, after) := by
      have room := fits (by rw [found]; rfl)
      rw [sealWindow, found, checkedAdd, if_pos (by simpa using room)]
      exact ⟨_, _, rfl⟩
    simp only [isNone_some, Bool.false_eq_true, if_false, CaptureWindowLedger.sealed, done,
      map_ok, toList_some]
    exact regular.sealed (seals_of_sealWindow done)

theorem run {calls : List LedgerCall} (occupied : ∀ call ∈ calls, call.Occupied)
    (fits : trace.OrdinalsLast calls) : Regular start (trace.run calls) := by
  induction calls generalizing trace with
  | nil => exact regular
  | cons call rest ih =>
    have first := occupied call mem_cons_self
    refine ih ?_ (fun later member => occupied later (mem_cons_of_mem _ member)) fits.2
    cases call with
    | append item => exact regular.append first
    | finish => exact regular.finish (fits.1 rfl)

omit regular

end Regular

/-- Windows that tile a range join each other. -/
theorem Partitions.contiguous {start : CaptureWindowLedger} {trace : LedgerTrace}
    (partitions : Partitions start trace) :
    trace.manifests.IsChain fun earlier later => earlier.relationTo later = .ok .contiguous := by
  obtain ⟨middle, front, -⟩ := partitions.tiles.split
  have spans := front.isChain
  rw [isChain_map] at spans
  rw [isChain_iff_getElem] at spans ⊢
  intro index bound
  have meet := spans index bound
  have earlier := partitions.stream _ (getElem_mem (Nat.lt_of_succ_lt bound))
  have later := partitions.stream _ (getElem_mem bound)
  have ordinal : ∀ position (inside : position < trace.manifests.length),
      trace.manifests[position].windowOrdinal.toNat = start.nextWindowOrdinal.toNat + position := by
    intro position inside
    have same := congrArg (·[position]?) partitions.ordinals
    simpa [inside] using same
  refine relationTo_contiguous ?_ ?_ ?_ ?_
  · rw [earlier.1, later.1]
  · rw [earlier.2, later.2]
  · rw [ordinal _ bound, ordinal _ (Nat.lt_of_succ_lt bound), Nat.add_assoc]
  · exact UInt64.toNat_inj.mp meet.symm

/-- For every run of appends and seals on a new ledger. -/
theorem ledger_partitions (policy : CaptureWindowPolicy) (hardwareId : HardwareId)
    (bootEpoch : BootEpoch) (recoveredCursor : SequenceCursor) (firstWindowOrdinal : UInt64)
    (calls : List LedgerCall) (occupied : ∀ call ∈ calls, call.Occupied)
    (fits : OrdinalsLast ⟨.new policy hardwareId bootEpoch recoveredCursor firstWindowOrdinal,
      [], []⟩ calls) :
    let start := CaptureWindowLedger.new policy hardwareId bootEpoch recoveredCursor
      firstWindowOrdinal
    let trace := LedgerTrace.run ⟨start, [], []⟩ calls
    Partitions start trace ∧
      trace.manifests.IsChain (fun earlier later => earlier.relationTo later = .ok .contiguous) ∧
      (bootEpoch ≠ 0 → ∀ manifest ∈ trace.manifests, manifest.validateContract = .ok ()) ∧
      (∀ item error, item.planned trace.ledger = .error error → trace.append item = trace) ∧
      ∀ item : CaptureItem,
        (item.planned trace.ledger >>= trace.ledger.commit) = item.applied trace.ledger := by
  intro start trace
  have regular : Regular start trace := (Regular.initial rfl).run occupied fits
  refine ⟨regular.partitions, regular.partitions.contiguous, ?_, ?_, Regular.planned_commit _⟩
  · intro epoch manifest member
    exact validateContract_eq_ok.mpr (regular.contracts epoch manifest member)
  · intro item error refused
    rw [append, refused]
    rfl

/-- A chunk of the stream below, with the samples it announces. -/
def shortChunk (first : SequenceCursor) (samples : List SampleAxes) (segmentId : UInt32) :
    SampleChunk where
  header := ⟨1, 0, 10, first, UInt16.ofNat samples.length⟩
  configRevision := 1
  timing := ⟨segmentId, 100, 100, 0, 0⟩
  samples

def shortStream (bootEpoch : BootEpoch) (firstWindowOrdinal : UInt64) : LedgerTrace where
  ledger := .new ⟨1000⟩ (Vector.replicate 8 7) bootEpoch 0 firstWindowOrdinal

/-- A break, a chunk of one sample and a chunk of another timing segment. -/
def shortCalls : List LedgerCall :=
  [.append (.continuityBreak ⟨Vector.replicate 8 7, 1, 0, .unknown, by decide⟩),
    .append (.chunk (Vector.replicate 8 7) (shortChunk 1 [⟨.zero, .zero, .zero⟩] 1)),
    .append (.chunk (Vector.replicate 8 7) (shortChunk 2 [⟨.zero, .zero, .zero⟩] 2)),
    .append (.gap ⟨Vector.replicate 8 7, 1, 3, 4, .sourceLoss, by decide, by decide⟩),
    .finish]

/-- The run seals two windows. -/
theorem ledger_partitions_shortStream :
    (((shortStream 1 0).run shortCalls).spans = [(0, 3), (3, 7)]) ∧
      ∀ manifest ∈ ((shortStream 1 0).run shortCalls).manifests,
        manifest.validateContract = .ok () := by
  refine ⟨by decide, ?_⟩
  have partitioned := ledger_partitions ⟨1000⟩ (Vector.replicate 8 7) 1 0 0 shortCalls
    (by decide) (by decide)
  exact partitioned.2.2.1 (by decide)

/-- The contract fails for the window of a chunk without samples and for a stream
of boot epoch zero, and a refused `finish` takes the open window with it. -/
theorem ledger_partition_broken : (((shortStream 1 0).run
        [.append (.chunk (Vector.replicate 8 7) (shortChunk 0 [] 1)), .finish]).manifests.map
      (·.validateContract) = [.error .invalidManifestContract]) ∧
    (((shortStream 0 0).run
        [.append (.continuityBreak ⟨Vector.replicate 8 7, 0, 0, .unknown, by decide⟩),
          .finish]).manifests.map
      (·.validateContract) = [.error .invalidManifestContract]) ∧
    ((shortStream 1 (UInt64.ofNat (2 ^ 64 - 1))).run
        [.append (.continuityBreak ⟨Vector.replicate 8 7, 1, 0, .unknown, by decide⟩),
          .finish]).spans = [] ∧
    ((shortStream 1 (UInt64.ofNat (2 ^ 64 - 1))).run
        [.append (.continuityBreak ⟨Vector.replicate 8 7, 1, 0, .unknown, by decide⟩),
          .finish]).ledger.nextCursor = 1 := by
  decide

end LedgerTrace
end SensorSystem.Host
