import SensorSystem.Host.Capture.CaptureLedgerRuns
import SensorSystem.Host.Capture.CaptureSegments
import SensorSystem.Host.Protocol.MeasurementChecks

/-! The records of one segment hold at most one seal, at their end. The sealed segments of a
stream continue each other, and a ledger that runs through all their records arrives where the
next segment starts. -/

namespace SensorSystem.Host

open CaptureWindowLedger List
open Base

/-- The ledger after a list of records. -/
def ledgerAfter (hardwareId : HardwareId) (ledger : CaptureWindowLedger)
    (records : List CaptureRecord) : Except CaptureWindowError CaptureWindowLedger :=
  records.foldlM (fun ledger record => (·.2) <$> record.appliedTo hardwareId ledger) ledger

variable {hardwareId : HardwareId} {counted recovery : CaptureWalRecovery}
  {after : CaptureWindowLedger} {trace : LedgerTrace}

theorem ledgerAfter_append {ledger last : CaptureWindowLedger} {first second : List CaptureRecord} :
    ledgerAfter hardwareId ledger (first ++ second) = .ok last ↔
      ∃ middle, ledgerAfter hardwareId ledger first = .ok middle ∧
        ledgerAfter hardwareId middle second = .ok last := by
  rw [ledgerAfter, foldlM_append, bind_eq_ok]
  rfl

/-- Replay applies a record and counts the window it seals. -/
theorem replayRecord_eq_ok {record : CaptureRecord} {ledger last : CaptureWindowLedger}
    (done : replayRecord hardwareId (ledger, recovery) record = .ok (last, counted)) :
    ∃ manifest, record.appliedTo hardwareId ledger = .ok (manifest, last) ∧
      counted.sealedWindowCount.toNat =
        recovery.sealedWindowCount.toNat + manifest.toList.length ∧
      counted.lastSealedWindow = manifest.or recovery.lastSealedWindow := by
  rw [replayRecord_eq] at done
  obtain ⟨⟨manifest, after⟩, applied, done⟩ := bind_eq_ok.mp done
  obtain ⟨report, counts, done⟩ := bind_eq_ok.mp done
  cases done
  refine ⟨manifest, mapError_eq_ok.mp applied, ?_⟩
  obtain ⟨records, -, counts⟩ := bind_eq_ok.mp counts
  obtain ⟨samples, -, counts⟩ := bind_eq_ok.mp counts
  obtain ⟨missing, -, counts⟩ := bind_eq_ok.mp counts
  obtain ⟨breaks, -, counts⟩ := bind_eq_ok.mp counts
  cases manifest with
  | none =>
    cases counts
    exact ⟨rfl, rfl⟩
  | some manifest =>
    obtain ⟨windows, added, counts⟩ := bind_eq_ok.mp counts
    cases counts
    rw [addCounter] at added
    split at added
    · rename_i sum counted
      cases added
      exact ⟨(checkedAdd_eq_some.mp counted).symm, rfl⟩
    · cases added

theorem ledgerAfter_of_replay {records : List CaptureRecord} {ledger last : CaptureWindowLedger}
    (done : replay hardwareId (ledger, recovery) records = .ok (last, counted)) :
    ledgerAfter hardwareId ledger records = .ok last := by
  induction records generalizing ledger recovery with
  | nil =>
    cases done
    rfl
  | cons record rest ih =>
    obtain ⟨⟨middle, report⟩, first, done⟩ := bind_eq_ok.mp done
    obtain ⟨manifest, applied, -, -⟩ := replayRecord_eq_ok first
    rw [ledgerAfter, foldlM_cons, applied]
    exact ih done

/-- Appends and seals keep the policy. -/
theorem CaptureWindowLedger.Leaves.policy {ledger : CaptureWindowLedger}
    {manifest : Option CaptureWindowManifest} (leaves : ledger.Leaves manifest after) :
    after.policy = ledger.policy := by
  rcases leaves with ⟨-, rfl⟩ | ⟨reason, value, -, done⟩
  · rfl
  rw [sealWindow] at done
  split at done
  · cases done
  split at done
  · cases done
  cases done
  rfl

/-- An append that seals leaves no window open. -/
theorem CaptureRecord.appliedTo_sealed {record : CaptureRecord} {ledger : CaptureWindowLedger}
    {manifest : CaptureWindowManifest}
    (done : record.appliedTo hardwareId ledger = .ok (some manifest, after)) :
    after.openWindow = none := by
  have leaves : ∃ before : CaptureWindowLedger, before.Leaves (some manifest) after := by
    cases record with
    | sampleChunk chunk =>
      obtain ⟨window, -, leaves⟩ := grows_applyChunk done
      exact ⟨_, leaves⟩
    | gap value =>
      obtain ⟨window, -, leaves⟩ := grows_applyGap done
      exact ⟨_, leaves⟩
    | continuityBreak observed =>
      obtain ⟨window, -, leaves⟩ := grows_applyContinuityBreak done
      exact ⟨_, leaves⟩
    | windowSeal =>
      rw [appliedTo, finish] at done
      split at done
      · cases done
      · exact ⟨_, leaves_of_sealed done⟩
  obtain ⟨before, ⟨none, -⟩ | ⟨reason, value, -, sealed⟩⟩ := leaves
  · cases none
  · exact (seals_of_sealWindow sealed).closed

/-- A stored record takes its place in the windows of a run. -/
theorem LedgerTrace.Regular.record {start : CaptureWindowLedger} {config : CaptureWalConfig}
    {record : CaptureRecord} {manifest : Option CaptureWindowManifest}
    (regular : Regular start trace) (storable : record.Storable config)
    (done : record.appliedTo config.hardwareId trace.ledger = .ok (manifest, after)) :
    ∃ records, Regular start ⟨after, trace.manifests ++ manifest.toList, records⟩ ∧
      after.policy = trace.ledger.policy := by
  have item : ∀ item : CaptureItem, item.Occupied →
      item.applied trace.ledger = .ok (manifest, after) →
      ∃ records, Regular start ⟨after, trace.manifests ++ manifest.toList, records⟩ ∧
        after.policy = trace.ledger.policy := by
    intro item occupied applied
    obtain ⟨window, grows, leaves⟩ := grows_applied applied
    exact ⟨_, (regular.grown grows occupied).leaves leaves, leaves.policy⟩
  cases record with
  | sampleChunk chunk =>
    obtain ⟨structured, -⟩ := check_eq_ok.mp storable.1
    obtain ⟨-, -, filled, -⟩ :=
      SampleChunkHeader.validateStructure_eq_ok.mp (mapError_eq_ok.mp structured)
    exact item (.chunk config.hardwareId chunk) filled done
  | gap value => exact item (.gap value) trivial done
  | continuityBreak observed => exact item (.continuityBreak observed) trivial done
  | windowSeal =>
    rw [CaptureRecord.appliedTo, CaptureWindowLedger.finish] at done
    split at done
    · cases done
      refine ⟨trace.records, ?_, rfl⟩
      rw [Option.toList_none, append_nil]
      exact regular
    · have leaves := leaves_of_sealed done
      exact ⟨trace.records, regular.leaves leaves, leaves.policy⟩

/-- A state of replay as the end of a run of the ledger. -/
structure Traced (config : CaptureWalConfig) (state : CaptureWindowLedger × CaptureWalRecovery)
    (trace : LedgerTrace) : Prop where
  regular : LedgerTrace.Regular config.initial.1 trace
  ledger : trace.ledger = state.1
  policy : state.1.policy = config.windowPolicy
  count : state.2.sealedWindowCount.toNat = trace.manifests.length
  last : state.2.lastSealedWindow = trace.manifests.getLast?

theorem Traced.replay {config : CaptureWalConfig} {records : List CaptureRecord}
    {state after : CaptureWindowLedger × CaptureWalRecovery} (traced : Traced config state trace)
    (storable : ∀ record ∈ records, record.Storable config)
    (done : replay config.hardwareId state records = .ok after) :
    ∃ later, Traced config after later := by
  induction records generalizing state trace with
  | nil =>
    cases done
    exact ⟨trace, traced⟩
  | cons record rest ih =>
    obtain ⟨storableFirst, storableRest⟩ := forall_mem_cons.mp storable
    obtain ⟨⟨middle, report⟩, first, done⟩ := bind_eq_ok.mp done
    obtain ⟨manifest, applied, count, last⟩ := replayRecord_eq_ok first
    rw [← traced.ledger] at applied
    obtain ⟨kept, regular, policy⟩ := traced.regular.record storableFirst applied
    have next : Traced config (middle, report)
        ⟨middle, trace.manifests ++ manifest.toList, kept⟩ := {
      regular
      ledger := rfl
      policy := policy.trans (traced.ledger ▸ traced.policy)
      count := by rw [count, traced.count, length_append]
      last := by
        rw [last, traced.last, getLast?_append]
        cases manifest <;> rfl }
    exact ih next storableRest done

theorem Traced.initial (config : CaptureWalConfig) :
    Traced config config.initial ⟨config.initial.1, [], []⟩ :=
  ⟨.initial rfl, rfl, rfl, rfl, rfl⟩

/-- Records that fit into one segment: a seal can only be the last of them. -/
structure OneWindow (config : CaptureWalConfig) (records : List CaptureRecord)
    (state : CaptureWindowLedger × CaptureWalRecovery) : Prop where
  storable : ∀ record ∈ records, record.Storable config
  bounded : (walBytes config records).length < 2 ^ 64
  replayed : replay config.hardwareId config.initial records = .ok state
  unsealed : ∀ front, front <+: records → front ≠ records → ∀ before,
    replay config.hardwareId config.initial front = .ok before → before.2.sealedWindowCount = 0

namespace OneWindow

variable {config : CaptureWalConfig} {records front : List CaptureRecord}
  {state : CaptureWindowLedger × CaptureWalRecovery}

theorem nil (config : CaptureWalConfig) : OneWindow config [] config.initial where
  storable := forall_mem_nil _
  bounded := CaptureWal.bounded_walBytes_nil config
  replayed := rfl
  unsealed _ first other := absurd (prefix_nil.mp first) other

variable (window : OneWindow config records state)

include window

/-- The records in front of some of them. -/
theorem take (first : front <+: records) : ∃ before, OneWindow config front before := by
  obtain ⟨rest, rfl⟩ := first
  obtain ⟨before, done, -⟩ := replay_append.mp window.replayed
  have bounded := window.bounded
  rw [walBytes_append, length_append] at bounded
  refine ⟨before, (forall_mem_append.mp window.storable).1, by omega, done, ?_⟩
  intro shorter earlier other before found
  refine window.unsealed shorter (earlier.trans (prefix_append _ _)) ?_ before found
  rintro rfl
  have length := earlier.length_le
  rw [length_append] at length
  have none : rest = [] := eq_nil_of_length_eq_zero (by omega)
  exact other (by rw [none, append_nil])

theorem traced : ∃ trace, Traced config state trace :=
  (Traced.initial config).replay window.storable window.replayed

/-- A window that is not sealed goes on where the segment started. -/
theorem ordinal_of_open (opened : state.2.sealedWindowCount = 0) :
    state.1.nextWindowOrdinal = config.firstWindowOrdinal ∧
      state.2.lastSealedWindow = none := by
  obtain ⟨trace, traced⟩ := window.traced
  have none : trace.manifests = [] := by
    have count := traced.count
    rw [opened] at count
    exact eq_nil_of_length_eq_zero count.symm
  have next := traced.regular.partitions.next
  rw [traced.ledger, none] at next
  exact ⟨UInt64.toNat_inj.mp next, by rw [traced.last, none]; rfl⟩

omit window

end OneWindow

/-- The configuration of the segment behind a sealed one. -/
def CaptureWalConfig.next (config : CaptureWalConfig) (manifest : CaptureWindowManifest) :
    CaptureWalConfig :=
  config.at_ manifest.endExclusive (manifest.windowOrdinal + 1)

/-- The records of a sealed segment and its manifest. -/
structure SealedWindow (config : CaptureWalConfig) (records : List CaptureRecord)
    (manifest : CaptureWindowManifest) (state : CaptureWindowLedger × CaptureWalRecovery) :
    Prop where
  window : OneWindow config records state
  count : state.2.sealedWindowCount = 1
  last : state.2.lastSealedWindow = some manifest

namespace SealedWindow

variable {config : CaptureWalConfig} {records : List CaptureRecord}
  {manifest : CaptureWindowManifest} {state : CaptureWindowLedger × CaptureWalRecovery}

/-- What a seal leaves behind: the ledger of the next segment. -/
structure Joins (config : CaptureWalConfig) (manifest : CaptureWindowManifest)
    (state : CaptureWindowLedger × CaptureWalRecovery) : Prop where
  hardwareId : manifest.hardwareId = config.hardwareId
  bootEpoch : manifest.bootEpoch = config.bootEpoch
  ordinal : manifest.windowOrdinal = config.firstWindowOrdinal
  first : manifest.firstCursor = config.recoveredCursor
  durable : state.2.durableCursor = manifest.endExclusive
  ledger : state.1 = (config.next manifest).initial.1
  room : manifest.windowOrdinal.toNat + 1 < 2 ^ 64
  contract : config.bootEpoch ≠ 0 → manifest.Contract

/-- The seal is the last record. -/
theorem closes (sealed : SealedWindow config records manifest state) :
    ∃ front record before, records = front ++ [record] ∧
      replay config.hardwareId config.initial front = .ok before ∧
      before.2.sealedWindowCount = 0 ∧
      record.appliedTo config.hardwareId before.1 = .ok (some manifest, state.1) := by
  rcases eq_nil_or_concat records with rfl | ⟨front, record, rfl⟩
  · have count := sealed.count
    cases sealed.window.replayed
    cases count
  rw [concat_eq_append] at sealed ⊢
  obtain ⟨before, done, last⟩ := replay_append.mp sealed.window.replayed
  have none := sealed.window.unsealed front (prefix_append _ _)
    (by simp) before done
  rw [replay, foldlM_cons] at last
  obtain ⟨after, applied, same⟩ := bind_eq_ok.mp last
  cases same
  obtain ⟨found, applied, count, kept⟩ := replayRecord_eq_ok applied
  refine ⟨front, record, before, rfl, done, none, ?_⟩
  cases found with
  | none =>
    rw [sealed.count, none] at count
    cases count
  | some value =>
    rw [sealed.last] at kept
    cases kept
    exact applied

theorem joins (sealed : SealedWindow config records manifest state) :
    Joins config manifest state := by
  obtain ⟨trace, traced⟩ := sealed.window.traced
  obtain ⟨front, record, before, -, -, -, applied⟩ := sealed.closes
  have closed := CaptureRecord.appliedTo_sealed applied
  have one : trace.manifests = [manifest] := by
    have count := traced.count
    have last := traced.last
    rw [sealed.count] at count
    rw [sealed.last] at last
    obtain ⟨only, single⟩ := length_eq_one_iff.mp count.symm
    rw [single] at last ⊢
    cases last
    rfl
  have partitions := traced.regular.partitions
  have spans : trace.spans = [(manifest.firstCursor.toNat, manifest.endExclusive.toNat)] := by
    rw [LedgerTrace.spans, traced.ledger, closed, one]
    rfl
  have tiles := partitions.tiles
  rw [spans, Tiles.cons_iff] at tiles
  obtain ⟨first, -, rest⟩ := tiles
  rw [Tiles.nil_iff, traced.ledger] at rest
  have stop : manifest.endExclusive = state.1.nextCursor := UInt64.toNat_inj.mp rest
  have ordinal : manifest.windowOrdinal = config.firstWindowOrdinal := by
    have ordinals := partitions.ordinals
    rw [one] at ordinals
    exact UInt64.toNat_inj.mp (singleton_inj.mp ordinals)
  have next := partitions.next
  rw [traced.ledger, one, length_singleton, ← show manifest.windowOrdinal =
    config.initial.1.nextWindowOrdinal from ordinal] at next
  have room : manifest.windowOrdinal.toNat + 1 < 2 ^ 64 := next ▸ state.1.nextWindowOrdinal.toNat_lt
  have stream := partitions.stream manifest (by rw [one]; exact mem_singleton_self _)
  have replayed := (Replayed.initial config).run sealed.window.replayed
  have following : state.1.nextWindowOrdinal = manifest.windowOrdinal + 1 := by
    apply UInt64.toNat_inj.mp
    rw [next, UInt64.toNat_add, UInt64.toNat_one, Nat.mod_eq_of_lt room]
  exact {
    hardwareId := stream.1
    bootEpoch := stream.2
    ordinal
    first := UInt64.toNat_inj.mp first
    durable := replayed.cursor.trans stop.symm
    ledger := by
      rw [CaptureWalConfig.next, CaptureWalConfig.initial, CaptureWalConfig.at_, stop,
        ← following, ← traced.policy, ← replayed.hardwareId, ← replayed.bootEpoch, ← closed]
    room
    contract := fun epoch => traced.regular.contracts epoch manifest
      (by rw [one]; exact mem_singleton_self _) }

end SealedWindow

/-- A sealed segment of a stream. -/
structure StoredSegment where
  config : CaptureWalConfig
  records : List CaptureRecord
  manifest : CaptureWindowManifest

/-- Sealed segments from one configuration to the next one that is free. -/
inductive Chain : CaptureWalConfig → List StoredSegment → CaptureWalConfig → Prop
  | nil (config : CaptureWalConfig) : Chain config [] config
  | cons {segment : StoredSegment} {last : CaptureWalConfig}
      {state : CaptureWindowLedger × CaptureWalRecovery} {rest : List StoredSegment}
      (first : SealedWindow segment.config segment.records segment.manifest state)
      (later : Chain (segment.config.next segment.manifest) rest last) :
      Chain segment.config (segment :: rest) last

namespace Chain

variable {config last : CaptureWalConfig} {segments : List StoredSegment}
  {segment : StoredSegment}

theorem concat {state : CaptureWindowLedger × CaptureWalRecovery}
    (chain : Chain config segments segment.config)
    (sealed : SealedWindow segment.config segment.records segment.manifest state) :
    Chain config (segments ++ [segment]) (segment.config.next segment.manifest) := by
  generalize reached : segment.config = middle at chain
  induction chain with
  | nil =>
    subst reached
    exact .cons sealed (.nil _)
  | cons first later ih => exact .cons first (ih reached)

/-- Every segment of a chain is sealed. -/
theorem sealed (chain : Chain config segments last) (member : segment ∈ segments) :
    ∃ state, SealedWindow segment.config segment.records segment.manifest state := by
  induction chain with
  | nil => exact absurd member not_mem_nil
  | cons first later ih =>
    rcases mem_cons.mp member with rfl | member
    · exact ⟨_, first⟩
    · exact ih member

/-- The segments of a chain belong to one stream. -/
theorem stream (chain : Chain config segments last) :
    last = config.at_ last.recoveredCursor last.firstWindowOrdinal ∧ ∀ segment ∈ segments,
      segment.config =
        config.at_ segment.config.recoveredCursor segment.config.firstWindowOrdinal := by
  induction chain with
  | nil => exact ⟨rfl, fun _ member => absurd member not_mem_nil⟩
  | @cons head last state rest first later ih =>
    refine ⟨ih.1, fun segment member => ?_⟩
    rcases mem_cons.mp member with rfl | member
    · rfl
    · exact ih.2 segment member

theorem openable_at {base : CaptureWalConfig} (openable : Openable base) (cursor : SequenceCursor)
    (ordinal : UInt64) : Openable (base.at_ cursor ordinal) :=
  openable_of_nonzero openable.epoch openable.duration

theorem openable (chain : Chain config segments last) (openable : Openable config) :
    Openable last := by
  rw [chain.stream.1]
  exact openable_at openable _ _

/-- A ledger that runs through the chain starts the next segment. -/
theorem ledger (chain : Chain config segments last) :
    ledgerAfter config.hardwareId config.initial.1 (segments.flatMap (·.records)) =
      .ok last.initial.1 := by
  induction chain with
  | nil => rfl
  | cons first later ih =>
    rw [flatMap_cons]
    refine ledgerAfter_append.mpr ⟨_, ledgerAfter_of_replay first.window.replayed, ?_⟩
    rw [first.joins.ledger]
    exact ih

theorem next_ordinal {state : CaptureWindowLedger × CaptureWalRecovery}
    (sealed : SealedWindow segment.config segment.records segment.manifest state) :
    (segment.config.next segment.manifest).firstWindowOrdinal.toNat =
      segment.manifest.windowOrdinal.toNat + 1 := by
  change (segment.manifest.windowOrdinal + 1).toNat = _
  rw [UInt64.toNat_add, UInt64.toNat_one, Nat.mod_eq_of_lt sealed.joins.room]

variable (chain : Chain config segments last)

include chain

/-- The ordinals of a chain are consecutive. -/
theorem ordinals : segments.map (·.manifest.windowOrdinal.toNat) =
        range' config.firstWindowOrdinal.toNat segments.length ∧
      last.firstWindowOrdinal.toNat = config.firstWindowOrdinal.toNat + segments.length := by
  induction chain with
  | nil => exact ⟨rfl, rfl⟩
  | @cons head last state rest first later ih =>
    obtain ⟨consecutive, free⟩ := ih
    rw [next_ordinal first, first.joins.ordinal] at consecutive free
    refine ⟨?_, ?_⟩
    · rw [map_cons, consecutive, length_cons, range'_succ, first.joins.ordinal]
    · rw [free, length_cons]
      omega

/-- The ordinal that is free comes behind those of the chain. -/
theorem ordinal_lt (member : segment ∈ segments) :
    segment.manifest.windowOrdinal.toNat < last.firstWindowOrdinal.toNat := by
  obtain ⟨consecutive, free⟩ := chain.ordinals
  have found : segment.manifest.windowOrdinal.toNat ∈
      segments.map (·.manifest.windowOrdinal.toNat) := mem_map_of_mem member
  rw [consecutive, mem_range'_1] at found
  omega

/-- A chain goes up from its first ordinal. -/
theorem first_le : config.firstWindowOrdinal ≤ last.firstWindowOrdinal := by
  rw [UInt64.le_iff_toNat_le, chain.ordinals.2]
  exact Nat.le_add_right _ _

theorem ordinal_ge (member : segment ∈ segments) :
    config.firstWindowOrdinal ≤ segment.manifest.windowOrdinal := by
  have found : segment.manifest.windowOrdinal.toNat ∈
      segments.map (·.manifest.windowOrdinal.toNat) := mem_map_of_mem member
  rw [chain.ordinals.1, mem_range'_1] at found
  exact UInt64.le_iff_toNat_le.mpr found.1

/-- The windows of a chain join each other. -/
theorem contiguous : (segments.map (·.manifest)).IsChain fun earlier later =>
      earlier.relationTo later = .ok .contiguous := by
  induction chain with
  | nil => exact .nil
  | @cons head last state rest first later ih =>
    generalize reached : head.config.next head.manifest = middle at later
    cases later with
    | nil => exact .singleton _
    | @cons second last state rest following later =>
      have joins := first.joins
      have next := following.joins
      have ordinal := next_ordinal first
      rw [reached] at ordinal
      have stream : second.config.hardwareId = head.config.hardwareId ∧
          second.config.bootEpoch = head.config.bootEpoch ∧
          second.config.recoveredCursor = head.manifest.endExclusive := by
        rw [← reached]
        exact ⟨rfl, rfl, rfl⟩
      refine .cons_cons (relationTo_contiguous ?_ ?_ ?_ ?_) ih
      · rw [joins.hardwareId, next.hardwareId, stream.1]
      · rw [joins.bootEpoch, next.bootEpoch, stream.2.1]
      · rw [next.ordinal, ordinal]
      · rw [next.first, stream.2.2]

/-- The first window starts where the chain does. -/
theorem ends : (∀ segment ∈ segments.head?, segment.manifest.firstCursor = config.recoveredCursor) ∧
      ∀ segment ∈ segments.getLast?, segment.manifest.endExclusive = last.recoveredCursor := by
  induction chain with
  | nil => exact ⟨nofun, nofun⟩
  | @cons head last state rest first later ih =>
    refine ⟨?_, ?_⟩
    · rintro _ ⟨⟩
      exact first.joins.first
    generalize reached : head.config.next head.manifest = middle at later ih
    cases later with
    | nil =>
      rintro _ ⟨⟩
      rw [← reached]
      rfl
    | cons following later =>
      rw [getLast?_cons_cons]
      exact ih.2

omit chain

end Chain
end SensorSystem.Host
