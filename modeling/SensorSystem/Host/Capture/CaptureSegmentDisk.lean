import SensorSystem.Host.Capture.CaptureSegmentReader

/-! The files of the sealed segments are complete and stay so. The file of the open window may be
missing, empty or end in a torn record. A crash keeps this, and after a crash during an append
some of the appended records are there. -/

namespace SensorSystem.Host

open List Base

/-- The files of the sealed segments, with at most one log and manifest behind. -/
structure Held (base : CaptureWalConfig) (disk : CaptureDisk) (sealed : List StoredSegment)
    (config : CaptureWalConfig) : Prop where
  openable : Openable base
  chain : Chain base sealed config
  segment : ∀ segment ∈ sealed, ∃ file,
    disk.lookup (.wal segment.manifest.windowOrdinal) = some file ∧
      file.content = walBytes segment.config segment.records ∧ file.synced = file.content.length
  linked : ∀ segment ∈ sealed, .wal segment.manifest.windowOrdinal ∉ disk.unlinked
  manifests : ∀ ordinal file, base.firstWindowOrdinal ≤ ordinal →
    disk.lookup (.manifest ordinal) = some file →
    ∃ segment ∈ sealed, segment.manifest.windowOrdinal = ordinal ∧
      file.content = encodeManifest segment.manifest ∧ file.synced = file.content.length
  wals : ∀ ordinal, disk.lookup (.wal ordinal) ≠ none → ordinal = config.firstWindowOrdinal ∨
    ∃ segment ∈ sealed, segment.manifest.windowOrdinal = ordinal

/-- The file of the open window between two writes. -/
inductive Resting (config : CaptureWalConfig) : List CaptureRecord → Option StoredFile → Prop
  | absent : Resting config [] none
  | empty : Resting config [] (some ⟨[], 0⟩)
  | written {records : List CaptureRecord} {torn : List UInt8}
      {state : CaptureWindowLedger × CaptureWalRecovery} (window : OneWindow config records state)
      (unsealed : state.2.sealedWindowCount = 0)
      (proper : TornAt config (walBytes config records).length torn) :
      Resting config records
        (some ⟨walBytes config records ++ torn, (walBytes config records ++ torn).length⟩)

/-- A disk on which nothing is being written. -/
structure AtRest (base : CaptureWalConfig) (disk : CaptureDisk) (sealed : List StoredSegment)
    (config : CaptureWalConfig) (records : List CaptureRecord) : Prop where
  held : Held base disk sealed config
  file : Resting config records (disk.lookup (.wal config.firstWindowOrdinal))
  unlinked : .wal config.firstWindowOrdinal ∈ disk.unlinked → records = []

/-- Records are being appended to the file of the open window. -/
structure Writing (base : CaptureWalConfig) (disk : CaptureDisk) (sealed : List StoredSegment)
    (config : CaptureWalConfig) (records extra : List CaptureRecord)
    (state : CaptureWindowLedger × CaptureWalRecovery) : Prop where
  held : Held base disk sealed config
  window : OneWindow config (records ++ extra) state
  file : disk.lookup (.wal config.firstWindowOrdinal) =
    some ⟨walBytes config (records ++ extra), (walBytes config records).length⟩
  linked : .wal config.firstWindowOrdinal ∉ disk.unlinked

variable {base config : CaptureWalConfig} {disk after : CaptureDisk}
  {sealed : List StoredSegment} {records extra : List CaptureRecord}
  {state : CaptureWindowLedger × CaptureWalRecovery}

namespace Held

variable (held : Held base disk sealed config)

include held

/-- The open window has an ordinal of its own. -/
theorem fresh {segment : StoredSegment} (member : segment ∈ sealed) :
    segment.manifest.windowOrdinal ≠ config.firstWindowOrdinal := by
  intro same
  have before := held.chain.ordinal_lt member
  rw [same] at before
  exact Nat.lt_irrefl _ before

/-- Only the file of the open window and temporary files differ. -/
theorem congr (wals : ∀ ordinal, ordinal ≠ config.firstWindowOrdinal →
      after.lookup (.wal ordinal) = disk.lookup (.wal ordinal))
    (manifests : ∀ ordinal, after.lookup (.manifest ordinal) = disk.lookup (.manifest ordinal))
    (linked : ∀ ordinal, ordinal ≠ config.firstWindowOrdinal →
      .wal ordinal ∈ after.unlinked → .wal ordinal ∈ disk.unlinked) :
    Held base after sealed config where
  openable := held.openable
  chain := held.chain
  segment segment member := by
    rw [wals _ (held.fresh member)]
    exact held.segment segment member
  linked segment member entry := held.linked segment member (linked _ (held.fresh member) entry)
  manifests ordinal file behind found :=
    held.manifests ordinal file behind (manifests ordinal ▸ found)
  wals ordinal found := by
    by_cases own : ordinal = config.firstWindowOrdinal
    · exact .inl own
    rw [wals ordinal own] at found
    exact held.wals ordinal found

/-- What a sync covers survives a crash. -/
theorem crashed (crashed : disk.Crashed after) : Held base after sealed config where
  openable := held.openable
  chain := held.chain
  segment segment member := by
    obtain ⟨file, found, content, synced⟩ := held.segment segment member
    cases kept : after.lookup (.wal segment.manifest.windowOrdinal) with
    | none =>
      have lost := crashed.lost _ kept (by rw [found]; nofun)
      exact absurd lost (held.linked segment member)
    | some stored =>
      obtain ⟨before, same, length, cut, long, remains⟩ := crashed.kept _ _ kept
      rw [found] at same
      cases same
      rw [take_of_length_le (synced ▸ long)] at remains
      exact ⟨stored, rfl, remains.trans content, length⟩
  linked segment member := by
    rw [crashed.linked]
    exact not_mem_nil
  manifests ordinal stored behind kept := by
    obtain ⟨before, found, length, cut, long, remains⟩ := crashed.kept _ _ kept
    obtain ⟨segment, member, same, content, synced⟩ := held.manifests ordinal before behind found
    rw [take_of_length_le (synced ▸ long)] at remains
    exact ⟨segment, member, same, remains.trans content, length⟩
  wals ordinal found := by
    refine held.wals ordinal ?_
    obtain ⟨stored, kept⟩ := Option.ne_none_iff_exists'.mp found
    obtain ⟨before, there, -⟩ := crashed.kept _ _ kept
    rw [there]
    nofun

omit held

end Held

theorem Resting.crashed
    (resting : Resting config records (disk.lookup (.wal config.firstWindowOrdinal)))
    (unlinked : .wal config.firstWindowOrdinal ∈ disk.unlinked → records = [])
    (crashed : disk.Crashed after) :
    Resting config records (after.lookup (.wal config.firstWindowOrdinal)) := by
  cases kept : after.lookup (.wal config.firstWindowOrdinal) with
  | none =>
    have none : records = [] := by
      generalize found : disk.lookup (.wal config.firstWindowOrdinal) = file at resting
      cases resting with
      | absent => rfl
      | empty => rfl
      | written => exact unlinked (crashed.lost _ kept (by rw [found]; nofun))
    rw [none]
    exact .absent
  | some stored =>
    obtain ⟨before, found, length, cut, long, remains⟩ := crashed.kept _ _ kept
    obtain ⟨content, synced⟩ := stored
    rw [found] at resting
    cases resting with
    | empty =>
      simp only [take_nil] at remains length
      subst remains
      rw [length]
      exact .empty
    | written window unsealed proper =>
      rw [take_of_length_le long] at remains
      simp only at remains length
      subst remains
      rw [length]
      exact .written window unsealed proper

/-- A crash between two operations loses nothing. -/
theorem AtRest.crashed (rest : AtRest base disk sealed config records)
    (crashed : disk.Crashed after) : AtRest base after sealed config records where
  held := rest.held.crashed crashed
  file := rest.file.crashed rest.unlinked crashed
  unlinked entry := by
    rw [crashed.linked] at entry
    exact absurd entry not_mem_nil

theorem OneWindow.open_or_sealed (window : OneWindow config records state) :
    state.2.sealedWindowCount = 0 ∨ ∃ manifest, SealedWindow config records manifest state := by
  rcases eq_nil_or_concat records with rfl | ⟨front, record, rfl⟩
  · cases window.replayed
    exact .inl rfl
  rw [concat_eq_append] at window ⊢
  obtain ⟨before, done, last⟩ := replay_append.mp window.replayed
  have none := window.unsealed front (prefix_append _ _) (by simp) before done
  rw [replay, foldlM_cons] at last
  obtain ⟨after, applied, same⟩ := bind_eq_ok.mp last
  cases same
  obtain ⟨manifest, -, count, kept⟩ := replayRecord_eq_ok applied
  rw [none] at count
  cases manifest with
  | none => exact .inl (UInt64.toNat_inj.mp count)
  | some manifest => exact .inr ⟨manifest, window, UInt64.toNat_inj.mp count, kept⟩

/-- What is left of a file behind the bytes that are synced. -/
theorem OneWindow.survivors (window : OneWindow config (records ++ extra) state) {length : Nat}
    (long : (walBytes config records).length ≤ length) : ∃ kept torn, kept <+: extra ∧
      (walBytes config (records ++ extra)).take length =
        walBytes config (records ++ kept) ++ torn ∧
      TornAt config (walBytes config (records ++ kept)).length torn ∧
      ((walBytes config (records ++ extra)).length ≤ length → kept = extra) := by
  obtain ⟨room, rfl⟩ : ∃ room, length = fileHeaderBytes + room := by
    rw [length_walBytes] at long
    exact ⟨length - fileHeaderBytes, by omega⟩
  obtain ⟨torn, parts, proper⟩ := take_walBytes window.storable window.bounded room
  have first : records <+: survivingRecords room (records ++ extra) := by
    rw [survivingRecords, prefix_wholeRecords_iff _ (prefix_append _ _)]
    rw [length_walBytes] at long
    omega
  have whole : survivingRecords room (records ++ extra) <+: records ++ extra :=
    prefix_wholeRecords _ _ _
  obtain ⟨kept, same⟩ := first
  rw [← same] at parts proper whole
  refine ⟨kept, torn, (prefix_append_right_inj _).mp whole, parts, proper, fun all => ?_⟩
  have everything : records ++ extra <+: survivingRecords room (records ++ extra) := by
    rw [survivingRecords, prefix_wholeRecords_iff _ prefix_rfl]
    rw [length_walBytes] at all
    omega
  rw [← same] at everything
  exact append_cancel_left (whole.eq_of_length_le everything.length_le)

/-- The log of a sealed window joins those of the sealed segments. -/
theorem Held.add {manifest : CaptureWindowManifest} (held : Held base disk sealed config)
    (window : SealedWindow config records manifest state)
    (file : disk.lookup (.wal config.firstWindowOrdinal) =
      some ⟨walBytes config records, (walBytes config records).length⟩)
    (linked : .wal config.firstWindowOrdinal ∉ disk.unlinked) :
    Held base disk (sealed ++ [⟨config, records, manifest⟩]) (config.next manifest) ∧
      disk.lookup (.wal (config.next manifest).firstWindowOrdinal) = none := by
  have joins := window.joins
  constructor
  · exact {
      openable := held.openable
      chain := held.chain.concat window
      segment := by
        intro segment member
        rcases mem_append.mp member with member | member
        · exact held.segment segment member
        · cases mem_singleton.mp member
          exact ⟨_, joins.ordinal ▸ file, rfl, rfl⟩
      linked := by
        intro segment member
        rcases mem_append.mp member with member | member
        · exact held.linked segment member
        · cases mem_singleton.mp member
          exact joins.ordinal ▸ linked
      manifests := by
        intro ordinal file behind found
        obtain ⟨segment, member, rest⟩ := held.manifests ordinal file behind found
        exact ⟨segment, mem_append_left _ member, rest⟩
      wals := by
        intro ordinal found
        rcases held.wals ordinal found with rfl | ⟨segment, member, same⟩
        · exact .inr ⟨_, mem_append_right _ (mem_singleton_self _), joins.ordinal⟩
        · exact .inr ⟨segment, mem_append_left _ member, same⟩ }
  · by_contra found
    have next : (config.next manifest).firstWindowOrdinal.toNat =
        manifest.windowOrdinal.toNat + 1 := @Chain.next_ordinal ⟨config, records, manifest⟩ _ window
    rw [joins.ordinal] at next
    rcases held.wals _ found with same | ⟨segment, member, same⟩
    · rw [same] at next
      omega
    · have before := held.chain.ordinal_lt member
      rw [same] at before
      omega

/-- The records that a disk holds, from the first segment on. -/
def Holds (base : CaptureWalConfig) (disk : CaptureDisk) (log : List CaptureRecord) : Prop :=
  ∃ sealed config records, AtRest base disk sealed config records ∧
    log = sealed.flatMap (·.records) ++ records

/-- A window that is complete on the disk is at rest. -/
theorem Held.rest (held : Held base disk sealed config) (window : OneWindow config records state)
    (file : disk.lookup (.wal config.firstWindowOrdinal) =
      some ⟨walBytes config records, (walBytes config records).length⟩)
    (linked : .wal config.firstWindowOrdinal ∉ disk.unlinked) :
    Holds base disk (sealed.flatMap (·.records) ++ records) := by
  rcases window.open_or_sealed with unsealed | ⟨manifest, window⟩
  · refine ⟨sealed, config, records, ⟨held, ?_, fun entry => absurd entry linked⟩, rfl⟩
    have resting := Resting.written window unsealed (.inl rfl)
    rwa [append_nil, ← file] at resting
  · obtain ⟨added, absent⟩ := held.add window file linked
    refine ⟨_, _, [], ⟨added, absent ▸ .absent, fun _ => rfl⟩, ?_⟩
    rw [flatMap_append, flatMap_singleton, append_nil]

/-- A crash during an append keeps the first of its records. -/
theorem Writing.crashed (writing : Writing base disk sealed config records extra state)
    (crashed : disk.Crashed after) :
    ∃ kept, kept <+: extra ∧ Holds base after (sealed.flatMap (·.records) ++ records ++ kept) := by
  have held := writing.held.crashed crashed
  have linked : .wal config.firstWindowOrdinal ∉ after.unlinked := by
    rw [crashed.linked]
    exact not_mem_nil
  cases found : after.lookup (.wal config.firstWindowOrdinal) with
  | none =>
    exact absurd (crashed.lost _ found (by rw [writing.file]; nofun)) writing.linked
  | some stored =>
    obtain ⟨before, same, synced, length, long, remains⟩ := crashed.kept _ _ found
    obtain ⟨content, durable⟩ := stored
    cases writing.file.symm.trans same
    simp only at synced long remains
    obtain ⟨kept, torn, first, parts, proper, all⟩ := writing.window.survivors long
    refine ⟨kept, first, ?_⟩
    rw [append_assoc]
    subst synced
    rw [parts] at remains
    subst remains
    obtain ⟨before, window⟩ := writing.window.take
      ((prefix_append_right_inj records).mpr first)
    by_cases whole : kept = extra
    · -- Nothing is torn behind the last record.
      have none : torn = [] := by
        subst whole
        have short := length_take_le length (walBytes config (records ++ kept))
        have lost := congrArg List.length parts
        rw [length_take, length_append] at lost
        exact eq_nil_of_length_eq_zero (by omega)
      subst none
      rw [append_nil] at found
      exact held.rest window found linked
    · -- Only the last record can seal.
      have unsealed := writing.window.unsealed _ ((prefix_append_right_inj records).mpr first)
        (fun same => whole (append_cancel_left same)) before window.replayed
      refine ⟨sealed, config, records ++ kept, ⟨held, ?_, fun entry => absurd entry linked⟩, rfl⟩
      rw [found]
      exact .written window unsealed proper

theorem Holds.crashed {log : List CaptureRecord} (holds : Holds base disk log)
    (crashed : disk.Crashed after) : Holds base after log := by
  obtain ⟨sealed, config, records, rest, same⟩ := holds
  exact ⟨sealed, config, records, rest.crashed crashed, same⟩

end SensorSystem.Host
