import SensorSystem.Node.Measurement.JournalConservation
import SensorSystem.Node.Protocol.NodeRuns
import SensorSystem.System.TimingSummaries

/-! The journal takes each sample by itself, a pull summarises the timing of a run of them. A pull
of retained samples fails inside exactly when the times of two neighbours of a run do not go on. -/

namespace SensorSystem.System

open List Node UInt64

/-- Two samples whose timing is valid have different times. -/
def Follows (earlier later : SampleRecord) : Prop :=
  earlier.deviceTimeUs ≤ later.deviceTimeUs ∧
    ¬ (earlier.timingQualityFlags &&& timingValidFlag ≠ 0 ∧
      later.timingQualityFlags &&& timingValidFlag ≠ 0 ∧
        earlier.deviceTimeUs = later.deviceTimeUs)

instance (earlier later : SampleRecord) : Decidable (Follows earlier later) :=
  inferInstanceAs (Decidable (_ ∧ ¬ _))

/-- Each sample of a run follows the one before it. -/
def RunFollows (records : List SampleRecord) : Prop :=
  ∀ index first second, records[index]? = some first → records[index + 1]? = some second →
    Follows first second

/-- Neighbours of one segment follow each other from a cursor on. -/
def LogFollows (log : List Entry) (start : Nat) : Prop :=
  ∀ cursor first second, start ≤ cursor → log[cursor]? = some (.sample first) →
    log[cursor + 1]? = some (.sample second) → sameSegment first second = true →
      Follows first second

variable {records : List SampleRecord}

theorem sampleAt_viewOf {index : Nat} {record : SampleRecord}
    (found : records[index]? = some record) :
    sampleAt (DeliverySession.viewOf records) index = record := by
  have whole : (DeliverySession.viewOf records).first ++ (DeliverySession.viewOf records).second =
      records := append_nil records
  rw [DeliverySession.sampleAt_eq, whole, getD_eq_getElem?_getD, found, Option.getD_some]

theorem sampleCount_viewOf (records : List SampleRecord) :
    (DeliverySession.viewOf records).sampleCount = records.length := Nat.add_zero _

/-- A run that follows itself has a summary. -/
theorem summarized_of_follows (nonempty : 0 < records.length) (bounded : records.length ≤ 65535)
    (follows : RunFollows records) :
    ∃ timing, summarizeTiming (DeliverySession.viewOf records) = .ok timing := by
  have count := sampleCount_viewOf records
  have shown : ∀ place (inside : place < records.length),
      sampleAt (DeliverySession.viewOf records) place = records[place] := fun place inside =>
    sampleAt_viewOf (getElem?_eq_getElem inside)
  have neighbours : ∀ place, place + 1 < records.length →
      Follows (sampleAt (DeliverySession.viewOf records) place)
        (sampleAt (DeliverySession.viewOf records) (place + 1)) := by
    intro place inside
    rw [shown place (by omega), shown (place + 1) inside]
    exact follows place _ _ (getElem?_eq_getElem (Nat.lt_of_succ_lt inside))
      (getElem?_eq_getElem inside)
  have rises : NonDecreasing (DeliverySession.viewOf records) :=
    nonDecreasing_of_steps fun place inside => (neighbours place (count ▸ inside)).1
  refine (summarize_timing_spec _ (by omega) (by omega)).1.mpr ⟨rises, ?_⟩
  rintro ⟨valid, several, same⟩
  -- The second sample lies between the first and the last, which have one time.
  have second := rises 1 _ (by omega) (Nat.sub_lt (by omega) Nat.one_pos)
  rw [same] at second
  have first := neighbours 0 (by omega)
  exact first.2 ⟨bne_iff_ne.mp (valid 0 (by omega)), bne_iff_ne.mp (valid 1 several),
    UInt64.le_antisymm first.1 second⟩

/-- Two samples whose timing is summarised follow each other. -/
theorem follows_of_summarized {earlier later : SampleRecord} {timing : TimingSummary}
    (summarized : summarizeTiming (DeliverySession.viewOf [earlier, later]) = .ok timing) :
    Follows earlier later := by
  have count := sampleCount_viewOf [earlier, later]
  have two : [earlier, later].length = 2 := rfl
  obtain ⟨rises, open_⟩ :=
    (summarize_timing_spec _ (by omega) (by omega)).1.mp ⟨timing, summarized⟩
  refine ⟨rises 0 1 (Nat.zero_le 1) (by omega), fun ⟨first, second, same⟩ => open_ ⟨?_, ?_, ?_⟩⟩
  · intro index inside
    have cases : index = 0 ∨ index = 1 := by omega
    rcases cases with rfl | rfl
    · exact bne_iff_ne.mpr first
    · exact bne_iff_ne.mpr second
  · omega
  · rw [count]
    exact same.symm

/-- A command that asks an idle session for a retained cursor. -/
structure Asks {limits : DeliveryLimits} (session : DeliverySession limits)
    (command : PullCommand) : Prop where
  addresses : session.Addresses command
  releasable : command.releaseBefore.toNat ≤
    max session.journal.delivered session.journal.retainedFrom
  retained : session.journal.retainedFrom ≤ command.start.toNat
  produced : command.start.toNat < session.journal.produced

/-- The plan holds a piece of the stream. -/
def Prepares (plan : PullPlan) : Prop :=
  plan.decision = .sampleChunk ∨ plan.decision = .gap ∨ plan.decision = .continuityBreak

section Pulls

variable {limits : DeliveryLimits} {session : DeliverySession limits} {log : List Entry}
  {command : PullCommand}

theorem prepares_iff_readable (represents : Represents session.journal log)
    (asks : Asks session command) :
    Prepares (session.preparePull command).1 ↔ session.Readable command log := by
  have idle := asks.addresses.idle
  have started := asks.addresses.started
  have limited := asks.addresses.limited
  have inside : command.start.toNat < log.length := represents.produced_eq ▸ asks.produced
  have ordered := le_iff_toNat_le.mp asks.addresses.ordered
  have releasable := asks.releasable
  have retained := asks.retained
  generalize planned : (session.preparePull command).1 = plan
  have outcome := represents.planned command
  rw [planned] at outcome
  generalize (session.preparePull command).2 = after at outcome
  cases outcome with
  | declined decision =>
    rcases decision with ⟨-, busy⟩ | ⟨-, unstarted⟩ | ⟨-, unlimited⟩
    · exact absurd idle busy
    · exact absurd unstarted started
    · exact absurd unlimited limited
  | streamChanged decision epoch started other => exact absurd asks.addresses.epoch other
  | invalidRelease decision state epoch started idle refused kept =>
    rcases refused with reversed | beyond
    · have lt := lt_iff_toNat_lt.mp reversed
      omega
    · omega
  | unanswered addresses released decision =>
    rcases decision with ⟨-, ahead⟩ | ⟨failed, -, unreadable⟩
    · omega
    · refine ⟨fun prepares => ?_, fun readable => absurd readable unreadable⟩
      rcases prepares with same | same | same <;> rw [failed] at same <;> cases same
  | noData addresses released decision state exhausted => omega
  | rangeUnavailable addresses released decision state lost =>
    have kept := released.retained_eq
    omega
  | @prepared _ content addresses released token retained found bounded shown =>
    refine ⟨fun _ other same => ?_, fun _ => ?_⟩
    · rw [found] at same
      cases same
      refine ⟨token, ?_⟩
      rintro records rfl
      obtain ⟨-, -, -, -, -, -, view, -, -, timing⟩ := shown
      exact ⟨_, (DeliverySession.summarizeTiming_viewOf view).trans timing⟩
    cases content with
    | gap record => exact .inr (.inl shown.1)
    | continuityBreak record => exact .inr (.inr shown.1)
    | samples records => exact .inl shown.1

variable {cursor : Nat}

theorem runFollows_of_contentAt {start limit : Nat} (follows : LogFollows log start)
    (behind : start ≤ cursor) (found : Log.contentAt log cursor limit = some (.samples records)) :
    RunFollows records := by
  intro index first second here next
  obtain ⟨one, revision, segment⟩ := Log.getElem?_of_samples found here
  obtain ⟨other, sameRevision, sameSegment_⟩ := Log.getElem?_of_samples found next
  refine follows (cursor + index) first second (by omega) one other ?_
  rw [sameSegment, Bool.and_eq_true, beq_iff_eq, beq_iff_eq]
  exact ⟨sameRevision.trans revision.symm, sameSegment_.trans segment.symm⟩

/-- Two neighbours of one segment are read together. -/
theorem contentAt_pair {first second : SampleRecord} (here : log[cursor]? = some (.sample first))
    (next : log[cursor + 1]? = some (.sample second)) (same : sameSegment first second = true) :
    Log.contentAt log cursor 2 = some (.samples [first, second]) := by
  obtain ⟨inside, one⟩ := List.getElem?_eq_some_iff.mp here
  obtain ⟨within, other⟩ := List.getElem?_eq_some_iff.mp next
  have rest : log.drop cursor = .sample first :: .sample second :: log.drop (cursor + 2) := by
    rw [drop_eq_getElem_cons inside, one, drop_eq_getElem_cons within, other]
  have run : samplesOf [Entry.sample second] = [second] := rfl
  rw [Log.contentAt, rest]
  change some (Log.Content.samples (first :: (samplesOf (takeWhile Entry.isSample
    [Entry.sample second])).takeWhile (sameSegment first))) = _
  rw [takeWhile_cons_of_pos rfl, takeWhile_nil, run, takeWhile_cons_of_pos same,
    takeWhile_nil]

/-- A command for a cursor that releases nothing. -/
def commandAt (session : DeliverySession limits) (cursor : Nat) (maxSamples : UInt16) :
    PullCommand :=
  ⟨session.bootEpoch, ofNat cursor, 0, maxSamples⟩

theorem asks_commandAt (represents : Represents session.journal log)
    (idle : session.preparedToken = 0) (started : session.bootEpoch ≠ 0)
    (retained : session.journal.retainedFrom ≤ cursor) (inside : cursor < log.length)
    {maxSamples : UInt16} (limited : maxSamples ≠ 0) :
    (commandAt session cursor maxSamples).start.toNat = cursor ∧
      Asks session (commandAt session cursor maxSamples) := by
  have bounded := represents.log_bounded
  have start : (ofNat cursor).toNat = cursor :=
    toNat_ofNat_of_lt' (Nat.lt_of_lt_of_le inside (Nat.le_trans bounded (by decide)))
  refine ⟨start, ⟨idle, rfl, started, limited, le_iff_toNat_le.mpr (Nat.zero_le _)⟩,
    Nat.zero_le _, ?_, ?_⟩
  · exact start.symm ▸ retained
  · rw [represents.produced_eq]
    exact start.symm ▸ inside

/-- What is read for a command follows itself, under a token. -/
theorem readable_of_follows (serves : Serves session log) (asks : Asks session command)
    (token : session.nextToken ≠ 0)
    (follows : 1 < limits.maxChunkSamples → LogFollows log session.journal.retainedFrom) :
    session.Readable command log := by
  intro content found
  refine ⟨token, ?_⟩
  rintro records rfl
  have positive := DeliverySession.requested_pos limits asks.addresses.limited
  have few : records.length ≤ DeliverySession.requested limits command :=
    Log.regular_of_contentAt serves.checked positive found
  have fits : DeliverySession.requested limits command ≤ limits.maxChunkSamples := by
    rw [DeliverySession.requested]
    split
    · rename_i small
      exact Nat.le_of_lt small
    · exact Nat.le_refl _
  have limit := limits.chunkFits
  refine summarized_of_follows (Log.count_pos_of_contentAt found) (by omega) ?_
  by_cases several : 1 < limits.maxChunkSamples
  · exact runFollows_of_contentAt (follows several) asks.retained found
  intro index first second here next
  have inside := (List.getElem?_eq_some_iff.mp next).1
  omega

theorem prepares_all_iff (serves : Serves session log) :
    (∀ command, Asks session command → Prepares (session.preparePull command).1) ↔
      (session.preparedToken = 0 → session.bootEpoch ≠ 0 →
        (session.journal.retainedFrom < session.journal.produced → session.nextToken ≠ 0) ∧
        (1 < limits.maxChunkSamples → LogFollows log session.journal.retainedFrom)) := by
  have represents := serves.represents
  constructor
  · intro prepares idle started
    constructor
    · intro some
      rw [represents.produced_eq] at some
      obtain ⟨start, asks⟩ := asks_commandAt represents idle started (Nat.le_refl _) some
        (show (1 : UInt16) ≠ 0 by decide)
      have readable := (prepares_iff_readable represents asks).mp (prepares _ asks)
      obtain ⟨content, found, -⟩ := represents.prepareRead_content
        (DeliverySession.requested_pos limits asks.addresses.limited) (Nat.le_refl _) some
      rw [← start] at found
      exact (readable content found).1
    · intro several cursor first second behind here next same
      have inside := (List.getElem?_eq_some_iff.mp here).1
      obtain ⟨start, asks⟩ := asks_commandAt represents idle started behind inside
        (show (2 : UInt16) ≠ 0 by decide)
      have readable := (prepares_iff_readable represents asks).mp (prepares _ asks)
      have two : DeliverySession.requested limits (commandAt session cursor 2) = 2 := by
        have asked : (commandAt session cursor 2).maxSamples.toNat = 2 := rfl
        rw [DeliverySession.requested, asked]
        split <;> omega
      have found := contentAt_pair here next same
      rw [← start, ← two] at found
      obtain ⟨timing, summarized⟩ := (readable _ found).2 _ rfl
      exact follows_of_summarized summarized
  · intro ready command asks
    obtain ⟨token, follows⟩ := ready asks.addresses.idle asks.addresses.started
    exact (prepares_iff_readable represents asks).mpr
      (readable_of_follows serves asks (token (Nat.lt_of_le_of_lt asks.retained asks.produced))
        follows)

end Pulls

theorem prefix_foldl_after (log : List Entry) (events : List NodeEvent) :
    log <+: events.foldl Log.after log := by
  induction events generalizing log with
  | nil => exact prefix_refl log
  | cons event events ih =>
    refine IsPrefix.trans ?_ (ih _)
    rw [Log.after]
    split
    · exact Log.prefix_step log _
    · exact prefix_refl log

/-- Neighbours of a prefix are neighbours of the log. -/
theorem LogFollows.of_isPrefix {log longer : List Entry} {start : Nat}
    (follows : LogFollows longer start) (within : log <+: longer) : LogFollows log start :=
  fun cursor first second behind here next same =>
    follows cursor first second behind (getElem?_of_isPrefixed within here)
      (getElem?_of_isPrefixed within next) same

/-- In every state of a run, the pulls of retained samples are all prepared exactly when there is a
token and the retained neighbours follow each other; a run that takes in no other samples prepares
all of them. -/
theorem accepted_samples_deliverable (limits : DeliveryLimits) (bootEpoch : UInt64)
    (events : List NodeEvent) : let session := (DeliverySession.initial limits bootEpoch).run events
    let log := events.foldl Log.after []
    ((∀ command, Asks session command → Prepares (session.preparePull command).1) ↔
      (session.preparedToken = 0 → session.bootEpoch ≠ 0 →
        (session.journal.retainedFrom < session.journal.produced → session.nextToken ≠ 0) ∧
        (1 < limits.maxChunkSamples → LogFollows log session.journal.retainedFrom))) ∧
    (LogFollows log 0 → ∀ before after, events = before ++ after →
      ((DeliverySession.initial limits bootEpoch).run before).nextToken ≠ 0 →
        ∀ command, Asks ((DeliverySession.initial limits bootEpoch).run before) command →
          Prepares (((DeliverySession.initial limits bootEpoch).run before).preparePull
            command).1) := by
  refine ⟨prepares_all_iff ((Serves.initial limits bootEpoch).run events), ?_⟩
  rintro follows before after rfl token command asks
  have serves := (Serves.initial limits bootEpoch).run before
  rw [List.foldl_append] at follows
  have earlier := follows.of_isPrefix (prefix_foldl_after _ after)
  exact (prepares_iff_readable serves.represents asks).mpr
    (readable_of_follows serves asks token fun _ cursor first second _ =>
      earlier cursor first second (Nat.zero_le cursor))

/-- A journal of eight samples and chunks of at most four. -/
def blockedLimits : DeliveryLimits where
  journal := { fourSamples with samples := 8, samplesPositive := by decide }
  maxChunkSamples := 4
  journalFits := by decide
  chunkPositive := fourSamples.samplesPositive
  chunkFits := by decide

/-- A sample without a valid timing. -/
def sampleOf (deviceTimeUs : UInt64) : SampleRecord :=
  { deviceTimeUs, configRevision := 1, timingSegmentId := 1 }

/-- The second sample is timed before the first. -/
def fallingSamples : List NodeEvent :=
  [.appendSample 0 (sampleOf 200), .appendSample 1 (sampleOf 100)]

/-- Both samples are accepted, and no pull for two of them is prepared. -/
theorem accepted_samples_blocked :
    let session := (DeliverySession.initial blockedLimits 1).run fallingSamples
    validSampleRecord (sampleOf 200) = true ∧ validSampleRecord (sampleOf 100) = true ∧
      fallingSamples.foldl Log.after [] = [.sample (sampleOf 200), .sample (sampleOf 100)] ∧
      Asks session ⟨1, 0, 0, 2⟩ ∧ (session.preparePull ⟨1, 0, 0, 2⟩).1.decision = .internalError ∧
      ¬ Prepares (session.preparePull ⟨1, 0, 0, 2⟩).1 := by
  intro session
  have failed : (session.preparePull ⟨1, 0, 0, 2⟩).1.decision = .internalError := by decide
  refine ⟨by decide, by decide, by decide, ⟨⟨?_, ?_, ?_, ?_, ?_⟩, ?_, ?_, ?_⟩, failed, ?_⟩
  any_goals decide
  rintro (same | same | same) <;> rw [failed] at same <;> cases same

end SensorSystem.System
