import SensorSystem.Host.Persistence.GroupRecovery

/-! The owners of a worker submit records, let it process groups, poll completions and hand over
recovered sinks in any order. A sink is truthful about how many leading records of a group it has
stored, or its recovered cursor is. Then every job is completed once, in the order of submission,
and its record is stored once. -/

namespace SensorSystem.Host

open GroupedPersistenceWorker List
open Base
open GroupDurableMeasurementSink (Error persistGroup)

def PersistenceEnvelope.inStream (hardwareId : HardwareId) (bootEpoch : BootEpoch)
    (envelope : PersistenceEnvelope) : Bool :=
  envelope.hardwareId = hardwareId ∧ envelope.bootEpoch = bootEpoch

section Sinks

variable {S : Type} {stored : S → HardwareId → BootEpoch → List PersistenceEnvelope}
  {before middle after : S} {records more : List PersistenceEnvelope}

/-- Each record is stored at the end of its own stream. -/
def Appends (stored : S → HardwareId → BootEpoch → List PersistenceEnvelope) (before after : S)
    (records : List PersistenceEnvelope) : Prop :=
  ∀ hardwareId bootEpoch, stored after hardwareId bootEpoch =
    stored before hardwareId bootEpoch ++ records.filter (·.inStream hardwareId bootEpoch)

theorem Appends.refl (sink : S) : Appends stored sink sink [] := by
  intro hardwareId bootEpoch
  rw [filter_nil, append_nil]

theorem Appends.trans (first : Appends stored before middle records)
    (second : Appends stored middle after more) :
      Appends stored before after (records ++ more) := by
  intro hardwareId bootEpoch
  rw [second, first, filter_append, append_assoc]

/-- A commit that fails leaves open how many of the attempted records are stored. -/
structure TruthfulSink [GroupDurableMeasurementSink S]
    (stored : S → HardwareId → BootEpoch → List PersistenceEnvelope) : Prop where
  success : ∀ {sink : S} {group answer}, group ≠ [] → (persistGroup sink group).1 = .ok answer →
    0 < answer.persistedRecords ∧ answer.persistedRecords ≤ group.length ∧
      Appends stored sink (persistGroup sink group).2 (group.take answer.persistedRecords)
  preparation : ∀ {sink : S} {group error}, group ≠ [] →
    (persistGroup sink group).1 = .error (.preparation error) →
      Appends stored sink (persistGroup sink group).2 []
  commit : ∀ {sink : S} {group attempted error}, group ≠ [] →
    (persistGroup sink group).1 = .error (.commit attempted error) →
      0 < attempted ∧ attempted ≤ group.length ∧ ∃ landed ≤ attempted,
        Appends stored sink (persistGroup sink group).2 (group.take landed)

end Sinks

inductive WriterCall (S : Type) where
  | submitRecord (envelope : PersistenceEnvelope)
  | processOneGroup
  | pollCompletion
  | replaceRecoveredSink (sink : S) (evidence : RecoveredCursorEvidence)

/-- A worker with its jobs, its completions and the records of the failed group that have landed. -/
structure WriterRun (S : Type) [GroupDurableMeasurementSink S] where
  worker : GroupedPersistenceWorker S
  accepted : List WriteCommand := []
  delivered : List (WriteCompletion (Error S)) := []
  landed : Nat := 0

/-- The job of a successful completion and its receipt. -/
def WriteCompletion.success? {E : Type} (completion : WriteCompletion E) :
    Option (WriteJobId × DurableReceipt) :=
  match completion.result with
  | .ok receipt => some (completion.id, receipt)
  | .error _ => none

def successes {E : Type} (completions : List (WriteCompletion E)) :
    List (WriteJobId × DurableReceipt) :=
  completions.filterMap (·.success?)

/-- What the success of a job says. -/
def WriteCommand.settlement (command : WriteCommand) : WriteJobId × DurableReceipt :=
  (command.id, command.envelope.receipt)

namespace WriterRun

variable {S : Type} [GroupDurableMeasurementSink S]

/-- How much the stream of the first waiting record has grown. -/
def grown (stored : S → HardwareId → BootEpoch → List PersistenceEnvelope)
    (worker : GroupedPersistenceWorker S) (after : S) : Nat :=
  match worker.pending with
  | [] => 0
  | first :: _ =>
    (stored after first.envelope.hardwareId first.envelope.bootEpoch).length -
      (stored worker.sink first.envelope.hardwareId first.envelope.bootEpoch).length

def call (stored : S → HardwareId → BootEpoch → List PersistenceEnvelope) (run : WriterRun S) :
    WriterCall S → WriterRun S
  | .submitRecord envelope => match run.worker.submitRecord envelope with
    | (.ok id, worker) => { run with worker, accepted := run.accepted ++ [⟨id, envelope⟩] }
    | (.error _, worker) => { run with worker }
  | .processOneGroup =>
    let worker := run.worker.processOneGroup.2
    { run with
      worker
      landed :=
        if run.worker.faulted then run.landed
        else if worker.faulted then grown stored run.worker worker.sink
        else 0 }
  | .pollCompletion => match run.worker.pollCompletion with
    | (some completion, worker) =>
      { run with worker, delivered := run.delivered ++ [completion] }
    | (none, worker) => { run with worker }
  | .replaceRecoveredSink sink evidence =>
    let worker := (run.worker.replaceRecoveredSink sink evidence).2
    { run with worker, landed := if worker.faulted then run.landed else 0 }

def calls (stored : S → HardwareId → BootEpoch → List PersistenceEnvelope) (run : WriterRun S)
    (made : List (WriterCall S)) : WriterRun S :=
  made.foldl (call stored) run

/-- A recovered sink still holds what the failed one had stored, or evidence of it. -/
def Truthful (stored : S → HardwareId → BootEpoch → List PersistenceEnvelope)
    (run : WriterRun S) : WriterCall S → Prop
  | .replaceRecoveredSink sink evidence =>
    Appends stored run.worker.sink sink [] ∧
      ((∀ range ∈ run.worker.failedRanges,
          range.hardwareId = evidence.hardwareId ∧ range.bootEpoch = evidence.bootEpoch) →
        SplitsAt evidence.durable run.worker.failedRanges run.landed)
  | _ => True

def TruthfulCalls (stored : S → HardwareId → BootEpoch → List PersistenceEnvelope) :
    WriterRun S → List (WriterCall S) → Prop
  | _, [] => True
  | run, made :: rest => run.Truthful stored made ∧ TruthfulCalls stored (run.call stored made) rest

end WriterRun

namespace GroupedPersistenceWorker

variable {S : Type} [GroupDurableMeasurementSink S] {worker : GroupedPersistenceWorker S}
  {stored : S → HardwareId → BootEpoch → List PersistenceEnvelope}

theorem contiguousGroupLen_le : worker.contiguousGroupLen ≤ worker.pending.length := by
  rw [contiguousGroupLen]
  split
  · exact Nat.zero_le _
  · exact (contiguousRun_le _ _).trans (length_take_le' _ _)

theorem contiguousGroupLen_pos (waiting : worker.pending ≠ [])
    (limit : 0 < worker.maxGroupRecords) :
    0 < worker.contiguousGroupLen := by
  obtain ⟨first, rest, same⟩ := exists_cons_of_ne_nil waiting
  obtain ⟨count, counted⟩ := Nat.exists_eq_succ_of_ne_zero (Nat.ne_of_gt limit)
  simp [contiguousGroupLen, same, counted, contiguousRun]

/-- The waiting jobs of a group adjoin each other. -/
theorem contiguousRun_group {count : Nat} {first : WriteCommand} {rest : List WriteCommand}
    (within : count ≤ worker.contiguousGroupLen) (same : worker.pending = first :: rest) :
    contiguousRun first.envelope first.envelope.startCursor (worker.pending.take count) =
      count := by
  rw [contiguousGroupLen, same] at within
  have fits := within.trans ((contiguousRun_le _ _).trans (length_take_le _ _))
  have run := contiguousRun_take within
  rw [take_take, Nat.min_eq_left fits] at run
  rw [same]
  exact run

theorem nextGroup_take {count : Nat} (within : count ≤ worker.contiguousGroupLen) :
    worker.nextGroup.take count = (worker.pending.take count).map (·.envelope) := by
  rw [nextGroup, ← map_take, take_take, Nat.min_eq_left within]

theorem nextGroup_length : worker.nextGroup.length = worker.contiguousGroupLen := by
  rw [nextGroup, length_map, length_take, Nat.min_eq_left contiguousGroupLen_le]

/-- A calm worker with waiting jobs asks its sink. -/
theorem processOneGroup_eq (calm : worker.faulted = false) (waiting : worker.pending ≠ []) :
    worker.processOneGroup =
      { worker with sink := (persistGroup worker.sink worker.nextGroup).2 }.settleGroup
        worker.contiguousGroupLen (persistGroup worker.sink worker.nextGroup).1 := by
  have enters : ¬ (worker.faulted = true ∨ worker.pending = []) := by
    rw [calm]
    exact fun stops => stops.elim nofun waiting
  rw [processOneGroup, if_neg enters]

theorem processOneGroup_truthful (truthful : TruthfulSink stored) (calm : worker.faulted = false)
    (clear : worker.failedGroup = []) (waiting : worker.pending ≠ [])
    (limit : 0 < worker.maxGroupRecords) :
    ∃ sink count landed, 0 < count ∧ count ≤ worker.contiguousGroupLen ∧ landed ≤ count ∧
      Appends stored worker.sink sink ((worker.pending.take landed).map (·.envelope)) ∧
      ((landed = count ∧ worker.processOneGroup = (.ok count,
          { worker with
            sink
            pending := worker.pending.drop count
            completions := worker.completions ++
              (worker.pending.take count).map (·.succeeded) })) ∨
        ∃ error, worker.processOneGroup = (.ok count,
          { worker with
            sink
            pending := worker.pending.drop count
            failedGroup := worker.pending.take count
            completions := worker.completions ++
              (worker.pending.take 1).map (⟨·.id, .error error⟩)
            faulted := true })) := by
  have positive := contiguousGroupLen_pos waiting limit
  have filled : worker.nextGroup ≠ [] := by
    rw [← length_pos_iff, nextGroup_length]
    exact positive
  refine ⟨(persistGroup worker.sink worker.nextGroup).2, ?_⟩
  rw [processOneGroup_eq calm waiting]
  cases answered : (persistGroup worker.sink worker.nextGroup).1 with
  | ok answer =>
    obtain ⟨some, within, appends⟩ := truthful.success filled answered
    rw [nextGroup_length] at within
    rw [nextGroup_take within] at appends
    refine ⟨_, _, some, within, Nat.le_refl _, appends, Or.inl ⟨rfl, ?_⟩⟩
    rw [settleGroup, if_neg (by omega)]
  | error failure =>
    cases failure with
    | preparation error =>
      have appends := truthful.preparation filled answered
      refine ⟨1, 0, Nat.one_pos, positive, Nat.zero_le _, appends, Or.inr ⟨error, ?_⟩⟩
      rw [settleGroup, clear, nil_append]
    | commit attempted error =>
      obtain ⟨some, within, landed, part, appends⟩ := truthful.commit filled answered
      rw [nextGroup_length] at within
      rw [nextGroup_take (part.trans within)] at appends
      refine ⟨_, _, some, within, part, appends, Or.inr ⟨error, ?_⟩⟩
      rw [settleGroup, if_neg (by omega)]
      simp only [clear, nil_append, take_take, Nat.min_eq_left some]

end GroupedPersistenceWorker

section Successes

variable {E : Type} (completions : List (WriteCompletion E)) (commands : List WriteCommand)

@[simp] theorem successes_append (more : List (WriteCompletion E)) :
    successes (completions ++ more) = successes completions ++ successes more :=
  filterMap_append

@[simp] theorem successes_succeeded :
    successes (commands.map (·.succeeded) : List (WriteCompletion E)) =
      commands.map (·.settlement) := by
  rw [successes, filterMap_map]
  exact congrFun filterMap_eq_map' commands

@[simp] theorem successes_failed (error : E) :
    successes (commands.map (⟨·.id, .error error⟩) : List (WriteCompletion E)) = [] := by
  rw [successes, filterMap_map]
  exact filterMap_eq_nil_iff.mpr fun _ _ => rfl

end Successes

namespace WriterRun

variable {S : Type} [GroupDurableMeasurementSink S] {run : WriterRun S} {first : S}
  {stored : S → HardwareId → BootEpoch → List PersistenceEnvelope} {done : List WriteCommand}

/-- The accepted jobs are the done ones, the failed group and the queue, in order. -/
structure Settled (stored : S → HardwareId → BootEpoch → List PersistenceEnvelope) (first : S)
    (capacity : Nat) (run : WriterRun S) (done : List WriteCommand) : Prop where
  split : run.accepted = done ++ run.worker.failedGroup ++ run.worker.pending
  succeeded : successes (run.delivered ++ run.worker.completions) = done.map (·.settlement)
  written : Appends stored first run.worker.sink
    ((done ++ run.worker.failedGroup.take run.landed).map (·.envelope))
  landed : run.landed ≤ run.worker.failedGroup.length
  calm : run.worker.faulted = false → run.worker.failedGroup = []
  adjoining : ∀ command rest, run.worker.failedGroup = command :: rest →
    contiguousRun command.envelope command.envelope.startCursor run.worker.failedGroup =
      run.worker.failedGroup.length
  next : run.worker.nextJobId.toNat = run.accepted.length + 1
  numbered : run.accepted.map (·.id.toNat) = range' 1 run.accepted.length
  configured : run.worker.capacity = capacity
  bounded : run.worker.failedGroup.length + run.worker.pending.length +
    (successes run.worker.completions).length ≤ run.worker.capacity
  limit : 0 < run.worker.maxGroupRecords

variable {capacity : Nat} {evidence : RecoveredCursorEvidence} {sink : S}

theorem Settled.start {maxGroupRecords : Nat} {worker : GroupedPersistenceWorker S}
    (opened : new first capacity maxGroupRecords = .ok worker) :
    Settled stored first capacity ⟨worker, [], [], 0⟩ [] := by
  obtain ⟨-, opened⟩ := guard_eq_ok.mp opened
  obtain ⟨limit, opened⟩ := guard_eq_ok.mp opened
  cases opened
  constructor
  · rfl
  · rfl
  · exact Appends.refl first
  · exact Nat.le_refl _
  · exact fun _ => rfl
  · exact fun _ _ => nofun
  · rfl
  · rfl
  · rfl
  · exact Nat.zero_le _
  · exact Nat.pos_of_ne_zero limit

theorem submitRecord_cases (worker : GroupedPersistenceWorker S) (envelope : PersistenceEnvelope) :
    (∃ kind, worker.submitRecord envelope = (.error ⟨kind, envelope⟩, worker)) ∨
      worker.pending.length + worker.failedGroup.length + worker.completions.length <
          worker.capacity ∧
        ∃ next : UInt64, worker.nextJobId.toNat + 1 = next.toNat ∧
          worker.submitRecord envelope = (.ok worker.nextJobId,
            { worker with
              nextJobId := next
              pending := worker.pending ++ [⟨worker.nextJobId, envelope⟩] }) := by
  rw [submitRecord]
  split
  · exact Or.inl ⟨_, rfl⟩
  split
  · exact Or.inl ⟨_, rfl⟩
  rename_i room
  split
  · exact Or.inl ⟨_, rfl⟩
  rename_i next sum
  exact Or.inr ⟨Nat.lt_of_not_le room, next, checkedAdd_eq_some.mp sum, rfl⟩

variable (settled : run.Settled stored first capacity done)

include settled

theorem Settled.submitRecord (envelope : PersistenceEnvelope) :
    (run.call stored (.submitRecord envelope)).Settled stored first capacity done := by
  rw [call]
  rcases submitRecord_cases run.worker envelope with ⟨kind, refused⟩ | ⟨room, next, sum, taken⟩
  · rw [refused]
    exact settled
  rw [taken]
  have fewer : (successes run.worker.completions).length ≤ run.worker.completions.length :=
    length_filterMap_le _ _
  exact { settled with
    split := by simp only [settled.split, append_assoc]
    next := by
      rw [← sum, settled.next, length_append]
      rfl
    numbered := by
      rw [map_append, settled.numbered, length_append, range'_append_1.symm]
      simp [settled.next, Nat.add_comm]
    bounded := by
      simp only [length_append, length_singleton]
      omega }

theorem Settled.pollCompletion :
    (run.call stored .pollCompletion).Settled stored first capacity done := by
  rw [call, GroupedPersistenceWorker.pollCompletion]
  cases queue : run.worker.completions with
  | nil => exact settled
  | cons completion rest =>
    have given := settled.succeeded
    have fits := settled.bounded
    rw [queue] at given fits
    exact { settled with
      succeeded := by
        rw [← given, append_assoc]
        rfl
      bounded := by
        refine Nat.le_trans (Nat.add_le_add_left ?_ _) fits
        exact (sublist_cons_self completion rest).filterMap _ |>.length_le }

omit settled

/-- A refused recovery changes nothing. -/
theorem replaceRecoveredSink_error {worker : GroupedPersistenceWorker S}
    {error : RecoveryClassificationError}
    (refused : (worker.replaceRecoveredSink sink evidence).1 = .error error) :
    (worker.replaceRecoveredSink sink evidence).2 = worker := by
  rw [replaceRecoveredSink] at refused ⊢
  split at refused
  · rfl
  · cases refused

theorem failedRanges_length {worker : GroupedPersistenceWorker S} :
    worker.failedRanges.length = worker.failedGroup.length :=
  length_map _

include settled

/-- An accepted recovery confirms the stored records. -/
theorem Settled.confirmed_eq {decision : GroupRecoveryDisposition}
    (truthful : run.Truthful stored (.replaceRecoveredSink sink evidence))
    (classified : classifyGroupRecovery run.worker.failedRanges evidence = .ok decision) :
    decision.confirmedPrefixRecords = run.landed := by
  obtain ⟨within, splits, identity⟩ := classifyGroupRecovery_splits classified
  refine splits.unique (truthful.2 identity) within ?_
  rw [failedRanges_length]
  exact settled.landed

theorem Settled.landed_of_calm (calm : run.worker.faulted = false) : run.landed = 0 := by
  have within := settled.landed
  rw [settled.calm calm] at within
  exact Nat.le_zero.mp within

theorem Settled.replaceRecoveredSink
    (truthful : run.Truthful stored (.replaceRecoveredSink sink evidence)) :
    ∃ more, (run.call stored (.replaceRecoveredSink sink evidence)).Settled stored first capacity
      (done ++ more) := by
  rw [call, GroupedPersistenceWorker.replaceRecoveredSink]
  cases classified : classifyGroupRecovery run.worker.failedRanges evidence with
  | error error =>
    have same : (if run.worker.faulted = true then run.landed else 0) = run.landed := by
      split
      · rfl
      rename_i calm
      exact (settled.landed_of_calm (Bool.eq_false_iff.mpr calm)).symm
    refine ⟨[], ?_⟩
    rw [append_nil]
    simp only [same]
    exact settled
  | ok decision =>
    have confirmed := settled.confirmed_eq truthful classified
    have fits := settled.bounded
    refine ⟨run.worker.failedGroup.take run.landed, ?_⟩
    simp only [confirmed]
    constructor
    · rw [settled.split, append_nil, append_assoc, append_assoc]
      rw [← append_assoc (take _ _), take_append_drop]
    · rw [← append_assoc, successes_append, settled.succeeded, successes_succeeded,
        map_append]
    · have written := settled.written.trans truthful.1
      simpa only [append_nil, take_nil] using written
    · exact Nat.zero_le _
    · exact fun _ => rfl
    · exact fun _ _ => nofun
    · exact settled.next
    · exact settled.numbered
    · exact settled.configured
    · simp only [successes_append, successes_succeeded, length_append, length_map,
        length_take, length_drop, length_nil]
      omega
    · exact settled.limit

omit settled

theorem grown_eq {worker : GroupedPersistenceWorker S} {count landed : Nat}
    (within : count ≤ worker.contiguousGroupLen) (part : landed ≤ count)
    (appends : Appends stored worker.sink sink ((worker.pending.take landed).map (·.envelope))) :
    grown stored worker sink = landed := by
  have fits := (part.trans within).trans contiguousGroupLen_le
  rw [grown]
  cases queue : worker.pending with
  | nil =>
    rw [queue] at fits
    exact (Nat.le_zero.mp fits).symm
  | cons head rest =>
    have run := contiguousRun_group (part.trans within) queue
    have size : (worker.pending.take landed).length = landed := length_take_of_le fits
    have stream := contiguousRun_stream (run.trans size.symm)
    have all : ((worker.pending.take landed).map (·.envelope)).filter
        (·.inStream head.envelope.hardwareId head.envelope.bootEpoch) =
          (worker.pending.take landed).map (·.envelope) := by
      refine filter_eq_self.mpr fun envelope member => ?_
      obtain ⟨command, queued, rfl⟩ := mem_map.mp member
      exact decide_eq_true (stream command queued)
    simp only [appends _ _, all, length_append, length_map, size,
      Nat.add_sub_cancel_left]

include settled

theorem Settled.processOneGroup (truthful : TruthfulSink stored) :
    ∃ more, (run.call stored .processOneGroup).Settled stored first capacity (done ++ more) := by
  by_cases idle : run.worker.faulted = true ∨ run.worker.pending = []
  · refine ⟨[], ?_⟩
    rw [append_nil, call, GroupedPersistenceWorker.processOneGroup, if_pos idle]
    have same : (if run.worker.faulted = true then run.landed
        else if run.worker.faulted = true then grown stored run.worker run.worker.sink else 0) =
        run.landed := by
      split
      · rfl
      rename_i calm
      exact (settled.landed_of_calm (Bool.eq_false_iff.mpr calm)).symm
    simp only [same]
    exact settled
  · obtain ⟨calm, waiting⟩ := not_or.mp idle
    have clear := settled.calm (Bool.eq_false_iff.mpr calm)
    have none := settled.landed_of_calm (Bool.eq_false_iff.mpr calm)
    obtain ⟨sink, count, landed, some, within, part, appends, outcome⟩ :=
      run.worker.processOneGroup_truthful truthful (Bool.eq_false_iff.mpr calm) clear waiting
        settled.limit
    have grew := grown_eq within part appends
    have fits := settled.bounded
    have split := settled.split
    have written := settled.written.trans appends
    have inside := within.trans contiguousGroupLen_le
    rw [clear, append_nil] at split
    rw [clear, take_nil, append_nil, ← map_append] at written
    rcases outcome with ⟨rfl, processed⟩ | ⟨error, processed⟩
    · refine ⟨run.worker.pending.take landed, ?_⟩
      rw [call, processed]
      simp only [if_neg calm]
      constructor
      · simp only [split, clear, append_nil, append_assoc, take_append_drop]
      · rw [← append_assoc, successes_append, settled.succeeded, successes_succeeded,
          map_append]
      · simpa only [clear, take_nil, append_nil] using written
      · exact Nat.zero_le _
      · exact fun _ => clear
      · simp only [clear]
        exact fun _ _ => nofun
      · exact settled.next
      · exact settled.numbered
      · exact settled.configured
      · simp only [successes_append, successes_succeeded, length_append, length_map,
          length_take, length_drop]
        omega
      · exact settled.limit
    · refine ⟨[], ?_⟩
      rw [call, processed, append_nil]
      simp only [if_neg calm, if_true, grew]
      have size : (run.worker.pending.take count).length = count := length_take_of_le inside
      constructor
      · simp only [split, append_assoc, take_append_drop]
      · rw [← append_assoc, successes_append, settled.succeeded, successes_failed,
          append_nil]
      · rw [take_take, Nat.min_eq_left part]
        exact written
      · rw [size]
        exact part
      · exact nofun
      · intro command rest same
        obtain ⟨head, tail, queue⟩ := exists_cons_of_ne_nil waiting
        have adjoins := contiguousRun_group within queue
        obtain ⟨more, counted⟩ := Nat.exists_eq_succ_of_ne_zero (Nat.ne_of_gt some)
        simp only [queue, counted, take_succ_cons, cons.injEq] at same
        rw [← same.1, adjoins, size]
      · exact settled.next
      · exact settled.numbered
      · exact settled.configured
      · simp only [successes_append, successes_failed, append_nil, length_take,
          length_drop]
        omega
      · exact settled.limit

theorem Settled.call {made : WriterCall S} (truthful : TruthfulSink stored)
    (honest : run.Truthful stored made) :
    ∃ more, (run.call stored made).Settled stored first capacity (done ++ more) := by
  cases made with
  | submitRecord envelope =>
    refine ⟨[], ?_⟩
    rw [append_nil]
    exact settled.submitRecord envelope
  | processOneGroup => exact settled.processOneGroup truthful
  | pollCompletion =>
    refine ⟨[], ?_⟩
    rw [append_nil]
    exact settled.pollCompletion
  | replaceRecoveredSink sink evidence => exact settled.replaceRecoveredSink honest

theorem Settled.calls {made : List (WriterCall S)} (truthful : TruthfulSink stored)
    (honest : run.TruthfulCalls stored made) :
    ∃ more, (run.calls stored made).Settled stored first capacity (done ++ more) := by
  induction made generalizing run done with
  | nil =>
    refine ⟨[], ?_⟩
    rw [append_nil]
    exact settled
  | cons call rest ih =>
    obtain ⟨more, settled⟩ := settled.call truthful honest.1
    obtain ⟨later, settled⟩ := ih settled honest.2
    refine ⟨more ++ later, ?_⟩
    rw [← append_assoc]
    exact settled

/-- Processing never stalls: some waiting jobs leave the queue. -/
theorem Settled.process_advances (truthful : TruthfulSink stored)
    (calm : run.worker.faulted = false) (waiting : run.worker.pending ≠ []) :
    ∃ count, 0 < count ∧ count ≤ run.worker.pending.length ∧
      run.worker.processOneGroup.1 = .ok count ∧
      run.worker.processOneGroup.2.pending = run.worker.pending.drop count := by
  obtain ⟨sink, count, landed, some, within, -, -, outcome⟩ :=
    run.worker.processOneGroup_truthful truthful calm (settled.calm calm) waiting settled.limit
  have inside := within.trans contiguousGroupLen_le
  rcases outcome with ⟨-, processed⟩ | ⟨error, processed⟩
  all_goals
    rw [processed]
    exact ⟨count, some, inside, rfl, rfl⟩

/-- Evidence on a border of the failed group is accepted. -/
theorem Settled.replace_advances
    (truthful : run.Truthful stored (.replaceRecoveredSink sink evidence))
    (failed : run.worker.failedGroup ≠ []) (border : evidence.OnBorder run.worker.failedRanges) :
    (run.worker.replaceRecoveredSink sink evidence).1 = .ok ⟨run.landed⟩ ∧
      (run.worker.replaceRecoveredSink sink evidence).2.faulted = false ∧
      (run.worker.replaceRecoveredSink sink evidence).2.pending =
        run.worker.failedGroup.drop run.landed ++ run.worker.pending := by
  obtain ⟨head, rest, same⟩ := exists_cons_of_ne_nil failed
  have ranges : run.worker.failedRanges = head.recoveryRange :: rest.map (·.recoveryRange) := by
    rw [failedRanges, same, map_cons]
  have member : head.recoveryRange ∈ run.worker.failedRanges := by
    rw [ranges]
    exact mem_cons_self
  obtain ⟨⟨hardware, epoch⟩, -⟩ := border.1 _ member
  obtain ⟨stop, checked⟩ := checkPendingGroup_run (settled.adjoining head rest same) hardware epoch
  rw [same, map_cons] at checked
  have accepted : ∃ decision, classifyGroupRecovery run.worker.failedRanges evidence =
      .ok decision := by
    rw [ranges] at border ⊢
    exact classifyGroupRecovery_ok checked border
  obtain ⟨decision, classified⟩ := accepted
  have confirmed := settled.confirmed_eq truthful classified
  rw [GroupedPersistenceWorker.replaceRecoveredSink, classified, ← confirmed]
  exact ⟨rfl, rfl, rfl⟩

omit settled

theorem processOneGroup_calm {worker : GroupedPersistenceWorker S}
    (calm : worker.faulted = false) (waiting : worker.pending ≠ [])
    (stores : ∃ answer, (persistGroup worker.sink worker.nextGroup).1 = .ok answer) :
    worker.processOneGroup.2.faulted = false := by
  obtain ⟨answer, stores⟩ := stores
  rw [processOneGroup_eq calm waiting, stores,
    settleGroup]
  split
  · exact calm
  · exact calm

/-- A sink that never fails gets every waiting job done. -/
theorem Settled.drains (settled : run.Settled stored first capacity done)
    (truthful : TruthfulSink stored) (calm : run.worker.faulted = false)
    (healthy : ∀ (sink : S) group, group ≠ [] → ∃ answer,
      (persistGroup sink group).1 = .ok answer) :
    ∃ count, let later := run.calls stored (replicate count .processOneGroup)
      successes (later.delivered ++ later.worker.completions) =
        run.accepted.map (·.settlement) := by
  -- The queue shrinks with every call, so its length bounds the number of calls.
  induction size : run.worker.pending.length using Nat.strong_induction_on
    generalizing run done with
  | _ length ih =>
    by_cases waiting : run.worker.pending = []
    · refine ⟨0, ?_⟩
      have split := settled.split
      rw [settled.calm calm, waiting, append_nil, append_nil] at split
      rw [split]
      exact settled.succeeded
    obtain ⟨more, next⟩ := settled.processOneGroup truthful
    obtain ⟨taken, some, within, -, left⟩ := settled.process_advances truthful calm waiting
    have filled : run.worker.nextGroup ≠ [] := by
      rw [← length_pos_iff, nextGroup_length]
      exact contiguousGroupLen_pos waiting settled.limit
    have smaller : run.worker.processOneGroup.2.pending.length < length := by
      rw [left, length_drop]
      omega
    obtain ⟨count, finished⟩ := ih _ smaller next
      (processOneGroup_calm calm waiting (healthy _ _ filled)) rfl
    exact ⟨count + 1, finished⟩

/-- As many polls as completions give all of them out, in order. -/
theorem calls_poll (run : WriterRun S) :
    run.calls stored (replicate run.worker.completions.length .pollCompletion) =
      { run with
        worker := { run.worker with completions := [] }
        delivered := run.delivered ++ run.worker.completions } := by
  obtain ⟨worker, accepted, delivered, landed⟩ := run
  obtain ⟨sink, capacity, maxGroupRecords, nextJobId, pending, failedGroup, completions,
    faulted⟩ := worker
  induction completions generalizing delivered with
  | nil =>
    rw [append_nil]
    rfl
  | cons completion rest ih =>
    refine (ih (delivered ++ [completion])).trans ?_
    rw [append_assoc]
    rfl

theorem pollCompletion_eq (worker : GroupedPersistenceWorker S) :
    worker.pollCompletion =
      (worker.completions.head?, { worker with completions := worker.completions.tail }) := by
  obtain ⟨sink, capacity, maxGroupRecords, nextJobId, pending, failedGroup, completions,
    faulted⟩ := worker
  cases completions with
  | nil => rfl
  | cons completion rest => rfl

/-- Every accepted job is done, kept in the failed group or waiting. The done ones
have succeeded, once each, in the order of submission and with their own receipts,
and the streams of the sink have grown by their records and by the records of the
failed group that have landed. The queue is bounded, a poll takes the first waiting
completion, a refused recovery changes nothing, and neither a calm worker nor one with
clear evidence is stuck: with a sound sink every accepted job gets its completion. -/
theorem completes_once_in_order {sink : S} {capacity maxGroupRecords : Nat}
    {worker : GroupedPersistenceWorker S} (truthful : TruthfulSink stored)
    (opened : GroupedPersistenceWorker.new sink capacity maxGroupRecords = .ok worker)
    (made : List (WriterCall S)) (honest : TruthfulCalls stored ⟨worker, [], [], 0⟩ made) :
    let run := calls stored ⟨worker, [], [], 0⟩ made
    (∃ done, run.accepted = done ++ run.worker.failedGroup ++ run.worker.pending ∧
      successes (run.delivered ++ run.worker.completions) = done.map (·.settlement) ∧
      Appends stored sink run.worker.sink
        ((done ++ run.worker.failedGroup.take run.landed).map (·.envelope))) ∧
    (run.accepted.map (·.id)).Nodup ∧
    (run.worker.faulted = false → run.worker.failedGroup = []) ∧
    run.worker.failedGroup.length + run.worker.pending.length +
      (successes run.worker.completions).length ≤ capacity ∧
    run.worker.pollCompletion = (run.worker.completions.head?,
      { run.worker with completions := run.worker.completions.tail }) ∧
    (∀ recovered evidence error,
      (run.worker.replaceRecoveredSink recovered evidence).1 = .error error →
        (run.worker.replaceRecoveredSink recovered evidence).2 = run.worker) ∧
    (∀ recovered evidence, run.Truthful stored (.replaceRecoveredSink recovered evidence) →
      run.worker.failedGroup ≠ [] → evidence.OnBorder run.worker.failedRanges →
        (run.worker.replaceRecoveredSink recovered evidence).1 = .ok ⟨run.landed⟩ ∧
          (run.worker.replaceRecoveredSink recovered evidence).2.faulted = false) ∧
    (run.worker.faulted = false → run.worker.pending ≠ [] →
      ∃ count, 0 < count ∧ run.worker.processOneGroup.1 = .ok count ∧
        run.worker.processOneGroup.2.pending = run.worker.pending.drop count) ∧
    (run.worker.faulted = false →
      (∀ (sink : S) group, group ≠ [] → ∃ answer, (persistGroup sink group).1 = .ok answer) →
        ∃ groups polls,
          let drained := run.calls stored (List.replicate groups .processOneGroup)
          let later := drained.calls stored (List.replicate polls .pollCompletion)
          later.worker.completions = [] ∧
            successes later.delivered = run.accepted.map (·.settlement)) := by
  intro run
  have start : Settled stored sink capacity ⟨worker, [], [], 0⟩ [] := Settled.start opened
  obtain ⟨done, settled⟩ := start.calls truthful honest
  rw [List.nil_append] at settled
  have distinct : (run.accepted.map (·.id)).Nodup := by
    refine List.Nodup.of_map UInt64.toNat ?_
    rw [List.map_map]
    exact settled.numbered ▸ List.nodup_range'
  refine ⟨⟨done, settled.split, settled.succeeded, settled.written⟩, distinct, settled.calm,
    settled.configured ▸ settled.bounded, pollCompletion_eq run.worker, ?_, ?_, ?_, ?_⟩
  · intro recovered evidence error refused
    exact replaceRecoveredSink_error refused
  · intro recovered evidence shown failed border
    obtain ⟨accepted, calm, -⟩ := settled.replace_advances shown failed border
    exact ⟨accepted, calm⟩
  · intro calm waiting
    obtain ⟨count, some, -, processed, left⟩ := settled.process_advances truthful calm waiting
    exact ⟨count, some, processed, left⟩
  intro calm healthy
  obtain ⟨groups, finished⟩ := settled.drains truthful calm healthy
  let drained := run.calls stored (List.replicate groups .processOneGroup)
  refine ⟨groups, drained.worker.completions.length, ?_⟩
  intro _ later
  have polled : later = { drained with
      worker := { drained.worker with completions := [] }
      delivered := drained.delivered ++ drained.worker.completions } := calls_poll drained
  rw [polled]
  exact ⟨rfl, finished⟩

end WriterRun

/-- A sink whose next commit may stop after some records. -/
structure MemorySink where
  records : List PersistenceEnvelope
  tornAfter : Option Nat

instance : GroupDurableMeasurementSink MemorySink where
  Error := Unit
  persistGroup sink group := match group, sink.tornAfter with
    | [], _ => (.ok ⟨0⟩, sink)
    | _ :: _, none => (.ok ⟨group.length⟩, ⟨sink.records ++ group, none⟩)
    | _ :: _, some count =>
      (.error (.commit group.length ()), ⟨sink.records ++ group.take count, none⟩)

def MemorySink.stored (sink : MemorySink) (hardwareId : HardwareId) (bootEpoch : BootEpoch) :
    List PersistenceEnvelope :=
  sink.records.filter (·.inStream hardwareId bootEpoch)

theorem MemorySink.appends {before after : MemorySink} {group : List PersistenceEnvelope}
    (grown : after.records = before.records ++ group) :
    Appends MemorySink.stored before after group := by
  intro hardwareId bootEpoch
  rw [MemorySink.stored, grown, filter_append]
  rfl

theorem MemorySink.truthful : TruthfulSink MemorySink.stored where
  success {sink group answer} filled answered := by
    obtain ⟨head, rest, rfl⟩ := exists_cons_of_ne_nil filled
    obtain ⟨records, tornAfter⟩ := sink
    cases tornAfter with
    | some count => cases answered
    | none =>
      cases answered
      refine ⟨Nat.succ_pos _, Nat.le_refl _, MemorySink.appends ?_⟩
      rw [take_length]
      rfl
  preparation {sink group error} filled answered := by
    obtain ⟨head, rest, rfl⟩ := exists_cons_of_ne_nil filled
    obtain ⟨records, tornAfter⟩ := sink
    cases tornAfter <;> cases answered
  commit {sink group attempted error} filled answered := by
    obtain ⟨head, rest, rfl⟩ := exists_cons_of_ne_nil filled
    obtain ⟨records, tornAfter⟩ := sink
    cases tornAfter with
    | none => cases answered
    | some count =>
      cases answered
      refine ⟨Nat.succ_pos _, Nat.le_refl _, min count (head :: rest).length,
        Nat.min_le_right _ _, MemorySink.appends ?_⟩
      rw [← take_eq_take_min]
      rfl

def breakAt (cursor : SequenceCursor) (bounded : cursor.toNat + 1 < 2 ^ 64) : PersistenceEnvelope :=
  .continuityBreak ⟨Vector.replicate 8 0, 1, cursor, .unknown, bounded⟩

namespace WriterRun

/-- Two records, a commit that stops after the first, and the retry. -/
def retriedCalls : List (WriterCall MemorySink) :=
  [.submitRecord (breakAt 5 (by decide)), .submitRecord (breakAt 6 (by decide)),
    .processOneGroup, .pollCompletion,
    .replaceRecoveredSink ⟨[breakAt 5 (by decide)], none⟩ ⟨Vector.replicate 8 0, 1, 6⟩,
    .processOneGroup, .pollCompletion, .pollCompletion]

def retriedStart : WriterRun MemorySink :=
  ⟨⟨⟨[], some 1⟩, 2, 4, 1, [], [], [], false⟩, [], [], 0⟩

theorem retriedCalls_truthful : retriedStart.TruthfulCalls MemorySink.stored retriedCalls := by
  refine ⟨trivial, trivial, trivial, trivial, ⟨MemorySink.appends (by decide), fun _ => ?_⟩,
    trivial, trivial, trivial, trivial⟩
  have failed : (retriedStart.calls MemorySink.stored (retriedCalls.take 4)).worker.failedRanges =
      [⟨Vector.replicate 8 0, 1, 5, 6⟩, ⟨Vector.replicate 8 0, 1, 6, 7⟩] := by decide
  have stored : (retriedStart.calls MemorySink.stored (retriedCalls.take 4)).landed = 1 := by
    decide
  change SplitsAt _ (retriedStart.calls MemorySink.stored (retriedCalls.take 4)).worker.failedRanges
    (retriedStart.calls MemorySink.stored (retriedCalls.take 4)).landed
  rw [failed, stored]
  intro index range found
  rcases index with _ | _ | index
  · cases found
    decide
  · cases found
    decide
  · cases found

theorem completes_once_in_order_retried :
    let run := retriedStart.calls MemorySink.stored retriedCalls
    successes run.delivered =
        [(1, (breakAt 5 (by decide)).receipt), (2, (breakAt 6 (by decide)).receipt)] ∧
      run.worker.sink.records = [breakAt 5 (by decide), breakAt 6 (by decide)] ∧
      (run.accepted.map (·.id)).Nodup := by
  intro run
  obtain ⟨-, distinct, -⟩ := completes_once_in_order MemorySink.truthful
    (show GroupedPersistenceWorker.new ⟨[], some 1⟩ 2 4 = .ok retriedStart.worker from rfl)
    retriedCalls retriedCalls_truthful
  exact ⟨by decide, by decide, distinct⟩

end WriterRun
end SensorSystem.Host
