import SensorSystem.Host.Service.Operations

/-! Between two calls the record of the active operation is running and every other record is
final. The audit and a request that the ledger refuses are what can break this. -/

namespace SensorSystem.Host.Operations

open List OperationLedger
open Base

theorem updateFirst_append_of_none {α : Type} {found : α → Bool} {update : α → α}
    {entries : List α} (absent : ∀ entry ∈ entries, ¬ found entry) (last : α) (here : found last) :
    updateFirst found update (entries ++ [last]) = entries ++ [update last] := by
  induction entries with
  | nil => simp only [nil_append, updateFirst, if_pos here]
  | cons entry rest ih =>
    rw [cons_append, updateFirst, if_neg (absent entry mem_cons_self),
      ih fun other member => absent other (mem_cons_of_mem _ member), cons_append]

namespace OperationLedger

variable {ledger : OperationLedger} {operationId : OperationId} {record : OperationRecord}

variable {records : List OperationRecord}

/-- A record at the end of other records. -/
theorem get_append
    (absent : ∀ other ∈ records, other.operationId ≠ record.operationId) (capacity : Nat) :
    (OperationLedger.mk capacity (records ++ [record])).get record.operationId = some record := by
  simp only [get]
  rw [find?_append, find?_eq_none.mpr (by simpa using absent)]
  simp

theorem update_append
    (absent : ∀ other ∈ records, other.operationId ≠ record.operationId) (capacity : Nat)
    (change : OperationRecord → OperationRecord) :
    (OperationLedger.mk capacity (records ++ [record])).update record.operationId change =
      ⟨capacity, records ++ [change record]⟩ := by
  simp only [update]
  rw [updateFirst_append_of_none (by simpa using absent) record (by simp)]

theorem setPhase_append
    (absent : ∀ other ∈ records, other.operationId ≠ record.operationId) (capacity : Nat)
    {next : OperationPhase} (valid : validPhaseTransition record.phase next = true) :
    (OperationLedger.mk capacity (records ++ [record])).setPhase record.operationId next =
      .ok ⟨capacity, records ++ [{ record with phase := next }]⟩ := by
  unfold setPhase
  rw [get_append absent]
  simp only [valid, if_true]
  rw [update_append absent]

theorem setError_append
    (absent : ∀ other ∈ records, other.operationId ≠ record.operationId) (capacity : Nat)
    {next : OperationPhase} (valid : validPhaseTransition record.phase next = true)
    (final : next = .rejected ∨ next = .failed) (error : OperationsError) :
    (OperationLedger.mk capacity (records ++ [record])).setError record.operationId next error =
      .ok ⟨capacity, records ++ [{ record with phase := next, error := some error }]⟩ := by
  unfold setError
  rw [if_pos final, setPhase_append absent capacity valid, ok_bind]
  have step := @update_append { record with phase := next } records absent capacity
    ({ · with error := some error })
  exact congrArg Except.ok step

end OperationLedger

namespace ChannelOperationsController

/-- The record of the active operation runs and every other record is final. -/
structure Exact (controller : ChannelOperationsController) : Prop where
  distinct : (controller.ledger.records.map (·.operationId)).Nodup
  size : controller.ledger.records.length ≤ controller.ledger.capacity
  room : 0 < controller.ledger.capacity
  running : ∀ record ∈ controller.ledger.records,
    controller.activeOperation = some record.operationId → record.phase = .running
  final : ∀ record ∈ controller.ledger.records,
    controller.activeOperation ≠ some record.operationId → record.phase.isTerminal = true
  retained : ∀ operationId, controller.activeOperation = some operationId →
    ∃ record ∈ controller.ledger.records, record.operationId = operationId
  connected : controller.inbox.connected = true
  valid : ∀ request ∈ controller.inbox.queue, request.validate = .ok () ∧
    request.target.channelId = controller.channelId

/-- What a poll needs of the next request, of the ledger and of the audit. -/
structure Admits (controller : ChannelOperationsController) (outcomes : CallOutcomes)
    (request : OperationRequest) : Prop where
  same : ∀ record ∈ controller.ledger.records, record.operationId = request.operationId →
    record.request = request
  room : controller.ledger.get request.operationId = none → controller.ledger.capacity = 1 →
    controller.activeOperation = none
  accepted : controller.ledger.get request.operationId = none → outcomes.appends 0 = true
  running : controller.ledger.get request.operationId = none →
    admitOperation request controller.mode = .ok () → controller.activeOperation = none →
    outcomes.appends 1 = true

variable {controller : ChannelOperationsController} {request : OperationRequest}
  {outcomes : CallOutcomes}

/-- The records that are left when a new one comes. -/
structure Keeps (controller : ChannelOperationsController) (operationId : OperationId)
    (records : List OperationRecord) : Prop where
  sublist : records.Sublist controller.ledger.records
  size : records.length < controller.ledger.capacity
  absent : ∀ record ∈ records, record.operationId ≠ operationId
  active : ∀ record ∈ controller.ledger.records,
    controller.activeOperation = some record.operationId → record ∈ records

/-- More than one record means that one of them is final. -/
theorem Exact.exists_final (exact : controller.Exact)
    (several : controller.activeOperation = none ∨ 1 < controller.ledger.records.length)
    (filled : controller.ledger.records ≠ []) :
    ∃ record ∈ controller.ledger.records, record.phase.isTerminal = true := by
  match listed : controller.ledger.records with
  | [] => exact absurd listed filled
  | [record] =>
    have member : record ∈ controller.ledger.records := by simp [listed]
    rcases several with idle | several
    · exact ⟨record, mem_cons_self, exact.final record member (by rw [idle]; nofun)⟩
    · rw [listed] at several
      exact absurd several (Nat.lt_irrefl 1)
  | first :: second :: rest =>
    have here : first ∈ controller.ledger.records := by simp [listed]
    have there : second ∈ controller.ledger.records := by simp [listed]
    by_cases active : controller.activeOperation = some first.operationId
    · refine ⟨second, by simp, exact.final second there ?_⟩
      intro same
      have distinct := exact.distinct
      rw [listed, map_cons, nodup_cons] at distinct
      rw [active] at same
      exact distinct.1 (by rw [Option.some.inj same]; exact mem_map_of_mem mem_cons_self)
    · exact ⟨first, by simp, exact.final first here active⟩

theorem Exact.register (exact : controller.Exact) (valid : request.validate = .ok ())
    (admits : controller.Admits outcomes request) :
    (∃ record ∈ controller.ledger.records, record.request = request ∧
      controller.ledger.register request =
        .ok (.existing record.phase, controller.ledger)) ∨
    (controller.ledger.get request.operationId = none ∧
      ∃ records, controller.Keeps request.operationId records ∧
        controller.ledger.register request =
          .ok (.accepted, { controller.ledger with
            records := records ++ [⟨request, .accepted, none, none⟩] })) := by
  unfold OperationLedger.register
  rw [valid, ok_bind]
  cases found : controller.ledger.get request.operationId with
  | some record =>
    have member := mem_of_find?_eq_some found
    have here : record.operationId = request.operationId := by simpa using find?_some found
    have same := admits.same record member here
    refine .inl ⟨record, member, same, ?_⟩
    simp only [if_pos same]
  | none =>
    have absent : ∀ record ∈ controller.ledger.records,
        record.operationId ≠ request.operationId := by
      intro record member
      simpa using find?_eq_none.mp found record member
    refine .inr ⟨rfl, ?_⟩
    by_cases full : controller.ledger.records.length = controller.ledger.capacity
    · have room := exact.room
      have filled : controller.ledger.records ≠ [] := by
        intro empty
        rw [empty, length_nil] at full
        omega
      have several : controller.activeOperation = none ∨
          1 < controller.ledger.records.length := by
        by_cases one : controller.ledger.capacity = 1
        · exact .inl (admits.room found one)
        · exact .inr (by omega)
      obtain ⟨record, member, final⟩ := exact.exists_final several filled
      have some : controller.ledger.records.any (·.phase.isTerminal) = true :=
        any_eq_true.mpr ⟨record, member, final⟩
      refine ⟨controller.ledger.records.eraseP (·.phase.isTerminal),
        ⟨eraseP_sublist, ?_, ?_, ?_⟩, by simp only [if_pos full, if_pos some]⟩
      · have shorter : (controller.ledger.records.eraseP (·.phase.isTerminal)).length =
            controller.ledger.records.length - 1 := length_eraseP_of_mem member final
        omega
      · exact fun other there => absent other (eraseP_sublist.subset there)
      · intro other there active
        have running := exact.running other there active
        exact mem_eraseP_of_neg (by rw [running]; decide) |>.mpr there
    · refine ⟨_, ⟨Sublist.refl _, ?_, absent, fun _ member _ => member⟩,
        by simp only [if_neg full]⟩
      have size := exact.size
      omega

/-- The controller with a new last record. -/
def appended (controller : ChannelOperationsController) (records : List OperationRecord)
    (record : OperationRecord) : ChannelOperationsController :=
  { controller with ledger := { controller.ledger with records := records ++ [record] } }

section Appended

variable {records : List OperationRecord} {record : OperationRecord}

theorem Keeps.distinct (keeps : controller.Keeps record.operationId records)
    (exact : controller.Exact) : ((records ++ [record]).map (·.operationId)).Nodup := by
  rw [map_append, nodup_append]
  refine ⟨exact.distinct.sublist (keeps.sublist.map _), by simp, ?_⟩
  intro first here second there same
  obtain ⟨other, member, rfl⟩ := mem_map.mp here
  have last : second = record.operationId := by simpa using there
  exact keeps.absent other member (same.trans last)

theorem Keeps.length_le (keeps : controller.Keeps record.operationId records) :
    (records ++ [record]).length ≤ controller.ledger.capacity := by
  have size := keeps.size
  simp only [length_append, length_singleton]
  omega

/-- A record that is final at once leaves the active operation. -/
theorem Exact.appended_final (exact : controller.Exact)
    (keeps : controller.Keeps record.operationId records)
    (fresh : controller.ledger.get record.operationId = none)
    (final : record.phase.isTerminal = true) : (controller.appended records record).Exact where
  distinct := keeps.distinct exact
  size := keeps.length_le
  room := exact.room
  running := by
    intro other member active
    rcases mem_append.mp member with kept | last
    · exact exact.running other (keeps.sublist.subset kept) active
    · obtain rfl := mem_singleton.mp last
      obtain ⟨old, there, same⟩ := exact.retained _ active
      exact absurd same (by simpa using find?_eq_none.mp fresh old there)
  final := by
    intro other member inactive
    rcases mem_append.mp member with kept | last
    · exact exact.final other (keeps.sublist.subset kept) inactive
    · obtain rfl := mem_singleton.mp last
      exact final
  retained := by
    intro operationId active
    obtain ⟨old, there, rfl⟩ := exact.retained operationId active
    exact ⟨old, mem_append_left _ (keeps.active old there active), rfl⟩
  connected := exact.connected
  valid := exact.valid

theorem Exact.appended_running (exact : controller.Exact)
    (keeps : controller.Keeps record.operationId records)
    (idle : controller.activeOperation = none) (runs : record.phase = .running) :
    { controller.appended records record with
      activeOperation := some record.operationId }.Exact where
  distinct := keeps.distinct exact
  size := keeps.length_le
  room := exact.room
  running := by
    intro other member active
    rcases mem_append.mp member with kept | last
    · exact absurd (Option.some.inj active).symm (keeps.absent other kept)
    · obtain rfl := mem_singleton.mp last
      exact runs
  final := by
    intro other member inactive
    rcases mem_append.mp member with kept | last
    · exact exact.final other (keeps.sublist.subset kept) (by rw [idle]; nofun)
    · obtain rfl := mem_singleton.mp last
      exact absurd rfl inactive
  retained := by
    intro operationId active
    exact ⟨record, mem_append_right _ mem_cons_self, Option.some.inj active⟩
  connected := exact.connected
  valid := exact.valid

end Appended

/-- What a publication changes does not matter. -/
theorem Exact.published (exact : controller.Exact) (snapshot : ChannelOperationsSnapshot) :
    { controller with published := snapshot }.Exact :=
  ⟨exact.distinct, exact.size, exact.room, exact.running, exact.final, exact.retained,
    exact.connected, exact.valid⟩

/-- Only the audit and the status make a call fail. -/
structure Sound {α : Type} (call : Call α) : Prop where
  exact : call.2.Exact
  fails : ∀ error, call.1 = .error error → error = .auditUnavailable ∨ error = .statusUnavailable

theorem Exact.publish {α : Type} (exact : controller.Exact) (value : α) :
    Sound (controller.publish outcomes value) := by
  unfold ChannelOperationsController.publish
  split
  · exact ⟨exact.published _, nofun⟩
  · exact ⟨exact, fun error same => .inr (Except.error.inj same).symm⟩

/-- An append that fails leaves the records as they are. -/
theorem Exact.audited {α : Type} {operationId : OperationId} {appends : Bool} {next : Call α}
    (exact : controller.Exact) (found : controller.ledger.get operationId ≠ none)
    (continues : Sound next) : Sound (controller.audited operationId appends next) := by
  unfold ChannelOperationsController.audited auditRecord
  cases record : controller.ledger.get operationId with
  | none => exact absurd record found
  | some record =>
    cases appends
    · exact ⟨exact, fun error same => .inl (Except.error.inj same).symm⟩
    · exact continues

theorem audited_true {α : Type} {operationId : OperationId} {next : Call α}
    (found : controller.ledger.get operationId ≠ none) :
    controller.audited operationId true next = next := by
  unfold ChannelOperationsController.audited auditRecord
  cases record : controller.ledger.get operationId with
  | none => exact absurd record found
  | some record => rfl

section Poll

variable {records : List OperationRecord}

/-- The new record of a request in some phase. -/
def recordOf (request : OperationRequest) (phase : OperationPhase)
    (error : Option OperationsError) : OperationRecord :=
  ⟨request, phase, none, error⟩

theorem Keeps.get_appended (keeps : controller.Keeps request.operationId records)
    (phase : OperationPhase) (error : Option OperationsError) :
    (controller.appended records (recordOf request phase error)).ledger.get request.operationId =
      some (recordOf request phase error) :=
  @get_append (recordOf request phase error) records keeps.absent _

theorem Keeps.get_ne_none (keeps : controller.Keeps request.operationId records)
    (phase : OperationPhase) (error : Option OperationsError) :
    (controller.appended records (recordOf request phase error)).ledger.get
      request.operationId ≠ none := by
  rw [keeps.get_appended]
  nofun

theorem Exact.reject (exact : controller.Exact)
    (keeps : controller.Keeps request.operationId records)
    (fresh : controller.ledger.get request.operationId = none) (reason : OperationsError) :
    Sound ((controller.appended records (recordOf request .accepted none)).reject
      request.operationId reason outcomes) := by
  have rejected := @setError_append (recordOf request .accepted none) records
    keeps.absent controller.ledger.capacity .rejected rfl (.inl rfl) reason
  have final : (controller.appended records (recordOf request .rejected (some reason))).Exact :=
    exact.appended_final keeps fresh rfl
  unfold ChannelOperationsController.reject withLedger
  have changed : (controller.appended records (recordOf request .accepted none)).ledger.setError
      request.operationId .rejected reason = .ok (controller.appended records
        (recordOf request .rejected (some reason))).ledger := rejected
  rw [changed]
  exact final.audited (keeps.get_ne_none _ _) (final.publish _)

theorem Exact.start (exact : controller.Exact)
    (keeps : controller.Keeps request.operationId records)
    (fresh : controller.ledger.get request.operationId = none)
    (idle : controller.activeOperation = none) (appends : outcomes.appends 1 = true) :
    Sound ((controller.appended records (recordOf request .accepted none)).start request
      outcomes) := by
  have runs : (controller.appended records (recordOf request .accepted none)).ledger.setPhase
      request.operationId .running =
        .ok (controller.appended records (recordOf request .running none)).ledger :=
    @setPhase_append (recordOf request .accepted none) records keeps.absent
      controller.ledger.capacity .running rfl
  have succeeds : (controller.appended records (recordOf request .running none)).ledger.setPhase
      request.operationId .succeeded =
        .ok (controller.appended records (recordOf request .succeeded none)).ledger :=
    @setPhase_append (recordOf request .running none) records keeps.absent
      controller.ledger.capacity .succeeded rfl
  simp only [ChannelOperationsController.start, withLedger, runs, appends]
  have found := keeps.get_ne_none .running none
  refine (audited_true found).symm ▸ ?_
  split
  · rename_i done
    have final : (controller.appended records (recordOf request .succeeded none)).Exact :=
      exact.appended_final keeps fresh rfl
    have changed := succeeds
    simp only [appended] at changed ⊢
    rw [changed]
    exact final.audited (keeps.get_ne_none _ _) (final.publish _)
  · have running := @Exact.appended_running _ records (recordOf request .running none) exact keeps
      idle rfl
    exact running.publish _

/-- An answer about an earlier request. -/
def AnswersEarlier (call : Call ChannelCommandDecision) : Prop :=
  ∀ operationId phase, call.1 = .ok (.existing operationId phase) →
    phase.isTerminal = true ∨ call.2.activeOperation = some operationId

theorem publish_result {α : Type} {value result : α}
    (published : (controller.publish outcomes value).1 = .ok result) : result = value := by
  unfold ChannelOperationsController.publish at published
  split at published
  · exact (Except.ok.inj published).symm
  · cases published

theorem audited_result {α : Type} {operationId : OperationId} {appends : Bool} {next : Call α}
    {result : α} (returns : (controller.audited operationId appends next).1 = .ok result) :
    next.1 = .ok result := by
  unfold ChannelOperationsController.audited at returns
  split at returns
  · cases returns
  · exact returns

theorem withLedger_result {α : Type} {ledger : Except OperationsError OperationLedger}
    {next : ChannelOperationsController → Call α} {result : α}
    (returns : (controller.withLedger ledger next).1 = .ok result) :
    ∃ changed, ledger = .ok changed ∧
      (next { controller with ledger := changed }).1 = .ok result := by
  unfold withLedger at returns
  split at returns
  · cases returns
  · exact ⟨_, rfl, returns⟩

theorem reject_result {operationId : OperationId} {reason : OperationsError}
    {decision : ChannelCommandDecision}
    (returns : (controller.reject operationId reason outcomes).1 = .ok decision) :
    decision = .rejected operationId reason := by
  obtain ⟨_, -, returns⟩ := withLedger_result returns
  exact publish_result (audited_result returns)

theorem start_result {decision : ChannelCommandDecision}
    (returns : (controller.start request outcomes).1 = .ok decision) :
    decision = .started request ∨ decision = .existing request.operationId .succeeded := by
  obtain ⟨_, -, returns⟩ := withLedger_result returns
  have returns := audited_result returns
  split at returns
  · obtain ⟨_, -, returns⟩ := withLedger_result returns
    exact .inr (publish_result (audited_result returns))
  · exact .inl (publish_result returns)

/-- Only a request that is not in the ledger is started. -/
theorem pollCommand_started
    (starts : (controller.pollCommand outcomes).1 = .ok (.started request)) :
    controller.ledger.get request.operationId = none := by
  unfold pollCommand at starts
  split at starts
  · cases starts
  · cases starts
  rename_i next inbox received
  simp only at starts
  split at starts
  · cases starts
  split at starts
  · cases starts
  · cases publish_result starts
  rename_i ledger registers
  have starts := audited_result starts
  have same : next = request := by
    split at starts
    · cases reject_result starts
    split at starts
    · cases reject_result starts
    rcases start_result starts with same | same
    · cases same
      rfl
    · cases same
  subst same
  unfold register at registers
  obtain ⟨-, registers⟩ := check_eq_ok.mp registers
  split at registers
  · split at registers <;> cases registers
  · assumption

theorem Exact.pollCommand (exact : controller.Exact)
    (admits : ∀ request, controller.inbox.queue.head? = some request →
      controller.Admits outcomes request) :
    Sound (controller.pollCommand outcomes) ∧ AnswersEarlier (controller.pollCommand outcomes) := by
  unfold ChannelOperationsController.pollCommand ChannelCommandInbox.tryReceive
  cases waiting : controller.inbox.queue with
  | nil =>
    simp only [exact.connected, if_true]
    exact ⟨⟨⟨exact.distinct, exact.size, exact.room, exact.running, exact.final, exact.retained,
      exact.connected, exact.valid⟩, nofun⟩, nofun⟩
  | cons request queue =>
    obtain ⟨valid, addressed⟩ := exact.valid request (by simp [waiting])
    have admits := admits request (by simp [waiting])
    have taken : { controller with inbox := { controller.inbox with queue } }.Exact :=
      ⟨exact.distinct, exact.size, exact.room, exact.running, exact.final, exact.retained,
        exact.connected, fun other member => exact.valid other (by simp [waiting, member])⟩
    simp only [ne_eq, addressed, not_true_eq_false, if_false]
    rcases exact.register valid admits with ⟨record, member, same, registers⟩ |
      ⟨fresh, records, keeps, registers⟩
    · simp only [registers]
      refine ⟨taken.publish _, ?_⟩
      intro operationId phase returns
      cases publish_result returns
      by_cases active : controller.activeOperation = some record.operationId
      · right
        subst same
        unfold ChannelOperationsController.publish
        split
        · exact active
        · exact active
      · exact .inl (exact.final record member active)
    · simp only [registers]
      have keeps : Keeps { controller with inbox := { controller.inbox with queue } }
          request.operationId records := ⟨keeps.sublist, keeps.size, keeps.absent, keeps.active⟩
      have found := keeps.get_ne_none .accepted none
      rw [admits.accepted fresh]
      have first := fun next : Call ChannelCommandDecision =>
        @audited_true _ _ request.operationId next found
      have accepted : ∀ next : Call ChannelCommandDecision,
          ChannelOperationsController.audited { controller with
            inbox := { controller.inbox with queue }
            ledger := { controller.ledger with
              records := records ++ [⟨request, .accepted, none, none⟩] } } request.operationId true
            next = next := first
      rw [accepted]
      cases admitted : admitOperation request controller.mode with
      | error reason =>
        refine ⟨taken.reject keeps fresh reason, ?_⟩
        intro operationId phase returns
        cases reject_result returns
      | ok admitted' =>
        by_cases busy : controller.activeOperation.isSome
        · simp only [busy, if_true]
          refine ⟨taken.reject keeps fresh .operationInProgress, ?_⟩
          intro operationId phase returns
          cases reject_result returns
        have idle : controller.activeOperation = none := by simpa using busy
        simp only [busy]
        refine ⟨taken.start keeps fresh idle (admits.running fresh admitted idle), ?_⟩
        intro operationId phase returns
        rcases start_result returns with same | same
        · cases same
        · cases same
          exact .inl rfl

end Poll

section Conclude

/-- A change that makes the record of a running operation final. -/
def Concludes (change : OperationLedger → OperationId → Except OperationsError OperationLedger) :
    Prop :=
  ∀ ledger operationId record, ledger.get operationId = some record → record.phase = .running →
    ∃ finish : OperationRecord → OperationRecord,
      change ledger operationId = .ok (ledger.update operationId finish) ∧
        (∀ other, (finish other).operationId = other.operationId) ∧
        (∀ other, (finish other).phase.isTerminal = true)

theorem concludes_setPhase {next : OperationPhase} (final : next.isTerminal = true)
    (valid : validPhaseTransition .running next = true) :
    Concludes fun ledger operationId => ledger.setPhase operationId next := by
  intro ledger operationId record found running
  refine ⟨({ · with phase := next }), ?_, fun _ => rfl, fun _ => final⟩
  simp only [setPhase, found, running, valid, if_true]

theorem concludes_setError (error : OperationsError) :
    Concludes fun ledger operationId => ledger.setError operationId .failed error := by
  intro ledger operationId record found running
  refine ⟨({ · with phase := .failed, error := some error }), ?_, fun _ => rfl, fun _ => rfl⟩
  simp only [setError, setPhase, found, running, or_true, if_true,
    validPhaseTransition, ok_bind, OperationLedger.update, Except.ok.injEq]
  rw [updateFirst_updateFirst]
  · rfl
  · exact fun other here => here

/-- A result is stored before the record becomes final. -/
theorem Concludes.withResult
    {change : OperationLedger → OperationId → Except OperationsError OperationLedger}
    (concludes : Concludes change) (result : OperationResult) :
    Concludes fun ledger operationId => (do
      let ledger ← ledger.setResult operationId result
      change ledger operationId) := by
  intro ledger operationId record found running
  let stored : OperationRecord → OperationRecord := ({ · with result := some result })
  have again : (ledger.update operationId stored).get operationId = some (stored record) := by
    have keeps : ∀ other : OperationRecord, decide (other.operationId = operationId) = true →
        decide ((stored other).operationId = operationId) = true := fun _ here => here
    have found' : ledger.records.find? (·.operationId = operationId) = some record := found
    simp only [OperationLedger.get, OperationLedger.update]
    rw [find?_updateFirst ledger.records keeps, found']
    rfl
  obtain ⟨finish, changes, keeps, final⟩ := concludes _ operationId _ again running
  refine ⟨finish ∘ stored, ?_, fun _ => keeps _, fun _ => final _⟩
  simp only [setResult, found, running, ne_eq, not_true_eq_false, if_false, ok_bind]
  rw [changes]
  simp only [OperationLedger.update, Except.ok.injEq]
  rw [updateFirst_updateFirst]
  exact fun other here => here

/-- The active operation becomes final, or it was none. -/
theorem Exact.conclude (exact : controller.Exact)
    {change : OperationLedger → OperationId → Except OperationsError OperationLedger}
    (concludes : Concludes change) : (controller.conclude outcomes change).2.Exact := by
  unfold ChannelOperationsController.conclude
  cases active : controller.activeOperation with
  | none => exact exact
  | some operationId =>
    obtain ⟨record, member, here⟩ := exact.retained operationId active
    have running := exact.running record member (by rw [active, here])
    have found : controller.ledger.get operationId = some record :=
      find?_key exact.distinct member here
    obtain ⟨finish, changes, keeps, final⟩ := concludes _ operationId record found running
    have done : { controller with
        activeOperation := none, ledger := controller.ledger.update operationId finish }.Exact := by
      have ids : (controller.ledger.update operationId finish).records.map (·.operationId) =
          controller.ledger.records.map (·.operationId) :=
        map_updateFirst controller.ledger.records fun other _ _ => keeps other
      have size : (controller.ledger.update operationId finish).records.length =
          controller.ledger.records.length := by
        have lengths := congrArg length ids
        rwa [length_map, length_map] at lengths
      refine ⟨?_, ?_, exact.room, fun _ _ idle => (nomatch idle), ?_,
        fun _ idle => (nomatch idle), exact.connected, exact.valid⟩
      · exact ids.symm ▸ exact.distinct
      · exact size.symm ▸ exact.size
      intro other there _
      rcases key_ne_of_mem_updateFirst exact.distinct (fun old _ => keeps old) there with
        ⟨old, apart⟩ | ⟨old, -, rfl⟩
      · refine exact.final other old ?_
        rw [active]
        exact fun same => apart (Option.some.inj same).symm
      · exact final old
    have again : (controller.ledger.update operationId finish).get operationId ≠ none := by
      have kept : ∀ other : OperationRecord, decide (other.operationId = operationId) = true →
          decide ((finish other).operationId = operationId) = true := by
        intro other there
        rwa [keeps]
      have found' : controller.ledger.records.find? (·.operationId = operationId) = some record :=
        found
      simp only [OperationLedger.get, OperationLedger.update]
      rw [find?_updateFirst controller.ledger.records kept, found']
      nofun
    simp only [withLedger, changes]
    exact (done.audited again (done.publish operationId)).exact

end Conclude

/-- A submission through a handle, or a call of the channel task. -/
inductive OperationCall where
  | submit (request : OperationRequest)
  | poll (outcomes : CallOutcomes)
  | setMode (mode : ChannelOperatingMode) (outcomes : CallOutcomes)
  | finish (succeeded : Bool) (outcomes : CallOutcomes)
  | complete (result : OperationResult) (outcomes : CallOutcomes)
  | fail (error : OperationsError) (outcomes : CallOutcomes)
  | failWithResult (result : OperationResult) (error : OperationsError) (outcomes : CallOutcomes)

def step (controller : ChannelOperationsController) : OperationCall → ChannelOperationsController
  | .submit request => (controller.trySubmit request).2
  | .poll outcomes => (controller.pollCommand outcomes).2
  | .setMode mode outcomes => (controller.setMode mode outcomes).2
  | .finish succeeded outcomes => (controller.finishActive succeeded outcomes).2
  | .complete result outcomes => (controller.completeActive result outcomes).2
  | .fail error outcomes => (controller.failActive error outcomes).2
  | .failWithResult result error outcomes =>
    (controller.failActiveWithResult result error outcomes).2

/-- The controller after the first calls of a run. -/
def stateAt (controller : ChannelOperationsController) (calls : Nat → OperationCall) :
    Nat → ChannelOperationsController
  | 0 => controller
  | count + 1 => (controller.stateAt calls count).step (calls count)

/-- A poll meets what it needs. -/
def AdmitsCall (controller : ChannelOperationsController) : OperationCall → Prop
  | .poll outcomes => ∀ request, controller.inbox.queue.head? = some request →
    controller.Admits outcomes request
  | _ => True

/-- A poll starts an operation. -/
def Starts (controller : ChannelOperationsController) (call : OperationCall)
    (operationId : OperationId) : Prop :=
  ∃ outcomes request, call = .poll outcomes ∧
    (controller.pollCommand outcomes).1 = .ok (.started request) ∧
    request.operationId = operationId

variable (exact : controller.Exact)

include exact

theorem Exact.trySubmit (request : OperationRequest) : (controller.trySubmit request).2.Exact := by
  unfold ChannelOperationsController.trySubmit
  split
  · exact exact
  rename_i addressed
  split
  · exact exact
  rename_i valid
  split
  · exact exact
  refine ⟨exact.distinct, exact.size, exact.room, exact.running, exact.final, exact.retained,
    exact.connected, ?_⟩
  intro other member
  rcases mem_append.mp member with waiting | last
  · exact exact.valid other waiting
  · obtain rfl := mem_singleton.mp last
    exact ⟨valid, not_not.mp addressed⟩

theorem Exact.step {call : OperationCall} (admits : controller.AdmitsCall call) :
    (controller.step call).Exact := by
  cases call with
  | submit request => exact exact.trySubmit request
  | poll outcomes => exact (exact.pollCommand admits).1.exact
  | setMode mode outcomes =>
    have changed : { controller with mode }.Exact :=
      ⟨exact.distinct, exact.size, exact.room, exact.running, exact.final, exact.retained,
        exact.connected, exact.valid⟩
    exact (changed.publish ()).exact
  | finish succeeded outcomes =>
    refine exact.conclude ?_
    cases succeeded
    · exact concludes_setPhase rfl rfl
    · exact concludes_setPhase rfl rfl
  | complete result outcomes =>
    exact exact.conclude ((concludes_setPhase rfl rfl).withResult result)
  | fail error outcomes => exact exact.conclude (concludes_setError error)
  | failWithResult result error outcomes =>
    exact exact.conclude ((concludes_setError error).withResult result)

theorem Exact.stateAt {calls : Nat → OperationCall}
    (admits : ∀ count, (controller.stateAt calls count).AdmitsCall (calls count)) (count : Nat) :
    (controller.stateAt calls count).Exact := by
  induction count with
  | zero => exact exact
  | succ count earlier => exact earlier.step (admits count)

omit exact

theorem exact_new {channelId : UInt8} {policy : ChannelOperationsPolicy}
    (opens : ChannelOperationsController.new channelId policy = .ok controller) :
    controller.Exact := by
  unfold ChannelOperationsController.new at opens
  obtain ⟨-, opens⟩ := check_eq_ok.mp opens
  obtain ⟨checked, -, opens⟩ := bind_eq_ok.mp opens
  obtain ⟨ledger, created, opens⟩ := bind_eq_ok.mp opens
  unfold OperationLedger.new at created
  split at created
  · cases created
  rename_i positive
  cases created
  cases opens
  exact ⟨nodup_nil, Nat.zero_le _, Nat.pos_of_ne_zero positive,
    fun _ member => absurd member not_mem_nil, fun _ member => absurd member not_mem_nil,
    fun _ active => (nomatch active), rfl, fun _ member => absurd member not_mem_nil⟩

theorem Exact.nonterminal_iff (exact : controller.Exact) (operationId : OperationId) :
    (∃ record ∈ controller.ledger.records, record.operationId = operationId ∧
      record.phase.isTerminal = false) ↔ controller.activeOperation = some operationId := by
  constructor
  · rintro ⟨record, member, rfl, open_⟩
    by_contra inactive
    rw [exact.final record member inactive] at open_
    cases open_
  · intro active
    obtain ⟨record, member, rfl⟩ := exact.retained operationId active
    exact ⟨record, member, rfl, by rw [exact.running record member active]; rfl⟩

theorem Exact.running_iff (exact : controller.Exact) (operationId : OperationId) :
    controller.activeOperation = some operationId ↔
      ∃ record ∈ controller.ledger.records, record.operationId = operationId ∧
        record.phase = .running := by
  constructor
  · intro active
    obtain ⟨record, member, rfl⟩ := exact.retained operationId active
    exact ⟨record, member, rfl, exact.running record member active⟩
  · rintro ⟨record, member, same, running⟩
    exact (exact.nonterminal_iff operationId).mp ⟨record, member, same, by rw [running]; rfl⟩

end ChannelOperationsController

open ChannelOperationsController

/-- What holds after every call: only the audit and the status make a poll fail, the active
operation is the only one that is not final, and no retained operation starts again. -/
theorem operations_exact {channelId : UInt8} {policy : ChannelOperationsPolicy}
    {controller : ChannelOperationsController}
    (opens : ChannelOperationsController.new channelId policy = .ok controller)
    (calls : Nat → OperationCall)
    (admits : ∀ count, (controller.stateAt calls count).AdmitsCall (calls count)) (count : Nat) :
    (∀ outcomes error, calls count = .poll outcomes →
      ((controller.stateAt calls count).pollCommand outcomes).1 = .error error →
        error = .auditUnavailable ∨ error = .statusUnavailable) ∧
    (∀ operationId,
      (∃ record ∈ (controller.stateAt calls count).ledger.records,
        record.operationId = operationId ∧ record.phase.isTerminal = false) ↔
      (controller.stateAt calls count).activeOperation = some operationId) ∧
    (∀ operationId, (controller.stateAt calls count).activeOperation = some operationId ↔
      ∃ record ∈ (controller.stateAt calls count).ledger.records,
        record.operationId = operationId ∧ record.phase = .running) ∧
    (∀ outcomes operationId phase, calls count = .poll outcomes →
      ((controller.stateAt calls count).pollCommand outcomes).1 =
          .ok (.existing operationId phase) →
        phase.isTerminal = true ∨
          (controller.stateAt calls (count + 1)).activeOperation = some operationId) ∧
    (∀ operationId earlier, earlier < count →
      (controller.stateAt calls earlier).Starts (calls earlier) operationId →
      (controller.stateAt calls count).Starts (calls count) operationId →
        ∃ between, earlier < between ∧ between ≤ count ∧
          (controller.stateAt calls between).ledger.get operationId = none) := by
  have exact := (exact_new opens).stateAt admits count
  have polls : ∀ outcomes, calls count = .poll outcomes →
      Sound ((controller.stateAt calls count).pollCommand outcomes) ∧
        AnswersEarlier ((controller.stateAt calls count).pollCommand outcomes) := by
    intro outcomes call
    have admits := admits count
    rw [call] at admits
    exact exact.pollCommand admits
  refine ⟨?_, exact.nonterminal_iff, exact.running_iff, ?_, ?_⟩
  · intro outcomes error call fails
    exact (polls outcomes call).1.fails error fails
  · intro outcomes operationId phase call answers
    have next : controller.stateAt calls (count + 1) =
        ((controller.stateAt calls count).pollCommand outcomes).2 := by
      rw [ChannelOperationsController.stateAt, call]
      rfl
    rw [next]
    exact (polls outcomes call).2 operationId phase answers
  · rintro operationId earlier before - ⟨outcomes, request, -, starts, rfl⟩
    exact ⟨count, before, Nat.le_refl _, pollCommand_started starts⟩

namespace OperationExample

def controller : ChannelOperationsController where
  channelId := 2
  inbox := { capacity := 4 }
  ledger := ⟨4, []⟩
  published := ⟨2, .recording, none, []⟩

def operationId : OperationId := ⟨1, of_decide_eq_false rfl⟩

def readConfiguration : OperationRequest := ⟨operationId, .node 2 7, .getConfiguration⟩

/-- The same identity for another request. -/
def readStatus : OperationRequest := ⟨operationId, .node 2 7, .readStatus⟩

def succeeding : CallOutcomes := ⟨fun _ => true, true⟩

/-- The audit takes the first record of a poll and refuses the next. -/
def refusing : CallOutcomes := ⟨fun index => index = 0, true⟩

def reusingCalls : Nat → OperationCall
  | 0 => .submit readConfiguration
  | 1 => .submit readStatus
  | _ => .poll succeeding

def auditedCalls : Nat → OperationCall
  | 0 => .submit readConfiguration
  | _ => .poll refusing

/-- One request and its repetition. -/
def repeatedCalls : Nat → OperationCall
  | 0 => .submit readConfiguration
  | 1 => .poll succeeding
  | 2 => .submit readConfiguration
  | 3 => .poll succeeding
  | _ => .setMode .recording succeeding

theorem controller_opens : ChannelOperationsController.new 2 ⟨4, 4⟩ = .ok controller := by
  decide

theorem admits_succeeding {state : ChannelOperationsController} {request : OperationRequest}
    (same : ∀ record ∈ state.ledger.records, record.operationId = request.operationId →
      record.request = request) (several : state.ledger.capacity ≠ 1) :
    state.Admits succeeding request :=
  ⟨same, fun _ one => absurd one several, fun _ => rfl, fun _ _ _ => rfl⟩

theorem repeatedCalls_admit (count : Nat) :
    (controller.stateAt repeatedCalls count).AdmitsCall (repeatedCalls count) := by
  match count with
  | 0 => trivial
  | 1 =>
    intro request next
    exact admits_succeeding (by decide +kernel +revert) (by decide +kernel)
  | 2 => trivial
  | 3 =>
    intro request next
    have same : request = readConfiguration := by
      have first : (controller.stateAt repeatedCalls 3).inbox.queue.head? =
          some readConfiguration := by decide +kernel
      exact Option.some.inj (next.symm.trans first)
    subst same
    exact admits_succeeding (by decide +kernel) (by decide +kernel)
  | count + 4 => trivial

end OperationExample

open OperationExample in
/-- A reused identity makes a poll fail, and a refused append leaves an operation that is
running for ever without being active. -/
theorem operations_stuck : ChannelOperationsController.new 2 ⟨4, 4⟩ = .ok controller ∧
      ((controller.stateAt reusingCalls 3).pollCommand succeeding).1 =
        .error (.operationIdConflict operationId) ∧
      (controller.stateAt auditedCalls 2).activeOperation = none ∧
      (controller.stateAt auditedCalls 2).ledger.records =
        [⟨readConfiguration, .running, none, none⟩] := by
  exact ⟨controller_opens, by decide +kernel, by decide +kernel, by decide +kernel⟩

open OperationExample in
theorem operations_exact_repeated : (∀ identity,
      (∃ record ∈ (controller.stateAt repeatedCalls 4).ledger.records,
        record.operationId = identity ∧ record.phase.isTerminal = false) ↔
      (controller.stateAt repeatedCalls 4).activeOperation = some identity) ∧
      (controller.stateAt repeatedCalls 4).activeOperation = some operationId := by
  exact ⟨(operations_exact controller_opens repeatedCalls repeatedCalls_admit 4).2.1,
    by decide +kernel⟩

end SensorSystem.Host.Operations
