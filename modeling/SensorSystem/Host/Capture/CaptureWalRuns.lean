import SensorSystem.Host.Capture.CaptureWalRecovery

/-! A caller commits batches and seals windows. A crash keeps the header and some of the bytes
behind it, and the file is opened again. Beside the writer and its file a run carries the records
that were committed and are still there. -/

namespace SensorSystem.Host

open List Base

/-- What a call returns when it succeeds. -/
inductive CaptureWalReply where
  | staged (durableCursor : SequenceCursor)
  | committed
  | finished (manifest : Option CaptureWindowManifest)
  | opened

abbrev CaptureWalReplies := List (Except CaptureWalError CaptureWalReply)

inductive CaptureWalStep where
  | persist (items : List CaptureItem)
  | finishWindow
  /-- Lose all but `room` bytes behind the header, and open the file. -/
  | crash (room : Nat)

/-- Stage items in order; a batch stays as it is when it refuses one. -/
def CaptureWalBatch.stageAll (batch : CaptureWalBatch) :
    List CaptureItem → CaptureWalReplies × List CaptureRecord × CaptureWalBatch
  | [] => ([], [], batch)
  | item :: rest =>
    match batch.stage item with
    | .error error =>
      let (replies, records, last) := batch.stageAll rest
      (.error error :: replies, records, last)
    | .ok next =>
      let (replies, records, last) := next.stageAll rest
      (.ok (.staged next.recovery.durableCursor) :: replies, item.record :: records, last)

structure CaptureWal where
  sink : CaptureWalSink
  file : List UInt8
  records : List CaptureRecord

/-- The same writer with another report of a torn tail. -/
def CaptureWalSink.withTail (sink : CaptureWalSink) (tail : UInt64) : CaptureWalSink :=
  { sink with recovery := sink.recovery.withTail tail }

def CaptureWal.withTail (wal : CaptureWal) (tail : UInt64) : CaptureWal :=
  { wal with sink := wal.sink.withTail tail }

namespace CaptureWal

def create (config : CaptureWalConfig) : Except CaptureWalError CaptureWal := do
  let (sink, file) ← CaptureWalSink.openFile [] config
  .ok ⟨sink, file, []⟩

def persist (wal : CaptureWal) (items : List CaptureItem) : CaptureWalReplies × CaptureWal :=
  let (replies, records, batch) := wal.sink.beginBatch.stageAll items
  match wal.sink.commitBatch batch wal.file with
  | .error error => (replies ++ [.error error], wal)
  | .ok (sink, file) => (replies ++ [.ok .committed], ⟨sink, file, wal.records ++ records⟩)

def finishWindow (wal : CaptureWal) : CaptureWalReplies × CaptureWal :=
  match wal.sink.finishWindow wal.file with
  | .error error => ([.error error], wal)
  | .ok (manifest, sink, file) =>
    ([.ok (.finished manifest)],
      ⟨sink, file, if manifest.isSome then wal.records ++ [.windowSeal] else wal.records⟩)

def crash (config : CaptureWalConfig) (wal : CaptureWal) (room : Nat) :
    CaptureWalReplies × CaptureWal :=
  match CaptureWalSink.openFile (wal.file.take (fileHeaderBytes + room)) config with
  | .error error => ([.error error], wal)
  | .ok (sink, file) => ([.ok .opened], ⟨sink, file, survivingRecords room wal.records⟩)

def step (config : CaptureWalConfig) (wal : CaptureWal) :
    CaptureWalStep → CaptureWalReplies × CaptureWal
  | .persist items => wal.persist items
  | .finishWindow => wal.finishWindow
  | .crash room => wal.crash config room

def run (config : CaptureWalConfig) (wal : CaptureWal) :
    List CaptureWalStep → CaptureWalReplies × CaptureWal
  | [] => ([], wal)
  | step :: rest =>
    let (first, next) := wal.step config step
    let (replies, last) := next.run config rest
    (first ++ replies, last)

/-- The writer holds the replay of the records, and its file holds their bytes. -/
structure Sound (config : CaptureWalConfig) (wal : CaptureWal) : Prop where
  hardwareId : wal.sink.hardwareId = config.hardwareId
  bootEpoch : wal.sink.bootEpoch = config.bootEpoch
  storable : ∀ record ∈ wal.records, record.Storable config
  file : wal.file = walBytes config wal.records
  durableLen : wal.sink.durableLen = wal.file.length
  bounded : wal.file.length < 2 ^ 64
  replayed : replay config.hardwareId config.initial wal.records =
    .ok (wal.sink.ledger, wal.sink.recovery.withTail 0)

end CaptureWal

namespace CaptureWalBatch

variable {config : CaptureWalConfig} {batch last : CaptureWalBatch} {items : List CaptureItem}
  {replies : CaptureWalReplies} {records : List CaptureRecord}

/-- A batch with more records. -/
structure StagedAll (config : CaptureWalConfig) (batch : CaptureWalBatch)
    (records : List CaptureRecord) (last : CaptureWalBatch) : Prop where
  storable : ∀ record ∈ records, record.Storable config
  replayed : replay config.hardwareId (batch.ledger, batch.recovery) records =
    .ok (last.ledger, last.recovery)
  bytes : last.bytes = batch.bytes ++ records.flatMap CaptureRecord.bytes
  baseDurableLen : last.baseDurableLen = batch.baseDurableLen
  baseRecovery : last.baseRecovery = batch.baseRecovery

variable {record : CaptureRecord}

theorem Staged.all {middle : CaptureWalBatch} (first : Staged config batch record middle)
    (rest : StagedAll config middle records last) :
    StagedAll config batch (record :: records) last where
  storable := forall_mem_cons.mpr ⟨first.storable, rest.storable⟩
  replayed := by
    rw [replay, foldlM_cons, first.replayed]
    exact rest.replayed
  bytes := by rw [rest.bytes, first.bytes, append_assoc, flatMap_cons]
  baseDurableLen := rest.baseDurableLen.trans first.baseDurableLen
  baseRecovery := rest.baseRecovery.trans first.baseRecovery

theorem Staged.sameStream (staged : Staged config batch record last) :
    CaptureWindowLedger.SameStream batch.ledger last.ledger := by
  have replayed := staged.replayed
  rw [replayRecord_eq] at replayed
  obtain ⟨⟨manifest, ledger⟩, applied, replayed⟩ := bind_eq_ok.mp replayed
  obtain ⟨counted, -, same⟩ := bind_eq_ok.mp replayed
  cases same
  exact CaptureRecord.sameStream_appliedTo (mapError_eq_ok.mp applied)

theorem stageAll_eq (hardware : batch.ledger.hardwareId = config.hardwareId)
    (epoch : batch.ledger.bootEpoch = config.bootEpoch)
    (done : batch.stageAll items = (replies, records, last)) :
    StagedAll config batch records last := by
  induction items generalizing batch replies records with
  | nil =>
    cases done
    exact ⟨nofun, rfl, (append_nil _).symm, rfl, rfl⟩
  | cons item rest ih =>
    rw [stageAll] at done
    cases staged : batch.stage item with
    | error error =>
      simp only [staged] at done
      cases done
      exact ih hardware epoch rfl
    | ok next =>
      simp only [staged] at done
      cases done
      have first := stage_eq_ok hardware epoch staged
      have stream := first.sameStream
      exact first.all (ih (stream.hardwareId.trans hardware) (stream.bootEpoch.trans epoch) rfl)

end CaptureWalBatch

theorem CaptureWalSink.commitBatch_eq_ok {sink after : CaptureWalSink} {batch : CaptureWalBatch}
    {file left : List UInt8} (done : sink.commitBatch batch file = .ok (after, left)) :
    sink.durableLen + batch.bytes.length < 2 ^ 64 ∧ left = file ++ batch.bytes ∧
      after = { sink with
        durableLen := sink.durableLen + batch.bytes.length
        ledger := batch.ledger
        recovery := batch.recovery } := by
  obtain ⟨-, done⟩ := guard_eq_ok.mp done
  obtain ⟨-, done⟩ := guard_eq_ok.mp done
  obtain ⟨fits, done⟩ := guard_eq_ok.mp done
  cases done
  exact ⟨Nat.lt_of_not_le fits, rfl, rfl⟩

namespace CaptureWal

variable {config : CaptureWalConfig} {wal : CaptureWal}

namespace Sound

variable (sound : Sound config wal)

include sound

theorem state : Replayed config (wal.sink.ledger, wal.sink.recovery.withTail 0) :=
  (Replayed.initial config).run sound.replayed

/-- Records that the writer applied and appended. -/
theorem append {records : List CaptureRecord} {ledger : CaptureWindowLedger}
    {recovery : CaptureWalRecovery} (storable : ∀ record ∈ records, record.Storable config)
    (replayed : replay config.hardwareId (wal.sink.ledger, wal.sink.recovery) records =
      .ok (ledger, recovery))
    (fits : wal.sink.durableLen + (records.flatMap CaptureRecord.bytes).length < 2 ^ 64) :
    Sound config {
      sink := { wal.sink with
        durableLen := wal.sink.durableLen + (records.flatMap CaptureRecord.bytes).length
        ledger
        recovery }
      file := wal.file ++ records.flatMap CaptureRecord.bytes
      records := wal.records ++ records } where
  hardwareId := sound.hardwareId
  bootEpoch := sound.bootEpoch
  storable := forall_mem_append.mpr ⟨sound.storable, storable⟩
  file := by rw [walBytes_append, sound.file]
  durableLen := by rw [length_append, sound.durableLen]
  bounded := by rwa [length_append, ← sound.durableLen]
  replayed := by
    refine replay_append.mpr ⟨_, sound.replayed, ?_⟩
    rw [replay_withTail, replayed]
    rfl

theorem persist (items : List CaptureItem) : Sound config (wal.persist items).2 := by
  have state := sound.state
  unfold CaptureWal.persist
  rcases staging : wal.sink.beginBatch.stageAll items with ⟨replies, records, batch⟩
  have staged := CaptureWalBatch.stageAll_eq state.hardwareId state.bootEpoch staging
  simp only
  split
  · exact sound
  next sink file committed =>
  obtain ⟨fits, rfl, rfl⟩ := CaptureWalSink.commitBatch_eq_ok committed
  have bytes : batch.bytes = records.flatMap CaptureRecord.bytes := staged.bytes
  rw [bytes] at fits ⊢
  exact sound.append staged.storable staged.replayed fits

theorem finishWindow : Sound config wal.finishWindow.2 := by
  unfold CaptureWal.finishWindow
  split
  · exact sound
  next manifest sink file finished =>
  obtain ⟨rfl, rfl, rfl⟩ | ⟨found, rfl, replayed, after, fits⟩ :=
    CaptureWalSink.finishWindow_eq_ok config.hardwareId sound.state.cursor finished
  · exact sound
  have one : [CaptureRecord.windowSeal].flatMap CaptureRecord.bytes =
      CaptureRecord.windowSeal.bytes := flatMap_singleton _ _
  rw [after] at fits ⊢
  rw [if_pos found, ← one] at *
  refine sound.append ?_ (replay_concat (rfl : replay _ _ [] = .ok _) replayed) fits
  exact forall_mem_singleton.mpr trivial

/-- The records that survive a crash are replayed as they were. -/
theorem survives (room : Nat) :
    (∀ record ∈ survivingRecords room wal.records, record.Storable config) ∧
      (walBytes config (survivingRecords room wal.records)).length < 2 ^ 64 ∧
      ∃ state, replay config.hardwareId config.initial (survivingRecords room wal.records) =
        .ok state := by
  have whole : survivingRecords room wal.records <+: wal.records := prefix_wholeRecords _ _ _
  have bounded := sound.bounded
  have replayed := sound.replayed
  have storable := sound.storable
  rw [sound.file] at bounded
  obtain ⟨lost, parts⟩ := whole
  rw [← parts] at bounded replayed storable
  rw [walBytes_append, length_append] at bounded
  obtain ⟨state, done, -⟩ := replay_append.mp replayed
  exact ⟨(forall_mem_append.mp storable).1, by omega, state, done⟩

omit sound

variable {state : CaptureWindowLedger × CaptureWalRecovery}

/-- What a crash leaves is opened with the records that survive. -/
theorem openFile_survived (openable : Openable config) (sound : Sound config wal) (room : Nat)
    (done : replay config.hardwareId config.initial (survivingRecords room wal.records) =
      .ok state) :
    ∃ torn : List UInt8,
      wal.file.take (fileHeaderBytes + room) =
        walBytes config (survivingRecords room wal.records) ++ torn ∧
      CaptureWalSink.openFile (wal.file.take (fileHeaderBytes + room)) config =
        .ok (recoveredSink config (survivingRecords room wal.records) torn.length state,
          walBytes config (survivingRecords room wal.records)) := by
  obtain ⟨storable, bounded, -⟩ := sound.survives room
  have whole := sound.bounded
  rw [sound.file] at whole ⊢
  obtain ⟨torn, parts, proper⟩ := take_walBytes sound.storable whole room
  refine ⟨torn, parts, ?_⟩
  rw [parts]
  exact openFile_torn openable storable bounded proper done

theorem of_recoveredSink {records : List CaptureRecord} (tail : Nat)
    (storable : ∀ record ∈ records, record.Storable config)
    (bounded : (walBytes config records).length < 2 ^ 64)
    (done : replay config.hardwareId config.initial records = .ok state) :
    Sound config ⟨recoveredSink config records tail state, walBytes config records, records⟩ where
  hardwareId := rfl
  bootEpoch := rfl
  storable := storable
  file := rfl
  durableLen := rfl
  bounded := bounded
  replayed := by
    have untouched := ((Replayed.initial config).run done).tail
    rw [done, recoveredSink, CaptureWalRecovery.withTail_withTail, ← untouched]
    rfl

/-- The survivors lie whole in the bytes that survive. -/
theorem prefix_survivingRecords_iff (sound : Sound config wal) (room : Nat)
    {whole : List CaptureRecord} (first : whole <+: wal.records) :
    whole <+: survivingRecords room wal.records ↔
      walBytes config whole <+: wal.file.take (fileHeaderBytes + room) := by
  have contained : walBytes config whole <+: wal.file := by
    obtain ⟨rest, parts⟩ := first
    rw [sound.file, ← parts, walBytes_append]
    exact prefix_append _ _
  rw [survivingRecords, prefix_wholeRecords_iff _ first, prefix_take_iff, length_walBytes]
  constructor
  · intro fits
    exact ⟨contained, by omega⟩
  · rintro ⟨-, fits⟩
    omega

/-- Nothing is lost: the state of the writer comes back. -/
theorem recoveredSink_of_intact (sound : Sound config wal) (room : Nat) {torn : List UInt8}
    (intact : wal.file.take (fileHeaderBytes + room) = wal.file)
    (parts : wal.file.take (fileHeaderBytes + room) =
      walBytes config (survivingRecords room wal.records) ++ torn)
    (done : replay config.hardwareId config.initial (survivingRecords room wal.records) =
      .ok state) :
    recoveredSink config (survivingRecords room wal.records) torn.length state =
      wal.sink.withTail 0 := by
  have all : survivingRecords room wal.records = wal.records := by
    have whole := (sound.prefix_survivingRecords_iff room prefix_rfl).mpr
      (by rw [intact, sound.file])
    exact (prefix_wholeRecords _ _ _).eq_of_length_le whole.length_le
  rw [all] at done parts ⊢
  have none : torn = [] := by
    rw [intact, sound.file] at parts
    exact self_eq_append_right.mp parts
  have same := Except.ok.inj (done.symm.trans sound.replayed)
  subst same none
  rw [recoveredSink, ← sound.file, ← sound.durableLen, ← sound.hardwareId, ← sound.bootEpoch]
  rfl

variable (openable : Openable config)

include openable sound

theorem crash (room : Nat) : Sound config (wal.crash config room).2 := by
  obtain ⟨storable, bounded, state, done⟩ := sound.survives room
  obtain ⟨torn, -, opened⟩ := sound.openFile_survived openable room done
  rw [CaptureWal.crash, opened]
  exact of_recoveredSink torn.length storable bounded done

theorem step (step : CaptureWalStep) : Sound config (wal.step config step).2 := by
  cases step with
  | persist items => exact sound.persist items
  | finishWindow => exact sound.finishWindow
  | crash room => exact sound.crash openable room

theorem run (steps : List CaptureWalStep) : Sound config (wal.run config steps).2 := by
  induction steps generalizing wal with
  | nil => exact sound
  | cons step rest ih => exact ih (sound.step openable step)

omit sound openable

end Sound

theorem bounded_walBytes_nil (config : CaptureWalConfig) :
    (walBytes config []).length < 2 ^ 64 := by
  rw [length_walBytes, fileHeaderBytes]
  decide

/-- A new log. -/
theorem create_of_openable (openable : Openable config) :
    create config = .ok ⟨recoveredSink config [] 0 config.initial, walBytes config [], []⟩ := by
  have header : fileHeader config = walBytes config [] ++ [] := by
    rw [append_nil, walBytes, flatMap_nil, append_nil]
  rw [create, openFile_nil, header, openFile_torn openable (forall_mem_nil _)
    (bounded_walBytes_nil config) (.inl rfl) rfl]
  rfl

/-- A log is only created with a header that is its own. -/
theorem create_eq_ok {created : CaptureWal} (done : create config = .ok created) :
    Openable config ∧ Sound config created := by
  obtain ⟨result, opened, -⟩ := bind_eq_ok.mp done
  rw [openFile_nil] at opened
  have openable := openable_of_openFile opened
  rw [create_of_openable openable] at done
  cases done
  exact ⟨openable, .of_recoveredSink 0 (forall_mem_nil _) (bounded_walBytes_nil config) rfl⟩

end CaptureWal
end SensorSystem.Host
