import SensorSystem.Node.Acquisition.AcquisitionEngine
import SensorSystem.Node.Acquisition.FilterRuns

/-! Every path of the engine only adds calls to those it has handed over, and its sample counter
moves by the samples of these calls. A batch is never empty, and a break has a known reason.
Whether a forced service hands anything over can be read off what the sensor answers. -/

namespace SensorSystem.Node.Acquisition

open List Node UInt64
open Node.Config (DeviceConfig)
open Node.Wire (SensorStatus)

namespace SinkCall

def Proper : SinkCall → Prop
  | onSamples batch => batch ≠ []
  | onContinuityBreak reason => reason.isKnown = true

def samples : SinkCall → Nat
  | onSamples batch => batch.length
  | onContinuityBreak _ => 0

end SinkCall

namespace AcquisitionEngine

variable {δ : Type} {sensor : Accelerometer δ} {first before after : AcquisitionEngine δ}

/-- The state between the calls of the sinks is the same. -/
def Same (before after : AcquisitionEngine δ) : Prop :=
  after.handed = before.handed ∧ after.nextSampleSeq = before.nextSampleSeq

theorem Same.refl (engine : AcquisitionEngine δ) : engine.Same engine := ⟨rfl, rfl⟩

theorem Same.trans (one : first.Same before) (two : before.Same after) : first.Same after :=
  ⟨two.1.trans one.1, two.2.trans one.2⟩

/-- What a path of the engine hands over. -/
def Hands (before after : AcquisitionEngine δ) : Prop :=
  ∃ calls, after.handed = before.handed ++ calls ∧ (∀ call ∈ calls, call.Proper) ∧
    after.nextSampleSeq = before.nextSampleSeq + ofNat (calls.map SinkCall.samples).sum

theorem Same.hands (same : before.Same after) : before.Hands after := by
  refine ⟨[], by rw [same.1, append_nil], nofun, ?_⟩
  rw [same.2]
  exact (UInt64.add_zero _).symm

variable (engine : AcquisitionEngine δ)

theorem Hands.refl : engine.Hands engine :=
  (Same.refl engine).hands

theorem Hands.trans (one : first.Hands before) (two : before.Hands after) : first.Hands after := by
  obtain ⟨calls, handed, proper, counted⟩ := one
  obtain ⟨more, handed', proper', counted'⟩ := two
  refine ⟨calls ++ more, by rw [handed', handed, append_assoc], ?_, ?_⟩
  · intro call member
    rcases mem_append.mp member with member | member
    · exact proper call member
    · exact proper' call member
  · rw [counted', counted, map_append, sum_append, ofNat_add, UInt64.add_assoc]

theorem emitContinuityBreak_hands {reason : ContinuityBreakReason}
    (known : reason.isKnown = true) : engine.Hands (engine.emitContinuityBreak reason) := by
  refine ⟨[.onContinuityBreak reason], rfl, ?_, (UInt64.add_zero _).symm⟩
  intro call member
  rw [mem_singleton.mp member]
  exact known

theorem packSensorSnapshot_same :
    engine.Same (engine.packSensorSnapshot sensor) := ⟨rfl, rfl⟩

theorem logStreak_same (streak threshold : Nat) :
    engine.Same (engine.logStreak sensor streak threshold) := by
  rw [logStreak]
  split
  · exact packSensorSnapshot_same engine
  · exact .refl engine

theorem countSensorError_same :
    engine.Same engine.countSensorError := ⟨rfl, rfl⟩

theorem accessFailed_same :
    engine.Same (engine.accessFailed sensor) :=
  (countSensorError_same engine).trans (logStreak_same _ _ _)

theorem applyFifoConfig_same (config : DeviceConfig) :
    engine.Same (engine.applyFifoConfig sensor config).2 := by
  rw [applyFifoConfig]
  split
  · exact .refl engine
  · exact ⟨rfl, rfl⟩

theorem applyConfig_same (config : DeviceConfig) :
    engine.Same (engine.applyConfig sensor config).2 := by
  rw [applyConfig]
  dsimp only
  split
  · exact ⟨rfl, rfl⟩
  have same (device : δ) : engine.Same ({ engine with device }.applyFifoConfig sensor config).2 :=
    applyFifoConfig_same _ config
  split
  · exact same _
  · exact same _

theorem applyOffsets_same (config : DeviceConfig) :
    engine.Same (engine.applyOffsets sensor config).2 := ⟨rfl, rfl⟩

theorem maybeSoftRecoverFromNoData_same (nowMs : UInt32) :
    engine.Same (engine.maybeSoftRecoverFromNoData sensor nowMs) := by
  rw [maybeSoftRecoverFromNoData]
  split
  · exact .refl engine
  split
  · exact .refl engine
  split
  · exact .refl engine
  have same : engine.Same
      ({ engine with lastSoftRecoverMs := nowMs }.applyFifoConfig sensor engine.lastConfig).2 :=
    applyFifoConfig_same _ _
  dsimp only
  split
  · exact same
  · exact same

theorem handleNoData_same (service : FifoService)
    (discarded : Nat) : engine.Same (engine.handleNoData sensor service discarded) := by
  rw [handleNoData]
  split
  · exact countSensorError_same engine
  split
  · have counted : engine.Same { engine with
        consecutiveNoDataReads := saturatingIncrement32 engine.consecutiveNoDataReads } :=
      ⟨rfl, rfl⟩
    exact (counted.trans (logStreak_same _ _ _)).trans (maybeSoftRecoverFromNoData_same _ _)
  · exact .refl engine

theorem openService_same (forceService : Bool) :
    engine.Same (engine.openService sensor forceService).2 := by
  rw [openService]
  dsimp only
  split
  · split
    · split <;> exact ⟨rfl, rfl⟩
    · split <;> exact ⟨rfl, rfl⟩
  · exact .refl engine

theorem processAndStoreSample_counts (input : AccelSample)
    (time : Option SampleDeviceTime) :
    (engine.processAndStoreSample input time).2.handed = engine.handed ∧
      (engine.processAndStoreSample input time).2.nextSampleSeq = engine.nextSampleSeq +
        ofNat (engine.processAndStoreSample input time).1.toList.length := by
  rw [processAndStoreSample]
  split
  · exact ⟨rfl, (UInt64.add_zero _).symm⟩
  · exact ⟨rfl, rfl⟩

theorem storeBatch_counts
    (inputs : List (AccelSample × Option SampleDeviceTime)) :
    (engine.storeBatch inputs).2.handed = engine.handed ∧
      (engine.storeBatch inputs).2.nextSampleSeq = engine.nextSampleSeq +
        ofNat (engine.storeBatch inputs).1.length := by
  induction inputs generalizing engine with
  | nil => exact ⟨rfl, (UInt64.add_zero _).symm⟩
  | cons input rest ih =>
    obtain ⟨input, time⟩ := input
    have head := processAndStoreSample_counts engine input time
    rw [storeBatch]
    generalize engine.processAndStoreSample input time = one at head ⊢
    have tail := ih one.2
    refine ⟨tail.1.trans head.1, ?_⟩
    rw [tail.2, head.2, length_append, ofNat_add, UInt64.add_assoc]

theorem handleSamples_hands (outcome : FifoReadOutcome) :
    engine.Hands (engine.handleSamples sensor outcome).2 := by
  rw [handleSamples]
  dsimp only
  split
  · have broken : engine.Hands
        ({ engine with resampler := engine.resampler.reset }.emitContinuityBreak .invalidTiming) :=
      Hands.trans (Same.hands ⟨rfl, rfl⟩) (emitContinuityBreak_hands _ rfl)
    split
    · exact broken.trans (applyFifoConfig_same _ _).hands
    · exact broken
  generalize map _ outcome.samples = samples
  have counts := storeBatch_counts engine samples
  generalize engine.storeBatch samples = stored at counts ⊢
  obtain ⟨batch, engine'⟩ := stored
  split
  · rename_i some
    refine ⟨[.onSamples batch], congrArg (· ++ _) counts.1, ?_, ?_⟩
    · intro call member
      rw [mem_singleton.mp member]
      exact some
    · simpa [hand, SinkCall.samples] using counts.2
  rename_i none
  refine Same.hands ⟨counts.1, ?_⟩
  rw [not_not.mp none] at counts
  simpa using counts.2

theorem noteOverrun_hands (status : UInt8) :
    engine.Hands (engine.noteOverrun sensor status) := by
  rw [noteOverrun]
  split
  · exact .refl engine
  exact ((Same.hands ⟨rfl, rfl⟩).trans (emitContinuityBreak_hands _ rfl)).trans
    (logStreak_same _ _ _).hands

theorem takeSamples_hands (outcome : FifoReadOutcome) :
    engine.Hands (engine.takeSamples sensor outcome).2 := by
  rw [takeSamples]
  split
  · exact .refl engine
  · exact handleSamples_hands engine _

theorem markUncertain_hands (outcome : FifoReadOutcome) :
    engine.Hands (engine.markUncertain outcome) := by
  rw [markUncertain]
  split
  · exact emitContinuityBreak_hands engine rfl
  · exact .refl engine

theorem endPass_same (service : FifoService)
    (read : FifoReadOutcome) : engine.Same (engine.endPass sensor service read).2 := by
  rw [endPass]
  split
  · exact handleNoData_same engine service _
  split
  · exact accessFailed_same engine
  split
  · exact countSensorError_same engine
  split
  · exact .refl engine
  · exact .refl engine

theorem readBatch_hands (service : FifoService) :
    engine.Hands (engine.readBatch sensor service).2 := by
  rw [readBatch]
  generalize sensor.readFifoBatch batchCapacity engine.device = transaction
  obtain ⟨outcome, device⟩ := transaction
  have taken : engine.Hands ({ engine with device }.takeSamples sensor outcome).2 :=
    Hands.trans (Same.hands ⟨rfl, rfl⟩) (takeSamples_hands _ outcome)
  dsimp only
  generalize takeSamples sensor _ _ = result at taken ⊢
  obtain ⟨ended, engine'⟩ := result
  cases ended with
  | some status => exact taken
  | none => exact (taken.trans (markUncertain_hands _ _)).trans (endPass_same _ _ _).hands

theorem servicePass_hands (service : FifoService) :
    engine.Hands (engine.servicePass sensor service).2 := by
  rw [servicePass]
  dsimp only
  split
  · exact (Same.hands ⟨rfl, rfl⟩).trans (accessFailed_same _).hands
  split
  · exact (Same.hands ⟨rfl, rfl⟩).trans (accessFailed_same _).hands
  split
  · exact Same.hands ⟨rfl, rfl⟩
  refine Hands.trans (Hands.trans ?_ (noteOverrun_hands _ _)) (readBatch_hands _ service)
  exact Same.hands ⟨rfl, rfl⟩

variable {engine} {passes : Nat} {result : SensorStatus × AcquisitionEngine δ}

theorem serviceLoop_hands {service : FifoService}
    (served : engine.serviceLoop sensor service passes = some result) : engine.Hands result.2 := by
  induction passes generalizing engine service with
  | zero => exact nomatch served
  | succ passes ih =>
    have pass : engine.Hands (engine.servicePass sensor service).2 :=
      servicePass_hands engine service
    rw [serviceLoop] at served
    generalize engine.servicePass sensor service = passed at pass served
    obtain ⟨⟨ended, service'⟩, engine'⟩ := passed
    cases ended with
    | some status =>
      cases served
      exact pass
    | none => exact pass.trans (ih served)

theorem updateFifoWatermarkMode_hands {forceService : Bool}
    (served : engine.updateFifoWatermarkMode sensor forceService passes = some result) :
    engine.Hands result.2 := by
  have opened : engine.Same (engine.openService sensor forceService).2 :=
    openService_same engine forceService
  rw [updateFifoWatermarkMode] at served
  generalize engine.openService sensor forceService = service at opened served
  obtain ⟨service, engine'⟩ := service
  cases service with
  | none =>
    cases served
    exact opened.hands
  | some service => exact opened.hands.trans (serviceLoop_hands served)

theorem updateSingleSampleMode_hands (engine : AcquisitionEngine δ) :
    engine.Hands (engine.updateSingleSampleMode sensor) := by
  rw [updateSingleSampleMode]
  dsimp only
  split
  · exact Same.hands ⟨rfl, rfl⟩
  split
  · exact Same.hands ⟨rfl, rfl⟩
  have counts := processAndStoreSample_counts { engine with
    device := (sensor.readSample engine.device).2
    consecutiveNoDataReads := 0
    consecutiveSensorErrors := 0 } (sensor.readSample engine.device).1.2 none
  split
  · rename_i engine' stored
    rw [stored] at counts
    exact Same.hands ⟨counts.1, counts.2.trans (UInt64.add_zero _)⟩
  rename_i sample engine' stored
  rw [stored] at counts
  refine ⟨[.onSamples [sample]], congrArg (· ++ _) counts.1, ?_, counts.2⟩
  intro call member
  rw [mem_singleton.mp member]
  exact cons_ne_nil _ _

theorem prepareForRuntime_same (engine : AcquisitionEngine δ) :
    engine.Same (engine.prepareForRuntime sensor).2 := by
  have same : engine.Same (engine.applyFifoConfig sensor engine.lastConfig).2 :=
    applyFifoConfig_same engine engine.lastConfig
  rw [prepareForRuntime]
  split
  · exact .refl engine
  dsimp only
  split
  · exact same
  · exact same

theorem collect_hands (collected : engine.collect sensor passes = some result) :
    engine.Hands result.2 := by
  rw [collect] at collected
  split at collected
  · exact updateFifoWatermarkMode_hands collected
  · cases collected
    exact .refl engine

theorem finishRecording_hands (finished : engine.finishRecording sensor passes = some result) :
    engine.Hands result.2 := by
  rw [finishRecording] at finished
  split at finished
  · cases finished
    exact .refl engine
  obtain ⟨⟨status, engine'⟩, collected, rfl⟩ := Option.map_eq_some_iff.mp finished
  have collected : engine.Hands engine' :=
    Hands.trans (Same.hands ⟨rfl, rfl⟩) (collect_hands collected)
  dsimp only
  split
  · exact collected.trans (emitContinuityBreak_hands _ rfl)
  · exact collected

theorem reconfigure_same (engine : AcquisitionEngine δ) (config : DeviceConfig) :
    engine.Same (engine.reconfigure sensor config).2 := by
  have configured : engine.Same (engine.applyConfig sensor config).2 :=
    applyConfig_same engine config
  have moved : engine.Same ((engine.applyConfig sensor config).2.applyOffsets sensor config).2 :=
    configured.trans (applyOffsets_same _ config)
  rw [reconfigure]
  dsimp only
  split
  · exact configured
  split
  · exact moved
  · exact moved

theorem reloadRuntimeConfig_hands {config : DeviceConfig}
    (reloaded : engine.reloadRuntimeConfig sensor config passes = some result) :
    engine.Hands result.2 := by
  rw [reloadRuntimeConfig] at reloaded
  split at reloaded
  · cases reloaded
    exact (reconfigure_same engine config).hands
  · obtain ⟨served, collected, rfl⟩ := Option.map_eq_some_iff.mp reloaded
    exact (collect_hands collected).trans (reconfigure_same _ config).hands

theorem update_hands (updated : engine.update sensor passes = some after) : engine.Hands after := by
  rw [update] at updated
  split at updated
  · obtain rfl := Option.some.inj updated
    exact .refl engine
  split at updated
  · obtain rfl := Option.some.inj updated
    exact .refl engine
  split at updated
  · obtain ⟨result, served, rfl⟩ := Option.map_eq_some_iff.mp updated
    exact updateFifoWatermarkMode_hands served
  · cases updated
    exact updateSingleSampleMode_hands engine

end AcquisitionEngine

namespace DecimatingFilterX2

/-- So many more inputs complete no output. -/
def Silent (filter : DecimatingFilterX2) (inputs : Nat) : Prop :=
  ∀ index < inputs, (filter.phase + index + 1) % decimationFactor ≠ 0 ∨
    filter.samplesSeen + index + 1 < filter.tapCount

theorem silent_succ (filter : DecimatingFilterX2) (input : FilterInput) {inputs : Nat} :
    filter.Silent (inputs + 1) ↔ (filter.process input.1 input.2).1 = none ∧
      (filter.process input.1 input.2).2.Silent inputs := by
  have taps : filter.tapCount ≤ maxTaps := by
    unfold tapCount
    cases filter.profile <;> decide
  have next : (filter.process input.1 input.2).2 = filter.taken input := by
    rw [process_eq]
    split <;> rfl
  have now : (filter.process input.1 input.2).1 = none ↔ (filter.taken input).phase ≠ 0 ∨
      (filter.taken input).samplesSeen < filter.tapCount := by
    rw [process_eq]
    split
    · rename_i silent
      exact iff_of_true rfl silent
    rename_i output
    exact iff_of_false nofun output
  have same : (filter.taken input).tapCount = filter.tapCount := rfl
  rw [now, next, Silent, Silent, same]
  unfold taken decimationFactor
  rw [maxTaps] at taps ⊢
  constructor
  · intro silent
    refine ⟨?_, fun index inside => ?_⟩
    · have first := silent 0 (by omega)
      dsimp only
      split <;> omega
    · have later := silent (index + 1) (by omega)
      dsimp only
      split <;> omega
  rintro ⟨first, later⟩ index inside
  cases index with
  | zero =>
    dsimp only at first
    split at first <;> omega
  | succ index =>
    have later := later index (by omega)
    dsimp only at later
    split at later <;> omega

end DecimatingFilterX2

/-- The status and the FIFO transaction of a pass, unless the pass ends before. -/
def Accelerometer.transaction {δ : Type} (sensor : Accelerometer δ) (config : DeviceConfig)
    (service : AcquisitionEngine.FifoService) (device : δ) :
    Option (UInt8 × FifoReadOutcome × δ) :=
  let ((statusRead, status), device) := sensor.readStatus device
  if statusRead ≠ .ok then none
  else
    let ((entriesStatus, fifoEntries), device) := sensor.readFifoEntries device
    if entriesStatus ≠ .ok ∨ service.nothingReady config status fifoEntries then none
    else some (status, sensor.readFifoBatch batchCapacity device)

/-- No break, and valid times if the sensor times its samples. -/
structure FifoReadOutcome.Clean (outcome : FifoReadOutcome) (timed : Bool) : Prop where
  valid : outcome.validFor batchCapacity = true
  preserved : outcome.continuity = .preserved
  times : timed = true → ∀ sample ∈ outcome.samples, sample.2.valid = true

/-- The service behind a full batch. -/
def AcquisitionEngine.FifoService.next (service : AcquisitionEngine.FifoService) (samples : Nat) :
    AcquisitionEngine.FifoService :=
  { service with
    firstRead := false
    rawIrqSeen := false
    totalSamplesRead := service.totalSamplesRead + samples }

/-- The sensor's answers to the passes of a service give no break and, from the filter at its start
on, no output. Only a full batch is followed by another pass. -/
def Accelerometer.FindsNothing {δ : Type} (sensor : Accelerometer δ) (config : DeviceConfig)
    (filter : DecimatingFilterX2) (service : AcquisitionEngine.FifoService) (device : δ) :
    Nat → Prop
  | 0 => True
  | passes + 1 => ∀ status outcome after,
    sensor.transaction config service device = some (status, outcome, after) →
      status &&& statusFifoOvrMask = 0 ∧
      outcome.Clean (sensor.supportsSampleTimestamps after) ∧
      filter.Silent (service.totalSamplesRead + outcome.samples.length) ∧
      (outcome.status = .ok → outcome.samples.length = batchCapacity →
        FindsNothing sensor config filter (service.next outcome.samples.length) after passes)

namespace AcquisitionEngine

variable {δ : Type} {sensor : Accelerometer δ} {first before after : AcquisitionEngine δ}

theorem Hands.nothing (one : first.Hands before) (two : before.Hands after) :
    after.handed = first.handed ↔
      before.handed = first.handed ∧ after.handed = before.handed := by
  obtain ⟨calls, handed, -⟩ := one
  obtain ⟨more, handed', -⟩ := two
  rw [handed', handed, append_right_eq_self, append_right_eq_self, append_assoc,
    append_right_eq_self, append_eq_nil_iff]

theorem storeBatch_silent (engine : AcquisitionEngine δ)
    (inputs : List (AccelSample × Option SampleDeviceTime)) :
    let stored := engine.storeBatch inputs
    stored.2.device = engine.device ∧ stored.2.lastConfig = engine.lastConfig ∧
      stored.2.handed = engine.handed ∧
      ∀ more, engine.resampler.Silent (inputs.length + more) ↔
        stored.1 = [] ∧ stored.2.resampler.Silent more := by
  induction inputs generalizing engine with
  | nil => exact ⟨rfl, rfl, rfl, fun more => by simp [storeBatch]⟩
  | cons input rest ih =>
    have one : let next := engine.processAndStoreSample input.1 input.2
        next.2.device = engine.device ∧ next.2.lastConfig = engine.lastConfig ∧
          next.2.handed = engine.handed ∧
          (next.1 = none ↔ (engine.resampler.process input.1 input.2).1 = none) ∧
          next.2.resampler = (engine.resampler.process input.1 input.2).2 := by
      unfold processAndStoreSample
      generalize engine.resampler.process input.1 input.2 = output
      obtain ⟨none | output, resampler⟩ := output <;> simp
    rw [storeBatch]
    generalize engine.processAndStoreSample input.1 input.2 = next at one
    obtain ⟨device, config, handed, output, resampler⟩ := one
    obtain ⟨device', config', handed', silent⟩ := ih next.2
    refine ⟨device'.trans device, config'.trans config, handed'.trans handed, fun more => ?_⟩
    rw [length_cons, Nat.add_right_comm, engine.resampler.silent_succ input, ← output,
      ← resampler, silent more]
    rw [append_eq_nil_iff, and_assoc, Option.toList_eq_nil_iff]

theorem hand_ne (engine : AcquisitionEngine δ) (call : SinkCall) :
    (engine.hand call).handed ≠ engine.handed := by
  simp [hand]

/-- Samples that give nothing change nothing but the filter. -/
theorem handleSamples_nothing (sensor : Accelerometer δ) (engine : AcquisitionEngine δ)
    (outcome : FifoReadOutcome) :
    let result := engine.handleSamples sensor outcome
    let timed := sensor.supportsSampleTimestamps engine.device
    (result.2.handed = engine.handed ↔
      (timed = true → ∀ sample ∈ outcome.samples, sample.2.valid = true) ∧
        engine.resampler.Silent outcome.samples.length) ∧
    (result.2.handed = engine.handed → result.1 = none ∧ result.2.device = engine.device ∧
      result.2.lastConfig = engine.lastConfig ∧
      ∀ more, engine.resampler.Silent (outcome.samples.length + more) ↔
        result.2.resampler.Silent more) := by
  rw [handleSamples]
  dsimp only
  split
  · rename_i invalid
    rw [Bool.and_eq_true, any_eq_true] at invalid
    obtain ⟨timed, sample, member, wrong⟩ := invalid
    have broken : (if engine.hasLastConfig = true then
        (({ engine with resampler := engine.resampler.reset }.emitContinuityBreak
          .invalidTiming).applyFifoConfig sensor engine.lastConfig).2
        else { engine with resampler := engine.resampler.reset }.emitContinuityBreak
          .invalidTiming).handed ≠ engine.handed := by
      split
      · rw [(applyFifoConfig_same _ _).1]
        exact hand_ne { engine with resampler := engine.resampler.reset } _
      · exact hand_ne { engine with resampler := engine.resampler.reset } _
    refine ⟨iff_of_false broken fun clean => ?_, fun same => absurd same broken⟩
    simp [clean.1 timed sample member] at wrong
  · rename_i valid
    have times : sensor.supportsSampleTimestamps engine.device = true →
        ∀ sample ∈ outcome.samples, sample.2.valid = true := by
      simpa using valid
    generalize read : outcome.samples.map _ = inputs
    have size : inputs.length = outcome.samples.length := by
      rw [← read]
      exact length_map ..
    obtain ⟨device, config, handed, silent⟩ := storeBatch_silent engine inputs
    rw [size] at silent
    have done := silent 0
    generalize engine.storeBatch _ = stored at *
    obtain ⟨batch, engine'⟩ := stored
    have none : engine.resampler.Silent outcome.samples.length ↔ batch = [] := by
      simpa [DecimatingFilterX2.Silent] using done
    split
    · rename_i some
      have more : engine'.handed ++ [.onSamples batch] ≠ engine.handed := by
        rw [handed]
        exact hand_ne engine _
      exact ⟨iff_of_false more fun quiet => some (none.mp quiet.2), fun same => absurd same more⟩
    rename_i empty
    have empty := not_not.mp empty
    refine ⟨iff_of_true handed ⟨times, none.mpr empty⟩, fun _ => ⟨rfl, device, config, ?_⟩⟩
    intro more
    rw [silent more]
    exact and_iff_right empty

variable (engine : AcquisitionEngine δ)

theorem markUncertain_nothing (outcome : FifoReadOutcome) :
    (engine.markUncertain outcome).handed = engine.handed ↔
      outcome.validFor batchCapacity = true ∧ outcome.continuity = .preserved := by
  rw [markUncertain]
  split
  · rename_i broken
    refine iff_of_false (hand_ne engine _) fun sound => ?_
    rw [sound.1, sound.2] at broken
    exact absurd broken (by decide)
  rename_i sound
  refine iff_of_true rfl ?_
  cases continuity : outcome.continuity <;> simp_all

theorem endPass_full (service : FifoService)
    {read : FifoReadOutcome} (status : read.status = .ok)
    (full : read.samples.length = batchCapacity) : engine.endPass sensor service read =
      ((none, { service with firstRead := false, rawIrqSeen := false }), engine) := by
  have some : read.samples ≠ [] := by
    rintro empty
    rw [empty] at full
    cases full
  rw [endPass, status, full, if_neg nofun, if_neg nofun, if_neg some, if_neg (Nat.lt_irrefl _)]

theorem endPass_ends (service : FifoService)
    {read : FifoReadOutcome} (fits : read.samples.length ≤ batchCapacity)
    (short : ¬ (read.status = .ok ∧ read.samples.length = batchCapacity)) :
    (engine.endPass sensor service read).1.1 ≠ none := by
  rw [endPass]
  split
  · exact nofun
  split
  · exact nofun
  rename_i status
  split
  · exact nofun
  split
  · exact nofun
  rename_i full
  exact absurd ⟨not_not.mp status, Nat.le_antisymm fits (Nat.not_lt.mp full)⟩ short

theorem FifoReadOutcome.Clean.checked {outcome : FifoReadOutcome} {timed : Bool}
    (clean : outcome.Clean timed) : outcome.checked = outcome := if_pos clean.valid

theorem takeSamples_nothing (sensor : Accelerometer δ) (engine : AcquisitionEngine δ)
    {outcome : FifoReadOutcome}
    (valid : outcome.checked = outcome) : let result := engine.takeSamples sensor outcome
    (result.2.handed = engine.handed ↔ (sensor.supportsSampleTimestamps engine.device = true →
        ∀ sample ∈ outcome.samples, sample.2.valid = true) ∧
        engine.resampler.Silent outcome.samples.length) ∧
    (result.2.handed = engine.handed → result.1 = none ∧ result.2.device = engine.device ∧
      result.2.lastConfig = engine.lastConfig ∧
      ∀ more, engine.resampler.Silent (outcome.samples.length + more) ↔
        result.2.resampler.Silent more) := by
  rw [takeSamples, valid]
  split
  · rename_i empty
    rw [empty]
    exact ⟨iff_of_true rfl ⟨fun _ => nofun, nofun⟩, fun _ => ⟨rfl, rfl, rfl, fun more => by simp⟩⟩
  · exact handleSamples_nothing sensor engine outcome

/-- A transaction that gives nothing to publish. -/
theorem readBatch_nothing (sensor : Accelerometer δ) (engine : AcquisitionEngine δ)
    (service : FifoService)
    {outcome : FifoReadOutcome} {device : δ}
    (reads : sensor.readFifoBatch batchCapacity engine.device = (outcome, device)) :
    let result := engine.readBatch sensor service
    (result.2.handed = engine.handed ↔ outcome.Clean (sensor.supportsSampleTimestamps device) ∧
      engine.resampler.Silent outcome.samples.length) ∧
    (result.2.handed = engine.handed →
      (outcome.status = .ok ∧ outcome.samples.length = batchCapacity ∧
        result.1 = (none, service.next outcome.samples.length) ∧ result.2.device = device ∧
        result.2.lastConfig = engine.lastConfig ∧
        ∀ more, engine.resampler.Silent (outcome.samples.length + more) ↔
          result.2.resampler.Silent more) ∨
      ¬ (outcome.status = .ok ∧ outcome.samples.length = batchCapacity) ∧
        result.1.1 ≠ none) := by
  have ends := fun engine : AcquisitionEngine δ => (@endPass_same δ sensor engine { service with
    totalSamplesRead := service.totalSamplesRead + outcome.checked.samples.length }
      outcome.checked).1
  rw [readBatch, reads]
  dsimp only
  by_cases valid : outcome.validFor batchCapacity = true
  swap
  · have bare : outcome.checked = { status := .internalError } := if_neg valid
    have loud : ∀ service : FifoService,
        ((({ engine with device } : AcquisitionEngine δ).markUncertain outcome).endPass sensor
          service outcome.checked).2.handed ≠ engine.handed := by
      intro service same
      rw [(endPass_same _ service _).1] at same
      exact valid ((markUncertain_nothing { engine with device } outcome).mp same).1
    rw [takeSamples, if_pos (by rw [bare])]
    exact ⟨iff_of_false (loud _) fun clean => valid clean.1.valid, fun same => absurd same (loud _)⟩
  have checked : outcome.checked = outcome := if_pos valid
  have taken : ({ engine with device } : AcquisitionEngine δ).Hands
      ({ engine with device }.takeSamples sensor outcome).2 := takeSamples_hands _ outcome
  have nothing := takeSamples_nothing sensor { engine with device } checked
  rw [checked] at ends ⊢
  dsimp only at nothing
  generalize ({ engine with device } : AcquisitionEngine δ).takeSamples sensor outcome = result
    at taken nothing ⊢
  obtain ⟨ended, engine'⟩ := result
  obtain ⟨quiet, follows⟩ := nothing
  cases ended with
  | some status =>
    have loud : engine'.handed ≠ engine.handed := fun same => nomatch (follows same).1
    exact ⟨iff_of_false loud fun clean => loud (quiet.mpr ⟨clean.1.times, clean.2⟩),
      fun same => absurd same loud⟩
  | none =>
    dsimp only
    have whole := taken.nothing (markUncertain_hands engine' outcome)
    rw [quiet, markUncertain_nothing] at whole
    rw [ends, whole]
    refine ⟨⟨fun found => ⟨⟨valid, found.2.2, found.1.1⟩, found.1.2⟩,
      fun found => ⟨⟨found.1.times, found.2⟩, valid, found.1.preserved⟩⟩, fun found => ?_⟩
    obtain ⟨-, followed⟩ := follows (quiet.mpr found.1)
    have same : engine'.markUncertain outcome = engine' := by
      rw [markUncertain, valid, found.2.2]
      rfl
    rw [same]
    by_cases full : outcome.status = .ok ∧ outcome.samples.length = batchCapacity
    · rw [endPass_full engine' _ full.1 full.2]
      exact .inl ⟨full.1, full.2, rfl, followed⟩
    refine .inr ⟨full, endPass_ends engine' _ ?_ full⟩
    rw [FifoReadOutcome.validFor] at valid
    split at valid
    · exact nomatch valid
    · rename_i fits
      exact Nat.not_lt.mp fits

theorem servicePass_of_transaction (sensor : Accelerometer δ)
    (engine : AcquisitionEngine δ) (service : FifoService) :
    (sensor.transaction engine.lastConfig service engine.device = none →
      engine.Same (engine.servicePass sensor service).2 ∧
        (engine.servicePass sensor service).1.1 ≠ none) ∧
    ∀ status outcome after,
      sensor.transaction engine.lastConfig service engine.device = some (status, outcome, after) →
        ∃ device, sensor.readFifoBatch batchCapacity device = (outcome, after) ∧
          engine.servicePass sensor service =
            (({ engine with device } : AcquisitionEngine δ).noteOverrun sensor status).readBatch
              sensor service := by
  rw [Accelerometer.transaction, servicePass]
  dsimp only
  split
  · exact ⟨fun _ => ⟨(Same.trans ⟨rfl, rfl⟩ (accessFailed_same _)), nofun⟩, nofun⟩
  rw [ite_or]
  split
  · exact ⟨fun _ => ⟨(Same.trans ⟨rfl, rfl⟩ (accessFailed_same _)), nofun⟩, nofun⟩
  split
  · exact ⟨fun _ => ⟨⟨rfl, rfl⟩, nofun⟩, nofun⟩
  refine ⟨nofun, fun status outcome after found => ?_⟩
  obtain ⟨rfl, reads⟩ := Prod.mk.inj (Option.some.inj found)
  exact ⟨_, reads, rfl⟩

theorem noteOverrun_loud (sensor : Accelerometer δ) (engine : AcquisitionEngine δ) {status : UInt8}
    (overrun : status &&& statusFifoOvrMask ≠ 0) :
    (engine.noteOverrun sensor status).handed ≠ engine.handed := by
  rw [noteOverrun, if_neg overrun]
  rw [(logStreak_same _ _ _).1]
  exact hand_ne { engine with
    fifoOverrunEvents := saturatingIncrement32 engine.fifoOverrunEvents
    device := sensor.notifyFifoTimingDiscontinuity
      (timingQualityInvalid ||| timingQualityFifoOverrun) engine.device } _

theorem serviceLoop_nothing {filter : DecimatingFilterX2} {engine : AcquisitionEngine δ}
    {service : FifoService} {passes : Nat} {result : SensorStatus × AcquisitionEngine δ}
    (taken : ∀ more, filter.Silent (service.totalSamplesRead + more) ↔
      engine.resampler.Silent more)
    (served : engine.serviceLoop sensor service passes = some result) :
    result.2.handed = engine.handed ↔
      sensor.FindsNothing engine.lastConfig filter service engine.device passes := by
  induction passes generalizing engine service with
  | zero => exact nomatch served
  | succ passes ih =>
    obtain ⟨idle, busy⟩ := servicePass_of_transaction sensor engine service
    have pass : engine.Hands (engine.servicePass sensor service).2 :=
      servicePass_hands engine service
    rw [serviceLoop] at served
    rw [Accelerometer.FindsNothing]
    cases found : sensor.transaction engine.lastConfig service engine.device with
    | none =>
      obtain ⟨same, ended⟩ := idle found
      generalize engine.servicePass sensor service = passed at same ended served
      obtain ⟨⟨_ | status, service'⟩, engine'⟩ := passed
      · exact absurd rfl ended
      · cases served
        exact iff_of_true same.1 fun _ _ _ => nofun
    | some answer =>
      obtain ⟨status, outcome, after⟩ := answer
      obtain ⟨device, reads, passed⟩ := busy status outcome after found
      have grows : (engine.servicePass sensor service).2.Hands result.2 := by
        generalize engine.servicePass sensor service = passed at served
        obtain ⟨⟨_ | status, service'⟩, engine'⟩ := passed
        · exact serviceLoop_hands served
        · cases served
          exact .refl _
      have whole := pass.nothing grows
      have answer : ∀ {holds : UInt8 → FifoReadOutcome → δ → Prop}, (∀ status' outcome' after',
          some (status, outcome, after) = some (status', outcome', after') →
            holds status' outcome' after') ↔ holds status outcome after :=
        ⟨fun all => all _ _ _ rfl, by rintro here _ _ _ ⟨⟩; exact here⟩
      rw [whole, answer]
      by_cases overrun : status &&& statusFifoOvrMask = 0
      swap
      · have broken := noteOverrun_loud sensor { engine with device } overrun
        have breaks := (noteOverrun_hands _ status).nothing (@readBatch_hands δ sensor
          (({ engine with device } : AcquisitionEngine δ).noteOverrun sensor status) service)
        rw [← passed] at breaks
        exact iff_of_false (fun quiet => broken (breaks.mp quiet.1).1) fun quiet => overrun quiet.1
      rw [noteOverrun, if_pos overrun] at passed
      obtain ⟨quiet, follows⟩ :=
        readBatch_nothing sensor { engine with device } service reads
      rw [← passed] at quiet follows
      rw [quiet, taken, and_iff_right overrun, ← and_assoc]
      refine and_congr_right fun clean => ?_
      have followed := follows (quiet.mpr clean)
      generalize engine.servicePass sensor service = passed at served followed ⊢
      obtain ⟨⟨ended, service'⟩, engine'⟩ := passed
      rcases followed with ⟨ok, full, ended', here, config, shift⟩ | ⟨short, some⟩
      · cases ended'
        have later : ∀ more, filter.Silent ((service.next outcome.samples.length).totalSamplesRead +
            more) ↔ engine'.resampler.Silent more := fun more => by
          rw [← shift, ← taken, ← Nat.add_assoc]
          rfl
        rw [ih later served, here, config]
        exact ⟨fun rest _ _ => rest, fun rest => rest ok full⟩
      · obtain ⟨status, rfl⟩ := Option.ne_none_iff_exists'.mp some
        cases served
        exact iff_of_true rfl fun ok full => absurd ⟨ok, full⟩ short

/-- The forced service of a reload, if there is one, finds nothing to publish in the sensor's
FIFO. -/
def ReloadFindsNothing (sensor : Accelerometer δ) (engine : AcquisitionEngine δ) (passes : Nat) :
    Prop :=
  engine.initialized = true → sensor.supportsFifo engine.device = true →
    ∀ service ∈ (engine.openService sensor true).1,
      sensor.FindsNothing engine.lastConfig engine.resampler service
        (engine.openService sensor true).2.device passes

theorem openService_opens (sensor : Accelerometer δ) (engine : AcquisitionEngine δ) :
    let opened := engine.openService sensor true
    opened.2.lastConfig = engine.lastConfig ∧ opened.2.resampler = engine.resampler ∧
      ∃ service, opened.1 = some service ∧ service.totalSamplesRead = 0 := by
  simp only [openService, Bool.not_true, Bool.and_false, Bool.false_and, Bool.false_eq_true,
    if_false]
  split
  · exact ⟨rfl, rfl, _, rfl, rfl⟩
  · exact ⟨rfl, rfl, _, rfl, rfl⟩

theorem reload_nothing {engine : AcquisitionEngine δ} {config : DeviceConfig} {passes : Nat}
    {result : SensorStatus × AcquisitionEngine δ}
    (reloaded : engine.reloadRuntimeConfig sensor config passes = some result) :
    result.2.handed = engine.handed ↔ engine.ReloadFindsNothing sensor passes := by
  rw [reloadRuntimeConfig] at reloaded
  rw [ReloadFindsNothing]
  split at reloaded
  · rename_i apart
    cases reloaded
    exact iff_of_true (reconfigure_same engine config).1 fun running => by simp [running] at apart
  rename_i running
  obtain ⟨served, collected, rfl⟩ := Option.map_eq_some_iff.mp reloaded
  rw [(reconfigure_same _ config).1, imp_iff_right (by simpa using running)]
  rw [collect] at collected
  split at collected
  · rename_i fifo
    obtain ⟨config', resampler, service, opened, fresh⟩ := openService_opens sensor engine
    have same : engine.Same (engine.openService sensor true).2 := openService_same engine true
    rw [updateFifoWatermarkMode] at collected
    rw [imp_iff_right fifo]
    generalize engine.openService sensor true = result at *
    obtain ⟨_, engine'⟩ := result
    cases opened
    have taken : ∀ more, engine.resampler.Silent (service.totalSamplesRead + more) ↔
        engine'.resampler.Silent more := fun more => by rw [fresh, resampler, Nat.zero_add]
    rw [← same.1, ← config', serviceLoop_nothing taken collected]
    exact ⟨fun nothing _ => by rintro ⟨⟩; exact nothing, fun nothing => nothing _ rfl⟩
  · rename_i none
    cases collected
    exact iff_of_true rfl fun fifo => absurd fifo none

end AcquisitionEngine
end SensorSystem.Node.Acquisition
