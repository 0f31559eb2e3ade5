import SensorSystem.Node.Config.ConfigStore

/-! Exactly when a save that loses power leaves the configuration that was there before. A load
and a save judge the copies differently: a save does not know the old layouts. -/

namespace SensorSystem.Node.Config

open ConfigManager List PersistentConfig
open Base Boot

variable (config : PersistentConfig)

theorem readConfig_bytes : readConfig config.bytes = config := by
  obtain ⟨magic, version, reserved, generation, ⟨node, ⟨p, q, r⟩, baudrate, odr, range, corner,
    profile, ⟨s, t, u⟩, x, y, z, threshold, count, watermark⟩, crc⟩ := config
  simp [bytes, content, DeviceConfig.bytes, Padding.bytes,
    readConfig, readPadding, readI32, getD_eq_getElem?_getD]

/-- The check of the bytes is that of the configuration. -/
theorem isValidCopy_bytes :
    isValidCopy config.bytes = isValid config := by
  have read := readConfig_bytes config
  have content := length_configContent config
  have magic : readU32 config.bytes 0 = config.magic := congrArg PersistentConfig.magic read
  have version : readU16 config.bytes 4 = config.version := congrArg PersistentConfig.version read
  have checksum : readU32 config.bytes 44 = config.crc32 := congrArg crc32 read
  have front : config.bytes.take 44 = config.content := by
    rw [bytes, ← content, take_left']
    rfl
  simp only [isValidCopy, layoutIsValid, configSize, magic, version, checksum, front,
    isValid]
  rfl

theorem isValid_finalize :
    isValid config.finalize = true := by
  simp [isValid, finalize, sealed]

variable {config} {copy : List UInt8}

/-- What is written whole is loaded as it is. -/
theorem loadCopy_bytes (valid : isValid config = true) :
    loadCopy config.bytes = some config := by
  rw [loadCopy, isValidCopy_bytes, if_pos valid, readConfig_bytes]

theorem loadCopy_of_isValidCopy (valid : isValidCopy copy = true) :
    loadCopy copy = some (readConfig copy) := by
  rw [loadCopy, if_pos valid]

/-- A copy is the bytes that are read from it. -/
theorem content_readConfig (whole : copy.length = configSize) :
    (readConfig copy).content = copy.take 44 := by
  rw [configSize] at whole
  have front : fields copy 0 [4, 2, 2, 4, 1, 1, 1, 1, 4, 2, 1, 1, 1, 1, 1, 1, 4, 4, 4, 2, 1, 1] =
      copy.take 44 := fields_eq_slice copy 0 _
  rw [← front]
  simp (disch := omega) only [content, readConfig, DeviceConfig.bytes,
    Padding.bytes, readPadding, readI32, fields, Nat.reduceAdd, u32Bytes_readU32, u16Bytes_readU16,
    slice_one, UInt32.toUInt32_toInt32, append_nil, cons_append, nil_append]

theorem isValid_sealed (magic : config.magic = persistentConfigMagic)
    (version : config.version = persistentConfigVersion) :
    isValid config.sealed = true := by
  simp [isValid, sealed, magic, version]

theorem isValid_loadCopy (whole : copy.length = configSize) (loads : loadCopy copy = some config) :
    isValid config = true := by
  rw [loadCopy] at loads
  split at loads
  · rename_i valid
    cases loads
    rw [isValidCopy, layoutIsValid, Bool.and_eq_true, Bool.and_eq_true] at valid
    obtain ⟨⟨magic, version⟩, checksum⟩ := valid
    rw [isValid, Bool.and_eq_true, Bool.and_eq_true]
    refine ⟨⟨magic, version⟩, ?_⟩
    have content := content_readConfig whole
    rw [decide_eq_true_eq] at checksum ⊢
    exact checksum.trans (congrArg (fun front => configCrc32 (front ++ u32Bytes 0)) content.symm)
  split at loads
  · cases loads
    exact isValid_sealed rfl rfl
  split at loads
  · cases loads
    exact isValid_sealed rfl rfl
  split at loads
  · exact nomatch loads
  · cases loads
    exact isValid_sealed rfl rfl

/-- What a load accepts, the manager accepts. -/
theorem isValid_loadConfig {flash : Flash} (loads : flash.loadConfig = some config) :
    isValid config = true := by
  have whole (copy : ConfigCopy) : (flash.configCopy copy).length = configSize := by
    rw [Flash.configCopy, Flash.read, length_map, length_range]
  rw [Flash.loadConfig] at loads
  cases first : loadCopy (flash.configCopy .copy0) with
  | none =>
    cases second : loadCopy (flash.configCopy .copy1) with
    | none =>
      rw [first, second] at loads
      cases loads
    | some other =>
      rw [first, second] at loads
      cases loads
      exact isValid_loadCopy (whole _) second
  | some one =>
    cases second : loadCopy (flash.configCopy .copy1) with
    | none =>
      rw [first, second] at loads
      cases loads
      exact isValid_loadCopy (whole _) first
    | some other =>
      rw [first, second, newestConfig] at loads
      split at loads
      · cases loads
        exact isValid_loadCopy (whole _) first
      · cases loads
        exact isValid_loadCopy (whole _) second

/-- The configuration of one copy is newer than that of the other. -/
structure Newest (one other : Option PersistentConfig) (config : PersistentConfig) : Prop where
  loaded : one = some config
  newer : ∀ older, other = some older → older.generation < config.generation

theorem newestConfig_iff {a b : Option PersistentConfig}
    (distinct : ∀ x y, a = some x → b = some y → x.generation ≠ y.generation) :
    newestConfig a b = some config ↔ Newest a b config ∨ Newest b a config := by
  constructor
  · intro newest
    match a, b with
    | none, none => cases newest
    | some x, none =>
      cases newest
      exact .inl ⟨rfl, nofun⟩
    | none, some y =>
      cases newest
      exact .inr ⟨rfl, nofun⟩
    | some x, some y =>
      have differ := distinct x y rfl rfl
      by_cases later : x.generation ≥ y.generation
      · rw [show newestConfig (some x) (some y) = some x from if_pos later] at newest
        cases newest
        refine .inl ⟨rfl, fun older found => ?_⟩
        cases found
        exact UInt32.lt_of_le_of_ne later (Ne.symm differ)
      rw [show newestConfig (some x) (some y) = some y from if_neg later] at newest
      cases newest
      refine .inr ⟨rfl, fun older found => ?_⟩
      cases found
      exact UInt32.not_le.mp later
  · rintro (⟨rfl, newer⟩ | ⟨rfl, newer⟩)
    · match b with
      | none => rfl
      | some y => exact if_pos (UInt32.le_of_lt (newer y rfl))
    · match a with
      | none => rfl
      | some x => exact if_neg (UInt32.not_le.mpr (newer x rfl))

/-- The configuration in a copy. -/
def loaded (flash : Flash) (copy : ConfigCopy) : Option PersistentConfig :=
  loadCopy (flash.configCopy copy)

def DistinctGenerations (flash : Flash) : Prop :=
  ∀ a b, loaded flash .copy0 = some a → loaded flash .copy1 = some b →
    a.generation ≠ b.generation

/-- A load takes its configuration from a copy. -/
def LoadsFrom (flash : Flash) (copy : ConfigCopy) (config : PersistentConfig) : Prop :=
  Newest (loaded flash copy) (loaded flash copy.other) config

theorem loadConfig_iff {flash : Flash} (distinct : DistinctGenerations flash) :
    flash.loadConfig = some config ↔ ∃ copy, LoadsFrom flash copy config := by
  refine (newestConfig_iff distinct).trans ⟨?_, ?_⟩
  · rintro (first | second)
    · exact ⟨.copy0, first⟩
    · exact ⟨.copy1, second⟩
  rintro ⟨copy, loads⟩
  cases copy with
  | copy0 => exact .inl loads
  | copy1 => exact .inr loads

theorem distinctGenerations_iff (flash : Flash) (copy : ConfigCopy) :
    DistinctGenerations flash ↔ ∀ a b, loaded flash copy = some a →
      loaded flash copy.other = some b → a.generation ≠ b.generation := by
  cases copy with
  | copy0 => rfl
  | copy1 =>
    constructor
    · exact fun distinct a b first second => Ne.symm (distinct b a second first)
    · exact fun distinct a b first second => Ne.symm (distinct b a second first)

/-- A save recognises the copy that a load returns. -/
def Recognised (flash : Flash) (copy : ConfigCopy) : Prop :=
  isValidCopy (flash.configCopy copy) = true ∨
    copy = .copy1 ∧ isValidCopy (flash.configCopy .copy0) = false

theorem copyGeneration_lt {flash : Flash} {copy : ConfigCopy}
    (loads : LoadsFrom flash copy config) (one : isValidCopy (flash.configCopy copy) = true)
    (other : isValidCopy (flash.configCopy copy.other) = true) :
    copyGeneration (flash.configCopy copy.other) < copyGeneration (flash.configCopy copy) := by
  have found := loads.loaded
  rw [loaded, loadCopy_of_isValidCopy one] at found
  cases found
  exact loads.newer _ (loadCopy_of_isValidCopy other)

/-- A save overwrites the copy that it does not recognise. -/
theorem saveTarget_eq_iff {flash : Flash} {copy : ConfigCopy}
    (loads : LoadsFrom flash copy config) : flash.saveTarget = copy ↔ ¬ Recognised flash copy := by
  have older := copyGeneration_lt loads
  unfold Flash.saveTarget Recognised
  cases copy with
  | copy0 =>
    by_cases first : isValidCopy (flash.configCopy .copy0) = true
    · by_cases second : isValidCopy (flash.configCopy .copy1) = true
      · have later := older first second
        rw [ConfigCopy.other] at later
        simp [first, second, later]
      · simp [first, second]
    · simp [first]
  | copy1 =>
    by_cases first : isValidCopy (flash.configCopy .copy0) = true
    · by_cases second : isValidCopy (flash.configCopy .copy1) = true
      · have later := UInt32.le_of_lt (older second first)
        rw [ConfigCopy.other] at later
        simp [first, second, later]
      · simp [first, second]
    · simp [first]

variable {flash : Flash} {before saved : PersistentConfig}

theorem fits_configBytes (config : PersistentConfig) : config.bytes.length ≤ flashPageSize := by
  rw [length_configBytes]
  decide

/-- The copy that is written, as far as the power lasts. -/
theorem configCopy_target (flash : Flash) (config : PersistentConfig) (programmed : Nat) :
    (flash.saveConfigUntil config programmed).configCopy flash.saveTarget =
      tornRecord config.bytes programmed := by
  rw [Flash.configCopy, ← length_configBytes config]
  exact read_writeRecordUntil flash _ (fits_configBytes config) programmed

theorem configCopy_other (flash : Flash) (config : PersistentConfig) (programmed : Nat) :
    (flash.saveConfigUntil config programmed).configCopy flash.saveTarget.other =
      flash.configCopy flash.saveTarget.other := by
  refine read_writeRecordUntil_apart flash (fits_configBytes config) ?_ programmed
  cases flash.saveTarget with
  | copy0 => exact .inr (by decide)
  | copy1 => exact .inl (by decide)

/-- No prefix of the program passes for a record unless it is whole. -/
def TornRejected (config : PersistentConfig) : Prop :=
  ∀ programmed, loadCopy (tornRecord config.bytes programmed) ≠ none →
    tornRecord config.bytes programmed = config.bytes

/-- Wherever the power is lost in a save, a load returns the saved configuration or the one before
it. -/
structure SaveSurvives (flash : Flash) (before saved : PersistentConfig) : Prop where
  interrupted : ∀ programmed, (flash.saveConfigUntil saved programmed).loadConfig = some saved ∨
    (flash.saveConfigUntil saved programmed).loadConfig = some before
  completed : (flash.saveConfig saved).loadConfig = some saved

/-- With the older copy as its target a save gives way. -/
theorem loadConfig_saveConfigUntil (kept : loaded flash flash.saveTarget.other = some before)
    (valid : isValid saved = true) (later : before.generation < saved.generation)
    (rejected : TornRejected saved) (programmed : Nat) :
    (flash.saveConfigUntil saved programmed).loadConfig =
      if tornRecord saved.bytes programmed = saved.bytes then some saved else some before := by
  have target : loaded (flash.saveConfigUntil saved programmed) flash.saveTarget =
      loadCopy (tornRecord saved.bytes programmed) :=
    congrArg loadCopy (configCopy_target flash saved programmed)
  have other : loaded (flash.saveConfigUntil saved programmed) flash.saveTarget.other =
      some before :=
    (congrArg loadCopy (configCopy_other flash saved programmed)).trans kept
  by_cases whole : tornRecord saved.bytes programmed = saved.bytes
  · rw [if_pos whole]
    rw [whole, loadCopy_bytes valid] at target
    have distinct : DistinctGenerations (flash.saveConfigUntil saved programmed) := by
      refine (distinctGenerations_iff _ flash.saveTarget).mpr fun a b first second => ?_
      cases target.symm.trans first
      cases other.symm.trans second
      exact Ne.symm (UInt32.ne_of_lt later)
    refine (loadConfig_iff distinct).mpr ⟨flash.saveTarget, target, fun older found => ?_⟩
    cases other.symm.trans found
    exact later
  · rw [if_neg whole]
    have lost : loadCopy (tornRecord saved.bytes programmed) = none :=
      not_not.mp fun found => whole (rejected programmed found)
    rw [lost] at target
    have distinct : DistinctGenerations (flash.saveConfigUntil saved programmed) := by
      refine (distinctGenerations_iff _ flash.saveTarget).mpr fun a b first _ => ?_
      cases target.symm.trans first
    refine (loadConfig_iff distinct).mpr ⟨flash.saveTarget.other, other, fun older found => ?_⟩
    have same : flash.saveTarget.other.other = flash.saveTarget := by
      cases flash.saveTarget <;> rfl
    rw [same] at found
    cases target.symm.trans found

/-- The erased copy holds nothing. -/
theorem loadCopy_erased (config : PersistentConfig) :
    loadCopy (tornRecord config.bytes 0) = none := by
  have erased : tornRecord config.bytes 0 = replicate configSize 0xFF := by
    rw [tornRecord, length_configBytes]
    rfl
  rw [erased]
  decide

/-- A save that starts over the newest copy loses it. -/
theorem loadConfig_erased (loads : LoadsFrom flash flash.saveTarget before)
    {after : PersistentConfig} (found : (flash.saveConfigUntil saved 0).loadConfig = some after) :
    after.generation < before.generation := by
  have target : loaded (flash.saveConfigUntil saved 0) flash.saveTarget = none :=
    (congrArg loadCopy (configCopy_target flash saved 0)).trans (loadCopy_erased saved)
  have other : loaded (flash.saveConfigUntil saved 0) flash.saveTarget.other =
      loaded flash flash.saveTarget.other :=
    congrArg loadCopy (configCopy_other flash saved 0)
  have apart : DistinctGenerations (flash.saveConfigUntil saved 0) := by
    refine (distinctGenerations_iff _ flash.saveTarget).mpr fun a b first _ => ?_
    cases target.symm.trans first
  obtain ⟨copy, newest⟩ := (loadConfig_iff apart).mp found
  have source : copy = flash.saveTarget.other := by
    by_contra differs
    have same : copy = flash.saveTarget := by
      cases target : flash.saveTarget <;> cases copy <;> simp_all [ConfigCopy.other]
    rw [same] at newest
    cases target.symm.trans newest.loaded
  rw [source] at newest
  exact loads.newer after (other.symm.trans newest.loaded)

/-- The generation that a manager saves with. -/
theorem generation_next {current : PersistentConfig}
    (next : ConfigManager.next current = some saved) :
    isValid saved = true ∧ current.generation < saved.generation := by
  unfold ConfigManager.next at next
  split at next
  · cases next
  rename_i bounded
  cases next
  refine ⟨isValid_finalize _, ?_⟩
  have room : current.generation.toNat ≠ 0xFFFFFFFF := fun full =>
    bounded (UInt32.toNat_inj.mp full)
  have small := current.generation.toNat_lt
  change current.generation < current.generation + 1
  rw [UInt32.lt_iff_toNat_lt, UInt32.toNat_add]
  simp only [UInt32.toNat_one]
  omega

/-- A save by the manager survives a power loss exactly if it recognises the copy that the
configuration was loaded from. -/
theorem saveSurvives_iff (flash : Flash) (before current saved : PersistentConfig)
    (found : flash.loadConfig = some before) (distinct : DistinctGenerations flash)
    (loadedFrom : current.generation = before.generation)
    (next : ConfigManager.next current = some saved) (rejected : TornRejected saved) :
    SaveSurvives flash before saved ↔
      ∀ copy, LoadsFrom flash copy before → Recognised flash copy := by
  obtain ⟨valid, later⟩ := generation_next next
  rw [loadedFrom] at later
  constructor
  · intro survives copy loads
    by_contra unknown
    have target := (saveTarget_eq_iff loads).mpr unknown
    rw [← target] at loads
    rcases survives.interrupted 0 with lost | lost
    · exact UInt32.lt_asymm later (loadConfig_erased loads lost)
    · exact UInt32.lt_irrefl _ (loadConfig_erased loads lost)
  intro recognised
  obtain ⟨copy, loads⟩ := (loadConfig_iff distinct).mp found
  have spared : flash.saveTarget ≠ copy := fun target =>
    (saveTarget_eq_iff loads).mp target (recognised copy loads)
  have other : copy = flash.saveTarget.other := by
    cases target : flash.saveTarget <;> cases copy <;> simp_all [ConfigCopy.other]
  have kept := loads.loaded
  rw [other] at kept
  have left := loadConfig_saveConfigUntil kept valid later rejected
  refine ⟨fun programmed => ?_, ?_⟩
  · rw [left programmed]
    split
    · exact .inl rfl
    · exact .inr rfl
  · have whole := tornRecord_of_le (fits_configBytes saved)
    exact (left flashPageSize).trans (if_pos whole)

def erasedFlash : Flash where
  content _ := 0xFF

/-- The configuration of a node that was saved once. -/
def firstConfig : PersistentConfig := finalize { generation := 2 }

def secondConfig : PersistentConfig := finalize { generation := 3 }

/-- The current layout in the first copy, nothing in the second. -/
def currentFlash : Flash := erasedFlash.writeRecord configCopy0Offset firstConfig.bytes

theorem tornRejected_secondConfig : TornRejected secondConfig := by
  intro programmed found
  by_cases torn : programmed < configSize
  · have rejected : ∀ programmed < configSize,
        loadCopy (tornRecord secondConfig.bytes programmed) = none ∨
          tornRecord secondConfig.bytes programmed = secondConfig.bytes := by decide +kernel
    exact (rejected programmed torn).resolve_left found
  · exact tornRecord_of_le (by rw [length_configBytes]; omega)

theorem saveSurvives_currentFlash : SaveSurvives currentFlash firstConfig secondConfig := by
  have empty : loaded currentFlash .copy1 = none := by decide +kernel
  refine (saveSurvives_iff currentFlash firstConfig firstConfig secondConfig (by decide +kernel) ?_
    rfl (by decide +kernel) tornRejected_secondConfig).mpr ?_
  · intro a b _ second
    cases empty.symm.trans second
  intro copy loads
  cases copy with
  | copy0 => exact .inl (by decide +kernel)
  | copy1 => cases empty.symm.trans loads.loaded

/-- A record in the third layout, with the default values. -/
def legacyContent : List UInt8 :=
  u32Bytes persistentConfigMagic ++ (u16Bytes 3 ++ (u16Bytes 0 ++ (u32Bytes 2 ++
    ([0, 0, 0, 0] ++ (u32Bytes 115200 ++ (u16Bytes 250 ++ ([2, 0] ++ (u32Bytes 0 ++
      (u32Bytes 0 ++ (u32Bytes 0 ++ (u16Bytes 0 ++ [1, 30])))))))))))

def legacyRecord : List UInt8 :=
  legacyContent ++ u32Bytes (configCrc32 (legacyContent ++ u32Bytes 0))

/-- The old layout in the first copy, nothing in the second. -/
def legacyFlash : Flash := erasedFlash.writeRecord configCopy0Offset legacyRecord

/-- The first save behind an upgrade erases the only copy. -/
theorem upgrade_loses_config :
    legacyFlash.loadConfig = some firstConfig ∧ DistinctGenerations legacyFlash ∧
    ConfigManager.next firstConfig = some secondConfig ∧
    (legacyFlash.saveConfigUntil secondConfig 0).loadConfig = none ∧
    ¬ SaveSurvives legacyFlash firstConfig secondConfig := by
  have empty : loaded legacyFlash .copy1 = none := by decide +kernel
  have lost : (legacyFlash.saveConfigUntil secondConfig 0).loadConfig = none := by decide +kernel
  refine ⟨by decide +kernel, ?_, by decide +kernel, lost, fun survives => ?_⟩
  · intro a b _ second
    cases empty.symm.trans second
  · rcases survives.interrupted 0 with found | found
    · cases lost.symm.trans found
    · cases lost.symm.trans found

end SensorSystem.Node.Config
