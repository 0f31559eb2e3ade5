import SensorSystem.Node.Boot.BootUpdate

/-! `config_store_flash.cpp` and `config_manager.cpp`: the configuration is kept in two copies,
each in the layout of the firmware that wrote it. A load understands four layouts and migrates the
old ones; a save overwrites one copy with the current layout. -/

namespace SensorSystem.Node.Config

open Base
open Boot

def persistentConfigMagic : UInt32 := 0x43464732
def persistentConfigVersion : UInt16 := 4
def configCopy0Offset : Nat := 0x00022000
def configCopy1Offset : Nat := 0x00023000

/-- The bytes between two members. -/
abbrev Padding := UInt8 × UInt8 × UInt8

def Padding.bytes (padding : Padding) : List UInt8 := [padding.1, padding.2.1, padding.2.2]

structure DeviceConfig where
  nodeId : UInt8 := unassignedNodeId
  padding0 : Padding := (0, 0, 0)
  baudrate : UInt32 := 115200
  odrHz : UInt16 := 250
  rangeG : UInt8 := 2
  highPassCorner : UInt8 := 0
  filterProfile : UInt8 := 1
  padding1 : Padding := (0, 0, 0)
  offsetX : Int32 := 0
  offsetY : Int32 := 0
  offsetZ : Int32 := 0
  actThreshold : UInt16 := 0
  actCount : UInt8 := 1
  fifoWatermark : UInt8 := 30
deriving DecidableEq

structure PersistentConfig where
  magic : UInt32 := persistentConfigMagic
  version : UInt16 := persistentConfigVersion
  reserved0 : UInt16 := 0
  generation : UInt32 := 0
  device : DeviceConfig := {}
  crc32 : UInt32 := 0
deriving DecidableEq

def DeviceConfig.bytes (device : DeviceConfig) : List UInt8 :=
  [device.nodeId] ++ (device.padding0.bytes ++ (u32Bytes device.baudrate ++
    (u16Bytes device.odrHz ++ ([device.rangeG, device.highPassCorner, device.filterProfile] ++
      (device.padding1.bytes ++ (u32Bytes device.offsetX.toUInt32 ++
        (u32Bytes device.offsetY.toUInt32 ++ (u32Bytes device.offsetZ.toUInt32 ++
          (u16Bytes device.actThreshold ++ [device.actCount, device.fifoWatermark])))))))))

variable (config : PersistentConfig)

/-- The packed record up to its checksum. -/
def PersistentConfig.content : List UInt8 :=
  u32Bytes config.magic ++ (u16Bytes config.version ++ (u16Bytes config.reserved0 ++
    (u32Bytes config.generation ++ config.device.bytes)))

def PersistentConfig.bytes : List UInt8 :=
  config.content ++ u32Bytes config.crc32

def configCrc32 (data : List UInt8) : UInt32 := bootCrc32 data

/-- The checksum that a record gets. -/
def PersistentConfig.sealed : PersistentConfig :=
  { config with crc32 := configCrc32 { config with crc32 := 0 }.bytes }

def configSize : Nat := 48
def legacySizeV3 : Nat := 44
def legacySizeV2 : Nat := 40
def legacySizeV1 : Nat := 36

/-- A copy in a layout: the same header, and the checksum at the end. -/
def layoutIsValid (version : UInt16) (size : Nat) (copy : List UInt8) : Bool :=
  readU32 copy 0 = persistentConfigMagic && readU16 copy 4 = version &&
    readU32 copy (size - 4) = configCrc32 (copy.take (size - 4) ++ u32Bytes 0)

variable (copy : List UInt8)

def isValidCopy : Bool :=
  layoutIsValid persistentConfigVersion configSize copy

def isValidLegacyCopyV3 : Bool := layoutIsValid 3 legacySizeV3 copy
def isValidLegacyCopyV2 : Bool := layoutIsValid 2 legacySizeV2 copy
def isValidLegacyCopyV1 : Bool := layoutIsValid 1 legacySizeV1 copy

def copyGeneration : UInt32 := readU32 copy 8

def readPadding (offset : Nat) : Padding :=
  (copy.getD offset 0, copy.getD (offset + 1) 0, copy.getD (offset + 2) 0)

def readI32 (offset : Nat) : Int32 := (readU32 copy offset).toInt32

def readConfig : PersistentConfig where
  magic := readU32 copy 0
  version := readU16 copy 4
  reserved0 := readU16 copy 6
  generation := readU32 copy 8
  device := {
    nodeId := copy.getD 12 0
    padding0 := readPadding copy 13
    baudrate := readU32 copy 16
    odrHz := readU16 copy 20
    rangeG := copy.getD 22 0
    highPassCorner := copy.getD 23 0
    filterProfile := copy.getD 24 0
    padding1 := readPadding copy 25
    offsetX := readI32 copy 28
    offsetY := readI32 copy 32
    offsetZ := readI32 copy 36
    actThreshold := readU16 copy 40
    actCount := copy.getD 42 0
    fifoWatermark := copy.getD 43 0 }
  crc32 := readU32 copy 44

def migrateLegacyCopyV1 : PersistentConfig :=
  PersistentConfig.sealed {
    generation := readU32 copy 8
    device := {
      nodeId := copy.getD 12 0
      baudrate := 115200
      odrHz := readU16 copy 13
      rangeG := copy.getD 15 0
      highPassCorner := 0
      offsetX := readI32 copy 16
      offsetY := readI32 copy 20
      offsetZ := readI32 copy 24
      actThreshold := readU16 copy 28
      actCount := copy.getD 30 0
      fifoWatermark := copy.getD 31 0 } }

def migrateLegacyCopyV2 : PersistentConfig :=
  PersistentConfig.sealed {
    generation := readU32 copy 8
    device := {
      nodeId := copy.getD 12 0
      baudrate := readU32 copy 13
      odrHz := readU16 copy 17
      rangeG := copy.getD 19 0
      highPassCorner := 0
      offsetX := readI32 copy 20
      offsetY := readI32 copy 24
      offsetZ := readI32 copy 28
      actThreshold := readU16 copy 32
      actCount := copy.getD 34 0
      fifoWatermark := copy.getD 35 0 } }

def migrateLegacyCopyV3 : PersistentConfig :=
  PersistentConfig.sealed {
    generation := readU32 copy 8
    device := {
      nodeId := copy.getD 12 0
      baudrate := readU32 copy 16
      odrHz := readU16 copy 20
      rangeG := copy.getD 22 0
      highPassCorner := copy.getD 23 0
      filterProfile := 1
      offsetX := readI32 copy 24
      offsetY := readI32 copy 28
      offsetZ := readI32 copy 32
      actThreshold := readU16 copy 36
      actCount := copy.getD 38 0
      fifoWatermark := copy.getD 39 0 } }

def loadCopy : Option PersistentConfig :=
  if isValidCopy copy then some (readConfig copy)
  else if isValidLegacyCopyV3 copy then some (migrateLegacyCopyV3 copy)
  else if isValidLegacyCopyV2 copy then some (migrateLegacyCopyV2 copy)
  else if ¬ isValidLegacyCopyV1 copy then none
  else some (migrateLegacyCopyV1 copy)

/-- The newest of two copies, the first one if they are of one age. -/
def newestConfig (a b : Option PersistentConfig) : Option PersistentConfig :=
  match a, b with
  | none, none => none
  | some a, none => some a
  | none, some b => some b
  | some a, some b => if a.generation ≥ b.generation then some a else some b

/-- The two copies. -/
inductive ConfigCopy where
  | copy0
  | copy1
deriving DecidableEq

def ConfigCopy.offset : ConfigCopy → Nat
  | copy0 => configCopy0Offset
  | copy1 => configCopy1Offset

def ConfigCopy.other : ConfigCopy → ConfigCopy
  | copy0 => copy1
  | copy1 => copy0

end SensorSystem.Node.Config

namespace SensorSystem.Node.Boot.Flash

open Config

variable (flash : Flash)

def configCopy (copy : ConfigCopy) : List UInt8 :=
  flash.read copy.offset configSize

/-- `FlashConfigStore::load`. -/
def loadConfig : Option PersistentConfig :=
  newestConfig (loadCopy (flash.configCopy .copy0)) (loadCopy (flash.configCopy .copy1))

/-- The copy that a save overwrites. -/
def saveTarget : ConfigCopy :=
  let a := flash.configCopy .copy0
  let b := flash.configCopy .copy1
  if ¬ isValidCopy a then .copy0
  else if ¬ isValidCopy b then .copy1
  else if Config.copyGeneration a ≤ Config.copyGeneration b then .copy0 else .copy1

variable (config : PersistentConfig)

/-- `FlashConfigStore::save`, with the power lost after so many programmed bytes. -/
def saveConfigUntil (programmed : Nat) : Flash :=
  flash.writeRecordUntil flash.saveTarget.offset config.bytes programmed

def saveConfig : Flash :=
  flash.writeRecord flash.saveTarget.offset config.bytes

end SensorSystem.Node.Boot.Flash

namespace SensorSystem.Node.Config

open Boot

def supportedBaudrates : List UInt32 := [9600, 19200, 38400, 57600, 115200]

def sanitizeDeviceConfig (config : DeviceConfig) : DeviceConfig :=
  let config := if config.baudrate ∈ supportedBaudrates then config
    else { config with baudrate := 115200 }
  let config := if config.highPassCorner > 7 then { config with highPassCorner := 0 } else config
  let config := if config.filterProfile > 2 then { config with filterProfile := 1 } else config
  let watermark := if config.fifoWatermark < 3 then 3 else config.fifoWatermark
  let watermark := if watermark > 96 then 96 else watermark
  let watermark := watermark - watermark % 3
  { config with fifoWatermark := if watermark < 3 then 3 else watermark }

variable (config : PersistentConfig)

/-- `ConfigManager::finalize`. -/
def PersistentConfig.finalize : PersistentConfig :=
  { config with magic := persistentConfigMagic, version := persistentConfigVersion }.sealed

def ConfigManager.isValid : Bool :=
  config.magic = persistentConfigMagic && config.version = persistentConfigVersion &&
    config.crc32 = configCrc32 { config with crc32 := 0 }.bytes

/-- The configuration that `ConfigManager::init` and `reload` start with. -/
def ConfigManager.init (flash : Flash) : Option PersistentConfig :=
  match flash.loadConfig with
  | some loaded =>
    if ConfigManager.isValid loaded then
      some { loaded with device := sanitizeDeviceConfig loaded.device }.finalize
    else none
  | none => none

/-- What the manager starts with; `reset_to_defaults` if the store has none. -/
def ConfigManager.initial (flash : Flash) : PersistentConfig :=
  (ConfigManager.init flash).getD (PersistentConfig.finalize { generation := 1 })

/-- What `ConfigManager::save` hands to the store. -/
def ConfigManager.next (current : PersistentConfig) : Option PersistentConfig :=
  if current.generation = 0xFFFFFFFF then none
  else some { current with generation := current.generation + 1 }.finalize

theorem length_deviceBytes (device : DeviceConfig) : device.bytes.length = 32 := by
  simp [DeviceConfig.bytes, Padding.bytes]

theorem length_configContent : config.content.length = 44 := by
  simp [PersistentConfig.content, length_deviceBytes]

theorem length_configBytes : config.bytes.length = configSize := by
  simp [PersistentConfig.bytes, length_configContent, configSize]

end SensorSystem.Node.Config
