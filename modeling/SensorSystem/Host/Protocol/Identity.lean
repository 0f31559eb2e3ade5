import SensorSystem.Host.Protocol.MeasurementWire

/-! `identity.rs` with the service ids, the protocol version and the output rates it uses. Rates
are exact numbers of nanohertz. -/

namespace SensorSystem.Host

open Base
open Framing (maxPayloadBytes)

inductive ServiceId where
  | identity
  | measurement
  | time
  | health
  | configuration
  | lifecycle
  | diagnostics
  | commissioning
  | telemetry

def ServiceId.toByte : ServiceId → UInt8
  | identity => 1
  | measurement => 2
  | time => 3
  | health => 4
  | configuration => 5
  | lifecycle => 6
  | diagnostics => 7
  | commissioning => 8
  | telemetry => 9

def ServiceId.capabilityBit (service : ServiceId) : UInt32 :=
  1 <<< (service.toByte - 1).toUInt32

structure ProtocolVersion where
  framing : UInt8
  application : UInt8
deriving DecidableEq

def localProtocolVersion : ProtocolVersion := ⟨3, 5⟩

inductive OutputRateCode where
  | hz4000
  | hz2000
  | hz1000
  | hz500
  | hz250
  | hz125
  | hz62_5
  | hz31_25
  | hz15_625
  | hz7_8125
  | hz3_90625
deriving DecidableEq

namespace OutputRateCode

def toByte : OutputRateCode → UInt8
  | hz4000 => 0
  | hz2000 => 1
  | hz1000 => 2
  | hz500 => 3
  | hz250 => 4
  | hz125 => 5
  | hz62_5 => 6
  | hz31_25 => 7
  | hz15_625 => 8
  | hz7_8125 => 9
  | hz3_90625 => 10

def fromWire (value : UInt8) : Option OutputRateCode :=
  match value.toNat with
  | 0 => some hz4000
  | 1 => some hz2000
  | 2 => some hz1000
  | 3 => some hz500
  | 4 => some hz250
  | 5 => some hz125
  | 6 => some hz62_5
  | 7 => some hz31_25
  | 8 => some hz15_625
  | 9 => some hz7_8125
  | 10 => some hz3_90625
  | _ => none

def capabilityBit (rate : OutputRateCode) : UInt16 :=
  1 <<< rate.toByte.toUInt16

/-- `sample_rate`, in nanohertz. -/
def sampleRate : OutputRateCode → UInt64
  | hz4000 => 4000000000000
  | hz2000 => 2000000000000
  | hz1000 => 1000000000000
  | hz500 => 500000000000
  | hz250 => 250000000000
  | hz125 => 125000000000
  | hz62_5 => 62500000000
  | hz31_25 => 31250000000
  | hz15_625 => 15625000000
  | hz7_8125 => 7812500000
  | hz3_90625 => 3906250000

end OutputRateCode

/-- `SampleRate::divided_by`; `none` is any of its errors. -/
def dividedBy (rate : UInt64) (divisor : UInt32) : Option UInt64 :=
  if divisor = 0 then none
  else if rate % divisor.toUInt64 ≠ 0 then none
  else if rate / divisor.toUInt64 = 0 then none
  else some (rate / divisor.toUInt64)

def identityServiceId : UInt8 := ServiceId.identity.toByte
def getIdentityMessageId : UInt8 := 1
def getCapabilitiesMessageId : UInt8 := 2
def identityResponseBytes : Nat := 24
def capabilitiesResponseBytes : Nat := 24
def capabilitiesSchemaVersion : UInt8 := 2
def knownOutputRateMask : UInt16 := 0x07ff
def knownServiceFlags : UInt32 := 0x000001ff
def featureSampleJournal : UInt64 := 1
def featureDrdyTimestamps : UInt64 := 2
def featureAtomicConfig : UInt64 := 4
def featureTrialBootConfirmation : UInt64 := 8
def featureRemoteFirmwareUpdate : UInt64 := 16
def knownFeatureFlags : UInt64 :=
  featureSampleJournal ||| featureDrdyTimestamps ||| featureAtomicConfig |||
    featureTrialBootConfirmation ||| featureRemoteFirmwareUpdate

inductive IdentityContractError where
  | invalidPayloadLength
  | unknownResponseStatus (value : UInt8)
  | remoteError (status : ResponseStatus)
  | zeroBootEpoch
  | invalidNodeAddress
  | invalidBoardRevision
  | protocolMismatch
  | unsupportedCapabilitiesSchema
  | invalidMaxPayload
  | unknownServiceBits
  | missingIdentityService
  | unknownFeatureBits
  | invalidFeatureCombination
  | unknownOutputRateBits
  | incompleteMeasurementCapabilities
  | invalidMaxSampleChunk
deriving DecidableEq

structure FirmwareVersion where
  major : UInt8
  minor : UInt8
  patch : UInt8
deriving DecidableEq

structure NodeIdentity where
  hardwareId : HardwareId
  bootEpoch : BootEpoch
  nodeAddress : UInt8
  boardRevision : UInt8
  firmware : FirmwareVersion
  protocol : ProtocolVersion
deriving DecidableEq

/-- `HardwareId::from_bytes` of eight bytes at an offset. -/
def readHardwareId (payload : List UInt8) (offset : Nat) : HardwareId :=
  Vector.ofFn fun index => payload.getD (offset + index) 0

/-- `decode_status` and the check of its result in both decoders. -/
def identityStatus (payload : List UInt8) : Except IdentityContractError Unit :=
  match payload with
  | [] => .error .invalidPayloadLength
  | raw :: _ =>
    match ResponseStatus.tryFrom raw with
    | none => .error (.unknownResponseStatus raw)
    | some .ok => .ok ()
    | some status => .error (.remoteError status)

namespace NodeIdentity

variable (identity : NodeIdentity)

def validate : Except IdentityContractError NodeIdentity :=
  if identity.bootEpoch = 0 then .error .zeroBootEpoch
  else if ¬ (1 ≤ identity.nodeAddress ∧ identity.nodeAddress ≤ 253) then
    .error .invalidNodeAddress
  else if identity.boardRevision = 0 then .error .invalidBoardRevision
  else .ok identity

def decode (payload : List UInt8) : Except IdentityContractError NodeIdentity := do
  identityStatus payload
  if payload.length ≠ identityResponseBytes then .error .invalidPayloadLength
  else validate {
    hardwareId := readHardwareId payload 1
    bootEpoch := readU64 payload 9
    nodeAddress := payload.getD 17 0
    boardRevision := payload.getD 18 0
    firmware := ⟨payload.getD 19 0, payload.getD 20 0, payload.getD 21 0⟩
    protocol := ⟨payload.getD 22 0, payload.getD 23 0⟩ }

def requireLocalProtocol : Except IdentityContractError NodeIdentity :=
  if localProtocolVersion = identity.protocol then .ok identity else .error .protocolMismatch

end NodeIdentity

structure NodeCapabilities where
  schemaVersion : UInt8
  serviceFlags : UInt32
  featureFlags : UInt64
  maxPayloadBytes : UInt16
  journalCapacitySamples : UInt32
  outputRateMask : UInt16
  maxSampleChunkSamples : UInt16
deriving DecidableEq

namespace NodeCapabilities

variable (capabilities : NodeCapabilities)

def supportsService (service : ServiceId) : Bool :=
  capabilities.serviceFlags &&& service.capabilityBit != 0

def supportsOutputRate (rate : OutputRateCode) : Bool :=
  capabilities.outputRateMask &&& rate.capabilityBit != 0

/-- The byte count of the largest chunk is far below `usize`. -/
def chunkBytes : Nat :=
  chunkFixedBytes + capabilities.maxSampleChunkSamples.toNat * 9

def validatePayloadContract (requireUpdateFeaturePair : Bool) :
    Except IdentityContractError NodeCapabilities :=
  let measurement := capabilities.supportsService .measurement
  let trialConfirmation := capabilities.featureFlags &&& featureTrialBootConfirmation != 0
  let remoteUpdate := capabilities.featureFlags &&& featureRemoteFirmwareUpdate != 0
  if capabilities.maxPayloadBytes = 0 ∨
      capabilities.maxPayloadBytes.toNat > Framing.maxPayloadBytes then
    .error .invalidMaxPayload
  else if capabilities.serviceFlags &&& ~~~knownServiceFlags ≠ 0 then .error .unknownServiceBits
  else if ¬ capabilities.supportsService .identity then .error .missingIdentityService
  else if capabilities.featureFlags &&& ~~~knownFeatureFlags ≠ 0 then .error .unknownFeatureBits
  else if requireUpdateFeaturePair ∧ trialConfirmation ≠ remoteUpdate then
    .error .invalidFeatureCombination
  else if capabilities.outputRateMask &&& ~~~knownOutputRateMask ≠ 0 then
    .error .unknownOutputRateBits
  else if measurement ∧ (capabilities.featureFlags &&& featureSampleJournal = 0 ∨
      capabilities.journalCapacitySamples = 0 ∨ capabilities.outputRateMask = 0 ∨
      capabilities.maxSampleChunkSamples = 0) then
    .error .incompleteMeasurementCapabilities
  else if measurement ∧ (capabilities.maxSampleChunkSamples.toNat > maxWireChunkSamples ∨
      capabilities.maxSampleChunkSamples.toNat > capabilities.journalCapacitySamples.toNat ∨
      capabilities.chunkBytes > capabilities.maxPayloadBytes.toNat) then
    .error .invalidMaxSampleChunk
  else .ok capabilities

def validate : Except IdentityContractError NodeCapabilities :=
  if capabilities.schemaVersion ≠ capabilitiesSchemaVersion then
    .error .unsupportedCapabilitiesSchema
  else capabilities.validatePayloadContract true

variable (payload : List UInt8)

def decodeFields : Except IdentityContractError NodeCapabilities := do
  identityStatus payload
  if payload.length ≠ capabilitiesResponseBytes then .error .invalidPayloadLength
  else .ok {
    schemaVersion := payload.getD 1 0
    serviceFlags := readU32 payload 2
    featureFlags := readU64 payload 6
    maxPayloadBytes := readU16 payload 14
    journalCapacitySamples := readU32 payload 16
    outputRateMask := readU16 payload 20
    maxSampleChunkSamples := readU16 payload 22 }

def decode : Except IdentityContractError NodeCapabilities := do
  (← decodeFields payload).validate

/-- The decoder for the released image that is replaced by schema 2 firmware. -/
def decodeSchema1ForMigration : Except IdentityContractError NodeCapabilities := do
  let capabilities ← decodeFields payload
  if capabilities.schemaVersion ≠ 1 then .error .unsupportedCapabilitiesSchema
  else capabilities.validatePayloadContract false

end NodeCapabilities
end SensorSystem.Host
