import SensorSystem.Node.Protocol.Measurement

/-! `application.h`, `identity.cpp` and `time.cpp`: the two services that the dispatcher answers
itself. As in the measurement codec, an encoder gets the whole output buffer and a null output is
an empty one. -/

namespace SensorSystem.Node.Wire

open Base
open Framing (hostAddress)

/-- The services of a node, by their number on the wire. -/
inductive ServiceId where
  | identity
  | measurement
  | time
  | health
  | configuration
  | lifecycle
  | diagnostics
  | commissioning
  | telemetry

def ServiceId.toByte : ServiceId → UInt8
  | identity => 1
  | measurement => 2
  | time => 3
  | health => 4
  | configuration => 5
  | lifecycle => 6
  | diagnostics => 7
  | commissioning => 8
  | telemetry => 9

/-- The bit of a service in `serviceFlags`. -/
def serviceCapabilityBit (service : ServiceId) : UInt32 :=
  1 <<< (service.toByte - 1).toUInt32

def commissioningAddress : UInt8 := 254
def getIdentityMessageId : UInt8 := 1
def getCapabilitiesMessageId : UInt8 := 2
def identityResponseBytes : Nat := 24
def capabilitiesResponseBytes : Nat := 24
def capabilitiesSchemaVersion : UInt8 := 2
/-- One bit for each of the eleven output rates. -/
def knownOutputRateMask : UInt16 := 0x07ff
def knownServiceFlags : UInt32 := 0x000001ff
def featureSampleJournal : UInt64 := 1
def featureDrdyTimestamps : UInt64 := 2
def featureAtomicConfig : UInt64 := 4
def featureTrialBootConfirmation : UInt64 := 8
def featureRemoteFirmwareUpdate : UInt64 := 16
def knownFeatureFlags : UInt64 :=
  featureSampleJournal ||| featureDrdyTimestamps ||| featureAtomicConfig |||
    featureTrialBootConfirmation ||| featureRemoteFirmwareUpdate

/-- The firmware version that a node reports. -/
structure FirmwareVersion where
  major : UInt8 := 0
  minor : UInt8 := 0
  patch : UInt8 := 0

/-- Who a node is. Its boot epoch names the life of its stream. -/
structure NodeIdentity where
  hardwareId : Vector UInt8 8 := Vector.replicate 8 0
  bootEpoch : UInt64 := 0
  nodeAddress : UInt8 := 0
  boardRevision : UInt8 := 0
  firmware : FirmwareVersion := {}
  framingVersion : UInt8 := Framing.framingVersion
  applicationVersion : UInt8 := 5

/-- What a node can do, and the limits that a host has to keep. -/
structure NodeCapabilities where
  schemaVersion : UInt8 := capabilitiesSchemaVersion
  serviceFlags : UInt32 := 0
  featureFlags : UInt64 := 0
  maxPayloadBytes : UInt16 := 0
  journalCapacitySamples : UInt32 := 0
  outputRateMask : UInt16 := 0
  maxSampleChunkSamples : UInt16 := 0

variable (capabilities : NodeCapabilities)

def NodeCapabilities.supportsService (service : ServiceId) : Bool :=
  capabilities.serviceFlags &&& serviceCapabilityBit service != 0

/-- The outcome of a codec, with the first check that fails. -/
inductive IdentityCodecStatus where
  | ok
  | outputTooSmall
  | zeroBootEpoch
  | invalidNodeAddress
  | invalidBoardRevision
  | unsupportedCapabilitiesSchema
  | invalidMaxPayload
  | unknownServiceBits
  | missingIdentityService
  | unknownFeatureBits
  | invalidFeatureCombination
  | unknownOutputRateBits
  | incompleteMeasurementCapabilities
  | invalidMaxSampleChunk
deriving DecidableEq

variable (identity : NodeIdentity)

/-- The epoch and the board revision are not zero, the address is a node's own. -/
def NodeIdentity.validate : IdentityCodecStatus :=
  if identity.bootEpoch = 0 then .zeroBootEpoch
  else if identity.nodeAddress = hostAddress ∨ identity.nodeAddress ≥ commissioningAddress then
    .invalidNodeAddress
  else if identity.boardRevision = 0 then .invalidBoardRevision
  else .ok

/-- A node that measures has a journal and rates, and its chunk fits a payload. -/
def NodeCapabilities.validate : IdentityCodecStatus :=
  let chunkBytes := chunkFixedBytes + capabilities.maxSampleChunkSamples.toNat * xyz24SampleBytes
  if capabilities.schemaVersion ≠ capabilitiesSchemaVersion then .unsupportedCapabilitiesSchema
  else if capabilities.maxPayloadBytes = 0 ∨
      capabilities.maxPayloadBytes.toNat > Framing.maxPayloadBytes then .invalidMaxPayload
  else if capabilities.serviceFlags &&& ~~~knownServiceFlags ≠ 0 then .unknownServiceBits
  else if !capabilities.supportsService .identity then .missingIdentityService
  else if capabilities.featureFlags &&& ~~~knownFeatureFlags ≠ 0 then .unknownFeatureBits
  else if (capabilities.featureFlags &&& featureTrialBootConfirmation != 0) ≠
      (capabilities.featureFlags &&& featureRemoteFirmwareUpdate != 0) then
    .invalidFeatureCombination
  else if capabilities.outputRateMask &&& ~~~knownOutputRateMask ≠ 0 then .unknownOutputRateBits
  else if capabilities.supportsService .measurement ∧
      (capabilities.featureFlags &&& featureSampleJournal = 0 ∨
        capabilities.journalCapacitySamples = 0 ∨ capabilities.outputRateMask = 0 ∨
        capabilities.maxSampleChunkSamples = 0) then .incompleteMeasurementCapabilities
  else if capabilities.supportsService .measurement ∧
      (capabilities.maxSampleChunkSamples.toNat > maxWireChunkSamples ∨
        capabilities.maxSampleChunkSamples.toNat > capabilities.journalCapacitySamples.toNat ∨
        chunkBytes > capabilities.maxPayloadBytes.toNat) then .invalidMaxSampleChunk
  else .ok

/-- `encode_identity_success`: an identity that fails its checks writes nothing. -/
def encodeIdentitySuccess (output : List UInt8) : IdentityCodecStatus × List UInt8 :=
  if identity.validate ≠ .ok then (identity.validate, output)
  else if output.length < identityResponseBytes then (.outputTooSmall, output)
  else
    let output := overwrite output 0 [ResponseStatus.ok.toByte]
    let output := overwrite output 1 identity.hardwareId.toList
    let output := overwrite output 9 (writeU64 identity.bootEpoch)
    let output := overwrite output 17 [identity.nodeAddress]
    let output := overwrite output 18 [identity.boardRevision]
    let output := overwrite output 19 [identity.firmware.major]
    let output := overwrite output 20 [identity.firmware.minor]
    let output := overwrite output 21 [identity.firmware.patch]
    let output := overwrite output 22 [identity.framingVersion]
    (.ok, overwrite output 23 [identity.applicationVersion])

def encodeCapabilitiesSuccess (output : List UInt8) : IdentityCodecStatus × List UInt8 :=
  if capabilities.validate ≠ .ok then (capabilities.validate, output)
  else if output.length < capabilitiesResponseBytes then (.outputTooSmall, output)
  else
    let output := overwrite output 0 [ResponseStatus.ok.toByte]
    let output := overwrite output 1 [capabilities.schemaVersion]
    let output := overwrite output 2 (writeU32 capabilities.serviceFlags)
    let output := overwrite output 6 (writeU64 capabilities.featureFlags)
    let output := overwrite output 14 (writeU16 capabilities.maxPayloadBytes)
    let output := overwrite output 16 (writeU32 capabilities.journalCapacitySamples)
    let output := overwrite output 20 (writeU16 capabilities.outputRateMask)
    (.ok, overwrite output 22 (writeU16 capabilities.maxSampleChunkSamples))

def observeClockMessageId : UInt8 := 1
def observeClockRequestBytes : Nat := 0
def observeClockResponseBytes : Nat := 25

/-- The node's times of a clock observation. -/
structure TimeExchangeResponse where
  bootEpoch : UInt64 := 0
  nodeReceiveUs : UInt64 := 0
  nodeSendUs : UInt64 := 0

/-- The outcome of the time codec. -/
inductive TimeCodecStatus where
  | ok
  | invalidRequestLength
  | outputTooSmall
  | zeroBootEpoch
  | nodeClockRegressed
deriving DecidableEq

def validateTimeRequest (payloadSize : Nat) : TimeCodecStatus :=
  if payloadSize = observeClockRequestBytes then .ok else .invalidRequestLength

/-- The response to a clock observation, whose times do not fall. -/
def encodeTimeSuccess (response : TimeExchangeResponse) (output : List UInt8) :
    TimeCodecStatus × List UInt8 :=
  if output.length < observeClockResponseBytes then (.outputTooSmall, output)
  else if response.bootEpoch = 0 then (.zeroBootEpoch, output)
  else if response.nodeSendUs < response.nodeReceiveUs then (.nodeClockRegressed, output)
  else
    let output := overwrite output 0 [ResponseStatus.ok.toByte]
    let output := overwrite output 1 (writeU64 response.bootEpoch)
    let output := overwrite output 9 (writeU64 response.nodeReceiveUs)
    (.ok, overwrite output 17 (writeU64 response.nodeSendUs))

/-- `stamp_time_transmit` puts the time of the transmission into an encoded response. -/
def stampTimeTransmit (payload : List UInt8) (payloadSize : Nat) (nodeSendUs : UInt64) :
    TimeCodecStatus × List UInt8 :=
  if payloadSize ≠ observeClockResponseBytes then (.outputTooSmall, payload)
  else if nodeSendUs < readU64 payload 9 then (.nodeClockRegressed, payload)
  else (.ok, overwrite payload 17 (writeU64 nodeSendUs))

end SensorSystem.Node.Wire
