import SensorSystem.Node.Protocol.Dispatcher
import SensorSystem.System.ControlRequests
import SensorSystem.System.FramingAgreement

/-! The host reads every response that the node writes for the identity, lifecycle, configuration
and commissioning services, with the same fields, and sees the status of every error. -/

namespace SensorSystem.System

open Base Host List Node
open Node.ApplicationDispatcher (requestPayload setError withPayload)
open Framing (take_copyPayload)

def hostFirmware (version : Wire.FirmwareVersion) : FirmwareVersion :=
  ⟨version.major, version.minor, version.patch⟩

variable (value : Wire.NodeIdentity)

def hostIdentity : NodeIdentity where
  hardwareId := value.hardwareId
  bootEpoch := value.bootEpoch
  nodeAddress := value.nodeAddress
  boardRevision := value.boardRevision
  firmware := hostFirmware value.firmware
  protocol := ⟨value.framingVersion, value.applicationVersion⟩

def hostCapabilities (value : Wire.NodeCapabilities) : NodeCapabilities where
  schemaVersion := value.schemaVersion
  serviceFlags := value.serviceFlags
  featureFlags := value.featureFlags
  maxPayloadBytes := value.maxPayloadBytes
  journalCapacitySamples := value.journalCapacitySamples
  outputRateMask := value.outputRateMask
  maxSampleChunkSamples := value.maxSampleChunkSamples

def hostResultCode : Wire.SensorRuntimeResultCode → RuntimeResultCode
  | .ok => .ok
  | .invalidOperation => .invalidOperation
  | .invalidState => .invalidState
  | .invalidArgument => .invalidArgument
  | .inProgress => .inProgress
  | .transitionFailed => .transitionFailed
  | .faulted => .faulted

def hostRuntimeState : Wire.SensorRuntimeState → RuntimeState
  | .idle => .idle
  | .recording => .recording
  | .stopping => .stopping
  | .maintenance => .maintenance
  | .faulted => .faulted

def hostProfile : Wire.ObservabilityProfile → ObservabilityProfile
  | .production => .production
  | .diagnostic => .diagnostic

def hostSensorStatus : Wire.SensorStatus → SensorStatusCode
  | .ok => .ok
  | .notInitialized => .notInitialized
  | .busy => .busy
  | .commError => .commError
  | .timeout => .timeout
  | .invalidParam => .invalidParam
  | .notSupported => .notSupported
  | .invalidDevice => .invalidDevice
  | .noData => .noData
  | .invalidSample => .invalidSample
  | .internalError => .internalError

def hostRuntimeResult (value : Wire.SensorRuntimeResult) : RuntimeResult where
  operationId := value.operationId
  code := hostResultCode value.code
  state := hostRuntimeState value.state
  observability := hostProfile value.observability
  sensorStatus := hostSensorStatus value.sensorStatus

def hostValidationCode : Wire.ConfigValidationCode → ConfigValidationCode
  | .valid => .valid
  | .unsupportedOutputRate => .unsupportedOutputRate
  | .invalidRange => .invalidRange
  | .invalidHighPassCorner => .invalidHighPassCorner
  | .invalidFilterProfile => .invalidFilterProfile
  | .invalidFifoWatermark => .invalidFifoWatermark
  | .invalidOffset => .invalidOffset

def hostConfigField : Wire.ConfigField → ConfigField
  | .none => .none
  | .outputRate => .outputRate
  | .range => .range
  | .highPassCorner => .highPassCorner
  | .filterProfile => .filterProfile
  | .fifoWatermark => .fifoWatermark
  | .offsetX => .offsetX
  | .offsetY => .offsetY
  | .offsetZ => .offsetZ

def hostOperationCode : Wire.ConfigOperationCode → ConfigOperationCode
  | .applied => .applied
  | .revisionConflict => .revisionConflict
  | .invalidConfiguration => .invalidConfiguration
  | .storageFailed => .storageFailed
  | .sensorFailed => .sensorFailed
  | .rollbackFailed => .rollbackFailed
  | .wrongMode => .wrongMode

def hostCommissioningIdentity (value : Wire.CommissioningIdentity) :
    CommissioningIdentity where
  roundNonce := value.roundNonce
  hardwareId := value.hardwareId
  boardRevision := value.boardRevision
  firmware := hostFirmware value.firmware
  protocol := ⟨value.framingVersion, value.applicationVersion⟩

def hostStatus : Wire.ResponseStatus → ResponseStatus
  | .ok => .ok
  | .malformedRequest => .malformedRequest
  | .unsupportedService => .unsupportedService
  | .unsupportedMessage => .unsupportedMessage
  | .wrongMode => .wrongMode
  | .busy => .busy
  | .conflict => .conflict
  | .invalidState => .invalidState
  | .internalError => .internalError

/-- A success response of the node. -/
inductive NodeResponse where
  | identity (value : Wire.NodeIdentity)
  | capabilities (value : Wire.NodeCapabilities)
  | lifecycle (result : Wire.SensorRuntimeResult)
  | getConfig (value : Wire.ObservedConfiguration)
  | validateConfig (value : Wire.ConfigValidationResult)
  | configOperation (result : Wire.ConfigOperationResult)
  | probeSlot (value : Wire.CommissioningIdentity)
  | assignAddress (value : Wire.AssignAddressResponse)

/-- The message that a successful encoder leaves at the front of its buffer. -/
def sent {σ : Type} [DecidableEq σ] (good : σ) (size : Nat) (encoded : σ × List UInt8) :
    Option (List UInt8) :=
  if encoded.1 = good then some (encoded.2.take size) else none

/-- The payload of a response that the node's encoder accepts. -/
def NodeResponse.encode (output : List UInt8) : NodeResponse → Option (List UInt8)
  | identity value => sent .ok Wire.identityResponseBytes
    (Wire.encodeIdentitySuccess value output)
  | capabilities value => sent .ok Wire.capabilitiesResponseBytes
    (Wire.encodeCapabilitiesSuccess value output)
  | lifecycle result => sent .ok Wire.lifecycleResponseBytes
    (Wire.encodeLifecycleResponse result output)
  | getConfig value => sent .ok Wire.getConfigResponseBytes
    (Wire.encodeGetConfigSuccess value output)
  | validateConfig value => sent .ok Wire.validateConfigResponseBytes
    (Wire.encodeValidateConfigSuccess value output)
  | configOperation result => sent .ok Wire.configOperationResponseBytes
    (Wire.encodeConfigOperationSuccess result output)
  | probeSlot value => sent .ok Wire.probeSlotResponseBytes
    (Wire.encodeProbeSlotSuccess value output)
  | assignAddress value => sent .ok Wire.assignAddressResponseBytes
    (Wire.encodeAssignAddressSuccess value output)

/-- The host accepts a payload as this response, with the same fields. -/
def NodeResponse.ReadFrom (payload : List UInt8) : NodeResponse → Prop
  | identity value => NodeIdentity.decode payload = .ok (hostIdentity value)
  | capabilities value => NodeCapabilities.decode payload = .ok (hostCapabilities value)
  | lifecycle result => decodeLifecycleResponse payload = .ok (hostRuntimeResult result)
  | getConfig value => ∃ observed, nodeObserved observed = value ∧
    decodeGetConfigResponse payload = .ok observed
  | validateConfig value => decodeValidateConfigResponse payload =
    .ok ⟨hostValidationCode value.code, hostConfigField value.field⟩
  | configOperation result => ∃ observed, nodeObserved observed = result.observed ∧
    decodeConfigOperationResponse payload = .ok ⟨result.operationId,
      hostOperationCode result.code, observed, result.effectiveSampleSeq⟩
  | probeSlot value =>
    decodeProbeSlotResponse payload = .ok (hostCommissioningIdentity value)
  | assignAddress value => decodeAssignAddressResponse payload =
    .ok ⟨value.operationId, value.hardwareId, value.nodeAddress⟩

variable (response : NodeResponse)

/-- The host reads what the node's encoder writes into any buffer. -/
def NodeResponse.Understood : Prop :=
  ∀ output payload, response.encode output = some payload → response.ReadFrom payload

/-- Every decoder of the host sees the status of an error response. -/
def StatusSeen (status : Wire.ResponseStatus) : Prop :=
  status ≠ .ok → ∀ response : Node.Framing.Frame,
    let payload := requestPayload (setError status response)
    NodeIdentity.decode payload = .error (.remoteError (hostStatus status)) ∧
      NodeCapabilities.decode payload = .error (.remoteError (hostStatus status)) ∧
      decodeLifecycleResponse payload = .error (.remoteError (hostStatus status)) ∧
      decodeGetConfigResponse payload = .error (.remote (hostStatus status)) ∧
      decodeValidateConfigResponse payload = .error (.remote (hostStatus status)) ∧
      decodeConfigOperationResponse payload = .error (.remote (hostStatus status)) ∧
      decodeProbeSlotResponse payload = .error (.remote (hostStatus status)) ∧
      decodeAssignAddressResponse payload = .error (.remote (hostStatus status))

theorem requestPayload_setError (status : Wire.ResponseStatus)
    (response : Node.Framing.Frame) :
    requestPayload (setError status response) = [status.toByte] := by
  have room : response.payload.toList.length = 512 := Vector.length_toList
  obtain ⟨byte, rest, same⟩ := exists_cons_of_length_pos (by omega :
    0 < response.payload.toList.length)
  have width : (status.toByte :: rest).length = 512 := by
    rw [← room, same]
    rfl
  have copied := take_copyPayload (Nat.le_of_eq width)
  have first := congrArg (take 1) copied
  rw [take_take, width] at first
  have buffer : overwrite response.payload.toList 0 [status.toByte] = status.toByte :: rest := by
    rw [same]
    rfl
  rw [requestPayload, setError, withPayload, buffer]
  exact first

theorem statusSeen (status : Wire.ResponseStatus) : StatusSeen status := by
  intro failed response
  rw [requestPayload_setError]
  cases status with
  | ok => exact absurd rfl failed
  | malformedRequest | unsupportedService | unsupportedMessage | wrongMode | busy | conflict
    | invalidState | internalError => exact ⟨rfl, rfl, rfl, rfl, rfl, rfl, rfl, rfl⟩

section Sent

variable {σ : Type} [DecidableEq σ] {good status : σ} {size : Nat}
  {output buffer layout payload : List UInt8} {failed : Prop} [Decidable failed]

theorem sent_guard {encoded : σ × List UInt8} (bad : failed → status ≠ good)
    (message : sent good size (if failed then (status, output) else encoded) = some payload) :
    ¬ failed ∧ sent good size encoded = some payload := by
  split at message
  · rename_i fails
    rw [sent, if_neg (bad fails)] at message
    exact nomatch message
  · exact ⟨‹_›, message⟩

theorem sent_laidOut (laidOut : LaidOut output.length buffer layout)
    (length : layout.length = size) (message : sent good size (good, buffer) = some payload) :
    payload = layout := by
  rw [sent, if_pos rfl, ← length, laidOut.take_eq] at message
  exact (Option.some.inj message).symm

end Sent

theorem understood_lifecycleResponse (result : Wire.SensorRuntimeResult) :
    (NodeResponse.lifecycle result).Understood := by
  intro output payload encodes
  obtain ⟨nonzero, later⟩ := sent_guard (by simp) encodes
  obtain ⟨room, message⟩ := sent_guard (by simp) later
  rw [Wire.lifecycleResponseBytes] at room
  obtain ⟨operationId, code, state, observability, sensorStatus⟩ := result
  simp only [writeU32_eq] at message
  obtain rfl : payload = [0] ++ u32Bytes operationId ++ [code.toByte] ++ [state.toByte] ++
      [observability.toByte] ++ [sensorStatus.toByte] := by
    refine sent_laidOut (.overwrite (.overwrite (.overwrite (.overwrite (.overwrite
      (laidOut_first rfl _ ?_) rfl ?_) rfl ?_) rfl ?_) rfl ?_) rfl ?_) rfl message
    all_goals
      simp only [length_u32Bytes, length_append, length_singleton]
      omega
  have id : readU32 ([0] ++ u32Bytes operationId ++ [code.toByte] ++ [state.toByte] ++
      [observability.toByte] ++ [sensorStatus.toByte]) 1 = operationId := readU32_eq rfl
  have accepted : ResponseStatus.tryFrom 0 = some .ok := rfl
  simp only [NodeResponse.ReadFrom, decodeLifecycleResponse, append_assoc,
    cons_append, nil_append, accepted] at id ⊢
  rw [if_neg (not_not.mpr (by rfl)), id, if_neg nonzero]
  refine bind_eq_ok.mpr ⟨hostResultCode code, by cases code <;> rfl, ?_⟩
  refine bind_eq_ok.mpr ⟨hostRuntimeState state, by cases state <;> rfl, ?_⟩
  refine bind_eq_ok.mpr ⟨hostProfile observability, by cases observability <;> rfl, ?_⟩
  exact bind_eq_ok.mpr ⟨hostSensorStatus sensorStatus, by cases sensorStatus <;> rfl, rfl⟩

theorem validate_hostIdentity {value : Wire.NodeIdentity} (valid : value.validate = .ok) :
    (hostIdentity value).validate = .ok (hostIdentity value) := by
  simp only [Wire.NodeIdentity.validate, status_guard_eq, ne_eq, reduceCtorEq,
    not_false_eq_true, and_true, not_or] at valid
  obtain ⟨epoch, ⟨host, commissioning⟩, board⟩ := valid
  have low : 1 ≤ value.nodeAddress := by
    have positive : value.nodeAddress.toNat ≠ 0 := fun zero => host (UInt8.toNat_inj.mp zero)
    exact UInt8.le_iff_toNat_le.mpr (Nat.one_le_iff_ne_zero.mpr positive)
  have high : value.nodeAddress ≤ 253 := by
    have below : value.nodeAddress.toNat < 254 := UInt8.lt_iff_toNat_lt.mp (UInt8.not_le.mp
      commissioning)
    exact UInt8.le_iff_toNat_le.mpr (Nat.le_of_lt_succ below)
  exact (if_neg epoch).trans ((if_neg (not_not.mpr ⟨low, high⟩)).trans (if_neg board))

theorem validate_hostCapabilities {value : Wire.NodeCapabilities}
    (valid : value.validate = .ok) :
    (hostCapabilities value).validate = .ok (hostCapabilities value) := by
  simp only [Wire.NodeCapabilities.validate, status_guard_eq, ne_eq, reduceCtorEq,
    not_false_eq_true, and_true] at valid
  obtain ⟨schema, payload, services, identity, features, pair, rates, measurement, chunk⟩ := valid
  refine (if_neg schema).trans ?_
  refine (if_neg payload).trans <| (if_neg services).trans <| (if_neg ?_).trans <|
    (if_neg features).trans <| (if_neg ?_).trans <| (if_neg rates).trans <|
    (if_neg measurement).trans <| (if_neg chunk)
  · exact fun missing => identity (Bool.not_eq_true' _ ▸ Bool.eq_false_iff.mpr missing)
  · rintro ⟨-, differ⟩
    exact pair differ

theorem understood_identity : (NodeResponse.identity value).Understood := by
  intro output payload encodes
  obtain ⟨valid, later⟩ := sent_guard (by simp) encodes
  obtain ⟨room, message⟩ := sent_guard (by simp) later
  rw [Wire.identityResponseBytes] at room
  simp only [writeU64_eq] at message
  obtain rfl : payload = [0] ++ value.hardwareId.toList ++ u64Bytes value.bootEpoch ++
      [value.nodeAddress] ++ [value.boardRevision] ++ [value.firmware.major] ++
      [value.firmware.minor] ++ [value.firmware.patch] ++ [value.framingVersion] ++
      [value.applicationVersion] := by
    refine sent_laidOut (.overwrite (.overwrite (.overwrite (.overwrite (.overwrite (.overwrite
      (.overwrite (.overwrite (.overwrite (laidOut_first rfl _ ?_) rfl ?_) ?_ ?_) ?_ ?_) ?_ ?_)
      ?_ ?_) ?_ ?_) ?_ ?_) ?_ ?_) ?_ ?_) ?_ message
    all_goals
      simp only [length_u64Bytes, length_append, length_singleton,
        Vector.length_toList, Wire.identityResponseBytes]
    all_goals omega
  refine check_eq_ok.mpr ⟨rfl, (if_neg (not_not.mpr (by simp [identityResponseBytes]))).trans
    ?_⟩
  refine Eq.trans (congrArg NodeIdentity.validate ?_) (validate_hostIdentity
    (not_not.mp valid))
  rw [NodeIdentity.mk.injEq]
  refine ⟨readBytes_eq (by simp [slice_cons_of_pos, hostIdentity]),
    readU64_eq (by simp [slice_cons_of_pos, hostIdentity]), ?_, ?_, ?_, ?_⟩
  all_goals simp [getD_eq_getElem?_getD, hostIdentity, hostFirmware]

theorem understood_capabilities (value : Wire.NodeCapabilities) :
    (NodeResponse.capabilities value).Understood := by
  intro output payload encodes
  obtain ⟨valid, later⟩ := sent_guard (by simp) encodes
  obtain ⟨room, message⟩ := sent_guard (by simp) later
  rw [Wire.capabilitiesResponseBytes] at room
  simp only [writeU64_eq, writeU32_eq, writeU16_eq] at message
  obtain rfl : payload = [0] ++ [value.schemaVersion] ++ u32Bytes value.serviceFlags ++
      u64Bytes value.featureFlags ++ u16Bytes value.maxPayloadBytes ++
      u32Bytes value.journalCapacitySamples ++ u16Bytes value.outputRateMask ++
      u16Bytes value.maxSampleChunkSamples := by
    refine sent_laidOut (.overwrite (.overwrite (.overwrite (.overwrite (.overwrite (.overwrite
      (.overwrite (laidOut_first rfl _ ?_) rfl ?_) rfl ?_) rfl ?_) rfl ?_) rfl ?_) rfl ?_) rfl ?_)
      rfl message
    all_goals
      simp only [length_u64Bytes, length_u32Bytes, length_u16Bytes, length_append,
        length_singleton]
      omega
  refine bind_eq_ok.mpr ⟨hostCapabilities value, ?_, validate_hostCapabilities (not_not.mp valid)⟩
  refine check_eq_ok.mpr ⟨rfl, (if_neg (not_not.mpr (by rfl))).trans (congrArg Except.ok ?_)⟩
  rw [NodeCapabilities.mk.injEq]
  exact ⟨rfl, readU32_eq rfl, readU64_eq rfl, readU16_eq rfl, readU32_eq rfl, readU16_eq rfl,
    readU16_eq rfl⟩

theorem understood_validateConfig (value : Wire.ConfigValidationResult) :
    (NodeResponse.validateConfig value).Understood := by
  intro output payload encodes
  obtain ⟨room, message⟩ := sent_guard (by simp) encodes
  rw [Wire.validateConfigResponseBytes] at room
  obtain ⟨code, field⟩ := value
  obtain rfl : payload = [0] ++ [code.toByte] ++ [field.toByte] := by
    refine sent_laidOut (.overwrite (.overwrite (laidOut_first rfl _ ?_) rfl ?_) rfl ?_) rfl
      message
    all_goals
      simp only [length_append, length_singleton]
      omega
  refine check_eq_ok.mpr ⟨rfl, ?_⟩
  refine bind_eq_ok.mpr ⟨hostValidationCode code, by cases code <;> rfl, ?_⟩
  exact bind_eq_ok.mpr ⟨hostConfigField field, by cases field <;> rfl, rfl⟩

theorem understood_probeSlot (value : Wire.CommissioningIdentity) :
    (NodeResponse.probeSlot value).Understood := by
  intro output payload encodes
  obtain ⟨nonce, later⟩ := sent_guard (by simp) encodes
  obtain ⟨board, later⟩ := sent_guard (by simp) later
  obtain ⟨room, message⟩ := sent_guard (by simp) later
  rw [Wire.probeSlotResponseBytes] at room
  simp only [writeU64_eq] at message
  obtain rfl : payload = [0] ++ u64Bytes value.roundNonce ++ value.hardwareId.toList ++
      [value.boardRevision] ++ [value.firmware.major] ++ [value.firmware.minor] ++
      [value.firmware.patch] ++ [value.framingVersion] ++ [value.applicationVersion] := by
    refine sent_laidOut (.overwrite (.overwrite (.overwrite (.overwrite (.overwrite (.overwrite
      (.overwrite (.overwrite (laidOut_first rfl _ ?_) rfl ?_) rfl ?_) ?_ ?_) ?_ ?_)
      ?_ ?_) ?_ ?_) ?_ ?_) ?_ ?_) ?_ message
    all_goals
      simp only [length_u64Bytes, length_append, length_singleton,
        Vector.length_toList, Wire.probeSlotResponseBytes]
    all_goals omega
  refine check_eq_ok.mpr ⟨?_, ?_⟩
  · refine (if_neg (not_not.mpr ?_)).trans rfl
    simp [probeSlotResponseBytes]
  have nonceRead : readU64 ([0] ++ u64Bytes value.roundNonce ++ value.hardwareId.toList ++
      [value.boardRevision] ++ [value.firmware.major] ++ [value.firmware.minor] ++
      [value.firmware.patch] ++ [value.framingVersion] ++ [value.applicationVersion]) 1 =
      value.roundNonce := by simp
  rw [nonceRead, if_neg nonce]
  refine (if_neg ?_).trans (congrArg Except.ok ?_)
  · simpa [getD_eq_getElem?_getD] using board
  rw [CommissioningIdentity.mk.injEq]
  refine ⟨rfl, readBytes_eq (by simp [slice_cons_of_pos, hostCommissioningIdentity]),
    ?_, ?_, ?_⟩
  all_goals simp [getD_eq_getElem?_getD, hostCommissioningIdentity, hostFirmware]

theorem understood_assignAddress (value : Wire.AssignAddressResponse) :
    (NodeResponse.assignAddress value).Understood := by
  intro output payload encodes
  obtain ⟨nonzero, later⟩ := sent_guard (by simp) encodes
  obtain ⟨address, later⟩ := sent_guard (by simp) later
  obtain ⟨room, message⟩ := sent_guard (by simp) later
  rw [Wire.assignAddressResponseBytes] at room
  simp only [writeU32_eq] at message
  obtain rfl : payload = [0] ++ u32Bytes value.operationId ++ value.hardwareId.toList ++
      [value.nodeAddress] := by
    refine sent_laidOut (.overwrite (.overwrite (.overwrite (laidOut_first rfl _ ?_) rfl ?_)
      rfl ?_) ?_ ?_) ?_ message
    all_goals
      simp only [length_u32Bytes, length_append, length_singleton,
        Vector.length_toList, Wire.assignAddressResponseBytes]
    all_goals omega
  have id : readU32 ([0] ++ u32Bytes value.operationId ++ value.hardwareId.toList ++
      [value.nodeAddress]) 1 = value.operationId := by simp
  have last : ([0] ++ u32Bytes value.operationId ++ value.hardwareId.toList ++
      [value.nodeAddress]).getD 13 0 = value.nodeAddress := by
    simp [getD_eq_getElem?_getD]
  have hardware : readHardwareId ([0] ++ u32Bytes value.operationId ++
      value.hardwareId.toList ++ [value.nodeAddress]) 5 = value.hardwareId :=
    readBytes_eq (by simp [slice_cons_of_pos])
  have assignable : 1 ≤ value.nodeAddress ∧ value.nodeAddress ≤ 253 := by
    rwa [Bool.not_eq_true', Bool.not_eq_false, Wire.isAssignableNodeAddress,
      Bool.and_eq_true, decide_eq_true_eq, decide_eq_true_eq] at address
  refine check_eq_ok.mpr ⟨?_, ?_⟩
  · refine (if_neg (not_not.mpr ?_)).trans rfl
    simp [assignAddressResponseBytes]
  · rw [id, last, hardware]
    refine check_eq_ok.mpr ⟨?_, rfl⟩
    exact (if_neg nonzero).trans ((if_neg (by decide)).trans (if_neg (not_not.mpr assignable)))

theorem exists_outputRate {value : UInt8} (known : Wire.knownOutputRate value = true) :
    ∃ rate : OutputRateCode, rate.toByte = value := by
  have listed : ∀ code : Fin 11,
      (OutputRateCode.fromWire (UInt8.ofNat code)).map (·.toByte) =
        some (UInt8.ofNat code) := by decide
  have bound : value.toNat ≤ 10 := of_decide_eq_true known
  obtain ⟨rate, -, same⟩ := Option.map_eq_some_iff.mp (listed ⟨value.toNat, by omega⟩)
  exact ⟨rate, same.trans (UInt8.ofNat_toNat)⟩

theorem exists_filterProfile {value : UInt8} (known : ¬ value > 2) :
    ∃ profile : DecimationFilterProfile, profile.toByte = value := by
  have listed : ∀ code : Fin 3,
      (DecimationFilterProfile.fromWire (UInt8.ofNat code)).map (·.toByte) =
        some (UInt8.ofNat code) := by decide
  have bound : value.toNat ≤ 2 := UInt8.le_iff_toNat_le.mp (UInt8.not_lt.mp known)
  obtain ⟨profile, -, same⟩ := Option.map_eq_some_iff.mp (listed ⟨value.toNat, by omega⟩)
  exact ⟨profile, same.trans (UInt8.ofNat_toNat)⟩

theorem exists_hostConfiguration {value : Wire.MeasurementConfiguration}
    (valid : value.validate = .ok) : ∃ host : MeasurementConfiguration,
      host.validate = .ok host ∧ nodeConfiguration host = value := by
  simp only [Wire.MeasurementConfiguration.validate, status_guard_eq, ne_eq, reduceCtorEq,
    not_false_eq_true, and_true] at valid
  obtain ⟨rate, range, corner, profile, inside⟩ := valid
  obtain ⟨rate, sameRate⟩ := exists_outputRate (Bool.not_eq_false _ ▸
    (Bool.not_eq_true' _ ▸ rate : ¬ _ = false))
  obtain ⟨profile, sameProfile⟩ := exists_filterProfile profile
  refine ⟨⟨rate, value.rangeG, value.highPassCorner, profile, value.fifoWatermark,
    value.offsetX, value.offsetY, value.offsetZ⟩, ?_, ?_⟩
  · have known : value.rangeG = 2 ∨ value.rangeG = 4 ∨ value.rangeG = 8 := by tauto
    simp only [not_or, gt_iff_lt, UInt8.not_lt, not_not] at inside
    have watermark : ¬ (¬ (3 ≤ value.fifoWatermark ∧ value.fifoWatermark ≤ 96) ∨
        value.fifoWatermark % 3 ≠ 0) := by tauto
    exact (if_neg (not_not.mpr known)).trans ((if_neg corner).trans (if_neg watermark))
  · rw [nodeConfiguration, sameRate, sameProfile]

/-- Half of an output rate is the rate of the register before it. -/
theorem dividedBy_of_ratesMatch {rate odr : OutputRateCode} {factor : UInt8}
    (consistent : Wire.ratesMatch rate.toByte odr.toByte factor = true) :
    dividedBy odr.sampleRate factor.toUInt32 = some rate.sampleRate := by
  rw [Wire.ratesMatch, Bool.and_eq_true, Bool.and_eq_true, decide_eq_true_eq] at consistent
  obtain ⟨⟨rfl, positive⟩, before⟩ := consistent
  have register := And.intro (of_decide_eq_true positive) (of_decide_eq_true before)
  cases rate <;> cases odr <;> first | rfl | exact absurd register (by decide)

theorem exists_hostObserved {value : Wire.ObservedConfiguration}
    (valid : value.validate = .ok) : ∃ host : ObservedConfiguration,
      host.validate = .ok host ∧ nodeObserved host = value := by
  rw [Wire.ObservedConfiguration.validate] at valid
  split at valid
  · rename_i invalid
    exact absurd valid invalid
  rename_i desired
  simp only [status_guard_eq, ne_eq, reduceCtorEq, not_false_eq_true, and_true] at valid
  obtain ⟨revision, odr, decimation, consistent⟩ := valid
  obtain ⟨host, hostValid, sameDesired⟩ := exists_hostConfiguration (not_not.mp desired)
  obtain ⟨register, sameRegister⟩ := exists_outputRate (Bool.not_eq_false _ ▸
    (Bool.not_eq_true' _ ▸ odr : ¬ _ = false))
  refine ⟨⟨value.revision, host, register, value.decimationFactor⟩, ?_, ?_⟩
  · have matching : Wire.ratesMatch host.outputRate.toByte register.toByte
        value.decimationFactor = true := by
      rw [Bool.not_eq_true', Bool.not_eq_false, ← sameDesired, ← sameRegister] at consistent
      exact consistent
    refine bind_eq_ok.mpr ⟨host, hostValid, ?_⟩
    exact (if_neg revision).trans ((if_neg decimation).trans
      (if_neg (not_not.mpr (dividedBy_of_ratesMatch matching))))
  · rw [nodeObserved, sameDesired, sameRegister]

/-- The eighteen bytes of an observed configuration. -/
def observedLayout (value : ObservedConfiguration) : List UInt8 :=
  u32Bytes value.revision ++ configurationBytes value.desired ++
    [value.sensorOdr.toByte] ++ [value.decimationFactor]

@[simp] theorem length_observedLayout (value : ObservedConfiguration) :
    (observedLayout value).length = 18 := by
  simp [observedLayout]

theorem decodeObserved_observedLayout {value : ObservedConfiguration}
    (valid : value.validate = .ok value) :
    decodeObserved (observedLayout value) = .ok value := by
  obtain ⟨checked, desired, -⟩ := bind_eq_ok.mp valid
  obtain rfl := MeasurementConfiguration.validate_eq_ok desired
  refine (if_neg (not_not.mpr (by simp [observedConfigBytes]))).trans ?_
  refine bind_eq_ok.mpr ⟨value.desired, ?_, ?_⟩
  · have held : slice (observedLayout value) 4 12 = configurationBytes value.desired := by
      simp [observedLayout]
    rw [held]
    exact decodeConfiguration_configurationBytes desired
  have revision : readU32 (observedLayout value) 0 = value.revision := by
    simp [observedLayout]
  have decimation : (observedLayout value).getD 17 0 = value.decimationFactor := by
    simp [observedLayout, getD_eq_getElem?_getD]
  refine bind_eq_ok.mpr ⟨value.sensorOdr,
    congrArg (knownCode · _) (OutputRateCode.fromWire_toByte value.sensorOdr), ?_⟩
  rw [revision, decimation]
  exact valid

section Writing

variable {size offset : Nat} {output written : List UInt8}

theorem laidOut_encodeConfiguration {host : MeasurementConfiguration}
    (laidOut : LaidOut size output written) (next : offset = written.length)
    (fits : offset + 12 ≤ size) (valid : (nodeConfiguration host).validate = .ok) :
    ∃ buffer, Wire.encodeConfiguration (nodeConfiguration host) output offset =
      (.ok, buffer) ∧ LaidOut size buffer (written ++ configurationBytes host) := by
  have room : ¬ output.length < offset + Wire.configurationValueBytes := by
    rw [laidOut.length_eq, Wire.configurationValueBytes]
    omega
  refine ⟨_, (if_neg (not_not.mpr valid)).trans (if_neg room), ?_⟩
  subst next
  have layout : written ++ configurationBytes host = written ++
      [configurationSchemaVersion] ++ [host.outputRate.toByte] ++ [host.rangeG] ++
      [host.highPassCorner] ++ [host.filterProfile.toByte] ++ [host.fifoWatermark] ++
      u16Bytes host.offsetX.toUInt16 ++ u16Bytes host.offsetY.toUInt16 ++
      u16Bytes host.offsetZ.toUInt16 := by
    simp [configurationBytes, i16Bytes]
  rw [layout]
  simp only [writeU16_eq]
  refine .overwrite (.overwrite (.overwrite (.overwrite (.overwrite (.overwrite (.overwrite
    (.overwrite (.overwrite laidOut rfl ?_) ?_ ?_) ?_ ?_) ?_ ?_) ?_ ?_) ?_ ?_) ?_ ?_) ?_ ?_) ?_ ?_
  all_goals
    simp only [length_u16Bytes, length_append, length_singleton]
  all_goals omega

theorem laidOut_encodeObserved {host : ObservedConfiguration}
    (laidOut : LaidOut size output written) (next : offset = written.length)
    (fits : offset + 18 ≤ size) (valid : (nodeObserved host).validate = .ok) :
    ∃ buffer, Wire.encodeObserved (nodeObserved host) output offset = (.ok, buffer) ∧
      LaidOut size buffer (written ++ observedLayout host) := by
  have desired : (nodeConfiguration host.desired).validate = .ok := by
    by_contra invalid
    exact invalid ((if_pos invalid).symm.trans valid)
  have room : ¬ output.length < offset + Wire.observedConfigBytes := by
    rw [laidOut.length_eq, Wire.observedConfigBytes]
    omega
  have revision : LaidOut size (overwrite output offset (u32Bytes host.revision))
      (written ++ u32Bytes host.revision) :=
    laidOut.overwrite next (by
      rw [length_u32Bytes]
      omega)
  have behind : offset + 4 = (written ++ u32Bytes host.revision).length := by
    rw [length_append, length_u32Bytes, next]
  obtain ⟨buffer, encoded, held⟩ :=
    laidOut_encodeConfiguration revision behind (by omega) desired
  subst next
  refine ⟨overwrite (overwrite buffer (written.length + 16) [host.sensorOdr.toByte])
    (written.length + 17) [host.decimationFactor], ?_, ?_⟩
  · refine (if_neg (not_not.mpr valid)).trans ((if_neg room).trans ?_)
    simp only [writeU32_eq]
    have same : Wire.encodeConfiguration (nodeObserved host).desired
        (overwrite output written.length (u32Bytes (nodeObserved host).revision))
        (written.length + 4) = (.ok, buffer) := encoded
    rw [same]
    rfl
  have layout : written ++ observedLayout host = written ++ u32Bytes host.revision ++
      configurationBytes host.desired ++ [host.sensorOdr.toByte] ++
      [host.decimationFactor] := by
    simp [observedLayout]
  rw [layout]
  refine .overwrite (.overwrite held ?_ ?_) ?_ ?_
  all_goals
    simp only [length_append, length_u32Bytes, length_configurationBytes,
      length_singleton]
  all_goals omega

end Writing

theorem configurationSuccess_cons {rest : List UInt8} {expected : Nat}
    (length : (0 :: rest).length = expected) :
    configurationSuccess (0 :: rest) expected = .ok () :=
  if_neg (not_not.mpr length)

theorem understood_getConfig (value : Wire.ObservedConfiguration) :
    (NodeResponse.getConfig value).Understood := by
  intro output payload encodes
  obtain ⟨room, message⟩ := sent_guard (by simp) encodes
  rw [Wire.getConfigResponseBytes] at room
  have valid : value.validate = .ok := by
    by_contra invalid
    obtain ⟨accepted, -⟩ := sent_guard (fun fails => fails) message
    exact accepted invalid
  obtain ⟨host, hostValid, rfl⟩ := exists_hostObserved valid
  have front : LaidOut output.length (overwrite output 0 [Wire.ResponseStatus.ok.toByte])
      [0] := laidOut_first rfl _ (by
    rw [length_singleton]
    omega)
  obtain ⟨buffer, encoded, held⟩ :=
    laidOut_encodeObserved front (show 1 = _ from rfl) (by omega) valid
  rw [encoded] at message
  obtain rfl := sent_laidOut held (by simp [Wire.getConfigResponseBytes]) message
  refine ⟨host, rfl, check_eq_ok.mpr ⟨configurationSuccess_cons ?_,
    decodeObserved_observedLayout hostValid⟩⟩
  simp [getConfigResponseBytes, observedConfigBytes]

theorem understood_configOperation (result : Wire.ConfigOperationResult) :
    (NodeResponse.configOperation result).Understood := by
  intro output payload encodes
  obtain ⟨nonzero, later⟩ := sent_guard (by simp) encodes
  obtain ⟨room, message⟩ := sent_guard (by simp) later
  rw [Wire.configOperationResponseBytes] at room
  obtain ⟨operationId, code, observed, sequence⟩ := result
  have front : LaidOut output.length (overwrite (overwrite (overwrite output 0
      [Wire.ResponseStatus.ok.toByte]) 1 (Wire.writeU32 operationId)) 5 [code.toByte])
      ([0] ++ u32Bytes operationId ++ [code.toByte]) := by
    rw [writeU32_eq]
    refine .overwrite (.overwrite (laidOut_first rfl _ ?_) rfl ?_) rfl ?_
    all_goals
      simp only [length_u32Bytes, length_singleton]
      omega
  by_cases valid : observed.validate = .ok
  · obtain ⟨host, hostValid, rfl⟩ := exists_hostObserved valid
    obtain ⟨buffer, encoded, held⟩ :=
      laidOut_encodeObserved front (show 6 = _ from rfl) (by omega) valid
    simp only [encoded] at message
    have last : LaidOut output.length (overwrite buffer 24 (Wire.writeU64 sequence))
        ([0] ++ u32Bytes operationId ++ [code.toByte] ++ observedLayout host ++
          u64Bytes sequence) := by
      rw [writeU64_eq]
      refine held.overwrite (by simp) ?_
      rw [length_u64Bytes]
      omega
    obtain rfl := sent_laidOut last (by simp [Wire.configOperationResponseBytes]) message
    have id : readU32 ([0] ++ u32Bytes operationId ++ [code.toByte] ++ observedLayout host ++
        u64Bytes sequence) 1 = operationId := by simp
    have configuration : slice ([0] ++ u32Bytes operationId ++ [code.toByte] ++
        observedLayout host ++ u64Bytes sequence) 6 18 = observedLayout host := by
      simp [slice_cons_of_pos]
    have effective : readU64 ([0] ++ u32Bytes operationId ++ [code.toByte] ++
        observedLayout host ++ u64Bytes sequence) 24 = sequence := by simp
    refine ⟨host, rfl, check_eq_ok.mpr ⟨configurationSuccess_cons ?_, ?_⟩⟩
    · simp [configOperationResponseBytes, observedConfigBytes]
    · rw [configuration, id, effective]
      refine bind_eq_ok.mpr ⟨hostOperationCode code, by cases code <;> rfl, ?_⟩
      exact bind_eq_ok.mpr ⟨host, decodeObserved_observedLayout hostValid, if_neg nonzero⟩
  · have refused : Wire.encodeObserved observed (overwrite (overwrite (overwrite output 0
        [Wire.ResponseStatus.ok.toByte]) 1 (Wire.writeU32 operationId)) 5
        [code.toByte]) 6 = (observed.validate, _) := if_pos valid
    simp only [refused] at message
    rw [sent, if_neg valid] at message
    exact nomatch message

theorem NodeResponse.understood : response.Understood := by
  cases response with
  | identity value => exact understood_identity value
  | capabilities value => exact understood_capabilities value
  | lifecycle result => exact understood_lifecycleResponse result
  | getConfig value => exact understood_getConfig value
  | validateConfig value => exact understood_validateConfig value
  | configOperation result => exact understood_configOperation result
  | probeSlot value => exact understood_probeSlot value
  | assignAddress value => exact understood_assignAddress value

/-- Requests, success responses and errors of the four services are read as they were meant. -/
theorem controlFormat_agrees (request : HostRequest) (response : NodeResponse)
    (status : Node.Wire.ResponseStatus) :
    Understood request ∧ response.Understood ∧ StatusSeen status :=
  ⟨understood request, response.understood, statusSeen status⟩

/-- A start command that asks for the diagnostic profile is sent, and is another command for the
node. -/
theorem profile_notCarried : ∃ (command : Host.RuntimeCommand) (message : UInt8)
    (payload : List UInt8) (received : Node.Wire.SensorRuntimeCommand),
    (HostRequest.lifecycle command).encode = some (Host.lifecycleServiceId, message, payload) ∧
      NodeRequest.decode Host.lifecycleServiceId message payload = some (.runtime received) ∧
      command.operation = .start ∧ received.operation = .start ∧
      received.requestedProfile ≠ nodeProfile command.requestedProfile :=
  ⟨⟨1, .start, .diagnostic⟩, 2, [1, 0, 0, 0], ⟨1, .start, .production⟩, by decide +kernel⟩

end SensorSystem.System
