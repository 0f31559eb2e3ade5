import SensorSystem.Host.Channel.ControlOperations
import SensorSystem.Node.Protocol.ControlCodecs
import SensorSystem.System.MeasurementAgreement

/-! Identity, lifecycle, configuration and commissioning. The node reads every request that the
host writes, with the same fields. The profile of a lifecycle command travels with one operation
only. -/

namespace SensorSystem.System

open Base Host Node

def nodeConfiguration (value : MeasurementConfiguration) :
    Wire.MeasurementConfiguration where
  outputRate := value.outputRate.toByte
  rangeG := value.rangeG
  highPassCorner := value.highPassCorner
  filterProfile := value.filterProfile.toByte
  fifoWatermark := value.fifoWatermark
  offsetX := value.offsetX
  offsetY := value.offsetY
  offsetZ := value.offsetZ

def nodeObserved (value : ObservedConfiguration) : Wire.ObservedConfiguration where
  revision := value.revision
  desired := nodeConfiguration value.desired
  sensorOdrRegister := value.sensorOdr.toByte
  decimationFactor := value.decimationFactor

def nodeProfile : ObservabilityProfile → Wire.ObservabilityProfile
  | .production => .production
  | .diagnostic => .diagnostic

/-- What the node makes of a request. -/
inductive NodeRequest where
  | getIdentity
  | getCapabilities
  | runtime (command : Wire.SensorRuntimeCommand)
  | prepareFirmwareUpdate (operationId : UInt32)
  | confirmTrialBoot (operationId : UInt32)
  | restartNode (operationId : UInt32)
  | getConfig
  | validateConfig (configuration : Wire.MeasurementConfiguration)
  | applyConfig (request : Wire.ConfigOperationRequest)
  | resetConfig (operationId expectedRevision : UInt32)
  | probeSlot (request : Wire.ProbeSlotRequest)
  | assignAddress (request : Wire.AssignAddressRequest)
deriving DecidableEq

/-- A request of the host to one of the four services. -/
inductive HostRequest where
  | identity
  | capabilities
  | lifecycle (command : RuntimeCommand)
  | configuration (request : ConfigurationRequest)
  | commissioning (request : CommissioningRequest)

/-- Service, message and payload of a request. -/
def HostRequest.encode : HostRequest → Option (UInt8 × UInt8 × List UInt8)
  | identity => some (identityServiceId, getIdentityMessageId, [])
  | capabilities => some (identityServiceId, getCapabilitiesMessageId, [])
  | lifecycle command =>
    (encodeLifecycleRequest command).toOption.map fun encoded =>
      (lifecycleServiceId, encoded.message, encoded.payload)
  | configuration request =>
    request.payload.toOption.map fun payload =>
      (configurationServiceId, request.messageId, payload)
  | commissioning request =>
    request.payload.toOption.map fun payload =>
      (commissioningServiceId, request.messageId, payload)

/-- The decoding that the dispatcher and the handlers of the node begin with. -/
def NodeRequest.decode (service message : UInt8) (payload : List UInt8) : Option NodeRequest :=
  if service = Wire.ServiceId.identity.toByte then
    if payload.length ≠ 0 then none
    else if message = Wire.getIdentityMessageId then some .getIdentity
    else if message = Wire.getCapabilitiesMessageId then some .getCapabilities
    else none
  else if service = Wire.ServiceId.lifecycle.toByte then
    if message = Wire.restartNodeMessageId then
      (Wire.decodeRestartNodeRequest payload).2.map .restartNode
    else if message = Wire.prepareFirmwareUpdateMessageId then
      (Wire.decodePrepareFirmwareUpdateRequest payload).2.map .prepareFirmwareUpdate
    else if message = Wire.confirmTrialBootMessageId then
      (Wire.decodeConfirmTrialBootRequest payload).2.map .confirmTrialBoot
    else (Wire.decodeLifecycleRequest message payload).2.map .runtime
  else if service = Wire.ServiceId.configuration.toByte then
    if message = Wire.getConfigMessageId then
      if payload.length ≠ 0 then none else some .getConfig
    else if message = Wire.validateConfigMessageId then
      (Wire.decodeConfiguration payload).2.map .validateConfig
    else if message = Wire.applyConfigMessageId then
      (Wire.decodeApplyConfigRequest payload).2.map .applyConfig
    else if message = Wire.resetConfigMessageId then
      (Wire.decodeResetConfigRequest payload).2.map fun ids => .resetConfig ids.1 ids.2
    else none
  else if service = Wire.ServiceId.commissioning.toByte then
    if message = Wire.probeSlotMessageId then
      (Wire.decodeProbeSlotRequest payload).2.map .probeSlot
    else if message = Wire.assignAddressMessageId then
      (Wire.decodeAssignAddressRequest payload).2.map .assignAddress
    else none
  else none

variable (command : RuntimeCommand)

/-- A lifecycle command in the node's words. -/
def nodeLifecycle : NodeRequest :=
  match command.operation with
  | .getState => .runtime ⟨command.operationId, .getState, .production⟩
  | .start => .runtime ⟨command.operationId, .start, .production⟩
  | .stop => .runtime ⟨command.operationId, .stop, .production⟩
  | .enterMaintenance => .runtime ⟨command.operationId, .enterMaintenance, .production⟩
  | .exitMaintenance => .runtime ⟨command.operationId, .exitMaintenance, .production⟩
  | .setObservabilityProfile => .runtime
    ⟨command.operationId, .setObservabilityProfile, nodeProfile command.requestedProfile⟩
  | .prepareFirmwareUpdate => .prepareFirmwareUpdate command.operationId
  | .confirmTrialBoot => .confirmTrialBoot command.operationId
  | .restartNode => .restartNode command.operationId

/-- The same command and the same fields. -/
def HostRequest.inNode : HostRequest → NodeRequest
  | .identity => .getIdentity
  | .capabilities => .getCapabilities
  | .lifecycle command => nodeLifecycle command
  | .configuration .get => .getConfig
  | .configuration (.validate value) => .validateConfig (nodeConfiguration value)
  | .configuration (.apply request) => .applyConfig
    ⟨request.operationId, request.expectedRevision, nodeConfiguration request.configuration⟩
  | .configuration (.reset operationId expectedRevision) =>
    .resetConfig operationId expectedRevision
  | .commissioning (.probe request) => .probeSlot
    ⟨request.roundNonce, request.slotCount, request.slotIndex⟩
  | .commissioning (.assign request) => .assignAddress
    ⟨request.operationId, request.roundNonce, request.hardwareId, request.nodeAddress⟩

/-- A request that the host sends is the same request for the node. -/
def Understood (request : HostRequest) : Prop :=
  ∀ service message payload, request.encode = some (service, message, payload) →
    NodeRequest.decode service message payload = some request.inNode

theorem readU32_eq_read (input : List UInt8) (offset : Nat) :
    Wire.readU32 input offset = readU32 input offset := by
  have width := length_slice_le input offset 4
  rw [Wire.readU32, orBytes_zero _ (by omega), readU32]

theorem toOption_eq_some {ε α : Type} {result : Except ε α} {value : α} :
    result.toOption = some value ↔ result = .ok value := by
  cases result <;> simp [Except.toOption]

variable {operationId : UInt32} {message : UInt8} {value : MeasurementConfiguration}
  {payload : List UInt8}

theorem decodeOperationRequest_u32Bytes (nonzero : operationId ≠ 0) :
    Wire.decodeOperationRequest (u32Bytes operationId) = (.ok, some operationId) := by
  rw [Wire.decodeOperationRequest, readU32_eq_read, readU32_u32Bytes_self,
    if_neg (by simp [Wire.lifecycleOperationRequestBytes]), if_neg nonzero]

theorem profileFromByte_toByte (profile : ObservabilityProfile) :
    Wire.profileFromByte profile.toByte = some (nodeProfile profile) := by
  cases profile <;> rfl

variable {operation : Wire.SensorRuntimeOperation} {offset : Nat}

theorem decodeLifecycleRequest_u32Bytes (nonzero : operationId ≠ 0)
    (known : Wire.operationForMessage message = some operation)
    (plain : operation ≠ .setObservabilityProfile) :
    Wire.decodeLifecycleRequest message (u32Bytes operationId) =
      (.ok, some ⟨operationId, operation, .production⟩) := by
  simp [Wire.decodeLifecycleRequest, known, plain, readU32_eq_read, nonzero,
    Wire.lifecycleOperationRequestBytes]

theorem decodeLifecycleRequest_profile (nonzero : operationId ≠ 0)
    (profile : ObservabilityProfile) :
    Wire.decodeLifecycleRequest 6 (u32Bytes operationId ++ [profile.toByte]) =
      (.ok, some ⟨operationId, .setObservabilityProfile, nodeProfile profile⟩) := by
  have given : (u32Bytes operationId ++ [profile.toByte]).getD 4 0 = profile.toByte := by
    simp [List.getD_eq_getElem?_getD]
  have known : Wire.operationForMessage 6 = some .setObservabilityProfile := rfl
  simp only [Wire.decodeLifecycleRequest, known, given, profileFromByte_toByte]
  simp [readU32_eq_read, nonzero, Wire.lifecycleProfileRequestBytes]

theorem decode_lifecycle_operation (payload : List UInt8) (before : message < 7) :
    NodeRequest.decode lifecycleServiceId message payload =
      (Wire.decodeLifecycleRequest message payload).2.map .runtime := by
  have apart : ∀ later : UInt8, 7 ≤ later → message ≠ later := fun later past same =>
    absurd (UInt8.lt_of_lt_of_le before past) (same ▸ UInt8.lt_irrefl _)
  rw [NodeRequest.decode, if_neg (by decide), if_pos (by decide), if_neg (apart _ (by decide)),
    if_neg (apart _ (by decide)), if_neg (apart _ (by decide))]

theorem decode_lifecycle_plain (nonzero : operationId ≠ 0) (before : message < 7)
    (known : Wire.operationForMessage message = some operation)
    (plain : operation ≠ .setObservabilityProfile) :
    NodeRequest.decode lifecycleServiceId message (u32Bytes operationId) =
      some (.runtime ⟨operationId, operation, .production⟩) := by
  rw [decode_lifecycle_operation _ before, decodeLifecycleRequest_u32Bytes nonzero known plain]
  rfl

theorem understood_lifecycle : Understood (.lifecycle command) := by
  intro service message payload encodes
  obtain ⟨encoded, found, same⟩ := Option.map_eq_some_iff.mp encodes
  rw [toOption_eq_some, encodeLifecycleRequest] at found
  split at found
  · exact nomatch found
  rename_i nonzero
  cases found
  obtain ⟨rfl, rfl, rfl⟩ : lifecycleServiceId = service ∧
      command.operation.messageId = message ∧ _ = payload := by simpa using same
  obtain ⟨operationId, operation, profile⟩ := command
  dsimp only at nonzero ⊢
  have short := decodeOperationRequest_u32Bytes nonzero
  cases operation with
  | setObservabilityProfile =>
    rw [decode_lifecycle_operation _ (by decide)]
    exact congrArg (fun decoded => decoded.2.map NodeRequest.runtime)
      (decodeLifecycleRequest_profile nonzero profile)
  | prepareFirmwareUpdate =>
    rw [NodeRequest.decode, if_neg (by decide), if_pos (by decide), if_neg (by decide),
      if_pos (by decide), if_neg nofun, List.append_nil]
    exact congrArg (fun decoded => decoded.2.map NodeRequest.prepareFirmwareUpdate) short
  | confirmTrialBoot =>
    rw [NodeRequest.decode, if_neg (by decide), if_pos (by decide), if_neg (by decide),
      if_neg (by decide), if_pos (by decide), if_neg nofun, List.append_nil]
    exact congrArg (fun decoded => decoded.2.map NodeRequest.confirmTrialBoot) short
  | restartNode =>
    rw [NodeRequest.decode, if_neg (by decide), if_pos (by decide), if_pos (by decide),
      if_neg nofun, List.append_nil]
    exact congrArg (fun decoded => decoded.2.map NodeRequest.restartNode) short
  | getState | start | stop | enterMaintenance | exitMaintenance =>
    rw [if_neg nofun, List.append_nil]
    exact decode_lifecycle_plain nonzero (by decide) (by rfl) (by decide)

theorem readU16_i16Bytes {bytes : List UInt8} {value : Int16}
    (field : slice bytes offset 2 = i16Bytes value) :
    (Wire.readU16 bytes offset).toInt16 = value := by
  rw [readU16_eq_read]
  exact readI16_eq field

theorem validate_nodeConfiguration (valid : value.validate = .ok value) :
    (nodeConfiguration value).validate = .ok := by
  simp only [MeasurementConfiguration.validate, guard_eq_ok, not_not, not_or] at valid
  obtain ⟨range, corner, ⟨⟨low, high⟩, thirds⟩, -⟩ := valid
  have rate : ¬ (!Wire.knownOutputRate value.outputRate.toByte) = true := by
    cases value.outputRate <;> decide
  have profile : ¬ value.filterProfile.toByte > 2 := by
    cases value.filterProfile <;> decide
  have known : ¬ (value.rangeG ≠ 2 ∧ value.rangeG ≠ 4 ∧ value.rangeG ≠ 8) := by tauto
  have inside : ¬ (value.fifoWatermark < 3 ∨ value.fifoWatermark > 96 ∨
      value.fifoWatermark % 3 ≠ 0) := by
    simp only [not_or, gt_iff_lt, UInt8.not_lt, not_not]
    exact ⟨low, high, thirds⟩
  exact (if_neg rate).trans <| (if_neg known).trans <| (if_neg corner).trans <|
    (if_neg profile).trans (if_neg inside)

theorem readConfiguration_eq (held : slice payload offset 12 = configurationBytes value) :
    Wire.readConfiguration payload offset = nodeConfiguration value := by
  have byte : ∀ index, index < 12 →
      payload.getD (offset + index) 0 = (configurationBytes value).getD index 0 :=
    fun index inside => getD_of_slice held inside
  have word : ∀ start, start + 2 ≤ 12 → slice payload (offset + start) 2 =
      slice (configurationBytes value) start 2 := by
    intro start inside
    rw [← held, slice_slice inside]
  have x : (Wire.readU16 payload (offset + 6)).toInt16 = value.offsetX :=
    readU16_i16Bytes ((word 6 (by decide)).trans
      (by simp [configurationBytes, i16Bytes, slice_cons_of_pos]))
  have y : (Wire.readU16 payload (offset + 8)).toInt16 = value.offsetY :=
    readU16_i16Bytes ((word 8 (by decide)).trans
      (by simp [configurationBytes, i16Bytes, slice_cons_of_pos]))
  have z : (Wire.readU16 payload (offset + 10)).toInt16 = value.offsetZ :=
    readU16_i16Bytes ((word 10 (by decide)).trans
      (by simp [configurationBytes, i16Bytes, slice_cons_of_pos]))
  rw [Wire.readConfiguration, x, y, z, byte 1 (by decide), byte 2 (by decide),
    byte 3 (by decide), byte 4 (by decide), byte 5 (by decide)]
  rfl

theorem nodeDecodes_configurationBytes (valid : value.validate = .ok value)
    (held : payload = configurationBytes value) :
    Wire.decodeConfiguration payload = (.ok, some (nodeConfiguration value)) := by
  subst held
  have read : Wire.readConfiguration (configurationBytes value) 0 =
      nodeConfiguration value := readConfiguration_eq (slice_zero_self (by simp))
  rw [Wire.decodeConfiguration, if_neg (by simp [Wire.configurationValueBytes]),
    if_neg (not_not.mpr (by rfl)), read]
  exact if_pos (validate_nodeConfiguration valid)

theorem understood_configuration (request : ConfigurationRequest) :
    Understood (.configuration request) := by
  intro service message payload encodes
  obtain ⟨encoded, found, same⟩ := Option.map_eq_some_iff.mp encodes
  rw [toOption_eq_some] at found
  obtain ⟨rfl, rfl, rfl⟩ : configurationServiceId = service ∧
      request.messageId = message ∧ encoded = payload := by simpa using same
  cases request with
  | get =>
    cases found
    rfl
  | validate value =>
    obtain ⟨valid, held⟩ := encodeConfiguration_eq_ok.mp found
    exact congrArg (fun decoded => decoded.2.map NodeRequest.validateConfig)
      (nodeDecodes_configurationBytes valid held)
  | apply request =>
    obtain ⟨ids, later⟩ := check_eq_ok.mp found
    obtain ⟨bytes, written, rest⟩ := bind_eq_ok.mp later
    obtain ⟨valid, held⟩ := encodeConfiguration_eq_ok.mp written
    cases rest
    simp only [validateOperationIds, guard_eq_ok] at ids
    have configuration : slice (u32Bytes request.operationId ++
        u32Bytes request.expectedRevision ++ bytes) 8 12 = bytes := by
      subst held
      simp
    have decoded := nodeDecodes_configurationBytes valid (configuration.trans held)
    have width : (u32Bytes request.operationId ++ u32Bytes request.expectedRevision ++
        bytes).length = 20 := by simp [held]
    have whole : Wire.decodeApplyConfigRequest (u32Bytes request.operationId ++
        u32Bytes request.expectedRevision ++ bytes) = (.ok, some ⟨request.operationId,
          request.expectedRevision, nodeConfiguration request.configuration⟩) := by
      have counted : ¬ _ ≠ Wire.applyConfigRequestBytes := not_not.mpr width
      rw [Wire.decodeApplyConfigRequest, if_neg counted]
      simp only [readU32_eq_read, Wire.configurationValueBytes, decoded]
      simp [ids.1, ids.2.1]
    exact congrArg (fun decoded => decoded.2.map NodeRequest.applyConfig) whole
  | reset operationId expectedRevision =>
    obtain ⟨ids, rest⟩ := check_eq_ok.mp found
    cases rest
    simp only [validateOperationIds, guard_eq_ok] at ids
    have whole : Wire.decodeResetConfigRequest (u32Bytes operationId ++
        u32Bytes expectedRevision) = (.ok, some (operationId, expectedRevision)) := by
      simp [Wire.decodeResetConfigRequest, readU32_eq_read, ids.1, ids.2.1,
        Wire.resetConfigRequestBytes]
    exact congrArg
      (fun decoded => decoded.2.map fun ids => NodeRequest.resetConfig ids.1 ids.2) whole

theorem validSlotCount_of_count {count : UInt16}
    (valid : ¬ (count = 0 ∨ count > maxCommissioningSlots ∨ count &&& (count - 1) ≠ 0)) :
    Wire.validSlotCount count = true := by
  simp only [not_or, gt_iff_lt, UInt16.not_lt, not_not] at valid
  rw [Wire.validSlotCount, Bool.and_eq_true, Bool.and_eq_true, decide_eq_true_eq,
    decide_eq_true_eq, decide_eq_true_eq, and_assoc]
  exact valid

theorem copyHardwareId_eq {value : Vector UInt8 8} (field : slice payload offset 8 = value.toList) :
    Wire.copyHardwareId payload offset = value :=
  readBytes_eq field

theorem understood_commissioning (request : CommissioningRequest) :
    Understood (.commissioning request) := by
  intro service message payload encodes
  obtain ⟨encoded, found, same⟩ := Option.map_eq_some_iff.mp encodes
  rw [toOption_eq_some] at found
  obtain ⟨rfl, rfl, rfl⟩ : commissioningServiceId = service ∧
      request.messageId = message ∧ encoded = payload := by simpa using same
  cases request with
  | probe request =>
    obtain ⟨checked, valid, rest⟩ := bind_eq_ok.mp found
    cases rest
    simp only [ProbeSlotRequest.validate, guard_eq_ok, Except.ok.injEq] at valid
    obtain ⟨nonce, count, index, rfl⟩ := valid
    have whole : Wire.decodeProbeSlotRequest (u64Bytes request.roundNonce ++
        u16Bytes request.slotCount ++ u16Bytes request.slotIndex) =
        (.ok, some ⟨request.roundNonce, request.slotCount, request.slotIndex⟩) := by
      simp [Wire.decodeProbeSlotRequest, readU64_eq_read, readU16_eq_read, nonce, index,
        validSlotCount_of_count count, Wire.probeSlotRequestBytes]
    exact congrArg (fun decoded => decoded.2.map NodeRequest.probeSlot) whole
  | assign request =>
    obtain ⟨valid, rest⟩ := check_eq_ok.mp found
    cases rest
    simp only [validateAssignment, guard_eq_ok, not_not] at valid
    obtain ⟨id, nonce, ⟨low, high⟩, -⟩ := valid
    have address : Wire.isAssignableNodeAddress request.nodeAddress = true := by
      rw [Wire.isAssignableNodeAddress, Bool.and_eq_true, decide_eq_true_eq,
        decide_eq_true_eq]
      exact ⟨low, high⟩
    have hardware : Wire.copyHardwareId (u32Bytes request.operationId ++
        u64Bytes request.roundNonce ++ request.hardwareId.toList ++ [request.nodeAddress]) 12 =
        request.hardwareId := copyHardwareId_eq (by simp)
    have last : (u32Bytes request.operationId ++ u64Bytes request.roundNonce ++
        request.hardwareId.toList ++ [request.nodeAddress]).getD 20 0 = request.nodeAddress := by
      simp [List.getD_eq_getElem?_getD]
    have whole : Wire.decodeAssignAddressRequest (u32Bytes request.operationId ++
        u64Bytes request.roundNonce ++ request.hardwareId.toList ++ [request.nodeAddress]) =
        (.ok, some ⟨request.operationId, request.roundNonce, request.hardwareId,
          request.nodeAddress⟩) := by
      rw [Wire.decodeAssignAddressRequest, hardware, last]
      simp [readU64_eq_read, readU32_eq_read, nonce, id, address,
        Wire.assignAddressRequestBytes]
    exact congrArg (fun decoded => decoded.2.map NodeRequest.assignAddress) whole

theorem understood (request : HostRequest) : Understood request := by
  cases request with
  | identity | capabilities =>
    intro service message payload encodes
    cases encodes
    rfl
  | lifecycle command => exact understood_lifecycle command
  | configuration request => exact understood_configuration request
  | commissioning request => exact understood_commissioning request

end SensorSystem.System
