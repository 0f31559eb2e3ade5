import SensorSystem.Host.Service.Operations

/-! `event_json` of `operations_audit.rs`: every change of an operation is one JSON object, which
carries the version of its shape, the channel and its place in the audit. How `serde_json` spells
such a value is left to the library. -/

namespace SensorSystem.Host.Operations

/-- A value of `serde_json`. No event has a fraction in it. -/
inductive Json where
  | null
  | number (value : Int)
  | string (text : String)
  | array (items : List Json)
  | object (members : List (String × Json))

namespace Json

/-- `Value::get` with a key. -/
def get (value : Json) (key : String) : Option Json :=
  match value with
  | object members => members.lookup key
  | _ => none

/-- `Value::as_u64`. -/
def asU64 : Json → Option UInt64
  | number value => if 0 ≤ value ∧ value < 2 ^ 64 then some (.ofNat value.toNat) else none
  | _ => none

theorem get_object_cons (key name : String) (value : Json) (members : List (String × Json)) :
    (object ((name, value) :: members)).get key =
      if key = name then some value else (object members).get key := by
  rw [get, List.lookup_cons, get]
  split <;> rename_i same <;> simp_all

/-- A member that is an unsigned number. -/
def u64At (value : Json) (key : String) : Option UInt64 := (value.get key).bind asU64

/-- An unsigned integer of any width. -/
def nat (value : Nat) : Json := number value

@[simp] theorem asU64_nat (value : UInt64) : (nat value.toNat).asU64 = some value := by
  have bounded := value.toNat_lt
  rw [nat, asU64, if_pos ⟨by omega, by omega⟩, Int.toNat_natCast, UInt64.ofNat_toNat]

end Json

def ChannelOperatingMode.debug : ChannelOperatingMode → String
  | recording => "Recording"
  | enteringMaintenance => "EnteringMaintenance"
  | maintenance => "Maintenance"
  | resumingRecording => "ResumingRecording"
  | faulted => "Faulted"
  | offline => "Offline"

def OperationPhase.debug : OperationPhase → String
  | accepted => "Accepted"
  | running => "Running"
  | succeeded => "Succeeded"
  | rejected => "Rejected"
  | failed => "Failed"

/-- `Display` of an error. -/
def OperationsError.display : OperationsError → String
  | zeroOperationId => "operation ID must be non-zero"
  | invalidChannelId value => "invalid channel ID " ++ toString value.toNat
  | invalidNodeAddress value => "invalid node address " ++ toString value.toNat
  | invalidConfiguration => "invalid measurement configuration"
  | invalidTelemetryInterval value =>
    "invalid telemetry interval " ++ toString value.toNat ++ "; expected 60..86400 seconds"
  | zeroExpectedRevision => "expected revision must be non-zero"
  | zeroRoundNonce => "commissioning nonce must be non-zero"
  | invalidSlotCount value => "invalid slot count " ++ toString value.toNat
  | wrongTargetScope => "operation has the wrong target scope"
  | wrongMode mode => "operation is not allowed in " ++ mode.debug
  | zeroCapacity => "operation capacity must be non-zero"
  | operationIdConflict value => "operation ID " ++ toString value.value.toNat ++ " was reused"
  | ledgerFull => "operation ledger has no terminal entry to evict"
  | unknownOperation value => "unknown operation " ++ toString value.value.toNat
  | invalidPhaseTransition current next =>
    "invalid operation transition " ++ current.debug ++ " -> " ++ next.debug
  | invalidErrorPhase phase => "operation error cannot be attached to " ++ phase.debug
  | invalidResultPhase phase => "operation result cannot be attached to " ++ phase.debug
  | commandPathDisconnected => "channel command path disconnected"
  | wrongChannel expected received =>
    "operation for channel " ++ toString received.toNat ++ " reached channel " ++
      toString expected.toNat
  | operationInProgress => "another channel operation is already running"
  | noActiveOperation => "channel has no active operation"
  | statusUnavailable => "channel operation status is unavailable"
  | auditUnavailable => "operation audit is unavailable"
  | executorUnavailable => "operation executor is not connected"
  | nodeNotConfigured => "operation target is not configured on this channel"
  | configurationDeadline => "configuration operation deadline expired"
  | configurationFailed => "configuration operation failed"
  | configurationAdmissionRejected =>
    "configuration would exceed the channel admission budget"
  | configurationRejected => "node rejected the configuration operation"
  | commissioningFailed => "commissioning operation failed"
  | commissioningDeadline => "commissioning operation deadline expired"
  | commissioningIdentityNotScanned =>
    "hardware identity was not found in the matching scan"
  | commissioningAddressConflict => "requested node address is already configured"
  | restartFailed => "node restart operation failed"
  | restartDeadline => "node restart deadline expired"
  | maintenanceBarrierDeadline => "maintenance quiesce barrier deadline expired"
  | maintenanceDrainDeadline => "maintenance final drain deadline expired"
  | maintenanceConvergenceFailed => "channel could not converge to maintenance"
  | streamReconciliationRequired => "node restarted and stream reconciliation is required"
  | resumeVerificationFailed => "recording resume verification failed"
  | resumeAdmissionRejected => "recording resume admission was rejected"
  | resumeActivationFailed => "recording resume activation failed"
  | nodeOffline => "node is offline"

def phaseLabel : OperationPhase → String
  | .accepted => "accepted"
  | .running => "running"
  | .succeeded => "succeeded"
  | .rejected => "rejected"
  | .failed => "failed"

/-- `{byte:02x}` of every byte. -/
def hardwareIdHex (value : HardwareId) : String :=
  String.ofList (value.toList.flatMap fun byte =>
    [Nat.digitChar (byte.toNat / 16), Nat.digitChar (byte.toNat % 16)])

def configurationJson (value : MeasurementConfiguration) : Json :=
  .object [("output_rate_code", .nat value.outputRate.toByte.toNat),
    ("range_g", .nat value.rangeG.toNat), ("high_pass_corner", .nat value.highPassCorner.toNat),
    ("filter_profile", .nat value.filterProfile.toByte.toNat),
    ("fifo_watermark", .nat value.fifoWatermark.toNat),
    ("offset_x", .number value.offsetX.toInt), ("offset_y", .number value.offsetY.toInt),
    ("offset_z", .number value.offsetZ.toInt)]

/-- A kind of operation or of result with its values. -/
def tagged (kind : String) (members : List (String × Json)) : Json :=
  .object (("kind", .string kind) :: members)

def operationJson : OperationKind → Json
  | .readStatus => tagged "read_status" []
  | .enterMaintenance => tagged "enter_maintenance" []
  | .resumeRecording => tagged "resume_recording" []
  | .getConfiguration => tagged "get_configuration" []
  | .validateConfiguration configuration =>
    tagged "validate_configuration" [("configuration", configurationJson configuration)]
  | .applyConfiguration expectedRevision configuration =>
    tagged "apply_configuration" [("expected_revision", .nat expectedRevision.toNat),
      ("configuration", configurationJson configuration)]
  | .resetConfiguration expectedRevision =>
    tagged "reset_configuration" [("expected_revision", .nat expectedRevision.toNat)]
  | .setTelemetryInterval intervalSeconds =>
    tagged "set_telemetry_interval" [("telemetry_interval_seconds", .nat intervalSeconds.toNat)]
  | .restartNode => tagged "restart_node" []
  | .scanUnassigned roundNonce slotCount =>
    tagged "scan_unassigned" [("round_nonce", .nat roundNonce.toNat),
      ("slot_count", .nat slotCount.toNat)]
  | .assignAddress roundNonce hardwareId nodeAddress =>
    tagged "assign_address" [("round_nonce", .nat roundNonce.toNat),
      ("hardware_id", .string (hardwareIdHex hardwareId)),
      ("new_node_address", .nat nodeAddress.toNat)]

/-- The codes of the wire are the positions in their enumerations. -/
def resultJson : OperationResult → Json
  | .configurationObserved value =>
    tagged "configuration_observed" [("revision", .nat value.revision.toNat)]
  | .configurationValidated value =>
    tagged "configuration_validated" [("code", .nat value.code.ctorIdx),
      ("field", .nat value.field.ctorIdx)]
  | .configurationApplied value =>
    tagged "configuration_applied" [("wire_operation_id", .nat value.operationId.toNat),
      ("code", .nat value.code.ctorIdx), ("revision", .nat value.observed.revision.toNat),
      ("effective_sample_seq", .nat value.effectiveSampleSeq.toNat)]
  | .commissioningScan roundNonce slotCount discovered =>
    tagged "commissioning_scan" [("round_nonce", .nat roundNonce.toNat),
      ("slot_count", .nat slotCount.toNat),
      ("hardware_ids", .array (discovered.map fun value =>
        .string (hardwareIdHex value.hardwareId)))]
  | .addressAssigned value =>
    tagged "address_assigned" [("wire_operation_id", .nat value.operationId.toNat),
      ("hardware_id", .string (hardwareIdHex value.hardwareId)),
      ("node_address", .nat value.nodeAddress.toNat)]
  | .nodeRestartRequested nodeAddress =>
    tagged "node_restart_requested" [("node_address", .nat nodeAddress.toNat)]
  | .telemetryIntervalApplied nodeAddress intervalSeconds =>
    tagged "telemetry_interval_applied" [("node_address", .nat nodeAddress.toNat),
      ("telemetry_interval_seconds", .nat intervalSeconds.toNat)]

def OperationTarget.nodeAddress : OperationTarget → Option UInt8
  | channel _ => none
  | node _ nodeAddress => some nodeAddress

def eventJson (sequence : UInt64) (unixTimeMs : UInt64) (record : OperationRecord) : Json :=
  .object [("schema_version", .nat 1), ("event_sequence", .nat sequence.toNat),
    ("unix_time_ms", .nat unixTimeMs.toNat),
    ("channel_id", .nat record.request.target.channelId.toNat),
    ("node_address", (record.request.target.nodeAddress.map (.nat ·.toNat)).getD .null),
    ("operation_id", .nat record.request.operationId.value.toNat),
    ("operation", operationJson record.request.kind),
    ("phase", .string (phaseLabel record.phase)),
    ("result", (record.result.map resultJson).getD .null),
    ("error", (record.error.map (.string ·.display)).getD .null)]

/-- What a reopened audit looks at in an event. -/
def Json.isEvent (value : Json) (channelId : UInt8) (sequence : UInt64) : Prop :=
  value.u64At "schema_version" = some 1 ∧ value.u64At "channel_id" = some channelId.toUInt64 ∧
    value.u64At "event_sequence" = some sequence

instance (value : Json) (channelId : UInt8) (sequence : UInt64) :
    Decidable (value.isEvent channelId sequence) :=
  inferInstanceAs (Decidable (_ ∧ _))

/-- A member behind one of another name. -/
theorem Json.u64At_cons_of_ne {key name : String} (differ : key ≠ name) (value : Json)
    (members : List (String × Json)) :
    (object ((name, value) :: members)).u64At key = (object members).u64At key := by
  rw [u64At, get_object_cons, if_neg differ, u64At]

theorem Json.u64At_cons_self (key : String) (value : Json) (members : List (String × Json)) :
    (object ((key, value) :: members)).u64At key = value.asU64 := by
  rw [u64At, get_object_cons, if_pos rfl, Option.bind_some]

/-- The event of a record is one for its channel and its place. -/
theorem isEvent_eventJson (sequence unixTimeMs : UInt64) (record : OperationRecord) :
    (eventJson sequence unixTimeMs record).isEvent record.request.target.channelId sequence := by
  refine ⟨?_, ?_, ?_⟩
  · rw [eventJson, Json.u64At_cons_self]
    exact Json.asU64_nat 1
  · rw [eventJson, Json.u64At_cons_of_ne (by decide), Json.u64At_cons_of_ne (by decide),
      Json.u64At_cons_of_ne (by decide), Json.u64At_cons_self, ← UInt8.toNat_toUInt64,
      Json.asU64_nat]
  · rw [eventJson, Json.u64At_cons_of_ne (by decide), Json.u64At_cons_self, Json.asU64_nat]

end SensorSystem.Host.Operations
