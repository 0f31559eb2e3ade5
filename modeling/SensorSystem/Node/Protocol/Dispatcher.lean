import SensorSystem.Node.Protocol.ApplicationServices
import SensorSystem.Node.Protocol.MeasurementHandler

/-! `dispatcher.cpp`: routes a decoded request frame to the service it names. The measurement
service is the one of the delivery session; the other services stand behind the interfaces that
the source has for them, with a state of their own. -/

namespace SensorSystem.Node

open Base
open Framing Wire

/-- A settlement that a response asks for. -/
structure ResponseCompletion where
  required : Bool := false
  service : UInt8 := 0
  token : UInt64 := 0

structure TransmissionCompletion where
  required : Bool := false
  service : UInt8 := 0
  token : UInt64 := 0

structure DispatchResult where
  responseProduced : Bool := false
  completion : ResponseCompletion := {}
  transmission : TransmissionCompletion := {}

inductive CompletionSettlementStatus where
  | ok
  | notRequired
  | unsupportedService
  | rejectedByHandler
deriving DecidableEq

inductive TransmissionSettlementStatus where
  | ok
  | notRequired
  | unsupportedService
  | rejectedByHandler
deriving DecidableEq

/-- The size of the response, and the token of `post_transmit_required`. -/
structure ServiceAnswer where
  payloadSize : Nat
  postTransmitToken : Option UInt64 := none

/-- A handler: message, request payload, response buffer and state. -/
abbrev ServiceHandler (σ ρ : Type) :=
  UInt8 → List UInt8 → List UInt8 → σ → ρ × List UInt8 × σ

/-- The handlers of the other services, each of which may be absent. -/
structure ServiceHandlers (σ : Type) where
  lifecycle : Option (ServiceHandler σ ServiceAnswer)
  diagnostics : Option (ServiceHandler σ Nat)
  configuration : Option (ServiceHandler σ Nat)
  commissioning : Option (ServiceHandler σ (Option ServiceAnswer))
  telemetry : Option (ServiceHandler σ Nat)
  settleLifecycle : UInt64 → Bool → σ → Bool × σ
  settleCommissioning : UInt64 → Bool → σ → Bool × σ

structure ApplicationDispatcher (limits : DeliveryLimits) (σ : Type) where
  identity : NodeIdentity
  capabilities : NodeCapabilities
  handlers : ServiceHandlers σ
  measurement : Option (DeliverySession limits)
  services : σ

namespace ApplicationDispatcher

variable {limits : DeliveryLimits} {σ : Type}

/-- The payload of a frame. -/
def requestPayload (request : Frame) : List UInt8 :=
  request.payload.toList.take request.payloadSize

/-- Put a handler's buffer into a response. -/
def withPayload (response : Frame) (output : List UInt8) (payloadSize : Nat) : Frame :=
  { response with payload := copyPayload output, payloadSize }

variable (dispatcher : ApplicationDispatcher limits σ)

def initializeResponse (request : Frame) : Frame where
  role := .response
  destination := hostAddress
  source := dispatcher.identity.nodeAddress
  service := request.service
  message := request.message
  transactionId := request.transactionId

def setError (status : ResponseStatus) (response : Frame) : Frame :=
  withPayload response (overwrite response.payload.toList 0 [status.toByte]) 1

def dispatchIdentity (request response : Frame) : Frame :=
  let answer (encoded : IdentityCodecStatus × List UInt8) (size : Nat) : Frame :=
    let response := withPayload response encoded.2 size
    if encoded.1 ≠ .ok then setError .internalError response else response
  if request.payloadSize ≠ 0 then setError .malformedRequest response
  else if request.message = getIdentityMessageId then
    answer (encodeIdentitySuccess dispatcher.identity response.payload.toList)
      identityResponseBytes
  else if request.message = getCapabilitiesMessageId then
    answer (encodeCapabilitiesSuccess dispatcher.capabilities response.payload.toList)
      capabilitiesResponseBytes
  else setError .unsupportedMessage response

def dispatchTime (request response : Frame) (nodeReceiveUs : UInt64) : Frame :=
  if !dispatcher.capabilities.supportsService .time then setError .unsupportedService response
  else if request.message ≠ observeClockMessageId then setError .unsupportedMessage response
  else if validateTimeRequest request.payloadSize ≠ .ok then setError .malformedRequest response
  else
    match encodeTimeSuccess ⟨dispatcher.identity.bootEpoch, nodeReceiveUs, nodeReceiveUs⟩
        response.payload.toList with
    | (.ok, output) => withPayload response output observeClockResponseBytes
    | (_, output) => setError .internalError (withPayload response output response.payloadSize)

def dispatchMeasurement (request response : Frame) :
    DispatchResult × Frame × ApplicationDispatcher limits σ :=
  if !dispatcher.capabilities.supportsService .measurement then
    (⟨true, {}, {}⟩, setError .unsupportedService response, dispatcher)
  else match dispatcher.measurement with
    | none => (⟨true, {}, {}⟩, setError .internalError response, dispatcher)
    | some session =>
      let (handled, output, session) := session.handle request.message (requestPayload request)
        response.payload.toList
      let response := withPayload response output response.payloadSize
      if handled.payloadSize = 0 ∨ handled.payloadSize > maxPayloadBytes then
        let session := if handled.completionRequired then
          (session.abort handled.deliveryToken).2 else session
        (⟨true, {}, {}⟩, setError .internalError response,
          { dispatcher with measurement := some session })
      else
        let completion : ResponseCompletion := if handled.completionRequired then
          ⟨true, ServiceId.measurement.toByte, handled.deliveryToken⟩ else {}
        (⟨true, completion, {}⟩, { response with payloadSize := handled.payloadSize },
          { dispatcher with measurement := some session })

/-- A request to one of the services behind an interface. -/
def dispatchHandler {ρ : Type} (service : ServiceId) (handler : ServiceHandler σ ρ)
    (answer : ρ → Option ServiceAnswer) (request response : Frame) :
    DispatchResult × Frame × ApplicationDispatcher limits σ :=
  let (handled, output, services) := handler request.message (requestPayload request)
    response.payload.toList dispatcher.services
  let dispatcher := { dispatcher with services }
  let response := withPayload response output response.payloadSize
  match answer handled with
  | none => ({}, response, dispatcher)
  | some handled =>
    if handled.payloadSize = 0 ∨ handled.payloadSize > maxPayloadBytes then
      (⟨true, {}, {}⟩, setError .internalError response, dispatcher)
    else
      let transmission : TransmissionCompletion := match handled.postTransmitToken with
        | some token => ⟨true, service.toByte, token⟩
        | none => {}
      (⟨true, {}, transmission⟩, { response with payloadSize := handled.payloadSize }, dispatcher)

/-- The services that are announced: an absent handler is an error. -/
def dispatchService {ρ : Type} (service : ServiceId) (handler : Option (ServiceHandler σ ρ))
    (answer : ρ → Option ServiceAnswer) (request response : Frame) :
    DispatchResult × Frame × ApplicationDispatcher limits σ :=
  if !dispatcher.capabilities.supportsService service then
    (⟨true, {}, {}⟩, setError .unsupportedService response, dispatcher)
  else match handler with
    | none => (⟨true, {}, {}⟩, setError .internalError response, dispatcher)
    | some handler => dispatcher.dispatchHandler service handler answer request response

def dispatchLifecycle (request response : Frame) :
    DispatchResult × Frame × ApplicationDispatcher limits σ :=
  dispatcher.dispatchService .lifecycle dispatcher.handlers.lifecycle some request response

def dispatchDiagnostics (request response : Frame) :
    DispatchResult × Frame × ApplicationDispatcher limits σ :=
  dispatcher.dispatchService .diagnostics dispatcher.handlers.diagnostics (some ⟨·, none⟩)
    request response

def dispatchConfiguration (request response : Frame) :
    DispatchResult × Frame × ApplicationDispatcher limits σ :=
  dispatcher.dispatchService .configuration dispatcher.handlers.configuration (some ⟨·, none⟩)
    request response

def dispatchTelemetry (request response : Frame) :
    DispatchResult × Frame × ApplicationDispatcher limits σ :=
  dispatcher.dispatchService .telemetry dispatcher.handlers.telemetry (some ⟨·, none⟩)
    request response

/-- Commissioning is not announced, and an absent handler is silent. -/
def dispatchCommissioning (request response : Frame) :
    DispatchResult × Frame × ApplicationDispatcher limits σ :=
  match dispatcher.handlers.commissioning with
  | none => ({}, response, dispatcher)
  | some handler => dispatcher.dispatchHandler .commissioning handler id request response

def commissioningRequest (request : Frame) : Bool :=
  dispatcher.identity.nodeAddress = hostAddress ∧ request.destination = broadcastAddress ∧
    request.service = ServiceId.commissioning.toByte

def dispatchAt (request : Frame) (nodeReceiveUs : UInt64) :
    DispatchResult × Frame × ApplicationDispatcher limits σ :=
  let commissioning := dispatcher.commissioningRequest request
  if request.role ≠ .request ∨ request.source ≠ hostAddress ∨
      (!commissioning ∧ request.destination ≠ dispatcher.identity.nodeAddress) then
    ({}, {}, dispatcher)
  else
    let response := dispatcher.initializeResponse request
    if commissioning then
      dispatcher.dispatchCommissioning request { response with source := commissioningAddress }
    else if request.service = ServiceId.identity.toByte then
      (⟨true, {}, {}⟩, dispatcher.dispatchIdentity request response, dispatcher)
    else if request.service = ServiceId.measurement.toByte then
      dispatcher.dispatchMeasurement request response
    else if request.service = ServiceId.time.toByte then
      (⟨true, {}, {}⟩, dispatcher.dispatchTime request response nodeReceiveUs, dispatcher)
    else if request.service = ServiceId.lifecycle.toByte then
      dispatcher.dispatchLifecycle request response
    else if request.service = ServiceId.diagnostics.toByte then
      dispatcher.dispatchDiagnostics request response
    else if request.service = ServiceId.configuration.toByte then
      dispatcher.dispatchConfiguration request response
    else if request.service = ServiceId.telemetry.toByte then
      dispatcher.dispatchTelemetry request response
    else (⟨true, {}, {}⟩, setError .unsupportedService response, dispatcher)

def settleResponse (completion : ResponseCompletion) (accepted : Bool) :
    CompletionSettlementStatus × ApplicationDispatcher limits σ :=
  if !completion.required then (.notRequired, dispatcher)
  else if completion.service ≠ ServiceId.measurement.toByte then (.unsupportedService, dispatcher)
  else match dispatcher.measurement with
    | none => (.rejectedByHandler, dispatcher)
    | some session =>
      let (status, session) := if accepted then session.complete completion.token
        else session.abort completion.token
      (if status = .ok then .ok else .rejectedByHandler,
        { dispatcher with measurement := some session })

def settleTransmission (completion : TransmissionCompletion) (transmitted : Bool) :
    TransmissionSettlementStatus × ApplicationDispatcher limits σ :=
  let settled (present : Bool) (settle : UInt64 → Bool → σ → Bool × σ) :=
    if !present then (TransmissionSettlementStatus.rejectedByHandler, dispatcher)
    else
      let (accepted, services) := settle completion.token transmitted dispatcher.services
      (if accepted then .ok else .rejectedByHandler, { dispatcher with services })
  if !completion.required then (.notRequired, dispatcher)
  else if completion.service = ServiceId.commissioning.toByte then
    settled dispatcher.handlers.commissioning.isSome dispatcher.handlers.settleCommissioning
  else if completion.service ≠ ServiceId.lifecycle.toByte then (.unsupportedService, dispatcher)
  else settled dispatcher.handlers.lifecycle.isSome dispatcher.handlers.settleLifecycle

/-- `prepare_transmission`: the time stamp of a clock observation is the start of its
transmission. -/
def prepareTransmission (response : Frame) (nodeSendUs : UInt64) : Bool × Frame :=
  if response.service ≠ ServiceId.time.toByte then (true, response)
  else if response.message ≠ observeClockMessageId ∨
      response.payloadSize ≠ observeClockResponseBytes ∨
      response.payload.toList.getD 0 0 ≠ ResponseStatus.ok.toByte then (true, response)
  else
    let (status, payload) := stampTimeTransmit response.payload.toList response.payloadSize
      nodeSendUs
    (status = .ok, withPayload response payload response.payloadSize)

end ApplicationDispatcher
end SensorSystem.Node
