import SensorSystem.Node.Runtime.RecordingSessions

/-! `configuration_handler.h` and `operation_mailbox.h`: a configuration command goes from core 1
through a mailbox to core 0, and its result goes back. Between the two, core 1 answers requests
with the last result it has seen. -/

namespace SensorSystem.Node

open Base
open Acquisition
open Node.Config (PersistentConfig)
open Wire

/-- `kCommandMailboxEntries` and `kResultMailboxEntries` of the profile. -/
def commandMailboxEntries : Nat := 4
def resultMailboxEntries : Nat := 4

structure ConfigurationMailbox where
  commands : List ConfigurationCommand := []
  results : List ConfigurationResult := []

namespace ConfigurationMailbox

variable (mailbox : ConfigurationMailbox)

def trySendCommand (command : ConfigurationCommand) : Bool × ConfigurationMailbox :=
  if mailbox.commands.length < commandMailboxEntries then
    (true, { mailbox with commands := mailbox.commands ++ [command] })
  else (false, mailbox)

def trySendResult (result : ConfigurationResult) : Bool × ConfigurationMailbox :=
  if mailbox.results.length < resultMailboxEntries then
    (true, { mailbox with results := mailbox.results ++ [result] })
  else (false, mailbox)

end ConfigurationMailbox

namespace Wire

def validateForNode (value : MeasurementConfiguration) : ConfigValidationResult :=
  if value.outputRate < 1 ∨ value.outputRate > 6 then ⟨.unsupportedOutputRate, .outputRate⟩
  else match value.validate with
    | .ok => {}
    | .invalidRange => ⟨.invalidRange, .range⟩
    | .invalidHighPassCorner => ⟨.invalidHighPassCorner, .highPassCorner⟩
    | .unknownFilterProfile => ⟨.invalidFilterProfile, .filterProfile⟩
    | .invalidFifoWatermark => ⟨.invalidFifoWatermark, .fifoWatermark⟩
    | _ => ⟨.unsupportedOutputRate, .outputRate⟩

end Wire

/-- The state of the handler and its mailbox. -/
structure ConfigurationService where
  observed : ConfigurationResult
  active : Option ConfigurationCommand := none
  cache : List (Option (ConfigurationCommand × ConfigurationResult))
  nextCache : Nat := 0
  faulted : Bool := false
  mailbox : ConfigurationMailbox := {}

namespace ConfigurationService

def sameRequest (left right : ConfigurationCommand) : Bool :=
  left.operationId = right.operationId && left.expectedRevision = right.expectedRevision &&
    left.operation = right.operation &&
    (left.operation = .reset || left.configuration = right.configuration)

variable (value : ConfigurationResult)

def observedFrom : ObservedConfiguration where
  revision := value.revision
  desired := value.configuration
  sensorOdrRegister := value.sensorOdrRegister
  decimationFactor := value.decimationFactor

/-- The size of a payload and the buffer it is in. -/
abbrev Answer := Nat × List UInt8

def error (status : ResponseStatus) (output : List UInt8) : Answer :=
  if output = [] then (0, output) else (1, overwrite output 0 [status.toByte])

variable (service : ConfigurationService)

def encodeObserved (output : List UInt8) : Answer :=
  if service.faulted then error .internalError output
  else match encodeGetConfigSuccess (observedFrom service.observed) output with
    | (.ok, written) => (getConfigResponseBytes, written)
    | (_, written) => error .internalError written

def encodeResult (output : List UInt8) : Answer :=
  match encodeConfigOperationSuccess
      ⟨value.operationId, value.code, observedFrom value, value.effectiveSampleSeq⟩ output with
  | (.ok, written) => (configOperationResponseBytes, written)
  | (_, written) => error .internalError written

def findCached (operationId : UInt32) : Option (ConfigurationCommand × ConfigurationResult) :=
  (service.cache.find? fun entry => entry.any (·.1.operationId = operationId)).join

def pollResult : ConfigurationService :=
  match service.mailbox.results with
  | [] => service
  | result :: results =>
    let service := { service with mailbox := { service.mailbox with results } }
    match service.active with
    | none => { service with faulted := true }
    | some command =>
      if result.operationId ≠ command.operationId then { service with faulted := true }
      else { service with
        observed := result
        cache := service.cache.set service.nextCache (some (command, result))
        nextCache := (service.nextCache + 1) % service.cache.length
        active := none }

/-- An operation goes to core 0 unless it is there or was. -/
def submit (command : ConfigurationCommand) (output : List UInt8) : Answer × ConfigurationService :=
  match service.findCached command.operationId with
  | some (request, result) =>
    if !sameRequest request command then (error .conflict output, service)
    else (encodeResult result output, service)
  | none =>
    match service.active with
    | some active =>
      if active.operationId ≠ command.operationId then (error .busy output, service)
      else if !sameRequest active command then (error .conflict output, service)
      else (error .busy output, service)
    | none =>
      match service.mailbox.trySendCommand command with
      | (false, _) => (error .busy output, service)
      | (true, mailbox) =>
        (error .busy output, { service with mailbox, active := some command })

/-- What follows the poll of `handle`, with a buffer for the response. -/
def answer (message : UInt8) (request output : List UInt8) : Answer × ConfigurationService :=
  if output = [] then ((0, output), service)
  else if message = getConfigMessageId then
    if request.length ≠ 0 then (error .malformedRequest output, service)
    else (service.encodeObserved output, service)
  else if message = validateConfigMessageId then
    match decodeConfiguration request with
    | (.ok, some value) =>
      match encodeValidateConfigSuccess (validateForNode value) output with
      | (.ok, written) => ((validateConfigResponseBytes, written), service)
      | (_, written) => (error .internalError written, service)
    | _ => (error .malformedRequest output, service)
  else if message ≠ applyConfigMessageId ∧ message ≠ resetConfigMessageId then
    (error .unsupportedMessage output, service)
  else if message = applyConfigMessageId then
    match decodeApplyConfigRequest request with
    | (.ok, some decoded) =>
      service.submit ⟨decoded.operationId, decoded.expectedRevision, .apply,
        decoded.configuration⟩ output
    | _ => (error .malformedRequest output, service)
  else
    match decodeResetConfigRequest request with
    | (.ok, some (operationId, expectedRevision)) =>
      service.submit { operationId, expectedRevision, operation := .reset } output
    | _ => (error .malformedRequest output, service)

def handle (message : UInt8) (request output : List UInt8) : Answer × ConfigurationService :=
  service.pollResult.answer message request output

end ConfigurationService

/-- `kLifecycleResultCacheEntries`. -/
def resultCacheEntries : Nat := 8

/-- Core 0 with its executor, and the service on core 1. -/
structure ConfigurationNode (δ : Type) (sizes : Core0Sizes) where
  core : Core0 δ sizes
  pendingResult : Option ConfigurationResult := none
  service : ConfigurationService

/-- A request on core 1, a poll of the executor, or anything else that core 0 does. -/
inductive ConfigurationStep (δ : Type) where
  | request (message : UInt8) (request output : List UInt8)
  | execute (saves : Bool) (passes : Nat) (rounds : List Nat)
  | core0 (step : Core0Step δ)

namespace ConfigurationNode

variable {δ : Type} {sizes : Core0Sizes} (sensor : Accelerometer δ)

/-- `initial_configuration` of the composition. -/
def start (engine : AcquisitionEngine δ) (config : PersistentConfig) :
    ConfigurationNode δ sizes where
  core := .boot engine config
  service := {
    observed := (Core0.boot engine config : Core0 δ sizes).configurationResult 0 .applied
    cache := List.replicate resultCacheEntries none }

variable (node : ConfigurationNode δ sizes)

/-- `OperationExecutor::poll`, with what it calls. -/
def execute (saves : Bool) (passes : Nat) (rounds : List Nat) :
    Option (ConfigurationNode δ sizes) :=
  let mailbox := node.service.mailbox
  match node.pendingResult with
  | some result =>
    let (sent, mailbox) := mailbox.trySendResult result
    some { node with
      service := { node.service with mailbox }
      pendingResult := if sent then none else some result }
  | none =>
    match mailbox.commands with
    | [] => some node
    | command :: commands => do
      let (result, core) ← (node.core.withRounds rounds).configure sensor command saves passes
      let result := { result with operationId := command.operationId }
      let (sent, mailbox) := { mailbox with commands }.trySendResult result
      some { node with
        core
        service := { node.service with mailbox }
        pendingResult := if sent then none else some result }

/-- Core 0 takes configuration commands from the mailbox only. -/
def step (node : ConfigurationNode δ sizes) :
    ConfigurationStep δ → Option (ConfigurationNode δ sizes)
  | .request message request output =>
    some { node with service := (node.service.handle message request output).2 }
  | .execute saves passes rounds => node.execute sensor saves passes rounds
  | .core0 (.call (.configure _ _) _ _) => none
  | .core0 step => (node.core.step sensor step).map fun core => { node with core }

/-- The payload that a request for the configuration gets. -/
def getConfig (output : List UInt8) : List UInt8 :=
  let (size, written) := (node.service.handle getConfigMessageId [] output).1
  written.take size

end ConfigurationNode
end SensorSystem.Node
