import Redline.Host.Bridge

/-!
# Structured commands at the Node

`wire_operations.h`, `wire_transaction_state.h` and `radio_operation_bridge.h`, on the side of the Node: a COMMAND
of the peer is admitted, acknowledged and then executed once, and the last one stays with its response, so that the
Hub may send it again.  READ and SET go through the gate for remote callers (`processRemoteCapability`), a procedure
is refused, and everything else is served as if the Host had asked on the Node itself.

The number of lookups and the diagnostics of the capabilities are written and never read; they are left out.
-/

namespace Redline.Host

open Redline.Wire Redline.Lib

/-! ### The response on the wire -/

def encodeWireResponse (opcode : UInt8) (response : WireResponse) : Except CodecResult Bytes :=
  if !isStructuredOpcode opcode then .error .unsupportedOpcode
  else if !isValidResponseSchema opcode response then .error .invalidValue
  else if Wire.maxPayloadSize < wireResponseFixedSize + response.value.bytes.length then .error .invalidLength
  else .ok ([response.status] ++ writeUint16Le response.targetId ++
    [response.value.type, response.value.bytes.length.toUInt8] ++ response.value.bytes)

/-- A RESPONSE packet; the payload is empty when the response does not encode. -/
def makeResponsePacket (command : Packet) (response : WireResponse) : Packet where
  type := .response
  source := command.destination
  destination := command.source
  sequence := command.sequence
  opcode := command.opcode
  payload :=
    match encodeWireResponse command.opcode response with
    | .ok bytes => bytes
    | .error _ => []

def makeAcknowledgment (command : Packet) (status : UInt8) : Packet where
  type := .ack
  source := command.destination
  destination := command.source
  sequence := command.sequence
  opcode := command.opcode
  payload := [status]

/-! ### The gate for remote callers -/

def processRemoteCapability (registry : CapabilityRegistryView) (id : UInt16) (operation : Operation)
    (input : CapabilityValue) (interlock : InterlockState) : DeviceM OperationResult := do
  if !isValidCapabilityRegistry registry then return makeCanonicalFailureResult OperationStatus.invalidDescriptor
  match findCapability registry id with
  | none => return makeCanonicalFailureResult OperationStatus.capabilityNotFound
  | some d =>
    if operation = .set ∨ operation = .runLocalProcedure then
      return makeCanonicalFailureResult OperationStatus.unauthorized
    if !isHandlerDispatchableOperation operation || !supportsOperation d operation then
      return makeCanonicalFailureResult OperationStatus.unsupportedOperation
    if !isOperationAuthorized d operation .futureRemote then
      return makeCanonicalFailureResult OperationStatus.unauthorized
    if operation = .set ∧ (!isValidCapabilityValue input || input.type != d.valueType) then
      return makeCanonicalFailureResult OperationStatus.invalidValueType
    if operation = .set ∧ !isValueWithinBounds d input then
      return makeCanonicalFailureResult OperationStatus.valueOutOfRange
    if operation ≠ .set ∧ !isCanonicalNoneValue input then
      return makeCanonicalFailureResult OperationStatus.invalidValueType
    if !isOperationSafe d operation interlock then
      return makeCanonicalFailureResult OperationStatus.interlockActive
    let result ← executeHandler d operation input
    if !isValidOperationResult result || !isHandlerOwnedStatus result.status ||
        (result.status == OperationStatus.ok && operation == .read && !isValueWithinBounds d result.value) ||
        (result.status == OperationStatus.ok && operation != .read && !isCanonicalNoneValue result.value) then
      return makeCanonicalFailureResult OperationStatus.operationFailed
    return result

/-! ### The retained operation -/

/-- `NodeRetainedOperation`: the last command, and its response once it is complete. -/
structure NodeRetainedOperation where
  hasEntry : Bool
  completed : Bool
  source : UInt8
  destination : UInt8
  sequence : UInt8
  opcode : UInt8
  payload : Bytes
  response : Packet
  deriving DecidableEq

namespace NodeRetainedOperation

def initial : NodeRetainedOperation := ⟨false, false, 0, 0, 0, 0, [], blankPacket⟩

def isActive (r : NodeRetainedOperation) : Bool := r.hasEntry && !r.completed

def isComplete (r : NodeRetainedOperation) : Bool := r.hasEntry && r.completed

def isDuplicate (r : NodeRetainedOperation) (command : Packet) : Bool :=
  r.hasEntry && command.source == r.source && command.sequence == r.sequence && command.opcode == r.opcode &&
    command.payload == r.payload

def reserve (r : NodeRetainedOperation) (command : Packet) : NodeRetainedOperation × Bool :=
  if r.isActive || decide (Wire.maxPayloadSize < command.payload.length) then (r, false)
  else
    ({ hasEntry := true, completed := false, source := command.source, destination := command.destination
       sequence := command.sequence, opcode := command.opcode, payload := command.payload
       response := blankPacket }, true)

def complete (r : NodeRetainedOperation) (response : Packet) : NodeRetainedOperation × Bool :=
  if !r.isActive || decide (response.type ≠ .response) || response.source != r.destination ||
      response.destination != r.source || response.sequence != r.sequence || response.opcode != r.opcode then (r, false)
  else
    match decodeWireResponse response.opcode response.payload, decodeWireRequest r.opcode r.payload with
    | .ok decoded, .ok request =>
      if decoded.targetId ≠ request.targetId then (r, false) else ({ r with response, completed := true }, true)
    | _, _ => (r, false)

def rememberedCommand (r : NodeRetainedOperation) : Packet :=
  ⟨.command, r.source, r.destination, r.sequence, r.opcode, r.payload⟩

def acknowledgment (r : NodeRetainedOperation) : Packet := makeAcknowledgment r.rememberedCommand AckStatus.success

end NodeRetainedOperation

inductive AdmissionOutcome
  | ignore | unsupportedOpcode | malformed | admitted | duplicatePending | duplicateComplete | activeBusy
  deriving DecidableEq

/-- The outcome, the status of the acknowledgment that goes with it, and what is retained. -/
def admitNodeCommand (command : Packet) (localId peerId : UInt8) (retained : NodeRetainedOperation) :
    NodeRetainedOperation × AdmissionOutcome × UInt8 :=
  if command.destination ≠ localId ∨ command.source ≠ peerId ∨ command.type ≠ .command then
    (retained, .ignore, AckStatus.success)
  else if !isStructuredOpcode command.opcode then (retained, .unsupportedOpcode, AckStatus.unsupportedOpcode)
  else
    match decodeWireRequest command.opcode command.payload with
    | .error _ => (retained, .malformed, AckStatus.malformedPacket)
    | .ok _ =>
      if retained.isDuplicate command then
        (retained, if retained.isComplete then .duplicateComplete else .duplicatePending, AckStatus.success)
      else if retained.isActive then (retained, .activeBusy, AckStatus.success)
      else ((retained.reserve command).1, .admitted, AckStatus.success)

/-! ### The processor -/

inductive NodeAction
  | ignore | sendAck | ackThenExecute | sendAckAndResponse | activeBusy | sendRejectionAck | responseReady
  deriving DecidableEq

structure NodeResult where
  action : NodeAction
  acknowledgment : Packet
  response : Packet
  deriving DecidableEq

instance : Inhabited NodeResult := ⟨⟨.ignore, blankPacket, blankPacket⟩⟩

/-- `NodeStructuredOperationProcessor`. -/
structure NodeProcessor where
  retained : NodeRetainedOperation
  pendingCommand : Packet
  hasPendingCommand : Bool
  hostScratch : TypedValue
  deriving DecidableEq

/-- What the Node executes an operation with, its handler and its provider of availability apart. -/
structure NodeContext where
  snapshot : DeviceSnapshot
  registryValid : Bool
  registry : CapabilityRegistryView
  interlock : InterlockState

namespace NodeProcessor

def initial : NodeProcessor := ⟨.initial, blankPacket, false, noneValue⟩

/-- `NodeStructuredOperationProcessor::admit`. -/
def admitCommand (p : NodeProcessor) (command : Packet) (localId peerId : UInt8) : NodeProcessor × NodeResult :=
  let (retained, outcome, status) := admitNodeCommand command localId peerId p.retained
  let p := { p with retained }
  match outcome with
  | .ignore => (p, default)
  | .unsupportedOpcode | .malformed =>
    (p, { (default : NodeResult) with
      action := .sendRejectionAck, acknowledgment := makeAcknowledgment command status })
  | .activeBusy => (p, { (default : NodeResult) with action := .activeBusy })
  | .duplicatePending =>
    (p, { (default : NodeResult) with action := .sendAck, acknowledgment := retained.acknowledgment })
  | .duplicateComplete => (p, ⟨.sendAckAndResponse, retained.acknowledgment, retained.response⟩)
  | .admitted =>
    ({ p with pendingCommand := command, hasPendingCommand := true },
      { (default : NodeResult) with action := .ackThenExecute, acknowledgment := retained.acknowledgment })

def categoryFor (operation : UInt8) : UInt8 :=
  if operation = OperationCode.ping ∨ operation = OperationCode.getDeviceInfo ∨ operation = OperationCode.getStatus then
    OperationCategory.device
  else if operation = OperationCode.getCapabilities ∨ operation = OperationCode.describeCapability ∨
      operation = OperationCode.readCapability ∨ operation = OperationCode.setIndicator then
    OperationCategory.capability
  else if operation = OperationCode.runProcedure then OperationCategory.procedure
  else if operation = OperationCode.getDiagnostics then OperationCategory.diagnostic
  else 0

/-- The request of the wire as one of the Host to the Node itself. -/
def hostRequest (snapshot : DeviceSnapshot) (opcode : UInt8) (request : WireRequest) : OperationRequest where
  category := categoryFor opcode
  operation := opcode
  targetDeviceId := snapshot.deviceId
  targetId := request.targetId
  value := request.value

/-- The status of the operation and the value that is left in `hostScratch`. -/
def perform (c : NodeContext) (opcode : UInt8) (request : WireRequest) : DeviceM (UInt8 × TypedValue) := do
  if opcode = OperationCode.readCapability ∨ opcode = OperationCode.setIndicator then
    match hostValueToCapabilityValue request.value with
    | none => return (OperationStatus.invalidValueType, noneValue)
    | some input => do
      let operation : Operation := if opcode = OperationCode.readCapability then .read else .set
      let result ← processRemoteCapability c.registry request.targetId operation input c.interlock
      if result.status = OperationStatus.ok ∧ opcode = OperationCode.readCapability then
        match capabilityValueToHostValue result.value with
        | none => return (OperationStatus.operationFailed, noneValue)
        | some value => return (result.status, value)
      return (result.status, noneValue)
  else if opcode = OperationCode.runProcedure then return (OperationStatus.unauthorized, noneValue)
  else do
    let served ← handleLocalOperation 1 (hostRequest c.snapshot opcode request) c.snapshot c.registryValid c.registry
      c.interlock versionMinor01
    return (served.response.resultCode, served.response.value)

/-- The response to a performed operation: only a success has a value. -/
def wireResponse (request : WireRequest) (performed : UInt8 × TypedValue) : WireResponse where
  status := performed.1
  targetId := request.targetId
  value := if performed.1 ≠ OperationStatus.ok then noneValue else performed.2

def executeAdmittedOperation (p : NodeProcessor) (c : NodeContext) : DeviceM (NodeProcessor × NodeResult) := do
  if !p.hasPendingCommand || !p.retained.isActive then return (p, default)
  match decodeWireRequest p.pendingCommand.opcode p.pendingCommand.payload with
  | .error _ => return (p, default)
  | .ok request => do
    let performed ← perform c p.pendingCommand.opcode request
    let p := { p with hostScratch := performed.2 }
    let response := makeResponsePacket p.pendingCommand (wireResponse request performed)
    if response.payload.length = 0 then return (p, default)
    match p.retained.complete response with
    | (_, false) => return (p, default)
    | (retained, true) =>
      return ({ p with retained, hasPendingCommand := false },
        { (default : NodeResult) with action := .responseReady, response := retained.response })

end NodeProcessor

end Redline.Host
