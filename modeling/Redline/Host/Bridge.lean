import Redline.Host.Services
import Redline.Wire.Packet

/-!
# Operations over the radio

`wire_operations.h`, `wire_transaction_state.h` and `radio_operation_bridge.h`, on the side of the Hub: a Host
request for the peer becomes a COMMAND packet, the transaction waits for the acknowledgment and the response,
retransmits and gives up, and the bridge turns what comes of it into a Host response.

The values of the wire are those of the Host protocol, in a smaller array.
-/

namespace Redline.Host

open Redline.Wire

/-! ### The codec of the wire -/

def wireRequestFixedSize : ℕ := 4
def wireResponseFixedSize : ℕ := 5
def maxWireRequestValueSize : ℕ := Wire.maxPayloadSize - wireRequestFixedSize
def maxWireResponseValueSize : ℕ := Wire.maxPayloadSize - wireResponseFixedSize

structure WireRequest where
  targetId : UInt16
  value : TypedValue
  deriving DecidableEq

structure WireResponse where
  status : UInt8
  targetId : UInt16
  value : TypedValue
  deriving DecidableEq

instance : Inhabited WireResponse := ⟨⟨0, 0, default⟩⟩

inductive CodecResult
  | unsupportedOpcode | invalidLength | invalidValueType | invalidValue | invalidStatus
  deriving DecidableEq

def isStructuredOpcode (opcode : UInt8) : Bool :=
  OperationCode.ping ≤ opcode && opcode ≤ OperationCode.getDiagnostics

def isValidRequestSchema (opcode : UInt8) (request : WireRequest) : Bool :=
  if !isStructuredOpcode opcode || !isValidScalarValue request.value then false
  else if opcode = OperationCode.ping ∨ opcode = OperationCode.getDeviceInfo ∨ opcode = OperationCode.getStatus then
    request.targetId == 0 && isNoneValue request.value
  else if opcode = OperationCode.getCapabilities ∨ opcode = OperationCode.getDiagnostics then
    request.targetId == 0 && (isNoneValue request.value || isCursorValue request.value)
  else if opcode = OperationCode.describeCapability ∨ opcode = OperationCode.readCapability then
    request.targetId != 0 && isNoneValue request.value
  else if opcode = OperationCode.setIndicator then request.targetId != 0 && request.value.type == ValueType.boolean
  else if opcode = OperationCode.runProcedure then request.targetId != 0
  else false

def encodeWireRequest (opcode : UInt8) (request : WireRequest) : Except CodecResult Bytes :=
  if !isStructuredOpcode opcode then .error .unsupportedOpcode
  else if !isValidRequestSchema opcode request then .error .invalidValue
  else if Wire.maxPayloadSize < wireRequestFixedSize + request.value.bytes.length then .error .invalidLength
  else .ok (writeUint16Le request.targetId ++ [request.value.type, request.value.bytes.length.toUInt8] ++
    request.value.bytes)

def decodeWireRequest (opcode : UInt8) (input : Bytes) : Except CodecResult WireRequest :=
  if !isStructuredOpcode opcode then .error .unsupportedOpcode
  else if input.length < wireRequestFixedSize ∨ Wire.maxPayloadSize < input.length then .error .invalidLength
  else if maxWireRequestValueSize < (byteAt input 3).toNat ∨
      input.length ≠ wireRequestFixedSize + (byteAt input 3).toNat then .error .invalidLength
  else
    let candidate : WireRequest := ⟨readUint16Le input 0, ⟨byteAt input 2, input.drop wireRequestFixedSize⟩⟩
    if !isKnownValueType candidate.value.type || candidate.value.type == structureValueType then
      .error .invalidValueType
    else if !isValidRequestSchema opcode candidate then .error .invalidValue
    else .ok candidate

def isValidSuccessValue (opcode : UInt8) (value : TypedValue) : Bool :=
  value.bytes.length ≤ maxWireRequestValueSize && isValidSuccessfulOperationValue opcode value

def isValidResponseSchema (opcode : UInt8) (response : WireResponse) : Bool :=
  let zeroTargetOperation := opcode == OperationCode.ping || opcode == OperationCode.getDeviceInfo ||
    opcode == OperationCode.getStatus || opcode == OperationCode.getCapabilities ||
    opcode == OperationCode.getDiagnostics
  if !isStructuredOpcode opcode || !isKnownOperationStatus response.status then false
  else if (zeroTargetOperation && response.targetId != 0) || (!zeroTargetOperation && response.targetId == 0) then
    false
  else if response.status ≠ OperationStatus.ok then isNoneValue response.value
  else isValidSuccessValue opcode response.value

def decodeWireResponse (opcode : UInt8) (input : Bytes) : Except CodecResult WireResponse :=
  if !isStructuredOpcode opcode then .error .unsupportedOpcode
  else if input.length < wireResponseFixedSize ∨ Wire.maxPayloadSize < input.length then .error .invalidLength
  else if maxWireResponseValueSize < (byteAt input 4).toNat ∨
      input.length ≠ wireResponseFixedSize + (byteAt input 4).toNat then .error .invalidLength
  else
    let candidate : WireResponse :=
      ⟨byteAt input 0, readUint16Le input 1, ⟨byteAt input 3, input.drop wireResponseFixedSize⟩⟩
    if !isKnownOperationStatus candidate.status then .error .invalidStatus
    else if !isValidResponseSchema opcode candidate then .error .invalidValue
    else .ok candidate

/-- A COMMAND packet; the payload is empty when the request does not encode. -/
def makeCommand (source destination sequence opcode : UInt8) (request : WireRequest) : Packet where
  type := .command
  source := source
  destination := destination
  sequence := sequence
  opcode := opcode
  payload :=
    match encodeWireRequest opcode request with
    | .ok bytes => bytes
    | .error _ => []

/-! ### The transaction -/

inductive PeerSupport
  | unknown | supported | unsupported
  deriving DecidableEq

def mayStartStructuredOperation (support : PeerSupport) (opcode : UInt8) (explicitlyConfigured : Bool) : Bool :=
  explicitlyConfigured || support == .supported || (support == .unknown && opcode == OperationCode.ping)

inductive StructuredPhase
  | idle | awaitingAck | awaitingResponse
  deriving DecidableEq

inductive StructuredEvent
  | none | ackAccepted | remoteRejected | responseComplete | malformedIgnored | mismatchIgnored | retransmit | timeout
  deriving DecidableEq

namespace AckStatus
def success : UInt8 := 0x00
def unsupportedOpcode : UInt8 := 0x01
def malformedPacket : UInt8 := 0x02
end AckStatus

def isValidAckStatus (value : UInt8) : Bool :=
  value == AckStatus.success || value == AckStatus.unsupportedOpcode || value == AckStatus.malformedPacket

def blankPacket : Packet := ⟨.command, 0, 0, 0, 0, []⟩

structure HubStructuredTransaction where
  phase : StructuredPhase
  support : PeerSupport
  command : Packet
  result : WireResponse
  requestTarget : UInt16
  deadline : UInt32
  retries : UInt8
  maxRetries : UInt8

namespace HubStructuredTransaction

def initial : HubStructuredTransaction := ⟨.idle, .unknown, blankPacket, default, 0, 0, 0, 0⟩

/-- The transaction that has begun, or none when it may not. -/
def begin (t : HubStructuredTransaction) (command : Packet) (now overallTimeout : UInt32) (maxRetries : UInt8) :
    Option HubStructuredTransaction :=
  if t.phase ≠ .idle ∨ command.type ≠ .command ∨ !isStructuredOpcode command.opcode then none
  else
    match decodeWireRequest command.opcode command.payload with
    | .error _ => none
    | .ok request => some { t with
        command, requestTarget := request.targetId, phase := .awaitingAck, deadline := now + overallTimeout
        retries := 0, maxRetries }

def receive (t : HubStructuredTransaction) (packet : Packet) : HubStructuredTransaction × StructuredEvent :=
  if t.phase = .idle then (t, .mismatchIgnored)
  else if packet.source ≠ t.command.destination ∨ packet.destination ≠ t.command.source ∨
      packet.sequence ≠ t.command.sequence ∨ packet.opcode ≠ t.command.opcode then (t, .mismatchIgnored)
  else if packet.type = .ack then
    if packet.payload.length ≠ 1 ∨ !isValidAckStatus (byteAt packet.payload 0) then (t, .malformedIgnored)
    else if byteAt packet.payload 0 ≠ AckStatus.success then
      let support :=
        if t.command.opcode = OperationCode.ping ∧ byteAt packet.payload 0 = AckStatus.unsupportedOpcode then
          PeerSupport.unsupported
        else t.support
      ({ t with support, phase := .idle }, .remoteRejected)
    else ({ t with phase := .awaitingResponse }, .ackAccepted)
  else if packet.type ≠ .response then (t, .mismatchIgnored)
  else
    match decodeWireResponse packet.opcode packet.payload with
    | .error _ => (t, .malformedIgnored)
    | .ok decoded =>
      if decoded.targetId ≠ t.requestTarget then (t, .malformedIgnored)
      else ({ t with result := decoded, support := .supported, phase := .idle }, .responseComplete)

/-- The deadline has not passed while the difference is negative as a signed word. -/
def service (t : HubStructuredTransaction) (now : UInt32) : HubStructuredTransaction × StructuredEvent :=
  if t.phase = .idle ∨ 0x80000000 ≤ now - t.deadline then (t, .none)
  else if t.retries < t.maxRetries then ({ t with retries := t.retries + 1 }, .retransmit)
  else ({ t with phase := .idle }, .timeout)

end HubStructuredTransaction

/-! ### The bridge -/

inductive BridgeAction
  | none | notHandled | notAccepted | transmitCommand | hostResponseReady
  deriving DecidableEq

/-- `HubResult` of the bridge. -/
structure BridgeResult where
  action : BridgeAction
  requestId : UInt16
  packet : Packet
  response : OperationResponse

instance : Inhabited BridgeResult := ⟨⟨.none, 0, blankPacket, default⟩⟩

instance : Inhabited OperationRequest := ⟨⟨0, 0, 0, 0, default⟩⟩

structure HubBridge where
  active : Bool
  nextSequence : UInt8
  requestId : UInt16
  request : OperationRequest
  peerSupport : PeerSupport
  transaction : HubStructuredTransaction

namespace HubBridge

def initial : HubBridge := ⟨false, 0, 0, default, .unknown, .initial⟩

def reject (result : BridgeResult) (code : UInt8) : BridgeResult :=
  { result with
    action := .hostResponseReady
    response := { result.response with resultClass := ResultClass.requestRejected, resultCode := code } }

def submit (b : HubBridge) (requestId : UInt16) (request : OperationRequest) (localRole : DeviceRole)
    (localId peerId : UInt8) (now overallTimeout : UInt32) (maxRetries : UInt8) (explicitlyConfigured : Bool) :
    HubBridge × BridgeResult :=
  let result : BridgeResult := { (default : BridgeResult) with requestId, response := makeHostResponseBase request }
  let validation := validateOperationRequest versionMinor01 request
  if validation ≠ .ok then
    (b, reject result (if validation = .unsupportedCategoryOperation then RequestRejectionCode.unsupportedOperation
      else RequestRejectionCode.malformedRequest))
  else if request.targetDeviceId = localId then (b, { result with action := .notHandled })
  else if localRole ≠ .hub ∨ request.targetDeviceId ≠ peerId then
    (b, reject result RequestRejectionCode.badTarget)
  else if b.active then (b, { result with action := .notAccepted })
  else if !mayStartStructuredOperation b.peerSupport request.operation explicitlyConfigured then
    (b, reject result RequestRejectionCode.unsupportedOperation)
  else
    let command := makeCommand localId peerId b.nextSequence request.operation ⟨request.targetId, request.value⟩
    if command.payload.length = 0 then (b, { result with action := .notAccepted })
    else
      match b.transaction.begin command now overallTimeout maxRetries with
      | none => (b, { result with action := .notAccepted })
      | some transaction =>
        ({ b with transaction := { transaction with support := b.peerSupport }, active := true, requestId, request },
          { result with action := .transmitCommand, packet := command })

def activeBase (b : HubBridge) : BridgeResult :=
  if b.active then
    { (default : BridgeResult) with requestId := b.requestId, response := makeHostResponseBase b.request }
  else default

/-- The operation is over. -/
def finish (b : HubBridge) (result : BridgeResult) : HubBridge × BridgeResult :=
  ({ b with active := false, nextSequence := b.nextSequence + 1 }, { result with action := .hostResponseReady })

def withResult (result : BridgeResult) (resultClass resultCode : UInt8) (value : TypedValue) : BridgeResult :=
  { result with response := { result.response with resultClass, resultCode, value } }

def receive (b : HubBridge) (packet : Packet) : HubBridge × BridgeResult :=
  if !b.active then (b, b.activeBase)
  else
    let (transaction, event) := b.transaction.receive packet
    let b' := { b with transaction, peerSupport := transaction.support }
    match event with
    | .responseComplete =>
      b'.finish (withResult b.activeBase ResultClass.operationResult transaction.result.status transaction.result.value)
    | .remoteRejected =>
      b'.finish (withResult b.activeBase ResultClass.radioResult RadioResultCode.remoteRejected noneValue)
    | _ => (b', b.activeBase)

def service (b : HubBridge) (now : UInt32) : HubBridge × BridgeResult :=
  if !b.active then (b, b.activeBase)
  else
    let (transaction, event) := b.transaction.service now
    let b' := { b with transaction }
    match event with
    | .retransmit => (b', { b.activeBase with action := .transmitCommand, packet := transaction.command })
    | .timeout => b'.finish (withResult b.activeBase ResultClass.radioResult RadioResultCode.timeout noneValue)
    | _ => (b', b.activeBase)

end HubBridge

end Redline.Host
