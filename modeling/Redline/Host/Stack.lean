import Redline.Host.Hello
import Redline.Host.Lifecycle
import Redline.Host.Transport

/-!
# The Host stack of a device

`host_role_integration.h`: the transport, the lifecycle and the connection together.  `serviceRx` reads frames and
answers them, `onRadioPacket` and `serviceRemote` hand out what comes over the radio, and a response that finds the
transport occupied is delivered later (`servicePendingDelivery`).

The diagnostics and traces are written and never read on this path; they are left out.
-/

namespace Redline.Host

open Redline.Wire Redline.Lib

inductive StackAction
  | none | transmitCommand | hostResponseHandoff
  deriving DecidableEq

structure StackResult where
  action : StackAction
  packet : Packet

instance : Inhabited StackResult := ⟨⟨.none, blankPacket⟩⟩

structure Stack where
  transport : Transport
  lifecycle : Lifecycle
  connected : Bool
  pendingOriginalDelivery : Bool
  eventService : Bool

/-- The arguments of `serviceRx`, and the bytes that the stream has. -/
structure RxCall where
  snapshot : DeviceSnapshot
  peerId : UInt8
  registryValid : Bool
  registry : CapabilityRegistryView
  interlock : InterlockState
  now : UInt32
  overallTimeout : UInt32
  radioBridge : Bool
  budget : ℕ
  stream : List (Option UInt8)

/-- The protocol error for a frame that was refused, if its bytes are intact. -/
def refusedFrameError : DecodeResult → Option UInt8
  | .unsupportedMajor => some ProtocolErrorCode.unsupportedMajor
  | .unsupportedMinor => some ProtocolErrorCode.unsupportedMinor
  | .unsupportedMessageType => some ProtocolErrorCode.unsupportedMessageType
  | .unsupportedFlags => some ProtocolErrorCode.unsupportedFlags
  | .invalidRequestId => some ProtocolErrorCode.invalidRequestId
  | _ => none

namespace Stack

/-- The stack at its construction. -/
def initial (connected : Bool) : Stack where
  transport := .initial
  lifecycle := if !connected then Lifecycle.initial.onHostDisconnect else .initial
  connected := connected
  pendingOriginalDelivery := false
  eventService := false

def setEventService (s : Stack) (service : Bool) : Stack := { s with eventService := service }

def observeConnection (s : Stack) (connected : Bool) : Stack :=
  if connected = s.connected then s
  else if !connected then
    { s with connected, transport := s.transport.reset, lifecycle := s.lifecycle.onHostDisconnect
             pendingOriginalDelivery := false }
  else { s with connected, lifecycle := s.lifecycle.onHostReconnect }

def serviceTx (s : Stack) (budget : ℕ) (writable : Int) (written : ℕ) : Stack × TxResult :=
  let (transport, result) := s.transport.serviceTx budget writable written
  ({ s with transport }, result)

def submitFrame (s : Stack) (minor messageType : UInt8) (requestId : UInt16) (payload : Bytes) : Stack × Bool :=
  match encodeFrame ⟨versionMajor, minor, messageType, flagsNone, requestId, payload⟩ maxEncodedFrameSize with
  | .error _ => (s, false)
  | .ok encoded =>
    match s.transport.submit encoded with
    | (transport, .ok) => ({ s with transport }, true)
    | (_, _) => (s, false)

def submitOperationResponse (s : Stack) (minor : UInt8) (requestId : UInt16) (response : OperationResponse) :
    Stack × Bool :=
  match encodeOperationResponse minor response with
  | .error _ => (s, false)
  | .ok payload => s.submitFrame minor MessageType.operationResponse requestId payload

def submitProtocolError (s : Stack) (minor : UInt8) (requestId : UInt16) (error : ProtocolError) : Stack × Bool :=
  match encodeProtocolError error with
  | .error _ => (s, false)
  | .ok payload => s.submitFrame minor MessageType.protocolError requestId payload

/-- The result of a call that has tried to submit a frame. -/
def handoff : Stack × Bool → Stack × StackResult
  | (s, submitted) => (s, { (default : StackResult) with action := if submitted then .hostResponseHandoff else .none })

def servicePendingDelivery (s : Stack) : Stack × Bool :=
  if !s.connected || !s.pendingOriginalDelivery || s.transport.hasPendingTx ||
      decide (s.lifecycle.state ≠ .completed) then (s, false)
  else
    let entry := s.lifecycle.entry
    match s.submitOperationResponse entry.requestMinor entry.requestId entry.response with
    | (s, false) => (s, false)
    | (s, true) => ({ s with pendingOriginalDelivery := false }, true)

/-- A frame that the decoder has refused. -/
def answerRefused (s : Stack) (parsed : StreamResult) : Stack × StackResult :=
  match refusedFrameError parsed.decodeResult with
  | none => (s, default)
  | some code =>
    let minor := if isSupportedVersion versionMajor parsed.frame.minor then parsed.frame.minor else versionMinor01
    handoff (s.submitProtocolError minor parsed.frame.requestId ⟨code, parsed.frame.messageType, 0⟩)

def answerHello (s : Stack) (c : RxCall) (frame : Frame) : Stack × StackResult :=
  match decodeHelloRequest frame.minor frame.payload with
  | .error _ =>
    handoff (s.submitProtocolError frame.minor frame.requestId
      ⟨ProtocolErrorCode.malformedPayload, frame.messageType, 0⟩)
  | .ok request =>
    match handleHello frame.major frame.minor request c.snapshot c.radioBridge s.eventService with
    | .response response =>
      match encodeHelloResponse response with
      | .error _ => (s, default)
      | .ok payload => handoff (s.submitFrame frame.minor MessageType.helloResponse frame.requestId payload)
    | .protocolError error => handoff (s.submitProtocolError frame.minor frame.requestId error)

/-- The submission that a request frame makes to the lifecycle. -/
def submissionOf (s : Stack) (c : RxCall) (frame : Frame) : Submission where
  requestId := frame.requestId
  payload := frame.payload
  snapshot := c.snapshot
  peerId := c.peerId
  registryValid := c.registryValid
  registry := c.registry
  interlock := c.interlock
  now := c.now
  overallTimeout := c.overallTimeout
  maxRetries := 2
  explicitlyConfigured := false
  requestMinor := frame.minor
  eventService := s.eventService

/-- What becomes of the result of the lifecycle. -/
def answerRequest (s : Stack) (life : LifecycleResult) : Stack × StackResult :=
  match life.action with
  | .transmitCommand => (s, ⟨.transmitCommand, life.packet⟩)
  | .hostResponseReady => handoff (s.submitOperationResponse life.responseMinor life.requestId life.response)
  | _ => (s, default)

def serviceRx (s : Stack) (c : RxCall) : ServiceM (Stack × StackResult) := do
  if !s.connected || s.transport.hasPendingTx then return (s, default)
  let (transport, rx) := s.transport.serviceRx c.budget c.stream
  let s := { s with transport }
  if rx.status ≠ .parserEvent then return (s, default)
  if rx.parserResult.event ≠ .frameReady then return s.answerRefused rx.parserResult
  let frame := rx.parserResult.frame
  if frame.messageType = MessageType.helloRequest then return s.answerHello c frame
  if frame.messageType ≠ MessageType.operationRequest then return (s, default)
  match decodeOperationRequest frame.minor frame.payload with
  | .error _ => return (s, default)
  | .ok _ => do
    let (lifecycle, life) ← s.lifecycle.submit (s.submissionOf c frame)
    return { s with lifecycle }.answerRequest life

/-- What the lifecycle hands out for the active request. -/
def consumeRemote (s : Stack) (life : LifecycleResult) : Stack × StackResult :=
  match life.action with
  | .transmitCommand => (s, ⟨.transmitCommand, life.packet⟩)
  | .hostResponseReady =>
    if s.transport.hasPendingTx then ({ s with pendingOriginalDelivery := s.connected || s.pendingOriginalDelivery }, default)
    else
      match s.submitOperationResponse life.responseMinor life.requestId life.response with
      | (s, true) => (s, { (default : StackResult) with action := .hostResponseHandoff })
      | (s, false) => ({ s with pendingOriginalDelivery := s.connected || s.pendingOriginalDelivery }, default)
  | _ => (s, default)

def onRadioPacket (s : Stack) (packet : Packet) : Stack × StackResult :=
  let (lifecycle, life) := s.lifecycle.receive packet
  consumeRemote { s with lifecycle } life

def serviceRemote (s : Stack) (now : UInt32) : Stack × StackResult :=
  let (lifecycle, life) := s.lifecycle.service now
  consumeRemote { s with lifecycle } life

def reset (s : Stack) : Stack where
  transport := s.transport.reset
  lifecycle := s.lifecycle.reset
  connected := true
  pendingOriginalDelivery := false
  eventService := s.eventService

end Stack

end Redline.Host
