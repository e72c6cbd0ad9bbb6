import Redline.Host.Bridge

/-!
# The lifecycle of a Host operation

`host_operation_lifecycle.h`: one request at a time is accepted, from the Host link to its completion by a local
service or by the radio, and the last one stays with its response until the next one is accepted, so that the
Host may ask again.  The local services are called through `ServiceOp`: what they answer is theirs.
-/

namespace Redline.Host

open Redline.Wire Redline.Lib

/-- The calls that the lifecycle makes to the local services. -/
inductive ServiceOp
  | localOperation (requestId : UInt16) (request : OperationRequest) (snapshot : DeviceSnapshot)
      (registryValid : Bool) (registry : CapabilityRegistryView) (interlock : InterlockState) (requestMinor : UInt8)
  | event (requestId : UInt16) (request : OperationRequest) (role : DeviceRole) (localDeviceId : UInt8)

abbrev ServiceOp.Reply : ServiceOp → Type := fun _ => ServiceResult

abbrev ServiceM := Prog ServiceOp.Reply

def callService (op : ServiceOp) : ServiceM ServiceResult := Prog.lift op

inductive LifecycleState
  | empty | active | completed
  deriving DecidableEq

inductive LifecycleAction
  | none | invalidRequest | activeDuplicate | transmitCommand | hostResponseReady | hostResponseSuppressed
  | responseRetained
  deriving DecidableEq

structure LifecycleResult where
  action : LifecycleAction
  requestId : UInt16
  responseMinor : UInt8
  packet : Packet
  response : OperationResponse

instance : Inhabited LifecycleResult := ⟨⟨.none, 0, 0, blankPacket, default⟩⟩

structure RetainedEntry where
  requestId : UInt16
  requestMinor : UInt8
  requestPayload : Bytes
  response : OperationResponse

instance : Inhabited RetainedEntry := ⟨⟨0, 0, [], default⟩⟩

structure Lifecycle where
  state : LifecycleState
  hostConnected : Bool
  entry : RetainedEntry
  remoteBridge : HubBridge

/-- The arguments of `submit`. -/
structure Submission where
  requestId : UInt16
  payload : Bytes
  snapshot : DeviceSnapshot
  peerId : UInt8
  registryValid : Bool
  registry : CapabilityRegistryView
  interlock : InterlockState
  now : UInt32
  overallTimeout : UInt32
  maxRetries : UInt8
  explicitlyConfigured : Bool
  requestMinor : UInt8
  eventService : Bool

namespace Lifecycle

def initial : Lifecycle := ⟨.empty, true, default, .initial⟩

def acceptIdentity (l : Lifecycle) (requestId : UInt16) (requestMinor : UInt8) (payload : Bytes) : Lifecycle :=
  { l with entry := { (default : RetainedEntry) with requestId, requestMinor, requestPayload := payload }
           state := .active }

def complete (l : Lifecycle) (response : OperationResponse) : Lifecycle :=
  { l with entry := { l.entry with response }, state := .completed }

/-- What is done with a response that stays available. -/
def deliver (l : Lifecycle) : LifecycleAction := if l.hostConnected then .hostResponseReady else .responseRetained

/-- What is done with a response that nobody keeps. -/
def deliverOnce (l : Lifecycle) : LifecycleAction :=
  if l.hostConnected then .hostResponseReady else .hostResponseSuppressed

def rejection (l : Lifecycle) (requestId : UInt16) (request : OperationRequest) (requestMinor code : UInt8) :
    LifecycleResult where
  action := l.deliverOnce
  requestId := requestId
  responseMinor := requestMinor
  packet := blankPacket
  response := { makeHostResponseBase request with resultClass := ResultClass.requestRejected, resultCode := code }

/-- The call for a request that is served here. -/
def localService (a : Submission) (request : OperationRequest) : ServiceM ServiceResult :=
  if request.category = OperationCategory.event then
    if a.eventService then callService (.event a.requestId request a.snapshot.role a.snapshot.deviceId)
    else
      let code := if request.targetDeviceId = a.snapshot.deviceId then RequestRejectionCode.unsupportedOperation
        else RequestRejectionCode.badTarget
      return rejectRequest a.requestId request code true
  else callService (.localOperation a.requestId request a.snapshot a.registryValid a.registry a.interlock
    a.requestMinor)

/-- What the lifecycle makes of the result of a local service. -/
def finishLocal (l : Lifecycle) (a : Submission) (request : OperationRequest) (result : ServiceResult) :
    Lifecycle × LifecycleResult :=
  let base : LifecycleResult :=
    { (default : LifecycleResult) with requestId := a.requestId, responseMinor := a.requestMinor }
  if result.disposition ≠ .handled then
    (l, l.rejection a.requestId request a.requestMinor
      (if result.disposition = .notHandled then RequestRejectionCode.unsupportedOperation else result.rejectionCode))
  else if result.response.resultClass = ResultClass.requestRejected then
    (l, { base with action := l.deliverOnce, response := result.response })
  else
    let l := (l.acceptIdentity a.requestId a.requestMinor a.payload).complete result.response
    (l, { base with action := l.deliver, response := l.entry.response })

/-- A request for the peer. -/
def submitRemote (l : Lifecycle) (a : Submission) (request : OperationRequest) : Lifecycle × LifecycleResult :=
  let base : LifecycleResult :=
    { (default : LifecycleResult) with requestId := a.requestId, responseMinor := a.requestMinor }
  let (bridge, remote) := l.remoteBridge.submit a.requestId request a.snapshot.role a.snapshot.deviceId a.peerId a.now
    a.overallTimeout a.maxRetries a.explicitlyConfigured
  let l := { l with remoteBridge := bridge }
  match remote.action with
  | .transmitCommand =>
    (l.acceptIdentity a.requestId a.requestMinor a.payload,
      { base with action := .transmitCommand, packet := remote.packet })
  | .hostResponseReady => (l, { base with action := l.deliverOnce, response := remote.response })
  | _ => (l, { base with action := .invalidRequest })

def submit (l : Lifecycle) (a : Submission) : ServiceM (Lifecycle × LifecycleResult) := do
  let base : LifecycleResult :=
    { (default : LifecycleResult) with requestId := a.requestId, responseMinor := a.requestMinor }
  if !isValidRequestId a.requestId || decide (maxPayloadSize < a.payload.length) then
    return (l, { base with action := .invalidRequest })
  match decodeOperationRequest a.requestMinor a.payload with
  | .error _ => return (l, { base with action := .invalidRequest })
  | .ok request =>
    if l.state ≠ .empty ∧ a.requestId = l.entry.requestId then
      if a.payload ≠ l.entry.requestPayload then
        return (l, l.rejection a.requestId request a.requestMinor RequestRejectionCode.mismatch)
      if l.state = .active then return (l, { base with action := .activeDuplicate })
      return (l, { base with action := l.deliver, responseMinor := l.entry.requestMinor, response := l.entry.response })
    if l.state = .active then
      return (l, l.rejection a.requestId request a.requestMinor RequestRejectionCode.busy)
    if request.targetDeviceId = a.snapshot.deviceId ∨ request.category = OperationCategory.event then
      let result ← localService a request
      return l.finishLocal a request result
    return l.submitRemote a request

/-- What comes over the bridge to the active request. -/
def consumeRemote (l : Lifecycle) (remote : BridgeResult) : Lifecycle × LifecycleResult :=
  if l.state ≠ .active then (l, default)
  else
    let base : LifecycleResult :=
      { (default : LifecycleResult) with requestId := l.entry.requestId, responseMinor := l.entry.requestMinor }
    match remote.action with
    | .transmitCommand => (l, { base with action := .transmitCommand, packet := remote.packet })
    | .hostResponseReady =>
      let l := l.complete remote.response
      (l, { base with action := l.deliver, response := l.entry.response })
    | _ => (l, base)

def receive (l : Lifecycle) (packet : Packet) : Lifecycle × LifecycleResult :=
  let (bridge, remote) := l.remoteBridge.receive packet
  consumeRemote { l with remoteBridge := bridge } remote

def service (l : Lifecycle) (now : UInt32) : Lifecycle × LifecycleResult :=
  let (bridge, remote) := l.remoteBridge.service now
  consumeRemote { l with remoteBridge := bridge } remote

def onHostDisconnect (l : Lifecycle) : Lifecycle := { l with hostConnected := false }

def onHostReconnect (l : Lifecycle) : Lifecycle := { l with hostConnected := true }

def reset (_ : Lifecycle) : Lifecycle := initial

end Lifecycle

end Redline.Host
