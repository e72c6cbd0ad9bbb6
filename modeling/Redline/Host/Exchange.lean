import Redline.Host.ProcessorRuns
import Redline.Host.Turns

/-!
# A remote operation is a local one

An exchange is an operation that crosses the radio: the bridge of the Hub makes a COMMAND of the request of the Host,
the processor of the Node admits and executes it, and the bridge makes the response of the Host of the RESPONSE that
comes back.  `remote_equals_local`: what the Host gets is what the services of the Node say to the same request when it
is made on the Node, down to the state in which they leave the device.

The Hub may be in any state that calls of its bridge lead to (`HubBridge.Reachable`) and the Node in any state of a run.
-/

namespace Redline.Host

open Redline.Wire Redline.Lib

/-! ### The bridge -/

namespace HubBridge

def configurePeerSupport (b : HubBridge) (support : PeerSupport) : HubBridge := { b with peerSupport := support }

/-- The states of the bridge that its calls lead to. -/
inductive Reachable : HubBridge → Prop
  | initial : Reachable .initial
  | configurePeerSupport {b : HubBridge} (h : Reachable b) (support : PeerSupport) :
      Reachable (b.configurePeerSupport support)
  | submit {b : HubBridge} (h : Reachable b) (requestId : UInt16) (request : OperationRequest)
      (localRole : DeviceRole) (localId peerId : UInt8) (now overallTimeout : UInt32) (maxRetries : UInt8)
      (explicitlyConfigured : Bool) :
      Reachable (b.submit requestId request localRole localId peerId now overallTimeout maxRetries
        explicitlyConfigured).1
  | receive {b : HubBridge} (h : Reachable b) (packet : Packet) : Reachable (b.receive packet).1
  | service {b : HubBridge} (h : Reachable b) (now : UInt32) : Reachable (b.service now).1

theorem Advances.inStep {b : HubBridge} {r : HubBridge × BridgeResult} (h : b.Advances r) (hb : b.InStep) :
    r.1.InStep := by
  cases h with
  | waits _ _ hstep => exact hstep hb
  | repeats _ _ hstep => exact hstep hb
  | finished _ hidle hphase => constructor <;> simp [hidle, hphase]

theorem Reachable.inStep {b : HubBridge} (h : b.Reachable) : b.InStep := by
  induction h with
  | initial => exact initial_inStep
  | configurePeerSupport h support ih => exact ih.of_eq rfl rfl Iff.rfl rfl rfl
  | @submit b h requestId request localRole localId peerId now overallTimeout maxRetries explicitlyConfigured ih =>
    have hsub := b.submit_submits requestId request localRole localId peerId now overallTimeout maxRetries
      explicitlyConfigured
    generalize b.submit requestId request localRole localId peerId now overallTimeout maxRetries
      explicitlyConfigured = r at hsub
    cases hsub with
    | rejected => exact ih
    | notTaken => exact ih
    | begun _ _ hstep => exact hstep
  | @receive b h packet ih => exact (b.receive_advances packet).inStep ih
  | @service b h now ih => exact (b.service_advances now).inStep ih

/-- The bridge after it has begun with the request. -/
def begun (b : HubBridge) (requestId : UInt16) (request : OperationRequest) (command : Packet)
    (now overallTimeout : UInt32) (maxRetries : UInt8) : HubBridge :=
  { b with
    transaction := { b.transaction with
      command, requestTarget := request.targetId, phase := .awaitingAck, deadline := now + overallTimeout
      retries := 0, maxRetries, support := b.peerSupport }
    active := true, requestId, request }

/-- **An idle bridge takes every request for its peer.** -/
theorem submit_idle {b : HubBridge} {request : OperationRequest} {localId peerId : UInt8}
    {explicitlyConfigured : Bool} (requestId : UInt16) (now overallTimeout : UInt32) (maxRetries : UInt8) (hb : b.InStep)
    (hidle : b.active = false) (hvalid : validateOperationRequest versionMinor01 request = .ok)
    (hremote : request.targetDeviceId ≠ localId) (hpeer : request.targetDeviceId = peerId)
    (hmay : mayStartStructuredOperation b.peerSupport request.operation explicitlyConfigured = true) :
    ∃ payload, payload ≠ [] ∧ payload.length ≤ Wire.maxPayloadSize ∧
      decodeWireRequest request.operation payload = .ok ⟨request.targetId, request.value⟩ ∧
      b.submit requestId request .hub localId peerId now overallTimeout maxRetries explicitlyConfigured =
        (b.begun requestId request ⟨.command, localId, peerId, b.nextSequence, request.operation, payload⟩ now
          overallTimeout maxRetries,
          { action := .transmitCommand, requestId, response := makeHostResponseBase request
            packet := ⟨.command, localId, peerId, b.nextSequence, request.operation, payload⟩ }) := by
  obtain ⟨payload, henc, hlen, hdec⟩ := decodeWireRequest_encode hvalid
  have hop := (validated_schema hvalid).1
  have hphase : b.transaction.phase = .idle := by
    by_contra hc
    rw [hb.phase.2 hc] at hidle
    cases hidle
  refine ⟨payload, fun hc => hlen (by rw [hc]; rfl), (decodeWireRequest_schema hdec).2, hdec, ?_⟩
  have hcommand : makeCommand localId peerId b.nextSequence request.operation ⟨request.targetId, request.value⟩ =
      ⟨.command, localId, peerId, b.nextSequence, request.operation, payload⟩ := by
    simp only [makeCommand, henc]
  unfold submit
  dsimp only
  rw [if_neg (not_not.2 hvalid), if_neg hremote, if_neg (by simp [hpeer]), if_neg (by simp [hidle]),
    if_neg (by simp [hmay]), hcommand, if_neg hlen]
  unfold HubStructuredTransaction.begin
  dsimp only
  rw [if_neg (by simp [hphase, hop]), hdec]
  rfl

end HubBridge

/-! ### The request of the Host on the Node -/

theorem category_of_valid {request : OperationRequest} (h : validateOperationRequest versionMinor01 request = .ok) :
    request.category = NodeProcessor.categoryFor request.operation := by
  cases validated_cases h with
  | device hc hop =>
    rcases hop with hop | hop | hop <;> rw [hc, hop] <;> rfl
  | list hc hop => rw [hc, hop]; rfl
  | look hc hop => rcases hop with hop | hop <;> rw [hc, hop] <;> rfl
  | indicator hc hop => rw [hc, hop]; rfl
  | procedure hc hop => rw [hc, hop]; rfl
  | diagnostics hc hop => rw [hc, hop]; rfl
  | eventDiagnostics hminor | poll hminor | consume hminor => exact absurd hminor (by decide)

/-- The same request, made on the Node itself. -/
theorem hostRequest_of_valid {request : OperationRequest} (snapshot : DeviceSnapshot)
    (h : validateOperationRequest versionMinor01 request = .ok) :
    NodeProcessor.hostRequest snapshot request.operation ⟨request.targetId, request.value⟩ =
      { request with targetDeviceId := snapshot.deviceId } := by
  unfold NodeProcessor.hostRequest
  rw [← category_of_valid h]

section RequestId

variable {result : ServiceResult} {id : UInt16}

/-- The request id is carried along, and nothing more. -/
theorem setRecord_requestId (encoded : Except PayloadResult TypedValue) :
    (setRecord { result with requestId := id } encoded).response = (setRecord result encoded).response := by
  cases encoded <;> rfl

theorem deviceResult_requestId (request : OperationRequest) (snapshot : DeviceSnapshot) :
    (deviceResult { result with requestId := id } request snapshot).response =
      (deviceResult result request snapshot).response := by
  unfold deviceResult
  split
  · rfl
  split
  · exact setRecord_requestId _
  split
  · exact setRecord_requestId _
  split
  · split <;> exact setRecord_requestId _
  dsimp only
  generalize (if isNoneValue request.value = true then 0 else readUint32Le request.value.bytes 0) = cursor
  split
  · rfl
  · exact setRecord_requestId _

theorem handleGetCapabilities_requestId (request : OperationRequest) (registryValid : Bool)
    (registry : CapabilityRegistryView) :
    (handleGetCapabilities { result with requestId := id } request registryValid registry).response =
      (handleGetCapabilities result request registryValid registry).response := by
  unfold handleGetCapabilities
  split
  · rfl
  dsimp only
  generalize (if isNoneValue request.value = true then 0 else readUint32Le request.value.bytes 0) = cursor
  split
  · rfl
  split
  · rfl
  · exact setRecord_requestId _

theorem handleDescribeCapability_requestId (request : OperationRequest) (registryValid : Bool)
    (registry : CapabilityRegistryView) {σ : Type} (dev : Device DeviceOp.Reply σ) (s : σ) :
    ((handleDescribeCapability { result with requestId := id } request registryValid registry).run dev s).1.response =
      ((handleDescribeCapability result request registryValid registry).run dev s).1.response ∧
    ((handleDescribeCapability { result with requestId := id } request registryValid registry).run dev s).2 =
      ((handleDescribeCapability result request registryValid registry).run dev s).2 := by
  unfold handleDescribeCapability
  split
  · exact ⟨rfl, rfl⟩
  split
  · exact ⟨rfl, rfl⟩
  · rename_i d _
    rw [Prog.run_bind, Prog.run_bind]
    generalize Prog.run dev (queryAvailability d.id) s = asked
    obtain ⟨available, s'⟩ := asked
    cases available with
    | none => exact ⟨rfl, rfl⟩
    | some available => exact ⟨setRecord_requestId _, rfl⟩

/-- The services say the same under every request id, and do the same to the device. -/
theorem handleLocalOperation_requestId {opcode : UInt8} {request : WireRequest} {c : NodeContext} {σ : Type}
    (h : isValidRequestSchema opcode request = true) (hop : ServedLocally opcode) (id' : UInt16)
    (dev : Device DeviceOp.Reply σ) (s : σ) :
    ∀ r r', r = (handleLocalOperation id (NodeProcessor.hostRequest c.snapshot opcode request) c.snapshot
        c.registryValid c.registry c.interlock versionMinor01).run dev s →
      r' = (handleLocalOperation id' (NodeProcessor.hostRequest c.snapshot opcode request) c.snapshot
        c.registryValid c.registry c.interlock versionMinor01).run dev s →
      r.1.response = r'.1.response ∧ r.2 = r'.2 := by
  rintro r r' rfl rfl
  rw [handleLocalOperation_eq h hop, handleLocalOperation_eq h hop]
  split
  · exact ⟨@handleGetCapabilities_requestId { makeBaseResult id' (NodeProcessor.hostRequest c.snapshot opcode request)
      with disposition := .handled } id _ _ _, rfl⟩
  split
  · exact @handleDescribeCapability_requestId { makeBaseResult id' (NodeProcessor.hostRequest c.snapshot opcode request)
      with disposition := .handled } id _ _ _ _ dev s
  · exact ⟨@deviceResult_requestId (makeBaseResult id' (NodeProcessor.hostRequest c.snapshot opcode request)) id _ _,
      rfl⟩

end RequestId

/-- **What is performed for the six served operations** is what the services say. -/
theorem perform_served {opcode : UInt8} {request : WireRequest} {c : NodeContext} {σ : Type}
    (hop : ServedLocally opcode) (dev : Device DeviceOp.Reply σ) (s : σ) :
    ∀ r, r = (handleLocalOperation 1 (NodeProcessor.hostRequest c.snapshot opcode request) c.snapshot
        c.registryValid c.registry c.interlock versionMinor01).run dev s →
      (NodeProcessor.perform c opcode request).run dev s =
        ((r.1.response.resultCode, r.1.response.value), r.2) := by
  rintro r rfl
  have hgate : ¬ (opcode = OperationCode.readCapability ∨ opcode = OperationCode.setIndicator) := by
    rcases hop with rfl | rfl | rfl | rfl | rfl | rfl <;> decide
  have hproc : opcode ≠ OperationCode.runProcedure := by
    rcases hop with rfl | rfl | rfl | rfl | rfl | rfl <;> decide
  unfold NodeProcessor.perform
  rw [if_neg hgate, if_neg hproc, Prog.run_bind]
  rfl

/-! ### The Node -/

/-- An active command is executed to the response that is made of what has been performed. -/
theorem execute_run {p : NodeProcessor} {c : NodeContext} {request : WireRequest} {σ : Type} (h : p.Consistent)
    (hactive : p.retained.isActive = true) (hdec : decodeWireRequest p.retained.opcode p.retained.payload = .ok request)
    (dev : Device DeviceOp.Reply σ) (s : σ) :
    ∀ performed, performed = (NodeProcessor.perform c p.retained.opcode request).run dev s →
      Performed p.retained.opcode performed.1 ∧
      ((p.executeAdmittedOperation c).run dev s).1.2 =
        { (default : NodeResult) with
          action := .responseReady
          response := makeResponsePacket p.retained.rememberedCommand
            (NodeProcessor.wireResponse request performed.1) } ∧
      ((p.executeAdmittedOperation c).run dev s).2 = performed.2 := by
  rintro performed rfl
  obtain ⟨ops, hret⟩ := Prog.returns_run dev (NodeProcessor.perform c p.retained.opcode request) s
  have hschema := (decodeWireRequest_schema hdec).1
  have hp := perform_performed hschema hret
  obtain ⟨-, hne, hcomplete⟩ := NodeProcessor.complete_response hactive hdec (perform_schema hschema hp) rfl
  refine ⟨hp, ?_⟩
  unfold NodeProcessor.executeAdmittedOperation
  rw [h.pending, hactive, if_neg (by decide), h.command hactive, show p.retained.rememberedCommand.opcode =
    p.retained.opcode from rfl, show p.retained.rememberedCommand.payload = p.retained.payload from rfl, hdec]
  dsimp only
  rw [Prog.run_bind, if_neg hne, hcomplete]
  exact ⟨rfl, rfl⟩

/-! ### Back at the Hub -/

namespace HubBridge

variable {b : HubBridge}

theorem receive_acknowledgment (hactive : b.active = true) (hphase : b.transaction.phase ≠ .idle) :
    b.receive (makeAcknowledgment b.transaction.command AckStatus.success) =
      ({ b with transaction := { b.transaction with phase := .awaitingResponse }
                peerSupport := b.transaction.support }, b.activeBase) := by
  have hheard : b.transaction.receive (makeAcknowledgment b.transaction.command AckStatus.success) =
      ({ b.transaction with phase := .awaitingResponse }, .ackAccepted) := by
    unfold HubStructuredTransaction.receive
    rw [if_neg hphase, if_neg (by simp [makeAcknowledgment])]
    rfl
  unfold receive
  rw [if_neg (by simp [hactive]), hheard]

/-- The response to the command completes the operation, and the peer is known to support such operations then. -/
theorem receive_response {w : WireResponse} (hactive : b.active = true) (hphase : b.transaction.phase ≠ .idle)
    (hw : isValidResponseSchema b.transaction.command.opcode w = true)
    (htarget : w.targetId = b.transaction.requestTarget) :
    (b.receive (makeResponsePacket b.transaction.command w)).1.active = false ∧
      (b.receive (makeResponsePacket b.transaction.command w)).1.peerSupport = .supported ∧
      (b.receive (makeResponsePacket b.transaction.command w)).2 =
        { action := .hostResponseReady, requestId := b.requestId, packet := blankPacket
          response := { makeHostResponseBase b.request with
            resultClass := ResultClass.operationResult, resultCode := w.status, value := w.value } } := by
  obtain ⟨bytes, henc, -, -, hback⟩ := decodeWireResponse_encode hw
  have hpayload : (makeResponsePacket b.transaction.command w).payload = bytes := by
    simp only [makeResponsePacket, henc]
  have hheard : b.transaction.receive (makeResponsePacket b.transaction.command w) =
      ({ b.transaction with result := w, support := .supported, phase := .idle }, .responseComplete) := by
    unfold HubStructuredTransaction.receive
    rw [if_neg hphase, if_neg (by simp [makeResponsePacket]), if_neg (by simp [makeResponsePacket]),
      if_neg (by simp [makeResponsePacket]), hpayload, show (makeResponsePacket b.transaction.command w).opcode =
        b.transaction.command.opcode from rfl, hback]
    exact if_neg (not_not.2 htarget)
  unfold receive
  rw [if_neg (by simp [hactive]), hheard, activeBase_of_active b hactive]
  exact ⟨rfl, rfl, rfl⟩

end HubBridge

/-! ### The exchange -/

/-- An operation that crosses the radio: the Hub and the request of its Host, the Node and its device. -/
structure Exchange (σ : Type) where
  bridge : HubBridge
  requestId : UInt16
  request : OperationRequest
  hubId : UInt8
  nodeId : UInt8
  now : UInt32
  overallTimeout : UInt32
  maxRetries : UInt8
  explicitlyConfigured : Bool
  node : NodeProcessor
  context : NodeContext
  dev : Device DeviceOp.Reply σ
  device : σ

namespace Exchange

variable {σ : Type} (e : Exchange σ)

def submitted : HubBridge × BridgeResult :=
  e.bridge.submit e.requestId e.request .hub e.hubId e.nodeId e.now e.overallTimeout e.maxRetries e.explicitlyConfigured

def command : Packet := e.submitted.2.packet

def admitted : NodeProcessor × NodeResult := e.node.admitCommand e.command e.nodeId e.hubId

def executed : (NodeProcessor × NodeResult) × σ := (e.admitted.1.executeAdmittedOperation e.context).run e.dev e.device

def response : Packet := e.executed.1.2.response

def acknowledged : HubBridge × BridgeResult := e.submitted.1.receive e.admitted.2.acknowledgment

def received : HubBridge × BridgeResult := e.acknowledged.1.receive e.response

/-- The request on the Node itself, under any request id. -/
def localResult (requestId : UInt16) : ServiceResult × σ :=
  (handleLocalOperation requestId { e.request with targetDeviceId := e.context.snapshot.deviceId } e.context.snapshot
    e.context.registryValid e.context.registry e.context.interlock versionMinor01).run e.dev e.device

/-- A request for the peer at a bridge that is idle and may start it. -/
structure Remote : Prop where
  bridge : e.bridge.Reachable
  idle : e.bridge.active = false
  supported : mayStartStructuredOperation e.bridge.peerSupport e.request.operation e.explicitlyConfigured = true
  valid : validateOperationRequest versionMinor01 e.request = .ok
  peer : e.request.targetDeviceId = e.nodeId
  other : e.nodeId ≠ e.hubId

/-- The Node is at the end of a run, with nothing to execute and without this very command. -/
structure Free : Prop where
  run : ∃ turns, (processor e.nodeId e.hubId).IsRun .initial turns ∧
    (processor e.nodeId e.hubId).last .initial turns = e.node
  idle : e.node.retained.isActive = false
  new : e.node.retained.isDuplicate e.command = false

/-- The packet goes over the radio as it is. -/
def Carried (packet : Packet) : Prop :=
  ∃ bytes, Wire.encode packet Wire.maxPacketSize = some bytes ∧ bytes.length ≤ Wire.maxPacketSize ∧
    Wire.decode bytes = some packet

theorem carried_of_short {packet : Packet} (h : packet.payload.length ≤ Wire.maxPayloadSize) : Carried packet := by
  have hmax : Wire.maxPacketSize = 32 := rfl
  have hheader : Wire.headerSize = 6 := rfl
  have hsize : Wire.maxPayloadSize = 26 := rfl
  have henc : ∃ bytes, Wire.encode packet Wire.maxPacketSize = some bytes ∧ bytes.length ≤ Wire.maxPacketSize := by
    unfold Wire.encode
    rw [if_neg (by omega), if_neg (by omega)]
    refine ⟨_, rfl, ?_⟩
    simp only [List.length_append, List.length_cons, List.length_nil]
    omega
  obtain ⟨bytes, hbytes, hlen⟩ := henc
  exact ⟨bytes, hbytes, hlen, Wire.decode_encode hbytes⟩

/-- The COMMAND that the Node understands as the request. -/
structure Commands : Prop where
  action : e.submitted.2.action = .transmitCommand
  type : e.command.type = .command
  nonempty : e.command.payload ≠ []
  carried : Carried e.command
  decodes : decodeWireRequest e.command.opcode e.command.payload = .ok ⟨e.request.targetId, e.request.value⟩

/-- The Host is answered as it would be on the Node. -/
structure Answers : Prop where
  admitted : e.admitted.2.action = .ackThenExecute
  acknowledged : e.acknowledged.2.action = .none
  executed : e.executed.1.2.action = .responseReady
  carried : Carried e.response
  received : e.received.2.action = .hostResponseReady
  requestId : e.received.2.requestId = e.requestId
  resultClass : ∀ id, e.received.2.response.resultClass = (e.localResult id).1.response.resultClass
  resultCode : ∀ id, e.received.2.response.resultCode = (e.localResult id).1.response.resultCode
  value : ∀ id, e.received.2.response.value = (e.localResult id).1.response.value
  device : ∀ id, e.executed.2 = (e.localResult id).2

variable {e}

theorem submitted_eq (h : e.Remote) :
    ∃ payload, payload ≠ [] ∧ payload.length ≤ Wire.maxPayloadSize ∧
      decodeWireRequest e.request.operation payload = .ok ⟨e.request.targetId, e.request.value⟩ ∧
      e.submitted = (e.bridge.begun e.requestId e.request e.command e.now e.overallTimeout e.maxRetries,
        { action := .transmitCommand, requestId := e.requestId, packet := e.command
          response := makeHostResponseBase e.request }) ∧
      e.command = ⟨.command, e.hubId, e.nodeId, e.bridge.nextSequence, e.request.operation, payload⟩ := by
  obtain ⟨payload, hne, hlen, hdec, heq⟩ := HubBridge.submit_idle e.requestId e.now e.overallTimeout e.maxRetries
    h.bridge.inStep h.idle h.valid (by rw [h.peer]; exact h.other) h.peer h.supported
  have hsub : e.submitted = _ := heq
  have hcommand : e.command = ⟨.command, e.hubId, e.nodeId, e.bridge.nextSequence, e.request.operation, payload⟩ := by
    rw [command, hsub]
  exact ⟨payload, hne, hlen, hdec, by rw [hsub, hcommand], hcommand⟩

theorem commands (h : e.Remote) : e.Commands := by
  obtain ⟨payload, hne, hlen, hdec, hsub, hcommand⟩ := submitted_eq h
  constructor
  · rw [hsub]
  · rw [hcommand]
  · rw [hcommand]
    exact hne
  · exact carried_of_short (by rw [hcommand]; exact hlen)
  · rw [hcommand]
    exact hdec

/-- A free Node admits the command. -/
theorem admitted_eq (h : e.Remote) (hfree : e.Free) :
    e.admitted = ({ e.node with retained := NodeProcessor.entryOf e.command, pendingCommand := e.command
                                hasPendingCommand := true },
      { (default : NodeResult) with
        action := .ackThenExecute, acknowledgment := makeAcknowledgment e.command AckStatus.success }) := by
  have hc := commands h
  obtain ⟨payload, -, -, hdec, -, hcommand⟩ := submitted_eq h
  have haddr : NodeProcessor.Addressed e.command e.nodeId e.hubId := by
    refine ⟨?_, ?_, hc.type, ?_, _, hc.decodes⟩
    · rw [hcommand]
    · rw [hcommand]
    · rw [hcommand]
      exact (validated_schema h.valid).1
  have hack : (NodeProcessor.entryOf e.command).acknowledgment = makeAcknowledgment e.command AckStatus.success := by
    unfold NodeRetainedOperation.acknowledgment
    rw [NodeProcessor.rememberedCommand_entryOf hc.type]
  have hadm := NodeProcessor.admitCommand_cases e.node e.command e.nodeId e.hubId
  unfold admitted
  generalize e.node.admitCommand e.command e.nodeId e.hubId = r at hadm
  cases hadm with
  | refused hno => exact absurd haddr hno
  | pending _ hdup | complete _ hdup => exact absurd (hdup.symm.trans hfree.new) (by decide)
  | busy _ _ hactive => exact absurd (hactive.symm.trans hfree.idle) (by decide)
  | admitted => rw [hack]

/-- The local result, under any request id. -/
theorem localResult_eq (h : e.Remote) (hop : ServedLocally e.request.operation) (id : UInt16) :
    (NodeProcessor.perform e.context e.request.operation ⟨e.request.targetId, e.request.value⟩).run e.dev e.device =
        (((e.localResult id).1.response.resultCode, (e.localResult id).1.response.value), (e.localResult id).2) ∧
      (e.localResult id).1.response.resultClass = ResultClass.operationResult := by
  have hschema := (validated_schema h.valid).2.2
  have hrequest := hostRequest_of_valid e.context.snapshot h.valid
  rw [perform_served hop e.dev e.device _ rfl]
  obtain ⟨hresponse, hdevice⟩ := @handleLocalOperation_requestId 1 _ _ e.context _ hschema hop id e.dev
    e.device _ _ rfl rfl
  obtain ⟨ops, hret⟩ := Prog.returns_run e.dev (handleLocalOperation id (NodeProcessor.hostRequest e.context.snapshot
    e.request.operation ⟨e.request.targetId, e.request.value⟩) e.context.snapshot e.context.registryValid
    e.context.registry e.context.interlock versionMinor01) e.device
  have hconcluded := handleLocalOperation_concluded hschema hop hret
  rw [hresponse, hdevice]
  rw [hrequest] at hconcluded ⊢
  exact ⟨rfl, hconcluded.operationResult⟩

/-- The request as the Node decodes it. -/
abbrev wireRequest (e : Exchange σ) : WireRequest := ⟨e.request.targetId, e.request.value⟩

/-- What the Node performs for the command. -/
def performed (e : Exchange σ) : (UInt8 × TypedValue) × σ :=
  (NodeProcessor.perform e.context e.request.operation e.wireRequest).run e.dev e.device

theorem opcode_command (h : e.Remote) : e.command.opcode = e.request.operation := by
  obtain ⟨payload, -, -, -, -, hcommand⟩ := submitted_eq h
  rw [hcommand]

/-- The admitted command is what the Node executes. -/
theorem admitted_active (h : e.Remote) (hfree : e.Free) :
    e.admitted.1.Consistent ∧ e.admitted.1.retained = NodeProcessor.entryOf e.command := by
  have hc := commands h
  rw [admitted_eq h hfree]
  exact ⟨⟨rfl, fun _ => (NodeProcessor.rememberedCommand_entryOf hc.type).symm, fun _ => ⟨_, hc.decodes⟩⟩, rfl⟩

theorem executed_eq (h : e.Remote) (hfree : e.Free) :
    Performed e.request.operation e.performed.1 ∧
      e.executed.1.2 = { (default : NodeResult) with
        action := .responseReady
        response := makeResponsePacket e.command (NodeProcessor.wireResponse e.wireRequest e.performed.1) } ∧
      e.executed.2 = e.performed.2 := by
  have hc := commands h
  obtain ⟨hcons, hretained⟩ := admitted_active h hfree
  have hactive : e.admitted.1.retained.isActive = true := by
    rw [hretained]
    exact isActive_entryOf e.command
  have hdecoded : decodeWireRequest e.admitted.1.retained.opcode e.admitted.1.retained.payload =
      .ok e.wireRequest := by
    rw [hretained]
    exact hc.decodes
  have hopcode : e.admitted.1.retained.opcode = e.request.operation := by
    rw [hretained]
    exact opcode_command h
  have hrun := execute_run (c := e.context) hcons hactive hdecoded e.dev e.device _ rfl
  rw [hopcode, hretained, NodeProcessor.rememberedCommand_entryOf hc.type] at hrun
  exact hrun

theorem acknowledged_eq (h : e.Remote) (hfree : e.Free) :
    e.acknowledged = ({ e.submitted.1 with
      transaction := { e.submitted.1.transaction with phase := .awaitingResponse }
      peerSupport := e.submitted.1.transaction.support }, e.submitted.1.activeBase) := by
  obtain ⟨payload, -, -, -, hsub, -⟩ := submitted_eq h
  unfold acknowledged
  rw [admitted_eq h hfree, hsub]
  exact HubBridge.receive_acknowledgment rfl (by simp [HubBridge.begun])

/-- The Hub takes the response for the result of the operation. -/
theorem received_eq (h : e.Remote) (hfree : e.Free) :
    Carried e.response ∧ e.received.1.active = false ∧ e.received.1.peerSupport = .supported ∧ e.received.2 =
      { action := .hostResponseReady, requestId := e.requestId, packet := blankPacket
        response := { makeHostResponseBase e.request with
          resultClass := ResultClass.operationResult
          resultCode := e.performed.1.1
          value := e.performed.1.2 } } := by
  obtain ⟨payload, -, -, hdec, hsub, -⟩ := submitted_eq h
  obtain ⟨hperformed, hresult, -⟩ := executed_eq h hfree
  have hw : isValidResponseSchema e.command.opcode (NodeProcessor.wireResponse e.wireRequest e.performed.1) = true := by
    rw [opcode_command h]
    exact perform_schema (decodeWireRequest_schema hdec).1 hperformed
  have hresponse : e.response = makeResponsePacket e.command
      (NodeProcessor.wireResponse e.wireRequest e.performed.1) := by
    rw [response, hresult]
  have hvalue : (NodeProcessor.wireResponse e.wireRequest e.performed.1).value = e.performed.1.2 := by
    by_cases hok : e.performed.1.1 = OperationStatus.ok
    · exact if_neg (not_not.2 hok)
    · rw [hperformed.failure hok]
      exact if_pos hok
  constructor
  · refine carried_of_short ?_
    obtain ⟨bytes, henc, -, hshort, -⟩ := decodeWireResponse_encode hw
    rw [hresponse]
    simpa only [makeResponsePacket, henc] using hshort
  · unfold received
    rw [acknowledged_eq h hfree, hresponse, hsub, ← hvalue]
    exact HubBridge.receive_response rfl (by simp) hw rfl

theorem answers (h : e.Remote) (hop : ServedLocally e.request.operation) (hfree : e.Free) : e.Answers := by
  obtain ⟨-, hresult, hdevice⟩ := executed_eq h hfree
  obtain ⟨hcarried, -, -, hreceived⟩ := received_eq h hfree
  have hlocal : ∀ id, e.performed = (((e.localResult id).1.response.resultCode,
      (e.localResult id).1.response.value), (e.localResult id).2) := fun id => (localResult_eq h hop id).1
  constructor
  · rw [admitted_eq h hfree]
  · rw [acknowledged_eq h hfree]
    exact HubBridge.activeBase_action _
  · rw [hresult]
  · exact hcarried
  · rw [hreceived]
  · rw [hreceived]
  · intro id
    rw [hreceived, (localResult_eq h hop id).2]
  · intro id
    rw [hreceived, hlocal id]
  · intro id
    rw [hreceived, hlocal id]
  · intro id
    rw [hdevice, hlocal id]

/-! ### One exchange after another -/

/-- The exchange begins where another one has ended, and its request has another value. -/
structure Follows (e' e : Exchange σ) : Prop where
  bridge : e'.bridge = e.received.1
  node : e'.node = e.executed.1.1
  hubId : e'.hubId = e.hubId
  nodeId : e'.nodeId = e.nodeId
  valid : validateOperationRequest versionMinor01 e'.request = .ok
  peer : e'.request.targetDeviceId = e'.nodeId
  differs : e'.request.value ≠ e.request.value

theorem Follows.remote {e' : Exchange σ} (hnext : e'.Follows e) (h : e.Remote) (hfree : e.Free) : e'.Remote := by
  obtain ⟨-, hidle, hsupport, -⟩ := received_eq h hfree
  constructor
  · rw [hnext.bridge]
    exact .receive (.receive (.submit h.bridge ..) _) _
  · rw [hnext.bridge]
    exact hidle
  · rw [hnext.bridge, hsupport]
    simp [mayStartStructuredOperation]
  · exact hnext.valid
  · exact hnext.peer
  · rw [hnext.nodeId, hnext.hubId]
    exact h.other

/-- The Node has completed the command. -/
theorem executed_retained (h : e.Remote) (hfree : e.Free) :
    ∃ response, e.executed.1.1.retained = { NodeProcessor.entryOf e.command with response, completed := true } := by
  obtain ⟨hcons, hretained⟩ := admitted_active h hfree
  have hactive : e.admitted.1.retained.isActive = true := by
    rw [hretained]
    exact isActive_entryOf e.command
  obtain ⟨ops, hret⟩ := Prog.returns_run e.dev (e.admitted.1.executeAdmittedOperation e.context) e.device
  have hexecuted : e.admitted.1.Executed e.executed.1 := NodeProcessor.execute_active hcons hactive hret
  generalize e.executed.1 = r at hexecuted
  cases hexecuted with
  | @ready response => exact ⟨response, by rw [hretained]⟩

theorem Follows.free {e' : Exchange σ} (hnext : e'.Follows e) (h : e.Remote) (hfree : e.Free) : e'.Free := by
  obtain ⟨response, hretained⟩ := executed_retained h hfree
  constructor
  · obtain ⟨turns, hrun, hlast⟩ := hfree.run
    obtain ⟨ops, hret⟩ := Prog.returns_run e.dev (e.admitted.1.executeAdmittedOperation e.context) e.device
    refine ⟨turns ++ [⟨e.node, .admitCommand e.command, [], e.admitted.2, e.admitted.1⟩,
      ⟨e.admitted.1, .execute e.context, ops, e.executed.1.2, e.executed.1.1⟩], ?_, ?_⟩
    · rw [hnext.nodeId, hnext.hubId, System.isRun_append, hlast]
      exact ⟨hrun, rfl, ⟨rfl, rfl⟩, rfl, hret, trivial⟩
    · rw [System.last_append, hnext.node]
      rfl
  · rw [hnext.node, hretained]
    exact isActive_completed _ _
  · -- the commands carry their values, so that the new one is not the retained one
    by_contra hdup
    rw [Bool.not_eq_false, hnext.node, hretained] at hdup
    simp only [NodeRetainedOperation.isDuplicate, NodeProcessor.entryOf, Bool.and_eq_true, beq_iff_eq] at hdup
    obtain ⟨⟨-, hopcode⟩, hpayload⟩ := hdup
    have hdecodes := (commands (hnext.remote h hfree)).decodes
    rw [hopcode, hpayload, (commands h).decodes, Except.ok.injEq, WireRequest.mk.injEq] at hdecodes
    exact hnext.differs hdecodes.2.symm

end Exchange

/-- **A remote operation equals the local one.** Whatever the states of Hub and Node, an idle bridge makes a COMMAND of
every valid request for its peer, which the Node decodes to the same target and value; and for the operations that the
services of the Node perform, the Host is answered what they say on the Node, whatever its registry, its handler, its
provider of availability and its snapshot. -/
theorem remote_equals_local {σ : Type} (e : Exchange σ) (h : e.Remote) :
    e.Commands ∧ (ServedLocally e.request.operation → e.Free → e.Answers) :=
  ⟨Exchange.commands h, Exchange.answers h⟩

/-- A PING for the Node. -/
def pingExchange : Exchange Unit where
  bridge := .initial
  requestId := 0x7101
  request := ⟨OperationCategory.device, OperationCode.ping, 2, 0, noneValue⟩
  hubId := 1
  nodeId := 2
  now := 0
  overallTimeout := 1000
  maxRetries := 2
  explicitlyConfigured := false
  node := .initial
  context := bareContext
  dev := mute
  device := ()

theorem remote_equals_local_ping : pingExchange.Commands ∧ pingExchange.Answers :=
  have h : pingExchange.Remote := ⟨.initial, rfl, by decide, by decide, rfl, by decide⟩
  ⟨(remote_equals_local pingExchange h).1,
    (remote_equals_local pingExchange h).2 (Or.inl rfl) ⟨⟨[], trivial, rfl⟩, rfl, rfl⟩⟩

end Redline.Host
