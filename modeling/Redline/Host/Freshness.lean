import Redline.Host.Exchange

/-!
# Fresh results

The bridge of the Hub and the processor of the Node, over a channel that may lose, duplicate, delay and reorder what it
is given; the Node may start again at any time.  What tells the transactions apart is a sequence of eight bits, so that
the channel and the Node must not be too far behind: a command is admitted at most `commandLife` transactions after its
own, an answer is heard at most `answerLife` transactions after it was sent, and of `silence + 1` transactions in a row
the Node admits a command of one.

`results_fresh`: with `2 * commandLife + answerLife + silence ≤ 254`, the result of every operation comes from an
execution of the very request, between its submission and the delivery of the result.  The reason is a bound on the age
of what the Node retains, and so on the age of what it answers: less than 256 transactions pass from the submission of a
command to the last time that an answer to it is heard.
-/

namespace Redline.Host

open Redline.Wire Redline.Lib

/-! ### The peers and their channel -/

/-- A packet in the channel, and the transaction in which it was sent. -/
structure Flight where
  packet : Packet
  since : ℕ
  deriving DecidableEq

/-- The Hub, the Node and all that they have sent.  Nothing leaves the channel: what is lost is never taken from it, and
what is taken may be taken again.  The Hub has begun `begun` transactions. -/
structure Peers where
  bridge : HubBridge
  node : NodeProcessor
  begun : ℕ
  commands : List Flight
  answers : List Flight

inductive PeerCall
  | submit (requestId : UInt16) (request : OperationRequest) (now overallTimeout : UInt32) (maxRetries : UInt8)
      (explicitlyConfigured : Bool)
  | configurePeerSupport (support : PeerSupport)
  | service (now : UInt32)
  | receive (answer : Flight)
  | admitCommand (command : Flight)
  | execute (c : NodeContext)
  | restart

/-- What the Hub gives to its radio. -/
def BridgeResult.packets (r : BridgeResult) : List Packet := if r.action = .transmitCommand then [r.packet] else []

/-- What the Node gives to its radio. -/
def NodeResult.packets (r : NodeResult) : List Packet :=
  match r.action with
  | .sendAck | .ackThenExecute | .sendRejectionAck => [r.acknowledgment]
  | .sendAckAndResponse => [r.acknowledgment, r.response]
  | .responseReady => [r.response]
  | .ignore | .activeBusy => []

namespace Peers

def initial : Peers := ⟨.initial, .initial, 0, [], []⟩

/-- The Hub begins a transaction when it sends the command of a request. -/
def begins (s : Peers) (r : BridgeResult) : Peers := { s with begun := s.begun + r.packets.length }

def onHub (s : Peers) (r : HubBridge × BridgeResult) : Peers :=
  { s with bridge := r.1, commands := s.commands ++ r.2.packets.map fun packet => ⟨packet, s.begun⟩ }

def onNode (s : Peers) (r : NodeProcessor × NodeResult) : Peers :=
  { s with node := r.1, answers := s.answers ++ r.2.packets.map fun packet => ⟨packet, s.begun⟩ }

end Peers

/-- A call of the Hub or of the Node, and what it has returned. -/
structure PeerTurn where
  before : Peers
  call : PeerCall
  hub : BridgeResult
  node : NodeResult
  after : Peers

/-- How long the channel keeps a packet, in transactions that begin after the one in which it was sent. -/
structure Delays where
  commandLife : ℕ
  answerLife : ℕ

namespace PeerTurn

/-- The device of the Node may answer anything. -/
def Steps (hubId nodeId : UInt8) (d : Delays) (t : PeerTurn) : Prop :=
  match t.call with
  | .submit requestId request now overallTimeout maxRetries explicitlyConfigured =>
    ∃ bridge, t.before.bridge.submit requestId request .hub hubId nodeId now overallTimeout maxRetries
        explicitlyConfigured = (bridge, t.hub) ∧
      t.node = default ∧ t.after = (t.before.begins t.hub).onHub (bridge, t.hub)
  | .configurePeerSupport support =>
    t.hub = default ∧ t.node = default ∧
      t.after = { t.before with bridge := t.before.bridge.configurePeerSupport support }
  | .service now =>
    ∃ bridge, t.before.bridge.service now = (bridge, t.hub) ∧ t.node = default ∧
      t.after = t.before.onHub (bridge, t.hub)
  | .receive answer =>
    (answer ∈ t.before.answers ∧ t.before.begun ≤ answer.since + d.answerLife) ∧
      ∃ bridge, t.before.bridge.receive answer.packet = (bridge, t.hub) ∧ t.node = default ∧
        t.after = t.before.onHub (bridge, t.hub)
  | .admitCommand command =>
    (command ∈ t.before.commands ∧ t.before.begun ≤ command.since + d.commandLife) ∧
      ∃ node, t.before.node.admitCommand command.packet nodeId hubId = (node, t.node) ∧ t.hub = default ∧
        t.after = t.before.onNode (node, t.node)
  | .execute c =>
    ∃ ops node, Prog.Returns (fun _ _ => True) (t.before.node.executeAdmittedOperation c) ops (node, t.node) ∧
      t.hub = default ∧ t.after = t.before.onNode (node, t.node)
  | .restart => t.hub = default ∧ t.node = default ∧ t.after = { t.before with node := .initial }

/-- The Hub sends the command of the request for the first time, and the transaction begins. -/
structure Submits (t : PeerTurn) (requestId : UInt16) (request : OperationRequest) : Prop where
  call : ∃ now overallTimeout maxRetries explicitlyConfigured,
    t.call = .submit requestId request now overallTimeout maxRetries explicitlyConfigured
  action : t.hub.action = .transmitCommand

def Begins (t : PeerTurn) : Prop := ∃ requestId request, t.Submits requestId request

/-- The Node admits a command of the transaction. -/
structure Admits (t : PeerTurn) (transaction : ℕ) : Prop where
  call : ∃ packet, t.call = .admitCommand ⟨packet, transaction⟩
  action : t.node.action = .ackThenExecute

/-- The Node refuses the command. -/
structure Refuses (t : PeerTurn) (command : Packet) : Prop where
  call : ∃ since, t.call = .admitCommand ⟨command, since⟩
  action : t.node.action = .sendRejectionAck

/-- The Node executes the command, and responds. -/
structure Executes (t : PeerTurn) (command response : Packet) : Prop where
  call : ∃ c, t.call = .execute c
  command : t.before.node.pendingCommand = command
  action : t.node.action = .responseReady
  response : t.node.response = response

/-- An operation ends with a result of the class. -/
structure Delivers (t : PeerTurn) (resultClass : UInt8) : Prop where
  action : t.hub.action = .hostResponseReady
  resultClass : t.hub.response.resultClass = resultClass

end PeerTurn

/-- The system of the Hub and the Node. -/
def peers (hubId nodeId : UInt8) (d : Delays) : System Peers PeerTurn where
  before := PeerTurn.before
  after := PeerTurn.after
  Steps := PeerTurn.Steps hubId nodeId d

/-- No more than `silence` transactions in a row go without any of their commands being admitted: of those that are over
since another one has begun. -/
def Heard (silence : ℕ) (turns : List PeerTurn) : Prop :=
  ∀ t ∈ turns, ∀ k, 0 < k → k + silence < t.after.begun → ∃ j, k ≤ j ∧ j ≤ k + silence ∧ ∃ u ∈ turns, u.Admits j

/-! ### What is promised -/

/-- The transaction that begins in the turn `b` lasts to the end, and the turn `e` is one of it. -/
def Within (past : List PeerTurn) (b e : PeerTurn) : Prop :=
  ∃ earlier between later, past = earlier ++ b :: between ++ e :: later ∧ ∀ u ∈ between ++ e :: later, ¬ u.Begins

/-- The command is the request on the wire: the same operation, target and value. -/
structure Carries (command : Packet) (request : OperationRequest) : Prop where
  opcode : command.opcode = request.operation
  decodes : decodeWireRequest command.opcode command.payload = .ok ⟨request.targetId, request.value⟩

/-- **Freshness of the results.** -/
structure Fresh (turns : List PeerTurn) : Prop where
  /-- The result of an operation is what an execution of its request has said, since the request was submitted. -/
  operationResult : ∀ past t rest, turns = past ++ t :: rest → t.Delivers ResultClass.operationResult →
    ∃ b e request response w, b.Submits t.hub.requestId request ∧ Carries b.hub.packet request ∧ Within past b e ∧
      e.Executes b.hub.packet response ∧ decodeWireResponse response.opcode response.payload = .ok w ∧
      t.hub.response = { makeHostResponseBase request with
        resultClass := ResultClass.operationResult, resultCode := w.status, value := w.value }
  /-- The Node has rejected the command since the request was submitted. -/
  remoteRejected : ∀ past t rest, turns = past ++ t :: rest → t.Delivers ResultClass.radioResult →
    t.hub.response.resultCode = RadioResultCode.remoteRejected →
    ∃ b e request, b.Submits t.hub.requestId request ∧ Carries b.hub.packet request ∧ Within past b e ∧
      e.Refuses b.hub.packet

/-! ### The calls of the bridge -/

namespace HubBridge

variable {b : HubBridge}

/-- **What a submission does** to the bridge: a transaction begins with a command that carries the request, or nothing
changes. -/
inductive Requested (b : HubBridge) (requestId : UInt16) (request : OperationRequest) (localId peerId : UInt8) :
    HubBridge × BridgeResult → Prop
  | begun {payload : Bytes} {b' : HubBridge} (hidle : b.active = false)
      (hdec : decodeWireRequest request.operation payload = .ok ⟨request.targetId, request.value⟩)
      (hactive : b'.active = true) (hsequence : b'.nextSequence = b.nextSequence) (hid : b'.requestId = requestId)
      (hrequest : b'.request = request)
      (hcommand : b'.transaction.command = ⟨.command, localId, peerId, b.nextSequence, request.operation, payload⟩) :
      Requested b requestId request localId peerId (b',
        { action := .transmitCommand, requestId, response := makeHostResponseBase request
          packet := ⟨.command, localId, peerId, b.nextSequence, request.operation, payload⟩ })
  | refused {r : BridgeResult} (haction : r.action ≠ .transmitCommand)
      (hclass : r.action = .hostResponseReady → r.response.resultClass = ResultClass.requestRejected) :
      Requested b requestId request localId peerId (b, r)

theorem submit_requested (hb : b.InStep) (requestId : UInt16) (request : OperationRequest) (localId peerId : UInt8)
    (now overallTimeout : UInt32) (maxRetries : UInt8) (explicitlyConfigured : Bool) :
    b.Requested requestId request localId peerId
      (b.submit requestId request .hub localId peerId now overallTimeout maxRetries explicitlyConfigured) := by
  by_cases hvalid : validateOperationRequest versionMinor01 request = .ok
  swap
  · unfold submit
    dsimp only
    rw [if_pos hvalid]
    exact .refused (by simp [reject]) fun _ => rfl
  by_cases hlocal : request.targetDeviceId = localId
  · unfold submit
    dsimp only
    rw [if_neg (not_not.2 hvalid), if_pos hlocal]
    exact .refused (by simp) (by simp)
  by_cases hpeer : request.targetDeviceId = peerId
  swap
  · unfold submit
    dsimp only
    rw [if_neg (not_not.2 hvalid), if_neg hlocal, if_pos (Or.inr hpeer)]
    exact .refused (by simp [reject]) fun _ => rfl
  have hrole : ¬ (DeviceRole.hub ≠ .hub ∨ request.targetDeviceId ≠ peerId) := by simp [hpeer]
  by_cases hactive : b.active = true
  · unfold submit
    dsimp only
    rw [if_neg (not_not.2 hvalid), if_neg hlocal, if_neg hrole, if_pos hactive]
    exact .refused (by simp) (by simp)
  by_cases hmay : mayStartStructuredOperation b.peerSupport request.operation explicitlyConfigured = true
  swap
  · unfold submit
    dsimp only
    rw [if_neg (not_not.2 hvalid), if_neg hlocal, if_neg hrole, if_neg hactive, if_pos (by simpa using hmay)]
    exact .refused (by simp [reject]) fun _ => rfl
  have hidle : b.active = false := by simpa using hactive
  obtain ⟨payload, -, -, hdec, heq⟩ := submit_idle requestId now overallTimeout maxRetries hb hidle hvalid hlocal hpeer
    hmay
  rw [heq]
  exact .begun hidle hdec rfl rfl rfl rfl rfl

/-- The bridge goes on with what it is about. -/
structure GoesOn (b b' : HubBridge) : Prop where
  active : b'.active = b.active
  nextSequence : b'.nextSequence = b.nextSequence
  requestId : b'.requestId = b.requestId
  request : b'.request = b.request
  command : b'.transaction.command = b.transaction.command

theorem GoesOn.rfl : GoesOn b b := ⟨Eq.refl _, Eq.refl _, Eq.refl _, Eq.refl _, Eq.refl _⟩

/-- The bridge is done with what it was about. -/
structure Ends (b b' : HubBridge) : Prop where
  active : b.active = true
  idle : b'.active = false
  nextSequence : b'.nextSequence = b.nextSequence + 1

/-- An answer with the sequence and the opcode of the command. -/
structure Hears (b : HubBridge) (answer : Packet) : Prop where
  sequence : answer.sequence = b.transaction.command.sequence
  opcode : answer.opcode = b.transaction.command.opcode

/-- The result of an operation that is over. -/
def concluded (b : HubBridge) (resultClass resultCode : UInt8) (value : TypedValue) : BridgeResult where
  action := .hostResponseReady
  requestId := b.requestId
  packet := blankPacket
  response := { makeHostResponseBase b.request with resultClass, resultCode, value }

theorem resultClass_concluded {resultClass resultCode : UInt8} {value : TypedValue} :
    (b.concluded resultClass resultCode value).response.resultClass = resultClass := rfl

theorem resultCode_concluded {resultClass resultCode : UInt8} {value : TypedValue} :
    (b.concluded resultClass resultCode value).response.resultCode = resultCode := rfl

/-- **What an answer does** to the bridge. -/
inductive Received (b : HubBridge) (answer : Packet) : HubBridge × BridgeResult → Prop
  | waits {b' : HubBridge} {r : BridgeResult} (hon : b.GoesOn b') (haction : r.action = .none) :
      Received b answer (b', r)
  | rejected {b' : HubBridge} (hends : b.Ends b') (hears : b.Hears answer) (htype : answer.type = .ack)
      (hstatus : byteAt answer.payload 0 ≠ AckStatus.success) :
      Received b answer (b', b.concluded ResultClass.radioResult RadioResultCode.remoteRejected noneValue)
  | complete {b' : HubBridge} {w : WireResponse} (hends : b.Ends b') (hears : b.Hears answer)
      (htype : answer.type = .response) (hdec : decodeWireResponse answer.opcode answer.payload = .ok w) :
      Received b answer (b', b.concluded ResultClass.operationResult w.status w.value)

theorem receive_received (answer : Packet) : b.Received answer (b.receive answer) := by
  unfold receive
  by_cases hactive : b.active = true
  swap
  · rw [if_pos (by simpa using hactive)]
    exact .waits .rfl b.activeBase_action
  rw [if_neg (by simp [hactive]), activeBase_of_active b hactive]
  have hwaits : ∀ (t : HubStructuredTransaction) (r : BridgeResult), t.command = b.transaction.command →
      r.action = .none → b.Received answer ({ b with transaction := t, peerSupport := t.support }, r) :=
    fun t r ht hr => .waits ⟨rfl, rfl, rfl, rfl, ht⟩ hr
  unfold HubStructuredTransaction.receive
  by_cases hphase : b.transaction.phase = .idle
  · rw [if_pos hphase]
    exact hwaits _ _ rfl rfl
  rw [if_neg hphase]
  by_cases hmatch : answer.source ≠ b.transaction.command.destination ∨
      answer.destination ≠ b.transaction.command.source ∨ answer.sequence ≠ b.transaction.command.sequence ∨
      answer.opcode ≠ b.transaction.command.opcode
  · rw [if_pos hmatch]
    exact hwaits _ _ rfl rfl
  rw [if_neg hmatch]
  simp only [not_or, not_not] at hmatch
  have hears : b.Hears answer := ⟨hmatch.2.2.1, hmatch.2.2.2⟩
  by_cases hack : answer.type = .ack
  · rw [if_pos hack]
    by_cases hmalformed : answer.payload.length ≠ 1 ∨ (!isValidAckStatus (byteAt answer.payload 0)) = true
    · rw [if_pos hmalformed]
      exact hwaits _ _ rfl rfl
    rw [if_neg hmalformed]
    by_cases hstatus : byteAt answer.payload 0 ≠ AckStatus.success
    · rw [if_pos hstatus]
      exact .rejected ⟨hactive, rfl, rfl⟩ hears hack hstatus
    · rw [if_neg hstatus]
      exact hwaits _ _ rfl rfl
  rw [if_neg hack]
  by_cases hresponse : answer.type = .response
  swap
  · rw [if_pos hresponse]
    exact hwaits _ _ rfl rfl
  rw [if_neg (not_not.2 hresponse)]
  cases hdec : decodeWireResponse answer.opcode answer.payload with
  | error e => exact hwaits _ _ rfl rfl
  | ok w =>
    dsimp only
    by_cases htarget : w.targetId ≠ b.transaction.requestTarget
    · rw [if_pos htarget]
      exact hwaits _ _ rfl rfl
    · rw [if_neg htarget]
      exact .complete ⟨hactive, rfl, rfl⟩ hears hresponse hdec

theorem Received.hears {answer : Packet} {r : HubBridge × BridgeResult} (h : b.Received answer r)
    (haction : r.2.action = .hostResponseReady) : b.Hears answer := by
  cases h with
  | waits _ hnone => exact absurd (hnone.symm.trans haction) (by decide)
  | rejected _ hears => exact hears
  | complete _ hears => exact hears

/-- **What the clock does** to the bridge. -/
inductive Timed (b : HubBridge) : HubBridge × BridgeResult → Prop
  | waits {b' : HubBridge} {r : BridgeResult} (hon : b.GoesOn b') (haction : r.action = .none) : Timed b (b', r)
  | repeats {b' : HubBridge} {r : BridgeResult} (hactive : b.active = true) (hon : b.GoesOn b')
      (haction : r.action = .transmitCommand) (hpacket : r.packet = b.transaction.command) : Timed b (b', r)
  | timeout {b' : HubBridge} (hends : b.Ends b') :
      Timed b (b', b.concluded ResultClass.radioResult RadioResultCode.timeout noneValue)

theorem service_timed (now : UInt32) : b.Timed (b.service now) := by
  unfold service
  by_cases hactive : b.active = true
  swap
  · rw [if_pos (by simpa using hactive)]
    exact .waits .rfl b.activeBase_action
  rw [if_neg (by simp [hactive]), activeBase_of_active b hactive]
  unfold HubStructuredTransaction.service
  by_cases hdue : b.transaction.phase = .idle ∨ 0x80000000 ≤ now - b.transaction.deadline
  · rw [if_pos hdue]
    exact .waits ⟨rfl, rfl, rfl, rfl, rfl⟩ rfl
  rw [if_neg hdue]
  by_cases hretries : b.transaction.retries < b.transaction.maxRetries
  · rw [if_pos hretries]
    exact .repeats hactive ⟨rfl, rfl, rfl, rfl, rfl⟩ rfl rfl
  · rw [if_neg hretries]
    exact .timeout ⟨hactive, rfl, rfl⟩

end HubBridge

/-! ### One turn -/

section Turns

variable {hubId nodeId : UInt8} {d : Delays} {t : PeerTurn}

/-- **What a turn can do.** -/
inductive PeerTurn.Outcome (hubId nodeId : UInt8) (d : Delays) (t : PeerTurn) : Prop
  | begun {requestId : UInt16} {request : OperationRequest} {payload : Bytes} (hsubmits : t.Submits requestId request)
      (hpacket : t.hub.packet =
        ⟨.command, hubId, nodeId, t.before.bridge.nextSequence, request.operation, payload⟩)
      (hdec : decodeWireRequest request.operation payload = .ok ⟨request.targetId, request.value⟩)
      (hidle : t.before.bridge.active = false) (hactive : t.after.bridge.active = true)
      (hsequence : t.after.bridge.nextSequence = t.before.bridge.nextSequence)
      (hid : t.after.bridge.requestId = requestId) (hrequest : t.after.bridge.request = request)
      (hcommand : t.after.bridge.transaction.command = t.hub.packet)
      (hafter : t.after = { t.before with
        bridge := t.after.bridge, begun := t.before.begun + 1
        commands := t.before.commands ++ [⟨t.hub.packet, t.before.begun + 1⟩] })
  | kept {sent : List Flight} (hnew : ¬ t.Begins) (hadmits : ∀ j, ¬ t.Admits j)
      (hon : t.before.bridge.GoesOn t.after.bridge)
      (hsent : ∀ flight ∈ sent,
        t.before.bridge.active = true ∧ flight = ⟨t.before.bridge.transaction.command, t.before.begun⟩)
      (hafter : t.after = { t.before with bridge := t.after.bridge, commands := t.before.commands ++ sent })
      (hclass : t.hub.action = .hostResponseReady → t.hub.response.resultClass = ResultClass.requestRejected)
  | timeout (hnew : ¬ t.Begins) (hadmits : ∀ j, ¬ t.Admits j) (hends : t.before.bridge.Ends t.after.bridge)
      (hafter : t.after = { t.before with bridge := t.after.bridge })
      (hhub : t.hub = t.before.bridge.concluded ResultClass.radioResult RadioResultCode.timeout noneValue)
  | heard {answer : Flight} (hnew : ¬ t.Begins) (hadmits : ∀ j, ¬ t.Admits j)
      (hin : answer ∈ t.before.answers) (hage : t.before.begun ≤ answer.since + d.answerLife)
      (hends : t.before.bridge.Ends t.after.bridge) (hafter : t.after = { t.before with bridge := t.after.bridge })
      (h : t.before.bridge.Received answer.packet (t.after.bridge, t.hub))
  | admits {command : Flight} (hnew : ¬ t.Begins) (hcall : t.call = .admitCommand command)
      (hin : command ∈ t.before.commands) (hage : t.before.begun ≤ command.since + d.commandLife)
      (h : t.before.node.Admitted command.packet nodeId hubId (t.after.node, t.node))
      (hafter : t.after = t.before.onNode (t.after.node, t.node)) (hhub : t.hub = default)
      (hverdict : t.node = (t.before.node.admitCommand command.packet nodeId hubId).2)
  | executes {c : NodeContext} (hnew : ¬ t.Begins) (hadmits : ∀ j, ¬ t.Admits j) (hcall : t.call = .execute c)
      (hactive : t.before.node.retained.isActive = true) (h : t.before.node.Executed (t.after.node, t.node))
      (hafter : t.after = t.before.onNode (t.after.node, t.node)) (hhub : t.hub = default)
  | restarts (hnew : ¬ t.Begins) (hadmits : ∀ j, ¬ t.Admits j)
      (hafter : t.after = { t.before with node := .initial }) (hhub : t.hub = default)

theorem packets_of_ne {r : BridgeResult} (h : r.action ≠ .transmitCommand) : r.packets = [] := if_neg h

theorem packets_of_eq {r : BridgeResult} (h : r.action = .transmitCommand) : r.packets = [r.packet] := if_pos h

theorem not_begins_of_call (h : ∀ requestId request now overallTimeout maxRetries explicitlyConfigured,
    t.call ≠ .submit requestId request now overallTimeout maxRetries explicitlyConfigured) : ¬ t.Begins := by
  rintro ⟨requestId, request, hsubmits⟩
  obtain ⟨now, overallTimeout, maxRetries, explicitlyConfigured, hcall⟩ := hsubmits.call
  exact h _ _ _ _ _ _ hcall

theorem not_admits_of_call (h : ∀ command, t.call ≠ .admitCommand command) (j : ℕ) : ¬ t.Admits j := by
  intro hadmits
  obtain ⟨packet, hcall⟩ := hadmits.call
  exact h _ hcall

/-- A turn of the Hub that sends nothing leaves the channel as it is. -/
theorem onHub_of_ne {s : Peers} {bridge : HubBridge} {r : BridgeResult} (h : r.action ≠ .transmitCommand) :
    s.onHub (bridge, r) = { s with bridge } := by
  unfold Peers.onHub
  rw [packets_of_ne h]
  simp

theorem turn_outcome_peers (hbridge : t.before.bridge.InStep) (hnode : t.before.node.Consistent)
    (h : t.Steps hubId nodeId d) : t.Outcome hubId nodeId d := by
  unfold PeerTurn.Steps at h
  split at h
  · rename_i requestId request now overallTimeout maxRetries explicitlyConfigured hcall
    obtain ⟨bridge, hsubmit, -, hafter⟩ := h
    have hcases := HubBridge.submit_requested hbridge requestId request hubId nodeId now overallTimeout maxRetries
      explicitlyConfigured
    rw [hsubmit] at hcases
    have hbridge' : t.after.bridge = bridge := by rw [hafter]; rfl
    have hadmits := @not_admits_of_call t (fun command => by simp [hcall])
    revert hcases
    generalize hr : (bridge, t.hub) = r
    intro hcases
    cases hcases with
    | begun hidle hdec hactive hsequence hid hrequest hcommand =>
      obtain ⟨rfl, hhub⟩ := Prod.mk.inj hr
      have haction : t.hub.action = .transmitCommand := by rw [hhub]
      have hpacket := congrArg BridgeResult.packet hhub
      rw [← hbridge'] at hactive hsequence hid hrequest hcommand
      refine .begun ⟨⟨now, overallTimeout, maxRetries, explicitlyConfigured, hcall⟩, haction⟩ hpacket hdec hidle hactive
        hsequence hid hrequest (hcommand.trans hpacket.symm) ?_
      rw [hafter]
      simp [Peers.begins, Peers.onHub, packets_of_eq haction]
    | refused haction hclass =>
      obtain ⟨rfl, rfl⟩ := Prod.mk.inj hr
      refine .kept (fun hb => ?_) hadmits (hbridge' ▸ .rfl) (List.forall_mem_nil _) ?_ hclass
      · obtain ⟨_, _, hsubmits⟩ := hb
        exact haction hsubmits.action
      · rw [hafter, onHub_of_ne haction, Peers.begins, packets_of_ne haction]
        simp
  · rename_i support hcall
    obtain ⟨hhub, -, hafter⟩ := h
    refine .kept (not_begins_of_call (by simp [hcall])) (not_admits_of_call (by simp [hcall])) ?_
      (List.forall_mem_nil _) ?_ (by simp [hhub, default])
    · rw [hafter]
      exact ⟨rfl, rfl, rfl, rfl, rfl⟩
    · rw [hafter]
      simp
  · rename_i now hcall
    obtain ⟨bridge, hservice, -, hafter⟩ := h
    have hcases := t.before.bridge.service_timed now
    rw [hservice] at hcases
    have hbridge' : t.after.bridge = bridge := by rw [hafter]; rfl
    have hnew := @not_begins_of_call t (by simp [hcall])
    have hadmits := @not_admits_of_call t (by simp [hcall])
    revert hcases
    generalize hr : (bridge, t.hub) = r
    intro hcases
    cases hcases with
    | waits hon haction =>
      obtain ⟨rfl, rfl⟩ := Prod.mk.inj hr
      refine .kept hnew hadmits (hbridge' ▸ hon) (List.forall_mem_nil _) ?_ (by simp [haction])
      rw [hafter, onHub_of_ne (by simp [haction])]
      simp
    | repeats hactive hon haction hpacket =>
      obtain ⟨rfl, rfl⟩ := Prod.mk.inj hr
      refine @PeerTurn.Outcome.kept _ _ _ _ [⟨t.before.bridge.transaction.command, t.before.begun⟩] hnew hadmits
        (hbridge' ▸ hon) (by simp [hactive]) ?_ (by simp [haction])
      rw [hafter, Peers.onHub, packets_of_eq haction, hpacket]
      rfl
    | timeout hends =>
      obtain ⟨rfl, hhub⟩ := Prod.mk.inj hr
      refine .timeout hnew hadmits (hbridge' ▸ hends) ?_ hhub
      rw [hafter, onHub_of_ne (by simp [hhub, HubBridge.concluded])]
  · rename_i answer hcall
    obtain ⟨hsent, bridge, hreceive, -, hafter⟩ := h
    have hcases := @HubBridge.receive_received t.before.bridge answer.packet
    rw [hreceive] at hcases
    have hbridge' : t.after.bridge = bridge := by rw [hafter]; rfl
    have hnew := @not_begins_of_call t (by simp [hcall])
    have hadmits := @not_admits_of_call t (by simp [hcall])
    rw [← hbridge'] at hafter hcases
    have hheard := hcases
    revert hheard
    generalize hr : (t.after.bridge, t.hub) = r
    intro hheard
    cases hheard with
    | waits hon haction =>
      obtain ⟨rfl, rfl⟩ := Prod.mk.inj hr
      refine .kept hnew hadmits hon (List.forall_mem_nil _) ?_ (by simp [haction])
      rw [hafter, onHub_of_ne (by simp [haction])]
      simp
    | rejected hends | complete hends =>
      obtain ⟨rfl, hhub⟩ := Prod.mk.inj hr
      refine .heard hnew hadmits hsent.1 hsent.2 hends ?_ hcases
      rw [hafter, onHub_of_ne (by simp [hhub, HubBridge.concluded])]
  · rename_i command hcall
    obtain ⟨hsent, node, hverdict, hhub, hafter⟩ := h
    have hnode' : t.after.node = node := by rw [hafter]; rfl
    refine .admits (not_begins_of_call (by simp [hcall])) hcall hsent.1 hsent.2 ?_ (hnode' ▸ hafter) hhub (by rw [hverdict])
    rw [hnode', ← hverdict]
    exact NodeProcessor.admitCommand_cases _ _ _ _
  · rename_i c hcall
    obtain ⟨ops, node, hret, hhub, hafter⟩ := h
    have hnode' : t.after.node = node := by rw [hafter]; rfl
    have hnew := @not_begins_of_call t (by simp [hcall])
    have hadmits := @not_admits_of_call t (by simp [hcall])
    by_cases hactive : t.before.node.retained.isActive = true
    · refine .executes hnew hadmits hcall hactive ?_ (hnode' ▸ hafter) hhub
      rw [hnode']
      exact NodeProcessor.execute_active hnode hactive hret
    · have hidle : t.before.node.retained.isActive = false := by simpa using hactive
      rw [NodeProcessor.execute_idle hnode hidle] at hret
      obtain ⟨-, heq⟩ := Prog.returns_pure.1 hret
      obtain ⟨rfl, hresult⟩ := Prod.mk.inj heq
      have hsame : t.after = t.before := by
        rw [hafter, Peers.onNode, hresult]
        simp [NodeResult.packets, default]
      refine .kept hnew hadmits (hsame ▸ .rfl) (List.forall_mem_nil _) ?_ (by simp [hhub, default])
      rw [hsame]
      simp
  · rename_i hcall
    exact .restarts (not_begins_of_call (by simp [hcall])) (not_admits_of_call (by simp [hcall])) h.2.2 h.1

/-! ### What holds in every state -/

/-- The sequence of the bridge counts its transactions, and no command comes from a later one. -/
structure Peers.Sound (s : Peers) : Prop where
  bridge : s.bridge.Reachable
  node : s.node.Consistent
  sequence : s.bridge.nextSequence + (if s.bridge.active then 1 else 0) = UInt8.ofNat s.begun
  commands : ∀ flight ∈ s.commands, flight.since ≤ s.begun

theorem Peers.initial_sound : Peers.initial.Sound :=
  ⟨.initial, NodeProcessor.initial_consistent, rfl, List.forall_mem_nil _⟩

theorem outcome_of_sound (hs : t.before.Sound) (h : t.Steps hubId nodeId d) : t.Outcome hubId nodeId d :=
  turn_outcome_peers hs.bridge.inStep hs.node h

theorem reachable_step (hs : t.before.bridge.Reachable) (h : t.Steps hubId nodeId d) : t.after.bridge.Reachable := by
  unfold PeerTurn.Steps at h
  split at h
  · rename_i requestId request now overallTimeout maxRetries explicitlyConfigured hcall
    obtain ⟨bridge, hsubmit, -, hafter⟩ := h
    have hr := hs.submit requestId request .hub hubId nodeId now overallTimeout maxRetries explicitlyConfigured
    rw [hsubmit] at hr
    rw [hafter]
    exact hr
  · rename_i support hcall
    rw [h.2.2]
    exact hs.configurePeerSupport support
  · rename_i now hcall
    obtain ⟨bridge, hservice, -, hafter⟩ := h
    have hr := hs.service now
    rw [hservice] at hr
    rw [hafter]
    exact hr
  · rename_i answer hcall
    obtain ⟨-, bridge, hreceive, -, hafter⟩ := h
    have hr := hs.receive answer.packet
    rw [hreceive] at hr
    rw [hafter]
    exact hr
  · obtain ⟨-, node, -, -, hafter⟩ := h
    rw [hafter]
    exact hs
  · obtain ⟨ops, node, -, -, hafter⟩ := h
    rw [hafter]
    exact hs
  · rw [h.2.2]
    exact hs

theorem sequence_of_ends {b b' : HubBridge} {n : ℕ} (hends : b.Ends b')
    (h : b.nextSequence + (if b.active then 1 else 0) = UInt8.ofNat n) :
    b'.nextSequence + (if b'.active then 1 else 0) = UInt8.ofNat n := by
  rw [hends.active, if_pos rfl] at h
  rw [hends.idle, hends.nextSequence, h]
  simp

theorem sound_step (hs : t.before.Sound) (h : t.Steps hubId nodeId d) : t.after.Sound := by
  have hreach := reachable_step hs.bridge h
  have hout := outcome_of_sound hs h
  obtain ⟨hbridge, hnode, hseq, hcommands⟩ := hs
  cases hout with
  | begun hsubmits hpacket hdec hidle hactive hsequence hid hrequest hcommand hafter =>
    refine ⟨hreach, ?_, ?_, ?_⟩
    · rw [hafter]
      exact hnode
    · rw [hidle, if_neg (by decide), UInt8.add_zero] at hseq
      rw [hactive, hsequence, hseq, if_pos rfl, hafter]
      exact (UInt8.ofNat_add _ _).symm
    · rw [hafter]
      intro flight hflight
      rcases List.mem_append.1 hflight with hflight | hflight
      · exact Nat.le_succ_of_le (hcommands flight hflight)
      · rw [List.mem_singleton.1 hflight]
  | kept hnew hadmits hon hsent hafter hclass =>
    refine ⟨hreach, ?_, ?_, ?_⟩
    · rw [hafter]
      exact hnode
    · rw [hon.active, hon.nextSequence, hseq, hafter]
    · rw [hafter]
      intro flight hflight
      rcases List.mem_append.1 hflight with hflight | hflight
      · exact hcommands flight hflight
      · rw [(hsent flight hflight).2]
  | timeout hnew hadmits hends hafter | heard hnew hadmits hin hage hends hafter =>
    refine ⟨hreach, ?_, ?_, ?_⟩
    · rw [hafter]
      exact hnode
    · rw [sequence_of_ends hends hseq, hafter]
    · rw [hafter]
      exact hcommands
  | admits hnew hcall hin hage h hafter hhub =>
    refine ⟨hreach, ?_, ?_, ?_⟩
    · exact h.consistent hnode
    · rw [hafter]
      exact hseq
    · rw [hafter]
      exact hcommands
  | executes hnew hadmits hcall hactive h hafter hhub =>
    refine ⟨hreach, ?_, ?_, ?_⟩
    · exact h.consistent
    · rw [hafter]
      exact hseq
    · rw [hafter]
      exact hcommands
  | restarts hnew hadmits hafter hhub =>
    rw [hafter]
    exact ⟨hbridge, NodeProcessor.initial_consistent, hseq, hcommands⟩

/-! ### Runs -/

variable {turns past rest : List PeerTurn} {b e u : PeerTurn} {requestId : UInt16} {request : OperationRequest}

theorem begun_of_begins (hs : t.before.Sound) (h : t.Steps hubId nodeId d) (hb : t.Begins) :
    t.after.begun = t.before.begun + 1 := by
  cases outcome_of_sound hs h with
  | begun _ _ _ _ _ _ _ _ _ hafter => rw [hafter]
  | kept hnew | timeout hnew | heard hnew | admits hnew | executes hnew | restarts hnew => exact absurd hb hnew

theorem begun_of_not_begins (hs : t.before.Sound) (h : t.Steps hubId nodeId d) (hb : ¬ t.Begins) :
    t.after.begun = t.before.begun := by
  cases outcome_of_sound hs h with
  | begun hsubmits => exact absurd ⟨_, _, hsubmits⟩ hb
  | kept _ _ _ _ hafter | timeout _ _ _ hafter | heard _ _ _ _ _ hafter | restarts _ _ hafter => rw [hafter]
  | admits _ _ _ _ _ hafter | executes _ _ _ _ _ hafter =>
    rw [hafter]
    rfl

theorem begun_le (hs : t.before.Sound) (h : t.Steps hubId nodeId d) : t.before.begun ≤ t.after.begun := by
  by_cases hb : t.Begins
  · rw [begun_of_begins hs h hb]
    exact Nat.le_succ _
  · exact Nat.le_of_eq (begun_of_not_begins hs h hb).symm

theorem run_sound (h : (peers hubId nodeId d).IsRun .initial turns) : ∀ t ∈ turns, t.before.Sound ∧ t.after.Sound :=
  (h.invariant (fun _ _ hs hi => sound_step hi hs) Peers.initial_sound).1

/-- The turns after `t` find at least the transactions that have begun with it. -/
theorem begun_le_of_mem_rest (h : (peers hubId nodeId d).IsRun .initial (past ++ t :: rest)) (hu : u ∈ rest) :
    t.after.begun ≤ u.before.begun := by
  have ht := (run_sound h t (by simp)).2
  obtain ⟨-, -, -, hrest⟩ := System.isRun_append.1 h
  exact ((hrest.invariant (I := fun s => s.Sound ∧ t.after.begun ≤ s.begun)
    (fun v _ hv hi => ⟨sound_step hi.1 hv, le_trans hi.2 (begun_le hi.1 hv)⟩) ⟨ht, le_rfl⟩).1 u hu).1.2

theorem begun_le_of_mem_past (h : (peers hubId nodeId d).IsRun .initial (past ++ t :: rest)) (hu : u ∈ past) :
    u.after.begun ≤ t.before.begun := by
  obtain ⟨xs, ys, rfl⟩ := List.append_of_mem hu
  rw [List.append_assoc, List.cons_append] at h
  exact begun_le_of_mem_rest h (by simp)

theorem before_le_of_mem_past (h : (peers hubId nodeId d).IsRun .initial (past ++ t :: rest)) (hu : u ∈ past) :
    u.before.begun ≤ t.before.begun :=
  le_trans (begun_le (run_sound h u (by simp [hu])).1 (h.steps (by simp [hu]))) (begun_le_of_mem_past h hu)

/-- A transaction begins once. -/
theorem begins_unique (h : (peers hubId nodeId d).IsRun .initial turns) (hb : b ∈ turns) (he : e ∈ turns)
    (hbegins : b.Begins) (hebegins : e.Begins) (heq : b.after.begun = e.after.begun) : b = e := by
  have hb' := begun_of_begins (run_sound h b hb).1 (h.steps hb) hbegins
  have he' := begun_of_begins (run_sound h e he).1 (h.steps he) hebegins
  obtain ⟨xs, ys, rfl⟩ := List.append_of_mem hb
  rcases List.mem_append.1 he with he | he
  · have := begun_le_of_mem_past h he
    omega
  · rcases List.mem_cons.1 he with rfl | he
    · rfl
    · have := begun_le_of_mem_rest h he
      omega

/-- A turn of the transaction that lasts stands between its beginning and now. -/
theorem within_of_begun (h : (peers hubId nodeId d).IsRun .initial (past ++ t :: rest)) (hb : b ∈ past)
    (hbegins : b.Begins) (he : e ∈ past) (hnew : ¬ e.Begins) (hbt : b.after.begun = t.before.begun)
    (het : t.before.begun ≤ e.before.begun) : Within past b e := by
  have hb' := begun_of_begins (run_sound h b (by simp [hb])).1 (h.steps (by simp [hb])) hbegins
  obtain ⟨xs, ys, rfl⟩ := List.append_of_mem hb
  have hrun := h
  rw [List.append_assoc, List.cons_append] at hrun
  have hys : e ∈ ys := by
    rcases List.mem_append.1 he with he | he
    · have := before_le_of_mem_past hrun he
      omega
    · rcases List.mem_cons.1 he with rfl | he
      · exact absurd hbegins hnew
      · exact he
  obtain ⟨between, later, rfl⟩ := List.append_of_mem hys
  refine ⟨xs, between, later, by simp, fun u hu hubegins => ?_⟩
  -- another transaction would have moved the count past that of `b`
  have hin : u ∈ xs ++ b :: (between ++ e :: later) := by simp_all
  have hu' := begun_of_begins (run_sound h u (List.mem_append_left _ hin)).1
    (h.steps (List.mem_append_left _ hin)) hubegins
  have hfrom := begun_le_of_mem_rest hrun (List.mem_append_left _ hu)
  have hto := begun_le_of_mem_past h hin
  omega

/-- The command of a submission has the number of the transaction for its sequence. -/
theorem submits_command (h : (peers hubId nodeId d).IsRun .initial turns) (hb : b ∈ turns)
    (hsubmits : b.Submits requestId request) :
    Carries b.hub.packet request ∧ b.hub.packet.sequence = UInt8.ofNat b.before.begun := by
  have hs := (run_sound h b hb).1
  cases outcome_of_sound hs (h.steps hb) with
  | begun hsubmits' hpacket hdec hidle =>
    obtain ⟨now, overallTimeout, maxRetries, explicitlyConfigured, hcall⟩ := hsubmits.call
    obtain ⟨now', overallTimeout', maxRetries', explicitlyConfigured', hcall'⟩ := hsubmits'.call
    rw [hcall] at hcall'
    cases hcall'
    rw [hpacket]
    refine ⟨⟨rfl, hdec⟩, ?_⟩
    have hseq := hs.sequence
    rw [hidle, if_neg (by decide), UInt8.add_zero] at hseq
    exact hseq
  | kept hnew | timeout hnew | heard hnew | admits hnew | executes hnew | restarts hnew =>
    exact absurd ⟨_, _, hsubmits⟩ hnew

/-! ### The Node is not far behind -/

/-- **How long an admission stays the last one.** -/
theorem silent_bound {silence admitted : ℕ} (h : (peers hubId nodeId d).IsRun .initial (past ++ t :: rest))
    (hheard : Heard silence (past ++ t :: rest)) (hlatest : ∀ u ∈ past, ∀ j, u.Admits j → u.before.begun ≤ admitted) :
    t.before.begun ≤ admitted + silence + d.commandLife + 1 := by
  by_contra hcon
  have htle := begun_le (run_sound h t (by simp)).1 (h.steps (by simp))
  -- of the transactions after that of the admission one is heard of, and its command came in time
  obtain ⟨j, hj, hjle, u, hu, hadmits⟩ := hheard t (by simp) (admitted + 1) (by omega) (by omega)
  have hage : j ≤ u.before.begun ∧ u.before.begun ≤ j + d.commandLife := by
    have hs := (run_sound h u hu).1
    obtain ⟨packet, hcall⟩ := hadmits.call
    cases outcome_of_sound hs (h.steps hu) with
    | admits hnew hcall' hin hage =>
      rw [hcall] at hcall'
      cases hcall'
      exact ⟨hs.commands _ hin, hage⟩
    | begun hsubmits =>
      obtain ⟨_, _, _, _, hcall'⟩ := hsubmits.call
      rw [hcall] at hcall'
      cases hcall'
    | kept _ hno | timeout _ hno | heard _ hno | executes _ hno | restarts _ hno => exact absurd hadmits (hno j)
  rcases List.mem_append.1 hu with hpast | hrest
  · have := hlatest u hpast j hadmits
    omega
  · rcases List.mem_cons.1 hrest with rfl | hrest
    · omega
    · have := begun_le_of_mem_rest h hrest
      omega

/-! ### Where the answers come from -/

/-- The answer is one to the command of the transaction that `b` has begun, and was made since. -/
inductive Caused (past : List PeerTurn) (b : PeerTurn) (answer : Packet) : Prop
  | acknowledgment (htype : answer.type = .ack) (hsequence : answer.sequence = b.hub.packet.sequence)
      (hrefused : byteAt answer.payload 0 ≠ AckStatus.success →
        ∃ e ∈ past, e.Refuses b.hub.packet ∧ b.after.begun ≤ e.before.begun)
  | response (htype : answer.type = .response) (hsequence : answer.sequence = b.hub.packet.sequence)
      (hexecuted : ∃ e ∈ past, e.Executes b.hub.packet answer ∧ b.after.begun ≤ e.before.begun)

/-- What the Node retains is the command that `b` has submitted, admitted last in the transaction `admitted`. -/
structure Retains (d : Delays) (past : List PeerTurn) (s : Peers) (b : PeerTurn) (admitted : ℕ) : Prop where
  command : s.node.retained.rememberedCommand = b.hub.packet
  since : b.after.begun ≤ admitted
  age : admitted ≤ b.after.begun + d.commandLife
  now : admitted ≤ s.begun
  latest : ∀ u ∈ past, ∀ j, u.Admits j → u.before.begun ≤ admitted
  completed : s.node.retained.completed = true → Caused past b s.node.retained.response

/-- Everything in the channel and at the Node comes from a transaction that is not too old. -/
structure Provenance (d : Delays) (silence : ℕ) (past : List PeerTurn) (s : Peers) : Prop where
  current : s.bridge.active = true → ∃ b ∈ past, b.Submits s.bridge.requestId s.bridge.request ∧
    b.after.begun = s.begun ∧ s.bridge.transaction.command = b.hub.packet
  commands : ∀ flight ∈ s.commands, ∃ b ∈ past, b.Begins ∧ b.after.begun = flight.since ∧ b.hub.packet = flight.packet
  retained : s.node.retained.hasEntry = true → ∃ b ∈ past, b.Begins ∧ ∃ admitted, Retains d past s b admitted
  answers : ∀ answer ∈ s.answers, ∃ b ∈ past, b.Begins ∧
    answer.since ≤ b.after.begun + 2 * d.commandLife + silence + 1 ∧ Caused past b answer.packet

variable {silence admitted : ℕ} {answer : Packet} {s s' : Peers}

theorem Caused.mono (h : Caused past b answer) : Caused (past ++ [t]) b answer := by
  cases h with
  | acknowledgment htype hsequence hrefused =>
    refine .acknowledgment htype hsequence fun hstatus => ?_
    obtain ⟨e, he, hrefuses⟩ := hrefused hstatus
    exact ⟨e, List.mem_append_left _ he, hrefuses⟩
  | response htype hsequence hexecuted =>
    obtain ⟨e, he, hexecutes⟩ := hexecuted
    exact .response htype hsequence ⟨e, List.mem_append_left _ he, hexecutes⟩

theorem Caused.sequence (h : Caused past b answer) : answer.sequence = b.hub.packet.sequence := by
  cases h with
  | acknowledgment _ hsequence => exact hsequence
  | response _ hsequence => exact hsequence

/-- A turn that admits nothing leaves the Node with what it retains. -/
theorem Retains.mono (h : Retains d past s b admitted) (hnode : s'.node.retained = s.node.retained)
    (hbegun : s.begun ≤ s'.begun) (hadmits : ∀ j, ¬ t.Admits j) : Retains d (past ++ [t]) s' b admitted := by
  refine ⟨hnode ▸ h.command, h.since, h.age, le_trans h.now hbegun, fun u hu j huj => ?_, fun hcompleted => ?_⟩
  · rcases List.mem_append.1 hu with hu | hu
    · exact h.latest u hu j huj
    · rw [List.mem_singleton.1 hu] at huj
      exact absurd huj (hadmits j)
  · rw [hnode] at hcompleted ⊢
    exact (h.completed hcompleted).mono

/-- What has come of earlier turns still does. -/
theorem Provenance.commands_mono (h : Provenance d silence past s) :
    ∀ flight ∈ s.commands, ∃ b ∈ past ++ [t], b.Begins ∧ b.after.begun = flight.since ∧ b.hub.packet = flight.packet := by
  intro flight hflight
  obtain ⟨b, hb, hbegins⟩ := h.commands flight hflight
  exact ⟨b, List.mem_append_left _ hb, hbegins⟩

theorem Provenance.answers_mono (h : Provenance d silence past s) :
    ∀ answer ∈ s.answers, ∃ b ∈ past ++ [t], b.Begins ∧
      answer.since ≤ b.after.begun + 2 * d.commandLife + silence + 1 ∧ Caused (past ++ [t]) b answer.packet := by
  intro answer hanswer
  obtain ⟨b, hb, hbegins, hage, hcaused⟩ := h.answers answer hanswer
  exact ⟨b, List.mem_append_left _ hb, hbegins, hage, hcaused.mono⟩

theorem Provenance.retained_mono (h : Provenance d silence past s) (hnode : s'.node.retained = s.node.retained)
    (hbegun : s.begun ≤ s'.begun) (hadmits : ∀ j, ¬ t.Admits j) :
    s'.node.retained.hasEntry = true →
      ∃ b ∈ past ++ [t], b.Begins ∧ ∃ admitted, Retains d (past ++ [t]) s' b admitted := by
  intro hentry
  obtain ⟨b, hb, hbegins, admitted, hret⟩ := h.retained (hnode ▸ hentry)
  exact ⟨b, List.mem_append_left _ hb, hbegins, admitted, hret.mono hnode hbegun hadmits⟩

/-- The bridge goes on with the transaction that it was about. -/
theorem Provenance.current_mono (h : Provenance d silence past s) (hon : s.bridge.GoesOn s'.bridge)
    (hbegun : s'.begun = s.begun) :
    s'.bridge.active = true → ∃ b ∈ past ++ [t], b.Submits s'.bridge.requestId s'.bridge.request ∧
      b.after.begun = s'.begun ∧ s'.bridge.transaction.command = b.hub.packet := by
  intro hactive
  obtain ⟨b, hb, hsubmits, hnumber, hcommand⟩ := h.current (hon.active ▸ hactive)
  refine ⟨b, List.mem_append_left _ hb, ?_, hbegun ▸ hnumber, hon.command.trans hcommand⟩
  rw [hon.requestId, hon.request]
  exact hsubmits

/-- An acceptance answers the command that it is made for. -/
theorem caused_success : Caused past b (makeAcknowledgment b.hub.packet AckStatus.success) :=
  .acknowledgment rfl rfl fun hstatus => absurd rfl hstatus

/-- What the Node sends in the turn goes into the channel. -/
theorem Provenance.answers_onNode {r : NodeProcessor × NodeResult} (h : Provenance d silence past s)
    (hnew : ∀ packet ∈ r.2.packets, ∃ b ∈ past ++ [t], b.Begins ∧
      s.begun ≤ b.after.begun + 2 * d.commandLife + silence + 1 ∧ Caused (past ++ [t]) b packet) :
    ∀ answer ∈ (s.onNode r).answers, ∃ b ∈ past ++ [t], b.Begins ∧
      answer.since ≤ b.after.begun + 2 * d.commandLife + silence + 1 ∧ Caused (past ++ [t]) b answer.packet := by
  intro answer hanswer
  rcases List.mem_append.1 hanswer with hanswer | hanswer
  · exact h.answers_mono answer hanswer
  · obtain ⟨packet, hpacket, rfl⟩ := List.mem_map.1 hanswer
    exact hnew packet hpacket

/-- A rejection is an acknowledgment of the rejected command. -/
theorem rejection_acknowledgment {p : NodeProcessor} {command : Packet} {localId peerId : UInt8}
    (h : (p.admitCommand command localId peerId).2.action = .sendRejectionAck) :
    ∃ status, (p.admitCommand command localId peerId).2.acknowledgment = makeAcknowledgment command status := by
  revert h
  unfold NodeProcessor.admitCommand
  generalize admitNodeCommand command localId peerId p.retained = outcome
  obtain ⟨retained, outcome, status⟩ := outcome
  cases outcome <;> simp [default]

/-- A turn of the Hub keeps what it has, and what it sends is the command of its transaction. -/
theorem provenance_begun (h : Provenance d silence past t.before) (hs : t.before.Sound) (hstep : t.Steps hubId nodeId d)
    (hsubmits : t.Submits requestId request) (hid : t.after.bridge.requestId = requestId)
    (hrequest : t.after.bridge.request = request) (hcommand : t.after.bridge.transaction.command = t.hub.packet)
    (hafter : t.after = { t.before with
      bridge := t.after.bridge, begun := t.before.begun + 1
      commands := t.before.commands ++ [⟨t.hub.packet, t.before.begun + 1⟩] }) :
    Provenance d silence (past ++ [t]) t.after := by
  have hbegins : t.Begins := ⟨_, _, hsubmits⟩
  have hbegun := begun_of_begins hs hstep hbegins
  have hadmits : ∀ j, ¬ t.Admits j := by
    obtain ⟨now, overallTimeout, maxRetries, explicitlyConfigured, hcall⟩ := hsubmits.call
    exact not_admits_of_call (by simp [hcall])
  constructor
  · exact fun _ => ⟨t, by simp, by rw [hid, hrequest]; exact hsubmits, rfl, hcommand⟩
  · rw [hafter]
    intro flight hflight
    rcases List.mem_append.1 hflight with hflight | hflight
    · exact h.commands_mono flight hflight
    · rw [List.mem_singleton.1 hflight]
      exact ⟨t, by simp, hbegins, hbegun, rfl⟩
  · exact h.retained_mono (by rw [hafter]) (begun_le hs hstep) hadmits
  · rw [hafter]
    exact h.answers_mono

theorem provenance_executes {c : NodeContext} (h : Provenance d silence past t.before) (hs : t.before.Sound)
    (hbound : ∀ admitted, (∀ u ∈ past, ∀ j, u.Admits j → u.before.begun ≤ admitted) →
      t.before.begun ≤ admitted + silence + d.commandLife + 1)
    (hadmits : ∀ j, ¬ t.Admits j) (hcall : t.call = .execute c)
    (hactive : t.before.node.retained.isActive = true) (hexec : t.before.node.Executed (t.after.node, t.node))
    (hafter : t.after = t.before.onNode (t.after.node, t.node)) : Provenance d silence (past ++ [t]) t.after := by
  have hentry : t.before.node.retained.hasEntry = true := by
    simp only [NodeRetainedOperation.isActive, Bool.and_eq_true] at hactive
    exact hactive.1
  obtain ⟨b, hb, hbegins, admitted, hret⟩ := h.retained hentry
  have hpending := (hs.node.command hactive).trans hret.command
  generalize hr : (t.after.node, t.node) = r at hexec
  cases hexec with
  | @ready response scratch hresponds hscratch =>
    obtain ⟨hnode, hresult⟩ := Prod.mk.inj hr
    have hcaused : Caused (past ++ [t]) b response := by
      refine .response hresponds.type (hresponds.sequence.trans (congrArg Packet.sequence hret.command))
        ⟨t, by simp, ⟨⟨c, hcall⟩, hpending, by rw [hresult], by rw [hresult]⟩, le_trans hret.since hret.now⟩
    constructor
    · rw [hafter]
      exact h.current_mono .rfl rfl
    · rw [hafter]
      exact h.commands_mono
    · rw [hafter, hr]
      refine fun _ => ⟨b, List.mem_append_left _ hb, hbegins, admitted, hret.command, hret.since, hret.age, hret.now,
        fun u hu j huj => ?_, fun _ => hcaused⟩
      rcases List.mem_append.1 hu with hu | hu
      · exact hret.latest u hu j huj
      · rw [List.mem_singleton.1 hu] at huj
        exact absurd huj (hadmits j)
    · rw [hafter, hr]
      refine h.answers_onNode fun packet hpacket => ⟨b, List.mem_append_left _ hb, hbegins, ?_, ?_⟩
      · have hlast := hbound admitted hret.latest
        have hage := hret.age
        omega
      · simp only [NodeResult.packets, List.mem_singleton] at hpacket
        rw [hpacket]
        exact hcaused

/-- A turn in which the Node admits nothing: what it sends answers a command that is not too old. -/
theorem provenance_kept {r : NodeProcessor × NodeResult} (h : Provenance d silence past t.before)
    (hnode : r.1 = t.before.node) (haction : r.2.action ≠ .ackThenExecute) (hresult : t.node = r.2)
    (hafter : t.after = t.before.onNode r)
    (hnew : ∀ packet ∈ r.2.packets, ∃ b ∈ past ++ [t], b.Begins ∧
      t.before.begun ≤ b.after.begun + 2 * d.commandLife + silence + 1 ∧ Caused (past ++ [t]) b packet) :
    Provenance d silence (past ++ [t]) t.after := by
  have hadmits : ∀ j, ¬ t.Admits j := fun j hj => haction (hresult ▸ hj.action)
  rw [hafter]
  constructor
  · exact h.current_mono .rfl rfl
  · exact h.commands_mono
  · exact h.retained_mono (congrArg NodeProcessor.retained hnode) le_rfl hadmits
  · exact h.answers_onNode hnew

theorem provenance_admits {command : Flight} (h : Provenance d silence past t.before) (hs : t.before.Sound)
    (hpast : ∀ u ∈ past, u.before.begun ≤ t.before.begun)
    (hbound : ∀ admitted, (∀ u ∈ past, ∀ j, u.Admits j → u.before.begun ≤ admitted) →
      t.before.begun ≤ admitted + silence + d.commandLife + 1)
    (hverdict : t.node = (t.before.node.admitCommand command.packet nodeId hubId).2)
    (hcall : t.call = .admitCommand command) (hin : command ∈ t.before.commands)
    (hage : t.before.begun ≤ command.since + d.commandLife)
    (hadm : t.before.node.Admitted command.packet nodeId hubId (t.after.node, t.node))
    (hafter : t.after = t.before.onNode (t.after.node, t.node)) : Provenance d silence (past ++ [t]) t.after := by
  obtain ⟨b, hb, hbegins, hsince, hpacket⟩ := h.commands command hin
  have hmem : b ∈ past ++ [t] := List.mem_append_left _ hb
  -- what is retained is answered while it is not too old
  have hretained : t.before.node.retained.hasEntry = true → ∃ b ∈ past ++ [t], b.Begins ∧
      t.before.begun ≤ b.after.begun + 2 * d.commandLife + silence + 1 ∧
      Caused (past ++ [t]) b t.before.node.retained.acknowledgment ∧
      (t.before.node.retained.completed = true → Caused (past ++ [t]) b t.before.node.retained.response) := by
    intro hentry
    obtain ⟨b, hb, hbegins, admitted, hret⟩ := h.retained hentry
    have hlast := hbound admitted hret.latest
    have hadmitted := hret.age
    refine ⟨b, List.mem_append_left _ hb, hbegins, by omega, ?_, fun hcompleted => (hret.completed hcompleted).mono⟩
    rw [NodeRetainedOperation.acknowledgment, hret.command]
    exact caused_success
  generalize hr : (t.after.node, t.node) = r at hadm hafter
  have hresult : t.node = r.2 := (Prod.mk.inj hr).2
  cases hadm with
  | @refused result haddr hall haction =>
    refine provenance_kept h rfl (by rcases haction with ha | ha <;> simp [ha]) hresult hafter fun packet hsent => ?_
    rcases haction with ha | ha
    · simp [NodeResult.packets, ha] at hsent
    -- a rejection, in this very turn
    have hrejects : t.node.action = .sendRejectionAck := hresult ▸ ha
    obtain ⟨status, hack⟩ := rejection_acknowledgment (hverdict ▸ hrejects)
    rw [← hverdict, hresult, hpacket.symm] at hack
    simp only [NodeResult.packets, ha, List.mem_singleton] at hsent
    refine ⟨b, hmem, hbegins, by omega, ?_⟩
    rw [hsent, hack]
    exact .acknowledgment rfl rfl fun _ => ⟨t, by simp, ⟨⟨command.since, by rw [hcall, hpacket]⟩, hrejects⟩,
      hsince ▸ hs.commands command hin⟩
  | pending haddr hdup hactive =>
    simp only [NodeRetainedOperation.isActive, Bool.and_eq_true] at hactive
    obtain ⟨b', hmem', hbegins', hage', hack, -⟩ := hretained hactive.1
    refine provenance_kept h rfl (by simp) hresult hafter fun packet hsent => ⟨b', hmem', hbegins', hage', ?_⟩
    rw [show packet = t.before.node.retained.acknowledgment from by simpa [NodeResult.packets] using hsent]
    exact hack
  | complete haddr hdup hcomplete =>
    simp only [NodeRetainedOperation.isComplete, Bool.and_eq_true] at hcomplete
    obtain ⟨b', hmem', hbegins', hage', hack, hresponse⟩ := hretained hcomplete.1
    refine provenance_kept h rfl (by simp) hresult hafter fun packet hsent => ⟨b', hmem', hbegins', hage', ?_⟩
    simp only [NodeResult.packets, List.mem_cons, List.not_mem_nil, or_false] at hsent
    rcases hsent with rfl | rfl
    · exact hack
    · exact hresponse hcomplete.2
  | busy haddr hnew hactive =>
    exact provenance_kept h rfl (by simp) hresult hafter (by simp [NodeResult.packets])
  | admitted haddr hnew hidle =>
    rw [hafter]
    have hremembered := (NodeProcessor.rememberedCommand_entryOf haddr.type).trans hpacket.symm
    constructor
    · exact h.current_mono .rfl rfl
    · exact h.commands_mono
    · -- the command of `b` takes the place of what was retained, in the transaction that lasts
      refine fun _ => ⟨b, hmem, hbegins, t.before.begun, hremembered, hsince ▸ hs.commands command hin, by omega, le_rfl,
        fun u hu j huj => ?_, fun hcompleted => ?_⟩
      · rcases List.mem_append.1 hu with hu | hu
        · exact hpast u hu
        · rw [List.mem_singleton.1 hu]
      · cases hcompleted
    · refine h.answers_onNode fun packet hsent => ⟨b, hmem, hbegins, by omega, ?_⟩
      simp only [NodeResult.packets, List.mem_singleton] at hsent
      rw [hsent, NodeRetainedOperation.acknowledgment, hremembered]
      exact caused_success

/-- **One turn keeps track of where everything comes from.** -/
theorem provenance_step (h : Provenance d silence past t.before) (hs : t.before.Sound)
    (hpast : ∀ u ∈ past, u.before.begun ≤ t.before.begun)
    (hbound : ∀ admitted, (∀ u ∈ past, ∀ j, u.Admits j → u.before.begun ≤ admitted) →
      t.before.begun ≤ admitted + silence + d.commandLife + 1)
    (hstep : t.Steps hubId nodeId d) : Provenance d silence (past ++ [t]) t.after := by
  cases outcome_of_sound hs hstep with
  | begun hsubmits hpacket hdec hidle hactive hsequence hid hrequest hcommand hafter =>
    exact provenance_begun h hs hstep hsubmits hid hrequest hcommand hafter
  | kept hnew hadmits hon hsent hafter hclass =>
    rw [hafter]
    constructor
    · exact h.current_mono hon rfl
    · intro flight hflight
      rcases List.mem_append.1 hflight with hflight | hflight
      · exact h.commands_mono flight hflight
      · -- a retransmission
        obtain ⟨hactive, rfl⟩ := hsent flight hflight
        obtain ⟨b, hb, hsubmits, hnumber, hcommand⟩ := h.current hactive
        exact ⟨b, List.mem_append_left _ hb, ⟨_, _, hsubmits⟩, hnumber, hcommand.symm⟩
    · exact h.retained_mono rfl le_rfl hadmits
    · exact h.answers_mono
  | timeout hnew hadmits hends hafter | heard hnew hadmits hin hage hends hafter =>
    have hidle := hends.idle
    rw [hafter]
    constructor
    · exact fun hactive => absurd (hactive.symm.trans hidle) (by decide)
    · exact h.commands_mono
    · exact h.retained_mono rfl le_rfl hadmits
    · exact h.answers_mono
  | admits hnew hcall hin hage hadm hafter hhub hverdict =>
    exact provenance_admits h hs hpast hbound hverdict hcall hin hage hadm hafter
  | executes hnew hadmits hcall hactive hexec hafter =>
    exact provenance_executes h hs hbound hadmits hcall hactive hexec hafter
  | restarts hnew hadmits hafter =>
    rw [hafter]
    constructor
    · exact h.current_mono .rfl rfl
    · exact h.commands_mono
    · intro hentry
      cases hentry
    · exact h.answers_mono

theorem Provenance.initial : Provenance d silence [] .initial := by
  constructor
  · intro hactive
    cases hactive
  · exact List.forall_mem_nil _
  · intro hentry
    cases hentry
  · exact List.forall_mem_nil _

theorem provenance_run (h : (peers hubId nodeId d).IsRun .initial (past ++ t :: rest))
    (hheard : Heard silence (past ++ t :: rest)) : Provenance d silence past t.before := by
  obtain ⟨hpast, hbefore, -⟩ := System.isRun_append.1 h
  rw [show t.before = (peers hubId nodeId d).last .initial past from hbefore]
  refine hpast.history .initial fun earlier u later heq hstep hprov => ?_
  rw [heq, List.append_assoc, List.cons_append] at h hheard
  exact provenance_step hprov (run_sound h u (by simp)).1 (fun v hv => before_le_of_mem_past h hv)
    (fun admitted hlatest => silent_bound h hheard hlatest) hstep

/-! ### Freshness -/

/-- Sequences tell transactions apart that are fewer than 256 apart. -/
theorem eq_of_sequence {k n : ℕ} (hle : k ≤ n) (hgap : n ≤ k + 255) (heq : UInt8.ofNat k = UInt8.ofNat n) : k = n := by
  have := congrArg UInt8.toNat heq
  simp only [UInt8.toNat_ofNat'] at this
  omega

/-- **An answer that the Hub hears is one to its command.** -/
theorem heard_current {flight : Flight} (hfits : 2 * d.commandLife + d.answerLife + silence ≤ 254)
    (h : (peers hubId nodeId d).IsRun .initial (past ++ t :: rest)) (hheard : Heard silence (past ++ t :: rest))
    (hactive : t.before.bridge.active = true) (hin : flight ∈ t.before.answers)
    (hage : t.before.begun ≤ flight.since + d.answerLife) (hears : t.before.bridge.Hears flight.packet) :
    ∃ b ∈ past, b.Submits t.before.bridge.requestId t.before.bridge.request ∧ b.after.begun = t.before.begun ∧
      Caused past b flight.packet := by
  have hprov := provenance_run h hheard
  obtain ⟨b, hb, hsubmits, hnumber, hcommand⟩ := hprov.current hactive
  obtain ⟨b', hb', hbegins', hsince, hcaused⟩ := hprov.answers flight hin
  have hall : ∀ u ∈ past, u ∈ past ++ t :: rest := fun u hu => List.mem_append_left _ hu
  obtain ⟨requestId', request', hsubmits'⟩ := hbegins'
  have hseq := (submits_command h (hall b hb) hsubmits).2
  have hseq' := (submits_command h (hall b' hb') hsubmits').2
  have hbegun := begun_of_begins (run_sound h b (hall b hb)).1 (h.steps (hall b hb)) ⟨_, _, hsubmits⟩
  have hbegun' := begun_of_begins (run_sound h b' (hall b' hb')).1 (h.steps (hall b' hb')) ⟨_, _, hsubmits'⟩
  have hold := begun_le_of_mem_past h hb'
  have hsame : UInt8.ofNat b'.before.begun = UInt8.ofNat b.before.begun := by
    rw [← hseq, ← hseq', ← hcommand, ← hcaused.sequence, hears.sequence]
  have heq := eq_of_sequence (by omega) (by omega) hsame
  have hbb : b' = b := begins_unique h (hall b' hb') (hall b hb) ⟨_, _, hsubmits'⟩ ⟨_, _, hsubmits⟩ (by omega)
  exact ⟨b, hb, hsubmits, hnumber, hbb ▸ hcaused⟩

/-- What is delivered was heard in an answer to the command of the transaction. -/
theorem delivered_heard {resultClass : UInt8} (hfits : 2 * d.commandLife + d.answerLife + silence ≤ 254)
    (h : (peers hubId nodeId d).IsRun .initial (past ++ t :: rest)) (hheard : Heard silence (past ++ t :: rest))
    (hdelivers : t.Delivers resultClass) (hclass : resultClass ≠ ResultClass.requestRejected)
    (htimeout : t.hub ≠ t.before.bridge.concluded ResultClass.radioResult RadioResultCode.timeout noneValue) :
    ∃ b ∈ past, b.Submits t.before.bridge.requestId t.before.bridge.request ∧ b.after.begun = t.before.begun ∧
      ∃ answer, Caused past b answer ∧ t.before.bridge.Received answer (t.after.bridge, t.hub) := by
  have hs := (run_sound h t (by simp)).1
  have haction := hdelivers.action
  cases outcome_of_sound hs (h.steps (by simp)) with
  | begun hsubmits => exact absurd (hsubmits.action.symm.trans haction) (by decide)
  | kept _ _ _ _ _ hrejected => exact absurd (hdelivers.resultClass.symm.trans (hrejected haction)) hclass
  | timeout _ _ _ _ hhub => exact absurd hhub htimeout
  | @heard answer _ _ hin hage hends _ hreceived =>
    obtain ⟨b, hb, hsubmits, hnumber, hcaused⟩ := heard_current hfits h hheard hends.active hin hage
      (hreceived.hears haction)
    exact ⟨b, hb, hsubmits, hnumber, answer.packet, hcaused, hreceived⟩
  | admits _ _ _ _ _ _ hhub | executes _ _ _ _ _ _ hhub | restarts _ _ _ hhub =>
    rw [hhub] at haction
    cases haction

theorem not_begins_of_executes {response : Packet} (h : e.Executes b.hub.packet response) : ¬ e.Begins := by
  obtain ⟨c, hcall⟩ := h.call
  exact not_begins_of_call (by simp [hcall])

theorem not_begins_of_refuses (h : e.Refuses b.hub.packet) : ¬ e.Begins := by
  obtain ⟨since, hcall⟩ := h.call
  exact not_begins_of_call (by simp [hcall])

/-- **Results are fresh and belong to their request.** -/
theorem results_fresh (hubId nodeId : UInt8) (d : Delays) (silence : ℕ)
    (hfits : 2 * d.commandLife + d.answerLife + silence ≤ 254) {turns : List PeerTurn}
    (h : (peers hubId nodeId d).IsRun .initial turns) (hheard : Heard silence turns) : Fresh turns := by
  constructor
  · rintro past t rest rfl hdelivers
    have hclass := hdelivers.resultClass
    obtain ⟨b, hb, hsubmits, hnumber, answer, hcaused, hreceived⟩ := delivered_heard hfits h hheard hdelivers (by decide)
      fun hhub => absurd ((hhub ▸ HubBridge.resultClass_concluded).symm.trans hclass) (by decide)
    have hcarries := (submits_command h (List.mem_append_left _ hb) hsubmits).1
    generalize hr : (t.after.bridge, t.hub) = r at hreceived
    cases hreceived with
    | waits _ haction =>
      rw [← (Prod.mk.inj hr).2] at haction
      exact absurd (hdelivers.action.symm.trans haction) (by decide)
    | rejected =>
      rw [(Prod.mk.inj hr).2, HubBridge.resultClass_concluded] at hclass
      exact absurd hclass (by decide)
    | @complete b' w hends hears htype hdec =>
      obtain ⟨-, hhub⟩ := Prod.mk.inj hr
      cases hcaused with
      | acknowledgment hack => exact absurd (hack.symm.trans htype) (by decide)
      | response _ _ hexecuted =>
        obtain ⟨e, he, hexecutes, hsince⟩ := hexecuted
        have hwithin := within_of_begun h hb ⟨_, _, hsubmits⟩ he (not_begins_of_executes hexecutes) hnumber
          (hnumber ▸ hsince)
        refine ⟨b, e, t.before.bridge.request, answer, w, ?_, hcarries, hwithin, hexecutes, hdec, by rw [hhub]; rfl⟩
        rw [hhub]
        exact hsubmits
  · rintro past t rest rfl hdelivers hcode
    obtain ⟨b, hb, hsubmits, hnumber, answer, hcaused, hreceived⟩ := delivered_heard hfits h hheard hdelivers (by decide)
      fun hhub => absurd ((hhub ▸ HubBridge.resultCode_concluded).symm.trans hcode) (by decide)
    have hcarries := (submits_command h (List.mem_append_left _ hb) hsubmits).1
    have hclass := hdelivers.resultClass
    generalize hr : (t.after.bridge, t.hub) = r at hreceived
    cases hreceived with
    | waits _ haction =>
      rw [← (Prod.mk.inj hr).2] at haction
      exact absurd (hdelivers.action.symm.trans haction) (by decide)
    | complete =>
      rw [(Prod.mk.inj hr).2, HubBridge.resultClass_concluded] at hclass
      exact absurd hclass (by decide)
    | rejected hends hears htype hstatus =>
      obtain ⟨-, hhub⟩ := Prod.mk.inj hr
      cases hcaused with
      | response hresponse => exact absurd (hresponse.symm.trans htype) (by decide)
      | acknowledgment _ _ hrefused =>
        obtain ⟨e, he, hrefuses, hsince⟩ := hrefused hstatus
        have hwithin := within_of_begun h hb ⟨_, _, hsubmits⟩ he (not_begins_of_refuses hrefuses) hnumber
          (hnumber ▸ hsince)
        refine ⟨b, e, t.before.bridge.request, ?_, hcarries, hwithin, hrefuses⟩
        rw [hhub]
        exact hsubmits

end Turns

/-! ### Concrete runs -/

/-- The turn of a call, at a Node without capabilities. -/
def PeerTurn.of (hubId nodeId : UInt8) (s : Peers) (call : PeerCall) : PeerTurn :=
  match call with
  | .submit requestId request now overallTimeout maxRetries explicitlyConfigured =>
    let r := s.bridge.submit requestId request .hub hubId nodeId now overallTimeout maxRetries explicitlyConfigured
    ⟨s, call, r.2, default, (s.begins r.2).onHub r⟩
  | .configurePeerSupport support =>
    ⟨s, call, default, default, { s with bridge := s.bridge.configurePeerSupport support }⟩
  | .service now => ⟨s, call, (s.bridge.service now).2, default, s.onHub (s.bridge.service now)⟩
  | .receive answer =>
    ⟨s, call, (s.bridge.receive answer.packet).2, default, s.onHub (s.bridge.receive answer.packet)⟩
  | .admitCommand command =>
    let r := s.node.admitCommand command.packet nodeId hubId
    ⟨s, call, default, r.2, s.onNode r⟩
  | .execute c =>
    let r := ((s.node.executeAdmittedOperation c).run mute ()).1
    ⟨s, call, default, r.2, s.onNode r⟩
  | .restart => ⟨s, call, default, default, { s with node := .initial }⟩

def play (hubId nodeId : UInt8) : Peers → List PeerCall → List PeerTurn
  | _, [] => []
  | s, call :: calls => .of hubId nodeId s call :: play hubId nodeId (PeerTurn.of hubId nodeId s call).after calls

/-- The channel has what is taken from it. -/
def PeerCall.Allowed (d : Delays) (s : Peers) : PeerCall → Prop
  | .receive answer => answer ∈ s.answers ∧ s.begun ≤ answer.since + d.answerLife
  | .admitCommand command => command ∈ s.commands ∧ s.begun ≤ command.since + d.commandLife
  | _ => True

instance (d : Delays) (s : Peers) (call : PeerCall) : Decidable (call.Allowed d s) :=
  match call with
  | .receive answer => inferInstanceAs (Decidable (answer ∈ s.answers ∧ s.begun ≤ answer.since + d.answerLife))
  | .admitCommand command =>
    inferInstanceAs (Decidable (command ∈ s.commands ∧ s.begun ≤ command.since + d.commandLife))
  | .submit _ _ _ _ _ _ | .configurePeerSupport _ | .service _ | .execute _ | .restart => .isTrue trivial

theorem of_steps {hubId nodeId : UInt8} {d : Delays} {s : Peers} {call : PeerCall} (h : call.Allowed d s) :
    (PeerTurn.of hubId nodeId s call).Steps hubId nodeId d := by
  cases call with
  | submit | service => exact ⟨_, rfl, rfl, rfl⟩
  | configurePeerSupport | restart => exact ⟨rfl, rfl, rfl⟩
  | receive | admitCommand => exact ⟨h, _, rfl, rfl, rfl⟩
  | execute c =>
    obtain ⟨ops, hret⟩ := Prog.returns_run mute (s.node.executeAdmittedOperation c) ()
    exact ⟨ops, _, hret, rfl, rfl⟩

theorem play_isRun {hubId nodeId : UInt8} {d : Delays} {s : Peers} {calls : List PeerCall}
    (h : ∀ t ∈ play hubId nodeId s calls, t.call.Allowed d t.before) :
    (peers hubId nodeId d).IsRun s (play hubId nodeId s calls) := by
  induction calls generalizing s with
  | nil => trivial
  | cons call calls ih =>
    have hcall : (PeerTurn.of hubId nodeId s call).call = call ∧ (PeerTurn.of hubId nodeId s call).before = s := by
      cases call <;> exact ⟨rfl, rfl⟩
    have hfirst := h _ List.mem_cons_self
    rw [hcall.1, hcall.2] at hfirst
    exact ⟨hcall.2, of_steps hfirst, ih fun t ht => h t (List.mem_cons_of_mem _ ht)⟩

/-- The command of the transaction `k`, a PING. -/
def pingOf (k : ℕ) : Flight := ⟨⟨.command, 1, 2, UInt8.ofNat (k - 1), OperationCode.ping, [0, 0, 0, 0]⟩, k⟩

/-- The response to the PING with the sequence 0, sent in the transaction `k`. -/
def pongOf (k : ℕ) : Flight := ⟨⟨.response, 2, 1, 0, OperationCode.ping, [0, 0, 0, 2, 4, 0, 0, 0, 0]⟩, k⟩

def submitPing : PeerCall := .submit 0x7101 ⟨OperationCategory.device, OperationCode.ping, 2, 0, noneValue⟩ 0 0 0 false

/-- A PING that is answered. -/
def answeredTurns : List PeerTurn :=
  play 1 2 .initial [submitPing, .admitCommand (pingOf 1), .execute bareContext, .receive (pongOf 1)]

theorem results_fresh_ping : Fresh answeredTurns ∧ ∃ t ∈ answeredTurns, t.Delivers ResultClass.operationResult := by
  have hrun : (peers 1 2 ⟨0, 0⟩).IsRun .initial answeredTurns := play_isRun (by decide +kernel)
  have hheard : Heard 254 answeredTurns := by
    intro t ht k hk hlt
    have hle : ∀ t ∈ answeredTurns, t.after.begun ≤ 1 := by decide +kernel
    have := hle t ht
    omega
  refine ⟨results_fresh 1 2 ⟨0, 0⟩ 254 (by decide) hrun hheard, ?_⟩
  have hlast : ∃ t ∈ answeredTurns, t.hub.action = .hostResponseReady ∧
      t.hub.response.resultClass = ResultClass.operationResult := by decide +kernel
  obtain ⟨t, ht, haction, hclass⟩ := hlast
  exact ⟨t, ht, haction, hclass⟩

/-! ### A stale result -/

/-- A transaction of which the Node hears nothing. -/
def lostCalls : List PeerCall := [submitPing, .service 0]

/-- A transaction in which the Node hears the command, and the Hub nothing. -/
def unansweredCalls (command : Flight) : List PeerCall :=
  [submitPing, .admitCommand command, .execute bareContext, .service 0]

/-- The first PING comes again in the transaction 255, when the Node no longer knows it, and is retained once more; the
PING of the transaction 257 has the same sequence, and is taken for a copy of it. -/
def staleCalls : List PeerCall :=
  unansweredCalls (pingOf 1) ++ (List.replicate 252 lostCalls).flatten ++ unansweredCalls (pingOf 254) ++
    unansweredCalls (pingOf 1) ++ lostCalls ++ [submitPing, .admitCommand (pingOf 257), .receive (pongOf 257)]

def staleTurns : List PeerTurn := play 1 2 .initial staleCalls

namespace PeerTurn

def begins? (t : PeerTurn) : Bool :=
  match t.call with
  | .submit _ _ _ _ _ _ => t.hub.action == .transmitCommand
  | _ => false

def admits? (t : PeerTurn) : Option ℕ :=
  match t.call with
  | .admitCommand command => if t.node.action = .ackThenExecute then some command.since else none
  | _ => none

def executes? (t : PeerTurn) : Bool :=
  match t.call with
  | .execute _ => true
  | _ => false

variable {t : PeerTurn}

theorem begins_of_test (h : t.begins? = true) : t.Begins := by
  unfold begins? at h
  split at h
  · rename_i hcall
    exact ⟨_, _, ⟨_, _, _, _, hcall⟩, by simpa using h⟩
  · cases h

theorem admits_of_test {j : ℕ} (h : t.admits? = some j) : t.Admits j := by
  unfold admits? at h
  split at h
  · rename_i command hcall
    split at h
    · rename_i haction
      cases h
      exact ⟨⟨command.packet, hcall⟩, haction⟩
    · cases h
  · cases h

theorem test_of_executes {command response : Packet} (h : t.Executes command response) : t.executes? = true := by
  obtain ⟨c, hcall⟩ := h.call
  rw [executes?, hcall]

end PeerTurn

theorem staleTurns_ne : staleTurns ≠ [] := List.cons_ne_nil _ _

theorem staleTurns_isRun : (peers 1 2 ⟨254, 254⟩).IsRun .initial staleTurns := play_isRun (by decide +kernel)

theorem staleTurns_heard : Heard 254 staleTurns := by
  intro t ht k hk hlt
  have hle : ∀ t ∈ staleTurns, t.after.begun ≤ 257 := by decide +kernel
  have hadmits : ∃ u ∈ staleTurns, u.admits? = some 254 := by decide +kernel
  have hbegun := hle t ht
  obtain ⟨u, hu, htest⟩ := hadmits
  exact ⟨254, by omega, by omega, u, hu, PeerTurn.admits_of_test htest⟩

/-- **A stale result.** With packets that survive 254 later transactions, the Hub delivers what the Node has executed
before the request was submitted. -/
theorem results_stale : ¬ ∀ turns : List PeerTurn, (peers 1 2 ⟨254, 254⟩).IsRun .initial turns → Heard 254 turns →
    Fresh turns := by
  intro hall
  have hsplit := (List.dropLast_append_getLast staleTurns_ne).symm
  have hrun := staleTurns_isRun
  have hdelivers : (staleTurns.getLast staleTurns_ne).hub.action = .hostResponseReady ∧
      (staleTurns.getLast staleTurns_ne).hub.response.resultClass = ResultClass.operationResult := by decide +kernel
  obtain ⟨b, e, request, response, w, -, -, hwithin, hexecutes, -⟩ := (hall _ hrun staleTurns_heard).operationResult _ _
    [] hsplit ⟨hdelivers.1, hdelivers.2⟩
  obtain ⟨earlier, between, later, hpast, hnone⟩ := hwithin
  -- the last transaction begins in `u`, after everything that is executed
  have hbegun : ∃ u ∈ staleTurns.dropLast, u.begins? = true ∧ u.after.begun = 257 := by decide +kernel
  have hexecuted : ∀ e ∈ staleTurns.dropLast, e.executes? = true → e.before.begun ≤ 255 := by decide +kernel
  obtain ⟨u, hu, htest, hnumber⟩ := hbegun
  have hold := hexecuted e (by simp [hpast]) (PeerTurn.test_of_executes hexecutes)
  rw [hpast] at hu hsplit
  rw [hsplit, List.append_assoc, List.cons_append] at hrun
  rcases List.mem_append.1 hu with hu | hu
  · have := begun_le_of_mem_past hrun hu
    omega
  · exact hnone u (List.mem_append_right _ hu) (PeerTurn.begins_of_test htest)

end Redline.Host
