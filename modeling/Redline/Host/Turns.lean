import Redline.Host.Lifecycle
import Redline.Host.Requests

/-!
# Turns of the lifecycle

A run of the lifecycle is a list of turns: a submission, a radio packet, a service call, a disconnect or a
reconnect, with the calls to the local services in it.  The services may answer anything that `answers` allows.

`submit_outcome` says what a submission can do, one case for each way through `Lifecycle.submit`, and
`Lifecycle.Advances` the same for the radio and the clock.  `Lifecycle.InStep`: the lifecycle is active exactly when
its bridge is, and the bridge exactly when there is a transaction, about the request it was given.  `turn_outcome`
puts both together for one turn.
-/

namespace Redline.Host

open Redline.Wire Redline.Lib

/-! ### Turns -/

inductive HostAction
  | submit (a : Submission)
  | receive (packet : Packet)
  | service (now : UInt32)
  | disconnect
  | reconnect

/-- One operation of the lifecycle, with the calls it has made to the services. -/
structure Turn where
  before : Lifecycle
  action : HostAction
  calls : List ServiceOp
  result : LifecycleResult
  after : Lifecycle

/-- The services answer as `answers` says. -/
def Turn.Steps (answers : ServiceOp → ServiceResult → Prop) (t : Turn) : Prop :=
  match t.action with
  | .submit a => Prog.Returns answers (t.before.submit a) t.calls (t.after, t.result)
  | .receive packet => t.calls = [] ∧ t.before.receive packet = (t.after, t.result)
  | .service now => t.calls = [] ∧ t.before.service now = (t.after, t.result)
  | .disconnect => t.calls = [] ∧ t.after = t.before.onHostDisconnect ∧ t.result = default
  | .reconnect => t.calls = [] ∧ t.after = t.before.onHostReconnect ∧ t.result = default

/-- The turns follow one another from `l` on. -/
def IsRun (answers : ServiceOp → ServiceResult → Prop) : Lifecycle → List Turn → Prop
  | _, [] => True
  | l, t :: turns => t.before = l ∧ t.Steps answers ∧ IsRun answers t.after turns

/-- The answers of the services of the device, over any handler behind the capabilities and any ledger and flash
behind the Events. -/
def serves : ServiceOp → ServiceResult → Prop
  | .localOperation requestId request snapshot registryValid registry interlock minor, result =>
    ∃ ops, Prog.Returns (fun _ _ => True)
      (handleLocalOperation requestId request snapshot registryValid registry interlock minor) ops result
  | .event requestId request role localId, result =>
    ∃ ledger ops ledger', Prog.Returns (fun _ _ => True)
      (EventService.handle ledger requestId request role localId) ops (ledger', result)

/-- The state after the turns. -/
def lastState (l : Lifecycle) : List Turn → Lifecycle
  | [] => l
  | t :: turns => lastState t.after turns

variable {answers : ServiceOp → ServiceResult → Prop} {l : Lifecycle}

theorem isRun_append {xs ys : List Turn} :
    IsRun answers l (xs ++ ys) ↔ IsRun answers l xs ∧ IsRun answers (lastState l xs) ys := by
  induction xs generalizing l with
  | nil => simp [IsRun, lastState]
  | cons t xs ih => simp only [List.cons_append, IsRun, lastState, ih, and_assoc]

/-- **Invariants over runs.** -/
theorem isRun_invariant {I : Lifecycle → Prop} (hstep : ∀ t : Turn, t.Steps answers → I t.before → I t.after)
    {turns : List Turn} (h : IsRun answers l turns) (h0 : I l) : ∀ t ∈ turns, I t.before ∧ I t.after := by
  induction turns generalizing l with
  | nil => simp
  | cons t turns ih =>
    obtain ⟨rfl, hs, hrest⟩ := h
    have hafter := hstep t hs h0
    intro u hu
    rcases List.mem_cons.1 hu with rfl | hu
    · exact ⟨h0, hafter⟩
    · exact ih hrest hafter u hu

/-- A turn of a run, as a step. -/
theorem steps_of_mem {turns : List Turn} (h : IsRun answers l turns) {t : Turn} (ht : t ∈ turns) :
    t.Steps answers := by
  induction turns generalizing l with
  | nil => cases ht
  | cons u turns ih =>
    rcases List.mem_cons.1 ht with rfl | ht
    · exact h.2.1
    · exact ih h.2.2 ht

/-! ### What a submission can do -/

/-- The request that the payload carries at the minor of its frame. -/
def Submission.request? (a : Submission) : Option OperationRequest :=
  if !isValidRequestId a.requestId || decide (maxPayloadSize < a.payload.length) then none
  else (decodeOperationRequest a.requestMinor a.payload).toOption

/-- The lifecycle has an entry with the request id. -/
def Lifecycle.Holds (l : Lifecycle) (requestId : UInt16) : Prop := l.state ≠ .empty ∧ l.entry.requestId = requestId

/-- The request is retained. -/
def Lifecycle.Retains (l : Lifecycle) (requestId : UInt16) (payload : Bytes) : Prop :=
  l.Holds requestId ∧ l.entry.requestPayload = payload

/-- The beginning of every result of a submission. -/
def Submission.base (a : Submission) : LifecycleResult :=
  { (default : LifecycleResult) with requestId := a.requestId, responseMinor := a.requestMinor }

/-- The request is served on this device. -/
def Submission.Local (a : Submission) (request : OperationRequest) : Prop :=
  request.targetDeviceId = a.snapshot.deviceId ∨ request.category = OperationCategory.event

/-- **The ways through `submit`.** -/
inductive Submitted (answers : ServiceOp → ServiceResult → Prop) (l : Lifecycle) (a : Submission) :
    List ServiceOp → Lifecycle × LifecycleResult → Prop
  | undecoded (h : a.request? = none) : Submitted answers l a [] (l, { a.base with action := .invalidRequest })
  | mismatch {request : OperationRequest} (hreq : a.request? = some request) (hheld : l.Holds a.requestId)
      (hne : a.payload ≠ l.entry.requestPayload) :
      Submitted answers l a []
        (l, l.rejection a.requestId request a.requestMinor RequestRejectionCode.mismatch)
  | duplicate {request : OperationRequest} (hreq : a.request? = some request)
      (hheld : l.Retains a.requestId a.payload) (hactive : l.state = .active) :
      Submitted answers l a [] (l, { a.base with action := .activeDuplicate })
  | replay {request : OperationRequest} (hreq : a.request? = some request)
      (hheld : l.Retains a.requestId a.payload) (hidle : l.state ≠ .active) :
      Submitted answers l a []
        (l, { a.base with action := l.deliver, responseMinor := l.entry.requestMinor, response := l.entry.response })
  | busy {request : OperationRequest} (hreq : a.request? = some request) (hnew : ¬ l.Holds a.requestId)
      (hactive : l.state = .active) :
      Submitted answers l a [] (l, l.rejection a.requestId request a.requestMinor RequestRejectionCode.busy)
  | served {request : OperationRequest} {calls : List ServiceOp} {result : ServiceResult}
      (hreq : a.request? = some request) (hnew : ¬ l.Holds a.requestId) (hidle : l.state ≠ .active)
      (hlocal : a.Local request) (hret : Prog.Returns answers (Lifecycle.localService a request) calls result)
      {r : Lifecycle × LifecycleResult} (hr : l.finishLocal a request result = r) : Submitted answers l a calls r
  | remote {request : OperationRequest} (hreq : a.request? = some request) (hnew : ¬ l.Holds a.requestId)
      (hidle : l.state ≠ .active) (hlocal : ¬ a.Local request) {r : Lifecycle × LifecycleResult}
      (hr : l.submitRemote a request = r) : Submitted answers l a [] r

theorem submit_outcome {a : Submission} {calls : List ServiceOp} {r : Lifecycle × LifecycleResult}
    (h : Prog.Returns answers (l.submit a) calls r) : Submitted answers l a calls r := by
  unfold Lifecycle.submit at h
  by_cases hid : (!isValidRequestId a.requestId || decide (maxPayloadSize < a.payload.length)) = true
  · rw [if_pos hid] at h
    obtain ⟨rfl, rfl⟩ := Prog.returns_pure.1 h
    exact .undecoded (by rw [Submission.request?, if_pos hid])
  rw [if_neg hid] at h
  cases hdec : decodeOperationRequest a.requestMinor a.payload with
  | error e =>
    rw [hdec] at h
    obtain ⟨rfl, rfl⟩ := Prog.returns_pure.1 h
    exact .undecoded (by rw [Submission.request?, if_neg hid, hdec]; rfl)
  | ok request =>
    have hreq : a.request? = some request := by
      rw [Submission.request?, if_neg hid, hdec]
      rfl
    rw [hdec] at h
    dsimp only at h
    by_cases hheld : l.state ≠ .empty ∧ a.requestId = l.entry.requestId
    · have hholds : l.Holds a.requestId := ⟨hheld.1, hheld.2.symm⟩
      rw [if_pos hheld] at h
      by_cases hne : a.payload = l.entry.requestPayload
      · rw [if_neg (not_not.2 hne)] at h
        by_cases hactive : l.state = .active
        · rw [if_pos hactive] at h
          obtain ⟨rfl, rfl⟩ := Prog.returns_pure.1 h
          exact .duplicate hreq ⟨hholds, hne.symm⟩ hactive
        · rw [if_neg hactive] at h
          obtain ⟨rfl, rfl⟩ := Prog.returns_pure.1 h
          exact .replay hreq ⟨hholds, hne.symm⟩ hactive
      · rw [if_pos hne] at h
        obtain ⟨rfl, rfl⟩ := Prog.returns_pure.1 h
        exact .mismatch hreq hholds hne
    · have hnew : ¬ l.Holds a.requestId := fun hc => hheld ⟨hc.1, hc.2.symm⟩
      rw [if_neg hheld] at h
      by_cases hactive : l.state = .active
      · rw [if_pos hactive] at h
        obtain ⟨rfl, rfl⟩ := Prog.returns_pure.1 h
        exact .busy hreq hnew hactive
      · rw [if_neg hactive] at h
        by_cases hlocal : request.targetDeviceId = a.snapshot.deviceId ∨ request.category = OperationCategory.event
        · rw [if_pos hlocal] at h
          obtain ⟨result, calls₁, calls₂, hcall, hret, rfl⟩ := Prog.returns_bind h
          obtain ⟨rfl, rfl⟩ := Prog.returns_pure.1 hret
          rw [List.append_nil]
          exact .served hreq hnew hactive hlocal hcall rfl
        · rw [if_neg hlocal] at h
          obtain ⟨rfl, rfl⟩ := Prog.returns_pure.1 h
          exact .remote hreq hnew hactive hlocal rfl

/-! ### Local services -/

/-- A refusal changes nothing; any other result of a local service is retained. -/
theorem finishLocal_cases (l : Lifecycle) (a : Submission) (request : OperationRequest) (result : ServiceResult) :
    (∃ res, l.finishLocal a request result = (l, res) ∧ res.action = l.deliverOnce ∧
      res.response.resultClass = ResultClass.requestRejected) ∨
    (result.disposition = .handled ∧ result.response.resultClass ≠ ResultClass.requestRejected ∧
      l.finishLocal a request result =
        ((l.acceptIdentity a.requestId a.requestMinor a.payload).complete result.response,
          { a.base with action := l.deliver, response := result.response })) := by
  unfold Lifecycle.finishLocal
  by_cases hd : result.disposition = .handled
  · dsimp only
    rw [if_neg (not_not.2 hd)]
    by_cases hr : result.response.resultClass = ResultClass.requestRejected
    · rw [if_pos hr]
      exact Or.inl ⟨_, rfl, rfl, hr⟩
    · rw [if_neg hr]
      exact Or.inr ⟨hd, hr, rfl⟩
  · dsimp only
    rw [if_pos hd]
    exact Or.inl ⟨_, rfl, rfl, rfl⟩

/-- A local service is called once. -/
theorem localService_calls {a : Submission} {request : OperationRequest} {calls : List ServiceOp}
    {result : ServiceResult} (h : Prog.Returns answers (Lifecycle.localService a request) calls result) :
    calls.length ≤ 1 := by
  unfold Lifecycle.localService at h
  have hcall : ∀ op, Prog.Returns answers (callService op) calls result → calls.length ≤ 1 := by
    intro op hop
    cases hop with
    | call r _ h =>
      cases h
      simp
  split at h
  · split at h
    · exact hcall _ h
    · obtain ⟨rfl, -⟩ := Prog.returns_pure.1 h
      simp
  · exact hcall _ h

/-! ### The bridge -/

theorem decodeWireResponse_valid {opcode : UInt8} {input : Bytes} {w : WireResponse}
    (h : decodeWireResponse opcode input = .ok w) : isValidResponseSchema opcode w = true := by
  unfold decodeWireResponse at h
  dsimp only at h
  split at h
  · cases h
  split at h
  · cases h
  split at h
  · cases h
  split at h
  · cases h
  split at h
  · cases h
  rename_i hvalid
  cases h
  simpa using hvalid

namespace HubStructuredTransaction

variable (t : HubStructuredTransaction)

/-- What a packet can do to the transaction. -/
inductive Receives : HubStructuredTransaction × StructuredEvent → Prop
  | kept {t' : HubStructuredTransaction} {event : StructuredEvent} (hphase : t'.phase = .idle ↔ t.phase = .idle)
      (hcommand : t'.command = t.command) (htarget : t'.requestTarget = t.requestTarget)
      (hcomplete : event ≠ .responseComplete) (hrejected : event ≠ .remoteRejected) : Receives (t', event)
  | rejected {t' : HubStructuredTransaction} (hphase : t'.phase = .idle) : Receives (t', .remoteRejected)
  | complete {t' : HubStructuredTransaction} (hphase : t'.phase = .idle)
      (hvalid : isValidResponseSchema t.command.opcode t'.result = true)
      (htarget : t'.result.targetId = t.requestTarget) : Receives (t', .responseComplete)

theorem receive_receives (packet : Packet) : t.Receives (t.receive packet) := by
  unfold receive
  split
  · exact .kept Iff.rfl rfl rfl nofun nofun
  rename_i hphase
  split
  · exact .kept Iff.rfl rfl rfl nofun nofun
  rename_i hmatch
  simp only [not_or, not_not] at hmatch
  split
  · split
    · exact .kept Iff.rfl rfl rfl nofun nofun
    split
    · exact .rejected rfl
    · exact .kept (by simp [hphase]) rfl rfl nofun nofun
  split
  · exact .kept Iff.rfl rfl rfl nofun nofun
  split
  · exact .kept Iff.rfl rfl rfl nofun nofun
  rename_i decoded hdec
  split
  · exact .kept Iff.rfl rfl rfl nofun nofun
  rename_i htarget
  rw [hmatch.2.2.2] at hdec
  exact .complete rfl (decodeWireResponse_valid hdec) (not_not.1 htarget)

/-- What the clock can do to the transaction. -/
inductive Serviced : HubStructuredTransaction × StructuredEvent → Prop
  | kept {t' : HubStructuredTransaction} {event : StructuredEvent} (hphase : t'.phase = t.phase)
      (hcommand : t'.command = t.command) (htarget : t'.requestTarget = t.requestTarget)
      (hevent : event = .none ∨ event = .retransmit) : Serviced (t', event)
  | timeout {t' : HubStructuredTransaction} (hphase : t'.phase = .idle) : Serviced (t', .timeout)

theorem service_serviced (now : UInt32) : t.Serviced (t.service now) := by
  unfold service
  split
  · exact .kept rfl rfl rfl (Or.inl rfl)
  split
  · exact .kept rfl rfl rfl (Or.inr rfl)
  · exact .timeout rfl

end HubStructuredTransaction

namespace HubBridge

variable (b : HubBridge) (requestId : UInt16) (request : OperationRequest) (localRole : DeviceRole)
  (localId peerId : UInt8) (now overallTimeout : UInt32) (maxRetries : UInt8) (explicitlyConfigured : Bool)

/-- The bridge and its transaction agree: there is a transaction exactly when the bridge is active, and it is about
the request. -/
structure InStep (b : HubBridge) : Prop where
  phase : b.active = true ↔ b.transaction.phase ≠ .idle
  valid : b.active = true → validateOperationRequest versionMinor01 b.request = .ok
  opcode : b.active = true → b.transaction.command.opcode = b.request.operation
  target : b.active = true → b.transaction.requestTarget = b.request.targetId

theorem initial_inStep : initial.InStep := by
  constructor <;> simp [initial, HubStructuredTransaction.initial]

/-- **The ways through `submit`** of the bridge. -/
inductive Submits : HubBridge × BridgeResult → Prop
  | rejected {code : UInt8} (hcode : isValidResultCode ResultClass.requestRejected code = true) :
      Submits (b, reject { (default : BridgeResult) with requestId, response := makeHostResponseBase request } code)
  | notTaken {r : BridgeResult} (hr : r.action = .notHandled ∨ r.action = .notAccepted)
      (hwhy : request.targetDeviceId = localId ∨ b.active = true ∨ b.transaction.phase ≠ .idle) : Submits (b, r)
  | begun {b' : HubBridge} {r : BridgeResult} (hidle : b.active = false) (hactive : b'.active = true)
      (hstep : b'.InStep) (hrequest : b'.request = request) (haction : r.action = .transmitCommand)
      (hpacket : r.packet = b'.transaction.command) : Submits (b', r)

theorem submit_submits : Submits b requestId request localId
    (b.submit requestId request localRole localId peerId now overallTimeout maxRetries explicitlyConfigured) := by
  unfold submit
  by_cases hvalid : validateOperationRequest versionMinor01 request = .ok
  swap
  · dsimp only
    rw [if_pos hvalid]
    refine .rejected ?_
    split <;> decide
  dsimp only
  rw [if_neg (not_not.2 hvalid)]
  by_cases hlocal : request.targetDeviceId = localId
  · rw [if_pos hlocal]
    exact .notTaken (Or.inl rfl) (Or.inl hlocal)
  rw [if_neg hlocal]
  split
  · exact .rejected (by decide)
  by_cases hactive : b.active = true
  · rw [if_pos hactive]
    exact .notTaken (Or.inr rfl) (Or.inr (Or.inl hactive))
  rw [if_neg hactive]
  split
  · exact .rejected (by decide)
  -- the command carries the request, so that the transaction begins when it is idle
  obtain ⟨bytes, henc, hlen, hdec⟩ := decodeWireRequest_encode hvalid
  have hpayload : (makeCommand localId peerId b.nextSequence request.operation
      ⟨request.targetId, request.value⟩).payload = bytes := by
    simp only [makeCommand, henc]
  rw [hpayload, if_neg hlen]
  by_cases hphase : b.transaction.phase = .idle
  · have hop := (validated_schema hvalid).1
    unfold HubStructuredTransaction.begin
    rw [if_neg, hpayload]
    · simp only [makeCommand, hdec]
      refine .begun (by simpa using hactive) rfl ⟨?_, fun _ => hvalid, fun _ => rfl, fun _ => rfl⟩ rfl rfl rfl
      simp
    · simp [hphase, makeCommand, hop]
  · unfold HubStructuredTransaction.begin
    rw [if_pos (Or.inl hphase)]
    exact .notTaken (Or.inr rfl) (Or.inr (Or.inr hphase))

/-- What the bridge says when the operation is over. -/
inductive Concludes : OperationResponse → Prop
  | radio {code : UInt8} (hcode : code = RadioResultCode.timeout ∨ code = RadioResultCode.remoteRejected) :
      Concludes { makeHostResponseBase b.request with
        resultClass := ResultClass.radioResult, resultCode := code, value := noneValue }
  | answered {w : WireResponse} (hw : isValidResponseSchema b.transaction.command.opcode w = true)
      (htarget : w.targetId = b.transaction.requestTarget) :
      Concludes { makeHostResponseBase b.request with
        resultClass := ResultClass.operationResult, resultCode := w.status, value := w.value }

/-- **The ways through `receive` and `service`** of the bridge. -/
inductive Advances : HubBridge × BridgeResult → Prop
  | waits {b' : HubBridge} {r : BridgeResult} (hactive : b'.active = b.active) (hrequest : b'.request = b.request)
      (hstep : b.InStep → b'.InStep) (hcommand : b'.transaction.command = b.transaction.command)
      (haction : r.action = .none) : Advances (b', r)
  | repeats {b' : HubBridge} {r : BridgeResult} (hactive : b'.active = b.active) (hrequest : b'.request = b.request)
      (hstep : b.InStep → b'.InStep) (hcommand : b'.transaction.command = b.transaction.command)
      (haction : r.action = .transmitCommand)
      (hpacket : r.packet = b.transaction.command) : Advances (b', r)
  | finished {b' : HubBridge} {r : BridgeResult} (hactive : b.active = true) (hidle : b'.active = false)
      (hphase : b'.transaction.phase = .idle) (haction : r.action = .hostResponseReady)
      (hresponse : b.Concludes r.response) : Advances (b', r)

theorem activeBase_of_active (h : b.active = true) : b.activeBase =
    { (default : BridgeResult) with requestId := b.requestId, response := makeHostResponseBase b.request } :=
  if_pos h

theorem activeBase_action : b.activeBase.action = .none := by
  unfold activeBase
  split <;> rfl

/-- Nothing but the phase and what is known of the peer has changed in the transaction. -/
theorem InStep.of_eq {b b' : HubBridge} (h : b.InStep) (hactive : b'.active = b.active)
    (hrequest : b'.request = b.request) (hphase : b'.transaction.phase = .idle ↔ b.transaction.phase = .idle)
    (hcommand : b'.transaction.command = b.transaction.command)
    (htarget : b'.transaction.requestTarget = b.transaction.requestTarget) : b'.InStep := by
  constructor
  · rw [hactive, h.phase, not_iff_not, hphase]
  · rw [hactive, hrequest]
    exact h.valid
  · rw [hactive, hcommand, hrequest]
    exact h.opcode
  · rw [hactive, htarget, hrequest]
    exact h.target

theorem receive_advances (packet : Packet) : b.Advances (b.receive packet) := by
  unfold receive
  by_cases hactive : b.active = true
  swap
  · rw [if_pos (by simpa using hactive)]
    exact .waits rfl rfl id rfl b.activeBase_action
  rw [if_neg (by simp [hactive]), activeBase_of_active b hactive]
  have ht := b.transaction.receive_receives packet
  revert ht
  generalize b.transaction.receive packet = heard
  intro ht
  cases ht with
  | @kept t' event hphase hcommand htarget hcomplete hrejected =>
    have hstep : b.InStep → InStep { b with transaction := t', peerSupport := t'.support } :=
      fun h => h.of_eq rfl rfl hphase hcommand htarget
    cases event with
    | responseComplete => exact absurd rfl hcomplete
    | remoteRejected => exact absurd rfl hrejected
    | _ => exact .waits rfl rfl hstep hcommand rfl
  | rejected hphase => exact .finished hactive rfl hphase rfl (.radio (Or.inr rfl))
  | complete hphase hvalid htarget => exact .finished hactive rfl hphase rfl (.answered hvalid htarget)

theorem service_advances (now : UInt32) : b.Advances (b.service now) := by
  unfold service
  by_cases hactive : b.active = true
  swap
  · rw [if_pos (by simpa using hactive)]
    exact .waits rfl rfl id rfl b.activeBase_action
  rw [if_neg (by simp [hactive]), activeBase_of_active b hactive]
  have ht := b.transaction.service_serviced now
  revert ht
  generalize b.transaction.service now = serviced
  intro ht
  cases ht with
  | @kept t' event hphase hcommand htarget hevent =>
    have hstep : b.InStep → InStep { b with transaction := t' } :=
      fun h => h.of_eq rfl rfl (by rw [hphase]) hcommand htarget
    rcases hevent with rfl | rfl
    · exact .waits rfl rfl hstep hcommand rfl
    · exact .repeats rfl rfl hstep hcommand rfl hcommand
  | timeout hphase => exact .finished hactive rfl hphase rfl (.radio (Or.inl rfl))

end HubBridge

/-! ### In step -/

/-- The lifecycle and its bridge hold the same fact. -/
structure Lifecycle.InStep (l : Lifecycle) : Prop where
  active : l.state = .active ↔ l.remoteBridge.active = true
  bridge : l.remoteBridge.InStep

theorem Lifecycle.initial_inStep : Lifecycle.initial.InStep :=
  ⟨by simp [Lifecycle.initial, HubBridge.initial], HubBridge.initial_inStep⟩

/-- A request for the peer is refused or begun: the bridge is idle when the lifecycle is. -/
theorem submitRemote_cases {a : Submission} {request : OperationRequest} (hstep : l.InStep)
    (hidle : l.state ≠ .active) (hlocal : request.targetDeviceId ≠ a.snapshot.deviceId) :
    (∃ code, isValidResultCode ResultClass.requestRejected code = true ∧
      l.submitRemote a request = (l, l.rejection a.requestId request a.requestMinor code)) ∨
    (∃ bridge : HubBridge, bridge.active = true ∧ bridge.InStep ∧ bridge.request = request ∧
      l.submitRemote a request =
        (Lifecycle.acceptIdentity { l with remoteBridge := bridge } a.requestId a.requestMinor a.payload,
          { a.base with action := .transmitCommand, packet := bridge.transaction.command })) := by
  have hbridge : ¬ l.remoteBridge.active = true := fun hc => hidle (hstep.active.2 hc)
  unfold Lifecycle.submitRemote
  have hsub := l.remoteBridge.submit_submits a.requestId request a.snapshot.role a.snapshot.deviceId a.peerId a.now
    a.overallTimeout a.maxRetries a.explicitlyConfigured
  revert hsub
  generalize l.remoteBridge.submit a.requestId request a.snapshot.role a.snapshot.deviceId a.peerId a.now
    a.overallTimeout a.maxRetries a.explicitlyConfigured = outcome
  intro hsub
  cases hsub with
  | @rejected code hcode => exact Or.inl ⟨code, hcode, rfl⟩
  | notTaken hr hwhy =>
    rcases hwhy with hwhy | hwhy | hwhy
    · exact absurd hwhy hlocal
    · exact absurd hwhy hbridge
    · exact absurd (hstep.bridge.phase.2 hwhy) hbridge
  | @begun b' r hb hactive hb' hrequest haction hpacket =>
    refine Or.inr ⟨b', hactive, hb', hrequest, ?_⟩
    dsimp only
    rw [haction, hpacket]
    rfl

/-- **The ways through `receive` and `service`.** -/
inductive Lifecycle.Advances (l : Lifecycle) : Lifecycle × LifecycleResult → Prop
  | waits {bridge : HubBridge} {r : LifecycleResult} (hstep : Lifecycle.InStep { l with remoteBridge := bridge })
      (hrequest : bridge.request = l.remoteBridge.request)
      (hcommand : bridge.transaction.command = l.remoteBridge.transaction.command)
      (haction : r.action = .none ∨
        r.action = .transmitCommand ∧ l.state = .active ∧ r.packet = l.remoteBridge.transaction.command) :
      Lifecycle.Advances l ({ l with remoteBridge := bridge }, r)
  | finished {bridge : HubBridge} {response : OperationResponse} (hactive : l.state = .active)
      (hstep : (Lifecycle.complete { l with remoteBridge := bridge } response).InStep)
      (hresponse : l.remoteBridge.Concludes response) :
      Lifecycle.Advances l (Lifecycle.complete { l with remoteBridge := bridge } response,
        { (default : LifecycleResult) with
          action := l.deliver, requestId := l.entry.requestId, responseMinor := l.entry.requestMinor, response })

theorem consumeRemote_advances {outcome : HubBridge × BridgeResult} (hstep : l.InStep)
    (h : l.remoteBridge.Advances outcome) :
    l.Advances (Lifecycle.consumeRemote { l with remoteBridge := outcome.1 } outcome.2) := by
  unfold Lifecycle.consumeRemote
  cases h with
  | @waits b' r hactive hrequest hb' hcommand haction =>
    have hstep' : Lifecycle.InStep { l with remoteBridge := b' } :=
      ⟨hstep.active.trans (by rw [hactive]), hb' hstep.bridge⟩
    dsimp only
    split
    · exact .waits hstep' hrequest hcommand (Or.inl rfl)
    · rw [haction]
      exact .waits hstep' hrequest hcommand (Or.inl rfl)
  | @repeats b' r hactive hrequest hb' hcommand haction hpacket =>
    have hstep' : Lifecycle.InStep { l with remoteBridge := b' } :=
      ⟨hstep.active.trans (by rw [hactive]), hb' hstep.bridge⟩
    dsimp only
    split
    · exact .waits hstep' hrequest hcommand (Or.inl rfl)
    · rename_i hl
      rw [haction]
      exact .waits hstep' hrequest hcommand (Or.inr ⟨rfl, not_not.1 hl, hpacket⟩)
  | @finished b' r hactive hidle hphase haction hresponse =>
    have hl : l.state = .active := hstep.active.2 hactive
    dsimp only
    rw [if_neg (not_not.2 hl), haction]
    refine .finished hl ⟨?_, ?_⟩ hresponse
    · simp [Lifecycle.complete, hidle]
    · constructor <;> simp [Lifecycle.complete, hidle, hphase]

theorem Lifecycle.receive_advances (hstep : l.InStep) (packet : Packet) : l.Advances (l.receive packet) :=
  consumeRemote_advances hstep (l.remoteBridge.receive_advances packet)

theorem Lifecycle.service_advances (hstep : l.InStep) (now : UInt32) : l.Advances (l.service now) :=
  consumeRemote_advances hstep (l.remoteBridge.service_advances now)

/-! ### One turn -/

/-- The result hands a response to the Host, now or when it is there again. -/
def LifecycleResult.Delivers (r : LifecycleResult) : Prop :=
  r.action = .hostResponseReady ∨ r.action = .responseRetained

theorem deliver_delivers (l : Lifecycle) : l.deliver = .hostResponseReady ∨ l.deliver = .responseRetained := by
  unfold Lifecycle.deliver
  split <;> simp

/-- **What a turn can do** to the lifecycle. -/
inductive Turn.Outcome (t : Turn) : Prop
  | refused {a : Submission} (haction : t.action = .submit a) (hafter : t.after = t.before)
      (hcalls : t.before.Holds a.requestId → t.calls = []) (htransmit : t.result.action ≠ .transmitCommand)
      (hanswer : t.result.Delivers → t.result.response.resultClass = ResultClass.requestRejected ∨
        t.before.state = .completed ∧ t.result.response = t.before.entry.response)
  | served {a : Submission} (haction : t.action = .submit a) (hidle : t.before.state ≠ .active)
      (hnew : ¬ t.before.Holds a.requestId) (hcalls : t.calls.length ≤ 1)
      (hclass : t.result.response.resultClass ≠ ResultClass.requestRejected) (hdeliver : t.result.Delivers)
      (hafter : t.after =
        (t.before.acceptIdentity a.requestId a.requestMinor a.payload).complete t.result.response)
  | begun {a : Submission} {bridge : HubBridge} (haction : t.action = .submit a) (hidle : t.before.state ≠ .active)
      (hnew : ¬ t.before.Holds a.requestId) (hcalls : t.calls = []) (hactive : bridge.active = true)
      (hstep : bridge.InStep)
      (hafter : t.after = Lifecycle.acceptIdentity { t.before with remoteBridge := bridge } a.requestId
        a.requestMinor a.payload)
      (hresult : t.result =
        { a.base with action := .transmitCommand, packet := bridge.transaction.command })
  | waited {bridge : HubBridge} (hsubmit : ∀ a, t.action ≠ .submit a) (hcalls : t.calls = [])
      (hstep : Lifecycle.InStep { t.before with remoteBridge := bridge })
      (hcommand : bridge.transaction.command = t.before.remoteBridge.transaction.command)
      (hafter : t.after = { t.before with remoteBridge := bridge })
      (haction : t.result.action = .none ∨ t.result.action = .transmitCommand ∧ t.before.state = .active ∧
        t.result.packet = t.before.remoteBridge.transaction.command)
  | finished {bridge : HubBridge} (hsubmit : ∀ a, t.action ≠ .submit a) (hcalls : t.calls = [])
      (hactive : t.before.state = .active) (hstep : t.after.InStep) (hdeliver : t.result.Delivers)
      (hafter : t.after = Lifecycle.complete { t.before with remoteBridge := bridge } t.result.response)
  | linked {connected : Bool} (hsubmit : ∀ a, t.action ≠ .submit a) (hcalls : t.calls = [])
      (hafter : t.after = { t.before with hostConnected := connected }) (hresult : t.result = default)

theorem not_delivers_rejection {l : Lifecycle} {id : UInt16} {request : OperationRequest} {minor code : UInt8} :
    (l.rejection id request minor code).action ≠ .transmitCommand := by
  simp only [Lifecycle.rejection, Lifecycle.deliverOnce]
  split <;> simp

theorem submit_turn {t : Turn} {a : Submission} (hstep : t.before.InStep) (haction : t.action = .submit a)
    (h : Submitted answers t.before a t.calls (t.after, t.result)) : t.Outcome := by
  obtain ⟨l, action, calls, result, after⟩ := t
  dsimp only at *
  cases h with
  | undecoded hreq => exact .refused haction rfl (fun _ => rfl) (by simp) (by simp [LifecycleResult.Delivers])
  | mismatch hreq hheld hne => exact .refused haction rfl (fun _ => rfl) not_delivers_rejection (fun _ => Or.inl rfl)
  | duplicate hreq hheld hactive =>
    exact .refused haction rfl (fun _ => rfl) (by simp) (by simp [LifecycleResult.Delivers])
  | replay hreq hheld hidle =>
    have hstate : l.state = .completed := by
      have hempty := hheld.1.1
      cases hs : l.state with
      | empty => exact absurd hs hempty
      | active => exact absurd hs hidle
      | completed => rfl
    refine .refused haction rfl (fun _ => rfl) ?_ (fun _ => Or.inr ⟨hstate, rfl⟩)
    rcases deliver_delivers l with hd | hd <;> simp [hd]
  | busy hreq hnew hactive => exact .refused haction rfl (fun _ => rfl) not_delivers_rejection (fun _ => Or.inl rfl)
  | @served request calls service hreq hnew hidle hlocal hret r hfin =>
    rcases finishLocal_cases l a request service with ⟨res, hres, hact, hclass⟩ | ⟨hd, hclass, hres⟩
    · cases hfin.symm.trans hres
      refine .refused haction rfl (fun hc => absurd hc hnew) ?_ (fun _ => Or.inl hclass)
      rw [hact]
      unfold Lifecycle.deliverOnce
      split <;> simp
    · cases hfin.symm.trans hres
      exact .served haction hidle hnew (localService_calls hret) hclass (deliver_delivers l) rfl
  | @remote request hreq hnew hidle hlocal r hrem =>
    rcases submitRemote_cases hstep hidle (fun hc => hlocal (Or.inl hc)) with ⟨code, -, hres⟩ |
      ⟨bridge, hactive, hb, -, hres⟩
    · cases hrem.symm.trans hres
      exact .refused haction rfl (fun _ => rfl) not_delivers_rejection (fun _ => Or.inl rfl)
    · cases hrem.symm.trans hres
      exact .begun haction hidle hnew rfl hactive hb rfl rfl

theorem advance_turn {t : Turn} (hsubmit : ∀ a, t.action ≠ .submit a) (hcalls : t.calls = [])
    (h : t.before.Advances (t.after, t.result)) : t.Outcome := by
  obtain ⟨l, action, calls, result, after⟩ := t
  dsimp only at *
  cases h with
  | waits hstep hrequest hcommand haction => exact .waited hsubmit hcalls hstep hcommand rfl haction
  | finished hactive hstep hresponse => exact .finished hsubmit hcalls hactive hstep (deliver_delivers l) rfl

/-- **One turn.** -/
theorem turn_outcome {t : Turn} (hstep : t.before.InStep) (h : t.Steps answers) : t.Outcome := by
  unfold Turn.Steps at h
  split at h
  · exact submit_turn hstep ‹_› (submit_outcome h)
  · rename_i packet haction
    exact advance_turn (by simp [haction]) h.1 (h.2 ▸ Lifecycle.receive_advances hstep packet)
  · rename_i now haction
    exact advance_turn (by simp [haction]) h.1 (h.2 ▸ Lifecycle.service_advances hstep now)
  · exact .linked (by simp [*]) h.1 h.2.1 h.2.2
  · exact .linked (by simp [*]) h.1 h.2.1 h.2.2

theorem turn_inStep {t : Turn} (hstep : t.before.InStep) (h : t.Steps answers) : t.after.InStep := by
  cases turn_outcome hstep h with
  | refused _ hafter => exact hafter ▸ hstep
  | served _ hidle _ _ _ _ hafter =>
    rw [hafter]
    refine ⟨?_, hstep.bridge⟩
    have hb : ¬ t.before.remoteBridge.active = true := fun hc => hidle (hstep.active.2 hc)
    simpa [Lifecycle.complete, Lifecycle.acceptIdentity] using hb
  | begun _ _ _ _ hactive hb hafter =>
    rw [hafter]
    exact ⟨by simp [Lifecycle.acceptIdentity, hactive], hb⟩
  | waited _ _ hstep' _ hafter => exact hafter ▸ hstep'
  | finished _ _ _ hstep' => exact hstep'
  | linked _ _ hafter =>
    rw [hafter]
    exact ⟨hstep.active, hstep.bridge⟩

theorem run_inStep {turns : List Turn} (h : IsRun answers .initial turns) :
    ∀ t ∈ turns, t.before.InStep ∧ t.after.InStep :=
  isRun_invariant (fun _ hs hi => turn_inStep hi hs) h Lifecycle.initial_inStep

end Redline.Host
