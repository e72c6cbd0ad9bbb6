import Redline.Host.Sendable
import Redline.Host.Stack

/-!
# Runs of the Host stack

A turn of the stack is one of its calls, with the answers of the stream in it.  `Stack.Sound` is the invariant of its
runs (`stackRun_sound`): what the lifecycle retains can be sent, the lifecycle and the stack agree on the connection,
and the retained request came in a frame of a supported version.

`submitOperationResponse_ok`: a response that can be sent is submitted when the transport is free, as one frame that
decodes again.
-/

namespace Redline.Host

open Redline.Wire Redline.Lib

/-! ### Turns -/

inductive StackCall
  | observeConnection (connected : Bool)
  | setEventService (service : Bool)
  | serviceTx (budget : ℕ) (writable : Int) (written : ℕ)
  | servicePendingDelivery
  | serviceRx (c : RxCall)
  | onRadioPacket (packet : Packet)
  | serviceRemote (now : UInt32)
  | reset

structure StackTurn where
  before : Stack
  call : StackCall
  calls : List ServiceOp
  result : StackResult
  after : Stack

/-- The services answer as `answers` says; the calls that hand nothing out have no result of their own. -/
def StackTurn.Steps (answers : ServiceOp → ServiceResult → Prop) (t : StackTurn) : Prop :=
  match t.call with
  | .observeConnection connected => t.after = t.before.observeConnection connected ∧ t.result = default
  | .setEventService service => t.after = t.before.setEventService service ∧ t.result = default
  | .serviceTx budget writable written => t.after = (t.before.serviceTx budget writable written).1 ∧ t.result = default
  | .servicePendingDelivery => t.after = t.before.servicePendingDelivery.1 ∧ t.result = default
  | .serviceRx c => Prog.Returns answers (t.before.serviceRx c) t.calls (t.after, t.result)
  | .onRadioPacket packet => t.before.onRadioPacket packet = (t.after, t.result)
  | .serviceRemote now => t.before.serviceRemote now = (t.after, t.result)
  | .reset => t.after = t.before.reset ∧ t.result = default

def IsStackRun (answers : ServiceOp → ServiceResult → Prop) : Stack → List StackTurn → Prop
  | _, [] => True
  | s, t :: turns => t.before = s ∧ t.Steps answers ∧ IsStackRun answers t.after turns

/-! ### Frames -/

theorem decodeFrame_ok {input : Bytes} {frame : Frame} (h : decodeFrame input = (.ok, frame)) :
    envelopeResult frame = .ok ∧ frame.payload.length ≤ maxPayloadSize := by
  unfold decodeFrame at h
  split at h
  · cases h
  split at h
  · cases h
  split at h
  · cases h
  split at h
  · cases h
  split at h
  · cases h
  · cases h
  split at h
  · cases h
  dsimp only at h
  split at h
  · cases h
  rename_i hshort
  split at h
  · cases h
  split at h
  · cases h
  rw [Prod.mk.injEq] at h
  obtain ⟨henv, rfl⟩ := h
  refine ⟨henv, ?_⟩
  rw [List.length_take]
  omega

theorem envelope_ok {frame : Frame} (h : envelopeResult frame = .ok) :
    isSupportedVersion versionMajor frame.minor = true ∧
      isValidEnvelopeRequestId frame.messageType frame.requestId = true := by
  unfold envelopeResult at h
  split at h
  · cases h
  split at h
  · cases h
  rename_i hminor
  split at h
  · cases h
  split at h
  · cases h
  split at h
  · cases h
  rename_i hid
  rw [not_or, UInt8.not_lt, UInt8.not_lt] at hminor
  refine ⟨?_, by simpa using hid⟩
  simp [isSupportedVersion, hminor.1, hminor.2]

/-- A frame that the parser hands out has passed the decoder. -/
theorem consumeLoop_frameReady {p : StreamParser} {consumed : ℕ} {input : Bytes}
    (h : (p.consumeLoop consumed input).2.event = .frameReady) :
    ∃ bytes, decodeFrame bytes = (.ok, (p.consumeLoop consumed input).2.frame) := by
  induction input generalizing p consumed with
  | nil => cases h
  | cons value input ih =>
    unfold StreamParser.consumeLoop at h ⊢
    split at h
    · rename_i hd
      rw [if_pos hd]
      split at h
      · cases h
      · rename_i hv
        rw [if_neg hv]
        exact ih h
    rename_i hd
    rw [if_neg hd]
    split at h
    · rename_i hv
      rw [if_pos hv]
      split at h
      · rename_i hroom
        rw [if_pos hroom]
        exact ih h
      · rename_i hroom
        rw [if_neg hroom]
        exact ih h
    rename_i hv
    rw [if_neg hv]
    split at h
    · rename_i hempty
      rw [if_pos hempty]
      exact ih h
    rename_i hempty
    rw [if_neg hempty]
    refine ⟨p.candidate ++ [frameDelimiter], ?_⟩
    dsimp only at h ⊢
    split at h
    · rename_i hok
      rw [← hok]
    · cases h

theorem serviceRxLoop_frameReady {parser : StreamParser} {bytesRead budget : ℕ} {last : StreamResult}
    {stream : List (Option UInt8)}
    (hstatus : (Transport.serviceRxLoop parser bytesRead last budget stream).2.status = .parserEvent)
    (hevent : (Transport.serviceRxLoop parser bytesRead last budget stream).2.parserResult.event = .frameReady) :
    ∃ bytes, decodeFrame bytes =
      (.ok, (Transport.serviceRxLoop parser bytesRead last budget stream).2.parserResult.frame) := by
  -- without bytes, or without a budget for them, the loop reports how far it has come
  have hend : (if bytesRead ≠ 0 then RxStatus.progress else RxStatus.noActivity) ≠ .parserEvent := by
    split <;> simp
  induction stream generalizing parser bytesRead last budget with
  | nil => cases budget <;> exact absurd hstatus hend
  | cons read stream ih =>
    cases budget with
    | zero => exact absurd hstatus hend
    | succ budget =>
      cases read with
      | none =>
        unfold Transport.serviceRxLoop at hstatus
        cases hstatus
      | some byte =>
        unfold Transport.serviceRxLoop at hstatus hevent ⊢
        dsimp only at hstatus hevent ⊢
        split at hstatus
        · rename_i hne
          rw [if_pos hne] at hevent ⊢
          exact consumeLoop_frameReady hevent
        · rename_i hne
          rw [if_neg hne] at hevent ⊢
          exact ih hstatus hevent (by simp)

/-! ### Sending -/

/-- The transport has one frame to write, which decodes as `frame`. -/
def Stack.Holds (s : Stack) (frame : Frame) : Prop := decodeFrame s.transport.pending = (.ok, frame)

theorem submitFrame_ok {s : Stack} {minor messageType : UInt8} {requestId : UInt16} {payload : Bytes}
    (hidle : s.transport.hasPendingTx = false)
    (hframe : Frame.Sendable ⟨versionMajor, minor, messageType, flagsNone, requestId, payload⟩) :
    ∃ transport, s.submitFrame minor messageType requestId payload = ({ s with transport }, true) ∧
      decodeFrame transport.pending = (.ok, ⟨versionMajor, minor, messageType, flagsNone, requestId, payload⟩) := by
  obtain ⟨encoded, henc, hdec, hlen⟩ := decodeFrame_encodeFrame hframe
  have hne : encoded.length ≠ 0 := by
    intro hc
    rw [List.length_eq_zero_iff.1 hc] at hdec
    cases hdec
  have hpending : ¬ s.transport.pending.length ≠ 0 := by simpa [Transport.hasPendingTx] using hidle
  refine ⟨{ s.transport with pending := encoded, pendingOffset := 0 }, ?_, hdec⟩
  unfold Stack.submitFrame Transport.submit
  rw [henc]
  dsimp only
  rw [if_neg hpending, if_neg (by omega), if_neg (by rw [hdec]; simp)]

theorem not_holds_of_idle {s : Stack} {frame : Frame} (h : s.transport.pending = []) : ¬ s.Holds frame := by
  intro hc
  rw [Stack.Holds, h] at hc
  cases hc

theorem sendable_of_encodeFrame {frame : Frame} {capacity : ℕ} {bytes : Bytes}
    (h : encodeFrame frame capacity = .ok bytes) : frame.Sendable := by
  unfold encodeFrame at h
  split at h
  · cases h
  rename_i hshort
  split at h
  · cases h
  rename_i hversion
  split at h
  · cases h
  rename_i htype
  split at h
  · cases h
  rename_i hflags
  split at h
  · cases h
  rename_i hid
  exact ⟨by omega, by simpa using hversion, by simpa using htype, by simpa using hflags, by simpa using hid⟩

/-- What a free transport holds after a frame has been submitted is that frame. -/
theorem submitFrame_holds {s : Stack} {minor messageType : UInt8} {requestId : UInt16} {payload : Bytes}
    {frame : Frame} (hidle : s.transport.pending = [])
    (h : (s.submitFrame minor messageType requestId payload).1.Holds frame) :
    frame = ⟨versionMajor, minor, messageType, flagsNone, requestId, payload⟩ := by
  cases henc : encodeFrame ⟨versionMajor, minor, messageType, flagsNone, requestId, payload⟩ maxEncodedFrameSize with
  | error e =>
    rw [Stack.submitFrame, henc] at h
    exact absurd h (not_holds_of_idle hidle)
  | ok encoded =>
    obtain ⟨transport, hsub, hdec⟩ := submitFrame_ok (s := s) (by simp [Transport.hasPendingTx, hidle])
      (sendable_of_encodeFrame henc)
    rw [hsub] at h
    exact (Prod.mk.inj (h.symm.trans hdec)).2

theorem submitOperationResponse_holds {s : Stack} {minor : UInt8} {requestId : UInt16} {response : OperationResponse}
    {frame : Frame} (hidle : s.transport.pending = [])
    (h : (s.submitOperationResponse minor requestId response).1.Holds frame) :
    ∃ payload, encodeOperationResponse minor response = .ok payload ∧
      frame = ⟨versionMajor, minor, MessageType.operationResponse, flagsNone, requestId, payload⟩ := by
  cases henc : encodeOperationResponse minor response with
  | error e =>
    rw [Stack.submitOperationResponse, henc] at h
    exact absurd h (not_holds_of_idle hidle)
  | ok payload =>
    rw [Stack.submitOperationResponse, henc] at h
    exact ⟨payload, rfl, submitFrame_holds hidle h⟩

/-- **A response that can be sent is submitted.** -/
theorem submitOperationResponse_ok {s : Stack} {minor : UInt8} {requestId : UInt16} {response : OperationResponse}
    (hidle : s.transport.hasPendingTx = false) (hminor : isSupportedVersion versionMajor minor = true)
    (hid : isValidRequestId requestId = true) (henc : Encodes minor response) :
    ∃ transport payload, s.submitOperationResponse minor requestId response = ({ s with transport }, true) ∧
      encodeOperationResponse minor response = .ok payload ∧ decodeFrame transport.pending =
        (.ok, ⟨versionMajor, minor, MessageType.operationResponse, flagsNone, requestId, payload⟩) := by
  obtain ⟨payload, henc, hlen⟩ := henc
  have hframe : Frame.Sendable ⟨versionMajor, minor, MessageType.operationResponse, flagsNone, requestId, payload⟩ :=
    ⟨hlen, hminor, rfl, rfl, by simp [isValidEnvelopeRequestId, hid]⟩
  obtain ⟨transport, hsub, hdec⟩ := submitFrame_ok hidle hframe
  refine ⟨transport, payload, ?_, henc, hdec⟩
  rw [Stack.submitOperationResponse, henc]
  exact hsub

/-! ### What sending leaves alone -/

/-- Only the transport and the delivery that is still due have changed. -/
def Stack.Same (s s' : Stack) : Prop := s'.lifecycle = s.lifecycle ∧ s'.connected = s.connected

theorem submitFrame_same (s : Stack) (minor messageType : UInt8) (requestId : UInt16) (payload : Bytes) :
    s.Same (s.submitFrame minor messageType requestId payload).1 := by
  unfold Stack.submitFrame
  split
  · exact ⟨rfl, rfl⟩
  split
  · exact ⟨rfl, rfl⟩
  · exact ⟨rfl, rfl⟩

theorem submitOperationResponse_same (s : Stack) (minor : UInt8) (requestId : UInt16) (response : OperationResponse) :
    s.Same (s.submitOperationResponse minor requestId response).1 := by
  unfold Stack.submitOperationResponse
  split
  · exact ⟨rfl, rfl⟩
  · exact submitFrame_same s _ _ _ _

theorem submitProtocolError_same (s : Stack) (minor : UInt8) (requestId : UInt16) (error : ProtocolError) :
    s.Same (s.submitProtocolError minor requestId error).1 := by
  unfold Stack.submitProtocolError
  split
  · exact ⟨rfl, rfl⟩
  · exact submitFrame_same s _ _ _ _

theorem handoff_same {s : Stack} {submitted : Stack × Bool} (h : s.Same submitted.1) :
    s.Same (Stack.handoff submitted).1 := h

theorem answerRefused_same (s : Stack) (parsed : StreamResult) : s.Same (s.answerRefused parsed).1 := by
  unfold Stack.answerRefused
  split
  · exact ⟨rfl, rfl⟩
  · exact handoff_same (submitProtocolError_same s _ _ _)

theorem answerHello_same (s : Stack) (c : RxCall) (frame : Frame) : s.Same (s.answerHello c frame).1 := by
  unfold Stack.answerHello
  split
  · exact handoff_same (submitProtocolError_same s _ _ _)
  split
  · split
    · exact ⟨rfl, rfl⟩
    · exact handoff_same (submitFrame_same s _ _ _ _)
  · exact handoff_same (submitProtocolError_same s _ _ _)

theorem answerRequest_same (s : Stack) (life : LifecycleResult) : s.Same (s.answerRequest life).1 := by
  unfold Stack.answerRequest
  split
  · exact ⟨rfl, rfl⟩
  · exact handoff_same (submitOperationResponse_same s _ _ _)
  · exact ⟨rfl, rfl⟩

theorem consumeRemote_same (s : Stack) (life : LifecycleResult) : s.Same (s.consumeRemote life).1 := by
  unfold Stack.consumeRemote
  split
  · exact ⟨rfl, rfl⟩
  · split
    · exact ⟨rfl, rfl⟩
    have h := submitOperationResponse_same s life.responseMinor life.requestId life.response
    revert h
    generalize s.submitOperationResponse life.responseMinor life.requestId life.response = submitted
    obtain ⟨s', _ | _⟩ := submitted <;> exact id
  · exact ⟨rfl, rfl⟩

theorem servicePendingDelivery_same (s : Stack) : s.Same s.servicePendingDelivery.1 := by
  unfold Stack.servicePendingDelivery
  split
  · exact ⟨rfl, rfl⟩
  dsimp only
  have h := submitOperationResponse_same s s.lifecycle.entry.requestMinor s.lifecycle.entry.requestId
    s.lifecycle.entry.response
  revert h
  generalize s.submitOperationResponse s.lifecycle.entry.requestMinor s.lifecycle.entry.requestId
    s.lifecycle.entry.response = submitted
  obtain ⟨s', _ | _⟩ := submitted <;> exact id

/-- A frame that is not written has bytes left. -/
def Transport.Fits (t : Transport) : Prop := t.pending ≠ [] → t.pendingOffset < t.pending.length

/-- Nothing is due that was not, and the transport has something left of its frame. -/
structure Stack.Submits (s s' : Stack) : Prop where
  due : s'.pendingOriginalDelivery = s.pendingOriginalDelivery
  fits : s.transport.Fits → s'.transport.Fits

theorem Stack.Submits.refl (s : Stack) : s.Submits s := ⟨rfl, id⟩

theorem submitFrame_submits (s : Stack) (minor messageType : UInt8) (requestId : UInt16) (payload : Bytes) :
    s.Submits (s.submitFrame minor messageType requestId payload).1 := by
  unfold Stack.submitFrame
  split
  · exact .refl s
  unfold Transport.submit
  split
  · rename_i transport hsub
    split at hsub
    · cases hsub
    split at hsub
    · cases hsub
    split at hsub
    · cases hsub
    obtain ⟨rfl, -⟩ := Prod.mk.inj hsub
    exact ⟨rfl, fun _ hne => List.length_pos_iff.2 hne⟩
  · exact .refl s

theorem submitOperationResponse_submits (s : Stack) (minor : UInt8) (requestId : UInt16)
    (response : OperationResponse) : s.Submits (s.submitOperationResponse minor requestId response).1 := by
  unfold Stack.submitOperationResponse
  split
  · exact .refl s
  · exact submitFrame_submits s _ _ _ _

theorem answerRequest_submits (s : Stack) (life : LifecycleResult) : s.Submits (s.answerRequest life).1 := by
  unfold Stack.answerRequest
  split
  · exact .refl s
  · exact ⟨(submitOperationResponse_submits s _ _ _).due, (submitOperationResponse_submits s _ _ _).fits⟩
  · exact .refl s

/-- No response of an operation is handed to the transport. -/
structure Stack.Reserves (s s' : Stack) : Prop where
  submits : s.Submits s'
  responses : s.transport.pending = [] → ∀ frame, s'.Holds frame → frame.messageType ≠ MessageType.operationResponse

theorem Stack.Reserves.refl (s : Stack) : s.Reserves s :=
  ⟨.refl s, fun hidle _ hframe => absurd hframe (not_holds_of_idle hidle)⟩

theorem submitFrame_reserves (s : Stack) {minor messageType : UInt8} {requestId : UInt16} {payload : Bytes}
    (htype : messageType ≠ MessageType.operationResponse) :
    s.Reserves (s.submitFrame minor messageType requestId payload).1 := by
  refine ⟨submitFrame_submits s _ _ _ _, fun hidle frame hframe => ?_⟩
  rw [submitFrame_holds hidle hframe]
  exact htype

theorem submitProtocolError_reserves (s : Stack) (minor : UInt8) (requestId : UInt16) (error : ProtocolError) :
    s.Reserves (s.submitProtocolError minor requestId error).1 := by
  unfold Stack.submitProtocolError
  split
  · exact .refl s
  · exact submitFrame_reserves s (by decide)

theorem handoff_reserves {s : Stack} {submitted : Stack × Bool} (h : s.Reserves submitted.1) :
    s.Reserves (Stack.handoff submitted).1 := h

theorem answerRefused_reserves (s : Stack) (parsed : StreamResult) : s.Reserves (s.answerRefused parsed).1 := by
  unfold Stack.answerRefused
  split
  · exact .refl s
  · exact handoff_reserves (submitProtocolError_reserves s _ _ _)

theorem answerHello_reserves (s : Stack) (c : RxCall) (frame : Frame) : s.Reserves (s.answerHello c frame).1 := by
  unfold Stack.answerHello
  split
  · exact handoff_reserves (submitProtocolError_reserves s _ _ _)
  split
  · split
    · exact .refl s
    · exact handoff_reserves (submitFrame_reserves s (by decide))
  · exact handoff_reserves (submitProtocolError_reserves s _ _ _)

/-! ### The invariant -/

structure Stack.Sound (s : Stack) : Prop where
  lifecycle : s.lifecycle.Sendable
  connected : s.lifecycle.hostConnected = s.connected
  minor : s.lifecycle.state ≠ .empty → isSupportedVersion versionMajor s.lifecycle.entry.requestMinor = true
  requestId : s.lifecycle.state ≠ .empty → isValidRequestId s.lifecycle.entry.requestId = true

theorem Stack.Sound.same {s s' : Stack} (h : s.Sound) (hsame : s.Same s') : s'.Sound := by
  obtain ⟨hl, hc⟩ := hsame
  constructor
  · rw [hl]
    exact h.lifecycle
  · rw [hl, hc]
    exact h.connected
  · rw [hl]
    exact h.minor
  · rw [hl]
    exact h.requestId

theorem Stack.initial_sound (connected : Bool) : (Stack.initial connected).Sound := by
  cases connected
  · exact ⟨⟨⟨by simp [Stack.initial, Lifecycle.onHostDisconnect, Lifecycle.initial, HubBridge.initial],
      HubBridge.initial_inStep⟩, nofun, nofun⟩, rfl, fun hc => absurd rfl hc, fun hc => absurd rfl hc⟩
  · exact ⟨Lifecycle.initial_sendable, rfl, fun hc => absurd rfl hc, fun hc => absurd rfl hc⟩

/-- The request of a lifecycle that is not empty, before and after. -/
structure Lifecycle.Continues (l l' : Lifecycle) : Prop where
  connected : l'.hostConnected = l.hostConnected
  state : l'.state ≠ .empty → l.state ≠ .empty
  minor : l'.entry.requestMinor = l.entry.requestMinor
  requestId : l'.entry.requestId = l.entry.requestId

theorem Lifecycle.Continues.refl (l : Lifecycle) : l.Continues l := ⟨rfl, id, rfl, rfl⟩

/-- A submission leaves the retained request or puts its own in its place. -/
theorem submit_entry {answers : ServiceOp → ServiceResult → Prop} {l : Lifecycle} {a : Submission}
    {calls : List ServiceOp} {r : Lifecycle × LifecycleResult} (hstep : l.InStep) (h : Submitted answers l a calls r) :
    l.Continues r.1 ∨ r.1.hostConnected = l.hostConnected ∧ r.1.entry.requestMinor = a.requestMinor ∧
      r.1.entry.requestId = a.requestId ∧ a.request?.isSome = true := by
  cases h with
  | undecoded | mismatch | duplicate | replay | busy => exact Or.inl (.refl l)
  | @served request calls service hreq hnew hidle hlocal hret r hr =>
    rcases finishLocal_cases l a request service with ⟨res, hres, -, -⟩ | ⟨-, -, hres⟩
    · rw [← hr, hres]
      exact Or.inl (.refl l)
    · rw [← hr, hres]
      exact Or.inr ⟨rfl, rfl, rfl, by simp [hreq]⟩
  | @remote request hreq hnew hidle hlocal r hr =>
    rcases submitRemote_cases hstep hidle (fun hc => hlocal (Or.inl hc)) with ⟨code, -, hres⟩ | ⟨bridge, -, -, -, hres⟩
    · rw [← hr, hres]
      exact Or.inl (.refl l)
    · rw [← hr, hres]
      exact Or.inr ⟨rfl, rfl, rfl, by simp [hreq]⟩

theorem advance_continues {l : Lifecycle} {r : Lifecycle × LifecycleResult} (h : l.Advances r) : l.Continues r.1 := by
  cases h with
  | waits => exact ⟨rfl, id, rfl, rfl⟩
  | finished hactive => exact ⟨rfl, fun _ => by simp [hactive], rfl, rfl⟩

theorem Stack.Sound.continues {s : Stack} {l : Lifecycle} (h : s.Sound) (hl : l.Sendable)
    (hcont : s.lifecycle.Continues l) : Stack.Sound { s with lifecycle := l } where
  lifecycle := hl
  connected := hcont.connected.trans h.connected
  minor := fun hc => hcont.minor ▸ h.minor (hcont.state hc)
  requestId := fun hc => hcont.requestId ▸ h.requestId (hcont.state hc)

theorem request?_requestId {a : Submission} (h : a.request?.isSome = true) : isValidRequestId a.requestId = true := by
  unfold Submission.request? at h
  split at h
  · cases h
  · rename_i hid
    simp only [Bool.or_eq_true, Bool.not_eq_true', not_or, Bool.not_eq_false] at hid
    exact hid.1

/-- What `serviceRx` does with a request frame. -/
theorem submitted_sound {s : Stack} {c : RxCall} {frame : Frame} {calls : List ServiceOp}
    {r : Lifecycle × LifecycleResult} (h : s.Sound) (hminor : isSupportedVersion versionMajor frame.minor = true)
    (hsub : Submitted serves s.lifecycle (s.submissionOf c frame) calls r) :
    Stack.Sound { s with lifecycle := r.1 } := by
  have hleaves := (submit_leaves h.lifecycle hsub).1
  rcases submit_entry h.lifecycle.inStep hsub with hcont | ⟨hconn, hm, hid, hreq⟩
  · exact h.continues hleaves hcont
  · exact ⟨hleaves, hconn.trans h.connected, fun _ => hm ▸ hminor, fun _ => hid ▸ request?_requestId hreq⟩

/-- The frame that the call completes, if the parser hands one out. -/
def RxCall.Completes (c : RxCall) (s : Stack) (frame : Frame) : Prop :=
  (s.transport.serviceRx c.budget c.stream).2.status = .parserEvent ∧
    (s.transport.serviceRx c.budget c.stream).2.parserResult.event = .frameReady ∧
    (s.transport.serviceRx c.budget c.stream).2.parserResult.frame = frame

theorem RxCall.Completes.envelope {c : RxCall} {s : Stack} {frame : Frame} (h : c.Completes s frame) :
    envelopeResult frame = .ok ∧ frame.payload.length ≤ maxPayloadSize := by
  obtain ⟨hstatus, hevent, rfl⟩ := h
  obtain ⟨bytes, hdec⟩ := serviceRxLoop_frameReady hstatus hevent
  exact decodeFrame_ok hdec

/-- The stack after the bytes have been read. -/
def Stack.read (s : Stack) (c : RxCall) : Stack :=
  { s with transport := (s.transport.serviceRx c.budget c.stream).1 }

theorem Stack.Reserves.of_read {s s' : Stack} {c : RxCall} (h : (s.read c).Reserves s') : s.Reserves s' :=
  ⟨⟨h.submits.due, h.submits.fits⟩, h.responses⟩

/-- **The ways through `serviceRx`.** -/
inductive Receives (answers : ServiceOp → ServiceResult → Prop) (s : Stack) (c : RxCall) :
    List ServiceOp → Stack × StackResult → Prop
  | closed (h : s.connected = false ∨ s.transport.hasPendingTx = true) : Receives answers s c [] (s, default)
  | other {r : Stack × StackResult} (hframe : ∀ frame, c.Completes s frame →
      frame.messageType ≠ MessageType.operationRequest) (hsame : s.Same r.1) (hreserves : s.Reserves r.1) :
      Receives answers s c [] r
  | undecoded {frame : Frame} (hframe : c.Completes s frame)
      (hdec : (decodeOperationRequest frame.minor frame.payload).toBool = false) :
      Receives answers s c [] (s.read c, default)
  | request {frame : Frame} {calls : List ServiceOp} {l : Lifecycle} {life : LifecycleResult}
      {r : Stack × StackResult} (hframe : c.Completes s frame)
      (hdec : (decodeOperationRequest frame.minor frame.payload).toBool = true)
      (hsub : Submitted answers s.lifecycle (s.submissionOf c frame) calls (l, life))
      (hr : r = { s.read c with lifecycle := l }.answerRequest life) : Receives answers s c calls r

theorem serviceRx_receives {answers : ServiceOp → ServiceResult → Prop} {s : Stack} {c : RxCall}
    {calls : List ServiceOp} {r : Stack × StackResult} (h : Prog.Returns answers (s.serviceRx c) calls r) :
    Receives answers s c calls r := by
  unfold Stack.serviceRx at h
  by_cases hopen : (!s.connected || s.transport.hasPendingTx) = true
  · rw [if_pos hopen] at h
    obtain ⟨rfl, rfl⟩ := Prog.returns_pure.1 h
    exact .closed (by simpa using hopen)
  rw [if_neg hopen] at h
  dsimp only at h
  by_cases hstatus : (s.transport.serviceRx c.budget c.stream).2.status = .parserEvent
  swap
  · rw [if_pos hstatus] at h
    obtain ⟨rfl, rfl⟩ := Prog.returns_pure.1 h
    exact .other (fun frame hf => absurd hf.1 hstatus) ⟨rfl, rfl⟩ (.of_read (.refl (s.read c)))
  rw [if_neg (not_not.2 hstatus)] at h
  by_cases hevent : (s.transport.serviceRx c.budget c.stream).2.parserResult.event = .frameReady
  swap
  · rw [if_pos hevent] at h
    obtain ⟨rfl, rfl⟩ := Prog.returns_pure.1 h
    exact .other (fun frame hf => absurd hf.2.1 hevent) (answerRefused_same (s.read c) _)
      (.of_read (answerRefused_reserves (s.read c) _))
  rw [if_neg (not_not.2 hevent)] at h
  generalize hframe : (s.transport.serviceRx c.budget c.stream).2.parserResult.frame = frame at h
  have hcompletes : c.Completes s frame := ⟨hstatus, hevent, hframe⟩
  by_cases hhello : frame.messageType = MessageType.helloRequest
  · rw [if_pos hhello] at h
    obtain ⟨rfl, rfl⟩ := Prog.returns_pure.1 h
    refine .other (fun frame' hf => ?_) (answerHello_same (s.read c) c frame)
      (.of_read (answerHello_reserves (s.read c) c frame))
    rw [← hf.2.2, hframe, hhello]
    decide
  rw [if_neg hhello] at h
  by_cases htype : frame.messageType = MessageType.operationRequest
  swap
  · rw [if_pos htype] at h
    obtain ⟨rfl, rfl⟩ := Prog.returns_pure.1 h
    refine .other (fun frame' hf => ?_) ⟨rfl, rfl⟩ (.of_read (.refl (s.read c)))
    rw [← hf.2.2, hframe]
    exact htype
  rw [if_neg (not_not.2 htype)] at h
  cases hdec : decodeOperationRequest frame.minor frame.payload with
  | error e =>
    rw [hdec] at h
    obtain ⟨rfl, rfl⟩ := Prog.returns_pure.1 h
    exact .undecoded hcompletes (by rw [hdec]; rfl)
  | ok request =>
    rw [hdec] at h
    obtain ⟨⟨l, life⟩, calls₁, calls₂, hsub, hret, rfl⟩ := Prog.returns_bind h
    obtain ⟨rfl, rfl⟩ := Prog.returns_pure.1 hret
    rw [List.append_nil]
    exact .request hcompletes (by rw [hdec]; rfl) (submit_outcome hsub) rfl

theorem serviceRx_sound {s : Stack} {c : RxCall} {calls : List ServiceOp} {r : Stack × StackResult} (hs : s.Sound)
    (h : Prog.Returns serves (s.serviceRx c) calls r) : r.1.Sound := by
  cases serviceRx_receives h with
  | closed => exact hs
  | other hframe hsame => exact hs.same hsame
  | undecoded => exact hs.same ⟨rfl, rfl⟩
  | @request frame calls l life r hframe hdec hsub hr =>
    have hread : (s.read c).Sound := hs.same ⟨rfl, rfl⟩
    rw [hr]
    exact (submitted_sound (r := (l, life)) hread (envelope_ok hframe.envelope.1).1 hsub).same (answerRequest_same _ _)

/-! ### Runs -/

theorem turn_sound {t : StackTurn} (hs : t.before.Sound) (h : t.Steps serves) : t.after.Sound := by
  unfold StackTurn.Steps at h
  split at h
  · rw [h.1, Stack.observeConnection]
    split
    · exact hs
    have hl := hs.lifecycle
    split
    · exact ⟨⟨⟨hl.inStep.active, hl.inStep.bridge⟩, hl.completed, hl.active⟩, by simp_all [Lifecycle.onHostDisconnect],
        hs.minor, hs.requestId⟩
    · exact ⟨⟨⟨hl.inStep.active, hl.inStep.bridge⟩, hl.completed, hl.active⟩, by simp_all [Lifecycle.onHostReconnect],
        hs.minor, hs.requestId⟩
  · rw [h.1]
    exact hs.same ⟨rfl, rfl⟩
  · rw [h.1]
    exact hs.same ⟨rfl, rfl⟩
  · rw [h.1]
    exact hs.same (servicePendingDelivery_same _)
  · exact serviceRx_sound hs h
  · rename_i packet hcall
    have hadv := Lifecycle.receive_advances hs.lifecycle.inStep packet
    have hsound := hs.continues (advance_leaves hs.lifecycle hadv).1 (advance_continues hadv)
    have hsame := consumeRemote_same { t.before with lifecycle := (t.before.lifecycle.receive packet).1 }
      (t.before.lifecycle.receive packet).2
    have hafter : t.after = (t.before.onRadioPacket packet).1 := by rw [h]
    rw [hafter]
    exact hsound.same hsame
  · rename_i now hcall
    have hadv := Lifecycle.service_advances hs.lifecycle.inStep now
    have hsound := hs.continues (advance_leaves hs.lifecycle hadv).1 (advance_continues hadv)
    have hsame := consumeRemote_same { t.before with lifecycle := (t.before.lifecycle.service now).1 }
      (t.before.lifecycle.service now).2
    have hafter : t.after = (t.before.serviceRemote now).1 := by rw [h]
    rw [hafter]
    exact hsound.same hsame
  · rw [h.1]
    exact (Stack.initial_sound true).same ⟨rfl, rfl⟩

/-- **Every state of a run.** -/
theorem stackRun_sound {s : Stack} {turns : List StackTurn} (h : IsStackRun serves s turns) (hs : s.Sound) :
    ∀ t ∈ turns, t.before.Sound ∧ t.Steps serves := by
  induction turns generalizing s with
  | nil => simp
  | cons t turns ih =>
    obtain ⟨rfl, hstep, hrest⟩ := h
    intro u hu
    rcases List.mem_cons.1 hu with rfl | hu
    · exact ⟨hs, hstep⟩
    · exact ih hrest (turn_sound hs hstep) u hu

end Redline.Host
