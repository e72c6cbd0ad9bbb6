import Redline.Host.StackRuns

/-!
# Requests and their answers

A call of `serviceRx` that completes a request frame, on a connected stack with nothing to write, answers it, accepts
it for the radio, or has the same request active already — when its payload decodes at the minor version of the frame.
A payload that does not decode is dropped: `request_answered_iff`.  `unknown_category_dropped` is such a frame.
-/

namespace Redline.Host

open Redline.Wire Redline.Lib

/-- The call has answered the frame with one frame of its own, has accepted it for the radio, or has found it to be
the active request. -/
def StackTurn.Answers (t : StackTurn) (frame : Frame) : Prop :=
  (t.result.action = .hostResponseHandoff ∧ ∃ reply, decodeFrame t.after.transport.pending = (.ok, reply) ∧
    reply.requestId = frame.requestId ∧
    (reply.messageType = MessageType.operationResponse ∨ reply.messageType = MessageType.protocolError)) ∨
  t.result.action = .transmitCommand ∨
  (t.before.lifecycle.state = .active ∧ t.before.lifecycle.Retains frame.requestId frame.payload)

/-! ### The active request -/

theorem decode_of_01 {minor minor' : UInt8} {payload : Bytes} {request : OperationRequest}
    (hdec : decodeOperationRequest minor payload = .ok request)
    (h : validateOperationRequest versionMinor01 request = .ok) :
    decodeOperationRequest minor' payload = .ok request := by
  unfold decodeOperationRequest at hdec ⊢
  split at hdec
  · cases hdec
  rename_i hlen
  rw [if_neg hlen]
  split at hdec
  · cases hdec
  rename_i hlen'
  rw [if_neg hlen']
  dsimp only at hdec ⊢
  split at hdec
  · cases hdec
  rename_i hscalar
  rw [if_neg hscalar]
  split at hdec
  · cases hdec
  cases hdec
  rw [if_neg (not_not.2 (validate_of_01 h))]

/-- A repetition of the active request decodes, at whatever minor version it comes. -/
theorem active_decodes {s : Stack} {frame : Frame} (hs : s.Sound) (hactive : s.lifecycle.state = .active)
    (hret : s.lifecycle.Retains frame.requestId frame.payload) :
    (decodeOperationRequest frame.minor frame.payload).toBool = true := by
  have hl := hs.lifecycle
  have hdec := hl.active hactive
  rw [hret.2] at hdec
  rw [decode_of_01 hdec (hl.inStep.bridge.valid (hl.inStep.active.1 hactive))]
  rfl

/-! ### Answers -/

theorem decode_request? {s : Stack} {c : RxCall} {frame : Frame} (hid : isValidRequestId frame.requestId = true)
    (hlen : frame.payload.length ≤ maxPayloadSize)
    (hdec : (decodeOperationRequest frame.minor frame.payload).toBool = true) :
    (s.submissionOf c frame).request?.isSome = true := by
  unfold Submission.request?
  rw [if_neg]
  · cases h : decodeOperationRequest frame.minor frame.payload with
    | error e =>
      rw [h] at hdec
      cases hdec
    | ok request =>
      simp only [Stack.submissionOf, h]
      rfl
  · simp [Stack.submissionOf, hid, Nat.not_lt.2 hlen]

/-- What the lifecycle says to a submission that decodes, while the Host is there. -/
theorem submitted_action {l : Lifecycle} {a : Submission} {calls : List ServiceOp} {r : Lifecycle × LifecycleResult}
    (hl : l.Sendable) (hconn : l.hostConnected = true) (hreq : a.request?.isSome = true)
    (h : Submitted serves l a calls r) :
    (r.2.action = .hostResponseReady ∧ r.2.requestId = a.requestId ∧
        (r.2.responseMinor = a.requestMinor ∨ l.state ≠ .empty ∧ r.2.responseMinor = l.entry.requestMinor)) ∨
      r.2.action = .transmitCommand ∨ l.state = .active ∧ l.Retains a.requestId a.payload := by
  have honce : l.deliverOnce = .hostResponseReady := if_pos hconn
  have hdeliver : l.deliver = .hostResponseReady := if_pos hconn
  cases h with
  | undecoded hnone => simp [hnone] at hreq
  | mismatch => exact Or.inl ⟨honce, rfl, Or.inl rfl⟩
  | duplicate _ hheld hactive => exact Or.inr (Or.inr ⟨hactive, hheld⟩)
  | replay _ hheld => exact Or.inl ⟨hdeliver, rfl, Or.inr ⟨hheld.1.1, rfl⟩⟩
  | busy => exact Or.inl ⟨honce, rfl, Or.inl rfl⟩
  | @served request calls service hreq hnew hidle hlocal hret r hr =>
    left
    rw [← hr]
    unfold Lifecycle.finishLocal
    dsimp only
    split
    · exact ⟨honce, rfl, Or.inl rfl⟩
    split
    · exact ⟨honce, rfl, Or.inl rfl⟩
    · exact ⟨hdeliver, rfl, Or.inl rfl⟩
  | @remote request hreq hnew hidle hlocal r hr =>
    rcases submitRemote_cases hl.inStep hidle (fun hc => hlocal (Or.inl hc)) with ⟨code, -, hres⟩ | ⟨bridge, -, -, -, hres⟩
    · rw [← hr, hres]
      exact Or.inl ⟨honce, rfl, Or.inl rfl⟩
    · rw [← hr, hres]
      exact Or.inr (Or.inl rfl)

/-- **A request that decodes is answered.** -/
theorem request_answered {t : StackTurn} {c : RxCall} {frame : Frame} {l : Lifecycle} {life : LifecycleResult}
    {calls : List ServiceOp} (hs : t.before.Sound) (hconn : t.before.connected = true)
    (hidle : t.before.transport.hasPendingTx = false) (hframe : c.Completes t.before frame)
    (hid : isValidRequestId frame.requestId = true)
    (hdec : (decodeOperationRequest frame.minor frame.payload).toBool = true)
    (hsub : Submitted serves t.before.lifecycle (t.before.submissionOf c frame) calls (l, life))
    (hr : (t.after, t.result) = { t.before.read c with lifecycle := l }.answerRequest life) : t.Answers frame := by
  obtain ⟨henv, hlen⟩ := hframe.envelope
  have hreq := decode_request? (s := t.before) (c := c) hid hlen hdec
  rcases submitted_action hs.lifecycle (hs.connected.trans hconn) hreq hsub with ⟨haction, hid', hminor⟩ | htransmit | hdup
  · left
    have hver : isSupportedVersion versionMajor life.responseMinor = true := by
      rcases hminor with hm | ⟨hne, hm⟩
      · rw [hm]
        exact (envelope_ok henv).1
      · rw [hm]
        exact hs.minor hne
    have henc : Encodes life.responseMinor life.response := (submit_leaves hs.lifecycle hsub).2 (Or.inl haction)
    have hid'' : life.requestId = frame.requestId := hid'
    have hvalid : isValidRequestId life.requestId = true := hid'' ▸ hid
    obtain ⟨transport, payload, hsubmit, -, hdecoded⟩ :=
      submitOperationResponse_ok (s := { t.before.read c with lifecycle := l }) hidle hver hvalid henc
    rw [Stack.answerRequest, show life.action = .hostResponseReady from haction, hsubmit] at hr
    obtain ⟨hafter, hresult⟩ := Prod.mk.inj hr
    rw [hresult, hafter]
    exact ⟨rfl, _, hdecoded, hid'', Or.inl rfl⟩
  · right
    left
    rw [Stack.answerRequest, show life.action = .transmitCommand from htransmit] at hr
    rw [(Prod.mk.inj hr).2]
  · exact Or.inr (Or.inr hdup)

/-- **A request frame is answered exactly when its payload decodes**, on every connected stack with nothing to
write. -/
theorem request_answered_iff {connected : Bool} {turns : List StackTurn}
    (h : IsStackRun serves (Stack.initial connected) turns) {t : StackTurn} (ht : t ∈ turns) {c : RxCall}
    (hcall : t.call = .serviceRx c) (hconn : t.before.connected = true)
    (hidle : t.before.transport.hasPendingTx = false) {frame : Frame} (hframe : c.Completes t.before frame)
    (htype : frame.messageType = MessageType.operationRequest) :
    t.Answers frame ↔ (decodeOperationRequest frame.minor frame.payload).toBool = true := by
  obtain ⟨hs, hstep⟩ := stackRun_sound h (Stack.initial_sound connected) t ht
  have hid : isValidRequestId frame.requestId = true := by
    have := (envelope_ok hframe.envelope.1).2
    rw [htype] at this
    simpa [isValidEnvelopeRequestId, MessageType.operationRequest, MessageType.protocolError] using this
  unfold StackTurn.Steps at hstep
  rw [hcall] at hstep
  have hrec := serviceRx_receives hstep
  generalize hr : (t.after, t.result) = r at hrec
  generalize t.calls = calls at hrec
  cases hrec with
  | closed hclosed => simp [hconn, hidle] at hclosed
  | other hother => exact absurd htype (hother frame hframe)
  | @undecoded frame' hframe' hdec =>
    -- both are the frame that the parser has handed out
    obtain rfl : frame' = frame := hframe'.2.2.symm.trans hframe.2.2
    obtain ⟨hafter, hresult⟩ := Prod.mk.inj hr
    rw [hdec]
    constructor
    · rintro (⟨hc, -⟩ | hc | ⟨hactive, hret⟩)
      · rw [hresult] at hc
        cases hc
      · rw [hresult] at hc
        cases hc
      · rw [active_decodes hs hactive hret] at hdec
        cases hdec
    · intro hc
      cases hc
  | @request frame' _ l life _ hframe' hdec hsub hans =>
    obtain rfl : frame' = frame := hframe'.2.2.symm.trans hframe.2.2
    exact ⟨fun _ => hdec, fun _ => request_answered hs hconn hidle hframe hid hdec hsub (hr.trans hans)⟩

/-! ### Two frames -/

/-- The bytes of a frame on the stream. -/
def onStream (frame : Frame) : List (Option UInt8) :=
  match encodeFrame frame maxEncodedFrameSize with
  | .ok bytes => bytes.map some
  | .error _ => []

/-- A request frame with the identifier 1 for the device 1, without target and value. -/
def requestFrame (minor category operation : UInt8) : Frame :=
  ⟨versionMajor, minor, MessageType.operationRequest, flagsNone, 1, [category, operation, 1, 0, 0, ValueType.none, 0]⟩

def callWith (frame : Frame) : RxCall where
  snapshot := { (default : DeviceSnapshot) with role := .hub, deviceId := 1, ready := true }
  peerId := 2
  registryValid := true
  registry := ⟨none, 0⟩
  interlock := .clear
  now := 0
  overallTimeout := 1000
  radioBridge := true
  budget := maxEncodedFrameSize
  stream := onStream frame

instance (c : RxCall) (s : Stack) (frame : Frame) : Decidable (c.Completes s frame) :=
  inferInstanceAs (Decidable (_ ∧ _ ∧ _))

theorem serviceRx_of_completes {s : Stack} {c : RxCall} {frame : Frame} (hconn : s.connected = true)
    (hidle : s.transport.hasPendingTx = false) (hframe : c.Completes s frame)
    (htype : frame.messageType = MessageType.operationRequest) :
    s.serviceRx c = (match decodeOperationRequest frame.minor frame.payload with
      | .error _ => pure (s.read c, default)
      | .ok _ => s.lifecycle.submit (s.submissionOf c frame) >>= fun outcome =>
        pure ({ s.read c with lifecycle := outcome.1 }.answerRequest outcome.2)) := by
  unfold Stack.serviceRx
  rw [if_neg (by simp [hconn, hidle])]
  dsimp only
  rw [if_neg (not_not.2 hframe.1), if_neg (not_not.2 hframe.2.1), hframe.2.2, if_neg (by rw [htype]; decide),
    if_neg (not_not.2 htype)]
  rfl

/-- A call that asks none of the services. -/
theorem steps_of_serviceRx {s : Stack} {c : RxCall} {r : Stack × StackResult} (h : s.serviceRx c = pure r) :
    StackTurn.Steps serves ⟨s, .serviceRx c, [], r.2, r.1⟩ := by
  change Prog.Returns serves (s.serviceRx c) [] (r.1, r.2)
  rw [h]
  exact .pure r

/-- A frame with a category that nobody knows. -/
def unknownFrame : Frame := requestFrame versionMinor01 0x09 OperationCode.ping

/-- The stack that has read the frame. -/
def unknownOutcome : Stack × StackResult := ((Stack.initial true).read (callWith unknownFrame), default)

def unknownTurn : StackTurn where
  before := .initial true
  call := .serviceRx (callWith unknownFrame)
  calls := []
  result := unknownOutcome.2
  after := unknownOutcome.1

theorem unknown_completes : (callWith unknownFrame).Completes (.initial true) unknownFrame := by decide +kernel

theorem unknownTurn_steps : unknownTurn.Steps serves := by
  have hdec : decodeOperationRequest unknownFrame.minor unknownFrame.payload = .error .unknownCategory := rfl
  have hserve : (Stack.initial true).serviceRx (callWith unknownFrame) = pure unknownOutcome := by
    rw [serviceRx_of_completes rfl rfl unknown_completes rfl, hdec, unknownOutcome]
  exact steps_of_serviceRx hserve

/-- POLL_EVENTS for a device without the service of the Events. -/
def pollFrame : Frame := requestFrame versionMinor02 OperationCategory.event OperationCode.pollEvents

/-- The rejection of the lifecycle. -/
def pollRejection : LifecycleResult :=
  Lifecycle.initial.rejection 1 pollRequest versionMinor02 RequestRejectionCode.unsupportedOperation

/-- The stack that has read the frame and hands the rejection out. -/
def pollOutcome : Stack × StackResult :=
  Stack.answerRequest { (Stack.initial true).read (callWith pollFrame) with lifecycle := .initial } pollRejection

def pollTurn : StackTurn where
  before := .initial true
  call := .serviceRx (callWith pollFrame)
  calls := []
  result := pollOutcome.2
  after := pollOutcome.1

theorem poll_completes : (callWith pollFrame).Completes (.initial true) pollFrame := by decide +kernel

theorem pollTurn_steps : pollTurn.Steps serves := by
  have hdec : decodeOperationRequest pollFrame.minor pollFrame.payload = .ok pollRequest := rfl
  have hsub : (Stack.initial true).lifecycle.submit ((Stack.initial true).submissionOf (callWith pollFrame) pollFrame) =
      pure (Lifecycle.initial, pollRejection) := rfl
  have hserve : (Stack.initial true).serviceRx (callWith pollFrame) = pure pollOutcome := by
    rw [serviceRx_of_completes rfl rfl poll_completes rfl, hdec]
    dsimp only
    rw [hsub, Prog.pure_bind', pollOutcome]
  exact steps_of_serviceRx hserve

/-- The poll is answered. -/
theorem request_answered_iff_poll :
    IsStackRun serves (.initial true) [pollTurn] ∧ (callWith pollFrame).Completes pollTurn.before pollFrame ∧
      pollTurn.Answers pollFrame :=
  have h : IsStackRun serves (.initial true) [pollTurn] := ⟨rfl, pollTurn_steps, trivial⟩
  ⟨h, poll_completes, (request_answered_iff h (List.mem_singleton_self _) rfl rfl rfl poll_completes rfl).2
    (by decide)⟩

/-- The frame with the unknown category passes every check of the envelope, and nothing comes back. -/
theorem unknown_category_dropped :
    ¬ ∀ connected turns, IsStackRun serves (Stack.initial connected) turns → ∀ t ∈ turns, ∀ c, t.call = .serviceRx c →
      t.before.connected = true → t.before.transport.hasPendingTx = false → ∀ frame, c.Completes t.before frame →
      frame.messageType = MessageType.operationRequest → t.Answers frame := by
  intro h
  have hans := h true [unknownTurn] ⟨rfl, unknownTurn_steps, trivial⟩ unknownTurn (List.mem_singleton_self _) _ rfl rfl
    rfl unknownFrame unknown_completes rfl
  rcases hans with ⟨hc, -⟩ | hc | ⟨hc, -⟩ <;> cases hc

end Redline.Host
