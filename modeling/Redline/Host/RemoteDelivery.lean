import Redline.Host.Answered
import Redline.Host.Minors
import Redline.Lib.Run

/-!
# The delivery of a remote result

The loop of the Hub observes the connection, writes to the stream, delivers what is due and reads from the stream, in
this order; packets come in and the clock is looked at between two iterations.  A remote operation may be over while
the transport still has an earlier frame to write.  Then its response is due, and delivered as soon as that frame is
written.

The invariant is `Stack.Ready`: a response is due only while the transport is busy and the completed operation is still
the retained one.  Writing and delivering come before reading, so the next request frame finds the transport occupied by
the response that was due.  `remote_delivered_once`: the response is handed to the transport exactly once, before any
later request frame is read.
-/

namespace Redline.Host

open Redline.Wire Redline.Lib

/-! ### The loop -/

/-- A packet or the clock between two iterations, or an iteration.  The last call of an iteration is not reached when
the loop has no time for the Host. -/
inductive LoopTurn
  | radio (heard : StackTurn)
  | pass (observed sent delivered : StackTurn) (received : Option StackTurn)

namespace LoopTurn

/-- The calls of the turn in their order. -/
def turns : LoopTurn → List StackTurn
  | .radio heard => [heard]
  | .pass observed sent delivered none => [observed, sent, delivered]
  | .pass observed sent delivered (some received) => [observed, sent, delivered, received]

def before : LoopTurn → Stack
  | .radio heard => heard.before
  | .pass observed _ _ _ => observed.before

def after : LoopTurn → Stack
  | .radio heard => heard.after
  | .pass _ _ delivered none => delivered.after
  | .pass _ _ _ (some received) => received.after

def Steps : LoopTurn → Prop
  | .radio heard =>
    ((∃ packet, heard.call = .onRadioPacket packet) ∨ ∃ now, heard.call = .serviceRemote now) ∧ heard.Steps serves
  | .pass observed sent delivered received =>
    (∃ connected, observed.call = .observeConnection connected) ∧
      (∃ budget writable written, sent.call = .serviceTx budget writable written) ∧
      delivered.call = .servicePendingDelivery ∧ (∀ r ∈ received, ∃ c, r.call = .serviceRx c) ∧
      IsStackRun serves observed.before (turns (.pass observed sent delivered received))

/-- The Host is there in the turn. -/
def Connected : LoopTurn → Prop
  | .radio _ => True
  | .pass observed _ _ _ => observed.call = .observeConnection true

/-- A remote operation is over. -/
def Finishes : LoopTurn → Prop
  | .radio heard => heard.before.lifecycle.state = .active ∧ heard.after.lifecycle.state = .completed
  | .pass _ _ _ _ => False

/-- The call that delivers the response of a remote operation, if the turn does. -/
def handing : LoopTurn → StackTurn
  | .radio heard => heard
  | .pass _ _ delivered _ => delivered

/-- The response of a remote operation is delivered. -/
def Delivers : LoopTurn → Prop
  | .radio heard => heard.result.action = .hostResponseHandoff
  | .pass _ _ delivered _ => delivered.before.servicePendingDelivery.2 = true

/-- A request frame is read and processed. -/
def Reads : LoopTurn → Prop
  | .pass _ _ _ (some received) => ∃ c frame, received.call = .serviceRx c ∧ received.before.connected = true ∧
    received.before.transport.hasPendingTx = false ∧ c.Completes received.before frame ∧
    frame.messageType = MessageType.operationRequest
  | _ => False

/-- The stream takes something of what there is to write. -/
def Accepts : LoopTurn → Prop
  | .radio _ => True
  | .pass _ sent _ _ => ∀ budget writable written, sent.call = .serviceTx budget writable written →
    sent.before.transport.hasPendingTx = true → 0 < budget ∧ 0 < writable ∧ 0 < written ∧
      written ≤ min (min writable.toNat budget) sent.before.transport.remainingTx

/-- The turn is an iteration. -/
def isPass : LoopTurn → Bool
  | .radio _ => false
  | .pass _ _ _ _ => true

end LoopTurn

/-- The loop of the Hub, as far as the Host sees it. -/
def hostLoop : System Stack LoopTurn where
  before := LoopTurn.before
  after := LoopTurn.after
  Steps := LoopTurn.Steps

/-! ### One call -/

/-- The frame of the retained response. -/
def RetainedEntry.Frames (e : RetainedEntry) (frame : Frame) : Prop :=
  ∃ payload, encodeOperationResponse e.requestMinor e.response = .ok payload ∧
    frame = ⟨versionMajor, e.requestMinor, MessageType.operationResponse, flagsNone, e.requestId, payload⟩

/-- A response is due only while the transport is busy, and it is the retained one. -/
structure Stack.Ready (s : Stack) : Prop where
  sound : s.Sound
  fits : s.transport.Fits
  due : s.pendingOriginalDelivery = true →
    s.connected = true ∧ s.transport.pending ≠ [] ∧ s.lifecycle.state = .completed

section Calls

variable {s : Stack}

theorem hasPendingTx_iff {t : Transport} : t.hasPendingTx = true ↔ t.pending ≠ [] := by
  simp [Transport.hasPendingTx]

theorem hasPendingTx_false {t : Transport} : t.hasPendingTx = false ↔ t.pending = [] := by
  simp [Transport.hasPendingTx]

/-- The retained response is submitted to a free transport. -/
theorem submit_retained {l : Lifecycle} (hs : Stack.Sound { s with lifecycle := l }) (hstate : l.state = .completed)
    (hidle : s.transport.pending = []) :
    ∃ transport frame, Stack.submitOperationResponse { s with lifecycle := l } l.entry.requestMinor l.entry.requestId
        l.entry.response = ({ s with lifecycle := l, transport }, true) ∧ l.entry.Frames frame ∧
      decodeFrame transport.pending = (.ok, frame) ∧ transport.Fits := by
  have hne : l.state ≠ .empty := by simp [hstate]
  obtain ⟨transport, payload, hsub, henc, hdec⟩ := submitOperationResponse_ok (s := { s with lifecycle := l })
    (hasPendingTx_false.2 hidle) (hs.minor hne) (hs.requestId hne) (hs.lifecycle.completed hstate)
  refine ⟨transport, _, hsub, ⟨payload, henc, rfl⟩, hdec, ?_⟩
  have hfits := (submitOperationResponse_submits { s with lifecycle := l } l.entry.requestMinor l.entry.requestId
    l.entry.response).fits fun hc => absurd hidle hc
  rw [hsub] at hfits
  exact hfits

/-- **What the radio can do.** -/
inductive Stack.Heard (s : Stack) : Stack × StackResult → Prop
  | waits {l : Lifecycle} {r : StackResult} (hstate : l.state = s.lifecycle.state)
      (hentry : l.entry = s.lifecycle.entry) (hr : r.action ≠ .hostResponseHandoff) :
      Heard s ({ s with lifecycle := l }, r)
  | delivered {l : Lifecycle} {transport : Transport} {frame : Frame} (hactive : s.lifecycle.state = .active)
      (hstate : l.state = .completed) (hclass : l.entry.response.resultClass ≠ ResultClass.requestRejected)
      (hidle : s.transport.pending = []) (hframe : l.entry.Frames frame)
      (hdec : decodeFrame transport.pending = (.ok, frame)) (hfits : transport.Fits) :
      Heard s ({ s with lifecycle := l, transport }, { (default : StackResult) with action := .hostResponseHandoff })
  | deferred {l : Lifecycle} (hactive : s.lifecycle.state = .active) (hstate : l.state = .completed)
      (hclass : l.entry.response.resultClass ≠ ResultClass.requestRejected) (hbusy : s.transport.pending ≠ []) :
      Heard s ({ s with lifecycle := l, pendingOriginalDelivery := s.connected || s.pendingOriginalDelivery }, default)
  | retained {l : Lifecycle} (hactive : s.lifecycle.state = .active) (hstate : l.state = .completed)
      (hconn : s.connected = false) : Heard s ({ s with lifecycle := l }, default)

theorem concludes_class {b : HubBridge} {r : OperationResponse} (h : b.Concludes r) :
    r.resultClass ≠ ResultClass.requestRejected := by
  cases h
  · exact (by decide : ResultClass.radioResult ≠ ResultClass.requestRejected)
  · exact (by decide : ResultClass.operationResult ≠ ResultClass.requestRejected)

theorem consumeRemote_heard {l : Lifecycle} {life : LifecycleResult} (hs : s.Sound)
    (hl : Stack.Sound { s with lifecycle := l }) (h : s.lifecycle.Advances (l, life)) :
    s.Heard (Stack.consumeRemote { s with lifecycle := l } life) := by
  cases h with
  | waits hstep hrequest hcommand haction =>
    unfold Stack.consumeRemote
    rcases haction with ha | ⟨ha, -⟩
    · rw [ha]
      exact .waits rfl rfl (by decide)
    · rw [ha]
      exact .waits rfl rfl nofun
  | @finished bridge response hactive hstep hresponse =>
    have hclass := concludes_class hresponse
    unfold Stack.consumeRemote
    dsimp only
    by_cases hconn : s.connected = true
    swap
    · have hdeliver : s.lifecycle.deliver = .responseRetained := by
        rw [Lifecycle.deliver, hs.connected]
        exact if_neg hconn
      rw [hdeliver]
      exact .retained hactive rfl (by simpa using hconn)
    have hdeliver : s.lifecycle.deliver = .hostResponseReady := by
      rw [Lifecycle.deliver, hs.connected]
      exact if_pos hconn
    rw [hdeliver]
    dsimp only
    by_cases hbusy : s.transport.pending = []
    · obtain ⟨transport, frame, hsub, hframe, hdec, hfits⟩ := submit_retained hl rfl hbusy
      rw [if_neg (by simp [Transport.hasPendingTx, hbusy])]
      have hsub' : Stack.submitOperationResponse
          { s with lifecycle := Lifecycle.complete { s.lifecycle with remoteBridge := bridge } response }
          s.lifecycle.entry.requestMinor s.lifecycle.entry.requestId response = _ := hsub
      rw [hsub']
      exact .delivered hactive rfl hclass hbusy hframe hdec hfits
    · rw [if_pos (hasPendingTx_iff.2 hbusy)]
      exact .deferred hactive rfl hclass hbusy

/-- **What `servicePendingDelivery` can do.** -/
inductive Stack.Serviced (s : Stack) : Stack × Bool → Prop
  | delivered {transport : Transport} {frame : Frame} (hdue : s.pendingOriginalDelivery = true)
      (hidle : s.transport.pending = []) (hframe : s.lifecycle.entry.Frames frame)
      (hdec : decodeFrame transport.pending = (.ok, frame)) (hfits : transport.Fits) :
      Serviced s ({ s with transport, pendingOriginalDelivery := false }, true)
  | nothing (h : s.connected = true → s.pendingOriginalDelivery = true → s.lifecycle.state = .completed →
      s.transport.pending ≠ []) : Serviced s (s, false)

theorem servicePendingDelivery_serviced (hs : s.Sound) : s.Serviced s.servicePendingDelivery := by
  unfold Stack.servicePendingDelivery
  split
  · rename_i hno
    simp only [Bool.or_eq_true, Bool.not_eq_true', decide_eq_true_eq, hasPendingTx_iff] at hno
    refine .nothing fun hconn hdue hstate => ?_
    rcases hno with ((hc | hc) | hc) | hc
    · simp [hconn] at hc
    · simp [hdue] at hc
    · exact hc
    · exact absurd hstate hc
  · rename_i hyes
    simp only [Bool.or_eq_true, Bool.not_eq_true', decide_eq_true_eq, hasPendingTx_iff, not_or, not_not,
      Bool.not_eq_false] at hyes
    obtain ⟨⟨⟨-, hdue⟩, hidle⟩, hstate⟩ := hyes
    obtain ⟨transport, frame, hsub, hframe, hdec, hfits⟩ := submit_retained (l := s.lifecycle) hs hstate hidle
    have hsub' : s.submitOperationResponse s.lifecycle.entry.requestMinor s.lifecycle.entry.requestId
        s.lifecycle.entry.response = _ := hsub
    dsimp only
    rw [hsub']
    exact .delivered hdue hidle hframe hdec hfits

/-- Writing takes from the frame, and the frame away when it is written. -/
theorem serviceTx_written (t : Transport) (budget : ℕ) (writable : Int) (written : ℕ) (hfits : t.Fits) :
    ∀ t', t' = (t.serviceTx budget writable written).1 →
      t'.Fits ∧ (t'.pending = t.pending ∨ t'.pending = [] ∧ t.pendingOffset + written = t.pending.length) ∧
        (0 < budget → 0 < writable → 0 < written → written ≤ min (min writable.toNat budget) t.remainingTx →
          t.pending ≠ [] → t'.pending = [] ∨ t'.remainingTx < t.remainingTx) := by
  rintro t' rfl
  unfold Transport.serviceTx
  by_cases hidle : t.pending.length = 0
  · rw [if_pos hidle]
    exact ⟨hfits, Or.inl rfl, fun _ _ _ _ hne => absurd (List.length_eq_zero_iff.1 hidle) hne⟩
  rw [if_neg hidle]
  have hoffset := hfits (by simpa using hidle)
  split
  · exact ⟨hfits, Or.inl rfl, fun _ _ _ _ _ => by omega⟩
  split
  · exact ⟨hfits, Or.inl rfl, fun _ _ _ _ _ => by omega⟩
  dsimp only
  split
  · exact ⟨hfits, Or.inl rfl, fun _ _ _ _ _ => by omega⟩
  split
  · exact ⟨hfits, Or.inl rfl, fun _ _ _ _ _ => by omega⟩
  rename_i hattempt hzero
  have hrem : t.remainingTx = t.pending.length - t.pendingOffset := rfl
  split
  · rename_i hall
    exact ⟨fun hc => absurd rfl hc, Or.inr ⟨rfl, hall⟩, fun _ _ _ _ _ => Or.inl rfl⟩
  · rename_i hsome
    refine ⟨fun _ => ?_, Or.inl rfl, fun _ _ _ _ _ => Or.inr ?_⟩
    · change t.pendingOffset + written < t.pending.length
      change ¬ t.pendingOffset + written = t.pending.length at hsome
      omega
    · change t.pending.length - (t.pendingOffset + written) < t.pending.length - t.pendingOffset
      omega

/-- Nothing is read while the transport is busy. -/
theorem serviceRx_busy {c : RxCall} (h : s.transport.pending ≠ []) : s.serviceRx c = pure (s, default) := by
  unfold Stack.serviceRx
  rw [if_pos (by simp [hasPendingTx_iff.2 h])]

/-- Reading sets nothing due. -/
theorem serviceRx_submits {answers : ServiceOp → ServiceResult → Prop} {c : RxCall} {calls : List ServiceOp}
    {r : Stack × StackResult} (h : Prog.Returns answers (s.serviceRx c) calls r) : s.Submits r.1 := by
  cases serviceRx_receives h with
  | closed => exact .refl s
  | other hframe hsame hreserves => exact hreserves.submits
  | undecoded => exact ⟨rfl, id⟩
  | @request frame _ l life _ hframe hdec hsub hr =>
    rw [hr]
    have hsubmits := answerRequest_submits { s.read c with lifecycle := l } life
    exact ⟨hsubmits.due, hsubmits.fits⟩

theorem submitted_state {answers : ServiceOp → ServiceResult → Prop} {l : Lifecycle} {a : Submission}
    {calls : List ServiceOp} {r : Lifecycle × LifecycleResult} (hstep : l.InStep) (h : Submitted answers l a calls r)
    (hne : l.state ≠ .empty) : r.1.state ≠ .empty := by
  cases h with
  | undecoded | mismatch | duplicate | replay | busy => exact hne
  | @served request calls service hreq hnew hidle hlocal hret r hr =>
    rcases finishLocal_cases l a request service with ⟨res, hres, -⟩ | ⟨-, -, hres⟩
    · rw [← hr, hres]
      exact hne
    · rw [← hr, hres]
      simp [Lifecycle.complete]
  | remote hreq hnew hidle hlocal hr =>
    rcases submitRemote_cases hstep hidle (fun hc => hlocal (Or.inl hc)) with ⟨code, -, hres⟩ | ⟨bridge, -, -, -, hres⟩
    · rw [← hr, hres]
      exact hne
    · rw [← hr, hres]
      simp [Lifecycle.acceptIdentity]

theorem serviceRx_state {answers : ServiceOp → ServiceResult → Prop} {c : RxCall} {calls : List ServiceOp}
    {r : Stack × StackResult} (hstep : s.lifecycle.InStep) (h : Prog.Returns answers (s.serviceRx c) calls r)
    (hne : s.lifecycle.state ≠ .empty) : r.1.lifecycle.state ≠ .empty := by
  cases serviceRx_receives h with
  | closed => exact hne
  | other hframe hsame =>
    rw [hsame.1]
    exact hne
  | undecoded => exact hne
  | @request frame _ l life _ hframe hdec hsub hr =>
    rw [hr, (answerRequest_same _ life).1]
    exact submitted_state hstep hsub hne

/-- **A response that is handed out on reading** answers the frame that was read, and a retained one only a
repetition of its request. -/
theorem serviceRx_answers {e : RetainedEntry} {c : RxCall} {calls : List ServiceOp} {r : Stack × StackResult}
    {frame : Frame} (hs : s.Sound) (h : Prog.Returns serves (s.serviceRx c) calls r)
    (hidle : s.transport.pending = []) (hclass : e.response.resultClass ≠ ResultClass.requestRejected)
    (hframe : e.Frames frame) (hholds : r.1.Holds frame) :
    ∃ request, c.Completes s request ∧ request.requestId = e.requestId ∧
      (s.lifecycle.state ≠ .empty → s.lifecycle.entry = e → request.payload = e.requestPayload) := by
  obtain ⟨payload, henc, rfl⟩ := hframe
  cases serviceRx_receives h with
  | closed => exact absurd hholds (not_holds_of_idle hidle)
  | other hother hsame hreserves => exact absurd rfl (hreserves.responses hidle _ hholds)
  | undecoded => exact absurd hholds (not_holds_of_idle (s := s.read c) hidle)
  | @request request _ l life _ hcompletes hdec hsub hr =>
    -- the transport is free, so what it holds is what the lifecycle has answered
    have haction : life.action = .hostResponseReady := by
      by_contra hc
      rw [hr] at hholds
      refine absurd hholds (not_holds_of_idle ?_)
      unfold Stack.answerRequest
      split
      · exact hidle
      · exact absurd ‹_› hc
      · exact hidle
    rw [hr, Stack.answerRequest, haction] at hholds
    obtain ⟨payload', henc', heq⟩ := submitOperationResponse_holds (s := { s.read c with lifecycle := l }) hidle hholds
    simp only [Frame.mk.injEq, true_and] at heq
    obtain ⟨hminor, hid, rfl⟩ := heq
    have hat := submitted_at hs.lifecycle.inStep hsub (Or.inl haction)
    have hid' : request.requestId = e.requestId := by
      rw [hid]
      rcases hat with ⟨-, hat⟩ | ⟨hret, hat⟩
      · exact hat.1.symm
      · exact hret.1.2.symm.trans hat.1.symm
    refine ⟨request, hcompletes, hid', fun hne hentry => ?_⟩
    have hheld : s.lifecycle.Holds (s.submissionOf c request).requestId := ⟨hne, by rw [hentry]; exact hid'.symm⟩
    by_contra hpayload
    cases hsub with
    | undecoded => cases haction
    | mismatch =>
      -- the rejection is another response than the retained one
      rw [← hminor] at henc'
      have hsame := (decode_of_encode henc).symm.trans (decode_of_encode henc')
      rw [Except.ok.inj hsame] at hclass
      exact hclass rfl
    | duplicate hreq hret | replay hreq hret => exact hpayload (by rw [← hentry]; exact hret.2.symm)
    | busy hreq hnew | served hreq hnew | remote hreq hnew => exact hnew hheld

end Calls

/-! ### One turn of the loop -/

section Turns

variable {t : LoopTurn} {heard observed sent delivered u : StackTurn} {received : Option StackTurn}

theorem radio_heard (hs : heard.before.Sound) (h : (LoopTurn.radio heard).Steps) :
    heard.before.Heard (heard.after, heard.result) := by
  obtain ⟨hcall, hstep⟩ := h
  unfold StackTurn.Steps at hstep
  rcases hcall with ⟨packet, hcall⟩ | ⟨now, hcall⟩
  · rw [hcall] at hstep
    have hadv := Lifecycle.receive_advances hs.lifecycle.inStep packet
    have hl := hs.continues (advance_leaves hs.lifecycle hadv).1 (advance_continues hadv)
    rw [← hstep]
    exact consumeRemote_heard hs hl hadv
  · rw [hcall] at hstep
    have hadv := Lifecycle.service_advances hs.lifecycle.inStep now
    have hl := hs.continues (advance_leaves hs.lifecycle hadv).1 (advance_continues hadv)
    rw [← hstep]
    exact consumeRemote_heard hs hl hadv

/-- A response may be due on a free transport, after writing. -/
structure Stack.Written (s : Stack) : Prop where
  sound : s.Sound
  fits : s.transport.Fits
  due : s.pendingOriginalDelivery = true → s.connected = true ∧ s.lifecycle.state = .completed

theorem Stack.Ready.written {s : Stack} (h : s.Ready) : s.Written :=
  ⟨h.sound, h.fits, fun hdue => ⟨(h.due hdue).1, (h.due hdue).2.2⟩⟩

theorem observe_ready (hr : u.before.Ready) {connected : Bool} (hcall : u.call = .observeConnection connected)
    (h : u.Steps serves) : u.after.Ready := by
  have hsound := turn_sound hr.sound h
  unfold StackTurn.Steps at h
  rw [hcall] at h
  refine ⟨hsound, ?_, ?_⟩ <;> rw [h.1, Stack.observeConnection]
  · split
    · exact hr.fits
    split
    · exact fun hc => absurd rfl hc
    · exact hr.fits
  · split
    · exact hr.due
    rename_i hchange
    split
    · intro hdue
      cases hdue
    · intro hdue
      have hconn := (hr.due hdue).1
      simp_all

theorem serviceTx_ready (hr : u.before.Ready) {budget written : ℕ} {writable : Int}
    (hcall : u.call = .serviceTx budget writable written) (h : u.Steps serves) : u.after.Written := by
  have hsound := turn_sound hr.sound h
  unfold StackTurn.Steps at h
  rw [hcall] at h
  refine ⟨hsound, ?_, ?_⟩ <;> rw [h.1, Stack.serviceTx]
  · exact (serviceTx_written u.before.transport budget writable written hr.fits _ rfl).1
  · exact hr.written.due

theorem servicePendingDelivery_ready (hr : u.before.Written) (hcall : u.call = .servicePendingDelivery)
    (h : u.Steps serves) : u.after.Ready := by
  have hsound := turn_sound hr.sound h
  unfold StackTurn.Steps at h
  rw [hcall] at h
  have hserviced := servicePendingDelivery_serviced hr.sound
  rw [h.1] at hsound ⊢
  generalize u.before.servicePendingDelivery = r at hserviced hsound
  cases hserviced with
  | delivered hdue hidle hframe hdec hfits => exact ⟨hsound, hfits, nofun⟩
  | nothing hbusy =>
    exact ⟨hsound, hr.fits, fun hdue => ⟨(hr.due hdue).1, hbusy (hr.due hdue).1 hdue (hr.due hdue).2, (hr.due hdue).2⟩⟩

theorem serviceRx_returns {c : RxCall} (hcall : u.call = .serviceRx c) (h : u.Steps serves) :
    Prog.Returns serves (u.before.serviceRx c) u.calls (u.after, u.result) := by
  unfold StackTurn.Steps at h
  rw [hcall] at h
  exact h

theorem serviceRx_ready (hr : u.before.Ready) {c : RxCall} (hcall : u.call = .serviceRx c) (h : u.Steps serves) :
    u.after.Ready := by
  have hsound := turn_sound hr.sound h
  replace h := serviceRx_returns hcall h
  have hsubmits := serviceRx_submits h
  refine ⟨hsound, hsubmits.fits hr.fits, fun hdue => ?_⟩
  rw [hsubmits.due] at hdue
  have hbusy := hr.due hdue
  rw [serviceRx_busy hbusy.2.1] at h
  rw [(Prod.mk.inj (Prog.returns_pure.1 h).2).1]
  exact hbusy

theorem heard_ready (hr : heard.before.Ready) (h : (LoopTurn.radio heard).Steps) : heard.after.Ready := by
  have hsound := turn_sound hr.sound h.2
  have hheard := radio_heard hr.sound h
  -- an active operation means that nothing is due
  have hactive : heard.before.lifecycle.state = .active → heard.before.pendingOriginalDelivery = false := by
    intro ha
    by_contra hc
    have hstate := (hr.due (by simpa using hc)).2.2
    rw [ha] at hstate
    cases hstate
  revert hheard
  generalize hout : (heard.after, heard.result) = r
  intro hheard
  cases hheard with
  | waits hstate hentry hact =>
    rw [(Prod.mk.inj hout).1] at hsound ⊢
    exact ⟨hsound, hr.fits, fun hdue => ⟨(hr.due hdue).1, (hr.due hdue).2.1, hstate.trans (hr.due hdue).2.2⟩⟩
  | delivered ha hstate hclass hidle hframe hdec hfits =>
    rw [(Prod.mk.inj hout).1] at hsound ⊢
    exact ⟨hsound, hfits, fun hdue => absurd ((hactive ha).symm.trans hdue) (by decide)⟩
  | deferred ha hstate hclass hbusy =>
    rw [(Prod.mk.inj hout).1] at hsound ⊢
    refine ⟨hsound, hr.fits, fun hdue => ⟨?_, hbusy, hstate⟩⟩
    simpa [hactive ha] using hdue
  | retained ha hstate hconn =>
    rw [(Prod.mk.inj hout).1] at hsound ⊢
    exact ⟨hsound, hr.fits, fun hdue => absurd ((hactive ha).symm.trans hdue) (by decide)⟩

/-- The calls of an iteration, from a ready stack. -/
structure Passes (observed sent delivered : StackTurn) (received : Option StackTurn) : Prop where
  observes : observed.Steps serves
  sends : sent.before = observed.after ∧ sent.Steps serves
  delivers : delivered.before = sent.after ∧ delivered.Steps serves
  receives : ∀ r ∈ received, r.before = delivered.after ∧ r.Steps serves
  observedReady : observed.after.Ready
  sentWritten : sent.after.Written
  deliveredReady : delivered.after.Ready
  receivedReady : ∀ r ∈ received, r.after.Ready

theorem pass_passes (hr : observed.before.Ready) (h : (LoopTurn.pass observed sent delivered received).Steps) :
    Passes observed sent delivered received := by
  obtain ⟨⟨connected, hobs⟩, ⟨budget, writable, written, hsend⟩, hdel, hrec, hrun⟩ := h
  have hchain : observed.Steps serves ∧ (sent.before = observed.after ∧ sent.Steps serves) ∧
      (delivered.before = sent.after ∧ delivered.Steps serves) ∧
      ∀ r ∈ received, r.before = delivered.after ∧ r.Steps serves := by
    cases received with
    | none =>
      simp only [LoopTurn.turns, IsStackRun, and_true, true_and] at hrun
      obtain ⟨h1, h2, h3, h4, h5⟩ := hrun
      exact ⟨h1, ⟨h2, h3⟩, ⟨h4, h5⟩, fun r hr => absurd hr (by simp)⟩
    | some r =>
      simp only [LoopTurn.turns, IsStackRun, and_true, true_and] at hrun
      obtain ⟨h1, h2, h3, h4, h5, h6, h7⟩ := hrun
      refine ⟨h1, ⟨h2, h3⟩, ⟨h4, h5⟩, fun r' hr' => ?_⟩
      obtain rfl : r = r' := by simpa using hr'
      exact ⟨h6, h7⟩
  obtain ⟨h1, h2, h3, h4⟩ := hchain
  have hobserved := observe_ready hr hobs h1
  have hsent := serviceTx_ready (h2.1 ▸ hobserved) hsend h2.2
  have hdelivered := servicePendingDelivery_ready (h3.1 ▸ hsent) hdel h3.2
  refine ⟨h1, h2, h3, h4, hobserved, hsent, hdelivered, fun r hr' => ?_⟩
  obtain ⟨c, hc⟩ := hrec r hr'
  exact serviceRx_ready ((h4 r hr').1 ▸ hdelivered) hc (h4 r hr').2

/-- **One turn of the loop.** -/
theorem ready_step (hr : t.before.Ready) (h : t.Steps) : t.after.Ready := by
  cases t with
  | radio heard => exact heard_ready hr h
  | pass observed sent delivered received =>
    have hp := pass_passes hr h
    cases received with
    | none => exact hp.deliveredReady
    | some r => exact hp.receivedReady r rfl

/-! ### A turn with the Host there -/

/-- The states while the Host is there and an operation is retained. -/
structure Stack.Attended (s : Stack) : Prop where
  ready : s.Ready
  connected : s.connected = true
  held : s.lifecycle.state ≠ .empty

/-- An iteration while the Host is there: nothing but the transport has changed when it comes to the delivery. -/
structure Attends (observed sent : StackTurn) : Prop where
  unchanged : observed.after = observed.before
  written : ∃ budget writable written, sent.call = .serviceTx budget writable written ∧
    sent.after = { observed.before with
      transport := (observed.before.transport.serviceTx budget writable written).1 }

theorem pass_attends (hp : Passes observed sent delivered received)
    (h : (LoopTurn.pass observed sent delivered received).Steps) (hconn : observed.before.connected = true)
    (hcall : observed.call = .observeConnection true) : Attends observed sent := by
  obtain ⟨-, ⟨budget, writable, written, hsend⟩, -⟩ := h
  have hobs := hp.observes
  have htx := hp.sends.2
  unfold StackTurn.Steps at hobs htx
  rw [hcall] at hobs
  rw [hsend] at htx
  have hobserved : observed.after = observed.before := by
    rw [hobs.1, Stack.observeConnection, if_pos hconn.symm]
  refine ⟨hobserved, budget, writable, written, hsend, ?_⟩
  rw [htx.1, hp.sends.1, hobserved]
  rfl

theorem serviceRx_connected {s : Stack} {c : RxCall} {calls : List ServiceOp} {r : Stack × StackResult}
    (h : Prog.Returns serves (s.serviceRx c) calls r) : r.1.connected = s.connected := by
  cases serviceRx_receives h with
  | closed => rfl
  | other hframe hsame => exact hsame.2
  | undecoded => rfl
  | request hframe hdec hsub hr =>
    rw [hr]
    exact (answerRequest_same _ _).2

/-- **The ways through an iteration** while the Host is there. -/
inductive Iterates (observed sent delivered : StackTurn) (received : Option StackTurn) : Prop
  | delivers {frame : Frame} (hdue : observed.before.pendingOriginalDelivery = true)
      (hidle : delivered.before.transport.pending = []) (hframe : observed.before.lifecycle.entry.Frames frame)
      (hholds : delivered.after.Holds frame) (hsettled : delivered.after.pendingOriginalDelivery = false)
      (hresult : delivered.before.servicePendingDelivery.2 = true)
      (hlast : ∀ r ∈ received, r.after = r.before ∧ r.before.transport.pending ≠ [])
  | waits (hdue : observed.before.pendingOriginalDelivery = true) (hbusy : delivered.after.transport.pending ≠ [])
      (hsame : delivered.after = sent.after) (hresult : delivered.before.servicePendingDelivery.2 = false)
      (hlast : ∀ r ∈ received, r.after = r.before ∧ r.before.transport.pending ≠ [])
  | settled (hdue : observed.before.pendingOriginalDelivery = false) (hsame : delivered.after = sent.after)
      (hresult : delivered.before.servicePendingDelivery.2 = false)

theorem pending_of_holds {s : Stack} {frame : Frame} (h : s.Holds frame) : s.transport.pending ≠ [] :=
  fun hc => not_holds_of_idle hc h

theorem received_busy (hp : Passes observed sent delivered received)
    (h : (LoopTurn.pass observed sent delivered received).Steps) (hbusy : delivered.after.transport.pending ≠ []) :
    ∀ r ∈ received, r.after = r.before ∧ r.before.transport.pending ≠ [] := by
  intro r hr
  obtain ⟨-, -, -, hrec, -⟩ := h
  obtain ⟨c, hc⟩ := hrec r hr
  have hpending : r.before.transport.pending ≠ [] := by
    rw [(hp.receives r hr).1]
    exact hbusy
  have hret := serviceRx_returns hc (hp.receives r hr).2
  rw [serviceRx_busy hpending] at hret
  exact ⟨(Prod.mk.inj (Prog.returns_pure.1 hret).2).1, hpending⟩

theorem pass_iterates (hs : observed.before.Attended) (h : (LoopTurn.pass observed sent delivered received).Steps)
    (hcall : observed.call = .observeConnection true) : Iterates observed sent delivered received := by
  have hp := pass_passes hs.ready h
  have hbusy := received_busy hp h
  obtain ⟨-, budget, writable, written, -, hsent⟩ := pass_attends hp h hs.connected hcall
  have hbefore := hp.delivers.1
  have hstep := hp.delivers.2
  unfold StackTurn.Steps at hstep
  rw [h.2.2.1] at hstep
  have hserviced := servicePendingDelivery_serviced (hbefore ▸ hp.sentWritten.sound)
  have hsame : delivered.before.pendingOriginalDelivery = observed.before.pendingOriginalDelivery ∧
      delivered.before.lifecycle = observed.before.lifecycle ∧
      delivered.before.connected = observed.before.connected := by
    rw [hbefore, hsent]
    exact ⟨rfl, rfl, rfl⟩
  revert hserviced
  generalize hr : delivered.before.servicePendingDelivery = r
  intro hserviced
  cases hserviced with
  | delivered hdue hidle hframe hdec hfits =>
    rw [hr] at hstep
    refine .delivers (hsame.1 ▸ hdue) hidle (hsame.2.1 ▸ hframe) ?_ ?_ (by rw [hr]) (hbusy ?_)
    · rw [hstep.1]
      exact hdec
    · rw [hstep.1]
    · rw [hstep.1]
      exact pending_of_holds (s := { delivered.before with transport := _ }) hdec
  | nothing hno =>
    rw [hr] at hstep
    have hafter : delivered.after = sent.after := hstep.1.trans hbefore
    cases hdue : observed.before.pendingOriginalDelivery with
    | false => exact .settled hdue hafter (by rw [hr])
    | true =>
      have hpending : delivered.after.transport.pending ≠ [] := by
        rw [hstep.1]
        refine hno (hsame.2.2.trans hs.connected) (hsame.1.trans hdue) ?_
        rw [hsame.2.1]
        exact (hs.ready.due hdue).2.2
      exact .waits hdue hpending hafter (by rw [hr]) (hbusy hpending)

/-- The packet or the clock between two iterations, when no operation is over. -/
theorem radio_waits (hs : heard.before.Sound) (h : (LoopTurn.radio heard).Steps)
    (hno : ¬ (LoopTurn.radio heard).Finishes) :
    ∃ l : Lifecycle, heard.after = { heard.before with lifecycle := l } ∧ l.state = heard.before.lifecycle.state ∧
      l.entry = heard.before.lifecycle.entry ∧ heard.result.action ≠ .hostResponseHandoff := by
  have hheard := radio_heard hs h
  revert hheard
  generalize hout : (heard.after, heard.result) = r
  intro hheard
  cases hheard with
  | waits hstate hentry hact =>
    obtain ⟨hafter, hresult⟩ := Prod.mk.inj hout
    rw [hresult]
    exact ⟨_, hafter, hstate, hentry, hact⟩
  | delivered hactive hstate | deferred hactive hstate | retained hactive hstate =>
    refine absurd ⟨hactive, ?_⟩ hno
    rw [(Prod.mk.inj hout).1]
    exact hstate

/-- **One turn with the Host there.** -/
theorem attended_step (hs : t.before.Attended) (h : t.Steps) (hstay : t.Connected) : t.after.Attended := by
  have hready := ready_step hs.ready h
  cases t with
  | radio heard =>
    refine ⟨hready, ?_, ?_⟩
    · have hheard := radio_heard hs.ready.sound h
      revert hheard
      generalize hout : (heard.after, heard.result) = r
      intro hheard
      cases hheard <;> · rw [LoopTurn.after, (Prod.mk.inj hout).1]; exact hs.connected
    · have hheard := radio_heard hs.ready.sound h
      revert hheard
      generalize hout : (heard.after, heard.result) = r
      intro hheard
      cases hheard with
      | waits hstate =>
        rw [LoopTurn.after, (Prod.mk.inj hout).1]
        exact hstate ▸ hs.held
      | delivered _ hstate | deferred _ hstate | retained _ hstate =>
        rw [LoopTurn.after, (Prod.mk.inj hout).1]
        simp [hstate]
  | pass observed sent delivered received =>
    have hp := pass_passes hs.ready h
    obtain ⟨-, budget, writable, written, -, hsent⟩ := pass_attends hp h hs.connected hstay
    have hdelivered : delivered.after.connected = true ∧ delivered.after.lifecycle.state ≠ .empty := by
      have hsame := servicePendingDelivery_same delivered.before
      have hstep := hp.delivers.2
      unfold StackTurn.Steps at hstep
      rw [h.2.2.1] at hstep
      rw [hstep.1, hsame.1, hsame.2, hp.delivers.1, hsent]
      exact ⟨hs.connected, hs.held⟩
    cases received with
    | none => exact ⟨hready, hdelivered.1, hdelivered.2⟩
    | some r =>
      obtain ⟨c, hc⟩ := h.2.2.2.1 r rfl
      obtain ⟨hbefore, hstep⟩ := hp.receives r rfl
      have hret := serviceRx_returns hc hstep
      refine ⟨hready, (serviceRx_connected hret).trans (hbefore ▸ hdelivered.1), ?_⟩
      exact serviceRx_state (hbefore ▸ hp.deliveredReady.sound.lifecycle.inStep) hret (hbefore ▸ hdelivered.2)

/-- Nothing is delivered when nothing is due. -/
theorem settled_step (hs : t.before.Attended) (h : t.Steps) (hstay : t.Connected) (hno : ¬ t.Finishes)
    (hdue : t.before.pendingOriginalDelivery = false) :
    ¬ t.Delivers ∧ t.after.pendingOriginalDelivery = false := by
  cases t with
  | radio heard =>
    obtain ⟨l, hafter, -, -, hact⟩ := radio_waits hs.ready.sound h hno
    refine ⟨hact, ?_⟩
    rw [LoopTurn.after, hafter]
    exact hdue
  | pass observed sent delivered received =>
    have hp := pass_passes hs.ready h
    obtain ⟨-, budget, writable, written, -, hsent⟩ := pass_attends hp h hs.connected hstay
    cases pass_iterates hs h hstay with
    | delivers hd | waits hd => exact absurd (hdue.symm.trans hd) (by decide)
    | settled hd hsame hresult =>
      have hdelivered : delivered.after.pendingOriginalDelivery = false := by
        rw [hsame, hsent]
        exact hdue
      refine ⟨fun hc => absurd (hresult.symm.trans hc) (by decide), ?_⟩
      cases received with
      | none => exact hdelivered
      | some r =>
        obtain ⟨c, hc⟩ := h.2.2.2.1 r rfl
        obtain ⟨hbefore, hstep⟩ := hp.receives r rfl
        exact (serviceRx_submits (serviceRx_returns hc hstep)).due.trans (hbefore ▸ hdelivered)

/-- **What a turn does with a response that is due.** -/
inductive DueStep (e : RetainedEntry) (t : LoopTurn) : Prop
  | still (hno : ¬ t.Delivers) (hreads : ¬ t.Reads) (hdue : t.after.pendingOriginalDelivery = true)
      (hentry : t.after.lifecycle.entry = e)
      (hless : t.Accepts → t.after.transport.remainingTx + (if t.isPass then 1 else 0) ≤
        t.before.transport.remainingTx)
  | delivered {frame : Frame} (h : t.Delivers) (hreads : ¬ t.Reads) (hdue : t.after.pendingOriginalDelivery = false)
      (hidle : t.handing.before.transport.pending = []) (hframe : e.Frames frame) (hholds : t.handing.after.Holds frame)

theorem due_step (hs : t.before.Attended) (h : t.Steps) (hstay : t.Connected) (hno : ¬ t.Finishes)
    (hdue : t.before.pendingOriginalDelivery = true) : DueStep t.before.lifecycle.entry t := by
  cases t with
  | radio heard =>
    obtain ⟨l, hafter, -, hentry, hact⟩ := radio_waits hs.ready.sound h hno
    refine .still hact id ?_ ?_ fun _ => ?_ <;> rw [LoopTurn.after, hafter]
    · exact hdue
    · exact hentry
    · exact le_refl _
  | pass observed sent delivered received =>
    have hp := pass_passes hs.ready h
    obtain ⟨hobserved, budget, writable, written, hsend, hsent⟩ := pass_attends hp h hs.connected hstay
    have hreads : (∀ r ∈ received, r.after = r.before ∧ r.before.transport.pending ≠ []) →
        ¬ (LoopTurn.pass observed sent delivered received).Reads := by
      intro hlast hc
      cases received with
      | none => exact hc
      | some r =>
        obtain ⟨c, frame, -, -, hidle, -⟩ := hc
        exact (hlast r rfl).2 (hasPendingTx_false.1 hidle)
    have hafter : (∀ r ∈ received, r.after = r.before ∧ r.before.transport.pending ≠ []) →
        (LoopTurn.pass observed sent delivered received).after = delivered.after := by
      intro hlast
      cases received with
      | none => rfl
      | some r => exact (hlast r rfl).1.trans (hp.receives r rfl).1
    cases pass_iterates hs h hstay with
    | delivers hd hidle hframe hholds hsettled hresult hlast =>
      exact .delivered hresult (hreads hlast) (by rw [hafter hlast]; exact hsettled) hidle hframe hholds
    | waits hd hbusy hsame hresult hlast =>
      refine .still (fun hc => absurd (hresult.symm.trans hc) (by decide)) (hreads hlast) ?_ ?_ fun haccepts => ?_
      · rw [hafter hlast, hsame, hsent]
        exact hdue
      · rw [hafter hlast, hsame, hsent]
        rfl
      · have hbefore : sent.before = observed.before := hp.sends.1.trans hobserved
        have hpending := (hs.ready.due hdue).2.1
        obtain ⟨h1, h2, h3, h4⟩ := haccepts budget writable written hsend
          (hasPendingTx_iff.2 (by rw [hbefore]; exact hpending))
        rw [hbefore] at h4
        rw [hafter hlast, hsame, hsent]
        rw [hsame, hsent] at hbusy
        rcases (serviceTx_written observed.before.transport budget writable written hs.ready.fits _ rfl).2.2 h1 h2 h3 h4
          hpending with hc | hless
        · exact absurd hc hbusy
        · exact hless
    | settled hd => exact absurd (hdue.symm.trans hd) (by decide)

/-- A frame leaves the transport only when all of it is written. -/
def KeepsFrame (u : StackTurn) : Prop :=
  u.before.transport.pending ≠ [] → u.after.transport.pending = u.before.transport.pending ∨
    ∃ budget writable written, u.call = .serviceTx budget writable written ∧ u.after.transport.pending = [] ∧
      u.before.transport.pendingOffset + written = u.before.transport.pending.length

theorem keepsFrame_step (hs : t.before.Attended) (h : t.Steps) (hstay : t.Connected) : ∀ u ∈ t.turns, KeepsFrame u := by
  cases t with
  | radio heard =>
    intro u hu hpending
    obtain rfl := List.mem_singleton.1 hu
    have hheard := radio_heard hs.ready.sound h
    revert hheard
    generalize hout : (u.after, u.result) = r
    intro hheard
    cases hheard with
    | delivered _ _ _ hidle => exact absurd hidle hpending
    | waits | deferred | retained => exact Or.inl (by rw [(Prod.mk.inj hout).1])
  | pass observed sent delivered received =>
    have hp := pass_passes hs.ready h
    obtain ⟨hobserved, budget, writable, written, hsend, hsent⟩ := pass_attends hp h hs.connected hstay
    have h1 : KeepsFrame observed := fun _ => Or.inl (by rw [hobserved])
    have h2 : KeepsFrame sent := by
      intro _
      rw [hsent, hp.sends.1, hobserved]
      rcases (serviceTx_written observed.before.transport budget writable written hs.ready.fits _ rfl).2.1 with hc | hc
      · exact Or.inl hc
      · exact Or.inr ⟨budget, writable, written, hsend, hc⟩
    have h3 : KeepsFrame delivered := by
      intro hpending
      cases pass_iterates hs h hstay with
      | delivers _ hidle => exact absurd hidle hpending
      | waits _ _ hsame | settled _ hsame =>
        rw [hsame, hp.delivers.1]
        exact Or.inl rfl
    have h4 : ∀ r ∈ received, KeepsFrame r := by
      intro r hr hpending
      have hbusy := received_busy hp h (by rw [← (hp.receives r hr).1]; exact hpending) r hr
      exact Or.inl (by rw [hbusy.1])
    intro u hu
    cases received with
    | none =>
      simp only [LoopTurn.turns, List.mem_cons, List.not_mem_nil, or_false] at hu
      rcases hu with rfl | rfl | rfl
      · exact h1
      · exact h2
      · exact h3
    | some r =>
      simp only [LoopTurn.turns, List.mem_cons, List.not_mem_nil, or_false] at hu
      rcases hu with rfl | rfl | rfl | rfl
      · exact h1
      · exact h2
      · exact h3
      · exact h4 _ rfl

/-- The frame is read in the call, and is a repetition of the retained request when that is still there. -/
def Repeats (e : RetainedEntry) (u : StackTurn) : Prop :=
  ∃ c request, u.call = .serviceRx c ∧ c.Completes u.before request ∧ request.requestId = e.requestId ∧
    (u.before.lifecycle.entry = e → request.payload = e.requestPayload)

/-- **Who hands out the response of an operation**: the delivery, or the answer to a request that repeats it. -/
theorem handed_step {e : RetainedEntry} {frame : Frame} (hs : t.before.Attended) (h : t.Steps) (hstay : t.Connected)
    (hno : ¬ t.Finishes) (hclass : e.response.resultClass ≠ ResultClass.requestRejected) (hframe : e.Frames frame) :
    ∀ u ∈ t.turns, u.before.transport.pending = [] → u.after.Holds frame →
      t.Delivers ∧ u = t.handing ∨ Repeats e u := by
  cases t with
  | radio heard =>
    intro u hu hidle hholds
    obtain rfl := List.mem_singleton.1 hu
    obtain ⟨l, hafter, -⟩ := radio_waits hs.ready.sound h hno
    refine absurd hholds (not_holds_of_idle ?_)
    rw [hafter]
    exact hidle
  | pass observed sent delivered received =>
    have hp := pass_passes hs.ready h
    obtain ⟨hobserved, budget, writable, written, hsend, hsent⟩ := pass_attends hp h hs.connected hstay
    intro u hu hidle hholds
    have hfirst : u = observed ∨ u = sent → False := by
      rintro (rfl | rfl)
      · rw [hobserved] at hholds
        exact not_holds_of_idle hidle hholds
      · refine not_holds_of_idle ?_ hholds
        rw [hp.sends.1, hobserved] at hidle
        rw [hsent]
        rcases (serviceTx_written observed.before.transport budget writable written hs.ready.fits _ rfl).2.1 with hc | hc
        · exact hc.trans hidle
        · exact hc.1
    have hdelivered : u = delivered →
        (LoopTurn.pass observed sent delivered received).Delivers ∧ u = delivered := by
      rintro rfl
      cases pass_iterates hs h hstay with
      | delivers _ _ _ _ _ hresult => exact ⟨hresult, rfl⟩
      | waits _ _ hsame | settled _ hsame =>
        rw [hsame, ← hp.delivers.1] at hholds
        exact absurd hholds (not_holds_of_idle hidle)
    have hreceived : ∀ r ∈ received, u = r → Repeats e u := by
      rintro r hr rfl
      obtain ⟨c, hc⟩ := h.2.2.2.1 u hr
      obtain ⟨hbefore, hstep⟩ := hp.receives u hr
      obtain ⟨request, hcompletes, hid, hpayload⟩ := serviceRx_answers (hbefore ▸ hp.deliveredReady.sound)
        (serviceRx_returns hc hstep) hidle hclass hframe hholds
      refine ⟨c, request, hc, hcompletes, hid, hpayload ?_⟩
      have hdstep := hp.delivers.2
      unfold StackTurn.Steps at hdstep
      rw [h.2.2.1] at hdstep
      rw [hbefore, hdstep.1, (servicePendingDelivery_same delivered.before).1, hp.delivers.1, hsent]
      exact hs.held
    cases received with
    | none =>
      simp only [LoopTurn.turns, List.mem_cons, List.not_mem_nil, or_false] at hu
      rcases hu with hu | hu | hu
      · exact (hfirst (Or.inl hu)).elim
      · exact (hfirst (Or.inr hu)).elim
      · exact Or.inl (hdelivered hu)
    | some r =>
      simp only [LoopTurn.turns, List.mem_cons, List.not_mem_nil, or_false] at hu
      rcases hu with hu | hu | hu | hu
      · exact (hfirst (Or.inl hu)).elim
      · exact (hfirst (Or.inr hu)).elim
      · exact Or.inl (hdelivered hu)
      · exact Or.inr (hreceived r rfl hu)

end Turns

/-! ### Runs -/

section Runs

variable {s : Stack} {c : LoopTurn} {past mid : List LoopTurn}

theorem settled_run (h : hostLoop.IsRun s mid) (hs : s.Attended) (hstay : ∀ t ∈ mid, t.Connected)
    (hno : ∀ t ∈ mid, ¬ t.Finishes) (hdue : s.pendingOriginalDelivery = false) : ∀ t ∈ mid, ¬ t.Delivers := by
  intro t ht
  have hinv := (h.invariant (I := fun s => s.Attended ∧ s.pendingOriginalDelivery = false) ?_ ⟨hs, hdue⟩).1 t ht
  · exact (settled_step hinv.1.1 (h.steps ht) (hstay t ht) (hno t ht) hinv.1.2).1
  · rintro u hu hstep ⟨hatt, hd⟩
    exact ⟨attended_step hatt hstep (hstay u hu), (settled_step hatt hstep (hstay u hu) (hno u hu) hd).2⟩

/-- **What becomes of a response that is due**: it is still due at the end, with less to write, or there is a turn
that delivers it, before any request frame is read. -/
inductive DueRun (e : RetainedEntry) (s : Stack) (mid : List LoopTurn) : Prop
  | still (hno : ∀ t ∈ mid, ¬ t.Delivers) (hreads : ∀ t ∈ mid, ¬ t.Reads)
      (hless : (∀ t ∈ mid, t.Accepts) → mid.countP LoopTurn.isPass < s.transport.remainingTx)
  | delivered {front back : List LoopTurn} {d : LoopTurn} {frame : Frame} (hsplit : mid = front ++ d :: back)
      (hfront : ∀ t ∈ front, ¬ t.Delivers) (hreads : ∀ t ∈ front, ¬ t.Reads) (h : d.Delivers) (hd : ¬ d.Reads)
      (hback : ∀ t ∈ back, ¬ t.Delivers) (hidle : d.handing.before.transport.pending = []) (hframe : e.Frames frame)
      (hholds : d.handing.after.Holds frame)

theorem due_run (h : hostLoop.IsRun s mid) (hs : s.Attended) (hstay : ∀ t ∈ mid, t.Connected)
    (hno : ∀ t ∈ mid, ¬ t.Finishes) (hdue : s.pendingOriginalDelivery = true) : DueRun s.lifecycle.entry s mid := by
  induction mid generalizing s with
  | nil =>
    refine .still (fun t ht => by cases ht) (fun t ht => by cases ht) fun _ => ?_
    have hfits := hs.ready.fits (hs.ready.due hdue).2.1
    simp only [List.countP_nil, Transport.remainingTx]
    omega
  | cons t mid ih =>
    obtain ⟨rfl, hstep, hrest⟩ := h
    have hstay' := fun u hu => hstay u (List.mem_cons_of_mem t hu)
    have hno' := fun u hu => hno u (List.mem_cons_of_mem t hu)
    have hatt := attended_step hs hstep (hstay t List.mem_cons_self)
    cases due_step hs hstep (hstay t List.mem_cons_self) (hno t List.mem_cons_self) hdue with
    | delivered hd hreads hdue' hidle hframe hholds =>
      exact @DueRun.delivered _ _ _ [] mid t _ rfl (fun u hu => by cases hu) (fun u hu => by cases hu) hd hreads
        (settled_run hrest hatt hstay' hno' hdue') hidle hframe hholds
    | still hd hreads hdue' hentry hless =>
      have hrun := ih hrest hatt hstay' hno' hdue'
      change DueRun t.after.lifecycle.entry t.after mid at hrun
      rw [hentry] at hrun
      cases hrun with
      | still hds hreadss hlesss =>
        refine .still (List.forall_mem_cons.2 ⟨hd, hds⟩) (List.forall_mem_cons.2 ⟨hreads, hreadss⟩) fun hall => ?_
        rw [List.forall_mem_cons] at hall
        have h1 := hless hall.1
        have h2 := hlesss hall.2
        rw [List.countP_cons]
        change _ < t.before.transport.remainingTx
        omega
      | @delivered front back d frame hsplit hfront hreadss hdel hdreads hback hidle hframe hholds =>
        rw [hsplit]
        exact @DueRun.delivered _ _ _ (t :: front) back d frame rfl (List.forall_mem_cons.2 ⟨hd, hfront⟩)
          (List.forall_mem_cons.2 ⟨hreads, hreadss⟩) hdel hdreads hback hidle hframe hholds

/-- **Delivery of a remote result**, from its completion up to the next one. -/
structure DeliveredOnce (c : LoopTurn) (mid : List LoopTurn) : Prop where
  /-- It is delivered at most once, -/
  once : (c :: mid).Pairwise fun d d' => d.Delivers → ¬ d'.Delivers
  /-- to a free transport, as the frame of its response, -/
  handed : ∀ d ∈ c :: mid, d.Delivers → d.handing.before.transport.pending = [] ∧
    ∃ frame, c.after.lifecycle.entry.Frames frame ∧ d.handing.after.Holds frame
  /-- before any request frame is read, -/
  first : ∀ front t back, mid = front ++ t :: back → t.Reads → ∃ d ∈ c :: front, d.Delivers
  /-- and once the stream has taken what was there before. -/
  eventually : (∀ t ∈ mid, t.Accepts) → c.before.transport.remainingTx ≤ mid.countP LoopTurn.isPass →
    ∃ d ∈ c :: mid, d.Delivers
  /-- No frame is overwritten. -/
  kept : ∀ t ∈ mid, ∀ u ∈ t.turns, KeepsFrame u
  /-- Nobody else hands the response out, but for a request that repeats it. -/
  others : ∀ frame, c.after.lifecycle.entry.Frames frame → ∀ t ∈ mid, ∀ u ∈ t.turns,
    u.before.transport.pending = [] → u.after.Holds frame →
      t.Delivers ∧ u = t.handing ∨ Repeats c.after.lifecycle.entry u

/-- The operation is over: its response is delivered at once, or due. -/
theorem finishes_cases (hr : c.before.Ready) (hconn : c.before.connected = true) (h : c.Steps) (hc : c.Finishes) :
    c.after.Attended ∧ c.after.lifecycle.entry.response.resultClass ≠ ResultClass.requestRejected ∧
      ((c.Delivers ∧ c.after.pendingOriginalDelivery = false ∧ c.handing.before.transport.pending = [] ∧
          ∃ frame, c.after.lifecycle.entry.Frames frame ∧ c.handing.after.Holds frame) ∨
        (¬ c.Delivers ∧ c.after.pendingOriginalDelivery = true ∧
          c.after.transport.remainingTx = c.before.transport.remainingTx)) := by
  cases c with
  | pass => exact hc.elim
  | radio heard =>
    have hatt : (LoopTurn.radio heard).after.Attended := by
      have hready := ready_step hr h
      have hheard := radio_heard hr.sound h
      refine ⟨hready, ?_, ?_⟩
      · revert hheard
        generalize hout : (heard.after, heard.result) = r
        intro hheard
        cases hheard <;> · rw [LoopTurn.after, (Prod.mk.inj hout).1]; exact hconn
      · change heard.after.lifecycle.state ≠ .empty
        rw [hc.2]
        decide
    have hnone : heard.before.pendingOriginalDelivery = false := by
      by_contra hdue
      have hstate := (hr.due (show heard.before.pendingOriginalDelivery = true by simpa using hdue)).2.2
      rw [show (LoopTurn.radio heard).before.lifecycle.state = .active from hc.1] at hstate
      cases hstate
    have hheard := radio_heard hr.sound h
    refine ⟨hatt, ?_⟩
    revert hheard
    generalize hout : (heard.after, heard.result) = r
    intro hheard
    obtain ⟨hactive, hcompleted⟩ := hc
    cases hheard with
    | waits hstate =>
      rw [(Prod.mk.inj hout).1, hstate, hactive] at hcompleted
      cases hcompleted
    | delivered _ hstate hclass hidle hframe hdec =>
      obtain ⟨hafter, hresult⟩ := Prod.mk.inj hout
      simp only [LoopTurn.after, LoopTurn.Delivers, LoopTurn.handing]
      rw [hafter, hresult]
      exact ⟨hclass, Or.inl ⟨rfl, hnone, hidle, _, hframe, hdec⟩⟩
    | deferred _ hstate hclass hbusy =>
      obtain ⟨hafter, hresult⟩ := Prod.mk.inj hout
      simp only [LoopTurn.after, LoopTurn.Delivers, LoopTurn.before]
      rw [hafter, hresult]
      refine ⟨hclass, Or.inr ⟨by decide, ?_, rfl⟩⟩
      rw [show heard.before.connected = true from hconn]
      rfl
    | retained _ _ hconn' => exact absurd (hconn.symm.trans hconn') (by decide)

/-- **A completed remote result is handed to a connected Host exactly once**, in every run of the loop. -/
theorem remote_delivered_once {connected service : Bool}
    (h : hostLoop.IsRun ((Stack.initial connected).setEventService service) (past ++ c :: mid)) (hc : c.Finishes)
    (hconn : c.before.connected = true) (hstay : ∀ t ∈ mid, t.Connected) (hno : ∀ t ∈ mid, ¬ t.Finishes) :
    DeliveredOnce c mid := by
  have hready0 : ((Stack.initial connected).setEventService service).Ready :=
    ⟨(Stack.initial_sound connected).same ⟨rfl, rfl⟩, fun hc => absurd rfl hc, nofun⟩
  obtain ⟨hpast, hbefore, hstep, hmid⟩ := System.isRun_append.1 h
  have hready : c.before.Ready := by
    change c.before = _ at hbefore
    rw [hbefore]
    exact (hpast.invariant (I := Stack.Ready) (fun t _ hs hr => ready_step hr hs) hready0).2
  obtain ⟨hatt, hclass, hcase⟩ := finishes_cases hready hconn hstep hc
  change hostLoop.IsRun c.after mid at hmid
  have hinv := (hmid.invariant (I := Stack.Attended) (fun t ht hs hr => attended_step hr hs (hstay t ht)) hatt).1
  have hkept : ∀ t ∈ mid, ∀ u ∈ t.turns, KeepsFrame u := fun t ht =>
    keepsFrame_step (hinv t ht).1 (hmid.steps ht) (hstay t ht)
  have hothers : ∀ frame, c.after.lifecycle.entry.Frames frame → ∀ t ∈ mid, ∀ u ∈ t.turns,
      u.before.transport.pending = [] → u.after.Holds frame →
        t.Delivers ∧ u = t.handing ∨ Repeats c.after.lifecycle.entry u := fun frame hframe t ht =>
    handed_step (hinv t ht).1 (hmid.steps ht) (hstay t ht) (hno t ht) hclass hframe
  rcases hcase with ⟨hdel, hdue, hidle, hframe⟩ | ⟨hdel, hdue, hremaining⟩
  · have hnone := settled_run hmid hatt hstay hno hdue
    refine ⟨?_, ?_, ?_, ?_, hkept, hothers⟩
    · refine List.pairwise_cons.2 ⟨fun t ht _ => hnone t ht, ?_⟩
      exact List.pairwise_of_forall_mem_list fun d hd d' hd' _ => hnone d' hd'
    · intro d hd hdelivers
      rcases List.mem_cons.1 hd with rfl | hd
      · exact ⟨hidle, hframe⟩
      · exact absurd hdelivers (hnone d hd)
    · exact fun front t back _ _ => ⟨c, List.mem_cons_self, hdel⟩
    · exact fun _ _ => ⟨c, List.mem_cons_self, hdel⟩
  · cases due_run hmid hatt hstay hno hdue with
    | still hnone hreads hless =>
      refine ⟨?_, ?_, ?_, ?_, hkept, hothers⟩
      · refine List.pairwise_cons.2 ⟨fun t ht _ => hnone t ht, ?_⟩
        exact List.pairwise_of_forall_mem_list fun d hd d' hd' _ => hnone d' hd'
      · intro d hd hdelivers
        rcases List.mem_cons.1 hd with rfl | hd
        · exact absurd hdelivers hdel
        · exact absurd hdelivers (hnone d hd)
      · intro front t back hsplit ht
        exact absurd ht (hreads t (by rw [hsplit]; simp))
      · intro hall hcount
        have := hless hall
        omega
    | @delivered front back d frame hsplit hfront hreads hd hdreads hback hidle hframe hholds =>
      subst hsplit
      refine ⟨?_, ?_, ?_, ?_, hkept, hothers⟩
      · refine List.pairwise_cons.2 ⟨fun t _ hcd => absurd hcd hdel, ?_⟩
        refine List.pairwise_append.2 ⟨?_, ?_, fun t ht t' _ htd => absurd htd (hfront t ht)⟩
        · exact List.pairwise_of_forall_mem_list fun t ht t' _ htd => absurd htd (hfront t ht)
        · refine List.pairwise_cons.2 ⟨fun t ht _ => hback t ht, ?_⟩
          exact List.pairwise_of_forall_mem_list fun t ht t' ht' _ => hback t' ht'
      · intro d' hd' hdelivers
        have hmem : d' = c ∨ d' ∈ front ∨ d' = d ∨ d' ∈ back := by simpa using hd'
        rcases hmem with rfl | hmem | rfl | hmem
        · exact absurd hdelivers hdel
        · exact absurd hdelivers (hfront d' hmem)
        · exact ⟨hidle, frame, hframe, hholds⟩
        · exact absurd hdelivers (hback d' hmem)
      · intro front' t back' hsplit ht
        -- the reading turn comes after the delivery
        rcases List.append_eq_append_iff.1 hsplit with ⟨w, rfl, hw⟩ | ⟨w, rfl, hw⟩
        · cases w with
          | nil =>
            obtain ⟨rfl, -⟩ := List.cons.inj hw
            exact absurd ht hdreads
          | cons x w =>
            obtain ⟨rfl, -⟩ := List.cons.inj hw
            exact ⟨d, by simp, hd⟩
        · cases w with
          | nil =>
            obtain ⟨rfl, -⟩ := List.cons.inj hw
            exact absurd ht hdreads
          | cons x w =>
            obtain ⟨rfl, -⟩ := List.cons.inj hw
            exact absurd ht (hreads t (by simp))
      · exact fun _ _ => ⟨d, by simp, hd⟩

/-! ### A PING of the Node -/

/-- A PING of the Host for the Node. -/
def remotePing : Frame :=
  ⟨versionMajor, versionMinor01, MessageType.operationRequest, flagsNone, 1,
    [OperationCategory.device, OperationCode.ping, 2, 0, 0, ValueType.none, 0]⟩

def remotePingRequest : OperationRequest := ⟨OperationCategory.device, OperationCode.ping, 2, 0, noneValue⟩

/-- The stack of the Hub when the Host has connected. -/
def pingStack : Stack := (Stack.initial true).setEventService true

/-- What the lifecycle makes of the request. -/
def pingSubmitted : Lifecycle × LifecycleResult :=
  Lifecycle.initial.submitRemote (pingStack.submissionOf (callWith remotePing) remotePing) remotePingRequest

def pingOutcome : Stack × StackResult :=
  Stack.answerRequest { pingStack.read (callWith remotePing) with lifecycle := pingSubmitted.1 } pingSubmitted.2

/-- The iteration that reads the request. -/
def pingPass : LoopTurn :=
  .pass ⟨pingStack, .observeConnection true, [], default, pingStack⟩ ⟨pingStack, .serviceTx 0 0 0, [], default, pingStack⟩
    ⟨pingStack, .servicePendingDelivery, [], default, pingStack⟩
    (some ⟨pingStack, .serviceRx (callWith remotePing), [], pingOutcome.2, pingOutcome.1⟩)

/-- The response of the Node. -/
def pingResponse : Packet :=
  ⟨.response, 2, 1, 0, OperationCode.ping, [OperationStatus.ok, 0, 0, ValueType.unsigned32, 4, 7, 0, 0, 0]⟩

/-- The turn in which a packet comes in. -/
def hears (s : Stack) (packet : Packet) : LoopTurn :=
  .radio ⟨s, .onRadioPacket packet, [], (s.onRadioPacket packet).2, (s.onRadioPacket packet).1⟩

theorem hears_steps (s : Stack) (packet : Packet) : (hears s packet).Steps := ⟨Or.inl ⟨packet, rfl⟩, rfl⟩

theorem remotePing_completes : (callWith remotePing).Completes pingStack remotePing := by decide +kernel

theorem pingPass_steps : pingPass.Steps := by
  refine ⟨⟨true, rfl⟩, ⟨0, 0, 0, rfl⟩, rfl, ?_, rfl, ⟨rfl, rfl⟩, rfl, ⟨rfl, rfl⟩, rfl, ⟨rfl, rfl⟩, rfl, ?_, trivial⟩
  · rintro r hr
    obtain rfl := Option.some.inj hr
    exact ⟨_, rfl⟩
  · have hdec : decodeOperationRequest remotePing.minor remotePing.payload = .ok remotePingRequest := rfl
    have hsub : pingStack.lifecycle.submit (pingStack.submissionOf (callWith remotePing) remotePing) =
        pure pingSubmitted := rfl
    refine steps_of_serviceRx ?_
    rw [serviceRx_of_completes rfl rfl remotePing_completes rfl, hdec]
    dsimp only
    rw [hsub, Prog.pure_bind', pingOutcome]

theorem onRadioPacket_lifecycle (s : Stack) (packet : Packet) :
    (s.onRadioPacket packet).1.lifecycle = (s.lifecycle.receive packet).1 :=
  (consumeRemote_same { s with lifecycle := (s.lifecycle.receive packet).1 } (s.lifecycle.receive packet).2).1

theorem hears_finishes {packet : Packet} (hactive : s.lifecycle.state = .active)
    (hover : (s.lifecycle.receive packet).1.state = .completed) : (hears s packet).Finishes := by
  rw [← onRadioPacket_lifecycle] at hover
  exact ⟨hactive, hover⟩

theorem hears_before {packet : Packet} : (hears s packet).before = s := rfl

theorem hears_delivers {packet : Packet} :
    (hears s packet).Delivers ↔ (s.onRadioPacket packet).2.action = .hostResponseHandoff := Iff.rfl

/-- An iteration in which the Host is there and the stream takes `bytes`: the stack before a frame may be read. -/
def Stack.attended (s : Stack) (bytes : ℕ) : Stack :=
  ((s.observeConnection true).serviceTx bytes bytes bytes).1.servicePendingDelivery.1

def passOf (s : Stack) (bytes : ℕ) (received : Option StackTurn) : LoopTurn :=
  .pass ⟨s, .observeConnection true, [], default, s.observeConnection true⟩
    ⟨s.observeConnection true, .serviceTx bytes bytes bytes, [], default,
      ((s.observeConnection true).serviceTx bytes bytes bytes).1⟩
    ⟨((s.observeConnection true).serviceTx bytes bytes bytes).1, .servicePendingDelivery, [], default, s.attended bytes⟩
    received

theorem passOf_none_steps (s : Stack) (bytes : ℕ) : (passOf s bytes none).Steps :=
  ⟨⟨true, rfl⟩, ⟨_, _, _, rfl⟩, rfl, fun r hr => (by cases hr),
    rfl, ⟨rfl, rfl⟩, rfl, ⟨rfl, rfl⟩, rfl, ⟨rfl, rfl⟩, trivial⟩

theorem passOf_connected (s : Stack) (bytes : ℕ) (received : Option StackTurn) :
    (passOf s bytes received).Connected := rfl

theorem passOf_delivers {s : Stack} {bytes : ℕ} {received : Option StackTurn} :
    (passOf s bytes received).Delivers ↔
      ((s.observeConnection true).serviceTx bytes bytes bytes).1.servicePendingDelivery.2 = true := Iff.rfl

theorem passOf_none_ends (s : Stack) (bytes : ℕ) : ¬ (passOf s bytes none).Finishes := fun h => h

theorem passOf_some_steps {bytes : ℕ} {c : RxCall} {outcome : Stack × StackResult}
    (h : (s.attended bytes).serviceRx c = pure outcome) :
    (passOf s bytes (some ⟨s.attended bytes, .serviceRx c, [], outcome.2, outcome.1⟩)).Steps :=
  ⟨⟨true, rfl⟩, ⟨_, _, _, rfl⟩, rfl, fun r hr => ⟨c, by cases hr; rfl⟩,
    rfl, ⟨rfl, rfl⟩, rfl, ⟨rfl, rfl⟩, rfl, ⟨rfl, rfl⟩, rfl, steps_of_serviceRx h, trivial⟩

/-- A HELLO is answered at once. -/
theorem serviceRx_of_hello {c : RxCall} {frame : Frame} (hconn : s.connected = true)
    (hidle : s.transport.hasPendingTx = false) (hframe : c.Completes s frame)
    (htype : frame.messageType = MessageType.helloRequest) : s.serviceRx c = pure ((s.read c).answerHello c frame) := by
  unfold Stack.serviceRx
  rw [if_neg (by simp [hconn, hidle])]
  dsimp only
  rw [if_neg (not_not.2 hframe.1), if_neg (not_not.2 hframe.2.1), hframe.2.2, if_pos htype]
  rfl

/-- The Host asks who is there. -/
def helloFrame : Frame :=
  ⟨versionMajor, versionMinor02, MessageType.helloRequest, flagsNone, 2, [versionMinor01, versionMinor02]⟩

/-- The answer to it occupies the transport. -/
def helloOutcome : Stack × StackResult :=
  ((pingOutcome.1.attended 0).read (callWith helloFrame)).answerHello (callWith helloFrame) helloFrame

/-- The iteration that reads it, while the PING is on its way. -/
def helloPass : LoopTurn :=
  passOf pingOutcome.1 0
    (some ⟨pingOutcome.1.attended 0, .serviceRx (callWith helloFrame), [], helloOutcome.2, helloOutcome.1⟩)

theorem helloPass_steps : helloPass.Steps := by
  obtain ⟨hconn, hidle, hframe⟩ : (pingOutcome.1.attended 0).connected = true ∧
      (pingOutcome.1.attended 0).transport.hasPendingTx = false ∧
      (callWith helloFrame).Completes (pingOutcome.1.attended 0) helloFrame := by decide +kernel
  apply passOf_some_steps
  rw [serviceRx_of_hello hconn hidle hframe rfl, helloOutcome]

/-- The response of the Node comes in. -/
def pingHeard : LoopTurn := hears helloOutcome.1 pingResponse

/-- The iteration in which the stream takes the rest of the answer. -/
def drainedPass : LoopTurn := passOf pingHeard.after helloOutcome.1.transport.remainingTx none

theorem helloOutcome_defers :
    helloOutcome.1.connected = true ∧ helloOutcome.1.lifecycle.state = .active ∧
      (helloOutcome.1.lifecycle.receive pingResponse).1.state = .completed ∧
      (helloOutcome.1.onRadioPacket pingResponse).2.action ≠ .hostResponseHandoff ∧
      ((pingHeard.after.observeConnection true).serviceTx helloOutcome.1.transport.remainingTx
        helloOutcome.1.transport.remainingTx helloOutcome.1.transport.remainingTx).1.servicePendingDelivery.2 = true := by
  decide +kernel

theorem ping_run : hostLoop.IsRun ((Stack.initial true).setEventService true)
    ([pingPass, helloPass] ++ pingHeard :: [drainedPass]) :=
  ⟨rfl, pingPass_steps, by simp only [hostLoop, helloPass, passOf, pingPass, LoopTurn.before, LoopTurn.after],
    helloPass_steps, by simp only [hostLoop, pingHeard, hears, helloPass, passOf, LoopTurn.before, LoopTurn.after],
    hears_steps _ _, by simp only [hostLoop, drainedPass, passOf, LoopTurn.before], passOf_none_steps _ _, trivial⟩

/-- The result of the PING finds the transport occupied, and is delivered in the iteration after that. -/
theorem remote_delivered_once_deferred :
    ¬ pingHeard.Delivers ∧ drainedPass.Delivers ∧ DeliveredOnce pingHeard [drainedPass] := by
  obtain ⟨hconn, hactive, hover, hdeferred, hdelivers⟩ := helloOutcome_defers
  refine ⟨?_, ?_, remote_delivered_once ping_run (hears_finishes hactive hover) ?_ ?_ ?_⟩
  · rw [pingHeard, hears_delivers]
    exact hdeferred
  · rw [drainedPass, passOf_delivers]
    exact hdelivers
  · rw [pingHeard, hears_before]
    exact hconn
  · exact List.forall_mem_singleton.2 (passOf_connected _ _ _)
  · exact List.forall_mem_singleton.2 (passOf_none_ends _ _)

end Runs

end Redline.Host
