import Redline.Host.Answers
import Redline.Host.ExactlyOnce

/-!
# Every response can be sent

The lifecycle builds responses in five places: the two local services, the retained entry, the bridge and its own
rejections.  `lifecycle_responses_encode`: over every run, with any registry and handler behind the capabilities, any
ledger behind the Events and any packets from the radio, whatever the lifecycle hands out for the Host passes
`encodeOperationResponse` at the minor version it is handed out with.

The invariant `Lifecycle.Sendable` says it of the retained response, and of the active request that the bridge will
conclude in a way that suits it (`HubBridge.Concludes.suits`).
-/

namespace Redline.Host

open Redline.Wire Redline.Lib

variable {minor : UInt8} {request : OperationRequest} {l : Lifecycle}

/-- The response passes the encoder within the payload of a frame. -/
def Encodes (minor : UInt8) (r : OperationResponse) : Prop :=
  ∃ bytes, encodeOperationResponse minor r = .ok bytes ∧ bytes.length ≤ maxPayloadSize

/-! ### Over the radio -/

/-- A response of the wire to the operation, as a response of the Host protocol. -/
theorem suits_wire {w : WireResponse} (hcategory : request.category ≠ OperationCategory.event)
    (hw : isValidResponseSchema request.operation w = true) :
    Suits minor request { makeHostResponseBase request with
      resultClass := ResultClass.operationResult, resultCode := w.status, value := w.value } := by
  unfold isValidResponseSchema at hw
  dsimp only at hw
  split at hw
  · cases hw
  rename_i hknown
  simp only [Bool.or_eq_true, Bool.not_eq_true', not_or, Bool.not_eq_false] at hknown
  split at hw
  · cases hw
  split at hw
  · rename_i hstatus
    rw [isNoneValue_iff.1 hw]
    exact suits_none hcategory (Or.inl ⟨rfl, hstatus⟩) hknown.2
  · rename_i hstatus
    rw [not_not.1 hstatus]
    simp only [isValidSuccessValue, Bool.and_eq_true, decide_eq_true_eq] at hw
    exact suits_value hcategory hw.2 (hw.1.trans (by decide))

/-- A request that the bridge takes is none of the Event operations. -/
theorem category_of_validated01 (h : validateOperationRequest versionMinor01 request = .ok) :
    request.category ≠ OperationCategory.event := by
  cases validated_cases h with
  | device hc | list hc | look hc | indicator hc | procedure hc | diagnostics hc =>
    rw [hc]
    decide
  | eventDiagnostics hm | poll hm | consume hm => exact absurd hm (by decide)

theorem HubBridge.Concludes.suits {b : HubBridge} {r : OperationResponse} (hstep : b.InStep) (hactive : b.active = true)
    (h : b.Concludes r) : Suits minor b.request r := by
  have hcategory := category_of_validated01 (hstep.valid hactive)
  cases h with
  | radio hcode =>
    refine suits_none hcategory (Or.inr rfl) ?_
    rcases hcode with rfl | rfl <;> decide
  | answered hw htarget =>
    rw [hstep.opcode hactive] at hw
    exact suits_wire hcategory hw

/-! ### Local services -/

theorem decoded_valid {payload : Bytes} (h : decodeOperationRequest minor payload = .ok request) :
    validateOperationRequest minor request = .ok := by
  unfold decodeOperationRequest at h
  split at h
  · cases h
  split at h
  · cases h
  dsimp only at h
  split at h
  · cases h
  split at h
  · cases h
  rename_i hvalid
  cases h
  exact not_not.1 hvalid

theorem Submission.request?_decodes {a : Submission} (h : a.request? = some request) :
    decodeOperationRequest a.requestMinor a.payload = .ok request := by
  unfold Submission.request? at h
  split at h
  · cases h
  cases hdec : decodeOperationRequest a.requestMinor a.payload with
  | error e =>
    rw [hdec] at h
    cases h
  | ok decoded =>
    rw [hdec] at h
    cases h
    rfl

theorem Submission.request?_valid {a : Submission} (h : a.request? = some request) :
    validateOperationRequest a.requestMinor request = .ok := decoded_valid (Submission.request?_decodes h)

theorem localService_answers {a : Submission} {calls : List ServiceOp} {result : ServiceResult}
    (hreq : validateOperationRequest a.requestMinor request = .ok)
    (h : Prog.Returns serves (Lifecycle.localService a request) calls result) :
    Answers a.requestMinor request result := by
  unfold Lifecycle.localService at h
  split at h
  · split at h
    · cases h with
      | call r hr hret =>
        cases hret
        obtain ⟨ledger, ops, ledger', hret⟩ := hr
        exact EventService.handle_answers hreq hret
    · rw [(Prog.returns_pure.1 h).2]
      refine answers_reject ?_
      split <;> decide
  · cases h with
    | call r hr hret =>
      cases hret
      obtain ⟨ops, hret⟩ := hr
      exact handleLocalOperation_answers hret

/-! ### The lifecycle -/

/-- What is retained can be sent, and what is active will end in a response that can. -/
structure Lifecycle.Sendable (l : Lifecycle) : Prop where
  inStep : l.InStep
  completed : l.state = .completed → Encodes l.entry.requestMinor l.entry.response
  active : l.state = .active →
    decodeOperationRequest l.entry.requestMinor l.entry.requestPayload = .ok l.remoteBridge.request

theorem Lifecycle.initial_sendable : Lifecycle.initial.Sendable :=
  ⟨Lifecycle.initial_inStep, nofun, nofun⟩

theorem rejection_encodes {id : UInt16} {code : UInt8} (hreq : validateOperationRequest minor request = .ok)
    (hcode : isValidResultCode ResultClass.requestRejected code = true) :
    Encodes minor (l.rejection id request minor code).response := (suits_rejected hcode).encodes hreq

/-- What a turn leaves behind, and what it hands out. -/
def Leaves (after : Lifecycle) (result : LifecycleResult) : Prop :=
  after.Sendable ∧ (result.Delivers → Encodes result.responseMinor result.response)

theorem finishLocal_leaves {a : Submission} {result : ServiceResult} (hl : l.Sendable) (hidle : l.state ≠ .active)
    (hreq : validateOperationRequest a.requestMinor request = .ok) (h : Answers a.requestMinor request result) :
    Leaves (l.finishLocal a request result).1 (l.finishLocal a request result).2 := by
  unfold Lifecycle.finishLocal
  dsimp only
  split
  · rename_i hd
    refine ⟨hl, fun _ => rejection_encodes hreq ?_⟩
    split
    · decide
    · rename_i hn
      cases hc : result.disposition with
      | notHandled => exact absurd hc hn
      | handled => exact absurd hc hd
      | rejected => exact h.rejected hc
  rename_i hd
  have henc := (h.handled (not_not.1 hd)).encodes hreq
  split
  · exact ⟨hl, fun _ => henc⟩
  · refine ⟨⟨⟨?_, hl.inStep.bridge⟩, fun _ => henc, nofun⟩, fun _ => henc⟩
    have hb : ¬ l.remoteBridge.active = true := fun hc => hidle (hl.inStep.active.2 hc)
    simpa [Lifecycle.complete, Lifecycle.acceptIdentity] using hb

theorem submit_leaves {a : Submission} {calls : List ServiceOp} {r : Lifecycle × LifecycleResult} (hl : l.Sendable)
    (h : Submitted serves l a calls r) : Leaves r.1 r.2 := by
  cases h with
  | undecoded hreq => exact ⟨hl, by simp [LifecycleResult.Delivers]⟩
  | mismatch hreq => exact ⟨hl, fun _ => rejection_encodes (Submission.request?_valid hreq) (by decide)⟩
  | duplicate hreq => exact ⟨hl, by simp [LifecycleResult.Delivers]⟩
  | replay hreq hheld hidle =>
    refine ⟨hl, fun _ => hl.completed ?_⟩
    have hempty := hheld.1.1
    cases hs : l.state with
    | empty => exact absurd hs hempty
    | active => exact absurd hs hidle
    | completed => rfl
  | busy hreq => exact ⟨hl, fun _ => rejection_encodes (Submission.request?_valid hreq) (by decide)⟩
  | served hreq hnew hidle hlocal hret hr =>
    have hvalid := Submission.request?_valid hreq
    rw [← hr]
    exact finishLocal_leaves hl hidle hvalid (localService_answers hvalid hret)
  | remote hreq hnew hidle hlocal hr =>
    have hvalid := Submission.request?_valid hreq
    rw [← hr]
    rcases submitRemote_cases hl.inStep hidle (fun hc => hlocal (Or.inl hc)) with ⟨code, hcode, hres⟩ |
      ⟨bridge, hactive, hb, hrequest, hres⟩
    · rw [hres]
      exact ⟨hl, fun _ => rejection_encodes hvalid hcode⟩
    · rw [hres]
      refine ⟨⟨⟨by simp [Lifecycle.acceptIdentity, hactive], hb⟩, LifecycleState.noConfusion, fun _ => ?_⟩,
        by simp [LifecycleResult.Delivers]⟩
      exact hrequest ▸ Submission.request?_decodes hreq

theorem advance_leaves {r : Lifecycle × LifecycleResult} (hl : l.Sendable) (h : l.Advances r) : Leaves r.1 r.2 := by
  cases h with
  | waits hstep hrequest hcommand haction =>
    refine ⟨⟨hstep, hl.completed, fun hc => hrequest ▸ hl.active hc⟩, ?_⟩
    rcases haction with ha | ⟨ha, -⟩ <;> simp [LifecycleResult.Delivers, ha]
  | finished hactive hstep hresponse =>
    have hsuits : Suits l.entry.requestMinor l.remoteBridge.request _ :=
      hresponse.suits hl.inStep.bridge (hl.inStep.active.1 hactive)
    have henc := hsuits.encodes (decoded_valid (hl.active hactive))
    exact ⟨⟨hstep, fun _ => henc, LifecycleState.noConfusion⟩, fun _ => henc⟩

/-- **One turn.** -/
theorem turn_leaves {t : Turn} (hl : t.before.Sendable) (h : t.Steps serves) : Leaves t.after t.result := by
  unfold Turn.Steps at h
  split at h
  · exact submit_leaves hl (submit_outcome h)
  · rename_i packet haction
    have := advance_leaves hl (Lifecycle.receive_advances hl.inStep packet)
    rwa [h.2] at this
  · rename_i now haction
    have := advance_leaves hl (Lifecycle.service_advances hl.inStep now)
    rwa [h.2] at this
  all_goals
    rw [h.2.1, h.2.2]
    refine ⟨⟨⟨hl.inStep.active, hl.inStep.bridge⟩, hl.completed, hl.active⟩, ?_⟩
    simp [LifecycleResult.Delivers, show (default : LifecycleResult).action = .none from rfl]

theorem run_sendable {turns : List Turn} (h : IsRun serves .initial turns) :
    ∀ t ∈ turns, t.before.Sendable ∧ t.after.Sendable :=
  isRun_invariant (fun _ hs hi => (turn_leaves hi hs).1) h Lifecycle.initial_sendable

/-- **Every response can be sent.** -/
theorem lifecycle_responses_encode {turns : List Turn} (h : IsRun serves .initial turns) {t : Turn} (ht : t ∈ turns)
    (hdeliver : t.result.action = .hostResponseReady ∨ t.result.action = .responseRetained) :
    ∃ bytes, encodeOperationResponse t.result.responseMinor t.result.response = .ok bytes ∧
      bytes.length ≤ maxPayloadSize :=
  (turn_leaves (run_sendable h t ht).1 (steps_of_mem h ht)).2 hdeliver

/-- The answer to a POLL_EVENTS without Events is one of them. -/
theorem lifecycle_responses_encode_polled :
    IsRun serves .initial [polled] ∧ polled.result.action = .hostResponseReady ∧
      ∃ bytes, encodeOperationResponse polled.result.responseMinor polled.result.response = .ok bytes ∧
        bytes.length ≤ maxPayloadSize :=
  have h : IsRun serves .initial [polled] := ⟨rfl, polled_steps, trivial⟩
  ⟨h, rfl, lifecycle_responses_encode h (List.mem_singleton_self _) (Or.inl rfl)⟩

end Redline.Host
