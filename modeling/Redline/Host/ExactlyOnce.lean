import Redline.Host.Turns

/-!
# Exactly once while retained

A request is retained from the turn that accepts it to the turn that accepts the next one.  Over any stretch of a run
in which it is retained, `lifecycle_exactly_once`: it causes at most one call of a local service or one radio
transaction, all that goes over the radio is one packet, and all answers are one response; a repetition that decodes
at its own minor version gets the retained response and does nothing else; a submission that is refused does nothing.

`replay_at_other_minor` is a repetition that does not decode: the request was accepted at a minor version that knows
Events and is repeated at one that does not.
-/

namespace Redline.Host

open Redline.Wire Redline.Lib

variable {answers : ServiceOp → ServiceResult → Prop} {l : Lifecycle} {id : UInt16} {payload : Bytes}

/-! ### What a request causes -/

/-- The calls of local services in the turn, those for other requests apart. -/
def Turn.executions (id : UInt16) (payload : Bytes) (t : Turn) : ℕ :=
  match t.action with
  | .submit a => if a.requestId = id ∧ a.payload = payload then t.calls.length else 0
  | _ => t.calls.length

/-- The radio transactions that begin in the turn. -/
def Turn.transactions (t : Turn) : ℕ :=
  if t.before.remoteBridge.active = false ∧ t.after.remoteBridge.active = true then 1 else 0

def Turn.work (id : UInt16) (payload : Bytes) (t : Turn) : ℕ := t.executions id payload + t.transactions

/-- The turn answers a request that was accepted. -/
def Turn.Answers (t : Turn) : Prop :=
  t.result.Delivers ∧ t.result.response.resultClass ≠ ResultClass.requestRejected

/-- What a stretch of turns does for a request that is retained all the time. -/
structure Once (id : UInt16) (payload : Bytes) (stretch : List Turn) : Prop where
  work : (stretch.map (Turn.work id payload)).sum ≤ 1
  packet : ∃ packet, ∀ t ∈ stretch, t.result.action = .transmitCommand → t.result.packet = packet
  response : ∃ response, ∀ t ∈ stretch, t.Answers → t.result.response = response

/-! ### A turn that keeps the request -/

theorem Turn.transactions_of_eq {t : Turn} (h : t.after.remoteBridge.active = t.before.remoteBridge.active) :
    t.transactions = 0 := by
  unfold Turn.transactions
  rw [h]
  exact if_neg fun hc => by simp [hc.1] at hc

theorem Turn.executions_of_nil {t : Turn} (h : t.calls = []) : t.executions id payload = 0 := by
  unfold Turn.executions
  split
  · split <;> simp [h]
  · simp [h]

/-- The request was retained before and after. -/
structure Keeps (id : UInt16) (payload : Bytes) (t : Turn) : Prop where
  work : t.work id payload = 0
  transmits : t.result.action = .transmitCommand →
    t.before.state = .active ∧ t.result.packet = t.before.remoteBridge.transaction.command
  active : t.after.state = .active → t.before.state = .active ∧
    t.after.remoteBridge.transaction.command = t.before.remoteBridge.transaction.command
  completed : t.before.state = .completed →
    t.after.state = .completed ∧ t.after.entry.response = t.before.entry.response
  answers : t.Answers → t.after.state = .completed ∧ t.result.response = t.after.entry.response

theorem keeps {t : Turn} (hstep : t.before.InStep) (h : t.Steps answers) (hbefore : t.before.Retains id payload)
    (hafter : t.after.Retains id payload) : Keeps id payload t := by
  -- a turn that accepts a request retains it, and this one was held already
  have hnot : ∀ {a : Submission}, ¬ t.before.Holds a.requestId → t.after.entry.requestId = a.requestId → False :=
    fun hnew hid => hnew (by rw [← hid, hafter.1.2]; exact hbefore.1)
  cases turn_outcome hstep h with
  | @refused a haction heq hcalls htransmit hanswer =>
    have hwork : t.work id payload = 0 := by
      have ht := Turn.transactions_of_eq (t := t) (by rw [heq])
      rw [Turn.work, ht, Turn.executions, haction]
      dsimp only
      split
      · rename_i hsame
        rw [hcalls (by rw [hsame.1]; exact hbefore.1)]
        rfl
      · rfl
    refine ⟨hwork, fun hc => absurd hc htransmit, fun hc => ?_, fun hc => ?_, fun hc => ?_⟩
    · rw [heq] at hc ⊢
      exact ⟨hc, rfl⟩
    · rw [heq]
      exact ⟨hc, rfl⟩
    · rw [heq]
      exact (hanswer hc.1).resolve_left hc.2
  | served haction hidle hnew hcalls hclass hdeliver heq => exact (hnot hnew (by rw [heq]; rfl)).elim
  | begun haction hidle hnew hcalls hactive hb heq hresult => exact (hnot hnew (by rw [heq]; rfl)).elim
  | waited hsubmit hcalls hstep' hcommand heq haction =>
    have hbridge : t.after.remoteBridge.active = t.before.remoteBridge.active := by
      have h1 := hstep'.active
      have h2 := hstep.active
      rw [heq]
      exact Bool.eq_iff_iff.2 (h1.symm.trans h2)
    refine ⟨?_, fun hc => ?_, fun hc => ?_, fun hc => ?_, fun hc => ?_⟩
    · rw [Turn.work, Turn.executions_of_nil hcalls, Turn.transactions_of_eq hbridge]
    · exact (haction.resolve_left (by simp [hc])).2
    · rw [heq] at hc ⊢
      exact ⟨hc, hcommand⟩
    · rw [heq]
      exact ⟨hc, rfl⟩
    · rcases haction with ha | ⟨ha, -⟩ <;> simp [Turn.Answers, LifecycleResult.Delivers, ha] at hc
  | finished hsubmit hcalls hactive hstep' hdeliver heq =>
    refine ⟨?_, fun hc => ?_, fun hc => ?_, fun hc => ?_, fun hc => ?_⟩
    · have : t.before.remoteBridge.active = true := hstep.active.1 hactive
      rw [Turn.work, Turn.executions_of_nil hcalls, Turn.transactions, this]
      rfl
    · rcases hdeliver with hd | hd <;> simp [hd] at hc
    · rw [heq] at hc
      simp [Lifecycle.complete] at hc
    · rw [hactive] at hc
      cases hc
    · rw [heq]
      exact ⟨rfl, rfl⟩
  | linked hsubmit hcalls heq hresult =>
    refine ⟨?_, fun hc => ?_, fun hc => ?_, fun hc => ?_, fun hc => ?_⟩
    · rw [Turn.work, Turn.executions_of_nil hcalls, Turn.transactions_of_eq (by rw [heq])]
    · rw [hresult] at hc
      cases hc
    · rw [heq] at hc ⊢
      exact ⟨hc, rfl⟩
    · rw [heq]
      exact ⟨hc, rfl⟩
    · rw [Turn.Answers, hresult] at hc
      exact absurd hc.1 (by simp [LifecycleResult.Delivers, show (default : LifecycleResult).action = .none from rfl])

/-- The turn accepts the request. -/
structure Accepts (id : UInt16) (payload : Bytes) (t : Turn) : Prop where
  work : t.work id payload ≤ 1
  transmits : t.result.action = .transmitCommand →
    t.after.state = .active ∧ t.result.packet = t.after.remoteBridge.transaction.command
  answers : t.Answers → t.after.state = .completed ∧ t.result.response = t.after.entry.response

theorem accepts {t : Turn} (hstep : t.before.InStep) (h : t.Steps answers) (hbefore : ¬ t.before.Retains id payload)
    (hafter : t.after.Retains id payload) : Accepts id payload t := by
  cases turn_outcome hstep h with
  | refused haction heq => exact absurd (heq ▸ hafter) hbefore
  | @served a haction hidle hnew hcalls hclass hdeliver heq =>
    refine ⟨?_, fun hc => ?_, fun hc => ?_⟩
    · rw [Turn.work, Turn.transactions_of_eq (by rw [heq]; rfl), Turn.executions, haction]
      dsimp only
      split
      · simpa using hcalls
      · simp
    · rcases hdeliver with hd | hd <;> simp [hd] at hc
    · rw [heq]
      exact ⟨rfl, rfl⟩
  | @begun a bridge haction hidle hnew hcalls hactive hb heq hresult =>
    refine ⟨?_, fun hc => ?_, fun hc => ?_⟩
    · rw [Turn.work, Turn.executions_of_nil hcalls, Turn.transactions]
      split <;> simp
    · rw [heq, hresult]
      exact ⟨rfl, rfl⟩
    · rw [Turn.Answers, hresult] at hc
      simp [LifecycleResult.Delivers] at hc
  | waited hsubmit hcalls hstep' hcommand heq haction => exact absurd (by rw [heq] at hafter; exact hafter) hbefore
  | finished hsubmit hcalls hactive hstep' hdeliver heq =>
    refine absurd ⟨⟨by simp [hactive], ?_⟩, ?_⟩ hbefore
    · simpa [heq, Lifecycle.complete] using hafter.1.2
    · simpa [heq, Lifecycle.complete] using hafter.2
  | linked hsubmit hcalls heq hresult => exact absurd (by rw [heq] at hafter; exact hafter) hbefore

/-! ### A stretch of turns -/

/-- What holds from a state on that retains the request. -/
structure OnceFrom (l : Lifecycle) (id : UInt16) (payload : Bytes) (stretch : List Turn) : Prop where
  work : (stretch.map (Turn.work id payload)).sum = 0
  packet : ∀ t ∈ stretch, t.result.action = .transmitCommand →
    l.state = .active ∧ t.result.packet = l.remoteBridge.transaction.command
  completed : l.state = .completed → ∀ t ∈ stretch, t.Answers → t.result.response = l.entry.response
  response : ∃ response, ∀ t ∈ stretch, t.Answers → t.result.response = response

/-- **While retained.** By induction on the turns, each of which keeps the request. -/
theorem onceFrom {stretch : List Turn} (hrun : IsRun answers l stretch) (hstep : l.InStep)
    (hl : l.Retains id payload) (hall : ∀ t ∈ stretch, t.after.Retains id payload) :
    OnceFrom l id payload stretch := by
  induction stretch generalizing l with
  | nil => exact ⟨rfl, by simp, by simp, default, by simp⟩
  | cons t stretch ih =>
    obtain ⟨rfl, hs, hrest⟩ := hrun
    have hafter := hall t (List.mem_cons_self ..)
    have hkeep := keeps hstep hs hl hafter
    have htail := ih hrest (turn_inStep hstep hs) hafter fun u hu => hall u (List.mem_cons_of_mem t hu)
    constructor
    · rw [List.map_cons, List.sum_cons, hkeep.work, htail.work]
    · intro u hu ha
      rcases List.mem_cons.1 hu with rfl | hu
      · exact hkeep.transmits ha
      · obtain ⟨hactive, hpacket⟩ := htail.packet u hu ha
        exact ⟨(hkeep.active hactive).1, hpacket.trans (hkeep.active hactive).2⟩
    · intro hc u hu ha
      obtain ⟨hc', hresponse⟩ := hkeep.completed hc
      rcases List.mem_cons.1 hu with rfl | hu
      · exact (hkeep.answers ha).2.trans hresponse
      · exact (htail.completed hc' u hu ha).trans hresponse
    · -- the first answer completes the request, and the later ones repeat it
      by_cases ht : t.Answers
      · obtain ⟨hc', hresponse⟩ := hkeep.answers ht
        refine ⟨t.after.entry.response, fun u hu ha => ?_⟩
        rcases List.mem_cons.1 hu with rfl | hu
        · exact hresponse
        · exact htail.completed hc' u hu ha
      · obtain ⟨response, hr⟩ := htail.response
        refine ⟨response, fun u hu ha => ?_⟩
        rcases List.mem_cons.1 hu with rfl | hu
        · exact absurd ha ht
        · exact hr u hu ha

theorem once {stretch : List Turn} (hrun : IsRun answers l stretch) (hstep : l.InStep)
    (hall : ∀ t ∈ stretch, t.after.Retains id payload) : Once id payload stretch := by
  by_cases hl : l.Retains id payload
  · have h := onceFrom hrun hstep hl hall
    exact ⟨by rw [h.work]; omega, ⟨_, fun t ht ha => (h.packet t ht ha).2⟩, h.response⟩
  cases stretch with
  | nil => exact ⟨by simp, ⟨blankPacket, by simp⟩, default, by simp⟩
  | cons t stretch =>
    obtain ⟨rfl, hs, hrest⟩ := hrun
    have hafter := hall t (List.mem_cons_self ..)
    have hacc := accepts hstep hs hl hafter
    have htail := onceFrom hrest (turn_inStep hstep hs) hafter fun u hu => hall u (List.mem_cons_of_mem t hu)
    constructor
    · rw [List.map_cons, List.sum_cons, htail.work]
      exact hacc.work
    · refine ⟨t.after.remoteBridge.transaction.command, fun u hu ha => ?_⟩
      rcases List.mem_cons.1 hu with rfl | hu
      · exact (hacc.transmits ha).2
      · exact (htail.packet u hu ha).2
    · by_cases ht : t.Answers
      · obtain ⟨hc', hresponse⟩ := hacc.answers ht
        refine ⟨t.after.entry.response, fun u hu ha => ?_⟩
        rcases List.mem_cons.1 hu with rfl | hu
        · exact hresponse
        · exact htail.completed hc' u hu ha
      · obtain ⟨response, hr⟩ := htail.response
        refine ⟨response, fun u hu ha => ?_⟩
        rcases List.mem_cons.1 hu with rfl | hu
        · exact absurd ha ht
        · exact hr u hu ha

/-! ### The lifecycle -/

/-- A submission that repeats the completed request. -/
def Turn.Repeats (t : Turn) (a : Submission) : Prop :=
  t.action = .submit a ∧ t.before.state = .completed ∧ t.before.Retains a.requestId a.payload

/-- A submission that is refused, or answered that it is busy, does not match or is rejected otherwise. -/
def Turn.Refuses (t : Turn) (a : Submission) : Prop :=
  t.action = .submit a ∧
    (t.result.action = .invalidRequest ∨ t.result.response.resultClass = ResultClass.requestRejected)

/-- **Exactly once while retained**, for the repetitions that `fits` allows. -/
structure ExactlyOnce (fits : Submission → Prop) (turns : List Turn) : Prop where
  inStep : ∀ t ∈ turns, t.after.state = .active ↔ t.after.remoteBridge.active = true
  once : ∀ before stretch after id payload, turns = before ++ stretch ++ after →
    (∀ t ∈ stretch, t.after.Retains id payload) → Once id payload stretch
  repeats : ∀ t ∈ turns, ∀ a, t.Repeats a → fits a →
    t.calls = [] ∧ t.after = t.before ∧ t.result.Delivers ∧ t.result.response = t.before.entry.response
  refuses : ∀ t ∈ turns, ∀ a, t.Refuses a → t.after = t.before

theorem repeats_replay {t : Turn} {a : Submission} (h : t.Steps answers) (hrep : t.Repeats a)
    (hfits : a.request?.isSome = true) :
    t.calls = [] ∧ t.after = t.before ∧ t.result.Delivers ∧ t.result.response = t.before.entry.response := by
  obtain ⟨haction, hstate, hret⟩ := hrep
  unfold Turn.Steps at h
  rw [haction] at h
  have hsub := submit_outcome h
  obtain ⟨before, action, calls, result, after⟩ := t
  dsimp only at *
  cases hsub with
  | undecoded hreq => simp [hreq] at hfits
  | mismatch hreq hheld hne => exact absurd hret.2.symm hne
  | duplicate hreq hheld hactive => simp [hstate] at hactive
  | replay hreq hheld hidle => exact ⟨rfl, rfl, deliver_delivers before, rfl⟩
  | busy hreq hnew => exact absurd hret.1 hnew
  | served hreq hnew => exact absurd hret.1 hnew
  | remote hreq hnew => exact absurd hret.1 hnew

theorem refuses_unchanged {t : Turn} {a : Submission} (hstep : t.before.InStep) (h : t.Steps answers)
    (href : t.Refuses a) : t.after = t.before := by
  obtain ⟨haction, href⟩ := href
  cases turn_outcome hstep h with
  | refused _ heq => exact heq
  | served _ _ _ _ hclass hdeliver =>
    rcases href with hr | hr
    · rcases hdeliver with hd | hd <;> simp [hd] at hr
    · exact absurd hr hclass
  | begun _ _ _ _ _ _ _ hresult =>
    rw [hresult] at href
    rcases href with hr | hr
    · cases hr
    · exact absurd hr (show ¬ (0 : UInt8) = ResultClass.requestRejected by decide)
  | waited hsubmit => exact absurd haction (hsubmit a)
  | finished hsubmit => exact absurd haction (hsubmit a)
  | linked hsubmit => exact absurd haction (hsubmit a)

theorem lastState_inStep {turns : List Turn} (h : IsRun answers l turns) (hl : l.InStep) :
    (lastState l turns).InStep := by
  induction turns generalizing l with
  | nil => exact hl
  | cons t turns ih =>
    obtain ⟨rfl, hs, hrest⟩ := h
    exact ih hrest (turn_inStep hl hs)

/-- **Every run of the lifecycle**, whatever the services answer. -/
theorem lifecycle_exactly_once {turns : List Turn} (h : IsRun answers .initial turns) :
    ExactlyOnce (fun a => a.request?.isSome = true) turns := by
  have hinv := run_inStep h
  constructor
  · intro t ht
    exact (hinv t ht).2.active
  · intro before stretch after id payload hsplit hall
    subst hsplit
    have hrun := (isRun_append.1 (isRun_append.1 h).1)
    exact once hrun.2 (lastState_inStep hrun.1 Lifecycle.initial_inStep) hall
  · intro t ht a hrep hfits
    exact repeats_replay (steps_of_mem h ht) hrep hfits
  · intro t ht a href
    exact refuses_unchanged (hinv t ht).1 (steps_of_mem h ht) href

/-! ### A repetition at another minor version -/

/-- POLL_EVENTS for the Hub with the identifier 1, at a minor version. -/
def pollAt (minor : UInt8) : Submission where
  requestId := 1
  payload := [OperationCategory.event, OperationCode.pollEvents, 1, 0, 0, ValueType.none, 0]
  snapshot := { (default : DeviceSnapshot) with role := .hub, deviceId := 1, ready := true }
  peerId := 2
  registryValid := true
  registry := ⟨none, 0⟩
  interlock := .clear
  now := 0
  overallTimeout := 1000
  maxRetries := 3
  explicitlyConfigured := false
  requestMinor := minor
  eventService := true

def pollRequest : OperationRequest :=
  ⟨OperationCategory.event, OperationCode.pollEvents, 1, 0, noneValue⟩

/-- A ledger without Events. -/
def quietLedger : Hub.Ledger :=
  { Hub.Ledger.initial with hubDeviceId := 1, nodeDeviceId := 2, ledgerHealthy := true, ordinalReady := true }

def quietAnswer : ServiceResult :=
  EventService.poll quietLedger { makeBaseResult 1 pollRequest with disposition := .handled }

def polledState : Lifecycle :=
  (Lifecycle.initial.acceptIdentity 1 versionMinor02 (pollAt versionMinor02).payload).complete quietAnswer.response

/-- The Host asks for Events, there are none. -/
def polled : Turn where
  before := .initial
  action := .submit (pollAt versionMinor02)
  calls := [.event 1 pollRequest .hub 1]
  result := { (pollAt versionMinor02).base with action := .hostResponseReady, response := quietAnswer.response }
  after := polledState

/-- The Host asks again. -/
def repeated (minor : UInt8) (action : LifecycleAction) (response : OperationResponse) : Turn where
  before := polledState
  action := .submit (pollAt minor)
  calls := []
  result := { (pollAt versionMinor02).base with action, responseMinor := minor, response }
  after := polledState

theorem polled_steps : polled.Steps serves := by
  refine .call quietAnswer ⟨quietLedger, [], quietLedger, ?_⟩ ?_
  · exact .pure _
  · exact .pure _

theorem repeated_steps :
    (repeated versionMinor02 .hostResponseReady quietAnswer.response).Steps serves := .pure _

theorem repeated_at_01_steps : (repeated versionMinor01 .invalidRequest default).Steps serves := .pure _

/-- The request is executed once and answered twice. -/
theorem lifecycle_exactly_once_polled :
    IsRun serves .initial [polled, repeated versionMinor02 .hostResponseReady quietAnswer.response] ∧
      ExactlyOnce (fun a => a.request?.isSome = true)
        [polled, repeated versionMinor02 .hostResponseReady quietAnswer.response] :=
  have h : IsRun serves .initial [polled, repeated versionMinor02 .hostResponseReady quietAnswer.response] :=
    ⟨rfl, polled_steps, rfl, repeated_steps, trivial⟩
  ⟨h, lifecycle_exactly_once h⟩

/-- The same request at the minor version 0.1 is no request: it is not answered from the retained response. -/
theorem replay_at_other_minor :
    ¬ ∀ turns, IsRun serves .initial turns → ExactlyOnce (fun _ => True) turns := by
  intro h
  have hrun : IsRun serves .initial [polled, repeated versionMinor01 .invalidRequest default] :=
    ⟨rfl, polled_steps, rfl, repeated_at_01_steps, trivial⟩
  have hrep := (h _ hrun).repeats (repeated versionMinor01 .invalidRequest default) (by simp)
    (pollAt versionMinor01) ⟨rfl, rfl, ⟨by decide, rfl⟩, rfl⟩ trivial
  rcases hrep.2.2.1 with hd | hd <;> cases hd

end Redline.Host
