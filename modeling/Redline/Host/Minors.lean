import Mathlib.Data.List.Induction
import Redline.Host.Sendable

/-!
# The minor version of a response

A response carries the minor version of the frame in which its request was accepted: the one of the submission for what
is executed or refused in it, and the one that is retained for a replay or a remote completion.  `lastTaken_of_held`
says where the retained one comes from: the last submission that was accepted (`LastTaken`).

A request that is repeated at another minor version is therefore answered at its first one.
-/

namespace Redline.Host

open Redline.Wire Redline.Lib

variable {answers : ServiceOp → ServiceResult → Prop} {t : Turn} {turns past rest : List Turn}

/-! ### What is retained -/

/-- The request is accepted in the turn: its identifier was not held before, and is retained after it. -/
def Turn.Takes (t : Turn) (a : Submission) : Prop :=
  t.action = .submit a ∧ ¬ t.before.Holds a.requestId ∧ t.after.Retains a.requestId a.payload

/-- The last request that was accepted in the turns. -/
def LastTaken (turns : List Turn) (a : Submission) : Prop :=
  ∃ past t mid, turns = past ++ t :: mid ∧ t.Takes a ∧ ∀ u ∈ mid, ∀ a', ¬ u.Takes a'

/-- The retained request is the one of the submission. -/
structure Lifecycle.From (l : Lifecycle) (a : Submission) : Prop where
  requestId : l.entry.requestId = a.requestId
  requestMinor : l.entry.requestMinor = a.requestMinor
  requestPayload : l.entry.requestPayload = a.payload

/-- What a turn does to the retained request. -/
inductive Turn.Keeps (t : Turn) : Prop
  | taken {a : Submission} (h : t.Takes a) (hfrom : t.after.From a)
  | kept (h : ∀ a, ¬ t.Takes a) (hstate : t.after.state ≠ .empty → t.before.state ≠ .empty)
      (hentry : ∀ a, t.before.From a → t.after.From a)

theorem not_takes_of_eq (h : t.after = t.before) (a : Submission) : ¬ t.Takes a := by
  rintro ⟨-, hnew, hret⟩
  rw [h] at hret
  exact hnew hret.1

theorem turn_keeps (hstep : t.before.InStep) (h : t.Steps answers) : t.Keeps := by
  cases turn_outcome hstep h with
  | refused haction hafter =>
    refine .kept (not_takes_of_eq hafter) ?_ ?_ <;> rw [hafter]
    · exact id
    · exact fun a => id
  | @served a haction hidle hnew hcalls hclass hdeliver hafter =>
    refine .taken ⟨haction, hnew, ?_⟩ ?_ <;> rw [hafter]
    · exact ⟨⟨by simp [Lifecycle.complete], rfl⟩, rfl⟩
    · exact ⟨rfl, rfl, rfl⟩
  | @begun a bridge haction hidle hnew hcalls hactive hb hafter hresult =>
    refine .taken ⟨haction, hnew, ?_⟩ ?_ <;> rw [hafter]
    · exact ⟨⟨by simp [Lifecycle.acceptIdentity], rfl⟩, rfl⟩
    · exact ⟨rfl, rfl, rfl⟩
  | waited hsubmit hcalls hstep' hcommand hafter =>
    refine .kept (fun a ha => hsubmit a ha.1) ?_ ?_ <;> rw [hafter]
    · exact id
    · exact fun a ha => ⟨ha.requestId, ha.requestMinor, ha.requestPayload⟩
  | finished hsubmit hcalls hactive hstep' hdeliver hafter =>
    refine .kept (fun a ha => hsubmit a ha.1) (fun _ => by simp [hactive]) ?_
    rw [hafter]
    exact fun a ha => ⟨ha.requestId, ha.requestMinor, ha.requestPayload⟩
  | linked hsubmit hcalls hafter =>
    refine .kept (fun a ha => hsubmit a ha.1) ?_ ?_ <;> rw [hafter]
    · exact id
    · exact fun a ha => ⟨ha.requestId, ha.requestMinor, ha.requestPayload⟩

theorem LastTaken.snoc {a : Submission} (h : LastTaken turns a) (ht : ∀ a', ¬ t.Takes a') :
    LastTaken (turns ++ [t]) a := by
  obtain ⟨past, u, mid, rfl, hu, hmid⟩ := h
  refine ⟨past, u, mid ++ [t], by simp, hu, fun v hv => ?_⟩
  rcases List.mem_append.1 hv with hv | hv
  · exact hmid v hv
  · rw [List.mem_singleton.1 hv]
    exact ht

theorem lastState_snoc (l : Lifecycle) : lastState l (turns ++ [t]) = t.after := by
  induction turns generalizing l with
  | nil => rfl
  | cons u turns ih => exact ih u.after

/-- **What is retained comes from the last request that was accepted.** -/
theorem lastTaken_of_held (h : IsRun answers .initial turns) (hheld : (lastState .initial turns).state ≠ .empty) :
    ∃ a, LastTaken turns a ∧ (lastState .initial turns).From a := by
  induction turns using List.reverseRecOn with
  | nil => exact absurd rfl hheld
  | append_singleton turns t ih =>
    have hsteps := isRun_append.1 h
    have hin := (run_inStep h t (by simp)).1
    have hbefore : t.before = lastState .initial turns := hsteps.2.1
    rw [lastState_snoc] at hheld ⊢
    cases turn_keeps hin hsteps.2.2.1 with
    | taken htakes hfrom => exact ⟨_, ⟨turns, t, [], rfl, htakes, fun u hu => by cases hu⟩, hfrom⟩
    | kept hno hstate hentry =>
      obtain ⟨a, hlast, hfrom⟩ := ih hsteps.1 (hbefore ▸ hstate hheld)
      exact ⟨a, hlast.snoc hno, hentry a (hbefore ▸ hfrom)⟩

/-! ### What is handed out -/

/-- The response is about the submission, at its minor version. -/
def LifecycleResult.At (r : LifecycleResult) (requestId : UInt16) (minor : UInt8) : Prop :=
  r.requestId = requestId ∧ r.responseMinor = minor

theorem finishLocal_at (l : Lifecycle) (a : Submission) (request : OperationRequest) (result : ServiceResult) :
    (l.finishLocal a request result).2.At a.requestId a.requestMinor := by
  unfold Lifecycle.finishLocal
  dsimp only
  split
  · exact ⟨rfl, rfl⟩
  split <;> exact ⟨rfl, rfl⟩

/-- A submission is answered at its own minor version, a repetition at the retained one. -/
theorem submitted_at {l : Lifecycle} {a : Submission} {calls : List ServiceOp} {r : Lifecycle × LifecycleResult}
    (hstep : l.InStep) (h : Submitted answers l a calls r) (hdeliver : r.2.Delivers) :
    (¬ l.Retains a.requestId a.payload ∧ r.2.At a.requestId a.requestMinor) ∨
      (l.Retains a.requestId a.payload ∧ r.2.At l.entry.requestId l.entry.requestMinor) := by
  cases h with
  | undecoded => simp [LifecycleResult.Delivers] at hdeliver
  | mismatch hreq hheld hne => exact Or.inl ⟨fun hc => hne hc.2.symm, rfl, rfl⟩
  | duplicate => simp [LifecycleResult.Delivers] at hdeliver
  | replay hreq hheld => exact Or.inr ⟨hheld, hheld.1.2.symm, rfl⟩
  | busy hreq hnew => exact Or.inl ⟨fun hc => hnew hc.1, rfl, rfl⟩
  | @served request calls service hreq hnew hidle hlocal hret r hr =>
    rw [← hr]
    exact Or.inl ⟨fun hc => hnew hc.1, finishLocal_at l a request service⟩
  | remote hreq hnew hidle hlocal hr =>
    refine Or.inl ⟨fun hc => hnew hc.1, ?_⟩
    rw [← hr]
    rcases submitRemote_cases hstep hidle (fun hc => hlocal (Or.inl hc)) with ⟨code, -, hres⟩ | ⟨bridge, -, -, -, hres⟩
    · rw [hres]
      exact ⟨rfl, rfl⟩
    · rw [hres]
      exact ⟨rfl, rfl⟩

/-- A completion is answered at the retained minor version. -/
theorem advances_at {l : Lifecycle} {r : Lifecycle × LifecycleResult} (h : l.Advances r) (hdeliver : r.2.Delivers) :
    l.state ≠ .empty ∧ r.2.At l.entry.requestId l.entry.requestMinor := by
  cases h with
  | waits hstep hrequest hcommand haction =>
    rcases haction with ha | ⟨ha, -⟩ <;> simp [LifecycleResult.Delivers, ha] at hdeliver
  | finished hactive => exact ⟨by simp [hactive], rfl, rfl⟩

/-- **The minor version of one turn**: the one of the submission, or the retained one. -/
theorem turn_at (hstep : t.before.InStep) (h : t.Steps answers) (hdeliver : t.result.Delivers) :
    (∃ a, t.action = .submit a ∧ ¬ t.before.Retains a.requestId a.payload ∧ t.result.At a.requestId a.requestMinor) ∨
      (t.before.state ≠ .empty ∧ (∀ a, t.action = .submit a → t.before.Retains a.requestId a.payload) ∧
        t.result.At t.before.entry.requestId t.before.entry.requestMinor) := by
  have hnone : ¬ (default : LifecycleResult).Delivers := by
    simp [LifecycleResult.Delivers, show (default : LifecycleResult).action = .none from rfl]
  unfold Turn.Steps at h
  split at h
  · rename_i a haction
    rcases submitted_at hstep (submit_outcome h) hdeliver with ⟨hnot, hat⟩ | ⟨hret, hat⟩
    · exact Or.inl ⟨a, haction, hnot, hat⟩
    · refine Or.inr ⟨hret.1.1, fun a' ha' => ?_, hat⟩
      cases haction.symm.trans ha'
      exact hret
  · rename_i packet haction
    have hadv := Lifecycle.receive_advances hstep packet
    rw [h.2] at hadv
    obtain ⟨hne, hat⟩ := advances_at hadv hdeliver
    exact Or.inr ⟨hne, fun a ha => (by cases haction.symm.trans ha), hat⟩
  · rename_i now haction
    have hadv := Lifecycle.service_advances hstep now
    rw [h.2] at hadv
    obtain ⟨hne, hat⟩ := advances_at hadv hdeliver
    exact Or.inr ⟨hne, fun a ha => (by cases haction.symm.trans ha), hat⟩
  all_goals
    rw [h.2.2] at hdeliver
    exact absurd hdeliver hnone

/-! ### Decoding -/

/-- A value that goes into a response is a record or a scalar. -/
theorem value_of_validated {r : OperationResponse} (h : validateResponseValue r = .ok) :
    r.value.type = structureValueType ∨ isValidScalarValue r.value = true := by
  have hnone : isNoneValue r.value = true → isValidScalarValue r.value = true := fun hn => by
    rw [isNoneValue_iff.1 hn]
    exact isValidScalarValue_noneValue
  have hrecord : ∀ {op : UInt8}, isValidStructureValue op r.value = true → r.value.type = structureValueType := by
    intro op hs
    simp only [isValidStructureValue, Bool.and_eq_true, beq_iff_eq] at hs
    exact hs.1.1
  have hsuccess : isValidSuccessfulOperationValue r.operation r.value = true →
      r.value.type = structureValueType ∨ isValidScalarValue r.value = true := by
    intro hs
    unfold isValidSuccessfulOperationValue at hs
    split at hs
    · exact Or.inr (Bool.and_eq_true _ _ ▸ hs : _ ∧ _).2
    split at hs
    · exact Or.inl (hrecord hs)
    split at hs
    · exact Or.inr (Bool.and_eq_true _ _ ▸ hs : _ ∧ _).1
    split at hs
    · exact Or.inr (hnone hs)
    split at hs
    · exact Or.inr hs
    · cases hs
  unfold validateResponseValue at h
  split at h
  · split at h
    · cases h
    split at h
    · cases h
    split at h
    · exact Or.inr (hnone ‹_›)
    · cases h
  split at h
  · split at h
    · split at h
      · split at h
        · exact Or.inl (hrecord ‹_›)
        · cases h
      split at h
      · exact Or.inr (hnone ‹_›)
      · cases h
    split at h
    · rename_i hrej
      exact Or.inr (hnone (Bool.and_eq_true _ _ ▸ hrej : _ ∧ _).2)
    · cases h
  split at h
  · split at h
    · exact hsuccess ‹_›
    · cases h
  split at h
  · exact Or.inr (hnone ‹_›)
  · cases h

/-- **A response that encodes is decoded at its minor version.** -/
theorem decode_of_encode {minor : UInt8} {r : OperationResponse} {bytes : Bytes}
    (h : encodeOperationResponse minor r = .ok bytes) : decodeOperationResponse minor bytes = .ok r := by
  refine decodeOperationResponse_encode h ?_
  unfold encodeOperationResponse at h
  split at h
  · cases h
  rename_i hvalid
  have hvalid := not_not.1 hvalid
  unfold validateOperationResponse at hvalid
  split at hvalid
  · split at hvalid <;> cases hvalid
  · cases hvalid
  split at hvalid
  · cases hvalid
  split at hvalid
  · cases hvalid
  split at hvalid
  · cases hvalid
  exact value_of_validated hvalid

/-! ### Runs -/

/-- **A response carries the minor version of the frame in which its request was accepted**, and a Host of that version
decodes it.  A frame that is not a repetition of what is retained is answered at its own minor version; a repetition and
a remote completion are answered at the minor version of the last accepted request, which is that request.  So a Host
that keeps to one minor version under an identifier is answered at it. -/
theorem response_minor (h : IsRun serves .initial (past ++ t :: rest))
    (hdeliver : t.result.action = .hostResponseReady ∨ t.result.action = .responseRetained) :
    (∃ bytes, encodeOperationResponse t.result.responseMinor t.result.response = .ok bytes ∧
      decodeOperationResponse t.result.responseMinor bytes = .ok t.result.response) ∧
    (∀ a, t.action = .submit a → ¬ t.before.Retains a.requestId a.payload →
      t.result.requestId = a.requestId ∧ t.result.responseMinor = a.requestMinor) ∧
    ((∀ a, t.action = .submit a → t.before.Retains a.requestId a.payload) →
      ∃ a, LastTaken past a ∧ t.result.requestId = a.requestId ∧ t.result.responseMinor = a.requestMinor ∧
        ∀ a', t.action = .submit a' → a'.requestId = a.requestId ∧ a'.payload = a.payload) ∧
    (∀ minor, (∀ u ∈ past ++ [t], ∀ a, u.action = .submit a → a.requestId = t.result.requestId →
      a.requestMinor = minor) → t.result.responseMinor = minor) := by
  have hmem : t ∈ past ++ t :: rest := by simp
  have hsteps := steps_of_mem h hmem
  obtain ⟨hpast, hbefore, -⟩ := isRun_append.1 h
  have henc := (turn_leaves (run_sendable h t hmem).1 hsteps).2 hdeliver
  have hat := turn_at (run_inStep h t hmem).1 hsteps hdeliver
  have hlast : t.before.state ≠ .empty → ∃ a, LastTaken past a ∧ t.before.From a := by
    rw [hbefore]
    exact lastTaken_of_held hpast
  obtain ⟨bytes, hbytes, -⟩ := henc
  refine ⟨⟨bytes, hbytes, decode_of_encode hbytes⟩, ?_, ?_, ?_⟩
  · intro a ha hnot
    rcases hat with ⟨a', ha', -, hid, hminor⟩ | ⟨-, hret, -⟩
    · cases ha.symm.trans ha'
      exact ⟨hid, hminor⟩
    · exact absurd (hret a ha) hnot
  · intro hret
    rcases hat with ⟨a, ha, hnot, -⟩ | ⟨hne, -, hid, hminor⟩
    · exact absurd (hret a ha) hnot
    · obtain ⟨a, htaken, hfrom⟩ := hlast hne
      refine ⟨a, htaken, hid.trans hfrom.requestId, hminor.trans hfrom.requestMinor, fun a' ha' => ?_⟩
      have hr := hret a' ha'
      exact ⟨hr.1.2.symm.trans hfrom.requestId, hr.2.symm.trans hfrom.requestPayload⟩
  · intro minor hall
    rcases hat with ⟨a, ha, -, hid, hminor⟩ | ⟨hne, -, hid, hminor⟩
    · rw [hminor]
      exact hall t (by simp) a ha hid.symm
    · obtain ⟨a, ⟨front, u, mid, rfl, hu, -⟩, hfrom⟩ := hlast hne
      rw [hminor, hfrom.requestMinor]
      exact hall u (by simp) a hu.1 (hfrom.requestId.symm.trans hid.symm)

/-! ### A PING at two minor versions -/

/-- A PING of the device itself, at a minor version. -/
def pingAt (minor : UInt8) : Submission :=
  { pollAt minor with
    requestId := 0x7101
    payload := [OperationCategory.device, OperationCode.ping, 1, 0, 0, ValueType.none, 0] }

def pingRequest : OperationRequest := ⟨OperationCategory.device, OperationCode.ping, 1, 0, noneValue⟩

def pingAnswer : ServiceResult :=
  handleLocalDeviceOrDiagnostic 0x7101 pingRequest (pingAt versionMinor02).snapshot versionMinor02

def pingedState : Lifecycle :=
  (Lifecycle.initial.acceptIdentity 0x7101 versionMinor02 (pingAt versionMinor02).payload).complete pingAnswer.response

/-- The PING at the minor version 0.2. -/
def pinged : Turn where
  before := .initial
  action := .submit (pingAt versionMinor02)
  calls := [.localOperation 0x7101 pingRequest (pingAt versionMinor02).snapshot true ⟨none, 0⟩ .clear versionMinor02]
  result := { (pingAt versionMinor02).base with action := .hostResponseReady, response := pingAnswer.response }
  after := pingedState

/-- The same PING at the minor version 0.1. -/
def pingedAgain : Turn where
  before := pingedState
  action := .submit (pingAt versionMinor01)
  calls := []
  result := { (pingAt versionMinor02).base with action := .hostResponseReady, response := pingAnswer.response }
  after := pingedState

theorem pinged_steps : pinged.Steps serves := .call pingAnswer ⟨[], .pure _⟩ (.pure _)

theorem pingedAgain_steps : pingedAgain.Steps serves := .pure _

/-- The first PING is answered at its minor version. -/
theorem response_minor_pinged :
    pinged.result.responseMinor = versionMinor02 ∧
      ∃ bytes, encodeOperationResponse pinged.result.responseMinor pinged.result.response = .ok bytes ∧
        decodeOperationResponse pinged.result.responseMinor bytes = .ok pinged.result.response :=
  have h := @response_minor pinged [] [] ⟨rfl, pinged_steps, trivial⟩ (Or.inl rfl)
  ⟨(h.2.1 _ rfl fun hc => hc.1.1 rfl).2, h.1⟩

/-- The second one is answered at the minor version of the first. -/
theorem replay_keeps_first_minor :
    ¬ ∀ turns, IsRun serves .initial turns → ∀ t ∈ turns, ∀ a, t.action = .submit a →
      t.result.action = .hostResponseReady ∨ t.result.action = .responseRetained →
      t.result.responseMinor = a.requestMinor := by
  intro h
  have hrun : IsRun serves .initial [pinged, pingedAgain] :=
    ⟨rfl, pinged_steps, rfl, pingedAgain_steps, trivial⟩
  exact absurd (h _ hrun pingedAgain (by simp) _ rfl (Or.inl rfl)) (by decide)

end Redline.Host
