import Redline.Lib.Run
import Redline.Network.Validators

/-!
# The ledger between the radio and the Host

The ledger with its two clients: the radio admits, the Host polls and consumes, and in between the storage fails, power
is lost and the ledger recovers.  An action is a call with a script of failures and an optional power cut, or a loss of
power between two calls.

`Moves` says what one action can do to a ledger that has started: nothing, the admission of the Event that was handed
in, or the consumption that was asked for, on the flash and in RAM alike (`Lives.step`).  A recovery needs a
storage that reports a read that fails as UNAVAILABLE: with any other answer the ledger goes on with the older copy.
-/

namespace Redline.Network

open Redline.Wire Redline.Records Redline.Lib Redline.Hub Redline.Host

/-! ### Calls -/

inductive LedgerCall
  | recover
  | admitEvent (event : Event)
  | consume (identity : Identity)
  | handle (requestId : UInt16) (request : OperationRequest) (role : DeviceRole) (localDeviceId : UInt8)

inductive LedgerAnswer
  | recovered (status : Ledger.Status)
  | admitted (result : AdmissionResult)
  | consumed (result : ConsumeResult)
  | served (result : ServiceResult)

def LedgerCall.run (hub node : UInt8) (l : Ledger) : LedgerCall → StorageM (Ledger × LedgerAnswer)
  | .recover => do
    let (l, status) ← Ledger.recover hub node
    return (l, .recovered status)
  | .admitEvent event => do
    let (l, result) ← l.admitEvent event
    return (l, .admitted result)
  | .consume identity => do
    let (l, result) ← l.consume identity
    return (l, .consumed result)
  | .handle requestId request role localDeviceId => do
    let (l, result) ← EventService.handle l requestId request role localDeviceId
    return (l, .served result)

inductive LedgerAction
  | call (call : LedgerCall) (faults : List Fault) (cut : Option (PowerCut Bytes))
  | powerLoss

/-- The Event that is handed in. -/
def LedgerAction.event? : LedgerAction → Option Event
  | .call (.admitEvent event) _ _ => some event
  | _ => none

/-- The identity in a CONSUME_EVENT request. -/
def consumedIdentity? (request : OperationRequest) : Option Identity :=
  if request.operation = OperationCode.consumeEvent then
    (decodeHostEventIdentity request.value.bytes).toOption.map fun identity =>
      ⟨identity.sourceDeviceId, identity.eventEpoch, identity.eventId⟩
  else none

/-- The identity that is to be consumed. -/
def LedgerAction.consumes? : LedgerAction → Option Identity
  | .call (.consume identity) _ _ => some identity
  | .call (.handle _ request _ _) _ _ => consumedIdentity? request
  | _ => none

/-- In a recovery, a read that fails is reported as UNAVAILABLE. -/
def LedgerAction.Reports : LedgerAction → Prop
  | .call .recover faults _ => Records.Reports (· ∈ faults)
  | _ => True

/-- One action, and the answer to the call if it has returned. -/
def serve (hub node : UInt8) (m : Hub.Machine) : LedgerAction → Hub.Machine × Option LedgerAnswer
  | .powerLoss => (.off m.image, none)
  | .call call faults cut =>
    match geometry.execFaulty (call.run hub node m.ledger) faults cut m.image with
    | (some (l, answer), img) => (⟨l, img⟩, some answer)
    | (none, img) => (.off img, none)

structure LedgerTurn where
  before : Hub.Machine
  action : LedgerAction
  answer : Option LedgerAnswer
  after : Hub.Machine

def LedgerTurn.Steps (hub node : UInt8) (t : LedgerTurn) : Prop := serve hub node t.before t.action = (t.after, t.answer)

/-- The ledger as a system that takes turns. -/
def ledgerSystem (hub node : UInt8) : System Hub.Machine LedgerTurn :=
  ⟨LedgerTurn.before, LedgerTurn.after, LedgerTurn.Steps hub node⟩

/-! ### What one action can do -/

/-- The image stands for the view, and a ledger in service serves it. -/
structure Lives (m : Hub.Machine) (v : View) : Prop where
  stored : Stored m.image v
  serving : m.ledger.ledgerHealthy = true → Serving m.ledger m.image v

theorem lives_of_unhealthy {l : Ledger} {img : Image} {v : View} (hl : l.ledgerHealthy = false) (h : Stored img v) :
    Lives ⟨l, img⟩ v :=
  ⟨h, fun hc => by rw [show l.ledgerHealthy = true from hc] at hl; cases hl⟩

theorem lives_of_serving {l : Ledger} {img : Image} {v : View} (h : Serving l img v) : Lives ⟨l, img⟩ v :=
  ⟨h.stored, fun _ => h⟩

theorem lives_off {img : Image} {v : View} (h : Stored img v) : Lives (.off img) v := lives_of_unhealthy rfl h

/-- The answer tells of no new admission. -/
def AdmitsNothing (answer : Option LedgerAnswer) : Prop :=
  ∀ result, answer = some (.admitted result) → result.status ≠ .durableNewAdmission

/-- **What an action does to the ledger.** -/
inductive Moves (a : LedgerAction) (v : View) (answer : Option LedgerAnswer) : View → Prop
  | stays (hanswer : AdmitsNothing answer) : Moves a v answer v
  | admitted {slot : SlotIndex} {event : Event} {ordinal : UInt32} (hevent : a.event? = some event)
      (htarget : (v.records slot).state ≠ .active) (hmark : v.mark ≤ ordinal.toNat)
      (hanswer : ∀ result, answer = some (.admitted result) → result.status = .durableNewAdmission →
        result.admissionOrdinal = ordinal) : Moves a v answer (v.admitted slot event ordinal)
  | consumed {slot : SlotIndex} (hactive : (v.records slot).state = .active)
      (hidentity : a.consumes? = some (v.records slot).identity) (hanswer : AdmitsNothing answer) :
      Moves a v answer (v.consumed slot)

theorem admitsNothing_none : AdmitsNothing none := fun _ h => by cases h

theorem admitsNothing_recovered (status : Ledger.Status) : AdmitsNothing (some (.recovered status)) :=
  fun _ h => by cases h

theorem admitsNothing_consumed (result : ConsumeResult) : AdmitsNothing (some (.consumed result)) :=
  fun _ h => by cases h

theorem admitsNothing_served (result : ServiceResult) : AdmitsNothing (some (.served result)) :=
  fun _ h => by cases h

/-! ### The requests of the Host -/

/-- The answer of the service to the ledger's verdict on a consumption. -/
def consumeAnswer (requestId : UInt16) (request : OperationRequest) : Ledger.ConsumeStatus → ServiceResult
  | .consumed | .alreadyConsumed =>
    EventService.setSuccess { makeBaseResult requestId request with disposition := .handled } noneValue
  | .notFound => EventService.setEventFailure { makeBaseResult requestId request with disposition := .handled }
      EventResultCode.notFound
  | .storageFailure | .degraded =>
    EventService.setEventFailure { makeBaseResult requestId request with disposition := .handled }
      EventResultCode.storageFailure

/-- The service has the ledger consume the identity in the request. -/
theorem consume_of_identity (l : Ledger) (requestId : UInt16) {request : OperationRequest} {identity : Identity}
    (h : consumedIdentity? request = some identity) :
    EventService.consume l { makeBaseResult requestId request with disposition := .handled } request =
      l.consume identity >>= fun r => pure (r.1, consumeAnswer requestId request r.2.status) := by
  unfold consumedIdentity? at h
  split at h
  · unfold EventService.consume
    cases hdec : decodeHostEventIdentity request.value.bytes with
    | error _ =>
      rw [hdec] at h
      cases h
    | ok decoded =>
      rw [hdec] at h
      cases h
      dsimp only
      congr 1
      funext r
      cases r.2.status <;> rfl
  · cases h

/-- A request is answered at once, or it has the ledger consume an identity. -/
theorem handle_cases (l : Ledger) (requestId : UInt16) (request : OperationRequest) (role : DeviceRole)
    (localDeviceId : UInt8) :
    (∃ result, EventService.handle l requestId request role localDeviceId = pure (l, result)) ∨
      l.ledgerHealthy = true ∧ ∃ identity, consumedIdentity? request = some identity ∧
        EventService.handle l requestId request role localDeviceId =
          l.consume identity >>= fun r => pure (r.1, consumeAnswer requestId request r.2.status) := by
  unfold EventService.handle
  split
  · exact Or.inl ⟨_, rfl⟩
  split
  · exact Or.inl ⟨_, rfl⟩
  split
  · exact Or.inl ⟨_, rfl⟩
  split
  · exact Or.inl ⟨_, rfl⟩
  dsimp only
  split
  · exact Or.inl ⟨_, rfl⟩
  rename_i hhealthy
  split
  · exact Or.inl ⟨_, rfl⟩
  split
  · rename_i hop
    cases hdec : decodeHostEventIdentity request.value.bytes with
    | error _ => exact Or.inl ⟨_, by rw [EventService.consume, hdec]⟩
    | ok decoded =>
      have hidentity : consumedIdentity? request =
          some ⟨decoded.sourceDeviceId, decoded.eventEpoch, decoded.eventId⟩ := by
        rw [consumedIdentity?, if_pos hop, hdec]
        rfl
      exact Or.inr ⟨by simpa using hhealthy, _, hidentity, consume_of_identity l requestId hidentity⟩
  · exact Or.inl ⟨_, rfl⟩

/-! ### One call -/

section Calls

variable {hub node : UInt8} {l : Ledger} {img : Image} {v : View} {a : LedgerAction} {allowed : Fault → Prop}

/-- A call that has returned leaves a living ledger, and so does one that was cut. -/
def MovesDone (a : LedgerAction) (v : View) (r : Ledger × LedgerAnswer) (img' : Image) : Prop :=
  ∃ v', Lives ⟨r.1, img'⟩ v' ∧ Moves a v (some r.2) v'

def MovesCut (a : LedgerAction) (v : View) (img' : Image) : Prop := ∃ v', Stored img' v' ∧ Moves a v none v'

theorem ensures_admits (h : Serving l img v) {event : Event} (hevent : a.event? = some event)
    {f : Ledger × AdmissionResult → StorageM (Ledger × LedgerAnswer)}
    (hf : ∀ l' result, f (l', result) = pure (l', .admitted result)) :
    geometry.EnsuresUnder allowed img (l.admitEvent event >>= f) (MovesDone a v) (MovesCut a v) := by
  have hadmitted : ∀ {answer : Option LedgerAnswer} {slot : SlotIndex} {ordinal : UInt32},
      Admits l event slot ordinal → v.mark ≤ ordinal.toNat →
      (∀ result, answer = some (.admitted result) → result.status = .durableNewAdmission →
        result.admissionOrdinal = ordinal) → Moves a v answer (v.admitted slot event ordinal) := by
    intro answer slot ordinal hadmits hmark hanswer
    refine .admitted hevent ?_ hmark hanswer
    rw [← h.records]
    rcases admissionTarget_state hadmits.target with he | ⟨he, -⟩ <;> rw [he] <;> exact HubState.noConfusion
  have hnothing : ∀ {result : AdmissionResult}, result.status ≠ .durableNewAdmission →
      AdmitsNothing (some (.admitted result)) := by
    intro result hne result' he
    cases he
    exact hne
  refine ensures_bind (ensures_mono ?_ ?_ (ensures_admitEvent_under h event))
  · rintro ⟨l', result⟩ img' ⟨hout, -⟩
    rw [hf]
    refine ensures_pure.2 ?_
    cases hout with
    | refused hno hl hslots himg hstatus hdup =>
      subst himg
      refine ⟨v, lives_of_serving ?_, .stays (hnothing hstatus)⟩
      rcases hl with hl | ⟨-, hsound⟩
      · obtain rfl : l' = l := hl
        exact h
      · exact hsound.serving
    | admitted slot ordinal ha hmark hsound hresult =>
      refine ⟨_, lives_of_serving hsound.serving, hadmitted ha hmark fun result' he _ => ?_⟩
      cases he
      rw [show result = _ from hresult]
    | failed hf hleft hresult =>
      have hfailure : AdmitsNothing (some (.admitted result)) := hnothing (by rw [show result = _ from hresult]; simp)
      rcases hleft with hserving | ⟨hl, hst | ⟨slot, ordinal, hadmits, hmark, hst⟩⟩
      · exact ⟨v, lives_of_serving hserving, .stays hfailure⟩
      · exact ⟨v, lives_of_unhealthy hl hst, .stays hfailure⟩
      · exact ⟨_, lives_of_unhealthy hl hst, hadmitted hadmits hmark fun result' he hs => absurd hs (hfailure result' he)⟩
  · rintro img' (hst | ⟨slot, ordinal, hadmits, hmark, hst⟩)
    · exact ⟨v, hst, .stays admitsNothing_none⟩
    · exact ⟨_, hst, hadmitted hadmits hmark fun result he => by cases he⟩

theorem ensures_consumes (h : Serving l img v) {identity : Identity} (hidentity : a.consumes? = some identity)
    (answerOf : ConsumeResult → LedgerAnswer) {f : Ledger × ConsumeResult → StorageM (Ledger × LedgerAnswer)}
    (hf : ∀ l' result, f (l', result) = pure (l', answerOf result))
    (hanswer : ∀ result, AdmitsNothing (some (answerOf result))) :
    geometry.EnsuresUnder allowed img (l.consume identity >>= f) (MovesDone a v) (MovesCut a v) := by
  have hconsumed : ∀ {answer : Option LedgerAnswer} {slot : SlotIndex}, Consumes l identity slot →
      AdmitsNothing answer → Moves a v answer (v.consumed slot) := by
    intro answer slot hc hanswer
    obtain ⟨hactive, hid⟩ := consumes_state h.records hc
    exact .consumed hactive (by rw [hid]; exact hidentity) hanswer
  refine ensures_bind (ensures_mono ?_ ?_ (ensures_consume_under h identity))
  · rintro ⟨l', result⟩ img' ⟨hout, -⟩
    rw [hf]
    refine ensures_pure.2 ?_
    cases hout with
    | refused _ hl himg _ =>
      obtain rfl : l' = l := hl
      subst himg
      exact ⟨v, lives_of_serving h, .stays (hanswer result)⟩
    | consumed slot hc hserving _ _ => exact ⟨_, lives_of_serving hserving, hconsumed hc (hanswer result)⟩
    | failed _ hleft hl _ =>
      rcases hleft with hst | ⟨slot, hc, hst⟩
      · exact ⟨v, lives_of_unhealthy hl hst, .stays (hanswer result)⟩
      · exact ⟨_, lives_of_unhealthy hl hst, hconsumed hc (hanswer result)⟩
  · rintro img' (hst | ⟨slot, hc, hst⟩)
    · exact ⟨v, hst, .stays admitsNothing_none⟩
    · exact ⟨_, hst, hconsumed hc admitsNothing_none⟩

/-- A ledger that is out of service is left alone by every call but a recovery. -/
theorem LedgerCall.run_of_unhealthy (hub node : UInt8) (h : l.ledgerHealthy = false) {call : LedgerCall} (hr : call ≠ .recover) :
    ∃ answer, call.run hub node l = pure (l, answer) ∧ AdmitsNothing (some answer) := by
  cases call with
  | recover => exact absurd rfl hr
  | admitEvent event =>
    refine ⟨.admitted ⟨.degraded, none, 0⟩, by simp [LedgerCall.run, Ledger.admitEvent, h], ?_⟩
    rintro result he hs
    cases he
    cases hs
  | consume identity =>
    exact ⟨.consumed ⟨.degraded, none⟩, by simp [LedgerCall.run, Ledger.consume, h], admitsNothing_consumed _⟩
  | handle requestId request role localDeviceId =>
    rcases handle_cases l requestId request role localDeviceId with ⟨result, hrun⟩ | ⟨hhealthy, -⟩
    · exact ⟨.served result, by simp [LedgerCall.run, hrun], admitsNothing_served _⟩
    · rw [h] at hhealthy
      cases hhealthy

/-- **A call of a ledger in service**, other than a recovery. -/
theorem ensures_serves (h : Serving l img v) {call : LedgerCall} (hr : call ≠ .recover) {faults : List Fault}
    {cut : Option (PowerCut Bytes)} :
    geometry.EnsuresUnder allowed img (call.run hub node l) (MovesDone (.call call faults cut) v)
      (MovesCut (.call call faults cut) v) := by
  cases call with
  | recover => exact absurd rfl hr
  | admitEvent event => exact ensures_admits h rfl fun _ _ => rfl
  | consume identity => exact ensures_consumes h rfl .consumed (fun _ _ => rfl) admitsNothing_consumed
  | handle requestId request role localDeviceId =>
    unfold LedgerCall.run
    dsimp only
    rcases handle_cases l requestId request role localDeviceId with ⟨result, hrun⟩ | ⟨-, identity, hid, hrun⟩
    · rw [hrun]
      exact ensures_pure.2 ⟨v, lives_of_serving h, .stays (admitsNothing_served result)⟩
    · rw [hrun, Prog.bind_assoc']
      have hid' : LedgerAction.consumes? (.call (.handle requestId request role localDeviceId) faults cut) =
        some identity := hid
      exact ensures_consumes h hid' (fun r => .served (consumeAnswer requestId request r.status)) (fun _ _ => rfl)
        fun _ => admitsNothing_served _

/-- **A recovery of a ledger that has started.** -/
theorem ensures_recovers (hr : Reports allowed) (h : Stored img v) {faults : List Fault}
    {cut : Option (PowerCut Bytes)} :
    geometry.EnsuresUnder allowed img (LedgerCall.run hub node l .recover)
      (MovesDone (.call .recover faults cut) v) (MovesCut (.call .recover faults cut) v) := by
  have hstays : ∀ {l' : Ledger} {status : Ledger.Status}, (l'.ledgerHealthy = true → Serving l' img v) →
      geometry.EnsuresUnder allowed img (pure (l', LedgerAnswer.recovered status))
        (MovesDone (.call .recover faults cut) v) (MovesCut (.call .recover faults cut) v) :=
    fun hserving => ensures_pure.2 ⟨v, ⟨h, hserving⟩, .stays (admitsNothing_recovered _)⟩
  by_cases hd : hub ≠ 0 ∧ node ≠ 0 ∧ hub ≠ node
  · refine ensures_bind (ensures_recover_stored_under hr hd h ⟨v, h, .stays admitsNothing_none⟩ ?_ ?_ ?_)
    · exact fun l' hres => hstays fun _ => hres.sound.serving
    · exact fun _ l' hserving => hstays fun _ => hserving
    · exact fun _ l' status hl _ => hstays fun hc => by rw [hl] at hc; cases hc
  · simp only [LedgerCall.run, recover_invalid hd, Prog.pure_bind']
    exact hstays fun hc => by cases hc

/-- The machine sleeps on, or it has started and owns nothing. -/
def Awakes (m : Hub.Machine) : Prop := Asleep m ∨ ∃ v, Lives m v ∧ v.Vacant

/-- **A recovery of a ledger that has never started.** -/
theorem ensures_awakes (hr : Reports allowed) (h : Unborn img) :
    geometry.EnsuresUnder allowed img (LedgerCall.run hub node l .recover)
      (fun r img' => Awakes ⟨r.1, img'⟩ ∧ AdmitsNothing (some r.2)) (fun img' => Awakes (.off img')) := by
  by_cases hd : hub ≠ 0 ∧ node ≠ 0 ∧ hub ≠ node
  · refine ensures_bind (ensures_mono ?_ ?_ (ensures_recover_unborn_under hr hd h))
    · rintro ⟨l', status⟩ img' ⟨hborn, hhealthy⟩
      refine ensures_pure.2 ⟨?_, admitsNothing_recovered status⟩
      cases hl : l'.ledgerHealthy with
      | false => exact Or.inl ⟨hborn, hl⟩
      | true =>
        obtain ⟨hvacant, hserving⟩ := hhealthy hl
        exact Or.inr ⟨_, lives_of_serving hserving, hvacant⟩
    · exact fun img' hborn => Or.inl ⟨hborn, rfl⟩
  · simp only [LedgerCall.run, recover_invalid hd, Prog.pure_bind']
    exact ensures_pure.2 ⟨Or.inl ⟨h, rfl⟩, admitsNothing_recovered _⟩

/-- A call ends as its program does. -/
theorem serve_call {m : Hub.Machine} {call : LedgerCall} {faults : List Fault} {cut : Option (PowerCut Bytes)}
    {Q : Hub.Machine → Option LedgerAnswer → Prop}
    (h : geometry.EnsuresUnder (· ∈ faults) m.image (call.run hub node m.ledger)
      (fun r img' => Q ⟨r.1, img'⟩ (some r.2)) fun img' => Q (.off img') none) :
    Q (serve hub node m (.call call faults cut)).1 (serve hub node m (.call call faults cut)).2 := by
  have hx := ensures_execFaulty h faults (fun f hf => hf) cut
  unfold serve
  dsimp only
  split at hx <;> rename_i heq <;> simp only [heq] <;> exact hx

/-- A call that does not turn to the storage leaves it alone. -/
theorem serve_of_pure {m : Hub.Machine} {call : LedgerCall} {answer : LedgerAnswer} (faults : List Fault)
    (cut : Option (PowerCut Bytes)) (h : call.run hub node m.ledger = pure (l, answer)) :
    serve hub node m (.call call faults cut) = (⟨l, m.image⟩, some answer) := by
  have hserved : (serve hub node m (.call call faults cut)).1 = ⟨l, m.image⟩ ∧
      (serve hub node m (.call call faults cut)).2 = some answer := by
    refine serve_call (Q := fun m' answer' => m' = ⟨l, m.image⟩ ∧ answer' = some answer) ?_
    rw [h]
    exact ensures_pure.2 ⟨rfl, rfl⟩
  exact Prod.ext hserved.1 hserved.2

/-- **A turn of a ledger that has started.** -/
theorem Lives.step {m : Hub.Machine} (h : Lives m v) (hr : a.Reports) :
    ∃ v', Lives (serve hub node m a).1 v' ∧ Moves a v (serve hub node m a).2 v' := by
  cases a with
  | powerLoss => exact ⟨v, lives_off h.stored, .stays admitsNothing_none⟩
  | call call faults cut =>
    refine serve_call (Q := fun m' answer => ∃ v', Lives m' v' ∧ Moves (.call call faults cut) v answer v') ?_
    refine ensures_mono (fun _ _ hdone => hdone) (fun img' hcut => ?_)
      (?_ : geometry.EnsuresUnder _ _ _ (MovesDone (.call call faults cut) v) (MovesCut (.call call faults cut) v))
    · obtain ⟨v', hst, hmoves⟩ := hcut
      exact ⟨v', lives_off hst, hmoves⟩
    by_cases hrec : call = .recover
    · subst hrec
      exact ensures_recovers hr h.stored
    · cases hl : m.ledger.ledgerHealthy with
      | true => exact ensures_serves (h.serving hl) hrec
      | false =>
        obtain ⟨answer, hrun, hanswer⟩ := LedgerCall.run_of_unhealthy hub node hl hrec
        rw [hrun]
        exact ensures_pure.2 ⟨v, h, .stays hanswer⟩

/-- **A turn of a ledger that has never started.** -/
theorem awakes_step {m : Hub.Machine} (h : Asleep m) (hr : a.Reports) :
    Awakes (serve hub node m a).1 ∧ AdmitsNothing (serve hub node m a).2 := by
  cases a with
  | powerLoss => exact ⟨Or.inl ⟨h.unborn, rfl⟩, admitsNothing_none⟩
  | call call faults cut =>
    refine serve_call (Q := fun m' answer => Awakes m' ∧ AdmitsNothing answer) ?_
    by_cases hrec : call = .recover
    · subst hrec
      exact ensures_mono (fun _ _ hdone => hdone) (fun img' hcut => ⟨hcut, admitsNothing_none⟩)
        (ensures_awakes hr h.unborn)
    · obtain ⟨answer, hrun, hanswer⟩ := LedgerCall.run_of_unhealthy hub node h.unhealthy hrec
      rw [hrun]
      exact ensures_pure.2 ⟨Or.inl h, hanswer⟩

end Calls

end Redline.Network
