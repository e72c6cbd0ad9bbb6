import Redline.Hub.CrashConsistency
import Redline.Hub.Custody
import Redline.Lib.Trace
import Redline.Network.LedgerTurns

/-!
# The order of admission

What the Host sees of the ledger over a whole run.  Ordinals grow from admission to admission; a poll returns the
ACTIVE record that was admitted earliest, and the same bytes until that record has been consumed; a request that is
repeated or refused changes nothing.

The history of a run is tied to the ledger by `Chronicled`: the admissions so far lie below the mark, in order, and
every record in the flash comes from one of them.  `Leads` is the record a poll returns; it leads until it is consumed.
-/

namespace Redline.Network

open Redline.Wire Redline.Records Redline.Lib Redline.Hub Redline.Host

/-! ### What a turn does -/

/-- The turn admits the record: the flash holds it ACTIVE, for the Event that was handed in, under an ordinal that no
record had. -/
structure LedgerTurn.Admits (t : LedgerTurn) (r : HubRecord) : Prop where
  held : HoldsRecord t.after.image r
  active : r.state = .active
  event : ∃ event, t.action.event? = some event ∧ r.identity = eventIdentity event
  fresh : ∀ r', HoldsRecord t.before.image r' → r'.Owned → r'.admissionOrdinal ≠ r.admissionOrdinal

/-- The turn consumes the record, as it was asked to. -/
structure LedgerTurn.Consumes (t : LedgerTurn) (r : HubRecord) : Prop where
  asked : t.action.consumes? = some r.identity
  held : HoldsRecord t.before.image r
  active : r.state = .active
  consumed : HoldsRecord t.after.image r.consume

/-- A POLL_EVENTS request to a ledger in service. -/
structure LedgerTurn.IsPoll (t : LedgerTurn) (requestId : UInt16) (request : OperationRequest) : Prop where
  serving : t.before.ledger.ledgerHealthy = true
  request : ∃ localDeviceId faults cut, t.action = .call (.handle requestId request .hub localDeviceId) faults cut ∧
    Polls request localDeviceId

/-- A CONSUME_EVENT request that the device accepts. -/
structure AsksToConsume (request : OperationRequest) (localDeviceId : UInt8) : Prop where
  category : request.category = OperationCategory.event
  operation : request.operation = OperationCode.consumeEvent
  target : request.targetDeviceId = localDeviceId
  valid : validateOperationRequest versionMinor02 request = .ok

/-- The consumption of an identity by a ledger in service, on its own or for the Host. -/
inductive LedgerTurn.IsConsume (t : LedgerTurn) (identity : Identity) : Prop
  | call {faults : List Fault} {cut : Option (PowerCut Bytes)} (hserving : t.before.ledger.ledgerHealthy = true)
      (haction : t.action = .call (.consume identity) faults cut)
  | request {requestId : UInt16} {request : OperationRequest} {localDeviceId : UInt8} {faults : List Fault}
      {cut : Option (PowerCut Bytes)} (hserving : t.before.ledger.ledgerHealthy = true)
      (haction : t.action = .call (.handle requestId request .hub localDeviceId) faults cut)
      (hasks : AsksToConsume request localDeviceId) (hidentity : consumedIdentity? request = some identity)

/-- The answer to a consumption that had been made before. -/
def LedgerAnswer.AlreadyConsumed : LedgerAnswer → Prop
  | .consumed result => result.status = .alreadyConsumed
  | .served result => result.response.resultClass = ResultClass.success ∧ result.response.resultCode = successOk
  | _ => False

/-- The admissions that are refused for what was handed in, and the consumptions of what is not there. -/
def LedgerAnswer.Refuses : LedgerAnswer → Prop
  | .admitted result => result.status ∈ [.capacity, .exactDuplicate, .identityContentMismatch, .unsupportedEvent,
      .malformedEvent, .routingRejected]
  | .consumed result => result.status = .notFound
  | .served result => result.response.resultClass = ResultClass.eventResult ∧
      result.response.resultCode = EventResultCode.notFound
  | .recovered _ => False

/-- The value in which a poll shows the record to the Host. -/
def Presents (value : Bytes) (r : HubRecord) : Prop :=
  ∃ event, EventService.convert r = some event ∧ encodeHostEventRecord event = .ok value ∧
    decodeHostEventRecord value = .ok event ∧ event.available = 1 ∧ contentOfHost event = contentOfHub r

/-- Of the ACTIVE records in the image, the one that was admitted earliest. -/
structure Foremost (past : List LedgerTurn) (img : Image) (r : HubRecord) : Prop where
  held : HoldsRecord img r
  active : r.state = .active
  earliest : ∀ r', HoldsRecord img r' → r'.state = .active → r' ≠ r →
    ∃ earlier t later, past = earlier ++ t :: later ∧ t.Admits r ∧ ∃ u ∈ later, u.Admits r'

/-- Whatever the one turn admits has a smaller ordinal than what the other one admits. -/
def LedgerTurn.Precedes (t u : LedgerTurn) : Prop :=
  ∀ r r', t.Admits r → u.Admits r' → r.admissionOrdinal < r'.admissionOrdinal

/-- **What the Host may rely on**, over all the turns of a run. -/
structure InAdmissionOrder (turns : List LedgerTurn) : Prop where
  increasing : turns.Pairwise LedgerTurn.Precedes
  single : ∀ t ∈ turns, ∀ r r', t.Admits r → t.Admits r' → r = r'
  nonzero : ∀ t ∈ turns, ∀ r, t.Admits r → r.admissionOrdinal ≠ 0
  reported : ∀ t ∈ turns, ∀ result, t.answer = some (.admitted result) → result.status = .durableNewAdmission →
    ∃ r, t.Admits r ∧ r.admissionOrdinal = result.admissionOrdinal
  /-- No ordinal is left: nothing is admitted. -/
  closed : ∀ t ∈ turns, ∀ event faults cut, t.action = .call (.admitEvent event) faults cut →
    t.before.ledger.nextOrdinal? = none → t.after.image = t.before.image ∧ AdmitsNothing t.answer
  origin : ∀ past t rest, turns = past ++ t :: rest → ∀ r, HoldsRecord t.after.image r → r.Owned →
    ∃ u ∈ past ++ [t], ∃ r₀, u.Admits r₀ ∧ SameEvent r₀ r
  mirrored : ∀ t ∈ turns, t.after.ledger.ledgerHealthy = true → SlotsMirror t.after.ledger t.after.image
  kept : ∀ t ∈ turns, ∀ r, HoldsRecord t.before.image r → r.state = .active →
    HoldsRecord t.after.image r ∨ t.Consumes r
  polls : ∀ past t rest, turns = past ++ t :: rest → ∀ requestId request, t.IsPoll requestId request →
    t.after = t.before ∧ ∃ value, t.answer = some (.served (polled requestId request value)) ∧
      ((∃ r, Foremost past t.before.image r ∧ Presents value r) ∨
        (∀ r, HoldsRecord t.before.image r → r.state ≠ .active) ∧ encodeHostEventRecord default = .ok value)
  repolls : ∀ past t between u rest, turns = past ++ t :: between ++ u :: rest →
    ∀ requestId request requestId' request', t.IsPoll requestId request → u.IsPoll requestId' request' →
      ∀ r, Foremost past t.before.image r →
        (∃ value, Presents value r ∧ t.answer = some (.served (polled requestId request value)) ∧
          u.answer = some (.served (polled requestId' request' value))) ∨ ∃ w ∈ between, w.Consumes r
  consumesAgain : ∀ t ∈ turns, ∀ identity r, t.IsConsume identity → HoldsRecord t.before.image r →
    r.state = .consumed → r.identity = identity →
      t.after = t.before ∧ ∃ answer, t.answer = some answer ∧ answer.AlreadyConsumed
  refused : ∀ t ∈ turns, ∀ answer, t.answer = some answer → answer.Refuses → t.after = t.before

/-! ### The records of one turn -/

section Turn

variable {t : LedgerTurn} {v v' : View} {r r' : HubRecord}

/-- **What a turn admits**: at most the record that its move puts in the flash. -/
theorem LedgerTurn.Admits.moved (h : t.Admits r) (hbefore : Stored t.before.image v) (hafter : Stored t.after.image v')
    (hmoves : Moves t.action v t.answer v') :
    ∃ slot event, v' = v.admitted slot event r.admissionOrdinal ∧ r = v'.records slot ∧
      v.mark ≤ r.admissionOrdinal.toNat := by
  -- a record that was there before is not admitted
  have hnew : ∀ i, v.records i = r → False := fun i hi =>
    h.fresh r ((holdsRecord_iff hbefore).2 ⟨i, hi⟩) (owned_of_active h.active) rfl
  obtain ⟨i, hi⟩ := (holdsRecord_iff hafter).1 h.held
  cases hmoves with
  | stays _ => exact absurd hi (hnew i)
  | @admitted slot event ordinal _ _ hmark _ =>
    by_cases his : i = slot
    · subst his
      have hordinal : r.admissionOrdinal = ordinal := by
        rw [← hi, View.admitted_records, Function.update_self]
        rfl
      exact ⟨i, event, by rw [hordinal], by rw [hi], by rw [hordinal]; exact hmark⟩
    · rw [View.admitted_records, Function.update_of_ne his] at hi
      exact absurd hi (hnew i)
  | @consumed slot _ _ _ =>
    by_cases his : i = slot
    · subst his
      rw [View.consumed_records, Function.update_self] at hi
      have hactive := h.active
      rw [← hi] at hactive
      cases hactive
    · rw [View.consumed_records, Function.update_of_ne his] at hi
      exact absurd hi (hnew i)

/-- The record that an admission puts in the flash is admitted. -/
theorem admits_of_admitted {slot : SlotIndex} {event : Event} {ordinal : UInt32} (hbefore : Stored t.before.image v)
    (hafter : Stored t.after.image (v.admitted slot event ordinal)) (hevent : t.action.event? = some event)
    (hmark : v.mark ≤ ordinal.toNat) : t.Admits ((v.admitted slot event ordinal).records slot) := by
  refine ⟨(holdsRecord_iff hafter).2 ⟨slot, rfl⟩, ?_, ⟨event, hevent, ?_⟩, fun r' hr' ho' he => ?_⟩
  · rw [View.admitted_records, Function.update_self]
    rfl
  · rw [View.admitted_records, Function.update_self]
    rfl
  · obtain ⟨i, rfl⟩ := (holdsRecord_iff hbefore).1 hr'
    rw [View.admitted_records, Function.update_self] at he
    have hbelow := hbefore.ok.below i ho'
    rw [show (v.records i).admissionOrdinal = ordinal from he] at hbelow
    omega

theorem LedgerTurn.Admits.unique (h : t.Admits r) (h' : t.Admits r') (hbefore : Stored t.before.image v)
    (hafter : Stored t.after.image v') (hmoves : Moves t.action v t.answer v') : r = r' := by
  obtain ⟨slot, event, hv, hr, -⟩ := h.moved hbefore hafter hmoves
  have hordinal : ∀ {x : HubRecord}, t.Admits x → x.admissionOrdinal.toNat + 1 = v'.mark := fun hx => by
    obtain ⟨slot', event', hv', -, -⟩ := hx.moved hbefore hafter hmoves
    rw [congrArg View.mark hv', View.admitted_mark]
  obtain ⟨slot', event', hv', hr', -⟩ := h'.moved hbefore hafter hmoves
  have hsame : r.admissionOrdinal = r'.admissionOrdinal := by
    have := hordinal h
    have := hordinal h'
    exact UInt32.toNat_inj.1 (by omega)
  have hslot : slot = slot' :=
    hafter.ok.ordinal slot slot' (by rw [← hr]; exact owned_of_active h.active)
      (by rw [← hr']; exact owned_of_active h'.active) (by rw [← hr, ← hr', hsame])
  rw [hr, hr', hslot]

/-- An ACTIVE record stays as it is, or it is consumed. -/
theorem kept_of_moves (hbefore : Stored t.before.image v) (hafter : Stored t.after.image v')
    (hmoves : Moves t.action v t.answer v') (hr : HoldsRecord t.before.image r) (hactive : r.state = .active) :
    HoldsRecord t.after.image r ∨ t.Consumes r := by
  obtain ⟨i, hi⟩ := (holdsRecord_iff hbefore).1 hr
  cases hmoves with
  | stays _ => exact Or.inl ((holdsRecord_iff hafter).2 ⟨i, hi⟩)
  | @admitted slot _ _ _ htarget _ _ =>
    have his : i ≠ slot := by
      rintro rfl
      exact htarget (by rw [hi]; exact hactive)
    exact Or.inl ((holdsRecord_iff hafter).2 ⟨i, by rw [View.admitted_records, Function.update_of_ne his, hi]⟩)
  | @consumed slot _ hidentity _ =>
    by_cases his : i = slot
    · subst his
      rw [hi] at hidentity
      refine Or.inr ⟨hidentity, hr, hactive, (holdsRecord_iff hafter).2 ⟨i, ?_⟩⟩
      rw [View.consumed_records, Function.update_self, hi]
    · exact Or.inl ((holdsRecord_iff hafter).2 ⟨i, by rw [View.consumed_records, Function.update_of_ne his, hi]⟩)

/-- An answer of a new admission names the ordinal of a record that has been admitted. -/
theorem reported_of_moves (hbefore : Stored t.before.image v) (hafter : Stored t.after.image v')
    (hmoves : Moves t.action v t.answer v') {result : AdmissionResult} (hanswer : t.answer = some (.admitted result))
    (hstatus : result.status = .durableNewAdmission) :
    ∃ r, t.Admits r ∧ r.admissionOrdinal = result.admissionOrdinal := by
  cases hmoves with
  | stays hnothing => exact absurd hstatus (hnothing result hanswer)
  | @admitted slot event ordinal hevent _ hmark hnames =>
    refine ⟨_, admits_of_admitted hbefore hafter hevent hmark, ?_⟩
    rw [hnames result hanswer hstatus, View.admitted_records, Function.update_self]
    rfl
  | consumed _ _ hnothing => exact absurd hstatus (hnothing result hanswer)

end Turn

/-! ### The history of a run -/

section History

variable {hub node : UInt8} {m : Hub.Machine} {t : LedgerTurn} {past rest turns : List LedgerTurn} {v v' : View}

theorem Lives.turn (h : Lives t.before v) (hs : t.Steps hub node) (hr : t.action.Reports) :
    ∃ v', Lives t.after v' ∧ Moves t.action v t.answer v' := by
  have hstep : ∃ v', Lives (serve hub node t.before t.action).1 v' ∧
      Moves t.action v (serve hub node t.before t.action).2 v' := h.step hr
  rw [hs] at hstep
  exact hstep

theorem awakes_turn (h : Asleep t.before) (hs : t.Steps hub node) (hr : t.action.Reports) :
    Awakes t.after ∧ AdmitsNothing t.answer := by
  have hstep : Awakes (serve hub node t.before t.action).1 ∧ AdmitsNothing (serve hub node t.before t.action).2 :=
    awakes_step h hr
  rw [hs] at hstep
  exact hstep

/-- A ledger that has never started, or that has just started, owns nothing. -/
theorem Awakes.not_owned (h : Awakes m) {r : HubRecord} (hr : HoldsRecord m.image r) : ¬ r.Owned := by
  rcases h with hasleep | ⟨v, hlives, hvacant⟩
  · exact hasleep.unborn.not_owned hr
  · exact hlives.stored.not_owned_of_vacant hvacant hr

/-- The records of the view come from the admissions of the turns, which lie below its mark. -/
structure Recorded (past : List LedgerTurn) (v : View) : Prop where
  below : ∀ t ∈ past, ∀ r, t.Admits r → r.admissionOrdinal.toNat < v.mark
  origin : ∀ i, (v.records i).Owned → ∃ t ∈ past, ∃ r, t.Admits r ∧ SameEvent r (v.records i) ∧
    ((v.records i).state = .active → r = v.records i)

/-- The ledger as the turns so far have left it. -/
structure Chronicled (past : List LedgerTurn) (m : Hub.Machine) : Prop where
  increasing : past.Pairwise LedgerTurn.Precedes
  single : ∀ t ∈ past, ∀ r r', t.Admits r → t.Admits r' → r = r'
  present : (Asleep m ∧ ∀ t ∈ past, ∀ r, ¬ t.Admits r) ∨ ∃ v, Lives m v ∧ Recorded past v

theorem Recorded.step (h : Recorded past v) (hbefore : Stored t.before.image v) (hafter : Stored t.after.image v')
    (hmoves : Moves t.action v t.answer v') : Recorded (past ++ [t]) v' := by
  have hgrows : v.mark ≤ v'.mark := by
    cases hmoves with
    | stays _ => exact le_refl _
    | admitted _ _ hmark _ => exact hmark.trans (Nat.le_succ _)
    | consumed _ _ _ => exact le_refl _
  refine ⟨forall_mem_concat (fun u hu r hr => (h.below u hu r hr).trans_le hgrows) fun r hr => ?_, fun i ho => ?_⟩
  · obtain ⟨slot, event, hv, -, -⟩ := hr.moved hbefore hafter hmoves
    rw [congrArg View.mark hv]
    exact Nat.lt_succ_self _
  · have hold : ∀ j, (v.records j).Owned → ∃ u ∈ past ++ [t], ∃ r, u.Admits r ∧ SameEvent r (v.records j) ∧
        ((v.records j).state = .active → r = v.records j) := fun j hj => by
      obtain ⟨u, hu, hr⟩ := h.origin j hj
      exact ⟨u, List.mem_append_left _ hu, hr⟩
    cases hmoves with
    | stays _ => exact hold i ho
    | @admitted slot event ordinal hevent _ hmark _ =>
      by_cases hi : i = slot
      · subst hi
        exact ⟨t, by simp, _, admits_of_admitted hbefore hafter hevent hmark, .refl _, fun _ => rfl⟩
      · rw [View.admitted_records, Function.update_of_ne hi] at ho ⊢
        exact hold i ho
    | @consumed slot hactive _ _ =>
      by_cases hi : i = slot
      · subst hi
        obtain ⟨u, hu, r, hr, hsame, -⟩ := hold i (owned_of_active hactive)
        rw [View.consumed_records, Function.update_self]
        exact ⟨u, hu, r, hr, hsame.trans (sameEvent_consume _), fun hc => by cases hc⟩
      · rw [View.consumed_records, Function.update_of_ne hi] at ho ⊢
        exact hold i ho

/-- What a turn admits comes after everything that has been admitted. -/
theorem Recorded.precedes (h : Recorded past v) (hbefore : Stored t.before.image v) (hafter : Stored t.after.image v')
    (hmoves : Moves t.action v t.answer v') : ∀ u ∈ past, u.Precedes t := by
  intro u hu r r' hr hr'
  obtain ⟨slot, event, -, -, hmark⟩ := hr'.moved hbefore hafter hmoves
  exact UInt32.lt_iff_toNat_lt.2 ((h.below u hu r hr).trans_le hmark)

/-- **Every turn keeps the history.** -/
theorem Chronicled.step (h : Chronicled past t.before) (hs : t.Steps hub node) (hr : t.action.Reports) :
    Chronicled (past ++ [t]) t.after := by
  rcases h.present with ⟨hasleep, hnone⟩ | ⟨v, hlives, hrecorded⟩
  · have hafter := (awakes_turn hasleep hs hr).1
    have hno : ∀ r, ¬ t.Admits r := fun r hadmits => hafter.not_owned hadmits.held (owned_of_active hadmits.active)
    have hnone' := forall_mem_concat hnone hno
    refine ⟨pairwise_concat h.increasing fun u _ r r' _ hr' => absurd hr' (hno r'),
      fun u hu r r' hadmits => absurd hadmits (hnone' u hu r), ?_⟩
    rcases hafter with hasleep' | ⟨v', hlives', hvacant⟩
    · exact Or.inl ⟨hasleep', hnone'⟩
    · exact Or.inr ⟨v', hlives', fun u hu r hadmits => absurd hadmits (hnone' u hu r),
        fun i ho => absurd (hvacant i) ho⟩
  · obtain ⟨v', hlives', hmoves⟩ := hlives.turn hs hr
    exact ⟨pairwise_concat h.increasing (hrecorded.precedes hlives.stored hlives'.stored hmoves),
      forall_mem_concat h.single fun r r' hadmits hadmits' =>
        hadmits.unique hadmits' hlives.stored hlives'.stored hmoves,
      Or.inr ⟨v', hlives', hrecorded.step hlives.stored hlives'.stored hmoves⟩⟩

/-- **The history of a run** of a ledger that had never started. -/
theorem chronicled_run (h : Asleep m) (hrun : (ledgerSystem hub node).IsRun m turns)
    (hr : ∀ t ∈ turns, t.action.Reports) : Chronicled turns ((ledgerSystem hub node).last m turns) := by
  refine hrun.history ⟨.nil, fun t ht => (by cases ht), Or.inl ⟨h, fun t ht => (by cases ht)⟩⟩ ?_
  rintro past t rest rfl hs hpast
  exact hpast.step hs (hr t (by simp))

/-- The history at a turn of the run. -/
theorem chronicled_before (h : Asleep m) (hrun : (ledgerSystem hub node).IsRun m (past ++ t :: rest))
    (hr : ∀ u ∈ past ++ t :: rest, u.action.Reports) :
    Chronicled past t.before ∧ t.Steps hub node ∧ t.action.Reports := by
  obtain ⟨hpast, hbefore, hs, -⟩ := System.isRun_append.1 hrun
  have hchronicled := chronicled_run h hpast fun u hu => hr u (List.mem_append_left _ hu)
  rw [← hbefore] at hchronicled
  exact ⟨hchronicled, hs, hr t (by simp)⟩

end History

/-! ### Polls -/

section Polls

variable {hub node : UInt8} {l : Ledger} {t u : LedgerTurn} {past rest turns : List LedgerTurn} {v v' : View}
  {r r' : HubRecord} {requestId : UInt16} {request : OperationRequest}

/-- The Host is shown every valid ACTIVE record. -/
theorem presents_of_valid (hactive : r.state = .active) (hvalid : validateHubRecord r = .ok ()) :
    ∃ value, Presents value r := by
  obtain ⟨event, hconvert, havailable, hevent, hsame⟩ := convert_of_valid hactive hvalid
  obtain ⟨value, hencoded⟩ : ∃ value, encodeHostEventRecord event = .ok value := by
    unfold encodeHostEventRecord
    rw [hevent]
    exact ⟨_, rfl⟩
  exact ⟨value, event, hconvert, hencoded, (decodeHostEventRecord_encode hencoded).2, havailable, hsame⟩

theorem Presents.unique {value value' : Bytes} (h : Presents value r) (h' : Presents value' r) : value = value' := by
  obtain ⟨event, hconvert, hencoded, -⟩ := h
  obtain ⟨event', hconvert', hencoded', -⟩ := h'
  cases hconvert.symm.trans hconvert'
  cases hencoded.symm.trans hencoded'
  rfl

theorem poll_of_some {slot : SlotIndex} {value : Bytes} (h : l.oldestActive = some (slot, r)) (hvalue : Presents value r) :
    EventService.poll l { makeBaseResult requestId request with disposition := .handled } =
      polled requestId request value := by
  obtain ⟨event, hconvert, hencoded, -⟩ := hvalue
  unfold EventService.poll
  rw [h]
  dsimp only
  rw [hconvert]
  dsimp only [EventService.pollResult]
  rw [hencoded]
  rfl

theorem poll_of_none (requestId : UInt16) (request : OperationRequest) (h : l.oldestActive = none) : ∃ value, encodeHostEventRecord default = .ok value ∧
    EventService.poll l { makeBaseResult requestId request with disposition := .handled } =
      polled requestId request value := by
  obtain ⟨value, hencoded⟩ : ∃ value, encodeHostEventRecord default = .ok value := ⟨_, rfl⟩
  refine ⟨value, hencoded, ?_⟩
  unfold EventService.poll
  rw [h]
  dsimp only [EventService.pollResult]
  rw [hencoded]
  rfl

/-- The record is the ACTIVE one of the least ordinal. -/
structure Leads (v : View) (r : HubRecord) : Prop where
  held : ∃ i, v.records i = r
  active : r.state = .active
  least : ∀ i, (v.records i).state = .active → r.admissionOrdinal ≤ (v.records i).admissionOrdinal

theorem Leads.unique (h : Leads v r) (h' : Leads v r') (hok : v.Ok) : r = r' := by
  obtain ⟨i, rfl⟩ := h.held
  obtain ⟨j, rfl⟩ := h'.held
  have hsame : (v.records i).admissionOrdinal = (v.records j).admissionOrdinal :=
    UInt32.le_antisymm (h.least j h'.active) (h'.least i h.active)
  rw [hok.ordinal i j (owned_of_active h.active) (owned_of_active h'.active) hsame]

/-- **A poll** of a ledger in service. -/
theorem poll_turn (h : Lives t.before v) (hs : t.Steps hub node) (hpoll : t.IsPoll requestId request) :
    t.after = t.before ∧ ∃ value, t.answer = some (.served (polled requestId request value)) ∧
      ((∃ r, Leads v r ∧ Presents value r) ∨
        (∀ i, (v.records i).state ≠ .active) ∧ encodeHostEventRecord default = .ok value) := by
  have hserving := h.serving hpoll.serving
  obtain ⟨localDeviceId, faults, cut, haction, hreq⟩ := hpoll.request
  have hanswers : ∀ {value : Bytes}, EventService.poll t.before.ledger
      { makeBaseResult requestId request with disposition := .handled } = polled requestId request value →
      t.after = t.before ∧ t.answer = some (.served (polled requestId request value)) := by
    intro value hvalue
    have hrun : LedgerCall.run hub node t.before.ledger (.handle requestId request .hub localDeviceId) =
        pure (t.before.ledger, .served (polled requestId request value)) := by
      unfold LedgerCall.run
      dsimp only
      rw [hreq.handle_eq hpoll.serving, Prog.pure_bind', hvalue]
    have hserve := serve_of_pure faults cut hrun
    rw [← haction, hs] at hserve
    exact ⟨congrArg Prod.fst hserve, congrArg Prod.snd hserve⟩
  cases hpolled : t.before.ledger.oldestActive with
  | none =>
    obtain ⟨value, hencoded, hvalue⟩ := poll_of_none requestId request hpolled
    obtain ⟨hafter, hanswer⟩ := hanswers hvalue
    refine ⟨hafter, value, hanswer, Or.inr ⟨fun i => ?_, hencoded⟩⟩
    rw [← hserving.records]
    exact oldestActive_none hpoll.serving hpolled i
  | some found =>
    obtain ⟨slot, held⟩ := found
    obtain ⟨-, hheld, hactive, hleast⟩ := oldestActive_some hpolled
    rw [hserving.records] at hheld hleast
    have hvalid : validateHubRecord held = .ok () := by
      rw [← hheld]
      exact (hserving.slot slot).valid
    obtain ⟨value, hvalue⟩ := presents_of_valid hactive hvalid
    obtain ⟨hafter, hanswer⟩ := hanswers (poll_of_some hpolled hvalue)
    exact ⟨hafter, value, hanswer, Or.inl ⟨held, ⟨⟨slot, hheld⟩, hactive, hleast⟩, hvalue⟩⟩

/-- A poll shows the record that leads. -/
theorem poll_turn_of_leads (h : Lives t.before v) (hs : t.Steps hub node) (hpoll : t.IsPoll requestId request)
    (hleads : Leads v r) : t.after = t.before ∧
      ∃ value, t.answer = some (.served (polled requestId request value)) ∧ Presents value r := by
  obtain ⟨hafter, value, hanswer, ⟨r', hleads', hvalue⟩ | ⟨hnone, -⟩⟩ := poll_turn h hs hpoll
  · rw [hleads.unique hleads' h.stored.ok]
    exact ⟨hafter, value, hanswer, hvalue⟩
  · obtain ⟨i, hi⟩ := hleads.held
    exact absurd (by rw [hi]; exact hleads.active) (hnone i)

/-- The record that leads was admitted before every other one. -/
theorem Chronicled.foremost (h : Chronicled past t.before) (hrecorded : Recorded past v)
    (hstored : Stored t.before.image v) (hleads : Leads v r) : Foremost past t.before.image r := by
  obtain ⟨i, hi⟩ := hleads.held
  refine ⟨(holdsRecord_iff hstored).2 ⟨i, hi⟩, hleads.active, fun r' hr' hactive hne => ?_⟩
  obtain ⟨j, hj⟩ := (holdsRecord_iff hstored).1 hr'
  have hadmitted : ∀ {x : HubRecord} {k : SlotIndex}, v.records k = x → x.state = .active →
      ∃ u ∈ past, u.Admits x := by
    rintro x k rfl hx
    obtain ⟨u, hu, x', hx', -, hsame⟩ := hrecorded.origin k (owned_of_active hx)
    rw [hsame hx] at hx'
    exact ⟨u, hu, hx'⟩
  obtain ⟨first, hfirst, hadmits⟩ := hadmitted hi hleads.active
  obtain ⟨second, hsecond, hadmits'⟩ := hadmitted hj hactive
  have hle : r.admissionOrdinal ≤ r'.admissionOrdinal := by
    rw [← hj] at hactive ⊢
    exact hleads.least j hactive
  have hlater : ∃ earlier later, past = earlier ++ first :: later ∧ second ∈ later := by
    refine mem_later_of_pairwise h.increasing hfirst hsecond ?_ ?_
    · rintro rfl
      exact hne (h.single second hsecond r' r hadmits' hadmits)
    · exact fun hprecedes => absurd (hprecedes r' r hadmits' hadmits) (UInt32.not_lt.2 hle)
  obtain ⟨earlier, later, heq, hmem⟩ := hlater
  exact ⟨earlier, first, later, heq, hadmits, second, hmem, hadmits'⟩

/-- The record that was admitted earliest leads. -/
theorem Foremost.leads (h : Foremost past t.before.image r) (hchronicled : Chronicled past t.before)
    (hstored : Stored t.before.image v) : Leads v r := by
  obtain ⟨i, hi⟩ := (holdsRecord_iff hstored).1 h.held
  refine ⟨⟨i, hi⟩, h.active, fun j hj => ?_⟩
  by_cases hsame : v.records j = r
  · rw [hsame]
    exact UInt32.le_refl _
  · obtain ⟨earlier, first, later, rfl, hadmits, second, hmem, hadmits'⟩ :=
      h.earliest _ ((holdsRecord_iff hstored).2 ⟨j, rfl⟩) hj hsame
    have hprecedes : first.Precedes second :=
      (List.pairwise_cons.1 (List.pairwise_append.1 hchronicled.increasing).2.1).1 second hmem
    exact UInt32.le_of_lt (hprecedes r (v.records j) hadmits hadmits')

/-- A record that leads goes on leading, or it is consumed. -/
theorem Leads.step (h : Leads v r) (hbefore : Stored t.before.image v) (hafter : Stored t.after.image v')
    (hmoves : Moves t.action v t.answer v') (hno : ¬ t.Consumes r) : Leads v' r := by
  obtain ⟨i, hi⟩ := h.held
  have hheld : HoldsRecord t.after.image r :=
    (kept_of_moves hbefore hafter hmoves ((holdsRecord_iff hbefore).2 ⟨i, hi⟩) h.active).resolve_right hno
  refine ⟨(holdsRecord_iff hafter).1 hheld, h.active, fun j hj => ?_⟩
  cases hmoves with
  | stays _ => exact h.least j hj
  | @admitted slot event ordinal _ _ hmark _ =>
    by_cases hjs : j = slot
    · subst hjs
      have hbelow := hbefore.ok.below i (by rw [hi]; exact owned_of_active h.active)
      rw [hi] at hbelow
      rw [View.admitted_records, Function.update_self]
      exact UInt32.le_iff_toNat_le.2 (hbelow.le.trans hmark)
    · rw [View.admitted_records, Function.update_of_ne hjs] at hj ⊢
      exact h.least j hj
  | @consumed slot _ _ _ =>
    by_cases hjs : j = slot
    · subst hjs
      rw [View.consumed_records, Function.update_self] at hj
      cases hj
    · rw [View.consumed_records, Function.update_of_ne hjs] at hj ⊢
      exact h.least j hj

end Polls

/-! ### Requests that change nothing -/

section Requests

variable {hub node : UInt8} {l : Ledger} {m : Hub.Machine} {t : LedgerTurn} {v : View} {r : HubRecord}

/-- An admission stops at once, or it goes to the storage for an ordinal. -/
theorem admitEvent_returns {event : Event} {ops : List StorageOp} {out : Ledger × AdmissionResult}
    (h : Prog.Returns (fun _ _ => True) (l.admitEvent event) ops out) :
    l.admitEvent event = pure (l, out.2) ∨ out.2.status = .storageFailure ∨ out.2.status = .durableNewAdmission := by
  unfold Ledger.admitEvent at h ⊢
  split at h
  · rename_i hunhealthy
    rw [if_pos hunhealthy, (Prog.returns_pure.1 h).2]
    exact Or.inl rfl
  rename_i hhealthy
  rw [if_neg hhealthy]
  split at h
  · rename_i hinvalid
    rw [if_pos hinvalid, (Prog.returns_pure.1 h).2]
    exact Or.inl rfl
  rename_i hvalid
  rw [if_neg hvalid]
  split at h
  · rw [(Prog.returns_pure.1 h).2]
    exact Or.inl rfl
  split at h
  · rw [(Prog.returns_pure.1 h).2]
    exact Or.inl rfl
  refine Or.inr ?_
  obtain ⟨⟨l', ordinal⟩, -, ops₂, -, hret, -⟩ := Prog.returns_bind h
  cases ordinal with
  | none => exact Or.inl (by rw [(Prog.returns_pure.1 hret).2])
  | some ordinal =>
    obtain ⟨⟨l'', committed⟩, -, ops₃, -, hret, -⟩ := Prog.returns_bind hret
    dsimp only at hret
    split at hret
    · exact Or.inl (by rw [(Prog.returns_pure.1 hret).2])
    · exact Or.inr (by rw [(Prog.returns_pure.1 hret).2])

/-- A consumption stops at once, or it goes to the storage to commit. -/
theorem consume_returns {identity : Identity} {ops : List StorageOp} {out : Ledger × ConsumeResult}
    (h : Prog.Returns (fun _ _ => True) (l.consume identity) ops out) :
    l.consume identity = pure (l, out.2) ∨ out.2.status = .consumed ∨ out.2.status = .storageFailure := by
  unfold Ledger.consume at h ⊢
  split at h
  · rename_i hunhealthy
    rw [if_pos hunhealthy, (Prog.returns_pure.1 h).2]
    exact Or.inl rfl
  rename_i hhealthy
  rw [if_neg hhealthy]
  split at h
  · rw [(Prog.returns_pure.1 h).2]
    exact Or.inl rfl
  dsimp only at h ⊢
  split at h
  · rename_i hconsumed
    rw [if_pos hconsumed, (Prog.returns_pure.1 h).2]
    exact Or.inl rfl
  refine Or.inr ?_
  obtain ⟨⟨l', committed⟩, -, ops₂, -, hret, -⟩ := Prog.returns_bind h
  dsimp only at hret
  split at hret
  · exact Or.inl (by rw [(Prog.returns_pure.1 hret).2])
  · exact Or.inr (by rw [(Prog.returns_pure.1 hret).2])

/-- A call that refuses what was asked never turns to the storage. -/
theorem LedgerCall.run_of_refuses {call : LedgerCall} {ops : List StorageOp} {out : Ledger × LedgerAnswer}
    (h : Prog.Returns (fun _ _ => True) (call.run hub node l) ops out) (hrefuses : out.2.Refuses) :
    call.run hub node l = pure (l, out.2) := by
  cases call with
  | recover =>
    obtain ⟨⟨l', status⟩, -, ops₂, -, hret, -⟩ := Prog.returns_bind h
    rw [(Prog.returns_pure.1 hret).2] at hrefuses
    cases hrefuses
  | admitEvent event =>
    obtain ⟨⟨l', result⟩, ops₁, ops₂, hadmit, hret, -⟩ := Prog.returns_bind h
    rw [(Prog.returns_pure.1 hret).2] at hrefuses ⊢
    rcases admitEvent_returns hadmit with hpure | hstatus | hstatus
    · unfold LedgerCall.run
      dsimp only
      rw [hpure, Prog.pure_bind']
    all_goals
      have hmem : result.status ∈ _ := hrefuses
      rw [show result.status = _ from hstatus] at hmem
      simp at hmem
  | consume identity =>
    obtain ⟨⟨l', result⟩, ops₁, ops₂, hconsume, hret, -⟩ := Prog.returns_bind h
    rw [(Prog.returns_pure.1 hret).2] at hrefuses ⊢
    rcases consume_returns hconsume with hpure | hstatus | hstatus
    · unfold LedgerCall.run
      dsimp only
      rw [hpure, Prog.pure_bind']
    all_goals
      have hnotFound : result.status = .notFound := hrefuses
      rw [show result.status = _ from hstatus] at hnotFound
      cases hnotFound
  | handle requestId request role localDeviceId =>
    obtain ⟨⟨l', result⟩, ops₁, ops₂, hhandle, hret, -⟩ := Prog.returns_bind h
    rw [(Prog.returns_pure.1 hret).2] at hrefuses ⊢
    unfold LedgerCall.run
    dsimp only at hhandle ⊢
    rcases handle_cases l requestId request role localDeviceId with ⟨answer, hrun⟩ | ⟨-, identity, -, hrun⟩
    · rw [hrun] at hhandle ⊢
      cases (Prog.returns_pure.1 hhandle).2
      rw [Prog.pure_bind']
    · rw [hrun] at hhandle ⊢
      obtain ⟨⟨l'', consumed⟩, ops₃, ops₄, hconsume, hret', -⟩ := Prog.returns_bind hhandle
      have hanswer : result = consumeAnswer requestId request consumed.status :=
        congrArg Prod.snd (Prog.returns_pure.1 hret').2
      rw [hanswer] at hrefuses
      obtain ⟨hclass, hcode⟩ := hrefuses
      rcases consume_returns hconsume with hpure | hstatus | hstatus
      · rw [hpure, Prog.pure_bind', Prog.pure_bind', hanswer]
      · rw [show consumed.status = .consumed from hstatus] at hclass
        cases hclass
      · rw [show consumed.status = .storageFailure from hstatus] at hcode
        cases hcode

/-- **What is refused changes nothing.** -/
theorem refused_turn (hs : t.Steps hub node) {answer : LedgerAnswer} (hanswer : t.answer = some answer)
    (hrefuses : answer.Refuses) : t.after = t.before := by
  cases haction : t.action with
  | powerLoss =>
    unfold LedgerTurn.Steps at hs
    rw [haction] at hs
    have hnone : none = t.answer := congrArg Prod.snd hs
    rw [hanswer] at hnone
    cases hnone
  | call call faults cut =>
    unfold LedgerTurn.Steps at hs
    rw [haction] at hs
    have hexec : ∃ l', (geometry.execFaulty (call.run hub node t.before.ledger) faults cut t.before.image).1 =
        some (l', answer) := by
      have hserved : (serve hub node t.before (.call call faults cut)).2 = some answer := by rw [hs, hanswer]
      unfold serve at hserved
      dsimp only at hserved
      split at hserved
      · rename_i l' answer' img' heq
        cases hserved
        exact ⟨l', by rw [heq]⟩
      · cases hserved
    obtain ⟨l', hexec⟩ := hexec
    obtain ⟨ops, hreturns⟩ := returns_execFaulty hexec
    rw [serve_of_pure faults cut (LedgerCall.run_of_refuses hreturns hrefuses)] at hs
    exact (congrArg Prod.fst hs).symm

/-- A consumption for the Host is one of the ledger. -/
theorem AsksToConsume.handle_eq {requestId : UInt16} {request : OperationRequest} {localDeviceId : UInt8}
    {identity : Identity} (h : AsksToConsume request localDeviceId) (hhealthy : l.ledgerHealthy = true)
    (hidentity : consumedIdentity? request = some identity) :
    EventService.handle l requestId request .hub localDeviceId =
      l.consume identity >>= fun r => pure (r.1, consumeAnswer requestId request r.2.status) := by
  unfold EventService.handle
  rw [if_neg (not_not.2 h.category), if_neg (by simp), if_neg (not_not.2 h.target), if_neg (not_not.2 h.valid)]
  dsimp only
  rw [if_neg (by simp [hhealthy]), if_neg (by rw [h.operation]; decide), if_pos h.operation,
    consume_of_identity l requestId hidentity]

/-- The second consumption of a record finds its tombstone. -/
theorem consume_of_consumed {identity : Identity} {img : Image} (h : Serving l img v) (hr : HoldsRecord img r)
    (hconsumed : r.state = .consumed) (hidentity : r.identity = identity) :
    ∃ slot, l.consume identity = pure (l, ⟨.alreadyConsumed, some slot⟩) := by
  obtain ⟨i, hi⟩ := (holdsRecord_iff h.stored).1 hr
  have hrecord : (l.slots i).record = r := by rw [h.record, hi]
  have howned : (v.records i).Owned := by
    rw [hi]
    exact owned_of_consumed hconsumed
  have hfind : l.find identity = some i := by
    unfold Ledger.find
    rw [if_neg (by simp [h.healthy])]
    cases hfound : (List.finRange 8).find? fun slot =>
        Ledger.isOwned (l.slots slot).record && Ledger.hasIdentity (l.slots slot).record identity with
    | none =>
      have hno := List.find?_eq_none.1 hfound i (List.mem_finRange i)
      rw [hrecord] at hno
      rw [hi] at howned
      exact absurd (Bool.and_eq_true_iff.2 ⟨isOwned_iff.2 howned, hasIdentity_iff.2 hidentity⟩) hno
    | some j =>
      have hj := List.find?_some hfound
      rw [Bool.and_eq_true, h.record] at hj
      rw [h.stored.ok.identity j i (isOwned_iff.1 hj.1) howned
        ((hasIdentity_iff.1 hj.2).trans (by rw [hi, hidentity]))]
  refine ⟨i, ?_⟩
  unfold Ledger.consume
  rw [if_neg (by simp [h.healthy]), hfind]
  dsimp only
  rw [hrecord, if_pos hconsumed]

/-- **What has been consumed is consumed again** without a change. -/
theorem consumesAgain_turn (h : Lives t.before v) (hs : t.Steps hub node) {identity : Identity}
    (hconsume : t.IsConsume identity) (hr : HoldsRecord t.before.image r) (hconsumed : r.state = .consumed)
    (hidentity : r.identity = identity) :
    t.after = t.before ∧ ∃ answer, t.answer = some answer ∧ answer.AlreadyConsumed := by
  have hanswers : ∀ (answer : LedgerAnswer) {call : LedgerCall} {faults : List Fault} {cut : Option (PowerCut Bytes)},
      t.action = .call call faults cut → call.run hub node t.before.ledger = pure (t.before.ledger, answer) →
      t.after = t.before ∧ t.answer = some answer := by
    intro answer call faults cut haction hrun
    have hserve := serve_of_pure faults cut hrun
    rw [← haction, hs] at hserve
    exact ⟨congrArg Prod.fst hserve, congrArg Prod.snd hserve⟩
  cases hconsume with
  | call hserving haction =>
    obtain ⟨slot, hagain⟩ := consume_of_consumed (h.serving hserving) hr hconsumed hidentity
    obtain ⟨hafter, hanswer⟩ := hanswers (.consumed ⟨.alreadyConsumed, some slot⟩) haction (by
      unfold LedgerCall.run
      dsimp only
      rw [hagain, Prog.pure_bind'])
    exact ⟨hafter, _, hanswer, rfl⟩
  | @request requestId request localDeviceId _ _ hserving haction hasks hdecodes =>
    obtain ⟨slot, hagain⟩ := consume_of_consumed (h.serving hserving) hr hconsumed hidentity
    obtain ⟨hafter, hanswer⟩ := hanswers (.served (consumeAnswer requestId request .alreadyConsumed)) haction (by
      unfold LedgerCall.run
      dsimp only
      rw [hasks.handle_eq hserving hdecodes, hagain, Prog.pure_bind', Prog.pure_bind'])
    exact ⟨hafter, _, hanswer, rfl, rfl⟩

/-- An admission without an ordinal left stops before it has written anything. -/
theorem admitEvent_of_exhausted (h : l.nextOrdinal? = none) (event : Event) :
    ∃ l' result, l.admitEvent event = pure (l', result) ∧ result.status ≠ .durableNewAdmission := by
  have hallocate : ∃ l', l.allocateOrdinal = pure (l', none) := by
    unfold Ledger.nextOrdinal? at h
    unfold Ledger.allocateOrdinal
    split at h
    · rename_i hready
      rw [if_neg (by simp [hready])]
      split at h
      · rename_i hend
        rw [if_pos hend]
        split at h
        · rename_i hover
          exact ⟨_, if_pos hover⟩
        · cases h
      · cases h
    · rename_i hready
      exact ⟨l, if_pos (by simpa using hready)⟩
  obtain ⟨l', hallocate⟩ := hallocate
  unfold Ledger.admitEvent
  split
  · exact ⟨_, _, rfl, by simp⟩
  split
  · rename_i hinvalid
    exact ⟨_, _, rfl, hinvalid⟩
  split
  · refine ⟨_, _, rfl, ?_⟩
    dsimp only
    split <;> simp
  split
  · exact ⟨_, _, rfl, by simp⟩
  · rw [hallocate]
    exact ⟨_, _, rfl, by simp⟩

/-- **Without an ordinal left nothing is admitted.** -/
theorem closed_turn (hs : t.Steps hub node) {event : Event} {faults : List Fault} {cut : Option (PowerCut Bytes)}
    (haction : t.action = .call (.admitEvent event) faults cut) (h : t.before.ledger.nextOrdinal? = none) :
    t.after.image = t.before.image ∧ AdmitsNothing t.answer := by
  obtain ⟨l', result, hrun, hstatus⟩ := admitEvent_of_exhausted h event
  have hcall : LedgerCall.run hub node t.before.ledger (.admitEvent event) = pure (l', .admitted result) := by
    unfold LedgerCall.run
    dsimp only
    rw [hrun, Prog.pure_bind']
  have hserve := serve_of_pure faults cut hcall
  rw [← haction, hs] at hserve
  have hanswer : t.answer = some (.admitted result) := congrArg Prod.snd hserve
  refine ⟨congrArg (fun served => served.1.image) hserve, fun result' hresult' => ?_⟩
  rw [hanswer] at hresult'
  cases hresult'
  exact hstatus

end Requests

/-! ### Every run -/

section Run

variable {hub node : UInt8} {m : Hub.Machine} {turns : List LedgerTurn}

/-- A record that leads still does after turns that do not consume it. -/
theorem leads_between {t u : LedgerTurn} {past between rest : List LedgerTurn} {v : View} {r : HubRecord}
    (hrun : (ledgerSystem hub node).IsRun m (past ++ t :: between ++ u :: rest))
    (hr : ∀ w ∈ past ++ t :: between ++ u :: rest, w.action.Reports) (hlives : Lives t.after v) (hleads : Leads v r)
    (hno : ∀ w ∈ between, ¬ w.Consumes r) : ∃ v', Lives u.before v' ∧ Leads v' r := by
  refine hrun.between (I := fun m' => ∃ v', Lives m' v' ∧ Leads v' r) ⟨v, hlives, hleads⟩ ?_
  rintro w hw hs ⟨v', hlives', hleads'⟩
  obtain ⟨v'', hlives'', hmoves⟩ := hlives'.turn hs (hr w (by simp [hw]))
  exact ⟨v'', hlives'', hleads'.step hlives'.stored hlives''.stored hmoves (hno w hw)⟩

/-- **A second poll** shows the same bytes as the first, unless the record has been consumed in between. -/
theorem repolls_run {t u : LedgerTurn} {past between rest : List LedgerTurn} {requestId requestId' : UInt16}
    {request request' : OperationRequest} {r : HubRecord} (h : Asleep m)
    (hrun : (ledgerSystem hub node).IsRun m (past ++ t :: between ++ u :: rest))
    (hr : ∀ w ∈ past ++ t :: between ++ u :: rest, w.action.Reports) (hpoll : t.IsPoll requestId request)
    (hpoll' : u.IsPoll requestId' request') (hforemost : Foremost past t.before.image r) :
    (∃ value, Presents value r ∧ t.answer = some (.served (polled requestId request value)) ∧
      u.answer = some (.served (polled requestId' request' value))) ∨ ∃ w ∈ between, w.Consumes r := by
  by_cases hconsumed : ∃ w ∈ between, w.Consumes r
  · exact Or.inr hconsumed
  have hsplit : past ++ t :: between ++ u :: rest = past ++ t :: (between ++ u :: rest) := by simp
  obtain ⟨hchronicled, hs, -⟩ := chronicled_before h (hsplit ▸ hrun) (hsplit ▸ hr)
  rcases hchronicled.present with ⟨hasleep, -⟩ | ⟨v, hlives, -⟩
  · exact absurd (owned_of_active hforemost.active) (hasleep.unborn.not_owned hforemost.held)
  have hleads := hforemost.leads hchronicled hlives.stored
  -- the first poll leaves the ledger as it is, and the record leads up to the second one
  obtain ⟨hafter, value, hanswer, hvalue⟩ := poll_turn_of_leads hlives hs hpoll hleads
  obtain ⟨v', hlives', hleads'⟩ := leads_between hrun hr (by rw [hafter]; exact hlives) hleads
    fun w hw hc => hconsumed ⟨w, hw, hc⟩
  obtain ⟨-, value', hanswer', hvalue'⟩ := poll_turn_of_leads hlives' (hrun.steps (by simp)) hpoll' hleads'
  rw [hvalue'.unique hvalue] at hanswer'
  exact Or.inl ⟨value, hvalue, hanswer, hanswer'⟩

/-- **The Host sees Events in the order of their admission**, over every run of a ledger that had never started, if
recoveries are told which reads have failed. -/
theorem admission_order (h : Asleep m) (hrun : (ledgerSystem hub node).IsRun m turns)
    (hr : ∀ t ∈ turns, t.action.Reports) : InAdmissionOrder turns := by
  have hfinal := chronicled_run h hrun hr
  have hat : ∀ past t rest, turns = past ++ t :: rest →
      Chronicled past t.before ∧ t.Steps hub node ∧ t.action.Reports := by
    rintro past t rest rfl
    exact chronicled_before h hrun hr
  have hmem : ∀ t ∈ turns, (Asleep t.before ∧ Awakes t.after ∧ AdmitsNothing t.answer) ∨
      ∃ v v', Lives t.before v ∧ Lives t.after v' ∧ Moves t.action v t.answer v' := by
    intro t ht
    obtain ⟨past, rest, rfl⟩ := List.append_of_mem ht
    obtain ⟨hchronicled, hs, hreports⟩ := hat past t rest rfl
    rcases hchronicled.present with ⟨hasleep, -⟩ | ⟨v, hlives, -⟩
    · exact Or.inl ⟨hasleep, awakes_turn hasleep hs hreports⟩
    · obtain ⟨v', hlives', hmoves⟩ := hlives.turn hs hreports
      exact Or.inr ⟨v, v', hlives, hlives', hmoves⟩
  constructor
  case increasing => exact hfinal.increasing
  case single => exact hfinal.single
  case nonzero =>
    intro t _ r hadmits
    exact ((validateHubRecord_owned (owned_of_active hadmits.active)).1 hadmits.held.valid).1
  case reported =>
    intro t ht result hanswer hstatus
    rcases hmem t ht with ⟨-, -, hnothing⟩ | ⟨v, v', hlives, hlives', hmoves⟩
    · exact absurd hstatus (hnothing result hanswer)
    · exact reported_of_moves hlives.stored hlives'.stored hmoves hanswer hstatus
  case closed =>
    intro t ht event faults cut haction hnone
    exact closed_turn (hrun.steps ht) haction hnone
  case origin =>
    rintro past t rest rfl r hheld howned
    obtain ⟨hchronicled, hs, hreports⟩ := hat past t rest rfl
    rcases (hchronicled.step hs hreports).present with ⟨hasleep, -⟩ | ⟨v, hlives, hrecorded⟩
    · exact absurd howned (hasleep.unborn.not_owned hheld)
    · obtain ⟨i, rfl⟩ := (holdsRecord_iff hlives.stored).1 hheld
      obtain ⟨u, hu, r₀, hadmits, hsame, -⟩ := hrecorded.origin i howned
      exact ⟨u, hu, r₀, hadmits, hsame⟩
  case mirrored =>
    intro t ht hhealthy
    rcases hmem t ht with ⟨-, hasleep | ⟨v, hlives, -⟩, -⟩ | ⟨v, v', -, hlives, -⟩
    · rw [hasleep.unhealthy] at hhealthy
      cases hhealthy
    · exact (hlives.serving hhealthy).slots
    · exact (hlives.serving hhealthy).slots
  case kept =>
    intro t ht r hheld hactive
    rcases hmem t ht with ⟨hasleep, -⟩ | ⟨v, v', hlives, hlives', hmoves⟩
    · exact absurd (owned_of_active hactive) (hasleep.unborn.not_owned hheld)
    · exact kept_of_moves hlives.stored hlives'.stored hmoves hheld hactive
  case polls =>
    rintro past t rest rfl requestId request hpoll
    obtain ⟨hchronicled, hs, -⟩ := hat past t rest rfl
    rcases hchronicled.present with ⟨hasleep, -⟩ | ⟨v, hlives, hrecorded⟩
    · have hhealthy := hpoll.serving
      rw [hasleep.unhealthy] at hhealthy
      cases hhealthy
    · obtain ⟨hafter, value, hanswer, ⟨r, hleads, hvalue⟩ | ⟨hnone, hencoded⟩⟩ := poll_turn hlives hs hpoll
      · exact ⟨hafter, value, hanswer, Or.inl ⟨r, hchronicled.foremost hrecorded hlives.stored hleads, hvalue⟩⟩
      · refine ⟨hafter, value, hanswer, Or.inr ⟨fun r hheld => ?_, hencoded⟩⟩
        obtain ⟨i, rfl⟩ := (holdsRecord_iff hlives.stored).1 hheld
        exact hnone i
  case repolls =>
    rintro past t between u rest rfl requestId request requestId' request' hpoll hpoll' r hforemost
    exact repolls_run h hrun hr hpoll hpoll' hforemost
  case consumesAgain =>
    intro t ht identity r hconsume hheld hconsumed hidentity
    rcases hmem t ht with ⟨hasleep, -⟩ | ⟨v, v', hlives, -, -⟩
    · exact absurd (owned_of_consumed hconsumed) (hasleep.unborn.not_owned hheld)
    · exact consumesAgain_turn hlives (hrun.steps ht) hconsume hheld hconsumed hidentity
  case refused =>
    intro t ht answer hanswer hrefuses
    exact refused_turn (hrun.steps ht) hanswer hrefuses

/-- The turns of the actions, one after the other. -/
def serveAll (hub node : UInt8) (m : Hub.Machine) : List LedgerAction → List LedgerTurn
  | [] => []
  | a :: actions =>
    ⟨m, a, (serve hub node m a).2, (serve hub node m a).1⟩ :: serveAll hub node (serve hub node m a).1 actions

theorem isRun_serveAll (m : Hub.Machine) (actions : List LedgerAction) :
    (ledgerSystem hub node).IsRun m (serveAll hub node m actions) := by
  induction actions generalizing m with
  | nil => trivial
  | cons a actions ih => exact ⟨rfl, rfl, ih _⟩

theorem action_mem_of_serveAll {m : Hub.Machine} {actions : List LedgerAction} {t : LedgerTurn}
    (h : t ∈ serveAll hub node m actions) : t.action ∈ actions := by
  induction actions generalizing m with
  | nil => cases h
  | cons a actions ih =>
    rcases List.mem_cons.1 h with rfl | h
    · exact List.mem_cons_self
    · exact List.mem_cons_of_mem _ (ih h)

/-- The ordinal that the answer names for a new admission. -/
def LedgerTurn.ordinal? (t : LedgerTurn) : Option UInt32 :=
  match t.answer with
  | some (.admitted result) => if result.status = .durableNewAdmission then some result.admissionOrdinal else none
  | _ => none

theorem InAdmissionOrder.admits (h : InAdmissionOrder turns) {t : LedgerTurn} (ht : t ∈ turns) {ordinal : UInt32}
    (ho : t.ordinal? = some ordinal) : ∃ r, t.Admits r ∧ r.admissionOrdinal = ordinal := by
  unfold LedgerTurn.ordinal? at ho
  split at ho
  · rename_i result hanswer
    split at ho
    · rename_i hstatus
      cases ho
      exact h.reported t ht result hanswer hstatus
    · cases ho
  · cases ho

/-- A life with a loss of power, a recovery that cannot read the ordinals, and a consumption. -/
def restarted : List LedgerAction :=
  [.call .recover [] none, .call (.admitEvent (buttonEvent 1)) [] none, .powerLoss,
    .call .recover (List.replicate 16 .none ++ [.read .unavailable]) none, .call .recover [] none,
    .call (.consume ⟨2, 5, 1⟩) [] none, .call (.admitEvent (buttonEvent 2)) [] none]

theorem admission_order_restarted :
    (serveAll 1 2 (.off blankImage) restarted).map LedgerTurn.ordinal? =
      [none, some 1, none, none, none, none, some 33] ∧ InAdmissionOrder (serveAll 1 2 (.off blankImage) restarted) := by
  refine ⟨by decide +kernel, admission_order ⟨unborn_blankImage, rfl⟩ (isRun_serveAll _ _) fun t ht => ?_⟩
  have hreports : ∀ a ∈ restarted, a.Reports := by
    simp [restarted, LedgerAction.Reports, Records.Reports]
  exact hreports _ (action_mem_of_serveAll ht)

/-- A recovery that is told of an error where the newer metadata was. -/
def misread : List LedgerAction :=
  [.call .recover [] none, .call (.admitEvent (buttonEvent 1)) [] none,
    .call .recover (List.replicate 17 .none ++ [.read .error]) none, .call (.admitEvent (buttonEvent 2)) [] none]

/-- A recovery that reads an error for the newer metadata goes on from the older copy, and the ordinal 1 is given to a
second Event. -/
theorem ordinal_given_twice :
    ¬ ∀ turns, (ledgerSystem 1 2).IsRun (.off blankImage) turns → InAdmissionOrder turns := by
  intro h
  have hordered := h _ (isRun_serveAll (.off blankImage) misread)
  have hordinals : (serveAll 1 2 (.off blankImage) misread).map LedgerTurn.ordinal? = [none, some 1, none, some 1] := by
    decide +kernel
  obtain ⟨t₀, t₁, t₂, t₃, hturns⟩ : ∃ t₀ t₁ t₂ t₃, serveAll 1 2 (.off blankImage) misread = [t₀, t₁, t₂, t₃] :=
    ⟨_, _, _, _, rfl⟩
  rw [hturns] at hordered hordinals
  simp only [List.map_cons, List.map_nil, List.cons.injEq] at hordinals
  obtain ⟨r, hadmits, hr⟩ := hordered.admits (t := t₁) (by simp) hordinals.2.1
  obtain ⟨r', hadmits', hr'⟩ := hordered.admits (t := t₃) (by simp) hordinals.2.2.2.1
  have hprecedes : t₁.Precedes t₃ := by
    have hpairs := hordered.increasing
    simp only [List.pairwise_cons, List.mem_cons] at hpairs
    exact hpairs.2.1 t₃ (Or.inr (Or.inl rfl))
  have hlt := hprecedes r r' hadmits hadmits'
  rw [hr, hr'] at hlt
  exact absurd hlt (by decide)

end Run

end Redline.Network
