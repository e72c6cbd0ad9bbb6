import Redline.Hub.FirstBoot
import Redline.Hub.Radio

/-!
# The Hub as a machine

RAM and flash together.  An action is a recovery, a received packet or a consumption by the Host, with an
optional power cut in it, or a loss of power between two calls.  A ledger that has started is `Alive` with a
view, and every action takes the view one `Turn` further: nothing happens, an Event is admitted to an EMPTY slot
or over the tombstone of an earlier one, or an ACTIVE record is consumed (`Alive.step`).  An ADMITTED response
goes out only for an Event that the ledger owns after the turn.
-/

namespace Redline.Hub

open Redline.Wire Redline.Records Redline.Lib

/-! ### Calls and actions -/

inductive Call
  | recover
  | process (bytes : Bytes)
  | consume (identity : Identity)

/-- The response a result asks the radio to send. -/
def HubResult.response? (r : HubResult) : Option Bytes :=
  if r.action = .startEventAck then some r.bytes else none

/-- The ledger after a call, and the response that is sent. -/
def Call.run (hub node : UInt8) (l : Ledger) : Call → StorageM (Ledger × Option Bytes)
  | .recover => do
    let (l, _) ← Ledger.recover hub node
    return (l, none)
  | .process bytes => do
    let (l, r) ← HubAdapter.process l bytes hub node
    return (l, r.response?)
  | .consume identity => do
    let (l, _) ← l.consume identity
    return (l, none)

inductive Action
  | call (call : Call) (cut : Option (PowerCut Bytes))
  | powerLoss

/-- The Event in the packet that a call processes. -/
def Action.event? (hub node : UInt8) : Action → Option Event
  | .call (.process bytes) _ => HubAdapter.receivedEvent bytes hub node
  | _ => none

/-- The identity that the Host asks to consume. -/
def Action.consumes? : Action → Option Identity
  | .call (.consume identity) _ => some identity
  | _ => none

structure Machine where
  ledger : Ledger
  image : Image

/-- Power is off: only the image is left. -/
def Machine.off (img : Image) : Machine := ⟨.initial, img⟩

/-- One action, and the response that is sent. -/
def Machine.step (hub node : UInt8) (m : Machine) : Action → Machine × Option Bytes
  | .powerLoss => (.off m.image, none)
  | .call call cut =>
    match exec geometry.flash geometry.undecodable (call.run hub node m.ledger) cut (Disk.clean m.image) with
    | .done r d => (⟨r.1, d.data⟩, r.2)
    | .lost img => (.off img, none)

/-! ### A living ledger -/

/-- The image stands for the view, and a ledger in service is sound. -/
structure Alive (hub node : UInt8) (m : Machine) (v : View) : Prop where
  devices : hub ≠ 0 ∧ node ≠ 0 ∧ hub ≠ node
  stored : Stored m.image v
  sound : m.ledger.ledgerHealthy = true → Sound m.ledger m.image v

/-- The image owns nothing, and the ledger is out of service. -/
structure Asleep (m : Machine) : Prop where
  unborn : Unborn m.image
  unhealthy : m.ledger.ledgerHealthy = false

/-- An ADMITTED response answers the Event that was received, and the ledger owns it. -/
def Acknowledges (hub node : UInt8) (a : Action) (v : View) (response : Option Bytes) : Prop :=
  ∀ bytes, response = some bytes → ∃ event answer, a.event? hub node = some event ∧
    decodeAdmissionResponse bytes = some answer ∧ answer.source = event.destination ∧ answer.epoch = event.epoch ∧
    answer.id = event.id ∧ (answer.status = .admitted →
      ∃ slot, (v.records slot).Owned ∧ Ledger.sameCanonical (v.records slot) event = true)

/-- **What an action does to the ledger.** -/
inductive Turn (hub node : UInt8) (a : Action) (v : View) : View → Option Bytes → Prop
  | stays {v' : View} {response : Option Bytes} (h : v'.records = v.records)
      (hack : Acknowledges hub node a v' response) : Turn hub node a v v' response
  | admitted {slot : SlotIndex} {event : Event} {ordinal : UInt32} {response : Option Bytes}
      (hevent : a.event? hub node = some event) (htail : zeroTail event.body event.bodyLength = true)
      (hfresh : ∀ i, (v.records i).Owned → (v.records i).identity ≠ eventIdentity event)
      (htarget : (v.records slot).state = .empty ∨ Superseded event (v.records slot))
      (hack : Acknowledges hub node a (v.admitted slot event ordinal) response) :
      Turn hub node a v (v.admitted slot event ordinal) response
  | consumed {slot : SlotIndex} {identity : Identity} (hidentity : a.consumes? = some identity)
      (hactive : (v.records slot).state = .active) (hsame : (v.records slot).identity = identity) :
      Turn hub node a v (v.consumed slot) none

section Turns

variable {hub node : UInt8} {l : Ledger} {img : Image} {v : View} {a : Action}

theorem acknowledges_none : Acknowledges hub node a v none := fun _ h => by cases h

theorem Turn.of_same : Turn hub node a v v none := .stays rfl acknowledges_none

/-- A completed call leaves a living ledger, one turn further. -/
def TurnDone (hub node : UInt8) (a : Action) (v : View) (r : Ledger × Option Bytes) (img' : Image) : Prop :=
  ∃ v', Alive hub node ⟨r.1, img'⟩ v' ∧ Turn hub node a v v' r.2

/-- A cut leaves an image, one turn further. -/
def TurnCut (hub node : UInt8) (a : Action) (v : View) (img' : Image) : Prop :=
  ∃ v', Stored img' v' ∧ Turn hub node a v v' none

/-- What the adapter sends is the answer to the Event. -/
theorem respond_response {event : Event} {status : AdmissionStatus} {mutated : Bool} {bytes : Bytes}
    (h : (HubAdapter.respond event status mutated).response? = some bytes) :
    decodeAdmissionResponse bytes = some (makeAdmissionResponse event status) := by
  unfold HubAdapter.respond at h
  split at h
  · cases h
  · rename_i encoded henc
    cases h
    exact decodeAdmissionResponse_encode henc

theorem acknowledges_respond {event : Event} {status : AdmissionStatus} {mutated : Bool}
    (hevent : a.event? hub node = some event)
    (hown : status = .admitted → ∃ slot, (v.records slot).Owned ∧
      Ledger.sameCanonical (v.records slot) event = true) :
    Acknowledges hub node a v (HubAdapter.respond event status mutated).response? := by
  intro bytes hb
  exact ⟨event, _, hevent, respond_response hb, rfl, rfl, rfl, hown⟩

/-- An admitted record has the content of its Event. -/
theorem sameCanonical_admittedRecord {event : Event} (htail : zeroTail event.body event.bodyLength = true)
    (generation ordinal : UInt32) :
    Ledger.sameCanonical (Ledger.admittedRecord generation event ordinal) event = true := by
  simp [Ledger.sameCanonical, Ledger.sameIdentity, Ledger.admittedRecord, bodyOf_take htail]

theorem wireStatus_admitted {status : Ledger.AdmissionStatus}
    (h : HubAdapter.wireStatus status = some .admitted) :
    status = .durableNewAdmission ∨ status = .exactDuplicate := by
  cases status <;> simp [HubAdapter.wireStatus] at h ⊢

theorem Admits.turn (h : Sound l img v) {event : Event} {slot : SlotIndex} {ordinal : UInt32}
    (hadmits : Admits l event slot ordinal) (hevent : a.event? hub node = some event) {response : Option Bytes}
    (hack : Acknowledges hub node a (v.admitted slot event ordinal) response) :
    Turn hub node a v (v.admitted slot event ordinal) response := by
  refine .admitted hevent (admissible_of_validateAdmission hadmits.valid).1.tail
    (fresh_of_findOwned h.records hadmits.fresh) ?_ hack
  rw [← h.records]
  exact admissionTarget_state hadmits.target

/-- The answer to a verdict names the verdict's status. -/
theorem ensures_verdict {event : Event} (hevent : a.event? hub node = some event) {l' : Ledger} {v' : View}
    {verdict : Ledger.AdmissionStatus} {mutated : Bool} (halive : Alive hub node ⟨l', img⟩ v')
    (hturn : ∀ response, Acknowledges hub node a v' response → Turn hub node a v v' response)
    (hown : HubAdapter.wireStatus verdict = some .admitted → ∃ slot, (v'.records slot).Owned ∧
      Ledger.sameCanonical (v'.records slot) event = true) :
    geometry.Ensures img ((match HubAdapter.wireStatus verdict with
      | none => (pure (l', default) : StorageM (Ledger × HubResult))
      | some status => pure (l', HubAdapter.respond event status mutated)) >>= fun r => pure (r.1, r.2.response?))
      (TurnDone hub node a v) (TurnCut hub node a v) := by
  split
  · simp only [Prog.pure_bind']
    exact ensures_pure.2 ⟨v', halive, hturn none acknowledges_none⟩
  · rename_i status hstatus
    simp only [Prog.pure_bind']
    refine ensures_pure.2 ⟨v', halive, hturn _ (acknowledges_respond hevent fun he => hown ?_)⟩
    rw [hstatus, he]

/-- **A received packet.** -/
theorem ensures_process (hd : hub ≠ 0 ∧ node ≠ 0 ∧ hub ≠ node) (h : Sound l img v) (bytes : Bytes)
    (cut : Option (PowerCut Bytes)) :
    geometry.Ensures img (Call.run hub node l (.process bytes)) (TurnDone hub node (.call (.process bytes) cut) v)
      (TurnCut hub node (.call (.process bytes) cut) v) := by
  have hstays : ∀ response, Acknowledges hub node (.call (.process bytes) cut) v response →
      TurnDone hub node (.call (.process bytes) cut) v (l, response) img := fun response hack =>
    ⟨v, ⟨hd, h.stored, fun _ => h⟩, .stays rfl hack⟩
  unfold Call.run HubAdapter.process
  dsimp only
  split
  · simp only [Prog.pure_bind']
    exact ensures_pure.2 (hstays none acknowledges_none)
  rename_i event hevent
  have hevent' : Action.event? hub node (.call (.process bytes) cut) = some event := hevent
  have hanswer : ∀ status, status ≠ .admitted → geometry.Ensures img
      (pure (l, (HubAdapter.respond event status false).response?))
      (TurnDone hub node (.call (.process bytes) cut) v) (TurnCut hub node (.call (.process bytes) cut) v) :=
    fun status hne => ensures_pure.2 (hstays _ (acknowledges_respond hevent' fun hc => absurd hc hne))
  split
  · simp only [Prog.pure_bind']
    exact hanswer .unsupportedEvent AdmissionStatus.noConfusion
  split
  · simp only [Prog.pure_bind']
    exact hanswer .malformedEvent AdmissionStatus.noConfusion
  simp only [Prog.bind_assoc']
  refine ensures_bind (ensures_mono ?_ ?_ (ensures_admitEvent h event))
  · rintro ⟨l', result⟩ img' ⟨hadm, -⟩
    cases hadm with
    | refused _ hsound himg hslots hstatus hdup =>
      subst himg
      refine ensures_verdict hevent' ⟨hd, hsound.stored, fun _ => hsound⟩ (fun response hack => .stays rfl hack)
        fun hw => hdup ?_
      exact (wireStatus_admitted hw).resolve_left hstatus
    | admitted slot ordinal hadmits _ hsound hresult =>
      refine ensures_verdict hevent' ⟨hd, hsound.stored, fun _ => hsound⟩
        (fun response hack => hadmits.turn h hevent' hack) fun _ => ⟨slot, ?_⟩
      rw [View.admitted_records, Function.update_self]
      exact ⟨HubState.noConfusion,
        sameCanonical_admittedRecord (admissible_of_validateAdmission hadmits.valid).1.tail _ _⟩
  · rintro img' (hst | ⟨slot, ordinal, hadmits, -, hst⟩)
    · exact ⟨v, hst, .of_same⟩
    · exact ⟨_, hst, hadmits.turn h hevent' acknowledges_none⟩

theorem ensures_consumeCall (hd : hub ≠ 0 ∧ node ≠ 0 ∧ hub ≠ node) (h : Sound l img v) (identity : Identity)
    (cut : Option (PowerCut Bytes)) :
    geometry.Ensures img (Call.run hub node l (.consume identity))
      (TurnDone hub node (.call (.consume identity) cut) v) (TurnCut hub node (.call (.consume identity) cut) v) := by
  refine ensures_bind (ensures_mono ?_ ?_ (ensures_consume h identity))
  · rintro ⟨l', result⟩ img' ⟨hcon, -⟩
    cases hcon with
    | refused _ hl himg _ =>
      obtain rfl : l' = l := hl
      subst himg
      exact ensures_pure.2 ⟨v, ⟨hd, h.stored, fun _ => h⟩, .of_same⟩
    | consumed slot hc hsound _ =>
      obtain ⟨hactive, hid⟩ := consumes_state h.records hc
      exact ensures_pure.2 ⟨_, ⟨hd, hsound.stored, fun _ => hsound⟩, .consumed rfl hactive hid⟩
  · rintro img' (hst | ⟨slot, hc, hst⟩)
    · exact ⟨v, hst, .of_same⟩
    · obtain ⟨hactive, hid⟩ := consumes_state h.records hc
      exact ⟨_, hst, .consumed rfl hactive hid⟩

/-! ### Calls on a ledger that is out of service -/

/-- Out of service, a received packet is refused and nothing is consumed. -/
theorem run_of_unhealthy (h : l.ledgerHealthy = false) {call : Call} (hr : call ≠ .recover)
    (cut : Option (PowerCut Bytes)) :
    ∃ response, Call.run hub node l call = pure (l, response) ∧ Acknowledges hub node (.call call cut) v response := by
  cases call with
  | recover => exact absurd rfl hr
  | consume identity =>
    simp only [Call.run, Ledger.consume, h, Bool.not_false, if_true, Prog.pure_bind']
    exact ⟨none, rfl, acknowledges_none⟩
  | process bytes =>
    simp only [Call.run, HubAdapter.process]
    split
    · exact ⟨none, rfl, acknowledges_none⟩
    · rename_i event hevent
      have hevent' : Action.event? hub node (.call (.process bytes) cut) = some event := hevent
      split
      · exact ⟨_, rfl, acknowledges_respond hevent' AdmissionStatus.noConfusion⟩
      split
      · exact ⟨_, rfl, acknowledges_respond hevent' AdmissionStatus.noConfusion⟩
      · simp only [Ledger.admitEvent, h, Bool.not_false, if_true, Prog.pure_bind', HubAdapter.wireStatus]
        exact ⟨none, rfl, acknowledges_none⟩

/-! ### One action -/

theorem Alive.ensures_call (h : Alive hub node ⟨l, img⟩ v) (call : Call) (cut : Option (PowerCut Bytes)) :
    geometry.Ensures img (call.run hub node l) (TurnDone hub node (.call call cut) v)
      (TurnCut hub node (.call call cut) v) := by
  by_cases hr : call = .recover
  · subst hr
    refine ensures_bind (ensures_recover_stored noFaults_truthful h.devices h.stored ⟨v, h.stored, .of_same⟩
      fun l' hres => ?_)
    exact ensures_pure.2 ⟨v, ⟨h.devices, h.stored, fun _ => hres.sound⟩, .of_same⟩
  · cases hh : l.ledgerHealthy with
    | false =>
      obtain ⟨response, hrun, hack⟩ := run_of_unhealthy (v := v) hh hr cut
      rw [hrun]
      exact ensures_pure.2 ⟨v, h, .stays rfl hack⟩
    | true =>
      cases call with
      | recover => exact absurd rfl hr
      | process bytes => exact ensures_process h.devices (h.sound hh) bytes cut
      | consume identity => exact ensures_consumeCall h.devices (h.sound hh) identity cut

/-- A call of the machine ends as the call does. -/
theorem Machine.step_call {m : Machine} {call : Call} {cut : Option (PowerCut Bytes)}
    {Q : Machine → Option Bytes → Prop}
    (h : geometry.Ensures m.image (call.run hub node m.ledger) (fun r img' => Q ⟨r.1, img'⟩ r.2)
      fun img' => Q (.off img') none) :
    Q (m.step hub node (.call call cut)).1 (m.step hub node (.call call cut)).2 := by
  have hx := ensures_exec h cut
  simp only [Machine.step]
  cases hexec : exec geometry.flash geometry.undecodable (call.run hub node m.ledger) cut (Disk.clean m.image) with
  | done r d =>
    rw [hexec] at hx
    obtain ⟨img', rfl, hQ⟩ := hx
    exact hQ
  | lost img' =>
    rw [hexec] at hx
    exact hx

/-- **An action of a living ledger is a turn.** -/
theorem Alive.step {m : Machine} (h : Alive hub node m v) (a : Action) :
    ∃ v', Alive hub node (m.step hub node a).1 v' ∧ Turn hub node a v v' (m.step hub node a).2 := by
  cases a with
  | powerLoss => exact ⟨v, ⟨h.devices, h.stored, fun hc => (by cases hc)⟩, .of_same⟩
  | call call cut =>
    refine Machine.step_call (Q := fun m' response => ∃ v', Alive hub node m' v' ∧
      Turn hub node (.call call cut) v v' response) ?_
    refine ensures_mono (fun r img' hr => hr) (fun img' hc => ?_) (h.ensures_call call cut)
    obtain ⟨v', hst, ht⟩ := hc
    exact ⟨v', ⟨h.devices, hst, fun hc => (by cases hc)⟩, ht⟩

/-! ### Before the first start -/

/-- No slot of the view has an Event. -/
def View.Vacant (v : View) : Prop := ∀ i, (v.records i).state = .empty

/-- A sleeping ledger after a call: it sleeps on, or it is alive and owns nothing. -/
def Wakes (hub node : UInt8) (m : Machine) : Prop :=
  Asleep m ∨ ∃ v, Alive hub node m v ∧ v.Vacant

/-- A ledger that is out of service admits nothing. -/
def Refuses (hub node : UInt8) (a : Action) (response : Option Bytes) : Prop :=
  Acknowledges hub node a ⟨fun _ => default, 0⟩ response

theorem Asleep.ensures_call (h : Asleep ⟨l, img⟩) (call : Call) (cut : Option (PowerCut Bytes)) :
    geometry.Ensures img (call.run hub node l)
      (fun r img' => Wakes hub node ⟨r.1, img'⟩ ∧ Refuses hub node (.call call cut) r.2)
      (fun img' => Wakes hub node (.off img') ∧ Refuses hub node (.call call cut) none) := by
  by_cases hr : call = .recover
  · subst hr
    by_cases hd : hub ≠ 0 ∧ node ≠ 0 ∧ hub ≠ node
    · refine ensures_bind (ensures_mono ?_ ?_ (ensures_recover_unborn noFaults_truthful hd h.unborn))
      · rintro ⟨l', status⟩ img' hout
        refine ensures_pure.2 ⟨?_, acknowledges_none⟩
        by_cases hstart : Startable img
        · obtain ⟨-, hnew⟩ := (hout.starts hstart).resolve_right fun hw => not_writesFail hw.1
          have hvac : View.Vacant ⟨l'.records, 0⟩ := hnew.empty
          have hsound : Sound l' img' ⟨l'.records, 0⟩ :=
            hnew.revived.sound rfl (Nat.zero_le _) fun i hi => absurd (hvac i) hi
          exact Or.inr ⟨_, ⟨hd, hsound.stored, fun _ => hsound⟩, hvac⟩
        · exact Or.inl ⟨hout.unborn, (hout.stuck hstart).2.1⟩
      · exact fun img' hc => ⟨Or.inl ⟨hc.1, rfl⟩, acknowledges_none⟩
    · simp only [Call.run, recover_invalid hd, Prog.pure_bind']
      exact ensures_pure.2 ⟨Or.inl ⟨h.unborn, rfl⟩, acknowledges_none⟩
  · obtain ⟨response, hrun, hack⟩ := run_of_unhealthy (v := ⟨fun _ => default, 0⟩) h.unhealthy hr cut
    rw [hrun]
    exact ensures_pure.2 ⟨Or.inl h, hack⟩

theorem Asleep.step {m : Machine} (h : Asleep m) (a : Action) :
    Wakes hub node (m.step hub node a).1 ∧ Refuses hub node a (m.step hub node a).2 := by
  cases a with
  | powerLoss => exact ⟨Or.inl ⟨h.unborn, rfl⟩, acknowledges_none⟩
  | call call cut =>
    exact Machine.step_call (Q := fun m' response => Wakes hub node m' ∧ Refuses hub node (.call call cut) response)
      (h.ensures_call call cut)

end Turns

end Redline.Hub
