import Mathlib.Data.List.Pairwise
import Redline.Lib.Trace
import Redline.Node.Machine

/-!
# The order of transmissions and the attempt budget

What every history of a Node shows, from an image that owns no Event on and over any number of boots.
`strict_fifo`: the identities that go on the air never decrease; an identity that has left the queue is not
transmitted again; and an Event goes on the air with the content it was created with.  `attempt_budget`: an
identity is transmitted at most five times, and the record has been charged before the radio is asked.
-/

namespace Redline.Node

open Redline.Wire Redline.Records Redline.Lib

/-! ### What a history shows -/

/-- The record in force of some slot of the image. -/
def HoldsRecord (img : Image) (r : NodeRecord) : Prop := ∃ slot c, SlotHolds img slot c r

/-- The image owns a QUEUED record of the identity. -/
def QueuedIn (img : Image) (epoch id : UInt32) : Prop :=
  ∃ r, HoldsRecord img r ∧ r.state = .queued ∧ r.eventEpoch = epoch ∧ r.eventId = id

theorem queuedIn_iff_exists {img : Image} {epoch id : UInt32} :
    QueuedIn img epoch id ↔ ∃ slot, ∃ c ∈ [CopySlot.A, .B], ∃ r ∈ (img.slotCells slot c).bind decodeNodeRecordForSelection,
      SlotHolds img slot c r ∧ r.state = .queued ∧ r.eventEpoch = epoch ∧ r.eventId = id := by
  constructor
  · rintro ⟨r, ⟨slot, c, hr⟩, hq⟩
    exact ⟨slot, c, by cases c <;> simp, r, hr.1, hr, hq⟩
  · rintro ⟨slot, c, -, r, -, hr, hq⟩
    exact ⟨r, ⟨slot, c, hr⟩, hq⟩

instance (img : Image) (slot : SlotIndex) (c : CopySlot) (r : NodeRecord) : Decidable (SlotHolds img slot c r) :=
  inferInstanceAs (Decidable (Holds _ _ _ c r))

instance (img : Image) (epoch id : UInt32) : Decidable (QueuedIn img epoch id) :=
  decidable_of_iff _ queuedIn_iff_exists.symm

/-- The Event that goes on the air. -/
def RadioAction.event? : RadioAction → Option Event
  | .transmit bytes => decodeEvent bytes
  | _ => Option.none

def Entry.sends (entry : Entry) (event : Event) : Prop := entry.radio.event? = some event

/-- The identity leaves the queue. -/
def Entry.retires (entry : Entry) (epoch id : UInt32) : Prop :=
  QueuedIn entry.before.image epoch id ∧ ¬ QueuedIn entry.after.image epoch id

/-- An enqueue of the input puts the identity in the queue. -/
def Entry.creates (entry : Entry) (epoch id : UInt32) (input : EventInput) : Prop :=
  entry.action.input? = some input ∧ ¬ QueuedIn entry.before.image epoch id ∧ QueuedIn entry.after.image epoch id

/-- The canonical content of an Event is that of the input. -/
structure Carries (event : Event) (input : EventInput) : Prop where
  family : event.family = input.family
  flags : event.flags = input.flags
  lifetime : event.lifetimeBudgetSeconds = input.lifetimeBudgetSeconds
  bodyLength : event.bodyLength = input.bodyLength
  body : event.body = input.body

/-- The lexicographic order of identities. -/
def IdentityLe (epoch id epoch' id' : UInt32) : Prop := epoch < epoch' ∨ epoch = epoch' ∧ id ≤ id'

/-- The number of times an identity has gone on the air. -/
def transmissions (history : List Entry) (epoch id : UInt32) : ℕ :=
  history.countP fun entry => entry.radio.event?.map (fun event => (event.epoch, event.id)) = some (epoch, id)

/-- **Strict FIFO.** -/
structure StrictFifo (history : List Entry) : Prop where
  decodes : ∀ entry ∈ history, ∀ bytes, entry.radio = .transmit bytes → ∃ event, decodeEvent bytes = some event
  ordered : history.Pairwise fun i j => ∀ e e', i.sends e → j.sends e' → IdentityLe e.epoch e.id e'.epoch e'.id
  retired : history.Pairwise fun i j => ∀ event, i.retires event.epoch event.id → ¬ j.sends event
  created : ∀ past entry rest event, history = past ++ entry :: rest → entry.sends event →
    ∃ creation ∈ past, ∃ input, creation.creates event.epoch event.id input ∧ Carries event input
  once : history.Pairwise fun i j => ∀ epoch id input input', i.creates epoch id input → ¬ j.creates epoch id input'

/-- **The attempt budget.** -/
structure WithinBudget (history : List Entry) : Prop where
  decodes : ∀ entry ∈ history, ∀ bytes, entry.radio = .transmit bytes → ∃ event, decodeEvent bytes = some event
  total : ∀ epoch id, transmissions history epoch id ≤ 5
  charged : ∀ past entry rest event, history = past ++ entry :: rest → entry.sends event →
    ∃ r, HoldsRecord entry.after.image r ∧ r.eventEpoch = event.epoch ∧ r.eventId = event.id ∧
      transmissions (past ++ [entry]) event.epoch event.id ≤ r.attemptsUsed.toNat

/-! ### The records of a living Node -/

section Records

variable {device hub : UInt8} {m : Machine} {v v' : View}

theorem identityLe_iff {epoch id epoch' id' : UInt32} :
    IdentityLe epoch id epoch' id' ↔ key epoch id ≤ key epoch' id' := by
  rw [← not_lt, key_lt_key]
  unfold IdentityLe
  rw [UInt32.lt_iff_toNat_lt, UInt32.lt_iff_toNat_lt, UInt32.lt_iff_toNat_lt, UInt32.le_iff_toNat_le,
    ← UInt32.toNat_inj, ← UInt32.toNat_inj]
  omega

theorem holdsRecord_iff {img : Image} (h : Stored device img v) {r : NodeRecord} :
    HoldsRecord img r ↔ ∃ i, v.records i = r := by
  obtain ⟨md, hd, -⟩ := h.lineage
  constructor
  · rintro ⟨slot, c, hr⟩
    obtain ⟨c', hr'⟩ := hd.slot slot
    exact ⟨slot, (hr'.unique hr).2⟩
  · rintro ⟨i, rfl⟩
    obtain ⟨c, hr⟩ := hd.slot i
    exact ⟨i, c, hr⟩

theorem queuedIn_iff {img : Image} (h : Stored device img v) {epoch id : UInt32} :
    QueuedIn img epoch id ↔ ∃ i, (v.records i).state = .queued ∧ (v.records i).key = key epoch id := by
  constructor
  · rintro ⟨r, hr, hq, he, hi⟩
    obtain ⟨i, rfl⟩ := (holdsRecord_iff h).1 hr
    exact ⟨i, hq, by rw [NodeRecord.key, he, hi]⟩
  · rintro ⟨i, hq, hk⟩
    obtain ⟨he, hi⟩ := key_inj.1 hk
    exact ⟨_, (holdsRecord_iff h).2 ⟨i, rfl⟩, hq, he, hi⟩

theorem Stored.valid {img : Image} (h : Stored device img v) (i : SlotIndex) :
    validateNodeRecord (v.records i) = .ok () := by
  obtain ⟨md, hd, -⟩ := h.lineage
  obtain ⟨c, hr⟩ := hd.slot i
  exact hr.valid

/-- A dormant image queues nothing. -/
theorem Dormant.not_queuedIn {img : Image} (h : Dormant img) (epoch id : UInt32) : ¬ QueuedIn img epoch id := by
  rintro ⟨r, ⟨slot, c, hr⟩, hq, -⟩
  rw [h slot c r hr] at hq
  cases hq

/-- The canonical content of a record is that of the input. -/
structure RecordOf (r : NodeRecord) (input : EventInput) : Prop where
  family : r.family = input.family
  flags : r.flags = input.flags
  lifetime : r.lifetimeBudgetSeconds = input.lifetimeBudgetSeconds
  bodyLength : r.bodyLength = input.bodyLength
  body : r.body = input.body

theorem RecordOf.same {r r' : NodeRecord} {input : EventInput} (h : RecordOf r input) (hs : SameEvent r r') :
    RecordOf r' input :=
  ⟨hs.family.trans h.family, hs.flags.trans h.flags, hs.lifetime.trans h.lifetime, hs.bodyLength.trans h.bodyLength,
    hs.body.trans h.body⟩

/-- A record that an action has created. -/
structure Fresh (a : Action) (v : View) (r : NodeRecord) : Prop where
  queued : r.state = .queued
  floor : v.floor ≤ r.key
  input : ∃ input, a.input? = some input ∧ RecordOf r input

/-- Where the records of a view come from. -/
structure Descends (a : Action) (v v' : View) : Prop where
  floor : v.floor ≤ v'.floor
  record : ∀ j, (v'.records j).Owned → Inherits (v.records j) (v'.records j) ∨ Fresh a v (v'.records j)

theorem Evolving.descends (h : Evolving v v') (a : Action) : Descends a v v' :=
  ⟨h.floor.ge, fun j hj => Or.inl (h.inherits j hj)⟩

theorem Turn.descends {a : Action} {radio : RadioAction} (h : Turn device hub a v v' radio) : Descends a v v' := by
  cases h with
  | evolved h _ _ => exact h.descends a
  | transmitted h harm _ _ =>
    exact (h.put (.armed harm.1 harm.2) (owned_of_queued harm.1)).evolving.descends a
  | @created input slot identity _ hinput hvalid hslot hfloor _ =>
    refine ⟨?_, fun j hj => ?_⟩
    · change v.floor ≤ key identity.epoch identity.id + 1
      omega
    · by_cases hjs : j = slot
      · subst hjs
        have hnew : (v.created j identity input).records j =
            Store.queuedRecord ((v.records j).generation + 1) identity input := Function.update_self _ _ _
        rw [hnew]
        exact Or.inr ⟨rfl, hfloor, input, hinput, rfl, rfl, rfl, rfl, bodyOf_take (Bool.and_eq_true_iff.1 hvalid).2⟩
      · have hold : (v.created slot identity input).records j = v.records j := Function.update_of_ne hjs _ _
        rw [hold] at hj ⊢
        exact Or.inl (.refl hj)

/-- What an Event on the air has to do with the queue. -/
structure OnAir (v v' : View) (slot : SlotIndex) (event : Event) : Prop where
  queued : (v'.records slot).state = .queued
  inherits : Inherits (v.records slot) (v'.records slot)
  charged : (v.records slot).attemptsUsed.toNat + 1 ≤ (v'.records slot).attemptsUsed.toNat
  least : ∀ j, (v'.records j).state = .queued → (v'.records slot).key ≤ (v'.records j).key
  epoch : event.epoch = (v'.records slot).eventEpoch
  id : event.id = (v'.records slot).eventId
  content : ∀ input, RecordOf (v'.records slot) input → Carries event input

theorem OnAir.key {slot : SlotIndex} {event : Event} (h : OnAir v v' slot event) :
    key event.epoch event.id = (v'.records slot).key := by
  rw [h.epoch, h.id]
  rfl

theorem RadioAction.Quiet.event? {radio : RadioAction} (h : radio.Quiet) : radio.event? = Option.none := by
  cases radio with
  | transmit bytes => exact absurd rfl (h bytes)
  | none => rfl
  | receive => rfl

/-- The body of a valid record is its bytes up to its length. -/
theorem body_of_valid {r : NodeRecord} (hv : validateNodeRecord r = .ok ()) (ho : r.Owned) :
    bodyOf (r.body.toList.take r.bodyLength.toNat) = r.body :=
  bodyOf_take ((validateNodeRecord_owned ho).1 hv).2.2.2

/-- What goes on the air is the Event of an armed record. -/
theorem Turn.onAir {a : Action} {bytes : Bytes} (h : Turn device hub a v v' (.transmit bytes))
    (hs : Stored device m.image v') : ∃ slot event, decodeEvent bytes = some event ∧ OnAir v v' slot event := by
  cases h with
  | evolved _ hq _ => exact absurd rfl (hq bytes)
  | created _ _ _ _ hq => exact absurd rfl (hq bytes)
  | @transmitted v1 slot sequence _ hag harm hleast hbytes =>
    have hnew := View.put_apply v1 slot (NodeRecord.arm (v1.records slot))
    have hvalid := hs.valid slot
    rw [hnew] at hvalid
    have hbody := body_of_valid hvalid (owned_of_queued harm.1)
    have hbody' : (Ram.eventOf device hub sequence (v1.records slot)).body = (v1.records slot).body := hbody
    refine ⟨slot, _, decodeEvent_encodeEvent hbytes ?_, ?_⟩
    · rw [hbody']
      exact hbody
    have hinh := hag.evolving.inherits slot (owned_of_queued harm.1)
    have hlt : (v1.records slot).attemptsUsed.toNat < 5 := UInt8.lt_iff_toNat_lt.1 harm.2
    have hatt : (NodeRecord.arm (v1.records slot)).attemptsUsed.toNat = (v1.records slot).attemptsUsed.toNat + 1 := by
      simp only [NodeRecord.arm, UInt8.toNat_add, UInt8.toNat_ofNat]
      omega
    have harmed := (Evolves.armed harm.1 harm.2).inherits (owned_of_queued harm.1)
    refine ⟨?_, ?_, ?_, fun j hj => ?_, ?_, ?_, fun input hr => ?_⟩
    · rw [hnew]
      exact harm.1
    · rw [hnew]
      exact hinh.trans harmed
    · rw [hnew, hatt]
      exact Nat.succ_le_succ hinh.attempts
    · rw [hnew]
      by_cases hjs : j = slot
      · rw [hjs, hnew]
      · rw [View.put_apply_ne _ hjs] at hj ⊢
        exact hleast j hj
    · rw [hnew]
      rfl
    · rw [hnew]
      rfl
    · rw [hnew] at hr
      exact ⟨hr.family, hr.flags, hr.lifetime, hr.bodyLength, hbody'.trans hr.body⟩

end Records

/-! ### The history of a living Node -/

/-- One entry of a history, with the views before and after it. -/
structure Recorded (device : UInt8) (x : Entry) (v v' : View) : Prop where
  before : Stored device x.before.image v
  after : Stored device x.after.image v'
  descends : Descends x.action v v'
  decodes : ∀ bytes, x.radio = .transmit bytes → ∃ event, decodeEvent bytes = some event
  onAir : ∀ event, x.sends event → ∃ slot, OnAir v v' slot event

/-- What the history of a living Node has to do with its view. -/
structure Logged (history : List Entry) (v : View) : Prop where
  sentBelow : ∀ entry ∈ history, ∀ event, entry.sends event → key event.epoch event.id < v.floor
  sentLeast : ∀ entry ∈ history, ∀ event, entry.sends event →
    ∀ j, (v.records j).state = .queued → key event.epoch event.id ≤ (v.records j).key
  goneBelow : ∀ entry ∈ history, ∀ epoch id, entry.retires epoch id → key epoch id < v.floor
  gone : ∀ entry ∈ history, ∀ epoch id, entry.retires epoch id →
    ∀ j, (v.records j).state = .queued → (v.records j).key ≠ key epoch id
  bornBelow : ∀ entry ∈ history, ∀ epoch id input, entry.creates epoch id input → key epoch id < v.floor
  born : ∀ j, (v.records j).Owned → ∃ creation ∈ history, ∃ input,
    creation.creates (v.records j).eventEpoch (v.records j).eventId input ∧ RecordOf (v.records j) input
  charged : ∀ j, (v.records j).Owned →
    transmissions history (v.records j).eventEpoch (v.records j).eventId ≤ (v.records j).attemptsUsed.toNat

section Logged

variable {device : UInt8} {history : List Entry} {x : Entry} {v v' : View}

/-- A QUEUED record was QUEUED before under its identity, or lies above every identity so far. -/
theorem Recorded.queued (hx : Recorded device x v v') {j : SlotIndex} (hj : (v'.records j).state = .queued) :
    ((v.records j).state = .queued ∧ (v'.records j).key = (v.records j).key) ∨ v.floor ≤ (v'.records j).key := by
  rcases hx.descends.record j (owned_of_queued hj) with hinh | hfresh
  · exact Or.inl ⟨hinh.queued hj, hinh.event.key⟩
  · exact Or.inr hfresh.floor

/-- An identity that is created lies above every identity so far. -/
theorem Recorded.creates (hx : Recorded device x v v') {epoch id : UInt32} {input : EventInput}
    (hc : x.creates epoch id input) : v.floor ≤ key epoch id := by
  obtain ⟨-, hno, hyes⟩ := hc
  obtain ⟨j, hj, hk⟩ := (queuedIn_iff hx.after).1 hyes
  rcases hx.queued hj with ⟨hq, hkey⟩ | hfloor
  · exact absurd ((queuedIn_iff hx.before).2 ⟨j, hq, hkey.symm.trans hk⟩) hno
  · rw [← hk]
    exact hfloor

theorem transmissions_concat (history : List Entry) (x : Entry) (epoch id : UInt32) :
    transmissions (history ++ [x]) epoch id = transmissions history epoch id +
      if x.radio.event?.map (fun event => (event.epoch, event.id)) = some (epoch, id) then 1 else 0 := by
  simp [transmissions, List.countP_append, List.countP_cons]

theorem transmissions_of_not_sends {epoch id : UInt32}
    (h : ∀ event, x.sends event → ¬ (event.epoch = epoch ∧ event.id = id)) :
    transmissions (history ++ [x]) epoch id = transmissions history epoch id := by
  rw [transmissions_concat, if_neg, Nat.add_zero]
  intro hc
  obtain ⟨event, he, hid⟩ := Option.map_eq_some_iff.1 hc
  exact h event he ⟨congrArg Prod.fst hid, congrArg Prod.snd hid⟩

theorem transmissions_of_sends {event : Event} (h : x.sends event) :
    transmissions (history ++ [x]) event.epoch event.id = transmissions history event.epoch event.id + 1 := by
  rw [transmissions_concat, if_pos]
  rw [show x.radio.event? = some event from h]
  rfl

theorem transmissions_eq_zero {epoch id : UInt32}
    (h : ∀ entry ∈ history, ∀ event, entry.sends event → ¬ (event.epoch = epoch ∧ event.id = id)) :
    transmissions history epoch id = 0 := by
  refine List.countP_eq_zero.2 fun entry hmem hc => ?_
  obtain ⟨event, he, hid⟩ := Option.map_eq_some_iff.1 (of_decide_eq_true hc)
  exact h entry hmem event he ⟨congrArg Prod.fst hid, congrArg Prod.snd hid⟩

/-- The attempts of the identity on the air, this one included. -/
theorem Logged.onAir (h : Logged history v) {slot : SlotIndex} {event : Event} (hair : OnAir v v' slot event)
    (hsend : x.sends event) :
    transmissions (history ++ [x]) event.epoch event.id ≤ (v'.records slot).attemptsUsed.toNat := by
  have hcount := h.charged slot hair.inherits.owned
  rw [← hair.inherits.event.epoch, ← hair.inherits.event.id, ← hair.epoch, ← hair.id] at hcount
  rw [transmissions_of_sends hsend]
  exact (Nat.succ_le_succ hcount).trans hair.charged

theorem Logged.step_charged (h : Logged history v) (hx : Recorded device x v v') (j : SlotIndex)
    (hj : (v'.records j).Owned) :
    transmissions (history ++ [x]) (v'.records j).eventEpoch (v'.records j).eventId ≤
      (v'.records j).attemptsUsed.toNat := by
  by_cases hsend : ∃ event, x.sends event ∧ event.epoch = (v'.records j).eventEpoch ∧ event.id = (v'.records j).eventId
  · -- the record on the air has been armed
    obtain ⟨event, hse, he, hi⟩ := hsend
    obtain ⟨slot, hair⟩ := hx.onAir event hse
    have hkey : (v'.records slot).key = (v'.records j).key := by
      rw [← hair.key, he, hi]
      rfl
    have hslot := hx.after.ok.distinct slot j (owned_of_queued hair.queued) hj hkey
    subst hslot
    rw [← he, ← hi]
    exact h.onAir hair hse
  · have hno : ∀ event, x.sends event → ¬ (event.epoch = (v'.records j).eventEpoch ∧
        event.id = (v'.records j).eventId) := fun event hse hid => hsend ⟨event, hse, hid⟩
    rw [transmissions_of_not_sends hno]
    rcases hx.descends.record j hj with hinh | hfresh
    · have hcount := h.charged j hinh.owned
      rw [← hinh.event.epoch, ← hinh.event.id] at hcount
      exact hcount.trans hinh.attempts
    · rw [transmissions_eq_zero fun entry hmem event hse hid => ?_]
      · exact Nat.zero_le _
      have hlt := h.sentBelow entry hmem event hse
      have hge := hfresh.floor
      rw [hid.1, hid.2] at hlt
      exact absurd hge (not_le.2 hlt)

theorem Logged.step (h : Logged history v) (hx : Recorded device x v v') : Logged (history ++ [x]) v' := by
  have hfloor := hx.descends.floor
  have hmem : ∀ {entry}, entry ∈ history ++ [x] → entry ∈ history ∨ entry = x := fun he => by simpa using he
  refine ⟨?_, ?_, ?_, ?_, ?_, ?_, fun j hj => h.step_charged hx j hj⟩
  · intro entry he event hse
    rcases hmem he with he | rfl
    · exact (h.sentBelow entry he event hse).trans_le hfloor
    · obtain ⟨slot, hair⟩ := hx.onAir event hse
      rw [hair.key]
      exact hx.after.ok.below slot (owned_of_queued hair.queued)
  · intro entry he event hse j hj
    rcases hmem he with he | rfl
    · rcases hx.queued hj with ⟨hq, hk⟩ | hge
      · rw [hk]
        exact h.sentLeast entry he event hse j hq
      · exact (h.sentBelow entry he event hse).le.trans hge
    · obtain ⟨slot, hair⟩ := hx.onAir event hse
      rw [hair.key]
      exact hair.least j hj
  · intro entry he epoch id hr
    rcases hmem he with he | rfl
    · exact (h.goneBelow entry he epoch id hr).trans_le hfloor
    · obtain ⟨i, hq, hk⟩ := (queuedIn_iff hx.before).1 hr.1
      rw [← hk]
      exact (hx.before.ok.below i (owned_of_queued hq)).trans_le hfloor
  · intro entry he epoch id hr j hj hk
    rcases hmem he with he | rfl
    · rcases hx.queued hj with ⟨hq, hkey⟩ | hge
      · exact h.gone entry he epoch id hr j hq (hkey.symm.trans hk)
      · rw [hk] at hge
        exact absurd hge (not_le.2 (h.goneBelow entry he epoch id hr))
    · exact hr.2 ((queuedIn_iff hx.after).2 ⟨j, hj, hk⟩)
  · intro entry he epoch id input hc
    rcases hmem he with he | rfl
    · exact (h.bornBelow entry he epoch id input hc).trans_le hfloor
    · obtain ⟨j, hj, hk⟩ := (queuedIn_iff hx.after).1 hc.2.2
      rw [← hk]
      exact hx.after.ok.below j (owned_of_queued hj)
  · intro j hj
    rcases hx.descends.record j hj with hinh | hfresh
    · obtain ⟨creation, hcr, input, hc, hrec⟩ := h.born j hinh.owned
      rw [← hinh.event.epoch, ← hinh.event.id] at hc
      exact ⟨creation, List.mem_append_left _ hcr, input, hc, hrec.same hinh.event⟩
    · obtain ⟨input, hinput, hrec⟩ := hfresh.input
      refine ⟨x, List.mem_append_right _ List.mem_cons_self, input, ⟨hinput, fun hq => ?_, ?_⟩, hrec⟩
      · obtain ⟨i, hi, hk⟩ := (queuedIn_iff hx.before).1 hq
        have hlt := hx.before.ok.below i (owned_of_queued hi)
        rw [hk] at hlt
        exact absurd hfresh.floor (not_le.2 hlt)
      · exact (queuedIn_iff hx.after).2 ⟨j, hfresh.queued, rfl⟩

theorem StrictFifo.step (h : StrictFifo history) (hlog : Logged history v) (hx : Recorded device x v v') :
    StrictFifo (history ++ [x]) := by
  refine ⟨forall_mem_concat h.decodes hx.decodes, pairwise_concat h.ordered ?_, pairwise_concat h.retired ?_, ?_,
    pairwise_concat h.once ?_⟩
  · intro entry he e e' hse hse'
    obtain ⟨slot, hair⟩ := hx.onAir e' hse'
    rw [identityLe_iff, hair.key, hair.inherits.event.key]
    exact hlog.sentLeast entry he e hse slot (hair.inherits.queued hair.queued)
  · intro entry he event hr hse
    obtain ⟨slot, hair⟩ := hx.onAir event hse
    refine hlog.gone entry he _ _ hr slot (hair.inherits.queued hair.queued) ?_
    rw [hair.key, hair.inherits.event.key]
  · intro past entry rest event hsplit hse
    rcases split_concat hsplit with ⟨rfl, rfl, -⟩ | ⟨rest', hsplit, -⟩
    · obtain ⟨slot, hair⟩ := hx.onAir event hse
      obtain ⟨creation, hcr, input, hc, hrec⟩ := hlog.born slot hair.inherits.owned
      rw [← hair.inherits.event.epoch, ← hair.inherits.event.id, ← hair.epoch, ← hair.id] at hc
      exact ⟨creation, hcr, input, hc, hair.content input (hrec.same hair.inherits.event)⟩
    · exact h.created past entry rest' event hsplit hse
  · intro entry he epoch id input input' hc hc'
    exact absurd (hx.creates hc') (not_le.2 (hlog.bornBelow entry he epoch id input hc))

theorem WithinBudget.step (h : WithinBudget history) (hlog : Logged history v) (hx : Recorded device x v v') :
    WithinBudget (history ++ [x]) := by
  refine ⟨forall_mem_concat h.decodes hx.decodes, fun epoch id => ?_, ?_⟩
  · by_cases hsend : ∃ event, x.sends event ∧ event.epoch = epoch ∧ event.id = id
    · obtain ⟨event, hse, rfl, rfl⟩ := hsend
      obtain ⟨slot, hair⟩ := hx.onAir event hse
      have hvalid := (validateNodeRecord_owned (owned_of_queued hair.queued)).1 (hx.after.valid slot)
      exact (hlog.onAir hair hse).trans hvalid.1
    · rw [transmissions_of_not_sends fun event hse hid => hsend ⟨event, hse, hid⟩]
      exact h.total epoch id
  · intro past entry rest event hsplit hse
    rcases split_concat hsplit with ⟨rfl, rfl, -⟩ | ⟨rest', hsplit, -⟩
    · obtain ⟨slot, hair⟩ := hx.onAir event hse
      exact ⟨_, (holdsRecord_iff hx.after).2 ⟨slot, rfl⟩, hair.epoch.symm, hair.id.symm, hlog.onAir hair hse⟩
    · exact h.charged past entry rest' event hsplit hse

end Logged

/-- An identity is created once, so with one input. -/
theorem StrictFifo.input_unique {history : List Entry} (h : StrictFifo history) {x x' : Entry} (hx : x ∈ history)
    (hx' : x' ∈ history) {epoch id : UInt32} {input input' : EventInput} (hc : x.creates epoch id input)
    (hc' : x'.creates epoch id input') : input = input' := by
  have hsame : x = x' := by
    by_contra hne
    have : Std.Symm fun i j : Entry => ∀ epoch id input input', i.creates epoch id input →
        ¬ j.creates epoch id input' := ⟨fun i j h epoch id input input' hj hi => h epoch id input' input hi hj⟩
    exact List.Pairwise.forall h.once hx hx' hne _ _ _ _ hc hc'
  subst hsame
  exact Option.some.inj (hc.1.symm.trans hc'.1)

/-- The Event that has been sent under an identity is the one that was created. -/
theorem StrictFifo.carries {history : List Entry} (h : StrictFifo history) {entry x : Entry} (he : entry ∈ history)
    (hx : x ∈ history) {event : Event} {input : EventInput} (hse : entry.sends event)
    (hc : x.creates event.epoch event.id input) : Carries event input := by
  obtain ⟨past, rest, hsplit⟩ := List.append_of_mem he
  obtain ⟨creation, hcr, input', hc', hcarries⟩ := h.created past entry rest event hsplit hse
  have hcr : creation ∈ history := by
    rw [hsplit]
    exact List.mem_append_left _ hcr
  rw [h.input_unique hx hcr hc hc']
  exact hcarries

/-- **What has been sent under an identity is what the record of the identity holds.** -/
theorem Logged.content {history : List Entry} {v : View} (hlog : Logged history v) (hfifo : StrictFifo history)
    {entry : Entry} (he : entry ∈ history) {event : Event} (hse : entry.sends event) {j : SlotIndex}
    (hj : (v.records j).Owned) (hepoch : (v.records j).eventEpoch = event.epoch)
    (hid : (v.records j).eventId = event.id) : ∃ input, RecordOf (v.records j) input ∧ Carries event input := by
  obtain ⟨creation, hcr, input, hc, hrec⟩ := hlog.born j hj
  rw [hepoch, hid] at hc
  exact ⟨input, hrec, hfifo.carries he hcr hse hc⟩

/-! ### The history of every Node -/

section History

variable {device hub : UInt8} {history : List Entry} {v : View}

/-- Nothing has been queued and nothing has gone on the air. -/
def Silent (history : List Entry) : Prop :=
  ∀ entry ∈ history, entry.radio.Quiet ∧ ∀ epoch id, ¬ QueuedIn entry.before.image epoch id ∧
    ¬ QueuedIn entry.after.image epoch id

theorem Silent.not_sends (h : Silent history) {entry : Entry} (he : entry ∈ history) (event : Event) :
    ¬ entry.sends event := by
  intro hse
  rw [Entry.sends, (h entry he).1.event?] at hse
  cases hse

theorem Silent.not_retires (h : Silent history) {entry : Entry} (he : entry ∈ history) (epoch id : UInt32) :
    ¬ entry.retires epoch id := fun hr => ((h entry he).2 epoch id).1 hr.1

theorem Silent.not_creates (h : Silent history) {entry : Entry} (he : entry ∈ history) (epoch id : UInt32)
    (input : EventInput) : ¬ entry.creates epoch id input := fun hc => ((h entry he).2 epoch id).2 hc.2.2

theorem Silent.logged (h : Silent history) (hv : v.Vacant) : Logged history v :=
  ⟨fun _ he event hse => absurd hse (h.not_sends he event), fun _ he event hse => absurd hse (h.not_sends he event),
    fun _ he epoch id hr => absurd hr (h.not_retires he epoch id),
    fun _ he epoch id hr => absurd hr (h.not_retires he epoch id),
    fun _ he epoch id input hc => absurd hc (h.not_creates he epoch id input),
    fun j hj => absurd (hv j) hj, fun j hj => absurd (hv j) hj⟩

theorem Silent.strictFifo (h : Silent history) : StrictFifo history := by
  refine ⟨fun entry he bytes hb => absurd hb ((h entry he).1 bytes), ?_, ?_, ?_, ?_⟩
  · exact List.pairwise_of_forall_mem_list fun i hi j _ e e' hse => absurd hse (h.not_sends hi e)
  · exact List.pairwise_of_forall_mem_list fun i hi j _ event hr => absurd hr (h.not_retires hi _ _)
  · rintro past entry rest event rfl hse
    exact absurd hse (h.not_sends (by simp) event)
  · exact List.pairwise_of_forall_mem_list fun i hi j _ epoch id input input' hc =>
      absurd hc (h.not_creates hi epoch id input)

theorem Silent.withinBudget (h : Silent history) : WithinBudget history := by
  refine ⟨fun entry he bytes hb => absurd hb ((h entry he).1 bytes), fun epoch id => ?_, ?_⟩
  · rw [transmissions_eq_zero fun entry he event hse => absurd hse (h.not_sends he event)]
    exact Nat.zero_le _
  · rintro past entry rest event rfl hse
    exact absurd hse (h.not_sends (by simp) event)

theorem Silent.concat (h : Silent history) {x : Entry} (hq : x.radio.Quiet)
    (hbefore : ∀ epoch id, ¬ QueuedIn x.before.image epoch id)
    (hafter : ∀ epoch id, ¬ QueuedIn x.after.image epoch id) : Silent (history ++ [x]) := by
  intro entry he
  rcases List.mem_append.1 he with he | he
  · exact h entry he
  · rw [List.mem_singleton.1 he]
    exact ⟨hq, fun epoch id => ⟨hbefore epoch id, hafter epoch id⟩⟩

/-- **The invariant of a history**: the Node sleeps and nothing has happened, or it is alive and its history fits its
view. -/
def Consistent (device hub : UInt8) (c : Chronicle) : Prop :=
  (Asleep device hub c.machine ∧ Silent c.history) ∨
    ∃ v, Alive device hub c.machine v ∧ Logged c.history v ∧ StrictFifo c.history ∧ WithinBudget c.history

theorem Alive.recorded {m : Machine} {v' : View} (h : Alive device hub m v) {a : Action}
    (h' : Alive device hub (m.step device hub a).1 v') (ht : Turn device hub a v v' (m.step device hub a).2) :
    Recorded device ⟨m, a, (m.step device hub a).1, (m.step device hub a).2⟩ v v' := by
  refine ⟨h.stored, h'.stored, ht.descends, fun bytes hb => ?_, fun event hse => ?_⟩
  · rw [show (m.step device hub a).2 = .transmit bytes from hb] at ht
    obtain ⟨slot, event, hdec, -⟩ := ht.onAir h'.stored
    exact ⟨event, hdec⟩
  · cases hradio : (m.step device hub a).2 with
    | none =>
      rw [Entry.sends, hradio] at hse
      cases hse
    | receive =>
      rw [Entry.sends, hradio] at hse
      cases hse
    | transmit bytes =>
      rw [hradio] at ht
      obtain ⟨slot, event', hdec, hair⟩ := ht.onAir h'.stored
      rw [Entry.sends, hradio, RadioAction.event?, hdec] at hse
      cases hse
      exact ⟨slot, hair⟩

theorem Consistent.step {c : Chronicle} (h : Consistent device hub c) (a : Action) :
    Consistent device hub (c.step device hub a) := by
  rcases h with ⟨hasleep, hsilent⟩ | ⟨v, halive, hlog, hfifo, hbudget⟩
  · obtain ⟨hwakes, hq⟩ := hasleep.step a
    rcases hwakes with hasleep' | ⟨v', halive', hvac⟩
    · exact Or.inl ⟨hasleep', hsilent.concat hq hasleep.dormant.not_queuedIn hasleep'.dormant.not_queuedIn⟩
    · have hempty : ∀ epoch id, ¬ QueuedIn (c.machine.step device hub a).1.image epoch id := by
        intro epoch id hqueued
        obtain ⟨i, hi, -⟩ := (queuedIn_iff halive'.stored).1 hqueued
        rw [hvac i] at hi
        cases hi
      have hsilent' := hsilent.concat (x := ⟨c.machine, a, _, _⟩) hq hasleep.dormant.not_queuedIn hempty
      exact Or.inr ⟨v', halive', hsilent'.logged hvac, hsilent'.strictFifo, hsilent'.withinBudget⟩
  · obtain ⟨v', halive', hturn⟩ := halive.step a
    have hx := halive.recorded halive' hturn
    exact Or.inr ⟨v', halive', hlog.step hx, hfifo.step hlog hx, hbudget.step hlog hx⟩

theorem Consistent.strictFifo {c : Chronicle} (h : Consistent device hub c) : StrictFifo c.history := by
  rcases h with ⟨-, hsilent⟩ | ⟨v, -, -, hfifo, -⟩
  · exact hsilent.strictFifo
  · exact hfifo

theorem consistent_chronicle {img : Image} (h : Dormant img) (actions : List Action) :
    Consistent device hub (chronicle device hub img actions) := by
  refine List.foldlRecOn actions _ (Or.inl ⟨⟨h, rfl, fun v => ?_, configured_initial⟩, fun entry he => (by cases he)⟩)
    fun c hc a _ => hc.step a
  exact .of_state RuntimeState.noConfusion RuntimeState.noConfusion

theorem dormant_blank : Dormant blankImage := (initializing_of_missing fun _ _ => rfl).dormant

/-- A first boot, the creation of a manual check-in, and its first transmission. -/
def firstDelivery : List Action :=
  [.call (.boot (some 7)) 0 none, .call (.create ⟨Family.manualCheckIn, 0, 60, 1, bodyOf [1]⟩) 1 none,
    .call (.service false 0) 2 none, .call (.grantTransmit (some 9)) 3 none]

/-- **The Node transmits in strict FIFO order.** -/
theorem strict_fifo {img : Image} (h : Dormant img) (actions : List Action) :
    StrictFifo (chronicle device hub img actions).history :=
  (consistent_chronicle h actions).strictFifo

theorem strict_fifo_first_delivery :
    ((chronicle 2 1 blankImage firstDelivery).history.map fun entry =>
        entry.radio.event?.map fun event => (event.epoch, event.id)) =
      [none, none, none, some (7, 1)] ∧ StrictFifo (chronicle 2 1 blankImage firstDelivery).history :=
  ⟨by decide +kernel, strict_fifo dormant_blank firstDelivery⟩

/-- **No identity is transmitted more than five times, and every attempt is charged before it is made.** -/
theorem attempt_budget {img : Image} (h : Dormant img) (actions : List Action) :
    WithinBudget (chronicle device hub img actions).history := by
  rcases consistent_chronicle h actions with ⟨-, hsilent⟩ | ⟨v, -, -, -, hbudget⟩
  · exact hsilent.withinBudget
  · exact hbudget

theorem attempt_budget_first_delivery :
    transmissions (chronicle 2 1 blankImage firstDelivery).history 7 1 = 1 ∧
      WithinBudget (chronicle 2 1 blankImage firstDelivery).history :=
  ⟨by decide +kernel, attempt_budget dormant_blank firstDelivery⟩

end History

end Redline.Node
