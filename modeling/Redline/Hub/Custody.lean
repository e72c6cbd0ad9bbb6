import Redline.Hub.Machine

/-!
# Custody

The turns of a ledger, read off the images alone.  `Moved` says which records the flash holds after an action:
an ACTIVE record stays ACTIVE with its Event, or it is consumed by the Host; a tombstone goes only for a later
Event; and a record that was not there before is the one of the Event that was received.
-/

namespace Redline.Hub

open Redline.Wire Redline.Records Redline.Lib

/-- The record in force of some slot of the image. -/
def HoldsRecord (img : Image) (r : HubRecord) : Prop := ∃ slot c, SlotHolds img slot c r

/-- The image holds an ACTIVE record of the identity. -/
def ActiveIn (img : Image) (identity : Identity) : Prop :=
  ∃ r, HoldsRecord img r ∧ r.state = .active ∧ r.identity = identity

/-- The image holds a tombstone of the identity. -/
def ConsumedIn (img : Image) (identity : Identity) : Prop :=
  ∃ r, HoldsRecord img r ∧ r.state = .consumed ∧ r.identity = identity

/-- The image holds a record of the identity. -/
def OwnedIn (img : Image) (identity : Identity) : Prop :=
  ∃ r, HoldsRecord img r ∧ r.Owned ∧ r.identity = identity

theorem ownedIn_iff_exists {img : Image} {identity : Identity} :
    OwnedIn img identity ↔ ∃ slot, ∃ c ∈ [CopySlot.A, .B], ∃ r ∈ (img.slotCells slot c).bind decodeHubRecordForSelection,
      SlotHolds img slot c r ∧ r.state ≠ .empty ∧ r.identity = identity := by
  constructor
  · rintro ⟨r, ⟨slot, c, hr⟩, ho⟩
    exact ⟨slot, c, by cases c <;> simp, r, hr.1, hr, ho⟩
  · rintro ⟨slot, c, -, r, -, hr, ho⟩
    exact ⟨r, ⟨slot, c, hr⟩, ho⟩

instance (img : Image) (slot : SlotIndex) (c : CopySlot) (r : HubRecord) : Decidable (SlotHolds img slot c r) :=
  inferInstanceAs (Decidable (Holds _ _ _ c r))

instance (img : Image) (identity : Identity) : Decidable (OwnedIn img identity) :=
  decidable_of_iff _ ownedIn_iff_exists.symm

/-- The two records are of one Event, under one ordinal. -/
structure SameEvent (r r' : HubRecord) : Prop where
  identity : r'.identity = r.identity
  family : r'.family = r.family
  flags : r'.flags = r.flags
  lifetime : r'.lifetimeBudgetSeconds = r.lifetimeBudgetSeconds
  bodyLength : r'.bodyLength = r.bodyLength
  body : r'.body = r.body
  ordinal : r'.admissionOrdinal = r.admissionOrdinal

theorem SameEvent.refl (r : HubRecord) : SameEvent r r := ⟨rfl, rfl, rfl, rfl, rfl, rfl, rfl⟩

theorem SameEvent.symm {r r' : HubRecord} (h : SameEvent r r') : SameEvent r' r :=
  ⟨h.identity.symm, h.family.symm, h.flags.symm, h.lifetime.symm, h.bodyLength.symm, h.body.symm, h.ordinal.symm⟩

theorem SameEvent.trans {r r' r'' : HubRecord} (h : SameEvent r r') (h' : SameEvent r' r'') : SameEvent r r'' :=
  ⟨h'.identity.trans h.identity, h'.family.trans h.family, h'.flags.trans h.flags, h'.lifetime.trans h.lifetime,
    h'.bodyLength.trans h.bodyLength, h'.body.trans h.body, h'.ordinal.trans h.ordinal⟩

theorem sameEvent_consume (r : HubRecord) : SameEvent r r.consume := ⟨rfl, rfl, rfl, rfl, rfl, rfl, rfl⟩

/-- **What an action does to the records in force.** -/
structure Moved (hub node : UInt8) (a : Action) (img img' : Image) : Prop where
  active : ∀ r, HoldsRecord img r → r.state = .active →
    (∃ r', HoldsRecord img' r' ∧ r'.state = .active ∧ SameEvent r r') ∨
      a.consumes? = some r.identity ∧ ConsumedIn img' r.identity
  forgotten : ∀ r, HoldsRecord img r → r.Owned → OwnedIn img' r.identity ∨
    r.state = .consumed ∧ ∃ event, a.event? hub node = some event ∧ Ledger.incomingLater event r = true
  origin : ∀ r', HoldsRecord img' r' → r'.Owned →
    (∃ r, HoldsRecord img r ∧ r.Owned ∧ SameEvent r r' ∧ (r'.state = .active → r.state = .active)) ∨
      r'.state = .active ∧ ¬ OwnedIn img r'.identity ∧
        ∃ event, a.event? hub node = some event ∧ Ledger.sameCanonical r' event = true

/-- An ADMITTED response answers the Event that was received, and the image holds it. -/
def Custody (hub node : UInt8) (a : Action) (img : Image) (response : Option Bytes) : Prop :=
  ∀ bytes, response = some bytes → ∃ event answer, a.event? hub node = some event ∧
    decodeAdmissionResponse bytes = some answer ∧ answer.source = event.destination ∧ answer.epoch = event.epoch ∧
    answer.id = event.id ∧ (answer.status = .admitted →
      ∃ r, HoldsRecord img r ∧ r.Owned ∧ Ledger.sameCanonical r event = true)

/-- The ledger has started, or its flash owns nothing. -/
def Living (hub node : UInt8) (m : Machine) : Prop := Asleep m ∨ ∃ v, Alive hub node m v

section Images

variable {hub node : UInt8} {img img' : Image} {v v' : View} {a : Action} {response : Option Bytes}

theorem holdsRecord_iff (h : Stored img v) {r : HubRecord} : HoldsRecord img r ↔ ∃ i, v.records i = r := by
  obtain ⟨md, hd, -⟩ := h.durable
  constructor
  · rintro ⟨slot, c, hr⟩
    obtain ⟨c', hr'⟩ := hd.slot slot
    exact ⟨slot, (hr'.unique hr).2⟩
  · rintro ⟨i, rfl⟩
    obtain ⟨c, hr⟩ := hd.slot i
    exact ⟨i, c, hr⟩

theorem HoldsRecord.valid {r : HubRecord} (h : HoldsRecord img r) : validateHubRecord r = .ok () := by
  obtain ⟨slot, c, hr⟩ := h
  exact SlotHolds.valid hr

theorem owned_of_active {r : HubRecord} (h : r.state = .active) : r.Owned := by
  rw [HubRecord.Owned, h]
  exact HubState.noConfusion

theorem owned_of_consumed {r : HubRecord} (h : r.state = .consumed) : r.Owned := by
  rw [HubRecord.Owned, h]
  exact HubState.noConfusion

/-- Nothing is held before the first start. -/
theorem Unborn.not_owned (h : Unborn img) {r : HubRecord} (hr : HoldsRecord img r) : ¬ r.Owned := by
  obtain ⟨slot, c, hr⟩ := hr
  rw [(h.holds hr).2]
  exact fun hc => hc rfl

theorem Stored.not_owned_of_vacant (h : Stored img v) (hv : v.Vacant) {r : HubRecord} (hr : HoldsRecord img r) :
    ¬ r.Owned := by
  obtain ⟨i, rfl⟩ := (holdsRecord_iff h).1 hr
  exact fun hc => hc (hv i)

theorem Moved.of_empty (h : ∀ r, HoldsRecord img r → ¬ r.Owned) (h' : ∀ r, HoldsRecord img' r → ¬ r.Owned) :
    Moved hub node a img img' :=
  ⟨fun r hr hs => absurd (owned_of_active hs) (h r hr), fun r hr ho => absurd ho (h r hr),
    fun r hr ho => absurd ho (h' r hr)⟩

theorem Turn.moved (h : Stored img v) (h' : Stored img' v') (ht : Turn hub node a v v' response) :
    Moved hub node a img img' := by
  cases ht with
  | stays hsame _ =>
    have hrec : ∀ r, HoldsRecord img' r ↔ HoldsRecord img r := fun r => by
      rw [holdsRecord_iff h, holdsRecord_iff h', hsame]
    exact ⟨fun r hr hs => Or.inl ⟨r, (hrec r).2 hr, hs, .refl r⟩,
      fun r hr ho => Or.inl ⟨r, (hrec r).2 hr, ho, rfl⟩,
      fun r hr ho => Or.inl ⟨r, (hrec r).1 hr, ho, .refl r, id⟩⟩
  | @admitted slot event ordinal _ hevent htail hfresh htarget _ =>
    have hother : ∀ i, i ≠ slot → HoldsRecord img' (v.records i) := fun i hi =>
      (holdsRecord_iff h').2 ⟨i, by rw [View.admitted_records, Function.update_of_ne hi]⟩
    refine ⟨fun r hr hs => ?_, fun r hr ho => ?_, fun r hr ho => ?_⟩
    · obtain ⟨i, rfl⟩ := (holdsRecord_iff h).1 hr
      by_cases hi : i = slot
      · subst hi
        rcases htarget with hempty | ⟨hcons, -⟩
        · rw [hempty] at hs
          cases hs
        · rw [hcons] at hs
          cases hs
      · exact Or.inl ⟨_, hother i hi, hs, .refl _⟩
    · obtain ⟨i, rfl⟩ := (holdsRecord_iff h).1 hr
      by_cases hi : i = slot
      · subst hi
        rcases htarget with hempty | ⟨hcons, hlater⟩
        · exact absurd hempty ho
        · exact Or.inr ⟨hcons, event, hevent, hlater⟩
      · exact Or.inl ⟨_, hother i hi, ho, rfl⟩
    · obtain ⟨i, rfl⟩ := (holdsRecord_iff h').1 hr
      by_cases hi : i = slot
      · subst hi
        rw [View.admitted_records, Function.update_self]
        refine Or.inr ⟨rfl, ?_, event, hevent, sameCanonical_admittedRecord htail _ _⟩
        rintro ⟨r, hr, ho, hid⟩
        obtain ⟨j, rfl⟩ := (holdsRecord_iff h).1 hr
        exact hfresh j ho hid
      · rw [View.admitted_records, Function.update_of_ne hi] at ho ⊢
        exact Or.inl ⟨_, (holdsRecord_iff h).2 ⟨i, rfl⟩, ho, .refl _, id⟩
  | @consumed slot identity hidentity hactive hsame =>
    have hother : ∀ i, i ≠ slot → HoldsRecord img' (v.records i) := fun i hi =>
      (holdsRecord_iff h').2 ⟨i, by rw [View.consumed_records, Function.update_of_ne hi]⟩
    have hslot : HoldsRecord img' (v.records slot).consume :=
      (holdsRecord_iff h').2 ⟨slot, by rw [View.consumed_records, Function.update_self]⟩
    refine ⟨fun r hr hs => ?_, fun r hr ho => ?_, fun r hr ho => ?_⟩
    · obtain ⟨i, rfl⟩ := (holdsRecord_iff h).1 hr
      by_cases hi : i = slot
      · subst hi
        rw [hsame]
        exact Or.inr ⟨hidentity, _, hslot, rfl, hsame⟩
      · exact Or.inl ⟨_, hother i hi, hs, .refl _⟩
    · obtain ⟨i, rfl⟩ := (holdsRecord_iff h).1 hr
      by_cases hi : i = slot
      · subst hi
        exact Or.inl ⟨_, hslot, HubState.noConfusion, rfl⟩
      · exact Or.inl ⟨_, hother i hi, ho, rfl⟩
    · obtain ⟨i, rfl⟩ := (holdsRecord_iff h').1 hr
      by_cases hi : i = slot
      · subst hi
        rw [View.consumed_records, Function.update_self]
        exact Or.inl ⟨_, (holdsRecord_iff h).2 ⟨i, rfl⟩, owned_of_active hactive, sameEvent_consume _,
          fun _ => hactive⟩
      · rw [View.consumed_records, Function.update_of_ne hi] at ho ⊢
        exact Or.inl ⟨_, (holdsRecord_iff h).2 ⟨i, rfl⟩, ho, .refl _, id⟩

theorem Turn.acknowledges (ht : Turn hub node a v v' response) : Acknowledges hub node a v' response := by
  cases ht with
  | stays _ hack => exact hack
  | admitted _ _ _ _ hack => exact hack
  | consumed _ _ _ => exact acknowledges_none

theorem Acknowledges.custody (h : Acknowledges hub node a v response) (hst : Stored img v) :
    Custody hub node a img response := by
  intro bytes hb
  obtain ⟨event, answer, he, hdec, hs, hep, hid, hown⟩ := h bytes hb
  refine ⟨event, answer, he, hdec, hs, hep, hid, fun hadm => ?_⟩
  obtain ⟨slot, ho, hsame⟩ := hown hadm
  exact ⟨_, (holdsRecord_iff hst).2 ⟨slot, rfl⟩, ho, hsame⟩

theorem Refuses.custody (h : Refuses hub node a response) : Custody hub node a img response := by
  intro bytes hb
  obtain ⟨event, answer, he, hdec, hs, hep, hid, hown⟩ := h bytes hb
  refine ⟨event, answer, he, hdec, hs, hep, hid, fun hadm => ?_⟩
  obtain ⟨slot, ho, -⟩ := hown hadm
  exact absurd rfl ho

/-- **Every action of a Hub keeps custody.** -/
theorem Living.step {m : Machine} (h : Living hub node m) (a : Action) :
    Living hub node (m.step hub node a).1 ∧ Moved hub node a m.image (m.step hub node a).1.image ∧
      Custody hub node a (m.step hub node a).1.image (m.step hub node a).2 := by
  rcases h with hasleep | ⟨v, halive⟩
  · have hstep : Wakes hub node (m.step hub node a).1 ∧ Refuses hub node a (m.step hub node a).2 := hasleep.step a
    obtain ⟨hwakes, hrefuses⟩ := hstep
    have hbefore : ∀ r, HoldsRecord m.image r → ¬ r.Owned := fun r hr => hasleep.unborn.not_owned hr
    rcases hwakes with hasleep' | ⟨v', halive', hvac⟩
    · exact ⟨Or.inl hasleep', .of_empty hbefore fun r hr => hasleep'.unborn.not_owned hr, hrefuses.custody⟩
    · exact ⟨Or.inr ⟨v', halive'⟩, .of_empty hbefore fun r hr => halive'.stored.not_owned_of_vacant hvac hr,
        hrefuses.custody⟩
  · obtain ⟨v', halive', hturn⟩ := halive.step a
    exact ⟨Or.inr ⟨v', halive'⟩, hturn.moved halive.stored halive'.stored,
      hturn.acknowledges.custody halive'.stored⟩

/-- The records in force differ in identity. -/
theorem Living.unique {m : Machine} (h : Living hub node m) {r r' : HubRecord} (hr : HoldsRecord m.image r)
    (hr' : HoldsRecord m.image r') (ho : r.Owned) (ho' : r'.Owned) (hid : r.identity = r'.identity) : r = r' := by
  rcases h with hasleep | ⟨v, halive⟩
  · exact absurd ho (hasleep.unborn.not_owned hr)
  · obtain ⟨i, rfl⟩ := (holdsRecord_iff halive.stored).1 hr
    obtain ⟨j, rfl⟩ := (holdsRecord_iff halive.stored).1 hr'
    rw [halive.stored.ok.identity i j ho ho' hid]

end Images

end Redline.Hub
