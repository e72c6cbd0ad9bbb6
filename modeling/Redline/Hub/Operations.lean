import Mathlib.Data.List.Induction
import Redline.Hub.Commit

/-!
# Admission and consumption

The ledger as it is meant: a `View` has the record of every slot and a mark above the ordinals in use.
Two things happen to it: an Event that no slot owns is admitted, in an EMPTY slot or over a tombstone
of an earlier Event, under the mark or a later ordinal; and an ACTIVE record becomes CONSUMED.

`Sound l img v` says that the RAM `l` and the image `img` both stand for `v`; `Stored img v` that the
image does.  `ensures_admitEvent` and `ensures_consume`: both keep `Sound`, and wherever they are cut the
image stands for the view before or the view after.
-/

namespace Redline.Records

/-- The record owns an Event. -/
def HubRecord.Owned (r : HubRecord) : Prop := r.state ≠ .empty

instance HubRecord.decidableOwned (r : HubRecord) : Decidable r.Owned := inferInstanceAs (Decidable (_ ≠ _))

/-- The identity a record carries. -/
def HubRecord.identity (r : HubRecord) : Wire.Identity := ⟨r.sourceDeviceId, r.eventEpoch, r.eventId⟩

def HubRecord.consume (r : HubRecord) : HubRecord :=
  { r with generation := r.generation + 1, state := .consumed }

end Redline.Records

namespace Redline.Hub

open Redline.Wire Redline.Records Redline.Lib

theorem isOwned_iff {r : HubRecord} : Ledger.isOwned r = true ↔ r.Owned := by
  cases h : r.state <;> simp [Ledger.isOwned, HubRecord.Owned, h]

/-- The identity of an Event on the air. -/
def eventIdentity (event : Event) : Identity := ⟨event.source, event.epoch, event.id⟩

theorem sameIdentity_iff {r : HubRecord} {event : Event} :
    Ledger.sameIdentity r event = true ↔ r.identity = eventIdentity event := by
  simp [Ledger.sameIdentity, HubRecord.identity, eventIdentity, and_assoc]

theorem hasIdentity_iff {r : HubRecord} {identity : Identity} :
    Ledger.hasIdentity r identity = true ↔ r.identity = identity := by
  cases identity
  simp [Ledger.hasIdentity, HubRecord.identity, and_assoc]

/-! ### Views -/

/-- The record of every slot, and a bound above the ordinals in use. -/
structure View where
  records : SlotIndex → HubRecord
  mark : ℕ

namespace View

/-- Owned slots differ in identity and in ordinal, and their ordinals lie below the mark. -/
structure Ok (v : View) : Prop where
  identity : ∀ i j, (v.records i).Owned → (v.records j).Owned →
    (v.records i).identity = (v.records j).identity → i = j
  ordinal : ∀ i j, (v.records i).Owned → (v.records j).Owned →
    (v.records i).admissionOrdinal = (v.records j).admissionOrdinal → i = j
  below : ∀ i, (v.records i).Owned → (v.records i).admissionOrdinal.toNat < v.mark

/-- An ACTIVE record is consumed. -/
def consumed (v : View) (slot : SlotIndex) : View :=
  { v with records := Function.update v.records slot (v.records slot).consume }

/-- A record is put in a slot under a new ordinal. -/
def admitted (v : View) (slot : SlotIndex) (event : Event) (ordinal : UInt32) : View :=
  ⟨Function.update v.records slot (Ledger.admittedRecord ((v.records slot).generation + 1) event ordinal),
    ordinal.toNat + 1⟩

@[simp] theorem consumed_records (v : View) (slot : SlotIndex) :
    (v.consumed slot).records = Function.update v.records slot (v.records slot).consume := rfl

@[simp] theorem consumed_mark (v : View) (slot : SlotIndex) : (v.consumed slot).mark = v.mark := rfl

@[simp] theorem admitted_records (v : View) (slot : SlotIndex) (event : Event) (ordinal : UInt32) :
    (v.admitted slot event ordinal).records = Function.update v.records slot
      (Ledger.admittedRecord ((v.records slot).generation + 1) event ordinal) := rfl

@[simp] theorem admitted_mark (v : View) (slot : SlotIndex) (event : Event) (ordinal : UInt32) :
    (v.admitted slot event ordinal).mark = ordinal.toNat + 1 := rfl

theorem Ok.consumed {v : View} (h : v.Ok) {slot : SlotIndex} (ha : (v.records slot).state = .active) :
    (v.consumed slot).Ok := by
  have hown : (v.records slot).Owned := by rw [HubRecord.Owned, ha]; decide
  -- identity, ordinal and ownership stay as they are
  have hsame : ∀ i, (((v.consumed slot).records i).Owned → (v.records i).Owned) ∧
      ((v.consumed slot).records i).identity = (v.records i).identity ∧
      ((v.consumed slot).records i).admissionOrdinal = (v.records i).admissionOrdinal := by
    intro i
    rw [consumed_records]
    by_cases hi : i = slot
    · subst hi
      rw [Function.update_self]
      exact ⟨fun _ => hown, rfl, rfl⟩
    · rw [Function.update_of_ne hi]
      exact ⟨id, rfl, rfl⟩
  refine ⟨fun i j hi hj he => ?_, fun i j hi hj he => ?_, fun i hi => ?_⟩
  · rw [(hsame i).2.1, (hsame j).2.1] at he
    exact h.identity i j ((hsame i).1 hi) ((hsame j).1 hj) he
  · rw [(hsame i).2.2, (hsame j).2.2] at he
    exact h.ordinal i j ((hsame i).1 hi) ((hsame j).1 hj) he
  · rw [(hsame i).2.2]
    exact h.below i ((hsame i).1 hi)

theorem Ok.admitted {v : View} (h : v.Ok) (slot : SlotIndex) {event : Event} {ordinal : UInt32}
    (hfresh : ∀ i, (v.records i).Owned → (v.records i).identity ≠ eventIdentity event)
    (hmark : v.mark ≤ ordinal.toNat) : (v.admitted slot event ordinal).Ok := by
  set r := Ledger.admittedRecord ((v.records slot).generation + 1) event ordinal with hr
  have hnew : (v.admitted slot event ordinal).records slot = r := by
    rw [admitted_records, Function.update_self]
  have hother : ∀ i, i ≠ slot → (v.admitted slot event ordinal).records i = v.records i := by
    intro i hi
    rw [admitted_records, Function.update_of_ne hi]
  have hord : ∀ i, (v.records i).Owned → (v.records i).admissionOrdinal ≠ ordinal := by
    intro i hi he
    have := h.below i hi
    rw [he] at this
    omega
  refine ⟨fun i j hi hj he => ?_, fun i j hi hj he => ?_, fun i hi => ?_⟩
  · by_cases his : i = slot <;> by_cases hjs : j = slot
    · rw [his, hjs]
    · rw [hother j hjs] at hj he
      rw [his, hnew] at he
      exact absurd he.symm (hfresh j hj)
    · rw [hother i his] at hi he
      rw [hjs, hnew] at he
      exact absurd he (hfresh i hi)
    · rw [hother i his] at hi he
      rw [hother j hjs] at hj he
      exact h.identity i j hi hj he
  · by_cases his : i = slot <;> by_cases hjs : j = slot
    · rw [his, hjs]
    · rw [hother j hjs] at hj he
      rw [his, hnew] at he
      exact absurd he.symm (hord j hj)
    · rw [hother i his] at hi he
      rw [hjs, hnew] at he
      exact absurd he (hord i hi)
    · rw [hother i his] at hi he
      rw [hother j hjs] at hj he
      exact h.ordinal i j hi hj he
  · rw [admitted_mark]
    by_cases his : i = slot
    · rw [his, hnew]
      exact Nat.lt_succ_self _
    · rw [hother i his] at hi ⊢
      have := h.below i hi
      omega

end View

/-! ### RAM and flash -/

def Ledger.records (l : Ledger) : SlotIndex → HubRecord := fun i => (l.slots i).record

@[simp] theorem Ledger.records_setSlot (l : Ledger) (slot : SlotIndex) (st : SlotState) :
    (l.setSlot slot st).records = Function.update l.records slot st.record := by
  funext i
  by_cases h : i = slot
  · subst h; simp [Ledger.records, Ledger.setSlot]
  · simp [Ledger.records, Ledger.setSlot, h]

/-- The slots in RAM are those of the image. -/
def SlotsMirror (l : Ledger) (img : Image) : Prop :=
  ∀ i, (l.slots i).present = true ∧ SlotHolds img i (l.slots i).activeCopy (l.slots i).record

/-- The image stands for the view. -/
structure Stored (img : Image) (v : View) : Prop where
  ok : v.Ok
  durable : ∃ m, Durable img v.records m ∧ Ledger.validHighWater m.nextUnreservedAdmissionOrdinal = true ∧
    v.mark ≤ m.nextUnreservedAdmissionOrdinal.toNat

/-- The cursor stands inside the block that the metadata has reserved last. -/
structure OrdinalCursor (l : Ledger) (mark : ℕ) : Prop where
  mark : mark ≤ l.nextVolatileOrdinal.toNat
  le : l.nextVolatileOrdinal.toNat ≤ l.volatileEndExclusive.toNat
  stop : l.volatileEndExclusive = l.metadata.nextUnreservedAdmissionOrdinal
  nonzero : l.nextVolatileOrdinal ≠ 0

/-- The RAM and the image stand for the view, and the ledger is in service. -/
structure Sound (l : Ledger) (img : Image) (v : View) : Prop where
  healthy : l.ledgerHealthy = true
  slots : SlotsMirror l img
  metadata : MetaHolds img l.metadataCopy l.metadata
  highWater : Ledger.validHighWater l.metadata.nextUnreservedAdmissionOrdinal = true
  /-- There is no block after a recovery, and none is reserved once the ordinals are used up. -/
  cursor : l.ordinalReady = true → l.nextVolatileOrdinal ≠ l.volatileEndExclusive → OrdinalCursor l v.mark
  ok : v.Ok
  records : l.records = v.records
  mark : v.mark ≤ l.metadata.nextUnreservedAdmissionOrdinal.toNat

theorem Sound.durable {l : Ledger} {img : Image} {v : View} (h : Sound l img v) :
    Durable img v.records l.metadata := by
  rw [← h.records]
  exact ⟨fun i => ⟨_, (h.slots i).2⟩, ⟨_, h.metadata⟩⟩

theorem Sound.stored {l : Ledger} {img : Image} {v : View} (h : Sound l img v) : Stored img v :=
  ⟨h.ok, l.metadata, h.durable, h.highWater, h.mark⟩

theorem Stored.unique {img : Image} {v v' : View} (h : Stored img v) (h' : Stored img v') :
    v.records = v'.records := by
  obtain ⟨m, hd, -⟩ := h.durable
  obtain ⟨m', hd', -⟩ := h'.durable
  exact (hd.unique hd').1

theorem Sound.slot {l : Ledger} {img : Image} {v : View} (h : Sound l img v) (i : SlotIndex) :
    SlotHolds img i (l.slots i).activeCopy (v.records i) := by
  rw [← h.records]
  exact (h.slots i).2

theorem Sound.record {l : Ledger} {img : Image} {v : View} (h : Sound l img v) (i : SlotIndex) :
    (l.slots i).record = v.records i := congrFun h.records i

/-- The ledger is in service: its slots are those of the image, the image stands for the view, and ordinals are
given out only under the metadata in force. -/
structure Serving (l : Ledger) (img : Image) (v : View) : Prop where
  healthy : l.ledgerHealthy = true
  slots : SlotsMirror l img
  records : l.records = v.records
  stored : Stored img v
  sound : l.ordinalReady = true → Sound l img v

theorem Sound.serving {l : Ledger} {img : Image} {v : View} (h : Sound l img v) : Serving l img v :=
  ⟨h.healthy, h.slots, h.records, h.stored, fun _ => h⟩

theorem Serving.slot {l : Ledger} {img : Image} {v : View} (h : Serving l img v) (i : SlotIndex) :
    SlotHolds img i (l.slots i).activeCopy (v.records i) := by
  rw [← h.records]
  exact (h.slots i).2

theorem Serving.record {l : Ledger} {img : Image} {v : View} (h : Serving l img v) (i : SlotIndex) :
    (l.slots i).record = v.records i := congrFun h.records i

/-- The metadata has been written, perhaps in vain, and the ledger gives out no ordinals. -/
theorem Serving.failOrdinal {l : Ledger} {img img' : Image} {v : View} (h : Serving l img v) (status : Ledger.Status)
    (hst : Stored img' v) (hslots : ∀ i, img'.slotCells i = img.slotCells i) :
    Serving (l.failOrdinal status) img' v :=
  ⟨h.healthy, fun i => ⟨(h.slots i).1, (h.slots i).2.congr (hslots i)⟩, h.records, hst, fun hr => by cases hr⟩

/-! ### Valid records -/

theorem validateHubRecord_owned {r : HubRecord} (h : r.Owned) :
    validateHubRecord r = .ok () ↔
      r.admissionOrdinal ≠ 0 ∧ validCanonicalEvent r.sourceDeviceId r.family r.flags r.bodyLength r.eventEpoch
        r.eventId r.lifetimeBudgetSeconds r.body = true ∧ zeroTail r.body r.bodyLength = true := by
  unfold validateHubRecord
  rw [if_neg h]
  by_cases h1 : r.admissionOrdinal = 0
  · simp [h1]
  · rw [if_neg h1]
    split
    · rename_i h2
      have h2 : validCanonicalEvent r.sourceDeviceId r.family r.flags r.bodyLength r.eventEpoch
        r.eventId r.lifetimeBudgetSeconds r.body = false := by simpa using h2
      simp [h2]
    · rename_i h2
      split
      · rename_i h3
        have h3 : zeroTail r.body r.bodyLength = false := by simpa using h3
        simp [h3]
      · rename_i h3
        simp at h2 h3
        simp [h1, h2, h3]

/-- An owned record has a nonzero ordinal. -/
theorem SlotHolds.ordinal_ne_zero {img : Image} {slot : SlotIndex} {c : CopySlot} {r : HubRecord}
    (h : SlotHolds img slot c r) (hown : r.Owned) : r.admissionOrdinal ≠ 0 :=
  ((validateHubRecord_owned hown).1 h.valid).1

theorem consume_valid {r : HubRecord} (hv : validateHubRecord r = .ok ()) (hown : r.Owned) :
    validateHubRecord r.consume = .ok () := by
  have hnew : r.consume.Owned := HubState.noConfusion
  exact (validateHubRecord_owned hnew).2 ((validateHubRecord_owned hown).1 hv)

/-- What the checks on an incoming Event have let through. -/
structure Admissible (event : Event) : Prop where
  source : event.source ≠ 0
  epoch : event.epoch ≠ 0
  id : event.id ≠ 0
  content : isValidContent event.family event.flags event.bodyLength event.lifetimeBudgetSeconds event.body = true
  tail : zeroTail event.body event.bodyLength = true

theorem admissible_of_validateAdmission {l : Ledger} {event : Event}
    (h : l.validateAdmission event = .durableNewAdmission) :
    Admissible event ∧ event.source = l.nodeDeviceId ∧ event.destination = l.hubDeviceId := by
  unfold Ledger.validateAdmission at h
  repeat' split at h
  all_goals cases h
  rename_i h1 h2 h3 h4
  simp [hasValidEndpoints] at h1 h3 h4
  obtain ⟨⟨⟨⟨⟨⟨hsource, -⟩, -⟩, hnode⟩, hhub⟩, hepoch⟩, hid⟩ := h1
  exact ⟨⟨hsource, hepoch, hid, h3, h4⟩, hnode, hhub⟩

theorem admittedRecord_valid {event : Event} (h : Admissible event) {ordinal : UInt32} (ho : ordinal ≠ 0)
    (generation : UInt32) :
    validateHubRecord (Ledger.admittedRecord generation event ordinal) = .ok () := by
  have hown : (Ledger.admittedRecord generation event ordinal).Owned := HubState.noConfusion
  have hbody := bodyOf_take h.tail
  rw [validateHubRecord_owned hown]
  refine ⟨ho, ?_, ?_⟩
  · simp [validCanonicalEvent, Ledger.admittedRecord, hbody, h.source, h.epoch, h.id, h.content]
  · simpa [Ledger.admittedRecord, hbody] using h.tail

/-! ### Ordinals -/

theorem validHighWater_iff {value : UInt32} :
    Ledger.validHighWater value = true ↔ value.toNat % 32 = 1 := by
  have hlt := value.toNat_lt
  simp only [Ledger.validHighWater, ordinalReservationBlockSize, Bool.and_eq_true, bne_iff_ne, ne_eq, beq_iff_eq,
    ← UInt32.toNat_inj, UInt32.toNat_mod, UInt32.toNat_sub, UInt32.toNat_ofNat, Nat.reducePow,
    Nat.reduceMod, Nat.reduceSub]
  omega

theorem toNat_add_block {value : UInt32} (h : ¬ value > 0xFFFFFFFF - ordinalReservationBlockSize) :
    (value + ordinalReservationBlockSize).toNat = value.toNat + 32 := by
  have hle : value.toNat ≤ 4294967263 := by
    have := UInt32.not_lt.1 h
    exact UInt32.le_iff_toNat_le.1 this
  simp only [ordinalReservationBlockSize, UInt32.toNat_add, UInt32.toNat_ofNat]
  omega

/-- The ordinal the next admission gets, if they are not used up. -/
def Ledger.nextOrdinal? (l : Ledger) : Option UInt32 :=
  if l.ordinalReady then
    if l.nextVolatileOrdinal = l.volatileEndExclusive then
      if l.metadata.nextUnreservedAdmissionOrdinal > 0xFFFFFFFF - ordinalReservationBlockSize then none
      else some l.metadata.nextUnreservedAdmissionOrdinal
    else some l.nextVolatileOrdinal
  else none

section Operations

variable {l : Ledger} {img : Image} {v : View} {P : Image → Prop} {allowed : Fault → Prop}

/-- What an allocation of `ordinal` leaves: the same records, and the mark may move past it. -/
structure Allotted (l l' : Ledger) (img' : Image) (v : View) (ordinal : UInt32) : Prop where
  sound : Sound l' img' ⟨v.records, ordinal.toNat + 1⟩
  slots : l'.slots = l.slots
  mark : v.mark ≤ ordinal.toNat
  nonzero : ordinal ≠ 0
  devices : l'.hubDeviceId = l.hubDeviceId ∧ l'.nodeDeviceId = l.nodeDeviceId

theorem View.Ok.raise {v : View} (h : v.Ok) {mark : ℕ} (hm : v.mark ≤ mark) : View.Ok ⟨v.records, mark⟩ :=
  ⟨h.identity, h.ordinal, fun i hi => (h.below i hi).trans_le hm⟩

/-- The reservation of a block, and the first ordinal of it; a reservation that fails leaves the view. -/
theorem ensures_allocateOrdinal (h : Sound l img v) {Q : Ledger × Option UInt32 → Image → Prop}
    (hP : ∀ img', Stored img' v → P img')
    (hnone : l.nextOrdinal? = none → ∀ l', Sound l' img v → l'.ordinalReady = false → l'.slots = l.slots →
      (l'.hubDeviceId = l.hubDeviceId ∧ l'.nodeDeviceId = l.nodeDeviceId) → Q (l', none) img)
    (hsome : ∀ ordinal l' img', l.nextOrdinal? = some ordinal → Allotted l l' img' v ordinal →
      Q (l', some ordinal) img')
    (hfail : Fails allowed → ∀ status img', status ≠ .ready → Stored img' v →
      (∀ i, img'.slotCells i = img.slotCells i) → Q (l.failOrdinal status, none) img') :
    geometry.EnsuresUnder allowed img l.allocateOrdinal Q P := by
  unfold Ledger.allocateOrdinal
  by_cases hready : l.ordinalReady = true
  swap
  · have hready : l.ordinalReady = false := by simpa using hready
    rw [hready]
    simp only [Bool.not_false, if_true]
    exact ensures_pure.2 (hnone (by simp [Ledger.nextOrdinal?, hready]) l h hready rfl ⟨rfl, rfl⟩)
  simp only [hready, Bool.not_true, Bool.false_eq_true, if_false]
  by_cases hend : l.nextVolatileOrdinal = l.volatileEndExclusive
  swap
  · -- an ordinal of the block
    obtain ⟨hmark, hle, hstop, hnz⟩ := h.cursor hready hend
    rw [if_neg hend]
    have hlt : l.nextVolatileOrdinal.toNat < l.volatileEndExclusive.toNat :=
      lt_of_le_of_ne hle fun he => hend (UInt32.toNat_inj.1 he)
    have hbound := l.volatileEndExclusive.toNat_lt
    have hsucc : (l.nextVolatileOrdinal + 1).toNat = l.nextVolatileOrdinal.toNat + 1 := by
      simp only [UInt32.toNat_add, UInt32.toNat_ofNat]
      omega
    refine ensures_pure.2 (hsome _ _ img (by simp [Ledger.nextOrdinal?, hready, hend]) ?_)
    refine ⟨?_, rfl, hmark, hnz, ⟨rfl, rfl⟩⟩
    refine ⟨h.healthy, h.slots, h.metadata, h.highWater, fun _ _ => ⟨hsucc.ge, ?_, hstop, ?_⟩,
      h.ok.raise (by omega), h.records, ?_⟩
    · simp only [hsucc]
      omega
    · intro hz
      have : (l.nextVolatileOrdinal + 1).toNat = 0 := by rw [show l.nextVolatileOrdinal + 1 = 0 from hz]; rfl
      omega
    · rw [← hstop]
      exact hlt
  rw [if_pos hend]
  split
  · -- the ordinals are used up
    rename_i hover
    refine ensures_pure.2 (hnone (by simp [Ledger.nextOrdinal?, hready, hend, hover]) _ ?_ rfl rfl ⟨rfl, rfl⟩)
    exact ⟨h.healthy, h.slots, h.metadata, h.highWater, (fun hc => by cases hc), h.ok, h.records,
      h.mark⟩
  · rename_i hover
    set start := l.metadata.nextUnreservedAdmissionOrdinal with hstart
    have hadd := toNat_add_block hover
    have hhw : start.toNat % 32 = 1 := validHighWater_iff.1 h.highWater
    have hstart1 : (start + 1).toNat = start.toNat + 1 := by
      have := (start + ordinalReservationBlockSize).toNat_lt
      simp only [UInt32.toNat_add, UInt32.toNat_ofNat]
      omega
    set next : HubMetadata := ⟨l.metadata.generation + 1, start + ordinalReservationBlockSize⟩ with hnext
    have hnext' : next.nextUnreservedAdmissionOrdinal.toNat = start.toNat + 32 := hadd
    have hmark' : v.mark ≤ start.toNat := h.mark
    have hnz' : next.nextUnreservedAdmissionOrdinal ≠ 0 := by
      intro hz
      have : (start + ordinalReservationBlockSize).toNat = 0 := by
        rw [show start + ordinalReservationBlockSize = 0 from hz]
        rfl
      omega
    obtain ⟨encoded, henc, hdec⟩ := encodeHubMetadata_of_nonzero hnz'
    have hvalid : Ledger.validHighWater next.nextUnreservedAdmissionOrdinal = true := by
      rw [validHighWater_iff, hnext']
      omega
    have hput : MetaHolds (Function.update img (.metadata l.metadataCopy.opposite) (some encoded))
        l.metadataCopy.opposite next := by
      unfold MetaHolds
      rw [Image.metaCells_update_metadata]
      exact Holds.commit h.metadata (decodeHubMetadataForSelection_eq_some.2 hdec) rfl
    have hslots : ∀ b i, Image.slotCells (Function.update img (.metadata l.metadataCopy.opposite) b) i =
        img.slotCells i := fun b i => Image.slotCells_update_metadata img _ b i
    have hleft : geometry.WriteCrash (fun img' => Stored img' v ∧ ∀ i, img'.slotCells i = img.slotCells i) img
        (.metadata l.metadataCopy.opposite) encoded := by
      refine ⟨⟨h.stored, fun _ => rfl⟩, ⟨⟨h.ok, next, h.durable.reserve (hslots _) ⟨_, hput⟩, hvalid, ?_⟩, hslots _⟩,
        fun g hg => ⟨⟨h.ok, l.metadata, h.durable.reserve (hslots _) ⟨l.metadataCopy, ?_⟩, h.highWater, h.mark⟩,
          hslots _⟩⟩
      · omega
      · unfold MetaHolds
        rw [Image.metaCells_update_metadata]
        exact Holds.torn h.metadata (by simpa [geometry] using hg)
    refine ensures_bind (ensures_commitMetadata henc hput (hleft.mono fun img' hst => hP img' hst.1) ?_ ?_)
    swap
    · intro hf status hst
      refine hleft.mono fun img' hst' => ?_
      simp only [Bool.not_false, if_true]
      exact ensures_pure.2 (hfail hf status img' hst hst'.1 hst'.2)
    simp only [Bool.not_true, Bool.false_eq_true, if_false]
    have hsome' : l.nextOrdinal? = some start := by
      unfold Ledger.nextOrdinal?
      rw [if_pos hready, if_pos hend, if_neg hover]
    refine ensures_pure.2 (hsome start _ _ hsome' ?_)
    have hnz : start ≠ 0 := by
      intro hz
      rw [hz] at hhw
      cases hhw
    refine ⟨?_, rfl, h.mark, hnz, ⟨rfl, rfl⟩⟩
    exact
      { healthy := h.healthy
        slots := fun i => ⟨(h.slots i).1, (h.slots i).2.congr (hslots _ i)⟩
        metadata := hput
        highWater := hvalid
        cursor := fun _ _ => ⟨hstart1.ge, by simp only [hstart1, hadd]; omega, rfl, by
          intro hz
          have : (start + 1).toNat = 0 := by rw [show start + 1 = 0 from hz]; rfl
          omega⟩
        ok := h.ok.raise (h.mark.trans (Nat.le_succ _))
        records := h.records
        mark := by simp only [hnext']; omega }

/-! ### The commit of a record -/

/-- A record of the next generation is put in a slot; a failure leaves the view before it or the one after. -/
theorem ensures_putRecord (hslots : SlotsMirror l img) (hr : l.records = v.records) (hst : Stored img v)
    {slot : SlotIndex} {r : HubRecord} (v' : View) (hvalid : validateHubRecord r = .ok ())
    (hgen : r.generation = (v.records slot).generation + 1)
    (hrec : v'.records = Function.update v.records slot r) (hmark : v'.mark = v.mark) (hok : v'.Ok)
    {Q : Ledger × Bool → Image → Prop} (hold : ∀ img', Stored img' v → P img')
    (hnew : ∀ img', Stored img' v' → P img')
    (hQ : ∀ l' img', l' = l.setSlot slot ⟨true, (l.slots slot).activeCopy.opposite, r⟩ → SlotsMirror l' img' →
      Stored img' v' → img'.metaCells = img.metaCells → Q (l', true) img')
    (hfail : Fails allowed → ∀ status img', status ≠ .ready → Stored img' v ∨ Stored img' v' →
      Q (l.failLedger status, false) img') :
    geometry.EnsuresUnder allowed img (l.commitRecord slot r (l.slots slot).activeCopy.opposite) Q P := by
  obtain ⟨encoded, henc, hdec⟩ := encodeHubRecord_of_valid hvalid
  obtain ⟨m, hdur, hhw, hm⟩ := hst.durable
  have hslot : SlotHolds img slot (l.slots slot).activeCopy (v.records slot) := by
    rw [← hr]
    exact (hslots slot).2
  set active := (l.slots slot).activeCopy with hactive
  set img' := Function.update img (.event slot active.opposite) (some encoded) with himg
  have hdur' : Durable img' v'.records m := by
    rw [hrec]
    exact hdur.put hslot hdec hgen
  have hholds : SlotHolds img' slot active.opposite r := by
    unfold SlotHolds
    rw [himg, Image.slotCells_update_event]
    exact Holds.commit hslot (decodeHubRecordForSelection_eq_some.2 hdec) hgen
  have hstored : Stored img' v' := ⟨hok, m, hdur', hhw, by rw [hmark]; exact hm⟩
  have hleft : geometry.WriteCrash (fun img' => Stored img' v ∨ Stored img' v') img (.event slot active.opposite)
      encoded :=
    ⟨Or.inl hst, Or.inr hstored, fun g hg =>
      Or.inl ⟨hst.ok, m, hdur.torn hslot (by simpa [geometry] using hg), hhw, hm⟩⟩
  refine ensures_commitRecord henc hholds (hleft.mono fun img' h => h.elim (hold img') (hnew img'))
    (hQ _ _ rfl (fun i => ?_) hstored (Image.metaCells_update_event img _ _ _))
    fun hf status hne => hleft.mono fun img' h => hfail hf status img' hne h
  by_cases hi : i = slot
  · subst hi
    simpa [Ledger.setSlot] using hholds
  · simp only [Ledger.setSlot, Function.update_of_ne hi]
    exact ⟨(hslots i).1, (hslots i).2.congr (Image.slotCells_update_event_ne img hi _ _)⟩

/-- A ledger in service after the commit of a record. -/
theorem Sound.put (h : Sound l img v) {slot : SlotIndex} {c : CopySlot} {r : HubRecord} {img' : Image} {v' : View}
    (hrec : v'.records = Function.update v.records slot r) (hmark : v'.mark = v.mark)
    (hslots : SlotsMirror (l.setSlot slot ⟨true, c, r⟩) img') (hst : Stored img' v')
    (hmeta : img'.metaCells = img.metaCells) : Sound (l.setSlot slot ⟨true, c, r⟩) img' v' :=
  { healthy := h.healthy
    slots := hslots
    metadata := h.metadata.congr hmeta
    highWater := h.highWater
    cursor := fun hready hne => by
      obtain ⟨h1, h2, h3, h4⟩ := h.cursor hready hne
      exact ⟨by rw [hmark]; exact h1, h2, h3, h4⟩
    ok := hst.ok
    records := by rw [Ledger.records_setSlot, h.records, hrec]
    mark := by rw [hmark]; exact h.mark }

theorem Serving.put (h : Serving l img v) {slot : SlotIndex} {c : CopySlot} {r : HubRecord} {img' : Image} {v' : View}
    (hrec : v'.records = Function.update v.records slot r) (hmark : v'.mark = v.mark)
    (hslots : SlotsMirror (l.setSlot slot ⟨true, c, r⟩) img') (hst : Stored img' v')
    (hmeta : img'.metaCells = img.metaCells) : Serving (l.setSlot slot ⟨true, c, r⟩) img' v' :=
  { healthy := h.healthy
    slots := hslots
    records := by rw [Ledger.records_setSlot, h.records, hrec]
    stored := hst
    sound := fun hr => (h.sound hr).put hrec hmark hslots hst hmeta }

/-! ### Admission -/

/-- The next admission of `event` goes to `slot` under `ordinal`. -/
structure Admits (l : Ledger) (event : Event) (slot : SlotIndex) (ordinal : UInt32) : Prop where
  valid : l.validateAdmission event = .durableNewAdmission
  fresh : l.findOwned event = none
  target : l.admissionTarget event = some slot
  ordinal : l.nextOrdinal? = some ordinal

/-- No slot owns the Event. -/
theorem fresh_of_findOwned (hr : l.records = v.records) {event : Event} (h : l.findOwned event = none)
    (i : SlotIndex) (hi : (v.records i).Owned) : (v.records i).identity ≠ eventIdentity event := by
  intro he
  rw [← hr] at hi he
  have := List.find?_eq_none.1 h i (List.mem_finRange i)
  exact this (Bool.and_eq_true_iff.2 ⟨isOwned_iff.2 hi, sameIdentity_iff.2 he⟩)

theorem owned_of_findOwned (hr : l.records = v.records) {event : Event} {slot : SlotIndex}
    (h : l.findOwned event = some slot) :
    (v.records slot).Owned ∧ (v.records slot).identity = eventIdentity event := by
  have := List.find?_some h
  rw [Bool.and_eq_true] at this
  rw [← hr]
  exact ⟨isOwned_iff.1 this.1, sameIdentity_iff.1 this.2⟩

/-- The tombstone of an earlier Event of the same source. -/
def Superseded (event : Event) (r : HubRecord) : Prop :=
  r.state = .consumed ∧ Ledger.incomingLater event r = true

/-- What a search for the least ordinal has found among the slots that it does not skip. -/
def Searched (l : Ledger) (skip : SlotIndex → Prop) (xs : List SlotIndex) : Option SlotIndex → Prop
  | none => ∀ i ∈ xs, skip i
  | some best => ¬ skip best ∧
    ∀ i ∈ xs, ¬ skip i → (l.records best).admissionOrdinal ≤ (l.records i).admissionOrdinal

theorem searched_older {skip : SlotIndex → Prop} {xs : List SlotIndex} {found : Option SlotIndex} {slot : SlotIndex}
    (h : Searched l skip xs found) (hslot : ¬ skip slot) : Searched l skip (xs ++ [slot]) (l.older found slot) := by
  cases found with
  | none =>
    refine ⟨hslot, fun i hi hskip => ?_⟩
    rcases List.mem_append.1 hi with hi | hi
    · exact absurd (h i hi) hskip
    · rw [List.mem_singleton.1 hi]
      exact UInt32.le_refl _
  | some best =>
    obtain ⟨hbest, hleast⟩ := h
    unfold Ledger.older
    dsimp only
    split
    · rename_i hlt
      refine ⟨hslot, fun i hi hskip => ?_⟩
      rcases List.mem_append.1 hi with hi | hi
      · exact UInt32.le_trans (UInt32.le_of_lt hlt) (hleast i hi hskip)
      · rw [List.mem_singleton.1 hi]
        exact UInt32.le_refl _
    · rename_i hge
      refine ⟨hbest, fun i hi hskip => ?_⟩
      rcases List.mem_append.1 hi with hi | hi
      · exact hleast i hi hskip
      · rw [List.mem_singleton.1 hi]
        exact UInt32.not_lt.1 hge

/-- **The search finds the slot of the least ordinal.** -/
theorem searched_foldl (l : Ledger) (skip : SlotIndex → Prop) [DecidablePred skip] (xs : List SlotIndex) :
    Searched l skip xs (xs.foldl (fun found slot => if skip slot then found else l.older found slot) none) := by
  induction xs using List.reverseRecOn with
  | nil => exact fun i hi => by cases hi
  | append_singleton xs slot ih =>
    rw [List.foldl_append, List.foldl_cons, List.foldl_nil]
    revert ih
    generalize xs.foldl (fun found slot => if skip slot then found else l.older found slot) none = found
    intro ih
    split
    · rename_i hskip
      cases found with
      | none =>
        intro i hi
        rcases List.mem_append.1 hi with hi | hi
        · exact ih i hi
        · rw [List.mem_singleton.1 hi]
          exact hskip
      | some best =>
        refine ⟨ih.1, fun i hi hno => ?_⟩
        rcases List.mem_append.1 hi with hi | hi
        · exact ih.2 i hi hno
        · rw [List.mem_singleton.1 hi] at hno
          exact absurd hskip hno
    · rename_i hskip
      exact searched_older ih hskip

theorem searched_oldestReclaimable (l : Ledger) (event : Event) :
    Searched l (fun slot => (l.slots slot).record.state ≠ .consumed ∨
      !Ledger.incomingLater event (l.slots slot).record) (List.finRange 8) (l.oldestReclaimable event) :=
  searched_foldl l _ _

theorem superseded_of_oldestReclaimable {event : Event} {slot : SlotIndex}
    (h : l.oldestReclaimable event = some slot) : Superseded event (l.records slot) := by
  have hs := searched_oldestReclaimable l event
  rw [h] at hs
  have hfound := hs.1
  rw [not_or, not_not] at hfound
  exact ⟨hfound.1, by simpa [Ledger.records] using hfound.2⟩

/-- The record that a poll returns is the ACTIVE one of the least ordinal. -/
theorem oldestActive_some {slot : SlotIndex} {r : HubRecord} (h : l.oldestActive = some (slot, r)) :
    l.ledgerHealthy = true ∧ l.records slot = r ∧ r.state = .active ∧
      ∀ i, (l.records i).state = .active → r.admissionOrdinal ≤ (l.records i).admissionOrdinal := by
  unfold Ledger.oldestActive at h
  split at h
  · cases h
  · rename_i hhealthy
    obtain ⟨best, hbest, hpair⟩ := Option.map_eq_some_iff.1 h
    cases hpair
    have hs := searched_foldl l (fun slot => (l.slots slot).record.state ≠ .active) (List.finRange 8)
    rw [hbest] at hs
    refine ⟨by simpa using hhealthy, rfl, not_not.1 hs.1, fun i hi => ?_⟩
    exact hs.2 i (List.mem_finRange i) (not_not.2 hi)

/-- A poll that returns nothing finds no ACTIVE record. -/
theorem oldestActive_none (hhealthy : l.ledgerHealthy = true) (h : l.oldestActive = none) (i : SlotIndex) :
    (l.records i).state ≠ .active := by
  unfold Ledger.oldestActive at h
  rw [if_neg (by simp [hhealthy]), Option.map_eq_none_iff] at h
  have hs := searched_foldl l (fun slot => (l.slots slot).record.state ≠ .active) (List.finRange 8)
  rw [h] at hs
  exact hs i (List.mem_finRange i)

/-- A new Event goes to an EMPTY slot or over a tombstone of an earlier one. -/
theorem admissionTarget_state {event : Event} {slot : SlotIndex} (h : l.admissionTarget event = some slot) :
    (l.records slot).state = .empty ∨ Superseded event (l.records slot) := by
  unfold Ledger.admissionTarget at h
  split at h
  · rename_i empty hempty
    cases h
    have hstate := List.find?_some hempty
    exact Or.inl (of_decide_eq_true hstate)
  · exact Or.inr (superseded_of_oldestReclaimable h)

/-- The completed outcomes of an admission. -/
inductive Admission (l : Ledger) (img : Image) (v : View) (event : Event) (l' : Ledger) (img' : Image)
    (result : AdmissionResult) : Prop
  | refused (hno : ∀ slot ordinal, ¬ Admits l event slot ordinal) (hsound : Sound l' img v) (himg : img' = img)
      (hslots : l'.slots = l.slots) (hstatus : result.status ≠ .durableNewAdmission)
      (hdup : result.status = .exactDuplicate →
        ∃ slot, (v.records slot).Owned ∧ Ledger.sameCanonical (v.records slot) event = true)
  | admitted (slot : SlotIndex) (ordinal : UInt32) (ha : Admits l event slot ordinal)
      (hmark : v.mark ≤ ordinal.toNat) (hsound : Sound l' img' (v.admitted slot event ordinal))
      (hresult : result = ⟨.durableNewAdmission, some slot, ordinal⟩)

/-- What a cut during an admission leaves. -/
def AdmittedOrNot (l : Ledger) (v : View) (event : Event) (img' : Image) : Prop :=
  Stored img' v ∨ ∃ slot ordinal, Admits l event slot ordinal ∧ v.mark ≤ ordinal.toNat ∧
    Stored img' (v.admitted slot event ordinal)

/-- The devices a ledger is configured with. -/
def SameDevices (l l' : Ledger) : Prop := l'.hubDeviceId = l.hubDeviceId ∧ l'.nodeDeviceId = l.nodeDeviceId

/-- The outcomes of an admission on a storage that may fail. -/
inductive AdmissionOutcome (allowed : Fault → Prop) (l : Ledger) (img : Image) (v : View) (event : Event)
    (l' : Ledger) (img' : Image) (result : AdmissionResult) : Prop
  | refused (hno : ∀ slot ordinal, ¬ Admits l event slot ordinal)
      (hl : l' = l ∨ result.status = .storageFailure ∧ Sound l' img v) (hslots : l'.slots = l.slots)
      (himg : img' = img) (hstatus : result.status ≠ .durableNewAdmission)
      (hdup : result.status = .exactDuplicate →
        ∃ slot, (v.records slot).Owned ∧ Ledger.sameCanonical (v.records slot) event = true)
  | admitted (slot : SlotIndex) (ordinal : UInt32) (ha : Admits l event slot ordinal)
      (hmark : v.mark ≤ ordinal.toNat) (hsound : Sound l' img' (v.admitted slot event ordinal))
      (hresult : result = ⟨.durableNewAdmission, some slot, ordinal⟩)
  | failed (hf : Fails allowed)
      (hleft : Serving l' img' v ∨ l'.ledgerHealthy = false ∧ AdmittedOrNot l v event img')
      (hresult : result = ⟨.storageFailure, none, 0⟩)

/-- **Admission**, on a storage that may fail. -/
theorem ensures_admitEvent_under (h : Serving l img v) (event : Event) :
    geometry.EnsuresUnder allowed img (l.admitEvent event)
      (fun r img' => AdmissionOutcome allowed l img v event r.1 img' r.2 ∧ SameDevices l r.1)
      (AdmittedOrNot l v event) := by
  unfold Ledger.admitEvent
  simp only [h.healthy, Bool.not_true, Bool.false_eq_true, if_false]
  by_cases hvalid : l.validateAdmission event = .durableNewAdmission
  swap
  · rw [if_pos hvalid]
    refine ensures_pure.2
      ⟨.refused (fun _ _ ha => hvalid ha.valid) (Or.inl rfl) rfl rfl hvalid fun he => ?_, rfl, rfl⟩
    -- the checks on the Event know nothing about duplicates
    simp only [Ledger.validateAdmission] at he
    repeat' split at he
    all_goals cases he
  rw [if_neg (not_not.2 hvalid)]
  cases hfind : l.findOwned event with
  | some slot =>
    refine ensures_pure.2 ⟨.refused (fun _ _ ha => ?_) (Or.inl rfl) rfl rfl ?_ fun he => ?_, rfl, rfl⟩
    · have := ha.fresh
      rw [hfind] at this
      cases this
    · dsimp only
      split <;> simp
    · refine ⟨slot, (owned_of_findOwned h.records hfind).1, ?_⟩
      dsimp only at he
      split at he
      · rename_i hsame
        rwa [h.record] at hsame
      · cases he
  | none =>
    cases htarget : l.admissionTarget event with
    | none =>
      refine ensures_pure.2 ⟨.refused (fun _ _ ha => ?_) (Or.inl rfl) rfl rfl (by simp) (by simp), rfl, rfl⟩
      have := ha.target
      rw [htarget] at this
      cases this
    | some slot =>
      by_cases hready : l.ordinalReady = true
      swap
      · -- no ordinals are given out
        have hready : l.ordinalReady = false := by simpa using hready
        have hallocate : l.allocateOrdinal = pure (l, none) := by simp [Ledger.allocateOrdinal, hready]
        rw [hallocate]
        refine ensures_pure.2 ⟨.refused (fun _ _ ha => ?_) (Or.inl rfl) rfl rfl (by simp) (by simp), rfl, rfl⟩
        have := ha.ordinal
        simp [Ledger.nextOrdinal?, hready] at this
      have hs := h.sound hready
      refine ensures_bind (ensures_allocateOrdinal hs (fun img' hst => Or.inl hst) ?_ ?_ ?_)
      · intro hnone l' hsound _ hslots hdev
        refine ensures_pure.2
          ⟨.refused (fun _ _ ha => ?_) (Or.inr ⟨rfl, hsound⟩) hslots rfl (by simp) (by simp), hdev⟩
        have := ha.ordinal
        rw [hnone] at this
        cases this
      · intro ordinal l' img' hord hallot
        have hadmits : Admits l event slot ordinal := ⟨hvalid, hfind, htarget, hord⟩
        have hfresh := fresh_of_findOwned h.records hfind
        have hrec : (l'.slots slot).record = v.records slot := by rw [hallot.slots, h.record]
        have hok := hs.ok.admitted slot hfresh hallot.mark
        have hraise : ∀ img'', Stored img'' ⟨v.records, ordinal.toNat + 1⟩ → Stored img'' v := by
          rintro img'' ⟨-, m, hd, hhw, hm⟩
          exact ⟨hs.ok, m, hd, hhw, (hallot.mark.trans (Nat.le_succ _)).trans hm⟩
        have hnew : ∀ img'', Stored img'' (v.admitted slot event ordinal) → AdmittedOrNot l v event img'' :=
          fun img'' hst => Or.inr ⟨slot, ordinal, hadmits, hallot.mark, hst⟩
        refine ensures_bind (ensures_putRecord hallot.sound.slots hallot.sound.records hallot.sound.stored
          (v.admitted slot event ordinal)
          (admittedRecord_valid (admissible_of_validateAdmission hvalid).1 hallot.nonzero _) ?_ ?_ rfl hok
          (fun img'' hst => Or.inl (hraise img'' hst)) hnew ?_ ?_)
        · rw [hrec]
          rfl
        · rw [hrec]
          rfl
        · rintro l'' img'' rfl hslots hst hmeta
          simp only [Bool.not_true, Bool.false_eq_true, if_false]
          refine ensures_pure.2 ⟨.admitted slot ordinal hadmits hallot.mark ?_ rfl, hallot.devices⟩
          refine hallot.sound.put ?_ rfl hslots hst hmeta
          rw [hrec]
          rfl
        · intro hf status img'' _ hst
          simp only [Bool.not_false, if_true]
          refine ensures_pure.2 ⟨.failed hf (Or.inr ⟨rfl, ?_⟩) rfl, hallot.devices⟩
          exact hst.elim (fun hst => Or.inl (hraise img'' hst)) (hnew img'')
      · intro hf status img' _ hst hslots
        exact ensures_pure.2
          ⟨.failed hf (Or.inl (h.failOrdinal status hst hslots)) rfl, rfl, rfl⟩

theorem ensures_admitEvent (h : Sound l img v) (event : Event) :
    geometry.Ensures img (l.admitEvent event)
      (fun r img' => Admission l img v event r.1 img' r.2 ∧ SameDevices l r.1) (AdmittedOrNot l v event) := by
  refine ensures_mono ?_ (fun _ hst => hst) (ensures_admitEvent_under h.serving event)
  rintro ⟨l', result⟩ img' ⟨hout, hdev⟩
  refine ⟨?_, hdev⟩
  cases hout with
  | refused hno hl hslots himg hstatus hdup =>
    refine .refused hno ?_ himg hslots hstatus hdup
    rcases hl with hl | ⟨-, hsound⟩
    · obtain rfl : l' = l := hl
      exact h
    · exact hsound
  | admitted slot ordinal ha hmark hsound hresult => exact .admitted slot ordinal ha hmark hsound hresult
  | failed hf => exact absurd hf not_fails

/-! ### Consumption -/

/-- The next consumption of `identity` finds an ACTIVE record in `slot`. -/
def Consumes (l : Ledger) (identity : Identity) (slot : SlotIndex) : Prop :=
  l.find identity = some slot ∧ (l.records slot).state ≠ .consumed

theorem consumes_state (hr : l.records = v.records) {identity : Identity} {slot : SlotIndex}
    (h : Consumes l identity slot) :
    (v.records slot).state = .active ∧ (v.records slot).identity = identity := by
  obtain ⟨hfind, hne⟩ := h
  unfold Ledger.find at hfind
  split at hfind
  · cases hfind
  · have := List.find?_some hfind
    rw [Bool.and_eq_true] at this
    have hown := isOwned_iff.1 this.1
    rw [← hr]
    refine ⟨?_, hasIdentity_iff.1 this.2⟩
    cases hs : (l.records slot).state with
    | empty => exact absurd hs hown
    | active => rfl
    | consumed => exact absurd hs hne

/-- The completed outcomes of a consumption. -/
inductive Consumption (l : Ledger) (img : Image) (v : View) (identity : Identity) (l' : Ledger) (img' : Image)
    (result : ConsumeResult) : Prop
  | refused (hno : ∀ slot, ¬ Consumes l identity slot) (hl : l' = l) (himg : img' = img)
      (hstatus : result.status ≠ .consumed)
  | consumed (slot : SlotIndex) (hc : Consumes l identity slot) (hsound : Sound l' img' (v.consumed slot))
      (hresult : result = ⟨.consumed, some slot⟩)

/-- What a cut during a consumption leaves. -/
def ConsumedOrNot (l : Ledger) (v : View) (identity : Identity) (img' : Image) : Prop :=
  Stored img' v ∨ ∃ slot, Consumes l identity slot ∧ Stored img' (v.consumed slot)

/-- The outcomes of a consumption on a storage that may fail. -/
inductive ConsumptionOutcome (allowed : Fault → Prop) (l : Ledger) (img : Image) (v : View) (identity : Identity)
    (l' : Ledger) (img' : Image) (result : ConsumeResult) : Prop
  | refused (hno : ∀ slot, ¬ Consumes l identity slot) (hl : l' = l) (himg : img' = img)
      (hstatus : result.status = .notFound ∧ l.find identity = none ∨
        result.status = .alreadyConsumed ∧ ∃ slot, l.find identity = some slot ∧ (l.records slot).state = .consumed)
  | consumed (slot : SlotIndex) (hc : Consumes l identity slot) (hserving : Serving l' img' (v.consumed slot))
      (hsound : Sound l img v → Sound l' img' (v.consumed slot)) (hresult : result = ⟨.consumed, some slot⟩)
  | failed (hf : Fails allowed) (hleft : ConsumedOrNot l v identity img') (hl : l'.ledgerHealthy = false)
      (hstatus : result.status = .storageFailure)

/-- **Consumption**, on a storage that may fail. -/
theorem ensures_consume_under (h : Serving l img v) (identity : Identity) :
    geometry.EnsuresUnder allowed img (l.consume identity)
      (fun r img' => ConsumptionOutcome allowed l img v identity r.1 img' r.2 ∧ SameDevices l r.1)
      (ConsumedOrNot l v identity) := by
  unfold Ledger.consume
  simp only [h.healthy, Bool.not_true, Bool.false_eq_true, if_false]
  cases hfind : l.find identity with
  | none =>
    refine ensures_pure.2 ⟨.refused (fun slot hc => ?_) rfl rfl (Or.inl ⟨rfl, hfind⟩), rfl, rfl⟩
    have := hc.1
    rw [hfind] at this
    cases this
  | some slot =>
    dsimp only
    split
    · rename_i hstate
      refine ensures_pure.2
        ⟨.refused (fun slot' hc => hc.2 ?_) rfl rfl (Or.inr ⟨rfl, slot, hfind, hstate⟩), rfl, rfl⟩
      have := hc.1
      rw [hfind] at this
      cases this
      exact hstate
    · rename_i hstate
      have hc : Consumes l identity slot := ⟨hfind, hstate⟩
      have hactive := (consumes_state h.records hc).1
      have hown : (v.records slot).Owned := by rw [HubRecord.Owned, hactive]; decide
      rw [h.record]
      refine ensures_bind (ensures_putRecord h.slots h.records h.stored (v.consumed slot)
        (consume_valid (h.slot slot).valid hown) rfl rfl rfl (h.stored.ok.consumed hactive)
        (fun img' hst => Or.inl hst) (fun img' hst => Or.inr ⟨slot, hc, hst⟩) ?_ ?_)
      · rintro l' img' rfl hslots hst hmeta
        simp only [if_true]
        refine ensures_pure.2 ⟨.consumed slot hc (h.put rfl rfl hslots hst hmeta)
          (fun hs => hs.put rfl rfl hslots hst hmeta) rfl, rfl, rfl⟩
      · intro hf status img' _ hst
        simp only [Bool.false_eq_true, if_false]
        refine ensures_pure.2 ⟨.failed hf ?_ rfl rfl, rfl, rfl⟩
        exact hst.imp_right fun hst => ⟨slot, hc, hst⟩

theorem ensures_consume (h : Sound l img v) (identity : Identity) :
    geometry.Ensures img (l.consume identity)
      (fun r img' => Consumption l img v identity r.1 img' r.2 ∧ SameDevices l r.1)
      (ConsumedOrNot l v identity) := by
  refine ensures_mono ?_ (fun _ hst => hst) (ensures_consume_under h.serving identity)
  rintro ⟨l', result⟩ img' ⟨hout, hdev⟩
  refine ⟨?_, hdev⟩
  cases hout with
  | refused hno hl himg hstatus =>
    refine .refused hno hl himg fun he => ?_
    rw [he] at hstatus
    rcases hstatus with ⟨hc, -⟩ | ⟨hc, -⟩ <;> cases hc
  | consumed slot hc _ hsound hresult => exact .consumed slot hc (hsound h) hresult
  | failed hf => exact absurd hf not_fails

end Operations

end Redline.Hub
