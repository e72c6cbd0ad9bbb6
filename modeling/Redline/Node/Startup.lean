import Redline.Node.Recovery

/-!
# Recovery of the Node store

`Store.recover` over the scan and the recovery of the allocator.  From an image that stands for a view
the store comes back with that view and the image is not touched (`ensures_recover_stored`).  From an
image that owns no Event it comes back with eight free slots, or fails, and still owns none
(`ensures_recover_dormant`).  Whatever the image it started from, a store that is READY mirrors the image
it leaves (`ensures_recover`).
-/

namespace Redline.Node

open Redline.Wire Redline.Records Redline.Lib

variable {img : Image} {P : Image → Prop} {allowed : Fault → Prop}

/-! ### The first initialisation -/

/-- An image inside the first initialisation: every B copy is missing, and an A copy that decodes is the
first FREE record. -/
structure Initializing (img : Image) : Prop where
  copyB : ∀ slot, img (.event slot .B) = none
  copyA : ∀ slot b r, img (.event slot .A) = some b → decodeNodeRecord b = .ok r → r = Store.freeRecord 1

theorem Initializing.congr {img' : Image} (h : Initializing img) (hs : SameSlots img img') :
    Initializing img' :=
  ⟨fun slot => (congrFun (hs slot) .B).trans (h.copyB slot),
    fun slot b r hb => h.copyA slot b r ((congrFun (hs slot) .A).symm.trans hb)⟩

theorem Initializing.update (h : Initializing img) {slot : SlotIndex} {bytes : Bytes}
    (hb : ∀ r, decodeNodeRecord bytes = .ok r → r = Store.freeRecord 1) :
    Initializing (Function.update img (.event slot .A) (some bytes)) := by
  refine ⟨fun i => ?_, fun i b r hi => ?_⟩
  · rw [Function.update_of_ne (by simp)]
    exact h.copyB i
  · by_cases his : i = slot
    · subst his
      rw [Function.update_self, Option.some.injEq] at hi
      subst hi
      exact hb r
    · rw [Function.update_of_ne (by simp [his])] at hi
      exact h.copyA i b r hi

/-- In an image inside the initialisation a slot holds nothing, or the first FREE record in copy A. -/
theorem Initializing.holds (h : Initializing img) {slot : SlotIndex} {c : CopySlot} {r : NodeRecord}
    (hr : SlotHolds img slot c r) : c = .A ∧ r = Store.freeRecord 1 := by
  obtain ⟨b, hb, hdec⟩ := Option.bind_eq_some_iff.1 hr.1
  cases c with
  | A => exact ⟨rfl, h.copyA slot b r hb (decodeNodeRecordForSelection_eq_some.1 hdec)⟩
  | B =>
    have hb' : img (.event slot .B) = some b := hb
    rw [h.copyB slot] at hb'
    cases hb'

/-- A slot that is initialised, in RAM and in the image. -/
structure SlotReady (s : Store) (img : Image) (slot : SlotIndex) : Prop where
  present : (s.slots slot).present = true
  holds : SlotHolds img slot (s.slots slot).activeCopy (s.slots slot).record
  free : (s.slots slot).record.state = .free

theorem ensures_initializeSlots (ht : Truthful allowed) {Q : Store × Bool → Image → Prop}
    {l : List SlotIndex} (hl : l.Nodup) {s : Store} (hs : s.healthy = false)
    (hinit : Initializing img) (hmissing : ∀ i ∈ l, ∀ c, img (.event i c) = none)
    (hdone : ∀ i, i ∉ l → SlotReady s img i)
    (hP : ∀ img', Initializing img' → img'.metaCells = img.metaCells → P img')
    (hQ : ∀ s' img', (∀ i, SlotReady s' img' i) → s'.healthy = false →
      s'.sourceDeviceId = s.sourceDeviceId → Initializing img' → img'.metaCells = img.metaCells →
      Q (s', true) img')
    (hfail : WritesFail allowed → ∀ s' img', s'.healthy = false → s'.status ≠ .ready →
      Initializing img' → img'.metaCells = img.metaCells → Q (s', false) img') :
    geometry.EnsuresUnder allowed img (s.initializeSlots l) Q P := by
  induction l generalizing s img with
  | nil =>
    unfold Store.initializeSlots
    exact ensures_pure.2 (hQ s img (fun i => hdone i (by simp)) hs rfl hinit rfl)
  | cons slot rest ih =>
    obtain ⟨hslot, hrest⟩ := List.nodup_cons.1 hl
    obtain ⟨encoded, henc, hdec⟩ := encodeNodeRecord_of_valid (freeRecord_valid 1)
    have hmeta : ∀ b : Option Bytes,
        Image.metaCells (Function.update img (.event slot .A) b) = img.metaCells :=
      fun b => Image.metaCells_update_event img slot .A b
    have hnew : Initializing (Function.update img (.event slot .A) (some encoded)) :=
      hinit.update fun r hr => by rw [hdec] at hr; exact (Except.ok.inj hr).symm
    have hleft : ∀ R : Image → Prop, (∀ img', Initializing img' → img'.metaCells = img.metaCells → R img') →
        geometry.WriteCrash R img (.event slot .A) encoded := by
      intro R hR
      refine ⟨hR _ hinit rfl, hR _ hnew (hmeta _), fun g hg => hR _ (hinit.update fun r hr => ?_) (hmeta _)⟩
      have := decodeNodeRecordForSelection_eq_some.2 hr
      simp [geometry, this] at hg
    unfold Store.initializeSlots Store.commitInitialFree
    simp only [henc, Prog.bind_assoc']
    refine ensures_writeVerify ht hdec (hleft P hP) ?_ ?_
    · simp only [Bool.not_true, Bool.false_eq_true, if_false, Prog.pure_bind']
      refine ih hrest hs hnew ?_ ?_ ?_ ?_ ?_
      · intro i hi c
        rw [Function.update_of_ne (by rintro ⟨⟩; exact hslot hi)]
        exact hmissing i (List.mem_cons_of_mem _ hi) c
      · intro i hi
        by_cases his : i = slot
        · subst his
          refine ⟨by simp [Store.setSlot], ?_, by simp [Store.setSlot, Store.freeRecord]; rfl⟩
          simp only [Store.setSlot, Function.update_self]
          unfold SlotHolds
          rw [Image.slotCells_update_event]
          refine ⟨by simpa using decodeNodeRecordForSelection_eq_some.2 hdec, fun r' hr' => ?_⟩
          rw [Function.update_of_ne (CopySlot.opposite_ne _)] at hr'
          have hn : img.slotCells i CopySlot.A.opposite = none := hinit.copyB i
          rw [hn] at hr'
          cases hr'
        · have hready := hdone i (by simp [his, hi])
          refine ⟨?_, ?_, ?_⟩
          · simpa [Store.setSlot, his] using hready.present
          · simpa [Store.setSlot, his] using
              hready.holds.congr (Image.slotCells_update_event_ne img his _ _)
          · simpa [Store.setSlot, his] using hready.free
      · exact fun img' hi hm => hP img' hi (hm.trans (hmeta _))
      · exact fun s' img' hready hh hsrc hi hm => hQ s' img' hready hh hsrc hi (hm.trans (hmeta _))
      · exact fun hw s' img' hh hst hi hm => hfail hw s' img' hh hst hi (hm.trans (hmeta _))
    · intro hw status hst
      refine hleft _ fun img' hi hm => ?_
      simp only [Bool.not_false, if_true, Prog.pure_bind']
      exact ensures_pure.2 (hfail hw _ img' rfl hst hi hm)

/-! ### The allocator and the index -/

/-- A store that has come back: everything but that identities lie below the floor. -/
structure Revived (s : Store) (img : Image) : Prop where
  healthy : s.healthy = true
  mirrors : Mirrors s img
  cursor : Cursor s.allocator
  floor : s.allocator.floor = s.allocator.metadata.floor
  source : s.allocator.sourceDeviceId = s.sourceDeviceId
  indexed : Indexed s
  distinct : Distinct s.records

theorem Revived.sound {s : Store} {v : View} (h : Revived s img) (hr : s.records = v.records)
    (hfloor : v.floor ≤ s.allocator.floor) (hbelow : ∀ i, (v.records i).Owned → (v.records i).key < v.floor) :
    Sound s img v :=
  ⟨h.healthy, h.mirrors, h.cursor, h.source, h.indexed,
    ⟨by rw [← hr]; exact h.distinct, hbelow⟩, hr, hfloor⟩

theorem ensures_recoverIdentity (hu : OnlyUnavailable allowed) {Q : Store × Store.Status → Image → Prop}
    {s : Store} (hs : SlotsMirror s img) (hd : s.sourceDeviceId ≠ 0)
    {entropy : Option UInt32} {nonempty : Bool} (hP : ∀ img', SameSlots img img' → P img')
    (hQ : ∀ s' img', Revived s' img' → s'.records = s.records → s'.sourceDeviceId = s.sourceDeviceId →
      SameSlots img img' → Q (s', .ready) img')
    (hfail : Fails allowed ∨ nonempty = true ∨ ¬ Bootable s.sourceDeviceId entropy img ∨
        ¬ Distinct s.records →
      ∀ s' status img', s'.healthy = false → status ≠ .ready → SameSlots img img' → Q (s', status) img') :
    geometry.EnsuresUnder allowed img (s.recoverIdentity entropy nonempty) Q P := by
  unfold Store.recoverIdentity
  dsimp only
  refine ensures_bind (ensures_recoverAllocator hu hd (by split <;> simp) hP ?_ ?_)
  · intro a img' hcur hfloor hmir hsrc hsame
    simp only [ne_eq, not_true_eq_false, if_false]
    set s1 : Store := { s with allocator := a } with hs1
    have hmirror : Mirrors s1 img' := ⟨fun i => ⟨(hs i).1, (hs i).2.congr (hsame i)⟩, hmir⟩
    by_cases hdist : Distinct s.records
    · obtain ⟨queue, hidx, hindexed⟩ := rebuildIndex_of_distinct (s := s1) (fun i => (hmirror.slots i).1) hdist
      simp only [hidx, Bool.not_true, Bool.false_eq_true, if_false, ensures_pure]
      refine hQ _ img' ⟨rfl, ⟨hmirror.slots, hmirror.metadata⟩, hcur, hfloor, hsrc, ?_, hdist⟩ rfl rfl hsame
      exact ⟨hindexed.mem, hindexed.sorted⟩
    · have hidx : s1.rebuildIndex.2 = false := by
        by_contra hc
        exact hdist (distinct_of_rebuildIndex (s := s1) (fun i => (hmirror.slots i).1) (by simpa using hc))
      have hscan : (s1.scanIndex (List.finRange 8) []).2 = false := by
        rw [Bool.eq_false_iff]
        intro hc
        simp [Store.rebuildIndex, hc] at hidx
      simp only [hidx, Bool.not_false, if_true, ensures_pure]
      refine hfail (Or.inr (Or.inr (Or.inr hdist))) _ _ img' ?_ ?_ hsame
      · simp [Store.rebuildIndex, hscan, Store.fail]
      · simp [Store.rebuildIndex, hscan, Store.fail]
  · intro hr a img' hready hst hsame
    simp only [ne_eq, hst.1, not_false_eq_true, if_true]
    refine ensures_pure.2 (hfail ?_ _ _ img' rfl (by simp) hsame)
    rcases hr with hr | hr | hr
    · exact Or.inl hr
    · refine Or.inr (Or.inl ?_)
      by_contra hc
      simp [hc] at hr
    · exact Or.inr (Or.inr (Or.inl hr))

/-! ### The whole recovery -/

theorem initializing_of_missing (h : AllMissing img) : Initializing img :=
  ⟨fun slot => h slot .B, fun slot b r hb => by rw [h slot .A] at hb; cases hb⟩

/-- A slot without a conflict is scanned to what it holds. -/
theorem scannedSlot_present {slot : SlotIndex} {old : SlotState} (hno : ¬ Conflicting img slot)
    (hp : (scannedSlot img slot old).present = true) :
    SlotHolds img slot (scannedSlot img slot old).activeCopy (scannedSlot img slot old).record := by
  unfold scannedSlot at hp ⊢
  split at hp
  · cases hp
  · rename_i hboth
    rw [if_neg hboth]
    exact holds_of_slotSelection (SelectionResult.authoritative_of_ne (fun h => hno (Or.inl h))
      (fun h => hno (Or.inr h)) hboth)

theorem scannedSlot_of_holds {slot : SlotIndex} {c : CopySlot} {r : NodeRecord} {old : SlotState}
    (h : SlotHolds img slot c r) : scannedSlot img slot old = ⟨true, r, c⟩ := by
  obtain ⟨hauth, hsel, hslot⟩ := slotSelection_of_holds h
  unfold scannedSlot
  rw [if_neg, hsel, hslot]
  intro he
  rw [he] at hauth
  cases hauth

theorem not_conflicting_of_holds {slot : SlotIndex} {c : CopySlot} {r : NodeRecord}
    (h : SlotHolds img slot c r) : ¬ Conflicting img slot := by
  have hauth := (slotSelection_of_holds h).1
  rintro (he | he) <;> rw [he] at hauth <;> cases hauth

/-- Every slot of the image holds a record. -/
def AllHold (img : Image) : Prop := ∀ slot, ∃ c r, SlotHolds img slot c r

/-- **Recovery**, from any image: where it can be READY, where it fails, and what a cut leaves. -/
theorem ensures_recover (ht : Truthful allowed) {Q : Store × Store.Status → Image → Prop}
    {entropy : Option UInt32} {device : UInt8}
    (hP : ∀ img', SameSlots img img' ∨ (AllMissing img ∧ Initializing img') → P img')
    (hQ : ∀ s img', Revived s img' → s.sourceDeviceId = device →
      SameSlots img img' ∨ (AllMissing img ∧ ∀ i, (s.records i).state = .free) → Q (s, .ready) img')
    (hfail : ∀ s status img', s.healthy = false → status ≠ .ready →
      SameSlots img img' ∨ (AllMissing img ∧ Initializing img') → Q (s, status) img') :
    geometry.EnsuresUnder allowed img (Store.recover entropy device) Q P := by
  have hu : OnlyUnavailable allowed := fun result _ h => absurd h (ht result)
  have hsame := SameSlots.refl img
  unfold Store.recover
  dsimp only
  split
  · exact ensures_pure.2 (hfail _ _ img rfl (by simp) (Or.inl hsame))
  · rename_i hd
    set s0 : Store := { Store.initial with sourceDeviceId := device } with hs0
    refine ensures_bind (ensures_scanSlots ht (hP img (Or.inl hsame)) ?_ ?_)
    · intro hno
      simp only [Bool.true_and, Bool.false_or]
      set s1 := s0.scanned img (List.finRange 8) with hs1
      have hslots : ∀ i, s1.slots i = scannedSlot img i (s0.slots i) := fun i => by simp [hs1, Store.scanned, overlay]
      by_cases hmissing : AllMissing img
      · -- nothing is stored: the eight slots are initialised
        rw [if_pos (allMissing_iff.2 hmissing)]
        refine ensures_bind (ensures_initializeSlots ht (List.nodup_finRange 8) rfl (initializing_of_missing hmissing)
          (fun i _ => hmissing i) (fun i hi => absurd (List.mem_finRange i) hi)
          (fun img' hi _ => hP img' (Or.inr ⟨hmissing, hi⟩)) ?_ ?_)
        · intro s' img' hready _ hsrc hi _
          simp only [Bool.not_true, Bool.false_eq_true, if_false]
          have hsrc' : s'.sourceDeviceId = device := hsrc
          refine ensures_recoverIdentity hu (fun i => ⟨(hready i).present, (hready i).holds⟩)
            (by rw [hsrc']; exact hd)
            (fun img'' hs => hP img'' (Or.inr ⟨hmissing, hi.congr hs⟩)) ?_ ?_
          · intro s'' img'' hrev hrec hsrc'' _
            refine hQ s'' img'' hrev (hsrc''.trans hsrc') (Or.inr ⟨hmissing, fun i => ?_⟩)
            rw [hrec]
            exact (hready i).free
          · exact fun _ s'' status img'' hh'' hst hs =>
              hfail s'' status img'' hh'' hst (Or.inr ⟨hmissing, hi.congr hs⟩)
        · intro _ s' img' hh hst hi _
          simp only [Bool.not_false, if_true]
          exact ensures_pure.2 (hfail s' _ img' hh hst (Or.inr ⟨hmissing, hi⟩))
      · rw [if_neg (fun h => hmissing (allMissing_iff.1 h))]
        split
        · exact ensures_pure.2 (hfail _ _ img rfl (by simp) (Or.inl hsame))
        · rename_i hpresent
          have hpresent : ∀ i, (s1.slots i).present = true := by simpa using hpresent
          have hmirror : SlotsMirror s1 img := fun i => by
            refine ⟨hpresent i, ?_⟩
            have hp := hpresent i
            rw [hslots] at hp ⊢
            exact scannedSlot_present (hno i (List.mem_finRange i)) hp
          refine ensures_recoverIdentity hu hmirror hd (fun img' hs => hP img' (Or.inl hs)) ?_ ?_
          · intro s' img' hrev _ hsrc hs
            exact hQ s' img' hrev hsrc (Or.inl hs)
          · exact fun _ s' status img' hh hst hs => hfail s' status img' hh hst (Or.inl hs)
    · intro s' status hst _
      exact ensures_pure.2 (hfail _ _ img rfl hst (Or.inl hsame))

/-! ### From an image that stands for a view -/

/-- **The view comes back.** -/
theorem ensures_recover_stored (ht : Truthful allowed) {Q : Store × Store.Status → Image → Prop}
    {entropy : Option UInt32} {device : UInt8} {v : View} (h : Stored device img v) (hP : P img)
    (hQ : ∀ s, Sound s img v → s.sourceDeviceId = device → Q (s, .ready) img) :
    geometry.EnsuresUnder allowed img (Store.recover entropy device) Q P := by
  have hu : OnlyUnavailable allowed := fun result _ h => absurd h (ht result)
  obtain ⟨m, hdur, hsource, hhw, hfloor⟩ := h.lineage
  obtain ⟨c, hm⟩ := hdur.metadata
  have hd : device ≠ 0 := by
    rw [← hsource]
    exact hm.nonzero.1
  choose copy hcopy using hdur.slot
  unfold Store.recover
  dsimp only
  rw [if_neg hd]
  set s0 : Store := { Store.initial with sourceDeviceId := device } with hs0
  refine ensures_bind (ensures_scanSlots ht hP ?_ ?_)
  · intro _
    simp only [Bool.true_and, Bool.false_or]
    set s1 := s0.scanned img (List.finRange 8) with hs1
    have hslots : ∀ i, s1.slots i = ⟨true, v.records i, copy i⟩ := fun i => by
      simp [hs1, Store.scanned, overlay, scannedSlot_of_holds (hcopy i)]
    have hmirror : SlotsMirror s1 img := fun i => by
      rw [hslots]
      exact ⟨rfl, hcopy i⟩
    have hrec : s1.records = v.records := by
      funext i
      simp [Store.records, hslots]
    have hmissing : ¬ (List.finRange 8).all (slotMissing img) = true := fun hc =>
      (hcopy 0).ne_none (allMissing_iff.1 hc 0 _)
    rw [if_neg hmissing, if_neg (by simp [hslots])]
    unfold Store.recoverIdentity
    dsimp only
    refine ensures_bind (ensures_recoverAllocator_usable hu (by split <;> simp) hm ⟨hsource, hhw⟩ hP ?_
      fun hf => absurd hf ht.not_readsFail)
    simp only [ne_eq, not_true_eq_false, if_false]
    set s2 : Store := { s1 with allocator := Allocator.resumed s1.sourceDeviceId c m } with hs2
    obtain ⟨queue, hidx, hindexed⟩ := rebuildIndex_of_distinct (s := s2) (fun i => (hmirror i).1)
      (by rw [show s2.records = v.records from hrec]; exact h.ok.distinct)
    rw [hidx]
    simp only [Bool.not_true, Bool.false_eq_true, if_false, ensures_pure]
    refine hQ _ ?_ rfl
    exact
      { healthy := rfl
        mirrors := ⟨hmirror, ⟨rfl, hm⟩⟩
        cursor := Cursor.resumed ⟨hsource, hhw⟩ hm.nonzero.2.2
        source := rfl
        indexed := ⟨hindexed.mem, hindexed.sorted⟩
        ok := h.ok
        records := hrec
        floor := hfloor }
  · rintro s' status - ⟨slot, -, hc⟩
    exact absurd hc (not_conflicting_of_holds (hcopy slot))

/-! ### From an image that owns nothing -/

/-- No slot of the image owns an Event. -/
def Dormant (img : Image) : Prop := ∀ slot c r, SlotHolds img slot c r → r.state = .free

theorem Dormant.congr {img' : Image} (h : Dormant img) (hs : SameSlots img img') : Dormant img' :=
  fun slot c r hr => h slot c r (hr.congr (hs slot).symm)

theorem Initializing.dormant (h : Initializing img) : Dormant img := fun slot c r hr => by
  rw [(h.holds hr).2]
  rfl

/-- The view of a store whose slots are all free. -/
def View.vacant (records : SlotIndex → NodeRecord) : View := ⟨records, 0⟩

/-- The outcomes of a recovery from an image that owns nothing. -/
def WakesOrNot (device : UInt8) (r : Store × Store.Status) (img' : Image) : Prop :=
  (r.2 = .ready ∧ Sound r.1 img' (View.vacant r.1.records) ∧ (∀ i, (r.1.records i).state = .free) ∧
      r.1.sourceDeviceId = device) ∨
    (r.2 ≠ .ready ∧ r.1.healthy = false ∧ Dormant img')

theorem ensures_recover_dormant (ht : Truthful allowed) {entropy : Option UInt32} {device : UInt8}
    (h : Dormant img) :
    geometry.EnsuresUnder allowed img (Store.recover entropy device) (WakesOrNot device) Dormant := by
  have hleft : ∀ img', SameSlots img img' ∨ (AllMissing img ∧ Initializing img') → Dormant img' :=
    fun img' hl => hl.elim h.congr fun hi => hi.2.dormant
  refine ensures_recover ht hleft ?_ ?_
  · intro s img' hrev hsrc hl
    have hfree : ∀ i, (s.records i).state = .free := by
      rcases hl with hs | ⟨-, hfree⟩
      · exact fun i => (h.congr hs) i _ _ (hrev.mirrors.slots i).2
      · exact hfree
    refine Or.inl ⟨rfl, hrev.sound rfl (Nat.zero_le _) fun i hi => absurd (hfree i) hi, hfree, hsrc⟩
  · exact fun s status img' hh hst hl => Or.inr ⟨hst, hh, hleft img' hl⟩

end Redline.Node
