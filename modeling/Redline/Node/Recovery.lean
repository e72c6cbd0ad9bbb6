import Redline.Node.Operations

/-!
# Recovery of the Node

`Store.recover` and, inside it, `Allocator.recover`.  From an image that stands for a view the store
comes back with that view and the image is not touched (`ensures_recover_stored`).  From an image that
owns no Event it comes back with eight free slots, or fails, and still owns none
(`ensures_recover_dormant`).  Whatever image it started from, a recovery that is READY mirrors the image
it leaves (`ensures_recover`).
-/

namespace Redline.Node

open Redline.Wire Redline.Records Redline.Lib

variable {img : Image} {P : Image → Prop} {allowed : Fault → Prop}

/-! ### The metadata -/

/-- The selection among the metadata copies of an image. -/
def metaSelection (img : Image) : Selection NodeMetadata :=
  selectCopies NodeMetadata.generation decodeNodeMetadataForSelection
    (copyOf nodeMetadataSize (img (.metadata .A))) (copyOf nodeMetadataSize (img (.metadata .B)))

theorem metaSelection_of_holds {c : CopySlot} {m : NodeMetadata} (h : MetaHolds img c m) :
    (metaSelection img).result.authoritative = true ∧ (metaSelection img).selected = m ∧
      (metaSelection img).slot = c :=
  selectCopies_of_holds (readsMetadata img .A) (readsMetadata img .B) h

theorem holds_of_metaSelection (h : (metaSelection img).result.authoritative = true) :
    MetaHolds img (metaSelection img).slot (metaSelection img).selected :=
  holds_of_selectCopies (readsMetadata img .A) (readsMetadata img .B) h

/-- Neither copy of the metadata decodes. -/
theorem not_decoded_of_bothInvalid (h : (metaSelection img).result = .bothInvalid) (c : CopySlot) :
    (img.metaCells c).bind decodeNodeMetadataForSelection = none := by
  obtain ⟨hA, hB⟩ := selectCopies_bothInvalid h
  cases c with
  | A => rw [← (readsMetadata img .A).1]; exact hA
  | B => rw [← (readsMetadata img .B).1]; exact hB

/-- The metadata the device can go on with. -/
structure Usable (device : UInt8) (m : NodeMetadata) : Prop where
  source : m.custodySourceDeviceId = device
  highWater : validHighWater m.nextUnreservedEventId = true

/-- The allocator that goes on with the metadata of the image. -/
def Allocator.resumed (device : UInt8) (c : CopySlot) (m : NodeMetadata) : Allocator :=
  (({ Allocator.initial with
      sourceDeviceId := device, metadata := m, activeSlot := c
      hasAuthoritativeMetadata := true } : Allocator).becomeReady).1

theorem Cursor.resumed {device : UInt8} {c : CopySlot} {m : NodeMetadata} (hu : Usable device m)
    (hn : m.nextUnreservedEventId ≠ 0) : Cursor (Allocator.resumed device c m) :=
  ⟨rfl, hu.highWater, hu.source, rfl, le_rfl, hn⟩

@[simp] theorem Allocator.floor_resumed (device : UInt8) (c : CopySlot) (m : NodeMetadata) :
    (Allocator.resumed device c m).floor = m.floor := rfl

/-- The two reads of `Allocator.recover`. -/
theorem ensures_recoverSelected (hu : OnlyUnavailable allowed)
    {Q : Allocator × EventIdentity.Status → Image → Prop} {entropy : Option UInt32} {device : UInt8}
    {custody : CustodyState} (hd : device ≠ 0) (hc : custody ≠ .unprovable) (hP : P img)
    (h : geometry.EnsuresUnder allowed img
      ({ Allocator.initial with sourceDeviceId := device }.recoverSelected entropy custody
        (metaSelection img)) Q P)
    (hfail : ReadsFail allowed →
      Q ({ Allocator.initial with sourceDeviceId := device }.fail .storageUnavailable) img) :
    geometry.EnsuresUnder allowed img (Allocator.recover entropy device custody) Q P := by
  unfold Allocator.recover
  simp only [hd, hc, if_false]
  refine ensures_readCopy hu hP ?_ fun hf => ?_
  · exact ensures_readCopy hu hP h fun hf => ensures_pure.2 (hfail hf)
  · exact ensures_readCopy hu hP (ensures_pure.2 (hfail hf)) fun _ => ensures_pure.2 (hfail hf)

/-- **The lineage goes on.** Usable metadata is taken up as it is, and nothing is written. -/
theorem ensures_recoverAllocator_usable (hu : OnlyUnavailable allowed)
    {Q : Allocator × EventIdentity.Status → Image → Prop} {entropy : Option UInt32} {device : UInt8}
    {custody : CustodyState} (hc : custody ≠ .unprovable) {c : CopySlot} {m : NodeMetadata}
    (hm : MetaHolds img c m) (husable : Usable device m) (hP : P img)
    (hQ : Q (Allocator.resumed device c m, .ready) img)
    (hfail : ReadsFail allowed → ∀ a, a.ready = false → a.status.Failed → Q (a, a.status) img) :
    geometry.EnsuresUnder allowed img (Allocator.recover entropy device custody) Q P := by
  obtain ⟨hauth, hsel, hslot⟩ := metaSelection_of_holds hm
  have hd : device ≠ 0 := by
    rw [← husable.source]
    exact hm.nonzero.1
  have hres : (metaSelection img).result ≠ .equalDisagreement ∧
      (metaSelection img).result ≠ .generationAmbiguous ∧ (metaSelection img).result ≠ .bothInvalid := by
    refine ⟨?_, ?_, ?_⟩ <;> intro he <;> rw [he] at hauth <;> cases hauth
  refine ensures_recoverSelected hu hd hc hP ?_ fun hf => hfail hf _ rfl (by simp)
  unfold Allocator.recoverSelected
  simp only [hres.1, hres.2.1, hres.2.2, if_false, hsel, hslot, husable.highWater, Bool.not_true,
    Bool.false_eq_true, husable.source, ne_eq, not_true_eq_false]
  split
  · exact ensures_pure.2 hQ
  · exact ensures_pure.2 hQ

/-- The allocator before a fresh initialisation: it mirrors metadata it cannot use, or there is
none. -/
def FreshStart (a : Allocator) (img : Image) : Prop :=
  MetaMirror a img ∨ (a.hasAuthoritativeMetadata = false ∧
    ∀ c, (img.metaCells c).bind decodeNodeMetadataForSelection = none)

/-- **A fresh lineage**, with the image written out. -/
theorem ensures_initializeFresh {Q : Allocator × EventIdentity.Status → Image → Prop} {a : Allocator}
    (ha : FreshStart a img) (hd : a.sourceDeviceId ≠ 0) {entropy : Option UInt32}
    (hP : ∀ next encoded, encodeNodeMetadata next = .ok encoded → Usable a.sourceDeviceId next →
      geometry.WriteCrash P img (.metadata a.target) encoded)
    (hQ : ∀ a' next encoded, encodeNodeMetadata next = .ok encoded → Usable a.sourceDeviceId next →
      Cursor a' → a'.floor = a'.metadata.floor →
      MetaMirror a' (Function.update img (.metadata a.target) (some encoded)) →
      a'.sourceDeviceId = a.sourceDeviceId →
      Q (a', .ready) (Function.update img (.metadata a.target) (some encoded)))
    (hentropy : entropy = none ∨ entropy = some 0 → Q (a.fail .entropyFailure) img)
    (hfail : Fails allowed → ∀ status, status.Failed → ∀ next encoded,
      encodeNodeMetadata next = .ok encoded → Usable a.sourceDeviceId next →
      geometry.WriteCrash (fun img' => Q (a.fail status) img') img (.metadata a.target) encoded) :
    geometry.EnsuresUnder allowed img (a.initializeFresh entropy) Q P := by
  unfold Allocator.initializeFresh
  cases entropy with
  | none => exact ensures_pure.2 (hentropy (Or.inl rfl))
  | some epoch =>
    by_cases he : epoch = 0
    · simp only [if_pos he]
      exact ensures_pure.2 (hentropy (Or.inr (by rw [he])))
    · simp only [if_neg he]
      set next : NodeMetadata :=
        { generation := if a.hasAuthoritativeMetadata then a.metadata.generation + 1 else 1
          custodySourceDeviceId := a.sourceDeviceId
          eventEpoch := epoch
          nextUnreservedEventId := 1 } with hnext
      obtain ⟨encoded, henc, hdec⟩ := encodeNodeMetadata_of_nonzero (m := next) hd he
        (show (1 : UInt32) ≠ 0 by decide)
      have husable : Usable a.sourceDeviceId next := ⟨rfl, (by decide : validHighWater 1 = true)⟩
      have hholds : MetaHolds (Function.update img (.metadata a.target) (some encoded)) a.target next := by
        unfold MetaHolds
        rw [Image.metaCells_update_metadata]
        rcases ha with hm | ⟨hno, hbad⟩
        · have ht : a.target = a.activeSlot.opposite := if_pos hm.authoritative
          rw [ht]
          refine Holds.commit hm.holds (decodeNodeMetadataForSelection_eq_some.2 hdec) ?_
          simp [hnext, hm.authoritative]
        · refine ⟨by simpa using decodeNodeMetadataForSelection_eq_some.2 hdec, fun r' hr' => ?_⟩
          rw [Function.update_of_ne (CopySlot.opposite_ne _), hbad] at hr'
          cases hr'
      refine ensures_commitMetadata henc (hP next encoded henc husable) ?_
        fun hf status hst => hfail hf status hst next encoded henc husable
      exact hQ _ next encoded henc husable
        ⟨rfl, husable.highWater, rfl, rfl, le_rfl, (by decide : (1 : UInt32) ≠ 0)⟩ rfl ⟨rfl, hholds⟩ rfl

/-- An image and an entropy source from which an allocator without custody comes back: its metadata is
absent or usable, and there is an epoch for a fresh lineage. -/
structure Bootable (device : UInt8) (entropy : Option UInt32) (img : Image) : Prop where
  metadata : (metaSelection img).result = .bothInvalid ∨ ∃ c m, MetaHolds img c m ∧ Usable device m
  entropy : ∃ epoch, epoch ≠ 0 ∧ entropy = some epoch

theorem Bootable.not_conflict {device : UInt8} {entropy : Option UInt32}
    (h : Bootable device entropy img) :
    (metaSelection img).result = .bothInvalid ∨ (metaSelection img).result.authoritative = true :=
  h.metadata.imp_right fun ⟨_, _, hm, _⟩ => (metaSelection_of_holds hm).1

/-- **Recovery of the allocator**, from any image; it can fail only for one of the reasons given. -/
theorem ensures_recoverAllocator (hu : OnlyUnavailable allowed)
    {Q : Allocator × EventIdentity.Status → Image → Prop} {entropy : Option UInt32} {device : UInt8}
    {custody : CustodyState} (hd : device ≠ 0) (hc : custody ≠ .unprovable)
    (hP : ∀ img', SameSlots img img' → P img')
    (hQ : ∀ a' img', Cursor a' → a'.floor = a'.metadata.floor → MetaMirror a' img' →
      a'.sourceDeviceId = device → SameSlots img img' → Q (a', .ready) img')
    (hfail : Fails allowed ∨ custody = .nonempty ∨ ¬ Bootable device entropy img →
      ∀ a' img', a'.ready = false → a'.status.Failed → SameSlots img img' → Q (a', a'.status) img') :
    geometry.EnsuresUnder allowed img (Allocator.recover entropy device custody) Q P := by
  refine ensures_recoverSelected hu hd hc (hP _ (SameSlots.refl img)) ?_
    fun hf => hfail (Or.inl (Or.inr hf)) _ _ rfl (by simp) (SameSlots.refl img)
  have hfailed : Fails allowed ∨ custody = .nonempty ∨ ¬ Bootable device entropy img →
      ∀ a : Allocator, ∀ status, status.Failed →
      geometry.EnsuresUnder allowed img (pure (a.fail status)) Q P := fun hr a status hst =>
    ensures_pure.2 (hfail hr (a.fail status).1 _ rfl hst (SameSlots.refl img))
  have hfresh : ∀ a : Allocator, FreshStart a img → a.sourceDeviceId = device →
      geometry.EnsuresUnder allowed img (a.initializeFresh entropy) Q P := by
    intro a ha hdev
    have hleft : ∀ R : Image → Prop, (∀ img', SameSlots img img' → R img') → ∀ encoded,
        geometry.WriteCrash R img (.metadata a.target) encoded := fun R hR encoded =>
      ⟨hR _ (SameSlots.refl img), hR _ (sameSlots_update_metadata img _ _),
        fun g _ => hR _ (sameSlots_update_metadata img _ _)⟩
    refine ensures_initializeFresh ha (by rw [hdev]; exact hd) (fun _ encoded _ _ => hleft P hP encoded) ?_ ?_ ?_
    · intro a' next encoded _ _ hcur hfloor hmir hsrc
      exact hQ a' _ hcur hfloor hmir (hsrc.trans hdev) (sameSlots_update_metadata img _ _)
    · intro he
      refine hfail (Or.inr (Or.inr fun hb => ?_)) _ _ rfl (by simp) (SameSlots.refl img)
      obtain ⟨epoch, hne, hsome⟩ := hb.entropy
      rcases he with he | he
      · rw [he] at hsome; cases hsome
      · rw [he] at hsome; cases hsome; exact hne rfl
    · exact fun hf status hst _ encoded _ _ =>
        hleft _ (fun img' hsame => hfail (Or.inl hf) (a.fail status).1 _ rfl hst hsame) encoded
  have hconflict : (metaSelection img).result ≠ .bothInvalid →
      (metaSelection img).result.authoritative ≠ true → ¬ Bootable device entropy img :=
    fun h1 h2 hb => hb.not_conflict.elim h1 h2
  unfold Allocator.recoverSelected
  dsimp only
  split
  · rename_i hr
    exact hfailed (Or.inr (Or.inr (hconflict (by simp [hr]) (by simp [hr, SelectionResult.authoritative]))))
      _ _ (by simp)
  · split
    · rename_i hr
      exact hfailed (Or.inr (Or.inr (hconflict (by simp [hr]) (by simp [hr, SelectionResult.authoritative]))))
        _ _ (by simp)
    · split
      · rename_i hboth
        split
        · rename_i hne
          exact hfailed (Or.inr (Or.inl hne)) _ _ (by simp)
        · exact hfresh _ (Or.inr ⟨rfl, not_decoded_of_bothInvalid hboth⟩) rfl
      · rename_i h1 h2 h3
        have hholds := holds_of_metaSelection (SelectionResult.authoritative_of_ne h1 h2 h3)
        have hmirror : ∀ a : Allocator, a.hasAuthoritativeMetadata = true →
            a.activeSlot = (metaSelection img).slot → a.metadata = (metaSelection img).selected →
            MetaMirror a img := fun a h1 h2 h3 => ⟨h1, by rw [h2, h3]; exact hholds⟩
        have hready : Usable device (metaSelection img).selected →
            Q (Allocator.resumed device (metaSelection img).slot (metaSelection img).selected, .ready) img :=
          fun husable => hQ _ _ (Cursor.resumed husable hholds.nonzero.2.2) rfl ⟨rfl, hholds⟩ rfl
            (SameSlots.refl img)
        split
        · split
          · rename_i hne
            exact hfailed (Or.inr (Or.inl hne)) _ _ (by simp)
          · exact hfresh _ (Or.inl (hmirror _ rfl rfl rfl)) rfl
        · rename_i hhw
          have hhw : validHighWater (metaSelection img).selected.nextUnreservedEventId = true := by
            simpa using hhw
          split
          · rename_i hne
            split
            · exact hfailed (Or.inr (Or.inl hne)) _ _ (by simp)
            · rename_i hsrc
              exact ensures_pure.2 (hready ⟨not_not.1 hsrc, hhw⟩)
          · split
            · exact hfresh _ (Or.inl (hmirror _ rfl rfl rfl)) rfl
            · rename_i hsrc
              exact ensures_pure.2 (hready ⟨not_not.1 hsrc, hhw⟩)

/-! ### The scan of the slots -/

/-- The selection among the copies of a slot. -/
def slotSelection (img : Image) (slot : SlotIndex) : Selection NodeRecord :=
  selectCopies NodeRecord.generation decodeNodeRecordForSelection
    (copyOf nodeRecordSize (img (.event slot .A))) (copyOf nodeRecordSize (img (.event slot .B)))

theorem slotSelection_of_holds {slot : SlotIndex} {c : CopySlot} {r : NodeRecord}
    (h : SlotHolds img slot c r) :
    (slotSelection img slot).result.authoritative = true ∧ (slotSelection img slot).selected = r ∧
      (slotSelection img slot).slot = c :=
  selectCopies_of_holds (readsRecord img slot .A) (readsRecord img slot .B) h

theorem holds_of_slotSelection {slot : SlotIndex}
    (h : (slotSelection img slot).result.authoritative = true) :
    SlotHolds img slot (slotSelection img slot).slot (slotSelection img slot).selected :=
  holds_of_selectCopies (readsRecord img slot .A) (readsRecord img slot .B) h

/-- What the scan makes of a slot. -/
def scannedSlot (img : Image) (slot : SlotIndex) (old : SlotState) : SlotState :=
  if (slotSelection img slot).result = .bothInvalid then { old with present := false }
  else ⟨true, (slotSelection img slot).selected, (slotSelection img slot).slot⟩

def Store.scanned (s : Store) (img : Image) (l : List SlotIndex) : Store :=
  { s with slots := overlay l (fun i => scannedSlot img i (s.slots i)) s.slots }

/-- The selection of the slot is a record that owns an Event. -/
def slotOwns (img : Image) (slot : SlotIndex) : Bool :=
  (slotSelection img slot).result ≠ .bothInvalid && (slotSelection img slot).selected.state ≠ .free

/-- The two copies of the slot contradict each other. -/
def Conflicting (img : Image) (slot : SlotIndex) : Prop :=
  (slotSelection img slot).result = .equalDisagreement ∨
    (slotSelection img slot).result = .generationAmbiguous

theorem Store.scanned_cons (s : Store) (img : Image) (slot : SlotIndex) (rest : List SlotIndex) :
    (s.setSlot slot (scannedSlot img slot (s.slots slot))).scanned img rest =
      s.scanned img (slot :: rest) := by
  unfold Store.scanned Store.setSlot overlay
  congr 1
  funext i
  by_cases hi : i = slot
  · subst hi
    by_cases hr : i ∈ rest
    · simp only [hr, if_true, Function.update_self, List.mem_cons, or_true]
      unfold scannedSlot
      split <;> rfl
    · simp [hr]
  · simp [hi]

/-- **The scan**, from any image. -/
theorem ensures_scanSlots (ht : Truthful allowed) {Q : Store × Option (Bool × Bool) → Image → Prop}
    (hP : P img) {l : List SlotIndex} {s : Store} {missing nonempty : Bool}
    (hQ : (∀ slot ∈ l, ¬ Conflicting img slot) →
      Q (s.scanned img l, some (missing && l.all (slotMissing img), nonempty || l.any (slotOwns img))) img)
    (hfail : ∀ s' status, status ≠ .ready → (∃ slot ∈ l, Conflicting img slot) →
      Q (Store.fail s' status, none) img) :
    geometry.EnsuresUnder allowed img (s.scanSlots missing nonempty l) Q P := by
  induction l generalizing s missing nonempty with
  | nil =>
    unfold Store.scanSlots
    have h0 : s.scanned img [] = s := by simp [Store.scanned]
    have := hQ (by simp)
    rw [h0] at this
    exact ensures_pure.2 (by simpa using this)
  | cons slot rest ih =>
    unfold Store.scanSlots
    simp only [ensures_readRecordCopy ht]
    refine ⟨hP, hP, ?_⟩
    rw [show selectCopies NodeRecord.generation decodeNodeRecordForSelection
      (copyOf nodeRecordSize (img (.event slot .A))) (copyOf nodeRecordSize (img (.event slot .B))) =
      slotSelection img slot from rfl]
    by_cases hconf : Conflicting img slot
    · -- the copies contradict each other: the scan stops
      have haccept : ∃ status, status ≠ .ready ∧
          s.acceptSelection (slotSelection img slot).result = (s.fail status, false) := by
        unfold Store.acceptSelection
        rcases hconf with hc | hc
        · exact ⟨.recordConflict, by simp, by simp [hc]⟩
        · exact ⟨.generationAmbiguous, by simp, by simp [hc]⟩
      obtain ⟨status, hst, haccept⟩ := haccept
      simp only [haccept, Bool.not_false, if_true]
      exact ensures_pure.2 (hfail s status hst ⟨slot, List.mem_cons_self, hconf⟩)
    · have haccept : s.acceptSelection (slotSelection img slot).result = (s, true) := by
        unfold Store.acceptSelection
        rw [if_neg fun h => hconf (Or.inl h), if_neg fun h => hconf (Or.inr h)]
      have hmiss : (missing && decide ((copyOf nodeRecordSize (img (.event slot .A))).status = .missing ∧
          (copyOf nodeRecordSize (img (.event slot .B))).status = .missing)) =
          (missing && slotMissing img slot) := by
        simp only [copyOf_missing, slotMissing, Bool.decide_and, Bool.decide_eq_true]
      simp only [haccept, Bool.not_true, Bool.false_eq_true, if_false, hmiss]
      have hfail' : ∀ s' status, status ≠ .ready → (∃ slot ∈ rest, Conflicting img slot) →
          Q (Store.fail s' status, none) img := by
        rintro s' status hst ⟨i, hi, hc⟩
        exact hfail s' status hst ⟨i, List.mem_cons_of_mem _ hi, hc⟩
      by_cases hboth : (slotSelection img slot).result = .bothInvalid
      · rw [if_pos hboth]
        refine ih (fun hno => ?_) hfail'
        have hs : ({ s.slots slot with present := false } : SlotState) =
            scannedSlot img slot (s.slots slot) := by
          rw [scannedSlot, if_pos hboth]
        rw [hs, Store.scanned_cons]
        simpa [slotOwns, hboth, Bool.and_assoc] using hQ fun i hi => by
          rcases List.mem_cons.1 hi with rfl | hi
          · exact hconf
          · exact hno i hi
      · rw [if_neg hboth]
        refine ih (fun hno => ?_) hfail'
        have hs : (⟨true, (slotSelection img slot).selected, (slotSelection img slot).slot⟩ : SlotState) =
            scannedSlot img slot (s.slots slot) := by
          rw [scannedSlot, if_neg hboth]
        rw [hs, Store.scanned_cons]
        simpa [slotOwns, hboth, Bool.and_assoc, Bool.or_assoc] using hQ fun i hi => by
          rcases List.mem_cons.1 hi with rfl | hi
          · exact hconf
          · exact hno i hi

end Redline.Node
