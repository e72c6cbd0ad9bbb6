import Redline.Hub.Recovery

/-!
# First initialisation of the ledger

A ledger that finds nothing at all writes the ordinal metadata, then the eight EMPTY slots one after another
(`ensures_initializeFresh`).  `Unborn img` describes every image on the way.  `ensures_recover` is the recovery
from an arbitrary image: a ledger that is READY has come back whole.
-/

namespace Redline.Hub

open Redline.Wire Redline.Records Redline.Lib

variable {img : Image} {P : Image → Prop} {allowed : Fault → Prop}

/-- The metadata of a fresh ledger. -/
def freshMetadata : HubMetadata := ⟨1, 1⟩

theorem freshMetadata_highWater : Ledger.validHighWater freshMetadata.nextUnreservedAdmissionOrdinal = true := by
  decide

/-- Nothing is stored. -/
def Blank (img : Image) : Prop := AllMissing img ∧ ∀ c, img (.metadata c) = none

/-- An image inside the first initialisation: only A copies are there, one that decodes is the first EMPTY
record or the fresh metadata, and a slot is written only after the metadata. -/
structure Unborn (img : Image) : Prop where
  copyB : ∀ slot, img (.event slot .B) = none
  copyA : ∀ slot b r, img (.event slot .A) = some b → decodeHubRecord b = .ok r → r = Ledger.emptyRecord 1
  metaB : img (.metadata .B) = none
  metaA : ∀ b m, img (.metadata .A) = some b → decodeHubMetadata b = .ok m → m = freshMetadata
  order : AllMissing img ∨ MetaHolds img .A freshMetadata

theorem Blank.unborn (h : Blank img) : Unborn img :=
  ⟨fun slot => h.1 slot .B, fun slot b r hb => (by rw [h.1 slot .A] at hb; cases hb), h.2 .B,
    fun b m hb => (by rw [h.2 .A] at hb; cases hb), Or.inl h.1⟩

theorem Unborn.metaHolds (h : Unborn img) {b : Bytes} (hb : img (.metadata .A) = some b) {m : HubMetadata}
    (hdec : decodeHubMetadata b = .ok m) : MetaHolds img .A freshMetadata := by
  have hm := h.metaA b m hb hdec
  subst hm
  refine ⟨?_, fun r' hr' => ?_⟩
  · rw [show img.metaCells .A = some b from hb]
    exact decodeHubMetadataForSelection_eq_some.2 hdec
  · rw [show img.metaCells CopySlot.A.opposite = none from h.metaB] at hr'
    cases hr'

/-- In an image inside the initialisation a slot holds nothing, or the first EMPTY record in copy A. -/
theorem Unborn.holds (h : Unborn img) {slot : SlotIndex} {c : CopySlot} {r : HubRecord}
    (hr : SlotHolds img slot c r) : c = .A ∧ r = Ledger.emptyRecord 1 := by
  obtain ⟨b, hb, hdec⟩ := Option.bind_eq_some_iff.1 hr.1
  cases c with
  | A => exact ⟨rfl, h.copyA slot b r hb (decodeHubRecordForSelection_eq_some.1 hdec)⟩
  | B =>
    have hb' : img (.event slot .B) = some b := hb
    rw [h.copyB slot] at hb'
    cases hb'

theorem Unborn.not_conflicting (h : Unborn img) (slot : SlotIndex) : ¬ Conflicting img slot := by
  have hB : (copyOf hubRecordSize (img (.event slot .B))).valid decodeHubRecordForSelection = none := by
    rw [(readsRecord img slot .B).1, show img.slotCells slot .B = none from h.copyB slot]
    rfl
  rintro (hc | hc)
  all_goals
    unfold slotSelection selectCopies at hc
    rw [hB] at hc
    cases hA : (copyOf hubRecordSize (img (.event slot .A))).valid decodeHubRecordForSelection <;>
      rw [hA] at hc <;> cases hc

/-- The write of the fresh metadata, wherever it stops. -/
theorem Blank.putMeta (h : Blank img) {bytes : Bytes}
    (hb : ∀ m, decodeHubMetadata bytes = .ok m → m = freshMetadata) :
    Unborn (Function.update img (.metadata .A) (some bytes)) := by
  have hslot : ∀ slot c, Function.update img (.metadata .A) (some bytes) (.event slot c) = none := by
    intro slot c
    rw [Function.update_of_ne (by simp)]
    exact h.1 slot c
  refine ⟨fun slot => hslot slot .B, fun slot b r hr => ?_, ?_, fun b m hm hdec => ?_, Or.inl hslot⟩
  · rw [hslot] at hr
    cases hr
  · rw [Function.update_of_ne (by simp)]
    exact h.2 .B
  · rw [Function.update_self, Option.some.injEq] at hm
    subst hm
    exact hb m hdec

/-- The write of the first EMPTY record of a slot, wherever it stops. -/
theorem Unborn.putSlot (h : Unborn img) (hm : MetaHolds img .A freshMetadata) {slot : SlotIndex} {bytes : Bytes}
    (hb : ∀ r, decodeHubRecord bytes = .ok r → r = Ledger.emptyRecord 1) :
    Unborn (Function.update img (.event slot .A) (some bytes)) := by
  refine ⟨fun i => ?_, fun i b r hi => ?_, ?_, fun b m hmb => ?_, Or.inr ?_⟩
  · rw [Function.update_of_ne (by simp)]
    exact h.copyB i
  · by_cases his : i = slot
    · subst his
      rw [Function.update_self, Option.some.injEq] at hi
      subst hi
      exact hb r
    · rw [Function.update_of_ne (by simp [his])] at hi
      exact h.copyA i b r hi
  · rw [Function.update_of_ne (by simp)]
    exact h.metaB
  · rw [Function.update_of_ne (by simp)] at hmb
    exact h.metaA b m hmb
  · exact hm.congr (Image.metaCells_update_event img _ _ _)

/-! ### The eight slots -/

/-- A slot that is initialised, in RAM and in the image. -/
structure SlotReady (l : Ledger) (img : Image) (slot : SlotIndex) : Prop where
  present : (l.slots slot).present = true
  holds : SlotHolds img slot (l.slots slot).activeCopy (l.slots slot).record
  empty : (l.slots slot).record.state = .empty

theorem emptyRecord_valid (g : UInt32) : validateHubRecord (Ledger.emptyRecord g) = .ok () := by
  rfl

theorem ensures_initializeSlots {Q : Ledger × Bool → Image → Prop}
    {slots : List SlotIndex} {l : Ledger} (hborn : Unborn img) (hm : MetaHolds img .A freshMetadata)
    (hdone : ∀ i, i ∉ slots → SlotReady l img i)
    (hP : ∀ img', Unborn img' → P img')
    (hQ : ∀ l' img', (∀ i, SlotReady l' img' i) → l' = { l with slots := l'.slots } → Unborn img' →
      MetaHolds img' .A freshMetadata → Q (l', true) img')
    (hfail : Fails allowed → ∀ l' img', l'.ledgerHealthy = false → Unborn img' → Q (l', false) img') :
    geometry.EnsuresUnder allowed img (l.initializeSlots slots) Q P := by
  induction slots generalizing l img with
  | nil =>
    unfold Ledger.initializeSlots
    exact ensures_pure.2 (hQ l img (fun i => hdone i (by simp)) rfl hborn hm)
  | cons slot rest ih =>
    obtain ⟨encoded, henc, hdec⟩ := encodeHubRecord_of_valid (emptyRecord_valid 1)
    have hnew : Unborn (Function.update img (.event slot .A) (some encoded)) :=
      hborn.putSlot hm fun r hr => by rw [hdec] at hr; exact (Except.ok.inj hr).symm
    have hleft : ∀ R : Image → Prop, (∀ img', Unborn img' → R img') →
        geometry.WriteCrash R img (.event slot .A) encoded := by
      intro R hR
      refine ⟨hR _ hborn, hR _ hnew, fun g hg => hR _ (hborn.putSlot hm fun r hr => ?_)⟩
      have := decodeHubRecordForSelection_eq_some.2 hr
      simp [geometry, this] at hg
    have hholds : SlotHolds (Function.update img (.event slot .A) (some encoded)) slot .A (Ledger.emptyRecord 1) := by
      unfold SlotHolds
      rw [Image.slotCells_update_event]
      refine ⟨by simpa using decodeHubRecordForSelection_eq_some.2 hdec, fun r' hr' => ?_⟩
      rw [Function.update_of_ne (CopySlot.opposite_ne _)] at hr'
      rw [show img.slotCells slot CopySlot.A.opposite = none from hborn.copyB slot] at hr'
      cases hr'
    unfold Ledger.initializeSlots Ledger.commitInitialRecord
    refine ensures_bind (ensures_commitRecord henc hholds (hleft P hP) ?_ ?_)
    · simp only [Bool.not_true, Bool.false_eq_true, if_false]
      refine ih hnew (hm.congr (Image.metaCells_update_event img _ _ _)) ?_ ?_
      · intro i hi
        by_cases his : i = slot
        · subst his
          exact ⟨by simp [Ledger.setSlot], by simpa [Ledger.setSlot] using hholds, by simp [Ledger.setSlot]; rfl⟩
        · have hready := hdone i (by simp [his, hi])
          refine ⟨?_, ?_, ?_⟩
          · simpa [Ledger.setSlot, his] using hready.present
          · simpa [Ledger.setSlot, his] using
              hready.holds.congr (Image.slotCells_update_event_ne img his _ _)
          · simpa [Ledger.setSlot, his] using hready.empty
      · intro l' img' hready hl' hb hm'
        exact hQ l' img' hready (hl'.trans rfl) hb hm'
    · intro hf status hst
      refine hleft _ fun img' hb => ?_
      simp only [Bool.not_false, if_true]
      exact ensures_pure.2 (hfail hf _ img' rfl hb)

/-- **A fresh ledger.** -/
theorem ensures_initializeFresh {Q : Ledger × Bool → Image → Prop} {l : Ledger}
    (hl : l.ledgerHealthy = false) (hblank : Blank img) (hP : ∀ img', Unborn img' → P img')
    (hQ : ∀ l' img', (∀ i, SlotReady l' img' i) →
      l' = { l with slots := l'.slots, metadata := freshMetadata, metadataCopy := .A, hasMetadata := true
                    ordinalReady := true } →
      Unborn img' → MetaHolds img' .A freshMetadata → Q (l', true) img')
    (hfail : Fails allowed → ∀ l' img', l'.ledgerHealthy = false → Unborn img' → Q (l', false) img') :
    geometry.EnsuresUnder allowed img l.initializeFresh Q P := by
  obtain ⟨encoded, henc, hdec⟩ := encodeHubMetadata_of_nonzero
    (show freshMetadata.nextUnreservedAdmissionOrdinal ≠ 0 by decide)
  have hnew : Unborn (Function.update img (.metadata .A) (some encoded)) :=
    hblank.putMeta fun m hm => by rw [hdec] at hm; exact (Except.ok.inj hm).symm
  have hm : MetaHolds (Function.update img (.metadata .A) (some encoded)) .A freshMetadata :=
    hnew.metaHolds (Function.update_self _ _ _) hdec
  have hleft : ∀ R : Image → Prop, (∀ img', Unborn img' → R img') →
      geometry.WriteCrash R img (.metadata .A) encoded := by
    intro R hR
    refine ⟨hR _ hblank.unborn, hR _ hnew, fun g hg => hR _ (hblank.putMeta fun m hm => ?_)⟩
    have := decodeHubMetadataForSelection_eq_some.2 hm
    simp [geometry, this] at hg
  unfold Ledger.initializeFresh
  refine ensures_bind (ensures_commitMetadata henc hm (hleft P hP) ?_ ?_)
  · simp only [Bool.not_true, Bool.false_eq_true, if_false]
    refine ensures_initializeSlots hnew hm (fun i hi => absurd (List.mem_finRange i) hi) hP ?_ hfail
    intro l' img' hready hl' hb hm'
    exact hQ l' img' hready (hl'.trans rfl) hb hm'
  · intro hf status hst
    refine hleft _ fun img' hb => ?_
    simp only [Bool.not_false, if_true]
    exact ensures_pure.2 (hfail hf _ img' hl hb)

/-! ### The whole recovery -/

/-- Every slot of the image holds a record. -/
def AllHold (img : Image) : Prop := ∀ slot, ∃ c r, SlotHolds img slot c r

theorem blank_iff : ((List.finRange 8).all (slotMissing img) &&
    decide ((copyOf hubMetadataSize (img (.metadata .A))).status = .missing ∧
      (copyOf hubMetadataSize (img (.metadata .B))).status = .missing)) = true ↔ Blank img := by
  rw [Bool.and_eq_true, allMissing_iff, decide_eq_true_iff, copyOf_missing, copyOf_missing,
    Option.isNone_iff_eq_none, Option.isNone_iff_eq_none]
  refine and_congr_right fun _ => ⟨fun h c => ?_, fun h => ⟨h .A, h .B⟩⟩
  cases c with
  | A => exact h.1
  | B => exact h.2

/-- A fresh ledger is READY. -/
theorem revived_fresh {l l' : Ledger} (hready : ∀ i, SlotReady l' img i)
    (hl : l' = { l with slots := l'.slots, metadata := freshMetadata, metadataCopy := .A, hasMetadata := true
                        ordinalReady := true })
    (hcur : l.nextVolatileOrdinal = l.volatileEndExclusive) (hm : MetaHolds img .A freshMetadata) :
    Revived l'.becomeHealthy img ∧ l'.becomeHealthy.status = .ready := by
  rw [hl]
  refine ⟨⟨rfl, rfl, fun i => ⟨(hready i).present, (hready i).holds⟩, hm, freshMetadata_highWater, hcur, ?_⟩, rfl⟩
  exact ⟨fun i j hi => absurd (hready i).empty hi, fun i j hi => absurd (hready i).empty hi⟩

theorem recover_invalid {hub node : UInt8} (hd : ¬ (hub ≠ 0 ∧ node ≠ 0 ∧ hub ≠ node)) :
    Ledger.recover hub node =
      pure (({ Ledger.initial with hubDeviceId := hub, nodeDeviceId := node } : Ledger).failLedger
        .invalidConfiguration, .invalidConfiguration) := by
  unfold Ledger.recover
  dsimp only
  rw [if_pos (by tauto)]

/-- **Recovery**, from any image: a ledger that is READY mirrors the image it leaves. -/
theorem ensures_recover (hub node : UInt8) (img : Image) :
    geometry.Ensures img (Ledger.recover hub node)
      (fun r img' => r.2 = .ready →
        Revived r.1 img' ∧ (hub ≠ 0 ∧ node ≠ 0 ∧ hub ≠ node) ∧ r.1.hubDeviceId = hub ∧ r.1.nodeDeviceId = node)
      (fun _ => True) := by
  by_cases hd : hub ≠ 0 ∧ node ≠ 0 ∧ hub ≠ node
  swap
  · rw [recover_invalid hd]
    exact ensures_pure.2 fun hc => by cases hc
  refine ensures_recover_scanned noFaults_truthful.reports hd trivial ?_
    (fun hf => absurd hf noFaults_truthful.not_readsFail) fun _ l status _ hst hready => absurd hready hst
  intro hno l hl
  by_cases hblank : Blank img
  · unfold Ledger.recoverFrom
    rw [blank_iff.2 hblank]
    simp only [if_true]
    refine ensures_bind (ensures_initializeFresh (by rw [hl]; rfl) hblank
      (fun _ _ => trivial) ?_ fun hf => absurd hf not_fails)
    intro l' img' hready hl' _ hm
    simp only [Bool.not_true, Bool.false_eq_true, if_false]
    refine ensures_pure.2 fun _ => ⟨(revived_fresh hready hl' (by rw [hl]; rfl) hm).1, hd, ?_, ?_⟩ <;>
      rw [hl', hl] <;> rfl
  · unfold Ledger.recoverFrom
    rw [if_neg fun hc => hblank (blank_iff.1 hc)]
    split
    · exact ensures_pure.2 fun hc => by cases hc
    · rename_i hpresent
      have hpresent : ∀ i, (l.slots i).present = true := by simpa using hpresent
      have hmirror : SlotsMirror l img := by
        subst hl
        exact scannedLedger_mirrors hno hpresent
      cases hv : l.validateRecoveredSlots.2 with
      | false =>
        simp only [hv, Bool.not_false, if_true]
        exact ensures_pure.2 fun hc => absurd hc (validateRecoveredSlots_status hv)
      | true =>
        have hdist := distinct_of_validateRecoveredSlots hpresent hv
        rw [validateRecoveredSlots_of_distinct hpresent hdist]
        simp only [Bool.not_true, Bool.false_eq_true, if_false]
        refine ensures_pure.2 fun hready => ?_
        obtain ⟨c, m, hm, hhw⟩ := holds_of_recoverMetadata (by rw [hl]; rfl) hready
        rw [recoverMetadata_of_holds hm hhw]
        refine ⟨⟨rfl, rfl, hmirror, hm, hhw, rfl, hdist⟩, hd, ?_, ?_⟩ <;> rw [hl] <;> rfl

end Redline.Hub
