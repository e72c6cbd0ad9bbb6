import Redline.Hub.Operations
import Mathlib.Order.Fin.Basic

/-!
# Recovery of the Hub ledger

`Ledger.recover` reads the sixteen record copies, then the two metadata copies.  From an image that stands
for a view the ledger comes back with that view, ready to give out ordinals, and the image is not touched
(`ensures_recover_stored`).  Whatever the image it started from, a ledger that is READY mirrors the image it
leaves (`ensures_recover`).
-/

namespace Redline.Hub

open Redline.Wire Redline.Records Redline.Lib

variable {img : Image} {P : Image → Prop} {allowed : Fault → Prop}

/-! ### The scan of the slots -/

/-- The selection among the copies of a slot. -/
def slotSelection (img : Image) (slot : SlotIndex) : Selection HubRecord :=
  selectCopies HubRecord.generation decodeHubRecordForSelection
    (copyOf hubRecordSize (img (.event slot .A))) (copyOf hubRecordSize (img (.event slot .B)))

theorem slotSelection_of_holds {slot : SlotIndex} {c : CopySlot} {r : HubRecord}
    (h : SlotHolds img slot c r) :
    (slotSelection img slot).result.authoritative = true ∧ (slotSelection img slot).selected = r ∧
      (slotSelection img slot).slot = c :=
  selectCopies_of_holds (readsRecord img slot .A) (readsRecord img slot .B) h

theorem holds_of_slotSelection {slot : SlotIndex}
    (h : (slotSelection img slot).result.authoritative = true) :
    SlotHolds img slot (slotSelection img slot).slot (slotSelection img slot).selected :=
  holds_of_selectCopies (readsRecord img slot .A) (readsRecord img slot .B) h

/-- The two copies of the slot contradict each other. -/
def Conflicting (img : Image) (slot : SlotIndex) : Prop :=
  (slotSelection img slot).result = .equalDisagreement ∨
    (slotSelection img slot).result = .generationAmbiguous

theorem not_conflicting_of_holds {slot : SlotIndex} {c : CopySlot} {r : HubRecord}
    (h : SlotHolds img slot c r) : ¬ Conflicting img slot := by
  have hauth := (slotSelection_of_holds h).1
  rintro (he | he) <;> rw [he] at hauth <;> cases hauth

/-- What the scan makes of a slot. -/
def scannedSlot (img : Image) (slot : SlotIndex) (old : SlotState) : SlotState :=
  if (slotSelection img slot).result = .bothInvalid then old
  else ⟨true, (slotSelection img slot).slot, (slotSelection img slot).selected⟩

def Ledger.scanned (l : Ledger) (img : Image) (slots : List SlotIndex) : Ledger :=
  { l with slots := overlay slots (fun i => scannedSlot img i (l.slots i)) l.slots }

/-- A slot without a conflict is scanned to what it holds. -/
theorem scannedSlot_present {slot : SlotIndex} {old : SlotState} (hno : ¬ Conflicting img slot)
    (hold : old.present = false) (hp : (scannedSlot img slot old).present = true) :
    SlotHolds img slot (scannedSlot img slot old).activeCopy (scannedSlot img slot old).record := by
  unfold scannedSlot at hp ⊢
  split at hp
  · rw [hold] at hp
    cases hp
  · rename_i hboth
    rw [if_neg hboth]
    exact holds_of_slotSelection (SelectionResult.authoritative_of_ne (fun h => hno (Or.inl h))
      (fun h => hno (Or.inr h)) hboth)

theorem scannedSlot_of_holds {slot : SlotIndex} {c : CopySlot} {r : HubRecord} {old : SlotState}
    (h : SlotHolds img slot c r) : scannedSlot img slot old = ⟨true, c, r⟩ := by
  obtain ⟨hauth, hsel, hslot⟩ := slotSelection_of_holds h
  unfold scannedSlot
  rw [if_neg, hsel, hslot]
  intro he
  rw [he] at hauth
  cases hauth

theorem Ledger.scanned_cons (l : Ledger) (img : Image) (slot : SlotIndex) (rest : List SlotIndex) :
    (l.setSlot slot (scannedSlot img slot (l.slots slot))).scanned img rest = l.scanned img (slot :: rest) := by
  unfold Ledger.scanned Ledger.setSlot overlay
  congr 1
  funext i
  by_cases hi : i = slot
  · subst hi
    by_cases hr : i ∈ rest
    · simp only [hr, if_true, Function.update_self, List.mem_cons, or_true]
      unfold scannedSlot
      split <;> rfl
    · simp [hr]
  · simp [hi]

/-- **The scan**, from any image. -/
theorem ensures_scanSlots (hr : Reports allowed) {Q : Ledger × Option Bool → Image → Prop}
    (hP : P img) {slots : List SlotIndex} {l : Ledger} {missing : Bool}
    (hQ : (∀ slot ∈ slots, ¬ Conflicting img slot) →
      Q (l.scanned img slots, some (missing && slots.all (slotMissing img))) img)
    (hfail : ∀ l' status, status ≠ .ready → (∃ slot ∈ slots, Conflicting img slot) ∨ ReadsFail allowed →
      Q (Ledger.failLedger l' status, none) img) :
    geometry.EnsuresUnder allowed img (l.scanSlots missing slots) Q P := by
  induction slots generalizing l missing with
  | nil =>
    unfold Ledger.scanSlots
    have h0 : l.scanned img [] = l := by simp [Ledger.scanned]
    have := hQ (by simp)
    rw [h0] at this
    exact ensures_pure.2 (by simpa using this)
  | cons slot rest ih =>
    unfold Ledger.scanSlots
    have hgone : ReadsFail allowed → Q (l.failLedger .storageUnavailable, none) img := fun hf =>
      hfail l _ (by decide) (Or.inr hf)
    refine ensures_readRecordCopy_reports hr hP ?_ fun hf => ensures_pure.2 (hgone hf)
    refine ensures_readRecordCopy_reports hr hP ?_ fun hf => ensures_pure.2 (hgone hf)
    dsimp only
    rw [show selectCopies HubRecord.generation decodeHubRecordForSelection
      (copyOf hubRecordSize (img (.event slot .A))) (copyOf hubRecordSize (img (.event slot .B))) =
      slotSelection img slot from rfl]
    by_cases hconf : Conflicting img slot
    · -- the copies contradict each other: the scan stops
      have haccept : ∃ status, status ≠ .ready ∧
          l.acceptRecordSelection (slotSelection img slot).result = (l.failLedger status, false) := by
        unfold Ledger.acceptRecordSelection
        rcases hconf with hc | hc
        · exact ⟨.recordConflict, by simp, by simp [hc]⟩
        · exact ⟨.generationAmbiguous, by simp, by simp [hc]⟩
      obtain ⟨status, hst, haccept⟩ := haccept
      simp only [haccept, Bool.not_false, if_true]
      exact ensures_pure.2 (hfail l status hst (Or.inl ⟨slot, List.mem_cons_self, hconf⟩))
    · have haccept : l.acceptRecordSelection (slotSelection img slot).result = (l, true) := by
        unfold Ledger.acceptRecordSelection
        rw [if_neg fun h => hconf (Or.inl h), if_neg fun h => hconf (Or.inr h)]
      have hmiss : (missing && decide ((copyOf hubRecordSize (img (.event slot .A))).status = .missing ∧
          (copyOf hubRecordSize (img (.event slot .B))).status = .missing)) =
          (missing && slotMissing img slot) := by
        simp only [copyOf_missing, slotMissing, Bool.decide_and, Bool.decide_eq_true]
      have hno' : (∀ i ∈ rest, ¬ Conflicting img i) → ∀ i ∈ slot :: rest, ¬ Conflicting img i := by
        intro hno i hi
        rcases List.mem_cons.1 hi with rfl | hi
        · exact hconf
        · exact hno i hi
      have hslot : ∀ l' : Ledger, l' = l.setSlot slot (scannedSlot img slot (l.slots slot)) →
          geometry.EnsuresUnder allowed img (l'.scanSlots (missing && slotMissing img slot) rest) Q P := by
        rintro l' rfl
        refine ih (fun hno => ?_) ?_
        · rw [Ledger.scanned_cons]
          simpa [Bool.and_assoc] using hQ (hno' hno)
        · rintro l' status hst (⟨i, hi, hc⟩ | hf)
          · exact hfail l' status hst (Or.inl ⟨i, List.mem_cons_of_mem _ hi, hc⟩)
          · exact hfail l' status hst (Or.inr hf)
      simp only [haccept, Bool.not_true, Bool.false_eq_true, if_false, hmiss]
      split
      · rename_i hboth
        refine hslot l ?_
        rw [scannedSlot, if_pos hboth]
        simp [Ledger.setSlot]
      · rename_i hboth
        refine hslot _ ?_
        rw [scannedSlot, if_neg hboth]

/-! ### The validation -/

/-- Owned slots differ in identity and in ordinal. -/
structure Distinct (v : SlotIndex → HubRecord) : Prop where
  identity : ∀ i j, (v i).Owned → (v j).Owned → (v i).identity = (v j).identity → i = j
  ordinal : ∀ i j, (v i).Owned → (v j).Owned → (v i).admissionOrdinal = (v j).admissionOrdinal → i = j

/-- The slots `i` and `j` have nothing in common that has to be unique. -/
def Apart (v : SlotIndex → HubRecord) (i j : SlotIndex) : Prop :=
  (v i).Owned → (v j).Owned →
    (v i).identity ≠ (v j).identity ∧ (v i).admissionOrdinal ≠ (v j).admissionOrdinal

theorem Apart.symm {v : SlotIndex → HubRecord} {i j : SlotIndex} (h : Apart v i j) : Apart v j i :=
  fun hj hi => ⟨(h hi hj).1.symm, (h hi hj).2.symm⟩

theorem distinct_iff_apart {v : SlotIndex → HubRecord} : Distinct v ↔ ∀ i j, j < i → Apart v i j := by
  constructor
  · intro h i j hlt hi hj
    exact ⟨fun he => absurd (h.identity i j hi hj he) (ne_of_gt hlt),
      fun he => absurd (h.ordinal i j hi hj he) (ne_of_gt hlt)⟩
  · intro h
    have hne : ∀ i j, i ≠ j → Apart v i j := by
      intro i j hij
      rcases lt_or_gt_of_ne hij with hlt | hlt
      · exact (h j i hlt).symm
      · exact h i j hlt
    refine ⟨fun i j hi hj he => ?_, fun i j hi hj he => ?_⟩
    · by_contra hij
      exact (hne i j hij hi hj).1 he
    · by_contra hij
      exact (hne i j hij hi hj).2 he

theorem validateSlots_eq_none {l : Ledger} (hp : ∀ i, (l.slots i).present = true) {slots : List SlotIndex} :
    l.validateSlots slots = none ↔ ∀ i ∈ slots, ∀ j, j < i → Apart l.records i j := by
  induction slots with
  | nil => simp [Ledger.validateSlots]
  | cons i rest ih =>
    unfold Ledger.validateSlots
    rw [if_neg (by simp [hp i])]
    by_cases hown : Ledger.isOwned (l.slots i).record = true
    · rw [if_neg (by simp [hown])]
      have hi : (l.records i).Owned := isOwned_iff.1 hown
      -- the search among the earlier slots finds nothing exactly when all of them are apart
      have hsearch : ∀ f : SlotIndex → Option Ledger.Status,
          (∀ j, f j = none ↔ (j < i → Apart l.records i j)) →
          (((List.finRange 8).findSome? f = none) ↔ ∀ j, j < i → Apart l.records i j) := by
        intro f hf
        simp [List.findSome?_eq_none_iff, hf]
      have hf := hsearch (fun j => if j < i && Ledger.isOwned (l.slots j).record then
          if (l.slots i).record.sourceDeviceId = (l.slots j).record.sourceDeviceId ∧
              (l.slots i).record.eventEpoch = (l.slots j).record.eventEpoch ∧
              (l.slots i).record.eventId = (l.slots j).record.eventId then some .duplicateIdentity
          else if (l.slots i).record.admissionOrdinal = (l.slots j).record.admissionOrdinal then
            some .duplicateOrdinal
          else none
        else none) (fun j => by
          have hid : ((l.slots i).record.sourceDeviceId = (l.slots j).record.sourceDeviceId ∧
              (l.slots i).record.eventEpoch = (l.slots j).record.eventEpoch ∧
              (l.slots i).record.eventId = (l.slots j).record.eventId) ↔
              (l.records i).identity = (l.records j).identity := by
            simp [HubRecord.identity, Ledger.records]
          by_cases hlt : j < i
          · by_cases hj : Ledger.isOwned (l.slots j).record = true
            · have hj' : (l.records j).Owned := isOwned_iff.1 hj
              have ho : ((l.slots i).record.admissionOrdinal = (l.slots j).record.admissionOrdinal) ↔
                  (l.records i).admissionOrdinal = (l.records j).admissionOrdinal := Iff.rfl
              simp only [hlt, hj, decide_true, Bool.and_self, if_true, hid, ho, Apart, hi, hj', true_implies]
              split
              · simp_all
              · split <;> simp_all
            · have hj' : ¬ (l.records j).Owned := fun hc => hj (isOwned_iff.2 hc)
              simp [hlt, hj, Apart, hj']
          · simp [hlt])
      split
      · rename_i status hs
        rw [hs] at hf
        simp only [reduceCtorEq, false_iff, List.forall_mem_cons] at hf ⊢
        exact fun hc => hf hc.1
      · rename_i hs
        rw [hs] at hf
        simp only [true_iff, List.forall_mem_cons] at hf ⊢
        rw [ih]
        exact ⟨fun h => ⟨hf, h⟩, fun h => h.2⟩
    · rw [if_pos (by simpa using hown), ih, List.forall_mem_cons]
      have hi : ¬ (l.records i).Owned := fun hc => hown (isOwned_iff.2 hc)
      exact ⟨fun h => ⟨fun j _ hc => absurd hc hi, h⟩, fun h => h.2⟩

/-- A slot that is missing is found. -/
theorem validateSlots_absent {l : Ledger} {slots : List SlotIndex} {i : SlotIndex} (hi : i ∈ slots)
    (habsent : ¬ (l.slots i).present = true) : l.validateSlots slots ≠ none := by
  induction slots with
  | nil => cases hi
  | cons j rest ih =>
    unfold Ledger.validateSlots
    rcases List.mem_cons.1 hi with rfl | hi
    · simp [habsent]
    · split
      · simp
      · split
        · exact ih hi
        · split
          · simp
          · exact ih hi

theorem validateRecoveredSlots_of_distinct {l : Ledger} (hp : ∀ i, (l.slots i).present = true)
    (h : Distinct l.records) : l.validateRecoveredSlots = (l, true) := by
  unfold Ledger.validateRecoveredSlots
  rw [(validateSlots_eq_none hp).2 fun i _ => distinct_iff_apart.1 h i]

theorem validateSlots_ne_ready {l : Ledger} {slots : List SlotIndex} : l.validateSlots slots ≠ some .ready := by
  induction slots with
  | nil => simp [Ledger.validateSlots]
  | cons i rest ih =>
    unfold Ledger.validateSlots
    split
    · simp
    · split
      · exact ih
      · split
        · rename_i status hs
          obtain ⟨j, -, hj⟩ := List.exists_of_findSome?_eq_some hs
          intro hc
          cases hc
          repeat' split at hj
          all_goals cases hj
        · exact ih

theorem distinct_of_validateRecoveredSlots {l : Ledger} (hp : ∀ i, (l.slots i).present = true)
    (h : l.validateRecoveredSlots.2 = true) : Distinct l.records := by
  unfold Ledger.validateRecoveredSlots at h
  split at h
  · cases h
  · rename_i hnone
    exact distinct_iff_apart.2 fun i => (validateSlots_eq_none hp).1 hnone i (List.mem_finRange i)

theorem validateRecoveredSlots_status {l : Ledger} (h : l.validateRecoveredSlots.2 = false) :
    l.validateRecoveredSlots.1.status ≠ .ready := by
  unfold Ledger.validateRecoveredSlots at h ⊢
  split at h
  · rename_i status hs
    intro hc
    have hc : status = .ready := hc
    rw [hc] at hs
    exact validateSlots_ne_ready hs
  · cases h

/-! ### The metadata -/

/-- The selection among the metadata copies of an image. -/
def metaSelection (img : Image) : Selection HubMetadata :=
  selectCopies HubMetadata.generation decodeHubMetadataForSelection
    (copyOf hubMetadataSize (img (.metadata .A))) (copyOf hubMetadataSize (img (.metadata .B)))

theorem metaSelection_of_holds {c : CopySlot} {m : HubMetadata} (h : MetaHolds img c m) :
    (metaSelection img).result.authoritative = true ∧ (metaSelection img).selected = m ∧
      (metaSelection img).slot = c :=
  selectCopies_of_holds (readsMetadata img .A) (readsMetadata img .B) h

theorem holds_of_metaSelection (h : (metaSelection img).result.authoritative = true) :
    MetaHolds img (metaSelection img).slot (metaSelection img).selected :=
  holds_of_selectCopies (readsMetadata img .A) (readsMetadata img .B) h

/-- The ledger that goes on with the metadata of the image. -/
def Ledger.resumed (l : Ledger) (c : CopySlot) (m : HubMetadata) : Ledger :=
  { l with metadata := m, metadataCopy := c, hasMetadata := true
           nextVolatileOrdinal := m.nextUnreservedAdmissionOrdinal
           volatileEndExclusive := m.nextUnreservedAdmissionOrdinal
           ordinalReady := true, status := .ready }

theorem recoverMetadata_of_holds {l : Ledger} {c : CopySlot} {m : HubMetadata} (h : MetaHolds img c m)
    (hhw : Ledger.validHighWater m.nextUnreservedAdmissionOrdinal = true) :
    l.recoverMetadata (copyOf hubMetadataSize (img (.metadata .A))) (copyOf hubMetadataSize (img (.metadata .B))) =
      l.resumed c m := by
  obtain ⟨hauth, hsel, hslot⟩ := metaSelection_of_holds h
  have hres : (metaSelection img).result ≠ .equalDisagreement ∧
      (metaSelection img).result ≠ .generationAmbiguous ∧ (metaSelection img).result ≠ .bothInvalid := by
    refine ⟨?_, ?_, ?_⟩ <;> intro he <;> rw [he] at hauth <;> cases hauth
  unfold Ledger.recoverMetadata
  rw [show selectCopies HubMetadata.generation decodeHubMetadataForSelection
    (copyOf hubMetadataSize (img (.metadata .A))) (copyOf hubMetadataSize (img (.metadata .B))) =
    metaSelection img from rfl]
  simp only [hres.1, hres.2.1, hres.2.2, if_false, hsel, hslot, hhw, Bool.not_true, Bool.false_eq_true, or_self]
  rfl

/-- Metadata that makes the ledger READY is in force and has a valid mark. -/
theorem holds_of_recoverMetadata {l : Ledger} (hl : l.ordinalReady = false)
    (h : (l.recoverMetadata (copyOf hubMetadataSize (img (.metadata .A)))
      (copyOf hubMetadataSize (img (.metadata .B)))).becomeHealthy.status = .ready) :
    ∃ c m, MetaHolds img c m ∧ Ledger.validHighWater m.nextUnreservedAdmissionOrdinal = true := by
  have hfailed : ∀ status : Ledger.Status, ({ l with status } : Ledger).becomeHealthy.status = status := by
    intro status
    simp [Ledger.becomeHealthy, hl]
  unfold Ledger.recoverMetadata at h
  rw [show selectCopies HubMetadata.generation decodeHubMetadataForSelection
    (copyOf hubMetadataSize (img (.metadata .A))) (copyOf hubMetadataSize (img (.metadata .B))) =
    metaSelection img from rfl] at h
  dsimp only at h
  split at h
  · rw [hfailed] at h
    cases h
  · split at h
    · rw [hfailed] at h
      cases h
    · split at h
      · rw [hfailed] at h
        cases h
      · rename_i h1 h2 h3
        rw [not_or] at h3
        exact ⟨_, _, holds_of_metaSelection (SelectionResult.authoritative_of_ne h1 h2 h3.1), by simpa using h3.2⟩

/-- A ledger that has come back READY: everything but that ordinals lie below the mark. -/
structure Revived (l : Ledger) (img : Image) : Prop where
  healthy : l.ledgerHealthy = true
  ready : l.ordinalReady = true
  slots : SlotsMirror l img
  metadata : MetaHolds img l.metadataCopy l.metadata
  highWater : Ledger.validHighWater l.metadata.nextUnreservedAdmissionOrdinal = true
  /-- No block is reserved yet. -/
  cursor : l.nextVolatileOrdinal = l.volatileEndExclusive
  distinct : Distinct l.records

/-- The mark of the metadata in RAM. -/
def Ledger.mark (l : Ledger) : ℕ := l.metadata.nextUnreservedAdmissionOrdinal.toNat

theorem Revived.sound {l : Ledger} {v : View} (h : Revived l img) (hr : l.records = v.records)
    (hmark : v.mark ≤ l.mark)
    (hbelow : ∀ i, (v.records i).Owned → (v.records i).admissionOrdinal.toNat < v.mark) : Sound l img v :=
  { healthy := h.healthy
    slots := h.slots
    metadata := h.metadata
    highWater := h.highWater
    cursor := fun _ hne => absurd h.cursor hne
    ok := ⟨by rw [← hr]; exact h.distinct.identity, by rw [← hr]; exact h.distinct.ordinal, hbelow⟩
    records := hr
    mark := hmark }

/-- The recovery of a ledger whose slots are all there and whose metadata is usable. -/
theorem ensures_recoverFrom_mirrored {l : Ledger} (hslots : SlotsMirror l img) (hdist : Distinct l.records)
    {c : CopySlot} {m : HubMetadata} (hm : MetaHolds img c m)
    (hhw : Ledger.validHighWater m.nextUnreservedAdmissionOrdinal = true)
    {Q : Ledger × Ledger.Status → Image → Prop}
    (hQ : Revived (l.resumed c m).becomeHealthy img → Q ((l.resumed c m).becomeHealthy, .ready) img) :
    geometry.EnsuresUnder allowed img (l.recoverFrom false (copyOf hubMetadataSize (img (.metadata .A)))
      (copyOf hubMetadataSize (img (.metadata .B)))) Q P := by
  have hpresent : ∀ i, (l.slots i).present = true := fun i => (hslots i).1
  unfold Ledger.recoverFrom
  simp only [Bool.false_and, Bool.false_eq_true, if_false]
  rw [if_neg (by simp [hpresent]), validateRecoveredSlots_of_distinct hpresent hdist]
  simp only [Bool.not_true, Bool.false_eq_true, if_false]
  rw [recoverMetadata_of_holds hm hhw]
  exact ensures_pure.2 (hQ ⟨rfl, rfl, hslots, hm, hhw, rfl, hdist⟩)

/-- The ledger that a recovery starts with, after the scan. -/
def scannedLedger (hub node : UInt8) (img : Image) : Ledger :=
  ({ Ledger.initial with hubDeviceId := hub, nodeDeviceId := node } : Ledger).scanned img (List.finRange 8)

theorem scannedLedger_slots (hub node : UInt8) (img : Image) (i : SlotIndex) :
    (scannedLedger hub node img).slots i = scannedSlot img i ⟨false, .A, default⟩ := by
  simp [scannedLedger, Ledger.scanned, overlay, Ledger.initial]

theorem scannedLedger_mirrors {hub node : UInt8} (hno : ∀ slot, ¬ Conflicting img slot)
    (hpresent : ∀ i, ((scannedLedger hub node img).slots i).present = true) :
    SlotsMirror (scannedLedger hub node img) img := fun i => by
  have hp := hpresent i
  refine ⟨hp, ?_⟩
  rw [scannedLedger_slots] at hp ⊢
  exact scannedSlot_present (hno i) rfl hp

/-- The first three stages of a recovery that is not refused: where the scan meets no contradiction, the ledger
goes on with the copies of the metadata, or without them where they are not available. -/
theorem ensures_recover_scanned (hr : Reports allowed) {Q : Ledger × Ledger.Status → Image → Prop}
    {hub node : UInt8} (hd : hub ≠ 0 ∧ node ≠ 0 ∧ hub ≠ node) (hP : P img)
    (hfrom : (∀ slot, ¬ Conflicting img slot) → ∀ l : Ledger, l = scannedLedger hub node img →
      geometry.EnsuresUnder allowed img (l.recoverFrom ((List.finRange 8).all (slotMissing img))
        (copyOf hubMetadataSize (img (.metadata .A))) (copyOf hubMetadataSize (img (.metadata .B)))) Q P)
    (hwithout : ReadsFail allowed → (∀ slot, ¬ Conflicting img slot) → ∀ l : Ledger,
      l = ({ scannedLedger hub node img with status := .ordinalUnavailable } : Ledger).recoverWithoutMetadata
        ((List.finRange 8).all (slotMissing img)) → Q (l, l.status) img)
    (hfail : (∃ slot, Conflicting img slot) ∨ ReadsFail allowed → ∀ l status, l.ledgerHealthy = false →
      status ≠ .ready → Q (l, status) img) :
    geometry.EnsuresUnder allowed img (Ledger.recover hub node) Q P := by
  unfold Ledger.recover
  dsimp only
  rw [if_neg (by simp [hd])]
  refine ensures_bind (ensures_scanSlots hr hP ?_ ?_)
  · intro hno
    have hno' : ∀ slot, ¬ Conflicting img slot := fun slot => hno slot (List.mem_finRange slot)
    simp only [Bool.true_and]
    refine ensures_readMetadataCopy_reports hr hP ?_ fun hf => ensures_pure.2 (hwithout hf hno' _ rfl)
    refine ensures_readMetadataCopy_reports hr hP ?_ fun hf => ensures_pure.2 (hwithout hf hno' _ rfl)
    exact hfrom hno' _ rfl
  · rintro l' status hst (⟨slot, -, hc⟩ | hf)
    · exact ensures_pure.2 (hfail (Or.inl ⟨slot, hc⟩) _ _ rfl hst)
    · exact ensures_pure.2 (hfail (Or.inr hf) _ _ rfl hst)

/-- The recovery without metadata of a ledger whose slots are all there: they stay in custody. -/
theorem recoverWithoutMetadata_mirrored {l : Ledger} (hslots : SlotsMirror l img) (hdist : Distinct l.records) :
    l.recoverWithoutMetadata false = { l with ledgerHealthy := true, status := .ordinalUnavailable } := by
  have hpresent : ∀ i, (l.slots i).present = true := fun i => (hslots i).1
  unfold Ledger.recoverWithoutMetadata
  rw [validateRecoveredSlots_of_distinct hpresent hdist]
  rfl

/-- The recovery without metadata of a ledger that misses a slot. -/
theorem recoverWithoutMetadata_absent {l : Ledger} (hl : l.ledgerHealthy = false) {missing : Bool}
    (habsent : ¬ ∀ i, (l.slots i).present = true) : (l.recoverWithoutMetadata missing).ledgerHealthy = false := by
  unfold Ledger.recoverWithoutMetadata
  split
  · exact hl
  · obtain ⟨i, hi⟩ := not_forall.1 habsent
    have hsome : l.validateRecoveredSlots.2 = false := by
      unfold Ledger.validateRecoveredSlots
      split
      · rfl
      · rename_i hnone
        exact absurd hnone (validateSlots_absent (List.mem_finRange i) hi)
    simp only [hsome, Bool.false_eq_true, if_false]
    unfold Ledger.validateRecoveredSlots
    split
    · rfl
    · exact hl

/-! ### From an image that stands for a view -/

/-- The outcome of the recovery of a view: it is READY, for the devices given. -/
structure Resumes (hub node : UInt8) (l : Ledger) (img : Image) (v : View) : Prop where
  sound : Sound l img v
  ready : l.ordinalReady = true
  devices : l.hubDeviceId = hub ∧ l.nodeDeviceId = node

/-- The view comes back, on a storage that reports its failures: READY, or in service without ordinals, or out of
service. -/
theorem ensures_recover_stored_under (hr : Reports allowed) {Q : Ledger × Ledger.Status → Image → Prop}
    {hub node : UInt8} (hd : hub ≠ 0 ∧ node ≠ 0 ∧ hub ≠ node) {v : View} (h : Stored img v) (hP : P img)
    (hQ : ∀ l, Resumes hub node l img v → Q (l, .ready) img)
    (hwithout : ReadsFail allowed → ∀ l, Serving l img v → Q (l, .ordinalUnavailable) img)
    (hfail : ReadsFail allowed → ∀ l status, l.ledgerHealthy = false → status ≠ .ready → Q (l, status) img) :
    geometry.EnsuresUnder allowed img (Ledger.recover hub node) Q P := by
  obtain ⟨m, hdur, hhw, hmark⟩ := h.durable
  obtain ⟨c, hm⟩ := hdur.metadata
  choose copy hcopy using hdur.slot
  set l0 := scannedLedger hub node img with hl0
  have hslots : ∀ i, l0.slots i = ⟨true, copy i, v.records i⟩ := fun i => by
    rw [hl0, scannedLedger_slots, scannedSlot_of_holds (hcopy i)]
  have hrec : l0.records = v.records := by
    funext i
    simp [Ledger.records, hslots]
  have hmirror : SlotsMirror l0 img := fun i => by
    rw [hslots]
    exact ⟨rfl, hcopy i⟩
  have hmissing : (List.finRange 8).all (slotMissing img) = false := by
    rw [Bool.eq_false_iff]
    exact fun hc => (hcopy 0).ne_none (allMissing_iff.1 hc 0 _)
  have hdist : Distinct l0.records := by
    rw [hrec]
    exact ⟨h.ok.identity, h.ok.ordinal⟩
  refine ensures_recover_scanned hr hd hP ?_ ?_ ?_
  · rintro - l rfl
    rw [hmissing]
    refine ensures_recoverFrom_mirrored hmirror hdist hm hhw fun hrev => hQ _ ?_
    exact ⟨hrev.sound hrec hmark h.ok.below, rfl, rfl, rfl⟩
  · rintro hf - l hl
    have hkept : ({ l0 with status := .ordinalUnavailable } : Ledger).recoverWithoutMetadata false =
        { l0 with ledgerHealthy := true, status := .ordinalUnavailable } :=
      recoverWithoutMetadata_mirrored hmirror hdist
    rw [hmissing] at hl
    rw [hl.trans hkept]
    exact hwithout hf _ ⟨rfl, hmirror, hrec, h, fun hready => by cases hready⟩
  · rintro (⟨slot, hc⟩ | hf)
    · exact absurd hc (not_conflicting_of_holds (hcopy slot))
    · exact hfail hf

/-- **The view comes back.** -/
theorem ensures_recover_stored (ht : Truthful allowed) {Q : Ledger × Ledger.Status → Image → Prop}
    {hub node : UInt8} (hd : hub ≠ 0 ∧ node ≠ 0 ∧ hub ≠ node) {v : View} (h : Stored img v) (hP : P img)
    (hQ : ∀ l, Resumes hub node l img v → Q (l, .ready) img) :
    geometry.EnsuresUnder allowed img (Ledger.recover hub node) Q P :=
  ensures_recover_stored_under ht.reports hd h hP hQ (fun hf => absurd hf ht.not_readsFail)
    fun hf => absurd hf ht.not_readsFail

end Redline.Hub
