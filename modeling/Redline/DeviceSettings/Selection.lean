import Redline.DeviceSettings.Manager

/-!
# Which record wins

Generations are compared as serial numbers, so that of two records one is newer, unless they are of one generation or
half the range apart.  `Wins`: the record that is selected is usable, and the other one is not, or is older, or is the
same.  Two usable records of which neither wins are a conflict, and a load then selects none (`selectSlots_cases`).
-/

namespace Redline.DeviceSettings

open Redline.Wire Redline.Records Redline.Lib SettingsManager

/-! ### Generations -/

theorem generationIsNewer_iff {candidate reference : UInt32} :
    generationIsNewer candidate reference = true ↔
      (candidate - reference).toNat ≠ 0 ∧ (candidate - reference).toNat < 2 ^ 31 := by
  unfold generationIsNewer
  simp only [ne_eq, Bool.and_eq_true, decide_eq_true_eq, UInt32.lt_iff_toNat_lt, ← UInt32.toNat_inj]
  rfl

theorem generationIsNewer_succ (g : UInt32) : generationIsNewer (g + 1) g = true := by
  rw [generationIsNewer_iff, show g + 1 - g = 1 by grind]
  decide

theorem generationIsNewer_self (g : UInt32) : generationIsNewer g g = false := by
  unfold generationIsNewer
  simp

/-- Of two generations at most one is newer. -/
theorem not_newer_of_newer {g g' : UInt32} (h : generationIsNewer g g' = true) : generationIsNewer g' g = false := by
  by_contra hc
  rw [Bool.not_eq_false] at hc
  rw [generationIsNewer_iff] at h hc
  rw [UInt32.toNat_sub] at h hc
  have := g.toNat_lt
  have := g'.toNat_lt
  omega

theorem ne_of_newer {g g' : UInt32} (h : generationIsNewer g g' = true) : g ≠ g' := by
  rintro rfl
  rw [generationIsNewer_self] at h
  cases h

/-- Neither of two generations is newer: they are equal, or half the range apart. -/
theorem not_newer_iff {g g' : UInt32} : generationIsNewer g g' = false ∧ generationIsNewer g' g = false ↔
    g = g' ∨ g = g' + 0x80000000 := by
  rw [← Bool.not_eq_true, ← Bool.not_eq_true, generationIsNewer_iff, generationIsNewer_iff, ← UInt32.toNat_inj,
    ← UInt32.toNat_inj, UInt32.toNat_sub, UInt32.toNat_sub, UInt32.toNat_add,
    show (0x80000000 : UInt32).toNat = 2 ^ 31 from rfl]
  have := g.toNat_lt
  have := g'.toNat_lt
  omega

/-! ### The record of a slot -/

/-- The record that is stored in a slot. -/
def Storage.record (st : Storage) (slot : RecordSlot) : SlotRecord := classify (slotReply (st.slots slot))

theorem classify_available (content : Option Bytes) : (classify (slotReply content)).kind ≠ .unavailable := by
  unfold slotReply
  cases content with
  | none => exact SlotKind.noConfusion
  | some bytes =>
    dsimp only
    split
    · exact SlotKind.noConfusion
    · unfold classify
      dsimp only
      split
      · exact SlotKind.noConfusion
      · exact SlotKind.noConfusion
      · dsimp only
        split <;> exact SlotKind.noConfusion

/-- A usable record is what its bytes decode to. -/
theorem usable_iff {content : Option Bytes} : isUsable (classify (slotReply content)) = true ↔
    ∃ bytes settings generation repaired, content = some bytes ∧ bytes.length = recordSize ∧
      decodeRecordWithRepair bytes = .ok (settings, generation, repaired) ∧
      classify (slotReply content) = ⟨if repaired then .repaired else .valid, settings, generation, bytes⟩ := by
  constructor
  · intro h
    cases content with
    | none => cases h
    | some bytes =>
      by_cases hlen : bytes.length = recordSize
      · have hreply : slotReply (some bytes) = ⟨.ok, bytes⟩ := by
          rw [slotReply, if_neg (not_not.2 hlen)]
        rw [hreply] at h ⊢
        cases hdec : decodeRecordWithRepair bytes with
        | error e =>
          exfalso
          unfold classify at h
          simp only [hdec] at h
          cases e <;> cases h
        | ok r =>
          obtain ⟨settings, generation, repaired⟩ := r
          refine ⟨bytes, settings, generation, repaired, rfl, hlen, hdec, ?_⟩
          unfold classify
          simp only [hdec]
      · have hreply : slotReply (some bytes) = ⟨.malformed, []⟩ := by rw [slotReply, if_pos hlen]
        rw [hreply] at h
        cases h
  · rintro ⟨bytes, settings, generation, repaired, -, -, -, hrec⟩
    rw [hrec]
    cases repaired <;> rfl

theorem classify_encoded {settings : Settings} {generation : UInt32} {bytes : Bytes}
    (h : encodeRecord settings generation = .ok bytes) :
    classify (slotReply (some bytes)) = ⟨.valid, settings, generation, bytes⟩ := by
  rw [slotReply, if_neg (not_not.2 (length_of_encodeRecord h))]
  unfold classify
  simp only [decodeRecordWithRepair_encodeRecord h]
  rfl

/-- Bytes that do not decode are not usable. -/
theorem not_usable_of_undecodable {bytes : Bytes} (h : (decodeRecordWithRepair bytes).isOk = false) :
    isUsable (classify (slotReply (some bytes))) = false := by
  by_contra hc
  rw [Bool.not_eq_false] at hc
  obtain ⟨bytes', settings, generation, repaired, hb, -, hdec, -⟩ := usable_iff.1 hc
  cases hb
  rw [hdec] at h
  cases h

/-- Usable records of the same bytes are the same. -/
theorem record_eq_of_bytes {st : Storage} {s s' : RecordSlot} (h : isUsable (st.record s) = true)
    (h' : isUsable (st.record s') = true) (hb : (st.record s).bytes = (st.record s').bytes) :
    st.record s = st.record s' := by
  obtain ⟨bytes, settings, generation, repaired, -, -, hdec, hrec⟩ := usable_iff.1 h
  obtain ⟨bytes', settings', generation', repaired', -, -, hdec', hrec'⟩ := usable_iff.1 h'
  rw [Storage.record, Storage.record, hrec, hrec'] at hb ⊢
  dsimp only at hb
  rw [hb, hdec'] at hdec
  cases hdec
  rw [hb]

/-! ### Which record is selected -/

/-- The first record is selected over the second. -/
def Wins (a b : SlotRecord) : Prop :=
  isUsable a = true ∧ (isUsable b = false ∨ generationIsNewer a.generation b.generation = true ∨ a = b)

/-- The manager has the record. -/
structure Selected (m : SettingsManager) (r : SlotRecord) : Prop where
  active : m.hasActiveSlot = true
  settings : m.settings = r.settings
  generation : m.generation = r.generation

theorem applySelected_selected (m : SettingsManager) (r : SlotRecord) (slot : RecordSlot) (fallback : Bool) :
    Selected (m.applySelected r slot fallback).1 r ∧ (m.applySelected r slot fallback).1.activeSlot = slot := by
  unfold applySelected
  dsimp only
  split
  · exact ⟨⟨rfl, rfl, rfl⟩, rfl⟩
  · split <;> exact ⟨⟨rfl, rfl, rfl⟩, rfl⟩

theorem isUsable_available {r : SlotRecord} (h : isUsable r = true) : r.kind ≠ .unavailable := by
  intro hc
  simp [isUsable, hc] at h

section Select

variable {m : SettingsManager} {a b : SlotRecord}

theorem selectSlots_of_wins_left (h : Wins a b) (hb : b.kind ≠ .unavailable) :
    Selected (m.selectSlots a b).1 a ∧ (m.selectSlots a b).1.activeSlot = .A := by
  obtain ⟨hu, hwin⟩ := h
  unfold selectSlots
  rw [if_neg (not_or.2 ⟨isUsable_available hu, hb⟩)]
  dsimp only
  rcases hwin with hno | hnewer | rfl
  · simp only [hu, hno, Bool.not_true, Bool.not_false, Bool.and_true, Bool.and_false, Bool.false_eq_true, if_false,
      if_true]
    exact applySelected_selected _ _ _ _
  · cases hub : isUsable b with
    | false =>
      simp only [hu, Bool.not_true, Bool.not_false, Bool.and_true, Bool.and_false, Bool.false_eq_true, if_false,
        if_true]
      exact applySelected_selected _ _ _ _
    | true =>
      simp only [hu, hnewer, ne_of_newer hnewer, Bool.not_true, Bool.and_self, Bool.false_eq_true, if_false, if_true]
      exact applySelected_selected _ _ _ _
  · simp only [hu, Bool.not_true, Bool.and_self, Bool.false_eq_true, if_false, if_true, ne_eq, not_true_eq_false]
    exact applySelected_selected _ _ _ _

theorem selectSlots_of_wins_right (h : Wins b a) (ha : a.kind ≠ .unavailable) :
    Selected (m.selectSlots a b).1 b := by
  obtain ⟨hu, hwin⟩ := h
  unfold selectSlots
  rw [if_neg (not_or.2 ⟨ha, isUsable_available hu⟩)]
  dsimp only
  rcases hwin with hno | hnewer | rfl
  · simp only [hu, hno, Bool.not_true, Bool.not_false, Bool.and_true, Bool.and_false, Bool.false_eq_true, if_false]
    exact (applySelected_selected _ _ _ _).1
  · cases hua : isUsable a with
    | false =>
      simp only [hu, Bool.not_true, Bool.not_false, Bool.and_true, Bool.and_false, Bool.false_eq_true, if_false]
      exact (applySelected_selected _ _ _ _).1
    | true =>
      simp only [hu, hnewer, (ne_of_newer hnewer).symm, not_newer_of_newer hnewer, Bool.not_true, Bool.and_self,
        Bool.false_eq_true, if_false, if_true]
      exact (applySelected_selected _ _ _ _).1
  · simp only [hu, Bool.not_true, Bool.and_self, Bool.false_eq_true, if_false, if_true, ne_eq, not_true_eq_false]
    exact (applySelected_selected _ _ _ _).1

/-- Two usable records of which none is selected. -/
theorem selectSlots_conflict (ha : isUsable a = true) (hb : isUsable b = true)
    (h : generationIsNewer a.generation b.generation = false) (h' : generationIsNewer b.generation a.generation = false)
    (hbytes : a.generation = b.generation → a.bytes ≠ b.bytes) :
    (m.selectSlots a b).1.settings = m.settings ∧ (m.selectSlots a b).1.hasActiveSlot = m.hasActiveSlot := by
  unfold selectSlots
  rw [if_neg (not_or.2 ⟨isUsable_available ha, isUsable_available hb⟩)]
  dsimp only
  by_cases hg : a.generation = b.generation
  · simp only [ha, hb, hg, hbytes hg, Bool.not_true, Bool.and_self, Bool.false_eq_true, if_false, if_true, ne_eq,
      not_false_eq_true, and_self]
  · simp only [ha, hb, hg, h, h', Bool.not_true, Bool.and_self, Bool.false_eq_true, if_false, if_true, and_self]

/-- A manager as it was, but for what a load notes of the slots. -/
structure Noted (m m' : SettingsManager) : Prop where
  settings : m'.settings = m.settings
  generation : m'.generation = m.generation
  active : m'.hasActiveSlot = m.hasActiveSlot

/-- **The three ends of a selection.** -/
theorem selectSlots_cases (m : SettingsManager) (a b : SlotRecord)
    (hbytes : isUsable a = true → isUsable b = true → a.bytes = b.bytes → a = b) :
    Noted m (m.selectSlots a b).1 ∨
      (Wins a b ∧ ∃ m' fallback, m.selectSlots a b = applySelected m' a .A fallback) ∨
      (Wins b a ∧ ∃ m' fallback, m.selectSlots a b = applySelected m' b .B fallback) := by
  unfold selectSlots
  dsimp only
  split
  · exact Or.inl ⟨rfl, rfl, rfl⟩
  split
  · refine Or.inl ?_
    split
    · exact ⟨rfl, rfl, rfl⟩
    · split <;> exact ⟨rfl, rfl, rfl⟩
  rename_i hsome
  split
  · rename_i hboth
    obtain ⟨hua, hub⟩ := Bool.and_eq_true_iff.1 hboth
    split
    · split
      · exact Or.inl ⟨rfl, rfl, rfl⟩
      · rename_i hbeq
        exact Or.inr (Or.inl ⟨⟨hua, Or.inr (Or.inr (hbytes hua hub (not_not.1 hbeq)))⟩, _, _, rfl⟩)
    · split
      · rename_i hnewer
        exact Or.inr (Or.inl ⟨⟨hua, Or.inr (Or.inl hnewer)⟩, _, _, rfl⟩)
      · split
        · rename_i hnewer
          exact Or.inr (Or.inr ⟨⟨hub, Or.inr (Or.inl hnewer)⟩, _, _, rfl⟩)
        · exact Or.inl ⟨rfl, rfl, rfl⟩
  · rename_i hone
    split
    · rename_i hua
      have hub : isUsable b = false := by simpa [hua] using hone
      exact Or.inr (Or.inl ⟨⟨hua, Or.inl hub⟩, _, _, rfl⟩)
    · rename_i hua
      have hua : isUsable a = false := by simpa using hua
      have hub : isUsable b = true := by simpa [hua] using hsome
      exact Or.inr (Or.inr ⟨⟨hub, Or.inl hua⟩, _, _, rfl⟩)

/-- What a load has selected wins over the other record. -/
theorem wins_of_selectSlots (hm : m.hasActiveSlot = false) (hbytes : isUsable a = true → isUsable b = true →
      a.bytes = b.bytes → a = b) (h : (m.selectSlots a b).1.hasActiveSlot = true) :
    ((m.selectSlots a b).1.activeSlot = .A ∧ Wins a b ∧ Selected (m.selectSlots a b).1 a) ∨
      ((m.selectSlots a b).1.activeSlot = .B ∧ Wins b a ∧ Selected (m.selectSlots a b).1 b) := by
  rcases selectSlots_cases m a b hbytes with hnoted | ⟨hwins, m', fallback, heq⟩ | ⟨hwins, m', fallback, heq⟩
  · rw [hnoted.active, hm] at h
    cases h
  · obtain ⟨hs, hact⟩ := applySelected_selected m' a .A fallback
    rw [heq]
    exact Or.inl ⟨hact, hwins, hs⟩
  · obtain ⟨hs, hact⟩ := applySelected_selected m' b .B fallback
    rw [heq]
    exact Or.inr ⟨hact, hwins, hs⟩

/-- A load that has selected nothing leaves the settings and the generation alone. -/
theorem noted_of_selectSlots (hbytes : isUsable a = true → isUsable b = true → a.bytes = b.bytes → a = b)
    (h : (m.selectSlots a b).1.hasActiveSlot = false) : Noted m (m.selectSlots a b).1 := by
  rcases selectSlots_cases m a b hbytes with hnoted | ⟨-, m', fallback, heq⟩ | ⟨-, m', fallback, heq⟩
  · exact hnoted
  · rw [heq, (applySelected_selected m' a .A fallback).1.active] at h
    cases h
  · rw [heq, (applySelected_selected m' b .B fallback).1.active] at h
    cases h

end Select

end Redline.DeviceSettings
