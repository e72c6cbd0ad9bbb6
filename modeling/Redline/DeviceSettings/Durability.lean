import Redline.DeviceSettings.Calls

/-!
# Whether a save survives

A save that has succeeded is loaded again if its record wins over the other slot.  It does when the load before it
had selected a slot, since the save continues the generation of that slot.  When the load had selected none, the
save starts over at generation 1 in slot A, and a record that is left in slot B may win (`save_durable_iff`):
`conflicting_save_lost` is a pair of records of one generation.
-/

namespace Redline.DeviceSettings

open Redline.Wire Redline.Records Redline.Lib SettingsManager

/-- A load by a new manager on a store that works. -/
def Storage.loads (st : Storage) : SettingsManager × LoadStatus := (settle Storage.meets .none load st).1

theorem settle_load {st : Storage} (h : st.Calm) :
    settle Storage.meets .none load st = (initial.selectSlots (st.record .A) (st.record .B), st) := by
  obtain ⟨slots, marker⟩ := st
  rcases h with rfl | rfl
  · rfl
  · rfl

theorem loads_of_calm {st : Storage} (h : st.Calm) :
    st.loads = initial.selectSlots (st.record .A) (st.record .B) := by
  rw [Storage.loads, settle_load h]

section Slots

variable {st : Storage} {slot : RecordSlot} {content : Option Bytes}

theorem record_available (st : Storage) (slot : RecordSlot) : (st.record slot).kind ≠ .unavailable :=
  classify_available _

theorem record_setSlot (st : Storage) (slot : RecordSlot) (content : Option Bytes) :
    (st.setSlot slot content).record slot = classify (slotReply content) := by
  rw [Storage.record, setSlot_slots, Function.update_self]

theorem record_setSlot_of_ne (st : Storage) {slot other : RecordSlot} (h : other ≠ slot) (content : Option Bytes) :
    (st.setSlot slot content).record other = st.record other := by
  rw [Storage.record, setSlot_slots, Function.update_of_ne h]
  rfl

theorem Storage.Calm.setSlot (h : st.Calm) (slot : RecordSlot) (content : Option Bytes) :
    (st.setSlot slot content).Calm := h

theorem opposite_ne (slot : RecordSlot) : opposite slot ≠ slot := by
  cases slot <;> exact RecordSlot.noConfusion

@[simp] theorem opposite_opposite (slot : RecordSlot) : opposite (opposite slot) = slot := by
  cases slot <;> rfl

/-- The record that wins is loaded. -/
theorem loads_of_wins (h : st.Calm) (hwins : Wins (st.record slot) (st.record (opposite slot))) :
    Selected st.loads.1 (st.record slot) := by
  rw [loads_of_calm h]
  cases slot with
  | A => exact (selectSlots_of_wins_left hwins (record_available st .B)).1
  | B => exact selectSlots_of_wins_right hwins (record_available st .A)

/-- The manager has the record of its active slot, and that record wins. -/
structure Authoritative (m : SettingsManager) (st : Storage) : Prop where
  wins : Wins (st.record m.activeSlot) (st.record (opposite m.activeSlot))
  selected : Selected m (st.record m.activeSlot)

theorem authoritative_of_selectSlots (h : (initial.selectSlots (st.record .A) (st.record .B)).1.hasActiveSlot = true) :
    Authoritative (initial.selectSlots (st.record .A) (st.record .B)).1 st := by
  rcases wins_of_selectSlots rfl record_eq_of_bytes h with ⟨hact, hwins, hsel⟩ | ⟨hact, hwins, hsel⟩
  · exact ⟨by rw [hact]; exact hwins, by rw [hact]; exact hsel⟩
  · exact ⟨by rw [hact]; exact hwins, by rw [hact]; exact hsel⟩

end Slots

/-! ### A save after a load -/

/-- **When the record of a save prevails**, in terms of what the load before it has left and of the record in slot B:
the load has selected a slot; or slot B has no usable record; or its record is older than generation 1; or it is newer
and has the same settings; or neither is newer, and the settings are the defaults, or the record is the one that the
save writes. -/
def Prevails (m : SettingsManager) (b : SlotRecord) (settings : Settings) : Prop :=
  m.hasActiveSlot = true ∨ isUsable b = false ∨ generationIsNewer 1 b.generation = true ∨
    (generationIsNewer b.generation 1 = true ∧ b.settings = settings) ∨
    (b.generation = 0x80000001 ∧ settings = defaults) ∨
    (b.generation = 1 ∧ (settings = defaults ∨ encodeRecord settings 1 = .ok b.bytes))

section Durability

variable {st st' : Storage} {m : SettingsManager} {settings : Settings} {encoded : Bytes}

theorem canonical_of_valid (h : isValid settings = true) : canonical settings = settings := by
  rw [canonical, validateAndRepair_of_valid h]

/-- After a load that has selected a slot. -/
theorem loads_after_save (hcalm : st.Calm) (hm : Selected m (st.record m.activeSlot)) (hw : Writes m settings encoded) :
    (st.setSlot m.target (some encoded)).loads.1.settings = canonical settings := by
  have htarget : m.target = opposite m.activeSlot := by rw [target, if_pos hm.active]
  have hrec : (st.setSlot m.target (some encoded)).record m.target =
      ⟨.valid, canonical settings, m.generation + 1, encoded⟩ := by
    rw [record_setSlot, classify_encoded hw.encodes]
  have hother : (st.setSlot m.target (some encoded)).record (opposite m.target) = st.record m.activeSlot := by
    rw [record_setSlot_of_ne _ (opposite_ne _), htarget, opposite_opposite]
  have hwins : Wins ((st.setSlot m.target (some encoded)).record m.target)
      ((st.setSlot m.target (some encoded)).record (opposite m.target)) := by
    rw [hrec, hother]
    refine ⟨rfl, Or.inr (Or.inl ?_)⟩
    rw [← hm.generation]
    exact generationIsNewer_succ _
  rw [(loads_of_wins (hcalm.setSlot _ _) hwins).settings, hrec]

/-- After a load that has selected none. -/
theorem loads_after_first_save (hcalm : st.Calm) (henc : encodeRecord settings 1 = .ok encoded) :
    (st.setSlot .A (some encoded)).loads.1.settings = settings ↔
      isUsable (st.record .B) = false ∨ generationIsNewer 1 (st.record .B).generation = true ∨
        (generationIsNewer (st.record .B).generation 1 = true ∧ (st.record .B).settings = settings) ∨
        ((st.record .B).generation = 0x80000001 ∧ settings = defaults) ∨
        ((st.record .B).generation = 1 ∧ (settings = defaults ∨ encodeRecord settings 1 = .ok (st.record .B).bytes)) := by
  set b := st.record .B with hb
  set a : SlotRecord := ⟨.valid, settings, 1, encoded⟩ with ha
  have hrecA : (st.setSlot .A (some encoded)).record .A = a := by rw [record_setSlot, classify_encoded henc]
  have hrecB : (st.setSlot .A (some encoded)).record .B = b := record_setSlot_of_ne _ RecordSlot.noConfusion _
  have havail : b.kind ≠ .unavailable := record_available st .B
  rw [loads_of_calm (hcalm.setSlot _ _), hrecA, hrecB]
  cases hub : isUsable b with
  | false =>
    have hwins : Wins a b := ⟨rfl, Or.inl hub⟩
    rw [(selectSlots_of_wins_left hwins havail).1.settings]
    exact ⟨fun _ => Or.inl rfl, fun _ => rfl⟩
  | true =>
    cases hnew : generationIsNewer 1 b.generation with
    | true =>
      have hwins : Wins a b := ⟨rfl, Or.inr (Or.inl hnew)⟩
      rw [(selectSlots_of_wins_left hwins havail).1.settings]
      exact ⟨fun _ => Or.inr (Or.inl rfl), fun _ => rfl⟩
    | false =>
      cases hold : generationIsNewer b.generation 1 with
      | true =>
        -- the record in slot B is newer
        have hwins : Wins b a := ⟨hub, Or.inr (Or.inl hold)⟩
        rw [(selectSlots_of_wins_right hwins SlotKind.noConfusion).settings]
        refine ⟨fun h => Or.inr (Or.inr (Or.inl ⟨rfl, h⟩)), ?_⟩
        rintro (hc | hc | ⟨-, h⟩ | ⟨hg, -⟩ | ⟨hg, -⟩)
        · cases hc
        · cases hc
        · exact h
        · rw [hg] at hold
          exact absurd hold (by decide)
        · rw [hg] at hold
          exact absurd hold (by decide)
      | false =>
        have hgen : b.generation = 1 ∨ b.generation = 1 + 0x80000000 := not_newer_iff.1 ⟨hold, hnew⟩
        rw [show (1 : UInt32) + 0x80000000 = 0x80000001 by decide] at hgen
        by_cases hsame : b.generation = 1 ∧ b.bytes = encoded
        · -- the record in slot B is the one that is written
          have heq : b = a := by
            have hB : isUsable ((st.setSlot .A (some encoded)).record .B) = true := hrecB ▸ hub
            have hA : isUsable ((st.setSlot .A (some encoded)).record .A) = true := by
              rw [hrecA]
              rfl
            have hbytes : ((st.setSlot .A (some encoded)).record .B).bytes =
                ((st.setSlot .A (some encoded)).record .A).bytes := by
              rw [hrecA, hrecB]
              exact hsame.2
            rw [← hrecA, ← hrecB]
            exact record_eq_of_bytes hB hA hbytes
          have hwins : Wins a b := ⟨rfl, Or.inr (Or.inr heq.symm)⟩
          rw [(selectSlots_of_wins_left hwins havail).1.settings]
          refine ⟨fun _ => ?_, fun _ => rfl⟩
          refine Or.inr (Or.inr (Or.inr (Or.inr ⟨hsame.1, Or.inr ?_⟩)))
          rw [hsame.2]
          exact henc
        · have hbytes : a.generation = b.generation → a.bytes ≠ b.bytes := fun hg hbeq =>
            hsame ⟨hg.symm, hbeq.symm⟩
          have hua : isUsable a = true := rfl
          have hkept : (initial.selectSlots a b).1.settings = initial.settings :=
            (selectSlots_conflict hua hub hnew hold hbytes).1
          rw [hkept]
          constructor
          · intro h
            have hdef : settings = defaults := h.symm
            rcases hgen with hg | hg
            · exact Or.inr (Or.inr (Or.inr (Or.inr ⟨hg, Or.inl hdef⟩)))
            · exact Or.inr (Or.inr (Or.inr (Or.inl ⟨hg, hdef⟩)))
          · rintro (hc | hc | ⟨hc, -⟩ | ⟨-, h⟩ | ⟨hg, h | h⟩)
            · cases hc
            · cases hc
            · cases hc
            · exact h.symm
            · exact h.symm
            · rw [henc, Except.ok.injEq] at h
              exact absurd ⟨hg, h.symm⟩ hsame

/-- How a load ends while no reset is pending, whatever it is told: it changes nothing; its manager has the record of
its slot, or starts over. -/
theorem Loaded.calm {allowed : Fault → Prop} {r : SettingsManager × LoadStatus} (h : Loaded allowed st r st')
    (hcalm : st.Calm) :
    st' = st ∧ (Selected r.1 (st.record r.1.activeSlot) ∨ r.1.hasActiveSlot = false ∧ r.1.generation = 0) := by
  have hnot : st.marker ≠ .pending := by
    rcases hcalm with hm | hm <;> rw [hm] <;> exact Marker.noConfusion
  cases h with
  | failed _ hun hst =>
    obtain ⟨result, rfl⟩ := hun
    exact ⟨hst.eq hnot, Or.inr ⟨rfl, rfl⟩⟩
  | reset h _ => exact absurd h hnot
  | @selected a b _ ha hb =>
    have hbytes : isUsable a = true → isUsable b = true → a.bytes = b.bytes → a = b := ha.eq_of_bytes hb
    refine ⟨rfl, ?_⟩
    cases hact : (initial.selectSlots a b).1.hasActiveSlot with
    | true =>
      rcases wins_of_selectSlots rfl hbytes hact with ⟨hslot, hwins, hsel⟩ | ⟨hslot, hwins, hsel⟩
      · rw [hslot, ← ha.usable hwins.1]
        exact Or.inl hsel
      · rw [hslot, ← hb.usable hwins.1]
        exact Or.inl hsel
    | false => exact Or.inr ⟨rfl, (noted_of_selectSlots hbytes hact).generation⟩

theorem SaveEnds.durable {r : SettingsManager × SaveStatus} (h : SaveEnds m settings st r st') (hcalm : st.Calm)
    (hvalid : isValid settings = true)
    (hm : Selected m (st.record m.activeSlot) ∨ m.hasActiveSlot = false ∧ m.generation = 0) (hok : saveSucceeded r.2 = true) :
    st'.loads.1.settings = settings ↔ Prevails m (st.record .B) settings := by
  cases h with
  | refused h =>
    rw [h] at hok
    cases hok
  | failed _ _ h =>
    rw [h] at hok
    cases hok
  | @saved encoded _ hw _ =>
    rcases hm with hsel | ⟨hno, hgen⟩
    · rw [loads_after_save hcalm hsel hw, canonical_of_valid hvalid]
      exact ⟨fun _ => Or.inl hsel.active, fun _ => rfl⟩
    · have htarget : m.target = .A := by
        rw [target, hno]
        rfl
      have henc : encodeRecord settings 1 = .ok encoded := by
        rw [← hw.encodes, canonical_of_valid hvalid, hgen]
        rfl
      rw [htarget, loads_after_first_save hcalm henc, Prevails, hno]
      exact ⟨fun h => Or.inr h, fun h => h.resolve_left Bool.false_ne_true⟩

/-- A load of a new manager on a store with the given failures, and a save of its manager with others. -/
def Storage.loadThenSave (st : Storage) (loadFaults saveFaults : List Fault) (settings : Settings) :
    (SettingsManager × LoadStatus) × (SettingsManager × SaveStatus) × Storage :=
  let (loaded, st) := perform Storage.meets .none load loadFaults st
  (loaded, perform Storage.meets .none (loaded.1.save settings) saveFaults st)

/-- **A save that has succeeded is loaded again if and only if its record prevails.** -/
theorem save_durable_iff (hcalm : st.Calm) (hvalid : isValid settings = true) (loadFaults saveFaults : List Fault)
    (hok : saveSucceeded (st.loadThenSave loadFaults saveFaults settings).2.1.2 = true) :
    (st.loadThenSave loadFaults saveFaults settings).2.2.loads.1.settings = settings ↔
      Prevails (st.loadThenSave loadFaults saveFaults settings).1.1 (st.record .B) settings := by
  have hload := always_perform (ensures_load st) loadFaults fun _ _ => trivial
  unfold Storage.loadThenSave at hok ⊢
  revert hload hok
  generalize perform Storage.meets .none load loadFaults st = loaded
  obtain ⟨⟨m, status⟩, st'⟩ := loaded
  intro hok hload
  obtain ⟨hsame, hm⟩ := hload.calm hcalm
  dsimp only at hsame
  subst hsame
  exact (always_perform (ensures_save st' m settings) saveFaults fun _ _ => trivial).durable hcalm hvalid hm hok

/-- The defaults with another display timeout. -/
def withTimeout (seconds : UInt16) : Settings := { defaults with displayTimeoutSeconds := seconds }

/-- A store with the two records. -/
def pairOf (a b : Settings × UInt32) : Storage where
  slots
    | .A => (encodeRecord a.1 a.2).toOption
    | .B => (encodeRecord b.1 b.2).toOption
  marker := .missing

/-- The look-up of the newer record is answered MISSING, so that the load falls back to slot B; the save is loaded all
the same. -/
theorem save_durable_iff_pair :
    let st := pairOf (withTimeout 60, 4) (withTimeout 5, 3)
    let run := st.loadThenSave [.none, .read .missing [] false] [] (withTimeout 300)
    st.Calm ∧ isValid (withTimeout 300) = true ∧ saveSucceeded run.2.1.2 = true ∧ run.1.1.activeSlot = .B ∧
      run.2.2.loads.1.settings = withTimeout 300 :=
  ⟨Or.inl rfl, by decide, by decide +kernel, by decide +kernel,
    (save_durable_iff (Or.inl rfl) (by decide) [.none, .read .missing [] false] [] (by decide +kernel)).2
      (Or.inl (by decide +kernel))⟩

/-- After a conflict of generation 15, a save of 300 seconds succeeds, and the next load finds 120 seconds. -/
theorem conflicting_save_lost :
    let st := pairOf (withTimeout 60, 15) (withTimeout 120, 15)
    let run := st.loadThenSave [] [] (withTimeout 300)
    st.Calm ∧ isValid (withTimeout 300) = true ∧ run.1.2 = .defaultedCorrupt ∧ run.2.1.2 = .saved ∧
      run.2.2.loads.1.settings = withTimeout 120 ∧ run.2.2.loads.1.settings ≠ withTimeout 300 :=
  ⟨Or.inl rfl, by decide, by decide +kernel, by decide +kernel, by decide +kernel, by decide +kernel⟩

end Durability

end Redline.DeviceSettings
