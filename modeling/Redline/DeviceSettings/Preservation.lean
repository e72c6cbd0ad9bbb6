import Redline.DeviceSettings.Durability

/-!
# Settings of newer firmware

A slot with a well-formed record of another schema is not written as long as each save is made on a manager whose last
load has got through to both slots and has read that one as it is: such a load notes the slot, and a save does not write
a slot that is noted (`unsupported_preserved`).  A load that fails notes nothing, and the next save takes slot A whatever
is in it (`failed_load_overwrites`); so it is with a load to which the record is reported missing or malformed.
-/

namespace Redline.DeviceSettings

open Redline.Wire Redline.Records Redline.Lib SettingsManager

inductive SettingsCall
  | load
  | save (candidate : Settings)

/-- A call, the failures it meets, and the number of its calls of the store that are made before power is cut. -/
structure SettingsAction where
  call : SettingsCall
  faults : List Fault
  stop : Option ℕ

/-- The manager, its store, and what the last load of the manager has returned, with the failures it has met. -/
structure SettingsRun where
  manager : SettingsManager
  storage : Storage
  lastLoad : Option (LoadStatus × List Fault)

def SettingsRun.step (r : SettingsRun) (a : SettingsAction) : SettingsRun :=
  match a.call, a.stop with
  | .load, none =>
    let ((m, status), st) := perform Storage.meets .none load a.faults r.storage
    ⟨m, st, some (status, a.faults)⟩
  | .save candidate, none =>
    let ((m, _), st) := perform Storage.meets .none (r.manager.save candidate) a.faults r.storage
    ⟨m, st, r.lastLoad⟩
  | .load, some n => ⟨initial, (interrupt Storage.meets .none load a.faults n r.storage).2, none⟩
  | .save candidate, some n =>
    ⟨initial, (interrupt Storage.meets .none (r.manager.save candidate) a.faults n r.storage).2, none⟩

def settingsRun (m : SettingsManager) (st : Storage) (actions : List SettingsAction) : SettingsRun :=
  actions.foldl SettingsRun.step ⟨m, st, none⟩

/-- The fault that the read of a slot meets in a load, whose first call reads the marker. -/
def slotFault (faults : List Fault) : RecordSlot → Fault
  | .A => faults.tail.headD .none
  | .B => faults.tail.tail.headD .none

/-- The last load has got through to both slots, and this one has not been reported missing or malformed to it. -/
def SettingsRun.informed (r : SettingsRun) (slot : RecordSlot) : Bool :=
  match r.lastLoad with
  | some (status, faults) => !status.failed && !(slotFault faults slot).misreports
  | none => false

/-- Each save is made on a manager whose last load has got through to both slots, and has read this one as it is. -/
def Guarded (slot : RecordSlot) : SettingsRun → List SettingsAction → Prop
  | _, [] => True
  | r, a :: rest => (∀ candidate, a.call = .save candidate → r.informed slot = true) ∧ Guarded slot (r.step a) rest

/-! ### One call -/

section Step

variable {st : Storage} {slot : RecordSlot} {bytes : Bytes}

theorem kind_of_unsupported (h : decodeRecord bytes = .error .unsupportedSchema) :
    (classify (slotReply (some bytes))).kind = .unsupported := by
  have hlen : bytes.length = recordSize := by
    by_contra hc
    rw [decodeRecord, if_pos hc] at h
    cases h
  have hrepair : decodeRecordWithRepair bytes = .error .unsupportedSchema := by
    unfold decodeRecordWithRepair
    rw [h]
    rfl
  rw [slotReply, if_neg (not_not.2 hlen)]
  unfold classify
  simp only [hrepair]

theorem applySelected_noted (m : SettingsManager) (selected : SlotRecord) (active : RecordSlot) (fallback : Bool) :
    (m.applySelected selected active fallback).1.isUnsupportedSlot slot = m.isUnsupportedSlot slot := by
  unfold applySelected
  dsimp only
  split
  · cases slot <;> rfl
  · split <;> cases slot <;> rfl

/-- A selection notes the slots of another schema. -/
theorem selectSlots_notes (m : SettingsManager) {records : RecordSlot → SlotRecord}
    (havailable : ∀ slot, (records slot).kind ≠ .unavailable) (h : (records slot).kind = .unsupported) :
    (m.selectSlots (records .A) (records .B)).1.isUnsupportedSlot slot = true := by
  unfold selectSlots
  rw [if_neg (not_or.2 ⟨havailable .A, havailable .B⟩)]
  dsimp only
  have hnoted : ∀ repair : Bool, isUnsupportedSlot { m with
      unsupportedSlotA := (records .A).kind == SlotKind.unsupported
      unsupportedSlotB := (records .B).kind == SlotKind.unsupported, repairPending := repair } slot = true := by
    intro repair
    cases slot with
    | A => exact beq_iff_eq.2 h
    | B => exact beq_iff_eq.2 h
  split
  · split
    · exact hnoted m.repairPending
    · split
      · exact hnoted m.repairPending
      · exact hnoted true
  · split
    · split
      · split
        · exact hnoted true
        · exact (applySelected_noted _ _ _ _).trans (hnoted m.repairPending)
      · split
        · exact (applySelected_noted _ _ _ _).trans (hnoted m.repairPending)
        · split
          · exact (applySelected_noted _ _ _ _).trans (hnoted m.repairPending)
          · exact hnoted true
    · split
      · exact (applySelected_noted _ _ _ _).trans (hnoted m.repairPending)
      · exact (applySelected_noted _ _ _ _).trans (hnoted m.repairPending)

/-- What a load takes for the record in a slot. -/
def Storage.answered (st : Storage) (faults : List Fault) (slot : RecordSlot) : SlotRecord :=
  classify (Storage.meets (slotFault faults slot) (.readSlot slot) st).1

theorem meets_readSlot_storage (fault : Fault) (slot : RecordSlot) (st : Storage) :
    (Storage.meets fault (.readSlot slot) st).2 = st := by
  cases fault <;> rfl

theorem meets_readResetMarker_storage (fault : Fault) (st : Storage) :
    (Storage.meets fault .readResetMarker st).2 = st := by
  cases fault <;> rfl

theorem perform_readSlot {α : Type} (slot : RecordSlot) (f : SlotReply → StoreM α) (faults : List Fault) (st : Storage) :
    perform Storage.meets .none (readSlot slot >>= f) faults st =
      perform Storage.meets .none (f (Storage.meets (faults.headD .none) (.readSlot slot) st).1) faults.tail st := by
  refine (perform_call faults st).trans ?_
  rw [meets_readSlot_storage]

theorem perform_readResetMarker {α : Type} (f : MarkerReply → StoreM α) (faults : List Fault) (st : Storage) :
    perform Storage.meets .none (readResetMarker >>= f) faults st =
      perform Storage.meets .none (f (Storage.meets (faults.headD .none) .readResetMarker st).1) faults.tail st := by
  refine (perform_call faults st).trans ?_
  rw [meets_readResetMarker_storage]

/-- A slot that has not been misreported: its record is the one that is stored, or it is not available. -/
theorem Storage.answered_of_truthful {faults : List Fault} (h : (slotFault faults slot).misreports = false) :
    st.answered faults slot = st.record slot ∨ (st.answered faults slot).kind = .unavailable := by
  unfold Storage.answered
  generalize slotFault faults slot = fault at h ⊢
  cases fault with
  | none => exact Or.inl rfl
  | write result left => exact Or.inl rfl
  | read result bytes pending =>
    cases result with
    | ok => exact Or.inl rfl
    | missing => cases h
    | malformed => cases h
    | unavailable => exact Or.inr rfl
    | error => exact Or.inr rfl

theorem perform_readSlots (st : Storage) (faults : List Fault) :
    perform Storage.meets .none (do
        let slotA ← readAndClassify .A
        let slotB ← readAndClassify .B
        return initial.selectSlots slotA slotB) faults.tail st =
      (initial.selectSlots (st.answered faults .A) (st.answered faults .B), st) := by
  unfold readAndClassify
  simp only [Prog.bind_assoc', Prog.pure_bind']
  rw [perform_readSlot, perform_readSlot]
  rfl

/-- No answer to the read of the marker makes up a pending reset. -/
theorem meets_readResetMarker_pending (hst : st.marker ≠ .pending) {fault : Fault} {reply : MarkerReply}
    (h : (Storage.meets fault .readResetMarker st).1 = reply) (hok : reply.result = .ok) : reply.pending = false := by
  have hworks : markerReply st.marker = reply → reply.pending = false := by
    rintro rfl
    cases hm : st.marker with
    | pending => exact absurd hm hst
    | _ => rfl
  cases fault with
  | none => exact hworks h
  | write result left => exact hworks h
  | read result bytes pending =>
    change (if result = .ok then markerReply st.marker else ⟨result, pending⟩) = reply at h
    split at h
    · exact hworks h
    · subst h
      exact absurd hok ‹_›

/-- **A load while no reset is pending**: it changes nothing, and it fails or selects between what it takes for the two
records. -/
theorem perform_load (hst : st.marker ≠ .pending) (faults : List Fault) :
    (perform Storage.meets .none load faults st).2 = st ∧
      ((perform Storage.meets .none load faults st).1.2.failed = true ∨
        (perform Storage.meets .none load faults st).1 =
          initial.selectSlots (st.answered faults .A) (st.answered faults .B)) := by
  have hslots := perform_readSlots st faults
  unfold load recoverPendingReset
  simp only [Prog.bind_assoc']
  rw [perform_readResetMarker]
  generalize hreply : (Storage.meets (faults.headD .none) .readResetMarker st).1 = reply
  have hclear := meets_readResetMarker_pending hst hreply
  clear hreply
  obtain ⟨result, pending⟩ := reply
  cases result with
  | ok =>
    obtain rfl : pending = false := hclear rfl
    exact ⟨congrArg Prod.snd hslots, Or.inr (congrArg Prod.fst hslots)⟩
  | missing => exact ⟨congrArg Prod.snd hslots, Or.inr (congrArg Prod.fst hslots)⟩
  | malformed => exact ⟨rfl, Or.inl rfl⟩
  | unavailable => exact ⟨rfl, Or.inl rfl⟩
  | error => exact ⟨rfl, Or.inl rfl⟩

/-- What a run keeps: no reset is pending, the slot has its bytes, and a manager that is informed of it has noted it. -/
structure Preserving (slot : RecordSlot) (bytes : Bytes) (r : SettingsRun) : Prop where
  marker : r.storage.marker ≠ .pending
  kept : r.storage.slots slot = some bytes
  noted : r.informed slot = true → r.manager.isUnsupportedSlot slot = true

/-- A save of a manager that has noted the slot leaves it alone. -/
theorem SaveCut.kept {m : SettingsManager} {candidate : Settings} {st' : Storage} (h : SaveCut m candidate st st')
    (hnoted : m.isUnsupportedSlot slot = true) : st'.slots slot = st.slots slot ∧ st'.marker = st.marker := by
  rcases h with rfl | ⟨encoded, content, hw, -, rfl⟩
  · exact ⟨rfl, rfl⟩
  · have hne : slot ≠ m.target := by
      rintro rfl
      rw [hw.supported] at hnoted
      cases hnoted
    exact ⟨Function.update_of_ne hne _ _, rfl⟩

theorem SaveEnds.noted {m : SettingsManager} {candidate : Settings} {r : SettingsManager × SaveStatus} {st' : Storage}
    (h : SaveEnds m candidate st r st') : r.1.isUnsupportedSlot slot = m.isUnsupportedSlot slot := by
  cases h with
  | refused _ => rfl
  | failed _ _ _ => rfl
  | saved _ _ => cases slot <;> rfl

end Step

section Run

variable {slot : RecordSlot} {bytes : Bytes} {r : SettingsRun}

theorem Preserving.step (h : Preserving slot bytes r) (hun : decodeRecord bytes = .error .unsupportedSchema)
    {a : SettingsAction} (hguard : ∀ candidate, a.call = .save candidate → r.informed slot = true) :
    Preserving slot bytes (r.step a) := by
  obtain ⟨call, faults, stop⟩ := a
  cases call with
  | load =>
    cases stop with
    | none =>
      obtain ⟨hst, hresult⟩ := perform_load h.marker faults
      unfold SettingsRun.step
      revert hst hresult
      generalize perform Storage.meets .none load faults r.storage = loaded
      obtain ⟨⟨m, status⟩, st'⟩ := loaded
      intro hst hresult
      dsimp only at hst hresult ⊢
      rw [hst]
      refine ⟨h.marker, h.kept, fun hinf => ?_⟩
      obtain ⟨hthrough, hread⟩ : status.failed = false ∧ (slotFault faults slot).misreports = false := by
        simpa [SettingsRun.informed] using hinf
      have hselected : (m, status) =
          initial.selectSlots (r.storage.answered faults .A) (r.storage.answered faults .B) :=
        hresult.resolve_left fun hfailed => by
          rw [hthrough] at hfailed
          cases hfailed
      -- a selection that does not fail has two records to select between
      have havailable : ∀ slot', (r.storage.answered faults slot').kind ≠ .unavailable := by
        intro slot' hno
        rw [selectSlots_unavailable (by cases slot' <;> simp [hno])] at hselected
        cases hselected
        cases hthrough
      have hm : m = (initial.selectSlots (r.storage.answered faults .A) (r.storage.answered faults .B)).1 :=
        congrArg Prod.fst hselected
      rw [hm]
      refine selectSlots_notes initial havailable ?_
      rw [(Storage.answered_of_truthful hread).resolve_right (havailable slot), Storage.record, h.kept]
      exact kind_of_unsupported hun
    | some n =>
      have hload : Ensures (fun _ => True) r.storage load (Loaded (fun _ => True) r.storage)
          (Resumed (Finds fun _ => True) r.storage) := ensures_load r.storage
      have hst : (interrupt Storage.meets .none load faults n r.storage).2 = r.storage :=
        (always_interrupt hload faults (fun _ _ => trivial) n fun _ _ hl => hl.resumed).eq h.marker
      refine ⟨?_, ?_, fun hinf => (by cases hinf)⟩
      · change (interrupt Storage.meets .none load faults n r.storage).2.marker ≠ _
        rw [hst]
        exact h.marker
      · change (interrupt Storage.meets .none load faults n r.storage).2.slots slot = _
        rw [hst]
        exact h.kept
  | save candidate =>
    have hinf := hguard candidate rfl
    have hnoted := h.noted hinf
    have hsave : Ensures (fun _ => True) r.storage (r.manager.save candidate) (SaveEnds r.manager candidate r.storage)
        (SaveCut r.manager candidate r.storage) := ensures_save r.storage r.manager candidate
    cases stop with
    | none =>
      have hends := always_perform hsave faults fun _ _ => trivial
      obtain ⟨hslot, hmarker⟩ := hends.cut.kept hnoted
      refine ⟨?_, ?_, fun _ => ?_⟩
      · exact fun hc => h.marker (hmarker.symm.trans hc)
      · exact hslot.trans h.kept
      · exact hends.noted.trans hnoted
    | some n =>
      have hcut := always_interrupt hsave faults (fun _ _ => trivial) n fun _ _ he => he.cut
      obtain ⟨hslot, hmarker⟩ := hcut.kept hnoted
      exact ⟨fun hc => h.marker (hmarker.symm.trans hc), hslot.trans h.kept, fun hc => (by cases hc)⟩

theorem Preserving.run (h : Preserving slot bytes r) (hun : decodeRecord bytes = .error .unsupportedSchema)
    {actions : List SettingsAction} (hguard : Guarded slot r actions) :
    Preserving slot bytes (actions.foldl SettingsRun.step r) := by
  induction actions generalizing r with
  | nil => exact h
  | cons a rest ih => exact ih (h.step hun hguard.1) hguard.2

/-- **A record of another schema stays**, in every run whose saves follow a load that has got through, and to which the
record has not been misreported. -/
theorem unsupported_preserved (m : SettingsManager) {st : Storage} (hmarker : st.marker ≠ .pending)
    (hslot : st.slots slot = some bytes) (hun : decodeRecord bytes = .error .unsupportedSchema)
    (actions : List SettingsAction) (hguard : Guarded slot ⟨m, st, none⟩ actions) :
    (settingsRun m st actions).storage.slots slot = some bytes := by
  have hstart : Preserving slot bytes ⟨m, st, none⟩ := ⟨hmarker, hslot, fun hc => (by cases hc)⟩
  exact (hstart.run hun hguard).kept

/-- A record of schema 2. -/
def newerBytes : Bytes :=
  let head := [0x52, 0x4C, 0x43, 0x46] ++ writeUint16Le 2 ++ writeUint16Le 24 ++ writeUint32Le 20 ++
    [60, 0, 207, 0, 3, 0, 0, 0]
  head ++ writeUint32Le (crc32IsoHdlc head)

/-- Slot A has a record of schema 2, and slot B one of schema 1. -/
def newerStorage : Storage where
  slots
    | .A => some newerBytes
    | .B => (encodeRecord (withTimeout 120) 19).toOption
  marker := .missing

theorem unsupported_preserved_newer :
    decodeRecord newerBytes = .error .unsupportedSchema ∧
      (settingsRun initial newerStorage [⟨.load, [], none⟩, ⟨.save (withTimeout 300), [], none⟩]).storage.slots .A =
        some newerBytes := by
  refine ⟨by decide +kernel, unsupported_preserved initial Marker.noConfusion rfl (by decide +kernel) _ ?_⟩
  refine ⟨fun candidate hc => (by cases hc), fun candidate _ => (by decide +kernel), trivial⟩

/-- A load whose last read fails, and a save: the record of schema 2 is gone. -/
theorem failed_load_overwrites :
    decodeRecord newerBytes = .error .unsupportedSchema ∧ newerStorage.slots .A = some newerBytes ∧
      newerStorage.marker ≠ .pending ∧
      let run := settingsRun initial newerStorage
        [⟨.load, [.none, .none, .read .unavailable [] false], none⟩, ⟨.save (withTimeout 300), [], none⟩]
      run.lastLoad.map Prod.fst = some .storageUnavailable ∧ run.storage.slots .A ≠ some newerBytes :=
  ⟨by decide +kernel, rfl, Marker.noConfusion, by decide +kernel, by decide +kernel⟩

end Run

end Redline.DeviceSettings
