import Redline.DeviceSettings.Reset
import Redline.DeviceSettings.Shown

/-!
# What a device starts with

A device has started and has found its settings in a slot.  From then on, whatever is edited, saved and reset, whatever
fails and whenever power is lost, the next start that works finds settings of the list that the `outlook` of its turns
names: those that were in force when a save or a reset last succeeded, and those of the requests that have been served
since.  A start or a factory reset to which something stored is reported missing or malformed has no outlook: the one
takes an older record for the newest, and the other leaves a slot that it takes for removed.
-/

namespace Redline.DeviceSettings

open Redline.Wire Redline.Records Redline.Lib Redline.Input Redline.DeviceUi SettingsManager

/-! ### The outlook -/

/-- The settings that the next start may find, and whether a factory reset has been served without success. -/
structure Outlook where
  known : List Settings
  reset : Bool
  deriving DecidableEq

/-- What is served when there is something due. -/
def SettingsRam.candidate (s : SettingsRam) : Settings :=
  if s.persistenceRequests.pending = .save then s.persistenceRequests.saveDraft else s.currentSettings

/-- A request of the RAM has been served, with the RAM after it if power has not been lost. -/
def Outlook.serve (o : Outlook) (s : SettingsRam) (after : Option SettingsRam) : Outlook :=
  let status := after.map fun s' => s'.configurationState.status
  if s.persistenceRequests.pending = .factoryReset then
    if status = some .resetCompleted then ⟨[defaults], false⟩ else ⟨o.known ++ [defaults], true⟩
  else if status = some .saved ∧ o.reset = false then ⟨[s.candidate], false⟩
  else ⟨o.known ++ [s.candidate], o.reset⟩

/-- The outlook after one more turn.  A start has one if it has found its settings in a slot; a start and a factory
reset have none if a look-up has been misreported to them. -/
def DeviceTurn.outlook (o : Option Outlook) (t : DeviceTurn) : Option Outlook :=
  match t.action with
  | .boot _ faults _ =>
    if faults.any Fault.misreports then none
    else
      match t.after.ram with
      | some s => if s.configurationState.generationAvailable then some ⟨[s.currentSettings], false⟩ else none
      | none => o
  | .persistence true _ faults _ =>
    match t.before.ram with
    | some s =>
      if s.persistenceRequests.pending = .none then o
      else if s.persistenceRequests.pending = .factoryReset ∧ faults.any Fault.misreports then none
      else o.map fun o => o.serve s t.after.ram
    | none => o
  | _ => o

/-- The outlook of the turns. -/
def outlook (turns : List DeviceTurn) : Option Outlook := turns.foldl DeviceTurn.outlook none

/-! ### What the storage has to hold -/

section Storage

variable {m : SettingsManager} {st st' : Storage} {known : List Settings} {candidate : Settings}

/-- After a reset that has not succeeded: it is pending, or each slot has known settings. -/
def Loose (st : Storage) (known : List Settings) : Prop :=
  defaults ∈ known ∧ (st.marker = .pending ∨
    st.Calm ∧ ∀ slot, isUsable (st.record slot) = true → (st.record slot).settings ∈ known)

theorem Loose.mono (h : Loose st known) {known' : List Settings} (hk : ∀ s ∈ known, s ∈ known') : Loose st known' := by
  refine ⟨hk _ h.1, ?_⟩
  rcases h.2 with hpending | ⟨hcalm, hslots⟩
  · exact Or.inl hpending
  · exact Or.inr ⟨hcalm, fun slot hslot => hk _ (hslots slot hslot)⟩

theorem record_resetStorage : resetStorage.record .A = ⟨.valid, defaults, 1, defaultBytes⟩ :=
  classify_encoded encodeRecord_defaults

theorem loose_of_resetting (h : Resetting st) (hdefaults : defaults ∈ known) : Loose st known := by
  refine ⟨hdefaults, ?_⟩
  rcases h with hpending | rfl
  · exact Or.inl hpending
  · refine Or.inr ⟨Or.inl rfl, fun slot hslot => ?_⟩
    cases slot with
    | A =>
      rw [record_resetStorage]
      exact hdefaults
    | B => cases hslot

/-- A save leaves its candidate, what was there, or nothing that can be used. -/
theorem Loose.cut (h : Loose st known) (hvalid : isValid candidate = true) (hcut : SaveCut m candidate st st') :
    Loose st' (known ++ [candidate]) := by
  have hmono := h.mono fun s hs => List.mem_append_left [candidate] hs
  rcases hcut with rfl | ⟨encoded, content, hw, hleft, rfl⟩
  · exact hmono
  refine ⟨hmono.1, ?_⟩
  rcases hmono.2 with hpending | ⟨hcalm, hslots⟩
  · exact Or.inl hpending
  refine Or.inr ⟨hcalm.setSlot _ _, fun slot hslot => ?_⟩
  by_cases hslot' : slot = m.target
  · subst hslot'
    rw [record_setSlot] at hslot ⊢
    rcases hleft with rfl | rfl | rfl | ⟨bytes, rfl, hbad⟩
    · exact hslots m.target hslot
    · rw [classify_encoded hw.encodes, canonical_of_valid hvalid]
      exact List.mem_append_right _ List.mem_cons_self
    · cases hslot
    · rw [not_usable_of_undecodable hbad] at hslot
      cases hslot
  · rw [record_setSlot_of_ne _ hslot'] at hslot ⊢
    exact hslots slot hslot

theorem Loose.loads (h : Loose st known) : st.loads.1.settings ∈ known := by
  rcases h.2 with hpending | ⟨hcalm, hslots⟩
  · rw [(settle_load_resetting (Or.inl hpending)).1]
    exact h.1
  · have hbytes : isUsable (st.record .A) = true → isUsable (st.record .B) = true →
        (st.record .A).bytes = (st.record .B).bytes → st.record .A = st.record .B :=
      fun hA hB heq => record_eq_of_bytes hA hB heq
    rw [loads_of_calm hcalm]
    rcases selectSlots_cases initial (st.record .A) (st.record .B) hbytes with
      hnoted | ⟨hwins, m', fallback, heq⟩ | ⟨hwins, m', fallback, heq⟩
    · rw [hnoted.settings]
      exact h.1
    · rw [heq, (applySelected_selected m' _ .A fallback).1.settings]
      exact hslots .A hwins.1
    · rw [heq, (applySelected_selected m' _ .B fallback).1.settings]
      exact hslots .B hwins.1

/-- A reset result is noted by the manager. -/
theorem Holding.noted (h : Holding m st known) (result : ResetResult) :
    Holding { m with lastResetResult := result } st known :=
  ⟨h.calm, h.usable, ⟨h.selected.active, h.selected.settings, h.selected.generation⟩, h.member, h.rival⟩

theorem holding_reset (m : SettingsManager) (result : ResetResult) :
    Holding { m.afterReset with lastResetResult := result } resetStorage [defaults] := by
  apply Holding.noted
  refine Authoritative.holding (m := m.afterReset) ⟨?_, ?_⟩ (Or.inl rfl)
  · change Wins (resetStorage.record .A) (resetStorage.record .B)
    rw [record_resetStorage]
    exact ⟨rfl, Or.inl rfl⟩
  · change Selected _ (resetStorage.record .A)
    rw [record_resetStorage]
    exact ⟨rfl, rfl, rfl⟩

end Storage

/-! ### What the calls leave -/

section Calls

variable {allowed : Fault → Prop} {s : SettingsRam} {st : Storage}

theorem ensures_start (htruthful : Truthful allowed) (st : Storage) (nowMs : UInt32) :
    Ensures allowed st (SettingsRam.initial.loadSettings nowMs)
      (fun s st' => s.settingsManager.hasActiveSlot = true →
        Holding s.settingsManager st' [s.settingsManager.settings])
      (Resumed (Finds allowed) st) := by
  refine always_bind (always_mono (fun r st' hr => ?_) (fun _ h => h) (ensures_load st))
  apply always_pure.2
  split
  · intro hactive
    exact hr.holding htruthful hactive
  · intro hactive
    exact hr.holding htruthful hactive

/-- How a reset that is served leaves manager and store. -/
theorem ensures_serve_reset_stored (hfinds : Finds allowed) (st : Storage)
    (hpending : s.persistenceRequests.pending = .factoryReset) (nowMs : UInt32) :
    Ensures allowed st (s.servicePersistence true nowMs)
      (fun s' st' =>
        (s'.configurationState.status = .resetCompleted ∧
          s'.settingsManager = { s.settingsManager.afterReset with lastResetResult := .resetCompleted } ∧
            st' = resetStorage) ∨
          (s'.configurationState.status ≠ .resetCompleted ∧
            (∃ result, s'.settingsManager = { s.settingsManager with lastResetResult := result }) ∧
              (st' = st ∨ Resetting st')))
      (fun st' => st' = st ∨ Resetting st') := by
  have hleft : ∀ st', (st' = st ∨ (Finds allowed → Resetting st')) → st' = st ∨ Resetting st' :=
    fun st' h => h.imp_right fun hr => hr hfinds
  unfold SettingsRam.servicePersistence
  rw [if_neg (by simp [hpending]), if_pos hpending]
  refine always_bind (always_mono (fun r st' hr => ?_) hleft (ensures_factoryReset st s.settingsManager))
  apply always_pure.2
  cases hr with
  | completed hdone _ => exact Or.inl ⟨rfl, rfl, hdone hfinds⟩
  | @failed result _ hresult hst =>
    dsimp only
    rw [if_neg hresult]
    refine Or.inr ⟨?_, ⟨result, rfl⟩, hleft _ hst⟩
    change (fromReset _ _).status ≠ _
    simp [fromReset, hresult]

/-- How a save that is served leaves manager and store. -/
theorem ensures_serve_save_stored (st : Storage) (hpending : s.persistenceRequests.pending ≠ .none)
    (hreset : s.persistenceRequests.pending ≠ .factoryReset) (nowMs : UInt32) :
    Ensures allowed st (s.servicePersistence true nowMs)
      (fun s' st' =>
        (s'.configurationState.status = .saved ∧ s'.settingsManager = s.settingsManager.afterSave s.candidate ∧
          ∃ encoded, Writes s.settingsManager s.candidate encoded ∧
            st' = st.setSlot s.settingsManager.target (some encoded)) ∨
          (s'.configurationState.status ≠ .saved ∧ s'.settingsManager = s.settingsManager ∧
            SaveCut s.settingsManager s.candidate st st'))
      (SaveCut s.settingsManager s.candidate st) := by
  unfold SettingsRam.servicePersistence
  rw [if_neg (by simp [hpending]), if_neg hreset]
  refine always_bind (always_mono (fun r st' hr => ?_) (fun _ h => h)
    (ensures_save st s.settingsManager s.candidate))
  apply always_pure.2
  have hfailed : ∀ {m : SettingsManager} {result : SaveStatus}, saveSucceeded result = false →
      (fromSave result m).status ≠ .saved := by
    intro m result hno
    rcases status_of_failed m hno with ⟨-, h⟩ | h | h <;> rw [h] <;> simp
  have hcut := hr.cut
  cases hr with
  | refused hno =>
    dsimp only
    rw [hno]
    exact Or.inr ⟨hfailed hno, rfl, hcut⟩
  | failed _ _ hno =>
    dsimp only
    rw [hno]
    exact Or.inr ⟨hfailed hno, rfl, hcut⟩
  | saved hw hyes =>
    dsimp only
    rw [hyes]
    exact Or.inl ⟨status_of_succeeded _ hyes, rfl, _, hw, rfl⟩

end Calls

/-! ### Runs -/

section Runs

variable {past turns rest : List DeviceTurn} {t : DeviceTurn} {o : Outlook} {d : SettingsDevice}

/-- **The outlook stands**: the manager has the record of its slot and the other slot a rival of it, or a reset has not
succeeded and each slot has known settings. -/
def Stands (o : Outlook) (d : SettingsDevice) : Prop :=
  (∃ m, Holding m d.storage o.known ∧ ∀ s, d.ram = some s → s.settingsManager = m) ∨
    o.reset = true ∧ Loose d.storage o.known

/-- What an outlook says of the next start that works. -/
theorem Stands.loads (h : Stands o d) : d.storage.loads.1.settings ∈ o.known ∧
    (o.reset = false → d.storage.loads.1.hasActiveSlot = true) := by
  rcases h with ⟨m, hholding, -⟩ | ⟨hreset, hloose⟩
  · obtain ⟨hactive, hmem⟩ := hholding.loadsFrom
    exact ⟨hmem, fun _ => hactive⟩
  · refine ⟨hloose.loads, fun hno => ?_⟩
    rw [hreset] at hno
    cases hno

/-- The RAM changes, and its manager does not. -/
theorem Stands.ram (h : Stands o d) {d' : SettingsDevice} (hstorage : d'.storage = d.storage)
    (hram : ∀ s', d'.ram = some s' → ∃ s, d.ram = some s ∧ s'.settingsManager = s.settingsManager) : Stands o d' := by
  rcases h with ⟨m, hholding, hmanager⟩ | ⟨hreset, hloose⟩
  · refine Or.inl ⟨m, hstorage ▸ hholding, fun s' hs' => ?_⟩
    obtain ⟨s, hs, hsame⟩ := hram s' hs'
    rw [hsame]
    exact hmanager s hs
  · exact Or.inr ⟨hreset, hstorage ▸ hloose⟩

/-- A start in which power is lost. -/
theorem Stands.startCut (h : Stands o d) {finds : Prop} (hfinds : finds) {st' : Storage}
    (hst : Resumed finds d.storage st') : Stands o ⟨none, st'⟩ := by
  rcases h with ⟨m, hholding, -⟩ | ⟨hreset, hloose⟩
  · have hcalm : d.storage.marker ≠ .pending := by
      rcases hholding.calm with hc | hc <;> rw [hc] <;> simp
    obtain rfl := hst.eq hcalm
    exact Or.inl ⟨m, hholding, fun s hs => by cases hs⟩
  · rcases hst with rfl | ⟨-, hresetting⟩
    · exact Or.inr ⟨hreset, hloose⟩
    · exact Or.inr ⟨hreset, loose_of_resetting (hresetting hfinds) hloose.1⟩

/-- A save that is served without success, or in which power is lost. -/
theorem Stands.saveCut (h : Stands o d) {s : SettingsRam} (hs : d.ram = some s) (hvalid : isValid s.candidate = true)
    {d' : SettingsDevice} (hst : SaveCut s.settingsManager s.candidate d.storage d'.storage)
    (hram : ∀ s', d'.ram = some s' → s'.settingsManager = s.settingsManager) :
    Stands ⟨o.known ++ [s.candidate], o.reset⟩ d' := by
  rcases h with ⟨m, hholding, hmanager⟩ | ⟨hreset, hloose⟩
  · obtain rfl := hmanager s hs
    exact Or.inl ⟨_, hholding.cut hvalid hst, hram⟩
  · exact Or.inr ⟨hreset, hloose.cut hvalid hst⟩

/-- A save that is served with success. -/
theorem Stands.saved (h : Stands o d) {s : SettingsRam} (hs : d.ram = some s) (hvalid : isValid s.candidate = true)
    {encoded : Bytes} (hw : Writes s.settingsManager s.candidate encoded) {d' : SettingsDevice}
    (hst : d'.storage = d.storage.setSlot s.settingsManager.target (some encoded))
    (hram : ∀ s', d'.ram = some s' → s'.settingsManager = s.settingsManager.afterSave s.candidate) :
    Stands (if o.reset = false then ⟨[s.candidate], false⟩ else ⟨o.known ++ [s.candidate], o.reset⟩) d' := by
  have hcut : SaveCut s.settingsManager s.candidate d.storage d'.storage :=
    Or.inr ⟨encoded, some encoded, hw, Or.inr (Or.inl rfl), hst⟩
  rcases h with ⟨m, hholding, hmanager⟩ | ⟨hreset, hloose⟩
  · obtain rfl := hmanager s hs
    have hsaved := hholding.saved hvalid hw
    rw [← hst] at hsaved
    split
    · exact Or.inl ⟨_, hsaved, hram⟩
    · exact Or.inl ⟨_, hsaved.mono fun x hx => List.mem_append_right _ hx, hram⟩
  · rw [if_neg (by simp [hreset])]
    exact Or.inr ⟨hreset, hloose.cut hvalid hcut⟩

/-- A factory reset that is served without success, or in which power is lost. -/
theorem Stands.resetCut (h : Stands o d) {s : SettingsRam} (hs : d.ram = some s) {d' : SettingsDevice}
    (hst : d'.storage = d.storage ∨ Resetting d'.storage)
    (hram : ∀ s', d'.ram = some s' → ∃ result, s'.settingsManager = { s.settingsManager with lastResetResult := result }) :
    Stands ⟨o.known ++ [defaults], true⟩ d' := by
  have hdefaults : defaults ∈ o.known ++ [defaults] := List.mem_append_right _ List.mem_cons_self
  rcases hst with hsame | hresetting
  · rcases h with ⟨m, hholding, hmanager⟩ | ⟨-, hloose⟩
    · obtain rfl := hmanager s hs
      have hmono := hholding.mono fun x hx => List.mem_append_left [defaults] hx
      cases hram' : d'.ram with
      | none => exact Or.inl ⟨_, hsame ▸ hmono, fun s' hs' => by rw [hram'] at hs'; cases hs'⟩
      | some s' =>
        obtain ⟨result, hmanager'⟩ := hram s' hram'
        refine Or.inl ⟨_, hsame ▸ hmono.noted result, fun s'' hs'' => ?_⟩
        rw [hram'] at hs''
        cases hs''
        exact hmanager'
    · exact Or.inr ⟨rfl, hsame ▸ hloose.mono fun x hx => List.mem_append_left [defaults] hx⟩
  · exact Or.inr ⟨rfl, loose_of_resetting hresetting hdefaults⟩

theorem outlook_concat (past : List DeviceTurn) (t : DeviceTurn) : outlook (past ++ [t]) = t.outlook (outlook past) := by
  rw [outlook, List.foldl_append]
  rfl

theorem stands_boot {nowMs : UInt32} {faults : List Fault} {stop : Option ℕ} (hsteps : device.Steps t)
    (hshown : ∀ s, t.after.ram = some s → s.Shown) (haction : t.action = .boot nowMs faults stop)
    (h : ∀ o, outlook past = some o → Stands o t.before) :
    ∀ o, outlook (past ++ [t]) = some o → Stands o t.after := by
  have hafter : t.after = t.before.onStore (SettingsRam.initial.loadSettings nowMs) faults stop := by
    have hstep : t.after = t.before.step t.action := hsteps
    rw [hstep, haction]
    rfl
  intro o ho
  rw [outlook_concat] at ho
  simp only [DeviceTurn.outlook, haction] at ho
  split at ho
  · cases ho
  rename_i hreports
  have hfaults : ∀ f ∈ faults, f.misreports = false := by simpa using hreports
  have htruthful : Truthful fun f => f.misreports = false := fun _ hf => hf
  have hends := execute_of_ensures (ensures_start htruthful t.before.storage nowMs) faults stop hfaults
  split at hends
  · rename_i s st' hrun
    have hdevice : t.after = ⟨some s, st'⟩ := by rw [hafter, SettingsDevice.onStore, hrun]
    have hs := hshown s (by rw [hdevice])
    rw [hdevice] at ho
    dsimp only at ho
    split at ho
    · rename_i havailable
      cases ho
      have hactive : s.settingsManager.hasActiveSlot = true := by
        rw [hs.configuration] at havailable
        exact havailable
      rw [hdevice, hs.manager]
      refine Or.inl ⟨s.settingsManager, hends hactive, fun s' hs' => ?_⟩
      cases hs'
      rfl
    · cases ho
  · rename_i st' hrun
    have hdevice : t.after = ⟨none, st'⟩ := by rw [hafter, SettingsDevice.onStore, hrun]
    rw [hdevice] at ho ⊢
    exact (h o ho).startCut htruthful.finds hends

theorem candidate_valid {s : SettingsRam} (h : s.Shown) : isValid s.candidate = true := by
  unfold SettingsRam.candidate
  split
  · exact h.saveDraft
  · exact h.valid

/-- **A request is served.** -/
theorem Stands.serve (h : Stands o d) {s : SettingsRam} (hs : d.ram = some s) (hshown : s.Shown)
    (hpending : s.persistenceRequests.pending ≠ .none) (nowMs : UInt32) {faults : List Fault}
    (hfaults : s.persistenceRequests.pending = .factoryReset → ∀ f ∈ faults, f.misreports = false) (stop : Option ℕ) :
    Stands (o.serve s (d.onStore (s.servicePersistence true nowMs) faults stop).ram)
      (d.onStore (s.servicePersistence true nowMs) faults stop) := by
  have hvalid := candidate_valid hshown
  unfold SettingsDevice.onStore Outlook.serve
  by_cases hreset : s.persistenceRequests.pending = .factoryReset
  · have htruthful : Truthful fun f => f.misreports = false := fun _ hf => hf
    have hends := execute_of_ensures (ensures_serve_reset_stored htruthful.finds d.storage hreset nowMs) faults stop
      (hfaults hreset)
    rw [if_pos hreset]
    split at hends
    · rename_i s' st' hrun
      rw [hrun]
      simp only [Option.map_some]
      rcases hends with ⟨hstatus, hmanager, rfl⟩ | ⟨hstatus, hmanager, hst⟩
      · rw [if_pos (by rw [hstatus])]
        refine Or.inl ⟨_, holding_reset s.settingsManager .resetCompleted, fun s'' hs'' => ?_⟩
        cases hs''
        exact hmanager
      · rw [if_neg (by simpa using hstatus)]
        apply h.resetCut hs hst
        intro s'' hs''
        cases hs''
        exact hmanager
    · rename_i st' hrun
      rw [hrun]
      simp only [Option.map_none]
      rw [if_neg (by simp)]
      apply h.resetCut hs hends
      intro s'' hs''
      cases hs''
  · have hends := execute_of_ensures (ensures_serve_save_stored d.storage hpending hreset nowMs) faults stop
      fun _ _ => trivial
    rw [if_neg hreset]
    split at hends
    · rename_i s' st' hrun
      rw [hrun]
      simp only [Option.map_some]
      rcases hends with ⟨hstatus, hmanager, encoded, hw, rfl⟩ | ⟨hstatus, hmanager, hst⟩
      · have hsaved : Stands (if o.reset = false then ⟨[s.candidate], false⟩ else ⟨o.known ++ [s.candidate], o.reset⟩)
            ⟨some s', d.storage.setSlot s.settingsManager.target (some encoded)⟩ := by
          apply h.saved hs hvalid hw rfl
          intro s'' hs''
          cases hs''
          exact hmanager
        simpa [hstatus] using hsaved
      · rw [if_neg (by simp [hstatus])]
        apply h.saveCut hs hvalid hst
        intro s'' hs''
        cases hs''
        exact hmanager
    · rename_i st' hrun
      rw [hrun]
      simp only [Option.map_none]
      rw [if_neg (by simp)]
      apply h.saveCut hs hvalid hends
      intro s'' hs''
      cases hs''

theorem stands_persistence {safe : Bool} {nowMs : UInt32} {faults : List Fault} {stop : Option ℕ}
    (hsteps : device.Steps t) (hstep : t.before.InStep past) (haction : t.action = .persistence safe nowMs faults stop)
    (h : ∀ o, outlook past = some o → Stands o t.before) :
    ∀ o, outlook (past ++ [t]) = some o → Stands o t.after := by
  have hafter : t.after = t.before.step (.persistence safe nowMs faults stop) := haction ▸ hsteps
  intro o ho
  rw [outlook_concat] at ho
  cases hram : t.before.ram with
  | none =>
    have hsame : t.after = t.before := by rw [hafter, SettingsDevice.step, hram]
    rw [hsame]
    apply h
    cases safe <;> simpa only [DeviceTurn.outlook, haction, hram] using ho
  | some s =>
    have hstore : t.after = t.before.onStore (s.servicePersistence safe nowMs) faults stop := by
      rw [hafter, SettingsDevice.step, hram]
    by_cases hidle : s.persistenceRequests.pending = .none ∨ safe = false
    · have hsame : t.after = t.before := by
        rw [hstore, servicePersistence_idle nowMs hidle, SettingsDevice.onStore, executeStore_pure, ← hram]
      rw [hsame]
      apply h
      rcases hidle with hnone | rfl
      · cases safe <;> simpa only [DeviceTurn.outlook, haction, hram, hnone, if_true] using ho
      · simpa only [DeviceTurn.outlook, haction] using ho
    · rw [not_or, Bool.not_eq_false] at hidle
      obtain ⟨hpending, rfl⟩ := hidle
      simp only [DeviceTurn.outlook, haction, hram, if_neg hpending] at ho
      split at ho
      · cases ho
      rename_i hreports
      have hfaults : s.persistenceRequests.pending = .factoryReset → ∀ f ∈ faults, f.misreports = false := by
        intro hreset
        simpa [hreset] using hreports
      obtain ⟨o', ho', rfl⟩ := Option.map_eq_some_iff.1 ho
      rw [hstore]
      exact (h o' ho').serve hram (hstep s hram).1 hpending nowMs hfaults stop

/-- **One turn.** -/
theorem stands_step (hsteps : device.Steps t) (hstep : t.before.InStep past)
    (h : ∀ o, outlook past = some o → Stands o t.before) :
    ∀ o, outlook (past ++ [t]) = some o → Stands o t.after := by
  have hafter : t.after = t.before.step t.action := hsteps
  have hram : ∀ f : SettingsRam → SettingsRam, (∀ s, (f s).settingsManager = s.settingsManager) →
      t.after = { t.before with ram := t.before.ram.map f } → t.outlook (outlook past) = outlook past →
      ∀ o, outlook (past ++ [t]) = some o → Stands o t.after := by
    intro f hf hsame hkept o ho
    rw [outlook_concat, hkept] at ho
    rw [hsame]
    refine Stands.ram (h o ho) rfl fun s' hs' => ?_
    obtain ⟨s, hs, rfl⟩ := Option.map_eq_some_iff.1 hs'
    exact ⟨s, hs, hf s⟩
  cases haction : t.action with
  | boot nowMs faults stop =>
    exact stands_boot hsteps (fun s hs => ((shows_of_steps hsteps hstep).shown s hs).1) haction h
  | persistence safe nowMs faults stop => exact stands_persistence hsteps hstep haction h
  | powerLoss =>
    intro o ho
    rw [outlook_concat] at ho
    simp only [DeviceTurn.outlook, haction] at ho
    rw [hafter, haction]
    refine Stands.ram (h o ho) rfl fun s' hs' => ?_
    cases hs'
  | button first second nowMs =>
    apply hram (fun s => s.serviceButton first second nowMs)
    · intro s
      unfold SettingsRam.serviceButton SettingsRam.queueEditorAction
      dsimp only
      split <;> rfl
    · rw [hafter, haction]
      rfl
    · simp only [DeviceTurn.outlook, haction]
  | ui nowMs =>
    apply hram (fun s => s.serviceUi nowMs)
    · intro s
      unfold SettingsRam.serviceUi
      dsimp only
      split <;> rfl
    · rw [hafter, haction]
      rfl
    · simp only [DeviceTurn.outlook, haction]
  | changed =>
    apply hram SettingsRam.markPresentationChanged
    · intro s
      rfl
    · rw [hafter, haction]
      rfl
    · simp only [DeviceTurn.outlook, haction]

theorem stands_of_run {st : Storage} (hrun : device.IsRun ⟨none, st⟩ turns) :
    ∀ o, outlook turns = some o → Stands o (device.last ⟨none, st⟩ turns) := by
  have hboth : (device.last ⟨none, st⟩ turns).InStep turns ∧
      ∀ o, outlook turns = some o → Stands o (device.last ⟨none, st⟩ turns) := by
    apply hrun.history (I := fun past d => d.InStep past ∧ ∀ o, outlook past = some o → Stands o d)
    · refine ⟨fun s hs => ?_, fun o ho => ?_⟩
      · cases hs
      · cases ho
    · intro past t _ _ hsteps hI
      exact ⟨(shows_of_steps hsteps hI.1).shown, stands_step hsteps hI.1 hI.2⟩
  exact hboth.2

/-- A start that meets no failure. -/
theorem start_of_calm (d : SettingsDevice) (nowMs : UInt32) :
    ∃ s, (d.step (.boot nowMs [] none)).ram = some s ∧ s.currentSettings = d.storage.loads.1.settings ∧
      s.configurationState.generationAvailable = d.storage.loads.1.hasActiveSlot := by
  have hfrom : ∀ r : SettingsManager × LoadStatus, (fromLoad r.2 r.1).generationAvailable = r.1.hasActiveSlot := by
    intro r
    cases hr : r.2 <;> rfl
  refine ⟨_, rfl, ?_⟩
  rw [perform_nil]
  unfold SettingsRam.loadSettings
  rw [settle_bind]
  change (if _ then _ else _ : SettingsRam).currentSettings = _ ∧
    (if _ then _ else _ : SettingsRam).configurationState.generationAvailable = _
  split
  · exact ⟨rfl, hfrom _⟩
  · exact ⟨rfl, hfrom _⟩

/-- **What a device starts with.**  In every run from a device without power, whatever is stored, edited, saved and
reset, with every failure of the store and every loss of power: a start that meets no failure finds settings that the
outlook of the turns before it names.  As long as no factory reset has failed since, it finds them in a slot. -/
theorem restart_finds (st : Storage) (hrun : device.IsRun ⟨none, st⟩ turns) (hsplit : turns = past ++ t :: rest)
    {nowMs : UInt32} (haction : t.action = .boot nowMs [] none) (ho : outlook past = some o) :
    ∃ s, t.after.ram = some s ∧ s.currentSettings ∈ o.known ∧
      (o.reset = false → s.configurationState.generationAvailable = true) := by
  subst hsplit
  have hsteps : device.Steps t := hrun.steps (by simp)
  rw [System.isRun_append] at hrun
  obtain ⟨hpast, hbefore, -⟩ := hrun
  have hstands := stands_of_run hpast o ho
  rw [← (show t.before = device.last ⟨none, st⟩ past from hbefore)] at hstands
  have hafter : t.after = t.before.step (.boot nowMs [] none) := haction ▸ hsteps
  obtain ⟨s, hs, hcurrent, havailable⟩ := start_of_calm t.before nowMs
  rw [hafter]
  refine ⟨s, hs, ?_, fun hno => ?_⟩
  · rw [hcurrent]
    exact hstands.loads.1
  · rw [havailable]
    exact hstands.loads.2 hno

/-- A first save succeeds.  After a restart that falls back to older settings, since a look-up is misreported to it, and
another one, a save fails, which leaves its record all the same, and power is lost. -/
def twiceEdited : List DeviceAction :=
  editActions ++
    [.persistence true 6000 [] none, .powerLoss, .boot 6500 [.none, .read .missing [] false] none, .powerLoss,
      .boot 7000 [] none] ++ editActions.tail ++ [.persistence true 9000 [.write .error .new] none, .powerLoss]

theorem restart_finds_edited :
    let d := device.last blankDevice (blankDevice.play twiceEdited)
    ∃ s, (d.step (.boot 10000 [] none)).ram = some s ∧
      s.currentSettings ∈ [{ defaults with displayTimeoutSeconds := 60 }, { defaults with displayTimeoutSeconds := 120 }] ∧
      (false = false → s.configurationState.generationAvailable = true) :=
  restart_finds ⟨fun _ => none, .missing⟩ (isRun_play blankDevice (twiceEdited ++ [.boot 10000 [] none]))
    (show _ = blankDevice.play twiceEdited ++ _ :: [] from rfl) rfl
    (show outlook (blankDevice.play twiceEdited) = some ⟨_, false⟩ by decide +kernel)

end Runs

end Redline.DeviceSettings
