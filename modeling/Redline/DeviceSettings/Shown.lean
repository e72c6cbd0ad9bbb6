import Redline.DeviceSettings.Integration
import Redline.DeviceUi.Draft

/-!
# What a device shows of its settings

Over every run of a device: the settings in force, those of the manager and those of the display are one, they and
every draft are valid, the configuration that is shown is the manager's, and the request that waits follows from what
has been asked since requests were last served (`due`).  A save that is served puts the draft in force, or says that it
has not (`settings_shown`).
-/

namespace Redline.DeviceSettings

open Redline.Wire Redline.Records Redline.Lib Redline.Input Redline.DeviceUi SettingsManager

/-! ### What has been asked -/

/-- What the queue may be asked for. -/
inductive Ask
  | repair
  | save (draft : Settings)
  | reset
  deriving DecidableEq

def Ask.draft? : Ask → Option Settings
  | .save draft => some draft
  | _ => none

/-- The request that is due: a factory reset if one has been asked for, or else the save that has been asked for last,
or else a repair. -/
def due (asks : List Ask) : RequestQueue :=
  if .reset ∈ asks then { pending := .factoryReset }
  else
    match (asks.filterMap Ask.draft?).getLast? with
    | some draft => { pending := .save, saveDraft := draft }
    | none => if .repair ∈ asks then { pending := .automaticRepair } else {}

theorem due_save (asks : List Ask) (draft : Settings) : due (asks ++ [.save draft]) = (due asks).queueSave draft := by
  unfold due RequestQueue.queueSave
  by_cases hreset : .reset ∈ asks
  · simp [hreset]
  · have hpending : (due asks).pending ≠ .factoryReset := by
      unfold due
      rw [if_neg hreset]
      split
      · simp
      · split <;> simp
    unfold due at hpending
    rw [if_neg hpending]
    simp [hreset, Ask.draft?]

theorem due_reset (asks : List Ask) : due (asks ++ [.reset]) = (due asks).queueFactoryReset := by
  simp [due, RequestQueue.queueFactoryReset]

/-- What the action of the editor asks for. -/
def askOf (ui : Controller) : List Ask :=
  match ui.pendingEditorAction with
  | .saveSettingsRequest => [.save ui.draftSettings]
  | .factoryResetRequest => [.reset]
  | .none => []

/-- A turn of a device. -/
structure DeviceTurn where
  before : SettingsDevice
  action : DeviceAction
  after : SettingsDevice

def device : System SettingsDevice DeviceTurn where
  before := DeviceTurn.before
  after := DeviceTurn.after
  Steps t := t.after = t.before.step t.action

/-- What a turn asks for: a load that leaves a repair pending asks for it, and so does what the editor is left with. -/
def DeviceTurn.asked (t : DeviceTurn) : List Ask :=
  match t.action, t.before.ram, t.after.ram with
  | .boot _ _ _, _, some s => if s.settingsManager.repairPending then [.repair] else []
  | .button first second nowMs, some s, _ => askOf ((s.uiController.handle first nowMs).handle second nowMs)
  | _, _, _ => []

/-- What has been asked for and not been served. -/
def outstanding (turns : List DeviceTurn) : List Ask :=
  turns.foldl (fun asks t =>
    match t.action with
    | .boot _ _ _ => t.asked
    | .powerLoss => []
    | .persistence safe _ _ _ => if safe then [] else asks
    | _ => asks ++ t.asked) []

/-! ### The invariant -/

/-- The settings that a device shows are those in force. -/
structure SettingsRam.Shown (s : SettingsRam) : Prop where
  manager : s.currentSettings = s.settingsManager.settings
  display : s.uiController.currentSettings = s.currentSettings
  timeout : s.uiController.inactivityTimeoutMs = timeoutMs s.currentSettings
  valid : isValid s.currentSettings = true
  draft : isValid s.uiController.draftSettings = true
  saveDraft : isValid s.persistenceRequests.saveDraft = true
  configuration : s.configurationState = { snapshot s.settingsManager with status := s.configurationState.status }

/-- How a turn has served what was due. -/
structure Served (due : RequestQueue) (s s' : SettingsRam) : Prop where
  /-- A save: the draft is in force, or nothing has changed and the display says so. -/
  save : due.pending = .save →
    (s'.configurationState.status = .saved ∨ s'.configurationState.status = .unchanged) ∧
        s'.currentSettings = due.saveDraft ∨
      (s'.configurationState.status = .saveFailed ∨ s'.configurationState.status = .unsupported) ∧
        s'.currentSettings = s.currentSettings
  reset : due.pending = .factoryReset →
    s'.configurationState.status = .resetCompleted ∧ s'.currentSettings = defaults ∨
      s'.configurationState.status = .resetFailed ∧ s'.currentSettings = s.currentSettings
  repair : due.pending = .automaticRepair → s'.currentSettings = s.currentSettings
  cleared : s'.persistenceRequests = {}

/-- What may be said of a turn after the turns `past`. -/
structure DeviceTurn.Shows (past : List DeviceTurn) (t : DeviceTurn) : Prop where
  shown : ∀ s, t.after.ram = some s → s.Shown ∧ s.persistenceRequests = due (outstanding (past ++ [t]))
  served : ∀ s s' nowMs faults stop, t.action = .persistence true nowMs faults stop → t.before.ram = some s →
    t.after.ram = some s' → outstanding past ≠ [] → Served (due (outstanding past)) s s'
  stored : t.after.storage = t.before.storage ∨ (∃ nowMs faults stop, t.action = .boot nowMs faults stop) ∨
    ∃ nowMs faults stop, t.action = .persistence true nowMs faults stop ∧ outstanding past ≠ []

/-! ### Settings that are loaded are valid -/

theorem isValid_of_decode {bytes : Bytes} {settings : Settings} {generation : UInt32} {repaired : Bool}
    (h : decodeRecordWithRepair bytes = .ok (settings, generation, repaired)) : isValid settings = true := by
  unfold decodeRecordWithRepair at h
  split at h
  · rename_i hdecoded
    cases h
    unfold decodeRecord at hdecoded
    iterate 7
      split at hdecoded
      · cases hdecoded
    split at hdecoded
    · cases hdecoded
    · rename_i hcodec
      cases hdecoded
      exact validateCodecSettings_ok.1 hcodec
  · split at h
    · cases h
    · cases h
      exact validateAndRepair_valid _

theorem isValid_of_classify (reply : SlotReply) : isValid (classify reply).settings = true := by
  unfold classify
  split
  · exact isValid_defaults
  · exact isValid_defaults
  · split
    · exact isValid_defaults
    · exact isValid_defaults
    · exact isValid_of_decode ‹_›
  · exact isValid_defaults

theorem Seen.isValid {allowed : Fault → Prop} {st : Storage} {slot : RecordSlot} {record : SlotRecord}
    (h : Seen allowed st slot record) : DeviceSettings.isValid record.settings = true := by
  rcases h with rfl | ⟨result, bytes, pending, -, -, rfl⟩
  · exact isValid_of_classify _
  · exact isValid_of_classify _

theorem Loaded.isValid {allowed : Fault → Prop} {st st' : Storage} {r : SettingsManager × LoadStatus}
    (h : Loaded allowed st r st') : DeviceSettings.isValid r.1.settings = true := by
  cases h with
  | failed _ hun _ =>
    obtain ⟨result, rfl⟩ := hun
    exact isValid_defaults
  | @selected a b _ ha hb =>
    rcases selectSlots_cases initial a b (ha.eq_of_bytes hb) with
      hnoted | ⟨-, m', fallback, heq⟩ | ⟨-, m', fallback, heq⟩
    · rw [hnoted.settings]
      exact isValid_defaults
    · rw [heq, (applySelected_selected m' _ .A fallback).1.settings]
      exact ha.isValid
    · rw [heq, (applySelected_selected m' _ .B fallback).1.settings]
      exact hb.isValid
  | reset _ _ => exact isValid_defaults

/-! ### What a call makes of the RAM -/

section Ready

variable {s : SettingsRam} {asks : List Ask}

/-- What a RAM has to have for its settings to be applied. -/
structure SettingsRam.Ready (s : SettingsRam) : Prop where
  manager : s.currentSettings = s.settingsManager.settings
  valid : isValid s.currentSettings = true
  draft : isValid s.uiController.draftSettings = true
  saveDraft : isValid s.persistenceRequests.saveDraft = true
  configuration : s.configurationState = { snapshot s.settingsManager with status := s.configurationState.status }

theorem SettingsRam.Shown.ready (h : s.Shown) : s.Ready := ⟨h.manager, h.valid, h.draft, h.saveDraft, h.configuration⟩

theorem SettingsRam.Ready.apply (h : s.Ready) (nowMs : UInt32) (applyDefaultScreen : Bool) :
    (s.applyCurrentSettings nowMs applyDefaultScreen).Shown := by
  have hset : isValid (s.uiController.setCurrentSettings s.currentSettings).draftSettings = true ∧
      (s.uiController.setCurrentSettings s.currentSettings).currentSettings = s.currentSettings := by
    unfold Controller.setCurrentSettings
    dsimp only
    split
    · exact ⟨h.valid, rfl⟩
    · exact ⟨h.draft, rfl⟩
  have hkeeps : ((s.uiController.setCurrentSettings s.currentSettings).setInactivityTimeoutMs
      (timeoutMs s.currentSettings) nowMs).Keeps (s.applyCurrentSettings nowMs applyDefaultScreen).uiController := by
    unfold SettingsRam.applyCurrentSettings
    dsimp only
    split
    · exact (Controller.keeps_selectConfiguredScreen _ _).trans (Controller.keeps_invalidate _)
    · exact Controller.keeps_invalidate _
  constructor
  · exact h.manager
  · exact hkeeps.currentSettings.trans hset.2
  · exact hkeeps.inactivityTimeoutMs
  · exact h.valid
  · apply hkeeps.draft _ hset.1
    change isValid (s.uiController.setCurrentSettings s.currentSettings).currentSettings = true
    rw [hset.2]
    exact h.valid
  · exact h.saveDraft
  · exact h.configuration

/-- A controller that keeps its settings. -/
theorem SettingsRam.Shown.keeps (h : s.Shown) {uiController : Controller} (hkeeps : s.uiController.Keeps uiController) :
    { s with uiController }.Shown := by
  constructor
  · exact h.manager
  · exact hkeeps.currentSettings.trans h.display
  · exact hkeeps.inactivityTimeoutMs.trans h.timeout
  · exact h.valid
  · apply hkeeps.draft _ h.draft
    rw [h.display]
    exact h.valid
  · exact h.saveDraft
  · exact h.configuration

end Ready

/-! ### What the calls of the manager report -/

section Reports

variable {allowed : Fault → Prop} {st : Storage} {m : SettingsManager} {candidate : Settings}

theorem unsupported_of_isUnsupportedSlot {slot : RecordSlot} (h : m.isUnsupportedSlot slot = true) :
    m.unsupportedSchema = true := by
  unfold isUnsupportedSlot at h
  cases slot <;> simp_all [unsupportedSchema]

/-- A load reports an unsupported schema if it has noted one. -/
theorem unsupported_of_selectSlots {a b : SlotRecord} (h : (m.selectSlots a b).2 = .unsupportedSchema) :
    (m.selectSlots a b).1.unsupportedSchema = true := by
  have happly : ∀ (m : SettingsManager) (r : SlotRecord) (slot : RecordSlot) (fallback : Bool),
      (m.applySelected r slot fallback).2 ≠ .unsupportedSchema := by
    intro m r slot fallback
    unfold applySelected
    dsimp only
    split
    · simp
    · split <;> simp
  revert h
  unfold selectSlots
  dsimp only
  split
  · simp
  split
  · split
    · intro _
      assumption
    · split <;> simp
  split
  · split
    · split
      · simp
      · exact fun h => absurd h (happly _ _ _ _)
    · split
      · exact fun h => absurd h (happly _ _ _ _)
      · split
        · exact fun h => absurd h (happly _ _ _ _)
        · simp
  · split
    · exact fun h => absurd h (happly _ _ _ _)
    · exact fun h => absurd h (happly _ _ _ _)

theorem Loaded.unsupported {st' : Storage} {r : SettingsManager × LoadStatus} (h : Loaded allowed st r st')
    (hresult : r.2 = .unsupportedSchema) : r.1.unsupportedSchema = true := by
  cases h with
  | failed hstatus _ _ =>
    dsimp only at hresult
    subst hresult
    cases hstatus
  | selected _ _ _ => exact unsupported_of_selectSlots hresult
  | reset _ _ => cases hresult

/-- What a save has to say of settings that it does not write. -/
structure Reports (m : SettingsManager) (candidate : Settings) (r : SettingsManager × SaveStatus) : Prop where
  unsupported : r.2 = .unsupportedSchema → m.unsupportedSchema = true
  unchanged : r.2 = .unchanged ∨ r.2 = .repairedUnchanged → canonical candidate = m.settings

theorem ensures_reports (st : Storage) (m : SettingsManager) (candidate : Settings) :
    Ensures allowed st (m.save candidate) (fun r _ => Reports m candidate r) (fun _ => True) := by
  have hother : ∀ (st : Storage) (m' : SettingsManager) (status : SaveStatus), status ≠ .unsupportedSchema →
      status ≠ .unchanged → status ≠ .repairedUnchanged →
      Ensures allowed st (pure (m', status)) (fun r _ => Reports m candidate r) (fun _ => True) := by
    intro st m' status hsupported hchanged hchanged'
    refine always_pure.2 ⟨fun h => absurd h hsupported, fun h => ?_⟩
    rcases h with h | h
    · exact absurd h hchanged
    · exact absurd h hchanged'
  unfold save
  dsimp only
  split
  · rename_i hrefused
    refine always_pure.2 ⟨fun _ => ?_, by simp⟩
    exact (Bool.and_eq_true_iff.1 hrefused).2
  split
  · rename_i hsame
    refine always_pure.2 ⟨fun h => ?_, fun _ => hsame.1⟩
    cases hrepaired : (validateAndRepair candidate).2 <;> rw [hrepaired] at h <;> cases h
  split
  · rename_i hslot
    exact always_pure.2 ⟨fun _ => unsupported_of_isUnsupportedSlot hslot, by simp⟩
  split
  · exact hother _ _ _ (by simp) (by simp) (by simp)
  refine ensures_writeSlot trivial fun written content _ => ?_
  split
  · exact hother _ _ _ (by simp) (by simp) (by simp)
  split
  · exact hother _ _ _ (by simp) (by simp) (by simp)
  refine ensures_readSlot trivial ?_ fun result bytes pending _ hne => ?_
  swap
  · split
    · exact hother _ _ _ (by simp) (by simp) (by simp)
    · exact hother _ _ _ (by simp) (by simp) (by simp)
  split
  · exact hother _ _ _ (by simp) (by simp) (by simp)
  split
  · exact hother _ _ _ (by simp) (by simp) (by simp)
  split
  · exact hother _ _ _ (by simp) (by simp) (by simp)
  · apply hother
    · cases (validateAndRepair candidate).2 <;> simp [byRepair]
    · cases (validateAndRepair candidate).2 <;> simp [byRepair]
    · cases (validateAndRepair candidate).2 <;> simp [byRepair]

end Reports

section Calls

variable {allowed : Fault → Prop} {s : SettingsRam} {asks : List Ask}

theorem fromLoad_eq {r : SettingsManager × LoadStatus} (h : r.2 = .unsupportedSchema → r.1.unsupportedSchema = true) :
    fromLoad r.2 r.1 = { snapshot r.1 with status := (fromLoad r.2 r.1).status } := by
  unfold fromLoad
  cases hresult : r.2 with
  | unsupportedSchema => simp [snapshot, h hresult]
  | _ => rfl

theorem fromSave_eq {m : SettingsManager} {result : SaveStatus}
    (h : result = .unsupportedSchema → m.unsupportedSchema = true) :
    fromSave result m = { snapshot m with status := (fromSave result m).status } := by
  unfold fromSave
  cases hresult : result with
  | unsupportedSchema => simp [snapshot, h hresult]
  | _ => rfl

theorem ready_loaded {st st' : Storage} {r : SettingsManager × LoadStatus} (h : Loaded allowed st r st') :
    { SettingsRam.initial with settingsManager := r.1, currentSettings := r.1.settings
                               configurationState := fromLoad r.2 r.1 }.Ready := by
  constructor
  · rfl
  · exact h.isValid
  · exact isValid_defaults
  · exact isValid_defaults
  · exact fromLoad_eq h.unsupported

theorem SettingsRam.Shown.withRequests (h : s.Shown) {persistenceRequests : RequestQueue}
    (hdraft : isValid persistenceRequests.saveDraft = true) : { s with persistenceRequests }.Shown :=
  ⟨h.manager, h.display, h.timeout, h.valid, h.draft, hdraft, h.configuration⟩

/-- **A start.** -/
theorem ensures_loadSettings (st : Storage) (nowMs : UInt32) :
    Ensures allowed st (SettingsRam.initial.loadSettings nowMs) (fun s _ => s.Shown ∧
      s.persistenceRequests = due (if s.settingsManager.repairPending then [.repair] else [])) (fun _ => True) := by
  refine always_bind (always_mono (fun r st' hr => ?_) (fun _ _ => trivial) (ensures_load st))
  apply always_pure.2
  have hshown := (ready_loaded hr).apply nowMs true
  split
  · rename_i hrepair
    refine ⟨hshown.withRequests isValid_defaults, ?_⟩
    change _ = due (if r.1.repairPending then [.repair] else [])
    rw [if_pos hrepair]
    rfl
  · rename_i hrepair
    refine ⟨hshown, ?_⟩
    change _ = due (if r.1.repairPending then [.repair] else [])
    rw [if_neg hrepair]
    rfl

/-- Nothing is served without a request, or away from a safe point. -/
theorem servicePersistence_idle {safe : Bool} (nowMs : UInt32)
    (h : s.persistenceRequests.pending = .none ∨ safe = false) : s.servicePersistence safe nowMs = pure s := by
  unfold SettingsRam.servicePersistence
  rw [if_pos]
  rcases h with h | h
  · exact Or.inl h
  · exact Or.inr (by simp [h])

theorem SettingsRam.Shown.withManager (h : s.Shown) {settingsManager : SettingsManager}
    {configurationState : ConfigurationState} (hsettings : settingsManager.settings = s.settingsManager.settings)
    (hconfiguration : configurationState = { snapshot settingsManager with status := configurationState.status }) :
    { s with settingsManager, configurationState }.Shown :=
  ⟨h.manager.trans hsettings.symm, h.display, h.timeout, h.valid, h.draft, h.saveDraft, hconfiguration⟩

theorem SettingsRam.Shown.markPresentationChanged (h : s.Shown) : s.markPresentationChanged.Shown :=
  h.keeps (Controller.keeps_invalidate _)

/-- A factory reset that is served. -/
theorem ensures_serve_reset (st : Storage) (h : s.Shown) (hpending : s.persistenceRequests.pending = .factoryReset)
    (nowMs : UInt32) : Ensures allowed st (s.servicePersistence true nowMs)
      (fun s' _ => s'.Shown ∧ Served s.persistenceRequests s s') (fun _ => True) := by
  unfold SettingsRam.servicePersistence
  rw [if_neg (by simp [hpending]), if_pos hpending]
  refine always_bind (always_mono (fun r st' hr => ?_) (fun _ _ => trivial) (ensures_factoryReset st s.settingsManager))
  apply always_pure.2
  cases hr with
  | completed _ _ =>
    have hready : { s with
        settingsManager := { s.settingsManager.afterReset with lastResetResult := .resetCompleted }
        configurationState := fromReset .resetCompleted
          { s.settingsManager.afterReset with lastResetResult := .resetCompleted }
        currentSettings := defaults }.Ready :=
      ⟨rfl, isValid_defaults, h.draft, h.saveDraft, rfl⟩
    refine ⟨(hready.apply nowMs true).withRequests isValid_defaults, ?_⟩
    constructor
    · intro hsave
      rw [hpending] at hsave
      cases hsave
    · intro _
      exact Or.inl ⟨rfl, rfl⟩
    · intro hrepair
      rw [hpending] at hrepair
      cases hrepair
    · rfl
  | @failed result _ hresult _ =>
    dsimp only
    rw [if_neg hresult]
    have hshown : { s with
        settingsManager := { s.settingsManager with lastResetResult := result }
        configurationState := fromReset result { s.settingsManager with lastResetResult := result } }.Shown :=
      h.withManager rfl rfl
    refine ⟨hshown.markPresentationChanged.withRequests isValid_defaults, ?_⟩
    constructor
    · intro hsave
      rw [hpending] at hsave
      cases hsave
    · intro _
      refine Or.inr ⟨?_, rfl⟩
      change (fromReset _ _).status = _
      simp [fromReset, hresult]
    · intro hrepair
      rw [hpending] at hrepair
      cases hrepair
    · rfl

theorem status_of_succeeded {result : SaveStatus} (m : SettingsManager) (h : saveSucceeded result = true) :
    (fromSave result m).status = .saved := by
  cases result <;> first | rfl | exact absurd h (by decide)

theorem status_of_failed {result : SaveStatus} (m : SettingsManager) (h : saveSucceeded result = false) :
    (result = .unchanged ∨ result = .repairedUnchanged) ∧ (fromSave result m).status = .unchanged ∨
      (fromSave result m).status = .saveFailed ∨ (fromSave result m).status = .unsupported := by
  cases result <;> simp [fromSave] <;> exact absurd h (by decide)

/-- A save that is served: of a draft, or of the settings in force to repair what is stored. -/
theorem ensures_serve_save (st : Storage) (h : s.Shown) (hpending : s.persistenceRequests.pending ≠ .none)
    (hreset : s.persistenceRequests.pending ≠ .factoryReset) (nowMs : UInt32) :
    Ensures allowed st (s.servicePersistence true nowMs) (fun s' _ => s'.Shown ∧ Served s.persistenceRequests s s')
      (fun _ => True) := by
  unfold SettingsRam.servicePersistence
  rw [if_neg (by simp [hpending]), if_neg hreset]
  set candidate := if s.persistenceRequests.pending = .save then s.persistenceRequests.saveDraft else s.currentSettings
    with hcandidate
  have hvalid : isValid candidate = true := by
    rw [hcandidate]
    split
    · exact h.saveDraft
    · exact h.valid
  have hcanonical : canonical candidate = candidate := canonical_of_valid hvalid
  have hrepair : s.persistenceRequests.pending = .automaticRepair → candidate = s.currentSettings := by
    intro hrepair
    rw [hcandidate, hrepair, if_neg (by simp)]
  refine always_bind (always_mono (fun r st' hr => ?_) (fun _ _ => trivial)
    (always_and (ensures_save st s.settingsManager candidate) (ensures_reports st s.settingsManager candidate)))
  obtain ⟨hends, hreports⟩ := hr
  apply always_pure.2
  obtain ⟨m, result⟩ := r
  -- a save that has not succeeded leaves the manager as it was
  have hkeeps : saveSucceeded result = false → m = s.settingsManager := by
    intro hno
    cases hends with
    | refused _ => rfl
    | failed _ _ _ => rfl
    | saved _ hyes =>
      rw [hyes] at hno
      cases hno
  have hsaves : saveSucceeded result = true → m = s.settingsManager.afterSave candidate := by
    intro hyes
    cases hends with
    | refused hno =>
      rw [hyes] at hno
      cases hno
    | failed _ _ hno =>
      rw [hyes] at hno
      cases hno
    | saved _ _ => rfl
  cases hresult : saveSucceeded result with
  | false =>
    obtain rfl := hkeeps hresult
    have hshown : { s with configurationState := fromSave result s.settingsManager }.Shown :=
      h.withManager rfl (fromSave_eq hreports.unsupported)
    simp only [Bool.false_eq_true, if_false]
    refine ⟨hshown.markPresentationChanged.withRequests isValid_defaults, ?_⟩
    constructor
    · intro hsave
      rcases status_of_failed s.settingsManager hresult with ⟨hsame, hstatus⟩ | hstatus
      · -- the draft is what is in force already
        have hdraft : candidate = s.persistenceRequests.saveDraft := by rw [hcandidate, if_pos hsave]
        refine Or.inl ⟨Or.inr hstatus, ?_⟩
        change s.currentSettings = _
        rw [h.manager, ← hreports.unchanged hsame, hcanonical, hdraft]
      · exact Or.inr ⟨hstatus, rfl⟩
    · intro hc
      exact absurd hc hreset
    · intro _
      rfl
    · rfl
  | true =>
    obtain rfl := hsaves hresult
    have hready : { s with
        settingsManager := s.settingsManager.afterSave candidate
        configurationState := fromSave result (s.settingsManager.afterSave candidate)
        currentSettings := canonical candidate }.Ready := by
      refine ⟨rfl, ?_, h.draft, h.saveDraft, fromSave_eq fun hc => ?_⟩
      · rw [hcanonical]
        exact hvalid
      · rw [hc] at hresult
        cases hresult
    simp only [if_true]
    refine ⟨(hready.apply nowMs false).withRequests isValid_defaults, ?_⟩
    constructor
    · intro hsave
      refine Or.inl ⟨Or.inl (status_of_succeeded _ hresult), ?_⟩
      change canonical candidate = _
      rw [hcanonical, hcandidate, if_pos hsave]
    · intro hc
      exact absurd hc hreset
    · intro hc
      change canonical candidate = _
      rw [hcanonical, hrepair hc]
    · rfl

/-- The button. -/
theorem SettingsRam.Shown.serviceButton (h : s.Shown) (hdue : s.persistenceRequests = due asks)
    (first second : ButtonEvent) (nowMs : UInt32) : (s.serviceButton first second nowMs).Shown ∧
      (s.serviceButton first second nowMs).persistenceRequests =
        due (asks ++ askOf ((s.uiController.handle first nowMs).handle second nowMs)) := by
  have hkeeps := (Controller.keeps_handle s.uiController first nowMs).trans
    (Controller.keeps_handle (s.uiController.handle first nowMs) second nowMs)
  unfold SettingsRam.serviceButton
  generalize (s.uiController.handle first nowMs).handle second nowMs = ui at hkeeps ⊢
  have hshown : { s with uiController := { ui with pendingEditorAction := .none } }.Shown :=
    h.keeps (hkeeps.trans (.of_eq rfl rfl rfl))
  unfold SettingsRam.queueEditorAction askOf Controller.takeEditorAction
  dsimp only
  cases ui.pendingEditorAction with
  | none =>
    refine ⟨hshown, ?_⟩
    rw [List.append_nil]
    exact hdue
  | saveSettingsRequest =>
    constructor
    · apply hshown.withRequests
      unfold RequestQueue.queueSave
      split
      · exact h.saveDraft
      · exact hshown.draft
    · rw [due_save, ← hdue]
  | factoryResetRequest =>
    constructor
    · exact hshown.withRequests isValid_defaults
    · rw [due_reset, ← hdue]

theorem SettingsRam.Shown.serviceUi (h : s.Shown) (nowMs : UInt32) :
    (s.serviceUi nowMs).Shown ∧ (s.serviceUi nowMs).persistenceRequests = s.persistenceRequests := by
  have hkeeps := Controller.keeps_update s.uiController nowMs
  unfold SettingsRam.serviceUi
  dsimp only
  split
  · exact ⟨h.keeps (hkeeps.trans (Controller.keeps_recordRendered _ nowMs)), rfl⟩
  · exact ⟨h.keeps (hkeeps.trans (Controller.keeps_recordRendered _ nowMs)), rfl⟩
  · exact ⟨h.keeps hkeeps, rfl⟩

/-- Something is due as long as something has been asked for. -/
theorem pending_of_asked (h : asks ≠ []) : (due asks).pending ≠ .none := by
  unfold due
  split
  · simp
  · rename_i hreset
    split
    · simp
    · rename_i hdraft
      rw [if_pos]
      · simp
      obtain ⟨ask, hask⟩ := List.exists_mem_of_ne_nil asks h
      cases ask with
      | repair => exact hask
      | reset => exact absurd hask hreset
      | save draft =>
        have hmem : draft ∈ asks.filterMap Ask.draft? := List.mem_filterMap.2 ⟨.save draft, hask, rfl⟩
        rw [List.getLast?_eq_none_iff.1 hdraft] at hmem
        cases hmem

theorem ensures_serve (st : Storage) (h : s.Shown) (hpending : s.persistenceRequests.pending ≠ .none) (nowMs : UInt32) :
    Ensures allowed st (s.servicePersistence true nowMs) (fun s' _ => s'.Shown ∧ Served s.persistenceRequests s s')
      (fun _ => True) := by
  by_cases hreset : s.persistenceRequests.pending = .factoryReset
  · exact ensures_serve_reset st h hreset nowMs
  · exact ensures_serve_save st h hpending hreset nowMs

end Calls

/-! ### Runs -/

section Runs

variable {past turns rest : List DeviceTurn} {t : DeviceTurn}

/-- What is kept over the turns. -/
def SettingsDevice.InStep (past : List DeviceTurn) (d : SettingsDevice) : Prop :=
  ∀ s, d.ram = some s → s.Shown ∧ s.persistenceRequests = due (outstanding past)

theorem outstanding_concat (past : List DeviceTurn) (t : DeviceTurn) : outstanding (past ++ [t]) =
    match t.action with
    | .boot _ _ _ => t.asked
    | .powerLoss => []
    | .persistence safe _ _ _ => if safe then [] else outstanding past
    | _ => outstanding past ++ t.asked := by
  rw [outstanding, List.foldl_append]
  rfl

/-- An execution of a program that makes no call. -/
theorem executeStore_pure {α : Type} (a : α) (script : List Fault) (stop : Option ℕ) (st : Storage) :
    executeStore (pure a) script stop st = (some a, st) := by
  cases stop with
  | none => rfl
  | some n => cases n <;> rfl

theorem shows_boot {nowMs : UInt32} {faults : List Fault} {stop : Option ℕ} (hsteps : device.Steps t)
    (haction : t.action = .boot nowMs faults stop) : t.Shows past := by
  have hafter : t.after = t.before.step (.boot nowMs faults stop) := haction ▸ hsteps
  refine ⟨fun s hs => ?_, fun _ _ _ _ _ hc => ?_, Or.inr (Or.inl ⟨nowMs, faults, stop, haction⟩)⟩
  · have hends := execute_of_ensures (ensures_loadSettings t.before.storage nowMs) faults stop fun _ _ => trivial
    have hram : (executeStore (SettingsRam.initial.loadSettings nowMs) faults stop t.before.storage).1 = some s := by
      rw [← hs, hafter]
      rfl
    split at hends
    · rename_i s' _ hrun
      rw [hrun] at hram
      cases hram
      refine ⟨hends.1, ?_⟩
      rw [outstanding_concat, haction, hends.2]
      simp only [DeviceTurn.asked, haction, hs]
    · rename_i hrun
      rw [hrun] at hram
      cases hram
  · rw [haction] at hc
    cases hc

theorem shows_persistence {safe : Bool} {nowMs : UInt32} {faults : List Fault} {stop : Option ℕ}
    (hsteps : device.Steps t) (hstep : t.before.InStep past)
    (haction : t.action = .persistence safe nowMs faults stop) : t.Shows past := by
  have hafter : t.after = t.before.step (.persistence safe nowMs faults stop) := haction ▸ hsteps
  have houtstanding : outstanding (past ++ [t]) = if safe then [] else outstanding past := by
    rw [outstanding_concat, haction]
  cases hram : t.before.ram with
  | none =>
    have hsame : t.after = t.before := by rw [hafter, SettingsDevice.step, hram]
    refine ⟨fun s hs => ?_, fun _ _ _ _ _ _ hs => ?_, Or.inl (by rw [hsame])⟩
    · rw [hsame, hram] at hs
      cases hs
    · rw [hram] at hs
      cases hs
  | some s =>
    obtain ⟨hshown, hdue⟩ := hstep s hram
    have hstore : t.after = t.before.onStore (s.servicePersistence safe nowMs) faults stop := by
      rw [hafter, SettingsDevice.step, hram]
    by_cases hidle : outstanding past = [] ∨ safe = false
    · -- nothing is served
      have hpure : s.servicePersistence safe nowMs = pure s := by
        apply servicePersistence_idle
        rcases hidle with hnone | hwrong
        · rw [hdue, hnone]
          exact Or.inl rfl
        · exact Or.inr hwrong
      have hsame : t.after = ⟨some s, t.before.storage⟩ := by
        rw [hstore, hpure, SettingsDevice.onStore, executeStore_pure]
      refine ⟨fun s' hs' => ?_, fun _ _ _ _ _ hc _ _ hasked => ?_, Or.inl (by rw [hsame])⟩
      · rw [hsame] at hs'
        cases hs'
        refine ⟨hshown, ?_⟩
        rw [houtstanding, hdue]
        rcases hidle with hnone | hwrong
        · rw [hnone]
          split <;> rfl
        · rw [hwrong]
          rfl
      · rcases hidle with hnone | hwrong
        · exact absurd hnone hasked
        · rw [haction, hwrong] at hc
          cases hc
    · rw [not_or, Bool.not_eq_false] at hidle
      obtain ⟨hasked, rfl⟩ := hidle
      have hpending : s.persistenceRequests.pending ≠ .none := by
        rw [hdue]
        exact pending_of_asked hasked
      have hends := execute_of_ensures (ensures_serve t.before.storage hshown hpending nowMs) faults stop fun _ _ => trivial
      have hserved : ∀ s', t.after.ram = some s' → s'.Shown ∧ Served s.persistenceRequests s s' := by
        intro s' hs'
        have hvalue : (executeStore (s.servicePersistence true nowMs) faults stop t.before.storage).1 = some s' := by
          rw [← hs', hstore]
          rfl
        split at hends
        · rename_i hrun
          rw [hrun] at hvalue
          cases hvalue
          exact hends
        · rename_i hrun
          rw [hrun] at hvalue
          cases hvalue
      refine ⟨fun s' hs' => ?_, fun s₀ s' _ _ _ _ hs₀ hs' _ => ?_,
        Or.inr (Or.inr ⟨nowMs, faults, stop, haction, hasked⟩)⟩
      · refine ⟨(hserved s' hs').1, ?_⟩
        rw [houtstanding, (hserved s' hs').2.cleared]
        rfl
      · rw [hram] at hs₀
        cases hs₀
        rw [← hdue]
        exact (hserved s' hs').2

/-- A turn that changes the RAM and leaves the storage alone. -/
theorem shows_ram {f : SettingsRam → SettingsRam} (hram : t.after.ram = t.before.ram.map f)
    (hstored : t.after.storage = t.before.storage) (hnot : ∀ safe nowMs faults stop, t.action ≠ .persistence safe nowMs faults stop)
    (hf : ∀ s, t.before.ram = some s → (f s).Shown ∧ (f s).persistenceRequests = due (outstanding (past ++ [t]))) :
    t.Shows past := by
  refine ⟨fun s' hs' => ?_, fun _ _ _ _ _ hc => absurd hc (hnot _ _ _ _), Or.inl hstored⟩
  rw [hram, Option.map_eq_some_iff] at hs'
  obtain ⟨s, hs, rfl⟩ := hs'
  exact hf s hs

/-- **One turn.** -/
theorem shows_of_steps (hsteps : device.Steps t) (hstep : t.before.InStep past) : t.Shows past := by
  have hafter : t.after = t.before.step t.action := hsteps
  cases haction : t.action with
  | boot nowMs faults stop => exact shows_boot hsteps haction
  | persistence safe nowMs faults stop => exact shows_persistence hsteps hstep haction
  | powerLoss =>
    rw [haction] at hafter
    refine ⟨fun s hs => ?_, fun _ _ _ _ _ hc => ?_, Or.inl (by rw [hafter]; rfl)⟩
    · rw [hafter] at hs
      cases hs
    · rw [haction] at hc
      cases hc
  | button first second nowMs =>
    rw [haction] at hafter
    apply shows_ram (f := fun s => s.serviceButton first second nowMs)
    · rw [hafter]
      rfl
    · rw [hafter]
      rfl
    · simp [haction]
    · intro s hs
      obtain ⟨hshown, hdue⟩ := hstep s hs
      rw [outstanding_concat, haction]
      simp only [DeviceTurn.asked, haction, hs]
      exact hshown.serviceButton hdue first second nowMs
  | ui nowMs =>
    rw [haction] at hafter
    apply shows_ram (f := fun s => s.serviceUi nowMs)
    · rw [hafter]
      rfl
    · rw [hafter]
      rfl
    · simp [haction]
    · intro s hs
      obtain ⟨hshown, hdue⟩ := hstep s hs
      rw [outstanding_concat, haction]
      simp only [DeviceTurn.asked, haction, List.append_nil]
      obtain ⟨hshown', hsame⟩ := hshown.serviceUi nowMs
      exact ⟨hshown', hsame.trans hdue⟩
  | changed =>
    rw [haction] at hafter
    apply shows_ram (f := SettingsRam.markPresentationChanged)
    · rw [hafter]
      rfl
    · rw [hafter]
      rfl
    · simp [haction]
    · intro s hs
      obtain ⟨hshown, hdue⟩ := hstep s hs
      rw [outstanding_concat, haction]
      simp only [DeviceTurn.asked, haction, List.append_nil]
      exact ⟨hshown.markPresentationChanged, hdue⟩

theorem inStep_of_run {st : Storage} (hrun : device.IsRun ⟨none, st⟩ turns) :
    (device.last ⟨none, st⟩ turns).InStep turns := by
  apply hrun.history (I := SettingsDevice.InStep)
  · intro s hs
    cases hs
  · intro early u _ _ hsteps hstep
    exact (shows_of_steps hsteps hstep).shown

/-- **What a device shows is what is in force.**  From a device without power, whatever is stored, in every run of
starts, losses of power, presses, updates and requests that are served, with every failure of the store: the settings in
force, of the manager and on the display are one and valid, with their timeout; the configuration that is shown is the
manager's; what waits is what is due; a save that has been served has put its draft in force or says that it has not; and
the storage is touched by a start, and by what is due at a safe point. -/
theorem settings_shown (st : Storage) (hrun : device.IsRun ⟨none, st⟩ turns) (hsplit : turns = past ++ t :: rest) :
    t.Shows past := by
  subst hsplit
  apply shows_of_steps
  · exact hrun.steps (by simp)
  · rw [System.isRun_append] at hrun
    obtain ⟨hpast, hbefore, -⟩ := hrun
    have hlast : t.before = device.last ⟨none, st⟩ past := hbefore
    rw [hlast]
    exact inStep_of_run hpast

/-- The turns of the actions. -/
def SettingsDevice.play (d : SettingsDevice) : List DeviceAction → List DeviceTurn
  | [] => []
  | action :: actions => ⟨d, action, d.step action⟩ :: (d.step action).play actions

theorem isRun_play (d : SettingsDevice) (actions : List DeviceAction) : device.IsRun d (d.play actions) := by
  induction actions generalizing d with
  | nil => trivial
  | cons action actions ih => exact ⟨rfl, rfl, ih _⟩

/-- A device with nothing stored. -/
def blankDevice : SettingsDevice := ⟨none, ⟨fun _ => none, .missing⟩⟩

/-- The editor is opened, the timeout advanced, and the item to save selected and activated. -/
def editActions : List DeviceAction :=
  [.boot 0 [] none, .button .veryLongPress .none 2000, .button .longPress .none 3000] ++
    List.replicate 6 (.button .release .shortPress 4000) ++ [.button .longPress .none 5000]

theorem settings_shown_edited :
    let d := device.last blankDevice (blankDevice.play editActions)
    ((d.step (.persistence true 6000 [] none)).ram.map fun s =>
        (s.configurationState.status, s.uiController.currentSettings)) =
      some (.saved, { defaults with displayTimeoutSeconds := 60 }) ∧
    DeviceTurn.Shows (blankDevice.play editActions)
      ⟨d, .persistence true 6000 [] none, d.step (.persistence true 6000 [] none)⟩ :=
  ⟨by decide +kernel, settings_shown ⟨fun _ => none, .missing⟩
    (isRun_play blankDevice (editActions ++ [.persistence true 6000 [] none])) rfl⟩

end Runs

end Redline.DeviceSettings
