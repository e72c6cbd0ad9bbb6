import Redline.DeviceUi.Modes

/-!
# The draft of the editor

No call of the controller changes the settings that it shows or its timeout, but those that set them, and every edit of
valid settings makes a valid draft: the presets are valid, and the default screen goes round.
-/

namespace Redline.DeviceUi.Controller

open Redline.Input Redline.DeviceSettings

/-- The settings that are shown and the timeout stay, and the draft stays valid. -/
structure Keeps (c c' : Controller) : Prop where
  currentSettings : c'.currentSettings = c.currentSettings
  inactivityTimeoutMs : c'.inactivityTimeoutMs = c.inactivityTimeoutMs
  draft : isValid c.currentSettings = true → isValid c.draftSettings = true → isValid c'.draftSettings = true

variable {c c' c'' : Controller}

/-- Nothing of these changes. -/
theorem Keeps.of_eq (hcurrent : c'.currentSettings = c.currentSettings)
    (htimeout : c'.inactivityTimeoutMs = c.inactivityTimeoutMs) (hdraft : c'.draftSettings = c.draftSettings) : c.Keeps c' :=
  ⟨hcurrent, htimeout, fun _ h => hdraft ▸ h⟩

theorem Keeps.refl (c : Controller) : c.Keeps c := .of_eq rfl rfl rfl

theorem Keeps.trans (h : c.Keeps c') (h' : c'.Keeps c'') : c.Keeps c'' where
  currentSettings := h'.currentSettings.trans h.currentSettings
  inactivityTimeoutMs := h'.inactivityTimeoutMs.trans h.inactivityTimeoutMs
  draft hcurrent hdraft := h'.draft (h.currentSettings ▸ hcurrent) (h.draft hcurrent hdraft)

theorem keeps_invalidate (c : Controller) : c.Keeps c.invalidate := by
  rw [invalidate_eq]
  exact .of_eq rfl rfl rfl

theorem keeps_exitEditor (c : Controller) (retainDraft : Bool) : c.Keeps (c.exitEditor retainDraft) := by
  unfold exitEditor
  dsimp only
  split
  · refine Keeps.trans ?_ (keeps_invalidate _)
    exact ⟨rfl, rfl, fun h _ => h⟩
  · refine Keeps.trans ?_ (keeps_invalidate _)
    exact .of_eq rfl rfl rfl

theorem keeps_enterEditor (c : Controller) (nowMs : UInt32) : c.Keeps (c.enterEditor nowMs) := by
  refine Keeps.trans ?_ (keeps_invalidate _)
  exact ⟨rfl, rfl, fun h _ => h⟩

theorem nextPreset_mem {α : Type} [LT α] [DecidableLT α] (current first : α) (rest : List α) :
    nextPreset current first rest ∈ first :: rest := by
  unfold nextPreset
  cases hfind : (first :: rest).find? fun preset => current < preset with
  | none => simp
  | some preset => exact List.mem_of_find?_eq_some hfind

/-- The default screen goes round and round. -/
theorem isValidDefaultScreen_next {value : DefaultScreen} (h : isValidDefaultScreen value = true) :
    isValidDefaultScreen (nextDefaultScreen value) = true := by
  simp only [isValidDefaultScreen, Bool.or_eq_true, beq_iff_eq] at h
  rcases h with ((((rfl | rfl) | rfl) | rfl) | rfl) | rfl <;> decide

theorem keeps_advanceSelectedSetting (c : Controller) : c.Keeps c.advanceSelectedSetting := by
  have htimeouts : ∀ value ∈ [(0 : UInt16), 15, 30, 60, 120, 300, 600], isValidDisplayTimeoutSeconds value = true := by
    simp only [List.forall_mem_cons]
    exact ⟨rfl, rfl, rfl, rfl, rfl, rfl, rfl, fun _ h => absurd h List.not_mem_nil⟩
  have hcontrasts : ∀ value ∈ [(32 : UInt8), 64, 128, 207, 255], isValidDisplayContrast value = true := by
    simp only [List.forall_mem_cons]
    exact ⟨rfl, rfl, rfl, rfl, rfl, fun _ h => absurd h List.not_mem_nil⟩
  unfold advanceSelectedSetting
  cases c.selectedEditorItem with
  | displayTimeout =>
    refine ⟨rfl, rfl, fun _ h => ?_⟩
    simp only [isValid, Bool.and_eq_true] at h ⊢
    exact ⟨⟨htimeouts _ (nextPreset_mem _ _ _), h.1.2⟩, h.2⟩
  | displayContrast =>
    refine ⟨rfl, rfl, fun _ h => ?_⟩
    simp only [isValid, Bool.and_eq_true] at h ⊢
    exact ⟨⟨h.1.1, hcontrasts _ (nextPreset_mem _ _ _)⟩, h.2⟩
  | defaultScreen =>
    refine ⟨rfl, rfl, fun _ h => ?_⟩
    simp only [isValid, Bool.and_eq_true] at h ⊢
    exact ⟨h.1, isValidDefaultScreen_next h.2⟩
  | _ => exact ⟨rfl, rfl, fun _ h => h⟩

theorem keeps_activateEditorItem (c : Controller) (nowMs : UInt32) : c.Keeps (c.activateEditorItem nowMs) := by
  unfold activateEditorItem
  split
  · refine Keeps.trans ?_ (keeps_exitEditor _ _)
    exact .of_eq rfl rfl rfl
  split
  · exact keeps_exitEditor _ _
  split
  · split
    · refine Keeps.trans ?_ (keeps_exitEditor _ _)
      exact .of_eq rfl rfl rfl
    · refine Keeps.trans ?_ (keeps_invalidate _)
      exact .of_eq rfl rfl rfl
  · apply Keeps.trans _ (keeps_invalidate _)
    refine Keeps.trans ?_ (keeps_advanceSelectedSetting _)
    exact .of_eq rfl rfl rfl

theorem keeps_handleEditor (c : Controller) (event : ButtonEvent) (nowMs : UInt32) :
    c.Keeps (c.handleEditor event nowMs) := by
  cases event with
  | shortPress =>
    refine Keeps.trans ?_ (keeps_invalidate _)
    exact .of_eq rfl rfl rfl
  | longPress =>
    refine Keeps.trans ?_ (keeps_activateEditorItem _ _)
    exact .of_eq rfl rfl rfl
  | _ => exact .of_eq rfl rfl rfl

theorem keeps_handleSuppressedWakeGesture (c : Controller) (event : ButtonEvent) :
    c.Keeps (c.handleSuppressedWakeGesture event) := by
  unfold handleSuppressedWakeGesture
  split
  · exact .of_eq rfl rfl rfl
  split
  · exact .of_eq rfl rfl rfl
  split <;> exact .of_eq rfl rfl rfl

theorem keeps_handle (c : Controller) (event : ButtonEvent) (nowMs : UInt32) : c.Keeps (c.handle event nowMs) := by
  unfold handle
  split
  · split
    · refine Keeps.trans ?_ (keeps_invalidate _)
      exact .of_eq rfl rfl rfl
    · exact .of_eq rfl rfl rfl
  split
  · exact keeps_handleSuppressedWakeGesture c event
  split
  · exact keeps_handleEditor c event nowMs
  cases event with
  | shortPress =>
    refine Keeps.trans ?_ (keeps_invalidate _)
    exact .of_eq rfl rfl rfl
  | longPress =>
    dsimp only
    split
    · refine Keeps.trans ?_ (keeps_invalidate _)
      exact .of_eq rfl rfl rfl
    · exact .of_eq rfl rfl rfl
  | veryLongPress => exact keeps_enterEditor c nowMs
  | _ => exact .of_eq rfl rfl rfl

theorem keeps_updateDisplay (c : Controller) (nowMs : UInt32) : c.Keeps (c.updateDisplay nowMs).1 := by
  have hlive : c.Keeps (if !c.dirty && !c.editorActive && isLiveScreen c.screen &&
      elapsed nowMs c.lastLiveRefreshAtMs ≥ c.liveRefreshIntervalMs then c.invalidate else c) := by
    split
    · exact keeps_invalidate c
    · exact .of_eq rfl rfl rfl
  unfold updateDisplay
  dsimp only
  revert hlive
  generalize (if !c.dirty && !c.editorActive && isLiveScreen c.screen &&
      elapsed nowMs c.lastLiveRefreshAtMs ≥ c.liveRefreshIntervalMs then c.invalidate else c) = live
  intro hlive
  split
  · split <;> exact hlive.trans (.of_eq rfl rfl rfl)
  · split <;> exact hlive.trans (.of_eq rfl rfl rfl)

theorem keeps_expireReset (c : Controller) (nowMs : UInt32) : c.Keeps (c.expireReset nowMs) := by
  unfold expireReset
  split
  · refine Keeps.trans ?_ (keeps_invalidate _)
    exact .of_eq rfl rfl rfl
  · exact .of_eq rfl rfl rfl

theorem keeps_update (c : Controller) (nowMs : UInt32) : c.Keeps (c.update nowMs).1 := by
  unfold update
  dsimp only
  split
  · exact (keeps_exitEditor c false).trans (.of_eq rfl rfl rfl)
  have hexpired : c.Keeps (if c.editorActive then c.expireReset nowMs else c) := by
    split
    · exact keeps_expireReset c nowMs
    · exact .of_eq rfl rfl rfl
  revert hexpired
  generalize (if c.editorActive then c.expireReset nowMs else c) = expired
  intro hexpired
  split
  · exact hexpired.trans (.of_eq rfl rfl rfl)
  split
  · exact hexpired
  · exact hexpired.trans (keeps_updateDisplay expired nowMs)

theorem keeps_recordRendered (c : Controller) (nowMs : UInt32) : c.Keeps (c.recordRendered nowMs) := by
  unfold recordRendered
  split
  · exact .of_eq rfl rfl rfl
  dsimp only
  split <;> exact .of_eq rfl rfl rfl

theorem keeps_selectConfiguredScreen (c : Controller) (screen : Screen) : c.Keeps (c.selectConfiguredScreen screen) := by
  unfold selectConfiguredScreen
  split
  · refine Keeps.trans ?_ (keeps_invalidate _)
    exact .of_eq rfl rfl rfl
  · exact .of_eq rfl rfl rfl

end Redline.DeviceUi.Controller
