import Mathlib.Tactic.SplitIfs
import Redline.DeviceUi.Controller

/-!
# The modes of the controller

The display and the editor together have four modes.  `Mode.Handles` says what an event of the button may do in each of
them and which action it produces, `Mode.Updates` what the passing of time may do.  `handle_responds` and
`update_settles` say that the two calls of the source do nothing else, and what becomes of the settings and the draft.
-/

namespace Redline.DeviceUi

open Redline.Input Redline.DeviceSettings

/-! ### Modes -/

/-- What the display and the editor are doing.  An editor is open on an item, and may hold the time at which a reset was
armed. -/
inductive Mode
  | asleep | waking | browsing
  | editing (item : EditorItem) (armedAtMs : Option UInt32)
  deriving DecidableEq

namespace Controller

def mode (c : Controller) : Mode :=
  if !c.displayAwake then .asleep
  else if c.suppressWakeGesture then .waking
  else if c.editorActive then .editing c.selectedEditorItem (if c.resetArmed then some c.resetArmedAtMs else none)
  else .browsing

/-- An open editor is shown, and a reset is armed in an open editor only, on its item. -/
structure Consistent (c : Controller) : Prop where
  awake : c.editorActive = true → c.displayAwake = true
  heard : c.editorActive = true → c.suppressWakeGesture = false
  armed : c.resetArmed = true → c.editorActive = true ∧ c.selectedEditorItem = .factoryReset

/-- What the handling of an event adds to a controller whose last action has been taken. -/
def produces (c : Controller) (event : ButtonEvent) (nowMs : UInt32) : EditorAction :=
  (c.takeEditorAction.1.handle event nowMs).pendingEditorAction

end Controller

/-- An armed reset is confirmed by the time. -/
def InTime (nowMs : UInt32) (armedAtMs : Option UInt32) : Prop :=
  ∃ since, armedAtMs = some since ∧ elapsed nowMs since ≤ resetConfirmationTimeoutMs

/-- The abstract controller: what an event may do in each mode, and the action that it produces. -/
inductive Mode.Handles (nowMs : UInt32) : Mode → ButtonEvent → Mode → EditorAction → Prop
  | asleep {event : ButtonEvent} (other : event ≠ .press) : Handles nowMs .asleep event .asleep .none
  | wakes : Handles nowMs .asleep .press .waking .none
  | waking (event : ButtonEvent) : Handles nowMs .waking event .waking .none
  | woken {event : ButtonEvent} (ends : event = .shortPress ∨ event = .release) :
      Handles nowMs .waking event .browsing .none
  | browses {event : ButtonEvent} (other : event ≠ .veryLongPress) : Handles nowMs .browsing event .browsing .none
  | enters : Handles nowMs .browsing .veryLongPress (.editing .displayTimeout none) .none
  | stays {event : ButtonEvent} (item : EditorItem) (armedAtMs : Option UInt32) (notShort : event ≠ .shortPress)
      (notLong : event ≠ .longPress) : Handles nowMs (.editing item armedAtMs) event (.editing item armedAtMs) .none
  | navigates (item : EditorItem) (armedAtMs : Option UInt32) :
      Handles nowMs (.editing item armedAtMs) .shortPress (.editing (nextEditorItem item) none) .none
  | changes {item : EditorItem} (armedAtMs : Option UInt32) (setting : item ∉ [.save, .cancel, .factoryReset]) :
      Handles nowMs (.editing item armedAtMs) .longPress (.editing item none) .none
  | saves (armedAtMs : Option UInt32) :
      Handles nowMs (.editing .save armedAtMs) .longPress .browsing .saveSettingsRequest
  | cancels (armedAtMs : Option UInt32) : Handles nowMs (.editing .cancel armedAtMs) .longPress .browsing .none
  | arms {armedAtMs : Option UInt32} (late : ¬ InTime nowMs armedAtMs) :
      Handles nowMs (.editing .factoryReset armedAtMs) .longPress (.editing .factoryReset (some nowMs)) .none
  | confirms {armedAtMs : Option UInt32} (inTime : InTime nowMs armedAtMs) :
      Handles nowMs (.editing .factoryReset armedAtMs) .longPress .browsing .factoryResetRequest

/-- What the passing of time may do in each mode. -/
inductive Mode.Updates (nowMs : UInt32) : Mode → Mode → Prop
  | off (mode : Mode) : Updates nowMs mode .asleep
  | stays {mode : Mode} (closed : ∀ item armedAtMs, mode ≠ .editing item armedAtMs) : Updates nowMs mode mode
  | keeps {item : EditorItem} {armedAtMs : Option UInt32} (inTime : armedAtMs ≠ none → InTime nowMs armedAtMs) :
      Updates nowMs (.editing item armedAtMs) (.editing item armedAtMs)
  | expires (item : EditorItem) {armedAtMs : Option UInt32} (late : ¬ InTime nowMs armedAtMs) :
      Updates nowMs (.editing item armedAtMs) (.editing item none)

namespace Controller

variable {c c' c'' : Controller} {event : ButtonEvent} {nowMs : UInt32}

/-! ### What is drawn -/

/-- Nothing has changed but what is drawn and when. -/
structure Redraws (c c' : Controller) : Prop where
  displayAwake : c'.displayAwake = c.displayAwake := by rfl
  suppressWakeGesture : c'.suppressWakeGesture = c.suppressWakeGesture := by rfl
  currentSettings : c'.currentSettings = c.currentSettings := by rfl
  draftSettings : c'.draftSettings = c.draftSettings := by rfl
  selectedEditorItem : c'.selectedEditorItem = c.selectedEditorItem := by rfl
  pendingEditorAction : c'.pendingEditorAction = c.pendingEditorAction := by rfl
  editorActive : c'.editorActive = c.editorActive := by rfl
  resetArmed : c'.resetArmed = c.resetArmed := by rfl
  resetArmedAtMs : c'.resetArmedAtMs = c.resetArmedAtMs := by rfl

theorem Redraws.refl (c : Controller) : c.Redraws c := {}

theorem Redraws.trans (h : c.Redraws c') (h' : c'.Redraws c'') : c.Redraws c'' where
  displayAwake := h'.displayAwake.trans h.displayAwake
  suppressWakeGesture := h'.suppressWakeGesture.trans h.suppressWakeGesture
  currentSettings := h'.currentSettings.trans h.currentSettings
  draftSettings := h'.draftSettings.trans h.draftSettings
  selectedEditorItem := h'.selectedEditorItem.trans h.selectedEditorItem
  pendingEditorAction := h'.pendingEditorAction.trans h.pendingEditorAction
  editorActive := h'.editorActive.trans h.editorActive
  resetArmed := h'.resetArmed.trans h.resetArmed
  resetArmedAtMs := h'.resetArmedAtMs.trans h.resetArmedAtMs

theorem Redraws.mode (h : c.Redraws c') : c'.mode = c.mode := by
  simp only [Controller.mode, h.displayAwake, h.suppressWakeGesture, h.selectedEditorItem, h.editorActive, h.resetArmed,
    h.resetArmedAtMs]

theorem Redraws.consistent (h : c.Redraws c') (hc : c.Consistent) : c'.Consistent := by
  refine ⟨?_, ?_, ?_⟩
  · rw [h.editorActive, h.displayAwake]
    exact hc.awake
  · rw [h.editorActive, h.suppressWakeGesture]
    exact hc.heard
  · rw [h.resetArmed, h.editorActive, h.selectedEditorItem]
    exact hc.armed

theorem invalidate_eq (c : Controller) : c.invalidate =
    { c with dirty := true, dirtyWhileRenderPending := c.renderPending || c.dirtyWhileRenderPending } := by
  unfold invalidate
  dsimp only
  split <;> simp [*]

theorem redraws_invalidate (c : Controller) : c.Redraws c.invalidate := by
  rw [invalidate_eq]
  exact {}

@[simp] theorem mode_invalidate : c.invalidate.mode = c.mode := (redraws_invalidate c).mode

theorem Consistent.invalidate (h : c.Consistent) : c.invalidate.Consistent := (redraws_invalidate c).consistent h

@[simp] theorem currentSettings_invalidate : c.invalidate.currentSettings = c.currentSettings :=
  (redraws_invalidate c).currentSettings

@[simp] theorem draftSettings_invalidate : c.invalidate.draftSettings = c.draftSettings :=
  (redraws_invalidate c).draftSettings

@[simp] theorem editorActive_invalidate : c.invalidate.editorActive = c.editorActive :=
  (redraws_invalidate c).editorActive

theorem redraws_selectConfiguredScreen (c : Controller) (screen : Screen) :
    c.Redraws (c.selectConfiguredScreen screen) := by
  unfold selectConfiguredScreen
  split
  · exact .trans {} (redraws_invalidate { c with screen })
  · exact .refl c

theorem redraws_recordRendered (c : Controller) (nowMs : UInt32) : c.Redraws (c.recordRendered nowMs) := by
  unfold recordRendered
  dsimp only
  split
  · exact .refl c
  · split <;> exact {}

theorem redraws_updateDisplay (c : Controller) (nowMs : UInt32) : c.Redraws (c.updateDisplay nowMs).1 := by
  obtain ⟨drawn, hdrawn⟩ : ∃ drawn, drawn =
      if !c.dirty && !c.editorActive && isLiveScreen c.screen &&
        elapsed nowMs c.lastLiveRefreshAtMs ≥ c.liveRefreshIntervalMs then c.invalidate
      else c := ⟨_, rfl⟩
  have hredraws : c.Redraws drawn := by
    rw [hdrawn]
    split
    · exact redraws_invalidate c
    · exact .refl c
  refine hredraws.trans ?_
  unfold updateDisplay
  dsimp only
  rw [← hdrawn]
  split
  · split <;> exact {}
  · split <;> exact {}

/-! ### What an event does -/

/-- What may be said of a call that handles an event: the mode and the action are those of the abstract controller, and
an editor that is left without a request to save has dropped its draft. -/
structure Responds (nowMs : UInt32) (event : ButtonEvent) (f : Controller → Controller) (c : Controller)
    (action : EditorAction) : Prop where
  handles : Mode.Handles nowMs c.mode event (f c).mode action
  consistent : (f c).Consistent
  produces : ∀ pending, f { c with pendingEditorAction := pending } =
    { f c with pendingEditorAction := if action = .none then pending else action }
  currentSettings : (f c).currentSettings = c.currentSettings
  left : c.editorActive = true → (f c).editorActive = false → action ≠ .saveSettingsRequest →
    (f c).draftSettings = (f c).currentSettings

theorem Responds.congr {f g : Controller → Controller} {action : EditorAction} (h : Responds nowMs event g c action)
    (heq : ∀ pending, f { c with pendingEditorAction := pending } = g { c with pendingEditorAction := pending }) :
    Responds nowMs event f c action := by
  have hown : f c = g c := heq c.pendingEditorAction
  refine ⟨?_, ?_, fun pending => ?_, ?_, ?_⟩
  · rw [hown]
    exact h.handles
  · rw [hown]
    exact h.consistent
  · rw [heq, hown]
    exact h.produces pending
  · rw [hown]
    exact h.currentSettings
  · rw [hown]
    exact h.left

theorem mode_editing (hc : c.Consistent) (h : c.editorActive = true) : c.mode =
    .editing c.selectedEditorItem (if c.resetArmed then some c.resetArmedAtMs else none) := by
  simp [Controller.mode, hc.awake h, hc.heard h, h]

theorem mode_exitEditor (hawake : c.displayAwake = true) (hheard : c.suppressWakeGesture = false)
    (pending : EditorAction) (retainDraft : Bool) :
    ({ c with pendingEditorAction := pending }.exitEditor retainDraft).mode = .browsing := by
  unfold exitEditor
  cases retainDraft <;> simp [Controller.mode, invalidate_eq, hawake, hheard]

theorem consistent_of_closed (h : c.editorActive = false) (harmed : c.resetArmed = false) : c.Consistent := by
  refine ⟨?_, ?_, ?_⟩
  · simp [h]
  · simp [h]
  · simp [harmed]

theorem consistent_exitEditor (c : Controller) (retainDraft : Bool) : (c.exitEditor retainDraft).Consistent := by
  unfold exitEditor
  cases retainDraft
  · exact (consistent_of_closed rfl rfl).invalidate
  · exact (consistent_of_closed rfl rfl).invalidate

/-- The three items that leave the editor. -/
theorem responds_exit {f : Controller → Controller} {action : EditorAction} (pending : EditorAction) (retainDraft : Bool)
    (hc : c.Consistent) (h : c.editorActive = true) (hhandles : Mode.Handles nowMs c.mode event .browsing action)
    (heq : f c = { c with pendingEditorAction := pending }.exitEditor retainDraft)
    (hproduces : ∀ pending, f { c with pendingEditorAction := pending } =
      { f c with pendingEditorAction := if action = .none then pending else action })
    (hretain : action ≠ .saveSettingsRequest → retainDraft = false) : Responds nowMs event f c action := by
  refine ⟨?_, ?_, hproduces, ?_, fun _ _ hsave => ?_⟩
  · rw [heq, mode_exitEditor (hc.awake h) (hc.heard h)]
    exact hhandles
  · rw [heq]
    exact consistent_exitEditor _ _
  · rw [heq]
    cases retainDraft <;> simp [exitEditor]
  · rw [heq, hretain hsave]
    simp [exitEditor]

/-- Only the draft is edited. -/
theorem advanceSelectedSetting_eq (c : Controller) (resetArmed : Bool) (pending : EditorAction) :
    { c with resetArmed, pendingEditorAction := pending }.advanceSelectedSetting =
      { c with resetArmed, pendingEditorAction := pending, draftSettings := c.advanceSelectedSetting.draftSettings } := by
  cases hitem : c.selectedEditorItem <;> simp [advanceSelectedSetting, hitem]

theorem activateEditorItem_responds (hc : c.Consistent) (h : c.editorActive = true) (nowMs : UInt32) :
    ∃ action, Responds nowMs .longPress (activateEditorItem · nowMs) c action := by
  have hmode := mode_editing hc h
  by_cases hsave : c.selectedEditorItem = .save
  · rw [hsave] at hmode
    refine ⟨.saveSettingsRequest, responds_exit .saveSettingsRequest true hc h (hmode ▸ .saves _) ?_ (fun pending => ?_)
      (absurd rfl)⟩
    · simp [activateEditorItem, hsave]
    · simp [activateEditorItem, hsave, exitEditor, invalidate_eq]
  by_cases hcancel : c.selectedEditorItem = .cancel
  · rw [hcancel] at hmode
    refine ⟨.none, responds_exit c.pendingEditorAction false hc h (hmode ▸ .cancels _) ?_ (fun pending => ?_)
      fun _ => rfl⟩
    · rw [activateEditorItem, if_neg hsave, if_pos hcancel]
    · simp [activateEditorItem, hcancel, exitEditor, invalidate_eq]
  by_cases hreset : c.selectedEditorItem = .factoryReset
  · rw [hreset] at hmode
    by_cases hconfirm : c.resetArmed = true ∧ elapsed nowMs c.resetArmedAtMs ≤ resetConfirmationTimeoutMs
    · rw [if_pos hconfirm.1] at hmode
      refine ⟨.factoryResetRequest, responds_exit .factoryResetRequest false hc h
        (hmode ▸ .confirms ⟨_, rfl, hconfirm.2⟩) ?_ (fun pending => ?_) fun _ => rfl⟩
      · simp [activateEditorItem, hreset, hconfirm]
      · simp [activateEditorItem, hreset, hconfirm, exitEditor, invalidate_eq]
    · have heq : c.activateEditorItem nowMs = { c with resetArmed := true, resetArmedAtMs := nowMs }.invalidate := by
        simp [activateEditorItem, hreset, hconfirm]
      have harmed : Consistent { c with resetArmed := true, resetArmedAtMs := nowMs } :=
        ⟨hc.awake, hc.heard, fun _ => ⟨h, hreset⟩⟩
      have hlate : ¬ InTime nowMs (if c.resetArmed then some c.resetArmedAtMs else none) := by
        rintro ⟨since, hsince, hin⟩
        split at hsince
        · rename_i harmed
          exact hconfirm ⟨harmed, Option.some.inj hsince ▸ hin⟩
        · cases hsince
      refine ⟨.none, ?_, ?_, fun pending => ?_, ?_, fun _ hleft => ?_⟩
      · rw [heq, mode_invalidate, mode_editing harmed h, hmode, hreset]
        exact .arms hlate
      · rw [heq]
        exact harmed.invalidate
      · simp [activateEditorItem, hreset, hconfirm, invalidate_eq]
      · simp [heq]
      · simp [heq, h] at hleft
  · have heq : c.activateEditorItem nowMs =
        { c with resetArmed := false, draftSettings := c.advanceSelectedSetting.draftSettings }.invalidate := by
      rw [activateEditorItem, if_neg hsave, if_neg hcancel, if_neg hreset]
      exact congrArg invalidate (advanceSelectedSetting_eq c false c.pendingEditorAction)
    have hcalm : Consistent { c with resetArmed := false, draftSettings := c.advanceSelectedSetting.draftSettings } :=
      ⟨hc.awake, hc.heard, fun harmed => absurd harmed Bool.false_ne_true⟩
    refine ⟨.none, ?_, ?_, fun pending => ?_, ?_, fun _ hleft => ?_⟩
    · rw [heq, mode_invalidate, mode_editing hcalm h, hmode]
      exact .changes _ (by simp [hsave, hcancel, hreset])
    · rw [heq]
      exact hcalm.invalidate
    · show _ = { c.activateEditorItem nowMs with pendingEditorAction := pending }
      rw [heq, activateEditorItem, if_neg hsave, if_neg hcancel, if_neg hreset, advanceSelectedSetting_eq c false pending]
      simp [invalidate_eq]
    · simp [heq]
    · simp [heq, h] at hleft

/-- An event that leaves the mode, and what goes with it, as they are. -/
theorem Redraws.responds {f : Controller → Controller} (h : c.Redraws (f c)) (hc : c.Consistent)
    (hhandles : Mode.Handles nowMs c.mode event c.mode .none)
    (hproduces : ∀ pending, f { c with pendingEditorAction := pending } = { f c with pendingEditorAction := pending }) :
    Responds nowMs event f c .none where
  handles := h.mode ▸ hhandles
  consistent := h.consistent hc
  produces := hproduces
  currentSettings := h.currentSettings
  left hactive hleft := by
    rw [h.editorActive, hactive] at hleft
    cases hleft

theorem handleEditor_responds (hc : c.Consistent) (h : c.editorActive = true) (event : ButtonEvent) (nowMs : UInt32) :
    ∃ action, Responds nowMs event (handleEditor · event nowMs) c action := by
  have hmode := mode_editing hc h
  have hstays : event ≠ .shortPress → event ≠ .longPress → Mode.Handles nowMs c.mode event c.mode .none := by
    intro hshort hlong
    rw [hmode]
    exact .stays _ _ hshort hlong
  cases event with
  | none => exact ⟨.none, Redraws.responds (.refl c) hc (hstays (by decide) (by decide)) fun _ => rfl⟩
  | release => exact ⟨.none, Redraws.responds (.refl c) hc (hstays (by decide) (by decide)) fun _ => rfl⟩
  | veryLongPress => exact ⟨.none, Redraws.responds (.refl c) hc (hstays (by decide) (by decide)) fun _ => rfl⟩
  | press => exact ⟨.none, Redraws.responds {} hc (hstays (by decide) (by decide)) fun _ => rfl⟩
  | shortPress =>
    have hcalm : Consistent { c with
        selectedEditorItem := nextEditorItem c.selectedEditorItem, resetArmed := false, lastInputAtMs := nowMs } :=
      ⟨hc.awake, hc.heard, fun harmed => absurd harmed Bool.false_ne_true⟩
    refine ⟨.none, ?_, hcalm.invalidate, fun pending => ?_, ?_, fun _ hleft => ?_⟩
    · rw [handleEditor, mode_invalidate, mode_editing hcalm h, hmode]
      exact .navigates _ _
    · simp [handleEditor, invalidate_eq]
    · simp [handleEditor]
    · simp [handleEditor, h] at hleft
  | longPress =>
    obtain ⟨action, hhandles, hconsistent, hproduces, hcurrent, hleft⟩ :=
      activateEditorItem_responds (c := { c with lastInputAtMs := nowMs }) ⟨hc.awake, hc.heard, hc.armed⟩ h nowMs
    exact ⟨action, hhandles, hconsistent, hproduces, hcurrent, hleft⟩

theorem mode_waking (hawake : c.displayAwake = true) (hsuppressed : c.suppressWakeGesture = true) :
    c.mode = .waking := by
  simp [Controller.mode, hawake, hsuppressed]

theorem mode_browsing (hawake : c.displayAwake = true) (hheard : c.suppressWakeGesture = false)
    (hclosed : c.editorActive = false) : c.mode = .browsing := by
  simp [Controller.mode, hawake, hheard, hclosed]

theorem Consistent.closed (hc : c.Consistent) (h : c.editorActive = false) : c.resetArmed = false := by
  cases harmed : c.resetArmed with
  | false => rfl
  | true =>
    rw [(hc.armed harmed).1] at h
    cases h

/-- Without an open editor there is nothing to leave. -/
theorem responds_closed {f : Controller → Controller} (h : c.editorActive = false)
    (hhandles : Mode.Handles nowMs c.mode event (f c).mode .none) (hconsistent : (f c).Consistent)
    (hproduces : ∀ pending, f { c with pendingEditorAction := pending } = { f c with pendingEditorAction := pending })
    (hcurrent : (f c).currentSettings = c.currentSettings) : Responds nowMs event f c .none where
  handles := hhandles
  consistent := hconsistent
  produces := hproduces
  currentSettings := hcurrent
  left hactive := by
    rw [h] at hactive
    cases hactive

theorem handleSuppressedWakeGesture_cases (c : Controller) (event : ButtonEvent) :
    c.Redraws (c.handleSuppressedWakeGesture event) ∨
      (event = .shortPress ∨ event = .release) ∧
        c.handleSuppressedWakeGesture event = { c with suppressWakeGesture := false } := by
  unfold handleSuppressedWakeGesture
  split
  · exact Or.inl {}
  split
  · rename_i hshort
    exact Or.inr ⟨Or.inl hshort, rfl⟩
  split
  · rename_i hrelease
    exact Or.inr ⟨Or.inr hrelease.1, rfl⟩
  · exact Or.inl (.refl c)

theorem handleSuppressedWakeGesture_pending (c : Controller) (event : ButtonEvent) (pending : EditorAction) :
    { c with pendingEditorAction := pending }.handleSuppressedWakeGesture event =
      { c.handleSuppressedWakeGesture event with pendingEditorAction := pending } := by
  unfold handleSuppressedWakeGesture
  dsimp only
  split_ifs <;> rfl

theorem handleSuppressedWakeGesture_responds (hc : c.Consistent) (hawake : c.displayAwake = true)
    (hsuppressed : c.suppressWakeGesture = true) (event : ButtonEvent) (nowMs : UInt32) :
    Responds nowMs event (handleSuppressedWakeGesture · event) c .none := by
  have hmode := mode_waking hawake hsuppressed
  have hclosed : c.editorActive = false := by
    by_contra hactive
    rw [hc.heard (by simpa using hactive)] at hsuppressed
    cases hsuppressed
  rcases handleSuppressedWakeGesture_cases c event with hredraws | ⟨hends, heq⟩
  · refine hredraws.responds hc ?_ (handleSuppressedWakeGesture_pending c event)
    rw [hmode]
    exact .waking event
  · refine responds_closed hclosed ?_ ?_ (handleSuppressedWakeGesture_pending c event) ?_
    · rw [heq, hmode, mode_browsing (c := { c with suppressWakeGesture := false }) hawake rfl hclosed]
      exact .woken hends
    · rw [heq]
      exact consistent_of_closed hclosed (hc.closed hclosed)
    · rw [heq]

theorem redraws_handle (hawake : c.displayAwake = true) (hheard : c.suppressWakeGesture = false)
    (hclosed : c.editorActive = false) (hother : event ≠ .veryLongPress) (nowMs : UInt32) :
    c.Redraws (c.handle event nowMs) := by
  unfold handle
  rw [if_neg (by simp [hawake]), if_neg (by simp [hheard]), if_neg (by simp [hclosed])]
  cases event with
  | none => exact .refl c
  | release => exact .refl c
  | press => exact {}
  | shortPress =>
    exact .trans {} (redraws_invalidate { c with screen := nextScreen c.screen, lastInputAtMs := nowMs })
  | longPress =>
    dsimp only
    split
    · exact .trans {} (redraws_invalidate { c with screen := .home, lastInputAtMs := nowMs })
    · exact {}
  | veryLongPress => exact absurd rfl hother

theorem handle_browsing_pending (hawake : c.displayAwake = true) (hheard : c.suppressWakeGesture = false)
    (hclosed : c.editorActive = false) (event : ButtonEvent) (nowMs : UInt32) (pending : EditorAction) :
    { c with pendingEditorAction := pending }.handle event nowMs =
      { c.handle event nowMs with pendingEditorAction := pending } := by
  cases event with
  | longPress =>
    simp only [handle, hawake, hheard, hclosed, invalidate_eq, Bool.not_true, Bool.false_eq_true, if_false]
    split <;> rfl
  | none | release | press | shortPress | veryLongPress =>
    simp [handle, hawake, hheard, hclosed, enterEditor, invalidate_eq]

theorem handle_browsing_responds (hc : c.Consistent) (hawake : c.displayAwake = true)
    (hheard : c.suppressWakeGesture = false) (hclosed : c.editorActive = false) (event : ButtonEvent) (nowMs : UInt32) :
    Responds nowMs event (handle · event nowMs) c .none := by
  have hmode := mode_browsing hawake hheard hclosed
  have hproduces := handle_browsing_pending hawake hheard hclosed event nowMs
  by_cases hother : event = .veryLongPress
  · have heq : c.handle event nowMs = c.enterEditor nowMs := by
      simp [handle, hawake, hheard, hclosed, hother]
    have hentered : Consistent { c with
        editorActive := true, draftSettings := c.currentSettings, selectedEditorItem := .displayTimeout
        resetArmed := false, lastInputAtMs := nowMs } :=
      ⟨fun _ => hawake, fun _ => hheard, fun harmed => absurd harmed Bool.false_ne_true⟩
    refine responds_closed hclosed ?_ ?_ hproduces ?_
    · rw [heq, enterEditor, mode_invalidate, mode_editing hentered rfl, hmode, hother]
      exact .enters
    · rw [heq]
      exact hentered.invalidate
    · rw [heq]
      simp [enterEditor]
  · refine (redraws_handle hawake hheard hclosed hother nowMs).responds hc ?_ hproduces
    rw [hmode]
    exact .browses hother

theorem handle_responds (hc : c.Consistent) (event : ButtonEvent) (nowMs : UInt32) :
    ∃ action, Responds nowMs event (handle · event nowMs) c action := by
  cases hawake : c.displayAwake with
  | false =>
    have hmode : c.mode = .asleep := by simp [Controller.mode, hawake]
    have hclosed : c.editorActive = false := by
      by_contra hactive
      rw [hc.awake (by simpa using hactive)] at hawake
      cases hawake
    by_cases hpress : event = .press
    · refine ⟨.none, responds_closed hclosed ?_ ?_ (fun pending => ?_) ?_⟩
      · have hwoken : (c.handle event nowMs).mode = .waking := by
          simp [handle, hawake, hpress, Controller.mode, invalidate_eq]
        rw [hmode, hwoken, hpress]
        exact .wakes
      · have heq : c.handle event nowMs = { c with
            displayAwake := true, displayOnPending := true, suppressWakeGesture := true, wakeGestureWasLong := false
            lastInputAtMs := nowMs }.invalidate := by
          simp [handle, hawake, hpress]
        rw [heq]
        refine Consistent.invalidate ?_
        exact consistent_of_closed hclosed (hc.closed hclosed)
      · simp [handle, hawake, hpress, invalidate_eq]
      · simp [handle, hawake, hpress]
    · have heq : c.handle event nowMs = c := by
        simp [handle, hawake, hpress]
      refine ⟨.none, Redraws.responds (heq.symm ▸ .refl c) hc ?_ fun pending => ?_⟩
      · rw [hmode]
        exact .asleep hpress
      · simp [handle, hawake, hpress]
  | true =>
    cases hsuppressed : c.suppressWakeGesture with
    | true =>
      refine ⟨.none, (handleSuppressedWakeGesture_responds hc hawake hsuppressed event nowMs).congr fun pending => ?_⟩
      simp [handle, hawake, hsuppressed]
    | false =>
      cases hactive : c.editorActive with
      | true =>
        obtain ⟨action, hresponds⟩ := handleEditor_responds hc hactive event nowMs
        refine ⟨action, hresponds.congr fun pending => ?_⟩
        simp [handle, hawake, hsuppressed, hactive]
      | false => exact ⟨.none, handle_browsing_responds hc hawake hsuppressed hactive event nowMs⟩

/-! ### What the time does -/

/-- What may be said of an update. -/
structure Settles (nowMs : UInt32) (c c' : Controller) : Prop where
  updates : Mode.Updates nowMs c.mode c'.mode
  consistent : c'.Consistent
  pendingEditorAction : c'.pendingEditorAction = c.pendingEditorAction
  currentSettings : c'.currentSettings = c.currentSettings
  left : c.editorActive = true → c'.editorActive = false → c'.draftSettings = c'.currentSettings

theorem consistent_switchOff (hc : c.Consistent) (h : c.editorActive = false) : c.switchOff.Consistent :=
  consistent_of_closed h (hc.closed h)

theorem Redraws.settles (h : c.Redraws c') (hc : c.Consistent) (hupdates : Mode.Updates nowMs c.mode c.mode) :
    Settles nowMs c c' where
  updates := h.mode ▸ hupdates
  consistent := h.consistent hc
  pendingEditorAction := h.pendingEditorAction
  currentSettings := h.currentSettings
  left hactive hleft := by
    rw [h.editorActive, hactive] at hleft
    cases hleft

theorem switchOff_settles (hc : c.Consistent) (h : c.editorActive = false) (nowMs : UInt32) :
    Settles nowMs c c.switchOff where
  updates := .off _
  consistent := consistent_switchOff hc h
  pendingEditorAction := rfl
  currentSettings := rfl
  left hactive := by
    rw [h] at hactive
    cases hactive

theorem closeEditor_settles (c : Controller) (nowMs : UInt32) : Settles nowMs c (c.exitEditor false).switchOff where
  updates := .off _
  consistent := consistent_switchOff (consistent_exitEditor c false) (by simp [exitEditor])
  pendingEditorAction := by simp [switchOff, exitEditor, invalidate_eq]
  currentSettings := by simp [switchOff, exitEditor]
  left _ _ := by simp [switchOff, exitEditor]

theorem expireReset_cases (hc : c.Consistent) (h : c.editorActive = true) (nowMs : UInt32) :
    (c.expireReset nowMs).Consistent ∧ (c.expireReset nowMs).editorActive = true ∧
      (c.expireReset nowMs).pendingEditorAction = c.pendingEditorAction ∧
      (c.expireReset nowMs).currentSettings = c.currentSettings ∧
      Mode.Updates nowMs c.mode (c.expireReset nowMs).mode := by
  have hmode := mode_editing hc h
  unfold expireReset
  split
  · rename_i hlate
    simp only [Bool.and_eq_true, decide_eq_true_eq] at hlate
    have hcalm : Consistent { c with resetArmed := false } :=
      ⟨hc.awake, hc.heard, fun harmed => absurd harmed Bool.false_ne_true⟩
    refine ⟨hcalm.invalidate, by simp [h], by simp [invalidate_eq], by simp, ?_⟩
    rw [mode_invalidate, mode_editing hcalm h, hmode, if_pos hlate.1]
    refine .expires _ ?_
    rintro ⟨since, hsince, hin⟩
    exact UInt32.not_le.2 hlate.2 (Option.some.inj hsince ▸ hin)
  · rename_i hkept
    refine ⟨hc, h, rfl, rfl, ?_⟩
    rw [hmode]
    refine .keeps fun harmed => ?_
    split
    · rename_i hset
      exact ⟨_, rfl, by simpa [hset] using hkept⟩
    · rename_i hset
      exact absurd (if_neg hset) harmed

theorem update_settles (hc : c.Consistent) (nowMs : UInt32) : Settles nowMs c (c.update nowMs).1 := by
  unfold update
  dsimp only
  split
  · exact closeEditor_settles c nowMs
  cases hactive : c.editorActive with
  | true =>
    obtain ⟨hconsistent, hopen, hpending, hcurrent, hupdates⟩ := expireReset_cases hc hactive nowMs
    have hredraws := redraws_updateDisplay (c.expireReset nowMs) nowMs
    rw [if_pos rfl, if_neg (by simp [hopen]), if_neg (by simp [hconsistent.awake hopen])]
    refine ⟨hredraws.mode ▸ hupdates, hredraws.consistent hconsistent, hredraws.pendingEditorAction.trans hpending,
      hredraws.currentSettings.trans hcurrent, fun _ hleft => ?_⟩
    rw [hredraws.editorActive, hopen] at hleft
    cases hleft
  | false =>
    have hstays : Mode.Updates nowMs c.mode c.mode := by
      refine .stays fun item armedAtMs => ?_
      unfold Controller.mode
      split_ifs <;> simp_all
    rw [if_neg Bool.false_ne_true]
    split
    · exact switchOff_settles hc hactive nowMs
    split
    · exact (Redraws.refl c).settles hc hstays
    · exact (redraws_updateDisplay c nowMs).settles hc hstays

end Controller
end Redline.DeviceUi
