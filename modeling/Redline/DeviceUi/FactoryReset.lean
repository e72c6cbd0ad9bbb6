import Redline.DeviceUi.Panel

/-!
# A factory reset takes two presses

A long press on the last item of the editor arms the reset, and a second one within ten seconds requests it.  An armed
reset does not outlive the session, the item, the ten seconds or the light of the display: `Arms` says where it comes
from, and `armed_step` that a turn keeps that.  `factory_reset_needs_two_presses` reads from it what a request rests on.
-/

namespace Redline.DeviceUi

open Redline.Input Redline.DeviceSettings Redline.Lib

section Steps

variable {past early between : List PanelTurn} {t arm : PanelTurn} {p : Panel} {c : Controller} {event : ButtonEvent}
  {action : EditorAction} {nowMs : UInt32}

@[simp] theorem handledBy_concat : handledBy (past ++ [t]) = handledBy past ++ t.handled := by
  simp [handledBy]

theorem handled_of_call (h : t.call ≠ .handle) : t.handled = [] ∧ t.produced = .none := by
  obtain ⟨before, call, after⟩ := t
  cases call with
  | handle => exact absurd rfl h
  | tick | sample | update | takeEditorAction | setCurrentSettings | setInactivityTimeoutMs | selectConfiguredScreen
    | markDirty | recordRendered => exact ⟨rfl, rfl⟩

theorem handled_of_next {queue : List ButtonEvent} (h : t.call = .handle) (hnext : t.before.queue = event :: queue) :
    t.handled = [event] ∧ t.produced = t.before.controller.produces event t.before.nowMs := by
  obtain ⟨before, call, after⟩ := t
  simp only at h hnext
  simp only [PanelTurn.handled, PanelTurn.produced, h, hnext, and_self]

/-- The action of the abstract controller is the one that is produced. -/
theorem produces_eq (h : c.Responds nowMs event (Controller.handle · event nowMs) action) :
    c.produces event nowMs = action := by
  have hproduces := congrArg Controller.pendingEditorAction (h.produces .none)
  refine hproduces.trans ?_
  cases action <;> rfl

/-! ### The state -/

/-- The button and the controller are consistent, and what the button has reported is what has been handled and what
waits in the queue. -/
structure Panel.InStep (past : List PanelTurn) (p : Panel) : Prop where
  button : p.button.Valid
  controller : p.controller.Consistent
  presses : (handledBy past ++ p.queue).foldlM follow .up = some p.button.phase

theorem inStep_step (hsteps : panel.Steps t) (h : t.before.InStep past) : t.after.InStep (past ++ [t]) := by
  cases kind_of_steps hsteps with
  | tick time hcall _ _ _ hafter =>
    rw [hafter]
    refine ⟨h.button, h.controller, ?_⟩
    rw [handledBy_concat, (handled_of_call (by simp [hcall])).1, List.append_nil]
    exact h.presses
  | sample pressed hcall hafter =>
    obtain ⟨hvalid, hemits⟩ := Button.update_spec h.button ⟨pressed, t.before.nowMs⟩
    rw [hafter]
    refine ⟨hvalid, h.controller, ?_⟩
    rw [handledBy_concat, (handled_of_call (by simp [hcall])).1, List.append_nil, ← List.append_assoc,
      List.foldlM_append, h.presses]
    exact (follow_filter _ _).symm.trans (follow_emits hemits)
  | handle event queue hcall hnext hafter =>
    obtain ⟨action, hresponds⟩ := Controller.handle_responds h.controller event t.before.nowMs
    rw [hafter]
    refine ⟨h.button, hresponds.consistent, ?_⟩
    rw [handledBy_concat, (handled_of_next hcall hnext).1, List.append_assoc, List.singleton_append, ← hnext]
    exact h.presses
  | update hcall hafter =>
    rw [hafter]
    refine ⟨h.button, (Controller.update_settles h.controller t.before.nowMs).consistent, ?_⟩
    rw [handledBy_concat, (handled_of_call (by simp [hcall])).1, List.append_nil]
    exact h.presses
  | adjust controller hother hadjusts hafter =>
    rw [hafter]
    refine ⟨h.button, hadjusts.consistent h.controller, ?_⟩
    rw [handledBy_concat, (handled_of_call hother).1, List.append_nil]
    exact h.presses

/-! ### The armed reset -/

/-- The editor is open on the factory reset, on a display that is on. -/
def Panel.OnReset (p : Panel) : Prop :=
  p.controller.editorActive = true ∧ p.controller.selectedEditorItem = .factoryReset ∧ p.controller.displayAwake = true

theorem open_of_mode {item : EditorItem} {armedAtMs : Option UInt32} (h : c.mode = .editing item armedAtMs) :
    c.editorActive = true ∧ c.selectedEditorItem = item ∧ c.displayAwake = true := by
  unfold Controller.mode at h
  split at h
  · cases h
  split at h
  · cases h
  split at h
  · rename_i hawake _ hactive
    exact ⟨hactive, (Mode.editing.inj h).1, by simpa using hawake⟩
  · cases h

theorem onReset_of_mode {armedAtMs : Option UInt32} (h : p.controller.mode = .editing .factoryReset armedAtMs) :
    p.OnReset := open_of_mode h

/-- The turn `arm` has armed the reset that is armed now, and nothing has happened to the reset since. -/
structure Arms (past early between : List PanelTurn) (arm : PanelTurn) (p : Panel) : Prop where
  split : past = early ++ arm :: between
  long : arm.handled = [.longPress]
  onReset : ∀ u ∈ arm :: between, u.before.OnReset
  unmoved : .shortPress ∉ handledBy between
  later : arm.before.time ≤ p.time
  soon : p.time < arm.before.time + 10000 + 0x80000000
  inTime : p.updated = true → p.time ≤ arm.before.time + 10000

/-- An armed reset has been armed by a turn, at that time. -/
def Armed (past : List PanelTurn) (p : Panel) : Prop :=
  ∀ item since, p.controller.mode = .editing item (some since) → item = .factoryReset ∧
    ∃ early arm between, Arms past early between arm p ∧ since = arm.before.nowMs

theorem Arms.keep (h : Arms past early between arm t.before) (hreset : t.before.OnReset)
    (hunmoved : .shortPress ∉ t.handled) (hlater : t.before.time ≤ t.after.time)
    (hsoon : t.after.time < arm.before.time + 10000 + 0x80000000)
    (hinTime : t.after.updated = true → t.after.time ≤ arm.before.time + 10000) :
    Arms (past ++ [t]) early (between ++ [t]) arm t.after where
  split := by rw [h.split, List.append_assoc, List.cons_append]
  long := h.long
  onReset u hu := by
    rw [← List.cons_append, List.mem_append, List.mem_singleton] at hu
    rcases hu with hu | rfl
    · exact h.onReset u hu
    · exact hreset
  unmoved := by
    rw [handledBy_concat, List.mem_append, not_or]
    exact ⟨h.unmoved, hunmoved⟩
  later := le_trans h.later hlater
  soon := hsoon
  inTime := hinTime

/-- A turn that takes no time. -/
theorem Arms.stay (h : Arms past early between arm t.before) (hreset : t.before.OnReset)
    (hunmoved : .shortPress ∉ t.handled) (htime : t.after.time = t.before.time)
    (hupdated : t.after.updated = t.before.updated) : Arms (past ++ [t]) early (between ++ [t]) arm t.after := by
  refine h.keep hreset hunmoved (le_of_eq htime.symm) ?_ ?_
  · rw [htime]
    exact h.soon
  · rw [htime, hupdated]
    exact h.inTime

/-- The clock measures what is shorter than a round of it. -/
theorem elapsed_toNat {since now : ℕ} (hlater : since ≤ now) (hsoon : now < since + 0x100000000) :
    (elapsed now.toUInt32 since.toUInt32).toNat = now - since := by
  simp only [elapsed, UInt32.toNat_sub, Nat.toUInt32_eq, UInt32.toNat_ofNat']
  omega

/-- The test of the source is one of the true times. -/
theorem Arms.inTime_iff (h : Arms past early between arm p) :
    InTime p.nowMs (some arm.before.nowMs) ↔ p.time ≤ arm.before.time + 10000 := by
  have helapsed : (elapsed p.nowMs arm.before.nowMs).toNat = p.time - arm.before.time :=
    elapsed_toNat h.later (by have := h.soon; omega)
  have hlimit : resetConfirmationTimeoutMs.toNat = 10000 := rfl
  constructor
  · rintro ⟨since, hsince, hin⟩
    cases hsince
    rw [UInt32.le_iff_toNat_le, helapsed, hlimit] at hin
    omega
  · intro hin
    refine ⟨_, rfl, ?_⟩
    rw [UInt32.le_iff_toNat_le, helapsed, hlimit]
    omega

theorem armed_step (hsteps : panel.Steps t) (hstep : t.before.InStep past) (h : Armed past t.before) :
    Armed (past ++ [t]) t.after := by
  intro item since hmode
  cases kind_of_steps hsteps with
  | tick time hcall hupdated hlater hsoon hafter =>
    rw [hafter] at hmode
    obtain ⟨rfl, early, arm, between, harms, hsince⟩ := h item since hmode
    have hinTime := harms.inTime hupdated
    refine ⟨rfl, early, arm, between ++ [t], harms.keep (onReset_of_mode hmode) ?_ ?_ ?_ ?_, hsince⟩
    · simp [(handled_of_call (t := t) (by simp [hcall])).1]
    · rw [hafter]
      exact hlater
    · rw [hafter]
      show time < _
      omega
    · rw [hafter]
      exact fun hup => absurd hup Bool.false_ne_true
  | sample pressed hcall hafter =>
    rw [hafter] at hmode
    obtain ⟨rfl, early, arm, between, harms, hsince⟩ := h item since hmode
    refine ⟨rfl, early, arm, between ++ [t], harms.stay (onReset_of_mode hmode) ?_ ?_ ?_, hsince⟩
    · simp [(handled_of_call (t := t) (by simp [hcall])).1]
    · rw [hafter]
    · rw [hafter]
  | handle event queue hcall hnext hafter =>
    obtain ⟨action, hresponds⟩ := Controller.handle_responds hstep.controller event t.before.nowMs
    have hhandles := hresponds.handles
    have hhandled := (handled_of_next hcall hnext).1
    rw [hafter] at hmode
    rw [show (t.before.controller.handle event t.before.nowMs).mode = _ from hmode] at hhandles
    obtain ⟨mode, hbefore⟩ : ∃ mode, t.before.controller.mode = mode := ⟨_, rfl⟩
    rw [hbefore] at hhandles
    cases hhandles with
    | stays _ _ hshort hlong =>
      obtain ⟨rfl, early, arm, between, harms, hsince⟩ := h item since hbefore
      refine ⟨rfl, early, arm, between ++ [t], harms.stay (onReset_of_mode hbefore) ?_ ?_ ?_, hsince⟩
      · rw [hhandled, List.mem_singleton]
        exact fun heq => hshort heq.symm
      · rw [hafter]
      · rw [hafter]
    | arms hlate =>
      have htime : t.after.time = t.before.time := by rw [hafter]
      refine ⟨rfl, past, t, [], ⟨rfl, hhandled, ?_, by simp [handledBy], ?_, ?_, fun _ => ?_⟩, rfl⟩
      · rintro u hu
        rw [List.mem_singleton.1 hu]
        exact onReset_of_mode hbefore
      · exact le_of_eq htime.symm
      · omega
      · omega
  | update hcall hafter =>
    have hupdates := (Controller.update_settles hstep.controller t.before.nowMs).updates
    rw [hafter] at hmode
    rw [show (t.before.controller.update t.before.nowMs).1.mode = _ from hmode] at hupdates
    obtain ⟨mode, hbefore⟩ : ∃ mode, t.before.controller.mode = mode := ⟨_, rfl⟩
    rw [hbefore] at hupdates
    cases hupdates with
    | stays hclosed => exact absurd rfl (hclosed _ _)
    | keeps hinTime =>
      obtain ⟨rfl, early, arm, between, harms, rfl⟩ := h item since hbefore
      have hin := harms.inTime_iff.1 (hinTime nofun)
      refine ⟨rfl, early, arm, between ++ [t], harms.keep (onReset_of_mode hbefore) ?_ ?_ ?_ ?_, rfl⟩
      · simp [(handled_of_call (t := t) (by simp [hcall])).1]
      · rw [hafter]
      · rw [hafter]
        exact harms.soon
      · rw [hafter]
        exact fun _ => hin
  | adjust controller hother hadjusts hafter =>
    have hbefore : t.before.controller.mode = .editing item (some since) := by
      rw [← hadjusts.mode, ← hmode, hafter]
    obtain ⟨rfl, early, arm, between, harms, hsince⟩ := h item since hbefore
    refine ⟨rfl, early, arm, between ++ [t], harms.stay (onReset_of_mode hbefore) ?_ ?_ ?_, hsince⟩
    · simp [(handled_of_call hother).1]
    · rw [hafter]
    · rw [hafter]

/-! ### A request -/

/-- A request is the second press: the reset was armed and is confirmed in time. -/
theorem confirms_of_produced (hsteps : panel.Steps t) (hstep : t.before.InStep past)
    (hproduced : t.produced = .factoryResetRequest) : t.handled = [.longPress] ∧
      ∃ since, t.before.controller.mode = .editing .factoryReset (some since) ∧ InTime t.before.nowMs (some since) := by
  cases kind_of_steps hsteps with
  | handle event queue hcall hnext hafter =>
    obtain ⟨action, hresponds⟩ := Controller.handle_responds hstep.controller event t.before.nowMs
    obtain ⟨hhandled, haction⟩ := handled_of_next hcall hnext
    rw [haction, produces_eq hresponds] at hproduced
    have hhandles := hresponds.handles
    rw [hproduced] at hhandles
    generalize t.before.controller.mode = mode at hhandles ⊢
    generalize (t.before.controller.handle event t.before.nowMs).mode = mode' at hhandles
    cases hhandles with
    | confirms hinTime =>
      obtain ⟨since, rfl, hin⟩ := hinTime
      exact ⟨hhandled, since, rfl, since, rfl, hin⟩
  | tick _ hcall | sample _ hcall | update hcall =>
    rw [(handled_of_call (by simp [hcall])).2] at hproduced
    cases hproduced
  | adjust _ hother =>
    rw [(handled_of_call hother).2] at hproduced
    cases hproduced

/-- A request that waits has been produced by a turn, and no turn has taken it since. -/
def Requested (past : List PanelTurn) (p : Panel) : Prop :=
  p.controller.pendingEditorAction = .factoryResetRequest → ∃ early request between, past = early ++ request :: between ∧
    request.produced = .factoryResetRequest ∧ ∀ u ∈ between, u.call ≠ .takeEditorAction

theorem Requested.keep (h : Requested past t.before) (hcall : t.call ≠ .takeEditorAction)
    (hpending : t.after.controller.pendingEditorAction = t.before.controller.pendingEditorAction) :
    Requested (past ++ [t]) t.after := by
  intro hrequest
  obtain ⟨early, request, between, rfl, hproduced, huntaken⟩ := h (hpending ▸ hrequest)
  exact ⟨early, request, between ++ [t], by simp, hproduced, forall_mem_concat huntaken hcall⟩

theorem requested_step (hsteps : panel.Steps t) (hstep : t.before.InStep past) (h : Requested past t.before) :
    Requested (past ++ [t]) t.after := by
  cases kind_of_steps hsteps with
  | tick _ hcall _ _ _ hafter => exact h.keep (by simp [hcall]) (by rw [hafter])
  | sample _ hcall hafter => exact h.keep (by simp [hcall]) (by rw [hafter])
  | update hcall hafter =>
    refine h.keep (by simp [hcall]) ?_
    rw [hafter]
    exact (Controller.update_settles hstep.controller t.before.nowMs).pendingEditorAction
  | handle event queue hcall hnext hafter =>
    obtain ⟨action, hresponds⟩ := Controller.handle_responds hstep.controller event t.before.nowMs
    have hpending : t.after.controller.pendingEditorAction =
        if action = .none then t.before.controller.pendingEditorAction else action := by
      rw [hafter]
      exact congrArg Controller.pendingEditorAction (hresponds.produces t.before.controller.pendingEditorAction)
    by_cases hnone : action = .none
    · rw [if_pos hnone] at hpending
      exact h.keep (by simp [hcall]) hpending
    · intro hrequest
      rw [hpending, if_neg hnone] at hrequest
      refine ⟨past, t, [], rfl, ?_, fun u hu => absurd hu List.not_mem_nil⟩
      rw [(handled_of_next hcall hnext).2, produces_eq hresponds, hrequest]
  | adjust controller _ hadjusts hafter =>
    have hpending := hadjusts.pendingEditorAction
    by_cases htake : t.call = .takeEditorAction
    · intro hrequest
      rw [hafter] at hrequest
      rw [if_pos htake] at hpending
      cases hpending.symm.trans hrequest
    · rw [if_neg htake] at hpending
      refine h.keep htake ?_
      rw [hafter]
      exact hpending

/-! ### The settings -/

/-- A request to save is made by a long press on its item. -/
theorem saves_of_handles {mode : Mode} (h : Mode.Handles nowMs c.mode event mode .saveSettingsRequest) :
    event = .longPress ∧ c.selectedEditorItem = .save := by
  obtain ⟨before, hbefore⟩ : ∃ before, c.mode = before := ⟨_, rfl⟩
  rw [hbefore] at h
  cases h with
  | saves => exact ⟨rfl, (open_of_mode hbefore).2.1⟩

/-- What a turn makes of the current settings and, when it leaves the editor, of the draft. -/
theorem settings_of_steps (hsteps : panel.Steps t) (hstep : t.before.InStep past) :
    (t.after.controller.currentSettings = t.before.controller.currentSettings ∨
      t.call = .setCurrentSettings t.after.controller.currentSettings) ∧
    (t.before.controller.editorActive = true → t.after.controller.editorActive = false →
      (t.handled = [.longPress] ∧ t.before.controller.selectedEditorItem = .save) ∨
        t.after.controller.draftSettings = t.after.controller.currentSettings) := by
  have hopen : t.after.controller.editorActive = t.before.controller.editorActive →
      t.before.controller.editorActive = true → t.after.controller.editorActive = false → False := by
    intro hsame hactive hleft
    rw [hsame, hactive] at hleft
    cases hleft
  cases kind_of_steps hsteps with
  | tick _ _ _ _ _ hafter =>
    have hsame : t.after.controller = t.before.controller := by rw [hafter]
    exact ⟨Or.inl (by rw [hsame]), fun hactive hleft => (hopen (by rw [hsame]) hactive hleft).elim⟩
  | sample _ _ hafter =>
    have hsame : t.after.controller = t.before.controller := by rw [hafter]
    exact ⟨Or.inl (by rw [hsame]), fun hactive hleft => (hopen (by rw [hsame]) hactive hleft).elim⟩
  | update _ hafter =>
    have hsettles : Controller.Settles t.before.nowMs t.before.controller t.after.controller := by
      rw [hafter]
      exact Controller.update_settles hstep.controller t.before.nowMs
    exact ⟨Or.inl hsettles.currentSettings, fun hactive hleft => Or.inr (hsettles.left hactive hleft)⟩
  | handle event queue hcall hnext hafter =>
    obtain ⟨action, hresponds⟩ := Controller.handle_responds hstep.controller event t.before.nowMs
    rw [(handled_of_next hcall hnext).1, hafter]
    refine ⟨Or.inl hresponds.currentSettings, fun hactive hleft => ?_⟩
    by_cases hsave : action = .saveSettingsRequest
    · obtain ⟨rfl, hitem⟩ := saves_of_handles (hsave ▸ hresponds.handles)
      exact Or.inl ⟨rfl, hitem⟩
    · exact Or.inr (hresponds.left hactive hleft hsave)
  | adjust controller _ hadjusts hafter =>
    have hsame : t.after.controller = controller := by rw [hafter]
    rw [← hsame] at hadjusts
    exact ⟨hadjusts.currentSettings, fun hactive hleft => (hopen hadjusts.editorActive hactive hleft).elim⟩

end Steps

/-! ### Runs -/

section Runs

variable {turns past rest : List PanelTurn} {t : PanelTurn}

/-- What the turns so far have led to. -/
structure Panel.Led (past : List PanelTurn) (p : Panel) : Prop where
  inStep : p.InStep past
  armed : Armed past p
  requested : Requested past p

theorem led_step (hsteps : panel.Steps t) (h : t.before.Led past) : t.after.Led (past ++ [t]) where
  inStep := inStep_step hsteps h.inStep
  armed := armed_step hsteps h.inStep h.armed
  requested := requested_step hsteps h.inStep h.requested

/-- A panel that nobody has touched yet. -/
structure Panel.Fresh (p : Panel) : Prop where
  button : p.button.Valid
  up : p.button.phase = .up
  queue : p.queue = []
  mode : p.controller.mode = .browsing
  consistent : p.controller.Consistent
  pending : p.controller.pendingEditorAction = .none

theorem Panel.Fresh.led {p : Panel} (h : p.Fresh) : p.Led [] := by
  refine ⟨⟨h.button, h.consistent, ?_⟩, ?_, ?_⟩
  · rw [h.queue, h.up]
    rfl
  · intro item since hmode
    cases h.mode.symm.trans hmode
  · intro hrequest
    cases h.pending.symm.trans hrequest

theorem led_of_run {p : Panel} (hfresh : p.Fresh) (hrun : panel.IsRun p turns) (hsplit : turns = past ++ t :: rest) :
    panel.Steps t ∧ t.before.Led past := by
  rw [hsplit, System.isRun_append] at hrun
  obtain ⟨hpast, hbefore, hsteps, -⟩ := hrun
  have hled : (panel.last p past).Led past :=
    hpast.history hfresh.led fun _ _ _ _ hsteps hled => led_step hsteps hled
  rw [← hbefore] at hled
  exact ⟨hsteps, hled⟩

theorem settings_of_run {p : Panel} (hfresh : p.Fresh) (hrun : panel.IsRun p turns) (ht : t ∈ turns) :
    (t.after.controller.currentSettings = t.before.controller.currentSettings ∨
      t.call = .setCurrentSettings t.after.controller.currentSettings) ∧
    (t.before.controller.editorActive = true → t.after.controller.editorActive = false →
      (t.handled = [.longPress] ∧ t.before.controller.selectedEditorItem = .save) ∨
        t.after.controller.draftSettings = t.after.controller.currentSettings) := by
  obtain ⟨past, rest, hsplit⟩ := List.append_of_mem ht
  obtain ⟨hsteps, hbefore⟩ := led_of_run hfresh hrun hsplit
  exact settings_of_steps hsteps hbefore.inStep

theorem fresh_make (debounceMs : UInt32) {longPressMs veryLongPressMs : UInt32} (hpositive : 0 < longPressMs)
    (hordered : longPressMs ≤ veryLongPressMs)
    (initialTimeMs inactivityTimeoutMs minimumRenderIntervalMs liveRefreshIntervalMs : UInt32) (time : ℕ) :
    (Panel.make (.make debounceMs longPressMs veryLongPressMs)
      (.make initialTimeMs inactivityTimeoutMs minimumRenderIntervalMs liveRefreshIntervalMs) time).Fresh where
  button := valid_make hpositive hordered
  up := rfl
  queue := rfl
  mode := rfl
  consistent := Controller.consistent_of_closed rfl rfl
  pending := rfl

end Runs

/-- **A factory reset needs two deliberate presses.**  Whatever is pressed and whenever, a turn that produces the request
handles a long press, and an earlier turn has handled one too: the button was let go and pressed again between them, at
most ten seconds have passed, and all the while the editor was open on the factory reset, the display was on and no short
press was handled.  What is taken has been produced since the last taking.  The current settings change only by
`setCurrentSettings`, and an editor that is left otherwise than by a long press on SAVE has its draft back at them. -/
theorem factory_reset_needs_two_presses (debounceMs longPressMs veryLongPressMs : UInt32) (hpositive : 0 < longPressMs)
    (hordered : longPressMs ≤ veryLongPressMs)
    (initialTimeMs inactivityTimeoutMs minimumRenderIntervalMs liveRefreshIntervalMs : UInt32) (time : ℕ)
    {turns : List PanelTurn}
    (hrun : panel.IsRun (.make (.make debounceMs longPressMs veryLongPressMs)
      (.make initialTimeMs inactivityTimeoutMs minimumRenderIntervalMs liveRefreshIntervalMs) time) turns) :
    (∀ past confirm rest, turns = past ++ confirm :: rest → confirm.produced = .factoryResetRequest →
      ∃ early arm between, past = early ++ arm :: between ∧
        arm.handled = [.longPress] ∧ confirm.handled = [.longPress] ∧
        List.Sublist [.release, .press] (handledBy between) ∧ .shortPress ∉ handledBy between ∧
        arm.before.time ≤ confirm.before.time ∧ confirm.before.time ≤ arm.before.time + 10000 ∧
        ∀ u ∈ arm :: between ++ [confirm], u.before.OnReset) ∧
    (∀ past take rest, turns = past ++ take :: rest → take.call = .takeEditorAction →
      take.before.controller.takeEditorAction.2 = .factoryResetRequest →
      ∃ early request between, past = early ++ request :: between ∧ request.produced = .factoryResetRequest ∧
        ∀ u ∈ between, u.call ≠ .takeEditorAction) ∧
    (∀ t ∈ turns, t.after.controller.currentSettings = t.before.controller.currentSettings ∨
      t.call = .setCurrentSettings t.after.controller.currentSettings) ∧
    ∀ t ∈ turns, t.before.controller.editorActive = true → t.after.controller.editorActive = false →
      (t.handled = [.longPress] ∧ t.before.controller.selectedEditorItem = .save) ∨
        t.after.controller.draftSettings = t.after.controller.currentSettings := by
  have hfresh := fresh_make debounceMs hpositive hordered initialTimeMs inactivityTimeoutMs minimumRenderIntervalMs
    liveRefreshIntervalMs time
  refine ⟨fun past confirm rest hsplit hproduced => ?_,
    fun past take rest hsplit _ => (led_of_run hfresh hrun hsplit).2.requested,
    fun t ht => (settings_of_run hfresh hrun ht).1, fun t ht => (settings_of_run hfresh hrun ht).2⟩
  obtain ⟨hsteps, hbefore⟩ := led_of_run hfresh hrun hsplit
  obtain ⟨hconfirm, since, hmode, hin⟩ := confirms_of_produced hsteps hbefore.inStep hproduced
  obtain ⟨-, early, arm, between, harms, rfl⟩ := hbefore.armed _ _ hmode
  refine ⟨early, arm, between, harms.split, harms.long, hconfirm, ?_, harms.unmoved, harms.later,
    harms.inTime_iff.1 hin, ?_⟩
  · -- the two long presses are those of two presses of the button
    have hpresses := (inStep_step hsteps hbefore.inStep).presses
    rw [handledBy_concat, hconfirm, harms.split, List.append_assoc, List.singleton_append, handledBy,
      List.flatMap_append, List.flatMap_cons, harms.long] at hpresses
    exact presses_between (by simpa [handledBy] using hpresses)
  · intro u hu
    rw [List.mem_append, List.mem_singleton] at hu
    rcases hu with hu | rfl
    · exact harms.onReset u hu
    · exact onReset_of_mode hmode

/-- The turns of the calls, as long as they are possible. -/
def Panel.play (p : Panel) : List PanelCall → List PanelTurn
  | [] => []
  | call :: calls =>
    match p.call call with
    | none => []
    | some after => ⟨p, call, after⟩ :: after.play calls

theorem isRun_play (p : Panel) (calls : List PanelCall) : panel.IsRun p (p.play calls) := by
  induction calls generalizing p with
  | nil => trivial
  | cons call calls ih =>
    unfold Panel.play
    split
    · trivial
    · rename_i after hcall
      exact ⟨rfl, hcall, ih after⟩

/-- An iteration of the loop. -/
def iterationAt (pressed : Bool) (time : ℕ) : List PanelCall := [.tick time, .sample pressed, .handle, .handle, .update]

/-- The button is pressed at the time and let go after `ms`, each level long enough to count. -/
def pressFor (ms time : ℕ) : List PanelCall :=
  iterationAt true time ++ iterationAt true (time + 30) ++ iterationAt true (time + ms) ++
    iterationAt false (time + ms + 10) ++ iterationAt false (time + ms + 50)

/-- The editor is opened, the factory reset selected, armed and confirmed. -/
def resetCalls : List PanelCall :=
  iterationAt false 0 ++ pressFor 3100 100 ++ ((List.range 8).map fun i => pressFor 100 (4000 + 300 * i)).flatten ++
    pressFor 1100 7000 ++ pressFor 1100 9000 ++ [.takeEditorAction]

theorem factory_reset_needs_two_presses_hold :
    let turns := (Panel.make (.make 30 1000 3000) (.make 0 30000 100 1000) 0).play resetCalls
    .factoryResetRequest ∈ turns.map PanelTurn.produced ∧
    (∀ past confirm rest, turns = past ++ confirm :: rest → confirm.produced = .factoryResetRequest →
      ∃ early arm between, past = early ++ arm :: between ∧
        arm.handled = [.longPress] ∧ confirm.handled = [.longPress] ∧
        List.Sublist [.release, .press] (handledBy between) ∧ .shortPress ∉ handledBy between ∧
        arm.before.time ≤ confirm.before.time ∧ confirm.before.time ≤ arm.before.time + 10000 ∧
        ∀ u ∈ arm :: between ++ [confirm], u.before.OnReset) ∧
    (∀ past take rest, turns = past ++ take :: rest → take.call = .takeEditorAction →
      take.before.controller.takeEditorAction.2 = .factoryResetRequest →
      ∃ early request between, past = early ++ request :: between ∧ request.produced = .factoryResetRequest ∧
        ∀ u ∈ between, u.call ≠ .takeEditorAction) ∧
    (∀ t ∈ turns, t.after.controller.currentSettings = t.before.controller.currentSettings ∨
      t.call = .setCurrentSettings t.after.controller.currentSettings) ∧
    ∀ t ∈ turns, t.before.controller.editorActive = true → t.after.controller.editorActive = false →
      (t.handled = [.longPress] ∧ t.before.controller.selectedEditorItem = .save) ∨
        t.after.controller.draftSettings = t.after.controller.currentSettings :=
  ⟨by decide +kernel,
    factory_reset_needs_two_presses 30 1000 3000 (by decide) (by decide) 0 30000 100 1000 0 (isRun_play _ _)⟩

end Redline.DeviceUi
