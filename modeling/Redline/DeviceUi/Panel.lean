import Redline.DeviceUi.Modes
import Redline.Lib.Run

/-!
# The panel

The button and the controller of the display on one clock.  Time goes on in steps of less than `2 ^ 31` milliseconds,
and the controller is updated at each of them; at one time the button is sampled, what it reports is handled one event
after the other, and the settings, the screen and the drawing change in any order.

`kind_of_steps` says what a turn of the panel can do, and `presses_between` what the button must have reported between two
long presses: it was let go and pressed again.
-/

namespace Redline.DeviceUi

open Redline.Input Redline.DeviceSettings Redline.Lib

/-! ### Turns -/

/-- The button and the controller, the events that have been reported and not been handled yet, the time, and whether
the controller has been updated at this time. -/
structure Panel where
  button : Button
  controller : Controller
  queue : List ButtonEvent
  time : ℕ
  updated : Bool
  deriving DecidableEq

inductive PanelCall
  | tick (time : ℕ)
  | sample (pressed : Bool)
  | handle
  | update
  | takeEditorAction
  | setCurrentSettings (settings : Settings)
  | setInactivityTimeoutMs (timeoutMs nowMs : UInt32)
  | selectConfiguredScreen (screen : Screen)
  | markDirty
  | recordRendered (nowMs : UInt32)
  deriving DecidableEq

namespace Panel

def make (button : Button) (controller : Controller) (time : ℕ) : Panel := ⟨button, controller, [], time, true⟩

/-- The clock of the device. -/
def nowMs (p : Panel) : UInt32 := p.time.toUInt32

/-- The panel after a call, if the call is possible. -/
def call (p : Panel) : PanelCall → Option Panel
  | .tick time =>
    if p.updated ∧ p.time ≤ time ∧ time < p.time + 0x80000000 then some { p with time, updated := false } else none
  | .sample pressed =>
    let (button, events) := p.button.update ⟨pressed, p.nowMs⟩
    some { p with button, queue := p.queue ++ [events.first, events.second] }
  | .handle =>
    match p.queue with
    | [] => none
    | event :: queue => some { p with controller := p.controller.handle event p.nowMs, queue }
  | .update => some { p with controller := (p.controller.update p.nowMs).1, updated := true }
  | .takeEditorAction => some { p with controller := p.controller.takeEditorAction.1 }
  | .setCurrentSettings settings => some { p with controller := p.controller.setCurrentSettings settings }
  | .setInactivityTimeoutMs timeoutMs nowMs =>
    some { p with controller := p.controller.setInactivityTimeoutMs timeoutMs nowMs }
  | .selectConfiguredScreen screen => some { p with controller := p.controller.selectConfiguredScreen screen }
  | .markDirty => some { p with controller := p.controller.markDirty }
  | .recordRendered nowMs => some { p with controller := p.controller.recordRendered nowMs }

end Panel

structure PanelTurn where
  before : Panel
  call : PanelCall
  after : Panel

def panel : System Panel PanelTurn where
  before := PanelTurn.before
  after := PanelTurn.after
  Steps t := t.before.call t.call = some t.after

namespace PanelTurn

/-- The event that the turn handles. -/
def handled (t : PanelTurn) : List ButtonEvent :=
  match t.call, t.before.queue with
  | .handle, event :: _ => [event]
  | _, _ => []

/-- The action that the turn produces. -/
def produced (t : PanelTurn) : EditorAction :=
  match t.call, t.before.queue with
  | .handle, event :: _ => t.before.controller.produces event t.before.nowMs
  | _, _ => .none

end PanelTurn

def handledBy (turns : List PanelTurn) : List ButtonEvent := turns.flatMap PanelTurn.handled

/-! ### What a turn can do -/

/-- What may be said of the calls that neither handle an event nor update. -/
structure Controller.Adjusts (call : PanelCall) (c c' : Controller) : Prop where
  mode : c'.mode = c.mode
  consistent : c.Consistent → c'.Consistent
  editorActive : c'.editorActive = c.editorActive
  pendingEditorAction : c'.pendingEditorAction = if call = .takeEditorAction then .none else c.pendingEditorAction
  currentSettings : c'.currentSettings = c.currentSettings ∨ call = .setCurrentSettings c'.currentSettings

/-- What a turn of the panel can do. -/
inductive PanelTurn.Kind (t : PanelTurn) : Prop
  | tick (time : ℕ) (call : t.call = .tick time) (updated : t.before.updated = true) (later : t.before.time ≤ time)
      (soon : time < t.before.time + 0x80000000) (after : t.after = { t.before with time, updated := false })
  | sample (pressed : Bool) (call : t.call = .sample pressed)
      (after : t.after = { t.before with
        button := (t.before.button.update ⟨pressed, t.before.nowMs⟩).1
        queue := t.before.queue ++ [(t.before.button.update ⟨pressed, t.before.nowMs⟩).2.first,
          (t.before.button.update ⟨pressed, t.before.nowMs⟩).2.second] })
  | handle (event : ButtonEvent) (queue : List ButtonEvent) (call : t.call = .handle)
      (next : t.before.queue = event :: queue)
      (after : t.after = { t.before with controller := t.before.controller.handle event t.before.nowMs, queue })
  | update (call : t.call = .update)
      (after : t.after =
        { t.before with controller := (t.before.controller.update t.before.nowMs).1, updated := true })
  | adjust (controller : Controller) (other : t.call ≠ .handle) (adjusts : t.before.controller.Adjusts t.call controller)
      (after : t.after = { t.before with controller })

section Kind

variable {c c' : Controller} {t : PanelTurn} {call : PanelCall}

theorem Controller.Redraws.adjusts (h : c.Redraws c') (htake : call ≠ .takeEditorAction) : c.Adjusts call c' where
  mode := h.mode
  consistent := h.consistent
  editorActive := h.editorActive
  pendingEditorAction := by
    rw [if_neg htake]
    exact h.pendingEditorAction
  currentSettings := Or.inl h.currentSettings

theorem Controller.setCurrentSettings_adjusts (c : Controller) (settings : Settings) :
    c.Adjusts (.setCurrentSettings settings) (c.setCurrentSettings settings) := by
  unfold Controller.setCurrentSettings
  dsimp only
  split
  · exact ⟨rfl, fun hc => ⟨hc.awake, hc.heard, hc.armed⟩, rfl, rfl, Or.inr rfl⟩
  · exact ⟨rfl, fun hc => ⟨hc.awake, hc.heard, hc.armed⟩, rfl, rfl, Or.inr rfl⟩

/-- **A turn does one of these things.** -/
theorem kind_of_steps (h : panel.Steps t) : t.Kind := by
  obtain ⟨before, call, after⟩ := t
  change before.call call = some after at h
  cases call with
  | tick time =>
    simp only [Panel.call] at h
    split at h
    · rename_i hguard
      obtain ⟨hupdated, hlater, hsoon⟩ := hguard
      exact .tick time rfl hupdated hlater hsoon (Option.some.inj h).symm
    · cases h
  | sample pressed => exact .sample pressed rfl (Option.some.inj h).symm
  | handle =>
    simp only [Panel.call] at h
    split at h
    · cases h
    · rename_i event queue hqueue
      exact .handle event queue rfl hqueue (Option.some.inj h).symm
  | update => exact .update rfl (Option.some.inj h).symm
  | takeEditorAction =>
    exact .adjust before.controller.takeEditorAction.1 nofun
      ⟨rfl, fun hc => ⟨hc.awake, hc.heard, hc.armed⟩, rfl, rfl, Or.inl rfl⟩ (Option.some.inj h).symm
  | setCurrentSettings settings =>
    exact .adjust _ nofun (Controller.setCurrentSettings_adjusts _ settings) (Option.some.inj h).symm
  | setInactivityTimeoutMs timeoutMs nowMs =>
    exact .adjust _ nofun (Controller.Redraws.adjusts {} nofun) (Option.some.inj h).symm
  | selectConfiguredScreen screen =>
    exact .adjust _ nofun ((Controller.redraws_selectConfiguredScreen _ screen).adjusts nofun) (Option.some.inj h).symm
  | markDirty =>
    exact .adjust _ nofun ((Controller.redraws_invalidate _).adjusts nofun) (Option.some.inj h).symm
  | recordRendered nowMs =>
    exact .adjust _ nofun ((Controller.redraws_recordRendered _ nowMs).adjusts nofun) (Option.some.inj h).symm

end Kind

/-! ### Presses -/

/-- The phase after an event, as long as the events are those of gestures. -/
def follow : Phase → ButtonEvent → Option Phase
  | phase, .none => some phase
  | .up, .press => some .down
  | .up, .shortPress => some .up
  | .down, .longPress => some .long
  | .long, .veryLongPress => some .veryLong
  | .down, .release | .long, .release | .veryLong, .release => some .up
  | _, _ => none

section Follow

variable {phase phase' : Phase} {events past between queue : List ButtonEvent}

theorem follow_emits (h : Emits phase events phase') : events.foldlM follow phase = some phase' := by
  cases h <;> rfl

/-- A slot without an event is passed over. -/
theorem follow_filter (phase : Phase) (events : List ButtonEvent) :
    (events.filter (· ≠ .none)).foldlM follow phase = events.foldlM follow phase := by
  induction events generalizing phase with
  | nil => rfl
  | cons event events ih =>
    by_cases hnone : event = .none
    · subst hnone
      exact ih phase
    · rw [List.filter_cons_of_pos (by simpa using hnone), List.foldlM_cons, List.foldlM_cons]
      exact congrArg _ (funext ih)

theorem press_mem (h : (between ++ .longPress :: queue).foldlM follow .up ≠ none) : .press ∈ between := by
  induction between with
  | nil => exact absurd rfl h
  | cons event between ih =>
    cases event with
    | press => exact List.mem_cons_self
    | none | shortPress => exact List.mem_cons_of_mem _ (ih h)
    | release | longPress | veryLongPress => exact absurd rfl h

/-- From a long press on, the next one needs a release and a press. -/
theorem sublist_of_held (hheld : phase = .long ∨ phase = .veryLong)
    (h : (between ++ .longPress :: queue).foldlM follow phase ≠ none) : List.Sublist [.release, .press] between := by
  induction between generalizing phase with
  | nil => rcases hheld with rfl | rfl <;> exact absurd rfl h
  | cons event between ih =>
    cases event with
    | release =>
      have hup : (between ++ .longPress :: queue).foldlM follow .up ≠ none := by
        rcases hheld with rfl | rfl <;> exact h
      exact (List.singleton_sublist.2 (press_mem hup)).cons_cons _
    | none => exact (ih hheld (by rcases hheld with rfl | rfl <;> exact h)).cons _
    | veryLongPress =>
      rcases hheld with rfl | rfl
      · exact (ih (Or.inr rfl) h).cons _
      · exact absurd rfl h
    | press | shortPress | longPress => rcases hheld with rfl | rfl <;> exact absurd rfl h

/-- **Between two long presses the button is let go and pressed again.** -/
theorem presses_between
    (h : (past ++ .longPress :: between ++ .longPress :: queue).foldlM follow .up = some phase) :
    List.Sublist [.release, .press] between := by
  rw [List.append_assoc, List.foldlM_append, List.cons_append] at h
  obtain ⟨reached, -, h⟩ := Option.bind_eq_some_iff.1 h
  rw [List.foldlM_cons] at h
  obtain ⟨held, hheld, h⟩ := Option.bind_eq_some_iff.1 h
  have hlong : held = .long := by
    cases reached <;> cases hheld
    rfl
  exact sublist_of_held (Or.inl hlong) (by rw [h]; exact Option.some_ne_none _)

end Follow

end Redline.DeviceUi
