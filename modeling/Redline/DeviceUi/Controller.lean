import Redline.DeviceSettings.Record
import Redline.Input.Button

/-!
# The controller of the display

`DeviceUi::Controller`: which screen is shown and whether the display is on, when it is drawn again, and the editor of
the settings with its draft, its selected item and the two presses of a factory reset.
-/

namespace Redline.DeviceUi

open Redline.Input Redline.DeviceSettings

inductive Screen
  | home | radio | device | lastPacket | diagnostics | about | eventDiagnostics
  deriving DecidableEq

def isLiveScreen (screen : Screen) : Bool :=
  screen = .radio || screen = .lastPacket || screen = .diagnostics || screen = .eventDiagnostics

inductive UiAction
  | none | render | displayOn | displayOnAndRender | displayOff
  deriving DecidableEq

inductive EditorAction
  | none | saveSettingsRequest | factoryResetRequest
  deriving DecidableEq

inductive EditorItem
  | displayTimeout | displayContrast | ledEnabled | diagnosticsEnabled | defaultScreen | buttonFeedback
  | save | cancel | factoryReset
  deriving DecidableEq

def resetConfirmationTimeoutMs : UInt32 := 10000

structure Controller where
  inactivityTimeoutMs : UInt32
  minimumRenderIntervalMs : UInt32
  liveRefreshIntervalMs : UInt32
  screen : Screen
  displayAwake : Bool
  dirty : Bool
  renderPending : Bool
  dirtyWhileRenderPending : Bool
  displayOnPending : Bool
  suppressWakeGesture : Bool
  wakeGestureWasLong : Bool
  hasRendered : Bool
  lastInputAtMs : UInt32
  lastRenderAtMs : UInt32
  lastLiveRefreshAtMs : UInt32
  currentSettings : Settings
  draftSettings : Settings
  selectedEditorItem : EditorItem
  pendingEditorAction : EditorAction
  editorActive : Bool
  resetArmed : Bool
  resetArmedAtMs : UInt32
  deriving DecidableEq

def Controller.make (initialTimeMs inactivityTimeoutMs minimumRenderIntervalMs liveRefreshIntervalMs : UInt32) :
    Controller where
  inactivityTimeoutMs := inactivityTimeoutMs
  minimumRenderIntervalMs := minimumRenderIntervalMs
  liveRefreshIntervalMs := liveRefreshIntervalMs
  screen := .home
  displayAwake := true
  dirty := true
  renderPending := false
  dirtyWhileRenderPending := false
  displayOnPending := false
  suppressWakeGesture := false
  wakeGestureWasLong := false
  hasRendered := false
  lastInputAtMs := initialTimeMs
  lastRenderAtMs := 0
  lastLiveRefreshAtMs := initialTimeMs
  currentSettings := defaults
  draftSettings := defaults
  selectedEditorItem := .displayTimeout
  pendingEditorAction := .none
  editorActive := false
  resetArmed := false
  resetArmedAtMs := 0

def nextScreen : Screen → Screen
  | .home => .eventDiagnostics
  | .eventDiagnostics => .radio
  | .radio => .device
  | .device => .lastPacket
  | .lastPacket => .diagnostics
  | .diagnostics => .about
  | .about => .home

/-- The items in their order, round and round. -/
def nextEditorItem : EditorItem → EditorItem
  | .displayTimeout => .displayContrast
  | .displayContrast => .ledEnabled
  | .ledEnabled => .diagnosticsEnabled
  | .diagnosticsEnabled => .defaultScreen
  | .defaultScreen => .buttonFeedback
  | .buttonFeedback => .save
  | .save => .cancel
  | .cancel => .factoryReset
  | .factoryReset => .displayTimeout

/-- The first preset above the value, or else the first of all. -/
def nextPreset {α : Type} [LT α] [DecidableLT α] (current : α) (first : α) (rest : List α) : α :=
  ((first :: rest).find? fun preset => current < preset).getD first

def nextDefaultScreen (screen : DefaultScreen) : DefaultScreen :=
  let next := screen + 1
  if next > DefaultScreen.about then DefaultScreen.home else next

namespace Controller

/-! ### The calls of the source -/

def invalidate (c : Controller) : Controller :=
  let c := { c with dirty := true }
  if c.renderPending then { c with dirtyWhileRenderPending := true } else c

def beginRenderRequest (c : Controller) : Controller :=
  { c with renderPending := true, dirtyWhileRenderPending := false }

def setCurrentSettings (c : Controller) (settings : Settings) : Controller :=
  let c := { c with currentSettings := settings }
  if !c.editorActive then { c with draftSettings := settings } else c

def setInactivityTimeoutMs (c : Controller) (timeoutMs nowMs : UInt32) : Controller :=
  { c with inactivityTimeoutMs := timeoutMs, lastInputAtMs := nowMs }

def selectConfiguredScreen (c : Controller) (screen : Screen) : Controller :=
  if c.screen ≠ screen then { c with screen := screen }.invalidate else c

def markDirty (c : Controller) : Controller := c.invalidate

def takeEditorAction (c : Controller) : Controller × EditorAction :=
  ({ c with pendingEditorAction := .none }, c.pendingEditorAction)

def enterEditor (c : Controller) (nowMs : UInt32) : Controller :=
  { c with
    editorActive := true, draftSettings := c.currentSettings, selectedEditorItem := .displayTimeout
    resetArmed := false, lastInputAtMs := nowMs }.invalidate

def exitEditor (c : Controller) (retainDraft : Bool) : Controller :=
  let c := { c with editorActive := false, resetArmed := false, selectedEditorItem := .displayTimeout }
  (if !retainDraft then { c with draftSettings := c.currentSettings } else c).invalidate

def advanceSelectedSetting (c : Controller) : Controller :=
  let draft := c.draftSettings
  match c.selectedEditorItem with
  | .displayTimeout =>
    { c with draftSettings :=
      { draft with displayTimeoutSeconds := nextPreset draft.displayTimeoutSeconds 0 [15, 30, 60, 120, 300, 600] } }
  | .displayContrast =>
    { c with draftSettings := { draft with displayContrast := nextPreset draft.displayContrast 32 [64, 128, 207, 255] } }
  | .ledEnabled => { c with draftSettings := { draft with ledEnabled := !draft.ledEnabled } }
  | .diagnosticsEnabled => { c with draftSettings := { draft with diagnosticsEnabled := !draft.diagnosticsEnabled } }
  | .defaultScreen => { c with draftSettings := { draft with defaultScreen := nextDefaultScreen draft.defaultScreen } }
  | .buttonFeedback =>
    { c with draftSettings := { draft with buttonFeedbackEnabled := !draft.buttonFeedbackEnabled } }
  | .save | .cancel | .factoryReset => c

def activateEditorItem (c : Controller) (nowMs : UInt32) : Controller :=
  if c.selectedEditorItem = .save then { c with pendingEditorAction := .saveSettingsRequest }.exitEditor true
  else if c.selectedEditorItem = .cancel then c.exitEditor false
  else if c.selectedEditorItem = .factoryReset then
    if c.resetArmed && elapsed nowMs c.resetArmedAtMs ≤ resetConfirmationTimeoutMs then
      { c with pendingEditorAction := .factoryResetRequest }.exitEditor false
    else { c with resetArmed := true, resetArmedAtMs := nowMs }.invalidate
  else { c with resetArmed := false }.advanceSelectedSetting.invalidate

def handleEditor (c : Controller) (event : ButtonEvent) (nowMs : UInt32) : Controller :=
  match event with
  | .press => { c with lastInputAtMs := nowMs }
  | .shortPress =>
    { c with
      selectedEditorItem := nextEditorItem c.selectedEditorItem, resetArmed := false, lastInputAtMs := nowMs }.invalidate
  | .longPress => { c with lastInputAtMs := nowMs }.activateEditorItem nowMs
  | .none | .release | .veryLongPress => c

def handleSuppressedWakeGesture (c : Controller) (event : ButtonEvent) : Controller :=
  if event = .longPress ∨ event = .veryLongPress then { c with wakeGestureWasLong := true }
  else if event = .shortPress then { c with suppressWakeGesture := false }
  else if event = .release ∧ c.wakeGestureWasLong = true then { c with suppressWakeGesture := false }
  else c

def handle (c : Controller) (event : ButtonEvent) (nowMs : UInt32) : Controller :=
  if !c.displayAwake then
    if event = .press then
      { c with
        displayAwake := true, displayOnPending := true, suppressWakeGesture := true, wakeGestureWasLong := false
        lastInputAtMs := nowMs }.invalidate
    else c
  else if c.suppressWakeGesture then c.handleSuppressedWakeGesture event
  else if c.editorActive then c.handleEditor event nowMs
  else
    match event with
    | .press => { c with lastInputAtMs := nowMs }
    | .shortPress => { c with screen := nextScreen c.screen, lastInputAtMs := nowMs }.invalidate
    | .longPress =>
      let c := { c with lastInputAtMs := nowMs }
      if c.screen ≠ .home then { c with screen := .home }.invalidate else c
    | .veryLongPress => c.enterEditor nowMs
    | .none | .release => c

/-- The display goes off, and nothing is left to draw. -/
def switchOff (c : Controller) : Controller :=
  { c with displayAwake := false, displayOnPending := false, renderPending := false, dirtyWhileRenderPending := false }

/-- What `update` draws on a display that is on. -/
def updateDisplay (c : Controller) (nowMs : UInt32) : Controller × UiAction :=
  let c :=
    if !c.dirty && !c.editorActive && isLiveScreen c.screen &&
        elapsed nowMs c.lastLiveRefreshAtMs ≥ c.liveRefreshIntervalMs then c.invalidate
    else c
  let renderEligible := !c.hasRendered || elapsed nowMs c.lastRenderAtMs ≥ c.minimumRenderIntervalMs
  if c.displayOnPending then
    let c := { c with displayOnPending := false }
    if c.dirty && !c.renderPending && renderEligible then (c.beginRenderRequest, .displayOnAndRender)
    else (c, .displayOn)
  else if c.dirty && !c.renderPending && renderEligible then (c.beginRenderRequest, .render)
  else (c, .none)

/-- An armed reset that nobody has confirmed in time is disarmed. -/
def expireReset (c : Controller) (nowMs : UInt32) : Controller :=
  if c.resetArmed && elapsed nowMs c.resetArmedAtMs > resetConfirmationTimeoutMs then
    { c with resetArmed := false }.invalidate
  else c

def update (c : Controller) (nowMs : UInt32) : Controller × UiAction :=
  let editorTimeoutMs := c.currentSettings.displayTimeoutSeconds.toUInt32 * 1000
  if c.editorActive && editorTimeoutMs != 0 && elapsed nowMs c.lastInputAtMs ≥ editorTimeoutMs then
    ((c.exitEditor false).switchOff, .displayOff)
  else
    let c := if c.editorActive then c.expireReset nowMs else c
    if !c.editorActive && c.displayAwake && c.inactivityTimeoutMs != 0 &&
        elapsed nowMs c.lastInputAtMs ≥ c.inactivityTimeoutMs then (c.switchOff, .displayOff)
    else if !c.displayAwake then (c, .none)
    else c.updateDisplay nowMs

def recordRendered (c : Controller) (nowMs : UInt32) : Controller :=
  if !c.renderPending then c
  else
    let c :=
      { c with
        renderPending := false, dirty := c.dirtyWhileRenderPending, dirtyWhileRenderPending := false
        hasRendered := true, lastRenderAtMs := nowMs }
    if !c.editorActive && isLiveScreen c.screen then { c with lastLiveRefreshAtMs := nowMs } else c

end Controller

end Redline.DeviceUi
