import Redline.DeviceSettings.Atomicity
import Redline.DeviceUi.Modes
import Redline.Node.MainLoop
import Redline.Lib.Run

/-!
# The settings in the firmware

`settings_integration.h` and what both `main.cpp` make of it: the settings are loaded at the start, edited on the
display, and saved or reset when a request is served at a safe point.  The two roles do the same, and differ in when a
safe point is reached only (`persistenceSafe`, `quietMaintenanceAllowed`).

A device is its RAM, as long as it has power, and its storage.  Power may be lost between two calls and in any call of
the store, and any call of the store may fail.
-/

namespace Redline.DeviceSettings

open Redline.Wire Redline.Records Redline.Lib Redline.Input Redline.DeviceUi SettingsManager
open Redline.Node (SettingsRequest)

/-! ### The state of the configuration -/

inductive ConfigurationSource
  | none | defaults | slotA | slotB
  deriving DecidableEq

inductive ConfigurationStatus
  | notSupplied | loaded | defaulted | fallback | repaired | unsupported | unavailable | resetCompleted | saved
  | unchanged | saveFailed | resetFailed
  deriving DecidableEq

structure ConfigurationState where
  status : ConfigurationStatus := .notSupplied
  source : ConfigurationSource := .defaults
  generationAvailable : Bool := false
  generation : UInt32 := 0
  repairPending : Bool := false
  unsupportedPreserved : Bool := false
  deriving DecidableEq

def source (m : SettingsManager) : ConfigurationSource :=
  if !m.hasActiveSlot then .defaults else if m.activeSlot = .A then .slotA else .slotB

def snapshot (m : SettingsManager) : ConfigurationState where
  source := source m
  generationAvailable := m.hasActiveSlot
  generation := m.generation
  repairPending := m.repairPending
  unsupportedPreserved := m.unsupportedSchema

def fromLoad (result : LoadStatus) (m : SettingsManager) : ConfigurationState :=
  let state := snapshot m
  match result with
  | .loaded => { state with status := .loaded }
  | .loadedFallbackSlot => { state with status := .fallback }
  | .repairedSchema1 => { state with status := .repaired }
  | .defaultedMissing | .defaultedCorrupt => { state with status := .defaulted }
  | .unsupportedSchema => { state with status := .unsupported, unsupportedPreserved := true }
  | .storageUnavailable => { state with status := .unavailable }
  | .resetCompleted => { state with status := .resetCompleted }
  | .resetRecoveryFailed => { state with status := .resetFailed }

def fromSave (result : SaveStatus) (m : SettingsManager) : ConfigurationState :=
  let state := snapshot m
  match result with
  | .saved | .repairedSaved => { state with status := .saved }
  | .unchanged | .repairedUnchanged => { state with status := .unchanged }
  | .unsupportedSchema => { state with status := .unsupported, unsupportedPreserved := true }
  | .storageUnavailable | .writeFailed | .readBackFailed | .verificationFailed => { state with status := .saveFailed }

def fromReset (result : ResetResult) (m : SettingsManager) : ConfigurationState :=
  { snapshot m with status := if result = .resetCompleted then .resetCompleted else .resetFailed }

def timeoutMs (settings : Settings) : UInt32 := settings.displayTimeoutSeconds.toUInt32 * 1000

def screen (value : DefaultScreen) : Screen :=
  if value = DefaultScreen.radio then .radio
  else if value = DefaultScreen.device then .device
  else if value = DefaultScreen.lastPacket then .lastPacket
  else if value = DefaultScreen.diagnostics then .diagnostics
  else if value = DefaultScreen.about then .about
  else .home

/-! ### The requests -/

structure RequestQueue where
  pending : SettingsRequest := .none
  saveDraft : Settings := defaults
  deriving DecidableEq

namespace RequestQueue

def queueAutomaticRepair (q : RequestQueue) : RequestQueue :=
  if q.pending = .none then { pending := .automaticRepair, saveDraft := defaults } else q

def queueSave (q : RequestQueue) (draft : Settings) : RequestQueue :=
  if q.pending = .factoryReset then q else { pending := .save, saveDraft := draft }

def queueFactoryReset (_ : RequestQueue) : RequestQueue := { pending := .factoryReset, saveDraft := defaults }

def clear (_ : RequestQueue) : RequestQueue := { pending := .none, saveDraft := defaults }

end RequestQueue

/-! ### The calls of the firmware -/

/-- The globals of `main.cpp` that hold settings. -/
structure SettingsRam where
  settingsManager : SettingsManager
  currentSettings : Settings
  configurationState : ConfigurationState
  persistenceRequests : RequestQueue
  uiController : Controller

namespace SettingsRam

def initial : SettingsRam where
  settingsManager := SettingsManager.initial
  currentSettings := defaults
  configurationState := {}
  persistenceRequests := {}
  uiController := Controller.make 0 30000 100 1000

def markPresentationChanged (s : SettingsRam) : SettingsRam := { s with uiController := s.uiController.markDirty }

def applyCurrentSettings (s : SettingsRam) (nowMs : UInt32) (applyDefaultScreen : Bool) : SettingsRam :=
  let ui := s.uiController.setCurrentSettings s.currentSettings
  let ui := ui.setInactivityTimeoutMs (timeoutMs s.currentSettings) nowMs
  let ui := if applyDefaultScreen then ui.selectConfiguredScreen (screen s.currentSettings.defaultScreen) else ui
  { s with uiController := ui }.markPresentationChanged

def loadSettings (s : SettingsRam) (nowMs : UInt32) : StoreM SettingsRam := do
  let (settingsManager, result) ← SettingsManager.load
  let s := { s with settingsManager, currentSettings := settingsManager.settings
                    configurationState := fromLoad result settingsManager }
  let s := s.applyCurrentSettings nowMs true
  return if settingsManager.repairPending then
    { s with persistenceRequests := s.persistenceRequests.queueAutomaticRepair } else s

def queueEditorAction (s : SettingsRam) : SettingsRam :=
  let (uiController, action) := s.uiController.takeEditorAction
  let s := { s with uiController }
  match action with
  | .saveSettingsRequest =>
    { s with persistenceRequests := s.persistenceRequests.queueSave s.uiController.draftSettings }
  | .factoryResetRequest => { s with persistenceRequests := s.persistenceRequests.queueFactoryReset }
  | .none => s

/-- The events that the button has reported, and the action of the editor. -/
def serviceButton (s : SettingsRam) (first second : ButtonEvent) (nowMs : UInt32) : SettingsRam :=
  { s with uiController := (s.uiController.handle first nowMs).handle second nowMs }.queueEditorAction

def serviceUi (s : SettingsRam) (nowMs : UInt32) : SettingsRam :=
  let (uiController, action) := s.uiController.update nowMs
  match action with
  | .render | .displayOnAndRender => { s with uiController := uiController.recordRendered nowMs }
  | _ => { s with uiController }

/-- `servicePersistence` of the Hub and `servicePendingPersistence` of the Node, at what is a safe point or not. -/
def servicePersistence (s : SettingsRam) (safe : Bool) (nowMs : UInt32) : StoreM SettingsRam := do
  if s.persistenceRequests.pending = .none ∨ !safe then return s
  if s.persistenceRequests.pending = .factoryReset then
    let (settingsManager, result) ← s.settingsManager.factoryReset
    let s := { s with settingsManager, configurationState := fromReset result settingsManager }
    let s := if result = .resetCompleted then
        { s with currentSettings := settingsManager.settings }.applyCurrentSettings nowMs true
      else s.markPresentationChanged
    return { s with persistenceRequests := s.persistenceRequests.clear }
  let candidate := if s.persistenceRequests.pending = .save then s.persistenceRequests.saveDraft else s.currentSettings
  let (settingsManager, result) ← s.settingsManager.save candidate
  let s := { s with settingsManager, configurationState := fromSave result settingsManager }
  let s := if saveSucceeded result then
      { s with currentSettings := settingsManager.settings }.applyCurrentSettings nowMs false
    else s.markPresentationChanged
  return { s with persistenceRequests := s.persistenceRequests.clear }

end SettingsRam

/-! ### The device -/

/-- A program over the store that meets the faults of a script and may lose power in one of its calls. -/
def executeStore {α : Type} (p : StoreM α) (script : List Fault) (stop : Option ℕ) (st : Storage) : Option α × Storage :=
  match stop with
  | none => (some (perform Storage.meets .none p script st).1, (perform Storage.meets .none p script st).2)
  | some n => interrupt Storage.meets .none p script n st

/-- What always holds, holds of every execution. -/
theorem execute_of_ensures {α : Type} {allowed : Fault → Prop} {p : StoreM α} {Q : α → Storage → Prop}
    {C : Storage → Prop} {st : Storage} (h : Ensures allowed st p Q C) (script : List Fault) (stop : Option ℕ)
    (hscript : ∀ f ∈ script, allowed f) :
    match executeStore p script stop st with
    | (some a, st') => Q a st'
    | (none, st') => C st' := by
  cases stop with
  | none => exact always_perform h script hscript
  | some n =>
    have hn := Prog.wp_runFor (h script hscript) n
    simp only [executeStore, interrupt]
    cases hrun : p.runFor (scripted Storage.meets .none) n (st, script) with
    | mk value t =>
      rw [hrun] at hn
      cases value with
      | none => exact hn
      | some a => exact hn

/-- The RAM, as long as there is power, and the storage. -/
structure SettingsDevice where
  ram : Option SettingsRam
  storage : Storage

/-- What happens to a device.  `safe`: the safe point of the role has been reached.  `stop`: the number of calls of the
store before power is lost. -/
inductive DeviceAction
  | boot (nowMs : UInt32) (faults : List Fault) (stop : Option ℕ)
  | powerLoss
  | button (first second : ButtonEvent) (nowMs : UInt32)
  | ui (nowMs : UInt32)
  | changed
  | persistence (safe : Bool) (nowMs : UInt32) (faults : List Fault) (stop : Option ℕ)

namespace SettingsDevice

/-- A call of the RAM on the storage. -/
def onStore (d : SettingsDevice) (p : StoreM SettingsRam) (faults : List Fault) (stop : Option ℕ) : SettingsDevice :=
  let r := executeStore p faults stop d.storage
  ⟨r.1, r.2⟩

def step (d : SettingsDevice) : DeviceAction → SettingsDevice
  | .boot nowMs faults stop => d.onStore (SettingsRam.initial.loadSettings nowMs) faults stop
  | .powerLoss => { d with ram := none }
  | .button first second nowMs => { d with ram := d.ram.map fun s => s.serviceButton first second nowMs }
  | .ui nowMs => { d with ram := d.ram.map fun s => s.serviceUi nowMs }
  | .changed => { d with ram := d.ram.map SettingsRam.markPresentationChanged }
  | .persistence safe nowMs faults stop =>
    match d.ram with
    | none => d
    | some s => d.onStore (s.servicePersistence safe nowMs) faults stop

end SettingsDevice

end Redline.DeviceSettings
