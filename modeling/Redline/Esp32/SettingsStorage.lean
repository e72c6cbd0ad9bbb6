import Redline.Esp32.EventStorage
import Redline.DeviceSettings.Integration

/-!
# The settings storage of the firmware

`esp32_settings_storage.cpp`: the two slots and the marker of a pending factory reset over the `Preferences` library,
under three keys of the namespace `redline`.

The settings manager has been modelled over the store of `Storage.meets`.  `settingsStorage_refines` says that the
adapter is such a store, on every library that is as documented, under every script of library failures and with power
lost in any library call, and that it leaves the keys of others alone; those of the Event storage are in another
namespace (`settings_foreign`).
-/

namespace Redline.Esp32.Settings

open Redline.Wire Redline.Lib Redline.Lib.Preferences Redline.DeviceSettings

/-- `NAMESPACE`. -/
def settingsNamespace : String := "redline"

/-- `RESET_MARKER_KEY`. -/
def resetMarkerKey : String := "rst_pend"

def slotKey : RecordSlot → String
  | .A => "cfg_a"
  | .B => "cfg_b"

def classifySlotMetadata (isBlob : Bool) (storedLength : ℕ) : StoreResult :=
  if isBlob ∧ storedLength = recordSize then .ok else .malformed

def classifyNamespaceOpen : OpenResult → StoreResult
  | .ok => .ok
  | .notFound => .missing
  | .failed => .unavailable

def probeNamespaceForRead : PreferencesM StoreResult := do
  let openResult ← nvsOpen settingsNamespace
  if openResult = .ok then
    nvsClose
    return classifyNamespaceOpen openResult
  return classifyNamespaceOpen openResult

def removeKey (key : String) : PreferencesM StoreResult := do
  if !(← beginNamespace settingsNamespace false) then return .unavailable
  if !(← isKey key) then
    endNamespace
    return .missing
  let removed ← Preferences.removeKey key
  endNamespace
  return if removed then .ok else .error

def readSlot (slot : RecordSlot) (capacity : ℕ) : PreferencesM SlotReply := do
  if capacity < recordSize then return ⟨.error, []⟩
  let probe ← probeNamespaceForRead
  if probe ≠ .ok then return ⟨probe, []⟩
  if !(← beginNamespace settingsNamespace true) then return ⟨.unavailable, []⟩
  if !(← isKey (slotKey slot)) then
    endNamespace
    return ⟨.missing, []⟩
  let metadataResult := classifySlotMetadata ((← getType (slotKey slot)) = .blob) (← getBytesLength (slotKey slot))
  if metadataResult ≠ .ok then
    endNamespace
    return ⟨metadataResult, []⟩
  let bytes ← getBytes (slotKey slot) recordSize
  endNamespace
  if bytes.length ≠ recordSize then return ⟨.error, []⟩
  return ⟨.ok, bytes⟩

def writeSlot (slot : RecordSlot) (input : Bytes) : PreferencesM StoreResult := do
  if input.length ≠ recordSize then return .error
  if !(← beginNamespace settingsNamespace false) then return .unavailable
  let count ← putBytes (slotKey slot) input
  endNamespace
  return if count = recordSize then .ok else .error

def removeSlot (slot : RecordSlot) : PreferencesM StoreResult := removeKey (slotKey slot)

def readResetMarker : PreferencesM MarkerReply := do
  let probe ← probeNamespaceForRead
  if probe ≠ .ok then return ⟨probe, false⟩
  if !(← beginNamespace settingsNamespace true) then return ⟨.unavailable, false⟩
  if !(← isKey resetMarkerKey) then
    endNamespace
    return ⟨.missing, false⟩
  if (← getType resetMarkerKey) ≠ .uchar then
    endNamespace
    return ⟨.error, false⟩
  let stored ← getUChar resetMarkerKey 0xFF
  endNamespace
  if 1 < stored then return ⟨.error, false⟩
  return ⟨.ok, stored == 1⟩

def writeResetMarker (pending : Bool) : PreferencesM StoreResult := do
  if !(← beginNamespace settingsNamespace false) then return .unavailable
  let count ← putBool resetMarkerKey pending
  endNamespace
  return if count = 1 then .ok else .error

def removeResetMarker : PreferencesM StoreResult := removeKey resetMarkerKey

/-- `PreferencesRecordStore`, called with the buffers of the settings manager. -/
def store : (op : StoreOp) → PreferencesM op.Reply
  | .readSlot slot => readSlot slot recordSize
  | .writeSlot slot bytes => writeSlot slot bytes
  | .removeSlot slot => removeSlot slot
  | .readResetMarker => readResetMarker
  | .writeResetMarker pending => writeResetMarker pending
  | .removeResetMarker => removeResetMarker

/-! ### What the chip stores -/

def slotCell (slot : RecordSlot) : Cell := (settingsNamespace, slotKey slot)
def markerCell : Cell := (settingsNamespace, resetMarkerKey)

/-- What is stored under the key of the marker. -/
def marker : Option Entry → Marker
  | none => .missing
  | some (.uchar value) => if value = 0 then .clear else if value = 1 then .pending else .malformed
  | _ => .malformed

/-- What the flash of the chip is to the settings manager. -/
def storage (flash : Flash) : Storage where
  slots slot := (flash.entry (slotCell slot)).map Entry.bytes
  marker := marker (flash.entry markerCell)

section Storage

variable {flash flash' : Flash} {content : Option Entry}

theorem slotCell_injective : Function.Injective slotCell := by
  intro slot slot' h
  cases slot <;> cases slot' <;> first | rfl | exact absurd h (by decide)

theorem slotCell_ne_markerCell (slot : RecordSlot) : slotCell slot ≠ markerCell := by
  cases slot <;> decide

/-- A new value under the key of a slot. -/
theorem storage_slot {slot : RecordSlot} (h : flash'.entry = Function.update flash.entry (slotCell slot) content) :
    storage flash' = (storage flash).setSlot slot (content.map Entry.bytes) := by
  have hmarker : flash'.entry markerCell = flash.entry markerCell := by
    rw [h, Function.update_of_ne (slotCell_ne_markerCell slot).symm]
  have hslots : (storage flash').slots = Function.update (storage flash).slots slot (content.map Entry.bytes) := by
    funext slot'
    by_cases hslot : slot' = slot
    · subst hslot
      simp [storage, h]
    · have hcell : slotCell slot' ≠ slotCell slot := fun hcell => hslot (slotCell_injective hcell)
      simp [storage, h, hslot, hcell]
  unfold Storage.setSlot
  rw [← hslots]
  simp only [storage, hmarker]

/-- A new value under the key of the marker. -/
theorem storage_marker (h : flash'.entry = Function.update flash.entry markerCell content) :
    storage flash' = { storage flash with marker := marker content } := by
  have hslots : ∀ slot, flash'.entry (slotCell slot) = flash.entry (slotCell slot) := by
    intro slot
    rw [h, Function.update_of_ne (slotCell_ne_markerCell slot)]
  simp only [storage, hslots, h, Function.update_self]

end Storage

/-- A cell that is none of the adapter's. -/
def Foreign (cell : Cell) : Prop := (∀ slot, cell ≠ slotCell slot) ∧ cell ≠ markerCell

/-- **The two storages are apart**: the cells of one are foreign to the other. -/
theorem settings_foreign (side : Side) :
    (∀ key cell, side.cell key = some cell → Foreign cell) ∧ (∀ slot, side.Foreign (slotCell slot)) ∧
      side.Foreign markerCell := by
  have hname : ∀ key cell, side.cell key = some cell → cell.1 = eventNamespace := by
    intro key cell hcell
    obtain ⟨name, -, rfl⟩ := Option.map_eq_some_iff.1 hcell
    rfl
  have hapart : settingsNamespace ≠ eventNamespace := by decide
  refine ⟨?_, ?_, ?_⟩
  · intro key cell hcell
    have hevent := hname key cell hcell
    constructor
    · rintro slot rfl
      exact hapart hevent
    · rintro rfl
      exact hapart hevent
  · intro slot key hcell
    exact hapart (hname key _ hcell)
  · intro key hcell
    exact hapart (hname key _ hcell)

/-- What a failed write can leave under the key of a slot is nothing that decodes, and the marker is written in one
piece. -/
structure Unreadable (bad : Cell → Entry → Bool) : Prop where
  slot : ∀ slot entry, bad (slotCell slot) entry = true → (decodeRecordWithRepair entry.bytes).isOk = false
  marker : ∀ entry, bad markerCell entry = false

/-- The slots are written at the exact size. -/
def Sized : StoreOp → Prop
  | .writeSlot _ bytes => bytes.length = recordSize
  | _ => True

/-! ### The reads -/

section Reads

variable {α : Type} {L : Library} {bad : Cell → Entry → Bool} {faults : Faults L.Fault} {C : Store → Prop}
  {flash : Flash}

/-- The end of a call, with the namespace open. -/
theorem handles_ends (hdoc : L.Documented bad) {Q : α → Store → Prop} {reply : α} {opened : Option (String × Bool)}
    (hC : C ⟨flash, none⟩) (h : Q reply ⟨flash, none⟩) :
    L.Handles faults Q C (endNamespace >>= fun _ => pure reply) ⟨flash, opened⟩ :=
  hdoc.handles_end hC (Library.handles_pure h)

/-- A key is looked for in the namespace, opened for reading.  `f` follows on a key that has been found, `absent` on a
key that has not, and `closed` where the namespace could not be opened.  A look-up that fails finds no key. -/
theorem handles_lookUp (hdoc : L.Documented bad) {key : String} {Q : α → Store → Prop} {f : Bool → PreferencesM α}
    (closed : StoreResult → α) (hC : ∀ opened, C ⟨flash, opened⟩)
    (hfound : ∀ entry, flash.entry (settingsNamespace, key) = some entry →
      L.Handles faults Q C (f true) ⟨flash, some (settingsNamespace, true)⟩)
    (habsent : flash.entry (settingsNamespace, key) = none →
      L.Handles faults Q C (f false) ⟨flash, some (settingsNamespace, true)⟩ ∧ Q (closed .missing) ⟨flash, none⟩)
    (hfail : L.MayFail faults → L.Handles faults Q C (f false) ⟨flash, some (settingsNamespace, true)⟩ ∧
      Q (closed .unavailable) ⟨flash, none⟩) :
    L.Handles faults Q C (do
      let probe ← probeNamespaceForRead
      if probe ≠ .ok then return closed probe
      if !(← beginNamespace settingsNamespace true) then return closed .unavailable
      let found ← isKey key
      f found) ⟨flash, none⟩ := by
  apply Library.handles_bind
  apply hdoc.handles_nvsOpen (hC none)
  · intro hmade
    rw [if_pos rfl]
    apply hdoc.handles_nvsClose (hC none)
    apply Library.handles_pure
    rw [if_neg (by simp [classifyNamespaceOpen])]
    apply hdoc.handles_beginRead (by decide) rfl (hC none)
    · exact hC (some (settingsNamespace, true))
    · rw [if_neg (by simp)]
      have hfind : Store.find ⟨flash, some (settingsNamespace, true)⟩ key = flash.entry (settingsNamespace, key) := rfl
      apply hdoc.handles_isKey (hC _)
      · rw [hfind]
        cases hentry : flash.entry (settingsNamespace, key) with
        | none => exact (habsent hentry).1
        | some entry => exact hfound entry hentry
      · intro hmay
        exact (hfail hmay).1
    · intro hrefused
      rw [if_pos (by simp)]
      apply Library.handles_pure
      rcases hrefused with hmay | hunmade
      · exact (hfail hmay).2
      · simp_all
  · intro hunmade
    rw [if_neg (by simp)]
    apply Library.handles_pure
    rw [if_pos (by simp [classifyNamespaceOpen])]
    exact Library.handles_pure (habsent (Flash.entry_of_unmade flash hunmade key)).2
  · intro hmay
    rw [if_neg (by simp)]
    apply Library.handles_pure
    rw [if_pos (by simp [classifyNamespaceOpen])]
    exact Library.handles_pure (hfail hmay).2

theorem handles_readSlot (hdoc : L.Documented bad) {Q : SlotReply → Store → Prop} {slot : RecordSlot}
    (hC : ∀ opened, C ⟨flash, opened⟩)
    (h : Q (slotReply ((flash.entry (slotCell slot)).map Entry.bytes)) ⟨flash, none⟩)
    (hfail : L.MayFail faults → ∀ result, result ≠ .ok → Q ⟨result, []⟩ ⟨flash, none⟩) :
    L.Handles faults Q C (readSlot slot recordSize) ⟨flash, none⟩ := by
  unfold readSlot
  rw [if_neg (lt_irrefl _)]
  apply handles_lookUp hdoc (fun result => (⟨result, []⟩ : SlotReply)) hC
  · intro entry hentry
    rw [if_neg (by simp)]
    rw [show flash.entry (slotCell slot) = some entry from hentry] at h
    have hfind : Store.find ⟨flash, some (settingsNamespace, true)⟩ (slotKey slot) = some entry := hentry
    -- a value whose type or length has not been found out is malformed
    have hmalformed : ∀ {isBlob : Bool} {length : ℕ}, classifySlotMetadata isBlob length = .malformed →
        L.MayFail faults → L.Handles faults Q C (do
          let metadataResult := classifySlotMetadata isBlob length
          if metadataResult ≠ .ok then
            endNamespace
            return ⟨metadataResult, []⟩
          let bytes ← getBytes (slotKey slot) recordSize
          endNamespace
          if bytes.length ≠ recordSize then return ⟨.error, []⟩
          return ⟨.ok, bytes⟩) ⟨flash, some (settingsNamespace, true)⟩ := by
      intro isBlob length hclass hmay
      dsimp only
      rw [hclass, if_pos (by simp)]
      exact handles_ends hdoc (hC none) (hfail hmay .malformed (by simp))
    have hnoBlob : ∀ length, classifySlotMetadata false length = .malformed := fun length => if_neg (by simp)
    apply hdoc.handles_getType (hC _)
    · rw [hfind]
      apply hdoc.handles_getBytesLength (hC _)
      · simp only [hfind, Option.map_some, Option.getD_some]
        by_cases hlength : entry.bytes.length = recordSize
        · -- the value has bytes, so it is a blob
          obtain ⟨bytes, rfl⟩ : ∃ bytes, entry = .blob bytes := by
            cases entry with
            | blob bytes => exact ⟨bytes, rfl⟩
            | _ => simp [Entry.bytes, recordSize] at hlength
          simp only [Entry.bytes] at hlength
          rw [if_neg (by simp [classifySlotMetadata, typeOf, Entry.type, Entry.bytes, hlength])]
          simp only [Option.map_some, Entry.bytes, slotReply, hlength, ne_eq, not_true_eq_false, if_false] at h
          rw [← hlength]
          apply hdoc.handles_getBytes (hC _) hfind
          · apply hdoc.handles_end (hC none)
            rw [if_neg (by simp)]
            exact Library.handles_pure h
          · intro hmay
            apply hdoc.handles_end (hC none)
            rw [if_pos (by simp [hlength, recordSize])]
            exact Library.handles_pure (hfail hmay .error (by simp))
        · rw [if_pos (by simp [classifySlotMetadata, hlength])]
          have hclass : classifySlotMetadata (decide (typeOf (some entry) = .blob)) entry.bytes.length = .malformed := by
            simp [classifySlotMetadata, hlength]
          rw [hclass]
          apply handles_ends hdoc (hC none)
          simpa [slotReply, hlength] using h
      · intro hmay
        exact hmalformed (if_neg (by simp [recordSize])) hmay
    · intro hmay
      apply hdoc.handles_getBytesLength (hC _)
      · exact hmalformed (hnoBlob _) hmay
      · intro _
        exact hmalformed (hnoBlob _) hmay
  · intro habsent
    rw [show flash.entry (slotCell slot) = none from habsent] at h
    constructor
    · rw [if_pos (by simp)]
      exact handles_ends hdoc (hC none) h
    · exact h
  · intro hmay
    constructor
    · rw [if_pos (by simp)]
      exact handles_ends hdoc (hC none) (hfail hmay .missing (by simp))
    · exact hfail hmay .unavailable (by simp)

theorem zero_or_one {value : UInt8} (h : ¬ value > 1) : value = 0 ∨ value = 1 := by
  have hle : value.toNat ≤ 1 := by simpa [UInt8.lt_iff_toNat_lt] using h
  have hcases : value.toNat = 0 ∨ value.toNat = 1 := by omega
  rcases hcases with hzero | hone
  · exact Or.inl (UInt8.toNat_inj.1 hzero)
  · exact Or.inr (UInt8.toNat_inj.1 hone)

theorem handles_readResetMarker (hdoc : L.Documented bad) {Q : MarkerReply → Store → Prop}
    (hC : ∀ opened, C ⟨flash, opened⟩) (h : Q (markerReply (marker (flash.entry markerCell))) ⟨flash, none⟩)
    (hfail : L.MayFail faults → ∀ result, result ≠ .ok → Q ⟨result, false⟩ ⟨flash, none⟩) :
    L.Handles faults Q C readResetMarker ⟨flash, none⟩ := by
  unfold readResetMarker
  apply handles_lookUp hdoc (fun result => (⟨result, false⟩ : MarkerReply)) hC
  · intro entry hentry
    rw [if_neg (by simp)]
    rw [show flash.entry markerCell = some entry from hentry] at h
    have hfind : Store.find ⟨flash, some (settingsNamespace, true)⟩ resetMarkerKey = some entry := hentry
    apply hdoc.handles_getType (hC _)
    · rw [hfind]
      cases entry with
      | uchar value =>
        rw [if_neg (by simp [typeOf, Entry.type])]
        apply hdoc.handles_getUChar (hC _) hfind
        · apply hdoc.handles_end (hC none)
          simp only [marker] at h
          split
          · rename_i hlarge
            have hzero : value ≠ 0 := by rintro rfl; exact absurd hlarge (by decide)
            have hone : value ≠ 1 := by rintro rfl; exact absurd hlarge (by decide)
            apply Library.handles_pure
            simpa [hzero, hone, markerReply] using h
          · rename_i hsmall
            rcases zero_or_one hsmall with rfl | rfl
            · exact Library.handles_pure h
            · exact Library.handles_pure h
        · intro hmay
          apply hdoc.handles_end (hC none)
          rw [if_pos (by decide)]
          exact Library.handles_pure (hfail hmay .error (by simp))
      | _ =>
        rw [if_pos (by simp [typeOf, Entry.type])]
        exact handles_ends hdoc (hC none) h
    · intro hmay
      rw [if_pos (by simp)]
      exact handles_ends hdoc (hC none) (hfail hmay .error (by simp))
  · intro habsent
    rw [show flash.entry markerCell = none from habsent] at h
    constructor
    · rw [if_pos (by simp)]
      exact handles_ends hdoc (hC none) h
    · exact h
  · intro hmay
    constructor
    · rw [if_pos (by simp)]
      exact handles_ends hdoc (hC none) (hfail hmay .missing (by simp))
    · exact hfail hmay .unavailable (by simp)

end Reads

/-! ### The changes -/

section Changes

variable {L : Library} {bad : Cell → Entry → Bool} {faults : Faults L.Fault} {C : Store → Prop}
  {flash flash' : Flash} {key : String} {content : Option Entry} {Q : StoreResult → Store → Prop}

/-- The content of a key has changed, and nothing else. -/
def Changed (flash : Flash) (key : String) (content : Option Entry) (flash' : Flash) : Prop :=
  flash'.entry = Function.update flash.entry (settingsNamespace, key) content

/-- The content of a key has been left by a change that has failed, or in which power was lost. -/
def TornTo (bad : Cell → Entry → Bool) (flash : Flash) (key : String) (content : Option Entry) (flash' : Flash) : Prop :=
  ∃ left : Torn Entry, Changed flash key
    (left.leave bad (settingsNamespace, key) (flash.entry (settingsNamespace, key)) content) flash'

theorem changed_put (content : Option Entry) :
    Changed flash key content ((flash.make settingsNamespace).put (settingsNamespace, key) content) := by
  simp [Changed]

theorem tornTo_of_entry (h : flash'.entry = flash.entry) : TornTo bad flash key content flash' := by
  refine ⟨.old, ?_⟩
  simp [Changed, Torn.leave, h]

theorem tornTo_put (left : Torn Entry) : TornTo bad flash key content ((flash.make settingsNamespace).put
    (settingsNamespace, key) (left.leave bad (settingsNamespace, key)
      ((flash.make settingsNamespace).entry (settingsNamespace, key)) content)) := by
  refine ⟨left, ?_⟩
  rw [Flash.entry_make]
  exact changed_put _

theorem tornTo_of_changed (h : Changed flash key content flash') : TornTo bad flash key content flash' := ⟨.new, h⟩

/-- The namespace is opened for writing. -/
theorem handles_enterWritable (hdoc : L.Documented bad) {f : PreferencesM StoreResult}
    (hC : ∀ flash' opened, TornTo bad flash key content flash' → C ⟨flash', opened⟩)
    (h : L.Handles faults Q C f ⟨flash.make settingsNamespace, some (settingsNamespace, false)⟩)
    (hfail : L.MayFail faults → ∀ result flash', TornTo bad flash key content flash' → Q result ⟨flash', none⟩) :
    L.Handles faults Q C (do
      if !(← beginNamespace settingsNamespace false) then return .unavailable
      f) ⟨flash, none⟩ := by
  have hmade : TornTo bad flash key content (flash.make settingsNamespace) :=
    tornTo_of_entry (Flash.entry_make flash settingsNamespace)
  apply hdoc.handles_beginWrite (by decide) (hC flash none (tornTo_of_entry rfl))
  · exact hC _ _ hmade
  · exact hC _ _ hmade
  · rw [if_neg (by simp)]
    exact h
  · intro hmay
    rw [if_pos (by simp)]
    exact ⟨Library.handles_pure (hfail hmay .unavailable flash (tornTo_of_entry rfl)),
      Library.handles_pure (hfail hmay .unavailable _ hmade)⟩

theorem length_slotKey (slot : RecordSlot) : (slotKey slot).length ≤ maxNameLength := by
  cases slot <;> decide

theorem handles_writeSlot (hdoc : L.Documented bad) {slot : RecordSlot} {input : Bytes}
    (hlength : input.length = recordSize)
    (hC : ∀ flash' opened, TornTo bad flash (slotKey slot) (some (.blob input)) flash' → C ⟨flash', opened⟩)
    (h : ∀ flash', Changed flash (slotKey slot) (some (.blob input)) flash' → Q .ok ⟨flash', none⟩)
    (hfail : L.MayFail faults → ∀ result flash',
      TornTo bad flash (slotKey slot) (some (.blob input)) flash' → Q result ⟨flash', none⟩) :
    L.Handles faults Q C (writeSlot slot input) ⟨flash, none⟩ := by
  have hbytes : input ≠ [] := by
    rintro rfl
    cases hlength
  have hroom : input.length ≤ maxBlobLength := hlength.trans_le (by decide)
  unfold writeSlot
  rw [if_neg (by simpa using hlength)]
  apply handles_enterWritable hdoc hC
  · apply hdoc.handles_putBytes (length_slotKey slot) hbytes hroom
    · intro left
      exact hC _ _ (tornTo_put left)
    · apply handles_ends hdoc
      · exact hC _ _ (tornTo_of_changed (changed_put _))
      · rw [if_pos hlength]
        exact h _ (changed_put _)
    · intro hmay left
      apply handles_ends hdoc
      · exact hC _ _ (tornTo_put left)
      · rw [if_neg (by decide)]
        exact hfail hmay .error _ (tornTo_put left)
  · exact hfail

theorem handles_writeResetMarker (hdoc : L.Documented bad) {pending : Bool}
    (hC : ∀ flash' opened, TornTo bad flash resetMarkerKey (some (.uchar (if pending then 1 else 0))) flash' →
      C ⟨flash', opened⟩)
    (h : ∀ flash', Changed flash resetMarkerKey (some (.uchar (if pending then 1 else 0))) flash' → Q .ok ⟨flash', none⟩)
    (hfail : L.MayFail faults → ∀ result flash',
      TornTo bad flash resetMarkerKey (some (.uchar (if pending then 1 else 0))) flash' → Q result ⟨flash', none⟩) :
    L.Handles faults Q C (writeResetMarker pending) ⟨flash, none⟩ := by
  apply handles_enterWritable hdoc hC
  · apply hdoc.handles_putBool (by decide)
    · intro left
      exact hC _ _ (tornTo_put left)
    · apply handles_ends hdoc
      · exact hC _ _ (tornTo_of_changed (changed_put _))
      · rw [if_pos rfl]
        exact h _ (changed_put _)
    · intro hmay left
      apply handles_ends hdoc
      · exact hC _ _ (tornTo_put left)
      · rw [if_neg (by decide)]
        exact hfail hmay .error _ (tornTo_put left)
  · exact hfail

/-- A removal.  If the look-up of the key fails, the removal answers MISSING and leaves the key alone. -/
theorem handles_removeKey (hdoc : L.Documented bad)
    (hC : ∀ flash' opened, TornTo bad flash key none flash' → C ⟨flash', opened⟩)
    (h : ∀ flash', Changed flash key none flash' →
      Q (removeReply (flash.entry (settingsNamespace, key))) ⟨flash', none⟩)
    (hfail : L.MayFail faults → ∀ result flash', TornTo bad flash key none flash' → Q result ⟨flash', none⟩) :
    L.Handles faults Q C (removeKey key) ⟨flash, none⟩ := by
  have hmade : (flash.make settingsNamespace).entry = flash.entry := Flash.entry_make flash settingsNamespace
  have hkept : TornTo bad flash key none (flash.make settingsNamespace) := tornTo_of_entry hmade
  have hfind : Store.find ⟨flash.make settingsNamespace, some (settingsNamespace, false)⟩ key =
      flash.entry (settingsNamespace, key) := congrFun hmade (settingsNamespace, key)
  apply handles_enterWritable hdoc hC
  · apply hdoc.handles_isKey
    · exact hC _ _ hkept
    · rw [hfind]
      cases hentry : flash.entry (settingsNamespace, key) with
      | none =>
        rw [hentry] at h
        rw [if_pos (by simp)]
        apply handles_ends hdoc
        · exact hC _ _ hkept
        · apply h
          simp only [Changed, hmade]
          rw [← hentry, Function.update_eq_self]
      | some entry =>
        rw [hentry] at h
        rw [if_neg (by simp)]
        apply hdoc.handles_removeKey
        · rw [hmade, hentry]
          rfl
        · intro left
          exact hC _ _ (tornTo_put left)
        · apply handles_ends hdoc
          · exact hC _ _ (tornTo_of_changed (changed_put _))
          · exact h _ (changed_put _)
        · intro hmay left
          apply handles_ends hdoc
          · exact hC _ _ (tornTo_put left)
          · exact hfail hmay .error _ (tornTo_put left)
    · intro hmay
      rw [if_pos (by simp)]
      apply handles_ends hdoc
      · exact hC _ _ hkept
      · exact hfail hmay .missing _ hkept
  · exact hfail

end Changes

/-! ### The adapter as a store -/

/-- The chip between two calls of the interface, and the store that it is. -/
structure Agrees (before : Flash) (s : Store) (st : Storage) : Prop where
  closed : s.opened = none
  storage : storage s.flash = st
  foreign : ∀ cell, Foreign cell → s.flash.entry cell = before.entry cell

/-- The chip after a loss of power. -/
structure LeftAs (before : Flash) (s : Store) (st : Storage) : Prop where
  storage : storage s.flash = st
  foreign : ∀ cell, Foreign cell → s.flash.entry cell = before.entry cell

/-- The faults of the store that those of the library amount to. -/
def storeFaults (fails : Prop) : Faults Fault := .given .none fails fun _ => True

section Carried

variable {L : Library} {bad : Cell → Entry → Bool} {fails : Prop} {before flash flash' : Flash} {s : Store}
  {st : Storage}

/-- A change of the adapter's keys is foreign to nobody else's. -/
theorem foreign_of_changed {key : String} {content : Option Entry} (hkey : ∀ cell, Foreign cell → cell ≠ (settingsNamespace, key))
    (h : ∀ cell, Foreign cell → flash.entry cell = before.entry cell) (hchanged : Changed flash key content flash') :
    ∀ cell, Foreign cell → flash'.entry cell = before.entry cell := by
  intro cell hcell
  rw [hchanged, Function.update_of_ne (hkey cell hcell)]
  exact h cell hcell

/-- What a failed change leaves in a slot. -/
theorem exists_left (hbad : Unreadable bad) {slot : RecordSlot} {content : Option Entry}
    (h : TornTo bad flash (slotKey slot) content flash') :
    ∃ left : Left, storage flash' = (storage flash).setSlot slot
      (left.leave ((storage flash).slots slot) (content.map Entry.bytes)) := by
  obtain ⟨left, hleft⟩ := h
  have hstored : storage flash' = (storage flash).setSlot slot _ := storage_slot hleft
  cases left with
  | old => exact ⟨.old, hstored⟩
  | new => exact ⟨.new, hstored⟩
  | garbage entry =>
    by_cases hentry : bad (settingsNamespace, slotKey slot) entry = true
    · refine ⟨.garbage entry.bytes, ?_⟩
      have hundecodable := hbad.slot slot entry hentry
      simp only [Torn.leave] at hstored
      rw [if_pos hentry] at hstored
      simpa [Left.leave, hundecodable] using hstored
    · refine ⟨.old, ?_⟩
      simp only [Torn.leave] at hstored
      rw [if_neg hentry] at hstored
      exact hstored

/-- What a failed change leaves of the marker. -/
theorem exists_leftMarker (hbad : Unreadable bad) {content : Option Entry}
    (h : TornTo bad flash resetMarkerKey content flash') :
    ∃ left : Left, storage flash' =
      { storage flash with marker := left.leaveMarker (storage flash).marker (marker content) } := by
  obtain ⟨left, hleft⟩ := h
  have hstored := storage_marker hleft
  cases left with
  | old => exact ⟨.old, hstored⟩
  | new => exact ⟨.new, hstored⟩
  | garbage entry =>
    refine ⟨.old, ?_⟩
    have hentry : bad (settingsNamespace, resetMarkerKey) entry = false := hbad.marker entry
    simp only [Torn.leave, hentry, Bool.false_eq_true, if_false] at hstored
    exact hstored

theorem foreign_slot (slot : RecordSlot) : ∀ cell, Foreign cell → cell ≠ (settingsNamespace, slotKey slot) :=
  fun _ hcell => hcell.1 slot

theorem foreign_marker : ∀ cell, Foreign cell → cell ≠ (settingsNamespace, resetMarkerKey) := fun _ hcell => hcell.2

theorem TornTo.foreign {key : String} {content : Option Entry}
    (hkey : ∀ cell, Foreign cell → cell ≠ (settingsNamespace, key))
    (h : ∀ cell, Foreign cell → flash.entry cell = before.entry cell) (htorn : TornTo bad flash key content flash') :
    ∀ cell, Foreign cell → flash'.entry cell = before.entry cell := by
  obtain ⟨left, hleft⟩ := htorn
  exact foreign_of_changed hkey h hleft

/-- What carrying out one call asks of the program. -/
def CarriesCall (L : Library) (fails : Prop) (before : Flash) (op : StoreOp) (s : Store) (st : Storage) : Prop :=
  L.Handles (L.faultsIf fails)
    (fun r s' => ∃ fault, (storeFaults fails).allowed fault ∧ r = (Storage.meets fault op st).1 ∧
      Agrees before s' (Storage.meets fault op st).2)
    (fun s' => ∃ cut, (storeFaults fails).cut cut ∧ LeftAs before s' (Storage.meets cut op st).2) (store op) s

theorem carries_readSlot (hdoc : L.Documented bad) (slot : RecordSlot) (h : Agrees before ⟨flash, none⟩ st) :
    CarriesCall L fails before (.readSlot slot) ⟨flash, none⟩ st := by
  apply handles_readSlot hdoc
  · intro opened
    exact ⟨.none, trivial, h.storage, h.foreign⟩
  · refine ⟨.none, Or.inl rfl, ?_, h⟩
    rw [← h.storage]
    rfl
  · intro hmay result hne
    exact ⟨.read result [] false, Or.inr (Library.fails_of_mayFail hmay), (if_neg hne).symm, h⟩

theorem carries_readResetMarker (hdoc : L.Documented bad) (h : Agrees before ⟨flash, none⟩ st) :
    CarriesCall L fails before .readResetMarker ⟨flash, none⟩ st := by
  apply handles_readResetMarker hdoc
  · intro opened
    exact ⟨.none, trivial, h.storage, h.foreign⟩
  · refine ⟨.none, Or.inl rfl, ?_, h⟩
    rw [← h.storage]
    rfl
  · intro hmay result hne
    exact ⟨.read result [] false, Or.inr (Library.fails_of_mayFail hmay), (if_neg hne).symm, h⟩

theorem carries_writeSlot (hdoc : L.Documented bad) (hbad : Unreadable bad) (slot : RecordSlot) (bytes : Bytes)
    (hsized : fails ∨ bytes.length = recordSize) (h : Agrees before ⟨flash, none⟩ st) :
    CarriesCall L fails before (.writeSlot slot bytes) ⟨flash, none⟩ st := by
  obtain rfl : storage flash = st := h.storage
  by_cases hlength : bytes.length = recordSize
  · apply handles_writeSlot hdoc hlength
    · intro flash' opened htorn
      obtain ⟨left, hleft⟩ := exists_left hbad htorn
      exact ⟨.write .error left, trivial, hleft, htorn.foreign (foreign_slot slot) h.foreign⟩
    · intro flash' hchanged
      exact ⟨.none, Or.inl rfl, rfl, rfl, storage_slot hchanged,
        foreign_of_changed (foreign_slot slot) h.foreign hchanged⟩
    · intro hmay result flash' htorn
      obtain ⟨left, hleft⟩ := exists_left hbad htorn
      exact ⟨.write result left, Or.inr (Library.fails_of_mayFail hmay), rfl, rfl, hleft,
        htorn.foreign (foreign_slot slot) h.foreign⟩
  · -- the adapter refuses the write
    change L.Handles _ _ _ (writeSlot slot bytes) _
    unfold writeSlot
    rw [if_pos hlength]
    apply Library.handles_pure
    refine ⟨.write .error .old, Or.inr (hsized.resolve_right hlength), rfl, rfl, ?_, h.foreign⟩
    exact storage_slot (Function.update_eq_self _ _).symm

theorem carries_removeSlot (hdoc : L.Documented bad) (hbad : Unreadable bad) (slot : RecordSlot)
    (h : Agrees before ⟨flash, none⟩ st) : CarriesCall L fails before (.removeSlot slot) ⟨flash, none⟩ st := by
  obtain rfl : storage flash = st := h.storage
  apply handles_removeKey hdoc
  · intro flash' opened htorn
    obtain ⟨left, hleft⟩ := exists_left hbad htorn
    exact ⟨.write .error left, trivial, hleft, htorn.foreign (foreign_slot slot) h.foreign⟩
  · intro flash' hchanged
    refine ⟨.none, Or.inl rfl, ?_, rfl, storage_slot hchanged,
      foreign_of_changed (foreign_slot slot) h.foreign hchanged⟩
    change _ = removeReply ((flash.entry (slotCell slot)).map Entry.bytes)
    rw [show flash.entry (settingsNamespace, slotKey slot) = flash.entry (slotCell slot) from rfl]
    cases flash.entry (slotCell slot) <;> rfl
  · intro hmay result flash' htorn
    obtain ⟨left, hleft⟩ := exists_left hbad htorn
    exact ⟨.write result left, Or.inr (Library.fails_of_mayFail hmay), rfl, rfl, hleft,
      htorn.foreign (foreign_slot slot) h.foreign⟩

theorem carries_writeResetMarker (hdoc : L.Documented bad) (hbad : Unreadable bad) (pending : Bool)
    (h : Agrees before ⟨flash, none⟩ st) : CarriesCall L fails before (.writeResetMarker pending) ⟨flash, none⟩ st := by
  obtain rfl : storage flash = st := h.storage
  have hmarker : marker (some (.uchar (if pending then 1 else 0))) = if pending then Marker.pending else Marker.clear := by
    cases pending <;> rfl
  apply handles_writeResetMarker hdoc
  · intro flash' opened htorn
    obtain ⟨left, hleft⟩ := exists_leftMarker hbad htorn
    rw [hmarker] at hleft
    exact ⟨.write .error left, trivial, hleft, htorn.foreign foreign_marker h.foreign⟩
  · intro flash' hchanged
    have hstored := storage_marker hchanged
    rw [hmarker] at hstored
    exact ⟨.none, Or.inl rfl, rfl, rfl, hstored, foreign_of_changed foreign_marker h.foreign hchanged⟩
  · intro hmay result flash' htorn
    obtain ⟨left, hleft⟩ := exists_leftMarker hbad htorn
    rw [hmarker] at hleft
    exact ⟨.write result left, Or.inr (Library.fails_of_mayFail hmay), rfl, rfl, hleft,
      htorn.foreign foreign_marker h.foreign⟩

theorem marker_ne_missing (entry : Entry) : marker (some entry) ≠ .missing := by
  cases entry with
  | uchar value =>
    unfold marker
    dsimp only
    split
    · simp
    · split <;> simp
  | _ => simp [marker]

theorem carries_removeResetMarker (hdoc : L.Documented bad) (hbad : Unreadable bad)
    (h : Agrees before ⟨flash, none⟩ st) : CarriesCall L fails before .removeResetMarker ⟨flash, none⟩ st := by
  obtain rfl : storage flash = st := h.storage
  apply handles_removeKey hdoc
  · intro flash' opened htorn
    obtain ⟨left, hleft⟩ := exists_leftMarker hbad htorn
    exact ⟨.write .error left, trivial, hleft, htorn.foreign foreign_marker h.foreign⟩
  · intro flash' hchanged
    refine ⟨.none, Or.inl rfl, ?_, rfl, storage_marker hchanged,
      foreign_of_changed foreign_marker h.foreign hchanged⟩
    change removeReply (flash.entry markerCell) =
      if marker (flash.entry markerCell) = .missing then StoreResult.missing else StoreResult.ok
    cases hentry : flash.entry markerCell with
    | none => rfl
    | some entry =>
      rw [if_neg (marker_ne_missing entry)]
      rfl
  · intro hmay result flash' htorn
    obtain ⟨left, hleft⟩ := exists_leftMarker hbad htorn
    exact ⟨.write result left, Or.inr (Library.fails_of_mayFail hmay), rfl, rfl, hleft,
      htorn.foreign foreign_marker h.foreign⟩

/-- **The adapter is a store.** -/
theorem carries (hdoc : L.Documented bad) (hbad : Unreadable bad) (before : Flash) (fails : Prop) :
    Carries L.call (L.faultsIf fails) store Storage.meets (storeFaults fails) (fun op => fails ∨ Sized op)
      (fun u st => Agrees before (L.store u) st) (fun u st => LeftAs before (L.store u) st) := by
  constructor
  intro op u st hpermitted h
  suffices hcall : CarriesCall L fails before op (L.store u) st from hcall u rfl
  generalize L.store u = s at h ⊢
  obtain ⟨flash, opened⟩ := s
  obtain rfl : opened = none := h.closed
  cases op with
  | readSlot slot => exact carries_readSlot hdoc slot h
  | writeSlot slot bytes => exact carries_writeSlot hdoc hbad slot bytes hpermitted h
  | removeSlot slot => exact carries_removeSlot hdoc hbad slot h
  | readResetMarker => exact carries_readResetMarker hdoc h
  | writeResetMarker pending => exact carries_writeResetMarker hdoc hbad pending h
  | removeResetMarker => exact carries_removeResetMarker hdoc hbad h

/-- A program over the interface leaves the cells of others alone. -/
theorem foreign_kept (hdoc : L.Documented bad) (hbad : Unreadable bad) {α : Type} (p : StoreM α)
    (script : List L.Fault) (cut : Option L.Cut) {u : L.State} (hu : (L.store u).opened = none) {cell : Cell}
    (hcell : Foreign cell) :
    (L.store (L.execute (p.through store) script cut u).2).flash.entry cell = (L.store u).flash.entry cell := by
  apply hdoc.flash_execute (I := fun flash' => flash'.entry cell = (L.store u).flash.entry cell)
  apply (carries hdoc hbad (L.store u).flash True).keeps (Prog.calls_of_forall (fun _ => Or.inl trivial) p)
    (t := storage (L.store u).flash) (I := fun u' => (L.store u').flash.entry cell = (L.store u).flash.entry cell)
  · exact ⟨hu, rfl, fun _ _ => rfl⟩
  · intro u' st h
    exact h.foreign cell hcell
  · intro u' st h
    exact h.foreign cell hcell

end Carried

/-- **The settings storage is the store of the model.**  Whatever a program over the interface of the settings manager
makes of the chip through the adapter, on a library that is as documented, under every script of library failures and
with power lost in any library call, it makes of the store under some script of faults: the same value if it returns,
and the same slots and marker.  If no library call fails, power is kept and every slot is written at its size, no fault
is met.  No namespace is left open, and the values of other keys and of other namespaces stay as they were. -/
theorem settingsStorage_refines (L : Library) (bad : Cell → Entry → Bool) (hdoc : L.Documented bad)
    (hbad : Unreadable bad) {α : Type} (p : StoreM α) (script : List L.Fault) (cut : Option L.Cut) (u : L.State)
    (hu : (L.store u).opened = none) :
    let low := L.execute (p.through store) script cut u
    ∃ script' stop, let high := executeStore p script' stop (storage (L.store u).flash)
      (∀ a, low.1 = some a → high.1 = some a) ∧ storage (L.store low.2).flash = high.2 ∧
      (L.store low.2).opened = none ∧
      (∀ cell, Foreign cell → (L.store low.2).flash.entry cell = (L.store u).flash.entry cell) ∧
      (cut = none → stop = none ∧
        ((∀ f ∈ script, f = L.calm) → p.Calls Sized → ∀ f ∈ script', f = .none)) := by
  intro low
  let fails : Prop := ¬ ((∀ f ∈ script, f = L.calm) ∧ p.Calls Sized)
  have hscript : ∀ f ∈ script, (L.faultsIf fails).allowed f := allowed_unless_calm
  have hcalls : p.Calls fun op => fails ∨ Sized op := p.calls_unless _
  have hagrees : Agrees (L.store u).flash (L.store u) (storage (L.store u).flash) := ⟨hu, rfl, fun _ _ => rfl⟩
  have hcarries := carries hdoc hbad (L.store u).flash fails
  cases cut with
  | none =>
    obtain ⟨script', hscript', hvalue, hleft⟩ := hcarries.performs hcalls hagrees hscript
    refine ⟨script', none, ?_, hleft.storage, hleft.closed, hleft.foreign, fun _ => ⟨rfl, ?_⟩⟩
    · intro a ha
      rw [← ha]
      exact congrArg some hvalue
    · intro hcalm hsized f hf
      exact (hscript' f hf).resolve_right (not_not.2 ⟨hcalm, hsized⟩)
  | some c =>
    rcases L.execute_cut (p.through store) script c u with ⟨a, u', hrun, hlow⟩ | ⟨u', hrun, hlow⟩
    · rw [show low = (some a, u') from hlow]
      obtain ⟨script', st', hscript', hperform, hleft⟩ := hcarries.returns hcalls hagrees hscript trivial hrun
      change perform Storage.meets .none p script' (storage (L.store u).flash) = (a, st') at hperform
      refine ⟨script', none, ?_, ?_, hleft.closed, hleft.foreign, by simp⟩
      · simp only [executeStore, hperform]
        exact fun _ h => h
      · simp only [executeStore, hperform]
        exact hleft.storage
    · rw [show low = (none, L.restart u') from hlow]
      dsimp only
      rw [hdoc.restart]
      obtain ⟨script', n, cut', st', hscript', hcut', hlost, hleft⟩ :=
        hcarries.cuts hcalls hagrees hscript trivial hrun
      obtain ⟨script'', hscript'', hinterrupt⟩ := interrupt_of_cutDuring hlost
      refine ⟨script'', some (n + 1), by simp, ?_, rfl, hleft.foreign, by simp⟩
      exact hleft.storage.trans hinterrupt.symm

/-- Values without bytes under the keys of the slots, as a failed write may leave them. -/
def emptiedSlots (cell : Cell) (entry : Entry) : Bool := cell ≠ markerCell ∧ entry.bytes = []

theorem unreadable_emptiedSlots : Unreadable emptiedSlots := by
  constructor
  · intro slot entry hbad
    have hbytes : entry.bytes = [] := (of_decide_eq_true hbad).2
    rw [hbytes]
    rfl
  · intro entry
    simp [emptiedSlots]

/-- Something is stored under the key of slot A. -/
def storedFlash : Flash := Flash.blank.put (slotCell .A) (some (.blob [0]))

/-- A factory reset in which the look-up of slot A fails, so that its removal is answered MISSING, and power is lost when
the slot is looked up again. -/
theorem settingsStorage_refines_interrupted :
    let L := Library.direct emptiedSlots
    let p := SettingsManager.initial.factoryReset
    let script := List.replicate 11 .none ++ [.fails .old]
    let cut := some ⟨16, .fails (Torn.garbage (Entry.blob []))⟩
    let low := L.execute (p.through store) script cut ⟨storedFlash, none⟩
    ∃ script' stop, let high := executeStore p script' stop (storage storedFlash)
      (∀ a, low.1 = some a → high.1 = some a) ∧ storage low.2.flash = high.2 ∧ low.2.opened = none ∧
      (∀ cell, Foreign cell → low.2.flash.entry cell = storedFlash.entry cell) ∧ (cut = none → stop = none ∧
        ((∀ f ∈ script, f = L.calm) → p.Calls Sized → ∀ f ∈ script', f = .none)) :=
  settingsStorage_refines (Library.direct emptiedSlots) emptiedSlots (Library.direct_documented emptiedSlots)
    unreadable_emptiedSlots _ _ _ ⟨storedFlash, none⟩ rfl

/-! ### Both storages on one chip -/

/-- **The storages are apart.**  No program over the settings storage changes what the Event storage of either role
reads, and no program over the Event storage changes what the settings manager reads, on a library that is as
documented, under every script of library failures and wherever power is lost. -/
theorem storages_apart (L : Library) (bad : Cell → Entry → Bool) (hdoc : L.Documented bad) (side : Side)
    (hside : side.Unreadable bad) (hbad : Unreadable bad) {α β : Type} (script : List L.Fault) (cut : Option L.Cut)
    (u : L.State) (hu : (L.store u).opened = none) :
    (∀ p : StoreM α, side.image (L.store (L.execute (p.through store) script cut u).2).flash =
        side.image (L.store u).flash) ∧
      ∀ p : Records.StorageM β, storage (L.store (L.execute (p.through side.store) script cut u).2).flash =
        storage (L.store u).flash := by
  obtain ⟨hevents, hslots, hmarker⟩ := settings_foreign side
  constructor
  · intro p
    funext key
    unfold Side.image
    cases hcell : side.cell key with
    | none => rfl
    | some cell =>
      simp only [Option.bind_some]
      rw [foreign_kept hdoc hbad p script cut hu (hevents key cell hcell)]
  · intro p
    have hkept : ∀ {cell}, side.Foreign cell →
        (L.store (L.execute (p.through side.store) script cut u).2).flash.entry cell = (L.store u).flash.entry cell :=
      side.foreign_kept hdoc hside p script cut hu
    simp only [storage, hkept (hslots _), hkept hmarker]

theorem storages_apart_interrupted :
    let L := Library.direct emptiedSlots
    let cut := some ⟨7, .fails (Torn.garbage (Entry.blob []))⟩
    (∀ p : StoreM Unit, Side.image .node (L.execute (p.through store) [.fails .old] cut ⟨.blank, none⟩).2.flash =
        Side.image .node .blank) ∧
      ∀ p : Records.StorageM Unit, storage (L.execute (p.through (Side.store .node)) [.fails .old] cut
        ⟨.blank, none⟩).2.flash = storage .blank :=
  storages_apart (Library.direct emptiedSlots) emptiedSlots (Library.direct_documented emptiedSlots) .node
    (fun key cell entry _ hbad => by
      rw [(of_decide_eq_true hbad).2]
      cases key <;> rfl) unreadable_emptiedSlots [.fails .old] _ ⟨.blank, none⟩ rfl

end Redline.Esp32.Settings
