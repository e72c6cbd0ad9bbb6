import Mathlib.Data.List.Nodup
import Redline.Lib.Preferences
import Redline.Node.Commit
import Redline.Hub.Commit

/-!
# The Event storage of the firmware

`esp32_event_storage.cpp`: the two storage interfaces over the `Preferences` library.  Each copy is a blob under a key
of its own in the namespace `red_evt`, read back at its exact size only; a write is committed by the library before the
namespace is closed, so that a commit has nothing left to do.

The Node store and the Hub ledger have been modelled over the flash of `Geometry.meets`.  `eventStorage_refines` says
that the adapter is such a flash, on every library that is as documented: whatever code over the interface makes of it,
under every script of library failures and with power lost in front of any library call or inside it, is something that
the same code makes of the flash `image` under some script of faults and with some loss of power.
-/

namespace Redline.Esp32

open Redline.Wire Redline.Records Redline.Lib Redline.Lib.Preferences

/-- `NAMESPACE`. -/
def eventNamespace : String := "red_evt"

def metadataKey : CopySlot → String
  | .A => "id_a"
  | .B => "id_b"

def hubMetadataKey : CopySlot → String
  | .A => "ho_a"
  | .B => "ho_b"

/-- `SLOT_KEYS`. -/
def slotKeys : List (String × String) :=
  [("e0a", "e0b"), ("e1a", "e1b"), ("e2a", "e2b"), ("e3a", "e3b"),
    ("e4a", "e4b"), ("e5a", "e5b"), ("e6a", "e6b"), ("e7a", "e7b")]

/-- `HUB_SLOT_KEYS`. -/
def hubSlotKeys : List (String × String) :=
  [("h0a", "h0b"), ("h1a", "h1b"), ("h2a", "h2b"), ("h3a", "h3b"),
    ("h4a", "h4b"), ("h5a", "h5b"), ("h6a", "h6b"), ("h7a", "h7b")]

/-- The key of a copy in a table; beyond the table there is none. -/
def keyIn (keys : List (String × String)) (logicalSlot : ℕ) (copy : CopySlot) : Option String :=
  keys[logicalSlot]?.map fun pair => if copy = .A then pair.1 else pair.2

def eventKey (logicalSlot : ℕ) (copy : CopySlot) : Option String := keyIn slotKeys logicalSlot copy
def hubEventKey (logicalSlot : ℕ) (copy : CopySlot) : Option String := keyIn hubSlotKeys logicalSlot copy

def probeNamespace : PreferencesM StorageResult := do
  match ← nvsOpen eventNamespace with
  | .ok =>
    nvsClose
    return .ok
  | .notFound => return .missing
  | .failed => return .unavailable

/-- The type and the length of the stored value are not those of a copy. -/
def mismatched (key : String) (exactSize : ℕ) : PreferencesM Bool := do
  if (← getType key) ≠ .blob then return true
  else return (← getBytesLength key) ≠ exactSize

/-- A read at the exact size into the buffer `output`. -/
def readBlob (key : Option String) (exactSize : ℕ) (output : Bytes) : PreferencesM ReadReply :=
  match key with
  | none => return ⟨.error, 0, output⟩
  | some key => do
    if output.length < exactSize then return ⟨.error, 0, output⟩
    let probe ← probeNamespace
    if probe ≠ .ok then return ⟨probe, 0, output⟩
    if !(← beginNamespace eventNamespace true) then return ⟨.unavailable, 0, output⟩
    if !(← isKey key) then
      endNamespace
      return ⟨.missing, 0, output⟩
    if ← mismatched key exactSize then
      endNamespace
      return ⟨.error, 0, output⟩
    let bytes ← getBytes key exactSize
    endNamespace
    let output := bytes ++ output.drop bytes.length
    if bytes.length ≠ exactSize then return ⟨.error, 0, output⟩
    return ⟨.ok, bytes.length, output⟩

def writeBlob (key : Option String) (exactSize : ℕ) (input : Bytes) : PreferencesM StorageResult :=
  match key with
  | none => return .error
  | some key => do
    if input.length ≠ exactSize then return .error
    if !(← beginNamespace eventNamespace false) then return .unavailable
    let count ← putBytes key input
    endNamespace
    return if count = exactSize then .ok else .error

/-- `PreferencesStore` implements the storage interfaces of both roles. -/
inductive Side
  | node | hub

namespace Side

def geometry : Side → Geometry
  | .node => Node.geometry
  | .hub => Hub.geometry

/-- The key of a copy. -/
def key : Side → StorageKey → Option String
  | .node, .metadata copy => some (metadataKey copy)
  | .node, .event slot copy => eventKey slot copy
  | .hub, .metadata copy => some (hubMetadataKey copy)
  | .hub, .event slot copy => hubEventKey slot copy

/-- `read`, `readEventCopy`, `readHubMetadata` and `readHubEventCopy` with a zeroed buffer, and the writes and the
commit beside them. -/
def store (side : Side) : (op : StorageOp) → PreferencesM op.Reply
  | .read key =>
    Esp32.readBlob (side.key key) (side.geometry.size key) (List.replicate (side.geometry.size key) 0)
  | .write key bytes => Esp32.writeBlob (side.key key) (side.geometry.size key) bytes
  | .commit => return StorageResult.ok

/-- The cell of a copy. -/
def cell (side : Side) (key : StorageKey) : Option Cell := (side.key key).map fun name => (eventNamespace, name)

/-- What the flash of the chip is to the code over the interface: the blobs under its keys, and nothing readable where
a value has another type. -/
def image (side : Side) (flash : Flash) : Image := fun key =>
  (side.cell key).bind fun cell => (flash.entry cell).map Entry.bytes

end Side

/-! ### What the adapter does with a blob -/

section Blobs

variable {α : Type} {L : Library} {bad : Cell → Entry → Bool} {faults : Faults L.Fault} {C : Store → Prop}
  {flash : Flash} {key : String}

theorem handles_probeNamespace (hdoc : L.Documented bad) {Q : StorageResult → Store → Prop} {s : Store} (hC : C s)
    (hmade : (s.flash eventNamespace).isSome = true → Q .ok s) (hunmade : s.flash eventNamespace = none → Q .missing s)
    (hfail : L.MayFail faults → Q .unavailable s) : L.Handles faults Q C probeNamespace s := by
  apply hdoc.handles_nvsOpen hC
  · intro h
    exact hdoc.handles_nvsClose hC (Library.handles_pure (hmade h))
  · intro h
    exact Library.handles_pure (hunmade h)
  · intro h
    exact Library.handles_pure (hfail h)

theorem handles_mismatched (hdoc : L.Documented bad) {Q : Bool → Store → Prop} {s : Store} {entry : Entry} {size : ℕ}
    (hC : C s) (hpositive : 0 < size) (hfind : s.find key = some entry) (h : Q (decide (entry.bytes.length ≠ size)) s)
    (hfail : L.MayFail faults → Q true s) : L.Handles faults Q C (mismatched key size) s := by
  apply hdoc.handles_getType hC
  · rw [hfind]
    cases entry with
    | blob bytes =>
      rw [if_neg (by simp [typeOf, Entry.type])]
      apply hdoc.handles_getBytesLength hC
      · apply Library.handles_pure
        simpa [hfind] using h
      · intro hmay
        apply Library.handles_pure
        simpa [hpositive.ne] using hfail hmay
    | _ =>
      rw [if_pos (by simp [typeOf, Entry.type])]
      apply Library.handles_pure
      simpa [Entry.bytes, hpositive.ne] using h
  · intro hmay
    rw [if_pos (by simp)]
    exact Library.handles_pure (hfail hmay)

/-- What a read into a buffer of the exact size makes of the stored value. -/
def blobReply (output : Bytes) : Option Entry → ReadReply
  | none => ⟨.missing, 0, output⟩
  | some entry =>
    if entry.bytes.length ≠ output.length then ⟨.error, 0, output⟩ else ⟨.ok, entry.bytes.length, entry.bytes⟩

/-- A read leaves the flash alone.  If a library call may fail, it may report anything but OK, and the buffer stays as
it was. -/
theorem handles_readBlob (hdoc : L.Documented bad) {Q : ReadReply → Store → Prop} {output : Bytes}
    (hpositive : 0 < output.length) (hC : ∀ opened, C ⟨flash, opened⟩)
    (h : Q (blobReply output (flash.entry (eventNamespace, key))) ⟨flash, none⟩)
    (hfail : L.MayFail faults → ∀ result, result ≠ .ok → Q ⟨result, 0, output⟩ ⟨flash, none⟩) :
    L.Handles faults Q C (readBlob (some key) output.length output) ⟨flash, none⟩ := by
  have hends : ∀ {reply : ReadReply} {opened}, Q reply ⟨flash, none⟩ →
      L.Handles faults Q C (endNamespace >>= fun _ => pure reply) ⟨flash, opened⟩ := fun hreply =>
    hdoc.handles_end (hC none) (Library.handles_pure hreply)
  unfold readBlob
  dsimp only
  rw [if_neg (lt_irrefl _)]
  apply Library.handles_bind
  apply handles_probeNamespace hdoc (hC none)
  · intro hmade
    rw [if_neg (by simp)]
    apply hdoc.handles_beginRead (by decide) rfl (hC none)
    · exact hC (some (eventNamespace, true))
    · rw [if_neg (by simp)]
      have hfind : Store.find ⟨flash, some (eventNamespace, true)⟩ key = flash.entry (eventNamespace, key) := rfl
      apply hdoc.handles_isKey (hC _)
      · rw [hfind]
        cases hentry : flash.entry (eventNamespace, key) with
        | none =>
          rw [if_pos (by simp)]
          rw [hentry] at h
          exact hends h
        | some entry =>
          rw [if_neg (by simp)]
          rw [hentry] at h hfind
          dsimp only [blobReply] at h
          apply Library.handles_bind
          apply handles_mismatched hdoc (hC _) hpositive hfind
          · by_cases hlength : entry.bytes.length = output.length
            · rw [if_neg (by simpa using hlength)]
              rw [if_neg (by simpa using hlength)] at h
              -- the value has bytes, so it is a blob
              obtain ⟨bytes, rfl⟩ : ∃ bytes, entry = .blob bytes := by
                cases entry with
                | blob bytes => exact ⟨bytes, rfl⟩
                | _ => simp [Entry.bytes] at hlength; omega
              simp only [Entry.bytes] at hlength h
              rw [← hlength]
              apply hdoc.handles_getBytes (hC _) hfind
              · apply hdoc.handles_end (hC none)
                rw [if_neg (by simp), hlength, List.drop_length, List.append_nil, ← hlength]
                exact Library.handles_pure h
              · intro hmay
                apply hdoc.handles_end (hC none)
                rw [if_pos (by simp; omega)]
                exact Library.handles_pure (hfail hmay .error (by simp))
            · rw [if_pos (by simpa using hlength)]
              rw [if_pos hlength] at h
              exact hends h
          · intro hmay
            rw [if_pos rfl]
            exact hends (hfail hmay .error (by simp))
      · intro hmay
        rw [if_pos (by simp)]
        exact hends (hfail hmay .missing (by simp))
    · intro hclosed
      rw [if_pos (by simp)]
      apply Library.handles_pure
      rcases hclosed with hmay | hunmade
      · exact hfail hmay .unavailable (by simp)
      · simp_all
  · intro hunmade
    rw [if_pos (by simp)]
    rw [Flash.entry_of_unmade flash hunmade] at h
    exact Library.handles_pure h
  · intro hmay
    rw [if_pos (by simp)]
    exact Library.handles_pure (hfail hmay .unavailable (by simp))

/-- A write changes the cell of its key only. -/
theorem handles_writeBlob (hdoc : L.Documented bad) {Q : StorageResult → Store → Prop} {input : Bytes}
    (hkey : key.length ≤ maxNameLength) (hpositive : 0 < input.length) (hroom : input.length ≤ maxBlobLength)
    (hC : ∀ flash' opened, flash'.entry = flash.entry → C ⟨flash', opened⟩)
    (htorn : ∀ flash' opened (left : Torn Entry), flash'.entry = Function.update flash.entry (eventNamespace, key)
      (left.leave bad (eventNamespace, key) (flash.entry (eventNamespace, key)) (some (.blob input))) → C ⟨flash', opened⟩)
    (h : ∀ flash' : Flash, flash'.entry = Function.update flash.entry (eventNamespace, key) (some (.blob input)) →
      Q .ok ⟨flash', none⟩)
    (hclosed : L.MayFail faults → ∀ flash' : Flash, flash'.entry = flash.entry → Q .unavailable ⟨flash', none⟩)
    (hfail : L.MayFail faults → ∀ (flash' : Flash) (left : Torn Entry),
      flash'.entry = Function.update flash.entry (eventNamespace, key)
        (left.leave bad (eventNamespace, key) (flash.entry (eventNamespace, key)) (some (.blob input))) →
      Q .error ⟨flash', none⟩) :
    L.Handles faults Q C (writeBlob (some key) input.length input) ⟨flash, none⟩ := by
  unfold writeBlob
  dsimp only
  rw [if_neg (by simp)]
  have hmade : (flash.make eventNamespace).entry = flash.entry := Flash.entry_make flash eventNamespace
  apply hdoc.handles_beginWrite (by decide) (hC _ _ rfl)
  · exact hC (flash.make eventNamespace) _ hmade
  · exact hC (flash.make eventNamespace) _ hmade
  · rw [if_neg (by simp)]
    apply hdoc.handles_putBytes hkey (List.ne_nil_of_length_pos hpositive) hroom
    · intro left
      apply htorn _ _ left
      simp [hmade]
    · apply hdoc.handles_end
      · apply htorn _ _ .new
        simp [hmade, Torn.leave]
      · rw [if_pos rfl]
        apply Library.handles_pure
        apply h
        simp [hmade]
    · intro hmay left
      apply hdoc.handles_end
      · apply htorn _ _ left
        simp [hmade]
      · rw [if_neg hpositive.ne]
        apply Library.handles_pure
        apply hfail hmay _ left
        simp [hmade]
  · intro hmay
    rw [if_pos (by simp)]
    exact ⟨Library.handles_pure (hclosed hmay flash rfl), Library.handles_pure (hclosed hmay _ hmade)⟩

end Blobs

/-! ### The adapter as a flash -/

namespace Side

/-- The names of all copies. -/
def keys : List StorageKey :=
  [.metadata .A, .metadata .B] ++ (List.finRange 8).flatMap fun slot => [.event slot .A, .event slot .B]

theorem mem_keys (key : StorageKey) : key ∈ keys := by
  rcases key with copy | ⟨slot, copy⟩ <;> cases copy <;> simp [keys]

/-- **No two copies share a key.** -/
theorem nodup_keys (side : Side) : (keys.map side.key).Nodup := by
  cases side <;> decide

theorem key_inj (side : Side) {key key' : StorageKey} (h : side.key key = side.key key') : key = key' :=
  List.inj_on_of_nodup_map side.nodup_keys (mem_keys key) (mem_keys key') h

/-- Every copy has a key. -/
theorem exists_key (side : Side) (key : StorageKey) : ∃ name, side.key key = some name := by
  have hsome : ∀ key ∈ keys, (side.key key).isSome = true := by
    cases side <;> decide
  exact Option.isSome_iff_exists.1 (hsome key (mem_keys key))

/-- The names are no longer than the library allows. -/
theorem length_key (side : Side) {key : StorageKey} {name : String} (h : side.key key = some name) :
    name.length ≤ maxNameLength := by
  have hkeys : ∀ key ∈ keys, ∀ name ∈ side.key key, name.length ≤ maxNameLength := by
    cases side <;> decide
  exact hkeys key (mem_keys key) name h

theorem size_pos (side : Side) (key : StorageKey) : 0 < side.geometry.size key := by
  cases side <;> cases key <;> simp [geometry, Node.geometry, Hub.geometry, nodeMetadataSize, nodeRecordSize,
    hubMetadataSize, hubRecordSize]

theorem size_le (side : Side) (key : StorageKey) : side.geometry.size key ≤ maxBlobLength := by
  cases side <;> cases key <;> simp [geometry, Node.geometry, Hub.geometry, nodeMetadataSize, nodeRecordSize,
    hubMetadataSize, hubRecordSize, maxBlobLength]

variable {side : Side} {flash flash' : Flash} {key : StorageKey} {name : String}

theorem image_of_key (hkey : side.key key = some name) :
    side.image flash key = (flash.entry (eventNamespace, name)).map Entry.bytes := by
  simp [image, cell, hkey]

/-- A new value in the cell of a copy is a new content of that copy. -/
theorem image_update (hkey : side.key key = some name) {content : Option Entry}
    (h : flash'.entry = Function.update flash.entry (eventNamespace, name) content) :
    side.image flash' = Function.update (side.image flash) key (content.map Entry.bytes) := by
  funext key'
  obtain ⟨name', hkey'⟩ := side.exists_key key'
  rw [image_of_key hkey', h]
  by_cases hsame : key' = key
  · subst hsame
    obtain rfl : name' = name := by simpa [hkey'] using hkey
    simp
  · have hname : name' ≠ name := by
      rintro rfl
      exact hsame (side.key_inj (hkey'.trans hkey.symm))
    simp [hsame, hname, image_of_key hkey']

theorem image_eq (h : flash'.entry = flash.entry) : side.image flash' = side.image flash := by
  funext key
  simp only [image, h]

/-- A cell that is none of the adapter's. -/
def Foreign (side : Side) (cell : Cell) : Prop := ∀ key, side.cell key ≠ some cell

/-- What a failed write can leave of a value is nothing that a copy could be taken for. -/
def Unreadable (side : Side) (bad : Cell → Entry → Bool) : Prop :=
  ∀ key cell entry, side.cell key = some cell → bad cell entry = true →
    side.geometry.undecodable key entry.bytes = true

/-- The copies are written at their exact sizes. -/
def Sized (side : Side) : StorageOp → Prop
  | .write key bytes => bytes.length = side.geometry.size key
  | _ => True

/-- The copies are written at their exact sizes, and each write that succeeds is committed next. -/
def Committing {α : Type} (side : Side) : StorageM α → Prop
  | .pure _ => True
  | .call (.read _) next => ∀ r, Committing side (next r)
  | .call (.write key bytes) next =>
    bytes.length = side.geometry.size key ∧ (∃ rest, next StorageResult.ok = .call .commit rest) ∧
      ∀ r, Committing side (next r)
  | .call .commit next => ∀ r, Committing side (next r)

theorem Committing.calls {α : Type} {side : Side} {p : StorageM α} (h : Committing side p) : p.Calls side.Sized := by
  induction p with
  | pure a => trivial
  | call op next ih =>
    cases op with
    | write key bytes => exact ⟨h.1, fun r => ih r (h.2.2 r)⟩
    | _ => exact ⟨trivial, fun r => ih r (h r)⟩

/-- The chip between two calls of the interface, and the flash that it is. -/
structure Agrees (side : Side) (before : Flash) (s : Store) (d : FlashDisk) : Prop where
  closed : s.opened = none
  data : side.image s.flash = d.data
  foreign : ∀ cell, side.Foreign cell → s.flash.entry cell = before.entry cell

/-- The chip after a loss of power. -/
structure LeftAs (side : Side) (before : Flash) (s : Store) (d : FlashDisk) : Prop where
  crashed : ∃ torn, side.image s.flash = d.crash side.geometry.undecodable torn
  foreign : ∀ cell, side.Foreign cell → s.flash.entry cell = before.entry cell

/-- The faults of the flash that those of the library amount to. -/
def above (fails : Prop) : Faults Fault := .given .none fails fun f => f = .none

/-- What a failed write leaves under a key. -/
theorem exists_torn {bad : Cell → Entry → Bool} (hbad : side.Unreadable bad) (hkey : side.key key = some name)
    (left : Torn Entry) (before : Option Entry) (input : Bytes) :
    ∃ torn : Torn Bytes, (left.leave bad (eventNamespace, name) before (some (.blob input))).map Entry.bytes =
      torn.leave side.geometry.undecodable key (before.map Entry.bytes) (some input) := by
  cases left with
  | old => exact ⟨.old, rfl⟩
  | new => exact ⟨.new, rfl⟩
  | garbage entry =>
    by_cases hentry : bad (eventNamespace, name) entry = true
    · refine ⟨.garbage entry.bytes, ?_⟩
      have hundecodable := hbad key (eventNamespace, name) entry (by simp [cell, hkey]) hentry
      simp [Torn.leave, hentry, hundecodable]
    · refine ⟨.old, ?_⟩
      simp [Torn.leave, hentry]

section Carried

variable {L : Library} {bad : Cell → Entry → Bool} {fails : Prop} {before : Flash} {s : Store} {d : FlashDisk}

theorem Agrees.write (h : side.Agrees before s d) (hkey : side.key key = some name) {content : Option Entry}
    (hentry : flash'.entry = Function.update s.flash.entry (eventNamespace, name) content) :
    (∀ cell, side.Foreign cell → flash'.entry cell = before.entry cell) ∧
      side.image flash' = Function.update d.data key (content.map Entry.bytes) := by
  constructor
  · intro cell hcell
    have hne : cell ≠ (eventNamespace, name) := by
      rintro rfl
      exact hcell key (by simp [Side.cell, hkey])
    rw [hentry, Function.update_of_ne hne]
    exact h.foreign cell hcell
  · rw [image_update hkey hentry, h.data]

/-- What carrying out one call asks of the program. -/
def CarriesCall (side : Side) (L : Library) (fails : Prop) (before : Flash) (op : StorageOp) (s : Store)
    (d : FlashDisk) : Prop :=
  L.Handles (L.faultsIf fails)
    (fun r s' => ∃ fault, (above fails).allowed fault ∧ r = (side.geometry.meets fault op d).1 ∧
      side.Agrees before s' (side.geometry.meets fault op d).2)
    (fun s' => ∃ cut, (above fails).cut cut ∧ side.LeftAs before s' (side.geometry.meets cut op d).2)
    (side.store op) s

theorem carries_read (hdoc : L.Documented bad) (key : StorageKey) (h : side.Agrees before s d) :
    side.CarriesCall L fails before (.read key) s d := by
  obtain ⟨name, hkey⟩ := side.exists_key key
  obtain ⟨flash, opened⟩ := s
  obtain rfl : opened = none := h.closed
  have hlength : (List.replicate (side.geometry.size key) (0 : UInt8)).length = side.geometry.size key := by simp
  have hcontent : d.data key = (flash.entry (eventNamespace, name)).map Entry.bytes := by
    rw [← h.data, image_of_key hkey]
  simp only [CarriesCall, store, hkey]
  nth_rewrite 1 [← hlength]
  apply handles_readBlob hdoc
  · rw [hlength]
    exact side.size_pos key
  · intro opened
    refine ⟨.none, rfl, ⟨.new, ?_⟩, h.foreign⟩
    rw [Disk.crash_new]
    exact h.data
  · refine ⟨.none, Or.inl rfl, ?_, rfl, h.data, h.foreign⟩
    simp only [Geometry.meets, Geometry.flash, hcontent]
    cases flash.entry (eventNamespace, name) with
    | none => rfl
    | some entry =>
      simp only [blobReply, Geometry.reply, Option.map_some, hlength]
      rfl
  · intro hmay result hne
    refine ⟨.read result, Or.inr (Library.fails_of_mayFail hmay), ?_⟩
    simp only [Geometry.meets, if_neg hne]
    exact ⟨rfl, h⟩

theorem carries_write (hdoc : L.Documented bad) (hbad : side.Unreadable bad) (key : StorageKey) (bytes : Bytes)
    (hsized : fails ∨ bytes.length = side.geometry.size key) (h : side.Agrees before s d) :
    side.CarriesCall L fails before (.write key bytes) s d := by
  obtain ⟨name, hkey⟩ := side.exists_key key
  -- a failure is one of the write, which leaves the content torn
  have hfails : ∀ (result : StorageResult) (torn : Torn Bytes),
      side.geometry.meets (.write result torn) (.write key bytes) d = (result, Disk.clean (Function.update d.data key
        (torn.leave side.geometry.undecodable key (d.data key) (some bytes)))) := by
    intro result torn
    simp only [Geometry.meets, Disk.crash_stage]
    rfl
  have hkept : Function.update d.data key
      ((Torn.old : Torn Bytes).leave side.geometry.undecodable key (d.data key) (some bytes)) = d.data :=
    Function.update_eq_self key d.data
  have hbefore : d.data key = (s.flash.entry (eventNamespace, name)).map Entry.bytes := by
    rw [← h.data, image_of_key hkey]
  have hleft : ∀ (flash' : Flash) (left : Torn Entry), flash'.entry = Function.update s.flash.entry (eventNamespace, name)
      (left.leave bad (eventNamespace, name) (s.flash.entry (eventNamespace, name)) (some (.blob bytes))) →
      ∃ torn : Torn Bytes, side.image flash' = Function.update d.data key
        (torn.leave side.geometry.undecodable key (d.data key) (some bytes)) := by
    intro flash' left hentry
    obtain ⟨torn, htorn⟩ := exists_torn hbad hkey left (s.flash.entry (eventNamespace, name)) bytes
    refine ⟨torn, ?_⟩
    rw [(h.write hkey hentry).2, htorn, hbefore]
  obtain ⟨flash, opened⟩ := s
  obtain rfl : opened = none := h.closed
  simp only [CarriesCall, store, hkey]
  by_cases hlength : bytes.length = side.geometry.size key
  · rw [← hlength]
    apply handles_writeBlob hdoc (side.length_key hkey)
    · rw [hlength]
      exact side.size_pos key
    · rw [hlength]
      exact side.size_le key
    · intro flash' opened hentry
      refine ⟨.none, rfl, ⟨.old, ?_⟩, ?_⟩
      · rw [image_eq hentry, h.data]
        simp only [Geometry.meets, Geometry.flash, Disk.crash_stage, hkept]
      · intro cell hcell
        rw [hentry]
        exact h.foreign cell hcell
    · intro flash' opened left hentry
      obtain ⟨torn, htorn⟩ := hleft flash' left hentry
      refine ⟨.none, rfl, ⟨torn, ?_⟩, (h.write hkey hentry).1⟩
      simp only [Geometry.meets, Geometry.flash, Disk.crash_stage]
      exact htorn
    · intro flash' hentry
      exact ⟨.none, Or.inl rfl, rfl, rfl, (h.write hkey hentry).2, (h.write hkey hentry).1⟩
    · intro hmay flash' hentry
      refine ⟨.write .unavailable .old, Or.inr (Library.fails_of_mayFail hmay), ?_⟩
      rw [hfails, hkept]
      refine ⟨rfl, rfl, ?_, ?_⟩
      · rw [image_eq hentry]
        exact h.data
      · intro cell hcell
        rw [hentry]
        exact h.foreign cell hcell
    · intro hmay flash' left hentry
      obtain ⟨torn, htorn⟩ := hleft flash' left hentry
      refine ⟨.write .error torn, Or.inr (Library.fails_of_mayFail hmay), ?_⟩
      rw [hfails]
      exact ⟨rfl, rfl, htorn, (h.write hkey hentry).1⟩
  · -- the adapter refuses the write
    unfold writeBlob
    dsimp only
    rw [if_pos hlength]
    apply Library.handles_pure
    refine ⟨.write .error .old, Or.inr (hsized.resolve_right hlength), ?_⟩
    rw [hfails, hkept]
    exact ⟨rfl, rfl, h.data, h.foreign⟩

/-- **The adapter is a flash.** -/
theorem carries (side : Side) (hdoc : L.Documented bad) (hbad : side.Unreadable bad) (before : Flash) (fails : Prop) :
    Carries L.call (L.faultsIf fails) side.store side.geometry.meets (above fails) (fun op => fails ∨ side.Sized op)
      (fun u d => side.Agrees before (L.store u) d) (fun u d => side.LeftAs before (L.store u) d) := by
  constructor
  intro op u d hpermitted h
  cases op with
  | read key => exact carries_read hdoc key h u rfl
  | write key bytes => exact carries_write hdoc hbad key bytes hpermitted h u rfl
  | commit => exact ⟨.none, Or.inl rfl, rfl, h.closed, h.data, h.foreign⟩

theorem agrees_clean (side : Side) {s : Store} (h : s.opened = none) :
    side.Agrees s.flash s (Disk.clean (side.image s.flash)) :=
  ⟨h, rfl, fun _ _ => rfl⟩

/-- A program over the interface leaves the cells of others alone. -/
theorem foreign_kept (side : Side) (hdoc : L.Documented bad) (hbad : side.Unreadable bad) {α : Type} (p : StorageM α)
    (script : List L.Fault) (cut : Option L.Cut) {u : L.State} (hu : (L.store u).opened = none) {cell : Cell}
    (hcell : side.Foreign cell) :
    (L.store (L.execute (p.through side.store) script cut u).2).flash.entry cell = (L.store u).flash.entry cell := by
  apply hdoc.flash_execute (I := fun flash' => flash'.entry cell = (L.store u).flash.entry cell)
  apply (side.carries hdoc hbad (L.store u).flash True).keeps (Prog.calls_of_forall (fun _ => Or.inl trivial) p)
    (t := Disk.clean (side.image (L.store u).flash))
    (I := fun u' => (L.store u').flash.entry cell = (L.store u).flash.entry cell)
  · exact side.agrees_clean hu
  · intro u' d h
    exact h.foreign cell hcell
  · intro u' d h
    exact h.foreign cell hcell

end Carried

/-! ### Executions -/

theorem faulty_eq_scripted (geo : Geometry) : geo.faulty = scripted geo.meets .none := by
  funext op d
  obtain ⟨d, script⟩ := d
  cases script with
  | nil => cases op <;> rfl
  | cons fault script => rfl

theorem execFaulty_of_perform {geo : Geometry} {α : Type} {p : StorageM α} {script : List Fault} {img : Image} {a : α}
    {d : FlashDisk} (h : perform geo.meets .none p script (Disk.clean img) = (a, d)) :
    geo.execFaulty p script none img = (some a, d.data) := by
  unfold perform at h
  rw [← faulty_eq_scripted] at h
  simp only [Geometry.execFaulty, Disk.crash_new]
  rw [Prod.ext_iff] at h
  exact Prod.ext (congrArg some h.1) (congrArg Disk.data h.2)

theorem execFaulty_of_interrupt {geo : Geometry} {α : Type} {p : StorageM α} {script : List Fault} {n : ℕ} {img : Image}
    {d : FlashDisk} (h : (interrupt geo.meets .none p script n (Disk.clean img)).2 = d) (torn : Torn Bytes) :
    (geo.execFaulty p script (some ⟨n, torn⟩) img).2 = d.crash geo.undecodable torn := by
  unfold interrupt at h
  rw [← faulty_eq_scripted] at h
  exact congrArg (Disk.crash geo.undecodable torn) h

end Side

open Side in
/-- **The Event storage is the flash of the model.**  Whatever a program over the storage interface makes of the chip
through the adapter, on a library that is as documented, under every script of library failures and with power lost in
any library call, it makes of the flash `image` under some script of faults and with some loss of power: the same value
if it returns, and the same contents of all copies.  If no library call fails and every copy is written at its size, no
fault is met.  No namespace is left open, and the values of other keys and of other namespaces stay as they were. -/
theorem eventStorage_refines (side : Side) (L : Library) (bad : Cell → Entry → Bool) (hdoc : L.Documented bad)
    (hbad : side.Unreadable bad) {α : Type} (p : StorageM α) (script : List L.Fault) (cut : Option L.Cut) (u : L.State)
    (hu : (L.store u).opened = none) :
    let low := L.execute (p.through side.store) script cut u
    ∃ script' cut', let high := side.geometry.execFaulty p script' cut' (side.image (L.store u).flash)
      (∀ a, low.1 = some a → high.1 = some a) ∧ side.image (L.store low.2).flash = high.2 ∧
      (L.store low.2).opened = none ∧
      (∀ cell, side.Foreign cell → (L.store low.2).flash.entry cell = (L.store u).flash.entry cell) ∧
      (cut = none → cut' = none) ∧
      ((∀ f ∈ script, f = L.calm) → p.Calls side.Sized → ∀ f ∈ script', f = .none) := by
  intro low
  let fails : Prop := ¬ ((∀ f ∈ script, f = L.calm) ∧ p.Calls side.Sized)
  have hscript : ∀ f ∈ script, (L.faultsIf fails).allowed f := allowed_unless_calm
  have hcalls : p.Calls fun op => fails ∨ side.Sized op := p.calls_unless _
  have hquiet : ∀ script' : List Fault, (∀ f ∈ script', (above fails).allowed f) →
      (∀ f ∈ script, f = L.calm) → p.Calls side.Sized → ∀ f ∈ script', f = .none := by
    intro script' hscript' hcalm hsized f hf
    exact (hscript' f hf).resolve_right (not_not.2 ⟨hcalm, hsized⟩)
  have hagrees := side.agrees_clean hu
  have hcarries := side.carries hdoc hbad (L.store u).flash fails
  cases cut with
  | none =>
    obtain ⟨script', hscript', hvalue, hleft⟩ := hcarries.performs hcalls hagrees hscript
    refine ⟨script', none, ?_⟩
    rw [execFaulty_of_perform rfl]
    refine ⟨?_, hleft.data, hleft.closed, hleft.foreign, fun _ => rfl, hquiet script' hscript'⟩
    intro a ha
    rw [← ha]
    exact congrArg some hvalue
  | some c =>
    rcases L.execute_cut (p.through side.store) script c u with ⟨a, u', hrun, hlow⟩ | ⟨u', hrun, hlow⟩
    · rw [show low = (some a, u') from hlow]
      obtain ⟨script', d, hscript', hperform, hleft⟩ := hcarries.returns hcalls hagrees hscript trivial hrun
      refine ⟨script', none, ?_⟩
      rw [execFaulty_of_perform hperform]
      refine ⟨fun _ h => h, hleft.data, hleft.closed, hleft.foreign, ?_, hquiet script' hscript'⟩
      simp
    · rw [show low = (none, L.restart u') from hlow]
      dsimp only
      rw [hdoc.restart]
      obtain ⟨script', n, cut', d, hscript', rfl, hlost, ⟨torn, himage⟩, hforeign⟩ :=
        hcarries.cuts hcalls hagrees hscript trivial hrun
      obtain ⟨script'', hscript'', hinterrupt⟩ := interrupt_of_cutDuring hlost
      refine ⟨script'', some ⟨n + 1, torn⟩, ?_⟩
      refine ⟨by simp, ?_, rfl, hforeign, by simp, ?_⟩
      · rw [execFaulty_of_interrupt hinterrupt, himage]
      · apply hquiet
        intro f hf
        rcases hscript'' f hf with hf | rfl | rfl
        · exact hscript' f hf
        · exact (above fails).allowed_calm
        · exact (above fails).allowed_calm

namespace Side

/-- Values without bytes, as a failed write may leave them. -/
def emptied (_ : Cell) (entry : Entry) : Bool := entry.bytes.isEmpty

/-- Nothing decodes from no bytes. -/
theorem unreadable_emptied (side : Side) : side.Unreadable emptied := by
  intro key cell entry _ hbad
  have hbytes : entry.bytes = [] := by simpa [emptied] using hbad
  rw [hbytes]
  cases side <;> cases key <;> rfl

end Side

open Side in
/-- A Node that recovers its identities on a blank chip, where the first write fails and leaves no bytes. -/
theorem eventStorage_refines_failing :
    let L := Library.direct emptied
    let p := Node.Allocator.recover (some 7) 2 .empty
    let script := [.none, .none, .none, .fails (.garbage (.blob []))]
    let low := L.execute (p.through (Side.store .node)) script none ⟨.blank, none⟩
    ∃ script' cut', let high := Geometry.execFaulty (Side.geometry .node) p script' cut' (Side.image .node .blank)
      (∀ a, low.1 = some a → high.1 = some a) ∧ Side.image .node low.2.flash = high.2 ∧ low.2.opened = none ∧
      (∀ cell, Side.Foreign .node cell → low.2.flash.entry cell = Flash.blank.entry cell) ∧
      ((none : Option L.Cut) = none → cut' = none) ∧
      ((∀ f ∈ script, f = L.calm) → p.Calls (Side.Sized .node) → ∀ f ∈ script', f = .none) :=
  eventStorage_refines .node (Library.direct emptied) emptied (Library.direct_documented emptied)
    (unreadable_emptied .node) _ _ none ⟨.blank, none⟩ rfl

/-! ### Without failures -/

namespace Side

section Calm

variable {side : Side} {α : Type} {p : StorageM α} {script : List Fault} {d d' : FlashDisk}

theorem meets_none (geo : Geometry) : geo.meets .none = geo.flash := by
  funext op d
  cases op <;> rfl

theorem headD_of_calm (h : ∀ f ∈ script, f = .none) : script.headD .none = .none := by
  cases script with
  | nil => rfl
  | cons fault script => exact h fault (by simp)

theorem run_of_perform {a : α} (hcalm : ∀ f ∈ script, f = .none)
    (h : perform side.geometry.meets .none p script d = (a, d')) : p.run side.geometry.flash d = (a, d') := by
  induction p generalizing script d with
  | pure b => exact h
  | call op next ih =>
    rw [perform_step, headD_of_calm hcalm, meets_none] at h
    apply ih _ _ h
    intro f hf
    exact hcalm f (List.mem_of_mem_tail hf)

/-- A loss of power inside a call of a committing program leaves what one between two calls leaves. -/
theorem lost_of_cutDuring (hp : side.Committing p) (hcalm : ∀ f ∈ script, f = .none) {n : ℕ}
    (h : cutDuring side.geometry.meets .none .none p script n d = (none, d')) (torn : Torn Bytes) :
    ∃ n' torn' d'', p.runFor side.geometry.flash n' d = (none, d'') ∧
      d''.crash side.geometry.undecodable torn' = d'.crash side.geometry.undecodable torn := by
  induction p generalizing script n d with
  | pure a => cases h
  | call op next ih =>
    cases n with
    | zero =>
      simp only [cutDuring, meets_none, Prod.mk.injEq, true_and] at h
      subst h
      cases op with
      | read key => exact ⟨0, torn, d, rfl, rfl⟩
      | write key bytes =>
        obtain ⟨rest, hrest⟩ := hp.2.1
        refine ⟨1, torn, _, ?_, rfl⟩
        change (next StorageResult.ok).runFor side.geometry.flash 0 _ = _
        rw [hrest]
        rfl
      | commit =>
        refine ⟨0, .new, d, rfl, ?_⟩
        rw [Disk.crash_new]
        rfl
    | succ n =>
      simp only [cutDuring, headD_of_calm hcalm, meets_none] at h
      have hnext : side.Committing (next (side.geometry.flash op d).1) := by
        cases op with
        | write key bytes => exact hp.2.2 _
        | _ => exact hp _
      have htail : ∀ f ∈ script.tail, f = .none := fun f hf => hcalm f (List.mem_of_mem_tail hf)
      obtain ⟨n', torn', d'', hrun, hcrash⟩ := ih _ hnext htail h
      exact ⟨n' + 1, torn', d'', hrun, hcrash⟩

/-- **Without failures** of the library, a committing program ends on the chip as it ends on the flash of the model. -/
theorem exec_of_committing (side : Side) {L : Library} {bad : Cell → Entry → Bool} (hdoc : L.Documented bad)
    (hbad : side.Unreadable bad) (hp : side.Committing p) (cut : Option L.Cut) {u : L.State}
    (hu : (L.store u).opened = none) :
    (∀ a u', L.execute (p.through side.store) [] cut u = (some a, u') → (L.store u').opened = none ∧
      ∃ d, exec side.geometry.flash side.geometry.undecodable p none (Disk.clean (side.image (L.store u).flash)) =
        .done a d ∧ d.data = side.image (L.store u').flash) ∧
    ∀ u', L.execute (p.through side.store) [] cut u = (none, u') → (L.store u').opened = none ∧
      cut ≠ none ∧ ∃ cut', exec side.geometry.flash side.geometry.undecodable p cut'
        (Disk.clean (side.image (L.store u).flash)) = .lost (side.image (L.store u').flash) := by
  have hcalls : p.Calls fun op => False ∨ side.Sized op := hp.calls.mono fun _ => Or.inr
  have hscript : ∀ f ∈ ([] : List L.Fault), (L.faultsIf False).allowed f := by simp
  have hagrees := side.agrees_clean hu
  have hcarries := side.carries hdoc hbad (L.store u).flash False
  have hdone : ∀ {script' a d u'}, (∀ f ∈ script', (above False).allowed f) →
      perform side.geometry.meets .none p script' (Disk.clean (side.image (L.store u).flash)) = (a, d) →
      side.Agrees (L.store u).flash (L.store u') d → (L.store u').opened = none ∧
      ∃ d, exec side.geometry.flash side.geometry.undecodable p none (Disk.clean (side.image (L.store u).flash)) =
        .done a d ∧ d.data = side.image (L.store u').flash := by
    intro script' a d u' hscript' hperform hleft
    refine ⟨hleft.closed, d, ?_, hleft.data.symm⟩
    have hrun := run_of_perform (fun f hf => (hscript' f hf).resolve_right not_false) hperform
    simp only [exec, hrun]
  cases cut with
  | none =>
    constructor
    · intro a u' hlow
      obtain ⟨script', hscript', hvalue, hleft⟩ := hcarries.performs hcalls hagrees hscript
      cases hlow
      exact hdone hscript' (Prod.ext hvalue rfl) hleft
    · intro u' hlow
      cases hlow
  | some c =>
    rcases L.execute_cut (p.through side.store) [] c u with ⟨a, u₁, hrun, hexecute⟩ | ⟨u₁, hrun, hexecute⟩
    · constructor
      · intro a' u' hlow
        obtain ⟨rfl, rfl⟩ : a = a' ∧ u₁ = u' := by simpa [hexecute] using hlow
        obtain ⟨script', d, hscript', hperform, hleft⟩ := hcarries.returns hcalls hagrees hscript trivial hrun
        exact hdone hscript' hperform hleft
      · intro u' hlow
        rw [hexecute] at hlow
        cases hlow
    · constructor
      · intro a' u' hlow
        rw [hexecute] at hlow
        cases hlow
      · intro u' hlow
        obtain rfl : L.restart u₁ = u' := by simpa [hexecute] using hlow
        rw [hdoc.restart]
        obtain ⟨script', n, cut', d, hscript', rfl, hlost, ⟨torn, himage⟩, -⟩ :=
          hcarries.cuts hcalls hagrees hscript trivial hrun
        have hcalm : ∀ f ∈ script', f = .none := fun f hf => (hscript' f hf).resolve_right not_false
        obtain ⟨n', torn', d'', hrun', hcrash⟩ := lost_of_cutDuring hp hcalm hlost torn
        refine ⟨rfl, by simp, some ⟨n', torn'⟩, ?_⟩
        simp only [exec, hrun']
        rw [hcrash]
        exact congrArg Outcome.lost himage.symm

end Calm

end Side

end Redline.Esp32
