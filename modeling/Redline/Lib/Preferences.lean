import Redline.Lib.Driver
import Redline.Lib.Flash

/-!
# A store of typed values under names

The key-value store that the Arduino `Preferences` class keeps in the non-volatile storage of a chip: namespaces that
are made when they are first opened for writing, and in each of them typed values under keys.  A namespace is opened,
for reading or for writing, before its keys are used.

The library itself is a parameter.  `Library` is what a library of this interface has, and `Library.Documented` what its
documentation says of each call: what the answer means, which value a write or a removal changes, and how a call that
fails says so.  A look-up that fails is answered as if there were nothing; a write or a removal that fails, or in which
power is lost, leaves its value as it was, as it was to be, or as a value that `bad` says nobody can read there.

`L.Handles faults Q C p s`: on a library whose store is `s`, the program `p` returns with `Q` of the store, whatever
admitted faults its calls meet, and a loss of power inside a call leaves a store with `C`.  The rules for it
(`Documented.handles_*`) rest on the documentation alone.  `Library.direct` is a library that is as documented
(`direct_documented`).
-/

namespace Redline.Lib.Preferences

/-- A stored value, with its type as far as it matters here. -/
inductive Entry
  | blob (bytes : List UInt8)
  | uchar (value : UInt8)
  | other
  deriving DecidableEq

inductive EntryType
  | blob | uchar | other | invalid
  deriving DecidableEq

def Entry.type : Entry → EntryType
  | .blob _ => .blob
  | .uchar _ => .uchar
  | .other => .other

def typeOf : Option Entry → EntryType
  | none => .invalid
  | some entry => entry.type

/-- The bytes of a blob; a value of another type has none. -/
def Entry.bytes : Entry → List UInt8
  | .blob bytes => bytes
  | _ => []

/-- A namespace and a key in it. -/
abbrev Cell := String × String

/-- The namespaces that have been made, and the values in them. -/
abbrev Flash := String → Option (String → Option Entry)

namespace Flash

/-- Nothing has been stored. -/
def blank : Flash := fun _ => none

def entry (flash : Flash) (cell : Cell) : Option Entry := (flash cell.1).bind fun keys => keys cell.2

def make (flash : Flash) (name : String) : Flash :=
  Function.update flash name (some ((flash name).getD fun _ => none))

def put (flash : Flash) (cell : Cell) (content : Option Entry) : Flash :=
  Function.update flash cell.1 (some (Function.update ((flash cell.1).getD fun _ => none) cell.2 content))

variable (flash : Flash)

theorem entry_of_unmade {name : String} (h : flash name = none) (key : String) : flash.entry (name, key) = none := by
  simp [entry, h]

@[simp] theorem entry_make (name : String) : (flash.make name).entry = flash.entry := by
  funext cell
  by_cases hcell : cell.1 = name
  · subst hcell
    cases hkeys : flash cell.1 <;> simp [entry, make, hkeys]
  · simp [entry, make, hcell]

@[simp] theorem entry_put (cell : Cell) (content : Option Entry) :
    (flash.put cell content).entry = Function.update flash.entry cell content := by
  funext cell'
  obtain ⟨name, key⟩ := cell
  obtain ⟨name', key'⟩ := cell'
  by_cases hname : name' = name
  · subst hname
    by_cases hkey : key' = key
    · subst hkey
      simp [entry, put]
    · cases hkeys : flash name' <;> simp [entry, put, hkeys, hkey]
  · simp [entry, put, hname]

end Flash

/-- The flash, and the namespace that is open with whether it is read-only. -/
structure Store where
  flash : Flash
  opened : Option (String × Bool)

/-- What `nvs_open` reports. -/
inductive OpenResult
  | ok | notFound | failed
  deriving DecidableEq

inductive PreferencesOp
  | nvsOpen (name : String)
  | nvsClose
  | begin (name : String) (readOnly : Bool)
  | end
  | isKey (key : String)
  | getType (key : String)
  | getBytesLength (key : String)
  | getBytes (key : String) (maxLength : ℕ)
  | getUChar (key : String) (default : UInt8)
  | putBytes (key : String) (bytes : List UInt8)
  | putBool (key : String) (value : Bool)
  | remove (key : String)

def PreferencesOp.Reply : PreferencesOp → Type
  | .nvsOpen _ => OpenResult
  | .nvsClose | .end => Unit
  | .begin _ _ | .isKey _ | .remove _ => Bool
  | .getType _ => EntryType
  | .getBytesLength _ | .putBytes _ _ | .putBool _ _ => ℕ
  | .getBytes _ _ => List UInt8
  | .getUChar _ _ => UInt8

/-- Code that calls the library. -/
abbrev PreferencesM := Prog PreferencesOp.Reply

def nvsOpen (name : String) : PreferencesM OpenResult := Prog.lift (PreferencesOp.nvsOpen name)
def nvsClose : PreferencesM Unit := Prog.lift PreferencesOp.nvsClose
def beginNamespace (name : String) (readOnly : Bool) : PreferencesM Bool :=
  Prog.lift (PreferencesOp.begin name readOnly)
def endNamespace : PreferencesM Unit := Prog.lift PreferencesOp.end
def isKey (key : String) : PreferencesM Bool := Prog.lift (PreferencesOp.isKey key)
def getType (key : String) : PreferencesM EntryType := Prog.lift (PreferencesOp.getType key)
def getBytesLength (key : String) : PreferencesM ℕ := Prog.lift (PreferencesOp.getBytesLength key)
def getBytes (key : String) (maxLength : ℕ) : PreferencesM (List UInt8) :=
  Prog.lift (PreferencesOp.getBytes key maxLength)
def getUChar (key : String) (default : UInt8) : PreferencesM UInt8 := Prog.lift (PreferencesOp.getUChar key default)
def putBytes (key : String) (bytes : List UInt8) : PreferencesM ℕ := Prog.lift (PreferencesOp.putBytes key bytes)
def putBool (key : String) (value : Bool) : PreferencesM ℕ := Prog.lift (PreferencesOp.putBool key value)
def removeKey (key : String) : PreferencesM Bool := Prog.lift (PreferencesOp.remove key)

namespace Store

/-- The value under a key of the open namespace. -/
def find (s : Store) (key : String) : Option Entry := s.opened.bind fun o => s.flash.entry (o.1, key)

/-- The namespace is open. -/
def enter (s : Store) (name : String) (readOnly : Bool) : Store :=
  ⟨if readOnly then s.flash else s.flash.make name, some (name, readOnly)⟩

end Store

/-! ### The library -/

/-- The library that the code calls: its states, what may go wrong in a call (nothing does in a call that is `calm`),
the answer to a call and the state after it, the state after a loss of power, and what of a state is stored and open. -/
structure Library where
  State : Type
  Fault : Type
  calm : Fault
  call : Fault → Device PreferencesOp.Reply State
  restart : State → State
  store : State → Store

/-- The longest name of a namespace, and the longest key. -/
def maxNameLength : ℕ := 15

/-- A length for which every partition has room. -/
def maxBlobLength : ℕ := 4000

namespace Library

/-- A call that meets the fault answers `reply`, and leaves the store `after`. -/
def Gives (L : Library) (fault : L.Fault) (op : PreferencesOp) (u : L.State) (reply : op.Reply) (after : Store) : Prop :=
  (L.call fault op u).1 = reply ∧ L.store (L.call fault op u).2 = after

/-- A call gives a key of the namespace that is open for writing a new content, and answers `done`; or it fails, answers
`refused`, and leaves the content torn. -/
def Puts (L : Library) (bad : Cell → Entry → Bool) (fault : L.Fault) (op : PreferencesOp) (u : L.State) (key : String)
    (content : Option Entry) (done refused : op.Reply) : Prop :=
  ∀ flash name, L.store u = ⟨flash, some (name, false)⟩ →
    L.Gives fault op u done ⟨flash.put (name, key) content, some (name, false)⟩ ∨
      fault ≠ L.calm ∧ ∃ left : Torn Entry, L.Gives fault op u refused
        ⟨flash.put (name, key) (left.leave bad (name, key) (flash.entry (name, key)) content), some (name, false)⟩

/-- **What is documented of the library.**  Power may be lost inside any call, which then has met some fault. -/
structure Documented (L : Library) (bad : Cell → Entry → Bool) : Prop where
  /-- A loss of power closes what is open. -/
  restart : ∀ u, L.store (L.restart u) = ⟨(L.store u).flash, none⟩
  /-- `nvs_open`, for reading, finds a namespace that has been made, reports one that has not, or fails. -/
  nvsOpen : ∀ fault name u,
    (L.Gives fault (.nvsOpen name) u OpenResult.ok (L.store u) ∧ ((L.store u).flash name).isSome = true) ∨
      (L.Gives fault (.nvsOpen name) u OpenResult.notFound (L.store u) ∧ (L.store u).flash name = none) ∨
      (fault ≠ L.calm ∧ L.Gives fault (.nvsOpen name) u OpenResult.failed (L.store u))
  nvsClose : ∀ fault u, L.Gives fault .nvsClose u () (L.store u)
  /-- `begin` opens the namespace, and makes it if that is for writing.  Otherwise it answers false: where there is none
  to be read, or in a failure, which may come after the namespace has been made. -/
  begin : ∀ fault name readOnly u, name.length ≤ maxNameLength → (L.store u).opened = none →
    L.Gives fault (.begin name readOnly) u true ((L.store u).enter name readOnly) ∨
      (L.Gives fault (.begin name readOnly) u false (L.store u) ∧
        (fault ≠ L.calm ∨ readOnly = true ∧ (L.store u).flash name = none)) ∨
      (fault ≠ L.calm ∧ readOnly = false ∧
        L.Gives fault (.begin name readOnly) u false ⟨(L.store u).flash.make name, none⟩)
  /-- `end` closes the namespace. -/
  end_closes : ∀ fault u, L.Gives fault .end u () { L.store u with opened := none }
  /-- `isKey` finds a key that has a value; if it fails it finds none. -/
  isKey : ∀ fault key u, L.Gives fault (.isKey key) u ((L.store u).find key).isSome (L.store u) ∨
    fault ≠ L.calm ∧ L.Gives fault (.isKey key) u false (L.store u)
  /-- `getType` names the type of a value; if it fails it calls it invalid. -/
  getType : ∀ fault key u, L.Gives fault (.getType key) u (typeOf ((L.store u).find key)) (L.store u) ∨
    fault ≠ L.calm ∧ L.Gives fault (.getType key) u EntryType.invalid (L.store u)
  /-- `getBytesLength` gives the length of a blob, and 0 for what is none; if it fails it gives 0. -/
  getBytesLength : ∀ fault key u,
    L.Gives fault (.getBytesLength key) u (((L.store u).find key).map Entry.bytes |>.getD []).length (L.store u) ∨
      fault ≠ L.calm ∧ L.Gives fault (.getBytesLength key) u (0 : ℕ) (L.store u)
  /-- `getBytes` copies a blob that fits; if it fails it copies nothing. -/
  getBytes : ∀ fault key bytes u, (L.store u).find key = some (.blob bytes) →
    L.Gives fault (.getBytes key bytes.length) u bytes (L.store u) ∨
      fault ≠ L.calm ∧ L.Gives fault (.getBytes key bytes.length) u ([] : List UInt8) (L.store u)
  /-- `getUChar` gives the value; if it fails it gives the default. -/
  getUChar : ∀ fault key default value u, (L.store u).find key = some (.uchar value) →
    L.Gives fault (.getUChar key default) u value (L.store u) ∨
      fault ≠ L.calm ∧ L.Gives fault (.getUChar key default) u default (L.store u)
  /-- `putBytes` stores a blob and gives its length; if it fails it gives 0. -/
  putBytes : ∀ fault key bytes u, key.length ≤ maxNameLength → bytes ≠ [] → bytes.length ≤ maxBlobLength →
    L.Puts bad fault (.putBytes key bytes) u key (some (.blob bytes)) bytes.length (0 : ℕ)
  /-- `putBool` stores a byte and gives 1; if it fails it gives 0. -/
  putBool : ∀ fault key value u, key.length ≤ maxNameLength →
    L.Puts bad fault (.putBool key value) u key (some (.uchar (if value then 1 else 0))) (1 : ℕ) (0 : ℕ)
  /-- `remove` removes a value that is there, and says so; or it fails. -/
  remove : ∀ fault key u, ((L.store u).find key).isSome = true → L.Puts bad fault (.remove key) u key none true false

/-! ### What a call does -/

/-- Whatever admitted faults the calls meet, and wherever power is lost, as far as the store can tell. -/
def Handles {α : Type} (L : Library) (faults : Faults L.Fault) (Q : α → Store → Prop) (C : Store → Prop)
    (p : PreferencesM α) (s : Store) : Prop :=
  ∀ u, L.store u = s → Copes L.call faults (fun a u' => Q a (L.store u')) (fun u' => C (L.store u')) p u

/-- Some admitted fault is one. -/
def MayFail (L : Library) (faults : Faults L.Fault) : Prop := ∃ fault, faults.allowed fault ∧ fault ≠ L.calm

/-- The faults of the library on which calls fail only if `fails`, and in every call power may be lost. -/
def faultsIf (L : Library) (fails : Prop) : Faults L.Fault := .given L.calm fails fun _ => True

/-- What a call has to come to: a store with `C` if power is lost in it, and the rest of the program if its fault is
admitted. -/
def Outcome {α : Type} (L : Library) (faults : Faults L.Fault) (Q : α → Store → Prop) (C : Store → Prop)
    (fault : L.Fault) (op : PreferencesOp) (f : op.Reply → PreferencesM α) (u : L.State) : Prop :=
  C (L.store (L.call fault op u).2) ∧ (faults.allowed fault →
    L.Handles faults Q C (f (L.call fault op u).1) (L.store (L.call fault op u).2))

section Rules

variable {α β : Type} {L : Library} {bad : Cell → Entry → Bool} {faults : Faults L.Fault} {Q : α → Store → Prop}
  {C : Store → Prop} {s : Store}

theorem fails_of_mayFail {fails : Prop} (h : L.MayFail (L.faultsIf fails)) : fails := by
  obtain ⟨fault, hfault | hfails, hmet⟩ := h
  · exact absurd hfault hmet
  · exact hfails

theorem handles_pure {a : α} (h : Q a s) : L.Handles faults Q C (pure a) s := by
  rintro u rfl
  exact h

theorem handles_bind {p : PreferencesM β} {f : β → PreferencesM α}
    (h : L.Handles faults (fun b s' => L.Handles faults Q C (f b) s') C p s) : L.Handles faults Q C (p >>= f) s := by
  intro u hu
  apply copes_bind
  exact copes_mono (fun b u' hb => hb u' rfl) (fun _ hu' => hu') (h u hu)

theorem handles_call {op : PreferencesOp} {f : op.Reply → PreferencesM α}
    (h : ∀ u fault, L.store u = s → L.Outcome faults Q C fault op f u) :
    L.Handles faults Q C (Prog.lift op >>= f) s := by
  intro u hu
  constructor
  · intro cut _
    exact (h u cut hu).1
  · intro fault hfault
    exact (h u fault hu).2 hfault _ rfl

theorem Gives.outcome {fault : L.Fault} {op : PreferencesOp} {f : op.Reply → PreferencesM α} {u : L.State}
    {reply : op.Reply} {after : Store} (h : L.Gives fault op u reply after) (hC : C after)
    (hf : faults.allowed fault → L.Handles faults Q C (f reply) after) : L.Outcome faults Q C fault op f u := by
  obtain ⟨rfl, rfl⟩ := h
  exact ⟨hC, hf⟩

theorem Documented.handles_nvsOpen (hdoc : L.Documented bad) {name : String} {f : OpenResult → PreferencesM α} (hC : C s)
    (hmade : (s.flash name).isSome = true → L.Handles faults Q C (f .ok) s)
    (hunmade : s.flash name = none → L.Handles faults Q C (f .notFound) s)
    (hfail : L.MayFail faults → L.Handles faults Q C (f .failed) s) :
    L.Handles faults Q C (Preferences.nvsOpen name >>= f) s := by
  apply handles_call
  rintro u fault rfl
  rcases hdoc.nvsOpen fault name u with ⟨hgives, hthere⟩ | ⟨hgives, hnone⟩ | ⟨hne, hgives⟩
  · exact hgives.outcome hC fun _ => hmade hthere
  · exact hgives.outcome hC fun _ => hunmade hnone
  · exact hgives.outcome hC fun hallowed => hfail ⟨fault, hallowed, hne⟩

theorem Documented.handles_nvsClose (hdoc : L.Documented bad) {f : Unit → PreferencesM α} (hC : C s)
    (h : L.Handles faults Q C (f ()) s) : L.Handles faults Q C (Preferences.nvsClose >>= f) s := by
  apply handles_call
  rintro u fault rfl
  exact (hdoc.nvsClose fault u).outcome hC fun _ => h

theorem Documented.handles_beginRead (hdoc : L.Documented bad) {name : String} {f : Bool → PreferencesM α}
    (hname : name.length ≤ maxNameLength) (hclosed : s.opened = none) (hC : C s) (hentered : C (s.enter name true))
    (hopen : L.Handles faults Q C (f true) (s.enter name true))
    (hrefused : L.MayFail faults ∨ s.flash name = none → L.Handles faults Q C (f false) s) :
    L.Handles faults Q C (beginNamespace name true >>= f) s := by
  apply handles_call
  rintro u fault rfl
  rcases hdoc.begin fault name true u hname hclosed with hgives | ⟨hgives, hwhy⟩ | ⟨-, hwrite, -⟩
  · exact hgives.outcome hentered fun _ => hopen
  · refine hgives.outcome hC fun hallowed => hrefused ?_
    rcases hwhy with hne | ⟨-, hnone⟩
    · exact Or.inl ⟨fault, hallowed, hne⟩
    · exact Or.inr hnone
  · cases hwrite

theorem Documented.handles_beginWrite (hdoc : L.Documented bad) {flash : Flash} {name : String}
    {f : Bool → PreferencesM α} (hname : name.length ≤ maxNameLength) (hC : C ⟨flash, none⟩)
    (hmade : C ⟨flash.make name, none⟩) (hentered : C ⟨flash.make name, some (name, false)⟩)
    (hopen : L.Handles faults Q C (f true) ⟨flash.make name, some (name, false)⟩)
    (hrefused : L.MayFail faults → L.Handles faults Q C (f false) ⟨flash, none⟩ ∧
      L.Handles faults Q C (f false) ⟨flash.make name, none⟩) :
    L.Handles faults Q C (beginNamespace name false >>= f) ⟨flash, none⟩ := by
  apply handles_call
  intro u fault hu
  have hbegin := hdoc.begin fault name false u hname
  rw [hu] at hbegin
  rcases hbegin rfl with hgives | ⟨hgives, hwhy⟩ | ⟨hne, -, hgives⟩
  · exact hgives.outcome hentered fun _ => hopen
  · refine hgives.outcome hC fun hallowed => (hrefused ⟨fault, hallowed, ?_⟩).1
    exact hwhy.resolve_right fun hread => Bool.noConfusion hread.1
  · exact hgives.outcome hmade fun hallowed => (hrefused ⟨fault, hallowed, hne⟩).2

theorem Documented.handles_end (hdoc : L.Documented bad) {f : Unit → PreferencesM α} (hC : C { s with opened := none })
    (h : L.Handles faults Q C (f ()) { s with opened := none }) : L.Handles faults Q C (endNamespace >>= f) s := by
  apply handles_call
  rintro u fault rfl
  exact (hdoc.end_closes fault u).outcome hC fun _ => h

theorem Documented.handles_isKey (hdoc : L.Documented bad) {key : String} {f : Bool → PreferencesM α} (hC : C s)
    (h : L.Handles faults Q C (f (s.find key).isSome) s) (hfail : L.MayFail faults → L.Handles faults Q C (f false) s) :
    L.Handles faults Q C (Preferences.isKey key >>= f) s := by
  apply handles_call
  rintro u fault rfl
  rcases hdoc.isKey fault key u with hgives | ⟨hne, hgives⟩
  · exact hgives.outcome hC fun _ => h
  · exact hgives.outcome hC fun hallowed => hfail ⟨fault, hallowed, hne⟩

theorem Documented.handles_getType (hdoc : L.Documented bad) {key : String} {f : EntryType → PreferencesM α} (hC : C s)
    (h : L.Handles faults Q C (f (typeOf (s.find key))) s)
    (hfail : L.MayFail faults → L.Handles faults Q C (f .invalid) s) :
    L.Handles faults Q C (Preferences.getType key >>= f) s := by
  apply handles_call
  rintro u fault rfl
  rcases hdoc.getType fault key u with hgives | ⟨hne, hgives⟩
  · exact hgives.outcome hC fun _ => h
  · exact hgives.outcome hC fun hallowed => hfail ⟨fault, hallowed, hne⟩

theorem Documented.handles_getBytesLength (hdoc : L.Documented bad) {key : String} {f : ℕ → PreferencesM α} (hC : C s)
    (h : L.Handles faults Q C (f (((s.find key).map Entry.bytes).getD []).length) s)
    (hfail : L.MayFail faults → L.Handles faults Q C (f 0) s) :
    L.Handles faults Q C (Preferences.getBytesLength key >>= f) s := by
  apply handles_call
  rintro u fault rfl
  rcases hdoc.getBytesLength fault key u with hgives | ⟨hne, hgives⟩
  · exact hgives.outcome hC fun _ => h
  · exact hgives.outcome hC fun hallowed => hfail ⟨fault, hallowed, hne⟩

theorem Documented.handles_getBytes (hdoc : L.Documented bad) {key : String} {bytes : List UInt8}
    {f : List UInt8 → PreferencesM α} (hC : C s) (hfind : s.find key = some (.blob bytes))
    (h : L.Handles faults Q C (f bytes) s) (hfail : L.MayFail faults → L.Handles faults Q C (f []) s) :
    L.Handles faults Q C (Preferences.getBytes key bytes.length >>= f) s := by
  apply handles_call
  rintro u fault rfl
  rcases hdoc.getBytes fault key bytes u hfind with hgives | ⟨hne, hgives⟩
  · exact hgives.outcome hC fun _ => h
  · exact hgives.outcome hC fun hallowed => hfail ⟨fault, hallowed, hne⟩

theorem Documented.handles_getUChar (hdoc : L.Documented bad) {key : String} {default value : UInt8}
    {f : UInt8 → PreferencesM α} (hC : C s) (hfind : s.find key = some (.uchar value))
    (h : L.Handles faults Q C (f value) s) (hfail : L.MayFail faults → L.Handles faults Q C (f default) s) :
    L.Handles faults Q C (Preferences.getUChar key default >>= f) s := by
  apply handles_call
  rintro u fault rfl
  rcases hdoc.getUChar fault key default value u hfind with hgives | ⟨hne, hgives⟩
  · exact hgives.outcome hC fun _ => h
  · exact hgives.outcome hC fun hallowed => hfail ⟨fault, hallowed, hne⟩

section Writes

variable {flash : Flash} {name key : String} {content : Option Entry}

/-- A write that succeeds, or fails and leaves its value torn. -/
theorem handles_put {op : PreferencesOp} {f : op.Reply → PreferencesM α} {done refused : op.Reply}
    (hputs : ∀ u fault, L.store u = ⟨flash, some (name, false)⟩ → L.Puts bad fault op u key content done refused)
    (hC : ∀ left : Torn Entry, C ⟨flash.put (name, key)
      (left.leave bad (name, key) (flash.entry (name, key)) content), some (name, false)⟩)
    (h : L.Handles faults Q C (f done) ⟨flash.put (name, key) content, some (name, false)⟩)
    (hfail : L.MayFail faults → ∀ left : Torn Entry, L.Handles faults Q C (f refused) ⟨flash.put (name, key)
      (left.leave bad (name, key) (flash.entry (name, key)) content), some (name, false)⟩) :
    L.Handles faults Q C (Prog.lift op >>= f) ⟨flash, some (name, false)⟩ := by
  apply handles_call
  intro u fault hu
  rcases hputs u fault hu flash name hu with hgives | ⟨hne, left, hgives⟩
  · exact hgives.outcome (hC .new) fun _ => h
  · exact hgives.outcome (hC left) fun hallowed => hfail ⟨fault, hallowed, hne⟩ left

theorem Documented.handles_putBytes (hdoc : L.Documented bad) {bytes : List UInt8} {f : ℕ → PreferencesM α}
    (hkey : key.length ≤ maxNameLength) (hbytes : bytes ≠ []) (hlength : bytes.length ≤ maxBlobLength)
    (hC : ∀ left : Torn Entry, C ⟨flash.put (name, key)
      (left.leave bad (name, key) (flash.entry (name, key)) (some (.blob bytes))), some (name, false)⟩)
    (h : L.Handles faults Q C (f bytes.length) ⟨flash.put (name, key) (some (.blob bytes)), some (name, false)⟩)
    (hfail : L.MayFail faults → ∀ left : Torn Entry, L.Handles faults Q C (f 0) ⟨flash.put (name, key)
      (left.leave bad (name, key) (flash.entry (name, key)) (some (.blob bytes))), some (name, false)⟩) :
    L.Handles faults Q C (Preferences.putBytes key bytes >>= f) ⟨flash, some (name, false)⟩ :=
  handles_put (fun u fault _ => hdoc.putBytes fault key bytes u hkey hbytes hlength) hC h hfail

theorem Documented.handles_putBool (hdoc : L.Documented bad) {value : Bool} {f : ℕ → PreferencesM α}
    (hkey : key.length ≤ maxNameLength)
    (hC : ∀ left : Torn Entry, C ⟨flash.put (name, key)
      (left.leave bad (name, key) (flash.entry (name, key)) (some (.uchar (if value then 1 else 0)))),
      some (name, false)⟩)
    (h : L.Handles faults Q C (f 1)
      ⟨flash.put (name, key) (some (.uchar (if value then 1 else 0))), some (name, false)⟩)
    (hfail : L.MayFail faults → ∀ left : Torn Entry, L.Handles faults Q C (f 0) ⟨flash.put (name, key)
      (left.leave bad (name, key) (flash.entry (name, key)) (some (.uchar (if value then 1 else 0)))),
      some (name, false)⟩) :
    L.Handles faults Q C (Preferences.putBool key value >>= f) ⟨flash, some (name, false)⟩ :=
  handles_put (fun u fault _ => hdoc.putBool fault key value u hkey) hC h hfail

/-- The removal of a key that is there. -/
theorem Documented.handles_removeKey (hdoc : L.Documented bad) {f : Bool → PreferencesM α}
    (hthere : (flash.entry (name, key)).isSome = true)
    (hC : ∀ left : Torn Entry, C ⟨flash.put (name, key)
      (left.leave bad (name, key) (flash.entry (name, key)) none), some (name, false)⟩)
    (h : L.Handles faults Q C (f true) ⟨flash.put (name, key) none, some (name, false)⟩)
    (hfail : L.MayFail faults → ∀ left : Torn Entry, L.Handles faults Q C (f false) ⟨flash.put (name, key)
      (left.leave bad (name, key) (flash.entry (name, key)) none), some (name, false)⟩) :
    L.Handles faults Q C (Preferences.removeKey key >>= f) ⟨flash, some (name, false)⟩ := by
  refine handles_put (fun u fault hu => hdoc.remove fault key u ?_) hC h hfail
  rw [hu]
  exact hthere

end Writes

end Rules

/-! ### Executions -/

/-- A loss of power in the call number `after`, which meets the fault. -/
structure Cut (L : Library) where
  after : ℕ
  fault : L.Fault

/-- A program over the library, under a script of faults and with an optional loss of power: its value if it has
returned, and the state, after the restart if power has been lost. -/
def execute {α : Type} (L : Library) (p : PreferencesM α) (script : List L.Fault) (cut : Option L.Cut) (u : L.State) :
    Option α × L.State :=
  match cut with
  | none =>
    let r := perform L.call L.calm p script u
    (some r.1, r.2)
  | some c =>
    match cutDuring L.call L.calm c.fault p script c.after u with
    | (some a, u) => (some a, u)
    | (none, u) => (none, L.restart u)

/-- Power is lost after the program has returned, or in one of its calls. -/
theorem execute_cut {α : Type} (L : Library) (p : PreferencesM α) (script : List L.Fault) (c : L.Cut) (u : L.State) :
    (∃ a u', cutDuring L.call L.calm c.fault p script c.after u = (some a, u') ∧
      L.execute p script (some c) u = (some a, u')) ∨
    ∃ u', cutDuring L.call L.calm c.fault p script c.after u = (none, u') ∧
      L.execute p script (some c) u = (none, L.restart u') := by
  cases hrun : cutDuring L.call L.calm c.fault p script c.after u with
  | mk value u' =>
    cases value with
    | some a => exact Or.inl ⟨a, u', rfl, by simp only [execute, hrun]⟩
    | none => exact Or.inr ⟨u', rfl, by simp only [execute, hrun]⟩

/-- What a program keeps of the flash, whatever library calls fail and wherever power is lost. -/
theorem Documented.flash_execute {α : Type} {L : Library} {bad : Cell → Entry → Bool} (hdoc : L.Documented bad)
    {p : PreferencesM α} {u : L.State} {I : Flash → Prop}
    (h : Copes L.call (L.faultsIf True) (fun _ u' => I (L.store u').flash) (fun u' => I (L.store u').flash) p u)
    (script : List L.Fault) (cut : Option L.Cut) : I (L.store (L.execute p script cut u).2).flash := by
  have hscript : ∀ f ∈ script, (L.faultsIf True).allowed f := fun _ _ => Or.inr trivial
  cases cut with
  | none => exact h.perform script hscript
  | some c =>
    have hcut := h.cutDuring script hscript c.after (show (L.faultsIf True).cut c.fault from trivial)
    rcases L.execute_cut p script c u with ⟨a, u', hrun, hlow⟩ | ⟨u', hrun, hlow⟩
    · rw [hlow]
      rwa [show (L.faultsIf True).calm = L.calm from rfl, hrun] at hcut
    · rw [hlow]
      dsimp only
      rw [hdoc.restart]
      rwa [show (L.faultsIf True).calm = L.calm from rfl, hrun] at hcut

/-! ### A library that is as documented -/

/-- A call meets a failure, which leaves what it was to change `left`. -/
inductive DirectFault
  | none
  | fails (left : Torn Entry)

/-- The content of a cell after a write that has met the fault. -/
def DirectFault.leave (bad : Cell → Entry → Bool) (cell : Cell) (before after : Option Entry) :
    DirectFault → Option Entry
  | .none => after
  | .fails left => left.leave bad cell before after

def DirectFault.met : DirectFault → Bool
  | .none => false
  | .fails _ => true

/-- A write to a key of the open namespace, or its removal: whether it has succeeded, and what it leaves. -/
def directWrite (bad : Cell → Entry → Bool) (fault : DirectFault) (s : Store) (key : String) (content : Option Entry) :
    Bool × Store :=
  match s.opened with
  | some (name, false) =>
    (!fault.met,
      { s with flash := s.flash.put (name, key) (fault.leave bad (name, key) (s.flash.entry (name, key)) content) })
  | _ => (false, s)

/-- A call, answered from the store itself. -/
def directCall (bad : Cell → Entry → Bool) (fault : DirectFault) : Device PreferencesOp.Reply Store
  | .nvsOpen name, s =>
    (if fault.met then OpenResult.failed else if (s.flash name).isSome then OpenResult.ok else OpenResult.notFound, s)
  | .nvsClose, s => ((), s)
  | .begin name readOnly, s =>
    if fault.met ∨ readOnly ∧ (s.flash name).isNone then (false, s) else (true, s.enter name readOnly)
  | .end, s => ((), { s with opened := none })
  | .isKey key, s => (!fault.met && (s.find key).isSome, s)
  | .getType key, s => (if fault.met then EntryType.invalid else typeOf (s.find key), s)
  | .getBytesLength key, s => ((if fault.met then 0 else (((s.find key).map Entry.bytes).getD []).length : ℕ), s)
  | .getBytes key maxLength, s =>
    let bytes := ((s.find key).map Entry.bytes).getD []
    (if fault.met ∨ maxLength < bytes.length then [] else bytes, s)
  | .getUChar key default, s =>
    (match s.find key with
      | some (.uchar value) => if fault.met then default else value
      | _ => default, s)
  | .putBytes key bytes, s =>
    let r := directWrite bad fault s key (some (.blob bytes))
    ((if r.1 then bytes.length else 0 : ℕ), r.2)
  | .putBool key value, s =>
    let r := directWrite bad fault s key (some (.uchar (if value then 1 else 0)))
    ((if r.1 then 1 else 0 : ℕ), r.2)
  | .remove key, s =>
    let r := directWrite bad fault s key none
    (r.1 && (s.find key).isSome, r.2)

def direct (bad : Cell → Entry → Bool) : Library where
  State := Store
  Fault := DirectFault
  calm := .none
  call := directCall bad
  restart s := { s with opened := none }
  store s := s

section Direct

variable {bad : Cell → Entry → Bool}

/-- A write in the namespace that is open for it. -/
theorem directWrite_cases (bad : Cell → Entry → Bool) (fault : DirectFault) (flash : Flash) (name key : String)
    (content : Option Entry) :
    directWrite bad fault ⟨flash, some (name, false)⟩ key content =
        (true, ⟨flash.put (name, key) content, some (name, false)⟩) ∨
      fault ≠ .none ∧ ∃ left : Torn Entry, directWrite bad fault ⟨flash, some (name, false)⟩ key content =
        (false, ⟨flash.put (name, key) (left.leave bad (name, key) (flash.entry (name, key)) content),
          some (name, false)⟩) := by
  cases fault with
  | none => exact Or.inl rfl
  | fails left => exact Or.inr ⟨nofun, left, rfl⟩

/-- A write by the fault it meets, as `Puts` has it. -/
theorem direct_puts (fault : DirectFault) {op : PreferencesOp} {s : Store} {key : String} {content : Option Entry}
    {done refused : op.Reply} (answer : Bool → op.Reply)
    (hcall : directCall bad fault op s = (answer (directWrite bad fault s key content).1,
      (directWrite bad fault s key content).2)) (hdone : answer true = done) (hrefused : answer false = refused) :
    (direct bad).Puts bad fault op s key content done refused := by
  rintro flash name rfl
  rcases directWrite_cases bad fault flash name key content with hwrite | ⟨hne, left, hwrite⟩
  · rw [hwrite] at hcall
    exact Or.inl ⟨(congrArg Prod.fst hcall).trans hdone, congrArg Prod.snd hcall⟩
  · rw [hwrite] at hcall
    exact Or.inr ⟨hne, left, (congrArg Prod.fst hcall).trans hrefused, congrArg Prod.snd hcall⟩

theorem direct_documented (bad : Cell → Entry → Bool) : (direct bad).Documented bad where
  restart s := rfl
  nvsOpen fault name s := by
    cases fault with
    | none =>
      cases hthere : Store.flash s name with
      | none =>
        refine Or.inr (Or.inl ⟨⟨?_, rfl⟩, hthere⟩)
        change (if (Store.flash s name).isSome then OpenResult.ok else OpenResult.notFound) = _
        rw [hthere]
        rfl
      | some keys =>
        have hsome : (Store.flash s name).isSome = true := by rw [hthere]; rfl
        refine Or.inl ⟨⟨?_, rfl⟩, hsome⟩
        change (if (Store.flash s name).isSome then OpenResult.ok else OpenResult.notFound) = _
        rw [if_pos hsome]
    | fails left => exact Or.inr (Or.inr ⟨nofun, rfl, rfl⟩)
  nvsClose fault s := ⟨rfl, rfl⟩
  begin fault name readOnly s _ _ := by
    by_cases hrefused : fault.met = true ∨ readOnly = true ∧ (Store.flash s name).isNone = true
    · have hcall : directCall bad fault (.begin name readOnly) s = (false, s) := if_pos hrefused
      refine Or.inr (Or.inl ⟨⟨congrArg Prod.fst hcall, congrArg Prod.snd hcall⟩, ?_⟩)
      rcases hrefused with hmet | ⟨hread, hnone⟩
      · refine Or.inl ?_
        rintro rfl
        cases hmet
      · exact Or.inr ⟨hread, Option.isNone_iff_eq_none.1 hnone⟩
    · have hcall : directCall bad fault (.begin name readOnly) s = (true, Store.enter s name readOnly) :=
        if_neg hrefused
      exact Or.inl ⟨congrArg Prod.fst hcall, congrArg Prod.snd hcall⟩
  end_closes fault s := ⟨rfl, rfl⟩
  isKey fault key s := by
    cases fault with
    | none => exact Or.inl ⟨rfl, rfl⟩
    | fails left => exact Or.inr ⟨nofun, rfl, rfl⟩
  getType fault key s := by
    cases fault with
    | none => exact Or.inl ⟨rfl, rfl⟩
    | fails left => exact Or.inr ⟨nofun, rfl, rfl⟩
  getBytesLength fault key s := by
    cases fault with
    | none => exact Or.inl ⟨rfl, rfl⟩
    | fails left => exact Or.inr ⟨nofun, rfl, rfl⟩
  getBytes fault key bytes s hfind := by
    change Store.find s key = _ at hfind
    have hcall : directCall bad fault (.getBytes key bytes.length) s = (if fault.met then [] else bytes, s) := by
      simp [directCall, hfind, Entry.bytes]
      rfl
    cases fault with
    | none => exact Or.inl ⟨congrArg Prod.fst hcall, congrArg Prod.snd hcall⟩
    | fails left => exact Or.inr ⟨nofun, congrArg Prod.fst hcall, congrArg Prod.snd hcall⟩
  getUChar fault key default value s hfind := by
    change Store.find s key = _ at hfind
    have hcall : directCall bad fault (.getUChar key default) s = (if fault.met then default else value, s) := by
      simp only [directCall, hfind]
      rfl
    cases fault with
    | none => exact Or.inl ⟨congrArg Prod.fst hcall, congrArg Prod.snd hcall⟩
    | fails left => exact Or.inr ⟨nofun, congrArg Prod.fst hcall, congrArg Prod.snd hcall⟩
  putBytes fault key bytes s _ _ _ :=
    direct_puts fault (fun succeeded => (if succeeded then bytes.length else 0 : ℕ)) rfl rfl rfl
  putBool fault key value s _ := direct_puts fault (fun succeeded => (if succeeded then 1 else 0 : ℕ)) rfl rfl rfl
  remove fault key s hthere := by
    refine direct_puts fault (fun succeeded => succeeded) ?_ rfl rfl
    change (_ && (Store.find s key).isSome, _) = _
    rw [show (Store.find s key).isSome = true from hthere, Bool.and_true]
    rfl

end Direct

end Library

end Redline.Lib.Preferences
