import Redline.Lib.Flash
import Redline.Records.EventStore

/-!
# The storage under the records

The three primitives of the storage interfaces (`read`, `write`, `commit`), with the four results
they report, and the storage the firmware runs on: one blob for each copy, read back only at its
exact size (`esp32_event_storage.cpp`).  Node and Hub each have a store of this shape: two metadata
copies, and two copies of each of the eight logical slots.

Any primitive may fail (`Fault`): a write or a commit then reports any result, `ok` included, and leaves the cell it
concerns old, new or unreadable, so that nothing but the read-back of a commit tells what is stored; a read that fails
reports another result than `ok` and leaves the zeroed buffer of its caller alone.

`geo.Ensures img p Q P` is what is proved about code on that storage: started on the image `img`, it
returns a value and an image with `Q`, and wherever power is cut it leaves an image with `P`.  The
`ensures_` rules follow the shape of a program; `ensures_exec` reads the result back on an execution.
-/

namespace Redline.Records

open Redline.Wire Redline.Lib

/-- What a storage primitive reports. -/
inductive StorageResult
  | ok | missing | unavailable | error
  deriving DecidableEq

/-- The number of logical slots, of the Node store and of the Hub ledger. -/
abbrev SlotIndex := Fin 8

/-- The slots of `l` from `f`, the others from `g`. -/
def overlay {α : Type} (l : List SlotIndex) (f g : SlotIndex → α) (i : SlotIndex) : α :=
  if i ∈ l then f i else g i

@[simp] theorem overlay_nil {α : Type} (f g : SlotIndex → α) : overlay [] f g = g := by
  funext i
  simp [overlay]

/-- The name of a stored copy. -/
inductive StorageKey
  | metadata (copy : CopySlot)
  | event (slot : SlotIndex) (copy : CopySlot)
  deriving DecidableEq

/-- The answer to a read: its result, the length it reports, and the buffer afterwards. -/
structure ReadReply where
  result : StorageResult
  length : ℕ
  bytes : Bytes
  deriving DecidableEq

inductive StorageOp
  | read (key : StorageKey)
  | write (key : StorageKey) (bytes : Bytes)
  | commit

def StorageOp.Reply : StorageOp → Type
  | .read _ => ReadReply
  | .write _ _ => StorageResult
  | .commit => StorageResult

/-- Code that calls the storage. -/
abbrev StorageM := Prog StorageOp.Reply

def readBlob (key : StorageKey) : StorageM ReadReply := Prog.lift (StorageOp.read key)
def writeBlob (key : StorageKey) (bytes : Bytes) : StorageM StorageResult := Prog.lift (StorageOp.write key bytes)
def commitStorage : StorageM StorageResult := Prog.lift StorageOp.commit

/-! ### The flash -/

/-- What is stored under each name. -/
abbrev Image := StorageKey → Option Bytes

/-- Nothing is stored. -/
def blankImage : Image := fun _ => none

abbrev FlashDisk := Disk StorageKey Bytes

/-- A geometry: the exact size of each blob, and which bytes nobody can read there. -/
structure Geometry where
  size : StorageKey → ℕ
  undecodable : StorageKey → Bytes → Bool

/-- The reply to a read of the content under a name: a blob of another size is an error and leaves
the zeroed buffer alone. -/
def Geometry.reply (geo : Geometry) (key : StorageKey) : Option Bytes → ReadReply
  | none => ⟨.missing, 0, List.replicate (geo.size key) 0⟩
  | some bytes =>
    if bytes.length ≠ geo.size key then ⟨.error, 0, List.replicate (geo.size key) 0⟩
    else ⟨.ok, bytes.length, bytes⟩

/-- The storage of the firmware: reads are answered from the cells, a write is staged, and a commit
makes it durable. -/
def Geometry.flash (geo : Geometry) : Device StorageOp.Reply FlashDisk
  | .read key, d => (geo.reply key (d.data key), d)
  | .write key bytes, d => (StorageResult.ok, d.stage key bytes)
  | .commit, d => (StorageResult.ok, d.flush)

/-! ### Failures -/

/-- A failure of one call.  A read reports another result than `ok`, and leaves the caller's zeroed buffer alone; a
write or a commit leaves the cell it concerns torn, and may report `ok` all the same. -/
inductive Fault
  | none
  | read (result : StorageResult)
  | write (result : StorageResult) (torn : Torn Bytes)

/-- One call of a storage that meets the given fault; a fault of another kind, or a read that reports `ok`, is
none. -/
def Geometry.meets (geo : Geometry) : Fault → Device StorageOp.Reply FlashDisk
  | .read result, .read key, d =>
    if result = .ok then geo.flash (.read key) d else (⟨result, 0, List.replicate (geo.size key) 0⟩, d)
  | .write result torn, .write key bytes, d =>
    (result, Disk.clean ((d.stage key bytes).crash geo.undecodable torn))
  | .write result torn, .commit, d => (result, Disk.clean (d.crash geo.undecodable torn))
  | _, op, d => geo.flash op d

/-- A storage that fails as the script says, one entry for each call, and works from its end on. -/
def Geometry.faulty (geo : Geometry) : Device StorageOp.Reply (FlashDisk × List Fault)
  | op, (d, []) => ((geo.flash op d).1, ((geo.flash op d).2, []))
  | op, (d, fault :: script) => ((geo.meets fault op d).1, ((geo.meets fault op d).2, script))

/-- A program on a storage with a script of faults and an optional cut: its value if it has returned,
and the image. -/
def Geometry.execFaulty {α : Type} (geo : Geometry) (p : StorageM α) (script : List Fault)
    (cut : Option (PowerCut Bytes)) (img : Image) : Option α × Image :=
  match cut with
  | none =>
    let (a, d, _) := p.run geo.faulty (Disk.clean img, script)
    (some a, d.crash geo.undecodable .new)
  | some c =>
    match p.runFor geo.faulty c.after (Disk.clean img, script) with
    | (a, d, _) => (a, d.crash geo.undecodable c.torn)

/-- What an execution returns is one of the things the program may return. -/
theorem returns_execFaulty {geo : Geometry} {α : Type} {p : StorageM α} {script : List Fault}
    {cut : Option (PowerCut Bytes)} {img : Image} {a : α} (h : (geo.execFaulty p script cut img).1 = some a) :
    ∃ ops, Prog.Returns (fun _ _ => True) p ops a := by
  cases cut with
  | none =>
    obtain ⟨ops, hret⟩ := Prog.returns_run geo.faulty p (Disk.clean img, script)
    cases h
    exact ⟨ops, hret⟩
  | some c => exact Prog.returns_runFor geo.faulty h

/-! ### What is proved about code on the storage -/

section Ensures

variable {geo : Geometry} {α β : Type} {img : Image} {Q Q' : α → Image → Prop} {P P' : Image → Prop}
  {allowed : Fault → Prop}

/-- Started on `img`, on a storage whose faults are allowed ones, the program returns with `Q`, every
write committed, and is cut with `P`. -/
def Geometry.EnsuresUnder (geo : Geometry) (allowed : Fault → Prop) (img : Image) (p : StorageM α)
    (Q : α → Image → Prop) (P : Image → Prop) : Prop :=
  ∀ script : List Fault, (∀ f ∈ script, allowed f) →
    Prog.wp geo.faulty
      (fun a d => (∀ f ∈ d.2, allowed f) ∧ ∃ img', d.1 = Disk.clean img' ∧ Q a img')
      (fun d => OnCrash geo.undecodable P d.1) p (Disk.clean img, script)

/-- The storage works: only power cuts are left. -/
def NoFaults : Fault → Prop := fun _ => False

/-- The storage works, and power may be cut. -/
abbrev Geometry.Ensures (geo : Geometry) (img : Image) (p : StorageM α) (Q : α → Image → Prop)
    (P : Image → Prop) : Prop :=
  geo.EnsuresUnder NoFaults img p Q P

@[simp] theorem ensures_pure {a : α} : geo.EnsuresUnder allowed img (pure a) Q P ↔ Q a img := by
  constructor
  · intro h
    obtain ⟨-, img', he, hQ⟩ := h [] (by simp)
    cases he
    exact hQ
  · exact fun h script hs => ⟨hs, img, rfl, h⟩

theorem ensures_bind {p : StorageM β} {f : β → StorageM α}
    (h : geo.EnsuresUnder allowed img p (fun b img' => geo.EnsuresUnder allowed img' (f b) Q P) P) :
    geo.EnsuresUnder allowed img (p >>= f) Q P := by
  intro script hs
  refine Prog.wp_bind.2 (Prog.wp_mono ?_ (fun _ h => h) (h script hs))
  rintro b ⟨d, script'⟩ ⟨hs', img', rfl, hb⟩
  exact hb script' hs'

theorem ensures_mono {p : StorageM α} (hQ : ∀ a img', Q a img' → Q' a img')
    (hP : ∀ img', P img' → P' img') (h : geo.EnsuresUnder allowed img p Q P) :
    geo.EnsuresUnder allowed img p Q' P' := by
  intro script hs
  refine Prog.wp_mono ?_ (fun d hd t => hP _ (hd t)) (h script hs)
  rintro a ⟨d, script'⟩ ⟨hs', img', hd, ha⟩
  exact ⟨hs', img', hd, hQ a img' ha⟩

theorem ensures_and {p : StorageM α} (h : geo.EnsuresUnder allowed img p Q P)
    (h' : geo.EnsuresUnder allowed img p Q' P') :
    geo.EnsuresUnder allowed img p (fun a img' => Q a img' ∧ Q' a img') (fun img' => P img' ∧ P' img') := by
  intro script hs
  refine Prog.wp_mono ?_ (fun d hd t => ⟨hd.1 t, hd.2 t⟩) (Prog.wp_and (h script hs) (h' script hs))
  rintro a ⟨d, script'⟩ ⟨⟨hs', img', hd, hQ⟩, -, img'', hd', hQ'⟩
  obtain rfl : img' = img'' := congrArg Disk.data (hd.symm.trans hd')
  exact ⟨hs', img', hd, hQ, hQ'⟩

/-- A read that may fail. -/
theorem ensures_readBlob_fails {key : StorageKey} {f : ReadReply → StorageM α} (hP : P img)
    (h : geo.EnsuresUnder allowed img (f (geo.reply key (img key))) Q P)
    (hfail : ∀ result, result ≠ .ok → allowed (.read result) →
      geo.EnsuresUnder allowed img (f ⟨result, 0, List.replicate (geo.size key) 0⟩) Q P) :
    geo.EnsuresUnder allowed img (readBlob key >>= f) Q P := by
  intro script hs
  refine ⟨fun _ => hP, ?_⟩
  cases script with
  | nil => exact h [] (by simp)
  | cons fault script =>
    have hs' : ∀ f ∈ script, allowed f := fun f hf => hs f (List.mem_cons_of_mem _ hf)
    cases fault with
    | none => exact h script hs'
    | write result torn => exact h script hs'
    | read result =>
      by_cases hr : result = .ok
      · subst hr
        exact h script hs'
      · have hm : geo.faulty (.read key) (Disk.clean img, .read result :: script) =
            (⟨result, 0, List.replicate (geo.size key) 0⟩, (Disk.clean img, script)) := by
          simp only [Geometry.faulty, Geometry.meets, if_neg hr]
        change Prog.wp geo.faulty _ _ (f (geo.faulty (.read key) _).1) (geo.faulty (.read key) _).2
        rw [hm]
        exact hfail result hr (hs _ List.mem_cons_self) script hs'

/-- The storage answers reads truthfully. -/
def Truthful (allowed : Fault → Prop) : Prop := ∀ result, ¬ allowed (.read result)

theorem noFaults_truthful : Truthful NoFaults := fun _ h => h

/-- A read that fails is reported as UNAVAILABLE. -/
def Reports (allowed : Fault → Prop) : Prop := ∀ result, allowed (.read result) → result = .ok ∨ result = .unavailable

theorem Truthful.reports (h : Truthful allowed) : Reports allowed := fun result hr => absurd hr (h result)

/-- Only writes and commits fail. -/
def WritesOnly : Fault → Prop := fun f => ∀ result, f ≠ .read result

theorem writesOnly_truthful : Truthful WritesOnly := fun result h => h result rfl

theorem ensures_readBlob (ht : Truthful allowed) {key : StorageKey} {f : ReadReply → StorageM α} :
    geo.EnsuresUnder allowed img (readBlob key >>= f) Q P ↔
      P img ∧ geo.EnsuresUnder allowed img (f (geo.reply key (img key))) Q P := by
  constructor
  · intro h
    refine ⟨(h [] (by simp)).1 .old, fun script hs => ?_⟩
    cases script with
    | nil => exact (h [] hs).2
    | cons fault script =>
      by_cases hnone : allowed .none
      · exact (h (.none :: fault :: script) (by
          rintro f (_ | ⟨_, hf⟩)
          · exact hnone
          · exact hs f hf)).2
      · cases fault with
        | none => exact absurd (hs _ List.mem_cons_self) hnone
        | read result => exact absurd (hs _ List.mem_cons_self) (ht result)
        | write result torn =>
          exact (h (.write result torn :: .write result torn :: script) (by
            rintro f (_ | ⟨_, hf⟩)
            · exact hs _ List.mem_cons_self
            · exact hs f hf)).2
  · rintro ⟨hP, h⟩
    exact ensures_readBlob_fails hP h fun result _ hr => absurd hr (ht result)

/-- What a cut or a failure during the write of `bytes` under `key` can leave: the old image, the new
one, or one with bytes nobody can read. -/
structure Geometry.WriteCrash (geo : Geometry) (P : Image → Prop) (img : Image) (key : StorageKey)
    (bytes : Bytes) : Prop where
  old : P img
  new : P (Function.update img key (some bytes))
  torn : ∀ g, geo.undecodable key g = true → P (Function.update img key (some g))

theorem Geometry.WriteCrash.mono {key : StorageKey} {bytes : Bytes} (h : geo.WriteCrash P img key bytes)
    (hP : ∀ img', P img' → P' img') : geo.WriteCrash P' img key bytes :=
  ⟨hP _ h.old, hP _ h.new, fun g hg => hP _ (h.torn g hg)⟩

theorem Geometry.WriteCrash.and {P' : Image → Prop} {key : StorageKey} {bytes : Bytes}
    (h : geo.WriteCrash P img key bytes) (h' : geo.WriteCrash P' img key bytes) :
    geo.WriteCrash (fun img' => P img' ∧ P' img') img key bytes :=
  ⟨⟨h.old, h'.old⟩, ⟨h.new, h'.new⟩, fun g hg => ⟨h.torn g hg, h'.torn g hg⟩⟩

theorem Geometry.writeCrash_forall {ι : Sort*} {R : ι → Image → Prop} {key : StorageKey} {bytes : Bytes}
    (h : ∀ i, geo.WriteCrash (R i) img key bytes) : geo.WriteCrash (fun img' => ∀ i, R i img') img key bytes :=
  ⟨fun i => (h i).old, fun i => (h i).new, fun g hg i => (h i).torn g hg⟩

/-- The storage may fail to write. -/
def WritesFail (allowed : Fault → Prop) : Prop := ∃ result torn, allowed (.write result torn)

theorem not_writesFail : ¬ WritesFail NoFaults := fun ⟨_, _, h⟩ => h

/-- The storage may fail to read. -/
def ReadsFail (allowed : Fault → Prop) : Prop := ∃ result, result ≠ .ok ∧ allowed (.read result)

/-- The storage may fail to read or to write. -/
def Fails (allowed : Fault → Prop) : Prop := WritesFail allowed ∨ ReadsFail allowed

theorem Truthful.not_readsFail (h : Truthful allowed) : ¬ ReadsFail allowed := fun ⟨r, _, hr⟩ => h r hr

theorem not_fails : ¬ Fails NoFaults := fun h => h.elim not_writesFail fun ⟨_, _, h⟩ => h

/-- What a write has left that reports `ok`: the cell holds the bytes, or it is known that it does not. -/
theorem Geometry.WriteCrash.of_silent {R : Image → Prop} {key : StorageKey} {bytes : Bytes}
    (hdone : R (Function.update img key (some bytes)))
    (h : geo.WriteCrash (fun img' => img' key ≠ some bytes → R img') img key bytes) :
    geo.WriteCrash R img key bytes := by
  refine ⟨?_, hdone, fun g hg => ?_⟩
  · by_cases hold : img key = some bytes
    · rw [← hold, Function.update_eq_self] at hdone
      exact hdone
    · exact h.old hold
  · by_cases hg' : g = bytes
    · rw [hg']
      exact hdone
    · exact h.torn g hg (by simpa using hg')

/-- **A commit**, of a write or with none staged. -/
theorem wp_commit {d : FlashDisk} {g : StorageResult → StorageM α} (hcut : OnCrash geo.undecodable P d)
    (hok : geo.EnsuresUnder allowed d.data (g .ok) Q P)
    (hfail : WritesFail allowed → ∀ result torn,
      geo.EnsuresUnder allowed (d.crash geo.undecodable torn) (g result) Q P)
    {script : List Fault} (hs : ∀ f ∈ script, allowed f) :
    Prog.wp geo.faulty
      (fun a d => (∀ f ∈ d.2, allowed f) ∧ ∃ img', d.1 = Disk.clean img' ∧ Q a img')
      (fun d => OnCrash geo.undecodable P d.1) (commitStorage >>= g) (d, script) := by
  refine ⟨hcut, ?_⟩
  cases script with
  | nil => exact hok [] (by simp)
  | cons fault script =>
    have hs' : ∀ f ∈ script, allowed f := fun f hf => hs f (List.mem_cons_of_mem _ hf)
    cases fault with
    | none => exact hok script hs'
    | read result => exact hok script hs'
    | write result torn =>
      have hw : WritesFail allowed := ⟨result, torn, hs _ List.mem_cons_self⟩
      exact hfail hw result torn script hs'

/-- **A write, and the commit right after it.**  Both may fail; and when both report `ok`, the cell may still not hold
the bytes. -/
theorem ensures_writeBlob_commit {key : StorageKey} {bytes : Bytes}
    {f : StorageResult → StorageM α} {g : StorageResult → StorageM α}
    (hP : geo.WriteCrash P img key bytes) (hf : f .ok = commitStorage >>= g)
    (h : geo.EnsuresUnder allowed (Function.update img key (some bytes)) (g .ok) Q P)
    (hfail : WritesFail allowed → ∀ result, result ≠ .ok →
      geo.WriteCrash (fun img' => geo.EnsuresUnder allowed img' (f result) Q P ∧
        geo.EnsuresUnder allowed img' (g result) Q P) img key bytes)
    (hsilent : WritesFail allowed → geo.WriteCrash
      (fun img' => img' key ≠ some bytes → geo.EnsuresUnder allowed img' (g .ok) Q P) img key bytes) :
    geo.EnsuresUnder allowed img (writeBlob key bytes >>= f) Q P := by
  have hstaged : OnCrash geo.undecodable P ((Disk.clean img).stage key bytes) :=
    Disk.forall_crash_stage hP.old hP.new hP.torn
  -- whatever the commit reports, and whatever the cell is left with
  have hg : WritesFail allowed → ∀ result, geo.WriteCrash
      (fun img' => geo.EnsuresUnder allowed img' (g result) Q P) img key bytes := by
    intro hw result
    by_cases hr : result = .ok
    · rw [hr]
      exact .of_silent h (hsilent hw)
    · exact (hfail hw result hr).mono fun _ hi => hi.2
  -- the commit of a write that has been reported `ok` and is no longer staged
  have hclean : WritesFail allowed → geo.WriteCrash
      (fun img' => geo.EnsuresUnder allowed img' (f .ok) Q P) img key bytes := by
    intro hw
    refine ((Geometry.writeCrash_forall (hg hw)).and hP).mono fun img' hi script hs => ?_
    rw [hf]
    exact wp_commit (fun _ => hi.2) (hi.1 .ok) (fun _ result _ => hi.1 result) hs
  have hf' : WritesFail allowed → ∀ result, geo.WriteCrash
      (fun img' => geo.EnsuresUnder allowed img' (f result) Q P) img key bytes := by
    intro hw result
    by_cases hr : result = .ok
    · rw [hr]
      exact hclean hw
    · exact (hfail hw result hr).mono fun _ hi => hi.1
  -- the commit, with the write staged
  have hcommit : ∀ script, (∀ f ∈ script, allowed f) →
      Prog.wp geo.faulty
        (fun a d => (∀ f ∈ d.2, allowed f) ∧ ∃ img', d.1 = Disk.clean img' ∧ Q a img')
        (fun d => OnCrash geo.undecodable P d.1) (f .ok) ((Disk.clean img).stage key bytes, script) := by
    intro script hs
    rw [hf]
    refine wp_commit hstaged h (fun hw result => ?_) hs
    have hc := hg hw result
    exact Disk.forall_crash_stage (P := fun img' => geo.EnsuresUnder allowed img' (g result) Q P) hc.old hc.new hc.torn
  intro script hs
  refine ⟨fun _ => hP.old, ?_⟩
  cases script with
  | nil => exact hcommit [] (by simp)
  | cons fault script =>
    have hs' : ∀ f ∈ script, allowed f := fun f hf => hs f (List.mem_cons_of_mem _ hf)
    cases fault with
    | none => exact hcommit script hs'
    | read result => exact hcommit script hs'
    | write result torn =>
      have hw : WritesFail allowed := ⟨result, torn, hs _ List.mem_cons_self⟩
      have hc := hf' hw result
      exact Disk.forall_crash_stage (P := fun img' => geo.EnsuresUnder allowed img' (f result) Q P)
        hc.old hc.new hc.torn torn script hs'

/-! ### Reading the result back -/

/-- Without faults the faulty storage is the flash. -/
theorem wp_flash {p : StorageM α} {Q : α → FlashDisk → Prop} {C : FlashDisk → Prop} {d : FlashDisk}
    (h : Prog.wp geo.faulty (fun a d => Q a d.1) (fun d => C d.1) p (d, [])) :
    Prog.wp geo.flash Q C p d := by
  induction p generalizing d with
  | pure a => exact h
  | call op next ih => exact ⟨h.1, ih _ h.2⟩

theorem ensures_wp {p : StorageM α} (h : geo.Ensures img p Q P) :
    Prog.wp geo.flash (fun a d => ∃ img', d = Disk.clean img' ∧ Q a img') (OnCrash geo.undecodable P) p
      (Disk.clean img) := by
  refine wp_flash (Prog.wp_mono ?_ (fun _ h => h) (h [] (by simp)))
  exact fun _ _ h => h.2

/-- **Soundness.** Both outcomes of an execution with an optional cut. -/
theorem ensures_exec {p : StorageM α} (h : geo.Ensures img p Q P) (cut : Option (PowerCut Bytes)) :
    (exec geo.flash geo.undecodable p cut (Disk.clean img)).Post
      (fun a d => ∃ img', d = Disk.clean img' ∧ Q a img') P :=
  exec_sound (ensures_wp h) cut

/-- The uncut run. -/
theorem ensures_run {p : StorageM α} (h : geo.Ensures img p Q P) :
    ∃ img', (p.run geo.flash (Disk.clean img)).2 = Disk.clean img' ∧
      Q (p.run geo.flash (Disk.clean img)).1 img' :=
  Prog.wp_run (ensures_wp h)

/-- Soundness on a storage with faults. -/
theorem ensures_execFaulty {p : StorageM α} (h : geo.EnsuresUnder allowed img p Q P)
    (script : List Fault) (hs : ∀ f ∈ script, allowed f) (cut : Option (PowerCut Bytes)) :
    match geo.execFaulty p script cut img with
    | (some a, img') => Q a img'
    | (none, img') => P img' := by
  cases cut with
  | none =>
    obtain ⟨-, img', hd, hQ⟩ := Prog.wp_run (h script hs)
    simp only [Geometry.execFaulty]
    rw [hd, Disk.crash_clean]
    exact hQ
  | some c =>
    have hc := Prog.wp_runFor (h script hs) c.after
    simp only [Geometry.execFaulty]
    split at hc <;> rename_i heq <;> simp only [heq]
    · obtain ⟨-, img', hd, hQ⟩ := hc
      rw [hd, Disk.crash_clean]
      exact hQ
    · exact hc c.torn

end Ensures

/-! ### Copies as they are read -/

/-- The two cells of a slot, or of the metadata, in an image. -/
def Image.slotCells (img : Image) (slot : SlotIndex) : Cells := fun c => img (.event slot c)
def Image.metaCells (img : Image) : Cells := fun c => img (.metadata c)

/-- The copy a reader makes of a stored content that is either missing or read. -/
def copyOf (size : ℕ) : Option Bytes → FixedCopy
  | none => ⟨.missing, List.replicate size 0⟩
  | some bytes => if bytes.length ≠ size then ⟨.ok, List.replicate size 0⟩ else ⟨.ok, bytes⟩

variable {ρ : Type} {decode : Bytes → Option ρ} {size : ℕ}

/-- A reader that zeroes what it could not read agrees with the stored content, for a decoder that
checks the length and refuses a zeroed buffer. -/
theorem reads_copyOf (hlen : ∀ b r, decode b = some r → b.length = size)
    (hzero : decode (List.replicate size 0) = none) (content : Option Bytes) :
    Reads decode (copyOf size content) content := by
  cases content with
  | none => exact ⟨by simp [copyOf, FixedCopy.valid], by simp [copyOf, FixedCopy.valid]⟩
  | some b =>
    by_cases hb : b.length = size
    · exact ⟨by simp [copyOf, FixedCopy.valid, hb], by simp [copyOf, hb]⟩
    · have hn : decode b = none := by
        cases hd : decode b with
        | none => rfl
        | some r => exact absurd (hlen b r hd) hb
      exact ⟨by simp [copyOf, FixedCopy.valid, hb, hn, hzero],
        by simp [copyOf, FixedCopy.valid, hb, hzero]⟩

theorem copyOf_missing (size : ℕ) (content : Option Bytes) :
    (copyOf size content).status = .missing ↔ content.isNone = true := by
  cases content with
  | none => simp [copyOf]
  | some b => by_cases hb : b.length = size <;> simp [copyOf, hb]

/-! ### Missing slots -/

/-- Both copies of a slot are missing. -/
def slotMissing (img : Image) (slot : SlotIndex) : Bool :=
  (img (.event slot .A)).isNone && (img (.event slot .B)).isNone

/-- Every copy of every slot is missing. -/
def AllMissing (img : Image) : Prop := ∀ slot c, img (.event slot c) = none

theorem allMissing_iff {img : Image} : (List.finRange 8).all (slotMissing img) = true ↔ AllMissing img := by
  simp only [List.all_eq_true, List.mem_finRange, true_implies, slotMissing, Bool.and_eq_true,
    Option.isNone_iff_eq_none]
  constructor
  · intro h slot c
    cases c with
    | A => exact (h slot).1
    | B => exact (h slot).2
  · exact fun h slot => ⟨h slot .A, h slot .B⟩

/-! ### Writing one copy -/

@[simp] theorem Image.slotCells_update_event (img : Image) (slot : SlotIndex) (c : CopySlot)
    (b : Option Bytes) :
    Image.slotCells (Function.update img (.event slot c) b) slot =
      Function.update (img.slotCells slot) c b := by
  funext c'
  by_cases hc : c' = c
  · subst hc; simp [slotCells]
  · simp [slotCells, hc]

theorem Image.slotCells_update_event_ne (img : Image) {slot slot' : SlotIndex} (h : slot' ≠ slot)
    (c : CopySlot) (b : Option Bytes) :
    Image.slotCells (Function.update img (.event slot c) b) slot' = img.slotCells slot' := by
  funext c'
  simp [slotCells, h]

@[simp] theorem Image.slotCells_update_metadata (img : Image) (c : CopySlot) (b : Option Bytes)
    (slot : SlotIndex) :
    Image.slotCells (Function.update img (.metadata c) b) slot = img.slotCells slot := by
  funext c'
  simp [slotCells]

@[simp] theorem Image.metaCells_update_metadata (img : Image) (c : CopySlot) (b : Option Bytes) :
    Image.metaCells (Function.update img (.metadata c) b) = Function.update img.metaCells c b := by
  funext c'
  by_cases hc : c' = c
  · subst hc; simp [metaCells]
  · simp [metaCells, hc]

@[simp] theorem Image.metaCells_update_event (img : Image) (slot : SlotIndex) (c : CopySlot)
    (b : Option Bytes) :
    Image.metaCells (Function.update img (.event slot c) b) = img.metaCells := by
  funext c'
  simp [metaCells]

end Redline.Records
