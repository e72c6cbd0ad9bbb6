import Redline.Lib.Prog

/-!
# Cells that a power cut can tear

A disk is a table of cells.  A write goes to one cell and is durable once it is committed; until
then the disk remembers what the cell held before.  When power is cut in between, the cell is left
old, new, or filled with bytes that nobody can read; every other cell keeps its content
(`Disk.crash`).

`exec` runs a program on a disk with an optional cut, and `exec_sound` turns a `wp` whose crash
condition speaks about what the cut leaves into a statement about both outcomes.
-/

namespace Redline.Lib

variable {κ β α : Type} [DecidableEq κ]

/-- How an interrupted write leaves its cell.  `garbage b` leaves `b`, provided that `b` cannot be
read; readable bytes that were never written are not among the outcomes of a torn write. -/
inductive Torn (β : Type)
  | old
  | new
  | garbage (b : β)

/-- The content an interrupted write leaves in the cell `k`. -/
def Torn.leave (bad : κ → β → Bool) (k : κ) (before after : Option β) : Torn β → Option β
  | .old => before
  | .new => after
  | .garbage b => if bad k b then some b else before

/-- A table of cells, with the cell that has been written and not yet committed and what it held
before. -/
structure Disk (κ β : Type) where
  data : κ → Option β
  dirty : Option (κ × Option β)

namespace Disk

/-- A disk on which every write has been committed. -/
def clean (img : κ → Option β) : Disk κ β := ⟨img, none⟩

/-- Write the cell `k`, not yet committed. -/
def stage (d : Disk κ β) (k : κ) (b : β) : Disk κ β :=
  ⟨Function.update d.data k (some b), some (k, d.data k)⟩

/-- Commit the last write. -/
def flush (d : Disk κ β) : Disk κ β := ⟨d.data, none⟩

/-- What a power cut leaves: only the cell that was being written is in doubt. -/
def crash (bad : κ → β → Bool) (t : Torn β) (d : Disk κ β) : κ → Option β :=
  match d.dirty with
  | none => d.data
  | some (k, before) => Function.update d.data k (t.leave bad k before (d.data k))

variable {bad : κ → β → Bool}

omit [DecidableEq κ] in
@[simp] theorem clean_data (img : κ → Option β) : (clean img).data = img := rfl

omit [DecidableEq κ] in
@[simp] theorem flush_clean (img : κ → Option β) : (clean img).flush = clean img := rfl

@[simp] theorem flush_stage_clean (img : κ → Option β) (k : κ) (b : β) :
    ((clean img).stage k b).flush = clean (Function.update img k (some b)) := rfl

@[simp] theorem crash_clean (img : κ → Option β) (t : Torn β) : (clean img).crash bad t = img := rfl

@[simp] theorem crash_stage_clean (img : κ → Option β) (k : κ) (b : β) (t : Torn β) :
    ((clean img).stage k b).crash bad t = Function.update img k (t.leave bad k (img k) (some b)) := by
  simp [crash, stage, clean]

theorem crash_stage (d : Disk κ β) (k : κ) (b : β) (t : Torn β) :
    (d.stage k b).crash bad t = Function.update d.data k (t.leave bad k (d.data k) (some b)) := by
  simp [crash, stage]

theorem crash_new (d : Disk κ β) : d.crash bad .new = d.data := by
  unfold crash
  cases d.dirty with
  | none => rfl
  | some entry => simp [Torn.leave]

/-- **The three outcomes of a torn write.** A property of images survives a torn write if it holds
of the old image, of the new one, and of every image whose cell holds unreadable bytes. -/
theorem forall_crash_stage {P : (κ → Option β) → Prop} {img : κ → Option β} {k : κ} {b : β}
    (hold : P img) (hnew : P (Function.update img k (some b)))
    (hbad : ∀ g, bad k g = true → P (Function.update img k (some g))) (t : Torn β) :
    P (((clean img).stage k b).crash bad t) := by
  rw [crash_stage_clean]
  cases t with
  | old => rwa [Torn.leave, Function.update_eq_self]
  | new => exact hnew
  | garbage g =>
    by_cases hg : bad k g = true
    · simpa [Torn.leave, hg] using hbad g hg
    · simpa [Torn.leave, hg] using hold

end Disk

/-- Power is cut in front of the call number `after`, and leaves the cell being written `torn`. -/
structure PowerCut (β : Type) where
  after : ℕ
  torn : Torn β

/-- The two ways a program on a disk ends. -/
inductive Outcome (κ β α : Type)
  | done (a : α) (d : Disk κ β)
  | lost (img : κ → Option β)

/-- What holds of an outcome: `Q` of the value and the disk, `P` of the image a cut has left. -/
def Outcome.Post (Q : α → Disk κ β → Prop) (P : (κ → Option β) → Prop) : Outcome κ β α → Prop
  | .done a d => Q a d
  | .lost img => P img

section Exec

variable {Op : Type} {Res : Op → Type}

/-- A program on a disk, with an optional power cut. -/
def exec (dev : Device Res (Disk κ β)) (bad : κ → β → Bool) (p : Prog Res α) (cut : Option (PowerCut β))
    (d : Disk κ β) : Outcome κ β α :=
  match cut with
  | none => .done (p.run dev d).1 (p.run dev d).2
  | some c =>
    match p.runFor dev c.after d with
    | (some a, d') => .done a d'
    | (none, d') => .lost (d'.crash bad c.torn)

/-- The crash condition that asks `P` of every image a cut can leave. -/
def OnCrash (bad : κ → β → Bool) (P : (κ → Option β) → Prop) (d : Disk κ β) : Prop :=
  ∀ t, P (d.crash bad t)

variable {dev : Device Res (Disk κ β)} {bad : κ → β → Bool} {Q : α → Disk κ β → Prop}
  {P : (κ → Option β) → Prop}

@[simp] theorem onCrash_clean (img : κ → Option β) : OnCrash bad P (Disk.clean img) ↔ P img :=
  ⟨fun h => h .old, fun h _ => h⟩

theorem exec_sound {p : Prog Res α} {d : Disk κ β} (h : p.wp dev Q (OnCrash bad P) d)
    (cut : Option (PowerCut β)) : (exec dev bad p cut d).Post Q P := by
  cases cut with
  | none => exact Prog.wp_run h
  | some c =>
    have hc := Prog.wp_runFor h c.after
    unfold exec
    split at hc <;> rename_i heq <;> simp only [heq]
    · exact hc
    · exact hc c.torn

/-- What an execution returns is one of the things the program may return. -/
theorem returns_exec {p : Prog Res α} {cut : Option (PowerCut β)} {d d' : Disk κ β} {a : α}
    (h : exec dev bad p cut d = .done a d') : ∃ ops, Prog.Returns (fun _ _ => True) p ops a := by
  cases cut with
  | none =>
    obtain ⟨ops, hret⟩ := Prog.returns_run dev p d
    cases h
    exact ⟨ops, hret⟩
  | some c =>
    unfold exec at h
    dsimp only at h
    split at h <;> rename_i heq <;> cases h
    exact Prog.returns_runFor dev (congrArg Prod.fst heq)

end Exec

end Redline.Lib
