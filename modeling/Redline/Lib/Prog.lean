import Mathlib.Algebra.Ring.Nat
import Mathlib.Logic.Function.Basic
import Mathlib.Tactic.Common

/-!
# Programs over interruptible primitives

A program is a tree of calls to primitives: after each call it continues with the answer. A
*device* answers the calls and carries a state. Power may be cut in front of any call, so a program
has two kinds of outcome: it returns a value, or it stops somewhere inside with the device in
whatever state the calls so far have left it in.

* `Prog.run` — every call is answered;
* `Prog.runFor n` — power is cut in front of the call number `n` (counted from `0`);
* `Prog.wp` — the weakest precondition for a postcondition `Q` on returning and a crash condition
  `C` on the device at every call.  `wp_bind` chains programs, `wp_mono` weakens both conditions,
  and `wp_run`, `wp_runFor` read a proved `wp` back on the two semantics.
-/

namespace Redline.Lib

variable {Op : Type} {Res : Op → Type} {α β γ σ : Type}

/-- A program over the primitives `Op`; the call of `op` is answered by a value of `Res op`. -/
inductive Prog {Op : Type} (Res : Op → Type) (α : Type) : Type
  | pure (a : α)
  | call (op : Op) (next : Res op → Prog Res α)

/-- A device: the answer to each call, and the state it leaves. -/
abbrev Device {Op : Type} (Res : Op → Type) (σ : Type) := (op : Op) → σ → Res op × σ

namespace Prog

/-- Sequential composition. -/
def bind : Prog Res α → (α → Prog Res β) → Prog Res β
  | .pure a, f => f a
  | .call op next, f => .call op fun r => (next r).bind f

instance : Monad (Prog Res) where
  pure := Prog.pure
  bind := Prog.bind

/-- The program that makes one call and returns its answer. -/
def lift (op : Op) : Prog Res (Res op) := .call op .pure

@[simp] theorem pure_def (a : α) : (.pure a : Prog Res α) = Pure.pure a := rfl

@[simp] theorem pure_bind' (a : α) (f : α → Prog Res β) : (Pure.pure a : Prog Res α) >>= f = f a := rfl

@[simp] theorem call_bind (op : Op) (next : Res op → Prog Res α) (f : α → Prog Res β) :
    (Prog.call op next : Prog Res α) >>= f = .call op fun r => next r >>= f := rfl

theorem bind_assoc' (p : Prog Res α) (f : α → Prog Res β) (g : β → Prog Res γ) :
    (p >>= f) >>= g = p >>= fun a => f a >>= g := by
  induction p with
  | pure a => rfl
  | call op next ih =>
    simp only [call_bind]
    congr 1
    exact funext ih

theorem bind_pure' (p : Prog Res α) : p >>= Pure.pure = p := by
  induction p with
  | pure a => rfl
  | call op next ih =>
    rw [call_bind]
    congr 1
    exact funext ih

/-! ## The two semantics -/

variable (dev : Device Res σ)

/-- Every call is answered by the device. -/
def run : Prog Res α → σ → α × σ
  | .pure a, s => (a, s)
  | .call op next, s => (next (dev op s).1).run (dev op s).2

/-- Power is cut in front of the call number `n`: the value is missing if the program was still
running, and the state is the one the calls before the cut have left. -/
def runFor : ℕ → Prog Res α → σ → Option α × σ
  | _, .pure a, s => (some a, s)
  | 0, .call _ _, s => (none, s)
  | n + 1, .call op next, s => runFor n (next (dev op s).1) (dev op s).2

/-- The weakest precondition: `Q` of the value and the state on returning, `C` of the state in
front of every call. -/
def wp (Q : α → σ → Prop) (C : σ → Prop) : Prog Res α → σ → Prop
  | .pure a, s => Q a s
  | .call op next, s => C s ∧ (next (dev op s).1).wp Q C (dev op s).2

variable {dev} {Q Q' : α → σ → Prop} {C C' : σ → Prop}

@[simp] theorem run_pure (a : α) (s : σ) : run dev (Pure.pure a) s = (a, s) := rfl

@[simp] theorem run_call (op : Op) (next : Res op → Prog Res α) (s : σ) :
    run dev (.call op next) s = run dev (next (dev op s).1) (dev op s).2 := rfl

theorem run_bind (p : Prog Res α) (f : α → Prog Res β) (s : σ) :
    run dev (p >>= f) s = run dev (f (run dev p s).1) (run dev p s).2 := by
  induction p generalizing s with
  | pure a => rfl
  | call op next ih => exact ih _ _

@[simp] theorem wp_pure (a : α) (s : σ) : wp dev Q C (Pure.pure a) s ↔ Q a s := Iff.rfl

@[simp] theorem wp_call (op : Op) (next : Res op → Prog Res α) (s : σ) :
    wp dev Q C (.call op next) s ↔ C s ∧ wp dev Q C (next (dev op s).1) (dev op s).2 := Iff.rfl

@[simp] theorem wp_lift_bind (op : Op) (f : Res op → Prog Res α) (s : σ) :
    wp dev Q C (lift op >>= f) s ↔ C s ∧ wp dev Q C (f (dev op s).1) (dev op s).2 := Iff.rfl

/-- **Chaining.** A program followed by another: the postcondition of the first is the
precondition of the second. -/
theorem wp_bind {p : Prog Res β} {f : β → Prog Res α} {s : σ} :
    wp dev Q C (p >>= f) s ↔ wp dev (fun b t => wp dev Q C (f b) t) C p s := by
  induction p generalizing s with
  | pure a => rfl
  | call op next ih =>
    rw [call_bind, wp_call, wp_call]
    exact and_congr_right fun _ => ih _

theorem wp_mono (hQ : ∀ a t, Q a t → Q' a t) (hC : ∀ t, C t → C' t) :
    ∀ {p : Prog Res α} {s : σ}, wp dev Q C p s → wp dev Q' C' p s := by
  intro p
  induction p with
  | pure a => exact hQ a _
  | call op next ih => exact fun h => ⟨hC _ h.1, ih _ h.2⟩

theorem wp_and {p : Prog Res α} {s : σ} (h : wp dev Q C p s) (h' : wp dev Q' C' p s) :
    wp dev (fun a t => Q a t ∧ Q' a t) (fun t => C t ∧ C' t) p s := by
  induction p generalizing s with
  | pure a => exact ⟨h, h'⟩
  | call op next ih => exact ⟨⟨h.1, h'.1⟩, ih _ h.2 h'.2⟩

theorem wp_run {p : Prog Res α} {s : σ} (h : wp dev Q C p s) :
    Q (run dev p s).1 (run dev p s).2 := by
  induction p generalizing s with
  | pure a => exact h
  | call op next ih => exact ih _ h.2

/-- **Soundness for a cut.** Wherever power is cut, the crash condition holds of what is left; if
the program has returned by then, its postcondition holds. -/
theorem wp_runFor {p : Prog Res α} {s : σ} (h : wp dev Q C p s) (n : ℕ) :
    match runFor dev n p s with
    | (some a, t) => Q a t
    | (none, t) => C t := by
  induction p generalizing n s with
  | pure a => cases n <;> exact h
  | call op next ih =>
    cases n with
    | zero => exact h.1
    | succ n => exact ih _ h.2 n

/-! ## Answers from outside -/

/-- The program may return `a` after the calls `ops`, when every answer is one that `answers` admits. -/
inductive Returns (answers : (op : Op) → Res op → Prop) : Prog Res α → List Op → α → Prop
  | pure (a : α) : Returns answers (.pure a) [] a
  | call {op : Op} {next : Res op → Prog Res α} {ops : List Op} {a : α} (r : Res op) (hr : answers op r)
      (h : Returns answers (next r) ops a) : Returns answers (.call op next) (op :: ops) a

variable {answers answers' : (op : Op) → Res op → Prop} {ops : List Op}

@[simp] theorem returns_pure {a b : α} : Returns answers (Pure.pure a : Prog Res α) ops b ↔ ops = [] ∧ b = a := by
  constructor
  · intro h
    cases h
    exact ⟨rfl, rfl⟩
  · rintro ⟨rfl, rfl⟩
    exact .pure _

theorem returns_lift_bind {op : Op} {f : Res op → Prog Res α} {a : α} :
    Returns answers (lift op >>= f) ops a ↔
      ∃ r ops', answers op r ∧ Returns answers (f r) ops' a ∧ ops = op :: ops' := by
  constructor
  · intro h
    cases h with
    | call r hr h => exact ⟨r, _, hr, h, rfl⟩
  · rintro ⟨r, ops', hr, h, rfl⟩
    exact .call r hr h

theorem returns_bind {p : Prog Res β} {f : β → Prog Res α} {a : α} (h : Returns answers (p >>= f) ops a) :
    ∃ b ops₁ ops₂, Returns answers p ops₁ b ∧ Returns answers (f b) ops₂ a ∧ ops = ops₁ ++ ops₂ := by
  induction p generalizing ops with
  | pure b => exact ⟨b, [], ops, .pure b, h, rfl⟩
  | call op next ih =>
    cases h with
    | call r hr h =>
      obtain ⟨b, ops₁, ops₂, hp, hf, rfl⟩ := ih r h
      exact ⟨b, op :: ops₁, ops₂, .call r hr hp, hf, rfl⟩

theorem Returns.mono (hanswers : ∀ op r, answers op r → answers' op r) {p : Prog Res α} {a : α}
    (h : Returns answers p ops a) : Returns answers' p ops a := by
  induction h with
  | pure a => exact .pure a
  | call r hr _ ih => exact .call r (hanswers _ r hr) ih

/-- What a device makes of a program is one of the things it may return. -/
theorem returns_run (dev : Device Res σ) (p : Prog Res α) (s : σ) :
    ∃ ops, Returns (fun _ _ => True) p ops (run dev p s).1 := by
  induction p generalizing s with
  | pure a => exact ⟨[], .pure a⟩
  | call op next ih =>
    obtain ⟨ops, h⟩ := ih (dev op s).1 (dev op s).2
    exact ⟨op :: ops, .call _ trivial h⟩

theorem returns_runFor (dev : Device Res σ) {p : Prog Res α} {n : ℕ} {s : σ} {a : α} (h : (runFor dev n p s).1 = some a) :
    ∃ ops, Returns (fun _ _ => True) p ops a := by
  induction p generalizing n s with
  | pure b =>
    cases n <;> cases h <;> exact ⟨[], .pure _⟩
  | call op next ih =>
    cases n with
    | zero => cases h
    | succ n =>
      obtain ⟨ops, hret⟩ := ih (dev op s).1 h
      exact ⟨op :: ops, .call _ trivial hret⟩

/-- The program makes no other calls than the permitted ones, whatever is answered. -/
def Calls (permitted : Op → Prop) : Prog Res α → Prop
  | .pure _ => True
  | .call op next => permitted op ∧ ∀ r, (next r).Calls permitted

variable {permitted : Op → Prop}

@[simp] theorem calls_pure (a : α) : Calls permitted (Pure.pure a : Prog Res α) := trivial

theorem calls_lift {op : Op} (h : permitted op) : Calls permitted (lift op : Prog Res _) := ⟨h, fun _ => trivial⟩

theorem calls_bind {p : Prog Res β} {f : β → Prog Res α} (hp : Calls permitted p)
    (hf : ∀ b, Calls permitted (f b)) : Calls permitted (p >>= f) := by
  induction p with
  | pure b => exact hf b
  | call op next ih => exact ⟨hp.1, fun r => ih r (hp.2 r)⟩

theorem Calls.mono {permitted' : Op → Prop} (hpermitted : ∀ op, permitted op → permitted' op) {p : Prog Res α}
    (h : Calls permitted p) : Calls permitted' p := by
  induction p with
  | pure a => trivial
  | call op next ih => exact ⟨hpermitted op h.1, fun r => ih r (h.2 r)⟩

/-- What no permitted call changes of a device, the program does not change. -/
theorem view_of_calls {τ : Type} (view : σ → τ) (hdev : ∀ op s, permitted op → view (dev op s).2 = view s)
    {p : Prog Res α} (h : Calls permitted p) (s : σ) : view (run dev p s).2 = view s := by
  induction p generalizing s with
  | pure a => rfl
  | call op next ih =>
    rw [run_call, ih _ (h.2 _)]
    exact hdev op s h.1

/-- A device that the permitted calls leave alone is left alone by the program. -/
theorem run_of_calls (hdev : ∀ op s, permitted op → (dev op s).2 = s) {p : Prog Res α} (h : Calls permitted p)
    (s : σ) : (run dev p s).2 = s :=
  view_of_calls id hdev h s

end Prog

end Redline.Lib
