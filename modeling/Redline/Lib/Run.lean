import Mathlib.Algebra.Ring.Nat
import Mathlib.Data.List.Basic
import Mathlib.Data.List.Induction

/-!
# Runs

A system takes turns: each turn has a state before it and a state after it, and some turns are steps that the system
can take.  A run is a list of steps, each from the state that the one before has left.

`IsRun.invariant` carries a property of one step over a run, `IsRun.history` one that also looks at the turns so far,
and `IsRun.between` one that a stretch of a run keeps.
-/

namespace Redline.Lib

/-- The turns `τ` of a system with the states `σ`. -/
structure System (σ τ : Type*) where
  before : τ → σ
  after : τ → σ
  Steps : τ → Prop

namespace System

variable {σ τ : Type*} {m : System σ τ} {s : σ} {t u : τ} {turns past rest : List τ}

/-- The turns are steps that follow one another from `s` on. -/
def IsRun (m : System σ τ) : σ → List τ → Prop
  | _, [] => True
  | s, t :: turns => m.before t = s ∧ m.Steps t ∧ m.IsRun (m.after t) turns

/-- The state after the turns. -/
def last (m : System σ τ) (s : σ) : List τ → σ
  | [] => s
  | t :: turns => m.last (m.after t) turns

@[simp] theorem last_nil : m.last s [] = s := rfl

@[simp] theorem last_cons : m.last s (t :: turns) = m.last (m.after t) turns := rfl

@[simp] theorem last_append : m.last s (past ++ turns) = m.last (m.last s past) turns := by
  induction past generalizing s with
  | nil => rfl
  | cons t past ih => exact ih

theorem isRun_append : m.IsRun s (past ++ turns) ↔ m.IsRun s past ∧ m.IsRun (m.last s past) turns := by
  induction past generalizing s with
  | nil => simp [IsRun]
  | cons t past ih => simp only [List.cons_append, IsRun, last_cons, ih, and_assoc]

/-- **Invariants over runs.** -/
theorem IsRun.invariant {I : σ → Prop} (h : m.IsRun s turns)
    (hstep : ∀ t ∈ turns, m.Steps t → I (m.before t) → I (m.after t)) (h0 : I s) :
    (∀ t ∈ turns, I (m.before t) ∧ I (m.after t)) ∧ I (m.last s turns) := by
  induction turns generalizing s with
  | nil => exact ⟨fun t ht => (by cases ht), h0⟩
  | cons t turns ih =>
    obtain ⟨rfl, hs, hrest⟩ := h
    have hafter := hstep t List.mem_cons_self hs h0
    obtain ⟨hturns, hlast⟩ := ih hrest (fun u hu => hstep u (List.mem_cons_of_mem _ hu)) hafter
    refine ⟨fun u hu => ?_, hlast⟩
    rcases List.mem_cons.1 hu with rfl | hu
    · exact ⟨h0, hafter⟩
    · exact hturns u hu

/-- **Invariants over histories**: of the turns so far and the state after them. -/
theorem IsRun.history {I : List τ → σ → Prop} (h : m.IsRun s turns) (h0 : I [] s)
    (hstep : ∀ past t rest, turns = past ++ t :: rest → m.Steps t → I past (m.before t) → I (past ++ [t]) (m.after t)) :
    I turns (m.last s turns) := by
  induction turns using List.reverseRecOn with
  | nil => exact h0
  | append_singleton turns t ih =>
    obtain ⟨hturns, hbefore, hs, -⟩ := isRun_append.1 h
    have hI : I turns (m.last s turns) := ih hturns fun past u rest heq => hstep past u (rest ++ [t]) (by simp [heq])
    rw [last_append, last_cons, last_nil]
    exact hstep turns t [] rfl hs (hbefore ▸ hI)

theorem IsRun.steps (h : m.IsRun s turns) (ht : t ∈ turns) : m.Steps t := by
  induction turns generalizing s with
  | nil => cases ht
  | cons u turns ih =>
    rcases List.mem_cons.1 ht with rfl | ht
    · exact h.2.1
    · exact ih h.2.2 ht

/-- What a turn leaves, the turn after a stretch finds, when the stretch keeps it. -/
theorem IsRun.between {I : σ → Prop} (h : m.IsRun s (past ++ t :: turns ++ u :: rest)) (ht : I (m.after t))
    (hstep : ∀ v ∈ turns, m.Steps v → I (m.before v) → I (m.after v)) : I (m.before u) := by
  rw [isRun_append, isRun_append, last_append, last_cons] at h
  rw [h.2.1]
  exact (h.1.2.2.2.invariant hstep ht).2

end System

end Redline.Lib
