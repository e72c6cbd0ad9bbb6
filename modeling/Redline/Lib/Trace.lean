import Mathlib.Algebra.Ring.Nat
import Mathlib.Data.List.Basic

/-!
# Traces

A trace grows at its end.  What holds of a trace at each of its entries, or of any two of them, is kept when it
holds of the new entry.
-/

namespace Redline.Lib

variable {α : Type*} {trace past rest : List α} {x y : α}

/-- A trace with one more entry, split at an entry. -/
theorem split_concat (h : trace ++ [x] = past ++ y :: rest) :
    (past = trace ∧ y = x ∧ rest = []) ∨ ∃ rest', trace = past ++ y :: rest' ∧ rest = rest' ++ [x] := by
  rcases List.eq_nil_or_concat rest with rfl | ⟨rest', z, rfl⟩
  · obtain ⟨hp, he⟩ := List.append_inj' h rfl
    exact Or.inl ⟨hp.symm, (List.singleton_inj.1 he).symm, rfl⟩
  · have h' : trace ++ [x] = (past ++ y :: rest') ++ [z] := by simpa using h
    obtain ⟨ht, hz⟩ := List.append_inj' h' rfl
    exact Or.inr ⟨rest', ht, by rw [List.singleton_inj.1 hz, List.concat_eq_append]⟩

theorem pairwise_concat {R : α → α → Prop} (h : trace.Pairwise R) (hx : ∀ entry ∈ trace, R entry x) :
    (trace ++ [x]).Pairwise R := by
  refine List.pairwise_append.2 ⟨h, List.pairwise_singleton _ _, fun entry he y hy => ?_⟩
  rw [List.mem_singleton.1 hy]
  exact hx entry he

theorem forall_mem_concat {P : α → Prop} (h : ∀ entry ∈ trace, P entry) (hx : P x) :
    ∀ entry ∈ trace ++ [x], P entry := by
  intro entry he
  rcases List.mem_append.1 he with he | he
  · exact h entry he
  · rw [List.mem_singleton.1 he]
    exact hx

/-- In a trace that is ordered, what cannot come first comes later. -/
theorem mem_later_of_pairwise {R : α → α → Prop} (h : trace.Pairwise R) (hx : x ∈ trace) (hy : y ∈ trace) (hne : y ≠ x)
    (hno : ¬ R y x) : ∃ past rest, trace = past ++ x :: rest ∧ y ∈ rest := by
  obtain ⟨past, rest, rfl⟩ := List.append_of_mem hx
  refine ⟨past, rest, rfl, ?_⟩
  rcases List.mem_append.1 hy with hpast | hy
  · exact absurd ((List.pairwise_append.1 h).2.2 y hpast x List.mem_cons_self) hno
  · exact (List.mem_cons.1 hy).resolve_left hne

end Redline.Lib
