import Mathlib.Data.List.Induction

/-!
# Delimited streams

A stream is cut at a delimiter: `closed d s` are the pieces that a delimiter has ended, in order, and `opened d s` what
has come since the last one.  Both are `List.splitOn`, read a symbol at a time from the left: a symbol joins the open
piece, and a delimiter closes it.
-/

namespace Redline.Lib

variable {α : Type*} [DecidableEq α] (d : α)

def closed (s : List α) : List (List α) := (s.splitOn d).dropLast

def opened (s : List α) : List α := (s.splitOn d).getLastD []

theorem splitOn_eq_closed_opened (s : List α) : s.splitOn d = closed d s ++ [opened d s] := by
  have hne : s.splitOn d ≠ [] := List.splitOn_ne_nil d s
  rw [closed, opened, List.getLastD_eq_getLast?, List.getLast?_eq_some_getLast hne, Option.getD_some,
    List.dropLast_concat_getLast]

variable {d}

@[simp] theorem closed_nil : closed d [] = [] := by simp [closed]

@[simp] theorem opened_nil : opened d [] = [] := by simp [opened]

theorem closed_of_free {s : List α} (h : d ∉ s) : closed d s = [] := by
  rw [closed, List.splitOn_eq_singleton h]
  rfl

theorem opened_of_free {s : List α} (h : d ∉ s) : opened d s = s := by
  rw [opened, List.splitOn_eq_singleton h]
  rfl

/-- A delimiter closes what is open. -/
theorem closed_append_cons (s t : List α) : closed d (s ++ d :: t) = closed d s ++ opened d s :: closed d t := by
  rw [closed, List.splitOn_append_cons_self, splitOn_eq_closed_opened d t, splitOn_eq_closed_opened d s,
    ← List.append_assoc, List.dropLast_concat, List.append_assoc]
  rfl

theorem opened_append_cons (s t : List α) : opened d (s ++ d :: t) = opened d t := by
  rw [opened, List.splitOn_append_cons_self, splitOn_eq_closed_opened d t, ← List.append_assoc, List.getLastD_concat]

theorem closed_append_delimiter (s : List α) : closed d (s ++ [d]) = closed d s ++ [opened d s] := by
  rw [closed_append_cons, closed_nil]

theorem opened_append_delimiter (s : List α) : opened d (s ++ [d]) = [] := by
  rw [opened_append_cons, opened_nil]

/-- A stream without a delimiter, or its last delimiter. -/
theorem exists_last (s : List α) : d ∉ s ∨ ∃ p t, s = p ++ d :: t ∧ d ∉ t := by
  induction s using List.reverseRecOn with
  | nil => exact .inl (by simp)
  | append_singleton s x ih =>
    by_cases hx : x = d
    · subst hx
      exact .inr ⟨s, [], rfl, by simp⟩
    · rcases ih with h | ⟨p, t, rfl, h⟩
      · refine .inl ?_
        simp [h, Ne.symm hx]
      · refine .inr ⟨p, t ++ [x], by simp, ?_⟩
        simp [h, Ne.symm hx]

theorem not_mem_opened (s : List α) : d ∉ opened d s := by
  rcases exists_last (d := d) s with h | ⟨p, t, rfl, h⟩
  · rwa [opened_of_free h]
  · rwa [opened_append_cons, opened_of_free h]

/-- Symbols other than the delimiter join what is open. -/
theorem closed_append_free (s : List α) {t : List α} (h : d ∉ t) : closed d (s ++ t) = closed d s := by
  rcases exists_last (d := d) s with hs | ⟨p, u, rfl, hu⟩
  · rw [closed_of_free hs, closed_of_free (by simp [hs, h])]
  · have hut : d ∉ u ++ t := by simp [hu, h]
    rw [List.append_assoc, List.cons_append, closed_append_cons, closed_append_cons, closed_of_free hu,
      closed_of_free hut]

theorem opened_append_free (s : List α) {t : List α} (h : d ∉ t) : opened d (s ++ t) = opened d s ++ t := by
  rcases exists_last (d := d) s with hs | ⟨p, u, rfl, hu⟩
  · rw [opened_of_free hs, opened_of_free (by simp [hs, h])]
  · rw [List.append_assoc, List.cons_append, opened_append_cons, opened_append_cons, opened_of_free hu,
      opened_of_free (by simp [hu, h])]

/-- **Where a closed piece stands.** -/
theorem mem_closed {s c : List α} (h : c ∈ closed d s) :
    ∃ p t, s = p ++ c ++ d :: t ∧ d ∉ c ∧ opened d p = [] := by
  induction s using List.reverseRecOn with
  | nil => simp at h
  | append_singleton s x ih =>
    by_cases hx : x = d
    · subst hx
      rw [closed_append_delimiter, List.mem_append, List.mem_singleton] at h
      rcases h with h | rfl
      · obtain ⟨p, t, rfl, hc, hp⟩ := ih h
        exact ⟨p, t ++ [x], by simp, hc, hp⟩
      · rcases exists_last (d := x) s with hs | ⟨p, u, rfl, hu⟩
        · exact ⟨[], [], by rw [opened_of_free hs]; rfl, not_mem_opened s, opened_nil⟩
        · refine ⟨p ++ [x], [], ?_, not_mem_opened _, opened_append_delimiter p⟩
          rw [opened_append_cons, opened_of_free hu]
          simp
    · have hfree : d ∉ [x] := by simpa using Ne.symm hx
      rw [closed_append_free s hfree] at h
      obtain ⟨p, t, rfl, hc, hp⟩ := ih h
      exact ⟨p, t ++ [x], by simp, hc, hp⟩

/-- After a delimiter the pieces are those of what follows. -/
theorem closed_after {s : List α} (hs : opened d s = []) (t : List α) :
    closed d (s ++ t) = closed d s ++ closed d t := by
  rcases exists_last (d := d) s with hfree | ⟨p, u, rfl, hu⟩
  · rw [opened_of_free hfree] at hs
    rw [hs, List.nil_append, closed_nil, List.nil_append]
  · rw [opened_append_cons, opened_of_free hu] at hs
    subst hs
    rw [List.append_assoc, List.cons_append, List.nil_append, closed_append_cons, closed_append_delimiter]
    simp

end Redline.Lib
