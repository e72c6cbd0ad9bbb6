import Mathlib.Data.List.Basic

/-!
# Paging

A server shows a list page by page: a query at a cursor, or at none for the first page, is answered with some items and
the cursor of the next page, or with none when there is no more.  A client follows the cursors.  The server may have a
state that its queries change, and a query may fail.

`visits_of_serves`: a client sees every item once and in order when each query, as long as the client needs it, is
answered with the items from its position on.
-/

namespace Redline.Lib

variable {σ α κ : Type*}

structure Page (α κ : Type*) where
  items : List α
  next : Option κ

/-- The client: the pages from the cursor on, and the state after them; nothing when a query fails or the fuel is used
up.  The queries are numbered from `n` on. -/
def follow (ask : ℕ → σ → Option κ → Option (Page α κ × σ)) : ℕ → ℕ → σ → Option κ → Option (List (List α) × σ)
  | 0, _, _, _ => none
  | fuel + 1, n, s, cursor =>
    match ask n s cursor with
    | none => none
    | some (page, t) =>
      match page.next with
      | none => some ([page.items], t)
      | some next => (follow ask fuel (n + 1) t (some next)).map fun (pages, u) => (page.items :: pages, u)

/-- The client comes to an end, and its pages are the items in order. -/
def Visits (ask : ℕ → σ → Option κ → Option (Page α κ × σ)) (s : σ) (items : List α) : Prop :=
  ∀ fuel, items.length < fuel → ∃ pages t, follow ask fuel 0 s none = some (pages, t) ∧ pages.flatten = items

/-- The cursor of a position; the first page has none. -/
def cursorAt (code : ℕ → κ) (i : ℕ) : Option κ := if i = 0 then none else some (code i)

/-- At most `limit` items from a position on. -/
def pageAt (code : ℕ → κ) (limit : ℕ) (items : List α) (i : ℕ) : Page α κ where
  items := (items.drop i).take limit
  next := if items.length ≤ i + limit then none else some (code (i + limit))

/-- The server answers at every position, in a state that is ready for it, and is ready for the next position then. -/
structure Serves (ask : ℕ → σ → Option κ → Option (Page α κ × σ)) (code : ℕ → κ) (limit : ℕ) (items : List α)
    (Ready : ℕ → σ → ℕ → Prop) : Prop where
  answers : ∀ {n s i}, Ready n s i → i ≤ items.length →
    ∃ t, ask n s (cursorAt code i) = some (pageAt code limit items i, t) ∧ Ready (n + 1) t (i + limit)

theorem follow_of_serves {ask : ℕ → σ → Option κ → Option (Page α κ × σ)} {code : ℕ → κ} {limit : ℕ} {items : List α}
    {Ready : ℕ → σ → ℕ → Prop} (h : Serves ask code limit items Ready) (hlimit : 0 < limit) (fuel n : ℕ) (s : σ) (i : ℕ)
    (hready : Ready n s i) (hi : i ≤ items.length) (hfuel : items.length < i + fuel) :
    ∃ pages t, follow ask fuel n s (cursorAt code i) = some (pages, t) ∧ pages.flatten = items.drop i := by
  induction fuel generalizing n s i with
  | zero => omega
  | succ fuel ih =>
    obtain ⟨t, hask, hnext⟩ := h.answers hready hi
    rw [follow, hask]
    by_cases hlast : items.length ≤ i + limit
    · refine ⟨[(items.drop i).take limit], t, ?_, ?_⟩
      · simp only [pageAt, if_pos hlast]
      · rw [List.flatten_singleton, List.take_of_length_le]
        rw [List.length_drop]
        omega
    · obtain ⟨pages, u, hfollow, hpages⟩ := ih (n + 1) t (i + limit) hnext (by omega) (by omega)
      rw [cursorAt, if_neg (by omega)] at hfollow
      refine ⟨(items.drop i).take limit :: pages, u, ?_, ?_⟩
      · simp only [pageAt, if_neg hlast, hfollow]
        rfl
      · rw [List.flatten_cons, hpages, ← List.drop_drop, List.take_append_drop]

/-- **The client sees every item once and in order.** -/
theorem visits_of_serves {ask : ℕ → σ → Option κ → Option (Page α κ × σ)} {code : ℕ → κ} {limit : ℕ} {items : List α}
    {Ready : ℕ → σ → ℕ → Prop} (h : Serves ask code limit items Ready) (hlimit : 0 < limit) {s : σ}
    (hready : Ready 0 s 0) : Visits ask s items := by
  intro fuel hfuel
  exact follow_of_serves h hlimit fuel 0 s 0 hready (Nat.zero_le _) (by omega)

end Redline.Lib
