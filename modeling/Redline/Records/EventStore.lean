import Redline.Wire.Bytes
import Mathlib.Logic.Function.Basic

/-!
# Two copies of a record

Every durable object is kept in two copies, `A` and `B`, each with a 32-bit generation
(`event_store.h`).  A mutation rewrites the copy that is not in force with the next generation; a
reboot reads both copies and selects the newer one that decodes.

`Holds dec gen cells c r` says what such a pair stands for: the copy `c` is in force and decodes to
`r`.  `selectCopies` finds exactly that (`selectCopies_of_holds`, `holds_of_selectCopies`), the next
generation moves the pair to the new record (`Holds.commit`), and unreadable bytes in the other copy
leave it where it was (`Holds.torn`).
-/

namespace Redline.Records

open Redline.Wire

inductive CopySlot
  | A | B
  deriving DecidableEq

def CopySlot.opposite : CopySlot → CopySlot
  | .A => .B
  | .B => .A

inductive FixedReadStatus
  | ok | missing | unavailable
  deriving DecidableEq

inductive GenerationOrder
  | leftNewer | rightNewer | equal | ambiguous
  deriving DecidableEq

inductive SelectionResult
  | newestA | newestB | onlyAValid | onlyBValid | bothInvalid
  | equalIdentical | equalDisagreement | generationAmbiguous
  deriving DecidableEq

/-- One copy as it was read: the status of the read and the buffer. -/
structure FixedCopy where
  status : FixedReadStatus
  bytes : Bytes

/-- Half-range order of two generations modulo `2 ^ 32`. -/
def compareGenerations (left right : UInt32) : GenerationOrder :=
  if left = right then .equal
  else
    let distance := left - right
    if distance = 0x80000000 then .ambiguous
    else if distance < 0x80000000 then .leftNewer
    else .rightNewer

/-- The outcome of a selection, with the two output arguments of the source: they keep the values
the caller has initialised them with (`default` and `A`) when nothing is selected. -/
structure Selection (ρ : Type) where
  result : SelectionResult
  selected : ρ
  slot : CopySlot

section Select

variable {ρ : Type} [Inhabited ρ] (generation : ρ → UInt32) (decode : Bytes → Option ρ)

/-- The record a copy holds, if it was read and decodes. -/
def FixedCopy.valid (copy : FixedCopy) : Option ρ :=
  if copy.status = .ok then decode copy.bytes else none

def selectCopies (copyA copyB : FixedCopy) : Selection ρ :=
  match copyA.valid decode, copyB.valid decode with
  | none, none => ⟨.bothInvalid, default, .A⟩
  | some decodedA, none => ⟨.onlyAValid, decodedA, .A⟩
  | none, some decodedB => ⟨.onlyBValid, decodedB, .B⟩
  | some decodedA, some decodedB =>
    match compareGenerations (generation decodedA) (generation decodedB) with
    | .equal =>
      if copyA.bytes ≠ copyB.bytes then ⟨.equalDisagreement, default, .A⟩
      else ⟨.equalIdentical, decodedA, .A⟩
    | .ambiguous => ⟨.generationAmbiguous, default, .A⟩
    | .leftNewer => ⟨.newestA, decodedA, .A⟩
    | .rightNewer => ⟨.newestB, decodedB, .B⟩

end Select

/-- The selection has found a record in force. -/
def SelectionResult.authoritative : SelectionResult → Bool
  | .newestA | .newestB | .onlyAValid | .onlyBValid | .equalIdentical => true
  | .bothInvalid | .equalDisagreement | .generationAmbiguous => false

/-! ### Generations -/

@[simp] theorem CopySlot.opposite_opposite (c : CopySlot) : c.opposite.opposite = c := by
  cases c <;> rfl

@[simp] theorem CopySlot.opposite_ne (c : CopySlot) : c.opposite ≠ c := by
  cases c <;> decide

/-- The next generation is newer, also when it wraps to zero. -/
theorem compareGenerations_succ (g : UInt32) : compareGenerations (g + 1) g = .leftNewer := by
  have h : g + 1 - g = 1 := by grind
  have hne : g + 1 ≠ g := by
    intro he
    rw [he] at h
    simp at h
  simp only [compareGenerations, if_neg hne, h]
  decide

theorem compareGenerations_self (g : UInt32) : compareGenerations g g = .equal := by
  simp [compareGenerations]

/-- The order of two generations, seen from the other side. -/
theorem compareGenerations_swap {g h : UInt32} (hlt : compareGenerations g h = .leftNewer) :
    compareGenerations h g = .rightNewer := by
  simp only [compareGenerations] at hlt ⊢
  split at hlt
  · cases hlt
  · rename_i hne
    split at hlt
    · cases hlt
    · split at hlt
      · rename_i hd
        have hg := g.toNat_lt
        have hh := h.toNat_lt
        have hne' : h.toNat ≠ g.toNat := fun e => hne (UInt32.toNat_inj.1 e.symm)
        have hd' : (g - h).toNat < 2147483648 := UInt32.lt_iff_toNat_lt.1 hd
        have hge : 2147483648 < (h - g).toNat := by
          rw [UInt32.toNat_sub] at hd' ⊢
          omega
        rw [if_neg fun e => hne e.symm, if_neg, if_neg]
        · rw [UInt32.lt_iff_toNat_lt]
          exact fun hc => absurd hc (Nat.lt_asymm hge)
        · intro he
          rw [he] at hge
          exact absurd hge (by decide)
      · cases hlt

/-! ### What a pair of cells stands for -/

section Holds

variable {ρ : Type} (generation : ρ → UInt32) (decode : Bytes → Option ρ)

/-- The two cells of an object: what is stored under copy `A` and under copy `B`. -/
abbrev Cells := CopySlot → Option Bytes

/-- **The record in force.** The copy `c` decodes to `r`, and the other copy does not decode, or is
older, or is the same bytes (then `A` is in force). -/
def Holds (cells : Cells) (c : CopySlot) (r : ρ) : Prop :=
  (cells c).bind decode = some r ∧
    ∀ r', (cells c.opposite).bind decode = some r' →
      compareGenerations (generation r) (generation r') = .leftNewer ∨
        (c = .A ∧ generation r = generation r' ∧ cells .A = cells .B)

instance [DecidableEq ρ] (cells : Cells) (c : CopySlot) (r : ρ) : Decidable (Holds generation decode cells c r) :=
  inferInstanceAs (Decidable ((cells c).bind decode = some r ∧ ∀ r' ∈ (cells c.opposite).bind decode, _))

/-- A copy as it was read agrees with the stored content: it decodes as the content does, and a copy
that decodes has the bytes of the content. -/
def Reads (copy : FixedCopy) (content : Option Bytes) : Prop :=
  copy.valid decode = content.bind decode ∧
    ∀ r, copy.valid decode = some r → content = some copy.bytes

variable {generation decode} {cells : Cells} {c : CopySlot} {r : ρ}

theorem selectCopies_of_holds [Inhabited ρ] {a b : FixedCopy} (ha : Reads decode a (cells .A))
    (hb : Reads decode b (cells .B)) (h : Holds generation decode cells c r) :
    (selectCopies generation decode a b).result.authoritative = true ∧
      (selectCopies generation decode a b).selected = r ∧
      (selectCopies generation decode a b).slot = c := by
  obtain ⟨hc, ho⟩ := h
  obtain ⟨hav, habytes⟩ := ha
  obtain ⟨hbv, hbbytes⟩ := hb
  unfold selectCopies
  cases c with
  | A =>
    rw [hav, hc]
    rw [hav, hc] at habytes
    cases hB : (cells .B).bind decode with
    | none => simp [hbv, hB, SelectionResult.authoritative]
    | some r' =>
      rw [hbv, hB] at hbbytes
      rcases ho r' hB with hnew | ⟨-, hgen, hsame⟩
      · simp [hbv, hB, hnew, SelectionResult.authoritative]
      · have hbytes : a.bytes = b.bytes := by
          have h1 := habytes r rfl
          rw [hsame, hbbytes r' rfl] at h1
          exact (Option.some.inj h1).symm
        simp [hbv, hB, hgen, compareGenerations_self, hbytes, SelectionResult.authoritative]
  | B =>
    rw [hbv, hc]
    cases hA : (cells .A).bind decode with
    | none => simp [hav, hA, SelectionResult.authoritative]
    | some r' =>
      rcases ho r' hA with hnew | ⟨h, -⟩
      · simp [hav, hA, compareGenerations_swap hnew, SelectionResult.authoritative]
      · cases h

theorem compareGenerations_cases (g h : UInt32) :
    (compareGenerations g h = .equal ∧ g = h) ∨ compareGenerations g h = .ambiguous ∨
      compareGenerations g h = .leftNewer ∨ compareGenerations h g = .leftNewer := by
  by_cases he : g = h
  · exact Or.inl ⟨by simp [compareGenerations, he], he⟩
  · right
    by_cases hd : g - h = 0x80000000
    · left; simp [compareGenerations, he, hd]
    · right
      by_cases hlt : g - h < 0x80000000
      · left; simp [compareGenerations, he, hd, hlt]
      · right
        have hg := g.toNat_lt
        have hh := h.toNat_lt
        have hd' : (g - h).toNat ≠ 2147483648 := fun e => hd (UInt32.toNat_inj.1 e)
        have hlt' : ¬ (g - h).toNat < 2147483648 := fun e => hlt (UInt32.lt_iff_toNat_lt.2 e)
        have hge : (h - g).toNat < 2147483648 := by
          rw [UInt32.toNat_sub] at hd' hlt' ⊢
          omega
        simp only [compareGenerations]
        rw [if_neg fun e => he e.symm, if_neg, if_pos (UInt32.lt_iff_toNat_lt.2 hge)]
        intro e
        rw [e] at hge
        exact absurd hge (by decide)

/-- A selection in force is what the pair of cells holds. -/
theorem holds_of_selectCopies [Inhabited ρ] {a b : FixedCopy} (ha : Reads decode a (cells .A))
    (hb : Reads decode b (cells .B))
    (h : (selectCopies generation decode a b).result.authoritative = true) :
    Holds generation decode cells (selectCopies generation decode a b).slot
      (selectCopies generation decode a b).selected := by
  obtain ⟨hav, habytes⟩ := ha
  obtain ⟨hbv, hbbytes⟩ := hb
  unfold selectCopies at h ⊢
  cases hA : (cells .A).bind decode with
  | none =>
    cases hB : (cells .B).bind decode with
    | none => simp [hav, hA, hbv, hB, SelectionResult.authoritative] at h
    | some rB =>
      simp only [hav, hA, hbv, hB]
      exact ⟨hB, fun r' hr' => by simp [CopySlot.opposite, hA] at hr'⟩
  | some rA =>
    cases hB : (cells .B).bind decode with
    | none =>
      simp only [hav, hA, hbv, hB]
      exact ⟨hA, fun r' hr' => by simp [CopySlot.opposite, hB] at hr'⟩
    | some rB =>
      have hcA := habytes rA (by rw [hav, hA])
      have hcB := hbbytes rB (by rw [hbv, hB])
      rcases compareGenerations_cases (generation rA) (generation rB) with
        ⟨ho, hg⟩ | ho | ho | ho
      · simp only [hav, hA, hbv, hB, ho] at h ⊢
        by_cases hbytes : a.bytes = b.bytes
        · simp only [hbytes, ne_eq, not_true_eq_false, if_false]
          refine ⟨hA, fun r' hr' => Or.inr ⟨rfl, ?_, by rw [hcA, hcB, hbytes]⟩⟩
          rw [CopySlot.opposite, hB, Option.some.injEq] at hr'
          rw [← hr', hg]
        · simp [hbytes, SelectionResult.authoritative] at h
      · simp [hav, hA, hbv, hB, ho, SelectionResult.authoritative] at h
      · simp only [hav, hA, hbv, hB, ho]
        refine ⟨hA, fun r' hr' => Or.inl ?_⟩
        rw [CopySlot.opposite, hB, Option.some.injEq] at hr'
        rw [← hr', ho]
      · simp only [hav, hA, hbv, hB, compareGenerations_swap ho]
        refine ⟨hB, fun r' hr' => Or.inl ?_⟩
        rw [CopySlot.opposite, hA, Option.some.injEq] at hr'
        rw [← hr', ho]

theorem selectCopies_bothInvalid [Inhabited ρ] {a b : FixedCopy}
    (h : (selectCopies generation decode a b).result = .bothInvalid) :
    a.valid decode = none ∧ b.valid decode = none := by
  unfold selectCopies at h
  split at h
  · exact ⟨‹_›, ‹_›⟩
  · cases h
  · cases h
  · split at h
    · split at h <;> cases h
    · cases h
    · cases h
    · cases h

/-- The copy of a pair that stands in the slot `c`. -/
def pickCopy (a b : FixedCopy) : CopySlot → FixedCopy
  | .A => a
  | .B => b

/-- A selection that has found something has found what the copy it names decodes to. -/
theorem selectCopies_valid [Inhabited ρ] {a b : FixedCopy}
    (h : (selectCopies generation decode a b).result.authoritative = true) :
    (pickCopy a b (selectCopies generation decode a b).slot).valid decode =
      some (selectCopies generation decode a b).selected := by
  unfold selectCopies at h ⊢
  cases hA : a.valid decode with
  | none =>
    cases hB : b.valid decode with
    | none =>
      rw [hA, hB] at h
      cases h
    | some rB => exact hB
  | some rA =>
    cases hB : b.valid decode with
    | none => exact hA
    | some rB =>
      rw [hA, hB] at h
      dsimp only at h ⊢
      split at h
      · split at h
        · cases h
        · rename_i hbytes
          simp only [*, if_false]
          exact hA
      · cases h
      · simp only [*]
        exact hA
      · simp only [*]
        exact hB

/-- Where neither copy is valid, the outputs keep their initial values. -/
theorem selectCopies_of_invalid [Inhabited ρ] {a b : FixedCopy} (ha : a.valid decode = none) (hb : b.valid decode = none) :
    selectCopies generation decode a b = ⟨.bothInvalid, default, .A⟩ := by
  unfold selectCopies
  rw [ha, hb]

theorem invalid_of_bothInvalid [Inhabited ρ] {a b : FixedCopy}
    (h : (selectCopies generation decode a b).result = .bothInvalid) : a.valid decode = none ∧ b.valid decode = none := by
  unfold selectCopies at h
  split at h
  · exact ⟨‹_›, ‹_›⟩
  · cases h
  · cases h
  · split at h
    · split at h <;> cases h
    all_goals cases h

/-- A selection that is no conflict and has found something is in force. -/
theorem SelectionResult.authoritative_of_ne {r : SelectionResult} (h1 : r ≠ .equalDisagreement)
    (h2 : r ≠ .generationAmbiguous) (h3 : r ≠ .bothInvalid) : r.authoritative = true := by
  cases r <;> simp_all [SelectionResult.authoritative]

/-- A pair holds at most one record, in one copy. -/
theorem Holds.unique {c' : CopySlot} {r' : ρ} (h : Holds generation decode cells c r)
    (h' : Holds generation decode cells c' r') : c = c' ∧ r = r' := by
  by_cases hc : c = c'
  · subst hc
    exact ⟨rfl, Option.some.inj (h.1.symm.trans h'.1)⟩
  · exfalso
    have ho : c' = c.opposite := by cases c <;> cases c' <;> simp_all [CopySlot.opposite]
    subst ho
    have h1 := h.2 r' h'.1
    have h2 := h'.2 r (by simpa using h.1)
    cases c with
    | A =>
      rcases h2 with h2 | ⟨h2, -⟩
      · rcases h1 with h1 | ⟨-, h1, -⟩
        · rw [compareGenerations_swap h1] at h2; cases h2
        · rw [h1, compareGenerations_self] at h2; cases h2
      · cases h2
    | B =>
      rcases h1 with h1 | ⟨h1, -⟩
      · rcases h2 with h2 | ⟨-, h2, -⟩
        · rw [compareGenerations_swap h1] at h2; cases h2
        · rw [h2, compareGenerations_self] at h1; cases h1
      · cases h1

/-- **Commit.** The next generation in the other copy puts the new record in force. -/
theorem Holds.commit (h : Holds generation decode cells c r) {bytes : Bytes} {r' : ρ}
    (hdec : decode bytes = some r') (hgen : generation r' = generation r + 1) :
    Holds generation decode (Function.update cells c.opposite (some bytes)) c.opposite r' := by
  refine ⟨by simp [hdec], fun r'' hr'' => Or.inl ?_⟩
  rw [CopySlot.opposite_opposite, Function.update_of_ne (Ne.symm c.opposite_ne), h.1,
    Option.some.injEq] at hr''
  rw [← hr'', hgen, compareGenerations_succ]

/-- **Torn write.** Bytes that do not decode, put in the other copy, leave the record in force. -/
theorem Holds.torn (h : Holds generation decode cells c r) {bytes : Bytes}
    (hdec : decode bytes = none) :
    Holds generation decode (Function.update cells c.opposite (some bytes)) c r := by
  refine ⟨by rw [Function.update_of_ne (Ne.symm c.opposite_ne)]; exact h.1, fun r' hr' => ?_⟩
  simp [hdec] at hr'

end Holds

end Redline.Records
