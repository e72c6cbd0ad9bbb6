import Mathlib.Tactic.Common

/-!
# Codecs with one representation

An encoder and a decoder that both may refuse.  `Canonical encode decode` says that each undoes the other, and
`OneRepresentation encode decode` adds what follows: two accepted words are equal exactly when their values are.
`Buffered limit declared write read` is the same of a codec that writes into a buffer.
-/

namespace Redline.Lib

variable {α β ε δ : Type*} {encode : α → Except ε β} {decode : β → Except δ α} {a a' : α} {b b' : β}

/-- What is encoded decodes to itself, and what decodes is the encoding of its value. -/
structure Canonical (encode : α → Except ε β) (decode : β → Except δ α) : Prop where
  decode_encode : ∀ a b, encode a = .ok b → decode b = .ok a
  encode_decode : ∀ a b, decode b = .ok a → encode a = .ok b

/-- A canonical codec, whose words compare as their values do. -/
structure OneRepresentation (encode : α → Except ε β) (decode : β → Except δ α) : Prop
    extends Canonical encode decode where
  compares : ∀ a a' b b', decode b = .ok a → decode b' = .ok a' → (b = b' ↔ a = a')

namespace Canonical

theorem decode_inj (h : Canonical encode decode) (hb : decode b = .ok a) (hb' : decode b' = .ok a) : b = b' := by
  have he := h.encode_decode a b hb
  rw [h.encode_decode a b' hb', Except.ok.injEq] at he
  exact he.symm

theorem oneRepresentation (h : Canonical encode decode) : OneRepresentation encode decode := by
  refine ⟨h, fun a a' b b' hb hb' => ⟨?_, ?_⟩⟩
  · rintro rfl
    rw [hb, Except.ok.injEq] at hb'
    exact hb'
  · rintro rfl
    exact h.decode_inj hb hb'

end Canonical

/-! ### Buffers -/

variable {γ : Type*} {limit : ℕ} {declared : α → α} {write : α → ℕ → Option (List γ)} {read : List γ → Option α}
  {word word' : List γ} {capacity : ℕ}

/-- A codec that writes a word of at most `limit` letters into a buffer of any capacity.  Of a value only what is
`declared` is written, and what is read is exactly that. -/
structure Buffered (limit : ℕ) (declared : α → α) (write : α → ℕ → Option (List γ)) (read : List γ → Option α) :
    Prop where
  read_write : ∀ a capacity word, write a capacity = some word → read word = some (declared a)
  write_read : ∀ a capacity word, read word = some a → word.length ≤ capacity → write a capacity = some word
  fits : ∀ a capacity word, write a capacity = some word → word.length ≤ capacity ∧ word.length ≤ limit

/-- An encoding into a buffer: refused where it does not fit. -/
def intoBuffer (encoded : Except ε (List γ)) (capacity : ℕ) : Option (List γ) :=
  match encoded with
  | .error _ => none
  | .ok word => if capacity < word.length then none else some word

theorem intoBuffer_eq_some {encoded : Except ε (List γ)} :
    intoBuffer encoded capacity = some word ↔ encoded = .ok word ∧ word.length ≤ capacity := by
  unfold intoBuffer
  cases encoded with
  | error _ => simp
  | ok encoded =>
    dsimp only
    split
    · rename_i hroom
      refine iff_of_false (by simp) ?_
      rintro ⟨heq, hle⟩
      cases heq
      omega
    · rename_i hroom
      rw [Option.some.injEq, Except.ok.injEq]
      refine ⟨?_, fun h => h.1⟩
      rintro rfl
      exact ⟨rfl, by omega⟩

theorem toOption_eq_some {x : Except ε α} : x.toOption = some a ↔ x = .ok a := by
  cases x with
  | error _ => simp [Except.toOption]
  | ok _ => simp [Except.toOption]

/-- A canonical codec whose words are short, used with a buffer. -/
theorem Canonical.buffered {encode : α → Except ε (List γ)} {decode : List γ → Except δ α}
    (h : Canonical encode decode) (hlimit : ∀ a word, encode a = .ok word → word.length ≤ limit) :
    Buffered limit id (fun a => intoBuffer (encode a)) (fun word => (decode word).toOption) := by
  refine ⟨fun a capacity word hw => ?_, fun a capacity word hr hroom => ?_, fun a capacity word hw => ?_⟩
  · exact toOption_eq_some.2 (h.decode_encode a word (intoBuffer_eq_some.1 hw).1)
  · exact intoBuffer_eq_some.2 ⟨h.encode_decode a word (toOption_eq_some.1 hr), hroom⟩
  · obtain ⟨he, hroom⟩ := intoBuffer_eq_some.1 hw
    exact ⟨hroom, hlimit a word he⟩

end Redline.Lib
