import Redline.Wire.Bytes

/-!
# Slices of a string

`slice input offset length`, the bytes from an offset on.  The bytes and words read at an offset, written again, are
the slice they were read from, and neighbouring slices join: so a string is the sum of its fields.
-/

namespace Redline.Wire

def slice (input : Bytes) (offset length : ℕ) : Bytes := (input.drop offset).take length

theorem length_slice {input : Bytes} {offset length : ℕ} (h : offset + length ≤ input.length) :
    (slice input offset length).length = length := by
  rw [slice, List.length_take, List.length_drop]
  omega

theorem slice_append (input : Bytes) (offset m n : ℕ) :
    slice input offset m ++ slice input (offset + m) n = slice input offset (m + n) := by
  rw [slice, slice, slice, List.take_add, ← List.drop_drop]

theorem slice_zero_left (input : Bytes) (length : ℕ) : slice input 0 length = input.take length := by
  rw [slice, List.drop_zero]

theorem slice_one {input : Bytes} {offset : ℕ} (h : offset < input.length) :
    slice input offset 1 = [byteAt input offset] := by
  rw [slice, List.drop_eq_getElem_cons h, List.take_succ_cons, List.take_zero]
  simp [byteAt, h]

theorem slice_succ {input : Bytes} {offset : ℕ} (length : ℕ) (h : offset < input.length) :
    slice input offset (length + 1) = byteAt input offset :: slice input (offset + 1) length := by
  rw [Nat.add_comm, ← slice_append, slice_one h]
  rfl

/-- What follows a head that ends with its count. -/
theorem length_drop_counted {input : Bytes} {fixed : ℕ} {count : UInt8} (h : input.length = fixed + count.toNat) :
    (input.drop fixed).length = count.toNat ∧ (input.drop fixed).length.toUInt8 = count := by
  have hdrop : (input.drop fixed).length = count.toNat := by
    rw [List.length_drop]
    omega
  exact ⟨hdrop, by rw [hdrop, Nat.toUInt8_eq, UInt8.ofNat_toNat]⟩

theorem writeUint16Le_of_bytes (a b : UInt8) : writeUint16Le (a.toUInt16 ||| b.toUInt16 <<< 8) = [a, b] := by
  have ha := a.toNat_lt
  have hb := b.toNat_lt
  simp only [writeUint16Le, List.cons.injEq, and_true]
  constructor
  · apply UInt8.toNat_inj.1
    rw [UInt16.toNat_toUInt8, toNat_uint16_of_bytes]
    omega
  · apply UInt8.toNat_inj.1
    simp only [UInt16.toNat_toUInt8, UInt16.toNat_shiftRight, toNat_uint16_of_bytes, UInt16.reduceToNat, Nat.reduceMod,
      Nat.shiftRight_eq_div_pow]
    omega

theorem writeUint32Le_of_bytes (a b c d : UInt8) :
    writeUint32Le (a.toUInt32 ||| b.toUInt32 <<< 8 ||| c.toUInt32 <<< 16 ||| d.toUInt32 <<< 24) = [a, b, c, d] := by
  have ha := a.toNat_lt
  have hb := b.toNat_lt
  have hc := c.toNat_lt
  have hd := d.toNat_lt
  simp only [writeUint32Le, List.cons.injEq, and_true]
  refine ⟨?_, ?_, ?_, ?_⟩ <;> apply UInt8.toNat_inj.1
  · rw [UInt32.toNat_toUInt8, toNat_uint32_of_bytes]
    omega
  all_goals
    simp only [UInt32.toNat_toUInt8, UInt32.toNat_shiftRight, toNat_uint32_of_bytes, UInt32.reduceToNat, Nat.reduceMod,
      Nat.shiftRight_eq_div_pow]
    omega

/-- A word, written where it was read. -/
theorem writeUint16Le_read {input : Bytes} {offset : ℕ} (h : offset + 2 ≤ input.length) :
    writeUint16Le (readUint16Le input offset) = slice input offset 2 := by
  rw [readUint16Le, writeUint16Le_of_bytes, slice_succ 1 (by omega), slice_one (by omega)]

theorem writeUint32Le_read {input : Bytes} {offset : ℕ} (h : offset + 4 ≤ input.length) :
    writeUint32Le (readUint32Le input offset) = slice input offset 4 := by
  rw [readUint32Le, writeUint32Le_of_bytes, slice_succ 3 (by omega), slice_succ 2 (by omega), slice_succ 1 (by omega),
    slice_one (by omega)]

/-! ### Slices of one kind of field -/

theorem slice_eq_map {input : Bytes} {offset length : ℕ} (h : offset + length ≤ input.length) :
    slice input offset length = (List.range length).map fun i => byteAt input (offset + i) := by
  refine List.ext_getElem (by rw [length_slice h, List.length_map, List.length_range]) fun i hi _ => ?_
  rw [length_slice h] at hi
  have hlt : offset + i < input.length := by omega
  simp [slice, byteAt, hlt]

/-- Fields of one width in a row, read into an array and written again. -/
theorem flatMap_ofFn_read {α : Type} {write : α → Bytes} {read : Bytes → ℕ → α} {input : Bytes} {width : ℕ}
    (hread : ∀ offset, offset + width ≤ input.length → write (read input offset) = slice input offset width)
    {offset n : ℕ} (h : offset + width * n ≤ input.length) :
    (Vector.ofFn fun i : Fin n => read input (offset + width * i)).toList.flatMap write =
      slice input offset (width * n) := by
  rw [Vector.toList_ofFn]
  induction n with
  | zero => rfl
  | succ n ih =>
    rw [Nat.mul_succ] at h
    have hinit := ih (by omega)
    rw [List.ofFn_succ_last, List.flatMap_append, List.flatMap_singleton, Fin.val_last, hread _ (by omega)]
    simp only [Fin.val_castSucc]
    rw [hinit, slice_append, Nat.mul_succ]

/-- Bytes in a row, read into an array. -/
theorem toList_ofFn_byteAt {input : Bytes} {offset n : ℕ} (h : offset + n ≤ input.length) :
    (Vector.ofFn fun i : Fin n => byteAt input (offset + i)).toList = slice input offset n := by
  have hone : ∀ offset, offset + 1 ≤ input.length → [byteAt input offset] = slice input offset 1 :=
    fun offset h => (slice_one (by omega)).symm
  have hfields : (Vector.ofFn fun i : Fin n => byteAt input (offset + 1 * i)).toList.flatMap (fun b => [b]) =
      slice input offset (1 * n) := flatMap_ofFn_read hone (by omega)
  simp only [Nat.one_mul] at hfields
  rw [← hfields, List.flatMap_singleton']

end Redline.Wire
