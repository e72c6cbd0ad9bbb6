import Mathlib.Data.BitVec
import Mathlib.Logic.Function.Iterate

/-!
# Shift registers with feedback

The checksums that a register of `w` bits computes from a string of bits, one clock for each: linear over the field
of two elements, so what an error does to the register does not depend on the message (`run_xor`).  An error of at
most `w` consecutive bits always moves the register (`run_burst`), one of two bits does while the first bit of the
register has not come back to itself (`run_two`), and one of an odd number does where the clock keeps a parity that
each bit flips (`run_odd`).

The register shifts either way: towards the low end, with the top bit in its polynomial (`rightward`), or towards the
high end, with the low bit in it (`leftward`).
-/

namespace Redline.Lib

/-- A register of `w` bits.  The bit at `place 0` is the one that feeds back, and that at `place i` gets there in `i`
clocks; `bitAt j` reads the bit at `place j`. -/
structure ShiftRegister (w : ℕ) where
  clock : BitVec w → BitVec w
  place : ℕ → BitVec w
  bitAt : ℕ → BitVec w → Bool
  clock_xor : ∀ s t, clock (s ^^^ t) = clock s ^^^ clock t
  clock_kernel : ∀ s, clock s = 0#w → s = 0#w
  clock_place : ∀ i, i + 1 < w → clock (place (i + 1)) = place i
  bitAt_xor : ∀ j s t, bitAt j (s ^^^ t) = (bitAt j s ^^ bitAt j t)
  bitAt_place : ∀ i j, i < w → j < w → bitAt j (place i) = decide (i = j)
  ext : ∀ s t, (∀ j < w, bitAt j s = bitAt j t) → s = t

/-- Bits that are not all zero, all the ones within `n` consecutive places. -/
def Burst (n : ℕ) (error : List Bool) : Prop :=
  ∃ before window after, error = List.replicate before false ++ window ++ List.replicate after false ∧
    window.length ≤ n ∧ true ∈ window

namespace ShiftRegister

variable {w : ℕ} (r : ShiftRegister w)

/-- The bit at a place, or nothing. -/
def put (b : Bool) (i : ℕ) : BitVec w := if b then r.place i else 0#w

/-- A bit of the message goes in and the register is clocked. -/
def feed (s : BitVec w) (b : Bool) : BitVec w := r.clock (s ^^^ r.put b 0)

def run (s : BitVec w) (bits : List Bool) : BitVec w := bits.foldl r.feed s

/-- The bits of a string at the places from `i` on. -/
def word : ℕ → List Bool → BitVec w
  | _, [] => 0#w
  | i, b :: bits => r.put b i ^^^ word (i + 1) bits

/-! ### The clock -/

@[simp] theorem clock_zero : r.clock 0#w = 0#w := by
  have h := r.clock_xor 0#w 0#w
  rw [BitVec.xor_self, BitVec.xor_self] at h
  exact h

@[simp] theorem iterate_zero (n : ℕ) : r.clock^[n] 0#w = 0#w := Function.iterate_fixed r.clock_zero n

theorem iterate_kernel (n : ℕ) {s : BitVec w} (h : r.clock^[n] s = 0#w) : s = 0#w := by
  induction n generalizing s with
  | zero => exact h
  | succ n ih =>
    rw [Function.iterate_succ_apply] at h
    exact r.clock_kernel s (ih h)

@[simp] theorem put_false (i : ℕ) : r.put false i = 0#w := rfl
@[simp] theorem put_true (i : ℕ) : r.put true i = r.place i := rfl

theorem put_xor (a b : Bool) (i : ℕ) : r.put (a ^^ b) i = r.put a i ^^^ r.put b i := by
  cases a <;> cases b <;> simp

theorem clock_put (b : Bool) {i : ℕ} (h : i + 1 < w) : r.clock (r.put b (i + 1)) = r.put b i := by
  cases b with
  | false => exact r.clock_zero
  | true => exact r.clock_place i h

/-! ### Words -/

/-- A clock moves each bit one place on. -/
theorem clock_word {i : ℕ} {bits : List Bool} (h : i + 1 + bits.length ≤ w) :
    r.clock (r.word (i + 1) bits) = r.word i bits := by
  induction bits generalizing i with
  | nil => exact r.clock_zero
  | cons b bits ih =>
    rw [List.length_cons] at h
    rw [word, word, r.clock_xor, r.clock_put b (by omega), ih (by omega)]

/-- What is read linearly reads nothing from nothing. -/
theorem zero_of_xor {read : BitVec w → Bool} (h : ∀ s t, read (s ^^^ t) = (read s ^^ read t)) : read 0#w = false := by
  have hzero := h 0#w 0#w
  rw [BitVec.xor_self, Bool.xor_self] at hzero
  exact hzero

theorem bitAt_zero (j : ℕ) : r.bitAt j 0#w = false := zero_of_xor (r.bitAt_xor j)

theorem bitAt_put (b : Bool) {i j : ℕ} (hi : i < w) (hj : j < w) :
    r.bitAt j (r.put b i) = (b && decide (i = j)) := by
  cases b with
  | false => exact r.bitAt_zero j
  | true => exact (r.bitAt_place i j hi hj).trans (Bool.true_and _).symm

/-- A word has its bits at their places. -/
theorem bitAt_word {i j : ℕ} {bits : List Bool} (h : i + bits.length ≤ w) (hj : j < w) :
    r.bitAt j (r.word i bits) = (decide (i ≤ j) && bits.getD (j - i) false) := by
  induction bits generalizing i with
  | nil =>
    rw [word, bitAt_zero, List.getD_nil, Bool.and_false]
  | cons b bits ih =>
    rw [List.length_cons] at h
    rw [word, r.bitAt_xor, r.bitAt_put b (by omega) hj, ih (by omega)]
    rcases Nat.lt_trichotomy i j with hlt | rfl | hgt
    · obtain ⟨k, rfl⟩ : ∃ k, j = i + 1 + k := ⟨j - (i + 1), by omega⟩
      rw [show i + 1 + k - i = k + 1 by omega, show i + 1 + k - (i + 1) = k by omega, List.getD_cons_succ,
        decide_eq_false (by omega), decide_eq_true (by omega), decide_eq_true (by omega), Bool.and_false,
        Bool.false_xor]
    · rw [Nat.sub_self, List.getD_cons_zero, decide_eq_true rfl, decide_eq_false (by omega),
        decide_eq_true (Nat.le_refl i), Bool.and_true, Bool.false_and, Bool.xor_false, Bool.true_and]
    · rw [decide_eq_false (by omega), decide_eq_false (by omega), decide_eq_false (by omega), Bool.and_false,
        Bool.false_and, Bool.false_and, Bool.xor_false]

/-- A word of at most `w` bits that are not all zero is not zero. -/
theorem word_ne_zero {bits : List Bool} (hlen : bits.length ≤ w) (hbits : true ∈ bits) : r.word 0 bits ≠ 0#w := by
  intro h
  obtain ⟨j, hj, hb⟩ := List.getElem_of_mem hbits
  have hread : r.bitAt j (r.word 0 bits) = (decide (0 ≤ j) && bits.getD (j - 0) false) :=
    r.bitAt_word (by omega) (by omega)
  rw [h, r.bitAt_zero, Nat.sub_zero, List.getD_eq_getElem?_getD, List.getElem?_eq_getElem hj, hb] at hread
  simp at hread

/-! ### Runs -/

@[simp] theorem run_nil (s : BitVec w) : r.run s [] = s := rfl

@[simp] theorem run_cons (s : BitVec w) (b : Bool) (bits : List Bool) : r.run s (b :: bits) = r.run (r.feed s b) bits :=
  rfl

theorem run_append (s : BitVec w) (bits more : List Bool) : r.run s (bits ++ more) = r.run (r.run s bits) more :=
  List.foldl_append

theorem feed_false (s : BitVec w) : r.feed s false = r.clock s := by
  rw [feed, put_false, BitVec.xor_zero]

theorem run_zeros (n : ℕ) (s : BitVec w) : r.run s (List.replicate n false) = r.clock^[n] s := by
  induction n generalizing s with
  | zero => rfl
  | succ n ih => rw [List.replicate_succ, run_cons, feed_false, ih, Function.iterate_succ_apply]

/-- **The register is linear**: two messages that are xored are fed to two registers, and these are xored. -/
theorem run_xor (s t : BitVec w) {bits error : List Bool} (h : bits.length = error.length) :
    r.run (s ^^^ t) (List.zipWith xor bits error) = r.run s bits ^^^ r.run t error := by
  induction bits generalizing s t error with
  | nil =>
    rw [List.length_nil] at h
    rw [List.eq_nil_of_length_eq_zero h.symm]
    rfl
  | cons a bits ih =>
    cases error with
    | nil => cases h
    | cons b error =>
      rw [List.length_cons, List.length_cons, Nat.add_right_cancel_iff] at h
      have hfeed : r.feed (s ^^^ t) (a ^^ b) = r.feed s a ^^^ r.feed t b := by
        rw [feed, feed, feed, put_xor, ← r.clock_xor]
        congr 1
        ac_rfl
      rw [List.zipWith_cons_cons, run_cons, run_cons, run_cons, hfeed, ih _ _ h]

/-- At most `w` bits may go in together before the register is clocked. -/
theorem run_eq_iterate (s : BitVec w) {bits : List Bool} (h : bits.length ≤ w) :
    r.run s bits = r.clock^[bits.length] (s ^^^ r.word 0 bits) := by
  induction bits generalizing s with
  | nil => simp [word]
  | cons b bits ih =>
    rw [List.length_cons] at h
    rw [run_cons, ih _ (by omega), List.length_cons, Function.iterate_succ_apply, word, feed,
      ← r.clock_word (i := 0) (by omega), ← r.clock_xor, BitVec.xor_assoc]

section Programs

variable {r} {σ : Type*} {state : σ → BitVec w}

/-- A loop over the bits of a byte, each round of which clocks the register. -/
theorem state_rounds {bit : σ → σ} (hbit : ∀ s, state (bit s) = r.clock (state s)) {ρ : Type*} (rounds : List ρ) (s : σ) :
    state (rounds.foldl (fun s _ => bit s) s) = r.clock^[rounds.length] (state s) := by
  induction rounds generalizing s with
  | nil => rfl
  | cons _ rounds ih => rw [List.foldl_cons, ih, hbit, List.length_cons, Function.iterate_succ_apply]

/-- A loop over the bytes of a string, each round of which feeds the bits of its byte. -/
theorem state_bytes {byteStep : σ → UInt8 → σ} {order : UInt8 → List Bool}
    (hbyte : ∀ s byte, state (byteStep s byte) = r.run (state s) (order byte)) (bytes : List UInt8) (s : σ) :
    state (bytes.foldl byteStep s) = r.run (state s) (bytes.flatMap order) := by
  induction bytes generalizing s with
  | nil => rfl
  | cons byte bytes ih => rw [List.foldl_cons, ih, hbyte, List.flatMap_cons, run_append]

end Programs

/-! ### Errors -/

/-- **A burst moves the register.** -/
theorem run_burst {error : List Bool} (h : Burst w error) : r.run 0#w error ≠ 0#w := by
  obtain ⟨before, window, after, rfl, hlen, hbits⟩ := h
  intro hzero
  rw [run_append, run_append, run_zeros, run_zeros, iterate_zero, r.run_eq_iterate _ hlen, BitVec.zero_xor] at hzero
  exact r.word_ne_zero hlen hbits (r.iterate_kernel _ (r.iterate_kernel _ hzero))

/-- A bit in an otherwise empty string comes first after some zeros. -/
theorem exists_of_count_succ {n : ℕ} {error : List Bool} (h : error.count true = n + 1) :
    ∃ before after, error = List.replicate before false ++ true :: after ∧ after.count true = n := by
  induction error with
  | nil => simp at h
  | cons b error ih =>
    cases b with
    | false =>
      rw [List.count_cons_of_ne (by simp)] at h
      obtain ⟨before, after, rfl, hn⟩ := ih h
      exact ⟨before + 1, after, rfl, hn⟩
    | true =>
      rw [List.count_cons_self, Nat.add_right_cancel_iff] at h
      exact ⟨0, error, rfl, h⟩

theorem zeros_of_count {error : List Bool} (h : error.count true = 0) :
    error = List.replicate error.length false := by
  refine List.eq_replicate_iff.2 ⟨rfl, fun b hb => ?_⟩
  cases b with
  | false => rfl
  | true => exact absurd hb (List.count_eq_zero.1 h)

theorem feed_zero_true : r.feed 0#w true = r.clock (r.place 0) := by
  rw [feed, put_true, BitVec.zero_xor]

/-- **One bit moves the register.** -/
theorem run_one {error : List Bool} (hw : 0 < w) (h : error.count true = 1) : r.run 0#w error ≠ 0#w := by
  obtain ⟨before, after, rfl, hzero⟩ := exists_of_count_succ h
  rw [zeros_of_count hzero]
  refine r.run_burst ⟨before, [true], after.length, by simp, hw, by simp⟩

/-- The place does not come back within `n` clocks, from the state on. -/
def neverWithin (target : BitVec w) : ℕ → BitVec w → Bool
  | 0, _ => true
  | n + 1, s => r.clock s != target && neverWithin target n (r.clock s)

theorem iterate_ne_of_neverWithin {target s : BitVec w} {n : ℕ} (h : r.neverWithin target n s = true) :
    ∀ k, 0 < k → k ≤ n → r.clock^[k] s ≠ target := by
  induction n generalizing s with
  | zero =>
    intro k hpos hk
    omega
  | succ n ih =>
    intro k hpos hk
    rw [neverWithin, Bool.and_eq_true, bne_iff_ne] at h
    obtain ⟨k, rfl⟩ : ∃ m, k = m + 1 := ⟨k - 1, by omega⟩
    rw [Function.iterate_succ_apply]
    rcases Nat.eq_zero_or_pos k with rfl | hk'
    · exact h.1
    · exact ih h.2 k hk' (by omega)

/-- **Two bits move the register** while the first place has not come back to itself. -/
theorem run_two {error : List Bool} (horder : ∀ k, 0 < k → k < error.length → r.clock^[k] (r.place 0) ≠ r.place 0)
    (h : error.count true = 2) : r.run 0#w error ≠ 0#w := by
  obtain ⟨before, rest, rfl, hone⟩ := exists_of_count_succ h
  obtain ⟨between, after, rfl, hzero⟩ := exists_of_count_succ hone
  rw [zeros_of_count hzero] at horder ⊢
  intro hrun
  rw [run_append, run_zeros, iterate_zero, run_cons, feed_zero_true, run_append, run_zeros, run_cons, run_zeros,
    feed, put_true] at hrun
  have hmeet : r.clock^[between + 1] (r.place 0) = r.place 0 := by
    rw [Function.iterate_succ_apply]
    exact BitVec.xor_eq_zero_iff.1 (r.clock_kernel _ (r.iterate_kernel _ hrun))
  refine horder (between + 1) (by omega) ?_ hmeet
  simp only [List.length_append, List.length_cons, List.length_replicate]
  omega

/-- **An error that moves the empty register is noticed**: the message with it leaves another register. -/
theorem run_ne_of_error {s t : BitVec w} {bits error : List Bool} (hlen : bits.length = error.length)
    (hrun : r.run s bits = t) (herror : r.run 0#w error ≠ 0#w) : r.run s (List.zipWith xor bits error) ≠ t := by
  intro h
  have hxor := r.run_xor s 0#w hlen
  rw [BitVec.xor_zero, h, hrun] at hxor
  have hcancel : t ^^^ (t ^^^ r.run 0#w error) = t ^^^ t := congrArg (t ^^^ ·) hxor.symm
  rw [← BitVec.xor_assoc, BitVec.xor_self, BitVec.zero_xor] at hcancel
  exact herror hcancel

section Parity

variable {r} {parity : BitVec w → Bool} (hxor : ∀ s t, parity (s ^^^ t) = (parity s ^^ parity t))
  (hclock : ∀ s, parity (r.clock s) = parity s) (hplace : parity (r.place 0) = true)

include hxor hclock hplace

theorem parity_run (s : BitVec w) (error : List Bool) :
    parity (r.run s error) = (parity s ^^ decide (error.count true % 2 = 1)) := by
  induction error generalizing s with
  | nil => simp
  | cons b error ih =>
    rw [run_cons, ih, feed, hclock, hxor]
    cases b with
    | false => rw [put_false, zero_of_xor hxor, List.count_cons_of_ne (by simp), Bool.xor_false]
    | true =>
      rw [put_true, hplace, List.count_cons_self, Bool.xor_assoc]
      congr 1
      rcases Nat.mod_two_eq_zero_or_one (error.count true) with h | h
      · simp [h, Nat.add_mod]
      · simp [h, Nat.add_mod]

/-- **An odd number of bits moves a register that keeps a parity.** -/
theorem run_odd {error : List Bool} (h : error.count true % 2 = 1) : r.run 0#w error ≠ 0#w := by
  have hodd := parity_run hxor hclock hplace 0#w error
  intro hrun
  rw [hrun, zero_of_xor hxor, h] at hodd
  simp at hodd

end Parity

/-! ### The two directions -/

/-- The polynomial, where a bit feeds back. -/
def feedback (poly : BitVec w) (b : Bool) : BitVec w := if b then poly else 0#w

@[simp] theorem feedback_true (poly : BitVec w) : feedback poly true = poly := rfl
@[simp] theorem feedback_false (poly : BitVec w) : feedback poly false = 0#w := rfl

theorem feedback_xor (poly : BitVec w) (a b : Bool) : feedback poly (a ^^ b) = feedback poly a ^^^ feedback poly b := by
  cases a <;> cases b <;> simp

/-- The bit at the low end leaves the register and feeds back. -/
def rightward (poly : BitVec w) (hpoly : poly.msb = true) : ShiftRegister w where
  clock s := s >>> 1 ^^^ feedback poly (s.getLsbD 0)
  place i := BitVec.twoPow w i
  bitAt j s := s.getLsbD j
  clock_xor s t := by
    rw [BitVec.getLsbD_xor, BitVec.ushiftRight_xor_distrib, feedback_xor]
    ac_rfl
  clock_kernel s h := by
    -- the top bit of the sum is the bit that left
    have hbit : s.getLsbD 0 = false := by
      have htop := congrArg BitVec.msb h
      rw [BitVec.msb_xor, BitVec.msb_ushiftRight, BitVec.msb_zero] at htop
      cases hb : s.getLsbD 0 with
      | false => rfl
      | true => simp [hb, hpoly] at htop
    rw [hbit, feedback_false, BitVec.xor_zero] at h
    refine BitVec.eq_of_getLsbD_eq fun j hj => ?_
    rw [BitVec.getLsbD_zero]
    cases j with
    | zero => exact hbit
    | succ j =>
      have hread := congrArg (BitVec.getLsbD · j) h
      simpa [BitVec.getLsbD_ushiftRight, Nat.add_comm] using hread
  clock_place i hi := by
    have hbit : (BitVec.twoPow w (i + 1)).getLsbD 0 = false := by
      rw [BitVec.getLsbD_twoPow]
      simp
    rw [hbit]
    refine BitVec.eq_of_getLsbD_eq fun j hj => ?_
    simp [BitVec.getLsbD_ushiftRight, BitVec.getLsbD_twoPow, hi, Nat.add_comm 1 j]
    omega
  bitAt_xor j s t := BitVec.getLsbD_xor
  bitAt_place i j hi hj := by
    rw [BitVec.getLsbD_twoPow, decide_eq_true hi, Bool.true_and]
  ext s t h := BitVec.eq_of_getLsbD_eq fun j hj => h j hj

theorem clock_rightward (poly : BitVec w) (hpoly : poly.msb = true) (s : BitVec w) :
    (rightward poly hpoly).clock s = s >>> 1 ^^^ feedback poly (s.getLsbD 0) := rfl

/-- The bit at the high end leaves the register and feeds back. -/
def leftward (poly : BitVec w) (hpoly : poly.getLsbD 0 = true) : ShiftRegister w where
  clock s := s <<< 1 ^^^ feedback poly s.msb
  place i := BitVec.twoPow w (w - 1 - i)
  bitAt j s := s.getMsbD j
  clock_xor s t := by
    rw [BitVec.msb_xor, BitVec.shiftLeft_xor_distrib, feedback_xor]
    ac_rfl
  clock_kernel s h := by
    -- the low bit of the sum is the bit that left
    have hbit : s.msb = false := by
      have hlow := congrArg (BitVec.getLsbD · 0) h
      cases hb : s.msb with
      | false => rfl
      | true => simp [hb, hpoly, BitVec.getLsbD_shiftLeft] at hlow
    rw [hbit, feedback_false, BitVec.xor_zero] at h
    refine BitVec.eq_of_getMsbD_eq fun j hj => ?_
    rw [BitVec.getMsbD_zero]
    cases j with
    | zero => exact hbit
    | succ j =>
      have hread := congrArg (BitVec.getMsbD · j) h
      simpa [BitVec.getMsbD_shiftLeft] using hread
  clock_place i hi := by
    have hbit : (BitVec.twoPow w (w - 1 - (i + 1))).msb = false := by
      rw [BitVec.msb_twoPow]
      simp
      omega
    rw [hbit, feedback_false, BitVec.xor_zero, BitVec.twoPow_eq, BitVec.twoPow_eq, ← BitVec.shiftLeft_add]
    congr 1
    omega
  bitAt_xor j s t := BitVec.getMsbD_xor
  bitAt_place i j hi hj := by
    rw [BitVec.getMsbD_twoPow, decide_eq_true (by omega), Bool.true_and]
    exact decide_eq_decide.2 (by omega)
  ext s t h := BitVec.eq_of_getMsbD_eq fun j hj => h j hj

theorem clock_leftward (poly : BitVec w) (hpoly : poly.getLsbD 0 = true) (s : BitVec w) :
    (leftward poly hpoly).clock s = s <<< 1 ^^^ feedback poly s.msb := rfl

/-! ### Parity -/

/-- Whether the number of ones among the low `n` bits is odd. -/
def parityBelow (s : BitVec w) : ℕ → Bool
  | 0 => false
  | n + 1 => parityBelow s n ^^ s.getLsbD n

def parity (s : BitVec w) : Bool := parityBelow s w

theorem parityBelow_xor (s t : BitVec w) (n : ℕ) :
    parityBelow (s ^^^ t) n = (parityBelow s n ^^ parityBelow t n) := by
  induction n with
  | zero => rfl
  | succ n ih =>
    rw [parityBelow, parityBelow, parityBelow, ih, BitVec.getLsbD_xor, Bool.xor_assoc, Bool.xor_assoc,
      Bool.xor_left_comm (parityBelow t n)]

theorem parity_xor (s t : BitVec w) : parity (s ^^^ t) = (parity s ^^ parity t) := parityBelow_xor s t w

theorem parityBelow_shiftLeft (s : BitVec w) {n : ℕ} (h : n + 1 ≤ w) : parityBelow (s <<< 1) (n + 1) = parityBelow s n := by
  induction n with
  | zero => simp [parityBelow, BitVec.getLsbD_shiftLeft]
  | succ n ih =>
    have hread : (s <<< 1).getLsbD (n + 1) = s.getLsbD n := by
      rw [BitVec.getLsbD_shiftLeft, decide_eq_true (by omega)]
      simp
    rw [parityBelow, ih (by omega), hread, parityBelow]

/-- A polynomial with an odd number of bits makes up for the bit that left. -/
theorem parity_clock_leftward {poly : BitVec w} {hpoly : poly.getLsbD 0 = true} (hw : 0 < w) (hodd : parity poly = true)
    (s : BitVec w) : parity ((leftward poly hpoly).clock s) = parity s := by
  obtain ⟨n, rfl⟩ : ∃ n, w = n + 1 := ⟨w - 1, by omega⟩
  have hshift : parity (s <<< 1) = parityBelow s n := parityBelow_shiftLeft s (Nat.le_refl _)
  have hmsb : s.msb = s.getLsbD n := by
    rw [BitVec.msb_eq_getLsbD_last]
    rfl
  have hlast : parity s = (parityBelow s n ^^ s.getLsbD n) := rfl
  rw [clock_leftward, parity_xor, hshift, hmsb, hlast]
  cases s.getLsbD n with
  | false => rw [feedback_false, zero_of_xor parity_xor]
  | true => rw [feedback_true, hodd]

end ShiftRegister

/-! ### Bytes -/

section Bytes

variable {w : ℕ}

/-- The bits of a byte, least significant first. -/
def lsbFirst (byte : UInt8) : List Bool := (List.range 8).map byte.toBitVec.getLsbD

/-- The bits of a byte, most significant first. -/
def msbFirst (byte : UInt8) : List Bool := (List.range 8).map byte.toBitVec.getMsbD

@[simp] theorem length_lsbFirst (byte : UInt8) : (lsbFirst byte).length = 8 := rfl
@[simp] theorem length_msbFirst (byte : UInt8) : (msbFirst byte).length = 8 := rfl

theorem lsbFirst_xor (a b : UInt8) : lsbFirst (a ^^^ b) = List.zipWith xor (lsbFirst a) (lsbFirst b) := by
  simp [lsbFirst, List.zipWith_map, List.zipWith_self]

theorem msbFirst_xor (a b : UInt8) : msbFirst (a ^^^ b) = List.zipWith xor (msbFirst a) (msbFirst b) := by
  simp [msbFirst, List.zipWith_map, List.zipWith_self]

/-- Each bit of a string of bytes that is one in the other is flipped. -/
def flipBits (bytes error : List UInt8) : List UInt8 := List.zipWith (· ^^^ ·) bytes error

theorem length_flatMap_of_const {n : ℕ} {order : UInt8 → List Bool} (horder : ∀ b, (order b).length = n)
    (bytes : List UInt8) : (bytes.flatMap order).length = bytes.length * n := by
  induction bytes with
  | nil => simp
  | cons b bytes ih =>
    rw [List.flatMap_cons, List.length_append, horder, ih, List.length_cons, Nat.add_mul, Nat.one_mul, Nat.add_comm]

/-- The bits of a flipped string. -/
theorem flatMap_flipBits {n : ℕ} {order : UInt8 → List Bool} (horder : ∀ b, (order b).length = n)
    (hxor : ∀ a b, order (a ^^^ b) = List.zipWith xor (order a) (order b)) {bytes error : List UInt8}
    (h : bytes.length = error.length) :
    (flipBits bytes error).flatMap order = List.zipWith xor (bytes.flatMap order) (error.flatMap order) := by
  induction bytes generalizing error with
  | nil => simp [flipBits]
  | cons a bytes ih =>
    cases error with
    | nil => cases h
    | cons b error =>
      rw [List.length_cons, List.length_cons, Nat.add_right_cancel_iff] at h
      rw [flipBits, List.zipWith_cons_cons, List.flatMap_cons, List.flatMap_cons, List.flatMap_cons,
        List.zipWith_append (by rw [horder, horder]), ← hxor, ← ih h, flipBits]

/-- A byte at the low end of a register. -/
theorem word_lsbFirst (poly : BitVec w) (hpoly : poly.msb = true) (hw : 8 ≤ w) (byte : UInt8) :
    (ShiftRegister.rightward poly hpoly).word 0 (lsbFirst byte) = byte.toBitVec.setWidth w := by
  refine (ShiftRegister.rightward poly hpoly).ext _ _ fun j hj => ?_
  rw [ShiftRegister.bitAt_word _ (by simpa using hw) hj]
  show _ = (byte.toBitVec.setWidth w).getLsbD j
  rw [BitVec.getLsbD_setWidth, decide_eq_true hj, decide_eq_true (Nat.zero_le j)]
  by_cases h8 : j < 8
  · simp [lsbFirst, h8]
  · simp [lsbFirst, h8, BitVec.getLsbD_of_ge _ _ (Nat.le_of_not_lt h8)]

/-- A byte at the high end of a register. -/
theorem word_msbFirst (poly : BitVec w) (hpoly : poly.getLsbD 0 = true) (hw : 8 ≤ w) (byte : UInt8) :
    (ShiftRegister.leftward poly hpoly).word 0 (msbFirst byte) = byte.toBitVec.setWidth w <<< (w - 8) := by
  refine (ShiftRegister.leftward poly hpoly).ext _ _ fun j hj => ?_
  rw [ShiftRegister.bitAt_word _ (by simpa using hw) hj]
  show _ = (byte.toBitVec.setWidth w <<< (w - 8)).getMsbD j
  rw [BitVec.getMsbD_shiftLeft, BitVec.getMsbD_setWidth, decide_eq_true (Nat.zero_le j), decide_eq_true (by omega),
    Bool.true_and, Bool.true_and, show j + (w - 8) + 8 - w = j by omega]
  by_cases h8 : j < 8
  · simp [msbFirst, h8]
  · simp [msbFirst, h8, BitVec.getMsbD_of_ge _ _ (Nat.le_of_not_lt h8)]

end Bytes

end Redline.Lib
