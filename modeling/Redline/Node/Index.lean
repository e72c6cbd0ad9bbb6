import Redline.Node.Commit
import Mathlib.Data.List.Sort

/-!
# The index of queued slots

`rebuildIndex` scans the slots for a repeated identity and sorts the QUEUED ones.  The order is that of
the numbers `key epoch id`; `rebuildIndex_of_distinct` says that distinct identities give an index of
exactly the QUEUED slots in increasing order, and `distinct_of_rebuildIndex` that nothing else is
accepted.
-/

namespace Redline.Node

open Redline.Wire Redline.Records Redline.Lib

/-! ### Keys -/

/-- The place of an identity in the lexicographic order. -/
def key (epoch id : UInt32) : ℕ := 2 ^ 32 * epoch.toNat + id.toNat

theorem key_lt_key {e e' i i' : UInt32} :
    key e i < key e' i' ↔ e < e' ∨ (e = e' ∧ i < i') := by
  have hi := i.toNat_lt
  have hi' := i'.toNat_lt
  rw [UInt32.lt_iff_toNat_lt, UInt32.lt_iff_toNat_lt, ← UInt32.toNat_inj]
  unfold key
  omega

theorem key_inj {e e' i i' : UInt32} : key e i = key e' i' ↔ e = e' ∧ i = i' := by
  have hi := i.toNat_lt
  have hi' := i'.toNat_lt
  rw [← UInt32.toNat_inj, ← UInt32.toNat_inj]
  unfold key
  omega

end Redline.Node

namespace Redline.Records

/-- The key of the identity a record carries. -/
def NodeRecord.key (r : NodeRecord) : ℕ := Node.key r.eventEpoch r.eventId

/-- The record owns an Event. -/
def NodeRecord.Owned (r : NodeRecord) : Prop := r.state ≠ .free

instance NodeRecord.decidableOwned (r : NodeRecord) : Decidable r.Owned := inferInstanceAs (Decidable (_ ≠ _))

end Redline.Records

namespace Redline.Node

open Redline.Wire Redline.Records Redline.Lib

theorem identityLess_iff {l r : NodeRecord} : identityLess l r = true ↔ l.key < r.key := by
  simp [identityLess, NodeRecord.key, key_lt_key]

theorem sameIdentity_iff {l r : NodeRecord} : Store.sameIdentity l r = true ↔ l.key = r.key := by
  simp [Store.sameIdentity, NodeRecord.key, key_inj]

/-- No two owned slots carry one identity. -/
def Distinct (v : SlotIndex → NodeRecord) : Prop :=
  ∀ i j, (v i).Owned → (v j).Owned → (v i).key = (v j).key → i = j

/-- The index lists the QUEUED slots in the order of their identities. -/
structure Indexed (s : Store) : Prop where
  mem : ∀ i, i ∈ s.queue ↔ (s.records i).state = .queued
  sorted : s.queue.Pairwise fun i j => (s.records i).key < (s.records j).key

variable {s : Store}

/-! ### The scan -/

/-- The slot repeats the identity of an earlier one. -/
def Store.repeats (s : Store) (slot : SlotIndex) : Bool :=
  (List.finRange 8).any fun other => other < slot && s.owns other &&
    Store.sameIdentity (s.slots other).record (s.slots slot).record

theorem scanIndex_of_no_repeat {l : List SlotIndex} (queue : List SlotIndex)
    (h : ∀ slot ∈ l, s.owns slot = true → s.repeats slot = false) :
    s.scanIndex l queue =
      (queue ++ l.filter fun slot => s.owns slot && (s.slots slot).record.state = .queued, true) := by
  induction l generalizing queue with
  | nil => simp [Store.scanIndex]
  | cons slot rest ih =>
    have ih := fun q => ih q fun i hi => h i (List.mem_cons_of_mem _ hi)
    unfold Store.scanIndex
    by_cases ho : s.owns slot = true
    · have hr := h slot List.mem_cons_self ho
      unfold Store.repeats at hr
      simp only [ho, hr, Bool.not_true, Bool.false_eq_true, if_false]
      by_cases hq : (s.slots slot).record.state = .queued
      · simp [ih, hq, ho]
      · simp [ih, hq, ho]
    · simp [ih, ho]

theorem no_repeat_of_scanIndex {l queue : List SlotIndex} (h : (s.scanIndex l queue).2 = true) :
    ∀ slot ∈ l, s.owns slot = true → s.repeats slot = false := by
  induction l generalizing queue with
  | nil => simp
  | cons slot rest ih =>
    unfold Store.scanIndex at h
    by_cases ho : s.owns slot = true
    · simp only [ho, Bool.not_true, Bool.false_eq_true, if_false] at h
      split at h
      · cases h
      · rename_i hr
        have hrest : ∀ i ∈ rest, s.owns i = true → s.repeats i = false := by
          split at h <;> exact ih h
        intro i hi hoi
        rcases List.mem_cons.1 hi with rfl | hi
        · simpa [Store.repeats] using hr
        · exact hrest i hi hoi
    · simp only [ho, Bool.not_false, if_true] at h
      intro i hi hoi
      rcases List.mem_cons.1 hi with rfl | hi
      · exact absurd hoi ho
      · exact ih h i hi hoi

theorem owns_iff (hp : ∀ i, (s.slots i).present = true) (i : SlotIndex) :
    s.owns i = true ↔ (s.records i).Owned := by
  simp [Store.owns, hp, NodeRecord.Owned, Store.records]

theorem repeats_iff (hp : ∀ i, (s.slots i).present = true) (slot : SlotIndex) :
    s.repeats slot = true ↔
      ∃ other < slot, (s.records other).Owned ∧ (s.records other).key = (s.records slot).key := by
  simp [Store.repeats, owns_iff hp, sameIdentity_iff, Store.records, and_assoc]

/-! ### The sort -/

/-- `insertBack` is the ordered insertion into a decreasing list. -/
theorem insertBack_eq_orderedInsert (value : SlotIndex) (l : List SlotIndex) :
    s.insertBack value l =
      l.orderedInsert (fun i j => (s.records j).key ≤ (s.records i).key) value := by
  induction l with
  | nil => rfl
  | cons last before ih =>
    unfold Store.insertBack
    rw [List.orderedInsert_cons, ih]
    by_cases h : identityLess (s.slots value).record (s.slots last).record = true
    · have hlt := identityLess_iff.1 h
      rw [if_pos h, if_neg]
      exact not_le.2 hlt
    · have hle := fun hlt => h (identityLess_iff.2 hlt)
      rw [if_neg h, if_pos]
      exact not_lt.1 hle

theorem sortIndex_eq (queue : List SlotIndex) :
    s.sortIndex queue =
      (queue.reverse.insertionSort fun i j => (s.records j).key ≤ (s.records i).key).reverse := by
  have h : ∀ l : List SlotIndex, l.foldr (fun value sorted => s.insertBack value sorted) [] =
      l.insertionSort fun i j => (s.records j).key ≤ (s.records i).key := by
    intro l
    induction l with
    | nil => rfl
    | cons a l ih =>
      rw [List.foldr_cons, ih, insertBack_eq_orderedInsert, List.insertionSort_cons]
  unfold Store.sortIndex
  rw [← h, List.foldr_reverse]

theorem mem_sortIndex {queue : List SlotIndex} {i : SlotIndex} : i ∈ s.sortIndex queue ↔ i ∈ queue := by
  simp [sortIndex_eq]

theorem pairwise_sortIndex (queue : List SlotIndex) :
    (s.sortIndex queue).Pairwise fun i j => (s.records i).key ≤ (s.records j).key := by
  rw [sortIndex_eq, List.pairwise_reverse]
  have : Std.Total fun i j => (s.records j).key ≤ (s.records i).key := ⟨fun i j => le_total _ _⟩
  have : IsTrans SlotIndex fun i j => (s.records j).key ≤ (s.records i).key :=
    ⟨fun _ _ _ hij hjk => le_trans hjk hij⟩
  exact List.pairwise_insertionSort _ _

theorem nodup_sortIndex {queue : List SlotIndex} (h : queue.Nodup) : (s.sortIndex queue).Nodup := by
  rw [sortIndex_eq, List.nodup_reverse]
  exact (List.perm_insertionSort _ _).nodup_iff.2 (List.nodup_reverse.2 h)

/-! ### The index -/

theorem rebuildIndex_of_distinct (hp : ∀ i, (s.slots i).present = true) (hd : Distinct s.records) :
    ∃ queue, s.rebuildIndex = ({ s with queue }, true) ∧ Indexed { s with queue } := by
  have hscan := scanIndex_of_no_repeat (s := s) (l := List.finRange 8) [] fun slot _ ho => by
    by_contra hr
    obtain ⟨other, hlt, hother, hkey⟩ := (repeats_iff hp slot).1 (by simpa using hr)
    exact absurd (hd other slot hother ((owns_iff hp slot).1 ho) hkey) hlt.ne
  refine ⟨s.sortIndex (s.scanIndex (List.finRange 8) []).1, ?_, ?_, ?_⟩
  · simp [Store.rebuildIndex, hscan]
  · intro i
    change i ∈ s.sortIndex _ ↔ (s.records i).state = .queued
    simp only [mem_sortIndex, hscan, List.nil_append, List.mem_filter, List.mem_finRange, true_and,
      Bool.and_eq_true, owns_iff hp, decide_eq_true_eq]
    constructor
    · exact fun h => h.2
    · intro h
      exact ⟨by rw [NodeRecord.Owned, h]; decide, h⟩
  · have hle := pairwise_sortIndex (s := s) (s.scanIndex (List.finRange 8) []).1
    have hnd : (s.sortIndex (s.scanIndex (List.finRange 8) []).1).Nodup := by
      refine nodup_sortIndex ?_
      simp only [hscan, List.nil_append]
      exact (List.nodup_finRange 8).filter _
    -- keys of distinct QUEUED slots differ, so the order is strict
    refine (hle.and hnd).imp_of_mem ?_
    intro i j hi hj hij
    rw [mem_sortIndex, hscan] at hi hj
    simp only [List.nil_append, List.mem_filter, Bool.and_eq_true, owns_iff hp] at hi hj
    exact lt_of_le_of_ne hij.1 fun he => hij.2 (hd i j hi.2.1 hj.2.1 he)

theorem distinct_of_rebuildIndex (hp : ∀ i, (s.slots i).present = true)
    (h : s.rebuildIndex.2 = true) : Distinct s.records := by
  have hscan : (s.scanIndex (List.finRange 8) []).2 = true := by
    by_contra hc
    simp [Store.rebuildIndex, hc] at h
  have hno := no_repeat_of_scanIndex hscan
  have hlt : ∀ i j, i < j → (s.records i).Owned → (s.records j).Owned →
      (s.records i).key ≠ (s.records j).key := by
    intro i j hij hi hj hkey
    have hr := hno j (List.mem_finRange j) ((owns_iff hp j).2 hj)
    have := (repeats_iff hp j).2 ⟨i, hij, hi, hkey⟩
    rw [hr] at this
    cases this
  intro i j hi hj hkey
  rcases lt_trichotomy i j with hij | hij | hij
  · exact absurd hkey (hlt i j hij hi hj)
  · exact hij
  · exact absurd hkey.symm (hlt j i hij hj hi)

/-- The first entry of the index carries the least identity. -/
theorem Indexed.head_le (h : Indexed s) {i : SlotIndex} (hi : s.queuedAt 0 = some i) :
    (s.records i).state = .queued ∧
      ∀ j, (s.records j).state = .queued → (s.records i).key ≤ (s.records j).key := by
  unfold Store.queuedAt at hi
  cases hq : s.queue with
  | nil => simp [hq] at hi
  | cons a rest =>
    have ha : a = i := by simpa [hq] using hi
    subst ha
    refine ⟨(h.mem a).1 (by simp [hq]), fun j hj => ?_⟩
    have hmem := (h.mem j).2 hj
    have hs := h.sorted
    rw [hq] at hmem hs
    rcases List.mem_cons.1 hmem with rfl | hmem
    · exact le_rfl
    · exact (List.rel_of_pairwise_cons hs hmem).le

end Redline.Node
