import Redline.Node.Aging
import Redline.Node.Evidence

/-!
# The store over any storage

The operations of the store when the storage may answer anything.  `Shaped s v` is what the RAM alone says of a store in
service: the records of the view, and the index over them.  An operation that reports success has done what it is for; one
that the storage fails takes the store out of service (`Alters`).  The same holds of a round of the policy
(`ends_service`), which ends with a full round or reports that it did not.
-/

namespace Redline.Node

open Redline.Wire Redline.Records Redline.Lib

/-- A store in service, as its RAM has it. -/
structure Shaped (s : Store) (v : View) : Prop where
  healthy : s.healthy = true
  present : ∀ i, (s.slots i).present = true
  valid : ∀ i, validateNodeRecord (v.records i) = .ok ()
  indexed : Indexed s
  ok : v.Ok
  records : s.records = v.records

theorem Sound.shaped {s : Store} {img : Image} {v : View} (h : Sound s img v) : Shaped s v :=
  ⟨h.healthy, fun i => (h.mirrors.slots i).1, h.valid, h.indexed, h.ok, h.records⟩

section Mutations

variable {s : Store} {v : View}

theorem Shaped.recordAt (h : Shaped s v) (i : SlotIndex) : s.recordAt i = some (v.records i) := by
  rw [Store.recordAt, dif_pos i.isLt, if_pos (h.present i), ← h.records]
  rfl

theorem Shaped.record (h : Shaped s v) (i : SlotIndex) : (s.slots i).record = v.records i := congrFun h.records i

theorem Shaped.queuedRecord (h : Shaped s v) (i : SlotIndex) :
    Policy.queuedRecord? s i = if (v.records i).state = .queued then some (v.records i) else none := by
  unfold Policy.queuedRecord?
  rw [h.recordAt, Option.filter_some]
  simp

/-- The outcomes of a mutation: nothing has changed, the new view is in force, or the store is out of service. -/
inductive Alters (s : Store) (v : View) (slot : ℕ) (guard : NodeRecord → Prop) (f : NodeRecord → NodeRecord)
    (done : Prop) (s' : Store) : Prop
  | refused (hdone : ¬ done) (hsame : s' = s) (hguard : ∀ h : slot < 8, ¬ guard (v.records ⟨slot, h⟩))
  | altered (hdone : done) (h : slot < 8) (hguard : guard (v.records ⟨slot, h⟩))
      (hshaped : Shaped s' (v.put ⟨slot, h⟩ (f (v.records ⟨slot, h⟩)))) (halloc : s'.allocator = s.allocator)
  | lost (hdone : ¬ done) (hhealthy : s'.healthy = false)

theorem ends_commitMutation (s : Store) (slot : SlotIndex) (record : NodeRecord) :
    (s.commitMutation slot record).Ends fun _ outcome =>
      outcome = (s.setSlot slot ⟨true, record, s.targetOf slot⟩, true) ∨
        outcome.2 = false ∧ outcome.1.healthy = false := by
  refine (s.commitMutation_ends slot record).mono fun log outcome h => ?_
  rcases h with ⟨heq, -⟩ | ⟨hfalse, -, hhealthy, -⟩
  · exact .inl heq
  · exact .inr ⟨hfalse, hhealthy⟩

theorem present_setSlot (h : Shaped s v) (slot : SlotIndex) (record : NodeRecord) (i : SlotIndex) :
    ((s.setSlot slot ⟨true, record, s.targetOf slot⟩).slots i).present = true := by
  unfold Store.setSlot
  by_cases hi : i = slot
  · subst hi
    simp
  · simp [hi, h.present i]

theorem Shaped.valid_put (h : Shaped s v) {slot : SlotIndex} {r : NodeRecord} (hr : validateNodeRecord r = .ok ())
    (i : SlotIndex) : validateNodeRecord ((v.put slot r).records i) = .ok () := by
  by_cases hi : i = slot
  · subst hi
    rw [View.put_apply]
    exact hr
  · rw [View.put_apply_ne _ hi]
    exact h.valid i

/-- A commit and the new index. -/
theorem ends_commitIndexed (h : Shaped s v) (slot : SlotIndex) (guard : NodeRecord → Prop)
    (f : NodeRecord → NodeRecord) (hg : guard (v.records slot)) (he : Evolves (v.records slot) (f (v.records slot))) :
    (s.commitIndexed slot (f (v.records slot))).Ends fun _ r => Alters s v slot guard f (r.2 = .ok) r.1 := by
  unfold Store.commitIndexed
  refine (ends_commitMutation s slot _).bind fun log outcome hcommit => ?_
  rcases hcommit with rfl | ⟨hfalse, hhealthy⟩
  swap
  · simp only [hfalse, Bool.not_false, if_true]
    exact .lost (by simp) hhealthy
  set s1 := s.setSlot slot ⟨true, f (v.records slot), s.targetOf slot⟩ with hs1
  have hrecords : s1.records = (v.put slot (f (v.records slot))).records := by
    rw [hs1, Store.records_setSlot, View.put_records, h.records]
  have hpresent := present_setSlot h slot (f (v.records slot))
  obtain ⟨queue, hindex, hindexed⟩ := rebuildIndex_of_distinct (s := s1) hpresent
    (by rw [hrecords]; exact (h.ok.put he).distinct)
  simp only [Bool.not_true, Bool.false_eq_true, if_false, hindex]
  exact .altered rfl slot.isLt hg ⟨h.healthy, hpresent, h.valid_put (he.valid (h.valid slot)), hindexed, h.ok.put he, hrecords⟩ rfl

/-- A commit that leaves the index as it is. -/
theorem Shaped.same_index (h : Shaped s v) {slot : SlotIndex} {r : NodeRecord} (he : Evolves (v.records slot) r)
    (hstate : r.state = (v.records slot).state) :
    Shaped (s.setSlot slot ⟨true, r, s.targetOf slot⟩) (v.put slot r) := by
  have hrecords : (s.setSlot slot ⟨true, r, s.targetOf slot⟩).records = (v.put slot r).records := by
    rw [Store.records_setSlot, View.put_records, h.records]
  have howned : r.Owned := by
    rw [NodeRecord.Owned, hstate]
    exact he.owned
  have hsame : ∀ i, ((s.setSlot slot ⟨true, r, s.targetOf slot⟩).records i).state = (s.records i).state ∧
      ((s.setSlot slot ⟨true, r, s.targetOf slot⟩).records i).key = (s.records i).key := by
    intro i
    rw [hrecords, h.records]
    by_cases hi : i = slot
    · subst hi
      rw [View.put_apply]
      exact ⟨hstate, he.key howned⟩
    · rw [View.put_apply_ne _ hi]
      exact ⟨rfl, rfl⟩
  refine ⟨h.healthy, present_setSlot h slot r, h.valid_put (he.valid (h.valid slot)), ⟨fun i => ?_, ?_⟩, h.ok.put he, hrecords⟩
  · rw [(hsame i).1]
    exact h.indexed.mem i
  · refine h.indexed.sorted.imp ?_
    intro i j hij
    rwa [(hsame i).2, (hsame j).2]

theorem ends_transition (h : Shaped s v) {slot : ℕ} {target : NodeState}
    (he : ∀ r : NodeRecord, r.state = .queued → Evolves r { r with generation := r.generation + 1, state := target }) :
    (s.transition slot .queued target).Ends fun _ r => Alters s v slot (fun r => r.state = .queued)
      (fun r => { r with generation := r.generation + 1, state := target }) (r.2 = .ok) r.1 := by
  unfold Store.transition
  simp only [h.healthy, Bool.not_true, Bool.false_eq_true, if_false]
  split
  · rename_i hs
    rw [h.record ⟨slot, hs⟩]
    split
    · rename_i hne
      exact .refused (by simp) rfl fun _ => hne
    · rename_i hq
      have hq := not_not.1 hq
      exact ends_commitIndexed h ⟨slot, hs⟩ (fun r => r.state = .queued)
        (fun r => { r with generation := r.generation + 1, state := target }) hq (he _ hq)
  · rename_i hs
    exact .refused (by simp) rfl fun h => absurd h hs

theorem ends_markFailed (h : Shaped s v) (slot : ℕ) :
    (s.markFailed slot).Ends fun _ r =>
      Alters s v slot (fun r => r.state = .queued) NodeRecord.fail (r.2 = .ok) r.1 :=
  ends_transition h fun _ hq => .failed hq

theorem ends_markExpired (h : Shaped s v) (slot : ℕ) :
    (s.markExpired slot).Ends fun _ r =>
      Alters s v slot (fun r => r.state = .queued) NodeRecord.expire (r.2 = .ok) r.1 :=
  ends_transition h fun _ hq => .expired hq

theorem ends_reclaim (h : Shaped s v) (slot : ℕ) :
    (s.reclaim slot).Ends fun _ r => Alters s v slot Terminal NodeRecord.freed (r.2 = .ok) r.1 := by
  unfold Store.reclaim Store.makeFree
  simp only [h.healthy, Bool.not_true, Bool.false_eq_true, if_false]
  split
  · rename_i hs
    rw [h.record ⟨slot, hs⟩]
    split
    · rename_i hne
      exact .refused (by simp) rfl fun _ ht => ht.elim hne.1 hne.2
    · rename_i ht
      have ht : Terminal (v.records ⟨slot, hs⟩) := by
        by_contra hc
        exact ht ⟨fun e => hc (Or.inl e), fun e => hc (Or.inr e)⟩
      exact ends_commitIndexed h ⟨slot, hs⟩ _ NodeRecord.freed ht (.freed ht.owned)
  · rename_i hs
    exact .refused (by simp) rfl fun h => absurd h hs

theorem ends_releaseQueued (h : Shaped s v) (slot : ℕ) :
    (s.releaseQueued slot).Ends fun _ r =>
      Alters s v slot (fun r => r.state = .queued) NodeRecord.freed (r.2 = .ok) r.1 := by
  unfold Store.releaseQueued Store.makeFree
  simp only [h.healthy, Bool.not_true, Bool.false_eq_true, if_false]
  split
  · rename_i hs
    rw [h.record ⟨slot, hs⟩]
    split
    · rename_i hne
      exact .refused (by simp) rfl fun _ => hne
    · rename_i hq
      have hq := not_not.1 hq
      exact ends_commitIndexed h ⟨slot, hs⟩ (fun r => r.state = .queued) NodeRecord.freed hq
        (.freed (owned_of_queued hq))
  · rename_i hs
    exact .refused (by simp) rfl fun h => absurd h hs

/-- A commit without a new index, whose guard is met. -/
theorem ends_commitKept {α : Type} {slot : SlotIndex} {guard : NodeRecord → Prop} {f : NodeRecord → NodeRecord}
    {done failed : α} (h : Shaped s v) (hne : failed ≠ done) (hg : guard (v.records slot))
    (he : Evolves (v.records slot) (f (v.records slot))) (hstate : (f (v.records slot)).state = (v.records slot).state) :
    (do
      let (s, committed) ← s.commitMutation slot (f (v.records slot))
      if !committed then return (s, failed)
      return (s, done) : StorageM (Store × α)).Ends fun _ r => Alters s v slot guard f (r.2 = done) r.1 := by
  refine (ends_commitMutation s slot _).bind fun log outcome hcommit => ?_
  rcases hcommit with rfl | ⟨hfalse, hhealthy⟩
  · exact .altered rfl slot.isLt hg (h.same_index he hstate) rfl
  · simp only [hfalse, Bool.not_false, if_true]
    exact .lost hne hhealthy

theorem ends_checkpointRemaining (h : Shaped s v) (slot : ℕ) (seconds : UInt32) :
    (s.checkpointRemaining slot seconds).Ends fun _ r =>
      Alters s v slot (Checkpointable seconds) (NodeRecord.checkpoint seconds) (r.2 = .ok) r.1 := by
  unfold Store.checkpointRemaining
  simp only [h.healthy, Bool.not_true, Bool.false_eq_true, if_false]
  split
  · rename_i hs
    rw [h.record ⟨slot, hs⟩]
    split
    · rename_i hne
      refine .refused (by simp) rfl fun _ hc => ?_
      rcases hne with hne | hne | hne
      · exact hne hc.1
      · exact hc.2.1 hne
      · exact UInt32.not_le.2 hc.2.2 hne
    · rename_i hc
      rw [not_or, not_or, not_not] at hc
      have hc : Checkpointable seconds (v.records ⟨slot, hs⟩) := ⟨hc.1, hc.2.1, UInt32.not_le.1 hc.2.2⟩
      exact ends_commitKept (f := NodeRecord.checkpoint seconds) h (by simp) hc (.checkpoint hc.1 seconds hc.2.1 hc.2.2) rfl
  · rename_i hs
    exact .refused (by simp) rfl fun h => absurd h hs

theorem ends_armAttempt (h : Shaped s v) (slot : ℕ) :
    (s.armAttempt slot).Ends fun _ r => Alters s v slot Armable NodeRecord.arm (r.2 = .armed) r.1 := by
  unfold Store.armAttempt
  simp only [h.healthy, Bool.not_true, Bool.false_eq_true, if_false]
  split
  · rename_i hs
    rw [h.record ⟨slot, hs⟩]
    split
    · rename_i hne
      exact .refused (by simp) rfl fun _ hc => hne hc.1
    · rename_i hq
      split
      · rename_i hge
        exact .refused (by simp) rfl fun _ hc => UInt8.not_le.2 hc.2 hge
      · rename_i hlt
        have hc : Armable (v.records ⟨slot, hs⟩) := ⟨not_not.1 hq, UInt8.not_le.1 hlt⟩
        exact ends_commitKept (f := NodeRecord.arm) h (by simp) hc (.armed hc.1 hc.2) rfl
  · rename_i hs
    exact .refused (by simp) rfl fun h => absurd h hs

end Mutations

/-! ### Creation -/

section Creation

variable {a : Allocator} {s : Store} {v : View}

theorem ends_commitMetadata (a : Allocator) (next : NodeMetadata) :
    (a.commitMetadata next).Ends fun _ r => r.2 = .ready →
      r.1.metadata = next ∧ r.1.ready = true ∧ r.1.sourceDeviceId = a.sourceDeviceId := by
  unfold Allocator.commitMetadata
  split
  · exact fun h => by cases h
  rename_i encoded hencode
  unfold writeBlob commitStorage readBlob
  refine Prog.ends_ask _ fun written => ?_
  split
  · exact fun h => by cases h
  split
  · exact fun h => by cases h
  refine Prog.ends_ask _ fun committed => ?_
  split
  · exact fun h => by cases h
  split
  · exact fun h => by cases h
  refine Prog.ends_ask _ fun readBack => ?_
  split
  · exact fun h => by cases h
  split
  · exact fun h => by cases h
  split
  · exact fun h => by cases h
  split
  · exact fun h => by cases h
  rename_i verified hverified
  split
  · exact fun h => by cases h
  rename_i hbytes
  rw [not_not] at hbytes
  rw [← hbytes, decodeNodeMetadata_encode hencode] at hverified
  cases hverified
  exact fun _ => ⟨rfl, rfl, rfl⟩

/-- An allocator that can go on: its cursor, in an epoch that is not zero. -/
structure Reserving (a : Allocator) : Prop where
  cursor : Cursor a
  epoch : a.metadata.eventEpoch ≠ 0

theorem ends_allocate (h : Reserving a) :
    a.allocate.Ends fun _ r => r.2.status = .ready → Granted a r.1 r.2.identity ∧ Reserving r.1 := by
  obtain ⟨hc, hepoch⟩ := h
  unfold Allocator.allocate
  simp only [hc.ready, Bool.not_true, Bool.false_eq_true, if_false]
  by_cases hend : a.nextVolatileId = a.volatileEndExclusive
  swap
  · rw [if_neg hend]
    have hgranted := Granted.take hc hepoch hend
    exact fun _ => ⟨hgranted, hgranted.cursor, hepoch⟩
  rw [if_pos hend]
  unfold Allocator.reserveBlock
  split
  · rename_i hlast
    split
    · exact fun hready => by cases hready
    rename_i hexh
    rw [Prog.bind_assoc']
    refine (ends_commitMetadata a _).bind fun log outcome hcommit => ?_
    obtain ⟨a', status⟩ := outcome
    dsimp only
    split
    · rename_i hfailed
      simp only [Prog.pure_bind', if_pos hfailed]
      exact fun hready => absurd hready hfailed
    · rename_i hready
      rw [not_not] at hready
      obtain ⟨hmeta, hok, hsource⟩ := hcommit hready
      simp only [Prog.pure_bind', ne_eq, not_true_eq_false, if_false]
      intro _
      have hid : (⟨a'.sourceDeviceId, a'.metadata.eventEpoch, 1⟩ : Identity) =
          ⟨a.sourceDeviceId, a.metadata.eventEpoch + 1, 1⟩ := by rw [hsource, hmeta]
      have hgranted : Granted a { a' with nextVolatileId := 1 + 1, volatileEndExclusive := 1 + reservationBlockSize }
          ⟨a'.sourceDeviceId, a'.metadata.eventEpoch, 1⟩ := by
        rw [hid]
        exact .epoch hc hend hlast hexh hok hmeta rfl rfl hsource
      exact ⟨hgranted, hgranted.cursor, hgranted.nonzero.1⟩
  · rename_i hlast
    rw [Prog.bind_assoc']
    refine (ends_commitMetadata a _).bind fun log outcome hcommit => ?_
    obtain ⟨a', status⟩ := outcome
    dsimp only
    split
    · rename_i hfailed
      simp only [Prog.pure_bind', if_pos hfailed]
      exact fun hready => absurd hready hfailed
    · rename_i hready
      rw [not_not] at hready
      obtain ⟨hmeta, hok, hsource⟩ := hcommit hready
      simp only [Prog.pure_bind', ne_eq, not_true_eq_false, if_false]
      intro _
      have hid : (⟨a'.sourceDeviceId, a'.metadata.eventEpoch, a.metadata.nextUnreservedEventId⟩ : Identity) =
          ⟨a.sourceDeviceId, a.metadata.eventEpoch, a.metadata.nextUnreservedEventId⟩ := by rw [hsource, hmeta]
      have hgranted : Granted a
          { a' with
            nextVolatileId := a.metadata.nextUnreservedEventId + 1
            volatileEndExclusive := a.metadata.nextUnreservedEventId + reservationBlockSize }
          ⟨a'.sourceDeviceId, a'.metadata.eventEpoch, a.metadata.nextUnreservedEventId⟩ := by
        rw [hid]
        exact .block hc hepoch hend hlast hok hmeta rfl rfl hsource
      exact ⟨hgranted, hgranted.cursor, hgranted.nonzero.1⟩

/-- A store in service that can create. -/
structure Serving (s : Store) (v : View) : Prop extends Shaped s v where
  reserving : Reserving s.allocator
  floor : v.floor ≤ s.allocator.floor

/-- **An enqueue** reports nothing created, or an Event above the floor in a slot that was free. -/
theorem ends_enqueue (h : Serving s v) (input : EventInput) :
    (s.enqueue input).Ends fun _ r =>
      (r.2.slot = none ∧ (r.1 = s ∨ r.1.healthy = false)) ∨
      ∃ slot identity, r.2.slot = some slot ∧ (v.records slot).state = .free ∧
        v.floor ≤ key identity.epoch identity.id ∧ Serving r.1 (v.created slot identity input) := by
  unfold Store.enqueue
  simp only [h.healthy, Bool.not_true, Bool.false_eq_true, if_false]
  by_cases hvalid : Store.validInput input = true
  swap
  · rw [if_pos (by simpa using hvalid)]
    exact .inl ⟨rfl, .inl rfl⟩
  rw [if_neg (by simpa using hvalid)]
  cases hfree : s.firstFree with
  | none => exact .inl ⟨rfl, .inl rfl⟩
  | some slot =>
    refine (ends_allocate h.reserving).bind fun log outcome hallocated => ?_
    obtain ⟨a', status, identity⟩ := outcome
    dsimp only
    split
    · exact .inl ⟨rfl, .inr rfl⟩
    rename_i hready
    rw [not_not] at hready
    obtain ⟨hgranted, hreserving⟩ := hallocated hready
    set s1 : Store := { s with allocator := a', healthy := true } with hs1
    have hfloor : v.floor ≤ key identity.epoch identity.id := h.floor.trans hgranted.le
    have hstate : (v.records slot).state = .free := by
      rw [← h.records]
      exact firstFree_state hfree
    have hslot : (s1.slots slot).record = v.records slot := h.record slot
    rw [hslot]
    set record := Store.queuedRecord ((v.records slot).generation + 1) identity input with hrecord
    refine (ends_commitMutation s1 slot record).bind fun log outcome hcommit => ?_
    rcases hcommit with rfl | ⟨hfalse, hhealthy⟩
    swap
    · simp only [hfalse, Bool.not_false, if_true]
      exact .inl ⟨rfl, .inr hhealthy⟩
    have hok : (v.created slot identity input).Ok := h.ok.create hfloor
    set s2 := s1.setSlot slot ⟨true, record, s1.targetOf slot⟩ with hs2
    have hrecords : s2.records = (v.created slot identity input).records := by
      rw [hs2, Store.records_setSlot, show s1.records = v.records from h.records]
      rfl
    have hpresent : ∀ i, (s2.slots i).present = true := present_setSlot h.toShaped slot record
    obtain ⟨queue, hindex, hindexed⟩ := rebuildIndex_of_distinct (s := s2) hpresent
      (by rw [hrecords]; exact hok.distinct)
    have hall : ∀ i, validateNodeRecord ((v.created slot identity input).records i) = .ok () :=
      h.valid_put (queuedRecord_valid hvalid hgranted.nonzero _)
    simp only [Bool.not_true, Bool.false_eq_true, if_false, hindex]
    refine .inr ⟨slot, identity, rfl, hstate, hfloor, ⟨rfl, hpresent, hall, hindexed, hok, hrecords⟩, hreserving, ?_⟩
    exact hgranted.floor.ge

end Creation

/-! ### The policy -/

section Policy

variable {s : Store} {v : View}

theorem Alters.done {slot : SlotIndex} {guard : NodeRecord → Prop} {f : NodeRecord → NodeRecord} {done : Prop}
    {s' : Store} (h : Alters s v slot guard f done s') (hdone : done) :
    guard (v.records slot) ∧ Shaped s' (v.put slot (f (v.records slot))) ∧ s'.allocator = s.allocator := by
  cases h with
  | refused hno => exact absurd hdone hno
  | altered _ _ hguard hshaped halloc => exact ⟨hguard, hshaped, halloc⟩
  | lost hno => exact absurd hdone hno

/-- **The loop of one slot.** -/
theorem ends_settle (h : Shaped s v) {slot : SlotIndex} (hq : (v.records slot).state = .queued)
    {fuel uncommitted : ℕ} (hfuel : uncommitted / checkpointMilliseconds < fuel) :
    (Policy.settle s slot fuel uncommitted).Ends fun _ r => r.2 ≠ .error .ready ∧ ∀ left, r.2 = .ok left →
      ∃ r', Settled (v.records slot) uncommitted r' left ∧ Ageing v (v.put slot r') ∧ Shaped r.1 (v.put slot r') ∧
        r.1.allocator = s.allocator := by
  induction fuel generalizing s v uncommitted with
  | zero => exact absurd hfuel (Nat.not_lt_zero _)
  | succ fuel ih =>
    unfold Policy.settle
    rw [h.queuedRecord, if_pos hq]
    dsimp only
    split
    · -- a checkpoint is due
      rename_i hdue
      obtain ⟨hgt, hge⟩ := hdue
      refine (ends_checkpointRemaining h slot _).bind fun log outcome halters => ?_
      obtain ⟨s', mutation⟩ := outcome
      dsimp only at halters ⊢
      split
      · exact ⟨by simp, fun left hleft => by cases hleft⟩
      rename_i hdone
      obtain ⟨hc, hshaped, halloc⟩ := halters.done (not_not.1 hdone)
      have hev := Ageing.put (.refl : Ageing v v) (.checkpoint hc.1 _ hc.2.1 hc.2.2) (owned_of_queued hq)
      have hpos : 0 < checkpointMilliseconds := by decide
      rw [Nat.div_eq_sub_div hpos hge] at hfuel
      refine (ih hshaped ?_ (Nat.lt_of_succ_lt_succ hfuel)).mono fun log' r hr => ⟨hr.1, fun left hleft => ?_⟩
      · rw [View.put_apply]
        exact hq
      obtain ⟨r', hset, hev', hshaped', halloc'⟩ := hr.2 left hleft
      rw [View.put_put] at hev' hshaped'
      rw [View.put_apply] at hset
      exact ⟨r', Settled.checkpoint hgt hge hset, hev.trans hev', hshaped', halloc'.trans halloc⟩
    · rename_i hdue
      split
      · -- the lifetime has run out
        rename_i hover
        refine (ends_markExpired h slot).bind fun log outcome halters => ?_
        obtain ⟨s', mutation⟩ := outcome
        dsimp only at halters ⊢
        split
        · exact ⟨by simp, fun left hleft => by cases hleft⟩
        rename_i hdone
        obtain ⟨-, hshaped, halloc⟩ := halters.done (not_not.1 hdone)
        refine ⟨by simp, fun left hleft => ?_⟩
        cases hleft
        exact ⟨_, .expire hover, Ageing.put .refl (.expired hq) NodeState.noConfusion, hshaped, halloc⟩
      · rename_i hover
        refine ⟨by simp, fun left hleft => ?_⟩
        cases hleft
        have hover : uncommitted < NodeRecord.remainingMilliseconds (v.records slot) := Nat.lt_of_not_le hover
        refine ⟨v.records slot, .keep hq hdue hover, ?_, ?_, rfl⟩
        · rw [View.put_self]
        · rw [View.put_self]
          exact h

theorem ends_serviceSlot (h : Shaped s v) (p : Policy) (slot : SlotIndex) (now : UInt32) :
    (p.serviceSlot s slot now).Ends fun _ r => r.2.2 = .ready → ∃ rt' r',
      Serviced now (p.runtime slot) (v.records slot) rt' r' ∧ Ageing v (v.put slot r') ∧ Shaped r.1 (v.put slot r') ∧
        r.1.allocator = s.allocator ∧ r.2.1 = p.setRuntime slot rt' := by
  unfold Policy.serviceSlot
  dsimp only
  have hsame : Ageing v (v.put slot (v.records slot)) ∧ Shaped s (v.put slot (v.records slot)) := by
    rw [View.put_self]
    exact ⟨.refl, h⟩
  rw [h.queuedRecord]
  by_cases hq : (v.records slot).state = .queued
  swap
  · simp only [if_neg hq, Option.isNone_none, if_true]
    exact fun _ => ⟨_, _, .idle hq, hsame.1, hsame.2, rfl, rfl⟩
  simp only [if_pos hq, Option.isNone_some, Bool.false_eq_true, if_false]
  cases ht : (p.runtime slot).tracked with
  | false =>
    simp only [Bool.not_false, if_true]
    exact fun _ => ⟨_, _, .untracked hq ht, hsame.1, hsame.2, rfl, rfl⟩
  | true =>
    simp only [Bool.not_true, Bool.false_eq_true, if_false]
    refine (ends_settle h hq (Nat.lt_succ_self _)).bind fun log outcome hsettled => ?_
    obtain ⟨s', settled⟩ := outcome
    cases settled with
    | error status => exact fun hready => absurd (congrArg Except.error hready) hsettled.1
    | ok left =>
      obtain ⟨r', hset, hev, hshaped, halloc⟩ := hsettled.2 left rfl
      cases left with
      | none => exact fun _ => ⟨_, r', .expired hq ht hset, hev, hshaped, halloc, rfl⟩
      | some u => exact fun _ => ⟨_, r', .kept hq ht hset, hev, hshaped, halloc, rfl⟩

theorem ends_serviceSlots (h : Shaped s v) (p : Policy) {slots : List SlotIndex} (hnodup : slots.Nodup)
    (now : UInt32) :
    (p.serviceSlots s now slots).Ends fun _ r => r.2.2 = .ready →
      ∃ v', Round now slots p v r.2.1 v' ∧ Shaped r.1 v' ∧ r.1.allocator = s.allocator := by
  induction slots generalizing s v p with
  | nil =>
    unfold Policy.serviceSlots
    exact fun _ => ⟨v, ⟨by simp, fun _ _ => ⟨rfl, rfl⟩, rfl, .refl⟩, h, rfl⟩
  | cons slot rest ih =>
    obtain ⟨hslot, hrest⟩ := List.nodup_cons.1 hnodup
    unfold Policy.serviceSlots
    refine (ends_serviceSlot h p slot now).bind fun log outcome hserviced => ?_
    obtain ⟨s', p', status⟩ := outcome
    dsimp only at hserviced ⊢
    split
    · rename_i hfailed
      exact fun hready => absurd hready hfailed
    rename_i hready
    obtain ⟨rt', r', hser, hev, hshaped, halloc, rfl⟩ := hserviced (not_not.1 hready)
    refine (ih hshaped _ hrest).mono fun log' r hr hok => ?_
    obtain ⟨v', hround, hshaped', halloc'⟩ := hr hok
    exact ⟨v', hround.cons hslot hser hev, hshaped', halloc'.trans halloc⟩

/-- **A round of the policy** that reports success has serviced every slot. -/
theorem ends_service (h : Shaped s v) {p : Policy} (hp : p.ready = true) (now : UInt32) :
    (p.service s now).Ends fun _ r => r.2.2 = .ready →
      ∃ v', FullRound now p v r.2.1 v' ∧ Shaped r.1 v' ∧ r.1.allocator = s.allocator := by
  unfold Policy.service
  simp only [hp, h.healthy, Bool.not_true, Bool.or_self, Bool.false_eq_true, if_false]
  refine (ends_serviceSlots h p (List.nodup_finRange 8) now).mono fun log r hr hready => ?_
  obtain ⟨v', hround, hshaped, halloc⟩ := hr hready
  exact ⟨v', ⟨fun i => hround.serviced i (List.mem_finRange i), hround.ready.trans hp, hround.ageing⟩, hshaped, halloc⟩

/-- A slot that is tracked before a round, and QUEUED after it, has lifetime left. -/
theorem FullRound.alive {now : UInt32} {p p' : Policy} {v' : View} (h : FullRound now p v p' v') {slot : SlotIndex}
    (htracked : (p.runtime slot).tracked = true) (hq : (v'.records slot).state = .queued) :
    (p'.runtime slot).tracked = true ∧
      (p'.runtime slot).uncommittedMilliseconds < NodeRecord.remainingMilliseconds (v'.records slot) := by
  have hserviced := h.serviced slot
  generalize p'.runtime slot = rt', v'.records slot = r' at hserviced hq ⊢
  cases hserviced with
  | idle hnot => exact absurd hq hnot
  | untracked _ ht =>
    rw [htracked] at ht
    cases ht
  | expired _ _ hs =>
    rw [(hs.expired rfl).1] at hq
    cases hq
  | kept _ _ hs => exact ⟨rfl, (hs.kept _ rfl).2.2.2.2⟩

/-- After a round every QUEUED slot is tracked. -/
theorem FullRound.tracked {now : UInt32} {p p' : Policy} {v' : View} (h : FullRound now p v p' v') {slot : SlotIndex}
    (hq : (v'.records slot).state = .queued) : (p'.runtime slot).tracked = true := by
  have hserviced := h.serviced slot
  generalize p'.runtime slot = rt', v'.records slot = r' at hserviced hq ⊢
  cases hserviced with
  | idle hnot => exact absurd hq hnot
  | untracked => rfl
  | expired _ _ hs =>
    rw [(hs.expired rfl).1] at hq
    cases hq
  | kept => rfl

/-- What `Policy.armAttempt` has done: the record is armed, expired, or has no attempts left. -/
def Attempts (now : UInt32) (p : Policy) (v : View) (slot : SlotIndex) (r : Store × Policy × AttemptResult)
    (allocator : Allocator) : Prop :=
  ∃ v1, FullRound now p v r.2.1 v1 ∧ r.1.allocator = allocator ∧
    ((r.2.2 = .armed ∧ Armable (v1.records slot) ∧ Shaped r.1 (v1.put slot (NodeRecord.arm (v1.records slot)))) ∨
      (r.2.2 = .expired ∧ (v1.records slot).state = .expired ∧ Shaped r.1 v1) ∨
      (r.2.2 = .exhausted ∧ (v1.records slot).state = .queued ∧ Shaped r.1 v1))

theorem ends_policyArmAttempt (h : Shaped s v) {p : Policy} (hp : p.ready = true) {slot : SlotIndex} (now : UInt32)
    (htracked : (v.records slot).state = .queued → (p.runtime slot).tracked = true) :
    (p.armAttempt s slot now).Ends fun _ r =>
      r.2.2 = .armed ∨ r.2.2 = .expired ∨ r.2.2 = .exhausted →
        r.1.healthy = false ∨ Attempts now p v slot r s.allocator := by
  unfold Policy.armAttempt
  simp only [hp, Bool.not_true, Bool.false_eq_true, if_false]
  refine (ends_service h hp now).bind fun log outcome hserviced => ?_
  obtain ⟨s1, p1, status⟩ := outcome
  dsimp only at hserviced ⊢
  split
  · exact fun hr => by simp at hr
  rename_i hready
  obtain ⟨v1, hround, hshaped, halloc⟩ := hserviced (not_not.1 hready)
  rw [if_neg (not_not.2 slot.isLt), hshaped.recordAt]
  dsimp only
  split
  · rename_i hexpired
    exact fun _ => .inr ⟨v1, hround, halloc, .inr (.inl ⟨rfl, hexpired, hshaped⟩)⟩
  split
  · exact fun hr => by simp at hr
  rename_i hq
  rw [not_not] at hq
  have hold : (v.records slot).state = .queued := (hround.ageing.evolving.inherits slot (owned_of_queued hq)).queued hq
  have halive := hround.alive (htracked hold) hq
  have heligible : p1.eligible s1 slot = true := by
    have hlt : (p1.runtime slot).uncommittedMilliseconds < (v1.records slot).remainingActiveSeconds.toNat * 1000 :=
      halive.2
    simp [Policy.eligible, hround.ready, hshaped.healthy, halive.1, hshaped.queuedRecord, hq, hlt]
  rw [if_neg (by simp [heligible])]
  refine (ends_armAttempt hshaped slot).bind fun log outcome halters => ?_
  obtain ⟨s2, attempt⟩ := outcome
  dsimp only at halters ⊢
  cases attempt with
  | armed =>
    obtain ⟨hguard, hshaped2, halloc2⟩ := halters.done rfl
    exact fun _ => .inr ⟨v1, hround, halloc2.trans halloc, .inl ⟨rfl, hguard, hshaped2⟩⟩
  | exhausted =>
    cases halters with
    | refused _ hsame =>
      subst hsame
      exact fun _ => .inr ⟨v1, hround, halloc, .inr (.inr ⟨rfl, hq, hshaped⟩)⟩
    | altered hdone => cases hdone
    | lost _ hhealthy => exact fun _ => .inl hhealthy
  | invalidSlot => exact fun hr => by simp at hr
  | notQueued => exact fun hr => by simp at hr
  | storageFailure => exact fun hr => by simp at hr
  | degraded => exact fun hr => by simp at hr

/-! ### Recovery of the policy -/

theorem ends_debitSlot (h : Shaped s v) (slot : SlotIndex) :
    (Policy.debitSlot s slot).Ends fun _ r => r.2 = .ok → ∃ v', Shaped r.1 v' ∧ r.1.allocator = s.allocator ∧
      Ageing v v' := by
  unfold Policy.debitSlot
  rw [h.queuedRecord]
  by_cases hq : (v.records slot).state = .queued
  swap
  · rw [if_neg hq]
    exact fun _ => ⟨v, h, rfl, .refl⟩
  rw [if_pos hq]
  dsimp only
  split
  · refine (ends_markExpired h slot).mono fun log r halters hok => ?_
    obtain ⟨-, hshaped, halloc⟩ := halters.done hok
    exact ⟨_, hshaped, halloc, Ageing.put .refl (.expired hq) NodeState.noConfusion⟩
  · refine (ends_checkpointRemaining h slot _).mono fun log r halters hok => ?_
    obtain ⟨hc, hshaped, halloc⟩ := halters.done hok
    exact ⟨_, hshaped, halloc, Ageing.put .refl (.checkpoint hc.1 _ hc.2.1 hc.2.2) (owned_of_queued hq)⟩

theorem ends_debitSlots (h : Shaped s v) (slots : List SlotIndex) :
    (Policy.debitSlots s slots).Ends fun _ r => r.2 = true → ∃ v', Shaped r.1 v' ∧ r.1.allocator = s.allocator ∧
      Ageing v v' := by
  induction slots generalizing s v with
  | nil => exact fun _ => ⟨v, h, rfl, .refl⟩
  | cons slot rest ih =>
    unfold Policy.debitSlots
    refine (ends_debitSlot h slot).bind fun log outcome hdebited => ?_
    obtain ⟨s', mutation⟩ := outcome
    dsimp only at hdebited ⊢
    split
    · exact fun hok => by cases hok
    rename_i hok
    obtain ⟨v', hshaped, halloc, hev⟩ := hdebited (not_not.1 hok)
    refine (ih hshaped).mono fun log' r hr hok' => ?_
    obtain ⟨v'', hshaped', halloc', hev'⟩ := hr hok'
    exact ⟨v'', hshaped', halloc'.trans halloc, hev.trans hev'⟩

theorem ends_policyRecover (h : Shaped s v) (now : UInt32) :
    (Policy.recover s now).Ends fun _ r => r.2.2 = .ready → r.2.1.ready = true ∧ ∃ v', Shaped r.1 v' ∧
      r.1.allocator = s.allocator ∧ Ageing v v' := by
  unfold Policy.recover
  simp only [h.healthy, Bool.not_true, Bool.false_eq_true, if_false]
  refine (ends_debitSlots h (List.finRange 8)).bind fun log outcome hdebited => ?_
  obtain ⟨s', debited⟩ := outcome
  dsimp only at hdebited ⊢
  split
  · exact fun hready => by cases hready
  · rename_i hok
    exact fun _ => ⟨rfl, hdebited (by simpa using hok)⟩

end Policy

end Redline.Node
