import Redline.Node.Reserve

/-!
# The operations of the Node store

The store as it is meant: a `View` has the record of every slot and a floor under the identities that
can still be created.  A slot evolves by one of five steps (`Evolves`), and an input is created in a
free slot at or above the floor.

`Sound s img v` says that the RAM `s` and the image `img` both stand for `v`; `Stored device img v`
that the image does.  Each operation keeps `Sound`, and wherever it is cut the image stands for the
view before the operation or the view after it (`ensures_markFailed`, …, `ensures_enqueue`).
-/

namespace Redline.Node

open Redline.Wire Redline.Records Redline.Lib

/-- The record of every slot, and a bound under the keys of future Events. -/
@[ext]
structure View where
  records : SlotIndex → NodeRecord
  floor : ℕ

namespace View

/-- Identities are distinct and lie below the floor. -/
structure Ok (v : View) : Prop where
  distinct : Distinct v.records
  below : ∀ i, (v.records i).Owned → (v.records i).key < v.floor

def put (v : View) (slot : SlotIndex) (r : NodeRecord) : View :=
  { v with records := Function.update v.records slot r }

def create (v : View) (slot : SlotIndex) (r : NodeRecord) : View :=
  ⟨Function.update v.records slot r, r.key + 1⟩

@[simp] theorem put_records (v : View) (slot : SlotIndex) (r : NodeRecord) :
    (v.put slot r).records = Function.update v.records slot r := rfl

@[simp] theorem put_floor (v : View) (slot : SlotIndex) (r : NodeRecord) :
    (v.put slot r).floor = v.floor := rfl

@[simp] theorem create_records (v : View) (slot : SlotIndex) (r : NodeRecord) :
    (v.create slot r).records = Function.update v.records slot r := rfl

@[simp] theorem create_floor (v : View) (slot : SlotIndex) (r : NodeRecord) :
    (v.create slot r).floor = r.key + 1 := rfl

end View

/-! ### The steps of a record -/

def NodeRecord.fail (r : NodeRecord) : NodeRecord :=
  { r with generation := r.generation + 1, state := .failed }

def NodeRecord.expire (r : NodeRecord) : NodeRecord :=
  { r with generation := r.generation + 1, state := .expired }

def NodeRecord.checkpoint (seconds : UInt32) (r : NodeRecord) : NodeRecord :=
  { r with generation := r.generation + 1, remainingActiveSeconds := seconds }

def NodeRecord.arm (r : NodeRecord) : NodeRecord :=
  { r with generation := r.generation + 1, attemptsUsed := r.attemptsUsed + 1 }

def NodeRecord.freed (r : NodeRecord) : NodeRecord := Store.freeRecord (r.generation + 1)

/-- **What can happen to an owned record.** -/
inductive Evolves (old : NodeRecord) : NodeRecord → Prop
  | failed (h : old.state = .queued) : Evolves old (NodeRecord.fail old)
  | expired (h : old.state = .queued) : Evolves old (NodeRecord.expire old)
  | checkpoint (h : old.state = .queued) (seconds : UInt32) (hpos : seconds ≠ 0)
      (hlt : seconds < old.remainingActiveSeconds) : Evolves old (NodeRecord.checkpoint seconds old)
  | armed (h : old.state = .queued) (hlt : old.attemptsUsed < maxAttempts) :
      Evolves old (NodeRecord.arm old)
  | freed (h : old.Owned) : Evolves old (NodeRecord.freed old)

theorem freeRecord_valid (g : UInt32) : validateNodeRecord (Store.freeRecord g) = .ok () := by
  rfl

theorem Evolves.owned {old new : NodeRecord} (h : Evolves old new) : old.Owned := by
  have hqueued : old.state = .queued → old.Owned := fun hq => by rw [NodeRecord.Owned, hq]; decide
  cases h with
  | freed h => exact h
  | failed h => exact hqueued h
  | expired h => exact hqueued h
  | checkpoint h => exact hqueued h
  | armed h => exact hqueued h

theorem Evolves.generation {old new : NodeRecord} (h : Evolves old new) :
    new.generation = old.generation + 1 := by
  cases h <;> rfl

/-- An owned record keeps its identity. -/
theorem Evolves.key {old new : NodeRecord} (h : Evolves old new) (hn : new.Owned) :
    new.key = old.key := by
  cases h with
  | freed _ => exact absurd rfl hn
  | _ => rfl

/-- The checks on an owned record. -/
theorem validateNodeRecord_owned {r : NodeRecord} (h : r.Owned) :
    validateNodeRecord r = .ok () ↔
      r.attemptsUsed.toNat ≤ 5 ∧ r.remainingActiveSeconds ≤ r.lifetimeBudgetSeconds ∧
        validCanonicalEvent 1 r.family r.flags r.bodyLength r.eventEpoch r.eventId
          r.lifetimeBudgetSeconds r.body = true ∧ zeroTail r.body r.bodyLength = true := by
  have hatt : r.attemptsUsed > maxAttempts ↔ ¬ r.attemptsUsed.toNat ≤ 5 := by
    rw [not_le]
    exact UInt8.lt_iff_toNat_lt
  unfold validateNodeRecord
  rw [if_neg h]
  by_cases h1 : r.attemptsUsed > maxAttempts
  · simp [h1, hatt.1 h1]
  · rw [if_neg h1]
    have h1' := not_not.1 fun hc => h1 (hatt.2 hc)
    by_cases h2 : r.remainingActiveSeconds > r.lifetimeBudgetSeconds
    · simp [h2, UInt32.not_le.2 h2]
    · rw [if_neg h2]
      have h2' := UInt32.not_lt.1 h2
      split
      · rename_i h3
        have h3 : validCanonicalEvent 1 r.family r.flags r.bodyLength r.eventEpoch r.eventId
          r.lifetimeBudgetSeconds r.body = false := by simpa using h3
        simp [h3]
      · rename_i h3
        split
        · rename_i h4
          have h4 : zeroTail r.body r.bodyLength = false := by simpa using h4
          simp [h4]
        · rename_i h4
          simp at h3 h4
          simp [h1', h2', h3, h4]

theorem Evolves.valid {old new : NodeRecord} (h : Evolves old new)
    (hv : validateNodeRecord old = .ok ()) : validateNodeRecord new = .ok () := by
  have howned := h.owned
  obtain ⟨hatt, hrem, hcanon, htail⟩ := (validateNodeRecord_owned howned).1 hv
  cases h with
  | freed _ => exact freeRecord_valid _
  | failed _ =>
    have hnew : (NodeRecord.fail old).Owned := NodeState.noConfusion
    exact (validateNodeRecord_owned hnew).2 ⟨hatt, hrem, hcanon, htail⟩
  | expired _ =>
    have hnew : (NodeRecord.expire old).Owned := NodeState.noConfusion
    exact (validateNodeRecord_owned hnew).2 ⟨hatt, hrem, hcanon, htail⟩
  | checkpoint _ seconds _ hlt =>
    have hnew : (NodeRecord.checkpoint seconds old).Owned := howned
    exact (validateNodeRecord_owned hnew).2
      ⟨hatt, UInt32.le_trans (UInt32.le_of_lt hlt) hrem, hcanon, htail⟩
  | armed _ hlt =>
    have hlt' : old.attemptsUsed.toNat < 5 := UInt8.lt_iff_toNat_lt.1 hlt
    have hnew : (NodeRecord.arm old).Owned := howned
    refine (validateNodeRecord_owned hnew).2 ⟨?_, hrem, hcanon, htail⟩
    simp only [NodeRecord.arm, UInt8.toNat_add, UInt8.toNat_ofNat]
    omega

theorem View.Ok.put {v : View} (h : v.Ok) {slot : SlotIndex} {r : NodeRecord}
    (he : Evolves (v.records slot) r) : (v.put slot r).Ok := by
  have hslot : ∀ i, ((v.put slot r).records i).Owned →
      (v.records i).Owned ∧ ((v.put slot r).records i).key = (v.records i).key := by
    intro i hi
    by_cases his : i = slot
    · subst his
      rw [View.put_records, Function.update_self] at hi ⊢
      exact ⟨he.owned, he.key hi⟩
    · rw [View.put_records, Function.update_of_ne his] at hi ⊢
      exact ⟨hi, rfl⟩
  refine ⟨fun i j hi hj hkey => ?_, fun i hi => ?_⟩
  · obtain ⟨hi', hki⟩ := hslot i hi
    obtain ⟨hj', hkj⟩ := hslot j hj
    exact h.distinct i j hi' hj' (by rw [← hki, ← hkj, hkey])
  · obtain ⟨hi', hki⟩ := hslot i hi
    rw [hki]
    exact h.below i hi'

theorem View.Ok.create {v : View} (h : v.Ok) {slot : SlotIndex} {r : NodeRecord}
    (hfloor : v.floor ≤ r.key) : (v.create slot r).Ok := by
  have hother : ∀ i, i ≠ slot → ((v.create slot r).records i).Owned →
      (v.records i).Owned ∧ (v.create slot r).records i = v.records i := by
    intro i his hi
    rw [View.create_records, Function.update_of_ne his] at hi ⊢
    exact ⟨hi, rfl⟩
  have hnew : (v.create slot r).records slot = r := by
    rw [View.create_records, Function.update_self]
  refine ⟨fun i j hi hj hkey => ?_, fun i hi => ?_⟩
  · by_cases his : i = slot <;> by_cases hjs : j = slot
    · rw [his, hjs]
    · obtain ⟨hj', hkj⟩ := hother j hjs hj
      have := h.below j hj'
      rw [his, hnew, hkj] at hkey
      omega
    · obtain ⟨hi', hki⟩ := hother i his hi
      have := h.below i hi'
      rw [hjs, hnew, hki] at hkey
      omega
    · obtain ⟨hi', hki⟩ := hother i his hi
      obtain ⟨hj', hkj⟩ := hother j hjs hj
      rw [hki, hkj] at hkey
      exact h.distinct i j hi' hj' hkey
  · rw [View.create_floor]
    by_cases his : i = slot
    · rw [his, hnew]
      omega
    · obtain ⟨hi', hki⟩ := hother i his hi
      have := h.below i hi'
      rw [hki]
      omega

/-! ### RAM and flash -/

/-- The image stands for the view, for the device `device`. -/
structure Stored (device : UInt8) (img : Image) (v : View) : Prop where
  ok : v.Ok
  lineage : ∃ m, Durable img v.records m ∧ m.custodySourceDeviceId = device ∧
    validHighWater m.nextUnreservedEventId = true ∧ v.floor ≤ m.floor

/-- The RAM and the image stand for the view, and the store is in service. -/
structure Sound (s : Store) (img : Image) (v : View) : Prop where
  healthy : s.healthy = true
  mirrors : Mirrors s img
  cursor : Cursor s.allocator
  source : s.allocator.sourceDeviceId = s.sourceDeviceId
  indexed : Indexed s
  ok : v.Ok
  records : s.records = v.records
  floor : v.floor ≤ s.allocator.floor

theorem Sound.stored {s : Store} {img : Image} {v : View} (h : Sound s img v) :
    Stored s.sourceDeviceId img v := by
  refine ⟨h.ok, s.allocator.metadata, ?_, ?_, h.cursor.highWater, h.floor.trans h.cursor.floor_le⟩
  · rw [← h.records]
    exact h.mirrors.durable
  · rw [h.cursor.source, h.source]

theorem Stored.unique {device : UInt8} {img : Image} {v v' : View} (h : Stored device img v)
    (h' : Stored device img v') : v.records = v'.records := by
  obtain ⟨m, hd, -⟩ := h.lineage
  obtain ⟨m', hd', -⟩ := h'.lineage
  exact (hd.unique hd').1

theorem Sound.recordAt {s : Store} {img : Image} {v : View} (h : Sound s img v) (i : SlotIndex) :
    s.recordAt i = some (v.records i) := by
  rw [h.mirrors.recordAt, h.records]

theorem Sound.valid {s : Store} {img : Image} {v : View} (h : Sound s img v) (i : SlotIndex) :
    validateNodeRecord (v.records i) = .ok () := by
  rw [← h.records]
  exact (h.mirrors.slots i).2.valid

/-! ### Mutations of one slot -/

/-- The completed outcomes of a mutation that replaces the record `r` of a slot by `f r` if `guard r`:
nothing has changed, or the guard was met and the new view is in force. -/
def Mutates (s : Store) (img : Image) (v : View) (slot : ℕ) (guard : NodeRecord → Prop)
    (f : NodeRecord → NodeRecord) (done : Prop) (s' : Store) (img' : Image) : Prop :=
  (¬ done ∧ s' = s ∧ img' = img ∧ ∀ h : slot < 8, ¬ guard (v.records ⟨slot, h⟩)) ∨
    (done ∧ ∃ h : slot < 8, guard (v.records ⟨slot, h⟩) ∧
      Sound s' img' (v.put ⟨slot, h⟩ (f (v.records ⟨slot, h⟩))) ∧ s'.sourceDeviceId = s.sourceDeviceId)

/-- What a cut during a mutation leaves: the view before it or the view after it. -/
def MutatesOrNot (device : UInt8) (v : View) (slot : ℕ) (guard : NodeRecord → Prop)
    (f : NodeRecord → NodeRecord) (img' : Image) : Prop :=
  Stored device img' v ∨
    ∃ h : slot < 8, guard (v.records ⟨slot, h⟩) ∧
      Stored device img' (v.put ⟨slot, h⟩ (f (v.records ⟨slot, h⟩)))

section Mutations

variable {s : Store} {img : Image} {v : View}

theorem stored_put {img' : Image} (h : Sound s img v) {slot : SlotIndex} {r : NodeRecord}
    (he : Evolves (v.records slot) r)
    (hd : Durable img' (Function.update s.records slot r) s.allocator.metadata) :
    Stored s.sourceDeviceId img' (v.put slot r) := by
  refine ⟨h.ok.put he, s.allocator.metadata, ?_, ?_, h.cursor.highWater,
    h.floor.trans h.cursor.floor_le⟩
  · rw [View.put_records, ← h.records]
    exact hd
  · rw [h.cursor.source, h.source]

theorem stored_same {img' : Image} (h : Sound s img v)
    (hd : Durable img' s.records s.allocator.metadata) : Stored s.sourceDeviceId img' v := by
  refine ⟨h.ok, s.allocator.metadata, ?_, ?_, h.cursor.highWater, h.floor.trans h.cursor.floor_le⟩
  · rw [← h.records]
    exact hd
  · rw [h.cursor.source, h.source]

/-- The commit of an evolved record, before the index. -/
theorem ensures_commitEvolved {P : Image → Prop} {Q : Store × Bool → Image → Prop} (h : Sound s img v)
    {slot : SlotIndex} {r : NodeRecord} (he : Evolves (v.records slot) r)
    (hold : ∀ img', Stored s.sourceDeviceId img' v → P img')
    (hnew : ∀ img', Stored s.sourceDeviceId img' (v.put slot r) → P img')
    (hQ : ∀ s' img', Mirrors s' img' → s'.records = (v.put slot r).records → s'.allocator = s.allocator →
      s'.queue = s.queue → s'.sourceDeviceId = s.sourceDeviceId → s'.healthy = true →
      Q (s', true) img') :
    geometry.Ensures img (s.commitMutation slot r) Q P := by
  have hslot : s.records slot = v.records slot := by rw [h.records]
  refine ensures_commitMutation h.mirrors (he.valid (h.valid slot)) ?_
    (fun img' hd => hold img' (stored_same h hd)) (fun img' hd => hnew img' (stored_put h he hd)) ?_
  · rw [hslot]
    exact he.generation
  · intro img' hm
    refine hQ _ img' hm ?_ rfl rfl rfl h.healthy
    rw [Store.records_setSlot, View.put_records, h.records]

theorem ensures_commitIndexed (h : Sound s img v) (slot : SlotIndex) (guard : NodeRecord → Prop)
    (f : NodeRecord → NodeRecord) (hg : guard (v.records slot))
    (he : Evolves (v.records slot) (f (v.records slot))) :
    geometry.Ensures img (s.commitIndexed slot (f (v.records slot)))
      (fun r img' => Mutates s img v slot guard f (r.2 = .ok) r.1 img')
      (MutatesOrNot s.sourceDeviceId v slot guard f) := by
  unfold Store.commitIndexed
  refine ensures_bind (ensures_commitEvolved h he (fun img' hs => Or.inl hs)
    (fun img' hs => Or.inr ⟨slot.isLt, hg, hs⟩) ?_)
  intro s' img' hm hrec halloc hqueue hsource hhealthy
  obtain ⟨queue, hidx, hindexed⟩ := rebuildIndex_of_distinct (s := s') (fun i => (hm.slots i).1)
    (by rw [hrec]; exact (h.ok.put he).distinct)
  simp only [Bool.not_true, Bool.false_eq_true, if_false, hidx, ensures_pure]
  refine Or.inr ⟨trivial, slot.isLt, hg, ?_, hsource⟩
  exact
    { healthy := hhealthy
      mirrors := ⟨hm.slots, hm.metadata⟩
      cursor := by rw [show (Store.mk _ _ _ _ _ _ _).allocator = s.allocator from halloc]; exact h.cursor
      source := by rw [show (Store.mk _ _ _ _ _ _ _).allocator = s.allocator from halloc, h.source, ← hsource]
      indexed := hindexed
      ok := h.ok.put he
      records := hrec
      floor := by rw [show (Store.mk _ _ _ _ _ _ _).allocator = s.allocator from halloc]; exact h.floor }

/-- A record that stays QUEUED under its identity needs no new index. -/
theorem sound_of_same_index {s' : Store} {img' : Image} (h : Sound s img v) {slot : SlotIndex}
    {r : NodeRecord} (he : Evolves (v.records slot) r) (hq : r.state = (v.records slot).state)
    (hm : Mirrors s' img') (hrec : s'.records = (v.put slot r).records)
    (halloc : s'.allocator = s.allocator) (hqueue : s'.queue = s.queue)
    (hsource : s'.sourceDeviceId = s.sourceDeviceId) (hhealthy : s'.healthy = true) :
    Sound s' img' (v.put slot r) := by
  have hown : r.Owned := by rw [NodeRecord.Owned, hq]; exact he.owned
  have hsame : ∀ i, (s'.records i).state = (s.records i).state ∧ (s'.records i).key = (s.records i).key := by
    intro i
    rw [hrec, h.records, View.put_records]
    by_cases hi : i = slot
    · subst hi
      rw [Function.update_self]
      exact ⟨hq, he.key hown⟩
    · rw [Function.update_of_ne hi]
      exact ⟨rfl, rfl⟩
  refine ⟨hhealthy, hm, by rw [halloc]; exact h.cursor, by rw [halloc, h.source, hsource], ?_, h.ok.put he,
    hrec, by rw [halloc]; exact h.floor⟩
  refine ⟨fun i => ?_, ?_⟩
  · rw [hqueue, h.indexed.mem, (hsame i).1]
  · rw [hqueue]
    refine h.indexed.sorted.imp ?_
    intro i j hij
    rwa [(hsame i).2, (hsame j).2]

theorem Sound.slot_record (h : Sound s img v) (slot : SlotIndex) : (s.slots slot).record = v.records slot :=
  congrFun h.records slot

/-- The guard of an operation on a slot is not met: nothing happens. -/
theorem mutates_refused {slot : ℕ} {guard : NodeRecord → Prop} {f : NodeRecord → NodeRecord}
    {done : Prop} (hdone : ¬ done) (h : ∀ hs : slot < 8, ¬ guard (v.records ⟨slot, hs⟩)) :
    Mutates s img v slot guard f done s img :=
  Or.inl ⟨hdone, rfl, rfl, h⟩

theorem ensures_transition (h : Sound s img v) {slot : ℕ} {target : NodeState}
    (he : ∀ r : NodeRecord, r.state = .queued →
      Evolves r { r with generation := r.generation + 1, state := target }) :
    geometry.Ensures img (s.transition slot .queued target)
      (fun r img' => Mutates s img v slot (fun r => r.state = .queued)
        (fun r => { r with generation := r.generation + 1, state := target }) (r.2 = .ok) r.1 img')
      (MutatesOrNot s.sourceDeviceId v slot (fun r => r.state = .queued)
        (fun r => { r with generation := r.generation + 1, state := target })) := by
  unfold Store.transition
  simp only [h.healthy, Bool.not_true, Bool.false_eq_true, if_false]
  split
  · rename_i hs
    rw [h.slot_record ⟨slot, hs⟩]
    split
    · rename_i hne
      exact ensures_pure.2 (mutates_refused (by simp) fun _ => hne)
    · rename_i hq
      have hq := not_not.1 hq
      exact ensures_commitIndexed h ⟨slot, hs⟩ (fun r => r.state = .queued)
        (fun r => { r with generation := r.generation + 1, state := target }) hq (he _ hq)
  · rename_i hs
    exact ensures_pure.2 (mutates_refused (by simp) fun hlt => absurd hlt hs)

theorem ensures_markFailed (h : Sound s img v) (slot : ℕ) :
    geometry.Ensures img (s.markFailed slot)
      (fun r img' => Mutates s img v slot (fun r => r.state = .queued) NodeRecord.fail (r.2 = .ok) r.1 img')
      (MutatesOrNot s.sourceDeviceId v slot (fun r => r.state = .queued) NodeRecord.fail) :=
  ensures_transition h fun _ hq => .failed hq

theorem ensures_markExpired (h : Sound s img v) (slot : ℕ) :
    geometry.Ensures img (s.markExpired slot)
      (fun r img' => Mutates s img v slot (fun r => r.state = .queued) NodeRecord.expire (r.2 = .ok) r.1 img')
      (MutatesOrNot s.sourceDeviceId v slot (fun r => r.state = .queued) NodeRecord.expire) :=
  ensures_transition h fun _ hq => .expired hq

/-- The record of a terminal slot. -/
def Terminal (r : NodeRecord) : Prop := r.state = .failed ∨ r.state = .expired

theorem Terminal.owned {r : NodeRecord} (h : Terminal r) : r.Owned := by
  rcases h with h | h <;> rw [NodeRecord.Owned, h] <;> decide

theorem ensures_reclaim (h : Sound s img v) (slot : ℕ) :
    geometry.Ensures img (s.reclaim slot)
      (fun r img' => Mutates s img v slot Terminal NodeRecord.freed (r.2 = .ok) r.1 img')
      (MutatesOrNot s.sourceDeviceId v slot Terminal NodeRecord.freed) := by
  unfold Store.reclaim Store.makeFree
  simp only [h.healthy, Bool.not_true, Bool.false_eq_true, if_false]
  split
  · rename_i hs
    rw [h.slot_record ⟨slot, hs⟩]
    split
    · rename_i hne
      exact ensures_pure.2 (mutates_refused (by simp) fun _ ht => ht.elim hne.1 hne.2)
    · rename_i ht
      have ht : Terminal (v.records ⟨slot, hs⟩) := by
        by_contra hc
        exact ht ⟨fun e => hc (Or.inl e), fun e => hc (Or.inr e)⟩
      exact ensures_commitIndexed h ⟨slot, hs⟩ _ NodeRecord.freed ht (.freed ht.owned)
  · rename_i hs
    exact ensures_pure.2 (mutates_refused (by simp) fun hlt => absurd hlt hs)

theorem ensures_releaseQueued (h : Sound s img v) (slot : ℕ) :
    geometry.Ensures img (s.releaseQueued slot)
      (fun r img' => Mutates s img v slot (fun r => r.state = .queued) NodeRecord.freed (r.2 = .ok) r.1 img')
      (MutatesOrNot s.sourceDeviceId v slot (fun r => r.state = .queued) NodeRecord.freed) := by
  unfold Store.releaseQueued Store.makeFree
  simp only [h.healthy, Bool.not_true, Bool.false_eq_true, if_false]
  split
  · rename_i hs
    rw [h.slot_record ⟨slot, hs⟩]
    split
    · rename_i hne
      exact ensures_pure.2 (mutates_refused (by simp) fun _ => hne)
    · rename_i hq
      have hq := not_not.1 hq
      exact ensures_commitIndexed h ⟨slot, hs⟩ (fun r => r.state = .queued)
        NodeRecord.freed hq (.freed (by rw [NodeRecord.Owned, hq]; decide))
  · rename_i hs
    exact ensures_pure.2 (mutates_refused (by simp) fun hlt => absurd hlt hs)

/-- The condition of a checkpoint. -/
def Checkpointable (seconds : UInt32) (r : NodeRecord) : Prop :=
  r.state = .queued ∧ seconds ≠ 0 ∧ seconds < r.remainingActiveSeconds

theorem ensures_checkpointRemaining (h : Sound s img v) (slot : ℕ) (seconds : UInt32) :
    geometry.Ensures img (s.checkpointRemaining slot seconds)
      (fun r img' => Mutates s img v slot (Checkpointable seconds) (NodeRecord.checkpoint seconds)
        (r.2 = .ok) r.1 img')
      (MutatesOrNot s.sourceDeviceId v slot (Checkpointable seconds) (NodeRecord.checkpoint seconds)) := by
  unfold Store.checkpointRemaining
  simp only [h.healthy, Bool.not_true, Bool.false_eq_true, if_false]
  split
  · rename_i hs
    rw [h.slot_record ⟨slot, hs⟩]
    split
    · rename_i hne
      refine ensures_pure.2 (mutates_refused (by simp) fun _ hc => ?_)
      rcases hne with hne | hne | hne
      · exact hne hc.1
      · exact hc.2.1 hne
      · exact UInt32.not_le.2 hc.2.2 hne
    · rename_i hc
      rw [not_or, not_or, not_not] at hc
      have hc : Checkpointable seconds (v.records ⟨slot, hs⟩) := ⟨hc.1, hc.2.1, UInt32.not_le.1 hc.2.2⟩
      have he := Evolves.checkpoint hc.1 seconds hc.2.1 hc.2.2
      refine ensures_bind (ensures_commitEvolved h he (fun img' hst => Or.inl hst)
        (fun img' hst => Or.inr ⟨hs, hc, hst⟩) ?_)
      intro s' img' hm hrec' halloc hqueue hsource hhealthy
      simp only [Bool.not_true, Bool.false_eq_true, if_false, ensures_pure]
      exact Or.inr ⟨trivial, hs, hc,
        sound_of_same_index h he rfl hm hrec' halloc hqueue hsource hhealthy, hsource⟩
  · rename_i hs
    exact ensures_pure.2 (mutates_refused (by simp) fun hlt => absurd hlt hs)

/-- The condition of an attempt. -/
def Armable (r : NodeRecord) : Prop := r.state = .queued ∧ r.attemptsUsed < maxAttempts

theorem ensures_armAttempt (h : Sound s img v) (slot : ℕ) :
    geometry.Ensures img (s.armAttempt slot)
      (fun r img' => Mutates s img v slot Armable NodeRecord.arm (r.2 = .armed) r.1 img')
      (MutatesOrNot s.sourceDeviceId v slot Armable NodeRecord.arm) := by
  unfold Store.armAttempt
  simp only [h.healthy, Bool.not_true, Bool.false_eq_true, if_false]
  split
  · rename_i hs
    rw [h.slot_record ⟨slot, hs⟩]
    split
    · rename_i hne
      exact ensures_pure.2 (mutates_refused (by simp) fun _ hc => hne hc.1)
    · rename_i hq
      split
      · rename_i hge
        exact ensures_pure.2 (mutates_refused (by simp) fun _ hc => UInt8.not_le.2 hc.2 hge)
      · rename_i hlt
        have hc : Armable (v.records ⟨slot, hs⟩) := ⟨not_not.1 hq, UInt8.not_le.1 hlt⟩
        have he := Evolves.armed hc.1 hc.2
        refine ensures_bind (ensures_commitEvolved h he (fun img' hst => Or.inl hst)
          (fun img' hst => Or.inr ⟨hs, hc, hst⟩) ?_)
        intro s' img' hm hrec' halloc hqueue hsource hhealthy
        simp only [Bool.not_true, Bool.false_eq_true, if_false, ensures_pure]
        exact Or.inr ⟨trivial, hs, hc,
          sound_of_same_index h he rfl hm hrec' halloc hqueue hsource hhealthy, hsource⟩
  · rename_i hs
    exact ensures_pure.2 (mutates_refused (by simp) fun hlt => absurd hlt hs)

end Mutations

/-! ### Creation -/

/-- The next enqueue of `input` goes to `slot` under `identity`. -/
structure Creates (s : Store) (input : EventInput) (slot : SlotIndex) (identity : Identity) : Prop where
  valid : Store.validInput input = true
  free : s.firstFree = some slot
  identity : s.allocator.nextIdentity? = some identity

/-- The view after a creation. -/
def View.created (v : View) (slot : SlotIndex) (identity : Identity) (input : EventInput) : View :=
  v.create slot (Store.queuedRecord ((v.records slot).generation + 1) identity input)

theorem queuedRecord_valid {input : EventInput} (h : Store.validInput input = true) {identity : Identity}
    (hid : identity.epoch ≠ 0 ∧ identity.id ≠ 0) (generation : UInt32) :
    validateNodeRecord (Store.queuedRecord generation identity input) = .ok () := by
  obtain ⟨hcontent, htail⟩ := Bool.and_eq_true_iff.1 h
  have hbody := bodyOf_take htail
  have howned : (Store.queuedRecord generation identity input).Owned := NodeState.noConfusion
  rw [validateNodeRecord_owned howned]
  refine ⟨Nat.zero_le _, UInt32.le_refl _, ?_, ?_⟩
  · simp [validCanonicalEvent, Store.queuedRecord, hbody, hcontent, hid.1, hid.2]
  · simpa [Store.queuedRecord, hbody] using htail

theorem firstFree_state {s : Store} {slot : SlotIndex} (h : s.firstFree = some slot) :
    (s.records slot).state = .free := by
  have := List.find?_some h
  exact of_decide_eq_true this

section Enqueue

variable {s : Store} {img : Image} {v : View}

/-- The completed outcomes of an enqueue. -/
inductive Enqueues (s : Store) (img : Image) (v : View) (input : EventInput) (s' : Store) (img' : Image)
    (result : EnqueueResult) : Prop
  | refused (hno : ∀ slot identity, ¬ Creates s input slot identity) (hstore : s' = s) (himg : img' = img)
      (hresult : result.slot = none) (hstatus : result.status ≠ .enqueued)
  | exhausted (hno : ∀ slot identity, ¬ Creates s input slot identity) (hhealthy : s'.healthy = false)
      (himg : img' = img) (hrecords : s'.records = s.records)
      (hsource : s'.sourceDeviceId = s.sourceDeviceId) (hresult : result.slot = none)
      (hstatus : result.status ≠ .enqueued)
  | enqueued (slot : SlotIndex) (identity : Identity) (hc : Creates s input slot identity)
      (hfloor : v.floor ≤ key identity.epoch identity.id)
      (hsound : Sound s' img' (v.created slot identity input))
      (hsource : s'.sourceDeviceId = s.sourceDeviceId)
      (hresult : result = ⟨.enqueued, identity, some slot⟩)

/-- What a cut during an enqueue leaves. -/
def EnqueuesOrNot (s : Store) (v : View) (input : EventInput) (img' : Image) : Prop :=
  Stored s.sourceDeviceId img' v ∨
    ∃ slot identity, Creates s input slot identity ∧ v.floor ≤ key identity.epoch identity.id ∧
      Stored s.sourceDeviceId img' (v.created slot identity input)

theorem ensures_enqueue (h : Sound s img v) (input : EventInput) :
    geometry.Ensures img (s.enqueue input) (fun r img' => Enqueues s img v input r.1 img' r.2)
      (EnqueuesOrNot s v input) := by
  have hdur : Durable img v.records s.allocator.metadata := by
    rw [← h.records]
    exact h.mirrors.durable
  have hlineage : ∀ {img' m'}, Durable img' v.records m' → Reserves s.allocator.metadata m' →
      Stored s.sourceDeviceId img' v := fun {img' m'} hd hr =>
    ⟨h.ok, m', hd, by rw [hr.source, h.cursor.source, h.source], hr.highWater,
      (h.floor.trans h.cursor.floor_le).trans hr.floor⟩
  unfold Store.enqueue
  simp only [h.healthy, Bool.not_true, Bool.false_eq_true, if_false]
  by_cases hvalid : Store.validInput input = true
  swap
  · rw [if_pos (by simpa using hvalid)]
    exact ensures_pure.2 (.refused (fun _ _ hc => hvalid hc.valid) rfl rfl rfl (by simp))
  rw [if_neg (by simpa using hvalid)]
  cases hfree : s.firstFree with
  | none =>
    refine ensures_pure.2 (.refused (fun _ _ hc => ?_) rfl rfl rfl (by simp))
    have := hc.free
    rw [hfree] at this
    cases this
  | some slot =>
    refine ensures_bind (ensures_allocate h.cursor h.mirrors.metadata
      (fun img' m' hsame hm hr => Or.inl (hlineage (hdur.congr hsame hm) hr)) ?_ ?_
      fun hf => absurd hf not_fails)
    · intro hnone
      simp only [ne_eq, reduceCtorEq, not_false_eq_true, if_true, ensures_pure]
      refine .exhausted (fun _ _ hc => ?_) rfl rfl rfl rfl rfl (by simp)
      have := hc.identity
      rw [hnone] at this
      cases this
    · intro identity hid a' img' hgrant hmeta hcells
      simp only [ne_eq, not_true_eq_false, if_false]
      set s1 : Store := { s with allocator := a', healthy := true } with hs1
      have hm1 : Mirrors s1 img' :=
        ⟨fun i => ⟨(h.mirrors.slots i).1, (h.mirrors.slots i).2.congr (hcells i)⟩, hmeta⟩
      have hrec1 : s1.records = v.records := h.records
      have hslot : (s1.slots slot).record = v.records slot := congrFun h.records slot
      have hcreates : Creates s input slot identity := ⟨hvalid, hfree, hid⟩
      have hkey : v.floor ≤ key identity.epoch identity.id := h.floor.trans hgrant.le
      rw [hslot]
      set record := Store.queuedRecord ((v.records slot).generation + 1) identity input with hrecord
      have hok : (v.created slot identity input).Ok := h.ok.create hkey
      have hsrc1 : a'.metadata.custodySourceDeviceId = s.sourceDeviceId := by
        rw [hgrant.reserves.source, h.cursor.source, h.source]
      refine ensures_bind (ensures_commitMutation hm1 (queuedRecord_valid hvalid hgrant.nonzero _) ?_ ?_ ?_ ?_)
      · rw [hrec1]
        rfl
      · intro img'' hd''
        rw [hrec1] at hd''
        exact Or.inl (hlineage hd'' hgrant.reserves)
      · intro img'' hd''
        rw [hrec1] at hd''
        refine Or.inr ⟨slot, identity, hcreates, hkey, hok, a'.metadata, hd'', hsrc1,
          hgrant.cursor.highWater, ?_⟩
        have := hgrant.cursor.floor_le
        rw [hgrant.floor] at this
        exact this
      · intro img'' hm''
        set s2 := s1.setSlot slot ⟨true, record, (s1.slots slot).activeCopy.opposite⟩ with hs2
        have hrec2 : s2.records = (v.created slot identity input).records := by
          rw [hs2, Store.records_setSlot, hrec1]
          rfl
        obtain ⟨queue, hidx, hindexed⟩ := rebuildIndex_of_distinct (s := s2)
          (fun i => (hm''.slots i).1) (by rw [hrec2]; exact hok.distinct)
        simp only [Bool.not_true, Bool.false_eq_true, if_false, hidx, ensures_pure]
        refine .enqueued slot identity hcreates hkey ?_ rfl rfl
        exact
          { healthy := rfl
            mirrors := ⟨hm''.slots, hm''.metadata⟩
            cursor := hgrant.cursor
            source := hgrant.source.trans h.source
            indexed := hindexed
            ok := hok
            records := hrec2
            floor := by rw [show v.created slot identity input = v.create slot record from rfl,
              View.create_floor]; exact hgrant.floor.ge }

end Enqueue

end Redline.Node
