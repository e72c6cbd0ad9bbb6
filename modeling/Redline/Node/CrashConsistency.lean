import Redline.Node.Startup

/-!
# Crash consistency of the Node store

The store as an array of records.  `StoreOp.effect` says what an operation does to the array: at most one
slot gets a new record.  A run takes operations one after another; a cut loses the RAM and is followed by
a recovery with the same device id.

`store_crash_consistent`: wherever power is cut, the recovery is READY and finds the array before the
operation or the array after it.  It starts from a recovery that was READY and whose identities lie below
its high-water mark; `store_reuses_identity` shows an image where they do not.
-/

namespace Redline.Node

open Redline.Wire Redline.Records Redline.Lib

/-- The operations of the store. -/
inductive StoreOp
  | enqueue (input : EventInput)
  | markFailed (slot : ℕ)
  | markExpired (slot : ℕ)
  | reclaim (slot : ℕ)
  | releaseQueued (slot : ℕ)
  | checkpointRemaining (slot : ℕ) (seconds : UInt32)
  | armAttempt (slot : ℕ)

namespace StoreOp

/-- The operation on the store, and whether it has reported success. -/
def call (s : Store) : StoreOp → StorageM (Store × Bool)
  | .enqueue input => do
    let (s, r) ← s.enqueue input
    return (s, decide (r.status = .enqueued))
  | .markFailed slot => do
    let (s, r) ← s.markFailed slot
    return (s, decide (r = .ok))
  | .markExpired slot => do
    let (s, r) ← s.markExpired slot
    return (s, decide (r = .ok))
  | .reclaim slot => do
    let (s, r) ← s.reclaim slot
    return (s, decide (r = .ok))
  | .releaseQueued slot => do
    let (s, r) ← s.releaseQueued slot
    return (s, decide (r = .ok))
  | .checkpointRemaining slot seconds => do
    let (s, r) ← s.checkpointRemaining slot seconds
    return (s, decide (r = .ok))
  | .armAttempt slot => do
    let (s, r) ← s.armAttempt slot
    return (s, decide (r = .armed))

/-- A slot gets the record `f r` in place of `r`, if `guard r`. -/
def change (s : Store) (slot : ℕ) (guard : NodeRecord → Bool) (f : NodeRecord → NodeRecord) :
    Option (SlotIndex × NodeRecord) :=
  if h : slot < 8 then
    if guard (s.records ⟨slot, h⟩) then some (⟨slot, h⟩, f (s.records ⟨slot, h⟩)) else none
  else none

/-- **What an operation is for**: the slot it changes and the record the slot holds afterwards; none if
it changes nothing. -/
def effect (s : Store) (op : StoreOp) : Option (SlotIndex × NodeRecord) :=
  if !s.healthy then none
  else
    match op with
    | .enqueue input =>
      if Store.validInput input then
        match s.firstFree, s.allocator.nextIdentity? with
        | some slot, some identity =>
          some (slot, Store.queuedRecord ((s.records slot).generation + 1) identity input)
        | _, _ => none
      else none
    | .markFailed slot => change s slot (fun r => r.state = .queued) NodeRecord.fail
    | .markExpired slot => change s slot (fun r => r.state = .queued) NodeRecord.expire
    | .reclaim slot => change s slot (fun r => r.state = .failed ∨ r.state = .expired) NodeRecord.freed
    | .releaseQueued slot => change s slot (fun r => r.state = .queued) NodeRecord.freed
    | .checkpointRemaining slot seconds =>
      change s slot
        (fun r => r.state = .queued ∧ seconds ≠ 0 ∧ seconds < r.remainingActiveSeconds)
        (NodeRecord.checkpoint seconds)
    | .armAttempt slot =>
      change s slot (fun r => r.state = .queued ∧ r.attemptsUsed < maxAttempts) NodeRecord.arm

/-- The array after an effect. -/
def applied (records : SlotIndex → NodeRecord) : Option (SlotIndex × NodeRecord) → SlotIndex → NodeRecord
  | none => records
  | some (slot, r) => Function.update records slot r

end StoreOp

/-- An operation, where power is cut during it, and what the entropy source gives to the recovery. -/
structure StoreStep where
  op : StoreOp
  cut : Option (PowerCut Bytes)
  entropy : Option UInt32

/-- The RAM of the store and the image. -/
abbrev StoreState := Store × Image

/-- The recovery of a store on an image. -/
def reboot (device : UInt8) (entropy : Option UInt32) (img : Image) : Store × Store.Status × Image :=
  let r := (Store.recover entropy device).run geometry.flash (Disk.clean img)
  (r.1.1, r.1.2, r.2.data)

/-- One step: the operation is done, or it is cut and the store recovers. -/
def StoreState.step (device : UInt8) (st : StoreState) (a : StoreStep) : StoreState :=
  match exec geometry.flash geometry.undecodable (a.op.call st.1) a.cut (Disk.clean st.2) with
  | .done r d => (r.1, d.data)
  | .lost img => ((reboot device a.entropy img).1, (reboot device a.entropy img).2.2)

def StoreState.run (device : UInt8) (st : StoreState) (steps : List StoreStep) : StoreState :=
  steps.foldl (StoreState.step device) st

/-- The recovery on the image is READY, leaves the image alone, and finds the records. -/
def RecoversTo (device : UInt8) (img : Image) (records : SlotIndex → NodeRecord) : Prop :=
  ∀ entropy, ∃ s, reboot device entropy img = (s, .ready, img) ∧ s.records = records ∧
    ∀ i, (s.slots i).present = true

/-! ### One operation -/

/-- What a run of the store keeps: the image stands for a view with the records of the RAM, and a store
in service is sound. -/
structure Kept (device : UInt8) (st : StoreState) : Prop where
  view : ∃ v, Stored device st.2 v ∧ st.1.records = v.records ∧ (st.1.healthy = true → Sound st.1 st.2 v)
  source : st.1.sourceDeviceId = device

theorem recoversTo_of_stored {device : UInt8} {img : Image} {v : View} (h : Stored device img v) :
    RecoversTo device img v.records := by
  intro entropy
  obtain ⟨img', hd, s, hst, himg, hsound⟩ := ensures_run
    (p := Store.recover entropy device) (P := fun _ => True)
    (Q := fun r img' => ∃ s, r = (s, .ready) ∧ img' = img ∧ Sound s img v)
    (ensures_recover_stored noFaults_truthful h trivial fun s hs _ => ⟨s, rfl, rfl, hs⟩)
  refine ⟨s, ?_, hsound.records, fun i => (hsound.mirrors.slots i).1⟩
  simp only [reboot, hst, hd, himg, Disk.clean_data]

/-- The recovery of a stored view keeps it. -/
theorem kept_of_stored {device : UInt8} {img : Image} {v : View} (h : Stored device img v)
    (entropy : Option UInt32) :
    Kept device ((reboot device entropy img).1, (reboot device entropy img).2.2) := by
  obtain ⟨img', hd, s, hst, himg, hsound, hsrc⟩ := ensures_run
    (p := Store.recover entropy device) (P := fun _ => True)
    (Q := fun r img' => ∃ s, r = (s, .ready) ∧ img' = img ∧ Sound s img v ∧ s.sourceDeviceId = device)
    (ensures_recover_stored noFaults_truthful h trivial fun s hs hsrc => ⟨s, rfl, rfl, hs, hsrc⟩)
  simp only [reboot, hst, hd, himg, Disk.clean_data]
  exact ⟨⟨v, h, hsound.records, fun _ => hsound⟩, hsrc⟩

/-- The two outcomes of an operation: it has had its effect and reports so, or power was cut before or
after the effect became durable. -/
def OpDone (device : UInt8) (s : Store) (op : StoreOp) (r : Store × Bool) (img' : Image) : Prop :=
  Kept device (r.1, img') ∧ r.1.records = StoreOp.applied s.records (op.effect s) ∧
    r.2 = (op.effect s).isSome

def OpCut (device : UInt8) (s : Store) (op : StoreOp) (img' : Image) : Prop :=
  ∃ v, Stored device img' v ∧
    (v.records = s.records ∨ v.records = StoreOp.applied s.records (op.effect s))

section Operations

variable {s : Store} {img : Image} {v : View}

theorem change_of_guard {slot : ℕ} {guard : NodeRecord → Bool} {f : NodeRecord → NodeRecord}
    (h : slot < 8) (hg : guard (s.records ⟨slot, h⟩) = true) :
    StoreOp.change s slot guard f = some (⟨slot, h⟩, f (s.records ⟨slot, h⟩)) := by
  simp [StoreOp.change, h, hg]

theorem change_of_not_guard {slot : ℕ} {guard : NodeRecord → Bool} {f : NodeRecord → NodeRecord}
    (hg : ∀ h : slot < 8, guard (s.records ⟨slot, h⟩) ≠ true) : StoreOp.change s slot guard f = none := by
  unfold StoreOp.change
  split
  · rename_i h
    rw [if_neg (hg h)]
  · rfl

/-- A mutation of one slot has the effect `change`. -/
theorem ensures_change {α : Type} [DecidableEq α] (h : Sound s img v) (op : StoreOp) {slot : ℕ}
    {guard : NodeRecord → Bool} {guard' : NodeRecord → Prop} (hguard : ∀ r, guard r = true ↔ guard' r)
    {f : NodeRecord → NodeRecord} (heffect : op.effect s = StoreOp.change s slot guard f)
    {p : StorageM (Store × α)} {ok : α}
    (hp : geometry.Ensures img p (fun r img' => Mutates s img v slot guard' f (r.2 = ok) r.1 img')
      (MutatesOrNot s.sourceDeviceId v slot guard' f)) :
    geometry.Ensures img (p >>= fun r => pure (r.1, decide (r.2 = ok)))
      (OpDone s.sourceDeviceId s op) (OpCut s.sourceDeviceId s op) := by
  have hput : ∀ hs : slot < 8, guard' (v.records ⟨slot, hs⟩) →
      op.effect s = some (⟨slot, hs⟩, f (v.records ⟨slot, hs⟩)) := by
    intro hs hg
    rw [heffect, ← h.records]
    exact change_of_guard hs ((hguard _).2 (by rw [h.records]; exact hg))
  have happlied : ∀ hs : slot < 8, guard' (v.records ⟨slot, hs⟩) →
      (v.put ⟨slot, hs⟩ (f (v.records ⟨slot, hs⟩))).records = StoreOp.applied s.records (op.effect s) := by
    intro hs hg
    rw [hput hs hg, h.records]
    rfl
  refine ensures_bind (ensures_mono (fun r img' hr => ?_) ?_ hp)
  · refine ensures_pure.2 ?_
    rcases hr with ⟨hdone, hs', himg, hno⟩ | ⟨hdone, hs, hg, hsound, hsrc⟩
    · have hnone : op.effect s = none := by
        rw [heffect]
        refine change_of_not_guard fun hs hg => hno hs ?_
        rw [← h.records]
        exact (hguard _).1 hg
      rw [hs', himg]
      refine ⟨⟨⟨v, h.stored, h.records, fun _ => h⟩, rfl⟩, ?_, ?_⟩
      · rw [hnone]
        rfl
      · simp [hdone, hnone]
    · refine ⟨⟨⟨_, ?_, hsound.records, fun _ => hsound⟩, hsrc⟩, ?_, ?_⟩
      · rw [← hsrc]
        exact hsound.stored
      · exact hsound.records.trans (happlied hs hg)
      · simp [hdone, hput hs hg]
  · rintro img' (hst | ⟨hs, hg, hst⟩)
    · exact ⟨v, hst, Or.inl h.records.symm⟩
    · exact ⟨_, hst, Or.inr (happlied hs hg)⟩

theorem ensures_call_enqueue (h : Sound s img v) (input : EventInput) :
    geometry.Ensures img ((StoreOp.enqueue input).call s)
      (OpDone s.sourceDeviceId s (.enqueue input)) (OpCut s.sourceDeviceId s (.enqueue input)) := by
  have hcreated : ∀ slot identity, Creates s input slot identity →
      (StoreOp.enqueue input).effect s =
        some (slot, Store.queuedRecord ((v.records slot).generation + 1) identity input) := by
    intro slot identity hc
    simp [StoreOp.effect, h.healthy, hc.valid, hc.free, hc.identity, h.records]
  have happlied : ∀ slot identity, Creates s input slot identity →
      (v.created slot identity input).records =
        StoreOp.applied s.records ((StoreOp.enqueue input).effect s) := by
    intro slot identity hc
    rw [hcreated slot identity hc, h.records]
    rfl
  have hnone : (∀ slot identity, ¬ Creates s input slot identity) →
      (StoreOp.enqueue input).effect s = none := by
    intro hno
    simp only [StoreOp.effect, h.healthy, Bool.not_true, Bool.false_eq_true, if_false]
    split
    · rename_i hv
      cases hf : s.firstFree with
      | none => rfl
      | some slot =>
        cases hi : s.allocator.nextIdentity? with
        | none => rfl
        | some identity => exact absurd ⟨hv, hf, hi⟩ (hno slot identity)
    · rfl
  refine ensures_bind (ensures_mono (fun r img' hr => ?_) ?_ (ensures_enqueue h input))
  · refine ensures_pure.2 ?_
    cases hr with
    | refused hno hstore himg _ hstatus =>
      rw [hstore, himg]
      refine ⟨⟨⟨v, h.stored, h.records, fun _ => h⟩, rfl⟩, ?_, ?_⟩
      · rw [hnone hno]
        rfl
      · simp [hnone hno, hstatus]
    | exhausted hno hhealthy himg hrecords hsource _ hstatus =>
      rw [himg]
      refine ⟨⟨⟨v, h.stored, hrecords.trans h.records, fun hh => ?_⟩, hsource⟩, ?_, ?_⟩
      · rw [hhealthy] at hh
        cases hh
      · rw [hnone hno]
        exact hrecords
      · simp [hnone hno, hstatus]
    | enqueued slot identity hc _ hsound hsource hresult =>
      refine ⟨⟨⟨_, ?_, hsound.records, fun _ => hsound⟩, hsource⟩, ?_, ?_⟩
      · rw [← hsource]
        exact hsound.stored
      · exact hsound.records.trans (happlied slot identity hc)
      · simp [hresult, hcreated slot identity hc]
  · rintro img' (hst | ⟨slot, identity, hc, -, hst⟩)
    · exact ⟨v, hst, Or.inl h.records.symm⟩
    · exact ⟨_, hst, Or.inr (happlied slot identity hc)⟩

/-- **One operation** of a sound store, on the array of records. -/
theorem ensures_call (h : Sound s img v) (op : StoreOp) :
    geometry.Ensures img (op.call s) (OpDone s.sourceDeviceId s op) (OpCut s.sourceDeviceId s op) := by
  have hh : ¬ (!s.healthy) = true := by simp [h.healthy]
  cases op with
  | enqueue input => exact ensures_call_enqueue h input
  | markFailed slot =>
    exact ensures_change h (.markFailed slot) (fun r => decide_eq_true_iff)
      (if_neg hh) (ensures_markFailed h slot)
  | markExpired slot =>
    exact ensures_change h (.markExpired slot) (fun r => decide_eq_true_iff)
      (if_neg hh) (ensures_markExpired h slot)
  | reclaim slot =>
    exact ensures_change h (.reclaim slot) (fun r => decide_eq_true_iff)
      (if_neg hh) (ensures_reclaim h slot)
  | releaseQueued slot =>
    exact ensures_change h (.releaseQueued slot) (fun r => decide_eq_true_iff)
      (if_neg hh) (ensures_releaseQueued h slot)
  | checkpointRemaining slot seconds =>
    exact ensures_change h (.checkpointRemaining slot seconds) (fun r => decide_eq_true_iff)
      (if_neg hh) (ensures_checkpointRemaining h slot seconds)
  | armAttempt slot =>
    exact ensures_change h (.armAttempt slot) (fun r => decide_eq_true_iff)
      (if_neg hh) (ensures_armAttempt h slot)

end Operations

/-- A store out of service does nothing. -/
theorem call_of_unhealthy {s : Store} (h : s.healthy = false) (op : StoreOp) :
    op.call s = pure (s, false) := by
  cases op <;> simp [StoreOp.call, Store.enqueue, Store.markFailed, Store.markExpired, Store.transition,
    Store.reclaim, Store.releaseQueued, Store.checkpointRemaining, Store.armAttempt, h]

/-! ### Whole runs -/

/-- **One step.** Both outcomes of an operation in a state that is kept. -/
theorem Kept.ensures_call {device : UInt8} {st : StoreState} (h : Kept device st) (op : StoreOp) :
    geometry.Ensures st.2 (op.call st.1) (OpDone device st.1 op) (OpCut device st.1 op) := by
  obtain ⟨v, hstored, hrec, hsound⟩ := h.view
  by_cases hh : st.1.healthy = true
  · rw [← h.source]
    exact Node.ensures_call (hsound hh) op
  · have hh : st.1.healthy = false := by simpa using hh
    have hnone : op.effect st.1 = none := by simp [StoreOp.effect, hh]
    rw [call_of_unhealthy hh]
    refine ensures_pure.2 ⟨⟨⟨v, hstored, hrec, hsound⟩, h.source⟩, ?_, ?_⟩
    · rw [hnone]
      rfl
    · simp [hnone]

theorem Kept.step {device : UInt8} {st : StoreState} (h : Kept device st) (a : StoreStep) :
    Kept device (st.step device a) := by
  have hp := ensures_exec (h.ensures_call a.op) a.cut
  unfold StoreState.step
  split
  · rename_i r d heq
    rw [heq] at hp
    obtain ⟨img', hd, hkept, -⟩ := hp
    rw [hd]
    exact hkept
  · rename_i img' heq
    rw [heq] at hp
    obtain ⟨v, hst, -⟩ := hp
    exact kept_of_stored hst a.entropy

theorem Kept.run {device : UInt8} {st : StoreState} (h : Kept device st) (steps : List StoreStep) :
    Kept device (st.run device steps) := by
  unfold StoreState.run
  induction steps generalizing st with
  | nil => exact h
  | cons a steps ih => exact ih (h.step a)

/-- The start of a run: a recovery that was READY, with its identities below the high-water mark. -/
theorem kept_of_recovery {device : UInt8} {entropy : Option UInt32} {img : Image}
    (hready : (reboot device entropy img).2.1 = .ready)
    (hbelow : ∀ i, ((reboot device entropy img).1.records i).Owned →
      ((reboot device entropy img).1.records i).key < (reboot device entropy img).1.allocator.metadata.floor) :
    Kept device ((reboot device entropy img).1, (reboot device entropy img).2.2) := by
  obtain ⟨img', hd, hQ⟩ := ensures_run
    (p := Store.recover entropy device) (P := fun _ => True)
    (Q := fun r img' => r.2 = .ready → Revived r.1 img' ∧ r.1.sourceDeviceId = device)
    (ensures_recover noFaults_truthful (fun _ _ => trivial) (fun s img' hrev hsrc _ _ => ⟨hrev, hsrc⟩)
      fun s status img' _ hst _ hc => absurd hc hst)
  obtain ⟨hrev, hsrc⟩ := hQ hready
  have himg : (reboot device entropy img).2.2 = img' := by
    simp only [reboot, hd, Disk.clean_data]
  rw [himg]
  have hsound : Sound (reboot device entropy img).1 img'
      ⟨(reboot device entropy img).1.records, (reboot device entropy img).1.allocator.metadata.floor⟩ :=
    Revived.sound hrev rfl hrev.floor.ge hbelow
  refine ⟨⟨_, ?_, rfl, fun _ => hsound⟩, hsrc⟩
  have hst := hsound.stored
  rw [show (reboot device entropy img).1.sourceDeviceId = device from hsrc] at hst
  exact hst

/-- After any run of operations, cuts and recoveries: an operation that is done has exactly its effect,
reports it, and is found by the recovery; an operation that is cut leaves an image on which the recovery is
READY and finds every slot as it was, or the one slot of the effect with its new record. -/
def CrashConsistent (device : UInt8) (st : StoreState) : Prop :=
  ∀ (steps : List StoreStep) (op : StoreOp) (cut : Option (PowerCut Bytes)),
    let st := StoreState.run device st steps
    match exec geometry.flash geometry.undecodable (op.call st.1) cut (Disk.clean st.2) with
    | .done r d =>
      r.1.records = StoreOp.applied st.1.records (op.effect st.1) ∧ r.2 = (op.effect st.1).isSome ∧
        RecoversTo device d.data r.1.records
    | .lost img' =>
      RecoversTo device img' st.1.records ∨
        RecoversTo device img' (StoreOp.applied st.1.records (op.effect st.1))

/-- **Crash consistency** from a READY recovery whose identities lie below the high-water mark. -/
theorem store_crash_consistent (device : UInt8) (entropy : Option UInt32) (img : Image)
    (hready : (reboot device entropy img).2.1 = .ready)
    (hbelow : ∀ i, ((reboot device entropy img).1.records i).Owned →
      ((reboot device entropy img).1.records i).key < (reboot device entropy img).1.allocator.metadata.floor) :
    CrashConsistent device ((reboot device entropy img).1, (reboot device entropy img).2.2) := by
  intro steps op cut st
  have hkept : Kept device st := (kept_of_recovery hready hbelow).run steps
  have hp := ensures_exec (hkept.ensures_call op) cut
  split
  · rename_i r d heq
    rw [heq] at hp
    obtain ⟨img', rfl, hkept', heffect, hok⟩ := hp
    obtain ⟨v, hst, hrec, -⟩ := hkept'.view
    refine ⟨heffect, hok, ?_⟩
    rw [show r.1.records = v.records from hrec]
    exact recoversTo_of_stored hst
  · rename_i img' heq
    rw [heq] at hp
    obtain ⟨v, hst, hrec⟩ := hp
    have := recoversTo_of_stored hst
    rcases hrec with hrec | hrec
    · rw [hrec] at this
      exact Or.inl this
    · rw [hrec] at this
      exact Or.inr this

/-- A button press with the shortest lifetime. -/
def buttonInput : EventInput := ⟨Family.button, 0, 60, 1, bodyOf [1]⟩

/-- Slot 0 owns the identity `(1, 1)`, and the metadata has reserved the block it is of. -/
def ownedImage : Image
  | .metadata .A => (encodeNodeMetadata ⟨1, 1, 1, 33⟩).toOption
  | .event slot .A =>
    (encodeNodeRecord (if slot.val = 0 then Store.queuedRecord 1 ⟨1, 1, 1⟩ buttonInput
      else Store.freeRecord 1)).toOption
  | _ => none

theorem reboot_ownedImage :
    (reboot 1 (some 5) ownedImage).2.1 = .ready ∧ ((reboot 1 (some 5) ownedImage).1.records 0).Owned ∧
      ∀ i, ((reboot 1 (some 5) ownedImage).1.records i).Owned →
        ((reboot 1 (some 5) ownedImage).1.records i).key < (reboot 1 (some 5) ownedImage).1.allocator.metadata.floor := by
  decide +kernel

theorem store_crash_consistent_owned :
    (reboot 1 (some 5) ownedImage).2.1 = .ready ∧ ((reboot 1 (some 5) ownedImage).1.records 0).Owned ∧
      CrashConsistent 1 ((reboot 1 (some 5) ownedImage).1, (reboot 1 (some 5) ownedImage).2.2) := by
  obtain ⟨hready, howned, hbelow⟩ := reboot_ownedImage
  exact ⟨hready, howned, store_crash_consistent 1 (some 5) ownedImage hready hbelow⟩

/-! ### Identities at the high-water mark -/

/-- Slot 0 owns the identity `(1, 1)`, and the metadata is about to reserve the block from `(1, 1)` on. -/
def staleImage : Image
  | .metadata .A => (encodeNodeMetadata ⟨1, 1, 1, 1⟩).toOption
  | .event slot .A =>
    (encodeNodeRecord (if slot.val = 0 then Store.queuedRecord 1 ⟨1, 1, 1⟩ buttonInput
      else Store.freeRecord 1)).toOption
  | _ => none

/-- The recovery accepts the image, the next creation takes `(1, 1)` again, and the recovery after it
refuses the repeated identity. -/
theorem store_reuses_identity :
    (reboot 1 (some 5) staleImage).2.1 = .ready ∧
      ¬ CrashConsistent 1 ((reboot 1 (some 5) staleImage).1, (reboot 1 (some 5) staleImage).2.2) := by
  refine ⟨by decide +kernel, fun h => ?_⟩
  obtain ⟨-, -, hrec⟩ := h [] (.enqueue buttonInput) none
  obtain ⟨s, hs, -⟩ := hrec (some 5)
  have hready : (reboot 1 (some 5) _).2.1 = Store.Status.ready := congrArg (fun r => r.2.1) hs
  revert hready
  clear hs s
  decide +kernel

end Redline.Node
