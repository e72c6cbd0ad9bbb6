import Redline.Node.Startup
import Redline.Node.Delivery
import Mathlib.Logic.Relation

/-!
# Ageing of queued Events

What the policy does to the view of a sound store.  A view evolves record by record (`Evolving`);
ageing frees no slot (`Ageing`).  One round of
`Policy.service` takes every QUEUED slot from the runtime and the record it had to those of `Serviced`: it
expires exactly when the milliseconds gathered so far reach the remaining lifetime, and otherwise what is
committed and what is left uncommitted add up (`ensures_service`).
-/

namespace Redline.Node

open Redline.Wire Redline.Records Redline.Lib

/-! ### Evolving views -/

/-- One record takes a step. -/
def PutStep (R : NodeRecord → NodeRecord → Prop) (v v' : View) : Prop :=
  ∃ slot r, R (v.records slot) r ∧ v' = v.put slot r

/-- Records take steps, one after another. -/
abbrev Evolving : View → View → Prop := Relation.ReflTransGen (PutStep Evolves)

/-- A step that leaves the slot with its Event. -/
def Ages (old new : NodeRecord) : Prop := Evolves old new ∧ new.Owned

/-- Records take steps, and no slot is freed. -/
abbrev Ageing : View → View → Prop := Relation.ReflTransGen (PutStep Ages)

theorem Ageing.put {v v' : View} (h : Ageing v v') {slot : SlotIndex} {r : NodeRecord}
    (he : Evolves (v'.records slot) r) (hn : r.Owned) : Ageing v (v'.put slot r) :=
  h.tail ⟨slot, r, ⟨he, hn⟩, rfl⟩

theorem Ageing.evolving {v v' : View} (h : Ageing v v') : Evolving v v' :=
  Relation.ReflTransGen.mono (fun _ _ ⟨slot, r, ha, hv⟩ => ⟨slot, r, ha.1, hv⟩) _ _ h

@[simp] theorem View.put_put (v : View) (slot : SlotIndex) (r r' : NodeRecord) :
    (v.put slot r).put slot r' = v.put slot r' := by
  simp [View.put]

@[simp] theorem View.put_self (v : View) (slot : SlotIndex) : v.put slot (v.records slot) = v := by
  simp [View.put]

theorem View.put_apply (v : View) (slot : SlotIndex) (r : NodeRecord) :
    (v.put slot r).records slot = r := by
  rw [View.put_records, Function.update_self]

theorem View.put_apply_ne (v : View) {slot i : SlotIndex} (h : i ≠ slot) (r : NodeRecord) :
    (v.put slot r).records i = v.records i := by
  rw [View.put_records, Function.update_of_ne h]

/-- The canonical content of two records is the same. -/
structure SameEvent (r r' : NodeRecord) : Prop where
  epoch : r'.eventEpoch = r.eventEpoch
  id : r'.eventId = r.eventId
  family : r'.family = r.family
  flags : r'.flags = r.flags
  bodyLength : r'.bodyLength = r.bodyLength
  lifetime : r'.lifetimeBudgetSeconds = r.lifetimeBudgetSeconds
  body : r'.body = r.body

theorem SameEvent.refl (r : NodeRecord) : SameEvent r r := ⟨rfl, rfl, rfl, rfl, rfl, rfl, rfl⟩

theorem SameEvent.trans {r r' r'' : NodeRecord} (h : SameEvent r r') (h' : SameEvent r' r'') : SameEvent r r'' :=
  ⟨h'.epoch.trans h.epoch, h'.id.trans h.id, h'.family.trans h.family, h'.flags.trans h.flags,
    h'.bodyLength.trans h.bodyLength, h'.lifetime.trans h.lifetime, h'.body.trans h.body⟩

theorem SameEvent.key {r r' : NodeRecord} (h : SameEvent r r') : r'.key = r.key := by
  unfold NodeRecord.key
  rw [h.epoch, h.id]

theorem owned_of_queued {r : NodeRecord} (h : r.state = .queued) : r.Owned := by
  rw [NodeRecord.Owned, h]
  decide

/-- What an owned record has kept of the record its slot held before. -/
structure Inherits (old new : NodeRecord) : Prop where
  owned : old.Owned
  event : SameEvent old new
  queued : new.state = .queued → old.state = .queued
  attempts : old.attemptsUsed.toNat ≤ new.attemptsUsed.toNat
  remaining : new.remainingActiveSeconds.toNat ≤ old.remainingActiveSeconds.toNat

theorem Inherits.refl {r : NodeRecord} (h : r.Owned) : Inherits r r := ⟨h, .refl r, id, le_rfl, le_rfl⟩

theorem Inherits.trans {r r' r'' : NodeRecord} (h : Inherits r r') (h' : Inherits r' r'') : Inherits r r'' :=
  ⟨h.owned, h.event.trans h'.event, fun hq => h.queued (h'.queued hq), h.attempts.trans h'.attempts,
    h'.remaining.trans h.remaining⟩

theorem Evolves.inherits {old new : NodeRecord} (h : Evolves old new) (hn : new.Owned) : Inherits old new := by
  have hsame : SameEvent old new := by
    cases h with
    | freed _ => exact absurd rfl hn
    | _ => exact SameEvent.mk rfl rfl rfl rfl rfl rfl rfl
  refine ⟨h.owned, hsame, fun hq => ?_, ?_, ?_⟩
  · cases h with
    | failed h => exact h
    | expired h => exact h
    | checkpoint h => exact h
    | armed h => exact h
    | freed h => cases hq
  · cases h with
    | freed _ => exact absurd rfl hn
    | armed _ hlt =>
      have hlt' : old.attemptsUsed.toNat < 5 := UInt8.lt_iff_toNat_lt.1 hlt
      simp only [NodeRecord.arm, UInt8.toNat_add, UInt8.toNat_ofNat]
      omega
    | _ => exact le_rfl
  · cases h with
    | freed _ => exact absurd rfl hn
    | checkpoint _ seconds _ hlt => exact (UInt32.lt_iff_toNat_lt.1 hlt).le
    | _ => exact le_rfl

/-- **Every owned record of an evolved view comes from the same slot.** -/
theorem Evolving.inherits {v v' : View} (h : Evolving v v') (i : SlotIndex) (hi : (v'.records i).Owned) :
    Inherits (v.records i) (v'.records i) := by
  induction h with
  | refl => exact .refl hi
  | tail _ hstep ih =>
    obtain ⟨slot, r, he, rfl⟩ := hstep
    by_cases his : i = slot
    · subst his
      rw [View.put_apply] at hi ⊢
      exact (ih he.owned).trans (he.inherits hi)
    · rw [View.put_apply_ne _ his] at hi ⊢
      exact ih hi

/-- Without a freed slot, what was owned stays owned. -/
theorem Ageing.owned {v v' : View} (h : Ageing v v') {i : SlotIndex} (hi : (v.records i).Owned) :
    (v'.records i).Owned := by
  induction h with
  | refl => exact hi
  | tail _ hstep ih =>
    obtain ⟨slot, r, hr, rfl⟩ := hstep
    by_cases his : i = slot
    · subst his
      rw [View.put_apply]
      exact hr.2
    · rw [View.put_apply_ne _ his]
      exact ih

theorem Evolving.floor {v v' : View} (h : Evolving v v') : v'.floor = v.floor := by
  induction h with
  | refl => rfl
  | tail _ hstep ih =>
    obtain ⟨slot, r, -, rfl⟩ := hstep
    exact ih

/-! ### Mutations whose guard is met -/

section Mutated

variable {α β : Type} {s : Store} {img : Image} {v : View} {P : Image → Prop} {Q : β → Image → Prop}

/-- A mutation whose guard is met is done. -/
theorem ensures_mutated {p : StorageM (Store × α)} {ok : α} {slot : SlotIndex} {guard : NodeRecord → Prop}
    {g : NodeRecord → NodeRecord}
    (hp : geometry.Ensures img p (fun r img' => Mutates s img v slot guard g (r.2 = ok) r.1 img')
      (MutatesOrNot s.sourceDeviceId v slot guard g))
    (hg : guard (v.records slot)) {f : Store × α → StorageM β}
    (hold : ∀ img', Stored s.sourceDeviceId img' v → P img')
    (hnew : ∀ img', Stored s.sourceDeviceId img' (v.put slot (g (v.records slot))) → P img')
    (hf : ∀ s' img', Sound s' img' (v.put slot (g (v.records slot))) → s'.sourceDeviceId = s.sourceDeviceId →
      geometry.Ensures img' (f (s', ok)) Q P) :
    geometry.Ensures img (p >>= f) Q P := by
  refine ensures_bind (ensures_mono ?_ ?_ hp)
  · rintro ⟨s', a⟩ img' (⟨-, -, -, hno⟩ | ⟨rfl, hs, -, hsound, hsrc⟩)
    · exact absurd hg (hno slot.isLt)
    · exact hf s' img' hsound hsrc
  · rintro img' (hst | ⟨hs, -, hst⟩)
    · exact hold img' hst
    · exact hnew img' hst

end Mutated

theorem queuedRecord_some {s : Store} {img : Image} {v : View} (h : Sound s img v) {slot : SlotIndex}
    (hq : (v.records slot).state = .queued) : Policy.queuedRecord? s slot = some (v.records slot) := by
  unfold Policy.queuedRecord?
  rw [h.recordAt]
  simp [hq]

theorem queuedRecord_none {s : Store} {img : Image} {v : View} (h : Sound s img v) {slot : SlotIndex}
    (hq : (v.records slot).state ≠ .queued) : Policy.queuedRecord? s slot = none := by
  unfold Policy.queuedRecord?
  rw [h.recordAt]
  simp [hq]

/-- The remaining seconds less a checkpoint. -/
theorem toNat_sub_checkpoint {seconds : UInt32} (h : seconds > checkpointSeconds) :
    (seconds - checkpointSeconds).toNat = seconds.toNat - 60 ∧ 60 < seconds.toNat := by
  have hlt : 60 < seconds.toNat := UInt32.lt_iff_toNat_lt.1 h
  have hbound := seconds.toNat_lt
  refine ⟨?_, hlt⟩
  simp only [checkpointSeconds, UInt32.toNat_sub, UInt32.toNat_ofNat]
  omega

theorem checkpointable {r : NodeRecord} (hq : r.state = .queued)
    (hgt : r.remainingActiveSeconds > checkpointSeconds) :
    Checkpointable (r.remainingActiveSeconds - checkpointSeconds) r := by
  obtain ⟨hsub, hlt⟩ := toNat_sub_checkpoint hgt
  refine ⟨hq, fun hz => ?_, ?_⟩
  · rw [hz] at hsub
    have hsub : 0 = r.remainingActiveSeconds.toNat - 60 := hsub
    omega
  · rw [UInt32.lt_iff_toNat_lt, hsub]
    omega

/-- What a record still has to live. -/
def NodeRecord.remainingMilliseconds (r : NodeRecord) : ℕ := r.remainingActiveSeconds.toNat * 1000

theorem remainingMilliseconds_checkpoint {r : NodeRecord} (h : r.remainingActiveSeconds > checkpointSeconds) :
    NodeRecord.remainingMilliseconds
      (NodeRecord.checkpoint (r.remainingActiveSeconds - checkpointSeconds) r) + checkpointMilliseconds =
        NodeRecord.remainingMilliseconds r := by
  obtain ⟨hsub, hlt⟩ := toNat_sub_checkpoint h
  have hrem : (NodeRecord.checkpoint (r.remainingActiveSeconds - checkpointSeconds) r).remainingActiveSeconds.toNat =
      r.remainingActiveSeconds.toNat - 60 := hsub
  unfold NodeRecord.remainingMilliseconds
  rw [hrem, show checkpointMilliseconds = 60 * 1000 from rfl, ← Nat.add_mul, Nat.sub_add_cancel hlt.le]

/-! ### The loop of one slot -/

/-- The record a loop of `service` ends with, and the milliseconds it leaves uncommitted; none for an
expired one. -/
structure Settled (r : NodeRecord) (uncommitted : ℕ) (r' : NodeRecord) (left : Option ℕ) : Prop where
  event : SameEvent r r'
  attempts : r'.attemptsUsed = r.attemptsUsed
  remaining : r'.remainingActiveSeconds.toNat ≤ r.remainingActiveSeconds.toNat
  expired : left = none → r'.state = .expired ∧ NodeRecord.remainingMilliseconds r ≤ uncommitted
  kept : ∀ u, left = some u → r'.state = .queued ∧ uncommitted < NodeRecord.remainingMilliseconds r ∧
    NodeRecord.remainingMilliseconds r' + uncommitted = NodeRecord.remainingMilliseconds r + u ∧
    u < checkpointMilliseconds ∧ u < NodeRecord.remainingMilliseconds r'

/-- A round of the loop that commits a checkpoint. -/
theorem Settled.checkpoint {r r' : NodeRecord} {uncommitted : ℕ} {left : Option ℕ}
    (hgt : r.remainingActiveSeconds > checkpointSeconds) (hge : checkpointMilliseconds ≤ uncommitted)
    (h : Settled (NodeRecord.checkpoint (r.remainingActiveSeconds - checkpointSeconds) r)
      (uncommitted - checkpointMilliseconds) r' left) : Settled r uncommitted r' left := by
  obtain ⟨hsub, hlt⟩ := toNat_sub_checkpoint hgt
  have hms := remainingMilliseconds_checkpoint hgt
  obtain ⟨hevent, hatt, hle, hexp, hkept⟩ := h
  refine ⟨⟨hevent.epoch, hevent.id, hevent.family, hevent.flags, hevent.bodyLength, hevent.lifetime,
    hevent.body⟩, hatt, ?_, fun hn => ?_, fun u hu => ?_⟩
  · exact hle.trans (hsub.trans_le (Nat.sub_le _ _))
  · obtain ⟨h1, h2⟩ := hexp hn
    exact ⟨h1, by omega⟩
  · obtain ⟨h1, h2, h3, h4, h5⟩ := hkept u hu
    exact ⟨h1, by omega, by omega, h4, h5⟩

theorem Settled.expire {r : NodeRecord} {uncommitted : ℕ} (hover : NodeRecord.remainingMilliseconds r ≤ uncommitted) :
    Settled r uncommitted (NodeRecord.expire r) none :=
  ⟨⟨rfl, rfl, rfl, rfl, rfl, rfl, rfl⟩, rfl, le_rfl, fun _ => ⟨rfl, hover⟩, fun u hu => (by cases hu)⟩

/-- Neither a checkpoint nor the end of the lifetime is due. -/
theorem Settled.keep {r : NodeRecord} {uncommitted : ℕ} (hq : r.state = .queued)
    (hdue : ¬ (r.remainingActiveSeconds > checkpointSeconds ∧ uncommitted ≥ checkpointMilliseconds))
    (hover : uncommitted < NodeRecord.remainingMilliseconds r) : Settled r uncommitted r (some uncommitted) := by
  refine ⟨.refl _, rfl, le_rfl, fun hn => (by cases hn), fun u hu => ?_⟩
  cases hu
  refine ⟨hq, hover, rfl, ?_, hover⟩
  by_contra hge
  have hle : ¬ r.remainingActiveSeconds > checkpointSeconds := fun hgt => hdue ⟨hgt, Nat.le_of_not_lt hge⟩
  have hle : r.remainingActiveSeconds.toNat ≤ 60 := UInt32.le_iff_toNat_le.1 (UInt32.not_lt.1 hle)
  have hms : NodeRecord.remainingMilliseconds r ≤ checkpointMilliseconds := Nat.mul_le_mul_right 1000 hle
  omega

section Settle

variable {s : Store} {img : Image} {v : View} {P : Image → Prop}

/-- **The loop of one slot.** -/
theorem ensures_settle (h : Sound s img v) {slot : SlotIndex} (hq : (v.records slot).state = .queued)
    {fuel uncommitted : ℕ} (hfuel : uncommitted / checkpointMilliseconds < fuel)
    {Q : Store × Except Policy.Status (Option ℕ) → Image → Prop}
    (hP : ∀ img' v', Ageing v v' → Stored s.sourceDeviceId img' v' → P img')
    (hQ : ∀ s' img' r' left, Settled (v.records slot) uncommitted r' left → Ageing v (v.put slot r') →
      Sound s' img' (v.put slot r') → s'.sourceDeviceId = s.sourceDeviceId → Q (s', .ok left) img') :
    geometry.Ensures img (Policy.settle s slot fuel uncommitted) Q P := by
  induction fuel generalizing s img v uncommitted with
  | zero => exact absurd hfuel (Nat.not_lt_zero _)
  | succ fuel ih =>
    unfold Policy.settle
    rw [queuedRecord_some h hq]
    dsimp only
    split
    · -- a checkpoint is due
      rename_i hdue
      obtain ⟨hgt, hge⟩ := hdue
      have hc := checkpointable hq hgt
      set r1 := NodeRecord.checkpoint ((v.records slot).remainingActiveSeconds - checkpointSeconds)
        (v.records slot) with hr1
      have he : Evolves (v.records slot) r1 := .checkpoint hc.1 _ hc.2.1 hc.2.2
      have hev : Ageing v (v.put slot r1) := Ageing.put .refl he (owned_of_queued hq)
      refine ensures_mutated (ensures_checkpointRemaining h slot _) hc
        (fun img' hst => hP img' v .refl hst) (fun img' hst => hP img' _ hev hst) ?_
      intro s' img' hsound hsrc
      simp only [ne_eq, not_true_eq_false, if_false]
      refine ih hsound ?_ ?_ ?_ ?_
      · rw [View.put_apply]
        exact hq
      · have hpos : 0 < checkpointMilliseconds := by decide
        rw [Nat.div_eq_sub_div hpos hge] at hfuel
        exact Nat.lt_of_succ_lt_succ hfuel
      · intro img'' v'' hev'' hst
        rw [hsrc] at hst
        exact hP img'' v'' (hev.trans hev'') hst
      · intro s'' img'' r' left hset hev'' hsound'' hsrc''
        rw [View.put_put] at hev'' hsound''
        rw [View.put_apply] at hset
        exact hQ s'' img'' r' left (Settled.checkpoint hgt hge hset) (hev.trans hev'') hsound''
          (hsrc''.trans hsrc)
    · rename_i hdue
      split
      · -- the lifetime has run out
        rename_i hover
        have he : Evolves (v.records slot) (NodeRecord.expire (v.records slot)) := .expired hq
        have hev : Ageing v (v.put slot (NodeRecord.expire (v.records slot))) :=
          Ageing.put .refl he NodeState.noConfusion
        refine ensures_mutated (ensures_markExpired h slot) hq
          (fun img' hst => hP img' v .refl hst) (fun img' hst => hP img' _ hev hst) ?_
        intro s' img' hsound hsrc
        simp only [ne_eq, not_true_eq_false, if_false]
        exact ensures_pure.2 (hQ s' img' _ none (.expire hover) hev hsound hsrc)
      · rename_i hover
        have hover : uncommitted < NodeRecord.remainingMilliseconds (v.records slot) := Nat.lt_of_not_le hover
        refine ensures_pure.2 (hQ s img (v.records slot) (some uncommitted) (.keep hq hdue hover) ?_ ?_ rfl)
        · rw [View.put_self]
        · rw [View.put_self]
          exact h

/-! ### One round of `service` -/

/-- The milliseconds a slot has gathered at the time `now`. -/
def SlotRuntime.gathered (rt : SlotRuntime) (now : UInt32) : ℕ :=
  rt.uncommittedMilliseconds + (now - rt.baselineMilliseconds).toNat

/-- What one round makes of the runtime and the record of a slot. -/
inductive Serviced (now : UInt32) (rt : SlotRuntime) (r : NodeRecord) : SlotRuntime → NodeRecord → Prop
  | idle (hq : r.state ≠ .queued) : Serviced now rt r default r
  | untracked (hq : r.state = .queued) (ht : rt.tracked = false) : Serviced now rt r ⟨true, now, 0⟩ r
  | expired (hq : r.state = .queued) (ht : rt.tracked = true) {r' : NodeRecord}
      (hs : Settled r (rt.gathered now) r' none) : Serviced now rt r default r'
  | kept (hq : r.state = .queued) (ht : rt.tracked = true) {r' : NodeRecord} {u : ℕ}
      (hs : Settled r (rt.gathered now) r' (some u)) : Serviced now rt r ⟨true, now, u⟩ r'

theorem ensures_serviceSlot (h : Sound s img v) {p : Policy} {slot : SlotIndex} {now : UInt32}
    {Q : Store × Policy × Policy.Status → Image → Prop}
    (hP : ∀ img' v', Ageing v v' → Stored s.sourceDeviceId img' v' → P img')
    (hQ : ∀ s' img' rt' r', Serviced now (p.runtime slot) (v.records slot) rt' r' → Ageing v (v.put slot r') →
      Sound s' img' (v.put slot r') → s'.sourceDeviceId = s.sourceDeviceId →
      Q (s', p.setRuntime slot rt', .ready) img') :
    geometry.Ensures img (p.serviceSlot s slot now) Q P := by
  unfold Policy.serviceSlot
  dsimp only
  have hsame : Ageing v (v.put slot (v.records slot)) ∧ Sound s img (v.put slot (v.records slot)) := by
    rw [View.put_self]
    exact ⟨.refl, h⟩
  by_cases hq : (v.records slot).state = .queued
  swap
  · rw [queuedRecord_none h hq]
    simp only [Option.isNone_none, if_true]
    exact ensures_pure.2 (hQ s img _ _ (.idle hq) hsame.1 hsame.2 rfl)
  rw [queuedRecord_some h hq]
  simp only [Option.isNone_some, Bool.false_eq_true, if_false]
  cases ht : (p.runtime slot).tracked with
  | false =>
    simp only [Bool.not_false, if_true]
    exact ensures_pure.2 (hQ s img _ _ (.untracked hq ht) hsame.1 hsame.2 rfl)
  | true =>
    simp only [Bool.not_true, Bool.false_eq_true, if_false]
    refine ensures_bind (ensures_settle h hq (Nat.lt_succ_self _) hP ?_)
    intro s' img' r' left hset hev hsound hsrc
    cases left with
    | none => exact ensures_pure.2 (hQ s' img' _ _ (.expired hq ht hset) hev hsound hsrc)
    | some u => exact ensures_pure.2 (hQ s' img' _ _ (.kept hq ht hset) hev hsound hsrc)

/-- The slots in the list have been serviced, the others are as they were. -/
structure Round (now : UInt32) (slots : List SlotIndex) (p : Policy) (v : View) (p' : Policy) (v' : View) : Prop where
  serviced : ∀ i ∈ slots, Serviced now (p.runtime i) (v.records i) (p'.runtime i) (v'.records i)
  others : ∀ i, i ∉ slots → p'.runtime i = p.runtime i ∧ v'.records i = v.records i
  ready : p'.ready = p.ready
  ageing : Ageing v v'

/-- A slot is serviced, and then the rest, which leaves it alone. -/
theorem Round.cons {now : UInt32} {slot : SlotIndex} {rest : List SlotIndex} {p p' : Policy} {v v' : View}
    {rt : SlotRuntime} {r : NodeRecord} (h : Round now rest (p.setRuntime slot rt) (v.put slot r) p' v')
    (hslot : slot ∉ rest) (hserviced : Serviced now (p.runtime slot) (v.records slot) rt r)
    (hev : Ageing v (v.put slot r)) : Round now (slot :: rest) p v p' v' := by
  have hother : ∀ i, i ≠ slot → (p.setRuntime slot rt).runtime i = p.runtime i := fun i hi =>
    Function.update_of_ne hi _ _
  refine ⟨fun i hi => ?_, fun i hi => ?_, h.ready, hev.trans h.ageing⟩
  · rcases List.mem_cons.1 hi with rfl | hi
    · obtain ⟨h1, h2⟩ := h.others i hslot
      rw [h1, h2, View.put_apply]
      simpa [Policy.setRuntime] using hserviced
    · have hne : i ≠ slot := fun he => hslot (he ▸ hi)
      have := h.serviced i hi
      rwa [hother i hne, View.put_apply_ne _ hne] at this
  · rw [List.mem_cons, not_or] at hi
    obtain ⟨h1, h2⟩ := h.others i hi.2
    rw [h1, h2, hother i hi.1, View.put_apply_ne _ hi.1]
    exact ⟨rfl, rfl⟩

theorem ensures_serviceSlots (h : Sound s img v) {p : Policy} {slots : List SlotIndex} (hnodup : slots.Nodup)
    {now : UInt32} {Q : Store × Policy × Policy.Status → Image → Prop}
    (hP : ∀ img' v', Ageing v v' → Stored s.sourceDeviceId img' v' → P img')
    (hQ : ∀ s' img' p' v', Round now slots p v p' v' → Sound s' img' v' →
      s'.sourceDeviceId = s.sourceDeviceId → Q (s', p', .ready) img') :
    geometry.Ensures img (p.serviceSlots s now slots) Q P := by
  induction slots generalizing s img v p with
  | nil =>
    unfold Policy.serviceSlots
    exact ensures_pure.2 (hQ s img p v ⟨by simp, fun _ _ => ⟨rfl, rfl⟩, rfl, .refl⟩ h rfl)
  | cons slot rest ih =>
    obtain ⟨hslot, hrest⟩ := List.nodup_cons.1 hnodup
    unfold Policy.serviceSlots
    refine ensures_bind (ensures_serviceSlot h hP ?_)
    intro s' img' rt' r' hser hev hsound hsrc
    simp only [ne_eq, not_true_eq_false, if_false]
    refine ih hsound hrest (fun img'' v'' hev'' hst => hP img'' v'' (hev.trans hev'') (by rwa [hsrc] at hst)) ?_
    intro s'' img'' p'' v'' hround hsound'' hsrc''
    exact hQ s'' img'' p'' v'' (hround.cons hslot hser hev) hsound'' (hsrc''.trans hsrc)

/-- A whole round: every slot has been serviced. -/
structure FullRound (now : UInt32) (p : Policy) (v : View) (p' : Policy) (v' : View) : Prop where
  serviced : ∀ i, Serviced now (p.runtime i) (v.records i) (p'.runtime i) (v'.records i)
  ready : p'.ready = true
  ageing : Ageing v v'

/-- **`service`**: on a sound store it succeeds and services every slot. -/
theorem ensures_service (h : Sound s img v) {p : Policy} (hp : p.ready = true) {now : UInt32}
    {Q : Store × Policy × Policy.Status → Image → Prop}
    (hP : ∀ img' v', Ageing v v' → Stored s.sourceDeviceId img' v' → P img')
    (hQ : ∀ s' img' p' v', FullRound now p v p' v' → Sound s' img' v' →
      s'.sourceDeviceId = s.sourceDeviceId → Q (s', p', .ready) img') :
    geometry.Ensures img (p.service s now) Q P := by
  unfold Policy.service
  simp only [hp, h.healthy, Bool.not_true, Bool.or_self, Bool.false_eq_true, if_false]
  refine ensures_serviceSlots h (List.nodup_finRange 8) hP ?_
  intro s' img' p' v' hround hsound hsrc
  exact hQ s' img' p' v' ⟨fun i => hround.serviced i (List.mem_finRange i), hround.ready.trans hp,
    hround.ageing⟩ hsound hsrc

/-! ### The attempt -/

/-- What `Policy.armAttempt` leaves: a full round, and on success the record of the slot with one more
attempt. -/
def Arms (now : UInt32) (p : Policy) (v : View) (slot : ℕ) (result : AttemptResult) (p' : Policy) (v' : View) : Prop :=
  ∃ p1 v1, FullRound now p v p1 v1 ∧ p'.runtime = p1.runtime ∧
    ((v' = v1 ∧ result ≠ .armed) ∨
      ∃ hs : slot < 8, (v1.records ⟨slot, hs⟩).state = .queued ∧
        (v1.records ⟨slot, hs⟩).attemptsUsed < maxAttempts ∧ (p'.runtime ⟨slot, hs⟩).tracked = true ∧
        (p'.runtime ⟨slot, hs⟩).uncommittedMilliseconds <
          NodeRecord.remainingMilliseconds (v1.records ⟨slot, hs⟩) ∧
        v' = v1.put ⟨slot, hs⟩ (NodeRecord.arm (v1.records ⟨slot, hs⟩)) ∧ result = .armed ∧ p'.ready = true)

theorem ensures_policyArmAttempt (h : Sound s img v) {p : Policy} (hp : p.ready = true) {slot : ℕ} {now : UInt32}
    {Q : Store × Policy × AttemptResult → Image → Prop}
    (hP : ∀ img' v', Ageing v v' → Stored s.sourceDeviceId img' v' → P img')
    (hQ : ∀ s' img' p' v' result, Arms now p v slot result p' v' → Sound s' img' v' →
      s'.sourceDeviceId = s.sourceDeviceId → Q (s', p', result) img') :
    geometry.Ensures img (p.armAttempt s slot now) Q P := by
  unfold Policy.armAttempt
  simp only [hp, Bool.not_true, Bool.false_eq_true, if_false]
  refine ensures_bind (ensures_service h hp hP ?_)
  intro s1 img1 p1 v1 hround hsound hsrc
  have hrefused : ∀ p2 result, p2.runtime = p1.runtime → result ≠ .armed →
      geometry.Ensures img1 (pure (s1, p2, result)) Q P := fun p2 result hp hr =>
    ensures_pure.2 (hQ s1 img1 p2 v1 result ⟨p1, v1, hround, hp, Or.inl ⟨rfl, hr⟩⟩ hsound hsrc)
  simp only [ne_eq, not_true_eq_false, if_false]
  split
  · exact hrefused _ _ rfl (by simp)
  · rename_i hlt
    have hs : slot < 8 := not_not.1 hlt
    rw [show s1.recordAt slot = some (v1.records ⟨slot, hs⟩) from hsound.recordAt ⟨slot, hs⟩]
    dsimp only
    split
    · exact hrefused _ _ rfl (by simp)
    · split
      · exact hrefused _ _ rfl (by simp)
      · rename_i hq
        have hq := not_not.1 hq
        split
        · exact hrefused _ _ rfl (by simp)
        · rename_i hel
          have hel : (p1.runtime ⟨slot, hs⟩).tracked = true ∧ (p1.runtime ⟨slot, hs⟩).uncommittedMilliseconds <
              NodeRecord.remainingMilliseconds (v1.records ⟨slot, hs⟩) := by
            simpa [Policy.eligible, hs, hround.ready, hsound.healthy, queuedRecord_some hsound hq,
              NodeRecord.remainingMilliseconds] using hel
          refine ensures_bind (ensures_mono ?_ ?_ (ensures_armAttempt hsound slot))
          · rintro ⟨s2, attempt⟩ img2 (⟨hno, rfl, rfl, -⟩ | ⟨rfl, hs', hg, hsound2, hsrc2⟩)
            · cases attempt with
              | armed => exact absurd rfl hno
              | exhausted => exact hrefused _ _ rfl (by simp)
              | invalidSlot => exact hrefused _ _ rfl (by simp)
              | notQueued => exact hrefused _ _ rfl (by simp)
              | storageFailure => exact hrefused _ _ rfl (by simp)
              | degraded => exact hrefused _ _ rfl (by simp)
            · exact ensures_pure.2 (hQ s2 img2 p1 _ .armed ⟨p1, v1, hround, rfl, Or.inr ⟨hs, hg.1, hg.2, hel.1,
                hel.2, rfl, rfl, hround.ready⟩⟩ hsound2 (hsrc2.trans hsrc))
          · rintro img2 (hst | ⟨hs', hg, hst⟩)
            · exact hP img2 v1 hround.ageing (by rwa [hsrc] at hst)
            · exact hP img2 _ (hround.ageing.put (.armed hg.1 hg.2) (owned_of_queued hg.1)) (by rwa [hsrc] at hst)

/-! ### Recovery -/

/-- What the recovery makes of a record: a QUEUED one loses a checkpoint, or expires if it has no more left. -/
inductive Debited (r : NodeRecord) : NodeRecord → Prop
  | idle (hq : r.state ≠ .queued) : Debited r r
  | expired (hq : r.state = .queued) (hle : r.remainingActiveSeconds ≤ checkpointSeconds) :
      Debited r (NodeRecord.expire r)
  | checkpoint (hq : r.state = .queued) (hgt : r.remainingActiveSeconds > checkpointSeconds) :
      Debited r (NodeRecord.checkpoint (r.remainingActiveSeconds - checkpointSeconds) r)

theorem ensures_debitSlot (h : Sound s img v) {slot : SlotIndex} {Q : Store × MutationStatus → Image → Prop}
    (hP : ∀ img' v', Ageing v v' → Stored s.sourceDeviceId img' v' → P img')
    (hQ : ∀ s' img' r', Debited (v.records slot) r' → Ageing v (v.put slot r') → Sound s' img' (v.put slot r') →
      s'.sourceDeviceId = s.sourceDeviceId → Q (s', .ok) img') :
    geometry.Ensures img (Policy.debitSlot s slot) Q P := by
  unfold Policy.debitSlot
  by_cases hq : (v.records slot).state = .queued
  swap
  · rw [queuedRecord_none h hq]
    refine ensures_pure.2 (hQ s img _ (.idle hq) ?_ ?_ rfl) <;> rw [View.put_self]
    exact h
  rw [queuedRecord_some h hq]
  dsimp only
  split
  · rename_i hle
    have hev := Ageing.put (.refl : Ageing v v) (.expired hq) NodeState.noConfusion
    rw [← Prog.bind_pure' (s.markExpired slot)]
    refine ensures_mutated (ensures_markExpired h slot) hq (fun img' hst => hP img' v .refl hst)
      (fun img' hst => hP img' _ hev hst) fun s' img' hsound hsrc => ?_
    exact ensures_pure.2 (hQ s' img' _ (.expired hq hle) hev hsound hsrc)
  · rename_i hgt
    have hgt := UInt32.not_le.1 hgt
    have hc := checkpointable hq hgt
    have hev := Ageing.put (.refl : Ageing v v) (.checkpoint hc.1 _ hc.2.1 hc.2.2)
      (owned_of_queued hq)
    rw [← Prog.bind_pure' (s.checkpointRemaining slot _)]
    refine ensures_mutated (ensures_checkpointRemaining h slot _) hc (fun img' hst => hP img' v .refl hst)
      (fun img' hst => hP img' _ hev hst) fun s' img' hsound hsrc => ?_
    exact ensures_pure.2 (hQ s' img' _ (.checkpoint hq hgt) hev hsound hsrc)

theorem ensures_debitSlots (h : Sound s img v) {slots : List SlotIndex} (hnodup : slots.Nodup)
    {Q : Store × Bool → Image → Prop}
    (hP : ∀ img' v', Ageing v v' → Stored s.sourceDeviceId img' v' → P img')
    (hQ : ∀ s' img' v', (∀ i ∈ slots, Debited (v.records i) (v'.records i)) →
      (∀ i, i ∉ slots → v'.records i = v.records i) → Ageing v v' → Sound s' img' v' →
      s'.sourceDeviceId = s.sourceDeviceId → Q (s', true) img') :
    geometry.Ensures img (Policy.debitSlots s slots) Q P := by
  induction slots generalizing s img v with
  | nil =>
    unfold Policy.debitSlots
    exact ensures_pure.2 (hQ s img v (by simp) (fun _ _ => rfl) .refl h rfl)
  | cons slot rest ih =>
    obtain ⟨hslot, hrest⟩ := List.nodup_cons.1 hnodup
    unfold Policy.debitSlots
    refine ensures_bind (ensures_debitSlot h hP ?_)
    intro s' img' r' hdeb hev hsound hsrc
    simp only [ne_eq, not_true_eq_false, if_false]
    refine ih hsound hrest (fun img'' v'' hev'' hst => hP img'' v'' (hev.trans hev'') (by rwa [hsrc] at hst)) ?_
    intro s'' img'' v'' hin hout hev'' hsound'' hsrc''
    refine hQ s'' img'' v'' (fun i hi => ?_) (fun i hi => ?_) (hev.trans hev'') hsound'' (hsrc''.trans hsrc)
    · rcases List.mem_cons.1 hi with rfl | hi
      · rw [hout i hslot, View.put_apply]
        exact hdeb
      · have hne : i ≠ slot := fun he => hslot (he ▸ hi)
        have := hin i hi
        rwa [View.put_apply_ne _ hne] at this
    · rw [List.mem_cons, not_or] at hi
      rw [hout i hi.2, View.put_apply_ne _ hi.1]

/-- What `Policy.recover` leaves: every QUEUED record debited, and tracked from now on. -/
structure PolicyRecovered (now : UInt32) (v : View) (p' : Policy) (v' : View) : Prop where
  debited : ∀ i, Debited (v.records i) (v'.records i)
  tracked : ∀ i, (v'.records i).state = .queued → p'.runtime i = ⟨true, now, 0⟩
  ready : p'.ready = true
  ageing : Ageing v v'

theorem ensures_policyRecover (h : Sound s img v) {now : UInt32} {Q : Store × Policy × Policy.Status → Image → Prop}
    (hP : ∀ img' v', Ageing v v' → Stored s.sourceDeviceId img' v' → P img')
    (hQ : ∀ s' img' p' v', PolicyRecovered now v p' v' → Sound s' img' v' →
      s'.sourceDeviceId = s.sourceDeviceId → Q (s', p', .ready) img') :
    geometry.Ensures img (Policy.recover s now) Q P := by
  unfold Policy.recover
  simp only [h.healthy, Bool.not_true, Bool.false_eq_true, if_false]
  refine ensures_bind (ensures_debitSlots h (List.nodup_finRange 8) hP ?_)
  intro s' img' v' hdeb _ hev hsound hsrc
  simp only [Bool.not_true, Bool.false_eq_true, if_false]
  refine ensures_pure.2 (hQ s' img' _ v' ⟨fun i => hdeb i (List.mem_finRange i), fun i hq => ?_, rfl, hev⟩ hsound hsrc)
  simp [Policy.initializeTrackedSlots, queuedRecord_some hsound hq]

end Settle

end Redline.Node
