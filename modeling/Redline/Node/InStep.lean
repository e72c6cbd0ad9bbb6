import Redline.Node.AnyStorage
import Redline.Node.Fifo
import Redline.Lib.Run

/-!
# The delivery controller and its store

The controller keeps the number of a slot and a phase, while the policy, new Events and the reclamation of terminal
records change the store.  `Attends` says how the phase and the record of the slot belong together, one case for each
kind of phase, and `Steady` adds the store in service.  Each call of a usable controller ends unusable or `Steady`,
whatever the storage answers, so a controller that has been started stays in step with its store (`delivery_inStep`).
-/

namespace Redline.Node

open Redline.Wire Redline.Records Redline.Lib

/-! ### What is asked of a controller -/

/-- The table that the source indexes with the number of attempts less one. -/
def backoffTable : List UInt32 := [1000, 2000, 4000, 8000]

structure InStep (n : Ram) : Prop where
  /-- The active Event is QUEUED and the head of the queue. -/
  head : n.controller.active = true →
    n.controller.state ∈ [RuntimeState.queued, .ready, .tx, .waitAdmission, .backoff] →
    ∃ slot : SlotIndex, n.controller.activeSlot = slot.val ∧ n.store.queuedAt 0 = some slot ∧
      ∃ r, n.store.recordAt slot = some r ∧ r.state = .queued
  attempts : n.controller.state ∈ [RuntimeState.tx, .waitAdmission, .backoff] →
    ∃ r, n.record = some r ∧ 1 ≤ r.attemptsUsed.toNat ∧ r.attemptsUsed.toNat ≤ 5
  /-- The backoff comes from the table, with a jitter. -/
  backoff : n.controller.state = .backoff → ∃ r base, ∃ jitter : UInt16, n.record = some r ∧
    backoffTable[r.attemptsUsed.toNat - 1]? = some base ∧ jitter ≤ maxBackoffJitterMilliseconds ∧
    n.controller.deadlineDuration = base + jitter.toUInt32
  failed : n.controller.active = true →
    (n.controller.state = .failed ↔ ∃ r, n.record = some r ∧ r.state = .failed)
  expired : n.controller.active = true →
    (n.controller.state = .expired ↔ ∃ r, n.record = some r ∧ r.state = .expired)
  prepared : n.controller.state ≠ .txPrepare
  /-- The index lists the QUEUED slots, each once, in the order of their identities. -/
  index : Indexed n.store

/-- The calls between two starts. -/
def Call.delivers : Call → Bool
  | .recoverStore _ | .recoverController | .boot _ => false
  | .reclaimTerminals withController => withController
  | _ => true

/-! ### The head of the queue -/

/-- The QUEUED record with the least identity. -/
structure Head (v : View) (slot : SlotIndex) : Prop where
  queued : (v.records slot).state = .queued
  least : ∀ j, (v.records j).state = .queued → (v.records slot).key ≤ (v.records j).key

theorem Shaped.head_of_queuedAt {s : Store} {v : View} (h : Shaped s v) {slot : SlotIndex}
    (hslot : s.queuedAt 0 = some slot) : Head v slot := by
  obtain ⟨hq, hleast⟩ := h.indexed.head_le hslot
  rw [h.records] at hq hleast
  exact ⟨hq, hleast⟩

theorem Shaped.queuedAt_of_head {s : Store} {v : View} (h : Shaped s v) {slot : SlotIndex} (hhead : Head v slot) :
    s.queuedAt 0 = some slot := by
  have hmem : slot ∈ s.queue := (h.indexed.mem slot).2 (by rw [h.records]; exact hhead.queued)
  cases hqueue : s.queue with
  | nil => simp [hqueue] at hmem
  | cons first rest =>
    have hfirst : s.queuedAt 0 = some first := by simp [Store.queuedAt, hqueue]
    rw [hfirst, Option.some.injEq]
    rw [hqueue] at hmem
    rcases List.mem_cons.1 hmem with rfl | hmem
    · rfl
    · -- a later entry has a greater identity
      have hlt := (List.pairwise_cons.1 (hqueue ▸ h.indexed.sorted)).1 slot hmem
      have hle := hhead.least first (h.head_of_queuedAt hfirst).queued
      rw [h.records] at hlt
      omega

/-- Records evolve, and the head stays QUEUED. -/
theorem Head.evolving {v v' : View} {slot : SlotIndex} (h : Head v slot) (hev : Evolving v v')
    (hq : (v'.records slot).state = .queued) : Head v' slot := by
  refine ⟨hq, fun j hj => ?_⟩
  have hslot := hev.inherits slot (owned_of_queued hq)
  have hother := hev.inherits j (owned_of_queued hj)
  rw [hslot.event.key, hother.event.key]
  exact h.least j (hother.queued hj)

/-- A new Event has a greater identity than the head. -/
theorem Head.created {v : View} {slot new : SlotIndex} {identity : Identity} {input : EventInput} (h : Head v slot)
    (hok : v.Ok) (hfree : (v.records new).state = .free) (hfloor : v.floor ≤ key identity.epoch identity.id) :
    Head (v.created new identity input) slot := by
  have hne : slot ≠ new := by
    rintro rfl
    rw [h.queued] at hfree
    cases hfree
  have hsame : (v.created new identity input).records slot = v.records slot := Function.update_of_ne hne _ _
  refine ⟨by rw [hsame]; exact h.queued, fun j hj => ?_⟩
  rw [hsame]
  by_cases hj' : j = new
  · subst hj'
    have hnew : (v.created j identity input).records j =
        Store.queuedRecord ((v.records j).generation + 1) identity input := Function.update_self _ _ _
    have hlt := hok.below slot (owned_of_queued h.queued)
    rw [hnew]
    exact le_trans (Nat.le_of_lt (lt_of_lt_of_le hlt hfloor)) le_rfl
  · have hother : (v.created new identity input).records j = v.records j := Function.update_of_ne hj' _ _
    rw [hother] at hj ⊢
    exact h.least j hj

/-! ### The phase and the record -/

/-- The phases of an Event that is QUEUED. -/
def RuntimeState.live : RuntimeState → Bool
  | .queued | .ready | .txPrepare | .tx | .waitAdmission | .backoff => true
  | .released | .failed | .expired => false

/-- The phases after an attempt has been armed. -/
def RuntimeState.tried : RuntimeState → Bool
  | .tx | .waitAdmission | .backoff => true
  | _ => false

/-- The controller waits as long as the table says, and a jitter. -/
def BacksOff (c : Controller) (r : NodeRecord) : Prop :=
  ∃ base, ∃ jitter : UInt16, backoffTable[r.attemptsUsed.toNat - 1]? = some base ∧
    jitter ≤ maxBackoffJitterMilliseconds ∧ c.deadlineDuration = base + jitter.toUInt32

/-- **How the phase and the record of the active slot belong together.** -/
inductive Attends (c : Controller) (v : View) : Prop
  | idle (hactive : c.active = false) (hstate : c.state = .queued ∨ c.state.live = false)
  | live (slot : SlotIndex) (hactive : c.active = true) (hslot : c.activeSlot = slot.val)
      (hstate : c.state.live = true) (hhead : Head v slot)
      (htried : c.state.tried = true → 1 ≤ (v.records slot).attemptsUsed.toNat)
      (hbackoff : c.state = .backoff → BacksOff c (v.records slot))
  | released (slot : SlotIndex) (hactive : c.active = true) (hslot : c.activeSlot = slot.val)
      (hstate : c.state = .released) (hrecord : ¬ Terminal (v.records slot))
  | failed (slot : SlotIndex) (hactive : c.active = true) (hslot : c.activeSlot = slot.val)
      (hstate : c.state = .failed) (hrecord : (v.records slot).state = .failed)
  | expired (slot : SlotIndex) (hactive : c.active = true) (hslot : c.activeSlot = slot.val)
      (hstate : c.state = .expired) (hrecord : (v.records slot).state = .expired)

/-- Calls go through to the controller. -/
def Controller.operates (c : Controller) : Bool := c.initialized && !c.isDegraded && c.policy.ready

theorem usable_eq (n : Ram) : n.usable = (n.controller.operates && n.store.healthy) := by
  unfold Ram.usable Controller.operates
  rw [Bool.and_right_comm]

/-- A usable controller, which may be preparing an attempt. -/
structure Tended (n : Ram) (v : View) : Prop where
  serving : Serving n.store v
  operates : n.controller.operates = true
  attends : Attends n.controller v

/-- **The invariant** between calls. -/
structure Steady (n : Ram) (v : View) : Prop extends Tended n v where
  prepared : n.controller.state ≠ .txPrepare

/-- What a call leaves: a controller that is steady or not usable. -/
def Lasts (n : Ram) : Prop := n.usable = true → ∃ v, Steady n v

theorem Steady.lasts {n : Ram} {v : View} (h : Steady n v) : Lasts n := fun _ => ⟨v, h⟩

theorem lasts_degrade (n : Ram) (status : ControllerStatus) (receive : Bool) : Lasts (n.degrade status receive).1 := by
  intro h
  rw [usable_eq] at h
  simp [Ram.degrade, Controller.operates] at h

theorem lasts_of_unhealthy {n : Ram} (h : n.store.healthy = false) : Lasts n := by
  intro hu
  rw [usable_eq, h, Bool.and_false] at hu
  cases hu

theorem Steady.usable {n : Ram} {v : View} (h : Steady n v) : n.usable = true := by
  rw [usable_eq, h.operates, h.serving.healthy]
  rfl

theorem Steady.inStep {n : Ram} {v : View} (h : Steady n v) : InStep n := by
  have hshaped := h.serving.toShaped
  have hrecord : ∀ slot : SlotIndex, n.controller.active = true → n.controller.activeSlot = slot.val →
      n.record = some (v.records slot) := by
    intro slot hactive hslot
    rw [Ram.record, if_pos hactive, hslot, hshaped.recordAt]
  have hvalid : ∀ slot : SlotIndex, (v.records slot).state = .queued → (v.records slot).attemptsUsed.toNat ≤ 5 :=
    fun slot hq => ((validateNodeRecord_owned (owned_of_queued hq)).1 (hshaped.valid slot)).1
  have hprepared := h.prepared
  have hindex := hshaped.indexed
  cases h.attends with
  | idle hactive hstate =>
    have hno : ¬ n.controller.active = true := by rw [hactive]; exact Bool.false_ne_true
    refine ⟨fun hc => absurd hc hno, fun hc => ?_, fun hc => ?_, fun hc => absurd hc hno, fun hc => absurd hc hno,
      hprepared, hindex⟩
    · generalize n.controller.state = state at hstate hc
      cases state <;> simp [RuntimeState.live] at hstate hc
    · simp [hc, RuntimeState.live] at hstate
  | live slot hactive hslot hstate hhead htried hbackoff =>
    have hterminal : ∀ {state : NodeState}, state ≠ .queued → ¬ ∃ r, n.record = some r ∧ r.state = state := by
      rintro state hne ⟨r, hr, hs⟩
      rw [hrecord slot hactive hslot, Option.some.injEq] at hr
      rw [← hr, hhead.queued] at hs
      exact hne hs.symm
    refine ⟨fun _ _ => ⟨slot, hslot, hshaped.queuedAt_of_head hhead, _, hshaped.recordAt slot, hhead.queued⟩,
      fun hc => ⟨_, hrecord slot hactive hslot, htried ?_, hvalid slot hhead.queued⟩, fun hc => ?_, fun _ => ?_,
      fun _ => ?_, hprepared, hindex⟩
    · generalize n.controller.state = state at hc
      cases state <;> simp [RuntimeState.tried] at hc ⊢
    · obtain ⟨base, jitter, hbase, hjitter, hduration⟩ := hbackoff hc
      exact ⟨_, base, jitter, hrecord slot hactive hslot, hbase, hjitter, hduration⟩
    · refine iff_of_false (fun hc => ?_) (hterminal (by simp))
      simp [hc, RuntimeState.live] at hstate
    · refine iff_of_false (fun hc => ?_) (hterminal (by simp))
      simp [hc, RuntimeState.live] at hstate
  | released slot hactive hslot hstate hnot =>
    have hno : ∀ {state : NodeState}, state = .failed ∨ state = .expired → ¬ ∃ r, n.record = some r ∧ r.state = state := by
      rintro state hterminal ⟨r, hr, hs⟩
      rw [hrecord slot hactive hslot, Option.some.injEq] at hr
      refine hnot ?_
      rw [hr, Terminal, hs]
      exact hterminal
    exact ⟨by simp [hstate], by simp [hstate], by simp [hstate],
      fun _ => iff_of_false (by simp [hstate]) (hno (.inl rfl)),
      fun _ => iff_of_false (by simp [hstate]) (hno (.inr rfl)), hprepared, hindex⟩
  | failed slot hactive hslot hstate hfailed =>
    exact ⟨by simp [hstate], by simp [hstate], by simp [hstate],
      fun _ => iff_of_true hstate ⟨_, hrecord slot hactive hslot, hfailed⟩,
      fun _ => iff_of_false (by simp [hstate]) (by simp [hrecord slot hactive hslot, hfailed]), hprepared, hindex⟩
  | expired slot hactive hslot hstate hexpired =>
    exact ⟨by simp [hstate], by simp [hstate], by simp [hstate],
      fun _ => iff_of_false (by simp [hstate]) (by simp [hrecord slot hactive hslot, hexpired]),
      fun _ => iff_of_true hstate ⟨_, hrecord slot hactive hslot, hexpired⟩, hprepared, hindex⟩

/-! ### The parts of the calls -/

section Parts

variable {n : Ram} {v : View} {now : UInt32}

theorem Serving.evolved {s s' : Store} {v' : View} (h : Serving s v) (hshaped : Shaped s' v')
    (halloc : s'.allocator = s.allocator) (hev : Evolving v v') : Serving s' v' := by
  refine ⟨hshaped, ?_, ?_⟩
  · rw [halloc]
    exact h.reserving
  · rw [halloc, hev.floor]
    exact h.floor

theorem Serving.put {s s' : Store} {slot : SlotIndex} {r : NodeRecord} (h : Serving s v)
    (hshaped : Shaped s' (v.put slot r)) (halloc : s'.allocator = s.allocator) (he : Evolves (v.records slot) r) :
    Serving s' (v.put slot r) :=
  h.evolved hshaped halloc (.single ⟨slot, r, he, rfl⟩)

/-- A round leaves a record as it is, or ages one that is QUEUED. -/
theorem FullRound.record {p p' : Policy} {v' : View} (h : FullRound now p v p' v') (slot : SlotIndex) :
    ((v.records slot).state ≠ .queued ∧ v'.records slot = v.records slot) ∨
    ((v.records slot).state = .queued ∧ (v'.records slot).attemptsUsed = (v.records slot).attemptsUsed ∧
      ((v'.records slot).state = .queued ∨ (v'.records slot).state = .expired)) := by
  have hserviced := h.serviced slot
  generalize p'.runtime slot = rt', v'.records slot = r' at hserviced ⊢
  cases hserviced with
  | idle hnot => exact .inl ⟨hnot, rfl⟩
  | untracked hq => exact .inr ⟨hq, rfl, .inl hq⟩
  | expired hq _ hs => exact .inr ⟨hq, hs.attempts, .inr (hs.expired rfl).1⟩
  | kept hq _ hs => exact .inr ⟨hq, hs.attempts, .inl (hs.kept _ rfl).1⟩

theorem Tended.ready (h : Tended n v) : n.controller.policy.ready = true := by
  have hop := h.operates
  simp only [Controller.operates, Bool.and_eq_true] at hop
  exact hop.2

theorem Tended.record (h : Tended n v) {slot : SlotIndex} (hactive : n.controller.active = true)
    (hslot : n.controller.activeSlot = slot.val) : n.record = some (v.records slot) := by
  rw [Ram.record, if_pos hactive, hslot, h.serving.recordAt]

/-- What servicing the lifetimes leaves. -/
structure Survives (now : UInt32) (n : Ram) (v : View) (n' : Ram) (v' : View) : Prop extends Tended n' v' where
  active : n'.controller.active = n.controller.active
  activeSlot : n'.controller.activeSlot = n.controller.activeSlot
  state : n'.controller.state = n.controller.state ∨ n'.controller.state = .expired
  round : FullRound now n.controller.policy v n'.controller.policy v'

theorem ends_serviceLifetime (h : Tended n v) (hstate : n.controller.state ≠ .released) (now : UInt32) :
    (n.serviceLifetime now).Ends fun _ r =>
      (r.2 = false ∧ r.1.usable = false) ∨ (r.2 = true ∧ ∃ v', Survives now n v r.1 v') := by
  unfold Ram.serviceLifetime
  refine (ends_service h.serving.toShaped h.ready now).bind fun log outcome hserviced => ?_
  obtain ⟨s', p', status⟩ := outcome
  dsimp only at hserviced ⊢
  split
  · refine .inl ⟨rfl, ?_⟩
    simp [Ram.usable, Ram.degrade]
  rename_i hready
  obtain ⟨v', hround, hshaped, halloc⟩ := hserviced (not_not.1 hready)
  set n1 : Ram := ⟨s', { n.controller with policy := p' }⟩ with hn1
  have hserving : Serving n1.store v' := h.serving.evolved hshaped halloc hround.ageing.evolving
  have hoperates : n1.controller.operates = true := by
    have hop := h.operates
    simp only [Controller.operates, Bool.and_eq_true] at hop ⊢
    exact ⟨hop.1, hround.ready⟩
  have hrecord : ∀ slot : SlotIndex, n.controller.active = true → n.controller.activeSlot = slot.val →
      n1.record = some (v'.records slot) := by
    intro slot hactive hslot
    rw [Ram.record, if_pos hactive, show n1.controller.activeSlot = slot.val from hslot, hshaped.recordAt]
  cases h.attends with
  | idle hactive hidle =>
    have hnone : n1.record = none := by
      rw [Ram.record, if_neg (by rw [show n1.controller.active = false from hactive]; exact Bool.false_ne_true)]
    rw [hnone]
    exact .inr ⟨rfl, v', ⟨hserving, hoperates, .idle hactive hidle⟩, rfl, rfl, .inl rfl, hround⟩
  | live slot hactive hslot hlive hhead htried hbackoff =>
    rw [hrecord slot hactive hslot]
    dsimp only
    rcases hround.record slot with ⟨hnot, -⟩ | ⟨-, hattempts, hq | hexpired⟩
    · exact absurd hhead.queued hnot
    · rw [if_neg (by rw [hq]; exact NodeState.noConfusion)]
      have hattends : Attends n1.controller v' := by
        refine .live slot hactive hslot hlive (hhead.evolving hround.ageing.evolving hq) ?_ ?_
        · rw [hattempts]
          exact htried
        · unfold BacksOff
          rw [hattempts]
          exact hbackoff
      exact .inr ⟨rfl, v', ⟨hserving, hoperates, hattends⟩, rfl, rfl, .inl rfl, hround⟩
    · rw [if_pos hexpired]
      exact .inr ⟨rfl, v', ⟨hserving, hoperates, .expired slot hactive hslot rfl hexpired⟩, rfl, rfl, .inr rfl, hround⟩
  | released slot hactive hslot hreleased => exact absurd hreleased hstate
  | failed slot hactive hslot hfailed hrec =>
    rw [hrecord slot hactive hslot]
    dsimp only
    rcases hround.record slot with ⟨-, hsame⟩ | ⟨hq, -⟩
    · rw [hsame, if_neg (by rw [hrec]; exact NodeState.noConfusion)]
      have hattends : Attends n1.controller v' := .failed slot hactive hslot hfailed (by rw [hsame]; exact hrec)
      exact .inr ⟨rfl, v', ⟨hserving, hoperates, hattends⟩, rfl, rfl, .inl rfl, hround⟩
    · rw [hrec] at hq
      cases hq
  | expired slot hactive hslot hexpired hrec =>
    rw [hrecord slot hactive hslot]
    dsimp only
    rcases hround.record slot with ⟨-, hsame⟩ | ⟨hq, -⟩
    · have hrec' : (v'.records slot).state = .expired := by rw [hsame]; exact hrec
      rw [if_pos hrec']
      exact .inr ⟨rfl, v', ⟨hserving, hoperates, .expired slot hactive hslot rfl hrec'⟩, rfl, rfl, .inr rfl, hround⟩
    · rw [hrec] at hq
      cases hq

/-- The active Event is failed, or the caller is told that it is not. -/
theorem ends_markActiveFailed (h : Tended n v) {slot : SlotIndex} (hactive : n.controller.active = true)
    (hslot : n.controller.activeSlot = slot.val) : n.markFailed.Ends fun _ r => r.2 = true → Lasts r.1 := by
  unfold Ram.markFailed
  rw [hslot]
  refine (ends_markFailed h.serving.toShaped slot).bind fun log outcome halters => ?_
  obtain ⟨s', mutation⟩ := outcome
  dsimp only at halters ⊢
  split
  · exact fun htrue => by cases htrue
  rename_i hok
  obtain ⟨hq, hshaped, halloc⟩ := halters.done (not_not.1 hok)
  intro _
  have hserving := h.serving.put hshaped halloc (.failed hq)
  have hrec : ((v.put slot (NodeRecord.fail (v.records slot))).records slot).state = .failed := by
    rw [View.put_apply]
    rfl
  have hsteady : Steady ((Ram.setState { n with store := s' } .failed).clearAttempt) (v.put slot (NodeRecord.fail (v.records slot))) :=
    ⟨⟨hserving, h.operates, .failed slot hactive hslot rfl hrec⟩, RuntimeState.noConfusion⟩
  exact hsteady.lasts

/-- An Event that has been failed, or a controller that is degraded. -/
theorem ends_failOrDegrade (h : Tended n v) {slot : SlotIndex} (hactive : n.controller.active = true)
    (hslot : n.controller.activeSlot = slot.val) (status : ControllerStatus) (done : Ram → ControllerResult) :
    (do
      let (n, failed) ← n.markFailed
      if !failed then return n.degrade status true
      return (n, done n) : StorageM (Ram × ControllerResult)).Ends fun _ r => Lasts r.1 := by
  refine (ends_markActiveFailed h hactive hslot).bind fun log outcome hfailed => ?_
  obtain ⟨n', failed⟩ := outcome
  cases failed with
  | false => exact lasts_degrade n' status true
  | true => exact hfailed rfl

theorem backoffTable_base {attempts : UInt8} (hpos : 1 ≤ attempts.toNat) (hlt : attempts < maxAttempts) :
    backoffTable[attempts.toNat - 1]? = some (Ram.backoffBase attempts) := by
  have hlt' : attempts.toNat < 5 := hlt
  have hcases : attempts = 1 ∨ attempts = 2 ∨ attempts = 3 ∨ attempts = 4 := by
    simp only [← UInt8.toNat_inj]
    change attempts.toNat = 1 ∨ attempts.toNat = 2 ∨ attempts.toNat = 3 ∨ attempts.toNat = 4
    omega
  rcases hcases with rfl | rfl | rfl | rfl <;> rfl

/-- **After a failed attempt** the Event is failed, or its backoff is in the table. -/
theorem ends_failedAttempt (h : Tended n v) (htried : n.controller.state.tried = true) (now : UInt32)
    (jitter : UInt16) : (n.failedAttempt now jitter).Ends fun _ r => Lasts r.1 := by
  cases h.attends with
  | idle hactive hidle =>
    generalize n.controller.state = state at hidle htried
    cases state <;> simp [RuntimeState.live, RuntimeState.tried] at hidle htried
  | live slot hactive hslot hlive hhead hattempts hbackoff =>
    unfold Ram.failedAttempt
    simp only [h.record hactive hslot]
    split
    · exact ends_failOrDegrade h hactive hslot .storageFailure fun _ => receiveResult
    rename_i hleft
    split
    · exact lasts_degrade n _ _
    rename_i hjitter
    have hlt : (v.records slot).attemptsUsed < maxAttempts := by simpa using hleft
    refine Steady.lasts (v := v) ⟨⟨h.serving, h.operates, ?_⟩, RuntimeState.noConfusion⟩
    refine .live slot hactive hslot rfl hhead (fun _ => hattempts htried) fun _ => ?_
    exact ⟨_, jitter, backoffTable_base (hattempts htried) hlt, UInt16.not_lt.1 hjitter, rfl⟩
  | released slot hactive hslot hstate => simp [hstate, RuntimeState.tried] at htried
  | failed slot hactive hslot hstate => simp [hstate, RuntimeState.tried] at htried
  | expired slot hactive hslot hstate => simp [hstate, RuntimeState.tried] at htried

end Parts

/-! ### The calls of the controller -/

section Calls

variable {n : Ram} {v : View}

/-- A phase without an attempt, for the head of the queue. -/
theorem Tended.untried (h : Tended n v) {slot : SlotIndex} (hactive : n.controller.active = true)
    (hslot : n.controller.activeSlot = slot.val) (hhead : Head v slot) {state : RuntimeState}
    (hlive : state.live = true) (htried : state.tried = false) : Tended (n.setState state) v := by
  have hbackoff : state ≠ .backoff := by
    rintro rfl
    cases htried
  refine ⟨h.serving, h.operates, .live slot hactive hslot hlive hhead (fun ht => ?_) fun hb => absurd hb hbackoff⟩
  rw [show (n.setState state).controller.state = state from rfl, htried] at ht
  cases ht

/-- In the phases of a QUEUED Event, the active slot has the head. -/
theorem Tended.head (h : Tended n v) (hactive : n.controller.active = true) (hlive : n.controller.state.live = true) :
    ∃ slot : SlotIndex, n.controller.activeSlot = slot.val ∧ Head v slot := by
  cases h.attends with
  | idle hidle =>
    rw [hidle] at hactive
    cases hactive
  | live slot _ hslot _ hhead => exact ⟨slot, hslot, hhead⟩
  | released _ _ _ hstate => simp [hstate, RuntimeState.live] at hlive
  | failed _ _ _ hstate => simp [hstate, RuntimeState.live] at hlive
  | expired _ _ _ hstate => simp [hstate, RuntimeState.live] at hlive

theorem ends_advance (h : Steady n v) (hactive : n.controller.active = true) (now : UInt32) (synchronousWork : Bool)
    (jitter : UInt16) : (n.advance now synchronousWork jitter).Ends fun _ r => Lasts r.1 := by
  have hhead := h.toTended.head hactive
  have hset : ∀ state : RuntimeState, n.controller.state.live = true → state.live = true → state.tried = false →
      state ≠ .txPrepare → Lasts (n.setState state) := by
    intro state hwas hlive htried hprepared
    obtain ⟨slot, hslot, hh⟩ := hhead hwas
    exact Steady.lasts ⟨h.toTended.untried hactive hslot hh hlive htried, hprepared⟩
  unfold Ram.advance
  cases hstate : n.controller.state with
  | queued =>
    obtain ⟨slot, hslot, -⟩ := hhead (by rw [hstate]; rfl)
    dsimp only
    split
    · exact ends_failOrDegrade h.toTended hactive hslot .storageFailure fun _ => result .ok
    cases synchronousWork with
    | true => exact h.lasts
    | false => exact hset .ready (by rw [hstate]; rfl) rfl rfl RuntimeState.noConfusion
  | ready =>
    cases synchronousWork with
    | true => exact hset .queued (by rw [hstate]; rfl) rfl rfl RuntimeState.noConfusion
    | false => exact h.lasts
  | waitAdmission =>
    dsimp only
    split
    · exact ends_failedAttempt h.toTended (by rw [hstate]; rfl) now jitter
    · exact h.lasts
  | backoff =>
    dsimp only
    split
    · cases synchronousWork with
      | true => exact hset .queued (by rw [hstate]; rfl) rfl rfl RuntimeState.noConfusion
      | false => exact hset .ready (by rw [hstate]; rfl) rfl rfl RuntimeState.noConfusion
    · exact h.lasts
  | txPrepare => exact absurd hstate h.prepared
  | tx => exact h.lasts
  | released => exact h.lasts
  | failed => exact h.lasts
  | expired => exact h.lasts

theorem Steady.loadHead (h : Steady n v) (hactive : n.controller.active = false) :
    Steady n.loadHead v ∧ (n.loadHead.controller.active = true → n.loadHead.controller.state = .queued) := by
  unfold Ram.loadHead
  cases hhead : n.store.queuedAt 0 with
  | none =>
    refine ⟨h, fun htrue => ?_⟩
    rw [hactive] at htrue
    cases htrue
  | some slot =>
    have hfirst := h.serving.head_of_queuedAt hhead
    refine ⟨⟨⟨h.serving, h.operates, ?_⟩, RuntimeState.noConfusion⟩, fun _ => rfl⟩
    exact .live slot rfl rfl rfl hfirst (fun ht => by cases ht) fun hb => by cases hb

/-- Once the Event is released, its slot is given up. -/
theorem Steady.giveUp (h : Steady n v) (hstate : n.controller.state = .released) : Steady n.clearAttempt.deactivate v := by
  refine ⟨⟨h.serving, h.operates, .idle rfl (.inr ?_)⟩, h.prepared⟩
  change n.controller.state.live = false
  rw [hstate]
  rfl

/-- The Event that `service` works on. -/
theorem Steady.takeUp (h : Steady n v) :
    let n1 := if n.controller.state = .released then n.clearAttempt.deactivate.loadHead else n
    let n2 := if !n1.controller.active then n1.loadHead else n1
    Steady n2 v ∧ (n2.controller.active = true → n2.controller.state ≠ .released) := by
  intro n1 n2
  have hqueued : ∀ {m : Ram}, m.controller.state = .queued → m.controller.state ≠ .released := by
    intro m hm
    rw [hm]
    exact RuntimeState.noConfusion
  have h1 : Steady n1 v ∧ (n1.controller.active = true → n1.controller.state ≠ .released) := by
    simp only [n1]
    split
    · rename_i hreleased
      obtain ⟨hsteady, hstate⟩ := (h.giveUp hreleased).loadHead rfl
      exact ⟨hsteady, fun ha => hqueued (hstate ha)⟩
    · rename_i hreleased
      exact ⟨h, fun _ => hreleased⟩
  simp only [n2]
  cases ha : n1.controller.active with
  | true => exact ⟨h1.1, fun _ => h1.2 ha⟩
  | false =>
    obtain ⟨hsteady, hstate⟩ := h1.1.loadHead ha
    exact ⟨hsteady, fun ha => hqueued (hstate ha)⟩

/-- What is left once the lifetimes have been serviced. -/
theorem Survives.steady {now : UInt32} {n' : Ram} {v' : View} (h : Survives now n v n' v')
    (hprepared : n.controller.state ≠ .txPrepare) : Steady n' v' := by
  refine ⟨h.toTended, ?_⟩
  rcases h.state with hsame | hexpired
  · rw [hsame]
    exact hprepared
  · rw [hexpired]
    exact RuntimeState.noConfusion

theorem lasts_of_unusable (h : n.usable = false) : Lasts n := by
  intro hu
  rw [h] at hu
  cases hu

theorem ends_controllerService (h : Steady n v) (now : UInt32) (synchronousWork : Bool) (jitter : UInt16) :
    (n.service now synchronousWork jitter).Ends fun _ r => Lasts r.1 := by
  unfold Ram.service
  rw [if_neg (by simp [h.usable])]
  extract_lets n1 n2
  obtain ⟨hsteady, hreleased⟩ : Steady n2 v ∧ (n2.controller.active = true → n2.controller.state ≠ .released) := h.takeUp
  clear_value n2
  split
  · exact hsteady.lasts
  rename_i hactive
  have hactive : n2.controller.active = true := by simpa using hactive
  refine (ends_serviceLifetime hsteady.toTended (hreleased hactive) now).bind fun log outcome hlived => ?_
  obtain ⟨n3, serviced⟩ := outcome
  rcases hlived with ⟨hfalse, hunusable⟩ | ⟨htrue, v', hsurvives⟩
  · simp only at hfalse
    subst hfalse
    exact lasts_of_unusable hunusable
  simp only at htrue hsurvives
  subst htrue
  have hsteady3 := hsurvives.steady hsteady.prepared
  simp only [Bool.not_true, Bool.false_eq_true, if_false]
  split
  · exact hsteady3.lasts
  split
  · exact hsteady3.lasts
  exact ends_advance hsteady3 (hsurvives.active.trans hactive) now synchronousWork jitter

/-- The armed Event goes on the air. -/
theorem lasts_transmit {slot : SlotIndex} (hserving : Serving n.store v) (hoperates : n.controller.operates = true)
    (hactive : n.controller.active = true) (hslot : n.controller.activeSlot = slot.val) (hhead : Head v slot)
    (hattempts : 1 ≤ (v.records slot).attemptsUsed.toNat) (sequence : Option UInt8) :
    Lasts (n.transmit sequence).1 := by
  unfold Ram.transmit
  split
  · exact lasts_degrade n _ _
  split
  · exact lasts_degrade n _ _
  dsimp only
  split
  · exact lasts_degrade _ _ _
  refine Steady.lasts (v := v) ⟨⟨hserving, hoperates, ?_⟩, RuntimeState.noConfusion⟩
  exact .live slot hactive hslot rfl hhead (fun _ => hattempts) fun hb => by cases hb

theorem transmit_store (n : Ram) (sequence : Option UInt8) : (n.transmit sequence).1.store = n.store := by
  unfold Ram.transmit Ram.degrade
  split
  · rfl
  split
  · rfl
  dsimp only
  split <;> rfl

theorem attempts_arm {r : NodeRecord} (h : Armable r) : 1 ≤ (NodeRecord.arm r).attemptsUsed.toNat := by
  have hlt : r.attemptsUsed.toNat < 5 := h.2
  have hadd : (NodeRecord.arm r).attemptsUsed.toNat = r.attemptsUsed.toNat + 1 := by
    change (r.attemptsUsed + 1).toNat = _
    rw [UInt8.toNat_add, UInt8.toNat_one, Nat.mod_eq_of_lt (by omega)]
  omega

theorem ends_grantTransmit (h : Steady n v) (now : UInt32) (sequence : Option UInt8) :
    (n.grantTransmit now sequence).Ends fun _ r => Lasts r.1 := by
  unfold Ram.grantTransmit
  rw [if_neg (by simp [h.usable])]
  split
  · exact h.lasts
  rename_i hguard
  have hguard : n.controller.active = true ∧ n.controller.state = .ready := by simpa using hguard
  obtain ⟨hactive, hready⟩ := hguard
  obtain ⟨slot, hslot, hhead⟩ := h.toTended.head hactive (by rw [hready]; rfl)
  have htended : Tended (n.setState .txPrepare) v := h.toTended.untried hactive hslot hhead rfl rfl
  refine (ends_serviceLifetime htended RuntimeState.noConfusion now).bind fun log outcome hlived => ?_
  obtain ⟨n1, serviced⟩ := outcome
  rcases hlived with ⟨hfalse, hunusable⟩ | ⟨htrue, v1, hsurvives⟩
  · simp only at hfalse
    subst hfalse
    exact lasts_of_unusable hunusable
  simp only at htrue hsurvives
  subst htrue
  simp only [Bool.not_true, Bool.false_eq_true, if_false]
  split
  · rename_i hexpired
    exact Steady.lasts ⟨hsurvives.toTended, by rw [hexpired]; exact RuntimeState.noConfusion⟩
  rename_i hnot
  split
  · exact lasts_degrade n1 _ _
  have hactive1 : n1.controller.active = true := hsurvives.active.trans hactive
  have hslot1 : n1.controller.activeSlot = slot.val := hsurvives.activeSlot.trans hslot
  have hstate1 : n1.controller.state = .txPrepare := hsurvives.state.resolve_right hnot
  have hhead1 : Head v1 slot := by
    obtain ⟨slot', hslot', hhead'⟩ := hsurvives.toTended.head hactive1 (by rw [hstate1]; rfl)
    rw [hslot1] at hslot'
    rwa [Fin.ext hslot']
  have htracked : (v1.records slot).state = .queued → (n1.controller.policy.runtime slot).tracked = true :=
    hsurvives.round.tracked
  have harms := ends_policyArmAttempt hsurvives.serving.toShaped hsurvives.toTended.ready now htracked
  rw [← hslot1] at harms
  refine harms.bind fun log outcome harmed => ?_
  obtain ⟨s2, p2, attempt⟩ := outcome
  dsimp only at harmed ⊢
  -- the policy stays ready
  have hoperates : ∀ {v2 : View}, FullRound now n1.controller.policy v1 p2 v2 →
      Controller.operates { n1.controller with policy := p2 } = true := by
    intro v2 hround
    have hop := hsurvives.operates
    simp only [Controller.operates, Bool.and_eq_true] at hop ⊢
    exact ⟨hop.1, hround.ready⟩
  cases attempt with
  | armed =>
    rcases harmed (by simp) with hunhealthy | ⟨v2, hround, halloc, ⟨-, harm, hshaped⟩ | ⟨hc, -⟩ | ⟨hc, -⟩⟩
    · refine lasts_of_unhealthy ?_
      rw [transmit_store]
      exact hunhealthy
    · have hev : Evolving v1 (v2.put slot (NodeRecord.arm (v2.records slot))) :=
        hround.ageing.evolving.tail ⟨slot, _, .armed harm.1 harm.2, rfl⟩
      have hq : ((v2.put slot (NodeRecord.arm (v2.records slot))).records slot).state = .queued := by
        rw [View.put_apply]
        exact harm.1
      refine lasts_transmit (n := ⟨s2, _⟩) (hsurvives.serving.evolved hshaped halloc hev) (hoperates hround) hactive1 hslot1
        (hhead1.evolving hev hq) ?_ sequence
      rw [View.put_apply]
      exact attempts_arm harm
    · cases hc
    · cases hc
  | expired =>
    rcases harmed (by simp) with hunhealthy | ⟨v2, hround, halloc, ⟨hc, -⟩ | ⟨-, hexpired, hshaped⟩ | ⟨hc, -⟩⟩
    · exact lasts_of_unhealthy hunhealthy
    · cases hc
    · refine Steady.lasts (v := v2) ⟨⟨hsurvives.serving.evolved hshaped halloc hround.ageing.evolving, hoperates hround, ?_⟩,
        RuntimeState.noConfusion⟩
      exact .expired slot hactive1 hslot1 rfl hexpired
    · cases hc
  | exhausted =>
    rcases harmed (by simp) with hunhealthy | ⟨v2, hround, halloc, ⟨hc, -⟩ | ⟨hc, -⟩ | ⟨-, hq, hshaped⟩⟩
    · simp only [Ram.markFailed, Store.markFailed, Store.transition, hunhealthy, Bool.not_false, if_true,
        Prog.pure_bind']
      exact lasts_degrade _ _ _
    · cases hc
    · cases hc
    · set n2 : Ram := ⟨s2, { n1.controller with policy := p2 }⟩ with hn2
      have htended2 : Tended n2 v2 := by
        refine ⟨hsurvives.serving.evolved hshaped halloc hround.ageing.evolving, hoperates hround, ?_⟩
        refine .live slot hactive1 hslot1 ?_ (hhead1.evolving hround.ageing.evolving hq) (fun ht => ?_) fun hb => ?_
        · rw [show n2.controller.state = .txPrepare from hstate1]
          rfl
        · rw [show n2.controller.state = .txPrepare from hstate1] at ht
          cases ht
        · rw [show n2.controller.state = .txPrepare from hstate1] at hb
          cases hb
      refine (ends_markActiveFailed htended2 hactive1 hslot1).bind fun log outcome hfailed => ?_
      obtain ⟨n3, failed⟩ := outcome
      cases failed with
      | false => exact lasts_degrade n3 _ _
      | true => exact hfailed rfl
  | notQueued => exact lasts_degrade _ _ _
  | invalidSlot => exact lasts_degrade _ _ _
  | storageFailure => exact lasts_degrade _ _ _
  | degraded => exact lasts_degrade _ _ _

/-- The calls about a transmission: they service the lifetimes first. -/
theorem ends_duringState (h : Steady n v) {state : RuntimeState} (hlive : state.live = true)
    (now : UInt32) {next : Ram → StorageM (Ram × ControllerResult)}
    (hnext : ∀ n' v', Steady n' v' → n'.controller.state = state → (next n').Ends fun _ r => Lasts r.1) :
    (n.duringState state now next).Ends fun _ r => Lasts r.1 := by
  unfold Ram.duringState
  split
  · exact h.lasts
  rename_i hguard
  have hstate : n.controller.state = state := by
    simp only [Bool.or_eq_true, decide_eq_true_eq, not_or, not_not] at hguard
    exact hguard.2
  have hreleased : n.controller.state ≠ .released := by
    intro hc
    rw [← hstate, hc] at hlive
    cases hlive
  refine (ends_serviceLifetime h.toTended hreleased now).bind fun log outcome hlived => ?_
  obtain ⟨n1, serviced⟩ := outcome
  rcases hlived with ⟨hfalse, hunusable⟩ | ⟨htrue, v1, hsurvives⟩
  · simp only at hfalse
    subst hfalse
    exact lasts_of_unusable hunusable
  simp only at htrue hsurvives
  subst htrue
  have hsteady := hsurvives.steady h.prepared
  simp only [Bool.not_true, Bool.false_eq_true, if_false]
  split
  · exact hsteady.lasts
  rename_i hnot
  exact hnext n1 v1 hsteady ((hsurvives.state.resolve_right hnot).trans hstate)

theorem ends_txStarted (h : Steady n v) (now : UInt32) : (n.txStarted now).Ends fun _ r => Lasts r.1 :=
  ends_duringState h rfl now fun _ _ h' _ => h'.lasts

theorem ends_txStartFailed (h : Steady n v) (now : UInt32) (jitter : UInt16) :
    (n.txStartFailed now jitter).Ends fun _ r => Lasts r.1 := by
  refine ends_duringState h rfl now fun n' v' h' hstate => ?_
  exact ends_failedAttempt h'.toTended (by rw [hstate]; rfl) now jitter

theorem ends_txCompleted (h : Steady n v) (now : UInt32) : (n.txCompleted now).Ends fun _ r => Lasts r.1 := by
  refine ends_duringState h rfl now fun n' v' h' hstate => ?_
  cases h'.attends with
  | idle _ hidle => simp [hstate, RuntimeState.live] at hidle
  | live slot hactive hslot _ hhead htried =>
    refine Steady.lasts (v := v') ⟨⟨h'.serving, h'.operates, ?_⟩, RuntimeState.noConfusion⟩
    exact .live slot hactive hslot rfl hhead (fun _ => htried (by rw [hstate]; rfl)) fun hb => by cases hb
  | released _ _ _ hc => simp [hstate] at hc
  | failed _ _ _ hc => simp [hstate] at hc
  | expired _ _ _ hc => simp [hstate] at hc

theorem ends_answered (h : Steady n v) (hstate : n.controller.state = .waitAdmission) (status : AdmissionStatus)
    (now : UInt32) (jitter : UInt16) : (n.answered status now jitter).Ends fun _ r => Lasts r.1 := by
  have hactive : n.controller.active = true := by
    cases h.attends with
    | idle _ hidle => simp [hstate, RuntimeState.live] at hidle
    | live _ hactive => exact hactive
    | released _ hactive => exact hactive
    | failed _ hactive => exact hactive
    | expired _ hactive => exact hactive
  obtain ⟨slot, hslot, hhead⟩ := h.toTended.head hactive (by rw [hstate]; rfl)
  have hfail := ends_failOrDegrade h.toTended hactive hslot .storageFailure fun _ => receiveResult
  unfold Ram.answered
  cases status with
  | admitted =>
    dsimp only
    rw [hslot]
    refine (ends_releaseQueued h.serving.toShaped slot).bind fun log outcome halters => ?_
    obtain ⟨s', mutation⟩ := outcome
    dsimp only at halters ⊢
    split
    · exact lasts_degrade _ _ _
    rename_i hok
    obtain ⟨hq, hshaped, halloc⟩ := halters.done (not_not.1 hok)
    have hserving := h.serving.put hshaped halloc (.freed (owned_of_queued hq))
    refine Steady.lasts (v := v.put slot (NodeRecord.freed (v.records slot)))
      ⟨⟨hserving, h.operates, .released slot hactive hslot rfl ?_⟩, RuntimeState.noConfusion⟩
    rw [View.put_apply]
    exact fun hterminal => hterminal.elim NodeState.noConfusion NodeState.noConfusion
  | capacity => exact ends_failedAttempt h.toTended (by rw [hstate]; rfl) now jitter
  | identityContentMismatch => exact hfail
  | unsupportedEvent => exact hfail
  | malformedEvent => exact hfail

theorem ends_admissionCandidate (h : Steady n v) (bytes : Bytes) (now : UInt32) (jitter : UInt16) :
    (n.admissionCandidate bytes now jitter).Ends fun _ r => Lasts r.1 := by
  refine ends_duringState h rfl now fun n' v' h' hstate => ?_
  split
  · exact h'.lasts
  split
  · exact h'.lasts
  exact ends_answered h' hstate _ now jitter

/-! ### Reclamation -/

/-- The active record is freed through the controller. -/
theorem ends_reclaimTerminal (h : Steady n v) :
    n.reclaimTerminal.Ends fun _ r => Lasts r.1 ∧ (r.2.status = .ok → ∃ v', Steady r.1 v') := by
  unfold Ram.reclaimTerminal
  split
  · exact ⟨h.lasts, fun hc => by cases hc⟩
  rename_i hguard
  have hguard : n.controller.active = true ∧ (n.controller.state = .failed ∨ n.controller.state = .expired) := by
    simp only [h.usable, Bool.not_true, Bool.false_or, Bool.or_eq_true, Bool.not_eq_true', Bool.and_eq_true,
      decide_eq_true_eq, not_or, not_and, not_not, Bool.not_eq_false] at hguard
    exact ⟨hguard.1, or_iff_not_imp_left.2 hguard.2⟩
  obtain ⟨hactive, hstate⟩ := hguard
  have hslot : ∃ slot : SlotIndex, n.controller.activeSlot = slot.val := by
    cases h.attends with
    | idle hidle =>
      rw [hidle] at hactive
      cases hactive
    | live slot _ hslot => exact ⟨slot, hslot⟩
    | released slot _ hslot => exact ⟨slot, hslot⟩
    | failed slot _ hslot => exact ⟨slot, hslot⟩
    | expired slot _ hslot => exact ⟨slot, hslot⟩
  obtain ⟨slot, hslot⟩ := hslot
  rw [hslot]
  refine (ends_reclaim h.serving.toShaped slot).bind fun log outcome halters => ?_
  obtain ⟨s', mutation⟩ := outcome
  dsimp only at halters ⊢
  split
  · exact ⟨lasts_degrade _ _ _, fun hc => by cases hc⟩
  rename_i hok
  obtain ⟨hterminal, hshaped, halloc⟩ := halters.done (not_not.1 hok)
  have hserving := h.serving.put hshaped halloc (.freed hterminal.owned)
  have hsteady : Steady (Ram.clearAttempt (Ram.deactivate { n with store := s' }))
      (v.put slot (NodeRecord.freed (v.records slot))) := by
    refine ⟨⟨hserving, h.operates, .idle rfl (.inr ?_)⟩, h.prepared⟩
    change n.controller.state.live = false
    rcases hstate with hstate | hstate <;> rw [hstate] <;> rfl
  exact ⟨hsteady.lasts, fun _ => ⟨_, hsteady⟩⟩

/-- Another terminal record is freed. -/
theorem Attends.reclaimed {c : Controller} (h : Attends c v) {slot : SlotIndex} (hterminal : Terminal (v.records slot))
    (hother : c.active = true → c.activeSlot ≠ slot.val) :
    Attends c (v.put slot (NodeRecord.freed (v.records slot))) := by
  have hsame : ∀ i : SlotIndex, c.active = true → c.activeSlot = i.val →
      (v.put slot (NodeRecord.freed (v.records slot))).records i = v.records i := by
    intro i hactive hi
    have hne : i ≠ slot := by
      rintro rfl
      exact hother hactive hi
    exact View.put_apply_ne _ hne _
  cases h with
  | idle hactive hidle => exact .idle hactive hidle
  | live i hactive hi hlive hhead htried hbackoff =>
    have hrec := hsame i hactive hi
    refine .live i hactive hi hlive ?_ (by rw [hrec]; exact htried) (by rw [hrec]; exact hbackoff)
    exact hhead.evolving (.single ⟨slot, _, .freed hterminal.owned, rfl⟩) (by rw [hrec]; exact hhead.queued)
  | released i hactive hi hstate hrec => exact .released i hactive hi hstate (by rw [hsame i hactive hi]; exact hrec)
  | failed i hactive hi hstate hrec => exact .failed i hactive hi hstate (by rw [hsame i hactive hi]; exact hrec)
  | expired i hactive hi hstate hrec => exact .expired i hactive hi hstate (by rw [hsame i hactive hi]; exact hrec)

theorem ends_reclaimSlots (h : Steady n v) (slots : List SlotIndex) :
    (n.reclaimSlots true slots).Ends fun _ r => Lasts r.1 := by
  induction slots generalizing n v with
  | nil => exact h.lasts
  | cons slot rest ih =>
    unfold Ram.reclaimSlots
    rw [h.serving.recordAt]
    split
    · exact ih h
    rename_i hrec
    have hterminal : Terminal (v.records slot) := by
      rw [Terminal, or_iff_not_imp_left]
      simpa [Ram.isTerminalRecord] using hrec
    split
    · refine (ends_reclaimTerminal h).bind fun log outcome hreclaimed => ?_
      obtain ⟨n', reclaimed⟩ := outcome
      dsimp only at hreclaimed ⊢
      split
      · exact hreclaimed.1
      rename_i hok
      obtain ⟨v', h'⟩ := hreclaimed.2 (not_not.1 hok)
      exact ih h'
    · rename_i hother
      have hother : n.controller.active = true → n.controller.activeSlot ≠ slot.val := by simpa using hother
      refine (ends_reclaim h.serving.toShaped slot).bind fun log outcome halters => ?_
      obtain ⟨s', mutation⟩ := outcome
      dsimp only at halters ⊢
      split
      · rename_i hfailed
        cases halters with
        | refused _ hsame =>
          subst hsame
          exact h.lasts
        | altered hdone => exact absurd hdone hfailed
        | lost _ hunhealthy => exact lasts_of_unhealthy hunhealthy
      rename_i hok
      obtain ⟨-, hshaped, halloc⟩ := halters.done (not_not.1 hok)
      have hserving := h.serving.put hshaped halloc (.freed hterminal.owned)
      exact ih ⟨⟨hserving, h.operates, h.attends.reclaimed hterminal hother⟩, h.prepared⟩

theorem ends_reclaimTerminals (h : Steady n v) : (n.reclaimTerminals true).Ends fun _ r => Lasts r.1 := by
  unfold Ram.reclaimTerminals
  rw [if_neg (by simp [h.serving.healthy])]
  exact ends_reclaimSlots h _

/-! ### Creation -/

/-- A new Event in a slot that was free. -/
theorem Attends.created {c : Controller} (h : Attends c v) {slot : SlotIndex} {identity : Identity} {input : EventInput}
    (hok : v.Ok) (hfree : (v.records slot).state = .free) (hfloor : v.floor ≤ key identity.epoch identity.id) :
    Attends c (v.created slot identity input) := by
  have hsame : ∀ i, (v.records i).state ≠ .free → (v.created slot identity input).records i = v.records i := by
    intro i hi
    refine Function.update_of_ne (fun hc => hi ?_) _ _
    rw [hc]
    exact hfree
  cases h with
  | idle hactive hidle => exact .idle hactive hidle
  | live i hactive hi hlive hhead htried hbackoff =>
    have hrec := hsame i (by rw [hhead.queued]; exact NodeState.noConfusion)
    exact .live i hactive hi hlive (hhead.created hok hfree hfloor) (by rw [hrec]; exact htried)
      (by rw [hrec]; exact hbackoff)
  | released i hactive hi hstate hrec =>
    refine .released i hactive hi hstate ?_
    by_cases hc : i = slot
    · -- the slot that has been released has a new Event, which is QUEUED
      subst hc
      have hnew : ((v.created i identity input).records i).state = .queued := by
        rw [show (v.created i identity input).records i = _ from Function.update_self _ _ _]
        rfl
      rw [Terminal, hnew]
      exact fun hterminal => hterminal.elim NodeState.noConfusion NodeState.noConfusion
    · have hother : (v.created slot identity input).records i = v.records i := Function.update_of_ne hc _ _
      rw [hother]
      exact hrec
  | failed i hactive hi hstate hrec =>
    exact .failed i hactive hi hstate (by rw [hsame i (by rw [hrec]; exact NodeState.noConfusion)]; exact hrec)
  | expired i hactive hi hstate hrec =>
    exact .expired i hactive hi hstate (by rw [hsame i (by rw [hrec]; exact NodeState.noConfusion)]; exact hrec)

theorem ends_controllerEnqueue (h : Steady n v) (input : EventInput) :
    (n.store.enqueue input).Ends fun _ r => { n with store := r.1 } = n ∨ r.1.healthy = false ∨
      ∃ v', Steady { n with store := r.1 } v' := by
  refine (ends_enqueue h.serving input).mono fun log r hr => ?_
  rcases hr with ⟨-, hsame | hunhealthy⟩ | ⟨slot, identity, -, hfree, hfloor, hserving⟩
  · exact .inl (by rw [hsame])
  · exact .inr (.inl hunhealthy)
  · exact .inr (.inr ⟨_, ⟨hserving, h.operates, h.attends.created h.serving.ok hfree hfloor⟩, h.prepared⟩)

theorem lasts_trackEnqueued_of_unusable (h : n.usable = false) (slot : ℕ) (now : UInt32) :
    Lasts (n.trackEnqueued slot now).1 := by
  unfold Ram.trackEnqueued
  rw [if_pos (by rw [h]; rfl)]
  exact lasts_degrade n _ _

/-- The policy that has taken up a slot is ready. -/
theorem trackEnqueued_ready (p : Policy) (s : Store) (slot : ℕ) (now : UInt32)
    (h : (p.trackEnqueued s slot now).2 = .ready) : (p.trackEnqueued s slot now).1.ready = true := by
  unfold Policy.trackEnqueued at h ⊢
  split
  · rename_i hdown
    rw [if_pos hdown] at h
    cases h
  rename_i hup
  rw [if_neg hup] at h
  have hready : p.ready = true := by
    simp only [Bool.or_eq_true, Bool.not_eq_true', not_or, Bool.not_eq_false] at hup
    exact hup.1
  split
  · split <;> exact hready
  · exact hready

theorem Steady.trackEnqueued (h : Steady n v) (slot : ℕ) (now : UInt32) : Lasts (n.trackEnqueued slot now).1 := by
  unfold Ram.trackEnqueued
  rw [if_neg (by simp [h.usable])]
  have hready := trackEnqueued_ready n.controller.policy n.store slot now
  generalize n.controller.policy.trackEnqueued n.store slot now = tracked at hready ⊢
  obtain ⟨policy, status⟩ := tracked
  dsimp only at hready ⊢
  split
  · exact lasts_degrade _ _ _
  rename_i hok
  have hoperates : Controller.operates { n.controller with policy } = true := by
    have hop := h.operates
    simp only [Controller.operates, Bool.and_eq_true] at hop ⊢
    exact ⟨hop.1, hready (not_not.1 hok)⟩
  have hattends : Attends { n.controller with policy } v := by
    cases h.attends with
    | idle hactive hidle => exact .idle hactive hidle
    | live i hactive hi hlive hhead htried hbackoff => exact .live i hactive hi hlive hhead htried hbackoff
    | released i hactive hi hstate hrec => exact .released i hactive hi hstate hrec
    | failed i hactive hi hstate hrec => exact .failed i hactive hi hstate hrec
    | expired i hactive hi hstate hrec => exact .expired i hactive hi hstate hrec
  exact Steady.lasts (v := v) ⟨⟨h.serving, hoperates, hattends⟩, h.prepared⟩

theorem ends_create (h : Steady n v) (input : EventInput) (clock : UInt32) :
    (n.create input clock).Ends fun _ r => Lasts r.1 := by
  unfold Ram.create
  split
  · exact h.lasts
  refine (ends_controllerEnqueue h input).bind fun log outcome henqueued => ?_
  obtain ⟨s', enqueued⟩ := outcome
  dsimp only at henqueued ⊢
  split
  · rcases henqueued with hsame | hunhealthy | ⟨v', h'⟩
    · rw [hsame]
      exact h.lasts
    · exact lasts_of_unhealthy hunhealthy
    · exact h'.lasts
  rename_i slot hslot
  have htracked : Lasts (Ram.trackEnqueued { n with store := s' } slot clock).1 := by
    rcases henqueued with hsame | hunhealthy | ⟨v', h'⟩
    · rw [hsame]
      exact h.trackEnqueued slot clock
    · exact lasts_trackEnqueued_of_unusable (usable_of_unhealthy hunhealthy) slot clock
    · exact h'.trackEnqueued slot clock
  generalize Ram.trackEnqueued { n with store := s' } slot clock = tracked at htracked ⊢
  obtain ⟨n', status⟩ := tracked
  dsimp only
  split <;> exact htracked

/-! ### A controller that is not usable -/

theorem unusable_iff : n.usable = false ↔ n.controller.operates = false ∨ n.store.healthy = false := by
  rw [usable_eq, Bool.and_eq_false_iff]

theorem lasts_of_inoperative (h : n.controller.operates = false) : Lasts n :=
  lasts_of_unusable (unusable_iff.2 (.inl h))

theorem ends_reclaimSlots_of_inoperative (h : n.controller.operates = false) (slots : List SlotIndex) :
    (n.reclaimSlots true slots).Ends fun _ r => Lasts r.1 := by
  have hunusable := unusable_iff.2 (.inl h)
  induction slots generalizing n with
  | nil => exact lasts_of_inoperative h
  | cons slot rest ih =>
    unfold Ram.reclaimSlots
    split
    · exact ih h hunusable
    split
    · simp only [Ram.reclaimTerminal, hunusable, Bool.not_false, Bool.true_or, if_true, Prog.pure_bind']
      exact lasts_of_inoperative h
    · refine (Prog.ends_logs _).bind fun log outcome _ => ?_
      obtain ⟨s', mutation⟩ := outcome
      dsimp only
      split
      · exact lasts_of_inoperative h
      · exact ih h (unusable_iff.2 (.inl h))

/-- A call leaves a controller that is not usable as it is, and degrades it at most. -/
theorem ends_of_unusable {device hub : UInt8} (h : n.usable = false) {call : Call} (hd : call.delivers = true)
    (now : UInt32) : (call.run device hub now n).Ends fun _ r => Lasts r.1 := by
  have hlasts := lasts_of_unusable h
  -- an enqueue can only change the store
  have henqueue : ∀ input, (n.store.enqueue input).Ends fun _ r => Ram.usable { n with store := r.1 } = false := by
    intro input
    rcases unusable_iff.1 h with hc | hunhealthy
    · exact (Prog.ends_logs _).mono fun log r _ => unusable_iff.2 (.inl hc)
    · simp only [Store.enqueue, hunhealthy, Bool.not_false, if_true]
      exact h
  cases call with
  | recoverStore entropy => cases hd
  | boot entropy => cases hd
  | recoverController => cases hd
  | enqueue input => exact (henqueue input).bind fun log r hr => lasts_of_unusable hr
  | trackEnqueued slot => exact lasts_trackEnqueued_of_unusable h slot now
  | create input =>
    simp only [Call.run, Ram.create]
    split
    · exact hlasts
    rw [Prog.bind_assoc']
    refine (henqueue input).bind fun log r hr => ?_
    obtain ⟨s', enqueued⟩ := r
    dsimp only at hr ⊢
    split
    · exact lasts_of_unusable hr
    rename_i slot hslot
    have htracked := lasts_trackEnqueued_of_unusable hr slot now
    generalize Ram.trackEnqueued { n with store := s' } slot now = tracked at htracked ⊢
    obtain ⟨n', status⟩ := tracked
    dsimp only
    split <;> exact htracked
  | service synchronousWork jitter =>
    simp only [Call.run, Ram.service, h, Bool.not_false, if_true, Prog.pure_bind']
    exact hlasts
  | grantTransmit sequence =>
    simp only [Call.run, Ram.grantTransmit, h, Bool.not_false, if_true, Prog.pure_bind']
    exact hlasts
  | txStarted =>
    simp only [Call.run, Ram.txStarted, Ram.duringState, h, Bool.not_false, Bool.true_or, if_true, Prog.pure_bind']
    exact hlasts
  | txStartFailed jitter =>
    simp only [Call.run, Ram.txStartFailed, Ram.duringState, h, Bool.not_false, Bool.true_or, if_true, Prog.pure_bind']
    exact hlasts
  | txCompleted =>
    simp only [Call.run, Ram.txCompleted, Ram.duringState, h, Bool.not_false, Bool.true_or, if_true, Prog.pure_bind']
    exact hlasts
  | admissionCandidate bytes jitter =>
    simp only [Call.run, Ram.admissionCandidate, Ram.duringState, h, Bool.not_false, Bool.true_or, if_true,
      Prog.pure_bind']
    exact hlasts
  | reclaimTerminal =>
    simp only [Call.run, Ram.reclaimTerminal, h, Bool.not_false, Bool.true_or, if_true, Prog.pure_bind']
    exact hlasts
  | reclaimTerminals withController =>
    obtain rfl : withController = true := hd
    simp only [Call.run, Ram.reclaimTerminals]
    split
    · exact hlasts
    · rename_i hhealthy
      rcases unusable_iff.1 h with hc | hunhealthy
      · exact (ends_reclaimSlots_of_inoperative hc _).bind fun log r hr => hr
      · simp [hunhealthy] at hhealthy

/-! ### One call -/

/-- **A call of a steady controller.** -/
theorem Steady.ends_call {device hub : UInt8} (h : Steady n v) {call : Call} (hd : call.delivers = true) (now : UInt32) :
    (call.run device hub now n).Ends fun _ r => Lasts r.1 := by
  cases call with
  | recoverStore entropy => cases hd
  | boot entropy => cases hd
  | recoverController => cases hd
  | enqueue input =>
    refine (ends_controllerEnqueue h input).bind fun log r hr => ?_
    rcases hr with hsame | hunhealthy | ⟨v', h'⟩
    · exact hsame ▸ h.lasts
    · exact lasts_of_unhealthy hunhealthy
    · exact h'.lasts
  | trackEnqueued slot => exact h.trackEnqueued slot now
  | create input => exact (ends_create h input now).bind fun _ _ hr => hr
  | service synchronousWork jitter => exact (ends_controllerService h now synchronousWork jitter).bind fun _ _ hr => hr
  | grantTransmit sequence => exact (ends_grantTransmit h now sequence).bind fun _ _ hr => hr
  | txStarted => exact (ends_txStarted h now).bind fun _ _ hr => hr
  | txStartFailed jitter => exact (ends_txStartFailed h now jitter).bind fun _ _ hr => hr
  | txCompleted => exact (ends_txCompleted h now).bind fun _ _ hr => hr
  | admissionCandidate bytes jitter => exact (ends_admissionCandidate h bytes now jitter).bind fun _ _ hr => hr
  | reclaimTerminal => exact (ends_reclaimTerminal h).bind fun _ _ hr => hr.1
  | reclaimTerminals withController =>
    obtain rfl : withController = true := hd
    exact (ends_reclaimTerminals h).bind fun _ _ hr => hr

theorem Lasts.ends_call {device hub : UInt8} (h : Lasts n) {call : Call} (hd : call.delivers = true) (now : UInt32) :
    (call.run device hub now n).Ends fun _ r => Lasts r.1 := by
  cases hu : n.usable with
  | true =>
    obtain ⟨v, hsteady⟩ := h hu
    exact hsteady.ends_call hd now
  | false => exact ends_of_unusable hu hd now

end Calls

/-! ### The start -/

section Start

variable {n : Ram} {v : View} {img : Image} {device hub : UInt8}

theorem ensures_ends {α : Type} {p : StorageM α} {Q : α → Image → Prop} {P : Image → Prop}
    {R : Log StorageOp.Reply → α → Prop} (h : geometry.Ensures img p Q P) (hp : p.Ends R) :
    geometry.Ensures img p (fun a _ => ∃ log, R log a) fun _ => True := by
  intro script hs
  refine Prog.wp_mono ?_ (fun _ _ _ => trivial) (Prog.wp_ends (h script hs) hp)
  rintro a d ⟨⟨hs', img', hd, -⟩, hR⟩
  exact ⟨hs', img', hd, hR⟩

theorem Sound.serving {s : Store} (h : Sound s img v) : Serving s v :=
  ⟨h.shaped, ⟨h.cursor, h.mirrors.metadata.holds.nonzero.2.1⟩, h.floor⟩

/-- The terminal records that a previous boot has left. -/
theorem ends_reclaimFirst (h : Serving n.store v) (slots : List SlotIndex) :
    (n.reclaimSlots false slots).Ends fun _ r =>
      r.1.controller = n.controller ∧ (r.2 = true → ∃ v', Serving r.1.store v') := by
  induction slots generalizing n v with
  | nil => exact ⟨rfl, fun _ => ⟨v, h⟩⟩
  | cons slot rest ih =>
    unfold Ram.reclaimSlots
    simp only [Bool.false_and, Bool.false_eq_true, if_false]
    split
    · exact ih h
    refine (ends_reclaim h.toShaped slot).bind fun log outcome halters => ?_
    obtain ⟨s', mutation⟩ := outcome
    dsimp only at halters ⊢
    split
    · exact ⟨rfl, fun hc => by cases hc⟩
    rename_i hok
    obtain ⟨hterminal, hshaped, halloc⟩ := halters.done (not_not.1 hok)
    exact ih (h.put hshaped halloc (.freed hterminal.owned))

theorem lasts_of_uninitialized (h : n.controller.initialized = false) : Lasts n := by
  refine lasts_of_inoperative ?_
  rw [Controller.operates, h]
  rfl

/-- **The recovery of the controller.** -/
theorem ends_controllerRecover (h : Serving n.store v) (device hub : UInt8) (now : UInt32) :
    (n.recover device hub now).Ends fun _ r => Lasts r.1 := by
  unfold Ram.recover
  dsimp only
  split
  · exact lasts_of_uninitialized rfl
  refine (ends_policyRecover h.toShaped now).bind fun log outcome hrecovered => ?_
  obtain ⟨s', p', status⟩ := outcome
  dsimp only at hrecovered ⊢
  split
  · exact lasts_degrade _ _ _
  rename_i hok
  obtain ⟨hready, v', hshaped, halloc, hageing⟩ := hrecovered (not_not.1 hok)
  set n1 : Ram := ⟨s', { Controller.initial n.controller.policy with
    policy := p', source := device, destination := hub, initialized := true }⟩ with hn1
  have hoperates : n1.controller.operates = true := by
    rw [Controller.operates, show n1.controller.policy.ready = true from hready]
    rfl
  have hsteady1 : Steady n1 v' :=
    ⟨⟨h.evolved hshaped halloc hageing.evolving, hoperates, .idle rfl (.inl rfl)⟩, RuntimeState.noConfusion⟩
  obtain ⟨hsteady, hqueued⟩ := hsteady1.loadHead rfl
  generalize n1.loadHead = n2 at hsteady hqueued ⊢
  split
  · rename_i hspent
    have hactive : n2.controller.active = true := by
      by_contra hc
      rw [Ram.record, if_neg hc] at hspent
      simp at hspent
    obtain ⟨slot, hslot, -⟩ := hsteady.toTended.head hactive (by rw [hqueued hactive]; rfl)
    exact ends_failOrDegrade hsteady.toTended hactive hslot .storageFailure fun n =>
      result (if n.controller.active then .ok else .noActiveEvent)
  · exact hsteady.lasts

/-- The start, once the store has recovered. -/
theorem ends_start {s : Store} (h : Serving s v) (device hub : UInt8) (now : UInt32) :
    (do
      let (n, reclaimed) ← ({ Ram.initial with store := s } : Ram).reclaimTerminals false
      if !reclaimed then return (n, result .degraded)
      n.recover device hub now : StorageM (Ram × ControllerResult)).Ends fun _ r => Lasts r.1 := by
  unfold Ram.reclaimTerminals
  rw [if_neg (by simp [h.healthy])]
  refine (ends_reclaimFirst (n := { Ram.initial with store := s }) h _).bind fun log outcome hreclaimed => ?_
  obtain ⟨n1, reclaimed⟩ := outcome
  dsimp only at hreclaimed ⊢
  cases reclaimed with
  | false =>
    refine lasts_of_uninitialized ?_
    rw [hreclaimed.1]
    rfl
  | true =>
    obtain ⟨v', hserving⟩ := hreclaimed.2 rfl
    exact ends_controllerRecover hserving device hub now

/-- **A start on the flash**, wherever power is cut. -/
theorem Consistent.lasts_boot {c : Chronicle} (h : Consistent device hub c) (entropy : Option UInt32) (now : UInt32)
    (cut : Option (PowerCut Bytes)) : Lasts (c.machine.step device hub (.call (.boot entropy) now cut)).1.ram := by
  refine Machine.step_call (Q := fun m _ => Lasts m.ram) (ensures_bind ?_)
  have hoff : ∀ img', Lasts (Machine.off img').ram := fun _ => lasts_of_uninitialized rfl
  have hsound : ∀ {s : Store} {img : Image} {v : View}, Sound s img v → s.sourceDeviceId = device →
      geometry.Ensures img (do
        let (n, reclaimed) ← ({ Ram.initial with store := s } : Ram).reclaimTerminals false
        if !reclaimed then return (n, result .degraded)
        n.recover device hub now)
      (fun r img' => geometry.Ensures img' (pure (r.1, r.2.action)) (fun r img' => Lasts (Machine.mk r.1 img').ram)
        fun img' => Lasts (Machine.off img').ram) fun img' => Lasts (Machine.off img').ram := by
    intro s img v hsound hd
    refine ensures_mono (fun r img' hr => ?_) (fun img' _ => hoff img') (ensures_ends (ensures_bootSound hsound hd
      (P := fun _ => True) (Q := fun _ _ => True) (fun _ _ _ _ _ _ => trivial) fun _ _ _ _ _ _ _ _ _ => trivial)
      (ends_start hsound.serving device hub now))
    obtain ⟨log, hlasts⟩ := hr
    exact ensures_pure.2 hlasts
  unfold Ram.boot
  rcases h with ⟨hasleep, -⟩ | ⟨v, halive, -⟩
  · refine ensures_bind (ensures_mono ?_ (fun img' _ => hoff img') (ensures_recover_dormant noFaults_truthful hasleep.dormant))
    rintro ⟨s, status⟩ img' (⟨rfl, hs, -, hd⟩ | ⟨hfailed, hunhealthy, -⟩)
    · simp only [ne_eq, not_true_eq_false, if_false]
      exact hsound hs hd
    · dsimp only at hfailed hunhealthy ⊢
      rw [if_pos hfailed]
      exact ensures_pure.2 (ensures_pure.2 (lasts_of_unhealthy hunhealthy))
  · refine ensures_bind (ensures_recover_stored noFaults_truthful halive.stored (hoff _) fun s hs hd => ?_)
    simp only [ne_eq, not_true_eq_false, if_false]
    exact hsound hs hd

end Start

/-! ### Runs -/

/-- A call, what the storage has answered, and the RAM before and after. -/
structure DeliveryTurn where
  before : Ram
  call : Call
  now : UInt32
  log : Log StorageOp.Reply
  radio : RadioAction
  after : Ram

/-- **The controller between two starts**: its calls in any order, at any time, over any storage. -/
def delivery (device hub : UInt8) : System Ram DeliveryTurn where
  before := DeliveryTurn.before
  after := DeliveryTurn.after
  Steps t := t.call.delivers = true ∧ (t.call.run device hub t.now t.before).Logs t.log (t.after, t.radio)

/-- The RAM after a start that follows some history of the Node. -/
def started (device hub : UInt8) (img : Image) (actions : List Action) (entropy : Option UInt32) (now : UInt32) : Ram :=
  ((chronicle device hub img actions).machine.step device hub (.call (.boot entropy) now none)).1.ram

section Runs

variable {device hub : UInt8} {img : Image} {actions : List Action} {entropy : Option UInt32} {now : UInt32}
  {turns : List DeliveryTurn}

theorem lasts_run {n : Ram} (h : Lasts n) (hrun : (delivery device hub).IsRun n turns) : ∀ t ∈ turns, Lasts t.after := by
  have hinv := hrun.invariant (I := Lasts) (fun t _ hstep hbefore => ?_) h
  · exact fun t ht => (hinv.1 t ht).2
  · exact Prog.Logs.ends hstep.2 (hbefore.ends_call hstep.1 t.now)

/-- The turns of calls on a flash that works. -/
def delivered (device hub : UInt8) : Ram → FlashDisk → List (Call × UInt32) → List DeliveryTurn
  | _, _, [] => []
  | n, d, (call, now) :: rest =>
    let r := (call.run device hub now n).record geometry.flash d
    ⟨n, call, now, r.1.1, r.1.2.2, r.1.2.1⟩ :: delivered device hub r.1.2.1 r.2 rest

theorem isRun_delivered (n : Ram) (d : FlashDisk) {calls : List (Call × UInt32)}
    (h : ∀ c ∈ calls, c.1.delivers = true) : (delivery device hub).IsRun n (delivered device hub n d calls) := by
  induction calls generalizing n d with
  | nil => trivial
  | cons c rest ih =>
    refine ⟨rfl, ⟨h c List.mem_cons_self, Prog.logs_record geometry.flash _ d⟩, ih _ _ fun c' hc' => ?_⟩
    exact h c' (List.mem_cons_of_mem _ hc')

/-- A manual check-in goes on the air and is not answered in time. -/
def unansweredDelivery : List DeliveryTurn :=
  delivered 2 1 (started 2 1 blankImage [] (some 7) 0)
    (Disk.clean ((Machine.off blankImage).step 2 1 (.call (.boot (some 7)) 0 none)).1.image)
    [(.create ⟨Family.manualCheckIn, 0, 60, 1, bodyOf [1]⟩, 1), (.service false 0, 2), (.grantTransmit (some 9), 3),
      (.txCompleted, 4), (.service false 250, 2504)]

/-- **The delivery controller and its store stay in step.** -/
theorem delivery_inStep (h : Dormant img)
    (hrun : (delivery device hub).IsRun (started device hub img actions entropy now) turns) :
    ((started device hub img actions entropy now).usable = true → InStep (started device hub img actions entropy now)) ∧
      ∀ t ∈ turns, t.after.usable = true → InStep t.after := by
  have hinStep : ∀ n : Ram, Lasts n → n.usable = true → InStep n := by
    intro n hlasts hu
    obtain ⟨v, hsteady⟩ := hlasts hu
    exact hsteady.inStep
  have hstart : Lasts (started device hub img actions entropy now) :=
    (consistent_chronicle h actions).lasts_boot entropy now none
  exact ⟨hinStep _ hstart, fun t ht => hinStep _ (lasts_run hstart hrun t ht)⟩

theorem delivery_inStep_unanswered :
    (started 2 1 blankImage [] (some 7) 0).usable = true ∧
      unansweredDelivery.map (fun t => (t.after.usable, t.after.controller.state)) =
        [(true, .queued), (true, .ready), (true, .tx), (true, .waitAdmission), (true, .backoff)] ∧
      ∀ t ∈ unansweredDelivery, t.after.usable = true → InStep t.after :=
  ⟨by decide +kernel, by decide +kernel,
    (delivery_inStep dormant_blank (isRun_delivered _ _ (by decide))).2⟩

end Runs

end Redline.Node
