import Redline.Node.LifetimeTurns

/-!
# Lifetimes over runs

The books of a Node beside a clock (`Books`): while the policy is in use every account is paid, and the age of an Event
is covered by the account of its slot.  Every turn keeps them (`Books.turn`), if the clock is monotone and no lifetime
is left without a service for `2 ^ 32` milliseconds, and if a recovery finds at most one checkpoint of an age that has
not been taken off the remaining seconds (`ClockedTurn.Covered`).

`lifetime_never_exceeded`: then no Event goes on the air at the end of its lifetime or after it, remaining seconds never
grow, and a record expires at the first service at which its lifetime is over.  `crashes_keep_lifetimes` asks for the
same where a boot ends (`ClockedTurn.EndsCommitted`): that what the RAM has not committed there is at most one
checkpoint (`Books.committedBy`).  A late service leaves milliseconds uncommitted although it has just written the
remaining seconds, and so it is not enough that these have been written at most one checkpoint before every cut
(`lifetime_exceeded_after_late_service`).
-/

namespace Redline.Node

open Redline.Wire Redline.Records Redline.Lib

/-! ### What is assumed of a turn, and what is shown -/

/-- At most one checkpoint of the age that a QUEUED record has at the time `time` is not yet taken off its remaining
seconds. -/
def Clocked.CommittedBy (c : Clocked) (time : ℕ) : Prop :=
  ∀ i, ∀ r ∈ queuedRecordIn c.machine.image i, ∀ age ∈ c.ageAt time i,
    age + NodeRecord.remainingMilliseconds r ≤ r.lifetimeBudgetSeconds.toNat * 1000 + checkpointMilliseconds

namespace ClockedTurn

variable (t : ClockedTurn)

/-- The clock is monotone while the controller runs, and less than `2 ^ 32` milliseconds pass between two services. -/
structure InTime : Prop where
  forward : ∀ reached ∈ t.before.running, reached ≤ t.action.time
  stop : t.action.time ≤ t.action.stop
  serviced : ∀ call ∈ t.action.call?, t.before.machine.ram.services call = true → ∀ i, ∀ A ∈ t.before.account i,
    t.action.time < A.serviced + 2 ^ 32

/-- **At a recovery** at most `60 000` milliseconds of the age of a QUEUED record have not been taken off its remaining
seconds in the flash. -/
def Covered : Prop :=
  ∀ call ∈ t.action.call?, call.restarts = true → ∀ i, ∀ r ∈ queuedRecordIn t.before.machine.image i,
    ∀ age ∈ t.before.ageAt t.action.time i,
      age + NodeRecord.remainingMilliseconds r ≤ r.lifetimeBudgetSeconds.toNat * 1000 + checkpointMilliseconds

/-- **Where a boot ends**, in a loss of power or in another recovery, at most `60 000` milliseconds of the age of a
QUEUED record have not been taken off its remaining seconds in the flash. -/
structure EndsCommitted : Prop where
  crash : t.after.running = none → t.after.CommittedBy t.action.stop
  recovery : ∀ call ∈ t.action.call?, call.restarts = true → t.before.running.isSome = true →
    t.before.CommittedBy t.action.time

/-- Where power is lost, at most `60 000` milliseconds have passed since the remaining seconds were written. -/
def UpdatedLately : Prop :=
  t.after.running = none → ∀ i, ∀ age ∈ t.after.age i, ∀ updated ∈ t.after.updated i,
    age ≤ updated + checkpointMilliseconds

/-- **The lifetime is kept.** -/
structure WithinLifetime : Prop where
  /-- What goes on the air is QUEUED, and younger than its lifetime budget. -/
  transmits : ∀ event, t.radio.event? = some event → ∃ i r, queuedRecordIn t.after.machine.image i = some r ∧
    r.eventEpoch = event.epoch ∧ r.eventId = event.id ∧
      ∀ age ∈ t.before.ageAt t.action.time i, age < event.lifetimeBudgetSeconds.toNat * 1000
  /-- The remaining seconds of a record never grow. -/
  lessens : ∀ i, ∀ r ∈ recordIn t.before.machine.image i, ∀ r' ∈ recordIn t.after.machine.image i, r.Owned → r'.Owned →
    r'.eventEpoch = r.eventEpoch → r'.eventId = r.eventId → r'.remainingActiveSeconds ≤ r.remainingActiveSeconds
  /-- What remains, less what is not yet committed, is what there was at first less the time up to the last service. -/
  accounted : t.after.machine.ram.controller.policy.ready = true → ∀ i, ∀ A ∈ t.after.account i,
    ∀ r ∈ queuedRecordIn t.after.machine.image i,
      (t.after.machine.ram.controller.policy.runtime i).tracked = true ∧ A.start ≤ A.serviced ∧
        NodeRecord.remainingMilliseconds r + (A.serviced - A.start) = A.seconds * 1000 +
          (t.after.machine.ram.controller.policy.runtime i).uncommittedMilliseconds
  /-- A service that returns leaves a record EXPIRED exactly when its lifetime is over by then. -/
  expires : ∀ call ∈ t.action.call?, t.before.machine.ram.services call = true → t.after.running.isSome = true →
    ∀ i, ∀ A ∈ t.before.account i, ∀ r ∈ recordIn t.after.machine.image i,
      r.state = .expired ↔ A.seconds * 1000 ≤ t.action.time - A.start

end ClockedTurn

/-! ### The books of a living Node -/

/-- While the controller has run up to the time `reached`: the accounts are paid, and they cover the ages. -/
structure Balanced (c : Clocked) (v : View) (reached : ℕ) : Prop where
  pays : ∀ i A, c.account i = some A →
    A.serviced ≤ reached ∧ Pays A (c.machine.ram.controller.policy.runtime i) (v.records i)
  covers : ∀ i age, c.age i = some age → ∃ A, c.account i = some A ∧
    age + A.seconds * 1000 ≤ (v.records i).lifetimeBudgetSeconds.toNat * 1000 + (reached - A.start)

/-- The policy is in use only while the controller runs, between valid endpoints. -/
def Clocked.Started (device hub : UInt8) (c : Clocked) : Prop :=
  c.machine.ram.controller.policy.ready = true → hasValidEndpoints device hub = true ∧ c.running.isSome = true

/-- **The books.** -/
structure Books (device hub : UInt8) (c : Clocked) (v : View) : Prop where
  alive : Alive device hub c.machine v
  lively : ∀ i, (v.records i).state = .queued → 0 < NodeRecord.remainingMilliseconds (v.records i)
  queued : ∀ i, (v.records i).state ≠ .queued → c.age i = none ∧ c.account i = none
  started : c.Started device hub
  balanced : c.machine.ram.controller.policy.ready = true → ∀ reached, c.running = some reached → Balanced c v reached

section Turns

variable {device hub : UInt8} {v v' : View} {a : Action} {radio : RadioAction}

/-- A turn leaves every QUEUED record some time to live. -/
theorem Evolving.lively (h : Evolving v v')
    (hv : ∀ i, (v.records i).state = .queued → 0 < NodeRecord.remainingMilliseconds (v.records i)) {i : SlotIndex}
    (hq : (v'.records i).state = .queued) : 0 < NodeRecord.remainingMilliseconds (v'.records i) := by
  induction h generalizing i with
  | refl => exact hv i hq
  | tail _ hstep ih =>
    obtain ⟨slot, r, he, rfl⟩ := hstep
    by_cases his : i = slot
    · subst his
      rw [View.put_apply] at hq ⊢
      cases he with
      | failed => cases hq
      | expired => cases hq
      | freed => cases hq
      | armed hold => exact ih hold
      | checkpoint _ seconds hpos =>
        have hne : seconds.toNat ≠ 0 := fun hz => hpos (UInt32.toNat_inj.1 hz)
        exact Nat.mul_pos (Nat.pos_of_ne_zero hne) (by decide)
    · rw [View.put_apply_ne _ his] at hq ⊢
      exact ih hq

theorem Turn.lively (h : Turn device hub a v v' radio)
    (hv : ∀ i, (v.records i).state = .queued → 0 < NodeRecord.remainingMilliseconds (v.records i)) {i : SlotIndex}
    (hq : (v'.records i).state = .queued) : 0 < NodeRecord.remainingMilliseconds (v'.records i) := by
  cases h with
  | evolved h _ _ => exact h.lively hv hq
  | transmitted h harm _ _ => exact (h.put (.armed harm.1 harm.2) (owned_of_queued harm.1)).evolving.lively hv hq
  | @created input slot identity _ _ hvalid hslot _ _ =>
    by_cases his : i = slot
    · subst his
      have hnew : (v.created i identity input).records i =
          Store.queuedRecord ((v.records i).generation + 1) identity input := Function.update_self _ _ _
      rw [hnew]
      -- the least lifetime is a minute
      have hcontent := (Bool.and_eq_true_iff.1 hvalid).1
      simp only [isValidContent, Bool.and_eq_true, decide_eq_true_eq] at hcontent
      have hmin : 60 ≤ input.lifetimeBudgetSeconds.toNat := UInt32.le_iff_toNat_le.1 hcontent.1.1.1.1.2
      exact Nat.mul_pos (by change 0 < input.lifetimeBudgetSeconds.toNat; omega) (by decide)
    · have hold : (v.created slot identity input).records i = v.records i := Function.update_of_ne his _ _
      rw [hold] at hq ⊢
      exact hv i hq

/-- **Remaining seconds never grow.** -/
theorem Turn.lessens {img : Image} (h : Turn device hub a v v' radio) (hst : Stored device img v) {i : SlotIndex}
    (ho : (v.records i).Owned) (ho' : (v'.records i).Owned) (hkey : (v'.records i).key = (v.records i).key) :
    (v'.records i).remainingActiveSeconds ≤ (v.records i).remainingActiveSeconds := by
  rcases h.descends.record i ho' with hinh | hfresh
  · exact UInt32.le_iff_toNat_le.2 hinh.remaining
  · -- a new identity lies above every identity so far
    have hfloor := hfresh.floor
    rw [hkey] at hfloor
    exact absurd hfloor (not_le.2 (hst.ok.below i ho))

end Turns

/-! ### The books after a call -/

section Returned

variable {device hub : UInt8} {c : Clocked} {v v' : View} {call : Call} {time reached : ℕ} {m' : Machine}
  {i : SlotIndex}

theorem returned_of_not_queued (hst : Stored device m'.image v') (hq : (v'.records i).state ≠ .queued) :
    (c.returned call time m').age i = none ∧ (c.returned call time m').account i = none := by
  simp [Clocked.returned, hst.queuedRecordIn_eq, hq]

theorem returned_age (hst : Stored device m'.image v') (hq : (v'.records i).state = .queued) :
    (c.returned call time m').age i = if c.machine.tracks call i then some 0 else c.ageAt time i := by
  simp [Clocked.returned, hst.queuedRecordIn_eq, hq]

theorem returned_account (hst : Stored device m'.image v') (hq : (v'.records i).state = .queued) :
    (c.returned call time m').account i =
      if call.restarts || c.machine.tracks call i then some ⟨time, (v'.records i).remainingActiveSeconds.toNat, time⟩
      else if c.machine.ram.services call then (c.account i).map fun A => A.upTo time
      else c.account i := by
  simp [Clocked.returned, hst.queuedRecordIn_eq, hq]

theorem tracks_of_restarts {m : Machine} (h : call.restarts = true) (i : SlotIndex) : m.tracks call i = false := by
  cases call with
  | recoverController => exact Bool.and_false _
  | boot entropy => exact Bool.and_false _
  | _ => cases h

/-- A call that services the lifetimes starts none. -/
theorem Ram.starts_none {n : Ram} (h : n.services call = true) :
    call.restarts = false ∧ ∀ (m : Machine) i, m.tracks call i = false := by
  cases call with
  | recoverController => cases h
  | boot entropy => cases h
  | trackEnqueued slot => cases h
  | create input => cases h
  | _ => exact ⟨rfl, fun m i => Bool.and_false _⟩

/-- A service needs a policy in use. -/
theorem Ram.ready_of_services {n : Ram} (h : n.services call = true) : n.controller.policy.ready = true := by
  have hu : n.usable = true := by
    by_contra hu
    rw [services_of_unusable (by simpa using hu)] at h
    cases h
  exact (usable_iff.1 hu).2.2.2

theorem Clocked.ageAt_eq (hrunning : c.running = some reached) {age : ℕ} (h : c.ageAt time i = some age) :
    ∃ before, c.age i = some before ∧ age = before + (time - reached) := by
  obtain ⟨before, hbefore, rfl⟩ := Option.map_eq_some_iff.1 h
  refine ⟨before, hbefore, ?_⟩
  rw [Clocked.elapsed, hrunning]
  rfl

/-- A lifetime that has just been started is paid. -/
theorem pays_of_start {rt : SlotRuntime} {r : NodeRecord} (hrt : rt = ⟨true, UInt32.ofNat time, 0⟩)
    (hlive : 0 < NodeRecord.remainingMilliseconds r) :
    Pays ⟨time, r.remainingActiveSeconds.toNat, time⟩ rt r := by
  subst hrt
  refine ⟨rfl, rfl, le_rfl, ?_, hlive⟩
  simp [NodeRecord.remainingMilliseconds]

/-- The recovery takes a checkpoint off what is QUEUED afterwards. -/
theorem PolicyRecovered.debit {now : UInt32} {p : Policy} {v0 v1 : View} (h : PolicyRecovered now v0 p v1)
    (hre : Reclaiming v v0) (hq : (v1.records i).state = .queued) :
    (v.records i).state = .queued ∧
      NodeRecord.remainingMilliseconds (v1.records i) + checkpointMilliseconds =
        NodeRecord.remainingMilliseconds (v.records i) := by
  have hq0 := (h.ageing.evolving.inherits i (owned_of_queued hq)).queued hq
  have hqv := (hre.evolving.inherits i (owned_of_queued hq0)).queued hq0
  refine ⟨hqv, ?_⟩
  have hdebit := h.debited i
  rw [hre.queued hqv] at hdebit
  generalize v1.records i = r1 at hdebit hq ⊢
  cases hdebit with
  | idle hno => exact absurd hqv hno
  | expired => cases hq
  | checkpoint _ hgt => exact remainingMilliseconds_checkpoint hgt

/-- What the recovery has started is paid for when it returns, and nothing has been taken off since the debit. -/
theorem PolicyRecovered.pays {p : Policy} {v0 v1 : View} {runtime : SlotIndex → SlotRuntime}
    (h : PolicyRecovered (UInt32.ofNat time) v0 p v1)
    (hmoves : Moves (UInt32.ofNat time) (p.runtime, v1) (runtime, v')) (hq : (v'.records i).state = .queued)
    (hlive : 0 < NodeRecord.remainingMilliseconds (v1.records i)) :
    Pays ⟨time, (v'.records i).remainingActiveSeconds.toNat, time⟩ (runtime i) (v'.records i) := by
  have hinh := hmoves.evolving.inherits i (owned_of_queued hq)
  have hq1 := hinh.queued hq
  have hstart : Pays ⟨time, (v1.records i).remainingActiveSeconds.toNat, time⟩ (p.runtime i) (v1.records i) :=
    pays_of_start (h.tracked i hq1) hlive
  have hcharged := Charged.moves hmoves le_rfl (Nat.lt_add_of_pos_right (by decide)) (.queued hq1 (Or.inl hstart))
  have hpays : Pays ⟨time, (v1.records i).remainingActiveSeconds.toNat, time⟩ (runtime i) (v'.records i) := by
    cases hcharged with
    | queued _ hpays => exact hpays.elim id id
    | expired he =>
      rw [hq] at he
      cases he
    | left hno => exact absurd hq hno
  have hsame : (v'.records i).remainingActiveSeconds.toNat = (v1.records i).remainingActiveSeconds.toNat := by
    have hbalance := hpays.balance
    have hle := hinh.remaining
    simp only [NodeRecord.remainingMilliseconds] at hbalance hle
    omega
  rwa [hsame]

/-- **Slots stay charged** when a call services them. -/
theorem Balanced.charged (h : Balanced c v reached) {A : Account} (hA : c.account i = some A)
    (hq : (v.records i).state = .queued) (hforward : reached ≤ time) (hlt : time < A.serviced + 2 ^ 32) {n' : Ram}
    (hmoves : Moves (UInt32.ofNat time) (c.machine.ram.controller.policy.runtime, v)
      (n'.controller.policy.runtime, v')) :
    Charged time A (n'.controller.policy.runtime i) (v'.records i) := by
  obtain ⟨hserviced, hpays⟩ := h.pays i A hA
  exact Charged.moves hmoves (hserviced.trans hforward) hlt (.queued hq (Or.inl hpays))

/-- Only QUEUED slots are in the books. -/
theorem balanced_returned (hst : Stored device m'.image v')
    (hpays : ∀ i A, (v'.records i).state = .queued → (c.returned call time m').account i = some A →
      A.serviced ≤ time ∧ Pays A (m'.ram.controller.policy.runtime i) (v'.records i))
    (hcovers : ∀ i age, (v'.records i).state = .queued → (c.returned call time m').age i = some age →
      ∃ A, (c.returned call time m').account i = some A ∧
        age + A.seconds * 1000 ≤ (v'.records i).lifetimeBudgetSeconds.toNat * 1000 + (time - A.start)) :
    Balanced (c.returned call time m') v' time := by
  refine ⟨fun i A hA => hpays i A ?_ hA, fun i age hage => hcovers i age ?_ hage⟩
  · by_contra hq
    rw [(returned_of_not_queued hst hq).2] at hA
    cases hA
  · by_contra hq
    rw [(returned_of_not_queued hst hq).1] at hage
    cases hage

/-- **A recovery opens the books again**: its debit covers what has not been taken off. -/
theorem balanced_of_restart (hst : Stored device m'.image v') (hcall : call.restarts = true)
    (hlive : ∀ i, (v.records i).state = .queued → 0 < NodeRecord.remainingMilliseconds (v.records i))
    (hcovered : ∀ i, (v.records i).state = .queued → ∀ age, c.ageAt time i = some age →
      age + NodeRecord.remainingMilliseconds (v.records i) ≤
        (v.records i).lifetimeBudgetSeconds.toNat * 1000 + checkpointMilliseconds)
    {p : Policy} {v0 v1 : View} (hre : Reclaiming v v0) (hrec : PolicyRecovered (UInt32.ofNat time) v0 p v1)
    (hmoves : Moves (UInt32.ofNat time) (p.runtime, v1) (m'.ram.controller.policy.runtime, v')) :
    Balanced (c.returned call time m') v' time := by
  have hev : Evolving v v1 := hre.evolving.trans hrec.ageing.evolving
  have hev' : Evolving v v' := hev.trans hmoves.evolving
  have hopened : ∀ i, (v'.records i).state = .queued → (c.returned call time m').account i =
      some ⟨time, (v'.records i).remainingActiveSeconds.toNat, time⟩ := fun i hq => by
    rw [returned_account hst hq, hcall]
    rfl
  refine balanced_returned hst (fun i A hq hA => ?_) fun i age hq hage => ?_
  · rw [hopened i hq] at hA
    cases hA
    have hq1 := (hmoves.evolving.inherits i (owned_of_queued hq)).queued hq
    exact ⟨le_rfl, hrec.pays hmoves hq (hev.lively hlive hq1)⟩
  · rw [returned_age hst hq, tracks_of_restarts hcall, if_neg Bool.false_ne_true] at hage
    refine ⟨_, hopened i hq, ?_⟩
    have hinh := hmoves.evolving.inherits i (owned_of_queued hq)
    obtain ⟨hqv, hdebit⟩ := hrec.debit hre (hinh.queued hq)
    have hlifetime := (hev'.inherits i (owned_of_queued hq)).event.lifetime
    have hle : NodeRecord.remainingMilliseconds (v'.records i) ≤ NodeRecord.remainingMilliseconds (v1.records i) :=
      Nat.mul_le_mul_right 1000 hinh.remaining
    have hcover := hcovered i hqv age hage
    rw [hlifetime]
    change age + NodeRecord.remainingMilliseconds (v'.records i) ≤ _
    omega

/-- A service charges the accounts up to now. -/
theorem Balanced.served (h : Balanced c v reached) (hst : Stored device m'.image v')
    (hcall : c.machine.ram.services call = true) (hrunning : c.running = some reached) (hforward : reached ≤ time)
    (hserviced : ∀ i A, c.account i = some A → time < A.serviced + 2 ^ 32)
    (hmoves : Moves (UInt32.ofNat time) (c.machine.ram.controller.policy.runtime, v)
      (m'.ram.controller.policy.runtime, v'))
    (hcurrent : m'.ram.Current (UInt32.ofNat time) v') : Balanced (c.returned call time m') v' time := by
  obtain ⟨hrestarts, htracks⟩ := Ram.starts_none hcall
  have haccount : ∀ i, (v'.records i).state = .queued →
      (c.returned call time m').account i = (c.account i).map fun A => A.upTo time := fun i hq => by
    rw [returned_account hst hq, hrestarts, htracks, hcall]
    rfl
  refine balanced_returned hst (fun i A hq hA => ?_) fun i age hq hage => ?_
  · rw [haccount i hq] at hA
    obtain ⟨B, hB, rfl⟩ := Option.map_eq_some_iff.1 hA
    have hold := (hmoves.evolving.inherits i (owned_of_queued hq)).queued hq
    have hlt := hserviced i B hB
    have hcharged := h.charged hB hold hforward hlt hmoves
    exact ⟨le_rfl, hcharged.current ((h.pays i B hB).1.trans hforward) hlt hq (hcurrent i hq)⟩
  · rw [returned_age hst hq, htracks, if_neg Bool.false_ne_true] at hage
    obtain ⟨before, hbefore, rfl⟩ := Clocked.ageAt_eq hrunning hage
    obtain ⟨A, hA, hcovers⟩ := h.covers i before hbefore
    refine ⟨A.upTo time, by rw [haccount i hq, hA]; rfl, ?_⟩
    rw [(hmoves.evolving.inherits i (owned_of_queued hq)).event.lifetime]
    obtain ⟨hreached, hpays⟩ := h.pays i A hA
    have hstart := hpays.order
    simp only [Account.upTo]
    omega

/-- A call that services no lifetime changes none, and may start some. -/
theorem Balanced.idle (h : Balanced c v reached) (hst : Stored device m'.image v') (hcall : call.restarts = false)
    (hserves : c.machine.ram.services call = false) (hrunning : c.running = some reached) (hforward : reached ≤ time)
    (hqueued : ∀ i, (v.records i).state ≠ .queued → c.age i = none ∧ c.account i = none)
    (hlive : ∀ i, (v'.records i).state = .queued → 0 < NodeRecord.remainingMilliseconds (v'.records i))
    (hkept : ∀ i, (v'.records i).state = .queued → v'.records i = v.records i ∨ (v.records i).state = .free)
    (hruntime : ∀ i, (v'.records i).state = .queued → m'.ram.controller.policy.runtime i =
      if c.machine.tracks call i then ⟨true, UInt32.ofNat time, 0⟩ else c.machine.ram.controller.policy.runtime i) :
    Balanced (c.returned call time m') v' time := by
  have haccount : ∀ i, (v'.records i).state = .queued → (c.returned call time m').account i =
      if c.machine.tracks call i then some ⟨time, (v'.records i).remainingActiveSeconds.toNat, time⟩
      else c.account i := fun i hq => by
    rw [returned_account hst hq, hcall, hserves, Bool.false_or]
    rfl
  -- a record whose books go on is the one of before
  have hsame : ∀ i, (v'.records i).state = .queued → (c.age i ≠ none ∨ c.account i ≠ none) →
      v'.records i = v.records i := by
    intro i hq hbooks
    refine (hkept i hq).resolve_right fun hfree => ?_
    obtain ⟨hage, haccount⟩ := hqueued i (by rw [hfree]; exact NodeState.noConfusion)
    exact hbooks.elim (fun hc => hc hage) fun hc => hc haccount
  refine balanced_returned hst (fun i A hq hA => ?_) fun i age hq hage => ?_
  · have hrt := hruntime i hq
    rw [haccount i hq] at hA
    split at hA
    · rename_i htracks
      cases hA
      rw [if_pos htracks] at hrt
      exact ⟨le_rfl, pays_of_start hrt (hlive i hq)⟩
    · rename_i htracks
      rw [if_neg htracks] at hrt
      obtain ⟨hreached, hpays⟩ := h.pays i A hA
      have hne : c.account i ≠ none := by
        rw [hA]
        exact Option.some_ne_none _
      refine ⟨hreached.trans hforward, ?_⟩
      rw [hsame i hq (Or.inr hne), hrt]
      exact hpays
  · rw [returned_age hst hq] at hage
    split at hage
    · rename_i htracks
      cases hage
      refine ⟨_, by rw [haccount i hq, if_pos htracks], ?_⟩
      have hvalid := (validateNodeRecord_owned (owned_of_queued hq)).1 (hst.valid i)
      have hle := UInt32.le_iff_toNat_le.1 hvalid.2.1
      dsimp only
      omega
    · rename_i htracks
      obtain ⟨before, hbefore, rfl⟩ := Clocked.ageAt_eq hrunning hage
      obtain ⟨A, hA, hcovers⟩ := h.covers i before hbefore
      have hne : c.age i ≠ none := by
        rw [hbefore]
        exact Option.some_ne_none _
      refine ⟨A, by rw [haccount i hq, if_neg htracks, hA], ?_⟩
      rw [hsame i hq (Or.inl hne)]
      obtain ⟨hreached, hpays⟩ := h.pays i A hA
      have hstart := hpays.order
      omega

/-- **What the RAM has not committed at a power cut** is what a recovery has to cover: the milliseconds that the last
service has left, and those since then. -/
theorem Balanced.covered (h : Balanced c v reached) {A : Account} (hA : c.account i = some A)
    (hrunning : c.running = some reached) {stop age : ℕ} (hforward : reached ≤ stop) (hage : c.ageAt stop i = some age)
    (hcommitted : (c.machine.ram.controller.policy.runtime i).uncommittedMilliseconds + (stop - A.serviced) ≤
      checkpointMilliseconds) :
    age + NodeRecord.remainingMilliseconds (v.records i) ≤
      (v.records i).lifetimeBudgetSeconds.toNat * 1000 + checkpointMilliseconds := by
  obtain ⟨before, hbefore, rfl⟩ := Clocked.ageAt_eq hrunning hage
  obtain ⟨B, hB, hcovers⟩ := h.covers i before hbefore
  obtain rfl : A = B := Option.some.inj (hA.symm.trans hB)
  obtain ⟨hserviced, hpays⟩ := h.pays i A hA
  have hbalance := hpays.balance
  have horder := hpays.order
  omega

end Returned

/-! ### The books after a turn -/

section Turn

variable {device hub : UInt8} {c c' : Clocked} {v v' : View} {call : Call} {time : ℕ} {a : Action} {radio : RadioAction}
  {n' : Ram} {img' : Image}

/-- The policy was in use, or has come into use by a recovery. -/
def Clocked.Resumes (device hub : UInt8) (c : Clocked) (call : Call) : Prop :=
  c.machine.ram.controller.policy.ready = true ∨ call.restarts = true ∧ hasValidEndpoints device hub = true

theorem Clocked.Started.returned (h : c.Started device hub) (hresumes : c.Resumes device hub call) {m' : Machine} :
    hasValidEndpoints device hub = true ∧ (c.returned call time m').running = some time := by
  rcases hresumes with hold | ⟨hcall, hv⟩
  · obtain ⟨hv, hrunning⟩ := h hold
    obtain ⟨reached, hreached⟩ := Option.isSome_iff_exists.1 hrunning
    refine ⟨hv, ?_⟩
    simp only [Clocked.returned, hreached, Option.map_some]
    split <;> rfl
  · exact ⟨hv, by simp only [Clocked.returned, hcall, if_true]⟩

/-- While the policy is in use the accounts are paid. -/
theorem Books.reached (h : Books device hub c v) (hready : c.machine.ram.controller.policy.ready = true) :
    ∃ reached, c.running = some reached ∧ Balanced c v reached := by
  obtain ⟨reached, hreached⟩ := Option.isSome_iff_exists.1 (h.started hready).2
  exact ⟨reached, hreached, h.balanced hready reached hreached⟩

/-- While the policy is in use, what it has not committed and the time since the last service say what is not yet taken
off the remaining seconds. -/
theorem Books.committedBy (h : Books device hub c v) (hready : c.machine.ram.controller.policy.ready = true) {stop : ℕ}
    (hforward : ∀ reached ∈ c.running, reached ≤ stop)
    (hcommitted : ∀ i, ∀ A ∈ c.account i,
      (c.machine.ram.controller.policy.runtime i).uncommittedMilliseconds + (stop - A.serviced) ≤
        checkpointMilliseconds) : c.CommittedBy stop := by
  obtain ⟨reached, hrunning, hbalanced⟩ := h.reached hready
  intro i r hr age hage
  obtain ⟨rfl, -⟩ := h.alive.stored.queuedRecordIn_iff.1 hr
  obtain ⟨before, hbefore, -⟩ := Clocked.ageAt_eq hrunning hage
  obtain ⟨A, hA, -⟩ := hbalanced.covers i before hbefore
  exact hbalanced.covered hA hrunning (hforward reached hrunning) hage (hcommitted i A hA)

theorem Books.accounted (h : Books device hub c v) (hready : c.machine.ram.controller.policy.ready = true)
    {i : SlotIndex} {A : Account} (hA : c.account i = some A) {r : NodeRecord}
    (hr : queuedRecordIn c.machine.image i = some r) :
    (c.machine.ram.controller.policy.runtime i).tracked = true ∧ A.start ≤ A.serviced ∧
      NodeRecord.remainingMilliseconds r + (A.serviced - A.start) = A.seconds * 1000 +
        (c.machine.ram.controller.policy.runtime i).uncommittedMilliseconds := by
  obtain ⟨reached, -, hbalanced⟩ := h.reached hready
  obtain ⟨rfl, -⟩ := h.alive.stored.queuedRecordIn_iff.1 hr
  have hpays := (hbalanced.pays i A hA).2
  exact ⟨hpays.tracked, hpays.order, hpays.balance⟩

theorem Books.lessens (h : Books device hub c v) (hst : Stored device img' v') (hturn : Turn device hub a v v' radio)
    {i : SlotIndex} {r r' : NodeRecord} (hr : recordIn c.machine.image i = some r) (hr' : recordIn img' i = some r')
    (ho : r.Owned) (ho' : r'.Owned) (hepoch : r'.eventEpoch = r.eventEpoch) (hid : r'.eventId = r.eventId) :
    r'.remainingActiveSeconds ≤ r.remainingActiveSeconds := by
  rw [h.alive.stored.recordIn] at hr
  rw [hst.recordIn] at hr'
  cases hr
  cases hr'
  exact hturn.lessens h.alive.stored ho ho' (key_inj.2 ⟨hepoch, hid⟩)

theorem Books.transmits (h : Books device hub c v) (hst : Stored device img' v')
    (hturn : Turn device hub a v v' radio)
    (hproceeds : Proceeds device hub call (UInt32.ofNat time) c.machine v n' v' radio)
    (hforward : ∀ reached ∈ c.running, reached ≤ time)
    (hserviced : c.machine.ram.services call = true → ∀ i, ∀ A ∈ c.account i, time < A.serviced + 2 ^ 32)
    {event : Event} (hevent : radio.event? = some event) :
    ∃ i r, queuedRecordIn img' i = some r ∧ r.eventEpoch = event.epoch ∧ r.eventId = event.id ∧
      ∀ age ∈ c.ageAt time i, age < event.lifetimeBudgetSeconds.toNat * 1000 := by
  cases radio with
  | none => cases hevent
  | receive => cases hevent
  | transmit bytes =>
    obtain ⟨slot, event', hdec, hair⟩ := hturn.onAir (m := ⟨n', img'⟩) hst
    obtain rfl : event' = event := Option.some.inj (hdec.symm.trans hevent)
    refine ⟨slot, _, hst.queuedRecordIn_iff.2 ⟨rfl, hair.queued⟩, hair.epoch.symm, hair.id.symm, fun age hage => ?_⟩
    cases hproceeds with
    | restarted _ hquiet => exact absurd rfl (hquiet bytes)
    | idle _ _ hquiet => exact absurd rfl (hquiet bytes)
    | served hcall hmoves hcurrent =>
      obtain ⟨reached, hrunning, hbalanced⟩ := h.reached (Ram.ready_of_services hcall)
      have hle := hforward reached hrunning
      obtain ⟨before, hbefore, rfl⟩ := Clocked.ageAt_eq hrunning hage
      obtain ⟨A, hA, hcovers⟩ := hbalanced.covers slot before hbefore
      have hlt := hserviced hcall slot A hA
      obtain ⟨hreached, hpays⟩ := hbalanced.pays slot A hA
      have hcharged := hbalanced.charged hA (hair.inherits.queued hair.queued) hle hlt hmoves
      -- the account is paid up to now, and so its time is not over
      have hunder := (hcharged.current (hreached.trans hle) hlt hair.queued (hcurrent slot hair.queued)).under
      have hlifetime := (hair.content ⟨_, _, _, _, _⟩ ⟨rfl, rfl, rfl, rfl, rfl⟩).lifetime
      rw [hlifetime]
      change _ < (v'.records slot).lifetimeBudgetSeconds.toNat * 1000
      rw [hair.inherits.event.lifetime]
      have horder := hpays.order
      simp only [Account.upTo] at hunder
      omega

/-- A service expires what is over, and nothing else. -/
theorem Books.expires (h : Books device hub c v) (hst : Stored device img' v')
    (hproceeds : Proceeds device hub call (UInt32.ofNat time) c.machine v n' v' radio)
    (hforward : ∀ reached ∈ c.running, reached ≤ time) (hcall : c.machine.ram.services call = true)
    {i : SlotIndex} {A : Account} (hA : c.account i = some A) (hlt : time < A.serviced + 2 ^ 32) {r : NodeRecord}
    (hr : recordIn img' i = some r) : r.state = .expired ↔ A.seconds * 1000 ≤ time - A.start := by
  rw [hst.recordIn] at hr
  cases hr
  have hq : (v.records i).state = .queued := by
    by_contra hq
    rw [(h.queued i hq).2] at hA
    cases hA
  cases hproceeds with
  | restarted hrestarts =>
    rw [(Ram.starts_none hcall).1] at hrestarts
    cases hrestarts
  | idle _ hserves =>
    rw [hcall] at hserves
    cases hserves
  | served _ hmoves hcurrent =>
    obtain ⟨reached, hrunning, hbalanced⟩ := h.reached (Ram.ready_of_services hcall)
    have hle := hforward reached hrunning
    have hcharged := hbalanced.charged hA hq hle hlt hmoves
    cases hcharged with
    | queued hq' hpays =>
      have hpaid := (Charged.queued hq' hpays).current ((hbalanced.pays i A hA).1.trans hle) hlt hq' (hcurrent i hq')
      have hunder : time - A.start < A.seconds * 1000 := hpaid.under
      rw [hq']
      exact ⟨NodeState.noConfusion, fun hover => absurd hover (not_le.2 hunder)⟩
    | expired he hover => exact ⟨fun _ => hover, fun _ => he⟩
    | left _ he hunder => exact ⟨fun hc => absurd hc he, fun hover => absurd hover (not_le.2 hunder)⟩

/-- The turn leaves a living Node with its books, and has kept the lifetime. -/
def KeepsBooks (device hub : UInt8) (t : ClockedTurn) : Prop := (∃ v', Books device hub t.after v') ∧ t.WithinLifetime

/-- **Power is lost.** -/
theorem Books.lost (h : Books device hub c v) {action : TimedAction} {c0 : Clocked} {stop : ℕ}
    (hst : Stored device img' v') (hturn : Turn device hub a v v' .none) :
    KeepsBooks device hub ⟨c, action, c0.lost stop img', .none⟩ := by
  refine ⟨⟨v', .off hst, fun i hq => hturn.lively h.lively hq, fun i hq => ?_, fun hready => (by cases hready),
    fun hready => (by cases hready)⟩, ?_⟩
  · simp [Clocked.lost, hst.queuedRecordIn_eq, hq]
  · exact ⟨fun _ hevent => (by cases hevent), fun i r hr r' hr' => h.lessens hst hturn hr hr',
      fun hready => (by cases hready), fun _ _ _ hrunning => (by cases hrunning)⟩

/-- **A call has returned.** -/
theorem Books.returned (h : Books device hub c v) {cut : Option (PowerCut Bytes × ℕ)}
    (htime : (⟨c, .call call time cut, c.returned call time ⟨n', img'⟩, radio⟩ : ClockedTurn).InTime)
    (hcovered : (⟨c, .call call time cut, c.returned call time ⟨n', img'⟩, radio⟩ : ClockedTurn).Covered)
    (halive : Alive device hub ⟨n', img'⟩ v') (hturn : Turn device hub a v v' radio)
    (hproceeds : Proceeds device hub call (UInt32.ofNat time) c.machine v n' v' radio)
    (hresumes : n'.controller.policy.ready = true → c.Resumes device hub call) :
    KeepsBooks device hub ⟨c, .call call time cut, c.returned call time ⟨n', img'⟩, radio⟩ := by
  have hst : Stored device img' v' := halive.stored
  have hstarted : n'.controller.policy.ready = true → hasValidEndpoints device hub = true ∧
      (c.returned call time ⟨n', img'⟩).running = some time := fun hready => h.started.returned (hresumes hready)
  have hforward : ∀ reached ∈ c.running, reached ≤ time := htime.forward
  have hserviced : c.machine.ram.services call = true → ∀ i, ∀ A ∈ c.account i, time < A.serviced + 2 ^ 32 :=
    fun hcall => htime.serviced call rfl hcall
  have hlive' : ∀ i, (v'.records i).state = .queued → 0 < NodeRecord.remainingMilliseconds (v'.records i) :=
    fun i hq => hturn.lively h.lively hq
  have hbalanced : n'.controller.policy.ready = true → Balanced (c.returned call time ⟨n', img'⟩) v' time := by
    intro hready
    cases hproceeds with
    | restarted hcall _ hclocks =>
      obtain ⟨v0, p, v1, hre, hrec, hmoves⟩ := hclocks (hstarted hready).1 hready
      refine balanced_of_restart hst hcall h.lively (fun i hq age hage => ?_) hre hrec hmoves
      exact hcovered call rfl hcall i _ (h.alive.stored.queuedRecordIn_iff.2 ⟨rfl, hq⟩) age hage
    | served hcall hmoves hcurrent =>
      obtain ⟨reached, hrunning, hold⟩ := h.reached (Ram.ready_of_services hcall)
      exact hold.served hst hcall hrunning (hforward reached hrunning) (hserviced hcall) hmoves hcurrent
    | idle hcall hserves _ hkept hruntime =>
      have hold : c.machine.ram.controller.policy.ready = true :=
        (hresumes hready).resolve_right fun hrestarts => by
          rw [hcall] at hrestarts
          exact Bool.false_ne_true hrestarts.1
      obtain ⟨reached, hrunning, hbalanced⟩ := h.reached hold
      exact hbalanced.idle hst hcall hserves hrunning (hforward reached hrunning) h.queued hlive' hkept hruntime
  have hbooks : Books device hub (c.returned call time ⟨n', img'⟩) v' := by
    refine ⟨halive, hlive', fun i hq => returned_of_not_queued hst hq, fun hready => ?_, fun hready reached hr => ?_⟩
    · obtain ⟨hv, hrunning⟩ := hstarted hready
      exact ⟨hv, by rw [hrunning]; rfl⟩
    · rw [(hstarted hready).2] at hr
      cases hr
      exact hbalanced hready
  refine ⟨⟨v', hbooks⟩, fun event hevent => ?_, fun i r hr r' hr' => h.lessens hst hturn hr hr',
    fun hready i A hA r hr => hbooks.accounted hready hA hr, ?_⟩
  · exact h.transmits hst hturn hproceeds hforward hserviced hevent
  · rintro _ ⟨⟩ hcall - i A hA r hr
    exact h.expires hst hproceeds hforward hcall hA (hserviced hcall i A hA) hr

theorem Turn.floor (h : Turn device hub a v v' radio) (hno : a.input? = none) : v'.floor = v.floor := by
  cases h with
  | evolved h _ _ => exact h.floor
  | transmitted h harm _ _ => exact (h.put (.armed harm.1 harm.2) (owned_of_queued harm.1)).evolving.floor
  | created hinput =>
    rw [hno] at hinput
    cases hinput

/-- What an image stands for is the same twice, and so is what has happened. -/
theorem Proceeds.congr {now : UInt32} {cut : Option (PowerCut Bytes)} {m : Machine} {w : View}
    (h : Proceeds device hub call now m v n' w radio) (hturn : Turn device hub (.call call now cut) v v' radio)
    (hsame : w.records = v'.records) : Proceeds device hub call now m v n' v' radio := by
  -- only a creation moves the floor
  have heq : Evolving v w → (Action.call call now cut).input? = none → w = v' := fun hev hno =>
    View.ext hsame (hev.floor.trans (hturn.floor hno).symm)
  cases h with
  | restarted hcall hquiet hclocks =>
    refine .restarted hcall hquiet fun hv hready => ?_
    obtain ⟨v0, p, v1, hre, hrec, hmoves⟩ := hclocks hv hready
    have hev : Evolving v w := (hre.evolving.trans hrec.ageing.evolving).trans hmoves.evolving
    have hno : (Action.call call now cut).input? = none := by
      cases call with
      | recoverController => rfl
      | boot entropy => rfl
      | _ => cases hcall
    obtain rfl := heq hev hno
    exact ⟨v0, p, v1, hre, hrec, hmoves⟩
  | served hcall hmoves hcurrent =>
    have hno : (Action.call call now cut).input? = none := by
      cases call with
      | enqueue input => cases hcall
      | create input => cases hcall
      | _ => rfl
    obtain rfl := heq hmoves.evolving hno
    exact .served hcall hmoves hcurrent
  | idle hcall hserves hquiet hkept hruntime =>
    rw [hsame] at hkept hruntime
    exact .idle hcall hserves hquiet hkept hruntime

/-- A call beside the clock ends as the call does. -/
theorem Clocked.step_call {cut : Option (PowerCut Bytes × ℕ)} {Q : Ram × RadioAction → Image → Prop} {P : Image → Prop}
    (hstep : c.step device hub (.call call time cut) = (c', radio))
    (h : geometry.Ensures c.machine.image (call.run device hub (UInt32.ofNat time) c.machine.ram) Q P) :
    (∃ r img' ops, Prog.Returns (fun _ _ => True) (call.run device hub (UInt32.ofNat time) c.machine.ram) ops r ∧
      Q r img' ∧ c' = c.returned call time ⟨r.1, img'⟩ ∧ radio = r.2) ∨
    ∃ c0 stop img', P img' ∧ c' = Clocked.lost c0 stop img' ∧ radio = .none := by
  have hx := ensures_exec h (cut.map Prod.fst)
  simp only [Clocked.step] at hstep
  cases hexec : exec geometry.flash geometry.undecodable (call.run device hub (UInt32.ofNat time) c.machine.ram)
      (cut.map Prod.fst) (Disk.clean c.machine.image) with
  | done r d =>
    obtain ⟨ops, hret⟩ := returns_exec hexec
    rw [hexec] at hx hstep
    obtain ⟨img', rfl, hQ⟩ := hx
    cases hstep
    exact Or.inl ⟨r, img', ops, hret, hQ, rfl, rfl⟩
  | lost img' =>
    rw [hexec] at hx hstep
    cases hstep
    exact Or.inr ⟨_, _, img', hx, rfl, rfl⟩

/-- **A turn of a living Node** keeps the books, and the lifetime. -/
theorem Books.turn {t : ClockedTurn} (h : Books device hub t.before v) (hstep : (clockwork device hub).Steps t)
    (htime : t.InTime) (hcovered : t.Covered) : KeepsBooks device hub t := by
  obtain ⟨c, action, c', radio⟩ := t
  have hstep : c.step device hub action = (c', radio) := hstep
  cases action with
  | powerLoss stop =>
    cases hstep
    have hturn : Turn device hub .powerLoss v v .none := .of_ageing .refl quiet_none
    exact h.lost h.alive.stored hturn
  | call call time cut =>
    have hcall := ensures_and (h.alive.ensures_call call (UInt32.ofNat time) (cut.map Prod.fst))
      (h.alive.ensures_done call (UInt32.ofNat time))
    rcases Clocked.step_call hstep hcall with
      ⟨r, img', ops, hret, ⟨hturned, hdone⟩, rfl, rfl⟩ | ⟨c0, stop, img', hcut, rfl, rfl⟩
    · obtain ⟨v', halive, hturn⟩ := hturned
      obtain ⟨w, hst, hproceeds⟩ := hdone
      exact h.returned htime hcovered halive hturn (hproceeds.congr hturn (hst.unique halive.stored))
        (ready_of_returns hret)
    · obtain ⟨v', hst, hturn⟩ := hcut.1
      exact h.lost hst hturn

end Turn

/-! ### Before the first initialisation -/

/-- Before the first initialisation the books are empty. -/
structure Sleeps (device hub : UInt8) (c : Clocked) : Prop where
  asleep : Asleep device hub c.machine
  empty : ∀ i, c.age i = none ∧ c.account i = none
  started : c.Started device hub

/-- The Node sleeps with empty books, or lives with its books kept. -/
def Keeps (device hub : UInt8) (c : Clocked) : Prop := Sleeps device hub c ∨ ∃ v, Books device hub c v

section Sleep

variable {device hub : UInt8} {c : Clocked}

theorem Wakes.queuedRecordIn {m : Machine} (h : Wakes device hub m) (i : SlotIndex) :
    queuedRecordIn m.image i = none := by
  rcases h with h | ⟨v, h, hvacant⟩
  · exact h.dormant.queuedRecordIn i
  · rw [h.stored.queuedRecordIn_eq, if_neg]
    rw [hvacant i]
    exact NodeState.noConfusion

theorem Wakes.keeps (h : Wakes device hub c.machine) (hempty : ∀ i, c.age i = none ∧ c.account i = none)
    (hstarted : c.Started device hub) : Keeps device hub c := by
  rcases h with h | ⟨v, h, hvacant⟩
  · exact Or.inl ⟨h, hempty, hstarted⟩
  · have hidle : ∀ i, (v.records i).state ≠ .queued := fun i hq => by
      rw [hvacant i] at hq
      cases hq
    refine Or.inr ⟨v, h, fun i hq => absurd hq (hidle i), fun i _ => hempty i, hstarted, fun _ reached _ => ?_⟩
    refine ⟨fun i A hA => ?_, fun i age hage => ?_⟩
    · rw [(hempty i).2] at hA
      cases hA
    · rw [(hempty i).1] at hage
      cases hage

/-- What wakes has done nothing with lifetimes. -/
theorem Sleeps.wakes {t : ClockedTurn} (h : Sleeps device hub t.before) (hwakes : Wakes device hub t.after.machine)
    (hquiet : t.radio.Quiet) (hempty : ∀ i, t.after.age i = none ∧ t.after.account i = none)
    (hstarted : t.after.Started device hub) : Keeps device hub t.after ∧ t.WithinLifetime := by
  refine ⟨hwakes.keeps hempty hstarted, fun event hevent => ?_, fun i r hr r' _ ho => ?_, fun _ i A hA => ?_,
    fun _ _ _ _ i A hA => ?_⟩
  · rw [hquiet.event?] at hevent
    cases hevent
  · exact absurd (h.asleep.dormant.recordIn hr) ho
  · rw [(hempty i).2] at hA
    cases hA
  · rw [(h.empty i).2] at hA
    cases hA

theorem Sleeps.turn {t : ClockedTurn} (h : Sleeps device hub t.before) (hstep : (clockwork device hub).Steps t) :
    Keeps device hub t.after ∧ t.WithinLifetime := by
  obtain ⟨c, action, c', radio⟩ := t
  have hstep : c.step device hub action = (c', radio) := hstep
  have hlost : ∀ (c0 : Clocked) (stop : ℕ) (img : Image), Wakes device hub (.off img) →
      Keeps device hub (c0.lost stop img) ∧ (⟨c, action, c0.lost stop img, .none⟩ : ClockedTurn).WithinLifetime := by
    intro c0 stop img hwakes
    have hnone : ∀ i, queuedRecordIn img i = none := hwakes.queuedRecordIn
    refine Sleeps.wakes (t := ⟨c, action, c0.lost stop img, .none⟩) h hwakes quiet_none (fun i => ⟨?_, rfl⟩)
      fun hready => (by cases hready)
    simp [Clocked.lost, hnone i]
  cases action with
  | powerLoss stop =>
    cases hstep
    have hasleep := (h.asleep.step .powerLoss).1
    exact hlost c stop c.machine.image hasleep
  | call call time cut =>
    rcases Clocked.step_call hstep (h.asleep.ensures_call call (UInt32.ofNat time)) with
      ⟨r, img', ops, hret, ⟨hwakes, hquiet⟩, rfl, rfl⟩ | ⟨c0, stop, img', hwakes, rfl, rfl⟩
    · have hnone : ∀ i, queuedRecordIn img' i = none := hwakes.queuedRecordIn
      refine h.wakes hwakes hquiet (fun i => ?_) fun hready => ?_
      · simp [Clocked.returned, hnone i]
      · obtain ⟨hv, hrunning⟩ := h.started.returned (ready_of_returns hret hready)
        exact ⟨hv, by rw [hrunning]; rfl⟩
    · exact hlost c0 stop img' hwakes

theorem Keeps.turn {t : ClockedTurn} (h : Keeps device hub t.before) (hstep : (clockwork device hub).Steps t)
    (htime : t.InTime) (hcovered : t.Covered) : Keeps device hub t.after ∧ t.WithinLifetime := by
  rcases h with h | ⟨v, h⟩
  · exact h.turn hstep
  · obtain ⟨hbooks, hwithin⟩ := h.turn hstep htime hcovered
    exact ⟨Or.inr hbooks, hwithin⟩

end Sleep

/-! ### Every run -/

section Runs

variable {device hub : UInt8} {img : Image} {turns : List ClockedTurn}

theorem keeps_off (h : Dormant img) : Keeps device hub (.off img) := by
  refine Or.inl ⟨⟨h, rfl, fun v => ?_, configured_initial⟩, fun _ => ⟨rfl, rfl⟩, fun hready => (by cases hready)⟩
  exact .of_state RuntimeState.noConfusion RuntimeState.noConfusion

/-- **Lifetimes are neither exceeded nor regained**, over any calls and any number of cuts. -/
theorem lifetime_never_exceeded (h : Dormant img) (hrun : (clockwork device hub).IsRun (.off img) turns)
    (htime : ∀ t ∈ turns, t.InTime) (hcovered : ∀ t ∈ turns, t.Covered) : ∀ t ∈ turns, t.WithinLifetime := by
  have hkeeps := hrun.invariant (I := Keeps device hub)
    (fun t ht hstep hbefore => (hbefore.turn hstep (htime t ht) (hcovered t ht)).1) (keeps_off h)
  exact fun t ht => ((hkeeps.1 t ht).1.turn (hrun.steps ht) (htime t ht) (hcovered t ht)).2

/-- No time passes while power is off. -/
theorem Clocked.CommittedBy.anytime {c : Clocked} {stop : ℕ} (h : c.CommittedBy stop) (hoff : c.running = none)
    (time : ℕ) : c.CommittedBy time := by
  have hsame : ∀ i, c.ageAt time i = c.ageAt stop i := fun i => by
    simp only [Clocked.ageAt, Clocked.elapsed, hoff]
    rfl
  intro i r hr age hage
  rw [hsame i] at hage
  exact h i r hr age hage

/-- What a recovery has to cover is what was there where the boot before it ended. -/
theorem ClockedTurn.EndsCommitted.covered {t : ClockedTurn} (h : t.EndsCommitted)
    (hoff : t.before.running = none → ∀ time, t.before.CommittedBy time) : t.Covered := by
  intro call hcall hrestarts
  cases hrunning : t.before.running with
  | none => exact hoff hrunning t.action.time
  | some reached => exact h.recovery call hcall hrestarts (by rw [hrunning]; rfl)

/-- **Crashes neither stretch a lifetime nor give it back**, over any calls and any number of cuts: it is enough to know
what is not committed where a boot ends. -/
theorem crashes_keep_lifetimes (h : Dormant img) (hrun : (clockwork device hub).IsRun (.off img) turns)
    (htime : ∀ t ∈ turns, t.InTime) (hends : ∀ t ∈ turns, t.EndsCommitted) : ∀ t ∈ turns, t.WithinLifetime := by
  have hkeeps := hrun.invariant
    (I := fun c => Keeps device hub c ∧ (c.running = none → ∀ time, c.CommittedBy time))
    (fun t ht hstep hbefore =>
      have hcovered := (hends t ht).covered hbefore.2
      ⟨(hbefore.1.turn hstep (htime t ht) hcovered).1, fun hoff => ((hends t ht).crash hoff).anytime hoff⟩)
    ⟨keeps_off h, fun _ _ _ _ _ _ hage => (by cases hage)⟩
  intro t ht
  obtain ⟨hbefore, hoff⟩ := (hkeeps.1 t ht).1
  exact (hbefore.turn (hrun.steps ht) (htime t ht) ((hends t ht).covered hoff)).2

theorem isRun_play {c : Clocked} (actions : List TimedAction) :
    (clockwork device hub).IsRun c (c.play device hub actions) := by
  induction actions generalizing c with
  | nil => trivial
  | cons a actions ih => exact ⟨rfl, rfl, ih⟩

instance (t : ClockedTurn) : Decidable t.InTime :=
  decidable_of_iff ((∀ reached ∈ t.before.running, reached ≤ t.action.time) ∧ t.action.time ≤ t.action.stop ∧
    ∀ call ∈ t.action.call?, t.before.machine.ram.services call = true → ∀ i, ∀ A ∈ t.before.account i,
      t.action.time < A.serviced + 2 ^ 32) ⟨fun h => ⟨h.1, h.2.1, h.2.2⟩, fun h => ⟨h.forward, h.stop, h.serviced⟩⟩

instance (t : ClockedTurn) : Decidable t.Covered :=
  inferInstanceAs (Decidable (∀ call ∈ t.action.call?, call.restarts = true → ∀ i,
    ∀ r ∈ queuedRecordIn t.before.machine.image i, ∀ age ∈ t.before.ageAt t.action.time i,
      age + NodeRecord.remainingMilliseconds r ≤ r.lifetimeBudgetSeconds.toNat * 1000 + checkpointMilliseconds))

instance (t : ClockedTurn) : Decidable t.UpdatedLately :=
  inferInstanceAs (Decidable (t.after.running = none → ∀ i, ∀ age ∈ t.after.age i, ∀ updated ∈ t.after.updated i,
    age ≤ updated + checkpointMilliseconds))

/-- A manual check-in that may live four minutes. -/
def fourMinutes : EventInput := ⟨Family.manualCheckIn, 0, 240, 1, bodyOf [1]⟩

/-- Power is lost a minute after the creation; the Event is transmitted, and expires. -/
def timelyService : List TimedAction :=
  [.call (.boot (some 7)) 0 none, .call (.create fourMinutes) 0 none, .call (.service false 0) 59000 none,
    .powerLoss 60000, .call (.boot none) 0 none, .call (.service false 0) 61000 none,
    .call (.grantTransmit (some 9)) 62000 none, .call .txCompleted 63000 none, .call (.service false 0) 180000 none]

theorem lifetime_never_exceeded_timely :
    ((Clocked.play 2 1 (.off blankImage) timelyService).map fun t => (t.radio.event?.map fun event => event.id,
        (recordIn t.after.machine.image 0).map NodeRecord.state)) =
      [(none, some .free), (none, some .queued), (none, some .queued), (none, some .queued), (none, some .queued),
        (none, some .queued), (some 1, some .queued), (none, some .queued), (none, some .expired)] ∧
      ∀ t ∈ Clocked.play 2 1 (.off blankImage) timelyService, t.WithinLifetime :=
  ⟨by decide +kernel, lifetime_never_exceeded dormant_blank (isRun_play timelyService) (by decide +kernel)
    (by decide +kernel)⟩

instance (c : Clocked) (time : ℕ) : Decidable (c.CommittedBy time) :=
  inferInstanceAs (Decidable (∀ i, ∀ r ∈ queuedRecordIn c.machine.image i, ∀ age ∈ c.ageAt time i,
    age + NodeRecord.remainingMilliseconds r ≤ r.lifetimeBudgetSeconds.toNat * 1000 + checkpointMilliseconds))

instance (t : ClockedTurn) : Decidable t.EndsCommitted :=
  decidable_of_iff ((t.after.running = none → t.after.CommittedBy t.action.stop) ∧
    ∀ call ∈ t.action.call?, call.restarts = true → t.before.running.isSome = true → t.before.CommittedBy t.action.time)
    ⟨fun h => ⟨h.1, h.2⟩, fun h => ⟨h.crash, h.recovery⟩⟩

/-- Power is lost twice, and the controller recovers once more in between; every recovery takes a minute off. -/
def restartedService : List TimedAction :=
  [.call (.boot (some 7)) 0 none, .call (.create fourMinutes) 0 none, .powerLoss 60000,
    .call (.boot none) 0 none, .call .recoverController 60000 none, .call (.service false 0) 60500 none,
    .call (.grantTransmit (some 9)) 61000 none, .powerLoss 110000, .call (.boot none) 0 none,
    .call (.service false 0) 59999 none, .call (.service false 0) 60000 none]

theorem restartedService_ends :
    ((Clocked.play 2 1 (.off blankImage) restartedService).map fun t => (t.radio.event?.map fun event => event.id,
        (recordIn t.after.machine.image 0).map NodeRecord.state)) =
      [(none, some .free), (none, some .queued), (none, some .queued), (none, some .queued), (none, some .queued),
        (none, some .queued), (some 1, some .queued), (none, some .queued), (none, some .queued),
        (none, some .queued), (none, some .expired)] ∧
      (∀ t ∈ Clocked.play 2 1 (.off blankImage) restartedService, t.InTime) ∧
        ∀ t ∈ Clocked.play 2 1 (.off blankImage) restartedService, t.EndsCommitted := by
  decide +kernel

theorem crashes_keep_lifetimes_twice :
    ((Clocked.play 2 1 (.off blankImage) restartedService).map fun t => (t.radio.event?.map fun event => event.id,
        (recordIn t.after.machine.image 0).map NodeRecord.state)) =
      [(none, some .free), (none, some .queued), (none, some .queued), (none, some .queued), (none, some .queued),
        (none, some .queued), (some 1, some .queued), (none, some .queued), (none, some .queued),
        (none, some .queued), (none, some .expired)] ∧
      ∀ t ∈ Clocked.play 2 1 (.off blankImage) restartedService, t.WithinLifetime :=
  ⟨restartedService_ends.1, crashes_keep_lifetimes dormant_blank (isRun_play restartedService) restartedService_ends.2.1
    restartedService_ends.2.2⟩

/-- The service after `119 000` milliseconds writes one checkpoint and leaves `59 000` uncommitted, and power is lost
`59 000` milliseconds later. -/
def lateService : List TimedAction :=
  [.call (.boot (some 7)) 0 none, .call (.create fourMinutes) 0 none, .call (.service false 0) 119000 none,
    .powerLoss 178000, .call (.boot none) 0 none, .call (.service false 0) 61000 none,
    .call (.grantTransmit (some 9)) 62000 none]

/-- **A late service gives lifetime away**: the Event goes on the air at the age of its four minutes. -/
theorem lifetime_exceeded_after_late_service :
    ¬ ∀ (device hub : UInt8) (img : Image) (turns : List ClockedTurn), Dormant img →
      (clockwork device hub).IsRun (.off img) turns → (∀ t ∈ turns, t.InTime) → (∀ t ∈ turns, t.UpdatedLately) →
        ∀ t ∈ turns, t.WithinLifetime := by
  intro h
  have hwithin := h 2 1 blankImage (Clocked.play 2 1 (.off blankImage) lateService) dormant_blank
    (isRun_play lateService) (by decide +kernel) (by decide +kernel)
  obtain ⟨t, ht, event, hevent, hlate⟩ : ∃ t ∈ Clocked.play 2 1 (.off blankImage) lateService,
      ∃ event ∈ t.radio.event?, ∀ i, ∀ r ∈ queuedRecordIn t.after.machine.image i,
        ∃ age ∈ t.before.ageAt t.action.time i, age = event.lifetimeBudgetSeconds.toNat * 1000 := by
    decide +kernel
  obtain ⟨i, r, hr, -, -, hage⟩ := (hwithin t ht).transmits event hevent
  obtain ⟨age, hmem, hover⟩ := hlate i r hr
  exact absurd (hage age hmem) (not_lt.2 hover.ge)

end Runs

end Redline.Node
