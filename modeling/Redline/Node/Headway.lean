import Redline.Node.InStep

/-!
# Headway of the head of the queue

The `Stage` of a delivery is its phase together with the attempts that the active Event has left, and `Stage.Passes`
says which stage may follow which while that Event is QUEUED.  Each call of a steady controller leaves it where it is,
passes to such a stage, or ends the Event at the head (`Advances`), and new Events line up behind those that are QUEUED
(`Follows`).  A call that serves the stage (`Ram.serves`) leaves it where it is only before a deadline, or when nothing
is QUEUED (`Ram.Waits`).
-/

namespace Redline.Node

open Redline.Wire Redline.Records Redline.Lib

/-! ### Stages -/

/-- Where the delivery stands, and the attempts that the active Event has left. -/
inductive Stage
  | idle
  | pending (left : ℕ)
  | air (left : ℕ)
  | wait (left : ℕ)
  | backoff (left : ℕ)
  | ended
  deriving DecidableEq

namespace Stage

/-- The steps that do not end a QUEUED Event. -/
inductive Passes : Stage → Stage → Prop
  | takenUp {left : ℕ} (h : left ≤ 5) : Passes .idle (.pending left)
  | armed {left : ℕ} : Passes (.pending (left + 1)) (.air left)
  | completed {left : ℕ} : Passes (.air left) (.wait left)
  | startFailed {left : ℕ} : Passes (.air (left + 1)) (.backoff (left + 1))
  | unanswered {left : ℕ} : Passes (.wait (left + 1)) (.backoff (left + 1))
  | again {left : ℕ} : Passes (.backoff (left + 1)) (.pending (left + 1))
  | reclaimed : Passes .ended .idle

/-- The stages that have a deadline. -/
def timed : Stage → Bool
  | .wait _ | .backoff _ => true
  | _ => false

end Stage

def RuntimeState.stage (left : ℕ) : RuntimeState → Stage
  | .queued | .ready | .txPrepare => .pending left
  | .tx => .air left
  | .waitAdmission => .wait left
  | .backoff => .backoff left
  | .released => .idle
  | .failed | .expired => .ended

def attemptsLeft (r : NodeRecord) : ℕ := maxAttempts.toNat - r.attemptsUsed.toNat

def Ram.stage (n : Ram) : Stage :=
  if n.controller.active then n.controller.state.stage ((n.record.map attemptsLeft).getD 0) else .idle

/-- The call is the one that its stage waits for. -/
def Ram.serves (n : Ram) (call : Call) : Bool :=
  match n.stage, call with
  | .idle, .service _ _ => true
  | .pending _, .grantTransmit _ => n.controller.state = .ready
  | .air _, .txCompleted => true
  | .air _, .txStartFailed _ => true
  | .wait _, .service _ _ => true
  | .backoff _, .service _ _ => true
  | .ended, .reclaimTerminal => true
  | .ended, .reclaimTerminals _ => true
  | _, _ => false

/-! ### What a call does -/

/-- The head of the queue has left it. -/
def Gone (v v' : View) : Prop := ∃ slot, Head v slot ∧ (v'.records slot).state ≠ .queued

/-- A QUEUED record was QUEUED before, or is newer than all that were. -/
def Follows (v v' : View) : Prop :=
  ∀ j, (v'.records j).state = .queued →
    ((v.records j).state = .queued ∧ (v'.records j).key = (v.records j).key) ∨
      ∀ i, (v.records i).state = .queued → (v.records i).key < (v'.records j).key

/-- There is nothing to be served: the deadline is still ahead, or nothing is QUEUED. -/
def Ram.Waits (now : UInt32) (n : Ram) (v : View) : Prop :=
  match n.stage with
  | .idle => ∀ j, (v.records j).state ≠ .queued
  | .wait _ => now - n.controller.deadlineOrigin < admissionTimeoutMilliseconds
  | .backoff _ => now - n.controller.deadlineOrigin < n.controller.deadlineDuration
  | _ => False

/-- The deadline of a stage that has one. -/
structure SameTimer (n n' : Ram) : Prop where
  origin : n'.controller.deadlineOrigin = n.controller.deadlineOrigin
  duration : n'.controller.deadlineDuration = n.controller.deadlineDuration

/-- **What a call does for the head of the queue**, at the time `now`. -/
inductive Advances (now : UInt32) (served : Prop) (n : Ram) (v : View) (n' : Ram) (v' : View) : Prop
  | rests (hstage : n'.stage = n.stage) (htimer : n.stage.timed = true → SameTimer n n')
      (hwaits : served → n.Waits now v)
  | passes (hpasses : n.stage.Passes n'.stage) (hstamp : n'.stage.timed = true → n'.controller.deadlineOrigin = now)
  | ends (hgone : Gone v v') (hstage : n'.stage = .idle ∨ n'.stage = .ended) (hchanged : n'.stage ≠ n.stage)

/-- What a call leaves that creates nothing. -/
def Heads (now : UInt32) (served : Prop) (n : Ram) (v : View) (n' : Ram) : Prop :=
  n'.usable = true → ∃ v', Steady n' v' ∧ Evolving v v' ∧ Advances now served n v n' v'

section Results

variable {now : UInt32} {served : Prop} {n n' n1 : Ram} {v v' v1 : View} {slot : SlotIndex}

theorem Evolving.follows (h : Evolving v v') : Follows v v' := by
  intro j hj
  have hinh := h.inherits j (owned_of_queued hj)
  exact .inl ⟨hinh.queued hj, hinh.event.key⟩

theorem Evolving.not_queued (h : Evolving v v') {i : SlotIndex} (hi : (v.records i).state ≠ .queued) :
    (v'.records i).state ≠ .queued := by
  intro hq
  exact hi ((h.inherits i (owned_of_queued hq)).queued hq)

theorem follows_created {identity : Identity} {input : EventInput} (hok : v.Ok)
    (hfloor : v.floor ≤ key identity.epoch identity.id) : Follows v (v.created slot identity input) := by
  intro j hj
  by_cases his : j = slot
  · subst his
    right
    intro i hi
    have hnew : (v.created j identity input).records j =
        Store.queuedRecord ((v.records j).generation + 1) identity input := Function.update_self _ _ _
    have hlt := hok.below i (owned_of_queued hi)
    rw [hnew]
    exact lt_of_lt_of_le hlt hfloor
  · left
    have hold : (v.created slot identity input).records j = v.records j := Function.update_of_ne his _ _
    rw [hold] at hj ⊢
    exact ⟨hj, rfl⟩

/-- Whatever ends the head afterwards ends the head that was there before. -/
theorem Gone.after (hhead : Head v slot) (hev : Evolving v v1) (hev' : Evolving v1 v') (hok : v1.Ok)
    (h : Gone v1 v') : Gone v v' := by
  refine ⟨slot, hhead, ?_⟩
  by_cases hq : (v1.records slot).state = .queued
  · obtain ⟨slot', hhead', hgone⟩ := h
    have hle := hhead'.least slot hq
    have hge := (hhead.evolving hev hq).least slot' hhead'.queued
    have hsame : slot' = slot :=
      hok.distinct slot' slot (owned_of_queued hhead'.queued) (owned_of_queued hq) (le_antisymm hle hge)
    rw [← hsame]
    exact hgone
  · exact hev'.not_queued hq

theorem heads_of_unusable (h : n'.usable = false) : Heads now served n v n' := by
  intro hu
  rw [h] at hu
  cases hu

theorem heads_degrade (m : Ram) (status : ControllerStatus) (receive : Bool) :
    Heads now served n v (m.degrade status receive).1 := by
  refine heads_of_unusable ?_
  simp [Ram.usable, Ram.degrade]

theorem heads_of_unhealthy (h : n'.store.healthy = false) : Heads now served n v n' :=
  heads_of_unusable (usable_of_unhealthy h)

theorem SameTimer.trans {n'' : Ram} (h : SameTimer n n') (h' : SameTimer n' n'') : SameTimer n n'' :=
  ⟨h'.origin.trans h.origin, h'.duration.trans h.duration⟩

theorem Ram.Waits.before (hstage : n1.stage = n.stage) (htimer : SameTimer n n1) (hidle : n.stage ≠ .idle)
    (h : n1.Waits now v1) : n.Waits now v := by
  unfold Ram.Waits at h ⊢
  rw [hstage, htimer.origin, htimer.duration] at h
  cases hs : n.stage with
  | idle => exact absurd hs hidle
  | wait left => rwa [hs] at h
  | backoff left => rwa [hs] at h
  | pending left => rw [hs] at h; exact h
  | air left => rw [hs] at h; exact h
  | ended => rw [hs] at h; exact h

/-- What follows a part of the call that leaves the stage as it is. -/
theorem Heads.after (hhead : Head v slot) (hidle : n.stage ≠ .idle) (hev : Evolving v v1) (hok : v1.Ok)
    (hstage : n1.stage = n.stage) (htimer : SameTimer n n1) (h : Heads now served n1 v1 n') :
    Heads now served n v n' := by
  intro hu
  obtain ⟨v', hsteady, hev', hadvances⟩ := h hu
  refine ⟨v', hsteady, hev.trans hev', ?_⟩
  cases hadvances with
  | rests hstage' htimer' hwaits =>
    refine .rests (hstage'.trans hstage) (fun htimed => ?_) fun hserved => ?_
    · rw [← hstage] at htimed
      exact htimer.trans (htimer' htimed)
    · exact (hwaits hserved).before hstage htimer hidle
  | passes hpasses hstamp =>
    rw [hstage] at hpasses
    exact .passes hpasses hstamp
  | ends hgone hended hchanged =>
    rw [hstage] at hchanged
    exact .ends (hgone.after hhead hev hev' hok) hended hchanged

end Results

/-! ### The stage of a steady controller -/

section Stages

variable {n n' : Ram} {v v' : View} {slot : SlotIndex} {now : UInt32}

theorem stage_of_inactive (h : n.controller.active = false) : n.stage = .idle := by
  unfold Ram.stage
  rw [h]
  rfl

theorem Serving.stage (h : Serving n.store v) (hactive : n.controller.active = true)
    (hslot : n.controller.activeSlot = slot.val) :
    n.stage = n.controller.state.stage (attemptsLeft (v.records slot)) := by
  have hrec : n.record = some (v.records slot) := by
    rw [Ram.record, if_pos hactive, hslot, h.recordAt]
  unfold Ram.stage
  rw [if_pos hactive, hrec]
  rfl

theorem stage_ne_ended {state : RuntimeState} (h : state.live = true) (left : ℕ) : state.stage left ≠ .ended := by
  cases state <;> simp [RuntimeState.live, RuntimeState.stage] at h ⊢

theorem stage_ne_idle {state : RuntimeState} (h : state.live = true) (left : ℕ) : state.stage left ≠ .idle := by
  cases state <;> simp [RuntimeState.live, RuntimeState.stage] at h ⊢

theorem stage_of_terminal {state : RuntimeState} (h : state = .failed ∨ state = .expired) (left : ℕ) :
    state.stage left = .ended := by
  rcases h with rfl | rfl <;> rfl

/-- A phase of an attempt belongs to the head of the queue, which has been attempted. -/
theorem Tended.tried (h : Tended n v) (htried : n.controller.state.tried = true) :
    n.controller.active = true ∧ n.controller.state.live = true ∧
      ∃ slot : SlotIndex, n.controller.activeSlot = slot.val ∧ Head v slot ∧
        1 ≤ (v.records slot).attemptsUsed.toNat ∧
        (n.controller.state = .backoff → BacksOff n.controller (v.records slot)) := by
  have hlive : n.controller.state.live = true := by
    generalize n.controller.state = state at htried ⊢
    cases state <;> simp [RuntimeState.live, RuntimeState.tried] at htried ⊢
  cases h.attends with
  | idle _ hidle =>
    generalize n.controller.state = state at htried hidle
    cases state <;> simp [RuntimeState.live, RuntimeState.tried] at htried hidle
  | live slot hactive hslot _ hhead hattempts hbackoff =>
    exact ⟨hactive, hlive, slot, hslot, hhead, hattempts htried, hbackoff⟩
  | released _ _ _ hstate => simp [hstate, RuntimeState.live] at hlive
  | failed _ _ _ hstate => simp [hstate, RuntimeState.live] at hlive
  | expired _ _ _ hstate => simp [hstate, RuntimeState.live] at hlive

/-- An Event that backs off has between one and four attempts left. -/
theorem BacksOff.left {c : Controller} {r : NodeRecord} (h : BacksOff c r) (hpos : 1 ≤ r.attemptsUsed.toNat) :
    1 ≤ attemptsLeft r ∧ attemptsLeft r ≤ 4 := by
  obtain ⟨base, -, hbase, -⟩ := h
  have hlt : r.attemptsUsed.toNat - 1 < 4 := (List.getElem?_eq_some_iff.1 hbase).1
  have hleft : attemptsLeft r = 5 - r.attemptsUsed.toNat := rfl
  omega

/-- The active Event waits for the radio, whether it may have it or not. -/
theorem Tended.pended (h : Tended n v) (hactive : n.controller.active = true)
    (hslot : n.controller.activeSlot = slot.val) (hhead : Head v slot) {state : RuntimeState}
    (hstate : state = .queued ∨ state = .ready) :
    Steady (n.setState state) v ∧ (n.setState state).stage = .pending (attemptsLeft (v.records slot)) := by
  have hlive : state.live = true := by rcases hstate with rfl | rfl <;> rfl
  have htried : state.tried = false := by rcases hstate with rfl | rfl <;> rfl
  have hne : state ≠ .txPrepare := by rcases hstate with rfl | rfl <;> exact RuntimeState.noConfusion
  have hsteady : Steady (n.setState state) v := ⟨h.untried hactive hslot hhead hlive htried, hne⟩
  refine ⟨hsteady, ?_⟩
  rw [hsteady.serving.stage hactive hslot]
  rcases hstate with rfl | rfl <;> rfl

/-- Servicing the lifetimes leaves the stage as it is, if the Event has not expired. -/
theorem Survives.stage (h : Tended n v) (hs : Survives now n v n' v') (hactive : n.controller.active = true)
    (hlive : n.controller.state.live = true) (hsame : n'.controller.state = n.controller.state) :
    n'.stage = n.stage := by
  obtain ⟨slot, hslot, hhead⟩ := h.head hactive hlive
  have hactive' := hs.active.trans hactive
  have hslot' := hs.activeSlot.trans hslot
  have hattempts : (v'.records slot).attemptsUsed = (v.records slot).attemptsUsed := by
    rcases hs.round.record slot with ⟨hnot, -⟩ | ⟨-, hattempts, -⟩
    · exact absurd hhead.queued hnot
    · exact hattempts
  rw [hs.serving.stage hactive' hslot', h.serving.stage hactive hslot, hsame]
  unfold attemptsLeft
  rw [hattempts]

theorem Survives.gone (h : Tended n v) (hs : Survives now n v n' v') (hactive : n.controller.active = true)
    (hlive : n.controller.state.live = true) (hexpired : n'.controller.state = .expired) :
    n'.stage = .ended ∧ Gone v v' := by
  obtain ⟨slot, hslot, hhead⟩ := h.head hactive hlive
  have hactive' := hs.active.trans hactive
  have hslot' := hs.activeSlot.trans hslot
  constructor
  · rw [hs.serving.stage hactive' hslot', hexpired]
    rfl
  refine ⟨slot, hhead, ?_⟩
  cases hs.attends with
  | idle hidle =>
    rw [hidle] at hactive'
    cases hactive'
  | live _ _ _ hlive' => simp [hexpired, RuntimeState.live] at hlive'
  | released _ _ _ hstate => simp [hexpired] at hstate
  | failed _ _ _ hstate => simp [hexpired] at hstate
  | expired slot' _ hs' _ hrec =>
    obtain rfl : slot' = slot := Fin.ext (hs'.symm.trans hslot')
    rw [hrec]
    exact NodeState.noConfusion

theorem ends_serviceLifetime_timer (n : Ram) (now : UInt32) :
    (n.serviceLifetime now).Ends fun _ r => r.1.controller.state ≠ .expired → SameTimer n r.1 := by
  unfold Ram.serviceLifetime
  refine (Prog.ends_logs _).bind fun log outcome _ => ?_
  obtain ⟨s, p, status⟩ := outcome
  dsimp only
  split
  · exact fun _ => ⟨rfl, rfl⟩
  split
  · exact fun _ => ⟨rfl, rfl⟩
  split
  · exact fun hne => absurd rfl hne
  · exact fun _ => ⟨rfl, rfl⟩

/-- The head after its lifetime has been serviced. -/
inductive Outlives (now : UInt32) (n : Ram) (v : View) (n' : Ram) (v' : View) : Prop
  | lives (hs : Survives now n v n' v') (hstate : n'.controller.state = n.controller.state)
      (hstage : n'.stage = n.stage) (htimer : SameTimer n n')
  | dies (hs : Survives now n v n' v') (hstate : n'.controller.state = .expired) (hstage : n'.stage = .ended)
      (hgone : Gone v v')

theorem ends_outlive (h : Tended n v) (hactive : n.controller.active = true)
    (hlive : n.controller.state.live = true) (now : UInt32) :
    (n.serviceLifetime now).Ends fun _ r =>
      (r.2 = false ∧ r.1.usable = false) ∨ (r.2 = true ∧ ∃ v', Outlives now n v r.1 v') := by
  have hreleased : n.controller.state ≠ .released := by
    intro hc
    rw [hc] at hlive
    cases hlive
  refine (Prog.ends_logs _).mono fun log r hlog => ?_
  rcases hlog.ends (ends_serviceLifetime h hreleased now) with hlost | ⟨htrue, v', hs⟩
  · exact .inl hlost
  refine .inr ⟨htrue, v', ?_⟩
  by_cases hexpired : r.1.controller.state = .expired
  · obtain ⟨hstage, hgone⟩ := hs.gone h hactive hlive hexpired
    exact .dies hs hexpired hstage hgone
  · have hsame := hs.state.resolve_right hexpired
    exact .lives hs hsame (hs.stage h hactive hlive hsame) (hlog.ends (ends_serviceLifetime_timer n now) hexpired)

/-- The calls that service the lifetimes first go on with a head that lives. -/
theorem ends_outlive_bind {Q : Ram → Prop} {next : Ram × Bool → StorageM (Ram × ControllerResult)} (h : Tended n v)
    (hactive : n.controller.active = true) (hlive : n.controller.state.live = true)
    (hunusable : ∀ m, m.usable = false → Q m) (hlost : ∀ m, ∃ result, next (m, false) = pure (m, result))
    (hexpired : ∀ m, m.controller.state = .expired → ∃ result, next (m, true) = pure (m, result))
    (hdies : ∀ m v', Survives now n v m v' → m.controller.state = .expired → m.stage = .ended → Gone v v' → Q m)
    (hlives : ∀ m v', Survives now n v m v' → m.controller.state = n.controller.state → m.stage = n.stage →
      SameTimer n m → (next (m, true)).Ends fun _ r => Q r.1) :
    (n.serviceLifetime now >>= next).Ends fun _ r => Q r.1 := by
  refine (ends_outlive h hactive hlive now).bind fun log outcome hout => ?_
  obtain ⟨m, serviced⟩ := outcome
  rcases hout with ⟨hfalse, hun⟩ | ⟨htrue, v', hout⟩
  · obtain rfl : serviced = false := hfalse
    obtain ⟨result, hnext⟩ := hlost m
    rw [hnext]
    exact hunusable m hun
  obtain rfl : serviced = true := htrue
  cases hout with
  | lives hs hstate hstage htimer => exact hlives m v' hs hstate hstage htimer
  | dies hs hstate hstage hgone =>
    obtain ⟨result, hnext⟩ := hexpired m hstate
    rw [hnext]
    exact hdies m v' hs hstate hstage hgone

end Stages

/-! ### The parts of the calls -/

section Parts

variable {n : Ram} {v : View} {slot : SlotIndex} {served : Prop} {now : UInt32}

/-- The Event of the head is failed, or the caller is told that it is not. -/
theorem ends_failing (h : Tended n v) (hactive : n.controller.active = true)
    (hslot : n.controller.activeSlot = slot.val) (hhead : Head v slot) :
    n.markFailed.Ends fun _ r => r.2 = true → r.1.usable = true →
      ∃ v', Steady r.1 v' ∧ Evolving v v' ∧ r.1.stage = .ended ∧ Gone v v' := by
  unfold Ram.markFailed
  rw [hslot]
  refine (ends_markFailed h.serving.toShaped slot).bind fun log outcome halters => ?_
  obtain ⟨s', mutation⟩ := outcome
  dsimp only at halters ⊢
  split
  · exact fun htrue => by cases htrue
  rename_i hok
  obtain ⟨hq, hshaped, halloc⟩ := halters.done (not_not.1 hok)
  intro _ _
  have hserving := h.serving.put hshaped halloc (.failed hq)
  have hrec : ((v.put slot (NodeRecord.fail (v.records slot))).records slot).state = .failed := by
    rw [View.put_apply]
    rfl
  have hsteady : Steady ((Ram.setState { n with store := s' } .failed).clearAttempt)
      (v.put slot (NodeRecord.fail (v.records slot))) :=
    ⟨⟨hserving, h.operates, .failed slot hactive hslot rfl hrec⟩, RuntimeState.noConfusion⟩
  refine ⟨_, hsteady, .single ⟨slot, _, .failed hq, rfl⟩, ?_, slot, hhead, ?_⟩
  · rw [hsteady.serving.stage hactive hslot]
    rfl
  · rw [hrec]
    exact NodeState.noConfusion

/-- The same, for a call that goes on with what it is told. -/
theorem ends_failing_bind (h : Tended n v) (hactive : n.controller.active = true)
    (hslot : n.controller.activeSlot = slot.val) (hlive : n.controller.state.live = true) (hhead : Head v slot)
    {next : Ram × Bool → StorageM (Ram × ControllerResult)}
    (hfailed : ∀ m, ∃ result, next (m, true) = pure (m, result))
    (hrefused : ∀ m, ∃ status receive, next (m, false) = pure (Ram.degrade m status receive)) :
    (n.markFailed >>= next).Ends fun _ r => Heads now served n v r.1 := by
  refine (ends_failing h hactive hslot hhead).bind fun log outcome hfails => ?_
  obtain ⟨m, failed⟩ := outcome
  cases failed with
  | false =>
    obtain ⟨status, receive, hnext⟩ := hrefused m
    rw [hnext]
    exact heads_degrade m status receive
  | true =>
    obtain ⟨result, hnext⟩ := hfailed m
    rw [hnext]
    intro hu
    obtain ⟨v', hsteady, hev, hstage, hgone⟩ := hfails rfl hu
    refine ⟨v', hsteady, hev, .ends hgone (.inr hstage) ?_⟩
    change m.stage ≠ n.stage
    change m.stage = .ended at hstage
    rw [hstage, h.serving.stage hactive hslot]
    exact (stage_ne_ended hlive _).symm

/-- **After a failed attempt** the Event is failed, or backs off. -/
theorem ends_retry (h : Tended n v) (hstate : n.controller.state = .tx ∨ n.controller.state = .waitAdmission)
    (jitter : UInt16) : (n.failedAttempt now jitter).Ends fun _ r => Heads now served n v r.1 := by
  have htried : n.controller.state.tried = true := by
    rcases hstate with hstate | hstate <;> rw [hstate] <;> rfl
  obtain ⟨hactive, hlive, slot, hslot, hhead, hattempts, -⟩ := h.tried htried
  unfold Ram.failedAttempt
  simp only [h.record hactive hslot]
  split
  · exact ends_failing_bind h hactive hslot hlive hhead (fun m => ⟨_, rfl⟩) fun m => ⟨_, _, rfl⟩
  rename_i hleft
  split
  · exact heads_degrade n _ _
  rename_i hjitter
  have hlt : (v.records slot).attemptsUsed < maxAttempts := by simpa using hleft
  intro _
  set n' : Ram := { n with controller :=
    { n.controller with deadlineOrigin := now
                        deadlineDuration := Ram.backoffBase (((some (v.records slot)).map NodeRecord.attemptsUsed).getD 0) +
                          jitter.toUInt32
                        state := .backoff } } with hn'
  have hsteady : Steady n' v := by
    refine ⟨⟨h.serving, h.operates, ?_⟩, RuntimeState.noConfusion⟩
    refine .live slot hactive hslot rfl hhead (fun _ => hattempts) fun _ => ?_
    exact ⟨_, jitter, backoffTable_base hattempts hlt, UInt16.not_lt.1 hjitter, rfl⟩
  refine ⟨v, hsteady, .refl, .passes ?_ fun _ => rfl⟩
  have hlt' : (v.records slot).attemptsUsed.toNat < maxAttempts.toNat := hlt
  obtain ⟨left, hsome⟩ : ∃ left, attemptsLeft (v.records slot) = left + 1 := by
    unfold attemptsLeft
    exact ⟨maxAttempts.toNat - (v.records slot).attemptsUsed.toNat - 1, by omega⟩
  rw [h.serving.stage hactive hslot, hsteady.serving.stage hactive hslot, hsome]
  rcases hstate with hstate | hstate <;> rw [hstate]
  · exact .startFailed
  · exact .unanswered

/-- What the head meets before it is granted the radio: it stays pending, or it ends. -/
def Holds (n : Ram) (v : View) (n' : Ram) : Prop :=
  n'.usable = true → ∃ v', Steady n' v' ∧ Evolving v v' ∧ (n'.stage = n.stage ∨ n'.stage = .ended ∧ Gone v v')

theorem Holds.heads {n' : Ram} {left : ℕ} (h : Holds n v n') (hstage : n.stage = .pending left) (hserved : ¬ served) :
    Heads now served n v n' := by
  intro hu
  obtain ⟨v', hsteady, hev, hsame | ⟨hended, hgone⟩⟩ := h hu
  · refine ⟨v', hsteady, hev, .rests hsame (fun htimed => ?_) fun hs => absurd hs hserved⟩
    rw [hstage] at htimed
    cases htimed
  · refine ⟨v', hsteady, hev, .ends hgone (.inr hended) ?_⟩
    rw [hended, hstage]
    exact Stage.noConfusion

/-- Taken up by the call, the head is pending, or it ends. -/
theorem Holds.takenUp {m n' : Ram} {left : ℕ} (h : Holds m v n') (hstage : m.stage = .pending left) (hleft : left ≤ 5)
    (hidle : n.stage = .idle) : Heads now served n v n' := by
  intro hu
  obtain ⟨v', hsteady, hev, hsame | ⟨hended, hgone⟩⟩ := h hu
  · refine ⟨v', hsteady, hev, .passes ?_ fun htimed => ?_⟩
    · rw [hidle, hsame, hstage]
      exact .takenUp hleft
    · rw [hsame, hstage] at htimed
      cases htimed
  · refine ⟨v', hsteady, hev, .ends hgone (.inr hended) ?_⟩
    rw [hended, hidle]
    exact Stage.noConfusion

theorem ends_advance_pending (h : Steady n v) (hactive : n.controller.active = true)
    (hstate : n.controller.state = .queued ∨ n.controller.state = .ready) (synchronousWork : Bool) (jitter : UInt16) :
    (n.advance now synchronousWork jitter).Ends fun _ r => Holds n v r.1 := by
  have hlive : n.controller.state.live = true := by
    rcases hstate with hstate | hstate <;> rw [hstate] <;> rfl
  obtain ⟨slot, hslot, hhead⟩ := h.toTended.head hactive hlive
  have hstage : n.stage = .pending (attemptsLeft (v.records slot)) := by
    rw [h.serving.stage hactive hslot]
    rcases hstate with hstate | hstate <;> rw [hstate] <;> rfl
  have hstay : Holds n v n := fun _ => ⟨v, h, .refl, .inl rfl⟩
  have hset : ∀ state : RuntimeState, state = .queued ∨ state = .ready → Holds n v (n.setState state) := by
    intro state hs _
    obtain ⟨hsteady, hpending⟩ := h.toTended.pended hactive hslot hhead hs
    exact ⟨v, hsteady, .refl, .inl (hpending.trans hstage.symm)⟩
  unfold Ram.advance
  rcases hstate with hstate | hstate
  · simp only [hstate]
    split
    · refine (ends_failing h.toTended hactive hslot hhead).bind fun log outcome hfails => ?_
      obtain ⟨m, failed⟩ := outcome
      cases failed with
      | false =>
        intro hu
        simp [Ram.usable, Ram.degrade] at hu
      | true =>
        intro hu
        obtain ⟨v', hsteady, hev, hended, hgone⟩ := hfails rfl hu
        exact ⟨v', hsteady, hev, .inr ⟨hended, hgone⟩⟩
    · cases synchronousWork with
      | true => exact hstay
      | false => exact hset .ready (.inr rfl)
  · simp only [hstate]
    cases synchronousWork with
    | true => exact hset .queued (.inl rfl)
    | false => exact hstay

end Parts

/-! ### The calls -/

section Calls

variable {n : Ram} {v : View} {served : Prop} {now : UInt32}

/-- The head has expired before the call could serve it. -/
theorem Survives.heads {m n0 : Ram} {v' : View} (hs : Survives now n0 v m v') (hstate : m.controller.state = .expired)
    (hended : m.stage = .ended) (hgone : Gone v v') (hne : n.stage ≠ .ended) : Heads now served n v m := by
  intro _
  refine ⟨v', ⟨hs.toTended, ?_⟩, hs.round.ageing.evolving, .ends hgone (.inr hended) ?_⟩
  · rw [hstate]
    exact RuntimeState.noConfusion
  · rw [hended]
    exact hne.symm

theorem Steady.heads_rest (h : Steady n v) (hserved : served → n.Waits now v) : Heads now served n v n :=
  fun _ => ⟨v, h, .refl, .rests rfl (fun _ => ⟨rfl, rfl⟩) hserved⟩

/-- The calls about a transmission. -/
theorem ends_during (h : Steady n v) {state : RuntimeState} (htried : state.tried = true)
    (hserved : served → n.controller.state = state) {next : Ram → StorageM (Ram × ControllerResult)}
    (hnext : ∀ n' v', Steady n' v' → n'.controller.state = state → (next n').Ends fun _ r => Heads now served n' v' r.1) :
    (n.duringState state now next).Ends fun _ r => Heads now served n v r.1 := by
  unfold Ram.duringState
  split
  · rename_i hguard
    refine h.heads_rest fun hs => ?_
    simp [h.usable, hserved hs] at hguard
  rename_i hguard
  have hstate : n.controller.state = state := by
    simp only [Bool.or_eq_true, decide_eq_true_eq, not_or, not_not] at hguard
    exact hguard.2
  obtain ⟨hactive, hlive, slot, hslot, hhead, -⟩ := h.toTended.tried (by rw [hstate]; exact htried)
  have hstage := h.serving.stage hactive hslot
  refine ends_outlive_bind h.toTended hactive hlive (fun m => heads_of_unusable) (fun m => ⟨_, rfl⟩) (fun m hm => ?_)
    (fun m v' hs hm hended hgone => ?_) fun m v' hs hm hsame htimer => ?_
  · exact ⟨_, if_pos hm⟩
  · exact hs.heads hm hended hgone (by rw [hstage]; exact stage_ne_ended hlive _)
  · simp only [Bool.not_true, Bool.false_eq_true, if_false]
    split
    · rename_i hexpired
      rw [hm] at hexpired
      rw [hexpired] at hlive
      cases hlive
    · refine (hnext m v' (hs.steady h.prepared) (hm.trans hstate)).mono fun log r hr => ?_
      exact hr.after hhead (by rw [hstage]; exact stage_ne_idle hlive _) hs.round.ageing.evolving hs.serving.ok hsame htimer

theorem ends_started_call (h : Steady n v) (hserved : ¬ served) :
    (n.txStarted now).Ends fun _ r => Heads now served n v r.1 :=
  ends_during h rfl (fun hs => absurd hs hserved) fun _ _ h' _ => h'.heads_rest fun hs => absurd hs hserved

theorem ends_startFailed_call (h : Steady n v) (hserved : served → n.controller.state = .tx) (jitter : UInt16) :
    (n.txStartFailed now jitter).Ends fun _ r => Heads now served n v r.1 :=
  ends_during h rfl hserved fun _ _ h' hstate => ends_retry h'.toTended (.inl hstate) jitter

theorem ends_completed_call (h : Steady n v) (hserved : served → n.controller.state = .tx) :
    (n.txCompleted now).Ends fun _ r => Heads now served n v r.1 := by
  refine ends_during h rfl hserved fun n' v' h' hstate => ?_
  have htried : n'.controller.state.tried = true := by rw [hstate]; rfl
  obtain ⟨hactive, hlive, slot, hslot, hhead, -⟩ := h'.toTended.tried htried
  intro _
  cases h'.attends with
  | idle hidle =>
    rw [hidle] at hactive
    cases hactive
  | live slot' _ hslot' _ hhead' hattempts =>
    obtain rfl : slot' = slot := Fin.ext (hslot'.symm.trans hslot)
    set n'' : Ram := { n' with controller :=
      { n'.controller with state := .waitAdmission, deadlineOrigin := now
                           deadlineDuration := admissionTimeoutMilliseconds } } with hn''
    have hsteady : Steady n'' v' := by
      refine ⟨⟨h'.serving, h'.operates, ?_⟩, RuntimeState.noConfusion⟩
      exact .live slot' hactive hslot rfl hhead (fun _ => hattempts htried) fun hb => by cases hb
    refine ⟨v', hsteady, .refl, .passes ?_ fun _ => rfl⟩
    rw [h'.serving.stage hactive hslot, hsteady.serving.stage hactive hslot, hstate]
    exact .completed
  | released _ _ _ hc => simp [hstate] at hc
  | failed _ _ _ hc => simp [hstate] at hc
  | expired _ _ _ hc => simp [hstate] at hc

theorem ends_answered_call (h : Steady n v) (hstate : n.controller.state = .waitAdmission) (status : AdmissionStatus)
    (jitter : UInt16) : (n.answered status now jitter).Ends fun _ r => Heads now served n v r.1 := by
  obtain ⟨hactive, hlive, slot, hslot, hhead, -⟩ := h.toTended.tried (by rw [hstate]; rfl)
  unfold Ram.answered
  cases status with
  | admitted =>
    dsimp only
    rw [hslot]
    refine (ends_releaseQueued h.serving.toShaped slot).bind fun log outcome halters => ?_
    obtain ⟨s', mutation⟩ := outcome
    dsimp only at halters ⊢
    split
    · exact heads_degrade _ _ _
    rename_i hok
    obtain ⟨hq, hshaped, halloc⟩ := halters.done (not_not.1 hok)
    have hserving := h.serving.put hshaped halloc (.freed (owned_of_queued hq))
    have hrec : ((v.put slot (NodeRecord.freed (v.records slot))).records slot).state = .free := by
      rw [View.put_apply]
      rfl
    have hsteady : Steady ((Ram.setState { n with store := s' } .released).clearAttempt)
        (v.put slot (NodeRecord.freed (v.records slot))) := by
      refine ⟨⟨hserving, h.operates, .released slot hactive hslot rfl ?_⟩, RuntimeState.noConfusion⟩
      rw [Terminal, hrec]
      exact fun hterminal => hterminal.elim NodeState.noConfusion NodeState.noConfusion
    intro _
    have hidle : ((Ram.setState { n with store := s' } .released).clearAttempt).stage = .idle := by
      rw [hsteady.serving.stage hactive hslot]
      rfl
    refine ⟨_, hsteady, .single ⟨slot, _, .freed (owned_of_queued hq), rfl⟩, .ends ⟨slot, hhead, ?_⟩ (.inl hidle) ?_⟩
    · rw [hrec]
      exact NodeState.noConfusion
    · rw [hidle, h.serving.stage hactive hslot]
      exact (stage_ne_idle hlive _).symm
  | capacity => exact ends_retry h.toTended (.inr hstate) jitter
  | identityContentMismatch =>
    exact ends_failing_bind h.toTended hactive hslot hlive hhead (fun m => ⟨_, rfl⟩) fun m => ⟨_, _, rfl⟩
  | unsupportedEvent =>
    exact ends_failing_bind h.toTended hactive hslot hlive hhead (fun m => ⟨_, rfl⟩) fun m => ⟨_, _, rfl⟩
  | malformedEvent =>
    exact ends_failing_bind h.toTended hactive hslot hlive hhead (fun m => ⟨_, rfl⟩) fun m => ⟨_, _, rfl⟩

theorem ends_candidate_call (h : Steady n v) (hserved : ¬ served) (bytes : Bytes) (jitter : UInt16) :
    (n.admissionCandidate bytes now jitter).Ends fun _ r => Heads now served n v r.1 := by
  refine ends_during h rfl (fun hs => absurd hs hserved) fun n' v' h' hstate => ?_
  have hstay : Heads now served n' v' n' := h'.heads_rest fun hs => absurd hs hserved
  split
  · exact hstay
  split
  · exact hstay
  exact ends_answered_call h' hstate _ jitter

/-! ### `service` -/

/-- `service` works on the Event that it takes up. -/
theorem ends_service_bind {Q : Ram → Prop} {m : Ram} {synchronousWork : Bool} {jitter : UInt16}
    (husable : n.usable = true) (htake : n.takeUp = m) (h : Steady m v) (hactive : m.controller.active = true)
    (hlive : m.controller.state.live = true) (hunusable : ∀ m', m'.usable = false → Q m')
    (hdies : ∀ m' v', Survives now m v m' v' → m'.controller.state = .expired → m'.stage = .ended → Gone v v' → Q m')
    (hlives : ∀ m' v', Survives now m v m' v' → m'.controller.state = m.controller.state → m'.stage = m.stage →
      SameTimer m m' → (m'.advance now synchronousWork jitter).Ends fun _ r => Q r.1) :
    (n.service now synchronousWork jitter).Ends fun _ r => Q r.1 := by
  unfold Ram.service
  rw [if_neg (by simp [husable])]
  extract_lets n1 n2
  have hn2 : n2 = m := htake
  clear_value n2
  subst hn2
  rw [if_neg (by simp [hactive])]
  refine ends_outlive_bind h.toTended hactive hlive hunusable (fun m' => ⟨_, rfl⟩) (fun m' hm => ?_) hdies
    fun m' v' hs hm hsame htimer => ?_
  · exact ⟨_, if_pos hm⟩
  · have hterminal : m'.terminal = false := by
      unfold Ram.terminal
      rw [hm]
      generalize n2.controller.state = state at hlive
      cases state <;> simp [RuntimeState.live] at hlive ⊢
    simp only [Bool.not_true, Bool.false_eq_true, if_false, hterminal]
    split
    · rename_i hexpired
      rw [hm] at hexpired
      rw [hexpired] at hlive
      cases hlive
    · exact hlives m' v' hs hm hsame htimer

theorem takeUp_of_active (hactive : n.controller.active = true) (hstate : n.controller.state ≠ .released) :
    n.takeUp = n := by
  unfold Ram.takeUp
  simp only [if_neg hstate, hactive, Bool.not_true, Bool.false_eq_true, if_false]

/-- With nothing to work on, the head is taken up, or nothing is QUEUED. -/
theorem Steady.loadHead_cases (h : Steady n v) :
    (n.loadHead.controller.active = true ∧ n.loadHead.controller.state = .queued) ∨
      (n.loadHead = n ∧ ∀ j, (v.records j).state ≠ .queued) := by
  unfold Ram.loadHead
  cases hhead : n.store.queuedAt 0 with
  | some slot => exact .inl ⟨rfl, rfl⟩
  | none =>
    refine .inr ⟨rfl, fun j hj => ?_⟩
    have hmem : j ∈ n.store.queue := (h.serving.indexed.mem j).2 (by rw [h.serving.records]; exact hj)
    have hempty : n.store.queue = [] := by
      cases hqueue : n.store.queue with
      | nil => rfl
      | cons first rest => simp [Store.queuedAt, hqueue] at hhead
    rw [hempty] at hmem
    cases hmem

theorem Steady.takeUp_cases (h : Steady n v) (hidle : n.stage = .idle) : Steady n.takeUp v ∧
    ((n.takeUp.controller.active = true ∧ n.takeUp.controller.state = .queued) ∨
      (n.takeUp.controller.active = false ∧ ∀ j, (v.records j).state ≠ .queued)) := by
  refine ⟨h.takeUp.1, ?_⟩
  -- what is taken up once the slot has been given up
  have hload : ∀ {m : Ram}, Steady m v → m.controller.active = false →
      let taken := if !m.loadHead.controller.active then m.loadHead.loadHead else m.loadHead
      (taken.controller.active = true ∧ taken.controller.state = .queued) ∨
        (taken.controller.active = false ∧ ∀ j, (v.records j).state ≠ .queued) := by
    intro m hm hinactive
    rcases hm.loadHead_cases with ⟨hactive, hqueued⟩ | ⟨hsame, hnone⟩
    · simp only [hactive, Bool.not_true, Bool.false_eq_true, if_false]
      exact .inl ⟨trivial, hqueued⟩
    · simp only [hsame, hinactive, Bool.not_false, if_true]
      exact .inr ⟨trivial, hnone⟩
  unfold Ram.takeUp
  by_cases hreleased : n.controller.state = .released
  · simp only [if_pos hreleased]
    exact hload (h.giveUp hreleased) rfl
  have hinactive : n.controller.active = false := by
    by_contra hactive
    have hactive : n.controller.active = true := by simpa using hactive
    unfold Ram.stage at hidle
    rw [if_pos hactive] at hidle
    generalize n.controller.state = state at hidle hreleased
    cases state <;> first | exact hreleased rfl | cases hidle
  simp only [if_neg hreleased, hinactive, Bool.not_false, if_true]
  rcases h.loadHead_cases with hhead | ⟨hsame, hnone⟩
  · exact .inl hhead
  · rw [hsame]
    exact .inr ⟨hinactive, hnone⟩

/-- A head that is pending stays so, or ends. -/
theorem ends_service_pending {m : Ram} {synchronousWork : Bool} {jitter : UInt16} (husable : n.usable = true)
    (htake : n.takeUp = m) (h : Steady m v) (hactive : m.controller.active = true)
    (hstate : m.controller.state = .queued ∨ m.controller.state = .ready) :
    (n.service now synchronousWork jitter).Ends fun _ r => Holds m v r.1 := by
  have hlive : m.controller.state.live = true := by
    rcases hstate with hstate | hstate <;> rw [hstate] <;> rfl
  obtain ⟨slot, hslot, hhead⟩ := h.toTended.head hactive hlive
  refine ends_service_bind husable htake h hactive hlive (fun m' hun hu => ?_) (fun m' v' hs hm hended hgone _ => ?_)
    fun m' v' hs hm hsame htimer => ?_
  · rw [hun] at hu
    cases hu
  · refine ⟨v', ⟨hs.toTended, ?_⟩, hs.round.ageing.evolving, .inr ⟨hended, hgone⟩⟩
    rw [hm]
    exact RuntimeState.noConfusion
  · refine (ends_advance_pending (hs.steady h.prepared) (hs.active.trans hactive) (by rw [hm]; exact hstate)
      synchronousWork jitter).mono fun log r hr hu => ?_
    obtain ⟨v'', hsteady, hev, hholds⟩ := hr hu
    refine ⟨v'', hsteady, hs.round.ageing.evolving.trans hev, ?_⟩
    rcases hholds with hkept | ⟨hended, hgone⟩
    · exact .inl (hkept.trans hsame)
    · exact .inr ⟨hended, hgone.after hhead hs.round.ageing.evolving hev hs.serving.ok⟩

theorem ends_advance_tried (h : Steady n v) (htried : n.controller.state.tried = true)
    (hserved : served → n.stage.timed = true) (synchronousWork : Bool) (jitter : UInt16) :
    (n.advance now synchronousWork jitter).Ends fun _ r => Heads now served n v r.1 := by
  obtain ⟨hactive, -, slot, hslot, hhead, hattempts, hbackoff⟩ := h.toTended.tried htried
  have hstage := h.serving.stage hactive hslot
  unfold Ram.advance
  cases hstate : n.controller.state with
  | tx =>
    refine h.heads_rest fun hs => ?_
    have htimed := hserved hs
    rw [hstage, hstate] at htimed
    cases htimed
  | waitAdmission =>
    dsimp only
    split
    · exact ends_retry h.toTended (.inr hstate) jitter
    · rename_i hdue
      refine h.heads_rest fun _ => ?_
      unfold Ram.Waits
      rw [hstage, hstate]
      exact UInt32.not_le.1 hdue
  | backoff =>
    dsimp only
    split
    · -- the head is pending again, with the attempts that it had
      obtain ⟨left, hleft⟩ := Nat.exists_eq_add_of_le' ((hbackoff hstate).left hattempts).1
      have hset : ∀ state : RuntimeState, state = .queued ∨ state = .ready → Heads now served n v (n.setState state) := by
        intro state hs _
        obtain ⟨hsteady, hpending⟩ := h.toTended.pended hactive hslot hhead hs
        refine ⟨v, hsteady, .refl, .passes ?_ fun htimed => ?_⟩
        · rw [hpending, hstage, hstate, hleft]
          exact .again
        · rw [hpending] at htimed
          cases htimed
      cases synchronousWork with
      | true => exact hset .queued (.inl rfl)
      | false => exact hset .ready (.inr rfl)
    · rename_i hdue
      refine h.heads_rest fun _ => ?_
      unfold Ram.Waits
      rw [hstage, hstate]
      exact UInt32.not_le.1 hdue
  | queued => simp [hstate, RuntimeState.tried] at htried
  | ready => simp [hstate, RuntimeState.tried] at htried
  | txPrepare => simp [hstate, RuntimeState.tried] at htried
  | released => simp [hstate, RuntimeState.tried] at htried
  | failed => simp [hstate, RuntimeState.tried] at htried
  | expired => simp [hstate, RuntimeState.tried] at htried

/-- An Event that has ended waits to be reclaimed. -/
theorem ends_service_ended {synchronousWork : Bool} {jitter : UInt16} (h : Steady n v)
    (hactive : n.controller.active = true) (hstate : n.controller.state = .failed ∨ n.controller.state = .expired)
    (hserved : ¬ served) : (n.service now synchronousWork jitter).Ends fun _ r => Heads now served n v r.1 := by
  have hreleased : n.controller.state ≠ .released := by
    rcases hstate with hstate | hstate <;> rw [hstate] <;> exact RuntimeState.noConfusion
  have hended : ∀ {m : Ram}, m.controller.active = true → m.controller.state = .failed ∨ m.controller.state = .expired →
      m.stage = .ended := by
    intro m hm hs
    unfold Ram.stage
    rw [if_pos hm]
    exact stage_of_terminal hs _
  unfold Ram.service
  rw [if_neg (by simp [h.usable])]
  extract_lets n1 n2
  have hn2 : n2 = n := takeUp_of_active hactive hreleased
  clear_value n2
  subst hn2
  rw [if_neg (by simp [hactive])]
  refine (ends_serviceLifetime h.toTended hreleased now).bind fun log outcome hlived => ?_
  obtain ⟨m, serviced⟩ := outcome
  rcases hlived with ⟨hfalse, hunusable⟩ | ⟨htrue, v', hs⟩
  · simp only at hfalse
    subst hfalse
    exact heads_of_unusable hunusable
  simp only at htrue hs
  subst htrue
  have hstate' : m.controller.state = .failed ∨ m.controller.state = .expired := by
    rcases hs.state with hsame | hexpired
    · rw [hsame]
      exact hstate
    · exact .inr hexpired
  have hrests : Heads now served n2 v m := by
    intro _
    refine ⟨v', hs.steady h.prepared, hs.round.ageing.evolving, .rests ?_ (fun htimed => ?_) fun hc => absurd hc hserved⟩
    · rw [hended (hs.active.trans hactive) hstate', hended hactive hstate]
    · rw [hended hactive hstate] at htimed
      cases htimed
  have hterminal : m.terminal = true := by
    unfold Ram.terminal
    rcases hstate' with hs' | hs' <;> rw [hs'] <;> rfl
  simp only [Bool.not_true, Bool.false_eq_true, if_false, hterminal, if_true]
  split
  · exact hrests
  · exact hrests

/-- **`service`.** -/
theorem ends_service_call (h : Steady n v) (hserved : served → n.stage = .idle ∨ n.stage.timed = true)
    (synchronousWork : Bool) (jitter : UInt16) :
    (n.service now synchronousWork jitter).Ends fun _ r => Heads now served n v r.1 := by
  by_cases hidle : n.stage = .idle
  · obtain ⟨hsteady, ⟨hactive, hqueued⟩ | ⟨hinactive, hnone⟩⟩ := h.takeUp_cases hidle
    · obtain ⟨slot, hslot, -⟩ := hsteady.toTended.head hactive (by rw [hqueued]; rfl)
      refine (ends_service_pending h.usable rfl hsteady hactive (.inl hqueued)).mono fun log r hr => ?_
      have hpending : n.takeUp.stage = .pending (attemptsLeft (v.records slot)) := by
        rw [hsteady.serving.stage hactive hslot, hqueued]
        rfl
      exact hr.takenUp hpending (Nat.sub_le _ _) hidle
    · unfold Ram.service
      rw [if_neg (by simp [h.usable])]
      extract_lets n1 n2
      have hn2 : n2 = n.takeUp := rfl
      clear_value n2
      subst hn2
      rw [if_pos (by simp [hinactive])]
      intro _
      refine ⟨v, hsteady, .refl, .rests ?_ (fun htimed => ?_) fun _ => ?_⟩
      · rw [hidle]
        exact stage_of_inactive hinactive
      · rw [hidle] at htimed
        cases htimed
      · unfold Ram.Waits
        rw [hidle]
        exact hnone
  have hactive : n.controller.active = true := by
    by_contra hc
    exact hidle (stage_of_inactive (by simpa using hc))
  have hreleased : n.controller.state ≠ .released := by
    intro hc
    refine hidle ?_
    unfold Ram.stage
    rw [if_pos hactive, hc]
    rfl
  by_cases hended : n.controller.state = .failed ∨ n.controller.state = .expired
  · have hstage : n.stage = .ended := by
      unfold Ram.stage
      rw [if_pos hactive]
      exact stage_of_terminal hended _
    refine ends_service_ended h hactive hended fun hs => ?_
    rcases hserved hs with hc | hc <;> rw [hstage] at hc <;> cases hc
  have hlive : n.controller.state.live = true := by
    generalize n.controller.state = state at hreleased hended
    cases state <;> first | rfl | exact absurd rfl hreleased | exact absurd (.inl rfl) hended | exact absurd (.inr rfl) hended
  obtain ⟨slot, hslot, hhead⟩ := h.toTended.head hactive hlive
  have hstage := h.serving.stage hactive hslot
  cases htried : n.controller.state.tried with
  | true =>
    refine ends_service_bind h.usable (takeUp_of_active hactive hreleased) h hactive hlive (fun m => heads_of_unusable)
      (fun m v' hs hm hended hgone => ?_) fun m v' hs hm hsame htimer => ?_
    · exact hs.heads hm hended hgone (by rw [hstage]; exact stage_ne_ended hlive _)
    · refine (ends_advance_tried (hs.steady h.prepared) (by rw [hm]; exact htried) (fun hc => ?_)
        synchronousWork jitter).mono fun log r (hr : Heads now served m v' r.1) => ?_
      · rw [hsame]
        exact (hserved hc).resolve_left hidle
      · exact hr.after hhead hidle hs.round.ageing.evolving hs.serving.ok hsame htimer
  | false =>
    have hpending : n.controller.state = .queued ∨ n.controller.state = .ready := by
      have hprepared := h.prepared
      generalize n.controller.state = state at hlive htried hprepared
      cases state <;> simp [RuntimeState.live, RuntimeState.tried] at hlive htried hprepared ⊢
    have hstage' : n.stage = .pending (attemptsLeft (v.records slot)) := by
      rw [hstage]
      rcases hpending with hs | hs <;> rw [hs] <;> rfl
    refine (ends_service_pending h.usable (takeUp_of_active hactive hreleased) h hactive hpending).mono fun log r hr => ?_
    refine hr.heads hstage' fun hs => ?_
    rcases hserved hs with hc | hc <;> rw [hstage'] at hc <;> cases hc

/-! ### `grantTransmit` -/

theorem attemptsLeft_arm {r : NodeRecord} (h : Armable r) : attemptsLeft r = attemptsLeft (NodeRecord.arm r) + 1 := by
  have hlt : r.attemptsUsed.toNat < 5 := h.2
  have hadd : (NodeRecord.arm r).attemptsUsed.toNat = r.attemptsUsed.toNat + 1 := by
    change (r.attemptsUsed + 1).toNat = _
    rw [UInt8.toNat_add, UInt8.toNat_one, Nat.mod_eq_of_lt (by omega)]
  have hmax : maxAttempts.toNat = 5 := rfl
  unfold attemptsLeft
  omega

theorem FullRound.left {p p' : Policy} {v' : View} {slot : SlotIndex} (h : FullRound now p v p' v')
    (hq : (v.records slot).state = .queued) : attemptsLeft (v'.records slot) = attemptsLeft (v.records slot) := by
  rcases h.record slot with ⟨hnot, -⟩ | ⟨-, hattempts, -⟩
  · exact absurd hq hnot
  · unfold attemptsLeft
    rw [hattempts]

/-- The armed Event goes on the air. -/
theorem heads_transmit {m : Ram} {v2 : View} {slot : SlotIndex} (hserving : Serving m.store v2)
    (hoperates : m.controller.operates = true) (hactive : m.controller.active = true)
    (hslot : m.controller.activeSlot = slot.val) (hhead : Head v2 slot)
    (hattempts : 1 ≤ (v2.records slot).attemptsUsed.toNat) (hev : Evolving v v2)
    (hpasses : n.stage.Passes (.air (attemptsLeft (v2.records slot)))) (sequence : Option UInt8) :
    Heads now served n v (m.transmit sequence).1 := by
  unfold Ram.transmit
  split
  · exact heads_degrade m _ _
  split
  · exact heads_degrade m _ _
  dsimp only
  split
  · exact heads_degrade _ _ _
  rename_i sequence current bytes hbytes
  intro _
  set m' : Ram := { m with controller := { m.controller with
    attemptEvent := Ram.eventOf m.controller.source m.controller.destination _ _
    correlationValid := true, state := .tx } } with hm'
  have hsteady : Steady m' v2 := by
    refine ⟨⟨hserving, hoperates, ?_⟩, RuntimeState.noConfusion⟩
    exact .live slot hactive hslot rfl hhead (fun _ => hattempts) fun hb => by cases hb
  have hstage : m'.stage = .air (attemptsLeft (v2.records slot)) := by
    rw [hsteady.serving.stage hactive hslot]
    rfl
  refine ⟨v2, hsteady, hev, .passes (hstage ▸ hpasses) fun htimed => ?_⟩
  change m'.stage.timed = true at htimed
  rw [hstage] at htimed
  cases htimed

/-- The Event at the head expires when it is to be attempted. -/
theorem heads_expire {m : Ram} {v2 : View} {slot : SlotIndex} (hserving : Serving m.store v2)
    (hoperates : m.controller.operates = true) (hactive : m.controller.active = true)
    (hslot : m.controller.activeSlot = slot.val) (hhead : Head v slot) (hexpired : (v2.records slot).state = .expired)
    (hev : Evolving v v2) (hstage : n.stage ≠ .ended) : Heads now served n v (m.setState .expired) := by
  intro _
  have hsteady : Steady (m.setState .expired) v2 :=
    ⟨⟨hserving, hoperates, .expired slot hactive hslot rfl hexpired⟩, RuntimeState.noConfusion⟩
  have hended : (m.setState .expired).stage = .ended := by
    rw [hsteady.serving.stage hactive hslot]
    rfl
  refine ⟨v2, hsteady, hev, .ends ⟨slot, hhead, ?_⟩ (.inr hended) ?_⟩
  · rw [hexpired]
    exact NodeState.noConfusion
  · rw [hended]
    exact hstage.symm

theorem ends_grant_call (h : Steady n v) (hserved : served → n.controller.active = true ∧ n.controller.state = .ready)
    (sequence : Option UInt8) : (n.grantTransmit now sequence).Ends fun _ r => Heads now served n v r.1 := by
  unfold Ram.grantTransmit
  rw [if_neg (by simp [h.usable])]
  split
  · rename_i hguard
    refine h.heads_rest fun hs => ?_
    obtain ⟨hactive, hready⟩ := hserved hs
    simp [hactive, hready] at hguard
  rename_i hguard
  have hguard : n.controller.active = true ∧ n.controller.state = .ready := by simpa using hguard
  obtain ⟨hactive, hready⟩ := hguard
  obtain ⟨slot, hslot, hhead⟩ := h.toTended.head hactive (by rw [hready]; rfl)
  have hstage : n.stage = .pending (attemptsLeft (v.records slot)) := by
    rw [h.serving.stage hactive hslot, hready]
    rfl
  have hidle : n.stage ≠ .idle := by
    rw [hstage]
    exact Stage.noConfusion
  have htended : Tended (n.setState .txPrepare) v := h.toTended.untried hactive hslot hhead rfl rfl
  refine ends_outlive_bind htended hactive rfl (fun m => heads_of_unusable) (fun m => ⟨_, rfl⟩) (fun m hm => ?_)
    (fun m v1 hs hm hended hgone => ?_) fun m v1 hs hm hsame htimer => ?_
  · exact ⟨_, if_pos hm⟩
  · exact hs.heads hm hended hgone (by rw [hstage]; exact Stage.noConfusion)
  simp only [Bool.not_true, Bool.false_eq_true, if_false]
  have hstate1 : m.controller.state = .txPrepare := hm
  split
  · rename_i hexpired
    rw [hstate1] at hexpired
    cases hexpired
  split
  · exact heads_degrade m _ _
  have hactive1 : m.controller.active = true := hs.active.trans hactive
  have hslot1 : m.controller.activeSlot = slot.val := hs.activeSlot.trans hslot
  have hhead1 : Head v1 slot := by
    obtain ⟨slot', hslot', hhead'⟩ := hs.toTended.head hactive1 (by rw [hstate1]; rfl)
    rw [hslot1] at hslot'
    rwa [Fin.ext hslot']
  have hev1 := hs.round.ageing.evolving
  have hleft1 := hs.round.left hhead.queued
  have htracked : (v1.records slot).state = .queued → (m.controller.policy.runtime slot).tracked = true :=
    hs.round.tracked
  have harms := ends_policyArmAttempt hs.serving.toShaped hs.toTended.ready now htracked
  rw [← hslot1] at harms
  refine harms.bind fun log outcome harmed => ?_
  obtain ⟨s2, p2, attempt⟩ := outcome
  dsimp only at harmed ⊢
  have hoperates : ∀ {v2 : View}, FullRound now m.controller.policy v1 p2 v2 →
      Controller.operates { m.controller with policy := p2 } = true := by
    intro v2 hround
    have hop := hs.operates
    simp only [Controller.operates, Bool.and_eq_true] at hop ⊢
    exact ⟨hop.1, hround.ready⟩
  cases attempt with
  | armed =>
    rcases harmed (by simp) with hunhealthy | ⟨v2, hround, halloc, ⟨-, harm, hshaped⟩ | ⟨hc, -⟩ | ⟨hc, -⟩⟩
    · refine heads_of_unhealthy ?_
      rw [transmit_store]
      exact hunhealthy
    · have hev : Evolving v1 (v2.put slot (NodeRecord.arm (v2.records slot))) :=
        hround.ageing.evolving.tail ⟨slot, _, .armed harm.1 harm.2, rfl⟩
      have hq : ((v2.put slot (NodeRecord.arm (v2.records slot))).records slot).state = .queued := by
        rw [View.put_apply]
        exact harm.1
      refine heads_transmit (m := ⟨s2, _⟩) (hs.serving.evolved hshaped halloc hev) (hoperates hround) hactive1 hslot1
        (hhead1.evolving hev hq) ?_ (hev1.trans hev) ?_ sequence
      · rw [View.put_apply]
        exact attempts_arm harm
      · rw [View.put_apply, hstage, ← hleft1, ← hround.left hhead1.queued, attemptsLeft_arm harm]
        exact .armed
    · cases hc
    · cases hc
  | expired =>
    rcases harmed (by simp) with hunhealthy | ⟨v2, hround, halloc, ⟨hc, -⟩ | ⟨-, hexpired, hshaped⟩ | ⟨hc, -⟩⟩
    · exact heads_of_unhealthy hunhealthy
    · cases hc
    · have hev := hround.ageing.evolving
      exact heads_expire (m := ⟨s2, _⟩) (hs.serving.evolved hshaped halloc hev) (hoperates hround) hactive1 hslot1 hhead
        hexpired (hev1.trans hev) (by rw [hstage]; exact Stage.noConfusion)
    · cases hc
  | exhausted =>
    rcases harmed (by simp) with hunhealthy | ⟨v2, hround, halloc, ⟨hc, -⟩ | ⟨hc, -⟩ | ⟨-, hq, hshaped⟩⟩
    · simp only [Ram.markFailed, Store.markFailed, Store.transition, hunhealthy, Bool.not_false, if_true,
        Prog.pure_bind']
      exact heads_degrade _ _ _
    · cases hc
    · cases hc
    · have hev := hround.ageing.evolving
      set n2 : Ram := ⟨s2, { m.controller with policy := p2 }⟩ with hn2
      have hstate2 : n2.controller.state = .txPrepare := hstate1
      have hhead2 := hhead1.evolving hev hq
      have htended2 : Tended n2 v2 := by
        refine ⟨hs.serving.evolved hshaped halloc hev, hoperates hround, ?_⟩
        refine .live slot hactive1 hslot1 ?_ hhead2 (fun ht => ?_) fun hb => ?_
        · rw [hstate2]
          rfl
        · rw [hstate2] at ht
          cases ht
        · rw [hstate2] at hb
          cases hb
      have hlive2 : n2.controller.state.live = true := by
        rw [hstate2]
        rfl
      have hstage2 : n2.stage = n.stage := by
        rw [htended2.serving.stage hactive1 hslot1, hstate2, hround.left hhead1.queued, hleft1, hstage]
        rfl
      -- the timer is that of the call's beginning
      have htimer2 : SameTimer n n2 := ⟨htimer.origin, htimer.duration⟩
      have hafter : ∀ n' : Ram, Heads now served n2 v2 n' → Heads now served n v n' := fun n' hr =>
        hr.after hhead hidle (hev1.trans hev) htended2.serving.ok hstage2 htimer2
      exact Prog.Ends.mono (ends_failing_bind htended2 hactive1 hslot1 hlive2 hhead2 (fun m => ⟨_, rfl⟩)
        fun m => ⟨_, _, rfl⟩) fun log r hr => hafter r.1 hr
  | notQueued => exact heads_degrade _ _ _
  | invalidSlot => exact heads_degrade _ _ _
  | storageFailure => exact heads_degrade _ _ _
  | degraded => exact heads_degrade _ _ _

/-! ### Reclamation -/

/-- The stage is that of the phase and of the head's attempts. -/
theorem Steady.stage_kept {n' : Ram} {v' : View} (h : Steady n v) (h' : Serving n'.store v')
    (hactive : n'.controller.active = n.controller.active) (hslot : n'.controller.activeSlot = n.controller.activeSlot)
    (hstate : n'.controller.state = n.controller.state)
    (hkept : ∀ i, (v.records i).state = .queued → v'.records i = v.records i) : n'.stage = n.stage := by
  have hended : n.controller.active = true → ∀ state : RuntimeState, n.controller.state = state →
      (∀ left, state.stage left = state.stage 0) → n'.stage = n.stage := by
    intro ha state hs hconst
    unfold Ram.stage
    rw [hactive, hstate, ha, hs, hconst, hconst ((n.record.map attemptsLeft).getD 0)]
  cases h.attends with
  | idle ha =>
    rw [stage_of_inactive ha, stage_of_inactive (hactive.trans ha)]
  | live slot ha hs _ hhead =>
    rw [h'.stage (hactive.trans ha) (hslot.trans hs), h.serving.stage ha hs, hstate, hkept slot hhead.queued]
  | released slot ha _ hs => exact hended ha _ hs fun _ => rfl
  | failed slot ha _ hs => exact hended ha _ hs fun _ => rfl
  | expired slot ha _ hs => exact hended ha _ hs fun _ => rfl

/-- An Event that has ended is terminal in the active slot. -/
theorem Steady.ended (h : Steady n v) (hstage : n.stage = .ended) : ∃ slot : SlotIndex,
    n.controller.active = true ∧ n.controller.activeSlot = slot.val ∧ Terminal (v.records slot) := by
  cases h.attends with
  | idle ha =>
    rw [stage_of_inactive ha] at hstage
    cases hstage
  | live slot ha hs hlive =>
    rw [h.serving.stage ha hs] at hstage
    exact absurd hstage (stage_ne_ended hlive _)
  | released slot ha hs hstate =>
    rw [h.serving.stage ha hs, hstate] at hstage
    cases hstage
  | failed slot ha hs _ hrec => exact ⟨slot, ha, hs, .inl hrec⟩
  | expired slot ha hs _ hrec => exact ⟨slot, ha, hs, .inr hrec⟩

/-- The active record is reclaimed exactly when its Event has ended. -/
theorem ends_reclaimTerminal_stage (h : Steady n v) : n.reclaimTerminal.Ends fun _ r =>
    (r.2.status ≠ .ok ∧ (r.1 = n ∧ n.stage ≠ .ended ∨ r.1.usable = false)) ∨
      (r.2.status = .ok ∧ n.stage = .ended ∧ ∃ v', Steady r.1 v' ∧ Evolving v v' ∧ r.1.stage = .idle) := by
  unfold Ram.reclaimTerminal
  split
  · rename_i hguard
    refine .inl ⟨ControllerStatus.noConfusion, .inl ⟨rfl, fun hstage => ?_⟩⟩
    unfold Ram.stage at hstage
    cases hactive : n.controller.active with
    | false =>
      rw [hactive] at hstage
      cases hstage
    | true =>
      rw [if_pos hactive] at hstage
      simp only [h.usable, hactive, Bool.not_true, Bool.or_self, Bool.false_or, Bool.and_eq_true, decide_eq_true_eq,
        ne_eq] at hguard
      generalize n.controller.state = state at hstage hguard
      cases state <;> simp [RuntimeState.stage] at hstage hguard
  rename_i hguard
  have hguard : n.controller.active = true ∧ (n.controller.state = .failed ∨ n.controller.state = .expired) := by
    simp only [h.usable, Bool.not_true, Bool.false_or, Bool.or_eq_true, Bool.not_eq_true', Bool.and_eq_true,
      decide_eq_true_eq, not_or, not_and, not_not, Bool.not_eq_false] at hguard
    exact ⟨hguard.1, or_iff_not_imp_left.2 hguard.2⟩
  obtain ⟨hactive, hstate⟩ := hguard
  have hstage : n.stage = .ended := by
    unfold Ram.stage
    rw [if_pos hactive]
    exact stage_of_terminal hstate _
  obtain ⟨slot, -, hslot, -⟩ := h.ended hstage
  rw [hslot]
  refine (ends_reclaim h.serving.toShaped slot).bind fun log outcome halters => ?_
  obtain ⟨s', mutation⟩ := outcome
  dsimp only at halters ⊢
  split
  · refine .inl ⟨ControllerStatus.noConfusion, .inr ?_⟩
    simp [Ram.usable, Ram.degrade]
  rename_i hok
  obtain ⟨hterminal, hshaped, halloc⟩ := halters.done (not_not.1 hok)
  have hserving := h.serving.put hshaped halloc (.freed hterminal.owned)
  have hsteady : Steady (Ram.clearAttempt (Ram.deactivate { n with store := s' }))
      (v.put slot (NodeRecord.freed (v.records slot))) := by
    refine ⟨⟨hserving, h.operates, .idle rfl (.inr ?_)⟩, h.prepared⟩
    change n.controller.state.live = false
    rcases hstate with hstate | hstate <;> rw [hstate] <;> rfl
  exact .inr ⟨rfl, hstage, _, hsteady, .single ⟨slot, _, .freed hterminal.owned, rfl⟩, stage_of_inactive rfl⟩

/-- What the reclamation of some slots leaves. -/
def Clears (slots : List SlotIndex) (n : Ram) (v : View) (n' : Ram) : Prop :=
  n'.usable = true → ∃ v', Steady n' v' ∧ Evolving v v' ∧
    ((n'.stage = n.stage ∧ SameTimer n n' ∧
        ¬ (n.stage = .ended ∧ ∃ slot ∈ slots, n.controller.activeSlot = slot.val)) ∨
      (n.stage = .ended ∧ n'.stage = .idle))

theorem ends_reclaimSlots_stage (h : Steady n v) (slots : List SlotIndex) :
    (n.reclaimSlots true slots).Ends fun _ r => Clears slots n v r.1 := by
  induction slots generalizing n v with
  | nil =>
    intro _
    exact ⟨v, h, .refl, .inl ⟨rfl, ⟨rfl, rfl⟩, fun hc => by simp at hc⟩⟩
  | cons slot rest ih =>
    unfold Ram.reclaimSlots
    rw [h.serving.recordAt]
    split
    · -- the record is not terminal, so it is not that of an Event that has ended
      rename_i hrec
      refine (ih h).mono fun log r hr hu => ?_
      obtain ⟨v', hsteady, hev, ⟨hstage, htimer, hnot⟩ | hcleared⟩ := hr hu
      · refine ⟨v', hsteady, hev, .inl ⟨hstage, htimer, ?_⟩⟩
        rintro ⟨hended, i, hi, hslot⟩
        rcases List.mem_cons.1 hi with rfl | hi
        · obtain ⟨active, -, hactive, hterminal⟩ := h.ended hended
          obtain rfl : active = i := Fin.ext (hactive.symm.trans hslot)
          rcases hterminal with ht | ht <;> simp [Ram.isTerminalRecord, ht] at hrec
        · exact hnot ⟨hended, i, hi, hslot⟩
      · exact ⟨v', hsteady, hev, .inr hcleared⟩
    rename_i hrec
    have hterminal : Terminal (v.records slot) := by
      rw [Terminal, or_iff_not_imp_left]
      simpa [Ram.isTerminalRecord] using hrec
    split
    · refine (ends_reclaimTerminal_stage h).bind fun log outcome hreclaimed => ?_
      obtain ⟨n', reclaimed⟩ := outcome
      dsimp only at hreclaimed ⊢
      split
      · rename_i hfailed
        rcases hreclaimed with ⟨-, ⟨rfl, hne⟩ | hun⟩ | ⟨hok, -⟩
        · intro _
          exact ⟨v, h, .refl, .inl ⟨rfl, ⟨rfl, rfl⟩, fun hc => hne hc.1⟩⟩
        · intro hu
          rw [hun] at hu
          cases hu
        · exact absurd hok hfailed
      · rename_i hok
        obtain ⟨-, hended, v1, h1, hev1, hidle⟩ := hreclaimed.resolve_left fun hc => hok hc.1
        refine (ih h1).mono fun log r hr hu => ?_
        obtain ⟨v', hsteady, hev, ⟨hstage, -⟩ | ⟨hc, -⟩⟩ := hr hu
        · exact ⟨v', hsteady, hev1.trans hev, .inr ⟨hended, hstage.trans hidle⟩⟩
        · rw [hidle] at hc
          cases hc
    · rename_i hother
      have hother : n.controller.active = true → n.controller.activeSlot ≠ slot.val := by simpa using hother
      refine (ends_reclaim h.serving.toShaped slot).bind fun log outcome halters => ?_
      obtain ⟨s', mutation⟩ := outcome
      dsimp only at halters ⊢
      split
      · rename_i hfailed
        cases halters with
        | refused _ _ hguard => exact absurd hterminal (hguard slot.isLt)
        | altered hdone => exact absurd hdone hfailed
        | lost _ hunhealthy =>
          intro hu
          rw [usable_of_unhealthy hunhealthy] at hu
          cases hu
      rename_i hok
      obtain ⟨-, hshaped, halloc⟩ := halters.done (not_not.1 hok)
      have hserving := h.serving.put hshaped halloc (.freed hterminal.owned)
      have h1 : Steady { n with store := s' } (v.put slot (NodeRecord.freed (v.records slot))) :=
        ⟨⟨hserving, h.operates, h.attends.reclaimed hterminal hother⟩, h.prepared⟩
      have hstage1 : Ram.stage { n with store := s' } = n.stage := by
        refine h.stage_kept hserving rfl rfl rfl fun i hq => View.put_apply_ne _ ?_ _
        rintro rfl
        rcases hterminal with ht | ht <;> rw [hq] at ht <;> cases ht
      refine (ih h1).mono fun log r hr hu => ?_
      obtain ⟨v', hsteady, hev, hcleared⟩ := hr hu
      refine ⟨v', hsteady, Relation.ReflTransGen.head ⟨slot, _, .freed hterminal.owned, rfl⟩ hev, ?_⟩
      rw [hstage1] at hcleared
      rcases hcleared with ⟨hstage, htimer, hnot⟩ | hcleared
      · refine .inl ⟨hstage, ⟨htimer.origin, htimer.duration⟩, ?_⟩
        rintro ⟨hended, i, hi, hslot⟩
        rcases List.mem_cons.1 hi with rfl | hi
        · obtain ⟨-, hactive, -⟩ := h.ended hended
          exact hother hactive hslot
        · exact hnot ⟨hended, i, hi, hslot⟩
      · exact .inr hcleared

/-- The reclamation of everything that is terminal. -/
theorem ends_reclaimTerminals_call (h : Steady n v) (hserved : served → n.stage = .ended) :
    (n.reclaimTerminals true).Ends fun _ r => Heads now served n v r.1 := by
  unfold Ram.reclaimTerminals
  rw [if_neg (by simp [h.serving.healthy])]
  refine (ends_reclaimSlots_stage h _).mono fun log r hr hu => ?_
  obtain ⟨v', hsteady, hev, ⟨hstage, htimer, hnot⟩ | ⟨hended, hidle⟩⟩ := hr hu
  · refine ⟨v', hsteady, hev, .rests hstage (fun _ => htimer) fun hs => ?_⟩
    obtain ⟨slot, -, hslot, -⟩ := h.ended (hserved hs)
    exact absurd ⟨hserved hs, slot, List.mem_finRange slot, hslot⟩ hnot
  · refine ⟨v', hsteady, hev, .passes ?_ fun htimed => ?_⟩
    · rw [hended, hidle]
      exact .reclaimed
    · rw [hidle] at htimed
      cases htimed

theorem ends_reclaimTerminal_call (h : Steady n v) (hserved : served → n.stage = .ended) :
    n.reclaimTerminal.Ends fun _ r => Heads now served n v r.1 := by
  refine (ends_reclaimTerminal_stage h).mono fun log r hr => ?_
  rcases hr with ⟨-, ⟨hsame, hne⟩ | hun⟩ | ⟨-, hended, v', hsteady, hev, hidle⟩
  · rw [hsame]
    exact h.heads_rest fun hs => absurd (hserved hs) hne
  · exact heads_of_unusable hun
  · intro _
    refine ⟨v', hsteady, hev, .passes ?_ fun htimed => ?_⟩
    · rw [hended, hidle]
      exact .reclaimed
    · rw [hidle] at htimed
      cases htimed

/-! ### Every call -/

/-- **What a call leaves** for the head of the queue and for those behind it. -/
def Headway (now : UInt32) (served : Prop) (n : Ram) (v : View) (n' : Ram) : Prop :=
  n'.usable = true → ∃ v', Steady n' v' ∧ Follows v v' ∧ Advances now served n v n' v'

theorem Heads.headway {n' : Ram} (h : Heads now served n v n') : Headway now served n v n' := by
  intro hu
  obtain ⟨v', hsteady, hev, hadvances⟩ := h hu
  exact ⟨v', hsteady, hev.follows, hadvances⟩

theorem headway_of_unusable {n' : Ram} (h : n'.usable = false) : Headway now served n v n' :=
  (heads_of_unusable h).headway

/-- A call that leaves the controller's own state alone. -/
theorem Steady.headway_kept {n' : Ram} {v' : View} (h : Steady n v) (h' : Steady n' v') (hfollows : Follows v v')
    (hactive : n'.controller.active = n.controller.active) (hslot : n'.controller.activeSlot = n.controller.activeSlot)
    (hstate : n'.controller.state = n.controller.state) (htimer : SameTimer n n')
    (hkept : ∀ i, (v.records i).state = .queued → v'.records i = v.records i) (hserved : ¬ served) :
    Headway now served n v n' :=
  fun _ => ⟨v', h', hfollows, .rests (h.stage_kept h'.serving hactive hslot hstate hkept) (fun _ => htimer)
    fun hs => absurd hs hserved⟩

/-- What an enqueue leaves: the same store, one that is out of service, or one with a new Event. -/
theorem ends_enqueued (h : Steady n v) (input : EventInput) : (n.store.enqueue input).Ends fun _ r =>
    r.1 = n.store ∨ r.1.healthy = false ∨ ∃ v', Steady { n with store := r.1 } v' ∧ Follows v v' ∧
      ∀ i, (v.records i).state = .queued → v'.records i = v.records i := by
  refine (ends_enqueue h.serving input).mono fun log r hr => ?_
  rcases hr with ⟨-, hsame | hunhealthy⟩ | ⟨slot, identity, -, hfree, hfloor, hserving⟩
  · exact .inl hsame
  · exact .inr (.inl hunhealthy)
  · refine .inr (.inr ⟨_, ⟨⟨hserving, h.operates, h.attends.created h.serving.ok hfree hfloor⟩, h.prepared⟩,
      follows_created h.serving.ok hfloor, fun i hq => Function.update_of_ne ?_ _ _⟩)
    rintro rfl
    rw [hfree] at hq
    cases hq

/-- The policy takes up a slot, or the controller degrades. -/
theorem Steady.trackEnqueued_cases (h : Steady n v) (slot : ℕ) (now : UInt32) :
    (n.trackEnqueued slot now).1.usable = false ∨
      ∃ policy, (n.trackEnqueued slot now).1 = { n with controller := { n.controller with policy } } := by
  unfold Ram.trackEnqueued
  rw [if_neg (by simp [h.usable])]
  generalize n.controller.policy.trackEnqueued n.store slot now = tracked
  obtain ⟨policy, status⟩ := tracked
  dsimp only
  split
  · left
    simp [Ram.usable, Ram.degrade]
  · exact .inr ⟨policy, rfl⟩

theorem Steady.headway_trackEnqueued {m : Ram} {v1 : View} (h : Steady n v) (hm : Steady m v1) (hfollows : Follows v v1)
    (hsame : m.controller = n.controller) (hkept : ∀ i, (v.records i).state = .queued → v1.records i = v.records i)
    (hserved : ¬ served) (slot : ℕ) : Headway now served n v (m.trackEnqueued slot now).1 := by
  rcases hm.trackEnqueued_cases slot now with hun | ⟨policy, heq⟩
  · exact headway_of_unusable hun
  intro hu
  obtain ⟨v', h'⟩ := hm.trackEnqueued slot now hu
  rw [heq] at h' ⊢
  have hrecords : v'.records = v1.records := by
    rw [← h'.serving.records, ← hm.serving.records]
  have hfollows' : Follows v v' := by
    unfold Follows
    rw [hrecords]
    exact hfollows
  refine h.headway_kept h' hfollows' ?_ ?_ ?_ ⟨?_, ?_⟩ (by rw [hrecords]; exact hkept) hserved (h'.usable)
  · rw [← hsame]
  · rw [← hsame]
  · rw [← hsame]
  · rw [← hsame]
  · rw [← hsame]

theorem follows_refl (v : View) : Follows v v := fun _ hj => .inl ⟨hj, rfl⟩

theorem ends_enqueue_call (h : Steady n v) (hserved : ¬ served) (input : EventInput) :
    (n.store.enqueue input).Ends fun _ r => Headway now served n v { n with store := r.1 } := by
  refine (ends_enqueued h input).mono fun log r hr => ?_
  rcases hr with hsame | hunhealthy | ⟨v', h', hfollows, hkept⟩
  · rw [hsame]
    exact (h.heads_rest fun hs => absurd hs hserved).headway
  · exact headway_of_unusable (usable_of_unhealthy hunhealthy)
  · exact h.headway_kept h' hfollows rfl rfl rfl ⟨rfl, rfl⟩ hkept hserved

theorem ends_create_call (h : Steady n v) (hserved : ¬ served) (input : EventInput) :
    (n.create input now).Ends fun _ r => Headway now served n v r.1 := by
  have hstay : Headway now served n v n := (h.heads_rest fun hs => absurd hs hserved).headway
  unfold Ram.create
  split
  · exact hstay
  refine (ends_enqueued h input).bind fun log outcome henqueued => ?_
  obtain ⟨s', enqueued⟩ := outcome
  dsimp only at henqueued ⊢
  split
  · rcases henqueued with hsame | hunhealthy | ⟨v', h', hfollows, hkept⟩
    · rw [hsame]
      exact hstay
    · exact headway_of_unusable (usable_of_unhealthy hunhealthy)
    · exact h.headway_kept h' hfollows rfl rfl rfl ⟨rfl, rfl⟩ hkept hserved
  rename_i slot hslot
  have htracked : Headway now served n v (Ram.trackEnqueued { n with store := s' } slot now).1 := by
    rcases henqueued with hsame | hunhealthy | ⟨v', h', hfollows, hkept⟩
    · rw [hsame]
      exact h.headway_trackEnqueued h (follows_refl v) rfl (fun _ _ => rfl) hserved slot
    · refine headway_of_unusable ?_
      unfold Ram.trackEnqueued
      rw [if_pos (by rw [usable_of_unhealthy hunhealthy]; rfl)]
      simp [Ram.usable, Ram.degrade]
    · exact h.headway_trackEnqueued h' hfollows rfl hkept hserved slot
  generalize Ram.trackEnqueued { n with store := s' } slot now = tracked at htracked ⊢
  obtain ⟨n', status⟩ := tracked
  dsimp only
  split <;> exact htracked

/-- The state of a controller in a stage. -/
theorem state_of_stage (n : Ram) :
    (∀ left, n.stage = .pending left → n.controller.active = true) ∧
      (∀ left, n.stage = .air left → n.controller.state = .tx) := by
  constructor
  · intro left hstage
    by_contra hactive
    rw [stage_of_inactive (by simpa using hactive)] at hstage
    cases hstage
  · intro left hstage
    unfold Ram.stage at hstage
    split at hstage
    · generalize n.controller.state = state at hstage
      cases state <;> simp [RuntimeState.stage] at hstage ⊢
    · cases hstage

/-- **Every call of a steady controller.** -/
theorem Steady.headway {device hub : UInt8} (h : Steady n v) {call : Call} (hd : call.delivers = true) (now : UInt32) :
    (call.run device hub now n).Ends fun _ r => Headway now (n.serves call = true) n v r.1 := by
  -- no stage waits for such a call
  have hnone : (∀ stage : Stage, n.stage = stage → n.serves call = false) → ¬ n.serves call = true := by
    intro hfalse hs
    rw [hfalse n.stage rfl] at hs
    cases hs
  cases call with
  | recoverStore entropy => cases hd
  | boot entropy => cases hd
  | recoverController => cases hd
  | enqueue input =>
    have hserved : ¬ n.serves (.enqueue input) = true :=
      hnone fun stage hstage => by unfold Ram.serves; rw [hstage]; cases stage <;> rfl
    exact (ends_enqueue_call h hserved input).bind fun _ _ hr => hr
  | trackEnqueued slot =>
    have hserved : ¬ n.serves (.trackEnqueued slot) = true :=
      hnone fun stage hstage => by unfold Ram.serves; rw [hstage]; cases stage <;> rfl
    exact h.headway_trackEnqueued h (follows_refl v) rfl (fun _ _ => rfl) hserved slot
  | create input =>
    have hserved : ¬ n.serves (.create input) = true :=
      hnone fun stage hstage => by unfold Ram.serves; rw [hstage]; cases stage <;> rfl
    exact (ends_create_call h hserved input).bind fun _ _ hr => hr
  | service synchronousWork jitter =>
    refine (ends_service_call h (fun hs => ?_) synchronousWork jitter).bind fun _ _ hr => hr.headway
    unfold Ram.serves at hs
    generalize n.stage = stage at hs ⊢
    cases stage <;> simp [Stage.timed] at hs ⊢
  | grantTransmit sequence =>
    refine (ends_grant_call h (fun hs => ?_) sequence).bind fun _ _ hr => hr.headway
    unfold Ram.serves at hs
    have hactive := (state_of_stage n).1
    generalize n.stage = stage at hs hactive
    cases stage <;> simp at hs
    exact ⟨hactive _ rfl, hs⟩
  | txStarted =>
    have hserved : ¬ n.serves .txStarted = true :=
      hnone fun stage hstage => by unfold Ram.serves; rw [hstage]; cases stage <;> rfl
    exact (ends_started_call h hserved).bind fun _ _ hr => hr.headway
  | txStartFailed jitter =>
    refine (ends_startFailed_call h (fun hs => ?_) jitter).bind fun _ _ hr => hr.headway
    unfold Ram.serves at hs
    have hair := (state_of_stage n).2
    generalize n.stage = stage at hs hair
    cases stage <;> simp at hs
    exact hair _ rfl
  | txCompleted =>
    refine (ends_completed_call h fun hs => ?_).bind fun _ _ hr => hr.headway
    unfold Ram.serves at hs
    have hair := (state_of_stage n).2
    generalize n.stage = stage at hs hair
    cases stage <;> simp at hs
    exact hair _ rfl
  | admissionCandidate bytes jitter =>
    have hserved : ¬ n.serves (.admissionCandidate bytes jitter) = true :=
      hnone fun stage hstage => by unfold Ram.serves; rw [hstage]; cases stage <;> rfl
    exact (ends_candidate_call h hserved bytes jitter).bind fun _ _ hr => hr.headway
  | reclaimTerminal =>
    refine (ends_reclaimTerminal_call h fun hs => ?_).bind fun _ _ hr => hr.headway
    unfold Ram.serves at hs
    generalize n.stage = stage at hs ⊢
    cases stage <;> simp at hs ⊢
  | reclaimTerminals withController =>
    obtain rfl : withController = true := hd
    refine (ends_reclaimTerminals_call h fun hs => ?_).bind fun _ _ hr => hr.headway
    unfold Ram.serves at hs
    generalize n.stage = stage at hs ⊢
    cases stage <;> simp at hs ⊢

end Calls

end Redline.Node
