import Redline.Node.Clocked

/-!
# Lifetimes in a call

Every call of a Node restarts the lifetimes, services them, or leaves them alone (`Proceeds`).  A policy comes into use
by a recovery only (`ready_of_returns`), and out of use nothing else changes it (`policy_of_unusable`).
-/

namespace Redline.Node

open Redline.Wire Redline.Records Redline.Lib

/-! ### What calls do to the lifetimes -/

section Moves

variable {now : UInt32} {x y : (SlotIndex → SlotRuntime) × View}

theorem Moves.evolving (h : Moves now x y) : Evolving x.2 y.2 := by
  induction h with
  | refl => exact .refl
  | tail _ hmove ih =>
    cases hmove with
    | round hround => exact ih.trans hround.ageing.evolving
    | put _ _ he => exact ih.tail ⟨_, _, he, rfl⟩

end Moves

/-- **What a call that has returned has done to the lifetimes.** -/
inductive Proceeds (device hub : UInt8) (call : Call) (now : UInt32) (m : Machine) (v : View) (n' : Ram) (v' : View)
    (radio : RadioAction) : Prop
  | restarted (hcall : call.restarts = true) (hquiet : radio.Quiet)
      (hclocks : hasValidEndpoints device hub = true → n'.controller.policy.ready = true →
        ∃ v0 p v1, Reclaiming v v0 ∧ PolicyRecovered now v0 p v1 ∧
          Moves now (p.runtime, v1) (n'.controller.policy.runtime, v'))
  | served (hcall : m.ram.services call = true)
      (hmoves : Moves now (m.ram.controller.policy.runtime, v) (n'.controller.policy.runtime, v'))
      (hcurrent : n'.Current now v')
  | idle (hcall : call.restarts = false) (hserves : m.ram.services call = false) (hquiet : radio.Quiet)
      (hkept : ∀ i, (v'.records i).state = .queued →
        v'.records i = v.records i ∨ (v.records i).state = .free)
      (hruntime : ∀ i, (v'.records i).state = .queued → n'.controller.policy.runtime i =
        if m.tracks call i then ⟨true, now, 0⟩ else m.ram.controller.policy.runtime i)

section Calls

variable {device hub : UInt8} {n : Ram} {img : Image} {v : View} {now : UInt32}

/-- A call has returned, and has done to the lifetimes what it may. -/
def CallDone (device hub : UInt8) (call : Call) (now : UInt32) (m : Machine) (v : View) (r : Ram × RadioAction)
    (img' : Image) : Prop :=
  ∃ v', Stored device img' v' ∧ Proceeds device hub call now m v r.1 v' r.2

/-- What is not asked to track anything leaves the policy and the QUEUED records alone. -/
theorem Proceeds.of_same {m : Machine} {call : Call} {n' : Ram} {v' : View} {radio : RadioAction}
    (hcall : call.restarts = false) (hserves : m.ram.services call = false) (hquiet : radio.Quiet)
    (htracks : ∀ i, (v'.records i).state = .queued → m.tracks call i = false)
    (hkept : ∀ i, (v'.records i).state = .queued → v'.records i = v.records i ∨ (v.records i).state = .free)
    (hpolicy : n'.controller.policy = m.ram.controller.policy) :
    Proceeds device hub call now m v n' v' radio := by
  refine .idle hcall hserves hquiet hkept fun i hq => ?_
  rw [htracks i hq, hpolicy]
  rfl

/-- The calls that look at the lifetimes before they do anything else. -/
theorem Proceeds.of_serves {m : Machine} {call : Call} {n' : Ram} {img' : Image} {v' : View} {radio : RadioAction}
    (hcall : call.restarts = false) (htracks : ∀ i, m.tracks call i = false)
    (hworked : Worked now m.ram v n' img' v') (hserves : Serves now (m.ram.services call = true) m.ram v n' v')
    (hquiet : m.ram.services call = false → radio.Quiet) : Proceeds device hub call now m v n' v' radio := by
  cases hs : m.ram.services call with
  | true => exact .served hs hworked.moves (hserves.current hs)
  | false =>
    obtain ⟨hpolicy, rfl⟩ := hserves.still (by rw [hs]; exact Bool.false_ne_true)
    exact .of_same hcall hs (hquiet hs) (fun i _ => htracks i) (fun _ _ => Or.inl rfl) hpolicy

theorem Ram.trackEnqueued_eq (hu : n.usable = true) (h : Sound n.store img v) {slot : SlotIndex}
    (hq : (v.records slot).state = .queued) : n.trackEnqueued slot now = (n.track slot now, .ok) := by
  obtain ⟨-, -, hh, hready⟩ := usable_iff.1 hu
  unfold Ram.trackEnqueued Policy.trackEnqueued
  simp [hu, hh, hready, queuedRecord_some h hq, Ram.track]

theorem Works.stored_worked {n' : Ram} {img' : Image} {v' : View} (h : Works device hub n img v)
    (hw : Worked now n v n' img' v') : Stored device img' v' := by
  rw [← h.source, ← hw.device]
  exact hw.sound.stored

/-- The calls that service the lifetimes and ask for no transmission. -/
theorem Works.ensures_serving (h : Works device hub n img v) {call : Call} {p : StorageM (Ram × ControllerResult)}
    {serviced : Prop} (hcall : call.restarts = false) (htracks : ∀ i, (⟨n, img⟩ : Machine).tracks call i = false)
    (hp : ∀ {Q : Ram × ControllerResult → Image → Prop}, (∀ n' img' v' result, Worked now n v n' img' v' →
      Serves now serviced n v n' v' → result.Quiet → Q (n', result) img') →
      geometry.Ensures img p Q fun _ => True)
    (hserviced : serviced ↔ n.services call = true) :
    geometry.Ensures img (do
      let (n, r) ← p
      return (n, r.action)) (CallDone device hub call now ⟨n, img⟩ v) fun _ => True := by
  refine ensures_bind (hp fun n' img' v' result hw hs hq => ?_)
  rw [hserviced] at hs
  exact ensures_pure.2 ⟨v', h.stored_worked hw, .of_serves hcall htracks hw hs fun _ => hq⟩

theorem Works.ensures_granted (h : Works device hub n img v) (sequence : Option UInt8) :
    geometry.Ensures img (Call.run device hub now n (.grantTransmit sequence))
      (CallDone device hub (.grantTransmit sequence) now ⟨n, img⟩ v) fun _ => True := by
  have htracks : ∀ i, (⟨n, img⟩ : Machine).tracks (.grantTransmit sequence) i = false := fun _ => Bool.and_false _
  have hserviced : (n.usable = true ∧ n.controller.active = true ∧ n.controller.state = .ready) ↔
      n.services (.grantTransmit sequence) = true := by simp [Ram.services, and_assoc]
  cases hs : n.services (.grantTransmit sequence) with
  | true =>
    refine ensures_bind (Node.ensures_grantTransmit h.sound h.pending (fun _ _ _ _ => trivial) ?_)
    intro n' img' v' result ha hserves _
    rw [hserviced] at hserves
    exact ensures_pure.2 ⟨v', h.stored_worked ha.toWorked, .served hs ha.moves (hserves.current hs)⟩
  | false =>
    -- the call is refused
    obtain ⟨status, hrun⟩ : ∃ status, n.grantTransmit now sequence = pure (n, result status) := by
      unfold Ram.grantTransmit
      split
      · exact ⟨_, rfl⟩
      · split
        · exact ⟨_, rfl⟩
        · rename_i hu hguard
          have hcontra : n.services (.grantTransmit sequence) = true :=
            hserviced.1 ⟨by simpa using hu, by simpa using hguard⟩
          rw [hs] at hcontra
          cases hcontra
    simp only [Call.run, hrun, Prog.pure_bind']
    refine ensures_pure.2 ⟨v, by rw [← h.source]; exact h.sound.stored, ?_⟩
    exact .of_same rfl hs quiet_none (fun i _ => htracks i) (fun _ _ => Or.inl rfl) rfl

theorem Works.ensures_freed (h : Works device hub n img v) {call : Call} {α : Type} {p : StorageM (Ram × α)}
    {radio : α → RadioAction} {Good : α → Prop} (hcall : call.restarts = false) (hserves : n.services call = false)
    (htracks : ∀ i, (⟨n, img⟩ : Machine).tracks call i = false) (hgood : ∀ x, Good x → (radio x).Quiet)
    (hp : ∀ {Q : Ram × α → Image → Prop}, (∀ n' img' v' x, Reclaimed n v n' img' v' → Good x → Q (n', x) img') →
      geometry.Ensures img p Q fun _ => True) :
    geometry.Ensures img (do
      let (n, x) ← p
      return (n, radio x)) (CallDone device hub call now ⟨n, img⟩ v) fun _ => True := by
  refine ensures_bind (hp fun n' img' v' x hr hx => ensures_pure.2 ⟨v', (h.reclaimed hr).alive.stored, ?_⟩)
  refine .of_same hcall hserves (hgood x hx) (fun i _ => htracks i) (fun i hq => Or.inl ?_) hr.policy
  exact hr.reclaiming.queued ((hr.reclaiming.evolving.inherits i (owned_of_queued hq)).queued hq)

/-- The record of a creation is the only new one. -/
theorem View.created_kept {slot : SlotIndex} {identity : Identity} {input : EventInput}
    (hfree : (v.records slot).state = .free) (i : SlotIndex) :
    (v.created slot identity input).records i = v.records i ∨ (v.records i).state = .free := by
  by_cases his : i = slot
  · rw [his]
    exact Or.inr hfree
  · exact Or.inl (Function.update_of_ne his _ _)

theorem Works.ensures_enqueued (h : Works device hub n img v) (input : EventInput) :
    geometry.Ensures img (Call.run device hub now n (.enqueue input))
      (CallDone device hub (.enqueue input) now ⟨n, img⟩ v) fun _ => True := by
  have htracks : ∀ i, (⟨n, img⟩ : Machine).tracks (.enqueue input) i = false := fun _ => Bool.and_false _
  refine ensures_storeEnqueue h.sound (fun _ _ _ _ => trivial) (fun s' img' result hs _ => ?_)
    fun s' img' slot identity hc hfloor hsound hsrc => ?_
  · rw [h.source] at hs
    exact ensures_pure.2 ⟨v, hs.stored, .of_same rfl rfl quiet_none (fun i _ => htracks i) (fun _ _ => Or.inl rfl) rfl⟩
  · have hfree : (v.records slot).state = .free := by
      rw [← h.sound.records]
      exact firstFree_state hc.free
    refine ensures_pure.2 ⟨v.created slot identity input, ?_, ?_⟩
    · rw [← h.source, ← hsrc]
      exact hsound.stored
    · exact .of_same rfl rfl quiet_none (fun i _ => htracks i) (fun i _ => View.created_kept hfree i) rfl

theorem tracks_trackEnqueued (slot : ℕ) (i : SlotIndex) :
    (⟨n, img⟩ : Machine).tracks (.trackEnqueued slot) i = (n.usable && slot == i.val) := rfl

theorem Stored.tracks_create (h : Stored device img v) (input : EventInput) (i : SlotIndex) :
    (⟨n, img⟩ : Machine).tracks (.create input) i = (n.usable && decide ((v.records i).state ≠ .queued)) := by
  unfold Machine.tracks
  rw [h.queuedRecordIn_eq]
  by_cases hq : (v.records i).state = .queued <;> simp [hq]

/-- Without a QUEUED record in the slot, or out of use, the policy is left alone. -/
theorem trackEnqueued_policy {slot : ℕ} (h : Sound n.store img v) (hno : n.usable = true → ∀ hs : slot < 8,
    (v.records ⟨slot, hs⟩).state ≠ .queued) :
    (n.trackEnqueued slot now).1.controller.policy = n.controller.policy := by
  unfold Ram.trackEnqueued
  split
  · rfl
  rename_i hu
  have hu : n.usable = true := by simpa using hu
  obtain ⟨-, -, hh, hready⟩ := usable_iff.1 hu
  unfold Policy.trackEnqueued
  simp only [hh, hready, Bool.not_true, Bool.or_self, Bool.false_eq_true, if_false]
  split
  · rename_i hs
    simp only [queuedRecord_none h (hno hu hs), Option.isNone_none, if_true]
    rfl
  · rfl

theorem Works.tracked (h : Works device hub n img v) (slot : ℕ) :
    Proceeds device hub (.trackEnqueued slot) now ⟨n, img⟩ v (n.trackEnqueued slot now).1 v .none := by
  by_cases htrack : n.usable = true ∧ ∃ hs : slot < 8, (v.records ⟨slot, hs⟩).state = .queued
  · obtain ⟨hu, hs, hq⟩ := htrack
    have heq : n.trackEnqueued slot now = (n.track ⟨slot, hs⟩ now, .ok) := Ram.trackEnqueued_eq hu h.sound hq
    rw [heq]
    refine .idle rfl rfl quiet_none (fun _ _ => Or.inl rfl) fun i _ => ?_
    rw [tracks_trackEnqueued, hu, Bool.true_and]
    by_cases his : i = ⟨slot, hs⟩
    · subst his
      simp [Ram.track, Policy.setRuntime]
    · have hne : ¬ slot = i.val := fun hc => his (Fin.ext hc.symm)
      simp [Ram.track, Policy.setRuntime, his, hne]
  · refine .of_same rfl rfl quiet_none (fun i hq => ?_) (fun _ _ => Or.inl rfl)
      (trackEnqueued_policy h.sound fun hu hs hq => htrack ⟨hu, hs, hq⟩)
    rw [tracks_trackEnqueued]
    by_contra hc
    obtain ⟨hu, hi⟩ := Bool.and_eq_true_iff.1 (Bool.not_eq_false _ ▸ hc)
    have hi : slot = i.val := beq_iff_eq.1 hi
    subst hi
    exact htrack ⟨hu, i.isLt, hq⟩

theorem Works.ensures_created (h : Works device hub n img v) (input : EventInput) :
    geometry.Ensures img (Call.run device hub now n (.create input))
      (CallDone device hub (.create input) now ⟨n, img⟩ v) fun _ => True := by
  have hst : Stored device img v := h.alive.stored
  refine ensures_bind (Node.ensures_create h.sound (fun _ _ _ _ => trivial) (fun s' img' result hs => ?_)
    fun s' img' slot identity result hc hfloor hsound hsrc => ?_)
  · rw [h.source] at hs
    refine ensures_pure.2 ⟨v, hs.stored, .of_same rfl rfl quiet_none (fun i hq => ?_) (fun _ _ => Or.inl rfl) rfl⟩
    simp [hst.tracks_create, hq]
  · have hfree : (v.records slot).state = .free := by
      rw [← h.sound.records]
      exact firstFree_state hc.free
    have hnew : ((v.created slot identity input).records slot).state = .queued := by
      simp [View.created, Store.queuedRecord]
    have hst' : Stored device img' (v.created slot identity input) := by
      rw [← h.source, ← hsrc]
      exact hsound.stored
    have hold : ∀ i, i ≠ slot → ((v.created slot identity input).records i).state = .queued →
        (v.records i).state = .queued := by
      intro i his hq
      rwa [show (v.created slot identity input).records i = v.records i from Function.update_of_ne his _ _] at hq
    have huse : (⟨s', n.controller⟩ : Ram).usable = n.usable := by
      simp [Ram.usable, hsound.healthy, h.sound.healthy]
    refine ensures_pure.2 ⟨_, hst', ?_⟩
    by_cases hu : n.usable = true
    · rw [Ram.trackEnqueued_eq (n := ⟨s', n.controller⟩) (huse.trans hu) hsound hnew]
      refine .idle rfl rfl quiet_none (fun i _ => View.created_kept hfree i) fun i hq => ?_
      rw [hst.tracks_create, hu, Bool.true_and]
      by_cases his : i = slot
      · subst his
        simp [Ram.track, Policy.setRuntime, hfree]
      · simp [Ram.track, Policy.setRuntime, his, hold i his hq]
    · refine .of_same rfl rfl quiet_none (fun i _ => ?_) (fun i _ => View.created_kept hfree i)
        (trackEnqueued_policy (n := ⟨s', n.controller⟩) hsound fun hu' => absurd (huse.symm.trans hu') hu)
      simp [hst.tracks_create, hu]

theorem Works.ensures_restarted (h : Works device hub n img v) :
    geometry.Ensures img (Call.run device hub now n .recoverController)
      (CallDone device hub .recoverController now ⟨n, img⟩ v) fun _ => True := by
  refine ensures_bind (ensures_controllerRecover h.sound (fun _ _ _ _ => trivial)
    fun n' img' v' result hre hsrc hq => ?_)
  refine ensures_pure.2 ⟨v', ?_, .restarted rfl hq fun hv _ => ?_⟩
  · rw [← h.source, ← hsrc]
    exact hre.sound.stored
  · obtain ⟨p, v1, hrec, hmoves⟩ := hre.clocks hv
    exact ⟨v, p, v1, .refl, hrec, hmoves⟩

/-- **A call of a Node whose store works.** -/
theorem Works.ensures_done (h : Works device hub n img v) {call : Call} (hr : call.recovers = false) :
    geometry.Ensures img (call.run device hub now n) (CallDone device hub call now ⟨n, img⟩ v) fun _ => True := by
  cases call with
  | recoverStore entropy => cases hr
  | boot entropy => cases hr
  | recoverController => exact h.ensures_restarted
  | enqueue input => exact h.ensures_enqueued input
  | trackEnqueued slot => exact ensures_pure.2 ⟨v, h.alive.stored, h.tracked slot⟩
  | create input => exact h.ensures_created input
  | service synchronousWork jitter =>
    exact h.ensures_serving rfl (fun _ => Bool.and_false _)
      (fun hQ => ensures_controllerService h.sound h.pending (fun _ _ _ _ => trivial)
        fun n' img' v' result ha => hQ n' img' v' result ha.toWorked) (by simp [Ram.services])
  | grantTransmit sequence => exact h.ensures_granted sequence
  | txStarted =>
    exact h.ensures_serving rfl (fun _ => Bool.and_false _)
      (fun hQ => ensures_txStarted h.sound h.pending (fun _ _ _ _ => trivial)
        fun n' img' v' result ha => hQ n' img' v' result ha.toWorked) (by simp [Ram.services])
  | txStartFailed jitter =>
    exact h.ensures_serving rfl (fun _ => Bool.and_false _)
      (fun hQ => Node.ensures_txStartFailed h.sound h.pending (fun _ _ _ _ => trivial)
        fun n' img' v' result ha => hQ n' img' v' result ha.toWorked) (by simp [Ram.services])
  | txCompleted =>
    exact h.ensures_serving rfl (fun _ => Bool.and_false _)
      (fun hQ => Node.ensures_txCompleted h.sound h.pending (fun _ _ _ _ => trivial)
        fun n' img' v' result ha => hQ n' img' v' result ha.toWorked) (by simp [Ram.services])
  | admissionCandidate bytes jitter =>
    exact h.ensures_serving rfl (fun _ => Bool.and_false _)
      (fun hQ => Node.ensures_admissionCandidate h.sound h.pending (fun _ _ _ _ => trivial)
        fun n' img' v' result hw _ hserves _ hq => hQ n' img' v' result hw hserves hq) (by simp [Ram.services])
  | reclaimTerminal =>
    exact h.ensures_freed rfl rfl (fun _ => Bool.and_false _)
      (fun _ hq => hq) fun hQ => ensures_reclaimTerminal h.sound h.pending (fun _ _ _ _ => trivial) hQ
  | reclaimTerminals withController =>
    have htracks : ∀ i, (⟨n, img⟩ : Machine).tracks (.reclaimTerminals withController) i = false :=
      fun _ => Bool.and_false _
    exact h.ensures_freed rfl rfl htracks (fun _ _ => quiet_none) fun hQ =>
      ensures_reclaimTerminals h.sound h.pending (fun _ _ _ _ => trivial) hQ

/-! ### Calls out of use -/

/-- Out of use, only a recovery changes the policy. -/
theorem policy_of_unusable (hu : n.usable = false) {call : Call} (hcall : call.restarts = false) {ops : List StorageOp}
    {r : Ram × RadioAction} (h : Prog.Returns (fun _ _ => True) (call.run device hub now n) ops r) :
    r.1.controller.policy = n.controller.policy := by
  have htrack : ∀ (s : Store) (slot : ℕ), (⟨s, n.controller⟩ : Ram).usable = false →
      ((⟨s, n.controller⟩ : Ram).trackEnqueued slot now).1.controller.policy = n.controller.policy := by
    intro s slot hs
    simp [Ram.trackEnqueued, hs, Ram.degrade]
  have hsame : ∀ {p : StorageM (Ram × ControllerResult)} {status : ControllerStatus},
      p = pure (n, result status) → Prog.Returns (fun _ _ => True) (do
        let (n, r) ← p
        return (n, r.action)) ops r → r.1.controller.policy = n.controller.policy := by
    rintro p status rfl h
    rw [(Prog.returns_pure.1 h).2]
  cases call with
  | recoverController => cases hcall
  | boot entropy => cases hcall
  | recoverStore entropy =>
    obtain ⟨⟨store, status⟩, _, _, -, h, -⟩ := Prog.returns_bind h
    rw [(Prog.returns_pure.1 h).2]
  | enqueue input =>
    obtain ⟨⟨store, enqueued⟩, _, _, -, h, -⟩ := Prog.returns_bind h
    rw [(Prog.returns_pure.1 h).2]
  | trackEnqueued slot =>
    rw [(Prog.returns_pure.1 h).2]
    exact htrack n.store slot hu
  | create input =>
    obtain ⟨⟨n1, enqueued⟩, _, _, hcreate, h, -⟩ := Prog.returns_bind h
    rw [(Prog.returns_pure.1 h).2]
    unfold Ram.create at hcreate
    split at hcreate
    · rw [(Prod.mk.inj (Prog.returns_pure.1 hcreate).2).1]
    · obtain ⟨⟨store, enqueued⟩, _, _, henqueue, hcreate, -⟩ := Prog.returns_bind hcreate
      dsimp only at hcreate
      split at hcreate
      · rw [(Prod.mk.inj (Prog.returns_pure.1 hcreate).2).1]
      · rename_i slot hslot
        -- a store out of service enqueues nothing
        have hs : (⟨store, n.controller⟩ : Ram).usable = false := by
          cases hh : n.store.healthy with
          | true =>
            simp only [Ram.usable, hh, Bool.and_true] at hu
            rw [Ram.usable, Bool.and_right_comm, hu, Bool.false_and]
          | false =>
            rw [Store.enqueue, hh] at henqueue
            obtain ⟨-, henqueue⟩ := Prod.mk.inj (Prog.returns_pure.1 henqueue).2
            rw [henqueue] at hslot
            cases hslot
        split at hcreate <;> rw [(Prod.mk.inj (Prog.returns_pure.1 hcreate).2).1] <;> exact htrack store slot hs
  | service synchronousWork jitter => exact hsame (by unfold Ram.service; rw [hu]; rfl) h
  | grantTransmit sequence => exact hsame (by unfold Ram.grantTransmit; rw [hu]; rfl) h
  | txStarted => exact hsame (by unfold Ram.txStarted Ram.duringState; rw [hu]; rfl) h
  | txStartFailed jitter => exact hsame (by unfold Ram.txStartFailed Ram.duringState; rw [hu]; rfl) h
  | txCompleted => exact hsame (by unfold Ram.txCompleted Ram.duringState; rw [hu]; rfl) h
  | admissionCandidate bytes jitter => exact hsame (by unfold Ram.admissionCandidate Ram.duringState; rw [hu]; rfl) h
  | reclaimTerminal => exact hsame (by unfold Ram.reclaimTerminal; rw [hu]; rfl) h
  | reclaimTerminals withController =>
    obtain ⟨⟨n1, reclaimed⟩, _, _, hreclaim, h, -⟩ := Prog.returns_bind h
    rw [(Prog.returns_pure.1 h).2]
    exact (returns_reclaimTerminals hreclaim).2

/-- **The policy comes into use by a recovery** with valid endpoints. -/
theorem ready_of_returns {call : Call} {ops : List StorageOp} {r : Ram × RadioAction}
    (h : Prog.Returns (fun _ _ => True) (call.run device hub now n) ops r)
    (hready : r.1.controller.policy.ready = true) :
    n.controller.policy.ready = true ∨ call.restarts = true ∧ hasValidEndpoints device hub = true := by
  by_cases hold : n.controller.policy.ready = true
  · exact Or.inl hold
  refine Or.inr ?_
  have hu : n.usable = false := by simp [Ram.usable, hold]
  cases hcall : call.restarts with
  | false =>
    rw [policy_of_unusable hu hcall h] at hready
    exact absurd hready hold
  | true =>
    refine ⟨rfl, ?_⟩
    by_contra hinvalid
    have hv : hasValidEndpoints device hub = false := by simpa using hinvalid
    -- a recovery that is refused leaves the policy alone
    have hrefused : ∀ (m : Ram) {ops : List StorageOp} {r : Ram × ControllerResult},
        Prog.Returns (fun _ _ => True) (m.recover device hub now) ops r →
          r.1.controller.policy = m.controller.policy := by
      intro m ops r h
      unfold Ram.recover at h
      simp only [hv, Bool.not_false, if_true] at h
      rw [(Prog.returns_pure.1 h).2]
      rfl
    cases call with
    | recoverController =>
      obtain ⟨⟨n1, result⟩, _, _, hrecover, h, -⟩ := Prog.returns_bind h
      rw [(Prog.returns_pure.1 h).2, hrefused n hrecover] at hready
      exact hold hready
    | boot entropy =>
      obtain ⟨⟨n1, result⟩, _, _, hboot, h, -⟩ := Prog.returns_bind h
      rw [(Prog.returns_pure.1 h).2] at hready
      unfold Ram.boot at hboot
      obtain ⟨⟨store, status⟩, _, _, -, hboot, -⟩ := Prog.returns_bind hboot
      dsimp only at hboot hready
      split at hboot
      · rw [(Prod.mk.inj (Prog.returns_pure.1 hboot).2).1] at hready
        cases hready
      obtain ⟨⟨n2, reclaimed⟩, _, _, hreclaim, hboot, -⟩ := Prog.returns_bind hboot
      have hpolicy : n2.controller.policy = Policy.initial := (returns_reclaimTerminals hreclaim).2
      dsimp only at hboot
      split at hboot
      · rw [(Prod.mk.inj (Prog.returns_pure.1 hboot).2).1, hpolicy] at hready
        cases hready
      · rw [show n1.controller.policy = n2.controller.policy from hrefused n2 hboot, hpolicy] at hready
        cases hready
    | _ => cases hcall

theorem services_of_unusable (hu : n.usable = false) (call : Call) : n.services call = false := by
  unfold Ram.services
  split <;> simp [hu]

/-- A call on a store that is out of service. -/
theorem proceeds_of_unhealthy (hst : Stored device img v) (hh : n.store.healthy = false) (hc : Configured device hub n)
    {call : Call} (hr : call.recovers = false) :
    geometry.Ensures img (call.run device hub now n) (CallDone device hub call now ⟨n, img⟩ v) fun _ => True := by
  obtain ⟨n', radio, hrun, -, hq, -, -⟩ := run_of_unhealthy now hh hc hr
  have hu := usable_of_unhealthy hh
  have hret : Prog.Returns (fun _ _ => True) (call.run device hub now n) [] (n', radio) := by
    rw [hrun]
    exact .pure _
  rw [hrun]
  refine ensures_pure.2 ⟨v, hst, ?_⟩
  cases hcall : call.restarts with
  | false =>
    refine .of_same hcall (services_of_unusable hu call) hq (fun i _ => ?_) (fun _ _ => Or.inl rfl)
      (policy_of_unusable hu hcall hret)
    simp [Machine.tracks, hu]
  | true =>
    refine .restarted hcall hq fun hv hready => ?_
    cases call with
    | recoverController =>
      obtain ⟨⟨n1, result⟩, _, _, hrecover, hret, -⟩ := Prog.returns_bind hret
      obtain rfl : n' = n1 := congrArg Prod.fst (Prog.returns_pure.1 hret).2
      unfold Ram.recover at hrecover
      simp only [hv, Bool.not_true, Bool.false_eq_true, if_false, Policy.recover, hh, Bool.not_false, if_true,
        Prog.pure_bind'] at hrecover
      rw [(Prod.mk.inj (Prog.returns_pure.1 hrecover).2).1] at hready
      cases hready
    | boot entropy => cases hr
    | _ => cases hcall

/-- **A call of a living Node.** -/
theorem Alive.ensures_done (h : Alive device hub ⟨n, img⟩ v) (call : Call) (now : UInt32) :
    geometry.Ensures img (call.run device hub now n) (CallDone device hub call now ⟨n, img⟩ v) fun _ => True := by
  by_cases hr : call.recovers = false
  · cases hh : n.store.healthy with
    | true => exact Works.ensures_done ⟨h.sound hh, h.source hh, h.pending, h.configured⟩ hr
    | false => exact proceeds_of_unhealthy h.stored hh h.configured hr
  · cases call with
    | recoverStore entropy =>
      have htracks : ∀ i, (⟨n, img⟩ : Machine).tracks (.recoverStore entropy) i = false := fun _ => Bool.and_false _
      refine ensures_bind (ensures_recover_stored noFaults_truthful h.stored trivial fun s hsound hsrc => ?_)
      exact ensures_pure.2 ⟨v, h.stored, .of_same rfl rfl quiet_none (fun i _ => htracks i) (fun _ _ => Or.inl rfl) rfl⟩
    | boot entropy =>
      refine ensures_bind (ensures_boot h.stored (fun _ _ _ _ _ _ => trivial)
        fun n' img' v1 v' result hre hst hsrc hq => ?_)
      refine ensures_pure.2 ⟨v', ?_, .restarted rfl hq fun hv _ => ?_⟩
      · rw [← hsrc]
        exact hst.sound.stored
      · obtain ⟨p, v2, hrec, hmoves⟩ := hst.clocks hv
        exact ⟨v1, p, v2, hre, hrec, hmoves⟩
    | _ => exact absurd rfl hr

end Calls

end Redline.Node
