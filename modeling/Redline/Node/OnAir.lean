import Redline.Node.Commands
import Redline.Node.Fifo

/-!
# The Event on the air

The controller is in the state TX while an Event is on the air.  Of its calls only `grantTransmit` puts one there
(`returns_grantTransmit`), and on a sound store `txCompleted` and `txStartFailed` take it off again.

In the main loop the Event keeps the radio (`Held`) unless somebody else takes it: the Host's bytes and an armed request
of the settings do, whose services look at the phase, which is LISTENING during the transmission; and a controller that
is out of use by the time of the interrupt stays in TX.
-/

namespace Redline.Node

open Redline.Wire Redline.Records Redline.Lib Redline.Host

/-! ### The state of the controller -/

/-- The controller has an Event on the air. -/
def Ram.OnAir (n : Ram) : Prop := n.controller.state = .tx

instance (n : Ram) : Decidable n.OnAir := inferInstanceAs (Decidable (_ = _))

section Calls

variable {n : Ram} {now : UInt32} {ops : List StorageOp}

theorem returns_serviceLifetime {r : Ram × Bool} (h : Prog.Returns (fun _ _ => True) (n.serviceLifetime now) ops r) :
    r.1.controller.active = n.controller.active ∧
      (r.1.controller.state = n.controller.state ∨ r.1.controller.state = .expired) := by
  unfold Ram.serviceLifetime at h
  obtain ⟨⟨store, policy, status⟩, _, _, -, h, -⟩ := Prog.returns_bind h
  dsimp only at h
  split at h
  · rw [(Prog.returns_pure.1 h).2]
    exact ⟨rfl, Or.inl rfl⟩
  · split at h
    · rw [(Prog.returns_pure.1 h).2]
      exact ⟨rfl, Or.inl rfl⟩
    · split at h
      · rw [(Prog.returns_pure.1 h).2]
        exact ⟨rfl, Or.inr rfl⟩
      · rw [(Prog.returns_pure.1 h).2]
        exact ⟨rfl, Or.inl rfl⟩

theorem returns_markFailed {r : Ram × Bool} (h : Prog.Returns (fun _ _ => True) n.markFailed ops r) :
    r.1.controller.state = n.controller.state ∨ r.1.controller.state = .failed := by
  unfold Ram.markFailed at h
  obtain ⟨⟨store, mutation⟩, _, _, -, h, -⟩ := Prog.returns_bind h
  dsimp only at h
  split at h <;> rw [(Prog.returns_pure.1 h).2]
  · exact Or.inl rfl
  · exact Or.inr rfl

theorem returns_failedAttempt {jitter : UInt16} {r : Ram × ControllerResult}
    (h : Prog.Returns (fun _ _ => True) (n.failedAttempt now jitter) ops r) (hr : r.1.OnAir) : n.OnAir := by
  unfold Ram.failedAttempt at h
  extract_lets exhausted attemptsUsed at h
  split at h
  · obtain ⟨⟨n1, failed⟩, _, _, hmark, h, -⟩ := Prog.returns_bind h
    have hn1 : n1.OnAir → n.OnAir := fun htx => (returns_markFailed hmark).elim (fun he => he.symm.trans htx)
      fun he => absurd (he.symm.trans htx) RuntimeState.noConfusion
    dsimp only at h
    split at h <;> rw [(Prog.returns_pure.1 h).2] at hr
    · exact hn1 hr
    · exact hn1 hr
  · split at h <;> rw [(Prog.returns_pure.1 h).2] at hr
    · exact hr
    · exact absurd hr RuntimeState.noConfusion

theorem returns_advance {synchronousWork : Bool} {jitter : UInt16} {r : Ram × ControllerResult}
    (h : Prog.Returns (fun _ _ => True) (n.advance now synchronousWork jitter) ops r) :
    (r.1.OnAir → n.OnAir) ∧ (n.OnAir → r.1.OnAir) := by
  unfold Ram.advance at h
  have hother : n.controller.state ≠ .tx → (r.1.OnAir → n.OnAir) →
      (r.1.OnAir → n.OnAir) ∧ (n.OnAir → r.1.OnAir) := fun hne hr => ⟨hr, fun htx => absurd htx hne⟩
  split at h
  · rename_i hstate
    refine hother (by rw [hstate]; exact RuntimeState.noConfusion) fun hr => ?_
    split at h
    · obtain ⟨⟨n1, failed⟩, _, _, hmark, h, -⟩ := Prog.returns_bind h
      have hn1 : n1.OnAir → n.OnAir := fun htx => (returns_markFailed hmark).elim (fun he => he.symm.trans htx)
        fun he => absurd (he.symm.trans htx) RuntimeState.noConfusion
      dsimp only at h
      split at h <;> rw [(Prog.returns_pure.1 h).2] at hr <;> exact hn1 hr
    · rw [(Prog.returns_pure.1 h).2] at hr
      split at hr
      · exact hr
      · exact absurd hr RuntimeState.noConfusion
  · rename_i hstate
    refine hother (by rw [hstate]; exact RuntimeState.noConfusion) fun hr => ?_
    rw [(Prog.returns_pure.1 h).2] at hr
    split at hr
    · exact absurd hr RuntimeState.noConfusion
    · exact hr
  · rename_i hstate
    refine hother (by rw [hstate]; exact RuntimeState.noConfusion) fun hr => ?_
    split at h
    · exact returns_failedAttempt h hr
    · rw [(Prog.returns_pure.1 h).2] at hr
      exact hr
  · rename_i hstate
    refine hother (by rw [hstate]; exact RuntimeState.noConfusion) fun hr => ?_
    split at h
    · rw [(Prog.returns_pure.1 h).2] at hr
      cases synchronousWork <;> exact absurd hr RuntimeState.noConfusion
    · rw [(Prog.returns_pure.1 h).2] at hr
      exact hr
  · rw [(Prog.returns_pure.1 h).2]
    exact ⟨id, id⟩

theorem loadHead_onAir (h : n.loadHead.OnAir) : n.OnAir := by
  unfold Ram.loadHead at h
  split at h
  · exact h
  · exact absurd h RuntimeState.noConfusion

/-- **`service` puts nothing on the air**, and takes an active Event off by its expiry only. -/
theorem returns_service {synchronousWork : Bool} {jitter : UInt16} {r : Ram × ControllerResult}
    (h : Prog.Returns (fun _ _ => True) (n.service now synchronousWork jitter) ops r) :
    (r.1.OnAir → n.OnAir) ∧
      (n.OnAir → n.controller.active = true → r.1.OnAir ∨ r.1.controller.state = .expired) := by
  unfold Ram.service at h
  split at h
  · rw [(Prog.returns_pure.1 h).2]
    exact ⟨id, fun htx _ => Or.inl htx⟩
  revert h
  extract_lets n1 n2
  have h1 : (n1.OnAir → n.OnAir) ∧ (n.OnAir → n1 = n) := by
    by_cases hreleased : n.controller.state = .released
    · rw [show n1 = n.clearAttempt.deactivate.loadHead from if_pos hreleased]
      exact ⟨fun hn => loadHead_onAir (n := n.clearAttempt.deactivate) hn,
        fun htx => absurd (hreleased.symm.trans htx) RuntimeState.noConfusion⟩
    · rw [show n1 = n from if_neg hreleased]
      exact ⟨id, fun _ => rfl⟩
  have h2 : (n2.OnAir → n.OnAir) ∧ (n.OnAir → n.controller.active = true → n2 = n) := by
    by_cases hactive : (!n1.controller.active) = true
    · rw [show n2 = n1.loadHead from if_pos hactive]
      refine ⟨fun hn => h1.1 (loadHead_onAir hn), fun htx ha => ?_⟩
      rw [h1.2 htx, ha] at hactive
      cases hactive
    · rw [show n2 = n1 from if_neg hactive]
      exact ⟨h1.1, fun htx _ => h1.2 htx⟩
  clear_value n2
  intro h
  split at h
  · rw [(Prog.returns_pure.1 h).2]
    exact ⟨h2.1, fun htx ha => Or.inl (by rw [h2.2 htx ha]; exact htx)⟩
  obtain ⟨⟨n3, serviced⟩, _, _, hlife, h, -⟩ := Prog.returns_bind h
  obtain ⟨-, hstate⟩ := returns_serviceLifetime hlife
  have h3 : (n3.OnAir → n.OnAir) ∧ (n.OnAir → n.controller.active = true → n3.OnAir ∨ n3.controller.state = .expired) := by
    refine ⟨fun hn => hstate.elim (fun he => h2.1 (he.symm.trans hn)) fun he =>
      absurd (he.symm.trans hn) RuntimeState.noConfusion, fun htx ha => hstate.imp (fun he => ?_) id⟩
    dsimp only at he
    rw [h2.2 htx ha] at he
    exact he.trans htx
  dsimp only at h
  split at h
  · rw [(Prog.returns_pure.1 h).2]
    exact h3
  split at h
  · rw [(Prog.returns_pure.1 h).2]
    exact h3
  split at h
  · rw [(Prog.returns_pure.1 h).2]
    exact h3
  · rename_i hne _
    obtain ⟨hback, hforth⟩ := returns_advance h
    exact ⟨fun hr => h3.1 (hback hr), fun htx ha => Or.inl (hforth ((h3.2 htx ha).resolve_right hne))⟩

/-- The calls that report about a transmission, or about its answer. -/
theorem returns_duringState {state : RuntimeState} {next : Ram → StorageM (Ram × ControllerResult)}
    {r : Ram × ControllerResult} (h : Prog.Returns (fun _ _ => True) (n.duringState state now next) ops r)
    (hnext : ∀ n1 ops, n.controller.state = state → n1.controller.state = state →
      Prog.Returns (fun _ _ => True) (next n1) ops r → r.1.OnAir → n.OnAir) (hr : r.1.OnAir) : n.OnAir := by
  unfold Ram.duringState at h
  split at h
  · rw [(Prog.returns_pure.1 h).2] at hr
    exact hr
  rename_i hguard
  have hstate : n.controller.state = state := by
    by_contra hne
    simp [hne] at hguard
  obtain ⟨⟨n1, serviced⟩, _, _, hlife, h, -⟩ := Prog.returns_bind h
  obtain ⟨-, hn1⟩ := returns_serviceLifetime hlife
  have hback : n1.OnAir → n.OnAir := fun htx => hn1.elim (fun he => he.symm.trans htx) fun he =>
    absurd (he.symm.trans htx) RuntimeState.noConfusion
  dsimp only at h hn1
  split at h
  · rw [(Prog.returns_pure.1 h).2] at hr
    exact hback hr
  split at h
  · rw [(Prog.returns_pure.1 h).2] at hr
    exact hback hr
  · rename_i hne
    exact hnext n1 _ hstate ((hn1.resolve_right hne).trans hstate) h hr

theorem returns_duringTx {next : Ram → StorageM (Ram × ControllerResult)} {r : Ram × ControllerResult}
    (h : Prog.Returns (fun _ _ => True) (n.duringState .tx now next) ops r) (hr : r.1.OnAir) : n.OnAir :=
  returns_duringState h (fun _ _ htx _ _ _ => htx) hr

theorem returns_admissionCandidate {bytes : Bytes} {jitter : UInt16} {r : Ram × ControllerResult}
    (h : Prog.Returns (fun _ _ => True) (n.admissionCandidate bytes now jitter) ops r) (hr : r.1.OnAir) : n.OnAir := by
  refine returns_duringState h (fun n1 ops _ hwait h hr => absurd ?_ (show n1.controller.state ≠ .tx by
    rw [hwait]; exact RuntimeState.noConfusion)) hr
  have hmark : ∀ {n2 : Ram} {failed : Bool} {ops : List StorageOp},
      Prog.Returns (fun _ _ => True) n1.markFailed ops (n2, failed) → n2.OnAir → n1.OnAir := fun hm htx =>
    (returns_markFailed hm).elim (fun he => he.symm.trans htx) fun he =>
      absurd (he.symm.trans htx) RuntimeState.noConfusion
  split at h
  · rw [(Prog.returns_pure.1 h).2] at hr
    exact hr
  split at h
  · rw [(Prog.returns_pure.1 h).2] at hr
    exact hr
  unfold Ram.answered at h
  split at h
  · obtain ⟨⟨store, mutation⟩, _, _, -, h, -⟩ := Prog.returns_bind h
    dsimp only at h
    split at h <;> rw [(Prog.returns_pure.1 h).2] at hr
    · exact hr
    · exact absurd hr RuntimeState.noConfusion
  · exact returns_failedAttempt h hr
  all_goals
    obtain ⟨⟨n2, failed⟩, _, _, hm, h, -⟩ := Prog.returns_bind h
    dsimp only at h
    split at h <;> rw [(Prog.returns_pure.1 h).2] at hr <;> exact hmark hm hr

/-- **Only a granted transmission puts an Event on the air.** -/
theorem returns_grantTransmit {sequence : Option UInt8} {r : Ram × ControllerResult}
    (h : Prog.Returns (fun _ _ => True) (n.grantTransmit now sequence) ops r) (hr : r.1.OnAir) (hn : ¬ n.OnAir) :
    ∃ bytes, r.2.action = .transmit bytes := by
  unfold Ram.grantTransmit at h
  split at h
  · rw [(Prog.returns_pure.1 h).2] at hr
    exact absurd hr hn
  split at h
  · rw [(Prog.returns_pure.1 h).2] at hr
    exact absurd hr hn
  obtain ⟨⟨n1, serviced⟩, _, _, hlife, h, -⟩ := Prog.returns_bind h
  have hn1 : ¬ n1.OnAir := fun htx => (returns_serviceLifetime hlife).2.elim
    (fun he => absurd (he.symm.trans htx) RuntimeState.noConfusion) fun he =>
      absurd (he.symm.trans htx) RuntimeState.noConfusion
  dsimp only at h
  split at h
  · rw [(Prog.returns_pure.1 h).2] at hr
    exact absurd hr hn1
  split at h
  · rw [(Prog.returns_pure.1 h).2] at hr
    exact absurd hr hn1
  split at h
  · rw [(Prog.returns_pure.1 h).2] at hr
    exact absurd hr hn1
  obtain ⟨⟨store, policy, attempt⟩, _, _, -, h, -⟩ := Prog.returns_bind h
  cases attempt with
  | armed =>
    rw [(Prog.returns_pure.1 h).2] at hr ⊢
    unfold Ram.transmit at hr ⊢
    revert hr
    split
    · exact fun hr => absurd hr hn1
    · split
      · exact fun hr => absurd hr hn1
      · dsimp only
        split
        · exact fun hr => absurd hr hn1
        · exact fun _ => ⟨_, rfl⟩
  | expired =>
    rw [(Prog.returns_pure.1 h).2] at hr
    exact absurd hr RuntimeState.noConfusion
  | exhausted =>
    obtain ⟨⟨n2, failed⟩, _, _, hmark, h, -⟩ := Prog.returns_bind h
    have hn2 : ¬ n2.OnAir := fun htx => (returns_markFailed hmark).elim (fun he => hn1 (he.symm.trans htx))
      fun he => absurd (he.symm.trans htx) RuntimeState.noConfusion
    dsimp only at h
    split at h <;> rw [(Prog.returns_pure.1 h).2] at hr <;> exact absurd hr hn2
  | notQueued | invalidSlot | storageFailure | degraded =>
    rw [(Prog.returns_pure.1 h).2] at hr
    exact absurd hr hn1

theorem returns_create {input : EventInput} {clock : UInt32} {r : Ram × EnqueueResult}
    (h : Prog.Returns (fun _ _ => True) (n.create input clock) ops r) :
    r.1.controller.state = n.controller.state := by
  unfold Ram.create at h
  split at h
  · rw [(Prog.returns_pure.1 h).2]
  obtain ⟨⟨store, enqueued⟩, _, _, -, h, -⟩ := Prog.returns_bind h
  dsimp only at h
  split at h
  · rw [(Prog.returns_pure.1 h).2]
  · have htrack : ∀ m : Ram, ∀ slot, (m.trackEnqueued slot clock).1.controller.state = m.controller.state := by
      intro m slot
      unfold Ram.trackEnqueued
      split
      · rfl
      · dsimp only
        split <;> rfl
    split at h <;> rw [(Prog.returns_pure.1 h).2] <;> exact htrack _ _

theorem not_onAir_recover {device hub : UInt8} {r : Ram × ControllerResult}
    (h : Prog.Returns (fun _ _ => True) (n.recover device hub now) ops r) : ¬ r.1.OnAir := by
  unfold Ram.recover at h
  dsimp only at h
  split at h
  · rw [(Prog.returns_pure.1 h).2]
    exact RuntimeState.noConfusion
  obtain ⟨⟨store, policy, status⟩, _, _, -, h, -⟩ := Prog.returns_bind h
  dsimp only at h
  split at h
  · rw [(Prog.returns_pure.1 h).2]
    exact RuntimeState.noConfusion
  revert h
  generalize hhead : Ram.loadHead _ = n1
  intro h
  have hn1 : ¬ n1.OnAir := by
    rw [← hhead]
    exact fun htx => absurd (loadHead_onAir htx) RuntimeState.noConfusion
  split at h
  · obtain ⟨⟨n2, failed⟩, _, _, hmark, h, -⟩ := Prog.returns_bind h
    have hn2 : ¬ n2.OnAir := fun htx => (returns_markFailed hmark).elim (fun he => hn1 (he.symm.trans htx))
      fun he => absurd (he.symm.trans htx) RuntimeState.noConfusion
    dsimp only at h
    split at h <;> rw [(Prog.returns_pure.1 h).2] <;> exact hn2
  · rw [(Prog.returns_pure.1 h).2]
    exact hn1

/-- Nothing is on the air after a boot. -/
theorem not_onAir_boot {device hub : UInt8} {entropy : Option UInt32} {r : Ram × ControllerResult}
    (h : Prog.Returns (fun _ _ => True) (Ram.boot device hub entropy now) ops r) : ¬ r.1.OnAir := by
  unfold Ram.boot at h
  obtain ⟨⟨store, status⟩, _, _, -, h, -⟩ := Prog.returns_bind h
  dsimp only at h
  split at h
  · rw [(Prog.returns_pure.1 h).2]
    exact RuntimeState.noConfusion
  obtain ⟨⟨n1, reclaimed⟩, _, _, hreclaim, h, -⟩ := Prog.returns_bind h
  dsimp only at h
  split at h
  · rw [(Prog.returns_pure.1 h).2]
    exact fun htx => absurd ((returns_reclaimTerminals hreclaim).1.symm.trans htx) RuntimeState.noConfusion
  · exact not_onAir_recover h

end Calls

/-! ### On a sound store -/

section Sound

variable {device hub : UInt8} {n : Ram} {img : Image} {v : View} {now : UInt32}

/-- **A completed transmission is over.** -/
theorem Works.ensures_txCompleted (h : Works device hub n img v) (hu : n.usable = true) (htx : n.OnAir) :
    geometry.Ensures img (n.txCompleted now) (fun r _ => ¬ r.1.OnAir) fun _ => True := by
  unfold Ram.txCompleted Ram.duringState
  rw [if_neg (by simp [hu, show n.controller.state = .tx from htx])]
  refine ensures_bind (ensures_serviceLifetime now h.sound hu h.pending (fun _ _ _ _ => trivial) ?_)
  intro n1 img1 v1 hlived
  simp only [Bool.not_true, Bool.false_eq_true, if_false]
  split
  · rename_i hexpired
    exact ensures_pure.2 fun hr => absurd (hexpired.symm.trans hr) RuntimeState.noConfusion
  · exact ensures_pure.2 RuntimeState.noConfusion

/-- **A transmission that does not start is over.** -/
theorem Works.ensures_txStartFailed (h : Works device hub n img v) (hu : n.usable = true) (htx : n.OnAir)
    {jitter : UInt16} (hjitter : jitter ≤ maxBackoffJitterMilliseconds) :
    geometry.Ensures img (n.txStartFailed now jitter) (fun r _ => ¬ r.1.OnAir) fun _ => True := by
  unfold Ram.txStartFailed Ram.duringState
  rw [if_neg (by simp [hu, show n.controller.state = .tx from htx])]
  refine ensures_bind (ensures_serviceLifetime now h.sound hu h.pending (fun _ _ _ _ => trivial) ?_)
  intro n1 img1 v1 hlived
  simp only [Bool.not_true, Bool.false_eq_true, if_false]
  split
  · rename_i hexpired
    exact ensures_pure.2 fun hr => absurd (hexpired.symm.trans hr) RuntimeState.noConfusion
  rename_i hne
  have htx1 : n1.controller.state = .tx := (hlived.state.resolve_right hne).trans htx
  obtain ⟨slot, hc⟩ := hlived.aged.pending (usable_iff.1 hlived.usable).2.1 (Or.inl htx1)
  unfold Ram.failedAttempt
  extract_lets exhausted attemptsUsed
  split
  · -- the last attempt: the active slot is QUEUED and is failed
    unfold Ram.markFailed
    rw [hc.activeSlot, Prog.bind_assoc']
    refine ensures_mutated (ensures_markFailed hlived.aged.sound slot) hc.queued (fun _ _ => trivial)
      (fun _ _ => trivial) fun s' img' _ _ => ?_
    simp only [ne_eq, not_true_eq_false, if_false, Prog.pure_bind', Bool.not_true, Bool.false_eq_true]
    exact ensures_pure.2 RuntimeState.noConfusion
  · rw [if_neg (UInt16.not_lt.2 hjitter)]
    exact ensures_pure.2 RuntimeState.noConfusion

/-- A granted transmission leaves a controller in use. -/
theorem Works.usable_grantTransmit (h : Works device hub n img v) {sequence : Option UInt8} :
    geometry.Ensures img (n.grantTransmit now sequence)
      (fun r _ => ∀ bytes, r.2.action = .transmit bytes → r.1.usable = true ∧ r.1.OnAir) fun _ => True := by
  have hquiet : ∀ {m : Ram} {result : ControllerResult} {img' : Image}, result.Quiet →
      geometry.Ensures img' (pure (m, result)) (fun r _ => ∀ bytes, r.2.action = .transmit bytes →
        r.1.usable = true ∧ r.1.OnAir) fun _ => True :=
    fun hq => ensures_pure.2 fun bytes hb => absurd hb (hq bytes)
  unfold Ram.grantTransmit
  split
  · exact hquiet (quiet_result _)
  rename_i husable
  have hu : n.usable = true := by simpa using husable
  split
  · exact hquiet (quiet_result _)
  have h0 : Sound (n.setState .txPrepare).store img v := h.sound
  refine ensures_bind (ensures_serviceLifetime now h0 hu
    (.of_state RuntimeState.noConfusion RuntimeState.noConfusion) (fun _ _ _ _ => trivial) ?_)
  intro n1 img1 v1 hlived
  simp only [Bool.not_true, Bool.false_eq_true, if_false]
  split
  · exact hquiet quiet_receiveResult
  split
  · exact hquiet (quiet_degrade n1 _ _)
  obtain ⟨hinit, hdeg, -, hready⟩ := usable_iff.1 hlived.usable
  refine ensures_bind (ensures_policyArmAttempt hlived.aged.sound hready (fun _ _ _ _ => trivial) ?_)
  rintro s2 img2 p2 v2 attempt ⟨p', v', hround, hruntime, hcase⟩ hsound2 -
  rcases hcase with ⟨rfl, hna⟩ | ⟨-, -, -, -, -, -, rfl, hready2⟩
  · cases attempt with
    | armed => exact absurd rfl hna
    | expired => exact hquiet quiet_receiveResult
    | exhausted =>
      have hcurrent2 : (⟨s2, { n1.controller with policy := p2 }⟩ : Ram).Current now v2 := fun i hq => by
        rw [show p2.runtime = p'.runtime from hruntime]
        exact hround.current hq
      refine ensures_bind (ensures_failActive hsound2 hcurrent2 (fun _ _ _ _ => trivial) ?_ ?_)
      · simp only [Bool.false_eq_true, if_false]
        exact hquiet (quiet_degrade n _ _)
      · intro n3 img3 v3 _
        simp only [if_true]
        exact hquiet quiet_receiveResult
    | notQueued | invalidSlot | storageFailure | degraded => exact hquiet (quiet_degrade n _ _)
  · -- the attempt is armed
    have hu2 : (⟨s2, { n1.controller with policy := p2 }⟩ : Ram).usable = true :=
      usable_iff.2 ⟨hinit, hdeg, hsound2.healthy, hready2⟩
    refine ensures_pure.2 ?_
    unfold Ram.transmit
    split
    · exact fun bytes hb => absurd hb (quiet_degrade n _ _ bytes)
    split
    · exact fun bytes hb => absurd hb (quiet_degrade n _ _ bytes)
    dsimp only
    split
    · exact fun bytes hb => absurd hb (quiet_degrade n _ _ bytes)
    · exact fun bytes _ => ⟨hu2, rfl⟩

end Sound

/-! ### The subsystem in the loop -/

/-- The Event subsystem is one that boots and calls can leave. -/
def Reached (c : DeviceConfig) (m : Machine) : Prop :=
  Asleep c.localId c.peerId m ∨ ∃ v, Alive c.localId c.peerId m v

theorem Reached.call {c : DeviceConfig} {m : Machine} (h : Reached c m) (call : Call) (now : UInt32) :
    Reached c (m.step c.localId c.peerId (.call call now none)).1 := by
  rcases h with h | ⟨v, h⟩
  · exact (h.step _).1.imp id fun ⟨v, hv, _⟩ => ⟨v, hv⟩
  · obtain ⟨v', hv, -⟩ := h.step (.call call now none)
    exact Or.inr ⟨v', hv⟩

/-- A subsystem in use works. -/
theorem Reached.works {c : DeviceConfig} {m : Machine} (h : Reached c m) (hu : m.ram.usable = true) :
    ∃ v, Works c.localId c.peerId m.ram m.image v := by
  have hh := (usable_iff.1 hu).2.2.1
  rcases h with h | ⟨v, h⟩
  · rw [h.unhealthy] at hh
    cases hh
  · exact ⟨v, h.sound hh, h.source hh, h.pending, h.configured⟩

namespace NodeLoop

variable {s s' s'' : NodeLoop} {c : DeviceConfig} {α : Type} {p : StorageM (Ram × α)}

theorem returns_onFlash (s : NodeLoop) (p : StorageM (Ram × α)) :
    ∃ ops, Prog.Returns (fun _ _ => True) p ops ((s.onFlash p).1.machine.ram, (s.onFlash p).2) :=
  Prog.returns_run geometry.flash p (Disk.clean s.machine.image)

theorem ensures_onFlash {Q : Ram × α → Image → Prop} {P : Image → Prop} (h : geometry.Ensures s.machine.image p Q P) :
    Q ((s.onFlash p).1.machine.ram, (s.onFlash p).2) (s.onFlash p).1.machine.image := by
  obtain ⟨img', hd, hQ⟩ := ensures_run h
  have himg : (s.onFlash p).1.machine.image = img' := by
    change (p.run geometry.flash (Disk.clean s.machine.image)).2.data = img'
    rw [hd]
    rfl
  rw [himg]
  exact hQ

/-- A call of the loop is a call of the machine. -/
theorem kept_onFlash {call : Call} {now : UInt32} {action : α → RadioAction} (h : Reached c s.machine)
    (hcall : call.run c.localId c.peerId now s.machine.ram = p >>= fun r => pure (r.1, action r.2)) :
    Reached c (s.onFlash p).1.machine := by
  have hstep := h.call call now
  have heq : (s.machine.step c.localId c.peerId (.call call now none)).1 = (s.onFlash p).1.machine := by
    simp only [Machine.step, exec, hcall, Prog.run_bind]
    rfl
  rwa [heq] at hstep

/-- The subsystem is kept, and no Event gets on the air. -/
structure Grounded (c : DeviceConfig) (s s' : NodeLoop) : Prop where
  kept : Reached c s.machine → Reached c s'.machine
  onAir : s'.machine.ram.OnAir → s.machine.ram.OnAir

theorem Grounded.of_machine (h : s'.machine = s.machine) : Grounded c s s' := by
  refine ⟨fun hk => ?_, fun hr => ?_⟩
  · rw [h]
    exact hk
  · rw [← h]
    exact hr

theorem Aside.grounded (h : Aside s s') : Grounded c s s' := .of_machine h.machine

theorem Grounded.trans (h : Grounded c s s') (h' : Grounded c s' s'') : Grounded c s s'' :=
  ⟨fun hk => h'.kept (h.kept hk), fun hr => h.onAir (h'.onAir hr)⟩

theorem Grounded.onFlash (call : Call) (now : UInt32) (action : α → RadioAction)
    (hcall : call.run c.localId c.peerId now s.machine.ram = p >>= fun r => pure (r.1, action r.2))
    (hair : ∀ ops r, Prog.Returns (fun _ _ => True) p ops r → r.1.OnAir → s.machine.ram.OnAir) :
    Grounded c s (s.onFlash p).1 := by
  refine ⟨fun hk => kept_onFlash hk hcall, fun hr => ?_⟩
  obtain ⟨ops, h⟩ := returns_onFlash s p
  exact hair ops _ h hr

theorem grounded_service (s : NodeLoop) (now : UInt32) (synchronousWork : Bool) (jitter : UInt16) :
    Grounded c s (s.onFlash (s.machine.ram.service now synchronousWork jitter)).1 :=
  .onFlash (.service synchronousWork jitter) now ControllerResult.action rfl fun _ _ h => (returns_service h).1

theorem grounded_create (s : NodeLoop) (input : EventInput) (clock : UInt32) :
    Grounded c s (s.onFlash (s.machine.ram.create input clock)).1 :=
  .onFlash (.create input) clock (fun _ => .none) rfl fun _ _ h hr => (returns_create h).symm.trans hr

theorem grounded_txCompleted (s : NodeLoop) (now : UInt32) :
    Grounded c s (s.onFlash (s.machine.ram.txCompleted now)).1 :=
  .onFlash .txCompleted now ControllerResult.action rfl fun _ _ h => returns_duringTx h

theorem grounded_txStarted (s : NodeLoop) (now : UInt32) :
    Grounded c s (s.onFlash (s.machine.ram.txStarted now)).1 :=
  .onFlash .txStarted now ControllerResult.action rfl fun _ _ h => returns_duringTx h

theorem grounded_txStartFailed (s : NodeLoop) (now : UInt32) (jitter : UInt16) :
    Grounded c s (s.onFlash (s.machine.ram.txStartFailed now jitter)).1 :=
  .onFlash (.txStartFailed jitter) now ControllerResult.action rfl fun _ _ h => returns_duringTx h

theorem grounded_admissionCandidate (s : NodeLoop) (bytes : Bytes) (now : UInt32) (jitter : UInt16) :
    Grounded c s (s.onFlash (s.machine.ram.admissionCandidate bytes now jitter)).1 :=
  .onFlash (.admissionCandidate bytes jitter) now ControllerResult.action rfl fun _ _ h => returns_admissionCandidate h

theorem grounded_reclaimTerminals (s : NodeLoop) (withController : Bool) :
    Grounded c s (s.onFlash (s.machine.ram.reclaimTerminals withController)).1 :=
  .onFlash (.reclaimTerminals withController) 0 (fun _ => .none) rfl fun _ _ h hr =>
    (returns_reclaimTerminals h).1.symm.trans hr

/-! ### Services that put nothing on the air -/

theorem grounded_listenAgain (h : Grounded c s s') : s'.listenAgain.Ends fun _ s'' => Grounded c s s'' :=
  ends_listenAgain fun _ => h.trans (.of_machine rfl)

theorem machine_finishAcknowledgment (s : NodeLoop) :
    s.finishAcknowledgment.Ends fun _ s' => s'.machine = s.machine := by
  refine ends_ask .standby fun standby => ?_
  split
  · have hresponse : s.responseAfterAck.Ends fun _ r => r.1.machine = s.machine := by
      unfold responseAfterAck
      split
      · rfl
      refine ends_ask .context fun context => Prog.ends_bind.2 (Prog.ends_embed fun log ops result _ _ => ?_)
      dsimp only
      split <;> rfl
    refine hresponse.bind fun log ⟨s1, response⟩ h1 => ?_
    cases response with
    | none => exact h1
    | some response => exact (aside_startStructuredResponse .refl response).mono fun _ s' h => h.machine.trans h1
  · refine (aside_servicePersistenceAfterAcknowledgment standby).bind fun _ s1 h1 => ?_
    exact (aside_listenAgain h1).mono fun _ s' h => h.machine

theorem machine_handleStructuredCommand (s : NodeLoop) (command : Packet) :
    (s.handleStructuredCommand c command).Ends fun _ s' => s'.machine = s.machine := by
  unfold handleStructuredCommand
  have hack : ∀ {s1 : NodeLoop} (status : UInt8), s1.machine = s.machine →
      (s1.startAcknowledgment command status).Ends fun _ s' => s'.machine = s.machine := fun status h1 =>
    (aside_startAcknowledgment .refl command status).mono fun _ _ h => h.machine.trans h1
  have hresume : ∀ {s1 : NodeLoop}, s1.machine = s.machine →
      s1.resumeListening.Ends fun _ s' => s'.machine = s.machine := fun h1 =>
    (aside_resumeListening .refl).mono fun _ _ h => h.machine.trans h1
  dsimp only
  split
  · exact hack _ rfl
  · exact hack _ rfl
  · exact hack _ rfl
  · exact hack _ rfl
  all_goals exact hresume rfl

theorem grounded_handleReceivedPacket (s : NodeLoop) :
    (s.handleReceivedPacket c).Ends fun _ s' => Grounded c s s' := by
  have hresume : ∀ {s1 : NodeLoop}, Grounded c s s1 → s1.resumeListening.Ends fun _ s' => Grounded c s s' := fun h1 =>
    (aside_resumeListening .refl).mono fun _ _ h => h1.trans h.grounded
  have hs : Grounded c s s := .of_machine rfl
  refine ends_ask .getPacketLength fun packetLength => ?_
  split
  · exact hresume hs
  refine ends_ask (.readData packetLength) fun data => ?_
  split
  · exact hresume hs
  have hoffer : ∀ bytes now, (s.offerAdmission bytes now).Ends fun _ s' => Grounded c s s' := by
    intro bytes now
    unfold offerAdmission
    split
    · exact hs
    · exact ends_ask .random fun _ => grounded_admissionCandidate s bytes now _
  refine ends_ask .millis fun now => (hoffer _ now).bind fun _ s1 h1 => ?_
  split
  · exact hresume h1
  · split
    · exact (machine_handleStructuredCommand s1 _).mono fun _ _ h => h1.trans (.of_machine h)
    · exact (aside_handleTestCommand .refl _).mono fun _ _ h => h1.trans h.grounded

theorem grounded_dispatch (s : NodeLoop) : (s.dispatch c).Ends fun _ s' => Grounded c s s' := by
  unfold dispatch
  split
  · exact .of_machine rfl
  refine (aside_readOperationDone .refl).bind fun _ ⟨s1, done⟩ h1 => ?_
  have hs1 : Grounded c s s1 := h1.grounded
  dsimp only
  split
  · exact hs1
  have hs2 : Grounded c s { s1 with operationDone := false } := hs1.trans (.of_machine rfl)
  split
  · exact ends_ask .millis fun now => grounded_listenAgain (hs2.trans (grounded_txCompleted _ now))
  split
  · exact (machine_finishAcknowledgment _).mono fun _ _ h => hs2.trans (.of_machine h)
  split
  · exact grounded_listenAgain hs2
  · exact (grounded_handleReceivedPacket _).mono fun _ _ h => hs2.trans h

theorem machine_serviceCommandPreAck (s : NodeLoop) :
    s.serviceCommandPreAck.Ends fun _ s' => s'.machine = s.machine := by
  unfold serviceCommandPreAck
  dsimp only
  split
  · rfl
  refine ends_ask (.startTransmit s.transmitBuffer) fun started => ?_
  split
  · rfl
  · exact ends_listenAgain fun _ => rfl

/-! ### Services that leave the transmission alone -/

end NodeLoop

/-- A call that stops a transmission or starts another one. -/
def LoopOp.takesRadio : LoopOp → Bool
  | .standby | .startReceive | .startTransmit _ => true
  | _ => false

/-- A call that has nothing to do with the radio. -/
def LoopOp.isAside : LoopOp → Bool
  | .interrupted => false
  | op => !op.takesRadio

theorem LoopOp.takesRadio_of_isAside {op : LoopOp} (h : op.isAside = true) : op.takesRadio = false := by
  cases op <;> first | rfl | cases h

/-- None of the calls takes the radio. -/
def LeavesRadio (log : Log LoopOp.Reply) : Prop := ∀ entry ∈ log, entry.op.takesRadio = false

theorem leavesRadio_nil : LeavesRadio [] := fun _ hentry => absurd hentry List.not_mem_nil

theorem LeavesRadio.append {log log' : Log LoopOp.Reply} (h : LeavesRadio log) (h' : LeavesRadio log') :
    LeavesRadio (log ++ log') := by
  intro entry hentry
  rcases List.mem_append.1 hentry with he | he
  · exact h entry he
  · exact h' entry he

/-- What the first call reports of the interrupt. -/
def reported : Log LoopOp.Reply → Bool
  | ⟨.interrupted, r⟩ :: _ => r
  | _ => false

/-- The Host has bytes to be read. -/
def hostWaits : Answer LoopOp.Reply → Bool
  | ⟨.available, n⟩ =>
    let waiting : ℤ := n
    0 < waiting
  | _ => false

theorem not_hostWaits {n : ℤ} (h : ¬ hostWaits ⟨.available, n⟩ = true) : n ≤ 0 := by
  simpa [hostWaits] using h

namespace NodeLoop

variable {s s' s'' : NodeLoop} {c : DeviceConfig} {log log' : Log LoopOp.Reply}

/-- The radio and the transmission on it are left alone. -/
structure Unmoved (c : DeviceConfig) (s : NodeLoop) (log : Log LoopOp.Reply) (s' : NodeLoop) : Prop where
  kept : Reached c s.machine → Reached c s'.machine
  state : s'.machine.ram.controller.state = s.machine.ram.controller.state
  owner : s'.owner = s.owner
  timer : s'.commandPreAck = s.commandPreAck
  flag : s.operationDone = true ∨ ⟨.interrupted, true⟩ ∈ log → s'.operationDone = true
  silent : LeavesRadio log

/-- Nothing is asked of what is outside. -/
theorem Unmoved.of_state (hkept : Reached c s.machine → Reached c s'.machine)
    (hstate : s'.machine.ram.controller.state = s.machine.ram.controller.state) (howner : s'.owner = s.owner)
    (htimer : s'.commandPreAck = s.commandPreAck) (hflag : s'.operationDone = s.operationDone) : Unmoved c s [] s' :=
  ⟨hkept, hstate, howner, htimer, fun h => hflag.trans (h.resolve_right List.not_mem_nil), leavesRadio_nil⟩

theorem Unmoved.refl : Unmoved c s [] s := .of_state id rfl rfl rfl rfl

theorem Unmoved.trans (h : Unmoved c s log s') (h' : Unmoved c s' log' s'') : Unmoved c s (log ++ log') s'' where
  kept := fun hk => h'.kept (h.kept hk)
  state := h'.state.trans h.state
  owner := h'.owner.trans h.owner
  timer := h'.timer.trans h.timer
  flag := by
    rw [List.mem_append, ← or_assoc]
    exact fun hf => h'.flag (hf.imp h.flag id)
  silent := h.silent.append h'.silent

/-- A call that leaves the radio alone, before calls that do. -/
theorem Unmoved.ask (h : Unmoved c s log s') (op : LoopOp) (r : op.Reply) (hop : op.isAside = true) :
    Unmoved c s (⟨op, r⟩ :: log) s' := by
  refine ⟨h.kept, h.state, h.owner, h.timer, fun hf => h.flag (hf.imp id fun hmem => ?_), fun entry hentry => ?_⟩
  · refine (List.mem_cons.1 hmem).resolve_left fun heq => ?_
    have hsame : LoopOp.interrupted = op := congrArg Answer.op heq
    rw [← hsame] at hop
    cases hop
  · rcases List.mem_cons.1 hentry with rfl | hentry
    · exact LoopOp.takesRadio_of_isAside hop
    · exact h.silent entry hentry

theorem Unmoved.of_machine (hmachine : s'.machine = s.machine) (howner : s'.owner = s.owner)
    (htimer : s'.commandPreAck = s.commandPreAck) (hflag : s'.operationDone = s.operationDone) :
    Unmoved c s [] s' := by
  refine .of_state (fun hk => ?_) ?_ howner htimer hflag
  · rw [hmachine]
    exact hk
  · rw [hmachine]

section Read

variable {done : Bool} (hset : s.operationDone = true → log = [] ∧ done = true)
  (hasked : s.operationDone = false → log = [⟨.interrupted, done⟩])

include hset hasked

theorem flag_of_read (log' : Log LoopOp.Reply) : (s.operationDone || reported (log ++ log')) = done := by
  cases hs : s.operationDone with
  | true => exact (hset hs).2.symm
  | false =>
    rw [hasked hs]
    exact Bool.false_or done

theorem unmoved_of_read : Unmoved c s log { s with operationDone := done } := by
  cases hs : s.operationDone with
  | true =>
    obtain ⟨rfl, rfl⟩ := hset hs
    exact .of_machine rfl rfl rfl hs.symm
  | false =>
    rw [hasked hs]
    refine ⟨id, rfl, rfl, rfl, fun h => ?_, fun entry hentry => ?_⟩
    · rw [hs] at h
      have hmem := List.mem_singleton.1 (h.resolve_left Bool.noConfusion)
      exact (Answer.reply_inj.1 hmem).symm
    · rw [List.mem_singleton.1 hentry]
      rfl

end Read

theorem unmoved_readOperationDone (s : NodeLoop) : s.readOperationDone.Ends fun log r => Unmoved c s log r.1 :=
  ends_readOperationDone fun _ _ hset hasked => unmoved_of_read hset hasked

theorem unmoved_produce (s : NodeLoop) : s.produce.Ends fun log r => Unmoved c s log r.1 := by
  refine ends_ask .produced fun produced => ?_
  split
  · exact Unmoved.refl.ask _ _ rfl
  · rename_i input
    refine ends_ask .millis fun clock => ?_
    have hcreate : Unmoved c s [] (s.onFlash (s.machine.ram.create input clock)).1 := by
      obtain ⟨ops, h⟩ := returns_onFlash s (s.machine.ram.create input clock)
      exact .of_state (grounded_create s input clock).kept (returns_create h) rfl rfl rfl
    exact (hcreate.ask .millis clock rfl).ask .produced (some input) rfl

/-- **The head of an iteration leaves the transmission alone.** -/
theorem unmoved_serviceProducers (s : NodeLoop) : s.serviceProducers.Ends fun log s' => Unmoved c s log s' := by
  refine ends_ask .millis fun now => ?_
  have hfail : ∀ (s1 : NodeLoop) (failed : Bool),
      Unmoved c s1 [] (if failed then { s1 with eventSubsystemReady := false } else s1) := by
    intro s1 failed
    split
    · exact .of_machine rfl rfl rfl rfl
    · exact .refl
  have hbutton : (serviceButtonEvents { s with nowMs := now }).Ends fun log s' => Unmoved c s log s' := by
    have hnow : Unmoved c s [] { s with nowMs := now } := .of_machine rfl rfl rfl rfl
    unfold serviceButtonEvents
    split
    · exact hnow
    refine (unmoved_produce (c := c) _).bind fun _ ⟨s1, first⟩ h1 => ?_
    refine (unmoved_produce (c := c) s1).bind fun _ ⟨s2, second⟩ h2 => ?_
    exact hnow.trans (h1.trans (h2.trans (hfail s2 _)))
  have heditor : ∀ s1 : NodeLoop, s1.queueEditorAction.Ends fun log s' => Unmoved c s1 log s' := by
    intro s1
    refine ends_ask .editorAction fun action => ?_
    have hqueued : ∀ request, Unmoved c s1 [] { s1 with persistenceRequest := request,
                                                        quietMaintenanceAttemptArmed := true } :=
      fun _ => .of_machine rfl rfl rfl rfl
    cases action with
    | none => exact Unmoved.refl.ask _ _ rfl
    | saveSettingsRequest => exact (hqueued _).ask .editorAction .saveSettingsRequest rfl
    | factoryResetRequest => exact (hqueued _).ask .editorAction .factoryResetRequest rfl
  refine hbutton.bind fun _ s1 h1 => (heditor s1).bind fun _ s2 h2 => ?_
  have h12 := h1.trans h2
  unfold serviceSensorThresholdProducer
  split
  · rw [Prog.ends_pure, List.append_nil]
    exact h12.ask _ _ rfl
  refine (unmoved_produce (c := c) s2).bind fun _ ⟨s3, failed⟩ h3 => ?_
  have h := (h12.trans (h3.trans (hfail s3 failed))).ask .millis now rfl
  rw [Prog.ends_pure]
  simpa only [List.append_assoc, List.cons_append] using h

/-- **The Host's service leaves the transmission alone when it has no bytes to read.** -/
theorem unmoved_serviceProductionHost (s : NodeLoop) :
    s.serviceProductionHost.Ends fun log s' => log.any hostWaits = false → Unmoved c s log s' := by
  unfold serviceProductionHost
  split
  · exact fun _ => .refl
  refine (unmoved_readOperationDone (c := c) s).bind fun log ⟨s1, done⟩ h1 => ?_
  dsimp only
  split
  · rw [Prog.ends_pure, List.append_nil]
    exact fun _ => h1
  refine ends_ask .available fun available => ?_
  split
  · exact fun _ => h1.trans (Unmoved.refl.ask _ _ rfl)
  · rename_i hsome
    refine (Prog.ends_logs _).mono fun log' s' _ hnone => absurd ?_ hsome
    exact not_hostWaits (List.any_eq_false.1 hnone _ (List.mem_append_right log List.mem_cons_self))

/-- **Maintenance leaves the transmission alone when it is not allowed.** -/
theorem unmoved_serviceQuietMaintenance (s : NodeLoop) :
    s.serviceQuietMaintenance.Ends fun log s' =>
      quietMaintenanceAllowed s.persistenceRequest s.quietMaintenanceAttemptArmed s.phase
        (s.operationDone || reported log) false false s.renderingPresentation = false → Unmoved c s log s' := by
  unfold serviceQuietMaintenance
  refine Prog.ends_bind.2 (ends_readOperationDone fun log done hset hasked => ?_)
  have hflag := flag_of_read hset hasked
  dsimp only
  split
  · rw [Prog.ends_pure, List.append_nil]
    exact fun _ => unmoved_of_read hset hasked
  · rename_i hallowed
    refine (Prog.ends_logs _).mono fun log' s' _ hnot => absurd ?_ hallowed
    rw [hflag] at hnot
    rw [hnot]
    rfl

/-! ### The transmission -/

/-- An Event on the air has the radio, and no acknowledgment waits to be transmitted. -/
structure Held (c : DeviceConfig) (s : NodeLoop) : Prop where
  kept : Reached c s.machine
  owner : s.machine.ram.OnAir → s.owner = .eventTx
  timer : s.machine.ram.OnAir → s.commandPreAck.active = false

theorem Held.of_not_onAir (hk : Reached c s.machine) (h : ¬ s.machine.ram.OnAir) : Held c s :=
  ⟨hk, fun htx => absurd htx h, fun htx => absurd htx h⟩

theorem Unmoved.held (h : Unmoved c s log s') (hs : Held c s) : Held c s' := by
  have hback : s'.machine.ram.OnAir → s.machine.ram.OnAir := fun htx => h.state.symm.trans htx
  refine ⟨h.kept hs.kept, fun htx => ?_, fun htx => ?_⟩
  · rw [h.owner]
    exact hs.owner (hback htx)
  · rw [h.timer]
    exact hs.timer (hback htx)

theorem Grounded.held (h : Grounded c s s') (hk : Reached c s.machine) (hn : ¬ s.machine.ram.OnAir) : Held c s' :=
  .of_not_onAir (h.kept hk) fun htx => hn (h.onAir htx)

theorem unmoved_serviceCommandPreAck (h : s.commandPreAck.active = false) :
    s.serviceCommandPreAck.Ends fun log s' => Unmoved c s log s' := by
  unfold serviceCommandPreAck CommandPreAckTimer.due
  simp only [h, Bool.not_false, Bool.true_or, if_true]
  exact .refl

/-- **The interrupt ends the transmission** of a controller in use. -/
theorem ends_dispatch_onAir (hs : Held c s) (htx : s.machine.ram.OnAir) :
    (s.dispatch c).Ends fun log s' => Unmoved c s log s' ∨
      (s.operationDone || reported log) = true ∧ (s.machine.ram.usable = true → ¬ s'.machine.ram.OnAir) := by
  unfold dispatch
  split
  · exact Or.inl .refl
  refine Prog.ends_bind.2 (ends_readOperationDone fun log done hset hasked => ?_)
  have hflag := flag_of_read hset hasked
  dsimp only
  split
  · rw [Prog.ends_pure, List.append_nil]
    exact Or.inl (unmoved_of_read hset hasked)
  rename_i hdone
  rw [if_pos (hs.owner htx)]
  refine ends_ask .millis fun now => ends_listenAgain fun started => Or.inr ⟨?_, fun hu => ?_⟩
  · rw [hflag]
    simpa using hdone
  · obtain ⟨v, hworks⟩ := hs.kept.works hu
    exact ensures_onFlash (s := { s with operationDone := false }) (hworks.ensures_txCompleted hu htx)

theorem ends_drawJitter {Q : Log LoopOp.Reply → UInt16 → Prop}
    (h : ∀ drawn jitter, jitter ≤ maxBackoffJitterMilliseconds → Q [⟨.random, drawn⟩] jitter) : drawJitter.Ends Q := by
  intro drawn
  refine h drawn _ (UInt16.le_iff_toNat_le.2 ?_)
  have hmod : drawn.toNat % 251 < 251 := Nat.mod_lt _ (by decide)
  rw [UInt32.toNat_toUInt16]
  change drawn.toNat % 251 % 2 ^ 16 ≤ 250
  omega

/-- The service of an Event on the air. -/
theorem service_onAir (hk : Reached c s.machine) (htx : s.machine.ram.OnAir) (now : UInt32) (synchronousWork : Bool)
    (jitter : UInt16) :
    (s.onFlash (s.machine.ram.service now synchronousWork jitter)).1.machine.ram.OnAir ∨
      (s.onFlash (s.machine.ram.service now synchronousWork jitter)).1.deliveryState = .expired := by
  obtain ⟨ops, h⟩ := returns_onFlash s (s.machine.ram.service now synchronousWork jitter)
  by_cases hu : s.machine.ram.usable = true
  · obtain ⟨v, hworks⟩ := hk.works hu
    obtain ⟨slot, hcarries⟩ := hworks.pending (usable_iff.1 hu).2.1 (Or.inl htx)
    exact (returns_service h).2 htx hcarries.active
  · have hidle : s.machine.ram.service now synchronousWork jitter = pure (s.machine.ram, result .degraded) :=
      if_pos (by simpa using hu)
    rw [hidle]
    exact Or.inl htx

/-- The radio is not asked for while somebody has it. -/
theorem unmoved_acquireEvent (howner : s.owner ≠ .listening) (synchronousWork : Bool) (now : UInt32) :
    (s.acquireEvent synchronousWork now).Ends fun log s' => s'.machine = s.machine ∧ Unmoved c s log s' := by
  unfold acquireEvent
  refine Prog.ends_bind.2 (ends_readOperationDone fun log done hset hasked => ?_)
  have hdenied : ∀ point state, s.owner.requestEvent point state = (s.owner, .denied) := by
    intro point state
    unfold NodeOwner.requestEvent
    simp [howner]
  simp only [hdenied, ne_eq, reduceCtorEq, not_false_eq_true, if_true, Prog.ends_pure, List.append_nil]
  exact ⟨trivial, unmoved_of_read hset hasked⟩

/-- **The Event subsystem ends its transmission by expiry only**, and leaves the radio to it otherwise. -/
theorem ends_serviceNodeEvents_onAir (hs : Held c s) (htx : s.machine.ram.OnAir) :
    s.serviceNodeEvents.Ends fun log s' =>
      Reached c s'.machine ∧ (Unmoved c s log s' ∨ s'.deliveryState = .expired) := by
  have howner := hs.owner htx
  unfold serviceNodeEvents
  split
  · exact ⟨hs.kept, Or.inl .refl⟩
  have hsync : s.synchronousWork = pure (s, true) := by
    unfold synchronousWork
    rw [if_pos (by simp [howner])]
  rw [hsync, Prog.pure_bind']
  refine ends_ask .millis fun now => Prog.ends_bind.2 (ends_drawJitter fun drawn jitter _ => ?_)
  have hkept := (grounded_service (c := c) s now true jitter).kept hs.kept
  have hstate := service_onAir hs.kept htx now true jitter
  have hframe : (s.onFlash (s.machine.ram.service now true jitter)).1.owner = s.owner ∧
      (s.onFlash (s.machine.ram.service now true jitter)).1.commandPreAck = s.commandPreAck ∧
      (s.onFlash (s.machine.ram.service now true jitter)).1.operationDone = s.operationDone := ⟨rfl, rfl, rfl⟩
  revert hkept hstate hframe
  generalize s.onFlash (s.machine.ram.service now true jitter) = r
  obtain ⟨s1, serviced⟩ := r
  rintro hkept hstate ⟨ho, ht, hf⟩
  dsimp only at hkept hstate ho ht hf ⊢
  have hacquire : (s1.acquireEvent true now).Ends fun log s' => Reached c s'.machine ∧
      (Unmoved c s (⟨.millis, now⟩ :: ⟨.random, drawn⟩ :: log) s' ∨ s'.deliveryState = .expired) := by
    have hother : s1.owner ≠ .listening := by
      rw [ho, howner]
      exact NodeOwner.noConfusion
    refine (unmoved_acquireEvent (c := c) hother true now).mono fun log s' h => ?_
    refine ⟨h.2.kept hkept, hstate.imp (fun htx1 => ?_) fun he => ?_⟩
    · have hserviced : Unmoved c s [] s1 := .of_state (fun _ => hkept) (htx1.trans htx.symm) ho ht hf
      exact ((hserviced.trans h.2).ask .random drawn rfl).ask .millis now rfl
    · rw [deliveryState, h.1]
      exact he
  split
  · -- the store has failed the service
    refine ⟨hkept, hstate.imp (fun htx1 => ?_) id⟩
    have hserviced : Unmoved c s [] { s1 with eventSubsystemReady := false } :=
      .of_state (fun _ => hkept) (htx1.trans htx.symm) ho ht hf
    exact (hserviced.ask .random drawn rfl).ask .millis now rfl
  split
  · split
    · rename_i hover
      refine ends_listenAgain fun started => ⟨hkept, Or.inr (hstate.resolve_left fun htx1 => ?_)⟩
      exact hover.2.elim (fun he => absurd (htx1.symm.trans he) RuntimeState.noConfusion)
        fun he => absurd (htx1.symm.trans he) RuntimeState.noConfusion
    · rw [if_neg fun hfree => Bool.noConfusion hfree.1]
      exact hacquire
  · exact hacquire

/-! ### The start of a transmission -/

theorem grant_onAir (hk : Reached c s.machine) (now : UInt32) (sequence : Option UInt8) {bytes : Bytes}
    (h : (s.onFlash (s.machine.ram.grantTransmit now sequence)).2.action = .transmit bytes) :
    (s.onFlash (s.machine.ram.grantTransmit now sequence)).1.machine.ram.usable = true ∧
      (s.onFlash (s.machine.ram.grantTransmit now sequence)).1.machine.ram.OnAir := by
  by_cases hu : s.machine.ram.usable = true
  · obtain ⟨v, hworks⟩ := hk.works hu
    exact ensures_onFlash hworks.usable_grantTransmit bytes h
  · have hidle : s.machine.ram.grantTransmit now sequence = pure (s.machine.ram, result .degraded) :=
      if_pos (by simpa using hu)
    rw [hidle] at h
    exact absurd h (quiet_result _ bytes)

theorem kept_grantTransmit (hk : Reached c s.machine) (now : UInt32) (sequence : Option UInt8) :
    Reached c (s.onFlash (s.machine.ram.grantTransmit now sequence)).1.machine := by
  have hcall : (Call.grantTransmit sequence).run c.localId c.peerId now s.machine.ram =
      s.machine.ram.grantTransmit now sequence >>= fun r => pure (r.1, r.2.action) := rfl
  exact kept_onFlash hk hcall

/-- **An Event goes on the air with the radio in its hands**, or it does not go on the air. -/
theorem held_transmitEvent (hk : Reached c s.machine) (hn : ¬ s.machine.ram.OnAir) (howner : s.owner = .eventTx)
    (htimer : s.commandPreAck.active = false) (now : UInt32) : (s.transmitEvent now).Ends fun _ s' => Held c s' := by
  unfold transmitEvent
  dsimp only
  generalize hp : s.machine.ram.grantTransmit now (some (nextSequence s.eventSequence)) = p
  have hkept : Reached c (s.onFlash p).1.machine := hp ▸ kept_grantTransmit hk now _
  have hgrant : ∀ bytes, (s.onFlash p).2.action = .transmit bytes →
      (s.onFlash p).1.machine.ram.usable = true ∧ (s.onFlash p).1.machine.ram.OnAir :=
    fun bytes => hp ▸ grant_onAir hk now _
  have hquiet : (∀ bytes, (s.onFlash p).2.action ≠ .transmit bytes) → ¬ (s.onFlash p).1.machine.ram.OnAir := by
    intro hq htx
    obtain ⟨ops, hreturns⟩ := returns_onFlash s p
    rw [← hp] at hreturns hq htx
    obtain ⟨bytes, hb⟩ := returns_grantTransmit hreturns htx hn
    exact hq bytes hb
  split
  · rename_i bytes haction
    obtain ⟨hu, htx⟩ := hgrant bytes haction
    refine ends_ask (.startTransmit bytes) fun started => ?_
    split
    · -- the transmission does not start, and the controller is told so
      refine Prog.ends_bind.2 (ends_drawJitter fun drawn jitter hjitter => ends_listenAgain fun _ => ?_)
      obtain ⟨v, hworks⟩ := hkept.works hu
      refine .of_not_onAir ((grounded_txStartFailed _ now jitter).kept hkept) ?_
      exact ensures_onFlash (hworks.ensures_txStartFailed hu htx hjitter)
    · exact ⟨(grounded_txStarted _ now).kept hkept, fun _ => howner, fun _ => htimer⟩
  · rename_i haction
    refine ends_listenAgain fun _ => .of_not_onAir hkept (hquiet fun bytes hb => ?_)
    rw [haction] at hb
    cases hb
  · rename_i haction
    refine ends_listenAgain fun _ => .of_not_onAir hkept (hquiet fun bytes hb => ?_)
    rw [haction] at hb
    cases hb

theorem held_acquireEvent (hk : Reached c s.machine) (hn : ¬ s.machine.ram.OnAir) {synchronousWork : Bool}
    (htimer : synchronousWork = false → s.commandPreAck.active = false) (now : UInt32) :
    (s.acquireEvent synchronousWork now).Ends fun _ s' => Held c s' := by
  unfold acquireEvent
  refine Prog.ends_bind.2 (ends_readOperationDone fun _ pending _ _ => ?_)
  dsimp only
  split
  · exact .of_not_onAir hk hn
  rename_i hstandby
  have hinactive : s.commandPreAck.active = false := by
    refine htimer ?_
    by_contra hbusy
    apply hstandby
    unfold NodeOwner.requestEvent
    simp [Bool.eq_true_of_not_eq_false hbusy]
  refine ends_ask .standby fun standbyOk => Prog.ends_bind.2 (ends_readOperationDone fun _ pending _ _ => ?_)
  have hlisten : ∀ owner, (listenAgain { s with owner := owner, operationDone := pending }).Ends fun _ s' => Held c s' :=
    fun owner => ends_listenAgain fun _ => .of_not_onAir hk hn
  dsimp only
  split
  · exact .of_not_onAir hk hn
  · rename_i hgranted
    apply held_transmitEvent
    · exact hk
    · exact hn
    · revert hgranted
      unfold NodeOwner.finishStandby
      split
      · exact fun h => absurd h NodeAcquireResult.noConfusion
      split
      · cases pending <;> exact fun h => absurd h NodeAcquireResult.noConfusion
      · exact fun _ => rfl
    · exact hinactive
  · exact hlisten _
  · exact hlisten _

theorem held_reclaimRecords (hk : Reached c s.machine) (hn : ¬ s.machine.ram.OnAir) :
    s.reclaimRecords.Ends fun _ s' => Held c s' := by
  refine ends_ask .standby fun standbyOk => Prog.ends_bind.2 (ends_readOperationDone fun _ done _ _ => ?_)
  dsimp only
  split
  · exact .of_not_onAir hk hn
  refine ends_listenAgain fun started => ?_
  have hreclaimed := grounded_reclaimTerminals (c := c) s true
  have hkept := hreclaimed.kept hk
  have hdown : ¬ (s.onFlash (s.machine.ram.reclaimTerminals true)).1.machine.ram.OnAir :=
    fun htx => hn (hreclaimed.onAir htx)
  split
  · split
    · exact .of_not_onAir hkept hdown
    · exact .of_not_onAir hkept hdown
  · exact .of_not_onAir hk hn

/-- Without synchronous work no acknowledgment waits. -/
theorem ends_synchronousWork (s : NodeLoop) :
    s.synchronousWork.Ends fun _ r => r.1.machine = s.machine ∧ (r.2 = false → r.1.commandPreAck.active = false) := by
  unfold synchronousWork
  split
  · exact ⟨rfl, fun h => Bool.noConfusion h⟩
  · rename_i hfree
    refine Prog.ends_bind.2 (ends_readOperationDone fun _ done _ _ => ⟨rfl, fun _ => ?_⟩)
    simp only [Bool.or_eq_true, not_or, Bool.not_eq_true] at hfree
    exact hfree.1.1

/-- **The Event subsystem puts an Event on the air with the radio in its hands.** -/
theorem held_serviceNodeEvents (hk : Reached c s.machine) (hn : ¬ s.machine.ram.OnAir) :
    s.serviceNodeEvents.Ends fun _ s' => Held c s' := by
  unfold serviceNodeEvents
  split
  · exact .of_not_onAir hk hn
  refine (ends_synchronousWork s).bind fun _ ⟨s1, synchronousWork⟩ h1 => ?_
  obtain ⟨hmachine, htimer⟩ := h1
  dsimp only at hmachine htimer
  refine ends_ask .millis fun now => Prog.ends_bind.2 (ends_drawJitter fun drawn jitter _ => ?_)
  rw [← hmachine] at hk hn
  have hserviced := grounded_service (c := c) s1 now synchronousWork jitter
  have hkept := hserviced.kept hk
  have hdown : ¬ (s1.onFlash (s1.machine.ram.service now synchronousWork jitter)).1.machine.ram.OnAir :=
    fun htx => hn (hserviced.onAir htx)
  dsimp only
  split
  · exact .of_not_onAir hkept hdown
  split
  · split
    · exact ends_listenAgain fun _ => .of_not_onAir hkept hdown
    split
    · exact held_reclaimRecords hkept hdown
    · exact held_acquireEvent hkept hdown htimer now
  · exact held_acquireEvent hkept hdown htimer now

theorem held_setup {img : Image} (hk : Reached c (.off img)) : (NodeLoop.setup c img).Ends fun _ s => Held c s := by
  refine ends_ask .repairPending fun repair => ends_ask .random fun entropy => ends_ask .millis fun now => ?_
  have himage : ((NodeLoop.initial img).loadSettings repair).machine = .off img := by
    unfold loadSettings
    split <;> rfl
  generalize (NodeLoop.initial img).loadSettings repair = s0 at himage
  have hcall : (Call.boot (some entropy)).run c.localId c.peerId now s0.machine.ram =
      Ram.boot c.localId c.peerId (some entropy) now >>= fun r => pure (r.1, r.2.action) := rfl
  rw [← himage] at hk
  have hkept := kept_onFlash hk hcall
  obtain ⟨ops, hreturns⟩ := returns_onFlash s0 (Ram.boot c.localId c.peerId (some entropy) now)
  have hdown := not_onAir_boot hreturns
  refine ends_ask .beginRadio fun begun => ?_
  split
  · exact .of_not_onAir hkept hdown
  · refine Prog.ends_bind.2 (ends_startListening fun started => ?_)
    cases started <;> exact .of_not_onAir hkept hdown

end NodeLoop

/-! ### Turns -/

namespace ServiceTurn

/-- The interrupt flag, as the service reads it first. -/
def flag (t : ServiceTurn) : Bool := t.before.operationDone || reported t.log

/-- Nobody comes in the way of an Event on the air: the Host has sent nothing, no maintenance is allowed, and the
controller is in use when the interrupt is dispatched. -/
structure Undisturbed (t : ServiceTurn) : Prop where
  host : t.service = .productionHost → t.log.any hostWaits = false
  maintenance : t.service = .quietMaintenance →
    quietMaintenanceAllowed t.before.persistenceRequest t.before.quietMaintenanceAttemptArmed t.before.phase t.flag
      false false t.before.renderingPresentation = false
  usable : t.service = .dispatch → t.flag = true → t.before.machine.ram.usable = true

/-- The Event on the air has the radio; while it stays there nobody takes the radio and no interrupt is lost; and it
leaves by its interrupt or by its expiry. -/
structure KeepsRadio (t : ServiceTurn) : Prop where
  owned : t.after.machine.ram.OnAir → t.after.owner = .eventTx
  alone : t.before.machine.ram.OnAir → t.after.machine.ram.OnAir → LeavesRadio t.log ∧
    (t.before.operationDone = true ∨ ⟨.interrupted, true⟩ ∈ t.log → t.after.operationDone = true)
  ends : t.before.machine.ram.OnAir → ¬ t.after.machine.ram.OnAir →
    t.service = .dispatch ∧ t.flag = true ∨ t.service = .nodeEvents ∧ t.after.deliveryState = .expired

variable {c : DeviceConfig} {t : ServiceTurn}

theorem keepsRadio_of_unmoved (hs : NodeLoop.Held c t.before) (h : NodeLoop.Unmoved c t.before t.log t.after) :
    NodeLoop.Held c t.after ∧ t.KeepsRadio :=
  ⟨h.held hs, (h.held hs).owner, fun _ _ => ⟨h.silent, h.flag⟩, fun htx hn => absurd (h.state.trans htx) hn⟩

theorem keepsRadio_of_held (hs : NodeLoop.Held c t.after) (hn : ¬ t.before.machine.ram.OnAir) :
    NodeLoop.Held c t.after ∧ t.KeepsRadio :=
  ⟨hs, hs.owner, fun htx => absurd htx hn, fun htx => absurd htx hn⟩

/-- A turn that finds no Event on the air. -/
theorem held_idle (ht : (mainLoop c).Steps t) (hs : NodeLoop.Held c t.before) (hn : ¬ t.before.machine.ram.OnAir) :
    NodeLoop.Held c t.after := by
  obtain ⟨before, service, log, after⟩ := t
  have hgrounded : ∀ {p : LoopM NodeLoop}, p.Logs log after → (p.Ends fun _ s' => NodeLoop.Grounded c before s') →
      NodeLoop.Held c after := fun hp h => (hp.ends h).held hs.kept hn
  cases service with
  | producers =>
    exact (Prog.Logs.ends ht before.unmoved_serviceProducers).held hs
  | commandPreAck =>
    exact hgrounded ht (before.machine_serviceCommandPreAck.mono fun _ _ h => .of_machine h)
  | dispatch => exact hgrounded ht before.grounded_dispatch
  | productionHost => exact hgrounded ht (before.aside_serviceProductionHost.mono fun _ _ h => h.grounded)
  | quietMaintenance =>
    have hquiet : (Service.run c before .quietMaintenance).Ends fun _ s' => NodeLoop.Grounded c before s' := by
      unfold Service.run
      dsimp only
      split
      · exact before.aside_serviceQuietMaintenance.mono fun _ _ h => h.grounded
      · exact .of_machine rfl
    exact hgrounded ht hquiet
  | nodeEvents => exact Prog.Logs.ends ht (NodeLoop.held_serviceNodeEvents hs.kept hn)

/-- **One turn leaves the radio to the Event on the air**, when nobody comes in the way. -/
theorem held_step (ht : (mainLoop c).Steps t) (hs : NodeLoop.Held c t.before)
    (hok : t.before.machine.ram.OnAir → t.Undisturbed) : NodeLoop.Held c t.after ∧ t.KeepsRadio := by
  by_cases htx : t.before.machine.ram.OnAir
  swap
  · exact keepsRadio_of_held (held_idle ht hs htx) htx
  have hundisturbed := hok htx
  obtain ⟨before, service, log, after⟩ := t
  dsimp only at hs htx
  cases service with
  | producers => exact keepsRadio_of_unmoved hs (Prog.Logs.ends ht before.unmoved_serviceProducers)
  | commandPreAck =>
    exact keepsRadio_of_unmoved hs (Prog.Logs.ends ht (NodeLoop.unmoved_serviceCommandPreAck (hs.timer htx)))
  | dispatch =>
    rcases Prog.Logs.ends ht (NodeLoop.ends_dispatch_onAir hs htx) with h | ⟨hflag, hdone⟩
    · exact keepsRadio_of_unmoved hs h
    · have hdown := hdone (hundisturbed.usable rfl hflag)
      have hkept := (Prog.Logs.ends ht before.grounded_dispatch).kept hs.kept
      exact ⟨.of_not_onAir hkept hdown, fun h => absurd h hdown, fun _ h => absurd h hdown,
        fun _ _ => Or.inl ⟨rfl, hflag⟩⟩
  | productionHost =>
    exact keepsRadio_of_unmoved hs (Prog.Logs.ends ht before.unmoved_serviceProductionHost (hundisturbed.host rfl))
  | quietMaintenance =>
    have hquiet : (Service.run c before .quietMaintenance).Ends fun log s' =>
        quietMaintenanceAllowed before.persistenceRequest before.quietMaintenanceAttemptArmed before.phase
          (before.operationDone || reported log) false false before.renderingPresentation = false →
        NodeLoop.Unmoved c before log s' := by
      unfold Service.run
      dsimp only
      split
      · exact before.unmoved_serviceQuietMaintenance
      · exact fun _ => .refl
    exact keepsRadio_of_unmoved hs (Prog.Logs.ends ht hquiet (hundisturbed.maintenance rfl))
  | nodeEvents =>
    obtain ⟨hkept, h | hexpired⟩ := Prog.Logs.ends ht (NodeLoop.ends_serviceNodeEvents_onAir hs htx)
    · exact keepsRadio_of_unmoved hs h
    · have hdown : ¬ after.machine.ram.OnAir := fun h => absurd (hexpired.symm.trans h) RuntimeState.noConfusion
      exact ⟨.of_not_onAir hkept hdown, fun h => absurd h hdown, fun _ h => absurd h hdown,
        fun _ _ => Or.inr ⟨rfl, hexpired⟩⟩

end ServiceTurn

instance (t : ServiceTurn) : Decidable t.Undisturbed :=
  decidable_of_iff ((t.service = .productionHost → t.log.any hostWaits = false) ∧
      (t.service = .quietMaintenance → quietMaintenanceAllowed t.before.persistenceRequest
        t.before.quietMaintenanceAttemptArmed t.before.phase t.flag false false t.before.renderingPresentation = false) ∧
      (t.service = .dispatch → t.flag = true → t.before.machine.ram.usable = true))
    ⟨fun h => ⟨h.1, h.2.1, h.2.2⟩, fun h => ⟨h.host, h.maintenance, h.usable⟩⟩

/-! ### Runs -/

theorem kept_chronicle {c : DeviceConfig} {img : Image} (h : Dormant img) (actions : List Action) :
    Reached c (.off (chronicle c.localId c.peerId img actions).machine.image) := by
  rcases consistent_chronicle h actions with ⟨hasleep, -⟩ | ⟨v, halive, -⟩
  · exact (hasleep.step .powerLoss).1.imp id fun ⟨v, hv, _⟩ => ⟨v, hv⟩
  · exact Or.inr ⟨v, .off halive.stored⟩

/-- **An Event on the air keeps the radio**, in every run of the firmware in which the Host sends nothing and no
maintenance is allowed while an Event is on the air, and its interrupt finds the controller in use. -/
theorem event_keeps_radio {c : DeviceConfig} {img : Image} (hd : Dormant img) {actions : List Action}
    {turns : List ServiceTurn} (h : Firmware c (chronicle c.localId c.peerId img actions).machine.image turns)
    (hok : ∀ t ∈ turns, t.before.machine.ram.OnAir → t.Undisturbed) : ∀ t ∈ turns, t.KeepsRadio := by
  obtain ⟨log, s, hsetup, hrun⟩ := h.started
  have hstart : NodeLoop.Held c s := hsetup.ends (NodeLoop.held_setup (kept_chronicle hd actions))
  intro t ht
  have hinv := hrun.invariant (I := fun q => NodeLoop.Held c q.2)
    (fun u hu hs hheld => (ServiceTurn.held_step hs hheld (hok u hu)).1) hstart
  exact (ServiceTurn.held_step (hrun.steps ht) (hinv.1 t ht).1 (hok t ht)).2

/-- A producer has a check-in to report. -/
def producing (now : UInt32) : (op : LoopOp) → op.Reply
  | .produced => some ⟨Family.manualCheckIn, 0, 60, 1, bodyOf [1]⟩
  | op => calm now op

/-- The Host has sent a byte. -/
def hostSending (now : UInt32) : (op : LoopOp) → op.Reply
  | .available => (1 : ℤ)
  | op => calm now op

/-- An Event is created and transmitted in the first iteration, and its interrupt comes in the second one. -/
def deliveredEvent : List ServiceTurn :=
  consultedFirmware ⟨2, 1⟩ blankImage (calm 0) [producing 1, calm 1, calm 1, calm 1, calm 1, calm 1,
    calm 2, calm 2, interrupting 2]

theorem event_keeps_radio_delivered :
    (deliveredEvent.map fun t => decide t.after.machine.ram.OnAir) =
        [false, false, false, false, false, true, true, true, false] ∧
      ∀ t ∈ deliveredEvent, t.KeepsRadio := by
  have hrun : Firmware ⟨2, 1⟩ (chronicle 2 1 blankImage []).machine.image deliveredEvent :=
    firmware_consulted ⟨2, 1⟩ blankImage (calm 0) _
  exact ⟨by decide +kernel, event_keeps_radio dormant_blank hrun (by decide +kernel)⟩

/-- The Host sends a byte while the Event is on the air. -/
def robbedEvent : List ServiceTurn :=
  consultedFirmware ⟨2, 1⟩ blankImage (calm 0) [producing 1, calm 1, calm 1, calm 1, calm 1, calm 1,
    calm 2, calm 2, calm 2, hostSending 2]

/-- **The Host takes the radio from an Event on the air**: the Event stays there, and its interrupt is lost. -/
theorem event_robbed :
    (robbedEvent.map fun t => (decide t.after.machine.ram.OnAir, decide (t.after.owner = .eventTx))) =
        [(false, false), (false, false), (false, false), (false, false), (false, false), (true, true), (true, true),
          (true, true), (true, true), (true, false)] ∧
      ¬ ∀ turns, Firmware ⟨2, 1⟩ blankImage turns → ∀ t ∈ turns, t.after.machine.ram.OnAir →
          t.after.owner = .eventTx := by
  refine ⟨by decide +kernel, fun h => ?_⟩
  have hrun := h robbedEvent (firmware_consulted ⟨2, 1⟩ blankImage (calm 0) _)
  exact absurd hrun (by decide +kernel)

end Redline.Node
