import Redline.Node.Controller

/-!
# Creation and start of the Node

The calls that begin a life: the enqueue of an Event and the start of its lifetime (`ensures_create`), the
recovery of the controller on a sound store (`ensures_controllerRecover`), and the start of the firmware
(`ensures_boot`), from an image that stands for a view and from one that owns nothing.
-/

namespace Redline.Node

open Redline.Wire Redline.Records Redline.Lib

variable {n : Ram} {img : Image} {v : View} {P : Image → Prop} {now : UInt32}

/-! ### Creation -/

/-- What an enqueue does to the view: nothing, or a record in a free slot above every identity so far. -/
inductive Creation (input : EventInput) (v : View) : View → Prop
  | refused : Creation input v v
  | created {slot : SlotIndex} {identity : Identity} (hvalid : Store.validInput input = true)
      (hfree : (v.records slot).state = .free) (hfloor : v.floor ≤ key identity.epoch identity.id) :
      Creation input v (v.created slot identity input)

theorem Creates.creation {s : Store} (h : Sound s img v) {input : EventInput} {slot : SlotIndex}
    {identity : Identity} (hc : Creates s input slot identity)
    (hfloor : v.floor ≤ key identity.epoch identity.id) : Creation input v (v.created slot identity input) := by
  refine .created hc.valid ?_ hfloor
  rw [← h.records]
  exact firstFree_state hc.free

theorem enqueuesOrNot_creation {s : Store} (h : Sound s img v) {input : EventInput} {img' : Image}
    (hc : EnqueuesOrNot s v input img') :
    ∃ v', Creation input v v' ∧ Stored s.sourceDeviceId img' v' := by
  rcases hc with hst | ⟨slot, identity, hc, hfloor, hst⟩
  · exact ⟨v, .refused, hst⟩
  · exact ⟨_, hc.creation h hfloor, hst⟩

/-- The Event on the air is not touched by a creation. -/
theorem Ram.Pending.creation {input : EventInput} {n' : Ram} {v' : View} (h : n.Pending v)
    (hc : Creation input v v') (hn : n'.controller = n.controller) : n'.Pending v' := by
  intro hd hstate
  rw [hn] at hd hstate
  obtain ⟨slot, hslot⟩ := h hd hstate
  have hsame : v'.records slot = v.records slot := by
    cases hc with
    | refused => rfl
    | created _ hfree _ =>
      refine Function.update_of_ne ?_ _ _
      rintro rfl
      rw [hslot.queued] at hfree
      cases hfree
  refine ⟨slot, ?_, ?_, ?_, ?_⟩
  · rw [hn, hslot.active]
  · rw [hn, hslot.activeSlot]
  · rw [hsame, hslot.queued]
  · rw [hn, hsame]
    exact hslot.event

/-- The store after a creation: the image stands for the view, and a store in service is sound. -/
structure Settles (device : UInt8) (n' : Ram) (img' : Image) (v' : View) : Prop where
  stored : Stored device img' v'
  sound : n'.store.healthy = true → Sound n'.store img' v' ∧ n'.store.sourceDeviceId = device

theorem Sound.settles {n' : Ram} {img' : Image} {v' : View} {device : UInt8} (h : Sound n'.store img' v')
    (hd : n'.store.sourceDeviceId = device) : Settles device n' img' v' :=
  ⟨by rw [← hd]; exact h.stored, fun _ => ⟨h, hd⟩⟩

theorem ensures_storeEnqueue (h : Sound n.store img v) {input : EventInput}
    {α : Type} {f : Store × EnqueueResult → StorageM α} {Q : α → Image → Prop}
    (hP : ∀ img' v', Creation input v v' → Stored n.store.sourceDeviceId img' v' → P img')
    (hno : ∀ s' img' result, Settles n.store.sourceDeviceId ⟨s', n.controller⟩ img' v → result.slot = none →
      geometry.Ensures img' (f (s', result)) Q P)
    (hQ : ∀ s' img' slot identity, Creates n.store input slot identity →
      v.floor ≤ key identity.epoch identity.id → Sound s' img' (v.created slot identity input) →
      s'.sourceDeviceId = n.store.sourceDeviceId →
      geometry.Ensures img' (f (s', ⟨.enqueued, identity, some slot⟩)) Q P) :
    geometry.Ensures img (n.store.enqueue input >>= f) Q P := by
  refine ensures_bind (ensures_mono ?_ ?_ (ensures_enqueue h input))
  · rintro ⟨s', result⟩ img' henq
    cases henq with
    | refused _ hs himg hslot _ =>
      obtain rfl : s' = n.store := hs
      subst himg
      exact hno _ _ _ (Sound.settles h rfl) hslot
    | exhausted _ hh himg _ _ hslot _ =>
      subst himg
      refine hno s' _ _ ⟨h.stored, fun hc => ?_⟩ hslot
      rw [show s'.healthy = false from hh] at hc
      cases hc
    | enqueued slot identity hc hfloor hsound hsrc hresult =>
      obtain rfl : result = _ := hresult
      exact hQ s' img' slot identity hc hfloor hsound hsrc
  · intro img' hc
    obtain ⟨v', hcr, hst⟩ := enqueuesOrNot_creation h hc
    exact hP img' v' hcr hst

/-! ### Tracking -/

/-- The clock of a slot is started. -/
def Ram.track (n : Ram) (slot : SlotIndex) (now : UInt32) : Ram :=
  ⟨n.store, { n.controller with policy := n.controller.policy.setRuntime slot ⟨true, now, 0⟩ }⟩

/-- Tracking touches neither the store nor the state of the controller. -/
theorem trackEnqueued_keeps (n : Ram) (slot : ℕ) (now : UInt32) :
    (n.trackEnqueued slot now).1.store = n.store ∧
      (n.trackEnqueued slot now).1.controller.source = n.controller.source ∧
      (n.trackEnqueued slot now).1.controller.destination = n.controller.destination := by
  unfold Ram.trackEnqueued
  dsimp only
  split
  · exact ⟨rfl, rfl, rfl⟩
  · split <;> exact ⟨rfl, rfl, rfl⟩

theorem Ram.Pending.trackEnqueued (h : n.Pending v) (slot : ℕ) (now : UInt32) :
    (n.trackEnqueued slot now).1.Pending v := by
  unfold Ram.trackEnqueued
  dsimp only
  split
  · exact .degrade _ _
  · split
    · exact .degrade _ _
    · intro hd hstate
      obtain ⟨slot, hc⟩ := h hd hstate
      exact ⟨slot, hc.active, hc.activeSlot, hc.queued, hc.event⟩

theorem ensures_create (h : Sound n.store img v) {input : EventInput} {clock : UInt32}
    {Q : Ram × EnqueueResult → Image → Prop}
    (hP : ∀ img' v', Creation input v v' → Stored n.store.sourceDeviceId img' v' → P img')
    (hno : ∀ s' img' result, Settles n.store.sourceDeviceId ⟨s', n.controller⟩ img' v →
      Q (⟨s', n.controller⟩, result) img')
    (hQ : ∀ s' img' slot identity result, Creates n.store input slot identity →
      v.floor ≤ key identity.epoch identity.id → Sound s' img' (v.created slot identity input) →
      s'.sourceDeviceId = n.store.sourceDeviceId →
      Q (((⟨s', n.controller⟩ : Ram).trackEnqueued slot clock).1, result) img') :
    geometry.Ensures img (n.create input clock) Q P := by
  unfold Ram.create
  split
  · exact ensures_pure.2 (hno n.store img _ (Sound.settles h rfl))
  refine ensures_storeEnqueue h hP (fun s' img' result hs hslot => ?_)
    fun s' img' slot identity hc hfloor hsound hsrc => ?_
  · simp only [hslot]
    exact ensures_pure.2 (hno s' img' result hs)
  · dsimp only
    split
    · exact ensures_pure.2 (hQ s' img' slot identity _ hc hfloor hsound hsrc)
    · exact ensures_pure.2 (hQ s' img' slot identity _ hc hfloor hsound hsrc)

/-! ### Recovery of the controller -/

/-- What the recovery of the controller leaves: with valid endpoints, the policy has recovered and the head of the
queue may have been failed. -/
structure Restarted (now : UInt32) (source hub : UInt8) (v : View) (n' : Ram) (img' : Image) (v' : View) : Prop where
  sound : Sound n'.store img' v'
  ageing : Ageing v v'
  pending : n'.Pending v'
  endpoints : n'.controller.source = source ∧ n'.controller.destination = hub ∨
    n'.controller.source = 0 ∧ n'.controller.destination = 0
  clocks : hasValidEndpoints source hub = true →
    ∃ p v1, PolicyRecovered now v p v1 ∧ Moves now (p.runtime, v1) (n'.controller.policy.runtime, v')

theorem ensures_controllerRecover (h : Sound n.store img v) {source hub : UInt8}
    {Q : Ram × ControllerResult → Image → Prop}
    (hP : ∀ img' v', Ageing v v' → Stored n.store.sourceDeviceId img' v' → P img')
    (hQ : ∀ n' img' v' result, Restarted now source hub v n' img' v' →
      n'.store.sourceDeviceId = n.store.sourceDeviceId → result.Quiet → Q (n', result) img') :
    geometry.Ensures img (n.recover source hub now) Q P := by
  unfold Ram.recover
  dsimp only
  split
  · rename_i hends
    refine ensures_pure.2 (hQ _ img v _ ⟨h, .refl, ?_, Or.inr ⟨rfl, rfl⟩, fun hv => ?_⟩ rfl (quiet_result _))
    · exact .of_state RuntimeState.noConfusion RuntimeState.noConfusion
    · rw [hv] at hends
      cases hends
  refine ensures_bind (ensures_policyRecover h hP ?_)
  intro s' img' p' v' hrec hsound hsrc
  simp only [ne_eq, not_true_eq_false, if_false]
  set n0 : Ram := ⟨s', { Controller.initial n.controller.policy with
    policy := p', source := source, destination := hub, initialized := true }⟩ with hn0
  have hpend0 : n0.Pending v' := .of_state RuntimeState.noConfusion RuntimeState.noConfusion
  have hw0 : Worked now n0 v' n0.loadHead img' v' := (Worked.refl hsound).follow (loadHead_store _)
    (by rw [loadHead_policy]) (loadHead_endpoints _).1 (loadHead_endpoints _).2
  -- whatever follows works on the recovered policy
  have hdone : ∀ n2 img2 v2 result, Worked now n0 v' n2 img2 v2 → Ageing v' v2 → n2.Pending v2 → result.Quiet →
      Q (n2, result) img2 := by
    intro n2 img2 v2 result hw hag hpend hquiet
    refine hQ n2 img2 v2 result ⟨hw.sound, hrec.ageing.trans hag, hpend, Or.inl ⟨hw.source, hw.destination⟩,
      fun _ => ⟨p', v', hrec, hw.moves⟩⟩ (hw.device.trans hsrc) hquiet
  -- every QUEUED record is charged up to the recovery
  have hcurrent0 : n0.loadHead.Current now v' := fun i hq => by
    rw [loadHead_policy, show n0.controller.policy.runtime i = _ from hrec.tracked i hq]
    exact ⟨rfl, rfl⟩
  split
  · refine ensures_bind (ensures_failActive hw0.sound hcurrent0 (fun img2 v2 hag hst => ?_) ?_ ?_)
    · rw [hw0.device, hsrc] at hst
      exact hP img2 v2 (hrec.ageing.trans hag) hst
    · simp only [Bool.not_false, if_true]
      exact ensures_pure.2 (hdone _ img' v' _ (hw0.follow rfl rfl rfl rfl) .refl (.degrade _ _) (quiet_degrade n _ _))
    · intro n2 img2 v2 haged
      simp only [Bool.not_true, Bool.false_eq_true, if_false]
      exact ensures_pure.2 (hdone n2 img2 v2 _ (hw0.trans haged.toWorked) haged.ageing haged.pending (quiet_result _))
  · exact ensures_pure.2 (hdone _ img' v' _ hw0 .refl hpend0.loadHead (quiet_result _))

/-! ### The start of the firmware -/

/-- The start after the store has recovered. -/
theorem ensures_bootSound {s : Store} {device hub : UInt8} (h : Sound s img v) (hd : s.sourceDeviceId = device)
    {Q : Ram × ControllerResult → Image → Prop}
    (hP : ∀ img' v1 v', Reclaiming v v1 → Ageing v1 v' → Stored device img' v' → P img')
    (hQ : ∀ n' img' v1 v' result, Reclaiming v v1 → Restarted now device hub v1 n' img' v' →
      n'.store.sourceDeviceId = device → result.Quiet → Q (n', result) img') :
    geometry.Ensures img (do
      let (n, reclaimed) ← ({ Ram.initial with store := s } : Ram).reclaimTerminals false
      if !reclaimed then return (n, result .degraded)
      n.recover device hub now) Q P := by
  have hpend : ({ Ram.initial with store := s } : Ram).Pending v :=
    .of_state RuntimeState.noConfusion RuntimeState.noConfusion
  refine ensures_bind (ensures_reclaimTerminals h hpend (fun img' v' hr hst => ?_)
    fun n1 img1 v1 reclaimed h1 hok => ?_)
  · rw [hd] at hst
    exact hP img' v' v' hr .refl hst
  · have hdev : n1.store.sourceDeviceId = device := h1.device.trans hd
    rw [hok rfl]
    simp only [Bool.not_true, Bool.false_eq_true, if_false]
    refine ensures_controllerRecover h1.sound (fun img' v' hag hst => ?_) fun n' img' v' result hre hsrc hq => ?_
    · rw [hdev] at hst
      exact hP img' v1 v' h1.reclaiming hag hst
    · exact hQ n' img' v1 v' result h1.reclaiming hre (hsrc.trans hdev) hq

/-- **The start, from an image that stands for a view.** -/
theorem ensures_boot {device hub : UInt8} {entropy : Option UInt32} (h : Stored device img v)
    {Q : Ram × ControllerResult → Image → Prop}
    (hP : ∀ img' v1 v', Reclaiming v v1 → Ageing v1 v' → Stored device img' v' → P img')
    (hQ : ∀ n' img' v1 v' result, Reclaiming v v1 → Restarted now device hub v1 n' img' v' →
      n'.store.sourceDeviceId = device → result.Quiet → Q (n', result) img') :
    geometry.Ensures img (Ram.boot device hub entropy now) Q P := by
  unfold Ram.boot
  refine ensures_bind (ensures_recover_stored noFaults_truthful h (hP img v v .refl .refl h) ?_)
  intro s hsound hd
  simp only [ne_eq, not_true_eq_false, if_false]
  exact ensures_bootSound hsound hd hP hQ

/-- The start, from an image that owns nothing. -/
theorem ensures_boot_dormant {device hub : UInt8} {entropy : Option UInt32} (h : Dormant img)
    {Q : Ram × ControllerResult → Image → Prop} (hP : ∀ img', Dormant img' → P img')
    (hPw : ∀ img' records v1 v', (∀ i, (records i).state = .free) → Reclaiming (.vacant records) v1 →
      Ageing v1 v' → Stored device img' v' → P img')
    (hno : ∀ n' img' result, n'.store.healthy = false → n'.controller = Ram.initial.controller →
      Dormant img' → result.Quiet → Q (n', result) img')
    (hQ : ∀ n' img' records v1 v' result, (∀ i, (records i).state = .free) → Reclaiming (.vacant records) v1 →
      Restarted now device hub v1 n' img' v' → n'.store.sourceDeviceId = device → result.Quiet →
      Q (n', result) img') :
    geometry.Ensures img (Ram.boot device hub entropy now) Q P := by
  unfold Ram.boot
  refine ensures_bind (ensures_mono ?_ hP (ensures_recover_dormant noFaults_truthful h))
  rintro ⟨s, status⟩ img1 (⟨rfl, hsound, hfree, hd⟩ | ⟨hst, hh, hdorm⟩)
  · simp only [ne_eq, not_true_eq_false, if_false]
    exact ensures_bootSound hsound hd (fun img' v1 v' hr hag hst => hPw img' _ v1 v' hfree hr hag hst)
      fun n' img' v1 v' result hr hre hsrc hq => hQ n' img' _ v1 v' result hfree hr hre hsrc hq
  · simp only [ne_eq] at hst ⊢
    rw [if_pos hst]
    exact ensures_pure.2 (hno _ img1 _ hh rfl hdorm (quiet_result _))

end Redline.Node
