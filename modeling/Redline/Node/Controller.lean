import Redline.Node.Aging

/-!
# The calls of the delivery controller

What a call of the controller does to the view of a sound store.  A call ages records, and a TRANSMIT arms
the record with the least identity (`Transmits`); only a matching ADMITTED response frees a QUEUED record
(`AdmittedBy`); reclamation frees terminal ones.  While an Event is on the air or waits for its response, it
is QUEUED in the active slot (`Ram.Pending`).
-/

namespace Redline.Node

open Redline.Wire Redline.Records Redline.Lib

/-! ### Moves -/

/-- The lifetime of the slot is charged up to the time `now`. -/
structure SlotRuntime.Current (now : UInt32) (rt : SlotRuntime) : Prop where
  tracked : rt.tracked = true
  baseline : rt.baselineMilliseconds = now

/-- What the store and the policy do during a call at the time `now`: a round of the policy, or a mutation of a QUEUED
record that is charged up to now, which neither expires it nor changes its remaining lifetime. -/
inductive Move (now : UInt32) : (SlotIndex → SlotRuntime) × View → (SlotIndex → SlotRuntime) × View → Prop
  | round {p p' : Policy} {v v' : View} (h : FullRound now p v p' v') : Move now (p.runtime, v) (p'.runtime, v')
  | put {runtime : SlotIndex → SlotRuntime} {v : View} {slot : SlotIndex} {r : NodeRecord}
      (hq : (v.records slot).state = .queued) (hcurrent : (runtime slot).Current now) (he : Evolves (v.records slot) r)
      (hlive : r.state ≠ .expired)
      (hkept : r.state = .queued → r.remainingActiveSeconds = (v.records slot).remainingActiveSeconds) :
      Move now (runtime, v) (runtime, v.put slot r)

abbrev Moves (now : UInt32) := Relation.ReflTransGen (Move now)

/-- Every QUEUED slot is charged up to the time `now`. -/
def Ram.Current (now : UInt32) (n : Ram) (v : View) : Prop :=
  ∀ i, (v.records i).state = .queued → (n.controller.policy.runtime i).Current now

theorem FullRound.current {now : UInt32} {p p' : Policy} {v v' : View} (h : FullRound now p v p' v') {i : SlotIndex}
    (hq : (v'.records i).state = .queued) : (p'.runtime i).Current now := by
  have hserviced := h.serviced i
  generalize p'.runtime i = rt', v'.records i = r' at hserviced hq ⊢
  cases hserviced with
  | idle hnot => exact absurd hq hnot
  | untracked => exact ⟨rfl, rfl⟩
  | expired _ _ hs =>
    rw [(hs.expired rfl).1] at hq
    cases hq
  | kept => exact ⟨rfl, rfl⟩

/-- What is charged stays charged. -/
theorem Moves.current {now : UInt32} {x y : (SlotIndex → SlotRuntime) × View} (h : Moves now x y)
    (hx : ∀ i, (x.2.records i).state = .queued → (x.1 i).Current now) {i : SlotIndex}
    (hq : (y.2.records i).state = .queued) : (y.1 i).Current now := by
  induction h with
  | refl => exact hx i hq
  | tail _ hmove ih =>
    cases hmove with
    | round h => exact h.current hq
    | @put runtime v slot r hold hcurrent =>
      by_cases his : i = slot
      · subst his
        exact hcurrent
      · dsimp only at hq
        rw [View.put_apply_ne _ his] at hq
        exact ih hq

/-- A terminal record is freed. -/
def Reclaims (old new : NodeRecord) : Prop := Terminal old ∧ new = NodeRecord.freed old

/-- Terminal records are freed, one after another. -/
abbrev Reclaiming : View → View → Prop := Relation.ReflTransGen (PutStep Reclaims)

theorem Reclaiming.evolving {v v' : View} (h : Reclaiming v v') : Evolving v v' :=
  Relation.ReflTransGen.mono
    (fun _ _ ⟨slot, r, hr, hv⟩ => ⟨slot, r, hr.2 ▸ .freed hr.1.owned, hv⟩) _ _ h

/-- Reclamation leaves a QUEUED record alone. -/
theorem Reclaiming.queued {v v' : View} (h : Reclaiming v v') {i : SlotIndex}
    (hi : (v.records i).state = .queued) : v'.records i = v.records i := by
  induction h with
  | refl => rfl
  | tail _ hstep ih =>
    obtain ⟨slot, r, ⟨ht, -⟩, rfl⟩ := hstep
    have hne : i ≠ slot := by
      rintro rfl
      rw [ih] at ht
      rcases ht with ht | ht <;> rw [hi] at ht <;> cases ht
    rw [View.put_apply_ne _ hne, ih]

/-! ### The Event on the air -/

/-- The Event of the attempt is QUEUED in the active slot. -/
structure Ram.Carries (n : Ram) (v : View) (slot : SlotIndex) : Prop where
  active : n.controller.active = true
  activeSlot : n.controller.activeSlot = slot.val
  queued : (v.records slot).state = .queued
  event : ∃ sequence, n.controller.attemptEvent =
    Ram.eventOf n.controller.source n.controller.destination sequence (v.records slot)

/-- While the Event is on the air or waits for its response, the active slot carries it. -/
def Ram.Pending (n : Ram) (v : View) : Prop :=
  n.controller.isDegraded = false → n.controller.state = .tx ∨ n.controller.state = .waitAdmission →
    ∃ slot, n.Carries v slot

theorem eventOf_congr {r r' : NodeRecord} (h : SameEvent r r') (source destination sequence : UInt8) :
    Ram.eventOf source destination sequence r' = Ram.eventOf source destination sequence r := by
  unfold Ram.eventOf
  rw [h.family, h.epoch, h.id, h.flags, h.lifetime, h.bodyLength, h.body]

theorem Ram.Carries.aged {n : Ram} {v v' : View} {slot : SlotIndex} (h : n.Carries v slot) (ha : Evolving v v')
    (hq : (v'.records slot).state = .queued) : n.Carries v' slot := by
  obtain ⟨sequence, hs⟩ := h.event
  refine ⟨h.active, h.activeSlot, hq, sequence, ?_⟩
  rw [hs, eventOf_congr (ha.inherits slot (owned_of_queued hq)).event]

theorem Ram.Pending.degrade {n : Ram} {v : View} (status : ControllerStatus) (receive : Bool) :
    (n.degrade status receive).1.Pending v := fun h => (by cases h)

theorem Ram.Pending.of_state {n : Ram} {v : View} (htx : n.controller.state ≠ .tx)
    (hwait : n.controller.state ≠ .waitAdmission) : n.Pending v := fun _ h =>
  h.elim (fun h => absurd h htx) fun h => absurd h hwait

/-! ### Results of a call -/

/-- A call has worked on the store, and the policy with it. -/
structure Worked (now : UInt32) (n : Ram) (v : View) (n' : Ram) (img' : Image) (v' : View) : Prop where
  sound : Sound n'.store img' v'
  device : n'.store.sourceDeviceId = n.store.sourceDeviceId
  moves : Moves now (n.controller.policy.runtime, v) (n'.controller.policy.runtime, v')
  source : n'.controller.source = n.controller.source
  destination : n'.controller.destination = n.controller.destination

theorem Worked.refl {now : UInt32} {n : Ram} {img : Image} {v : View} (h : Sound n.store img v) :
    Worked now n v n img v := ⟨h, rfl, .refl, rfl, rfl⟩

theorem Worked.trans {now : UInt32} {n n' n'' : Ram} {img' img'' : Image} {v v' v'' : View}
    (h : Worked now n v n' img' v') (h' : Worked now n' v' n'' img'' v'') : Worked now n v n'' img'' v'' :=
  ⟨h'.sound, h'.device.trans h.device, h.moves.trans h'.moves, h'.source.trans h.source,
    h'.destination.trans h.destination⟩

theorem Worked.mutate {now : UInt32} {n n' : Ram} {img' : Image} {v : View} {slot : SlotIndex} {r : NodeRecord}
    (hsound : Sound n'.store img' (v.put slot r)) (hdevice : n'.store.sourceDeviceId = n.store.sourceDeviceId)
    (hq : (v.records slot).state = .queued) (hcurrent : n.Current now v) (he : Evolves (v.records slot) r)
    (hlive : r.state ≠ .expired)
    (hkept : r.state = .queued → r.remainingActiveSeconds = (v.records slot).remainingActiveSeconds)
    (hruntime : n'.controller.policy.runtime = n.controller.policy.runtime)
    (hsource : n'.controller.source = n.controller.source)
    (hdestination : n'.controller.destination = n.controller.destination) :
    Worked now n v n' img' (v.put slot r) := by
  refine ⟨hsound, hdevice, ?_, hsource, hdestination⟩
  rw [hruntime]
  exact .single (.put hq (hcurrent slot hq) he hlive hkept)

theorem Worked.current {now : UInt32} {n n' : Ram} {img' : Image} {v v' : View} (h : Worked now n v n' img' v')
    (hcurrent : n.Current now v) : n'.Current now v' := fun _ hq => h.moves.current hcurrent hq

/-- A call has aged records and nothing else. -/
structure Aged (now : UInt32) (n : Ram) (v : View) (n' : Ram) (img' : Image) (v' : View) : Prop extends
    Worked now n v n' img' v' where
  ageing : Ageing v v'
  pending : n'.Pending v'

theorem Aged.trans {now : UInt32} {n n' n'' : Ram} {img' img'' : Image} {v v' v'' : View}
    (h : Aged now n v n' img' v') (h' : Aged now n' v' n'' img'' v'') : Aged now n v n'' img'' v'' :=
  ⟨h.toWorked.trans h'.toWorked, h.ageing.trans h'.ageing, h'.pending⟩

/-- What a call does to the lifetimes: where it services them, every QUEUED slot is charged up to now; elsewhere neither
the policy nor the view changes. -/
structure Serves (now : UInt32) (serviced : Prop) (n : Ram) (v : View) (n' : Ram) (v' : View) : Prop where
  current : serviced → n'.Current now v'
  still : ¬ serviced → n'.controller.policy = n.controller.policy ∧ v' = v

theorem Serves.of_still {now : UInt32} {serviced : Prop} {n n' : Ram} {v : View} (hno : ¬ serviced)
    (hpolicy : n'.controller.policy = n.controller.policy) : Serves now serviced n v n' v :=
  ⟨fun hs => absurd hs hno, fun _ => ⟨hpolicy, rfl⟩⟩

theorem Serves.of_current {now : UInt32} {serviced : Prop} {n n' : Ram} {v v' : View} (hs : serviced)
    (hcurrent : n'.Current now v') : Serves now serviced n v n' v' :=
  ⟨fun _ => hcurrent, fun hno => absurd hs hno⟩

/-- The controller changes its own state only. -/
theorem Worked.follow {now : UInt32} {n n' n'' : Ram} {img' : Image} {v v' : View}
    (h : Worked now n v n' img' v') (hstore : n''.store = n'.store)
    (hruntime : n''.controller.policy.runtime = n'.controller.policy.runtime)
    (hsource : n''.controller.source = n'.controller.source)
    (hdestination : n''.controller.destination = n'.controller.destination) : Worked now n v n'' img' v' := by
  refine ⟨by rw [hstore]; exact h.sound, by rw [hstore]; exact h.device, by rw [hruntime]; exact h.moves, ?_, ?_⟩
  · rw [hsource, h.source]
  · rw [hdestination, h.destination]

theorem Aged.follow {now : UInt32} {n n' n'' : Ram} {img' : Image} {v v' : View}
    (h : Aged now n v n' img' v') (hstore : n''.store = n'.store)
    (hruntime : n''.controller.policy.runtime = n'.controller.policy.runtime)
    (hsource : n''.controller.source = n'.controller.source)
    (hdestination : n''.controller.destination = n'.controller.destination) (hpending : n''.Pending v') :
    Aged now n v n'' img' v' :=
  ⟨h.toWorked.follow hstore hruntime hsource hdestination, h.ageing, hpending⟩

/-- The result asks for no transmission. -/
def ControllerResult.Quiet (result : ControllerResult) : Prop := ∀ bytes, result.action ≠ .transmit bytes

theorem quiet_result (status : ControllerStatus) : (result status).Quiet := fun _ => RadioAction.noConfusion

theorem quiet_receiveResult : receiveResult.Quiet := fun _ => RadioAction.noConfusion

theorem quiet_degrade (n : Ram) (status : ControllerStatus) (receive : Bool) : (n.degrade status receive).2.Quiet := by
  intro bytes
  cases receive <;> exact RadioAction.noConfusion

theorem usable_iff {n : Ram} : n.usable = true ↔ n.controller.initialized = true ∧
    n.controller.isDegraded = false ∧ n.store.healthy = true ∧ n.controller.policy.ready = true := by
  simp [Ram.usable, and_assoc]

theorem record_of_active {n : Ram} {img : Image} {v : View} (h : Sound n.store img v) {slot : SlotIndex}
    (ha : n.controller.active = true) (hs : n.controller.activeSlot = slot.val) :
    n.record = some (v.records slot) := by
  rw [Ram.record, if_pos ha, hs, h.recordAt]

/-- A TRANSMIT: the record with the least identity of all QUEUED ones has been armed, and its Event is on the
air before its lifetime has run out. -/
structure Transmits (now : UInt32) (v v1 : View) (slot : SlotIndex) (n' : Ram) (v' : View) (bytes : Bytes) :
    Prop where
  ageing : Ageing v v1
  armable : Armable (v1.records slot)
  view : v' = v1.put slot (NodeRecord.arm (v1.records slot))
  least : ∀ j, (v'.records j).state = .queued → (v'.records slot).key ≤ (v'.records j).key
  bytes : ∃ sequence, encodeEvent (Ram.eventOf n'.controller.source n'.controller.destination sequence
    (v'.records slot)) maxPacketSize = some bytes
  baseline : (n'.controller.policy.runtime slot).baselineMilliseconds = now
  alive : (n'.controller.policy.runtime slot).uncommittedMilliseconds <
    NodeRecord.remainingMilliseconds (v'.records slot)

/-- The bytes are an ADMITTED response to the Event of the record. -/
def AdmittedBy (source destination : UInt8) (bytes : Bytes) (r : NodeRecord) : Prop :=
  ∃ response sequence, decodeAdmissionResponse bytes = some response ∧ response.status = .admitted ∧
    matchesEvent response (Ram.eventOf source destination sequence r) = true

/-- What received bytes do to the view: records age, and an ADMITTED response releases the record it answers. -/
inductive Answers (source destination : UInt8) (bytes : Bytes) (v : View) : View → Prop
  | aged {v' : View} (h : Ageing v v') : Answers source destination bytes v v'
  | released {v1 : View} {slot : SlotIndex} (h : Ageing v v1) (hq : (v1.records slot).state = .queued)
      (hby : AdmittedBy source destination bytes (v1.records slot)) :
      Answers source destination bytes v (v1.put slot (NodeRecord.freed (v1.records slot)))

/-- A call has freed terminal records and nothing else. -/
structure Reclaimed (n : Ram) (v : View) (n' : Ram) (img' : Image) (v' : View) : Prop where
  sound : Sound n'.store img' v'
  device : n'.store.sourceDeviceId = n.store.sourceDeviceId
  policy : n'.controller.policy = n.controller.policy
  source : n'.controller.source = n.controller.source
  destination : n'.controller.destination = n.controller.destination
  reclaiming : Reclaiming v v'
  pending : n'.Pending v'

theorem Reclaimed.refl {n : Ram} {img : Image} {v : View} (h : Sound n.store img v) (hpend : n.Pending v) :
    Reclaimed n v n img v := ⟨h, rfl, rfl, rfl, rfl, .refl, hpend⟩

theorem Reclaimed.trans {n n' n'' : Ram} {img' img'' : Image} {v v' v'' : View} (h : Reclaimed n v n' img' v')
    (h' : Reclaimed n' v' n'' img'' v'') : Reclaimed n v n'' img'' v'' :=
  ⟨h'.sound, h'.device.trans h.device, h'.policy.trans h.policy, h'.source.trans h.source,
    h'.destination.trans h.destination, h.reclaiming.trans h'.reclaiming, h'.pending⟩

section Calls

variable {n : Ram} {img : Image} {v : View} {P : Image → Prop} {now : UInt32}

/-! ### The parts of the calls -/

/-- What servicing the lifetimes leaves: the controller is where it was, or the active Event has expired. -/
structure Lived (now : UInt32) (n : Ram) (v : View) (n' : Ram) (img' : Image) (v' : View) : Prop where
  aged : Aged now n v n' img' v'
  usable : n'.usable = true
  state : n'.controller.state = n.controller.state ∨ n'.controller.state = .expired
  current : n'.Current now v'

theorem ensures_serviceLifetime (now : UInt32) (h : Sound n.store img v) (hu : n.usable = true) (hpend : n.Pending v)
    {Q : Ram × Bool → Image → Prop}
    (hP : ∀ img' v', Ageing v v' → Stored n.store.sourceDeviceId img' v' → P img')
    (hQ : ∀ n' img' v', Lived now n v n' img' v' → Q (n', true) img') :
    geometry.Ensures img (n.serviceLifetime now) Q P := by
  obtain ⟨hinit, hdeg, -, hready⟩ := usable_iff.1 hu
  unfold Ram.serviceLifetime
  refine ensures_bind (ensures_service h hready hP ?_)
  intro s' img' p' v' hround hsound hsrc
  simp only [ne_eq, not_true_eq_false, if_false]
  set n1 : Ram := ⟨s', { n.controller with policy := p' }⟩ with hn1
  have hworked : Worked now n v n1 img' v' := ⟨hsound, hsrc, .single (.round hround), rfl, rfl⟩
  have husable : n1.usable = true := usable_iff.2 ⟨hinit, hdeg, hsound.healthy, hround.ready⟩
  have hcurrent : n1.Current now v' := fun _ hq => hround.current hq
  -- the Event on the air stays where it is, unless it has expired
  have hkept : (∀ slot, n.Carries v slot → (v'.records slot).state = .queued) → n1.Pending v' := by
    intro hqueued hd hstate
    obtain ⟨slot, hc⟩ := hpend hd hstate
    have hc' := hc.aged hround.ageing.evolving (hqueued slot hc)
    exact ⟨slot, hc'.active, hc'.activeSlot, hc'.queued, hc'.event⟩
  have hround' : ∀ slot, (v.records slot).state = .queued → (v'.records slot).state ≠ .expired →
      (v'.records slot).state = .queued := by
    intro slot hq hne
    have hser := hround.serviced slot
    generalize p'.runtime slot = rt', v'.records slot = r' at hser hne ⊢
    cases hser with
    | idle hnq => exact absurd hq hnq
    | untracked hq => exact hq
    | expired _ _ hs => exact absurd (hs.expired rfl).1 hne
    | kept _ _ hs => exact (hs.kept _ rfl).1
  split
  · -- there is no active record
    rename_i hrec
    refine ensures_pure.2 (hQ n1 img' v' ⟨⟨hworked, hround.ageing, hkept fun slot hc => ?_⟩, husable, Or.inl rfl,
      hcurrent⟩)
    have hsome := record_of_active (n := n1) hsound hc.active hc.activeSlot
    rw [hrec] at hsome
    cases hsome
  · rename_i current hrec
    split
    · have husable' : ((n1.setState .expired).clearAttempt).usable = true := husable
      have hpend' : ((n1.setState .expired).clearAttempt).Pending v' :=
        .of_state RuntimeState.noConfusion RuntimeState.noConfusion
      exact ensures_pure.2 (hQ _ img' v' ⟨⟨hworked.follow rfl rfl rfl rfl, hround.ageing, hpend'⟩, husable', Or.inr rfl,
        hcurrent⟩)
    · rename_i hne
      refine ensures_pure.2 (hQ n1 img' v' ⟨⟨hworked, hround.ageing, hkept fun slot hc => ?_⟩, husable, Or.inl rfl,
        hcurrent⟩)
      have hsome := record_of_active (n := n1) hsound hc.active hc.activeSlot
      rw [hrec] at hsome
      refine hround' slot hc.queued fun he => hne ?_
      rw [Option.some.inj hsome]
      exact he

/-- The active Event is failed, or its slot holds no QUEUED record and nothing happens. -/
theorem ensures_failActive (h : Sound n.store img v) (hcurrent : n.Current now v) {Q : Ram × Bool → Image → Prop}
    (hP : ∀ img' v', Ageing v v' → Stored n.store.sourceDeviceId img' v' → P img')
    (hno : Q (n, false) img)
    (hQ : ∀ n' img' v', Aged now n v n' img' v' → Q (n', true) img') :
    geometry.Ensures img n.markFailed Q P := by
  unfold Ram.markFailed
  refine ensures_bind (ensures_mono ?_ ?_ (ensures_markFailed h n.controller.activeSlot))
  · rintro ⟨s', mutation⟩ img' (⟨hne, rfl, rfl, -⟩ | ⟨hok, hs, hq, hsound, hsrc⟩)
    · simp only [ne_eq] at hne ⊢
      rw [if_pos hne]
      exact ensures_pure.2 hno
    · simp only [ne_eq] at hok ⊢
      rw [if_neg (not_not.2 hok)]
      have he : Evolves (v.records ⟨_, hs⟩) (NodeRecord.fail (v.records ⟨_, hs⟩)) := .failed hq
      refine ensures_pure.2 (hQ _ img' _ ⟨Worked.mutate hsound hsrc hq hcurrent he NodeState.noConfusion (fun hc => ?_)
        rfl rfl rfl, ?_, ?_⟩)
      · cases hc
      · exact Ageing.put .refl he NodeState.noConfusion
      · exact .of_state RuntimeState.noConfusion RuntimeState.noConfusion
  · rintro img' (hst | ⟨hs, hq, hst⟩)
    · exact hP img' v .refl hst
    · exact hP img' _ (Ageing.put .refl (.failed hq) NodeState.noConfusion) hst

/-- The active Event is failed; where that fails, the controller degrades. -/
theorem ensures_failOrDegrade (h : Sound n.store img v) (hcurrent : n.Current now v)
    {Q : Ram × ControllerResult → Image → Prop}
    (hP : ∀ img' v', Ageing v v' → Stored n.store.sourceDeviceId img' v' → P img')
    (hQ : ∀ n' img' v' result, Aged now n v n' img' v' → result.Quiet → Q (n', result) img') :
    geometry.Ensures img (do
      let (n, failed) ← n.markFailed
      if !failed then return n.degrade .storageFailure true
      return (n, receiveResult)) Q P := by
  have hsame : Worked now n v n img v := .refl h
  refine ensures_bind (ensures_failActive h hcurrent hP ?_ ?_)
  · simp only [Bool.not_false, if_true]
    exact ensures_pure.2 (hQ _ img v _ ⟨hsame.follow rfl rfl rfl rfl, .refl, .degrade _ _⟩ (quiet_degrade n _ _))
  · intro n' img' v' haged
    simp only [Bool.not_true, Bool.false_eq_true, if_false]
    exact ensures_pure.2 (hQ n' img' v' _ haged quiet_receiveResult)

theorem ensures_failedAttempt (h : Sound n.store img v) (hcurrent : n.Current now v) {jitter : UInt16}
    {Q : Ram × ControllerResult → Image → Prop}
    (hP : ∀ img' v', Ageing v v' → Stored n.store.sourceDeviceId img' v' → P img')
    (hQ : ∀ n' img' v' result, Aged now n v n' img' v' → result.Quiet → Q (n', result) img') :
    geometry.Ensures img (n.failedAttempt now jitter) Q P := by
  have hsame : Worked now n v n img v := .refl h
  have hdegrade : ∀ status receive, Q (n.degrade status receive) img := fun status receive =>
    hQ _ img v _ ⟨hsame.follow rfl rfl rfl rfl, .refl, .degrade status receive⟩ (quiet_degrade n status receive)
  unfold Ram.failedAttempt
  extract_lets exhausted attemptsUsed
  split
  · exact ensures_failOrDegrade h hcurrent hP hQ
  · split
    · exact ensures_pure.2 (hdegrade _ _)
    · refine ensures_pure.2 (hQ _ img v _ ⟨hsame.follow rfl rfl rfl rfl, .refl, ?_⟩ quiet_receiveResult)
      exact .of_state RuntimeState.noConfusion RuntimeState.noConfusion

theorem ensures_advance (h : Sound n.store img v) (hcurrent : n.Current now v) (hpend : n.Pending v)
    {synchronousWork : Bool} {jitter : UInt16} {Q : Ram × ControllerResult → Image → Prop}
    (hP : ∀ img' v', Ageing v v' → Stored n.store.sourceDeviceId img' v' → P img')
    (hQ : ∀ n' img' v' result, Aged now n v n' img' v' → result.Quiet → Q (n', result) img') :
    geometry.Ensures img (n.advance now synchronousWork jitter) Q P := by
  have hsame : Worked now n v n img v := .refl h
  have hstay : geometry.Ensures img (pure (n, result .ok)) Q P :=
    ensures_pure.2 (hQ n img v _ ⟨hsame, .refl, hpend⟩ (quiet_result .ok))
  have hmove : ∀ state, state ≠ .tx → state ≠ .waitAdmission →
      geometry.Ensures img (pure (n.setState state, result .ok)) Q P := fun state htx hwait =>
    ensures_pure.2 (hQ _ img v _ ⟨hsame.follow rfl rfl rfl rfl, .refl, .of_state htx hwait⟩ (quiet_result .ok))
  have hready := hmove .ready RuntimeState.noConfusion RuntimeState.noConfusion
  have hqueued := hmove .queued RuntimeState.noConfusion RuntimeState.noConfusion
  unfold Ram.advance
  split
  · split
    · refine ensures_bind (ensures_failActive h hcurrent hP ?_ ?_)
      · simp only [Bool.not_false, if_true]
        refine ensures_pure.2 (hQ _ img v _ ⟨hsame.follow rfl rfl rfl rfl, .refl, ?_⟩ (quiet_degrade n _ _))
        exact .degrade _ _
      · intro n' img' v' haged
        simp only [Bool.not_true, Bool.false_eq_true, if_false]
        exact ensures_pure.2 (hQ n' img' v' _ haged (quiet_result .ok))
    · cases synchronousWork
      · exact hready
      · exact hstay
  · cases synchronousWork
    · exact hstay
    · exact hqueued
  · split
    · exact ensures_failedAttempt h hcurrent hP hQ
    · exact hstay
  · split
    · cases synchronousWork
      · exact hready
      · exact hqueued
    · exact hstay
  · exact hstay

/-! ### Service -/

theorem loadHead_store (n : Ram) : n.loadHead.store = n.store := by
  unfold Ram.loadHead
  split <;> rfl

theorem loadHead_policy (n : Ram) : n.loadHead.controller.policy = n.controller.policy := by
  unfold Ram.loadHead
  split <;> rfl

theorem loadHead_endpoints (n : Ram) : n.loadHead.controller.source = n.controller.source ∧
    n.loadHead.controller.destination = n.controller.destination := by
  unfold Ram.loadHead
  split <;> exact ⟨rfl, rfl⟩

theorem loadHead_usable (n : Ram) : n.loadHead.usable = n.usable := by
  unfold Ram.loadHead
  split <;> rfl

theorem Ram.Pending.loadHead (h : n.Pending v) : n.loadHead.Pending v := by
  unfold Ram.loadHead
  split
  · exact h
  · exact .of_state RuntimeState.noConfusion RuntimeState.noConfusion

/-- The Event that `service` works on: a released one is given up, and the head of the queue is taken up. -/
def Ram.takeUp (n : Ram) : Ram :=
  let n := if n.controller.state = .released then n.clearAttempt.deactivate.loadHead else n
  if !n.controller.active then n.loadHead else n

/-- Taking up an Event changes the controller's own state only. -/
structure TakesUp (n : Ram) (v : View) (n' : Ram) : Prop where
  store : n'.store = n.store
  policy : n'.controller.policy = n.controller.policy
  source : n'.controller.source = n.controller.source
  destination : n'.controller.destination = n.controller.destination
  usable : n'.usable = n.usable
  pending : n'.Pending v

theorem TakesUp.loadHead {n' : Ram} (h : TakesUp n v n') : TakesUp n v n'.loadHead where
  store := (loadHead_store _).trans h.store
  policy := (loadHead_policy _).trans h.policy
  source := (loadHead_endpoints _).1.trans h.source
  destination := (loadHead_endpoints _).2.trans h.destination
  usable := (loadHead_usable _).trans h.usable
  pending := h.pending.loadHead

theorem Ram.Pending.takeUp (hpend : n.Pending v) : TakesUp n v n.takeUp := by
  have hsame : TakesUp n v n := ⟨rfl, rfl, rfl, rfl, rfl, hpend⟩
  unfold Ram.takeUp
  extract_lets n1
  have h1 : TakesUp n v n1 := by
    by_cases hr : n.controller.state = .released
    · rw [show n1 = n.clearAttempt.deactivate.loadHead from if_pos hr]
      have hstate : n.clearAttempt.deactivate.controller.state = .released := hr
      have hgiven : TakesUp n v n.clearAttempt.deactivate := by
        refine ⟨rfl, rfl, rfl, rfl, rfl, .of_state ?_ ?_⟩ <;> rw [hstate] <;> exact RuntimeState.noConfusion
      exact hgiven.loadHead
    · rw [show n1 = n from if_neg hr]
      exact hsame
  split
  · exact h1.loadHead
  · exact h1

theorem ensures_controllerService (h : Sound n.store img v) (hpend : n.Pending v) {synchronousWork : Bool}
    {jitter : UInt16} {Q : Ram × ControllerResult → Image → Prop}
    (hP : ∀ img' v', Ageing v v' → Stored n.store.sourceDeviceId img' v' → P img')
    (hQ : ∀ n' img' v' result, Aged now n v n' img' v' →
      Serves now (n.usable = true ∧ n.takeUp.controller.active = true) n v n' v' → result.Quiet →
      Q (n', result) img') :
    geometry.Ensures img (n.service now synchronousWork jitter) Q P := by
  have hsame : Worked now n v n img v := .refl h
  unfold Ram.service
  split
  · rename_i hno
    have hno : ¬ (n.usable = true ∧ n.takeUp.controller.active = true) := fun hs => by simp [hs.1] at hno
    exact ensures_pure.2 (hQ n img v _ ⟨hsame, .refl, hpend⟩ (.of_still hno rfl) (quiet_result _))
  rename_i husable
  have hu : n.usable = true := by simpa using husable
  extract_lets n1 n2
  have h2 : TakesUp n v n2 := hpend.takeUp
  have htake : n.takeUp = n2 := rfl
  clear_value n2
  rw [htake] at hQ
  have hw : Worked now n v n2 img v := hsame.follow h2.store (by rw [h2.policy]) h2.source h2.destination
  split
  · rename_i hidle
    have hno : ¬ (n.usable = true ∧ n2.controller.active = true) := fun hs => by simp [hs.2] at hidle
    exact ensures_pure.2 (hQ n2 img v _ ⟨hw, .refl, h2.pending⟩ (.of_still hno h2.policy) (quiet_result _))
  rename_i hactive
  have hserved : n.usable = true ∧ n2.controller.active = true := ⟨hu, by simpa using hactive⟩
  have hstore := h2.store
  have hpend2 := h2.pending
  have hu2 : n2.usable = true := h2.usable.trans hu
  have hP2 : ∀ img' v', Ageing v v' → Stored n2.store.sourceDeviceId img' v' → P img' := by
    rw [hstore]
    exact hP
  refine ensures_bind (ensures_serviceLifetime now hw.sound hu2 hpend2 hP2 ?_)
  intro n3 img3 v3 hlived
  have h3 : Aged now n v n3 img3 v3 := ⟨hw.trans hlived.aged.toWorked, hlived.aged.ageing, hlived.aged.pending⟩
  simp only [Bool.not_true, Bool.false_eq_true, if_false]
  split
  · exact ensures_pure.2 (hQ n3 img3 v3 _ h3 (.of_current hserved hlived.current) quiet_receiveResult)
  split
  · exact ensures_pure.2 (hQ n3 img3 v3 _ h3 (.of_current hserved hlived.current) (quiet_result _))
  · refine ensures_advance h3.sound hlived.current h3.pending (fun img' v' ha hst => ?_)
      fun n' img' v' result ha hq => ?_
    · rw [h3.device] at hst
      exact hP img' v' (h3.ageing.trans ha) hst
    · exact hQ n' img' v' result (h3.trans ha) (.of_current hserved (ha.current hlived.current)) hq

/-! ### Transmission -/

theorem Serviced.baseline {rt rt' : SlotRuntime} {r r' : NodeRecord} (h : Serviced now rt r rt' r')
    (hq : r'.state = .queued) : rt'.baselineMilliseconds = now := by
  cases h with
  | idle hnq => exact absurd hq hnq
  | untracked => rfl
  | expired _ _ hs =>
    rw [(hs.expired rfl).1] at hq
    cases hq
  | kept => rfl

/-- The least identity stays the least while records age. -/
theorem least_of_ageing {v v' : View} (ha : Ageing v v') {slot : SlotIndex}
    (hleast : ∀ j, (v.records j).state = .queued → (v.records slot).key ≤ (v.records j).key)
    (hq : (v'.records slot).state = .queued) {j : SlotIndex} (hj : (v'.records j).state = .queued) :
    (v'.records slot).key ≤ (v'.records j).key := by
  have hslot := ha.evolving.inherits slot (owned_of_queued hq)
  have hother := ha.evolving.inherits j (owned_of_queued hj)
  rw [hslot.event.key, hother.event.key]
  exact hleast j (hother.queued hj)

/-- What `transmit` leaves, with the record of the active slot QUEUED. -/
theorem transmit_cases (h : Sound n.store img v) {slot : SlotIndex} (ha : n.controller.active = true)
    (hs : n.controller.activeSlot = slot.val) (hq : (v.records slot).state = .queued) {sequence : Option UInt8}
    {Q : Ram × ControllerResult → Prop}
    (hQ : ∀ n' result, n'.store = n.store → n'.controller.policy = n.controller.policy →
      n'.controller.source = n.controller.source → n'.controller.destination = n.controller.destination →
      n'.Pending v → (∀ bytes, result.action = .transmit bytes → ∃ sequence,
        encodeEvent (Ram.eventOf n'.controller.source n'.controller.destination sequence (v.records slot))
          maxPacketSize = some bytes) → Q (n', result)) :
    Q (n.transmit sequence) := by
  have hrec := record_of_active h ha hs
  cases sequence with
  | none =>
    refine hQ _ _ rfl rfl rfl rfl (.degrade _ _) fun bytes hb => ?_
    exact absurd hb (quiet_degrade n _ _ bytes)
  | some sequence =>
    unfold Ram.transmit
    simp only [hrec]
    cases henc : encodeEvent (Ram.eventOf n.controller.source n.controller.destination sequence (v.records slot))
        maxPacketSize with
    | none =>
      refine hQ _ _ rfl rfl rfl rfl (.degrade _ _) fun bytes hb => ?_
      exact absurd hb (quiet_degrade n _ _ bytes)
    | some encoded =>
      refine hQ _ _ rfl rfl rfl rfl (fun _ _ => ⟨slot, ha, hs, hq, sequence, rfl⟩) fun bytes hb => ?_
      cases hb
      exact ⟨sequence, henc⟩

/-- **`grantTransmit`.** -/
theorem ensures_grantTransmit (h : Sound n.store img v) (hpend : n.Pending v) {sequence : Option UInt8}
    {Q : Ram × ControllerResult → Image → Prop}
    (hP : ∀ img' v', Ageing v v' → Stored n.store.sourceDeviceId img' v' → P img')
    (hQ : ∀ n' img' v' result, Aged now n v n' img' v' →
      Serves now (n.usable = true ∧ n.controller.active = true ∧ n.controller.state = .ready) n v n' v' →
      (∀ bytes, result.action = .transmit bytes → ∃ v1 slot, Transmits now v v1 slot n' v' bytes) →
      Q (n', result) img') :
    geometry.Ensures img (n.grantTransmit now sequence) Q P := by
  have hsame : Worked now n v n img v := .refl h
  unfold Ram.grantTransmit
  have hidle : ¬ (n.usable = true ∧ n.controller.active = true ∧ n.controller.state = .ready) → ∀ status,
      Q (n, result status) img := fun hno status =>
    hQ n img v _ ⟨hsame, .refl, hpend⟩ (.of_still hno rfl) fun bytes hb => absurd hb (quiet_result _ bytes)
  split
  · rename_i hno
    exact ensures_pure.2 (hidle (fun hs => by simp [hs.1] at hno) _)
  rename_i husable
  have hu : n.usable = true := by simpa using husable
  have h0 : Sound (n.setState .txPrepare).store img v := h
  split
  · rename_i hno
    exact ensures_pure.2 (hidle (fun hs => by simp [hs.2] at hno) _)
  rename_i hguard
  have hserved : n.usable = true ∧ n.controller.active = true ∧ n.controller.state = .ready :=
    ⟨hu, by simpa using hguard⟩
  have hquiet : ∀ n' img' v' result, Aged now n v n' img' v' → n'.Current now v' → result.Quiet →
      Q (n', result) img' := fun n' img' v' result ha hc hq =>
    hQ n' img' v' result ha (.of_current hserved hc) fun bytes hb => absurd hb (hq bytes)
  refine ensures_bind (ensures_serviceLifetime now h0 hu
    (.of_state RuntimeState.noConfusion RuntimeState.noConfusion) hP ?_)
  intro n1 img1 v1 hlived
  have hprepare : Worked now n v (n.setState .txPrepare) img v := hsame.follow rfl rfl rfl rfl
  have h1 : Aged now n v n1 img1 v1 :=
    ⟨hprepare.trans hlived.aged.toWorked, hlived.aged.ageing, hlived.aged.pending⟩
  simp only [Bool.not_true, Bool.false_eq_true, if_false]
  split
  · exact ensures_pure.2 (hquiet n1 img1 v1 _ h1 hlived.current quiet_receiveResult)
  split
  · exact ensures_pure.2 (hquiet _ img1 v1 _ (h1.follow rfl rfl rfl rfl (.degrade _ _)) hlived.current
      (quiet_degrade n1 _ _))
  rename_i hhead
  -- the active slot is the first entry of the index
  obtain ⟨slot, ha, hs, hhd⟩ : ∃ slot : SlotIndex, n1.controller.active = true ∧
      n1.controller.activeSlot = slot.val ∧ n1.store.queuedAt 0 = some slot := by
    simp only [Bool.not_eq_true', Bool.not_eq_false] at hhead
    unfold Ram.headStillAuthoritative at hhead
    split at hhead
    · rename_i slot record hq0 hrec
      obtain ⟨hslot, -⟩ := Bool.and_eq_true_iff.1 hhead
      refine ⟨slot, ?_, (beq_iff_eq.1 hslot).symm, hq0⟩
      by_contra hna
      rw [Ram.record, if_neg hna] at hrec
      cases hrec
    · cases hhead
  have hleast := (h1.sound.indexed.head_le hhd).2
  rw [h1.sound.records] at hleast
  have hP1 : ∀ img' v', Ageing v1 v' → Stored n1.store.sourceDeviceId img' v' → P img' := by
    intro img' v' hag hst
    rw [h1.device] at hst
    exact hP img' v' (h1.ageing.trans hag) hst
  refine ensures_bind (ensures_policyArmAttempt h1.sound (usable_iff.1 hlived.usable).2.2.2 hP1 ?_)
  rintro s2 img2 p2 v2 attempt ⟨p', v', hround, hruntime, hcase⟩ hsound2 hsrc2
  have hround' : Move now (n1.controller.policy.runtime, v1) (p2.runtime, v') := hruntime ▸ .round hround
  rcases hcase with ⟨rfl, hna⟩ | ⟨hlt, hq, hatt, -, halive, rfl, rfl, hready⟩
  · -- no attempt is armed
    have h2 : Worked now n v ⟨s2, { n1.controller with policy := p2 }⟩ img2 v2 :=
      h1.toWorked.trans ⟨hsound2, hsrc2, .single hround', rfl, rfl⟩
    have hag := h1.ageing.trans hround.ageing
    have hcurrent2 : (⟨s2, { n1.controller with policy := p2 }⟩ : Ram).Current now v2 := fun i hq => by
      rw [show p2.runtime = p'.runtime from hruntime]
      exact hround.current hq
    have hpend2 : ∀ status receive, geometry.Ensures img2
        (pure ((⟨s2, { n1.controller with policy := p2 }⟩ : Ram).degrade status receive)) Q P := fun status receive =>
      ensures_pure.2 (hquiet _ img2 v2 _ ⟨h2.follow rfl rfl rfl rfl, hag, .degrade status receive⟩ hcurrent2
        (quiet_degrade n status receive))
    cases attempt with
    | armed => exact absurd rfl hna
    | expired =>
      refine ensures_pure.2 (hquiet _ img2 v2 _ ⟨h2.follow rfl rfl rfl rfl, hag, ?_⟩ hcurrent2 quiet_receiveResult)
      exact .of_state RuntimeState.noConfusion RuntimeState.noConfusion
    | exhausted =>
      refine ensures_bind (ensures_failActive h2.sound hcurrent2 (fun img' v' ha' hst => ?_) ?_ ?_)
      · rw [h2.device] at hst
        exact hP img' v' (hag.trans ha') hst
      · simp only [Bool.false_eq_true, if_false]
        exact hpend2 _ _
      · intro n3 img3 v3 haged
        simp only [if_true]
        exact ensures_pure.2 (hquiet n3 img3 v3 _ ⟨h2.trans haged.toWorked, hag.trans haged.ageing, haged.pending⟩
          (haged.current hcurrent2) quiet_receiveResult)
    | notQueued => exact hpend2 _ _
    | invalidSlot => exact hpend2 _ _
    | storageFailure => exact hpend2 _ _
    | degraded => exact hpend2 _ _
  · -- the attempt is armed
    have hslot : (⟨n1.controller.activeSlot, hlt⟩ : SlotIndex) = slot := Fin.ext hs
    rw [hslot] at hq hatt halive hsound2
    have he : Evolves (v'.records slot) (NodeRecord.arm (v'.records slot)) := .armed hq hatt
    have hnew : (v'.put slot (NodeRecord.arm (v'.records slot))).records slot = NodeRecord.arm (v'.records slot) :=
      View.put_apply _ _ _
    have hqnew : ((v'.put slot (NodeRecord.arm (v'.records slot))).records slot).state = .queued := by
      rw [hnew]
      exact hq
    have hag := h1.ageing.trans hround.ageing
    have hag2 : Ageing v1 (v'.put slot (NodeRecord.arm (v'.records slot))) :=
      hround.ageing.put he (owned_of_queued hq)
    have ha2 : (⟨s2, { n1.controller with policy := p2 }⟩ : Ram).controller.active = true := ha
    refine ensures_pure.2 (transmit_cases (Q := fun r => Q r img2) hsound2 ha2 hs hqnew ?_)
    intro n3 result hstore hpolicy hsource hdest hpend3 hbytes
    have h3 : Worked now n1 v1 n3 img2 (v'.put slot (NodeRecord.arm (v'.records slot))) := by
      refine ⟨by rw [hstore]; exact hsound2, by rw [hstore]; exact hsrc2, ?_, hsource, hdest⟩
      rw [hpolicy]
      refine (Relation.ReflTransGen.single hround').tail (.put hq ?_ he ?_ fun _ => rfl)
      · rw [hruntime]
        exact hround.current hq
      · rw [show (NodeRecord.arm (v'.records slot)).state = .queued from hq]
        exact NodeState.noConfusion
    refine hQ n3 img2 _ result ⟨h1.toWorked.trans h3, h1.ageing.trans hag2, hpend3⟩
      (.of_current hserved (h3.current hlived.current)) fun bytes hb => ?_
    refine ⟨v', slot, hag, ⟨hq, hatt⟩, rfl, fun j hj => ?_, ?_, ?_, ?_⟩
    · exact least_of_ageing hag2 hleast hqnew hj
    · exact hbytes bytes hb
    · rw [hpolicy, hruntime]
      exact (hround.serviced slot).baseline hq
    · rw [hpolicy, hnew]
      exact halive

/-! ### Reports about a transmission -/

theorem ensures_duringState (h : Sound n.store img v) (hpend : n.Pending v) {state : RuntimeState}
    {next : Ram → StorageM (Ram × ControllerResult)} {Q : Ram × ControllerResult → Image → Prop}
    (hP : ∀ img' v', Ageing v v' → Stored n.store.sourceDeviceId img' v' → P img')
    (hQ : ∀ n' img' v' result, Aged now n v n' img' v' →
      Serves now (n.usable = true ∧ n.controller.state = state) n v n' v' → result.Quiet → Q (n', result) img')
    (hnext : ∀ n1 img1 v1, Aged now n v n1 img1 v1 → n1.Current now v1 → n1.usable = true →
      n1.controller.state = state → (n.usable = true ∧ n.controller.state = state) →
      geometry.Ensures img1 (next n1) Q P) :
    geometry.Ensures img (n.duringState state now next) Q P := by
  unfold Ram.duringState
  split
  · rename_i hno
    have hno : ¬ (n.usable = true ∧ n.controller.state = state) := fun hs => by simp [hs.1, hs.2] at hno
    exact ensures_pure.2 (hQ n img v _ ⟨.refl h, .refl, hpend⟩ (.of_still hno rfl) (quiet_result _))
  rename_i hguard
  obtain ⟨hu, hstate⟩ : n.usable = true ∧ n.controller.state = state := by simpa using hguard
  refine ensures_bind (ensures_serviceLifetime now h hu hpend hP ?_)
  intro n1 img1 v1 hlived
  simp only [Bool.not_true, Bool.false_eq_true, if_false]
  split
  · exact ensures_pure.2 (hQ n1 img1 v1 _ hlived.aged (.of_current ⟨hu, hstate⟩ hlived.current) quiet_receiveResult)
  · rename_i hne
    have hsame := hlived.state.resolve_right hne
    exact hnext n1 img1 v1 hlived.aged hlived.current hlived.usable (hsame.trans hstate) ⟨hu, hstate⟩

theorem ensures_txStarted (h : Sound n.store img v) (hpend : n.Pending v)
    {Q : Ram × ControllerResult → Image → Prop}
    (hP : ∀ img' v', Ageing v v' → Stored n.store.sourceDeviceId img' v' → P img')
    (hQ : ∀ n' img' v' result, Aged now n v n' img' v' →
      Serves now (n.usable = true ∧ n.controller.state = .tx) n v n' v' → result.Quiet → Q (n', result) img') :
    geometry.Ensures img (n.txStarted now) Q P :=
  ensures_duringState h hpend hP hQ fun n1 img1 v1 h1 hcurrent _ _ hs =>
    ensures_pure.2 (hQ n1 img1 v1 _ h1 (.of_current hs hcurrent) (quiet_result _))

theorem ensures_txStartFailed (h : Sound n.store img v) (hpend : n.Pending v) {jitter : UInt16}
    {Q : Ram × ControllerResult → Image → Prop}
    (hP : ∀ img' v', Ageing v v' → Stored n.store.sourceDeviceId img' v' → P img')
    (hQ : ∀ n' img' v' result, Aged now n v n' img' v' →
      Serves now (n.usable = true ∧ n.controller.state = .tx) n v n' v' → result.Quiet → Q (n', result) img') :
    geometry.Ensures img (n.txStartFailed now jitter) Q P := by
  refine ensures_duringState h hpend hP hQ fun n1 img1 v1 h1 hcurrent _ _ hs => ?_
  refine ensures_failedAttempt h1.sound hcurrent (fun img' v' ha hst => ?_) fun n' img' v' result ha hq => ?_
  · rw [h1.device] at hst
    exact hP img' v' (h1.ageing.trans ha) hst
  · exact hQ n' img' v' result (h1.trans ha) (.of_current hs (ha.current hcurrent)) hq

theorem ensures_txCompleted (h : Sound n.store img v) (hpend : n.Pending v)
    {Q : Ram × ControllerResult → Image → Prop}
    (hP : ∀ img' v', Ageing v v' → Stored n.store.sourceDeviceId img' v' → P img')
    (hQ : ∀ n' img' v' result, Aged now n v n' img' v' →
      Serves now (n.usable = true ∧ n.controller.state = .tx) n v n' v' → result.Quiet → Q (n', result) img') :
    geometry.Ensures img (n.txCompleted now) Q P := by
  refine ensures_duringState h hpend hP hQ fun n1 img1 v1 h1 hcurrent _ hstate hs => ?_
  refine ensures_pure.2 (hQ _ img1 v1 _ (h1.follow rfl rfl rfl rfl fun hd _ => ?_) (.of_current hs hcurrent)
    quiet_receiveResult)
  obtain ⟨slot, hc⟩ := h1.pending hd (Or.inl hstate)
  exact ⟨slot, hc.active, hc.activeSlot, hc.queued, hc.event⟩

/-- **`admissionCandidate`.** -/
theorem ensures_admissionCandidate (h : Sound n.store img v) (hpend : n.Pending v) {bytes : Bytes} {jitter : UInt16}
    {Q : Ram × ControllerResult → Image → Prop}
    (hP : ∀ img' v', Answers n.controller.source n.controller.destination bytes v v' →
      Stored n.store.sourceDeviceId img' v' → P img')
    (hQ : ∀ n' img' v' result, Worked now n v n' img' v' →
      Answers n.controller.source n.controller.destination bytes v v' →
      Serves now (n.usable = true ∧ n.controller.state = .waitAdmission) n v n' v' → n'.Pending v' → result.Quiet →
      Q (n', result) img') :
    geometry.Ensures img (n.admissionCandidate bytes now jitter) Q P := by
  have hPa : ∀ img' v', Ageing v v' → Stored n.store.sourceDeviceId img' v' → P img' := fun img' v' ha hst =>
    hP img' v' (.aged ha) hst
  refine ensures_duringState h hpend hPa
    (fun n' img' v' result ha hserves hq => hQ n' img' v' result ha.toWorked (.aged ha.ageing) hserves ha.pending hq)
    fun n1 img1 v1 h1 hcurrent hu hstate hs => ?_
  have hQa : ∀ n' img' v' result, Aged now n1 v1 n' img' v' → result.Quiet → Q (n', result) img' :=
    fun n' img' v' result ha hq => hQ n' img' v' result (h1.trans ha).toWorked (.aged (h1.trans ha).ageing)
      (.of_current hs (ha.current hcurrent)) ha.pending hq
  have hsame : Worked now n1 v1 n1 img1 v1 := .refl h1.sound
  have hP1 : ∀ img' v', Ageing v1 v' → Stored n1.store.sourceDeviceId img' v' → P img' := by
    intro img' v' ha hst
    rw [h1.device] at hst
    exact hPa img' v' (h1.ageing.trans ha) hst
  have hstay : ∀ n' status, n' = n1.degrade status true → geometry.Ensures img1 (pure n') Q P := by
    rintro n' status rfl
    exact ensures_pure.2 (hQa _ img1 v1 _ ⟨hsame.follow rfl rfl rfl rfl, .refl, .degrade _ _⟩
      (quiet_degrade n1 _ _))
  have h11 : Aged now n1 v1 n1 img1 v1 := ⟨hsame, .refl, h1.pending⟩
  split
  · exact ensures_pure.2 (hQa n1 img1 v1 _ h11 quiet_receiveResult)
  rename_i response hdec
  split
  · exact ensures_pure.2 (hQa n1 img1 v1 _ h11 quiet_receiveResult)
  rename_i hmatch
  have hmatch : matchesEvent response n1.controller.attemptEvent = true := by
    simp only [Bool.or_eq_true, Bool.not_eq_true', not_or, Bool.not_eq_false] at hmatch
    exact hmatch.2
  obtain ⟨slot, hc⟩ := h1.pending (usable_iff.1 hu).2.1 (Or.inr hstate)
  have hfail := ensures_failOrDegrade h1.sound hcurrent hP1 hQa
  unfold Ram.answered
  split
  · -- ADMITTED: the record is released
    rename_i hstatus
    obtain ⟨sequence, hevent⟩ := hc.event
    have hby : AdmittedBy n.controller.source n.controller.destination bytes (v1.records slot) := by
      rw [hevent, h1.source, h1.destination] at hmatch
      exact ⟨response, sequence, hdec, hstatus, hmatch⟩
    rw [hc.activeSlot]
    refine ensures_mutated (ensures_releaseQueued h1.sound slot) hc.queued
      (fun img' hst => hP1 img' v1 .refl hst) (fun img' hst => ?_) ?_
    · rw [h1.device] at hst
      exact hP img' _ (.released h1.ageing hc.queued hby) hst
    · intro s' img' hsound hsrc
      simp only [ne_eq, not_true_eq_false, if_false]
      have he : Evolves (v1.records slot) (NodeRecord.freed (v1.records slot)) := .freed (owned_of_queued hc.queued)
      set n' : Ram := ((⟨s', n1.controller⟩ : Ram).setState .released).clearAttempt
      have h2 : Worked now n1 v1 n' img' (v1.put slot (NodeRecord.freed (v1.records slot))) :=
        .mutate hsound hsrc hc.queued hcurrent he NodeState.noConfusion (fun hq => (by cases hq)) rfl rfl rfl
      exact ensures_pure.2 (hQ n' img' _ _ (h1.toWorked.trans h2) (.released h1.ageing hc.queued hby)
        (.of_current hs (h2.current hcurrent)) (.of_state RuntimeState.noConfusion RuntimeState.noConfusion)
        quiet_receiveResult)
  · exact ensures_failedAttempt h1.sound hcurrent hP1 hQa
  · exact hfail
  · exact hfail
  · exact hfail

/-! ### Reclamation -/

theorem Ram.Pending.reclaiming {v' : View} {n' : Ram} (h : n.Pending v) (hr : Reclaiming v v')
    (hc : n'.controller = n.controller) : n'.Pending v' := by
  intro hd hstate
  rw [hc] at hd hstate
  obtain ⟨slot, hslot⟩ := h hd hstate
  have hsame := hr.queued hslot.queued
  refine ⟨slot, ?_, ?_, ?_, ?_⟩
  · rw [hc, hslot.active]
  · rw [hc, hslot.activeSlot]
  · rw [hsame, hslot.queued]
  · rw [hc, hsame]
    exact hslot.event

/-- One terminal record, freed behind the controller or through it. -/
theorem ensures_reclaimAt (h : Sound n.store img v) (hpend : n.Pending v) (slot : ℕ) {α : Type}
    {f : Store × MutationStatus → StorageM α} {Q : α → Image → Prop}
    (hP : ∀ img' v', Reclaiming v v' → Stored n.store.sourceDeviceId img' v' → P img')
    (hno : ∀ mutation, mutation ≠ .ok → (∀ hs : slot < 8, ¬ Terminal (v.records ⟨slot, hs⟩)) →
      geometry.Ensures img (f (n.store, mutation)) Q P)
    (hQ : ∀ s' img' v', Reclaimed n v ⟨s', n.controller⟩ img' v' → geometry.Ensures img' (f (s', .ok)) Q P) :
    geometry.Ensures img (n.store.reclaim slot >>= f) Q P := by
  refine ensures_bind (ensures_mono ?_ ?_ (ensures_reclaim h slot))
  · rintro ⟨s', mutation⟩ img' (⟨hne, rfl, rfl, hnt⟩ | ⟨rfl, hs, ht, hsound, hsrc⟩)
    · exact hno mutation hne hnt
    · have hr : Reclaiming v (v.put ⟨slot, hs⟩ (NodeRecord.freed (v.records ⟨slot, hs⟩))) :=
        .single ⟨⟨slot, hs⟩, _, ⟨ht, rfl⟩, rfl⟩
      exact hQ s' img' _ ⟨hsound, hsrc, rfl, rfl, rfl, hr, hpend.reclaiming hr rfl⟩
  · rintro img' (hst | ⟨hs, ht, hst⟩)
    · exact hP img' v .refl hst
    · exact hP img' _ (.single ⟨⟨slot, hs⟩, _, ⟨ht, rfl⟩, rfl⟩) hst

theorem ensures_reclaimTerminal (h : Sound n.store img v) (hpend : n.Pending v)
    {Q : Ram × ControllerResult → Image → Prop}
    (hP : ∀ img' v', Reclaiming v v' → Stored n.store.sourceDeviceId img' v' → P img')
    (hQ : ∀ n' img' v' result, Reclaimed n v n' img' v' → result.Quiet → Q (n', result) img') :
    geometry.Ensures img n.reclaimTerminal Q P := by
  unfold Ram.reclaimTerminal
  split
  · exact ensures_pure.2 (hQ n img v _ (.refl h hpend) (quiet_result _))
  rename_i hguard
  have hstate : n.controller.state = .failed ∨ n.controller.state = .expired := by
    simp only [Bool.or_eq_true, not_or, Bool.and_eq_true, decide_eq_true_eq, not_and] at hguard
    by_contra hc
    rw [not_or] at hc
    exact hguard.2 hc.1 hc.2
  refine ensures_reclaimAt h hpend _ hP (fun mutation hne _ => ?_) fun s' img' v' hr => ?_
  · simp only [ne_eq, hne, not_false_eq_true, if_true]
    exact ensures_pure.2 (hQ _ img v _ ⟨h, rfl, rfl, rfl, rfl, .refl, .degrade _ _⟩ (quiet_degrade n _ _))
  · simp only [ne_eq, not_true_eq_false, if_false]
    refine ensures_pure.2 (hQ _ img' v' _ ⟨hr.sound, hr.device, rfl, rfl, rfl, hr.reclaiming, .of_state ?_ ?_⟩
      (quiet_result _))
    · rcases hstate with he | he <;> exact fun hc => (by cases he.symm.trans hc)
    · rcases hstate with he | he <;> exact fun hc => (by cases he.symm.trans hc)

theorem ensures_reclaimSlots (h : Sound n.store img v) (hpend : n.Pending v) {withController : Bool}
    {slots : List SlotIndex} {Q : Ram × Bool → Image → Prop}
    (hP : ∀ img' v', Reclaiming v v' → Stored n.store.sourceDeviceId img' v' → P img')
    (hQ : ∀ n' img' v' reclaimed, Reclaimed n v n' img' v' → (withController = false → reclaimed = true) →
      Q (n', reclaimed) img') :
    geometry.Ensures img (n.reclaimSlots withController slots) Q P := by
  induction slots generalizing n img v with
  | nil =>
    unfold Ram.reclaimSlots
    exact ensures_pure.2 (hQ n img v true (.refl h hpend) fun _ => rfl)
  | cons slot rest ih =>
    unfold Ram.reclaimSlots
    -- the rest of the loop, from what the slot has left
    have hrest : ∀ n1 img1 v1, Reclaimed n v n1 img1 v1 →
        geometry.Ensures img1 (n1.reclaimSlots withController rest) Q P := by
      intro n1 img1 v1 h1
      refine ih h1.sound h1.pending (fun img' v' hr hst => ?_) fun n' img' v' b hr hb => ?_
      · rw [h1.device] at hst
        exact hP img' v' (h1.reclaiming.trans hr) hst
      · exact hQ n' img' v' b (h1.trans hr) hb
    split
    · exact hrest n img v (.refl h hpend)
    rename_i hterm
    split
    · rename_i hactive
      refine ensures_bind (ensures_reclaimTerminal h hpend hP fun n1 img1 v1 result h1 _ => ?_)
      dsimp only
      split
      · refine ensures_pure.2 (hQ n1 img1 v1 false h1 fun hw => ?_)
        rw [hw] at hactive
        cases hactive
      · exact hrest n1 img1 v1 h1
    · refine ensures_reclaimAt h hpend _ hP (fun mutation _ hnt => ?_) fun s' img' v' hr => ?_
      · refine absurd ?_ (hnt slot.isLt)
        simpa [Ram.isTerminalRecord, h.recordAt, Terminal, or_iff_not_imp_left] using hterm
      · simp only [ne_eq, not_true_eq_false, if_false]
        exact hrest _ img' v' hr

theorem ensures_reclaimTerminals (h : Sound n.store img v) (hpend : n.Pending v)
    {withController : Bool} {Q : Ram × Bool → Image → Prop}
    (hP : ∀ img' v', Reclaiming v v' → Stored n.store.sourceDeviceId img' v' → P img')
    (hQ : ∀ n' img' v' reclaimed, Reclaimed n v n' img' v' → (withController = false → reclaimed = true) →
      Q (n', reclaimed) img') :
    geometry.Ensures img (n.reclaimTerminals withController) Q P := by
  unfold Ram.reclaimTerminals
  rw [if_neg (by simp [h.healthy])]
  exact ensures_reclaimSlots h hpend hP hQ

/-! Whatever the storage answers, reclamation changes neither the state of the controller nor the policy. -/

theorem returns_reclaimTerminal {ops : List StorageOp} {r : Ram × ControllerResult}
    (h : Prog.Returns (fun _ _ => True) n.reclaimTerminal ops r) :
    r.1.controller.state = n.controller.state ∧ r.1.controller.policy = n.controller.policy := by
  unfold Ram.reclaimTerminal at h
  split at h
  · rw [(Prog.returns_pure.1 h).2]
    exact ⟨rfl, rfl⟩
  obtain ⟨⟨store, mutation⟩, _, _, -, h, -⟩ := Prog.returns_bind h
  dsimp only at h
  split at h <;> rw [(Prog.returns_pure.1 h).2] <;> exact ⟨rfl, rfl⟩

theorem returns_reclaimSlots {withController : Bool} {slots : List SlotIndex} {ops : List StorageOp} {r : Ram × Bool}
    (h : Prog.Returns (fun _ _ => True) (n.reclaimSlots withController slots) ops r) :
    r.1.controller.state = n.controller.state ∧ r.1.controller.policy = n.controller.policy := by
  induction slots generalizing n ops with
  | nil =>
    rw [(Prog.returns_pure.1 h).2]
    exact ⟨rfl, rfl⟩
  | cons slot slots ih =>
    unfold Ram.reclaimSlots at h
    split at h
    · exact ih h
    split at h
    · obtain ⟨⟨n1, reclaimed⟩, _, _, hreclaim, h, -⟩ := Prog.returns_bind h
      obtain ⟨hstate, hpolicy⟩ := returns_reclaimTerminal hreclaim
      dsimp only at h
      split at h
      · rw [(Prog.returns_pure.1 h).2]
        exact ⟨hstate, hpolicy⟩
      · obtain ⟨hstate', hpolicy'⟩ := ih h
        exact ⟨hstate'.trans hstate, hpolicy'.trans hpolicy⟩
    · obtain ⟨⟨store, mutation⟩, _, _, -, h, -⟩ := Prog.returns_bind h
      dsimp only at h
      split at h
      · rw [(Prog.returns_pure.1 h).2]
        exact ⟨rfl, rfl⟩
      · obtain ⟨hstate, hpolicy⟩ := ih h
        exact ⟨hstate, hpolicy⟩

theorem returns_reclaimTerminals {withController : Bool} {ops : List StorageOp} {r : Ram × Bool}
    (h : Prog.Returns (fun _ _ => True) (n.reclaimTerminals withController) ops r) :
    r.1.controller.state = n.controller.state ∧ r.1.controller.policy = n.controller.policy := by
  unfold Ram.reclaimTerminals at h
  split at h
  · rw [(Prog.returns_pure.1 h).2]
    exact ⟨rfl, rfl⟩
  · exact returns_reclaimSlots h

end Calls

end Redline.Node
