import Redline.Node.Lifecycle

/-!
# The Node as a machine

RAM and flash together.  An action is a call at some time, with an optional power cut in it, or a loss of
power between two calls; a cut loses the RAM.  A Node that has been initialised is `Alive` with a view, and
every action takes the view one `Turn` further: records evolve, an Event is created, or the record with the
least identity is armed and transmitted (`Alive.step`).  Before that it is `Asleep` (`Asleep.step`).
-/

namespace Redline.Node

open Redline.Wire Redline.Records Redline.Lib

/-! ### Calls and actions -/

/-- The calls on a Node.  `boot` is the start of the firmware; the calls it is made of can be made one by one. -/
inductive Call
  | recoverStore (entropy : Option UInt32)
  | recoverController
  | boot (entropy : Option UInt32)
  | enqueue (input : EventInput)
  | trackEnqueued (slot : ℕ)
  | create (input : EventInput)
  | service (synchronousWork : Bool) (jitter : UInt16)
  | grantTransmit (sequence : Option UInt8)
  | txStarted
  | txStartFailed (jitter : UInt16)
  | txCompleted
  | admissionCandidate (bytes : Bytes) (jitter : UInt16)
  | reclaimTerminal
  | reclaimTerminals (withController : Bool)

/-- The RAM after a call, and what the radio is asked to do. -/
def Call.run (device hub : UInt8) (now : UInt32) (n : Ram) : Call → StorageM (Ram × RadioAction)
  | .recoverStore entropy => do
    let (store, _) ← Store.recover entropy device
    return ({ n with store }, .none)
  | .recoverController => do
    let (n, r) ← n.recover device hub now
    return (n, r.action)
  | .boot entropy => do
    let (n, r) ← Ram.boot device hub entropy now
    return (n, r.action)
  | .enqueue input => do
    let (store, _) ← n.store.enqueue input
    return ({ n with store }, .none)
  | .trackEnqueued slot => return ((n.trackEnqueued slot now).1, .none)
  | .create input => do
    let (n, _) ← n.create input now
    return (n, .none)
  | .service synchronousWork jitter => do
    let (n, r) ← n.service now synchronousWork jitter
    return (n, r.action)
  | .grantTransmit sequence => do
    let (n, r) ← n.grantTransmit now sequence
    return (n, r.action)
  | .txStarted => do
    let (n, r) ← n.txStarted now
    return (n, r.action)
  | .txStartFailed jitter => do
    let (n, r) ← n.txStartFailed now jitter
    return (n, r.action)
  | .txCompleted => do
    let (n, r) ← n.txCompleted now
    return (n, r.action)
  | .admissionCandidate bytes jitter => do
    let (n, r) ← n.admissionCandidate bytes now jitter
    return (n, r.action)
  | .reclaimTerminal => do
    let (n, r) ← n.reclaimTerminal
    return (n, r.action)
  | .reclaimTerminals withController => do
    let (n, _) ← n.reclaimTerminals withController
    return (n, .none)

/-- A call at a time, with an optional power cut in it; or power is lost between two calls. -/
inductive Action
  | call (call : Call) (now : UInt32) (cut : Option (PowerCut Bytes))
  | powerLoss

/-- The Event a call is to create. -/
def Action.input? : Action → Option EventInput
  | .call (.enqueue input) _ _ => some input
  | .call (.create input) _ _ => some input
  | _ => none

/-- The bytes a call has received. -/
def Action.received? : Action → Option Bytes
  | .call (.admissionCandidate bytes _) _ _ => some bytes
  | _ => none

structure Machine where
  ram : Ram
  image : Image

/-- Power is off: only the image is left. -/
def Machine.off (img : Image) : Machine := ⟨.initial, img⟩

/-- One action, and what the radio is asked to do. -/
def Machine.step (device hub : UInt8) (m : Machine) : Action → Machine × RadioAction
  | .powerLoss => (.off m.image, .none)
  | .call call now cut =>
    match exec geometry.flash geometry.undecodable (call.run device hub now m.ram) cut (Disk.clean m.image) with
    | .done r d => (⟨r.1, d.data⟩, r.2)
    | .lost img => (.off img, .none)

/-- An action with the Node before and after it. -/
structure Entry where
  before : Machine
  action : Action
  after : Machine
  radio : RadioAction

/-- A Node with everything that has happened to it. -/
structure Chronicle where
  machine : Machine
  history : List Entry

def Chronicle.step (device hub : UInt8) (c : Chronicle) (a : Action) : Chronicle :=
  let r := c.machine.step device hub a
  ⟨r.1, c.history ++ [⟨c.machine, a, r.1, r.2⟩]⟩

/-- The history of a Node that starts without power on an image. -/
def chronicle (device hub : UInt8) (img : Image) (actions : List Action) : Chronicle :=
  actions.foldl (Chronicle.step device hub) ⟨.off img, []⟩

/-! ### A living Node -/

/-- The endpoints of the controller are the ones of the Node, or not set. -/
def Configured (device hub : UInt8) (n : Ram) : Prop :=
  n.controller.source = device ∧ n.controller.destination = hub ∨
    n.controller.source = 0 ∧ n.controller.destination = 0

/-- The image stands for the view, and a store in service is sound. -/
structure Alive (device hub : UInt8) (m : Machine) (v : View) : Prop where
  stored : Stored device m.image v
  sound : m.ram.store.healthy = true → Sound m.ram.store m.image v
  source : m.ram.store.healthy = true → m.ram.store.sourceDeviceId = device
  pending : m.ram.Pending v
  configured : Configured device hub m.ram

/-- The image owns no Event, and the store is out of service. -/
structure Asleep (device hub : UInt8) (m : Machine) : Prop where
  dormant : Dormant m.image
  unhealthy : m.ram.store.healthy = false
  pending : ∀ v, m.ram.Pending v
  configured : Configured device hub m.ram

def RadioAction.Quiet (radio : RadioAction) : Prop := ∀ bytes, radio ≠ .transmit bytes

/-- **What an action does to a view.**  Records evolve, and only a matching ADMITTED response frees a QUEUED one;
or the record with the least identity is armed and goes on the air; or an Event is created. -/
inductive Turn (device hub : UInt8) (a : Action) (v : View) : View → RadioAction → Prop
  | evolved {v' : View} {radio : RadioAction} (h : Evolving v v') (hquiet : radio.Quiet)
      (hfree : ∀ i, (v.records i).state = .queued → ¬ (v'.records i).Owned →
        ∃ bytes, a.received? = some bytes ∧ AdmittedBy device hub bytes (v.records i)) : Turn device hub a v v' radio
  | transmitted {v1 : View} {slot : SlotIndex} {sequence : UInt8} {bytes : Bytes} (h : Ageing v v1)
      (harm : Armable (v1.records slot))
      (hleast : ∀ j, (v1.records j).state = .queued → (v1.records slot).key ≤ (v1.records j).key)
      (hbytes : encodeEvent (Ram.eventOf device hub sequence (v1.records slot)) maxPacketSize = some bytes) :
      Turn device hub a v (v1.put slot (NodeRecord.arm (v1.records slot))) (.transmit bytes)
  | created {input : EventInput} {slot : SlotIndex} {identity : Identity} {radio : RadioAction}
      (hinput : a.input? = some input) (hvalid : Store.validInput input = true)
      (hslot : (v.records slot).state = .free) (hfloor : v.floor ≤ key identity.epoch identity.id)
      (hquiet : radio.Quiet) : Turn device hub a v (v.created slot identity input) radio

/-! ### Turns -/

section Turns

variable {device hub : UInt8} {a : Action} {v v' v'' : View} {radio : RadioAction}

theorem Turn.of_reclaiming (hr : Reclaiming v v') (ha : Ageing v' v'') (hq : radio.Quiet) :
    Turn device hub a v v'' radio := by
  refine .evolved (hr.evolving.trans ha.evolving) hq fun i hi hno => absurd ?_ hno
  have hsame := hr.queued hi
  refine ha.owned (owned_of_queued ?_)
  rw [hsame, hi]

theorem Turn.of_ageing (ha : Ageing v v') (hq : radio.Quiet) : Turn device hub a v v' radio :=
  .of_reclaiming .refl ha hq

theorem Turn.of_creation {input : EventInput} (hc : Creation input v v') (hinput : a.input? = some input)
    (hq : radio.Quiet) : Turn device hub a v v' radio := by
  cases hc with
  | refused => exact .of_ageing .refl hq
  | created hvalid hslot hfloor => exact .created hinput hvalid hslot hfloor hq

/-- An ADMITTED response names its endpoints. -/
theorem AdmittedBy.source_ne_zero {source destination : UInt8} {bytes : Bytes} {r : NodeRecord}
    (h : AdmittedBy source destination bytes r) : source ≠ 0 := by
  obtain ⟨response, sequence, -, -, hm⟩ := h
  simp only [matchesEvent, isValidAdmissionResponse, hasValidEndpoints, Bool.and_eq_true, bne_iff_ne, beq_iff_eq,
    Ram.eventOf] at hm
  rw [← hm.1.1.1.1.2]
  exact hm.1.1.1.1.1.1.1.1.1.1.2

theorem AdmittedBy.congr {source destination : UInt8} {bytes : Bytes} {r r' : NodeRecord}
    (h : AdmittedBy source destination bytes r') (hs : SameEvent r r') : AdmittedBy source destination bytes r := by
  obtain ⟨response, sequence, hdec, hst, hm⟩ := h
  rw [eventOf_congr hs] at hm
  exact ⟨response, sequence, hdec, hst, hm⟩

theorem Turn.of_answers {n : Ram} (hn : Configured device hub n) {bytes : Bytes} (hbytes : a.received? = some bytes)
    (h : Answers n.controller.source n.controller.destination bytes v v') (hq : radio.Quiet) :
    Turn device hub a v v' radio := by
  cases h with
  | aged ha => exact .of_ageing ha hq
  | @released v1 slot ha hqueued hby =>
    have he : Evolves (v1.records slot) (NodeRecord.freed (v1.records slot)) := .freed (owned_of_queued hqueued)
    refine .evolved (ha.evolving.tail ⟨slot, _, he, rfl⟩) hq fun i hi hno => ⟨bytes, hbytes, ?_⟩
    by_cases his : i = slot
    · subst his
      rcases hn with ⟨hs, hd⟩ | ⟨hs, -⟩
      · rw [hs, hd] at hby
        exact hby.congr (ha.evolving.inherits i (owned_of_queued hqueued)).event
      · exact absurd hs hby.source_ne_zero
    · rw [View.put_apply_ne _ his] at hno
      exact absurd (ha.owned (owned_of_queued hi)) hno

theorem Turn.of_transmits {n : Ram} (hn : Configured device hub n) {now : UInt32} {v1 : View} {slot : SlotIndex}
    {bytes : Bytes} (h : Transmits now v v1 slot n v' bytes) : Turn device hub a v v' (.transmit bytes) := by
  obtain ⟨hag, harm, rfl, hleast, ⟨sequence, hbytes⟩, -, -⟩ := h
  have hsame : SameEvent (v1.records slot) ((v1.put slot (NodeRecord.arm (v1.records slot))).records slot) := by
    rw [View.put_apply]
    exact ⟨rfl, rfl, rfl, rfl, rfl, rfl, rfl⟩
  rw [eventOf_congr hsame] at hbytes
  obtain ⟨hs, hd⟩ : n.controller.source = device ∧ n.controller.destination = hub := by
    refine hn.resolve_right fun hz => ?_
    have hv := (isValidEvent_iff.1 (packet_of_encodeEvent hbytes).1).1
    simp [Ram.eventOf, hz.1, hasValidEndpoints] at hv
  rw [hs, hd] at hbytes
  refine .transmitted hag harm (fun j hj => ?_) hbytes
  have hkey : ∀ i, ((v1.put slot (NodeRecord.arm (v1.records slot))).records i).key = (v1.records i).key ∧
      ((v1.put slot (NodeRecord.arm (v1.records slot))).records i).state = (v1.records i).state := by
    intro i
    by_cases his : i = slot
    · subst his
      rw [View.put_apply]
      exact ⟨rfl, rfl⟩
    · rw [View.put_apply_ne _ his]
      exact ⟨rfl, rfl⟩
  have := hleast j (by rw [(hkey j).2, hj])
  rwa [(hkey slot).1, (hkey j).1] at this

/-- Only a matching ADMITTED response frees a QUEUED record. -/
theorem Turn.released (h : Turn device hub a v v' radio) {i : SlotIndex} (hi : (v.records i).state = .queued)
    (hno : ¬ (v'.records i).Owned) : ∃ bytes, a.received? = some bytes ∧ AdmittedBy device hub bytes (v.records i) := by
  cases h with
  | evolved _ _ hfree => exact hfree i hi hno
  | @transmitted v1 slot _ _ hag harm _ _ =>
    exact absurd ((hag.put (.armed harm.1 harm.2) (owned_of_queued harm.1)).owned (owned_of_queued hi)) hno
  | @created input slot identity _ _ _ hslot _ _ =>
    have his : i ≠ slot := by
      rintro rfl
      rw [hi] at hslot
      cases hslot
    have hold : (v.created slot identity input).records i = v.records i := Function.update_of_ne his _ _
    rw [hold] at hno
    exact absurd (owned_of_queued hi) hno

end Turns

/-! ### One call of a living Node -/

section Calls

variable {device hub : UInt8} {n : Ram} {img : Image} {v : View} {a : Action} {now : UInt32}

/-- A completed call leaves a living Node, one turn further. -/
def TurnDone (device hub : UInt8) (a : Action) (v : View) (r : Ram × RadioAction) (img' : Image) : Prop :=
  ∃ v', Alive device hub ⟨r.1, img'⟩ v' ∧ Turn device hub a v v' r.2

/-- A cut leaves an image, one turn further. -/
def TurnCut (device hub : UInt8) (a : Action) (v : View) (img' : Image) : Prop :=
  ∃ v', Stored device img' v' ∧ Turn device hub a v v' .none

theorem quiet_none : RadioAction.none.Quiet := fun _ => RadioAction.noConfusion

theorem Configured.follow {n' : Ram} (h : Configured device hub n) (hs : n'.controller.source = n.controller.source)
    (hd : n'.controller.destination = n.controller.destination) : Configured device hub n' := by
  unfold Configured
  rw [hs, hd]
  exact h

theorem configured_initial : Configured device hub .initial := Or.inr ⟨rfl, rfl⟩

theorem Alive.off (h : Stored device img v) : Alive device hub (.off img) v :=
  ⟨h, fun hc => (by cases hc), fun hc => (by cases hc),
    .of_state RuntimeState.noConfusion RuntimeState.noConfusion, configured_initial⟩

/-- A healthy store in the RAM of a living Node. -/
structure Works (device hub : UInt8) (n : Ram) (img : Image) (v : View) : Prop where
  sound : Sound n.store img v
  source : n.store.sourceDeviceId = device
  pending : n.Pending v
  configured : Configured device hub n

theorem Works.alive (h : Works device hub n img v) : Alive device hub ⟨n, img⟩ v :=
  ⟨by rw [← h.source]; exact h.sound.stored, fun _ => h.sound, fun _ => h.source, h.pending, h.configured⟩

theorem Works.worked {n' : Ram} {img' : Image} {v' : View} (h : Works device hub n img v)
    (hw : Worked now n v n' img' v') (hp : n'.Pending v') : Works device hub n' img' v' :=
  ⟨hw.sound, hw.device.trans h.source, hp, h.configured.follow hw.source hw.destination⟩

theorem Works.reclaimed {n' : Ram} {img' : Image} {v' : View} (h : Works device hub n img v)
    (hr : Reclaimed n v n' img' v') : Works device hub n' img' v' :=
  ⟨hr.sound, hr.device.trans h.source, hr.pending, h.configured.follow hr.source hr.destination⟩

/-- A call that only ages records. -/
theorem Works.ensures_aged (h : Works device hub n img v) {p : StorageM (Ram × ControllerResult)} {serviced : Prop}
    (hp : ∀ {Q : Ram × ControllerResult → Image → Prop} {P : Image → Prop},
      (∀ img' v', Ageing v v' → Stored n.store.sourceDeviceId img' v' → P img') →
      (∀ n' img' v' result, Aged now n v n' img' v' → Serves now serviced n v n' v' → result.Quiet →
        Q (n', result) img') →
      geometry.Ensures img p Q P) :
    geometry.Ensures img (do
      let (n, r) ← p
      return (n, r.action)) (TurnDone device hub a v) (TurnCut device hub a v) := by
  refine ensures_bind (hp (fun img' v' ha hst => ?_) fun n' img' v' result ha _ hq => ?_)
  · rw [h.source] at hst
    exact ⟨v', hst, .of_ageing ha quiet_none⟩
  · exact ensures_pure.2 ⟨v', (h.worked ha.toWorked ha.pending).alive, .of_ageing ha.ageing hq⟩

theorem Works.ensures_grantTransmit (h : Works device hub n img v) (sequence : Option UInt8) :
    geometry.Ensures img (Call.run device hub now n (.grantTransmit sequence)) (TurnDone device hub a v)
      (TurnCut device hub a v) := by
  refine ensures_bind (Node.ensures_grantTransmit h.sound h.pending (fun img' v' ha hst => ?_)
    fun n' img' v' result ha _ htx => ?_)
  · rw [h.source] at hst
    exact ⟨v', hst, .of_ageing ha quiet_none⟩
  · have hw := h.worked ha.toWorked ha.pending
    refine ensures_pure.2 ⟨v', hw.alive, ?_⟩
    dsimp only
    cases hact : result.action with
    | none => exact .of_ageing ha.ageing quiet_none
    | receive => exact .of_ageing ha.ageing fun _ => RadioAction.noConfusion
    | transmit bytes =>
      obtain ⟨v1, slot, ht⟩ := htx bytes hact
      exact .of_transmits hw.configured ht

theorem Works.ensures_reclaimed (h : Works device hub n img v) {α : Type} {p : StorageM (Ram × α)}
    {radio : α → RadioAction} {Good : α → Prop} (hgood : ∀ x, Good x → (radio x).Quiet)
    (hp : ∀ {Q : Ram × α → Image → Prop} {P : Image → Prop},
      (∀ img' v', Reclaiming v v' → Stored n.store.sourceDeviceId img' v' → P img') →
      (∀ n' img' v' x, Reclaimed n v n' img' v' → Good x → Q (n', x) img') →
      geometry.Ensures img p Q P) :
    geometry.Ensures img (do
      let (n, x) ← p
      return (n, radio x)) (TurnDone device hub a v) (TurnCut device hub a v) := by
  refine ensures_bind (hp (fun img' v' hr hst => ?_) fun n' img' v' x hr hx => ?_)
  · rw [h.source] at hst
    exact ⟨v', hst, .of_reclaiming hr .refl quiet_none⟩
  · exact ensures_pure.2 ⟨v', (h.reclaimed hr).alive, .of_reclaiming hr.reclaiming .refl (hgood x hx)⟩

/-- A store that has settled on the view of a creation, with the controller as it was. -/
theorem alive_of_settles {s' : Store} {img' : Image} {v' : View} (h : Works device hub n img v)
    (hs : Settles device ⟨s', n.controller⟩ img' v') (hp : (⟨s', n.controller⟩ : Ram).Pending v') :
    Alive device hub ⟨⟨s', n.controller⟩, img'⟩ v' :=
  ⟨hs.stored, fun hh => (hs.sound hh).1, fun hh => (hs.sound hh).2, hp, h.configured.follow rfl rfl⟩

theorem Works.ensures_enqueue (h : Works device hub n img v) {input : EventInput} (ha : a.input? = some input) :
    geometry.Ensures img (Call.run device hub now n (.enqueue input)) (TurnDone device hub a v)
      (TurnCut device hub a v) := by
  refine ensures_storeEnqueue h.sound (fun img' v' hc hst => ?_) (fun s' img' result hs _ => ?_)
    fun s' img' slot identity hc hfloor hsound hsrc => ?_
  · rw [h.source] at hst
    exact ⟨v', hst, .of_creation hc ha quiet_none⟩
  · rw [h.source] at hs
    exact ensures_pure.2 ⟨v, alive_of_settles h hs (h.pending.creation (.refused : Creation input v v) rfl),
      .of_ageing .refl quiet_none⟩
  · have hcr := hc.creation h.sound hfloor
    have hw : Works device hub ⟨s', n.controller⟩ img' (v.created slot identity input) :=
      ⟨hsound, hsrc.trans h.source, h.pending.creation hcr rfl, h.configured.follow rfl rfl⟩
    exact ensures_pure.2 ⟨_, hw.alive, .of_creation hcr ha quiet_none⟩

theorem Works.trackEnqueued (h : Works device hub n img v) (slot : ℕ) (now : UInt32) :
    Works device hub (n.trackEnqueued slot now).1 img v := by
  obtain ⟨hstore, hs, hd⟩ := trackEnqueued_keeps n slot now
  exact ⟨by rw [hstore]; exact h.sound, by rw [hstore]; exact h.source, h.pending.trackEnqueued slot now,
    h.configured.follow hs hd⟩

theorem Works.ensures_create (h : Works device hub n img v) {input : EventInput} (ha : a.input? = some input) :
    geometry.Ensures img (Call.run device hub now n (.create input)) (TurnDone device hub a v)
      (TurnCut device hub a v) := by
  refine ensures_bind (Node.ensures_create h.sound (fun img' v' hc hst => ?_) (fun s' img' result hs => ?_)
    fun s' img' slot identity result hc hfloor hsound hsrc => ?_)
  · rw [h.source] at hst
    exact ⟨v', hst, .of_creation hc ha quiet_none⟩
  · rw [h.source] at hs
    exact ensures_pure.2 ⟨v, alive_of_settles h hs (h.pending.creation (.refused : Creation input v v) rfl),
      .of_ageing .refl quiet_none⟩
  · have hcr := hc.creation h.sound hfloor
    have hw : Works device hub ⟨s', n.controller⟩ img' (v.created slot identity input) :=
      ⟨hsound, hsrc.trans h.source, h.pending.creation hcr rfl, h.configured.follow rfl rfl⟩
    exact ensures_pure.2 ⟨_, (hw.trackEnqueued slot now).alive, .of_creation hcr ha quiet_none⟩

theorem Works.ensures_admissionCandidate (h : Works device hub n img v) {bytes : Bytes} {jitter : UInt16}
    (ha : a.received? = some bytes) :
    geometry.Ensures img (Call.run device hub now n (.admissionCandidate bytes jitter)) (TurnDone device hub a v)
      (TurnCut device hub a v) := by
  refine ensures_bind (Node.ensures_admissionCandidate h.sound h.pending (fun img' v' hans hst => ?_)
    fun n' img' v' result hw hans _ hp hq => ?_)
  · rw [h.source] at hst
    exact ⟨v', hst, .of_answers h.configured ha hans quiet_none⟩
  · exact ensures_pure.2 ⟨v', (h.worked hw hp).alive, .of_answers h.configured ha hans hq⟩

theorem Works.ensures_recoverController (h : Works device hub n img v) :
    geometry.Ensures img (Call.run device hub now n .recoverController) (TurnDone device hub a v)
      (TurnCut device hub a v) := by
  refine ensures_bind (ensures_controllerRecover h.sound (fun img' v' ha hst => ?_)
    fun n' img' v' result hre hsrc hq => ?_)
  · rw [h.source] at hst
    exact ⟨v', hst, .of_ageing ha quiet_none⟩
  · have hw : Works device hub n' img' v' := ⟨hre.sound, hsrc.trans h.source, hre.pending, hre.endpoints⟩
    exact ensures_pure.2 ⟨v', hw.alive, .of_ageing hre.ageing hq⟩

/-! ### Calls on a store that is out of service -/

/-- The calls that recover the store. -/
def Call.recovers : Call → Bool
  | .recoverStore _ | .boot _ => true
  | _ => false

theorem usable_of_unhealthy (h : n.store.healthy = false) : n.usable = false := by
  simp [Ram.usable, h]

/-- Out of service, a call touches nothing but the controller. -/
theorem run_of_unhealthy (now : UInt32) (h : n.store.healthy = false) (hc : Configured device hub n) {call : Call}
    (hr : call.recovers = false) :
    ∃ n' radio, Call.run device hub now n call = pure (n', radio) ∧ n'.store = n.store ∧ radio.Quiet ∧
      Configured device hub n' ∧ ∀ v, n.Pending v → n'.Pending v := by
  have hu := usable_of_unhealthy h
  have hsame : ∀ radio : RadioAction, radio.Quiet → ∃ n' radio', (pure (n, radio) : StorageM (Ram × RadioAction)) =
      pure (n', radio') ∧ n'.store = n.store ∧ radio'.Quiet ∧ Configured device hub n' ∧
        ∀ v, n.Pending v → n'.Pending v := fun radio hq => ⟨n, radio, rfl, rfl, hq, hc, fun _ h => h⟩
  cases call with
  | recoverStore entropy => cases hr
  | boot entropy => cases hr
  | recoverController =>
    simp only [Call.run, Ram.recover]
    split
    · exact ⟨_, _, rfl, rfl, quiet_none, Or.inr ⟨rfl, rfl⟩, fun v _ =>
        .of_state RuntimeState.noConfusion RuntimeState.noConfusion⟩
    · simp only [Policy.recover, h, Bool.not_false, if_true, Prog.pure_bind']
      exact ⟨_, _, rfl, rfl, quiet_none, Or.inl ⟨rfl, rfl⟩, fun v _ => .degrade _ _⟩
  | enqueue input =>
    simp only [Call.run, Store.enqueue, h, Bool.not_false, if_true, Prog.pure_bind']
    exact hsame _ quiet_none
  | trackEnqueued slot =>
    obtain ⟨hstore, hs, hd⟩ := trackEnqueued_keeps n slot now
    exact ⟨_, _, rfl, hstore, quiet_none, hc.follow hs hd, fun v h => h.trackEnqueued slot now⟩
  | create input =>
    simp only [Call.run, Ram.create]
    split
    · exact hsame _ quiet_none
    · simp only [Store.enqueue, h, Bool.not_false, if_true, Prog.pure_bind']
      exact hsame _ quiet_none
  | service synchronousWork jitter =>
    simp only [Call.run, Ram.service, hu, Bool.not_false, if_true, Prog.pure_bind']
    exact hsame _ quiet_none
  | grantTransmit sequence =>
    simp only [Call.run, Ram.grantTransmit, hu, Bool.not_false, if_true, Prog.pure_bind']
    exact hsame _ quiet_none
  | txStarted =>
    simp only [Call.run, Ram.txStarted, Ram.duringState, hu, Bool.not_false, Bool.true_or, if_true, Prog.pure_bind']
    exact hsame _ quiet_none
  | txStartFailed jitter =>
    simp only [Call.run, Ram.txStartFailed, Ram.duringState, hu, Bool.not_false, Bool.true_or, if_true,
      Prog.pure_bind']
    exact hsame _ quiet_none
  | txCompleted =>
    simp only [Call.run, Ram.txCompleted, Ram.duringState, hu, Bool.not_false, Bool.true_or, if_true, Prog.pure_bind']
    exact hsame _ quiet_none
  | admissionCandidate bytes jitter =>
    simp only [Call.run, Ram.admissionCandidate, Ram.duringState, hu, Bool.not_false, Bool.true_or, if_true,
      Prog.pure_bind']
    exact hsame _ quiet_none
  | reclaimTerminal =>
    simp only [Call.run, Ram.reclaimTerminal, hu, Bool.not_false, Bool.true_or, if_true, Prog.pure_bind']
    exact hsame _ quiet_none
  | reclaimTerminals withController =>
    simp only [Call.run, Ram.reclaimTerminals, h, Bool.not_false, if_true, Prog.pure_bind']
    exact hsame _ quiet_none

/-! ### One action of a living Node -/

theorem Works.ensures_call (h : Works device hub n img v) {call : Call} (hr : call.recovers = false)
    (cut : Option (PowerCut Bytes)) :
    geometry.Ensures img (call.run device hub now n) (TurnDone device hub (.call call now cut) v)
      (TurnCut device hub (.call call now cut) v) := by
  cases call with
  | recoverStore entropy => cases hr
  | boot entropy => cases hr
  | recoverController => exact h.ensures_recoverController
  | enqueue input => exact h.ensures_enqueue rfl
  | trackEnqueued slot =>
    exact ensures_pure.2 ⟨v, (h.trackEnqueued slot now).alive, .of_ageing .refl quiet_none⟩
  | create input => exact h.ensures_create rfl
  | service synchronousWork jitter =>
    exact h.ensures_aged fun hP hQ => ensures_controllerService h.sound h.pending hP hQ
  | grantTransmit sequence => exact h.ensures_grantTransmit sequence
  | txStarted => exact h.ensures_aged fun hP hQ => ensures_txStarted h.sound h.pending hP hQ
  | txStartFailed jitter => exact h.ensures_aged fun hP hQ => ensures_txStartFailed h.sound h.pending hP hQ
  | txCompleted => exact h.ensures_aged fun hP hQ => ensures_txCompleted h.sound h.pending hP hQ
  | admissionCandidate bytes jitter => exact h.ensures_admissionCandidate rfl
  | reclaimTerminal =>
    exact h.ensures_reclaimed (fun _ hq => hq) fun hP hQ => ensures_reclaimTerminal h.sound h.pending hP hQ
  | reclaimTerminals withController =>
    exact h.ensures_reclaimed (fun _ _ => quiet_none) fun hP hQ =>
      ensures_reclaimTerminals h.sound h.pending hP hQ

theorem Alive.ensures_call (h : Alive device hub ⟨n, img⟩ v) (call : Call) (now : UInt32)
    (cut : Option (PowerCut Bytes)) :
    geometry.Ensures img (call.run device hub now n) (TurnDone device hub (.call call now cut) v)
      (TurnCut device hub (.call call now cut) v) := by
  have hcut : TurnCut device hub (.call call now cut) v img := ⟨v, h.stored, .of_ageing .refl quiet_none⟩
  by_cases hr : call.recovers = false
  · cases hh : n.store.healthy with
    | true => exact Works.ensures_call ⟨h.sound hh, h.source hh, h.pending, h.configured⟩ hr cut
    | false =>
      obtain ⟨n', radio, hrun, hstore, hq, hc, hp⟩ := run_of_unhealthy now hh h.configured hr
      rw [hrun]
      have hno : ¬ n'.store.healthy = true := by
        rw [hstore, hh]
        exact Bool.false_ne_true
      exact ensures_pure.2 ⟨v, ⟨h.stored, fun hc => absurd hc hno, fun hc => absurd hc hno, hp v h.pending, hc⟩,
        .of_ageing .refl hq⟩
  · cases call with
    | recoverStore entropy =>
      refine ensures_bind (ensures_recover_stored noFaults_truthful h.stored hcut fun s hsound hsrc => ?_)
      have hw : Works device hub { n with store := s } img v :=
        ⟨hsound, hsrc, h.pending.reclaiming .refl rfl, h.configured.follow rfl rfl⟩
      exact ensures_pure.2 ⟨v, hw.alive, .of_ageing .refl quiet_none⟩
    | boot entropy =>
      refine ensures_bind (ensures_boot h.stored (fun img' v1 v' hre hag hst => ?_)
        fun n' img' v1 v' result hre hst hsrc hq => ?_)
      · exact ⟨v', hst, .of_reclaiming hre hag quiet_none⟩
      · have hw : Works device hub n' img' v' := ⟨hst.sound, hsrc, hst.pending, hst.endpoints⟩
        exact ensures_pure.2 ⟨v', hw.alive, .of_reclaiming hre hst.ageing hq⟩
    | _ => exact absurd rfl hr

/-- A call of the machine ends as the call does. -/
theorem Machine.step_call {m : Machine} {call : Call} {cut : Option (PowerCut Bytes)} {Q : Machine → RadioAction → Prop}
    (h : geometry.Ensures m.image (call.run device hub now m.ram) (fun r img' => Q ⟨r.1, img'⟩ r.2)
      fun img' => Q (.off img') .none) :
    Q (m.step device hub (.call call now cut)).1 (m.step device hub (.call call now cut)).2 := by
  have hx := ensures_exec h cut
  simp only [Machine.step]
  cases hexec : exec geometry.flash geometry.undecodable (call.run device hub now m.ram) cut
      (Disk.clean m.image) with
  | done r d =>
    rw [hexec] at hx
    obtain ⟨img', rfl, hQ⟩ := hx
    exact hQ
  | lost img' =>
    rw [hexec] at hx
    exact hx

/-- **An action of a living Node is a turn.** -/
theorem Alive.step {m : Machine} (h : Alive device hub m v) (a : Action) :
    ∃ v', Alive device hub (m.step device hub a).1 v' ∧ Turn device hub a v v' (m.step device hub a).2 := by
  cases a with
  | powerLoss => exact ⟨v, .off h.stored, .of_ageing .refl quiet_none⟩
  | call call now cut =>
    refine Machine.step_call (Q := fun m' radio => ∃ v', Alive device hub m' v' ∧
      Turn device hub (.call call now cut) v v' radio) ?_
    refine ensures_mono (fun r img' hr => hr) (fun img' hc => ?_) (h.ensures_call call now cut)
    obtain ⟨v', hst, ht⟩ := hc
    exact ⟨v', .off hst, ht⟩

/-! ### Before the first initialisation -/

/-- No slot of the view has an Event. -/
def View.Vacant (v : View) : Prop := ∀ i, (v.records i).state = .free

theorem View.Vacant.evolving {v v' : View} (hv : v.Vacant) (h : Evolving v v') : v'.Vacant := by
  intro i
  by_contra hi
  exact (h.inherits i hi).owned (hv i)

/-- A sleeping Node after a call: it sleeps on, or it is alive and has no Event. -/
def Wakes (device hub : UInt8) (m : Machine) : Prop :=
  Asleep device hub m ∨ ∃ v, Alive device hub m v ∧ v.Vacant

theorem Asleep.ensures_call (h : Asleep device hub ⟨n, img⟩) (call : Call) (now : UInt32) :
    geometry.Ensures img (call.run device hub now n)
      (fun r img' => Wakes device hub ⟨r.1, img'⟩ ∧ r.2.Quiet) (fun img' => Wakes device hub (.off img')) := by
  have hoff : ∀ img', Dormant img' → Wakes device hub (.off img') := fun img' hd =>
    Or.inl ⟨hd, rfl, fun v => .of_state RuntimeState.noConfusion RuntimeState.noConfusion, configured_initial⟩
  by_cases hr : call.recovers = false
  · obtain ⟨n', radio, hrun, hstore, hq, hc, hp⟩ := run_of_unhealthy now h.unhealthy h.configured hr
    rw [hrun]
    refine ensures_pure.2 ⟨Or.inl ⟨h.dormant, ?_, fun v => hp v (h.pending v), hc⟩, hq⟩
    rw [show n'.store = n.store from hstore]
    exact h.unhealthy
  · cases call with
    | recoverStore entropy =>
      refine ensures_bind (ensures_mono ?_ hoff (ensures_recover_dormant noFaults_truthful h.dormant))
      rintro ⟨s, status⟩ img' (⟨rfl, hsound, hfree, hsrc⟩ | ⟨-, hh, hd⟩)
      · have hw : Works device hub { n with store := s } img' (.vacant s.records) :=
          ⟨hsound, hsrc, (h.pending _).reclaiming .refl rfl, h.configured.follow rfl rfl⟩
        exact ensures_pure.2 ⟨Or.inr ⟨_, hw.alive, hfree⟩, quiet_none⟩
      · exact ensures_pure.2 ⟨Or.inl ⟨hd, hh, fun v => (h.pending v).reclaiming .refl rfl, h.configured.follow rfl rfl⟩,
          quiet_none⟩
    | boot entropy =>
      refine ensures_bind (ensures_boot_dormant h.dormant hoff (fun img' records v1 v' hfree hre hag hst => ?_)
        (fun n' img' result hh hc hd hq => ?_) fun n' img' records v1 v' result hfree hre hst hsrc hq => ?_)
      · have hvac : (View.vacant records).Vacant := hfree
        exact Or.inr ⟨v', .off hst, hvac.evolving (hre.evolving.trans hag.evolving)⟩
      · refine ensures_pure.2 ⟨Or.inl ⟨hd, hh, fun v => ?_, ?_⟩, hq⟩
        · exact .of_state (by rw [hc]; exact RuntimeState.noConfusion) (by rw [hc]; exact RuntimeState.noConfusion)
        · exact configured_initial.follow (by rw [hc]) (by rw [hc])
      · have hw : Works device hub n' img' v' := ⟨hst.sound, hsrc, hst.pending, hst.endpoints⟩
        have hvac : (View.vacant records).Vacant := hfree
        exact ensures_pure.2 ⟨Or.inr ⟨v', hw.alive, hvac.evolving (hre.evolving.trans hst.ageing.evolving)⟩, hq⟩
    | _ => exact absurd rfl hr

theorem Asleep.step {m : Machine} (h : Asleep device hub m) (a : Action) :
    Wakes device hub (m.step device hub a).1 ∧ (m.step device hub a).2.Quiet := by
  cases a with
  | powerLoss =>
    exact ⟨Or.inl ⟨h.dormant, rfl, fun v => .of_state RuntimeState.noConfusion RuntimeState.noConfusion,
      configured_initial⟩, quiet_none⟩
  | call call now cut =>
    refine Machine.step_call (Q := fun m' radio => Wakes device hub m' ∧ radio.Quiet) ?_
    exact ensures_mono (fun r img' hr => hr) (fun img' hc => ⟨hc, quiet_none⟩) (h.ensures_call call now)

end Calls

end Redline.Node
