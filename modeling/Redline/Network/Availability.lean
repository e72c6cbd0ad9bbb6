import Redline.Network.AtMostOnce
import Redline.Network.Validators

/-!
# Room for a new Event

A ledger without an ACTIVE record has room for an Event if a slot is EMPTY or holds the tombstone of an earlier Event of
the same source.  `admission_of_all_consumed`: this is exactly when a new Event is admitted, and otherwise the ledger
answers CAPACITY.  The Events of one lifetime of the Node come in order, so there is room for them.

A Node whose store is empty may lose its metadata and draw a new epoch.  If the epoch is below those of eight
tombstones, the ledger is full for the Node (`full_ledger_after_forgotten_epoch`).
-/

namespace Redline.Network

open Redline.Wire Redline.Records Redline.Lib

/-! ### A Node that loses its identity metadata -/

instance (img : Image) : Decidable (Node.Dormant img) :=
  decidable_of_iff (∀ slot : SlotIndex, ∀ c ∈ [CopySlot.A, .B],
      ∀ r ∈ (img.slotCells slot c).bind Node.decodeNodeRecordForSelection, Node.SlotHolds img slot c r → r.state = .free)
    ⟨fun h slot c r hr => h slot c (by cases c <;> simp) r hr.1 hr, fun h slot c _ r _ hr => h slot c r hr⟩

/-- The image with other metadata. -/
def withMetadata (img : Image) (cells : Cells) : Image
  | .metadata c => cells c
  | .event slot c => img (.event slot c)

/-- While the store is empty, neither copy of the identity metadata can be read any more, and power goes. -/
def State.loseMetadata (st : State) (cells : Cells) : State :=
  if Node.Dormant st.node.image ∧ ∀ c ∈ [CopySlot.A, .B], (cells c).bind Node.decodeNodeMetadataForSelection = none then
    { st with node := .off (withMetadata st.node.image cells) }
  else st

/-- An action of the system, or a loss of the metadata. -/
inductive LossyAction
  | act (a : Action)
  | loseMetadata (cells : Cells)

def State.lossyStep (c : Channel) (device hub : UInt8) (st : State) : LossyAction → State
  | .act a => st.step c device hub a
  | .loseMetadata cells => st.loseMetadata cells

/-- The states that a run comes through, the start included. -/
def lossyStates (c : Channel) (device hub : UInt8) (nodeImage hubImage : Image) (actions : List LossyAction) :
    List State :=
  actions.scanl (State.lossyStep c device hub) (.start nodeImage hubImage)

/-- The state at the end of a run. -/
def lossyRun (c : Channel) (device hub : UInt8) (nodeImage hubImage : Image) (actions : List LossyAction) : State :=
  (lossyStates c device hub nodeImage hubImage actions).getLastD (.start nodeImage hubImage)

/-! ### Admission when everything has been consumed -/

/-- The ledger is in service, has ordinals left, and the Host has consumed all it could see. -/
structure AllConsumed (m : Hub.Machine) : Prop where
  healthy : m.ledger.ledgerHealthy = true
  ready : m.ledger.ordinalReady = true
  ordinals : m.ledger.nextOrdinal? ≠ none
  consumed : ∀ slot, (m.ledger.records slot).state ≠ .active

/-- A well-formed Event of the Node that the ledger is configured with. -/
structure WellFormed (l : Hub.Ledger) (event : Event) : Prop where
  source : event.source = l.nodeDeviceId
  destination : event.destination = l.hubDeviceId
  valid : isValidEvent event = true
  tail : zeroTail event.body event.bodyLength = true

instance (m : Hub.Machine) : Decidable (AllConsumed m) :=
  decidable_of_iff (m.ledger.ledgerHealthy = true ∧ m.ledger.ordinalReady = true ∧ m.ledger.nextOrdinal? ≠ none ∧
      ∀ slot, (m.ledger.records slot).state ≠ .active)
    ⟨fun h => ⟨h.1, h.2.1, h.2.2.1, h.2.2.2⟩, fun h => ⟨h.healthy, h.ready, h.ordinals, h.consumed⟩⟩

instance (l : Hub.Ledger) (event : Event) : Decidable (WellFormed l event) :=
  decidable_of_iff (event.source = l.nodeDeviceId ∧ event.destination = l.hubDeviceId ∧ isValidEvent event = true ∧
      zeroTail event.body event.bodyLength = true)
    ⟨fun h => ⟨h.1, h.2.1, h.2.2.1, h.2.2.2⟩, fun h => ⟨h.source, h.destination, h.valid, h.tail⟩⟩

/-- The ledger has not owned the identity in any of the states. -/
def NeverAdmitted (states : List State) (event : Event) : Prop :=
  ∀ st ∈ states, ¬ Hub.OwnedIn st.hub.image (Hub.eventIdentity event)

instance (states : List State) (event : Event) : Decidable (NeverAdmitted states event) :=
  inferInstanceAs (Decidable (∀ st ∈ states, ¬ Hub.OwnedIn st.hub.image (Hub.eventIdentity event)))

/-- There is an EMPTY slot, or a tombstone of an earlier Event. -/
def HasRoom (l : Hub.Ledger) (event : Event) : Prop :=
  ∃ slot, (l.records slot).state = .empty ∨ Hub.Superseded event (l.records slot)

/-- What an admission answers while the storage works. -/
def admission (m : Hub.Machine) (event : Event) : Hub.AdmissionResult :=
  ((m.ledger.admitEvent event).run Hub.geometry.flash (Disk.clean m.image)).1.2

section Admission

variable {l : Hub.Ledger} {m : Hub.Machine} {event : Event} {device hub : UInt8}

theorem validateAdmission_of_wellFormed (h : WellFormed l event) : l.validateAdmission event = .durableNewAdmission := by
  obtain ⟨hends, hepoch, hid, hcontent⟩ := isValidEvent_iff.1 h.valid
  have hends' := hends
  simp only [hasValidEndpoints, Bool.and_eq_true, bne_iff_ne] at hends'
  refine (validateAdmission_iff ?_ ?_).2 ⟨h.source, h.destination, hends'.1.1, hepoch, hid, hcontent, h.tail⟩
  · rw [← h.destination]
    exact hends'.1.2
  · rw [← h.source, ← h.destination]
    exact hends'.2

/-- The ledger finds a slot for the Event exactly if there is room. -/
theorem hasRoom_iff : HasRoom l event ↔ ∃ slot, l.admissionTarget event = some slot := by
  constructor
  · rintro ⟨slot, hslot⟩
    unfold Hub.Ledger.admissionTarget
    cases hempty : l.firstEmpty with
    | some empty => exact ⟨empty, rfl⟩
    | none =>
      rcases hslot with hslot | hslot
      · have := List.find?_eq_none.1 hempty slot (List.mem_finRange slot)
        exact absurd (decide_eq_true hslot) this
      · have hsearched := Hub.searched_oldestReclaimable l event
        cases hold : l.oldestReclaimable event with
        | some old => exact ⟨old, rfl⟩
        | none =>
          rw [hold] at hsearched
          rcases hsearched slot (List.mem_finRange slot) with hno | hno
          · exact absurd hslot.1 hno
          · have hlater : Hub.Ledger.incomingLater event (l.slots slot).record = true := hslot.2
            rw [hlater] at hno
            cases hno
  · rintro ⟨slot, hslot⟩
    exact ⟨slot, Hub.admissionTarget_state hslot⟩

/-- The answer to a fresh Event: it is admitted exactly if there is room. -/
structure Answered (m : Hub.Machine) (event : Event) : Prop where
  room : HasRoom m.ledger event → (admission m event).status = .durableNewAdmission
  full : ¬ HasRoom m.ledger event → admission m event = ⟨.capacity, none, 0⟩

theorem answered_of_consumed (hliving : Hub.Living hub device m) (hall : AllConsumed m) (hw : WellFormed m.ledger event)
    (hfresh : ¬ Hub.OwnedIn m.image (Hub.eventIdentity event)) : Answered m event := by
  rcases hliving with hasleep | ⟨v, halive⟩
  · exact absurd hall.healthy (by simp [hasleep.unhealthy])
  have hsound := halive.sound hall.healthy
  have hvalid := validateAdmission_of_wellFormed hw
  have hfind : m.ledger.findOwned event = none := by
    by_contra hne
    obtain ⟨slot, hslot⟩ := Option.ne_none_iff_exists'.1 hne
    obtain ⟨hown, hid⟩ := Hub.owned_of_findOwned hsound.records hslot
    exact hfresh ⟨_, (Hub.holdsRecord_iff halive.stored).2 ⟨slot, rfl⟩, hown, hid⟩
  constructor
  · intro hroom
    obtain ⟨slot, htarget⟩ := hasRoom_iff.1 hroom
    obtain ⟨ordinal, hordinal⟩ := Option.ne_none_iff_exists'.1 hall.ordinals
    obtain ⟨img', -, hdone, -⟩ := ensures_run (Hub.ensures_admitEvent hsound event)
    cases hdone with
    | refused hno => exact absurd ⟨hvalid, hfind, htarget, hordinal⟩ (hno slot ordinal)
    | admitted slot' ordinal' _ _ _ hresult =>
      unfold admission
      rw [hresult]
  · intro hno
    have htarget : m.ledger.admissionTarget event = none := by
      by_contra hne
      exact hno (hasRoom_iff.2 (Option.ne_none_iff_exists'.1 hne))
    unfold admission Hub.Ledger.admitEvent
    rw [if_neg (by simp [hall.healthy]), if_neg (not_not.2 hvalid), hfind, htarget]
    rfl

end Admission

/-! ### The run of a system -/

section Run

variable {c : Channel} {device hub : UInt8} {st : State}

theorem living_step (h : Hub.Living hub device st.hub) (a : Action) :
    Hub.Living hub device (st.step c device hub a).hub := by
  refine step_cases (c := c) (Q := fun st' => Hub.Living hub device st'.hub) st a h (fun _ _ _ => h) fun b _ _ => ?_
  exact (h.step b).1

theorem living_lossyStep (h : Hub.Living hub device st.hub) (a : LossyAction) :
    Hub.Living hub device (st.lossyStep c device hub a).hub := by
  cases a with
  | act a => exact living_step h a
  | loseMetadata cells =>
    simp only [State.lossyStep, State.loseMetadata]
    split
    · exact h
    · exact h

theorem lossyRun_eq_foldl (nodeImage hubImage : Image) (actions : List LossyAction) :
    lossyRun c device hub nodeImage hubImage actions =
      actions.foldl (State.lossyStep c device hub) (.start nodeImage hubImage) := by
  unfold lossyRun lossyStates
  rw [List.getLastD_eq_getLast?, List.getLast?_scanl]
  rfl

/-- The end of a run is one of the states it comes through. -/
theorem lossyRun_mem (nodeImage hubImage : Image) (actions : List LossyAction) :
    lossyRun c device hub nodeImage hubImage actions ∈ lossyStates c device hub nodeImage hubImage actions := by
  rw [lossyRun_eq_foldl]
  exact List.mem_of_getLast? List.getLast?_scanl

theorem living_lossyRun {nodeImage hubImage : Image} (hh : Hub.Unborn hubImage) (actions : List LossyAction) :
    Hub.Living hub device (lossyRun c device hub nodeImage hubImage actions).hub := by
  rw [lossyRun_eq_foldl]
  exact List.foldlRecOn (motive := fun st : State => Hub.Living hub device st.hub) actions _ (Or.inl ⟨hh, rfl⟩)
    fun _ h a _ => living_lossyStep h a

/-- A run without losses is one of the system. -/
theorem lossyRun_act (nodeImage hubImage : Image) (actions : List Action) :
    lossyRun c device hub nodeImage hubImage (actions.map .act) =
      (chronicle c device hub nodeImage hubImage actions).state := by
  rw [lossyRun_eq_foldl, chronicle]
  induction actions using List.reverseRecOn with
  | nil => rfl
  | append_singleton actions a ih =>
    rw [List.map_append, List.foldl_append, List.foldl_append, ih]
    rfl

/-- The Event that the Node has transmitted last is later than every tombstone of another identity. -/
theorem Faithful.superseded {r : Chronicle} {chron : Node.Chronicle} (h : Faithful device hub r chron) {bytes : Bytes}
    (hlast : r.state.events.getLast? = some bytes) {event : Event} (hdec : decodeEvent bytes = some event)
    {held : HubRecord} (hheld : Hub.HoldsRecord r.state.hub.image held) (hconsumed : held.state = .consumed)
    (hfresh : held.identity ≠ Hub.eventIdentity event) : Hub.Superseded event held := by
  obtain ⟨sent, ⟨entry, he, hse⟩, hm⟩ := h.owned held hheld (Hub.owned_of_consumed hconsumed)
  obtain ⟨packet, hpacket, hdec'⟩ := h.linked.transmitted he hse
  have hsource := ((h.sent packet hpacket).routed hdec').1
  have hsource' := ((h.sent bytes (List.mem_of_getLast? hlast)).routed hdec).1
  have hid : held.identity = ⟨device, sent.epoch, sent.id⟩ := by
    rw [hm.identity, Hub.eventIdentity, hsource]
  have hlt : Node.key sent.epoch sent.id < Node.key event.epoch event.id := by
    refine lt_of_le_of_ne (h.linked.last hlast hdec he hse) fun heq => hfresh ?_
    obtain ⟨hepoch, hnum⟩ := Node.key_inj.1 heq
    rw [hid, Hub.eventIdentity, hsource', hepoch, hnum]
  simp only [HubRecord.identity, Identity.mk.injEq] at hid
  refine ⟨hconsumed, ?_⟩
  unfold Hub.Ledger.incomingLater
  rw [hid.1, hid.2.1, hid.2.2, hsource']
  rcases Node.key_lt_key.1 hlt with hlt | ⟨heq, hlt⟩
  · simp [hlt]
  · simp [heq, hlt]

/-- While nothing is ACTIVE, the Event that the Node has transmitted last finds room. -/
theorem Faithful.hasRoom {r : Chronicle} {chron : Node.Chronicle} (h : Faithful device hub r chron)
    (hall : AllConsumed r.state.hub) {bytes : Bytes} (hlast : r.state.events.getLast? = some bytes) {event : Event}
    (hdec : decodeEvent bytes = some event)
    (hfresh : ¬ Hub.OwnedIn r.state.hub.image (Hub.eventIdentity event)) : HasRoom r.state.hub.ledger event := by
  rcases h.living with hasleep | ⟨v, halive⟩
  · exact absurd hall.healthy (by simp [hasleep.unhealthy])
  have hsound := halive.sound hall.healthy
  have hheld : Hub.HoldsRecord r.state.hub.image (r.state.hub.ledger.records 0) :=
    (Hub.holdsRecord_iff halive.stored).2 ⟨0, by rw [hsound.records]⟩
  refine ⟨0, ?_⟩
  cases hstate : (r.state.hub.ledger.records 0).state with
  | empty => exact Or.inl rfl
  | active => exact absurd hstate (hall.consumed 0)
  | consumed =>
    refine Or.inr (h.superseded hlast hdec hheld hstate fun hid => hfresh ?_)
    exact ⟨_, hheld, Hub.owned_of_consumed hstate, hid⟩

/-- **A ledger in which all is consumed.**  In every run, losses of the Node's metadata included, a well-formed Event
that was never admitted is admitted if a slot is EMPTY or holds the tombstone of an earlier Event, and is answered with
CAPACITY otherwise.  As long as the metadata is not lost, the Event that the Node has transmitted last is admitted. -/
theorem admission_of_all_consumed {nodeImage hubImage : Image} (hn : Node.Dormant nodeImage)
    (hh : Hub.Unborn hubImage) :
    (∀ c actions event, AllConsumed (lossyRun c device hub nodeImage hubImage actions).hub →
      WellFormed (lossyRun c device hub nodeImage hubImage actions).hub.ledger event →
      NeverAdmitted (lossyStates c device hub nodeImage hubImage actions) event →
      Answered (lossyRun c device hub nodeImage hubImage actions).hub event) ∧
    (∀ (actions : List Action) event bytes,
      AllConsumed (lossyRun .stopAndWait device hub nodeImage hubImage (actions.map .act)).hub →
      WellFormed (lossyRun .stopAndWait device hub nodeImage hubImage (actions.map .act)).hub.ledger event →
      NeverAdmitted (lossyStates .stopAndWait device hub nodeImage hubImage (actions.map .act)) event →
      (lossyRun .stopAndWait device hub nodeImage hubImage (actions.map .act)).events.getLast? = some bytes →
      decodeEvent bytes = some event →
      (admission (lossyRun .stopAndWait device hub nodeImage hubImage (actions.map .act)).hub event).status =
        .durableNewAdmission) := by
  have hanswered : ∀ c actions event, AllConsumed (lossyRun c device hub nodeImage hubImage actions).hub →
      WellFormed (lossyRun c device hub nodeImage hubImage actions).hub.ledger event →
      NeverAdmitted (lossyStates c device hub nodeImage hubImage actions) event →
      Answered (lossyRun c device hub nodeImage hubImage actions).hub event := by
    intro c actions event hall hw hnever
    exact answered_of_consumed (living_lossyRun hh actions) hall hw (hnever _ (lossyRun_mem _ _ _))
  refine ⟨hanswered, fun actions event bytes hall hw hnever hlast hdec => ?_⟩
  refine (hanswered _ _ event hall hw hnever).room ?_
  have hfresh := hnever _ (lossyRun_mem _ _ _)
  rw [lossyRun_act] at hall hlast hfresh ⊢
  have hrun : ∃ chron, Faithful device hub (chronicle .stopAndWait device hub nodeImage hubImage actions) chron :=
    faithful_chronicle hn hh actions
  obtain ⟨chron, h⟩ := hrun
  exact h.hasRoom hall hlast hdec hfresh

end Run

/-- The first check-in is delivered and consumed, and a second one is on the air. -/
def secondDelivery : List Action :=
  firstAdmission ++ [.hub (.call (.consume ⟨2, 7, 1⟩) none),
    .node (.call (.create ⟨Family.manualCheckIn, 0, 60, 1, bodyOf [1]⟩) 7 none),
    .node (.call (.service false 0) 8 none), .node (.call (.grantTransmit (some 10)) 9 none)]

def secondEvent : Event := ⟨2, 1, 10, Family.manualCheckIn, 7, 2, 0, 60, 1, bodyOf [1]⟩

theorem admission_of_all_consumed_second_delivery :
    AllConsumed (lossyRun .stopAndWait 2 1 blankImage blankImage (secondDelivery.map .act)).hub ∧
      (admission (lossyRun .stopAndWait 2 1 blankImage blankImage (secondDelivery.map .act)).hub secondEvent).status =
        .durableNewAdmission := by
  obtain ⟨hall, hw, hnever, hlast⟩ :
      AllConsumed (lossyRun .stopAndWait 2 1 blankImage blankImage (secondDelivery.map .act)).hub ∧
      WellFormed (lossyRun .stopAndWait 2 1 blankImage blankImage (secondDelivery.map .act)).hub.ledger secondEvent ∧
      NeverAdmitted (lossyStates .stopAndWait 2 1 blankImage blankImage (secondDelivery.map .act)) secondEvent ∧
      (lossyRun .stopAndWait 2 1 blankImage blankImage (secondDelivery.map .act)).events.getLast?.bind decodeEvent =
        some secondEvent := by
    decide +kernel
  obtain ⟨bytes, hbytes, hdec⟩ := Option.bind_eq_some_iff.1 hlast
  exact ⟨hall, (admission_of_all_consumed Node.dormant_blank Hub.unborn_blankImage).2 _ secondEvent bytes hall hw hnever
    hbytes hdec⟩

/-- One manual check-in is created, sent, admitted, given up by the Node and consumed by the Host. -/
def delivery (epoch id : UInt32) (packet : ℕ) (now : UInt32) : List Action :=
  [.node (.call (.create ⟨Family.manualCheckIn, 0, 60, 1, bodyOf [1]⟩) now none),
    .node (.call (.service false 0) now none), .node (.call (.grantTransmit (some 9)) now none),
    .node (.call .txStarted now none), .receiveEvent packet none, .node (.call .txCompleted now none),
    .receiveAck packet now 0 none, .hub (.call (.consume ⟨2, epoch, id⟩) none)]

/-- Eight Events of epoch 100 are delivered and consumed.  Then the Node loses its metadata, starts again with
epoch 5, and transmits. -/
def forgottenEpoch : List LossyAction :=
  [.act (.hub (.call .recover none)), .act (.node (.call (.boot (some 100)) 0 none))] ++
    ((List.range 8).flatMap fun n => (delivery 100 (n + 1).toUInt32 n n.toUInt32).map .act) ++
    [.loseMetadata fun _ => none, .act (.node (.call (.boot (some 5)) 0 none)),
      .act (.node (.call (.create ⟨Family.manualCheckIn, 0, 60, 1, bodyOf [1]⟩) 1 none)),
      .act (.node (.call (.service false 0) 2 none)), .act (.node (.call (.grantTransmit (some 9)) 3 none))]

def forgottenEvent : Event := ⟨2, 1, 9, Family.manualCheckIn, 5, 1, 0, 60, 1, bodyOf [1]⟩

/-- All is consumed and the Event is new, but every tombstone is of a later epoch. -/
theorem full_ledger_after_forgotten_epoch :
    AllConsumed (lossyRun .stopAndWait 2 1 blankImage blankImage forgottenEpoch).hub ∧
      WellFormed (lossyRun .stopAndWait 2 1 blankImage blankImage forgottenEpoch).hub.ledger forgottenEvent ∧
      NeverAdmitted (lossyStates .stopAndWait 2 1 blankImage blankImage forgottenEpoch) forgottenEvent ∧
      (lossyRun .stopAndWait 2 1 blankImage blankImage forgottenEpoch).events.getLast?.bind decodeEvent =
        some forgottenEvent ∧
      (admission (lossyRun .stopAndWait 2 1 blankImage blankImage forgottenEpoch).hub forgottenEvent).status =
        .capacity := by
  decide +kernel

end Redline.Network
