import Redline.Network.Custody

/-!
# At-most-once admission

Over a stop-and-wait radio the Hub receives only the Event that the Node has transmitted last.  The Node transmits
identities in order, and the ledger drops a tombstone only for a later identity, so an identity that the ledger has
ever owned is owned still or lies below an Event that has been sent (`Passed`).  Such an identity is not received
again: every identity becomes ACTIVE at most once, and a consumed one never again (`at_most_once`).
-/

namespace Redline.Network

open Redline.Wire Redline.Records Redline.Lib

/-- The ledger gets an ACTIVE record of the identity. -/
def Entry.activates (entry : Entry) (identity : Identity) : Prop :=
  ¬ Hub.ActiveIn entry.before.hub.image identity ∧ Hub.ActiveIn entry.after.hub.image identity

/-- **At most once.** -/
structure AtMostOnce (history : List Entry) : Prop where
  once : history.Pairwise fun i j => ∀ identity, i.activates identity → ¬ j.activates identity
  consumed : history.Pairwise fun i j => ∀ identity, Hub.ConsumedIn i.after.hub.image identity →
    ¬ Hub.ActiveIn j.after.hub.image identity

section Order

variable {device hub : UInt8} {st : State} {chron chron' : Node.Chronicle}

/-- An Event of a later identity has been sent. -/
def Passed (chron : Node.Chronicle) (identity : Identity) : Prop :=
  ∃ entry ∈ chron.history, ∃ event, entry.sends event ∧ Node.key identity.epoch identity.id < Node.key event.epoch event.id

theorem Passed.mono {identity : Identity} (h : Passed chron identity)
    (hc : ∀ entry ∈ chron.history, entry ∈ chron'.history) : Passed chron' identity := by
  obtain ⟨entry, he, event, hse, hlt⟩ := h
  exact ⟨entry, hc entry he, event, hse, hlt⟩

theorem key_lt_of_incomingLater {event : Event} {r : HubRecord} (h : Hub.Ledger.incomingLater event r = true) :
    Node.key r.eventEpoch r.eventId < Node.key event.epoch event.id := by
  simp only [Hub.Ledger.incomingLater, Bool.and_eq_true, Bool.or_eq_true, beq_iff_eq, decide_eq_true_eq] at h
  rw [Node.key_lt_key]
  rcases h.2 with hlt | ⟨heq, hlt⟩
  · exact Or.inl hlt
  · exact Or.inr ⟨heq.symm, hlt⟩

/-- The packets on the air are in the order of their identities. -/
theorem Linked.ordered (h : Linked device hub st chron) :
    st.events.Pairwise fun b b' => ∀ e e', decodeEvent b = some e → decodeEvent b' = some e' →
      Node.key e.epoch e.id ≤ Node.key e'.epoch e'.id := by
  rw [h.events, List.pairwise_flatMap]
  constructor
  · intro entry _
    cases entry.radio with
    | none => exact List.Pairwise.nil
    | receive => exact List.Pairwise.nil
    | transmit bytes => exact List.pairwise_singleton _ _
  · refine h.consistent.strictFifo.ordered.imp fun hij b hb b' hb' e e' hd hd' => ?_
    rw [mem_packets] at hb hb'
    refine Node.identityLe_iff.1 (hij e e' ?_ ?_)
    · rw [Node.Entry.sends, hb]
      exact hd
    · rw [Node.Entry.sends, hb']
      exact hd'

/-- The last packet has the greatest identity. -/
theorem Linked.last (h : Linked device hub st chron) {bytes : Bytes} (hlast : st.events.getLast? = some bytes)
    {event : Event} (hdec : decodeEvent bytes = some event) {entry : Node.Entry} (he : entry ∈ chron.history)
    {sent : Event} (hse : entry.sends sent) : Node.key sent.epoch sent.id ≤ Node.key event.epoch event.id := by
  obtain ⟨packet, hmem, hpacket⟩ := h.transmitted he hse
  obtain ⟨init, hinit⟩ := List.getLast?_eq_some_iff.1 hlast
  have hord := h.ordered
  rw [hinit] at hmem hord
  rcases List.mem_append.1 hmem with hmem | hmem
  · exact (List.pairwise_append.1 hord).2.2 packet hmem bytes List.mem_cons_self sent event hpacket hdec
  · obtain rfl := List.mem_singleton.1 hmem
    obtain rfl : sent = event := Option.some.inj (hpacket.symm.trans hdec)
    exact le_rfl

/-- What the Hub receives has not been passed. -/
theorem Linked.not_passed (h : Linked device hub st chron) {b : Hub.Action}
    (hp : Picked .stopAndWait device hub st.events b) {event : Event} (he : b.event? hub device = some event) :
    ¬ Passed chron (Hub.eventIdentity event) := by
  rintro ⟨entry, hmem, sent, hse, hlt⟩
  obtain ⟨-, -, -, packet, bytes, hpick, hdec⟩ := h.picked hp he
  exact absurd (h.last hpick hdec hmem hse) (not_le.2 hlt)

end Order

/-! ### The run of a system -/

section Run

variable {device hub : UInt8} {r : Chronicle} {chron chron' : Node.Chronicle} {x : Entry}

/-- **The invariant**: what has been owned is owned or passed, and what has been consumed is not ACTIVE. -/
structure Tombstones (device hub : UInt8) (r : Chronicle) (chron : Node.Chronicle) : Prop where
  linked : Linked device hub r.state chron
  living : Hub.Living hub device r.state.hub
  owned : ∀ entry ∈ r.history, ∀ identity, Hub.OwnedIn entry.after.hub.image identity →
    Hub.OwnedIn r.state.hub.image identity ∨ Passed chron identity
  consumed : ∀ entry ∈ r.history, ∀ identity, Hub.ConsumedIn entry.after.hub.image identity →
    ¬ Hub.ActiveIn r.state.hub.image identity
  once : AtMostOnce r.history

/-- An action that makes no identity ACTIVE which the ledger has owned before. -/
theorem Tombstones.concat (h : Tombstones device hub r chron) (hx : x.before = r.state)
    (hlinked : Linked device hub x.after chron') (hliving : Hub.Living hub device x.after.hub)
    (hc : ∀ entry ∈ chron.history, entry ∈ chron'.history)
    (hkeep : ∀ identity, Hub.OwnedIn r.state.hub.image identity →
      Hub.OwnedIn x.after.hub.image identity ∨ Passed chron' identity)
    (hfresh : ∀ identity, Hub.ActiveIn x.after.hub.image identity → Hub.ActiveIn r.state.hub.image identity ∨
      ¬ Hub.OwnedIn r.state.hub.image identity ∧ ¬ Passed chron identity) :
    Tombstones device hub ⟨x.after, r.history ++ [x]⟩ chron' := by
  -- an identity with a past becomes ACTIVE only if it is ACTIVE already
  have hpast : ∀ entry ∈ r.history, ∀ identity, Hub.OwnedIn entry.after.hub.image identity →
      Hub.ActiveIn x.after.hub.image identity → Hub.ActiveIn r.state.hub.image identity := by
    intro entry he identity ho ha
    rcases hfresh identity ha with hold | ⟨hno, hnp⟩
    · exact hold
    · rcases h.owned entry he identity ho with hown | hpassed
      · exact absurd hown hno
      · exact absurd hpassed hnp
  have hconsumed : ∀ entry ∈ r.history, ∀ identity, Hub.ConsumedIn entry.after.hub.image identity →
      ¬ Hub.ActiveIn x.after.hub.image identity := by
    rintro entry he identity ⟨held, hh, hs, hid⟩ ha
    exact h.consumed entry he identity ⟨held, hh, hs, hid⟩
      (hpast entry he identity ⟨held, hh, Hub.owned_of_consumed hs, hid⟩ ha)
  refine ⟨hlinked, hliving, ?_, ?_, ?_⟩
  · refine forall_mem_concat (fun entry he identity ho => ?_) fun identity ho => Or.inl ho
    rcases h.owned entry he identity ho with hown | hpassed
    · exact hkeep identity hown
    · exact Or.inr (hpassed.mono hc)
  · refine forall_mem_concat hconsumed ?_
    rintro identity ⟨held, hh, hs, hid⟩ ⟨held', hh', hs', hid'⟩
    have heq := hliving.unique hh hh' (Hub.owned_of_consumed hs) (Hub.owned_of_active hs') (hid.trans hid'.symm)
    rw [heq, hs'] at hs
    cases hs
  · refine ⟨pairwise_concat h.once.once ?_, pairwise_concat h.once.consumed hconsumed⟩
    rintro entry he identity ⟨-, held, hh, hs, hid⟩ ⟨hno, ha⟩
    rw [hx] at hno
    exact hno (hpast entry he identity ⟨held, hh, Hub.owned_of_active hs, hid⟩ ha)

theorem Tombstones.node (h : Tombstones device hub r chron) (hx : x.before = r.state)
    (hhub : x.after.hub = r.state.hub) (hlinked : Linked device hub x.after chron')
    (hc : ∀ entry ∈ chron.history, entry ∈ chron'.history) :
    Tombstones device hub ⟨x.after, r.history ++ [x]⟩ chron' := by
  refine h.concat hx hlinked ?_ hc ?_ ?_
  · rw [hhub]
    exact h.living
  · rw [hhub]
    exact fun identity ho => Or.inl ho
  · rw [hhub]
    exact fun identity ha => Or.inl ha

theorem Tombstones.hubStep (h : Tombstones device hub r chron) {a : Action} {b : Hub.Action}
    (hp : Picked .stopAndWait device hub r.state.events b) :
    Tombstones device hub ⟨r.state.hubStep device hub b, r.history ++ [⟨r.state, a, r.state.hubStep device hub b⟩]⟩
      chron := by
  obtain ⟨hliving, hmoved, -⟩ := h.living.step b
  refine h.concat (x := ⟨r.state, a, r.state.hubStep device hub b⟩) rfl (h.linked.hubStep b) hliving
    (fun _ he => he) ?_ ?_
  · rintro identity ⟨held, hh, ho, rfl⟩
    rcases hmoved.forgotten held hh ho with hown | ⟨-, event, hevent, hlater⟩
    · exact Or.inl hown
    · obtain ⟨⟨entry, he, hse⟩, -⟩ := h.linked.picked hp hevent
      exact Or.inr ⟨entry, he, event, hse, key_lt_of_incomingLater hlater⟩
  · rintro identity ⟨held, hh, hs, rfl⟩
    rcases hmoved.origin held hh (Hub.owned_of_active hs) with ⟨old, hold, -, hsame, hact⟩ | ⟨-, hno, event, hevent, hcan⟩
    · exact Or.inl ⟨old, hold, hact hs, hsame.identity.symm⟩
    · rw [(matches_of_sameCanonical hcan).identity] at hno ⊢
      exact Or.inr ⟨hno, h.linked.not_passed hp hevent⟩

theorem Tombstones.step (h : Tombstones device hub r chron) (a : Action) :
    ∃ chron', Tombstones device hub (r.step .stopAndWait device hub a) chron' := by
  refine step_cases (Q := fun st' => ∃ chron', Tombstones device hub ⟨st', r.history ++ [⟨r.state, a, st'⟩]⟩ chron')
    r.state a ?_ (fun b _ _ => ?_) fun b hp _ => ⟨chron, h.hubStep hp⟩
  · exact ⟨chron, h.node (x := ⟨r.state, a, r.state⟩) rfl rfl h.linked fun _ he => he⟩
  · exact ⟨_, h.node (x := ⟨r.state, a, r.state.nodeStep device hub b⟩) rfl rfl (h.linked.nodeStep b)
      fun entry he => List.mem_append_left _ he⟩

theorem tombstones_start {nodeImage hubImage : Image} (hn : Node.Dormant nodeImage) (hh : Hub.Unborn hubImage) :
    Tombstones device hub ⟨.start nodeImage hubImage, []⟩ ⟨.off nodeImage, []⟩ :=
  ⟨⟨rfl, Node.consistent_chronicle hn [], rfl⟩, Or.inl ⟨hh, rfl⟩, fun _ he => (by cases he), fun _ he => (by cases he),
    List.Pairwise.nil, List.Pairwise.nil⟩

/-- **Every identity becomes ACTIVE at most once**, and never again after it was consumed. -/
theorem at_most_once {nodeImage hubImage : Image} (hn : Node.Dormant nodeImage) (hh : Hub.Unborn hubImage)
    (actions : List Action) :
    AtMostOnce (chronicle .stopAndWait device hub nodeImage hubImage actions).history := by
  have hrun : ∃ chron, Tombstones device hub (chronicle .stopAndWait device hub nodeImage hubImage actions) chron := by
    unfold chronicle
    refine List.foldlRecOn (motive := fun r => ∃ chron, Tombstones device hub r chron) actions _ ?_ fun r hr a _ => ?_
    · exact ⟨_, tombstones_start hn hh⟩
    · obtain ⟨chron, h⟩ := hr
      exact h.step a
  obtain ⟨chron, h⟩ := hrun
  exact h.once

/-- The admission, the consumption, and a copy of the Event that comes late. -/
def lateDuplicate : List Action :=
  firstAdmission ++ [.hub (.call (.consume ⟨2, 7, 1⟩) none), .receiveEvent 0 none]

theorem at_most_once_late_duplicate :
    ((chronicle .stopAndWait 2 1 blankImage blankImage lateDuplicate).history.map fun entry =>
        ((entry.after.hub.image (.event 0 .A)).bind Hub.decodeHubRecordForSelection).map HubRecord.state) =
      [some .empty, some .empty, some .empty, some .empty, some .empty, some .empty, some .empty, some .empty,
        some .empty, some .consumed, some .consumed] ∧
    AtMostOnce (chronicle .stopAndWait 2 1 blankImage blankImage lateDuplicate).history :=
  ⟨by decide +kernel, at_most_once Node.dormant_blank Hub.unborn_blankImage lateDuplicate⟩

end Run

end Redline.Network
