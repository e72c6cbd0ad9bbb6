import Redline.Hub.Custody
import Redline.Lib.Trace
import Redline.Network.Machine

/-!
# No loss of custody

Over a radio that loses, duplicates, delays and reorders packets, and with power cuts on either side.  When the
Node gives up a QUEUED record, the Hub had an ACTIVE record of the same Event in its flash before; and an ACTIVE
record of the ledger stays ACTIVE, with its Event, until a consumption of its identity commits
(`no_loss_of_custody`).

The invariant (`Custodial`) is that every ADMITTED response on the air answers an Event the Node has sent, and that
every record the ledger owns was ACTIVE at some time with the same Event.
-/

namespace Redline.Network

open Redline.Wire Redline.Records Redline.Lib

/-! ### What a history shows -/

/-- The record of the ledger is of the Event of the Node's record. -/
structure InCustody (device : UInt8) (r : NodeRecord) (held : HubRecord) : Prop where
  identity : held.identity = ⟨device, r.eventEpoch, r.eventId⟩
  family : held.family = r.family
  flags : held.flags = r.flags
  lifetime : held.lifetimeBudgetSeconds = r.lifetimeBudgetSeconds
  bodyLength : held.bodyLength = r.bodyLength
  body : held.body = r.body

/-- A slot of the Node gives up its QUEUED record. -/
def Entry.releases (entry : Entry) (r : NodeRecord) : Prop :=
  r.state = .queued ∧ ∃ slot c c' r', Node.SlotHolds entry.before.node.image slot c r ∧
    Node.SlotHolds entry.after.node.image slot c' r' ∧ r'.state = .free

/-- A consumption of the identity commits. -/
def Entry.consumes (entry : Entry) (identity : Identity) : Prop :=
  entry.action.consumes? = some identity ∧ Hub.ConsumedIn entry.after.hub.image identity

/-- The Hub has the record in its flash, ACTIVE. -/
def Active (st : State) (held : HubRecord) : Prop := Hub.HoldsRecord st.hub.image held ∧ held.state = .active

/-- **No loss of custody.** -/
structure KeepsCustody (device : UInt8) (history : List Entry) : Prop where
  committed : ∀ past release rest r, history = past ++ release :: rest → release.releases r →
    ∃ entry ∈ past, ∃ held, Active entry.after held ∧ InCustody device r held
  kept : ∀ past entry mid later rest held, history = past ++ entry :: (mid ++ later :: rest) →
    Active entry.after held → (∀ x ∈ mid ++ [later], ¬ x.consumes held.identity) →
    ∃ held', Active later.after held' ∧ Hub.SameEvent held held'

/-! ### ACTIVE records -/

section Active

variable {device : UInt8} {history : List Entry} {x : Entry} {st : State}

/-- What has ever been ACTIVE is ACTIVE now, if it has not been consumed. -/
def Held (history : List Entry) (st : State) : Prop :=
  ∀ past entry rest held, history = past ++ entry :: rest → Active entry.after held →
    (∀ y ∈ rest, ¬ y.consumes held.identity) → ∃ held', Active st held' ∧ Hub.SameEvent held held'

/-- An action keeps the ACTIVE records it does not consume. -/
def Entry.Keeps (x : Entry) : Prop :=
  ∀ held, Active x.before held → ¬ x.consumes held.identity → ∃ held', Active x.after held' ∧ Hub.SameEvent held held'

theorem Entry.Keeps.of_same (h : x.after.hub = x.before.hub) : x.Keeps := by
  intro held ha _
  refine ⟨held, ?_, .refl held⟩
  rw [Active, h]
  exact ha

theorem Held.later (h : Held history x.before) (hx : x.Keeps) {past rest : List Entry} {entry : Entry}
    {held : HubRecord} (hsplit : history = past ++ entry :: rest) (ha : Active entry.after held)
    (hno : ∀ y ∈ rest ++ [x], ¬ y.consumes held.identity) : ∃ held', Active x.after held' ∧ Hub.SameEvent held held' := by
  obtain ⟨held', ha', hsame⟩ := h past entry rest held hsplit ha fun y hy => hno y (List.mem_append_left _ hy)
  obtain ⟨held'', ha'', hsame'⟩ := hx held' ha' (by
    rw [hsame.identity]
    exact hno x (List.mem_append_right _ List.mem_cons_self))
  exact ⟨held'', ha'', hsame.trans hsame'⟩

theorem Held.step (h : Held history x.before) (hx : x.Keeps) : Held (history ++ [x]) x.after := by
  intro past entry rest held hsplit ha hno
  rcases split_concat hsplit with ⟨-, rfl, -⟩ | ⟨rest', hold, rfl⟩
  · exact ⟨held, ha, .refl held⟩
  · exact h.later hx hold ha hno

theorem KeepsCustody.step (h : KeepsCustody device history) (hheld : Held history x.before) (hx : x.Keeps)
    (hrel : ∀ r, x.releases r → ∃ entry ∈ history, ∃ held, Active entry.after held ∧ InCustody device r held) :
    KeepsCustody device (history ++ [x]) := by
  constructor
  · intro past release rest r hsplit hr
    rcases split_concat hsplit with ⟨rfl, rfl, -⟩ | ⟨rest', hsplit, -⟩
    · exact hrel r hr
    · exact h.committed past release rest' r hsplit hr
  · intro past entry mid later rest held hsplit ha hno
    have hsplit : history ++ [x] = (past ++ entry :: mid) ++ later :: rest := by simpa using hsplit
    rcases split_concat hsplit with ⟨hpast, rfl, -⟩ | ⟨rest', hsplit, -⟩
    · exact hheld.later hx hpast.symm ha hno
    · exact h.kept past entry mid later rest' held (by simpa using hsplit) ha hno

end Active

/-! ### The Event on both sides -/

section Content

variable {device hub : UInt8} {st : State} {chron : Node.Chronicle}

/-- What a record has in common with its Event. -/
structure Matches (held : HubRecord) (event : Event) : Prop where
  identity : held.identity = Hub.eventIdentity event
  family : held.family = event.family
  flags : held.flags = event.flags
  lifetime : held.lifetimeBudgetSeconds = event.lifetimeBudgetSeconds
  bodyLength : held.bodyLength = event.bodyLength
  body : held.body.toList.take event.bodyLength.toNat = event.body.toList.take event.bodyLength.toNat

theorem matches_of_sameCanonical {held : HubRecord} {event : Event}
    (h : Hub.Ledger.sameCanonical held event = true) : Matches held event := by
  simp only [Hub.Ledger.sameCanonical, Bool.and_eq_true, beq_iff_eq] at h
  obtain ⟨⟨⟨⟨⟨hid, hf⟩, hfl⟩, hl⟩, hlen⟩, hbody⟩ := h
  exact ⟨Hub.sameIdentity_iff.1 hid, hf, hfl, hl, hlen, hbody⟩

theorem Matches.same {held held' : HubRecord} {event : Event} (h : Matches held event)
    (hs : Hub.SameEvent held' held) : Matches held' event :=
  ⟨hs.identity.symm.trans h.identity, hs.family.symm.trans h.family, hs.flags.symm.trans h.flags,
    hs.lifetime.symm.trans h.lifetime, hs.bodyLength.symm.trans h.bodyLength, by
    rw [← hs.body]
    exact h.body⟩

/-- The record of the ledger and the record of the Node of one Event. -/
theorem Matches.inCustody {held : HubRecord} {event : Event} {r : NodeRecord} {input : Node.EventInput}
    (h : Matches held event) (hvalid : validateHubRecord held = .ok ()) (hown : held.Owned)
    (hsource : event.source = device) (hepoch : r.eventEpoch = event.epoch) (hid : r.eventId = event.id)
    (hrec : Node.RecordOf r input) (hcarries : Node.Carries event input)
    (hbody : bodyOf (r.body.toList.take r.bodyLength.toNat) = r.body) : InCustody device r held := by
  refine ⟨?_, ?_, ?_, ?_, ?_, ?_⟩
  · rw [h.identity, Hub.eventIdentity, hsource, hepoch, hid]
  · rw [h.family, hcarries.family, hrec.family]
  · rw [h.flags, hcarries.flags, hrec.flags]
  · rw [h.lifetime, hcarries.lifetime, hrec.lifetime]
  · rw [h.bodyLength, hcarries.bodyLength, hrec.bodyLength]
  · have htail := ((Hub.validateHubRecord_owned hown).1 hvalid).2.2
    calc held.body = bodyOf (held.body.toList.take held.bodyLength.toNat) := (bodyOf_take htail).symm
      _ = bodyOf (event.body.toList.take event.bodyLength.toNat) := by rw [h.bodyLength, h.body]
      _ = bodyOf (r.body.toList.take r.bodyLength.toNat) := by
        rw [hcarries.body, hcarries.bodyLength, hrec.body, hrec.bodyLength]
      _ = r.body := hbody

/-- A QUEUED record that is given up answers to the response that was received. -/
theorem Linked.releases (h : Linked device hub st chron) {b : Node.Action} {slot : SlotIndex} {c c' : CopySlot}
    {r r' : NodeRecord} (hr : Node.SlotHolds st.node.image slot c r) (hq : r.state = .queued)
    (hr' : Node.SlotHolds (st.nodeStep device hub b).node.image slot c' r') (hfree : r'.state = .free) :
    ∃ bytes, b.received? = some bytes ∧ Node.AdmittedBy device hub bytes r ∧
      bodyOf (r.body.toList.take r.bodyLength.toNat) = r.body ∧
      ∀ entry ∈ chron.history, ∀ event, entry.sends event → r.eventEpoch = event.epoch → r.eventId = event.id →
        ∃ input, Node.RecordOf r input ∧ Node.Carries event input := by
  have hmachine := h.machine
  rcases h.consistent with ⟨hasleep, -⟩ | ⟨v, halive, hlog, hfifo, -⟩
  · rw [hmachine] at hasleep
    rw [hasleep.dormant slot c r hr] at hq
    cases hq
  rw [hmachine] at halive
  obtain ⟨v', halive', hturn⟩ := halive.step b
  obtain ⟨md, hd, -⟩ := halive.stored.lineage
  obtain ⟨md', hd', -⟩ := halive'.stored.lineage
  obtain ⟨c1, h1⟩ := hd.slot slot
  obtain ⟨c2, h2⟩ := hd'.slot slot
  obtain rfl : v.records slot = r := (h1.unique hr).2
  obtain rfl : v'.records slot = r' := (h2.unique hr').2
  have hown := Node.owned_of_queued hq
  obtain ⟨bytes, hbytes, hby⟩ := hturn.released hq (fun ho => ho hfree)
  exact ⟨bytes, hbytes, hby, Node.body_of_valid (halive.stored.valid slot) hown,
    fun entry he event hse hep hid => hlog.content hfifo he hse hown hep hid⟩

end Content

/-! ### The run of a system -/

section Run

variable {device hub : UInt8} {c : Channel}

/-- The record was ACTIVE in the flash of the Hub, with its Event. -/
def WasActive (history : List Entry) (held : HubRecord) : Prop :=
  ∃ entry ∈ history, ∃ held', Active entry.after held' ∧ Hub.SameEvent held' held

theorem WasActive.mono {history : List Entry} {held held' : HubRecord} (h : WasActive history held)
    (hs : Hub.SameEvent held held') (x : Entry) : WasActive (history ++ [x]) held' := by
  obtain ⟨entry, he, first, ha, hsame⟩ := h
  exact ⟨entry, List.mem_append_left _ he, first, ha, hsame.trans hs⟩

/-- An ADMITTED response answers an Event that the Node has sent and that was ACTIVE at the Hub. -/
def Vouches (device : UInt8) (chron : Node.Chronicle) (history : List Entry) (bytes : Bytes) : Prop :=
  ∀ answer, decodeAdmissionResponse bytes = some answer → answer.status = .admitted →
    ∃ event, (∃ entry ∈ chron.history, entry.sends event) ∧ event.source = device ∧ answer.epoch = event.epoch ∧
      answer.id = event.id ∧ ∃ entry ∈ history, ∃ held, Active entry.after held ∧ Matches held event

theorem Vouches.mono {chron chron' : Node.Chronicle} {history : List Entry} {bytes : Bytes}
    (h : Vouches device chron history bytes) (hc : ∀ entry ∈ chron.history, entry ∈ chron'.history) (x : Entry) :
    Vouches device chron' (history ++ [x]) bytes := by
  intro answer hdec hst
  obtain ⟨event, ⟨sent, hsent, hse⟩, hs, hep, hid, entry, he, held, ha, hm⟩ := h answer hdec hst
  exact ⟨event, ⟨sent, hc sent hsent, hse⟩, hs, hep, hid, entry, List.mem_append_left _ he, held, ha, hm⟩

/-- **The invariant of a system.** -/
structure Custodial (device hub : UInt8) (r : Chronicle) (chron : Node.Chronicle) : Prop where
  linked : Linked device hub r.state chron
  living : Hub.Living hub device r.state.hub
  owned : ∀ held, Hub.HoldsRecord r.state.hub.image held → held.Owned → WasActive r.history held
  acks : ∀ bytes ∈ r.state.acks, Vouches device chron r.history bytes
  held : Held r.history r.state
  keeps : KeepsCustody device r.history

variable {r : Chronicle} {chron : Node.Chronicle} {x : Entry}

/-- Nothing happens at the Hub. -/
theorem Custodial.node (h : Custodial device hub r chron) (hx : x.before = r.state) (hhub : x.after.hub = r.state.hub)
    (hacks : x.after.acks = r.state.acks) {chron' : Node.Chronicle} (hlinked : Linked device hub x.after chron')
    (hc : ∀ entry ∈ chron.history, entry ∈ chron'.history)
    (hrel : ∀ rec, x.releases rec → ∃ entry ∈ r.history, ∃ held, Active entry.after held ∧ InCustody device rec held) :
    Custodial device hub ⟨x.after, r.history ++ [x]⟩ chron' := by
  have hkeeps : x.Keeps := .of_same (by rw [hhub, hx])
  refine ⟨hlinked, ?_, fun held hh ho => ?_, fun bytes hb => ?_, ?_, ?_⟩
  · rw [hhub]
    exact h.living
  · rw [hhub] at hh
    exact (h.owned held hh ho).mono (.refl held) x
  · rw [hacks] at hb
    exact (h.acks bytes hb).mono hc x
  · exact Held.step (by rw [hx]; exact h.held) hkeeps
  · exact h.keeps.step (by rw [hx]; exact h.held) hkeeps hrel

theorem Custodial.nodeStep (h : Custodial device hub r chron) (a : Action) {b : Node.Action}
    (hb : ∀ bytes, b.received? = some bytes → bytes ∈ r.state.acks) :
    Custodial device hub ⟨r.state.nodeStep device hub b, r.history ++ [⟨r.state, a, r.state.nodeStep device hub b⟩]⟩
      (chron.step device hub b) := by
  refine h.node (x := ⟨r.state, a, r.state.nodeStep device hub b⟩) rfl rfl rfl (h.linked.nodeStep b)
    (fun entry he => List.mem_append_left _ he) ?_
  rintro rec ⟨hq, slot, c, c', rec', hr, hr', hfree⟩
  obtain ⟨bytes, hbytes, ⟨response, sequence, hdec, hst, hm⟩, hbody, hcontent⟩ := h.linked.releases hr hq hr' hfree
  obtain ⟨event, ⟨sent, hsent, hse⟩, hsource, hep, hid, entry, he, held, ha, hmatch⟩ :=
    h.acks bytes (hb bytes hbytes) response hdec hst
  simp only [matchesEvent, Bool.and_eq_true, beq_iff_eq, Node.Ram.eventOf] at hm
  have hep' : rec.eventEpoch = event.epoch := hm.1.2.symm.trans hep
  have hid' : rec.eventId = event.id := hm.2.symm.trans hid
  obtain ⟨input, hrec, hcarries⟩ := hcontent sent hsent event hse hep' hid'
  exact ⟨entry, he, held, ha, hmatch.inCustody ha.1.valid (Hub.owned_of_active ha.2) hsource hep' hid' hrec hcarries
    hbody⟩

theorem Custodial.hubStep (h : Custodial device hub r chron) {a : Action} {b : Hub.Action}
    (hp : Picked c device hub r.state.events b)
    (hcons : ∀ identity, b.consumes? = some identity → a.consumes? = some identity) :
    Custodial device hub ⟨r.state.hubStep device hub b, r.history ++ [⟨r.state, a, r.state.hubStep device hub b⟩]⟩
      chron := by
  obtain ⟨hliving, hmoved, hcustody⟩ := h.living.step b
  set x : Entry := ⟨r.state, a, r.state.hubStep device hub b⟩ with hx
  have hkeeps : x.Keeps := by
    rintro held ⟨hh, hs⟩ hno
    rcases hmoved.active held hh hs with ⟨held', hh', hs', hsame⟩ | ⟨hc, hconsumed⟩
    · exact ⟨held', ⟨hh', hs'⟩, hsame⟩
    · exact absurd ⟨hcons _ hc, hconsumed⟩ hno
  have howned : ∀ held, Hub.HoldsRecord x.after.hub.image held → held.Owned → WasActive (r.history ++ [x]) held := by
    intro held hh ho
    rcases hmoved.origin held hh ho with ⟨old, hold, hown, hsame, -⟩ | ⟨hs, -⟩
    · exact (h.owned old hold hown).mono hsame x
    · exact ⟨x, List.mem_append_right _ List.mem_cons_self, held, ⟨hh, hs⟩, .refl held⟩
  refine ⟨h.linked.hubStep b, hliving, howned, fun bytes hb => ?_, Held.step (x := x) h.held hkeeps,
    h.keeps.step h.held hkeeps ?_⟩
  · rcases List.mem_append.1 hb with hb | hb
    · exact (h.acks bytes hb).mono (fun _ he => he) x
    · intro answer hdec hst
      obtain ⟨event, answer', hevent, hdec', -, hep, hid, hown⟩ := hcustody bytes (Option.mem_toList.1 hb)
      obtain rfl : answer' = answer := Option.some.inj (hdec'.symm.trans hdec)
      obtain ⟨hsent, hsource, -⟩ := h.linked.picked hp hevent
      obtain ⟨held, hh, ho, hsame⟩ := hown hst
      obtain ⟨entry, he, first, ha, hfirst⟩ := howned held hh ho
      exact ⟨event, hsent, hsource, hep, hid, entry, he, first, ha, (matches_of_sameCanonical hsame).same hfirst⟩
  · rintro rec ⟨hq, slot, c, c', rec', hr, hr', hfree⟩
    obtain rfl : rec' = rec := (hr'.unique hr).2
    rw [hq] at hfree
    cases hfree

theorem Custodial.step (h : Custodial device hub r chron) (a : Action) :
    ∃ chron', Custodial device hub (r.step c device hub a) chron' := by
  refine step_cases (Q := fun st' => ∃ chron', Custodial device hub ⟨st', r.history ++ [⟨r.state, a, st'⟩]⟩ chron')
    r.state a ?_ (fun b hb _ => ⟨_, h.nodeStep a hb⟩) fun b hp hcons => ⟨chron, h.hubStep hp hcons⟩
  refine ⟨chron, h.node (x := ⟨r.state, a, r.state⟩) rfl rfl rfl h.linked (fun _ he => he) ?_⟩
  rintro rec ⟨hq, slot, c, c', rec', hr, hr', hfree⟩
  obtain rfl : rec' = rec := (hr'.unique hr).2
  rw [hq] at hfree
  cases hfree

theorem custodial_start {nodeImage hubImage : Image} (hn : Node.Dormant nodeImage) (hh : Hub.Unborn hubImage) :
    Custodial device hub ⟨.start nodeImage hubImage, []⟩ ⟨.off nodeImage, []⟩ := by
  refine ⟨⟨rfl, Node.consistent_chronicle hn [], rfl⟩, Or.inl ⟨hh, rfl⟩, fun held hheld ho => ?_, ?_, ?_, ?_, ?_⟩
  · exact absurd ho (hh.not_owned hheld)
  · exact fun bytes hb => (by cases hb)
  · exact fun past entry rest held hsplit => absurd hsplit (by simp)
  · exact fun past release rest rec hsplit => absurd hsplit (by simp)
  · exact fun past entry mid later rest held hsplit => absurd hsplit (by simp)

theorem custodial_chronicle {nodeImage hubImage : Image} (hn : Node.Dormant nodeImage) (hh : Hub.Unborn hubImage)
    (actions : List Action) :
    ∃ chron, Custodial device hub (chronicle c device hub nodeImage hubImage actions) chron := by
  unfold chronicle
  refine List.foldlRecOn (motive := fun r => ∃ chron, Custodial device hub r chron) actions _ ?_ fun r hr a _ => ?_
  · exact ⟨_, custodial_start hn hh⟩
  · obtain ⟨chron, h⟩ := hr
    exact h.step a

/-- **No loss of custody**, whatever happens to packets and to power. -/
theorem no_loss_of_custody {nodeImage hubImage : Image} (hn : Node.Dormant nodeImage) (hh : Hub.Unborn hubImage)
    (actions : List Action) :
    KeepsCustody device (chronicle .reordering device hub nodeImage hubImage actions).history := by
  have hrun : ∃ chron, Custodial device hub (chronicle .reordering device hub nodeImage hubImage actions) chron :=
    custodial_chronicle hn hh actions
  obtain ⟨chron, h⟩ := hrun
  exact h.keeps

/-- Both sides start, and a manual check-in is created, sent, admitted and given up. -/
def firstAdmission : List Action :=
  .hub (.call .recover none) :: Node.firstDelivery.map .node ++
    [.node (.call .txStarted 4 none), .receiveEvent 0 none, .node (.call .txCompleted 5 none),
      .receiveAck 0 6 0 none]

theorem no_loss_of_custody_first_admission :
    ((chronicle .reordering 2 1 blankImage blankImage firstAdmission).history.map fun entry =>
        ((entry.after.node.image (.event 0 .B)).bind Node.decodeNodeRecordForSelection).map NodeRecord.state) =
      [none, none, some .queued, some .queued, some .queued, some .queued, some .queued, some .queued, some .free] ∧
    KeepsCustody 2 (chronicle .reordering 2 1 blankImage blankImage firstAdmission).history :=
  ⟨by decide +kernel, no_loss_of_custody Node.dormant_blank Hub.unborn_blankImage firstAdmission⟩

end Run

end Redline.Network
