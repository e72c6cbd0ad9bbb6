import Redline.Node.Fifo
import Redline.Hub.Machine

/-!
# Node, Hub and the radio between them

The two machines in parallel.  The radio keeps every packet that has ever gone on the air; a delivery picks
one of them, so that packets are lost, duplicated, delayed and reordered, but never made up.  A stop-and-wait
radio delivers to the Hub only the EVENT that the Node has transmitted last.  Either side may lose power in any
call.
-/

namespace Redline.Network

open Redline.Wire Redline.Records Redline.Lib

inductive Channel
  | reordering
  | stopAndWait

/-- The EVENT packet a delivery picks. -/
def Channel.event? (c : Channel) (events : List Bytes) (packet : ℕ) : Option Bytes :=
  match c with
  | .reordering => events[packet]?
  | .stopAndWait => events.getLast?

structure State where
  node : Node.Machine
  hub : Hub.Machine
  /-- The EVENT packets that have gone on the air, the last one at the end. -/
  events : List Bytes
  /-- The admission responses that have gone on the air. -/
  acks : List Bytes

/-- Something happens at the Node or at the Hub.  Packets are received from the radio only. -/
inductive Action
  | node (a : Node.Action)
  | receiveAck (packet : ℕ) (now : UInt32) (jitter : UInt16) (cut : Option (PowerCut Bytes))
  | hub (a : Hub.Action)
  | receiveEvent (packet : ℕ) (cut : Option (PowerCut Bytes))

/-- The identity that the Host asks to consume. -/
def Action.consumes? : Action → Option Identity
  | .hub a => a.consumes?
  | _ => none

/-- A call of the Hub that processes a packet. -/
def processes : Hub.Action → Bool
  | .call (.process _) _ => true
  | _ => false

/-- The packet a call of the Node has put on the air. -/
def packets : Node.RadioAction → List Bytes
  | .transmit bytes => [bytes]
  | _ => []

namespace State

def nodeStep (device hub : UInt8) (st : State) (a : Node.Action) : State :=
  let r := st.node.step device hub a
  { st with node := r.1, events := st.events ++ packets r.2 }

def hubStep (device hub : UInt8) (st : State) (a : Hub.Action) : State :=
  let r := st.hub.step hub device a
  { st with hub := r.1, acks := st.acks ++ r.2.toList }

def step (c : Channel) (device hub : UInt8) (st : State) : Action → State
  | .node a => if a.received?.isSome then st else st.nodeStep device hub a
  | .receiveAck packet now jitter cut =>
    match st.acks[packet]? with
    | none => st
    | some bytes => st.nodeStep device hub (.call (.admissionCandidate bytes jitter) now cut)
  | .hub a => if processes a then st else st.hubStep device hub a
  | .receiveEvent packet cut =>
    match c.event? st.events packet with
    | none => st
    | some bytes => st.hubStep device hub (.call (.process bytes) cut)

/-- Both sides without power, and nothing on the air. -/
def start (nodeImage hubImage : Image) : State := ⟨.off nodeImage, .off hubImage, [], []⟩

end State

/-- An action with the system before and after it. -/
structure Entry where
  before : State
  action : Action
  after : State

structure Chronicle where
  state : State
  history : List Entry

def Chronicle.step (c : Channel) (device hub : UInt8) (r : Chronicle) (a : Action) : Chronicle :=
  ⟨r.state.step c device hub a, r.history ++ [⟨r.state, a, r.state.step c device hub a⟩]⟩

/-- The history of a system from two images on. -/
def chronicle (c : Channel) (device hub : UInt8) (nodeImage hubImage : Image) (actions : List Action) : Chronicle :=
  actions.foldl (Chronicle.step c device hub) ⟨.start nodeImage hubImage, []⟩

/-! ### The steps of a system -/

section Steps

variable {c : Channel} {device hub : UInt8}

/-- The Event that a call of the Hub processes was picked from the radio. -/
def Picked (c : Channel) (device hub : UInt8) (events : List Bytes) (a : Hub.Action) : Prop :=
  ∀ event, a.event? hub device = some event →
    ∃ packet bytes, c.event? events packet = some bytes ∧ Hub.HubAdapter.receivedEvent bytes hub device = some event

/-- **What an action is**: nothing, a step of the Node, or a step of the Hub. -/
theorem step_cases (st : State) (a : Action) {Q : State → Prop} (hsame : Q st)
    (hnode : ∀ b, (∀ bytes, b.received? = some bytes → bytes ∈ st.acks) → (∀ b', a = .node b' → b' = b) →
      Q (st.nodeStep device hub b))
    (hhub : ∀ b, Picked c device hub st.events b → (∀ identity, b.consumes? = some identity →
      a.consumes? = some identity) → Q (st.hubStep device hub b)) :
    Q (st.step c device hub a) := by
  cases a with
  | node b =>
    simp only [State.step]
    split
    · exact hsame
    · rename_i hnone
      refine hnode b (fun bytes hb => ?_) fun b' hb' => ?_
      · rw [hb] at hnone
        exact absurd rfl hnone
      · cases hb'
        rfl
  | receiveAck packet now jitter cut =>
    simp only [State.step]
    split
    · exact hsame
    · rename_i bytes hbytes
      refine hnode _ (fun bytes' hb => ?_) fun b' hb' => ?_
      · cases hb
        exact List.mem_of_getElem? hbytes
      · cases hb'
  | hub b =>
    simp only [State.step]
    split
    · exact hsame
    · rename_i hno
      refine hhub b (fun event he => ?_) fun identity h => h
      cases b with
      | powerLoss => cases he
      | call call cut =>
        cases call with
        | process bytes => exact absurd rfl hno
        | recover => cases he
        | consume identity => cases he
  | receiveEvent packet cut =>
    simp only [State.step]
    split
    · exact hsame
    · rename_i bytes hbytes
      refine hhub _ (fun event he => ⟨packet, bytes, hbytes, he⟩) fun identity h => ?_
      cases h

/-- The packet a delivery picks has been on the air. -/
theorem Channel.mem_of_event? {events : List Bytes} {packet : ℕ} {bytes : Bytes}
    (h : c.event? events packet = some bytes) : bytes ∈ events := by
  cases c with
  | reordering => exact List.mem_of_getElem? h
  | stopAndWait => exact List.mem_of_getLast? h

end Steps

/-! ### The Event on both sides -/

/-- What the Hub receives is the Event that the Node has put on the air. -/
theorem receivedEvent_of_decodeEvent {bytes : Bytes} {hub node : UInt8} {event event' : Event}
    (h : decodeEvent bytes = some event) (h' : Hub.HubAdapter.receivedEvent bytes hub node = some event') :
    event' = event ∧ event'.source = node ∧ event'.destination = hub := by
  unfold decodeEvent at h
  unfold Hub.HubAdapter.receivedEvent at h'
  cases hdec : decode bytes with
  | none =>
    rw [hdec] at h
    cases h
  | some packet =>
    rw [hdec] at h h'
    dsimp only at h h'
    split at h'
    · cases h'
    rename_i hroute
    split at h'
    · cases h'
    split at h
    · cases h
    split at h
    · cases h
    split at h
    · cases h
      cases h'
      rw [not_or, not_or, not_not, not_or, not_not] at hroute
      exact ⟨rfl, hroute.2.1, not_not.1 hroute.2.2.1⟩
    · cases h

/-! ### The Node in the system -/

section Linked

variable {device hub : UInt8} {st : State} {chron : Node.Chronicle}

/-- The history of the Node, with the packets it has put on the air. -/
structure Linked (device hub : UInt8) (st : State) (chron : Node.Chronicle) : Prop where
  machine : chron.machine = st.node
  consistent : Node.Consistent device hub chron
  events : st.events = chron.history.flatMap fun entry => packets entry.radio

theorem Linked.nodeStep (h : Linked device hub st chron) (a : Node.Action) :
    Linked device hub (st.nodeStep device hub a) (chron.step device hub a) := by
  refine ⟨?_, h.consistent.step a, ?_⟩
  · simp only [State.nodeStep, Node.Chronicle.step, h.machine]
  · simp only [State.nodeStep, Node.Chronicle.step, h.machine, h.events, List.flatMap_append, List.flatMap_singleton]

theorem Linked.hubStep (h : Linked device hub st chron) (a : Hub.Action) :
    Linked device hub (st.hubStep device hub a) chron := ⟨h.machine, h.consistent, h.events⟩

theorem mem_packets {radio : Node.RadioAction} {bytes : Bytes} : bytes ∈ packets radio ↔ radio = .transmit bytes := by
  cases radio <;> simp [packets, eq_comm]

/-- Every packet on the air is an Event that the Node has sent. -/
theorem Linked.sent (h : Linked device hub st chron) {bytes : Bytes} (hb : bytes ∈ st.events) :
    ∃ entry ∈ chron.history, ∃ event, decodeEvent bytes = some event ∧ entry.sends event := by
  rw [h.events, List.mem_flatMap] at hb
  obtain ⟨entry, hmem, hb⟩ := hb
  rw [mem_packets] at hb
  obtain ⟨event, hdec⟩ := h.consistent.strictFifo.decodes entry hmem bytes hb
  refine ⟨entry, hmem, event, hdec, ?_⟩
  rw [Node.Entry.sends, hb]
  exact hdec

/-- Every Event that the Node has sent is on the air. -/
theorem Linked.transmitted (h : Linked device hub st chron) {entry : Node.Entry} (he : entry ∈ chron.history)
    {event : Event} (hse : entry.sends event) : ∃ bytes ∈ st.events, decodeEvent bytes = some event := by
  unfold Node.Entry.sends at hse
  cases hr : entry.radio with
  | none =>
    rw [hr] at hse
    cases hse
  | receive =>
    rw [hr] at hse
    cases hse
  | transmit bytes =>
    rw [hr] at hse
    refine ⟨bytes, ?_, hse⟩
    rw [h.events, List.mem_flatMap]
    exact ⟨entry, he, mem_packets.2 hr⟩

/-- The Event that the Hub processes is one that the Node has sent. -/
theorem Linked.picked {c : Channel} (h : Linked device hub st chron) {a : Hub.Action} (hp : Picked c device hub st.events a)
    {event : Event} (he : a.event? hub device = some event) :
    (∃ entry ∈ chron.history, entry.sends event) ∧ event.source = device ∧ event.destination = hub ∧
      ∃ packet bytes, c.event? st.events packet = some bytes ∧ decodeEvent bytes = some event := by
  obtain ⟨packet, bytes, hpick, hrec⟩ := hp event he
  obtain ⟨entry, hmem, event', hdec, hsend⟩ := h.sent (Channel.mem_of_event? hpick)
  obtain ⟨rfl, hs, hd⟩ := receivedEvent_of_decodeEvent hdec hrec
  exact ⟨⟨entry, hmem, hsend⟩, hs, hd, packet, bytes, hpick, hdec⟩

end Linked

end Redline.Network
