import Mathlib.Data.List.Forall2
import Redline.Esp32.Committing
import Redline.Network.Machine

/-!
# Node and Hub on their chips

The network once more, with each side keeping its copies in the flash of a chip: a call makes its calls of a library
that is as documented, and power may be lost in front of any of them or inside it.  `chips_refine`: seen through
`Side.image`, every run of the chips is a run of the network with the same calls.
-/

namespace Redline.Esp32

open Redline.Wire Redline.Records Redline.Lib Redline.Lib.Preferences

/-- A side of the network on its chip. -/
structure Chip (L : Library) (Ram : Type) where
  ram : Ram
  library : L.State

/-- The chip after a loss of power. -/
def Chip.off {L : Library} {Ram : Type} (initial : Ram) (u : L.State) : Chip L Ram := ⟨initial, L.restart u⟩

/-- A call over the Event storage of a chip: what it answers, and the chip after it. -/
def Chip.call {L : Library} {Ram Answer : Type} (side : Side) (initial : Ram) (quiet : Answer)
    (p : StorageM (Ram × Answer)) (cut : Option L.Cut) (u : L.State) : Chip L Ram × Answer :=
  match L.execute (p.through side.store) [] cut u with
  | (some r, u') => (⟨r.1, u'⟩, r.2)
  | (none, u') => (⟨initial, u'⟩, quiet)

/-- Both chips, and the packets that have gone on the air. -/
structure Chips (L : Library) where
  node : Chip L Node.Ram
  hub : Chip L Hub.Ledger
  events : List Bytes
  acks : List Bytes

namespace Chips

/-- What happens at the chips; where a call is cut, it is cut in one of its library calls. -/
inductive Action (L : Library)
  | node (call : Node.Call) (now : UInt32) (cut : Option L.Cut)
  | nodePowerLoss
  | receiveAck (packet : ℕ) (now : UInt32) (jitter : UInt16) (cut : Option L.Cut)
  | hub (call : Hub.Call) (cut : Option L.Cut)
  | hubPowerLoss
  | receiveEvent (packet : ℕ) (cut : Option L.Cut)

def Action.cut? {L : Library} : Action L → Option L.Cut
  | .node _ _ cut | .receiveAck _ _ _ cut | .hub _ cut | .receiveEvent _ cut => cut
  | _ => none

/-- The same action of the network, cut in another way. -/
def Action.over {L : Library} (cut : Option (PowerCut Bytes)) : Action L → Network.Action
  | .node call now _ => .node (.call call now cut)
  | .nodePowerLoss => .node .powerLoss
  | .receiveAck packet now jitter _ => .receiveAck packet now jitter cut
  | .hub call _ => .hub (.call call cut)
  | .hubPowerLoss => .hub .powerLoss
  | .receiveEvent packet _ => .receiveEvent packet cut

/-- An action of the network that does what one of the chips does.  It is cut only if that one is. -/
def Action.Redone {L : Library} (a : Action L) (a' : Network.Action) : Prop := ∃ cut, a' = a.over cut ∧ (a.cut? = none → cut = none)

section Machine

variable {L : Library} (c : Network.Channel) (device hub : UInt8)

def nodeCall (st : Chips L) (call : Node.Call) (now : UInt32) (cut : Option L.Cut) : Chips L :=
  let r := Chip.call .node .initial .none (call.run device hub now st.node.ram) cut st.node.library
  { st with node := r.1, events := st.events ++ Network.packets r.2 }

def hubCall (st : Chips L) (call : Hub.Call) (cut : Option L.Cut) : Chips L :=
  let r := Chip.call .hub .initial none (call.run hub device st.hub.ram) cut st.hub.library
  { st with hub := r.1, acks := st.acks ++ r.2.toList }

def step (st : Chips L) : Action L → Chips L
  | .node (.admissionCandidate _ _) _ _ => st
  | .node call now cut => st.nodeCall device hub call now cut
  | .nodePowerLoss => { st with node := .off .initial st.node.library }
  | .receiveAck packet now jitter cut =>
    match st.acks[packet]? with
    | none => st
    | some bytes => st.nodeCall device hub (.admissionCandidate bytes jitter) now cut
  | .hub (.process _) _ => st
  | .hub call cut => st.hubCall device hub call cut
  | .hubPowerLoss => { st with hub := .off .initial st.hub.library }
  | .receiveEvent packet cut =>
    match c.event? st.events packet with
    | none => st
    | some bytes => st.hubCall device hub (.process bytes) cut

/-- Both chips after a loss of power, and nothing on the air. -/
def start (node hub : L.State) : Chips L := ⟨.off .initial node, .off .initial hub, [], []⟩

def run (st : Chips L) (actions : List (Action L)) : Chips L := actions.foldl (step c device hub) st

end Machine

/-- The network that the chips are. -/
def network {L : Library} (st : Chips L) : Network.State :=
  ⟨⟨st.node.ram, Side.node.image (L.store st.node.library).flash⟩,
    ⟨st.hub.ram, Side.hub.image (L.store st.hub.library).flash⟩, st.events, st.acks⟩

/-- No namespace is open on either chip, as it is between two calls. -/
structure Closed {L : Library} (st : Chips L) : Prop where
  node : (L.store st.node.library).opened = none
  hub : (L.store st.hub.library).opened = none

/-! ### One step -/

section Steps

variable {L : Library} {bad : Cell → Entry → Bool} {c : Network.Channel} {device hub : UInt8} {st : Chips L}

/-- A call of a chip and a call on the flash of the model have ended alike. -/
inductive SameEnd {Ram Answer : Type} (side : Side) (initial : Ram) (quiet : Answer) :
    Chip L Ram × Answer → Outcome StorageKey Bytes (Ram × Answer) → Prop
  | done (r : Ram × Answer) (u : L.State) (d : Disk StorageKey Bytes)
      (hdata : d.data = side.image (L.store u).flash) : SameEnd side initial quiet (⟨r.1, u⟩, r.2) (.done r d)
  | lost (u : L.State) : SameEnd side initial quiet (⟨initial, u⟩, quiet) (.lost (side.image (L.store u).flash))

/-- **One call** of a chip ends as it may end on the flash of the model, with no namespace open. -/
theorem call_cases (hdoc : L.Documented bad) {side : Side} (hbad : side.Unreadable bad) {Ram Answer : Type}
    (initial : Ram) (quiet : Answer) {p : StorageM (Ram × Answer)} (hp : side.Committing p) (cut : Option L.Cut)
    {u : L.State} (hu : (L.store u).opened = none) :
    (L.store (Chip.call side initial quiet p cut u).1.library).opened = none ∧
    ∃ cut', SameEnd side initial quiet (Chip.call side initial quiet p cut u)
      (exec side.geometry.flash side.geometry.undecodable p cut' (Disk.clean (side.image (L.store u).flash))) ∧
      (cut = none → cut' = none) := by
  obtain ⟨hreturn, hcut⟩ := side.exec_of_committing hdoc hbad hp cut hu
  unfold Chip.call
  cases hlow : L.execute (p.through side.store) [] cut u with
  | mk value u' =>
    cases value with
    | some r =>
      obtain ⟨hclosed, d, hexec, hdata⟩ := hreturn r u' hlow
      refine ⟨hclosed, none, ?_, fun _ => rfl⟩
      rw [hexec]
      exact .done r u' d hdata
    | none =>
      obtain ⟨hclosed, hsome, cut', hexec⟩ := hcut u' hlow
      refine ⟨hclosed, cut', ?_, fun hnone => absurd hnone hsome⟩
      rw [hexec]
      exact .lost u'

theorem nodeCall_network (hdoc : L.Documented bad) (hbad : Side.node.Unreadable bad) (hst : st.Closed)
    (call : Node.Call) (now : UInt32) (cut : Option L.Cut) :
    (st.nodeCall device hub call now cut).Closed ∧ ∃ cut', (st.nodeCall device hub call now cut).network =
      st.network.nodeStep device hub (.call call now cut') ∧ (cut = none → cut' = none) := by
  obtain ⟨hclosed, cut', hend, hnone⟩ := call_cases hdoc hbad Node.Ram.initial Node.RadioAction.none
    (Side.node_committing device hub now st.node.ram call) cut hst.node
  refine ⟨⟨hclosed, hst.hub⟩, cut', ?_, hnone⟩
  unfold nodeCall Network.State.nodeStep Node.Machine.step
  generalize hlow : Chip.call .node Node.Ram.initial Node.RadioAction.none _ cut st.node.library = low at hend ⊢
  generalize hexec : exec Side.node.geometry.flash Side.node.geometry.undecodable _ cut' _ = outcome at hend
  dsimp only [network]
  erw [hexec]
  cases hend with
  | done r u d hdata =>
    dsimp only
    rw [hdata]
  | lost u => rfl

theorem hubCall_network (hdoc : L.Documented bad) (hbad : Side.hub.Unreadable bad) (hst : st.Closed)
    (call : Hub.Call) (cut : Option L.Cut) :
    (st.hubCall device hub call cut).Closed ∧ ∃ cut', (st.hubCall device hub call cut).network =
      st.network.hubStep device hub (.call call cut') ∧ (cut = none → cut' = none) := by
  obtain ⟨hclosed, cut', hend, hnone⟩ := call_cases hdoc hbad Hub.Ledger.initial (none : Option Bytes)
    (Side.hub_committing hub device st.hub.ram call) cut hst.hub
  refine ⟨⟨hst.node, hclosed⟩, cut', ?_, hnone⟩
  unfold hubCall Network.State.hubStep Hub.Machine.step
  generalize hlow : Chip.call .hub Hub.Ledger.initial (none : Option Bytes) _ cut st.hub.library = low at hend ⊢
  generalize hexec : exec Side.hub.geometry.flash Side.hub.geometry.undecodable _ cut' _ = outcome at hend
  dsimp only [network]
  erw [hexec]
  cases hend with
  | done r u d hdata =>
    dsimp only
    rw [hdata]
  | lost u => rfl

theorem closed_off (hdoc : L.Documented bad) (u : L.State) : (L.store (L.restart u)).opened = none := by
  rw [hdoc.restart]

/-- **One step** of the chips is a step of the network. -/
theorem step_network (hdoc : L.Documented bad) (hbad : ∀ side : Side, side.Unreadable bad) (hst : st.Closed)
    (a : Action L) : (st.step c device hub a).Closed ∧
      ∃ a', a.Redone a' ∧ (st.step c device hub a).network = st.network.step c device hub a' := by
  cases a with
  | node call now cut =>
    by_cases hreceives : ∃ bytes jitter, call = .admissionCandidate bytes jitter
    · obtain ⟨bytes, jitter, rfl⟩ := hreceives
      exact ⟨hst, _, ⟨none, rfl, fun _ => rfl⟩, rfl⟩
    · obtain ⟨hclosed, cut', hnetwork, hnone⟩ := nodeCall_network hdoc (hbad .node) hst call now cut
      have hstep : st.step c device hub (.node call now cut) = st.nodeCall device hub call now cut := by
        cases call with
        | admissionCandidate bytes jitter => exact absurd ⟨bytes, jitter, rfl⟩ hreceives
        | _ => rfl
      rw [hstep]
      refine ⟨hclosed, _, ⟨cut', rfl, hnone⟩, ?_⟩
      cases call with
      | admissionCandidate bytes jitter => exact absurd ⟨bytes, jitter, rfl⟩ hreceives
      | _ => exact hnetwork
  | nodePowerLoss =>
    refine ⟨⟨closed_off hdoc _, hst.hub⟩, _, ⟨none, rfl, fun _ => rfl⟩, ?_⟩
    simp [Action.over, step, network, Chip.off, hdoc.restart, Network.State.step, Network.State.nodeStep,
      Node.Machine.step, Node.Machine.off, Node.Action.received?, Network.packets]
  | receiveAck packet now jitter cut =>
    cases hpacket : st.acks[packet]? with
    | none =>
      have hstep : st.step c device hub (.receiveAck packet now jitter cut) = st := by
        simp only [step, hpacket]
      rw [hstep]
      refine ⟨hst, _, ⟨none, rfl, fun _ => rfl⟩, ?_⟩
      simp only [Action.over, Network.State.step]
      rw [show st.network.acks = st.acks from rfl, hpacket]
    | some bytes =>
      obtain ⟨hclosed, cut', hnetwork, hnone⟩ :=
        nodeCall_network hdoc (hbad .node) hst (.admissionCandidate bytes jitter) now cut
      have hstep : st.step c device hub (.receiveAck packet now jitter cut) =
          st.nodeCall device hub (.admissionCandidate bytes jitter) now cut := by
        simp only [step, hpacket]
      rw [hstep]
      refine ⟨hclosed, _, ⟨cut', rfl, hnone⟩, ?_⟩
      simp only [Action.over, Network.State.step]
      rw [show st.network.acks = st.acks from rfl, hpacket]
      exact hnetwork
  | hub call cut =>
    by_cases hreceives : ∃ bytes, call = .process bytes
    · obtain ⟨bytes, rfl⟩ := hreceives
      exact ⟨hst, _, ⟨none, rfl, fun _ => rfl⟩, rfl⟩
    · obtain ⟨hclosed, cut', hnetwork, hnone⟩ := hubCall_network hdoc (hbad .hub) hst call cut
      have hstep : st.step c device hub (.hub call cut) = st.hubCall device hub call cut := by
        cases call with
        | process bytes => exact absurd ⟨bytes, rfl⟩ hreceives
        | _ => rfl
      rw [hstep]
      refine ⟨hclosed, _, ⟨cut', rfl, hnone⟩, ?_⟩
      cases call with
      | process bytes => exact absurd ⟨bytes, rfl⟩ hreceives
      | _ => exact hnetwork
  | hubPowerLoss =>
    refine ⟨⟨hst.node, closed_off hdoc _⟩, _, ⟨none, rfl, fun _ => rfl⟩, ?_⟩
    simp [Action.over, step, network, Chip.off, hdoc.restart, Network.State.step, Network.State.hubStep,
      Hub.Machine.step, Hub.Machine.off, Network.processes]
  | receiveEvent packet cut =>
    cases hpacket : c.event? st.events packet with
    | none =>
      have hstep : st.step c device hub (.receiveEvent packet cut) = st := by
        simp only [step, hpacket]
      rw [hstep]
      refine ⟨hst, _, ⟨none, rfl, fun _ => rfl⟩, ?_⟩
      simp only [Action.over, Network.State.step]
      rw [show st.network.events = st.events from rfl, hpacket]
    | some bytes =>
      obtain ⟨hclosed, cut', hnetwork, hnone⟩ := hubCall_network hdoc (hbad .hub) hst (.process bytes) cut
      have hstep : st.step c device hub (.receiveEvent packet cut) = st.hubCall device hub (.process bytes) cut := by
        simp only [step, hpacket]
      rw [hstep]
      refine ⟨hclosed, _, ⟨cut', rfl, hnone⟩, ?_⟩
      simp only [Action.over, Network.State.step]
      rw [show st.network.events = st.events from rfl, hpacket]
      exact hnetwork

/-- From any state on in which no namespace is open, a run of the chips is one of the network, at each of its actions. -/
theorem run_network (hdoc : L.Documented bad) (hbad : ∀ side : Side, side.Unreadable bad) (hst : st.Closed)
    (actions : List (Action L)) :
    ∃ actions', List.Forall₂ Action.Redone actions actions' ∧ ∀ n,
      (st.run c device hub (actions.take n)).network =
        (actions'.take n).foldl (Network.State.step c device hub) st.network := by
  induction actions generalizing st with
  | nil =>
    refine ⟨[], .nil, fun n => ?_⟩
    simp [run]
  | cons a actions ih =>
    obtain ⟨hclosed, a', ha, hstep⟩ := @step_network L bad c device hub st hdoc hbad hst a
    obtain ⟨actions', hactions, hrun⟩ := ih hclosed
    refine ⟨a' :: actions', .cons ha hactions, fun n => ?_⟩
    cases n with
    | zero => rfl
    | succ n =>
      rw [List.take_succ_cons, List.take_succ_cons, List.foldl_cons, ← hstep, ← hrun n]
      rfl

end Steps

theorem chronicle_state (c : Network.Channel) (device hub : UInt8) (nodeImage hubImage : Image)
    (actions : List Network.Action) : (Network.chronicle c device hub nodeImage hubImage actions).state =
      actions.foldl (Network.State.step c device hub) (.start nodeImage hubImage) := by
  have hfold : ∀ r : Network.Chronicle, (actions.foldl (Network.Chronicle.step c device hub) r).state =
      actions.foldl (Network.State.step c device hub) r.state := by
    induction actions with
    | nil => exact fun r => rfl
    | cons a actions ih => exact fun r => ih _
  exact hfold _

end Chips

/-- **The chips are the network.**  On a library that is as documented, from any two flashes on, whatever the calls,
wherever in a library call power is lost and however the radio loses, duplicates or delays packets, the two chips do
what the network does under the same calls, cut in some way where they are cut: at each moment of the run the RAMs are
the same, the packets on the air are the same, and the copies are those that the keys of the flash hold. -/
theorem chips_refine (L : Library) (bad : Cell → Entry → Bool) (hdoc : L.Documented bad)
    (hbad : ∀ side : Side, side.Unreadable bad) (c : Network.Channel) (device hub : UInt8) (nodeStart hubStart : L.State)
    (actions : List (Chips.Action L)) :
    ∃ actions', List.Forall₂ Chips.Action.Redone actions actions' ∧ ∀ n,
      ((Chips.start nodeStart hubStart).run c device hub (actions.take n)).network =
        (Network.chronicle c device hub (Side.node.image (L.store nodeStart).flash)
          (Side.hub.image (L.store hubStart).flash) (actions'.take n)).state := by
  have hstart : (Chips.start nodeStart hubStart).Closed := ⟨Chips.closed_off hdoc _, Chips.closed_off hdoc _⟩
  have hnetwork : (Chips.start nodeStart hubStart).network =
      .start (Side.node.image (L.store nodeStart).flash) (Side.hub.image (L.store hubStart).flash) := by
    simp [Chips.start, Chips.network, Chip.off, hdoc.restart, Network.State.start, Node.Machine.off, Hub.Machine.off]
  obtain ⟨actions', hactions, hrun⟩ := @Chips.run_network L bad c device hub _ hdoc hbad hstart actions
  refine ⟨actions', hactions, fun n => ?_⟩
  rw [hrun n, Chips.chronicle_state, hnetwork]

/-- Two blank chips: the Node loses power inside a library call of its first start, starts again, and the Hub starts. -/
theorem chips_refine_starting :
    let L := Library.direct Side.emptied
    let actions : List (Chips.Action L) := [.node (.boot (some 7)) 100 (some ⟨4, .fails (.garbage (.blob []))⟩),
      .node (.boot (some 9)) 200 none, .hub .recover none]
    ∃ actions', List.Forall₂ Chips.Action.Redone actions actions' ∧ ∀ n,
      ((Chips.start (L := L) ⟨.blank, none⟩ ⟨.blank, none⟩).run .stopAndWait 2 1 (actions.take n)).network =
        (Network.chronicle .stopAndWait 2 1 (Side.node.image .blank) (Side.hub.image .blank) (actions'.take n)).state :=
  chips_refine (Library.direct Side.emptied) Side.emptied (Library.direct_documented Side.emptied)
    Side.unreadable_emptied .stopAndWait 2 1 ⟨.blank, none⟩ ⟨.blank, none⟩ _

end Redline.Esp32
