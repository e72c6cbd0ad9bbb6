import Redline.Host.Processor
import Redline.Host.Transactions
import Redline.Lib.Run

/-!
# TEST transactions over the air

The two parties of a TEST transaction and the air between them.  The Hub transmits the command, waits, retransmits and
ends the transaction; the Node evaluates what it hears and acknowledges it.  A packet on the air carries the number of
the transaction that it belongs to: it may be lost or heard any number of times, but only until that transaction ends.

The sequence of a command is the number of its transaction, on eight bits, and the Node remembers one command.  So the
Node tells two transactions apart as long as fewer than 255 in a row go by unheard: `Heeds` is the invariant, and
`transactions_agree` the result.
-/

namespace Redline.Host

open Redline.Wire Redline.Lib

structure TestLink where
  transaction : ℕ
  hub : HubTransactionState
  /-- A copy of the command has been given to the radio in this attempt. -/
  outstanding : Bool
  node : NodeDuplicateTracker
  air : List (ℕ × Packet)

inductive TestCall
  | transmit
  | transmitFailed
  | receiveStarted (now : UInt32)
  | receiveFailed
  | waited (now : UInt32)
  | hubHears (transaction : ℕ) (packet : Packet)
  | nodeHears (transaction : ℕ) (packet : Packet)
  deriving DecidableEq

inductive TestOutcome
  | none
  | hub (action : HubTransactionAction)
  | node (outcome : NodeCommandOutcome)
  deriving DecidableEq

/-- The command of the Hub, as `prepareCommand` makes it. -/
def testCommand (hubId nodeId sequence : UInt8) : Packet :=
  { blankPacket with type := .command, source := hubId, destination := nodeId, sequence, opcode := opcodeTest
                     payload := [] }

def NodeCommandOutcome.acknowledges : NodeCommandOutcome → Bool
  | .duplicate | .ackSuccess | .ackUnsupportedOpcode | .ackMalformedPacket => true
  | .ignoreWrongDestination | .ignoreWrongSender | .ignoreWrongPacketType => false

def HubTransactionState.requestedTransmission (t : HubTransactionState) : HubTransactionAction :=
  if t.retryCount = 0 then .transmitInitial else .retransmit

namespace TestLink

/-- `HubTransactionState` as it is constructed, and a Node that has heard nothing. -/
def initial (initialSequence maximumRetries : UInt8) (acknowledgmentTimeoutMs : UInt32) : TestLink where
  transaction := 0
  hub := ⟨initialSequence, 0, maximumRetries, false, 0, acknowledgmentTimeoutMs⟩
  outstanding := false
  node := .initial
  air := []

/-- `completeTransaction`. -/
def ended (s : TestLink) : TestLink :=
  { s with hub := s.hub.completeTransaction, transaction := s.transaction + 1, outstanding := false }

/-- `scheduleRetryOrNext`. -/
def attemptFailed (s : TestLink) : TestLink × TestOutcome :=
  let (hub, action) := s.hub.attemptFailed
  if action = .retransmit then ({ s with hub, outstanding := false }, .hub action)
  else ({ s with hub }.ended, .hub action)

variable (hubId nodeId : UInt8)

def command (s : TestLink) : Packet := testCommand hubId nodeId s.hub.sequence

/-- An acknowledgment that the Hub hears while it waits. -/
def acknowledged (s : TestLink) (packet : Packet) : TestLink × TestOutcome :=
  let (outcome, rawStatus) := evaluateHubAcknowledgment packet (s.command hubId nodeId) hubId nodeId
  if outcome ≠ .matchingAck then (s, .none)
  else if !isValidAckStatus rawStatus then (s.ended, .none)
  else (s.ended, .hub (HubTransactionState.acknowledgmentCompletionAction rawStatus))

/-- A packet that the Node hears, and the acknowledgment that it gives to the air. -/
def evaluated (s : TestLink) (transaction : ℕ) (packet : Packet) : TestLink × TestOutcome :=
  let (node, outcome, status) := evaluateNodeCommand packet nodeId hubId s.node
  let air := if outcome.acknowledges then s.air ++ [(transaction, makeAcknowledgment packet status)] else s.air
  ({ s with node, air }, .node outcome)

/-- A step of the pair, where the call is one that it can take.  No packet is heard after its transaction. -/
def step (s : TestLink) : TestCall → Option (TestLink × TestOutcome)
  | .transmit =>
    if s.outstanding then none
    else some ({ s with outstanding := true, air := s.air ++ [(s.transaction, s.command hubId nodeId)] },
      .hub s.hub.requestedTransmission)
  | .transmitFailed => if s.outstanding then none else some s.attemptFailed
  | .receiveStarted now =>
    if s.outstanding then some ({ s with hub := s.hub.beginAcknowledgmentWait now }, .none) else none
  | .receiveFailed => if s.outstanding then some s.attemptFailed else none
  | .waited now => if s.hub.acknowledgmentWaitAction now ≠ .noAction then some s.attemptFailed else none
  | .hubHears transaction packet =>
    if (transaction, packet) ∈ s.air ∧ transaction = s.transaction ∧ s.hub.awaitingAcknowledgment = true then
      some (s.acknowledged hubId nodeId packet)
    else none
  | .nodeHears transaction packet =>
    if (transaction, packet) ∈ s.air ∧ transaction = s.transaction then
      some (s.evaluated hubId nodeId transaction packet)
    else none

end TestLink

structure TestTurn where
  before : TestLink
  call : TestCall
  outcome : TestOutcome
  after : TestLink

namespace TestTurn

/-- The Node accepts the command of the transaction. -/
def accepts (k : ℕ) (t : TestTurn) : Bool :=
  match t.call with
  | .nodeHears transaction _ => transaction == k && t.outcome == .node .ackSuccess
  | _ => false

/-- The Node hears a copy of the command of the transaction. -/
def hears (k : ℕ) (t : TestTurn) : Bool :=
  match t.call with
  | .nodeHears transaction packet => transaction == k && packet.type == .command
  | _ => false

def transmits (k : ℕ) (t : TestTurn) : Bool := t.call == .transmit && t.before.transaction == k

end TestTurn

def testSystem (hubId nodeId : UInt8) : System TestLink TestTurn where
  before := TestTurn.before
  after := TestTurn.after
  Steps t := t.before.step hubId nodeId t.call = some (t.after, t.outcome)

/-- Of any 255 transactions in a row that have ended, the Node has heard one. -/
def HeardInTime (turns : List TestTurn) (last : TestLink) : Prop :=
  ∀ k, k + 255 ≤ last.transaction → ∃ j, k ≤ j ∧ j < k + 255 ∧ turns.any (·.hears j)

structure TransactionsAgree (hubId nodeId maximumRetries : UInt8) (turns : List TestTurn) : Prop where
  accepted : ∀ k, turns.countP (·.accepts k) ≤ 1
  succeeded : ∀ t ∈ turns, t.outcome = .hub .transactionSucceeded →
    turns.countP (·.accepts t.before.transaction) = 1
  copies : ∀ k, turns.countP (·.transmits k) ≤ 1 + maximumRetries.toNat
  consecutive : ∀ t ∈ turns, ∀ u ∈ turns, t.call = .transmit → u.call = .transmit →
    u.before.transaction = t.before.transaction + 1 →
    (u.before.command hubId nodeId).sequence ≠ (t.before.command hubId nodeId).sequence

variable {hubId nodeId first maximumRetries : UInt8} {t : TestTurn} {turns past rest : List TestTurn} {s : TestLink}

/-! ### What a step can do -/

/-- What the Hub alone can do. -/
inductive TestLink.Moves (s : TestLink) : TestLink → Prop
  | stays {hub : HubTransactionState} (hsequence : hub.sequence = s.hub.sequence)
      (hretries : hub.retryCount = s.hub.retryCount) (hmax : hub.maximumRetries = s.hub.maximumRetries) :
      Moves s { s with hub }
  | retries {hub : HubTransactionState} (hsequence : hub.sequence = s.hub.sequence)
      (hlt : s.hub.retryCount < s.hub.maximumRetries) (hretries : hub.retryCount = s.hub.retryCount + 1)
      (hmax : hub.maximumRetries = s.hub.maximumRetries) : Moves s { s with hub, outstanding := false }
  | ends {hub : HubTransactionState} (hsequence : hub.sequence = s.hub.sequence + 1) (hretries : hub.retryCount = 0)
      (hmax : hub.maximumRetries = s.hub.maximumRetries) :
      Moves s { s with hub, transaction := s.transaction + 1, outstanding := false }

theorem TestLink.attemptFailed_moves (s : TestLink) :
    s.Moves s.attemptFailed.1 ∧ s.attemptFailed.2 ≠ .hub .transactionSucceeded := by
  unfold attemptFailed HubTransactionState.attemptFailed
  by_cases hlt : s.hub.retryCount < s.hub.maximumRetries
  · simp only [if_pos hlt]
    exact ⟨.retries rfl hlt rfl rfl, by simp⟩
  · simp only [if_neg hlt]
    exact ⟨.ends rfl rfl rfl, by simp⟩

/-- **The kinds of turns.** -/
inductive TestTurn.Kind (hubId nodeId : UInt8) (t : TestTurn) : Prop
  | transmits (hcall : t.call = .transmit) (hfree : t.before.outstanding = false)
      (hafter : t.after = { t.before with
        outstanding := true, air := t.before.air ++ [(t.before.transaction, t.before.command hubId nodeId)] })
      (houtcome : t.outcome ≠ .hub .transactionSucceeded)
  | moves (hmoves : t.before.Moves t.after)
      (hquiet : ∀ k, t.accepts k = false ∧ t.hears k = false ∧ t.transmits k = false)
      (hsucceeds : t.outcome = .hub .transactionSucceeded → ∃ packet, (t.before.transaction, packet) ∈ t.before.air ∧
        evaluateHubAcknowledgment packet (t.before.command hubId nodeId) hubId nodeId = (.matchingAck, AckStatus.success))
  | hears (packet : Packet) (hcall : t.call = .nodeHears t.before.transaction packet)
      (hair : (t.before.transaction, packet) ∈ t.before.air)
      (hafter : t.after = (t.before.evaluated hubId nodeId t.before.transaction packet).1)
      (houtcome : t.outcome = (t.before.evaluated hubId nodeId t.before.transaction packet).2)

theorem TestTurn.kind (h : (testSystem hubId nodeId).Steps t) : t.Kind hubId nodeId := by
  obtain ⟨before, call, outcome, after⟩ := t
  have hstep : before.step hubId nodeId call = some (after, outcome) := h
  have hfailed : before.attemptFailed = (after, outcome) → (∀ k, TestTurn.accepts k ⟨before, call, outcome, after⟩ = false ∧
      TestTurn.hears k ⟨before, call, outcome, after⟩ = false ∧
      TestTurn.transmits k ⟨before, call, outcome, after⟩ = false) →
      TestTurn.Kind hubId nodeId ⟨before, call, outcome, after⟩ := by
    intro heq hquiet
    obtain ⟨hmoves, hnot⟩ := before.attemptFailed_moves
    rw [heq] at hmoves hnot
    exact .moves hmoves hquiet fun hs => absurd hs hnot
  unfold TestLink.step at hstep
  cases call with
  | transmit =>
    simp only at hstep
    split at hstep
    · cases hstep
    · rename_i hfree
      cases hstep
      refine .transmits rfl (by simpa using hfree) rfl ?_
      simp only [HubTransactionState.requestedTransmission]
      split <;> simp
  | transmitFailed =>
    simp only [Option.ite_none_left_eq_some, Option.some.injEq] at hstep
    exact hfailed hstep.2 fun k => ⟨rfl, rfl, rfl⟩
  | receiveStarted now =>
    simp only [Option.ite_none_right_eq_some, Option.some.injEq] at hstep
    obtain ⟨-, heq⟩ := hstep
    cases heq
    exact .moves (.stays rfl rfl rfl) (fun k => ⟨rfl, rfl, rfl⟩) (by simp)
  | receiveFailed =>
    simp only [Option.ite_none_right_eq_some, Option.some.injEq] at hstep
    exact hfailed hstep.2 fun k => ⟨rfl, rfl, rfl⟩
  | waited now =>
    simp only [Option.ite_none_right_eq_some, Option.some.injEq] at hstep
    exact hfailed hstep.2 fun k => ⟨rfl, rfl, rfl⟩
  | hubHears transaction packet =>
    simp only [Option.ite_none_right_eq_some, Option.some.injEq] at hstep
    obtain ⟨⟨hair, rfl, -⟩, heq⟩ := hstep
    have hquiet : ∀ k, TestTurn.accepts k ⟨before, .hubHears before.transaction packet, outcome, after⟩ = false ∧
        TestTurn.hears k ⟨before, .hubHears before.transaction packet, outcome, after⟩ = false ∧
        TestTurn.transmits k ⟨before, .hubHears before.transaction packet, outcome, after⟩ = false :=
      fun k => ⟨rfl, rfl, rfl⟩
    unfold TestLink.acknowledged at heq
    generalize hevaluation : evaluateHubAcknowledgment packet (before.command hubId nodeId) hubId nodeId = evaluation at heq
    obtain ⟨result, rawStatus⟩ := evaluation
    simp only at heq
    split at heq
    · cases heq
      exact .moves (.stays rfl rfl rfl) hquiet (by simp)
    rename_i hmatch
    rw [not_not] at hmatch
    split at heq
    · cases heq
      exact .moves (.ends rfl rfl rfl) hquiet (by simp)
    · cases heq
      refine .moves (.ends rfl rfl rfl) hquiet fun hs => ⟨packet, hair, ?_⟩
      simp only [HubTransactionState.acknowledgmentCompletionAction, TestOutcome.hub.injEq] at hs
      split at hs
      · rename_i hstatus
        rw [hevaluation, hmatch, hstatus]
      · cases hs
  | nodeHears transaction packet =>
    simp only [Option.ite_none_right_eq_some, Option.some.injEq] at hstep
    obtain ⟨⟨hair, rfl⟩, heq⟩ := hstep
    exact .hears packet rfl hair (congrArg Prod.fst heq).symm (congrArg Prod.snd heq).symm

theorem TestLink.Moves.transaction_le {s' : TestLink} (h : s.Moves s') : s.transaction ≤ s'.transaction := by
  cases h with
  | stays => exact le_rfl
  | retries => exact le_rfl
  | ends => exact Nat.le_succ _

theorem TestTurn.Kind.transaction_le (h : t.Kind hubId nodeId) : t.before.transaction ≤ t.after.transaction := by
  cases h with
  | transmits _ _ hafter => rw [hafter]
  | moves hmoves => exact hmoves.transaction_le
  | hears packet _ _ hafter =>
    rw [hafter]
    exact le_rfl

/-! ### The sequence of a transaction -/

/-- The Hub counts its transactions on eight bits, and its retries up to the bound. -/
structure Sequenced (first maximumRetries : UInt8) (s : TestLink) : Prop where
  sequence : s.hub.sequence = first + UInt8.ofNat s.transaction
  bound : s.hub.maximumRetries = maximumRetries
  retries : s.hub.retryCount.toNat ≤ maximumRetries.toNat

theorem Sequenced.retryCount_succ (h : Sequenced first maximumRetries s)
    (hlt : s.hub.retryCount < s.hub.maximumRetries) :
    (s.hub.retryCount + 1).toNat = s.hub.retryCount.toNat + 1 ∧ s.hub.retryCount.toNat < maximumRetries.toNat := by
  have hlt' : s.hub.retryCount.toNat < maximumRetries.toNat := by
    rw [← h.bound]
    exact UInt8.lt_iff_toNat_lt.1 hlt
  have hmax := UInt8.toNat_lt maximumRetries
  have hone : (1 : UInt8).toNat = 1 := rfl
  rw [UInt8.toNat_add]
  omega

theorem Sequenced.moves {s' : TestLink} (h : Sequenced first maximumRetries s) (hmoves : s.Moves s') :
    Sequenced first maximumRetries s' := by
  have hsucc := h.retryCount_succ
  obtain ⟨hsequence, hbound, hretries⟩ := h
  cases hmoves with
  | stays hs hr hm => exact ⟨hs.trans hsequence, hm.trans hbound, by rw [hr]; exact hretries⟩
  | retries hs hlt hr hm =>
    refine ⟨hs.trans hsequence, hm.trans hbound, ?_⟩
    rw [hr, (hsucc hlt).1]
    exact (hsucc hlt).2
  | ends hs hr hm =>
    refine ⟨?_, hm.trans hbound, by rw [hr]; exact Nat.zero_le _⟩
    change _ = first + UInt8.ofNat (s.transaction + 1)
    rw [hs, hsequence, UInt8.ofNat_add, UInt8.add_assoc]
    rfl

theorem Sequenced.step (h : Sequenced first maximumRetries t.before) (hk : t.Kind hubId nodeId) :
    Sequenced first maximumRetries t.after := by
  cases hk with
  | transmits _ _ hafter =>
    rw [hafter]
    exact ⟨h.sequence, h.bound, h.retries⟩
  | moves hmoves => exact h.moves hmoves
  | hears packet _ _ hafter =>
    rw [hafter]
    exact ⟨h.sequence, h.bound, h.retries⟩

/-- Sequences tell transactions apart that are fewer than 256 apart. -/
theorem sequence_ne {j k : ℕ} (hlt : k < j) (hgap : j < k + 256) :
    first + UInt8.ofNat j ≠ first + UInt8.ofNat k := by
  intro heq
  have := congrArg UInt8.toNat heq
  simp only [UInt8.toNat_add, UInt8.toNat_ofNat'] at this
  omega

/-! ### Copies -/

structure Counts (maximumRetries : UInt8) (past : List TestTurn) (s : TestLink) : Prop where
  bounded : ∀ k, past.countP (·.transmits k) ≤ 1 + maximumRetries.toNat
  present : past.countP (·.transmits s.transaction) ≤ s.hub.retryCount.toNat + (if s.outstanding then 1 else 0)
  future : ∀ k, s.transaction < k → past.countP (·.transmits k) = 0

theorem countP_concat_false {p : TestTurn → Bool} (h : p t = false) : (past ++ [t]).countP p = past.countP p := by
  simp [h]

theorem Counts.step (h : Counts maximumRetries past t.before) (hs : Sequenced first maximumRetries t.before)
    (hk : t.Kind hubId nodeId) : Counts maximumRetries (past ++ [t]) t.after := by
  obtain ⟨hbounded, hpresent, hfuture⟩ := h
  cases hk with
  | transmits hcall hfree hafter =>
    have hother : ∀ k, k ≠ t.before.transaction → t.transmits k = false := fun k hne => by
      simp [TestTurn.transmits, hne.symm]
    have hmine : (past ++ [t]).countP (·.transmits t.before.transaction) ≤ t.before.hub.retryCount.toNat + 1 := by
      rw [hfree] at hpresent
      have hpast : past.countP (·.transmits t.before.transaction) ≤ t.before.hub.retryCount.toNat := hpresent
      rw [List.countP_append]
      have hone : [t].countP (·.transmits t.before.transaction) ≤ 1 := List.countP_le_length
      omega
    rw [hafter]
    refine ⟨fun k => ?_, by simpa using hmine, fun k hlt => ?_⟩
    · by_cases hk : k = t.before.transaction
      · have := hs.retries
        rw [hk]
        omega
      · rw [countP_concat_false (hother k hk)]
        exact hbounded k
    · have hlt' : t.before.transaction < k := hlt
      rw [countP_concat_false (hother k (by omega))]
      exact hfuture k hlt'
  | moves hmoves hquiet =>
    have hsame : ∀ k, (past ++ [t]).countP (·.transmits k) = past.countP (·.transmits k) :=
      fun k => countP_concat_false (hquiet k).2.2
    generalize t.after = after at hmoves ⊢
    cases hmoves with
    | stays hsequence hretries =>
      refine ⟨fun k => by rw [hsame]; exact hbounded k, ?_, fun k hlt => by rw [hsame]; exact hfuture k hlt⟩
      rw [hsame, hretries]
      exact hpresent
    | retries hsequence hlt hretries =>
      refine ⟨fun k => by rw [hsame]; exact hbounded k, ?_, fun k hlt => by rw [hsame]; exact hfuture k hlt⟩
      rw [hsame, hretries, (hs.retryCount_succ hlt).1]
      split at hpresent
      · simpa using hpresent
      · exact le_trans hpresent (by simp)
    | ends hsequence hretries =>
      refine ⟨fun k => by rw [hsame]; exact hbounded k, ?_, fun k hlt => ?_⟩
      · rw [hsame, hfuture _ (Nat.lt_succ_self _)]
        exact Nat.zero_le _
      · rw [hsame]
        exact hfuture k (Nat.lt_of_succ_lt hlt)
  | hears packet hcall hair hafter =>
    have hquiet : ∀ k, t.transmits k = false := fun k => by simp [TestTurn.transmits, hcall]
    rw [hafter]
    refine ⟨fun k => ?_, ?_, fun k hlt => ?_⟩
    · rw [countP_concat_false (hquiet k)]
      exact hbounded k
    · rw [countP_concat_false (hquiet _)]
      exact hpresent
    · rw [countP_concat_false (hquiet k)]
      exact hfuture k hlt

/-! ### What the Node makes of what it hears -/

theorem evaluateNodeCommand_test (sequence : UInt8) (tracker : NodeDuplicateTracker) :
    evaluateNodeCommand (testCommand hubId nodeId sequence) nodeId hubId tracker =
      if tracker.isDuplicate (testCommand hubId nodeId sequence) then (tracker, .duplicate, tracker.status)
      else (.remember (testCommand hubId nodeId sequence) AckStatus.success, .ackSuccess, AckStatus.success) := by
  unfold evaluateNodeCommand
  simp [isAddressedTo, testCommand, isSupportedCommandOpcode, isValidCommandPayload, expectedCommandPayloadLength]

/-- The Node ignores acknowledgments, its own among them. -/
theorem evaluateNodeCommand_ack {packet : Packet} (h : packet.type = .ack) (tracker : NodeDuplicateTracker) :
    (evaluateNodeCommand packet nodeId hubId tracker).1 = tracker ∧
      (evaluateNodeCommand packet nodeId hubId tracker).2.1.acknowledges = false := by
  unfold evaluateNodeCommand
  rw [h]
  split
  · exact ⟨rfl, rfl⟩
  · rw [if_pos (by simp)]
    exact ⟨rfl, rfl⟩

theorem isDuplicate_remember {sequence sequence' status : UInt8} :
    (NodeDuplicateTracker.remember (testCommand hubId nodeId sequence') status).isDuplicate
      (testCommand hubId nodeId sequence) = (sequence == sequence') := by
  simp [NodeDuplicateTracker.remember, NodeDuplicateTracker.isDuplicate, testCommand]

/-! ### Acceptance -/

/-- The command of a transaction of the Hub. -/
def numberedCommand (hubId nodeId first : UInt8) (k : ℕ) : Packet := testCommand hubId nodeId (first + UInt8.ofNat k)

theorem TestLink.evaluated_duplicate {k : ℕ} (h : s.node.isDuplicate (numberedCommand hubId nodeId first k) = true) :
    s.evaluated hubId nodeId k (numberedCommand hubId nodeId first k) =
      ({ s with air := s.air ++ [(k, makeAcknowledgment (numberedCommand hubId nodeId first k) s.node.status)] },
        .node .duplicate) := by
  unfold numberedCommand at h
  unfold evaluated numberedCommand
  rw [evaluateNodeCommand_test, if_pos h]
  rfl

theorem TestLink.evaluated_fresh {k : ℕ} (h : ¬ s.node.isDuplicate (numberedCommand hubId nodeId first k) = true) :
    s.evaluated hubId nodeId k (numberedCommand hubId nodeId first k) =
      ({ s with
        node := .remember (numberedCommand hubId nodeId first k) AckStatus.success
        air := s.air ++ [(k, makeAcknowledgment (numberedCommand hubId nodeId first k) AckStatus.success)] },
        .node .ackSuccess) := by
  unfold numberedCommand at h
  unfold evaluated numberedCommand
  rw [evaluateNodeCommand_test, if_neg h]
  rfl

/-- **The invariant**: the Node remembers the last transaction that it has heard, and what is on the air is a command
or the acknowledgment of a command that was accepted. -/
structure Heeds (hubId nodeId first : UInt8) (past : List TestTurn) (s : TestLink) : Prop where
  air : ∀ k packet, (k, packet) ∈ s.air → packet = numberedCommand hubId nodeId first k ∨
    packet = makeAcknowledgment (numberedCommand hubId nodeId first k) AckStatus.success ∧
      past.countP (·.accepts k) = 1
  once : ∀ k, past.countP (·.accepts k) ≤ 1
  node : (s.node.hasRememberedCommand = false ∧ ∀ k, past.countP (·.accepts k) = 0 ∧ past.any (·.hears k) = false) ∨
    ∃ k ≤ s.transaction, s.node = .remember (numberedCommand hubId nodeId first k) AckStatus.success ∧
      past.countP (·.accepts k) = 1 ∧
      ∀ j, k < j → past.countP (·.accepts j) = 0 ∧ past.any (·.hears j) = false
  succeeded : ∀ t ∈ past, t.outcome = .hub .transactionSucceeded → past.countP (·.accepts t.before.transaction) = 1

theorem any_concat_false {p : TestTurn → Bool} (h : p t = false) : (past ++ [t]).any p = past.any p := by
  simp [h]

/-- A turn in which the Node accepts nothing and hears no command of a later transaction. -/
theorem Heeds.quiet (h : Heeds hubId nodeId first past t.before) (hnode : t.after.node = t.before.node)
    (hle : t.before.transaction ≤ t.after.transaction)
    (hair : ∀ k packet, (k, packet) ∈ t.after.air → (k, packet) ∈ t.before.air ∨
      packet = numberedCommand hubId nodeId first k ∨
      packet = makeAcknowledgment (numberedCommand hubId nodeId first k) AckStatus.success ∧
        past.countP (·.accepts k) = 1)
    (haccepts : ∀ k, t.accepts k = false) (hhears : ∀ k, past.countP (·.accepts k) = 0 → t.hears k = false)
    (hsucceeds : t.outcome = .hub .transactionSucceeded → past.countP (·.accepts t.before.transaction) = 1) :
    Heeds hubId nodeId first (past ++ [t]) t.after := by
  have hsame : ∀ k, (past ++ [t]).countP (·.accepts k) = past.countP (·.accepts k) :=
    fun k => countP_concat_false (haccepts k)
  refine ⟨fun k packet hmem => ?_, fun k => by rw [hsame]; exact h.once k, ?_, fun u hu hs => ?_⟩
  · rw [hsame]
    exact (hair k packet hmem).elim (h.air k packet) id
  · rw [hnode]
    rcases h.node with ⟨hnone, hfresh⟩ | ⟨k, hk, hremembers, hone, hlater⟩
    · refine .inl ⟨hnone, fun k => ?_⟩
      rw [hsame, any_concat_false (hhears k (hfresh k).1)]
      exact hfresh k
    · refine .inr ⟨k, le_trans hk hle, hremembers, by rw [hsame]; exact hone, fun j hj => ?_⟩
      rw [hsame, any_concat_false (hhears j (hlater j hj).1)]
      exact hlater j hj
  · rw [hsame]
    rcases List.mem_append.1 hu with hu | hu
    · exact h.succeeded u hu hs
    · rw [List.mem_singleton.1 hu] at hs ⊢
      exact hsucceeds hs

/-- The Node accepts a command, and has heard none of its transaction or of a later one. -/
theorem Heeds.accepted (h : Heeds hubId nodeId first past t.before)
    (hcall : t.call = .nodeHears t.before.transaction (numberedCommand hubId nodeId first t.before.transaction))
    (hfresh : ∀ k, t.before.transaction ≤ k → past.countP (·.accepts k) = 0 ∧ past.any (·.hears k) = false)
    (hafter : t.after = { t.before with
      node := .remember (numberedCommand hubId nodeId first t.before.transaction) AckStatus.success
      air := t.before.air ++ [(t.before.transaction,
        makeAcknowledgment (numberedCommand hubId nodeId first t.before.transaction) AckStatus.success)] })
    (houtcome : t.outcome = .node .ackSuccess) : Heeds hubId nodeId first (past ++ [t]) t.after := by
  have hother : ∀ k, k ≠ t.before.transaction → (past ++ [t]).countP (·.accepts k) = past.countP (·.accepts k) := by
    intro k hne
    exact countP_concat_false (by simp [TestTurn.accepts, hcall, hne.symm])
  have hone : (past ++ [t]).countP (·.accepts t.before.transaction) = 1 := by
    have haccepts : t.accepts t.before.transaction = true := by simp [TestTurn.accepts, hcall, houtcome]
    rw [List.countP_append, (hfresh _ le_rfl).1, List.countP_singleton, if_pos haccepts]
  have hkeeps : ∀ k, past.countP (·.accepts k) = 1 → (past ++ [t]).countP (·.accepts k) = 1 := by
    intro k hk
    rw [hother k fun heq => by rw [heq, (hfresh _ le_rfl).1] at hk; cases hk]
    exact hk
  refine ⟨fun k packet hmem => ?_, fun k => ?_, .inr ?_, fun u hu hs => ?_⟩
  · rw [hafter] at hmem
    rcases List.mem_append.1 hmem with hmem | hmem
    · exact (h.air k packet hmem).imp_right fun hack => ⟨hack.1, hkeeps k hack.2⟩
    · obtain ⟨rfl, rfl⟩ := Prod.mk.inj (List.mem_singleton.1 hmem)
      exact .inr ⟨rfl, hone⟩
  · by_cases hk : k = t.before.transaction
    · rw [hk, hone]
    · rw [hother k hk]
      exact h.once k
  · refine ⟨t.before.transaction, by rw [hafter], by rw [hafter], hone, fun j hj => ?_⟩
    have hhears : t.hears j = false := by simp [TestTurn.hears, hcall, Nat.ne_of_lt hj]
    rw [hother j (Nat.ne_of_gt hj), any_concat_false hhears]
    exact hfresh j (Nat.le_of_lt hj)
  · rcases List.mem_append.1 hu with hu | hu
    · exact hkeeps _ (h.succeeded u hu hs)
    · rw [List.mem_singleton.1 hu, houtcome] at hs
      cases hs

/-- A command that is not taken for a duplicate is of a transaction that the Node has not heard. -/
theorem Heeds.fresh (h : Heeds hubId nodeId first past s)
    (hduplicate : ¬ s.node.isDuplicate (numberedCommand hubId nodeId first s.transaction) = true) {k : ℕ}
    (hk : s.transaction ≤ k) : past.countP (·.accepts k) = 0 ∧ past.any (·.hears k) = false := by
  rcases h.node with ⟨-, hfresh⟩ | ⟨j, hj, hremembers, -, hlater⟩
  · exact hfresh k
  · have hne : j ≠ s.transaction := by
      intro heq
      rw [hremembers, heq, numberedCommand, isDuplicate_remember] at hduplicate
      exact hduplicate (beq_self_eq_true _)
    exact hlater k (by omega)

/-- **A command that is taken for a duplicate** is one: as many transactions as would make the sequences meet have not
gone by unheard. -/
theorem Heeds.duplicate (h : Heeds hubId nodeId first past s) (hheard : HeardInTime past s)
    (hduplicate : s.node.isDuplicate (numberedCommand hubId nodeId first s.transaction) = true) :
    s.node.status = AckStatus.success ∧ past.countP (·.accepts s.transaction) = 1 := by
  rcases h.node with ⟨hnone, -⟩ | ⟨k, hk, hremembers, hone, hlater⟩
  · simp [NodeDuplicateTracker.isDuplicate, hnone] at hduplicate
  · rw [hremembers, numberedCommand, numberedCommand, isDuplicate_remember, beq_iff_eq] at hduplicate
    have hgap : s.transaction < k + 256 := by
      by_contra hfar
      obtain ⟨j, hj, -, hheard⟩ := hheard (k + 1) (by omega)
      rw [(hlater j hj).2] at hheard
      cases hheard
    have heq : k = s.transaction := by
      by_contra hne
      exact sequence_ne (by omega) hgap hduplicate
    rw [hremembers, ← heq]
    exact ⟨rfl, hone⟩

theorem Heeds.step (h : Heeds hubId nodeId first past t.before) (hs : Sequenced first maximumRetries t.before)
    (hheard : HeardInTime past t.before) (hk : t.Kind hubId nodeId) : Heeds hubId nodeId first (past ++ [t]) t.after := by
  have hcommand : t.before.command hubId nodeId = numberedCommand hubId nodeId first t.before.transaction := by
    rw [TestLink.command, hs.sequence, numberedCommand]
  have hle := hk.transaction_le
  cases hk with
  | transmits hcall hfree hafter houtcome =>
    refine h.quiet (by rw [hafter]) hle (fun k packet hmem => ?_) (fun k => by simp [TestTurn.accepts, hcall])
      (fun k _ => by simp [TestTurn.hears, hcall]) fun hsucceeds => absurd hsucceeds houtcome
    rw [hafter] at hmem
    rcases List.mem_append.1 hmem with hmem | hmem
    · exact .inl hmem
    · obtain ⟨rfl, rfl⟩ := Prod.mk.inj (List.mem_singleton.1 hmem)
      exact .inr (.inl hcommand)
  | moves hmoves hquiet hsucceeds =>
    have hkeeps : t.after.node = t.before.node ∧ t.after.air = t.before.air := by
      generalize t.after = after at hmoves
      cases hmoves with
      | stays => exact ⟨rfl, rfl⟩
      | retries => exact ⟨rfl, rfl⟩
      | ends => exact ⟨rfl, rfl⟩
    refine h.quiet hkeeps.1 hle (fun k packet hmem => .inl (hkeeps.2 ▸ hmem)) (fun k => (hquiet k).1)
      (fun k _ => (hquiet k).2.1) fun hs => ?_
    obtain ⟨packet, hmem, hmatch⟩ := hsucceeds hs
    rcases h.air _ packet hmem with rfl | ⟨-, hone⟩
    · -- a command is no acknowledgment
      simp [evaluateHubAcknowledgment, numberedCommand, testCommand] at hmatch
    · exact hone
  | hears packet hcall hair hafter houtcome =>
    rcases h.air _ packet hair with rfl | ⟨rfl, hone⟩
    · -- the command of the present transaction: a duplicate, or heard for the first time
      by_cases hduplicate : t.before.node.isDuplicate (numberedCommand hubId nodeId first t.before.transaction) = true
      · obtain ⟨hstatus, hone⟩ := h.duplicate hheard hduplicate
        rw [TestLink.evaluated_duplicate hduplicate, hstatus] at hafter
        rw [TestLink.evaluated_duplicate hduplicate] at houtcome
        refine h.quiet (by rw [hafter]) hle (fun k packet hmem => ?_)
          (fun k => by simp [TestTurn.accepts, hcall, houtcome]) (fun k hzero => ?_) (by simp [houtcome])
        · rw [hafter] at hmem
          rcases List.mem_append.1 hmem with hmem | hmem
          · exact .inl hmem
          · obtain ⟨rfl, rfl⟩ := Prod.mk.inj (List.mem_singleton.1 hmem)
            exact .inr (.inr ⟨rfl, hone⟩)
        · have hne : t.before.transaction ≠ k := fun heq => by rw [← heq, hone] at hzero; cases hzero
          simp [TestTurn.hears, hcall, hne]
      · rw [TestLink.evaluated_fresh hduplicate] at hafter houtcome
        exact h.accepted hcall (fun k => h.fresh hduplicate) hafter houtcome
    · -- an acknowledgment, which the Node ignores
      have hack : (makeAcknowledgment (numberedCommand hubId nodeId first t.before.transaction)
          AckStatus.success).type = .ack := rfl
      obtain ⟨hsame, hignores⟩ := @evaluateNodeCommand_ack hubId nodeId _ hack t.before.node
      have hnot : t.outcome ≠ .node .ackSuccess := by
        rw [houtcome]
        intro heq
        have haccepts : (evaluateNodeCommand (makeAcknowledgment (numberedCommand hubId nodeId first
          t.before.transaction) AckStatus.success) nodeId hubId t.before.node).2.1 = .ackSuccess := TestOutcome.node.inj heq
        rw [haccepts] at hignores
        cases hignores
      refine h.quiet (by rw [hafter]; exact hsame) hle (fun k packet hmem => .inl ?_)
        (fun k => by simp [TestTurn.accepts, hcall, hnot]) (fun k _ => by simp [TestTurn.hears, hcall, makeAcknowledgment])
        (by simp [houtcome, TestLink.evaluated])
      rw [hafter] at hmem
      simpa [TestLink.evaluated, hignores] using hmem

/-! ### Runs -/

/-- The transactions go on, and a command is heard in its own. -/
theorem transaction_le_of_run (h : (testSystem hubId nodeId).IsRun s turns) :
    (∀ t ∈ turns, s.transaction ≤ t.before.transaction) ∧
      s.transaction ≤ ((testSystem hubId nodeId).last s turns).transaction := by
  obtain ⟨hturns, hlast⟩ := h.invariant (I := fun u => s.transaction ≤ u.transaction)
    (fun t _ hs hle => le_trans hle (TestTurn.kind hs).transaction_le) le_rfl
  exact ⟨fun t ht => (hturns t ht).1, hlast⟩

theorem TestTurn.Kind.of_hears (h : t.Kind hubId nodeId) {k : ℕ} (hk : t.hears k = true) :
    t.before.transaction = k := by
  cases h with
  | transmits hcall => simp [TestTurn.hears, hcall] at hk
  | moves _ hquiet => simp [(hquiet k).2.1] at hk
  | hears packet hcall =>
    simp only [TestTurn.hears, hcall, Bool.and_eq_true, beq_iff_eq] at hk
    exact hk.1

/-- What has been heard in time at the end of a run, was so at each of its turns. -/
theorem HeardInTime.before_turn (h : HeardInTime turns ((testSystem hubId nodeId).last s turns))
    (hrun : (testSystem hubId nodeId).IsRun s turns) (heq : turns = past ++ rest) :
    HeardInTime past ((testSystem hubId nodeId).last s past) := by
  subst heq
  obtain ⟨-, hrest⟩ := System.isRun_append.1 hrun
  obtain ⟨hlater, hlast⟩ := transaction_le_of_run hrest
  intro k hk
  rw [System.last_append] at h
  obtain ⟨j, hle, hlt, hheard⟩ := h k (le_trans hk hlast)
  refine ⟨j, hle, hlt, ?_⟩
  rw [List.any_append, Bool.or_eq_true] at hheard
  refine hheard.resolve_right fun hrest' => ?_
  obtain ⟨t, ht, hhears⟩ := List.any_eq_true.1 hrest'
  have hj := (TestTurn.kind (hrest.steps ht)).of_hears hhears
  have := hlater t ht
  omega

/-- **TEST transactions agree.** -/
theorem transactions_agree (hubId nodeId initialSequence maximumRetries : UInt8) (acknowledgmentTimeoutMs : UInt32)
    (turns : List TestTurn)
    (hrun : (testSystem hubId nodeId).IsRun (.initial initialSequence maximumRetries acknowledgmentTimeoutMs) turns)
    (hheard : HeardInTime turns
      ((testSystem hubId nodeId).last (.initial initialSequence maximumRetries acknowledgmentTimeoutMs) turns)) :
    TransactionsAgree hubId nodeId maximumRetries turns := by
  set first := TestLink.initial initialSequence maximumRetries acknowledgmentTimeoutMs with hfirst
  have hsequenced : Sequenced initialSequence maximumRetries first :=
    ⟨(UInt8.add_zero initialSequence).symm, rfl, Nat.zero_le _⟩
  have hbefore : ∀ t ∈ turns, Sequenced initialSequence maximumRetries t.before := fun t ht =>
    ((hrun.invariant (fun u _ hs h => Sequenced.step h (TestTurn.kind hs)) hsequenced).1 t ht).1
  have hcounts : Counts maximumRetries turns ((testSystem hubId nodeId).last first turns) := by
    refine hrun.history (I := Counts maximumRetries) ⟨by simp, by simp, by simp⟩ fun past t rest heq hs h => ?_
    have ht : t ∈ turns := by rw [heq]; simp
    exact h.step (hbefore t ht) (TestTurn.kind hs)
  have hheeds : Heeds hubId nodeId initialSequence turns ((testSystem hubId nodeId).last first turns) := by
    refine hrun.history (I := Heeds hubId nodeId initialSequence)
      ⟨by simp [hfirst, TestLink.initial], by simp, .inl ⟨rfl, by simp⟩, by simp⟩ fun past t rest heq hs h => ?_
    have ht : t ∈ turns := by rw [heq]; simp
    have hpast := hheard.before_turn hrun heq
    have hstate : (testSystem hubId nodeId).last first past = t.before := by
      rw [heq] at hrun
      exact (System.isRun_append.1 hrun).2.1.symm
    rw [hstate] at hpast
    exact h.step (hbefore t ht) hpast (TestTurn.kind hs)
  refine ⟨hheeds.once, hheeds.succeeded, hcounts.bounded, fun t ht u hu _ _ hnext => ?_⟩
  change u.before.hub.sequence ≠ t.before.hub.sequence
  rw [(hbefore t ht).sequence, (hbefore u hu).sequence, hnext]
  exact sequence_ne (Nat.lt_succ_self _) (by omega)

/-- The turns of the calls, as far as they can be taken. -/
def TestLink.turnsOf (hubId nodeId : UInt8) (s : TestLink) : List TestCall → List TestTurn
  | [] => []
  | call :: calls =>
    match s.step hubId nodeId call with
    | none => []
    | some (after, outcome) => ⟨s, call, outcome, after⟩ :: after.turnsOf hubId nodeId calls

theorem TestLink.isRun_turnsOf (s : TestLink) (calls : List TestCall) :
    (testSystem hubId nodeId).IsRun s (s.turnsOf hubId nodeId calls) := by
  induction calls generalizing s with
  | nil => trivial
  | cons call calls ih =>
    unfold TestLink.turnsOf
    split
    · trivial
    · rename_i after outcome hstep
      exact ⟨rfl, hstep, ih after⟩

/-- The Node hears the command, its acknowledgment is lost, and it hears the command again. -/
def heardAgain (transaction : ℕ) (command : Packet) : List TestCall :=
  [.transmit, .receiveStarted 100, .nodeHears transaction command, .waited 2600,
    .transmit, .receiveStarted 2600, .nodeHears transaction command,
    .hubHears transaction (makeAcknowledgment command AckStatus.success)]

/-- Both copies of the command are lost. -/
def lost : List TestCall := [.transmit, .receiveStarted 100, .waited 2600, .transmit, .receiveStarted 2600, .waited 5100]

/-- Between two transactions of which the Node hears, 254 go by unheard: the radio loses their commands, or does not
send them. -/
def lossyTurns : List TestTurn :=
  (TestLink.initial 1 1 2500).turnsOf 1 2
    (heardAgain 0 (testCommand 1 2 1) ++ (List.replicate 4 lost).flatten ++
      List.replicate 500 .transmitFailed ++ heardAgain 255 (testCommand 1 2 0))

theorem lossyTurns_heard :
    lossyTurns.countP (fun t => t.outcome == .hub .transactionSucceeded) = 2 ∧
      ((testSystem 1 2).last (.initial 1 1 2500) lossyTurns).transaction = 256 ∧
      lossyTurns.any (·.hears 0) = true ∧ lossyTurns.any (·.hears 255) = true := by
  decide +kernel

theorem transactions_agree_lossy :
    lossyTurns.countP (fun t => t.outcome == .hub .transactionSucceeded) = 2 ∧ TransactionsAgree 1 2 1 lossyTurns := by
  obtain ⟨hcount, hended, hfirst, hlast⟩ := lossyTurns_heard
  refine ⟨hcount, ?_⟩
  refine transactions_agree 1 2 1 1 2500 lossyTurns (TestLink.isRun_turnsOf _ _) fun k hk => ?_
  obtain rfl | rfl : k = 0 ∨ k = 1 := by omega
  · exact ⟨0, le_rfl, by omega, hfirst⟩
  · exact ⟨255, by omega, by omega, hlast⟩

end Redline.Host
