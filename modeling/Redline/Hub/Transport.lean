import Redline.Hub.MainLoop

/-!
# What a service of the Hub does to the radio

`RadioState` is the part of the Hub's variables that say who has the radio and what is waited for.  `Moves` lists what
one service can make of it, with the calls that tell the cases apart, and `ends_serviceProductionHost` and
`ends_serviceHubTransport` say that the services do nothing else.
-/

namespace Redline.Hub

open Redline.Wire Redline.Records Redline.Lib Redline.Host

/-! ### The state of the radio -/

structure RadioState where
  phase : RuntimePhase
  arbiter : HubArbiter
  ackActive : Bool
  priorPhase : RuntimePhase
  structured : Bool
  transaction : HubTransactionState

namespace HubLoop

def radio (s : HubLoop) : RadioState where
  phase := s.phase
  arbiter := s.hubRadioArbiter
  ackActive := s.eventAckTxActive
  priorPhase := s.eventAckPriorPhase
  structured := s.hostStructuredOwner
  transaction := s.transactionState

end HubLoop

/-! ### What the calls tell -/

/-- What the first call reports of the interrupt. -/
def reported : Log HubOp.Reply → Bool
  | ⟨.interrupted, r⟩ :: _ => r
  | _ => false

/-- A transmission is started, or fails to. -/
def transmits : Answer HubOp.Reply → Bool
  | ⟨.startTransmit _, _⟩ => true
  | _ => false

/-- The receiver does not start. -/
def failsReceive : Answer HubOp.Reply → Bool
  | ⟨.startReceive, started⟩ => !started
  | _ => false

/-- The bytes of the packet that the interrupt has announced. -/
def received : Log HubOp.Reply → Option Bytes
  | ⟨.interrupted, _⟩ :: log => received log
  | ⟨.getPacketLength, _⟩ :: ⟨.readData _, data⟩ :: _ => data.toOption.map Vector.toList
  | _ => none

/-- The receiver that is started is the one that goes on waiting for the Node: a transmission is over, or the packet
that has come is neither an Event nor the end of the structured transaction. -/
def waitsOn (phase : RuntimePhase) (stack : Stack) (log : Log HubOp.Reply) : Bool :=
  match phase with
  | .transmitting => true
  | .waitingForAck | .waitingForResponse =>
    match (received log).bind decode with
    | none => true
    | some packet => decide (packet.type ≠ .event) && (stack.onRadioPacket packet).1.lifecycle.remoteBridge.active
  | _ => false

/-- The attempt of the legacy transaction is over. -/
def Ended (r r' : RadioState) : Prop :=
  ∃ t : HubTransactionState, t.awaitingAcknowledgment = false ∧ r' = { r with phase := .idle, transaction := t }

/-- The acknowledgment of an Event is on the air, or has failed and the phase goes on under its owner. -/
inductive AnswersEvent (r : RadioState) : RadioState → Prop
  | started (a : HubArbiter) (howner : a.owner = .eventAckTx) (hsaved : a.savedOwner = HubLoop.ownerDuring r.phase) :
      AnswersEvent r { r with ackActive := true, priorPhase := r.phase, arbiter := a }
  | failed (a : HubArbiter) (howner : a.owner = HubLoop.ownerDuring r.phase) :
      AnswersEvent r { r with ackActive := false, priorPhase := r.phase, arbiter := a }

/-- The structured transaction goes on. -/
structure Carries (r r' : RadioState) : Prop where
  structured : r'.structured = true
  busy : r'.phase ≠ .idle
  ackActive : r'.ackActive = false
  transaction : r'.transaction = r.transaction

/-- **What a service can make of the radio.**  `flag` is the interrupt flag as the service reads it first. -/
inductive Moves (r : RadioState) (stack : Stack) (log : Log HubOp.Reply) (flag : Bool) : RadioState → Prop
  | stays : Moves r stack log flag r
  | acquires (hidle : r.phase = .idle) (howner : r.arbiter.owner = .idleReceive) (a : HubArbiter) :
      Moves r stack log flag { r with phase := .transmitting, structured := true, arbiter := a }
  | acknowledges (hactive : r.ackActive = false) (hcall : log.any transmits = true) {r' : RadioState}
      (h : AnswersEvent r r') : Moves r stack log flag r'
  | acknowledged (hactive : r.ackActive = true) (phase : RuntimePhase) (hphase : phase = r.phase ∨ phase = r.priorPhase) :
      Moves r stack log flag { r with ackActive := false, arbiter := r.arbiter.finishEventAck, phase := phase }
  | transmits (hactive : r.ackActive = false) (hlegacy : r.structured = false) (hidle : r.phase = .idle) :
      Moves r stack log flag { r with phase := .transmitting }
  | awaits (hactive : r.ackActive = false) (hlegacy : r.structured = false) (now : UInt32) :
      Moves r stack log flag { r with phase := .waitingForAck
                                      transaction := r.transaction.beginAcknowledgmentWait now }
  | waits (hactive : r.ackActive = false) (hlegacy : r.structured = false) :
      Moves r stack log flag { r with phase := .waitingForAck }
  | ends (hactive : r.ackActive = false) (hlegacy : r.structured = false) {r' : RadioState} (h : Ended r r') :
      Moves r stack log flag r'
  | carries (hactive : r.ackActive = false) (hstructured : r.structured = true) {r' : RadioState}
      (h : Carries r r') : Moves r stack log flag r'
  | releases (hactive : r.ackActive = false) (hstructured : r.structured = true) (a : HubArbiter)
      (howner : a.owner = .idleReceive) :
      Moves r stack log flag { r with phase := .idle, structured := false, arbiter := a }
  | fails (hactive : r.ackActive = false) (hstructured : r.structured = true)
      (hcause : r.transaction.awaitingAcknowledgment = true ∨
        flag = true ∧ log.any failsReceive = true ∧ waitsOn r.phase stack log = true)
      {r' : RadioState} (hkept : r'.structured = true) (hnone : r'.ackActive = false) : Moves r stack log flag r'

/-- Calls that come before, and read no packet. -/
theorem Moves.after {r r' : RadioState} {stack : Stack} {log : Log HubOp.Reply} {flag : Bool}
    (h : Moves r stack log flag r') (asked : Log HubOp.Reply) (hasked : received (asked ++ log) = received log) :
    Moves r stack (asked ++ log) flag r' := by
  have hany : ∀ f : Answer HubOp.Reply → Bool, log.any f = true → (asked ++ log).any f = true := by
    intro f hf
    rw [List.any_append, hf, Bool.or_true]
  cases h with
  | stays => exact .stays
  | acquires hidle howner a => exact .acquires hidle howner a
  | acknowledges hactive hcall h => exact .acknowledges hactive (hany _ hcall) h
  | acknowledged hactive phase hphase => exact .acknowledged hactive phase hphase
  | transmits hactive hlegacy hidle => exact .transmits hactive hlegacy hidle
  | awaits hactive hlegacy now => exact .awaits hactive hlegacy now
  | waits hactive hlegacy => exact .waits hactive hlegacy
  | ends hactive hlegacy h => exact .ends hactive hlegacy h
  | carries hactive hstructured h => exact .carries hactive hstructured h
  | releases hactive hstructured a howner => exact .releases hactive hstructured a howner
  | fails hactive hstructured hcause hkept hnone =>
    refine .fails hactive hstructured (hcause.imp id fun ⟨hflag, hfails, hwaits⟩ => ⟨hflag, hany _ hfails, ?_⟩) hkept hnone
    unfold waitsOn at hwaits ⊢
    rw [hasked]
    exact hwaits

theorem ends_after {p : HubM HubLoop} {r : RadioState} {stack : Stack} {flag : Bool} (asked : Log HubOp.Reply)
    (hasked : ∀ log, received (asked ++ log) = received log)
    (h : p.Ends fun log s' => Moves r stack log flag s'.radio) :
    p.Ends fun log s' => Moves r stack (asked ++ log) flag s'.radio :=
  h.mono fun log _ hm => hm.after asked (hasked log)

theorem ends_flagged {p : HubM HubLoop} {r : RadioState} {stack : Stack} {flag : Log HubOp.Reply → Bool}
    (h : ∀ flag, p.Ends fun log s' => Moves r stack log flag s'.radio) :
    p.Ends fun log s' => Moves r stack log (flag log) s'.radio :=
  (Prog.ends_forall.2 h).mono fun log _ hm => hm (flag log)

namespace HubLoop

variable {s s' : HubLoop} {c : DeviceConfig}

/-! ### The first steps -/

section Steps

variable {Q : Log HubOp.Reply → HubLoop × Bool → Prop}

theorem ends_ask {α : Type} (op : HubOp) {f : op.Reply → HubM α} {P : Log HubOp.Reply → α → Prop}
    (h : ∀ r, (f r).Ends fun log a => P (⟨op, r⟩ :: log) a) : (Prog.lift op >>= f).Ends P := Prog.ends_ask op h

theorem ends_readOperationDone
    (h : ∀ log done, (s.operationDone = true → log = [] ∧ done = true) →
      (s.operationDone = false → log = [⟨.interrupted, done⟩]) → Q log ({ s with operationDone := done }, done)) :
    s.readOperationDone.Ends Q := by
  unfold readOperationDone
  split
  · rename_i hdone
    have hs : { s with operationDone := true } = s := by rw [← hdone]
    have hQ := h [] true (fun _ => ⟨rfl, rfl⟩) fun hf => absurd (hf.symm.trans hdone) (by decide)
    rw [hs] at hQ
    exact hQ
  · rename_i hdone
    exact fun r => h [⟨.interrupted, r⟩] r (fun hf => absurd hf hdone) fun _ => rfl

section Read

variable {log : Log HubOp.Reply} {done : Bool} (hset : s.operationDone = true → log = [] ∧ done = true)
  (hasked : s.operationDone = false → log = [⟨.interrupted, done⟩]) (log' : Log HubOp.Reply)

include hset hasked

theorem flag_of_read : (s.operationDone || reported (log ++ log')) = done := by
  cases hs : s.operationDone with
  | true => exact (hset hs).2.symm
  | false =>
    rw [hasked hs]
    exact Bool.false_or done

theorem received_of_read : received (log ++ log') = received log' := by
  cases hs : s.operationDone with
  | true =>
    rw [(hset hs).1]
    rfl
  | false =>
    rw [hasked hs]
    rfl

end Read

end Steps

/-- The receiver starts in a phase, or does not. -/
theorem ends_restoreHubReceive (phase : RuntimePhase) (clearPending : Bool) :
    (s.restoreHubReceive phase clearPending).Ends fun _ r =>
      r.1.radio = { s.radio with phase := phase } ∨ r.1.radio = s.radio := by
  refine ends_ask .startReceive fun started => ?_
  cases started with
  | true => cases clearPending <;> exact Or.inl rfl
  | false => cases clearPending <;> exact Or.inr rfl

/-- The receiver goes on in the phase of before. -/
theorem radio_restoreHubReceive (phase : RuntimePhase) (clearPending : Bool) (h : s.phase = phase) :
    (s.restoreHubReceive phase clearPending).Ends fun _ r => r.1.radio = s.radio := by
  refine (ends_restoreHubReceive phase clearPending).mono fun _ r hr => hr.elim (fun hp => ?_) id
  rw [hp, ← h]
  rfl

theorem radio_receiveIdle (h : s.phase = .idle) : s.receiveIdle.Ends fun _ s' => s'.radio = s.radio :=
  (radio_restoreHubReceive .idle true h).bind fun _ _ hr => hr

theorem radio_restoreReleasedTransactionReceive (h : s.phase = .idle) :
    s.restoreReleasedTransactionReceive.Ends fun _ s' => s'.radio = s.radio := by
  unfold restoreReleasedTransactionReceive
  split
  · rfl
  refine Prog.ends_bind.2 (ends_readOperationDone fun _ pending _ _ => ?_)
  dsimp only
  split
  · rfl
  refine ends_ask .standby fun standby => ?_
  split
  · rfl
  refine Prog.ends_bind.2 (ends_readOperationDone fun _ pending _ _ => ?_)
  dsimp only
  split
  · rfl
  · exact (radio_restoreHubReceive (s := { s with operationDone := pending }) .idle false h).bind fun _ _ hr => hr

/-! ### The legacy transaction -/

theorem radio_completeAndScheduleNextTransaction (s : HubLoop) :
    s.completeAndScheduleNextTransaction.Ends fun _ s' =>
      s'.radio = { s.radio with phase := .idle, transaction := s.transactionState.completeTransaction } :=
  ends_ask .millis fun _ => radio_restoreReleasedTransactionReceive rfl

/-- An attempt that has failed: the transaction is over for now. -/
theorem ends_scheduleRetryOrNext (s : HubLoop) :
    s.scheduleRetryOrNext.Ends fun _ s' => Ended s.radio s'.radio := by
  unfold scheduleRetryOrNext
  have hfailed : s.transactionState.attemptFailed.1.awaitingAcknowledgment = false := by
    unfold HubTransactionState.attemptFailed
    split <;> rfl
  generalize s.transactionState.attemptFailed = failed at hfailed
  obtain ⟨t, action⟩ := failed
  dsimp only at hfailed ⊢
  split
  · refine ends_ask .millis fun now => (radio_restoreReleasedTransactionReceive ?_).mono fun _ s' h => ⟨t, hfailed, h⟩
    rfl
  · exact (radio_completeAndScheduleNextTransaction _).mono fun _ s' h => ⟨_, rfl, h⟩

/-- The receiver for the acknowledgment is started, or fails to and ends the attempt. -/
theorem ends_startAckReceive (s : HubLoop) (resetDeadline : Bool) :
    (s.startAckReceive resetDeadline).Ends fun log s' =>
      (resetDeadline = false ∧ s'.radio = { s.radio with phase := .waitingForAck }) ∨
      (resetDeadline = true ∧ ∃ now, s'.radio = { s.radio with
        phase := .waitingForAck, transaction := s.transactionState.beginAcknowledgmentWait now }) ∨
      (log.any failsReceive = true ∧ Ended s.radio s'.radio) := by
  refine ends_ask .startReceive fun started => ?_
  cases started with
  | false => exact (ends_scheduleRetryOrNext _).mono fun _ s' h => Or.inr (Or.inr ⟨rfl, h⟩)
  | true =>
    cases resetDeadline with
    | false => exact Or.inl ⟨rfl, rfl⟩
    | true => exact ends_ask .millis fun now => Or.inr (Or.inl ⟨rfl, now, rfl⟩)

/-- A packet that is not the one: the wait goes on, unless it is over or cannot. -/
theorem ends_continueWaitingForAck (s : HubLoop) :
    s.continueWaitingForAck.Ends fun log s' => (∃ standby log', log = ⟨.standby, standby⟩ :: log') ∧
      (s'.radio = { s.radio with phase := .waitingForAck } ∨
        (s.transactionState.awaitingAcknowledgment = true ∨ log.any failsReceive = true) ∧
          Ended s.radio s'.radio) := by
  refine ends_ask .standby fun standby => ends_ask .millis fun now => ?_
  split
  · rename_i hover
    have hawaiting : s.transactionState.awaitingAcknowledgment = true := by
      by_contra hnot
      apply hover
      unfold HubTransactionState.acknowledgmentWaitAction
      simp [hnot]
    exact (ends_scheduleRetryOrNext s).mono fun _ s' h => ⟨⟨_, _, rfl⟩, Or.inr ⟨Or.inl hawaiting, h⟩⟩
  · refine (ends_startAckReceive s false).mono fun log s' h => ⟨⟨_, _, rfl⟩, ?_⟩
    rcases h with ⟨-, h⟩ | ⟨hreset, -⟩ | ⟨hfails, h⟩
    · exact Or.inl h
    · cases hreset
    · exact Or.inr ⟨Or.inr hfails, h⟩

theorem ends_startCommandTransmission (s : HubLoop) :
    (s.startCommandTransmission c).Ends fun _ s' =>
      s'.radio = { s.radio with phase := .transmitting } ∨ Ended s.radio s'.radio := by
  unfold startCommandTransmission
  dsimp only
  split
  · exact (radio_completeAndScheduleNextTransaction _).mono fun _ s' h => Or.inr ⟨_, rfl, h⟩
  · refine ends_ask (.startTransmit _) fun started => ?_
    split
    · exact (ends_scheduleRetryOrNext _).mono fun _ s' h => Or.inr h
    · exact Or.inl rfl

/-! ### Admission of Events -/

theorem ends_startEventAdmissionAck (s : HubLoop) (result : HubResult) :
    (s.startEventAdmissionAck result s.phase).Ends fun log s' =>
      s'.radio = s.radio ∨ log.any transmits = true ∧ AnswersEvent s.radio s'.radio := by
  unfold startEventAdmissionAck
  split
  · exact Or.inl rfl
  have hbegin : (s.hubRadioArbiter.setOwner (ownerDuring s.phase)).beginEventAck =
      (⟨.eventAckTx, ownerDuring s.phase, 0, 0⟩, true) := by
    unfold HubArbiter.beginEventAck
    rw [if_neg]
    · rfl
    · cases s.phase <;> simp [HubArbiter.setOwner, ownerDuring]
  dsimp only
  rw [hbegin]
  refine ends_ask (.startTransmit result.bytes) fun started => ?_
  split
  · exact Or.inr ⟨rfl, .started _ rfl rfl⟩
  · refine Prog.ends_bind.2 ((radio_restoreHubReceive s.phase true ?_).mono fun _ r hr => ?_)
    · rfl
    · rw [Prog.ends_pure, hr]
      exact Or.inr ⟨rfl, .failed _ rfl⟩

/-- **An Event is offered**: it is answered, or the radio stays as it is. -/
theorem ends_offerEvent (s : HubLoop) (bytes : Bytes) {phase : RuntimePhase} (hphase : s.phase = phase) :
    (s.offerEvent c bytes phase).Ends fun log s' =>
      s'.radio = s.radio ∨ log.any transmits = true ∧ AnswersEvent s.radio s'.radio := by
  subst hphase
  have hprocess : (s.processEventBytes c bytes s.phase).Ends fun log r =>
      r.1.radio = s.radio ∨ r.2 = true ∧ log.any transmits = true ∧ AnswersEvent s.radio r.1.radio := by
    unfold processEventBytes
    split
    · exact Or.inl rfl
    refine (Prog.ends_logs _).bind fun log ⟨ledger, result⟩ _ => ?_
    dsimp only
    split
    · exact Or.inl rfl
    refine (ends_startEventAdmissionAck { s with hubEventLedger := ledger } result).bind fun log' s' h => ?_
    refine h.imp id fun ⟨hcall, hack⟩ => ⟨rfl, ?_, hack⟩
    rw [List.append_nil, List.any_append, hcall, Bool.or_true]
  refine hprocess.bind fun log ⟨s1, answered⟩ h1 => ?_
  dsimp only at h1 ⊢
  split
  · rw [Prog.ends_pure, List.append_nil]
    exact h1.imp id And.right
  · rename_i hnot
    have hstays := h1.resolve_right fun h => hnot h.1
    refine (radio_restoreHubReceive s.phase true (congrArg RadioState.phase hstays)).bind fun _ r hr => ?_
    exact Or.inl (hr.trans hstays)

theorem ends_processIdleInbound (h : s.phase = .idle) :
    (s.processIdleInbound c).Ends fun log s' =>
      s'.radio = s.radio ∨ log.any transmits = true ∧ AnswersEvent s.radio s'.radio := by
  have hidle : ∀ log : Log HubOp.Reply, s.receiveIdle.Ends fun log' s' =>
      s'.radio = s.radio ∨ (log ++ log').any transmits = true ∧ AnswersEvent s.radio s'.radio :=
    fun _ => (radio_receiveIdle h).mono fun _ _ hr => Or.inl hr
  refine ends_ask .getPacketLength fun length => ?_
  split
  · exact hidle [_]
  refine ends_ask (.readData length) fun data => ?_
  cases data with
  | error e => exact hidle [_, _]
  | ok data => exact ends_offerEvent s data.toList h

/-! ### The structured transaction -/

/-- The structured command is transmitted, or fails to be; the transaction has the radio either way. -/
theorem ends_startHostStructuredTransmission (s : HubLoop) (command : Packet) :
    (s.startHostStructuredTransmission command).Ends fun _ s' => s'.radio = s.radio ∨
      ∃ a, s'.radio = { s.radio with phase := .transmitting, structured := true, arbiter := a } := by
  unfold startHostStructuredTransmission
  split
  · exact Or.inl rfl
  · refine ends_ask (.startTransmit _) fun started => ?_
    cases started with
    | false => exact Or.inr ⟨_, rfl⟩
    | true => exact Or.inr ⟨_, rfl⟩

theorem ends_finishHostStructuredOwnership (s : HubLoop) :
    s.finishHostStructuredOwnership.Ends fun _ s' => ∃ a : HubArbiter, a.owner = .idleReceive ∧
      s'.radio = { s.radio with phase := .idle, structured := false, arbiter := a } := by
  refine ends_ask .millis fun now => (radio_restoreReleasedTransactionReceive ?_).mono fun _ s' h => ⟨_, ?_, h⟩
  · rfl
  · rfl

section Structured

variable {flag : Bool} (hactive : s.eventAckTxActive = false) (hstructured : s.hostStructuredOwner = true)

include hactive hstructured

theorem moves_serviceStructured :
    s.serviceStructured.Ends fun log s' => Moves s.radio s.hostStack log flag s'.radio := by
  unfold serviceStructured
  dsimp only
  split
  · refine ends_ask .standby fun _ => (ends_startHostStructuredTransmission _ _).mono fun _ s' h => ?_
    rcases h with h | ⟨a, h⟩ <;> rw [h]
    · exact .stays
    · exact .carries hactive hstructured ⟨rfl, RuntimePhase.noConfusion, hactive, rfl⟩
  split
  · refine (ends_finishHostStructuredOwnership _).mono fun _ s' ⟨a, ha, h⟩ => ?_
    rw [h]
    exact .releases hactive hstructured a ha
  · exact .stays

/-- The wait for the Node goes on, or fails to. -/
theorem moves_of_waiting {log : Log HubOp.Reply} {r : RadioState}
    (h : r = { s.radio with phase := .waitingForAck } ∨
      (s.transactionState.awaitingAcknowledgment = true ∨ log.any failsReceive = true) ∧ Ended s.radio r)
    (hwaits : waitsOn s.phase s.hostStack log = true) : Moves s.radio s.hostStack log true r := by
  rcases h with rfl | ⟨hcause, t, -, rfl⟩
  · exact .carries hactive hstructured ⟨hstructured, RuntimePhase.noConfusion, hactive, rfl⟩
  · exact .fails hactive hstructured (hcause.imp id fun hfails => ⟨rfl, hfails, hwaits⟩) hstructured hactive

/-- The wait goes on after calls that have not started the receiver. -/
theorem moves_continueWaitingForAck (asked : Log HubOp.Reply)
    (hwaits : ∀ standby log, waitsOn s.phase s.hostStack (asked ++ ⟨.standby, standby⟩ :: log) = true) :
    s.continueWaitingForAck.Ends fun log s' => Moves s.radio s.hostStack (asked ++ log) true s'.radio := by
  refine (ends_continueWaitingForAck s).mono fun log s' h => ?_
  obtain ⟨⟨standby, log', rfl⟩, h⟩ := h
  refine moves_of_waiting hactive hstructured (h.imp id fun ⟨hcause, hended⟩ => ⟨hcause.imp id fun hfails => ?_, hended⟩)
    (hwaits standby log')
  rw [List.any_append, hfails, Bool.or_true]

/-- A packet for the structured transaction. -/
theorem moves_processStructured (asked : Log HubOp.Reply) (packet : Packet)
    (hwaits : (s.hostStack.onRadioPacket packet).1.lifecycle.remoteBridge.active = true →
      ∀ log, waitsOn s.phase s.hostStack (asked ++ log) = true) :
    (s.processStructured packet).Ends fun log s' => Moves s.radio s.hostStack (asked ++ log) true s'.radio := by
  unfold processStructured
  dsimp only
  split
  · refine (ends_finishHostStructuredOwnership _).mono fun _ s' ⟨a, ha, h⟩ => ?_
    rw [h]
    exact .releases hactive hstructured a ha
  · rename_i hbridge
    have hwait := hwaits (by simpa using hbridge)
    refine (ends_startAckReceive _ false).bind fun log s1 h1 => ?_
    split
    · rw [Prog.ends_pure, List.append_nil]
      rcases h1 with ⟨-, h1⟩ | ⟨hreset, -⟩ | ⟨hfails, h1⟩
      · exact moves_of_waiting hactive hstructured (Or.inl h1) (hwait log)
      · cases hreset
      · refine moves_of_waiting hactive hstructured (Or.inr ⟨Or.inr ?_, h1⟩) (hwait log)
        rw [List.any_append, hfails, Bool.or_true]
    · -- the response is waited for, whether the receiver has started or not
      rw [Prog.ends_pure, List.append_nil]
      rcases h1 with ⟨-, h1⟩ | ⟨hreset, -⟩ | ⟨hfails, t, -, h1⟩
      · have hradio := RadioState.mk.inj h1
        exact .carries hactive hstructured ⟨hradio.2.2.2.2.1.trans hstructured, RuntimePhase.noConfusion,
          hradio.2.2.1.trans hactive, hradio.2.2.2.2.2⟩
      · cases hreset
      · have hradio := RadioState.mk.inj h1
        refine .fails hactive hstructured (Or.inr ⟨rfl, ?_, hwait log⟩) (hradio.2.2.2.2.1.trans hstructured)
          (hradio.2.2.1.trans hactive)
        rw [List.any_append, hfails, Bool.or_true]

theorem moves_processAcknowledgment (hphase : s.phase = .waitingForAck ∨ s.phase = .waitingForResponse) :
    (s.processAcknowledgment c).Ends fun log s' => Moves s.radio s.hostStack log true s'.radio := by
  have hnone : ∀ log : Log HubOp.Reply, (received log).bind decode = none →
      waitsOn s.phase s.hostStack log = true := by
    intro log hlog
    rcases hphase with h | h <;> simp only [waitsOn, h, hlog]
  refine ends_ask .getPacketLength fun length => ?_
  split
  · exact moves_continueWaitingForAck hactive hstructured [⟨.getPacketLength, length⟩] fun _ _ => hnone _ rfl
  refine ends_ask (.readData length) fun data => ?_
  cases data with
  | error e =>
    exact moves_continueWaitingForAck hactive hstructured [⟨.getPacketLength, length⟩, ⟨.readData length, .error e⟩]
      fun _ _ => hnone _ rfl
  | ok data =>
    dsimp only
    have hreceived : ∀ log : Log HubOp.Reply,
        received ([⟨.getPacketLength, length⟩, ⟨.readData length, .ok data⟩] ++ log) = some data.toList := fun _ => rfl
    split
    · rename_i hdecode
      refine moves_continueWaitingForAck hactive hstructured [⟨.getPacketLength, length⟩, ⟨.readData length, .ok data⟩]
        fun _ _ => hnone _ ?_
      rw [hreceived]
      exact hdecode
    · rename_i packet hdecode
      split
      · refine (ends_offerEvent s data.toList rfl).mono fun log s' h => ?_
        rcases h with h | ⟨hcall, h⟩
        · rw [h]
          exact .stays
        · refine .acknowledges hactive ?_ h
          exact hcall
      · rename_i hevent
        refine moves_processStructured hactive hstructured [⟨.getPacketLength, length⟩, ⟨.readData length, .ok data⟩]
          packet fun hbridge log => ?_
        have hdecoded : (received ([⟨.getPacketLength, length⟩, ⟨.readData length, .ok data⟩] ++ log)).bind decode =
            some packet := by
          rw [hreceived]
          exact hdecode
        rcases hphase with h | h <;> simp only [waitsOn, h, hdecoded] <;> simp [hevent, hbridge]

/-- **The interrupt of the structured transaction.** -/
theorem moves_dispatch_structured :
    (s.dispatch c).Ends fun log s' => Moves s.radio s.hostStack log true s'.radio := by
  unfold dispatch
  dsimp only
  split
  · rename_i htransmitting
    have hwaits : ∀ log, waitsOn s.phase s.hostStack log = true := by
      intro log
      rw [htransmitting]
      rfl
    refine (ends_startAckReceive _ _).mono fun log s' h => ?_
    rcases h with ⟨-, h⟩ | ⟨hreset, -⟩ | ⟨hfails, t, -, h⟩
    · rw [h]
      exact .carries hactive hstructured ⟨hstructured, RuntimePhase.noConfusion, hactive, rfl⟩
    · simp [hstructured] at hreset
    · rw [h]
      exact .fails hactive hstructured (Or.inr ⟨rfl, hfails, hwaits log⟩) hstructured hactive
  split
  · rename_i hwaiting
    exact moves_processAcknowledgment (s := { s with operationDone := false }) hactive hstructured hwaiting
  · exact .stays

end Structured

/-! ### The legacy transaction in its phases -/

section Legacy

variable {stack : Stack} {flag : Bool} (hactive : s.eventAckTxActive = false) (hlegacy : s.hostStructuredOwner = false)

include hactive hlegacy

theorem moves_continueWaitingForAck_legacy (asked : Log HubOp.Reply) :
    s.continueWaitingForAck.Ends fun log s' => Moves s.radio stack (asked ++ log) flag s'.radio := by
  refine (ends_continueWaitingForAck s).mono fun log s' ⟨_, h⟩ => ?_
  rcases h with h | ⟨-, h⟩
  · rw [h]
    exact .waits hactive hlegacy
  · exact .ends hactive hlegacy h

theorem moves_processAcknowledgment_legacy :
    (s.processAcknowledgment c).Ends fun log s' => Moves s.radio stack log flag s'.radio := by
  have hwaits : ∀ asked : Log HubOp.Reply, s.continueWaitingForAck.Ends fun log s' =>
      Moves s.radio stack (asked ++ log) flag s'.radio := moves_continueWaitingForAck_legacy hactive hlegacy
  refine ends_ask .getPacketLength fun length => ?_
  split
  · exact hwaits [_]
  refine ends_ask (.readData length) fun data => ?_
  cases data with
  | error e => exact hwaits [_, _]
  | ok data =>
    dsimp only
    split
    · exact hwaits [_, _]
    · rename_i packet _
      split
      · refine (ends_offerEvent s data.toList rfl).mono fun log s' h => ?_
        rcases h with h | ⟨hcall, h⟩
        · rw [h]
          exact .stays
        · refine .acknowledges hactive ?_ h
          exact hcall
      · unfold processLegacy
        rw [hlegacy, if_neg Bool.false_ne_true]
        split
        · exact hwaits [_, _]
        · refine (radio_completeAndScheduleNextTransaction s).mono fun _ s' h => ?_
          exact .ends hactive hlegacy ⟨_, rfl, h⟩

/-- **The interrupt of the legacy transaction.** -/
theorem moves_dispatch_legacy : (s.dispatch c).Ends fun log s' => Moves s.radio stack log flag s'.radio := by
  unfold dispatch
  dsimp only
  split
  · rw [if_neg (by simp [hlegacy])]
    refine (ends_startAckReceive _ _).mono fun log s' h => ?_
    rcases h with ⟨hreset, -⟩ | ⟨-, now, h⟩ | ⟨-, h⟩
    · simp [hlegacy] at hreset
    · rw [h]
      exact .awaits hactive hlegacy now
    · exact .ends hactive hlegacy h
  split
  · exact moves_processAcknowledgment_legacy (s := { s with operationDone := false }) hactive hlegacy
  · exact .stays

theorem moves_serviceDeadline : s.serviceDeadline.Ends fun log s' => Moves s.radio stack log flag s'.radio := by
  unfold serviceDeadline
  split
  · exact .stays
  refine ends_ask .millis fun now => ?_
  split
  · exact .stays
  · exact (ends_scheduleRetryOrNext s).mono fun _ s' h => .ends hactive hlegacy h

end Legacy

/-! ### The services -/

/-- The idle phase; a structured transaction is in it only with an interrupt. -/
theorem moves_serviceIdle {stack : Stack} {flag : Bool} (hactive : s.eventAckTxActive = false) (hidle : s.phase = .idle)
    (hdone : s.hostStructuredOwner = true → s.operationDone = true) :
    (s.serviceIdle c).Ends fun log s' => Moves s.radio stack log flag s'.radio := by
  have hinbound : ∀ (asked : Log HubOp.Reply) (done : Bool),
      (processIdleInbound c { s with operationDone := done }).Ends fun log s' =>
        Moves s.radio stack (asked ++ log) flag s'.radio := by
    intro asked done
    refine (ends_processIdleInbound (s := { s with operationDone := done }) hidle).mono fun log s' h => ?_
    rcases h with h | ⟨hcall, h⟩
    · rw [h]
      exact .stays
    · refine .acknowledges hactive ?_ h
      rw [List.any_append, hcall, Bool.or_true]
  refine Prog.ends_bind.2 (ends_readOperationDone fun log done hset _ => ?_)
  dsimp only
  split
  · exact hinbound log false
  rename_i hnot
  have hlegacy : s.hostStructuredOwner = false := by
    by_contra hstructured
    exact hnot (hset (hdone (by simpa using hstructured))).2
  refine ends_ask .millis fun now => ?_
  split
  · exact .stays
  refine ends_ask .standby fun standby => ?_
  split
  · refine (radio_receiveIdle (s := { s with operationDone := done }) hidle).mono fun _ s' h => ?_
    rw [h]
    exact .stays
  refine Prog.ends_bind.2 (ends_readOperationDone fun log' done' _ _ => ?_)
  dsimp only
  split
  · simpa only [List.append_assoc, List.cons_append] using
      hinbound (log ++ ⟨.millis, now⟩ :: ⟨.standby, standby⟩ :: log') done'
  · refine (ends_startCommandTransmission _).mono fun _ s' h => ?_
    rcases h with h | h
    · rw [h]
      exact .transmits hactive hlegacy hidle
    · exact .ends hactive hlegacy h

/-- The end of an acknowledgment of an Event. -/
theorem moves_serviceEventAck {stack : Stack} {flag : Bool} (hactive : s.eventAckTxActive = true) :
    s.serviceEventAck.Ends fun log s' => Moves s.radio stack log flag s'.radio := by
  refine Prog.ends_bind.2 (ends_readOperationDone fun log done _ _ => ?_)
  dsimp only
  split
  · exact .stays
  refine (ends_restoreHubReceive _ true).bind fun _ r h => ?_
  rw [Prog.ends_pure]
  rcases h with h | h <;> rw [h]
  · exact .acknowledged hactive _ (Or.inr rfl)
  · exact .acknowledged hactive _ (Or.inl rfl)

theorem moves_servicePhase_legacy {stack : Stack} {flag : Bool} (hactive : s.eventAckTxActive = false)
    (hlegacy : s.hostStructuredOwner = false) :
    (s.servicePhase c).Ends fun log s' => Moves s.radio stack log flag s'.radio := by
  unfold servicePhase
  split
  · rename_i hidle
    exact moves_serviceIdle hactive hidle fun h => absurd (hlegacy.symm.trans h) Bool.false_ne_true
  refine Prog.ends_bind.2 (ends_readOperationDone fun log done hset hasked => ?_)
  have hread := received_of_read hset hasked
  dsimp only
  split
  · exact ends_after log hread (moves_serviceDeadline (s := { s with operationDone := done }) hactive hlegacy)
  · exact ends_after log hread (moves_dispatch_legacy (s := { s with operationDone := done }) hactive hlegacy)

/-- A structured transaction with an interrupt. -/
theorem moves_servicePhase_structured (hactive : s.eventAckTxActive = false) (hstructured : s.hostStructuredOwner = true)
    (hdone : s.operationDone = true) :
    (s.servicePhase c).Ends fun log s' => Moves s.radio s.hostStack log true s'.radio := by
  unfold servicePhase
  split
  · rename_i hidle
    exact moves_serviceIdle hactive hidle fun _ => hdone
  refine Prog.ends_bind.2 (ends_readOperationDone fun log done hset hasked => ?_)
  obtain ⟨rfl, rfl⟩ := hset hdone
  exact moves_dispatch_structured (s := { s with operationDone := true }) hactive hstructured

/-- **What the transport does.** -/
theorem moves_serviceHubTransport (s : HubLoop) :
    (s.serviceHubTransport c).Ends fun log s' =>
      Moves s.radio s.hostStack log (s.operationDone || reported log) s'.radio := by
  unfold serviceHubTransport
  split
  · rename_i hactive
    exact ends_flagged fun _ => moves_serviceEventAck hactive
  rename_i hnone
  have hactive : s.eventAckTxActive = false := by simpa using hnone
  split
  · rename_i hnot
    have hlegacy : s.hostStructuredOwner = false := by simpa using hnot
    exact ends_flagged fun _ => moves_servicePhase_legacy hactive hlegacy
  rename_i howner
  have hstructured : s.hostStructuredOwner = true := by simpa using howner
  refine Prog.ends_bind.2 (ends_readOperationDone fun log done hset hasked => ?_)
  have hread := received_of_read hset hasked
  simp only [flag_of_read hset hasked]
  cases done with
  | false =>
    exact ends_after log hread (moves_serviceStructured (s := { s with operationDone := false }) hactive hstructured)
  | true =>
    exact ends_after log hread
      (moves_servicePhase_structured (s := { s with operationDone := true }) hactive hstructured rfl)

/-- The Host's bytes are read, and the command that they ask for is transmitted. -/
theorem ends_readHost (s : HubLoop) :
    (s.readHost c).Ends fun _ s' => s'.radio = s.radio ∨ s.phase = .idle ∧
      ∃ a, s'.radio = { s.radio with phase := .transmitting, structured := true, arbiter := a } := by
  refine ends_ask .hostRead fun call => (Prog.ends_logs _).bind fun _ ⟨ledger, stack, result⟩ _ => ?_
  dsimp only
  split
  · rename_i hcommand
    exact (ends_startHostStructuredTransmission _ _).mono fun _ s' h => h.imp id fun h => ⟨hcommand.2, h⟩
  split
  · rename_i hidle
    exact (radio_receiveIdle (s := { s with hubEventLedger := ledger, hostStack := stack }) hidle).mono
      fun _ s' h => Or.inl h
  · exact Or.inl rfl

/-- **What the Host's service does.** -/
theorem moves_serviceProductionHost {stack : Stack} {flag : Bool} (s : HubLoop) :
    (s.serviceProductionHost c).Ends fun log s' => Moves s.radio stack log flag s'.radio := by
  refine ends_ask .millis fun now => ?_
  have hattend : (attendHost { s with nowMs := now }).Ends fun _ s' => s'.radio = s.radio :=
    ends_ask .connected fun _ => ends_ask .writable fun _ => rfl
  refine hattend.bind fun log s1 h1 => ?_
  have hstays : ∀ {s2 : HubLoop} {log : Log HubOp.Reply}, s2.radio = s1.radio →
      Moves s.radio stack log flag s2.radio := by
    intro s2 log h2
    rw [h2, h1]
    exact .stays
  split
  · exact hstays rfl
  split
  · exact hstays rfl
  refine ends_ask .available fun available => ?_
  split
  · exact hstays rfl
  refine Prog.ends_bind.2 (ends_readOperationDone fun log' pending _ _ => ?_)
  dsimp only
  split
  · exact hstays rfl
  rename_i hmay
  refine ends_ask .standby fun standby => ?_
  split
  · exact hstays rfl
  refine Prog.ends_bind.2 (ends_readOperationDone fun log'' pending' _ _ => ?_)
  dsimp only
  split
  · exact hstays rfl
  · have howner : s1.hubRadioArbiter.owner = .idleReceive := by
      simp only [HubArbiter.commandMayAcquire, Bool.not_eq_true', Bool.not_eq_false, Bool.and_eq_true,
        decide_eq_true_eq] at hmay
      exact hmay.1
    rw [← h1]
    refine (ends_readHost { s1 with operationDone := pending' }).mono fun _ s' h => ?_
    rcases h with h | ⟨hidle, a, h⟩ <;> rw [h]
    · exact .stays
    · exact .acquires hidle howner a

end HubLoop

end Redline.Hub
