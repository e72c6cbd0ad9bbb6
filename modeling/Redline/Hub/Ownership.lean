import Redline.Host.RemoteDelivery
import Redline.Hub.Transport

/-!
# Who has the radio of the Hub

Two transactions share the radio: the legacy one, and the structured one of the Host.  The acknowledgment of an Event
interrupts either (`Interrupted`).

The legacy transaction does not know the arbiter.  An Event that is acknowledged while it waits leaves the arbiter to a
command that nobody releases; in every other run the arbiter is free when the Hub is idle (`Arbitrated`).  And the two
transactions share the receiver: one that fails to start is counted against the legacy transaction, whichever waits; in
every other run the structured transaction leaves the legacy one alone (`Separated`).
-/

namespace Redline.Hub

open Redline.Wire Redline.Records Redline.Lib Redline.Host

/-! ### The acknowledgment of an Event -/

/-- The acknowledgment of an Event has the radio, and interrupts the phase that it goes back to. -/
structure Interrupted (r : RadioState) : Prop where
  owner : r.ackActive = true → r.arbiter.owner = .eventAckTx
  prior : r.ackActive = true → r.priorPhase = r.phase

section Step

variable {r r' : RadioState} {stack : Stack} {log : Log HubOp.Reply} {flag : Bool}

theorem Interrupted.of_none (h : r.ackActive = false) : Interrupted r := by
  constructor
  · intro hactive
    rw [h] at hactive
    cases hactive
  · intro hactive
    rw [h] at hactive
    cases hactive

/-- The Host's command finds no acknowledgment on the air. -/
theorem Interrupted.none_of_owner (h : Interrupted r) (howner : r.arbiter.owner = .idleReceive) : r.ackActive = false := by
  by_contra hactive
  have hair := h.owner (by simpa using hactive)
  rw [howner] at hair
  cases hair

theorem Interrupted.step (h : Interrupted r) (hm : Moves r stack log flag r') : Interrupted r' := by
  cases hm with
  | stays => exact h
  | acquires _ howner a => exact .of_none (h.none_of_owner howner)
  | acknowledges _ _ hevent =>
    cases hevent with
    | started a howner _ => exact ⟨fun _ => howner, fun _ => rfl⟩
    | failed a _ => exact .of_none rfl
  | acknowledged => exact .of_none rfl
  | transmits hactive | awaits hactive | waits hactive | releases hactive => exact .of_none hactive
  | ends hactive _ hended =>
    obtain ⟨t, -, rfl⟩ := hended
    exact .of_none hactive
  | carries _ _ hcarries => exact .of_none hcarries.ackActive
  | fails _ _ _ _ hnone => exact .of_none hnone

/-! ### The arbiter -/

/-- Without a structured transaction the arbiter is free, but for the acknowledgment of an Event. -/
structure Arbitrated (r : RadioState) : Prop extends Interrupted r where
  free : r.structured = false → r.ackActive = false → r.arbiter.owner = .idleReceive
  saved : r.structured = false → r.ackActive = true → r.arbiter.savedOwner = .idleReceive
  response : r.phase = .waitingForResponse → r.structured = true

theorem Arbitrated.of_structured (hi : Interrupted r) (hs : r.structured = true) : Arbitrated r := by
  refine ⟨hi, fun hlegacy => ?_, fun hlegacy => ?_, fun _ => hs⟩
  · rw [hs] at hlegacy
    cases hlegacy
  · rw [hs] at hlegacy
    cases hlegacy

theorem Arbitrated.of_free (hnone : r.ackActive = false) (howner : r.arbiter.owner = .idleReceive)
    (hphase : r.phase ≠ .waitingForResponse) : Arbitrated r := by
  refine ⟨.of_none hnone, fun _ _ => howner, fun _ hactive => ?_, fun hresponse => absurd hresponse hphase⟩
  rw [hnone] at hactive
  cases hactive

theorem ownerDuring_eq {phase : RuntimePhase} (hack : phase ≠ .waitingForAck) (hresponse : phase ≠ .waitingForResponse) :
    HubLoop.ownerDuring phase = .idleReceive := by
  cases phase <;> first | rfl | exact absurd rfl hack | exact absurd rfl hresponse

/-- **One service keeps the arbiter**, unless it acknowledges an Event while the legacy transaction waits. -/
theorem Arbitrated.step (h : Arbitrated r) (hm : Moves r stack log flag r')
    (hok : r.structured = false → r.phase = .waitingForAck → log.any transmits = false) : Arbitrated r' := by
  have hi := h.toInterrupted.step hm
  cases hm with
  | stays => exact h
  | acquires => exact .of_structured hi rfl
  | acknowledges _ hcall hevent =>
    cases hs : r.structured with
    | true => cases hevent <;> exact .of_structured hi hs
    | false =>
      -- the phase is one that the arbiter does not know
      have hphase : r.phase ≠ .waitingForResponse := by
        intro hresponse
        have hstructured := h.response hresponse
        rw [hs] at hstructured
        cases hstructured
      have hidle : HubLoop.ownerDuring r.phase = .idleReceive := by
        refine ownerDuring_eq (fun hwaiting => ?_) hphase
        rw [hok hs hwaiting] at hcall
        cases hcall
      cases hevent with
      | started a howner hsaved =>
        refine ⟨hi, fun _ hnone => ?_, fun _ _ => hsaved.trans hidle, fun hresponse => absurd hresponse hphase⟩
        cases hnone
      | failed a howner => exact .of_free rfl (howner.trans hidle) hphase
  | acknowledged hactive phase hphase =>
    by_cases hs : r.structured = true
    · exact .of_structured hi hs
    · have hsame : phase = r.phase := hphase.elim id fun hprior => hprior.trans (h.prior hactive)
      refine .of_free rfl ?_ fun hresponse => hs (h.response (hsame.symm.trans hresponse))
      unfold HubArbiter.finishEventAck
      rw [if_pos (h.owner hactive)]
      exact h.saved (by simpa using hs) hactive
  | transmits hactive hlegacy => exact .of_free hactive (h.free hlegacy hactive) RuntimePhase.noConfusion
  | awaits hactive hlegacy => exact .of_free hactive (h.free hlegacy hactive) RuntimePhase.noConfusion
  | waits hactive hlegacy => exact .of_free hactive (h.free hlegacy hactive) RuntimePhase.noConfusion
  | ends hactive hlegacy hended =>
    obtain ⟨t, -, rfl⟩ := hended
    exact .of_free hactive (h.free hlegacy hactive) RuntimePhase.noConfusion
  | carries _ _ hcarries => exact .of_structured hi hcarries.structured
  | releases hactive _ a howner => exact .of_free hactive howner RuntimePhase.noConfusion
  | fails _ _ _ hkept => exact .of_structured hi hkept

/-! ### The legacy transaction -/

/-- The legacy transaction waits for its acknowledgment in its own phase, and the structured one is not idle. -/
structure Separated (r : RadioState) : Prop extends Interrupted r where
  awaiting : r.transaction.awaitingAcknowledgment = true → r.phase = .waitingForAck ∧ r.structured = false
  busy : r.structured = true → r.phase ≠ .idle

/-- What a service leaves alone while there is a structured transaction. -/
structure KeptApart (r r' : RadioState) : Prop where
  transaction : r.structured = true ∨ r'.structured = true → r'.transaction = r.transaction
  busy : r'.structured = true → r'.phase ≠ .idle

theorem Separated.not_awaiting (h : Separated r) (hs : r.structured = true) :
    r.transaction.awaitingAcknowledgment = false := by
  by_contra hawaiting
  have hlegacy := (h.awaiting (by simpa using hawaiting)).2
  rw [hs] at hlegacy
  cases hlegacy

theorem Separated.not_awaiting_idle (h : Separated r) (hidle : r.phase = .idle) :
    r.transaction.awaitingAcknowledgment = false := by
  by_contra hawaiting
  have hphase := (h.awaiting (by simpa using hawaiting)).1
  rw [hidle] at hphase
  cases hphase

/-- **One service keeps the transactions apart**, unless the receiver of the structured one fails to start. -/
theorem Separated.step (h : Separated r) (hm : Moves r stack log flag r')
    (hok : r.structured = true → r.ackActive = false →
      ¬ (flag = true ∧ log.any failsReceive = true ∧ waitsOn r.phase stack log = true)) :
    Separated r' ∧ KeptApart r r' := by
  have hi := h.toInterrupted.step hm
  have hno : ∀ {x : Bool} {P : Prop}, x = false → x = true → P := by
    intro x P hfalse htrue
    rw [hfalse] at htrue
    cases htrue
  cases hm with
  | stays => exact ⟨h, fun _ => rfl, h.busy⟩
  | acquires hidle howner a =>
    exact ⟨⟨hi, hno (h.not_awaiting_idle hidle), fun _ => RuntimePhase.noConfusion⟩, fun _ => rfl,
      fun _ => RuntimePhase.noConfusion⟩
  | acknowledges _ _ hevent => cases hevent <;> exact ⟨⟨hi, h.awaiting, h.busy⟩, fun _ => rfl, h.busy⟩
  | acknowledged hactive phase hphase =>
    obtain rfl : phase = r.phase := hphase.elim id fun hprior => hprior.trans (h.prior hactive)
    exact ⟨⟨hi, h.awaiting, h.busy⟩, fun _ => rfl, h.busy⟩
  | transmits hactive hlegacy hidle =>
    exact ⟨⟨hi, hno (h.not_awaiting_idle hidle), hno hlegacy⟩, fun _ => rfl, hno hlegacy⟩
  | awaits hactive hlegacy now =>
    exact ⟨⟨hi, fun _ => ⟨rfl, hlegacy⟩, hno hlegacy⟩, fun hs => hs.elim (hno hlegacy) (hno hlegacy), hno hlegacy⟩
  | waits hactive hlegacy => exact ⟨⟨hi, fun _ => ⟨rfl, hlegacy⟩, hno hlegacy⟩, fun _ => rfl, hno hlegacy⟩
  | ends hactive hlegacy hended =>
    obtain ⟨t, ht, rfl⟩ := hended
    exact ⟨⟨hi, hno ht, hno hlegacy⟩, fun hs => hs.elim (hno hlegacy) (hno hlegacy), hno hlegacy⟩
  | carries _ hstructured hcarries =>
    refine ⟨⟨hi, hno ?_, fun _ => hcarries.busy⟩, fun _ => hcarries.transaction, fun _ => hcarries.busy⟩
    rw [hcarries.transaction]
    exact h.not_awaiting hstructured
  | releases _ hstructured a howner =>
    exact ⟨⟨hi, hno (h.not_awaiting hstructured), hno rfl⟩, fun _ => rfl, hno rfl⟩
  | fails hactive hstructured hcause =>
    exact hcause.elim (hno (h.not_awaiting hstructured)) fun hfails => absurd hfails (hok hstructured hactive)

end Step

/-! ### Turns -/

namespace HubTurn

variable {c : DeviceConfig} {t : HubTurn}

/-- The interrupt flag, as the service reads it first. -/
def flag (t : HubTurn) : Bool := t.before.operationDone || reported t.log

/-- An Event is acknowledged while the legacy transaction waits for its acknowledgment. -/
structure InterruptsLegacyWait (t : HubTurn) : Prop where
  legacy : t.before.hostStructuredOwner = false
  waiting : t.before.phase = .waitingForAck
  transmits : t.log.any transmits = true

/-- The receiver does not start when the structured transaction is to go on waiting for the Node. -/
structure FailsStructuredWait (t : HubTurn) : Prop where
  service : t.service = .transport
  structured : t.before.hostStructuredOwner = true
  silent : t.before.eventAckTxActive = false
  interrupted : t.flag = true
  waits : waitsOn t.before.phase t.before.hostStack t.log = true
  fails : t.log.any failsReceive = true

instance (t : HubTurn) : Decidable t.InterruptsLegacyWait :=
  decidable_of_iff (t.before.hostStructuredOwner = false ∧ t.before.phase = .waitingForAck ∧
      t.log.any Hub.transmits = true)
    ⟨fun h => ⟨h.1, h.2.1, h.2.2⟩, fun h => ⟨h.legacy, h.waiting, h.transmits⟩⟩

instance (t : HubTurn) : Decidable t.FailsStructuredWait :=
  decidable_of_iff (t.service = .transport ∧ t.before.hostStructuredOwner = true ∧ t.before.eventAckTxActive = false ∧
      t.flag = true ∧ waitsOn t.before.phase t.before.hostStack t.log = true ∧ t.log.any failsReceive = true)
    ⟨fun h => ⟨h.1, h.2.1, h.2.2.1, h.2.2.2.1, h.2.2.2.2.1, h.2.2.2.2.2⟩,
      fun h => ⟨h.service, h.structured, h.silent, h.interrupted, h.waits, h.fails⟩⟩

theorem moves (ht : (mainLoop c).Steps t) (flag : Bool) (hflag : t.service = .transport → flag = t.flag) :
    Moves t.before.radio t.before.hostStack t.log flag t.after.radio := by
  obtain ⟨before, service, log, after⟩ := t
  cases service with
  | productionHost => exact Prog.Logs.ends ht before.moves_serviceProductionHost
  | transport =>
    rw [hflag rfl]
    have htransport : (HubService.run c before .transport).Ends fun log s' =>
        Moves before.radio before.hostStack log (before.operationDone || reported log) s'.radio := by
      unfold HubService.run
      dsimp only
      split
      · exact before.moves_serviceHubTransport
      · exact .stays
    exact Prog.Logs.ends ht htransport

theorem arbitrated_step (ht : (mainLoop c).Steps t) (h : Arbitrated t.before.radio) (hok : ¬ t.InterruptsLegacyWait) :
    Arbitrated t.after.radio := by
  refine h.step (moves ht t.flag fun _ => rfl) fun hlegacy hwaiting => ?_
  by_contra hcall
  exact hok ⟨hlegacy, hwaiting, by simpa using hcall⟩

theorem separated_step (ht : (mainLoop c).Steps t) (h : Separated t.before.radio) (hok : ¬ t.FailsStructuredWait) :
    Separated t.after.radio ∧ KeptApart t.before.radio t.after.radio := by
  cases hservice : t.service with
  | productionHost =>
    refine h.step (moves ht false fun htransport => ?_) fun _ _ hfails => Bool.noConfusion hfails.1
    rw [hservice] at htransport
    cases htransport
  | transport =>
    refine h.step (moves ht t.flag fun _ => rfl) fun hstructured hactive ⟨hflag, hfails, hwaits⟩ => ?_
    exact hok ⟨hservice, hstructured, hactive, hflag, hwaits, hfails⟩

end HubTurn

/-! ### Runs -/

theorem HubLoop.ends_setup (c : DeviceConfig) :
    (HubLoop.setup c).Ends fun _ s => Arbitrated s.radio ∧ Separated s.radio := by
  have hinitial : ∀ {s : HubLoop}, s.radio = HubLoop.initial.radio → Arbitrated s.radio ∧ Separated s.radio := by
    intro s hs
    rw [hs]
    exact ⟨.of_free rfl rfl RuntimePhase.noConfusion, .of_none rfl, fun h => Bool.noConfusion h,
      fun h => Bool.noConfusion h⟩
  refine (Prog.ends_logs _).bind fun _ ⟨ledger, status⟩ _ => ends_ask .beginRadio fun begun => ?_
  split
  · exact hinitial rfl
  · exact ends_ask .millis fun now => (radio_receiveIdle rfl).mono fun _ s hs => hinitial hs

/-- An idle Hub without a transaction has the radio free for the Host's command. -/
def HubLoop.Released (s : HubLoop) : Prop :=
  s.phase = .idle → s.eventAckTxActive = false → s.hostStructuredOwner = false →
    s.hubRadioArbiter.owner = .idleReceive ∧ s.hubRadioArbiter.commandMayAcquire false = true

instance (s : HubLoop) : Decidable s.Released := inferInstanceAs (Decidable (_ → _ → _ → _))

theorem Arbitrated.released {s : HubLoop} (h : Arbitrated s.radio) : s.Released := by
  intro _ hactive hlegacy
  have howner : s.hubRadioArbiter.owner = .idleReceive := h.free hlegacy hactive
  refine ⟨howner, ?_⟩
  simp [HubArbiter.commandMayAcquire, howner]

/-- **The arbiter is released with the transaction that has held it**, in every run of the firmware in which no Event is
acknowledged while the legacy transaction waits for its acknowledgment. -/
theorem arbiter_released {c : DeviceConfig} {turns : List HubTurn} (h : Firmware c turns)
    (hok : ∀ t ∈ turns, ¬ t.InterruptsLegacyWait) : ∀ t ∈ turns, t.before.Released ∧ t.after.Released := by
  obtain ⟨log, s, hsetup, hrun⟩ := h.started
  have hinv := hrun.invariant (I := fun q => Arbitrated q.2.radio)
    (fun u hu hs harb => HubTurn.arbitrated_step hs harb (hok u hu)) (hsetup.ends (HubLoop.ends_setup c)).1
  exact fun t ht => ⟨(hinv.1 t ht).1.released, (hinv.1 t ht).2.released⟩

/-- The legacy transaction stays as it is through every stretch of turns with a structured transaction, and the Hub is
not idle in it. -/
structure LeavesLegacy (turns : List HubTurn) : Prop where
  transaction : ∀ past period rest, turns = past ++ period ++ rest →
    (∀ t ∈ period, t.before.hostStructuredOwner = true ∨ t.after.hostStructuredOwner = true) →
    ∀ t ∈ period, ∀ u ∈ period, u.before.transactionState = t.before.transactionState ∧
      u.after.transactionState = t.before.transactionState
  busy : ∀ t ∈ turns, t.after.hostStructuredOwner = true → t.after.phase ≠ .idle

/-- **A structured transaction leaves the legacy one alone**, in every run of the firmware in which the receiver starts
whenever the structured transaction is to go on waiting. -/
theorem structured_leaves_legacy {c : DeviceConfig} {turns : List HubTurn} (h : Firmware c turns)
    (hok : ∀ t ∈ turns, ¬ t.FailsStructuredWait) : LeavesLegacy turns := by
  obtain ⟨log, s, hsetup, hrun⟩ := h.started
  have hinv := hrun.invariant (I := fun q => Separated q.2.radio)
    (fun u hu hs hsep => (HubTurn.separated_step hs hsep (hok u hu)).1) (hsetup.ends (HubLoop.ends_setup c)).2
  have hapart : ∀ t ∈ turns, KeptApart t.before.radio t.after.radio := fun t ht =>
    (HubTurn.separated_step (hrun.steps ht) (hinv.1 t ht).1 (hok t ht)).2
  refine ⟨?_, fun t ht => (hapart t ht).busy⟩
  rintro past period rest rfl hperiod
  obtain ⟨⟨-, hstretch⟩, -⟩ := (System.isRun_append.1 hrun).imp_left System.isRun_append.1
  have hsame := (hstretch.invariant
    (I := fun q => q.2.transactionState = ((mainLoop c).last (.productionHost, s) past).2.transactionState)
    (fun u hu _ hbefore => ((hapart u (by simp [hu])).transaction (hperiod u hu)).trans hbefore) rfl).1
  intro t ht u hu
  exact ⟨(hsame u hu).1.trans (hsame t ht).1.symm, (hsame u hu).2.trans (hsame t ht).1.symm⟩

/-! ### An Event in the wait, and a receiver that does not start -/

/-- A check-in of the Node. -/
def checkInBytes : Bytes :=
  (encodeEvent { source := 2, destination := 1, sequence := 1, family := Family.manualCheckIn, epoch := 7, id := 1
                 flags := 0, lifetimeBudgetSeconds := 60, bodyLength := 1, body := bodyOf [1] } maxPacketSize).getD []

/-- The check-in comes while the Hub is idle, and its acknowledgment is sent. -/
def idleCheckIn : List HubTurn :=
  recordedFirmware ⟨1, 2⟩ (calm 0) [calm 10, hearing 10 checkInBytes, calm 20, interrupting 20]

theorem arbiter_released_idle_check_in :
    (idleCheckIn.map fun t => t.after.hubRadioArbiter.owner) = [.idleReceive, .eventAckTx, .eventAckTx, .idleReceive] ∧
      ∀ t ∈ idleCheckIn, t.before.Released ∧ t.after.Released :=
  ⟨by decide +kernel, arbiter_released (firmware_recorded ⟨1, 2⟩ (calm 0) _) (by decide +kernel)⟩

/-- The legacy command is transmitted; the check-in comes while its acknowledgment is waited for, and is acknowledged;
then the wait is over. -/
def waitingCheckIn : List HubTurn :=
  recordedFirmware ⟨1, 2⟩ (calm 0) [calm 3000, calm 3000, calm 3100, interrupting 3100, calm 3200,
    hearing 3200 checkInBytes, calm 3300, interrupting 3300, calm 9000, calm 9000]

/-- **The arbiter stays with a command that is over.** -/
theorem arbiter_stays_taken :
    (waitingCheckIn.map fun t => (decide t.after.Released, t.after.hubRadioArbiter.owner)) =
        [(true, .idleReceive), (true, .idleReceive), (true, .idleReceive), (true, .idleReceive), (true, .idleReceive),
          (true, .eventAckTx), (true, .eventAckTx), (true, .commandWaitAck), (true, .commandWaitAck),
          (false, .commandWaitAck)] ∧
      ¬ ∀ turns, Firmware ⟨1, 2⟩ turns → ∀ t ∈ turns, t.before.Released ∧ t.after.Released := by
  refine ⟨by decide +kernel, fun h => ?_⟩
  have hrun := h waitingCheckIn (firmware_recorded ⟨1, 2⟩ (calm 0) _)
  exact absurd hrun (by decide +kernel)

/-- The Host asks for a PING of the Node. -/
def asking (now : UInt32) : (op : HubOp) → op.Reply
  | .available => (1 : Int)
  | .hostRead => callWith remotePing
  | op => calm now op

/-- A transmission is over, and the receiver does not start. -/
def deafened (now : UInt32) : (op : HubOp) → op.Reply
  | .startReceive => false
  | op => interrupting now op

/-- The PING is transmitted, and its acknowledgment is waited for. -/
def heldPing : List HubTurn := recordedFirmware ⟨1, 2⟩ (calm 0) [asking 10, interrupting 20]

theorem structured_leaves_legacy_ping :
    (heldPing.map fun t => (t.after.hostStructuredOwner, t.after.phase)) =
        [(true, .transmitting), (true, .waitingForAck)] ∧ LeavesLegacy heldPing :=
  ⟨by decide +kernel, structured_leaves_legacy (firmware_recorded ⟨1, 2⟩ (calm 0) _) (by decide +kernel)⟩

/-- The receiver for the acknowledgment of the PING does not start. -/
def deafenedPing : List HubTurn := recordedFirmware ⟨1, 2⟩ (calm 0) [asking 10, deafened 20]

/-- **The structured transaction costs the legacy one an attempt**, and leaves the Hub idle under its owner. -/
theorem structured_touches_legacy :
    (deafenedPing.map fun t => (t.after.hostStructuredOwner, t.after.phase, t.after.transactionState.retryCount)) =
        [(true, .transmitting, 0), (true, .idle, 1)] ∧
      ¬ ∀ turns, Firmware ⟨1, 2⟩ turns → LeavesLegacy turns := by
  refine ⟨by decide +kernel, fun h => ?_⟩
  have hbusy := (h deafenedPing (firmware_recorded ⟨1, 2⟩ (calm 0) _)).busy
  exact absurd hbusy (by decide +kernel)

end Redline.Hub
