import Redline.Node.MainLoop

/-!
# Admitted commands in the main loop

The processor keeps the command that has been admitted, and `structuredAckThenExecute` the obligation to execute it
after the acknowledgment.  They go together (`Obliged`): every service keeps them so, but for `serviceCommandPreAck`,
which gives the obligation up when the acknowledgment cannot be transmitted.  A command that is left so is never
executed: it is acknowledged as a duplicate as often as it comes, and every other one finds the processor busy.
-/

namespace Redline.Node

open Redline.Wire Redline.Records Redline.Lib Redline.Host

namespace NodeLoop

variable {s s' s'' : NodeLoop} {c : DeviceConfig}

/-! ### The first steps -/

section Steps

variable {Q : Log LoopOp.Reply → NodeLoop × Bool → Prop} {R : Log LoopOp.Reply → NodeLoop → Prop}

theorem ends_ask {α : Type} (op : LoopOp) {f : op.Reply → LoopM α} {P : Log LoopOp.Reply → α → Prop}
    (h : ∀ r, (f r).Ends fun log a => P (⟨op, r⟩ :: log) a) : (Prog.lift op >>= f).Ends P := Prog.ends_ask op h

theorem ends_readOperationDone
    (h : ∀ log done, (s.operationDone = true → log = [] ∧ done = true) →
      (s.operationDone = false → log = [⟨.interrupted, done⟩]) → Q log ({ s with operationDone := done }, done)) :
    s.readOperationDone.Ends Q := by
  unfold readOperationDone
  split
  · rename_i hdone
    have hs : { s with operationDone := true } = s := by rw [← hdone]
    have hQ := h [] true (fun _ => ⟨rfl, rfl⟩) fun hf => absurd (hf.symm.trans hdone) (by decide)
    rw [hs] at hQ
    exact hQ
  · rename_i hdone
    exact fun r => h [⟨.interrupted, r⟩] r (fun hf => absurd hf hdone) fun _ => rfl

/-- What `startListening` leaves. -/
def listening (s : NodeLoop) (started : Bool) : NodeLoop :=
  { s with operationDone := false, phase := .listening, owner := if started then .listening else s.owner }

theorem ends_startListening (h : ∀ started, Q [⟨.startReceive, started⟩] (s.listening started, started)) :
    s.startListening.Ends Q := by
  intro started
  cases started with
  | true => exact h true
  | false => exact h false

theorem ends_listenAgain (h : ∀ started, R [⟨.startReceive, started⟩] (s.listening started)) :
    s.listenAgain.Ends R :=
  Prog.ends_bind.2 (ends_startListening h)

end Steps

/-! ### What is left alone -/

/-- Neither the Event subsystem nor the processor and its obligation have been touched. -/
structure Aside (s s' : NodeLoop) : Prop where
  machine : s'.machine = s.machine
  processor : s'.processor = s.processor
  execute : s'.structuredAckThenExecute = s.structuredAckThenExecute

theorem Aside.refl : Aside s s := ⟨rfl, rfl, rfl⟩

theorem Aside.trans (h : Aside s s') (h' : Aside s' s'') : Aside s s'' :=
  ⟨h'.machine.trans h.machine, h'.processor.trans h.processor, h'.execute.trans h.execute⟩

/-- A program that starts listening after steps that leave everything aside. -/
theorem aside_listenAgain (h : Aside s s') : s'.listenAgain.Ends fun _ s'' => Aside s s'' :=
  ends_listenAgain fun _ => ⟨h.machine, h.processor, h.execute⟩

theorem aside_resumeListening (h : Aside s s') : s'.resumeListening.Ends fun _ s'' => Aside s s'' :=
  ends_ask .standby fun _ => aside_listenAgain h

theorem aside_readOperationDone (h : Aside s s') : s'.readOperationDone.Ends fun _ r => Aside s r.1 :=
  ends_readOperationDone fun _ _ _ _ => ⟨h.machine, h.processor, h.execute⟩

theorem aside_servicePersistenceAfterAcknowledgment (radioStandby : Bool) :
    (s.servicePersistenceAfterAcknowledgment radioStandby).Ends fun _ s' => Aside s s' := by
  unfold servicePersistenceAfterAcknowledgment
  split
  · exact .refl
  refine (aside_readOperationDone .refl).bind fun log ⟨s', pending⟩ h => ?_
  dsimp only at h ⊢
  split
  · split
    · exact ⟨h.machine, h.processor, h.execute⟩
    · exact h
  · exact ⟨h.machine, h.processor, h.execute⟩

theorem aside_maintainOwned (h : Aside s s') : s'.maintainOwned.Ends fun _ s'' => Aside s s'' := by
  unfold maintainOwned
  refine (aside_readOperationDone h).bind fun log ⟨s1, pending⟩ h1 => ?_
  dsimp only at h1 ⊢
  split
  · have h2 : Aside s { s1 with maintenanceOwnershipActive := false } := ⟨h1.machine, h1.processor, h1.execute⟩
    refine (aside_readOperationDone h2).bind fun log ⟨s3, done⟩ h3 => ?_
    dsimp only at h3 ⊢
    split
    · exact h3
    · exact aside_listenAgain h3
  · exact aside_listenAgain ⟨h1.machine, h1.processor, h1.execute⟩

theorem aside_serviceQuietMaintenance (s : NodeLoop) : s.serviceQuietMaintenance.Ends fun _ s' => Aside s s' := by
  unfold serviceQuietMaintenance
  refine (aside_readOperationDone .refl).bind fun log ⟨s1, done⟩ h1 => ?_
  dsimp only at h1 ⊢
  split
  · exact h1
  refine ends_ask .standby fun standby => ?_
  have h2 : Aside s { s1 with maintenanceOwnershipActive := true } := ⟨h1.machine, h1.processor, h1.execute⟩
  refine (aside_readOperationDone h2).bind fun log ⟨s3, arrived⟩ h3 => ?_
  refine (aside_readOperationDone h3).bind fun log ⟨s4, pending⟩ h4 => ?_
  dsimp only at h4 ⊢
  split
  · exact ⟨h4.machine, h4.processor, h4.execute⟩
  · exact aside_listenAgain ⟨h4.machine, h4.processor, h4.execute⟩
  · exact aside_maintainOwned h4

theorem aside_startAcknowledgment (h : Aside s s') (command : Packet) (status : UInt8) :
    (s'.startAcknowledgment command status).Ends fun _ s'' => Aside s s'' := by
  unfold startAcknowledgment
  split
  · exact aside_listenAgain ⟨h.machine, h.processor, h.execute⟩
  · refine ends_ask .standby fun standby => ?_
    split
    · exact aside_listenAgain ⟨h.machine, h.processor, h.execute⟩
    · exact ends_ask .millis fun now => ⟨h.machine, h.processor, h.execute⟩

theorem aside_startStructuredResponse (h : Aside s s') (response : Packet) :
    (s'.startStructuredResponse response).Ends fun _ s'' => Aside s s'' := by
  unfold startStructuredResponse
  split
  · exact h
  · refine ends_ask (.startTransmit _) fun started => ?_
    split
    · exact ⟨h.machine, h.processor, h.execute⟩
    · exact aside_listenAgain ⟨h.machine, h.processor, h.execute⟩

theorem aside_handleTestCommand (h : Aside s s') (command : Packet) :
    (s'.handleTestCommand c command).Ends fun _ s'' => Aside s s'' := by
  unfold handleTestCommand
  generalize evaluateNodeCommand command c.localId c.peerId s'.duplicateTracker = evaluation
  obtain ⟨tracker, outcome, status⟩ := evaluation
  have h1 : Aside s { s' with duplicateTracker := tracker } := ⟨h.machine, h.processor, h.execute⟩
  cases outcome with
  | ignoreWrongDestination | ignoreWrongSender | ignoreWrongPacketType => exact aside_resumeListening h1
  | duplicate | ackSuccess | ackUnsupportedOpcode | ackMalformedPacket => exact aside_startAcknowledgment h1 _ _

theorem aside_queueEditorAction (h : Aside s s') : s'.queueEditorAction.Ends fun _ s'' => Aside s s'' := by
  refine ends_ask .editorAction fun action => ?_
  cases action with
  | none => exact h
  | saveSettingsRequest | factoryResetRequest => exact ⟨h.machine, h.processor, h.execute⟩

theorem aside_serviceProductionHost (s : NodeLoop) : s.serviceProductionHost.Ends fun _ s' => Aside s s' := by
  unfold serviceProductionHost
  split
  · exact .refl
  refine (aside_readOperationDone .refl).bind fun log ⟨s1, done⟩ h1 => ?_
  dsimp only at h1 ⊢
  split
  · exact h1
  refine ends_ask .available fun available => ?_
  split
  · exact h1
  refine ends_ask .standby fun standby => ?_
  split
  · exact aside_listenAgain h1
  · refine (aside_readOperationDone h1).bind fun log ⟨s2, pending⟩ h2 => ?_
    exact aside_listenAgain h2

/-- The processor and its obligation have not been touched. -/
structure Spares (s s' : NodeLoop) : Prop where
  processor : s'.processor = s.processor
  execute : s'.structuredAckThenExecute = s.structuredAckThenExecute

theorem Aside.spares (h : Aside s s') : Spares s s' := ⟨h.processor, h.execute⟩

theorem Spares.refl : Spares s s := ⟨rfl, rfl⟩

theorem spares_listenAgain (h : Spares s s') : s'.listenAgain.Ends fun _ s'' => Spares s s'' :=
  ends_listenAgain fun _ => ⟨h.processor, h.execute⟩

theorem spares_readOperationDone (h : Spares s s') : s'.readOperationDone.Ends fun _ r => Spares s r.1 :=
  ends_readOperationDone fun _ _ _ _ => ⟨h.processor, h.execute⟩

theorem spares_offerAdmission (bytes : Bytes) (now : UInt32) :
    (s.offerAdmission bytes now).Ends fun _ s' => Spares s s' := by
  unfold offerAdmission
  split
  · exact .refl
  · exact ends_ask .random fun _ => ⟨rfl, rfl⟩

theorem spares_reclaimRecords (h : Spares s s') : s'.reclaimRecords.Ends fun _ s'' => Spares s s'' := by
  refine ends_ask .standby fun standbyOk => ?_
  refine (spares_readOperationDone h).bind fun log ⟨s1, done⟩ h1 => ?_
  dsimp only at h1 ⊢
  split
  · exact h1
  refine spares_listenAgain ?_
  split
  · split <;> exact ⟨h1.processor, h1.execute⟩
  · exact h1

theorem spares_transmitEvent (h : Spares s s') (now : UInt32) :
    (s'.transmitEvent now).Ends fun _ s'' => Spares s s'' := by
  unfold transmitEvent
  have h1 : ∀ p : StorageM (Ram × ControllerResult), Spares s (s'.onFlash p).1 := fun _ => ⟨h.processor, h.execute⟩
  dsimp only
  split
  · refine ends_ask (.startTransmit _) fun started => ?_
    split
    · exact ends_ask .random fun _ => spares_listenAgain ⟨h.processor, h.execute⟩
    · exact ⟨h.processor, h.execute⟩
  · exact spares_listenAgain (h1 _)
  · exact spares_listenAgain (h1 _)

theorem spares_acquireEvent (h : Spares s s') (synchronousWork : Bool) (now : UInt32) :
    (s'.acquireEvent synchronousWork now).Ends fun _ s'' => Spares s s'' := by
  unfold acquireEvent
  refine (spares_readOperationDone h).bind fun log ⟨s1, pending⟩ h1 => ?_
  dsimp only at h1 ⊢
  split
  · exact h1
  refine ends_ask .standby fun standbyOk => ?_
  have h2 : ∀ owner, Spares s { s1 with owner := owner } := fun _ => ⟨h1.processor, h1.execute⟩
  refine (spares_readOperationDone (h2 _)).bind fun log ⟨s3, pending⟩ h3 => ?_
  have h4 : ∀ owner, Spares s { s3 with owner := owner } := fun _ => ⟨h3.processor, h3.execute⟩
  dsimp only at h3 ⊢
  split
  · exact h4 _
  · exact spares_transmitEvent (h4 _) now
  · exact spares_listenAgain (h4 _)
  · exact spares_listenAgain (h4 _)

theorem aside_synchronousWork (s : NodeLoop) : s.synchronousWork.Ends fun _ r => Aside s r.1 := by
  unfold synchronousWork
  split
  · exact .refl
  · exact (aside_readOperationDone .refl).bind fun log ⟨s1, done⟩ h1 => h1

theorem spares_serviceNodeEvents (s : NodeLoop) : s.serviceNodeEvents.Ends fun _ s' => Spares s s' := by
  unfold serviceNodeEvents
  split
  · exact .refl
  refine (aside_synchronousWork s).bind fun log ⟨s1, synchronousWork⟩ h1 => ?_
  refine ends_ask .millis fun now => ends_ask .random fun jitter => ?_
  have h2 : ∀ p : StorageM (Ram × ControllerResult), Spares s (s1.onFlash p).1 :=
    fun _ => ⟨h1.processor, h1.execute⟩
  dsimp only
  split
  · exact ⟨h1.processor, h1.execute⟩
  split
  · split
    · exact spares_listenAgain (h2 _)
    · split
      · exact spares_reclaimRecords (h2 _)
      · exact spares_acquireEvent (h2 _) _ _
  · exact spares_acquireEvent (h2 _) _ _

theorem spares_produce (h : Spares s s') : s'.produce.Ends fun _ r => Spares s r.1 := by
  refine ends_ask .produced fun produced => ?_
  split
  · exact h
  · exact ends_ask .millis fun _ => ⟨h.processor, h.execute⟩

theorem spares_serviceProducers (s : NodeLoop) : s.serviceProducers.Ends fun _ s' => Spares s s' := by
  refine ends_ask .millis fun now => ?_
  have h0 : Spares s { s with nowMs := now } := ⟨rfl, rfl⟩
  have hbutton : (serviceButtonEvents { s with nowMs := now }).Ends fun _ s' => Spares s s' := by
    unfold serviceButtonEvents
    split
    · exact h0
    refine (spares_produce h0).bind fun _ ⟨s1, first⟩ h1 => (spares_produce h1).bind fun _ ⟨s2, second⟩ h2 => ?_
    dsimp only at h2 ⊢
    split <;> exact ⟨h2.processor, h2.execute⟩
  refine hbutton.bind fun _ s1 h1 => (aside_queueEditorAction .refl).bind fun _ s2 h2 => ?_
  have h3 : Spares s s2 := ⟨h2.processor.trans h1.processor, h2.execute.trans h1.execute⟩
  unfold serviceSensorThresholdProducer
  split
  · exact h3
  refine (spares_produce h3).bind fun _ ⟨s4, failed⟩ h4 => ?_
  dsimp only at h4 ⊢
  split <;> exact ⟨h4.processor, h4.execute⟩

/-! ### The obligation -/

/-- The obligation to execute goes with the command that has been admitted. -/
structure Obliged (s : NodeLoop) : Prop where
  consistent : s.processor.Consistent
  execute : s.processor.retained.isActive = s.structuredAckThenExecute

theorem Spares.obliged (h : Spares s s') (ho : s.Obliged) : s'.Obliged := by
  refine ⟨?_, ?_⟩
  · rw [h.processor]
    exact ho.consistent
  · rw [h.processor, h.execute]
    exact ho.execute

/-- The command that has been admitted is executed, and there is a response. -/
theorem ends_responseAfterAck (ho : s.Obliged) :
    s.responseAfterAck.Ends fun _ r =>
      r.1.processor.Consistent ∧ r.1.processor.retained.isActive = false ∧ ∃ response, r.2 = some response := by
  unfold responseAfterAck
  split
  · rename_i hnot
    refine ⟨ho.consistent, ?_, _, rfl⟩
    rw [ho.execute]
    simpa using hnot
  rename_i hexecute
  refine ends_ask .context fun context => Prog.ends_bind.2 (Prog.ends_embed fun log ops result hresult _ => ?_)
  have hactive : s.processor.retained.isActive = true := by
    rw [ho.execute]
    simpa using hexecute
  have hturn : ProcessorTurn.Steps 0 0 ⟨s.processor, .execute context, ops, result.2, result.1⟩ := hresult
  have hconsistent := consistent_step ho.consistent hturn
  cases NodeProcessor.execute_active ho.consistent hactive hresult with
  | ready => exact ⟨hconsistent, isActive_completed _ _, _, rfl⟩

/-- After the acknowledgment nothing is left to execute. -/
theorem ends_finishAcknowledgment (ho : s.Obliged) :
    s.finishAcknowledgment.Ends fun _ s' => s'.Obliged ∧ s'.processor.retained.isActive = false := by
  refine ends_ask .standby fun standby => ?_
  split
  · refine (ends_responseAfterAck ho).bind fun log ⟨s1, response⟩ h1 => ?_
    obtain ⟨hconsistent, hidle, response, rfl⟩ := h1
    refine (aside_startStructuredResponse .refl response).mono fun _ s' h => ?_
    refine ⟨h.spares.obliged ⟨hconsistent, hidle⟩, ?_⟩
    rw [h.processor]
    exact hidle
  · rename_i hnone
    have hidle : s.processor.retained.isActive = false := by
      rw [ho.execute]
      simp only [Bool.or_eq_true, not_or, Bool.not_eq_true] at hnone
      exact hnone.1
    refine (aside_servicePersistenceAfterAcknowledgment standby).bind fun _ s1 h1 => ?_
    refine (aside_listenAgain h1).mono fun _ s' h => ⟨h.spares.obliged ho, ?_⟩
    rw [h.processor]
    exact hidle

/-- **An admitted command obliges.** -/
theorem ends_handleStructuredCommand (ho : s.Obliged) (command : Packet) :
    (s.handleStructuredCommand c command).Ends fun _ s' => s'.Obliged := by
  have hturn : ProcessorTurn.Steps c.localId c.peerId ⟨s.processor, .admitCommand command, [],
      (s.processor.admitCommand command c.localId c.peerId).2,
      (s.processor.admitCommand command c.localId c.peerId).1⟩ := ⟨rfl, rfl⟩
  have hconsistent := consistent_step ho.consistent hturn
  have hcases := NodeProcessor.admitCommand_cases s.processor command c.localId c.peerId
  unfold handleStructuredCommand
  revert hcases hconsistent
  dsimp only
  generalize s.processor.admitCommand command c.localId c.peerId = r
  intro hconsistent hcases
  have hack : ∀ {s1 : NodeLoop}, s1.Obliged → ∀ status, (s1.startAcknowledgment command status).Ends fun _ s' => s'.Obliged :=
    fun h1 status => (aside_startAcknowledgment .refl command status).mono fun _ _ h => h.spares.obliged h1
  have hresume : s.resumeListening.Ends fun _ s' => s'.Obliged :=
    (aside_resumeListening .refl).mono fun _ _ h => h.spares.obliged ho
  cases hcases with
  | refused _ _ haction =>
    rcases haction with haction | haction <;> rw [haction]
    · exact hresume
    · exact hack ho _
  | pending => exact hack ho _
  | complete _ _ hcomplete =>
    have hidle : s.processor.retained.isActive = false := by
      unfold NodeRetainedOperation.isComplete at hcomplete
      unfold NodeRetainedOperation.isActive
      rw [(Bool.and_eq_true_iff.1 hcomplete).2]
      simp
    have hdropped : ({ s with structuredResponse := s.processor.retained.response, structuredCachedResponseAfterAck := true
                              structuredAckThenExecute := false } : NodeLoop).Obliged := ⟨ho.consistent, hidle⟩
    exact hack hdropped _
  | busy => exact hresume
  | admitted => exact hack ⟨hconsistent, isActive_entryOf command⟩ _

theorem ends_handleReceivedPacket (ho : s.Obliged) : (s.handleReceivedPacket c).Ends fun _ s' => s'.Obliged := by
  have hresume : ∀ {s1 : NodeLoop}, s1.Obliged → s1.resumeListening.Ends fun _ s' => s'.Obliged := fun h1 =>
    (aside_resumeListening .refl).mono fun _ _ h => h.spares.obliged h1
  refine ends_ask .getPacketLength fun packetLength => ?_
  split
  · exact hresume ho
  refine ends_ask (.readData packetLength) fun data => ?_
  split
  · exact hresume ho
  refine ends_ask .millis fun now => (spares_offerAdmission _ now).bind fun _ s1 h1 => ?_
  have ho1 := h1.obliged ho
  split
  · exact hresume ho1
  · split
    · exact ends_handleStructuredCommand ho1 _
    · exact (aside_handleTestCommand .refl _).mono fun _ _ h => h.spares.obliged ho1

/-- The interrupt of an acknowledgment that has been sent, or of any other use of the radio. -/
theorem ends_dispatch (ho : s.Obliged) :
    (s.dispatch c).Ends fun log s' => s'.Obliged ∧
      (s.ready = true → s.owner ≠ .eventTx → s.phase = .transmittingAck →
        s.operationDone = true ∨ ⟨.interrupted, true⟩ ∈ log → s'.processor.retained.isActive = false) := by
  unfold dispatch
  split
  · rename_i hready
    refine ⟨ho, fun h => ?_⟩
    rw [h] at hready
    exact absurd hready (by decide)
  refine Prog.ends_bind.2 (ends_readOperationDone fun log done hset hasked => ?_)
  dsimp only
  split
  · rename_i hdone
    simp only [Bool.not_eq_true'] at hdone
    subst hdone
    refine ⟨⟨ho.consistent, ho.execute⟩, fun _ _ _ hdone => ?_⟩
    cases hs : s.operationDone with
    | true => exact absurd (hset hs).2 (by decide)
    | false =>
      rw [hs, hasked hs] at hdone
      simp only [Bool.false_eq_true, List.append_nil, List.mem_singleton, false_or] at hdone
      exact Bool.noConfusion (Answer.reply_inj.1 hdone)
  · have ho' : ({ s with operationDone := false } : NodeLoop).Obliged := ⟨ho.consistent, ho.execute⟩
    split
    · rename_i howner
      refine ends_ask .millis fun now => (ends_listenAgain fun started => ?_)
      exact ⟨⟨ho.consistent, ho.execute⟩, fun _ hne => absurd howner hne⟩
    · split
      · exact (ends_finishAcknowledgment ho').mono fun _ s' h => ⟨h.1, fun _ _ _ _ => h.2⟩
      · rename_i hphase
        split
        · exact ends_listenAgain fun _ => ⟨⟨ho.consistent, ho.execute⟩, fun _ _ hp => absurd hp hphase⟩
        · exact (ends_handleReceivedPacket ho').mono fun _ s' h => ⟨h, fun _ _ hp => absurd hp hphase⟩

/-- **The acknowledgment that cannot be transmitted.**  Only then is the obligation given up. -/
theorem ends_serviceCommandPreAck (s : NodeLoop) :
    s.serviceCommandPreAck.Ends fun log s' => s'.processor = s.processor ∧
      ((Spares s s' ∧ ∀ bytes, ⟨.startTransmit bytes, false⟩ ∉ log) ∨
        ((∃ bytes, ⟨.startTransmit bytes, false⟩ ∈ log) ∧ s'.structuredAckThenExecute = false ∧
          s'.phase = .listening ∧ s'.commandPreAck.active = false)) := by
  unfold serviceCommandPreAck
  dsimp only
  split
  · exact ⟨rfl, Or.inl ⟨.refl, fun _ => List.not_mem_nil⟩⟩
  refine ends_ask (.startTransmit s.transmitBuffer) fun started => ?_
  cases started with
  | true =>
    refine ⟨rfl, Or.inl ⟨⟨rfl, rfl⟩, fun bytes hmem => ?_⟩⟩
    obtain heq := List.mem_singleton.1 hmem
    obtain rfl : bytes = s.transmitBuffer := by
      injection heq with hop
      injection hop
    exact Bool.noConfusion (Answer.reply_inj.1 heq)
  | false => exact ends_listenAgain fun _ => ⟨rfl, Or.inr ⟨⟨_, List.mem_cons_self⟩, rfl, rfl, rfl⟩⟩

end NodeLoop

/-! ### Turns -/

/-- A command has been admitted and nobody is obliged to execute it, while the radio listens and no acknowledgment
waits. -/
structure NodeLoop.Stranded (s : NodeLoop) : Prop where
  listening : s.phase = .listening
  unacknowledged : s.commandPreAck.active = false
  active : s.processor.retained.isActive = true
  dropped : s.structuredAckThenExecute = false

namespace ServiceTurn

/-- The acknowledgment cannot be transmitted while an admitted command has not been executed. -/
structure FailsAcknowledgment (t : ServiceTurn) : Prop where
  service : t.service = .commandPreAck
  active : t.before.processor.retained.isActive = true
  failed : ∃ bytes, ⟨.startTransmit bytes, false⟩ ∈ t.log

/-- The interrupt of a transmitted acknowledgment is dispatched. -/
structure Acknowledges (t : ServiceTurn) : Prop where
  service : t.service = .dispatch
  ready : t.before.ready = true
  owner : t.before.owner ≠ .eventTx
  phase : t.before.phase = .transmittingAck
  interrupted : t.before.operationDone = true ∨ ⟨.interrupted, true⟩ ∈ t.log

variable {c : DeviceConfig} {t : ServiceTurn}

/-- **One turn keeps the obligation**, unless it fails an acknowledgment. -/
theorem obliged_step (ht : (mainLoop c).Steps t) (ho : t.before.Obliged) (hok : ¬ t.FailsAcknowledgment) :
    t.after.Obliged ∧ (t.Acknowledges → t.after.processor.retained.isActive = false) := by
  obtain ⟨before, service, log, after⟩ := t
  have hspared : ∀ {p : LoopM NodeLoop}, p.Logs log after → (p.Ends fun _ s' => before.Spares s') →
      after.Obliged := fun hp h => (hp.ends h).obliged ho
  have hnot : service ≠ .dispatch → after.Obliged → after.Obliged ∧
      (Acknowledges ⟨before, service, log, after⟩ → after.processor.retained.isActive = false) :=
    fun hne h => ⟨h, fun ha => absurd ha.service hne⟩
  cases service with
  | producers => exact hnot nofun (hspared ht before.spares_serviceProducers)
  | commandPreAck =>
    refine hnot nofun ?_
    obtain ⟨hprocessor, ⟨hspares, -⟩ | ⟨hfailed, hdropped, -, -⟩⟩ :=
      Prog.Logs.ends ht before.ends_serviceCommandPreAck
    · exact hspares.obliged ho
    · have hidle : before.processor.retained.isActive = false := by
        by_contra hactive
        exact hok ⟨rfl, by simpa using hactive, hfailed⟩
      refine ⟨by rw [hprocessor]; exact ho.consistent, ?_⟩
      rw [hprocessor, hdropped]
      exact hidle
  | dispatch =>
    obtain ⟨h, hdone⟩ := Prog.Logs.ends ht (NodeLoop.ends_dispatch ho)
    exact ⟨h, fun ha => hdone ha.ready ha.owner ha.phase ha.interrupted⟩
  | productionHost =>
    exact hnot nofun (hspared ht (before.aside_serviceProductionHost.mono fun _ _ h => h.spares))
  | quietMaintenance =>
    have hquiet : (Service.run c before .quietMaintenance).Ends fun _ s' => before.Spares s' := by
      unfold Service.run
      dsimp only
      split
      · exact before.aside_serviceQuietMaintenance.mono fun _ _ h => h.spares
      · exact .refl
    exact hnot nofun (hspared ht hquiet)
  | nodeEvents => exact hnot nofun (hspared ht before.spares_serviceNodeEvents)

/-- A turn that fails the acknowledgment of an admitted command strands it. -/
theorem stranded_of_fails (ht : (mainLoop c).Steps t) (h : t.FailsAcknowledgment) : t.after.Stranded := by
  obtain ⟨before, service, log, after⟩ := t
  obtain rfl : service = .commandPreAck := h.service
  obtain ⟨hprocessor, ⟨-, hnone⟩ | ⟨-, hdropped, hphase, htimer⟩⟩ :=
    Prog.Logs.ends ht before.ends_serviceCommandPreAck
  · obtain ⟨bytes, hfailed⟩ := h.failed
    exact absurd hfailed (hnone bytes)
  · refine ⟨hphase, htimer, ?_, hdropped⟩
    rw [hprocessor]
    exact h.active

end ServiceTurn

instance (s : NodeLoop) : Decidable s.Stranded :=
  decidable_of_iff (s.phase = .listening ∧ s.commandPreAck.active = false ∧ s.processor.retained.isActive = true ∧
      s.structuredAckThenExecute = false)
    ⟨fun h => ⟨h.1, h.2.1, h.2.2.1, h.2.2.2⟩, fun h => ⟨h.listening, h.unacknowledged, h.active, h.dropped⟩⟩

theorem NodeLoop.Obliged.not_stranded {s : NodeLoop} (h : s.Obliged) : ¬ s.Stranded := by
  intro hs
  have := hs.active
  rw [h.execute, hs.dropped] at this
  cases this

theorem NodeLoop.ends_setup (c : DeviceConfig) (img : Image) : (NodeLoop.setup c img).Ends fun _ s => s.Obliged := by
  have hinitial : ∀ {s : NodeLoop}, s.processor = .initial → s.structuredAckThenExecute = false → s.Obliged := by
    intro s hp he
    refine ⟨by rw [hp]; exact NodeProcessor.initial_consistent, ?_⟩
    rw [hp, he]
    rfl
  refine ends_ask .repairPending fun repair => ends_ask .random fun entropy => ends_ask .millis fun now => ?_
  refine ends_ask .beginRadio fun begun => ?_
  have hrepair : ((NodeLoop.initial img).loadSettings repair).processor = .initial ∧
      ((NodeLoop.initial img).loadSettings repair).structuredAckThenExecute = false := by
    unfold loadSettings
    split <;> exact ⟨rfl, rfl⟩
  obtain ⟨hp, he⟩ := hrepair
  split
  · exact hinitial hp he
  · refine Prog.ends_bind.2 (ends_startListening fun started => ?_)
    cases started with
    | true => exact hinitial hp he
    | false => exact hinitial hp he

/-! ### Runs -/

/-- **No admitted command is stranded** in a run of the firmware exactly when no acknowledgment fails to be transmitted
while an admitted command has not been executed; and then every acknowledgment that is sent leaves nothing to
execute. -/
theorem no_command_stranded_iff {c : DeviceConfig} {img : Image} {turns : List ServiceTurn}
    (h : Firmware c img turns) :
    ((∀ t ∈ turns, ¬ t.after.Stranded) ↔ ∀ t ∈ turns, ¬ t.FailsAcknowledgment) ∧
      ((∀ t ∈ turns, ¬ t.FailsAcknowledgment) →
        ∀ t ∈ turns, t.Acknowledges → t.after.processor.retained.isActive = false) := by
  obtain ⟨log, s, hsetup, hrun⟩ := h.started
  have hstart : s.Obliged := hsetup.ends (NodeLoop.ends_setup c img)
  have hobliged : (∀ t ∈ turns, ¬ t.FailsAcknowledgment) → ∀ t ∈ turns, t.before.Obliged := by
    intro hok t ht
    refine ((hrun.invariant (I := fun q => q.2.Obliged) (fun t ht hs ho => ?_) hstart).1 t ht).1
    exact (ServiceTurn.obliged_step hs ho (hok t ht)).1
  refine ⟨⟨fun hall t ht hfails => ?_, fun hok t ht => ?_⟩, fun hok t ht hack => ?_⟩
  · exact hall t ht (ServiceTurn.stranded_of_fails (hrun.steps ht) hfails)
  · exact (ServiceTurn.obliged_step (hrun.steps ht) (hobliged hok t ht) (hok t ht)).1.not_stranded
  · exact (ServiceTurn.obliged_step (hrun.steps ht) (hobliged hok t ht) (hok t ht)).2 hack

/-! ### A PING -/

def pingBytes : Bytes := (encode pingCommand maxPacketSize).getD []

/-- The interrupt of a transmission that is over. -/
def interrupting (now : UInt32) : (op : LoopOp) → op.Reply := hearing now []

/-- The radio does not start to transmit. -/
def mutedRadio (now : UInt32) : (op : LoopOp) → op.Reply
  | .startTransmit _ => false
  | op => calm now op

/-- The PING is received in the first iteration and acknowledged in the second one. -/
def answeredPing : List ServiceTurn :=
  consultedFirmware ⟨2, 1⟩ blankImage (calm 0) [calm 0, calm 0, hearing 0 pingBytes, calm 0, calm 0, calm 0,
    calm 100, calm 100, interrupting 100]

theorem no_command_stranded_answered :
    (∀ t ∈ answeredPing, ¬ t.after.Stranded) ∧ ∀ t ∈ answeredPing, ¬ t.FailsAcknowledgment :=
  ⟨by decide +kernel,
    (no_command_stranded_iff (firmware_consulted ⟨2, 1⟩ blankImage (calm 0) _)).1.1 (by decide +kernel)⟩

/-- The acknowledgment of the PING fails; the PING comes again, and is acknowledged. -/
def strandedPing : List ServiceTurn :=
  consultedFirmware ⟨2, 1⟩ blankImage (calm 0) [calm 0, calm 0, hearing 0 pingBytes, calm 0, calm 0, calm 0,
    calm 100, mutedRadio 100, hearing 100 pingBytes, calm 100, calm 100, calm 100,
    calm 200, calm 200, interrupting 200]

/-- The PING is stranded when its acknowledgment fails, and still when the next one has been sent. -/
theorem ping_stranded :
    (strandedPing.map fun t => decide t.after.Stranded) =
        [false, false, false, false, false, false, false, true, false, false, false, false, false, false, true] ∧
      ¬ ∀ turns, Firmware ⟨2, 1⟩ blankImage turns → ∀ t ∈ turns, ¬ t.after.Stranded := by
  refine ⟨by decide +kernel, fun h => ?_⟩
  have hrun := h strandedPing (firmware_consulted ⟨2, 1⟩ blankImage (calm 0) _)
  exact absurd hrun (by decide +kernel)

end Redline.Node
