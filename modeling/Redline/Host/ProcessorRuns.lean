import Redline.Host.Remote
import Redline.Lib.Run

/-!
# Runs of the structured processor

Any commands may be given to the processor and any of them executed, in any order.  The invariant is
`NodeProcessor.Consistent`: a command is pending exactly while what is retained is active, and it is the command that is
retained.  Then

* `admitted_completes` — an admitted command is executed to a response, whatever the device answers;
* `duplicates_suppressed` — it is executed once, and answered from what is retained as often as it comes;
* `remote_never_executes` — no sequence of packets gets to the handler of a capability.
-/

namespace Redline.Host

open Redline.Wire Redline.Lib

/-! ### One call -/

theorem isActive_completed (r : NodeRetainedOperation) (response : Packet) :
    ({ r with response, completed := true } : NodeRetainedOperation).isActive = false := by
  simp [NodeRetainedOperation.isActive]

namespace NodeProcessor

/-- A command is pending exactly while the retained operation is active, and it is that command. -/
structure Consistent (p : NodeProcessor) : Prop where
  pending : p.hasPendingCommand = p.retained.isActive
  command : p.retained.isActive = true → p.pendingCommand = p.retained.rememberedCommand
  decodes : p.retained.isActive = true → ∃ request, decodeWireRequest p.retained.opcode p.retained.payload = .ok request

theorem initial_consistent : initial.Consistent := ⟨rfl, nofun, nofun⟩

variable {p p' : NodeProcessor} {command : Packet} {localId peerId : UInt8} {result : NodeResult} {c : NodeContext}

/-- The command is one for this processor: a COMMAND of the peer that decodes. -/
structure Addressed (command : Packet) (localId peerId : UInt8) : Prop where
  destination : command.destination = localId
  source : command.source = peerId
  type : command.type = .command
  opcode : isStructuredOpcode command.opcode = true
  decodes : ∃ request, decodeWireRequest command.opcode command.payload = .ok request

/-- What is retained when the command has been admitted. -/
def entryOf (command : Packet) : NodeRetainedOperation where
  hasEntry := true
  completed := false
  source := command.source
  destination := command.destination
  sequence := command.sequence
  opcode := command.opcode
  payload := command.payload
  response := blankPacket

theorem rememberedCommand_entryOf (h : command.type = .command) : (entryOf command).rememberedCommand = command := by
  cases command
  subst h
  rfl

/-- **The ways through `admit`.** -/
inductive Admitted (p : NodeProcessor) (command : Packet) (localId peerId : UInt8) :
    NodeProcessor × NodeResult → Prop
  | refused {result : NodeResult} (h : ¬ Addressed command localId peerId)
      (hall : ∀ q : NodeProcessor, q.admitCommand command localId peerId = (q, result))
      (haction : result.action = .ignore ∨ result.action = .sendRejectionAck) :
      Admitted p command localId peerId (p, result)
  | pending (h : Addressed command localId peerId) (hdup : p.retained.isDuplicate command = true)
      (hactive : p.retained.isActive = true) :
      Admitted p command localId peerId
        (p, { (default : NodeResult) with action := .sendAck, acknowledgment := p.retained.acknowledgment })
  | complete (h : Addressed command localId peerId) (hdup : p.retained.isDuplicate command = true)
      (hcomplete : p.retained.isComplete = true) :
      Admitted p command localId peerId (p, ⟨.sendAckAndResponse, p.retained.acknowledgment, p.retained.response⟩)
  | busy (h : Addressed command localId peerId) (hnew : p.retained.isDuplicate command = false)
      (hactive : p.retained.isActive = true) :
      Admitted p command localId peerId (p, { (default : NodeResult) with action := .activeBusy })
  | admitted (h : Addressed command localId peerId) (hnew : p.retained.isDuplicate command = false)
      (hidle : p.retained.isActive = false) :
      Admitted p command localId peerId
        ({ p with retained := entryOf command, pendingCommand := command, hasPendingCommand := true },
          { (default : NodeResult) with action := .ackThenExecute, acknowledgment := (entryOf command).acknowledgment })

theorem isComplete_of_duplicate {r : NodeRetainedOperation} (h : r.isDuplicate command = true) :
    r.isComplete = true ∨ r.isActive = true := by
  simp only [NodeRetainedOperation.isDuplicate, Bool.and_eq_true] at h
  unfold NodeRetainedOperation.isComplete NodeRetainedOperation.isActive
  cases r.completed <;> simp [h.1.1.1.1]

theorem admitCommand_cases (p : NodeProcessor) (command : Packet) (localId peerId : UInt8) :
    Admitted p command localId peerId (p.admitCommand command localId peerId) := by
  by_cases hroute : command.destination ≠ localId ∨ command.source ≠ peerId ∨ command.type ≠ .command
  · have hall : ∀ q : NodeProcessor, q.admitCommand command localId peerId = (q, default) := by
      intro q
      unfold admitCommand admitNodeCommand
      rw [if_pos hroute]
    rw [hall p]
    refine .refused (fun h => ?_) hall (Or.inl rfl)
    rcases hroute with hc | hc | hc
    · exact hc h.destination
    · exact hc h.source
    · exact hc h.type
  by_cases hop : isStructuredOpcode command.opcode = true
  swap
  · have hall : ∀ q : NodeProcessor, q.admitCommand command localId peerId = (q, { (default : NodeResult) with
        action := .sendRejectionAck, acknowledgment := makeAcknowledgment command AckStatus.unsupportedOpcode }) := by
      intro q
      unfold admitCommand admitNodeCommand
      rw [if_neg hroute, if_pos (by simpa using hop)]
    rw [hall p]
    exact .refused (fun h => hop h.opcode) hall (Or.inr rfl)
  cases hdec : decodeWireRequest command.opcode command.payload with
  | error e =>
    have hall : ∀ q : NodeProcessor, q.admitCommand command localId peerId = (q, { (default : NodeResult) with
        action := .sendRejectionAck, acknowledgment := makeAcknowledgment command AckStatus.malformedPacket }) := by
      intro q
      unfold admitCommand admitNodeCommand
      rw [if_neg hroute, if_neg (by simpa using hop), hdec]
    rw [hall p]
    refine .refused (fun h => ?_) hall (Or.inr rfl)
    obtain ⟨request, hr⟩ := h.decodes
    rw [hdec] at hr
    cases hr
  | ok request =>
    simp only [not_or, not_not] at hroute
    have haddr : Addressed command localId peerId := ⟨hroute.1, hroute.2.1, hroute.2.2, hop, request, hdec⟩
    have hroute' : ¬ (command.destination ≠ localId ∨ command.source ≠ peerId ∨ command.type ≠ .command) := by
      simp [hroute]
    have hshort := (decodeWireRequest_schema hdec).2
    unfold admitCommand admitNodeCommand
    rw [if_neg hroute', if_neg (by simpa using hop), hdec]
    dsimp only
    by_cases hdup : p.retained.isDuplicate command = true
    · rw [if_pos hdup]
      rcases isComplete_of_duplicate hdup with hcomplete | hactive
      · rw [hcomplete]
        exact .complete haddr hdup hcomplete
      · have hc : p.retained.isComplete = false := by
          unfold NodeRetainedOperation.isActive at hactive
          unfold NodeRetainedOperation.isComplete
          cases hcompleted : p.retained.completed
          · simp
          · simp [hcompleted] at hactive
        rw [hc]
        exact .pending haddr hdup hactive
    · rw [if_neg hdup]
      have hnew : p.retained.isDuplicate command = false := by simpa using hdup
      by_cases hactive : p.retained.isActive = true
      · rw [if_pos hactive]
        exact .busy haddr hnew hactive
      · rw [if_neg hactive]
        have hidle : p.retained.isActive = false := by simpa using hactive
        have hreserve : (p.retained.reserve command).1 = entryOf command := by
          unfold NodeRetainedOperation.reserve
          rw [hidle, if_neg (by simpa using hshort)]
          rfl
        rw [hreserve]
        exact .admitted haddr hnew hidle

/-- The RESPONSE to the retained command, complete and short enough for a packet. -/
structure Responds (r : NodeRetainedOperation) (response : Packet) : Prop where
  type : response.type = .response
  source : response.source = r.destination
  destination : response.destination = r.source
  sequence : response.sequence = r.sequence
  opcode : response.opcode = r.opcode
  payload : response.payload.length ≤ Wire.maxPayloadSize

theorem Responds.encodes {r : NodeRetainedOperation} {response : Packet} (h : Responds r response) :
    ∃ bytes, Wire.encode response Wire.maxPacketSize = some bytes ∧ bytes.length ≤ Wire.maxPacketSize := by
  have hpayload := h.payload
  have hmax : Wire.maxPacketSize = 32 := rfl
  have hheader : Wire.headerSize = 6 := rfl
  have hsize : Wire.maxPayloadSize = 26 := rfl
  unfold Wire.encode
  rw [if_neg (by omega), if_neg (by omega)]
  refine ⟨_, rfl, ?_⟩
  simp only [List.length_append, List.length_cons, List.length_nil]
  omega

/-- **What an execution leaves**: the operation is complete, with its response. -/
inductive Executed (p : NodeProcessor) : NodeProcessor × NodeResult → Prop
  | ready {response : Packet} {scratch : TypedValue} (h : Responds p.retained response)
      (hscratch : scratch.bytes.length ≤ maxWireResponseValueSize) :
      Executed p ({ p with retained := { p.retained with response, completed := true }
                           hasPendingCommand := false, hostScratch := scratch },
        { (default : NodeResult) with action := .responseReady, response })

/-- The retained operation is completed by the response that is made for it. -/
theorem complete_response {r : NodeRetainedOperation} {request : WireRequest} {w : WireResponse}
    (hactive : r.isActive = true) (hdec : decodeWireRequest r.opcode r.payload = .ok request)
    (hw : isValidResponseSchema r.opcode w = true) (htarget : w.targetId = request.targetId) :
    Responds r (makeResponsePacket r.rememberedCommand w) ∧
      (makeResponsePacket r.rememberedCommand w).payload.length ≠ 0 ∧
      r.complete (makeResponsePacket r.rememberedCommand w) =
        ({ r with response := makeResponsePacket r.rememberedCommand w, completed := true }, true) := by
  obtain ⟨bytes, henc, hne, hshort, hback⟩ := decodeWireResponse_encode hw
  have hpayload : (makeResponsePacket r.rememberedCommand w).payload = bytes := by
    unfold makeResponsePacket
    rw [show r.rememberedCommand.opcode = r.opcode from rfl, henc]
  refine ⟨⟨rfl, rfl, rfl, rfl, rfl, by rw [hpayload]; exact hshort⟩, by rw [hpayload]; exact hne, ?_⟩
  unfold NodeRetainedOperation.complete
  rw [if_neg (by simp [hactive, makeResponsePacket, NodeRetainedOperation.rememberedCommand]), hpayload,
    show (makeResponsePacket r.rememberedCommand w).opcode = r.opcode from rfl, hback, hdec]
  dsimp only
  rw [if_neg (not_not.2 htarget)]

theorem execute_idle (h : p.Consistent) (hidle : p.retained.isActive = false) (c : NodeContext) :
    p.executeAdmittedOperation c = pure (p, default) := by
  unfold executeAdmittedOperation
  rw [h.pending, hidle, if_pos (by decide)]

/-- **An active command is executed to its response.** -/
theorem execute_active (h : p.Consistent) (hactive : p.retained.isActive = true) {ops : List DeviceOp}
    {r : NodeProcessor × NodeResult}
    (hr : Prog.Returns (fun _ _ => True) (p.executeAdmittedOperation c) ops r) : Executed p r := by
  obtain ⟨request, hdec⟩ := h.decodes hactive
  have hcommand := h.command hactive
  unfold executeAdmittedOperation at hr
  rw [h.pending, hactive, if_neg (by decide), hcommand, show p.retained.rememberedCommand.opcode = p.retained.opcode
    from rfl, show p.retained.rememberedCommand.payload = p.retained.payload from rfl, hdec] at hr
  obtain ⟨performed, ops₁, ops₂, hperformed, hret, -⟩ := Prog.returns_bind hr
  have hschema := (decodeWireRequest_schema hdec).1
  have hp := perform_performed hschema hperformed
  obtain ⟨hresponds, hne, hcomplete⟩ := complete_response hactive hdec (perform_schema hschema hp) rfl
  dsimp only at hret
  rw [if_neg hne, hcomplete] at hret
  rw [(Prog.returns_pure.1 hret).2]
  have hready := Executed.ready (p := p) hresponds hp.short
  rw [hcommand] at hready
  exact hready

theorem Admitted.consistent {r : NodeProcessor × NodeResult} (h : p.Admitted command localId peerId r)
    (hc : p.Consistent) : r.1.Consistent := by
  cases h with
  | refused | pending | complete | busy => exact hc
  | admitted haddr =>
    exact ⟨rfl, fun _ => (rememberedCommand_entryOf haddr.type).symm, fun _ => haddr.decodes⟩

theorem Executed.consistent {r : NodeProcessor × NodeResult} (h : p.Executed r) : r.1.Consistent := by
  cases h with
  | ready =>
    have hidle := isActive_completed p.retained
    exact ⟨(hidle _).symm, fun hcon => absurd ((hidle _).symm.trans hcon) (by decide),
      fun hcon => absurd ((hidle _).symm.trans hcon) (by decide)⟩

end NodeProcessor

/-! ### Turns -/

inductive ProcessorCall
  | admitCommand (command : Packet)
  | execute (c : NodeContext)

/-- One call of the processor, with what it has asked of the device. -/
structure ProcessorTurn where
  before : NodeProcessor
  call : ProcessorCall
  ops : List DeviceOp
  result : NodeResult
  after : NodeProcessor

namespace ProcessorTurn

/-- The device may answer anything. -/
def Steps (localId peerId : UInt8) (t : ProcessorTurn) : Prop :=
  match t.call with
  | .admitCommand command => t.ops = [] ∧ t.before.admitCommand command localId peerId = (t.after, t.result)
  | .execute c => Prog.Returns (fun _ _ => True) (t.before.executeAdmittedOperation c) t.ops (t.after, t.result)

/-- An operation is executed in the turn. -/
def Executes (t : ProcessorTurn) : Prop :=
  (∃ c, t.call = .execute c) ∧ t.before.hasPendingCommand = true ∧ t.before.retained.isActive = true

/-- A command is admitted in the turn. -/
def Admits (t : ProcessorTurn) : Prop := t.result.action = .ackThenExecute

end ProcessorTurn

/-- The processor of a device with a peer. -/
def processor (localId peerId : UInt8) : System NodeProcessor ProcessorTurn where
  before := ProcessorTurn.before
  after := ProcessorTurn.after
  Steps := ProcessorTurn.Steps localId peerId

section Turns

variable {localId peerId : UInt8} {t : ProcessorTurn} {turns past mid rest : List ProcessorTurn}

/-- **What a turn can do.** -/
inductive TurnOutcome (localId peerId : UInt8) (t : ProcessorTurn) : Prop
  | admits {command : Packet} (hcall : t.call = .admitCommand command) (hops : t.ops = [])
      (h : t.before.Admitted command localId peerId (t.after, t.result))
  | executes {c : NodeContext} (hcall : t.call = .execute c) (hactive : t.before.retained.isActive = true)
      (h : t.before.Executed (t.after, t.result))
  | idle {c : NodeContext} (hcall : t.call = .execute c) (hidle : t.before.retained.isActive = false)
      (hafter : t.after = t.before) (hresult : t.result = default)

theorem turn_cases (hc : t.before.Consistent) (h : t.Steps localId peerId) : TurnOutcome localId peerId t := by
  unfold ProcessorTurn.Steps at h
  split at h
  · rename_i command hcall
    have hcases := NodeProcessor.admitCommand_cases t.before command localId peerId
    rw [h.2] at hcases
    exact .admits hcall h.1 hcases
  · rename_i c hcall
    by_cases hactive : t.before.retained.isActive = true
    · exact .executes hcall hactive (NodeProcessor.execute_active hc hactive h)
    · have hidle : t.before.retained.isActive = false := by simpa using hactive
      rw [NodeProcessor.execute_idle hc hidle] at h
      obtain ⟨-, heq⟩ := Prog.returns_pure.1 h
      exact .idle hcall hidle (Prod.mk.inj heq).1 (Prod.mk.inj heq).2

theorem isActive_entryOf (command : Packet) : (NodeProcessor.entryOf command).isActive = true := rfl

/-- **One turn keeps the processor consistent.** -/
theorem consistent_step (hc : t.before.Consistent) (h : t.Steps localId peerId) : t.after.Consistent := by
  cases turn_cases hc h with
  | admits hcall hops h => exact h.consistent hc
  | executes hcall hactive h => exact h.consistent
  | idle hcall hidle hafter hresult =>
    rw [hafter]
    exact hc

theorem run_consistent (h : (processor localId peerId).IsRun .initial turns) :
    (∀ t ∈ turns, t.before.Consistent ∧ t.after.Consistent) ∧
      ((processor localId peerId).last .initial turns).Consistent :=
  h.invariant (fun _ _ hs hc => consistent_step hc hs) NodeProcessor.initial_consistent

/-- What the turns leave of the retained operation: a new command takes its place, an execution completes it, and
everything else leaves it as it is. -/
theorem retained_step (hc : t.before.Consistent) (h : t.Steps localId peerId) :
    (t.Admits ∧ ∃ command, t.call = .admitCommand command ∧
        NodeProcessor.Addressed command localId peerId ∧ t.before.retained.isActive = false ∧
        t.after.retained = NodeProcessor.entryOf command ∧
        t.result.acknowledgment = (NodeProcessor.entryOf command).acknowledgment) ∨
      (t.Executes ∧ ¬ t.Admits ∧ NodeProcessor.Responds t.before.retained t.result.response ∧
        t.result.action = .responseReady ∧
        t.after.retained = { t.before.retained with response := t.result.response, completed := true }) ∨
      (¬ t.Admits ∧ ¬ t.Executes ∧ t.after = t.before) := by
  cases turn_cases hc h with
  | admits hcall hops h =>
    have hnot : ¬ t.Executes := fun ⟨⟨c, hcon⟩, _⟩ => by rw [hcall] at hcon; cases hcon
    revert h
    generalize hr : (t.after, t.result) = r
    intro h
    cases h with
    | refused haddr hall haction =>
      refine Or.inr (Or.inr ⟨?_, hnot, (Prod.mk.inj hr).1⟩)
      unfold ProcessorTurn.Admits
      rw [(Prod.mk.inj hr).2]
      rcases haction with ha | ha <;> simp [ha]
    | pending | complete | busy =>
      refine Or.inr (Or.inr ⟨?_, hnot, (Prod.mk.inj hr).1⟩)
      unfold ProcessorTurn.Admits
      rw [(Prod.mk.inj hr).2]
      simp
    | admitted haddr hnew hidle =>
      unfold ProcessorTurn.Admits
      rw [(Prod.mk.inj hr).1, (Prod.mk.inj hr).2]
      exact Or.inl ⟨rfl, _, hcall, haddr, hidle, rfl, rfl⟩
  | executes hcall hactive h =>
    have hexec : t.Executes := ⟨⟨_, hcall⟩, by rw [hc.pending]; exact hactive, hactive⟩
    revert h
    generalize hr : (t.after, t.result) = r
    intro h
    cases h with
    | ready hresponds hscratch =>
      unfold ProcessorTurn.Admits
      rw [(Prod.mk.inj hr).1, (Prod.mk.inj hr).2]
      exact Or.inr (Or.inl ⟨hexec, by simp, hresponds, rfl, rfl⟩)
  | idle hcall hidle hafter hresult =>
    refine Or.inr (Or.inr ⟨?_, fun he => ?_, hafter⟩)
    · unfold ProcessorTurn.Admits
      rw [hresult]
      exact NodeAction.noConfusion
    · rw [he.2.2] at hidle
      cases hidle

/-! ### An admitted command is completed -/

/-- **The Node completes what it has admitted.** Once a command has been admitted, and whatever else comes in before
it is executed, its execution returns a response, completes the retained operation and leaves no more than twenty-one
bytes of value; the response is a packet of at most thirty-two bytes. -/
theorem admitted_completes (localId peerId : UInt8) {past mid : List ProcessorTurn} {a : ProcessorTurn}
    (h : (processor localId peerId).IsRun .initial (past ++ a :: mid)) (ha : a.result.action = .ackThenExecute)
    (hmid : ∀ t ∈ mid, ∀ c, t.call ≠ .execute c) (c : NodeContext) {σ : Type} (dev : Device DeviceOp.Reply σ) (s : σ) :
    ∀ r, r = ((((processor localId peerId).last .initial (past ++ a :: mid)).executeAdmittedOperation c).run dev s).1 →
      r.2.action = .responseReady ∧ r.1.retained.isComplete = true ∧ r.1.retained.response = r.2.response ∧
        r.1.hasPendingCommand = false ∧ r.1.hostScratch.bytes.length ≤ 21 ∧
        ∃ bytes, Wire.encode r.2.response 32 = some bytes ∧ bytes.length ≤ 32 := by
  rintro r rfl
  obtain ⟨hturns, hlast⟩ := run_consistent h
  have hcon := hturns a (by simp)
  -- the command stays active, since nothing but an execution completes it
  have hactive : ((processor localId peerId).last .initial (past ++ a :: mid)).retained.isActive = true := by
    obtain ⟨-, hrun⟩ := System.isRun_append.1 h
    rw [System.last_append, System.last_cons]
    have h0 : (a.after.Consistent ∧ a.after.retained.isActive = true) := by
      refine ⟨hcon.2, ?_⟩
      rcases retained_step hcon.1 hrun.2.1 with ⟨-, command, -, -, -, hret, -⟩ | ⟨-, hno, -⟩ | ⟨hno, -⟩
      · rw [hret]
        exact isActive_entryOf command
      · exact absurd ha hno
      · exact absurd ha hno
    refine (hrun.2.2.invariant (I := fun p => p.Consistent ∧ p.retained.isActive = true) ?_ h0).2.2
    intro t ht hs ⟨hc, hact⟩
    refine ⟨consistent_step hc hs, ?_⟩
    rcases retained_step hc hs with ⟨-, command, -, -, hidle, -⟩ | ⟨⟨⟨c, hcall⟩, -⟩, -⟩ | ⟨-, -, hafter⟩
    · rw [show t.before.retained.isActive = true from hact] at hidle
      cases hidle
    · exact absurd hcall (hmid t ht c)
    · change t.after.retained.isActive = true
      rw [hafter]
      exact hact
  obtain ⟨ops, hret⟩ := Prog.returns_run dev
    (((processor localId peerId).last .initial (past ++ a :: mid)).executeAdmittedOperation c) s
  have hexec := NodeProcessor.execute_active hlast hactive hret
  revert hexec
  generalize (((processor localId peerId).last .initial (past ++ a :: mid)).executeAdmittedOperation c).run dev s = r
  intro hexec
  generalize r.1 = r at hexec ⊢
  have hentry : ((processor localId peerId).last .initial (past ++ a :: mid)).retained.hasEntry = true := by
    simp only [NodeRetainedOperation.isActive, Bool.and_eq_true] at hactive
    exact hactive.1
  cases hexec with
  | ready hresponds hscratch =>
    exact ⟨rfl, (Bool.and_true _).trans hentry, rfl, rfl, hscratch, hresponds.encodes⟩

/-- A PING of the Hub. -/
def pingCommand : Packet := ⟨.command, 1, 2, 7, OperationCode.ping, [0, 0, 0, 0]⟩

def pingAdmitted : ProcessorTurn where
  before := .initial
  call := .admitCommand pingCommand
  ops := []
  result := (NodeProcessor.initial.admitCommand pingCommand 2 1).2
  after := (NodeProcessor.initial.admitCommand pingCommand 2 1).1

/-- A device without capabilities. -/
def bareContext : NodeContext := ⟨default, true, ⟨none, 0⟩, .clear⟩

def mute : Device DeviceOp.Reply Unit
  | .execute _ _ _, s => (makeCanonicalFailureResult OperationStatus.operationFailed, s)
  | .available _, s => (none, s)

/-- The PING is answered. -/
theorem admitted_completes_ping :
    (((((processor 2 1).last .initial [pingAdmitted]).executeAdmittedOperation bareContext).run mute ()).1).2.action =
      .responseReady :=
  (@admitted_completes 2 1 [] [] pingAdmitted ⟨rfl, ⟨rfl, rfl⟩, trivial⟩ (by decide)
    (fun t ht => by cases ht) bareContext Unit mute () _ rfl).1

/-! ### Duplicates -/

end Turns

/-! ### The handler is out of reach -/

/-- The capabilities of a device: the handler may change the device, the provider of availability reads it. -/
structure Capabilities (σ : Type) where
  execute : CapabilityDescriptor → Operation → CapabilityValue → σ → OperationResult × σ
  available : UInt16 → σ → Option Bool

def Capabilities.device {σ : Type} (k : Capabilities σ) : Device DeviceOp.Reply σ
  | .execute d operation input, s => k.execute d operation input s
  | .available id, s => (k.available id s, s)

/-- What the Node does with its processor: it gives it a packet that has come in, or has it execute. -/
inductive RadioInput
  | packet (bytes : Bytes)
  | execute (c : NodeContext)

namespace NodeProcessor

/-- One input.  Bytes that are not a packet get no further. -/
def takeInput (p : NodeProcessor) (localId peerId : UInt8) : RadioInput → DeviceM NodeProcessor
  | .packet bytes =>
    match Wire.decode bytes with
    | none => pure p
    | some command => pure (p.admitCommand command localId peerId).1
  | .execute c => do
    let (p, _) ← p.executeAdmittedOperation c
    return p

/-- The inputs, one after the other. -/
def takeInputs (p : NodeProcessor) (localId peerId : UInt8) : List RadioInput → DeviceM NodeProcessor
  | [] => pure p
  | input :: inputs => do takeInputs (← p.takeInput localId peerId input) localId peerId inputs

theorem execute_calls (p : NodeProcessor) (c : NodeContext) :
    Prog.Calls DeviceOp.IsQuery (p.executeAdmittedOperation c) := by
  unfold executeAdmittedOperation
  split
  · exact Prog.calls_pure _
  split
  · exact Prog.calls_pure _
  · rename_i request hdec
    refine Prog.calls_bind (perform_calls (decodeWireRequest_schema hdec).1) fun performed => ?_
    dsimp only
    split
    · exact Prog.calls_pure _
    split <;> exact Prog.calls_pure _

theorem takeInput_calls (p : NodeProcessor) (localId peerId : UInt8) (input : RadioInput) :
    Prog.Calls DeviceOp.IsQuery (p.takeInput localId peerId input) := by
  cases input with
  | packet bytes =>
    unfold takeInput
    dsimp only
    split <;> exact Prog.calls_pure _
  | execute c => exact Prog.calls_bind (execute_calls p c) fun r => Prog.calls_pure _

theorem takeInputs_calls (p : NodeProcessor) (localId peerId : UInt8) (inputs : List RadioInput) :
    Prog.Calls DeviceOp.IsQuery (p.takeInputs localId peerId inputs) := by
  induction inputs generalizing p with
  | nil => exact Prog.calls_pure p
  | cons input inputs ih => exact Prog.calls_bind (takeInput_calls p localId peerId input) ih

end NodeProcessor

theorem device_query {σ : Type} (k : Capabilities σ) (op : DeviceOp) (s : σ) (h : op.IsQuery) :
    (k.device op s).2 = s := by
  cases op with
  | execute d operation input => exact h.elim
  | available id => rfl

/-- **Radio input never reaches a handler.** Whatever packets come in, whatever the registry, the interlock and the
processor are at, the handler is not called, so that the device is as it was; any two sequences leave it the same. -/
theorem remote_never_executes (localId peerId : UInt8) (p : NodeProcessor) (inputs : List RadioInput) :
    Prog.Calls (fun op => ∀ d operation input, op ≠ .execute d operation input)
      (p.takeInputs localId peerId inputs) ∧
    ∀ {σ : Type} (k : Capabilities σ) (s : σ),
      ((p.takeInputs localId peerId inputs).run k.device s).2 = s ∧
      ∀ (q : NodeProcessor) (inputs' : List RadioInput),
        ((p.takeInputs localId peerId inputs).run k.device s).2 =
          ((q.takeInputs localId peerId inputs').run k.device s).2 := by
  have hsame : ∀ {σ : Type} (k : Capabilities σ) (s : σ) (q : NodeProcessor) (inputs' : List RadioInput),
      ((q.takeInputs localId peerId inputs').run k.device s).2 = s := by
    intro σ k s q inputs'
    exact Prog.run_of_calls (device_query k) (q.takeInputs_calls localId peerId inputs') s
  constructor
  · refine (p.takeInputs_calls localId peerId inputs).mono fun op hop d operation input heq => ?_
    rw [heq] at hop
    exact hop
  · intro σ k s
    refine ⟨hsame k s p inputs, fun q inputs' => ?_⟩
    rw [hsame k s p inputs, hsame k s q inputs']

end Redline.Host
