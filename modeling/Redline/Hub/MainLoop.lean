import Redline.Host.Stack
import Redline.Host.Transactions
import Redline.Hub.Commit
import Redline.Hub.Radio
import Redline.Lib.Log
import Redline.Lib.Run

/-!
# The main loop of the Hub

`src-tx/main.cpp`: `setup()`, and `loop()` as the two services of it that use the radio, `serviceProductionHost` and
`serviceHubTransport`.  As on the Node, what is outside answers the calls of a service, and each read of the interrupt
flag lets the interrupt come first; here the storage of the Event ledger is outside too.

The arbiter is the one of `hub_event_radio.h`, the release of the receiver that of `hub_receive_release.h`.  What is only
shown, logged, counted or written to the settings is left out.
-/

namespace Redline.Hub

open Redline.Wire Redline.Records Redline.Lib Redline.Host

/-! ### The arbiter of the radio -/

inductive HubOwner
  | idleReceive | commandTx | commandWaitAck | commandWaitResponse | eventAckTx
  deriving DecidableEq

structure HubArbiter where
  owner : HubOwner
  savedOwner : HubOwner
  deadline : UInt32
  savedDeadline : UInt32
  deriving DecidableEq

namespace HubArbiter

def initial : HubArbiter := ⟨.idleReceive, .idleReceive, 0, 0⟩

def setOwner (a : HubArbiter) (owner : HubOwner) (deadline : UInt32 := 0) : HubArbiter := { a with owner, deadline }

def beginEventAck (a : HubArbiter) : HubArbiter × Bool :=
  if a.owner = .eventAckTx ∨ a.owner = .commandTx then (a, false)
  else ({ a with savedOwner := a.owner, savedDeadline := a.deadline, owner := .eventAckTx }, true)

def finishEventAck (a : HubArbiter) : HubArbiter :=
  if a.owner = .eventAckTx then { a with owner := a.savedOwner, deadline := a.savedDeadline } else a

def commandMayAcquire (a : HubArbiter) (isrPending : Bool) : Bool := decide (a.owner = .idleReceive) && !isrPending

end HubArbiter

/-! ### What is outside -/

inductive ReadError
  | crcMismatch | other
  deriving DecidableEq

/-- What the loop asks of what is outside.  `interrupted`: has the interrupt come since the flag was last read or
cleared?  `writable`: how much the Host's stream takes, and how much of it is taken.  `hostRead`: the arguments of
`serviceRx`, with the bytes that the stream has. -/
inductive HubOp
  | interrupted
  | millis
  | beginRadio
  | standby
  | startReceive
  | startTransmit (bytes : Bytes)
  | getPacketLength
  | readData (length : ℕ)
  | connected
  | writable
  | available
  | hostRead
  | localService (op : ServiceOp)
  | storage (op : StorageOp)

def HubOp.Reply : HubOp → Type
  | .interrupted | .beginRadio | .standby | .startReceive | .startTransmit _ | .connected => Bool
  | .millis => UInt32
  | .getPacketLength => ℕ
  | .readData length => Except ReadError (Vector UInt8 length)
  | .writable => Int × ℕ
  | .available => Int
  | .hostRead => RxCall
  | .localService op => op.Reply
  | .storage op => op.Reply

abbrev HubM := Prog HubOp.Reply

namespace Board

def interrupted : HubM Bool := Prog.lift HubOp.interrupted
def millis : HubM UInt32 := Prog.lift HubOp.millis
def beginRadio : HubM Bool := Prog.lift HubOp.beginRadio
def standby : HubM Bool := Prog.lift HubOp.standby
def startReceive : HubM Bool := Prog.lift HubOp.startReceive
def startTransmit (bytes : Bytes) : HubM Bool := Prog.lift (HubOp.startTransmit bytes)
def getPacketLength : HubM ℕ := Prog.lift HubOp.getPacketLength
def readData (length : ℕ) : HubM (Except ReadError (Vector UInt8 length)) := Prog.lift (HubOp.readData length)
def connected : HubM Bool := Prog.lift HubOp.connected
def writable : HubM (Int × ℕ) := Prog.lift HubOp.writable
def available : HubM Int := Prog.lift HubOp.available
def hostRead : HubM RxCall := Prog.lift HubOp.hostRead

/-- The ledger's storage, asked from within the loop. -/
def onStorage {α : Type} (p : StorageM α) : HubM α := p.embed HubOp.storage fun _ r => r

/-- The local services of the Host's stack: that of the Events works on the ledger. -/
def serve (ledger : Ledger) : (op : ServiceOp) → HubM (Ledger × op.Reply)
  | .event requestId request role localDeviceId =>
    onStorage (EventService.handle ledger requestId request role localDeviceId)
  | .localOperation requestId request snapshot registryValid registry interlock requestMinor => do
    let result ← Prog.lift (HubOp.localService
      (.localOperation requestId request snapshot registryValid registry interlock requestMinor))
    return (ledger, result)

end Board

/-! ### The state -/

/-- `DeviceConfig`. -/
structure DeviceConfig where
  localId : UInt8
  peerId : UInt8

/-- The variables of the firmware.  `nowMs` is the time at the head of the iteration, and `transmitBuffer` has the
bytes up to `transmitLength`. -/
structure HubLoop where
  ready : Bool
  phase : RuntimePhase
  hubRadioArbiter : HubArbiter
  operationDone : Bool
  eventAckTxActive : Bool
  eventAckPriorPhase : RuntimePhase
  hostStructuredOwner : Bool
  hostStructuredCommand : Packet
  transactionState : HubTransactionState
  currentCommand : Packet
  transmitBuffer : Bytes
  nextTransmitAt : UInt32
  hubEventLedgerRecovered : Bool
  hubEventLedger : Ledger
  hostStack : Stack
  nowMs : UInt32

def initialDelayMs : UInt32 := 2000
def transactionIntervalMs : UInt32 := 3000
def retryDelayMs : UInt32 := 500

namespace HubLoop

/-- At power on, before `setup()`. -/
def initial : HubLoop where
  ready := false
  phase := .idle
  hubRadioArbiter := .initial
  operationDone := false
  eventAckTxActive := false
  eventAckPriorPhase := .idle
  hostStructuredOwner := false
  hostStructuredCommand := blankPacket
  transactionState := .initial
  currentCommand := blankPacket
  transmitBuffer := []
  nextTransmitAt := 0
  hubEventLedgerRecovered := false
  hubEventLedger := .initial
  hostStack := .initial false
  nowMs := 0

/-- A read of `operationDone`. -/
def readOperationDone (s : HubLoop) : HubM (HubLoop × Bool) := do
  if s.operationDone then return (s, true)
  let interrupted ← Board.interrupted
  return ({ s with operationDone := interrupted }, interrupted)

/-! ### Receiving -/

def restoreHubReceive (s : HubLoop) (phase : RuntimePhase) (clearPending : Bool) : HubM (HubLoop × Bool) := do
  let s := if clearPending then { s with operationDone := false } else s
  let started ← Board.startReceive
  if !started then return (s, false)
  return ({ s with phase }, true)

/-- `restoreReleasedReceive`, with the idle receiver. -/
def restoreReleasedTransactionReceive (s : HubLoop) : HubM HubLoop := do
  if s.eventAckTxActive || decide (s.hubRadioArbiter.owner = .eventAckTx) then return s
  let (s, pending) ← s.readOperationDone
  if pending then return s
  let standby ← Board.standby
  if !standby then return s
  let (s, pending) ← s.readOperationDone
  if pending then return s
  let (s, _) ← s.restoreHubReceive .idle false
  return s

/-! ### The legacy transaction -/

def scheduleNextTransaction (s : HubLoop) : HubM HubLoop := do
  let now ← Board.millis
  { s with phase := .idle, nextTransmitAt := now + transactionIntervalMs }.restoreReleasedTransactionReceive

def completeAndScheduleNextTransaction (s : HubLoop) : HubM HubLoop :=
  { s with transactionState := s.transactionState.completeTransaction }.scheduleNextTransaction

def scheduleRetryOrNext (s : HubLoop) : HubM HubLoop :=
  let (transactionState, action) := s.transactionState.attemptFailed
  let s := { s with transactionState }
  if action = .retransmit then do
    let now ← Board.millis
    { s with phase := .idle, nextTransmitAt := now + retryDelayMs }.restoreReleasedTransactionReceive
  else s.completeAndScheduleNextTransaction

/-- `prepareCommand`: the TEST command with the sequence of the transaction. -/
def prepareCommand (c : DeviceConfig) (s : HubLoop) : Packet :=
  { blankPacket with type := .command, source := c.localId, destination := c.peerId
                     sequence := s.transactionState.sequence, opcode := opcodeTest, payload := [] }

def startCommandTransmission (c : DeviceConfig) (s : HubLoop) : HubM HubLoop :=
  let command := s.prepareCommand c
  let s := { s with currentCommand := command }
  match encode command maxPacketSize with
  | none => s.completeAndScheduleNextTransaction
  | some bytes => do
    let s := { s with transmitBuffer := bytes, operationDone := false }
    let started ← Board.startTransmit bytes
    if !started then return ← s.scheduleRetryOrNext
    return { s with phase := .transmitting }

def startAckReceive (s : HubLoop) (resetDeadline : Bool) : HubM HubLoop := do
  let s := { s with operationDone := false }
  let started ← Board.startReceive
  if !started then return ← s.scheduleRetryOrNext
  let s := { s with phase := .waitingForAck }
  if !resetDeadline then return s
  let now ← Board.millis
  return { s with transactionState := s.transactionState.beginAcknowledgmentWait now }

def handleAckTimeout (s : HubLoop) : HubM HubLoop := s.scheduleRetryOrNext

def continueWaitingForAck (s : HubLoop) : HubM HubLoop := do
  let _ ← Board.standby
  let now ← Board.millis
  if s.transactionState.acknowledgmentWaitAction now ≠ .noAction then return ← s.handleAckTimeout
  s.startAckReceive false

/-! ### Admission of Events -/

/-- The owner whose turn the acknowledgment of an Event interrupts. -/
def ownerDuring : RuntimePhase → HubOwner
  | .waitingForAck => .commandWaitAck
  | .waitingForResponse => .commandWaitResponse
  | _ => .idleReceive

def startEventAdmissionAck (s : HubLoop) (result : HubResult) (priorPhase : RuntimePhase) : HubM HubLoop :=
  if result.action ≠ .startEventAck ∨ result.bytes.length = 0 ∨ maxPacketSize < result.bytes.length then return s
  else
    let s := { s with eventAckPriorPhase := priorPhase
                      hubRadioArbiter := s.hubRadioArbiter.setOwner (ownerDuring priorPhase) }
    let (arbiter, begun) := s.hubRadioArbiter.beginEventAck
    if !begun then return s
    else do
      let s := { s with hubRadioArbiter := arbiter, transmitBuffer := result.bytes, operationDone := false
                        eventAckTxActive := true }
      let started ← Board.startTransmit result.bytes
      if started then return s
      let s := { s with eventAckTxActive := false, hubRadioArbiter := s.hubRadioArbiter.finishEventAck }
      let (s, _) ← s.restoreHubReceive priorPhase true
      return s

/-- The result is whether the packet has been an Event that is answered. -/
def processEventBytes (c : DeviceConfig) (s : HubLoop) (bytes : Bytes) (priorPhase : RuntimePhase) :
    HubM (HubLoop × Bool) := do
  if !s.hubEventLedgerRecovered then return (s, false)
  let (ledger, result) ← Board.onStorage (HubAdapter.process s.hubEventLedger bytes c.localId c.peerId)
  let s := { s with hubEventLedger := ledger }
  if result.action ≠ .startEventAck then return (s, false)
  let s ← s.startEventAdmissionAck result priorPhase
  return (s, true)

def finishEventAdmissionAck (s : HubLoop) : HubM HubLoop := do
  let s := { s with eventAckTxActive := false, hubRadioArbiter := s.hubRadioArbiter.finishEventAck }
  let (s, _) ← s.restoreHubReceive s.eventAckPriorPhase true
  return s

/-- An Event is offered to the ledger, and otherwise reception goes on in the phase. -/
def offerEvent (c : DeviceConfig) (s : HubLoop) (bytes : Bytes) (phase : RuntimePhase) : HubM HubLoop := do
  let (s, answered) ← s.processEventBytes c bytes phase
  if answered then return s
  let (s, _) ← s.restoreHubReceive phase true
  return s

/-- Reception goes on in the idle phase. -/
def receiveIdle (s : HubLoop) : HubM HubLoop := do
  let (s, _) ← s.restoreHubReceive .idle true
  return s

def processIdleInbound (c : DeviceConfig) (s : HubLoop) : HubM HubLoop := do
  let length ← Board.getPacketLength
  if length < headerSize ∨ maxPacketSize < length then return ← s.receiveIdle
  let data ← Board.readData length
  match data with
  | .error _ => s.receiveIdle
  | .ok data => s.offerEvent c data.toList .idle

/-! ### The structured transaction -/

def startHostStructuredTransmission (s : HubLoop) (command : Packet) : HubM HubLoop :=
  match encode command maxPacketSize with
  | none => return s
  | some bytes => do
    let s := { s with hostStructuredCommand := command, transmitBuffer := bytes, operationDone := false
                      phase := .transmitting, hostStructuredOwner := true }
    let prior := s.hubRadioArbiter
    let s := { s with hubRadioArbiter := s.hubRadioArbiter.setOwner .commandTx }
    let started ← Board.startTransmit bytes
    if !started then
      return { s with hubRadioArbiter := s.hubRadioArbiter.setOwner prior.owner prior.deadline }
    return s

def finishHostStructuredOwnership (s : HubLoop) : HubM HubLoop := do
  let now ← Board.millis
  { s with hostStructuredOwner := false, hubRadioArbiter := s.hubRadioArbiter.setOwner .idleReceive, phase := .idle
           nextTransmitAt := now + transactionIntervalMs }.restoreReleasedTransactionReceive

/-- The acknowledgment that the structured command waits for. -/
def matchesSuccess (command acknowledgment : Packet) : Bool :=
  decide (acknowledgment.type = .ack) && acknowledgment.source == command.destination &&
    acknowledgment.destination == command.source && acknowledgment.sequence == command.sequence &&
    acknowledgment.opcode == command.opcode && acknowledgment.payload.length == 1 &&
    byteAt acknowledgment.payload 0 == AckStatus.success

/-- A packet for the structured transaction. -/
def processStructured (s : HubLoop) (acknowledgment : Packet) : HubM HubLoop :=
  let previousPhase := s.phase
  let (hostStack, _) := s.hostStack.onRadioPacket acknowledgment
  let s := { s with hostStack }
  if !s.hostStack.lifecycle.remoteBridge.active then s.finishHostStructuredOwnership
  else do
    let responding := matchesSuccess s.hostStructuredCommand acknowledgment || decide (previousPhase = .waitingForResponse)
    let s ← s.startAckReceive false
    if !responding then return s
    return { s with phase := .waitingForResponse
                    hubRadioArbiter := s.hubRadioArbiter.setOwner .commandWaitResponse }

/-- A packet for the legacy transaction.  A matching acknowledgment completes it, whatever its status. -/
def processLegacy (c : DeviceConfig) (s : HubLoop) (acknowledgment : Packet) : HubM HubLoop :=
  if (evaluateHubAcknowledgment acknowledgment s.currentCommand c.localId c.peerId).1 ≠ .matchingAck then
    s.continueWaitingForAck
  else s.completeAndScheduleNextTransaction

def processAcknowledgment (c : DeviceConfig) (s : HubLoop) : HubM HubLoop := do
  let packetLength ← Board.getPacketLength
  if packetLength < headerSize ∨ maxPacketSize < packetLength then return ← s.continueWaitingForAck
  let data ← Board.readData packetLength
  match data with
  | .error _ => s.continueWaitingForAck
  | .ok data =>
    match decode data.toList with
    | none => s.continueWaitingForAck
    | some packet =>
      if packet.type = .event then s.offerEvent c data.toList s.phase
      else if s.hostStructuredOwner then s.processStructured packet
      else s.processLegacy c packet

/-! ### The services -/

/-- The Host's bytes, read and answered. -/
def readHost (c : DeviceConfig) (s : HubLoop) : HubM HubLoop := do
  let call ← Board.hostRead
  let call := { call with peerId := c.peerId, interlock := .clear, now := s.nowMs, overallTimeout := 2500
                          radioBridge := true }
  let (hubEventLedger, hostStack, result) ← (s.hostStack.serviceRx call).handle Board.serve s.hubEventLedger
  let s := { s with hubEventLedger, hostStack }
  if result.action = .transmitCommand ∧ s.phase = .idle then s.startHostStructuredTransmission result.packet
  else if s.phase = .idle then s.receiveIdle
  else return s

/-- What the stack does in every iteration: the connection, the bytes that wait to be written, and a response that
waits to be delivered. -/
def attendHost (s : HubLoop) : HubM HubLoop := do
  let connected ← Board.connected
  let (writable, written) ← Board.writable
  let hostStack := s.hostStack.observeConnection connected
  let (hostStack, _) := hostStack.serviceTx maxEncodedFrameSize writable written
  let (hostStack, _) := hostStack.servicePendingDelivery
  return { s with hostStack }

/-- The head of an iteration: the time, and the Host. -/
def serviceProductionHost (c : DeviceConfig) (s : HubLoop) : HubM HubLoop := do
  let now ← Board.millis
  let s := { s with nowMs := now }
  let s ← s.attendHost
  if !s.ready then return s
  if s.phase ≠ .idle ∧ s.hostStructuredOwner = false then return s
  let available ← Board.available
  if available ≤ 0 then return s
  let (s, pending) ← s.readOperationDone
  if !s.hubRadioArbiter.commandMayAcquire pending then return s
  let standby ← Board.standby
  if !standby then return s
  let (s, pending) ← s.readOperationDone
  if pending then return s
  s.readHost c

/-- The structured transaction, when no interrupt waits. -/
def serviceStructured (s : HubLoop) : HubM HubLoop :=
  let (hostStack, action) := s.hostStack.serviceRemote s.nowMs
  let s := { s with hostStack }
  if action.action = .transmitCommand then do
    let _ ← Board.standby
    s.startHostStructuredTransmission action.packet
  else if !s.hostStack.lifecycle.remoteBridge.active then s.finishHostStructuredOwnership
  else return s

/-- The idle phase: a packet that has come, or the next command when its time has. -/
def serviceIdle (c : DeviceConfig) (s : HubLoop) : HubM HubLoop := do
  let (s, done) ← s.readOperationDone
  if done then return ← { s with operationDone := false }.processIdleInbound c
  let now ← Board.millis
  if !HubTransactionState.reached now s.nextTransmitAt then return s
  let standby ← Board.standby
  if !standby then return ← s.receiveIdle
  let (s, done) ← s.readOperationDone
  if done then return ← s.processIdleInbound c
  s.startCommandTransmission c

/-- No interrupt waits: the acknowledgment may be overdue. -/
def serviceDeadline (s : HubLoop) : HubM HubLoop := do
  if s.phase ≠ .waitingForAck ∨ s.transactionState.awaitingAcknowledgment = false then return s
  let now ← Board.millis
  if s.transactionState.acknowledgmentWaitAction now = .noAction then return s
  s.handleAckTimeout

/-- The interrupt of a transmission that is over, or of a packet that is waited for. -/
def dispatch (c : DeviceConfig) (s : HubLoop) : HubM HubLoop :=
  let s := { s with operationDone := false }
  if s.phase = .transmitting then
    let s := if s.hostStructuredOwner then { s with hubRadioArbiter := s.hubRadioArbiter.setOwner .commandWaitAck }
      else s
    s.startAckReceive (!s.hostStructuredOwner)
  else if s.phase = .waitingForAck ∨ s.phase = .waitingForResponse then s.processAcknowledgment c
  else return s

/-- The end of an acknowledgment of an Event. -/
def serviceEventAck (s : HubLoop) : HubM HubLoop := do
  let (s, done) ← s.readOperationDone
  if !done then return s
  { s with operationDone := false }.finishEventAdmissionAck

/-- The phases of the transport, without a structured transaction or with its interrupt. -/
def servicePhase (c : DeviceConfig) (s : HubLoop) : HubM HubLoop := do
  if s.phase = .idle then return ← s.serviceIdle c
  let (s, done) ← s.readOperationDone
  if !done then return ← s.serviceDeadline
  s.dispatch c

def serviceHubTransport (c : DeviceConfig) (s : HubLoop) : HubM HubLoop := do
  if s.eventAckTxActive then return ← s.serviceEventAck
  if !s.hostStructuredOwner then return ← s.servicePhase c
  let (s, done) ← s.readOperationDone
  if !done then return ← s.serviceStructured
  s.servicePhase c

end HubLoop

/-- The services of one iteration. -/
inductive HubService
  | productionHost | transport
  deriving DecidableEq

namespace HubService

def run (c : DeviceConfig) (s : HubLoop) : HubService → HubM HubLoop
  | .productionHost => s.serviceProductionHost c
  | .transport => if s.ready then s.serviceHubTransport c else return s

/-- The service that follows; the last one ends the iteration. -/
def next : HubService → HubService
  | .productionHost => .transport
  | .transport => .productionHost

end HubService

/-- `setup()`. -/
def HubLoop.setup (c : DeviceConfig) : HubM HubLoop := do
  let (ledger, _) ← Board.onStorage (Ledger.recover c.localId c.peerId)
  let s := { HubLoop.initial with hubEventLedger := ledger, hubEventLedgerRecovered := ledger.ledgerHealthy
                                  hostStack := (Stack.initial false).setEventService true }
  let begun ← Board.beginRadio
  if !begun then return s
  let now ← Board.millis
  { s with ready := true, nextTransmitAt := now + initialDelayMs }.receiveIdle

/-! ### Runs -/

/-- One service, with the calls it has made. -/
structure HubTurn where
  before : HubLoop
  service : HubService
  log : Log HubOp.Reply
  after : HubLoop

/-- `loop()`, over and over. -/
def mainLoop (c : DeviceConfig) : System (HubService × HubLoop) HubTurn where
  before t := (t.service, t.before)
  after t := (t.service.next, t.after)
  Steps t := (t.service.run c t.before).Logs t.log t.after

/-- A run of the firmware, from power on. -/
structure Firmware (c : DeviceConfig) (turns : List HubTurn) : Prop where
  started : ∃ log s, (HubLoop.setup c).Logs log s ∧ (mainLoop c).IsRun (.productionHost, s) turns

/-- An outside that answers by an oracle, with a flash that works. -/
def outside (oracle : (op : HubOp) → op.Reply) : Device HubOp.Reply FlashDisk
  | .storage op, disk => geometry.flash op disk
  | op, disk => (oracle op, disk)

/-- The turns of a run in which each service has an oracle of its own. -/
def recorded (c : DeviceConfig) : HubService → HubLoop → FlashDisk → List ((op : HubOp) → op.Reply) → List HubTurn
  | _, _, _, [] => []
  | service, s, disk, oracle :: oracles =>
    let r := (service.run c s).record (outside oracle) disk
    ⟨s, service, r.1.1, r.1.2⟩ :: recorded c service.next r.1.2 r.2 oracles

theorem isRun_recorded (c : DeviceConfig) (oracles : List ((op : HubOp) → op.Reply)) (service : HubService)
    (s : HubLoop) (disk : FlashDisk) : (mainLoop c).IsRun (service, s) (recorded c service s disk oracles) := by
  induction oracles generalizing service s disk with
  | nil => trivial
  | cons oracle oracles ih => exact ⟨rfl, Prog.logs_record _ _ _, ih _ _ _⟩

/-- The run of the firmware on a blank flash in which `setup()` and then each service has its oracle. -/
def recordedFirmware (c : DeviceConfig) (oracle : (op : HubOp) → op.Reply) (oracles : List ((op : HubOp) → op.Reply)) :
    List HubTurn :=
  let r := (HubLoop.setup c).record (outside oracle) (Disk.clean blankImage)
  recorded c .productionHost r.1.2 r.2 oracles

theorem firmware_recorded (c : DeviceConfig) (oracle : (op : HubOp) → op.Reply)
    (oracles : List ((op : HubOp) → op.Reply)) : Firmware c (recordedFirmware c oracle oracles) :=
  ⟨_, _, Prog.logs_record _ _ _, isRun_recorded c oracles _ _ _⟩

/-- Nothing to read. -/
def noBytes : RxCall where
  snapshot := default
  peerId := 0
  registryValid := false
  registry := ⟨none, 0⟩
  interlock := .clear
  now := 0
  overallTimeout := 0
  radioBridge := true
  budget := maxEncodedFrameSize
  stream := []

/-- An outside in which nothing happens and everything works, at a time. -/
def calm (now : UInt32) : (op : HubOp) → op.Reply
  | .interrupted => false
  | .beginRadio | .standby | .startReceive | .startTransmit _ | .connected => true
  | .millis => now
  | .getPacketLength => (0 : ℕ)
  | .readData _ => .error .other
  | .writable => (0, 0)
  | .available => (0 : Int)
  | .hostRead => noBytes
  | .localService (.localOperation requestId request _ _ _ _ _) => makeBaseResult requestId request
  | .localService (.event requestId request _ _) => makeBaseResult requestId request
  | .storage (.read _) => ⟨.error, 0, []⟩
  | .storage (.write _ _) | .storage .commit => StorageResult.ok

/-- The interrupt comes for a packet of these bytes. -/
def hearing (now : UInt32) (bytes : Bytes) : (op : HubOp) → op.Reply
  | .interrupted => true
  | .getPacketLength => bytes.length
  | .readData length => (toBuffer? bytes length).elim (.error .other) .ok
  | op => calm now op

/-- The interrupt of a transmission that is over. -/
def interrupting (now : UInt32) : (op : HubOp) → op.Reply := hearing now []

end Redline.Hub
