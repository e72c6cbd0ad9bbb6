import Redline.Host.ProcessorRuns
import Redline.Host.Transactions
import Redline.Lib.Log
import Redline.Lib.Run
import Redline.Node.Machine

/-!
# The main loop of the Node

`src-rx/main.cpp`: `setup()`, and `loop()` as the services it calls in their order.  The radio, its interrupt, the
clock, the serial line and the buttons are outside: a service is a program whose calls they answer, and each read of the
interrupt flag lets the interrupt come first.  The Event subsystem works on its flash.

The arbiter and the timer of the acknowledgment are those of `node_event_radio.h`, the guards of maintenance those of
`node_settings_integration.h`.  What is only shown, logged, counted or written to the settings is left out, and so is
the Host's stack, which keeps a state of its own.
-/

namespace Redline.Node

open Redline.Wire Redline.Records Redline.Lib Redline.Host

/-! ### The arbiter of the radio -/

inductive NodeOwner
  | listening | standbyAcquired | eventTx | commandPreAck | commandAckTx | commandResponseTx | maintenance
  deriving DecidableEq

structure NodeSafePoint where
  runtimeReady : Bool
  listening : Bool
  isrPending : Bool
  synchronousWork : Bool
  maintenance : Bool
  rendering : Bool

inductive NodeAcquireResult
  | denied | acquireStandby | receivedPacketWon | grantEventTx
  deriving DecidableEq

namespace NodeOwner

def requestEvent (owner : NodeOwner) (point : NodeSafePoint) (state : RuntimeState) : NodeOwner × NodeAcquireResult :=
  if owner ≠ .listening || !point.runtimeReady || !point.listening || point.isrPending || point.synchronousWork ||
      point.maintenance || point.rendering || decide (state ≠ .ready) then (owner, .denied)
  else (.standbyAcquired, .acquireStandby)

def finishStandby (owner : NodeOwner) (standbySucceeded isrPending : Bool) : NodeOwner × NodeAcquireResult :=
  if owner ≠ .standbyAcquired then (owner, .denied)
  else if !standbySucceeded || isrPending then (.listening, if isrPending then .receivedPacketWon else .denied)
  else (.eventTx, .grantEventTx)

end NodeOwner

def preAckDelayMilliseconds : UInt32 := 100

structure CommandPreAckTimer where
  active : Bool
  fired : Bool
  origin : UInt32
  deriving DecidableEq

namespace CommandPreAckTimer

def initial : CommandPreAckTimer := ⟨false, false, 0⟩

def start (now : UInt32) : CommandPreAckTimer := ⟨true, false, now⟩

def due (timer : CommandPreAckTimer) (now : UInt32) : CommandPreAckTimer × Bool :=
  if !timer.active || timer.fired || now - timer.origin < preAckDelayMilliseconds then (timer, false)
  else ({ timer with fired := true }, true)

def clear (timer : CommandPreAckTimer) : CommandPreAckTimer := { timer with active := false, fired := false }

end CommandPreAckTimer

/-! ### The guards of maintenance -/

/-- The requests of `settings_integration.h`. -/
inductive SettingsRequest
  | none | automaticRepair | save | factoryReset
  deriving DecidableEq

namespace SettingsRequest

def queueAutomaticRepair (request : SettingsRequest) : SettingsRequest :=
  if request = .none then .automaticRepair else request

def queueSave (request : SettingsRequest) : SettingsRequest := if request = .factoryReset then request else .save

end SettingsRequest

structure SafePointState where
  acknowledgmentCompleted : Bool := false
  quietListeningMaintenance : Bool := false
  processingInbound : Bool := false
  validatingCommand : Bool := false
  preparingAcknowledgment : Bool := false
  acknowledgmentPending : Bool := false
  duplicateReplayPending : Bool := false
  radioEventPending : Bool := false
  radioStandby : Bool := false
  rendering : Bool := false

def persistenceSafe (state : SafePointState) : Bool :=
  (state.acknowledgmentCompleted || state.quietListeningMaintenance) && !state.processingInbound &&
    !state.validatingCommand && !state.preparingAcknowledgment && !state.acknowledgmentPending &&
    !state.duplicateReplayPending && !state.radioEventPending && state.radioStandby && !state.rendering

def quietMaintenanceAllowed (request : SettingsRequest) (attemptArmed : Bool) (phase : RuntimePhase)
    (radioEventPending acknowledgmentObligation duplicateReplayObligation rendering : Bool) : Bool :=
  decide (request ≠ .none) && attemptArmed && decide (phase = .listening) && !radioEventPending &&
    !acknowledgmentObligation && !duplicateReplayObligation && !rendering

inductive AcquisitionOutcome
  | owned | eventPending | standbyFailed
  deriving DecidableEq

def classifyAcquisition (standbySucceeded radioEventPending : Bool) : AcquisitionOutcome :=
  if radioEventPending then .eventPending else if standbySucceeded then .owned else .standbyFailed

/-! ### What is outside -/

inductive EditorAction
  | none | saveSettingsRequest | factoryResetRequest
  deriving DecidableEq

/-- What the loop asks of what is outside.  `interrupted`: has the interrupt come since the flag was last read or
cleared?  `produced`: the Event that a button or a sensor has given rise to.  `context`: what an operation is executed
with. -/
inductive LoopOp
  | interrupted
  | millis
  | beginRadio
  | standby
  | startReceive
  | startTransmit (bytes : Bytes)
  | getPacketLength
  | readData (length : ℕ)
  | available
  | random
  | repairPending
  | produced
  | editorAction
  | context
  | device (op : DeviceOp)

def LoopOp.Reply : LoopOp → Type
  | .interrupted | .beginRadio | .standby | .startReceive | .startTransmit _ | .repairPending => Bool
  | .millis | .random => UInt32
  | .getPacketLength => ℕ
  | .readData length => Option (Vector UInt8 length)
  | .available => ℤ
  | .produced => Option EventInput
  | .editorAction => EditorAction
  | .context => NodeContext
  | .device op => op.Reply

abbrev LoopM := Prog LoopOp.Reply

namespace Board

def interrupted : LoopM Bool := Prog.lift LoopOp.interrupted
def millis : LoopM UInt32 := Prog.lift LoopOp.millis
def beginRadio : LoopM Bool := Prog.lift LoopOp.beginRadio
def standby : LoopM Bool := Prog.lift LoopOp.standby
def startReceive : LoopM Bool := Prog.lift LoopOp.startReceive
def startTransmit (bytes : Bytes) : LoopM Bool := Prog.lift (LoopOp.startTransmit bytes)
def getPacketLength : LoopM ℕ := Prog.lift LoopOp.getPacketLength
def readData (length : ℕ) : LoopM (Option (Vector UInt8 length)) := Prog.lift (LoopOp.readData length)
def available : LoopM ℤ := Prog.lift LoopOp.available
def random : LoopM UInt32 := Prog.lift LoopOp.random
def repairPending : LoopM Bool := Prog.lift LoopOp.repairPending
def produced : LoopM (Option EventInput) := Prog.lift LoopOp.produced
def editorAction : LoopM EditorAction := Prog.lift LoopOp.editorAction
def context : LoopM NodeContext := Prog.lift LoopOp.context

/-- The operation of a device, asked from within the loop. -/
def onDevice {α : Type} (p : DeviceM α) : LoopM α := p.embed LoopOp.device fun _ r => r

end Board

/-! ### The state -/

/-- `DeviceConfig`. -/
structure DeviceConfig where
  localId : UInt8
  peerId : UInt8

/-- The variables of the firmware.  `nowMs` is the time at the head of the iteration, and `transmitBuffer` has the
bytes up to `transmitLength`. -/
structure NodeLoop where
  ready : Bool
  phase : RuntimePhase
  owner : NodeOwner
  commandPreAck : CommandPreAckTimer
  operationDone : Bool
  eventSubsystemReady : Bool
  machine : Machine
  eventSequence : UInt8
  persistenceRequest : SettingsRequest
  quietMaintenanceAttemptArmed : Bool
  maintenanceOwnershipActive : Bool
  renderingPresentation : Bool
  structuredAckThenExecute : Bool
  structuredCachedResponseAfterAck : Bool
  structuredResponse : Packet
  transmitBuffer : Bytes
  processor : NodeProcessor
  duplicateTracker : NodeDuplicateTracker
  nowMs : UInt32

namespace NodeLoop

/-- At power on, before `setup()`. -/
def initial (img : Image) : NodeLoop where
  ready := false
  phase := .listening
  owner := .listening
  commandPreAck := .initial
  operationDone := false
  eventSubsystemReady := false
  machine := .off img
  eventSequence := 0
  persistenceRequest := .none
  quietMaintenanceAttemptArmed := false
  maintenanceOwnershipActive := false
  renderingPresentation := false
  structuredAckThenExecute := false
  structuredCachedResponseAfterAck := false
  structuredResponse := blankPacket
  transmitBuffer := []
  processor := .initial
  duplicateTracker := .initial
  nowMs := 0

def deliveryState (s : NodeLoop) : RuntimeState := s.machine.ram.controller.state

/-- A call of the Event subsystem, on its flash. -/
def onFlash {α : Type} (s : NodeLoop) (p : StorageM (Ram × α)) : NodeLoop × α :=
  let (r, disk) := p.run geometry.flash (Disk.clean s.machine.image)
  ({ s with machine := ⟨r.1, disk.data⟩ }, r.2)

/-- `EventJitter`. -/
def drawJitter : LoopM UInt16 := do
  let drawn ← Board.random
  return (drawn % 251).toUInt16

/-- `EventSequence`: zero is left out. -/
def nextSequence (value : UInt8) : UInt8 := if value + 1 = 0 then 1 else value + 1

/-- A read of `operationDone`. -/
def readOperationDone (s : NodeLoop) : LoopM (NodeLoop × Bool) := do
  if s.operationDone then return (s, true)
  let interrupted ← Board.interrupted
  return ({ s with operationDone := interrupted }, interrupted)

/-! ### Listening and maintenance -/

def startListening (s : NodeLoop) : LoopM (NodeLoop × Bool) := do
  let s := { s with operationDone := false, phase := .listening }
  let started ← Board.startReceive
  if !started then return (s, false)
  return ({ s with owner := .listening }, true)

/-- Listening starts again, and nobody asks whether it has. -/
def listenAgain (s : NodeLoop) : LoopM NodeLoop := do
  let (s, _) ← s.startListening
  return s

def resumeListening (s : NodeLoop) : LoopM NodeLoop := do
  let _ ← Board.standby
  s.listenAgain

/-- The request is met by a save or a reset, and does not stay whatever becomes of it. -/
def servicePendingPersistence (s : NodeLoop) : NodeLoop :=
  { s with persistenceRequest := .none, quietMaintenanceAttemptArmed := false }

def servicePersistenceAfterAcknowledgment (s : NodeLoop) (radioStandby : Bool) : LoopM NodeLoop := do
  if s.persistenceRequest = .none then return s
  let (s, pending) ← s.readOperationDone
  if !persistenceSafe { acknowledgmentCompleted := true, radioEventPending := pending, radioStandby
                        rendering := s.renderingPresentation } then
    return if !radioStandby then { s with quietMaintenanceAttemptArmed := false } else s
  return s.servicePendingPersistence

/-- The end of a maintenance that has got the radio. -/
def maintainOwned (s : NodeLoop) : LoopM NodeLoop := do
  let (s, pending) ← s.readOperationDone
  if !persistenceSafe { quietListeningMaintenance := true, radioEventPending := pending, radioStandby := true
                        rendering := s.renderingPresentation } then
    let s := { s with maintenanceOwnershipActive := false }
    let (s, done) ← s.readOperationDone
    if done then return s
    return ← s.listenAgain
  let s := { s.servicePendingPersistence with maintenanceOwnershipActive := false }
  s.listenAgain

def serviceQuietMaintenance (s : NodeLoop) : LoopM NodeLoop := do
  let (s, done) ← s.readOperationDone
  if !quietMaintenanceAllowed s.persistenceRequest s.quietMaintenanceAttemptArmed s.phase done false false
      s.renderingPresentation then return s
  let s := { s with maintenanceOwnershipActive := true }
  let standby ← Board.standby
  -- the flag is read twice after the standby
  let (s, eventArrived) ← s.readOperationDone
  let (s, pending) ← s.readOperationDone
  match classifyAcquisition standby (eventArrived || pending) with
  | .eventPending => return { s with maintenanceOwnershipActive := false }
  | .standbyFailed => do
    let s := { s with maintenanceOwnershipActive := false, quietMaintenanceAttemptArmed := false }
    s.listenAgain
  | .owned => s.maintainOwned

/-! ### Acknowledgments and responses -/

def startAcknowledgment (s : NodeLoop) (command : Packet) (status : UInt8) : LoopM NodeLoop :=
  match encode (makeAcknowledgment command status) maxPacketSize with
  | none => do
    let s := { s with transmitBuffer := [] }
    s.listenAgain
  | some bytes => do
    let s := { s with transmitBuffer := bytes }
    let standby ← Board.standby
    if !standby then return ← s.listenAgain
    let now ← Board.millis
    return { s with owner := .commandPreAck, commandPreAck := .start now, phase := .transmittingAck }

def serviceCommandPreAck (s : NodeLoop) : LoopM NodeLoop := do
  let (timer, due) := s.commandPreAck.due s.nowMs
  if !due then return s
  let s := { s with commandPreAck := timer.clear, operationDone := false, owner := .commandAckTx }
  let started ← Board.startTransmit s.transmitBuffer
  if started then return s
  let s := { s with structuredAckThenExecute := false, structuredCachedResponseAfterAck := false }
  s.listenAgain

def startStructuredResponse (s : NodeLoop) (response : Packet) : LoopM NodeLoop :=
  match encode response maxPacketSize with
  | none => return s
  | some bytes => do
    let s := { s with structuredResponse := response, transmitBuffer := bytes, operationDone := false
                      phase := .transmittingResponse, owner := .commandResponseTx }
    let started ← Board.startTransmit bytes
    if started then return s
    s.listenAgain

/-- The response that follows the acknowledgment: the one of the admitted command, which is executed now, or the one
that is retained. -/
def responseAfterAck (s : NodeLoop) : LoopM (NodeLoop × Option Packet) := do
  if !s.structuredAckThenExecute then return (s, some s.structuredResponse)
  let context ← Board.context
  let (processor, executed) ← Board.onDevice (s.processor.executeAdmittedOperation context)
  let s := { s with processor }
  if executed.action ≠ .responseReady then return (s, none)
  return (s, some executed.response)

def beginStructuredResponseAfterAck (s : NodeLoop) : LoopM NodeLoop := do
  let (s, response) ← s.responseAfterAck
  match response with
  | none => return s
  | some response =>
    let s := { s with structuredAckThenExecute := false, structuredCachedResponseAfterAck := false }
    s.startStructuredResponse response

def finishStructuredResponse (s : NodeLoop) : LoopM NodeLoop := s.listenAgain

def finishAcknowledgment (s : NodeLoop) : LoopM NodeLoop := do
  let standby ← Board.standby
  if s.structuredAckThenExecute || s.structuredCachedResponseAfterAck then
    return ← s.beginStructuredResponseAfterAck
  let s ← s.servicePersistenceAfterAcknowledgment standby
  s.listenAgain

/-! ### Received packets -/

/-- A structured COMMAND, given to the processor. -/
def handleStructuredCommand (c : DeviceConfig) (s : NodeLoop) (command : Packet) : LoopM NodeLoop :=
  let (processor, structured) := s.processor.admitCommand command c.localId c.peerId
  let s := { s with processor }
  match structured.action with
  | .ackThenExecute =>
    let s := { s with structuredAckThenExecute := true, structuredCachedResponseAfterAck := false }
    s.startAcknowledgment command AckStatus.success
  | .sendAck => s.startAcknowledgment command AckStatus.success
  | .sendAckAndResponse =>
    let s := { s with structuredResponse := structured.response, structuredCachedResponseAfterAck := true
                      structuredAckThenExecute := false }
    s.startAcknowledgment command AckStatus.success
  | .sendRejectionAck => s.startAcknowledgment command (byteAt structured.acknowledgment.payload 0)
  | .activeBusy | .ignore | .responseReady => s.resumeListening

/-- Any other packet. -/
def handleTestCommand (c : DeviceConfig) (s : NodeLoop) (command : Packet) : LoopM NodeLoop :=
  let (duplicateTracker, outcome, status) := evaluateNodeCommand command c.localId c.peerId s.duplicateTracker
  let s := { s with duplicateTracker }
  match outcome with
  | .ignoreWrongDestination | .ignoreWrongSender | .ignoreWrongPacketType => s.resumeListening
  | .duplicate | .ackSuccess | .ackUnsupportedOpcode | .ackMalformedPacket => s.startAcknowledgment command status

/-- A packet that may answer the Event that waits for its admission. -/
def offerAdmission (s : NodeLoop) (bytes : Bytes) (now : UInt32) : LoopM NodeLoop := do
  if !s.eventSubsystemReady || decide (s.deliveryState ≠ .waitAdmission) then return s
  let jitter ← drawJitter
  return (s.onFlash (s.machine.ram.admissionCandidate bytes now jitter)).1

def handleReceivedPacket (c : DeviceConfig) (s : NodeLoop) : LoopM NodeLoop := do
  let packetLength ← Board.getPacketLength
  if packetLength < headerSize ∨ maxPacketSize < packetLength then return ← s.resumeListening
  let data ← Board.readData packetLength
  match data with
  | none => s.resumeListening
  | some data => do
    let now ← Board.millis
    let s ← s.offerAdmission data.toList now
    match decode data.toList with
    | none => s.resumeListening
    | some command =>
      if command.type = .command ∧ isStructuredOpcode command.opcode = true then s.handleStructuredCommand c command
      else s.handleTestCommand c command

/-! ### Events -/

def hasTerminalRecords (store : Store) : Bool :=
  (List.finRange 8).any fun slot => Ram.isTerminalRecord (store.recordAt slot)

/-- Work that the Event subsystem has to wait for. -/
def synchronousWork (s : NodeLoop) : LoopM (NodeLoop × Bool) := do
  if s.commandPreAck.active || decide (s.owner ≠ .listening) || decide (s.phase ≠ .listening) then return (s, true)
  let (s, done) ← s.readOperationDone
  return (s, done || s.maintenanceOwnershipActive || s.renderingPresentation)

/-- The cleanup of terminal records, on the radio in standby. -/
def reclaimRecords (s : NodeLoop) : LoopM NodeLoop := do
  let standbyOk ← Board.standby
  let (s, done) ← s.readOperationDone
  if done then return s
  let s := if standbyOk then
      let (s, reclaimed) := s.onFlash (s.machine.ram.reclaimTerminals true)
      if !reclaimed then { s with eventSubsystemReady := false } else s
    else s
  s.listenAgain

/-- The transmission of the Event that has got the radio. -/
def transmitEvent (s : NodeLoop) (now : UInt32) : LoopM NodeLoop :=
  let sequence := nextSequence s.eventSequence
  let (s, grant) := s.onFlash (s.machine.ram.grantTransmit now (some sequence))
  match grant.action with
  | .transmit bytes => do
    let s := { s with eventSequence := sequence, operationDone := false }
    let started ← Board.startTransmit bytes
    if !started then
      let jitter ← drawJitter
      return ← (s.onFlash (s.machine.ram.txStartFailed now jitter)).1.listenAgain
    return (s.onFlash (s.machine.ram.txStarted now)).1
  | .none | .receive => s.listenAgain

/-- The radio is asked for, and taken when nothing has been received in between. -/
def acquireEvent (s : NodeLoop) (synchronousWork : Bool) (now : UInt32) : LoopM NodeLoop := do
  let (s, pending) ← s.readOperationDone
  let point : NodeSafePoint := ⟨s.ready, decide (s.phase = .listening), pending, synchronousWork,
    s.maintenanceOwnershipActive, s.renderingPresentation⟩
  let (owner, requested) := s.owner.requestEvent point s.deliveryState
  if requested ≠ .acquireStandby then return s
  let s := { s with owner }
  let standbyOk ← Board.standby
  let (s, pending) ← s.readOperationDone
  let (owner, acquired) := s.owner.finishStandby standbyOk pending
  let s := { s with owner }
  match acquired with
  | .receivedPacketWon => return s
  | .grantEventTx => s.transmitEvent now
  | .denied | .acquireStandby => s.listenAgain

def serviceNodeEvents (s : NodeLoop) : LoopM NodeLoop := do
  if !s.eventSubsystemReady then return s
  let (s, synchronousWork) ← s.synchronousWork
  let now ← Board.millis
  let jitter ← drawJitter
  let (s, serviced) := s.onFlash (s.machine.ram.service now synchronousWork jitter)
  if serviced.status = .degraded ∨ serviced.status = .policyFailure ∨ serviced.status = .storageFailure then
    return { s with eventSubsystemReady := false }
  if hasTerminalRecords s.machine.ram.store then
    if s.owner = .eventTx ∧ (s.deliveryState = .expired ∨ s.deliveryState = .failed) then
      return ← s.listenAgain
    if synchronousWork = false ∧ s.ready = true ∧ s.deliveryState ≠ .tx ∧ s.deliveryState ≠ .txPrepare ∧
        s.deliveryState ≠ .waitAdmission then return ← s.reclaimRecords
  s.acquireEvent synchronousWork now

/-! ### The services -/

def creationFails : EnqueueStatus → Bool
  | .storageFailure | .identityFailure | .degraded => true
  | .enqueued | .queueFull | .invalidEvent => false

/-- What a producer has observed: nothing, or an Event for the store.  The result is whether the store has failed. -/
def produce (s : NodeLoop) : LoopM (NodeLoop × Bool) := do
  let produced ← Board.produced
  match produced with
  | none => return (s, false)
  | some input => do
    let clock ← Board.millis
    let (s, created) := s.onFlash (s.machine.ram.create input clock)
    return (s, creationFails created.status)

/-- The two events of the button. -/
def serviceButtonEvents (s : NodeLoop) : LoopM NodeLoop := do
  if !s.eventSubsystemReady then return s
  let (s, first) ← s.produce
  let (s, second) ← s.produce
  return if first || second then { s with eventSubsystemReady := false } else s

def queueEditorAction (s : NodeLoop) : LoopM NodeLoop := do
  let action ← Board.editorAction
  match action with
  | .none => return s
  | .saveSettingsRequest =>
    return { s with persistenceRequest := s.persistenceRequest.queueSave, quietMaintenanceAttemptArmed := true }
  | .factoryResetRequest =>
    return { s with persistenceRequest := .factoryReset, quietMaintenanceAttemptArmed := true }

def serviceSensorThresholdProducer (s : NodeLoop) : LoopM NodeLoop := do
  if !s.eventSubsystemReady then return s
  let (s, failed) ← s.produce
  return if failed then { s with eventSubsystemReady := false } else s

/-- The head of an iteration: the time, the button and the sensor. -/
def serviceProducers (s : NodeLoop) : LoopM NodeLoop := do
  let now ← Board.millis
  let s := { s with nowMs := now }
  let s ← s.serviceButtonEvents
  let s ← s.queueEditorAction
  s.serviceSensorThresholdProducer

/-- The interrupt of the radio, given to whoever owns it. -/
def dispatch (c : DeviceConfig) (s : NodeLoop) : LoopM NodeLoop := do
  if !s.ready then return s
  let (s, done) ← s.readOperationDone
  if !done then return s
  let s := { s with operationDone := false }
  if s.owner = .eventTx then
    let now ← Board.millis
    (s.onFlash (s.machine.ram.txCompleted now)).1.listenAgain
  else if s.phase = .transmittingAck then s.finishAcknowledgment
  else if s.phase = .transmittingResponse then s.finishStructuredResponse
  else s.handleReceivedPacket c

def serviceProductionHost (s : NodeLoop) : LoopM NodeLoop := do
  if !s.ready then return s
  let (s, done) ← s.readOperationDone
  if done || decide (s.phase ≠ .listening) then return s
  let available ← Board.available
  if available ≤ 0 then return s
  let standby ← Board.standby
  if !standby then return ← s.listenAgain
  -- the Host's stack reads and answers here, unless a packet has come; listening starts either way
  let (s, _) ← s.readOperationDone
  s.listenAgain

end NodeLoop

/-- The services of one iteration. -/
inductive Service
  | producers | commandPreAck | dispatch | productionHost | quietMaintenance | nodeEvents
  deriving DecidableEq

namespace Service

def run (c : DeviceConfig) (s : NodeLoop) : Service → LoopM NodeLoop
  | .producers => s.serviceProducers
  | .commandPreAck => s.serviceCommandPreAck
  | .dispatch => s.dispatch c
  | .productionHost => s.serviceProductionHost
  | .quietMaintenance => if s.ready then s.serviceQuietMaintenance else return s
  | .nodeEvents => s.serviceNodeEvents

/-- The service that follows; the last one ends the iteration. -/
def next : Service → Service
  | .producers => .commandPreAck
  | .commandPreAck => .dispatch
  | .dispatch => .productionHost
  | .productionHost => .quietMaintenance
  | .quietMaintenance => .nodeEvents
  | .nodeEvents => .producers

end Service

/-- `loadSettings`: a repair of the settings is asked for. -/
def NodeLoop.loadSettings (s : NodeLoop) (repairPending : Bool) : NodeLoop :=
  if repairPending then
    { s with persistenceRequest := s.persistenceRequest.queueAutomaticRepair, quietMaintenanceAttemptArmed := true }
  else s

/-- `setup()`. -/
def NodeLoop.setup (c : DeviceConfig) (img : Image) : LoopM NodeLoop := do
  let repairPending ← Board.repairPending
  let s := (NodeLoop.initial img).loadSettings repairPending
  let entropy ← Board.random
  let now ← Board.millis
  let (s, recovered) := s.onFlash (Ram.boot c.localId c.peerId (some entropy) now)
  let s := { s with eventSubsystemReady := decide (recovered.status = .ok ∨ recovered.status = .noActiveEvent) }
  let begun ← Board.beginRadio
  if !begun then return s
  let (s, listening) ← s.startListening
  if !listening then return s
  return { s with ready := true }

/-! ### Runs -/

/-- One service, with the calls it has made. -/
structure ServiceTurn where
  before : NodeLoop
  service : Service
  log : Log LoopOp.Reply
  after : NodeLoop

/-- `loop()`, over and over. -/
def mainLoop (c : DeviceConfig) : System (Service × NodeLoop) ServiceTurn where
  before t := (t.service, t.before)
  after t := (t.service.next, t.after)
  Steps t := (t.service.run c t.before).Logs t.log t.after

/-- A run of the firmware, from power on with an image in its flash. -/
structure Firmware (c : DeviceConfig) (img : Image) (turns : List ServiceTurn) : Prop where
  started : ∃ log s, (NodeLoop.setup c img).Logs log s ∧ (mainLoop c).IsRun (.producers, s) turns

/-- The turns of a run in which each service gets its answers from an oracle of its own. -/
def consulted (c : DeviceConfig) : Service → NodeLoop → List ((op : LoopOp) → op.Reply) → List ServiceTurn
  | _, _, [] => []
  | service, s, oracle :: oracles =>
    let r := (service.run c s).consult oracle
    ⟨s, service, r.1, r.2⟩ :: consulted c service.next r.2 oracles

theorem isRun_consulted (c : DeviceConfig) (oracles : List ((op : LoopOp) → op.Reply)) (service : Service)
    (s : NodeLoop) : (mainLoop c).IsRun (service, s) (consulted c service s oracles) := by
  induction oracles generalizing service s with
  | nil => trivial
  | cons oracle oracles ih => exact ⟨rfl, Prog.logs_consult oracle _, ih _ _⟩

/-- The run of the firmware in which `setup()` and then each service has its oracle. -/
def consultedFirmware (c : DeviceConfig) (img : Image) (oracle : (op : LoopOp) → op.Reply)
    (oracles : List ((op : LoopOp) → op.Reply)) : List ServiceTurn :=
  consulted c .producers ((NodeLoop.setup c img).consult oracle).2 oracles

theorem firmware_consulted (c : DeviceConfig) (img : Image) (oracle : (op : LoopOp) → op.Reply)
    (oracles : List ((op : LoopOp) → op.Reply)) : Firmware c img (consultedFirmware c img oracle oracles) :=
  ⟨_, _, Prog.logs_consult oracle _, isRun_consulted c oracles _ _⟩

/-- An outside in which nothing happens and everything works, at a time. -/
def calm (now : UInt32) : (op : LoopOp) → op.Reply
  | .interrupted | .repairPending => false
  | .beginRadio | .standby | .startReceive | .startTransmit _ => true
  | .millis => now
  | .random => (7 : UInt32)
  | .getPacketLength => (0 : ℕ)
  | .readData _ | .produced => none
  | .available => (0 : ℤ)
  | .editorAction => .none
  | .context => bareContext
  | .device (.execute _ _ _) => makeCanonicalFailureResult OperationStatus.operationFailed
  | .device (.available _) => none

/-- The interrupt comes for a packet of these bytes. -/
def hearing (now : UInt32) (bytes : Bytes) : (op : LoopOp) → op.Reply
  | .interrupted => true
  | .getPacketLength => bytes.length
  | .readData length => toBuffer? bytes length
  | op => calm now op

end Redline.Node
