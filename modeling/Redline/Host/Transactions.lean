import Redline.Host.Bridge

/-!
# Test commands

`transaction_engine.h`: the one command that is not structured, TEST, and its acknowledgment.  The Node evaluates a
received command against the last one it has accepted; the Hub counts its attempts and waits for the acknowledgment
until a deadline.
-/

namespace Redline.Host

open Redline.Wire

def opcodeTest : UInt8 := 0x64

def isSupportedCommandOpcode (opcode : UInt8) : Bool := opcode == opcodeTest

def expectedCommandPayloadLength (opcode : UInt8) : ℕ := if opcode = opcodeTest then 0 else Wire.maxPayloadSize + 1

def isValidCommandPayload (opcode : UInt8) (payloadLength : ℕ) : Bool :=
  decide (expectedCommandPayloadLength opcode ≤ Wire.maxPayloadSize) &&
    payloadLength == expectedCommandPayloadLength opcode

def isAddressedTo (packet : Packet) (deviceId : UInt8) : Bool := packet.destination == deviceId

/-! ### The Node -/

structure NodeDuplicateTracker where
  hasRememberedCommand : Bool
  source : UInt8
  sequence : UInt8
  opcode : UInt8
  payload : Bytes
  status : UInt8
  deriving DecidableEq

namespace NodeDuplicateTracker

def initial : NodeDuplicateTracker := ⟨false, 0, 0, 0, [], AckStatus.success⟩

def isDuplicate (d : NodeDuplicateTracker) (command : Packet) : Bool :=
  d.hasRememberedCommand && command.source == d.source && command.sequence == d.sequence &&
    command.opcode == d.opcode && decide (command.payload.length ≤ Wire.maxPayloadSize) &&
    command.payload == d.payload

def remember (command : Packet) (status : UInt8) : NodeDuplicateTracker where
  hasRememberedCommand := true
  source := command.source
  sequence := command.sequence
  opcode := command.opcode
  payload := command.payload
  status := status

end NodeDuplicateTracker

inductive NodeCommandOutcome
  | ignoreWrongDestination | ignoreWrongSender | ignoreWrongPacketType | duplicate | ackSuccess
  | ackUnsupportedOpcode | ackMalformedPacket
  deriving DecidableEq

/-- The outcome, the status of the acknowledgment, and what is remembered. -/
def evaluateNodeCommand (command : Packet) (localId peerId : UInt8) (tracker : NodeDuplicateTracker) :
    NodeDuplicateTracker × NodeCommandOutcome × UInt8 :=
  if !isAddressedTo command localId then (tracker, .ignoreWrongDestination, AckStatus.success)
  else if command.type ≠ .command then (tracker, .ignoreWrongPacketType, AckStatus.success)
  else if command.source ≠ peerId then (tracker, .ignoreWrongSender, AckStatus.success)
  else if !isSupportedCommandOpcode command.opcode then (tracker, .ackUnsupportedOpcode, AckStatus.unsupportedOpcode)
  else if !isValidCommandPayload command.opcode command.payload.length then
    (tracker, .ackMalformedPacket, AckStatus.malformedPacket)
  else if tracker.isDuplicate command then (tracker, .duplicate, tracker.status)
  else (.remember command AckStatus.success, .ackSuccess, AckStatus.success)

/-! ### The Hub -/

inductive HubAckOutcome
  | ignoreWrongDestination | ignoreWrongSender | ignoreWrongPacketType | ignoreWrongSequence | ignoreWrongOpcode
  | ignoreMalformedPayload | matchingAck
  deriving DecidableEq

inductive HubTransactionAction
  | noAction | transmitInitial | retransmit | transactionSucceeded | transactionRemoteError | transactionFailed
  deriving DecidableEq

structure HubTransactionState where
  sequence : UInt8
  retryCount : UInt8
  maximumRetries : UInt8
  awaitingAcknowledgment : Bool
  acknowledgmentDeadline : UInt32
  acknowledgmentTimeoutMs : UInt32
  deriving DecidableEq

namespace HubTransactionState

def initial : HubTransactionState := ⟨1, 0, 2, false, 0, 2500⟩

def beginAcknowledgmentWait (t : HubTransactionState) (currentTimeMs : UInt32) : HubTransactionState :=
  { t with awaitingAcknowledgment := true, acknowledgmentDeadline := currentTimeMs + t.acknowledgmentTimeoutMs }

/-- A time that is not before the deadline, as a signed difference. -/
def reached (currentTimeMs deadline : UInt32) : Bool := !(currentTimeMs - deadline).toBitVec.msb

def acknowledgmentWaitAction (t : HubTransactionState) (currentTimeMs : UInt32) : HubTransactionAction :=
  if !t.awaitingAcknowledgment || !reached currentTimeMs t.acknowledgmentDeadline then .noAction
  else if t.retryCount < t.maximumRetries then .retransmit
  else .transactionFailed

def attemptFailed (t : HubTransactionState) : HubTransactionState × HubTransactionAction :=
  if t.retryCount < t.maximumRetries then
    ({ t with awaitingAcknowledgment := false, retryCount := t.retryCount + 1 }, .retransmit)
  else ({ t with awaitingAcknowledgment := false }, .transactionFailed)

def acknowledgmentCompletionAction (status : UInt8) : HubTransactionAction :=
  if status = AckStatus.success then .transactionSucceeded else .transactionRemoteError

def completeTransaction (t : HubTransactionState) : HubTransactionState :=
  { t with sequence := t.sequence + 1, retryCount := 0, awaitingAcknowledgment := false }

end HubTransactionState

/-- The outcome, and the status byte of a matching acknowledgment. -/
def evaluateHubAcknowledgment (acknowledgment outstandingCommand : Packet) (localHubId peerNodeId : UInt8) :
    HubAckOutcome × UInt8 :=
  if acknowledgment.type ≠ .ack then (.ignoreWrongPacketType, 0)
  else if acknowledgment.source ≠ peerNodeId then (.ignoreWrongSender, 0)
  else if !isAddressedTo acknowledgment localHubId then (.ignoreWrongDestination, 0)
  else if acknowledgment.sequence ≠ outstandingCommand.sequence then (.ignoreWrongSequence, 0)
  else if acknowledgment.opcode ≠ outstandingCommand.opcode then (.ignoreWrongOpcode, 0)
  else if acknowledgment.payload.length ≠ 1 then (.ignoreMalformedPayload, 0)
  else (.matchingAck, byteAt acknowledgment.payload 0)

end Redline.Host
