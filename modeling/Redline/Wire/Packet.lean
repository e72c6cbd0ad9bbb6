import Redline.Wire.Bytes

/-!
# Wire packets

The six-byte header and the payload of a radio packet (`redline_protocol.h`): `encode`, `decode`,
and that a packet of a known type which encodes is decoded again.
-/

namespace Redline.Wire

def version : UInt8 := 1
def headerSize : ℕ := 6
def maxPacketSize : ℕ := 32
def maxPayloadSize : ℕ := maxPacketSize - headerSize

def opcodeApplicationMin : UInt8 := 0x20
def opcodeApplicationMax : UInt8 := 0x7F

inductive PacketType
  | command | ack | error | response | event
  deriving DecidableEq

def PacketType.toByte : PacketType → UInt8
  | .command => 0x01
  | .ack => 0x02
  | .error => 0x03
  | .response => 0x04
  | .event => 0x05

/-- A packet; its payload is the bytes of the payload array up to the payload length. -/
structure Packet where
  type : PacketType
  source : UInt8
  destination : UInt8
  sequence : UInt8
  opcode : UInt8
  payload : Bytes
  deriving DecidableEq

def makeControl (type : PacketType) : UInt8 := version <<< 4 ||| (type.toByte &&& 0x0F)

def getVersion (control : UInt8) : UInt8 := control >>> 4

/-- The packet type in the low half of the control byte, if it is a known one. -/
def getPacketType (control : UInt8) : Option PacketType :=
  match control &&& 0x0F with
  | 0x01 => some .command
  | 0x02 => some .ack
  | 0x03 => some .error
  | 0x04 => some .response
  | 0x05 => some .event
  | _ => none

def encode (packet : Packet) (outputCapacity : ℕ) : Option Bytes :=
  if packet.payload.length > maxPayloadSize then none
  else if outputCapacity < headerSize + packet.payload.length then none
  else some ([makeControl packet.type, packet.source, packet.destination, packet.sequence,
    packet.opcode, packet.payload.length.toUInt8] ++ packet.payload)

def decode (input : Bytes) : Option Packet :=
  if input.length < headerSize then none
  else if getVersion (byteAt input 0) ≠ version then none
  else
    let payloadLength := (byteAt input 5).toNat
    if payloadLength > maxPayloadSize then none
    else if input.length ≠ headerSize + payloadLength then none
    else
      match getPacketType (byteAt input 0) with
      | none => none
      | some type =>
        some { type, source := byteAt input 1, destination := byteAt input 2,
               sequence := byteAt input 3, opcode := byteAt input 4,
               payload := input.drop headerSize }

@[simp] theorem getVersion_makeControl (type : PacketType) :
    getVersion (makeControl type) = version := by
  cases type <;> decide

@[simp] theorem getPacketType_makeControl (type : PacketType) :
    getPacketType (makeControl type) = some type := by
  cases type <;> decide

/-- A packet that encodes is decoded to itself. -/
theorem decode_encode {packet : Packet} {capacity : ℕ} {bytes : Bytes}
    (h : encode packet capacity = some bytes) : decode bytes = some packet := by
  unfold encode at h
  split at h
  · cases h
  · rename_i hlen
    split at h
    · cases h
    · have hl : packet.payload.length ≤ 26 := by
        simpa [maxPayloadSize, maxPacketSize, headerSize] using hlen
      have hmod : packet.payload.length % 256 = packet.payload.length := Nat.mod_eq_of_lt (by omega)
      cases h
      simp [decode, byteAt, headerSize, maxPayloadSize, maxPacketSize, hmod]
      omega

end Redline.Wire
