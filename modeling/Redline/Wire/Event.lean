import Redline.Wire.Packet

/-!
# EVENT packets and admission responses

The Event vocabulary of `event_protocol.h`: the three registered families with the shape of their
bodies, the EVENT packet a Node transmits, the nine-byte admission response the Hub answers with,
and the correlation of the two.
-/

namespace Redline.Wire

def commonPayloadSize : ℕ := 14
def maxBodySize : ℕ := 12
def admissionPayloadSize : ℕ := 9

def importantFlag : UInt8 := 0x01
def allowedFlags : UInt8 := importantFlag

def minLifetimeSeconds : UInt32 := 60
def maxLifetimeSeconds : UInt32 := 86400

/-- The body array of an Event; the bytes past the body length are zero in a well-formed one. -/
abbrev Body := Vector UInt8 12

def emptyBody : Body := Vector.replicate 12 0

namespace Family
def button : UInt8 := 0x40
def sensorThreshold : UInt8 := 0x41
def manualCheckIn : UInt8 := 0x44
end Family

/-- Hub answers on the air. -/
inductive AdmissionStatus
  | admitted | capacity | identityContentMismatch | unsupportedEvent | malformedEvent
  deriving DecidableEq

def AdmissionStatus.toByte : AdmissionStatus → UInt8
  | .admitted => 0x00
  | .capacity => 0x01
  | .identityContentMismatch => 0x02
  | .unsupportedEvent => 0x03
  | .malformedEvent => 0x04

/-- The status a byte stands for; `isValidAdmissionStatus` of the source. -/
def AdmissionStatus.ofByte? (value : UInt8) : Option AdmissionStatus :=
  match value with
  | 0x00 => some .admitted
  | 0x01 => some .capacity
  | 0x02 => some .identityContentMismatch
  | 0x03 => some .unsupportedEvent
  | 0x04 => some .malformedEvent
  | _ => none

structure Identity where
  sourceDeviceId : UInt8
  epoch : UInt32
  id : UInt32
  deriving DecidableEq

instance : Inhabited Identity := ⟨⟨0, 0, 0⟩⟩

structure Event where
  source : UInt8
  destination : UInt8
  sequence : UInt8
  family : UInt8
  epoch : UInt32
  id : UInt32
  flags : UInt8
  lifetimeBudgetSeconds : UInt32
  bodyLength : UInt8
  body : Body
  deriving DecidableEq

instance : Inhabited Event := ⟨⟨0, 0, 0, 0, 0, 0, 0, 0, 0, emptyBody⟩⟩

structure AdmissionResponse where
  source : UInt8
  destination : UInt8
  sequence : UInt8
  family : UInt8
  status : AdmissionStatus
  epoch : UInt32
  id : UInt32
  deriving DecidableEq

/-! ### Families and bodies -/

def isRegisteredFamily (family : UInt8) : Bool :=
  family == Family.button || family == Family.sensorThreshold || family == Family.manualCheckIn

def expectedBodyLength (family : UInt8) : ℕ :=
  if family = Family.button ∨ family = Family.manualCheckIn then 1
  else if family = Family.sensorThreshold then 8
  else maxBodySize + 1

def isValidButtonEvent (value : UInt8) : Bool := 0x01 ≤ value && value ≤ 0x05

def isValidSensorValueType (value : UInt8) : Bool := 0x02 ≤ value && value ≤ 0x06

def isValidThresholdRelation (value : UInt8) : Bool := value == 0x01 || value == 0x02

def isValidFamilyBody (family : UInt8) (body : Body) (bodyLength : UInt8) : Bool :=
  if bodyLength.toNat ≠ expectedBodyLength family then false
  else if family = Family.button then isValidButtonEvent body[0]
  else if family = Family.sensorThreshold then
    let capabilityId : UInt16 := body[0].toUInt16 ||| body[1].toUInt16 <<< 8
    if capabilityId = 0 || !isValidSensorValueType body[2] || !isValidThresholdRelation body[7] then false
    -- the two 16-bit value types leave the upper half of the value zero
    else if body[2] = 0x04 || body[2] = 0x06 then body[5] == 0 && body[6] == 0
    else true
  else if family = Family.manualCheckIn then body[0] == 0x01
  else false

def hasValidEndpoints (source destination : UInt8) : Bool :=
  source != 0 && destination != 0 && source != destination

/-- The checks on flags, lifetime and body that the Node, the Hub and the codecs share. -/
def isValidContent (family flags bodyLength : UInt8) (lifetimeBudgetSeconds : UInt32) (body : Body) : Bool :=
  (flags &&& ~~~allowedFlags) == 0 && minLifetimeSeconds ≤ lifetimeBudgetSeconds &&
    lifetimeBudgetSeconds ≤ maxLifetimeSeconds && bodyLength.toNat ≤ maxBodySize &&
    isRegisteredFamily family && isValidFamilyBody family body bodyLength

/-- The bytes past the body length are zero. -/
def zeroTail (body : Body) (bodyLength : UInt8) : Bool :=
  (body.toList.drop bodyLength.toNat).all (· == 0)

def isValidEvent (event : Event) : Bool :=
  hasValidEndpoints event.source event.destination && event.epoch != 0 && event.id != 0 &&
    isValidContent event.family event.flags event.bodyLength event.lifetimeBudgetSeconds event.body

/-! ### The codecs -/

def eventPacket (event : Event) : Packet where
  type := .event
  source := event.source
  destination := event.destination
  sequence := event.sequence
  opcode := event.family
  payload := writeUint32Le event.epoch ++ writeUint32Le event.id ++ [event.flags] ++
    writeUint32Le event.lifetimeBudgetSeconds ++ [event.bodyLength] ++
    event.body.toList.take event.bodyLength.toNat

def encodeEvent (event : Event) (outputCapacity : ℕ) : Option Bytes :=
  if isValidEvent event then encode (eventPacket event) outputCapacity else none

/-- A body array filled from the front; what is not filled is zero. -/
def bodyOf (bytes : Bytes) : Body := Vector.ofFn fun i => byteAt bytes i

def decodeEvent (input : Bytes) : Option Event :=
  match decode input with
  | none => none
  | some packet =>
    if packet.type ≠ .event ∨ packet.payload.length < commonPayloadSize then none
    else
      let bodyLength := byteAt packet.payload 13
      if bodyLength.toNat > maxBodySize ∨ packet.payload.length ≠ commonPayloadSize + bodyLength.toNat then none
      else
        let decoded : Event :=
          { source := packet.source, destination := packet.destination, sequence := packet.sequence
            family := packet.opcode
            epoch := readUint32Le packet.payload 0, id := readUint32Le packet.payload 4
            flags := byteAt packet.payload 8
            lifetimeBudgetSeconds := readUint32Le packet.payload 9
            bodyLength
            body := bodyOf ((packet.payload.drop commonPayloadSize).take bodyLength.toNat) }
        if isValidEvent decoded then some decoded else none

def isCorrelatableFamily (family : UInt8) : Bool :=
  opcodeApplicationMin ≤ family && family ≤ opcodeApplicationMax

def isValidAdmissionResponse (response : AdmissionResponse) : Bool :=
  hasValidEndpoints response.source response.destination && isCorrelatableFamily response.family &&
    response.epoch != 0 && response.id != 0

def admissionPacket (response : AdmissionResponse) : Packet where
  type := .ack
  source := response.source
  destination := response.destination
  sequence := response.sequence
  opcode := response.family
  payload := [response.status.toByte] ++ writeUint32Le response.epoch ++ writeUint32Le response.id

def encodeAdmissionResponse (response : AdmissionResponse) (outputCapacity : ℕ) : Option Bytes :=
  if isValidAdmissionResponse response then encode (admissionPacket response) outputCapacity else none

def decodeAdmissionResponse (input : Bytes) : Option AdmissionResponse :=
  match decode input with
  | none => none
  | some packet =>
    if packet.type ≠ .ack ∨ packet.payload.length ≠ admissionPayloadSize then none
    else
      match AdmissionStatus.ofByte? (byteAt packet.payload 0) with
      | none => none
      | some status =>
        let decoded : AdmissionResponse :=
          { source := packet.source, destination := packet.destination, sequence := packet.sequence
            family := packet.opcode, status
            epoch := readUint32Le packet.payload 1, id := readUint32Le packet.payload 5 }
        if isValidAdmissionResponse decoded then some decoded else none

def makeAdmissionResponse (event : Event) (status : AdmissionStatus) : AdmissionResponse where
  source := event.destination
  destination := event.source
  sequence := event.sequence
  family := event.family
  status := status
  epoch := event.epoch
  id := event.id

def matchesEvent (response : AdmissionResponse) (event : Event) : Bool :=
  isValidAdmissionResponse response && response.source == event.destination &&
    response.destination == event.source && response.sequence == event.sequence &&
    response.family == event.family && response.epoch == event.epoch && response.id == event.id

/-! ### What is encoded is decoded again -/

/-- The fields of an EVENT payload, read where they were written. -/
structure CarriesEvent (payload : Bytes) (event : Event) : Prop where
  length : payload.length = commonPayloadSize + event.bodyLength.toNat
  epoch : readUint32Le payload 0 = event.epoch
  id : readUint32Le payload 4 = event.id
  flags : byteAt payload 8 = event.flags
  lifetime : readUint32Le payload 9 = event.lifetimeBudgetSeconds
  bodyLength : byteAt payload 13 = event.bodyLength
  body : bodyOf ((payload.drop commonPayloadSize).take event.bodyLength.toNat) = event.body

theorem carriesEvent_eventPacket {event : Event} (hlen : event.bodyLength.toNat ≤ maxBodySize)
    (hbody : bodyOf (event.body.toList.take event.bodyLength.toNat) = event.body) :
    CarriesEvent (eventPacket event).payload event := by
  have h12 : event.bodyLength.toNat ≤ 12 := hlen
  set tail := event.body.toList.take event.bodyLength.toNat with htail
  have htaillen : tail.length = event.bodyLength.toNat := by
    rw [htail, List.length_take, Vector.length_toList]
    omega
  have hp : (eventPacket event).payload = writeUint32Le event.epoch ++ (writeUint32Le event.id ++ ([event.flags] ++
      (writeUint32Le event.lifetimeBudgetSeconds ++ ([event.bodyLength] ++ tail)))) := by
    simp only [eventPacket, List.append_assoc, htail]
  have hread : ∀ (p : Bytes) (n : ℕ) (value : UInt32) (q : Bytes), p.length = n →
      readUint32Le (p ++ (writeUint32Le value ++ q)) n = value := fun p n value q h => readUint32Le_write h value q
  rw [hp]
  refine ⟨?_, ?_, ?_, rfl, ?_, rfl, ?_⟩
  · simp only [List.length_append, length_writeUint32Le, List.length_singleton, htaillen, commonPayloadSize]
    omega
  · exact hread [] 0 _ _ rfl
  · exact hread (writeUint32Le event.epoch) 4 _ _ rfl
  · exact hread (writeUint32Le event.epoch ++ (writeUint32Le event.id ++ [event.flags])) 9 _ _ rfl
  · change bodyOf (tail.take event.bodyLength.toNat) = event.body
    rw [List.take_of_length_le (Nat.le_of_eq htaillen), hbody]

/-- The fields of a valid Event. -/
theorem isValidEvent_iff {event : Event} : isValidEvent event = true ↔
    hasValidEndpoints event.source event.destination = true ∧ event.epoch ≠ 0 ∧ event.id ≠ 0 ∧
      isValidContent event.family event.flags event.bodyLength event.lifetimeBudgetSeconds event.body = true := by
  simp [isValidEvent, and_assoc]

theorem bodyLength_of_valid {event : Event} (h : isValidEvent event = true) :
    event.bodyLength.toNat ≤ maxBodySize := by
  have := (isValidEvent_iff.1 h).2.2.2
  simp only [isValidContent, Bool.and_eq_true, decide_eq_true_eq] at this
  exact this.1.1.2

theorem family_of_valid {event : Event} (h : isValidEvent event = true) : isRegisteredFamily event.family = true := by
  have := (isValidEvent_iff.1 h).2.2.2
  simp only [isValidContent, Bool.and_eq_true] at this
  exact this.1.2

theorem isCorrelatableFamily_of_registered {family : UInt8} (h : isRegisteredFamily family = true) :
    isCorrelatableFamily family = true := by
  simp only [isRegisteredFamily, Bool.or_eq_true, beq_iff_eq] at h
  rcases h with (rfl | rfl) | rfl <;> decide

/-- The packet of an Event that encodes. -/
theorem packet_of_encodeEvent {event : Event} {capacity : ℕ} {bytes : Bytes}
    (h : encodeEvent event capacity = some bytes) :
    isValidEvent event = true ∧ decode bytes = some (eventPacket event) := by
  unfold encodeEvent at h
  split at h
  · rename_i hv
    exact ⟨hv, decode_encode h⟩
  · cases h

/-- **An EVENT packet is decoded to the Event it was made of.** -/
theorem decodeEvent_encodeEvent {event : Event} {capacity : ℕ} {bytes : Bytes}
    (h : encodeEvent event capacity = some bytes)
    (hbody : bodyOf (event.body.toList.take event.bodyLength.toNat) = event.body) :
    decodeEvent bytes = some event := by
  obtain ⟨hv, hdec⟩ := packet_of_encodeEvent h
  have hlen := bodyLength_of_valid hv
  obtain ⟨hl, he, hi, hf, hlt, hb, hbd⟩ := carriesEvent_eventPacket hlen hbody
  have hshort : ¬ (eventPacket event).payload.length < commonPayloadSize := by omega
  unfold decodeEvent
  simp only [hdec, he, hi, hf, hlt, hb, hbd]
  rw [if_neg (by simpa [eventPacket] using hshort), if_neg]
  · exact if_pos hv
  · rintro (hgt | hne)
    · omega
    · exact hne hl

/-- A body that is filled from few bytes is zero past them. -/
theorem zeroTail_bodyOf {bytes : Bytes} {bodyLength : UInt8} (h : bytes.length ≤ bodyLength.toNat) :
    zeroTail (bodyOf bytes) bodyLength = true := by
  rw [zeroTail, List.all_eq_true]
  intro x hx
  obtain ⟨i, hi, rfl⟩ := List.mem_drop_iff_getElem.1 hx
  have hout : bytes[bodyLength.toNat + i]? = none := List.getElem?_eq_none (by omega)
  simp [bodyOf, byteAt, hout]

/-- The body of a decoded Event is zero past its length. -/
theorem zeroTail_of_decodeEvent {bytes : Bytes} {event : Event} (h : decodeEvent bytes = some event) :
    zeroTail event.body event.bodyLength = true := by
  unfold decodeEvent at h
  split at h
  · cases h
  split at h
  · cases h
  dsimp only at h
  split at h
  · cases h
  split at h
  · cases h
    exact zeroTail_bodyOf (List.length_take_le _ _)
  · cases h

theorem AdmissionStatus.ofByte?_toByte (status : AdmissionStatus) :
    AdmissionStatus.ofByte? status.toByte = some status := by
  cases status <;> rfl

/-- An admission response is decoded to itself. -/
theorem decodeAdmissionResponse_encode {response : AdmissionResponse} {capacity : ℕ} {bytes : Bytes}
    (h : encodeAdmissionResponse response capacity = some bytes) :
    decodeAdmissionResponse bytes = some response := by
  unfold encodeAdmissionResponse at h
  split at h
  · rename_i hv
    have hstatus : byteAt (admissionPacket response).payload 0 = response.status.toByte := rfl
    have hepoch : readUint32Le (admissionPacket response).payload 1 = response.epoch :=
      readUint32Le_write (p := [response.status.toByte]) rfl response.epoch (writeUint32Le response.id)
    have hid : readUint32Le (admissionPacket response).payload 5 = response.id :=
      readUint32Le_write (p := [response.status.toByte] ++ writeUint32Le response.epoch) rfl response.id []
    unfold decodeAdmissionResponse
    simp only [decode_encode h, hstatus, hepoch, hid, AdmissionStatus.ofByte?_toByte]
    rw [if_neg (by simp [admissionPacket, admissionPayloadSize])]
    exact if_pos hv
  · cases h

end Redline.Wire
