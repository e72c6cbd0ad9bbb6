import Redline.Wire.Event

/-!
# The four stored record formats

`event_records.h`: Node identity metadata (28 bytes), Hub ordinal metadata (24 bytes), Node Event
records and Hub ledger records (56 bytes each).  Every format is a magic, a schema version, its own
length, a generation, the fields in little-endian order, and a CRC-32/ISO-HDLC of what stands before
it.  The encoders are written as the concatenation of the fields in the order of their offsets.
-/

namespace Redline.Records

open Redline.Wire

def nodeMetadataSize : ℕ := 28
def hubMetadataSize : ℕ := 24
def nodeRecordSize : ℕ := 56
def hubRecordSize : ℕ := 56
def schemaVersion : UInt16 := 1
def maxAttempts : UInt8 := 5

inductive CodecResult
  | wrongLength | badMagic | badSchema | badRecordLength | badCrc | nonzeroReserved | invalidState
  | invalidMetadata | invalidEvent | invalidAttempts | invalidLifetime | nonzeroBodyTail
  deriving DecidableEq

inductive NodeState
  | free | queued | failed | expired
  deriving DecidableEq

inductive HubState
  | empty | active | consumed
  deriving DecidableEq

structure NodeMetadata where
  generation : UInt32
  custodySourceDeviceId : UInt8
  eventEpoch : UInt32
  nextUnreservedEventId : UInt32
  deriving DecidableEq

structure HubMetadata where
  generation : UInt32
  nextUnreservedAdmissionOrdinal : UInt32
  deriving DecidableEq

structure NodeRecord where
  generation : UInt32
  state : NodeState
  flags : UInt8
  family : UInt8
  bodyLength : UInt8
  eventEpoch : UInt32
  eventId : UInt32
  lifetimeBudgetSeconds : UInt32
  remainingActiveSeconds : UInt32
  attemptsUsed : UInt8
  body : Body
  deriving DecidableEq

structure HubRecord where
  generation : UInt32
  state : HubState
  sourceDeviceId : UInt8
  family : UInt8
  flags : UInt8
  bodyLength : UInt8
  eventEpoch : UInt32
  eventId : UInt32
  lifetimeBudgetSeconds : UInt32
  admissionOrdinal : UInt32
  body : Body
  deriving DecidableEq

instance : Inhabited NodeMetadata := ⟨⟨0, 0, 0, 0⟩⟩
instance : Inhabited HubMetadata := ⟨⟨0, 0⟩⟩
instance : Inhabited NodeRecord := ⟨⟨0, .free, 0, 0, 0, 0, 0, 0, 0, 0, emptyBody⟩⟩
instance : Inhabited HubRecord := ⟨⟨0, .empty, 0, 0, 0, 0, 0, 0, 0, 0, emptyBody⟩⟩

def NodeState.toByte : NodeState → UInt8
  | .free => 0x00
  | .queued => 0x01
  | .failed => 0x02
  | .expired => 0x03

/-- The state a byte stands for; `validNodeState` of the source. -/
def NodeState.ofByte? (value : UInt8) : Option NodeState :=
  match value with
  | 0x00 => some .free
  | 0x01 => some .queued
  | 0x02 => some .failed
  | 0x03 => some .expired
  | _ => none

def HubState.toByte : HubState → UInt8
  | .empty => 0x00
  | .active => 0x01
  | .consumed => 0x02

/-- The state a byte stands for; `validHubState` of the source. -/
def HubState.ofByte? (value : UInt8) : Option HubState :=
  match value with
  | 0x00 => some .empty
  | 0x01 => some .active
  | 0x02 => some .consumed
  | _ => none

/-! ### CRC and envelope -/

/-- One bit of the reflected CRC. -/
def crcBit (value : UInt32) : UInt32 :=
  if value &&& 1 ≠ 0 then (value >>> 1) ^^^ 0xEDB88320 else value >>> 1

/-- One byte of the CRC: eight bits. -/
def crcByte (value : UInt32) (byte : UInt8) : UInt32 :=
  (List.range 8).foldl (fun v _ => crcBit v) (value ^^^ byte.toUInt32)

def crc32IsoHdlc (input : Bytes) : UInt32 := input.foldl crcByte 0xFFFFFFFF ^^^ 0xFFFFFFFF

/-- `length` zero bytes from `offset` on. -/
def allZero (input : Bytes) (offset length : ℕ) : Bool :=
  ((input.drop offset).take length).all (· == 0)

/-- The four magic bytes of a format. -/
structure Magic where
  b0 : UInt8
  b1 : UInt8
  b2 : UInt8
  b3 : UInt8

def magicEID1 : Magic := ⟨0x45, 0x49, 0x44, 0x31⟩
def magicHAO1 : Magic := ⟨0x48, 0x41, 0x4F, 0x31⟩
def magicEVT1 : Magic := ⟨0x45, 0x56, 0x54, 0x31⟩
def magicHEV1 : Magic := ⟨0x48, 0x45, 0x56, 0x31⟩

def sameMagic (input : Bytes) (magic : Magic) : Bool :=
  byteAt input 0 == magic.b0 && byteAt input 1 == magic.b1 && byteAt input 2 == magic.b2 &&
    byteAt input 3 == magic.b3

/-- The checks on magic, length, CRC and schema, in the order of the source. -/
def validateEnvelope (input : Bytes) (expectedLength : ℕ) (magic : Magic) : Except CodecResult Unit :=
  if input.length ≠ expectedLength then .error .wrongLength
  else if !sameMagic input magic then .error .badMagic
  else if (readUint16Le input 6).toNat ≠ expectedLength then .error .badRecordLength
  else if readUint32Le input (expectedLength - 4) ≠ crc32IsoHdlc (input.take (expectedLength - 4)) then
    .error .badCrc
  else if readUint16Le input 4 ≠ schemaVersion then .error .badSchema
  else .ok ()

/-- The first twelve bytes of every format. -/
def encodeEnvelope (length : ℕ) (magic : Magic) (generation : UInt32) : Bytes :=
  [magic.b0, magic.b1, magic.b2, magic.b3] ++ writeUint16Le schemaVersion ++
    writeUint16Le length.toUInt16 ++ writeUint32Le generation

def finishCrc (output : Bytes) : Bytes := output ++ writeUint32Le (crc32IsoHdlc output)

/-! ### Metadata -/

def encodeNodeMetadata (value : NodeMetadata) : Except CodecResult Bytes :=
  if value.custodySourceDeviceId = 0 || value.eventEpoch = 0 || value.nextUnreservedEventId = 0 then
    .error .invalidMetadata
  else
    .ok (finishCrc (encodeEnvelope nodeMetadataSize magicEID1 value.generation ++
      ([value.custodySourceDeviceId, 0, 0, 0] ++ writeUint32Le value.eventEpoch ++
        writeUint32Le value.nextUnreservedEventId)))

def decodeNodeMetadata (input : Bytes) : Except CodecResult NodeMetadata :=
  match validateEnvelope input nodeMetadataSize magicEID1 with
  | .error e => .error e
  | .ok () =>
    if !allZero input 13 3 then .error .nonzeroReserved
    else
      let decoded : NodeMetadata :=
        { generation := readUint32Le input 8, custodySourceDeviceId := byteAt input 12
          eventEpoch := readUint32Le input 16, nextUnreservedEventId := readUint32Le input 20 }
      if decoded.custodySourceDeviceId = 0 || decoded.eventEpoch = 0 ||
          decoded.nextUnreservedEventId = 0 then .error .invalidMetadata
      else .ok decoded

def encodeHubMetadata (value : HubMetadata) : Except CodecResult Bytes :=
  if value.nextUnreservedAdmissionOrdinal = 0 then .error .invalidMetadata
  else
    .ok (finishCrc (encodeEnvelope hubMetadataSize magicHAO1 value.generation ++
      (writeUint32Le value.nextUnreservedAdmissionOrdinal ++ [0, 0, 0, 0])))

def decodeHubMetadata (input : Bytes) : Except CodecResult HubMetadata :=
  match validateEnvelope input hubMetadataSize magicHAO1 with
  | .error e => .error e
  | .ok () =>
    if !allZero input 16 4 then .error .nonzeroReserved
    else
      let decoded : HubMetadata :=
        { generation := readUint32Le input 8, nextUnreservedAdmissionOrdinal := readUint32Le input 12 }
      if decoded.nextUnreservedAdmissionOrdinal = 0 then .error .invalidMetadata
      else .ok decoded

/-! ### Records -/

def validCanonicalEvent (source family flags bodyLength : UInt8) (epoch id lifetime : UInt32)
    (body : Body) : Bool :=
  source != 0 && epoch != 0 && id != 0 && isValidContent family flags bodyLength lifetime body

def canonicalFree (value : NodeRecord) : Bool :=
  value.flags == 0 && value.family == 0 && value.bodyLength == 0 && value.eventEpoch == 0 &&
    value.eventId == 0 && value.lifetimeBudgetSeconds == 0 && value.remainingActiveSeconds == 0 &&
    value.attemptsUsed == 0 && value.body.toList.all (· == 0)

def validateNodeRecord (value : NodeRecord) : Except CodecResult Unit :=
  if value.state = .free then
    if canonicalFree value then .ok () else .error .invalidEvent
  else if value.attemptsUsed > maxAttempts then .error .invalidAttempts
  else if value.remainingActiveSeconds > value.lifetimeBudgetSeconds then .error .invalidLifetime
  else if !validCanonicalEvent 1 value.family value.flags value.bodyLength value.eventEpoch
      value.eventId value.lifetimeBudgetSeconds value.body then .error .invalidEvent
  else if !zeroTail value.body value.bodyLength then .error .nonzeroBodyTail
  else .ok ()

/-- The twelve body bytes of a record: the body up to its length, then zeros. -/
def bodyField (body : Body) (bodyLength : UInt8) : Bytes :=
  ([0, 1, 2, 3, 4, 5, 6, 7, 8, 9, 10, 11] : List (Fin 12)).map fun i =>
    if i.val < bodyLength.toNat then body[i] else 0

/-- The twelve bytes of a body. -/
def bodyBytes (body : Body) : Bytes :=
  ([0, 1, 2, 3, 4, 5, 6, 7, 8, 9, 10, 11] : List (Fin 12)).map fun i => body[i]

def encodeNodeRecord (value : NodeRecord) : Except CodecResult Bytes :=
  match validateNodeRecord value with
  | .error e => .error e
  | .ok () =>
    .ok (finishCrc (encodeEnvelope nodeRecordSize magicEVT1 value.generation ++
      ([value.state.toByte, value.flags, value.family, value.bodyLength] ++
        writeUint32Le value.eventEpoch ++ writeUint32Le value.eventId ++
        writeUint32Le value.lifetimeBudgetSeconds ++ writeUint32Le value.remainingActiveSeconds ++
        [value.attemptsUsed, 0, 0, 0] ++ bodyField value.body value.bodyLength ++ [0, 0, 0, 0])))

def decodeNodeRecord (input : Bytes) : Except CodecResult NodeRecord :=
  match validateEnvelope input nodeRecordSize magicEVT1 with
  | .error e => .error e
  | .ok () =>
    if !allZero input 33 3 || !allZero input 48 4 then .error .nonzeroReserved
    else
      let bodyLength := byteAt input 15
      if bodyLength.toNat > maxBodySize then .error .invalidEvent
      else if !allZero input (36 + bodyLength.toNat) (maxBodySize - bodyLength.toNat) then
        .error .nonzeroBodyTail
      else
        match NodeState.ofByte? (byteAt input 12) with
        | none => .error .invalidState
        | some state =>
          let decoded : NodeRecord :=
            { generation := readUint32Le input 8, state, flags := byteAt input 13
              family := byteAt input 14, bodyLength, eventEpoch := readUint32Le input 16
              eventId := readUint32Le input 20, lifetimeBudgetSeconds := readUint32Le input 24
              remainingActiveSeconds := readUint32Le input 28, attemptsUsed := byteAt input 32
              body := bodyOf (input.drop 36) }
          match validateNodeRecord decoded with
          | .error e => .error e
          | .ok () => .ok decoded

def canonicalEmpty (value : HubRecord) : Bool :=
  value.sourceDeviceId == 0 && value.family == 0 && value.flags == 0 && value.bodyLength == 0 &&
    value.eventEpoch == 0 && value.eventId == 0 && value.lifetimeBudgetSeconds == 0 &&
    value.admissionOrdinal == 0 && value.body.toList.all (· == 0)

def validateHubRecord (value : HubRecord) : Except CodecResult Unit :=
  if value.state = .empty then
    if canonicalEmpty value then .ok () else .error .invalidEvent
  else if value.admissionOrdinal = 0 then .error .invalidEvent
  else if !validCanonicalEvent value.sourceDeviceId value.family value.flags value.bodyLength
      value.eventEpoch value.eventId value.lifetimeBudgetSeconds value.body then .error .invalidEvent
  else if !zeroTail value.body value.bodyLength then .error .nonzeroBodyTail
  else .ok ()

def encodeHubRecord (value : HubRecord) : Except CodecResult Bytes :=
  match validateHubRecord value with
  | .error e => .error e
  | .ok () =>
    .ok (finishCrc (encodeEnvelope hubRecordSize magicHEV1 value.generation ++
      ([value.state.toByte, value.sourceDeviceId, value.family, value.flags] ++
        [value.bodyLength, 0, 0, 0] ++
        writeUint32Le value.eventEpoch ++ writeUint32Le value.eventId ++
        writeUint32Le value.lifetimeBudgetSeconds ++ writeUint32Le value.admissionOrdinal ++
        bodyField value.body value.bodyLength ++ [0, 0, 0, 0])))

def decodeHubRecord (input : Bytes) : Except CodecResult HubRecord :=
  match validateEnvelope input hubRecordSize magicHEV1 with
  | .error e => .error e
  | .ok () =>
    if !allZero input 17 3 || !allZero input 48 4 then .error .nonzeroReserved
    else
      let bodyLength := byteAt input 16
      if bodyLength.toNat > maxBodySize then .error .invalidEvent
      else if !allZero input (36 + bodyLength.toNat) (maxBodySize - bodyLength.toNat) then
        .error .nonzeroBodyTail
      else
        match HubState.ofByte? (byteAt input 12) with
        | none => .error .invalidState
        | some state =>
          let decoded : HubRecord :=
            { generation := readUint32Le input 8, state, sourceDeviceId := byteAt input 13
              family := byteAt input 14, flags := byteAt input 15, bodyLength
              eventEpoch := readUint32Le input 20, eventId := readUint32Le input 24
              lifetimeBudgetSeconds := readUint32Le input 28
              admissionOrdinal := readUint32Le input 32, body := bodyOf (input.drop 36) }
          match validateHubRecord decoded with
          | .error e => .error e
          | .ok () => .ok decoded

end Redline.Records
