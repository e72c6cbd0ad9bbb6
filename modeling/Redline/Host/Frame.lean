import Redline.Wire.Bytes

/-!
# Frames on the Host link

`host_protocol.h`: a frame is an eight-byte header, at most 128 bytes of payload and a CRC, stuffed by COBS so
that a zero byte occurs only as the delimiter.  `encodeFrame` and `decodeFrame`, with the checks of both in the
order of the source, and `decodeFrame_encodeFrame`: a frame that is encoded is decoded again.
-/

namespace Redline.Host

open Redline.Wire

def versionMajor : UInt8 := 0
def versionMinor01 : UInt8 := 1
def versionMinor02 : UInt8 := 2
def minSupportedMinor : UInt8 := versionMinor01
def maxSupportedMinor : UInt8 := versionMinor02
def flagsNone : UInt8 := 0x00

def maxPayloadSize : ℕ := 128
def decodedHeaderSize : ℕ := 8
def minDecodedFrameSize : ℕ := 10
def maxDecodedFrameSize : ℕ := 138
def maxCobsCandidateSize : ℕ := 139
def maxEncodedFrameSize : ℕ := 140
def frameDelimiter : UInt8 := 0x00

namespace MessageType
def helloRequest : UInt8 := 0x01
def helloResponse : UInt8 := 0x02
def operationRequest : UInt8 := 0x10
def operationResponse : UInt8 := 0x11
def protocolError : UInt8 := 0x7F
end MessageType

def isSupportedVersion (major minor : UInt8) : Bool :=
  major == versionMajor && minSupportedMinor ≤ minor && minor ≤ maxSupportedMinor

def isKnownMessageType (type : UInt8) : Bool :=
  type == MessageType.helloRequest || type == MessageType.helloResponse || type == MessageType.operationRequest ||
    type == MessageType.operationResponse || type == MessageType.protocolError

def hasSupportedFlags (flags : UInt8) : Bool := flags == flagsNone

def isValidRequestId (requestId : UInt16) : Bool := 1 ≤ requestId

/-- A frame; its payload is the bytes of the payload array up to the payload length. -/
structure Frame where
  major : UInt8
  minor : UInt8
  messageType : UInt8
  flags : UInt8
  requestId : UInt16
  payload : Bytes
  deriving DecidableEq

instance : Inhabited Frame := ⟨⟨0, 0, 0, 0, 0, []⟩⟩

inductive EncodeResult
  | payloadTooLarge | unsupportedVersion | unsupportedMessageType | unsupportedFlags | invalidRequestId
  | outputTooSmall | nullArgument
  deriving DecidableEq

inductive DecodeResult
  | ok | emptyFrame | encodedFrameTooLarge | missingDelimiter | malformedCobs | decodedLengthInvalid
  | payloadTooLarge | lengthMismatch | crcMismatch | unsupportedMessageType | unsupportedFlags | invalidRequestId
  | unsupportedMajor | unsupportedMinor
  deriving DecidableEq

inductive CobsResult
  | inputTooLarge | outputTooSmall | malformedInput
  deriving DecidableEq

/-! ### The checksum -/

def crcBit (crc : UInt16) : UInt16 :=
  if crc &&& 0x8000 ≠ 0 then (crc <<< 1) ^^^ 0x1021 else crc <<< 1

def crcByte (crc : UInt16) (byte : UInt8) : UInt16 :=
  (List.range 8).foldl (fun crc _ => crcBit crc) (crc ^^^ byte.toUInt16 <<< 8)

def crc16CcittFalse (input : Bytes) : UInt16 := input.foldl crcByte 0xFFFF

/-! ### COBS -/

/-- The loop of the encoder.  `done` is what has been written before the code byte of the open block, and
`block` the bytes after it: the code byte goes in front of them when the block is closed. -/
def cobsEncodeLoop (outputCapacity : ℕ) : Bytes → Bytes → Bytes → Except CobsResult Bytes
  | [], done, block =>
    if outputCapacity ≤ done.length then .error .outputTooSmall
    else .ok (done ++ (block.length + 1).toUInt8 :: block)
  | value :: input, done, block =>
    if value = 0 then
      if outputCapacity ≤ done.length then .error .outputTooSmall
      else if outputCapacity ≤ done.length + 1 + block.length then .error .outputTooSmall
      else cobsEncodeLoop outputCapacity input (done ++ (block.length + 1).toUInt8 :: block) []
    else if outputCapacity ≤ done.length + 1 + block.length then .error .outputTooSmall
    else if block.length + 2 = 0xFF then
      if outputCapacity ≤ done.length + 2 + block.length then .error .outputTooSmall
      else cobsEncodeLoop outputCapacity input (done ++ 0xFF :: (block ++ [value])) []
    else cobsEncodeLoop outputCapacity input done (block ++ [value])

def cobsEncode (input : Bytes) (outputCapacity : ℕ) : Except CobsResult Bytes :=
  if maxDecodedFrameSize < input.length then .error .inputTooLarge
  else if outputCapacity = 0 then .error .outputTooSmall
  else cobsEncodeLoop outputCapacity input [] []

/-- The loop of the decoder, one block a round; the input gets shorter in each, so `rounds` of them are enough
for an input of at most that length. -/
def cobsDecodeLoop (outputCapacity : ℕ) : ℕ → Bytes → Bytes → Except CobsResult Bytes
  | _, [], output => .ok output
  | 0, _ :: _, _ => .error .malformedInput
  | rounds + 1, code :: input, output =>
    if code = 0 then .error .malformedInput
    else
      let blockLength := code.toNat - 1
      if input.length < blockLength then .error .malformedInput
      else if outputCapacity - output.length < blockLength then .error .outputTooSmall
      else
        let block := input.take blockLength
        let rest := input.drop blockLength
        if block.any (· == 0) then .error .malformedInput
        else if code ≠ 0xFF ∧ rest ≠ [] then
          if outputCapacity ≤ output.length + block.length then .error .outputTooSmall
          else cobsDecodeLoop outputCapacity rounds rest (output ++ block ++ [0])
        else cobsDecodeLoop outputCapacity rounds rest (output ++ block)

def cobsDecode (input : Bytes) (outputCapacity : ℕ) : Except CobsResult Bytes :=
  if input = [] then .error .malformedInput
  else if maxCobsCandidateSize < input.length then .error .inputTooLarge
  else cobsDecodeLoop outputCapacity input.length input []

/-! ### Frames -/

def isValidEnvelopeRequestId (messageType : UInt8) (requestId : UInt16) : Bool :=
  isValidRequestId requestId || (messageType == MessageType.protocolError && requestId == 0)

def frameHeader (frame : Frame) : Bytes :=
  [frame.major, frame.minor, frame.messageType, frame.flags] ++ writeUint16Le frame.requestId ++
    writeUint16Le frame.payload.length.toUInt16

/-- The frame before stuffing. -/
def frameBytes (frame : Frame) : Bytes :=
  let checked := frameHeader frame ++ frame.payload
  checked ++ writeUint16Le (crc16CcittFalse checked)

def encodeFrame (frame : Frame) (outputCapacity : ℕ) : Except EncodeResult Bytes :=
  if maxPayloadSize < frame.payload.length then .error .payloadTooLarge
  else if !isSupportedVersion frame.major frame.minor then .error .unsupportedVersion
  else if !isKnownMessageType frame.messageType then .error .unsupportedMessageType
  else if !hasSupportedFlags frame.flags then .error .unsupportedFlags
  else if !isValidEnvelopeRequestId frame.messageType frame.requestId then .error .invalidRequestId
  else if outputCapacity = 0 then .error .outputTooSmall
  else
    match cobsEncode (frameBytes frame) (outputCapacity - 1) with
    | .error .outputTooSmall => .error .outputTooSmall
    | .error _ => .error .nullArgument
    | .ok candidate =>
      if outputCapacity ≤ candidate.length then .error .outputTooSmall else .ok (candidate ++ [frameDelimiter])

/-- The checks on a frame whose bytes are intact. -/
def envelopeResult (frame : Frame) : DecodeResult :=
  if frame.major ≠ versionMajor then .unsupportedMajor
  else if frame.minor < minSupportedMinor ∨ maxSupportedMinor < frame.minor then .unsupportedMinor
  else if !isKnownMessageType frame.messageType then .unsupportedMessageType
  else if !hasSupportedFlags frame.flags then .unsupportedFlags
  else if !isValidEnvelopeRequestId frame.messageType frame.requestId then .invalidRequestId
  else .ok

/-- The result, and the frame: it is handed out also when one of the last checks refuses it. -/
def decodeFrame (input : Bytes) : DecodeResult × Frame :=
  if input = [] then (.emptyFrame, default)
  else if maxEncodedFrameSize < input.length then (.encodedFrameTooLarge, default)
  else if byteAt input (input.length - 1) ≠ frameDelimiter then (.missingDelimiter, default)
  else if input.length - 1 = 0 then (.emptyFrame, default)
  else
    match cobsDecode (input.take (input.length - 1)) maxDecodedFrameSize with
    | .error .inputTooLarge => (.encodedFrameTooLarge, default)
    | .error _ => (.malformedCobs, default)
    | .ok decoded =>
      if decoded.length < minDecodedFrameSize ∨ maxDecodedFrameSize < decoded.length then
        (.decodedLengthInvalid, default)
      else
        let payloadLength := (readUint16Le decoded 6).toNat
        if maxPayloadSize < payloadLength then (.payloadTooLarge, default)
        else if decoded.length ≠ minDecodedFrameSize + payloadLength then (.lengthMismatch, default)
        else
          let crcIndex := decodedHeaderSize + payloadLength
          if crc16CcittFalse (decoded.take crcIndex) ≠ readUint16Le decoded crcIndex then (.crcMismatch, default)
          else
            let frame : Frame :=
              { major := byteAt decoded 0, minor := byteAt decoded 1, messageType := byteAt decoded 2
                flags := byteAt decoded 3, requestId := readUint16Le decoded 4
                payload := (decoded.drop decodedHeaderSize).take payloadLength }
            (envelopeResult frame, frame)

/-! ### The round trip -/

/-- The blocks of a stuffed string, the first of which begins with `block`. -/
def stuffed : Bytes → Bytes → Bytes
  | block, [] => (block.length + 1).toUInt8 :: block
  | block, value :: input =>
    if value = 0 then (block.length + 1).toUInt8 :: (block ++ stuffed [] input)
    else stuffed (block ++ [value]) input

theorem length_stuffed (block input : Bytes) : (stuffed block input).length = block.length + input.length + 1 := by
  induction input generalizing block with
  | nil => rfl
  | cons value input ih =>
    unfold stuffed
    split
    · simp only [List.length_cons, List.length_append, ih, List.length_nil]
      omega
    · rw [ih]
      simp only [List.length_append, List.length_cons, List.length_nil]
      omega

theorem length_stuffed_nil (input : Bytes) : (stuffed [] input).length = input.length + 1 := by
  rw [length_stuffed, List.length_nil, Nat.zero_add]

theorem stuffed_ne_nil (input : Bytes) : stuffed [] input ≠ [] := by
  intro h
  have := length_stuffed_nil input
  rw [h] at this
  cases this

/-- Too few bytes for a block of 254: the encoder writes the blocks, if there is room for them. -/
theorem cobsEncodeLoop_eq {outputCapacity : ℕ} {input done block : Bytes} (hshort : block.length + input.length < 0xFD)
    (hroom : done.length + block.length + input.length + 1 ≤ outputCapacity) :
    cobsEncodeLoop outputCapacity input done block = .ok (done ++ stuffed block input) := by
  induction input generalizing done block with
  | nil =>
    unfold cobsEncodeLoop
    rw [if_neg (by simp only [List.length_nil] at hroom; omega)]
    rfl
  | cons value input ih =>
    simp only [List.length_cons] at hshort hroom
    unfold cobsEncodeLoop stuffed
    by_cases hz : value = 0
    · rw [if_pos hz, if_neg (by omega), if_neg (by omega), if_pos hz, ih]
      · simp
      · simp only [List.length_nil]
        omega
      · simp only [List.length_append, List.length_cons, List.length_nil]
        omega
    · rw [if_neg hz, if_neg (by omega), if_neg (by omega), if_neg hz, ih]
      · simp only [List.length_append, List.length_cons, List.length_nil]
        omega
      · simp only [List.length_append, List.length_cons, List.length_nil]
        omega

/-- One block of the decoder. -/
theorem cobsDecodeLoop_block {outputCapacity rounds : ℕ} {block rest output : Bytes} (hz : ∀ b ∈ block, b ≠ 0)
    (hshort : block.length < 0xFD) (hroom : output.length + block.length ≤ outputCapacity) :
    cobsDecodeLoop outputCapacity (rounds + 1) ((block.length + 1).toUInt8 :: (block ++ rest)) output =
      if rest = [] then .ok (output ++ block)
      else if outputCapacity ≤ output.length + block.length then .error .outputTooSmall
      else cobsDecodeLoop outputCapacity rounds rest (output ++ block ++ [0]) := by
  have hcode : ((block.length + 1).toUInt8).toNat = block.length + 1 := by
    simp only [Nat.toUInt8_eq, UInt8.toNat_ofNat']
    omega
  have hne : (block.length + 1).toUInt8 ≠ 0 := by
    intro h
    rw [h] at hcode
    simp at hcode
  have hfull : (block.length + 1).toUInt8 ≠ 0xFF := by
    intro h
    rw [h] at hcode
    simp at hcode
    omega
  have hany : (block.any fun b => b == 0) = false := by
    simpa using hz
  rw [cobsDecodeLoop, if_neg hne]
  simp only [hcode, Nat.add_sub_cancel, List.take_left', List.drop_left', List.length_append, hany]
  rw [if_neg (by omega), if_neg (by omega)]
  simp only [Bool.false_eq_true, if_false, ne_eq, hfull, not_false_eq_true, true_and]
  by_cases hr : rest = []
  · subst hr
    cases rounds <;> simp [cobsDecodeLoop]
  · simp only [hr, not_false_eq_true, if_true, if_false]

theorem cobsDecodeLoop_stuffed {outputCapacity rounds : ℕ} {input block output : Bytes} (hz : ∀ b ∈ block, b ≠ 0)
    (hshort : block.length + input.length < 0xFD) (hroom : output.length + block.length + input.length ≤ outputCapacity)
    (hrounds : block.length + input.length < rounds) :
    cobsDecodeLoop outputCapacity rounds (stuffed block input) output = .ok (output ++ block ++ input) := by
  induction input generalizing block output rounds with
  | nil =>
    obtain ⟨rounds, rfl⟩ : ∃ n, rounds = n + 1 := ⟨rounds - 1, by omega⟩
    have hblock : cobsDecodeLoop outputCapacity (rounds + 1) ((block.length + 1).toUInt8 :: (block ++ [])) output = _ :=
      cobsDecodeLoop_block hz (by simpa using hshort) (by simpa using hroom)
    rw [List.append_nil, if_pos rfl] at hblock
    rw [stuffed, hblock, List.append_nil]
  | cons value input ih =>
    simp only [List.length_cons] at hshort hroom hrounds
    unfold stuffed
    by_cases hv : value = 0
    · obtain ⟨rounds, rfl⟩ : ∃ n, rounds = n + 1 := ⟨rounds - 1, by omega⟩
      rw [if_pos hv, cobsDecodeLoop_block hz (by omega) (by omega), if_neg (stuffed_ne_nil input), if_neg (by omega), ih]
      · simp [hv]
      · simp
      · simp only [List.length_nil]
        omega
      · simp only [List.length_append, List.length_cons, List.length_nil]
        omega
      · simp only [List.length_nil]
        omega
    · rw [if_neg hv, ih]
      · simp
      · intro b hb
        rcases List.mem_append.1 hb with hb | hb
        · exact hz b hb
        · rw [List.mem_singleton.1 hb]
          exact hv
      · simp only [List.length_append, List.length_cons, List.length_nil]
        omega
      · simp only [List.length_append, List.length_cons, List.length_nil]
        omega
      · simp only [List.length_append, List.length_cons, List.length_nil]
        omega

theorem cobsEncode_eq {input : Bytes} {outputCapacity : ℕ} (h : input.length ≤ maxDecodedFrameSize)
    (hroom : input.length < outputCapacity) : cobsEncode input outputCapacity = .ok (stuffed [] input) := by
  have hlen : input.length ≤ 138 := h
  unfold cobsEncode
  rw [if_neg (Nat.not_lt.2 h), if_neg (by omega)]
  exact cobsEncodeLoop_eq (by rw [List.length_nil]; omega) (by rw [List.length_nil]; omega)

theorem cobsDecode_stuffed {input : Bytes} {outputCapacity : ℕ} (h : input.length ≤ maxDecodedFrameSize)
    (hroom : input.length ≤ outputCapacity) : cobsDecode (stuffed [] input) outputCapacity = .ok input := by
  have hlen : input.length ≤ 138 := h
  have hl := length_stuffed_nil input
  unfold cobsDecode
  rw [if_neg (stuffed_ne_nil input), if_neg (by rw [hl, maxCobsCandidateSize]; omega), hl]
  exact cobsDecodeLoop_stuffed (by simp) (by rw [List.length_nil]; omega) (by simp only [List.length_nil]; omega)
    (by rw [List.length_nil]; omega)

/-- **COBS round trip**, for the bytes of a frame. -/
theorem cobs_roundtrip {input : Bytes} (h : input.length ≤ maxDecodedFrameSize) :
    ∃ candidate, cobsEncode input maxCobsCandidateSize = .ok candidate ∧ candidate.length = input.length + 1 ∧
      cobsDecode candidate maxDecodedFrameSize = .ok input := by
  exact ⟨stuffed [] input, cobsEncode_eq h (Nat.lt_succ_of_le h), length_stuffed_nil input, cobsDecode_stuffed h h⟩

@[simp] theorem length_frameHeader (frame : Frame) : (frameHeader frame).length = decodedHeaderSize := rfl

theorem length_frameBytes (frame : Frame) :
    (frameBytes frame).length = minDecodedFrameSize + frame.payload.length := by
  simp only [frameBytes, List.length_append, length_frameHeader, length_writeUint16Le, decodedHeaderSize,
    minDecodedFrameSize]
  omega

/-- The frame is acceptable to `encodeFrame`. -/
structure Frame.Sendable (frame : Frame) : Prop where
  short : frame.payload.length ≤ maxPayloadSize
  version : isSupportedVersion frame.major frame.minor = true
  type : isKnownMessageType frame.messageType = true
  flags : hasSupportedFlags frame.flags = true
  requestId : isValidEnvelopeRequestId frame.messageType frame.requestId = true

theorem Frame.Sendable.envelope {frame : Frame} (h : frame.Sendable) : envelopeResult frame = .ok := by
  have hv := h.version
  simp only [isSupportedVersion, Bool.and_eq_true, beq_iff_eq, decide_eq_true_eq] at hv
  obtain ⟨⟨hmajor, hmin⟩, hmax⟩ := hv
  unfold envelopeResult
  rw [if_neg (not_not.2 hmajor), if_neg (by rw [not_or]; exact ⟨UInt8.not_lt.2 hmin, UInt8.not_lt.2 hmax⟩)]
  simp [h.type, h.flags, h.requestId]

/-- **Frame round trip.** -/
theorem decodeFrame_encodeFrame {frame : Frame} (h : frame.Sendable) :
    ∃ encoded, encodeFrame frame maxEncodedFrameSize = .ok encoded ∧ decodeFrame encoded = (.ok, frame) ∧
      encoded.length ≤ maxEncodedFrameSize := by
  have hshort : frame.payload.length ≤ 128 := h.short
  have hlen := length_frameBytes frame
  have hbound : (frameBytes frame).length ≤ maxDecodedFrameSize := by
    rw [hlen, minDecodedFrameSize, maxDecodedFrameSize]
    omega
  obtain ⟨candidate, henc, hcl, hdec⟩ := cobs_roundtrip hbound
  have hcl' : candidate.length = 11 + frame.payload.length := by
    rw [hcl, hlen, minDecodedFrameSize]
    omega
  refine ⟨candidate ++ [frameDelimiter], ?_, ?_, ?_⟩
  · unfold encodeFrame
    rw [if_neg (Nat.not_lt.2 h.short)]
    simp only [h.version, h.type, h.flags, h.requestId, Bool.not_true, Bool.false_eq_true, if_false]
    rw [if_neg (by decide), show maxEncodedFrameSize - 1 = maxCobsCandidateSize from rfl, henc]
    dsimp only
    rw [if_neg (by rw [hcl', maxEncodedFrameSize]; omega)]
  · have hpl : (readUint16Le (frameBytes frame) 6).toNat = frame.payload.length := by
      have hr : readUint16Le (frameBytes frame) 6 = frame.payload.length.toUInt16 := by
        have := readUint16Le_write (p := [frame.major, frame.minor, frame.messageType, frame.flags] ++
          writeUint16Le frame.requestId) (n := 6) rfl frame.payload.length.toUInt16
          (frame.payload ++ writeUint16Le (crc16CcittFalse (frameHeader frame ++ frame.payload)))
        rw [← this]
        simp [frameBytes, frameHeader]
      rw [hr, Nat.toUInt16_eq, UInt16.toNat_ofNat']
      omega
    have hcrc : readUint16Le (frameBytes frame) (decodedHeaderSize + frame.payload.length) =
        crc16CcittFalse (frameHeader frame ++ frame.payload) := by
      have := readUint16Le_write (p := frameHeader frame ++ frame.payload)
        (n := decodedHeaderSize + frame.payload.length) (by simp) (crc16CcittFalse (frameHeader frame ++ frame.payload)) []
      rwa [List.append_nil] at this
    have htake : (frameBytes frame).take (decodedHeaderSize + frame.payload.length) =
        frameHeader frame ++ frame.payload := List.take_left' (by simp)
    have hpayload : ((frameBytes frame).drop decodedHeaderSize).take frame.payload.length = frame.payload := by
      simp only [frameBytes, List.append_assoc]
      rw [List.drop_left' (length_frameHeader frame), List.take_left' rfl]
    have hid : readUint16Le (frameBytes frame) 4 = frame.requestId :=
      uint16_of_bytes frame.requestId
    unfold decodeFrame
    rw [if_neg (by simp), if_neg (by simp only [List.length_append, hcl', List.length_singleton, maxEncodedFrameSize]; omega)]
    simp only [List.length_append, List.length_singleton, Nat.add_sub_cancel]
    rw [if_neg (by simp [byteAt]), if_neg (by rw [hcl']; omega), List.take_left' rfl, hdec]
    dsimp only
    rw [if_neg (by rw [hlen, minDecodedFrameSize, maxDecodedFrameSize]; omega), hpl, if_neg (Nat.not_lt.2 h.short),
      if_neg (not_not.2 hlen), htake, hcrc, if_neg (not_not.2 rfl), hpayload, hid]
    exact Prod.ext h.envelope rfl
  · simp only [List.length_append, hcl', List.length_singleton, maxEncodedFrameSize]
    omega

end Redline.Host
