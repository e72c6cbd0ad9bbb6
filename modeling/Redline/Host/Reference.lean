import Mathlib.Algebra.Ring.Int.Defs
import Redline.Host.Requests
import Redline.Host.Stream

/-!
# The reference host

`tools/host_reference/redline_host.py`: the codec that was written a second time, in Python, to qualify the firmware
with.  Its functions raise where those of the firmware return a result, its integers have no width, and it cuts the
stream without looking at what is in a candidate.

The two agree: on the frames of a stream (`accepted_eq`), on the bytes of a frame (`buildFrame_eq`), and on the
requests that the reference builds (`operationPayload_accepted`).  Only `build_frame` refuses the request ID zero by
default, which the firmware has for a PROTOCOL_ERROR that answers no request.
-/

namespace Redline.Host.Reference

open Redline.Wire Redline.Lib

/-! ### Python -/

inductive PyError
  | protocolFailure (message : String)
  | structError
  /-- `int()` of an object that is no number. -/
  | typeError
  deriving DecidableEq

/-- An object, as these functions look at one. -/
structure PyObject where
  /-- The bytes, where `isinstance(value, bytes)`. -/
  bytes? : Option Bytes
  /-- `int(value)`, where it does not raise. -/
  int? : Option ℤ
  /-- `value == n`. -/
  equals : ℤ → Bool
  /-- What is equal to a number is converted to it. -/
  int_of_equals : ∀ n, equals n = true → int? = some n

namespace PyObject

def none : PyObject := ⟨.none, .none, fun _ => false, fun _ h => (by cases h)⟩

/-- A number; `False` and `True` are zero and one. -/
def int (n : ℤ) : PyObject := ⟨.none, some n, fun m => n == m, fun m h => congrArg some (by simpa using h)⟩

end PyObject

@[simp] theorem ok_bind {α β : Type} (a : α) (f : α → Except PyError β) : (Except.ok a >>= f) = f a := rfl

@[simp] theorem error_bind {α β : Type} (e : PyError) (f : α → Except PyError β) :
    (Except.error e >>= f) = .error e := rfl

theorem bind_eq_ok {α β : Type} {x : Except PyError α} {f : α → Except PyError β} {b : β} :
    (x >>= f) = .ok b ↔ ∃ a, x = .ok a ∧ f a = .ok b := by
  cases x with
  | error e => simp
  | ok a => simp

/-- `struct.pack` of a `B`, an `H`, an `I` and an `i`, little-endian. -/
def packB (n : ℤ) : Except PyError Bytes := if 0 ≤ n ∧ n < 2 ^ 8 then .ok [n.toNat.toUInt8] else .error .structError

def packH (n : ℤ) : Except PyError Bytes :=
  if 0 ≤ n ∧ n < 2 ^ 16 then .ok (writeUint16Le n.toNat.toUInt16) else .error .structError

def packI (n : ℤ) : Except PyError Bytes :=
  if 0 ≤ n ∧ n < 2 ^ 32 then .ok (writeUint32Le n.toNat.toUInt32) else .error .structError

def packi (n : ℤ) : Except PyError Bytes :=
  if -2 ^ 31 ≤ n ∧ n < 2 ^ 31 then .ok (writeUint32Le (n % 2 ^ 32).toNat.toUInt32) else .error .structError

/-! ### Frames -/

def supportedMinors : List UInt8 := [1, 2]
def maxPayload : ℕ := 128
def maxDecoded : ℕ := 138
def maxCandidate : ℕ := 139
def maxEncoded : ℕ := 140

/-- The keys of the table of message types. -/
def messageTypes : List UInt8 := [1, 2, 0x10, 0x11, 0x7F]

def crcRound (crc : ℕ) : ℕ :=
  if crc &&& 0x8000 ≠ 0 then ((crc <<< 1) ^^^ 0x1021) &&& 0xFFFF else (crc <<< 1) &&& 0xFFFF

def crc16 (data : Bytes) : ℕ :=
  data.foldl (fun crc value => (List.range 8).foldl (fun crc _ => crcRound crc) (crc ^^^ value.toNat <<< 8)) 0xFFFF

/-- The loop of the encoder: the output, the place of the open code byte, and its value so far. -/
def cobsEncodeLoop : Bytes → Bytes → ℕ → ℕ → Bytes
  | [], out, codeIndex, code => out.set codeIndex code.toUInt8
  | value :: data, out, codeIndex, code =>
    if value = 0 then cobsEncodeLoop data (out.set codeIndex code.toUInt8 ++ [0]) out.length 1
    else if code + 1 = 0xFF then
      cobsEncodeLoop data ((out ++ [value]).set codeIndex (code + 1).toUInt8 ++ [0]) (out.length + 1) 1
    else cobsEncodeLoop data (out ++ [value]) codeIndex (code + 1)

def cobsEncode (data : Bytes) : Except PyError Bytes :=
  if maxDecoded < data.length then .error (.protocolFailure "decoded frame too large")
  else .ok (cobsEncodeLoop data [0] 0 1)

/-- The loop of the decoder; the index grows in each round. -/
def cobsDecodeLoop (data : Bytes) : ℕ → ℕ → Bytes → Except PyError Bytes
  | 0, index, out => if index < data.length then .error (.protocolFailure "malformed COBS") else .ok out
  | rounds + 1, index, out =>
    if index < data.length then
      let code := (byteAt data index).toNat
      if code = 0 ∨ data.length < index + 1 + code - 1 then .error (.protocolFailure "malformed COBS")
      else
        let block := (data.drop (index + 1)).take (code - 1)
        let next := index + 1 + (code - 1)
        if code ≠ 0xFF ∧ next < data.length then cobsDecodeLoop data rounds next (out ++ block ++ [0])
        else cobsDecodeLoop data rounds next (out ++ block)
    else .ok out

def cobsDecode (data : Bytes) : Except PyError Bytes :=
  if data = [] ∨ maxCandidate < data.length then .error (.protocolFailure "malformed/oversized COBS candidate")
  else cobsDecodeLoop data data.length 0 []

/-- The decoded and the encoded frame. -/
def buildFrame (messageType requestId : ℤ) (payload : Bytes) (major minor flags : ℤ) (validate : Bool) :
    Except PyError (Bytes × Bytes) :=
  if maxPayload < payload.length then .error (.protocolFailure "payload exceeds 128 bytes")
  else if validate ∧ requestId = 0 then .error (.protocolFailure "request ID zero is reserved")
  else do
    let packed := [← packB major, ← packB minor, ← packB messageType, ← packB flags, ← packH requestId,
      ← packH payload.length]
    let head := packed.flatten ++ payload
    let decoded := head ++ (← packH (crc16 head))
    let encoded := (← cobsEncode decoded) ++ [0]
    if maxDecoded < decoded.length ∨ maxEncoded < encoded.length then .error (.protocolFailure "frame bound exceeded")
    else return (decoded, encoded)

structure PyFrame extends Frame where
  decoded : Bytes
  encoded : Bytes
  deriving DecidableEq

/-- The checks under `require_supported`. -/
def checkSupported (frame : Frame) : Except PyError Unit :=
  if frame.major ≠ 0 ∨ frame.minor ∉ supportedMinors then .error (.protocolFailure "unsupported Host Protocol version")
  else if frame.messageType ∉ messageTypes then .error (.protocolFailure "unsupported message type")
  else if frame.flags ≠ 0 then .error (.protocolFailure "unsupported flags")
  else if frame.requestId = 0 ∧ frame.messageType ≠ 0x7F then .error (.protocolFailure "invalid request ID")
  else .ok ()

def decodeFrame (encoded : Bytes) (requireSupported : Bool) : Except PyError PyFrame :=
  if encoded = [] ∨ encoded.getLast? ≠ some 0 ∨ maxEncoded < encoded.length then
    .error (.protocolFailure "missing delimiter or encoded frame bound exceeded")
  else do
    let decoded ← cobsDecode encoded.dropLast
    let length := (readUint16Le decoded 6).toNat
    if ¬ (10 ≤ decoded.length ∧ decoded.length ≤ maxDecoded) then .error (.protocolFailure "decoded length invalid")
    else if maxPayload < length ∨ decoded.length ≠ 10 + length then
      .error (.protocolFailure "declared payload length mismatch")
    else if crc16 (decoded.take (decoded.length - 2)) ≠ (readUint16Le decoded (decoded.length - 2)).toNat then
      .error (.protocolFailure "CRC mismatch")
    else
      let frame : Frame :=
        { major := byteAt decoded 0, minor := byteAt decoded 1, messageType := byteAt decoded 2
          flags := byteAt decoded 3, requestId := readUint16Le decoded 4
          payload := (decoded.drop 8).take (decoded.length - 2 - 8) }
      if requireSupported then checkSupported frame
      return { frame with decoded, encoded }

/-! ### The stream -/

structure StreamAccumulator where
  candidate : Bytes
  discarding : Bool
  deriving DecidableEq

namespace StreamAccumulator

def initial : StreamAccumulator := ⟨[], false⟩

/-- A byte, and the frames it appends. -/
def feedByte (a : StreamAccumulator) (b : UInt8) : StreamAccumulator × List Bytes :=
  if b = 0 then
    if a.discarding then (⟨[], false⟩, [])
    else if a.candidate ≠ [] then (⟨[], a.discarding⟩, [a.candidate ++ [0]])
    else (⟨[], a.discarding⟩, [])
  else if !a.discarding then
    if maxCandidate ≤ a.candidate.length then (⟨[], true⟩, []) else (⟨a.candidate ++ [b], a.discarding⟩, [])
  else (a, [])

def feed (a : StreamAccumulator) : Bytes → StreamAccumulator × List Bytes
  | [] => (a, [])
  | b :: data =>
    let (a', frames) := a.feedByte b
    let (a'', more) := a'.feed data
    (a'', frames ++ more)

/-- Calls of `feed`, one after another. -/
def feeds (a : StreamAccumulator) : List Bytes → StreamAccumulator × List Bytes
  | [] => (a, [])
  | data :: rest =>
    let (a', frames) := a.feed data
    let (a'', more) := a'.feeds rest
    (a'', frames ++ more)

end StreamAccumulator

/-! ### Requests -/

/-- `int(value)`. -/
def toInt (value : PyObject) : Except PyError ℤ :=
  match value.int? with
  | .none => .error .typeError
  | some n => .ok n

/-- The bytes that `typed_value` puts behind the type and the length. -/
def rawValue (kind : ℤ) (value : PyObject) : Except PyError Bytes :=
  if kind = 0 then .ok []
  else if kind = 1 then
    if value.equals 0 = false ∧ value.equals 1 = false then .error (.protocolFailure "BOOLEAN must be 0 or 1")
    else toInt value >>= packB
  else if kind = 4 ∨ kind = 6 then toInt value >>= packH
  else if kind = 2 then toInt value >>= packI
  else if kind = 3 ∨ kind = 5 then toInt value >>= packi
  else .error (.protocolFailure "unknown/request-prohibited value type")

def typedValue (kind : ℤ) (value : PyObject) : Except PyError Bytes := do
  let raw ← rawValue kind value
  return [kind.toNat.toUInt8, raw.length.toUInt8] ++ raw

def encodeEventIdentity (sourceDeviceId eventEpoch eventId : ℤ) : Except PyError Bytes :=
  if ¬ (1 ≤ sourceDeviceId ∧ sourceDeviceId ≤ 0xFF) ∨ ¬ (1 ≤ eventEpoch ∧ eventEpoch ≤ 0xFFFFFFFF) ∨
      ¬ (1 ≤ eventId ∧ eventId ≤ 0xFFFFFFFF) then
    .error (.protocolFailure "Event identity fields must be nonzero and in range")
  else return (← packB sourceDeviceId) ++ (← packI eventEpoch) ++ (← packI eventId)

def decodeEventIdentity (raw : Bytes) : Except PyError HostEventIdentity :=
  if raw.length ≠ 9 then .error (.protocolFailure "invalid Host Event identity length")
  else do
    let _ ← encodeEventIdentity (byteAt raw 0).toNat (readUint32Le raw 1).toNat (readUint32Le raw 5).toNat
    return ⟨byteAt raw 0, readUint32Le raw 1, readUint32Le raw 5⟩

/-- The operations of a category. -/
def pairs (minor category : ℤ) : List ℤ :=
  if category = 1 then [0x20, 0x21, 0x22]
  else if category = 2 then [0x23, 0x24, 0x25, 0x26]
  else if category = 3 then [0x27]
  else if category = 4 then if minor = 2 then [0x28, 0x2B] else [0x28]
  else if category = 5 then if minor = 2 then [0x29, 0x2A] else []
  else []

/-- The value types of an operation. -/
def allowed (operation : ℤ) : List ℤ :=
  if operation = 0x23 ∨ operation = 0x28 ∨ operation = 0x2B then [0, 2]
  else if operation = 0x26 then [1]
  else if operation = 0x27 then [0, 1, 2, 3, 4, 5, 6]
  else if operation = 0x2A then [0x7F]
  else [0]

/-- The value of CONSUME_EVENT. -/
def consumeValue (value : PyObject) : Except PyError Bytes :=
  match value.bytes? with
  | .none => .error (.protocolFailure "CONSUME_EVENT requires exact Event identity")
  | some bytes =>
    if bytes.length ≠ 9 then .error (.protocolFailure "CONSUME_EVENT requires exact Event identity")
    else do
      let _ ← decodeEventIdentity bytes
      return [0x7F, 9] ++ bytes

/-- The typed value of an operation. -/
def payloadValue (operation valueType : ℤ) (value : PyObject) : Except PyError Bytes :=
  if operation = 0x2A then consumeValue value else typedValue valueType value

def operationPayload (category operation targetDevice targetId valueType : ℤ) (value : PyObject) (minor : ℤ) :
    Except PyError Bytes :=
  if operation ∉ pairs minor category then .error (.protocolFailure "invalid category/operation pair")
  else if (category ∈ [1, 4, 5] ∨ operation = 0x23) ∧ targetId ≠ 0 then
    .error (.protocolFailure "operation requires target ID zero")
  else if operation ∈ [0x24, 0x25, 0x26, 0x27] ∧ targetId = 0 then
    .error (.protocolFailure "operation requires nonzero target ID")
  else if valueType ∉ allowed operation then .error (.protocolFailure "value type invalid for operation")
  else if operation = 0x2B ∧ valueType = 2 ∧ value.equals 1 = false then
    .error (.protocolFailure "Event lifecycle page selector must be 1")
  else do
    let typed ← payloadValue operation valueType value
    return (← packB category) ++ (← packB operation) ++ (← packB targetDevice) ++ (← packH targetId) ++ typed

/-! ### The checksum -/

theorem crcRound_toNat (crc : UInt16) : crcRound crc.toNat = (crcBit crc).toNat := by
  have hshift : (crc <<< 1).toNat = crc.toNat <<< 1 % 2 ^ 16 := by
    simp [UInt16.toNat_shiftLeft]
  have hmask : ∀ n : ℕ, n &&& 0xFFFF = n % 2 ^ 16 := fun n => Nat.and_two_pow_sub_one_eq_mod n 16
  have hbit : crc &&& 0x8000 = 0 ↔ crc.toNat &&& 0x8000 = 0 := by
    rw [← UInt16.toNat_inj, UInt16.toNat_and]
    rfl
  unfold crcRound crcBit
  by_cases h : crc &&& 0x8000 = 0
  · rw [if_neg (by simpa using hbit.1 h), if_neg (by simpa using h), hmask, hshift]
  · rw [if_pos (by rw [ne_eq, ← hbit]; exact h), if_pos h, hmask, UInt16.toNat_xor, hshift, Nat.xor_mod_two_pow]
    rfl

theorem crcRounds_toNat (rounds : List ℕ) (crc : UInt16) :
    rounds.foldl (fun crc _ => crcRound crc) crc.toNat = (rounds.foldl (fun crc _ => crcBit crc) crc).toNat := by
  induction rounds generalizing crc with
  | nil => rfl
  | cons _ rounds ih => rw [List.foldl_cons, List.foldl_cons, crcRound_toNat, ih]

/-- **The checksums are the same.** -/
theorem crc16_eq (data : Bytes) : crc16 data = (crc16CcittFalse data).toNat := by
  have hloop : ∀ crc : UInt16, data.foldl (fun crc value => (List.range 8).foldl (fun crc _ => crcRound crc)
      (crc ^^^ value.toNat <<< 8)) crc.toNat = (data.foldl crcByte crc).toNat := by
    induction data with
    | nil => exact fun crc => rfl
    | cons value data ih =>
      intro crc
      have hbyte : crc.toNat ^^^ value.toNat <<< 8 = (crc ^^^ value.toUInt16 <<< 8).toNat := by
        have hlt := value.toNat_lt
        rw [UInt16.toNat_xor, UInt16.toNat_shiftLeft]
        simp only [UInt8.toNat_toUInt16, UInt16.reduceToNat, Nat.reduceMod, Nat.shiftLeft_eq]
        rw [Nat.mod_eq_of_lt (by omega : value.toNat * 2 ^ 8 < 2 ^ 16)]
      rw [List.foldl_cons, List.foldl_cons, hbyte, crcRounds_toNat, ih]
      rfl
  exact hloop 0xFFFF

/-! ### COBS -/

/-- The place of the open code byte, in front of its block. -/
theorem set_code (done block : Bytes) (open_ code : UInt8) :
    (done ++ open_ :: block).set done.length code = done ++ code :: block := by
  rw [List.set_append_right _ _ (Nat.le_refl _), Nat.sub_self, List.set_cons_zero]

theorem cobsEncodeLoop_eq {data done block : Bytes} (hshort : block.length + data.length < 0xFD) :
    cobsEncodeLoop data (done ++ 0 :: block) done.length (block.length + 1) = done ++ stuffed block data := by
  induction data generalizing done block with
  | nil =>
    unfold cobsEncodeLoop stuffed
    exact set_code done block _ _
  | cons value data ih =>
    rw [List.length_cons] at hshort
    unfold cobsEncodeLoop stuffed
    split
    · rw [set_code]
      have hnext := @ih (done ++ (block.length + 1).toUInt8 :: block) [] (by rw [List.length_nil]; omega)
      rw [List.length_append, List.length_cons] at hnext ⊢
      rw [List.length_nil, Nat.zero_add] at hnext
      rw [hnext, List.append_assoc, List.cons_append]
    · rw [if_neg (by omega)]
      have hnext := @ih done (block ++ [value]) (by rw [List.length_append, List.length_singleton]; omega)
      rw [List.length_append, List.length_singleton] at hnext
      rw [← hnext, List.append_assoc, List.cons_append]

theorem cobsEncode_eq {data : Bytes} (h : data.length ≤ maxDecoded) : cobsEncode data = .ok (stuffed [] data) := by
  rw [maxDecoded] at h
  unfold cobsEncode
  rw [if_neg (by rw [maxDecoded]; omega)]
  exact congrArg _ (@cobsEncodeLoop_eq data [] [] (by rw [List.length_nil]; omega))

/-- The two decoders, on a candidate without a zero: the index of the one is what is left to the other. -/
theorem cobsDecodeLoop_eq {data : Bytes} (hfree : ∀ b ∈ data, b ≠ 0) (hlen : data.length ≤ maxCandidate)
    {rounds index : ℕ} {out : Bytes} (hindex : index ≤ data.length) (hout : out.length ≤ index) :
    (cobsDecodeLoop data rounds index out).toOption =
      (Host.cobsDecodeLoop maxDecodedFrameSize rounds (data.drop index) out).toOption := by
  rw [maxCandidate] at hlen
  induction rounds generalizing index out with
  | zero =>
    unfold cobsDecodeLoop
    by_cases hmore : index < data.length
    · rw [if_pos hmore, List.drop_eq_getElem_cons hmore]
      rfl
    · rw [if_neg hmore, List.drop_eq_nil_of_le (by omega)]
      rfl
  | succ rounds ih =>
    unfold cobsDecodeLoop
    by_cases hmore : index < data.length
    swap
    · rw [if_neg hmore, List.drop_eq_nil_of_le (by omega)]
      rfl
    have hbyte : byteAt data index = data[index] := by simp [byteAt, hmore]
    rw [if_pos hmore, List.drop_eq_getElem_cons hmore, ← hbyte, Host.cobsDecodeLoop]
    generalize byteAt data index = code
    have hzero : code.toNat = 0 ↔ code = 0 := by
      rw [← UInt8.toNat_inj]
      rfl
    dsimp only
    by_cases hcode : code = 0
    · rw [if_pos (.inl (hzero.2 hcode)), if_pos hcode]
      rfl
    have hpos : 0 < code.toNat := Nat.pos_of_ne_zero fun hc => hcode (hzero.1 hc)
    rw [if_neg hcode, List.length_drop]
    by_cases hlong : data.length < index + 1 + code.toNat - 1
    · rw [if_pos (.inr hlong), if_pos (by omega)]
      rfl
    have hfits : ¬ data.length - (index + 1) < code.toNat - 1 := by omega
    have hroom : ¬ maxDecodedFrameSize - out.length < code.toNat - 1 := by
      rw [maxDecodedFrameSize]
      omega
    rw [if_neg (by rw [not_or]; exact ⟨by omega, hlong⟩), if_neg hfits, if_neg hroom]
    have hany : ((data.drop (index + 1)).take (code.toNat - 1)).any (· == 0) = false := by
      rw [List.any_eq_false]
      intro b hb
      simpa using hfree b (List.mem_of_mem_drop (List.mem_of_mem_take hb))
    have hblock : ((data.drop (index + 1)).take (code.toNat - 1)).length = code.toNat - 1 := by
      rw [List.length_take, List.length_drop]
      omega
    have hfull : code.toNat = 0xFF ↔ code = 0xFF := by
      rw [← UInt8.toNat_inj]
      rfl
    have hrest : (data.drop (index + 1)).drop (code.toNat - 1) ≠ [] ↔ index + 1 + (code.toNat - 1) < data.length := by
      rw [List.drop_drop, ne_eq, List.drop_eq_nil_iff]
      omega
    rw [hany, if_neg Bool.false_ne_true, List.drop_drop]
    rw [List.drop_drop] at hrest
    by_cases hzeroed : code.toNat ≠ 0xFF ∧ index + 1 + (code.toNat - 1) < data.length
    · rw [if_pos hzeroed, if_pos ⟨fun hc => hzeroed.1 (hfull.2 hc), hrest.2 hzeroed.2⟩,
        if_neg (by rw [hblock, maxDecodedFrameSize]; omega)]
      exact ih (by omega) (by simp only [List.length_append, hblock, List.length_singleton]; omega)
    · rw [if_neg hzeroed, if_neg (fun hc => hzeroed ⟨fun h => hc.1 (hfull.1 h), hrest.1 hc.2⟩)]
      exact ih (by omega) (by simp only [List.length_append, hblock]; omega)

theorem cobsDecode_eq {data : Bytes} (hfree : ∀ b ∈ data, b ≠ 0) :
    (cobsDecode data).toOption = (Host.cobsDecode data maxDecodedFrameSize).toOption := by
  unfold cobsDecode Host.cobsDecode
  rw [show maxCobsCandidateSize = maxCandidate from rfl]
  by_cases hempty : data = []
  · rw [if_pos (.inl hempty), if_pos hempty]
    rfl
  by_cases hlong : maxCandidate < data.length
  · rw [if_pos (.inr hlong), if_neg hempty, if_pos hlong]
    rfl
  · rw [if_neg (by rw [not_or]; exact ⟨hempty, hlong⟩), if_neg hempty, if_neg hlong]
    exact cobsDecodeLoop_eq hfree (Nat.le_of_not_lt hlong) (Nat.zero_le _) (Nat.le_refl 0)

/-! ### Frames -/

theorem packB_toNat (byte : UInt8) : packB byte.toNat = .ok [byte] := by
  have hlt := byte.toNat_lt
  rw [packB, if_pos (by omega), Int.toNat_natCast, Nat.toUInt8_eq, UInt8.ofNat_toNat]

theorem packH_natCast {n : ℕ} (h : n < 2 ^ 16) : packH n = .ok (writeUint16Le n.toUInt16) := by
  rw [packH, if_pos (by omega), Int.toNat_natCast]

theorem packH_toNat (word : UInt16) : packH word.toNat = .ok (writeUint16Le word) := by
  rw [packH_natCast word.toNat_lt, Nat.toUInt16_eq, UInt16.ofNat_toNat]

/-- **A frame that both send has the same bytes.** -/
theorem buildFrame_eq {frame : Frame} (h : frame.Sendable) {validate : Bool}
    (hid : validate = true → frame.requestId ≠ 0) :
    buildFrame frame.messageType.toNat frame.requestId.toNat frame.payload frame.major.toNat frame.minor.toNat
      frame.flags.toNat validate = .ok (frameBytes frame, stuffed [] (frameBytes frame) ++ [0]) := by
  have hshort : frame.payload.length ≤ 128 := h.short
  have hlen : (frameBytes frame).length = 10 + frame.payload.length := length_frameBytes frame
  have hnonzero : ¬ (validate = true ∧ (frame.requestId.toNat : ℤ) = 0) := by
    rintro ⟨hv, hz⟩
    exact hid hv (UInt16.toNat_inj.1 (by simpa using hz))
  have hhead : [[frame.major], [frame.minor], [frame.messageType], [frame.flags], writeUint16Le frame.requestId,
      writeUint16Le frame.payload.length.toUInt16].flatten = frameHeader frame := rfl
  have hstuffed : cobsEncode (frameBytes frame) = .ok (stuffed [] (frameBytes frame)) :=
    cobsEncode_eq (by rw [hlen, maxDecoded]; omega)
  have hbound : ¬ (maxDecoded < (frameBytes frame).length ∨
      maxEncoded < (stuffed [] (frameBytes frame) ++ [0]).length) := by
    simp only [List.length_append, length_stuffed, List.length_nil, List.length_singleton, hlen, maxDecoded, maxEncoded]
    omega
  unfold buildFrame
  rw [if_neg (by rw [maxPayload]; omega), if_neg hnonzero]
  simp only [packB_toNat, packH_toNat, packH_natCast (show frame.payload.length < 2 ^ 16 by omega), ok_bind,
    hhead, crc16_eq]
  rw [show frameHeader frame ++ frame.payload ++ writeUint16Le (crc16CcittFalse (frameHeader frame ++ frame.payload)) =
    frameBytes frame from rfl, hstuffed]
  rw [ok_bind, if_neg hbound]
  rfl

/-- The last checks of the two decoders. -/
theorem envelope_iff (frame : Frame) : envelopeResult frame = .ok ↔
    (frame.major = 0 ∧ frame.minor ∈ supportedMinors) ∧ frame.messageType ∈ messageTypes ∧ frame.flags = 0 ∧
      ¬ (frame.requestId = 0 ∧ frame.messageType ≠ 0x7F) := by
  have hminor : frame.minor ∈ supportedMinors ↔
      ¬ (frame.minor < minSupportedMinor ∨ maxSupportedMinor < frame.minor) := by
    simp only [supportedMinors, List.mem_cons, List.not_mem_nil, or_false, UInt8.lt_iff_toNat_lt, ← UInt8.toNat_inj]
    change frame.minor.toNat = 1 ∨ frame.minor.toNat = 2 ↔ ¬ (frame.minor.toNat < 1 ∨ 2 < frame.minor.toNat)
    omega
  have htype : frame.messageType ∈ messageTypes ↔ isKnownMessageType frame.messageType = true := by
    simp [messageTypes, isKnownMessageType, MessageType.helloRequest, MessageType.helloResponse,
      MessageType.operationRequest, MessageType.operationResponse, MessageType.protocolError, or_assoc]
  have hflags : frame.flags = 0 ↔ hasSupportedFlags frame.flags = true := by simp [hasSupportedFlags, flagsNone]
  have hid : ¬ (frame.requestId = 0 ∧ frame.messageType ≠ 0x7F) ↔
      isValidEnvelopeRequestId frame.messageType frame.requestId = true := by
    by_cases hz : frame.requestId = 0
    · simp [isValidEnvelopeRequestId, isValidRequestId, hz, MessageType.protocolError]
    · have hpos : (1 : UInt16) ≤ frame.requestId := by
        rw [UInt16.le_iff_toNat_le]
        exact Nat.pos_of_ne_zero fun hc => hz (UInt16.toNat_inj.1 hc)
      simp [isValidEnvelopeRequestId, isValidRequestId, hz, hpos]
  rw [hminor, htype, hflags, hid]
  unfold envelopeResult
  constructor
  · intro h
    repeat' split at h
    all_goals cases h
    rename_i hmajor hmin htype hflags hid
    rw [Bool.not_eq_true', Bool.not_eq_false] at htype hflags hid
    exact ⟨⟨not_not.1 hmajor, hmin⟩, htype, hflags, hid⟩
  · rintro ⟨⟨hmajor, hmin⟩, htype, hflags, hid⟩
    rw [if_neg (not_not.2 (show frame.major = versionMajor from hmajor)), if_neg hmin]
    simp [htype, hflags, hid]

/-- What is left to check once a candidate is decoded. -/
def checkDecoded (decoded : Bytes) : Option Frame :=
  let length := (readUint16Le decoded 6).toNat
  let frame : Frame :=
    { major := byteAt decoded 0, minor := byteAt decoded 1, messageType := byteAt decoded 2
      flags := byteAt decoded 3, requestId := readUint16Le decoded 4
      payload := (decoded.drop 8).take length }
  if (10 ≤ decoded.length ∧ decoded.length ≤ 138) ∧ length ≤ 128 ∧ decoded.length = 10 + length ∧
      crc16CcittFalse (decoded.take (8 + length)) = readUint16Le decoded (8 + length) ∧ envelopeResult frame = .ok then
    some frame
  else none

theorem acceptFrame_checked {candidate : Bytes} (hne : candidate ≠ []) (hlen : candidate.length ≤ 139) :
    (acceptFrame (candidate ++ [0])).toOption =
      (Host.cobsDecode candidate maxDecodedFrameSize).toOption.bind checkDecoded := by
  have hpos : 0 < candidate.length := List.length_pos_iff.2 hne
  unfold acceptFrame
  generalize hresult : Host.decodeFrame (candidate ++ [0]) = result
  unfold Host.decodeFrame at hresult
  rw [if_neg (by simp), if_neg (by rw [maxEncodedFrameSize, List.length_append, List.length_singleton]; omega)] at hresult
  simp only [List.length_append, List.length_singleton, Nat.add_sub_cancel] at hresult
  rw [if_neg (by simp [byteAt, frameDelimiter]), if_neg (by omega), List.take_left' rfl] at hresult
  cases hcobs : Host.cobsDecode candidate maxDecodedFrameSize with
  | error e =>
    rw [hcobs] at hresult
    cases e <;> rw [← hresult] <;> rfl
  | ok decoded =>
    rw [hcobs] at hresult
    dsimp only at hresult
    change _ = checkDecoded decoded
    unfold checkDecoded
    dsimp only
    by_cases hsize : decoded.length < minDecodedFrameSize ∨ maxDecodedFrameSize < decoded.length
    · rw [if_pos hsize] at hresult
      rw [minDecodedFrameSize, maxDecodedFrameSize] at hsize
      rw [← hresult]
      exact (if_neg (by omega)).symm
    rw [if_neg hsize] at hresult
    rw [minDecodedFrameSize, maxDecodedFrameSize] at hsize
    by_cases hpayload : maxPayloadSize < (readUint16Le decoded 6).toNat
    · rw [if_pos hpayload] at hresult
      rw [maxPayloadSize] at hpayload
      rw [← hresult]
      exact (if_neg (by omega)).symm
    rw [if_neg hpayload] at hresult
    by_cases hlength : decoded.length = minDecodedFrameSize + (readUint16Le decoded 6).toNat
    swap
    · rw [if_pos hlength] at hresult
      rw [← hresult]
      exact (if_neg fun hc => hlength hc.2.2.1).symm
    rw [if_neg (not_not.2 hlength)] at hresult
    by_cases hcrc : crc16CcittFalse (decoded.take (decodedHeaderSize + (readUint16Le decoded 6).toNat)) =
        readUint16Le decoded (decodedHeaderSize + (readUint16Le decoded 6).toNat)
    swap
    · rw [if_pos hcrc] at hresult
      rw [← hresult]
      exact (if_neg fun hc => hcrc hc.2.2.2.1).symm
    rw [if_neg (not_not.2 hcrc)] at hresult
    rw [← hresult]
    dsimp only
    split
    · rename_i henvelope
      rw [if_pos ⟨by omega, Nat.le_of_not_lt hpayload, hlength, hcrc, henvelope⟩]
      rfl
    · rename_i henvelope
      rw [if_neg (fun hc => henvelope hc.2.2.2.2)]
      rfl

theorem checkSupported_eq (frame : Frame) :
    (checkSupported frame).toOption = if envelopeResult frame = .ok then some () else none := by
  simp only [envelope_iff]
  unfold checkSupported
  by_cases hversion : frame.major ≠ 0 ∨ frame.minor ∉ supportedMinors
  · rw [if_pos hversion]
    exact (if_neg fun hc => hversion.elim (fun h => h hc.1.1) fun h => h hc.1.2).symm
  rw [if_neg hversion]
  by_cases htype : frame.messageType ∈ messageTypes
  swap
  · rw [if_pos htype]
    exact (if_neg fun hc => htype hc.2.1).symm
  rw [if_neg (not_not.2 htype)]
  by_cases hflags : frame.flags = 0
  swap
  · rw [if_pos hflags]
    exact (if_neg fun hc => hflags hc.2.2.1).symm
  rw [if_neg (not_not.2 hflags)]
  by_cases hid : frame.requestId = 0 ∧ frame.messageType ≠ 0x7F
  · rw [if_pos hid]
    exact (if_neg fun hc => hc.2.2.2 hid).symm
  rw [if_neg hid]
  rw [not_or, not_not, not_not] at hversion
  exact (if_pos ⟨hversion, htype, hflags, hid⟩).symm

theorem decodeFrame_checked {candidate : Bytes} (hlen : candidate.length ≤ 139) :
    (decodeFrame (candidate ++ [0]) true).toOption.map PyFrame.toFrame =
      (cobsDecode candidate).toOption.bind checkDecoded := by
  unfold decodeFrame
  rw [if_neg (by simp [maxEncoded]; omega), List.dropLast_concat]
  cases hcobs : cobsDecode candidate with
  | error e => rfl
  | ok decoded =>
    rw [ok_bind]
    change _ = checkDecoded decoded
    unfold checkDecoded
    dsimp only
    by_cases hsize : 10 ≤ decoded.length ∧ decoded.length ≤ maxDecoded
    swap
    · rw [if_pos hsize]
      exact (if_neg fun hc => hsize hc.1).symm
    rw [if_neg (not_not.2 hsize)]
    by_cases hlength : maxPayload < (readUint16Le decoded 6).toNat ∨ decoded.length ≠ 10 + (readUint16Le decoded 6).toNat
    · rw [if_pos hlength]
      rw [maxPayload] at hlength
      exact (if_neg (by omega)).symm
    rw [if_neg hlength]
    rw [maxPayload] at hlength
    have hindex : decoded.length - 2 = 8 + (readUint16Le decoded 6).toNat := by omega
    have htake : decoded.length - 2 - 8 = (readUint16Le decoded 6).toNat := by omega
    rw [htake, hindex, crc16_eq]
    by_cases hcrc : crc16CcittFalse (decoded.take (8 + (readUint16Le decoded 6).toNat)) =
        readUint16Le decoded (8 + (readUint16Le decoded 6).toNat)
    swap
    · rw [if_pos fun hc => hcrc (UInt16.toNat_inj.1 hc)]
      exact (if_neg fun hc => hcrc hc.2.2.2.1).symm
    rw [if_neg (not_not.2 (congrArg UInt16.toNat hcrc)), if_pos rfl]
    generalize hframe : ({ major := byteAt decoded 0, minor := byteAt decoded 1, messageType := byteAt decoded 2
                           flags := byteAt decoded 3, requestId := readUint16Le decoded 4
                           payload := (decoded.drop 8).take (readUint16Le decoded 6).toNat } : Frame) = frame
    have hsupported := checkSupported_eq frame
    by_cases henvelope : envelopeResult frame = .ok
    · rw [if_pos henvelope] at hsupported
      rw [if_pos ⟨hsize, by omega, by omega, hcrc, henvelope⟩]
      cases hcheck : checkSupported frame with
      | error e =>
        rw [hcheck] at hsupported
        cases hsupported
      | ok => rfl
    · rw [if_neg henvelope] at hsupported
      rw [if_neg fun hc => henvelope hc.2.2.2.2]
      cases hcheck : checkSupported frame with
      | error e => rfl
      | ok =>
        rw [hcheck] at hsupported
        cases hsupported

/-- **The decoders accept the same candidates**, with the same frame. -/
theorem decodeFrame_eq {candidate : Bytes} (hne : candidate ≠ []) (hfree : ∀ b ∈ candidate, b ≠ 0)
    (hlen : candidate.length ≤ maxCandidate) :
    (decodeFrame (candidate ++ [0]) true).toOption.map PyFrame.toFrame =
      (acceptFrame (candidate ++ [0])).toOption := by
  rw [maxCandidate] at hlen
  rw [acceptFrame_checked hne hlen, decodeFrame_checked hlen, cobsDecode_eq hfree]

/-! ### Streams -/

namespace StreamAccumulator

theorem feed_append (a : StreamAccumulator) (data rest : Bytes) :
    a.feed (data ++ rest) = (((a.feed data).1.feed rest).1, (a.feed data).2 ++ ((a.feed data).1.feed rest).2) := by
  induction data generalizing a with
  | nil => rfl
  | cons b data ih => simp only [List.cons_append, feed, ih, List.append_assoc]

theorem feeds_eq (a : StreamAccumulator) (chunks : List Bytes) : a.feeds chunks = a.feed chunks.flatten := by
  induction chunks generalizing a with
  | nil => rfl
  | cons data rest ih =>
    rw [List.flatten_cons, feed_append]
    simp only [feeds, ih]

/-- The accumulator that has taken a candidate since the last delimiter. -/
def partialAccumulator (candidate : Bytes) : StreamAccumulator :=
  if candidate.length ≤ maxCandidate then ⟨candidate, false⟩ else ⟨[], true⟩

/-- What the accumulator hands out of closed candidates. -/
def framesOf (candidates : List Bytes) : List Bytes :=
  (candidates.filter fun c => c ≠ [] ∧ c.length ≤ maxCandidate).map (· ++ [0])

theorem feedByte_of_ne (candidate : Bytes) {b : UInt8} (h : b ≠ 0) :
    (partialAccumulator candidate).feedByte b = (partialAccumulator (candidate ++ [b]), []) := by
  unfold feedByte partialAccumulator
  rw [List.length_append, List.length_singleton]
  by_cases hfits : candidate.length ≤ maxCandidate
  · by_cases hmore : maxCandidate ≤ candidate.length
    · have hfull : ¬ candidate.length + 1 ≤ maxCandidate := by omega
      simp [h, hfits, hmore, hfull]
    · have hroom : candidate.length + 1 ≤ maxCandidate := by omega
      simp [h, hfits, hmore, hroom]
  · have hover : ¬ candidate.length + 1 ≤ maxCandidate := by omega
    simp [h, hfits, hover]

theorem feedByte_zero (candidate : Bytes) :
    (partialAccumulator candidate).feedByte 0 = (partialAccumulator [], framesOf [candidate]) := by
  unfold feedByte partialAccumulator framesOf
  by_cases hfits : candidate.length ≤ maxCandidate
  · by_cases hempty : candidate = []
    · simp [hempty]
    · simp [hfits, hempty]
  · simp [hfits]

/-- **The accumulator cuts the stream where the parser does.** -/
theorem feed_initial (stream : Bytes) :
    initial.feed stream = (partialAccumulator (opened frameDelimiter stream), framesOf (closed frameDelimiter stream)) := by
  induction stream using List.reverseRecOn with
  | nil => simp [feed, framesOf, partialAccumulator, initial]
  | append_singleton stream b ih =>
    rw [feed_append, ih]
    simp only [feed, List.append_nil]
    by_cases hb : b = frameDelimiter
    · subst hb
      rw [show (frameDelimiter : UInt8) = 0 from rfl, feedByte_zero, opened_append_delimiter, closed_append_delimiter]
      simp [framesOf]
    · have hfree : frameDelimiter ∉ [b] := by simpa using Ne.symm hb
      rw [feedByte_of_ne _ hb, opened_append_free _ hfree, closed_append_free _ hfree, List.append_nil]

end StreamAccumulator

/-- What `decode_frame` takes of the frames that `feed` hands out. -/
def acceptedFrames (frames : List Bytes) : List Frame :=
  frames.filterMap fun encoded => (decodeFrame encoded true).toOption.map PyFrame.toFrame

/-- The frames that the parser of the firmware delivers. -/
def deliveredFrames (reports : List Report) : List Frame :=
  reports.filterMap fun report => if report.event = .frameReady then some report.frame else none

theorem candidateReport_delivered {candidate : Bytes} (hlen : candidate.length ≤ maxCandidate) :
    deliveredFrames [candidateReport candidate] = (acceptFrame (candidate ++ [0])).toOption.toList := by
  unfold candidateReport acceptFrame
  rw [if_neg (Nat.not_lt.2 (show candidate.length ≤ maxCobsCandidateSize from hlen)),
    show (frameDelimiter : UInt8) = 0 from rfl]
  by_cases hok : (Host.decodeFrame (candidate ++ [0])).1 = .ok
  · simp [deliveredFrames, hok, Except.toOption]
  · simp [deliveredFrames, hok, Except.toOption]

/-- **The same frames**, in the same order. -/
theorem accepted_eq (stream : Bytes) :
    acceptedFrames (StreamAccumulator.initial.feed stream).2 = deliveredFrames (streamEvents stream) := by
  rw [StreamAccumulator.feed_initial]
  have hfree : ∀ c ∈ closed frameDelimiter stream, ∀ b ∈ c, b ≠ 0 := by
    intro c hc b hb hz
    obtain ⟨p, t, -, hfree, -⟩ := mem_closed hc
    rw [hz] at hb
    exact hfree hb
  unfold streamEvents
  generalize closed frameDelimiter stream = candidates at hfree
  induction candidates with
  | nil => rfl
  | cons c candidates ih =>
    have hrest := ih fun c' hc' => hfree c' (List.mem_cons_of_mem _ hc')
    have hsplit : acceptedFrames (StreamAccumulator.framesOf (c :: candidates)) =
        acceptedFrames (StreamAccumulator.framesOf [c]) ++ acceptedFrames (StreamAccumulator.framesOf candidates) := by
      rw [← List.singleton_append]
      simp only [acceptedFrames, StreamAccumulator.framesOf, List.filter_append, List.map_append, List.filterMap_append]
    have hsplit' : deliveredFrames (reportsOf (c :: candidates)) =
        deliveredFrames (reportsOf [c]) ++ deliveredFrames (reportsOf candidates) := by
      rw [← List.singleton_append, reportsOf_append]
      simp only [deliveredFrames, List.filterMap_append]
    rw [hsplit, hsplit', hrest]
    congr 1
    by_cases hempty : c = []
    · subst hempty
      rfl
    by_cases hlong : c.length ≤ maxCandidate
    · have hframes : StreamAccumulator.framesOf [c] = [c ++ [0]] := by simp [StreamAccumulator.framesOf, hempty, hlong]
      have hreports : reportsOf [c] = [candidateReport c] := by simp [reportsOf, hempty]
      rw [hframes, hreports, candidateReport_delivered hlong,
        ← decodeFrame_eq hempty (hfree c List.mem_cons_self) hlong]
      cases hdecoded : decodeFrame (c ++ [0]) true with
      | error e => simp [acceptedFrames, hdecoded, Except.toOption]
      | ok frame => simp [acceptedFrames, hdecoded, Except.toOption]
    · have hframes : StreamAccumulator.framesOf [c] = [] := by simp [StreamAccumulator.framesOf, hlong]
      have hreports : reportsOf [c] = [⟨.oversizedCandidate, .encodedFrameTooLarge, default⟩] := by
        have hover : maxCobsCandidateSize < c.length := Nat.lt_of_not_le hlong
        simp [reportsOf, hempty, candidateReport, hover]
      rw [hframes, hreports]
      rfl

/-! ### Requests -/

/-- The number that a scalar value stands for. -/
def number (value : TypedValue) : ℤ :=
  if value.type = ValueType.boolean then (byteAt value.bytes 0).toNat
  else if value.type = ValueType.normalizedU16 ∨ value.type = ValueType.enumU16 then (readUint16Le value.bytes 0).toNat
  else if value.type = ValueType.unsigned32 then (readUint32Le value.bytes 0).toNat
  else if (readUint32Le value.bytes 0).toNat < 2 ^ 31 then (readUint32Le value.bytes 0).toNat
  else (readUint32Le value.bytes 0).toNat - 2 ^ 32

/-- The typed value carries the Python value. -/
def Carries (typed : TypedValue) (value : PyObject) : Prop :=
  if typed.type = ValueType.none then typed.bytes = []
  else if typed.type = structureValueType then value.bytes? = some typed.bytes
  else value.int? = some (number typed)

/-- The bytes of a typed value in a payload. -/
def valueBytes (value : TypedValue) : Bytes := [value.type, value.bytes.length.toUInt8] ++ value.bytes

theorem packB_ok {n : ℤ} {bytes : Bytes} (h : packB n = .ok bytes) : ∃ byte : UInt8, bytes = [byte] ∧ (byte.toNat : ℤ) = n := by
  unfold packB at h
  split at h
  · rename_i hn
    cases h
    refine ⟨_, rfl, ?_⟩
    rw [Nat.toUInt8_eq, UInt8.toNat_ofNat']
    omega
  · cases h

theorem packH_ok {n : ℤ} {bytes : Bytes} (h : packH n = .ok bytes) :
    ∃ word : UInt16, bytes = writeUint16Le word ∧ (word.toNat : ℤ) = n := by
  unfold packH at h
  split at h
  · rename_i hn
    cases h
    refine ⟨_, rfl, ?_⟩
    rw [Nat.toUInt16_eq, UInt16.toNat_ofNat']
    omega
  · cases h

theorem packI_ok {n : ℤ} {bytes : Bytes} (h : packI n = .ok bytes) :
    ∃ word : UInt32, bytes = writeUint32Le word ∧ (word.toNat : ℤ) = n := by
  unfold packI at h
  split at h
  · rename_i hn
    cases h
    refine ⟨_, rfl, ?_⟩
    rw [Nat.toUInt32_eq, UInt32.toNat_ofNat']
    omega
  · cases h

theorem packi_ok {n : ℤ} {bytes : Bytes} (h : packi n = .ok bytes) :
    ∃ word : UInt32, bytes = writeUint32Le word ∧
      n = if word.toNat < 2 ^ 31 then (word.toNat : ℤ) else word.toNat - 2 ^ 32 := by
  unfold packi at h
  split at h
  · rename_i hn
    cases h
    refine ⟨_, rfl, ?_⟩
    rw [Nat.toUInt32_eq, UInt32.toNat_ofNat']
    split <;> omega
  · cases h

theorem readUint16Le_writeUint16Le (word : UInt16) : readUint16Le (writeUint16Le word) 0 = word := uint16_of_bytes word

theorem readUint32Le_writeUint32Le (word : UInt32) : readUint32Le (writeUint32Le word) 0 = word := uint32_of_bytes word

theorem toInt_ok {value : PyObject} {n : ℤ} (h : toInt value = .ok n) : value.int? = some n := by
  unfold toInt at h
  split at h
  · cases h
  · rename_i hsome
    cases h
    exact hsome

/-- **What `typed_value` writes** is a scalar value of its type. -/
theorem typedValue_ok {kind : ℤ} {value : PyObject} {bytes : Bytes} (h : typedValue kind value = .ok bytes) :
    ∃ typed : TypedValue, bytes = valueBytes typed ∧ (typed.type.toNat : ℤ) = kind ∧
      isValidScalarValue typed = true ∧ Carries typed value := by
  obtain ⟨raw, hraw, hbytes⟩ := bind_eq_ok.1 h
  cases hbytes
  unfold rawValue at hraw
  split at hraw
  · rename_i hkind
    subst hkind
    cases hraw
    exact ⟨⟨0, []⟩, rfl, rfl, rfl, rfl⟩
  split at hraw
  · rename_i hkind
    subst hkind
    split at hraw
    · cases hraw
    rename_i hbool
    obtain ⟨n, hint, hpack⟩ := bind_eq_ok.1 hraw
    obtain ⟨byte, rfl, hbyte⟩ := packB_ok hpack
    have hvalue := toInt_ok hint
    have hle : n ≤ 1 := by
      by_cases hzero : value.equals 0 = true
      · rw [value.int_of_equals 0 hzero] at hvalue
        cases hvalue
        decide
      · by_cases hone : value.equals 1 = true
        · rw [value.int_of_equals 1 hone] at hvalue
          cases hvalue
          decide
        · exact absurd ⟨by simpa using hzero, by simpa using hone⟩ hbool
    have hbyte' : byte ≤ 1 := by
      rw [UInt8.le_iff_toNat_le, UInt8.toNat_one]
      omega
    refine ⟨⟨1, [byte]⟩, rfl, rfl, ?_, ?_⟩
    · simp [isValidScalarValue, byteAt, hbyte']
      decide
    · change value.int? = some (byte.toNat : ℤ)
      rw [hvalue, hbyte]
  split at hraw
  · rename_i hkind
    obtain ⟨n, hint, hpack⟩ := bind_eq_ok.1 hraw
    obtain ⟨word, rfl, hword⟩ := packH_ok hpack
    have hvalue := toInt_ok hint
    rw [← hword, ← readUint16Le_writeUint16Le word] at hvalue
    rcases hkind with rfl | rfl
    · exact ⟨⟨4, writeUint16Le word⟩, rfl, rfl, rfl, hvalue⟩
    · exact ⟨⟨6, writeUint16Le word⟩, rfl, rfl, rfl, hvalue⟩
  split at hraw
  · rename_i hkind
    subst hkind
    obtain ⟨n, hint, hpack⟩ := bind_eq_ok.1 hraw
    obtain ⟨word, rfl, hword⟩ := packI_ok hpack
    have hvalue := toInt_ok hint
    rw [← hword, ← readUint32Le_writeUint32Le word] at hvalue
    exact ⟨⟨2, writeUint32Le word⟩, rfl, rfl, rfl, hvalue⟩
  split at hraw
  · rename_i hkind
    obtain ⟨n, hint, hpack⟩ := bind_eq_ok.1 hraw
    obtain ⟨word, rfl, hword⟩ := packi_ok hpack
    have hvalue := toInt_ok hint
    rw [hword, ← readUint32Le_writeUint32Le word] at hvalue
    rcases hkind with rfl | rfl
    · exact ⟨⟨3, writeUint32Le word⟩, rfl, rfl, rfl, hvalue⟩
    · exact ⟨⟨5, writeUint32Le word⟩, rfl, rfl, rfl, hvalue⟩
  · cases hraw

/-- **What `CONSUME_EVENT` carries** is an identity that the firmware accepts. -/
theorem consumeValue_ok {value : PyObject} {bytes : Bytes} (h : consumeValue value = .ok bytes) :
    ∃ typed : TypedValue, bytes = valueBytes typed ∧ typed.type = structureValueType ∧ typed.bytes.length = 9 ∧
      (decodeHostEventIdentity typed.bytes).toBool = true ∧ Carries typed value := by
  unfold consumeValue at h
  split at h
  · cases h
  rename_i raw hraw
  split at h
  · cases h
  rename_i hlen
  rw [not_not] at hlen
  obtain ⟨identity, hidentity, hbytes⟩ := bind_eq_ok.1 h
  cases hbytes
  refine ⟨⟨structureValueType, raw⟩, ?_, rfl, hlen, ?_, hraw⟩
  · rw [valueBytes, hlen]
    rfl
  -- the checks of the identity are those of the firmware
  unfold decodeEventIdentity at hidentity
  rw [if_neg (not_not.2 hlen)] at hidentity
  obtain ⟨packed, hpacked, -⟩ := bind_eq_ok.1 hidentity
  unfold encodeEventIdentity at hpacked
  split at hpacked
  · cases hpacked
  rename_i hrange
  rw [not_or, not_or, not_not, not_not, not_not] at hrange
  obtain ⟨⟨hsource, -⟩, ⟨hepoch, -⟩, hid, -⟩ := hrange
  have hvalid : isValidHostEventIdentity ⟨byteAt raw 0, readUint32Le raw 1, readUint32Le raw 5⟩ = true := by
    simp only [isValidHostEventIdentity, Bool.and_eq_true, bne_iff_ne, ne_eq]
    refine ⟨⟨?_, ?_⟩, ?_⟩
    · intro hc
      rw [hc] at hsource
      simp at hsource
    · intro hc
      rw [hc] at hepoch
      simp at hepoch
    · intro hc
      rw [hc] at hid
      simp at hid
  unfold decodeHostEventIdentity
  rw [if_neg (not_not.2 (show raw.length = hostEventIdentitySize from hlen))]
  simp [hvalid, Except.toBool]

/-- A payload is read back field by field. -/
theorem decodeOperationRequest_eq {minor c o d : UInt8} {t : UInt16} {v : TypedValue} (hlen : v.bytes.length ≤ 9)
    (hvalue : v.type = structureValueType ∨ isValidScalarValue v = true)
    (hvalid : validateOperationRequest minor ⟨c, o, d, t, v⟩ = .ok) :
    decodeOperationRequest minor ([c] ++ [o] ++ [d] ++ writeUint16Le t ++ valueBytes v) = .ok ⟨c, o, d, t, v⟩ := by
  generalize hinput : [c] ++ [o] ++ [d] ++ writeUint16Le t ++ valueBytes v = input
  have hsize : input.length = 7 + v.bytes.length := by
    rw [← hinput]
    simp only [valueBytes, List.length_append, List.length_cons, List.length_nil, length_writeUint16Le]
    omega
  have hbyte : (byteAt input 6).toNat = v.bytes.length := by
    have hat : byteAt input 6 = v.bytes.length.toUInt8 := by
      rw [← hinput]
      rfl
    rw [hat, Nat.toUInt8_eq, UInt8.toNat_ofNat']
    omega
  have htarget : readUint16Le input 3 = t := by
    rw [← hinput]
    exact uint16_of_bytes t
  have hrequest : (⟨byteAt input 0, byteAt input 1, byteAt input 2, readUint16Le input 3,
      ⟨byteAt input 5, input.drop operationRequestFixedSize⟩⟩ : OperationRequest) = ⟨c, o, d, t, v⟩ := by
    rw [htarget, ← hinput]
    rfl
  unfold decodeOperationRequest
  rw [if_neg (by rw [operationRequestFixedSize, maxPayloadSize]; omega),
    if_neg (by rw [operationRequestFixedSize, hbyte]; omega)]
  extract_lets candidate
  have hcandidate : candidate = ⟨c, o, d, t, v⟩ := hrequest
  clear_value candidate
  subst hcandidate
  rw [hvalid, if_neg, if_neg (not_not.2 rfl)]
  rintro ⟨hne, hscalar⟩
  rcases hvalue with hstructure | hok
  · exact hne hstructure
  · rw [hok] at hscalar
    cases hscalar

theorem validate_of {minor c o d : UInt8} {t : UInt16} {v : TypedValue}
    (hclass : classifyCategoryOperation minor c o = .valid) (htarget : isValidOperationTarget c o t = true)
    (hcategory : c ≠ OperationCategory.event) (hvalue : isValidOperationRequestValue o v = true) :
    validateOperationRequest minor ⟨c, o, d, t, v⟩ = .ok := by
  unfold validateOperationRequest
  rw [hclass]
  simp [htarget, hcategory, hvalue]

/-- The request that the payload stands for. -/
structure Asks (request : OperationRequest) (category operation targetDevice targetId valueType : ℤ)
    (value : PyObject) : Prop where
  category : (request.category.toNat : ℤ) = category
  operation : (request.operation.toNat : ℤ) = operation
  targetDevice : (request.targetDeviceId.toNat : ℤ) = targetDevice
  targetId : (request.targetId.toNat : ℤ) = targetId
  valueType : (request.value.type.toNat : ℤ) = valueType
  value : Carries request.value value

theorem byte_eq {x y : UInt8} {n : ℤ} (hx : (x.toNat : ℤ) = n) (hy : (y.toNat : ℤ) = n) : x = y :=
  UInt8.toNat_inj.1 (Int.ofNat_inj.1 (hx.trans hy.symm))

theorem none_of_type {typed : TypedValue} {value : PyObject} (htype : (typed.type.toNat : ℤ) = 0)
    (hcarries : Carries typed value) : typed = noneValue := by
  obtain ⟨type, bytes⟩ := typed
  obtain rfl : type = 0 := byte_eq htype rfl
  have hbytes : bytes = [] := hcarries
  rw [hbytes]
  rfl

theorem cursor_of_type {typed : TypedValue} (htype : (typed.type.toNat : ℤ) = 2)
    (hscalar : isValidScalarValue typed = true) : isCursorValue typed = true := by
  have hunsigned : typed.type = ValueType.unsigned32 := byte_eq htype rfl
  rw [isCursorValue, hunsigned, hscalar]
  rfl

/-- **The requests of the reference pass the checks of the firmware.** -/
theorem validate_payload {minor : UInt8} {c o d : UInt8} {t : UInt16} {v : TypedValue} {value : PyObject}
    (hminor : minor = 1 ∨ minor = 2) (hpair : (o.toNat : ℤ) ∈ pairs minor.toNat c.toNat)
    (hzero : ¬ (((c.toNat : ℤ) ∈ ([1, 4, 5] : List ℤ) ∨ (o.toNat : ℤ) = 0x23) ∧ (t.toNat : ℤ) ≠ 0))
    (hnonzero : ¬ ((o.toNat : ℤ) ∈ ([0x24, 0x25, 0x26, 0x27] : List ℤ) ∧ (t.toNat : ℤ) = 0))
    (htype : (v.type.toNat : ℤ) ∈ allowed o.toNat)
    (hpage : ¬ ((o.toNat : ℤ) = 0x2B ∧ (v.type.toNat : ℤ) = 2 ∧ value.equals 1 = false))
    (hscalar : o ≠ 0x2A → isValidScalarValue v = true)
    (hidentity : o = 0x2A → v.type = structureValueType ∧ v.bytes.length = 9 ∧
      (decodeHostEventIdentity v.bytes).toBool = true)
    (hcarries : Carries v value) : validateOperationRequest minor ⟨c, o, d, t, v⟩ = .ok := by
  have htarget : (c.toNat : ℤ) ∈ ([1, 4, 5] : List ℤ) ∨ (o.toNat : ℤ) = 0x23 → t = 0 := by
    intro hneeds
    by_contra hc
    exact hzero ⟨hneeds, fun h => hc (UInt16.toNat_inj.1 (by simpa using h))⟩
  have htarget' : (o.toNat : ℤ) ∈ ([0x24, 0x25, 0x26, 0x27] : List ℤ) → t ≠ 0 := by
    rintro hneeds rfl
    exact hnonzero ⟨hneeds, rfl⟩
  have hcursor : (v.type.toNat : ℤ) ∈ ([0, 2] : List ℤ) → isValidScalarValue v = true →
      (isNoneValue v || isCursorValue v) = true := by
    intro hkind hs
    simp only [List.mem_cons, List.not_mem_nil, or_false] at hkind
    rcases hkind with hkind | hkind
    · rw [none_of_type hkind hcarries]
      rfl
    · rw [cursor_of_type hkind hs, Bool.or_true]
  have hnone : (v.type.toNat : ℤ) ∈ ([0] : List ℤ) → isNoneValue v = true := by
    intro hkind
    rw [none_of_type (List.mem_singleton.1 hkind) hcarries]
    rfl
  have hcapability : ∀ op : UInt8, op ≠ OperationCode.getCapabilities → t ≠ 0 →
      isValidOperationTarget OperationCategory.capability op t = true := by
    intro op hop ht
    have hne : (t != invalidCapabilityId) = true := by simpa [invalidCapabilityId] using ht
    simp [isValidOperationTarget, OperationCategory.capability, OperationCategory.device, OperationCategory.diagnostic,
      hop, hne]
  have hselector : (v.type.toNat : ℤ) = 2 → ¬ value.equals 1 = false → readUint32Le v.bytes 0 = 1 := by
    intro hkind hone
    have hint := value.int_of_equals 1 (by simpa using hone)
    have hunsigned : v.type = ValueType.unsigned32 := byte_eq hkind rfl
    have hnumber : value.int? = some ((readUint32Le v.bytes 0).toNat : ℤ) := by
      rw [Carries, number, hunsigned] at hcarries
      exact hcarries
    rw [hint, Option.some.injEq] at hnumber
    exact UInt32.toNat_inj.1 (Int.ofNat_inj.1 hnumber.symm)
  unfold pairs at hpair
  split at hpair
  · -- the device
    rename_i hc
    obtain rfl : c = 1 := byte_eq hc rfl
    obtain rfl := htarget (.inl (by simp))
    simp only [List.mem_cons, List.not_mem_nil, or_false] at hpair
    rcases hpair with ho | ho | ho
    · obtain rfl : o = 0x20 := byte_eq ho rfl
      exact validate_of (by rcases hminor with rfl | rfl <;> decide) (by decide) (by decide) (hnone htype)
    · obtain rfl : o = 0x21 := byte_eq ho rfl
      exact validate_of (by rcases hminor with rfl | rfl <;> decide) (by decide) (by decide) (hnone htype)
    · obtain rfl : o = 0x22 := byte_eq ho rfl
      exact validate_of (by rcases hminor with rfl | rfl <;> decide) (by decide) (by decide) (hnone htype)
  split at hpair
  · -- the capabilities
    rename_i hc
    obtain rfl : c = 2 := byte_eq hc rfl
    simp only [List.mem_cons, List.not_mem_nil, or_false] at hpair
    rcases hpair with ho | ho | ho | ho
    · obtain rfl : o = 0x23 := byte_eq ho rfl
      obtain rfl := htarget (.inr rfl)
      exact validate_of (by rcases hminor with rfl | rfl <;> decide) (by decide) (by decide)
        (hcursor htype (hscalar (by decide)))
    · obtain rfl : o = 0x24 := byte_eq ho rfl
      exact validate_of (by rcases hminor with rfl | rfl <;> decide) (hcapability 0x24 (by decide) (htarget' (by simp)))
        (by decide) (hnone htype)
    · obtain rfl : o = 0x25 := byte_eq ho rfl
      exact validate_of (by rcases hminor with rfl | rfl <;> decide) (hcapability 0x25 (by decide) (htarget' (by simp)))
        (by decide) (hnone htype)
    · obtain rfl : o = 0x26 := byte_eq ho rfl
      have hboolean : v.type = ValueType.boolean := byte_eq (List.mem_singleton.1 htype) rfl
      refine validate_of (by rcases hminor with rfl | rfl <;> decide) (hcapability 0x26 (by decide) (htarget' (by simp)))
        (by decide) ?_
      change (v.type == ValueType.boolean && isValidScalarValue v) = true
      rw [hboolean, hscalar (by decide)]
      rfl
  split at hpair
  · -- a procedure
    rename_i hc
    obtain rfl : c = 3 := byte_eq hc rfl
    obtain rfl : o = 0x27 := byte_eq (List.mem_singleton.1 hpair) rfl
    refine validate_of (by rcases hminor with rfl | rfl <;> decide) ?_ (by decide) (hscalar (by decide))
    change (t != 0) = true
    simpa using htarget' (by simp)
  split at hpair
  · -- the diagnostics
    rename_i hc
    obtain rfl : c = 4 := byte_eq hc rfl
    obtain rfl := htarget (.inl (by simp))
    have hcases : o = 0x28 ∨ minor = 2 ∧ o = 0x2B := by
      split at hpair
      · rename_i htwo
        simp only [List.mem_cons, List.not_mem_nil, or_false] at hpair
        exact hpair.imp (fun ho => byte_eq ho rfl) fun ho => ⟨byte_eq htwo rfl, byte_eq ho rfl⟩
      · exact .inl (byte_eq (List.mem_singleton.1 hpair) rfl)
    rcases hcases with rfl | ⟨rfl, rfl⟩
    · exact validate_of (by rcases hminor with rfl | rfl <;> decide) (by decide) (by decide)
        (hcursor htype (hscalar (by decide)))
    · refine validate_of (by decide) (by decide) (by decide) ?_
      change (isNoneValue v || (isCursorValue v && readUint32Le v.bytes 0 == 1)) = true
      have hkind : (v.type.toNat : ℤ) = 0 ∨ (v.type.toNat : ℤ) = 2 := by simpa [allowed] using htype
      rcases hkind with hkind | hkind
      · rw [none_of_type hkind hcarries]
        rfl
      · rw [cursor_of_type hkind (hscalar (by decide)), hselector hkind fun hc => hpage ⟨rfl, hkind, hc⟩]
        simp
  split at hpair
  · -- the Events
    rename_i hc
    obtain rfl : c = 5 := byte_eq hc rfl
    obtain rfl := htarget (.inl (by simp))
    split at hpair
    · rename_i htwo
      obtain rfl : minor = 2 := byte_eq htwo rfl
      simp only [List.mem_cons, List.not_mem_nil, or_false] at hpair
      rcases hpair with ho | ho
      · obtain rfl : o = 0x29 := byte_eq ho rfl
        rw [none_of_type (List.mem_singleton.1 htype) hcarries]
        rfl
      · obtain rfl : o = 0x2A := byte_eq ho rfl
        obtain ⟨hstructure, hlen, hdecoded⟩ := hidentity rfl
        change (if (v.type == structureValueType && v.bytes.length == hostEventIdentitySize &&
          (decodeHostEventIdentity v.bytes).toBool) = true then PayloadResult.ok else .invalidValue) = .ok
        rw [hstructure, hlen, hdecoded]
        rfl
    · cases hpair
  · cases hpair

/-- What has been checked when a payload is built. -/
theorem operationPayload_ok {category operation targetDevice targetId valueType minor : ℤ} {value : PyObject}
    {payload : Bytes} (h : operationPayload category operation targetDevice targetId valueType value minor = .ok payload) :
    (operation ∈ pairs minor category ∧ ¬ ((category ∈ ([1, 4, 5] : List ℤ) ∨ operation = 0x23) ∧ targetId ≠ 0) ∧
      ¬ (operation ∈ ([0x24, 0x25, 0x26, 0x27] : List ℤ) ∧ targetId = 0) ∧ valueType ∈ allowed operation ∧
      ¬ (operation = 0x2B ∧ valueType = 2 ∧ value.equals 1 = false)) ∧
    ∃ (c o d : UInt8) (t : UInt16) (typed : Bytes), (c.toNat : ℤ) = category ∧ (o.toNat : ℤ) = operation ∧
      (d.toNat : ℤ) = targetDevice ∧ (t.toNat : ℤ) = targetId ∧ payloadValue operation valueType value = .ok typed ∧
      payload = [c] ++ [o] ++ [d] ++ writeUint16Le t ++ typed := by
  unfold operationPayload at h
  split at h
  · cases h
  rename_i hpair
  split at h
  · cases h
  rename_i hzero
  split at h
  · cases h
  rename_i hnonzero
  split at h
  · cases h
  rename_i htype
  split at h
  · cases h
  rename_i hpage
  refine ⟨⟨not_not.1 hpair, hzero, hnonzero, not_not.1 htype, hpage⟩, ?_⟩
  obtain ⟨typed, htyped, h⟩ := bind_eq_ok.1 h
  obtain ⟨b1, h1, h⟩ := bind_eq_ok.1 h
  obtain ⟨b2, h2, h⟩ := bind_eq_ok.1 h
  obtain ⟨b3, h3, h⟩ := bind_eq_ok.1 h
  obtain ⟨b4, h4, h⟩ := bind_eq_ok.1 h
  obtain ⟨c, rfl, hc⟩ := packB_ok h1
  obtain ⟨o, rfl, ho⟩ := packB_ok h2
  obtain ⟨d, rfl, hd⟩ := packB_ok h3
  obtain ⟨t, rfl, ht⟩ := packH_ok h4
  exact ⟨c, o, d, t, typed, hc, ho, hd, ht, htyped, (Except.ok.inj h).symm⟩

theorem payloadValue_ok {operation valueType : ℤ} {value : PyObject} {typed : Bytes}
    (htype : valueType ∈ allowed operation) (h : payloadValue operation valueType value = .ok typed) :
    ∃ v : TypedValue, typed = valueBytes v ∧ (v.type.toNat : ℤ) = valueType ∧ v.bytes.length ≤ 9 ∧ Carries v value ∧
      (operation ≠ 0x2A → isValidScalarValue v = true) ∧
      (operation = 0x2A → v.type = structureValueType ∧ v.bytes.length = 9 ∧
        (decodeHostEventIdentity v.bytes).toBool = true) := by
  unfold payloadValue at h
  split at h
  · rename_i hop
    subst hop
    obtain ⟨v, hbytes, hstructure, hlen, hidentity, hcarries⟩ := consumeValue_ok h
    refine ⟨v, hbytes, ?_, Nat.le_of_eq hlen, hcarries, fun hc => absurd rfl hc, fun _ => ⟨hstructure, hlen, hidentity⟩⟩
    rw [hstructure]
    exact (List.mem_singleton.1 htype).symm
  · rename_i hop
    obtain ⟨v, hbytes, hkind, hscalar, hcarries⟩ := typedValue_ok h
    exact ⟨v, hbytes, hkind, le_trans (scalar_bounds hscalar).1 (by decide), hcarries, fun _ => hscalar,
      fun hc => absurd hc hop⟩

theorem operationPayload_accepted {category operation targetDevice targetId valueType minor : ℤ} {value : PyObject}
    {payload : Bytes} (hminor : minor = 1 ∨ minor = 2)
    (h : operationPayload category operation targetDevice targetId valueType value minor = .ok payload) :
    ∃ request, decodeOperationRequest minor.toNat.toUInt8 payload = .ok request ∧
      Asks request category operation targetDevice targetId valueType value := by
  obtain ⟨⟨hpair, hzero, hnonzero, htype, hpage⟩, c, o, d, t, typed, rfl, rfl, rfl, rfl, htyped, rfl⟩ :=
    operationPayload_ok h
  obtain ⟨v, rfl, rfl, hlen, hcarries, hscalar, hidentity⟩ := payloadValue_ok htype htyped
  have hop : (o.toNat : ℤ) = 0x2A ↔ o = 0x2A := by
    constructor
    · exact fun ho => byte_eq ho rfl
    · rintro rfl
      rfl
  rw [ne_eq, hop] at hscalar
  rw [hop] at hidentity
  obtain ⟨m, hm, hm'⟩ : ∃ m : UInt8, (m = 1 ∨ m = 2) ∧ (m.toNat : ℤ) = minor := by
    rcases hminor with rfl | rfl
    · exact ⟨1, .inl rfl, rfl⟩
    · exact ⟨2, .inr rfl, rfl⟩
  subst hm'
  have hvalid : validateOperationRequest m ⟨c, o, d, t, v⟩ = .ok :=
    validate_payload hm hpair hzero hnonzero htype hpage hscalar hidentity hcarries
  have hvalue : v.type = structureValueType ∨ isValidScalarValue v = true := by
    by_cases hconsume : o = 0x2A
    · exact .inl (hidentity hconsume).1
    · exact .inr (hscalar hconsume)
  rw [Int.toNat_natCast, Nat.toUInt8_eq, UInt8.ofNat_toNat]
  exact ⟨⟨c, o, d, t, v⟩, decodeOperationRequest_eq hlen hvalue hvalid, rfl, rfl, rfl, rfl, rfl, hcarries⟩

/-! ### One protocol -/

/-- The reference host speaks the protocol of the firmware. -/
structure SpeaksTheProtocol : Prop where
  /-- The bytes arrive in chunks, cut in any way on either side. -/
  streams : ∀ chunks chunks' : List Bytes, chunks.flatten = chunks'.flatten →
    acceptedFrames (StreamAccumulator.initial.feeds chunks).2 =
      deliveredFrames (StreamParser.reset.feedChunks chunks').2
  /-- The request ID zero is built when it is not validated. -/
  frames : ∀ frame : Frame, frame.Sendable → ∀ validate : Bool, (validate = true → frame.requestId ≠ 0) →
    ∃ encoded, encodeFrame frame maxEncodedFrameSize = .ok encoded ∧
      buildFrame frame.messageType.toNat frame.requestId.toNat frame.payload frame.major.toNat frame.minor.toNat
        frame.flags.toNat validate = .ok (frameBytes frame, encoded)
  payloads : ∀ (category operation targetDevice targetId valueType minor : ℤ) (value : PyObject) (payload : Bytes),
    minor = 1 ∨ minor = 2 →
    operationPayload category operation targetDevice targetId valueType value minor = .ok payload →
      ∃ request, decodeOperationRequest minor.toNat.toUInt8 payload = .ok request ∧
        Asks request category operation targetDevice targetId valueType value

/-- **The reference host and the firmware speak one protocol.** -/
theorem speaksTheProtocol : SpeaksTheProtocol where
  streams := fun chunks chunks' h => by
    rw [StreamAccumulator.feeds_eq, StreamParser.feedChunks_feed, StreamParser.feed_reset, ← h, accepted_eq]
  frames := fun frame h validate hid =>
    ⟨_, encodeFrame_eq h (Nat.le_refl _), buildFrame_eq h hid⟩
  payloads := fun _ _ _ _ _ _ _ _ hminor h => operationPayload_accepted hminor h

/-- A PROTOCOL_ERROR that answers no request. -/
def unrelatedError : Frame :=
  ⟨versionMajor, versionMinor01, MessageType.protocolError, flagsNone, 0, [5, 0x10, 0, 0]⟩

/-- The frame is valid, and `build_frame` refuses it. -/
theorem buildFrame_refuses_unrelated :
    unrelatedError.Sendable ∧ (encodeFrame unrelatedError maxEncodedFrameSize).toBool = true ∧
      buildFrame unrelatedError.messageType.toNat unrelatedError.requestId.toNat unrelatedError.payload
        unrelatedError.major.toNat unrelatedError.minor.toNat unrelatedError.flags.toNat true =
          .error (.protocolFailure "request ID zero is reserved") :=
  ⟨⟨by decide, by decide, by decide, by decide, by decide⟩, by decide +kernel, rfl⟩

end Redline.Host.Reference
