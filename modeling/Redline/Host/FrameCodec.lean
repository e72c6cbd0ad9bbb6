import Redline.Lib.Codec
import Redline.Wire.Slices
import Redline.Host.Frame

/-!
# Frames have one encoding

The converse of the round trip of `Host.Frame`.  A string that COBS accepts is the stuffing of what it decodes to: a
candidate of at most 139 bytes has no block of 254, and without such a block the blocks of a string are determined by
its zeros (`cobsDecodeLoop_inv`).  What the other checks of `decodeFrame` leave is the unstuffed frame
(`frameBytes_of_checks`).
-/

namespace Redline.Host

open Redline.Wire Redline.Lib

/-! ### Stuffing -/

/-- Bytes that are not zero go to the open block. -/
theorem stuffed_append {bytes : Bytes} (hz : ∀ b ∈ bytes, b ≠ 0) (block rest : Bytes) :
    stuffed block (bytes ++ rest) = stuffed (block ++ bytes) rest := by
  induction bytes generalizing block with
  | nil => rw [List.nil_append, List.append_nil]
  | cons b bytes ih =>
    rw [List.cons_append, stuffed, if_neg (hz b List.mem_cons_self), ih fun c hc => hz c (List.mem_cons_of_mem _ hc),
      List.append_assoc, List.singleton_append]

theorem blockCode_ne_zero {n : ℕ} (h : n < 0xFF) : (n + 1).toUInt8 ≠ 0 := by
  intro hc
  have := congrArg UInt8.toNat hc
  simp only [Nat.toUInt8_eq, UInt8.toNat_ofNat'] at this
  simp at this
  omega

/-- The only zeros of a short input are those that the blocks stand for. -/
theorem stuffed_ne_zero {input block : Bytes} (hz : ∀ b ∈ block, b ≠ 0) (hshort : block.length + input.length < 0xFF) :
    ∀ b ∈ stuffed block input, b ≠ 0 := by
  induction input generalizing block with
  | nil =>
    intro b hb
    rcases List.mem_cons.1 hb with rfl | hb
    · exact blockCode_ne_zero hshort
    · exact hz b hb
  | cons value input ih =>
    rw [List.length_cons] at hshort
    unfold stuffed
    split
    · intro b hb
      rcases List.mem_cons.1 hb with rfl | hb
      · exact blockCode_ne_zero (by omega)
      · rcases List.mem_append.1 hb with hb | hb
        · exact hz b hb
        · exact ih (by simp) (by rw [List.length_nil]; omega) b hb
    · rename_i hv
      refine ih (fun b hb => ?_) (by rw [List.length_append, List.length_singleton]; omega)
      rcases List.mem_append.1 hb with hb | hb
      · exact hz b hb
      · rw [List.mem_singleton.1 hb]
        exact hv

/-- A round of the decoder takes a block off the input. -/
theorem cobsDecodeLoop_cons_inv {outputCapacity rounds : ℕ} {code : UInt8} {input output decoded : Bytes}
    (h : cobsDecodeLoop outputCapacity (rounds + 1) (code :: input) output = .ok decoded) :
    ∃ block rest, input = block ++ rest ∧ block.length + 1 = code.toNat ∧ (∀ b ∈ block, b ≠ 0) ∧
      cobsDecodeLoop outputCapacity rounds rest
        (output ++ block ++ if code ≠ 0xFF ∧ rest ≠ [] then [0] else []) = .ok decoded := by
  rw [cobsDecodeLoop] at h
  split at h
  · cases h
  · rename_i hcode
    dsimp only at h
    split at h
    · cases h
    · rename_i hlen
      split at h
      · cases h
      · split at h
        · cases h
        · rename_i hany
          have hpos : 0 < code.toNat := by
            rw [Nat.pos_iff_ne_zero]
            intro hc
            exact hcode (UInt8.toNat_inj.1 hc)
          refine ⟨input.take (code.toNat - 1), input.drop (code.toNat - 1), (List.take_append_drop _ _).symm, ?_, ?_, ?_⟩
          · rw [List.length_take]
            omega
          · rw [List.any_eq_true] at hany
            intro b hb hzero
            exact hany ⟨b, hb, by simp [hzero]⟩
          · split
            · rename_i hmore
              rw [if_pos hmore] at h
              split at h
              · cases h
              · exact h
            · rename_i hmore
              rwa [if_neg hmore, ← List.append_nil (output ++ _)] at h

/-- **COBS is canonical below its longest block.** -/
theorem cobsDecodeLoop_inv {outputCapacity rounds : ℕ} {input output decoded : Bytes} (hne : input ≠ [])
    (hshort : input.length < 0xFF) (h : cobsDecodeLoop outputCapacity rounds input output = .ok decoded) :
    ∃ suffix, decoded = output ++ suffix ∧ input = stuffed [] suffix := by
  induction rounds generalizing input output with
  | zero =>
    obtain ⟨code, input, rfl⟩ := List.exists_cons_of_ne_nil hne
    cases h
  | succ rounds ih =>
    obtain ⟨code, input, rfl⟩ := List.exists_cons_of_ne_nil hne
    obtain ⟨block, rest, rfl, hlen, hz, h⟩ := cobsDecodeLoop_cons_inv h
    rw [List.length_cons, List.length_append] at hshort
    have hc : (block.length + 1).toUInt8 = code := by
      rw [hlen, Nat.toUInt8_eq, UInt8.ofNat_toNat]
    have hfull : code ≠ 0xFF := by
      rintro rfl
      rw [show (0xFF : UInt8).toNat = 0xFF from rfl] at hlen
      omega
    by_cases hr : rest = []
    · subst hr
      rw [if_neg (by simp), List.append_nil] at h
      have hdone : output ++ block = decoded := by
        cases rounds <;> simpa [cobsDecodeLoop] using h
      refine ⟨block, hdone.symm, ?_⟩
      have hstuffed := stuffed_append hz [] []
      rw [List.append_nil, List.nil_append] at hstuffed
      rw [hstuffed, stuffed, hc, List.append_nil]
    · rw [if_pos ⟨hfull, hr⟩] at h
      obtain ⟨suffix, hd, hs⟩ := ih hr (by omega) h
      refine ⟨block ++ 0 :: suffix, ?_, ?_⟩
      · rw [hd]
        simp
      · rw [stuffed_append hz, List.nil_append, stuffed, if_pos rfl, hc, ← hs]

theorem length_le_of_cobsDecode {outputCapacity : ℕ} {input decoded : Bytes}
    (h : cobsDecode input outputCapacity = .ok decoded) : input.length ≤ maxCobsCandidateSize := by
  unfold cobsDecode at h
  split at h
  · cases h
  · split at h
    · cases h
    · rename_i hlen
      exact Nat.not_lt.1 hlen

theorem cobsDecode_inv {outputCapacity : ℕ} {input decoded : Bytes}
    (h : cobsDecode input outputCapacity = .ok decoded) : input = stuffed [] decoded := by
  unfold cobsDecode at h
  split at h
  · cases h
  · rename_i hne
    split at h
    · cases h
    · rename_i hlen
      rw [maxCobsCandidateSize] at hlen
      obtain ⟨suffix, hd, hs⟩ := cobsDecodeLoop_inv hne (by omega) h
      rw [hs, hd, List.nil_append]

/-! ### Frames -/

/-- An acceptable frame is written as its bytes, stuffed and delimited. -/
theorem encodeFrame_eq {frame : Frame} (h : frame.Sendable) {outputCapacity : ℕ}
    (hroom : maxEncodedFrameSize ≤ outputCapacity) :
    encodeFrame frame outputCapacity = .ok (stuffed [] (frameBytes frame) ++ [frameDelimiter]) := by
  have hshort : frame.payload.length ≤ 128 := h.short
  have hcap : 140 ≤ outputCapacity := hroom
  have hlen : (frameBytes frame).length = 10 + frame.payload.length := length_frameBytes frame
  have henc : cobsEncode (frameBytes frame) (outputCapacity - 1) = .ok (stuffed [] (frameBytes frame)) :=
    cobsEncode_eq (by rw [hlen, maxDecodedFrameSize]; omega) (by omega)
  unfold encodeFrame
  rw [if_neg (Nat.not_lt.2 h.short)]
  simp only [h.version, h.type, h.flags, h.requestId, Bool.not_true, Bool.false_eq_true, if_false]
  rw [if_neg (by omega), henc]
  dsimp only
  rw [if_neg (by rw [length_stuffed_nil]; omega)]

/-- A frame that passes the last checks is acceptable. -/
theorem sendable_of_envelope {frame : Frame} (hshort : frame.payload.length ≤ maxPayloadSize)
    (h : envelopeResult frame = .ok) : frame.Sendable := by
  unfold envelopeResult at h
  repeat' split at h
  all_goals cases h
  rename_i hmajor hminor htype hflags hid
  rw [not_not] at hmajor
  rw [not_or, UInt8.not_lt, UInt8.not_lt] at hminor
  rw [Bool.not_eq_true', Bool.not_eq_false] at htype hflags hid
  refine ⟨hshort, ?_, htype, hflags, hid⟩
  simp [isSupportedVersion, hmajor, hminor]

/-- The unstuffed frame, from the fields that are read from it. -/
theorem frameBytes_of_checks {decoded : Bytes} {frame : Frame} {payloadLength : ℕ}
    (hlen : decoded.length = minDecodedFrameSize + payloadLength)
    (hpl : (readUint16Le decoded 6).toNat = payloadLength)
    (hcrc : crc16CcittFalse (decoded.take (decodedHeaderSize + payloadLength)) =
      readUint16Le decoded (decodedHeaderSize + payloadLength))
    (hframe : frame = { major := byteAt decoded 0, minor := byteAt decoded 1, messageType := byteAt decoded 2
                        flags := byteAt decoded 3, requestId := readUint16Le decoded 4
                        payload := (decoded.drop decodedHeaderSize).take payloadLength }) :
    frameBytes frame = decoded := by
  have hlen' : decoded.length = 10 + payloadLength := hlen
  have hsize : decodedHeaderSize = 8 := rfl
  have hpayload : frame.payload = slice decoded 8 payloadLength := by rw [hframe]; rfl
  have hword : frame.payload.length.toUInt16 = readUint16Le decoded 6 := by
    rw [hpayload, length_slice (by omega), ← hpl, Nat.toUInt16_eq, UInt16.ofNat_toNat]
  have hfields : [frame.major, frame.minor, frame.messageType, frame.flags] = slice decoded 0 4 := by
    rw [slice_succ 3 (by omega), slice_succ 2 (by omega), slice_succ 1 (by omega), slice_one (by omega), hframe]
  have hid : writeUint16Le frame.requestId = slice decoded 4 2 := by
    rw [hframe]
    exact writeUint16Le_read (by omega)
  have hchecked : frameHeader frame ++ frame.payload = decoded.take (decodedHeaderSize + payloadLength) := by
    rw [frameHeader, hfields, hid, hword, writeUint16Le_read (by omega), slice_append decoded 0 4 2,
      slice_append decoded 0 6 2, hpayload, slice_append decoded 0 8, slice_zero_left, hsize]
  have htail : slice decoded (decodedHeaderSize + payloadLength) 2 = decoded.drop (decodedHeaderSize + payloadLength) := by
    rw [slice, List.take_of_length_le (by rw [List.length_drop]; omega)]
  rw [frameBytes, hchecked, hcrc, writeUint16Le_read (by omega), htail, List.take_append_drop]

/-- **What is accepted is an encoding.** -/
theorem decodeFrame_inv {input : Bytes} {frame : Frame} (h : decodeFrame input = (.ok, frame)) :
    frame.Sendable ∧ input = stuffed [] (frameBytes frame) ++ [frameDelimiter] := by
  unfold decodeFrame at h
  dsimp only at h
  repeat' split at h
  all_goals first | cases h | skip
  rename_i hne _ hdelimiter _ _ decoded hcobs _ hpl hlen hcrc
  rw [not_not] at hdelimiter hlen hcrc
  rw [Prod.mk.injEq] at h
  obtain ⟨henvelope, hframe⟩ := h
  have hbytes := frameBytes_of_checks hlen rfl hcrc hframe.symm
  rw [hframe] at henvelope
  refine ⟨sendable_of_envelope ?_ henvelope, ?_⟩
  · rw [← hframe, List.length_take]
    omega
  · have hpos : 0 < input.length := List.length_pos_iff.2 hne
    have hlast : slice input (input.length - 1) 1 = [byteAt input (input.length - 1)] := slice_one (by omega)
    rw [hdelimiter, slice, List.take_of_length_le (by rw [List.length_drop]; omega)] at hlast
    rw [hbytes, ← cobsDecode_inv hcobs, ← hlast, List.take_append_drop]

theorem decodeFrame_iff {input : Bytes} {frame : Frame} :
    decodeFrame input = (.ok, frame) ↔
      frame.Sendable ∧ input = stuffed [] (frameBytes frame) ++ [frameDelimiter] := by
  refine ⟨decodeFrame_inv, ?_⟩
  rintro ⟨h, rfl⟩
  obtain ⟨encoded, henc, hdec, -⟩ := decodeFrame_encodeFrame h
  rw [encodeFrame_eq h (Nat.le_refl _), Except.ok.injEq] at henc
  rw [henc]
  exact hdec

/-- A string of bytes that ends at its only zero. -/
def EndsAtDelimiter (encoded : Bytes) : Prop :=
  ∃ body, encoded = body ++ [frameDelimiter] ∧ ∀ b ∈ body, b ≠ frameDelimiter

theorem endsAtDelimiter_stuffed {frame : Frame} (h : frame.payload.length ≤ maxPayloadSize) :
    EndsAtDelimiter (stuffed [] (frameBytes frame) ++ [frameDelimiter]) := by
  refine ⟨_, rfl, stuffed_ne_zero (by simp) ?_⟩
  rw [maxPayloadSize] at h
  rw [List.length_nil, length_frameBytes, minDecodedFrameSize]
  omega

/-- The decoder, as a codec: the frame where the result is OK. -/
def acceptFrame (input : Bytes) : Except DecodeResult Frame :=
  if (decodeFrame input).1 = .ok then .ok (decodeFrame input).2 else .error (decodeFrame input).1

theorem acceptFrame_ok {input : Bytes} {frame : Frame} :
    acceptFrame input = .ok frame ↔ decodeFrame input = (.ok, frame) := by
  unfold acceptFrame
  split
  · rename_i h
    rw [Except.ok.injEq, Prod.ext_iff, h]
    simp
  · rename_i h
    simp [Prod.ext_iff, h]

theorem frames_canonical {outputCapacity : ℕ} (h : maxEncodedFrameSize ≤ outputCapacity) :
    Canonical (encodeFrame · outputCapacity) acceptFrame := by
  refine ⟨fun frame encoded henc => ?_, fun frame encoded hdec => ?_⟩
  · have hs : frame.Sendable := by
      unfold encodeFrame at henc
      repeat' split at henc
      all_goals first | cases henc; done | skip
      rename_i hshort hversion htype hflags hid _ _ _ _ _
      rw [Bool.not_eq_true', Bool.not_eq_false] at hversion htype hflags hid
      exact ⟨Nat.not_lt.1 hshort, hversion, htype, hflags, hid⟩
    rw [encodeFrame_eq hs h, Except.ok.injEq] at henc
    exact acceptFrame_ok.2 (decodeFrame_iff.2 ⟨hs, henc.symm⟩)
  · obtain ⟨hs, rfl⟩ := decodeFrame_inv (acceptFrame_ok.1 hdec)
    exact encodeFrame_eq hs h

/-- **The codec of frames.** -/
theorem frame_codec :
    (∀ frame : Frame, frame.Sendable → ∃ encoded, encodeFrame frame maxEncodedFrameSize = .ok encoded ∧
      encoded.length ≤ maxEncodedFrameSize ∧ EndsAtDelimiter encoded ∧ decodeFrame encoded = (.ok, frame)) ∧
    (∀ input frame, decodeFrame input = (.ok, frame) → encodeFrame frame maxEncodedFrameSize = .ok input) ∧
    ∀ input input' frame, decodeFrame input = (.ok, frame) → decodeFrame input' = (.ok, frame) → input = input' := by
  have hcodec := frames_canonical (Nat.le_refl maxEncodedFrameSize)
  refine ⟨fun frame h => ?_, fun input frame h => ?_, fun input input' frame h h' => ?_⟩
  · obtain ⟨encoded, henc, hdec, hlen⟩ := decodeFrame_encodeFrame h
    refine ⟨encoded, henc, hlen, ?_, hdec⟩
    rw [(decodeFrame_inv hdec).2]
    exact endsAtDelimiter_stuffed h.short
  · exact hcodec.encode_decode frame input (acceptFrame_ok.2 h)
  · exact hcodec.decode_inj (acceptFrame_ok.2 h) (acceptFrame_ok.2 h')

end Redline.Host
