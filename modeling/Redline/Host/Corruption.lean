import Redline.Lib.ShiftRegister
import Redline.Host.FrameCodec

/-!
# Corrupted frames

A frame that is corrupted between the two COBS codecs: its decoded bytes are changed and stuffed again.  The CRC is a
run of a register of 16 bits (`toBitVec_crcBytes`), and a frame whose CRC bytes are taken in the other order leaves
zero in it (`run_frameBytes`).  So an error is noticed when it moves the empty register: one bit and bursts always do,
two bits do because the polynomial has a long period (`crcRegister_period`), and an odd number of bits does because
the polynomial has an even number of terms.

An error may change the length field too.  Nothing needs to be said of it: what `decodeFrame` accepts is an unstuffed
frame, whatever its length.
-/

namespace Redline.Host

open Redline.Wire Redline.Lib

/-- The register of `crc16CcittFalse`: bits leave it at the high end. -/
def crcRegister : ShiftRegister 16 := ShiftRegister.leftward 0x1021#16 (by decide)

/-- The bits of a string, in the order in which the CRC takes them. -/
def bitsOf (bytes : Bytes) : List Bool := bytes.flatMap msbFirst

theorem length_bitsOf (bytes : Bytes) : (bitsOf bytes).length = bytes.length * 8 :=
  length_flatMap_of_const length_msbFirst bytes

theorem bitsOf_append (bytes more : Bytes) : bitsOf (bytes ++ more) = bitsOf bytes ++ bitsOf more :=
  List.flatMap_append

theorem bitsOf_flipBits {bytes error : Bytes} (h : bytes.length = error.length) :
    bitsOf (flipBits bytes error) = List.zipWith xor (bitsOf bytes) (bitsOf error) :=
  flatMap_flipBits length_msbFirst msbFirst_xor h

/-! ### The checksum is a run of the register -/

theorem toBitVec_crcBit (crc : UInt16) : (crcBit crc).toBitVec = crcRegister.clock crc.toBitVec := by
  have hhigh : crc &&& 0x8000 ≠ 0 ↔ crc.toBitVec.msb = true := by
    have hmask : (crc &&& 0x8000).toBitVec = if crc.toBitVec.getLsbD 15 then BitVec.twoPow 16 15 else 0#16 := by
      rw [UInt16.toBitVec_and]
      exact BitVec.and_twoPow _ 15
    rw [Ne, ← UInt16.toBitVec_inj, hmask, BitVec.msb_eq_getLsbD_last]
    by_cases hb : crc.toBitVec.getLsbD 15
    · rw [if_pos hb]
      exact iff_of_true (by decide) hb
    · rw [if_neg hb]
      exact iff_of_false (by decide) hb
  unfold crcBit
  rw [crcRegister, ShiftRegister.clock_leftward]
  by_cases h : crc &&& 0x8000 ≠ 0
  · rw [if_pos h, hhigh.1 h, UInt16.toBitVec_xor, UInt16.toBitVec_shiftLeft]
    rfl
  · have hoff : crc.toBitVec.msb = false := Bool.eq_false_iff.2 fun hb => h (hhigh.2 hb)
    rw [if_neg h, hoff, UInt16.toBitVec_shiftLeft, ShiftRegister.feedback_false, BitVec.xor_zero]
    rfl

theorem toBitVec_crcByte (crc : UInt16) (byte : UInt8) :
    (crcByte crc byte).toBitVec = crcRegister.run crc.toBitVec (msbFirst byte) := by
  rw [crcByte, ShiftRegister.state_rounds toBitVec_crcBit, ShiftRegister.run_eq_iterate _ _ (by simp),
    length_msbFirst, List.length_range, crcRegister, word_msbFirst _ _ (by decide), UInt16.toBitVec_xor,
    UInt16.toBitVec_shiftLeft, UInt8.toBitVec_toUInt16]
  rfl

theorem toBitVec_crcBytes (crc : UInt16) (bytes : Bytes) :
    (bytes.foldl crcByte crc).toBitVec = crcRegister.run crc.toBitVec (bitsOf bytes) :=
  ShiftRegister.state_bytes toBitVec_crcByte bytes crc

/-! ### Intact frames -/

/-- The bytes with those of the CRC most significant first, as the register would take them. -/
def highCrcFirst (decoded : Bytes) : Bytes :=
  decoded.take (decoded.length - 2) ++ (decoded.drop (decoded.length - 2)).reverse

theorem highCrcFirst_append (checked : Bytes) (low high : UInt8) :
    highCrcFirst (checked ++ [low, high]) = checked ++ [high, low] := by
  rw [highCrcFirst, List.length_append, List.length_cons, List.length_singleton, Nat.add_sub_cancel,
    List.take_left' rfl, List.drop_left' rfl]
  rfl

theorem length_highCrcFirst (decoded : Bytes) : (highCrcFirst decoded).length = decoded.length := by
  rw [highCrcFirst, List.length_append, List.length_reverse, List.length_take, List.length_drop]
  omega

theorem highCrcFirst_flipBits {bytes error : Bytes} (h : bytes.length = error.length) :
    highCrcFirst (flipBits bytes error) = flipBits (highCrcFirst bytes) (highCrcFirst error) := by
  have hlen : (flipBits bytes error).length = error.length := by
    rw [flipBits, List.length_zipWith, h, Nat.min_self]
  rw [highCrcFirst, highCrcFirst, highCrcFirst, hlen, h, flipBits, flipBits, List.take_zipWith, List.drop_zipWith,
    List.zipWith_append (by rw [List.length_take, List.length_take, h]),
    List.reverse_zipWith (by rw [List.length_drop, List.length_drop, h])]

/-- The two bytes of a word, most significant first, as bits in the register. -/
theorem word_uint16 (value : UInt16) :
    crcRegister.word 0 (bitsOf [(value >>> 8).toUInt8, value.toUInt8]) = value.toBitVec := by
  refine crcRegister.ext _ _ fun j hj => ?_
  rw [ShiftRegister.bitAt_word _ (by rw [length_bitsOf]; rfl) hj]
  show _ = value.toBitVec.getMsbD j
  have hbits : bitsOf [(value >>> 8).toUInt8, value.toUInt8] = (List.range 16).map value.toBitVec.getMsbD := by
    simp [bitsOf, msbFirst, List.range_succ, BitVec.getMsbD]
  simp [hbits, hj]

theorem run_frameBytes (frame : Frame) : crcRegister.run 0xFFFF#16 (bitsOf (highCrcFirst (frameBytes frame))) = 0#16 := by
  have hcrc : (crc16CcittFalse (frameHeader frame ++ frame.payload)).toBitVec =
      crcRegister.run 0xFFFF#16 (bitsOf (frameHeader frame ++ frame.payload)) := toBitVec_crcBytes _ _
  rw [frameBytes, writeUint16Le, highCrcFirst_append, bitsOf_append, ShiftRegister.run_append,
    ShiftRegister.run_eq_iterate _ _ (by rw [length_bitsOf]; rfl), word_uint16, hcrc, BitVec.xor_self,
    ShiftRegister.iterate_zero]

/-! ### Errors -/

theorem crcRegister_parity (s : BitVec 16) : ShiftRegister.parity (crcRegister.clock s) = ShiftRegister.parity s :=
  ShiftRegister.parity_clock_leftward (by decide) (by decide) s

/-- **The period of the polynomial** is longer than a frame has bits. -/
theorem crcRegister_period : ∀ k, 0 < k → k ≤ 1103 → crcRegister.clock^[k] (crcRegister.place 0) ≠ crcRegister.place 0 :=
  crcRegister.iterate_ne_of_neverWithin (by decide +kernel)

/-- The errors that every frame is safe from. -/
inductive Noticed (error : Bytes) : Prop
  | oneBit (h : (bitsOf error).count true = 1)
  | twoBits (h : (bitsOf error).count true = 2)
  | oddBits (h : (bitsOf error).count true % 2 = 1)
  /-- Within 16 consecutive bits of the header and the payload. -/
  | burst (h : Burst 16 (bitsOf (error.take (error.length - 2)))) (hcrc : error.drop (error.length - 2) = [0, 0])

/-- Each bit is counted, wherever its byte stands. -/
theorem count_highCrcFirst (error : Bytes) :
    (bitsOf (highCrcFirst error)).count true = (bitsOf error).count true := by
  have hperm : (highCrcFirst error).Perm error := by
    have htail := (List.reverse_perm (error.drop (error.length - 2))).append_left (error.take (error.length - 2))
    rwa [List.take_append_drop] at htail
  exact (hperm.flatMap_right msbFirst).count_eq true

theorem run_of_noticed {error : Bytes} (hlen : error.length ≤ maxDecodedFrameSize) (h : Noticed error) :
    crcRegister.run 0#16 (bitsOf (highCrcFirst error)) ≠ 0#16 := by
  have hbits : (bitsOf (highCrcFirst error)).length ≤ 1104 := by
    rw [length_bitsOf, length_highCrcFirst]
    rw [maxDecodedFrameSize] at hlen
    omega
  cases h with
  | oneBit h =>
    refine crcRegister.run_one (by decide) ?_
    rw [count_highCrcFirst]
    exact h
  | twoBits h =>
    refine crcRegister.run_two (fun k hpos hk => crcRegister_period k hpos (by omega)) ?_
    rw [count_highCrcFirst]
    exact h
  | oddBits h =>
    refine ShiftRegister.run_odd ShiftRegister.parity_xor crcRegister_parity (by decide) ?_
    rw [count_highCrcFirst]
    exact h
  | burst h hcrc =>
    obtain ⟨before, window, after, hwindow, hshort, hone⟩ := h
    refine crcRegister.run_burst ⟨before, window, after + 16, ?_, hshort, hone⟩
    rw [highCrcFirst, hcrc, bitsOf_append, hwindow, List.append_assoc, List.replicate_add]
    rfl

theorem length_frameBytes_le {frame : Frame} (h : frame.payload.length ≤ maxPayloadSize) :
    (frameBytes frame).length ≤ maxDecodedFrameSize := by
  rw [length_frameBytes, minDecodedFrameSize, maxDecodedFrameSize]
  rw [maxPayloadSize] at h
  omega

/-- A short string is told by its stuffing. -/
theorem stuffed_inj {bytes other : Bytes} (h : bytes.length ≤ maxDecodedFrameSize)
    (hother : other.length ≤ maxDecodedFrameSize) (heq : stuffed [] bytes = stuffed [] other) : bytes = other := by
  obtain ⟨candidate, -, -, hdec⟩ := cobs_roundtrip h
  obtain ⟨candidate', -, -, hdec'⟩ := cobs_roundtrip hother
  rw [cobsDecode_inv hdec, heq, ← cobsDecode_inv hdec', hdec', Except.ok.injEq] at hdec
  exact hdec.symm

/-- **Corrupted frames are refused.** -/
theorem corruptedFrame_refused {input : Bytes} {frame : Frame} (h : decodeFrame input = (.ok, frame)) :
    ∃ decoded, cobsDecode (input.take (input.length - 1)) maxDecodedFrameSize = .ok decoded ∧
      ∀ error : Bytes, error.length = decoded.length → Noticed error →
        ∃ encoded, cobsEncode (flipBits decoded error) maxCobsCandidateSize = .ok encoded ∧
          (decodeFrame (encoded ++ [frameDelimiter])).1 ≠ .ok := by
  obtain ⟨hs, rfl⟩ := decodeFrame_inv h
  have hbound : (frameBytes frame).length ≤ maxDecodedFrameSize := length_frameBytes_le hs.short
  obtain ⟨candidate, -, -, hdec⟩ := cobs_roundtrip hbound
  refine ⟨frameBytes frame, ?_, fun error hlen herror => ?_⟩
  · rw [List.length_append, List.length_singleton, Nat.add_sub_cancel, List.take_left' rfl, ← cobsDecode_inv hdec]
    exact hdec
  · have hflipped : (flipBits (frameBytes frame) error).length = (frameBytes frame).length := by
      rw [flipBits, List.length_zipWith, hlen, Nat.min_self]
    obtain ⟨encoded, henc, -, hdec'⟩ := cobs_roundtrip (hflipped.trans_le hbound)
    refine ⟨encoded, henc, fun hok => ?_⟩
    obtain ⟨other, hother⟩ : ∃ other, decodeFrame (encoded ++ [frameDelimiter]) = (.ok, other) := ⟨_, Prod.ext hok rfl⟩
    obtain ⟨hs', heq⟩ := decodeFrame_inv hother
    have hframe := List.append_cancel_right heq
    rw [cobsDecode_inv hdec'] at hframe
    have hbytes := stuffed_inj (hflipped.trans_le hbound) (length_frameBytes_le hs'.short) hframe
    have hbits : (bitsOf (highCrcFirst (frameBytes frame))).length = (bitsOf (highCrcFirst error)).length := by
      rw [length_bitsOf, length_bitsOf, length_highCrcFirst, length_highCrcFirst, hlen]
    have hne := crcRegister.run_ne_of_error hbits (run_frameBytes frame)
      (run_of_noticed (hlen.trans_le hbound) herror)
    apply hne
    rw [← bitsOf_flipBits (by rw [length_highCrcFirst, length_highCrcFirst, hlen]), ← highCrcFirst_flipBits hlen.symm,
      hbytes]
    exact run_frameBytes _

theorem corruptedFrame_refused_hello :
    ∃ decoded, cobsDecode [1, 3, 1, 1, 2, 7, 2, 2, 5, 1, 2, 147, 123] maxDecodedFrameSize = .ok decoded ∧
      ∀ error : Bytes, error.length = decoded.length → Noticed error →
        ∃ encoded, cobsEncode (flipBits decoded error) maxCobsCandidateSize = .ok encoded ∧
          (decodeFrame (encoded ++ [frameDelimiter])).1 ≠ .ok := by
  have hdecode : decodeFrame [1, 3, 1, 1, 2, 7, 2, 2, 5, 1, 2, 147, 123, 0] =
      (.ok, ⟨0, 1, MessageType.helloRequest, 0, 7, [1, 2]⟩) := by decide +kernel
  exact corruptedFrame_refused hdecode

end Redline.Host
