import Redline.Host.Remote
import Redline.Host.Transactions
import Redline.Wire.Canonical

/-!
# The codecs of the radio

The five formats that share a packet header.  Structured requests and responses are the payloads of COMMAND and RESPONSE
packets, each under its opcode; with the packets, the EVENT packets and the admission responses they are buffered codecs
(`radioCodecs`).  ACK packets carry an admission response or the acknowledgment of a command: the lengths of their
payloads keep the two apart, at both places where the Hub takes acknowledgments.
-/

namespace Redline.Host

open Redline.Wire Redline.Lib

variable {opcode : UInt8}

/-! ### Requests -/

theorem encodeWireRequest_ok {request : WireRequest} {bytes : Bytes} (h : encodeWireRequest opcode request = .ok bytes) :
    isValidRequestSchema opcode request = true ∧ bytes.length ≤ Wire.maxPayloadSize := by
  unfold encodeWireRequest at h
  split at h
  · cases h
  split at h
  · cases h
  rename_i hschema
  split at h
  · cases h
  rename_i hlen
  cases h
  have hfixed : wireRequestFixedSize = 4 := rfl
  refine ⟨by simpa using hschema, ?_⟩
  simp only [List.length_append, length_writeUint16Le, List.length_cons, List.length_nil]
  omega

/-- **What is accepted as a request is its encoding.** -/
theorem encodeWireRequest_decode {request : WireRequest} {bytes : Bytes} (h : decodeWireRequest opcode bytes = .ok request) :
    encodeWireRequest opcode request = .ok bytes := by
  have hschema := (decodeWireRequest_schema h).1
  unfold decodeWireRequest at h
  split at h
  · cases h
  rename_i hop
  split at h
  · cases h
  rename_i hlen
  split at h
  · cases h
  rename_i hvalue
  dsimp only at h
  split at h
  · cases h
  split at h
  · cases h
  cases h
  rw [not_or, not_not] at hvalue
  have hfixed : wireRequestFixedSize = 4 := rfl
  obtain ⟨hdrop, hbyte⟩ := length_drop_counted hvalue.2
  have hhead : writeUint16Le (readUint16Le bytes 0) ++ [byteAt bytes 2, byteAt bytes 3] = bytes.take wireRequestFixedSize := by
    rw [writeUint16Le_read (by omega), ← slice_one (by omega : 3 < bytes.length), ← slice_succ 1 (by omega),
      slice_append bytes 0 2 2, slice_zero_left, hfixed]
  unfold encodeWireRequest
  rw [if_neg hop, hschema]
  dsimp only
  rw [hbyte, hhead, List.take_append_drop]
  exact (if_neg (by decide)).trans (if_neg (by omega))

theorem request_canonical (opcode : UInt8) : Canonical (encodeWireRequest opcode) (decodeWireRequest opcode) := by
  refine ⟨fun request bytes h => ?_, fun request bytes h => encodeWireRequest_decode h⟩
  obtain ⟨word, henc, -, hdec⟩ := decodeWireRequest_encode (hostRequest_valid default (encodeWireRequest_ok h).1)
  have hsame : encodeWireRequest opcode request = .ok word := henc
  rw [h, Except.ok.injEq] at hsame
  rw [hsame]
  exact hdec

theorem request_buffered (opcode : UInt8) : Buffered Wire.maxPayloadSize id
    (fun request => intoBuffer (encodeWireRequest opcode request)) (fun bytes => (decodeWireRequest opcode bytes).toOption) :=
  (request_canonical opcode).buffered fun _ _ h => (encodeWireRequest_ok h).2

/-! ### Responses -/

theorem encodeWireResponse_ok {response : WireResponse} {bytes : Bytes}
    (h : encodeWireResponse opcode response = .ok bytes) :
    isValidResponseSchema opcode response = true ∧ bytes.length ≤ Wire.maxPayloadSize := by
  unfold encodeWireResponse at h
  split at h
  · cases h
  split at h
  · cases h
  rename_i hschema
  split at h
  · cases h
  rename_i hlen
  cases h
  have hfixed : wireResponseFixedSize = 5 := rfl
  refine ⟨by simpa using hschema, ?_⟩
  simp only [List.length_append, length_writeUint16Le, List.length_cons, List.length_nil]
  omega

/-- **What is accepted as a response is its encoding.** -/
theorem encodeWireResponse_decode {response : WireResponse} {bytes : Bytes}
    (h : decodeWireResponse opcode bytes = .ok response) : encodeWireResponse opcode response = .ok bytes := by
  unfold decodeWireResponse at h
  split at h
  · cases h
  rename_i hop
  split at h
  · cases h
  rename_i hlen
  split at h
  · cases h
  rename_i hvalue
  dsimp only at h
  split at h
  · cases h
  split at h
  · cases h
  rename_i hschema
  cases h
  rw [not_or, not_not] at hvalue
  have hfixed : wireResponseFixedSize = 5 := rfl
  obtain ⟨hdrop, hbyte⟩ := length_drop_counted hvalue.2
  have hhead : [byteAt bytes 0] ++ writeUint16Le (readUint16Le bytes 1) ++ [byteAt bytes 3, byteAt bytes 4] =
      bytes.take wireResponseFixedSize := by
    rw [writeUint16Le_read (by omega), ← slice_one (by omega : 0 < bytes.length),
      ← slice_one (by omega : 4 < bytes.length), ← slice_succ 1 (by omega), slice_append bytes 0 1 2,
      slice_append bytes 0 3 2, slice_zero_left, hfixed]
  unfold encodeWireResponse
  rw [if_neg hop, if_neg hschema]
  dsimp only
  rw [hbyte, hhead, List.take_append_drop]
  exact if_neg (by omega)

theorem response_canonical (opcode : UInt8) : Canonical (encodeWireResponse opcode) (decodeWireResponse opcode) := by
  refine ⟨fun response bytes h => ?_, fun response bytes h => encodeWireResponse_decode h⟩
  obtain ⟨word, henc, -, -, hdec⟩ := decodeWireResponse_encode (encodeWireResponse_ok h).1
  rw [h, Except.ok.injEq] at henc
  rw [henc]
  exact hdec

theorem response_buffered (opcode : UInt8) : Buffered Wire.maxPayloadSize id
    (fun response => intoBuffer (encodeWireResponse opcode response))
    (fun bytes => (decodeWireResponse opcode bytes).toOption) :=
  (response_canonical opcode).buffered fun _ _ h => (encodeWireResponse_ok h).2

/-! ### The two uses of ACK -/

/-- An admission response at the Hub that waits for the acknowledgment of a command. -/
structure Overlooked (packet : Packet) : Prop where
  evaluated : ∀ (command : Packet) (localHubId peerNodeId : UInt8),
    (evaluateHubAcknowledgment packet command localHubId peerNodeId).1 ≠ .matchingAck
  received : ∀ t : HubStructuredTransaction, (t.receive packet).1 = t ∧
    ((t.receive packet).2 = .mismatchIgnored ∨ (t.receive packet).2 = .malformedIgnored)

/-- The payload of an acknowledgment is one byte. -/
theorem overlooked_of_length {packet : Packet} (htype : packet.type = .ack) (hlen : packet.payload.length ≠ 1) :
    Overlooked packet := by
  refine ⟨fun command localHubId peerNodeId => ?_, fun t => ?_⟩
  · unfold evaluateHubAcknowledgment
    rw [if_neg (not_not.2 htype), if_pos hlen]
    repeat' split
    all_goals exact HubAckOutcome.noConfusion
  · unfold HubStructuredTransaction.receive
    split
    · exact ⟨rfl, Or.inl rfl⟩
    · split
      · exact ⟨rfl, Or.inl rfl⟩
      · rw [if_pos (Or.inl hlen)]
        exact ⟨rfl, Or.inr rfl⟩

/-- **The codecs of the radio**: round trips both ways, sizes, and no string of two kinds. -/
theorem radioCodecs :
    (Buffered 32 id encode decode ∧ Buffered 32 Event.declared encodeEvent decodeEvent ∧
      Buffered 32 id encodeAdmissionResponse decodeAdmissionResponse ∧
      ∀ opcode, Buffered 26 id (fun request => intoBuffer (encodeWireRequest opcode request))
          (fun bytes => (decodeWireRequest opcode bytes).toOption) ∧
        Buffered 26 id (fun response => intoBuffer (encodeWireResponse opcode response))
          (fun bytes => (decodeWireResponse opcode bytes).toOption)) ∧
    (∀ (packet : Packet) capacity bytes, encode packet capacity = some bytes → packet.payload.length ≤ 26) ∧
    (∀ bytes event response, decodeEvent bytes = some event → decodeAdmissionResponse bytes ≠ some response) ∧
    ∀ bytes response packet, decodeAdmissionResponse bytes = some response → decode bytes = some packet →
      Overlooked packet := by
  refine ⟨⟨packet_buffered, event_buffered, admission_buffered, fun opcode => ⟨?_, ?_⟩⟩, ?_, ?_, ?_⟩
  · exact request_buffered opcode
  · exact response_buffered opcode
  · intro packet capacity bytes h
    exact (length_of_encode h).1
  · intro bytes event response h
    exact event_not_admission h
  · intro bytes response packet h hpacket
    have hmade := (packet_of_decodeAdmissionResponse h).2
    rw [hpacket, Option.some.injEq] at hmade
    rw [hmade]
    exact overlooked_of_length rfl (by simp [admissionPacket])

end Redline.Host
