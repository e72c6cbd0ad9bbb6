import Redline.Lib.Codec
import Redline.Wire.Event
import Redline.Wire.Slices

/-!
# What is accepted from the radio

The converse of the round trips of the radio packets.  `encode_decode`: the bytes of a packet are the encoding of what
they decode to.  The same of EVENT packets and of admission responses, whose payloads are joined from the fields that
were read from them.  `Event.declared` is an Event without the bytes past its body length, which are neither written
nor looked at.
-/

namespace Redline.Wire

open Redline.Lib

/-! ### Packets -/

/-- A control byte is made of its two halves. -/
theorem makeControl_of_halves {control : UInt8} {type : PacketType} (hversion : getVersion control = version)
    (htype : getPacketType control = some type) : makeControl type = control := by
  have hhigh : control.toNat / 16 = 1 := by
    have h := congrArg UInt8.toNat hversion
    simpa [getVersion, version, Nat.shiftRight_eq_div_pow] using h
  have hlow : (control &&& 0x0F).toNat = control.toNat % 16 := by
    rw [UInt8.toNat_and]
    exact Nat.and_two_pow_sub_one_eq_mod control.toNat 4
  have hmade : (makeControl type).toNat = 16 + type.toByte.toNat := by
    cases type <;> decide
  have hbyte : type.toByte = control &&& 0x0F := by
    unfold getPacketType at htype
    split at htype <;> cases htype <;> simp_all [PacketType.toByte]
  apply UInt8.toNat_inj.1
  rw [hmade, hbyte, hlow]
  omega

theorem length_of_encode {packet : Packet} {capacity : ℕ} {bytes : Bytes} (h : encode packet capacity = some bytes) :
    packet.payload.length ≤ maxPayloadSize ∧ bytes.length = headerSize + packet.payload.length ∧
      bytes.length ≤ capacity := by
  unfold encode at h
  split at h
  · cases h
  · rename_i hlen
    split at h
    · cases h
    · rename_i hroom
      cases h
      have hsize : headerSize = 6 := rfl
      simp only [List.length_append, List.length_cons, List.length_nil]
      omega

/-- **What is accepted as a packet is its encoding.** -/
theorem encode_decode {packet : Packet} {capacity : ℕ} {bytes : Bytes} (h : decode bytes = some packet)
    (hroom : bytes.length ≤ capacity) : encode packet capacity = some bytes := by
  unfold decode at h
  split at h
  · cases h
  rename_i hheader
  split at h
  · cases h
  rename_i hversion
  dsimp only at h
  split at h
  · cases h
  rename_i hmax
  split at h
  · cases h
  rename_i hlen
  split at h
  · cases h
  rename_i type htype
  rw [not_not] at hversion hlen
  cases h
  have hsize : headerSize = 6 := rfl
  obtain ⟨hpayload, hlength⟩ := length_drop_counted hlen
  have hhead : [byteAt bytes 0, byteAt bytes 1, byteAt bytes 2, byteAt bytes 3, byteAt bytes 4, byteAt bytes 5] =
      bytes.take headerSize := by
    rw [← slice_zero_left, hsize, slice_succ 5 (by omega), slice_succ 4 (by omega), slice_succ 3 (by omega),
      slice_succ 2 (by omega), slice_succ 1 (by omega), slice_one (by omega)]
  unfold encode
  dsimp only
  rw [hlength, if_neg (by omega), if_neg (by omega), makeControl_of_halves hversion htype, hhead,
    List.take_append_drop]

theorem packet_buffered : Buffered maxPacketSize id encode decode := by
  refine ⟨fun packet capacity bytes h => decode_encode h, fun packet capacity bytes h hroom => encode_decode h hroom,
    fun packet capacity bytes h => ?_⟩
  obtain ⟨hpayload, hlen, hroom⟩ := length_of_encode h
  refine ⟨hroom, ?_⟩
  have hmax : headerSize + maxPayloadSize = maxPacketSize := rfl
  omega

/-! ### EVENT packets -/

/-- The Event up to its body length. -/
def Event.declared (event : Event) : Event :=
  { event with body := bodyOf (event.body.toList.take event.bodyLength.toNat) }

/-- The declared bytes of a body. -/
theorem getElem_declared {body : Body} {n i : ℕ} (hi : i < 12) (hn : i < n) :
    (bodyOf (body.toList.take n))[i] = body[i] := by
  simp [bodyOf, byteAt, List.getD_eq_getElem?_getD, hn, hi]

theorem take_declared (body : Body) {n : ℕ} (h : n ≤ 12) :
    (bodyOf (body.toList.take n)).toList.take n = body.toList.take n := by
  refine List.ext_getElem (by simp) fun i hi hi' => ?_
  rw [List.length_take] at hi
  rw [List.getElem_take, List.getElem_take, Vector.getElem_toList, Vector.getElem_toList]
  exact getElem_declared (by omega) (by omega)

/-- A family looks at the declared bytes only. -/
theorem isValidFamilyBody_declared (family : UInt8) (body : Body) (bodyLength : UInt8) :
    isValidFamilyBody family (bodyOf (body.toList.take bodyLength.toNat)) bodyLength =
      isValidFamilyBody family body bodyLength := by
  unfold isValidFamilyBody
  by_cases hlen : bodyLength.toNat ≠ expectedBodyLength family
  · rw [if_pos hlen, if_pos hlen]
  · rw [if_neg hlen, if_neg hlen]
    rw [not_not] at hlen
    by_cases hbutton : family = Family.button
    · rw [if_pos hbutton, if_pos hbutton, getElem_declared (by omega) (by rw [hlen, hbutton]; decide)]
    · rw [if_neg hbutton, if_neg hbutton]
      by_cases hsensor : family = Family.sensorThreshold
      · have hn : bodyLength.toNat = 8 := by rw [hlen, hsensor]; rfl
        rw [if_pos hsensor, if_pos hsensor]
        have hsame : ∀ i (hi : i < 12), i < 8 → (bodyOf (body.toList.take bodyLength.toNat))[i] = body[i] :=
          fun i hi h8 => getElem_declared hi (by omega)
        simp only [hsame 0 (by omega) (by omega), hsame 1 (by omega) (by omega), hsame 2 (by omega) (by omega),
          hsame 5 (by omega) (by omega), hsame 6 (by omega) (by omega), hsame 7 (by omega) (by omega)]
      · rw [if_neg hsensor, if_neg hsensor]
        by_cases hmanual : family = Family.manualCheckIn
        · rw [if_pos hmanual, if_pos hmanual, getElem_declared (by omega) (by rw [hlen, hmanual]; decide)]
        · rw [if_neg hmanual, if_neg hmanual]

theorem isValidEvent_declared (event : Event) : isValidEvent event.declared = isValidEvent event := by
  unfold isValidEvent isValidContent
  rw [show event.declared.body = bodyOf (event.body.toList.take event.bodyLength.toNat) from rfl,
    show event.declared.family = event.family from rfl, show event.declared.bodyLength = event.bodyLength from rfl,
    isValidFamilyBody_declared]
  rfl

theorem eventPacket_declared {event : Event} (h : event.bodyLength.toNat ≤ maxBodySize) :
    eventPacket event.declared = eventPacket event := by
  unfold eventPacket Event.declared
  rw [take_declared event.body h]

/-- **An EVENT packet is decoded to what it declares.** -/
theorem decodeEvent_encode {event : Event} {capacity : ℕ} {bytes : Bytes} (h : encodeEvent event capacity = some bytes) :
    decodeEvent bytes = some event.declared := by
  have hv := (packet_of_encodeEvent h).1
  have hlen := bodyLength_of_valid hv
  have hsame : encodeEvent event.declared capacity = some bytes := by
    unfold encodeEvent at h ⊢
    rwa [isValidEvent_declared, eventPacket_declared hlen]
  refine decodeEvent_encodeEvent hsame ?_
  unfold Event.declared
  rw [take_declared event.body hlen]

/-- A body that is filled from at most twelve bytes has them in front. -/
theorem take_bodyOf {bytes : Bytes} (h : bytes.length ≤ 12) : (bodyOf bytes).toList.take bytes.length = bytes := by
  refine List.ext_getElem (by rw [List.length_take, Vector.length_toList, Nat.min_eq_left h]) fun i hi hi' => ?_
  rw [List.getElem_take, Vector.getElem_toList]
  simp [bodyOf, byteAt, hi']

/-- **What is accepted as an EVENT packet is its encoding.** -/
theorem encodeEvent_decode {event : Event} {capacity : ℕ} {bytes : Bytes} (h : decodeEvent bytes = some event)
    (hroom : bytes.length ≤ capacity) : encodeEvent event capacity = some bytes := by
  unfold decodeEvent at h
  split at h
  · cases h
  rename_i packet hpacket
  split at h
  · cases h
  rename_i htype
  rw [not_or, not_not] at htype
  dsimp only at h
  split at h
  · cases h
  rename_i hbody
  rw [not_or, not_not] at hbody
  split at h
  swap
  · cases h
  rename_i hvalid
  cases h
  have hcommon : commonPayloadSize = 14 := rfl
  have hmax : maxBodySize = 12 := rfl
  obtain ⟨hmaxBody, hlen⟩ := hbody
  set payload := packet.payload with hp
  -- the bytes behind the common fields are the body
  have htail : (payload.drop commonPayloadSize).take (byteAt payload 13).toNat = payload.drop commonPayloadSize :=
    List.take_of_length_le (by rw [List.length_drop]; omega)
  have hdrop : (payload.drop commonPayloadSize).length = (byteAt payload 13).toNat := by
    rw [List.length_drop]
    omega
  have htake : (bodyOf (payload.drop commonPayloadSize)).toList.take (byteAt payload 13).toNat =
      payload.drop commonPayloadSize := by
    rw [← hdrop]
    exact take_bodyOf (by omega)
  rw [htail] at hvalid ⊢
  have hfields : writeUint32Le (readUint32Le payload 0) ++ writeUint32Le (readUint32Le payload 4) ++ [byteAt payload 8] ++
      writeUint32Le (readUint32Le payload 9) ++ [byteAt payload 13] = payload.take commonPayloadSize := by
    rw [← slice_one (by omega), ← slice_one (by omega), writeUint32Le_read (by omega), writeUint32Le_read (by omega),
      writeUint32Le_read (by omega), slice_append payload 0 4 4, slice_append payload 0 8 1, slice_append payload 0 9 4,
      slice_append payload 0 13 1, slice_zero_left, hcommon]
  have hsame : eventPacket ⟨packet.source, packet.destination, packet.sequence, packet.opcode, readUint32Le payload 0,
      readUint32Le payload 4, byteAt payload 8, readUint32Le payload 9, byteAt payload 13,
      bodyOf (payload.drop commonPayloadSize)⟩ = packet := by
    unfold eventPacket
    dsimp only
    rw [htake, hfields, List.take_append_drop, ← htype.1]
  unfold encodeEvent
  rw [if_pos hvalid, hsame]
  exact encode_decode hpacket hroom

theorem event_buffered : Buffered maxPacketSize Event.declared encodeEvent decodeEvent := by
  refine ⟨fun event capacity bytes h => decodeEvent_encode h,
    fun event capacity bytes h hroom => encodeEvent_decode h hroom, fun event capacity bytes h => ?_⟩
  unfold encodeEvent at h
  split at h
  · exact packet_buffered.fits _ _ _ h
  · cases h

/-! ### Admission responses -/

theorem AdmissionStatus.toByte_of_ofByte? {value : UInt8} {status : AdmissionStatus}
    (h : AdmissionStatus.ofByte? value = some status) : status.toByte = value := by
  unfold AdmissionStatus.ofByte? at h
  split at h <;> cases h <;> rfl

/-- What a packet that is an admission response is. -/
theorem packet_of_decodeAdmissionResponse {response : AdmissionResponse} {bytes : Bytes}
    (h : decodeAdmissionResponse bytes = some response) :
    isValidAdmissionResponse response = true ∧ decode bytes = some (admissionPacket response) := by
  unfold decodeAdmissionResponse at h
  split at h
  · cases h
  rename_i packet hpacket
  split at h
  · cases h
  rename_i htype
  rw [not_or, not_not, not_not] at htype
  split at h
  · cases h
  rename_i status hstatus
  dsimp only at h
  split at h
  swap
  · cases h
  rename_i hvalid
  cases h
  refine ⟨hvalid, ?_⟩
  have hlen : packet.payload.length = 9 := htype.2
  have hfields : [status.toByte] ++ writeUint32Le (readUint32Le packet.payload 1) ++
      writeUint32Le (readUint32Le packet.payload 5) = packet.payload := by
    rw [AdmissionStatus.toByte_of_ofByte? hstatus, ← slice_one (by omega), writeUint32Le_read (by omega),
      writeUint32Le_read (by omega), slice_append packet.payload 0 1 4, slice_append packet.payload 0 5 4,
      slice_zero_left, List.take_of_length_le (by omega)]
  rw [hpacket]
  unfold admissionPacket
  dsimp only
  rw [hfields, ← htype.1]

/-- **What is accepted as an admission response is its encoding.** -/
theorem encodeAdmissionResponse_decode {response : AdmissionResponse} {capacity : ℕ} {bytes : Bytes}
    (h : decodeAdmissionResponse bytes = some response) (hroom : bytes.length ≤ capacity) :
    encodeAdmissionResponse response capacity = some bytes := by
  obtain ⟨hvalid, hpacket⟩ := packet_of_decodeAdmissionResponse h
  unfold encodeAdmissionResponse
  rw [if_pos hvalid]
  exact encode_decode hpacket hroom

theorem admission_buffered : Buffered maxPacketSize id encodeAdmissionResponse decodeAdmissionResponse := by
  refine ⟨fun response capacity bytes h => decodeAdmissionResponse_encode h,
    fun response capacity bytes h hroom => encodeAdmissionResponse_decode h hroom, fun response capacity bytes h => ?_⟩
  unfold encodeAdmissionResponse at h
  split at h
  · exact packet_buffered.fits _ _ _ h
  · cases h

/-- An EVENT packet is no admission response: the type of the packet tells. -/
theorem type_of_decodeEvent {event : Event} {bytes : Bytes} (h : decodeEvent bytes = some event) :
    ∃ packet, decode bytes = some packet ∧ packet.type = .event := by
  unfold decodeEvent at h
  split at h
  · cases h
  rename_i packet hpacket
  split at h
  · cases h
  rename_i htype
  rw [not_or, not_not] at htype
  exact ⟨packet, hpacket, htype.1⟩

theorem event_not_admission {event : Event} {response : AdmissionResponse} {bytes : Bytes}
    (h : decodeEvent bytes = some event) : decodeAdmissionResponse bytes ≠ some response := by
  intro hresponse
  obtain ⟨packet, hpacket, htype⟩ := type_of_decodeEvent h
  rw [(packet_of_decodeAdmissionResponse hresponse).2, Option.some.injEq] at hpacket
  rw [← hpacket] at htype
  cases htype

end Redline.Wire
