import Redline.Lib.Codec
import Redline.Wire.Slices
import Redline.Records.Codec
import Redline.DeviceSettings.Record

/-!
# What decodes is canonical

The converse of the round trips: a string that one of the five stored formats accepts is the encoding of the value it
decodes to.  `Enveloped` says what the checks on the envelope leave to show, `Enveloped.finish`: the bytes between
envelope and CRC are the fields of the value.  The fields are joined from the slices they were read from, and each
reserved byte is in a slice of zeros.
-/

namespace Redline.Records

open Redline.Wire Redline.Lib

theorem slice_of_allZero {input : Bytes} {offset length : ℕ} (h : allZero input offset length = true)
    (hlen : offset + length ≤ input.length) : slice input offset length = List.replicate length 0 := by
  rw [allZero, List.all_eq_true] at h
  refine List.eq_replicate_iff.2 ⟨length_slice hlen, fun b hb => ?_⟩
  simpa using h b hb

/-- A string that passed the checks on magic, length, CRC and schema. -/
structure Enveloped (input : Bytes) (n : ℕ) (magic : Magic) : Prop where
  length : input.length = n
  envelope : encodeEnvelope n magic (readUint32Le input 8) = slice input 0 12
  crc : finishCrc (input.take (n - 4)) = input

theorem enveloped_of_validateEnvelope {input : Bytes} {n : ℕ} {magic : Magic} (hn : 16 ≤ n)
    (h : validateEnvelope input n magic = .ok ()) : Enveloped input n magic := by
  have hlen := length_of_validateEnvelope h
  unfold validateEnvelope at h
  repeat' split at h
  all_goals cases h
  rename_i hmagic hrecord hcrc hschema
  rw [not_not] at hrecord hcrc hschema
  simp only [sameMagic, Bool.not_eq_true', Bool.not_eq_false, Bool.and_eq_true, beq_iff_eq] at hmagic
  obtain ⟨⟨⟨h0, h1⟩, h2⟩, h3⟩ := hmagic
  refine ⟨hlen, ?_, ?_⟩
  · have hlength : n.toUInt16 = readUint16Le input 6 := by
      rw [← hrecord, Nat.toUInt16_eq, UInt16.ofNat_toNat]
    have hmagic : [magic.b0, magic.b1, magic.b2, magic.b3] = slice input 0 4 := by
      rw [slice_succ 3 (by omega), slice_succ 2 (by omega), slice_succ 1 (by omega), slice_one (by omega), h0, h1, h2,
        h3]
    rw [encodeEnvelope, hmagic, ← hschema, hlength, writeUint16Le_read (by omega), writeUint16Le_read (by omega),
      writeUint32Le_read (by omega), slice_append input 0 4 2, slice_append input 0 6 2, slice_append input 0 8 4]
  · have htail : slice input (n - 4) 4 = input.drop (n - 4) := by
      rw [slice, List.take_of_length_le (by rw [List.length_drop]; omega)]
    rw [finishCrc, ← hcrc, writeUint32Le_read (by omega), htail, List.take_append_drop]

/-- **The fields are left.** -/
theorem Enveloped.finish {input fields : Bytes} {n : ℕ} {magic : Magic} (h : Enveloped input n magic) (hn : 16 ≤ n)
    (hf : fields = slice input 12 (n - 16)) :
    finishCrc (encodeEnvelope n magic (readUint32Le input 8) ++ fields) = input := by
  rw [h.envelope, hf, slice_append input 0 12, show 12 + (n - 16) = n - 4 by omega, slice_zero_left]
  exact h.crc

/-! ### Metadata -/

theorem encodeNodeMetadata_decode {value : NodeMetadata} {bytes : Bytes} (h : decodeNodeMetadata bytes = .ok value) :
    encodeNodeMetadata value = .ok bytes := by
  unfold decodeNodeMetadata at h
  split at h
  · cases h
  · rename_i henv
    have he := enveloped_of_validateEnvelope (by decide) henv
    have hlen : bytes.length = 28 := he.length
    dsimp only at h
    repeat' split at h
    all_goals cases h
    rename_i hzero hvalid
    rw [Bool.not_eq_true', Bool.not_eq_false] at hzero
    have hreserved := slice_of_allZero hzero (by omega)
    unfold encodeNodeMetadata
    rw [if_neg hvalid]
    refine congrArg Except.ok (he.finish (by decide) ?_)
    have hdevice : [byteAt bytes 12, 0, 0, 0] = slice bytes 12 4 := by
      rw [slice_succ 3 (by omega), hreserved]
      rfl
    rw [hdevice, writeUint32Le_read (by omega), writeUint32Le_read (by omega), slice_append bytes 12 4 4,
      slice_append bytes 12 8 4]
    rfl

theorem encodeHubMetadata_decode {value : HubMetadata} {bytes : Bytes} (h : decodeHubMetadata bytes = .ok value) :
    encodeHubMetadata value = .ok bytes := by
  unfold decodeHubMetadata at h
  split at h
  · cases h
  · rename_i henv
    have he := enveloped_of_validateEnvelope (by decide) henv
    have hlen : bytes.length = 24 := he.length
    dsimp only at h
    repeat' split at h
    all_goals cases h
    rename_i hzero hvalid
    rw [Bool.not_eq_true', Bool.not_eq_false] at hzero
    have hreserved : [0, 0, 0, 0] = slice bytes 16 4 := (slice_of_allZero hzero (by omega)).symm
    unfold encodeHubMetadata
    rw [if_neg hvalid]
    refine congrArg Except.ok (he.finish (by decide) ?_)
    rw [hreserved, writeUint32Le_read (by omega), slice_append bytes 12 4 4]
    rfl

/-! ### Records -/

theorem NodeState.toByte_of_ofByte? {value : UInt8} {s : NodeState} (h : NodeState.ofByte? value = some s) :
    s.toByte = value := by
  unfold NodeState.ofByte? at h
  split at h <;> cases h <;> rfl

theorem HubState.toByte_of_ofByte? {value : UInt8} {s : HubState} (h : HubState.ofByte? value = some s) :
    s.toByte = value := by
  unfold HubState.ofByte? at h
  split at h <;> cases h <;> rfl

/-- A body read from a string that goes on past it is its first twelve bytes. -/
theorem toList_bodyOf_drop {input : Bytes} {offset : ℕ} (h : offset + 12 ≤ input.length) :
    (bodyOf (input.drop offset)).toList = slice input offset 12 := by
  refine List.ext_getElem (by rw [length_slice h, Vector.length_toList]) fun i hi hi' => ?_
  rw [length_slice h] at hi'
  have hlt : offset + i < input.length := by omega
  simp only [slice, bodyOf, byteAt, Vector.getElem_toList, Vector.getElem_ofFn, List.getElem_take, List.getElem_drop,
    List.getD_eq_getElem?_getD, List.getElem?_drop, List.getElem?_eq_getElem hlt, Option.getD_some]

/-- The body field of a record, written as it was read. -/
theorem bodyField_bodyOf {input : Bytes} {bodyLength : UInt8} (h : 48 ≤ input.length)
    (htail : zeroTail (bodyOf (input.drop 36)) bodyLength = true) :
    bodyField (bodyOf (input.drop 36)) bodyLength = slice input 36 12 := by
  rw [bodyField_of_zeroTail htail, bodyBytes_eq, toList_bodyOf_drop (by omega)]

theorem encodeNodeRecord_decode {value : NodeRecord} {bytes : Bytes} (h : decodeNodeRecord bytes = .ok value) :
    encodeNodeRecord value = .ok bytes := by
  unfold decodeNodeRecord at h
  split at h
  · cases h
  · rename_i henv
    have he := enveloped_of_validateEnvelope (by decide) henv
    have hlen : bytes.length = 56 := he.length
    dsimp only at h
    repeat' split at h
    all_goals cases h
    rename_i hzero _ _ _ state hstate _ hvalid
    simp only [Bool.or_eq_true, Bool.not_eq_true', not_or, Bool.not_eq_false] at hzero
    have hreserved := slice_of_allZero hzero.1 (by omega)
    have hend : [0, 0, 0, 0] = slice bytes 48 4 := (slice_of_allZero hzero.2 (by omega)).symm
    have hbody := bodyField_bodyOf (by omega) (validateNodeRecord_body hvalid).2
    have hhead : [state.toByte, byteAt bytes 13, byteAt bytes 14, byteAt bytes 15] = slice bytes 12 4 := by
      rw [slice_succ 3 (by omega), slice_succ 2 (by omega), slice_succ 1 (by omega), slice_one (by omega),
        NodeState.toByte_of_ofByte? hstate]
    have hattempts : [byteAt bytes 32, 0, 0, 0] = slice bytes 32 4 := by
      rw [slice_succ 3 (by omega), hreserved]
      rfl
    unfold encodeNodeRecord
    rw [hvalid]
    refine congrArg Except.ok (he.finish (by decide) ?_)
    dsimp only at hbody ⊢
    rw [hhead, hattempts, hend, hbody, writeUint32Le_read (by omega), writeUint32Le_read (by omega),
      writeUint32Le_read (by omega), writeUint32Le_read (by omega), slice_append bytes 12 4 4, slice_append bytes 12 8 4,
      slice_append bytes 12 12 4, slice_append bytes 12 16 4, slice_append bytes 12 20 4, slice_append bytes 12 24 12,
      slice_append bytes 12 36 4]
    rfl

theorem encodeHubRecord_decode {value : HubRecord} {bytes : Bytes} (h : decodeHubRecord bytes = .ok value) :
    encodeHubRecord value = .ok bytes := by
  unfold decodeHubRecord at h
  split at h
  · cases h
  · rename_i henv
    have he := enveloped_of_validateEnvelope (by decide) henv
    have hlen : bytes.length = 56 := he.length
    dsimp only at h
    repeat' split at h
    all_goals cases h
    rename_i hzero _ _ _ state hstate _ hvalid
    simp only [Bool.or_eq_true, Bool.not_eq_true', not_or, Bool.not_eq_false] at hzero
    have hreserved := slice_of_allZero hzero.1 (by omega)
    have hend : [0, 0, 0, 0] = slice bytes 48 4 := (slice_of_allZero hzero.2 (by omega)).symm
    have hbody := bodyField_bodyOf (by omega) (validateHubRecord_body hvalid).2
    have hhead : [state.toByte, byteAt bytes 13, byteAt bytes 14, byteAt bytes 15] = slice bytes 12 4 := by
      rw [slice_succ 3 (by omega), slice_succ 2 (by omega), slice_succ 1 (by omega), slice_one (by omega),
        HubState.toByte_of_ofByte? hstate]
    have hlength : [byteAt bytes 16, 0, 0, 0] = slice bytes 16 4 := by
      rw [slice_succ 3 (by omega), hreserved]
      rfl
    unfold encodeHubRecord
    rw [hvalid]
    refine congrArg Except.ok (he.finish (by decide) ?_)
    dsimp only at hbody ⊢
    rw [hhead, hlength, hend, hbody, writeUint32Le_read (by omega), writeUint32Le_read (by omega),
      writeUint32Le_read (by omega), writeUint32Le_read (by omega), slice_append bytes 12 4 4, slice_append bytes 12 8 4,
      slice_append bytes 12 12 4, slice_append bytes 12 16 4, slice_append bytes 12 20 4, slice_append bytes 12 24 12,
      slice_append bytes 12 36 4]
    rfl

end Redline.Records

namespace Redline.DeviceSettings

open Redline.Wire Redline.Records

/-- A flags byte without unknown flags is the flags it names. -/
theorem flags_of_known : ∀ n : Fin 256, UInt8.ofNat n &&& 0xF8 = 0 →
    (if UInt8.ofNat n &&& 0x01 != 0 then (0x01 : UInt8) else 0) |||
      (if UInt8.ofNat n &&& 0x02 != 0 then 0x02 else 0) |||
      (if UInt8.ofNat n &&& 0x04 != 0 then 0x04 else 0) = UInt8.ofNat n := by
  decide +kernel

theorem flagsOf_settingsOf {input : Bytes} (h : byteAt input 16 &&& 0xF8 = 0) :
    flagsOf (settingsOf input) = byteAt input 16 := by
  have hb := flags_of_known ⟨(byteAt input 16).toNat, (byteAt input 16).toNat_lt⟩
  simp only [UInt8.ofNat_toNat] at hb
  exact hb h

theorem recordBytes_settingsOf {input : Bytes} (hlen : input.length = recordSize) (hmagic : hasMagic input = true)
    (hrecord : readUint16Le input 6 = recordSize.toUInt16) (hschema : readUint16Le input 4 = schemaVersion)
    (hflags : byteAt input 16 &&& 0xF8 = 0) (h17 : byteAt input 17 = 0) (h18 : byteAt input 18 = 0)
    (h19 : byteAt input 19 = 0) :
    recordBytes (settingsOf input) (readUint32Le input 8) = slice input 0 20 := by
  have hlen' : input.length = 24 := hlen
  simp only [hasMagic, Bool.and_eq_true, beq_iff_eq] at hmagic
  obtain ⟨⟨⟨h0, h1⟩, h2⟩, h3⟩ := hmagic
  have hhead : [0x52, 0x4C, 0x43, 0x46] = slice input 0 4 := by
    rw [slice_succ 3 (by omega), slice_succ 2 (by omega), slice_succ 1 (by omega), slice_one (by omega), h0, h1, h2, h3]
  have htail : [(settingsOf input).displayContrast, (settingsOf input).defaultScreen, flagsOf (settingsOf input), 0, 0, 0] =
      slice input 14 6 := by
    rw [slice_succ 5 (by omega), slice_succ 4 (by omega), slice_succ 3 (by omega), slice_succ 2 (by omega),
      slice_succ 1 (by omega), slice_one (by omega), flagsOf_settingsOf hflags, h17, h18, h19]
    rfl
  rw [recordBytes, hhead, htail, ← hschema, ← hrecord, settingsOf, writeUint16Le_read (by omega),
    writeUint16Le_read (by omega), writeUint32Le_read (by omega), writeUint16Le_read (by omega), slice_append input 0 4 2,
    slice_append input 0 6 2, slice_append input 0 8 4, slice_append input 0 12 2, slice_append input 0 14 6]

theorem encodeRecord_decodeRecord {settings : Settings} {generation : UInt32} {bytes : Bytes}
    (h : decodeRecord bytes = .ok (settings, generation)) : encodeRecord settings generation = .ok bytes := by
  unfold decodeRecord at h
  repeat' split at h
  all_goals cases h
  rename_i hlen hmagic hrecord hcrc hschema hflags hreserved _ hvalid
  rw [not_not] at hlen hrecord hcrc hschema hflags
  simp only [not_or, not_not] at hreserved
  rw [Bool.not_eq_true', Bool.not_eq_false] at hmagic
  have hlen' : bytes.length = 24 := hlen
  have hbytes := recordBytes_settingsOf hlen hmagic hrecord hschema hflags hreserved.1 hreserved.2.1 hreserved.2.2
  have hinput : slice bytes 0 20 = bytes.take crcInputSize := slice_zero_left bytes 20
  have htail : slice bytes 20 4 = bytes.drop crcInputSize := by
    rw [slice, List.take_of_length_le (by rw [List.length_drop]; omega)]
    rfl
  rw [encodeRecord, hvalid]
  dsimp only
  rw [hbytes, hinput, ← hcrc, writeUint32Le_read (by omega), htail, List.take_append_drop]

end Redline.DeviceSettings

namespace Redline.Records

open Redline.Lib

/-- **Stored records have one representation.** -/
theorem storedFormats_oneRepresentation :
    OneRepresentation encodeNodeMetadata decodeNodeMetadata ∧ OneRepresentation encodeHubMetadata decodeHubMetadata ∧
      OneRepresentation encodeNodeRecord decodeNodeRecord ∧ OneRepresentation encodeHubRecord decodeHubRecord ∧
      OneRepresentation (fun value => DeviceSettings.encodeRecord value.1 value.2) DeviceSettings.decodeRecord := by
  refine ⟨?_, ?_, ?_, ?_, ?_⟩ <;> refine Canonical.oneRepresentation ⟨?_, ?_⟩ <;> intro value bytes h
  · exact decodeNodeMetadata_encode h
  · exact encodeNodeMetadata_decode h
  · exact decodeHubMetadata_encode h
  · exact encodeHubMetadata_decode h
  · exact decodeNodeRecord_encode h
  · exact encodeNodeRecord_decode h
  · exact decodeHubRecord_encode h
  · exact encodeHubRecord_decode h
  · exact DeviceSettings.decodeRecord_encodeRecord h
  · exact DeviceSettings.encodeRecord_decodeRecord h

end Redline.Records
