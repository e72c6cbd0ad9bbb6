import Redline.Records.EventRecords
import Mathlib.Tactic.IntervalCases

/-!
# What is encoded decodes

For each of the four formats: a value that encodes is decoded to itself.  The envelope is handled
once (`validateEnvelope_finishCrc`); the fields are read back at the offsets they were written at.
-/

namespace Redline.Records

open Redline.Wire

/-- The envelope of a finished record is accepted. -/
theorem validateEnvelope_finishCrc {n : ℕ} (magic : Magic) (generation : UInt32) {rest : Bytes}
    (hn : n < 65536) (hlen : rest.length + 16 = n) :
    validateEnvelope (finishCrc (encodeEnvelope n magic generation ++ rest)) n magic = .ok () := by
  set out := encodeEnvelope n magic generation ++ rest with hout
  have hpre : out.length = n - 4 := by
    simp [hout, encodeEnvelope]
    omega
  have hcrc : readUint32Le (finishCrc out) (n - 4) = crc32IsoHdlc out := by
    have := readUint32Le_write hpre (crc32IsoHdlc out) []
    rwa [List.append_nil] at this
  have htake : (finishCrc out).take (n - 4) = out := List.take_left' hpre
  have hl : (finishCrc out).length = n := by
    rw [finishCrc, List.length_append, hpre, length_writeUint32Le]
    omega
  have hmagic : sameMagic (finishCrc out) magic = true := by
    simp [sameMagic, hout, finishCrc, encodeEnvelope, byteAt]
  have h6 : readUint16Le (finishCrc out) 6 = n.toUInt16 := uint16_of_bytes n.toUInt16
  have h4 : readUint16Le (finishCrc out) 4 = schemaVersion := uint16_of_bytes schemaVersion
  have hn16 : n.toUInt16.toNat = n := by
    simp
    omega
  simp [validateEnvelope, hl, hmagic, h6, hn16, htake, hcrc, h4]

theorem length_of_validateEnvelope {input : Bytes} {n : ℕ} {magic : Magic}
    (h : validateEnvelope input n magic = .ok ()) : input.length = n := by
  unfold validateEnvelope at h
  split at h
  · cases h
  · simpa using ‹¬ input.length ≠ n›

theorem decodeNodeMetadata_encode {value : NodeMetadata} {bytes : Bytes}
    (h : encodeNodeMetadata value = .ok bytes) : decodeNodeMetadata bytes = .ok value := by
  unfold encodeNodeMetadata at h
  split at h
  · cases h
  · rename_i hv
    rw [Except.ok.injEq] at h
    have henv : validateEnvelope bytes nodeMetadataSize magicEID1 = .ok () := by
      rw [← h]
      exact validateEnvelope_finishCrc _ _ (by decide) rfl
    have h8 : readUint32Le bytes 8 = value.generation := by rw [← h]; exact uint32_of_bytes _
    have h12 : byteAt bytes 12 = value.custodySourceDeviceId := by rw [← h]; rfl
    have h13 : allZero bytes 13 3 = true := by rw [← h]; rfl
    have h16 : readUint32Le bytes 16 = value.eventEpoch := by rw [← h]; exact uint32_of_bytes _
    have h20 : readUint32Le bytes 20 = value.nextUnreservedEventId := by
      rw [← h]; exact uint32_of_bytes _
    simp only [decodeNodeMetadata, henv, h8, h12, h13, h16, h20]
    rw [if_neg (by simp), if_neg hv]

theorem decodeHubMetadata_encode {value : HubMetadata} {bytes : Bytes}
    (h : encodeHubMetadata value = .ok bytes) : decodeHubMetadata bytes = .ok value := by
  unfold encodeHubMetadata at h
  split at h
  · cases h
  · rename_i hv
    rw [Except.ok.injEq] at h
    have henv : validateEnvelope bytes hubMetadataSize magicHAO1 = .ok () := by
      rw [← h]
      exact validateEnvelope_finishCrc _ _ (by decide) rfl
    have h8 : readUint32Le bytes 8 = value.generation := by rw [← h]; exact uint32_of_bytes _
    have h12 : readUint32Le bytes 12 = value.nextUnreservedAdmissionOrdinal := by
      rw [← h]; exact uint32_of_bytes _
    have h16 : allZero bytes 16 4 = true := by rw [← h]; rfl
    simp only [decodeHubMetadata, henv, h8, h12, h16]
    rw [if_neg (by simp), if_neg hv]

/-! ### Bodies -/

/-- A byte past the body length is zero. -/
theorem getElem_of_zeroTail {body : Body} {bodyLength : UInt8} (h : zeroTail body bodyLength = true)
    (i : Fin 12) (hi : bodyLength.toNat ≤ i.val) : body[i] = 0 := by
  rw [zeroTail, List.all_eq_true] at h
  have hmem : body[i] ∈ body.toList.drop bodyLength.toNat := by
    rw [List.mem_drop_iff_getElem]
    refine ⟨i.val - bodyLength.toNat, by simp; omega, ?_⟩
    simp only [Vector.getElem_toList]
    congr 1
    omega
  simpa using h _ hmem

theorem bodyBytes_eq (body : Body) : bodyBytes body = body.toList := by
  refine List.ext_getElem (by simp [bodyBytes]) fun i h _ => ?_
  have hi : i < 12 := by simpa [bodyBytes] using h
  interval_cases i <;> rfl

/-- The body field of a record with a zero tail is its body. -/
theorem bodyField_of_zeroTail {body : Body} {bodyLength : UInt8}
    (h : zeroTail body bodyLength = true) : bodyField body bodyLength = bodyBytes body := by
  refine List.map_congr_left fun i _ => ?_
  split
  · rfl
  · exact (getElem_of_zeroTail h i (by omega)).symm

/-- A body read from its own bytes. -/
theorem bodyOf_bodyBytes (body : Body) (rest : Bytes) : bodyOf (bodyBytes body ++ rest) = body := by
  ext i hi
  rw [bodyOf, Vector.getElem_ofFn]
  interval_cases i <;> rfl

/-- A body with a zero tail is read from the bytes up to its length. -/
theorem bodyOf_take {body : Body} {bodyLength : UInt8} (h : zeroTail body bodyLength = true) :
    bodyOf (body.toList.take bodyLength.toNat) = body := by
  refine Vector.ext fun i hi => ?_
  rw [bodyOf, Vector.getElem_ofFn, byteAt]
  by_cases hlt : i < bodyLength.toNat
  · simp [List.getD_eq_getElem?_getD, hlt, hi]
  · have hzero := getElem_of_zeroTail h ⟨i, hi⟩ (by simpa using hlt)
    simp only [List.getD_eq_getElem?_getD, List.getElem?_take, if_neg hlt, Option.getD_none]
    exact hzero.symm

/-- The bytes past the body length in a record with a zero tail. -/
theorem allZero_bodyBytes {p q : Bytes} (hp : p.length = 36) {body : Body} {bodyLength : UInt8}
    (hlen : bodyLength.toNat ≤ 12) (h : zeroTail body bodyLength = true) :
    allZero (p ++ (bodyBytes body ++ q)) (36 + bodyLength.toNat) (maxBodySize - bodyLength.toNat) =
      true := by
  have hb : (bodyBytes body).length = 12 := rfl
  rw [allZero, ← List.drop_drop, List.drop_left' hp, List.drop_append_of_le_length (by omega),
    List.take_left' (by rw [List.length_drop, hb]; rfl), bodyBytes_eq]
  exact h

/-! ### Records -/

/-- A record other than a free one passes the checks of its content. -/
theorem validateNodeRecord_body {value : NodeRecord} (h : validateNodeRecord value = .ok ()) :
    value.bodyLength.toNat ≤ 12 ∧ zeroTail value.body value.bodyLength = true := by
  unfold validateNodeRecord at h
  split at h
  · split at h
    · rename_i hfree
      simp only [canonicalFree, Bool.and_eq_true, beq_iff_eq] at hfree
      rw [hfree.1.1.1.1.1.1.2]
      exact ⟨by decide, by simpa [zeroTail] using hfree.2⟩
    · cases h
  · repeat' split at h
    all_goals cases h
    rename_i hcanon htail
    simp only [validCanonicalEvent, isValidContent, Bool.not_eq_true', Bool.not_eq_false,
      Bool.and_eq_true, decide_eq_true_eq] at hcanon htail
    exact ⟨hcanon.2.1.1.2, htail⟩

theorem validateHubRecord_body {value : HubRecord} (h : validateHubRecord value = .ok ()) :
    value.bodyLength.toNat ≤ 12 ∧ zeroTail value.body value.bodyLength = true := by
  unfold validateHubRecord at h
  split at h
  · split at h
    · rename_i hfree
      simp only [canonicalEmpty, Bool.and_eq_true, beq_iff_eq] at hfree
      rw [hfree.1.1.1.1.1.2]
      exact ⟨by decide, by simpa [zeroTail] using hfree.2⟩
    · cases h
  · repeat' split at h
    all_goals cases h
    rename_i hcanon htail
    simp only [validCanonicalEvent, isValidContent, Bool.not_eq_true', Bool.not_eq_false,
      Bool.and_eq_true, decide_eq_true_eq] at hcanon htail
    exact ⟨hcanon.2.1.1.2, htail⟩

@[simp] theorem NodeState.ofByte?_toByte (s : NodeState) : NodeState.ofByte? s.toByte = some s := by
  cases s <;> rfl

@[simp] theorem HubState.ofByte?_toByte (s : HubState) : HubState.ofByte? s.toByte = some s := by
  cases s <;> rfl

theorem decodeNodeRecord_encode {value : NodeRecord} {bytes : Bytes}
    (h : encodeNodeRecord value = .ok bytes) : decodeNodeRecord bytes = .ok value := by
  unfold encodeNodeRecord at h
  split at h
  · cases h
  · rename_i hv
    obtain ⟨hlen, htail⟩ := validateNodeRecord_body hv
    rw [Except.ok.injEq, bodyField_of_zeroTail htail] at h
    have henv : validateEnvelope bytes nodeRecordSize magicEVT1 = .ok () := by
      rw [← h]
      exact validateEnvelope_finishCrc _ _ (by decide) rfl
    have h8 : readUint32Le bytes 8 = value.generation := by rw [← h]; exact uint32_of_bytes _
    have h12 : byteAt bytes 12 = value.state.toByte := by rw [← h]; rfl
    have h13 : byteAt bytes 13 = value.flags := by rw [← h]; rfl
    have h14 : byteAt bytes 14 = value.family := by rw [← h]; rfl
    have h15 : byteAt bytes 15 = value.bodyLength := by rw [← h]; rfl
    have h16 : readUint32Le bytes 16 = value.eventEpoch := by rw [← h]; exact uint32_of_bytes _
    have h20 : readUint32Le bytes 20 = value.eventId := by rw [← h]; exact uint32_of_bytes _
    have h24 : readUint32Le bytes 24 = value.lifetimeBudgetSeconds := by
      rw [← h]; exact uint32_of_bytes _
    have h28 : readUint32Le bytes 28 = value.remainingActiveSeconds := by
      rw [← h]; exact uint32_of_bytes _
    have h32 : byteAt bytes 32 = value.attemptsUsed := by rw [← h]; rfl
    have h33 : allZero bytes 33 3 = true := by rw [← h]; rfl
    have h36 : bodyOf (bytes.drop 36) = value.body := by
      rw [← h]
      exact bodyOf_bodyBytes value.body _
    have h48 : allZero bytes 48 4 = true := by rw [← h]; rfl
    have htl : allZero bytes (36 + value.bodyLength.toNat) (maxBodySize - value.bodyLength.toNat) =
        true := by
      have := allZero_bodyBytes (p := bytes.take 36) (q := bytes.drop 48) (by rw [← h]; rfl) hlen htail
      rw [← this]
      congr 1
      rw [← h]
      rfl
    simp only [decodeNodeRecord, henv, h8, h12, h13, h14, h15, h16, h20, h24, h28, h32, h33, h36, h48,
      htl, NodeState.ofByte?_toByte]
    rw [if_neg (by simp), if_neg (by simpa [maxBodySize] using hlen), if_neg (by simp)]
    simp only [hv]

theorem decodeHubRecord_encode {value : HubRecord} {bytes : Bytes}
    (h : encodeHubRecord value = .ok bytes) : decodeHubRecord bytes = .ok value := by
  unfold encodeHubRecord at h
  split at h
  · cases h
  · rename_i hv
    obtain ⟨hlen, htail⟩ := validateHubRecord_body hv
    rw [Except.ok.injEq, bodyField_of_zeroTail htail] at h
    have henv : validateEnvelope bytes hubRecordSize magicHEV1 = .ok () := by
      rw [← h]
      exact validateEnvelope_finishCrc _ _ (by decide) rfl
    have h8 : readUint32Le bytes 8 = value.generation := by rw [← h]; exact uint32_of_bytes _
    have h12 : byteAt bytes 12 = value.state.toByte := by rw [← h]; rfl
    have h13 : byteAt bytes 13 = value.sourceDeviceId := by rw [← h]; rfl
    have h14 : byteAt bytes 14 = value.family := by rw [← h]; rfl
    have h15 : byteAt bytes 15 = value.flags := by rw [← h]; rfl
    have h16 : byteAt bytes 16 = value.bodyLength := by rw [← h]; rfl
    have h17 : allZero bytes 17 3 = true := by rw [← h]; rfl
    have h20 : readUint32Le bytes 20 = value.eventEpoch := by rw [← h]; exact uint32_of_bytes _
    have h24 : readUint32Le bytes 24 = value.eventId := by rw [← h]; exact uint32_of_bytes _
    have h28 : readUint32Le bytes 28 = value.lifetimeBudgetSeconds := by
      rw [← h]; exact uint32_of_bytes _
    have h32 : readUint32Le bytes 32 = value.admissionOrdinal := by
      rw [← h]; exact uint32_of_bytes _
    have h36 : bodyOf (bytes.drop 36) = value.body := by
      rw [← h]
      exact bodyOf_bodyBytes value.body _
    have h48 : allZero bytes 48 4 = true := by rw [← h]; rfl
    have htl : allZero bytes (36 + value.bodyLength.toNat) (maxBodySize - value.bodyLength.toNat) =
        true := by
      have := allZero_bodyBytes (p := bytes.take 36) (q := bytes.drop 48) (by rw [← h]; rfl) hlen htail
      rw [← this]
      congr 1
      rw [← h]
      rfl
    simp only [decodeHubRecord, henv, h8, h12, h13, h14, h15, h16, h17, h20, h24, h28, h32, h36, h48,
      htl, HubState.ofByte?_toByte]
    rw [if_neg (by simp), if_neg (by simpa [maxBodySize] using hlen), if_neg (by simp)]
    simp only [hv]

end Redline.Records
