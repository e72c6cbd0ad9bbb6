import Redline.Host.Bridge

/-!
# The requests there are

`validated_cases`: what a request that has passed `validateOperationRequest` can be, one case for each shape of
target and value.  A request of the first minor version fits on the wire (`decodeWireRequest_encode`), so the bridge
never refuses one for its own codec.
-/

namespace Redline.Host

open Redline.Wire

/-- The shapes of a valid request. -/
inductive RequestShape (minor : UInt8) (r : OperationRequest) : Prop
  | device (hcategory : r.category = OperationCategory.device)
      (hop : r.operation = OperationCode.ping ∨ r.operation = OperationCode.getDeviceInfo ∨
        r.operation = OperationCode.getStatus)
      (htarget : r.targetId = 0) (hvalue : isNoneValue r.value = true)
  | list (hcategory : r.category = OperationCategory.capability) (hop : r.operation = OperationCode.getCapabilities)
      (htarget : r.targetId = 0) (hvalue : isNoneValue r.value = true ∨ isCursorValue r.value = true)
  | look (hcategory : r.category = OperationCategory.capability)
      (hop : r.operation = OperationCode.describeCapability ∨ r.operation = OperationCode.readCapability)
      (htarget : r.targetId ≠ 0) (hvalue : isNoneValue r.value = true)
  | indicator (hcategory : r.category = OperationCategory.capability) (hop : r.operation = OperationCode.setIndicator)
      (htarget : r.targetId ≠ 0) (htype : r.value.type = ValueType.boolean) (hvalue : isValidScalarValue r.value = true)
  | procedure (hcategory : r.category = OperationCategory.procedure) (hop : r.operation = OperationCode.runProcedure)
      (htarget : r.targetId ≠ 0) (hvalue : isValidScalarValue r.value = true)
  | diagnostics (hcategory : r.category = OperationCategory.diagnostic)
      (hop : r.operation = OperationCode.getDiagnostics) (htarget : r.targetId = 0)
      (hvalue : isNoneValue r.value = true ∨ isCursorValue r.value = true)
  | eventDiagnostics (hminor : minor = versionMinor02) (hcategory : r.category = OperationCategory.diagnostic)
      (hop : r.operation = OperationCode.getEventDiagnostics) (htarget : r.targetId = 0)
  | poll (hminor : minor = versionMinor02) (hcategory : r.category = OperationCategory.event)
      (hop : r.operation = OperationCode.pollEvents) (htarget : r.targetId = 0)
  | consume (hminor : minor = versionMinor02) (hcategory : r.category = OperationCategory.event)
      (hop : r.operation = OperationCode.consumeEvent) (htarget : r.targetId = 0)
      (hvalue : (decodeHostEventIdentity r.value.bytes).toBool = true)

theorem isNoneValue_iff {value : TypedValue} : isNoneValue value = true ↔ value = noneValue := by
  cases value
  simp [isNoneValue, noneValue]

/-- A pair of the table of categories and operations. -/
theorem supported_pair {category operation : UInt8} (h : isSupportedCategoryOperation category operation = true) :
    (category = OperationCategory.device ∧ (operation = OperationCode.ping ∨
      operation = OperationCode.getDeviceInfo ∨ operation = OperationCode.getStatus)) ∨
    (category = OperationCategory.capability ∧ (operation = OperationCode.getCapabilities ∨
      operation = OperationCode.describeCapability ∨ operation = OperationCode.readCapability ∨
      operation = OperationCode.setIndicator)) ∨
    (category = OperationCategory.procedure ∧ operation = OperationCode.runProcedure) ∨
    (category = OperationCategory.diagnostic ∧ operation = OperationCode.getDiagnostics) := by
  unfold isSupportedCategoryOperation at h
  split at h
  · refine Or.inl ⟨‹_›, ?_⟩
    simpa only [Bool.or_eq_true, beq_iff_eq, or_assoc] using h
  split at h
  · refine Or.inr (Or.inl ⟨‹_›, ?_⟩)
    simpa only [Bool.or_eq_true, beq_iff_eq, or_assoc] using h
  split at h
  · exact Or.inr (Or.inr (Or.inl ⟨‹_›, by simpa using h⟩))
  split at h
  · exact Or.inr (Or.inr (Or.inr ⟨‹_›, by simpa using h⟩))
  · cases h

/-- What is supported without Events is valid in every minor version. -/
theorem classifyCategoryOperation_valid {category operation : UInt8} (minor : UInt8)
    (hcategory : isKnownOperationCategory category = true) (hcode : isKnownOperationCode operation = true)
    (hsupported : isSupportedCategoryOperation category operation = true) :
    classifyCategoryOperation minor category operation = .valid := by
  have hevent : category ≠ OperationCategory.event := by
    rintro rfl
    exact absurd hcategory (by decide)
  have hcategoryAt : isKnownOperationCategoryAt minor category = true := by
    rw [isKnownOperationCategoryAt, hcategory, Bool.true_or]
  have hcodeAt : isKnownOperationCodeAt minor operation = true := by
    rw [isKnownOperationCodeAt, hcode, Bool.true_or]
  have hsupportedAt : isSupportedCategoryOperationAt minor category operation = true := by
    unfold isSupportedCategoryOperationAt
    rw [if_neg fun hc => hevent hc.2]
    split
    · rfl
    · rw [hcategoryAt, hcodeAt, hsupported]
      rfl
  rw [classifyCategoryOperation, hcategoryAt, hcodeAt, if_neg (by decide), if_pos hsupportedAt]

theorem classify_of_01 {minor category operation : UInt8}
    (h : classifyCategoryOperation versionMinor01 category operation = .valid) :
    classifyCategoryOperation minor category operation = .valid := by
  have hother : (versionMinor01 == versionMinor02) = false := by decide
  unfold classifyCategoryOperation at h
  split at h
  · cases h
  rename_i hknown
  split at h
  swap
  · cases h
  rename_i hsupported
  simp only [isKnownOperationCategoryAt, isKnownOperationCodeAt, hother, Bool.false_and, Bool.or_false, Bool.or_eq_true,
    Bool.not_eq_true', not_or, Bool.not_eq_false] at hknown
  have hpair : isSupportedCategoryOperation category operation = true := by
    unfold isSupportedCategoryOperationAt at hsupported
    rw [if_neg fun hc => absurd hc.1 (by decide), if_neg fun hc => absurd hc.1 (by decide)] at hsupported
    simp only [Bool.and_eq_true] at hsupported
    exact hsupported.2
  exact classifyCategoryOperation_valid minor hknown.1 hknown.2 hpair

/-- A valid request names a pair of the minor version and a target that goes with it. -/
theorem validated_target {minor : UInt8} {request : OperationRequest}
    (h : validateOperationRequest minor request = .ok) :
    classifyCategoryOperation minor request.category request.operation = .valid ∧
      isValidOperationTarget request.category request.operation request.targetId = true := by
  unfold validateOperationRequest at h
  split at h
  · split at h <;> cases h
  · cases h
  · rename_i hclass
    split at h
    · cases h
    · rename_i htarget
      exact ⟨hclass, by simpa using htarget⟩

/-- What the first minor version accepts, every minor version accepts. -/
theorem validate_of_01 {minor : UInt8} {request : OperationRequest}
    (h : validateOperationRequest versionMinor01 request = .ok) : validateOperationRequest minor request = .ok := by
  have hclass := (validated_target h).1
  unfold validateOperationRequest at h ⊢
  rw [classify_of_01 hclass]
  rw [hclass] at h
  exact h

theorem validateOperationRequest_of {minor : UInt8} {request : OperationRequest}
    (hclass : classifyCategoryOperation minor request.category request.operation = .valid)
    (hevent : request.category ≠ OperationCategory.event)
    (htarget : isValidOperationTarget request.category request.operation request.targetId = true)
    (hvalue : isValidOperationRequestValue request.operation request.value = true) :
    validateOperationRequest minor request = .ok := by
  unfold validateOperationRequest
  rw [hclass]
  dsimp only
  rw [htarget, if_neg (by decide), if_neg (fun hc => hevent hc.1), if_neg (fun hc => hevent hc.1), hvalue,
    if_neg (by decide)]

/-- **The shapes of a request.** -/
theorem validated_cases {minor : UInt8} {r : OperationRequest} (h : validateOperationRequest minor r = .ok) :
    RequestShape minor r := by
  unfold validateOperationRequest at h
  split at h
  · split at h <;> cases h
  · cases h
  rename_i hclass
  -- the pair is supported
  have hsup : isSupportedCategoryOperationAt minor r.category r.operation = true := by
    unfold classifyCategoryOperation at hclass
    split at hclass
    · cases hclass
    · split at hclass
      · assumption
      · cases hclass
  split at h
  · cases h
  rename_i htarget
  simp only [Bool.not_eq_true', Bool.not_eq_false] at htarget
  unfold isSupportedCategoryOperationAt at hsup
  split at hsup
  · rename_i hev
    have htarget : r.targetId = 0 := by
      rw [hev.2] at htarget
      simpa [isValidOperationTarget, OperationCategory.event, OperationCategory.device, OperationCategory.diagnostic,
        OperationCategory.capability, OperationCategory.procedure] using htarget
    rw [Bool.or_eq_true, beq_iff_eq, beq_iff_eq] at hsup
    rcases hsup with hop | hop
    · exact .poll hev.1 hev.2 hop htarget
    · have hne : ¬ (r.category = OperationCategory.event ∧ r.operation = OperationCode.pollEvents) := by
        rw [hop]
        exact fun hc => absurd hc.2 (by decide)
      rw [if_neg hne, if_pos ⟨hev.2, hop⟩] at h
      split at h
      · rename_i hv
        simp only [Bool.and_eq_true] at hv
        exact .consume hev.1 hev.2 hop htarget hv.2
      · cases h
  split at hsup
  · rename_i hev
    refine .eventDiagnostics hev.1 hev.2.1 hev.2.2 ?_
    rw [hev.2.1] at htarget
    simpa [isValidOperationTarget] using htarget
  simp only [Bool.and_eq_true] at hsup
  have hpair := supported_pair hsup.2
  -- none of these is an Event operation, so the value is the one of the table
  have hvalue : isValidOperationRequestValue r.operation r.value = true := by
    have hne : r.category ≠ OperationCategory.event := by
      rcases hpair with ⟨hc, -⟩ | ⟨hc, -⟩ | ⟨hc, -⟩ | ⟨hc, -⟩ <;> rw [hc] <;> decide
    rw [if_neg (fun hc => hne hc.1), if_neg (fun hc => hne hc.1)] at h
    split at h
    · cases h
    · rename_i hv
      simpa using hv
  rcases hpair with ⟨hc, hop⟩ | ⟨hc, hop | hop | hop | hop⟩ | ⟨hc, hop⟩ | ⟨hc, hop⟩
  · have htarget : r.targetId = 0 := by
      rw [hc] at htarget
      simpa [isValidOperationTarget] using htarget
    refine .device hc hop htarget ?_
    rcases hop with hop | hop | hop <;> rw [hop] at hvalue <;>
      simpa [isValidOperationRequestValue, OperationCode.ping, OperationCode.getDeviceInfo,
        OperationCode.getStatus] using hvalue
  all_goals rw [hc, hop] at htarget
  all_goals rw [hop] at hvalue
  · exact .list hc hop (by simpa [isValidOperationTarget, OperationCategory.capability, OperationCategory.device,
      OperationCategory.diagnostic] using htarget) (Bool.or_eq_true _ _ ▸ hvalue)
  · have htarget : (r.targetId != 0) = true := htarget
    exact .look hc (Or.inl hop) (by simpa using htarget) hvalue
  · have htarget : (r.targetId != 0) = true := htarget
    exact .look hc (Or.inr hop) (by simpa using htarget) hvalue
  · have htarget : (r.targetId != 0) = true := htarget
    have hvalue : (r.value.type == ValueType.boolean && isValidScalarValue r.value) = true := hvalue
    rw [Bool.and_eq_true, beq_iff_eq] at hvalue
    exact .indicator hc hop (by simpa using htarget) hvalue.1 hvalue.2
  · have htarget : (r.targetId != 0) = true := htarget
    exact .procedure hc hop (by simpa using htarget) hvalue
  · exact .diagnostics hc hop (by simpa [isValidOperationTarget] using htarget) (Bool.or_eq_true _ _ ▸ hvalue)

/-! ### On the wire -/

theorem isValidScalarValue_noneValue : isValidScalarValue noneValue = true := by decide

/-- A scalar value has at most four bytes, and is none of the records. -/
theorem scalar_bounds {value : TypedValue} (h : isValidScalarValue value = true) :
    value.bytes.length ≤ 4 ∧ isKnownValueType value.type = true ∧ value.type ≠ structureValueType := by
  unfold isValidScalarValue at h
  split at h
  · cases h
  rename_i hknown
  simp only [Bool.or_eq_true, decide_eq_true_eq, Bool.not_eq_true', not_or, Bool.not_eq_false] at hknown
  split at h
  · cases h
  rename_i hlen
  refine ⟨?_, hknown.2, hknown.1⟩
  rw [not_not.1 hlen]
  have hk := hknown.2
  simp only [isKnownValueType, Bool.or_eq_true, beq_iff_eq] at hk
  rcases hk with (((((hk | hk) | hk) | hk) | hk) | hk) | hk <;> rw [hk] <;> decide

theorem isCursorValue_scalar {value : TypedValue} (h : isCursorValue value = true) :
    isValidScalarValue value = true := (Bool.and_eq_true _ _ ▸ h : _ ∧ _).2

/-- A valid request of the first minor version passes the schema of the wire. -/
theorem validated_schema {r : OperationRequest} (h : validateOperationRequest versionMinor01 r = .ok) :
    isStructuredOpcode r.operation = true ∧ isValidScalarValue r.value = true ∧
      isValidRequestSchema r.operation ⟨r.targetId, r.value⟩ = true := by
  have hnone : isNoneValue r.value = true → isValidScalarValue r.value = true := by
    intro hv
    rw [isNoneValue_iff.1 hv]
    exact isValidScalarValue_noneValue
  cases validated_cases h with
  | device hc hop ht hv =>
    have hs := hnone hv
    rcases hop with hop | hop | hop <;> rw [hop, ht] <;>
      exact ⟨by decide, hs, by simp [isValidRequestSchema, isStructuredOpcode, hs, hv, OperationCode.ping,
        OperationCode.getDeviceInfo, OperationCode.getStatus, OperationCode.getDiagnostics]⟩
  | list hc hop ht hv =>
    have hs : isValidScalarValue r.value = true := hv.elim hnone isCursorValue_scalar
    rw [hop, ht]
    exact ⟨by decide, hs, by simp [isValidRequestSchema, isStructuredOpcode, hs, hv, OperationCode.ping,
      OperationCode.getDeviceInfo, OperationCode.getStatus, OperationCode.getDiagnostics,
      OperationCode.getCapabilities]⟩
  | look hc hop ht hv =>
    have hs := hnone hv
    rcases hop with hop | hop <;> rw [hop] <;>
      exact ⟨by decide, hs, by simp [isValidRequestSchema, isStructuredOpcode, hs, hv, ht, OperationCode.ping,
        OperationCode.getDeviceInfo, OperationCode.getStatus, OperationCode.getDiagnostics,
        OperationCode.getCapabilities, OperationCode.describeCapability, OperationCode.readCapability]⟩
  | indicator hc hop ht hb hs =>
    rw [hop]
    exact ⟨by decide, hs, by simp [isValidRequestSchema, isStructuredOpcode, hs, hb, ht, OperationCode.ping,
      OperationCode.getDeviceInfo, OperationCode.getStatus, OperationCode.getDiagnostics,
      OperationCode.getCapabilities, OperationCode.describeCapability, OperationCode.readCapability,
      OperationCode.setIndicator]⟩
  | procedure hc hop ht hs =>
    rw [hop]
    exact ⟨by decide, hs, by simp [isValidRequestSchema, isStructuredOpcode, hs, ht, OperationCode.ping,
      OperationCode.getDeviceInfo, OperationCode.getStatus, OperationCode.getDiagnostics,
      OperationCode.getCapabilities, OperationCode.describeCapability, OperationCode.readCapability,
      OperationCode.setIndicator, OperationCode.runProcedure]⟩
  | diagnostics hc hop ht hv =>
    have hs : isValidScalarValue r.value = true := hv.elim hnone isCursorValue_scalar
    rw [hop, ht]
    exact ⟨by decide, hs, by simp [isValidRequestSchema, isStructuredOpcode, hs, hv, OperationCode.ping,
      OperationCode.getDeviceInfo, OperationCode.getStatus, OperationCode.getDiagnostics]⟩
  | eventDiagnostics hminor => exact absurd hminor (by decide)
  | poll hminor => exact absurd hminor (by decide)
  | consume hminor => exact absurd hminor (by decide)

/-- **A valid request fits on the wire**, and comes back as it was. -/
theorem decodeWireRequest_encode {r : OperationRequest} (h : validateOperationRequest versionMinor01 r = .ok) :
    ∃ bytes, encodeWireRequest r.operation ⟨r.targetId, r.value⟩ = .ok bytes ∧ bytes.length ≠ 0 ∧
      decodeWireRequest r.operation bytes = .ok ⟨r.targetId, r.value⟩ := by
  obtain ⟨hop, hs, hschema⟩ := validated_schema h
  obtain ⟨hlen, hknown, hstruct⟩ := scalar_bounds hs
  have hsize : ¬ Wire.maxPayloadSize < wireRequestFixedSize + r.value.bytes.length := by
    have : wireRequestFixedSize + 4 ≤ Wire.maxPayloadSize := by decide
    omega
  refine ⟨writeUint16Le r.targetId ++ [r.value.type, r.value.bytes.length.toUInt8] ++ r.value.bytes, ?_, ?_, ?_⟩
  · rw [encodeWireRequest, hop, hschema]
    exact (if_neg (by decide)).trans ((if_neg (by decide)).trans (if_neg hsize))
  · simp
  -- the fields are read where they were written
  have hbyte : (r.value.bytes.length.toUInt8).toNat = r.value.bytes.length := by
    rw [Nat.toUInt8_eq, UInt8.toNat_ofNat']
    omega
  have htarget : readUint16Le (writeUint16Le r.targetId ++ [r.value.type, r.value.bytes.length.toUInt8] ++
      r.value.bytes) 0 = r.targetId := uint16_of_bytes r.targetId
  unfold decodeWireRequest
  rw [hop, if_neg (by decide), if_neg, if_neg]
  · rw [htarget]
    dsimp only
    rw [if_neg, if_neg]
    · rfl
    · change ¬ (!isValidRequestSchema r.operation ⟨r.targetId, ⟨r.value.type, r.value.bytes⟩⟩) = true
      rw [hschema]
      decide
    · change ¬ (!isKnownValueType r.value.type || r.value.type == structureValueType) = true
      rw [hknown]
      simpa using hstruct
  · change ¬ (maxWireRequestValueSize < (r.value.bytes.length.toUInt8).toNat ∨ _ ≠ _ + (r.value.bytes.length.toUInt8).toNat)
    rw [hbyte]
    have : 4 ≤ maxWireRequestValueSize := by decide
    simp [wireRequestFixedSize]
    omega
  · have : wireRequestFixedSize = 4 := rfl
    simp only [List.length_append, length_writeUint16Le, List.length_cons, List.length_nil]
    omega

end Redline.Host
