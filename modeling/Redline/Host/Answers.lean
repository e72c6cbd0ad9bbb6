import Redline.Host.RecordValues
import Redline.Host.Requests

/-!
# What the services answer

`Suits minor request r`: the response `r` is one that the encoder accepts for a request of that minor version.  Each
place that builds a response builds one that suits: the rejections, the statuses without a value, the records, the
values of capabilities, the Events and what comes over the radio.

`handleLocalOperation_answers` and `EventService.handle_answers` put this together for the two local services, whatever
the handler of the device, the ledger and the flash do.
-/

namespace Redline.Host

open Redline.Wire Redline.Lib

variable {minor : UInt8} {request : OperationRequest}

/-! ### Responses that suit a request -/

structure Suits (minor : UInt8) (request : OperationRequest) (r : OperationResponse) : Prop where
  category : r.category = request.category
  operation : r.operation = request.operation
  targetId : r.targetId = request.targetId
  resultClass : isKnownResultClassAt minor r.resultClass = true
  resultCode : isValidResultCode r.resultClass r.resultCode = true
  value : validateResponseValue r = .ok
  short : r.value.bytes.length ≤ eventDiagnosticsRecordSize

/-- **A response that suits is sent.** -/
theorem Suits.encodes {r : OperationResponse} (hreq : validateOperationRequest minor request = .ok)
    (h : Suits minor request r) :
    ∃ bytes, encodeOperationResponse minor r = .ok bytes ∧ bytes.length ≤ maxPayloadSize := by
  obtain ⟨hclass, htarget⟩ := validated_target hreq
  have hvalid : validateOperationResponse minor r = .ok := by
    unfold validateOperationResponse
    rw [h.category, h.operation, h.targetId, hclass]
    dsimp only
    rw [htarget, h.resultClass, h.resultCode]
    exact h.value
  have hshort : ¬ maxPayloadSize < operationResponseFixedSize + r.value.bytes.length := by
    have h1 := h.short
    have h2 : operationResponseFixedSize + eventDiagnosticsRecordSize ≤ maxPayloadSize := by decide
    omega
  refine ⟨_, (if_neg (not_not.2 hvalid)).trans (if_neg hshort), ?_⟩
  simp only [List.length_append, length_writeUint16Le, List.length_cons, List.length_nil]
  have : operationResponseFixedSize = 9 := rfl
  omega

theorem suits_rejected {code : UInt8} (hcode : isValidResultCode ResultClass.requestRejected code = true) :
    Suits minor request
      { makeHostResponseBase request with resultClass := ResultClass.requestRejected, resultCode := code } where
  category := rfl
  operation := rfl
  targetId := rfl
  resultClass := rfl
  resultCode := hcode
  value := by
    dsimp only [validateResponseValue, makeHostResponseBase]
    rw [if_neg (by decide)]
    split
    · rw [if_neg (by simp [ResultClass.requestRejected, ResultClass.success])]
      rfl
    · rw [if_neg (by simp [ResultClass.requestRejected, ResultClass.operationResult])]
      rfl
  short := Nat.zero_le _

/-- A result without a value, of a class that no Event operation has. -/
theorem suits_none {resultClass code : UInt8} (hcategory : request.category ≠ OperationCategory.event)
    (hclass : resultClass = ResultClass.operationResult ∧ code ≠ OperationStatus.ok ∨
      resultClass = ResultClass.radioResult)
    (hcode : isValidResultCode resultClass code = true) :
    Suits minor request
      { makeHostResponseBase request with resultClass, resultCode := code, value := noneValue } where
  category := rfl
  operation := rfl
  targetId := rfl
  resultClass := by
    rcases hclass with ⟨rfl, -⟩ | rfl <;> rfl
  resultCode := hcode
  value := by
    dsimp only [validateResponseValue, makeHostResponseBase]
    rw [if_neg, if_neg hcategory, if_neg]
    · rfl
    · rcases hclass with ⟨rfl, hne⟩ | rfl
      · exact fun hc => hne hc.2
      · exact fun hc => absurd hc.1 (by decide)
    · rcases hclass with ⟨rfl, -⟩ | rfl <;> decide
  short := Nat.zero_le _

/-- A successful result with the value of the operation. -/
theorem suits_value {value : TypedValue} (hcategory : request.category ≠ OperationCategory.event)
    (hvalue : isValidSuccessfulOperationValue request.operation value = true)
    (hshort : value.bytes.length ≤ eventDiagnosticsRecordSize) :
    Suits minor request { makeHostResponseBase request with
      resultClass := ResultClass.operationResult, resultCode := OperationStatus.ok, value } where
  category := rfl
  operation := rfl
  targetId := rfl
  resultClass := rfl
  resultCode := rfl
  value := by
    dsimp only [validateResponseValue, makeHostResponseBase]
    rw [if_neg (by decide), if_neg hcategory, if_pos ⟨rfl, rfl⟩]
    exact if_pos hvalue
  short := hshort

/-- The operations whose result is a record. -/
def HasRecord (operation : UInt8) : Prop :=
  operation = OperationCode.getDeviceInfo ∨ operation = OperationCode.getStatus ∨
    operation = OperationCode.getCapabilities ∨ operation = OperationCode.describeCapability ∨
    operation = OperationCode.getDiagnostics ∨ operation = OperationCode.getEventDiagnostics

theorem suits_record {value : TypedValue} (hcategory : request.category ≠ OperationCategory.event)
    (hop : HasRecord request.operation) (hvalue : IsRecord request.operation value) :
    Suits minor request { makeHostResponseBase request with
      resultClass := ResultClass.operationResult, resultCode := OperationStatus.ok, value } := by
  refine suits_value hcategory ?_ hvalue.2
  unfold isValidSuccessfulOperationValue
  rw [if_neg]
  · exact (if_pos hop).trans hvalue.1
  · rcases hop with hop | hop | hop | hop | hop | hop <;> rw [hop] <;> decide

/-- The response is about the request. -/
def About (request : OperationRequest) (r : OperationResponse) : Prop :=
  ∀ resultClass resultCode value, { r with resultClass, resultCode, value } =
    { makeHostResponseBase request with resultClass, resultCode, value }

theorem about_base (request : OperationRequest) : About request (makeHostResponseBase request) := fun _ _ _ => rfl

/-! ### Results of the services -/

/-- The lifecycle can make a response of the result. -/
structure Answers (minor : UInt8) (request : OperationRequest) (result : ServiceResult) : Prop where
  handled : result.disposition = .handled → Suits minor request result.response
  rejected : result.disposition = .rejected →
    isValidResultCode ResultClass.requestRejected result.rejectionCode = true

theorem answers_base (requestId : UInt16) : Answers minor request (makeBaseResult requestId request) :=
  ⟨nofun, nofun⟩

theorem answers_reject {requestId : UInt16} {code : UInt8} {representable : Bool}
    (hcode : isValidResultCode ResultClass.requestRejected code = true) :
    Answers minor request (rejectRequest requestId request code representable) :=
  ⟨fun _ => suits_rejected hcode, fun _ => hcode⟩

theorem answers_handled {result : ServiceResult} (hd : result.disposition = .handled)
    (h : Suits minor request result.response) : Answers minor request result :=
  ⟨fun _ => h, fun hc => by simp [hd] at hc⟩

theorem answers_status {result : ServiceResult} {status : UInt8} (habout : About request result.response)
    (hcategory : request.category ≠ OperationCategory.event) (hknown : isKnownOperationStatus status = true)
    (hstatus : status ≠ OperationStatus.ok) : Answers minor request (setOperationResult result status) := by
  refine answers_handled rfl ?_
  dsimp only [setOperationResult]
  rw [habout]
  exact suits_none hcategory (Or.inl ⟨rfl, hstatus⟩) hknown

theorem answers_record {result : ServiceResult} {encoded : Except PayloadResult TypedValue}
    (habout : About request result.response) (hcategory : request.category ≠ OperationCategory.event)
    (hop : HasRecord request.operation) (h : ∀ value, encoded = .ok value → IsRecord request.operation value) :
    Answers minor request (setRecord result encoded) := by
  unfold setRecord
  cases encoded with
  | error e => exact answers_status (fun _ _ _ => habout _ _ _) hcategory (by decide) (by decide)
  | ok value =>
    refine answers_handled rfl ?_
    dsimp only [setOperationResult]
    rw [habout]
    exact suits_record hcategory hop (h value rfl)

/-! ### The device and its diagnostics -/

theorem deviceResult_answers {result : ServiceResult} {snapshot : DeviceSnapshot}
    (habout : About request result.response) (hreq : validateOperationRequest minor request = .ok)
    (hcategory : request.category = OperationCategory.device ∨ request.category = OperationCategory.diagnostic) :
    Answers minor request (deviceResult result request snapshot) := by
  have hevent : request.category ≠ OperationCategory.event := by
    rcases hcategory with hc | hc <;> rw [hc] <;> decide
  have hop : request.operation = OperationCode.ping ∨ request.operation = OperationCode.getDeviceInfo ∨
      request.operation = OperationCode.getStatus ∨ request.operation = OperationCode.getEventDiagnostics ∨
      request.operation = OperationCode.getDiagnostics := by
    cases validated_cases hreq with
    | device _ hop =>
      rcases hop with hop | hop | hop <;> simp [hop]
    | diagnostics _ hop => simp [hop]
    | eventDiagnostics _ _ hop => simp [hop]
    | list hc | look hc | indicator hc | procedure hc =>
      rw [hc] at hcategory
      exact absurd hcategory (by decide)
    | poll _ hc | consume _ hc => exact absurd hc hevent
  unfold deviceResult
  split
  · rename_i hping
    refine answers_handled rfl ?_
    dsimp only [setOperationResult]
    rw [habout]
    refine suits_value hevent ?_ (by simp [uint32Value, eventDiagnosticsRecordSize])
    rw [hping]
    rfl
  rename_i hping
  split
  · rename_i hinfo
    refine answers_record habout hevent (Or.inl hinfo) fun value hv => ?_
    rw [hinfo]
    exact isRecord_deviceInfo hv
  rename_i hinfo
  split
  · rename_i hstatus
    refine answers_record habout hevent (Or.inr (Or.inl hstatus)) fun value hv => ?_
    rw [hstatus]
    exact isRecord_status hv
  rename_i hstatus
  split
  · rename_i hdiag
    have hrecord : HasRecord request.operation := by simp [HasRecord, hdiag]
    split
    · refine answers_record habout hevent hrecord fun value hv => ?_
      rw [hdiag]
      exact isRecord_eventTxDiagnostics hv
    · refine answers_record habout hevent hrecord fun value hv => ?_
      rw [hdiag]
      exact isRecord_eventDiagnostics hv
  rename_i hdiag
  have hpage : request.operation = OperationCode.getDiagnostics := by
    rcases hop with hop | hop | hop | hop | hop
    · exact absurd hop hping
    · exact absurd hop hinfo
    · exact absurd hop hstatus
    · exact absurd hop hdiag
    · exact hop
  dsimp only
  generalize (if isNoneValue request.value = true then 0 else readUint32Le request.value.bytes 0) = cursor
  split
  · exact answers_status habout hevent (by decide) (by decide)
  · refine answers_record habout hevent (by simp [HasRecord, hpage]) fun value hv => ?_
    rw [hpage]
    exact isRecord_diagnosticPage (decodeDiagnosticPageRecord_encode hv)

theorem handleLocalDeviceOrDiagnostic_answers (requestId : UInt16) (snapshot : DeviceSnapshot) (minor : UInt8) :
    Answers minor request (handleLocalDeviceOrDiagnostic requestId request snapshot minor) := by
  unfold handleLocalDeviceOrDiagnostic
  dsimp only
  split
  · refine answers_reject ?_
    split <;> decide
  rename_i hreq
  split
  · exact answers_base requestId
  rename_i hcategory
  split
  · exact answers_reject (by decide)
  · refine deviceResult_answers (about_base request) (not_not.1 hreq) ?_
    by_contra hc
    exact hcategory (not_or.1 hc)

/-! ### Capabilities -/

/-- The operation flags of a valid descriptor. -/
theorem flags_of_hasValidOperations {c flags : UInt8} (h : hasValidOperations c flags = true) :
    flags = 3 ∨ flags = 5 ∨ flags = 7 ∨ flags = 1 := by
  unfold hasValidOperations at h
  split at h
  · cases h
  dsimp only at h
  split at h
  · exact Or.inl (beq_iff_eq.1 h)
  split at h
  · rw [Bool.or_eq_true, beq_iff_eq, beq_iff_eq] at h
    rcases h with h | h
    · exact Or.inr (Or.inl h)
    · exact Or.inr (Or.inr (Or.inl h))
  split at h
  · exact Or.inr (Or.inr (Or.inr (beq_iff_eq.1 h)))
  · cases h

/-- A capability that can be read has a value. -/
theorem valueType_of_read {d : CapabilityDescriptor} (hvalid : isValidCapabilityDescriptor d = true)
    (hsupports : supportsOperation d .read = true) : d.valueType ≠ ValueType.none := by
  simp only [isValidCapabilityDescriptor, Bool.and_eq_true] at hvalid
  have hflags := flags_of_hasValidOperations hvalid.1.1.1.1.1.1.1.2
  have hcontract := hvalid.1.1.1.1.1.1.2
  simp only [supportsOperation, Bool.and_eq_true] at hsupports
  have hread := hsupports.2
  rcases hflags with hf | hf | hf | hf <;> rw [hf] at hcontract hread
  · exact bne_iff_ne.1 hcontract
  · exact absurd hread (by decide)
  · exact bne_iff_ne.1 hcontract
  · exact absurd hread (by decide)

/-- What a dispatched operation comes back with. -/
structure Dispatched (operation : Operation) (result : OperationResult) : Prop where
  known : isKnownOperationStatus result.status = true
  read : operation = .read → result.status = OperationStatus.ok → result.value.type ≠ ValueType.none

theorem dispatched_failure {operation : Operation} {status : UInt8} (hknown : isKnownOperationStatus status = true)
    (hstatus : status ≠ OperationStatus.ok) : Dispatched operation (makeCanonicalFailureResult status) :=
  ⟨hknown, fun _ hc => absurd hc hstatus⟩

theorem acceptedResult_dispatched {d : CapabilityDescriptor} {operation : Operation} {result : OperationResult}
    (hsupports : supportsOperation d operation = true) :
    Dispatched operation (acceptedResult d operation result) := by
  unfold acceptedResult
  split
  · exact dispatched_failure (by decide) (by decide)
  rename_i hvalid
  simp only [Bool.or_eq_true, Bool.not_eq_true', not_or, Bool.not_eq_false] at hvalid
  have hknown : isKnownOperationStatus result.status = true := by
    have h := hvalid.1
    simp only [isValidOperationResult, Bool.and_eq_true] at h
    exact h.1.1.1
  split
  · rename_i hstatus
    exact ⟨hknown, fun _ hc => absurd hc hstatus⟩
  split
  · rename_i hread
    split
    · exact dispatched_failure (by decide) (by decide)
    · rename_i hbounds
      refine ⟨hknown, fun _ _ => ?_⟩
      simp only [Bool.not_eq_true', Bool.not_eq_false, isValueWithinBounds, isValueCompatible, Bool.and_eq_true,
        beq_iff_eq] at hbounds
      rw [← hbounds.1.2]
      exact valueType_of_read hbounds.1.1.1 (hread ▸ hsupports)
  · rename_i hread
    split
    · exact dispatched_failure (by decide) (by decide)
    · exact ⟨hknown, fun hc => absurd hc hread⟩

theorem dispatch_dispatched {registry : CapabilityRegistryView} {id : UInt16} {operation : Operation}
    {input : CapabilityValue} {caller : CallerClass} {interlock : InterlockState} {ops : List DeviceOp}
    {result : OperationResult}
    (h : Prog.Returns (fun _ _ => True)
      (dispatchCapabilityOperation registry id operation input caller interlock) ops result) :
    Dispatched operation result := by
  have hfail : ∀ {status : UInt8}, isKnownOperationStatus status = true → status ≠ OperationStatus.ok →
      Prog.Returns (fun _ _ => True) (pure (makeCanonicalFailureResult status) : DeviceM OperationResult) ops result →
      Dispatched operation result := by
    intro status hknown hstatus hret
    rw [(Prog.returns_pure.1 hret).2]
    exact dispatched_failure hknown hstatus
  unfold dispatchCapabilityOperation at h
  split at h
  · exact hfail (by decide) (by decide) h
  split at h
  · exact hfail (by decide) (by decide) h
  rename_i d hd
  split at h
  · exact hfail (by decide) (by decide) h
  rename_i hsupports
  simp only [Bool.or_eq_true, Bool.not_eq_true', not_or, Bool.not_eq_false] at hsupports
  split at h
  · exact hfail (by decide) (by decide) h
  split at h
  · exact hfail (by decide) (by decide) h
  split at h
  · exact hfail (by decide) (by decide) h
  split at h
  · exact hfail (by decide) (by decide) h
  split at h
  · exact hfail (by decide) (by decide) h
  obtain ⟨r, ops', _, hret, _⟩ := Prog.returns_lift_bind.1 h
  rw [(Prog.returns_pure.1 hret).2]
  exact acceptedResult_dispatched hsupports.2

/-- The value of a capability on its way to the Host. -/
theorem capabilityValueToHostValue_scalar {input : CapabilityValue} {value : TypedValue}
    (h : capabilityValueToHostValue input = some value) (htype : input.type ≠ ValueType.none) :
    isNonNoneScalarValue value = true ∧ value.bytes.length ≤ 4 := by
  unfold capabilityValueToHostValue at h
  split at h
  · cases h
  rename_i hvalid
  have hknown : isKnownValueType input.type = true := by
    by_contra hc
    have hc : isKnownValueType input.type = false := by simpa using hc
    exact hvalid (by simp [isValidCapabilityValue, hc])
  split at h
  · split at h
    · cases h
    · rename_i hbit
      cases h
      have hle : input.bits.toUInt8 ≤ 1 := UInt8.not_lt.1 hbit
      refine ⟨?_, by simp⟩
      change (decide (input.bits.toUInt8 ≤ 1) && true) = true
      simpa using hle
  rename_i hbool
  split at h
  · rename_i hword
    cases h
    refine ⟨?_, by simp⟩
    rcases hword with hw | hw <;> rw [hw] <;> rfl
  · rename_i hword
    cases h
    refine ⟨?_, by simp [uint32Value]⟩
    simp only [isKnownValueType, Bool.or_eq_true, beq_iff_eq] at hknown
    rcases hknown with (((((hk | hk) | hk) | hk) | hk) | hk) | hk
    · exact absurd hk htype
    · exact absurd hk hbool
    · rw [hk]; rfl
    · rw [hk]; rfl
    · exact absurd (Or.inl hk) hword
    · rw [hk]; rfl
    · exact absurd (Or.inr hk) hword

theorem capabilityResult_answers {result : ServiceResult} {operation : Operation} {operationResult : OperationResult}
    (habout : About request result.response) (hcategory : request.category ≠ OperationCategory.event)
    (hread : operation = .read → request.operation = OperationCode.readCapability)
    (hset : operation ≠ .read → request.operation = OperationCode.setIndicator)
    (h : Dispatched operation operationResult) :
    Answers minor request (capabilityResult result operation operationResult) := by
  unfold capabilityResult
  by_cases hok : operationResult.status = OperationStatus.ok
  swap
  · rw [if_neg (fun hc => hok hc.1)]
    exact answers_status habout hcategory h.known hok
  by_cases hop : operation = .read
  · rw [if_pos ⟨hok, hop⟩]
    split
    · rename_i value hv
      obtain ⟨hscalar, hlen⟩ := capabilityValueToHostValue_scalar hv (h.read hop hok)
      refine answers_handled rfl ?_
      dsimp only [setOperationResult]
      rw [habout, hok]
      refine suits_value hcategory ?_ (hlen.trans (by decide))
      rw [hread hop]
      exact hscalar
    · exact answers_status (fun _ _ _ => habout _ _ _) hcategory (by decide) (by decide)
  · rw [if_neg (fun hc => hop hc.2)]
    refine answers_handled rfl ?_
    dsimp only [setOperationResult]
    rw [habout, hok]
    refine suits_value hcategory ?_ (Nat.zero_le _)
    rw [hset hop]
    rfl

theorem handleGetCapabilities_answers {result : ServiceResult} {registryValid : Bool}
    {registry : CapabilityRegistryView} (habout : About request result.response)
    (hcategory : request.category ≠ OperationCategory.event)
    (hop : request.operation = OperationCode.getCapabilities) :
    Answers minor request (handleGetCapabilities result request registryValid registry) := by
  unfold handleGetCapabilities
  split
  · exact answers_status habout hcategory (by decide) (by decide)
  dsimp only
  generalize (if isNoneValue request.value = true then 0 else readUint32Le request.value.bytes 0) = cursor
  split
  · exact answers_status habout hcategory (by decide) (by decide)
  split
  · exact answers_status habout hcategory (by decide) (by decide)
  · refine answers_record habout hcategory (by simp [HasRecord, hop]) fun value hv => ?_
    rw [hop]
    exact isRecord_capabilityPage (decodeCapabilityPageRecord_encode hv)

theorem handleDescribeCapability_answers {result r : ServiceResult} {registryValid : Bool}
    {registry : CapabilityRegistryView} {ops : List DeviceOp} (habout : About request result.response)
    (hcategory : request.category ≠ OperationCategory.event)
    (hop : request.operation = OperationCode.describeCapability)
    (h : Prog.Returns (fun _ _ => True) (handleDescribeCapability result request registryValid registry) ops r) :
    Answers minor request r := by
  unfold handleDescribeCapability at h
  split at h
  · rw [(Prog.returns_pure.1 h).2]
    exact answers_status habout hcategory (by decide) (by decide)
  split at h
  · rw [(Prog.returns_pure.1 h).2]
    exact answers_status habout hcategory (by decide) (by decide)
  rename_i d hd
  obtain ⟨available, ops', -, hret, -⟩ := Prog.returns_lift_bind.1 h
  cases available with
  | none =>
    rw [(Prog.returns_pure.1 hret).2]
    exact answers_status habout hcategory (by decide) (by decide)
  | some available =>
    rw [(Prog.returns_pure.1 hret).2]
    refine answers_record habout hcategory (by simp [HasRecord, hop]) fun value hv => ?_
    rw [hop]
    exact isRecord_capabilityDescription hv

theorem handleLocalCapability_answers {requestId : UInt16} {localDeviceId : UInt8} {registryValid : Bool}
    {registry : CapabilityRegistryView} {interlock : InterlockState} {ops : List DeviceOp} {r : ServiceResult}
    (h : Prog.Returns (fun _ _ => True)
      (handleLocalCapability requestId request localDeviceId registryValid registry interlock) ops r) :
    Answers minor request r := by
  unfold handleLocalCapability at h
  dsimp only at h
  split at h
  · rw [(Prog.returns_pure.1 h).2]
    refine answers_reject ?_
    split <;> decide
  rename_i hvalid
  split at h
  · rw [(Prog.returns_pure.1 h).2]
    exact answers_base requestId
  rename_i hcapability
  have hcategory : request.category ≠ OperationCategory.event := by
    rw [not_not.1 hcapability]
    decide
  have habout := about_base request
  split at h
  · rw [(Prog.returns_pure.1 h).2]
    exact answers_reject (by decide)
  split at h
  · rename_i hop
    rw [(Prog.returns_pure.1 h).2]
    exact handleGetCapabilities_answers habout hcategory hop
  rename_i hlist
  split at h
  · rename_i hop
    exact handleDescribeCapability_answers habout hcategory hop h
  rename_i hdescribe
  -- what is left of the table is READ and SET
  have hop : request.operation = OperationCode.readCapability ∨ request.operation = OperationCode.setIndicator := by
    cases validated_cases (not_not.1 hvalid) with
    | list _ hop => exact absurd hop hlist
    | look _ hop => exact Or.inl (hop.resolve_left hdescribe)
    | indicator _ hop => exact Or.inr hop
    | device hc | procedure hc | diagnostics hc =>
      rw [hc] at hcapability
      exact absurd (not_not.1 hcapability) (by decide)
    | eventDiagnostics hm | poll hm | consume hm => exact absurd hm (by decide)
  split at h
  · rw [(Prog.returns_pure.1 h).2]
    exact answers_reject (by decide)
  generalize hoperation : (if request.operation = OperationCode.readCapability then Operation.read else .set) =
    operation at h
  split at h
  · rw [(Prog.returns_pure.1 h).2]
    exact answers_status habout hcategory (by decide) (by decide)
  obtain ⟨operationResult, ops₁, ops₂, hdispatch, hret, -⟩ := Prog.returns_bind h
  rw [(Prog.returns_pure.1 hret).2]
  refine capabilityResult_answers habout hcategory ?_ ?_ (dispatch_dispatched hdispatch)
  · intro hread
    by_contra hc
    rw [if_neg hc, hread] at hoperation
    cases hoperation
  · intro hread
    refine hop.resolve_left fun hc => hread ?_
    rw [← hoperation, if_pos hc]

/-- **The service of the device**, whatever its handler returns. -/
theorem handleLocalOperation_answers {requestId : UInt16} {snapshot : DeviceSnapshot} {registryValid : Bool}
    {registry : CapabilityRegistryView} {interlock : InterlockState} {ops : List DeviceOp} {r : ServiceResult}
    (h : Prog.Returns (fun _ _ => True)
      (handleLocalOperation requestId request snapshot registryValid registry interlock minor) ops r) :
    Answers minor request r := by
  unfold handleLocalOperation at h
  split at h
  · exact handleLocalCapability_answers h
  · rw [(Prog.returns_pure.1 h).2]
    exact handleLocalDeviceOrDiagnostic_answers requestId snapshot minor

/-! ### Events -/

namespace EventService

open Redline.Records Redline.Hub

theorem suits_success {value : TypedValue} (hcategory : request.category = OperationCategory.event)
    (hvalue : request.operation = OperationCode.pollEvents ∧ IsRecord request.operation value ∨
      request.operation ≠ OperationCode.pollEvents ∧ value = noneValue) :
    Suits minor request { makeHostResponseBase request with
      resultClass := ResultClass.success, resultCode := successOk, value } where
  category := rfl
  operation := rfl
  targetId := rfl
  resultClass := rfl
  resultCode := rfl
  value := by
    dsimp only [validateResponseValue, makeHostResponseBase]
    rw [if_neg (by decide), if_pos hcategory, if_pos ⟨rfl, rfl⟩]
    rcases hvalue with ⟨hop, hv⟩ | ⟨hop, rfl⟩
    · rw [if_pos hop, if_pos hv.1]
    · rw [if_neg hop]
      rfl
  short := by
    rcases hvalue with ⟨-, hv⟩ | ⟨-, rfl⟩
    · exact hv.2
    · exact Nat.zero_le _

theorem suits_failure {code : UInt8} (hcategory : request.category = OperationCategory.event)
    (hcode : code = EventResultCode.notFound ∧ request.operation = OperationCode.consumeEvent ∨
      code = EventResultCode.storageFailure ∧ (request.operation = OperationCode.pollEvents ∨
        request.operation = OperationCode.consumeEvent)) :
    Suits versionMinor02 request { makeHostResponseBase request with
      resultClass := ResultClass.eventResult, resultCode := code, value := noneValue } where
  category := rfl
  operation := rfl
  targetId := rfl
  resultClass := rfl
  resultCode := by
    rcases hcode with ⟨rfl, -⟩ | ⟨rfl, -⟩ <;> rfl
  value := by
    dsimp only [validateResponseValue, makeHostResponseBase]
    rw [if_pos rfl, if_neg (not_not.2 hcategory), if_neg]
    · rfl
    rcases hcode with ⟨rfl, hop⟩ | ⟨rfl, hop⟩
    · rintro (⟨-, hc⟩ | ⟨hc, -⟩)
      · exact hc hop
      · exact absurd hc (by decide)
    · rintro (⟨hc, -⟩ | ⟨-, h1, h2⟩)
      · exact absurd hc (by decide)
      · exact hop.elim h1 h2
  short := Nat.zero_le _

theorem pollResult_answers {result : ServiceResult} {event : HostEventRecord} (hd : result.disposition = .handled)
    (habout : About request result.response) (hcategory : request.category = OperationCategory.event)
    (hop : request.operation = OperationCode.pollEvents) :
    Answers versionMinor02 request (pollResult result event) := by
  unfold pollResult
  cases henc : encodeHostEventRecord event with
  | error e =>
    refine answers_handled hd ?_
    dsimp only [setEventFailure]
    rw [habout]
    exact suits_failure hcategory (Or.inr ⟨rfl, Or.inl hop⟩)
  | ok bytes =>
    refine answers_handled hd ?_
    dsimp only [setSuccess]
    rw [habout]
    refine suits_success hcategory (Or.inl ⟨hop, ?_⟩)
    rw [hop]
    exact isRecord_event henc

theorem poll_answers {l : Ledger} {result : ServiceResult} (hd : result.disposition = .handled)
    (habout : About request result.response) (hcategory : request.category = OperationCategory.event)
    (hop : request.operation = OperationCode.pollEvents) : Answers versionMinor02 request (poll l result) := by
  unfold poll
  split
  · exact pollResult_answers hd habout hcategory hop
  split
  · refine answers_handled hd ?_
    dsimp only [setEventFailure]
    rw [habout]
    exact suits_failure hcategory (Or.inr ⟨rfl, Or.inl hop⟩)
  · exact pollResult_answers hd habout hcategory hop

theorem consume_answers {l l' : Ledger} {result r : ServiceResult} {ops : List StorageOp}
    (hd : result.disposition = .handled) (habout : About request result.response)
    (hcategory : request.category = OperationCategory.event) (hop : request.operation = OperationCode.consumeEvent)
    (h : Prog.Returns (fun _ _ => True) (consume l result request) ops (l', r)) :
    Answers versionMinor02 request r := by
  have hfailure : ∀ code, code = EventResultCode.notFound ∨ code = EventResultCode.storageFailure →
      Answers versionMinor02 request (setEventFailure result code) := by
    intro code hcode
    refine answers_handled hd ?_
    dsimp only [setEventFailure]
    rw [habout]
    refine suits_failure hcategory ?_
    rcases hcode with hcode | hcode
    · exact Or.inl ⟨hcode, hop⟩
    · exact Or.inr ⟨hcode, Or.inr hop⟩
  have hsuccess : Answers versionMinor02 request (setSuccess result noneValue) := by
    refine answers_handled hd ?_
    dsimp only [setSuccess]
    rw [habout]
    exact suits_success hcategory (Or.inr ⟨by rw [hop]; decide, rfl⟩)
  unfold consume at h
  split at h
  · cases (Prog.returns_pure.1 h).2
    exact answers_reject (by decide)
  obtain ⟨⟨l₁, consumed⟩, ops₁, ops₂, -, hret, -⟩ := Prog.returns_bind h
  dsimp only at hret
  split at hret
  · cases (Prog.returns_pure.1 hret).2
    exact hsuccess
  · cases (Prog.returns_pure.1 hret).2
    exact hsuccess
  · cases (Prog.returns_pure.1 hret).2
    exact hfailure _ (Or.inl rfl)
  · cases (Prog.returns_pure.1 hret).2
    exact hfailure _ (Or.inr rfl)
  · cases (Prog.returns_pure.1 hret).2
    exact hfailure _ (Or.inr rfl)

/-- **The service of the Events**, over any ledger and any flash. -/
theorem handle_answers {l l' : Ledger} {requestId : UInt16} {role : DeviceRole} {localDeviceId : UInt8}
    {ops : List StorageOp} {r : ServiceResult} (hreq : validateOperationRequest minor request = .ok)
    (h : Prog.Returns (fun _ _ => True) (handle l requestId request role localDeviceId) ops (l', r)) :
    Answers minor request r := by
  unfold handle at h
  split at h
  · cases (Prog.returns_pure.1 h).2
    exact answers_base requestId
  rename_i hcategory
  replace hcategory := not_not.1 hcategory
  -- Events belong to the second minor version
  obtain ⟨rfl, hop⟩ : minor = versionMinor02 ∧
      (request.operation = OperationCode.pollEvents ∨ request.operation = OperationCode.consumeEvent) := by
    cases validated_cases hreq with
    | poll hminor _ hop => exact ⟨hminor, Or.inl hop⟩
    | consume hminor _ hop => exact ⟨hminor, Or.inr hop⟩
    | device hc | list hc | look hc | indicator hc | procedure hc | diagnostics hc =>
      rw [hc] at hcategory
      exact absurd hcategory (by decide)
    | eventDiagnostics _ hc =>
      rw [hc] at hcategory
      exact absurd hcategory (by decide)
  have habout := about_base request
  split at h
  · cases (Prog.returns_pure.1 h).2
    exact answers_reject (by decide)
  split at h
  · cases (Prog.returns_pure.1 h).2
    exact answers_reject (by decide)
  split at h
  · cases (Prog.returns_pure.1 h).2
    exact answers_reject (by decide)
  dsimp only at h
  split at h
  · cases (Prog.returns_pure.1 h).2
    refine answers_handled rfl ?_
    dsimp only [setEventFailure]
    rw [show About request (makeBaseResult requestId request).response from habout]
    exact suits_failure hcategory (Or.inr ⟨rfl, hop⟩)
  split at h
  · rename_i hpoll
    cases (Prog.returns_pure.1 h).2
    exact poll_answers rfl habout hcategory hpoll
  split at h
  · rename_i hconsume
    exact consume_answers rfl habout hcategory hconsume h
  · cases (Prog.returns_pure.1 h).2
    exact answers_reject (by decide)

end EventService

end Redline.Host
