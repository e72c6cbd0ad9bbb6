import Redline.Host.Answers
import Redline.Host.Processor

/-!
# What the Node makes of a command

Every request that the wire lets through is performed, and what comes of it is a response that the wire lets
through (`perform_schema`): at most twenty-one bytes of value, whatever the registry, the handler and the provider of
availability say.  `decodeWireResponse_encode` is the round trip of such a response.

A remote caller is never let through to the handler: `processRemoteCapability` calls nothing at all, and what the
services of the Node call is the provider of availability (`perform_calls`).
-/

namespace Redline.Host

open Redline.Wire Redline.Lib

variable {opcode : UInt8} {request : WireRequest} {c : NodeContext}

/-! ### The vocabulary of the wire -/

/-- The nine structured operations. -/
theorem structured_cases (h : isStructuredOpcode opcode = true) :
    opcode = OperationCode.ping ∨ opcode = OperationCode.getDeviceInfo ∨ opcode = OperationCode.getStatus ∨
      opcode = OperationCode.getCapabilities ∨ opcode = OperationCode.describeCapability ∨
      opcode = OperationCode.readCapability ∨ opcode = OperationCode.setIndicator ∨
      opcode = OperationCode.runProcedure ∨ opcode = OperationCode.getDiagnostics := by
  simp only [isStructuredOpcode, Bool.and_eq_true, decide_eq_true_eq, UInt8.le_iff_toNat_le] at h
  simp only [← UInt8.toNat_inj]
  have h1 : OperationCode.ping.toNat = 32 := rfl
  have h2 : OperationCode.getDeviceInfo.toNat = 33 := rfl
  have h3 : OperationCode.getStatus.toNat = 34 := rfl
  have h4 : OperationCode.getCapabilities.toNat = 35 := rfl
  have h5 : OperationCode.describeCapability.toNat = 36 := rfl
  have h6 : OperationCode.readCapability.toNat = 37 := rfl
  have h7 : OperationCode.setIndicator.toNat = 38 := rfl
  have h8 : OperationCode.runProcedure.toNat = 39 := rfl
  have h9 : OperationCode.getDiagnostics.toNat = 40 := rfl
  omega

/-- The schema of a request: what the three kinds of operations ask of target and value. -/
theorem requestSchema_iff : isValidRequestSchema opcode request = true ↔
    isStructuredOpcode opcode = true ∧ isValidScalarValue request.value = true ∧
      isValidOperationTarget (NodeProcessor.categoryFor opcode) opcode request.targetId = true ∧
      isValidOperationRequestValue opcode request.value = true := by
  by_cases hop : isStructuredOpcode opcode = true
  swap
  · simp [isValidRequestSchema, hop]
  by_cases hs : isValidScalarValue request.value = true
  swap
  · simp [isValidRequestSchema, hs]
  rcases structured_cases hop with rfl | rfl | rfl | rfl | rfl | rfl | rfl | rfl | rfl
  all_goals
    simp [isValidRequestSchema, isStructuredOpcode, hs, NodeProcessor.categoryFor, isValidOperationTarget,
      isValidOperationRequestValue, OperationCode.ping, OperationCode.getDeviceInfo, OperationCode.getStatus,
      OperationCode.getDiagnostics, OperationCode.getCapabilities, OperationCode.describeCapability,
      OperationCode.readCapability, OperationCode.setIndicator, OperationCode.runProcedure, OperationCategory.device,
      OperationCategory.capability, OperationCategory.procedure, OperationCategory.diagnostic, invalidCapabilityId]

theorem categoryFor_valid (hop : isStructuredOpcode opcode = true) :
    classifyCategoryOperation versionMinor01 (NodeProcessor.categoryFor opcode) opcode = .valid ∧
      NodeProcessor.categoryFor opcode ≠ OperationCategory.event := by
  rcases structured_cases hop with rfl | rfl | rfl | rfl | rfl | rfl | rfl | rfl | rfl <;> decide

/-- **A request of the wire is a request of the Host to the Node itself.** -/
theorem hostRequest_valid (snapshot : DeviceSnapshot) (h : isValidRequestSchema opcode request = true) :
    validateOperationRequest versionMinor01 (NodeProcessor.hostRequest snapshot opcode request) = .ok := by
  obtain ⟨hop, -, htarget, hvalue⟩ := requestSchema_iff.1 h
  have hclass := categoryFor_valid hop
  unfold validateOperationRequest
  dsimp only [NodeProcessor.hostRequest]
  rw [hclass.1]
  simp only [htarget, hvalue, hclass.2, false_and, Bool.not_true, Bool.false_eq_true, if_false]

theorem decodeWireRequest_schema {payload : Bytes} (h : decodeWireRequest opcode payload = .ok request) :
    isValidRequestSchema opcode request = true ∧ payload.length ≤ Wire.maxPayloadSize := by
  unfold decodeWireRequest at h
  split at h
  · cases h
  split at h
  · cases h
  rename_i hlen
  split at h
  · cases h
  dsimp only at h
  split at h
  · cases h
  split at h
  · cases h
  rename_i hschema
  cases h
  exact ⟨by simpa using hschema, by omega⟩

/-! ### Responses on the wire -/

/-- The value of a structured operation that has succeeded fits in a response. -/
theorem length_of_success {value : TypedValue} (hop : isStructuredOpcode opcode = true)
    (h : isValidSuccessfulOperationValue opcode value = true) : value.bytes.length ≤ maxWireResponseValueSize := by
  have hmax : maxWireResponseValueSize = 21 := rfl
  have hscalar : isValidScalarValue value = true → value.bytes.length ≤ maxWireResponseValueSize := fun hs => by
    have := (scalar_bounds hs).1
    omega
  -- a record has the length that its operation asks for
  have hrecord : isValidStructureValue opcode value = true →
      isValidStructureLength opcode value.bytes.length = true := fun hs => by
    simp only [isValidStructureValue, Bool.and_eq_true] at hs
    exact hs.1.2
  rcases structured_cases hop with rfl | rfl | rfl | rfl | rfl | rfl | rfl | rfl | rfl
  · exact hscalar (Bool.and_eq_true _ _ ▸ h : _ ∧ _).2
  · have := beq_iff_eq.1 (show (value.bytes.length == deviceInfoSize) = true from hrecord h)
    rw [this]
    decide
  · have := beq_iff_eq.1 (show (value.bytes.length == statusSize) = true from hrecord h)
    rw [this]
    decide
  · have hl : (decide (3 ≤ value.bytes.length) && decide (value.bytes.length ≤ 21) &&
        (value.bytes.length - 3) % 2 == 0) = true := hrecord h
    simp only [Bool.and_eq_true, decide_eq_true_eq] at hl
    exact hl.1.2
  · have := beq_iff_eq.1 (show (value.bytes.length == capabilityDescriptionSize) = true from hrecord h)
    rw [this]
    decide
  · exact hscalar (Bool.and_eq_true _ _ ▸ h : _ ∧ _).1
  · rw [isNoneValue_iff.1 h]
    decide
  · exact hscalar h
  · have hl : (decide (2 ≤ value.bytes.length) && decide (value.bytes.length ≤ 17) &&
        (value.bytes.length - 2) % 5 == 0) = true := hrecord h
    simp only [Bool.and_eq_true, decide_eq_true_eq] at hl
    omega

/-- The target that goes with a structured operation. -/
theorem responseTarget_iff {target : UInt16} (hop : isStructuredOpcode opcode = true) :
    isValidOperationTarget (NodeProcessor.categoryFor opcode) opcode target = true ↔
      ((opcode == OperationCode.ping || opcode == OperationCode.getDeviceInfo || opcode == OperationCode.getStatus ||
        opcode == OperationCode.getCapabilities || opcode == OperationCode.getDiagnostics) = true ↔ target = 0) := by
  rcases structured_cases hop with rfl | rfl | rfl | rfl | rfl | rfl | rfl | rfl | rfl
  all_goals
    simp [NodeProcessor.categoryFor, isValidOperationTarget, OperationCode.ping, OperationCode.getDeviceInfo,
      OperationCode.getStatus, OperationCode.getDiagnostics, OperationCode.getCapabilities,
      OperationCode.describeCapability, OperationCode.readCapability, OperationCode.setIndicator,
      OperationCode.runProcedure, OperationCategory.device, OperationCategory.capability,
      OperationCategory.procedure, OperationCategory.diagnostic, invalidCapabilityId]

/-- **The schema of a response**: a known status, the target of the operation, and a value exactly when it has
succeeded. -/
theorem responseSchema_iff {w : WireResponse} : isValidResponseSchema opcode w = true ↔
    isStructuredOpcode opcode = true ∧ isKnownOperationStatus w.status = true ∧
      isValidOperationTarget (NodeProcessor.categoryFor opcode) opcode w.targetId = true ∧
      (w.status ≠ OperationStatus.ok → w.value = noneValue) ∧
      (w.status = OperationStatus.ok → isValidSuccessfulOperationValue opcode w.value = true) := by
  by_cases hop : isStructuredOpcode opcode = true
  swap
  · simp [isValidResponseSchema, hop]
  by_cases hknown : isKnownOperationStatus w.status = true
  swap
  · simp [isValidResponseSchema, hknown]
  rw [responseTarget_iff hop]
  unfold isValidResponseSchema
  dsimp only
  rw [hop, hknown, if_neg (by decide)]
  generalize hz : (opcode == OperationCode.ping || opcode == OperationCode.getDeviceInfo ||
    opcode == OperationCode.getStatus || opcode == OperationCode.getCapabilities ||
    opcode == OperationCode.getDiagnostics) = zeroTarget
  have htarget : ((zeroTarget && w.targetId != 0 || !zeroTarget && w.targetId == 0) = true) ↔
      ¬ (zeroTarget = true ↔ w.targetId = 0) := by
    cases zeroTarget <;> simp
  split
  · rename_i hbad
    simp [htarget.1 hbad]
  · rename_i hgood
    have hgood := not_not.1 fun hc => hgood (htarget.2 hc)
    by_cases hstatus : w.status = OperationStatus.ok
    · rw [if_neg (not_not.2 hstatus)]
      have hlen : isValidSuccessfulOperationValue opcode w.value = true →
          w.value.bytes.length ≤ maxWireRequestValueSize := fun hs =>
        (length_of_success hop hs).trans (by decide)
      simp only [isValidSuccessValue, Bool.and_eq_true, decide_eq_true_eq]
      exact ⟨fun h => ⟨trivial, trivial, hgood, fun hc => absurd hstatus hc, fun _ => h.2⟩,
        fun h => ⟨hlen (h.2.2.2.2 hstatus), h.2.2.2.2 hstatus⟩⟩
    · rw [if_pos hstatus, isNoneValue_iff]
      exact ⟨fun h => ⟨rfl, rfl, hgood, fun _ => h, fun hc => absurd hc hstatus⟩,
        fun h => h.2.2.2.1 hstatus⟩

/-- **A response fits on the wire**, and comes back as it was. -/
theorem decodeWireResponse_encode {w : WireResponse} (h : isValidResponseSchema opcode w = true) :
    ∃ bytes, encodeWireResponse opcode w = .ok bytes ∧ bytes.length ≠ 0 ∧ bytes.length ≤ Wire.maxPayloadSize ∧
      decodeWireResponse opcode bytes = .ok w := by
  obtain ⟨hop, hknown, -, hnone, hsome⟩ := responseSchema_iff.1 h
  have hlen : w.value.bytes.length ≤ 21 := by
    by_cases hstatus : w.status = OperationStatus.ok
    · exact length_of_success hop (hsome hstatus)
    · rw [hnone hstatus]
      decide
  have hmax : Wire.maxPayloadSize = 26 := rfl
  have hfixed : wireResponseFixedSize = 5 := rfl
  refine ⟨[w.status] ++ writeUint16Le w.targetId ++ [w.value.type, w.value.bytes.length.toUInt8] ++ w.value.bytes,
    ?_, ?_, ?_, ?_⟩
  · rw [encodeWireResponse, hop, h]
    exact (if_neg (by decide)).trans ((if_neg (by decide)).trans (if_neg (by omega)))
  · simp
  · simp only [List.length_append, length_writeUint16Le, List.length_cons, List.length_nil]
    omega
  have hbyte : (w.value.bytes.length.toUInt8).toNat = w.value.bytes.length := by
    rw [Nat.toUInt8_eq, UInt8.toNat_ofNat']
    omega
  have htarget : readUint16Le ([w.status] ++ writeUint16Le w.targetId ++
      [w.value.type, w.value.bytes.length.toUInt8] ++ w.value.bytes) 1 = w.targetId := uint16_of_bytes w.targetId
  unfold decodeWireResponse
  rw [hop, if_neg (by decide), if_neg, if_neg]
  · rw [htarget]
    dsimp only
    rw [if_neg, if_neg]
    · rfl
    · change ¬ (!isValidResponseSchema opcode ⟨w.status, w.targetId, ⟨w.value.type, w.value.bytes⟩⟩) = true
      rw [h]
      decide
    · change ¬ (!isKnownOperationStatus w.status) = true
      rw [hknown]
      decide
  · change ¬ (maxWireResponseValueSize < (w.value.bytes.length.toUInt8).toNat ∨
      _ ≠ _ + (w.value.bytes.length.toUInt8).toNat)
    rw [hbyte]
    have : maxWireResponseValueSize = 21 := rfl
    simp [wireResponseFixedSize]
    omega
  · simp only [List.length_append, length_writeUint16Le, List.length_cons, List.length_nil]
    omega

/-! ### Performing an operation -/

/-- **The gate**: a remote caller never gets to the handler. -/
theorem processRemoteCapability_refuses (registry : CapabilityRegistryView) (id : UInt16) (operation : Operation)
    (input : CapabilityValue) (interlock : InterlockState) :
    ∃ status, processRemoteCapability registry id operation input interlock =
      pure (makeCanonicalFailureResult status) ∧ isKnownOperationStatus status = true ∧
      status ≠ OperationStatus.ok := by
  have hauth : ∀ d, isOperationAuthorized d operation .futureRemote = false := fun d => by
    simp [isOperationAuthorized]
  unfold processRemoteCapability
  split
  · exact ⟨_, rfl, by decide, by decide⟩
  split
  · exact ⟨_, rfl, by decide, by decide⟩
  split
  · exact ⟨_, rfl, by decide, by decide⟩
  split
  · exact ⟨_, rfl, by decide, by decide⟩
  rw [hauth]
  exact ⟨_, rfl, by decide, by decide⟩

/-- The service has come to a result of the operation. -/
structure Concluded (result : ServiceResult) : Prop where
  handled : result.disposition = .handled
  operationResult : result.response.resultClass = ResultClass.operationResult

theorem concluded_status (result : ServiceResult) (status : UInt8) : Concluded (setOperationResult result status) :=
  ⟨rfl, rfl⟩

theorem concluded_record (result : ServiceResult) (encoded : Except PayloadResult TypedValue) :
    Concluded (setRecord result encoded) := by
  cases encoded with
  | error e => exact ⟨rfl, rfl⟩
  | ok value => exact ⟨rfl, rfl⟩

theorem deviceResult_concluded (result : ServiceResult) (r : OperationRequest) (snapshot : DeviceSnapshot) :
    Concluded (deviceResult result r snapshot) := by
  unfold deviceResult
  split
  · exact ⟨rfl, rfl⟩
  split
  · exact concluded_record _ _
  split
  · exact concluded_record _ _
  split
  · split
    · exact concluded_record _ _
    · exact concluded_record _ _
  dsimp only
  generalize (if isNoneValue r.value = true then 0 else readUint32Le r.value.bytes 0) = cursor
  split
  · exact concluded_status _ _
  · exact concluded_record _ _

theorem handleGetCapabilities_concluded (result : ServiceResult) (r : OperationRequest) (registryValid : Bool)
    (registry : CapabilityRegistryView) : Concluded (handleGetCapabilities result r registryValid registry) := by
  unfold handleGetCapabilities
  split
  · exact concluded_status _ _
  dsimp only
  generalize (if isNoneValue r.value = true then 0 else readUint32Le r.value.bytes 0) = cursor
  split
  · exact concluded_status _ _
  split
  · exact concluded_status _ _
  · exact concluded_record _ _

/-- The call asks for the availability of a capability. -/
def DeviceOp.IsQuery : DeviceOp → Prop
  | .execute _ _ _ => False
  | .available _ => True

theorem handleDescribeCapability_concluded {result r : ServiceResult} {req : OperationRequest} {registryValid : Bool}
    {registry : CapabilityRegistryView} {ops : List DeviceOp} {answers : (op : DeviceOp) → op.Reply → Prop}
    (h : Prog.Returns answers (handleDescribeCapability result req registryValid registry) ops r) : Concluded r := by
  unfold handleDescribeCapability at h
  split at h
  · rw [(Prog.returns_pure.1 h).2]
    exact concluded_status _ _
  split at h
  · rw [(Prog.returns_pure.1 h).2]
    exact concluded_status _ _
  obtain ⟨available, ops', -, hret, -⟩ := Prog.returns_lift_bind.1 h
  cases available with
  | none =>
    rw [(Prog.returns_pure.1 hret).2]
    exact concluded_status _ _
  | some available =>
    rw [(Prog.returns_pure.1 hret).2]
    exact concluded_record _ _

theorem handleDescribeCapability_calls (result : ServiceResult) (r : OperationRequest) (registryValid : Bool)
    (registry : CapabilityRegistryView) :
    Prog.Calls DeviceOp.IsQuery (handleDescribeCapability result r registryValid registry) := by
  unfold handleDescribeCapability
  split
  · exact Prog.calls_pure _
  split
  · exact Prog.calls_pure _
  refine Prog.calls_bind (Prog.calls_lift trivial) fun available => ?_
  cases available <;> exact Prog.calls_pure _

/-- The operations that the services of the Node perform. -/
def ServedLocally (opcode : UInt8) : Prop :=
  opcode = OperationCode.ping ∨ opcode = OperationCode.getDeviceInfo ∨ opcode = OperationCode.getStatus ∨
    opcode = OperationCode.getCapabilities ∨ opcode = OperationCode.describeCapability ∨
    opcode = OperationCode.getDiagnostics

theorem servedLocally_of_structured (hop : isStructuredOpcode opcode = true)
    (hgate : ¬ (opcode = OperationCode.readCapability ∨ opcode = OperationCode.setIndicator))
    (hproc : opcode ≠ OperationCode.runProcedure) : ServedLocally opcode := by
  unfold ServedLocally
  have := structured_cases hop
  tauto

/-- The request of the wire, as the Node serves it. -/
theorem handleLocalOperation_eq {requestId : UInt16} (h : isValidRequestSchema opcode request = true)
    (hop : ServedLocally opcode) :
    handleLocalOperation requestId (NodeProcessor.hostRequest c.snapshot opcode request) c.snapshot c.registryValid
        c.registry c.interlock versionMinor01 =
      if opcode = OperationCode.getCapabilities then
        pure (handleGetCapabilities
          { makeBaseResult requestId (NodeProcessor.hostRequest c.snapshot opcode request) with disposition := .handled }
          (NodeProcessor.hostRequest c.snapshot opcode request) c.registryValid c.registry)
      else if opcode = OperationCode.describeCapability then
        handleDescribeCapability
          { makeBaseResult requestId (NodeProcessor.hostRequest c.snapshot opcode request) with disposition := .handled }
          (NodeProcessor.hostRequest c.snapshot opcode request) c.registryValid c.registry
      else
        pure (deviceResult (makeBaseResult requestId (NodeProcessor.hostRequest c.snapshot opcode request))
          (NodeProcessor.hostRequest c.snapshot opcode request) c.snapshot) := by
  have hvalid := hostRequest_valid c.snapshot h
  have hself : ¬ (NodeProcessor.hostRequest c.snapshot opcode request).targetDeviceId ≠ c.snapshot.deviceId :=
    not_not.2 rfl
  have hoperation : (NodeProcessor.hostRequest c.snapshot opcode request).operation = opcode := rfl
  have hcat : (NodeProcessor.hostRequest c.snapshot opcode request).category = NodeProcessor.categoryFor opcode := rfl
  unfold handleLocalOperation
  rw [hcat]
  by_cases hcategory : NodeProcessor.categoryFor opcode = OperationCategory.capability
  · rw [if_pos hcategory]
    unfold handleLocalCapability
    simp only [hvalid, hcat]
    rw [if_neg (not_not.2 rfl), if_neg (not_not.2 hcategory), if_neg hself, hoperation]
    by_cases hlist : opcode = OperationCode.getCapabilities
    · rw [if_pos hlist, if_pos hlist]
    · have hdescribe : opcode = OperationCode.describeCapability := by
        rcases hop with rfl | rfl | rfl | rfl | rfl | rfl <;>
          first | rfl | exact absurd rfl hlist | exact absurd hcategory (by decide)
      rw [if_neg hlist, if_neg hlist, if_pos hdescribe, if_pos hdescribe]
  · rw [if_neg hcategory]
    unfold handleLocalDeviceOrDiagnostic
    have hdevice : NodeProcessor.categoryFor opcode = OperationCategory.device ∨
        NodeProcessor.categoryFor opcode = OperationCategory.diagnostic := by
      rcases hop with rfl | rfl | rfl | rfl | rfl | rfl <;> revert hcategory <;> decide
    have hother : opcode ≠ OperationCode.getCapabilities ∧ opcode ≠ OperationCode.describeCapability := by
      refine ⟨?_, ?_⟩ <;> rintro rfl <;> exact hcategory (by decide)
    simp only [hvalid, hcat]
    rw [if_neg (not_not.2 rfl), if_neg fun hc => hdevice.elim hc.1 hc.2, if_neg hself, if_neg hother.1,
      if_neg hother.2]

/-- What the services make of a request of the wire. -/
theorem handleLocalOperation_concluded {ops : List DeviceOp} {requestId : UInt16} {r : ServiceResult}
    {answers : (op : DeviceOp) → op.Reply → Prop} (h : isValidRequestSchema opcode request = true)
    (hop : ServedLocally opcode)
    (hr : Prog.Returns answers (handleLocalOperation requestId (NodeProcessor.hostRequest c.snapshot opcode request)
      c.snapshot c.registryValid c.registry c.interlock versionMinor01) ops r) : Concluded r := by
  rw [handleLocalOperation_eq h hop] at hr
  split at hr
  · rw [(Prog.returns_pure.1 hr).2]
    exact handleGetCapabilities_concluded _ _ _ _
  split at hr
  · exact handleDescribeCapability_concluded hr
  · rw [(Prog.returns_pure.1 hr).2]
    exact deviceResult_concluded _ _ _

/-- What has been performed goes into a response. -/
structure Performed (opcode : UInt8) (performed : UInt8 × TypedValue) : Prop where
  known : isKnownOperationStatus performed.1 = true
  success : performed.1 = OperationStatus.ok → isValidSuccessfulOperationValue opcode performed.2 = true
  failure : performed.1 ≠ OperationStatus.ok → performed.2 = noneValue
  short : performed.2.bytes.length ≤ maxWireResponseValueSize

theorem performed_failure {status : UInt8} (hknown : isKnownOperationStatus status = true)
    (hstatus : status ≠ OperationStatus.ok) : Performed opcode (status, noneValue) :=
  ⟨hknown, fun hc => absurd hc hstatus, fun _ => rfl, Nat.zero_le _⟩

/-- A result of a service goes into a response. -/
theorem performed_of_suits {r : ServiceResult} {req : OperationRequest} (hop : isStructuredOpcode opcode = true)
    (hreq : req.operation = opcode) (hcategory : req.category ≠ OperationCategory.event) (hr : Concluded r)
    (h : Suits versionMinor01 req r.response) : Performed opcode (r.response.resultCode, r.response.value) := by
  have hknown : isKnownOperationStatus r.response.resultCode = true := by
    have hcode := h.resultCode
    rw [hr.operationResult] at hcode
    exact hcode
  have hvalue := h.value
  unfold validateResponseValue at hvalue
  rw [if_neg (by rw [hr.operationResult]; decide), if_neg (by rw [h.category]; exact hcategory), h.operation,
    hreq] at hvalue
  split at hvalue
  · split at hvalue
    · rename_i hok hs
      exact ⟨hknown, fun _ => hs, fun hc => absurd hok.2 hc, length_of_success hop hs⟩
    · cases hvalue
  · rename_i hstatus
    split at hvalue
    · rename_i hnone
      refine ⟨hknown, fun hc => absurd ⟨hr.operationResult, hc⟩ hstatus, fun _ => isNoneValue_iff.1 hnone, ?_⟩
      rw [isNoneValue_iff.1 hnone]
      exact Nat.zero_le _
    · cases hvalue

/-- **Every operation is performed**, to a result that fits on the wire. -/
theorem perform_performed {ops : List DeviceOp} {performed : UInt8 × TypedValue}
    (h : isValidRequestSchema opcode request = true)
    (hr : Prog.Returns (fun _ _ => True) (NodeProcessor.perform c opcode request) ops performed) :
    Performed opcode performed := by
  have hop := (requestSchema_iff.1 h).1
  unfold NodeProcessor.perform at hr
  split at hr
  · split at hr
    · rw [(Prog.returns_pure.1 hr).2]
      exact performed_failure (by decide) (by decide)
    · rename_i input _
      obtain ⟨status, heq, hknown, hstatus⟩ := processRemoteCapability_refuses c.registry request.targetId
        (if opcode = OperationCode.readCapability then .read else .set) input c.interlock
      dsimp only at hr
      rw [heq, Prog.pure_bind', if_neg fun hc => hstatus hc.1] at hr
      rw [(Prog.returns_pure.1 hr).2]
      exact performed_failure hknown hstatus
  rename_i hgate
  split at hr
  · rw [(Prog.returns_pure.1 hr).2]
    exact performed_failure (by decide) (by decide)
  rename_i hproc
  obtain ⟨served, ops₁, ops₂, hserved, hret, -⟩ := Prog.returns_bind hr
  rw [(Prog.returns_pure.1 hret).2]
  have hconcluded := handleLocalOperation_concluded h (servedLocally_of_structured hop hgate hproc) hserved
  exact performed_of_suits hop rfl (categoryFor_valid hop).2 hconcluded
    ((handleLocalOperation_answers hserved).handled hconcluded.handled)

theorem perform_schema {performed : UInt8 × TypedValue} (h : isValidRequestSchema opcode request = true)
    (hp : Performed opcode performed) :
    isValidResponseSchema opcode (NodeProcessor.wireResponse request performed) = true := by
  obtain ⟨hop, -, htarget, -⟩ := requestSchema_iff.1 h
  refine responseSchema_iff.2 ⟨hop, hp.known, htarget, fun hstatus => if_pos hstatus, fun hstatus => ?_⟩
  have hvalue : (NodeProcessor.wireResponse request performed).value = performed.2 := if_neg (not_not.2 hstatus)
  rw [hvalue]
  exact hp.success hstatus

/-- **Nothing but the provider of availability is called.** -/
theorem perform_calls (h : isValidRequestSchema opcode request = true) :
    Prog.Calls DeviceOp.IsQuery (NodeProcessor.perform c opcode request) := by
  unfold NodeProcessor.perform
  split
  · split
    · exact Prog.calls_pure _
    · rename_i input _
      obtain ⟨status, heq, -, hstatus⟩ := processRemoteCapability_refuses c.registry request.targetId
        (if opcode = OperationCode.readCapability then .read else .set) input c.interlock
      dsimp only
      rw [heq, Prog.pure_bind', if_neg fun hc => hstatus hc.1]
      exact Prog.calls_pure _
  rename_i hgate
  split
  · exact Prog.calls_pure _
  rename_i hproc
  refine Prog.calls_bind ?_ fun served => Prog.calls_pure _
  rw [handleLocalOperation_eq h (servedLocally_of_structured (requestSchema_iff.1 h).1 hgate hproc)]
  split
  · exact Prog.calls_pure _
  split
  · exact handleDescribeCapability_calls _ _ _ _
  · exact Prog.calls_pure _

end Redline.Host
