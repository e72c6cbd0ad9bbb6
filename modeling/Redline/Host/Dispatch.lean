import Redline.Host.Capabilities

/-!
# The dispatch contains its handler

`dispatchCapabilityOperation` on the codes that it is given: the operation, the class of the caller and the state of
the interlock are bytes, known or not, and the context of the caller has its reserved bytes.  The services call it with
known codes only, where it is `Host.dispatchCapabilityOperation` (`dispatch_of_known`).

The handler is code from elsewhere.  `Permitted` says when it may be invoked at all, in terms of the descriptor and of
the order of the values that it bounds; the checks of the source come to exactly that (`dispatch_cases`), and what comes back
from the handler goes through `acceptedResult`, whatever its bits are.
-/

namespace Redline.Host.Coded

open Redline.Wire Redline.Lib

/-! ### Codes -/

namespace Operation
def enumerate : UInt8 := 0x00
def describe : UInt8 := 0x01
def read : UInt8 := 0x02
def set : UInt8 := 0x03
def trigger : UInt8 := 0x04
def runLocalProcedure : UInt8 := 0x05
end Operation

namespace CallerClass
def invalid : UInt8 := 0x00
def firmwareLocal : UInt8 := 0x01
def uiLocal : UInt8 := 0x02
def test : UInt8 := 0x03
def futureRemote : UInt8 := 0x04
def hostLocal : UInt8 := 0x05
end CallerClass

namespace InterlockState
def clear : UInt8 := 0x00
def active : UInt8 := 0x01
end InterlockState

structure CallerContext where
  callerClass : UInt8
  reserved : UInt8 × UInt8 × UInt8
  deriving DecidableEq

/-! ### Checks -/

def isValidCallerContext (caller : CallerContext) : Bool :=
  caller.reserved == (0, 0, 0) &&
    (caller.callerClass == CallerClass.firmwareLocal || caller.callerClass == CallerClass.uiLocal ||
      caller.callerClass == CallerClass.test || caller.callerClass == CallerClass.futureRemote ||
      caller.callerClass == CallerClass.hostLocal)

def isValidInterlockState (interlock : UInt8) : Bool :=
  interlock == InterlockState.clear || interlock == InterlockState.active

/-- The flag that an operation needs; a code that is no operation has none. -/
def requiredFlag (operation : UInt8) : UInt8 :=
  if operation = Operation.describe then OperationFlag.describe
  else if operation = Operation.read then OperationFlag.read
  else if operation = Operation.set then OperationFlag.set
  else if operation = Operation.trigger then OperationFlag.trigger
  else if operation = Operation.runLocalProcedure then OperationFlag.runLocalProcedure
  else 0

def supportsOperation (d : CapabilityDescriptor) (operation : UInt8) : Bool :=
  if !isValidCapabilityDescriptor d then false
  else if operation = Operation.enumerate then false
  else d.operationFlags &&& requiredFlag operation != 0

def isOperationAuthorized (d : CapabilityDescriptor) (operation : UInt8) (caller : CallerContext) : Bool :=
  if operation = Operation.enumerate || operation = Operation.describe || !supportsOperation d operation ||
      !isValidCallerContext caller || d.authorizationPolicyId != 0x00 then false
  else caller.callerClass == CallerClass.firmwareLocal || caller.callerClass == CallerClass.uiLocal ||
    caller.callerClass == CallerClass.test || caller.callerClass == CallerClass.hostLocal

def isOperationSafe (d : CapabilityDescriptor) (operation interlock : UInt8) : Bool :=
  if operation = Operation.enumerate || operation = Operation.describe || !supportsOperation d operation ||
      !isValidInterlockState interlock || !hasKnownSafetyPolicy d.safetyPolicyId then false
  else d.safetyPolicyId == 0x00 || interlock == InterlockState.clear || operation == Operation.read

def isHandlerDispatchableOperation (operation : UInt8) : Bool :=
  operation == Operation.read || operation == Operation.set || operation == Operation.trigger ||
    operation == Operation.runLocalProcedure

/-! ### Dispatch -/

/-- A call of the handler. -/
structure Execution where
  descriptor : CapabilityDescriptor
  operation : UInt8
  input : CapabilityValue

/-- Programs that may call the handler, which answers with any result. -/
abbrev HandlerM := Prog fun _ : Execution => OperationResult

/-- What becomes of the result of the handler. -/
def acceptedResult (d : CapabilityDescriptor) (operation : UInt8) (result : OperationResult) : OperationResult :=
  if !isValidOperationResult result || !isHandlerOwnedStatus result.status then
    makeCanonicalFailureResult OperationStatus.operationFailed
  else if result.status ≠ OperationStatus.ok then result
  else if operation = Operation.read then
    if !isValueWithinBounds d result.value then makeCanonicalFailureResult OperationStatus.operationFailed else result
  else if !isCanonicalNoneValue result.value then makeCanonicalFailureResult OperationStatus.operationFailed
  else result

def dispatchCapabilityOperation (registry : CapabilityRegistryView) (id : UInt16) (operation : UInt8)
    (input : CapabilityValue) (caller : CallerContext) (interlock : UInt8) : HandlerM OperationResult := do
  if !isValidCapabilityRegistry registry then return makeCanonicalFailureResult OperationStatus.invalidDescriptor
  match findCapability registry id with
  | none => return makeCanonicalFailureResult OperationStatus.capabilityNotFound
  | some d =>
    if !isHandlerDispatchableOperation operation || !supportsOperation d operation then
      return makeCanonicalFailureResult OperationStatus.unsupportedOperation
    if operation = Operation.set ∧ (!isValidCapabilityValue input || input.type != d.valueType) then
      return makeCanonicalFailureResult OperationStatus.invalidValueType
    if operation = Operation.set ∧ !isValueWithinBounds d input then
      return makeCanonicalFailureResult OperationStatus.valueOutOfRange
    if operation ≠ Operation.set ∧ !isCanonicalNoneValue input then
      return makeCanonicalFailureResult OperationStatus.invalidValueType
    if !isOperationAuthorized d operation caller then
      return makeCanonicalFailureResult OperationStatus.unauthorized
    if !isOperationSafe d operation interlock then
      return makeCanonicalFailureResult OperationStatus.interlockActive
    let result ← Prog.lift (⟨d, operation, input⟩ : Execution)
    return acceptedResult d operation result

/-! ### The order of values -/

theorem toNat_signedOrderingKey (bits : UInt32) : (signedOrderingKey bits).toNat =
    if bits.toNat < 2 ^ 31 then bits.toNat + 2 ^ 31 else bits.toNat - 2 ^ 31 := by
  have hlt := bits.toNat_lt
  have hkey : (signedOrderingKey bits).toNat = bits.toNat ^^^ 2 ^ 31 := by
    rw [signedOrderingKey, UInt32.toNat_xor]
    rfl
  -- the upper bit is flipped and the others stay
  have hmod : (bits.toNat ^^^ 2 ^ 31) % 2 ^ 31 = bits.toNat % 2 ^ 31 := by
    rw [Nat.xor_mod_two_pow, Nat.mod_self, Nat.xor_zero]
  have hdiv : (bits.toNat ^^^ 2 ^ 31) / 2 ^ 31 = bits.toNat / 2 ^ 31 ^^^ 1 := by
    rw [Nat.xor_div_two_pow, Nat.div_self (by decide)]
  rw [hkey]
  rcases Nat.lt_or_ge bits.toNat (2 ^ 31) with h | h
  · have hupper : bits.toNat / 2 ^ 31 = 0 := by omega
    rw [hupper, Nat.zero_xor] at hdiv
    rw [if_pos h]
    omega
  · have hupper : bits.toNat / 2 ^ 31 = 1 := by omega
    rw [hupper, Nat.xor_self] at hdiv
    rw [if_neg (by omega)]
    omega

/-- The key orders words as the integers that they stand for in two's complement. -/
theorem signedOrderingKey_le {a b : UInt32} :
    signedOrderingKey a ≤ signedOrderingKey b ↔ a.toBitVec.toInt ≤ b.toBitVec.toInt := by
  have ha := a.toNat_lt
  have hb := b.toNat_lt
  rw [UInt32.le_iff_toNat_le, toNat_signedOrderingKey, toNat_signedOrderingKey, BitVec.toInt_eq_toNat_cond,
    BitVec.toInt_eq_toNat_cond, UInt32.toNat_toBitVec, UInt32.toNat_toBitVec]
  split <;> split <;> split <;> split <;> omega

/-- The types whose values are signed: integers and fixed-point numbers. -/
def IsSigned (type : UInt8) : Prop := type = ValueType.signed32 ∨ type = ValueType.fixedQ1616

/-- The value is one of the descriptor's: of its type, well formed, and between its bounds in the order of the type. -/
structure Bounded (d : CapabilityDescriptor) (value : CapabilityValue) : Prop where
  wellFormed : isValidCapabilityValue value = true
  type : value.type = d.valueType
  signed : IsSigned d.valueType →
    d.minimumBits.toBitVec.toInt ≤ value.bits.toBitVec.toInt ∧ value.bits.toBitVec.toInt ≤ d.maximumBits.toBitVec.toInt
  unsigned : ¬ IsSigned d.valueType →
    d.minimumBits.toNat ≤ value.bits.toNat ∧ value.bits.toNat ≤ d.maximumBits.toNat

theorem isValueWithinBounds_iff {d : CapabilityDescriptor} {value : CapabilityValue} :
    isValueWithinBounds d value = true ↔ isValidCapabilityDescriptor d = true ∧ Bounded d value := by
  unfold isValueWithinBounds isValueCompatible
  rw [Bool.and_eq_true, Bool.and_eq_true, Bool.and_eq_true, beq_iff_eq]
  by_cases hsigned : value.type = ValueType.signed32 ∨ value.type = ValueType.fixedQ1616
  · rw [if_pos (by simpa using hsigned), Bool.and_eq_true, decide_eq_true_eq, decide_eq_true_eq, signedOrderingKey_le,
      signedOrderingKey_le]
    constructor
    · rintro ⟨⟨⟨hd, hv⟩, htype⟩, hbounds⟩
      refine ⟨hd, hv, htype.symm, fun _ => hbounds, fun hnot => ?_⟩
      rw [htype] at hnot
      exact absurd hsigned hnot
    · rintro ⟨hd, hv, htype, hbounds, -⟩
      refine ⟨⟨⟨hd, hv⟩, htype.symm⟩, hbounds ?_⟩
      rw [← htype]
      exact hsigned
  · rw [if_neg (by simpa using hsigned), Bool.and_eq_true, decide_eq_true_eq, decide_eq_true_eq, UInt32.le_iff_toNat_le,
      UInt32.le_iff_toNat_le]
    constructor
    · rintro ⟨⟨⟨hd, hv⟩, htype⟩, hbounds⟩
      refine ⟨hd, hv, htype.symm, fun hs => ?_, fun _ => hbounds⟩
      rw [htype] at hs
      exact absurd hs hsigned
    · rintro ⟨hd, hv, htype, -, hbounds⟩
      refine ⟨⟨⟨hd, hv⟩, htype.symm⟩, hbounds ?_⟩
      rw [← htype]
      exact hsigned

/-! ### When the handler may be invoked -/

def noneCapabilityValue : CapabilityValue := ⟨ValueType.none, (0, 0, 0), 0⟩

theorem isCanonicalNoneValue_iff {value : CapabilityValue} :
    isCanonicalNoneValue value = true ↔ value = noneCapabilityValue := by
  constructor
  · intro h
    obtain ⟨type, reserved, bits⟩ := value
    rw [isCanonicalNoneValue, Bool.and_eq_true, beq_iff_eq] at h
    obtain ⟨hvalid, htype⟩ := h
    dsimp only at htype
    subst htype
    unfold isValidCapabilityValue at hvalid
    split at hvalid
    · cases hvalid
    · rename_i hshape
      simp only [Bool.or_eq_true, decide_eq_true_eq, not_or, not_not] at hshape
      rw [if_pos rfl, beq_iff_eq] at hvalid
      dsimp only at hshape hvalid
      rw [hshape.1, hvalid, noneCapabilityValue]
  · rintro rfl
    decide

/-- The gate, as conditions on the descriptor that belongs to the identifier. -/
structure Permitted (registry : CapabilityRegistryView) (id : UInt16) (operation : UInt8) (input : CapabilityValue)
    (caller : CallerContext) (interlock : UInt8) (d : CapabilityDescriptor) : Prop where
  valid : isValidCapabilityRegistry registry = true
  found : findCapability registry id = some d
  descriptor : isValidCapabilityDescriptor d = true
  known : operation = Operation.read ∨ operation = Operation.set ∨ operation = Operation.trigger ∨
    operation = Operation.runLocalProcedure
  supported : d.operationFlags &&& requiredFlag operation ≠ 0
  setting : operation = Operation.set → Bounded d input
  asking : operation ≠ Operation.set → input = noneCapabilityValue
  authorized : caller.reserved = (0, 0, 0) ∧ (caller.callerClass = CallerClass.firmwareLocal ∨
    caller.callerClass = CallerClass.uiLocal ∨ caller.callerClass = CallerClass.test ∨
    caller.callerClass = CallerClass.hostLocal)
  safe : interlock = InterlockState.clear ∨ (interlock = InterlockState.active ∧
    (d.safetyPolicyId = 0x00 ∨ operation = Operation.read))

theorem dispatchable_iff {operation : UInt8} : isHandlerDispatchableOperation operation = true ↔
    operation = Operation.read ∨ operation = Operation.set ∨ operation = Operation.trigger ∨
      operation = Operation.runLocalProcedure := by
  simp [isHandlerDispatchableOperation, or_assoc]

/-- An operation that goes to a handler is none of the two that the source refuses by name. -/
theorem ne_of_dispatchable {operation : UInt8} (h : isHandlerDispatchableOperation operation = true) :
    operation ≠ Operation.enumerate ∧ operation ≠ Operation.describe := by
  rcases dispatchable_iff.1 h with rfl | rfl | rfl | rfl <;> decide

theorem policies_of_valid {d : CapabilityDescriptor} (h : isValidCapabilityDescriptor d = true) :
    d.authorizationPolicyId = 0x00 ∧ hasKnownSafetyPolicy d.safetyPolicyId = true := by
  simp only [isValidCapabilityDescriptor, Bool.and_eq_true] at h
  obtain ⟨⟨⟨⟨⟨⟨-, hauthorization⟩, hsafety⟩, -⟩, -⟩, -⟩, -⟩ := h
  exact ⟨by simpa [hasKnownAuthorizationPolicy] using hauthorization, hsafety⟩

theorem supportsOperation_iff {d : CapabilityDescriptor} {operation : UInt8}
    (h : isHandlerDispatchableOperation operation = true) : supportsOperation d operation = true ↔
      isValidCapabilityDescriptor d = true ∧ d.operationFlags &&& requiredFlag operation ≠ 0 := by
  unfold supportsOperation
  rw [if_neg (ne_of_dispatchable h).1]
  cases isValidCapabilityDescriptor d <;> simp

theorem isOperationAuthorized_iff {d : CapabilityDescriptor} {operation : UInt8} {caller : CallerContext}
    (h : isHandlerDispatchableOperation operation = true) (hsupports : supportsOperation d operation = true) :
    isOperationAuthorized d operation caller = true ↔
      caller.reserved = (0, 0, 0) ∧ (caller.callerClass = CallerClass.firmwareLocal ∨
        caller.callerClass = CallerClass.uiLocal ∨ caller.callerClass = CallerClass.test ∨
        caller.callerClass = CallerClass.hostLocal) := by
  have hpolicy := (policies_of_valid ((supportsOperation_iff h).1 hsupports).1).1
  obtain ⟨henumerate, hdescribe⟩ := ne_of_dispatchable h
  unfold isOperationAuthorized isValidCallerContext
  rw [hpolicy, hsupports]
  obtain ⟨callerClass, reserved⟩ := caller
  simp only [henumerate, hdescribe, decide_false, Bool.false_or, Bool.not_true, bne_self_eq_false, Bool.or_false,
    Bool.not_eq_true', Bool.and_eq_false_iff, beq_eq_false_iff_ne, Bool.or_eq_false_iff]
  split
  · rename_i hinvalid
    refine iff_of_false (by simp) ?_
    rintro ⟨hreserved, hclass⟩
    rcases hinvalid with hinvalid | hinvalid
    · exact hinvalid hreserved
    · rcases hclass with hclass | hclass | hclass | hclass
      · exact hinvalid.1.1.1.1 hclass
      · exact hinvalid.1.1.1.2 hclass
      · exact hinvalid.1.1.2 hclass
      · exact hinvalid.2 hclass
  · rename_i hvalid
    rw [not_or] at hvalid
    simp only [Bool.or_eq_true, beq_iff_eq, or_assoc, not_not.1 hvalid.1, true_and]

theorem isOperationSafe_iff {d : CapabilityDescriptor} {operation interlock : UInt8}
    (h : isHandlerDispatchableOperation operation = true) (hsupports : supportsOperation d operation = true) :
    isOperationSafe d operation interlock = true ↔ interlock = InterlockState.clear ∨
      (interlock = InterlockState.active ∧ (d.safetyPolicyId = 0x00 ∨ operation = Operation.read)) := by
  have hpolicy := (policies_of_valid ((supportsOperation_iff h).1 hsupports).1).2
  obtain ⟨henumerate, hdescribe⟩ := ne_of_dispatchable h
  unfold isOperationSafe isValidInterlockState
  rw [hpolicy, hsupports]
  simp only [henumerate, hdescribe, decide_false, Bool.false_or, Bool.not_true, Bool.or_false, Bool.not_eq_true',
    Bool.or_eq_false_iff, beq_eq_false_iff_ne]
  split
  · rename_i hinvalid
    refine iff_of_false (by simp) ?_
    rintro (hclear | ⟨hactive, -⟩)
    · exact hinvalid.1 hclear
    · exact hinvalid.2 hactive
  · rename_i hvalid
    rw [not_and_or, not_not, not_not] at hvalid
    simp only [Bool.or_eq_true, beq_iff_eq]
    rcases hvalid with hclear | hactive
    · simp [hclear]
    · have hne : interlock ≠ InterlockState.clear := by
        rw [hactive]
        decide
      constructor
      · rintro ((hpolicy | hclear) | hread)
        · exact Or.inr ⟨hactive, Or.inl hpolicy⟩
        · exact absurd hclear hne
        · exact Or.inr ⟨hactive, Or.inr hread⟩
      · rintro (hclear | ⟨-, hpolicy | hread⟩)
        · exact absurd hclear hne
        · exact Or.inl (Or.inl hpolicy)
        · exact Or.inr hread

/-- The dispatch refuses with a status that no handler has. -/
def Refuses (p : HandlerM OperationResult) : Prop :=
  ∃ status, isKnownOperationStatus status = true ∧ isHandlerOwnedStatus status = false ∧
    p = pure (makeCanonicalFailureResult status)

/-- **The gate is what `Permitted` says**: it lets an operation through to the handler, or refuses it. -/
theorem dispatch_cases (registry : CapabilityRegistryView) (id : UInt16) (operation : UInt8) (input : CapabilityValue)
    (caller : CallerContext) (interlock : UInt8) :
    (∃ d, Permitted registry id operation input caller interlock d ∧
      dispatchCapabilityOperation registry id operation input caller interlock =
        (Prog.lift (⟨d, operation, input⟩ : Execution) >>= fun result => pure (acceptedResult d operation result))) ∨
    ((∀ d, ¬ Permitted registry id operation input caller interlock d) ∧
      Refuses (dispatchCapabilityOperation registry id operation input caller interlock)) := by
  unfold dispatchCapabilityOperation
  split
  · rename_i hinvalid
    refine Or.inr ⟨fun d hp => ?_, _, by decide, by decide, rfl⟩
    rw [hp.valid] at hinvalid
    cases hinvalid
  rename_i hvalid
  rw [Bool.not_eq_true', Bool.not_eq_false] at hvalid
  split
  · rename_i hnone
    refine Or.inr ⟨fun d hp => ?_, _, by decide, by decide, rfl⟩
    rw [hp.found] at hnone
    cases hnone
  rename_i d hfound
  have hsame : ∀ d', Permitted registry id operation input caller interlock d' → d' = d := by
    intro d' hp
    rw [hp.found, Option.some.injEq] at hfound
    exact hfound
  split
  · rename_i hrefused
    refine Or.inr ⟨fun d' hp => ?_, _, by decide, by decide, rfl⟩
    obtain rfl := hsame d' hp
    have hdispatchable := dispatchable_iff.2 hp.known
    rw [hdispatchable, (supportsOperation_iff hdispatchable).2 ⟨hp.descriptor, hp.supported⟩] at hrefused
    cases hrefused
  rename_i hsupported
  simp only [Bool.or_eq_true, Bool.not_eq_true', not_or, Bool.not_eq_false] at hsupported
  obtain ⟨hdispatchable, hsupports⟩ := hsupported
  obtain ⟨hdescriptor, hflag⟩ := (supportsOperation_iff hdispatchable).1 hsupports
  split
  · rename_i hrefused
    refine Or.inr ⟨fun d' hp => ?_, _, by decide, by decide, rfl⟩
    obtain rfl := hsame d' hp
    have hbounded := hp.setting hrefused.1
    simp [hbounded.wellFormed, hbounded.type] at hrefused
  split
  · rename_i hrefused
    refine Or.inr ⟨fun d' hp => ?_, _, by decide, by decide, rfl⟩
    obtain rfl := hsame d' hp
    rw [isValueWithinBounds_iff.2 ⟨hp.descriptor, hp.setting hrefused.1⟩] at hrefused
    simp at hrefused
  rename_i hbounds
  split
  · rename_i hrefused
    refine Or.inr ⟨fun d' hp => ?_, _, by decide, by decide, rfl⟩
    rw [isCanonicalNoneValue_iff.2 (hp.asking hrefused.1)] at hrefused
    simp at hrefused
  rename_i hnone
  split
  · rename_i hrefused
    refine Or.inr ⟨fun d' hp => ?_, _, by decide, by decide, rfl⟩
    obtain rfl := hsame d' hp
    rw [(isOperationAuthorized_iff hdispatchable hsupports).2 hp.authorized] at hrefused
    cases hrefused
  rename_i hauthorized
  rw [Bool.not_eq_true', Bool.not_eq_false] at hauthorized
  split
  · rename_i hrefused
    refine Or.inr ⟨fun d' hp => ?_, _, by decide, by decide, rfl⟩
    obtain rfl := hsame d' hp
    rw [(isOperationSafe_iff hdispatchable hsupports).2 hp.safe] at hrefused
    cases hrefused
  rename_i hsafe
  rw [Bool.not_eq_true', Bool.not_eq_false] at hsafe
  refine Or.inl ⟨d, ⟨hvalid, hfound, hdescriptor, dispatchable_iff.1 hdispatchable, hflag, fun hset => ?_, fun hask => ?_,
    (isOperationAuthorized_iff hdispatchable hsupports).1 hauthorized,
    (isOperationSafe_iff hdispatchable hsupports).1 hsafe⟩, rfl⟩
  · by_contra hnot
    refine hbounds ⟨hset, ?_⟩
    rw [Bool.not_eq_true', Bool.eq_false_iff]
    intro hwithin
    exact hnot (isValueWithinBounds_iff.1 hwithin).2
  · by_contra hnot
    refine hnone ⟨hask, ?_⟩
    rw [Bool.not_eq_true', Bool.eq_false_iff]
    intro hcanonical
    exact hnot (isCanonicalNoneValue_iff.1 hcanonical)

/-! ### What comes back -/

theorem isValidOperationResult_failure {status : UInt8} (h : isKnownOperationStatus status = true) :
    isValidOperationResult (makeCanonicalFailureResult status) = true := by
  have hvalue : isValidCapabilityValue (default : CapabilityValue) = true := by decide
  simp only [isValidOperationResult, makeCanonicalFailureResult, h, hvalue, beq_self_eq_true, Bool.true_and]
  rw [Bool.or_eq_true]
  exact Or.inr (by decide)

/-- What may be said of a result of the handler that is let through. -/
structure Accepted (d : CapabilityDescriptor) (operation : UInt8) (result : OperationResult) : Prop where
  valid : isValidOperationResult result = true
  owned : isHandlerOwnedStatus result.status = true
  read : result.status = OperationStatus.ok → operation = Operation.read → Bounded d result.value
  other : result.status = OperationStatus.ok → operation ≠ Operation.read → result.value = noneCapabilityValue

theorem accepted_failed (d : CapabilityDescriptor) (operation : UInt8) :
    Accepted d operation (makeCanonicalFailureResult OperationStatus.operationFailed) := by
  refine ⟨isValidOperationResult_failure (by decide), by decide, fun h => ?_, fun h => ?_⟩
  · exact absurd h (by decide)
  · exact absurd h (by decide)

/-- **Whatever the handler returns**, it is accepted as it is or replaced by a failure. -/
theorem accepted_acceptedResult (d : CapabilityDescriptor) (operation : UInt8) (result : OperationResult) :
    Accepted d operation (acceptedResult d operation result) ∧
      (acceptedResult d operation result = result ∨
        acceptedResult d operation result = makeCanonicalFailureResult OperationStatus.operationFailed) := by
  unfold acceptedResult
  split
  · exact ⟨accepted_failed d operation, Or.inr rfl⟩
  rename_i hvalid
  simp only [Bool.or_eq_true, Bool.not_eq_true', not_or, Bool.not_eq_false] at hvalid
  split
  · rename_i hstatus
    exact ⟨⟨hvalid.1, hvalid.2, fun h => absurd h hstatus, fun h => absurd h hstatus⟩, Or.inl rfl⟩
  split
  · rename_i hread
    split
    · exact ⟨accepted_failed d operation, Or.inr rfl⟩
    · rename_i hbounds
      rw [Bool.not_eq_true', Bool.not_eq_false] at hbounds
      exact ⟨⟨hvalid.1, hvalid.2, fun _ _ => (isValueWithinBounds_iff.1 hbounds).2, fun _ h => absurd hread h⟩,
        Or.inl rfl⟩
  · rename_i hread
    split
    · exact ⟨accepted_failed d operation, Or.inr rfl⟩
    · rename_i hnone
      rw [Bool.not_eq_true', Bool.not_eq_false] at hnone
      exact ⟨⟨hvalid.1, hvalid.2, fun _ h => absurd h hread, fun _ _ => isCanonicalNoneValue_iff.1 hnone⟩, Or.inl rfl⟩

/-- **The dispatch contains its handler**: it invokes it once where that is permitted and not at all elsewhere, and
what it returns is a valid result, with a value only where a read has one. -/
theorem dispatch_contained {registry : CapabilityRegistryView} {id : UInt16} {operation : UInt8} {input : CapabilityValue}
    {caller : CallerContext} {interlock : UInt8} {answers : Execution → OperationResult → Prop} {ops : List Execution}
    {result : OperationResult}
    (h : Prog.Returns answers (dispatchCapabilityOperation registry id operation input caller interlock) ops result) :
    ((∃ d, Permitted registry id operation input caller interlock d ∧ ops = [⟨d, operation, input⟩]) ∨
      ((∀ d, ¬ Permitted registry id operation input caller interlock d) ∧ ops = [])) ∧
    isValidOperationResult result = true ∧
    (result.status = OperationStatus.ok → operation = Operation.read →
      ∃ d, findCapability registry id = some d ∧ Bounded d result.value) ∧
    (result.status = OperationStatus.ok → operation ≠ Operation.read → result.value = noneCapabilityValue) ∧
    (isHandlerOwnedStatus result.status = false → ops = []) ∧
    (result.status = OperationStatus.ok → ∃ execution ∈ ops, answers execution result) := by
  rcases dispatch_cases registry id operation input caller interlock with
    ⟨d, hp, heq⟩ | ⟨hnone, status, hknown, howned, heq⟩
  · rw [heq] at h
    obtain ⟨r, ops', hr, hret, rfl⟩ := Prog.returns_lift_bind.1 h
    obtain ⟨rfl, rfl⟩ := Prog.returns_pure.1 hret
    obtain ⟨haccepted, horigin⟩ := accepted_acceptedResult d operation r
    refine ⟨Or.inl ⟨d, hp, rfl⟩, haccepted.valid, fun hok hread => ⟨d, hp.found, haccepted.read hok hread⟩,
      haccepted.other, fun hno => ?_, fun hok => ?_⟩
    · rw [haccepted.owned] at hno
      cases hno
    · refine ⟨_, List.mem_singleton_self _, ?_⟩
      rcases horigin with hsame | hfailed
      · rw [hsame]
        exact hr
      · rw [hfailed] at hok
        exact absurd hok (by decide)
  · rw [heq] at h
    obtain ⟨rfl, rfl⟩ := Prog.returns_pure.1 h
    have hstatus : status ≠ OperationStatus.ok := by
      rintro rfl
      cases howned
    exact ⟨Or.inr ⟨hnone, rfl⟩, isValidOperationResult_failure hknown, fun hok => absurd hok hstatus,
      fun hok => absurd hok hstatus, fun _ => rfl, fun hok => absurd hok hstatus⟩

/-- An indicator that may be switched on and off. -/
def indicator : CapabilityDescriptor := ⟨1, CapabilityClass.indicatorOutput, OperationFlag.describe ||| OperationFlag.set,
  ValueType.boolean, 0x00, 0x00, 0x00, 0, 0, 0, 1⟩

/-- A handler that answers with a status that is not its own. -/
def handlerAnswers (_ : Execution) (result : OperationResult) : Prop :=
  result = makeCanonicalFailureResult OperationStatus.unauthorized

/-- Switched on by the host, and the handler fails. -/
theorem dispatch_contained_indicator :
    let registry : CapabilityRegistryView := ⟨some fun _ => indicator, 1⟩
    let caller : CallerContext := ⟨CallerClass.hostLocal, (0, 0, 0)⟩
    let on : CapabilityValue := ⟨ValueType.boolean, (0, 0, 0), 1⟩
    let ops : List Execution := [⟨indicator, Operation.set, on⟩]
    let result := makeCanonicalFailureResult OperationStatus.operationFailed
    ((∃ d, Permitted registry 1 Operation.set on caller InterlockState.clear d ∧ ops = [⟨d, Operation.set, on⟩]) ∨
      ((∀ d, ¬ Permitted registry 1 Operation.set on caller InterlockState.clear d) ∧ ops = [])) ∧
    isValidOperationResult result = true ∧
    (result.status = OperationStatus.ok → Operation.set = Operation.read →
      ∃ d, findCapability registry 1 = some d ∧ Bounded d result.value) ∧
    (result.status = OperationStatus.ok → Operation.set ≠ Operation.read → result.value = noneCapabilityValue) ∧
    (isHandlerOwnedStatus result.status = false → ops = []) ∧
    (result.status = OperationStatus.ok → ∃ execution ∈ ops, handlerAnswers execution result) :=
  dispatch_contained (.call (makeCanonicalFailureResult OperationStatus.unauthorized) rfl (.pure _))

/-! ### Known codes -/

def codeOf : Host.Operation → UInt8
  | .enumerate => Operation.enumerate
  | .describe => Operation.describe
  | .read => Operation.read
  | .set => Operation.set
  | .trigger => Operation.trigger
  | .runLocalProcedure => Operation.runLocalProcedure

def callerOf : Host.CallerClass → CallerContext
  | .invalid => ⟨CallerClass.invalid, (0, 0, 0)⟩
  | .firmwareLocal => ⟨CallerClass.firmwareLocal, (0, 0, 0)⟩
  | .uiLocal => ⟨CallerClass.uiLocal, (0, 0, 0)⟩
  | .test => ⟨CallerClass.test, (0, 0, 0)⟩
  | .futureRemote => ⟨CallerClass.futureRemote, (0, 0, 0)⟩
  | .hostLocal => ⟨CallerClass.hostLocal, (0, 0, 0)⟩

def interlockOf : Host.InterlockState → UInt8
  | .clear => InterlockState.clear
  | .active => InterlockState.active

/-- The handler among the calls that the services make of the device. -/
def served (operation : Host.Operation) : HandlerM OperationResult → DeviceM OperationResult
  | .pure result => .pure result
  | .call execution next =>
    .call (.execute execution.descriptor operation execution.input) fun result => served operation (next result)

theorem served_ite {operation : Host.Operation} {c : Prop} [Decidable c] {p q : HandlerM OperationResult} :
    served operation (if c then p else q) = if c then served operation p else served operation q := by
  split <;> rfl

theorem supportsOperation_of_known (d : CapabilityDescriptor) (operation : Host.Operation) :
    supportsOperation d (codeOf operation) = Host.supportsOperation d operation := by
  unfold supportsOperation Host.supportsOperation
  cases isValidCapabilityDescriptor d with
  | false => rfl
  | true => cases operation <;> rfl

theorem isOperationAuthorized_of_known (d : CapabilityDescriptor) (operation : Host.Operation) (c : Host.CallerClass) :
    isOperationAuthorized d (codeOf operation) (callerOf c) = Host.isOperationAuthorized d operation c := by
  unfold isOperationAuthorized Host.isOperationAuthorized
  rw [supportsOperation_of_known]
  generalize Host.supportsOperation d operation = supports
  have hpolicy : (d.authorizationPolicyId != 0x00) = !hasKnownAuthorizationPolicy d.authorizationPolicyId := rfl
  rw [hpolicy]
  generalize hasKnownAuthorizationPolicy d.authorizationPolicyId = known
  cases supports <;> cases known <;> cases operation <;> cases c <;> rfl

theorem isOperationSafe_of_known (d : CapabilityDescriptor) (operation : Host.Operation) (i : Host.InterlockState) :
    isOperationSafe d (codeOf operation) (interlockOf i) = Host.isOperationSafe d operation i := by
  unfold isOperationSafe Host.isOperationSafe
  rw [supportsOperation_of_known]
  generalize Host.supportsOperation d operation = supports
  generalize hasKnownSafetyPolicy d.safetyPolicyId = known
  generalize (d.safetyPolicyId == 0x00) = free
  cases supports <;> cases known <;> cases free <;> cases operation <;> cases i <;> rfl

theorem acceptedResult_of_known (d : CapabilityDescriptor) (operation : Host.Operation) (result : OperationResult) :
    acceptedResult d (codeOf operation) result = Host.acceptedResult d operation result := by
  have hread : codeOf operation = Operation.read ↔ operation = .read := by
    cases operation <;> decide
  simp only [acceptedResult, Host.acceptedResult, hread]

/-- **The dispatch of the services**, which know their operation, their caller and the interlock. -/
theorem dispatch_of_known (registry : CapabilityRegistryView) (id : UInt16) (operation : Host.Operation)
    (input : CapabilityValue) (c : Host.CallerClass) (i : Host.InterlockState) :
    Host.dispatchCapabilityOperation registry id operation input c i =
      served operation
        (dispatchCapabilityOperation registry id (codeOf operation) input (callerOf c) (interlockOf i)) := by
  have hset : codeOf operation = Operation.set ↔ operation = .set := by
    cases operation <;> decide
  have hdispatchable : isHandlerDispatchableOperation (codeOf operation) =
      Host.isHandlerDispatchableOperation operation := by
    cases operation <;> rfl
  unfold Host.dispatchCapabilityOperation dispatchCapabilityOperation
  simp only [hset, ne_eq, hdispatchable, supportsOperation_of_known, isOperationAuthorized_of_known,
    isOperationSafe_of_known, acceptedResult_of_known]
  split
  · rfl
  cases findCapability registry id with
  | none => rfl
  | some d =>
    simp only [served_ite]
    rfl

end Redline.Host.Coded
