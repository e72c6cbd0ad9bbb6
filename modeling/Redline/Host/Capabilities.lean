import Redline.Lib.Prog
import Redline.Wire.Bytes

/-!
# Capabilities of a device

`device_capabilities.h`: the descriptors of a registry, the values a capability reads or is set to, and the
dispatch of an operation to the handler of the device.  The handler is not trusted: what it returns is checked
against the descriptor before it goes on (`dispatchCapabilityOperation`).

The codes of the source stand for bytes that come from outside, so they are bytes here too, with their names.
The counters of `CapabilityDiagnostics` are written and never read on this path; they are left out.
-/

namespace Redline.Host

open Redline.Wire Redline.Lib

/-! ### Codes -/

def invalidCapabilityId : UInt16 := 0

namespace CapabilityClass
def digitalInput : UInt8 := 0x01
def analogInput : UInt8 := 0x02
def sensor : UInt8 := 0x03
def indicatorOutput : UInt8 := 0x04
def signalOutput : UInt8 := 0x05
def relayOutput : UInt8 := 0x06
def powerMonitor : UInt8 := 0x07
def locationProvider : UInt8 := 0x08
def localStorage : UInt8 := 0x09
def localProcedure : UInt8 := 0x0A
end CapabilityClass

/-- What may be asked of a capability. -/
inductive Operation
  | enumerate | describe | read | set | trigger | runLocalProcedure
  deriving DecidableEq

namespace OperationFlag
def describe : UInt8 := 0x01
def read : UInt8 := 0x02
def set : UInt8 := 0x04
def trigger : UInt8 := 0x08
def runLocalProcedure : UInt8 := 0x10
end OperationFlag

def knownOperationFlags : UInt8 :=
  OperationFlag.describe ||| OperationFlag.read ||| OperationFlag.set ||| OperationFlag.trigger |||
    OperationFlag.runLocalProcedure

namespace ValueType
def none : UInt8 := 0x00
def boolean : UInt8 := 0x01
def unsigned32 : UInt8 := 0x02
def signed32 : UInt8 := 0x03
def normalizedU16 : UInt8 := 0x04
def fixedQ1616 : UInt8 := 0x05
def enumU16 : UInt8 := 0x06
end ValueType

namespace OperationStatus
def ok : UInt8 := 0x00
def capabilityNotFound : UInt8 := 0x01
def unsupportedOperation : UInt8 := 0x02
def invalidValueType : UInt8 := 0x03
def valueOutOfRange : UInt8 := 0x04
def unauthorized : UInt8 := 0x05
def interlockActive : UInt8 := 0x06
def hardwareUnavailable : UInt8 := 0x07
def operationFailed : UInt8 := 0x08
def busy : UInt8 := 0x09
def invalidDescriptor : UInt8 := 0x0A
end OperationStatus

inductive CallerClass
  | invalid | firmwareLocal | uiLocal | test | futureRemote | hostLocal
  deriving DecidableEq

inductive InterlockState
  | clear | active
  deriving DecidableEq

structure CapabilityValue where
  type : UInt8
  reserved : UInt8 × UInt8 × UInt8
  bits : UInt32
  deriving DecidableEq

instance : Inhabited CapabilityValue := ⟨⟨0, (0, 0, 0), 0⟩⟩

structure OperationResult where
  status : UInt8
  reserved : UInt8 × UInt8 × UInt8
  value : CapabilityValue
  deriving DecidableEq

structure CapabilityDescriptor where
  id : UInt16
  capabilityClass : UInt8
  operationFlags : UInt8
  valueType : UInt8
  authorizationPolicyId : UInt8
  safetyPolicyId : UInt8
  unitCode : UInt8
  metadataFlags : UInt16
  reserved : UInt16
  minimumBits : UInt32
  maximumBits : UInt32
  deriving DecidableEq

def maxCapabilities : UInt8 := 16

/-- A registry: the descriptors, if there are any, and how many of them. -/
structure CapabilityRegistryView where
  descriptors : Option (ℕ → CapabilityDescriptor)
  count : UInt8

/-! ### Checks -/

def isKnownCapabilityClass (c : UInt8) : Bool :=
  c == CapabilityClass.digitalInput || c == CapabilityClass.analogInput || c == CapabilityClass.sensor ||
    c == CapabilityClass.indicatorOutput || c == CapabilityClass.signalOutput || c == CapabilityClass.relayOutput ||
    c == CapabilityClass.powerMonitor || c == CapabilityClass.locationProvider ||
    c == CapabilityClass.localStorage || c == CapabilityClass.localProcedure

def isKnownValueType (t : UInt8) : Bool :=
  t == ValueType.none || t == ValueType.boolean || t == ValueType.unsigned32 || t == ValueType.signed32 ||
    t == ValueType.normalizedU16 || t == ValueType.fixedQ1616 || t == ValueType.enumU16

def isValidCapabilityValue (value : CapabilityValue) : Bool :=
  if value.reserved ≠ (0, 0, 0) || !isKnownValueType value.type then false
  else if value.type = ValueType.none then value.bits == 0
  else if value.type = ValueType.boolean then value.bits ≤ 1
  else if value.type = ValueType.normalizedU16 || value.type = ValueType.enumU16 then
    value.bits &&& 0xFFFF0000 == 0
  else true

def isKnownOperationStatus (status : UInt8) : Bool :=
  status == OperationStatus.ok || status == OperationStatus.capabilityNotFound ||
    status == OperationStatus.unsupportedOperation || status == OperationStatus.invalidValueType ||
    status == OperationStatus.valueOutOfRange || status == OperationStatus.unauthorized ||
    status == OperationStatus.interlockActive || status == OperationStatus.hardwareUnavailable ||
    status == OperationStatus.operationFailed || status == OperationStatus.busy ||
    status == OperationStatus.invalidDescriptor

def isKnownUnitCode (unitCode : UInt8) : Bool := unitCode ≤ 0x05

def hasKnownOperationFlags (operationFlags : UInt8) : Bool := operationFlags &&& ~~~knownOperationFlags == 0

def hasKnownAuthorizationPolicy (policyId : UInt8) : Bool := policyId == 0x00

def hasKnownSafetyPolicy (policyId : UInt8) : Bool := policyId == 0x00 || policyId == 0x01

def hasValidOperations (c operationFlags : UInt8) : Bool :=
  if !hasKnownOperationFlags operationFlags || operationFlags &&& OperationFlag.describe == 0 then false
  else
    let describeRead := OperationFlag.describe ||| OperationFlag.read
    let describeSet := OperationFlag.describe ||| OperationFlag.set
    let describeReadSet := describeRead ||| OperationFlag.set
    if c = CapabilityClass.digitalInput || c = CapabilityClass.analogInput || c = CapabilityClass.sensor ||
        c = CapabilityClass.powerMonitor || c = CapabilityClass.locationProvider then operationFlags == describeRead
    else if c = CapabilityClass.indicatorOutput then
      operationFlags == describeSet || operationFlags == describeReadSet
    else if c = CapabilityClass.signalOutput || c = CapabilityClass.relayOutput ||
        c = CapabilityClass.localStorage || c = CapabilityClass.localProcedure then
      operationFlags == OperationFlag.describe
    else false

/-- The order of two's complement words, on the words themselves. -/
def signedOrderingKey (bits : UInt32) : UInt32 := bits ^^^ 0x80000000

def hasValidBounds (valueType : UInt8) (minimumBits maximumBits : UInt32) : Bool :=
  if valueType = ValueType.none then minimumBits == 0 && maximumBits == 0
  else if valueType = ValueType.boolean then minimumBits ≤ 1 && maximumBits ≤ 1 && minimumBits ≤ maximumBits
  else if valueType = ValueType.unsigned32 then minimumBits ≤ maximumBits
  else if valueType = ValueType.signed32 || valueType = ValueType.fixedQ1616 then
    signedOrderingKey minimumBits ≤ signedOrderingKey maximumBits
  else if valueType = ValueType.normalizedU16 || valueType = ValueType.enumU16 then
    minimumBits &&& 0xFFFF0000 == 0 && maximumBits &&& 0xFFFF0000 == 0 && minimumBits ≤ maximumBits
  else false

def hasCompatibleValueContract (operationFlags valueType : UInt8) : Bool :=
  if operationFlags &&& (OperationFlag.read ||| OperationFlag.set) != 0 then valueType != ValueType.none
  else valueType == ValueType.none

def isValidCapabilityDescriptor (d : CapabilityDescriptor) : Bool :=
  d.id != invalidCapabilityId && isKnownCapabilityClass d.capabilityClass && isKnownValueType d.valueType &&
    hasValidOperations d.capabilityClass d.operationFlags &&
    hasCompatibleValueContract d.operationFlags d.valueType &&
    hasKnownAuthorizationPolicy d.authorizationPolicyId && hasKnownSafetyPolicy d.safetyPolicyId &&
    isKnownUnitCode d.unitCode && d.metadataFlags &&& ~~~0x0001 == 0 && d.reserved == 0 &&
    hasValidBounds d.valueType d.minimumBits d.maximumBits

def Operation.requiredFlag : Operation → UInt8
  | .enumerate => 0
  | .describe => OperationFlag.describe
  | .read => OperationFlag.read
  | .set => OperationFlag.set
  | .trigger => OperationFlag.trigger
  | .runLocalProcedure => OperationFlag.runLocalProcedure

def supportsOperation (d : CapabilityDescriptor) (operation : Operation) : Bool :=
  isValidCapabilityDescriptor d && operation != .enumerate && d.operationFlags &&& operation.requiredFlag != 0

def isOperationAuthorized (d : CapabilityDescriptor) (operation : Operation) (caller : CallerClass) : Bool :=
  operation != .enumerate && operation != .describe && supportsOperation d operation &&
    hasKnownAuthorizationPolicy d.authorizationPolicyId &&
    (caller == .firmwareLocal || caller == .uiLocal || caller == .test || caller == .hostLocal)

def isOperationSafe (d : CapabilityDescriptor) (operation : Operation) (interlock : InterlockState) : Bool :=
  operation != .enumerate && operation != .describe && supportsOperation d operation &&
    hasKnownSafetyPolicy d.safetyPolicyId && (d.safetyPolicyId == 0x00 || interlock == .clear || operation == .read)

def isValueCompatible (d : CapabilityDescriptor) (value : CapabilityValue) : Bool :=
  isValidCapabilityDescriptor d && isValidCapabilityValue value && d.valueType == value.type

def isValueWithinBounds (d : CapabilityDescriptor) (value : CapabilityValue) : Bool :=
  isValueCompatible d value &&
    if value.type = ValueType.signed32 || value.type = ValueType.fixedQ1616 then
      signedOrderingKey d.minimumBits ≤ signedOrderingKey value.bits &&
        signedOrderingKey value.bits ≤ signedOrderingKey d.maximumBits
    else d.minimumBits ≤ value.bits && value.bits ≤ d.maximumBits

def isValidOperationResult (result : OperationResult) : Bool :=
  isKnownOperationStatus result.status && result.reserved == (0, 0, 0) && isValidCapabilityValue result.value &&
    (result.status == OperationStatus.ok || (result.value.type == ValueType.none && result.value.bits == 0))

def isCanonicalNoneValue (value : CapabilityValue) : Bool :=
  isValidCapabilityValue value && value.type == ValueType.none

def makeCanonicalFailureResult (status : UInt8) : OperationResult := ⟨status, (0, 0, 0), default⟩

def isHandlerDispatchableOperation (operation : Operation) : Bool :=
  operation != .enumerate && operation != .describe

def isHandlerOwnedStatus (status : UInt8) : Bool :=
  status == OperationStatus.ok || status == OperationStatus.hardwareUnavailable ||
    status == OperationStatus.operationFailed || status == OperationStatus.busy

/-! ### The registry -/

def isValidCapabilityRegistry (registry : CapabilityRegistryView) : Bool :=
  if registry.count > maxCapabilities then false
  else
    match registry.descriptors with
    | none => registry.count == 0
    | some descriptors => registry.count != 0 &&
      (List.range registry.count.toNat).all fun index =>
        isValidCapabilityDescriptor (descriptors index) &&
          (List.range index).all fun previous => (descriptors previous).id != (descriptors index).id

def getCapabilityByIndex (registry : CapabilityRegistryView) (index : ℕ) : Option CapabilityDescriptor :=
  if !isValidCapabilityRegistry registry || registry.count.toNat ≤ index then none
  else registry.descriptors.map fun descriptors => descriptors index

def findCapability (registry : CapabilityRegistryView) (id : UInt16) : Option CapabilityDescriptor :=
  if id = invalidCapabilityId || !isValidCapabilityRegistry registry then none
  else registry.descriptors.bind fun descriptors =>
    ((List.range registry.count.toNat).find? fun index => (descriptors index).id == id).map descriptors

/-! ### Dispatch -/

/-- What the services ask of the device: to execute an operation, and whether a capability is available (none
when nobody can tell). -/
inductive DeviceOp
  | execute (d : CapabilityDescriptor) (operation : Operation) (input : CapabilityValue)
  | available (id : UInt16)

def DeviceOp.Reply : DeviceOp → Type
  | .execute _ _ _ => OperationResult
  | .available _ => Option Bool

abbrev DeviceM := Prog DeviceOp.Reply

def executeHandler (d : CapabilityDescriptor) (operation : Operation) (input : CapabilityValue) :
    DeviceM OperationResult := Prog.lift (DeviceOp.execute d operation input)

def queryAvailability (id : UInt16) : DeviceM (Option Bool) := Prog.lift (DeviceOp.available id)

/-- What becomes of the result of the handler. -/
def acceptedResult (d : CapabilityDescriptor) (operation : Operation) (result : OperationResult) : OperationResult :=
  if !isValidOperationResult result || !isHandlerOwnedStatus result.status then
    makeCanonicalFailureResult OperationStatus.operationFailed
  else if result.status ≠ OperationStatus.ok then result
  else if operation = .read then
    if !isValueWithinBounds d result.value then makeCanonicalFailureResult OperationStatus.operationFailed else result
  else if !isCanonicalNoneValue result.value then makeCanonicalFailureResult OperationStatus.operationFailed
  else result

def dispatchCapabilityOperation (registry : CapabilityRegistryView) (id : UInt16) (operation : Operation)
    (input : CapabilityValue) (caller : CallerClass) (interlock : InterlockState) : DeviceM OperationResult := do
  if !isValidCapabilityRegistry registry then return makeCanonicalFailureResult OperationStatus.invalidDescriptor
  match findCapability registry id with
  | none => return makeCanonicalFailureResult OperationStatus.capabilityNotFound
  | some d =>
    if !isHandlerDispatchableOperation operation || !supportsOperation d operation then
      return makeCanonicalFailureResult OperationStatus.unsupportedOperation
    if operation = .set ∧ (!isValidCapabilityValue input || input.type != d.valueType) then
      return makeCanonicalFailureResult OperationStatus.invalidValueType
    if operation = .set ∧ !isValueWithinBounds d input then
      return makeCanonicalFailureResult OperationStatus.valueOutOfRange
    if operation ≠ .set ∧ !isCanonicalNoneValue input then
      return makeCanonicalFailureResult OperationStatus.invalidValueType
    if !isOperationAuthorized d operation caller then
      return makeCanonicalFailureResult OperationStatus.unauthorized
    if !isOperationSafe d operation interlock then
      return makeCanonicalFailureResult OperationStatus.interlockActive
    let result ← executeHandler d operation input
    return acceptedResult d operation result

/-- `executeLocalCapabilityNow`: a registry that was found invalid at start is taken for one. -/
def executeLocalCapabilityNow (registryValid : Bool) (registry : CapabilityRegistryView) (id : UInt16)
    (operation : Operation) (input : CapabilityValue) (caller : CallerClass) (interlock : InterlockState) :
    DeviceM OperationResult :=
  dispatchCapabilityOperation (if registryValid then registry else ⟨none, 1⟩) id operation input caller interlock

end Redline.Host
