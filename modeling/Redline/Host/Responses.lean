import Redline.Host.Messages

/-!
# Responses of the Host protocol

The second half of `host_protocol_messages.h`: the fixed records a response may carry, and the checks a response
has to pass before it is encoded.  The value of a successful result has to be a scalar or a record of the shape
that belongs to the operation; every other result carries no value.
-/

namespace Redline.Host

open Redline.Wire

namespace HostDeviceRole
def hub : UInt8 := 0x01
def node : UInt8 := 0x02
end HostDeviceRole

def hardwareProfileHeltecV4 : UInt8 := 0x01

def isKnownHardwareProfile (profile : UInt8) : Bool := profile == hardwareProfileHeltecV4

def isKnownDeviceRole (role : UInt8) : Bool := role == HostDeviceRole.hub || role == HostDeviceRole.node

def deviceInfoSize : ℕ := 8
def statusSize : ℕ := 10
def capabilityDescriptionSize : ℕ := 6
def maxCapabilityPageEntries : ℕ := 9
def maxDiagnosticPageEntries : ℕ := 3
def capabilityPageEnd : UInt16 := 0xFFFF
def diagnosticPageEnd : UInt8 := 0xFF
def eventDiagnosticsRecordSize : ℕ := 111
def eventDiagnosticsSchema : UInt8 := 1
def eventTxDiagnosticsSchema : UInt8 := 2
def eventTxDiagnosticsSize : ℕ := 99
def reservedStatusFlags : UInt16 := 0xFFE0

namespace EventDiagnosticsFlag
def waitingAdmission : UInt8 := 0x01
def waitingRetry : UInt8 := 0x02
def lifetimeAvailable : UInt8 := 0x04
def ordinalAvailable : UInt8 := 0x08
def persistenceDegraded : UInt8 := 0x10
def hubUnavailable : UInt8 := 0x20
def known : UInt8 := 0x3F
end EventDiagnosticsFlag

/-! ### Event diagnostics -/

structure EventDiagnosticsRecord where
  schema : UInt8
  role : UInt8
  custodyCount : UInt8
  capacity : UInt8
  activeCount : UInt8
  consumedCount : UInt8
  recordAvailable : UInt8
  state : UInt8
  identity : HostEventIdentity
  family : UInt8
  attemptsUsed : UInt8
  attemptsMaximum : UInt8
  flags : UInt8
  remainingLifetimeSeconds : UInt32
  admissionOrdinal : UInt32
  recentAdmissionAvailable : UInt8
  recentAdmission : HostEventIdentity
  producerKind : UInt8
  producerResult : UInt8
  producerIdentityAvailable : UInt8
  producerIdentity : HostEventIdentity
  counters : Vector UInt32 15

def isValidEventDiagnosticsRecord (r : EventDiagnosticsRecord) : Bool :=
  if r.schema ≠ eventDiagnosticsSchema || !isKnownDeviceRole r.role || 8 < r.capacity ||
      r.capacity < r.custodyCount || r.capacity < r.activeCount || r.capacity < r.consumedCount ||
      r.capacity.toNat < r.activeCount.toNat + r.consumedCount.toNat || 1 < r.recordAvailable ||
      1 < r.recentAdmissionAvailable || 1 < r.producerIdentityAvailable || 11 < r.state || 3 < r.producerKind ||
      5 < r.producerResult || r.flags &&& ~~~EventDiagnosticsFlag.known != 0 then false
  else if r.recordAvailable = 1 ∧ (!isValidHostEventIdentity r.identity || !isRegisteredFamily r.family) then false
  else if r.recordAvailable ≠ 1 ∧ (!isZeroHostEventIdentity r.identity || r.family != 0 || r.attemptsUsed != 0 ||
      r.attemptsMaximum != 0 ||
      r.flags &&& (EventDiagnosticsFlag.lifetimeAvailable ||| EventDiagnosticsFlag.ordinalAvailable) != 0 ||
      r.remainingLifetimeSeconds != 0 || r.admissionOrdinal != 0) then false
  else if r.attemptsMaximum < r.attemptsUsed ||
      (r.flags &&& EventDiagnosticsFlag.lifetimeAvailable == 0 && r.remainingLifetimeSeconds != 0) ||
      (r.flags &&& EventDiagnosticsFlag.ordinalAvailable == 0 && r.admissionOrdinal != 0) then false
  else if r.recentAdmissionAvailable = 1 ∧ !isValidHostEventIdentity r.recentAdmission then false
  else if r.recentAdmissionAvailable ≠ 1 ∧ !isZeroHostEventIdentity r.recentAdmission then false
  else if r.producerIdentityAvailable = 1 ∧
      (!isValidHostEventIdentity r.producerIdentity || r.producerResult != 1) then false
  else if r.producerIdentityAvailable ≠ 1 ∧ !isZeroHostEventIdentity r.producerIdentity then false
  else true

def identityBytes (identity : HostEventIdentity) : Bytes :=
  [identity.sourceDeviceId] ++ writeUint32Le identity.eventEpoch ++ writeUint32Le identity.eventId

/-- The 51 bytes in front of the counters. -/
def eventDiagnosticsHead (r : EventDiagnosticsRecord) : Bytes :=
  [r.schema, r.role, r.custodyCount, r.capacity, r.activeCount, r.consumedCount, r.recordAvailable, r.state] ++
    identityBytes r.identity ++ [r.family, r.attemptsUsed, r.attemptsMaximum, r.flags] ++
    writeUint32Le r.remainingLifetimeSeconds ++ writeUint32Le r.admissionOrdinal ++ [r.recentAdmissionAvailable] ++
    identityBytes r.recentAdmission ++ [r.producerKind, r.producerResult, r.producerIdentityAvailable] ++
    identityBytes r.producerIdentity

def encodeEventDiagnosticsRecord (r : EventDiagnosticsRecord) : Except PayloadResult TypedValue :=
  if !isValidEventDiagnosticsRecord r then .error .invalidValue
  else .ok ⟨structureValueType, eventDiagnosticsHead r ++ r.counters.toList.flatMap writeUint32Le⟩

def readIdentity (input : Bytes) (offset : ℕ) : HostEventIdentity :=
  ⟨byteAt input offset, readUint32Le input (offset + 1), readUint32Le input (offset + 5)⟩

def decodeEventDiagnosticsRecord (value : TypedValue) : Except PayloadResult EventDiagnosticsRecord :=
  if value.type ≠ structureValueType ∨ value.bytes.length ≠ eventDiagnosticsRecordSize then .error .invalidValue
  else
    let input := value.bytes
    let candidate : EventDiagnosticsRecord :=
      { schema := byteAt input 0, role := byteAt input 1, custodyCount := byteAt input 2, capacity := byteAt input 3
        activeCount := byteAt input 4, consumedCount := byteAt input 5, recordAvailable := byteAt input 6
        state := byteAt input 7, identity := readIdentity input 8, family := byteAt input 17
        attemptsUsed := byteAt input 18, attemptsMaximum := byteAt input 19, flags := byteAt input 20
        remainingLifetimeSeconds := readUint32Le input 21, admissionOrdinal := readUint32Le input 25
        recentAdmissionAvailable := byteAt input 29, recentAdmission := readIdentity input 30
        producerKind := byteAt input 39, producerResult := byteAt input 40
        producerIdentityAvailable := byteAt input 41, producerIdentity := readIdentity input 42
        counters := Vector.ofFn fun i => readUint32Le input (51 + 4 * i) }
    if !isValidEventDiagnosticsRecord candidate then .error .invalidValue else .ok candidate

/-! ### Event transmission diagnostics -/

/-- `EventTxDiagnostics::Snapshot`; `startResult` is kept as its sixteen bits. -/
structure EventTxSnapshot where
  available : Bool
  lastStep : UInt8
  controllerState : UInt8
  radioOwner : UInt8
  attempt : UInt8
  source : UInt8
  epoch : UInt32
  id : UInt32
  lastAt : UInt32
  startAt : UInt32
  completedAt : UInt32
  previousClock : UInt32
  inputClock : UInt32
  startResult : UInt16
  admissionStatus : UInt8
  counters : Vector UInt16 30
  deriving Inhabited

def validEventTxDiagnostics (role : UInt8) (s : EventTxSnapshot) : Bool :=
  if !isKnownDeviceRole role || (role == HostDeviceRole.hub && s.available) || 30 < s.lastStep ||
      8 < s.controllerState || 6 < s.radioOwner || 5 < s.attempt ||
      (s.admissionStatus != 0xFF && 4 < s.admissionStatus) then false
  else
    let identity : HostEventIdentity := ⟨s.source, s.epoch, s.id⟩
    if s.attempt ≠ 0 ∧ !isValidHostEventIdentity identity then false
    else if s.attempt = 0 ∧ !isZeroHostEventIdentity identity then false
    else if !s.available then
      s.lastStep == 0 && s.controllerState == 0 && s.radioOwner == 0 && s.attempt == 0 && s.lastAt == 0 &&
        s.startAt == 0 && s.completedAt == 0 && s.previousClock == 0 && s.inputClock == 0 && s.startResult == 0 &&
        s.admissionStatus == 0xFF && s.counters.toList.all (· == 0)
    else true

/-- The 39 bytes in front of the counters. -/
def eventTxHead (role : UInt8) (s : EventTxSnapshot) : Bytes :=
  [eventTxDiagnosticsSchema, role, if s.available then 1 else 0, s.lastStep, s.controllerState, s.radioOwner,
      s.attempt, s.source] ++
    writeUint32Le s.epoch ++ writeUint32Le s.id ++ writeUint32Le s.lastAt ++ writeUint32Le s.startAt ++
    writeUint32Le s.completedAt ++ writeUint32Le s.previousClock ++ writeUint32Le s.inputClock ++
    writeUint16Le s.startResult ++ [s.admissionStatus]

def encodeEventTxDiagnostics (role : UInt8) (s : EventTxSnapshot) : Except PayloadResult TypedValue :=
  if !validEventTxDiagnostics role s then .error .invalidValue
  else .ok ⟨structureValueType, eventTxHead role s ++ s.counters.toList.flatMap writeUint16Le⟩

def decodeEventTxDiagnostics (value : TypedValue) : Except PayloadResult (UInt8 × EventTxSnapshot) :=
  if value.type ≠ structureValueType ∨ value.bytes.length ≠ eventTxDiagnosticsSize ∨
      byteAt value.bytes 0 ≠ eventTxDiagnosticsSchema ∨ 1 < byteAt value.bytes 2 then .error .invalidValue
  else
    let b := value.bytes
    let s : EventTxSnapshot :=
      { available := byteAt b 2 != 0, lastStep := byteAt b 3, controllerState := byteAt b 4
        radioOwner := byteAt b 5, attempt := byteAt b 6, source := byteAt b 7, epoch := readUint32Le b 8
        id := readUint32Le b 12, lastAt := readUint32Le b 16, startAt := readUint32Le b 20
        completedAt := readUint32Le b 24, previousClock := readUint32Le b 28, inputClock := readUint32Le b 32
        startResult := readUint16Le b 36, admissionStatus := byteAt b 38
        counters := Vector.ofFn fun i => readUint16Le b (39 + 2 * i) }
    if !validEventTxDiagnostics (byteAt b 1) s then .error .invalidValue else .ok (byteAt b 1, s)

/-! ### The other records -/

structure DeviceInfoRecord where
  firmwareMajor : UInt8
  firmwareMinor : UInt8
  firmwarePatch : UInt8
  wireProtocol : UInt8
  configurationSchema : UInt8
  hardwareProfile : UInt8
  role : UInt8
  deviceId : UInt8

def encodeDeviceInfoRecord (r : DeviceInfoRecord) : Except PayloadResult TypedValue :=
  if !isKnownHardwareProfile r.hardwareProfile || !isKnownDeviceRole r.role then .error .invalidField
  else .ok ⟨structureValueType, [r.firmwareMajor, r.firmwareMinor, r.firmwarePatch, r.wireProtocol,
    r.configurationSchema, r.hardwareProfile, r.role, r.deviceId]⟩

structure StatusRecord where
  statusFlags : UInt16
  uptimeSeconds : UInt32
  retryCount : UInt16
  timeoutCount : UInt16

def encodeStatusRecord (r : StatusRecord) : Except PayloadResult TypedValue :=
  if r.statusFlags &&& reservedStatusFlags ≠ 0 then .error .invalidField
  else .ok ⟨structureValueType, writeUint16Le r.statusFlags ++ writeUint32Le r.uptimeSeconds ++
    writeUint16Le r.retryCount ++ writeUint16Le r.timeoutCount⟩

/-- The page of the source has room for nine identifiers and counts them; here they are a list. -/
structure CapabilityPageRecord where
  nextCursor : UInt16
  capabilityIds : List UInt16

def encodeCapabilityPageRecord (r : CapabilityPageRecord) : Except PayloadResult TypedValue :=
  if maxCapabilityPageEntries < r.capabilityIds.length then .error .invalidField
  else if r.capabilityIds.any (· == invalidCapabilityId) then .error .invalidField
  else .ok ⟨structureValueType, writeUint16Le r.nextCursor ++ [r.capabilityIds.length.toUInt8] ++
    r.capabilityIds.flatMap writeUint16Le⟩

def decodeCapabilityPageRecord (value : TypedValue) : Except PayloadResult CapabilityPageRecord :=
  let bytes := value.bytes
  if value.type ≠ structureValueType ∨ bytes.length < 3 ∨ 21 < bytes.length ∨ (bytes.length - 3) % 2 ≠ 0 then
    .error .invalidValue
  else
    let count := (byteAt bytes 2).toNat
    if maxCapabilityPageEntries < count ∨ bytes.length ≠ 3 + 2 * count then .error .invalidField
    else
      let capabilityIds := (List.range count).map fun index => readUint16Le bytes (3 + 2 * index)
      if capabilityIds.any (· == invalidCapabilityId) then .error .invalidField
      else .ok ⟨readUint16Le bytes 0, capabilityIds⟩

structure CapabilityDescriptionRecord where
  capabilityClass : UInt8
  valueType : UInt8
  operationFlags : UInt8
  unit : UInt8
  availability : UInt8
  reserved : UInt8

def encodeCapabilityDescriptionRecord (r : CapabilityDescriptionRecord) : Except PayloadResult TypedValue :=
  if !isKnownCapabilityClass r.capabilityClass || !isKnownValueType r.valueType ||
      !hasKnownOperationFlags r.operationFlags || !isKnownUnitCode r.unit || 1 < r.availability || r.reserved != 0 then
    .error .invalidField
  else .ok ⟨structureValueType, [r.capabilityClass, r.valueType, r.operationFlags, r.unit, r.availability, r.reserved]⟩

structure DiagnosticEntry where
  metricId : UInt8
  value : UInt32

structure DiagnosticPageRecord where
  nextCursor : UInt8
  entries : List DiagnosticEntry

def encodeDiagnosticPageRecord (r : DiagnosticPageRecord) : Except PayloadResult TypedValue :=
  if maxDiagnosticPageEntries < r.entries.length then .error .invalidField
  else .ok ⟨structureValueType, [r.nextCursor, r.entries.length.toUInt8] ++
    r.entries.flatMap fun e => e.metricId :: writeUint32Le e.value⟩

def decodeDiagnosticPageRecord (value : TypedValue) : Except PayloadResult DiagnosticPageRecord :=
  let bytes := value.bytes
  if value.type ≠ structureValueType ∨ bytes.length < 2 ∨ 17 < bytes.length ∨ (bytes.length - 2) % 5 ≠ 0 then
    .error .invalidValue
  else
    let count := (byteAt bytes 1).toNat
    if maxDiagnosticPageEntries < count ∨ bytes.length ≠ 2 + 5 * count then .error .invalidField
    else
      .ok ⟨byteAt bytes 0, (List.range count).map fun index =>
        ⟨byteAt bytes (2 + 5 * index), readUint32Le bytes (3 + 5 * index)⟩⟩

/-! ### The response -/

structure OperationResponse where
  category : UInt8
  operation : UInt8
  targetDeviceId : UInt8
  targetId : UInt16
  resultClass : UInt8
  resultCode : UInt8
  value : TypedValue
  deriving DecidableEq

instance : Inhabited OperationResponse := ⟨⟨0, 0, 0, 0, 0, 0, default⟩⟩

def isValidStructureLength (operation : UInt8) (length : ℕ) : Bool :=
  if operation = OperationCode.getDeviceInfo then length == deviceInfoSize
  else if operation = OperationCode.getStatus then length == statusSize
  else if operation = OperationCode.getCapabilities then 3 ≤ length && length ≤ 21 && (length - 3) % 2 == 0
  else if operation = OperationCode.describeCapability then length == capabilityDescriptionSize
  else if operation = OperationCode.getDiagnostics then 2 ≤ length && length ≤ 17 && (length - 2) % 5 == 0
  else if operation = OperationCode.pollEvents then length == hostEventRecordSize
  else if operation = OperationCode.getEventDiagnostics then
    length == eventDiagnosticsRecordSize || length == eventTxDiagnosticsSize
  else false

/-- The fields of a record of the right length. -/
def hasValidStructureFields (operation : UInt8) (value : TypedValue) : Bool :=
  let bytes := value.bytes
  if operation = OperationCode.getDeviceInfo then
    isKnownHardwareProfile (byteAt bytes 5) && isKnownDeviceRole (byteAt bytes 6)
  else if operation = OperationCode.getStatus then readUint16Le bytes 0 &&& reservedStatusFlags == 0
  else if operation = OperationCode.getCapabilities then
    let count := (byteAt bytes 2).toNat
    count ≤ maxCapabilityPageEntries && bytes.length == 3 + 2 * count &&
      (List.range count).all fun index => readUint16Le bytes (3 + 2 * index) != invalidCapabilityId
  else if operation = OperationCode.describeCapability then
    isKnownCapabilityClass (byteAt bytes 0) && isKnownValueType (byteAt bytes 1) &&
      hasKnownOperationFlags (byteAt bytes 2) && isKnownUnitCode (byteAt bytes 3) && byteAt bytes 4 ≤ 1 &&
      byteAt bytes 5 == 0
  else if operation = OperationCode.getDiagnostics then
    let count := (byteAt bytes 1).toNat
    count ≤ maxDiagnosticPageEntries && bytes.length == 2 + 5 * count
  else if operation = OperationCode.pollEvents then (decodeHostEventRecord bytes).toBool
  else if operation = OperationCode.getEventDiagnostics then
    if bytes.length = eventTxDiagnosticsSize then (decodeEventTxDiagnostics value).toBool
    else (decodeEventDiagnosticsRecord value).toBool
  else false

def isValidStructureValue (operation : UInt8) (value : TypedValue) : Bool :=
  value.type == structureValueType && isValidStructureLength operation value.bytes.length &&
    hasValidStructureFields operation value

def isValidSuccessfulOperationValue (operation : UInt8) (value : TypedValue) : Bool :=
  if operation = OperationCode.ping then value.type == ValueType.unsigned32 && isValidScalarValue value
  else if operation = OperationCode.getDeviceInfo ∨ operation = OperationCode.getStatus ∨
      operation = OperationCode.getCapabilities ∨ operation = OperationCode.describeCapability ∨
      operation = OperationCode.getDiagnostics ∨ operation = OperationCode.getEventDiagnostics then
    isValidStructureValue operation value
  else if operation = OperationCode.readCapability then isNonNoneScalarValue value
  else if operation = OperationCode.setIndicator then isNoneValue value
  else if operation = OperationCode.runProcedure then isValidScalarValue value
  else false

/-- The checks on the value, once category, operation, target and result are known to fit. -/
def validateResponseValue (response : OperationResponse) : PayloadResult :=
  if response.resultClass = ResultClass.eventResult then
    if response.category ≠ OperationCategory.event then .invalidResultClass
    else if (response.resultCode = EventResultCode.notFound ∧ response.operation ≠ OperationCode.consumeEvent) ∨
        (response.resultCode = EventResultCode.storageFailure ∧ response.operation ≠ OperationCode.pollEvents ∧
          response.operation ≠ OperationCode.consumeEvent) then .invalidResultCode
    else if isNoneValue response.value then .ok else .invalidResponseValue
  else if response.category = OperationCategory.event then
    if response.resultClass = ResultClass.success ∧ response.resultCode = successOk then
      if response.operation = OperationCode.pollEvents then
        if isValidStructureValue response.operation response.value then .ok else .invalidResponseValue
      else if isNoneValue response.value then .ok else .invalidResponseValue
    else if response.resultClass == ResultClass.requestRejected && isNoneValue response.value then .ok
    else .invalidResponseValue
  else if response.resultClass = ResultClass.operationResult ∧ response.resultCode = OperationStatus.ok then
    if isValidSuccessfulOperationValue response.operation response.value then .ok else .invalidResponseValue
  else if isNoneValue response.value then .ok else .invalidResponseValue

def validateOperationResponse (minor : UInt8) (response : OperationResponse) : PayloadResult :=
  match classifyCategoryOperation minor response.category response.operation with
  | .malformed =>
    if !isKnownOperationCategoryAt minor response.category then .unknownCategory else .unknownOperation
  | .unsupported => .unsupportedCategoryOperation
  | .valid =>
    if !isValidOperationTarget response.category response.operation response.targetId then .invalidTarget
    else if !isKnownResultClassAt minor response.resultClass then .invalidResultClass
    else if !isValidResultCode response.resultClass response.resultCode then .invalidResultCode
    else validateResponseValue response

def operationResponseFixedSize : ℕ := 9

def encodeOperationResponse (minor : UInt8) (response : OperationResponse) : Except PayloadResult Bytes :=
  if validateOperationResponse minor response ≠ .ok then .error (validateOperationResponse minor response)
  else if maxPayloadSize < operationResponseFixedSize + response.value.bytes.length then .error .invalidLength
  else .ok ([response.category, response.operation, response.targetDeviceId] ++ writeUint16Le response.targetId ++
    [response.resultClass, response.resultCode, response.value.type, response.value.bytes.length.toUInt8] ++
    response.value.bytes)

def decodeOperationResponse (minor : UInt8) (input : Bytes) : Except PayloadResult OperationResponse :=
  if input.length < operationResponseFixedSize ∨ maxPayloadSize < input.length then .error .invalidLength
  else if input.length ≠ operationResponseFixedSize + (byteAt input 8).toNat then .error .invalidLength
  else
    let candidate : OperationResponse :=
      { category := byteAt input 0, operation := byteAt input 1, targetDeviceId := byteAt input 2
        targetId := readUint16Le input 3, resultClass := byteAt input 5, resultCode := byteAt input 6
        value := ⟨byteAt input 7, input.drop operationResponseFixedSize⟩ }
    if candidate.value.type ≠ structureValueType ∧ !isValidScalarValue candidate.value then
      .error (if !isKnownHostValueType candidate.value.type then .invalidValueType else .invalidValue)
    else if validateOperationResponse minor candidate ≠ .ok then .error (validateOperationResponse minor candidate)
    else .ok candidate

/-! ### Protocol errors -/

namespace ProtocolErrorCode
def unsupportedMajor : UInt8 := 0x01
def unsupportedMinor : UInt8 := 0x02
def unsupportedMessageType : UInt8 := 0x03
def unsupportedFlags : UInt8 := 0x04
def malformedPayload : UInt8 := 0x05
def invalidRequestId : UInt8 := 0x06
end ProtocolErrorCode

structure ProtocolError where
  errorCode : UInt8
  offendingType : UInt8
  detail : UInt16

def isKnownProtocolError (error : UInt8) : Bool :=
  ProtocolErrorCode.unsupportedMajor ≤ error && error ≤ ProtocolErrorCode.invalidRequestId

def encodeProtocolError (error : ProtocolError) : Except PayloadResult Bytes :=
  if !isKnownProtocolError error.errorCode || error.detail != 0 then .error .invalidField
  else .ok ([error.errorCode, error.offendingType] ++ writeUint16Le error.detail)

end Redline.Host
