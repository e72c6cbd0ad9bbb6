import Redline.Host.Responses
import Redline.Hub.Ledger

/-!
# The local services

What a device does with a request that is meant for itself: `host_operation_service.h` for its capabilities,
`host_device_service.h` for the device and its diagnostics, `host_event_service.h` for the Events of the Hub.
Each takes a request and makes a response of it, or says that it is none of its business.

The capability service talks to the handler of the device and the Event service to the flash under the ledger;
both are programs.
-/

namespace Redline.Host

open Redline.Wire Redline.Lib

inductive Disposition
  | notHandled | handled | rejected
  deriving DecidableEq

/-- `HostOperationService::Result`. -/
structure ServiceResult where
  disposition : Disposition
  rejectionCode : UInt8
  requestId : UInt16
  response : OperationResponse
  deriving DecidableEq

/-- The response to a request, before its result is known. -/
def makeHostResponseBase (request : OperationRequest) : OperationResponse where
  category := request.category
  operation := request.operation
  targetDeviceId := request.targetDeviceId
  targetId := request.targetId
  resultClass := 0
  resultCode := 0
  value := noneValue

def makeBaseResult (requestId : UInt16) (request : OperationRequest) : ServiceResult :=
  ⟨.notHandled, 0, requestId, makeHostResponseBase request⟩

def rejectRequest (requestId : UInt16) (request : OperationRequest) (code : UInt8) (responseIsRepresentable : Bool) :
    ServiceResult :=
  { disposition := if responseIsRepresentable then .handled else .rejected
    rejectionCode := code
    requestId
    response := { makeHostResponseBase request with resultClass := ResultClass.requestRejected, resultCode := code } }

def setOperationResult (result : ServiceResult) (status : UInt8) : ServiceResult :=
  { result with
    disposition := .handled
    response := { result.response with
      resultClass := ResultClass.operationResult, resultCode := status, value := noneValue } }

/-- A successful result with the record, or a failure when the record does not encode. -/
def setRecord (result : ServiceResult) (encoded : Except PayloadResult TypedValue) : ServiceResult :=
  let result := setOperationResult result OperationStatus.ok
  match encoded with
  | .ok value => { result with response := { result.response with value } }
  | .error _ => setOperationResult result OperationStatus.operationFailed

/-! ### Capabilities -/

def hostValueToCapabilityValue (input : TypedValue) : Option CapabilityValue :=
  if !isValidScalarValue input then none
  else
    let bits : UInt32 :=
      if input.type = ValueType.none then 0
      else if input.type = ValueType.boolean then (byteAt input.bytes 0).toUInt32
      else if input.type = ValueType.normalizedU16 ∨ input.type = ValueType.enumU16 then
        (readUint16Le input.bytes 0).toUInt32
      else readUint32Le input.bytes 0
    let candidate : CapabilityValue := ⟨input.type, (0, 0, 0), bits⟩
    if !isValidCapabilityValue candidate then none else some candidate

def capabilityValueToHostValue (input : CapabilityValue) : Option TypedValue :=
  if !isValidCapabilityValue input then none
  else if input.type = ValueType.none then some noneValue
  else if input.type = ValueType.boolean then
    if 1 < input.bits.toUInt8 then none else some ⟨ValueType.boolean, [input.bits.toUInt8]⟩
  else if input.type = ValueType.normalizedU16 ∨ input.type = ValueType.enumU16 then
    some ⟨input.type, writeUint16Le input.bits.toUInt16⟩
  else some (uint32Value input.type input.bits)

/-- A page of the registry: the identifiers from the cursor on, at most nine. -/
def capabilityPage (registry : CapabilityRegistryView) (cursor : ℕ) : Option CapabilityPageRecord :=
  let last := min registry.count.toNat (cursor + maxCapabilityPageEntries)
  let ids := (List.range' cursor (last - cursor)).mapM fun index => (getCapabilityByIndex registry index).map (·.id)
  ids.map fun ids => ⟨if last = registry.count.toNat then capabilityPageEnd else last.toUInt16, ids⟩

def handleGetCapabilities (result : ServiceResult) (request : OperationRequest) (registryValid : Bool)
    (registry : CapabilityRegistryView) : ServiceResult :=
  if !registryValid || !isValidCapabilityRegistry registry then
    setOperationResult result OperationStatus.invalidDescriptor
  else
    let cursor := if isNoneValue request.value then 0 else readUint32Le request.value.bytes 0
    if registry.count.toNat < cursor.toNat then setOperationResult result OperationStatus.valueOutOfRange
    else
      match capabilityPage registry cursor.toNat with
      | none => setOperationResult result OperationStatus.invalidDescriptor
      | some page => setRecord result (encodeCapabilityPageRecord page)

def handleDescribeCapability (result : ServiceResult) (request : OperationRequest) (registryValid : Bool)
    (registry : CapabilityRegistryView) : DeviceM ServiceResult := do
  if !registryValid || !isValidCapabilityRegistry registry then
    return setOperationResult result OperationStatus.invalidDescriptor
  match findCapability registry request.targetId with
  | none => return setOperationResult result OperationStatus.capabilityNotFound
  | some d => do
    match ← queryAvailability d.id with
    | none => return setOperationResult result OperationStatus.invalidDescriptor
    | some available =>
      return setRecord result (encodeCapabilityDescriptionRecord
        ⟨d.capabilityClass, d.valueType, d.operationFlags, d.unitCode, if available then 1 else 0, 0⟩)

/-- A SET of something that is not an indicator. -/
def setsNonIndicator (request : OperationRequest) (registryValid : Bool) (registry : CapabilityRegistryView) : Bool :=
  registryValid && isValidCapabilityRegistry registry &&
    match findCapability registry request.targetId with
    | none => false
    | some d => supportsOperation d .set && d.capabilityClass != CapabilityClass.indicatorOutput

/-- The result of a capability operation as a response. -/
def capabilityResult (result : ServiceResult) (operation : Operation) (operationResult : OperationResult) :
    ServiceResult :=
  let result := setOperationResult result operationResult.status
  if operationResult.status = OperationStatus.ok ∧ operation = .read then
    match capabilityValueToHostValue operationResult.value with
    | some value => { result with response := { result.response with value } }
    | none => setOperationResult result OperationStatus.operationFailed
  else result

def handleLocalCapability (requestId : UInt16) (request : OperationRequest) (localDeviceId : UInt8)
    (registryValid : Bool) (registry : CapabilityRegistryView) (interlock : InterlockState) :
    DeviceM ServiceResult := do
  let validation := validateOperationRequest versionMinor01 request
  if validation ≠ .ok then
    return rejectRequest requestId request
      (if validation = .unsupportedCategoryOperation then RequestRejectionCode.unsupportedOperation
        else RequestRejectionCode.malformedRequest) false
  if request.category ≠ OperationCategory.capability then return makeBaseResult requestId request
  if request.targetDeviceId ≠ localDeviceId then
    return rejectRequest requestId request RequestRejectionCode.badTarget true
  let result := { makeBaseResult requestId request with disposition := .handled }
  if request.operation = OperationCode.getCapabilities then
    return handleGetCapabilities result request registryValid registry
  if request.operation = OperationCode.describeCapability then
    return ← handleDescribeCapability result request registryValid registry
  match hostValueToCapabilityValue request.value with
  | none => return rejectRequest requestId request RequestRejectionCode.malformedRequest false
  | some input => do
    let operation : Operation := if request.operation = OperationCode.readCapability then .read else .set
    if operation = .set && setsNonIndicator request registryValid registry then
      return setOperationResult result OperationStatus.unsupportedOperation
    let operationResult ← executeLocalCapabilityNow registryValid registry request.targetId operation input .hostLocal
      interlock
    return capabilityResult result operation operationResult

/-! ### The device and its diagnostics -/

inductive DeviceRole
  | hub | node
  deriving DecidableEq, Inhabited

inductive RuntimePhase
  | idle | transmitting | waitingForAck | listening | transmittingAck | waitingForResponse | transmittingResponse
  deriving DecidableEq, Inhabited

inductive Health
  | starting | ready | degraded | error
  deriving DecidableEq, Inhabited

structure DiagnosticCounters where
  transmissionsCompleted : UInt32
  decodedPacketsReceived : UInt32
  successfulTransactions : UInt32
  acceptedCommands : UInt32
  retransmissions : UInt32
  acknowledgmentTimeouts : UInt32
  duplicates : UInt32
  malformedPackets : UInt32
  ignoredPackets : UInt32
  radioErrors : UInt32
  deriving Inhabited

/-- `EventDetailSnapshot`; the enumerations in it are bytes, and its counters a vector in the order in which
they are sent. -/
structure EventDetailSnapshot where
  txLifecycle : EventTxSnapshot
  custodyCount : UInt8
  capacity : UInt8
  activeCount : UInt8
  consumedCount : UInt8
  recordAvailable : Bool
  state : UInt8
  identity : HostEventIdentity
  family : UInt8
  attemptsUsed : UInt8
  attemptsMaximum : UInt8
  waitingForAdmission : Bool
  waitingForRetry : Bool
  remainingLifetimeAvailable : Bool
  remainingLifetimeSeconds : UInt32
  admissionOrdinalAvailable : Bool
  admissionOrdinal : UInt32
  recentAdmissionAvailable : Bool
  recentAdmission : HostEventIdentity
  persistenceDegraded : Bool
  hubUnavailable : Bool
  producerKind : UInt8
  producerResult : UInt8
  producerIdentityAvailable : Bool
  producerIdentity : HostEventIdentity
  counters : Vector UInt32 15
  deriving Inhabited

structure DeviceSnapshot where
  role : DeviceRole
  deviceId : UInt8
  ready : Bool
  phase : RuntimePhase
  health : Health
  uptimeSeconds : UInt32
  counters : DiagnosticCounters
  eventDetails : EventDetailSnapshot
  deriving Inhabited

def mapRole : DeviceRole → UInt8
  | .hub => HostDeviceRole.hub
  | .node => HostDeviceRole.node

def flagIf (condition : Bool) (flag : UInt8) : UInt8 := if condition then flag else 0

def eventDiagnosticsRecord (snapshot : DeviceSnapshot) : EventDiagnosticsRecord :=
  let source := snapshot.eventDetails
  { schema := eventDiagnosticsSchema
    role := mapRole snapshot.role
    custodyCount := source.custodyCount
    capacity := source.capacity
    activeCount := source.activeCount
    consumedCount := source.consumedCount
    recordAvailable := flagIf source.recordAvailable 1
    state := source.state
    identity := source.identity
    family := source.family
    attemptsUsed := source.attemptsUsed
    attemptsMaximum := source.attemptsMaximum
    flags := flagIf source.waitingForAdmission EventDiagnosticsFlag.waitingAdmission |||
      flagIf source.waitingForRetry EventDiagnosticsFlag.waitingRetry |||
      flagIf source.remainingLifetimeAvailable EventDiagnosticsFlag.lifetimeAvailable |||
      flagIf source.admissionOrdinalAvailable EventDiagnosticsFlag.ordinalAvailable |||
      flagIf source.persistenceDegraded EventDiagnosticsFlag.persistenceDegraded |||
      flagIf source.hubUnavailable EventDiagnosticsFlag.hubUnavailable
    remainingLifetimeSeconds := source.remainingLifetimeSeconds
    admissionOrdinal := source.admissionOrdinal
    recentAdmissionAvailable := flagIf source.recentAdmissionAvailable 1
    recentAdmission := source.recentAdmission
    producerKind := source.producerKind
    producerResult := source.producerResult
    producerIdentityAvailable := flagIf source.producerIdentityAvailable 1
    producerIdentity := source.producerIdentity
    counters := source.counters }

def saturateUint16 (value : UInt32) : UInt16 := if 0xFFFF < value then 0xFFFF else value.toUInt16

def isTransactionActive (phase : RuntimePhase) : Bool := phase != .idle && phase != .listening

def statusFlags (snapshot : DeviceSnapshot) : UInt16 :=
  (if snapshot.ready then 0x0003 else 0) ||| (if isTransactionActive snapshot.phase then 0x0004 else 0) |||
    (if snapshot.health = .degraded then 0x0008 else 0) ||| (if snapshot.health = .error then 0x0010 else 0)

def diagnosticMetricCount : ℕ := 10

/-- The metrics in the order of their numbers. -/
def diagnosticMetrics (c : DiagnosticCounters) : List UInt32 :=
  [c.transmissionsCompleted, c.decodedPacketsReceived, c.successfulTransactions, c.acceptedCommands,
    c.retransmissions, c.acknowledgmentTimeouts, c.duplicates, c.malformedPackets, c.ignoredPackets, c.radioErrors]

/-- A page of the metrics: those from the cursor on, at most three. -/
def diagnosticPage (counters : DiagnosticCounters) (cursor : ℕ) : DiagnosticPageRecord :=
  let last := min diagnosticMetricCount (cursor + maxDiagnosticPageEntries)
  { nextCursor := if last = diagnosticMetricCount then diagnosticPageEnd else last.toUInt8
    entries := (List.range' cursor (last - cursor)).map fun index =>
      ⟨(index + 1).toUInt8, (diagnosticMetrics counters).getD index 0⟩ }

def deviceInfo (snapshot : DeviceSnapshot) : DeviceInfoRecord where
  firmwareMajor := 0
  firmwareMinor := 7
  firmwarePatch := 0
  wireProtocol := version
  configurationSchema := 1
  hardwareProfile := hardwareProfileHeltecV4
  role := mapRole snapshot.role
  deviceId := snapshot.deviceId

/-- The operations on the device itself. -/
def deviceResult (result : ServiceResult) (request : OperationRequest) (snapshot : DeviceSnapshot) : ServiceResult :=
  if request.operation = OperationCode.ping then
    let result := setOperationResult result OperationStatus.ok
    { result with response :=
      { result.response with value := uint32Value ValueType.unsigned32 snapshot.uptimeSeconds } }
  else if request.operation = OperationCode.getDeviceInfo then
    setRecord result (encodeDeviceInfoRecord (deviceInfo snapshot))
  else if request.operation = OperationCode.getStatus then
    setRecord result (encodeStatusRecord ⟨statusFlags snapshot, snapshot.uptimeSeconds,
      saturateUint16 snapshot.counters.retransmissions, saturateUint16 snapshot.counters.acknowledgmentTimeouts⟩)
  else if request.operation = OperationCode.getEventDiagnostics then
    if !isNoneValue request.value then
      setRecord result (encodeEventTxDiagnostics (mapRole snapshot.role) snapshot.eventDetails.txLifecycle)
    else setRecord result (encodeEventDiagnosticsRecord (eventDiagnosticsRecord snapshot))
  else
    let cursor := if isNoneValue request.value then 0 else readUint32Le request.value.bytes 0
    if diagnosticMetricCount < cursor.toNat then setOperationResult result OperationStatus.valueOutOfRange
    else setRecord result (encodeDiagnosticPageRecord (diagnosticPage snapshot.counters cursor.toNat))

def handleLocalDeviceOrDiagnostic (requestId : UInt16) (request : OperationRequest) (snapshot : DeviceSnapshot)
    (requestMinor : UInt8) : ServiceResult :=
  let validation := validateOperationRequest requestMinor request
  if validation ≠ .ok then
    rejectRequest requestId request
      (if validation = .unsupportedCategoryOperation then RequestRejectionCode.unsupportedOperation
        else RequestRejectionCode.malformedRequest) false
  else if request.category ≠ OperationCategory.device ∧ request.category ≠ OperationCategory.diagnostic then
    makeBaseResult requestId request
  else if request.targetDeviceId ≠ snapshot.deviceId then
    rejectRequest requestId request RequestRejectionCode.badTarget true
  else deviceResult (makeBaseResult requestId request) request snapshot

def handleLocalOperation (requestId : UInt16) (request : OperationRequest) (snapshot : DeviceSnapshot)
    (registryValid : Bool) (registry : CapabilityRegistryView) (interlock : InterlockState) (requestMinor : UInt8) :
    DeviceM ServiceResult :=
  if request.category = OperationCategory.capability then
    handleLocalCapability requestId request snapshot.deviceId registryValid registry interlock
  else return handleLocalDeviceOrDiagnostic requestId request snapshot requestMinor

/-! ### Events -/

namespace EventService

open Redline.Records Redline.Hub

def setSuccess (result : ServiceResult) (value : TypedValue) : ServiceResult :=
  { result with response :=
    { result.response with resultClass := ResultClass.success, resultCode := successOk, value } }

def setEventFailure (result : ServiceResult) (code : UInt8) : ServiceResult :=
  { result with response :=
    { result.response with resultClass := ResultClass.eventResult, resultCode := code, value := noneValue } }

/-- The record of an ACTIVE Event as the Host sees it. -/
def convert (source : HubRecord) : Option HostEventRecord :=
  if source.state ≠ .active then none
  else
    let candidate : HostEventRecord :=
      { available := 1
        sourceDeviceId := source.sourceDeviceId
        family := source.family
        flags := source.flags
        eventEpoch := source.eventEpoch
        eventId := source.eventId
        lifetimeBudgetSeconds := source.lifetimeBudgetSeconds
        bodyLength := source.bodyLength
        body := bodyOf (source.body.toList.take source.bodyLength.toNat) }
    if !isValidHostEventRecord candidate then none else some candidate

def pollResult (result : ServiceResult) (event : HostEventRecord) : ServiceResult :=
  match encodeHostEventRecord event with
  | .error _ => setEventFailure result EventResultCode.storageFailure
  | .ok bytes => setSuccess result ⟨structureValueType, bytes⟩

def poll (l : Ledger) (result : ServiceResult) : ServiceResult :=
  match l.oldestActive with
  | none => pollResult result default
  | some (_, record) =>
    match convert record with
    | none => setEventFailure result EventResultCode.storageFailure
    | some event => pollResult result event

def consume (l : Ledger) (result : ServiceResult) (request : OperationRequest) :
    StorageM (Ledger × ServiceResult) :=
  match decodeHostEventIdentity request.value.bytes with
  | .error _ =>
    return (l, rejectRequest result.requestId request RequestRejectionCode.malformedRequest true)
  | .ok identity => do
    let (l, consumed) ← l.consume ⟨identity.sourceDeviceId, identity.eventEpoch, identity.eventId⟩
    match consumed.status with
    | .consumed | .alreadyConsumed => return (l, setSuccess result noneValue)
    | .notFound => return (l, setEventFailure result EventResultCode.notFound)
    | .storageFailure | .degraded => return (l, setEventFailure result EventResultCode.storageFailure)

def handle (l : Ledger) (requestId : UInt16) (request : OperationRequest) (role : DeviceRole)
    (localDeviceId : UInt8) : StorageM (Ledger × ServiceResult) :=
  if request.category ≠ OperationCategory.event then return (l, makeBaseResult requestId request)
  else if role ≠ .hub then
    return (l, rejectRequest requestId request RequestRejectionCode.unsupportedOperation true)
  else if request.targetDeviceId ≠ localDeviceId then
    return (l, rejectRequest requestId request RequestRejectionCode.badTarget true)
  else if validateOperationRequest versionMinor02 request ≠ .ok then
    return (l, rejectRequest requestId request RequestRejectionCode.malformedRequest true)
  else
    let result := { makeBaseResult requestId request with disposition := .handled }
    if !l.ledgerHealthy then return (l, setEventFailure result EventResultCode.storageFailure)
    else if request.operation = OperationCode.pollEvents then return (l, poll l result)
    else if request.operation = OperationCode.consumeEvent then consume l result request
    else return (l, rejectRequest requestId request RequestRejectionCode.unsupportedOperation true)

end EventService

end Redline.Host
