import Redline.Host.Capabilities
import Redline.Host.Frame
import Redline.Wire.Event

/-!
# Messages of the Host protocol

`host_protocol_messages.h`: the requests and responses that travel as payloads of frames, the values they carry
and the fixed records inside the values.  `decodeOperationRequest` is what a payload has to pass to be a request
at a minor version, and `encodeOperationResponse` what a response has to pass to be sent.

Values are a type and the bytes of the array up to the length; the bytes behind them are zero in the source.
-/

namespace Redline.Host

open Redline.Wire

def structureValueType : UInt8 := 0x7F

namespace OperationCategory
def device : UInt8 := 0x01
def capability : UInt8 := 0x02
def procedure : UInt8 := 0x03
def diagnostic : UInt8 := 0x04
def event : UInt8 := 0x05
end OperationCategory

namespace OperationCode
def ping : UInt8 := 0x20
def getDeviceInfo : UInt8 := 0x21
def getStatus : UInt8 := 0x22
def getCapabilities : UInt8 := 0x23
def describeCapability : UInt8 := 0x24
def readCapability : UInt8 := 0x25
def setIndicator : UInt8 := 0x26
def runProcedure : UInt8 := 0x27
def getDiagnostics : UInt8 := 0x28
def pollEvents : UInt8 := 0x29
def consumeEvent : UInt8 := 0x2A
def getEventDiagnostics : UInt8 := 0x2B
end OperationCode

namespace ResultClass
def success : UInt8 := 0x00
def requestRejected : UInt8 := 0x01
def operationResult : UInt8 := 0x02
def radioResult : UInt8 := 0x03
def localRuntimeResult : UInt8 := 0x04
def eventResult : UInt8 := 0x05
end ResultClass

def successOk : UInt8 := 0x00

namespace RequestRejectionCode
def malformedRequest : UInt8 := 0x01
def unsupportedOperation : UInt8 := 0x02
def badTarget : UInt8 := 0x03
def busy : UInt8 := 0x04
def mismatch : UInt8 := 0x08
end RequestRejectionCode

namespace RadioResultCode
def timeout : UInt8 := 0x06
def remoteRejected : UInt8 := 0x07
def mismatch : UInt8 := 0x08
end RadioResultCode

namespace LocalRuntimeResultCode
def busy : UInt8 := 0x04
def operationFailed : UInt8 := 0x0A
end LocalRuntimeResultCode

namespace EventResultCode
def notFound : UInt8 := 0x01
def storageFailure : UInt8 := 0x02
end EventResultCode

inductive PayloadResult
  | ok | invalidLength | invalidField | unknownCategory | unknownOperation | unsupportedCategoryOperation
  | invalidTarget | invalidValueType | invalidValue | invalidResultClass | invalidResultCode | invalidResponseValue
  deriving DecidableEq

/-! ### Vocabulary of the minor versions -/

def isKnownOperationCategory (category : UInt8) : Bool :=
  category == OperationCategory.device || category == OperationCategory.capability ||
    category == OperationCategory.procedure || category == OperationCategory.diagnostic

def isKnownOperationCode (operation : UInt8) : Bool :=
  OperationCode.ping ≤ operation && operation ≤ OperationCode.getDiagnostics

def isKnownOperationCategoryAt (minor category : UInt8) : Bool :=
  isKnownOperationCategory category || (minor == versionMinor02 && category == OperationCategory.event)

def isKnownOperationCodeAt (minor operation : UInt8) : Bool :=
  isKnownOperationCode operation || (minor == versionMinor02 &&
    (operation == OperationCode.pollEvents || operation == OperationCode.consumeEvent ||
      operation == OperationCode.getEventDiagnostics))

def isSupportedCategoryOperation (category operation : UInt8) : Bool :=
  if category = OperationCategory.device then
    operation == OperationCode.ping || operation == OperationCode.getDeviceInfo || operation == OperationCode.getStatus
  else if category = OperationCategory.capability then
    operation == OperationCode.getCapabilities || operation == OperationCode.describeCapability ||
      operation == OperationCode.readCapability || operation == OperationCode.setIndicator
  else if category = OperationCategory.procedure then operation == OperationCode.runProcedure
  else if category = OperationCategory.diagnostic then operation == OperationCode.getDiagnostics
  else false

def isSupportedCategoryOperationAt (minor category operation : UInt8) : Bool :=
  if minor = versionMinor02 ∧ category = OperationCategory.event then
    operation == OperationCode.pollEvents || operation == OperationCode.consumeEvent
  else if minor = versionMinor02 ∧ category = OperationCategory.diagnostic ∧
      operation = OperationCode.getEventDiagnostics then true
  else isKnownOperationCategoryAt minor category && isKnownOperationCodeAt minor operation &&
    isSupportedCategoryOperation category operation

def isKnownResultClassAt (minor resultClass : UInt8) : Bool :=
  resultClass ≤ ResultClass.localRuntimeResult || (minor == versionMinor02 && resultClass == ResultClass.eventResult)

def isValidResultCode (resultClass code : UInt8) : Bool :=
  if resultClass = ResultClass.success then code == successOk
  else if resultClass = ResultClass.requestRejected then
    code == RequestRejectionCode.malformedRequest || code == RequestRejectionCode.unsupportedOperation ||
      code == RequestRejectionCode.badTarget || code == RequestRejectionCode.busy ||
      code == RequestRejectionCode.mismatch
  else if resultClass = ResultClass.operationResult then isKnownOperationStatus code
  else if resultClass = ResultClass.radioResult then
    code == RadioResultCode.timeout || code == RadioResultCode.remoteRejected || code == RadioResultCode.mismatch
  else if resultClass = ResultClass.localRuntimeResult then
    code == LocalRuntimeResultCode.busy || code == LocalRuntimeResultCode.operationFailed
  else if resultClass = ResultClass.eventResult then
    code == EventResultCode.notFound || code == EventResultCode.storageFailure
  else false

inductive OperationClassification
  | valid | malformed | unsupported
  deriving DecidableEq

def classifyCategoryOperation (minor category operation : UInt8) : OperationClassification :=
  if !isKnownOperationCategoryAt minor category || !isKnownOperationCodeAt minor operation then .malformed
  else if isSupportedCategoryOperationAt minor category operation then .valid
  else .unsupported

/-! ### Values -/

structure TypedValue where
  type : UInt8
  bytes : Bytes
  deriving DecidableEq

instance : Inhabited TypedValue := ⟨⟨0, []⟩⟩

def expectedScalarValueLength (type : UInt8) : ℕ :=
  if type = ValueType.none then 0
  else if type = ValueType.boolean then 1
  else if type = ValueType.normalizedU16 ∨ type = ValueType.enumU16 then 2
  else if type = ValueType.unsigned32 ∨ type = ValueType.signed32 ∨ type = ValueType.fixedQ1616 then 4
  else 0xFF

def isValidScalarValue (value : TypedValue) : Bool :=
  if value.type = structureValueType || !isKnownValueType value.type then false
  else if value.bytes.length ≠ expectedScalarValueLength value.type then false
  else value.type != ValueType.boolean || byteAt value.bytes 0 ≤ 1

def isNoneValue (value : TypedValue) : Bool := value.type == ValueType.none && value.bytes.length == 0

def isNonNoneScalarValue (value : TypedValue) : Bool := isValidScalarValue value && !isNoneValue value

def isKnownHostValueType (type : UInt8) : Bool := type == structureValueType || isKnownValueType type

def noneValue : TypedValue := ⟨ValueType.none, []⟩

def uint32Value (type : UInt8) (bits : UInt32) : TypedValue := ⟨type, writeUint32Le bits⟩

/-! ### Events -/

structure HostEventIdentity where
  sourceDeviceId : UInt8
  eventEpoch : UInt32
  eventId : UInt32
  deriving DecidableEq

instance : Inhabited HostEventIdentity := ⟨⟨0, 0, 0⟩⟩

structure HostEventRecord where
  available : UInt8
  sourceDeviceId : UInt8
  family : UInt8
  flags : UInt8
  eventEpoch : UInt32
  eventId : UInt32
  lifetimeBudgetSeconds : UInt32
  bodyLength : UInt8
  body : Body
  deriving DecidableEq

instance : Inhabited HostEventRecord := ⟨⟨0, 0, 0, 0, 0, 0, 0, 0, emptyBody⟩⟩

def hostEventIdentitySize : ℕ := 9
def hostEventRecordSize : ℕ := 29

def isValidHostEventIdentity (identity : HostEventIdentity) : Bool :=
  identity.sourceDeviceId != 0 && identity.eventEpoch != 0 && identity.eventId != 0

def isZeroHostEventIdentity (identity : HostEventIdentity) : Bool :=
  identity.sourceDeviceId == 0 && identity.eventEpoch == 0 && identity.eventId == 0

def encodeHostEventIdentity (identity : HostEventIdentity) : Except PayloadResult Bytes :=
  if !isValidHostEventIdentity identity then .error .invalidValue
  else .ok ([identity.sourceDeviceId] ++ writeUint32Le identity.eventEpoch ++ writeUint32Le identity.eventId)

def decodeHostEventIdentity (input : Bytes) : Except PayloadResult HostEventIdentity :=
  if input.length ≠ hostEventIdentitySize then .error .invalidLength
  else
    let candidate : HostEventIdentity := ⟨byteAt input 0, readUint32Le input 1, readUint32Le input 5⟩
    if !isValidHostEventIdentity candidate then .error .invalidValue else .ok candidate

def isValidHostEventRecord (record : HostEventRecord) : Bool :=
  if record.available = 0 then
    record.sourceDeviceId == 0 && record.family == 0 && record.flags == 0 && record.eventEpoch == 0 &&
      record.eventId == 0 && record.lifetimeBudgetSeconds == 0 && record.bodyLength == 0 &&
      record.body.toList.all (· == 0)
  else record.available == 1 && record.sourceDeviceId != 0 && record.eventEpoch != 0 && record.eventId != 0 &&
    isValidContent record.family record.flags record.bodyLength record.lifetimeBudgetSeconds record.body &&
    zeroTail record.body record.bodyLength

def encodeHostEventRecord (record : HostEventRecord) : Except PayloadResult Bytes :=
  if !isValidHostEventRecord record then .error .invalidValue
  else .ok ([record.available, record.sourceDeviceId, record.family, record.flags] ++
    writeUint32Le record.eventEpoch ++ writeUint32Le record.eventId ++ writeUint32Le record.lifetimeBudgetSeconds ++
    [record.bodyLength] ++ record.body.toList)

def decodeHostEventRecord (input : Bytes) : Except PayloadResult HostEventRecord :=
  if input.length ≠ hostEventRecordSize then .error .invalidLength
  else
    let candidate : HostEventRecord :=
      { available := byteAt input 0, sourceDeviceId := byteAt input 1, family := byteAt input 2
        flags := byteAt input 3, eventEpoch := readUint32Le input 4, eventId := readUint32Le input 8
        lifetimeBudgetSeconds := readUint32Le input 12, bodyLength := byteAt input 16
        body := Vector.ofFn fun i => byteAt input (17 + i) }
    if !isValidHostEventRecord candidate then .error .invalidValue else .ok candidate

/-! ### Requests -/

structure OperationRequest where
  category : UInt8
  operation : UInt8
  targetDeviceId : UInt8
  targetId : UInt16
  value : TypedValue
  deriving DecidableEq

def isValidOperationTarget (category operation : UInt8) (targetId : UInt16) : Bool :=
  if category = OperationCategory.device ∨ category = OperationCategory.diagnostic then targetId == 0
  else if category = OperationCategory.capability then
    if operation = OperationCode.getCapabilities then targetId == 0 else targetId != invalidCapabilityId
  else if category = OperationCategory.procedure then targetId != 0
  else if category = OperationCategory.event then targetId == 0
  else false

def isCursorValue (value : TypedValue) : Bool := value.type == ValueType.unsigned32 && isValidScalarValue value

def isValidOperationRequestValue (operation : UInt8) (value : TypedValue) : Bool :=
  if operation = OperationCode.ping ∨ operation = OperationCode.getDeviceInfo ∨ operation = OperationCode.getStatus ∨
      operation = OperationCode.describeCapability ∨ operation = OperationCode.readCapability then isNoneValue value
  else if operation = OperationCode.getCapabilities then isNoneValue value || isCursorValue value
  else if operation = OperationCode.setIndicator then value.type == ValueType.boolean && isValidScalarValue value
  else if operation = OperationCode.runProcedure then isValidScalarValue value
  else if operation = OperationCode.getDiagnostics then isNoneValue value || isCursorValue value
  else if operation = OperationCode.getEventDiagnostics then
    isNoneValue value || (isCursorValue value && readUint32Le value.bytes 0 == 1)
  else false

def validateOperationRequest (minor : UInt8) (request : OperationRequest) : PayloadResult :=
  match classifyCategoryOperation minor request.category request.operation with
  | .malformed =>
    if !isKnownOperationCategoryAt minor request.category then .unknownCategory else .unknownOperation
  | .unsupported => .unsupportedCategoryOperation
  | .valid =>
    if !isValidOperationTarget request.category request.operation request.targetId then .invalidTarget
    else if request.category = OperationCategory.event ∧ request.operation = OperationCode.pollEvents then
      if isNoneValue request.value then .ok else .invalidValue
    else if request.category = OperationCategory.event ∧ request.operation = OperationCode.consumeEvent then
      if request.value.type == structureValueType && request.value.bytes.length == hostEventIdentitySize &&
          (decodeHostEventIdentity request.value.bytes).toBool then .ok
      else .invalidValue
    else if !isValidOperationRequestValue request.operation request.value then .invalidValue
    else .ok

def operationRequestFixedSize : ℕ := 7

def encodeOperationRequest (minor : UInt8) (request : OperationRequest) : Except PayloadResult Bytes :=
  if validateOperationRequest minor request ≠ .ok then .error (validateOperationRequest minor request)
  else if maxPayloadSize < operationRequestFixedSize + request.value.bytes.length then .error .invalidLength
  else .ok ([request.category, request.operation, request.targetDeviceId] ++ writeUint16Le request.targetId ++
    [request.value.type, request.value.bytes.length.toUInt8] ++ request.value.bytes)

def decodeOperationRequest (minor : UInt8) (input : Bytes) : Except PayloadResult OperationRequest :=
  if input.length < operationRequestFixedSize ∨ maxPayloadSize < input.length then .error .invalidLength
  else if input.length ≠ operationRequestFixedSize + (byteAt input 6).toNat then .error .invalidLength
  else
    let candidate : OperationRequest :=
      { category := byteAt input 0, operation := byteAt input 1, targetDeviceId := byteAt input 2
        targetId := readUint16Le input 3
        value := ⟨byteAt input 5, input.drop operationRequestFixedSize⟩ }
    if candidate.value.type ≠ structureValueType ∧ !isValidScalarValue candidate.value then
      .error (if !isKnownHostValueType candidate.value.type then .invalidValueType else .invalidValue)
    else if validateOperationRequest minor candidate ≠ .ok then .error (validateOperationRequest minor candidate)
    else .ok candidate

end Redline.Host
