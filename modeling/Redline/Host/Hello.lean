import Redline.Host.Services

/-!
# The greeting

HELLO of the Host protocol: the Host names a range of minor versions, and the device answers with the highest of
them that it supports and with what it is (`handleHello` of `host_device_service.h`), or with a protocol error.
-/

namespace Redline.Host

open Redline.Wire

def helloRequestPayloadSize : ℕ := 2
def helloResponsePayloadSize : ℕ := 16
def maxOutstandingOperations : UInt8 := 1
def helloReservedValue : UInt8 := 0

namespace CategoryBit
def device : UInt16 := 0x0001
def capability : UInt16 := 0x0002
def diagnostic : UInt16 := 0x0008
def event : UInt16 := 0x0010
end CategoryBit

namespace Feature
def localOperations : UInt16 := 0x0001
def radioBridge : UInt16 := 0x0002
def eventService : UInt16 := 0x0004
end Feature

def reservedCategoryBitmap : UInt16 := 0xFFF0
def reservedCategoryBitmap02 : UInt16 := 0xFFE0
def reservedFeatureBitmap : UInt16 := 0xFFFC
def reservedFeatureBitmap02 : UInt16 := 0xFFF8

structure HelloRequest where
  minimumMinor : UInt8
  maximumMinor : UInt8

structure HelloResponse where
  selectedMinor : UInt8
  firmwareMajor : UInt8
  firmwareMinor : UInt8
  firmwarePatch : UInt8
  wireProtocol : UInt8
  configurationSchema : UInt8
  hardwareProfile : UInt8
  role : UInt8
  deviceId : UInt8
  maximumHostPayload : UInt8
  operationCategoryBitmap : UInt16
  featureBitmap : UInt16
  maximumOutstandingOperations : UInt8
  reserved : UInt8

def isValidHelloMinorRange (frameMinor minimum maximum : UInt8) : Bool :=
  if frameMinor = versionMinor01 then minimum == versionMinor01 && maximum == versionMinor01
  else frameMinor == versionMinor02 && minimum != 0 && maximum != 0 && minimum ≤ maximum

def selectHighestSupportedMinor (minimum maximum : UInt8) : Option UInt8 :=
  if minimum = 0 ∨ maximum = 0 ∨ maximum < minimum then none
  else if minimum ≤ versionMinor02 ∧ versionMinor02 ≤ maximum then some versionMinor02
  else if minimum ≤ versionMinor01 ∧ versionMinor01 ≤ maximum then some versionMinor01
  else none

def hasValidCategoryBitmap (selectedMinor : UInt8) (bitmap : UInt16) : Bool :=
  if selectedMinor = versionMinor01 then bitmap &&& reservedCategoryBitmap == 0
  else selectedMinor == versionMinor02 && bitmap &&& reservedCategoryBitmap02 == 0

def hasValidFeatureBitmap (selectedMinor : UInt8) (bitmap : UInt16) : Bool :=
  if selectedMinor = versionMinor01 then bitmap &&& reservedFeatureBitmap == 0
  else selectedMinor == versionMinor02 && bitmap &&& reservedFeatureBitmap02 == 0

def hasConsistentEventAdvertisement (selectedMinor : UInt8) (categories features : UInt16) : Bool :=
  let category := categories &&& CategoryBit.event != 0
  let feature := features &&& Feature.eventService != 0
  if selectedMinor = versionMinor01 then !category && !feature
  else selectedMinor == versionMinor02 && category == feature

def encodeHelloRequest (frameMinor : UInt8) (request : HelloRequest) : Except PayloadResult Bytes :=
  if !isValidHelloMinorRange frameMinor request.minimumMinor request.maximumMinor then .error .invalidField
  else .ok [request.minimumMinor, request.maximumMinor]

def decodeHelloRequest (frameMinor : UInt8) (input : Bytes) : Except PayloadResult HelloRequest :=
  if input.length ≠ helloRequestPayloadSize then .error .invalidLength
  else
    let candidate : HelloRequest := ⟨byteAt input 0, byteAt input 1⟩
    if !isValidHelloMinorRange frameMinor candidate.minimumMinor candidate.maximumMinor then .error .invalidField
    else .ok candidate

def isValidHelloResponse (r : HelloResponse) : Bool :=
  minSupportedMinor ≤ r.selectedMinor && r.selectedMinor ≤ maxSupportedMinor &&
    isKnownHardwareProfile r.hardwareProfile && isKnownDeviceRole r.role &&
    r.maximumHostPayload == maxPayloadSize.toUInt8 &&
    hasValidCategoryBitmap r.selectedMinor r.operationCategoryBitmap &&
    hasValidFeatureBitmap r.selectedMinor r.featureBitmap &&
    hasConsistentEventAdvertisement r.selectedMinor r.operationCategoryBitmap r.featureBitmap &&
    r.maximumOutstandingOperations == maxOutstandingOperations && r.reserved == helloReservedValue

def encodeHelloResponse (r : HelloResponse) : Except PayloadResult Bytes :=
  if !isValidHelloResponse r then .error .invalidField
  else .ok ([r.selectedMinor, r.firmwareMajor, r.firmwareMinor, r.firmwarePatch, r.wireProtocol,
      r.configurationSchema, r.hardwareProfile, r.role, r.deviceId, r.maximumHostPayload] ++
    writeUint16Le r.operationCategoryBitmap ++ writeUint16Le r.featureBitmap ++
    [r.maximumOutstandingOperations, r.reserved])

def decodeHelloResponse (input : Bytes) : Except PayloadResult HelloResponse :=
  if input.length ≠ helloResponsePayloadSize then .error .invalidLength
  else
    let candidate : HelloResponse :=
      { selectedMinor := byteAt input 0, firmwareMajor := byteAt input 1, firmwareMinor := byteAt input 2
        firmwarePatch := byteAt input 3, wireProtocol := byteAt input 4, configurationSchema := byteAt input 5
        hardwareProfile := byteAt input 6, role := byteAt input 7, deviceId := byteAt input 8
        maximumHostPayload := byteAt input 9, operationCategoryBitmap := readUint16Le input 10
        featureBitmap := readUint16Le input 12, maximumOutstandingOperations := byteAt input 14
        reserved := byteAt input 15 }
    if !isValidHelloResponse candidate then .error .invalidField else .ok candidate

/-- `HelloResult`: a response or a protocol error. -/
inductive HelloResult
  | response (response : HelloResponse)
  | protocolError (error : ProtocolError)

def handleHello (envelopeMajor envelopeMinor : UInt8) (request : HelloRequest) (snapshot : DeviceSnapshot)
    (radioStructuredBridge eventServiceAvailable : Bool) : HelloResult :=
  let error (code : UInt8) : HelloResult := .protocolError ⟨code, MessageType.helloRequest, 0⟩
  if envelopeMajor ≠ versionMajor then error ProtocolErrorCode.unsupportedMajor
  else if !isValidHelloMinorRange envelopeMinor request.minimumMinor request.maximumMinor then
    error ProtocolErrorCode.unsupportedMinor
  else
    match selectHighestSupportedMinor request.minimumMinor request.maximumMinor with
    | none => error ProtocolErrorCode.unsupportedMinor
    | some selectedMinor =>
      let events := selectedMinor == versionMinor02 && decide (snapshot.role = .hub) && eventServiceAvailable
      .response
        { selectedMinor
          firmwareMajor := (deviceInfo snapshot).firmwareMajor
          firmwareMinor := (deviceInfo snapshot).firmwareMinor
          firmwarePatch := (deviceInfo snapshot).firmwarePatch
          wireProtocol := (deviceInfo snapshot).wireProtocol
          configurationSchema := (deviceInfo snapshot).configurationSchema
          hardwareProfile := hardwareProfileHeltecV4
          role := mapRole snapshot.role
          deviceId := snapshot.deviceId
          maximumHostPayload := maxPayloadSize.toUInt8
          operationCategoryBitmap := CategoryBit.device ||| CategoryBit.capability ||| CategoryBit.diagnostic |||
            (if events then CategoryBit.event else 0)
          featureBitmap := Feature.localOperations ||| (if radioStructuredBridge then Feature.radioBridge else 0) |||
            (if events then Feature.eventService else 0)
          maximumOutstandingOperations := maxOutstandingOperations
          reserved := helloReservedValue }

end Redline.Host
