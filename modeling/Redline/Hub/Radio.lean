import Redline.Hub.Ledger

/-!
# The Hub radio adapter

`hub_event_radio.h`: a received packet is decoded and checked in the order of the source, offered to
the ledger, and answered with an admission response.  A local failure of the ledger is not answered.
-/

namespace Redline.Hub

open Redline.Wire Redline.Records Redline.Lib

inductive HubAction
  | discard | startEventAck | resumePriorOwner
  deriving DecidableEq

structure HubResult where
  action : HubAction
  ledgerMutated : Bool
  status : AdmissionStatus
  bytes : Bytes
  deriving DecidableEq

instance : Inhabited HubResult := ⟨⟨.discard, false, .admitted, []⟩⟩

namespace HubAdapter

/-- The Event in a packet that the adapter can answer: the routing fields, the identity and the
lengths are right, and the family is one an answer can name. -/
def receivedEvent (bytes : Bytes) (hubDeviceId nodeDeviceId : UInt8) : Option Event :=
  match decode bytes with
  | none => none
  | some packet =>
    if packet.type ≠ .event ∨ packet.source ≠ nodeDeviceId ∨ packet.destination ≠ hubDeviceId ∨
        packet.source = 0 ∨ packet.destination = 0 ∨ packet.payload.length < commonPayloadSize then none
    else
      let epoch := readUint32Le packet.payload 0
      let id := readUint32Le packet.payload 4
      let bodyLength := byteAt packet.payload 13
      if epoch = 0 ∨ id = 0 ∨ bodyLength.toNat > maxBodySize ∨
          packet.payload.length ≠ commonPayloadSize + bodyLength.toNat ∨
          !isCorrelatableFamily packet.opcode then none
      else
        some { source := packet.source, destination := packet.destination
               sequence := packet.sequence, family := packet.opcode, epoch, id
               flags := byteAt packet.payload 8
               lifetimeBudgetSeconds := readUint32Le packet.payload 9
               bodyLength
               body := bodyOf ((packet.payload.drop commonPayloadSize).take bodyLength.toNat) }

/-- The answer on the air to a verdict of the ledger; there is none to a local failure. -/
def wireStatus : Ledger.AdmissionStatus → Option AdmissionStatus
  | .durableNewAdmission | .exactDuplicate => some .admitted
  | .capacity => some .capacity
  | .identityContentMismatch => some .identityContentMismatch
  | _ => none

/-- The end of `process`: the response, encoded. -/
def respond (event : Event) (status : AdmissionStatus) (mutated : Bool) : HubResult :=
  match encodeAdmissionResponse (makeAdmissionResponse event status) maxPacketSize with
  | none => default
  | some bytes => ⟨.startEventAck, mutated, status, bytes⟩

def process (ledger : Ledger) (bytes : Bytes) (hubDeviceId nodeDeviceId : UInt8) :
    StorageM (Ledger × HubResult) :=
  match receivedEvent bytes hubDeviceId nodeDeviceId with
  | none => return (ledger, default)
  | some event => do
    if !isRegisteredFamily event.family then
      return (ledger, respond event .unsupportedEvent false)
    if !isValidEvent event then
      return (ledger, respond event .malformedEvent false)
    let before := ledger.activeCount
    let (ledger, admitted) ← ledger.admitEvent event
    match wireStatus admitted.status with
    | none => return (ledger, default)
    | some status =>
      return (ledger, respond event status
        (decide (admitted.status = .durableNewAdmission) && ledger.activeCount != before))

end HubAdapter

end Redline.Hub
