import Redline.Records.EventRecords
import Redline.Records.Storage

/-!
# The Event identity allocator

`event_identity.h`: a Node hands out identities `(epoch, id)` from blocks of 32 ids.  A block is
reserved by writing the metadata with the id after the block before any id of it is used; the cursor
inside the block lives in RAM only.  The first initialisation draws a random epoch, and an exhausted
epoch is followed by the next one.
-/

namespace Redline.Node

open Redline.Wire Redline.Records Redline.Lib

def reservationBlockSize : UInt32 := 32

inductive CustodyState
  | empty | nonempty | unprovable
  deriving DecidableEq

namespace EventIdentity

inductive Status
  | ready | invalidSourceDeviceId | storageUnavailable | storageFailure | readBackMissing
  | readBackMismatch | readBackInvalid | entropyFailure | identityContextMismatch
  | identityRecoveryRequired | metadataConflict | generationAmbiguous | epochExhausted
  deriving DecidableEq

end EventIdentity

open EventIdentity (Status)

structure AllocationResult where
  status : Status
  identity : Identity
  deriving DecidableEq

structure Allocator where
  metadata : NodeMetadata
  activeSlot : CopySlot
  sourceDeviceId : UInt8
  nextVolatileId : UInt32
  volatileEndExclusive : UInt32
  hasAuthoritativeMetadata : Bool
  ready : Bool
  status : Status
  deriving DecidableEq

/-- A freshly constructed allocator; `reset()` of the source. -/
def Allocator.initial : Allocator where
  metadata := default
  activeSlot := .A
  sourceDeviceId := 0
  nextVolatileId := 0
  volatileEndExclusive := 0
  hasAuthoritativeMetadata := false
  ready := false
  status := .identityRecoveryRequired

def validHighWater (value : UInt32) : Bool := value != 0 && (value - 1) % reservationBlockSize == 0

def decodeNodeMetadataForSelection (bytes : Bytes) : Option NodeMetadata :=
  (decodeNodeMetadata bytes).toOption

namespace Allocator

def fail (a : Allocator) (status : Status) : Allocator × Status :=
  ({ a with ready := false, status }, status)

/-- A copy of the metadata as it is read; an unavailable one stops the recovery. -/
def readCopy (slot : CopySlot) : StorageM (Option FixedCopy) := do
  let reply ← readBlob (.metadata slot)
  if reply.result = .unavailable then return none
  else if reply.result ≠ .ok ∨ reply.length ≠ nodeMetadataSize then
    if reply.result = .missing then return some ⟨.missing, reply.bytes⟩
    else return some ⟨.ok, List.replicate nodeMetadataSize 0⟩
  else return some ⟨.ok, reply.bytes⟩

def becomeReady (a : Allocator) : Allocator × Status :=
  ({ a with
      nextVolatileId := a.metadata.nextUnreservedEventId
      volatileEndExclusive := a.metadata.nextUnreservedEventId
      ready := true
      status := .ready }, .ready)

/-- Write the other copy, commit, read it back and compare; only then is it in force. -/
def commitMetadata (a : Allocator) (next : NodeMetadata) : StorageM (Allocator × Status) :=
  match encodeNodeMetadata next with
  | .error _ => return a.fail .storageFailure
  | .ok encoded => do
    let target := if a.hasAuthoritativeMetadata then a.activeSlot.opposite else .A
    let writeResult ← writeBlob (.metadata target) encoded
    if writeResult = .unavailable then return a.fail .storageUnavailable
    if writeResult ≠ .ok then return a.fail .storageFailure
    let commitResult ← commitStorage
    if commitResult = .unavailable then return a.fail .storageUnavailable
    if commitResult ≠ .ok then return a.fail .storageFailure
    let readBack ← readBlob (.metadata target)
    if readBack.result = .unavailable then return a.fail .storageUnavailable
    if readBack.result = .missing then return a.fail .readBackMissing
    if readBack.result ≠ .ok ∨ readBack.length ≠ nodeMetadataSize then return a.fail .readBackInvalid
    match decodeNodeMetadata readBack.bytes with
    | .error _ => return a.fail .readBackInvalid
    | .ok verified =>
      if encoded ≠ readBack.bytes then return a.fail .readBackMismatch
      return { a with metadata := verified, activeSlot := target
                      hasAuthoritativeMetadata := true }.becomeReady

/-- Start a new lineage of identities with the epoch the entropy source gives, if it gives one. -/
def initializeFresh (a : Allocator) (entropy : Option UInt32) : StorageM (Allocator × Status) :=
  match entropy with
  | none => return a.fail .entropyFailure
  | some epoch =>
    if epoch = 0 then return a.fail .entropyFailure
    else
      a.commitMetadata
        { generation := if a.hasAuthoritativeMetadata then a.metadata.generation + 1 else 1
          custodySourceDeviceId := a.sourceDeviceId
          eventEpoch := epoch
          nextUnreservedEventId := 1 }

/-- The recovery after both copies have been read and one of them selected. -/
def recoverSelected (a : Allocator) (entropy : Option UInt32) (custody : CustodyState)
    (selection : Selection NodeMetadata) : StorageM (Allocator × Status) :=
  if selection.result = .equalDisagreement then return a.fail .metadataConflict
  else if selection.result = .generationAmbiguous then return a.fail .generationAmbiguous
  else if selection.result = .bothInvalid then
    if custody = .nonempty then return a.fail .identityRecoveryRequired
    else a.initializeFresh entropy
  else
    let a := { a with metadata := selection.selected, activeSlot := selection.slot
                      hasAuthoritativeMetadata := true }
    if !validHighWater selection.selected.nextUnreservedEventId then
      if custody = .nonempty then return a.fail .identityRecoveryRequired
      else a.initializeFresh entropy
    else if custody = .nonempty then
      if selection.selected.custodySourceDeviceId ≠ a.sourceDeviceId then
        return a.fail .identityContextMismatch
      else return a.becomeReady
    else if selection.selected.custodySourceDeviceId ≠ a.sourceDeviceId then a.initializeFresh entropy
    else return a.becomeReady

def recover (entropy : Option UInt32) (configuredSourceDeviceId : UInt8) (custody : CustodyState) :
    StorageM (Allocator × Status) := do
  let a := { Allocator.initial with sourceDeviceId := configuredSourceDeviceId }
  if configuredSourceDeviceId = 0 then return a.fail .invalidSourceDeviceId
  if custody = .unprovable then return a.fail .identityRecoveryRequired
  let copyA ← readCopy .A
  let copyB ← readCopy .B
  match copyA, copyB with
  | some copyA, some copyB =>
    a.recoverSelected entropy custody
      (selectCopies NodeMetadata.generation decodeNodeMetadataForSelection copyA copyB)
  | _, _ => return a.fail .storageUnavailable

/-- Reserve the next block; past the last block of an epoch the block is the first of the next one. -/
def reserveBlock (a : Allocator) : StorageM (Allocator × Status) := do
  let next := { a.metadata with generation := a.metadata.generation + 1 }
  if a.metadata.nextUnreservedEventId > 0xFFFFFFFF - reservationBlockSize then
    if a.metadata.eventEpoch = 0xFFFFFFFF then return a.fail .epochExhausted
    let next := { next with eventEpoch := a.metadata.eventEpoch + 1
                            nextUnreservedEventId := 1 + reservationBlockSize }
    let (a, committed) ← a.commitMetadata next
    if committed ≠ .ready then return (a, committed)
    return ({ a with nextVolatileId := 1, volatileEndExclusive := 1 + reservationBlockSize }, .ready)
  else
    let blockStart := a.metadata.nextUnreservedEventId
    let next := { next with nextUnreservedEventId := blockStart + reservationBlockSize }
    let (a, committed) ← a.commitMetadata next
    if committed ≠ .ready then return (a, committed)
    return ({ a with nextVolatileId := blockStart
                     volatileEndExclusive := blockStart + reservationBlockSize }, .ready)

/-- Hand out the next id of a block that is reserved. -/
def take (a : Allocator) : Allocator × AllocationResult :=
  ({ a with nextVolatileId := a.nextVolatileId + 1 },
    { status := .ready
      identity := { sourceDeviceId := a.sourceDeviceId, epoch := a.metadata.eventEpoch
                    id := a.nextVolatileId } })

def allocate (a : Allocator) : StorageM (Allocator × AllocationResult) := do
  if !a.ready then return (a, ⟨a.status, default⟩)
  if a.nextVolatileId = a.volatileEndExclusive then
    let (a, reservation) ← a.reserveBlock
    if reservation ≠ .ready then return (a, ⟨reservation, default⟩)
    return a.take
  else return a.take

end Allocator

end Redline.Node
