import Redline.Node.Identity

/-!
# The Node Event store

`node_event_store.h`: eight logical slots, each in two copies, over the identity allocator.  The
store keeps in RAM the record in force of every slot and an index of the QUEUED slots in the order of
their identities.  A mutation writes the copy that is not in force with the next generation, commits,
reads it back, and selects among the two copies again before the RAM record changes.

Diagnostic counters are written and never read by the store; they are left out.
-/

namespace Redline.Node

open Redline.Wire Redline.Records Redline.Lib

namespace Store

inductive Status
  | ready | invalidSourceDeviceId | storageUnavailable | storageFailure | readBackMissing
  | readBackMismatch | readBackInvalid | indeterminateSlot | recordConflict | generationAmbiguous
  | duplicateIdentity | identityFailure
  deriving DecidableEq

end Store

inductive EnqueueStatus
  | enqueued | queueFull | invalidEvent | storageFailure | identityFailure | degraded
  deriving DecidableEq

inductive MutationStatus
  | ok | invalidSlot | invalidTransition | storageFailure | degraded
  deriving DecidableEq

inductive AttemptStatus
  | armed | exhausted | invalidSlot | notQueued | storageFailure | degraded
  deriving DecidableEq

structure EventInput where
  family : UInt8
  flags : UInt8
  lifetimeBudgetSeconds : UInt32
  bodyLength : UInt8
  body : Body
  deriving DecidableEq

/-- The result of an enqueue; the slot is missing (`0xFF` in the source) unless it succeeded. -/
structure EnqueueResult where
  status : EnqueueStatus
  identity : Identity
  slot : Option SlotIndex
  deriving DecidableEq

structure SlotState where
  present : Bool
  record : NodeRecord
  activeCopy : CopySlot
  deriving DecidableEq

structure Store where
  allocator : Allocator
  slots : SlotIndex → SlotState
  /-- The first `queueCount_` entries of `queue_`. -/
  queue : List SlotIndex
  sourceDeviceId : UInt8
  healthy : Bool
  status : Store.Status
  identityStatus : EventIdentity.Status

def decodeNodeRecordForSelection (bytes : Bytes) : Option NodeRecord :=
  (decodeNodeRecord bytes).toOption

def identityLess (left right : NodeRecord) : Bool :=
  left.eventEpoch < right.eventEpoch ||
    (left.eventEpoch == right.eventEpoch && left.eventId < right.eventId)

namespace Store

/-- A freshly constructed store; `reset()` of the source. -/
def initial : Store where
  allocator := .initial
  slots := fun _ => ⟨false, default, .A⟩
  queue := []
  sourceDeviceId := 0
  healthy := false
  status := .indeterminateSlot
  identityStatus := .identityRecoveryRequired

def fail (s : Store) (status : Status) : Store := { s with healthy := false, status }

def setSlot (s : Store) (slot : SlotIndex) (state : SlotState) : Store :=
  { s with slots := Function.update s.slots slot state }

def recordAt (s : Store) (slot : ℕ) : Option NodeRecord :=
  if h : slot < 8 then
    if (s.slots ⟨slot, h⟩).present then some (s.slots ⟨slot, h⟩).record else none
  else none

def queuedAt (s : Store) (index : ℕ) : Option SlotIndex := s.queue[index]?

/-! ### Reading and writing one copy -/

/-- Read a copy of a slot; unavailable storage degrades the store. -/
def readRecordCopy (s : Store) (slot : SlotIndex) (copySlot : CopySlot) :
    StorageM (Store × Option FixedCopy) := do
  let reply ← readBlob (.event slot copySlot)
  if reply.result = .unavailable then return (s.fail .storageUnavailable, none)
  else if reply.result = .missing then return (s, some ⟨.missing, reply.bytes⟩)
  else if reply.result ≠ .ok ∨ reply.length ≠ nodeRecordSize then
    return (s, some ⟨.ok, List.replicate nodeRecordSize 0⟩)
  else return (s, some ⟨.ok, reply.bytes⟩)

def acceptSelection (s : Store) (selection : SelectionResult) : Store × Bool :=
  if selection = .equalDisagreement then (s.fail .recordConflict, false)
  else if selection = .generationAmbiguous then (s.fail .generationAmbiguous, false)
  else (s, true)

/-- Write a copy, commit, read it back, decode it and compare all bytes. -/
def writeVerify (s : Store) (slot : SlotIndex) (target : CopySlot) (encoded : Bytes) :
    StorageM (Store × Bool) := do
  let result ← writeBlob (.event slot target) encoded
  if result ≠ .ok then
    return (s.fail (if result = .unavailable then .storageUnavailable else .storageFailure), false)
  let result ← commitStorage
  if result ≠ .ok then
    return (s.fail (if result = .unavailable then .storageUnavailable else .storageFailure), false)
  let readBack ← readBlob (.event slot target)
  if readBack.result = .missing then return (s.fail .readBackMissing, false)
  if readBack.result = .unavailable then return (s.fail .storageUnavailable, false)
  if readBack.result ≠ .ok ∨ readBack.length ≠ nodeRecordSize then
    return (s.fail .readBackInvalid, false)
  match decodeNodeRecord readBack.bytes with
  | .error _ => return (s.fail .readBackInvalid, false)
  | .ok _ =>
    if encoded ≠ readBack.bytes then return (s.fail .readBackMismatch, false)
    return (s, true)

def commitInitialFree (s : Store) (slot : SlotIndex) (record : NodeRecord) : StorageM (Store × Bool) :=
  match encodeNodeRecord record with
  | .error _ => return (s.fail .storageFailure, false)
  | .ok encoded => do
    let (s, written) ← s.writeVerify slot .A encoded
    if !written then return (s, false)
    return (s.setSlot slot ⟨true, record, .A⟩, true)

/-- Put a record in force: write the copy that is not, verify it, and check that the two copies now
select it. -/
def commitMutation (s : Store) (slot : SlotIndex) (record : NodeRecord) : StorageM (Store × Bool) :=
  match encodeNodeRecord record with
  | .error _ => return (s.fail .storageFailure, false)
  | .ok encoded => do
    let active := (s.slots slot).activeCopy
    let target := active.opposite
    let (s, written) ← s.writeVerify slot target encoded
    if !written then return (s, false)
    let (s, oldCopy) ← s.readRecordCopy slot active
    match oldCopy with
    | none => return (s, false)
    | some oldCopy => do
      let (s, newCopy) ← s.readRecordCopy slot target
      match newCopy with
      | none => return (s, false)
      | some newCopy =>
        let selection := selectCopies NodeRecord.generation decodeNodeRecordForSelection
          (if active = .A then oldCopy else newCopy) (if active = .A then newCopy else oldCopy)
        let (s, accepted) := s.acceptSelection selection.result
        if !accepted || selection.slot ≠ target ||
            selection.selected.generation ≠ record.generation then
          return (s.fail .storageFailure, false)
        return (s.setSlot slot ⟨true, record, target⟩, true)

/-! ### The index -/

/-- A present slot that owns an Event. -/
def owns (s : Store) (slot : SlotIndex) : Bool :=
  (s.slots slot).present && (s.slots slot).record.state ≠ .free

def sameIdentity (left right : NodeRecord) : Bool :=
  left.eventEpoch == right.eventEpoch && left.eventId == right.eventId

/-- The scan of `rebuildIndex`: the QUEUED slots in slot order, up to the first owned slot that
shares its identity with an earlier one. -/
def scanIndex (s : Store) : List SlotIndex → List SlotIndex → List SlotIndex × Bool
  | [], queue => (queue, true)
  | slot :: rest, queue =>
    if !s.owns slot then scanIndex s rest queue
    else if (List.finRange 8).any fun other => other < slot && s.owns other &&
        sameIdentity (s.slots other).record (s.slots slot).record then (queue, false)
    else if (s.slots slot).record.state = .queued then scanIndex s rest (queue ++ [slot])
    else scanIndex s rest queue

/-- Move `value` in front of every entry at the end of the sorted part that is greater; the sorted
part is given from its end. -/
def insertBack (s : Store) (value : SlotIndex) : List SlotIndex → List SlotIndex
  | [] => [value]
  | last :: before =>
    if identityLess (s.slots value).record (s.slots last).record then
      last :: insertBack s value before
    else value :: last :: before

/-- The insertion sort of `rebuildIndex`. -/
def sortIndex (s : Store) (queue : List SlotIndex) : List SlotIndex :=
  (queue.foldl (fun sorted value => s.insertBack value sorted) []).reverse

def rebuildIndex (s : Store) : Store × Bool :=
  let scan := s.scanIndex (List.finRange 8) []
  if scan.2 then ({ s with queue := s.sortIndex scan.1 }, true)
  else ({ s with queue := scan.1 }.fail .duplicateIdentity, false)

/-! ### Recovery -/

/-- The scan of the slots at boot: whether every copy is missing and whether a slot owns an Event,
or nothing when a read or a selection has failed. -/
def scanSlots (s : Store) (allCopiesMissing anyNonempty : Bool) :
    List SlotIndex → StorageM (Store × Option (Bool × Bool))
  | [] => return (s, some (allCopiesMissing, anyNonempty))
  | slot :: rest => do
    let (s, copyA) ← s.readRecordCopy slot .A
    match copyA with
    | none => return (s, none)
    | some copyA => do
      let (s, copyB) ← s.readRecordCopy slot .B
      match copyB with
      | none => return (s, none)
      | some copyB =>
        let allCopiesMissing := allCopiesMissing &&
          decide (copyA.status = .missing ∧ copyB.status = .missing)
        let selection := selectCopies NodeRecord.generation decodeNodeRecordForSelection copyA copyB
        let (s, accepted) := s.acceptSelection selection.result
        if !accepted then return (s, none)
        if selection.result = .bothInvalid then
          scanSlots (s.setSlot slot { s.slots slot with present := false }) allCopiesMissing
            anyNonempty rest
        else
          scanSlots (s.setSlot slot ⟨true, selection.selected, selection.slot⟩) allCopiesMissing
            (anyNonempty || decide (selection.selected.state ≠ .free)) rest

def freeRecord (generation : UInt32) : NodeRecord := { (default : NodeRecord) with generation }

/-- Write the first FREE record of every slot. -/
def initializeSlots (s : Store) : List SlotIndex → StorageM (Store × Bool)
  | [] => return (s, true)
  | slot :: rest => do
    let (s, written) ← s.commitInitialFree slot (freeRecord 1)
    if !written then return (s, false)
    initializeSlots s rest

/-- The end of the recovery: the allocator, then the index. -/
def recoverIdentity (s : Store) (entropy : Option UInt32) (anyNonempty : Bool) :
    StorageM (Store × Status) := do
  let custody : CustodyState := if anyNonempty then .nonempty else .empty
  let (allocator, identityStatus) ← Allocator.recover entropy s.sourceDeviceId custody
  let s := { s with allocator }
  if identityStatus ≠ .ready then
    return ({ s with identityStatus }.fail .identityFailure, .identityFailure)
  let (s, indexed) := s.rebuildIndex
  if !indexed then return (s, s.status)
  return ({ s with healthy := true, status := .ready }, .ready)

def recover (entropy : Option UInt32) (configuredSourceDeviceId : UInt8) : StorageM (Store × Status) := do
  let s := { Store.initial with sourceDeviceId := configuredSourceDeviceId }
  if configuredSourceDeviceId = 0 then
    return (s.fail .invalidSourceDeviceId, .invalidSourceDeviceId)
  let (s, scanned) ← s.scanSlots true false (List.finRange 8)
  match scanned with
  | none => return (s, s.status)
  | some (allCopiesMissing, anyNonempty) =>
    if allCopiesMissing then do
      let (s, initialized) ← s.initializeSlots (List.finRange 8)
      if !initialized then return (s, s.status)
      s.recoverIdentity entropy anyNonempty
    else if (List.finRange 8).any fun slot => !(s.slots slot).present then
      return (s.fail .indeterminateSlot, .indeterminateSlot)
    else s.recoverIdentity entropy anyNonempty

/-! ### Operations -/

def validInput (input : EventInput) : Bool :=
  isValidContent input.family input.flags input.bodyLength input.lifetimeBudgetSeconds input.body &&
    zeroTail input.body input.bodyLength

def firstFree (s : Store) : Option SlotIndex :=
  (List.finRange 8).find? fun slot => (s.slots slot).record.state = .free

/-- The record an accepted input becomes. -/
def queuedRecord (generation : UInt32) (identity : Identity) (input : EventInput) : NodeRecord where
  generation := generation
  state := .queued
  flags := input.flags
  family := input.family
  bodyLength := input.bodyLength
  eventEpoch := identity.epoch
  eventId := identity.id
  lifetimeBudgetSeconds := input.lifetimeBudgetSeconds
  remainingActiveSeconds := input.lifetimeBudgetSeconds
  attemptsUsed := 0
  body := bodyOf (input.body.toList.take input.bodyLength.toNat)

def enqueue (s : Store) (input : EventInput) : StorageM (Store × EnqueueResult) := do
  if !s.healthy then return (s, ⟨.degraded, default, none⟩)
  if !validInput input then return (s, ⟨.invalidEvent, default, none⟩)
  match s.firstFree with
  | none => return (s, ⟨.queueFull, default, none⟩)
  | some freeSlot => do
    let (allocator, allocation) ← s.allocator.allocate
    let s := { s with allocator }
    if allocation.status ≠ .ready then
      return ({ s with identityStatus := allocation.status }.fail .identityFailure,
        ⟨.identityFailure, default, none⟩)
    let record := queuedRecord ((s.slots freeSlot).record.generation + 1) allocation.identity input
    let (s, committed) ← s.commitMutation freeSlot record
    if !committed then return (s, ⟨.storageFailure, default, none⟩)
    let (s, indexed) := s.rebuildIndex
    if !indexed then return (s, ⟨.storageFailure, default, none⟩)
    return (s, ⟨.enqueued, allocation.identity, some freeSlot⟩)

/-- Commit a record and rebuild the index: the tail of `transition` and `makeFree`. -/
def commitIndexed (s : Store) (slot : SlotIndex) (record : NodeRecord) :
    StorageM (Store × MutationStatus) := do
  let (s, committed) ← s.commitMutation slot record
  if !committed then return (s, .storageFailure)
  let (s, indexed) := s.rebuildIndex
  if !indexed then return (s, .storageFailure)
  return (s, .ok)

def transition (s : Store) (slot : ℕ) (source target : NodeState) : StorageM (Store × MutationStatus) :=
  if !s.healthy then return (s, .degraded)
  else if h : slot < 8 then
    let record := (s.slots ⟨slot, h⟩).record
    if record.state ≠ source then return (s, .invalidTransition)
    else s.commitIndexed ⟨slot, h⟩ { record with generation := record.generation + 1, state := target }
  else return (s, .invalidSlot)

def markFailed (s : Store) (slot : ℕ) : StorageM (Store × MutationStatus) :=
  s.transition slot .queued .failed

def markExpired (s : Store) (slot : ℕ) : StorageM (Store × MutationStatus) :=
  s.transition slot .queued .expired

def makeFree (s : Store) (slot : SlotIndex) : StorageM (Store × MutationStatus) :=
  s.commitIndexed slot (freeRecord ((s.slots slot).record.generation + 1))

def reclaim (s : Store) (slot : ℕ) : StorageM (Store × MutationStatus) :=
  if !s.healthy then return (s, .degraded)
  else if h : slot < 8 then
    let state := (s.slots ⟨slot, h⟩).record.state
    if state ≠ .failed ∧ state ≠ .expired then return (s, .invalidTransition)
    else s.makeFree ⟨slot, h⟩
  else return (s, .invalidSlot)

def releaseQueued (s : Store) (slot : ℕ) : StorageM (Store × MutationStatus) :=
  if !s.healthy then return (s, .degraded)
  else if h : slot < 8 then
    if (s.slots ⟨slot, h⟩).record.state ≠ .queued then return (s, .invalidTransition)
    else s.makeFree ⟨slot, h⟩
  else return (s, .invalidSlot)

def checkpointRemaining (s : Store) (slot : ℕ) (remainingActiveSeconds : UInt32) :
    StorageM (Store × MutationStatus) :=
  if !s.healthy then return (s, .degraded)
  else if h : slot < 8 then
    let current := (s.slots ⟨slot, h⟩).record
    if current.state ≠ .queued ∨ remainingActiveSeconds = 0 ∨
        remainingActiveSeconds ≥ current.remainingActiveSeconds then return (s, .invalidTransition)
    else do
      let (s, committed) ← s.commitMutation ⟨slot, h⟩
        { current with generation := current.generation + 1, remainingActiveSeconds }
      if !committed then return (s, .storageFailure)
      return (s, .ok)
  else return (s, .invalidSlot)

def armAttempt (s : Store) (slot : ℕ) : StorageM (Store × AttemptStatus) :=
  if !s.healthy then return (s, .degraded)
  else if h : slot < 8 then
    let current := (s.slots ⟨slot, h⟩).record
    if current.state ≠ .queued then return (s, .notQueued)
    else if current.attemptsUsed ≥ maxAttempts then return (s, .exhausted)
    else do
      let (s, committed) ← s.commitMutation ⟨slot, h⟩
        { current with generation := current.generation + 1, attemptsUsed := current.attemptsUsed + 1 }
      if !committed then return (s, .storageFailure)
      return (s, .armed)
  else return (s, .invalidSlot)

end Store

end Redline.Node
