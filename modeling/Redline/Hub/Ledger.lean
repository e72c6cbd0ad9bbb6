import Redline.Records.EventRecords
import Redline.Records.Storage

/-!
# The Hub Event ledger

`hub_event_ledger.h`: eight slots, each in two copies, that hold the Events the Hub has taken custody
of (ACTIVE) and those the Host has consumed (CONSUMED, a tombstone that still recognises a
retransmission), over a metadata pair that reserves admission ordinals in blocks of 32.  A new Event
takes the first EMPTY slot or else replaces the oldest tombstone of an earlier Event of its source.

Diagnostic counters are written and never read by the ledger; they are left out.
-/

namespace Redline.Hub

open Redline.Wire Redline.Records Redline.Lib

def ordinalReservationBlockSize : UInt32 := 32

namespace Ledger

inductive Status
  | ready | invalidConfiguration | storageUnavailable | storageFailure | indeterminateSlot
  | recordConflict | generationAmbiguous | duplicateIdentity | duplicateOrdinal | ordinalUnavailable
  | ordinalExhausted
  deriving DecidableEq

inductive AdmissionStatus
  | durableNewAdmission | exactDuplicate | capacity | identityContentMismatch | unsupportedEvent
  | malformedEvent | routingRejected | storageFailure | degraded
  deriving DecidableEq

inductive ConsumeStatus
  | consumed | alreadyConsumed | notFound | storageFailure | degraded
  deriving DecidableEq

end Ledger

/-- The slot is missing (`0xFF` in the source) where no slot is concerned. -/
structure AdmissionResult where
  status : Ledger.AdmissionStatus
  slot : Option SlotIndex
  admissionOrdinal : UInt32
  deriving DecidableEq

structure ConsumeResult where
  status : Ledger.ConsumeStatus
  slot : Option SlotIndex
  deriving DecidableEq

structure SlotState where
  present : Bool
  activeCopy : CopySlot
  record : HubRecord
  deriving DecidableEq

structure Ledger where
  slots : SlotIndex → SlotState
  metadata : HubMetadata
  metadataCopy : CopySlot
  nextVolatileOrdinal : UInt32
  volatileEndExclusive : UInt32
  hubDeviceId : UInt8
  nodeDeviceId : UInt8
  hasMetadata : Bool
  ledgerHealthy : Bool
  ordinalReady : Bool
  status : Ledger.Status

def decodeHubRecordForSelection (bytes : Bytes) : Option HubRecord := (decodeHubRecord bytes).toOption

def decodeHubMetadataForSelection (bytes : Bytes) : Option HubMetadata :=
  (decodeHubMetadata bytes).toOption

namespace Ledger

/-- A freshly constructed ledger; `reset()` of the source. -/
def initial : Ledger where
  slots := fun _ => ⟨false, .A, default⟩
  metadata := default
  metadataCopy := .A
  nextVolatileOrdinal := 0
  volatileEndExclusive := 0
  hubDeviceId := 0
  nodeDeviceId := 0
  hasMetadata := false
  ledgerHealthy := false
  ordinalReady := false
  status := .indeterminateSlot

def isOwned (record : HubRecord) : Bool := record.state = .active ∨ record.state = .consumed

def sameIdentity (record : HubRecord) (event : Event) : Bool :=
  record.sourceDeviceId == event.source && record.eventEpoch == event.epoch && record.eventId == event.id

def sameCanonical (record : HubRecord) (event : Event) : Bool :=
  sameIdentity record event && record.family == event.family && record.flags == event.flags &&
    record.lifetimeBudgetSeconds == event.lifetimeBudgetSeconds && record.bodyLength == event.bodyLength &&
    record.body.toList.take event.bodyLength.toNat == event.body.toList.take event.bodyLength.toNat

def validHighWater (value : UInt32) : Bool :=
  value != 0 && (value - 1) % ordinalReservationBlockSize == 0

def storageStatus (result : StorageResult) : Status :=
  if result = .unavailable then .storageUnavailable else .storageFailure

def failLedger (l : Ledger) (status : Status) : Ledger := { l with ledgerHealthy := false, status }

def failOrdinal (l : Ledger) (status : Status) : Ledger := { l with ordinalReady := false, status }

def setSlot (l : Ledger) (slot : SlotIndex) (state : SlotState) : Ledger :=
  { l with slots := Function.update l.slots slot state }

/-! ### Reading and writing one copy -/

/-- A reply as a copy: a malformed one is kept as it was read; an unavailable one is none. -/
def classifyRead (reply : ReadReply) : Option FixedCopy :=
  if reply.result = .missing then some ⟨.missing, reply.bytes⟩
  else if reply.result = .unavailable then none
  else some ⟨.ok, reply.bytes⟩

def readMetadataCopy (l : Ledger) (copy : CopySlot) : StorageM (Ledger × Option FixedCopy) := do
  let reply ← readBlob (.metadata copy)
  match classifyRead reply with
  | none => return ({ l with status := .ordinalUnavailable }, none)
  | some copy => return (l, some copy)

def readRecordCopy (l : Ledger) (slot : SlotIndex) (copy : CopySlot) :
    StorageM (Ledger × Option FixedCopy) := do
  let reply ← readBlob (.event slot copy)
  match classifyRead reply with
  | none => return (l.failLedger .storageUnavailable, none)
  | some copy => return (l, some copy)

def acceptRecordSelection (l : Ledger) (selection : SelectionResult) : Ledger × Bool :=
  if selection = .equalDisagreement then (l.failLedger .recordConflict, false)
  else if selection = .generationAmbiguous then (l.failLedger .generationAmbiguous, false)
  else (l, true)

/-- The last check of a commit: the copy just written is the one the pair selects. -/
def selectsTarget {ρ : Type} (generation : ρ → UInt32) (selection : Selection ρ) (target : CopySlot)
    (expected : UInt32) : Except Status ρ :=
  if selection.slot ≠ target ∨ generation selection.selected ≠ expected ∨
      !selection.result.authoritative then
    .error (if selection.result = .generationAmbiguous then .generationAmbiguous else .storageFailure)
  else .ok selection.selected

def commitMetadata (l : Ledger) (next : HubMetadata) (target : CopySlot) : StorageM (Ledger × Bool) :=
  match encodeHubMetadata next with
  | .error _ => return (l.failOrdinal .storageFailure, false)
  | .ok encoded => do
    let result ← writeBlob (.metadata target) encoded
    if result ≠ .ok then return (l.failOrdinal (storageStatus result), false)
    let result ← commitStorage
    if result ≠ .ok then return (l.failOrdinal (storageStatus result), false)
    let readBack ← readBlob (.metadata target)
    if readBack.result ≠ .ok ∨ readBack.length ≠ hubMetadataSize then
      return (l.failOrdinal (storageStatus readBack.result), false)
    if (decodeHubMetadataForSelection readBack.bytes).isNone ∨ encoded ≠ readBack.bytes then
      return (l.failOrdinal .storageFailure, false)
    let (l, copyA) ← l.readMetadataCopy .A
    match copyA with
    | none => return (l.failOrdinal .storageUnavailable, false)
    | some copyA => do
      let (l, copyB) ← l.readMetadataCopy .B
      match copyB with
      | none => return (l.failOrdinal .storageUnavailable, false)
      | some copyB =>
        let selection := selectCopies HubMetadata.generation decodeHubMetadataForSelection copyA copyB
        match selectsTarget HubMetadata.generation selection target next.generation with
        | .error status => return (l.failOrdinal status, false)
        | .ok authoritative =>
          return ({ l with metadata := authoritative, metadataCopy := target, hasMetadata := true
                           ordinalReady := true }, true)

def commitRecord (l : Ledger) (slot : SlotIndex) (next : HubRecord) (target : CopySlot) :
    StorageM (Ledger × Bool) :=
  match encodeHubRecord next with
  | .error _ => return (l.failLedger .storageFailure, false)
  | .ok encoded => do
    let result ← writeBlob (.event slot target) encoded
    if result ≠ .ok then return (l.failLedger (storageStatus result), false)
    let result ← commitStorage
    if result ≠ .ok then return (l.failLedger (storageStatus result), false)
    let readBack ← readBlob (.event slot target)
    if readBack.result ≠ .ok ∨ readBack.length ≠ hubRecordSize then
      return (l.failLedger (storageStatus readBack.result), false)
    if (decodeHubRecordForSelection readBack.bytes).isNone ∨ encoded ≠ readBack.bytes then
      return (l.failLedger .storageFailure, false)
    let (l, copyA) ← l.readRecordCopy slot .A
    match copyA with
    | none => return (l, false)
    | some copyA => do
      let (l, copyB) ← l.readRecordCopy slot .B
      match copyB with
      | none => return (l, false)
      | some copyB =>
        let selection := selectCopies HubRecord.generation decodeHubRecordForSelection copyA copyB
        match selectsTarget HubRecord.generation selection target next.generation with
        | .error status => return (l.failLedger status, false)
        | .ok authoritative => return (l.setSlot slot ⟨true, target, authoritative⟩, true)

def commitInitialRecord (l : Ledger) (slot : SlotIndex) (next : HubRecord) : StorageM (Ledger × Bool) :=
  (l.setSlot slot ⟨true, .B, next⟩).commitRecord slot next .A

/-! ### Recovery -/

/-- The scan of the slots at boot: whether every copy is missing, or nothing when a read or a
selection has failed. -/
def scanSlots (l : Ledger) (allSlotCopiesMissing : Bool) :
    List SlotIndex → StorageM (Ledger × Option Bool)
  | [] => return (l, some allSlotCopiesMissing)
  | slot :: rest => do
    let (l, a) ← l.readRecordCopy slot .A
    match a with
    | none => return (l, none)
    | some a => do
      let (l, b) ← l.readRecordCopy slot .B
      match b with
      | none => return (l, none)
      | some b =>
        let allSlotCopiesMissing := allSlotCopiesMissing &&
          decide (a.status = .missing ∧ b.status = .missing)
        let selection := selectCopies HubRecord.generation decodeHubRecordForSelection a b
        let (l, accepted) := l.acceptRecordSelection selection.result
        if !accepted then return (l, none)
        if selection.result = .bothInvalid then scanSlots l allSlotCopiesMissing rest
        else
          scanSlots (l.setSlot slot ⟨true, selection.slot, selection.selected⟩) allSlotCopiesMissing rest

def emptyRecord (generation : UInt32) : HubRecord := { (default : HubRecord) with generation }

/-- Write the first EMPTY record of every slot. -/
def initializeSlots (l : Ledger) : List SlotIndex → StorageM (Ledger × Bool)
  | [] => return (l, true)
  | slot :: rest => do
    let (l, written) ← l.commitInitialRecord slot (emptyRecord 1)
    if !written then return (l, false)
    initializeSlots l rest

def initializeFresh (l : Ledger) : StorageM (Ledger × Bool) := do
  let (l, committed) ← l.commitMetadata ⟨1, 1⟩ .A
  if !committed then return (l, false)
  l.initializeSlots (List.finRange 8)

/-- The scan of `validateRecoveredSlots`: the first slot that is missing, or shares its identity or
its ordinal with an earlier owned one. -/
def validateSlots (l : Ledger) : List SlotIndex → Option Status
  | [] => none
  | i :: rest =>
    if !(l.slots i).present then some .indeterminateSlot
    else if !isOwned (l.slots i).record then validateSlots l rest
    else
      match (List.finRange 8).findSome? fun j =>
          if j < i && isOwned (l.slots j).record then
            if (l.slots i).record.sourceDeviceId = (l.slots j).record.sourceDeviceId ∧
                (l.slots i).record.eventEpoch = (l.slots j).record.eventEpoch ∧
                (l.slots i).record.eventId = (l.slots j).record.eventId then
              some Status.duplicateIdentity
            else if (l.slots i).record.admissionOrdinal = (l.slots j).record.admissionOrdinal then
              some Status.duplicateOrdinal
            else none
          else none with
      | some status => some status
      | none => validateSlots l rest

def validateRecoveredSlots (l : Ledger) : Ledger × Bool :=
  match l.validateSlots (List.finRange 8) with
  | some status => (l.failLedger status, false)
  | none => (l, true)

def recoverMetadata (l : Ledger) (a b : FixedCopy) : Ledger :=
  let selection := selectCopies HubMetadata.generation decodeHubMetadataForSelection a b
  if selection.result = .equalDisagreement then { l with status := .recordConflict }
  else if selection.result = .generationAmbiguous then { l with status := .generationAmbiguous }
  else if selection.result = .bothInvalid ∨
      !validHighWater selection.selected.nextUnreservedAdmissionOrdinal then
    { l with status := .ordinalUnavailable }
  else
    { l with metadata := selection.selected
             metadataCopy := selection.slot
             hasMetadata := true
             nextVolatileOrdinal := selection.selected.nextUnreservedAdmissionOrdinal
             volatileEndExclusive := selection.selected.nextUnreservedAdmissionOrdinal
             ordinalReady := true
             status := .ready }

/-- The end of a recovery that has not failed. -/
def becomeHealthy (l : Ledger) : Ledger :=
  { l with ledgerHealthy := true, status := if l.ordinalReady then .ready else l.status }

/-- The recovery after the slots have been read and the metadata copies too. -/
def recoverFrom (l : Ledger) (allSlotCopiesMissing : Bool) (metaA metaB : FixedCopy) :
    StorageM (Ledger × Status) :=
  if allSlotCopiesMissing && decide (metaA.status = .missing ∧ metaB.status = .missing) then do
    let (l, initialized) ← l.initializeFresh
    if !initialized then return (l, l.status)
    return (l.becomeHealthy, l.becomeHealthy.status)
  else if (List.finRange 8).any fun slot => !(l.slots slot).present then
    return (l.failLedger .indeterminateSlot, .indeterminateSlot)
  else
    let (l, validated) := l.validateRecoveredSlots
    if !validated then return (l, l.status)
    else
      let l := (l.recoverMetadata metaA metaB).becomeHealthy
      return (l, l.status)

/-- The recovery when a metadata copy is unavailable: the slots stay in custody. -/
def recoverWithoutMetadata (l : Ledger) (allSlotCopiesMissing : Bool) : Ledger :=
  if allSlotCopiesMissing then l
  else
    let (l, validated) := l.validateRecoveredSlots
    if validated then { l with ledgerHealthy := true, status := .ordinalUnavailable } else l

def recover (hubDeviceId nodeDeviceId : UInt8) : StorageM (Ledger × Status) := do
  let l := { Ledger.initial with hubDeviceId, nodeDeviceId }
  if hubDeviceId = 0 ∨ nodeDeviceId = 0 ∨ hubDeviceId = nodeDeviceId then
    return (l.failLedger .invalidConfiguration, .invalidConfiguration)
  let (l, scanned) ← l.scanSlots true (List.finRange 8)
  match scanned with
  | none => return (l, l.status)
  | some allSlotCopiesMissing => do
    let (l, metaA) ← l.readMetadataCopy .A
    match metaA with
    | none =>
      let l := l.recoverWithoutMetadata allSlotCopiesMissing
      return (l, l.status)
    | some metaA => do
      let (l, metaB) ← l.readMetadataCopy .B
      match metaB with
      | none =>
        let l := l.recoverWithoutMetadata allSlotCopiesMissing
        return (l, l.status)
      | some metaB => l.recoverFrom allSlotCopiesMissing metaA metaB

/-! ### Admission -/

def validateAdmission (l : Ledger) (event : Event) : AdmissionStatus :=
  if !hasValidEndpoints event.source event.destination || event.source != l.nodeDeviceId ||
      event.destination != l.hubDeviceId || event.epoch == 0 || event.id == 0 then .routingRejected
  else if !isRegisteredFamily event.family then .unsupportedEvent
  else if !isValidContent event.family event.flags event.bodyLength event.lifetimeBudgetSeconds
      event.body then .malformedEvent
  else if !zeroTail event.body event.bodyLength then .malformedEvent
  else .durableNewAdmission

def findOwned (l : Ledger) (event : Event) : Option SlotIndex :=
  (List.finRange 8).find? fun slot =>
    isOwned (l.slots slot).record && sameIdentity (l.slots slot).record event

def firstEmpty (l : Ledger) : Option SlotIndex :=
  (List.finRange 8).find? fun slot => (l.slots slot).record.state = .empty

def incomingLater (event : Event) (tombstone : HubRecord) : Bool :=
  event.source == tombstone.sourceDeviceId &&
    (event.epoch > tombstone.eventEpoch ||
      (event.epoch == tombstone.eventEpoch && event.id > tombstone.eventId))

/-- One round of the two searches for the least ordinal. -/
def older (l : Ledger) (found : Option SlotIndex) (slot : SlotIndex) : Option SlotIndex :=
  match found with
  | none => some slot
  | some best =>
    if (l.slots slot).record.admissionOrdinal < (l.slots best).record.admissionOrdinal then some slot
    else some best

def oldestReclaimable (l : Ledger) (event : Event) : Option SlotIndex :=
  (List.finRange 8).foldl (fun found slot =>
    if (l.slots slot).record.state ≠ .consumed ∨ !incomingLater event (l.slots slot).record then found
    else l.older found slot) none

def oldestActive (l : Ledger) : Option (SlotIndex × HubRecord) :=
  if !l.ledgerHealthy then none
  else
    ((List.finRange 8).foldl (fun found slot =>
      if (l.slots slot).record.state ≠ .active then found else l.older found slot) none).map
        fun slot => (slot, (l.slots slot).record)

/-- The next ordinal, from a new block if the reserved one is used up. -/
def allocateOrdinal (l : Ledger) : StorageM (Ledger × Option UInt32) := do
  if !l.ordinalReady then return (l, none)
  if l.nextVolatileOrdinal = l.volatileEndExclusive then
    let start := l.metadata.nextUnreservedAdmissionOrdinal
    if start > 0xFFFFFFFF - ordinalReservationBlockSize then
      return ({ l with ordinalReady := false, status := .ordinalExhausted }, none)
    else
      let (l, committed) ← l.commitMetadata
        { generation := l.metadata.generation + 1
          nextUnreservedAdmissionOrdinal := start + ordinalReservationBlockSize }
        l.metadataCopy.opposite
      if !committed then return (l, none)
      return ({ l with nextVolatileOrdinal := start + 1
                       volatileEndExclusive := start + ordinalReservationBlockSize }, some start)
  else
    return ({ l with nextVolatileOrdinal := l.nextVolatileOrdinal + 1 }, some l.nextVolatileOrdinal)

/-- The record an admitted Event becomes. -/
def admittedRecord (generation : UInt32) (event : Event) (ordinal : UInt32) : HubRecord where
  generation := generation
  state := .active
  sourceDeviceId := event.source
  family := event.family
  flags := event.flags
  bodyLength := event.bodyLength
  eventEpoch := event.epoch
  eventId := event.id
  lifetimeBudgetSeconds := event.lifetimeBudgetSeconds
  admissionOrdinal := ordinal
  body := bodyOf (event.body.toList.take event.bodyLength.toNat)

/-- The slot a new Event goes to. -/
def admissionTarget (l : Ledger) (event : Event) : Option SlotIndex :=
  match l.firstEmpty with
  | some slot => some slot
  | none => l.oldestReclaimable event

/-- `Ledger::admit`. -/
def admitEvent (l : Ledger) (event : Event) : StorageM (Ledger × AdmissionResult) := do
  if !l.ledgerHealthy then return (l, ⟨.degraded, none, 0⟩)
  if l.validateAdmission event ≠ .durableNewAdmission then
    return (l, ⟨l.validateAdmission event, none, 0⟩)
  match l.findOwned event with
  | some slot =>
    return (l, ⟨if sameCanonical (l.slots slot).record event then .exactDuplicate
      else .identityContentMismatch, some slot, (l.slots slot).record.admissionOrdinal⟩)
  | none =>
    match l.admissionTarget event with
    | none => return (l, ⟨.capacity, none, 0⟩)
    | some target => do
      let (l, ordinal) ← l.allocateOrdinal
      match ordinal with
      | none => return (l, ⟨.storageFailure, none, 0⟩)
      | some ordinal => do
        let next := admittedRecord ((l.slots target).record.generation + 1) event ordinal
        let (l, committed) ← l.commitRecord target next (l.slots target).activeCopy.opposite
        if !committed then return (l, ⟨.storageFailure, none, 0⟩)
        return (l, ⟨.durableNewAdmission, some target, ordinal⟩)

/-! ### Consumption -/

def hasIdentity (record : HubRecord) (identity : Identity) : Bool :=
  record.sourceDeviceId == identity.sourceDeviceId && record.eventEpoch == identity.epoch &&
    record.eventId == identity.id

def find (l : Ledger) (identity : Identity) : Option SlotIndex :=
  if !l.ledgerHealthy then none
  else (List.finRange 8).find? fun slot =>
    isOwned (l.slots slot).record && hasIdentity (l.slots slot).record identity

def consume (l : Ledger) (identity : Identity) : StorageM (Ledger × ConsumeResult) := do
  if !l.ledgerHealthy then return (l, ⟨.degraded, none⟩)
  match l.find identity with
  | none => return (l, ⟨.notFound, none⟩)
  | some slot =>
    let record := (l.slots slot).record
    if record.state = .consumed then return (l, ⟨.alreadyConsumed, some slot⟩)
    let (l, committed) ← l.commitRecord slot
      { record with generation := record.generation + 1, state := .consumed }
      (l.slots slot).activeCopy.opposite
    if committed then return (l, ⟨.consumed, some slot⟩)
    else return (l, ⟨.storageFailure, some slot⟩)

def activeCount (l : Ledger) : ℕ :=
  if !l.ledgerHealthy then 0
  else (List.finRange 8).countP fun slot => (l.slots slot).record.state = .active

end Ledger

end Redline.Hub
