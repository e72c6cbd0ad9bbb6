import Redline.DeviceSettings.Record
import Redline.Lib.Script

/-!
# The settings manager

`device_settings.h`: two slots, each with a record of the settings or nothing, and a marker that a factory reset is
pending.  A load finishes a pending reset or takes the newer of the two records; a save writes the next generation
to the slot that is not in use, reads it back, and only then changes the RAM; a reset sets the marker, removes both
slots, writes the defaults and removes the marker.

The storage is the one of `esp32_settings_storage.cpp`: a slot is read at its exact size only, and a value of another
size is malformed.  A primitive may fail (`Storage.meets`).  A read then gives any answer but OK, with any bytes in its
buffer: a look-up of the flash that fails is answered as if nothing, or something malformed, were stored.  A write or a
removal then gives any answer, OK among them, and leaves its slot as it was, as it was to be, missing, or with bytes
that nobody can decode; the marker is stored atomically.  What is relied on is that a read which answers OK has read
what is stored.
-/

namespace Redline.DeviceSettings

open Redline.Wire Redline.Records Redline.Lib

inductive RecordSlot
  | A | B
  deriving DecidableEq

def opposite : RecordSlot → RecordSlot
  | .A => .B
  | .B => .A

inductive StoreResult
  | ok | missing | malformed | unavailable | error
  deriving DecidableEq

inductive LoadStatus
  | loaded | defaultedMissing | loadedFallbackSlot | repairedSchema1 | defaultedCorrupt | unsupportedSchema
  | storageUnavailable | resetCompleted | resetRecoveryFailed
  deriving DecidableEq

inductive SaveStatus
  | saved | repairedSaved | unchanged | repairedUnchanged | unsupportedSchema | storageUnavailable | writeFailed
  | readBackFailed | verificationFailed
  deriving DecidableEq

inductive ResetResult
  | resetCompleted | resetNotPending | storageUnavailable | markerWriteFailed | markerVerifyFailed
  | slotRemoveFailed | defaultWriteFailed | defaultVerifyFailed | markerRemoveFailed
  deriving DecidableEq

/-- `SettingsIntegration::saveSucceeded`. -/
def saveSucceeded (result : SaveStatus) : Bool := result = .saved ∨ result = .repairedSaved

/-! ### The storage -/

/-- The answer to the read of a slot: its result, and the buffer with the length it reports. -/
structure SlotReply where
  result : StoreResult
  bytes : Bytes
  deriving DecidableEq

structure MarkerReply where
  result : StoreResult
  pending : Bool
  deriving DecidableEq

inductive StoreOp
  | readSlot (slot : RecordSlot)
  | writeSlot (slot : RecordSlot) (bytes : Bytes)
  | removeSlot (slot : RecordSlot)
  | readResetMarker
  | writeResetMarker (pending : Bool)
  | removeResetMarker

def StoreOp.Reply : StoreOp → Type
  | .readSlot _ => SlotReply
  | .readResetMarker => MarkerReply
  | _ => StoreResult

/-- Code that calls the store. -/
abbrev StoreM := Prog StoreOp.Reply

def readSlot (slot : RecordSlot) : StoreM SlotReply := Prog.lift (StoreOp.readSlot slot)
def writeSlot (slot : RecordSlot) (bytes : Bytes) : StoreM StoreResult := Prog.lift (StoreOp.writeSlot slot bytes)
def removeSlot (slot : RecordSlot) : StoreM StoreResult := Prog.lift (StoreOp.removeSlot slot)
def readResetMarker : StoreM MarkerReply := Prog.lift StoreOp.readResetMarker
def writeResetMarker (pending : Bool) : StoreM StoreResult := Prog.lift (StoreOp.writeResetMarker pending)
def removeResetMarker : StoreM StoreResult := Prog.lift StoreOp.removeResetMarker

/-- What is stored under the key of the marker; a value of another type or range is malformed. -/
inductive Marker
  | missing | clear | pending | malformed
  deriving DecidableEq

structure Storage where
  slots : RecordSlot → Option Bytes
  marker : Marker

def Storage.setSlot (st : Storage) (slot : RecordSlot) (content : Option Bytes) : Storage :=
  { st with slots := Function.update st.slots slot content }

def slotReply : Option Bytes → SlotReply
  | none => ⟨.missing, []⟩
  | some bytes => if bytes.length ≠ recordSize then ⟨.malformed, []⟩ else ⟨.ok, bytes⟩

def markerReply : Marker → MarkerReply
  | .missing => ⟨.missing, false⟩
  | .clear => ⟨.ok, false⟩
  | .pending => ⟨.ok, true⟩
  | .malformed => ⟨.error, false⟩

def removeReply {α : Type} : Option α → StoreResult
  | none => .missing
  | some _ => .ok

/-- The store without failures. -/
def Storage.works : Device StoreOp.Reply Storage
  | .readSlot slot, st => (slotReply (st.slots slot), st)
  | .writeSlot slot bytes, st => (StoreResult.ok, st.setSlot slot (some bytes))
  | .removeSlot slot, st => (removeReply (st.slots slot), st.setSlot slot none)
  | .readResetMarker, st => (markerReply st.marker, st)
  | .writeResetMarker pending, st => (StoreResult.ok, { st with marker := if pending then .pending else .clear })
  | .removeResetMarker, st =>
    (if st.marker = .missing then StoreResult.missing else StoreResult.ok, { st with marker := .missing })

/-- How a failed or interrupted call leaves what it was to change. -/
inductive Left
  | old
  | new
  | missing
  | garbage (bytes : Bytes)

/-- The content a failed call leaves in a slot; bytes that decode are not made up. -/
def Left.leave (before after : Option Bytes) : Left → Option Bytes
  | .old => before
  | .new => after
  | .missing => none
  | .garbage bytes => if (decodeRecordWithRepair bytes).isOk then before else some bytes

/-- The marker is stored atomically. -/
def Left.leaveMarker (before after : Marker) : Left → Marker
  | .new => after
  | _ => before

/-- What may be wrong with one call: the answer to a read, or the answer to a write or a removal and what it leaves. -/
inductive Fault
  | none
  | read (result : StoreResult) (bytes : Bytes) (pending : Bool)
  | write (result : StoreResult) (left : Left)

/-- The call reports that nothing is stored, whatever is. -/
def Fault.misses : Fault → Bool
  | .read .missing _ _ => true
  | _ => false

/-- The call reports that nothing, or something malformed, is stored, whatever is. -/
def Fault.misreports : Fault → Bool
  | .read .missing _ _ => true
  | .read .malformed _ _ => true
  | _ => false

/-- One call that meets the fault.  A read that answers OK is a read that works, and a fault of the other kind of call
is none. -/
def Storage.meets : Fault → Device StoreOp.Reply Storage
  | .none => Storage.works
  | .read result bytes pending => fun op st =>
    match op with
    | .readSlot slot => (if result = .ok then slotReply (st.slots slot) else ⟨result, bytes⟩, st)
    | .readResetMarker => (if result = .ok then markerReply st.marker else ⟨result, pending⟩, st)
    | op => Storage.works op st
  | .write result left => fun op st =>
    match op with
    | .writeSlot slot bytes => (result, st.setSlot slot (left.leave (st.slots slot) (some bytes)))
    | .removeSlot slot => (result, st.setSlot slot (left.leave (st.slots slot) Option.none))
    | .writeResetMarker pending =>
      (result, { st with marker := left.leaveMarker st.marker (if pending then .pending else .clear) })
    | .removeResetMarker => (result, { st with marker := left.leaveMarker st.marker .missing })
    | op => Storage.works op st

/-! ### The slots -/

inductive SlotKind
  | missing | valid | repaired | corrupt | unsupported | unavailable
  deriving DecidableEq

structure SlotRecord where
  kind : SlotKind
  settings : Settings
  generation : UInt32
  bytes : Bytes
  deriving DecidableEq

/-- A reply as a record. -/
def classify (reply : SlotReply) : SlotRecord :=
  match reply.result with
  | .missing => ⟨.missing, defaults, 0, reply.bytes⟩
  | .malformed => ⟨.corrupt, defaults, 0, reply.bytes⟩
  | .ok =>
    match decodeRecordWithRepair reply.bytes with
    | .error .unsupportedSchema => ⟨.unsupported, defaults, 0, reply.bytes⟩
    | .error _ => ⟨.corrupt, defaults, 0, reply.bytes⟩
    | .ok (settings, generation, repaired) =>
      ⟨if repaired then .repaired else .valid, settings, generation, reply.bytes⟩
  | _ => ⟨.unavailable, defaults, 0, reply.bytes⟩

def readAndClassify (slot : RecordSlot) : StoreM SlotRecord := do
  let reply ← readSlot slot
  return classify reply

def isUsable (record : SlotRecord) : Bool := record.kind = .valid ∨ record.kind = .repaired

/-- `candidate - reference` is positive as a signed word. -/
def generationIsNewer (candidate reference : UInt32) : Bool :=
  let difference := candidate - reference
  difference ≠ 0 && difference < 0x80000000

/-! ### The manager -/

structure SettingsManager where
  settings : Settings
  generation : UInt32
  activeSlot : RecordSlot
  hasActiveSlot : Bool
  repairPending : Bool
  unsupportedSlotA : Bool
  unsupportedSlotB : Bool
  lastResetResult : ResetResult
  deriving DecidableEq

namespace SettingsManager

/-- A new manager; `resetRuntimeState()` of the source. -/
def initial : SettingsManager where
  settings := defaults
  generation := 0
  activeSlot := .A
  hasActiveSlot := false
  repairPending := false
  unsupportedSlotA := false
  unsupportedSlotB := false
  lastResetResult := .resetNotPending

def unsupportedSchema (m : SettingsManager) : Bool := m.unsupportedSlotA || m.unsupportedSlotB

def isUnsupportedSlot (m : SettingsManager) : RecordSlot → Bool
  | .A => m.unsupportedSlotA
  | .B => m.unsupportedSlotB

def applySelected (m : SettingsManager) (selected : SlotRecord) (slot : RecordSlot) (fallback : Bool) :
    SettingsManager × LoadStatus :=
  let m := { m with settings := selected.settings, generation := selected.generation, activeSlot := slot
                    hasActiveSlot := true }
  if selected.kind = .repaired then ({ m with repairPending := true }, .repairedSchema1)
  else if fallback then ({ m with repairPending := true }, .loadedFallbackSlot)
  else (m, .loaded)

/-- A slot is removed and reads as missing. -/
def removeAndVerifySlot (slot : RecordSlot) : StoreM ResetResult := do
  let removed ← removeSlot slot
  if removed = .unavailable then return .storageUnavailable
  if removed ≠ .ok ∧ removed ≠ .missing then return .slotRemoveFailed
  let reply ← readSlot slot
  if reply.result = .unavailable then return .storageUnavailable
  if reply.result = .missing then return .resetCompleted else return .slotRemoveFailed

/-- The bytes read back are the record that was written. -/
def verifies (reply : SlotReply) (settings : Settings) (generation : UInt32) : Bool :=
  match decodeRecord reply.bytes with
  | .ok (verified, verifiedGeneration) => verifiedGeneration = generation ∧ verified = settings
  | .error _ => false

def completeVerifiedReset (m : SettingsManager) : StoreM (SettingsManager × ResetResult) := do
  let removeA ← removeAndVerifySlot .A
  if removeA ≠ .resetCompleted then return (m, removeA)
  let removeB ← removeAndVerifySlot .B
  if removeB ≠ .resetCompleted then return (m, removeB)
  match encodeRecord defaults 1 with
  | .error _ => return (m, .defaultWriteFailed)
  | .ok encoded => do
    let written ← writeSlot .A encoded
    if written = .unavailable then return (m, .storageUnavailable)
    if written ≠ .ok then return (m, .defaultWriteFailed)
    let reply ← readSlot .A
    if reply.result = .unavailable then return (m, .storageUnavailable)
    if reply.result ≠ .ok ∨ !verifies reply defaults 1 then return (m, .defaultVerifyFailed)
    let removed ← removeResetMarker
    if removed = .unavailable then return (m, .storageUnavailable)
    if removed ≠ .ok then return (m, .markerRemoveFailed)
    let marker ← readResetMarker
    if marker.result = .unavailable then return (m, .storageUnavailable)
    if marker.result ≠ .missing then return (m, .markerRemoveFailed)
    return ({ m with settings := defaults, generation := 1, activeSlot := .A, hasActiveSlot := true
                     repairPending := false, unsupportedSlotA := false, unsupportedSlotB := false },
      .resetCompleted)

/-- `lastResetResult_ = result; return lastResetResult_;` -/
def reports (r : SettingsManager × ResetResult) : SettingsManager × ResetResult :=
  ({ r.1 with lastResetResult := r.2 }, r.2)

def factoryReset (m : SettingsManager) : StoreM (SettingsManager × ResetResult) := do
  let written ← writeResetMarker true
  if written = .unavailable then return reports (m, .storageUnavailable)
  if written ≠ .ok then return reports (m, .markerWriteFailed)
  let marker ← readResetMarker
  if marker.result = .unavailable then return reports (m, .storageUnavailable)
  if marker.result ≠ .ok ∨ !marker.pending then return reports (m, .markerVerifyFailed)
  let r ← m.completeVerifiedReset
  return reports r

def recoverPendingReset (m : SettingsManager) : StoreM (SettingsManager × ResetResult) := do
  let marker ← readResetMarker
  if marker.result = .missing ∨ (marker.result = .ok ∧ !marker.pending) then
    return reports (m, .resetNotPending)
  if marker.result = .unavailable then return reports (m, .storageUnavailable)
  if marker.result ≠ .ok then return reports (m, .markerVerifyFailed)
  let r ← m.completeVerifiedReset
  return reports r

/-- The end of a load, with both slots read. -/
def selectSlots (m : SettingsManager) (slotA slotB : SlotRecord) : SettingsManager × LoadStatus :=
  if slotA.kind = SlotKind.unavailable ∨ slotB.kind = SlotKind.unavailable then (m, .storageUnavailable)
  else
    let m := { m with unsupportedSlotA := slotA.kind == SlotKind.unsupported
                      unsupportedSlotB := slotB.kind == SlotKind.unsupported }
    if !isUsable slotA && !isUsable slotB then
      if m.unsupportedSchema then (m, .unsupportedSchema)
      else if slotA.kind = SlotKind.missing ∧ slotB.kind = SlotKind.missing then (m, .defaultedMissing)
      else ({ m with repairPending := true }, .defaultedCorrupt)
    else if isUsable slotA && isUsable slotB then
      if slotA.generation = slotB.generation then
        if slotA.bytes ≠ slotB.bytes then ({ m with repairPending := true }, .defaultedCorrupt)
        else m.applySelected slotA .A false
      else if generationIsNewer slotA.generation slotB.generation then m.applySelected slotA .A false
      else if generationIsNewer slotB.generation slotA.generation then m.applySelected slotB .B false
      else ({ m with repairPending := true }, .defaultedCorrupt)
    else if isUsable slotA then m.applySelected slotA .A (slotB.kind == SlotKind.corrupt)
    else m.applySelected slotB .B (slotA.kind == SlotKind.corrupt)

/-- A load starts from a reset manager. -/
def load : StoreM (SettingsManager × LoadStatus) := do
  let (m, reset) ← initial.recoverPendingReset
  if reset = .resetCompleted then return (m, .resetCompleted)
  if reset = .storageUnavailable then return (m, .storageUnavailable)
  if reset ≠ .resetNotPending then return (m, .resetRecoveryFailed)
  let slotA ← readAndClassify .A
  let slotB ← readAndClassify .B
  return m.selectSlots slotA slotB

/-- The slot a save writes. -/
def target (m : SettingsManager) : RecordSlot := if m.hasActiveSlot then opposite m.activeSlot else .A

/-- `unrepaired` or `repaired`, by whether the candidate had to be repaired. -/
def byRepair (candidateRepaired : Bool) (repaired unrepaired : SaveStatus) : SaveStatus :=
  if candidateRepaired then repaired else unrepaired

def save (m : SettingsManager) (candidate : Settings) : StoreM (SettingsManager × SaveStatus) := do
  let (canonical, candidateRepaired) := validateAndRepair candidate
  if !m.hasActiveSlot && m.unsupportedSchema then return (m, .unsupportedSchema)
  if canonical = m.settings ∧ !m.repairPending then
    return (m, byRepair candidateRepaired .repairedUnchanged .unchanged)
  if m.isUnsupportedSlot m.target then return (m, .unsupportedSchema)
  match encodeRecord canonical (m.generation + 1) with
  | .error _ => return (m, .verificationFailed)
  | .ok encoded => do
    let written ← writeSlot m.target encoded
    if written = .unavailable then return (m, .storageUnavailable)
    if written ≠ .ok then return (m, .writeFailed)
    let reply ← readSlot m.target
    if reply.result = .unavailable then return (m, .storageUnavailable)
    if reply.result ≠ .ok then return (m, .readBackFailed)
    if !verifies reply canonical (m.generation + 1) then return (m, .verificationFailed)
    return ({ m with settings := canonical, generation := m.generation + 1, activeSlot := m.target
                     hasActiveSlot := true, repairPending := false },
      byRepair candidateRepaired .repairedSaved .saved)

end SettingsManager

end Redline.DeviceSettings
