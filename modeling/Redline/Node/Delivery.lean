import Redline.Node.Store

/-!
# Lifetime policy and delivery controller

`node_event_delivery.h`.  The `Policy` keeps, for every QUEUED slot, the milliseconds that have
passed and are not yet taken off the stored remaining seconds; `service` commits them in checkpoints
of sixty seconds and expires what has run out, and `recover` takes one checkpoint off every QUEUED
record for the time that a power cut has hidden.  The `Controller` works on the first entry of the
store's index: it arms an attempt, hands out the packet to transmit, waits for the admission
response and releases, retries or fails the Event.

The sequence number and the backoff jitter are arguments of the calls that draw them; observers and
diagnostic counters are written and never read, and are left out.
-/

namespace Redline.Node

open Redline.Wire Redline.Records Redline.Lib

def checkpointSeconds : UInt32 := 60
def checkpointMilliseconds : ℕ := 60000
def admissionTimeoutMilliseconds : UInt32 := 2500
def maxBackoffJitterMilliseconds : UInt16 := 250

/-! ### The policy -/

namespace Policy

inductive Status
  | ready | storeDegraded | debitFailure | checkpointFailure | expiryFailure | invalidSlot | notQueued
  deriving DecidableEq

end Policy

inductive AttemptResult
  | armed | exhausted | expired | notQueued | invalidSlot | storageFailure | degraded
  deriving DecidableEq

structure SlotRuntime where
  tracked : Bool
  baselineMilliseconds : UInt32
  /-- A `uint64_t` of the source, far from its end: a round of `service` leaves less than a checkpoint
  (`Settled.kept`). -/
  uncommittedMilliseconds : ℕ
  deriving DecidableEq

instance : Inhabited SlotRuntime := ⟨⟨false, 0, 0⟩⟩

structure Policy where
  runtime : SlotIndex → SlotRuntime
  ready : Bool
  status : Policy.Status

namespace Policy

/-- A freshly constructed policy; `reset()` of the source. -/
def initial : Policy := ⟨fun _ => default, false, .storeDegraded⟩

def fail (p : Policy) (status : Status) : Policy := { p with ready := false, status }

def setRuntime (p : Policy) (slot : SlotIndex) (runtime : SlotRuntime) : Policy :=
  { p with runtime := Function.update p.runtime slot runtime }

/-- The record of a slot, if it is QUEUED. -/
def queuedRecord? (store : Store) (slot : SlotIndex) : Option NodeRecord :=
  (store.recordAt slot).filter fun record => record.state = .queued

/-- The debit of one slot at boot. -/
def debitSlot (store : Store) (slot : SlotIndex) : StorageM (Store × MutationStatus) :=
  match queuedRecord? store slot with
  | none => return (store, .ok)
  | some record =>
    if record.remainingActiveSeconds ≤ checkpointSeconds then store.markExpired slot
    else store.checkpointRemaining slot (record.remainingActiveSeconds - checkpointSeconds)

def debitSlots (store : Store) : List SlotIndex → StorageM (Store × Bool)
  | [] => return (store, true)
  | slot :: rest => do
    let (store, mutation) ← debitSlot store slot
    if mutation ≠ .ok then return (store, false)
    debitSlots store rest

def initializeTrackedSlots (p : Policy) (store : Store) (nowMilliseconds : UInt32) : Policy :=
  { p with
    runtime := fun slot =>
      if (queuedRecord? store slot).isSome then ⟨true, nowMilliseconds, 0⟩ else p.runtime slot }

def recover (store : Store) (nowMilliseconds : UInt32) : StorageM (Store × Policy × Status) := do
  if !store.healthy then return (store, initial.fail .storeDegraded, .storeDegraded)
  let (store, debited) ← debitSlots store (List.finRange 8)
  if !debited then return (store, initial.fail .debitFailure, .debitFailure)
  return (store, { initial.initializeTrackedSlots store nowMilliseconds with
    ready := true, status := .ready }, .ready)

def trackEnqueued (p : Policy) (store : Store) (slot : ℕ) (nowMilliseconds : UInt32) : Policy × Status :=
  if !p.ready || !store.healthy then (p.fail .storeDegraded, .storeDegraded)
  else if h : slot < 8 then
    if (queuedRecord? store ⟨slot, h⟩).isNone then (p, .notQueued)
    else (p.setRuntime ⟨slot, h⟩ ⟨true, nowMilliseconds, 0⟩, .ready)
  else (p, .invalidSlot)

/-- The loop of `service` for one slot: checkpoints while sixty seconds have passed and more than
sixty remain, then the expiry.  It returns the milliseconds that are left uncommitted, or nothing
for a slot whose runtime is cleared.  Every round takes a checkpoint off, so `fuel` rounds are enough
for less than `fuel` checkpoints.  After a failure the policy is not ready, and its runtime is not
read again. -/
def settle (store : Store) (slot : SlotIndex) : ℕ → ℕ → StorageM (Store × Except Status (Option ℕ))
  | 0, uncommitted => return (store, .ok (some uncommitted))
  | fuel + 1, uncommitted =>
    match queuedRecord? store slot with
    | none => return (store, .ok none)
    | some record =>
      if record.remainingActiveSeconds > checkpointSeconds ∧ uncommitted ≥ checkpointMilliseconds then do
        let (store, mutation) ←
          store.checkpointRemaining slot (record.remainingActiveSeconds - checkpointSeconds)
        if mutation ≠ .ok then return (store, .error .checkpointFailure)
        settle store slot fuel (uncommitted - checkpointMilliseconds)
      else if uncommitted ≥ record.remainingActiveSeconds.toNat * 1000 then do
        let (store, mutation) ← store.markExpired slot
        if mutation ≠ .ok then return (store, .error .expiryFailure)
        return (store, .ok none)
      else return (store, .ok (some uncommitted))

/-- The rounds the loop can take. -/
def settleFuel (uncommitted : ℕ) : ℕ := uncommitted / checkpointMilliseconds + 1

def serviceSlot (p : Policy) (store : Store) (slot : SlotIndex) (nowMilliseconds : UInt32) :
    StorageM (Store × Policy × Status) := do
  let runtime := p.runtime slot
  if (queuedRecord? store slot).isNone then return (store, p.setRuntime slot default, .ready)
  if !runtime.tracked then return (store, p.setRuntime slot ⟨true, nowMilliseconds, 0⟩, .ready)
  let elapsed := nowMilliseconds - runtime.baselineMilliseconds
  let uncommitted := runtime.uncommittedMilliseconds + elapsed.toNat
  let (store, settled) ← settle store slot (settleFuel uncommitted) uncommitted
  match settled with
  | .error status => return (store, p.fail status, status)
  | .ok none => return (store, p.setRuntime slot default, .ready)
  | .ok (some uncommitted) =>
    return (store, p.setRuntime slot ⟨true, nowMilliseconds, uncommitted⟩, .ready)

def serviceSlots (p : Policy) (store : Store) (nowMilliseconds : UInt32) :
    List SlotIndex → StorageM (Store × Policy × Status)
  | [] => return (store, p, .ready)
  | slot :: rest => do
    let (store, p, status) ← p.serviceSlot store slot nowMilliseconds
    if status ≠ .ready then return (store, p, status)
    serviceSlots p store nowMilliseconds rest

def service (p : Policy) (store : Store) (nowMilliseconds : UInt32) :
    StorageM (Store × Policy × Status) := do
  if !p.ready || !store.healthy then return (store, p.fail .storeDegraded, .storeDegraded)
  p.serviceSlots store nowMilliseconds (List.finRange 8)

def eligible (p : Policy) (store : Store) (slot : ℕ) : Bool :=
  if h : slot < 8 then
    if !p.ready || !store.healthy || !(p.runtime ⟨slot, h⟩).tracked then false
    else
      match queuedRecord? store ⟨slot, h⟩ with
      | none => false
      | some record =>
        (p.runtime ⟨slot, h⟩).uncommittedMilliseconds < record.remainingActiveSeconds.toNat * 1000
  else false

def armAttempt (p : Policy) (store : Store) (slot : ℕ) (nowMilliseconds : UInt32) :
    StorageM (Store × Policy × AttemptResult) := do
  if !p.ready then return (store, p, .degraded)
  let (store, p, serviced) ← p.service store nowMilliseconds
  if serviced ≠ .ready then return (store, p, .storageFailure)
  if ¬ slot < 8 then return (store, p, .invalidSlot)
  match store.recordAt slot with
  | none => return (store, p, .expired)
  | some record =>
    if record.state = .expired then return (store, p, .expired)
    if record.state ≠ .queued then return (store, p, .notQueued)
    if !p.eligible store slot then return (store, p, .expired)
    let (store, attempt) ← store.armAttempt slot
    match attempt with
    | .armed => return (store, p, .armed)
    | .exhausted => return (store, p, .exhausted)
    | .invalidSlot => return (store, p, .invalidSlot)
    | .notQueued => return (store, p, .notQueued)
    | .storageFailure => return (store, p.fail .storeDegraded, .storageFailure)
    | .degraded => return (store, p.fail .storeDegraded, .degraded)

end Policy

/-! ### The controller -/

inductive RuntimeState
  | queued | ready | txPrepare | tx | waitAdmission | backoff | released | failed | expired
  deriving DecidableEq

inductive ControllerStatus
  | ok | noActiveEvent | invalidConfiguration | invalidState | sequenceFailure | encodeFailure
  | policyFailure | storageFailure | degraded
  deriving DecidableEq

/-- What the radio is asked to do. -/
inductive RadioAction
  | none
  | transmit (bytes : Bytes)
  | receive
  deriving DecidableEq

structure ControllerResult where
  status : ControllerStatus
  action : RadioAction
  deriving DecidableEq

def result (status : ControllerStatus) : ControllerResult := ⟨status, .none⟩
def receiveResult : ControllerResult := ⟨.ok, .receive⟩

structure Controller where
  policy : Policy
  source : UInt8
  destination : UInt8
  activeSlot : ℕ
  active : Bool
  initialized : Bool
  isDegraded : Bool
  correlationValid : Bool
  state : RuntimeState
  deadlineOrigin : UInt32
  deadlineDuration : UInt32
  attemptEvent : Event
  degradedResult : ControllerResult

/-- A freshly constructed controller; `reset()` of the source, which leaves the policy alone. -/
def Controller.initial (policy : Policy) : Controller where
  policy := policy
  source := 0
  destination := 0
  activeSlot := 0xFF
  active := false
  initialized := false
  isDegraded := false
  correlationValid := false
  state := .queued
  deadlineOrigin := 0
  deadlineDuration := 0
  attemptEvent := default
  degradedResult := result .ok

/-- What a Node keeps in RAM: the store, and the controller with its policy. -/
structure Ram where
  store : Store
  controller : Controller

namespace Ram

def initial : Ram := ⟨.initial, .initial .initial⟩

def usable (n : Ram) : Bool :=
  n.controller.initialized && !n.controller.isDegraded && n.store.healthy && n.controller.policy.ready

def record (n : Ram) : Option NodeRecord :=
  if n.controller.active then n.store.recordAt n.controller.activeSlot else none

def terminal (n : Ram) : Bool :=
  n.controller.state = .released ∨ n.controller.state = .failed ∨ n.controller.state = .expired

def setState (n : Ram) (state : RuntimeState) : Ram :=
  { n with controller := { n.controller with state } }

def clearAttempt (n : Ram) : Ram :=
  { n with controller := { n.controller with correlationValid := false, attemptEvent := default
                                             deadlineOrigin := 0, deadlineDuration := 0 } }

def deactivate (n : Ram) : Ram := { n with controller := { n.controller with active := false } }

/-- Take up the first entry of the index, if there is one. -/
def loadHead (n : Ram) : Ram :=
  match n.store.queuedAt 0 with
  | none => n
  | some slot =>
    { n with controller := { n.controller with active := true, activeSlot := slot, state := .queued } }

def degrade (n : Ram) (status : ControllerStatus) (receive : Bool) : Ram × ControllerResult :=
  let degradedResult := ⟨status, if receive then .receive else .none⟩
  ({ n with controller := { n.controller with isDegraded := true, degradedResult } }, degradedResult)

def headStillAuthoritative (n : Ram) : Bool :=
  match n.store.queuedAt 0, n.record with
  | some slot, some record => slot.val == n.controller.activeSlot && record.state = .queued
  | _, _ => false

/-- Age every slot, and follow the active one into its expiry. -/
def serviceLifetime (n : Ram) (now : UInt32) : StorageM (Ram × Bool) := do
  let (store, policy, status) ← n.controller.policy.service n.store now
  let n : Ram := ⟨store, { n.controller with policy }⟩
  if status ≠ .ready then return ((n.degrade .policyFailure true).1, false)
  match n.record with
  | none => return (n, true)
  | some current =>
    if current.state = .expired then return ((n.setState .expired).clearAttempt, true)
    else return (n, true)

def markFailed (n : Ram) : StorageM (Ram × Bool) := do
  let (store, mutation) ← n.store.markFailed n.controller.activeSlot
  let n := { n with store }
  if mutation ≠ .ok then return (n, false)
  return ((n.setState .failed).clearAttempt, true)

/-- The backoff before the next attempt; the source indexes a table of four entries with the number
of attempts less one. -/
def backoffBase (attemptsUsed : UInt8) : UInt32 :=
  match attemptsUsed with
  | 1 => 1000
  | 2 => 2000
  | 3 => 4000
  | 4 => 8000
  | _ => 0

def failedAttempt (n : Ram) (now : UInt32) (jitter : UInt16) : StorageM (Ram × ControllerResult) := do
  let exhausted := match n.record with
    | none => true
    | some current => decide (current.attemptsUsed ≥ maxAttempts)
  if exhausted then do
    let (n, failed) ← n.markFailed
    if !failed then return n.degrade .storageFailure true
    return (n, receiveResult)
  else
    if jitter > maxBackoffJitterMilliseconds then return n.degrade .invalidConfiguration true
    let attemptsUsed := (n.record.map NodeRecord.attemptsUsed).getD 0
    return ({ n with controller :=
      { n.controller with deadlineOrigin := now
                          deadlineDuration := backoffBase attemptsUsed + jitter.toUInt32
                          state := .backoff } }, receiveResult)

/-! ### The calls -/

def recover (n : Ram) (sourceDeviceId hubDeviceId : UInt8) (now : UInt32) :
    StorageM (Ram × ControllerResult) := do
  let n : Ram := ⟨n.store, .initial n.controller.policy⟩
  if !hasValidEndpoints sourceDeviceId hubDeviceId then return (n, result .invalidConfiguration)
  let (store, policy, status) ← Policy.recover n.store now
  let n : Ram := ⟨store, { n.controller with source := sourceDeviceId, destination := hubDeviceId
                                             policy }⟩
  if status ≠ .ready then return n.degrade .policyFailure false
  let n := { n with controller := { n.controller with initialized := true } }.loadHead
  if (n.record.map fun record => decide (record.attemptsUsed ≥ maxAttempts)).getD false then do
    let (n, failed) ← n.markFailed
    if !failed then return n.degrade .storageFailure true
    return (n, result (if n.controller.active then .ok else .noActiveEvent))
  else return (n, result (if n.controller.active then .ok else .noActiveEvent))

def trackEnqueued (n : Ram) (slot : ℕ) (now : UInt32) : Ram × ControllerStatus :=
  if !n.usable then ((n.degrade .degraded false).1, .degraded)
  else
    let (policy, status) := n.controller.policy.trackEnqueued n.store slot now
    let n := { n with controller := { n.controller with policy } }
    if status ≠ .ready then ((n.degrade .policyFailure false).1, .policyFailure)
    else (n, .ok)

/-- The part of `service` after the lifetime has been serviced. -/
def advance (n : Ram) (now : UInt32) (synchronousWork : Bool) (jitter : UInt16) :
    StorageM (Ram × ControllerResult) :=
  match n.controller.state with
  | .queued => do
    if (n.record.map fun record => decide (record.attemptsUsed ≥ maxAttempts)).getD false then do
      let (n, failed) ← n.markFailed
      if !failed then return n.degrade .storageFailure true
      return (n, result .ok)
    else return (if synchronousWork then n else n.setState .ready, result .ok)
  | .ready => return (if synchronousWork then n.setState .queued else n, result .ok)
  | .waitAdmission =>
    if now - n.controller.deadlineOrigin ≥ admissionTimeoutMilliseconds then n.failedAttempt now jitter
    else return (n, result .ok)
  | .backoff =>
    if now - n.controller.deadlineOrigin ≥ n.controller.deadlineDuration then
      return (n.setState (if synchronousWork then .queued else .ready), result .ok)
    else return (n, result .ok)
  | _ => return (n, result .ok)

def service (n : Ram) (now : UInt32) (synchronousWork : Bool) (jitter : UInt16) :
    StorageM (Ram × ControllerResult) := do
  if !n.usable then return (n, result .degraded)
  let n := if n.controller.state = .released then n.clearAttempt.deactivate.loadHead else n
  let n := if !n.controller.active then n.loadHead else n
  if !n.controller.active then return (n, result .noActiveEvent)
  let (n, serviced) ← n.serviceLifetime now
  if !serviced then return (n, n.controller.degradedResult)
  if n.controller.state = .expired then return (n, receiveResult)
  if n.terminal then return (n, result .ok)
  n.advance now synchronousWork jitter

/-- The Event of an attempt, from the record that is in force. -/
def eventOf (source destination sequence : UInt8) (current : NodeRecord) : Event where
  source := source
  destination := destination
  sequence := sequence
  family := current.family
  epoch := current.eventEpoch
  id := current.eventId
  flags := current.flags
  lifetimeBudgetSeconds := current.lifetimeBudgetSeconds
  bodyLength := current.bodyLength
  body := bodyOf (current.body.toList.take current.bodyLength.toNat)

/-- The part of `grantTransmit` after the attempt has been armed. -/
def transmit (n : Ram) (sequence : Option UInt8) : Ram × ControllerResult :=
  match sequence with
  | none => n.degrade .sequenceFailure true
  | some sequence =>
    match n.record with
    | none => n.degrade .encodeFailure true
    | some current =>
      let attemptEvent := eventOf n.controller.source n.controller.destination sequence current
      let n := { n with controller := { n.controller with attemptEvent } }
      match encodeEvent attemptEvent maxPacketSize with
      | none => n.degrade .encodeFailure true
      | some bytes =>
        ({ n with controller := { n.controller with correlationValid := true, state := .tx } },
          ⟨.ok, .transmit bytes⟩)

def grantTransmit (n : Ram) (now : UInt32) (sequence : Option UInt8) :
    StorageM (Ram × ControllerResult) := do
  if !n.usable then return (n, result .degraded)
  if !n.controller.active || n.controller.state ≠ .ready then return (n, result .invalidState)
  let (n, serviced) ← (n.setState .txPrepare).serviceLifetime now
  if !serviced then return (n, n.controller.degradedResult)
  if n.controller.state = .expired then return (n, receiveResult)
  if !n.headStillAuthoritative then return n.degrade .policyFailure true
  let (store, policy, attempt) ← n.controller.policy.armAttempt n.store n.controller.activeSlot now
  let n : Ram := ⟨store, { n.controller with policy }⟩
  match attempt with
  | .armed => return n.transmit sequence
  | .expired => return (n.setState .expired, receiveResult)
  | .exhausted => do
    let (n, failed) ← n.markFailed
    if failed then return (n, receiveResult)
    else return n.degrade .storageFailure true
  | _ => return n.degrade .storageFailure true

/-- The calls that report about a transmission share their guard and the servicing of lifetimes; the
rest is `next`, which does not see an expired Event. -/
def duringState (n : Ram) (state : RuntimeState) (now : UInt32)
    (next : Ram → StorageM (Ram × ControllerResult)) : StorageM (Ram × ControllerResult) := do
  if !n.usable || n.controller.state ≠ state then return (n, result .invalidState)
  let (n, serviced) ← n.serviceLifetime now
  if !serviced then return (n, n.controller.degradedResult)
  if n.controller.state = .expired then return (n, receiveResult)
  next n

def txStarted (n : Ram) (now : UInt32) : StorageM (Ram × ControllerResult) :=
  n.duringState .tx now fun n => return (n, result .ok)

def txStartFailed (n : Ram) (now : UInt32) (jitter : UInt16) : StorageM (Ram × ControllerResult) :=
  n.duringState .tx now fun n => n.failedAttempt now jitter

def txCompleted (n : Ram) (now : UInt32) : StorageM (Ram × ControllerResult) :=
  n.duringState .tx now fun n =>
    return ({ n with controller :=
      { n.controller with state := .waitAdmission, deadlineOrigin := now
                          deadlineDuration := admissionTimeoutMilliseconds } }, receiveResult)

/-- What a matching response does to the active Event. -/
def answered (n : Ram) (status : AdmissionStatus) (now : UInt32) (jitter : UInt16) :
    StorageM (Ram × ControllerResult) :=
  match status with
  | .admitted => do
    let (store, mutation) ← n.store.releaseQueued n.controller.activeSlot
    let n := { n with store }
    if mutation ≠ .ok then return n.degrade .storageFailure true
    return ((n.setState .released).clearAttempt, receiveResult)
  | .capacity => n.failedAttempt now jitter
  | .identityContentMismatch | .unsupportedEvent | .malformedEvent => do
    let (n, failed) ← n.markFailed
    if !failed then return n.degrade .storageFailure true
    return (n, receiveResult)

def admissionCandidate (n : Ram) (bytes : Bytes) (now : UInt32) (jitter : UInt16) :
    StorageM (Ram × ControllerResult) :=
  n.duringState .waitAdmission now fun n =>
    match decodeAdmissionResponse bytes with
    | none => return (n, receiveResult)
    | some response =>
      if !n.controller.correlationValid || !matchesEvent response n.controller.attemptEvent then
        return (n, receiveResult)
      else n.answered response.status now jitter

def reclaimTerminal (n : Ram) : StorageM (Ram × ControllerResult) := do
  if !n.usable || !n.controller.active ||
      (n.controller.state ≠ .failed && n.controller.state ≠ .expired) then
    return (n, result .invalidState)
  let (store, mutation) ← n.store.reclaim n.controller.activeSlot
  let n := { n with store }
  if mutation ≠ .ok then return n.degrade .storageFailure true
  return (n.deactivate.clearAttempt, result .ok)

/-! ### Reclamation of terminal records -/

def isTerminalRecord (record : Option NodeRecord) : Bool :=
  match record with
  | none => false
  | some record => record.state = .failed ∨ record.state = .expired

/-- Free every terminal slot; the active one through the controller, if there is one. -/
def reclaimSlots (n : Ram) (withController : Bool) : List SlotIndex → StorageM (Ram × Bool)
  | [] => return (n, true)
  | slot :: rest => do
    if !isTerminalRecord (n.store.recordAt slot) then reclaimSlots n withController rest
    else if withController && n.controller.active && n.controller.activeSlot == slot.val then do
      let (n, reclaimed) ← n.reclaimTerminal
      if reclaimed.status ≠ .ok then return (n, false)
      reclaimSlots n withController rest
    else do
      let (store, mutation) ← n.store.reclaim slot
      let n := { n with store }
      if mutation ≠ .ok then return (n, false)
      reclaimSlots n withController rest

def reclaimTerminals (n : Ram) (withController : Bool) : StorageM (Ram × Bool) := do
  if !n.store.healthy then return (n, false)
  n.reclaimSlots withController (List.finRange 8)

/-- Creation by a local producer (`TrackedCreationSink`): the enqueue, then the start of its
lifetime. -/
def create (n : Ram) (input : EventInput) (clock : UInt32) : StorageM (Ram × EnqueueResult) := do
  if n.controller.isDegraded then return (n, ⟨.storageFailure, default, none⟩)
  let (store, enqueued) ← n.store.enqueue input
  let n := { n with store }
  match enqueued.slot with
  | none => return (n, enqueued)
  | some slot =>
    let (n, tracked) := n.trackEnqueued slot clock
    if tracked ≠ .ok then return (n, { enqueued with status := .storageFailure })
    return (n, enqueued)

/-- The start of the firmware (`setup()` of the Node): the store, the terminal records a previous
boot has left, and the controller. -/
def boot (sourceDeviceId hubDeviceId : UInt8) (entropy : Option UInt32) (now : UInt32) :
    StorageM (Ram × ControllerResult) := do
  let (store, status) ← Store.recover entropy sourceDeviceId
  let n : Ram := { Ram.initial with store }
  if status ≠ .ready then return (n, result .degraded)
  let (n, reclaimed) ← n.reclaimTerminals false
  if !reclaimed then return (n, result .degraded)
  n.recover sourceDeviceId hubDeviceId now

end Ram

end Redline.Node
