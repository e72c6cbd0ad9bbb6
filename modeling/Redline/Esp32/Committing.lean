import Redline.Esp32.EventStorage
import Redline.Node.Machine
import Redline.Hub.Machine

/-!
# The code over the Event storage commits what it writes

Every call of the Node and of the Hub writes its copies at their exact sizes and commits each write before anything
else: one lemma for each function that reaches the storage, in the order of the source.
-/

namespace Redline.Esp32.Side

open Redline.Wire Redline.Records Redline.Lib

/-! ### Rules -/

section Rules

variable {side : Side} {α β : Type} {p q : StorageM α} {f : β → StorageM α}

theorem committing_pure (a : α) : side.Committing (pure a : StorageM α) := trivial

theorem committing_bind {p : StorageM β} (hp : side.Committing p) (hf : ∀ b, side.Committing (f b)) :
    side.Committing (p >>= f) := by
  induction p with
  | pure b => exact hf b
  | call op next ih =>
    cases op with
    | write key bytes =>
      obtain ⟨hsize, ⟨rest, hrest⟩, hnext⟩ := hp
      refine ⟨hsize, ⟨fun r => rest r >>= f, ?_⟩, fun r => ih r (hnext r)⟩
      dsimp only
      rw [hrest]
      rfl
    | _ => exact fun r => ih r (hp r)

theorem committing_readBlob {key : StorageKey} {f : ReadReply → StorageM α} (h : ∀ r, side.Committing (f r)) :
    side.Committing (Records.readBlob key >>= f) := h

theorem committing_commitStorage {f : StorageResult → StorageM α} (h : ∀ r, side.Committing (f r)) :
    side.Committing (commitStorage >>= f) := h

theorem committing_writeBlob {key : StorageKey} {bytes : Bytes} {f rest : StorageResult → StorageM α}
    (hsize : bytes.length = side.geometry.size key) (hrest : f .ok = commitStorage >>= rest)
    (h : ∀ r, side.Committing (f r)) : side.Committing (Records.writeBlob key bytes >>= f) :=
  ⟨hsize, ⟨rest, hrest⟩, h⟩

theorem committing_ite {c : Prop} [Decidable c] (hp : side.Committing p) (hq : side.Committing q) :
    side.Committing (if c then p else q) := by
  split
  · exact hp
  · exact hq

/-- An early return. -/
theorem committing_guard {c : Prop} [Decidable c] {a : α} (hq : side.Committing q) :
    side.Committing (if c then pure a else q) :=
  committing_ite (committing_pure a) hq

end Rules

/-! ### The Node -/

section Node

open Redline.Node

theorem allocator_readCopy (copy : CopySlot) : node.Committing (Allocator.readCopy copy) := by
  apply committing_readBlob
  intro reply
  exact committing_guard (committing_ite (committing_guard trivial) trivial)

theorem allocator_commitMetadata (a : Allocator) (next : NodeMetadata) : node.Committing (a.commitMetadata next) := by
  unfold Allocator.commitMetadata
  cases hencoded : encodeNodeMetadata next with
  | error _ => trivial
  | ok encoded =>
    apply committing_writeBlob
    · exact length_of_decodeNodeMetadata (decodeNodeMetadata_encode hencoded)
    · rfl
    · intro result
      apply committing_guard
      apply committing_guard
      apply committing_commitStorage
      intro result
      apply committing_guard
      apply committing_guard
      apply committing_readBlob
      intro readBack
      apply committing_guard
      apply committing_guard
      apply committing_guard
      split
      · trivial
      · exact committing_guard trivial

theorem allocator_initializeFresh (a : Allocator) (entropy : Option UInt32) :
    node.Committing (a.initializeFresh entropy) := by
  unfold Allocator.initializeFresh
  cases entropy with
  | none => trivial
  | some epoch => exact committing_guard (allocator_commitMetadata _ _)

theorem allocator_recover (entropy : Option UInt32) (device : UInt8) (custody : CustodyState) :
    node.Committing (Allocator.recover entropy device custody) := by
  apply committing_guard
  apply committing_guard
  apply committing_bind (allocator_readCopy _)
  intro copyA
  apply committing_bind (allocator_readCopy _)
  intro copyB
  cases copyA with
  | none => trivial
  | some copyA =>
    cases copyB with
    | none => trivial
    | some copyB =>
      apply committing_guard
      apply committing_guard
      apply committing_ite
      · exact committing_guard (allocator_initializeFresh _ _)
      · apply committing_ite
        · exact committing_guard (allocator_initializeFresh _ _)
        · apply committing_ite
          · exact committing_guard trivial
          · exact committing_ite (allocator_initializeFresh _ _) trivial

theorem allocator_allocate (a : Allocator) : node.Committing a.allocate := by
  have hreserve : node.Committing a.reserveBlock := by
    apply committing_ite
    · apply committing_guard
      apply committing_bind (allocator_commitMetadata _ _)
      rintro ⟨a, committed⟩
      exact committing_guard trivial
    · apply committing_bind (allocator_commitMetadata _ _)
      rintro ⟨a, committed⟩
      exact committing_guard trivial
  apply committing_guard
  apply committing_ite
  · apply committing_bind hreserve
    rintro ⟨a, reservation⟩
    exact committing_guard trivial
  · trivial

theorem store_readRecordCopy (s : Store) (slot : SlotIndex) (copy : CopySlot) :
    node.Committing (s.readRecordCopy slot copy) := by
  apply committing_readBlob
  intro reply
  exact committing_guard (committing_guard (committing_guard trivial))

theorem store_writeVerify (s : Store) (slot : SlotIndex) (target : CopySlot) {record : NodeRecord} {encoded : Bytes}
    (h : encodeNodeRecord record = .ok encoded) : node.Committing (s.writeVerify slot target encoded) := by
  apply committing_writeBlob
  · exact length_of_decodeNodeRecord (decodeNodeRecord_encode h)
  · rfl
  · intro result
    apply committing_guard
    apply committing_commitStorage
    intro result
    apply committing_guard
    apply committing_readBlob
    intro readBack
    apply committing_guard
    apply committing_guard
    apply committing_guard
    split
    · trivial
    · exact committing_guard trivial

theorem store_commitMutation (s : Store) (slot : SlotIndex) (record : NodeRecord) :
    node.Committing (s.commitMutation slot record) := by
  unfold Store.commitMutation
  cases hencoded : encodeNodeRecord record with
  | error _ => trivial
  | ok encoded =>
    apply committing_bind (store_writeVerify s slot _ hencoded)
    rintro ⟨s, written⟩
    apply committing_guard
    apply committing_bind (store_readRecordCopy s slot _)
    rintro ⟨s, oldCopy⟩
    cases oldCopy with
    | none => trivial
    | some oldCopy =>
      apply committing_bind (store_readRecordCopy s slot _)
      rintro ⟨s, newCopy⟩
      cases newCopy with
      | none => trivial
      | some newCopy => exact committing_guard trivial

theorem store_scanSlots (s : Store) (allCopiesMissing anyNonempty : Bool) (slots : List SlotIndex) :
    node.Committing (s.scanSlots allCopiesMissing anyNonempty slots) := by
  induction slots generalizing s allCopiesMissing anyNonempty with
  | nil => trivial
  | cons slot rest ih =>
    apply committing_bind (store_readRecordCopy s slot _)
    rintro ⟨s, copyA⟩
    cases copyA with
    | none => trivial
    | some copyA =>
      apply committing_bind (store_readRecordCopy s slot _)
      rintro ⟨s, copyB⟩
      cases copyB with
      | none => trivial
      | some copyB => exact committing_guard (committing_ite (ih _ _ _) (ih _ _ _))

theorem store_initializeSlots (s : Store) (slots : List SlotIndex) : node.Committing (s.initializeSlots slots) := by
  induction slots generalizing s with
  | nil => trivial
  | cons slot rest ih =>
    have hinitial : node.Committing (s.commitInitialFree slot (Store.freeRecord 1)) := by
      unfold Store.commitInitialFree
      cases hencoded : encodeNodeRecord (Store.freeRecord 1) with
      | error _ => trivial
      | ok encoded =>
        apply committing_bind (store_writeVerify s slot _ hencoded)
        rintro ⟨s, written⟩
        exact committing_guard trivial
    apply committing_bind hinitial
    rintro ⟨s, written⟩
    exact committing_guard (ih s)

theorem store_recover (entropy : Option UInt32) (device : UInt8) : node.Committing (Store.recover entropy device) := by
  have hidentity : ∀ (s : Store) (anyNonempty : Bool), node.Committing (s.recoverIdentity entropy anyNonempty) := by
    intro s anyNonempty
    apply committing_bind (allocator_recover entropy s.sourceDeviceId _)
    rintro ⟨allocator, identityStatus⟩
    exact committing_guard (committing_guard trivial)
  apply committing_guard
  apply committing_bind (store_scanSlots _ _ _ _)
  rintro ⟨s, scanned⟩
  cases scanned with
  | none => trivial
  | some scanned =>
    apply committing_ite
    · apply committing_bind (store_initializeSlots s _)
      rintro ⟨s, initialized⟩
      exact committing_guard (hidentity s _)
    · exact committing_guard (hidentity s _)

theorem store_enqueue (s : Store) (input : EventInput) : node.Committing (s.enqueue input) := by
  apply committing_guard
  apply committing_guard
  cases s.firstFree with
  | none => trivial
  | some freeSlot =>
    apply committing_bind (allocator_allocate s.allocator)
    rintro ⟨allocator, allocation⟩
    apply committing_guard
    apply committing_bind (store_commitMutation _ _ _)
    rintro ⟨s, committed⟩
    exact committing_guard (committing_guard trivial)

theorem store_commitIndexed (s : Store) (slot : SlotIndex) (record : NodeRecord) :
    node.Committing (s.commitIndexed slot record) := by
  apply committing_bind (store_commitMutation s slot record)
  rintro ⟨s, committed⟩
  exact committing_guard (committing_guard trivial)

theorem store_transition (s : Store) (slot : ℕ) (source target : NodeState) :
    node.Committing (s.transition slot source target) := by
  apply committing_guard
  split
  · exact committing_guard (store_commitIndexed _ _ _)
  · trivial

theorem store_reclaim (s : Store) (slot : ℕ) : node.Committing (s.reclaim slot) := by
  apply committing_guard
  split
  · exact committing_guard (store_commitIndexed _ _ _)
  · trivial

theorem store_releaseQueued (s : Store) (slot : ℕ) : node.Committing (s.releaseQueued slot) := by
  apply committing_guard
  split
  · exact committing_guard (store_commitIndexed _ _ _)
  · trivial

theorem store_checkpointRemaining (s : Store) (slot : ℕ) (remaining : UInt32) :
    node.Committing (s.checkpointRemaining slot remaining) := by
  apply committing_guard
  split
  · apply committing_guard
    apply committing_bind (store_commitMutation _ _ _)
    rintro ⟨s, committed⟩
    exact committing_guard trivial
  · trivial

theorem store_armAttempt (s : Store) (slot : ℕ) : node.Committing (s.armAttempt slot) := by
  apply committing_guard
  split
  · apply committing_guard
    apply committing_guard
    apply committing_bind (store_commitMutation _ _ _)
    rintro ⟨s, committed⟩
    exact committing_guard trivial
  · trivial

theorem policy_debitSlots (store : Store) (slots : List SlotIndex) : node.Committing (Policy.debitSlots store slots) := by
  induction slots generalizing store with
  | nil => trivial
  | cons slot rest ih =>
    have hdebit : node.Committing (Policy.debitSlot store slot) := by
      unfold Policy.debitSlot
      split
      · trivial
      · exact committing_ite (store_transition _ _ _ _) (store_checkpointRemaining _ _ _)
    apply committing_bind hdebit
    rintro ⟨store, mutation⟩
    exact committing_guard (ih store)

theorem policy_recover (store : Store) (now : UInt32) : node.Committing (Policy.recover store now) := by
  apply committing_guard
  apply committing_bind (policy_debitSlots store _)
  rintro ⟨store, debited⟩
  exact committing_guard trivial

theorem policy_settle (store : Store) (slot : SlotIndex) (fuel uncommitted : ℕ) :
    node.Committing (Policy.settle store slot fuel uncommitted) := by
  induction fuel generalizing store uncommitted with
  | zero => trivial
  | succ fuel ih =>
    unfold Policy.settle
    split
    · trivial
    · apply committing_ite
      · apply committing_bind (store_checkpointRemaining _ _ _)
        rintro ⟨store, mutation⟩
        exact committing_guard (ih store _)
      · apply committing_ite
        · apply committing_bind (store_transition _ _ _ _)
          rintro ⟨store, mutation⟩
          exact committing_guard trivial
        · trivial

theorem policy_serviceSlots (p : Policy) (store : Store) (now : UInt32) (slots : List SlotIndex) :
    node.Committing (p.serviceSlots store now slots) := by
  induction slots generalizing p store with
  | nil => trivial
  | cons slot rest ih =>
    have hslot : node.Committing (p.serviceSlot store slot now) := by
      apply committing_guard
      apply committing_guard
      apply committing_bind (policy_settle store slot _ _)
      rintro ⟨store, settled⟩
      rcases settled with status | _ | uncommitted <;> trivial
    apply committing_bind hslot
    rintro ⟨store, p, status⟩
    exact committing_guard (ih p store)

theorem policy_service (p : Policy) (store : Store) (now : UInt32) : node.Committing (p.service store now) :=
  committing_guard (policy_serviceSlots p store now _)

theorem policy_armAttempt (p : Policy) (store : Store) (slot : ℕ) (now : UInt32) :
    node.Committing (p.armAttempt store slot now) := by
  apply committing_guard
  apply committing_bind (policy_service p store now)
  rintro ⟨store, p, serviced⟩
  apply committing_guard
  apply committing_guard
  dsimp only
  cases store.recordAt slot with
  | none => trivial
  | some record =>
    apply committing_guard
    apply committing_guard
    apply committing_guard
    apply committing_bind (store_armAttempt store slot)
    rintro ⟨store, attempt⟩
    cases attempt <;> trivial

theorem ram_serviceLifetime (n : Ram) (now : UInt32) : node.Committing (n.serviceLifetime now) := by
  apply committing_bind (policy_service _ _ now)
  rintro ⟨store, policy, status⟩
  apply committing_guard
  dsimp only
  split
  · trivial
  · exact committing_guard trivial

theorem ram_markFailed (n : Ram) : node.Committing n.markFailed := by
  apply committing_bind (store_transition _ _ _ _)
  rintro ⟨store, mutation⟩
  exact committing_guard trivial

theorem ram_failedAttempt (n : Ram) (now : UInt32) (jitter : UInt16) : node.Committing (n.failedAttempt now jitter) := by
  apply committing_ite
  · apply committing_bind (ram_markFailed n)
    rintro ⟨n, failed⟩
    exact committing_guard trivial
  · exact committing_guard trivial

theorem ram_recover (n : Ram) (device hub : UInt8) (now : UInt32) : node.Committing (n.recover device hub now) := by
  apply committing_guard
  apply committing_bind (policy_recover _ now)
  rintro ⟨store, policy, status⟩
  apply committing_guard
  apply committing_ite
  · apply committing_bind (ram_markFailed _)
    rintro ⟨n, failed⟩
    exact committing_guard trivial
  · trivial

theorem ram_service (n : Ram) (now : UInt32) (synchronousWork : Bool) (jitter : UInt16) :
    node.Committing (n.service now synchronousWork jitter) := by
  apply committing_guard
  apply committing_guard
  apply committing_bind (ram_serviceLifetime _ now)
  rintro ⟨n, serviced⟩
  apply committing_guard
  apply committing_guard
  apply committing_guard
  unfold Ram.advance
  dsimp only
  split
  · apply committing_ite
    · apply committing_bind (ram_markFailed n)
      rintro ⟨n, failed⟩
      exact committing_guard trivial
    · trivial
  · trivial
  · exact committing_ite (ram_failedAttempt n now jitter) trivial
  · exact committing_guard trivial
  · trivial

theorem ram_grantTransmit (n : Ram) (now : UInt32) (sequence : Option UInt8) :
    node.Committing (n.grantTransmit now sequence) := by
  apply committing_guard
  apply committing_guard
  apply committing_bind (ram_serviceLifetime _ now)
  rintro ⟨n, serviced⟩
  apply committing_guard
  apply committing_guard
  apply committing_guard
  apply committing_bind (policy_armAttempt _ _ _ now)
  rintro ⟨store, policy, attempt⟩
  cases attempt with
  | exhausted =>
    apply committing_bind (ram_markFailed _)
    rintro ⟨n, failed⟩
    exact committing_guard trivial
  | _ => trivial

theorem ram_duringState (n : Ram) (state : RuntimeState) (now : UInt32)
    {next : Ram → StorageM (Ram × ControllerResult)} (h : ∀ n, node.Committing (next n)) :
    node.Committing (n.duringState state now next) := by
  apply committing_guard
  apply committing_bind (ram_serviceLifetime n now)
  rintro ⟨n, serviced⟩
  exact committing_guard (committing_guard (h n))

theorem ram_answered (n : Ram) (status : AdmissionStatus) (now : UInt32) (jitter : UInt16) :
    node.Committing (n.answered status now jitter) := by
  cases status with
  | admitted =>
    apply committing_bind (store_releaseQueued _ _)
    rintro ⟨store, mutation⟩
    exact committing_guard trivial
  | capacity => exact ram_failedAttempt n now jitter
  | _ =>
    apply committing_bind (ram_markFailed n)
    rintro ⟨n, failed⟩
    exact committing_guard trivial

theorem ram_admissionCandidate (n : Ram) (bytes : Bytes) (now : UInt32) (jitter : UInt16) :
    node.Committing (n.admissionCandidate bytes now jitter) := by
  apply ram_duringState
  intro n
  split
  · trivial
  · exact committing_guard (ram_answered n _ now jitter)

theorem ram_reclaimTerminal (n : Ram) : node.Committing n.reclaimTerminal := by
  apply committing_guard
  apply committing_bind (store_reclaim _ _)
  rintro ⟨store, mutation⟩
  exact committing_guard trivial

theorem ram_reclaimTerminals (n : Ram) (withController : Bool) : node.Committing (n.reclaimTerminals withController) := by
  have hslots : ∀ slots : List SlotIndex, ∀ n : Ram, node.Committing (n.reclaimSlots withController slots) := by
    intro slots
    induction slots with
    | nil => exact fun _ => trivial
    | cons slot rest ih =>
      intro n
      apply committing_ite (ih n)
      apply committing_ite
      · apply committing_bind (ram_reclaimTerminal n)
        rintro ⟨n, reclaimed⟩
        exact committing_guard (ih n)
      · apply committing_bind (store_reclaim _ _)
        rintro ⟨store, mutation⟩
        exact committing_guard (ih _)
  exact committing_guard (hslots _ n)

theorem ram_create (n : Ram) (input : EventInput) (clock : UInt32) : node.Committing (n.create input clock) := by
  apply committing_guard
  apply committing_bind (store_enqueue _ input)
  rintro ⟨store, enqueued⟩
  dsimp only
  split
  · trivial
  · exact committing_guard trivial

theorem ram_boot (device hub : UInt8) (entropy : Option UInt32) (now : UInt32) :
    node.Committing (Ram.boot device hub entropy now) := by
  apply committing_bind (store_recover entropy device)
  rintro ⟨store, status⟩
  apply committing_guard
  apply committing_bind (ram_reclaimTerminals _ _)
  rintro ⟨n, reclaimed⟩
  exact committing_guard (ram_recover n device hub now)

/-- **Every call of the Node commits what it writes.** -/
theorem node_committing (device hub : UInt8) (now : UInt32) (n : Ram) (call : Node.Call) :
    node.Committing (call.run device hub now n) := by
  have hreturn : ∀ {β γ : Type} {p : StorageM β} {f : β → γ}, node.Committing p →
      node.Committing (p >>= fun b => pure (f b)) := fun h => committing_bind h fun _ => trivial
  cases call with
  | recoverStore entropy => exact hreturn (store_recover entropy device)
  | recoverController => exact hreturn (ram_recover n device hub now)
  | boot entropy => exact hreturn (ram_boot device hub entropy now)
  | enqueue input => exact hreturn (store_enqueue _ input)
  | trackEnqueued slot => trivial
  | create input => exact hreturn (ram_create n input now)
  | service synchronousWork jitter => exact hreturn (ram_service n now synchronousWork jitter)
  | grantTransmit sequence => exact hreturn (ram_grantTransmit n now sequence)
  | txStarted => exact hreturn (ram_duringState n .tx now fun _ => trivial)
  | txStartFailed jitter => exact hreturn (ram_duringState n .tx now fun n => ram_failedAttempt n now jitter)
  | txCompleted => exact hreturn (ram_duringState n .tx now fun _ => trivial)
  | admissionCandidate bytes jitter => exact hreturn (ram_admissionCandidate n bytes now jitter)
  | reclaimTerminal => exact hreturn (ram_reclaimTerminal n)
  | reclaimTerminals withController => exact hreturn (ram_reclaimTerminals n withController)

end Node

/-! ### The Hub -/

section Hub

open Redline.Hub

theorem ledger_readMetadataCopy (l : Ledger) (copy : CopySlot) : hub.Committing (l.readMetadataCopy copy) := by
  apply committing_readBlob
  intro reply
  split <;> trivial

theorem ledger_readRecordCopy (l : Ledger) (slot : SlotIndex) (copy : CopySlot) :
    hub.Committing (l.readRecordCopy slot copy) := by
  apply committing_readBlob
  intro reply
  split <;> trivial

theorem ledger_commitMetadata (l : Ledger) (next : HubMetadata) (target : CopySlot) :
    hub.Committing (l.commitMetadata next target) := by
  unfold Ledger.commitMetadata
  cases hencoded : encodeHubMetadata next with
  | error _ => trivial
  | ok encoded =>
    apply committing_writeBlob
    · exact length_of_decodeHubMetadata (decodeHubMetadata_encode hencoded)
    · rfl
    · intro result
      apply committing_guard
      apply committing_commitStorage
      intro result
      apply committing_guard
      apply committing_readBlob
      intro readBack
      apply committing_guard
      apply committing_guard
      apply committing_bind (ledger_readMetadataCopy l _)
      rintro ⟨l, copyA⟩
      cases copyA with
      | none => trivial
      | some copyA =>
        apply committing_bind (ledger_readMetadataCopy l _)
        rintro ⟨l, copyB⟩
        cases copyB with
        | none => trivial
        | some copyB =>
          dsimp only
          split <;> trivial

theorem ledger_commitRecord (l : Ledger) (slot : SlotIndex) (next : HubRecord) (target : CopySlot) :
    hub.Committing (l.commitRecord slot next target) := by
  unfold Ledger.commitRecord
  cases hencoded : encodeHubRecord next with
  | error _ => trivial
  | ok encoded =>
    apply committing_writeBlob
    · exact length_of_decodeHubRecord (decodeHubRecord_encode hencoded)
    · rfl
    · intro result
      apply committing_guard
      apply committing_commitStorage
      intro result
      apply committing_guard
      apply committing_readBlob
      intro readBack
      apply committing_guard
      apply committing_guard
      apply committing_bind (ledger_readRecordCopy l slot _)
      rintro ⟨l, copyA⟩
      cases copyA with
      | none => trivial
      | some copyA =>
        apply committing_bind (ledger_readRecordCopy l slot _)
        rintro ⟨l, copyB⟩
        cases copyB with
        | none => trivial
        | some copyB =>
          dsimp only
          split <;> trivial

theorem ledger_scanSlots (l : Ledger) (allSlotCopiesMissing : Bool) (slots : List SlotIndex) :
    hub.Committing (l.scanSlots allSlotCopiesMissing slots) := by
  induction slots generalizing l allSlotCopiesMissing with
  | nil => trivial
  | cons slot rest ih =>
    apply committing_bind (ledger_readRecordCopy l slot _)
    rintro ⟨l, a⟩
    cases a with
    | none => trivial
    | some a =>
      apply committing_bind (ledger_readRecordCopy l slot _)
      rintro ⟨l, b⟩
      cases b with
      | none => trivial
      | some b => exact committing_guard (committing_ite (ih _ _) (ih _ _))

theorem ledger_initializeFresh (l : Ledger) : hub.Committing l.initializeFresh := by
  have hslots : ∀ slots : List SlotIndex, ∀ l : Ledger, hub.Committing (l.initializeSlots slots) := by
    intro slots
    induction slots with
    | nil => exact fun _ => trivial
    | cons slot rest ih =>
      intro l
      apply committing_bind (ledger_commitRecord _ _ _ _)
      rintro ⟨l, written⟩
      exact committing_guard (ih l)
  apply committing_bind (ledger_commitMetadata _ _ _)
  rintro ⟨l, committed⟩
  exact committing_guard (hslots _ l)

theorem ledger_recoverFrom (l : Ledger) (allSlotCopiesMissing : Bool) (metaA metaB : FixedCopy) :
    hub.Committing (l.recoverFrom allSlotCopiesMissing metaA metaB) := by
  apply committing_ite
  · apply committing_bind (ledger_initializeFresh l)
    rintro ⟨l, initialized⟩
    exact committing_guard trivial
  · exact committing_guard (committing_guard trivial)

theorem ledger_recover (hubDevice nodeDevice : UInt8) : hub.Committing (Ledger.recover hubDevice nodeDevice) := by
  apply committing_guard
  apply committing_bind (ledger_scanSlots _ _ _)
  rintro ⟨l, scanned⟩
  cases scanned with
  | none => trivial
  | some allSlotCopiesMissing =>
    apply committing_bind (ledger_readMetadataCopy l _)
    rintro ⟨l, metaA⟩
    cases metaA with
    | none => trivial
    | some metaA =>
      apply committing_bind (ledger_readMetadataCopy l _)
      rintro ⟨l, metaB⟩
      cases metaB with
      | none => trivial
      | some metaB => exact ledger_recoverFrom l _ _ _

theorem ledger_allocateOrdinal (l : Ledger) : hub.Committing l.allocateOrdinal := by
  apply committing_guard
  apply committing_ite
  · apply committing_guard
    apply committing_bind (ledger_commitMetadata _ _ _)
    rintro ⟨l, committed⟩
    exact committing_guard trivial
  · trivial

theorem ledger_admitEvent (l : Ledger) (event : Event) : hub.Committing (l.admitEvent event) := by
  apply committing_guard
  apply committing_guard
  cases l.findOwned event with
  | some slot => trivial
  | none =>
    cases l.admissionTarget event with
    | none => trivial
    | some target =>
      apply committing_bind (ledger_allocateOrdinal l)
      rintro ⟨l, ordinal⟩
      cases ordinal with
      | none => trivial
      | some ordinal =>
        apply committing_bind (ledger_commitRecord _ _ _ _)
        rintro ⟨l, committed⟩
        exact committing_guard trivial

theorem ledger_consume (l : Ledger) (identity : Identity) : hub.Committing (l.consume identity) := by
  apply committing_guard
  cases l.find identity with
  | none => trivial
  | some slot =>
    apply committing_guard
    apply committing_bind (ledger_commitRecord _ _ _ _)
    rintro ⟨l, committed⟩
    exact committing_guard trivial

theorem adapter_process (l : Ledger) (bytes : Bytes) (hubDevice nodeDevice : UInt8) :
    hub.Committing (HubAdapter.process l bytes hubDevice nodeDevice) := by
  unfold HubAdapter.process
  cases HubAdapter.receivedEvent bytes hubDevice nodeDevice with
  | none => trivial
  | some event =>
    apply committing_guard
    apply committing_guard
    apply committing_bind (ledger_admitEvent l event)
    rintro ⟨l, admitted⟩
    dsimp only
    split <;> trivial

/-- **Every call of the Hub commits what it writes.** -/
theorem hub_committing (hubDevice nodeDevice : UInt8) (l : Ledger) (call : Hub.Call) :
    hub.Committing (call.run hubDevice nodeDevice l) := by
  cases call with
  | recover => exact committing_bind (ledger_recover hubDevice nodeDevice) fun _ => trivial
  | process bytes => exact committing_bind (adapter_process l bytes hubDevice nodeDevice) fun _ => trivial
  | consume identity => exact committing_bind (ledger_consume l identity) fun _ => trivial

end Hub

end Redline.Esp32.Side
