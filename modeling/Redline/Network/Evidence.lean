import Redline.Node.Evidence
import Redline.Hub.Evidence

/-!
# Reported mutations and proven ones

For every state and every storage, whatever it answers, a mutation of the Node's store or of the Hub's ledger is
truthful exactly when the storage does not mislead its commit.  Each of the two implementations can be misled in one
way, and both ways occur.
-/

namespace Redline.Network

open Redline.Wire Redline.Records Redline.Lib

/-- **When a reported mutation is a proven one.** -/
theorem mutations_truthful_iff (s : Node.Store) (m : Node.Mutation) (l : Hub.Ledger) (c : Hub.Mutation) :
    (∀ log s' report, (m.run s).Logs log (s', report) →
      (Mutations.Truthful Node.Mutation.sound m s log report ↔ ¬ m.spec.Misled (m.plan s) log)) ∧
    ∀ log l' report, (c.run l).Logs log (l', report) →
      (Mutations.Truthful Hub.Mutation.sound c l log report ↔ ¬ Hub.Mutation.spec.Misled (c.plan l) log) := by
  constructor
  · intro log s' report h
    exact Node.Mutation.truthful_iff h
  · intro log l' report h
    exact Hub.Mutation.truthful_iff h

/-! ### The two ways -/

/-- A short press of the button. -/
def pressBody : Body := emptyBody.setIfInBounds 0 3

/-- A queued record of the last generation before the wrap. -/
def lastRecord : NodeRecord :=
  { (default : NodeRecord) with
    generation := 0xFFFFFFFF, state := .queued, family := 0x40, bodyLength := 1, eventEpoch := 1, eventId := 1
    lifetimeBudgetSeconds := 60, remainingActiveSeconds := 60, body := pressBody }

/-- A healthy store with this record in copy B of its first slot. -/
def lastStore : Node.Store :=
  { Node.Store.initial with
    healthy := true, status := .ready, queue := [0]
    slots := fun slot => if slot = 0 then ⟨true, lastRecord, .B⟩ else ⟨true, Node.Store.freeRecord 0, .A⟩ }

/-- The record of the first attempt; its generation is 0. -/
def armedRecord : NodeRecord := { lastRecord with generation := 0, attemptsUsed := 1 }

/-- The write is read back, and then both copies are missing. -/
def vanishing : CommitReplies :=
  ⟨.ok, .ok, ⟨.ok, nodeRecordSize, Node.Store.encodedOf armedRecord⟩, fun _ => ⟨.missing, 0, []⟩⟩

theorem encodedOf_of_valid {record : NodeRecord} (h : validateNodeRecord record = .ok ()) :
    encodeNodeRecord record = .ok (Node.Store.encodedOf record) := by
  unfold Node.Store.encodedOf encodeNodeRecord
  rw [h]
  rfl

theorem blind_vanishing : lastStore.Blind 0 armedRecord vanishing where
  active := rfl
  wrapped := rfl
  encodes := encodedOf_of_valid (by decide)
  verified := ⟨rfl, rfl, rfl, rfl, rfl⟩
  available := fun c => by cases c <;> decide
  invalid := fun c => by cases c <;> rfl

/-- An active record of the ledger. -/
def ownedRecord : HubRecord :=
  { (default : HubRecord) with
    generation := 1, state := .active, sourceDeviceId := 2, family := 0x40, bodyLength := 1, eventEpoch := 1, eventId := 1
    lifetimeBudgetSeconds := 60, admissionOrdinal := 1, body := pressBody }

/-- A healthy ledger with this record in copy B of its first slot. -/
def ownedLedger : Hub.Ledger :=
  { Hub.Ledger.initial with
    ledgerHealthy := true, status := .ready
    slots := fun slot => if slot = 0 then ⟨true, .B, ownedRecord⟩ else ⟨true, .A, Hub.Ledger.emptyRecord 0⟩ }

/-- The record as it is consumed. -/
def consumedRecord : HubRecord := { ownedRecord with generation := 2, state := .consumed }

/-- The write is read back, and then the read of this copy fails behind its bytes. -/
def failing : CommitReplies :=
  ⟨.ok, .ok, ⟨.ok, hubRecordSize, Hub.Ledger.encodedOf consumedRecord⟩, fun c =>
    if c = .A then ⟨.error, 0, Hub.Ledger.encodedOf consumedRecord⟩ else ⟨.missing, 0, []⟩⟩

theorem encodes_consumedRecord : encodeHubRecord consumedRecord = .ok (Hub.Ledger.encodedOf consumedRecord) := by
  have hvalid : validateHubRecord consumedRecord = .ok () := by decide
  unfold Hub.Ledger.encodedOf encodeHubRecord
  rw [hvalid]
  rfl

theorem selectionOf_failing : Hub.Ledger.selectionOf failing = ⟨.onlyAValid, consumedRecord, .A⟩ := by
  have hA : (Hub.Ledger.copyOfReply (failing.final .A)).valid Hub.decodeHubRecordForSelection = some consumedRecord := by
    change Hub.decodeHubRecordForSelection (Hub.Ledger.encodedOf consumedRecord) = some consumedRecord
    rw [Hub.decodeHubRecordForSelection, decodeHubRecord_encode encodes_consumedRecord]
    rfl
  have hB : (Hub.Ledger.copyOfReply (failing.final .B)).valid Hub.decodeHubRecordForSelection = none := rfl
  unfold Hub.Ledger.selectionOf selectCopies
  rw [hA, hB]

theorem blind_failing : ownedLedger.Blind 0 consumedRecord failing where
  encodes := encodes_consumedRecord
  verified := ⟨rfl, rfl, rfl, rfl, rfl⟩
  available := fun c => by cases c <;> decide
  selected := by rw [selectionOf_failing]; rfl
  generation := by rw [selectionOf_failing]
  authoritative := by rw [selectionOf_failing]; rfl
  unread := .inl (by decide)

/-- An attempt that is armed and a consumption that is reported without proof: the last pair of reads finds no copy, and
the last read of the copy fails. -/
theorem mutations_misled :
    (∃ log s', (Node.Mutation.run lastStore (.armAttempt 0)).Logs log (s', .attempt .armed) ∧
      ¬ Mutations.Truthful Node.Mutation.sound (.armAttempt 0) lastStore log (.attempt .armed)) ∧
    ∃ log l', (Hub.Mutation.run ownedLedger (.consume ⟨2, 1, 1⟩)).Logs log (l', .consumption ⟨.consumed, some 0⟩) ∧
      ¬ Mutations.Truthful Hub.Mutation.sound (.consume ⟨2, 1, 1⟩) ownedLedger log (.consumption ⟨.consumed, some 0⟩) := by
  constructor
  · have hplan : (Node.Mutation.plan lastStore (.armAttempt 0)).Logs []
        (.commit lastStore 0 armedRecord (.attempt .armed)) := .pure _
    have hrun : (Node.Mutation.run lastStore (.armAttempt 0)).Logs ([] ++ lastStore.commitLog 0 armedRecord vanishing)
        (lastStore.setSlot 0 ⟨true, armedRecord, .A⟩, .attempt .armed) := by
      rw [Node.Mutation.run_eq]
      refine Prog.logs_bind.2 ⟨[], _, _, rfl, hplan, ?_⟩
      exact Prog.logs_bind.2 ⟨_, [], _, (List.append_nil _).symm, Node.Store.logs_commitMutation blind_vanishing.passes,
        .pure _⟩
    refine ⟨_, _, hrun, ?_⟩
    rw [Node.Mutation.truthful_iff hrun, not_not]
    exact ⟨[], lastStore, 0, armedRecord, .attempt .armed, vanishing, hplan, rfl, blind_vanishing, rfl⟩
  · have hplan : (Hub.Mutation.plan ownedLedger (.consume ⟨2, 1, 1⟩)).Logs []
        (.commit ownedLedger 0 consumedRecord (.consumption ⟨.consumed, some 0⟩)) := .pure _
    have hrun : (Hub.Mutation.run ownedLedger (.consume ⟨2, 1, 1⟩)).Logs
        ([] ++ ownedLedger.commitLog 0 consumedRecord failing)
        (ownedLedger.setSlot 0 ⟨true, .A, (Hub.Ledger.selectionOf failing).selected⟩,
          .consumption ⟨.consumed, some 0⟩) := by
      rw [Hub.Mutation.run_eq]
      refine Prog.logs_bind.2 ⟨[], _, _, rfl, hplan, ?_⟩
      exact Prog.logs_bind.2 ⟨_, [], _, (List.append_nil _).symm, Hub.Ledger.logs_commitRecord blind_failing.toPasses,
        .pure _⟩
    refine ⟨_, _, hrun, ?_⟩
    rw [Hub.Mutation.truthful_iff hrun, not_not]
    exact ⟨[], ownedLedger, 0, consumedRecord, .consumption ⟨.consumed, some 0⟩, failing, hplan, rfl, blind_failing, rfl⟩

end Redline.Network
