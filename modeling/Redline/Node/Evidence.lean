import Redline.Records.Evidence
import Redline.Records.Codec
import Redline.Node.Store

/-!
# What the Node's mutations rest on

Every mutation of the store commits one record by `commitMutation`.  `commitMutation_ends` says for any answers of the
storage when the commit reports success and what it leaves otherwise.

A success is proven, with one exception (`Blind`): the outputs of `selectCopies` keep their initial values when neither
copy of the last pair is valid, copy A and generation 0, and these are what the commit expects when copy A is written
and the generation has wrapped to 0.
-/

namespace Redline.Node

open Redline.Wire Redline.Records Redline.Lib

/-! ### One commit -/

namespace Store

/-- A reply as a copy of the pair; an unavailable one is none. -/
def copyOfReply (reply : ReadReply) : FixedCopy :=
  if reply.result = .missing then ⟨.missing, reply.bytes⟩
  else if reply.result ≠ .ok ∨ reply.length ≠ nodeRecordSize then ⟨.ok, List.replicate nodeRecordSize 0⟩
  else ⟨.ok, reply.bytes⟩

theorem readRecordCopy_ends (s : Store) (slot : SlotIndex) (copySlot : CopySlot)
    {Q : Log StorageOp.Reply → Store × Option FixedCopy → Prop}
    (hunavailable : ∀ reply : ReadReply, reply.result = .unavailable →
      Q [⟨.read (.event slot copySlot), reply⟩] (s.fail .storageUnavailable, none))
    (hread : ∀ reply : ReadReply, reply.result ≠ .unavailable →
      Q [⟨.read (.event slot copySlot), reply⟩] (s, some (copyOfReply reply))) :
    (s.readRecordCopy slot copySlot).Ends Q := by
  refine Prog.ends_ask _ fun reply => ?_
  unfold copyOfReply at hread
  split
  · exact hunavailable reply ‹_›
  rename_i havailable
  have hq := hread reply havailable
  split
  · rwa [if_pos ‹_›] at hq
  rename_i hmissing
  rw [if_neg hmissing] at hq
  split
  · rwa [if_pos ‹_›] at hq
  · rwa [if_neg ‹_›] at hq

/-- What the last pair of reads selects. -/
def selectionOf (r : CommitReplies) : Selection NodeRecord :=
  selectCopies NodeRecord.generation decodeNodeRecordForSelection (copyOfReply (r.final .A)) (copyOfReply (r.final .B))

/-- The bytes of a record; none where it does not encode. -/
def encodedOf (record : NodeRecord) : Bytes := (encodeNodeRecord record).toOption.getD []

/-- The copy a commit writes. -/
def targetOf (s : Store) (slot : SlotIndex) : CopySlot := (s.slots slot).activeCopy.opposite

def commitLog (s : Store) (slot : SlotIndex) (record : NodeRecord) (r : CommitReplies) : Log StorageOp.Reply :=
  r.log slot (s.targetOf slot) (s.slots slot).activeCopy (encodedOf record)

/-- The replies to a write that is verified, with those to the pair. -/
def repliesOf (active : CopySlot) (readBack old new : ReadReply) : CommitReplies :=
  ⟨.ok, .ok, readBack, fun c => if c = active then old else new⟩

theorem log_repliesOf (slot : SlotIndex) (target active : CopySlot) (encoded : Bytes) (readBack old new : ReadReply) :
    ([⟨.write (.event slot target) encoded, StorageResult.ok⟩, ⟨.commit, StorageResult.ok⟩,
      ⟨.read (.event slot target), readBack⟩, ⟨.read (.event slot active), old⟩,
      ⟨.read (.event slot active.opposite), new⟩] : Log StorageOp.Reply) =
      (repliesOf active readBack old new).log slot target active encoded := by
  simp [CommitReplies.log, repliesOf]

/-- The replies pass the checks of a commit. -/
structure Passes (s : Store) (slot : SlotIndex) (record : NodeRecord) (r : CommitReplies) : Prop where
  encodes : encodeNodeRecord record = .ok (encodedOf record)
  verified : r.Verified nodeRecordSize (encodedOf record)
  available : ∀ c, (r.final c).result ≠ .unavailable
  agrees : (selectionOf r).result ≠ .equalDisagreement ∧ (selectionOf r).result ≠ .generationAmbiguous
  selected : (selectionOf r).slot = s.targetOf slot
  generation : (selectionOf r).selected.generation = record.generation

/-- A write is verified, or the store is degraded before the pair is read. -/
theorem writeVerify_ends (s : Store) (slot : SlotIndex) (target : CopySlot) (encoded : Bytes) :
    (s.writeVerify slot target encoded).Ends fun log outcome =>
      (outcome = (s, true) ∧ ∃ readBack : ReadReply, readBack.result = .ok ∧ readBack.length = nodeRecordSize ∧
        readBack.bytes = encoded ∧ log = [⟨.write (.event slot target) encoded, StorageResult.ok⟩,
          ⟨.commit, StorageResult.ok⟩, ⟨.read (.event slot target), readBack⟩]) ∨
      (∃ status, outcome = (s.fail status, false)) ∧ log.length < 5 := by
  unfold writeVerify writeBlob commitStorage readBlob
  refine Prog.ends_ask _ fun written => ?_
  split
  · exact .inr ⟨⟨_, rfl⟩, by simp⟩
  rename_i hwritten
  refine Prog.ends_ask _ fun committed => ?_
  split
  · exact .inr ⟨⟨_, rfl⟩, by simp⟩
  rename_i hcommitted
  refine Prog.ends_ask _ fun readBack => ?_
  split
  · exact .inr ⟨⟨_, rfl⟩, by simp⟩
  split
  · exact .inr ⟨⟨_, rfl⟩, by simp⟩
  split
  · exact .inr ⟨⟨_, rfl⟩, by simp⟩
  rename_i hread
  split
  · exact .inr ⟨⟨_, rfl⟩, by simp⟩
  split
  · exact .inr ⟨⟨_, rfl⟩, by simp⟩
  rename_i hbytes
  rw [not_not] at hwritten hcommitted hbytes
  rw [not_or, not_not, not_not] at hread
  exact .inl ⟨rfl, readBack, hread.1, hread.2, hbytes.symm, by rw [hwritten, hcommitted]⟩

/-- **What a commit does**, whatever the storage answers. -/
theorem commitMutation_ends (s : Store) (slot : SlotIndex) (record : NodeRecord) :
    (s.commitMutation slot record).Ends fun log outcome =>
      (outcome = (s.setSlot slot ⟨true, record, s.targetOf slot⟩, true) ∧
        ∃ r, log = s.commitLog slot record r ∧ s.Passes slot record r) ∨
      (outcome.2 = false ∧ outcome.1.slots = s.slots ∧ outcome.1.healthy = false ∧
        ∀ r, log = s.commitLog slot record r → ¬ s.Passes slot record r) := by
  unfold commitMutation
  split
  · rename_i hencode
    refine .inr ⟨rfl, rfl, rfl, fun r _ hr => ?_⟩
    rw [hr.encodes] at hencode
    cases hencode
  rename_i encoded hencode
  have hencoded : encodedOf record = encoded := by rw [encodedOf, hencode]; rfl
  have hshort : ∀ {log : Log StorageOp.Reply}, log.length < 5 → ∀ r, log = s.commitLog slot record r →
      ¬ s.Passes slot record r := by
    rintro log hlen r rfl
    exact absurd hlen (by simp [commitLog, CommitReplies.log])
  refine (writeVerify_ends s slot _ encoded).bind fun log outcome hwrite => ?_
  rcases hwrite with ⟨rfl, readBack, hresult, hlength, hbytes, rfl⟩ | ⟨⟨status, rfl⟩, hlen⟩
  swap
  · refine .inr ⟨rfl, rfl, rfl, hshort ?_⟩
    simpa using hlen
  dsimp only
  rw [if_neg (by simp)]
  refine Prog.ends_bind.2 (readRecordCopy_ends s slot _ (fun old hold => ?_) fun old hold => ?_)
  · exact .inr ⟨rfl, rfl, rfl, hshort (by simp)⟩
  dsimp only
  have hunique : ∀ (new : ReadReply) r, ([⟨.write (.event slot (s.targetOf slot)) encoded, StorageResult.ok⟩,
      ⟨.commit, StorageResult.ok⟩, ⟨.read (.event slot (s.targetOf slot)), readBack⟩,
      ⟨.read (.event slot (s.slots slot).activeCopy), old⟩, ⟨.read (.event slot (s.targetOf slot)), new⟩] :
        Log StorageOp.Reply) = s.commitLog slot record r ↔ r = repliesOf (s.slots slot).activeCopy readBack old new := by
    intro new r
    rw [← hencoded]
    constructor
    · intro h
      exact CommitReplies.log_inj (h.symm.trans (log_repliesOf slot _ _ _ _ _ _))
    · rintro rfl
      exact log_repliesOf slot _ _ _ _ _ _
  refine Prog.ends_bind.2 (readRecordCopy_ends s slot _ (fun new hnew => ?_) fun new hnew => ?_)
  · refine .inr ⟨rfl, rfl, rfl, fun r hr hpasses => ?_⟩
    rw [(hunique new r).1 hr] at hpasses
    exact hpasses.available (s.targetOf slot) (by simpa [repliesOf, targetOf] using hnew)
  · have hselection : selectCopies NodeRecord.generation decodeNodeRecordForSelection
        (if (s.slots slot).activeCopy = .A then copyOfReply old else copyOfReply new)
        (if (s.slots slot).activeCopy = .A then copyOfReply new else copyOfReply old) =
        selectionOf (repliesOf (s.slots slot).activeCopy readBack old new) := by
      cases (s.slots slot).activeCopy <;> rfl
    dsimp only
    rw [hselection]
    set r := repliesOf (s.slots slot).activeCopy readBack old new with hr
    have hfails : ¬ s.Passes slot record r → ∀ r', ([⟨.write (.event slot (s.targetOf slot)) encoded, StorageResult.ok⟩,
        ⟨.commit, StorageResult.ok⟩, ⟨.read (.event slot (s.targetOf slot)), readBack⟩,
        ⟨.read (.event slot (s.slots slot).activeCopy), old⟩, ⟨.read (.event slot (s.targetOf slot)), new⟩] :
          Log StorageOp.Reply) = s.commitLog slot record r' → ¬ s.Passes slot record r' := by
      intro h r' hlog
      rwa [(hunique new r').1 hlog]
    unfold acceptSelection
    split
    · rename_i hdisagrees
      exact .inr ⟨rfl, rfl, rfl, hfails fun h => h.agrees.1 hdisagrees⟩
    split
    · rename_i hambiguous
      exact .inr ⟨rfl, rfl, rfl, hfails fun h => h.agrees.2 hambiguous⟩
    rename_i hdisagrees hambiguous
    split
    · rename_i hrefused
      refine .inr ⟨rfl, rfl, rfl, hfails fun h => ?_⟩
      simp [h.selected, h.generation, targetOf] at hrefused
    · rename_i haccepted
      simp only [Bool.not_true, Bool.false_or, Bool.or_eq_true, decide_eq_true_eq, not_or, not_not] at haccepted
      refine .inl ⟨rfl, r, (hunique new r).2 rfl, ?_⟩
      refine ⟨by rw [hencode, hencoded], ⟨rfl, rfl, hresult, hlength, by rw [hencoded]; exact hbytes⟩, ?_,
        ⟨hdisagrees, hambiguous⟩, haccepted.1, haccepted.2⟩
      intro c
      rw [hr, repliesOf]
      dsimp only
      split
      · exact hold
      · exact hnew

/-- Replies that pass are replies of a run. -/
theorem logs_commitMutation {s : Store} {slot : SlotIndex} {record : NodeRecord} {r : CommitReplies}
    (h : s.Passes slot record r) :
    (s.commitMutation slot record).Logs (s.commitLog slot record r)
      (s.setSlot slot ⟨true, record, s.targetOf slot⟩, true) := by
  have hread : ∀ c, (s.readRecordCopy slot c).Logs [⟨.read (.event slot c), r.final c⟩]
      (s, some (copyOfReply (r.final c))) := by
    intro c
    unfold readRecordCopy readBlob
    refine Prog.logs_ask (StorageOp.read (.event slot c)) ?_
    rw [if_neg (h.available c)]
    unfold copyOfReply
    split
    · exact .pure _
    split
    · exact .pure _
    · exact .pure _
  obtain ⟨decoded, hdecoded⟩ : ∃ decoded, decodeNodeRecord (encodedOf record) = .ok decoded :=
    ⟨record, decodeNodeRecord_encode h.encodes⟩
  have hverify : (s.writeVerify slot (s.targetOf slot) (encodedOf record)).Logs
      [⟨.write (.event slot (s.targetOf slot)) (encodedOf record), r.write⟩, ⟨.commit, r.commit⟩,
        ⟨.read (.event slot (s.targetOf slot)), r.readBack⟩] (s, true) := by
    unfold writeVerify writeBlob commitStorage readBlob
    refine Prog.logs_ask (StorageOp.write (.event slot (s.targetOf slot)) (encodedOf record)) ?_
    rw [if_neg (not_not.2 h.verified.write)]
    refine Prog.logs_ask StorageOp.commit ?_
    rw [if_neg (not_not.2 h.verified.commit)]
    refine Prog.logs_ask (StorageOp.read (.event slot (s.targetOf slot))) ?_
    rw [h.verified.result, h.verified.length, h.verified.bytes, hdecoded]
    simp only [reduceCtorEq, if_false, ne_eq, not_true_eq_false, or_self]
    exact .pure _
  have hselection : selectCopies NodeRecord.generation decodeNodeRecordForSelection
      (if (s.slots slot).activeCopy = .A then copyOfReply (r.final (s.slots slot).activeCopy)
        else copyOfReply (r.final (s.targetOf slot)))
      (if (s.slots slot).activeCopy = .A then copyOfReply (r.final (s.targetOf slot))
        else copyOfReply (r.final (s.slots slot).activeCopy)) = selectionOf r := by
    unfold selectionOf targetOf
    cases (s.slots slot).activeCopy <;> rfl
  unfold commitMutation
  rw [h.encodes]
  refine Prog.logs_bind.2 ⟨_, _, _, rfl, hverify, ?_⟩
  refine Prog.logs_bind.2 ⟨[_], _, _, rfl, hread _, ?_⟩
  refine Prog.logs_bind.2 ⟨[_], [], _, rfl, hread _, ?_⟩
  dsimp only
  rw [show (s.slots slot).activeCopy.opposite = s.targetOf slot from rfl, hselection]
  have haccept : s.acceptSelection (selectionOf r).result = (s, true) := by
    rw [acceptSelection, if_neg h.agrees.1, if_neg h.agrees.2]
  simp only [haccept, h.selected, h.generation, Bool.not_true, ne_eq, not_true_eq_false, decide_false, Bool.or_self,
    Bool.false_eq_true, if_false]
  exact .pure _

/-! ### Proof and its lack -/

/-- The replies prove a commit of the record. -/
def Proves (s : Store) (slot : SlotIndex) (record : NodeRecord) (r : CommitReplies) : Prop :=
  encodeNodeRecord record = .ok (encodedOf record) ∧
    r.Proves nodeRecordSize NodeRecord.generation decodeNodeRecordForSelection (selectionOf r) (s.targetOf slot)
      (encodedOf record) record.generation

/-- **The commit that is not proven**: copy A is written with the generation 0, and neither copy of the last pair is
valid. -/
structure Blind (s : Store) (slot : SlotIndex) (record : NodeRecord) (r : CommitReplies) : Prop where
  active : (s.slots slot).activeCopy = .B
  wrapped : record.generation = 0
  encodes : encodeNodeRecord record = .ok (encodedOf record)
  verified : r.Verified nodeRecordSize (encodedOf record)
  available : ∀ c, (r.final c).result ≠ .unavailable
  invalid : ∀ c, (copyOfReply (r.final c)).valid decodeNodeRecordForSelection = none

/-- A copy that is valid was read. -/
theorem read_of_valid {reply : ReadReply} {record : NodeRecord}
    (h : (copyOfReply reply).valid decodeNodeRecordForSelection = some record) :
    reply.result = .ok ∧ reply.length = nodeRecordSize ∧ decodeNodeRecordForSelection reply.bytes = some record := by
  unfold copyOfReply at h
  split at h
  · cases h
  split at h
  · cases h
  · rename_i hread
    rw [not_or, not_not, not_not] at hread
    exact ⟨hread.1, hread.2, h⟩

theorem Passes.proves_or_blind {s : Store} {slot : SlotIndex} {record : NodeRecord} {r : CommitReplies}
    (h : s.Passes slot record r) : s.Proves slot record r ∨ s.Blind slot record r := by
  by_cases hnone : (selectionOf r).result = .bothInvalid
  · obtain ⟨hA, hB⟩ := invalid_of_bothInvalid hnone
    have hselection : selectionOf r = ⟨.bothInvalid, default, .A⟩ := selectCopies_of_invalid hA hB
    have hslot := h.selected
    have hgeneration := h.generation
    rw [hselection] at hslot hgeneration
    refine .inr ⟨?_, hgeneration.symm, h.encodes, h.verified, h.available, fun c => ?_⟩
    · rw [← CopySlot.opposite_opposite (s.slots slot).activeCopy]
      exact congrArg CopySlot.opposite hslot.symm
    · cases c
      · exact hA
      · exact hB
  · have hauthoritative := SelectionResult.authoritative_of_ne h.agrees.1 h.agrees.2 hnone
    have hvalid := selectCopies_valid hauthoritative
    have hpick : pickCopy (copyOfReply (r.final .A)) (copyOfReply (r.final .B)) (s.targetOf slot) =
        copyOfReply (r.final (s.targetOf slot)) := by
      cases s.targetOf slot <;> rfl
    have hslot : (selectCopies NodeRecord.generation decodeNodeRecordForSelection (copyOfReply (r.final .A))
        (copyOfReply (r.final .B))).slot = s.targetOf slot := h.selected
    rw [hslot, hpick] at hvalid
    obtain ⟨hresult, hlength, hdecoded⟩ := read_of_valid hvalid
    exact .inl ⟨h.encodes, h.verified, hresult, hlength, ⟨_, hdecoded, h.generation⟩, hauthoritative, h.selected⟩

theorem Blind.selection {s : Store} {slot : SlotIndex} {record : NodeRecord} {r : CommitReplies}
    (h : s.Blind slot record r) : selectionOf r = ⟨.bothInvalid, default, .A⟩ :=
  selectCopies_of_invalid (h.invalid .A) (h.invalid .B)

theorem Blind.passes {s : Store} {slot : SlotIndex} {record : NodeRecord} {r : CommitReplies}
    (h : s.Blind slot record r) : s.Passes slot record r where
  encodes := h.encodes
  verified := h.verified
  available := h.available
  agrees := by simp [h.selection]
  selected := by rw [h.selection, targetOf, h.active]; rfl
  generation := by rw [h.selection, h.wrapped]; rfl

theorem Proves.not_blind {s : Store} {slot : SlotIndex} {record : NodeRecord} {r : CommitReplies}
    (h : s.Proves slot record r) : ¬ s.Blind slot record r := by
  intro hblind
  have hauthoritative := h.2.authoritative
  rw [hblind.selection] at hauthoritative
  cases hauthoritative

end Store

/-! ### The mutations -/

inductive Mutation
  | enqueue (input : EventInput)
  | markFailed (slot : ℕ)
  | markExpired (slot : ℕ)
  | reclaim (slot : ℕ)
  | releaseQueued (slot : ℕ)
  | checkpointRemaining (slot : ℕ) (remainingActiveSeconds : UInt32)
  | armAttempt (slot : ℕ)

/-- What a mutation reports. -/
inductive MutationReport
  | enqueue (result : EnqueueResult)
  | mutation (status : MutationStatus)
  | attempt (status : AttemptStatus)
  deriving DecidableEq

def MutationReport.success : MutationReport → Bool
  | .enqueue result => result.status = .enqueued
  | .mutation status => status = .ok
  | .attempt status => status = .armed

def MutationReport.degraded : MutationReport → Bool
  | .enqueue result => result.status = .degraded
  | .mutation status => status = .degraded
  | .attempt status => status = .degraded

namespace Mutation

def run (s : Store) : Mutation → StorageM (Store × MutationReport)
  | .enqueue input => do
    let (s, result) ← s.enqueue input
    return (s, .enqueue result)
  | .markFailed slot => do
    let (s, status) ← s.markFailed slot
    return (s, .mutation status)
  | .markExpired slot => do
    let (s, status) ← s.markExpired slot
    return (s, .mutation status)
  | .reclaim slot => do
    let (s, status) ← s.reclaim slot
    return (s, .mutation status)
  | .releaseQueued slot => do
    let (s, status) ← s.releaseQueued slot
    return (s, .mutation status)
  | .checkpointRemaining slot remainingActiveSeconds => do
    let (s, status) ← s.checkpointRemaining slot remainingActiveSeconds
    return (s, .mutation status)
  | .armAttempt slot => do
    let (s, status) ← s.armAttempt slot
    return (s, .attempt status)

/-- The report of a mutation whose commit has failed. -/
def failure : Mutation → MutationReport
  | .enqueue _ => .enqueue ⟨.storageFailure, default, none⟩
  | .armAttempt _ => .attempt .storageFailure
  | _ => .mutation .storageFailure

/-- The mutations that rebuild the index behind their commit. -/
def indexes : Mutation → Bool
  | .checkpointRemaining _ _ | .armAttempt _ => false
  | _ => true

/-- What a mutation does behind its commit. -/
def finish (m : Mutation) (committed : Bool) (s : Store) (done : MutationReport) : Store × MutationReport :=
  if !committed then (s, m.failure)
  else if m.indexes then
    let (s, indexed) := s.rebuildIndex
    if !indexed then (s, m.failure) else (s, done)
  else (s, done)

def committer (m : Mutation) : Committer Store MutationReport NodeRecord where
  commit := Store.commitMutation
  finish := m.finish
  success := MutationReport.success

/-- The plan for a slot that is named by the caller. -/
def planFor (s : Store) (slot : ℕ) (plan : SlotIndex → NodeRecord → Plan Store MutationReport NodeRecord) :
    Plan Store MutationReport NodeRecord :=
  if !s.healthy then .stop s (.mutation .degraded)
  else if h : slot < 8 then plan ⟨slot, h⟩ (s.slots ⟨slot, h⟩).record
  else .stop s (.mutation .invalidSlot)

def planTransition (s : Store) (slot : ℕ) (source target : NodeState) : Plan Store MutationReport NodeRecord :=
  planFor s slot fun slot record =>
    if record.state ≠ source then .stop s (.mutation .invalidTransition)
    else .commit s slot { record with generation := record.generation + 1, state := target } (.mutation .ok)

/-- What a mutation is about to do. -/
def plan (s : Store) : Mutation → StorageM (Plan Store MutationReport NodeRecord)
  | .enqueue input => do
    if !s.healthy then return .stop s (.enqueue ⟨.degraded, default, none⟩)
    if !Store.validInput input then return .stop s (.enqueue ⟨.invalidEvent, default, none⟩)
    match s.firstFree with
    | none => return .stop s (.enqueue ⟨.queueFull, default, none⟩)
    | some freeSlot => do
      let (allocator, allocation) ← s.allocator.allocate
      let s := { s with allocator }
      if allocation.status ≠ .ready then
        return .stop ({ s with identityStatus := allocation.status }.fail .identityFailure)
          (.enqueue ⟨.identityFailure, default, none⟩)
      return .commit s freeSlot
        (Store.queuedRecord ((s.slots freeSlot).record.generation + 1) allocation.identity input)
        (.enqueue ⟨.enqueued, allocation.identity, some freeSlot⟩)
  | .markFailed slot => pure (planTransition s slot .queued .failed)
  | .markExpired slot => pure (planTransition s slot .queued .expired)
  | .reclaim slot => pure (planFor s slot fun slot record =>
      if record.state ≠ .failed ∧ record.state ≠ .expired then .stop s (.mutation .invalidTransition)
      else .commit s slot (Store.freeRecord (record.generation + 1)) (.mutation .ok))
  | .releaseQueued slot => pure (planFor s slot fun slot record =>
      if record.state ≠ .queued then .stop s (.mutation .invalidTransition)
      else .commit s slot (Store.freeRecord (record.generation + 1)) (.mutation .ok))
  | .checkpointRemaining slot remainingActiveSeconds => pure (planFor s slot fun slot current =>
      if current.state ≠ .queued ∨ remainingActiveSeconds = 0 ∨
          remainingActiveSeconds ≥ current.remainingActiveSeconds then .stop s (.mutation .invalidTransition)
      else .commit s slot { current with generation := current.generation + 1, remainingActiveSeconds } (.mutation .ok))
  | .armAttempt slot => pure (
      if !s.healthy then .stop s (.attempt .degraded)
      else if h : slot < 8 then
        let current := (s.slots ⟨slot, h⟩).record
        if current.state ≠ .queued then .stop s (.attempt .notQueued)
        else if current.attemptsUsed ≥ maxAttempts then .stop s (.attempt .exhausted)
        else .commit s ⟨slot, h⟩
          { current with generation := current.generation + 1, attemptsUsed := current.attemptsUsed + 1 } (.attempt .armed)
      else .stop s (.attempt .invalidSlot))

/-- A commit with the index behind it, as a plan. -/
theorem commitIndexed_eq {m : Mutation} (hm : m.indexes = true) (hf : m.failure = .mutation .storageFailure) (s : Store)
    (slot : SlotIndex) (record : NodeRecord) :
    (do
      let (s, status) ← s.commitIndexed slot record
      return (s, .mutation status)) = m.committer.run (.commit s slot record (.mutation .ok)) := by
  simp only [Store.commitIndexed, Committer.run, committer, Prog.bind_assoc']
  congr 1
  funext outcome
  obtain ⟨s, committed⟩ := outcome
  cases committed with
  | false => simp [finish, hf]
  | true =>
    simp only [finish, hm, Bool.not_true, Bool.false_eq_true, if_false, if_true]
    cases s.rebuildIndex.2 <;> simp [hf]

theorem transition_eq {m : Mutation} (hm : m.indexes = true) (hf : m.failure = .mutation .storageFailure) (s : Store)
    (slot : ℕ) (source target : NodeState) :
    (do
      let (s, status) ← s.transition slot source target
      return (s, .mutation status)) = m.committer.run (planTransition s slot source target) := by
  unfold Store.transition planTransition planFor
  split
  · rfl
  split
  · dsimp only
    split
    · rfl
    · exact commitIndexed_eq hm hf s _ _
  · rfl

/-- **A mutation is its plan.** -/
theorem run_eq (m : Mutation) (s : Store) : m.run s = m.plan s >>= m.committer.run := by
  cases m with
  | enqueue input =>
    unfold run plan Store.enqueue
    dsimp only
    split
    · rfl
    split
    · rfl
    cases s.firstFree with
    | none => rfl
    | some freeSlot =>
      dsimp only
      rw [Prog.bind_assoc', Prog.bind_assoc']
      congr 1
      funext outcome
      obtain ⟨allocator, allocation⟩ := outcome
      dsimp only
      split
      · rfl
      · rw [Prog.bind_assoc']
        simp only [Prog.pure_bind', Committer.run, committer]
        congr 1
        funext outcome
        obtain ⟨s, committed⟩ := outcome
        cases committed with
        | false => rfl
        | true =>
          simp only [finish, indexes, Bool.not_true, Bool.false_eq_true, if_false, if_true]
          cases s.rebuildIndex.2 <;> rfl
  | markFailed slot => exact transition_eq rfl rfl s slot .queued .failed
  | markExpired slot => exact transition_eq rfl rfl s slot .queued .expired
  | reclaim slot =>
    unfold run plan Store.reclaim planFor Store.makeFree
    dsimp only
    split
    · rfl
    split
    · split
      · rfl
      · exact commitIndexed_eq rfl rfl s _ _
    · rfl
  | releaseQueued slot =>
    unfold run plan Store.releaseQueued planFor Store.makeFree
    dsimp only
    split
    · rfl
    split
    · split
      · rfl
      · exact commitIndexed_eq rfl rfl s _ _
    · rfl
  | checkpointRemaining slot remainingActiveSeconds =>
    unfold run plan Store.checkpointRemaining planFor
    dsimp only
    split
    · rfl
    split
    · split
      · rfl
      · simp only [Prog.pure_bind', Committer.run, committer, Prog.bind_assoc']
        congr 1
        funext outcome
        obtain ⟨s, committed⟩ := outcome
        cases committed <;> rfl
    · rfl
  | armAttempt slot =>
    unfold run plan Store.armAttempt
    dsimp only
    split
    · rfl
    split
    · split
      · rfl
      split
      · rfl
      · simp only [Prog.pure_bind', Committer.run, committer, Prog.bind_assoc']
        congr 1
        funext outcome
        obtain ⟨s, committed⟩ := outcome
        cases committed <;> rfl
    · rfl

/-! ### What a mutation reports -/

/-- The report of a degraded store. -/
def refusal : Mutation → MutationReport
  | .enqueue _ => .enqueue ⟨.degraded, default, none⟩
  | .armAttempt _ => .attempt .degraded
  | _ => .mutation .degraded

/-- The mutations of the Node's store. -/
def mutations : Mutations Store MutationReport NodeRecord Mutation where
  committer := committer
  plan := fun m s => m.plan s
  recordOf := fun s slot => (s.slots slot).record
  generation := NodeRecord.generation
  refusal := refusal

theorem plansFrom_planFor {m : Mutation} {s : Store} {plan : SlotIndex → NodeRecord → Plan Store MutationReport NodeRecord}
    (h : ∀ slot, mutations.PlansFrom m s (plan slot (s.slots slot).record)) (slot : ℕ) : mutations.PlansFrom m s (planFor s slot plan) := by
  unfold planFor
  split
  · exact .stop rfl
  split
  · exact h _
  · exact .stop rfl

theorem plansFrom_planTransition (m : Mutation) (s : Store) (slot : ℕ) (source target : NodeState) :
    mutations.PlansFrom m s (planTransition s slot source target) := by
  refine plansFrom_planFor (fun slot => ?_) slot
  split
  · exact .stop rfl
  · exact .commit rfl rfl

theorem plan_ends (m : Mutation) (s : Store) : (m.plan s).Ends fun _ p => mutations.PlansFrom m s p := by
  cases m with
  | enqueue input =>
    unfold plan
    dsimp only
    split
    · exact .stop rfl
    split
    · exact .stop rfl
    cases s.firstFree with
    | none => exact .stop rfl
    | some freeSlot =>
      refine (Prog.ends_logs _).bind fun log outcome _ => ?_
      split
      · exact .stop rfl
      · exact .commit rfl rfl
  | markFailed slot => exact plansFrom_planTransition _ s slot .queued .failed
  | markExpired slot => exact plansFrom_planTransition _ s slot .queued .expired
  | reclaim slot =>
    refine plansFrom_planFor (fun slot => ?_) slot
    split
    · exact .stop rfl
    · exact .commit rfl rfl
  | releaseQueued slot =>
    refine plansFrom_planFor (fun slot => ?_) slot
    split
    · exact .stop rfl
    · exact .commit rfl rfl
  | checkpointRemaining slot remainingActiveSeconds =>
    refine plansFrom_planFor (fun slot => ?_) slot
    split
    · exact .stop rfl
    · exact .commit rfl rfl
  | armAttempt slot =>
    change mutations.PlansFrom _ s _
    split
    · exact .stop rfl
    split
    · dsimp only
      split
      · exact .stop rfl
      split
      · exact .stop rfl
      · exact .commit rfl rfl
    · exact .stop rfl

/-- How the Node's commits pass, and what they prove. -/
def spec (m : Mutation) : m.committer.Spec where
  installed := fun s slot record _ => s.setSlot slot ⟨true, record, s.targetOf slot⟩
  log := Store.commitLog
  Passes := Store.Passes
  Proves := Store.Proves
  Blind := Store.Blind
  log_inj := fun _ _ _ _ _ h => CommitReplies.log_inj h
  proves_or_blind := fun _ _ _ _ h => h.proves_or_blind
  passes_of_blind := fun _ _ _ _ h => h.passes
  disjoint := fun _ _ _ _ h => h.not_blind
  commits := fun s slot record => (s.commitMutation_ends slot record).mono fun log outcome h => by
    rcases h with ⟨rfl, hr⟩ | ⟨hfalse, -, -, hr⟩
    · exact ⟨⟨fun _ => hr, fun _ => rfl⟩, fun _ _ _ => rfl⟩
    · refine ⟨⟨fun h => ?_, fun h => ?_⟩, fun _ _ h => ?_⟩
      · rw [hfalse] at h
        cases h
      · obtain ⟨r, hlog, hpasses⟩ := h
        exact absurd hpasses (hr r hlog)
      · rw [hfalse] at h
        cases h
  unfinished := fun s done => by cases m <;> rfl

theorem plan_degraded {s : Store} (h : s.healthy = false) (m : Mutation) : m.plan s = pure (.stop s m.refusal) := by
  cases m <;> simp [plan, planTransition, planFor, refusal, h]

/-- What is known of the Node's store. -/
def sound : mutations.Sound where
  spec := spec
  plans := plan_ends
  Degraded := fun s => s.healthy = false
  fails := fun _ s slot record => (s.commitMutation_ends slot record).mono fun _ outcome h hfalse => by
    rcases h with ⟨rfl, -⟩ | ⟨-, hslots, hhealthy, -⟩
    · cases hfalse
    · exact ⟨funext fun i => by simp only [mutations, hslots], hhealthy⟩
  refuses := fun m _ h => plan_degraded h m

/-- **When the Node's mutations are truthful.** -/
theorem truthful_iff {m : Mutation} {s s' : Store} {log : Log StorageOp.Reply} {report : MutationReport}
    (h : (m.run s).Logs log (s', report)) :
    Mutations.Truthful sound m s log report ↔ ¬ m.spec.Misled (m.plan s) log := by
  rw [run_eq] at h
  exact sound.truthful_iff h

end Mutation

end Redline.Node
