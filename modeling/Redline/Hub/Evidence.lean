import Redline.Records.Evidence
import Redline.Records.Codec
import Redline.Hub.Ledger

/-!
# What the Hub's mutations rest on

The ledger commits a record by `commitRecord`, when an Event is admitted and when it is consumed.
`commitRecord_ends` says for any answers of the storage when the commit reports success and what it leaves otherwise.

A success is proven, with one exception (`Blind`): a read of the last pair that fails, or has the wrong length, leaves
its buffer as a copy that was read, so that bytes in the buffer of a failed read can stand for the copy just written.
-/

namespace Redline.Hub

open Redline.Wire Redline.Records Redline.Lib

namespace Ledger

/-! ### One commit -/

/-- A reply as a copy of the pair; an unavailable one is none. -/
def copyOfReply (reply : ReadReply) : FixedCopy :=
  if reply.result = .missing then ⟨.missing, reply.bytes⟩ else ⟨.ok, reply.bytes⟩

theorem readRecordCopy_ends (l : Ledger) (slot : SlotIndex) (copy : CopySlot)
    {Q : Log StorageOp.Reply → Ledger × Option FixedCopy → Prop}
    (hunavailable : ∀ reply : ReadReply, reply.result = .unavailable →
      Q [⟨.read (.event slot copy), reply⟩] (l.failLedger .storageUnavailable, none))
    (hread : ∀ reply : ReadReply, reply.result ≠ .unavailable →
      Q [⟨.read (.event slot copy), reply⟩] (l, some (copyOfReply reply))) :
    (l.readRecordCopy slot copy).Ends Q := by
  refine Prog.ends_ask _ fun reply => ?_
  unfold copyOfReply at hread
  unfold classifyRead
  by_cases hmissing : reply.result = .missing
  · have hq := hread reply (by rw [hmissing]; decide)
    rw [if_pos hmissing] at hq ⊢
    exact hq
  · rw [if_neg hmissing]
    by_cases havailable : reply.result = .unavailable
    · rw [if_pos havailable]
      exact hunavailable reply havailable
    · have hq := hread reply havailable
      rw [if_neg hmissing] at hq
      rw [if_neg havailable]
      exact hq

/-- What the last pair of reads selects. -/
def selectionOf (r : CommitReplies) : Selection HubRecord :=
  selectCopies HubRecord.generation decodeHubRecordForSelection (copyOfReply (r.final .A)) (copyOfReply (r.final .B))

/-- The bytes of a record; none where it does not encode. -/
def encodedOf (next : HubRecord) : Bytes := (encodeHubRecord next).toOption.getD []

/-- The copy a commit writes. -/
def targetOf (l : Ledger) (slot : SlotIndex) : CopySlot := (l.slots slot).activeCopy.opposite

def commitLog (l : Ledger) (slot : SlotIndex) (next : HubRecord) (r : CommitReplies) : Log StorageOp.Reply :=
  r.log slot (l.targetOf slot) .A (encodedOf next)

/-- The replies pass the checks of a commit. -/
structure Passes (l : Ledger) (slot : SlotIndex) (next : HubRecord) (r : CommitReplies) : Prop where
  encodes : encodeHubRecord next = .ok (encodedOf next)
  verified : r.Verified hubRecordSize (encodedOf next)
  available : ∀ c, (r.final c).result ≠ .unavailable
  selected : (selectionOf r).slot = l.targetOf slot
  generation : (selectionOf r).selected.generation = next.generation
  authoritative : (selectionOf r).result.authoritative = true

/-- **What a commit does**, whatever the storage answers. -/
theorem commitRecord_ends (l : Ledger) (slot : SlotIndex) (next : HubRecord) :
    (l.commitRecord slot next (l.targetOf slot)).Ends fun log outcome =>
      (outcome.2 = true ∧ ∃ r, log = l.commitLog slot next r ∧ l.Passes slot next r ∧
        outcome.1 = l.setSlot slot ⟨true, l.targetOf slot, (selectionOf r).selected⟩) ∨
      (outcome.2 = false ∧ outcome.1.slots = l.slots ∧ outcome.1.ledgerHealthy = false ∧
        ∀ r, log = l.commitLog slot next r → ¬ l.Passes slot next r) := by
  unfold commitRecord
  split
  · rename_i hencode
    refine .inr ⟨rfl, rfl, rfl, fun r _ hr => ?_⟩
    rw [hr.encodes] at hencode
    cases hencode
  rename_i encoded hencode
  have hencoded : encodedOf next = encoded := by rw [encodedOf, hencode]; rfl
  have hshort : ∀ {log : Log StorageOp.Reply}, log.length < 5 → ∀ r, log = l.commitLog slot next r →
      ¬ l.Passes slot next r := by
    rintro log hlen r rfl
    exact absurd hlen (by simp [commitLog, CommitReplies.log])
  unfold writeBlob commitStorage readBlob
  refine Prog.ends_ask _ fun written => ?_
  split
  · exact .inr ⟨rfl, rfl, rfl, hshort (by simp)⟩
  rename_i hwritten
  refine Prog.ends_ask _ fun committed => ?_
  split
  · exact .inr ⟨rfl, rfl, rfl, hshort (by simp)⟩
  rename_i hcommitted
  refine Prog.ends_ask _ fun readBack => ?_
  split
  · exact .inr ⟨rfl, rfl, rfl, hshort (by simp)⟩
  rename_i hread
  split
  · exact .inr ⟨rfl, rfl, rfl, hshort (by simp)⟩
  rename_i hbytes
  rw [not_not] at hwritten hcommitted
  rw [not_or, not_not, not_not] at hread
  rw [not_or, not_not] at hbytes
  refine Prog.ends_bind.2 (readRecordCopy_ends l slot .A (fun a ha => ?_) fun a ha => ?_)
  · exact .inr ⟨rfl, rfl, rfl, hshort (by simp)⟩
  dsimp only
  have hunique : ∀ (b : ReadReply) r, ([⟨.write (.event slot (l.targetOf slot)) encoded, written⟩,
      ⟨.commit, committed⟩, ⟨.read (.event slot (l.targetOf slot)), readBack⟩, ⟨.read (.event slot .A), a⟩,
      ⟨.read (.event slot .B), b⟩] : Log StorageOp.Reply) = l.commitLog slot next r ↔
        r = ⟨written, committed, readBack, fun c => if c = .A then a else b⟩ := by
    intro b r
    rw [← hencoded]
    constructor
    · intro h
      exact CommitReplies.log_inj h.symm
    · rintro rfl
      rfl
  refine Prog.ends_bind.2 (readRecordCopy_ends l slot .B (fun b hb => ?_) fun b hb => ?_)
  · refine .inr ⟨rfl, rfl, rfl, fun r hr hpasses => ?_⟩
    rw [(hunique b r).1 hr] at hpasses
    exact hpasses.available .B hb
  · dsimp only
    have hselection : selectCopies HubRecord.generation decodeHubRecordForSelection (copyOfReply a) (copyOfReply b) =
        selectionOf ⟨written, committed, readBack, fun c => if c = .A then a else b⟩ := rfl
    rw [hselection]
    set r : CommitReplies := ⟨written, committed, readBack, fun c => if c = .A then a else b⟩ with hr
    unfold selectsTarget
    by_cases hrefused : (selectionOf r).slot ≠ l.targetOf slot ∨ (selectionOf r).selected.generation ≠ next.generation ∨
        (!(selectionOf r).result.authoritative) = true
    · rw [if_pos hrefused]
      refine .inr ⟨rfl, rfl, rfl, fun r' hlog hpasses => ?_⟩
      rw [(hunique b r').1 hlog, ← hr] at hpasses
      simp [hpasses.selected, hpasses.generation, hpasses.authoritative] at hrefused
    · rw [if_neg hrefused]
      rw [not_or, not_or, not_not, not_not, Bool.not_eq_true', Bool.not_eq_false] at hrefused
      refine .inl ⟨rfl, r, (hunique b r).2 rfl, ?_, rfl⟩
      refine ⟨by rw [hencode, hencoded], ⟨hwritten, hcommitted, hread.1, hread.2, by rw [hencoded]; exact hbytes.2.symm⟩,
        ?_, hrefused.1, hrefused.2.1, hrefused.2.2⟩
      intro c
      cases c
      · exact ha
      · exact hb

/-- Replies that pass are replies of a run. -/
theorem logs_commitRecord {l : Ledger} {slot : SlotIndex} {next : HubRecord} {r : CommitReplies}
    (h : l.Passes slot next r) :
    (l.commitRecord slot next (l.targetOf slot)).Logs (l.commitLog slot next r)
      (l.setSlot slot ⟨true, l.targetOf slot, (selectionOf r).selected⟩, true) := by
  have hread : ∀ c, (l.readRecordCopy slot c).Logs [⟨.read (.event slot c), r.final c⟩]
      (l, some (copyOfReply (r.final c))) := by
    intro c
    unfold readRecordCopy readBlob
    refine Prog.logs_ask (StorageOp.read (.event slot c)) ?_
    have hclassify : classifyRead (r.final c) = some (copyOfReply (r.final c)) := by
      unfold classifyRead copyOfReply
      split
      · rfl
      · rw [if_neg (h.available c)]
    rw [hclassify]
    exact .pure _
  have hdecoded : decodeHubRecordForSelection (encodedOf next) = some next := by
    rw [decodeHubRecordForSelection, decodeHubRecord_encode h.encodes]
    rfl
  unfold commitRecord
  rw [h.encodes]
  unfold writeBlob commitStorage readBlob
  refine Prog.logs_ask (StorageOp.write (.event slot (l.targetOf slot)) (encodedOf next)) ?_
  rw [if_neg (not_not.2 h.verified.write)]
  refine Prog.logs_ask StorageOp.commit ?_
  rw [if_neg (not_not.2 h.verified.commit)]
  refine Prog.logs_ask (StorageOp.read (.event slot (l.targetOf slot))) ?_
  rw [if_neg (by simp [h.verified.result, h.verified.length]),
    if_neg (by simp [h.verified.bytes, hdecoded])]
  refine Prog.logs_bind.2 ⟨[_], _, _, rfl, hread .A, ?_⟩
  refine Prog.logs_bind.2 ⟨[_], [], _, rfl, hread .B, ?_⟩
  dsimp only
  have hselection : selectCopies HubRecord.generation decodeHubRecordForSelection (copyOfReply (r.final .A))
      (copyOfReply (r.final .B)) = selectionOf r := rfl
  have htarget : selectsTarget HubRecord.generation (selectionOf r) (l.targetOf slot) next.generation =
      .ok (selectionOf r).selected := by
    unfold selectsTarget
    rw [if_neg]
    simp [h.selected, h.generation, h.authoritative]
  rw [hselection, htarget]
  exact .pure _

/-! ### Proof and its lack -/

/-- The replies prove a commit of the record. -/
def Proves (l : Ledger) (slot : SlotIndex) (next : HubRecord) (r : CommitReplies) : Prop :=
  encodeHubRecord next = .ok (encodedOf next) ∧
    r.Proves hubRecordSize HubRecord.generation decodeHubRecordForSelection (selectionOf r) (l.targetOf slot)
      (encodedOf next) next.generation

/-- **The commit that is not proven**: the last read of the copy just written has failed, and what it left in the buffer
passes for the copy. -/
structure Blind (l : Ledger) (slot : SlotIndex) (next : HubRecord) (r : CommitReplies) : Prop
    extends l.Passes slot next r where
  unread : (r.final (l.targetOf slot)).result ≠ .ok ∨ (r.final (l.targetOf slot)).length ≠ hubRecordSize

theorem decode_of_valid {reply : ReadReply} {record : HubRecord}
    (h : (copyOfReply reply).valid decodeHubRecordForSelection = some record) :
    decodeHubRecordForSelection reply.bytes = some record := by
  unfold copyOfReply at h
  split at h
  · cases h
  · exact h

theorem Passes.proves_or_blind {l : Ledger} {slot : SlotIndex} {next : HubRecord} {r : CommitReplies}
    (h : l.Passes slot next r) : l.Proves slot next r ∨ l.Blind slot next r := by
  by_cases hunread : (r.final (l.targetOf slot)).result ≠ .ok ∨ (r.final (l.targetOf slot)).length ≠ hubRecordSize
  · exact .inr ⟨h, hunread⟩
  · rw [not_or, not_not, not_not] at hunread
    have hvalid := selectCopies_valid h.authoritative
    have hpick : pickCopy (copyOfReply (r.final .A)) (copyOfReply (r.final .B)) (l.targetOf slot) =
        copyOfReply (r.final (l.targetOf slot)) := by
      cases l.targetOf slot <;> rfl
    have hslot : (selectCopies HubRecord.generation decodeHubRecordForSelection (copyOfReply (r.final .A))
        (copyOfReply (r.final .B))).slot = l.targetOf slot := h.selected
    rw [hslot, hpick] at hvalid
    exact .inl ⟨h.encodes, h.verified, hunread.1, hunread.2, ⟨_, decode_of_valid hvalid, h.generation⟩, h.authoritative,
      h.selected⟩

theorem Proves.not_blind {l : Ledger} {slot : SlotIndex} {next : HubRecord} {r : CommitReplies}
    (h : l.Proves slot next r) : ¬ l.Blind slot next r := by
  intro hblind
  rcases hblind.unread with hresult | hlength
  · exact hresult h.2.final_result
  · exact hlength h.2.final_length

/-! ### Ordinals -/

theorem readMetadataCopy_slots (l : Ledger) (copy : CopySlot) :
    (l.readMetadataCopy copy).Ends fun _ outcome => outcome.1.slots = l.slots := by
  refine Prog.ends_ask _ fun reply => ?_
  split <;> rfl

theorem commitMetadata_slots (l : Ledger) (next : HubMetadata) (target : CopySlot) :
    (l.commitMetadata next target).Ends fun _ outcome => outcome.1.slots = l.slots := by
  unfold commitMetadata
  split
  · rfl
  refine Prog.ends_ask _ fun written => ?_
  split
  · rfl
  refine Prog.ends_ask _ fun committed => ?_
  split
  · rfl
  refine Prog.ends_ask _ fun readBack => ?_
  split
  · rfl
  split
  · rfl
  refine (readMetadataCopy_slots l .A).bind fun _ outcome hA => ?_
  obtain ⟨lA, copyA⟩ := outcome
  cases copyA with
  | none => exact hA
  | some copyA =>
    refine (readMetadataCopy_slots lA .B).bind fun _ outcome hB => ?_
    obtain ⟨lB, copyB⟩ := outcome
    have hslots : lB.slots = l.slots := hB.trans hA
    cases copyB with
    | none => exact hslots
    | some copyB =>
      dsimp only
      split <;> exact hslots

theorem allocateOrdinal_slots (l : Ledger) : l.allocateOrdinal.Ends fun _ outcome => outcome.1.slots = l.slots := by
  unfold allocateOrdinal
  split
  · rfl
  split
  · dsimp only
    split
    · rfl
    · refine (commitMetadata_slots l _ _).bind fun _ outcome h => ?_
      obtain ⟨l', committed⟩ := outcome
      cases committed <;> exact h
  · rfl

end Ledger

/-! ### The mutations -/

inductive Mutation
  | admitEvent (event : Event)
  | consume (identity : Identity)

/-- What a mutation reports. -/
inductive MutationReport
  | admission (result : AdmissionResult)
  | consumption (result : ConsumeResult)
  deriving DecidableEq

/-- The ledger reports that it has changed a record. -/
def MutationReport.success : MutationReport → Bool
  | .admission result => result.status = .durableNewAdmission
  | .consumption result => result.status = .consumed

namespace Mutation

def run (l : Ledger) : Mutation → StorageM (Ledger × MutationReport)
  | .admitEvent event => do
    let (l, result) ← l.admitEvent event
    return (l, .admission result)
  | .consume identity => do
    let (l, result) ← l.consume identity
    return (l, .consumption result)

/-- What a mutation reports behind its commit. -/
def finish (committed : Bool) (l : Ledger) (done : MutationReport) : Ledger × MutationReport :=
  if committed then (l, done)
  else
    match done with
    | .admission _ => (l, .admission ⟨.storageFailure, none, 0⟩)
    | .consumption result => (l, .consumption ⟨.storageFailure, result.slot⟩)

def committer : Committer Ledger MutationReport HubRecord where
  commit := fun l slot next => l.commitRecord slot next (l.targetOf slot)
  finish := finish
  success := MutationReport.success

/-- What a mutation is about to do. -/
def plan (l : Ledger) : Mutation → StorageM (Plan Ledger MutationReport HubRecord)
  | .admitEvent event => do
    if !l.ledgerHealthy then return .stop l (.admission ⟨.degraded, none, 0⟩)
    if l.validateAdmission event ≠ .durableNewAdmission then
      return .stop l (.admission ⟨l.validateAdmission event, none, 0⟩)
    match l.findOwned event with
    | some slot =>
      return .stop l (.admission ⟨if Ledger.sameCanonical (l.slots slot).record event then .exactDuplicate
        else .identityContentMismatch, some slot, (l.slots slot).record.admissionOrdinal⟩)
    | none =>
      match l.admissionTarget event with
      | none => return .stop l (.admission ⟨.capacity, none, 0⟩)
      | some target => do
        let (l, ordinal) ← l.allocateOrdinal
        match ordinal with
        | none => return .stop l (.admission ⟨.storageFailure, none, 0⟩)
        | some ordinal =>
          return .commit l target
            (Ledger.admittedRecord ((l.slots target).record.generation + 1) event ordinal)
            (.admission ⟨.durableNewAdmission, some target, ordinal⟩)
  | .consume identity => pure (
      if !l.ledgerHealthy then .stop l (.consumption ⟨.degraded, none⟩)
      else
        match l.find identity with
        | none => .stop l (.consumption ⟨.notFound, none⟩)
        | some slot =>
          let record := (l.slots slot).record
          if record.state = .consumed then .stop l (.consumption ⟨.alreadyConsumed, some slot⟩)
          else .commit l slot { record with generation := record.generation + 1, state := .consumed }
            (.consumption ⟨.consumed, some slot⟩))

/-- **A mutation is its plan.** -/
theorem run_eq (m : Mutation) (l : Ledger) : m.run l = m.plan l >>= committer.run := by
  cases m with
  | admitEvent event =>
    unfold run plan Ledger.admitEvent
    dsimp only
    split
    · rfl
    split
    · rfl
    cases l.findOwned event with
    | some slot => rfl
    | none =>
      cases l.admissionTarget event with
      | none => rfl
      | some target =>
        dsimp only
        rw [Prog.bind_assoc', Prog.bind_assoc']
        congr 1
        funext outcome
        obtain ⟨l', ordinal⟩ := outcome
        cases ordinal with
        | none => rfl
        | some ordinal =>
          dsimp only
          rw [Prog.bind_assoc', Prog.pure_bind']
          simp only [Committer.run, committer]
          unfold Ledger.targetOf
          congr 1
          funext outcome
          obtain ⟨l'', committed⟩ := outcome
          cases committed <;> rfl
  | consume identity =>
    unfold run plan Ledger.consume
    dsimp only
    split
    · rfl
    cases l.find identity with
    | none => rfl
    | some slot =>
      dsimp only
      split
      · rfl
      · rw [Prog.bind_assoc', Prog.pure_bind']
        simp only [Committer.run, committer]
        unfold Ledger.targetOf
        congr 1
        funext outcome
        obtain ⟨l', committed⟩ := outcome
        cases committed <;> rfl

/-! ### What a mutation reports -/

/-- The report of a degraded ledger. -/
def refusal : Mutation → MutationReport
  | .admitEvent _ => .admission ⟨.degraded, none, 0⟩
  | .consume _ => .consumption ⟨.degraded, none⟩

/-- The mutations of the Hub's ledger. -/
def mutations : Mutations Ledger MutationReport HubRecord Mutation where
  committer := fun _ => committer
  plan := fun m l => m.plan l
  recordOf := fun l slot => (l.slots slot).record
  generation := HubRecord.generation
  refusal := refusal

theorem plan_ends (m : Mutation) (l : Ledger) : (m.plan l).Ends fun _ p => mutations.PlansFrom m l p := by
  cases m with
  | admitEvent event =>
    unfold plan
    dsimp only
    split
    · exact .stop rfl
    split
    · rename_i hrefused
      exact .stop (decide_eq_false hrefused)
    cases l.findOwned event with
    | some slot =>
      refine .stop (decide_eq_false ?_)
      dsimp only
      split <;> decide
    | none =>
      cases l.admissionTarget event with
      | none => exact .stop rfl
      | some target =>
        refine l.allocateOrdinal_slots.bind fun _ outcome hslots => ?_
        obtain ⟨l', ordinal⟩ := outcome
        cases ordinal with
        | none => exact .stop rfl
        | some ordinal =>
          have hrecords : mutations.recordOf l' = mutations.recordOf l := by
            funext slot
            simp only [mutations]
            rw [show l'.slots = l.slots from hslots]
          refine .commit hrecords ?_
          rw [← hrecords]
          rfl
  | consume identity =>
    change mutations.PlansFrom _ l _
    split
    · exact .stop rfl
    cases l.find identity with
    | none => exact .stop rfl
    | some slot =>
      dsimp only
      split
      · exact .stop rfl
      · exact .commit rfl rfl

/-- How the Hub's commits pass, and what they prove. -/
def spec : committer.Spec where
  installed := fun l slot _ r => l.setSlot slot ⟨true, l.targetOf slot, (Ledger.selectionOf r).selected⟩
  log := Ledger.commitLog
  Passes := Ledger.Passes
  Proves := Ledger.Proves
  Blind := Ledger.Blind
  log_inj := fun _ _ _ _ _ h => CommitReplies.log_inj h
  proves_or_blind := fun _ _ _ _ h => h.proves_or_blind
  passes_of_blind := fun _ _ _ _ h => h.toPasses
  disjoint := fun _ _ _ _ h => h.not_blind
  commits := fun l slot next => (l.commitRecord_ends slot next).mono fun log outcome h => by
    rcases h with ⟨htrue, r, hlog, hpasses, hinstalled⟩ | ⟨hfalse, -, -, hr⟩
    · refine ⟨⟨fun _ => ⟨r, hlog, hpasses⟩, fun _ => htrue⟩, fun r' hlog' _ => ?_⟩
      rw [hinstalled, CommitReplies.log_inj (hlog.symm.trans hlog')]
    · refine ⟨⟨fun h => ?_, fun h => ?_⟩, fun _ _ h => ?_⟩
      · rw [hfalse] at h
        cases h
      · obtain ⟨r, hlog, hpasses⟩ := h
        exact absurd hpasses (hr r hlog)
      · rw [hfalse] at h
        cases h
  unfinished := fun l done => by cases done <;> rfl

theorem plan_degraded {l : Ledger} (h : l.ledgerHealthy = false) (m : Mutation) : m.plan l = pure (.stop l m.refusal) := by
  cases m <;> simp [plan, refusal, h]

/-- What is known of the Hub's ledger. -/
def sound : mutations.Sound where
  spec := fun _ => spec
  plans := plan_ends
  Degraded := fun l => l.ledgerHealthy = false
  fails := fun _ l slot next => (l.commitRecord_ends slot next).mono fun _ outcome h hfalse => by
    rcases h with ⟨htrue, -⟩ | ⟨-, hslots, hhealthy, -⟩
    · rw [htrue] at hfalse
      cases hfalse
    · exact ⟨funext fun i => by simp only [mutations, hslots], hhealthy⟩
  refuses := fun m _ h => plan_degraded h m

/-- **When the Hub's mutations are truthful.** -/
theorem truthful_iff {m : Mutation} {l l' : Ledger} {log : Log StorageOp.Reply} {report : MutationReport}
    (h : (m.run l).Logs log (l', report)) :
    Mutations.Truthful sound m l log report ↔ ¬ spec.Misled (m.plan l) log := by
  rw [run_eq] at h
  exact sound.truthful_iff h

end Mutation

end Redline.Hub
