import Redline.Lib.Log
import Redline.Records.Storage

/-!
# What a commit has been told

A commit of a record asks the storage five times: it writes the copy that is not in force, commits, reads the copy back
and reads the pair.  `CommitReplies` are the answers, whatever the storage makes of them, and `Proves` says which of
them prove the commit.

A mutation makes a plan: it stops, or it commits a record and finishes.  `proven_iff` says when a reported mutation is
a proven one: exactly when the replies of its commit are not among those that pass the checks and prove nothing.
-/

namespace Redline.Records

open Redline.Wire Redline.Lib

/-- The answers to the calls of one commit. -/
structure CommitReplies where
  write : StorageResult
  commit : StorageResult
  readBack : ReadReply
  final : CopySlot → ReadReply

namespace CommitReplies

/-- The calls with their answers; the copy `first` is the first of the pair that is read. -/
def log (r : CommitReplies) (slot : SlotIndex) (target first : CopySlot) (encoded : Bytes) : Log StorageOp.Reply :=
  [⟨.write (.event slot target) encoded, r.write⟩, ⟨.commit, r.commit⟩, ⟨.read (.event slot target), r.readBack⟩,
    ⟨.read (.event slot first), r.final first⟩, ⟨.read (.event slot first.opposite), r.final first.opposite⟩]

theorem log_inj {r r' : CommitReplies} {slot : SlotIndex} {target first : CopySlot} {encoded : Bytes}
    (h : r.log slot target first encoded = r'.log slot target first encoded) : r = r' := by
  simp only [log, List.cons.injEq, and_true] at h
  obtain ⟨hwrite, hcommit, hreadBack, hfirst, hsecond⟩ := h
  have hfinal : r.final = r'.final := by
    funext c
    cases first <;> cases c
    · exact Answer.reply_inj.1 hfirst
    · exact Answer.reply_inj.1 hsecond
    · exact Answer.reply_inj.1 hsecond
    · exact Answer.reply_inj.1 hfirst
  calc r = ⟨r.write, r.commit, r.readBack, r.final⟩ := rfl
    _ = ⟨r'.write, r'.commit, r'.readBack, r'.final⟩ := by
      rw [show r.write = r'.write from Answer.reply_inj.1 hwrite,
        show r.commit = r'.commit from Answer.reply_inj.1 hcommit,
        show r.readBack = r'.readBack from Answer.reply_inj.1 hreadBack, hfinal]

variable {ρ : Type} [Inhabited ρ]

/-- The write and the commit were accepted, and the copy was read back as it was written. -/
structure Verified (r : CommitReplies) (size : ℕ) (encoded : Bytes) : Prop where
  write : r.write = .ok
  commit : r.commit = .ok
  result : r.readBack.result = .ok
  length : r.readBack.length = size
  bytes : r.readBack.bytes = encoded

/-- **The replies prove the commit** of the copy `target` with the generation `expected`: verified, read in the last
pair, decoded and selected. -/
structure Proves (r : CommitReplies) (size : ℕ) (generation : ρ → UInt32) (decode : Bytes → Option ρ)
    (selection : Selection ρ) (target : CopySlot) (encoded : Bytes) (expected : UInt32) : Prop
    extends Verified r size encoded where
  final_result : (r.final target).result = .ok
  final_length : (r.final target).length = size
  decoded : ∃ record, decode (r.final target).bytes = some record ∧ generation record = expected
  authoritative : selection.result.authoritative = true
  selected : selection.slot = target

end CommitReplies

/-! ### Mutations -/

/-- What a mutation is about to do: stop with a report, or commit a record and report `done`. -/
inductive Plan (σ ν ρ : Type)
  | stop (s : σ) (report : ν)
  | commit (s : σ) (slot : SlotIndex) (record : ρ) (done : ν)

/-- How the mutations of a machine go on from their plan. -/
structure Committer (σ ν ρ : Type) where
  commit : σ → SlotIndex → ρ → StorageM (σ × Bool)
  finish : Bool → σ → ν → σ × ν
  success : ν → Bool

namespace Committer

variable {σ ν ρ : Type} (k : Committer σ ν ρ)

def run : Plan σ ν ρ → StorageM (σ × ν)
  | .stop s report => return (s, report)
  | .commit s slot record done => do
    let (s, committed) ← k.commit s slot record
    return k.finish committed s done

/-- What is to be known of a commit: the state it leaves and the replies that pass its checks, with those that prove
it and those that prove nothing. -/
structure Spec where
  installed : σ → SlotIndex → ρ → CommitReplies → σ
  log : σ → SlotIndex → ρ → CommitReplies → Log StorageOp.Reply
  Passes : σ → SlotIndex → ρ → CommitReplies → Prop
  Proves : σ → SlotIndex → ρ → CommitReplies → Prop
  Blind : σ → SlotIndex → ρ → CommitReplies → Prop
  log_inj : ∀ s slot record r r', log s slot record r = log s slot record r' → r = r'
  proves_or_blind : ∀ s slot record r, Passes s slot record r → Proves s slot record r ∨ Blind s slot record r
  passes_of_blind : ∀ s slot record r, Blind s slot record r → Passes s slot record r
  disjoint : ∀ s slot record r, Proves s slot record r → ¬ Blind s slot record r
  commits : ∀ s slot record, (k.commit s slot record).Ends fun l outcome =>
    (outcome.2 = true ↔ ∃ r, l = log s slot record r ∧ Passes s slot record r) ∧
      ∀ r, l = log s slot record r → outcome.2 = true → outcome.1 = installed s slot record r
  unfinished : ∀ s done, k.success (k.finish false s done).2 = false

variable {k} (spec : k.Spec) {plan : StorageM (Plan σ ν ρ)}

/-- The run has committed a record on proof. -/
def Spec.Proven (plan : StorageM (Plan σ ν ρ)) (log : Log StorageOp.Reply) : Prop :=
  ∃ past s slot record done r, plan.Logs past (.commit s slot record done) ∧ log = past ++ spec.log s slot record r ∧
    spec.Proves s slot record r

/-- The storage has answered the commit so that it passes without proof. -/
def Spec.Misled (plan : StorageM (Plan σ ν ρ)) (log : Log StorageOp.Reply) : Prop :=
  ∃ past s slot record done r, plan.Logs past (.commit s slot record done) ∧ log = past ++ spec.log s slot record r ∧
    spec.Blind s slot record r ∧ k.success (k.finish true (spec.installed s slot record r) done).2 = true

/-- A success is a commit that has passed. -/
theorem Spec.passed_of_success {log : Log StorageOp.Reply} {s' : σ} {report : ν}
    (hstop : plan.Ends fun _ p => ∀ s report, p = .stop s report → k.success report = false)
    (h : (plan >>= k.run).Logs log (s', report)) (hs : k.success report = true) :
    ∃ past s slot record done r, plan.Logs past (.commit s slot record done) ∧ log = past ++ spec.log s slot record r ∧
      spec.Passes s slot record r ∧ k.success (k.finish true (spec.installed s slot record r) done).2 = true := by
  obtain ⟨past, rest, p, rfl, hplan, hrun⟩ := Prog.logs_bind.1 h
  cases p with
  | stop s report' =>
    obtain ⟨-, heq⟩ := Prog.logs_pure.1 hrun
    rw [Prod.mk.injEq] at heq
    rw [heq.2, hplan.ends hstop s report' rfl] at hs
    cases hs
  | commit s slot record done =>
    obtain ⟨rest, last, ⟨s1, committed⟩, rfl, hcommit, hfinish⟩ := Prog.logs_bind.1 hrun
    obtain ⟨rfl, heq⟩ := Prog.logs_pure.1 hfinish
    obtain ⟨hpassed, hinstalled⟩ := hcommit.ends (spec.commits s slot record)
    cases committed with
    | false =>
      rw [show report = (k.finish false s1 done).2 from congrArg Prod.snd heq, spec.unfinished] at hs
      cases hs
    | true =>
      obtain ⟨r, rfl, hr⟩ := hpassed.1 rfl
      refine ⟨past, s, slot, record, done, r, hplan, by rw [List.append_nil], hr, ?_⟩
      rw [show report = (k.finish true s1 done).2 from congrArg Prod.snd heq] at hs
      rw [← hinstalled r rfl rfl]
      exact hs

theorem Spec.success_of_misled {log : Log StorageOp.Reply} {s' : σ} {report : ν}
    (h : (plan >>= k.run).Logs log (s', report)) (hm : spec.Misled plan log) : k.success report = true := by
  obtain ⟨past, s, slot, record, done, r, hplan, rfl, hblind, hdone⟩ := hm
  obtain ⟨past', rest, p, heq, hplan', hrun⟩ := Prog.logs_bind.1 h
  obtain ⟨rfl, rfl, rfl⟩ := hplan.unique hplan' heq
  obtain ⟨rest, last, ⟨s1, committed⟩, hrest, hcommit, hfinish⟩ := Prog.logs_bind.1 hrun
  obtain ⟨rfl, hreport⟩ := Prog.logs_pure.1 hfinish
  rw [List.append_nil] at hrest
  subst hrest
  obtain ⟨hpassed, hinstalled⟩ := hcommit.ends (spec.commits s slot record)
  have hok : committed = true := hpassed.2 ⟨r, rfl, spec.passes_of_blind s slot record r hblind⟩
  have hs1 : s1 = spec.installed s slot record r := hinstalled r rfl hok
  rw [show report = (k.finish committed s1 done).2 from congrArg Prod.snd hreport, hok, hs1]
  exact hdone

/-- **When a reported mutation is a proven one.** -/
theorem Spec.proven_iff {log : Log StorageOp.Reply} {s' : σ} {report : ν}
    (hstop : plan.Ends fun _ p => ∀ s report, p = .stop s report → k.success report = false)
    (h : (plan >>= k.run).Logs log (s', report)) :
    (k.success report = true → spec.Proven plan log) ↔ ¬ spec.Misled plan log := by
  constructor
  · intro hproven hm
    obtain ⟨past, s, slot, record, done, r, hplan, rfl, hr⟩ := hproven (spec.success_of_misled h hm)
    obtain ⟨past', s', slot', record', done', r', hplan', heq, hblind, -⟩ := hm
    obtain ⟨rfl, hp, hlog⟩ := hplan.unique hplan' heq
    cases hp
    rw [spec.log_inj s slot record r r' hlog] at hr
    exact spec.disjoint s slot record r' hr hblind
  · intro hm hs
    obtain ⟨past, s, slot, record, done, r, hplan, rfl, hpasses, hdone⟩ := spec.passed_of_success hstop h hs
    rcases spec.proves_or_blind s slot record r hpasses with hr | hr
    · exact ⟨past, s, slot, record, done, r, hplan, rfl, hr⟩
    · exact absurd ⟨past, s, slot, record, done, r, hplan, rfl, hr, hdone⟩ hm

end Committer

/-- The mutations `μ` of a machine: how each commits, what it plans, the record of a slot, and the report of a degraded
machine. -/
structure Mutations (σ ν ρ μ : Type) where
  committer : μ → Committer σ ν ρ
  plan : μ → σ → StorageM (Plan σ ν ρ)
  recordOf : σ → SlotIndex → ρ
  generation : ρ → UInt32
  refusal : μ → ν

namespace Mutations

variable {σ ν ρ μ : Type} (M : Mutations σ ν ρ μ)

def run (m : μ) (s : σ) : StorageM (σ × ν) := M.plan m s >>= (M.committer m).run

/-- Mutations, one after the other. -/
def runAll (s : σ) : List μ → StorageM (σ × List ν)
  | [] => pure (s, [])
  | m :: later => do
    let (s, report) ← M.run m s
    let (s, reports) ← runAll s later
    return (s, report :: reports)

/-- What a plan can be: it stops without success, or it commits the next generation of a slot. -/
inductive PlansFrom (m : μ) (s : σ) : Plan σ ν ρ → Prop
  | stop {s' : σ} {report : ν} (h : (M.committer m).success report = false) : PlansFrom m s (.stop s' report)
  | commit {s' : σ} {slot : SlotIndex} {record : ρ} {done : ν} (hrecords : M.recordOf s' = M.recordOf s)
      (hgeneration : M.generation record = M.generation (M.recordOf s slot) + 1) :
      PlansFrom m s (.commit s' slot record done)

/-- What is to be known of a machine. -/
structure Sound where
  spec : ∀ m, (M.committer m).Spec
  plans : ∀ m s, (M.plan m s).Ends fun _ p => M.PlansFrom m s p
  Degraded : σ → Prop
  fails : ∀ m s slot record, ((M.committer m).commit s slot record).Ends fun _ outcome =>
    outcome.2 = false → M.recordOf outcome.1 = M.recordOf s ∧ Degraded outcome.1
  refuses : ∀ m s, Degraded s → M.plan m s = pure (.stop s (M.refusal m))

variable {M} (S : M.Sound) {m : μ} {s s' : σ} {log : Log StorageOp.Reply} {report : ν}

/-- A degraded machine refuses every mutation and stays as it is, without a call. -/
theorem Sound.runAll_degraded (h : S.Degraded s) (later : List μ) :
    M.runAll s later = pure (s, later.map M.refusal) := by
  induction later with
  | nil => rfl
  | cons m later ih =>
    have hrun : M.run m s = pure (s, M.refusal m) := by
      rw [run, S.refuses m s h]
      rfl
    unfold runAll
    rw [hrun, Prog.pure_bind']
    dsimp only
    rw [ih]
    rfl

/-- A mutation reports what it can prove, and its failed commit closes the machine. -/
structure Truthful (m : μ) (s : σ) (log : Log StorageOp.Reply) (report : ν) : Prop where
  /-- A success rests on the proof of a commit. -/
  proven : (M.committer m).success report = true → (S.spec m).Proven (M.plan m s) log
  /-- What is committed is the next generation of its slot. -/
  next : ∀ past s' slot record done, (M.plan m s).Logs past (.commit s' slot record done) →
    M.generation record = M.generation (M.recordOf s slot) + 1
  /-- A commit that fails leaves the record, and every later mutation is refused. -/
  refused : ∀ past s' slot record done rest s'', (M.plan m s).Logs past (.commit s' slot record done) →
    ((M.committer m).commit s' slot record).Logs rest (s'', false) → log = past ++ rest →
    M.recordOf s'' slot = M.recordOf s slot ∧ ∀ later, M.runAll s'' later = pure (s'', later.map M.refusal)

/-- **When the mutations of a machine are truthful.** -/
theorem Sound.truthful_iff (h : (M.run m s).Logs log (s', report)) :
    Truthful S m s log report ↔ ¬ (S.spec m).Misled (M.plan m s) log := by
  have hstop : (M.plan m s).Ends fun _ p =>
      ∀ s' report, p = .stop s' report → (M.committer m).success report = false := by
    refine (S.plans m s).mono fun _ p hp s' report hstop => ?_
    subst hstop
    cases hp with
    | stop h => exact h
  have hcommit : ∀ past s' slot record done, (M.plan m s).Logs past (.commit s' slot record done) →
      M.recordOf s' = M.recordOf s ∧ M.generation record = M.generation (M.recordOf s slot) + 1 := by
    intro past s' slot record done hplan
    cases hplan.ends (S.plans m s) with
    | commit hrecords hgeneration => exact ⟨hrecords, hgeneration⟩
  rw [← (S.spec m).proven_iff hstop h]
  refine ⟨fun h => h.proven, fun hproven => ⟨hproven, ?_, ?_⟩⟩
  · exact fun past s' slot record done hplan => (hcommit past s' slot record done hplan).2
  · intro past s' slot record done rest s'' hplan hfailed _
    obtain ⟨hrecords, hdegraded⟩ := hfailed.ends (S.fails m s' slot record) rfl
    rw [hrecords, (hcommit past s' slot record done hplan).1]
    exact ⟨rfl, fun later => S.runAll_degraded hdegraded later⟩

end Mutations

end Redline.Records
