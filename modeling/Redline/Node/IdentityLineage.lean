import Redline.Node.Recovery

/-!
# One lineage of identities

The life of the allocator alone: allocations and recoveries in any order, each on a storage that may fail
at any primitive and may lose power at any primitive.  The failures are those of `Fault`: a write or a commit may
report anything, and leaves its cell old, new or unreadable; a read that fails says so, and leaves the zeroed buffer
of its caller alone.

`identities_increase`: the identities handed out over the whole life increase strictly and stay below the
durable high-water mark; the end of the ids of an epoch leads to the next epoch, and an epoch space that is used up
stays used up.  Reads of a recovery may fail
with UNAVAILABLE only: a copy whose read reports another error counts as malformed, and
`recovery_trusts_read_error` shows an identity handed out twice after such a report.
-/

namespace Redline.Node

open Redline.Wire Redline.Records Redline.Lib

/-- The RAM of the allocator, the image, and the answers of all allocations so far. -/
structure LineState where
  allocator : Allocator
  image : Image
  results : List AllocationResult

/-- A call, with the faults of the storage during it and an optional cut. -/
inductive LineAction
  | allocate (script : List Fault) (cut : Option (PowerCut Bytes))
  | recover (entropy : Option UInt32) (custody : CustodyState) (script : List Fault)
      (cut : Option (PowerCut Bytes))

namespace LineState

/-- One call; a cut loses the RAM. -/
def step (device : UInt8) (st : LineState) : LineAction → LineState
  | .allocate script cut =>
    match geometry.execFaulty st.allocator.allocate script cut st.image with
    | (some (a, r), img) => ⟨a, img, st.results ++ [r]⟩
    | (none, img) => ⟨.initial, img, st.results⟩
  | .recover entropy custody script cut =>
    match geometry.execFaulty (Allocator.recover entropy device custody) script cut st.image with
    | (some (a, _), img) => ⟨a, img, st.results⟩
    | (none, img) => ⟨.initial, img, st.results⟩

def run (device : UInt8) (st : LineState) (actions : List LineAction) : LineState :=
  actions.foldl (step device) st

/-- The start: the recovery that has begun the lineage, or has taken it up. -/
def start (device : UInt8) (entropy : Option UInt32) (custody : CustodyState) (img : Image) : LineState :=
  let r := (Allocator.recover entropy device custody).run geometry.flash (Disk.clean img)
  ⟨r.1.1, r.2.data, []⟩

/-- The identities handed out, in order. -/
def granted (st : LineState) : List Identity :=
  (st.results.filter fun r => r.status = .ready).map AllocationResult.identity

end LineState

/-- The reads of a recovery fail with UNAVAILABLE only. -/
def LineAction.Honest : LineAction → Prop
  | .allocate _ _ => True
  | .recover _ _ script _ => ∀ f ∈ script, ∀ result, f = .read result → result ≠ .ok → result = .unavailable

/-- The epochs of the metadata are used up. -/
def Exhausted (m : NodeMetadata) : Prop :=
  m.nextUnreservedEventId > 0xFFFFFFFF - reservationBlockSize ∧ m.eventEpoch = 0xFFFFFFFF

def Identity.key (identity : Identity) : ℕ := Node.key identity.epoch identity.id

/-! ### The invariant -/

/-- What the life of an allocator keeps. -/
structure Lineage (device : UInt8) (st : LineState) : Prop where
  /-- The metadata in force goes on, and covers what has been handed out. -/
  durable : ∃ m, MetaIs st.image m ∧ Usable device m ∧ ∀ i ∈ st.granted, Identity.key i < m.floor
  /-- A ready allocator mirrors it and stands past what has been handed out. -/
  ram : st.allocator.ready = true → MetaMirror st.allocator st.image ∧ Cursor st.allocator ∧
    st.allocator.sourceDeviceId = device ∧ ∀ i ∈ st.granted, Identity.key i < st.allocator.floor
  refusing : st.allocator.ready = false → st.allocator.status ≠ .ready
  sorted : st.granted.Pairwise fun i j => Identity.key i < Identity.key j
  nonzero : ∀ i ∈ st.granted, i.sourceDeviceId = device ∧ i.epoch ≠ 0 ∧ i.id ≠ 0
  /-- Once an allocation has found the epochs used up, they are. -/
  spent : (∃ r ∈ st.results, r.status = .epochExhausted) →
    (∀ m, MetaIs st.image m → Exhausted m) ∧
      (st.allocator.ready = true → st.allocator.nextIdentity? = none)
  reported : st.allocator.ready = false → st.allocator.status = .epochExhausted →
    ∃ r ∈ st.results, r.status = .epochExhausted
  /-- And no allocation after it has succeeded. -/
  final : st.results.Pairwise fun r r' => r.status = .epochExhausted → r'.status ≠ .ready

theorem exhausted_of_nextIdentity {a : Allocator} (h : a.nextIdentity? = none) : Exhausted a.metadata := by
  unfold Allocator.nextIdentity? at h
  split at h
  · cases h
  · split at h
    · split at h
      · exact ⟨‹_›, ‹_›⟩
      · cases h
    · cases h

theorem nextIdentity_resumed {device : UInt8} {c : CopySlot} {m : NodeMetadata} (h : Exhausted m) :
    (Allocator.resumed device c m).nextIdentity? = none := by
  have hend : (Allocator.resumed device c m).nextVolatileId =
      (Allocator.resumed device c m).volatileEndExclusive := rfl
  have hm : (Allocator.resumed device c m).metadata = m := rfl
  unfold Allocator.nextIdentity?
  rw [if_neg (not_not.2 hend), hm, if_pos h.1, if_pos h.2]

/-- With the epochs used up an allocation does not touch the storage. -/
theorem allocate_of_exhausted {a : Allocator} (hready : a.ready = true) (h : a.nextIdentity? = none) :
    a.allocate = pure ({ a with ready := false, status := .epochExhausted }, ⟨.epochExhausted, default⟩) := by
  have hx := exhausted_of_nextIdentity h
  have hend : a.nextVolatileId = a.volatileEndExclusive := by
    by_contra hc
    simp [Allocator.nextIdentity?, hc] at h
  unfold Allocator.allocate Allocator.reserveBlock
  dsimp only
  rw [hready, if_neg (by simp), if_pos hend, if_pos hx.1, if_pos hx.2]
  rfl

theorem allocate_of_not_ready {a : Allocator} (h : a.ready = false) :
    a.allocate = pure (a, ⟨a.status, default⟩) := by
  simp [Allocator.allocate, h]

theorem granted_append (st : LineState) (a : Allocator) (img : Image) (r : AllocationResult) :
    (LineState.mk a img (st.results ++ [r])).granted =
      st.granted ++ if r.status = .ready then [r.identity] else [] := by
  unfold LineState.granted
  by_cases h : r.status = .ready
  · simp [List.filter_append, h]
  · simp [List.filter_append, h]

variable {device : UInt8} {st : LineState}

/-- The RAM is lost: what is durable is kept. -/
theorem Lineage.lose (h : Lineage device st) {img : Image} {m : NodeMetadata} (hm : MetaIs img m)
    (hu : Usable device m) (hcover : ∀ i ∈ st.granted, Identity.key i < m.floor)
    (hspent : (∃ r ∈ st.results, r.status = .epochExhausted) → Exhausted m) :
    Lineage device ⟨.initial, img, st.results⟩ where
  durable := ⟨m, hm, hu, hcover⟩
  ram := fun hc => by cases hc
  refusing := fun _ => by simp [Allocator.initial]
  sorted := h.sorted
  nonzero := h.nonzero
  spent := fun hr => ⟨fun m' hm' => by rw [hm'.unique hm]; exact hspent hr, fun hc => by cases hc⟩
  reported := fun _ hc => by cases hc
  final := h.final

/-- An allocation that has not succeeded, for another reason than the end of the epochs. -/
theorem Lineage.refuse (h : Lineage device st) {a : Allocator} {status : EventIdentity.Status}
    (hready : a.ready = false) (hstatus : a.status = status) (hfail : status ≠ .ready)
    (hreported : status = .epochExhausted → ∃ r ∈ st.results, r.status = .epochExhausted)
    {img : Image} {m : NodeMetadata} (hm : MetaIs img m) (hu : Usable device m)
    (hcover : ∀ i ∈ st.granted, Identity.key i < m.floor)
    (hspent : (∃ r ∈ st.results, r.status = .epochExhausted) → Exhausted m) :
    Lineage device ⟨a, img, st.results ++ [⟨status, default⟩]⟩ := by
  have hgranted : (LineState.mk a img (st.results ++ [⟨status, default⟩])).granted = st.granted := by
    rw [granted_append]
    simp [hfail]
  have hmem : (∃ r ∈ st.results ++ [⟨status, default⟩], r.status = .epochExhausted) →
      ∃ r ∈ st.results, r.status = .epochExhausted := by
    rintro ⟨r, hr, he⟩
    rcases List.mem_append.1 hr with hr | hr
    · exact ⟨r, hr, he⟩
    · rw [List.mem_singleton] at hr
      subst hr
      exact hreported he
  refine
    { durable := ⟨m, hm, hu, by rw [hgranted]; exact hcover⟩
      ram := fun hc => by rw [hready] at hc; cases hc
      refusing := fun _ => by rw [hstatus]; exact hfail
      sorted := by rw [hgranted]; exact h.sorted
      nonzero := by rw [hgranted]; exact h.nonzero
      spent := fun hr => ⟨fun m' hm' => by rw [hm'.unique hm]; exact hspent (hmem hr), fun hc => by
        rw [hready] at hc; cases hc⟩
      reported := fun _ he => ?_
      final := ?_ }
  · obtain ⟨r, hr, he'⟩ := hreported (hstatus.symm.trans he)
    exact ⟨r, List.mem_append_left _ hr, he'⟩
  · refine List.pairwise_append.2 ⟨h.final, List.pairwise_singleton _ _, fun r _ r' hr' _ => ?_⟩
    rw [List.mem_singleton] at hr'
    subst hr'
    exact hfail

/-- An allocation that finds the epochs used up. -/
theorem Lineage.exhaust (h : Lineage device st) {m : NodeMetadata} (hm : MetaIs st.image m) (hx : Exhausted m) :
    Lineage device ⟨{ st.allocator with ready := false, status := .epochExhausted }, st.image,
      st.results ++ [⟨.epochExhausted, default⟩]⟩ := by
  obtain ⟨m', hm', hu, hcover⟩ := h.durable
  have hgranted : (LineState.mk { st.allocator with ready := false, status := .epochExhausted } st.image
      (st.results ++ [⟨.epochExhausted, default⟩])).granted = st.granted := by
    rw [granted_append]
    simp
  refine
    { durable := ⟨m', hm', hu, by rw [hgranted]; exact hcover⟩
      ram := fun hc => by cases hc
      refusing := fun _ => by simp
      sorted := by rw [hgranted]; exact h.sorted
      nonzero := by rw [hgranted]; exact h.nonzero
      spent := fun _ => ⟨fun m' hm' => by rw [hm'.unique hm]; exact hx, fun hc => by cases hc⟩
      reported := fun _ _ => ⟨_, List.mem_append_right _ (List.mem_singleton.2 rfl), rfl⟩
      final := List.pairwise_append.2 ⟨h.final, List.pairwise_singleton _ _, fun r _ r' hr' _ => ?_⟩ }
  rw [List.mem_singleton] at hr'
  subst hr'
  simp

/-- An allocation that succeeds, before any has found the epochs used up. -/
theorem Lineage.grant (h : Lineage device st) (hready : st.allocator.ready = true)
    (hnot : ¬ ∃ r ∈ st.results, r.status = .epochExhausted) {a : Allocator} {img : Image} {identity : Identity}
    (hg : Granted st.allocator a identity) (hmirror : MetaMirror a img) (hu : Usable device a.metadata) :
    Lineage device ⟨a, img, st.results ++ [⟨.ready, identity⟩]⟩ := by
  obtain ⟨-, -, hsource, hpast⟩ := h.ram hready
  have hm : MetaIs img a.metadata := ⟨_, hmirror.holds⟩
  have hgranted : (LineState.mk a img (st.results ++ [⟨.ready, identity⟩])).granted = st.granted ++ [identity] := by
    rw [granted_append]
    simp
  have hlt : ∀ i ∈ st.granted, Identity.key i < Identity.key identity := fun i hi => (hpast i hi).trans_le hg.le
  have hcover : ∀ i ∈ st.granted ++ [identity], Identity.key i < a.floor := by
    intro i hi
    rw [hg.floor]
    rcases List.mem_append.1 hi with hi | hi
    · exact (hlt i hi).trans (Nat.lt_succ_self _)
    · rw [List.mem_singleton.1 hi]
      exact Nat.lt_succ_self _
  have hnot' : ¬ ∃ r ∈ st.results ++ [⟨.ready, identity⟩], r.status = .epochExhausted := by
    rintro ⟨r, hr, he⟩
    rcases List.mem_append.1 hr with hr | hr
    · exact hnot ⟨r, hr, he⟩
    · rw [List.mem_singleton.1 hr] at he
      cases he
  refine
    { durable := ⟨_, hm, hu, by
        rw [hgranted]
        exact fun i hi => (hcover i hi).trans_le hg.cursor.floor_le⟩
      ram := fun _ => ⟨hmirror, hg.cursor, hg.source.trans hsource, by rw [hgranted]; exact hcover⟩
      refusing := fun hc => absurd hg.cursor.ready (by simp [show a.ready = false from hc])
      sorted := ?_
      nonzero := ?_
      spent := fun hc => absurd hc hnot'
      reported := fun hc => absurd hg.cursor.ready (by simp [show a.ready = false from hc])
      final := ?_ }
  · rw [hgranted]
    refine List.pairwise_append.2 ⟨h.sorted, List.pairwise_singleton _ _, fun i hi j hj => ?_⟩
    rw [List.mem_singleton.1 hj]
    exact hlt i hi
  · rw [hgranted]
    intro i hi
    rcases List.mem_append.1 hi with hi | hi
    · exact h.nonzero i hi
    · rw [List.mem_singleton.1 hi]
      exact ⟨hg.identitySource.trans hsource, hg.nonzero⟩
  · refine List.pairwise_append.2 ⟨h.final, List.pairwise_singleton _ _, fun r hr r' _ he => ?_⟩
    exact absurd ⟨r, hr, he⟩ hnot

/-- **One allocation**, on a storage with any faults. -/
theorem Lineage.allocate (h : Lineage device st) (script : List Fault) (cut : Option (PowerCut Bytes)) :
    Lineage device (st.step device (.allocate script cut)) := by
  obtain ⟨m, hm, hu, hcover⟩ := h.durable
  have hspent : (∃ r ∈ st.results, r.status = .epochExhausted) → Exhausted m := fun hr => (h.spent hr).1 m hm
  have hp : geometry.EnsuresUnder (fun _ => True) st.image st.allocator.allocate
      (fun r img => Lineage device ⟨r.1, img, st.results ++ [r.2]⟩)
      (fun img => Lineage device ⟨.initial, img, st.results⟩) := by
    by_cases hready : st.allocator.ready = true
    swap
    · -- out of service: the last status is repeated
      have hready : st.allocator.ready = false := by simpa using hready
      rw [allocate_of_not_ready hready]
      exact ensures_pure.2 (h.refuse hready rfl (h.refusing hready) (h.reported hready) hm hu hcover hspent)
    obtain ⟨hmirror, hcursor, -, -⟩ := h.ram hready
    have hmeta : st.allocator.metadata = m := MetaIs.unique ⟨_, hmirror.holds⟩ hm
    cases hnext : st.allocator.nextIdentity? with
    | none =>
      rw [allocate_of_exhausted hready hnext]
      exact ensures_pure.2 (h.exhaust ⟨_, hmirror.holds⟩ (exhausted_of_nextIdentity hnext))
    | some identity =>
      -- the epochs are not used up, so no allocation has said so
      have hnot : ¬ ∃ r ∈ st.results, r.status = .epochExhausted := fun hr => by
        have := (h.spent hr).2 hready
        rw [hnext] at this
        cases this
      have hreserved : ∀ {m' : NodeMetadata}, Reserves st.allocator.metadata m' →
          Usable device m' ∧ ∀ i ∈ st.granted, Identity.key i < m'.floor := by
        intro m' hr
        refine ⟨⟨by rw [hr.source, hmeta, hu.source], hr.highWater⟩, fun i hi => ?_⟩
        have := hcover i hi
        rw [← hmeta] at this
        exact this.trans_le hr.floor
      refine ensures_allocate hcursor hmirror ?_ ?_ ?_ ?_
      · intro img' m' _ hm' hr
        exact h.lose hm' (hreserved hr).1 (hreserved hr).2 fun hc => absurd hc hnot
      · intro hnone
        rw [hnext] at hnone
        cases hnone
      · intro identity' hid a' img' hg hmirror' _
        exact h.grant hready hnot hg hmirror' (hreserved hg.reserves).1
      · intro _ status hst img' m' _ hm' hr
        exact h.refuse rfl rfl hst.1 (fun he => absurd he hst.2) hm' (hreserved hr).1 (hreserved hr).2
          fun hc => absurd hc hnot
  have hx := ensures_execFaulty hp script (fun _ _ => trivial) cut
  unfold LineState.step
  split at hx <;> rename_i heq <;> simp only [heq]
  · exact hx
  · exact hx

/-- **One recovery**, on a storage whose reads fail with UNAVAILABLE only. -/
theorem Lineage.recover (h : Lineage device st) (entropy : Option UInt32) (custody : CustodyState)
    (script : List Fault) (cut : Option (PowerCut Bytes))
    (hs : LineAction.Honest (.recover entropy custody script cut)) :
    Lineage device (st.step device (.recover entropy custody script cut)) := by
  obtain ⟨m, hm, hu, hcover⟩ := h.durable
  have hspent : (∃ r ∈ st.results, r.status = .epochExhausted) → Exhausted m := fun hr => (h.spent hr).1 m hm
  have hlost : Lineage device ⟨.initial, st.image, st.results⟩ := h.lose hm hu hcover hspent
  have hfailed : ∀ a : Allocator, a.ready = false → a.status.Failed → Lineage device ⟨a, st.image, st.results⟩ :=
    fun a hready hst =>
      { durable := hlost.durable
        ram := fun hc => by rw [show a.ready = false from hready] at hc; cases hc
        refusing := fun _ => hst.1
        sorted := h.sorted
        nonzero := h.nonzero
        spent := fun hr => ⟨(hlost.spent hr).1, fun hc => by rw [show a.ready = false from hready] at hc; cases hc⟩
        reported := fun _ hc => absurd hc hst.2
        final := h.final }
  obtain ⟨c, hmc⟩ := hm
  have hp : geometry.EnsuresUnder (fun f => ∀ result, f = .read result → result ≠ .ok → result = .unavailable)
      st.image (Allocator.recover entropy device custody)
      (fun r img => Lineage device ⟨r.1, img, st.results⟩)
      (fun img => Lineage device ⟨.initial, img, st.results⟩) := by
    by_cases hc : custody = .unprovable
    · unfold Allocator.recover
      have hd : device ≠ 0 := by
        rw [← hu.source]
        exact hmc.nonzero.1
      simp only [hd, if_false, hc, if_true]
      exact ensures_pure.2 (hfailed _ rfl (by simp [Allocator.fail]))
    · refine ensures_recoverAllocator_usable (fun result hr ha => ha result rfl hr) hc hmc hu hlost ?_ ?_
      · exact
          { durable := ⟨m, ⟨c, hmc⟩, hu, hcover⟩
            ram := fun _ => ⟨⟨rfl, hmc⟩, Cursor.resumed hu hmc.nonzero.2.2, rfl, hcover⟩
            refusing := fun hc => by cases hc
            sorted := h.sorted
            nonzero := h.nonzero
            spent := fun hr => ⟨(hlost.spent hr).1, fun _ => nextIdentity_resumed (hspent hr)⟩
            reported := fun hc => by cases hc
            final := h.final }
      · exact fun _ a hready hst => hfailed a hready hst
  have hx := ensures_execFaulty hp script hs cut
  unfold LineState.step
  split at hx <;> rename_i heq <;> simp only [heq]
  · exact hx
  · exact hx

theorem Lineage.run (h : Lineage device st) {actions : List LineAction} (ha : ∀ a ∈ actions, a.Honest) :
    Lineage device (st.run device actions) := by
  unfold LineState.run
  induction actions generalizing st with
  | nil => exact h
  | cons a actions ih =>
    have hstep : Lineage device (st.step device a) := by
      cases a with
      | allocate script cut => exact h.allocate script cut
      | recover entropy custody script cut =>
        exact h.recover entropy custody script cut (ha _ List.mem_cons_self)
    exact ih hstep fun b hb => ha b (List.mem_cons_of_mem _ hb)

/-- The first recovery of the lineage. -/
theorem lineage_start {entropy : Option UInt32} {custody : CustodyState} {img : Image}
    (hready : (LineState.start device entropy custody img).allocator.ready = true) :
    Lineage device (LineState.start device entropy custody img) := by
  have hd : device ≠ 0 := fun hd => by
    simp [LineState.start, Allocator.recover, hd, Allocator.fail] at hready
  have hc : custody ≠ .unprovable := fun hc => by
    simp [LineState.start, Allocator.recover, hd, hc, Allocator.fail] at hready
  obtain ⟨img', hdisk, hQ⟩ := ensures_run
    (p := Allocator.recover entropy device custody) (P := fun _ => True)
    (Q := fun r img' => r.1.ready = true → Cursor r.1 ∧ MetaMirror r.1 img' ∧ r.1.sourceDeviceId = device)
    (ensures_recoverAllocator (fun _ _ h => h.elim) hd hc (fun _ _ => trivial)
      (fun a img' hcur _ hmir hsrc _ _ => ⟨hcur, hmir, hsrc⟩)
      fun _ a img' hno _ _ hyes => by rw [hno] at hyes; cases hyes)
  obtain ⟨hcur, hmir, hsrc⟩ := hQ hready
  have himg : (LineState.start device entropy custody img).image = img' := by
    simp only [LineState.start, hdisk, Disk.clean_data]
  refine
    { durable := ⟨_, ⟨_, by rw [himg]; exact hmir.holds⟩, ⟨hcur.source.trans hsrc, hcur.highWater⟩,
        fun i hi => by cases hi⟩
      ram := fun _ => ⟨by rw [himg]; exact hmir, hcur, hsrc, fun i hi => by cases hi⟩
      refusing := fun hno => by rw [hno] at hready; cases hready
      sorted := List.Pairwise.nil
      nonzero := fun i hi => by cases hi
      spent := by rintro ⟨r, hr, -⟩; cases hr
      reported := fun hno => by rw [hno] at hready; cases hready
      final := List.Pairwise.nil }

/-- **An allocation on working storage** hands out the next identity, and the reservation behind it is in force. -/
theorem Lineage.allocate_works (h : Lineage device st) (hready : st.allocator.ready = true) {identity : Identity}
    (hnext : st.allocator.nextIdentity? = some identity) :
    (st.step device (.allocate [] none)).results = st.results ++ [⟨.ready, identity⟩] ∧
      MetaIs (st.step device (.allocate [] none)).image st.allocator.reserved := by
  obtain ⟨hmirror, hcursor, -, -⟩ := h.ram hready
  have hp : geometry.Ensures st.image st.allocator.allocate
      (fun r img => r.2 = ⟨.ready, identity⟩ ∧ MetaIs img st.allocator.reserved) fun _ => True := by
    refine ensures_allocate hcursor hmirror (fun _ _ _ _ _ => trivial) (fun hnone => ?_) ?_
      fun hf => absurd hf not_fails
    · rw [hnext] at hnone
      cases hnone
    · intro identity' hid a' img' hgranted hmirror' _
      rw [hnext, Option.some.injEq] at hid
      subst hid
      have hholds := hmirror'.holds
      rw [hgranted.metadata] at hholds
      exact ⟨rfl, _, hholds⟩
  have hx := ensures_execFaulty hp [] (by simp) none
  unfold LineState.step
  split at hx <;> rename_i heq <;> simp only [heq]
  · exact ⟨congrArg (fun r => st.results ++ [r]) hx.1, hx.2⟩
  · cases heq

/-- **With the epochs used up** an allocation fails, on any storage. -/
theorem allocate_exhausted (hready : st.allocator.ready = true) (h : st.allocator.nextIdentity? = none)
    (script : List Fault) (cut : Option (PowerCut Bytes)) :
    (st.step device (.allocate script cut)).results = st.results ++ [⟨.epochExhausted, default⟩] := by
  unfold LineState.step
  rw [allocate_of_exhausted hready h]
  cases cut with
  | none => rfl
  | some c =>
    obtain ⟨after, torn⟩ := c
    cases after <;> rfl

/-- What a life of the allocator promises: identities increase strictly in the lexicographic order of epoch
and id, carry the device and nonzero numbers, and lie below the mark that the image has in force.  When the ids of
an epoch are used up, an allocation on working storage goes on with the first id of the next epoch, whose first
block is then reserved durably; when the epochs are used up, an allocation fails, and so does every later one. -/
structure Promised (device : UInt8) (st : LineState) : Prop where
  increasing : st.granted.Pairwise fun i j => i.epoch < j.epoch ∨ (i.epoch = j.epoch ∧ i.id < j.id)
  nonzero : ∀ i ∈ st.granted, i.sourceDeviceId = device ∧ i.epoch ≠ 0 ∧ i.id ≠ 0
  reserved : ∃ m, MetaIs st.image m ∧ ∀ i ∈ st.granted,
    i.epoch < m.eventEpoch ∨ (i.epoch = m.eventEpoch ∧ i.id < m.nextUnreservedEventId)
  advances : st.allocator.ready = true → st.allocator.nextVolatileId = st.allocator.volatileEndExclusive →
    ∀ m, MetaIs st.image m → m.nextUnreservedEventId > 0xFFFFFFFF - reservationBlockSize →
      m.eventEpoch ≠ 0xFFFFFFFF →
        (st.step device (.allocate [] none)).results =
          st.results ++ [⟨.ready, ⟨device, m.eventEpoch + 1, 1⟩⟩] ∧
        MetaIs (st.step device (.allocate [] none)).image
          ⟨m.generation + 1, device, m.eventEpoch + 1, 1 + reservationBlockSize⟩
  ends : st.allocator.ready = true → st.allocator.nextVolatileId = st.allocator.volatileEndExclusive →
    ∀ m, MetaIs st.image m → Exhausted m → ∀ script cut,
      (st.step device (.allocate script cut)).results = st.results ++ [⟨.epochExhausted, default⟩]
  exhausted : st.results.Pairwise fun r r' => r.status = .epochExhausted → r'.status ≠ .ready

/-- The ids of an epoch are used up. -/
theorem Lineage.advances (h : Lineage device st) (hready : st.allocator.ready = true)
    (hend : st.allocator.nextVolatileId = st.allocator.volatileEndExclusive) {m : NodeMetadata}
    (hm : MetaIs st.image m) (hlast : m.nextUnreservedEventId > 0xFFFFFFFF - reservationBlockSize)
    (hepoch : m.eventEpoch ≠ 0xFFFFFFFF) :
    (st.step device (.allocate [] none)).results = st.results ++ [⟨.ready, ⟨device, m.eventEpoch + 1, 1⟩⟩] ∧
      MetaIs (st.step device (.allocate [] none)).image
        ⟨m.generation + 1, device, m.eventEpoch + 1, 1 + reservationBlockSize⟩ := by
  obtain ⟨hmirror, hcursor, hsource, -⟩ := h.ram hready
  obtain rfl : st.allocator.metadata = m := MetaIs.unique ⟨_, hmirror.holds⟩ hm
  have hnext : st.allocator.nextIdentity? = some ⟨device, st.allocator.metadata.eventEpoch + 1, 1⟩ := by
    rw [Allocator.nextIdentity?, if_neg (not_not.2 hend), if_pos hlast, if_neg hepoch, hsource]
  have hreserved : st.allocator.reserved = ⟨st.allocator.metadata.generation + 1, device,
      st.allocator.metadata.eventEpoch + 1, 1 + reservationBlockSize⟩ := by
    rw [Allocator.reserved, if_neg (not_not.2 hend), if_pos hlast, hcursor.source, hsource]
  rw [← hreserved]
  exact h.allocate_works hready hnext

/-- The epochs are used up. -/
theorem Lineage.ends (h : Lineage device st) (hready : st.allocator.ready = true)
    (hend : st.allocator.nextVolatileId = st.allocator.volatileEndExclusive) {m : NodeMetadata}
    (hm : MetaIs st.image m) (hx : Exhausted m) (script : List Fault) (cut : Option (PowerCut Bytes)) :
    (st.step device (.allocate script cut)).results = st.results ++ [⟨.epochExhausted, default⟩] := by
  obtain ⟨hmirror, -, -, -⟩ := h.ram hready
  obtain rfl : st.allocator.metadata = m := MetaIs.unique ⟨_, hmirror.holds⟩ hm
  refine allocate_exhausted hready ?_ script cut
  rw [Allocator.nextIdentity?, if_neg (not_not.2 hend), if_pos hx.1, if_pos hx.2]

/-- **Identities increase** over the whole life of a lineage. -/
theorem identities_increase (device : UInt8) (entropy : Option UInt32) (custody : CustodyState) (img : Image)
    (hready : (LineState.start device entropy custody img).allocator.ready = true)
    (actions : List LineAction) (ha : ∀ a ∈ actions, a.Honest) :
    Promised device ((LineState.start device entropy custody img).run device actions) := by
  have h := (lineage_start hready).run ha
  obtain ⟨m, hm, -, hcover⟩ := h.durable
  exact ⟨h.sorted.imp fun hij => key_lt_key.1 hij, h.nonzero, ⟨m, hm, fun i hi => key_lt_key.1 (hcover i hi)⟩,
    fun hr he m hm hlast hne => h.advances hr he hm hlast hne, fun hr he m hm hx => h.ends hr he hm hx, h.final⟩

/-- A life with a failing write, a recovery whose second read is unavailable, and a write that reports `ok` and has
changed nothing. -/
theorem identities_increase_blank :
    (LineState.start 1 (some 5) .empty blankImage).allocator.ready = true ∧
      Promised 1 ((LineState.start 1 (some 5) .empty blankImage).run 1
        [.allocate [] none, .allocate [.write .error .new] none, .recover none .empty [.read .unavailable] none,
          .recover none .nonempty [] none, .allocate [.write .ok .old] none, .recover none .nonempty [] none,
          .allocate [] none]) :=
  ⟨by decide +kernel, identities_increase 1 (some 5) .empty blankImage (by decide +kernel) _
    (by simp [LineAction.Honest])⟩

/-- A recovery that reads an error for the newer copy goes on from the older one, and the identity `(5, 1)` is
handed out twice. -/
theorem recovery_trusts_read_error :
    (LineState.start 1 (some 5) .empty blankImage).allocator.ready = true ∧
      ¬ Promised 1 ((LineState.start 1 (some 5) .empty blankImage).run 1
        [.allocate [] none, .recover none .nonempty [.none, .read .error] none, .allocate [] none]) := by
  refine ⟨by decide +kernel, fun h => ?_⟩
  have hgranted : ((LineState.start 1 (some 5) .empty blankImage).run 1
      [.allocate [] none, .recover none .nonempty [.none, .read .error] none, .allocate [] none]).granted =
      [⟨1, 5, 1⟩, ⟨1, 5, 1⟩] := by
    decide +kernel
  have hinc := h.increasing
  rw [hgranted] at hinc
  revert hinc
  decide

end Redline.Node
