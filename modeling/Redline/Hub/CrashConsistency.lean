import Redline.Hub.FirstBoot

/-!
# Crash consistency of the Hub ledger

The ledger as an array of records.  `LedgerOp.effect` says what an admission or a consumption does to the
array: at most one slot gets a new record.  A run takes calls and recoveries in any order; each may be cut
anywhere, and a cut loses the RAM.

`ledger_crash_consistent`: from a recovery that was READY and whose ordinals lie below the mark of its metadata,
every recovery is READY again and finds the array before or after the call that was cut, and identities and
ordinals stay unique and below the mark.  `ledger_reuses_ordinal` is an image whose ordinals do not lie below
the mark.
-/

namespace Redline.Hub

open Redline.Wire Redline.Records Redline.Lib

/-- The calls that change the ledger. -/
inductive LedgerOp
  | admitEvent (event : Event)
  | consume (identity : Identity)

namespace LedgerOp

/-- The call, and whether it has reported success. -/
def call (l : Ledger) : LedgerOp → StorageM (Ledger × Bool)
  | .admitEvent event => do
    let (l, r) ← l.admitEvent event
    return (l, decide (r.status = .durableNewAdmission))
  | .consume identity => do
    let (l, r) ← l.consume identity
    return (l, decide (r.status = .consumed))

/-- **What a call is for**: the slot it changes and the record the slot holds afterwards; none if it changes
nothing. -/
def effect (l : Ledger) (op : LedgerOp) : Option (SlotIndex × HubRecord) :=
  if !l.ledgerHealthy then none
  else
    match op with
    | .admitEvent event =>
      if l.validateAdmission event = .durableNewAdmission then
        match l.findOwned event, l.admissionTarget event, l.nextOrdinal? with
        | none, some slot, some ordinal =>
          some (slot, Ledger.admittedRecord ((l.records slot).generation + 1) event ordinal)
        | _, _, _ => none
      else none
    | .consume identity =>
      match l.find identity with
      | none => none
      | some slot => if (l.records slot).state = .consumed then none else some (slot, (l.records slot).consume)

/-- The array after an effect. -/
def applied (records : SlotIndex → HubRecord) : Option (SlotIndex × HubRecord) → SlotIndex → HubRecord
  | none => records
  | some (slot, r) => Function.update records slot r

end LedgerOp

/-- A call or a recovery, and where power is cut during it. -/
inductive LedgerAction
  | call (op : LedgerOp) (cut : Option (PowerCut Bytes))
  | recover (cut : Option (PowerCut Bytes))

/-- The RAM of the ledger and the image. -/
abbrev LedgerState := Ledger × Image

def LedgerState.step (hub node : UInt8) (st : LedgerState) : LedgerAction → LedgerState
  | .call op cut =>
    match exec geometry.flash geometry.undecodable (op.call st.1) cut (Disk.clean st.2) with
    | .done r d => (r.1, d.data)
    | .lost img => (.initial, img)
  | .recover cut =>
    match exec geometry.flash geometry.undecodable (Ledger.recover hub node) cut (Disk.clean st.2) with
    | .done r d => (r.1, d.data)
    | .lost img => (.initial, img)

def LedgerState.run (hub node : UInt8) (st : LedgerState) (actions : List LedgerAction) : LedgerState :=
  actions.foldl (LedgerState.step hub node) st

/-- The recovery on the image is READY, in service and ready to give out ordinals; it leaves the image alone
and finds the records. -/
def RecoversTo (hub node : UInt8) (img : Image) (records : SlotIndex → HubRecord) : Prop :=
  ∃ l, reboot hub node img = (l, .ready, img) ∧ l.ledgerHealthy = true ∧ l.ordinalReady = true ∧
    l.records = records ∧ ∀ i, (l.slots i).present = true

/-- Owned records of the image are unique in identity and ordinal, and their ordinals are nonzero and below the
mark in force. -/
def Represents (img : Image) (records : SlotIndex → HubRecord) : Prop :=
  ∃ m, Durable img records m ∧ Distinct records ∧ ∀ i, (records i).Owned →
    (records i).admissionOrdinal ≠ 0 ∧ (records i).admissionOrdinal < m.nextUnreservedAdmissionOrdinal

/-! ### One call -/

/-- What a run of the ledger keeps: the image stands for a view, and a ledger in service is sound. -/
structure Kept (hub node : UInt8) (st : LedgerState) : Prop where
  devices : hub ≠ 0 ∧ node ≠ 0 ∧ hub ≠ node
  view : ∃ v, Stored st.2 v ∧ (st.1.ledgerHealthy = true → Sound st.1 st.2 v)

variable {hub node : UInt8} {img : Image} {v : View}

theorem recoversTo_of_stored (hd : hub ≠ 0 ∧ node ≠ 0 ∧ hub ≠ node) (h : Stored img v) :
    RecoversTo hub node img v.records := by
  obtain ⟨img', hdisk, l, hst, himg, hres⟩ := ensures_run
    (ensures_recover_stored (Q := fun r img' => ∃ l, r = (l, .ready) ∧ img' = img ∧ Resumes hub node l img v)
      (P := fun _ => True) noFaults_truthful hd h trivial fun l hl => ⟨l, rfl, rfl, hl⟩)
  refine ⟨l, ?_, hres.sound.healthy, hres.ready, hres.sound.records, fun i => (hres.sound.slots i).1⟩
  simp only [reboot, hst, hdisk, himg, Disk.clean_data]

theorem represents_of_stored (h : Stored img v) : Represents img v.records := by
  obtain ⟨m, hd, -, hmark⟩ := h.durable
  refine ⟨m, hd, ⟨h.ok.identity, h.ok.ordinal⟩, fun i hi => ⟨?_, ?_⟩⟩
  · obtain ⟨c, hc⟩ := hd.slot i
    exact hc.ordinal_ne_zero hi
  · rw [UInt32.lt_iff_toNat_lt]
    exact (h.ok.below i hi).trans_le hmark

/-- The two outcomes of a call: it has had its effect and reports so, or power was cut before or after the
effect became durable. -/
def OpDone (v : View) (l : Ledger) (op : LedgerOp) (r : Ledger × Bool) (img' : Image) : Prop :=
  ∃ v', Stored img' v' ∧ (r.1.ledgerHealthy = true → Sound r.1 img' v') ∧ r.2 = (op.effect l).isSome ∧
    v'.records = LedgerOp.applied v.records (op.effect l)

def OpCut (v : View) (l : Ledger) (op : LedgerOp) (img' : Image) : Prop :=
  ∃ v', Stored img' v' ∧
    (v'.records = v.records ∨ v'.records = LedgerOp.applied v.records (op.effect l))

section Calls

variable {l : Ledger}

theorem effect_admitEvent (h : Sound l img v) {event : Event} {slot : SlotIndex} {ordinal : UInt32}
    (ha : Admits l event slot ordinal) :
    (LedgerOp.admitEvent event).effect l =
      some (slot, Ledger.admittedRecord ((v.records slot).generation + 1) event ordinal) := by
  simp [LedgerOp.effect, h.healthy, ha.valid, ha.fresh, ha.target, ha.ordinal, h.records]

theorem effect_admitEvent_none {event : Event} (hno : ∀ slot ordinal, ¬ Admits l event slot ordinal) :
    (LedgerOp.admitEvent event).effect l = none := by
  simp only [LedgerOp.effect]
  split
  · rfl
  · split
    · rename_i hv
      split
      · rename_i slot ordinal hfresh htarget hord
        exact absurd ⟨hv, hfresh, htarget, hord⟩ (hno slot ordinal)
      · rfl
    · rfl

theorem effect_consume (h : Sound l img v) {identity : Identity} {slot : SlotIndex}
    (hc : Consumes l identity slot) :
    (LedgerOp.consume identity).effect l = some (slot, (v.records slot).consume) := by
  simp only [LedgerOp.effect, h.healthy, hc.1, Bool.not_true, Bool.false_eq_true, if_false]
  rw [if_neg hc.2, h.records]

theorem effect_consume_none {identity : Identity} (hno : ∀ slot, ¬ Consumes l identity slot) :
    (LedgerOp.consume identity).effect l = none := by
  simp only [LedgerOp.effect]
  split
  · rfl
  · split
    · rfl
    · rename_i slot hfind
      split
      · rfl
      · rename_i hs
        exact absurd ⟨hfind, hs⟩ (hno slot)

/-- **One call** of a sound ledger, on the array of records. -/
theorem ensures_call (h : Sound l img v) (op : LedgerOp) :
    geometry.Ensures img (op.call l) (OpDone v l op) (OpCut v l op) := by
  cases op with
  | admitEvent event =>
    refine ensures_bind (ensures_mono (fun r img' hr => ?_) ?_ (ensures_admitEvent h event))
    · refine ensures_pure.2 ?_
      cases hr.1 with
      | refused hno hsound himg _ hstatus _ =>
        rw [himg]
        refine ⟨v, h.stored, fun _ => hsound, ?_, ?_⟩
        · simp [effect_admitEvent_none hno, hstatus]
        · rw [effect_admitEvent_none hno]
          rfl
      | admitted slot ordinal ha _ hsound hresult =>
        refine ⟨_, hsound.stored, fun _ => hsound, ?_, ?_⟩
        · simp [effect_admitEvent h ha, hresult]
        · rw [effect_admitEvent h ha]
          rfl
    · rintro img' (hst | ⟨slot, ordinal, ha, -, hst⟩)
      · exact ⟨v, hst, Or.inl rfl⟩
      · refine ⟨_, hst, Or.inr ?_⟩
        rw [effect_admitEvent h ha]
        rfl
  | consume identity =>
    refine ensures_bind (ensures_mono (fun r img' hr => ?_) ?_ (ensures_consume h identity))
    · refine ensures_pure.2 ?_
      cases hr.1 with
      | refused hno hl himg hstatus =>
        rw [himg, hl]
        refine ⟨v, h.stored, fun _ => h, ?_, ?_⟩
        · simp [effect_consume_none hno, hstatus]
        · rw [effect_consume_none hno]
          rfl
      | consumed slot hc hsound hresult =>
        refine ⟨_, hsound.stored, fun _ => hsound, ?_, ?_⟩
        · simp [effect_consume h hc, hresult]
        · rw [effect_consume h hc]
          rfl
    · rintro img' (hst | ⟨slot, hc, hst⟩)
      · exact ⟨v, hst, Or.inl rfl⟩
      · refine ⟨_, hst, Or.inr ?_⟩
        rw [effect_consume h hc]
        rfl

end Calls

/-- A ledger out of service does nothing. -/
theorem call_of_unhealthy {l : Ledger} (h : l.ledgerHealthy = false) (op : LedgerOp) :
    op.call l = pure (l, false) := by
  cases op <;> simp [LedgerOp.call, Ledger.admitEvent, Ledger.consume, h]

/-! ### Whole runs -/

variable {st : LedgerState}

/-- **One call** in a state that is kept, in service or not. -/
theorem ensures_call_stored (hst : Stored st.2 v) (hsound : st.1.ledgerHealthy = true → Sound st.1 st.2 v)
    (op : LedgerOp) : geometry.Ensures st.2 (op.call st.1) (OpDone v st.1 op) (OpCut v st.1 op) := by
  by_cases hh : st.1.ledgerHealthy = true
  · exact ensures_call (hsound hh) op
  · have hh : st.1.ledgerHealthy = false := by simpa using hh
    have hnone : op.effect st.1 = none := by simp [LedgerOp.effect, hh]
    rw [call_of_unhealthy hh]
    refine ensures_pure.2 ⟨v, hst, hsound, ?_, ?_⟩
    · simp [hnone]
    · rw [hnone]
      rfl

theorem Kept.step (h : Kept hub node st) (a : LedgerAction) : Kept hub node (st.step hub node a) := by
  obtain ⟨v, hst, hsound⟩ := h.view
  cases a with
  | call op cut =>
    have hp := ensures_exec (ensures_call_stored hst hsound op) cut
    unfold LedgerState.step
    dsimp only
    split <;> rename_i heq <;> rw [heq] at hp
    · obtain ⟨img', hd, v', hst', hsound', -⟩ := hp
      rw [hd]
      exact ⟨h.devices, v', hst', hsound'⟩
    · obtain ⟨v', hst', -⟩ := hp
      exact ⟨h.devices, v', hst', fun hc => by cases hc⟩
  | recover cut =>
    have hp := ensures_exec (ensures_recover_stored
      (Q := fun r img' => img' = st.2 ∧ Resumes hub node r.1 st.2 v) (P := fun img' => img' = st.2)
      noFaults_truthful h.devices hst rfl fun l hl => ⟨rfl, hl⟩) cut
    unfold LedgerState.step
    dsimp only
    split <;> rename_i heq <;> rw [heq] at hp
    · obtain ⟨img', hd, himg, hres⟩ := hp
      rw [hd, himg]
      exact ⟨h.devices, v, hst, fun _ => hres.sound⟩
    · rw [show _ = st.2 from hp]
      exact ⟨h.devices, v, hst, fun hc => by cases hc⟩

theorem Kept.run (h : Kept hub node st) (actions : List LedgerAction) : Kept hub node (st.run hub node actions) := by
  unfold LedgerState.run
  induction actions generalizing st with
  | nil => exact h
  | cons a actions ih => exact ih (h.step a)

/-- The state after a recovery on working storage. -/
def LedgerState.start (hub node : UInt8) (img : Image) : LedgerState :=
  ((reboot hub node img).1, (reboot hub node img).2.2)

/-- The ordinals of the owned slots lie below the mark of the metadata. -/
def BelowMark (l : Ledger) : Prop :=
  ∀ i, (l.records i).Owned → (l.records i).admissionOrdinal < l.metadata.nextUnreservedAdmissionOrdinal

instance (l : Ledger) : Decidable (BelowMark l) := inferInstanceAs (Decidable (∀ _, _ → _))

/-- The start of a run: a recovery that was READY, with its ordinals below the mark. -/
theorem kept_of_recovery (hready : (reboot hub node img).2.1 = .ready)
    (hbelow : BelowMark (reboot hub node img).1) : Kept hub node (.start hub node img) := by
  obtain ⟨img', hd, hQ⟩ := ensures_run (ensures_recover hub node img)
  obtain ⟨hrev, hdev, -⟩ := hQ hready
  have himg : (reboot hub node img).2.2 = img' := by
    simp only [reboot, hd, Disk.clean_data]
  have hsound : Sound (reboot hub node img).1 img' ⟨(reboot hub node img).1.records, (reboot hub node img).1.mark⟩ :=
    Revived.sound hrev rfl le_rfl fun i hi => UInt32.lt_iff_toNat_lt.1 (hbelow i hi)
  unfold LedgerState.start
  rw [himg]
  exact ⟨hdev, _, hsound.stored, fun _ => hsound⟩

/-- After any run of calls, cuts and recoveries: the image represents unique identities and ordinals below its
mark, and so it does in RAM while the ledger is in service; a call that is done has exactly its effect, reports
it, and is found by the recovery; a call that is cut leaves an image on which the recovery is READY and finds
every slot as it was, or the one slot of the effect with its new record; and a recovery that is cut has changed
nothing. -/
def CrashConsistent (hub node : UInt8) (st : LedgerState) : Prop :=
  ∀ (actions : List LedgerAction),
    let st := LedgerState.run hub node st actions
    ∃ records, Represents st.2 records ∧ RecoversTo hub node st.2 records ∧
      (st.1.ledgerHealthy = true → st.1.records = records) ∧
      (∀ (op : LedgerOp) (cut : Option (PowerCut Bytes)),
        match exec geometry.flash geometry.undecodable (op.call st.1) cut (Disk.clean st.2) with
        | .done r d =>
          r.2 = (op.effect st.1).isSome ∧ RecoversTo hub node d.data (LedgerOp.applied records (op.effect st.1))
        | .lost img' =>
          RecoversTo hub node img' records ∨
            RecoversTo hub node img' (LedgerOp.applied records (op.effect st.1))) ∧
      ∀ cut : PowerCut Bytes,
        match exec geometry.flash geometry.undecodable (Ledger.recover hub node) (some cut) (Disk.clean st.2) with
        | .done r d => r.2 = .ready ∧ d.data = st.2
        | .lost img' => img' = st.2

/-- **Crash consistency** from a READY recovery whose ordinals lie below the mark. -/
theorem ledger_crash_consistent (hub node : UInt8) (img : Image) (hready : (reboot hub node img).2.1 = .ready)
    (hbelow : BelowMark (reboot hub node img).1) : CrashConsistent hub node (.start hub node img) := by
  intro actions st
  have hkept : Kept hub node st := (kept_of_recovery hready hbelow).run actions
  obtain ⟨v, hst, hsound⟩ := hkept.view
  refine ⟨v.records, represents_of_stored hst, recoversTo_of_stored hkept.devices hst,
    fun hh => (hsound hh).records, fun op cut => ?_, fun cut => ?_⟩
  · have hp := ensures_exec (ensures_call_stored hst hsound op) cut
    split <;> rename_i heq <;> rw [heq] at hp
    · obtain ⟨img', rfl, v', hst', -, hok, hrec⟩ := hp
      refine ⟨hok, ?_⟩
      rw [← hrec]
      exact recoversTo_of_stored hkept.devices hst'
    · obtain ⟨v', hst', hrec⟩ := hp
      have := recoversTo_of_stored hkept.devices hst'
      rcases hrec with hrec | hrec
      · rw [hrec] at this
        exact Or.inl this
      · rw [hrec] at this
        exact Or.inr this
  · have hp := ensures_exec (ensures_recover_stored
      (Q := fun r img' => r.2 = .ready ∧ img' = st.2) (P := fun img' => img' = st.2)
      noFaults_truthful hkept.devices hst rfl fun l _ => ⟨rfl, rfl⟩) (some cut)
    split <;> rename_i heq <;> rw [heq] at hp
    · obtain ⟨img', rfl, hq⟩ := hp
      exact hq
    · exact hp

/-- A button press from device 2, with the shortest lifetime. -/
def buttonEvent (id : UInt32) : Event := ⟨2, 1, 0, Family.button, 5, id, 0, 60, 1, bodyOf [1]⟩

/-- Slot 0 is ACTIVE under ordinal 1, and the metadata has reserved the block it is of. -/
def ownedImage : Image
  | .metadata .A => (encodeHubMetadata ⟨1, 33⟩).toOption
  | .event slot .A =>
    (encodeHubRecord (if slot.val = 0 then Ledger.admittedRecord 1 (buttonEvent 1) 1
      else Ledger.emptyRecord 1)).toOption
  | _ => none

theorem reboot_ownedImage :
    (reboot 1 2 ownedImage).2.1 = .ready ∧ ((reboot 1 2 ownedImage).1.records 0).Owned ∧
      BelowMark (reboot 1 2 ownedImage).1 := by
  decide +kernel

theorem ledger_crash_consistent_owned :
    (reboot 1 2 ownedImage).2.1 = .ready ∧ ((reboot 1 2 ownedImage).1.records 0).Owned ∧
      CrashConsistent 1 2 (.start 1 2 ownedImage) := by
  obtain ⟨hready, howned, hbelow⟩ := reboot_ownedImage
  exact ⟨hready, howned, ledger_crash_consistent 1 2 ownedImage hready hbelow⟩

/-! ### Ordinals at the mark -/

/-- Slot 0 is ACTIVE under ordinal 1, and the metadata is about to reserve the block from 1 on. -/
def staleImage : Image
  | .metadata .A => (encodeHubMetadata freshMetadata).toOption
  | .event slot .A =>
    (encodeHubRecord (if slot.val = 0 then Ledger.admittedRecord 1 (buttonEvent 1) 1
      else Ledger.emptyRecord 1)).toOption
  | _ => none

theorem reboot_staleImage :
    (reboot 1 2 staleImage).2.1 = .ready ∧
      (reboot 1 2 ((LedgerState.start 1 2 staleImage).run 1 2 [.call (.admitEvent (buttonEvent 2)) none]).2).2.1 =
        .duplicateOrdinal := by
  decide +kernel

/-- The recovery accepts the image, the next admission takes ordinal 1 again, and the recovery after it
refuses the repeated ordinal. -/
theorem ledger_reuses_ordinal :
    (reboot 1 2 staleImage).2.1 = .ready ∧ ¬ CrashConsistent 1 2 (.start 1 2 staleImage) ∧
      (reboot 1 2 ((LedgerState.start 1 2 staleImage).run 1 2 [.call (.admitEvent (buttonEvent 2)) none]).2).2.1 =
        .duplicateOrdinal := by
  obtain ⟨hstart, hdup⟩ := reboot_staleImage
  refine ⟨hstart, fun h => ?_, hdup⟩
  obtain ⟨records, -, ⟨l, hl, -⟩, -⟩ := h [.call (.admitEvent (buttonEvent 2)) none]
  have hready := congrArg (fun r => r.2.1) hl
  rw [hdup] at hready
  cases hready

end Redline.Hub
