import Redline.Hub.Startup

/-!
# The first boot of the Hub

The first recovery of the Hub writes the ordinal metadata, then the eight slots, and takes itself for the
first one only while nothing at all is stored.

`ledger_first_boot`: after any boots from blank storage, a recovery on working storage is READY with eight
EMPTY slots and fresh ordinals exactly when still nothing is stored or all eight slots hold a record; on every
other image it reports INDETERMINATE_SLOT, leaves the image alone, and so does every later boot.
`interrupted_ledger_boot` is a cut right after the metadata.
-/

namespace Redline.Hub

open Redline.Wire Redline.Records Redline.Lib

variable {img : Image} {allowed : Fault → Prop} {hub node : UInt8}

/-- The recovery finds the ledger fresh or whole. -/
def Startable (img : Image) : Prop := Blank img ∨ AllHold img

/-- A ledger that has started for the first time. -/
structure Newborn (hub node : UInt8) (l : Ledger) (img : Image) : Prop where
  revived : Revived l img
  empty : ∀ i, (l.slots i).record.state = .empty
  fresh : l.metadata = freshMetadata
  devices : l.hubDeviceId = hub ∧ l.nodeDeviceId = node

theorem Newborn.nextOrdinal {l : Ledger} (h : Newborn hub node l img) : l.nextOrdinal? = some 1 := by
  unfold Ledger.nextOrdinal?
  rw [if_pos h.revived.ready, if_pos h.revived.cursor, h.fresh]
  rfl

/-- The slots of an image that owns nothing yet, once they are all there: they are EMPTY, and the metadata is in
force. -/
theorem Unborn.mirrored (h : Unborn img) {l : Ledger} (hmirror : SlotsMirror l img) :
    (∀ i, (l.slots i).record.state = .empty) ∧ Distinct l.records ∧ MetaHolds img .A freshMetadata := by
  have hempty : ∀ i, (l.slots i).record.state = .empty := fun i => by
    rw [(h.holds (hmirror i).2).2]
    rfl
  refine ⟨hempty, ⟨fun i j hi => absurd (hempty i) hi, fun i j hi => absurd (hempty i) hi⟩, ?_⟩
  -- a slot is written only after the metadata
  exact h.order.resolve_left fun hmissing => (hmirror 0).2.ne_none (hmissing 0 _)

/-- The last stage of a boot of an image that owns nothing yet. -/
theorem ensures_recoverFrom_unborn (h : Unborn img) {Q : Ledger × Ledger.Status → Image → Prop} {P : Image → Prop}
    {l : Ledger} (hl : l = scannedLedger hub node img) (hP : ∀ img', Unborn img' → (¬ Startable img → img' = img) → P img')
    (hstarts : ∀ l' img', Startable img → Unborn img' → Newborn hub node l' img' → Q (l', .ready) img')
    (hfail : Fails allowed → ∀ l' status img', Startable img → Unborn img' → l'.ledgerHealthy = false →
      Q (l', status) img')
    (hstuck : ∀ l', ¬ Startable img → l'.ledgerHealthy = false → Q (l', .indeterminateSlot) img) :
    geometry.EnsuresUnder allowed img (l.recoverFrom ((List.finRange 8).all (slotMissing img))
      (copyOf hubMetadataSize (img (.metadata .A))) (copyOf hubMetadataSize (img (.metadata .B)))) Q P := by
  have hdevices : l.hubDeviceId = hub ∧ l.nodeDeviceId = node := by
    rw [hl]
    exact ⟨rfl, rfl⟩
  unfold Ledger.recoverFrom
  by_cases hblank : Blank img
  · -- nothing is stored: the metadata is written, then the slots
    have hstart : Startable img := Or.inl hblank
    rw [blank_iff.2 hblank]
    simp only [if_true]
    refine ensures_bind (ensures_initializeFresh (by rw [hl]; rfl) hblank
      (fun img' hb => hP img' hb fun hc => absurd hstart hc) ?_ ?_)
    · intro l' img' hready hl' hb hm
      simp only [Bool.not_true, Bool.false_eq_true, if_false]
      obtain ⟨hrev, hstatus⟩ := revived_fresh hready hl' (by rw [hl]; rfl) hm
      rw [hstatus]
      refine ensures_pure.2 (hstarts _ img' hstart hb ⟨hrev, fun i => (hready i).empty, ?_, ?_⟩)
      · rw [hl']
        rfl
      · rw [hl']
        exact hdevices
    · intro hf l' img' hh hb
      simp only [Bool.not_false, if_true]
      exact ensures_pure.2 (hfail hf l' _ img' hstart hb hh)
  · rw [if_neg fun hc => hblank (blank_iff.1 hc)]
    split
    · -- something is stored, and a slot is not
      rename_i habsent
      obtain ⟨i, -, hi⟩ := List.any_eq_true.1 habsent
      refine ensures_pure.2 (hstuck _ (fun hstart => ?_) rfl)
      rcases hstart with hb | hall
      · exact absurd hb hblank
      · obtain ⟨c, r, hr⟩ := hall i
        rw [hl, scannedLedger_slots, scannedSlot_of_holds hr] at hi
        cases hi
    · rename_i hpresent
      have hpresent : ∀ i, (l.slots i).present = true := by simpa using hpresent
      have hmirror : SlotsMirror l img := by
        subst hl
        exact scannedLedger_mirrors h.not_conflicting hpresent
      obtain ⟨hempty, hdist, hm⟩ := h.mirrored hmirror
      have hstart : Startable img := Or.inr fun i => ⟨_, _, (hmirror i).2⟩
      rw [validateRecoveredSlots_of_distinct hpresent hdist]
      simp only [Bool.not_true, Bool.false_eq_true, if_false]
      rw [recoverMetadata_of_holds hm freshMetadata_highWater]
      exact ensures_pure.2 (hstarts _ img hstart h
        ⟨⟨rfl, rfl, hmirror, hm, freshMetadata_highWater, rfl, hdist⟩, hempty, rfl, hdevices⟩)

/-- The outcome of a recovery of an image that owns nothing yet. -/
structure FirstBootOutcome (allowed : Fault → Prop) (hub node : UInt8) (img : Image)
    (r : Ledger × Ledger.Status) (img' : Image) : Prop where
  unborn : Unborn img'
  starts : Startable img → (r.2 = .ready ∧ Newborn hub node r.1 img') ∨
    (WritesFail allowed ∧ r.1.ledgerHealthy = false)
  stuck : ¬ Startable img → r.2 = .indeterminateSlot ∧ r.1.ledgerHealthy = false ∧ img' = img

/-- **One boot** of an image that owns nothing yet. -/
theorem ensures_recover_unborn (ht : Truthful allowed) (hd : hub ≠ 0 ∧ node ≠ 0 ∧ hub ≠ node) (h : Unborn img) :
    geometry.EnsuresUnder allowed img (Ledger.recover hub node) (FirstBootOutcome allowed hub node img)
      (fun img' => Unborn img' ∧ (¬ Startable img → img' = img)) := by
  have hreads := ht.not_readsFail
  refine ensures_recover_scanned ht.reports hd ⟨h, fun _ => rfl⟩ ?_ (fun hf => absurd hf hreads) ?_
  · intro _ l hl
    refine ensures_recoverFrom_unborn h hl (fun img' hb hno => ⟨hb, hno⟩) ?_ ?_ ?_
    · exact fun l' img' hstart hb hnew => ⟨hb, fun _ => Or.inl ⟨rfl, hnew⟩, fun hc => absurd hstart hc⟩
    · intro hf l' status img' hstart hb hh
      exact ⟨hb, fun _ => Or.inr ⟨hf.resolve_right hreads, hh⟩, fun hc => absurd hstart hc⟩
    · exact fun l' hno hh => ⟨h, fun hstart => absurd hstart hno, fun _ => ⟨rfl, hh, rfl⟩⟩
  · rintro (⟨slot, hc⟩ | hf)
    · exact absurd hc (h.not_conflicting slot)
    · exact absurd hf hreads

/-- One boot of an image that owns nothing yet, on a storage that reports its failures: a ledger in service has
eight EMPTY slots. -/
theorem ensures_recover_unborn_under (hr : Reports allowed) (hd : hub ≠ 0 ∧ node ≠ 0 ∧ hub ≠ node)
    (h : Unborn img) :
    geometry.EnsuresUnder allowed img (Ledger.recover hub node)
      (fun r img' => Unborn img' ∧ (r.1.ledgerHealthy = true →
        (∀ i, (r.1.records i).state = .empty) ∧ Serving r.1 img' ⟨r.1.records, 0⟩)) Unborn := by
  have hunhealthy : ∀ {l : Ledger} {p : Prop}, l.ledgerHealthy = false → l.ledgerHealthy = true → p := by
    intro l p hno hyes
    rw [hno] at hyes
    cases hyes
  refine ensures_recover_scanned hr hd h ?_ ?_ ?_
  · intro _ l hl
    refine ensures_recoverFrom_unborn h hl (fun img' hb _ => hb) ?_ ?_ ?_
    · intro l' img' _ hb hnew
      refine ⟨hb, fun _ => ⟨hnew.empty, Sound.serving ?_⟩⟩
      exact hnew.revived.sound rfl (Nat.zero_le _) fun i hi => absurd (hnew.empty i) hi
    · exact fun _ l' status img' _ hb hh => ⟨hb, hunhealthy hh⟩
    · exact fun l' _ hh => ⟨h, hunhealthy hh⟩
  · intro _ hno l hl
    refine ⟨h, fun hhealthy => ?_⟩
    set l0 : Ledger := { scannedLedger hub node img with status := .ordinalUnavailable } with hl0
    by_cases hpresent : ∀ i, ((scannedLedger hub node img).slots i).present = true
    · have hmirror : SlotsMirror l0 img := scannedLedger_mirrors hno hpresent
      obtain ⟨hempty, hdist, hm⟩ := h.mirrored hmirror
      have hmissing : (List.finRange 8).all (slotMissing img) = false := by
        rw [Bool.eq_false_iff]
        exact fun hc => (hmirror 0).2.ne_none (allMissing_iff.1 hc 0 _)
      rw [hmissing, recoverWithoutMetadata_mirrored hmirror hdist] at hl
      have hstored : Stored img ⟨l0.records, 0⟩ :=
        ⟨⟨hdist.identity, hdist.ordinal, fun i hi => absurd (hempty i) hi⟩, freshMetadata,
          ⟨fun i => ⟨_, (hmirror i).2⟩, ⟨_, hm⟩⟩, freshMetadata_highWater, Nat.zero_le _⟩
      subst hl
      exact ⟨hempty, rfl, hmirror, rfl, hstored, fun hready => by cases hready⟩
    · refine hunhealthy ?_ hhealthy
      rw [hl]
      exact recoverWithoutMetadata_absent rfl hpresent
  · exact fun _ l status hh _ => ⟨h, hunhealthy hh⟩

/-! ### Boots from blank storage -/

/-- A boot: how the storage fails, and where power is cut. -/
structure Boot where
  script : List Fault
  cut : Option (PowerCut Bytes)

/-- Only writes and commits fail. -/
def Boot.WritesOnly (b : Boot) : Prop := ∀ f ∈ b.script, Records.WritesOnly f

/-- The image a boot leaves. -/
def Boot.leave (hub node : UInt8) (img : Image) (b : Boot) : Image :=
  (geometry.execFaulty (Ledger.recover hub node) b.script b.cut img).2

/-- The image after boots, one after another, from blank storage. -/
def afterBoots (hub node : UInt8) (boots : List Boot) : Image := boots.foldl (Boot.leave hub node) blankImage

theorem unborn_blankImage : Unborn blankImage := Blank.unborn ⟨fun _ _ => rfl, fun _ => rfl⟩

/-- One boot keeps the image unborn, and leaves one it cannot start from as it is. -/
theorem Unborn.leave (h : Unborn img) (hd : hub ≠ 0 ∧ node ≠ 0 ∧ hub ≠ node) {b : Boot} (hb : b.WritesOnly) :
    Unborn (b.leave hub node img) ∧ (¬ Startable img → b.leave hub node img = img) := by
  have hp := ensures_execFaulty (ensures_recover_unborn writesOnly_truthful hd h) b.script hb b.cut
  unfold Boot.leave
  split at hp <;> rename_i heq <;> rw [heq]
  · exact ⟨hp.unborn, fun hno => (hp.stuck hno).2.2⟩
  · exact hp

theorem Unborn.leaves (h : Unborn img) (hd : hub ≠ 0 ∧ node ≠ 0 ∧ hub ≠ node) {boots : List Boot}
    (hb : ∀ b ∈ boots, b.WritesOnly) :
    Unborn (boots.foldl (Boot.leave hub node) img) ∧
      (¬ Startable img → boots.foldl (Boot.leave hub node) img = img) := by
  induction boots generalizing img with
  | nil => exact ⟨h, fun _ => rfl⟩
  | cons b boots ih =>
    obtain ⟨hborn, hstuck⟩ := h.leave hd (hb b List.mem_cons_self)
    obtain ⟨hborn', hstuck'⟩ := ih hborn fun b' hb' => hb b' (List.mem_cons_of_mem _ hb')
    refine ⟨hborn', fun hno => ?_⟩
    rw [List.foldl_cons, hstuck'] <;> rw [hstuck hno]
    exact hno

/-- The recovery of a ledger on an image, on working storage. -/
def reboot (hub node : UInt8) (img : Image) : Ledger × Ledger.Status × Image :=
  let r := (Ledger.recover hub node).run geometry.flash (Disk.clean img)
  (r.1.1, r.1.2, r.2.data)

/-- The recovery on working storage is READY with eight slots that are EMPTY, and the next ordinal is the
first one. -/
def StartsEmpty (hub node : UInt8) (img : Image) : Prop :=
  (reboot hub node img).2.1 = .ready ∧
    (∀ i, ((reboot hub node img).1.slots i).present = true ∧
      ((reboot hub node img).1.slots i).record.state = .empty) ∧
    (reboot hub node img).1.nextOrdinal? = some 1

/-- The recovery on working storage, of an image that owns nothing yet. -/
theorem Unborn.reboot (h : Unborn img) (hd : hub ≠ 0 ∧ node ≠ 0 ∧ hub ≠ node) :
    (Startable img → StartsEmpty hub node img) ∧
      (¬ Startable img → (Hub.reboot hub node img).2 = (.indeterminateSlot, img)) := by
  obtain ⟨img', himg, hout⟩ := ensures_run (ensures_recover_unborn noFaults_truthful hd h)
  refine ⟨fun hs => ?_, fun hno => ?_⟩
  · rcases hout.starts hs with ⟨hready, hnew⟩ | ⟨hw, -⟩
    · exact ⟨hready, fun i => ⟨(hnew.revived.slots i).1, hnew.empty i⟩, hnew.nextOrdinal⟩
    · exact absurd hw not_writesFail
  · obtain ⟨hstatus, -, rfl⟩ := hout.stuck hno
    exact Prod.ext hstatus (congrArg Disk.data himg)

/-- **The first boot.** After any boots from blank storage, with writes that fail and power cuts, a recovery
on working storage is READY with eight EMPTY slots and the first ordinal exactly when nothing is stored or all
eight slots hold a record; otherwise it reports INDETERMINATE_SLOT and leaves the image as it is, and so it does
after any boots that follow, which leave the image as it is too. -/
theorem ledger_first_boot (hub node : UInt8) (hd : hub ≠ 0 ∧ node ≠ 0 ∧ hub ≠ node) (boots : List Boot)
    (hb : ∀ b ∈ boots, b.WritesOnly) :
    (StartsEmpty hub node (afterBoots hub node boots) ↔ Startable (afterBoots hub node boots)) ∧
      (¬ Startable (afterBoots hub node boots) → ∀ later : List Boot, (∀ b ∈ later, b.WritesOnly) →
        afterBoots hub node (boots ++ later) = afterBoots hub node boots ∧
          (reboot hub node (afterBoots hub node (boots ++ later))).2 =
            (.indeterminateSlot, afterBoots hub node boots)) := by
  have h : Unborn (afterBoots hub node boots) := (unborn_blankImage.leaves hd hb).1
  refine ⟨⟨fun hfree => ?_, (h.reboot hd).1⟩, fun hno later hlater => ?_⟩
  · by_contra hno
    have hstuck := congrArg Prod.fst ((h.reboot hd).2 hno)
    rw [hfree.1] at hstuck
    cases hstuck
  · have hsame : afterBoots hub node (boots ++ later) = afterBoots hub node boots := by
      unfold afterBoots
      rw [List.foldl_append]
      exact (h.leaves hd hlater).2 hno
    refine ⟨hsame, ?_⟩
    rw [hsame]
    exact (h.reboot hd).2 hno

theorem reboot_afterCut :
    (reboot 1 2 (afterBoots 1 2 [⟨[], some ⟨20, .new⟩⟩])).2.1 ≠ .ready ∧
      afterBoots 1 2 [⟨[], some ⟨20, .new⟩⟩] (.metadata .A) ≠ none := by
  decide +kernel

/-- Power is cut right after the metadata has been written; the boots that follow leave it at that. -/
theorem ledger_first_boot_cut :
    ¬ StartsEmpty 1 2 (afterBoots 1 2 [⟨[], some ⟨20, .new⟩⟩]) ∧
      afterBoots 1 2 [⟨[], some ⟨20, .new⟩⟩] (.metadata .A) ≠ none ∧
      afterBoots 1 2 ([⟨[], some ⟨20, .new⟩⟩] ++ [⟨[.write .error .old], none⟩, ⟨[], some ⟨3, .new⟩⟩]) =
        afterBoots 1 2 [⟨[], some ⟨20, .new⟩⟩] ∧
      (reboot 1 2 (afterBoots 1 2 ([⟨[], some ⟨20, .new⟩⟩] ++ [⟨[.write .error .old], none⟩, ⟨[], some ⟨3, .new⟩⟩]))).2.1 =
        .indeterminateSlot := by
  have hstuck : ¬ StartsEmpty 1 2 (afterBoots 1 2 [⟨[], some ⟨20, .new⟩⟩]) := fun hstart => reboot_afterCut.1 hstart.1
  have hboots : ∀ b ∈ [(⟨[], some ⟨20, .new⟩⟩ : Boot)], b.WritesOnly := by simp [Boot.WritesOnly]
  have hfirst := ledger_first_boot 1 2 (by decide) [⟨[], some ⟨20, .new⟩⟩] hboots
  obtain ⟨hsame, hstatus⟩ := hfirst.2 (fun hs => hstuck (hfirst.1.2 hs))
    [⟨[.write .error .old], none⟩, ⟨[], some ⟨3, .new⟩⟩] (by simp [Boot.WritesOnly, Records.WritesOnly])
  exact ⟨hstuck, reboot_afterCut.2, hsame, congrArg Prod.fst hstatus⟩

/-- Power is cut right after the metadata has been written: the Hub does not start again. -/
theorem interrupted_ledger_boot :
    ¬ ∀ (hub node : UInt8) (boots : List Boot), (hub ≠ 0 ∧ node ≠ 0 ∧ hub ≠ node) →
      (∀ b ∈ boots, b.WritesOnly) → StartsEmpty hub node (afterBoots hub node boots) := by
  intro h
  exact reboot_afterCut.1 (h 1 2 [⟨[], some ⟨20, .new⟩⟩] (by decide) (by simp [Boot.WritesOnly])).1

end Redline.Hub
