import Redline.Node.CrashConsistency

/-!
# The first boot of the Node

The first recovery writes the eight slots one after another, then the identity metadata, and there is no
marker that says when it is done.  `Unborn device img` describes every image that recoveries can leave which
started from blank storage, whatever write failed and wherever power was cut.

`first_boot`: on such an image a recovery on working storage is READY with eight FREE slots exactly when no
slot has been written yet or all eight hold a record; on every other one it reports INDETERMINATE_SLOT,
leaves the image alone, and so does every later boot.  `interrupted_first_boot` is a cut after the first slot.
-/

namespace Redline.Node

open Redline.Wire Redline.Records Redline.Lib

variable {img : Image} {P : Image → Prop} {allowed : Fault → Prop} {device : UInt8}

/-- An image that owns nothing yet: the slots are inside the first initialisation, and the metadata is
absent, unreadable, or usable in copy A. -/
structure Unborn (device : UInt8) (img : Image) : Prop where
  slots : Initializing img
  metaB : img (.metadata .B) = none
  metaA : ∀ b m, img (.metadata .A) = some b → decodeNodeMetadata b = .ok m → Usable device m

theorem Unborn.metaHolds (h : Unborn device img) {c : CopySlot} {m : NodeMetadata}
    (hm : MetaHolds img c m) : c = .A ∧ Usable device m := by
  obtain ⟨b, hb, hdec⟩ := Option.bind_eq_some_iff.1 hm.1
  cases c with
  | A => exact ⟨rfl, h.metaA b m hb (decodeNodeMetadataForSelection_eq_some.1 hdec)⟩
  | B =>
    have hb' : img (.metadata .B) = some b := hb
    rw [h.metaB] at hb'
    cases hb'

/-- The metadata of such an image is usable, or neither copy decodes. -/
theorem Unborn.metadata (h : Unborn device img) :
    (∃ m, MetaHolds img .A m ∧ Usable device m) ∨ (metaSelection img).result = .bothInvalid := by
  cases hA : (img.metaCells .A).bind decodeNodeMetadataForSelection with
  | some m =>
    have hholds : MetaHolds img .A m := by
      refine ⟨hA, fun r' hr' => ?_⟩
      have hB : img.metaCells CopySlot.A.opposite = none := h.metaB
      rw [hB] at hr'
      cases hr'
    exact Or.inl ⟨m, hholds, (h.metaHolds hholds).2⟩
  | none =>
    right
    have hB : (img.metaCells .B).bind decodeNodeMetadataForSelection = none := by
      rw [show img.metaCells .B = none from h.metaB]
      rfl
    unfold metaSelection selectCopies
    rw [(readsMetadata img .A).1, (readsMetadata img .B).1, hA, hB]

theorem Unborn.putMeta (h : Unborn device img) {bytes : Bytes}
    (hb : ∀ m, decodeNodeMetadata bytes = .ok m → Usable device m) :
    Unborn device (Function.update img (.metadata .A) (some bytes)) := by
  refine ⟨h.slots.congr (sameSlots_update_metadata img _ _), ?_, fun b m hm hdec => ?_⟩
  · rw [Function.update_of_ne (by simp)]
    exact h.metaB
  · rw [Function.update_self, Option.some.injEq] at hm
    subst hm
    exact hb m hdec

theorem Unborn.congr {img' : Image} (h : Unborn device img) (hs : Initializing img')
    (hm : img'.metaCells = img.metaCells) : Unborn device img' :=
  ⟨hs, (congrFun hm .B).trans h.metaB, fun b m hb => h.metaA b m ((congrFun hm .A).symm.trans hb)⟩

/-- The entropy source gives no epoch. -/
def NoEntropy (entropy : Option UInt32) : Prop := entropy = none ∨ entropy = some 0

/-- The recovery of the allocator, without custody, on an image that owns nothing yet. -/
theorem ensures_recoverAllocator_unborn (ht : Truthful allowed) (hd : device ≠ 0) (h : Unborn device img)
    {entropy : Option UInt32} {Q : Allocator × EventIdentity.Status → Image → Prop}
    (hP : ∀ img', Unborn device img' → SameSlots img img' → P img')
    (hQ : ∀ a' img', Unborn device img' → SameSlots img img' → Q (a', .ready) img')
    (hfail : WritesFail allowed ∨ NoEntropy entropy → ∀ a' status img', status ≠ .ready →
      Unborn device img' → SameSlots img img' → Q (a', status) img') :
    geometry.EnsuresUnder allowed img (Allocator.recover entropy device .empty) Q P := by
  have hu : OnlyUnavailable allowed := fun result _ h => absurd h (ht result)
  have hsame := SameSlots.refl img
  rcases h.metadata with ⟨m, hm, husable⟩ | hboth
  · exact ensures_recoverAllocator_usable hu (by simp) hm husable (hP img h hsame)
      (hQ _ img h hsame) fun hf => absurd hf ht.not_readsFail
  · refine ensures_recoverSelected hu hd (by simp) (hP img h hsame) ?_ fun hf => absurd hf ht.not_readsFail
    unfold Allocator.recoverSelected
    dsimp only
    rw [hboth]
    simp only [reduceCtorEq, if_false, if_true]
    set a : Allocator := { Allocator.initial with sourceDeviceId := device } with ha
    -- without metadata in force copy A is written
    have hleft : ∀ R : Image → Prop, (∀ img', Unborn device img' → SameSlots img img' → R img') →
        ∀ next encoded, encodeNodeMetadata next = .ok encoded → Usable device next →
        geometry.WriteCrash R img (.metadata a.target) encoded := by
      intro R hR next encoded henc husable
      have hdec := decodeNodeMetadata_encode henc
      refine ⟨hR img h hsame, hR _ (h.putMeta fun m hm => ?_) (sameSlots_update_metadata img _ _),
        fun g hg => hR _ (h.putMeta fun m hm => ?_) (sameSlots_update_metadata img _ _)⟩
      · rw [hdec] at hm
        rw [← Except.ok.inj hm]
        exact husable
      · have := decodeNodeMetadataForSelection_eq_some.2 hm
        simp [geometry, this] at hg
    refine ensures_initializeFresh (Or.inr ⟨rfl, not_decoded_of_bothInvalid hboth⟩) hd (hleft P hP) ?_ ?_ ?_
    · intro a' next encoded henc husable _ _ _ _
      exact (hleft (fun img' => Q (a', .ready) img') (hQ a') next encoded henc husable).new
    · exact fun he => hfail (Or.inr he) _ _ img (by simp) h hsame
    · intro hf status hst next encoded henc husable
      refine hleft (fun img' => Q (a.fail status) img') (fun img' hi hs => ?_) next encoded henc husable
      rcases hf with hf | hf
      · exact hfail (Or.inl hf) _ _ img' hst.1 hi hs
      · exact absurd hf ht.not_readsFail

/-! ### The recovery of the store -/

theorem Unborn.not_conflicting (h : Unborn device img) (slot : SlotIndex) : ¬ Conflicting img slot := by
  have hB : (copyOf nodeRecordSize (img (.event slot .B))).valid decodeNodeRecordForSelection = none := by
    rw [(readsRecord img slot .B).1, show img.slotCells slot .B = none from h.slots.copyB slot]
    rfl
  rintro (hc | hc)
  all_goals
    unfold slotSelection selectCopies at hc
    rw [hB] at hc
    cases hA : (copyOf nodeRecordSize (img (.event slot .A))).valid decodeNodeRecordForSelection <;>
      rw [hA] at hc <;> cases hc

/-- The recovery finds the store fresh or whole. -/
def Startable (img : Image) : Prop := AllMissing img ∨ AllHold img

/-- The outcome of a recovery of an image that owns nothing yet. -/
def FirstBootOutcome (allowed : Fault → Prop) (entropy : Option UInt32) (device : UInt8) (img : Image)
    (r : Store × Store.Status) (img' : Image) : Prop :=
  Unborn device img' ∧
    (Startable img → (r.2 = .ready ∧ (∀ i, (r.1.slots i).present = true ∧ (r.1.slots i).record.state = .free)) ∨
      WritesFail allowed ∨ NoEntropy entropy) ∧
    (¬ Startable img → r.2 = .indeterminateSlot ∧ img' = img)

theorem ensures_recoverIdentity_unborn (ht : Truthful allowed) {s : Store} (hd : s.sourceDeviceId ≠ 0)
    (h : Unborn s.sourceDeviceId img) {entropy : Option UInt32} {Q : Store × Store.Status → Image → Prop}
    (hready : ∀ i, SlotReady s img i)
    (hP : ∀ img', Unborn s.sourceDeviceId img' → P img')
    (hQ : ∀ s' img', (∀ i, (s'.slots i).present = true ∧ (s'.slots i).record.state = .free) →
      Unborn s.sourceDeviceId img' → Q (s', .ready) img')
    (hfail : WritesFail allowed ∨ NoEntropy entropy → ∀ s' status img', Unborn s.sourceDeviceId img' →
      Q (s', status) img') :
    geometry.EnsuresUnder allowed img (s.recoverIdentity entropy false) Q P := by
  unfold Store.recoverIdentity
  simp only [Bool.false_eq_true, if_false]
  have hdist : Distinct s.records := fun i j hi => absurd (hready i).free hi
  refine ensures_bind (ensures_recoverAllocator_unborn ht hd h (fun img' hi _ => hP img' hi) ?_ ?_)
  · intro a img' hi _
    simp only [ne_eq, not_true_eq_false, if_false]
    obtain ⟨queue, hidx, -⟩ := rebuildIndex_of_distinct (s := { s with allocator := a })
      (fun i => (hready i).present) hdist
    simp only [hidx, Bool.not_true, Bool.false_eq_true, if_false, ensures_pure]
    exact hQ _ img' (fun i => ⟨(hready i).present, (hready i).free⟩) hi
  · intro hr a status img' hst hi _
    simp only [ne_eq, hst, not_false_eq_true, if_true]
    exact ensures_pure.2 (hfail hr _ _ img' hi)

theorem Unborn.not_slotOwns (h : Unborn device img) : (List.finRange 8).any (slotOwns img) = false := by
  rw [List.any_eq_false]
  intro slot _ howns
  obtain ⟨hboth, howned⟩ := Bool.and_eq_true_iff.1 howns
  have hno := h.not_conflicting slot
  have hholds := holds_of_slotSelection (SelectionResult.authoritative_of_ne (fun hc => hno (Or.inl hc))
    (fun hc => hno (Or.inr hc)) (of_decide_eq_true hboth))
  rw [(h.slots.holds hholds).2] at howned
  cases howned

/-- **One boot** of an image that owns nothing yet. -/
theorem ensures_recover_unborn (ht : Truthful allowed) (hd : device ≠ 0) (h : Unborn device img)
    (entropy : Option UInt32) :
    geometry.EnsuresUnder allowed img (Store.recover entropy device)
      (FirstBootOutcome allowed entropy device img)
      (fun img' => Unborn device img' ∧ (¬ Startable img → img' = img)) := by
  have hno := h.not_conflicting
  unfold Store.recover
  dsimp only
  rw [if_neg hd]
  set s0 : Store := { Store.initial with sourceDeviceId := device } with hs0
  refine ensures_bind (ensures_scanSlots ht ⟨h, fun _ => rfl⟩ ?_ ?_)
  · intro _
    simp only [Bool.true_and, Bool.false_or]
    set s1 := s0.scanned img (List.finRange 8) with hs1
    have hslots : ∀ i, s1.slots i = scannedSlot img i (s0.slots i) := fun i => by simp [hs1, Store.scanned, overlay]
    by_cases hmissing : AllMissing img
    · -- nothing is stored: the eight slots are written, then the identity
      have hstart : Startable img := Or.inl hmissing
      rw [if_pos (allMissing_iff.2 hmissing), h.not_slotOwns]
      refine ensures_bind (ensures_initializeSlots ht (List.nodup_finRange 8) rfl h.slots
        (fun i _ => hmissing i) (fun i hi => absurd (List.mem_finRange i) hi)
        (fun img' hi hm => ⟨h.congr hi hm, fun hno => absurd hstart hno⟩) ?_ ?_)
      · intro s' img' hready _ hsrc hi hm
        have hsrc' : s'.sourceDeviceId = device := hsrc
        subst hsrc'
        simp only [Bool.not_true, Bool.false_eq_true, if_false]
        refine ensures_recoverIdentity_unborn ht hd (h.congr hi hm) hready
          (fun img'' hu => ⟨hu, fun hno => absurd hstart hno⟩) ?_ ?_
        · exact fun s'' img'' hfree hu =>
            ⟨hu, fun _ => Or.inl ⟨rfl, hfree⟩, fun hno => absurd hstart hno⟩
        · exact fun hr s'' status img'' hu =>
            ⟨hu, fun _ => Or.inr hr, fun hno => absurd hstart hno⟩
      · intro hw s' img' _ _ hi hm
        simp only [Bool.not_false, if_true]
        exact ensures_pure.2 ⟨h.congr hi hm, fun _ => Or.inr (Or.inl hw), fun hno => absurd hstart hno⟩
    · rw [if_neg (fun hc => hmissing (allMissing_iff.1 hc)), h.not_slotOwns]
      split
      · -- a slot is there and another one is not
        rename_i habsent
        obtain ⟨i, -, hi⟩ := List.any_eq_true.1 habsent
        refine ensures_pure.2 ⟨h, fun hstart => ?_, fun _ => ⟨rfl, rfl⟩⟩
        rcases hstart with hm | hall
        · exact absurd hm hmissing
        · obtain ⟨c, r, hr⟩ := hall i
          rw [hslots, scannedSlot_of_holds hr] at hi
          cases hi
      · rename_i hpresent
        have hpresent : ∀ i, (s1.slots i).present = true := by simpa using hpresent
        have hready : ∀ i, SlotReady s1 img i := fun i => by
          have hp := hpresent i
          rw [hslots] at hp
          have hholds := scannedSlot_present (hno i) hp
          rw [← hslots] at hholds
          exact ⟨hpresent i, hholds, by rw [(h.slots.holds hholds).2]; rfl⟩
        have hstart : Startable img := Or.inr fun i => ⟨_, _, (hready i).holds⟩
        refine ensures_recoverIdentity_unborn ht hd h hready
          (fun img'' hu => ⟨hu, fun hno => absurd hstart hno⟩) ?_ ?_
        · exact fun s'' img'' hfree hu =>
            ⟨hu, fun _ => Or.inl ⟨rfl, hfree⟩, fun hno => absurd hstart hno⟩
        · exact fun hr s'' status img'' hu =>
            ⟨hu, fun _ => Or.inr hr, fun hno => absurd hstart hno⟩
  · rintro s' status - ⟨slot, -, hc⟩
    exact absurd hc (hno slot)

/-! ### Boots from blank storage -/

/-- A boot: what the entropy source gives, how the storage fails, and where power is cut. -/
structure Boot where
  entropy : Option UInt32
  script : List Fault
  cut : Option (PowerCut Bytes)

/-- Only writes and commits fail. -/
def Boot.WritesOnly (b : Boot) : Prop := ∀ f ∈ b.script, Records.WritesOnly f

/-- The image a boot leaves. -/
def Boot.leave (device : UInt8) (img : Image) (b : Boot) : Image :=
  (geometry.execFaulty (Store.recover b.entropy device) b.script b.cut img).2

/-- The image after boots, one after another, from blank storage. -/
def afterBoots (device : UInt8) (boots : List Boot) : Image := boots.foldl (Boot.leave device) blankImage

theorem unborn_blank (device : UInt8) : Unborn device blankImage :=
  ⟨initializing_of_missing fun _ _ => rfl, rfl, fun b m hb => by cases hb⟩

/-- One boot keeps the image unborn, and leaves one it cannot start from as it is. -/
theorem Unborn.leave (h : Unborn device img) (hd : device ≠ 0) {b : Boot} (hb : b.WritesOnly) :
    Unborn device (b.leave device img) ∧ (¬ Startable img → b.leave device img = img) := by
  have hp := ensures_execFaulty (ensures_recover_unborn writesOnly_truthful hd h b.entropy) b.script hb b.cut
  unfold Boot.leave
  split at hp <;> rename_i heq <;> rw [heq]
  · exact ⟨hp.1, fun hno => (hp.2.2 hno).2⟩
  · exact hp

theorem Unborn.leaves (h : Unborn device img) (hd : device ≠ 0) {boots : List Boot}
    (hb : ∀ b ∈ boots, b.WritesOnly) :
    Unborn device (boots.foldl (Boot.leave device) img) ∧
      (¬ Startable img → boots.foldl (Boot.leave device) img = img) := by
  induction boots generalizing img with
  | nil => exact ⟨h, fun _ => rfl⟩
  | cons b boots ih =>
    obtain ⟨hborn, hstuck⟩ := h.leave hd (hb b List.mem_cons_self)
    obtain ⟨hborn', hstuck'⟩ := ih hborn fun b' hb' => hb b' (List.mem_cons_of_mem _ hb')
    refine ⟨hborn', fun hno => ?_⟩
    rw [List.foldl_cons, hstuck'] <;> rw [hstuck hno]
    exact hno

/-- The recovery on working storage is READY, with eight slots that are FREE. -/
def StartsFree (device : UInt8) (epoch : UInt32) (img : Image) : Prop :=
  (reboot device (some epoch) img).2.1 = .ready ∧
    ∀ i, ((reboot device (some epoch) img).1.slots i).present = true ∧
      ((reboot device (some epoch) img).1.slots i).record.state = .free

/-- The recovery on working storage, of an image that owns nothing yet. -/
theorem Unborn.reboot (h : Unborn device img) (hd : device ≠ 0) :
    (Startable img → ∀ epoch : UInt32, epoch ≠ 0 → StartsFree device epoch img) ∧
      (¬ Startable img → ∀ entropy, (Node.reboot device entropy img).2 = (.indeterminateSlot, img)) := by
  constructor
  · intro hs epoch he
    obtain ⟨img', -, -, hstart, -⟩ := ensures_run (ensures_recover_unborn noFaults_truthful hd h (some epoch))
    rcases hstart hs with hr | hw | he' | he'
    · exact hr
    · exact absurd hw not_writesFail
    · cases he'
    · exact absurd (Option.some.inj he') he
  · intro hno entropy
    obtain ⟨img', himg, -, -, hstuck⟩ := ensures_run (ensures_recover_unborn noFaults_truthful hd h entropy)
    obtain ⟨hstatus, rfl⟩ := hstuck hno
    exact Prod.ext hstatus (congrArg Disk.data himg)

/-- **The first boot.** After any boots from blank storage, with writes that fail and power cuts, a recovery
on working storage is READY with eight FREE slots exactly when no slot has been written yet or all eight hold a
record; otherwise it reports INDETERMINATE_SLOT and leaves the image as it is, and so it does after any boots that
follow, which leave the image as it is too. -/
theorem first_boot (device : UInt8) (hd : device ≠ 0) (epoch : UInt32) (he : epoch ≠ 0) (boots : List Boot)
    (hb : ∀ b ∈ boots, b.WritesOnly) :
    (StartsFree device epoch (afterBoots device boots) ↔ Startable (afterBoots device boots)) ∧
      (¬ Startable (afterBoots device boots) → ∀ later : List Boot, (∀ b ∈ later, b.WritesOnly) →
        afterBoots device (boots ++ later) = afterBoots device boots ∧
          ∀ entropy, (reboot device entropy (afterBoots device (boots ++ later))).2 =
            (.indeterminateSlot, afterBoots device boots)) := by
  have h : Unborn device (afterBoots device boots) := ((unborn_blank device).leaves hd hb).1
  refine ⟨⟨fun hfree => ?_, fun hs => (h.reboot hd).1 hs epoch he⟩, fun hno later hlater => ?_⟩
  · by_contra hno
    have hstuck := congrArg Prod.fst ((h.reboot hd).2 hno (some epoch))
    rw [hfree.1] at hstuck
    cases hstuck
  · have hsame : afterBoots device (boots ++ later) = afterBoots device boots := by
      unfold afterBoots
      rw [List.foldl_append]
      exact (h.leaves hd hlater).2 hno
    refine ⟨hsame, fun entropy => ?_⟩
    rw [hsame]
    exact (h.reboot hd).2 hno entropy

theorem reboot_afterCut :
    (reboot 1 (some 5) (afterBoots 1 [⟨some 5, [], some ⟨18, .new⟩⟩])).2.1 ≠ .ready ∧
      afterBoots 1 [⟨some 5, [], some ⟨18, .new⟩⟩] (.event 0 .A) ≠ none := by
  decide +kernel

/-- Power is cut right after the first slot has been written; the boots that follow leave it at that. -/
theorem first_boot_cut :
    ¬ StartsFree 1 5 (afterBoots 1 [⟨some 5, [], some ⟨18, .new⟩⟩]) ∧
      afterBoots 1 [⟨some 5, [], some ⟨18, .new⟩⟩] (.event 0 .A) ≠ none ∧
      afterBoots 1 ([⟨some 5, [], some ⟨18, .new⟩⟩] ++ [⟨some 7, [.write .error .old], none⟩, ⟨none, [], some ⟨3, .new⟩⟩]) =
        afterBoots 1 [⟨some 5, [], some ⟨18, .new⟩⟩] ∧
      (reboot 1 (some 7) (afterBoots 1
        ([⟨some 5, [], some ⟨18, .new⟩⟩] ++ [⟨some 7, [.write .error .old], none⟩, ⟨none, [], some ⟨3, .new⟩⟩]))).2.1 =
        .indeterminateSlot := by
  have hstuck : ¬ StartsFree 1 5 (afterBoots 1 [⟨some 5, [], some ⟨18, .new⟩⟩]) := fun hstart => reboot_afterCut.1 hstart.1
  have hboots : ∀ b ∈ [(⟨some 5, [], some ⟨18, .new⟩⟩ : Boot)], b.WritesOnly := by simp [Boot.WritesOnly]
  have hfirst := first_boot 1 (by decide) 5 (by decide) [⟨some 5, [], some ⟨18, .new⟩⟩] hboots
  obtain ⟨hsame, hstatus⟩ := hfirst.2 (fun hs => hstuck (hfirst.1.2 hs))
    [⟨some 7, [.write .error .old], none⟩, ⟨none, [], some ⟨3, .new⟩⟩] (by simp [Boot.WritesOnly, Records.WritesOnly])
  exact ⟨hstuck, reboot_afterCut.2, hsame, congrArg Prod.fst (hstatus (some 7))⟩

/-- Power is cut right after the first slot has been written: the Node does not start again. -/
theorem interrupted_first_boot :
    ¬ ∀ (device : UInt8) (epoch : UInt32) (boots : List Boot), device ≠ 0 → epoch ≠ 0 →
      (∀ b ∈ boots, b.WritesOnly) → StartsFree device epoch (afterBoots device boots) := by
  intro h
  exact reboot_afterCut.1 (h 1 5 [⟨some 5, [], some ⟨18, .new⟩⟩] (by decide) (by decide)
    (by simp [Boot.WritesOnly])).1

end Redline.Node
