import Redline.Hub.Ledger
import Redline.Records.Codec

/-!
# Commits of the Hub

What one write of the ledger does to its flash.  `SlotHolds` and `MetaHolds` say which record and which
ordinal metadata are in force in an image.  A commit writes one copy and then checks that the pair selects
it: `ensures_commitRecord` and `ensures_commitMetadata` need to be told only that the copy will be in force.
-/

namespace Redline.Hub

open Redline.Wire Redline.Records Redline.Lib

/-- The flash of a Hub. -/
def geometry : Geometry where
  size
    | .metadata _ => hubMetadataSize
    | .event _ _ => hubRecordSize
  undecodable
    | .metadata _, bytes => (decodeHubMetadataForSelection bytes).isNone
    | .event _ _, bytes => (decodeHubRecordForSelection bytes).isNone

/-! ### The decoders -/

theorem length_of_decodeHubRecord {b : Bytes} {r : HubRecord} (h : decodeHubRecord b = .ok r) :
    b.length = hubRecordSize := by
  unfold decodeHubRecord at h
  split at h
  · cases h
  · exact length_of_validateEnvelope ‹_›

theorem length_of_decodeHubMetadata {b : Bytes} {m : HubMetadata} (h : decodeHubMetadata b = .ok m) :
    b.length = hubMetadataSize := by
  unfold decodeHubMetadata at h
  split at h
  · cases h
  · exact length_of_validateEnvelope ‹_›

theorem decodeHubRecordForSelection_eq_some {b : Bytes} {r : HubRecord} :
    decodeHubRecordForSelection b = some r ↔ decodeHubRecord b = .ok r := by
  unfold decodeHubRecordForSelection
  cases decodeHubRecord b <;> simp [Except.toOption]

theorem decodeHubMetadataForSelection_eq_some {b : Bytes} {m : HubMetadata} :
    decodeHubMetadataForSelection b = some m ↔ decodeHubMetadata b = .ok m := by
  unfold decodeHubMetadataForSelection
  cases decodeHubMetadata b <;> simp [Except.toOption]

/-- A record that decodes is a valid one. -/
theorem validateHubRecord_of_decode {b : Bytes} {r : HubRecord} (h : decodeHubRecord b = .ok r) :
    validateHubRecord r = .ok () := by
  unfold decodeHubRecord at h
  split at h
  · cases h
  · split at h
    · cases h
    · simp only at h
      split at h
      · cases h
      · split at h
        · cases h
        · split at h
          · cases h
          · split at h
            · cases h
            · cases h
              assumption

/-- A valid record encodes, to bytes that decode to it. -/
theorem encodeHubRecord_of_valid {r : HubRecord} (h : validateHubRecord r = .ok ()) :
    ∃ b, encodeHubRecord r = .ok b ∧ decodeHubRecord b = .ok r := by
  unfold encodeHubRecord
  rw [h]
  refine ⟨_, rfl, decodeHubRecord_encode ?_⟩
  unfold encodeHubRecord
  rw [h]

theorem encodeHubMetadata_of_nonzero {m : HubMetadata} (h : m.nextUnreservedAdmissionOrdinal ≠ 0) :
    ∃ b, encodeHubMetadata m = .ok b ∧ decodeHubMetadata b = .ok m := by
  have henc : encodeHubMetadata m = .ok (finishCrc (encodeEnvelope hubMetadataSize magicHAO1 m.generation ++
      (writeUint32Le m.nextUnreservedAdmissionOrdinal ++ [0, 0, 0, 0]))) := if_neg h
  exact ⟨_, henc, decodeHubMetadata_encode henc⟩

theorem decodeHubRecordForSelection_zero :
    decodeHubRecordForSelection (List.replicate hubRecordSize 0) = none := by
  decide +kernel

theorem decodeHubMetadataForSelection_zero :
    decodeHubMetadataForSelection (List.replicate hubMetadataSize 0) = none := by
  decide +kernel

/-! ### What an image holds -/

/-- The record `r` is in force in the slot, in the copy `c`. -/
def SlotHolds (img : Image) (slot : SlotIndex) (c : CopySlot) (r : HubRecord) : Prop :=
  Holds HubRecord.generation decodeHubRecordForSelection (img.slotCells slot) c r

/-- The ordinal metadata `m` is in force, in the copy `c`. -/
def MetaHolds (img : Image) (c : CopySlot) (m : HubMetadata) : Prop :=
  Holds HubMetadata.generation decodeHubMetadataForSelection img.metaCells c m

theorem SlotHolds.valid {img : Image} {slot : SlotIndex} {c : CopySlot} {r : HubRecord}
    (h : SlotHolds img slot c r) : validateHubRecord r = .ok () := by
  obtain ⟨b, -, hb⟩ := Option.bind_eq_some_iff.1 h.1
  exact validateHubRecord_of_decode (decodeHubRecordForSelection_eq_some.1 hb)

theorem SlotHolds.congr {img img' : Image} {slot : SlotIndex} {c : CopySlot} {r : HubRecord}
    (h : SlotHolds img slot c r) (he : img'.slotCells slot = img.slotCells slot) :
    SlotHolds img' slot c r := by
  unfold SlotHolds at h ⊢
  rwa [he]

theorem MetaHolds.congr {img img' : Image} {c : CopySlot} {m : HubMetadata} (h : MetaHolds img c m)
    (he : img'.metaCells = img.metaCells) : MetaHolds img' c m := by
  unfold MetaHolds at h ⊢
  rwa [he]

theorem SlotHolds.ne_none {img : Image} {slot : SlotIndex} {c : CopySlot} {r : HubRecord}
    (h : SlotHolds img slot c r) : img (.event slot c) ≠ none := by
  intro hn
  have := h.1
  simp [Image.slotCells, hn] at this

/-- The records of the slots and the ordinal metadata an image stands for. -/
structure Durable (img : Image) (v : SlotIndex → HubRecord) (m : HubMetadata) : Prop where
  slot : ∀ i, ∃ c, SlotHolds img i c (v i)
  metadata : ∃ c, MetaHolds img c m

theorem Durable.unique {img : Image} {v v' : SlotIndex → HubRecord} {m m' : HubMetadata}
    (h : Durable img v m) (h' : Durable img v' m') : v = v' ∧ m = m' := by
  constructor
  · funext i
    obtain ⟨c, hc⟩ := h.slot i
    obtain ⟨c', hc'⟩ := h'.slot i
    exact (hc.unique hc').2
  · obtain ⟨c, hc⟩ := h.metadata
    obtain ⟨c', hc'⟩ := h'.metadata
    exact (hc.unique hc').2

theorem Durable.put {img : Image} {v : SlotIndex → HubRecord} {m : HubMetadata} (h : Durable img v m)
    {slot : SlotIndex} {c : CopySlot} (hc : SlotHolds img slot c (v slot)) {bytes : Bytes}
    {r : HubRecord} (hdec : decodeHubRecord bytes = .ok r)
    (hgen : r.generation = (v slot).generation + 1) :
    Durable (Function.update img (.event slot c.opposite) (some bytes)) (Function.update v slot r) m := by
  refine ⟨fun i => ?_, ?_⟩
  · by_cases hi : i = slot
    · subst hi
      refine ⟨c.opposite, ?_⟩
      rw [Function.update_self]
      unfold SlotHolds
      rw [Image.slotCells_update_event]
      exact Holds.commit hc (decodeHubRecordForSelection_eq_some.2 hdec) hgen
    · obtain ⟨ci, hi'⟩ := h.slot i
      rw [Function.update_of_ne hi]
      exact ⟨ci, hi'.congr (Image.slotCells_update_event_ne img hi _ _)⟩
  · obtain ⟨cm, hm⟩ := h.metadata
    exact ⟨cm, hm.congr (Image.metaCells_update_event img _ _ _)⟩

theorem Durable.torn {img : Image} {v : SlotIndex → HubRecord} {m : HubMetadata} (h : Durable img v m)
    {slot : SlotIndex} {c : CopySlot} (hc : SlotHolds img slot c (v slot)) {g : Bytes}
    (hg : decodeHubRecordForSelection g = none) :
    Durable (Function.update img (.event slot c.opposite) (some g)) v m := by
  refine ⟨fun i => ?_, ?_⟩
  · by_cases hi : i = slot
    · subst hi
      refine ⟨c, ?_⟩
      unfold SlotHolds
      rw [Image.slotCells_update_event]
      exact Holds.torn hc hg
    · obtain ⟨ci, hi'⟩ := h.slot i
      exact ⟨ci, hi'.congr (Image.slotCells_update_event_ne img hi _ _)⟩
  · obtain ⟨cm, hm⟩ := h.metadata
    exact ⟨cm, hm.congr (Image.metaCells_update_event img _ _ _)⟩

/-- The metadata is written and the slots are left alone. -/
theorem Durable.reserve {img img' : Image} {v : SlotIndex → HubRecord} {m m' : HubMetadata}
    (h : Durable img v m) (hslots : ∀ i, img'.slotCells i = img.slotCells i)
    (hm : ∃ c, MetaHolds img' c m') : Durable img' v m' := by
  refine ⟨fun i => ?_, hm⟩
  obtain ⟨c, hc⟩ := h.slot i
  exact ⟨c, hc.congr (hslots i)⟩

/-! ### Reading a copy -/

section Copy

variable {α : Type} {img : Image} {Q : α → Image → Prop} {P : Image → Prop} {l : Ledger}
  {allowed : Fault → Prop}

theorem readsRecord (img : Image) (slot : SlotIndex) (c : CopySlot) :
    Reads decodeHubRecordForSelection (copyOf hubRecordSize (img (.event slot c)))
      (img.slotCells slot c) :=
  reads_copyOf
    (fun _ _ h => length_of_decodeHubRecord (decodeHubRecordForSelection_eq_some.1 h))
    decodeHubRecordForSelection_zero _

theorem readsMetadata (img : Image) (c : CopySlot) :
    Reads decodeHubMetadataForSelection (copyOf hubMetadataSize (img (.metadata c)))
      (img.metaCells c) :=
  reads_copyOf
    (fun _ _ h => length_of_decodeHubMetadata (decodeHubMetadataForSelection_eq_some.1 h))
    decodeHubMetadataForSelection_zero _

theorem classifyRead_reply (key : StorageKey) (content : Option Bytes) :
    Ledger.classifyRead (geometry.reply key content) = some (copyOf (geometry.size key) content) := by
  cases content with
  | none => simp [Geometry.reply, Ledger.classifyRead, copyOf]
  | some b =>
    by_cases hb : b.length = geometry.size key
    · simp [Geometry.reply, Ledger.classifyRead, copyOf, hb]
    · simp [Geometry.reply, Ledger.classifyRead, copyOf, hb]

theorem ensures_readRecordCopy (ht : Truthful allowed) {slot : SlotIndex} {c : CopySlot}
    {f : Ledger × Option FixedCopy → StorageM α} :
    geometry.EnsuresUnder allowed img (l.readRecordCopy slot c >>= f) Q P ↔
      P img ∧ geometry.EnsuresUnder allowed img
        (f (l, some (copyOf hubRecordSize (img (.event slot c))))) Q P := by
  unfold Ledger.readRecordCopy
  rw [Prog.bind_assoc', ensures_readBlob ht, classifyRead_reply]
  rfl

/-- A reply of a storage that fails is no copy, or one that does not decode. -/
theorem classifyRead_failed {ρ : Type} {decode : Bytes → Option ρ} (size : ℕ) {result : StorageResult}
    (hzero : decode (List.replicate size 0) = none) (hr : result ≠ .ok) :
    (result = .unavailable ∧ Ledger.classifyRead ⟨result, 0, List.replicate size 0⟩ = none) ∨
      (result ≠ .unavailable ∧ ∃ copy, Ledger.classifyRead ⟨result, 0, List.replicate size 0⟩ = some copy ∧
        copy.valid decode = none) := by
  cases result with
  | ok => exact absurd rfl hr
  | missing => exact Or.inr ⟨by decide, _, rfl, rfl⟩
  | unavailable => exact Or.inl ⟨rfl, rfl⟩
  | error => exact Or.inr ⟨by decide, _, rfl, hzero⟩

/-- A read of a record copy on a storage that may fail. -/
theorem ensures_readRecordCopy_fails {slot : SlotIndex} {c : CopySlot}
    {f : Ledger × Option FixedCopy → StorageM α} (hP : P img)
    (h : geometry.EnsuresUnder allowed img (f (l, some (copyOf hubRecordSize (img (.event slot c))))) Q P)
    (hgone : allowed (.read .unavailable) →
      geometry.EnsuresUnder allowed img (f (l.failLedger .storageUnavailable, none)) Q P)
    (hbad : (∃ result, result ≠ .ok ∧ result ≠ .unavailable ∧ allowed (.read result)) →
      ∀ copy, copy.valid decodeHubRecordForSelection = none →
      geometry.EnsuresUnder allowed img (f (l, some copy)) Q P) :
    geometry.EnsuresUnder allowed img (l.readRecordCopy slot c >>= f) Q P := by
  unfold Ledger.readRecordCopy
  rw [Prog.bind_assoc']
  refine ensures_readBlob_fails hP ?_ fun result hr hallowed => ?_
  · rw [classifyRead_reply]
    exact h
  · rcases classifyRead_failed (geometry.size (.event slot c)) decodeHubRecordForSelection_zero hr with
      ⟨rfl, hn⟩ | ⟨hu, copy, hs, hv⟩
    · rw [hn]
      exact hgone hallowed
    · rw [hs]
      exact hbad ⟨result, hr, hu, hallowed⟩ copy hv

/-- A read of a metadata copy on a storage that may fail. -/
theorem ensures_readMetadataCopy_fails {c : CopySlot} {f : Ledger × Option FixedCopy → StorageM α} (hP : P img)
    (h : geometry.EnsuresUnder allowed img (f (l, some (copyOf hubMetadataSize (img (.metadata c))))) Q P)
    (hgone : allowed (.read .unavailable) →
      geometry.EnsuresUnder allowed img (f ({ l with status := .ordinalUnavailable }, none)) Q P)
    (hbad : (∃ result, result ≠ .ok ∧ result ≠ .unavailable ∧ allowed (.read result)) →
      ∀ copy, copy.valid decodeHubMetadataForSelection = none →
      geometry.EnsuresUnder allowed img (f (l, some copy)) Q P) :
    geometry.EnsuresUnder allowed img (l.readMetadataCopy c >>= f) Q P := by
  unfold Ledger.readMetadataCopy
  rw [Prog.bind_assoc']
  refine ensures_readBlob_fails hP ?_ fun result hr hallowed => ?_
  · rw [classifyRead_reply]
    exact h
  · rcases classifyRead_failed (geometry.size (.metadata c)) decodeHubMetadataForSelection_zero hr with
      ⟨rfl, hn⟩ | ⟨hu, copy, hs, hv⟩
    · rw [hn]
      exact hgone hallowed
    · rw [hs]
      exact hbad ⟨result, hr, hu, hallowed⟩ copy hv

/-- A read of a record copy on a storage that reports its failures. -/
theorem ensures_readRecordCopy_reports (hr : Reports allowed) {slot : SlotIndex} {c : CopySlot}
    {f : Ledger × Option FixedCopy → StorageM α} (hP : P img)
    (h : geometry.EnsuresUnder allowed img (f (l, some (copyOf hubRecordSize (img (.event slot c))))) Q P)
    (hgone : ReadsFail allowed → geometry.EnsuresUnder allowed img (f (l.failLedger .storageUnavailable, none)) Q P) :
    geometry.EnsuresUnder allowed img (l.readRecordCopy slot c >>= f) Q P := by
  refine ensures_readRecordCopy_fails hP h (fun ha => hgone ⟨.unavailable, by decide, ha⟩) ?_
  rintro ⟨result, hok, hu, ha⟩
  exact ((hr result ha).elim hok hu).elim

/-- A read of a metadata copy on a storage that reports its failures. -/
theorem ensures_readMetadataCopy_reports (hr : Reports allowed) {c : CopySlot}
    {f : Ledger × Option FixedCopy → StorageM α} (hP : P img)
    (h : geometry.EnsuresUnder allowed img (f (l, some (copyOf hubMetadataSize (img (.metadata c))))) Q P)
    (hgone : ReadsFail allowed →
      geometry.EnsuresUnder allowed img (f ({ l with status := .ordinalUnavailable }, none)) Q P) :
    geometry.EnsuresUnder allowed img (l.readMetadataCopy c >>= f) Q P := by
  refine ensures_readMetadataCopy_fails hP h (fun ha => hgone ⟨.unavailable, by decide, ha⟩) ?_
  rintro ⟨result, hok, hu, ha⟩
  exact ((hr result ha).elim hok hu).elim

end Copy

/-! ### Writing a copy -/

section Commits

variable {img : Image} {P : Image → Prop} {l : Ledger} {allowed : Fault → Prop}

theorem storageStatus_ne (result : StorageResult) : Ledger.storageStatus result ≠ .ready := by
  unfold Ledger.storageStatus
  split <;> simp

/-- The copy just written is the one that the pair selects, and it is the record that was written. -/
theorem selectsTarget_valid {ρ : Type} [Inhabited ρ] {generation : ρ → UInt32} {decode : Bytes → Option ρ}
    {a b : FixedCopy} {target : CopySlot} {expected : UInt32} {r : ρ}
    (h : Ledger.selectsTarget generation (selectCopies generation decode a b) target expected = .ok r) :
    (pickCopy a b target).valid decode = some r := by
  unfold Ledger.selectsTarget at h
  split at h
  · cases h
  · rename_i hc
    simp only [not_or, ne_eq, not_not, Bool.not_eq_true', Bool.not_eq_false] at hc
    cases h
    rw [← hc.1]
    exact selectCopies_valid hc.2.2

theorem selectsTarget_error {ρ : Type} {generation : ρ → UInt32} {selection : Selection ρ} {target : CopySlot}
    {expected : UInt32} {status : Ledger.Status}
    (h : Ledger.selectsTarget generation selection target expected = .error status) : status ≠ .ready := by
  unfold Ledger.selectsTarget at h
  split at h
  · cases h
    split <;> decide
  · cases h

/-- The pair that selects the copy just written. -/
theorem selectsTarget_of_selected {ρ : Type} (generation : ρ → UInt32) {selection : Selection ρ}
    {target : CopySlot} {next : ρ} (hauth : selection.result.authoritative = true)
    (hsel : selection.selected = next) (hslot : selection.slot = target) :
    Ledger.selectsTarget generation selection target (generation next) = .ok next := by
  simp [Ledger.selectsTarget, hauth, hsel, hslot]

/-- The last check of a commit finds the record that was written, or nothing; it finds it unless a read has
failed. -/
theorem selectsTarget_read {ρ : Type} [Inhabited ρ] {generation : ρ → UInt32} {decode : Bytes → Option ρ}
    {cells : Cells} {target : CopySlot} {next : ρ} (hholds : Holds generation decode cells target next)
    {a b a' b' : FixedCopy} (ha : Reads decode a' (cells .A)) (hb : Reads decode b' (cells .B))
    {failed : Prop} (hA : a = a' ∨ failed ∧ a.valid decode = none) (hB : b = b' ∨ failed ∧ b.valid decode = none) :
    Ledger.selectsTarget generation (selectCopies generation decode a b) target (generation next) = .ok next ∨
      failed ∧ ∃ status, status ≠ .ready ∧
        Ledger.selectsTarget generation (selectCopies generation decode a b) target (generation next) =
          .error status := by
  have hread : ∀ r, (pickCopy a b target).valid decode = some r → r = next := by
    intro r hr
    have hcell : (pickCopy a' b' target).valid decode = some next := by
      cases target with
      | A => exact ha.1.trans hholds.1
      | B => exact hb.1.trans hholds.1
    cases target with
    | A =>
      rcases hA with rfl | ⟨-, hn⟩
      · exact Option.some.inj (hr.symm.trans hcell)
      · cases hr.symm.trans hn
    | B =>
      rcases hB with rfl | ⟨-, hn⟩
      · exact Option.some.inj (hr.symm.trans hcell)
      · cases hr.symm.trans hn
  cases hs : Ledger.selectsTarget generation (selectCopies generation decode a b) target (generation next) with
  | ok r =>
    rw [hread r (selectsTarget_valid hs)]
    exact Or.inl rfl
  | error status =>
    refine Or.inr ⟨?_, status, selectsTarget_error hs, rfl⟩
    rcases hA with rfl | ⟨hf, -⟩
    · rcases hB with rfl | ⟨hf, -⟩
      · obtain ⟨hauth, hsel, hslot⟩ := selectCopies_of_holds ha hb hholds
        rw [selectsTarget_of_selected generation hauth hsel hslot] at hs
        cases hs
      · exact hf
    · exact hf

/-- **Commit of a record**, with the image written out; a failure leaves what a cut leaves. -/
theorem ensures_commitRecord {Q : Ledger × Bool → Image → Prop} {slot : SlotIndex}
    {next : HubRecord} {target : CopySlot} {encoded : Bytes} (henc : encodeHubRecord next = .ok encoded)
    (hholds : SlotHolds (Function.update img (.event slot target) (some encoded)) slot target next)
    (hcrash : geometry.WriteCrash P img (.event slot target) encoded)
    (hQ : Q (l.setSlot slot ⟨true, target, next⟩, true)
      (Function.update img (.event slot target) (some encoded)))
    (hfail : Fails allowed → ∀ status, status ≠ .ready →
      geometry.WriteCrash (fun img' => Q (l.failLedger status, false) img') img (.event slot target) encoded) :
    geometry.EnsuresUnder allowed img (l.commitRecord slot next target) Q P := by
  have hdec := decodeHubRecord_encode henc
  have hlen := length_of_decodeHubRecord hdec
  have hdec' := decodeHubRecordForSelection_eq_some.2 hdec
  have hread : ReadsFail allowed → ∀ status, status ≠ Ledger.Status.ready →
      Q (l.failLedger status, false) (Function.update img (.event slot target) (some encoded)) :=
    fun hr status hs => (hfail (Or.inr hr) status hs).new
  set img' := Function.update img (.event slot target) (some encoded) with himg
  -- the two copies are read again, either of them perhaps in vain
  have hcopy : ∀ {β : Type} {R : β → Image → Prop} {c : CopySlot} {f : Ledger × Option FixedCopy → StorageM β},
      (∀ copy, copy = copyOf hubRecordSize (img' (.event slot c)) ∨
        ReadsFail allowed ∧ copy.valid decodeHubRecordForSelection = none →
        geometry.EnsuresUnder allowed img' (f (l, some copy)) R P) →
      (ReadsFail allowed → geometry.EnsuresUnder allowed img' (f (l.failLedger .storageUnavailable, none)) R P) →
      geometry.EnsuresUnder allowed img' (l.readRecordCopy slot c >>= f) R P := by
    intro β R c f hsome hnone
    refine ensures_readRecordCopy_fails hcrash.new (hsome _ (Or.inl rfl)) ?_ ?_
    · exact fun ha => hnone ⟨.unavailable, by decide, ha⟩
    · rintro ⟨result, hr, -, ha⟩ copy hv
      exact hsome copy (Or.inr ⟨⟨result, hr, ha⟩, hv⟩)
  unfold Ledger.commitRecord
  simp only [henc]
  apply ensures_writeBlob_commit hcrash
  case hf =>
    simp only [ne_eq, not_true_eq_false, if_false]
    rfl
  case h =>
    simp only [not_true_eq_false, if_false]
    rw [← himg]
    refine ensures_readBlob_fails hcrash.new ?_ fun result hr ha => ?_
    · have hreply : geometry.reply (.event slot target) (img' (.event slot target)) =
          ⟨.ok, encoded.length, encoded⟩ := by
        simp [himg, Geometry.reply, geometry, hlen]
      simp only [hreply, hlen, hdec', not_true_eq_false, Option.isNone_some, Bool.false_eq_true, or_self,
        if_false]
      refine hcopy (fun copyA hA => ?_) fun hr => ensures_pure.2 (hread hr _ (by decide))
      refine hcopy (fun copyB hB => ?_) fun hr => ensures_pure.2 (hread hr _ (by decide))
      rcases selectsTarget_read hholds (readsRecord img' slot .A) (readsRecord img' slot .B) hA hB with
        hok | ⟨hr, status, hst, herr⟩
      · simp only [hok]
        exact ensures_pure.2 hQ
      · simp only [herr]
        exact ensures_pure.2 (hread hr status hst)
    · simp only [hr, not_false_eq_true, true_or, if_true]
      exact ensures_pure.2 (hread ⟨result, hr, ha⟩ _ (storageStatus_ne result))
  case hfail =>
    intro hw result hr
    simp only [ne_eq, hr, not_false_eq_true, if_true, ensures_pure, and_self]
    exact hfail (Or.inl hw) _ (storageStatus_ne result)
  case hsilent =>
    -- the read-back finds that the bytes are not there, or fails
    intro hw
    have hfails := geometry.writeCrash_forall fun status => geometry.writeCrash_forall (hfail (Or.inl hw) status)
    refine (hfails.and hcrash).mono fun img'' hi hne => ?_
    obtain ⟨hi, hPi⟩ := hi
    simp only [not_true_eq_false, if_false]
    refine ensures_readBlob_fails hPi ?_ fun result hr _ => ?_
    · cases hcell : img'' (.event slot target) with
      | none =>
        simp only [Geometry.reply, reduceCtorEq, not_false_eq_true, true_or, if_true]
        exact ensures_pure.2 (hi _ (storageStatus_ne _))
      | some b =>
        rw [hcell] at hne
        have hne : encoded ≠ b := fun he => hne (by rw [he])
        by_cases hb : b.length = hubRecordSize
        · simp only [Geometry.reply, geometry, hb, ne_eq, not_true_eq_false, or_self, if_false, hne,
            not_false_eq_true, or_true, if_true]
          exact ensures_pure.2 (hi _ (by decide))
        · simp only [Geometry.reply, geometry, hb, ne_eq, not_false_eq_true, if_true, reduceCtorEq, true_or]
          exact ensures_pure.2 (hi _ (storageStatus_ne _))
    · simp only [hr, not_false_eq_true, true_or, if_true]
      exact ensures_pure.2 (hi _ (storageStatus_ne result))

/-- **Commit of the ordinal metadata**, with the image written out; a failure leaves what a cut leaves. -/
theorem ensures_commitMetadata {Q : Ledger × Bool → Image → Prop}
    {next : HubMetadata} {target : CopySlot} {encoded : Bytes} (henc : encodeHubMetadata next = .ok encoded)
    (hholds : MetaHolds (Function.update img (.metadata target) (some encoded)) target next)
    (hcrash : geometry.WriteCrash P img (.metadata target) encoded)
    (hQ : Q ({ l with metadata := next, metadataCopy := target, hasMetadata := true, ordinalReady := true }, true)
      (Function.update img (.metadata target) (some encoded)))
    (hfail : Fails allowed → ∀ status, status ≠ .ready →
      geometry.WriteCrash (fun img' => Q (l.failOrdinal status, false) img') img (.metadata target) encoded) :
    geometry.EnsuresUnder allowed img (l.commitMetadata next target) Q P := by
  have hdec := decodeHubMetadata_encode henc
  have hlen := length_of_decodeHubMetadata hdec
  have hdec' := decodeHubMetadataForSelection_eq_some.2 hdec
  have hread : ReadsFail allowed → ∀ status, status ≠ Ledger.Status.ready →
      Q (l.failOrdinal status, false) (Function.update img (.metadata target) (some encoded)) :=
    fun hr status hs => (hfail (Or.inr hr) status hs).new
  set img' := Function.update img (.metadata target) (some encoded) with himg
  have hcopy : ∀ {β : Type} {R : β → Image → Prop} {c : CopySlot} {f : Ledger × Option FixedCopy → StorageM β},
      (∀ copy, copy = copyOf hubMetadataSize (img' (.metadata c)) ∨
        ReadsFail allowed ∧ copy.valid decodeHubMetadataForSelection = none →
        geometry.EnsuresUnder allowed img' (f (l, some copy)) R P) →
      (ReadsFail allowed →
        geometry.EnsuresUnder allowed img' (f ({ l with status := .ordinalUnavailable }, none)) R P) →
      geometry.EnsuresUnder allowed img' (l.readMetadataCopy c >>= f) R P := by
    intro β R c f hsome hnone
    refine ensures_readMetadataCopy_fails hcrash.new (hsome _ (Or.inl rfl)) ?_ ?_
    · exact fun ha => hnone ⟨.unavailable, by decide, ha⟩
    · rintro ⟨result, hr, -, ha⟩ copy hv
      exact hsome copy (Or.inr ⟨⟨result, hr, ha⟩, hv⟩)
  unfold Ledger.commitMetadata
  simp only [henc]
  apply ensures_writeBlob_commit hcrash
  case hf =>
    simp only [ne_eq, not_true_eq_false, if_false]
    rfl
  case h =>
    simp only [not_true_eq_false, if_false]
    rw [← himg]
    refine ensures_readBlob_fails hcrash.new ?_ fun result hr ha => ?_
    · have hreply : geometry.reply (.metadata target) (img' (.metadata target)) =
          ⟨.ok, encoded.length, encoded⟩ := by
        simp [himg, Geometry.reply, geometry, hlen]
      simp only [hreply, hlen, hdec', not_true_eq_false, Option.isNone_some, Bool.false_eq_true, or_self,
        if_false]
      refine hcopy (fun copyA hA => ?_) fun hr => ensures_pure.2 (hread hr _ (by decide))
      refine hcopy (fun copyB hB => ?_) fun hr => ensures_pure.2 (hread hr _ (by decide))
      rcases selectsTarget_read hholds (readsMetadata img' .A) (readsMetadata img' .B) hA hB with
        hok | ⟨hr, status, hst, herr⟩
      · simp only [hok]
        exact ensures_pure.2 hQ
      · simp only [herr]
        exact ensures_pure.2 (hread hr status hst)
    · simp only [hr, not_false_eq_true, true_or, if_true]
      exact ensures_pure.2 (hread ⟨result, hr, ha⟩ _ (storageStatus_ne result))
  case hfail =>
    intro hw result hr
    simp only [ne_eq, hr, not_false_eq_true, if_true, ensures_pure, and_self]
    exact hfail (Or.inl hw) _ (storageStatus_ne result)
  case hsilent =>
    -- the read-back finds that the bytes are not there, or fails
    intro hw
    have hfails := geometry.writeCrash_forall fun status => geometry.writeCrash_forall (hfail (Or.inl hw) status)
    refine (hfails.and hcrash).mono fun img'' hi hne => ?_
    obtain ⟨hi, hPi⟩ := hi
    simp only [not_true_eq_false, if_false]
    refine ensures_readBlob_fails hPi ?_ fun result hr _ => ?_
    · cases hcell : img'' (.metadata target) with
      | none =>
        simp only [Geometry.reply, reduceCtorEq, not_false_eq_true, true_or, if_true]
        exact ensures_pure.2 (hi _ (storageStatus_ne _))
      | some b =>
        rw [hcell] at hne
        have hne : encoded ≠ b := fun he => hne (by rw [he])
        by_cases hb : b.length = hubMetadataSize
        · simp only [Geometry.reply, geometry, hb, ne_eq, not_true_eq_false, or_self, if_false, hne,
            not_false_eq_true, or_true, if_true]
          exact ensures_pure.2 (hi _ (by decide))
        · simp only [Geometry.reply, geometry, hb, ne_eq, not_false_eq_true, if_true, reduceCtorEq, true_or]
          exact ensures_pure.2 (hi _ (storageStatus_ne _))
    · simp only [hr, not_false_eq_true, true_or, if_true]
      exact ensures_pure.2 (hi _ (storageStatus_ne result))

end Commits

end Redline.Hub
