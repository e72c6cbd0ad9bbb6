import Redline.Node.Store
import Redline.Records.Codec

/-!
# Commits of the Node

What one write of the Node does to its flash.  `SlotHolds` and `MetaHolds` say which record and which
metadata are in force in an image, and `Mirrors s img` that the RAM of the store agrees with it.
`ensures_commitMutation` and `ensures_commitMetadata` are the two ways the image changes after the
first initialisation: the new record is in force, or, after a cut, the old one or the new one.
-/

namespace Redline.Node

open Redline.Wire Redline.Records Redline.Lib

/-- The flash of a Node. -/
def geometry : Geometry where
  size
    | .metadata _ => nodeMetadataSize
    | .event _ _ => nodeRecordSize
  undecodable
    | .metadata _, bytes => (decodeNodeMetadataForSelection bytes).isNone
    | .event _ _, bytes => (decodeNodeRecordForSelection bytes).isNone

/-! ### The decoders -/

theorem length_of_decodeNodeRecord {b : Bytes} {r : NodeRecord} (h : decodeNodeRecord b = .ok r) :
    b.length = nodeRecordSize := by
  unfold decodeNodeRecord at h
  split at h
  · cases h
  · exact length_of_validateEnvelope ‹_›

theorem length_of_decodeNodeMetadata {b : Bytes} {m : NodeMetadata} (h : decodeNodeMetadata b = .ok m) :
    b.length = nodeMetadataSize := by
  unfold decodeNodeMetadata at h
  split at h
  · cases h
  · exact length_of_validateEnvelope ‹_›

theorem decodeNodeRecordForSelection_eq_some {b : Bytes} {r : NodeRecord} :
    decodeNodeRecordForSelection b = some r ↔ decodeNodeRecord b = .ok r := by
  unfold decodeNodeRecordForSelection
  cases decodeNodeRecord b <;> simp [Except.toOption]

theorem decodeNodeMetadataForSelection_eq_some {b : Bytes} {m : NodeMetadata} :
    decodeNodeMetadataForSelection b = some m ↔ decodeNodeMetadata b = .ok m := by
  unfold decodeNodeMetadataForSelection
  cases decodeNodeMetadata b <;> simp [Except.toOption]

/-- A record that decodes is a valid one. -/
theorem validateNodeRecord_of_decode {b : Bytes} {r : NodeRecord} (h : decodeNodeRecord b = .ok r) :
    validateNodeRecord r = .ok () := by
  unfold decodeNodeRecord at h
  split at h
  · cases h
  · split at h
    · cases h
    · simp only at h
      split at h
      · cases h
      · split at h
        · cases h
        · split at h
          · cases h
          · split at h
            · cases h
            · cases h
              assumption

/-- Metadata that decodes has a source, an epoch and a next id. -/
theorem nonzero_of_decodeNodeMetadata {b : Bytes} {m : NodeMetadata} (h : decodeNodeMetadata b = .ok m) :
    m.custodySourceDeviceId ≠ 0 ∧ m.eventEpoch ≠ 0 ∧ m.nextUnreservedEventId ≠ 0 := by
  unfold decodeNodeMetadata at h
  split at h
  · cases h
  · split at h
    · cases h
    · simp only at h
      split at h
      · cases h
      · rename_i hz
        cases h
        simpa [and_assoc] using hz

/-- A valid record encodes, to bytes that decode to it. -/
theorem encodeNodeRecord_of_valid {r : NodeRecord} (h : validateNodeRecord r = .ok ()) :
    ∃ b, encodeNodeRecord r = .ok b ∧ decodeNodeRecord b = .ok r := by
  unfold encodeNodeRecord
  rw [h]
  refine ⟨_, rfl, decodeNodeRecord_encode ?_⟩
  unfold encodeNodeRecord
  rw [h]

theorem encodeNodeMetadata_of_nonzero {m : NodeMetadata} (hs : m.custodySourceDeviceId ≠ 0)
    (he : m.eventEpoch ≠ 0) (hn : m.nextUnreservedEventId ≠ 0) :
    ∃ b, encodeNodeMetadata m = .ok b ∧ decodeNodeMetadata b = .ok m := by
  have h : encodeNodeMetadata m = .ok (finishCrc (encodeEnvelope nodeMetadataSize magicEID1 m.generation ++
      ([m.custodySourceDeviceId, 0, 0, 0] ++ writeUint32Le m.eventEpoch ++
        writeUint32Le m.nextUnreservedEventId))) := by
    simp [encodeNodeMetadata, hs, he, hn]
  exact ⟨_, h, decodeNodeMetadata_encode h⟩

theorem decodeNodeRecordForSelection_zero :
    decodeNodeRecordForSelection (List.replicate nodeRecordSize 0) = none := by
  decide +kernel

theorem decodeNodeMetadataForSelection_zero :
    decodeNodeMetadataForSelection (List.replicate nodeMetadataSize 0) = none := by
  decide +kernel

/-! ### What an image holds -/

/-- The record `r` is in force in the slot, in the copy `c`. -/
def SlotHolds (img : Image) (slot : SlotIndex) (c : CopySlot) (r : NodeRecord) : Prop :=
  Holds NodeRecord.generation decodeNodeRecordForSelection (img.slotCells slot) c r

/-- The metadata `m` is in force, in the copy `c`. -/
def MetaHolds (img : Image) (c : CopySlot) (m : NodeMetadata) : Prop :=
  Holds NodeMetadata.generation decodeNodeMetadataForSelection img.metaCells c m

theorem SlotHolds.valid {img : Image} {slot : SlotIndex} {c : CopySlot} {r : NodeRecord}
    (h : SlotHolds img slot c r) : validateNodeRecord r = .ok () := by
  obtain ⟨b, -, hb⟩ := Option.bind_eq_some_iff.1 h.1
  exact validateNodeRecord_of_decode (decodeNodeRecordForSelection_eq_some.1 hb)

theorem MetaHolds.nonzero {img : Image} {c : CopySlot} {m : NodeMetadata} (h : MetaHolds img c m) :
    m.custodySourceDeviceId ≠ 0 ∧ m.eventEpoch ≠ 0 ∧ m.nextUnreservedEventId ≠ 0 := by
  obtain ⟨b, -, hb⟩ := Option.bind_eq_some_iff.1 h.1
  exact nonzero_of_decodeNodeMetadata (decodeNodeMetadataForSelection_eq_some.1 hb)

theorem SlotHolds.congr {img img' : Image} {slot : SlotIndex} {c : CopySlot} {r : NodeRecord}
    (h : SlotHolds img slot c r) (he : img'.slotCells slot = img.slotCells slot) :
    SlotHolds img' slot c r := by
  unfold SlotHolds at h ⊢
  rwa [he]

theorem MetaHolds.congr {img img' : Image} {c : CopySlot} {m : NodeMetadata} (h : MetaHolds img c m)
    (he : img'.metaCells = img.metaCells) : MetaHolds img' c m := by
  unfold MetaHolds at h ⊢
  rwa [he]

theorem SlotHolds.ne_none {img : Image} {slot : SlotIndex} {c : CopySlot} {r : NodeRecord}
    (h : SlotHolds img slot c r) : img (.event slot c) ≠ none := by
  intro hn
  have := h.1
  simp [Image.slotCells, hn] at this

/-- The metadata `m` is in force. -/
def MetaIs (img : Image) (m : NodeMetadata) : Prop := ∃ c, MetaHolds img c m

theorem MetaIs.unique {img : Image} {m m' : NodeMetadata} (h : MetaIs img m) (h' : MetaIs img m') :
    m = m' := by
  obtain ⟨c, hc⟩ := h
  obtain ⟨c', hc'⟩ := h'
  exact (hc.unique hc').2

/-- The slots of two images are the same. -/
def SameSlots (img img' : Image) : Prop := ∀ i, img'.slotCells i = img.slotCells i

theorem SameSlots.refl (img : Image) : SameSlots img img := fun _ => rfl

theorem sameSlots_update_metadata (img : Image) (c : CopySlot) (b : Option Bytes) :
    SameSlots img (Function.update img (.metadata c) b) := fun i =>
  Image.slotCells_update_metadata img c b i

/-- The records of the slots and the metadata an image stands for. -/
structure Durable (img : Image) (v : SlotIndex → NodeRecord) (m : NodeMetadata) : Prop where
  slot : ∀ i, ∃ c, SlotHolds img i c (v i)
  metadata : MetaIs img m

theorem Durable.unique {img : Image} {v v' : SlotIndex → NodeRecord} {m m' : NodeMetadata}
    (h : Durable img v m) (h' : Durable img v' m') : v = v' ∧ m = m' := by
  constructor
  · funext i
    obtain ⟨c, hc⟩ := h.slot i
    obtain ⟨c', hc'⟩ := h'.slot i
    exact (hc.unique hc').2
  · exact h.metadata.unique h'.metadata

/-! ### What the RAM knows -/

def Store.records (s : Store) : SlotIndex → NodeRecord := fun i => (s.slots i).record

/-- The slots in RAM are those of the image. -/
def SlotsMirror (s : Store) (img : Image) : Prop :=
  ∀ i, (s.slots i).present = true ∧ SlotHolds img i (s.slots i).activeCopy (s.slots i).record

/-- The metadata in RAM is that of the image. -/
structure MetaMirror (a : Allocator) (img : Image) : Prop where
  authoritative : a.hasAuthoritativeMetadata = true
  holds : MetaHolds img a.activeSlot a.metadata

/-- The RAM of the store mirrors the image. -/
structure Mirrors (s : Store) (img : Image) : Prop where
  slots : SlotsMirror s img
  metadata : MetaMirror s.allocator img

theorem Mirrors.durable {s : Store} {img : Image} (h : Mirrors s img) :
    Durable img s.records s.allocator.metadata :=
  ⟨fun i => ⟨_, (h.slots i).2⟩, ⟨_, h.metadata.holds⟩⟩

theorem Mirrors.recordAt {s : Store} {img : Image} (h : Mirrors s img) (i : SlotIndex) :
    s.recordAt i = some (s.records i) := by
  simp [Store.recordAt, (h.slots i).1, Store.records]

@[simp] theorem Store.records_setSlot (s : Store) (slot : SlotIndex) (st : SlotState) :
    (s.setSlot slot st).records = Function.update s.records slot st.record := by
  funext i
  by_cases h : i = slot
  · subst h; simp [Store.records, Store.setSlot]
  · simp [Store.records, Store.setSlot, h]

@[simp] theorem Store.allocator_setSlot (s : Store) (slot : SlotIndex) (st : SlotState) :
    (s.setSlot slot st).allocator = s.allocator := rfl

/-! ### One copy -/

section Copy

variable {α : Type} {img : Image} {Q : α → Image → Prop} {P : Image → Prop} {s : Store}
  {allowed : Fault → Prop}

theorem readsRecord (img : Image) (slot : SlotIndex) (c : CopySlot) :
    Reads decodeNodeRecordForSelection (copyOf nodeRecordSize (img (.event slot c)))
      (img.slotCells slot c) :=
  reads_copyOf
    (fun _ _ h => length_of_decodeNodeRecord (decodeNodeRecordForSelection_eq_some.1 h))
    decodeNodeRecordForSelection_zero _

theorem readsMetadata (img : Image) (c : CopySlot) :
    Reads decodeNodeMetadataForSelection (copyOf nodeMetadataSize (img (.metadata c)))
      (img.metaCells c) :=
  reads_copyOf
    (fun _ _ h => length_of_decodeNodeMetadata (decodeNodeMetadataForSelection_eq_some.1 h))
    decodeNodeMetadataForSelection_zero _

theorem ensures_readRecordCopy (ht : Truthful allowed) {slot : SlotIndex} {c : CopySlot}
    {f : Store × Option FixedCopy → StorageM α} :
    geometry.EnsuresUnder allowed img (s.readRecordCopy slot c >>= f) Q P ↔
      P img ∧ geometry.EnsuresUnder allowed img
        (f (s, some (copyOf nodeRecordSize (img (.event slot c))))) Q P := by
  unfold Store.readRecordCopy
  rw [Prog.bind_assoc', ensures_readBlob ht]
  refine and_congr_right fun _ => ?_
  cases hc : img (.event slot c) with
  | none => simp [Geometry.reply, geometry, copyOf]
  | some b =>
    by_cases hb : b.length = nodeRecordSize
    · simp [Geometry.reply, geometry, copyOf, hb]
    · simp [Geometry.reply, geometry, copyOf, hb]

/-- A failing read of a metadata copy may only report that it is unavailable. -/
def OnlyUnavailable (allowed : Fault → Prop) : Prop :=
  ∀ result, result ≠ .ok → allowed (.read result) → result = .unavailable

theorem ensures_readCopy (hu : OnlyUnavailable allowed) {c : CopySlot}
    {f : Option FixedCopy → StorageM α} (hP : P img)
    (h : geometry.EnsuresUnder allowed img
      (f (some (copyOf nodeMetadataSize (img (.metadata c))))) Q P)
    (hfail : ReadsFail allowed → geometry.EnsuresUnder allowed img (f none) Q P) :
    geometry.EnsuresUnder allowed img (Allocator.readCopy c >>= f) Q P := by
  unfold Allocator.readCopy
  rw [Prog.bind_assoc']
  refine ensures_readBlob_fails hP ?_ ?_
  · cases hc : img (.metadata c) with
    | none => simpa [Geometry.reply, geometry, copyOf, hc] using h
    | some b =>
      by_cases hb : b.length = nodeMetadataSize
      · simpa [Geometry.reply, geometry, copyOf, hb, hc] using h
      · simpa [Geometry.reply, geometry, copyOf, hb, hc] using h
  · intro result hr hallowed
    have hres := hu result hr hallowed
    subst hres
    simpa using hfail ⟨_, hr, hallowed⟩

theorem ensures_writeVerify (ht : Truthful allowed) {slot : SlotIndex} {target : CopySlot}
    {encoded : Bytes} {r : NodeRecord} (hdec : decodeNodeRecord encoded = .ok r)
    {f : Store × Bool → StorageM α} (hP : geometry.WriteCrash P img (.event slot target) encoded)
    (h : geometry.EnsuresUnder allowed (Function.update img (.event slot target) (some encoded))
      (f (s, true)) Q P)
    (hfail : WritesFail allowed → ∀ status, status ≠ .ready → geometry.WriteCrash
      (fun img' => geometry.EnsuresUnder allowed img' (f (s.fail status, false)) Q P) img
      (.event slot target) encoded) :
    geometry.EnsuresUnder allowed img (s.writeVerify slot target encoded >>= f) Q P := by
  have hlen := length_of_decodeNodeRecord hdec
  have hstatus : ∀ result : StorageResult,
      (if result = .unavailable then Store.Status.storageUnavailable else .storageFailure) ≠ .ready := by
    intro result
    split <;> simp
  unfold Store.writeVerify
  rw [Prog.bind_assoc']
  apply ensures_writeBlob_commit hP
  case hf =>
    simp only [ne_eq, not_true_eq_false, if_false, Prog.bind_assoc']
    rfl
  case h =>
    simp only [not_true_eq_false, if_false, Prog.bind_assoc']
    rw [ensures_readBlob ht]
    refine ⟨hP.new, ?_⟩
    simp [Geometry.reply, geometry, hlen, hdec]
    exact h
  case hfail =>
    intro hw result hr
    simp only [ne_eq, hr, not_false_eq_true, if_true, Prog.pure_bind', and_self]
    exact hfail hw _ (hstatus result)
  case hsilent =>
    -- the read-back finds that the bytes are not there
    intro hw
    have hfails := geometry.writeCrash_forall fun status => geometry.writeCrash_forall (hfail hw status)
    refine (hfails.and hP).mono fun img' hi hne => ?_
    obtain ⟨hi, hPi⟩ := hi
    simp only [not_true_eq_false, if_false, Prog.bind_assoc']
    rw [ensures_readBlob ht]
    refine ⟨hPi, ?_⟩
    cases hcell : img' (.event slot target) with
    | none => simpa [Geometry.reply] using hi .readBackMissing (by decide)
    | some b =>
      rw [hcell] at hne
      have hne : encoded ≠ b := fun he => hne (by rw [he])
      by_cases hb : b.length = nodeRecordSize
      · cases hdec' : decodeNodeRecord b with
        | error _ => simpa [Geometry.reply, geometry, hb, hdec'] using hi .readBackInvalid (by decide)
        | ok _ => simpa [Geometry.reply, geometry, hb, hdec', hne] using hi .readBackMismatch (by decide)
      · simpa [Geometry.reply, geometry, hb] using hi .readBackInvalid (by decide)

end Copy

/-! ### Writing a copy -/

theorem Durable.put {img : Image} {v : SlotIndex → NodeRecord} {m : NodeMetadata} (h : Durable img v m)
    (slot : SlotIndex) {c : CopySlot} (hc : SlotHolds img slot c (v slot)) {bytes : Bytes}
    {r : NodeRecord} (hdec : decodeNodeRecord bytes = .ok r)
    (hgen : r.generation = (v slot).generation + 1) :
    Durable (Function.update img (.event slot c.opposite) (some bytes)) (Function.update v slot r) m := by
  refine ⟨fun i => ?_, ?_⟩
  · by_cases hi : i = slot
    · subst hi
      refine ⟨c.opposite, ?_⟩
      rw [Function.update_self]
      unfold SlotHolds
      rw [Image.slotCells_update_event]
      exact Holds.commit hc (decodeNodeRecordForSelection_eq_some.2 hdec) hgen
    · obtain ⟨ci, hi'⟩ := h.slot i
      rw [Function.update_of_ne hi]
      exact ⟨ci, hi'.congr (Image.slotCells_update_event_ne img hi _ _)⟩
  · obtain ⟨cm, hm⟩ := h.metadata
    exact ⟨cm, hm.congr (Image.metaCells_update_event img _ _ _)⟩

theorem Durable.torn {img : Image} {v : SlotIndex → NodeRecord} {m : NodeMetadata} (h : Durable img v m)
    (slot : SlotIndex) {c : CopySlot} (hc : SlotHolds img slot c (v slot)) {g : Bytes}
    (hg : decodeNodeRecordForSelection g = none) :
    Durable (Function.update img (.event slot c.opposite) (some g)) v m := by
  refine ⟨fun i => ?_, ?_⟩
  · by_cases hi : i = slot
    · subst hi
      refine ⟨c, ?_⟩
      unfold SlotHolds
      rw [Image.slotCells_update_event]
      exact Holds.torn hc hg
    · obtain ⟨ci, hi'⟩ := h.slot i
      exact ⟨ci, hi'.congr (Image.slotCells_update_event_ne img hi _ _)⟩
  · obtain ⟨cm, hm⟩ := h.metadata
    exact ⟨cm, hm.congr (Image.metaCells_update_event img _ _ _)⟩

theorem Durable.congr {img img' : Image} {v : SlotIndex → NodeRecord} {m m' : NodeMetadata}
    (h : Durable img v m) (hslots : SameSlots img img') (hm : MetaIs img' m') : Durable img' v m' := by
  refine ⟨fun i => ?_, hm⟩
  obtain ⟨c, hc⟩ := h.slot i
  exact ⟨c, hc.congr (hslots i)⟩

section Commits

variable {img : Image} {P : Image → Prop} {s : Store}

/-- **Commit of a record.** The next generation of a slot is put in force; a cut leaves the old
record or the new one. -/
theorem ensures_commitMutation {Q : Store × Bool → Image → Prop} (h : Mirrors s img)
    {slot : SlotIndex} {record : NodeRecord} (hvalid : validateNodeRecord record = .ok ())
    (hgen : record.generation = (s.records slot).generation + 1)
    (hold : ∀ img', Durable img' s.records s.allocator.metadata → P img')
    (hnew : ∀ img', Durable img' (Function.update s.records slot record) s.allocator.metadata → P img')
    (hQ : ∀ img', Mirrors (s.setSlot slot ⟨true, record, (s.slots slot).activeCopy.opposite⟩) img' →
      Q (s.setSlot slot ⟨true, record, (s.slots slot).activeCopy.opposite⟩, true) img') :
    geometry.Ensures img (s.commitMutation slot record) Q P := by
  obtain ⟨encoded, henc, hdec⟩ := encodeNodeRecord_of_valid hvalid
  have hslot := (h.slots slot).2
  set active := (s.slots slot).activeCopy with hactive
  have hput := h.durable.put slot hslot hdec hgen
  have hcrash : geometry.WriteCrash P img (.event slot active.opposite) encoded :=
    ⟨hold _ h.durable, hnew _ hput, fun g hg =>
      hold _ (h.durable.torn slot hslot (by simpa [geometry] using hg))⟩
  set img' := Function.update img (.event slot active.opposite) (some encoded) with himg
  have hcommit : SlotHolds img' slot active.opposite record := by
    unfold SlotHolds
    rw [himg, Image.slotCells_update_event]
    exact Holds.commit hslot (decodeNodeRecordForSelection_eq_some.2 hdec) hgen
  -- the two copies are read back in the order active, target and selected in the order A, B
  have hsel := selectCopies_of_holds (readsRecord img' slot .A) (readsRecord img' slot .B) hcommit
  unfold Store.commitMutation
  simp only [henc]
  rw [← hactive]
  refine ensures_writeVerify noFaults_truthful hdec hcrash ?_ fun hw => absurd hw not_writesFail
  simp only [Bool.not_true, Bool.false_eq_true, if_false, ensures_readRecordCopy noFaults_truthful]
  refine ⟨hcrash.new, hcrash.new, ?_⟩
  have hswap : selectCopies NodeRecord.generation decodeNodeRecordForSelection
      (if active = .A then copyOf nodeRecordSize (img' (.event slot active))
        else copyOf nodeRecordSize (img' (.event slot active.opposite)))
      (if active = .A then copyOf nodeRecordSize (img' (.event slot active.opposite))
        else copyOf nodeRecordSize (img' (.event slot active))) =
      selectCopies NodeRecord.generation decodeNodeRecordForSelection
        (copyOf nodeRecordSize (img' (.event slot .A))) (copyOf nodeRecordSize (img' (.event slot .B))) := by
    cases active <;> simp [CopySlot.opposite]
  rw [hswap]
  obtain ⟨hauth, hrec, hslot'⟩ := hsel
  have haccept : s.acceptSelection (selectCopies NodeRecord.generation decodeNodeRecordForSelection
      (copyOf nodeRecordSize (img' (.event slot .A)))
      (copyOf nodeRecordSize (img' (.event slot .B)))).result = (s, true) := by
    unfold Store.acceptSelection
    split
    · rename_i he; rw [he] at hauth; cases hauth
    · split
      · rename_i he; rw [he] at hauth; cases hauth
      · rfl
  rw [haccept]
  simp only [hslot', hrec]
  simp only [Bool.not_true, ne_eq, not_true_eq_false, decide_false, Bool.or_self,
    Bool.false_eq_true, if_false, ensures_pure]
  refine hQ _ ⟨fun i => ?_, ⟨h.metadata.authoritative, ?_⟩⟩
  · by_cases hi : i = slot
    · subst hi
      simpa [Store.setSlot] using hcommit
    · have := h.slots i
      simp only [Store.setSlot, Function.update_of_ne hi]
      exact ⟨this.1, this.2.congr (Image.slotCells_update_event_ne img hi _ _)⟩
  · exact h.metadata.holds.congr (Image.metaCells_update_event img _ _ _)

/-- The allocator reports a failure; the end of the epochs is none. -/
@[simp] def EventIdentity.Status.Failed (status : EventIdentity.Status) : Prop :=
  status ≠ .ready ∧ status ≠ .epochExhausted

/-- The copy of the metadata that the next commit writes. -/
def Allocator.target (a : Allocator) : CopySlot :=
  if a.hasAuthoritativeMetadata then a.activeSlot.opposite else .A

/-- A commit of metadata, with the image written out; a failure leaves what a cut leaves. -/
theorem ensures_commitMetadata {allowed : Fault → Prop}
    {Q : Allocator × EventIdentity.Status → Image → Prop} {a : Allocator}
    {next : NodeMetadata} {encoded : Bytes} (henc : encodeNodeMetadata next = .ok encoded)
    (hcrash : geometry.WriteCrash P img (.metadata a.target) encoded)
    (hQ : Q ({ a with metadata := next, activeSlot := a.target
                      hasAuthoritativeMetadata := true } : Allocator).becomeReady
      (Function.update img (.metadata a.target) (some encoded)))
    (hfail : Fails allowed → ∀ status, status.Failed →
      geometry.WriteCrash (fun img' => Q (a.fail status) img') img (.metadata a.target) encoded) :
    geometry.EnsuresUnder allowed img (a.commitMetadata next) Q P := by
  have hdec := decodeNodeMetadata_encode henc
  have hlen := length_of_decodeNodeMetadata hdec
  have hwrite : WritesFail allowed → ∀ result, result ≠ StorageResult.ok → geometry.WriteCrash
      (fun img' => Q (a.fail (if result = .unavailable then .storageUnavailable else .storageFailure)) img')
      img (.metadata a.target) encoded := fun hw result hr =>
    hfail (Or.inl hw) _ (by split <;> simp)
  unfold Allocator.commitMetadata
  simp only [henc]
  rw [show (if a.hasAuthoritativeMetadata then a.activeSlot.opposite else CopySlot.A) = a.target from rfl]
  apply ensures_writeBlob_commit hcrash
  case hf =>
    simp only [reduceCtorEq, if_false]
    rfl
  case h =>
    simp only [reduceCtorEq, not_true_eq_false, if_false, ne_eq]
    refine ensures_readBlob_fails hcrash.new ?_ ?_
    · simp [Geometry.reply, geometry, hlen, hdec]
      exact hQ
    · intro result hr hallowed
      have hf := fun status hs => (hfail (Or.inr ⟨result, hr, hallowed⟩) status hs).new
      cases result with
      | ok => exact absurd rfl hr
      | missing => simpa using hf _ (by simp)
      | unavailable => simpa using hf _ (by simp)
      | error => simpa using hf _ (by simp)
  case hfail =>
    intro hw result hr
    have hsplit : ∀ {p : StorageM (Allocator × EventIdentity.Status)},
        (if result = .unavailable then pure (a.fail .storageUnavailable)
          else if result ≠ .ok then pure (a.fail .storageFailure) else p) =
        pure (a.fail (if result = .unavailable then .storageUnavailable else .storageFailure)) := by
      intro p
      by_cases hu : result = .unavailable
      · rw [if_pos hu, if_pos hu]
      · rw [if_neg hu, if_neg hu, if_pos hr]
    refine (hwrite hw result hr).mono fun img' hq => ⟨?_, ?_⟩
    · rw [hsplit, ensures_pure]
      exact hq
    · rw [hsplit, ensures_pure]
      exact hq
  case hsilent =>
    -- the read-back finds that the bytes are not there, or fails
    intro hw
    have hfails := geometry.writeCrash_forall fun status => geometry.writeCrash_forall (hfail (Or.inl hw) status)
    refine (hfails.and hcrash).mono fun img' hi hne => ?_
    obtain ⟨hi, hPi⟩ := hi
    simp only [reduceCtorEq, not_true_eq_false, if_false, ne_eq]
    refine ensures_readBlob_fails hPi ?_ fun result hr _ => ?_
    · cases hcell : img' (.metadata a.target) with
      | none => simpa [Geometry.reply] using hi .readBackMissing (by simp)
      | some b =>
        rw [hcell] at hne
        have hne : encoded ≠ b := fun he => hne (by rw [he])
        by_cases hb : b.length = nodeMetadataSize
        · cases hdec' : decodeNodeMetadata b with
          | error _ => simpa [Geometry.reply, geometry, hb, hdec'] using hi .readBackInvalid (by simp)
          | ok _ => simpa [Geometry.reply, geometry, hb, hdec', hne] using hi .readBackMismatch (by simp)
        · simpa [Geometry.reply, geometry, hb] using hi .readBackInvalid (by simp)
    · cases result with
      | ok => exact absurd rfl hr
      | missing => simpa using hi .readBackMissing (by simp)
      | unavailable => simpa using hi .storageUnavailable (by simp)
      | error => simpa using hi .readBackInvalid (by simp)

end Commits

end Redline.Node
