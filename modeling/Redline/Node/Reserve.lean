import Redline.Node.Index

/-!
# Allocation of identities

The cursor of a ready allocator (`Cursor`) and the least key it can still hand out
(`Allocator.floor`).  `ensures_allocate`: an allocation hands out `nextIdentity?`, which lies at or
above the floor, moves the floor past it, and reserves a block first when the old one is used up; a
cut leaves the old metadata or the new.
-/

namespace Redline.Records

/-- The first key that has not been reserved. -/
def NodeMetadata.floor (m : NodeMetadata) : ℕ := Node.key m.eventEpoch m.nextUnreservedEventId

end Redline.Records

namespace Redline.Node

open Redline.Wire Redline.Records Redline.Lib

/-- The least key the allocator can still hand out. -/
def Allocator.floor (a : Allocator) : ℕ := key a.metadata.eventEpoch a.nextVolatileId

/-- A ready allocator: its cursor stands inside the block that the metadata has reserved last. -/
structure Cursor (a : Allocator) : Prop where
  ready : a.ready = true
  highWater : validHighWater a.metadata.nextUnreservedEventId = true
  source : a.metadata.custodySourceDeviceId = a.sourceDeviceId
  stop : a.volatileEndExclusive = a.metadata.nextUnreservedEventId
  le : a.nextVolatileId.toNat ≤ a.volatileEndExclusive.toNat
  nonzero : a.nextVolatileId ≠ 0

/-- The identity the next allocation hands out, if the epochs are not used up. -/
def Allocator.nextIdentity? (a : Allocator) : Option Identity :=
  if a.nextVolatileId ≠ a.volatileEndExclusive then
    some ⟨a.sourceDeviceId, a.metadata.eventEpoch, a.nextVolatileId⟩
  else if a.metadata.nextUnreservedEventId > 0xFFFFFFFF - reservationBlockSize then
    if a.metadata.eventEpoch = 0xFFFFFFFF then none
    else some ⟨a.sourceDeviceId, a.metadata.eventEpoch + 1, 1⟩
  else some ⟨a.sourceDeviceId, a.metadata.eventEpoch, a.metadata.nextUnreservedEventId⟩

/-- The metadata with which the next allocation leaves the allocator: the one it has, the next block of the epoch, or
the first block of the next epoch. -/
def Allocator.reserved (a : Allocator) : NodeMetadata :=
  if a.nextVolatileId ≠ a.volatileEndExclusive then a.metadata
  else if a.metadata.nextUnreservedEventId > 0xFFFFFFFF - reservationBlockSize then
    ⟨a.metadata.generation + 1, a.metadata.custodySourceDeviceId, a.metadata.eventEpoch + 1, 1 + reservationBlockSize⟩
  else
    ⟨a.metadata.generation + 1, a.metadata.custodySourceDeviceId, a.metadata.eventEpoch,
      a.metadata.nextUnreservedEventId + reservationBlockSize⟩

/-- The metadata after a reservation: the same lineage, further on. -/
structure Reserves (m m' : NodeMetadata) : Prop where
  source : m'.custodySourceDeviceId = m.custodySourceDeviceId
  highWater : validHighWater m'.nextUnreservedEventId = true
  floor : m.floor ≤ m'.floor

/-- What an allocation of `identity` does to the allocator. -/
structure Granted (a a' : Allocator) (identity : Identity) : Prop where
  cursor : Cursor a'
  source : a'.sourceDeviceId = a.sourceDeviceId
  identitySource : identity.sourceDeviceId = a.sourceDeviceId
  nonzero : identity.epoch ≠ 0 ∧ identity.id ≠ 0
  le : a.floor ≤ key identity.epoch identity.id
  floor : a'.floor = key identity.epoch identity.id + 1
  reserves : Reserves a.metadata a'.metadata
  metadata : a'.metadata = a.reserved

theorem Reserves.refl {m : NodeMetadata} (h : validHighWater m.nextUnreservedEventId = true) :
    Reserves m m := ⟨rfl, h, le_rfl⟩

theorem Cursor.floor_le {a : Allocator} (h : Cursor a) : a.floor ≤ a.metadata.floor := by
  have hle := h.le
  rw [h.stop] at hle
  simp only [Allocator.floor, NodeMetadata.floor, key]
  omega

/-! ### High-water marks -/

theorem validHighWater_iff {value : UInt32} :
    validHighWater value = true ↔ value.toNat % 32 = 1 := by
  have hlt := value.toNat_lt
  simp only [validHighWater, reservationBlockSize, Bool.and_eq_true, bne_iff_ne, ne_eq, beq_iff_eq,
    ← UInt32.toNat_inj, UInt32.toNat_mod, UInt32.toNat_sub, UInt32.toNat_ofNat, Nat.reducePow,
    Nat.reduceMod, Nat.reduceSub]
  omega

theorem toNat_add_block {value : UInt32} (h : ¬ value > 0xFFFFFFFF - reservationBlockSize) :
    (value + reservationBlockSize).toNat = value.toNat + 32 := by
  have hle : value.toNat ≤ 4294967263 := by
    have := UInt32.not_lt.1 h
    exact UInt32.le_iff_toNat_le.1 this
  simp only [reservationBlockSize, UInt32.toNat_add, UInt32.toNat_ofNat]
  omega

theorem validHighWater_first : validHighWater (1 + reservationBlockSize) = true := by decide

theorem first_le_block : (1 + 1 : UInt32).toNat ≤ (1 + reservationBlockSize).toNat := by decide

/-! ### Taking an id -/

theorem Granted.take {a : Allocator} (h : Cursor a) (hepoch : a.metadata.eventEpoch ≠ 0)
    (hne : a.nextVolatileId ≠ a.volatileEndExclusive) :
    Granted a { a with nextVolatileId := a.nextVolatileId + 1 }
      ⟨a.sourceDeviceId, a.metadata.eventEpoch, a.nextVolatileId⟩ := by
  have hlt : a.nextVolatileId.toNat < a.volatileEndExclusive.toNat :=
    lt_of_le_of_ne h.le fun he => hne (UInt32.toNat_inj.1 he)
  have hend := a.volatileEndExclusive.toNat_lt
  have hsucc : (a.nextVolatileId + 1).toNat = a.nextVolatileId.toNat + 1 := by
    simp only [UInt32.toNat_add, UInt32.toNat_ofNat]
    omega
  refine ⟨⟨h.ready, h.highWater, h.source, h.stop, ?_, ?_⟩, rfl, rfl, ⟨hepoch, h.nonzero⟩, le_rfl, ?_,
    Reserves.refl h.highWater, ?_⟩
  · simp only [hsucc]
    omega
  · intro hz
    have : (a.nextVolatileId + 1).toNat = 0 := by rw [show a.nextVolatileId + 1 = 0 from hz]; rfl
    omega
  · simp only [Allocator.floor, key, hsucc]
    omega
  · rw [Allocator.reserved, if_pos hne]

/-! ### Allocation -/

variable {img : Image} {P : Image → Prop} {a : Allocator} {allowed : Fault → Prop}

/-- The commit of a reservation, from a mirrored allocator. -/
theorem ensures_reserve {Q : Allocator × EventIdentity.Status → Image → Prop} {next : NodeMetadata}
    (hm : MetaMirror a img) (hgen : next.generation = a.metadata.generation + 1)
    (hs : next.custodySourceDeviceId ≠ 0) (he : next.eventEpoch ≠ 0) (hn : next.nextUnreservedEventId ≠ 0)
    (hP : ∀ img', SameSlots img img' → MetaIs img' a.metadata ∨ MetaIs img' next → P img')
    (hQ : ∀ img', SameSlots img img' → MetaHolds img' a.activeSlot.opposite next →
      Q ({ a with metadata := next, activeSlot := a.activeSlot.opposite } : Allocator).becomeReady img')
    (hfail : Fails allowed → ∀ status, status.Failed → ∀ img', SameSlots img img' →
      MetaIs img' a.metadata ∨ MetaIs img' next → Q (a.fail status) img') :
    geometry.EnsuresUnder allowed img (a.commitMetadata next) Q P := by
  obtain ⟨encoded, henc, hdec⟩ := encodeNodeMetadata_of_nonzero hs he hn
  have htarget : a.target = a.activeSlot.opposite := if_pos hm.authoritative
  have hput : MetaHolds (Function.update img (.metadata a.activeSlot.opposite) (some encoded))
      a.activeSlot.opposite next := by
    unfold MetaHolds
    rw [Image.metaCells_update_metadata]
    exact Holds.commit hm.holds (decodeNodeMetadataForSelection_eq_some.2 hdec) hgen
  have htorn : ∀ g, geometry.undecodable (.metadata a.activeSlot.opposite) g = true →
      MetaHolds (Function.update img (.metadata a.activeSlot.opposite) (some g)) a.activeSlot a.metadata := by
    intro g hg
    unfold MetaHolds
    rw [Image.metaCells_update_metadata]
    exact Holds.torn hm.holds (by simpa [geometry] using hg)
  have hleft : ∀ R : Image → Prop, (∀ img', SameSlots img img' →
      MetaIs img' a.metadata ∨ MetaIs img' next → R img') →
      geometry.WriteCrash R img (.metadata a.target) encoded := by
    intro R hR
    rw [htarget]
    exact ⟨hR _ (SameSlots.refl img) (Or.inl ⟨_, hm.holds⟩),
      hR _ (sameSlots_update_metadata img _ _) (Or.inr ⟨_, hput⟩),
      fun g hg => hR _ (sameSlots_update_metadata img _ _) (Or.inl ⟨_, htorn g hg⟩)⟩
  have ha : ({ a with metadata := next, activeSlot := a.activeSlot.opposite
                      hasAuthoritativeMetadata := true } : Allocator) =
      { a with metadata := next, activeSlot := a.activeSlot.opposite } := by
    rw [← hm.authoritative]
  refine ensures_commitMetadata henc (hleft P hP) ?_ fun hf status hst => hleft _ (hfail hf status hst)
  rw [htarget, ha]
  exact hQ _ (sameSlots_update_metadata img _ _) hput

/-- The next block of the same epoch. -/
theorem reserves_block (hhw : validHighWater a.metadata.nextUnreservedEventId = true)
    (hlast : ¬ a.metadata.nextUnreservedEventId > 0xFFFFFFFF - reservationBlockSize) :
    Reserves a.metadata
      ⟨a.metadata.generation + 1, a.metadata.custodySourceDeviceId, a.metadata.eventEpoch,
        a.metadata.nextUnreservedEventId + reservationBlockSize⟩ := by
  have hblock := toNat_add_block hlast
  have hhw := validHighWater_iff.1 hhw
  refine ⟨rfl, validHighWater_iff.2 ?_, ?_⟩
  · rw [hblock]
    omega
  · simp only [NodeMetadata.floor, key, hblock]
    omega

theorem toNat_succ_epoch {epoch : UInt32} (h : epoch ≠ 0xFFFFFFFF) :
    (epoch + 1).toNat = epoch.toNat + 1 := by
  have hlt := epoch.toNat_lt
  have hne : epoch.toNat ≠ 4294967295 := fun e => h (UInt32.toNat_inj.1 e)
  simp only [UInt32.toNat_add, UInt32.toNat_ofNat]
  omega

/-- The first block of the next epoch. -/
theorem reserves_epoch (hexh : a.metadata.eventEpoch ≠ 0xFFFFFFFF) :
    Reserves a.metadata
      ⟨a.metadata.generation + 1, a.metadata.custodySourceDeviceId, a.metadata.eventEpoch + 1,
        1 + reservationBlockSize⟩ := by
  have hsucc := toNat_succ_epoch hexh
  have hnext := a.metadata.nextUnreservedEventId.toNat_lt
  refine ⟨rfl, validHighWater_first, ?_⟩
  simp only [NodeMetadata.floor, key, hsucc]
  omega

/-- The first id of the next epoch, when the last block of this one is used up. -/
theorem Granted.epoch {a a' : Allocator} (hc : Cursor a) (hend : a.nextVolatileId = a.volatileEndExclusive)
    (hlast : a.metadata.nextUnreservedEventId > 0xFFFFFFFF - reservationBlockSize)
    (hexh : a.metadata.eventEpoch ≠ 0xFFFFFFFF) (hready : a'.ready = true)
    (hmeta : a'.metadata = ⟨a.metadata.generation + 1, a.metadata.custodySourceDeviceId, a.metadata.eventEpoch + 1,
      1 + reservationBlockSize⟩)
    (hnext : a'.nextVolatileId = 1 + 1) (hstop : a'.volatileEndExclusive = 1 + reservationBlockSize)
    (hsource : a'.sourceDeviceId = a.sourceDeviceId) :
    Granted a a' ⟨a.sourceDeviceId, a.metadata.eventEpoch + 1, 1⟩ := by
  have hsucc := toNat_succ_epoch hexh
  have hepoch : a.metadata.eventEpoch + 1 ≠ 0 := fun hz => by
    have : (a.metadata.eventEpoch + 1).toNat = 0 := by rw [hz]; rfl
    omega
  have hlt := a.metadata.nextUnreservedEventId.toNat_lt
  have hres := reserves_epoch hexh
  rw [← hmeta] at hres
  refine ⟨⟨hready, hres.highWater, ?_, ?_, ?_, ?_⟩, hsource, rfl, ⟨hepoch, show (1 : UInt32) ≠ 0 by decide⟩, ?_, ?_, hres, ?_⟩
  · rw [hres.source, hc.source, hsource]
  · rw [hstop, hmeta]
  · rw [hnext, hstop]
    exact first_le_block
  · rw [hnext]
    decide
  · simp only [Allocator.floor, key, hend, hc.stop, hsucc]
    omega
  · simp only [Allocator.floor, hmeta, hnext]
    rfl
  · rw [hmeta, Allocator.reserved, if_neg (not_not.2 hend), if_pos hlast]

/-- The first id of the next block of the same epoch. -/
theorem Granted.block {a a' : Allocator} (hc : Cursor a) (hepoch : a.metadata.eventEpoch ≠ 0)
    (hend : a.nextVolatileId = a.volatileEndExclusive)
    (hlast : ¬ a.metadata.nextUnreservedEventId > 0xFFFFFFFF - reservationBlockSize) (hready : a'.ready = true)
    (hmeta : a'.metadata = ⟨a.metadata.generation + 1, a.metadata.custodySourceDeviceId, a.metadata.eventEpoch,
      a.metadata.nextUnreservedEventId + reservationBlockSize⟩)
    (hnext : a'.nextVolatileId = a.metadata.nextUnreservedEventId + 1)
    (hstop : a'.volatileEndExclusive = a.metadata.nextUnreservedEventId + reservationBlockSize)
    (hsource : a'.sourceDeviceId = a.sourceDeviceId) :
    Granted a a' ⟨a.sourceDeviceId, a.metadata.eventEpoch, a.metadata.nextUnreservedEventId⟩ := by
  have hblock := toNat_add_block hlast
  have hlt := (a.metadata.nextUnreservedEventId + reservationBlockSize).toNat_lt
  have hone : (a.metadata.nextUnreservedEventId + 1).toNat = a.metadata.nextUnreservedEventId.toNat + 1 := by
    simp only [UInt32.toNat_add, UInt32.toNat_ofNat]
    omega
  have hnonzero : a.metadata.nextUnreservedEventId ≠ 0 := by
    rw [← hc.stop, ← hend]
    exact hc.nonzero
  have hres := reserves_block hc.highWater hlast
  rw [← hmeta] at hres
  refine ⟨⟨hready, hres.highWater, ?_, ?_, ?_, ?_⟩, hsource, rfl, ⟨hepoch, hnonzero⟩, ?_, ?_, hres, ?_⟩
  · rw [hres.source, hc.source, hsource]
  · rw [hstop, hmeta]
  · rw [hnext, hstop, hone, hblock]
    omega
  · intro hz
    rw [hnext] at hz
    have : (a.metadata.nextUnreservedEventId + 1).toNat = 0 := by rw [hz]; rfl
    omega
  · simp only [Allocator.floor, hend, hc.stop]
    exact le_rfl
  · simp only [Allocator.floor, key, hmeta, hnext, hone]
    omega
  · rw [hmeta, Allocator.reserved, if_neg (not_not.2 hend), if_neg hlast]

/-- **Allocation.** It hands out `nextIdentity?`; a failure or a cut leaves the old metadata or the
reservation. -/
theorem ensures_allocate {Q : Allocator × AllocationResult → Image → Prop} (hc : Cursor a)
    (hm : MetaMirror a img)
    (hP : ∀ img' m', SameSlots img img' → MetaIs img' m' → Reserves a.metadata m' → P img')
    (hnone : a.nextIdentity? = none →
      Q ({ a with ready := false, status := .epochExhausted }, ⟨.epochExhausted, default⟩) img)
    (hQ : ∀ identity, a.nextIdentity? = some identity → ∀ a' img', Granted a a' identity →
      MetaMirror a' img' → SameSlots img img' → Q (a', ⟨.ready, identity⟩) img')
    (hfail : Fails allowed → ∀ status, status.Failed → ∀ img' m', SameSlots img img' → MetaIs img' m' →
      Reserves a.metadata m' → Q ({ a with ready := false, status }, ⟨status, default⟩) img') :
    geometry.EnsuresUnder allowed img a.allocate Q P := by
  obtain ⟨hsource, hepoch, hnext⟩ := hm.holds.nonzero
  have hrefl := Reserves.refl hc.highWater
  unfold Allocator.allocate
  simp only [hc.ready, Bool.not_true, Bool.false_eq_true, if_false]
  by_cases hend : a.nextVolatileId = a.volatileEndExclusive
  · -- the block is used up: reserve the next one
    rw [if_pos hend]
    unfold Allocator.reserveBlock
    by_cases hlast : a.metadata.nextUnreservedEventId > 0xFFFFFFFF - reservationBlockSize
    · by_cases hexh : a.metadata.eventEpoch = 0xFFFFFFFF
      · simp only [if_pos hlast, if_pos hexh, Prog.pure_bind', Allocator.fail]
        exact (ensures_pure).2 (hnone (by simp [Allocator.nextIdentity?, hend, hlast, hexh]))
      · have hnextId : a.nextIdentity? = some ⟨a.sourceDeviceId, a.metadata.eventEpoch + 1, 1⟩ := by
          simp [Allocator.nextIdentity?, hend, hlast, hexh]
        have hsucc := toNat_succ_epoch hexh
        have hepoch' : a.metadata.eventEpoch + 1 ≠ 0 := fun hz => by
          have : (a.metadata.eventEpoch + 1).toNat = 0 := by rw [hz]; rfl
          omega
        have hres := reserves_epoch hexh
        simp only [if_pos hlast, if_neg hexh, Prog.bind_assoc']
        refine ensures_bind (ensures_reserve hm rfl hsource hepoch'
          (show 1 + reservationBlockSize ≠ 0 by decide)
          (fun img' hsame h => h.elim (fun h => hP img' _ hsame h hrefl) fun h => hP img' _ hsame h hres) ?_ ?_)
        · intro img' hsame hmeta
          simp only [Allocator.becomeReady, ne_eq, not_true_eq_false, if_false, Prog.pure_bind',
            ensures_pure, Allocator.take]
          exact hQ _ hnextId _ img' (.epoch hc hend hlast hexh rfl rfl rfl rfl rfl) ⟨hm.authoritative, hmeta⟩ hsame
        · intro hf status hst img' hsame h
          simp only [Allocator.fail, ne_eq, hst.1, not_false_eq_true, if_true, Prog.pure_bind', ensures_pure]
          exact h.elim (fun h => hfail hf status hst img' _ hsame h hrefl)
            fun h => hfail hf status hst img' _ hsame h hres
    · have hnextId : a.nextIdentity? =
          some ⟨a.sourceDeviceId, a.metadata.eventEpoch, a.metadata.nextUnreservedEventId⟩ := by
        simp [Allocator.nextIdentity?, hend, hlast]
      have hblock := toNat_add_block hlast
      have hnext' : a.metadata.nextUnreservedEventId + reservationBlockSize ≠ 0 := fun hz => by
        have : (a.metadata.nextUnreservedEventId + reservationBlockSize).toNat = 0 := by rw [hz]; rfl
        omega
      have hres := reserves_block hc.highWater hlast
      simp only [if_neg hlast, Prog.bind_assoc']
      refine ensures_bind (ensures_reserve hm rfl hsource hepoch hnext'
        (fun img' hsame h => h.elim (fun h => hP img' _ hsame h hrefl) fun h => hP img' _ hsame h hres) ?_ ?_)
      · intro img' hsame hmeta
        simp only [Allocator.becomeReady, ne_eq, not_true_eq_false, if_false, Prog.pure_bind',
          ensures_pure, Allocator.take]
        exact hQ _ hnextId _ img' (.block hc hepoch hend hlast rfl rfl rfl rfl rfl) ⟨hm.authoritative, hmeta⟩ hsame
      · intro hf status hst img' hsame h
        simp only [Allocator.fail, ne_eq, hst.1, not_false_eq_true, if_true, Prog.pure_bind', ensures_pure]
        exact h.elim (fun h => hfail hf status hst img' _ hsame h hrefl)
          fun h => hfail hf status hst img' _ hsame h hres
  · rw [if_neg hend, ensures_pure]
    exact hQ _ (by simp [Allocator.nextIdentity?, hend]) _ img (Granted.take hc hepoch hend)
      ⟨hm.authoritative, hm.holds⟩ (SameSlots.refl img)

end Redline.Node
