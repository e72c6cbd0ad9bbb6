import Redline.DeviceSettings.Selection
import Redline.Records.Canonical

/-!
# The calls of the manager on a store that may fail

One specification for each call, for every pattern of failures and wherever power is cut.  A load changes nothing
while no reset is pending: it has failed, or it has selected between two records, each of them the one that is stored
or one that cannot be used (`ensures_load`).  A save writes at most its target, and succeeds only if its record has
been read back (`ensures_save`).  A reset ends in one storage, and until then its marker is pending, as long as nothing
is reported missing that is stored (`ensures_completeVerifiedReset`).
-/

namespace Redline.DeviceSettings

open Redline.Wire Redline.Records Redline.Lib SettingsManager

/-- On a store whose calls may meet the allowed faults, the program returns with `Q`, and `C` holds in front of each of
its calls. -/
abbrev Ensures {α : Type} (allowed : Fault → Prop) (st : Storage) (p : StoreM α) (Q : α → Storage → Prop)
    (C : Storage → Prop) : Prop :=
  Always Storage.meets .none allowed Q C p st

/-- What is reported missing is missing. -/
def Finds (allowed : Fault → Prop) : Prop := ∀ f, allowed f → f.misses = false

/-- What is reported missing or malformed is so. -/
def Truthful (allowed : Fault → Prop) : Prop := ∀ f, allowed f → f.misreports = false

theorem Truthful.finds {allowed : Fault → Prop} (h : Truthful allowed) : Finds allowed := by
  intro f hf
  have hreports := h f hf
  cases f with
  | read result bytes pending =>
    cases result with
    | missing => cases hreports
    | _ => rfl
  | _ => rfl

/-- What a failed or interrupted call may leave in a slot. -/
def Leaves (before after content : Option Bytes) : Prop :=
  content = before ∨ content = after ∨ content = none ∨
    ∃ bytes, content = some bytes ∧ (decodeRecordWithRepair bytes).isOk = false

theorem leaves_leave (left : Left) (before after : Option Bytes) : Leaves before after (left.leave before after) := by
  cases left with
  | old => exact Or.inl rfl
  | new => exact Or.inr (Or.inl rfl)
  | missing => exact Or.inr (Or.inr (Or.inl rfl))
  | garbage bytes =>
    dsimp only [Left.leave]
    split
    · exact Or.inl rfl
    · rename_i hbad
      exact Or.inr (Or.inr (Or.inr ⟨bytes, rfl, Bool.not_eq_true _ ▸ hbad⟩))

@[simp] theorem setSlot_slots (st : Storage) (slot : RecordSlot) (content : Option Bytes) :
    (st.setSlot slot content).slots = Function.update st.slots slot content := rfl

@[simp] theorem setSlot_marker (st : Storage) (slot : RecordSlot) (content : Option Bytes) :
    (st.setSlot slot content).marker = st.marker := rfl

section Primitives

variable {α : Type} {allowed : Fault → Prop} {st : Storage} {Q : α → Storage → Prop} {C : Storage → Prop}

/-- A read answers what is stored, or anything but OK. -/
theorem ensures_readSlot {slot : RecordSlot} {f : SlotReply → StoreM α} (hC : C st)
    (h : Ensures allowed st (f (slotReply (st.slots slot))) Q C)
    (hfail : ∀ result bytes pending, allowed (.read result bytes pending) → result ≠ .ok →
      Ensures allowed st (f ⟨result, bytes⟩) Q C) :
    Ensures allowed st (readSlot slot >>= f) Q C := by
  refine always_call hC h fun fault hfault => ?_
  cases fault with
  | none => exact h
  | write result left => exact h
  | read result bytes pending =>
    change Ensures allowed st (f (if result = .ok then slotReply (st.slots slot) else ⟨result, bytes⟩)) Q C
    split
    · exact h
    · exact hfail result bytes pending hfault ‹_›

theorem ensures_readResetMarker {f : MarkerReply → StoreM α} (hC : C st)
    (h : Ensures allowed st (f (markerReply st.marker)) Q C)
    (hfail : ∀ result bytes pending, allowed (.read result bytes pending) → result ≠ .ok →
      Ensures allowed st (f ⟨result, pending⟩) Q C) :
    Ensures allowed st (readResetMarker >>= f) Q C := by
  refine always_call hC h fun fault hfault => ?_
  cases fault with
  | none => exact h
  | write result left => exact h
  | read result bytes pending =>
    change Ensures allowed st (f (if result = .ok then markerReply st.marker else ⟨result, pending⟩)) Q C
    split
    · exact h
    · exact hfail result bytes pending hfault ‹_›

/-- A write answers anything, whatever it leaves. -/
theorem ensures_writeSlot {slot : RecordSlot} {bytes : Bytes} {f : StoreResult → StoreM α} (hC : C st)
    (h : ∀ result content, Leaves (st.slots slot) (some bytes) content →
      Ensures allowed (st.setSlot slot content) (f result) Q C) :
    Ensures allowed st (writeSlot slot bytes >>= f) Q C := by
  have hworks : Ensures allowed (st.setSlot slot (some bytes)) (f .ok) Q C := h _ _ (Or.inr (Or.inl rfl))
  refine always_call hC hworks fun fault _ => ?_
  cases fault with
  | none => exact hworks
  | read result bytes pending => exact hworks
  | write result left => exact h result _ (leaves_leave left _ _)

theorem ensures_removeSlot {slot : RecordSlot} {f : StoreResult → StoreM α} (hC : C st)
    (h : ∀ result content, Leaves (st.slots slot) none content →
      Ensures allowed (st.setSlot slot content) (f result) Q C) :
    Ensures allowed st (removeSlot slot >>= f) Q C := by
  have hworks : Ensures allowed (st.setSlot slot none) (f (removeReply (st.slots slot))) Q C :=
    h _ _ (Or.inr (Or.inl rfl))
  refine always_call hC hworks fun fault _ => ?_
  cases fault with
  | none => exact hworks
  | read result bytes pending => exact hworks
  | write result left => exact h result _ (leaves_leave left _ _)

theorem leaveMarker_cases (left : Left) (before after : Marker) :
    left.leaveMarker before after = before ∨ left.leaveMarker before after = after := by
  cases left with
  | new => exact Or.inr rfl
  | _ => exact Or.inl rfl

/-- A call on the marker changes it or not, whatever it answers. -/
theorem ensures_writeResetMarker {f : StoreResult → StoreM α} (hC : C st)
    (h : ∀ result marker, marker = st.marker ∨ marker = .pending →
      Ensures allowed { st with marker } (f result) Q C) :
    Ensures allowed st (writeResetMarker true >>= f) Q C := by
  have hworks : Ensures allowed { st with marker := .pending } (f .ok) Q C := h _ _ (Or.inr rfl)
  refine always_call hC hworks fun fault _ => ?_
  cases fault with
  | none => exact hworks
  | read result bytes pending => exact hworks
  | write result left => exact h result _ (leaveMarker_cases left _ _)

theorem ensures_removeResetMarker {f : StoreResult → StoreM α} (hC : C st)
    (h : ∀ result marker, marker = st.marker ∨ marker = .missing →
      Ensures allowed { st with marker } (f result) Q C) :
    Ensures allowed st (removeResetMarker >>= f) Q C := by
  have hworks : Ensures allowed { st with marker := .missing }
      (f (if st.marker = .missing then .missing else .ok)) Q C := h _ _ (Or.inr rfl)
  refine always_call hC hworks fun fault _ => ?_
  cases fault with
  | none => exact hworks
  | read result bytes pending => exact hworks
  | write result left => exact h result _ (leaveMarker_cases left _ _)

end Primitives

/-! ### What is read back -/

theorem slotReply_ok {content : Option Bytes} (h : (slotReply content).result = .ok) :
    ∃ bytes, content = some bytes ∧ slotReply content = ⟨.ok, bytes⟩ := by
  unfold slotReply at h ⊢
  cases content with
  | none => cases h
  | some bytes =>
    dsimp only at h ⊢
    split at h
    · cases h
    · rename_i hlen
      exact ⟨bytes, rfl, if_neg hlen⟩

theorem slotReply_missing {content : Option Bytes} (h : (slotReply content).result = .missing) : content = none := by
  unfold slotReply at h
  cases content with
  | none => rfl
  | some bytes =>
    dsimp only at h
    split at h <;> cases h

theorem markerReply_missing {marker : Marker} (h : (markerReply marker).result = .missing) : marker = .missing := by
  cases marker with
  | missing => rfl
  | _ => cases h

theorem markerReply_pending {marker : Marker}
    (h : ¬ ((markerReply marker).result ≠ .ok ∨ (!(markerReply marker).pending) = true)) : marker = .pending := by
  cases marker with
  | pending => rfl
  | _ => simp [markerReply] at h

theorem verifies_iff {reply : SlotReply} {settings : Settings} {generation : UInt32} :
    verifies reply settings generation = true ↔ decodeRecord reply.bytes = .ok (settings, generation) := by
  unfold verifies
  constructor
  · intro h
    split at h
    · rename_i verified verifiedGeneration hdec
      obtain ⟨rfl, rfl⟩ : verifiedGeneration = generation ∧ verified = settings := by simpa using h
      exact hdec
    · cases h
  · intro h
    simp [h]

theorem verifies_encoded {settings : Settings} {generation : UInt32} {bytes : Bytes}
    (h : encodeRecord settings generation = .ok bytes) :
    verifies (slotReply (some bytes)) settings generation = true := by
  rw [slotReply, if_neg (not_not.2 (length_of_encodeRecord h)), verifies_iff]
  exact decodeRecord_encodeRecord h

/-- A slot that reads back as a record has the bytes of the record, whatever has been answered to the write. -/
theorem stored_of_verifies {content : Option Bytes} {settings : Settings} {generation : UInt32} {bytes : Bytes}
    (henc : encodeRecord settings generation = .ok bytes) (hok : (slotReply content).result = .ok)
    (hverified : verifies (slotReply content) settings generation = true) : content = some bytes := by
  obtain ⟨stored, rfl, hreply⟩ := slotReply_ok hok
  rw [hreply, verifies_iff] at hverified
  have hsame := encodeRecord_decodeRecord hverified
  rw [henc, Except.ok.injEq] at hsame
  rw [hsame]

/-! ### Reset -/

section Reset

variable {allowed : Fault → Prop} {finds : Prop} {st : Storage} {m : SettingsManager}

/-- The bytes of the default record. -/
def defaultBytes : Bytes := recordBytes defaults 1 ++ writeUint32Le (crc32IsoHdlc (recordBytes defaults 1))

theorem encodeRecord_defaults : encodeRecord defaults 1 = .ok defaultBytes := encodeRecord_of_valid isValid_defaults 1

/-- The storage after a factory reset. -/
def resetStorage : Storage where
  slots
    | .A => some defaultBytes
    | .B => none
  marker := .missing

/-- The manager after a factory reset. -/
def SettingsManager.afterReset (m : SettingsManager) : SettingsManager :=
  { m with settings := defaults, generation := 1, activeSlot := .A, hasActiveSlot := true, repairPending := false
           unsupportedSlotA := false, unsupportedSlotB := false }

/-- A reset is under way, or it has been completed. -/
def Resetting (st : Storage) : Prop := st.marker = .pending ∨ st = resetStorage

/-- The store is as it was, or a reset that was pending has gone on. -/
def Resumed (finds : Prop) (st st' : Storage) : Prop := st' = st ∨ st.marker = .pending ∧ (finds → Resetting st')

theorem Resumed.eq {st' : Storage} (h : Resumed finds st st') (hst : st.marker ≠ .pending) : st' = st :=
  h.resolve_right fun hc => hst hc.1

theorem Resumed.resetting {st' : Storage} (h : Resumed finds st st') (hfinds : finds) (hst : Resetting st) :
    Resetting st' := by
  rcases h with rfl | ⟨-, hr⟩
  · exact hst
  · exact hr hfinds

/-- How a reset ends; what it leaves is known if what is reported missing is missing. -/
structure ResetEnds (finds : Prop) (m : SettingsManager) (r : SettingsManager × ResetResult) (st : Storage) : Prop where
  resetting : finds → Resetting st
  completed : r.2 = .resetCompleted → r.1 = m.afterReset ∧ (finds → st = resetStorage)
  failed : r.2 ≠ .resetCompleted → r.1 = m
  started : r.2 ≠ .resetNotPending

theorem ResetEnds.of_failed {result : ResetResult} (h : finds → Resetting st) (hne : result ≠ .resetCompleted)
    (hne' : result ≠ .resetNotPending) : ResetEnds finds m (m, result) st :=
  ⟨h, fun hc => absurd hc hne, fun _ => rfl, hne'⟩

theorem resetStorage_eq (hA : st.slots .A = some defaultBytes) (hB : st.slots .B = none) :
    { st with marker := .missing } = resetStorage := by
  have hslots : st.slots = resetStorage.slots := by
    funext slot
    cases slot with
    | A => exact hA
    | B => exact hB
  rw [resetStorage] at hslots ⊢
  rw [hslots]

/-- A removal is taken for done when the slot reads as missing. -/
theorem ensures_removeAndVerifySlot (slot : RecordSlot) {Q : ResetResult → Storage → Prop} {C : Storage → Prop}
    (hst : st.marker = .pending) (hC : ∀ st' : Storage, st'.marker = .pending → C st')
    (hdone : ∀ st' : Storage, st'.marker = .pending → (Finds allowed → st'.slots slot = none) → Q .resetCompleted st')
    (hfail : ∀ result st', st'.marker = .pending → result ≠ .resetCompleted → result ≠ .resetNotPending →
      Q result st') : Ensures allowed st (removeAndVerifySlot slot) Q C := by
  refine ensures_removeSlot (hC _ hst) fun removed content _ => ?_
  have hst' : (st.setSlot slot content).marker = .pending := hst
  have hfails : ∀ result, result ≠ .resetCompleted → result ≠ .resetNotPending →
      Ensures allowed (st.setSlot slot content) (pure result) Q C :=
    fun result hne hne' => always_pure.2 (hfail result _ hst' hne hne')
  split
  · exact hfails _ ResetResult.noConfusion ResetResult.noConfusion
  split
  · exact hfails _ ResetResult.noConfusion ResetResult.noConfusion
  refine ensures_readSlot (hC _ hst') ?_ fun result bytes pending hallowed _ => ?_
  · rw [setSlot_slots, Function.update_self]
    split
    · exact hfails _ ResetResult.noConfusion ResetResult.noConfusion
    split
    · rename_i hmissing
      refine always_pure.2 (hdone _ hst' fun _ => ?_)
      rw [setSlot_slots, Function.update_self]
      exact slotReply_missing hmissing
    · exact hfails _ ResetResult.noConfusion ResetResult.noConfusion
  · dsimp only
    split
    · exact hfails _ ResetResult.noConfusion ResetResult.noConfusion
    split
    · rename_i hmissing
      subst hmissing
      exact always_pure.2 (hdone _ hst' fun hfinds => Bool.noConfusion (hfinds _ hallowed))
    · exact hfails _ ResetResult.noConfusion ResetResult.noConfusion

/-- **A reset that is under way ends in one storage**, or stays under way. -/
theorem ensures_completeVerifiedReset (hst : st.marker = .pending) :
    Ensures allowed st m.completeVerifiedReset (ResetEnds (Finds allowed) m)
      (fun st' => Finds allowed → Resetting st') := by
  have hpending : ∀ st' : Storage, st'.marker = .pending → Finds allowed → Resetting st' := fun st' h _ => Or.inl h
  have hfails : ∀ {result : ResetResult} {st' : Storage}, st'.marker = .pending → result ≠ .resetCompleted →
      result ≠ .resetNotPending → Ensures allowed st' (pure (m, result)) (ResetEnds (Finds allowed) m)
        (fun st' => Finds allowed → Resetting st') :=
    fun h hne hne' => always_pure.2 (.of_failed (hpending _ h) hne hne')
  unfold completeVerifiedReset
  refine always_bind (ensures_removeAndVerifySlot .A hst hpending (fun stA hA _ => ?_) fun result stA hA hne hne' => ?_)
  swap
  · rw [if_pos hne]
    exact hfails hA hne hne'
  rw [if_neg (not_not.2 rfl)]
  refine always_bind (ensures_removeAndVerifySlot .B hA hpending (fun stB hB hnoneB => ?_)
    fun result stB hB hne hne' => ?_)
  swap
  · rw [if_pos hne]
    exact hfails hB hne hne'
  rw [if_neg (not_not.2 rfl), encodeRecord_defaults]
  refine ensures_writeSlot (hpending _ hB) fun written content _ => ?_
  have hst' : (stB.setSlot .A content).marker = .pending := hB
  split
  · exact hfails hst' ResetResult.noConfusion ResetResult.noConfusion
  split
  · exact hfails hst' ResetResult.noConfusion ResetResult.noConfusion
  refine ensures_readSlot (hpending _ hst') ?_ fun result bytes pending _ hne => ?_
  swap
  · split
    · exact hfails hst' ResetResult.noConfusion ResetResult.noConfusion
    · rw [if_pos (Or.inl hne)]
      exact hfails hst' ResetResult.noConfusion ResetResult.noConfusion
  split
  · exact hfails hst' ResetResult.noConfusion ResetResult.noConfusion
  split
  · exact hfails hst' ResetResult.noConfusion ResetResult.noConfusion
  rename_i hread
  rw [not_or, not_not, Bool.not_eq_true', Bool.not_eq_false] at hread
  -- both slots are as they are to be
  have hdone : Finds allowed → { stB.setSlot .A content with marker := .missing } = resetStorage := by
    intro hfinds
    refine resetStorage_eq ?_ ?_
    · rw [setSlot_slots, Function.update_self] at hread ⊢
      exact stored_of_verifies encodeRecord_defaults hread.1 hread.2
    · rw [setSlot_slots, Function.update_of_ne RecordSlot.noConfusion]
      exact hnoneB hfinds
  refine ensures_removeResetMarker (hpending _ hst') fun removed marker hmarker => ?_
  have hres : Finds allowed → Resetting { stB.setSlot .A content with marker } := by
    intro hfinds
    rcases hmarker with rfl | rfl
    · exact Or.inl hst'
    · exact Or.inr (hdone hfinds)
  have hleft : ∀ {result : ResetResult}, result ≠ .resetCompleted → result ≠ .resetNotPending →
      Ensures allowed { stB.setSlot .A content with marker } (pure (m, result)) (ResetEnds (Finds allowed) m)
        (fun st' => Finds allowed → Resetting st') :=
    fun hne hne' => always_pure.2 (.of_failed hres hne hne')
  split
  · exact hleft ResetResult.noConfusion ResetResult.noConfusion
  split
  · exact hleft ResetResult.noConfusion ResetResult.noConfusion
  refine ensures_readResetMarker hres ?_ fun result bytes pending hallowed _ => ?_
  · split
    · exact hleft ResetResult.noConfusion ResetResult.noConfusion
    split
    · exact hleft ResetResult.noConfusion ResetResult.noConfusion
    rename_i hmissing
    obtain rfl : marker = .missing := markerReply_missing (not_not.1 hmissing)
    exact always_pure.2 ⟨hres, fun _ => ⟨rfl, hdone⟩, fun hne => absurd rfl hne, ResetResult.noConfusion⟩
  · split
    · exact hleft ResetResult.noConfusion ResetResult.noConfusion
    split
    · exact hleft ResetResult.noConfusion ResetResult.noConfusion
    rename_i hmissing
    obtain rfl : result = .missing := not_not.1 hmissing
    have hnever : ¬ Finds allowed := fun hfinds => Bool.noConfusion (hfinds _ hallowed)
    exact always_pure.2
      ⟨hres, fun _ => ⟨rfl, fun hfinds => absurd hfinds hnever⟩, fun hne => absurd rfl hne, ResetResult.noConfusion⟩

/-- How a factory reset ends, and what it leaves. -/
inductive ResetDone (finds : Prop) (m : SettingsManager) (left : Storage → Prop) :
    SettingsManager × ResetResult → Storage → Prop
  | completed {st : Storage} (hdone : finds → st = resetStorage) (hst : left st) :
      ResetDone finds m left ({ m.afterReset with lastResetResult := .resetCompleted }, .resetCompleted) st
  | failed {result : ResetResult} {st : Storage} (hresult : result ≠ .resetCompleted) (hst : left st) :
      ResetDone finds m left ({ m with lastResetResult := result }, result) st

theorem ResetDone.left {left : Storage → Prop} {r : SettingsManager × ResetResult} (h : ResetDone finds m left r st) :
    left st := by
  cases h with
  | completed _ hst => exact hst
  | failed _ hst => exact hst

/-- The report of a reset that has been pending. -/
theorem ResetEnds.reported {r : SettingsManager × ResetResult} {st' : Storage} (h : ResetEnds finds m r st')
    (hst : st.marker = .pending) : ResetDone finds m (Resumed finds st) (reports r) st' := by
  obtain ⟨m', result⟩ := r
  by_cases hcompleted : result = .resetCompleted
  · obtain ⟨hm, hdone⟩ := h.completed hcompleted
    dsimp only at hm
    subst hm hcompleted
    exact .completed hdone (Or.inr ⟨hst, h.resetting⟩)
  · obtain rfl : m' = m := h.failed hcompleted
    exact .failed hcompleted (Or.inr ⟨hst, h.resetting⟩)

/-- The reset after the write of its marker. -/
def SettingsManager.afterMarker (m : SettingsManager) (written : StoreResult) :
    StoreM (SettingsManager × ResetResult) := do
  if written = .unavailable then return reports (m, .storageUnavailable)
  if written ≠ .ok then return reports (m, .markerWriteFailed)
  let marker ← readResetMarker
  if marker.result = .unavailable then return reports (m, .storageUnavailable)
  if marker.result ≠ .ok ∨ !marker.pending then return reports (m, .markerVerifyFailed)
  let r ← m.completeVerifiedReset
  return reports r

theorem factoryReset_eq (m : SettingsManager) : m.factoryReset = writeResetMarker true >>= m.afterMarker := rfl

/-- A reset goes on only if its marker reads as pending, whatever has been answered to the write. -/
theorem ensures_afterMarker (st : Storage) (m : SettingsManager) (written : StoreResult) :
    Ensures allowed st (m.afterMarker written) (ResetDone (Finds allowed) m (Resumed (Finds allowed) st))
      (Resumed (Finds allowed) st) := by
  have hfails : ∀ {result : ResetResult}, result ≠ .resetCompleted →
      Ensures allowed st (pure (reports (m, result))) (ResetDone (Finds allowed) m (Resumed (Finds allowed) st))
        (Resumed (Finds allowed) st) :=
    fun hne => always_pure.2 (.failed hne (Or.inl rfl))
  unfold afterMarker
  split
  · exact hfails ResetResult.noConfusion
  split
  · exact hfails ResetResult.noConfusion
  refine ensures_readResetMarker (Or.inl rfl) ?_ fun result bytes pending _ hne => ?_
  · split
    · exact hfails ResetResult.noConfusion
    split
    · exact hfails ResetResult.noConfusion
    rename_i hread
    have hst : st.marker = .pending := markerReply_pending hread
    refine always_bind (always_mono (fun r st' hr => ?_) (fun _ h => Or.inr ⟨hst, h⟩)
      (ensures_completeVerifiedReset hst))
    exact always_pure.2 (hr.reported hst)
  · split
    · exact hfails ResetResult.noConfusion
    · rw [if_pos (Or.inl hne)]
      exact hfails ResetResult.noConfusion

/-- **A factory reset.** -/
theorem ensures_factoryReset (st : Storage) (m : SettingsManager) :
    Ensures allowed st m.factoryReset
      (ResetDone (Finds allowed) m fun st' => st' = st ∨ (Finds allowed → Resetting st'))
      (fun st' => st' = st ∨ (Finds allowed → Resetting st')) := by
  rw [factoryReset_eq]
  refine ensures_writeResetMarker (Or.inl rfl) fun written marker hmarker => ?_
  have hleft : ∀ st', Resumed (Finds allowed) { st with marker } st' → st' = st ∨ (Finds allowed → Resetting st') := by
    rintro st' (rfl | ⟨-, h⟩)
    · rcases hmarker with rfl | rfl
      · exact Or.inl rfl
      · exact Or.inr fun _ => Or.inl rfl
    · exact Or.inr h
  refine always_mono (fun r st' hr => ?_) hleft (ensures_afterMarker { st with marker } m written)
  cases hr with
  | completed hdone hst => exact .completed hdone (hleft _ hst)
  | failed hresult hst => exact .failed hresult (hleft _ hst)

/-- A recovery leaves the store alone unless a reset is pending. -/
theorem ensures_recoverPendingReset (st : Storage) (m : SettingsManager) :
    Ensures allowed st m.recoverPendingReset (fun _ => Resumed (Finds allowed) st) (Resumed (Finds allowed) st) := by
  unfold recoverPendingReset
  refine ensures_readResetMarker (Or.inl rfl) ?_ fun result bytes pending _ hne => ?_
  · split
    · exact always_pure.2 (Or.inl rfl)
    rename_i hnot
    split
    · exact always_pure.2 (Or.inl rfl)
    split
    · exact always_pure.2 (Or.inl rfl)
    rename_i hok
    have hst : st.marker = .pending := by
      cases hm : st.marker <;> simp_all [markerReply]
    refine always_bind (always_mono (fun r st' hr => ?_) (fun _ h => Or.inr ⟨hst, h⟩)
      (ensures_completeVerifiedReset hst))
    exact always_pure.2 (Or.inr ⟨hst, hr.resetting⟩)
  · split
    · exact always_pure.2 (Or.inl rfl)
    split
    · exact always_pure.2 (Or.inl rfl)
    · exact always_pure.2 (Or.inl rfl)

end Reset

/-! ### Load -/

section Load

variable {allowed : Fault → Prop} {st : Storage} {slot : RecordSlot} {record : SlotRecord}

/-- No factory reset is pending. -/
def Storage.Calm (st : Storage) : Prop := st.marker = .missing ∨ st.marker = .clear

/-- The load has not got through to both slots. -/
def LoadStatus.failed (status : LoadStatus) : Bool := status = .storageUnavailable ∨ status = .resetRecoveryFailed

/-- A manager that has nothing but the result of the last reset. -/
def Uninformed (m : SettingsManager) : Prop := ∃ result, m = { initial with lastResetResult := result }

/-- What a load may take for the record of a slot: the record, or what it makes of an answer other than OK. -/
def Seen (allowed : Fault → Prop) (st : Storage) (slot : RecordSlot) (record : SlotRecord) : Prop :=
  record = st.record slot ∨ ∃ result bytes pending, allowed (.read result bytes pending) ∧ result ≠ .ok ∧
    record = classify ⟨result, bytes⟩

theorem classify_not_ok {result : StoreResult} (h : result ≠ .ok) (bytes : Bytes) :
    isUsable (classify ⟨result, bytes⟩) = false := by
  cases result with
  | ok => exact absurd rfl h
  | _ => rfl

/-- What can be used is what is stored. -/
theorem Seen.usable (h : Seen allowed st slot record) (hu : isUsable record = true) : record = st.record slot := by
  rcases h with rfl | ⟨result, bytes, pending, -, hne, rfl⟩
  · rfl
  · rw [classify_not_ok hne] at hu
    cases hu

theorem Seen.eq_of_bytes {slot' : RecordSlot} {record' : SlotRecord} (h : Seen allowed st slot record)
    (h' : Seen allowed st slot' record') (hu : isUsable record = true) (hu' : isUsable record' = true)
    (hbytes : record.bytes = record'.bytes) : record = record' := by
  obtain rfl := h.usable hu
  obtain rfl := h'.usable hu'
  exact record_eq_of_bytes hu hu' hbytes

theorem selectSlots_unavailable {m : SettingsManager} {a b : SlotRecord}
    (h : a.kind = .unavailable ∨ b.kind = .unavailable) : m.selectSlots a b = (m, .storageUnavailable) := by
  unfold selectSlots
  rw [if_pos h]

theorem Seen.truthful (h : Seen allowed st slot record) (htruthful : Truthful allowed) :
    record = st.record slot ∨ record.kind = .unavailable := by
  rcases h with rfl | ⟨result, bytes, pending, hallowed, hne, rfl⟩
  · exact Or.inl rfl
  · have hreports := htruthful _ hallowed
    cases result with
    | ok => exact absurd rfl hne
    | missing => cases hreports
    | malformed => cases hreports
    | unavailable => exact Or.inr rfl
    | error => exact Or.inr rfl

/-- A selection between records that are not misreported. -/
theorem Truthful.selected {a b : SlotRecord} (htruthful : Truthful allowed) (ha : Seen allowed st .A a)
    (hb : Seen allowed st .B b) :
    initial.selectSlots a b = initial.selectSlots (st.record .A) (st.record .B) ∨
      initial.selectSlots a b = (initial, .storageUnavailable) := by
  rcases ha.truthful htruthful with rfl | hno
  · rcases hb.truthful htruthful with rfl | hno
    · exact Or.inl rfl
    · exact Or.inr (selectSlots_unavailable (Or.inr hno))
  · exact Or.inr (selectSlots_unavailable (Or.inl hno))

/-- **How a load ends**: it has failed and the manager is a new one; it has selected between two records; or it has
completed a reset. -/
inductive Loaded (allowed : Fault → Prop) (st : Storage) : SettingsManager × LoadStatus → Storage → Prop
  | failed {m : SettingsManager} {status : LoadStatus} {st' : Storage} (hstatus : status.failed = true)
      (hm : Uninformed m) (hst : Resumed (Finds allowed) st st') : Loaded allowed st (m, status) st'
  | selected {a b : SlotRecord} (hst : Finds allowed → st.Calm) (ha : Seen allowed st .A a)
      (hb : Seen allowed st .B b) : Loaded allowed st (initial.selectSlots a b) st
  | reset {st' : Storage} (hst : st.marker = .pending) (hdone : Finds allowed → st' = resetStorage) :
      Loaded allowed st ({ initial.afterReset with lastResetResult := .resetCompleted }, .resetCompleted) st'

theorem Loaded.resumed {r : SettingsManager × LoadStatus} {st' : Storage} (h : Loaded allowed st r st') :
    Resumed (Finds allowed) st st' := by
  cases h with
  | failed _ _ hst => exact hst
  | selected _ _ _ => exact Or.inl rfl
  | reset hst hdone => exact Or.inr ⟨hst, fun hfinds => Or.inr (hdone hfinds)⟩

/-- Both slots are read, and one is selected. -/
theorem ensures_readSlots (hst : Finds allowed → st.Calm) : Ensures allowed st (do
      let slotA ← readAndClassify .A
      let slotB ← readAndClassify .B
      return initial.selectSlots slotA slotB) (Loaded allowed st) (Resumed (Finds allowed) st) := by
  have hB : ∀ {a : SlotRecord}, Seen allowed st .A a → Ensures allowed st (do
      let reply ← readSlot .B
      return initial.selectSlots a (classify reply)) (Loaded allowed st) (Resumed (Finds allowed) st) := by
    intro a ha
    refine ensures_readSlot (Or.inl rfl) (always_pure.2 (.selected hst ha (Or.inl rfl))) ?_
    intro result bytes pending hallowed hne
    exact always_pure.2 (.selected hst ha (Or.inr ⟨result, bytes, pending, hallowed, hne, rfl⟩))
  unfold readAndClassify
  simp only [Prog.bind_assoc', Prog.pure_bind']
  refine ensures_readSlot (Or.inl rfl) (hB (Or.inl rfl)) fun result bytes pending hallowed hne => ?_
  exact hB (Or.inr ⟨result, bytes, pending, hallowed, hne, rfl⟩)

/-- **A load.** -/
theorem ensures_load (st : Storage) :
    Ensures allowed st load (Loaded allowed st) (Resumed (Finds allowed) st) := by
  have hfails : ∀ {result : ResetResult} {status : LoadStatus}, status.failed = true →
      Ensures allowed st (pure ({ initial with lastResetResult := result }, status)) (Loaded allowed st)
        (Resumed (Finds allowed) st) :=
    fun hstatus => always_pure.2 (.failed hstatus ⟨_, rfl⟩ (Or.inl rfl))
  unfold load recoverPendingReset
  simp only [Prog.bind_assoc']
  refine ensures_readResetMarker (Or.inl rfl) ?_ fun result bytes pending hallowed hne => ?_
  swap
  · cases result with
    | ok => exact absurd rfl hne
    | missing => exact ensures_readSlots fun hfinds => Bool.noConfusion (hfinds _ hallowed)
    | malformed => exact hfails rfl
    | unavailable => exact hfails rfl
    | error => exact hfails rfl
  cases hmarker : st.marker with
  | missing => exact ensures_readSlots fun _ => Or.inl hmarker
  | clear => exact ensures_readSlots fun _ => Or.inr hmarker
  | malformed => exact hfails rfl
  | pending =>
    refine always_bind ?_
    change Ensures allowed st (initial.completeVerifiedReset >>= fun r => pure (reports r)) _ _
    refine always_bind (always_mono ?_ (fun st' h => Or.inr ⟨hmarker, h⟩) (ensures_completeVerifiedReset hmarker))
    intro r st' hr
    have hends := hr.reported hmarker
    have hstarted : (reports r).2 ≠ .resetNotPending := hr.started
    apply always_pure.2
    generalize reports r = reported at hends hstarted ⊢
    cases hends with
    | completed hdone _ => exact always_pure.2 (.reset hmarker hdone)
    | @failed result _ hresult hst =>
      have hrest : ∀ status : LoadStatus, status.failed = true →
          Ensures allowed st' (pure ({ initial with lastResetResult := result }, status)) (Loaded allowed st)
            (Resumed (Finds allowed) st) :=
        fun _ hstatus => always_pure.2 (.failed hstatus ⟨result, rfl⟩ hst)
      cases result with
      | resetCompleted => exact absurd rfl hresult
      | resetNotPending => exact absurd rfl hstarted
      | storageUnavailable => exact hrest .storageUnavailable rfl
      | _ => exact hrest .resetRecoveryFailed rfl

end Load

/-! ### Save -/

section Save

variable {allowed : Fault → Prop} {st : Storage} {m : SettingsManager} {candidate : Settings}

/-- The settings that a save of the candidate stores. -/
def canonical (candidate : Settings) : Settings := (validateAndRepair candidate).1

/-- The manager after a save that has succeeded. -/
def SettingsManager.afterSave (m : SettingsManager) (candidate : Settings) : SettingsManager :=
  { m with settings := canonical candidate, generation := m.generation + 1, activeSlot := m.target
           hasActiveSlot := true, repairPending := false }

/-- A save gets as far as to write its target. -/
structure Writes (m : SettingsManager) (candidate : Settings) (encoded : Bytes) : Prop where
  encodes : encodeRecord (canonical candidate) (m.generation + 1) = .ok encoded
  supported : m.isUnsupportedSlot m.target = false
  known : m.hasActiveSlot = true ∨ m.unsupportedSchema = false

/-- **How a save ends.** -/
inductive SaveEnds (m : SettingsManager) (candidate : Settings) (st : Storage) :
    SettingsManager × SaveStatus → Storage → Prop
  | refused {status : SaveStatus} (h : saveSucceeded status = false) : SaveEnds m candidate st (m, status) st
  | failed {encoded : Bytes} {content : Option Bytes} {status : SaveStatus} (hw : Writes m candidate encoded)
      (hleft : Leaves (st.slots m.target) (some encoded) content) (h : saveSucceeded status = false) :
      SaveEnds m candidate st (m, status) (st.setSlot m.target content)
  | saved {encoded : Bytes} {status : SaveStatus} (hw : Writes m candidate encoded)
      (h : saveSucceeded status = true) :
      SaveEnds m candidate st (m.afterSave candidate, status) (st.setSlot m.target (some encoded))

/-- What a save leaves when power is cut in it. -/
def SaveCut (m : SettingsManager) (candidate : Settings) (st st' : Storage) : Prop :=
  st' = st ∨ ∃ encoded content, Writes m candidate encoded ∧ Leaves (st.slots m.target) (some encoded) content ∧
    st' = st.setSlot m.target content

theorem SaveEnds.cut {r : SettingsManager × SaveStatus} {st' : Storage} (h : SaveEnds m candidate st r st') :
    SaveCut m candidate st st' := by
  cases h with
  | refused _ => exact Or.inl rfl
  | failed hw hleft _ => exact Or.inr ⟨_, _, hw, hleft, rfl⟩
  | saved hw _ => exact Or.inr ⟨_, _, hw, Or.inr (Or.inl rfl), rfl⟩

theorem byRepair_saved (repaired : Bool) : saveSucceeded (byRepair repaired .repairedSaved .saved) = true := by
  cases repaired <;> rfl

theorem byRepair_unchanged (repaired : Bool) :
    saveSucceeded (byRepair repaired .repairedUnchanged .unchanged) = false := by
  cases repaired <;> rfl

/-- **A save.** -/
theorem ensures_save (st : Storage) (m : SettingsManager) (candidate : Settings) :
    Ensures allowed st (m.save candidate) (SaveEnds m candidate st) (SaveCut m candidate st) := by
  unfold save
  dsimp only
  split
  · exact always_pure.2 (.refused rfl)
  rename_i hknown
  have hknown : m.hasActiveSlot = true ∨ m.unsupportedSchema = false := by
    cases hact : m.hasActiveSlot <;> cases hun : m.unsupportedSchema <;> simp_all
  split
  · exact always_pure.2 (.refused (byRepair_unchanged _))
  split
  · exact always_pure.2 (.refused rfl)
  rename_i hsupported
  split
  · exact always_pure.2 (.refused rfl)
  rename_i encoded hencodes
  have hw : Writes m candidate encoded := ⟨hencodes, by simpa using hsupported, hknown⟩
  refine ensures_writeSlot (Or.inl rfl) fun written content hleft => ?_
  have hfails : ∀ {status : SaveStatus}, saveSucceeded status = false →
      Ensures allowed (st.setSlot m.target content) (pure (m, status)) (SaveEnds m candidate st)
        (SaveCut m candidate st) :=
    fun hno => always_pure.2 (.failed hw hleft hno)
  split
  · exact hfails rfl
  split
  · exact hfails rfl
  refine ensures_readSlot (Or.inr ⟨encoded, content, hw, hleft, rfl⟩) ?_ fun result bytes pending _ hne => ?_
  swap
  · split
    · exact hfails rfl
    · exact hfails rfl
  split
  · exact hfails rfl
  split
  · exact hfails rfl
  rename_i hok
  split
  · exact hfails rfl
  rename_i hverified
  -- what has been read back is what is stored
  rw [setSlot_slots, Function.update_self] at hok hverified
  rw [Bool.not_eq_true', Bool.not_eq_false] at hverified
  obtain rfl : content = some encoded := stored_of_verifies hencodes (not_not.1 hok) hverified
  exact always_pure.2 (.saved hw (byRepair_saved _))

end Save

end Redline.DeviceSettings
