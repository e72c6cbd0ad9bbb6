import Redline.DeviceSettings.Durability
import Redline.Lib.Trace

/-!
# Saves are atomic

A manager that has a slot saves again and again, on a store that fails and loses power.  Its own record stays in force
until a save has succeeded; the other slot has an older record, nothing usable, or a record of a later save that has
not reported success (`Holding`).  So a load finds the settings of the last save that has succeeded, or those of a
later one (`saves_atomic`).
-/

namespace Redline.DeviceSettings

open Redline.Wire Redline.Records Redline.Lib SettingsManager

/-- A save, with the failures it meets. -/
structure Attempt where
  candidate : Settings
  faults : List Fault

/-- A save with the manager and the store before and after it. -/
structure SaveEntry where
  before : SettingsManager × Storage
  attempt : Attempt
  status : SaveStatus
  after : SettingsManager × Storage

structure SaveLog where
  manager : SettingsManager
  storage : Storage
  entries : List SaveEntry

def SaveLog.save (log : SaveLog) (attempt : Attempt) : SaveLog :=
  let ((m, status), st) := perform Storage.meets .none (log.manager.save attempt.candidate) attempt.faults log.storage
  ⟨m, st, log.entries ++ [⟨(log.manager, log.storage), attempt, status, (m, st)⟩]⟩

/-- A sequence of saves. -/
def saves (m : SettingsManager) (st : Storage) (attempts : List Attempt) : SaveLog :=
  attempts.foldl SaveLog.save ⟨m, st, []⟩

/-- The settings that a load may find: those of the last save that has succeeded, or the first ones if there is none,
and those of the saves after it. -/
def mayLoad (first : Settings) (entries : List SaveEntry) : List Settings :=
  entries.foldl (fun acc entry =>
    if saveSucceeded entry.status then [entry.attempt.candidate] else acc ++ [entry.attempt.candidate]) [first]

/-- What a save keeps that does not report success. -/
structure SaveEntry.Keeps (entry : SaveEntry) : Prop where
  settings : entry.after.1.settings = entry.before.1.settings
  generation : entry.after.1.generation = entry.before.1.generation
  active : entry.after.1.hasActiveSlot = entry.before.1.hasActiveSlot
  slot : entry.after.1.activeSlot = entry.before.1.activeSlot
  bytes : entry.after.2.slots entry.before.1.activeSlot = entry.before.2.slots entry.before.1.activeSlot

/-- A load on the store selects a record with settings of the list. -/
def Storage.LoadsFrom (st : Storage) (allowed : List Settings) : Prop :=
  st.loads.1.hasActiveSlot = true ∧ st.loads.1.settings ∈ allowed

/-- **Saves are atomic.** -/
structure AtomicSaves (first : Settings) (log : SaveLog) : Prop where
  failed : ∀ entry ∈ log.entries, saveSucceeded entry.status = false → entry.Keeps
  loads : log.storage.LoadsFrom (mayLoad first log.entries)
  /-- Power is cut in one more save. -/
  cut : ∀ candidate faults n, isValid candidate = true →
    (interrupt Storage.meets .none (log.manager.save candidate) faults n log.storage).2.LoadsFrom
      (mayLoad first log.entries ++ [candidate])

/-! ### The invariant -/

section Holding

variable {m : SettingsManager} {st : Storage} {known : List Settings} {candidate : Settings}

/-- The record in the other slot: it is not usable, or older, or the same, or of a later save. -/
def Rival (own other : SlotRecord) (known : List Settings) : Prop :=
  isUsable other = false ∨ generationIsNewer own.generation other.generation = true ∨ own = other ∨
    other.generation = own.generation + 1 ∧ other.settings ∈ known

/-- The manager has the record of its active slot, and the other slot has a rival of it. -/
structure Holding (m : SettingsManager) (st : Storage) (known : List Settings) : Prop where
  calm : st.Calm
  usable : isUsable (st.record m.activeSlot) = true
  selected : Selected m (st.record m.activeSlot)
  member : m.settings ∈ known
  rival : Rival (st.record m.activeSlot) (st.record (opposite m.activeSlot)) known

theorem Holding.mono (h : Holding m st known) {known' : List Settings} (hk : ∀ s ∈ known, s ∈ known') :
    Holding m st known' := by
  refine ⟨h.calm, h.usable, h.selected, hk _ h.member, ?_⟩
  rcases h.rival with hno | hold | hsame | ⟨hg, hs⟩
  · exact Or.inl hno
  · exact Or.inr (Or.inl hold)
  · exact Or.inr (Or.inr (Or.inl hsame))
  · exact Or.inr (Or.inr (Or.inr ⟨hg, hk _ hs⟩))

theorem Authoritative.holding (h : Authoritative m st) (hcalm : st.Calm) : Holding m st [m.settings] := by
  refine ⟨hcalm, h.wins.1, h.selected, List.mem_cons_self, ?_⟩
  rcases h.wins.2 with hno | hold | hsame
  · exact Or.inl hno
  · exact Or.inr (Or.inl hold)
  · exact Or.inr (Or.inr (Or.inl hsame))

/-- What a load finds. -/
theorem Holding.loadsFrom (h : Holding m st known) : st.LoadsFrom known := by
  have hown : Wins (st.record m.activeSlot) (st.record (opposite m.activeSlot)) → st.LoadsFrom known := by
    intro hwins
    have hsel := loads_of_wins h.calm hwins
    refine ⟨hsel.active, ?_⟩
    rw [hsel.settings, ← h.selected.settings]
    exact h.member
  rcases h.rival with hno | hold | hsame | ⟨hg, hs⟩
  · exact hown ⟨h.usable, Or.inl hno⟩
  · exact hown ⟨h.usable, Or.inr (Or.inl hold)⟩
  · exact hown ⟨h.usable, Or.inr (Or.inr hsame)⟩
  · cases hu : isUsable (st.record (opposite m.activeSlot)) with
    | false => exact hown ⟨h.usable, Or.inl hu⟩
    | true =>
      -- the record of a later save is the newer one
      have hwins : Wins (st.record (opposite m.activeSlot)) (st.record (opposite (opposite m.activeSlot))) := by
        refine ⟨hu, Or.inr (Or.inl ?_)⟩
        rw [opposite_opposite, hg]
        exact generationIsNewer_succ _
      have hsel := loads_of_wins h.calm hwins
      refine ⟨hsel.active, ?_⟩
      rw [hsel.settings]
      exact hs

theorem Holding.target (h : Holding m st known) : m.target = opposite m.activeSlot := by
  rw [SettingsManager.target, if_pos h.selected.active]

theorem Holding.slot_kept (h : Holding m st known) (content : Option Bytes) :
    (st.setSlot m.target content).slots m.activeSlot = st.slots m.activeSlot := by
  rw [h.target, setSlot_slots, Function.update_of_ne (opposite_ne _).symm]

/-- A save that is cut or fails leaves a rival in its target. -/
theorem Holding.cut (h : Holding m st known) (hvalid : isValid candidate = true) {st' : Storage}
    (hcut : SaveCut m candidate st st') : Holding m st' (known ++ [candidate]) := by
  have hmono := h.mono fun s hs => List.mem_append_left [candidate] hs
  rcases hcut with rfl | ⟨encoded, content, hw, hleft, rfl⟩
  · exact hmono
  have hown : (st.setSlot m.target content).record m.activeSlot = st.record m.activeSlot := by
    rw [Storage.record, h.slot_kept]
    rfl
  have hother : (st.setSlot m.target content).record (opposite m.activeSlot) = classify (slotReply content) := by
    rw [← h.target, record_setSlot]
  refine ⟨h.calm.setSlot _ _, hown ▸ h.usable, hown ▸ h.selected, hmono.member, ?_⟩
  rw [hown, hother]
  rcases hleft with rfl | rfl | rfl | ⟨bytes, rfl, hbad⟩
  · rw [h.target]
    exact hmono.rival
  · rw [classify_encoded hw.encodes, canonical_of_valid hvalid]
    refine Or.inr (Or.inr (Or.inr ⟨?_, List.mem_append_right _ List.mem_cons_self⟩))
    rw [← h.selected.generation]
  · exact Or.inl rfl
  · exact Or.inl (not_usable_of_undecodable hbad)

/-- A save that has succeeded. -/
theorem Holding.saved (h : Holding m st known) (hvalid : isValid candidate = true) {encoded : Bytes}
    (hw : Writes m candidate encoded) :
    Holding (m.afterSave candidate) (st.setSlot m.target (some encoded)) [candidate] := by
  have hcan := canonical_of_valid hvalid
  have hactive : (m.afterSave candidate).activeSlot = m.target := rfl
  have hown : (st.setSlot m.target (some encoded)).record m.target =
      ⟨.valid, canonical candidate, m.generation + 1, encoded⟩ := by
    rw [record_setSlot, classify_encoded hw.encodes]
  have hother : (st.setSlot m.target (some encoded)).record (opposite m.target) = st.record m.activeSlot := by
    rw [record_setSlot_of_ne _ (opposite_ne _), h.target, opposite_opposite]
  constructor
  · exact h.calm.setSlot _ _
  · rw [hactive, hown]
    rfl
  · rw [hactive, hown]
    exact ⟨rfl, rfl, rfl⟩
  · rw [show (m.afterSave candidate).settings = canonical candidate from rfl, hcan]
    exact List.mem_cons_self
  · rw [hactive, hown, hother]
    refine Or.inr (Or.inl ?_)
    rw [← h.selected.generation]
    exact generationIsNewer_succ _

theorem Holding.interrupt (h : Holding m st known) (hvalid : isValid candidate = true) (faults : List Fault) (n : ℕ) :
    (interrupt Storage.meets .none (m.save candidate) faults n st).2.LoadsFrom (known ++ [candidate]) :=
  (h.cut hvalid (always_interrupt (ensures_save st m candidate) faults (fun _ _ => trivial) n fun _ _ he => he.cut)).loadsFrom

end Holding

/-! ### The sequence -/

section Run

variable {first : Settings} {log : SaveLog}

theorem mayLoad_concat (first : Settings) (entries : List SaveEntry) (entry : SaveEntry) :
    mayLoad first (entries ++ [entry]) =
      if saveSucceeded entry.status then [entry.attempt.candidate]
      else mayLoad first entries ++ [entry.attempt.candidate] := by
  rw [mayLoad, List.foldl_append]
  rfl

/-- What a sequence of saves keeps. -/
structure Logged (first : Settings) (log : SaveLog) : Prop where
  failed : ∀ entry ∈ log.entries, saveSucceeded entry.status = false → entry.Keeps
  holding : Holding log.manager log.storage (mayLoad first log.entries)

theorem Logged.save (h : Logged first log) {attempt : Attempt} (hvalid : isValid attempt.candidate = true) :
    Logged first (log.save attempt) := by
  have hends := always_perform (ensures_save log.storage log.manager attempt.candidate) attempt.faults fun _ _ => trivial
  unfold SaveLog.save
  revert hends
  generalize perform Storage.meets .none (log.manager.save attempt.candidate) attempt.faults log.storage = r
  obtain ⟨⟨m, status⟩, st⟩ := r
  intro hends
  dsimp only at hends ⊢
  have hcut := h.holding.cut hvalid hends.cut
  cases hends with
  | refused hno =>
    refine ⟨forall_mem_concat h.failed fun _ => ⟨rfl, rfl, rfl, rfl, rfl⟩, ?_⟩
    rw [mayLoad_concat, if_neg (by rw [hno]; exact Bool.false_ne_true)]
    exact hcut
  | failed hw hleft hno =>
    refine ⟨forall_mem_concat h.failed fun _ => ⟨rfl, rfl, rfl, rfl, h.holding.slot_kept _⟩, ?_⟩
    rw [mayLoad_concat, if_neg (by rw [hno]; exact Bool.false_ne_true)]
    exact hcut
  | saved hw hyes =>
    refine ⟨forall_mem_concat h.failed fun hno => ?_, ?_⟩
    · rw [hyes] at hno
      cases hno
    · rw [mayLoad_concat, if_pos hyes]
      exact h.holding.saved hvalid hw

theorem Logged.atomic (h : Logged first log) : AtomicSaves first log :=
  ⟨h.failed, h.holding.loadsFrom, fun _ faults n hvalid => h.holding.interrupt hvalid faults n⟩

/-- A load that has a slot, whatever failures it has met but look-ups that are misreported. -/
theorem Loaded.holding {allowed : Fault → Prop} {st st' : Storage} {r : SettingsManager × LoadStatus}
    (h : Loaded allowed st r st') (htruthful : Truthful allowed) (hactive : r.1.hasActiveSlot = true) :
    Holding r.1 st' [r.1.settings] := by
  cases h with
  | failed _ hun _ =>
    obtain ⟨result, rfl⟩ := hun
    cases hactive
  | selected hcalm ha hb =>
    rcases htruthful.selected ha hb with heq | heq
    · rw [heq] at hactive ⊢
      exact (authoritative_of_selectSlots hactive).holding (hcalm htruthful.finds)
    · rw [heq] at hactive
      cases hactive
  | reset _ hdone =>
    obtain rfl := hdone htruthful.finds
    have hown : resetStorage.record .A = ⟨.valid, defaults, 1, defaultBytes⟩ := classify_encoded encodeRecord_defaults
    refine Authoritative.holding ⟨?_, ?_⟩ (Or.inl rfl)
    · change Wins (resetStorage.record .A) (resetStorage.record .B)
      rw [hown]
      exact ⟨rfl, Or.inl rfl⟩
    · change Selected _ (resetStorage.record .A)
      rw [hown]
      exact ⟨rfl, rfl, rfl⟩

/-- **Saves are atomic**: a save that does not report success changes neither the manager nor its slot, and a load
finds the settings of the last save that has succeeded, or of a later one.  The slot that the first load has selected
is the authoritative one as long as no look-up of it has been misreported; the saves may meet any faults. -/
theorem saves_atomic (st : Storage) (loadFaults : List Fault) (htruthful : ∀ f ∈ loadFaults, f.misreports = false)
    (hactive : (perform Storage.meets .none load loadFaults st).1.1.hasActiveSlot = true) (attempts : List Attempt)
    (hvalid : ∀ attempt ∈ attempts, isValid attempt.candidate = true) :
    AtomicSaves (perform Storage.meets .none load loadFaults st).1.1.settings
      (saves (perform Storage.meets .none load loadFaults st).1.1 (perform Storage.meets .none load loadFaults st).2
        attempts) := by
  have hload := (always_perform (ensures_load st) loadFaults htruthful).holding (fun _ hf => hf) hactive
  refine Logged.atomic ?_
  unfold saves
  refine List.foldlRecOn (motive := Logged _) attempts _ ⟨fun _ he => (by cases he), hload⟩ fun log hlog a ha => ?_
  exact hlog.save (hvalid a ha)

/-- A save that succeeds, one whose write is answered OK and stores nothing, and one whose write fails and leaves its
record all the same. -/
def threeSaves : List Attempt :=
  [⟨withTimeout 60, []⟩, ⟨withTimeout 90, [.write .ok .old]⟩, ⟨withTimeout 120, [.write .error .new]⟩]

theorem saves_atomic_three :
    let loaded := perform Storage.meets .none load [.none] (pairOf (defaults, 4) (withTimeout 5, 3))
    loaded.1.1.hasActiveSlot = true ∧
      (saves loaded.1.1 loaded.2 threeSaves).entries.map SaveEntry.status =
        [.saved, .verificationFailed, .writeFailed] ∧
      AtomicSaves loaded.1.1.settings (saves loaded.1.1 loaded.2 threeSaves) :=
  ⟨by decide +kernel, by decide +kernel,
    saves_atomic (pairOf (defaults, 4) (withTimeout 5, 3)) [.none] (by decide) (by decide +kernel) threeSaves (by decide)⟩

end Run

end Redline.DeviceSettings
