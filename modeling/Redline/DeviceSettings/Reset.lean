import Redline.DeviceSettings.Durability
import Redline.Lib.Trace

/-!
# The factory reset is atomic

Resets, recoveries and loads in any order, on a store that fails, with power cuts anywhere.  Until the marker of a
reset becomes durable the store is as it was; from then on a reset is under way or completed (`Resetting`), and every
load finishes it and finds the defaults (`reset_atomic`).
-/

namespace Redline.DeviceSettings

open Redline.Wire Redline.Records Redline.Lib SettingsManager

inductive ResetCall
  | factoryReset | recoverPendingReset | load

/-- The manager after the call, and the result of a load. -/
def ResetCall.run (m : SettingsManager) : ResetCall → StoreM (SettingsManager × Option LoadStatus)
  | .factoryReset => do
    let (m, _) ← m.factoryReset
    return (m, none)
  | .recoverPendingReset => do
    let (m, _) ← m.recoverPendingReset
    return (m, none)
  | .load => do
    let (m, status) ← SettingsManager.load
    return (m, some status)

/-- A call, the failures it meets, and the number of its calls of the store that are made before power is cut. -/
structure ResetAction where
  call : ResetCall
  faults : List Fault
  stop : Option ℕ

/-- An action with the manager and the store before it, the store after it, and what a load has returned. -/
structure ResetEntry where
  manager : SettingsManager
  before : Storage
  action : ResetAction
  after : Storage
  loaded : Option SettingsManager

structure ResetRun where
  manager : SettingsManager
  storage : Storage
  history : List ResetEntry

def ResetRun.step (r : ResetRun) (a : ResetAction) : ResetRun :=
  match a.stop with
  | none =>
    let ((m, status), st) := perform Storage.meets .none (a.call.run r.manager) a.faults r.storage
    ⟨m, st, r.history ++ [⟨r.manager, r.storage, a, st, status.map fun _ => m⟩]⟩
  | some n =>
    let st := (interrupt Storage.meets .none (a.call.run r.manager) a.faults n r.storage).2
    ⟨initial, st, r.history ++ [⟨r.manager, r.storage, a, st, none⟩]⟩

def resetRun (m : SettingsManager) (st : Storage) (actions : List ResetAction) : ResetRun :=
  actions.foldl ResetRun.step ⟨m, st, []⟩

/-- At some moment of the action the marker of a reset is durable. -/
def ResetEntry.arms (entry : ResetEntry) : Prop :=
  ∃ n, (∀ k, entry.action.stop = some k → n ≤ k) ∧
    (interrupt Storage.meets .none (entry.action.call.run entry.manager) entry.action.faults n
      entry.before).2.marker = .pending

/-- The marker has been durable at some time. -/
def Durable (first : Storage) (history : List ResetEntry) : Prop :=
  first.marker = .pending ∨ ∃ entry ∈ history, entry.arms

/-- **The factory reset is atomic.** -/
structure AtomicReset (first : Storage) (r : ResetRun) : Prop where
  untouched : ¬ Durable first r.history → r.storage = first ∧ r.storage.loads = first.loads
  completed : Durable first r.history →
    r.storage.loads.1.settings = defaults ∧ (settle Storage.meets .none load r.storage).2 = resetStorage
  later : ∀ past entry rest m, r.history = past ++ entry :: rest → Durable first past → entry.loaded = some m →
    m.settings = defaults
  twice : ∀ m : SettingsManager, r.storage.marker = .pending →
    settle Storage.meets .none m.completeVerifiedReset r.storage = ((m.afterReset, .resetCompleted), resetStorage) ∧
    settle Storage.meets .none m.afterReset.completeVerifiedReset { resetStorage with marker := .pending } =
      ((m.afterReset, .resetCompleted), resetStorage)

/-! ### A reset on a store that works -/

theorem settle_removeAndVerifySlot (st : Storage) (slot : RecordSlot) :
    settle Storage.meets .none (removeAndVerifySlot slot) st = (.resetCompleted, st.setSlot slot none) := by
  have hread : slotReply ((st.setSlot slot none).slots slot) = ⟨.missing, []⟩ := by
    rw [setSlot_slots, Function.update_self]
    rfl
  unfold removeAndVerifySlot
  rw [settle_bind, show settle Storage.meets .none (removeSlot slot) st =
    (removeReply (st.slots slot), st.setSlot slot none) from rfl]
  have hreply : removeReply (st.slots slot) = .ok ∨ removeReply (st.slots slot) = .missing := by
    cases st.slots slot with
    | none => exact Or.inr rfl
    | some bytes => exact Or.inl rfl
  dsimp only
  rcases hreply with hr | hr
  all_goals
    rw [hr, if_neg (by simp), if_neg (by simp), settle_bind,
      show settle Storage.meets .none (readSlot slot) (st.setSlot slot none) =
        (slotReply ((st.setSlot slot none).slots slot), st.setSlot slot none) from rfl, hread]
    rfl

theorem settle_completeVerifiedReset {st : Storage} (h : st.marker = .pending) (m : SettingsManager) :
    settle Storage.meets .none m.completeVerifiedReset st = ((m.afterReset, .resetCompleted), resetStorage) := by
  set cleared := (st.setSlot .A none).setSlot .B none with hcleared
  set written := cleared.setSlot .A (some defaultBytes) with hwritten
  have hA : written.slots .A = some defaultBytes := by rw [hwritten, setSlot_slots, Function.update_self]
  have hB : written.slots .B = none := by
    rw [hwritten, setSlot_slots, Function.update_of_ne RecordSlot.noConfusion, hcleared, setSlot_slots,
      Function.update_self]
  have hmarker : written.marker = .pending := h
  have hreply : slotReply (written.slots .A) = ⟨.ok, defaultBytes⟩ := by
    rw [hA, slotReply, if_neg (not_not.2 (length_of_encodeRecord encodeRecord_defaults))]
  have hverified : verifies ⟨.ok, defaultBytes⟩ defaults 1 = true := by
    have := verifies_encoded encodeRecord_defaults
    rwa [← hA, hreply] at this
  unfold completeVerifiedReset
  rw [settle_bind, settle_removeAndVerifySlot]
  dsimp only
  rw [if_neg (by simp), settle_bind, settle_removeAndVerifySlot]
  dsimp only
  rw [if_neg (by simp), encodeRecord_defaults]
  dsimp only
  rw [settle_bind, show settle Storage.meets .none (writeSlot .A defaultBytes) cleared = (.ok, written) from rfl]
  dsimp only
  rw [if_neg (by simp), if_neg (by simp), settle_bind,
    show settle Storage.meets .none (readSlot .A) written = (slotReply (written.slots .A), written) from rfl, hreply]
  dsimp only
  rw [hverified, if_neg (by simp), if_neg (by simp), settle_bind,
    show settle Storage.meets .none removeResetMarker written =
      (if written.marker = .missing then StoreResult.missing else StoreResult.ok, { written with marker := .missing })
      from rfl, hmarker, resetStorage_eq hA hB]
  rfl

theorem settle_recoverPendingReset {st : Storage} (h : st.marker = .pending) (m : SettingsManager) :
    settle Storage.meets .none m.recoverPendingReset st = (reports (m.afterReset, .resetCompleted), resetStorage) := by
  unfold recoverPendingReset
  rw [settle_bind, show settle Storage.meets .none readResetMarker st = (markerReply st.marker, st) from rfl, h]
  change settle Storage.meets .none (m.completeVerifiedReset >>= fun r => pure (reports r)) st = _
  rw [settle_bind, settle_completeVerifiedReset h]
  rfl

/-- A load on a store that works finishes a reset. -/
theorem settle_load_resetting {st : Storage} (h : Resetting st) :
    st.loads.1.settings = defaults ∧ (settle Storage.meets .none load st).2 = resetStorage := by
  rcases h with hpending | rfl
  · unfold Storage.loads load
    rw [settle_bind, settle_recoverPendingReset hpending]
    exact ⟨rfl, rfl⟩
  · have hcalm : resetStorage.Calm := Or.inl rfl
    have hA : resetStorage.record .A = ⟨.valid, defaults, 1, defaultBytes⟩ := classify_encoded encodeRecord_defaults
    rw [Storage.loads, settle_load hcalm, hA]
    exact ⟨rfl, rfl⟩

/-! ### One action -/

section Step

variable {allowed : Fault → Prop} {m : SettingsManager} {st : Storage}

/-- A load while a reset is under way or completed finds the defaults, whatever fails. -/
theorem Loaded.resetting {r : SettingsManager × LoadStatus} {st' : Storage} (h : Loaded allowed st r st')
    (hfinds : Finds allowed) (hst : Resetting st) : r.1.settings = defaults ∧ Resetting st' := by
  cases h with
  | failed _ hun hleft =>
    obtain ⟨result, rfl⟩ := hun
    exact ⟨rfl, hleft.resetting hfinds hst⟩
  | reset _ hdone => exact ⟨rfl, Or.inr (hdone hfinds)⟩
  | @selected a b hcalm ha hb =>
    have hdone : st = resetStorage := by
      rcases hst with hp | hd
      · rcases hcalm hfinds with hc | hc <;> rw [hp] at hc <;> cases hc
      · exact hd
    subst hdone
    refine ⟨?_, Or.inr rfl⟩
    -- the only record that can be used is the one of the defaults
    rcases selectSlots_cases initial a b (ha.eq_of_bytes hb) with
      hnoted | ⟨hwins, m', fallback, heq⟩ | ⟨hwins, m', fallback, heq⟩
    · exact hnoted.settings
    · have hA : resetStorage.record .A = ⟨.valid, defaults, 1, defaultBytes⟩ := classify_encoded encodeRecord_defaults
      rw [heq, (applySelected_selected m' a .A fallback).1.settings, ha.usable hwins.1, hA]
    · have hB : isUsable (resetStorage.record .B) = true := hb.usable hwins.1 ▸ hwins.1
      cases hB

/-- Once a reset is under way or completed, it stays so. -/
theorem ensures_resetting (hfinds : Finds allowed) (hst : Resetting st) (call : ResetCall) :
    Ensures allowed st (call.run m) (fun r st' => Resetting st' ∧ (r.2.isSome = true → r.1.settings = defaults))
      Resetting := by
  have hresumed : ∀ st', Resumed (Finds allowed) st st' → Resetting st' := fun st' h => h.resetting hfinds hst
  cases call with
  | factoryReset =>
    have hkeep : ∀ st', (st' = st ∨ (Finds allowed → Resetting st')) → Resetting st' := by
      rintro st' (rfl | h)
      · exact hst
      · exact h hfinds
    refine always_bind (always_mono (fun r st' hr => ?_) hkeep (ensures_factoryReset st m))
    exact always_pure.2 ⟨hkeep st' hr.left, fun hc => (by cases hc)⟩
  | recoverPendingReset =>
    refine always_bind (always_mono (fun r st' hr => ?_) hresumed (ensures_recoverPendingReset st m))
    exact always_pure.2 ⟨hresumed st' hr, fun hc => (by cases hc)⟩
  | load =>
    refine always_bind (always_mono (fun r st' hr => ?_) hresumed (ensures_load st))
    obtain ⟨hdef, hres⟩ := hr.resetting hfinds hst
    exact always_pure.2 ⟨hres, fun _ => hdef⟩

/-- A call that is not a reset leaves a store alone on which none is pending. -/
theorem ensures_untouched (hst : st.marker ≠ .pending) {call : ResetCall} (hcall : call ≠ .factoryReset) :
    Ensures allowed st (call.run m) (fun _ st' => st' = st) (fun st' => st' = st) := by
  have hkeep : ∀ st', Resumed (Finds allowed) st st' → st' = st := fun st' h => h.eq hst
  cases call with
  | factoryReset => exact absurd rfl hcall
  | recoverPendingReset =>
    refine always_bind (always_mono (fun r st' hr => ?_) hkeep (ensures_recoverPendingReset st m))
    exact always_pure.2 (hkeep st' hr)
  | load =>
    refine always_bind (always_mono (fun r st' hr => ?_) hkeep (ensures_load st))
    exact always_pure.2 (hkeep st' hr.resumed)

/-- The rest of a factory reset, after the write of its marker. -/
def afterArming (m : SettingsManager) (written : StoreResult) : StoreM (SettingsManager × Option LoadStatus) := do
  let (m, _) ← m.afterMarker written
  return (m, none)

theorem run_factoryReset (m : SettingsManager) :
    ResetCall.run m .factoryReset = writeResetMarker true >>= afterArming m := by
  rw [ResetCall.run, factoryReset_eq, Prog.bind_assoc']
  rfl

theorem ensures_afterArming (st : Storage) (m : SettingsManager) (written : StoreResult) :
    Ensures allowed st (afterArming m written) (fun _ => Resumed (Finds allowed) st) (Resumed (Finds allowed) st) := by
  refine always_bind (always_mono (fun r st' hr => ?_) (fun _ h => h) (ensures_afterMarker st m written))
  exact always_pure.2 hr.left

theorem interrupt_factoryReset (m : SettingsManager) (faults : List Fault) (n : ℕ) (st : Storage) :
    interrupt Storage.meets .none (ResetCall.run m .factoryReset) faults (n + 1) st =
      interrupt Storage.meets .none (afterArming m (Storage.meets (faults.headD .none) (.writeResetMarker true) st).1)
        faults.tail n (Storage.meets (faults.headD .none) (.writeResetMarker true) st).2 := by
  rw [run_factoryReset]
  exact interrupt_succ faults n st

theorem perform_factoryReset (m : SettingsManager) (faults : List Fault) (st : Storage) :
    perform Storage.meets .none (ResetCall.run m .factoryReset) faults st =
      perform Storage.meets .none (afterArming m (Storage.meets (faults.headD .none) (.writeResetMarker true) st).1)
        faults.tail (Storage.meets (faults.headD .none) (.writeResetMarker true) st).2 := by
  rw [run_factoryReset]
  exact perform_call faults st

/-- The write of the marker makes it durable, or leaves the store as it was, whatever it answers. -/
theorem meets_writeResetMarker (fault : Fault) (st : Storage) :
    (Storage.meets fault (.writeResetMarker true) st).2.marker = .pending ∨
      (Storage.meets fault (.writeResetMarker true) st).2 = st := by
  cases fault with
  | none => exact Or.inl rfl
  | read result bytes pending => exact Or.inl rfl
  | write result left =>
    cases left with
    | new => exact Or.inl rfl
    | _ => exact Or.inr rfl

end Step

/-! ### A run -/

section Run

variable {first : Storage} {r : ResetRun}

/-- The store after an action. -/
def ResetAction.leaves (a : ResetAction) (m : SettingsManager) (st : Storage) : Storage :=
  match a.stop with
  | none => (perform Storage.meets .none (a.call.run m) a.faults st).2
  | some n => (interrupt Storage.meets .none (a.call.run m) a.faults n st).2

theorem step_storage (r : ResetRun) (a : ResetAction) : (r.step a).storage = a.leaves r.manager r.storage := by
  unfold ResetRun.step ResetAction.leaves
  cases a.stop <;> rfl

/-- A condition that a call keeps, wherever it ends. -/
theorem leaves_of_ensures {allowed : Fault → Prop} {a : ResetAction} {m : SettingsManager} {st : Storage}
    {C : Storage → Prop} (h : Ensures allowed st (a.call.run m) (fun _ st' => C st') C)
    (hfaults : ∀ f ∈ a.faults, allowed f) : C (a.leaves m st) := by
  unfold ResetAction.leaves
  cases a.stop with
  | none => exact always_perform h a.faults hfaults
  | some n => exact always_interrupt h a.faults hfaults n fun _ _ hq => hq

/-- What is left of the faults after the first call. -/
theorem tail_allowed {allowed : Fault → Prop} {faults : List Fault} (h : ∀ f ∈ faults, allowed f) :
    ∀ f ∈ faults.tail, allowed f :=
  fun f hf => h f (List.mem_of_mem_tail hf)

/-- A factory reset after its first call. -/
theorem leaves_factoryReset {allowed : Fault → Prop} {m : SettingsManager} {st : Storage} {faults : List Fault}
    (hfaults : ∀ f ∈ faults, allowed f) {C : Storage → Prop}
    (h : ∀ st', Resumed (Finds allowed) (Storage.meets (faults.headD .none) (.writeResetMarker true) st).2 st' → C st') :
    (∀ n, C (interrupt Storage.meets .none (ResetCall.run m .factoryReset) faults (n + 1) st).2) ∧
      C (perform Storage.meets .none (ResetCall.run m .factoryReset) faults st).2 := by
  constructor
  · intro n
    rw [interrupt_factoryReset]
    exact h _ (always_interrupt (ensures_afterArming _ m _) faults.tail (tail_allowed hfaults) n fun _ _ hq => hq)
  · rw [perform_factoryReset]
    exact h _ (always_perform (ensures_afterArming _ m _) faults.tail (tail_allowed hfaults))

/-- **The first reset of a store.**  Its marker becomes durable, or nothing happens. -/
theorem arms_or_untouched {allowed : Fault → Prop} (hfinds : Finds allowed) (x : ResetEntry)
    (hfaults : ∀ f ∈ x.action.faults, allowed f) (hst : x.before.marker ≠ .pending)
    (hafter : x.after = x.action.leaves x.manager x.before) :
    (x.arms ∧ Resetting x.after) ∨ (¬ x.arms ∧ x.after = x.before) := by
  obtain ⟨m, st, ⟨call, faults, stop⟩, after, loaded⟩ := x
  dsimp only at hst hafter hfaults
  subst hafter
  by_cases hcall : call = .factoryReset
  · subst hcall
    rcases meets_writeResetMarker (faults.headD .none) st with hpending | hsame
    · obtain ⟨hcut, hdone⟩ := leaves_factoryReset (m := m) hfaults
        fun st' h => h.resetting hfinds (Or.inl hpending)
      have hfirst : (interrupt Storage.meets .none (ResetCall.run m .factoryReset) faults 1 st).2.marker =
          .pending := by
        rw [interrupt_factoryReset, interrupt_zero]
        exact hpending
      rcases stop with _ | _ | k
      · exact Or.inl ⟨⟨1, fun k hk => (by cases hk), hfirst⟩, hdone⟩
      · -- power is cut in front of the first call
        refine Or.inr ⟨?_, interrupt_zero _ _ _⟩
        rintro ⟨n, hn, hpend⟩
        obtain rfl : n = 0 := Nat.le_zero.1 (hn 0 rfl)
        dsimp only at hpend
        rw [interrupt_zero] at hpend
        exact hst hpend
      · refine Or.inl ⟨⟨1, fun k' hk => ?_, hfirst⟩, hcut k⟩
        cases hk
        omega
    · -- the marker does not read as pending
      obtain ⟨hcut, hdone⟩ := leaves_factoryReset (m := m) hfaults
        fun st' h => (hsame ▸ h : Resumed (Finds allowed) st st').eq hst
      have hsame' : ∀ n, (interrupt Storage.meets .none (ResetCall.run m .factoryReset) faults n st).2 = st := by
        intro n
        cases n with
        | zero => exact interrupt_zero _ _ _
        | succ n => exact hcut n
      refine Or.inr ⟨?_, ?_⟩
      · rintro ⟨n, -, hn⟩
        dsimp only at hn
        rw [hsame' n] at hn
        exact hst hn
      · cases stop with
        | none => exact hdone
        | some n => exact hsame' n
  · refine Or.inr ⟨?_, leaves_of_ensures (ensures_untouched hst hcall) hfaults⟩
    rintro ⟨n, -, hn⟩
    have hsame := always_interrupt (ensures_untouched (m := m) hst hcall) faults hfaults n fun _ _ h => h
    dsimp only at hn
    rw [hsame] at hn
    exact hst hn

/-- What a run keeps. -/
structure Restoring (first : Storage) (r : ResetRun) : Prop where
  untouched : ¬ Durable first r.history → r.storage = first
  resetting : Durable first r.history → Resetting r.storage
  later : ∀ past entry rest m, r.history = past ++ entry :: rest → Durable first past → entry.loaded = some m →
    m.settings = defaults

/-- The entry that an action adds. -/
theorem step_history {allowed : Fault → Prop} (hfinds : Finds allowed) (r : ResetRun) (a : ResetAction)
    (hfaults : ∀ f ∈ a.faults, allowed f) : ∃ x : ResetEntry,
    (r.step a).history = r.history ++ [x] ∧ x.action = a ∧ x.before = r.storage ∧ x.after = (r.step a).storage ∧
      x.after = x.action.leaves x.manager x.before ∧
      (Resetting r.storage → ∀ m, x.loaded = some m → m.settings = defaults) := by
  unfold ResetRun.step ResetAction.leaves
  cases hstop : a.stop with
  | none =>
    refine ⟨_, rfl, rfl, rfl, rfl, ?_, fun hst m hm => ?_⟩
    · dsimp only
      rw [hstop]
    · have hcall := (always_perform (ensures_resetting (m := r.manager) hfinds hst a.call) a.faults hfaults).2
      obtain ⟨status, hs, rfl⟩ := Option.map_eq_some_iff.1 hm
      exact hcall (by rw [hs]; rfl)
  | some n =>
    refine ⟨_, rfl, rfl, rfl, rfl, ?_, fun _ m hm => (by cases hm)⟩
    dsimp only
    rw [hstop]

theorem durable_concat {history : List ResetEntry} {x : ResetEntry} :
    Durable first (history ++ [x]) ↔ Durable first history ∨ x.arms := by
  constructor
  · rintro (h | ⟨entry, he, ha⟩)
    · exact Or.inl (Or.inl h)
    · rcases List.mem_append.1 he with he | he
      · exact Or.inl (Or.inr ⟨entry, he, ha⟩)
      · rw [List.mem_singleton.1 he] at ha
        exact Or.inr ha
  · rintro ((h | ⟨entry, he, ha⟩) | ha)
    · exact Or.inl h
    · exact Or.inr ⟨entry, List.mem_append_left _ he, ha⟩
    · exact Or.inr ⟨x, List.mem_append_right _ List.mem_cons_self, ha⟩

theorem Restoring.step {allowed : Fault → Prop} (hfinds : Finds allowed) (h : Restoring first r) {a : ResetAction}
    (hfaults : ∀ f ∈ a.faults, allowed f) : Restoring first (r.step a) := by
  obtain ⟨x, hhistory, haction, hbefore, hstorage, hleaves, hloaded⟩ := step_history hfinds r a hfaults
  -- what the action leaves, by whether the marker has been durable
  have hkept : Durable first r.history → Resetting (r.step a).storage := by
    intro hd
    rw [step_storage]
    exact leaves_of_ensures (always_mono (fun _ _ hq => hq.1) (fun _ hc => hc)
      (ensures_resetting hfinds (h.resetting hd) a.call)) hfaults
  have hfresh : ¬ Durable first r.history →
      (x.arms ∧ Resetting (r.step a).storage) ∨ (¬ x.arms ∧ (r.step a).storage = first) := by
    intro hd
    have hsame := h.untouched hd
    have hnot : x.before.marker ≠ .pending := by
      rw [hbefore, hsame]
      exact fun hc => hd (Or.inl hc)
    rw [← hstorage, ← hsame, ← hbefore]
    exact arms_or_untouched hfinds x (haction ▸ hfaults) hnot hleaves
  constructor
  · intro hd
    rw [hhistory, durable_concat, not_or] at hd
    rcases hfresh hd.1 with ⟨harms, -⟩ | ⟨-, hsame⟩
    · exact absurd harms hd.2
    · exact hsame
  · intro hd
    rw [hhistory, durable_concat] at hd
    by_cases hpast : Durable first r.history
    · exact hkept hpast
    · rcases hfresh hpast with ⟨-, hres⟩ | ⟨hno, -⟩
      · exact hres
      · exact absurd (hd.resolve_left hpast) hno
  · intro past entry rest m hsplit hd hm
    rw [hhistory] at hsplit
    rcases split_concat hsplit with ⟨rfl, rfl, -⟩ | ⟨rest', hold, -⟩
    · exact hloaded (h.resetting hd) m hm
    · exact h.later past entry rest' m hold hd hm

theorem Restoring.atomic (h : Restoring first r) : AtomicReset first r := by
  refine ⟨fun hd => ?_, fun hd => settle_load_resetting (h.resetting hd), h.later, fun m hm => ?_⟩
  · rw [h.untouched hd]
    exact ⟨rfl, rfl⟩
  · exact ⟨settle_completeVerifiedReset hm m, settle_completeVerifiedReset rfl m.afterReset⟩

/-- **The factory reset is atomic**, whatever fails and wherever power is cut, as long as no read reports something
missing that is stored. -/
theorem reset_atomic (m : SettingsManager) (first : Storage) (actions : List ResetAction)
    (hfinds : ∀ a ∈ actions, ∀ f ∈ a.faults, f.misses = false) : AtomicReset first (resetRun m first actions) := by
  refine Restoring.atomic ?_
  unfold resetRun
  refine List.foldlRecOn actions _ ⟨fun _ => rfl, fun hd => ?_, fun past entry rest m hsplit => ?_⟩
    fun r hr a ha => hr.step (fun _ hf => hf) (hfinds a ha)
  · rcases hd with hd | ⟨entry, he, -⟩
    · exact Or.inl hd
    · cases he
  · exact absurd hsplit (by simp)

/-- A reset whose marker is written silently to no effect, one that is cut after its first removal, one whose removal
of slot A is answered MISSING and leaves something undecodable, and a load. -/
def troubledResets : List ResetAction :=
  [⟨.factoryReset, [.write .ok .old], none⟩, ⟨.factoryReset, [], some 3⟩,
    ⟨.recoverPendingReset, [.none, .write .missing (.garbage [0])], none⟩, ⟨.load, [], none⟩]

theorem reset_atomic_troubled :
    let r := resetRun initial (pairOf (withTimeout 60, 4) (withTimeout 5, 3)) troubledResets
    (∀ a ∈ troubledResets, ∀ f ∈ a.faults, f.misses = false) ∧
      AtomicReset (pairOf (withTimeout 60, 4) (withTimeout 5, 3)) r :=
  ⟨by decide, reset_atomic initial (pairOf (withTimeout 60, 4) (withTimeout 5, 3)) troubledResets (by decide)⟩

theorem step_load (r : ResetRun) (faults : List Fault) :
    (r.step ⟨.load, faults, none⟩).history = r.history ++ [⟨r.manager, r.storage, ⟨.load, faults, none⟩,
      (r.step ⟨.load, faults, none⟩).storage, some (r.step ⟨.load, faults, none⟩).manager⟩] := by
  simp only [ResetRun.step, ResetCall.run, perform, Prog.run_bind, Prog.run_pure, Option.map_some]

theorem resetRun_concat (m : SettingsManager) (st : Storage) (actions : List ResetAction) (a : ResetAction) :
    resetRun m st (actions ++ [a]) = (resetRun m st actions).step a := by
  unfold resetRun
  rw [List.foldl_append]
  rfl

/-- A factory reset that gets no further than its marker. -/
def stalledReset : ResetAction := ⟨.factoryReset, [.none, .read .unavailable [] false], none⟩

/-- A load to which the marker is reported missing. -/
def missingLoad : ResetAction := ⟨.load, [.read .missing [] false], none⟩

def stalledRun : ResetRun := resetRun initial (pairOf (withTimeout 60, 4) (withTimeout 5, 3)) [stalledReset]

theorem stalledRun_missing :
    stalledRun.storage.marker = .pending ∧ (stalledRun.step missingLoad).storage.marker = .pending ∧
      (stalledRun.step missingLoad).manager.settings = withTimeout 60 := by
  decide +kernel

theorem stalledRun_durable : Durable (pairOf (withTimeout 60, 4) (withTimeout 5, 3)) stalledRun.history := by
  have hfinds : Finds fun f => f.misses = false := fun _ hf => hf
  have hpending := stalledRun_missing.1
  rw [stalledRun, ← List.nil_append [stalledReset], resetRun_concat] at hpending ⊢
  obtain ⟨x, hhistory, haction, hbefore, hafter, hleaves, -⟩ :=
    step_history hfinds (resetRun initial (pairOf (withTimeout 60, 4) (withTimeout 5, 3)) []) stalledReset (by decide)
  rw [hhistory, durable_concat]
  right
  rcases arms_or_untouched hfinds x (by rw [haction]; decide) (by rw [hbefore]; exact Marker.noConfusion) hleaves with
    ⟨harms, -⟩ | ⟨-, hsame⟩
  · exact harms
  · rw [← hafter, hsame, hbefore] at hpending
    cases hpending

/-- The marker is durable, and a load that does not find it yields the settings from before the reset. -/
theorem missed_marker_revives :
    let first := pairOf (withTimeout 60, 4) (withTimeout 5, 3)
    let r := resetRun initial first [stalledReset, missingLoad]
    r.storage.marker = .pending ∧ r.manager.settings = withTimeout 60 ∧ ¬ AtomicReset first r := by
  dsimp only
  rw [← List.singleton_append, resetRun_concat, ← stalledRun]
  refine ⟨stalledRun_missing.2.1, stalledRun_missing.2.2, fun h => ?_⟩
  have hdefaults := h.later stalledRun.history _ [] _ (step_load stalledRun _) stalledRun_durable rfl
  rw [← missingLoad, stalledRun_missing.2.2] at hdefaults
  exact absurd hdefaults (by decide)

end Run

end Redline.DeviceSettings
