import Redline.Lib.Script

/-!
# Drivers: the calls of one interface carried out over another

`p.through driver` is the program `p` with each of its calls carried out by a program over other primitives.

`Copes dev faults Q C p s`: whatever admitted faults its calls meet, the program `p` started in `s` returns with `Q`,
and wherever power is lost inside a call, the device is left with `C`.  It is a condition on the tree of the program
and mentions no script; `Copes.perform` and `Copes.cutDuring` read it on the executions under a script, and
`copes_outcomes` says that these executions are all there is.

`Carries` relates two devices by a driver: each call of the upper interface, carried out below, ends as the call itself
may end above.  Then every execution of a program through the driver is one of the program itself
(`Carries.performs`, `Carries.returns`, `Carries.cuts`).
-/

namespace Redline.Lib

variable {Op Op' : Type} {Res : Op → Type} {Res' : Op' → Type} {F F' σ τ α β : Type}

/-- The program with its calls carried out by the driver. -/
def Prog.through (driver : (op : Op) → Prog Res' (Res op)) : Prog Res α → Prog Res' α
  | .pure a => .pure a
  | .call op next => driver op >>= fun r => (next r).through driver

/-- A program under a script whose call number `n` is cut by a loss of power: that call leaves the device as it does
when it meets the fault `cut`.  A program that has returned by then has its value. -/
def cutDuring (dev : F → Device Res σ) (calm cut : F) : Prog Res α → List F → ℕ → σ → Option α × σ
  | .pure a, _, _, s => (some a, s)
  | .call op _, _, 0, s => (none, (dev cut op s).2)
  | .call op next, script, n + 1, s =>
    cutDuring dev calm cut (next (dev (script.headD calm) op s).1) script.tail n (dev (script.headD calm) op s).2

/-- The faults that the calls of a device meet: `allowed` those of a call that is answered, `cut` those of a call in
which power is lost. -/
structure Faults (F : Type) where
  calm : F
  allowed : F → Prop
  cut : F → Prop
  allowed_calm : allowed calm

/-- The faults of a device on which calls fail at all only if `fails`. -/
def Faults.given (calm : F) (fails : Prop) (cut : F → Prop) : Faults F :=
  ⟨calm, fun f => f = calm ∨ fails, cut, Or.inl rfl⟩

/-- Whatever faults the calls meet, and wherever power is lost. -/
def Copes (dev : F → Device Res σ) (faults : Faults F) (Q : α → σ → Prop) (C : σ → Prop) : Prog Res α → σ → Prop
  | .pure a, s => Q a s
  | .call op next, s =>
    (∀ cut, faults.cut cut → C (dev cut op s).2) ∧
      ∀ fault, faults.allowed fault → Copes dev faults Q C (next (dev fault op s).1) (dev fault op s).2

/-- A program that may make any call. -/
theorem Prog.calls_of_forall {permitted : Op → Prop} (h : ∀ op, permitted op) (p : Prog Res α) : p.Calls permitted := by
  induction p with
  | pure a => trivial
  | call op next ih => exact ⟨h op, ih⟩

/-- A script of faults, if calls may fail unless the script is calm. -/
theorem allowed_unless_calm {calm : F} {cut : F → Prop} {script : List F} {proper : Prop} :
    ∀ f ∈ script, (Faults.given calm (¬ ((∀ f ∈ script, f = calm) ∧ proper)) cut).allowed f := by
  intro f hf
  by_cases hcalm : (∀ f ∈ script, f = calm) ∧ proper
  · exact Or.inl (hcalm.1 f hf)
  · exact Or.inr hcalm

/-- The calls of a program, if any may be made unless they all are permitted. -/
theorem Prog.calls_unless {permitted : Op → Prop} (quiet : Prop) (p : Prog Res α) :
    p.Calls fun op => ¬ (quiet ∧ p.Calls permitted) ∨ permitted op := by
  by_cases hquiet : quiet ∧ p.Calls permitted
  · exact hquiet.2.mono fun _ => Or.inr
  · exact Prog.calls_of_forall (fun _ => Or.inl hquiet) p

section Rules

variable {dev : F → Device Res σ} {faults : Faults F} {Q Q' : α → σ → Prop} {C C' : σ → Prop} {s : σ}

@[simp] theorem copes_pure {a : α} : Copes dev faults Q C (pure a : Prog Res α) s ↔ Q a s := Iff.rfl

theorem copes_bind {p : Prog Res β} {f : β → Prog Res α}
    (h : Copes dev faults (fun b t => Copes dev faults Q C (f b) t) C p s) : Copes dev faults Q C (p >>= f) s := by
  induction p generalizing s with
  | pure b => exact h
  | call op next ih =>
    constructor
    · exact h.1
    · intro fault hfault
      apply ih
      exact h.2 fault hfault

theorem copes_mono (hQ : ∀ a t, Q a t → Q' a t) (hC : ∀ t, C t → C' t) {p : Prog Res α}
    (h : Copes dev faults Q C p s) : Copes dev faults Q' C' p s := by
  induction p generalizing s with
  | pure a => exact hQ a s h
  | call op next ih =>
    constructor
    · intro cut hcut
      apply hC
      exact h.1 cut hcut
    · intro fault hfault
      apply ih
      exact h.2 fault hfault

/-! ### Executions under a script -/

theorem allowed_headD {script : List F} (hscript : ∀ f ∈ script, faults.allowed f) :
    faults.allowed (script.headD faults.calm) := by
  cases script with
  | nil => exact faults.allowed_calm
  | cons fault script => exact hscript fault (by simp)

theorem perform_step (dev : F → Device Res σ) (calm : F) (op : Op) (next : Res op → Prog Res α) (script : List F)
    (s : σ) : perform dev calm (.call op next) script s =
      perform dev calm (next (dev (script.headD calm) op s).1) script.tail (dev (script.headD calm) op s).2 := by
  cases script <;> rfl

theorem Copes.perform {p : Prog Res α} (h : Copes dev faults Q C p s) (script : List F)
    (hscript : ∀ f ∈ script, faults.allowed f) :
    Q (perform dev faults.calm p script s).1 (perform dev faults.calm p script s).2 := by
  induction p generalizing s script with
  | pure a => exact h
  | call op next ih =>
    rw [perform_step]
    apply ih _ (h.2 _ (allowed_headD hscript))
    intro f hf
    exact hscript f (List.mem_of_mem_tail hf)

theorem Copes.cutDuring {p : Prog Res α} (h : Copes dev faults Q C p s) (script : List F)
    (hscript : ∀ f ∈ script, faults.allowed f) (n : ℕ) {cut : F} (hcut : faults.cut cut) :
    match Lib.cutDuring dev faults.calm cut p script n s with
    | (some a, t) => Q a t
    | (none, t) => C t := by
  induction p generalizing s script n with
  | pure a => exact h
  | call op next ih =>
    cases n with
    | zero => exact h.1 cut hcut
    | succ n =>
      apply ih _ (h.2 _ (allowed_headD hscript)) script.tail
      intro f hf
      exact hscript f (List.mem_of_mem_tail hf)

/-- The executions of a program under the admitted scripts, cut or not, are all its outcomes. -/
theorem copes_outcomes (dev : F → Device Res σ) (faults : Faults F) (p : Prog Res α) (s : σ) :
    Copes dev faults
      (fun a t => ∃ script, (∀ f ∈ script, faults.allowed f) ∧ Lib.perform dev faults.calm p script s = (a, t))
      (fun t => ∃ script n cut, (∀ f ∈ script, faults.allowed f) ∧ faults.cut cut ∧
        Lib.cutDuring dev faults.calm cut p script n s = (none, t)) p s := by
  induction p generalizing s with
  | pure a => exact ⟨[], by simp, rfl⟩
  | call op next ih =>
    constructor
    · intro cut hcut
      exact ⟨[], 0, cut, by simp, hcut, rfl⟩
    · intro fault hfault
      refine copes_mono ?_ ?_ (ih _ _)
      · rintro a t ⟨script, hscript, hperform⟩
        refine ⟨fault :: script, ?_, hperform⟩
        simpa using ⟨hfault, hscript⟩
      · rintro t ⟨script, n, cut, hscript, hcut, hlost⟩
        refine ⟨fault :: script, n + 1, cut, ?_, hcut, hlost⟩
        simpa using ⟨hfault, hscript⟩

/-- A loss of power inside a call is one in front of the call after it, when that call meets the fault. -/
theorem interrupt_of_cutDuring {calm cut : F} {p : Prog Res α} {script : List F} {n : ℕ} {t : σ}
    (h : Lib.cutDuring dev calm cut p script n s = (none, t)) :
    ∃ script', (∀ f ∈ script', f ∈ script ∨ f = cut ∨ f = calm) ∧
      (interrupt dev calm p script' (n + 1) s).2 = t := by
  induction p generalizing s script n with
  | pure a => cases h
  | call op next ih =>
    cases n with
    | zero =>
      cases h
      refine ⟨[cut], by simp, ?_⟩
      apply interrupt_zero
    | succ n =>
      obtain ⟨script', hscript', hlost⟩ := ih _ h
      refine ⟨script.headD calm :: script', ?_, hlost⟩
      intro f hf
      rcases List.mem_cons.1 hf with rfl | hf
      · cases script <;> simp
      · rcases hscript' f hf with hf | hf
        · exact Or.inl (List.mem_of_mem_tail hf)
        · exact Or.inr hf

end Rules

/-! ### One device carried by another -/

/-- Carried out by the driver on the device `low`, a permitted call of `high` is answered as it may be answered there,
and a loss of power leaves what one inside the call leaves there.  `R` relates the two devices between the calls, `C`
after a loss of power. -/
structure Carries (low : F → Device Res' σ) (faults : Faults F) (driver : (op : Op) → Prog Res' (Res op))
    (high : F' → Device Res τ) (faults' : Faults F') (permitted : Op → Prop) (R C : σ → τ → Prop) : Prop where
  call : ∀ op s t, permitted op → R s t →
    Copes low faults
      (fun r s' => ∃ fault, faults'.allowed fault ∧ r = (high fault op t).1 ∧ R s' (high fault op t).2)
      (fun s' => ∃ cut, faults'.cut cut ∧ C s' (high cut op t).2) (driver op) s

section Carries

variable {low : F → Device Res' σ} {faults : Faults F} {driver : (op : Op) → Prog Res' (Res op)}
  {high : F' → Device Res τ} {faults' : Faults F'} {permitted : Op → Prop} {R C : σ → τ → Prop}
  {Q : α → τ → Prop} {P : τ → Prop} {s : σ} {t : τ}

/-- **Transport.** What a program copes with above, it copes with below. -/
theorem Carries.copes (h : Carries low faults driver high faults' permitted R C) {p : Prog Res α}
    (hp : p.Calls permitted) (hR : R s t) (hcopes : Copes high faults' Q P p t) :
    Copes low faults (fun a s' => ∃ t', R s' t' ∧ Q a t') (fun s' => ∃ t', C s' t' ∧ P t') (p.through driver) s := by
  induction p generalizing s t with
  | pure a => exact ⟨t, hR, hcopes⟩
  | call op next ih =>
    apply copes_bind
    refine copes_mono ?_ ?_ (h.call op s t hp.1 hR)
    · rintro r s' ⟨fault, hfault, rfl, hR'⟩
      exact ih _ (hp.2 _) hR' (hcopes.2 fault hfault)
    · rintro s' ⟨cut, hcut, hC⟩
      exact ⟨_, hC, hcopes.1 cut hcut⟩

/-- What holds between the calls and after a loss of power, holds at the end. -/
theorem Carries.keeps (h : Carries low faults driver high faults' permitted R C) {p : Prog Res α}
    (hp : p.Calls permitted) (hR : R s t) {I : σ → Prop} (hRI : ∀ s t, R s t → I s) (hCI : ∀ s t, C s t → I s) :
    Copes low faults (fun _ s' => I s') I (p.through driver) s := by
  apply copes_mono _ _ (h.copes hp hR (copes_outcomes high faults' p t))
  · rintro a s' ⟨t', hR', -⟩
    exact hRI s' t' hR'
  · rintro s' ⟨t', hC', -⟩
    exact hCI s' t' hC'

/-- **Refinement, executions that return.** -/
theorem Carries.performs (h : Carries low faults driver high faults' permitted R C) {p : Prog Res α}
    (hp : p.Calls permitted) (hR : R s t) {script : List F} (hscript : ∀ f ∈ script, faults.allowed f) :
    ∃ script', (∀ f ∈ script', faults'.allowed f) ∧
      (perform high faults'.calm p script' t).1 = (perform low faults.calm (p.through driver) script s).1 ∧
      R (perform low faults.calm (p.through driver) script s).2 (perform high faults'.calm p script' t).2 := by
  have hcopes := (h.copes hp hR (copes_outcomes high faults' p t)).perform script hscript
  obtain ⟨t', hR', script', hscript', hperform⟩ := hcopes
  refine ⟨script', hscript', ?_⟩
  rw [hperform]
  exact ⟨rfl, hR'⟩

/-- **Refinement, a cut that comes after the end.** -/
theorem Carries.returns (h : Carries low faults driver high faults' permitted R C) {p : Prog Res α}
    (hp : p.Calls permitted) (hR : R s t) {script : List F} (hscript : ∀ f ∈ script, faults.allowed f) {n : ℕ} {cut : F}
    (hcut : faults.cut cut) {a : α} {s' : σ}
    (hlow : cutDuring low faults.calm cut (p.through driver) script n s = (some a, s')) :
    ∃ script' t', (∀ f ∈ script', faults'.allowed f) ∧ perform high faults'.calm p script' t = (a, t') ∧ R s' t' := by
  have hcopes := (h.copes hp hR (copes_outcomes high faults' p t)).cutDuring script hscript n hcut
  rw [hlow] at hcopes
  obtain ⟨t', hR', script', hscript', hperform⟩ := hcopes
  exact ⟨script', t', hscript', hperform, hR'⟩

/-- **Refinement, executions that are cut.** -/
theorem Carries.cuts (h : Carries low faults driver high faults' permitted R C) {p : Prog Res α}
    (hp : p.Calls permitted) (hR : R s t) {script : List F} (hscript : ∀ f ∈ script, faults.allowed f) {n : ℕ} {cut : F}
    (hcut : faults.cut cut) {s' : σ}
    (hlow : cutDuring low faults.calm cut (p.through driver) script n s = (none, s')) :
    ∃ script' n' cut' t', (∀ f ∈ script', faults'.allowed f) ∧ faults'.cut cut' ∧
      cutDuring high faults'.calm cut' p script' n' t = (none, t') ∧ C s' t' := by
  have hcopes := (h.copes hp hR (copes_outcomes high faults' p t)).cutDuring script hscript n hcut
  rw [hlow] at hcopes
  obtain ⟨t', hC, script', n', cut', hscript', hcut', hlost⟩ := hcopes
  exact ⟨script', n', cut', t', hscript', hcut', hlost, hC⟩

end Carries

end Redline.Lib
