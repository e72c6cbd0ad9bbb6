import Redline.Lib.Prog

/-!
# Devices that fail by a script

Each call of a device may meet a fault: `dev f` is the device as it answers a call that meets the fault `f`.  A
script lists the faults of the calls to come, one for each call, and the device is `calm` from its end on
(`scripted`).

`Always dev calm allowed Q C p s`: whatever the script of allowed faults, the program `p` started in `s` returns with
`Q`, and `C` holds in front of each of its calls.  A call that is cut by a loss of power leaves the device as a failing
call does, so that `C` after the call is the condition on what the cut leaves (`always_interrupt`).
-/

namespace Redline.Lib

variable {Op : Type} {Res : Op → Type} {F σ α β : Type}

/-- The device that meets the faults of a script, and none after it. -/
def scripted (dev : F → Device Res σ) (calm : F) : Device Res (σ × List F)
  | op, (s, []) => ((dev calm op s).1, (dev calm op s).2, [])
  | op, (s, f :: script) => ((dev f op s).1, (dev f op s).2, script)

/-- A program under a script: its value and the state it leaves. -/
def perform (dev : F → Device Res σ) (calm : F) (p : Prog Res α) (script : List F) (s : σ) : α × σ :=
  ((p.run (scripted dev calm) (s, script)).1, (p.run (scripted dev calm) (s, script)).2.1)

/-- A program under a script, stopped in front of the call number `n`: its value if it has returned by then, and the
state it leaves. -/
def interrupt (dev : F → Device Res σ) (calm : F) (p : Prog Res α) (script : List F) (n : ℕ) (s : σ) : Option α × σ :=
  ((p.runFor (scripted dev calm) n (s, script)).1, (p.runFor (scripted dev calm) n (s, script)).2.1)

/-- Whatever the script, as long as its faults are allowed. -/
def Always (dev : F → Device Res σ) (calm : F) (allowed : F → Prop) (Q : α → σ → Prop) (C : σ → Prop) (p : Prog Res α)
    (s : σ) : Prop :=
  ∀ script, (∀ f ∈ script, allowed f) → p.wp (scripted dev calm) (fun a t => Q a t.1) (fun t => C t.1) (s, script)

section Rules

variable {dev : F → Device Res σ} {calm : F} {allowed : F → Prop} {Q Q' : α → σ → Prop} {C C' : σ → Prop} {s : σ}

/-- What is left of a script of allowed faults. -/
theorem wp_scripted_allowed (p : Prog Res α) : ∀ {script : List F} {s : σ}, (∀ f ∈ script, allowed f) →
    p.wp (scripted dev calm) (fun _ t => ∀ f ∈ t.2, allowed f) (fun _ => True) (s, script) := by
  induction p with
  | pure a => exact fun h => h
  | call op next ih =>
    intro script s h
    cases script with
    | nil => exact ⟨trivial, ih _ h⟩
    | cons fault script => exact ⟨trivial, ih _ fun f hf => h f (List.mem_cons_of_mem _ hf)⟩

theorem always_pure {a : α} : Always dev calm allowed Q C (pure a) s ↔ Q a s :=
  ⟨fun h => h [] fun _ hf => absurd hf List.not_mem_nil, fun h _ _ => h⟩

theorem always_bind {p : Prog Res β} {f : β → Prog Res α}
    (h : Always dev calm allowed (fun b t => Always dev calm allowed Q C (f b) t) C p s) :
    Always dev calm allowed Q C (p >>= f) s := by
  intro script hscript
  refine Prog.wp_bind.2 (Prog.wp_mono ?_ ?_ (Prog.wp_and (h script hscript) (wp_scripted_allowed p hscript)))
  · rintro b t ⟨hb, hrest⟩
    exact hb t.2 hrest
  · exact fun t ht => ht.1

theorem always_mono (hQ : ∀ a t, Q a t → Q' a t) (hC : ∀ t, C t → C' t) {p : Prog Res α}
    (h : Always dev calm allowed Q C p s) : Always dev calm allowed Q' C' p s :=
  fun script hscript =>
    Prog.wp_mono (fun a (t : σ × List F) => hQ a t.1) (fun t => hC t.1) (h script hscript)

theorem always_and {p : Prog Res α} (h : Always dev calm allowed Q C p s) (h' : Always dev calm allowed Q' C' p s) :
    Always dev calm allowed (fun a t => Q a t ∧ Q' a t) (fun t => C t ∧ C' t) p s :=
  fun script hscript => Prog.wp_and (h script hscript) (h' script hscript)

/-- One call: the condition in front of it, and the rest after no fault and after every one that is allowed. -/
theorem always_call {op : Op} {f : Res op → Prog Res α} (hC : C s)
    (hcalm : Always dev calm allowed Q C (f (dev calm op s).1) (dev calm op s).2)
    (h : ∀ fault, allowed fault → Always dev calm allowed Q C (f (dev fault op s).1) (dev fault op s).2) :
    Always dev calm allowed Q C (Prog.lift op >>= f) s := by
  intro script hscript
  cases script with
  | nil => exact ⟨hC, hcalm [] hscript⟩
  | cons fault script =>
    have hrest : ∀ f ∈ script, allowed f := fun f hf => hscript f (List.mem_cons_of_mem _ hf)
    exact ⟨hC, h fault (hscript fault List.mem_cons_self) script hrest⟩

/-- What holds always holds of every performance. -/
theorem always_perform {p : Prog Res α} (h : Always dev calm allowed Q C p s) (script : List F)
    (hscript : ∀ f ∈ script, allowed f) :
    Q (perform dev calm p script s).1 (perform dev calm p script s).2 :=
  Prog.wp_run (h script hscript)

/-- What holds always holds wherever the program is stopped. -/
theorem always_interrupt {p : Prog Res α} (h : Always dev calm allowed Q C p s) (script : List F)
    (hscript : ∀ f ∈ script, allowed f) (n : ℕ) (hQ : ∀ a t, Q a t → C t) :
    C (interrupt dev calm p script n s).2 := by
  have hn := Prog.wp_runFor (h script hscript) n
  unfold interrupt
  split at hn <;> rename_i heq <;> rw [heq]
  · exact hQ _ _ hn
  · exact hn

end Rules

/-! ### The first call of a program -/

section First

variable {dev : F → Device Res σ} {calm : F} {op : Op} {f : Res op → Prog Res α}

theorem interrupt_zero (p : Prog Res α) (script : List F) (s : σ) : (interrupt dev calm p script 0 s).2 = s := by
  cases p <;> rfl

/-- A stop after the first call is a stop in what follows it. -/
theorem interrupt_succ (script : List F) (n : ℕ) (s : σ) :
    interrupt dev calm (Prog.lift op >>= f) script (n + 1) s =
      interrupt dev calm (f (dev (script.headD calm) op s).1) script.tail n (dev (script.headD calm) op s).2 := by
  cases script <;> rfl

theorem perform_call (script : List F) (s : σ) :
    perform dev calm (Prog.lift op >>= f) script s =
      perform dev calm (f (dev (script.headD calm) op s).1) script.tail (dev (script.headD calm) op s).2 := by
  cases script <;> rfl

end First

/-! ### Calm devices -/

section Calm

variable {dev : F → Device Res σ} {calm : F}

/-- A program that meets no fault. -/
def settle (dev : F → Device Res σ) (calm : F) (p : Prog Res α) (s : σ) : α × σ := p.run (dev calm) s

/-- Without a script. -/
theorem perform_nil (p : Prog Res α) (s : σ) : perform dev calm p [] s = settle dev calm p s := by
  have hrun : ∀ (p : Prog Res α) s, p.run (scripted dev calm) (s, []) = ((settle dev calm p s).1,
      (settle dev calm p s).2, []) := by
    intro p
    induction p with
    | pure a => exact fun s => rfl
    | call op next ih => exact fun s => ih _ _
  unfold perform
  rw [hrun]

theorem settle_bind (p : Prog Res β) (f : β → Prog Res α) (s : σ) :
    settle dev calm (p >>= f) s = settle dev calm (f (settle dev calm p s).1) (settle dev calm p s).2 :=
  Prog.run_bind p f s

end Calm

end Redline.Lib
