import Redline.Lib.Prog

/-!
# Programs whose calls are logged

The calls of a program go to an environment that may answer anything.  A log lists the calls of a run with their
answers: `Logs p log a` says that `p` returns `a` when its calls are answered as in `log`, and `Ends p Q` that it
returns with `Q` of the log and the value, whatever is answered.

`ends_bind` chains programs and `Logs.ends` reads a proved `Ends` back on a run; `embed` lets a program make its calls
among those of a larger environment.
-/

namespace Redline.Lib

variable {Op Op' : Type} {Res : Op → Type} {Res' : Op' → Type} {α β : Type}

/-- A call with its answer. -/
structure Answer {Op : Type} (Res : Op → Type) where
  op : Op
  reply : Res op

theorem Answer.reply_inj {op : Op} {r r' : Res op} : (⟨op, r⟩ : Answer Res) = ⟨op, r'⟩ ↔ r = r' := by
  constructor
  · intro h
    cases h
    rfl
  · rintro rfl
    rfl

abbrev Log {Op : Type} (Res : Op → Type) := List (Answer Res)

namespace Prog

/-- The program returns `a` when its calls are answered as in the log. -/
inductive Logs : Prog Res α → Log Res → α → Prop
  | pure (a : α) : Logs (.pure a) [] a
  | call {op : Op} {next : Res op → Prog Res α} {log : Log Res} {a : α} (r : Res op) (h : Logs (next r) log a) :
      Logs (.call op next) (⟨op, r⟩ :: log) a

/-- Whatever is answered, the program returns with `Q` of its log and its value. -/
def Ends : Prog Res α → (Log Res → α → Prop) → Prop
  | .pure a, Q => Q [] a
  | .call op next, Q => ∀ r, (next r).Ends fun log a => Q (⟨op, r⟩ :: log) a

variable {p : Prog Res α} {f : α → Prog Res β} {Q Q' : Log Res → α → Prop} {log : Log Res} {a : α}

@[simp] theorem ends_pure : (Pure.pure a : Prog Res α).Ends Q ↔ Q [] a := Iff.rfl

theorem ends_bind {R : Log Res → β → Prop} :
    (p >>= f).Ends R ↔ p.Ends fun log a => (f a).Ends fun log' b => R (log ++ log') b := by
  induction p generalizing R with
  | pure a => rfl
  | call op next ih =>
    rw [call_bind]
    exact forall_congr' fun r => ih r

/-- A call answers anything. -/
theorem ends_ask (op : Op) {f : Res op → Prog Res α} (h : ∀ r, (f r).Ends fun log a => Q (⟨op, r⟩ :: log) a) :
    (lift op >>= f).Ends Q := h

theorem Ends.mono (h : p.Ends Q) (hQ : ∀ log a, Q log a → Q' log a) : p.Ends Q' := by
  induction p generalizing Q Q' with
  | pure a => exact hQ [] a h
  | call op next ih => exact fun r => ih r (h r) fun log a => hQ _ a

theorem ends_forall {ι : Type} {Q : ι → Log Res → α → Prop} :
    (p.Ends fun log a => ∀ i, Q i log a) ↔ ∀ i, p.Ends (Q i) := by
  induction p generalizing Q with
  | pure a => rfl
  | call op next ih =>
    constructor
    · exact fun h i r => (ih r).1 (h r) i
    · exact fun h r => (ih r).2 fun i => h i r

/-- **Chaining.** The second program goes on from what the first one ends with. -/
theorem Ends.bind {R : Log Res → β → Prop} (hp : p.Ends Q)
    (hf : ∀ log a, Q log a → (f a).Ends fun log' b => R (log ++ log') b) : (p >>= f).Ends R :=
  ends_bind.2 (hp.mono hf)

theorem Logs.ends (h : p.Logs log a) (hp : p.Ends Q) : Q log a := by
  induction h generalizing Q with
  | pure a => exact hp
  | call r _ ih => exact ih (hp r)

/-- What a device makes of a program is also what any answers make of it. -/
theorem wp_ends {σ : Type} {dev : Device Res σ} {R : α → σ → Prop} {C : σ → Prop} {s : σ} (h : wp dev R C p s)
    (hp : p.Ends Q) : wp dev (fun a s' => R a s' ∧ ∃ log, Q log a) C p s := by
  induction p generalizing s Q with
  | pure a => exact ⟨h, [], hp⟩
  | call op next ih =>
    refine ⟨h.1, wp_mono (fun a s' hr => ?_) (fun _ hc => hc) (ih _ h.2 (hp _))⟩
    obtain ⟨hR, log, hQ⟩ := hr
    exact ⟨hR, _ :: log, hQ⟩

/-- A run on a device ends as the program does. -/
theorem Ends.run {σ : Type} (h : p.Ends Q) (dev : Device Res σ) (s : σ) : ∃ log, Q log (p.run dev s).1 := by
  induction p generalizing Q s with
  | pure a => exact ⟨[], h⟩
  | call op next ih =>
    obtain ⟨log, hlog⟩ := ih (dev op s).1 (h _) (dev op s).2
    exact ⟨_ :: log, hlog⟩

theorem ends_logs (p : Prog Res α) : p.Ends fun log a => p.Logs log a := by
  induction p with
  | pure a => exact .pure a
  | call op next ih => exact fun r => (ih r).mono fun log a h => .call r h

theorem logs_pure {b : α} : (Pure.pure b : Prog Res α).Logs log a ↔ log = [] ∧ a = b := by
  constructor
  · rintro ⟨⟩
    exact ⟨rfl, rfl⟩
  · rintro ⟨rfl, rfl⟩
    exact .pure _

theorem logs_ask (op : Op) {f : Res op → Prog Res α} {r : Res op} (h : (f r).Logs log a) :
    (lift op >>= f).Logs (⟨op, r⟩ :: log) a := .call r h

/-- A run of two programs is a run of each. -/
theorem logs_bind {b : β} :
    (p >>= f).Logs log b ↔ ∃ past rest a, log = past ++ rest ∧ p.Logs past a ∧ (f a).Logs rest b := by
  induction p generalizing log with
  | pure a =>
    constructor
    · exact fun h => ⟨[], log, a, rfl, .pure a, h⟩
    · rintro ⟨past, rest, a, rfl, hp, hf⟩
      cases hp
      exact hf
  | call op next ih =>
    rw [call_bind]
    constructor
    · intro h
      cases h with
      | call r h =>
        obtain ⟨past, rest, a, rfl, hp, hf⟩ := (ih r).1 h
        exact ⟨⟨op, r⟩ :: past, rest, a, rfl, .call r hp, hf⟩
    · rintro ⟨past, rest, a, rfl, hp, hf⟩
      cases hp with
      | call r hp => exact .call r ((ih r).2 ⟨_, rest, a, rfl, hp, hf⟩)

/-- The answers determine where a program ends and with what. -/
theorem Logs.unique {log' rest rest' : Log Res} {a' : α} (h : p.Logs log a) (h' : p.Logs log' a')
    (heq : log ++ rest = log' ++ rest') : log = log' ∧ a = a' ∧ rest = rest' := by
  induction h generalizing log' with
  | pure a =>
    cases h'
    exact ⟨rfl, rfl, heq⟩
  | call r h ih =>
    cases h' with
    | call r' h' =>
      rw [List.cons_append, List.cons_append, List.cons.injEq, Answer.reply_inj] at heq
      obtain ⟨rfl, heq⟩ := heq
      obtain ⟨rfl, rfl, rfl⟩ := ih h' heq
      exact ⟨rfl, rfl, rfl⟩

/-! ### One answer for every call -/

/-- The log and the value, with the calls answered by an oracle. -/
def consult (oracle : (op : Op) → Res op) : Prog Res α → Log Res × α
  | .pure a => ([], a)
  | .call op next => (⟨op, oracle op⟩ :: ((next (oracle op)).consult oracle).1, ((next (oracle op)).consult oracle).2)

theorem logs_consult (oracle : (op : Op) → Res op) (p : Prog Res α) :
    p.Logs (p.consult oracle).1 (p.consult oracle).2 := by
  induction p with
  | pure a => exact .pure a
  | call op next ih => exact .call _ (ih _)

/-- The log and the value, with the calls answered by a device. -/
def record {σ : Type} (dev : Device Res σ) : Prog Res α → σ → (Log Res × α) × σ
  | .pure a, s => (([], a), s)
  | .call op next, s =>
    let r := (next (dev op s).1).record dev (dev op s).2
    ((⟨op, (dev op s).1⟩ :: r.1.1, r.1.2), r.2)

theorem logs_record {σ : Type} (dev : Device Res σ) (p : Prog Res α) (s : σ) :
    p.Logs (p.record dev s).1.1 (p.record dev s).1.2 := by
  induction p generalizing s with
  | pure a => exact .pure a
  | call op next ih => exact .call _ (ih _ _)

/-! ### Calls among others -/

/-- The program, with its calls made as calls of a larger environment. -/
def embed (call : Op → Op') (answer : (op : Op) → Res' (call op) → Res op) : Prog Res α → Prog Res' α
  | .pure a => .pure a
  | .call op next => .call (call op) fun r => (next (answer op r)).embed call answer

/-- The program, with each of its calls served by a program that keeps a state. -/
def handle {σ : Type} (serve : σ → (op : Op) → Prog Res' (σ × Res op)) : σ → Prog Res α → Prog Res' (σ × α)
  | s, .pure a => .pure (s, a)
  | s, .call op next => serve s op >>= fun r => (next r.2).handle serve r.1

/-- An embedded program returns what the program may return, and makes no other calls. -/
theorem ends_embed {call : Op → Op'} {answer : (op : Op) → Res' (call op) → Res op} {Q : Log Res' → α → Prop}
    (h : ∀ log ops a, Returns (fun _ _ => True) p ops a → (∀ entry ∈ log, ∃ op, Answer.op entry = call op) → Q log a) :
    (p.embed call answer).Ends Q := by
  induction p generalizing Q with
  | pure a => exact h [] [] a (.pure a) nofun
  | call op next ih =>
    intro r
    refine ih (answer op r) fun log ops a hr hlog => h _ (op :: ops) a (.call _ trivial hr) fun entry hentry => ?_
    rcases List.mem_cons.1 hentry with rfl | hentry
    · exact ⟨op, rfl⟩
    · exact hlog entry hentry

end Prog

end Redline.Lib
