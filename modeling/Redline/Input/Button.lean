import Mathlib.Data.List.Basic
import Mathlib.Data.List.Induction
import Redline.Lib.Trace

/-!
# The button

`Button.update` of the device input: a level is debounced, a press that lasts is reported as a long and then as a very
long one, and a button that is held when the device starts is ignored until it is let go.

The two slots of `ButtonEvents` hold what one sample can report.  `updateWith` has the place where it writes its events
as a parameter: with `twoSlots` it is the source's `update`, with `unbounded` nothing can be lost.

The abstract button has four phases and `Emits` says what each of them may report.  One update of the source is one
step of it (`update_emits`), from which the grammar of the events is read (`button_grammar`).
-/

namespace Redline.Input

open Redline.Lib

/-! ### Events -/

inductive ButtonEvent
  | none | press | release | shortPress | longPress | veryLongPress
  deriving DecidableEq

/-- What one sample reports; `first` precedes `second`. -/
structure ButtonEvents where
  first : ButtonEvent
  second : ButtonEvent
  deriving DecidableEq

def ButtonEvents.append (events : ButtonEvents) (event : ButtonEvent) : ButtonEvents :=
  if events.first = .none then { events with first := event }
  else if events.second = .none then { events with second := event }
  else events

/-- The events in their order. -/
def ButtonEvents.toList (events : ButtonEvents) : List ButtonEvent :=
  [events.first, events.second].filter (· ≠ .none)

/-- A place to write events to.  What is appended to a place with no event or with one goes where an assignment to the
first or the second slot would put it. -/
structure EventBuffer (β : Type) where
  empty : β
  setFirst : β → ButtonEvent → β
  setSecond : β → ButtonEvent → β
  append : β → ButtonEvent → β
  append_empty : ∀ event, append empty event = setFirst empty event
  append_first : ∀ event event', event ≠ .none →
    append (setFirst empty event) event' = setSecond (setFirst empty event) event'

/-- The buffer of the source, which drops a third event. -/
def twoSlots : EventBuffer ButtonEvents where
  empty := ⟨.none, .none⟩
  setFirst events event := { events with first := event }
  setSecond events event := { events with second := event }
  append := .append
  append_empty _ := rfl
  append_first event _ h := by simp [ButtonEvents.append, h]

/-- A buffer that keeps every event. -/
def unbounded : EventBuffer (List ButtonEvent) where
  empty := []
  setFirst events event := events ++ [event]
  setSecond events event := events ++ [event]
  append events event := events ++ [event]
  append_empty _ := rfl
  append_first _ _ _ := rfl

section Collect

variable {β : Type} {buffer : EventBuffer β} {raised : List ButtonEvent} {event : ButtonEvent}

/-- The buffer after the events. -/
def EventBuffer.collect (buffer : EventBuffer β) (raised : List ButtonEvent) : β :=
  raised.foldl buffer.append buffer.empty

theorem collect_concat : buffer.collect (raised ++ [event]) = buffer.append (buffer.collect raised) event := by
  simp [EventBuffer.collect]

theorem collect_one : buffer.collect [event] = buffer.setFirst buffer.empty event := by
  simp [EventBuffer.collect, buffer.append_empty]

theorem collect_two {event' : ButtonEvent} (h : event ≠ .none) :
    buffer.collect [event, event'] = buffer.setSecond (buffer.setFirst buffer.empty event) event' := by
  simp [EventBuffer.collect, buffer.append_empty, buffer.append_first _ _ h]

theorem collect_unbounded : unbounded.collect raised = raised := by
  induction raised using List.reverseRecOn with
  | nil => rfl
  | append_singleton raised event ih =>
    rw [collect_concat, ih]
    rfl

end Collect

/-! ### The state and its update -/

structure Button where
  debounceMs : UInt32
  longPressMs : UInt32
  veryLongPressMs : UInt32
  initialized : Bool
  armed : Bool
  stablePressed : Bool
  candidatePressed : Bool
  longPressEmitted : Bool
  veryLongPressEmitted : Bool
  candidateSinceMs : UInt32
  pressSinceMs : UInt32
  deriving DecidableEq

def Button.make (debounceMs longPressMs veryLongPressMs : UInt32) : Button :=
  ⟨debounceMs, longPressMs, veryLongPressMs, false, false, false, false, false, false, 0, 0⟩

/-- A level and the time at which it was read. -/
structure Sample where
  pressed : Bool
  nowMs : UInt32
  deriving DecidableEq

/-- Time goes round at `2 ^ 32`. -/
def elapsed (nowMs sinceMs : UInt32) : UInt32 := nowMs - sinceMs

namespace Button

variable {β : Type}

/-- A new level is a candidate from now on. -/
def offer (b : Button) (pressed : Bool) (nowMs : UInt32) : Button :=
  if b.candidatePressed ≠ pressed then { b with candidatePressed := pressed, candidateSinceMs := nowMs } else b

def updateStartupHeldState (b : Button) (pressed : Bool) (nowMs : UInt32) : Button :=
  if pressed then { b with candidatePressed := true, candidateSinceMs := nowMs }
  else
    let b := b.offer false nowMs
    if elapsed nowMs b.candidateSinceMs ≥ b.debounceMs then { b with stablePressed := false, armed := true } else b

/-- The debounced level and what its change reports. -/
def settle (buffer : EventBuffer β) (b : Button) (pressed : Bool) (nowMs : UInt32) : Button × β :=
  if pressed = b.stablePressed then
    ({ b with candidatePressed := b.stablePressed, candidateSinceMs := nowMs }, buffer.empty)
  else
    let b := b.offer pressed nowMs
    if elapsed nowMs b.candidateSinceMs ≥ b.debounceMs then
      let b := { b with stablePressed := pressed }
      if b.stablePressed then
        ({ b with pressSinceMs := nowMs, longPressEmitted := false, veryLongPressEmitted := false },
          buffer.setFirst buffer.empty .press)
      else
        let events := buffer.setFirst buffer.empty .release
        (b, if !b.longPressEmitted then buffer.setSecond events .shortPress else events)
    else (b, buffer.empty)

def reportLongPress (buffer : EventBuffer β) (b : Button) (nowMs : UInt32) (events : β) : Button × β :=
  if b.stablePressed && !b.longPressEmitted && elapsed nowMs b.pressSinceMs ≥ b.longPressMs then
    ({ b with longPressEmitted := true }, buffer.append events .longPress)
  else (b, events)

def reportVeryLongPress (buffer : EventBuffer β) (b : Button) (nowMs : UInt32) (events : β) : Button × β :=
  if b.stablePressed && !b.veryLongPressEmitted && elapsed nowMs b.pressSinceMs ≥ b.veryLongPressMs then
    ({ b with veryLongPressEmitted := true }, buffer.append events .veryLongPress)
  else (b, events)

/-- The two reports of the hold timer, in the order of the source. -/
def report (buffer : EventBuffer β) (b : Button) (nowMs : UInt32) (events : β) : Button × β :=
  let (b, events) := b.reportLongPress buffer nowMs events
  b.reportVeryLongPress buffer nowMs events

def updateWith (buffer : EventBuffer β) (b : Button) (sample : Sample) : Button × β :=
  if !b.initialized then
    ({ b with
      initialized := true, stablePressed := sample.pressed, candidatePressed := sample.pressed,
      candidateSinceMs := sample.nowMs, armed := !sample.pressed }, buffer.empty)
  else if !b.armed then (b.updateStartupHeldState sample.pressed sample.nowMs, buffer.empty)
  else
    let (b, events) := b.settle buffer sample.pressed sample.nowMs
    b.report buffer sample.nowMs events

/-- `Button::update`. -/
def update (b : Button) (sample : Sample) : Button × ButtonEvents := b.updateWith twoSlots sample

/-- What the updates report, one after the other. -/
def feedWith (buffer : EventBuffer β) : Button → List Sample → List β
  | _, [] => []
  | b, sample :: samples => (b.updateWith buffer sample).2 :: (b.updateWith buffer sample).1.feedWith buffer samples

def feed (b : Button) (samples : List Sample) : List ButtonEvents := b.feedWith twoSlots samples

end Button

/-! ### Phases -/

/-- Where a gesture is: no press yet, pressed, reported as long, reported as very long. -/
inductive Phase
  | up | down | long | veryLong
  deriving DecidableEq

/-- The abstract button: what one sample may report in each phase, and the phase after it. -/
inductive Emits : Phase → List ButtonEvent → Phase → Prop
  | quiet (phase : Phase) : Emits phase [] phase
  | press : Emits .up [.press] .down
  | shortRelease : Emits .down [.release, .shortPress] .up
  | longPress : Emits .down [.longPress] .long
  | longAndVeryLongPress : Emits .down [.longPress, .veryLongPress] .veryLong
  | veryLongPress : Emits .long [.veryLongPress] .veryLong
  | longRelease : Emits .long [.release] .up
  | veryLongRelease : Emits .veryLong [.release] .up

theorem Emits.phase_eq {phase phase' : Phase} (h : Emits phase [] phase') : phase' = phase := by
  cases h
  rfl

namespace Button

variable {b : Button} {sample : Sample} {pressed : Bool} {nowMs : UInt32}

def phase (b : Button) : Phase :=
  if !b.armed || !b.stablePressed then .up
  else if b.veryLongPressEmitted then .veryLong
  else if b.longPressEmitted then .long
  else .down

/-- A button whose long press comes after its press and no later than its very long one. -/
structure Valid (b : Button) : Prop where
  positive : 0 < b.longPressMs
  ordered : b.longPressMs ≤ b.veryLongPressMs
  initialized : b.armed = true → b.initialized = true
  reported : b.armed = true → b.stablePressed = true → b.veryLongPressEmitted = true → b.longPressEmitted = true

/-- The level and the hold timer, with the debouncing left out. -/
structure Held (b b' : Button) : Prop where
  longPressMs : b'.longPressMs = b.longPressMs
  veryLongPressMs : b'.veryLongPressMs = b.veryLongPressMs
  initialized : b'.initialized = b.initialized
  armed : b'.armed = b.armed

theorem Valid.held {b' : Button} (hb : b.Valid) (hheld : Held b b')
    (hreported : b'.armed = true → b'.stablePressed = true → b'.veryLongPressEmitted = true →
      b'.longPressEmitted = true) : b'.Valid where
  positive := hheld.longPressMs ▸ hb.positive
  ordered := hheld.longPressMs ▸ hheld.veryLongPressMs ▸ hb.ordered
  initialized := by
    rw [hheld.armed, hheld.initialized]
    exact hb.initialized
  reported := hreported

/-- What the debounced level may do in one update. -/
inductive Settles (nowMs : UInt32) (b b' : Button) : List ButtonEvent → Prop
  | stays (stablePressed : b'.stablePressed = b.stablePressed) (pressSinceMs : b'.pressSinceMs = b.pressSinceMs)
      (longPressEmitted : b'.longPressEmitted = b.longPressEmitted)
      (veryLongPressEmitted : b'.veryLongPressEmitted = b.veryLongPressEmitted) : Settles nowMs b b' []
  | press (before : b.stablePressed = false) (after : b'.stablePressed = true) (pressSinceMs : b'.pressSinceMs = nowMs)
      (longPressEmitted : b'.longPressEmitted = false) (veryLongPressEmitted : b'.veryLongPressEmitted = false) :
      Settles nowMs b b' [.press]
  | shortRelease (before : b.stablePressed = true) (after : b'.stablePressed = false)
      (longPressEmitted : b.longPressEmitted = false) : Settles nowMs b b' [.release, .shortPress]
  | longRelease (before : b.stablePressed = true) (after : b'.stablePressed = false)
      (longPressEmitted : b.longPressEmitted = true) : Settles nowMs b b' [.release]

theorem offer_spec (b : Button) (pressed : Bool) (nowMs : UInt32) :
    Held b (b.offer pressed nowMs) ∧ Settles nowMs b (b.offer pressed nowMs) [] := by
  unfold offer
  split
  · exact ⟨⟨rfl, rfl, rfl, rfl⟩, .stays rfl rfl rfl rfl⟩
  · exact ⟨⟨rfl, rfl, rfl, rfl⟩, .stays rfl rfl rfl rfl⟩

theorem settle_spec (b : Button) (pressed : Bool) (nowMs : UInt32) :
    ∃ b' raised, Held b b' ∧ Settles nowMs b b' raised ∧
      ∀ {β : Type} (buffer : EventBuffer β), b.settle buffer pressed nowMs = (b', buffer.collect raised) := by
  by_cases hsame : pressed = b.stablePressed
  · refine ⟨{ b with candidatePressed := b.stablePressed, candidateSinceMs := nowMs }, [], ⟨rfl, rfl, rfl, rfl⟩,
      .stays rfl rfl rfl rfl, fun buffer => ?_⟩
    rw [settle, if_pos hsame]
    rfl
  obtain ⟨hheld, hoffer⟩ := offer_spec b pressed nowMs
  obtain ⟨c, hc⟩ : ∃ c, c = b.offer pressed nowMs := ⟨_, rfl⟩
  rw [← hc] at hheld hoffer
  by_cases hsettled : elapsed nowMs c.candidateSinceMs ≥ c.debounceMs
  · cases pressed with
    | true =>
      have hup : b.stablePressed = false := by
        simpa using Ne.symm hsame
      refine ⟨{ c with
        stablePressed := true, pressSinceMs := nowMs, longPressEmitted := false, veryLongPressEmitted := false },
        [.press], ⟨hheld.longPressMs, hheld.veryLongPressMs, hheld.initialized, hheld.armed⟩,
        .press hup rfl rfl rfl rfl, fun buffer => ?_⟩
      rw [settle, if_neg hsame, ← hc]
      simp only [if_pos hsettled, if_true, collect_one]
    | false =>
      have hdown : b.stablePressed = true := by
        simpa using Ne.symm hsame
      obtain ⟨-, -, hlong, -⟩ := hoffer
      cases hemitted : b.longPressEmitted with
      | true =>
        refine ⟨{ c with stablePressed := false }, [.release],
          ⟨hheld.longPressMs, hheld.veryLongPressMs, hheld.initialized, hheld.armed⟩,
          .longRelease hdown rfl hemitted, fun buffer => ?_⟩
        rw [settle, if_neg hsame, ← hc]
        simp [if_pos hsettled, collect_one, hlong, hemitted]
      | false =>
        refine ⟨{ c with stablePressed := false }, [.release, .shortPress],
          ⟨hheld.longPressMs, hheld.veryLongPressMs, hheld.initialized, hheld.armed⟩,
          .shortRelease hdown rfl hemitted, fun buffer => ?_⟩
        rw [settle, if_neg hsame, ← hc, collect_two (by decide)]
        simp [if_pos hsettled, hlong, hemitted]
  · refine ⟨c, [], hheld, hoffer, fun buffer => ?_⟩
    rw [settle, if_neg hsame, ← hc]
    simp only [if_neg hsettled]
    rfl

theorem phase_up (h : b.armed = false ∨ b.stablePressed = false) : b.phase = .up := by
  rcases h with h | h
  · simp [phase, h]
  · simp [phase, h]

theorem phase_held (harmed : b.armed = true) (hpressed : b.stablePressed = true) :
    b.phase = if b.veryLongPressEmitted then .veryLong else if b.longPressEmitted then .long else .down := by
  simp [phase, harmed, hpressed]

theorem Settles.emits {b' : Button} {raised : List ButtonEvent} (hb : b.Valid) (harmed : b.armed = true)
    (hheld : Held b b') (h : Settles nowMs b b' raised) :
    b'.Valid ∧ Emits b.phase raised b'.phase ∧
      (raised ≠ [] → b'.stablePressed = false ∨ b'.pressSinceMs = nowMs) := by
  have harmed' : b'.armed = true := hheld.armed ▸ harmed
  cases h with
  | stays hstable hsince hlong hvery =>
    refine ⟨hb.held hheld ?_, ?_, fun hne => absurd rfl hne⟩
    · rw [hstable, hlong, hvery, hheld.armed]
      exact hb.reported
    · have hsame : b'.phase = b.phase := by
        simp only [phase, hstable, hlong, hvery, hheld.armed]
      rw [hsame]
      exact .quiet _
  | press hbefore hafter hsince hlong hvery =>
    refine ⟨hb.held hheld fun _ _ hemitted => ?_, ?_, fun _ => Or.inr hsince⟩
    · rw [hvery] at hemitted
      cases hemitted
    · rw [phase_up (Or.inr hbefore), phase_held harmed' hafter, hlong, hvery]
      exact .press
  | shortRelease hbefore hafter hlong =>
    have hvery : b.veryLongPressEmitted = false := by
      by_contra hemitted
      have hreported := hb.reported harmed hbefore (by simpa using hemitted)
      rw [hlong] at hreported
      cases hreported
    refine ⟨hb.held hheld fun _ hpressed => ?_, ?_, fun _ => Or.inl hafter⟩
    · rw [hafter] at hpressed
      cases hpressed
    · rw [phase_up (Or.inr hafter), phase_held harmed hbefore, hlong, hvery]
      exact .shortRelease
  | longRelease hbefore hafter hlong =>
    refine ⟨hb.held hheld fun _ hpressed => ?_, ?_, fun _ => Or.inl hafter⟩
    · rw [hafter] at hpressed
      cases hpressed
    · rw [phase_up (Or.inr hafter), phase_held harmed hbefore, hlong]
      cases b.veryLongPressEmitted with
      | true => exact .veryLongRelease
      | false => exact .longRelease

/-- **The hold timer** reports a long press before a very long one, and nothing of a button that is up or was pressed
just now. -/
theorem report_spec (hb : b.Valid) (harmed : b.armed = true) (nowMs : UInt32) (raised : List ButtonEvent) :
    ∃ b' more, b'.Valid ∧ Emits b.phase more b'.phase ∧
      (b.stablePressed = false ∨ b.pressSinceMs = nowMs → more = []) ∧
      ∀ {β : Type} (buffer : EventBuffer β),
        b.report buffer nowMs (buffer.collect raised) = (b', buffer.collect (raised ++ more)) := by
  by_cases hpressed : b.stablePressed = true
  swap
  · rw [Bool.not_eq_true] at hpressed
    refine ⟨b, [], hb, .quiet _, fun _ => rfl, fun buffer => ?_⟩
    simp [report, reportLongPress, reportVeryLongPress, hpressed]
  -- the timer of a press that is reported just now has not run
  have hnow : b.longPressMs ≤ elapsed nowMs b.pressSinceMs → ¬ (b.stablePressed = false ∨ b.pressSinceMs = nowMs) := by
    rintro hlate (hup | hsame)
    · rw [hpressed] at hup
      cases hup
    · have hzero : elapsed nowMs b.pressSinceMs = 0 := by
        rw [hsame, elapsed, UInt32.sub_self]
      rw [hzero] at hlate
      exact absurd hb.positive (UInt32.not_lt.2 hlate)
  cases hvery : b.veryLongPressEmitted with
  | true =>
    have hlong := hb.reported harmed hpressed hvery
    refine ⟨b, [], hb, .quiet _, fun _ => rfl, fun buffer => ?_⟩
    simp [report, reportLongPress, reportVeryLongPress, hlong, hvery]
  | false =>
    by_cases hveryLate : b.veryLongPressMs ≤ elapsed nowMs b.pressSinceMs
    · have hlate := UInt32.le_trans hb.ordered hveryLate
      cases hlong : b.longPressEmitted with
      | true =>
        refine ⟨{ b with veryLongPressEmitted := true }, [.veryLongPress],
          ⟨hb.positive, hb.ordered, hb.initialized, fun _ _ _ => hlong⟩, ?_, fun h => absurd h (hnow hlate),
          fun buffer => ?_⟩
        · simpa [phase, harmed, hpressed, hlong, hvery] using Emits.veryLongPress
        · simp [report, reportLongPress, reportVeryLongPress, hpressed, hlong, hvery, hveryLate, collect_concat]
      | false =>
        refine ⟨{ b with longPressEmitted := true, veryLongPressEmitted := true }, [.longPress, .veryLongPress],
          ⟨hb.positive, hb.ordered, hb.initialized, fun _ _ _ => rfl⟩, ?_, fun h => absurd h (hnow hlate),
          fun buffer => ?_⟩
        · simpa [phase, harmed, hpressed, hlong, hvery] using Emits.longAndVeryLongPress
        · have happend : raised ++ [.longPress, .veryLongPress] = (raised ++ [.longPress]) ++ [ButtonEvent.veryLongPress] := by
            simp
          rw [happend, collect_concat, collect_concat]
          simp [report, reportLongPress, reportVeryLongPress, hpressed, hlong, hvery, hlate, hveryLate]
    · by_cases hlate : b.longPressEmitted = false ∧ b.longPressMs ≤ elapsed nowMs b.pressSinceMs
      · refine ⟨{ b with longPressEmitted := true }, [.longPress],
          ⟨hb.positive, hb.ordered, hb.initialized, fun _ _ _ => rfl⟩, ?_, fun h => absurd h (hnow hlate.2),
          fun buffer => ?_⟩
        · simpa [phase, harmed, hpressed, hlate.1, hvery] using Emits.longPress
        · simp [report, reportLongPress, reportVeryLongPress, hpressed, hlate.1, hlate.2, hveryLate, collect_concat]
      · refine ⟨b, [], hb, .quiet _, fun _ => rfl, fun buffer => ?_⟩
        rcases not_and_or.1 hlate with hlong | hearly
        · rw [Bool.not_eq_false] at hlong
          simp [report, reportLongPress, reportVeryLongPress, hlong, hveryLate]
        · simp [report, reportLongPress, reportVeryLongPress, hearly, hveryLate]

theorem startup_spec (b : Button) (pressed : Bool) (nowMs : UInt32) :
    (Held b (b.updateStartupHeldState pressed nowMs) ∧ Settles nowMs b (b.updateStartupHeldState pressed nowMs) []) ∨
      (pressed = false ∧ ∃ c, Held b c ∧
        b.updateStartupHeldState pressed nowMs = { c with stablePressed := false, armed := true }) := by
  unfold updateStartupHeldState
  cases pressed with
  | true => exact Or.inl ⟨⟨rfl, rfl, rfl, rfl⟩, .stays rfl rfl rfl rfl⟩
  | false =>
    obtain ⟨hheld, hoffer⟩ := offer_spec b false nowMs
    simp only [Bool.false_eq_true, if_false]
    split
    · exact Or.inr ⟨trivial, _, hheld, rfl⟩
    · exact Or.inl ⟨hheld, hoffer⟩

/-- **One update is one step of the abstract button**, whatever it writes its events to. -/
theorem update_emits (hb : b.Valid) (sample : Sample) :
    ∃ b' raised, b'.Valid ∧ Emits b.phase raised b'.phase ∧
      ∀ {β : Type} (buffer : EventBuffer β), b.updateWith buffer sample = (b', buffer.collect raised) := by
  cases hinitialized : b.initialized with
  | false =>
    have harmed : b.armed = false := by
      by_contra harmed
      rw [hb.initialized (by simpa using harmed)] at hinitialized
      cases hinitialized
    refine ⟨{ b with
      initialized := true, stablePressed := sample.pressed, candidatePressed := sample.pressed,
      candidateSinceMs := sample.nowMs, armed := !sample.pressed }, [],
      ⟨hb.positive, hb.ordered, fun _ => rfl, fun hup hpressed => ?_⟩, ?_, fun buffer => ?_⟩
    · rw [show sample.pressed = true from hpressed] at hup
      cases hup
    · rw [phase_up (Or.inl harmed), phase_up]
      · exact .quiet _
      · cases hpressed : sample.pressed with
        | true => exact Or.inl rfl
        | false => exact Or.inr rfl
    · simp [updateWith, hinitialized, EventBuffer.collect]
  | true =>
    cases harmed : b.armed with
    | false =>
      obtain ⟨b', hb'⟩ : ∃ b', b' = b.updateStartupHeldState sample.pressed sample.nowMs := ⟨_, rfl⟩
      have hupdate : ∀ {β : Type} (buffer : EventBuffer β), b.updateWith buffer sample = (b', buffer.collect []) := by
        intro β buffer
        simp [updateWith, hinitialized, harmed, hb', EventBuffer.collect]
      rcases startup_spec b sample.pressed sample.nowMs with ⟨hheld, hstays⟩ | ⟨-, c, hheld, heq⟩
      · rw [← hb'] at hheld hstays
        have harmed' : b'.armed = false := hheld.armed.trans harmed
        refine ⟨b', [], hb.held hheld fun hup => ?_, ?_, hupdate⟩
        · rw [harmed'] at hup
          cases hup
        · rw [phase_up (Or.inl harmed), phase_up (Or.inl harmed')]
          exact .quiet _
      · rw [← hb'] at heq
        have hstable : b'.stablePressed = false := by
          rw [heq]
        refine ⟨b', [], ?_, ?_, hupdate⟩
        · have hc := hb.held hheld fun hup => absurd (hheld.armed.symm.trans hup) (by simp [harmed])
          rw [heq]
          exact ⟨hc.positive, hc.ordered, fun _ => hheld.initialized.trans hinitialized, fun _ hp => absurd hp (by simp)⟩
        · rw [phase_up (Or.inl harmed), phase_up (Or.inr hstable)]
          exact .quiet _
    | true =>
      obtain ⟨settled, raised, hheld, hsettles, hsettle⟩ := settle_spec b sample.pressed sample.nowMs
      obtain ⟨hvalid, hemits, hchanged⟩ := hsettles.emits hb harmed hheld
      obtain ⟨b', more, hvalid', hemits', hnow, hreport⟩ :=
        report_spec hvalid (hheld.armed ▸ harmed) sample.nowMs raised
      refine ⟨b', raised ++ more, hvalid', ?_, fun buffer => ?_⟩
      · -- either the level has stayed, or it changed and the timer reports nothing
        rcases eq_or_ne raised [] with rfl | hne
        · rw [hemits.phase_eq] at hemits'
          exact hemits'
        · obtain rfl := hnow (hchanged hne)
          rw [hemits'.phase_eq, List.append_nil]
          exact hemits
      · simp [updateWith, hinitialized, harmed, hsettle, hreport]

end Button

/-! ### Gestures -/

/-- The gestures, from a press to its release. -/
inductive Gesture
  | short | long | veryLong
  deriving DecidableEq

def Gesture.events : Gesture → List ButtonEvent
  | .short => [.press, .release, .shortPress]
  | .long => [.press, .longPress, .release]
  | .veryLong => [.press, .longPress, .veryLongPress, .release]

/-- The events of the gesture that is going on. -/
def Phase.begun : Phase → List ButtonEvent
  | .up => []
  | .down => [.press]
  | .long => [.press, .longPress]
  | .veryLong => [.press, .longPress, .veryLongPress]

theorem Phase.begun_prefix {phase : Phase} : phase.begun <+: Gesture.veryLong.events := by
  cases phase <;> decide

section Emits

variable {phase phase' : Phase} {raised : List ButtonEvent}

/-- A step goes on with the gesture, or it is its release and ends it. -/
theorem Emits.begun (h : Emits phase raised phase') :
    (.release ∉ raised ∧ phase.begun ++ raised = phase'.begun) ∨
      (.release ∈ raised ∧ phase' = .up ∧ ∃ gesture : Gesture, phase.begun ++ raised = gesture.events ∧
        (.shortPress ∈ raised ↔ .longPress ∉ gesture.events)) := by
  cases h with
  | quiet => exact Or.inl ⟨by simp, by simp⟩
  | press => exact Or.inl ⟨by decide, rfl⟩
  | longPress => exact Or.inl ⟨by decide, rfl⟩
  | longAndVeryLongPress => exact Or.inl ⟨by decide, rfl⟩
  | veryLongPress => exact Or.inl ⟨by decide, rfl⟩
  | shortRelease => exact Or.inr ⟨by decide, rfl, .short, rfl, by decide⟩
  | longRelease => exact Or.inr ⟨by decide, rfl, .long, rfl, by decide⟩
  | veryLongRelease => exact Or.inr ⟨by decide, rfl, .veryLong, rfl, by decide⟩

/-- The events of a step fit into two slots. -/
theorem Emits.fits (h : Emits phase raised phase') : (twoSlots.collect raised).toList = raised := by
  cases h <;> rfl

end Emits

namespace Button

variable {b : Button}

/-- The state after the samples. -/
def after (b : Button) : List Sample → Button
  | [] => b
  | sample :: samples => (b.update sample).1.after samples

/-- One update with the buffer of the source. -/
theorem update_spec (hb : b.Valid) (sample : Sample) : (b.update sample).1.Valid ∧
    Emits b.phase (b.update sample).2.toList (b.update sample).1.phase := by
  obtain ⟨b', raised, hvalid, hemits, hupdate⟩ := update_emits hb sample
  rw [update, hupdate twoSlots, hemits.fits]
  exact ⟨hvalid, hemits⟩

theorem valid_after (hb : b.Valid) (samples : List Sample) : (b.after samples).Valid := by
  induction samples generalizing b with
  | nil => exact hb
  | cons sample samples ih => exact ih (update_spec hb sample).1

theorem feed_cons {sample : Sample} {samples : List Sample} : (b.feed (sample :: samples)).flatMap ButtonEvents.toList =
    (b.update sample).2.toList ++ ((b.update sample).1.feed samples).flatMap ButtonEvents.toList := by
  rw [feed, feedWith, List.flatMap_cons]
  rfl

theorem feed_split {samples : List Sample} {past rest : List ButtonEvents} {u : ButtonEvents}
    (h : b.feed samples = past ++ u :: rest) : ∃ before sample, b.feed before = past ∧
      ((b.after before).update sample).2 = u := by
  induction samples generalizing b past with
  | nil => simp [feed, feedWith] at h
  | cons sample samples ih =>
    cases past with
    | nil =>
      obtain ⟨hu, -⟩ := List.cons_eq_cons.1 h
      exact ⟨[], sample, rfl, hu⟩
    | cons v past =>
      obtain ⟨hv, hrest⟩ := List.cons_eq_cons.1 h
      obtain ⟨before, sample', hbefore, hu⟩ := ih hrest
      refine ⟨sample :: before, sample', ?_, hu⟩
      rw [← hv, ← hbefore]
      rfl

/-- **The run lemma**: what has been reported is whole gestures, and then the one that is going on. -/
theorem feed_gestures (hb : b.Valid) (samples : List Sample) : ∃ gestures : List Gesture,
    b.phase.begun ++ (b.feed samples).flatMap ButtonEvents.toList =
      gestures.flatMap Gesture.events ++ (b.after samples).phase.begun := by
  induction samples generalizing b with
  | nil => exact ⟨[], by simp [feed, feedWith, after]⟩
  | cons sample samples ih =>
    obtain ⟨hvalid, hemits⟩ := update_spec hb sample
    obtain ⟨gestures, hgestures⟩ := ih hvalid
    rw [feed_cons, ← List.append_assoc]
    rcases hemits.begun with ⟨-, hbegun⟩ | ⟨-, hup, gesture, hbegun, -⟩
    · rw [hbegun]
      exact ⟨gestures, hgestures⟩
    · refine ⟨gesture :: gestures, ?_⟩
      rw [hup, Phase.begun, List.nil_append] at hgestures
      rw [hbegun, hgestures, List.flatMap_cons, List.append_assoc]
      rfl

theorem feed_unbounded (hb : b.Valid) (samples : List Sample) :
    (b.feed samples).map ButtonEvents.toList = b.feedWith unbounded samples := by
  induction samples generalizing b with
  | nil => rfl
  | cons sample samples ih =>
    obtain ⟨b', raised, hvalid, hemits, hupdate⟩ := update_emits hb sample
    rw [feed, feedWith, feedWith, hupdate twoSlots, hupdate unbounded, List.map_cons, hemits.fits, collect_unbounded]
    rw [← ih hvalid]
    rfl

/-! ### A button that is held at startup -/

/-- The button has started, and no press of it has been seen. -/
structure Unpressed (b : Button) : Prop where
  initialized : b.initialized = true
  up : b.armed = false ∨ b.stablePressed = false

theorem update_released (h : b.Unpressed) (nowMs : UInt32) :
    (b.update ⟨false, nowMs⟩).1.Unpressed ∧ (b.update ⟨false, nowMs⟩).2.toList = [] := by
  cases harmed : b.armed with
  | false =>
    have hupdate : b.update ⟨false, nowMs⟩ = (b.updateStartupHeldState false nowMs, ⟨.none, .none⟩) := by
      simp [update, updateWith, h.initialized, harmed, twoSlots]
    rw [hupdate]
    refine ⟨?_, rfl⟩
    rcases startup_spec b false nowMs with ⟨hheld, -⟩ | ⟨-, c, hheld, heq⟩
    · exact ⟨hheld.initialized.trans h.initialized, Or.inl (hheld.armed.trans harmed)⟩
    · rw [heq]
      exact ⟨hheld.initialized.trans h.initialized, Or.inr rfl⟩
  | true =>
    have hstable : b.stablePressed = false := by
      simpa [harmed] using h.up
    have hupdate : b.update ⟨false, nowMs⟩ =
        ({ b with candidatePressed := false, candidateSinceMs := nowMs }, ⟨.none, .none⟩) := by
      simp [update, updateWith, settle, report, reportLongPress, reportVeryLongPress, h.initialized, harmed, hstable,
        twoSlots]
    rw [hupdate]
    exact ⟨⟨h.initialized, Or.inr hstable⟩, rfl⟩

theorem update_held (hinitialized : b.initialized = true) (harmed : b.armed = false) (nowMs : UInt32) :
    (b.update ⟨true, nowMs⟩).1.initialized = true ∧ (b.update ⟨true, nowMs⟩).1.armed = false ∧
      (b.update ⟨true, nowMs⟩).2.toList = [] := by
  have hupdate : b.update ⟨true, nowMs⟩ =
      ({ b with candidatePressed := true, candidateSinceMs := nowMs }, ⟨.none, .none⟩) := by
    simp [update, updateWith, updateStartupHeldState, hinitialized, harmed, twoSlots]
  rw [hupdate]
  exact ⟨hinitialized, harmed, rfl⟩

theorem feed_released (h : b.Unpressed) {samples : List Sample} (hreleased : true ∉ samples.map Sample.pressed) :
    (b.feed samples).flatMap ButtonEvents.toList = [] := by
  induction samples generalizing b with
  | nil => rfl
  | cons sample samples ih =>
    obtain ⟨pressed, nowMs⟩ := sample
    rw [List.map_cons, List.mem_cons, not_or] at hreleased
    obtain rfl : pressed = false := by simpa using hreleased.1
    obtain ⟨hunpressed, hquiet⟩ := update_released h nowMs
    rw [feed_cons, hquiet, ih hunpressed hreleased.2, List.append_nil]

/-- Until the button has been let go and is pressed again, it reports nothing. -/
theorem feed_held (hinitialized : b.initialized = true) (harmed : b.armed = false) {samples : List Sample}
    (h : ¬ List.Sublist [false, true] (samples.map Sample.pressed)) : (b.feed samples).flatMap ButtonEvents.toList = [] := by
  induction samples generalizing b with
  | nil => rfl
  | cons sample samples ih =>
    obtain ⟨pressed, nowMs⟩ := sample
    rw [feed_cons]
    cases pressed with
    | true =>
      obtain ⟨hinitialized', harmed', hquiet⟩ := update_held hinitialized harmed nowMs
      rw [hquiet, List.nil_append]
      exact ih hinitialized' harmed' fun hsub => h (hsub.cons _)
    | false =>
      obtain ⟨hunpressed, hquiet⟩ := update_released ⟨hinitialized, Or.inl harmed⟩ nowMs
      rw [hquiet, List.nil_append]
      refine feed_released hunpressed fun hpressed => h ?_
      rw [List.map_cons]
      exact (List.singleton_sublist.2 hpressed).cons_cons _

end Button

/-! ### The grammar -/

theorem valid_make {debounceMs longPressMs veryLongPressMs : UInt32} (hpositive : 0 < longPressMs)
    (hordered : longPressMs ≤ veryLongPressMs) : (Button.make debounceMs longPressMs veryLongPressMs).Valid :=
  ⟨hpositive, hordered, fun h => h, fun h => absurd h (by simp [Button.make])⟩

/-- **The grammar of the button**: it reports a beginning of a sequence of gestures, each as it is released; a release
comes with a short press in the same update exactly if no long press came before it; no event is lost for want of a
slot; and a button that is held at startup reports nothing until it has been let go and pressed again. -/
theorem button_grammar (debounceMs longPressMs veryLongPressMs : UInt32) (hpositive : 0 < longPressMs)
    (hordered : longPressMs ≤ veryLongPressMs) (samples : List Sample) :
    let button := Button.make debounceMs longPressMs veryLongPressMs
    (∃ gestures : List Gesture,
      (button.feed samples).flatMap ButtonEvents.toList <+: gestures.flatMap Gesture.events) ∧
    (∀ past u rest, button.feed samples = past ++ u :: rest → .release ∈ u.toList →
      ∃ (gestures : List Gesture) (gesture : Gesture), (past ++ [u]).flatMap ButtonEvents.toList =
        (gestures ++ [gesture]).flatMap Gesture.events ∧ (.shortPress ∈ u.toList ↔ .longPress ∉ gesture.events)) ∧
    (button.feed samples).map ButtonEvents.toList = button.feedWith unbounded samples ∧
    (∀ nowMs rest, samples = ⟨true, nowMs⟩ :: rest → (button.feed samples).flatMap ButtonEvents.toList ≠ [] →
      List.Sublist [false, true] (rest.map Sample.pressed)) := by
  intro button
  have hb : button.Valid := valid_make hpositive hordered
  have hup : button.phase.begun = [] := rfl
  refine ⟨?_, ?_, Button.feed_unbounded hb samples, ?_⟩
  · obtain ⟨gestures, hgestures⟩ := Button.feed_gestures hb samples
    rw [hup, List.nil_append] at hgestures
    refine ⟨gestures ++ [.veryLong], ?_⟩
    rw [hgestures, List.flatMap_append, List.flatMap_singleton]
    exact (List.prefix_append_right_inj _).2 Phase.begun_prefix
  · intro past u rest hfeed hrelease
    obtain ⟨before, sample, rfl, rfl⟩ := Button.feed_split hfeed
    obtain ⟨gestures, hgestures⟩ := Button.feed_gestures hb before
    obtain ⟨-, hemits⟩ := Button.update_spec (Button.valid_after hb before) sample
    rcases hemits.begun with ⟨hnot, -⟩ | ⟨-, -, gesture, hbegun, hshort⟩
    · exact absurd hrelease hnot
    · refine ⟨gestures, gesture, ?_, hshort⟩
      rw [hup, List.nil_append] at hgestures
      rw [List.flatMap_append, hgestures, List.append_assoc, List.flatMap_singleton, hbegun, List.flatMap_append,
        List.flatMap_singleton]
  · rintro nowMs rest rfl hne
    by_contra hnot
    refine hne ?_
    rw [Button.feed_cons]
    exact Button.feed_held (b := (button.update ⟨true, nowMs⟩).1) rfl rfl hnot

/-- A short gesture, with the thresholds of the devices. -/
theorem button_grammar_short :
    let samples : List Sample := [⟨false, 0⟩, ⟨true, 10⟩, ⟨true, 40⟩, ⟨false, 90⟩, ⟨false, 120⟩]
    let button := Button.make 30 1000 3000
    (∃ gestures : List Gesture,
      (button.feed samples).flatMap ButtonEvents.toList <+: gestures.flatMap Gesture.events) ∧
    (∀ past u rest, button.feed samples = past ++ u :: rest → .release ∈ u.toList →
      ∃ (gestures : List Gesture) (gesture : Gesture), (past ++ [u]).flatMap ButtonEvents.toList =
        (gestures ++ [gesture]).flatMap Gesture.events ∧ (.shortPress ∈ u.toList ↔ .longPress ∉ gesture.events)) ∧
    (button.feed samples).map ButtonEvents.toList = button.feedWith unbounded samples ∧
    (∀ nowMs rest, samples = ⟨true, nowMs⟩ :: rest → (button.feed samples).flatMap ButtonEvents.toList ≠ [] →
      List.Sublist [false, true] (rest.map Sample.pressed)) :=
  button_grammar 30 1000 3000 (by decide) (by decide) _

end Redline.Input
