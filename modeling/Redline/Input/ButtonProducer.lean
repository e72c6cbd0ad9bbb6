import Redline.Input.Button
import Redline.Input.Creation
import Redline.Lib.Run

/-!
# The button producer

`ButtonProducer` of the event producers hears what the button reports, one event after the other, with what the display
shows at that moment.  A press fixes what its gesture may become; a short press becomes a BUTTON Event and a long one,
when it is released, a manual check-in.

A turn of `serviceButton` is one sample through the button and then through the producer.  `Attends` says what the
producer holds in each phase of a gesture, `attends_step` that a turn keeps it, and `gesture_creates_once` reads from it
what one gesture can attempt.
-/

namespace Redline.Input

open Redline.Lib Redline.Wire

/-! ### The producer -/

def ButtonEvent.toByte : ButtonEvent → UInt8
  | .none => 0
  | .press => 1
  | .release => 2
  | .shortPress => 3
  | .longPress => 4
  | .veryLongPress => 5

/-- A body has a first byte. -/
theorem first_lt_body : 0 < 12 := by decide

def buttonInput (event : ButtonEvent) : Node.EventInput :=
  { makeInput Family.button with bodyLength := 1, body := emptyBody.set 0 event.toByte first_lt_body }

def manualCheckInInput : Node.EventInput :=
  { makeInput Family.manualCheckIn with bodyLength := 1, body := emptyBody.set 0 0x01 first_lt_body }

def emitButton (event : ButtonEvent) : SinkM Emission :=
  if event = .none then return noEmission
  else if !isValidButtonEvent event.toByte then return noEmission
  else create (buttonInput event)

def emitManualCheckIn : SinkM Emission := create manualCheckInInput

/-- What the display shows, and whether button Events are selected. -/
structure ButtonContext where
  displayAwake : Bool
  editorActive : Bool
  homeScreen : Bool
  buttonEventSelected : Bool
  deriving DecidableEq

structure ButtonProductionResult where
  button : Emission
  manualCheckIn : Emission
  buttonSuppressed : Bool
  deriving DecidableEq

structure ButtonProducer where
  gestureEligible : Bool
  gestureSuppressed : Bool
  manualEligible : Bool
  longObserved : Bool
  veryLongObserved : Bool
  deriving DecidableEq

theorem manualCheckInInput_ne : manualCheckInInput ≠ buttonInput .shortPress := by
  decide

namespace ButtonProducer

def initial : ButtonProducer := ⟨false, false, false, false, false⟩

/-- What a press fixes for its gesture. -/
def ofPress (context : ButtonContext) : ButtonProducer where
  gestureEligible := context.buttonEventSelected && context.displayAwake && !context.editorActive
  gestureSuppressed := context.buttonEventSelected &&
    !(context.buttonEventSelected && context.displayAwake && !context.editorActive)
  manualEligible := context.displayAwake && !context.editorActive && context.homeScreen
  longObserved := false
  veryLongObserved := false

def observeOne (p : ButtonProducer) (event : ButtonEvent) (context : ButtonContext) (result : ButtonProductionResult) :
    SinkM (ButtonProducer × ButtonProductionResult) :=
  match event with
  | .press => return (ofPress context, result)
  | .shortPress => do
    let next := { p with gestureEligible := false, gestureSuppressed := false, manualEligible := false }
    if p.gestureEligible then
      let button ← emitButton event
      return (next, { result with button })
    if p.gestureSuppressed then return (next, { result with buttonSuppressed := true })
    return (next, result)
  | .longPress => return (if p.manualEligible then { p with longObserved := true } else p, result)
  | .veryLongPress => return ({ p with veryLongObserved := true, manualEligible := false }, result)
  | .release => do
    let next := { p with
      gestureEligible := p.gestureEligible && !p.longObserved, gestureSuppressed := false, manualEligible := false,
      longObserved := false, veryLongObserved := false }
    if p.manualEligible && p.longObserved && !p.veryLongObserved then
      let manualCheckIn ← emitManualCheckIn
      return (next, { result with manualCheckIn })
    return (next, result)
  | .none => return (p, result)

def observe (p : ButtonProducer) (events : ButtonEvents) (context : ButtonContext) :
    SinkM (ButtonProducer × ButtonProductionResult) := do
  let (p, result) ← p.observeOne events.first context ⟨noEmission, noEmission, false⟩
  p.observeOne events.second context result

/-! ### What an event does to the producer -/

/-- The flags after an event. -/
def next (p : ButtonProducer) (context : ButtonContext) : ButtonEvent → ButtonProducer
  | .none => p
  | .press => ofPress context
  | .release => { p with
      gestureEligible := p.gestureEligible && !p.longObserved, gestureSuppressed := false, manualEligible := false,
      longObserved := false, veryLongObserved := false }
  | .shortPress => { p with gestureEligible := false, gestureSuppressed := false, manualEligible := false }
  | .longPress => if p.manualEligible then { p with longObserved := true } else p
  | .veryLongPress => { p with veryLongObserved := true, manualEligible := false }

/-- The creations that an event attempts. -/
def attempts (p : ButtonProducer) : ButtonEvent → List Node.EventInput
  | .shortPress => if p.gestureEligible then [buttonInput .shortPress] else []
  | .release => if p.manualEligible && p.longObserved && !p.veryLongObserved then [manualCheckInInput] else []
  | _ => []

/-- Whether an event reports a suppressed gesture. -/
def suppresses (p : ButtonProducer) : ButtonEvent → Bool
  | .shortPress => !p.gestureEligible && p.gestureSuppressed
  | _ => false

def nextAll (p : ButtonProducer) (context : ButtonContext) : List ButtonEvent → ButtonProducer
  | [] => p
  | event :: events => (p.next context event).nextAll context events

def attemptsAll (p : ButtonProducer) (context : ButtonContext) : List ButtonEvent → List Node.EventInput
  | [] => []
  | event :: events => p.attempts event ++ (p.next context event).attemptsAll context events

def suppressesAny (p : ButtonProducer) (context : ButtonContext) : List ButtonEvent → Bool
  | [] => false
  | event :: events => p.suppresses event || (p.next context event).suppressesAny context events

/-- What may be said of the outcome `out` of an event, whatever the sink answers: the result goes on with the one
before it. -/
structure Observed (p : ButtonProducer) (context : ButtonContext) (events : List ButtonEvent)
    (result : ButtonProductionResult) (ops : List Node.EventInput) (out : ButtonProducer × ButtonProductionResult) :
    Prop where
  state : out.1 = p.nextAll context events
  created : ops = p.attemptsAll context events
  suppressed : out.2.buttonSuppressed = (result.buttonSuppressed || p.suppressesAny context events)
  button : out.2.button.attempted = (result.button.attempted || ops.contains (buttonInput .shortPress))
  manualCheckIn : out.2.manualCheckIn.attempted = (result.manualCheckIn.attempted || ops.contains manualCheckInInput)

section Observe

variable {p : ButtonProducer} {event : ButtonEvent} {context : ButtonContext} {result : ButtonProductionResult}
  {answers : Node.EventInput → CreationResult → Prop} {ops : List Node.EventInput}
  {out : ButtonProducer × ButtonProductionResult}

theorem observed_one (h : Prog.Returns answers (p.observeOne event context result) ops out) :
    Observed p context [event] result ops out := by
  cases event with
  | none | press | longPress | veryLongPress =>
    obtain ⟨rfl, rfl⟩ := Prog.returns_pure.1 h
    exact ⟨rfl, rfl, by simp [suppressesAny, suppresses], by simp, by simp⟩
  | shortPress =>
    cases heligible : p.gestureEligible with
    | true =>
      simp only [observeOne, heligible, if_true] at h
      obtain ⟨emission, ops₁, ops₂, hcreate, hret, rfl⟩ := Prog.returns_bind h
      obtain ⟨rfl, hattempted⟩ := returns_create hcreate
      obtain ⟨rfl, rfl⟩ := Prog.returns_pure.1 hret
      refine ⟨rfl, ?_, ?_, ?_, ?_⟩
      · simp [attemptsAll, attempts, heligible]
      · simp [suppressesAny, suppresses, heligible]
      · simp [hattempted]
      · simp [manualCheckInInput_ne]
    | false =>
      simp only [observeOne, heligible, Bool.false_eq_true, if_false] at h
      cases hsuppressed : p.gestureSuppressed with
      | true =>
        simp only [hsuppressed, if_true] at h
        obtain ⟨rfl, rfl⟩ := Prog.returns_pure.1 h
        exact ⟨by simp [nextAll, next], by simp [attemptsAll, attempts, heligible],
          by simp [suppressesAny, suppresses, heligible, hsuppressed], by simp, by simp⟩
      | false =>
        simp only [hsuppressed, Bool.false_eq_true, if_false] at h
        obtain ⟨rfl, rfl⟩ := Prog.returns_pure.1 h
        exact ⟨by simp [nextAll, next], by simp [attemptsAll, attempts, heligible],
          by simp [suppressesAny, suppresses, heligible, hsuppressed], by simp, by simp⟩
  | release =>
    simp only [observeOne] at h
    split at h
    · rename_i hmanual
      obtain ⟨emission, ops₁, ops₂, hcreate, hret, rfl⟩ := Prog.returns_bind h
      obtain ⟨rfl, hattempted⟩ := returns_create hcreate
      obtain ⟨rfl, rfl⟩ := Prog.returns_pure.1 hret
      refine ⟨rfl, ?_, ?_, ?_, ?_⟩
      · simp [attemptsAll, attempts, hmanual]
      · simp [suppressesAny, suppresses]
      · simp [Ne.symm manualCheckInInput_ne]
      · simp [hattempted]
    · rename_i hmanual
      obtain ⟨rfl, rfl⟩ := Prog.returns_pure.1 h
      exact ⟨rfl, by simp [attemptsAll, attempts, hmanual], by simp [suppressesAny, suppresses], by simp, by simp⟩

theorem observe_two {first second : ButtonEvent} {ops' : List Node.EventInput}
    {out' : ButtonProducer × ButtonProductionResult} (hfirst : Observed p context [first] result ops out)
    (hsecond : Observed out.1 context [second] out.2 ops' out') :
    Observed p context [first, second] result (ops ++ ops') out' := by
  refine ⟨?_, ?_, ?_, ?_, ?_⟩
  · rw [hsecond.state, hfirst.state]
    rfl
  · rw [hsecond.created, hfirst.created, hfirst.state]
    simp [attemptsAll, nextAll]
  · rw [hsecond.suppressed, hfirst.suppressed, hfirst.state]
    simp [suppressesAny, nextAll, Bool.or_assoc]
  · rw [hsecond.button, hfirst.button]
    simp [Bool.or_assoc]
  · rw [hsecond.manualCheckIn, hfirst.manualCheckIn]
    simp [Bool.or_assoc]

/-- A slot without an event changes nothing. -/
theorem all_filter (p : ButtonProducer) (context : ButtonContext) (events : List ButtonEvent) :
    p.nextAll context (events.filter (· ≠ .none)) = p.nextAll context events ∧
    p.attemptsAll context (events.filter (· ≠ .none)) = p.attemptsAll context events ∧
    p.suppressesAny context (events.filter (· ≠ .none)) = p.suppressesAny context events := by
  induction events generalizing p with
  | nil => exact ⟨rfl, rfl, rfl⟩
  | cons event events ih =>
    by_cases hnone : event = .none
    · rw [List.filter_cons_of_neg (by simp [hnone]), hnone]
      exact ih p
    · rw [List.filter_cons_of_pos (by simp [hnone])]
      obtain ⟨hnext, hattempts, hsuppresses⟩ := ih (p.next context event)
      simp only [nextAll, attemptsAll, suppressesAny, hnext, hattempts, hsuppresses, and_self]

/-- **One call of `observe`**: the flags and the creations are those of the events one after the other. -/
theorem returns_observe {events : ButtonEvents} (h : Prog.Returns answers (p.observe events context) ops out) :
    Observed p context events.toList ⟨noEmission, noEmission, false⟩ ops out := by
  obtain ⟨mid, ops₁, ops₂, hfirst, hsecond, rfl⟩ := Prog.returns_bind h
  obtain ⟨hstate, hcreated, hsuppressed, hbutton, hmanual⟩ := observe_two (observed_one hfirst) (observed_one hsecond)
  obtain ⟨hnext, hattempts, hsuppresses⟩ := all_filter p context [events.first, events.second]
  exact ⟨hstate.trans hnext.symm, hcreated.trans hattempts.symm, by rw [hsuppressed, ← hsuppresses]; rfl, hbutton, hmanual⟩

end Observe

theorem suppressesAny_of_not_mem {p : ButtonProducer} {context : ButtonContext} {events : List ButtonEvent}
    (h : .shortPress ∉ events) : p.suppressesAny context events = false := by
  induction events generalizing p with
  | nil => rfl
  | cons event events ih =>
    rw [List.mem_cons, not_or] at h
    rw [suppressesAny, ih h.2, Bool.or_false]
    cases event with
    | shortPress => exact absurd rfl h.1
    | none | press | release | longPress | veryLongPress => rfl

end ButtonProducer

/-! ### Turns -/

/-- One call of `serviceButton`: a sample and what the display shows, the creations that were attempted, and what the
producer returned. -/
structure Turn where
  before : Button × ButtonProducer
  sample : Sample
  context : ButtonContext
  created : List Node.EventInput
  result : ButtonProductionResult
  after : Button × ButtonProducer

/-- What the button reports in the turn. -/
def Turn.events (t : Turn) : List ButtonEvent := (t.before.1.update t.sample).2.toList

/-- The button and the producer behind it, at a sink that answers anything. -/
def serviceButton : System (Button × ButtonProducer) Turn where
  before := Turn.before
  after := Turn.after
  Steps t := t.after.1 = (t.before.1.update t.sample).1 ∧
    Prog.Returns (fun _ _ => True) (t.before.2.observe (t.before.1.update t.sample).2 t.context) t.created
      (t.after.2, t.result)

def eventsOf (turns : List Turn) : List ButtonEvent := turns.flatMap Turn.events

def createdBy (turns : List Turn) : List Node.EventInput := turns.flatMap Turn.created

section Turns

variable {t : Turn} {turns past : List Turn}

@[simp] theorem eventsOf_concat : eventsOf (past ++ [t]) = eventsOf past ++ t.events := by
  simp [eventsOf]

@[simp] theorem createdBy_concat : createdBy (past ++ [t]) = createdBy past ++ t.created := by
  simp [createdBy]

theorem observed_of_steps (h : serviceButton.Steps t) :
    t.before.2.Observed t.context t.events ⟨noEmission, noEmission, false⟩ t.created (t.after.2, t.result) :=
  ButtonProducer.returns_observe h.2

/-- **The step of the two machines**: the button takes a step of the abstract one, and the producer hears it. -/
theorem step_spec (h : serviceButton.Steps t) (hvalid : t.before.1.Valid) :
    t.after.1.Valid ∧ Emits t.before.1.phase t.events t.after.1.phase ∧
      t.after.2 = t.before.2.nextAll t.context t.events ∧ t.created = t.before.2.attemptsAll t.context t.events := by
  obtain ⟨hvalid', hemits⟩ := Button.update_spec hvalid t.sample
  have hobserved := observed_of_steps h
  rw [h.1]
  exact ⟨hvalid', hemits, hobserved.state, hobserved.created⟩

end Turns

/-! ### One gesture -/

/-- The display was on and no editor open. -/
def ButtonContext.Attentive (context : ButtonContext) : Prop :=
  context.displayAwake = true ∧ context.editorActive = false

/-- What a gesture that began in the context has attempted, given its events. -/
inductive Attempted (context : ButtonContext) (events : List ButtonEvent) : List Node.EventInput → Prop
  | nothing : Attempted context events []
  | button (attentive : context.Attentive) (selected : context.buttonEventSelected = true) :
      Attempted context events [buttonInput .shortPress]
  | manualCheckIn (attentive : context.Attentive) (home : context.homeScreen = true) (long : .longPress ∈ events)
      (released : .release ∈ events) (notVeryLong : .veryLongPress ∉ events) :
      Attempted context events [manualCheckInInput]

/-- What the producer holds in each phase of a gesture that began in the context. -/
def Attends (context : ButtonContext) (events : List ButtonEvent) (created : List Node.EventInput) (p : ButtonProducer) :
    Phase → Prop
  | .up => Attempted context events created
  | .down => created = [] ∧ .veryLongPress ∉ events ∧ p = .ofPress context
  | .long => created = [] ∧ .longPress ∈ events ∧ .veryLongPress ∉ events ∧
      p = { ButtonProducer.ofPress context with longObserved := (ButtonProducer.ofPress context).manualEligible }
  | .veryLong => created = [] ∧ p.manualEligible = false

section Attends

variable {context now : ButtonContext} {events raised : List ButtonEvent} {created : List Node.EventInput}
  {p : ButtonProducer} {phase phase' : Phase}

theorem Attends.attempted (h : Attends context events created p phase) : Attempted context events created := by
  cases phase with
  | up => exact h
  | down | long | veryLong =>
    rw [h.1]
    exact .nothing

theorem attentive_of_eligible (h : (ButtonProducer.ofPress context).gestureEligible = true) :
    context.Attentive ∧ context.buttonEventSelected = true := by
  simp only [ButtonProducer.ofPress, Bool.and_eq_true, Bool.not_eq_true'] at h
  exact ⟨⟨h.1.2, h.2⟩, h.1.1⟩

theorem attentive_of_manual (h : (ButtonProducer.ofPress context).manualEligible = true) :
    context.Attentive ∧ context.homeScreen = true := by
  simp only [ButtonProducer.ofPress, Bool.and_eq_true, Bool.not_eq_true'] at h
  exact ⟨h.1, h.2⟩

/-- **A turn keeps what the producer holds**, whatever the display shows meanwhile. -/
theorem attends_step (hemits : Emits phase raised phase') (hpress : .press ∉ raised)
    (h : Attends context events created p phase) :
    Attends context (events ++ raised) (created ++ p.attemptsAll now raised) (p.nextAll now raised) phase' := by
  cases hemits with
  | quiet =>
    rw [List.append_nil, ButtonProducer.attemptsAll, List.append_nil]
    exact h
  | press => exact absurd List.mem_cons_self hpress
  | shortRelease =>
    -- the flag of the press has passed the release, as no long press was observed
    obtain ⟨rfl, hvery, rfl⟩ := h
    have hattempts : (ButtonProducer.ofPress context).attemptsAll now [.release, .shortPress] =
        if (ButtonProducer.ofPress context).gestureEligible then [buttonInput .shortPress] else [] := by
      simp [ButtonProducer.attemptsAll, ButtonProducer.attempts, ButtonProducer.next, ButtonProducer.ofPress]
    rw [hattempts]
    show Attempted _ _ _
    split
    · rename_i heligible
      obtain ⟨hattentive, hselected⟩ := attentive_of_eligible heligible
      exact .button hattentive hselected
    · exact .nothing
  | longPress =>
    obtain ⟨rfl, hvery, rfl⟩ := h
    refine ⟨rfl, by simp, by simpa using hvery, ?_⟩
    have hlong : (ButtonProducer.ofPress context).longObserved = false := rfl
    simp only [ButtonProducer.nextAll, ButtonProducer.next]
    split
    · rename_i hmanual
      rw [hmanual]
    · rename_i hmanual
      rw [Bool.not_eq_true] at hmanual
      exact congrArg (fun long => { ButtonProducer.ofPress context with longObserved := long }) (hlong.trans hmanual.symm)
  | longAndVeryLongPress =>
    obtain ⟨rfl, hvery, rfl⟩ := h
    exact ⟨rfl, rfl⟩
  | veryLongPress =>
    obtain ⟨rfl, hlong, hvery, rfl⟩ := h
    exact ⟨rfl, rfl⟩
  | longRelease =>
    obtain ⟨rfl, hlong, hvery, rfl⟩ := h
    have hattempts : ({ ButtonProducer.ofPress context with
        longObserved := (ButtonProducer.ofPress context).manualEligible } : ButtonProducer).attemptsAll now [.release] =
        if (ButtonProducer.ofPress context).manualEligible then [manualCheckInInput] else [] := by
      simp [ButtonProducer.attemptsAll, ButtonProducer.attempts, ButtonProducer.ofPress]
    rw [hattempts]
    show Attempted _ _ _
    split
    · rename_i hmanual
      obtain ⟨hattentive, hhome⟩ := attentive_of_manual hmanual
      exact .manualCheckIn hattentive hhome (by simp [hlong]) (by simp) (by simpa using hvery)
    · exact .nothing
  | veryLongRelease =>
    obtain ⟨rfl, hmanual⟩ := h
    have hattempts : p.attemptsAll now [.release] = [] := by
      simp [ButtonProducer.attemptsAll, ButtonProducer.attempts, hmanual]
    rw [hattempts]
    exact .nothing

end Attends

/-- The turns of a gesture from its press on: after a press, turns without another one. -/
theorem attends_of_run {turns : List Turn} {s : Button × ButtonProducer} {context : ButtonContext}
    {events : List ButtonEvent} {created : List Node.EventInput} (hrun : serviceButton.IsRun s turns)
    (hvalid : s.1.Valid) (hpress : ∀ t ∈ turns, .press ∉ t.events)
    (h : Attends context events created s.2 s.1.phase) :
    Attempted context (events ++ eventsOf turns) (created ++ createdBy turns) := by
  induction turns generalizing s events created with
  | nil =>
    simp only [eventsOf, createdBy, List.flatMap_nil, List.append_nil]
    exact h.attempted
  | cons t turns ih =>
    obtain ⟨rfl, hstep, hrest⟩ := hrun
    obtain ⟨hvalid', hemits, hstate, hcreated⟩ := step_spec hstep hvalid
    have hattends : Attends context (events ++ t.events) (created ++ t.created) t.after.2 t.after.1.phase := by
      rw [hstate, hcreated]
      exact attends_step hemits (hpress t List.mem_cons_self) h
    have := ih hrest hvalid' (fun u hu => hpress u (List.mem_cons_of_mem _ hu)) hattends
    simpa only [eventsOf, createdBy, List.flatMap_cons, List.append_assoc] using this

/-- Before the first press nothing is attempted. -/
theorem nothing_before_press {turns : List Turn} {s : Button × ButtonProducer} (hrun : serviceButton.IsRun s turns)
    (hvalid : s.1.Valid) (hup : s.1.phase = .up) (hpress : ∀ t ∈ turns, .press ∉ t.events) : createdBy turns = [] := by
  induction turns generalizing s with
  | nil => rfl
  | cons t turns ih =>
    obtain ⟨rfl, hstep, hrest⟩ := hrun
    obtain ⟨hvalid', hemits, -, hcreated⟩ := step_spec hstep hvalid
    have hquiet : t.events = [] ∧ t.after.1.phase = .up := by
      have hnot := hpress t List.mem_cons_self
      rw [show t.before.1.phase = .up from hup] at hemits
      generalize t.events = events at hemits hnot
      generalize t.after.1.phase = phase at hemits
      cases hemits with
      | quiet => exact ⟨rfl, rfl⟩
      | press => exact absurd List.mem_cons_self hnot
    rw [hquiet.1, ButtonProducer.attemptsAll] at hcreated
    rw [createdBy, List.flatMap_cons, hcreated, List.nil_append]
    exact ih hrest hvalid' hquiet.2 fun u hu => hpress u (List.mem_cons_of_mem _ hu)

/-- A turn with a press attempts nothing and leaves the producer with what the press has fixed. -/
theorem attends_press {t : Turn} (h : serviceButton.Steps t) (hvalid : t.before.1.Valid) (hpress : .press ∈ t.events) :
    Attends t.context t.events t.created t.after.2 t.after.1.phase := by
  obtain ⟨-, hemits, hstate, hcreated⟩ := step_spec h hvalid
  rw [hstate, hcreated]
  generalize t.events = events at hemits hpress
  generalize t.before.1.phase = phase at hemits
  generalize t.after.1.phase = phase' at hemits
  cases hemits with
  | press => exact ⟨rfl, by decide, rfl⟩
  | quiet | shortRelease | longPress | longAndVeryLongPress | veryLongPress | longRelease | veryLongRelease =>
    simp at hpress

theorem valid_of_run {turns : List Turn} {s : Button × ButtonProducer} (hrun : serviceButton.IsRun s turns)
    (hvalid : s.1.Valid) : (∀ t ∈ turns, t.before.1.Valid ∧ t.after.1.Valid) ∧ (serviceButton.last s turns).1.Valid :=
  hrun.invariant (I := fun s => s.1.Valid) (fun _ _ hstep hbefore => (step_spec hstep hbefore).1) hvalid

/-- **One gesture attempts at most one creation**, and one that its press allows: none before the first press, and then
from each press to the next. -/
theorem gesture_creates_once (debounceMs longPressMs veryLongPressMs : UInt32) (hpositive : 0 < longPressMs)
    (hordered : longPressMs ≤ veryLongPressMs) {turns : List Turn}
    (hrun : serviceButton.IsRun (.make debounceMs longPressMs veryLongPressMs, .initial) turns) :
    (∀ t ∈ turns, t.result.button.attempted = t.created.contains (buttonInput .shortPress) ∧
      t.result.manualCheckIn.attempted = t.created.contains manualCheckInInput) ∧
    (∀ before rest, turns = before ++ rest → (∀ t ∈ before, .press ∉ t.events) → createdBy before = []) ∧
    ∀ past press during rest, turns = past ++ press :: during ++ rest → .press ∈ press.events →
      (∀ t ∈ during, .press ∉ t.events) →
      (createdBy (press :: during) = [] ∨ createdBy (press :: during) = [buttonInput .shortPress] ∨
        createdBy (press :: during) = [manualCheckInInput]) ∧
      (press.context.displayAwake = false ∨ press.context.editorActive = true → createdBy (press :: during) = []) ∧
      (manualCheckInInput ∈ createdBy (press :: during) → press.context.homeScreen = true ∧
        .longPress ∈ eventsOf (press :: during) ∧ .release ∈ eventsOf (press :: during) ∧
        .veryLongPress ∉ eventsOf (press :: during)) ∧
      (buttonInput .shortPress ∈ createdBy (press :: during) → press.context.buttonEventSelected = true) := by
  have hmake : (Button.make debounceMs longPressMs veryLongPressMs).Valid := valid_make hpositive hordered
  refine ⟨fun t ht => ?_, ?_, ?_⟩
  · obtain ⟨-, -, -, hbutton, hmanual⟩ := observed_of_steps (hrun.steps ht)
    exact ⟨hbutton, hmanual⟩
  · rintro before rest rfl hpress
    exact nothing_before_press (System.isRun_append.1 hrun).1 hmake rfl hpress
  · rintro past press during rest rfl hpress hduring
    obtain ⟨hvalid, -⟩ := valid_of_run hrun hmake
    obtain ⟨⟨-, hrun'⟩, -⟩ := (System.isRun_append.1 hrun).imp_left System.isRun_append.1
    obtain ⟨-, hstep, hrun'⟩ := hrun'
    have hattends := attends_press hstep (hvalid press (by simp)).1 hpress
    have hattempted : Attempted press.context (eventsOf (press :: during)) (createdBy (press :: during)) :=
      attends_of_run hrun' (hvalid press (by simp)).2 hduring hattends
    generalize createdBy (press :: during) = created at hattempted
    cases hattempted with
    | nothing => exact ⟨Or.inl rfl, fun _ => rfl, by simp, by simp⟩
    | button hattentive hselected =>
      refine ⟨Or.inr (Or.inl rfl), ?_, ?_, fun _ => hselected⟩
      · rintro (hasleep | heditor)
        · rw [hattentive.1] at hasleep
          cases hasleep
        · rw [hattentive.2] at heditor
          cases heditor
      · intro hmanual
        exact absurd (List.mem_singleton.1 hmanual) manualCheckInInput_ne
    | manualCheckIn hattentive hhome hlong hreleased hnotVeryLong =>
      refine ⟨Or.inr (Or.inr rfl), ?_, fun _ => ⟨hhome, hlong, hreleased, hnotVeryLong⟩, ?_⟩
      · rintro (hasleep | heditor)
        · rw [hattentive.1] at hasleep
          cases hasleep
        · rw [hattentive.2] at heditor
          cases heditor
      · intro hbutton
        exact absurd (List.mem_singleton.1 hbutton).symm manualCheckInInput_ne

/-- A turn, given the creations that it attempts and what it returns. -/
def turnOf (s : Button × ButtonProducer) (sample : Sample) (context : ButtonContext) (created : List Node.EventInput)
    (result : ButtonProductionResult) : Turn :=
  ⟨s, sample, context, created, result,
    ((s.1.update sample).1, s.2.nextAll context (s.1.update sample).2.toList)⟩

/-- A short gesture in one context, on a button without debouncing. -/
def tap (context : ButtonContext) (created : List Node.EventInput) (result : ButtonProductionResult) : List Turn :=
  let nothing : ButtonProductionResult := ⟨noEmission, noEmission, false⟩
  let up := turnOf (.make 0 500 3000, .initial) ⟨false, 0⟩ context [] nothing
  let down := turnOf up.after ⟨true, 1⟩ context [] nothing
  [up, down, turnOf down.after ⟨false, 2⟩ context created result]

theorem gesture_creates_once_tap :
    let turns := tap ⟨true, false, true, true⟩ [buttonInput .shortPress] ⟨⟨true, .enqueued⟩, noEmission, false⟩
    (∀ t ∈ turns, t.result.button.attempted = t.created.contains (buttonInput .shortPress) ∧
      t.result.manualCheckIn.attempted = t.created.contains manualCheckInInput) ∧
    (∀ before rest, turns = before ++ rest → (∀ t ∈ before, .press ∉ t.events) → createdBy before = []) ∧
    ∀ past press during rest, turns = past ++ press :: during ++ rest → .press ∈ press.events →
      (∀ t ∈ during, .press ∉ t.events) →
      (createdBy (press :: during) = [] ∨ createdBy (press :: during) = [buttonInput .shortPress] ∨
        createdBy (press :: during) = [manualCheckInInput]) ∧
      (press.context.displayAwake = false ∨ press.context.editorActive = true → createdBy (press :: during) = []) ∧
      (manualCheckInInput ∈ createdBy (press :: during) → press.context.homeScreen = true ∧
        .longPress ∈ eventsOf (press :: during) ∧ .release ∈ eventsOf (press :: during) ∧
        .veryLongPress ∉ eventsOf (press :: during)) ∧
      (buttonInput .shortPress ∈ createdBy (press :: during) → press.context.buttonEventSelected = true) :=
  gesture_creates_once 0 500 3000 (by decide) (by decide)
    ⟨rfl, ⟨rfl, .pure _⟩, rfl, ⟨rfl, .pure _⟩, rfl, ⟨rfl, .call .enqueued trivial (.pure _)⟩, trivial⟩

end Redline.Input
