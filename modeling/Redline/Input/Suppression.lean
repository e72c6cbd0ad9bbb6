import Redline.Input.ButtonProducer

/-!
# Suppressed gestures

A short gesture that was pressed with button Events selected, but with the display asleep or the editor active, is to be
reported as suppressed.  The flag that the press sets for it does not last: the button reports a short press in the same
update as its release and after it, and the producer clears the flag at the release (`not_suppressed`).  So a run
reports as it should exactly if it has no such gesture.
-/

namespace Redline.Input

open Redline.Lib

/-! ### A short press comes with its release -/

namespace ButtonEvents

variable {events : ButtonEvents} {event x : ButtonEvent}

theorem mem_append (h : x ∈ (events.append event).toList) : x ∈ events.toList ∨ x = event := by
  obtain ⟨first, second⟩ := events
  unfold append at h
  split at h
  · simp only [toList, List.mem_filter, List.mem_cons] at h ⊢
    tauto
  · split at h
    · simp only [toList, List.mem_filter, List.mem_cons] at h ⊢
      tauto
    · exact Or.inl h

end ButtonEvents

namespace Button

variable {b : Button} {nowMs : UInt32} {events : ButtonEvents}

/-- The hold timer of any button adds long presses at most, and nothing when the button is up. -/
theorem report_twoSlots :
    (b.stablePressed = false → b.report twoSlots nowMs events = (b, events)) ∧
    (.shortPress ∈ (b.report twoSlots nowMs events).2.toList → .shortPress ∈ events.toList) := by
  constructor
  · intro hup
    simp [report, reportLongPress, reportVeryLongPress, hup]
  · intro h
    have hlong : ∀ {c : Button} {events : ButtonEvents},
        .shortPress ∈ (c.reportLongPress twoSlots nowMs events).2.toList → .shortPress ∈ events.toList := by
      intro c events h
      unfold reportLongPress at h
      split at h
      · exact (ButtonEvents.mem_append h).resolve_right (by decide)
      · exact h
    have hveryLong : ∀ {c : Button} {events : ButtonEvents},
        .shortPress ∈ (c.reportVeryLongPress twoSlots nowMs events).2.toList → .shortPress ∈ events.toList := by
      intro c events h
      unfold reportVeryLongPress at h
      split at h
      · exact (ButtonEvents.mem_append h).resolve_right (by decide)
      · exact h
    exact hlong (hveryLong h)

/-- **A short press comes right after the release**, whatever the thresholds of the button are. -/
theorem update_shortPress {sample : Sample} (h : .shortPress ∈ (b.update sample).2.toList) :
    (b.update sample).2.toList = [.release, .shortPress] := by
  unfold update updateWith at h ⊢
  split at h
  · simp [twoSlots, ButtonEvents.toList] at h
  split at h
  · simp [twoSlots, ButtonEvents.toList] at h
  rename_i hinitialized harmed
  rw [if_neg hinitialized, if_neg harmed]
  obtain ⟨settled, raised, -, hsettles, hsettle⟩ := settle_spec b sample.pressed sample.nowMs
  rw [hsettle twoSlots] at h ⊢
  have hraised := report_twoSlots.2 h
  cases hsettles with
  | stays | press | longRelease => exact absurd hraised (by decide)
  | shortRelease _ hup _ =>
    simp only [report_twoSlots.1 hup]
    rfl

end Button

/-! ### The flag -/

/-- **No turn reports a suppressed gesture.** -/
theorem not_suppressed {t : Turn} (h : serviceButton.Steps t) : t.result.buttonSuppressed = false := by
  rw [(observed_of_steps h).suppressed, Bool.false_or]
  by_cases hshort : .shortPress ∈ t.events
  · -- the release before it clears the flag
    rw [show t.events = [.release, .shortPress] from Button.update_shortPress hshort]
    simp [ButtonProducer.suppressesAny, ButtonProducer.suppresses, ButtonProducer.next]
  · exact ButtonProducer.suppressesAny_of_not_mem hshort

/-! ### What should be reported -/

/-- A press and the turns after it up to the next press, or to the end of the run. -/
structure IsGesture (turns : List Turn) (press : Turn) (during : List Turn) : Prop where
  pressed : .press ∈ press.events
  unbroken : ∀ t ∈ during, .press ∉ t.events
  within : ∃ past rest, turns = past ++ press :: during ++ rest ∧ ∀ t ∈ rest.head?, .press ∈ t.events

/-- The button events are selected, but nobody sees the display or an editor takes them. -/
def ButtonContext.muted (context : ButtonContext) : Bool :=
  context.buttonEventSelected && (!context.displayAwake || context.editorActive)

/-- The gesture is one that is to be reported: short, and muted when it was pressed. -/
def MutedShort (press : Turn) (during : List Turn) : Prop :=
  press.context.muted = true ∧ .shortPress ∈ eventsOf (press :: during)

instance (press : Turn) (during : List Turn) : Decidable (MutedShort press during) :=
  inferInstanceAs (Decidable (_ ∧ _))

/-- The reports of a run are as they should be: one for each muted short gesture and no other. -/
structure SuppressionReported (turns : List Turn) : Prop where
  gesture : ∀ press during, IsGesture turns press during →
    (press :: during).countP (·.result.buttonSuppressed) = if MutedShort press during then 1 else 0
  outside : ∀ t ∈ turns.takeWhile (.press ∉ ·.events), t.result.buttonSuppressed = false

/-- **When the suppression is reported**: in the runs that have no gesture to report. -/
theorem suppressionReported_iff (debounceMs longPressMs veryLongPressMs : UInt32) {turns : List Turn}
    (hrun : serviceButton.IsRun (.make debounceMs longPressMs veryLongPressMs, .initial) turns) :
    SuppressionReported turns ↔ ∀ press during, IsGesture turns press during → ¬ MutedShort press during := by
  have hnever : ∀ t ∈ turns, t.result.buttonSuppressed = false := fun t ht => not_suppressed (hrun.steps ht)
  have hnone : ∀ press during, IsGesture turns press during →
      (press :: during).countP (·.result.buttonSuppressed) = 0 := by
    rintro press during ⟨-, -, past, rest, rfl, -⟩
    rw [List.countP_eq_zero]
    intro t ht
    rw [hnever t (by simp only [List.append_assoc, List.mem_append]; exact Or.inr (Or.inl ht))]
    exact Bool.false_ne_true
  constructor
  · intro hreported press during hgesture hmuted
    have hcount := hreported.gesture press during hgesture
    rw [hnone press during hgesture, if_pos hmuted] at hcount
    cases hcount
  · intro hquiet
    refine ⟨fun press during hgesture => ?_, fun t ht => hnever t (List.takeWhile_subset _ ht)⟩
    rw [hnone press during hgesture, if_neg (hquiet press during hgesture)]

/-- A tap while the display sleeps. -/
def asleepTap : List Turn := tap ⟨false, false, true, true⟩ [] ⟨noEmission, noEmission, false⟩

/-- The button is tapped while the display sleeps, and nothing is reported. -/
theorem suppression_unreported : ¬ ∀ (debounceMs longPressMs veryLongPressMs : UInt32) (turns : List Turn),
    serviceButton.IsRun (.make debounceMs longPressMs veryLongPressMs, .initial) turns → SuppressionReported turns := by
  intro h
  have hreported := h 0 500 3000 asleepTap ⟨rfl, ⟨rfl, .pure _⟩, rfl, ⟨rfl, .pure _⟩, rfl, ⟨rfl, .pure _⟩, trivial⟩
  have hcount := hreported.gesture asleepTap[1] [asleepTap[2]]
    ⟨by decide, by decide, [asleepTap[0]], [], rfl, fun _ h => by cases h⟩
  exact absurd hcount (by decide)

/-- In the run of a tap that is not muted, nothing is to be reported. -/
theorem suppressionReported_iff_tap :
    let turns := tap ⟨true, false, true, true⟩ [buttonInput .shortPress] ⟨⟨true, .enqueued⟩, noEmission, false⟩
    SuppressionReported turns ↔ ∀ press during, IsGesture turns press during → ¬ MutedShort press during :=
  suppressionReported_iff 0 500 3000
    ⟨rfl, ⟨rfl, .pure _⟩, rfl, ⟨rfl, .pure _⟩, rfl, ⟨rfl, .call .enqueued trivial (.pure _)⟩, trivial⟩

end Redline.Input
