import Redline.Lib.Run
import Redline.Node.Fifo

/-!
# The Node beside a clock

A clock that does not wrap runs beside the Node.  `Clocked` counts the age of every Event, and keeps an account of every
slot whose lifetime is being charged: when the account was opened, with how many seconds, and when it was last serviced.
What a call does to the runtime and the record of a slot keeps the slot `Charged`: they balance the account (`Pays`), or
the lifetime is over.
-/

namespace Redline.Node

open Redline.Wire Redline.Records Redline.Lib

/-! ### The records of an image -/

/-- The record in force in a slot of the image. -/
def recordIn (img : Image) (slot : SlotIndex) : Option NodeRecord :=
  [CopySlot.A, .B].findSome? fun c =>
    ((img.slotCells slot c).bind decodeNodeRecordForSelection).filter fun r => SlotHolds img slot c r

def queuedRecordIn (img : Image) (slot : SlotIndex) : Option NodeRecord :=
  (recordIn img slot).filter fun r => r.state = .queued

section Records

variable {device : UInt8} {img : Image} {v : View} {slot : SlotIndex} {r : NodeRecord}

theorem recordIn_of_holds {c : CopySlot} (h : SlotHolds img slot c r) : recordIn img slot = some r := by
  have hcell : ∀ c', SlotHolds img slot c' r → ((img.slotCells slot c').bind decodeNodeRecordForSelection).filter
      (fun r => decide (SlotHolds img slot c' r)) = some r := by
    intro c' h'
    rw [h'.1]
    simp [h']
  unfold recordIn
  simp only [List.findSome?_cons, List.findSome?_nil]
  cases c with
  | A => rw [hcell .A h]
  | B =>
    cases hA : ((img.slotCells slot .A).bind decodeNodeRecordForSelection).filter
        (fun r => decide (SlotHolds img slot .A r)) with
    | none => rw [hcell .B h]
    | some r' =>
      have hr' : SlotHolds img slot .A r' := by simpa using (Option.mem_filter_iff.1 hA).2
      rw [(hr'.unique h).2]

theorem holds_of_recordIn (h : recordIn img slot = some r) : ∃ c, SlotHolds img slot c r := by
  obtain ⟨c, -, hc⟩ := List.exists_of_findSome?_eq_some h
  exact ⟨c, by simpa using (Option.filter_eq_some_iff.1 hc).2⟩

theorem Dormant.recordIn (h : Dormant img) (hr : recordIn img slot = some r) : r.state = .free := by
  obtain ⟨c, hc⟩ := holds_of_recordIn hr
  exact h slot c r hc

theorem Dormant.queuedRecordIn (h : Dormant img) (slot : SlotIndex) : queuedRecordIn img slot = none := by
  refine Option.filter_eq_none_iff.2 fun r hr hq => ?_
  rw [h.recordIn hr] at hq
  cases of_decide_eq_true hq

theorem Stored.recordIn (h : Stored device img v) (slot : SlotIndex) : recordIn img slot = some (v.records slot) := by
  obtain ⟨md, hd, -⟩ := h.lineage
  obtain ⟨c, hc⟩ := hd.slot slot
  exact recordIn_of_holds hc

theorem Stored.queuedRecordIn_eq (h : Stored device img v) (slot : SlotIndex) :
    queuedRecordIn img slot = if (v.records slot).state = .queued then some (v.records slot) else none := by
  unfold queuedRecordIn
  rw [h.recordIn]
  by_cases hq : (v.records slot).state = .queued <;> simp [hq]

theorem Stored.queuedRecordIn_iff (h : Stored device img v) :
    queuedRecordIn img slot = some r ↔ v.records slot = r ∧ r.state = .queued := by
  rw [h.queuedRecordIn_eq]
  constructor
  · intro hr
    split at hr
    · rename_i hq
      cases hr
      exact ⟨rfl, hq⟩
    · cases hr
  · rintro ⟨rfl, hq⟩
    rw [if_pos hq]

end Records

/-! ### The clock -/

/-- An action at its time, in milliseconds of a clock that does not wrap.  Power that is cut within a call is lost at a
time of its own. -/
inductive TimedAction
  | call (call : Call) (time : ℕ) (cut : Option (PowerCut Bytes × ℕ))
  | powerLoss (time : ℕ)

namespace TimedAction

/-- The Node reads the clock modulo `2 ^ 32`. -/
def action : TimedAction → Action
  | .call made time cut => .call made (UInt32.ofNat time) (cut.map Prod.fst)
  | .powerLoss _ => .powerLoss

def call? : TimedAction → Option Call
  | .call made _ _ => some made
  | .powerLoss _ => none

def time : TimedAction → ℕ
  | .call _ time _ => time
  | .powerLoss time => time

/-- When power is lost, if it is. -/
def stop : TimedAction → ℕ
  | .call _ time cut => (cut.map Prod.snd).getD time
  | .powerLoss time => time

end TimedAction

/-- The account of a slot: when it was opened, the remaining seconds there were then, and when the lifetime was last
serviced. -/
structure Account where
  start : ℕ
  seconds : ℕ
  serviced : ℕ
  deriving DecidableEq

/-- The account after a service at the time `time`. -/
def Account.upTo (A : Account) (time : ℕ) : Account := { A with serviced := time }

/-- A Node with its clock. -/
structure Clocked where
  machine : Machine
  /-- The time up to which the controller has run, once it has been recovered. -/
  running : Option ℕ
  /-- The milliseconds the controller has run since the Event in the slot was tracked. -/
  age : SlotIndex → Option ℕ
  /-- The age at which the remaining seconds in the flash were last written. -/
  updated : SlotIndex → Option ℕ
  account : SlotIndex → Option Account

/-- Power is off. -/
def Clocked.off (img : Image) : Clocked := ⟨.off img, none, fun _ => none, fun _ => none, fun _ => none⟩

/-- The calls that recover the controller. -/
def Call.restarts : Call → Bool
  | .recoverController | .boot _ => true
  | _ => false

/-- The calls that service the lifetimes. -/
def Ram.services (n : Ram) : Call → Bool
  | .service _ _ => n.usable && n.takeUp.controller.active
  | .grantTransmit _ => n.usable && n.controller.active && n.controller.state = .ready
  | .txStarted | .txStartFailed _ | .txCompleted => n.usable && n.controller.state = .tx
  | .admissionCandidate _ _ => n.usable && n.controller.state = .waitAdmission
  | _ => false

/-- The calls that start the lifetime of the Event they leave in the slot. -/
def Machine.tracks (m : Machine) (call : Call) (slot : SlotIndex) : Bool :=
  m.ram.usable && match call with
    | .trackEnqueued tracked => tracked == slot.val
    | .create _ => (queuedRecordIn m.image slot).isNone
    | _ => false

namespace Clocked

/-- The milliseconds the controller has run since the last action. -/
def elapsed (c : Clocked) (time : ℕ) : ℕ := (c.running.map fun reached => time - reached).getD 0

def ageAt (c : Clocked) (time : ℕ) (slot : SlotIndex) : Option ℕ := (c.age slot).map (· + c.elapsed time)

/-- When the image `img` is reached at the time `time`: the age at which its remaining seconds were written. -/
def updatedAt (c : Clocked) (time : ℕ) (img : Image) (slot : SlotIndex) : Option ℕ :=
  (queuedRecordIn img slot).bind fun r =>
    if (queuedRecordIn c.machine.image slot).map NodeRecord.remainingActiveSeconds = some r.remainingActiveSeconds then
      c.updated slot
    else c.ageAt time slot

/-- A call that was given the time `time` has returned. -/
def returned (c : Clocked) (call : Call) (time : ℕ) (m : Machine) : Clocked where
  machine := m
  running := if call.restarts then some time else c.running.map fun _ => time
  age slot := (queuedRecordIn m.image slot).bind fun _ =>
    if c.machine.tracks call slot then some 0 else c.ageAt time slot
  updated slot :=
    if c.machine.tracks call slot then (queuedRecordIn m.image slot).map fun _ => 0 else c.updatedAt time m.image slot
  account slot := (queuedRecordIn m.image slot).bind fun r =>
    if call.restarts || c.machine.tracks call slot then some ⟨time, r.remainingActiveSeconds.toNat, time⟩
    else if c.machine.ram.services call then (c.account slot).map fun A => A.upTo time
    else c.account slot

/-- Power has been lost at the time `stop`. -/
def lost (c : Clocked) (stop : ℕ) (img : Image) : Clocked where
  machine := .off img
  running := none
  age slot := (queuedRecordIn img slot).bind fun _ => c.ageAt stop slot
  updated slot := c.updatedAt stop img slot
  account _ := none

/-- The controller runs from the time that its recovery is given. -/
def started (c : Clocked) (call : Call) (time : ℕ) : Clocked :=
  if call.restarts && c.running.isNone then { c with running := some time } else c

def step (device hub : UInt8) (c : Clocked) : TimedAction → Clocked × RadioAction
  | .powerLoss time => (c.lost time c.machine.image, .none)
  | .call call time cut =>
    match exec geometry.flash geometry.undecodable (call.run device hub (UInt32.ofNat time) c.machine.ram)
        (cut.map Prod.fst) (Disk.clean c.machine.image) with
    | .done r d => (c.returned call time ⟨r.1, d.data⟩, r.2)
    | .lost img => ((c.started call time).lost ((cut.map Prod.snd).getD time) img, .none)

end Clocked

/-- An action with what was there before and after it. -/
structure ClockedTurn where
  before : Clocked
  action : TimedAction
  after : Clocked
  radio : RadioAction

/-- The Node and its clock as a system that takes turns. -/
def clockwork (device hub : UInt8) : System Clocked ClockedTurn where
  before := ClockedTurn.before
  after := ClockedTurn.after
  Steps t := t.before.step device hub t.action = (t.after, t.radio)

/-- The turns of the actions, one after the other. -/
def Clocked.play (device hub : UInt8) (c : Clocked) : List TimedAction → List ClockedTurn
  | [] => []
  | a :: actions =>
    ⟨c, a, (c.step device hub a).1, (c.step device hub a).2⟩ :: Clocked.play device hub (c.step device hub a).1 actions

/-! ### The account of a slot -/

/-- **The balance of a slot**: what is left of the lifetime and what has passed since the account was opened are what
there was then and what is not yet committed. -/
structure Pays (A : Account) (rt : SlotRuntime) (r : NodeRecord) : Prop where
  tracked : rt.tracked = true
  baseline : rt.baselineMilliseconds = UInt32.ofNat A.serviced
  order : A.start ≤ A.serviced
  balance : NodeRecord.remainingMilliseconds r + (A.serviced - A.start) = A.seconds * 1000 + rt.uncommittedMilliseconds
  alive : rt.uncommittedMilliseconds < NodeRecord.remainingMilliseconds r

/-- A slot during a call at the time `time`: it is charged up to the last service or up to now; or it has expired, and
its lifetime is over; or its Event has left the queue before that. -/
inductive Charged (time : ℕ) (A : Account) (rt : SlotRuntime) (r : NodeRecord) : Prop
  | queued (hq : r.state = .queued) (hpays : Pays A rt r ∨ Pays (A.upTo time) rt r)
  | expired (he : r.state = .expired) (hover : A.seconds * 1000 ≤ time - A.start)
  | left (hq : r.state ≠ .queued) (he : r.state ≠ .expired) (hunder : time - A.start < A.seconds * 1000)

section Charged

variable {A : Account} {rt rt' : SlotRuntime} {r r' : NodeRecord} {time : ℕ}

theorem toNat_clock_sub {a b : ℕ} (hle : a ≤ b) (hlt : b < a + 2 ^ 32) :
    (UInt32.ofNat b - UInt32.ofNat a).toNat = b - a := by
  rw [UInt32.toNat_sub, UInt32.toNat_ofNat', UInt32.toNat_ofNat']
  omega

/-- Two readings of the clock that agree, less than `2 ^ 32` apart, are one. -/
theorem eq_of_clock_eq {a b : ℕ} (hle : a ≤ b) (hlt : b < a + 2 ^ 32) (h : UInt32.ofNat a = UInt32.ofNat b) :
    a = b := by
  have hsub := toNat_clock_sub hle hlt
  rw [h, UInt32.sub_self, UInt32.toNat_zero] at hsub
  omega

/-- A slot that is paid up is in the lifetime it was opened with. -/
theorem Pays.under (h : Pays A rt r) : A.serviced - A.start < A.seconds * 1000 := by
  have := h.balance
  have := h.alive
  omega

theorem Pays.gathered (h : Pays A rt r) (hle : A.serviced ≤ time) (hlt : time < A.serviced + 2 ^ 32) :
    rt.gathered (UInt32.ofNat time) = rt.uncommittedMilliseconds + (time - A.serviced) := by
  rw [SlotRuntime.gathered, h.baseline, toNat_clock_sub hle hlt]

/-- **A round of the policy**: the slot is charged up to now, or it expires because its lifetime is over. -/
theorem Pays.service (h : Pays A rt r) (hq : r.state = .queued) (hle : A.serviced ≤ time)
    (hlt : time < A.serviced + 2 ^ 32) (hserviced : Serviced (UInt32.ofNat time) rt r rt' r') :
    Charged time A rt' r' := by
  have horder := h.order
  have hbalance := h.balance
  cases hserviced with
  | idle hnot => exact absurd hq hnot
  | untracked _ hno =>
    rw [h.tracked] at hno
    cases hno
  | expired _ _ hs =>
    obtain ⟨he, hover⟩ := hs.expired rfl
    rw [h.gathered hle hlt] at hover
    exact .expired he (by omega)
  | @kept _ _ _ u hs =>
    obtain ⟨hq', hunder, hsum, -, halive⟩ := hs.kept u rfl
    rw [h.gathered hle hlt] at hsum
    refine .queued hq' (Or.inr ⟨rfl, rfl, horder.trans hle, ?_, halive⟩)
    simp only [Account.upTo]
    omega

/-- A slot that is charged up to now has been serviced now. -/
theorem Charged.current (h : Charged time A rt r) (hle : A.serviced ≤ time) (hlt : time < A.serviced + 2 ^ 32)
    (hq : r.state = .queued) (hcurrent : rt.Current (UInt32.ofNat time)) : Pays (A.upTo time) rt r := by
  cases h with
  | queued _ hpays =>
    rcases hpays with hpays | hpays
    · have hnow : A.serviced = time := eq_of_clock_eq hle hlt (hpays.baseline.symm.trans hcurrent.baseline)
      have hsame : A.upTo time = A := by rw [← hnow]; rfl
      rwa [hsame]
    · exact hpays
  | expired he _ =>
    rw [hq] at he
    cases he
  | left hno _ _ => exact absurd hq hno

theorem Charged.round (h : Charged time A rt r) (hle : A.serviced ≤ time) (hlt : time < A.serviced + 2 ^ 32)
    (hserviced : Serviced (UInt32.ofNat time) rt r rt' r') : Charged time A rt' r' := by
  have hidle : r.state ≠ .queued → r' = r := fun hno => by
    cases hserviced with
    | idle => rfl
    | untracked hq => exact absurd hq hno
    | expired hq => exact absurd hq hno
    | kept hq => exact absurd hq hno
  cases h with
  | queued hq hpays =>
    rcases hpays with hpays | hpays
    · exact hpays.service hq hle hlt hserviced
    · -- serviced once more at the same time
      have hagain : Charged time (A.upTo time) rt' r' :=
        hpays.service hq le_rfl (Nat.lt_add_of_pos_right (by decide)) hserviced
      cases hagain with
      | queued hq' hpays' => exact .queued hq' (Or.inr (hpays'.elim id id))
      | expired he hover => exact .expired he hover
      | left hno he hunder => exact .left hno he hunder
  | expired he hover =>
    rw [hidle (by rw [he]; exact NodeState.noConfusion)]
    exact .expired he hover
  | left hno he hunder =>
    rw [hidle hno]
    exact .left hno he hunder

end Charged

/-- **Slots stay charged** through whatever a call does. -/
theorem Charged.moves {time : ℕ} {A : Account} {x y : (SlotIndex → SlotRuntime) × View} {i : SlotIndex}
    (hmoves : Moves (UInt32.ofNat time) x y) (hle : A.serviced ≤ time) (hlt : time < A.serviced + 2 ^ 32)
    (h : Charged time A (x.1 i) (x.2.records i)) : Charged time A (y.1 i) (y.2.records i) := by
  induction hmoves with
  | refl => exact h
  | tail _ hmove ih =>
    cases hmove with
    | round hround => exact ih.round hle hlt (hround.serviced i)
    | @put runtime v slot r hq hcurrent he hlive hkept =>
      by_cases his : i = slot
      · subst his
        rw [View.put_apply]
        have hpays := ih.current hle hlt hq hcurrent
        by_cases hr : r.state = .queued
        · have hms : NodeRecord.remainingMilliseconds r = NodeRecord.remainingMilliseconds (v.records i) := by
            rw [NodeRecord.remainingMilliseconds, NodeRecord.remainingMilliseconds, hkept hr]
          refine .queued hr (Or.inr ⟨hpays.tracked, hpays.baseline, hpays.order, ?_, ?_⟩)
          · rw [hms]
            exact hpays.balance
          · rw [hms]
            exact hpays.alive
        · exact .left hr hlive hpays.under
      · rw [View.put_apply_ne _ his]
        exact ih

end Redline.Node
