import Mathlib.Data.Finset.Card
import Mathlib.Data.Fintype.Basic
import Redline.Node.Clocked
import Redline.Node.Headway

/-!
# How long an Event waits

A `Watch` keeps a clock that does not wrap beside the controller: when its stage was entered, and when it was last
attended to.  At a `Pace` the call that a stage waits for comes in time, so a stage lasts no longer than `Pace.own`, the
head is gone after `Pace.rest`, and the `horizon` of an Event, with the Events ahead of it, does not recede while it is
QUEUED.
-/

namespace Redline.Node

open Redline.Wire Redline.Records Redline.Lib

/-! ### The pace -/

/-- The stages that a steady controller can be in. -/
def Stage.Possible : Stage → Prop
  | .pending left => left ≤ 5
  | .air left | .wait left => left ≤ 4
  | .backoff left => 1 ≤ left ∧ left ≤ 4
  | .idle | .ended => True

theorem Stage.Passes.ne {a b : Stage} (h : a.Passes b) : b ≠ a := by
  cases h <;> exact Stage.noConfusion

/-- How soon the calls come, in milliseconds: those of the service loop, the grant of the radio, and the end of a
transmission. -/
structure Pace where
  service : ℕ
  grant : ℕ
  airtime : ℕ
  /-- The loop comes round before the clock of the Node has wrapped since a deadline. -/
  noticed : service + 8250 < 2 ^ 32

namespace Pace

/-- The longest backoff with so many attempts left. -/
def longest (left : ℕ) : ℕ := (backoffTable.getD (4 - left) 0).toNat + maxBackoffJitterMilliseconds.toNat

variable (pace : Pace)

/-- How soon the call comes that a stage waits for, or that finds its deadline reached. -/
def patience : Stage → ℕ
  | .pending _ => pace.grant
  | .air _ => pace.airtime
  | .idle | .wait _ | .backoff _ | .ended => pace.service

/-- How long a stage lasts. -/
def own : Stage → ℕ
  | .pending _ => pace.grant
  | .air _ => pace.airtime
  | .wait _ => admissionTimeoutMilliseconds.toNat + pace.service
  | .backoff left => longest left + pace.service
  | .idle | .ended => pace.service

/-- What a failed attempt takes from then on, with so many left. -/
def afterwards : ℕ → ℕ
  | 0 => 0
  | left + 1 => pace.own (.backoff (left + 1)) +
      (pace.grant + (pace.airtime + (pace.own (.wait left) + afterwards left)))

/-- From the time that the Event is taken up. -/
def upTaken : ℕ → ℕ
  | 0 => pace.grant
  | left + 1 => pace.grant + (pace.airtime + (pace.own (.wait left) + pace.afterwards left))

/-- How long it is until the active Event is gone; a stage without one has the next Event before it. -/
def rest : Stage → ℕ
  | .pending left => pace.upTaken left
  | .air left => pace.airtime + (pace.own (.wait left) + pace.afterwards left)
  | .wait left => pace.own (.wait left) + pace.afterwards left
  | .backoff left => pace.afterwards left
  | .idle => pace.service + pace.upTaken 5
  | .ended => pace.service + (pace.service + pace.upTaken 5)

/-- What one Event takes: it is taken up, attempted five times, and reclaimed. -/
def event : ℕ := pace.rest .ended

theorem event_eq : pace.event = 11 * pace.service + 5 * pace.grant + 5 * pace.airtime + 28500 := by
  have hwait : ∀ left, pace.own (.wait left) = 2500 + pace.service := fun _ => rfl
  have hbackoff : pace.own (.backoff 1) = 8250 + pace.service ∧ pace.own (.backoff 2) = 4250 + pace.service ∧
      pace.own (.backoff 3) = 2250 + pace.service ∧ pace.own (.backoff 4) = 1250 + pace.service :=
    ⟨rfl, rfl, rfl, rfl⟩
  simp only [event, rest, upTaken, afterwards, hwait, hbackoff]
  omega

theorem afterwards_mono : Monotone pace.afterwards := by
  refine monotone_nat_of_le_succ fun left => ?_
  simp only [afterwards]
  omega

theorem upTaken_mono : Monotone pace.upTaken := by
  refine monotone_nat_of_le_succ fun left => ?_
  cases left with
  | zero => simp [upTaken]
  | succ left =>
    have hle := pace.afterwards_mono (Nat.le_add_right left 1)
    simp only [upTaken, own]
    omega

/-- **Every stage that is passed takes its time off what is left.** -/
theorem own_add_rest_le {a b : Stage} (h : a.Passes b) : pace.own a + pace.rest b ≤ pace.rest a := by
  cases h with
  | takenUp hleft =>
    have hle := pace.upTaken_mono hleft
    simp only [own, rest]
    omega
  | armed => simp only [own, rest, upTaken]; omega
  | completed => simp only [own, rest]; omega
  | startFailed => simp only [own, rest]; omega
  | unanswered => simp only [own, rest]; omega
  | again => simp only [own, rest, upTaken, afterwards]; omega
  | reclaimed => simp only [own, rest]; omega

theorem own_le_rest {a : Stage} (h : a.Possible) : pace.own a ≤ pace.rest a := by
  cases a with
  | pending left => cases left <;> simp [own, rest, upTaken]
  | backoff left =>
    obtain ⟨before, rfl⟩ := Nat.exists_eq_add_of_le' h.1
    simp only [own, rest, afterwards]
    omega
  | idle => simp [own, rest]
  | air left => simp [own, rest]
  | wait left => simp only [own, rest]; omega
  | ended => simp [own, rest]

/-- No stage has more before it than a whole Event. -/
theorem rest_le_event {a : Stage} (h : a.Possible) : pace.rest a ≤ pace.event := by
  have hlater : ∀ left ≤ 4, pace.airtime + (pace.own (.wait left) + pace.afterwards left) ≤ pace.upTaken 5 := by
    intro left hle
    have hmono := pace.upTaken_mono (show left + 1 ≤ 5 by omega)
    simp only [upTaken] at hmono ⊢
    omega
  unfold event
  cases a with
  | idle => simp only [rest]; omega
  | ended => exact le_rfl
  | pending left =>
    have hmono := pace.upTaken_mono h
    simp only [rest]
    omega
  | air left =>
    have hle := hlater left h
    simp only [rest]
    omega
  | wait left =>
    have hle := hlater left h
    simp only [rest]
    omega
  | backoff left =>
    have hle := hlater left h.2
    simp only [rest]
    omega

end Pace

/-! ### The place in the queue -/

/-- The Event of the identity `k` is QUEUED in the slot. -/
def Ram.Queues (n : Ram) (slot : SlotIndex) (k : ℕ) : Prop :=
  ∃ r ∈ n.store.recordAt slot, r.state = .queued ∧ r.key = k

instance (n : Ram) (slot : SlotIndex) (k : ℕ) : Decidable (n.Queues slot k) :=
  inferInstanceAs (Decidable (∃ r ∈ n.store.recordAt slot, r.state = .queued ∧ r.key = k))

/-- The slots of the QUEUED Events before the identity `k`. -/
def View.ahead (v : View) (k : ℕ) : Finset SlotIndex :=
  Finset.univ.filter fun j => (v.records j).state = .queued ∧ (v.records j).key < k

section Place

variable {s : Store} {v v' : View} {slot : SlotIndex} {k : ℕ}

theorem View.mem_ahead {j : SlotIndex} : j ∈ v.ahead k ↔ (v.records j).state = .queued ∧ (v.records j).key < k := by
  simp [View.ahead]

theorem Serving.queued_of_queues {n : Ram} (h : Serving n.store v) (hqueues : n.Queues slot k) :
    (v.records slot).state = .queued ∧ (v.records slot).key = k := by
  obtain ⟨r, hr, hqueued, hkey⟩ := hqueues
  rw [h.recordAt, Option.mem_some_iff] at hr
  rw [hr]
  exact ⟨hqueued, hkey⟩

/-- What follows the queue puts nothing ahead of an Event that stays in it. -/
theorem Follows.ahead_subset (h : Follows v v') (hq : (v.records slot).state = .queued)
    (hk : (v.records slot).key = k) : v'.ahead k ⊆ v.ahead k := by
  intro j hj
  obtain ⟨hjq, hjk⟩ := View.mem_ahead.1 hj
  rcases h j hjq with ⟨hold, hkey⟩ | hnewer
  · rw [hkey] at hjk
    exact View.mem_ahead.2 ⟨hold, hjk⟩
  · have hlt := hnewer slot hq
    omega

/-- The Event that has gone was ahead. -/
theorem Gone.ahead_lt (h : Gone v v') (hfollows : Follows v v') (hok : v.Ok) (hq : (v.records slot).state = .queued)
    (hk : (v.records slot).key = k) (hq' : (v'.records slot).state = .queued) :
    (v'.ahead k).card < (v.ahead k).card := by
  obtain ⟨first, hhead, hgone⟩ := h
  have hne : first ≠ slot := by
    rintro rfl
    exact hgone hq'
  have hle := hhead.least slot hq
  have hdistinct : (v.records first).key ≠ (v.records slot).key := fun heq =>
    hne (hok.distinct first slot (owned_of_queued hhead.queued) (owned_of_queued hq) heq)
  refine Finset.card_lt_card ((Finset.ssubset_iff_of_subset (hfollows.ahead_subset hq hk)).2 ⟨first, ?_, ?_⟩)
  · exact View.mem_ahead.2 ⟨hhead.queued, by omega⟩
  · intro hmem
    exact hgone (View.mem_ahead.1 hmem).1

/-- At the place `p` of the index there are at most `p` Events ahead. -/
theorem Shaped.card_ahead_le (h : Shaped s v) {p : ℕ} (hplace : s.queuedAt p = some slot) :
    (v.ahead (v.records slot).key).card ≤ p := by
  have hget : s.queue[p]? = some slot := hplace
  obtain ⟨hp, hat⟩ := List.getElem?_eq_some_iff.1 hget
  have hsubset : v.ahead (v.records slot).key ⊆ (s.queue.take p).toFinset := by
    intro j hj
    obtain ⟨hq, hlt⟩ := View.mem_ahead.1 hj
    have hmem : j ∈ s.queue := (h.indexed.mem j).2 (by rw [h.records]; exact hq)
    obtain ⟨i, hi, rfl⟩ := List.getElem_of_mem hmem
    have hip : i < p := by
      by_contra hge
      -- the index is sorted, so what stands at `p` or later is not before it
      have hle : (v.records s.queue[p]).key ≤ (v.records s.queue[i]).key := by
        rcases Nat.lt_or_eq_of_le (not_lt.1 hge) with hpi | rfl
        · have hsorted := List.pairwise_iff_getElem.1 h.indexed.sorted p i hp hi hpi
          rw [h.records] at hsorted
          exact hsorted.le
        · exact le_rfl
      rw [hat] at hle
      omega
    exact List.mem_toFinset.2 (List.mem_take_iff_getElem.2 ⟨i, by omega, rfl⟩)
  calc (v.ahead (v.records slot).key).card
      ≤ (s.queue.take p).toFinset.card := Finset.card_le_card hsubset
    _ ≤ (s.queue.take p).length := List.toFinset_card_le _
    _ ≤ p := List.length_take_le _ _

end Place

/-! ### Deadlines -/

/-- How long the stage waits before the controller acts. -/
def Ram.limit (n : Ram) : ℕ :=
  match n.stage with
  | .wait _ => admissionTimeoutMilliseconds.toNat
  | .backoff _ => n.controller.deadlineDuration.toNat
  | _ => 0

section Deadlines

variable {n n' : Ram} {v : View} {now : UInt32}

theorem limit_of_untimed (h : n.stage.timed = false) : n.limit = 0 := by
  unfold Ram.limit
  cases hs : n.stage <;> simp [hs, Stage.timed] at h ⊢

theorem SameTimer.limit (h : SameTimer n n') (hstage : n'.stage = n.stage) : n'.limit = n.limit := by
  unfold Ram.limit
  rw [hstage, h.duration]

theorem attemptsLeft_le (r : NodeRecord) : attemptsLeft r ≤ 5 := Nat.sub_le _ _

/-- A controller whose head has been attempted. -/
theorem Steady.stage_of_tried (h : Steady n v) (htried : n.controller.state.tried = true) :
    ∃ slot : SlotIndex, n.stage = n.controller.state.stage (attemptsLeft (v.records slot)) ∧
      1 ≤ (v.records slot).attemptsUsed.toNat ∧
        (n.controller.state = .backoff → BacksOff n.controller (v.records slot)) := by
  obtain ⟨hactive, -, slot, hslot, -, hattempts, hbackoff⟩ := h.toTended.tried htried
  exact ⟨slot, h.serving.stage hactive hslot, hattempts, hbackoff⟩

theorem BacksOff.le_longest {c : Controller} {r : NodeRecord} (h : BacksOff c r) (hpos : 1 ≤ r.attemptsUsed.toNat) :
    c.deadlineDuration.toNat ≤ Pace.longest (attemptsLeft r) := by
  have hle := (h.left hpos).1
  obtain ⟨base, jitter, hbase, hjitter, hduration⟩ := h
  have hleft : attemptsLeft r = 5 - r.attemptsUsed.toNat := rfl
  have hindex : 4 - attemptsLeft r = r.attemptsUsed.toNat - 1 := by omega
  have hjitter' : jitter.toNat ≤ maxBackoffJitterMilliseconds.toNat := UInt16.le_iff_toNat_le.1 hjitter
  rw [hduration, UInt32.toNat_add, UInt16.toNat_toUInt32, Pace.longest, hindex, List.getD_eq_getElem?_getD, hbase]
  simp only [Option.getD_some]
  exact le_trans (Nat.mod_le _ _) (Nat.add_le_add_left hjitter' _)

theorem Steady.possible (h : Steady n v) : n.stage.Possible := by
  by_cases htried : n.controller.state.tried = true
  · obtain ⟨slot, hstage, hattempts, hbackoff⟩ := h.stage_of_tried htried
    have hleft : attemptsLeft (v.records slot) = 5 - (v.records slot).attemptsUsed.toNat := rfl
    rw [hstage]
    cases hstate : n.controller.state with
    | tx => exact (by omega : attemptsLeft (v.records slot) ≤ 4)
    | waitAdmission => exact (by omega : attemptsLeft (v.records slot) ≤ 4)
    | backoff => exact (hbackoff hstate).left hattempts
    | _ => simp [hstate, RuntimeState.tried] at htried
  · unfold Ram.stage
    split
    · have hle : (n.record.map attemptsLeft).getD 0 ≤ 5 := by
        cases n.record with
        | none => exact Nat.zero_le 5
        | some r => exact attemptsLeft_le r
      generalize n.controller.state = state at htried
      cases state <;> simp [RuntimeState.tried, RuntimeState.stage, Stage.Possible] at htried ⊢ <;> exact hle
    · trivial

/-- The limit of a stage, and the patience with it, is the time of the stage. -/
theorem Steady.limit_add_patience_le (h : Steady n v) (pace : Pace) :
    n.limit + pace.patience n.stage ≤ pace.own n.stage ∧ n.limit ≤ 8250 := by
  by_cases htried : n.controller.state = .backoff
  · obtain ⟨slot, hstage, hattempts, hbackoff⟩ := h.stage_of_tried (by rw [htried]; rfl)
    have hle := ((hbackoff htried).left hattempts).2
    have hduration := (hbackoff htried).le_longest hattempts
    rw [htried] at hstage
    have hlimit : n.limit = n.controller.deadlineDuration.toNat := by
      unfold Ram.limit
      rw [hstage]
      rfl
    have hlongest : ∀ left ≤ 4, Pace.longest left ≤ 8250 := by decide
    have hlongest' := hlongest _ hle
    rw [hlimit, hstage]
    simp only [RuntimeState.stage, Pace.patience, Pace.own]
    omega
  · have hnot : ∀ left, n.stage ≠ .backoff left := by
      intro left hstage
      unfold Ram.stage at hstage
      split at hstage
      · generalize n.controller.state = state at hstage htried
        cases state <;> simp [RuntimeState.stage] at hstage htried
      · cases hstage
    unfold Ram.limit
    cases hs : n.stage with
    | backoff left => exact absurd hs (hnot left)
    | wait left => exact ⟨le_rfl, (by decide : admissionTimeoutMilliseconds.toNat ≤ 8250)⟩
    | pending left => simp [Pace.patience, Pace.own]
    | air left => simp [Pace.patience, Pace.own]
    | idle => simp [Pace.patience, Pace.own]
    | ended => simp [Pace.patience, Pace.own]

theorem Ram.Waits.lt_limit (h : n.Waits now v) (hidle : n.stage ≠ .idle) :
    n.stage.timed = true ∧ (now - n.controller.deadlineOrigin).toNat < n.limit := by
  unfold Ram.Waits at h
  unfold Ram.limit
  cases hs : n.stage with
  | idle => exact absurd hs hidle
  | wait left =>
    rw [hs] at h
    exact ⟨rfl, UInt32.lt_iff_toNat_lt.1 h⟩
  | backoff left =>
    rw [hs] at h
    exact ⟨rfl, UInt32.lt_iff_toNat_lt.1 h⟩
  | pending left =>
    rw [hs] at h
    cases h
  | air left =>
    rw [hs] at h
    cases h
  | ended =>
    rw [hs] at h
    cases h

end Deadlines

/-! ### The controller beside a clock -/

/-- The controller, with the time reached, the time at which its stage was entered, and the time at which it was last
attended to: its stage was entered, or served. -/
structure Watch where
  ram : Ram
  reached : ℕ
  since : ℕ
  attended : ℕ

namespace Watch

def start (n : Ram) (time : ℕ) : Watch := ⟨n, time, time, time⟩

def next (w : Watch) (call : Call) (time : ℕ) (n : Ram) : Watch where
  ram := n
  reached := time
  since := if n.stage = w.ram.stage then w.since else time
  attended := if n.stage = w.ram.stage ∧ w.ram.serves call = false then w.attended else time

/-- From when on the time of the stage counts: a controller without an Event waits for its loop. -/
def base (w : Watch) : ℕ := if w.ram.stage = .idle then w.attended else w.since

end Watch

/-- A call at its time, and what the storage has answered. -/
structure WatchedTurn where
  before : Watch
  call : Call
  time : ℕ
  log : Log StorageOp.Reply
  radio : RadioAction
  ram : Ram

def WatchedTurn.after (t : WatchedTurn) : Watch := t.before.next t.call t.time t.ram

/-- **The controller between two starts, at a pace**: its calls in any order, over any storage, and every one comes
before what the stage waits for is overdue. -/
def watched (device hub : UInt8) (pace : Pace) : System Watch WatchedTurn where
  before := WatchedTurn.before
  after := WatchedTurn.after
  Steps t := t.call.delivers = true ∧ t.before.reached ≤ t.time ∧
    t.time ≤ t.before.attended + pace.patience t.before.ram.stage ∧
    (t.call.run device hub (UInt32.ofNat t.time) t.before.ram).Logs t.log (t.ram, t.radio)

/-- **What a watch keeps**: no stage is left unattended past its deadline. -/
structure Timely (w : Watch) (v : View) : Prop where
  steady : Steady w.ram v
  since_le : w.since ≤ w.attended
  attended_le : w.attended ≤ w.reached
  within : w.ram.stage ≠ .idle → w.attended ≤ w.since + w.ram.limit
  origin : w.ram.stage.timed = true → w.ram.controller.deadlineOrigin = UInt32.ofNat w.since

section Watches

variable {pace : Pace} {w : Watch} {v v' : View} {n' : Ram} {call : Call} {time k : ℕ} {slot : SlotIndex}

/-- The time of a prompt call is that of the stage. -/
theorem Timely.le_own (h : Timely w v) (hprompt : time ≤ w.attended + pace.patience w.ram.stage) :
    time ≤ w.base + pace.own w.ram.stage := by
  have hlimit := (h.steady.limit_add_patience_le pace).1
  unfold Watch.base
  split
  · omega
  · rename_i hidle
    have hwithin := h.within hidle
    omega

/-- A call that serves the stage and leaves it finds the deadline ahead. -/
theorem Timely.lt_limit (h : Timely w v) (hfrom : w.reached ≤ time)
    (hprompt : time ≤ w.attended + pace.patience w.ram.stage) (hwaits : w.ram.Waits (UInt32.ofNat time) v)
    (hidle : w.ram.stage ≠ .idle) : time < w.since + w.ram.limit := by
  obtain ⟨htimed, hlt⟩ := hwaits.lt_limit hidle
  have hlimit := (h.steady.limit_add_patience_le pace).2
  have hwithin := h.within hidle
  have hsince := h.since_le
  have hattended := h.attended_le
  have hpatience : pace.patience w.ram.stage = pace.service := by
    generalize w.ram.stage = stage at htimed
    cases stage <;> first | rfl | cases htimed
  have hnoticed := pace.noticed
  rw [h.origin htimed, toNat_clock_sub (by omega) (by omega)] at hlt
  omega

/-- **One call keeps the watch.** -/
theorem Timely.next (h : Timely w v) (hfrom : w.reached ≤ time)
    (hprompt : time ≤ w.attended + pace.patience w.ram.stage) (hsteady : Steady n' v')
    (hadvances : Advances (UInt32.ofNat time) (w.ram.serves call = true) w.ram v n' v') :
    Timely (w.next call time n') v' := by
  have hsince := h.since_le
  have hattended := h.attended_le
  have hentered : n'.stage ≠ w.ram.stage →
      (n'.stage.timed = true → n'.controller.deadlineOrigin = UInt32.ofNat time) → Timely (w.next call time n') v' := by
    intro hchanged hstamp
    refine ⟨hsteady, ?_, ?_, fun _ => ?_, fun htimed => ?_⟩
    · simp [Watch.next, hchanged]
    · simp [Watch.next, hchanged]
    · simp [Watch.next, hchanged]
    · simp only [Watch.next, hchanged, if_false]
      exact hstamp htimed
  cases hadvances with
  | rests hstage htimer hwaits =>
    have hlimit : n'.limit = w.ram.limit := by
      cases htimed : w.ram.stage.timed with
      | true => exact (htimer htimed).limit hstage
      | false => rw [limit_of_untimed htimed, limit_of_untimed (by rw [hstage]; exact htimed)]
    cases hserves : w.ram.serves call with
    | false =>
      refine ⟨hsteady, ?_, ?_, fun hidle => ?_, fun htimed => ?_⟩
      · simpa [Watch.next, hstage, hserves] using hsince
      · simp only [Watch.next, hstage, hserves, and_self, if_true]
        omega
      · have hwithin := h.within (hstage ▸ hidle)
        simpa [Watch.next, hstage, hserves, hlimit] using hwithin
      · have htimed' : w.ram.stage.timed = true := hstage ▸ htimed
        simp only [Watch.next, hstage, if_true]
        rw [(htimer htimed').origin]
        exact h.origin htimed'
    | true =>
      refine ⟨hsteady, ?_, ?_, fun hidle => ?_, fun htimed => ?_⟩
      · simp only [Watch.next, hstage, hserves, if_true]
        simp
        omega
      · simp [Watch.next, hserves]
      · have hlt := h.lt_limit hfrom hprompt (hwaits hserves) (hstage ▸ hidle)
        simp [Watch.next, hstage, hserves, hlimit]
        omega
      · have htimed' : w.ram.stage.timed = true := hstage ▸ htimed
        simp only [Watch.next, hstage, if_true]
        rw [(htimer htimed').origin]
        exact h.origin htimed'
  | passes hpasses hstamp => exact hentered hpasses.ne hstamp
  | ends hgone hended hchanged =>
    refine hentered hchanged fun htimed => ?_
    rcases hended with hended | hended <;> rw [hended] at htimed <;> cases htimed

/-- The time by which the Event of the identity `k` is gone. -/
def Watch.horizon (w : Watch) (pace : Pace) (v : View) (k : ℕ) : ℕ :=
  w.base + pace.rest w.ram.stage + (v.ahead k).card * pace.event

/-- **The horizon does not recede** while the Event is QUEUED. -/
theorem Timely.horizon_le (h : Timely w v) (hprompt : time ≤ w.attended + pace.patience w.ram.stage)
    (hadvances : Advances (UInt32.ofNat time) (w.ram.serves call = true) w.ram v n' v') (hfollows : Follows v v')
    (hq : (v.records slot).state = .queued) (hk : (v.records slot).key = k)
    (hq' : (v'.records slot).state = .queued) :
    (w.next call time n').horizon pace v' k ≤ w.horizon pace v k := by
  have hown := h.le_own hprompt
  have hcard : (v'.ahead k).card ≤ (v.ahead k).card := Finset.card_le_card (hfollows.ahead_subset hq hk)
  have hahead := Nat.mul_le_mul_right pace.event hcard
  have hentered : n'.stage ≠ w.ram.stage → (w.next call time n').base = time := by
    intro hchanged
    simp [Watch.base, Watch.next, hchanged]
  unfold Watch.horizon
  cases hadvances with
  | rests hstage _ hwaits =>
    have hbase : (w.next call time n').base = w.base := by
      by_cases hidle : w.ram.stage = .idle
      · -- the loop has found the Event that is QUEUED
        have hserves : w.ram.serves call = false := by
          by_contra hserved
          have hnone := hwaits (by simpa using hserved)
          unfold Ram.Waits at hnone
          rw [hidle] at hnone
          exact hnone slot hq
        simp [Watch.base, Watch.next, hstage, hserves]
      · simp [Watch.base, Watch.next, hstage, hidle]
    rw [hbase, show (w.next call time n').ram.stage = w.ram.stage from hstage]
    omega
  | passes hpasses _ =>
    have hrest := pace.own_add_rest_le hpasses
    rw [hentered hpasses.ne, show (w.next call time n').ram.stage = n'.stage from rfl]
    omega
  | ends hgone hended hchanged =>
    have hlt := hgone.ahead_lt hfollows h.steady.serving.ok hq hk hq'
    have hevent := Nat.mul_le_mul_right pace.event (Nat.succ_le_of_lt hlt)
    have hrest : pace.rest n'.stage ≤ pace.event := by
      refine pace.rest_le_event ?_
      rcases hended with hended | hended <;> rw [hended] <;> trivial
    have hle := pace.own_le_rest h.steady.possible
    rw [Nat.succ_mul] at hevent
    rw [hentered hchanged, show (w.next call time n').ram.stage = n'.stage from rfl]
    omega

theorem Timely.horizon_le_reached (h : Timely w v) (pace : Pace) {p : ℕ} (hplace : w.ram.store.queuedAt p = some slot) :
    w.horizon pace v (v.records slot).key ≤ w.reached + (p + 1) * pace.event := by
  have hcard := Nat.mul_le_mul_right pace.event (h.steady.serving.card_ahead_le hplace)
  have hrest := pace.rest_le_event h.steady.possible
  have hbase : w.base ≤ w.reached := by
    have hsince := h.since_le
    have hattended := h.attended_le
    unfold Watch.base
    split <;> omega
  rw [Nat.succ_mul]
  unfold Watch.horizon
  omega

end Watches

/-! ### The start -/

section Start

variable {device hub : UInt8} {img : Image} {actions : List Action} {entropy : Option UInt32} {now : UInt32} {n : Ram}

theorem ends_reclaimFirst_controller (n : Ram) (slots : List SlotIndex) :
    (n.reclaimSlots false slots).Ends fun _ r => r.1.controller = n.controller := by
  induction slots generalizing n with
  | nil => rfl
  | cons slot rest ih =>
    unfold Ram.reclaimSlots
    simp only [Bool.false_and, Bool.false_eq_true, if_false]
    split
    · exact ih n
    refine (Prog.ends_logs _).bind fun log outcome _ => ?_
    obtain ⟨s', mutation⟩ := outcome
    dsimp only
    split
    · rfl
    · exact ih { n with store := s' }

theorem untried_loadHead (h : n.controller.state.tried = false) : n.loadHead.controller.state.tried = false := by
  unfold Ram.loadHead
  split
  · exact h
  · rfl

theorem ends_markFailed_untried (h : n.controller.state.tried = false) :
    n.markFailed.Ends fun _ r => r.1.controller.state.tried = false := by
  unfold Ram.markFailed
  refine (Prog.ends_logs _).bind fun log outcome _ => ?_
  obtain ⟨s', mutation⟩ := outcome
  dsimp only
  split
  · exact h
  · rfl

theorem ends_recover_untried (n : Ram) (device hub : UInt8) (now : UInt32) :
    (n.recover device hub now).Ends fun _ r => r.1.controller.state.tried = false := by
  unfold Ram.recover
  dsimp only
  split
  · rfl
  refine (Prog.ends_logs _).bind fun log outcome _ => ?_
  obtain ⟨s', p', status⟩ := outcome
  dsimp only
  split
  · rfl
  have huntried := untried_loadHead (n := ⟨s', { Controller.initial n.controller.policy with
    policy := p', source := device, destination := hub, initialized := true }⟩) rfl
  split
  · refine (ends_markFailed_untried huntried).bind fun log outcome hfailed => ?_
    obtain ⟨n', failed⟩ := outcome
    dsimp only at hfailed ⊢
    split <;> exact hfailed
  · exact huntried

/-- A start leaves no attempt under way. -/
theorem ends_boot_untried (device hub : UInt8) (entropy : Option UInt32) (now : UInt32) :
    (Ram.boot device hub entropy now).Ends fun _ r => r.1.controller.state.tried = false := by
  unfold Ram.boot
  refine (Prog.ends_logs _).bind fun log outcome _ => ?_
  obtain ⟨s, status⟩ := outcome
  dsimp only
  split
  · rfl
  have hreclaimed : (({ Ram.initial with store := s } : Ram).reclaimTerminals false).Ends
      fun _ r => r.1.controller.state.tried = false := by
    unfold Ram.reclaimTerminals
    split
    · rfl
    · refine (ends_reclaimFirst_controller _ _).mono fun log r hr => ?_
      rw [hr]
      rfl
  refine hreclaimed.bind fun log outcome huntried => ?_
  obtain ⟨n, reclaimed⟩ := outcome
  dsimp only at huntried ⊢
  split
  · exact huntried
  · exact ends_recover_untried n device hub now

theorem untried_started : (started device hub img actions entropy now).controller.state.tried = false := by
  have hboot : ((Call.boot entropy).run device hub now (chronicle device hub img actions).machine.ram).Ends
      fun _ r => r.1.controller.state.tried = false :=
    (ends_boot_untried device hub entropy now).bind fun _ _ hr => hr
  obtain ⟨log, hlog⟩ := hboot.run geometry.flash (Disk.clean (chronicle device hub img actions).machine.image)
  exact hlog

theorem timed_of_untried (h : n.controller.state.tried = false) : n.stage.timed = false := by
  unfold Ram.stage
  split
  · generalize n.controller.state = state at h
    cases state <;> simp [RuntimeState.tried, RuntimeState.stage, Stage.timed] at h ⊢
  · rfl

/-- A watch that begins with a start. -/
theorem timely_started (h : Dormant img) {time : ℕ} (husable : (started device hub img actions entropy now).usable = true) :
    ∃ v, Timely (.start (started device hub img actions entropy now) time) v := by
  obtain ⟨v, hsteady⟩ := (consistent_chronicle h actions).lasts_boot entropy now none husable
  refine ⟨v, hsteady, le_rfl, le_rfl, fun _ => Nat.le_add_right _ _, fun htimed => ?_⟩
  have huntimed : (started device hub img actions entropy now).stage.timed = false := timed_of_untried untried_started
  rw [show (Watch.start (started device hub img actions entropy now) time).ram.stage.timed = false from huntimed] at htimed
  cases htimed

end Start

/-! ### Runs -/

section Runs

variable {device hub : UInt8} {img : Image} {actions : List Action} {entropy : Option UInt32} {pace : Pace}
  {time p k : ℕ} {turns later : List WatchedTurn} {w : Watch} {v : View} {slot : SlotIndex} {t : WatchedTurn}

/-- What a turn leaves for the watch. -/
theorem Timely.turn (h : Timely t.before v) (hstep : (watched device hub pace).Steps t)
    (husable : t.after.ram.usable = true) : ∃ v', Timely t.after v' ∧ Follows v v' ∧
      Advances (UInt32.ofNat t.time) (t.before.ram.serves t.call = true) t.before.ram v t.ram v' := by
  obtain ⟨hd, hfrom, hprompt, hlogs⟩ := hstep
  have hheadway : Headway (UInt32.ofNat t.time) (t.before.ram.serves t.call = true) t.before.ram v t.ram :=
    hlogs.ends (h.steady.headway hd (UInt32.ofNat t.time))
  obtain ⟨v', hsteady, hfollows, hadvances⟩ := hheadway husable
  exact ⟨v', h.next hfrom hprompt hsteady hadvances, hfollows, hadvances⟩

/-- The watch is kept as long as the controller is usable. -/
theorem timely_run (hrun : (watched device hub pace).IsRun w turns)
    (husable : ∀ t ∈ turns, t.before.ram.usable = true) (hw : w.ram.usable = true → ∃ v, Timely w v) :
    ((watched device hub pace).last w turns).ram.usable = true → ∃ v, Timely ((watched device hub pace).last w turns) v := by
  refine (hrun.invariant (I := fun w => w.ram.usable = true → ∃ v, Timely w v) (fun t ht hstep hbefore hu => ?_) hw).2
  obtain ⟨v, htimely⟩ := hbefore (husable t ht)
  obtain ⟨v', htimely', -⟩ := htimely.turn hstep hu
  exact ⟨v', htimely'⟩

/-- A stretch of a run that finds the Event QUEUED does not outlast its horizon. -/
theorem Timely.stretch (h : Timely w v) (hrun : (watched device hub pace).IsRun w later)
    (husable : ∀ t ∈ later, t.before.ram.usable = true) (hqueued : ∀ t ∈ later, t.before.ram.Queues slot k) :
    ∀ t ∈ later, t.time ≤ w.horizon pace v k := by
  have hinv := hrun.invariant (I := fun w' => w'.ram.usable = true → w'.ram.Queues slot k →
    ∃ v', Timely w' v' ∧ w'.horizon pace v' k ≤ w.horizon pace v k) (fun t ht hstep hbefore hu hqueues => ?_)
    fun _ _ => ⟨v, h, le_rfl⟩
  · intro t ht
    obtain ⟨v', htimely, hle⟩ : ∃ v', Timely t.before v' ∧ t.before.horizon pace v' k ≤ w.horizon pace v k :=
      (hinv.1 t ht).1 (husable t ht) (hqueued t ht)
    obtain ⟨-, -, hprompt, -⟩ := hrun.steps ht
    have hown := htimely.le_own hprompt
    have hrest := pace.own_le_rest htimely.steady.possible
    have hhorizon : t.before.base + pace.rest t.before.ram.stage ≤ t.before.horizon pace v' k := Nat.le_add_right _ _
    omega
  · obtain ⟨v', htimely, hle⟩ := hbefore (husable t ht) (hqueued t ht)
    obtain ⟨v'', htimely', hfollows, hadvances⟩ := htimely.turn hstep hu
    obtain ⟨hq, hk⟩ := htimely.steady.serving.queued_of_queues (hqueued t ht)
    obtain ⟨hq', -⟩ := htimely'.steady.serving.queued_of_queues hqueues
    exact ⟨v'', htimely', (htimely.horizon_le hstep.2.2.1 hadvances hfollows hq hk hq').trans hle⟩

/-- The turns of calls on a flash that works. -/
def paced (device hub : UInt8) : Watch → FlashDisk → List (Call × ℕ) → List WatchedTurn
  | _, _, [] => []
  | w, d, (call, time) :: rest =>
    let r := (call.run device hub (UInt32.ofNat time) w.ram).record geometry.flash d
    let t : WatchedTurn := ⟨w, call, time, r.1.1, r.1.2.2, r.1.2.1⟩
    t :: paced device hub t.after r.2 rest

theorem isRun_paced (d : FlashDisk) {calls : List (Call × ℕ)}
    (h : ∀ t ∈ paced device hub w d calls, t.call.delivers = true ∧ t.before.reached ≤ t.time ∧
      t.time ≤ t.before.attended + pace.patience t.before.ram.stage) :
    (watched device hub pace).IsRun w (paced device hub w d calls) := by
  induction calls generalizing w d with
  | nil => trivial
  | cons c rest ih =>
    obtain ⟨hd, hfrom, hprompt⟩ := h _ List.mem_cons_self
    exact ⟨rfl, ⟨hd, hfrom, hprompt, Prog.logs_record geometry.flash _ d⟩, ih _ fun t ht => h t (List.mem_cons_of_mem _ ht)⟩

/-- The loop comes round about as often as an answer is given up. -/
def leisurely : Pace := ⟨2600, 100, 100, by decide⟩

/-- A watch that begins with the first start. -/
def firstWatch : Watch := .start (started 2 1 blankImage [] (some 7) (.ofNat 0)) 0

/-- Two check-ins are created; the first goes on the air, is not answered, and backs off, so that the second waits. -/
def secondWaits : List WatchedTurn :=
  paced 2 1 firstWatch (Disk.clean ((Machine.off blankImage).step 2 1 (.call (.boot (some 7)) 0 none)).1.image)
    [(.create ⟨Family.manualCheckIn, 0, 60, 1, bodyOf [1]⟩, 1), (.create ⟨Family.manualCheckIn, 0, 60, 1, bodyOf [1]⟩, 2),
      (.service false 0, 3), (.grantTransmit (some 9), 4), (.txCompleted, 5), (.service false 250, 2505),
      (.service false 0, 3755)]

/-- **No Event waits for long.**  After a start, with calls at a pace and a controller that stays usable, the Event at
the place `p` of the queue has left it before `p + 1` Events have taken their time, whatever the storage answers and
whichever Events are created behind it. -/
theorem queued_inTime (h : Dormant img)
    (hrun : (watched device hub pace).IsRun (.start (started device hub img actions entropy (UInt32.ofNat time)) time)
      (turns ++ later))
    (husable : ∀ t ∈ turns ++ later, t.before.ram.usable = true)
    (hw : (watched device hub pace).last
      (.start (started device hub img actions entropy (UInt32.ofNat time)) time) turns = w)
    (hplace : w.ram.store.queuedAt p = some slot) (hqueued : ∀ t ∈ later, t.before.ram.Queues slot k) :
    ∀ t ∈ later, t.time ≤
      w.reached + (p + 1) * (11 * pace.service + 5 * pace.grant + 5 * pace.airtime + 28500) := by
  obtain ⟨hpast, hlater⟩ := System.isRun_append.1 hrun
  have hkept := timely_run hpast (fun t ht => husable t (List.mem_append_left _ ht)) (timely_started h)
  rw [hw] at hlater hkept
  cases later with
  | nil => exact fun t ht => by cases ht
  | cons first rest =>
    have hbefore : first.before = w := hlater.1
    have hmem : first ∈ turns ++ first :: rest := by simp
    have hu := husable first hmem
    rw [hbefore] at hu
    obtain ⟨v, htimely⟩ := hkept hu
    have hqueues := hqueued first List.mem_cons_self
    rw [hbefore] at hqueues
    obtain ⟨-, hk⟩ := htimely.steady.serving.queued_of_queues hqueues
    have hreached := htimely.horizon_le_reached pace hplace
    rw [hk, pace.event_eq] at hreached
    intro t ht
    exact (htimely.stretch hlater (fun t ht => husable t (List.mem_append_right _ ht)) hqueued t ht).trans hreached

theorem queued_inTime_secondWaits :
    secondWaits.map (fun t => (t.after.ram.usable, t.after.ram.stage)) =
        [(true, .idle), (true, .idle), (true, .pending 5), (true, .air 4), (true, .wait 4), (true, .backoff 4),
          (true, .pending 4)] ∧
      ∀ t ∈ secondWaits.drop 2, t.time ≤ 2 + (1 + 1) * (11 * 2600 + 5 * 100 + 5 * 100 + 28500) := by
  have hprompt : ∀ t ∈ secondWaits, t.call.delivers = true ∧ t.before.reached ≤ t.time ∧
      t.time ≤ t.before.attended + leisurely.patience t.before.ram.stage := by decide +kernel
  have hrun : (watched 2 1 leisurely).IsRun firstWatch (secondWaits.take 2 ++ secondWaits.drop 2) := by
    rw [List.take_append_drop]
    exact isRun_paced _ hprompt
  have hqueued : ∀ t ∈ secondWaits.drop 2, t.before.ram.Queues 1 (key 7 2) := by decide +kernel
  have hplace : ((watched 2 1 leisurely).last firstWatch (secondWaits.take 2)).ram.store.queuedAt 1 = some 1 := by
    decide +kernel
  have hreached : ((watched 2 1 leisurely).last firstWatch (secondWaits.take 2)).reached = 2 := by decide +kernel
  have hbound := queued_inTime dormant_blank hrun (by decide +kernel) rfl hplace hqueued
  unfold firstWatch at hreached
  rw [hreached] at hbound
  exact ⟨by decide +kernel, hbound⟩

end Runs

end Redline.Node
