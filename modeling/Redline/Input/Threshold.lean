import Redline.Input.Creation
import Redline.Lib.Run
import Redline.Lib.Trace

/-!
# The threshold producer

`SensorThresholdProducer` of the event producers: a filter with hysteresis over the observations of a sensor.  The bits
of an observation are read as a number by the type of the policy (`ThresholdPolicy.value`); the source compares in 64
bits, where no sum and no difference of such numbers overflows (`toInt_numericValue`, `toInt_margin`).

`Rearmed` says what a trace of observations must have for the producer to be armed: since the last attempt, one that
arms it.  `rearmed_step` carries this over a turn, and `threshold_attempts` is the law of the whole run.
-/

namespace Redline.Input

open Redline.Lib Redline.Wire

/-! ### The policy -/

namespace SensorValueType
def unsigned32 : UInt8 := 0x02
def signed32 : UInt8 := 0x03
def normalizedU16 : UInt8 := 0x04
def fixedQ1616 : UInt8 := 0x05
def enumU16 : UInt8 := 0x06
end SensorValueType

namespace ThresholdRelation
def crossedBelow : UInt8 := 0x01
def crossedAbove : UInt8 := 0x02
end ThresholdRelation

structure ThresholdPolicy where
  capabilityId : UInt16
  valueType : UInt8
  thresholdBits : UInt32
  hysteresisBits : UInt32
  relation : UInt8
  deriving DecidableEq

structure Observation where
  available : Bool
  bits : UInt32
  deriving DecidableEq

namespace ThresholdPolicy

/-- The 16-bit types leave the upper half of the bits zero. -/
def validObserved (policy : ThresholdPolicy) (bits : UInt32) : Bool :=
  (policy.valueType != SensorValueType.normalizedU16 && policy.valueType != SensorValueType.enumU16) ||
    bits &&& 0xFFFF0000 == 0

def validPolicy (policy : ThresholdPolicy) : Bool :=
  if policy.capabilityId = 0 || !isValidSensorValueType policy.valueType || !isValidThresholdRelation policy.relation then
    false
  else policy.validObserved policy.thresholdBits

def numericValue (policy : ThresholdPolicy) (bits : UInt32) : Int64 :=
  if policy.valueType = SensorValueType.signed32 || policy.valueType = SensorValueType.fixedQ1616 then
    bits.toInt32.toInt64
  else bits.toUInt64.toInt64

def isActive (policy : ThresholdPolicy) (bits : UInt32) : Bool :=
  let observed := policy.numericValue bits
  let threshold := policy.numericValue policy.thresholdBits
  if policy.relation = ThresholdRelation.crossedAbove then observed > threshold else observed < threshold

def isRearmed (policy : ThresholdPolicy) (bits : UInt32) : Bool :=
  let observed := policy.numericValue bits
  let threshold := policy.numericValue policy.thresholdBits
  let hysteresis := policy.hysteresisBits.toUInt64.toInt64
  if policy.relation = ThresholdRelation.crossedAbove then observed ≤ threshold - hysteresis
  else observed ≥ threshold + hysteresis

/-- The Event that an observation beyond the threshold becomes. -/
def input (policy : ThresholdPolicy) (bits : UInt32) : Node.EventInput :=
  { makeInput Family.sensorThreshold with
    bodyLength := 8
    body := #v[(policy.capabilityId &&& 0xFF).toUInt8, (policy.capabilityId >>> 8).toUInt8, policy.valueType,
      bits.toUInt8, (bits >>> 8).toUInt8, (bits >>> 16).toUInt8, (bits >>> 24).toUInt8, policy.relation, 0, 0, 0, 0] }

end ThresholdPolicy

/-! ### The producer -/

structure SensorThresholdProducer where
  policy : ThresholdPolicy
  initialized : Bool
  armed : Bool
  deriving DecidableEq

namespace SensorThresholdProducer

def ofPolicy (policy : ThresholdPolicy) : SensorThresholdProducer := ⟨policy, false, false⟩

def observe (p : SensorThresholdProducer) (o : Observation) : SinkM (SensorThresholdProducer × Emission) := do
  if !o.available || !p.policy.validPolicy || !p.policy.validObserved o.bits then return (p, noEmission)
  let active := p.policy.isActive o.bits
  if !p.initialized then return ({ p with initialized := true, armed := !active }, noEmission)
  if !p.armed then return (if p.policy.isRearmed o.bits then { p with armed := true } else p, noEmission)
  if !active then return (p, noEmission)
  let emission ← create (p.policy.input o.bits)
  return ({ p with armed := false }, emission)

end SensorThresholdProducer

/-! ### The numbers of the observations -/

namespace ThresholdPolicy

variable {policy : ThresholdPolicy} {bits : UInt32}

/-- The number that the bits stand for: in two's complement for the signed types, else as they are. -/
def value (policy : ThresholdPolicy) (bits : UInt32) : ℤ :=
  if policy.valueType = SensorValueType.signed32 ∨ policy.valueType = SensorValueType.fixedQ1616 then
    bits.toBitVec.toInt
  else bits.toNat

theorem value_bounds : -0x80000000 ≤ policy.value bits ∧ policy.value bits < 0x100000000 := by
  have hlt := bits.toNat_lt
  unfold value
  split
  · rw [BitVec.toInt_eq_toNat_cond, UInt32.toNat_toBitVec]
    split <;> omega
  · omega

theorem toInt_unsigned (bits : UInt32) : bits.toUInt64.toInt64.toInt = bits.toNat := by
  have hlt := bits.toNat_lt
  have hbits : bits.toUInt64.toInt64.toInt = bits.toUInt64.toBitVec.toInt := rfl
  rw [hbits, BitVec.toInt_eq_toNat_cond, UInt64.toNat_toBitVec, UInt32.toNat_toUInt64]
  split <;> omega

/-- **The reading in 64 bits is exact.** -/
theorem toInt_numericValue : (policy.numericValue bits).toInt = policy.value bits := by
  unfold numericValue value
  simp only [Bool.or_eq_true, decide_eq_true_eq]
  split
  · rw [Int32.toInt_toInt64]
    rfl
  · exact toInt_unsigned bits

/-- **The margin does not overflow**, on either side of the threshold. -/
theorem toInt_margin :
    (policy.numericValue bits - policy.hysteresisBits.toUInt64.toInt64).toInt =
        policy.value bits - policy.hysteresisBits.toNat ∧
      (policy.numericValue bits + policy.hysteresisBits.toUInt64.toInt64).toInt =
        policy.value bits + policy.hysteresisBits.toNat := by
  have hlt := policy.hysteresisBits.toNat_lt
  have hbounds : -0x80000000 ≤ policy.value bits ∧ policy.value bits < 0x100000000 := value_bounds
  rw [Int64.toInt_sub, Int64.toInt_add, toInt_numericValue, toInt_unsigned]
  constructor
  · apply Int.bmod_eq_of_le <;> omega
  · apply Int.bmod_eq_of_le <;> omega

/-- Strictly beyond the threshold, in the direction of the policy. -/
def Beyond (policy : ThresholdPolicy) (bits : UInt32) : Prop :=
  if policy.relation = ThresholdRelation.crossedAbove then policy.value policy.thresholdBits < policy.value bits
  else policy.value bits < policy.value policy.thresholdBits

/-- On the other side of the threshold, by the hysteresis or more. -/
def Rearms (policy : ThresholdPolicy) (bits : UInt32) : Prop :=
  if policy.relation = ThresholdRelation.crossedAbove then
    policy.value bits ≤ policy.value policy.thresholdBits - policy.hysteresisBits.toNat
  else policy.value policy.thresholdBits + policy.hysteresisBits.toNat ≤ policy.value bits

theorem isActive_iff : policy.isActive bits = true ↔ policy.Beyond bits := by
  unfold isActive Beyond
  split
  · rw [decide_eq_true_eq, gt_iff_lt, Int64.lt_iff_toInt_lt, toInt_numericValue, toInt_numericValue]
  · rw [decide_eq_true_eq, Int64.lt_iff_toInt_lt, toInt_numericValue, toInt_numericValue]

theorem isRearmed_iff : policy.isRearmed bits = true ↔ policy.Rearms bits := by
  unfold isRearmed Rearms
  split
  · rw [decide_eq_true_eq, Int64.le_iff_toInt_le, toInt_margin.1, toInt_numericValue]
  · rw [decide_eq_true_eq, ge_iff_le, Int64.le_iff_toInt_le, toInt_margin.2, toInt_numericValue]

theorem not_beyond_of_rearms (h : policy.Rearms bits) : ¬ policy.Beyond bits := by
  unfold Rearms at h
  unfold Beyond
  split at h
  · rename_i habove
    rw [if_pos habove]
    omega
  · rename_i hbelow
    rw [if_neg hbelow]
    omega

/-- The observation says something: it is available, and it and the policy are well formed. -/
structure Admits (policy : ThresholdPolicy) (o : Observation) : Prop where
  available : o.available = true
  validPolicy : policy.validPolicy = true
  validObserved : policy.validObserved o.bits = true

theorem low_of_masked (word : UInt16) : (word &&& 0xFF).toUInt8 = word.toUInt8 := by
  apply UInt8.toNat_inj.1
  rw [UInt16.toNat_toUInt8, UInt16.toNat_toUInt8, UInt16.toNat_and]
  exact (Nat.and_two_pow_sub_one_eq_mod (word.toNat) 8).symm ▸ Nat.mod_mod _ _

theorem toNat_of_masked (h : bits &&& 0xFFFF0000 = 0) : bits.toNat < 2 ^ 16 := by
  apply Nat.lt_pow_two_of_testBit
  intro i hi
  by_cases hlt : i < 32
  · have hmask : ∀ j, j < 32 → 16 ≤ j → (0xFFFF0000 : UInt32).toNat.testBit j = true := by decide
    have hbit := congrArg (fun word : UInt32 => word.toNat.testBit i) h
    simp only [UInt32.toNat_and, Nat.testBit_and] at hbit
    rw [hmask i hlt hi] at hbit
    simpa using hbit
  · apply Nat.testBit_lt_two_pow
    calc bits.toNat < 2 ^ 32 := bits.toNat_lt
      _ ≤ 2 ^ i := Nat.pow_le_pow_right (by decide) (by omega)

/-- A word with nothing under the mask has no upper bytes. -/
theorem upper_of_masked (h : bits &&& 0xFFFF0000 = 0) :
    (bits >>> 16).toUInt8 = 0 ∧ (bits >>> 24).toUInt8 = 0 := by
  have hlt := toNat_of_masked h
  constructor
  · apply UInt8.toNat_inj.1
    simp
    omega
  · apply UInt8.toNat_inj.1
    simp
    omega

/-- **The store takes what the policy makes of an observation that it admits.** -/
theorem validInput_input {o : Observation} (h : policy.Admits o) :
    Node.Store.validInput (policy.input o.bits) = true := by
  obtain ⟨-, hpolicy, hobserved⟩ := h
  unfold validPolicy at hpolicy
  split at hpolicy
  · cases hpolicy
  rename_i hfields
  simp only [Bool.or_eq_true, decide_eq_true_eq, Bool.not_eq_true', not_or, Bool.not_eq_false] at hfields
  obtain ⟨⟨hid, htype⟩, hrelation⟩ := hfields
  refine validInput_of_body (by decide) (by decide) ?_ ?_
  · unfold isValidFamilyBody
    rw [if_neg (by decide), if_neg (by decide), if_pos rfl]
    change (if decide ((policy.capabilityId &&& 0xFF).toUInt8.toUInt16 |||
        (policy.capabilityId >>> 8).toUInt8.toUInt16 <<< 8 = 0) || !isValidSensorValueType policy.valueType ||
        !isValidThresholdRelation policy.relation then false
      else if decide (policy.valueType = 0x04) || decide (policy.valueType = 0x06) then
        (o.bits >>> 16).toUInt8 == 0 && (o.bits >>> 24).toUInt8 == 0
      else true) = true
    rw [low_of_masked, uint16_of_bytes, if_neg (by simp [hid, htype, hrelation])]
    split
    · rename_i hnarrow
      have hmasked : o.bits &&& 0xFFFF0000 = 0 := by
        simp only [Bool.or_eq_true, decide_eq_true_eq] at hnarrow
        rcases hnarrow with h | h
        · simpa [validObserved, h, SensorValueType.normalizedU16] using hobserved
        · simpa [validObserved, h, SensorValueType.enumU16] using hobserved
      obtain ⟨hthird, hfourth⟩ := upper_of_masked hmasked
      rw [hthird, hfourth]
      rfl
    · rfl
  · rfl

end ThresholdPolicy

/-! ### Turns -/

/-- One observation, the creations that were attempted, and what the producer returned. -/
structure SensorTurn where
  before : SensorThresholdProducer
  observation : Observation
  created : List Node.EventInput
  emission : Emission
  after : SensorThresholdProducer

/-- The producer, at a sink that answers anything. -/
def sensing : System SensorThresholdProducer SensorTurn where
  before := SensorTurn.before
  after := SensorTurn.after
  Steps t := Prog.Returns (fun _ _ => True) (t.before.observe t.observation) t.created (t.after, t.emission)

/-- A turn that leaves the producer in the state `p` and attempts nothing. -/
structure Quiet (t : SensorTurn) (p : SensorThresholdProducer) : Prop where
  after : t.after = p
  created : t.created = []
  emission : t.emission = noEmission

/-- What one observation may do. -/
inductive Observes (t : SensorTurn) : Prop
  | refused (refused : ¬ t.before.policy.Admits t.observation) (quiet : Quiet t t.before)
  | first (admits : t.before.policy.Admits t.observation) (initialized : t.before.initialized = false)
      (quiet : Quiet t { t.before with
        initialized := true, armed := !t.before.policy.isActive t.observation.bits })
  | unarmed (admits : t.before.policy.Admits t.observation) (initialized : t.before.initialized = true)
      (armed : t.before.armed = false)
      (quiet : Quiet t { t.before with armed := t.before.policy.isRearmed t.observation.bits })
  | idle (admits : t.before.policy.Admits t.observation) (initialized : t.before.initialized = true)
      (armed : t.before.armed = true) (within : ¬ t.before.policy.Beyond t.observation.bits) (quiet : Quiet t t.before)
  | attempts (admits : t.before.policy.Admits t.observation) (initialized : t.before.initialized = true)
      (armed : t.before.armed = true) (beyond : t.before.policy.Beyond t.observation.bits)
      (after : t.after = { t.before with armed := false })
      (created : t.created = [t.before.policy.input t.observation.bits]) (attempted : t.emission.attempted = true)

theorem quiet_of_returns {t : SensorTurn} {p : SensorThresholdProducer} {answers : Node.EventInput → CreationResult → Prop}
    (h : Prog.Returns answers (pure (p, noEmission)) t.created (t.after, t.emission)) : Quiet t p := by
  obtain ⟨hcreated, hout⟩ := Prog.returns_pure.1 h
  obtain ⟨hafter, hemission⟩ := Prod.mk.inj hout
  exact ⟨hafter, hcreated, hemission⟩

/-- **The cases of a turn.** -/
theorem observes_of_steps {t : SensorTurn} (h : sensing.Steps t) : Observes t := by
  change Prog.Returns _ (t.before.observe t.observation) t.created (t.after, t.emission) at h
  unfold SensorThresholdProducer.observe at h
  split at h
  · rename_i hrefused
    refine .refused (fun hadmits => ?_) (quiet_of_returns h)
    rw [hadmits.available, hadmits.validPolicy, hadmits.validObserved] at hrefused
    cases hrefused
  rename_i hadmits
  simp only [Bool.or_eq_true, Bool.not_eq_true', not_or, Bool.not_eq_false] at hadmits
  have hadmits : t.before.policy.Admits t.observation := ⟨hadmits.1.1, hadmits.1.2, hadmits.2⟩
  dsimp only at h
  split at h
  · rename_i hinitialized
    exact .first hadmits (by simpa using hinitialized) (quiet_of_returns h)
  rename_i hinitialized
  rw [Bool.not_eq_true', Bool.not_eq_false] at hinitialized
  split at h
  · rename_i harmed
    rw [Bool.not_eq_true'] at harmed
    refine .unarmed hadmits hinitialized harmed ?_
    have hquiet := quiet_of_returns h
    split at hquiet
    · rename_i hrearmed
      rw [hrearmed]
      exact hquiet
    · rename_i hnot
      rw [Bool.not_eq_true] at hnot
      have hsame : { t.before with armed := false } = t.before := by
        rw [← harmed]
      rw [hnot, hsame]
      exact hquiet
  rename_i harmed
  rw [Bool.not_eq_true', Bool.not_eq_false] at harmed
  split at h
  · rename_i hactive
    refine .idle hadmits hinitialized harmed (fun hbeyond => ?_) (quiet_of_returns h)
    rw [ThresholdPolicy.isActive_iff.2 hbeyond] at hactive
    cases hactive
  · rename_i hactive
    rw [Bool.not_eq_true', Bool.not_eq_false] at hactive
    obtain ⟨emission, ops₁, ops₂, hcreate, hret, hops⟩ := Prog.returns_bind h
    obtain ⟨rfl, hattempted⟩ := returns_create hcreate
    obtain ⟨rfl, hout⟩ := Prog.returns_pure.1 hret
    obtain ⟨hafter, rfl⟩ := Prod.mk.inj hout
    exact .attempts hadmits hinitialized harmed (ThresholdPolicy.isActive_iff.1 hactive) hafter hops hattempted

/-! ### The law of the filter -/

/-- The turns have armed the producer: since the last attempt one was on the other side by the hysteresis, or was the
very first that says something and not beyond the threshold. -/
def Rearmed (policy : ThresholdPolicy) (past : List SensorTurn) : Prop :=
  ∃ before u between, past = before ++ u :: between ∧ (∀ v ∈ u :: between, v.created = []) ∧
    policy.Admits u.observation ∧ (policy.Rearms u.observation.bits ∨
      ((∀ v ∈ before, ¬ policy.Admits v.observation) ∧ ¬ policy.Beyond u.observation.bits))

section Rearmed

variable {policy : ThresholdPolicy} {past : List SensorTurn} {t : SensorTurn}

theorem rearmed_concat : Rearmed policy (past ++ [t]) ↔ t.created = [] ∧ (Rearmed policy past ∨
    (policy.Admits t.observation ∧ (policy.Rearms t.observation.bits ∨
      ((∀ v ∈ past, ¬ policy.Admits v.observation) ∧ ¬ policy.Beyond t.observation.bits)))) := by
  constructor
  · rintro ⟨before, u, between, heq, hquiet, hadmits, harms⟩
    rcases split_concat heq with ⟨rfl, rfl, rfl⟩ | ⟨between', rfl, rfl⟩
    · exact ⟨hquiet u List.mem_cons_self, Or.inr ⟨hadmits, harms⟩⟩
    · refine ⟨hquiet t (by simp), Or.inl ⟨before, u, between', rfl, fun v hv => hquiet v ?_, hadmits, harms⟩⟩
      rw [← List.cons_append]
      exact List.mem_append_left _ hv
  · rintro ⟨hcreated, ⟨before, u, between, rfl, hquiet, hadmits, harms⟩ | ⟨hadmits, harms⟩⟩
    · refine ⟨before, u, between ++ [t], by simp, ?_, hadmits, harms⟩
      rw [← List.cons_append]
      exact forall_mem_concat hquiet hcreated
    · exact ⟨past, t, [], rfl, by simpa using hcreated, hadmits, harms⟩

/-- An armed producer has seen an observation that says something. -/
theorem Rearmed.admits (h : Rearmed policy past) : ∃ v ∈ past, policy.Admits v.observation := by
  obtain ⟨before, u, between, rfl, -, hadmits, -⟩ := h
  exact ⟨u, by simp, hadmits⟩

/-- The flags of the producer after the turns. -/
structure Tracks (policy : ThresholdPolicy) (past : List SensorTurn) (p : SensorThresholdProducer) : Prop where
  kept : p.policy = policy
  initialized : p.initialized = true ↔ ∃ v ∈ past, policy.Admits v.observation
  armed : p.armed = true ↔ Rearmed policy past

/-- **A turn keeps the flags in step with the trace.** -/
theorem tracks_step (h : sensing.Steps t) (htracks : Tracks policy past t.before) :
    Tracks policy (past ++ [t]) t.after := by
  obtain ⟨rfl, hinitialized, harmed⟩ := htracks
  cases observes_of_steps h with
  | refused hrefused hquiet =>
    refine ⟨by rw [hquiet.after], ?_, ?_⟩
    · rw [hquiet.after, hinitialized]
      simp [hrefused]
    · rw [hquiet.after, harmed, rearmed_concat]
      simp [hquiet.created, hrefused]
  | first hadmits hnot hquiet =>
    have hnone : ∀ v ∈ past, ¬ t.before.policy.Admits v.observation := by
      intro v hv hv'
      rw [hinitialized.2 ⟨v, hv, hv'⟩] at hnot
      cases hnot
    have hunarmed : ¬ Rearmed t.before.policy past := by
      intro hrearmed
      obtain ⟨v, hv, hv'⟩ := hrearmed.admits
      exact hnone v hv hv'
    refine ⟨by rw [hquiet.after], ?_, ?_⟩
    · rw [hquiet.after]
      exact iff_of_true rfl ⟨t, by simp, hadmits⟩
    · rw [hquiet.after, rearmed_concat]
      simp only [Bool.not_eq_true', ← Bool.not_eq_true, ThresholdPolicy.isActive_iff]
      constructor
      · intro hwithin
        exact ⟨hquiet.created, Or.inr ⟨hadmits, Or.inr ⟨hnone, hwithin⟩⟩⟩
      · rintro ⟨-, hrearmed | ⟨-, hrearms | ⟨-, hwithin⟩⟩⟩
        · exact absurd hrearmed hunarmed
        · exact ThresholdPolicy.not_beyond_of_rearms hrearms
        · exact hwithin
  | unarmed hadmits hinit hnot hquiet =>
    have hunarmed : ¬ Rearmed t.before.policy past := by
      rw [← harmed, hnot]
      exact Bool.false_ne_true
    obtain ⟨v, hv, hv'⟩ := hinitialized.1 hinit
    refine ⟨by rw [hquiet.after], ?_, ?_⟩
    · rw [hquiet.after]
      exact iff_of_true hinit ⟨t, by simp, hadmits⟩
    · rw [hquiet.after, rearmed_concat]
      dsimp only
      rw [ThresholdPolicy.isRearmed_iff]
      constructor
      · intro hrearms
        exact ⟨hquiet.created, Or.inr ⟨hadmits, Or.inl hrearms⟩⟩
      · rintro ⟨-, hrearmed | ⟨-, hrearms | ⟨hnone, -⟩⟩⟩
        · exact absurd hrearmed hunarmed
        · exact hrearms
        · exact absurd hv' (hnone v hv)
  | idle hadmits hinit harmed' hwithin hquiet =>
    refine ⟨by rw [hquiet.after], ?_, ?_⟩
    · rw [hquiet.after]
      exact iff_of_true hinit ⟨t, by simp, hadmits⟩
    · rw [hquiet.after, rearmed_concat]
      exact iff_of_true harmed' ⟨hquiet.created, Or.inl (harmed.1 harmed')⟩
  | attempts hadmits hinit harmed' hbeyond hafter hcreated =>
    refine ⟨by rw [hafter], ?_, ?_⟩
    · rw [hafter]
      exact iff_of_true hinit ⟨t, by simp, hadmits⟩
    · rw [hafter, rearmed_concat, hcreated]
      simp

/-- **The flags after a run.** -/
theorem tracks_run {turns : List SensorTurn} (hrun : sensing.IsRun (.ofPolicy policy) turns) :
    Tracks policy turns (sensing.last (.ofPolicy policy) turns) :=
  hrun.history (I := Tracks policy) ⟨rfl, by simp [SensorThresholdProducer.ofPolicy], by
    refine iff_of_false Bool.false_ne_true fun h => ?_
    obtain ⟨v, hv, -⟩ := h.admits
    cases hv⟩ fun _ _ _ _ hstep htracks => tracks_step hstep htracks

end Rearmed

/-- **The threshold producer**: an Event is attempted exactly at an observation that says something, is strictly beyond
the threshold, and finds the producer armed by an earlier one since the last attempt; the other observations that say
nothing change nothing; the comparisons in 64 bits are those of the numbers; and the store takes what is attempted. -/
theorem threshold_attempts {policy : ThresholdPolicy} {turns : List SensorTurn}
    (hrun : sensing.IsRun (.ofPolicy policy) turns) :
    (∀ past t rest, turns = past ++ t :: rest →
      (t.emission.attempted = true ↔
        policy.Admits t.observation ∧ policy.Beyond t.observation.bits ∧ Rearmed policy past) ∧
      t.created = (if t.emission.attempted then [policy.input t.observation.bits] else []) ∧
      (¬ policy.Admits t.observation → t.after = t.before)) ∧
    (∀ bits, (policy.numericValue bits).toInt = policy.value bits ∧
      (policy.numericValue bits - policy.hysteresisBits.toUInt64.toInt64).toInt =
        policy.value bits - policy.hysteresisBits.toNat ∧
      (policy.numericValue bits + policy.hysteresisBits.toUInt64.toInt64).toInt =
        policy.value bits + policy.hysteresisBits.toNat ∧
      (policy.isActive bits = true ↔ policy.Beyond bits) ∧ (policy.isRearmed bits = true ↔ policy.Rearms bits)) ∧
    ∀ t ∈ turns, ∀ input ∈ t.created, Node.Store.validInput input = true := by
  have hlaw : ∀ past t rest, turns = past ++ t :: rest →
      (t.emission.attempted = true ↔
        policy.Admits t.observation ∧ policy.Beyond t.observation.bits ∧ Rearmed policy past) ∧
      t.created = (if t.emission.attempted then [policy.input t.observation.bits] else []) ∧
      (¬ policy.Admits t.observation → t.after = t.before) := by
    rintro past t rest rfl
    obtain ⟨hpast, hbefore, hstep, -⟩ := System.isRun_append.1 hrun
    have htracks : Tracks policy past t.before := by
      have := tracks_run hpast
      rwa [← hbefore] at this
    obtain ⟨rfl, hinitialized, harmed⟩ := htracks
    cases observes_of_steps hstep with
    | refused hrefused hquiet =>
      rw [hquiet.emission, hquiet.created, hquiet.after]
      exact ⟨iff_of_false Bool.false_ne_true fun h => hrefused h.1, rfl, fun _ => rfl⟩
    | first hadmits hnot hquiet =>
      rw [hquiet.emission, hquiet.created]
      refine ⟨iff_of_false Bool.false_ne_true fun h => ?_, rfl, fun h => absurd hadmits h⟩
      rw [hinitialized.2 h.2.2.admits] at hnot
      cases hnot
    | unarmed hadmits hinit hnot hquiet =>
      rw [hquiet.emission, hquiet.created]
      refine ⟨iff_of_false Bool.false_ne_true fun h => ?_, rfl, fun h => absurd hadmits h⟩
      rw [harmed.2 h.2.2] at hnot
      cases hnot
    | idle hadmits hinit harmed' hwithin hquiet =>
      rw [hquiet.emission, hquiet.created]
      exact ⟨iff_of_false Bool.false_ne_true fun h => hwithin h.2.1, rfl, fun h => absurd hadmits h⟩
    | attempts hadmits hinit harmed' hbeyond hafter hcreated hattempted =>
      rw [hattempted, hcreated]
      exact ⟨iff_of_true rfl ⟨hadmits, hbeyond, harmed.1 harmed'⟩, rfl, fun h => absurd hadmits h⟩
  refine ⟨hlaw, fun bits => ⟨ThresholdPolicy.toInt_numericValue, ThresholdPolicy.toInt_margin.1,
    ThresholdPolicy.toInt_margin.2, ThresholdPolicy.isActive_iff, ThresholdPolicy.isRearmed_iff⟩, fun t ht input hinput => ?_⟩
  obtain ⟨past, rest, rfl⟩ := List.append_of_mem ht
  obtain ⟨hattempted, hcreated, -⟩ := hlaw past t rest rfl
  rw [hcreated] at hinput
  split at hinput
  · rename_i h
    rw [List.mem_singleton.1 hinput]
    exact ThresholdPolicy.validInput_input (hattempted.1 h).1
  · cases hinput

/-- A temperature that rises from 50 over the threshold of 100. -/
def risingPolicy : ThresholdPolicy := ⟨7, SensorValueType.unsigned32, 100, 10, ThresholdRelation.crossedAbove⟩

def rising : List SensorTurn :=
  [⟨.ofPolicy risingPolicy, ⟨true, 50⟩, [], noEmission, ⟨risingPolicy, true, true⟩⟩,
    ⟨⟨risingPolicy, true, true⟩, ⟨true, 150⟩, [risingPolicy.input 150], ⟨true, .enqueued⟩, ⟨risingPolicy, true, false⟩⟩]

theorem threshold_attempts_rising :
    let policy := risingPolicy
    (∀ past t rest, rising = past ++ t :: rest →
      (t.emission.attempted = true ↔
        policy.Admits t.observation ∧ policy.Beyond t.observation.bits ∧ Rearmed policy past) ∧
      t.created = (if t.emission.attempted then [policy.input t.observation.bits] else []) ∧
      (¬ policy.Admits t.observation → t.after = t.before)) ∧
    (∀ bits, (policy.numericValue bits).toInt = policy.value bits ∧
      (policy.numericValue bits - policy.hysteresisBits.toUInt64.toInt64).toInt =
        policy.value bits - policy.hysteresisBits.toNat ∧
      (policy.numericValue bits + policy.hysteresisBits.toUInt64.toInt64).toInt =
        policy.value bits + policy.hysteresisBits.toNat ∧
      (policy.isActive bits = true ↔ policy.Beyond bits) ∧ (policy.isRearmed bits = true ↔ policy.Rearms bits)) ∧
    ∀ t ∈ rising, ∀ input ∈ t.created, Node.Store.validInput input = true :=
  threshold_attempts ⟨rfl, .pure _, rfl, .call .enqueued trivial (.pure _), trivial⟩

end Redline.Input
