import Redline.Host.Turns

/-!
# The deadline of a structured transaction

A transaction has one deadline, `start + timeout`, and no packet moves it.  The clock of the device wraps; a call is
described by the time that has passed since the transaction began, so that early and late are plain comparisons.

The transaction acts on its deadline only when it has passed: `service` does nothing before it, and from it on
retransmits until the retries are used up.  So a transaction keeps its deadline (`KeepsDeadline`) exactly when it has no
retries, or when a packet has ended it before the first late call of `service` (`AnsweredInTime`).
-/

namespace Redline.Host

open Redline.Wire

inductive TransactionInput
  | packet (packet : Packet)
  | service

/-- What reaches a transaction, and how long after its beginning. -/
structure TransactionCall where
  elapsed : ℕ
  input : TransactionInput

def TransactionCall.IsService (call : TransactionCall) : Prop :=
  match call.input with
  | .packet _ => False
  | .service => True

/-- What a call shows: whether the transaction was active before it, what it does, and the deadline after it. -/
structure DeadlineTurn where
  call : TransactionCall
  active : Bool
  retransmits : Bool
  timesOut : Bool
  deadline : UInt32

namespace HubStructuredTransaction

def call (t : HubStructuredTransaction) (start : UInt32) (c : TransactionCall) :
    HubStructuredTransaction × StructuredEvent :=
  match c.input with
  | .packet packet => t.receive packet
  | .service => t.service (start + UInt32.ofNat c.elapsed)

def turn (t : HubStructuredTransaction) (start : UInt32) (c : TransactionCall) : DeadlineTurn where
  call := c
  active := t.phase != .idle
  retransmits := (t.call start c).2 == .retransmit
  timesOut := (t.call start c).2 == .timeout
  deadline := (t.call start c).1.deadline

def turns (t : HubStructuredTransaction) (start : UInt32) : List TransactionCall → List DeadlineTurn
  | [] => []
  | c :: calls => t.turn start c :: (t.call start c).1.turns start calls

end HubStructuredTransaction

namespace HubBridge

def call (b : HubBridge) (start : UInt32) (c : TransactionCall) : HubBridge × BridgeResult :=
  match c.input with
  | .packet packet => b.receive packet
  | .service => b.service (start + UInt32.ofNat c.elapsed)

/-- The answer to the Host that the time is up. -/
def reportsTimeout (result : BridgeResult) : Bool :=
  result.action == .hostResponseReady && result.response.resultClass == ResultClass.radioResult &&
    result.response.resultCode == RadioResultCode.timeout

def turn (b : HubBridge) (start : UInt32) (c : TransactionCall) : DeadlineTurn where
  call := c
  active := b.active
  retransmits := (b.call start c).2.action == .transmitCommand
  timesOut := reportsTimeout (b.call start c).2
  deadline := (b.call start c).1.transaction.deadline

def turns (b : HubBridge) (start : UInt32) : List TransactionCall → List DeadlineTurn
  | [] => []
  | c :: calls => b.turn start c :: (b.call start c).1.turns start calls

end HubBridge

/-! ### What is asked of a transaction -/

/-- A call of `service` at or after the deadline, on a transaction that is still active. -/
def DeadlineTurn.Due (timeout : UInt32) (turn : DeadlineTurn) : Prop :=
  turn.call.IsService ∧ timeout.toNat ≤ turn.call.elapsed ∧ turn.active = true

structure KeepsDeadline (start timeout : UInt32) (maxRetries : UInt8) (turns : List DeadlineTurn) : Prop where
  /-- No retransmission at or after the deadline. -/
  early : ∀ turn ∈ turns, turn.retransmits = true → turn.call.elapsed < timeout.toNat
  bounded : turns.countP (·.retransmits) ≤ maxRetries.toNat
  /-- The first call at or after the deadline reports the timeout. -/
  reported : ∀ past turn rest, turns = past ++ turn :: rest → (∀ earlier ∈ past, ¬ earlier.Due timeout) →
    turn.Due timeout → turn.timesOut = true
  steady : ∀ turn ∈ turns, turn.deadline = start + timeout

/-- The packet ends the transaction of the command: a rejection, or a response for its target. -/
def EndsCommand (command packet : Packet) : Prop :=
  (packet.source = command.destination ∧ packet.destination = command.source ∧
    packet.sequence = command.sequence ∧ packet.opcode = command.opcode) ∧
  ((packet.type = .ack ∧ packet.payload.length = 1 ∧ isValidAckStatus (byteAt packet.payload 0) = true ∧
      byteAt packet.payload 0 ≠ AckStatus.success) ∨
    (packet.type = .response ∧ ∃ request response, decodeWireRequest command.opcode command.payload = .ok request ∧
      decodeWireResponse packet.opcode packet.payload = .ok response ∧ response.targetId = request.targetId))

def TransactionCall.Ends (command : Packet) (call : TransactionCall) : Prop :=
  match call.input with
  | .packet packet => EndsCommand command packet
  | .service => False

/-- Before each late call of `service` a packet has ended the transaction. -/
def AnsweredInTime (command : Packet) (timeout : UInt32) (calls : List TransactionCall) : Prop :=
  ∀ past call rest, calls = past ++ call :: rest → call.IsService → timeout.toNat ≤ call.elapsed →
    ∃ earlier ∈ past, earlier.Ends command

/-! ### Early and late -/

/-- The clock, on the two sides of the deadline. -/
theorem clock_early_iff {start timeout : UInt32} {elapsed : ℕ} (ht : timeout.toNat < 2 ^ 31)
    (he : elapsed < timeout.toNat + 2 ^ 31) :
    0x80000000 ≤ start + UInt32.ofNat elapsed - (start + timeout) ↔ elapsed < timeout.toNat := by
  have hdiff : start + UInt32.ofNat elapsed - (start + timeout) = UInt32.ofNat elapsed - timeout := by
    apply UInt32.toNat_inj.1
    simp only [UInt32.toNat_sub, UInt32.toNat_add]
    omega
  have hword : (UInt32.ofNat elapsed).toNat = elapsed := by
    rw [UInt32.toNat_ofNat']
    omega
  have hhalf : (0x80000000 : UInt32).toNat = 2 ^ 31 := rfl
  rw [hdiff, UInt32.le_iff_toNat_le, UInt32.toNat_sub, hword, hhalf]
  omega

namespace HubStructuredTransaction

variable {t : HubStructuredTransaction} {start timeout : UInt32} {maxRetries : UInt8} {command : Packet}
  {c : TransactionCall} {calls : List TransactionCall}

/-- The transaction of the command waits, with the deadline that it began with. -/
structure Waits (t : HubStructuredTransaction) (command : Packet) (start timeout : UInt32) (maxRetries : UInt8) :
    Prop where
  active : t.phase ≠ .idle
  command_eq : t.command = command
  target : ∃ request, decodeWireRequest command.opcode command.payload = .ok request ∧
    t.requestTarget = request.targetId
  deadline : t.deadline = start + timeout
  maxRetries_eq : t.maxRetries = maxRetries

theorem begin_waits {t' : HubStructuredTransaction} (h : t.begin command start timeout maxRetries = some t') :
    t'.Waits command start timeout maxRetries ∧ t'.retries = 0 := by
  unfold begin at h
  split at h
  · cases h
  split at h
  · cases h
  · rename_i request hrequest
    cases h
    exact ⟨⟨by simp, rfl, ⟨request, hrequest, rfl⟩, rfl, rfl⟩, rfl⟩

theorem call_idle (h : t.phase = .idle) : (t.call start c).1 = t ∧ (t.call start c).2 ≠ .retransmit ∧
    (t.call start c).2 ≠ .timeout := by
  rcases c with ⟨elapsed, packet | _⟩
  · simp [call, receive, h]
  · simp [call, service, h]

theorem receive_event (t : HubStructuredTransaction) (packet : Packet) :
    (t.receive packet).2 ≠ .retransmit ∧ (t.receive packet).2 ≠ .timeout := by
  unfold receive
  repeat' split
  all_goals exact ⟨by simp, by simp⟩

/-- **A packet** ends the transaction, or leaves it waiting with the deadline and the retries that it has. -/
theorem receive_waits (h : t.Waits command start timeout maxRetries) (packet : Packet) :
    (t.receive packet).1.deadline = start + timeout ∧
    ((EndsCommand command packet ∧ (t.receive packet).1.phase = .idle) ∨
      (¬ EndsCommand command packet ∧ (t.receive packet).1.Waits command start timeout maxRetries ∧
        (t.receive packet).1.retries = t.retries)) := by
  obtain ⟨hactive, rfl, ⟨request, hrequest, htarget⟩, hdeadline, hmax⟩ := h
  have hself : t.Waits t.command start timeout maxRetries := ⟨hactive, rfl, ⟨request, hrequest, htarget⟩, hdeadline, hmax⟩
  unfold receive
  rw [if_neg hactive]
  split
  · rename_i hother
    refine ⟨hdeadline, .inr ⟨fun hends => ?_, hself, rfl⟩⟩
    obtain ⟨⟨hs, hd, hq, ho⟩, -⟩ := hends
    simp [hs, hd, hq, ho] at hother
  rename_i hmatch
  simp only [not_or, not_not] at hmatch
  split
  · rename_i hack
    split
    · rename_i hmalformed
      refine ⟨hdeadline, .inr ⟨fun hends => ?_, hself, rfl⟩⟩
      rcases hends.2 with ⟨-, hlen, hvalid, -⟩ | ⟨hresponse, -⟩
      · simp [hlen, hvalid] at hmalformed
      · simp [hack] at hresponse
    rename_i hwell
    simp only [not_or, not_not, Bool.not_eq_true', Bool.not_eq_false] at hwell
    split
    · rename_i hrejected
      exact ⟨hdeadline, .inl ⟨⟨hmatch, .inl ⟨hack, hwell.1, hwell.2, hrejected⟩⟩, rfl⟩⟩
    · rename_i haccepted
      refine ⟨hdeadline, .inr ⟨fun hends => ?_, ?_, rfl⟩⟩
      · rcases hends.2 with ⟨-, -, -, hrejected⟩ | ⟨hresponse, -⟩
        · exact haccepted hrejected
        · simp [hack] at hresponse
      · exact ⟨by simp, rfl, ⟨request, hrequest, htarget⟩, hdeadline, hmax⟩
  rename_i hack
  split
  · rename_i hresponse
    refine ⟨hdeadline, .inr ⟨fun hends => ?_, hself, rfl⟩⟩
    rcases hends.2 with ⟨hack', -⟩ | ⟨hresponse', -⟩
    · exact hack hack'
    · exact hresponse hresponse'
  rename_i hresponse
  rw [not_not] at hresponse
  split
  · rename_i hmalformed
    refine ⟨hdeadline, .inr ⟨fun hends => ?_, hself, rfl⟩⟩
    rcases hends.2 with ⟨hack', -⟩ | ⟨-, -, response, -, hdecoded, -⟩
    · exact hack hack'
    · simp [hdecoded] at hmalformed
  · rename_i decoded hdecoded
    split
    · rename_i hother
      refine ⟨hdeadline, .inr ⟨fun hends => ?_, hself, rfl⟩⟩
      rcases hends.2 with ⟨hack', -⟩ | ⟨-, request', response, hrequest', hdecoded', heq⟩
      · exact hack hack'
      · rw [hrequest] at hrequest'
        rw [hdecoded] at hdecoded'
        cases hrequest'
        cases hdecoded'
        exact hother (heq.trans htarget.symm)
    · rename_i hsame
      rw [not_not] at hsame
      have hends : EndsCommand t.command packet :=
        ⟨hmatch, .inr ⟨hresponse, request, decoded, hrequest, hdecoded, hsame.trans htarget⟩⟩
      exact ⟨hdeadline, .inl ⟨hends, rfl⟩⟩

/-- **A call of `service`**: nothing before the deadline, and from it on a retransmission or the timeout. -/
theorem service_waits (h : t.Waits command start timeout maxRetries) {elapsed : ℕ} (ht : timeout.toNat < 2 ^ 31)
    (he : elapsed < timeout.toNat + 2 ^ 31) :
    t.service (start + UInt32.ofNat elapsed) =
      if elapsed < timeout.toNat then (t, .none)
      else if t.retries < maxRetries then ({ t with retries := t.retries + 1 }, .retransmit)
      else ({ t with phase := .idle }, .timeout) := by
  unfold service
  simp only [h.active, false_or, h.deadline, clock_early_iff ht he, h.maxRetries_eq]

/-! ### Turns -/

theorem turns_idle (h : t.phase = .idle) (hdeadline : t.deadline = start + timeout) :
    ∀ turn ∈ t.turns start calls, turn.active = false ∧ turn.retransmits = false ∧ turn.deadline = start + timeout := by
  induction calls with
  | nil => simp [turns]
  | cons c calls ih =>
    obtain ⟨hsame, hretransmit, -⟩ : (t.call start c).1 = t ∧ (t.call start c).2 ≠ .retransmit ∧ _ := call_idle h
    intro turn hturn
    rw [turns, hsame] at hturn
    rcases List.mem_cons.1 hturn with rfl | hturn
    · exact ⟨by simp [HubStructuredTransaction.turn, h], by simpa [HubStructuredTransaction.turn] using hretransmit,
        by rw [HubStructuredTransaction.turn, hsame, hdeadline]⟩
    · exact ih turn hturn

end HubStructuredTransaction

/-! ### The calls before the first late one -/

theorem answeredInTime_cons {command : Packet} {timeout : UInt32} {c : TransactionCall} {calls : List TransactionCall} :
    AnsweredInTime command timeout (c :: calls) ↔
      ¬ (c.IsService ∧ timeout.toNat ≤ c.elapsed) ∧ (c.Ends command ∨ AnsweredInTime command timeout calls) := by
  constructor
  · intro h
    refine ⟨fun hlate => ?_, ?_⟩
    · obtain ⟨earlier, hmem, -⟩ := h [] c calls rfl hlate.1 hlate.2
      cases hmem
    · by_cases hends : c.Ends command
      · exact .inl hends
      · refine .inr fun past call rest heq hservice hlate => ?_
        obtain ⟨earlier, hmem, hearlier⟩ := h (c :: past) call rest (by rw [heq, List.cons_append]) hservice hlate
        rcases List.mem_cons.1 hmem with rfl | hmem
        · exact absurd hearlier hends
        · exact ⟨earlier, hmem, hearlier⟩
  · rintro ⟨hnot, hrest⟩ past call rest heq hservice hlate
    cases past with
    | nil =>
      obtain ⟨rfl, -⟩ := List.cons_eq_cons.1 heq
      exact absurd ⟨hservice, hlate⟩ hnot
    | cons d past =>
      obtain ⟨rfl, htail⟩ := List.cons_eq_cons.1 heq
      rcases hrest with hends | hrest
      · exact ⟨c, List.mem_cons_self, hends⟩
      · obtain ⟨earlier, hmem, hearlier⟩ := hrest past call rest htail hservice hlate
        exact ⟨earlier, List.mem_cons_of_mem _ hmem, hearlier⟩

namespace KeepsDeadline

variable {start timeout : UInt32} {maxRetries : UInt8} {turn : DeadlineTurn} {turns : List DeadlineTurn}

theorem of_inactive (h : ∀ turn ∈ turns, turn.active = false ∧ turn.retransmits = false ∧
    turn.deadline = start + timeout) : KeepsDeadline start timeout maxRetries turns where
  early turn hturn hr := by
    rw [(h turn hturn).2.1] at hr
    cases hr
  bounded := by
    have hzero : turns.countP (·.retransmits) = 0 :=
      List.countP_eq_zero.2 fun turn hturn => by rw [(h turn hturn).2.1]; exact Bool.false_ne_true
    omega
  reported past turn rest heq _ hdue := by
    have hmem : turn ∈ turns := by rw [heq]; simp
    rw [DeadlineTurn.Due, (h turn hmem).1] at hdue
    cases hdue.2.2
  steady turn hturn := (h turn hturn).2.2

/-- A turn that does not retransmit, before turns that keep the deadline. -/
theorem cons (h : KeepsDeadline start timeout maxRetries turns) (hretransmit : turn.retransmits = false)
    (hdue : turn.Due timeout → turn.timesOut = true) (hdeadline : turn.deadline = start + timeout) :
    KeepsDeadline start timeout maxRetries (turn :: turns) where
  early u hu hr := by
    rcases List.mem_cons.1 hu with rfl | hu
    · rw [hretransmit] at hr
      cases hr
    · exact h.early u hu hr
  bounded := by
    have hcount : (turn :: turns).countP (·.retransmits) = turns.countP (·.retransmits) :=
      List.countP_cons_of_neg (by rw [hretransmit]; exact Bool.false_ne_true)
    rw [hcount]
    exact h.bounded
  reported past u rest heq hpast hu := by
    cases past with
    | nil =>
      obtain ⟨rfl, -⟩ := List.cons_eq_cons.1 heq
      exact hdue hu
    | cons d past =>
      obtain ⟨rfl, htail⟩ := List.cons_eq_cons.1 heq
      exact h.reported past u rest htail (fun earlier he => hpast earlier (List.mem_cons_of_mem _ he)) hu
  steady u hu := by
    rcases List.mem_cons.1 hu with rfl | hu
    · exact hdeadline
    · exact h.steady u hu

theorem tail (h : KeepsDeadline start timeout maxRetries (turn :: turns)) (hdue : ¬ turn.Due timeout) :
    KeepsDeadline start timeout maxRetries turns where
  early u hu := h.early u (List.mem_cons_of_mem _ hu)
  bounded := le_trans ((List.sublist_cons_self turn turns).countP_le) h.bounded
  reported past u rest heq hpast hu := by
    refine h.reported (turn :: past) u rest (by rw [heq, List.cons_append]) (fun earlier he => ?_) hu
    rcases List.mem_cons.1 he with rfl | he
    · exact hdue
    · exact hpast earlier he
  steady u hu := h.steady u (List.mem_cons_of_mem _ hu)

end KeepsDeadline

namespace HubStructuredTransaction

variable {t : HubStructuredTransaction} {start timeout : UInt32} {maxRetries : UInt8} {command : Packet}
  {c : TransactionCall} {calls : List TransactionCall}

/-- **What a call does to a transaction that waits.** -/
theorem call_waits (h : t.Waits command start timeout maxRetries) (ht : timeout.toNat < 2 ^ 31)
    (hc : c.elapsed < timeout.toNat + 2 ^ 31) :
    (t.call start c).1.deadline = start + timeout ∧
    ((c.Ends command ∧ (t.call start c).2 ≠ .retransmit ∧ (t.call start c).1.phase = .idle) ∨
      (¬ (c.IsService ∧ timeout.toNat ≤ c.elapsed) ∧ ¬ c.Ends command ∧ (t.call start c).2 ≠ .retransmit ∧
        (t.call start c).1.Waits command start timeout maxRetries ∧ (t.call start c).1.retries = t.retries) ∨
      (c.IsService ∧ timeout.toNat ≤ c.elapsed ∧ ¬ c.Ends command ∧
        ((t.retries < maxRetries ∧ (t.call start c).2 = .retransmit) ∨
          (¬ t.retries < maxRetries ∧ (t.call start c).2 = .timeout ∧ (t.call start c).1.phase = .idle)))) := by
  rcases c with ⟨elapsed, packet | _⟩
  · have hretransmit := (t.receive_event packet).1
    obtain ⟨hdeadline, hends | hwaits⟩ := receive_waits h packet
    · exact ⟨hdeadline, .inl ⟨hends.1, hretransmit, hends.2⟩⟩
    · exact ⟨hdeadline, .inr (.inl ⟨fun hlate => hlate.1, hwaits.1, hretransmit, hwaits.2⟩)⟩
  · have hservice := service_waits h ht hc
    have hends : ¬ (⟨elapsed, .service⟩ : TransactionCall).Ends command := id
    simp only [call]
    rw [hservice]
    split
    · rename_i hearly
      exact ⟨h.deadline, .inr (.inl ⟨fun hlate => absurd hearly (Nat.not_lt.2 hlate.2), hends, by simp, h, rfl⟩)⟩
    rename_i hlate
    rw [Nat.not_lt] at hlate
    split
    · rename_i hretries
      exact ⟨h.deadline, .inr (.inr ⟨trivial, hlate, hends, .inl ⟨hretries, rfl⟩⟩)⟩
    · rename_i hretries
      exact ⟨h.deadline, .inr (.inr ⟨trivial, hlate, hends, .inr ⟨hretries, rfl, rfl⟩⟩)⟩

theorem Waits.keepsDeadline_of (h : t.Waits command start timeout maxRetries) (ht : timeout.toNat < 2 ^ 31)
    (hcalls : ∀ c ∈ calls, c.elapsed < timeout.toNat + 2 ^ 31)
    (hwhen : maxRetries = 0 ∨ AnsweredInTime command timeout calls) :
    KeepsDeadline start timeout maxRetries (t.turns start calls) := by
  induction calls generalizing t with
  | nil => exact .of_inactive (by simp [turns])
  | cons c calls ih =>
    obtain ⟨hc, hcalls⟩ := List.forall_mem_cons.1 hcalls
    rw [answeredInTime_cons] at hwhen
    obtain ⟨hdeadline, hstep⟩ := call_waits (c := c) h ht hc
    rw [turns]
    rcases hstep with ⟨hends, hretransmit, hidle⟩ | ⟨hearly, hends, hretransmit, hwaits, -⟩ |
      ⟨hservice, hlate, -, hover⟩
    · -- the packet is no call of `service`, and after it nothing happens any more
      refine (KeepsDeadline.of_inactive (turns_idle hidle hdeadline)).cons (by simpa [turn] using hretransmit)
        (fun hdue => ?_) hdeadline
      exfalso
      rcases c with ⟨elapsed, packet | _⟩
      · exact hdue.1
      · exact hends
    · have hrest : maxRetries = 0 ∨ AnsweredInTime command timeout calls :=
        hwhen.imp_right fun hin => hin.2.resolve_left hends
      exact (ih hwaits hcalls hrest).cons (by simpa [turn] using hretransmit)
        (fun hdue => absurd ⟨hdue.1, hdue.2.1⟩ hearly) hdeadline
    · have hzero : maxRetries = 0 := hwhen.resolve_right fun hin => hin.1 ⟨hservice, hlate⟩
      rcases hover with ⟨hlt, -⟩ | ⟨-, htimeout, hidle⟩
      · rw [hzero] at hlt
        exact absurd hlt (UInt8.not_lt_zero)
      · exact (KeepsDeadline.of_inactive (turns_idle hidle hdeadline)).cons (by simp [turn, htimeout])
          (fun _ => by simp [turn, htimeout]) hdeadline

theorem Waits.answeredInTime_of (h : t.Waits command start timeout maxRetries) (hretries : t.retries = 0)
    (ht : timeout.toNat < 2 ^ 31) (hcalls : ∀ c ∈ calls, c.elapsed < timeout.toNat + 2 ^ 31) (hmax : maxRetries ≠ 0)
    (hkeeps : KeepsDeadline start timeout maxRetries (t.turns start calls)) :
    AnsweredInTime command timeout calls := by
  induction calls generalizing t with
  | nil =>
    intro past call rest heq
    simp at heq
  | cons c calls ih =>
    obtain ⟨hc, hcalls⟩ := List.forall_mem_cons.1 hcalls
    obtain ⟨-, hstep⟩ := call_waits (c := c) h ht hc
    rw [turns] at hkeeps
    rw [answeredInTime_cons]
    rcases hstep with ⟨hends, -, -⟩ | ⟨hearly, hends, -, hwaits, hsame⟩ | ⟨hservice, hlate, -, hover⟩
    · refine ⟨fun hlate => ?_, .inl hends⟩
      rcases c with ⟨elapsed, packet | _⟩
      · exact hlate.1
      · exact hends
    · have htail := hkeeps.tail fun hdue => hearly ⟨hdue.1, hdue.2.1⟩
      exact ⟨hearly, .inr (ih hwaits (hsame.trans hretries) hcalls htail)⟩
    · -- the first late call of a transaction with retries left is a retransmission
      exfalso
      rcases hover with ⟨-, hretransmit⟩ | ⟨hnone, -⟩
      · have := hkeeps.early _ List.mem_cons_self (by simp [turn, hretransmit])
        exact absurd this (Nat.not_lt.2 hlate)
      · rw [hretries] at hnone
        exact hnone (UInt8.pos_iff_ne_zero.2 hmax)

end HubStructuredTransaction

/-! ### The bridge -/

namespace HubBridge

variable {b : HubBridge} {start : UInt32} {c : TransactionCall} {calls : List TransactionCall}

theorem activeBase_reports (b : HubBridge) : reportsTimeout b.activeBase = false := by
  simp [reportsTimeout, b.activeBase_action]

/-- **One call**: the bridge shows what its transaction does. -/
theorem turn_eq (h : b.active = (b.transaction.phase != .idle)) :
    b.turn start c = b.transaction.turn start c ∧ (b.call start c).1.transaction = (b.transaction.call start c).1 ∧
      (b.call start c).1.active = ((b.call start c).1.transaction.phase != .idle) := by
  by_cases hactive : b.active = true
  swap
  · have hidle : b.transaction.phase = .idle := by simpa [hactive] using h
    obtain ⟨hsame, hretransmit, htimeout⟩ : (b.transaction.call start c).1 = b.transaction ∧
        (b.transaction.call start c).2 ≠ .retransmit ∧ _ := HubStructuredTransaction.call_idle hidle
    have hcall : b.call start c = (b, b.activeBase) := by
      rcases c with ⟨elapsed, packet | _⟩
      · exact if_pos (by simpa using hactive)
      · exact if_pos (by simpa using hactive)
    simp [turn, HubStructuredTransaction.turn, hcall, hsame, h, hretransmit, htimeout, b.activeBase_action,
      b.activeBase_reports]
  have hphase : b.transaction.phase ≠ .idle := by simpa [hactive] using h.symm
  rcases c with ⟨elapsed, packet | _⟩
  · have hreceives := b.transaction.receive_receives packet
    have hevent := b.transaction.receive_event packet
    unfold turn HubStructuredTransaction.turn call HubStructuredTransaction.call receive
    simp only [hactive, Bool.not_true, Bool.false_eq_true, if_false]
    revert hreceives hevent
    generalize b.transaction.receive packet = heard
    intro hreceives hevent
    cases hreceives with
    | @kept t' event hphase' hcommand htarget hcomplete hrejected =>
      cases event with
      | responseComplete => exact absurd rfl hcomplete
      | remoteRejected => exact absurd rfl hrejected
      | retransmit => exact absurd rfl hevent.1
      | timeout => exact absurd rfl hevent.2
      | _ => simp [hphase, hphase', b.activeBase_action, b.activeBase_reports]
    | rejected hphase' => simp [hphase, hphase', finish, withResult, reportsTimeout, RadioResultCode.remoteRejected,
        RadioResultCode.timeout]
    | complete hphase' hvalid htarget => simp [hphase, hphase', finish, withResult, reportsTimeout,
        ResultClass.operationResult, ResultClass.radioResult]
  · have hserviced := b.transaction.service_serviced (start + UInt32.ofNat elapsed)
    unfold turn HubStructuredTransaction.turn call HubStructuredTransaction.call service
    simp only [hactive, Bool.not_true, Bool.false_eq_true, if_false]
    revert hserviced
    generalize b.transaction.service (start + UInt32.ofNat elapsed) = serviced
    intro hserviced
    cases hserviced with
    | @kept t' event hphase' hcommand htarget hevent =>
      rcases hevent with rfl | rfl
      · simp [hphase, hphase', b.activeBase_action, b.activeBase_reports]
      · have haction : (BridgeAction.transmitCommand == BridgeAction.hostResponseReady) = false := rfl
        have hevent : (StructuredEvent.retransmit == StructuredEvent.timeout) = false := rfl
        simp [hphase, hphase', reportsTimeout, haction, hevent]
    | timeout hphase' => simp [hphase, hphase', finish, withResult, reportsTimeout]

theorem turns_eq (h : b.active = (b.transaction.phase != .idle)) : b.turns start calls = b.transaction.turns start calls := by
  induction calls generalizing b with
  | nil => rfl
  | cons c calls ih =>
    obtain ⟨hturn, htransaction, hfollows⟩ : b.turn start c = b.transaction.turn start c ∧ _ ∧ _ := turn_eq h
    rw [turns, HubStructuredTransaction.turns, hturn, ih hfollows, htransaction]

/-- A command that the bridge sends for a request has begun its transaction. -/
theorem submit_waits {b' : HubBridge} {requestId : UInt16} {request : OperationRequest} {localRole : DeviceRole}
    {localId peerId maxRetries : UInt8} {timeout : UInt32} {explicitlyConfigured : Bool} {result : BridgeResult}
    (h : b.submit requestId request localRole localId peerId start timeout maxRetries explicitlyConfigured = (b', result))
    (hsent : result.action = .transmitCommand) :
    b'.transaction.Waits result.packet start timeout maxRetries ∧ b'.transaction.retries = 0 ∧
      b'.active = (b'.transaction.phase != .idle) := by
  unfold submit at h
  dsimp only at h
  -- only the last way through `submit` sends a command
  split_ifs at h
  all_goals try
    obtain ⟨rfl, rfl⟩ := Prod.mk.inj h
    simp [reject] at hsent
  split at h
  · obtain ⟨rfl, rfl⟩ := Prod.mk.inj h
    simp at hsent
  · rename_i transaction hbegin
    obtain ⟨rfl, rfl⟩ := Prod.mk.inj h
    obtain ⟨hwaits, hretries⟩ := HubStructuredTransaction.begin_waits hbegin
    obtain ⟨hactive, hcommand, htarget, hdeadline, hmax⟩ := hwaits
    exact ⟨⟨hactive, hcommand, htarget, hdeadline, hmax⟩, hretries, by simp [hactive]⟩

end HubBridge

/-! ### The result -/

/-- **When a structured transaction keeps its deadline**: exactly when it has no retries, or was ended before the first
late call of `service`.  So it is for the transaction, and for the bridge that shows it to the Host. -/
theorem structured_keepsDeadline_iff (start timeout : UInt32) (maxRetries : UInt8) (calls : List TransactionCall)
    (ht : timeout.toNat < 2 ^ 31) (hcalls : ∀ call ∈ calls, call.elapsed < timeout.toNat + 2 ^ 31) :
    (∀ t t' command, HubStructuredTransaction.begin t command start timeout maxRetries = some t' →
      (KeepsDeadline start timeout maxRetries (t'.turns start calls) ↔
        maxRetries = 0 ∨ AnsweredInTime command timeout calls)) ∧
    (∀ b b' requestId request localRole localId peerId explicitlyConfigured result,
      HubBridge.submit b requestId request localRole localId peerId start timeout maxRetries explicitlyConfigured =
        (b', result) → result.action = .transmitCommand →
      (KeepsDeadline start timeout maxRetries (b'.turns start calls) ↔
        maxRetries = 0 ∨ AnsweredInTime result.packet timeout calls)) := by
  have hiff : ∀ t command, HubStructuredTransaction.Waits t command start timeout maxRetries → t.retries = 0 →
      (KeepsDeadline start timeout maxRetries (t.turns start calls) ↔
        maxRetries = 0 ∨ AnsweredInTime command timeout calls) := by
    intro t command hwaits hretries
    refine ⟨fun hkeeps => ?_, fun hwhen => hwaits.keepsDeadline_of ht hcalls hwhen⟩
    by_cases hmax : maxRetries = 0
    · exact .inl hmax
    · exact .inr (hwaits.answeredInTime_of hretries ht hcalls hmax hkeeps)
  constructor
  · intro t t' command hbegin
    obtain ⟨hwaits, hretries⟩ := HubStructuredTransaction.begin_waits hbegin
    exact hiff t' command hwaits hretries
  · intro b b' requestId request localRole localId peerId explicitlyConfigured result hsubmit hsent
    obtain ⟨hwaits, hretries, hfollows⟩ := HubBridge.submit_waits hsubmit hsent
    rw [HubBridge.turns_eq hfollows]
    exact hiff b'.transaction result.packet hwaits hretries

/-- A PING from the Hub to the Node. -/
def deadlinePing : Packet := ⟨.command, 1, 2, 7, OperationCode.ping, [0, 0, 0, 0]⟩

def deadlinePinged (maxRetries : UInt8) : HubStructuredTransaction :=
  { HubStructuredTransaction.initial with
    phase := .awaitingAck, command := deadlinePing, deadline := 1000, maxRetries }

theorem structured_keepsDeadline_iff_ping :
    KeepsDeadline 0 1000 0 ((deadlinePinged 0).turns 0 [⟨999, .service⟩, ⟨1000, .service⟩]) :=
  ((structured_keepsDeadline_iff 0 1000 0 [⟨999, .service⟩, ⟨1000, .service⟩] (by decide) (by simp)).1 .initial
    (deadlinePinged 0) deadlinePing rfl).2 (.inl rfl)

/-- A PING with two retries that nobody answers is sent again at its deadline. -/
theorem structured_retransmits_at_deadline :
    HubStructuredTransaction.initial.begin deadlinePing 0 1000 2 = some (deadlinePinged 2) ∧
      ¬ KeepsDeadline 0 1000 2 ((deadlinePinged 2).turns 0 [⟨1000, .service⟩]) := by
  refine ⟨rfl, fun h => ?_⟩
  have hearly := h.early ((deadlinePinged 2).turn 0 ⟨1000, .service⟩) List.mem_cons_self (by decide)
  exact absurd hearly (by decide)

end Redline.Host
