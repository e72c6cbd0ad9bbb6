import Redline.Host.Answers
import Redline.Network.Custody

/-!
# The validators of an Event

Between the producer on the Node and the Host an Event passes six checks: those of the input, of the Node's record,
of the EVENT packet, of the admission, of the ledger's record and of the record for the Host.  `Content` is what all of
them look at, and each check comes down to `Content.Valid`.

`validators_agree` follows an accepted input through a whole run of the system: whatever the Node and the Hub hold of
its identity, and whatever is on the air, has the content of the input and passes every later check, up to the response
that the Host decodes.
-/

namespace Redline.Network

open Redline.Wire Redline.Records Redline.Lib

/-! ### The content of an Event -/

/-- What the Event path carries from end to end. -/
structure Content where
  source : UInt8
  family : UInt8
  flags : UInt8
  epoch : UInt32
  id : UInt32
  lifetimeBudgetSeconds : UInt32
  bodyLength : UInt8
  body : Body
  deriving DecidableEq

/-- A well-formed Event. -/
structure Content.Valid (x : Content) : Prop where
  source : x.source ≠ 0
  epoch : x.epoch ≠ 0
  id : x.id ≠ 0
  content : isValidContent x.family x.flags x.bodyLength x.lifetimeBudgetSeconds x.body = true
  tail : zeroTail x.body x.bodyLength = true

/-- The input under the identity that it has been given. -/
def contentOfInput (source : UInt8) (epoch id : UInt32) (input : Node.EventInput) : Content :=
  ⟨source, input.family, input.flags, epoch, id, input.lifetimeBudgetSeconds, input.bodyLength, input.body⟩

def contentOfNode (source : UInt8) (r : NodeRecord) : Content :=
  ⟨source, r.family, r.flags, r.eventEpoch, r.eventId, r.lifetimeBudgetSeconds, r.bodyLength, r.body⟩

def contentOfEvent (event : Event) : Content :=
  ⟨event.source, event.family, event.flags, event.epoch, event.id, event.lifetimeBudgetSeconds, event.bodyLength,
    event.body⟩

def contentOfHub (r : HubRecord) : Content :=
  ⟨r.sourceDeviceId, r.family, r.flags, r.eventEpoch, r.eventId, r.lifetimeBudgetSeconds, r.bodyLength, r.body⟩

def contentOfHost (r : Host.HostEventRecord) : Content :=
  ⟨r.sourceDeviceId, r.family, r.flags, r.eventEpoch, r.eventId, r.lifetimeBudgetSeconds, r.bodyLength, r.body⟩

/-! ### The six checks -/

section Checks

variable {device hub : UInt8}

/-- The check of the Node's record. -/
theorem validateNodeRecord_iff {r : NodeRecord} (hsource : device ≠ 0) (hown : r.Owned) :
    validateNodeRecord r = .ok () ↔ r.attemptsUsed.toNat ≤ 5 ∧ r.remainingActiveSeconds ≤ r.lifetimeBudgetSeconds ∧
      (contentOfNode device r).Valid := by
  rw [Node.validateNodeRecord_owned hown]
  unfold validCanonicalEvent
  simp only [Bool.and_eq_true, bne_iff_ne]
  constructor
  · rintro ⟨hatt, hrem, ⟨⟨⟨-, hepoch⟩, hid⟩, hcontent⟩, htail⟩
    exact ⟨hatt, hrem, hsource, hepoch, hid, hcontent, htail⟩
  · rintro ⟨hatt, hrem, h⟩
    exact ⟨hatt, hrem, ⟨⟨⟨by decide, h.epoch⟩, h.id⟩, h.content⟩, h.tail⟩

/-- The check of the EVENT codec, which does not look at the bytes past the body. -/
theorem isValidEvent_of_valid {event : Event} (h : (contentOfEvent event).Valid) (hdest : event.destination ≠ 0)
    (hne : event.source ≠ event.destination) : isValidEvent event = true := by
  have hends : hasValidEndpoints event.source event.destination = true := by
    simp only [hasValidEndpoints, Bool.and_eq_true, bne_iff_ne]
    exact ⟨⟨h.source, hdest⟩, hne⟩
  exact isValidEvent_iff.2 ⟨hends, h.epoch, h.id, h.content⟩

/-- The check of the ledger. -/
theorem validateAdmission_iff {l : Hub.Ledger} {event : Event} (hdest : l.hubDeviceId ≠ 0)
    (hne : l.nodeDeviceId ≠ l.hubDeviceId) :
    l.validateAdmission event = .durableNewAdmission ↔
      event.source = l.nodeDeviceId ∧ event.destination = l.hubDeviceId ∧ (contentOfEvent event).Valid := by
  constructor
  · intro h
    obtain ⟨hadm, hsource, hdestination⟩ := Hub.admissible_of_validateAdmission h
    exact ⟨hsource, hdestination, hadm.source, hadm.epoch, hadm.id, hadm.content, hadm.tail⟩
  · rintro ⟨hsource, hdestination, h⟩
    have hvalid := isValidEvent_of_valid h (by rwa [hdestination]) (by rwa [hsource, hdestination])
    have hends := (isValidEvent_iff.1 hvalid).1
    rw [hsource, hdestination] at hends
    have hfamily := family_of_valid hvalid
    have hepoch : event.epoch ≠ 0 := h.epoch
    have hid : event.id ≠ 0 := h.id
    have hcontent : isValidContent event.family event.flags event.bodyLength event.lifetimeBudgetSeconds event.body =
      true := h.content
    have htail : zeroTail event.body event.bodyLength = true := h.tail
    unfold Hub.Ledger.validateAdmission
    rw [if_neg, if_neg, if_neg, if_neg]
    · simp [htail]
    · simp [hcontent]
    · simp [hfamily]
    · simp [hends, hsource, hdestination, hepoch, hid]

/-- The check of the ledger's record. -/
theorem validateHubRecord_iff {r : HubRecord} (hown : r.Owned) :
    validateHubRecord r = .ok () ↔ r.admissionOrdinal ≠ 0 ∧ (contentOfHub r).Valid := by
  rw [Hub.validateHubRecord_owned hown]
  unfold validCanonicalEvent
  simp only [Bool.and_eq_true, bne_iff_ne]
  constructor
  · rintro ⟨hord, ⟨⟨⟨hsource, hepoch⟩, hid⟩, hcontent⟩, htail⟩
    exact ⟨hord, hsource, hepoch, hid, hcontent, htail⟩
  · rintro ⟨hord, h⟩
    exact ⟨hord, ⟨⟨⟨h.source, h.epoch⟩, h.id⟩, h.content⟩, h.tail⟩

/-- The check of the record for the Host. -/
theorem isValidHostEventRecord_iff {r : Host.HostEventRecord} (havailable : r.available = 1) :
    Host.isValidHostEventRecord r = true ↔ (contentOfHost r).Valid := by
  unfold Host.isValidHostEventRecord
  rw [if_neg (by rw [havailable]; decide), havailable]
  simp only [Bool.and_eq_true, bne_iff_ne, beq_iff_eq]
  constructor
  · rintro ⟨⟨⟨⟨⟨-, hsource⟩, hepoch⟩, hid⟩, hcontent⟩, htail⟩
    exact ⟨hsource, hepoch, hid, hcontent, htail⟩
  · intro h
    exact ⟨⟨⟨⟨⟨trivial, h.source⟩, h.epoch⟩, h.id⟩, h.content⟩, h.tail⟩

end Checks

/-! ### From the Node's record to the ledger -/

section Air

variable {device hub : UInt8} {event : Event}

/-- The adapter of the Hub takes the Event of a packet that is meant for it. -/
theorem receivedEvent_of_routed {bytes : Bytes} (hdec : decodeEvent bytes = some event) (hsource : event.source = device)
    (hdest : event.destination = hub) : Hub.HubAdapter.receivedEvent bytes hub device = some event := by
  unfold decodeEvent at hdec
  unfold Hub.HubAdapter.receivedEvent
  cases hpacket : decode bytes with
  | none =>
    rw [hpacket] at hdec
    cases hdec
  | some packet =>
    rw [hpacket] at hdec
    dsimp only at hdec ⊢
    split at hdec
    · cases hdec
    rename_i htype
    split at hdec
    · cases hdec
    rename_i hlen
    split at hdec
    swap
    · cases hdec
    rename_i hvalid
    cases hdec
    rw [not_or, not_not] at htype
    rw [not_or, not_not] at hlen
    obtain ⟨hends, hepoch, hid, -⟩ := isValidEvent_iff.1 hvalid
    simp only [hasValidEndpoints, Bool.and_eq_true, bne_iff_ne] at hends
    have hfamily := isCorrelatableFamily_of_registered (family_of_valid hvalid)
    dsimp only at hsource hdest hends hepoch hid hfamily
    rw [if_neg, if_neg]
    · rintro (h | h | h | h | h)
      · exact hepoch h
      · exact hid h
      · exact hlen.1 h
      · exact h hlen.2
      · rw [hfamily] at h
        cases h
    · rintro (h | h | h | h | h | h)
      · exact h htype.1
      · exact h hsource
      · exact h hdest
      · exact hends.1.1 h
      · exact hends.1.2 h
      · exact htype.2 h

/-- A ledger in service, configured with the two devices, does not find fault with the Event. -/
def Welcome (device hub : UInt8) (event : Event) : Prop :=
  ∀ (l : Hub.Ledger) ops r, l.ledgerHealthy = true → l.nodeDeviceId = device → l.hubDeviceId = hub →
    Prog.Returns (fun _ _ => True) (l.admitEvent event) ops r →
    r.2.status ≠ .malformedEvent ∧ r.2.status ≠ .unsupportedEvent ∧ r.2.status ≠ .routingRejected

/-- The statuses of an Event that has passed the checks. -/
theorem welcome_of_valid (h : (contentOfEvent event).Valid) (hsource : event.source = device)
    (hdest : event.destination = hub) (hhub : hub ≠ 0) (hne : device ≠ hub) : Welcome device hub event := by
  rintro l ops r hhealthy rfl rfl hret
  have hvalid := (validateAdmission_iff hhub hne).2 ⟨hsource, hdest, h⟩
  unfold Hub.Ledger.admitEvent at hret
  rw [if_neg (by simp [hhealthy]), if_neg (not_not.2 hvalid)] at hret
  split at hret
  · cases (Prog.returns_pure.1 hret).2
    dsimp only
    split <;> simp
  split at hret
  · cases (Prog.returns_pure.1 hret).2
    simp
  obtain ⟨⟨l₁, ordinal⟩, -, ops₂, -, hret, -⟩ := Prog.returns_bind hret
  cases ordinal with
  | none =>
    cases (Prog.returns_pure.1 hret).2
    simp
  | some ordinal =>
    obtain ⟨⟨l₂, committed⟩, -, ops₃, -, hret, -⟩ := Prog.returns_bind hret
    dsimp only at hret
    split at hret
    · cases (Prog.returns_pure.1 hret).2
      simp
    · cases (Prog.returns_pure.1 hret).2
      simp

/-- The record that the ledger makes of the Event encodes, and decodes to the same content. -/
theorem admittedRecord_encodes (h : (contentOfEvent event).Valid) {ordinal : UInt32} (ho : ordinal ≠ 0)
    (generation : UInt32) :
    ∃ b, encodeHubRecord (Hub.Ledger.admittedRecord generation event ordinal) = .ok b ∧
      decodeHubRecord b = .ok (Hub.Ledger.admittedRecord generation event ordinal) ∧
      contentOfHub (Hub.Ledger.admittedRecord generation event ordinal) = contentOfEvent event := by
  have hbody : bodyOf (event.body.toList.take event.bodyLength.toNat) = event.body := bodyOf_take h.tail
  have hadm : Hub.Admissible event := ⟨h.source, h.epoch, h.id, h.content, h.tail⟩
  obtain ⟨b, henc, hdec⟩ := Hub.encodeHubRecord_of_valid (Hub.admittedRecord_valid hadm ho generation)
  refine ⟨b, henc, hdec, ?_⟩
  simp only [contentOfHub, contentOfEvent, Hub.Ledger.admittedRecord, hbody]

/-- An Event with a well-formed content is encoded in one packet. -/
theorem encodeEvent_of_valid (hvalid : isValidEvent event = true) :
    ∃ bytes, encodeEvent event maxPacketSize = some bytes ∧ bytes.length ≤ maxPacketSize := by
  have hlen : event.bodyLength.toNat ≤ 12 := bodyLength_of_valid hvalid
  have hpayload : (eventPacket event).payload.length = 14 + event.bodyLength.toNat := by
    simp only [eventPacket, List.length_append, length_writeUint32Le, List.length_singleton, List.length_take,
      Vector.length_toList]
    omega
  have hmax : maxPayloadSize = 26 := rfl
  have hpacket : maxPacketSize = 32 := rfl
  have hheader : headerSize = 6 := rfl
  unfold encodeEvent encode
  rw [if_pos hvalid, if_neg (by omega), if_neg (by omega)]
  refine ⟨_, rfl, ?_⟩
  simp only [List.length_append, List.length_cons, List.length_nil]
  omega

end Air

/-! ### From the ledger to the Host -/

section Poll

open Redline.Host

/-- A POLL_EVENTS request that the device accepts. -/
structure Polls (request : OperationRequest) (localDeviceId : UInt8) : Prop where
  category : request.category = OperationCategory.event
  operation : request.operation = OperationCode.pollEvents
  target : request.targetDeviceId = localDeviceId
  valid : validateOperationRequest versionMinor02 request = .ok

/-- A ledger in service answers a poll without turning to the storage. -/
theorem Polls.handle_eq {l : Hub.Ledger} {requestId : UInt16} {request : OperationRequest} {localDeviceId : UInt8}
    (h : Polls request localDeviceId) (hhealthy : l.ledgerHealthy = true) :
    EventService.handle l requestId request .hub localDeviceId =
      pure (l, EventService.poll l { makeBaseResult requestId request with disposition := .handled }) := by
  unfold EventService.handle
  rw [if_neg (not_not.2 h.category), if_neg (by simp), if_neg (not_not.2 h.target), if_neg (not_not.2 h.valid)]
  dsimp only
  rw [if_neg (by simp [hhealthy]), if_pos h.operation]

/-- The response to the request is sent, and the Host decodes an Event of the content in it. -/
def Shows (l : Hub.Ledger) (requestId : UInt16) (request : OperationRequest) (localDeviceId : UInt8)
    (content : Content) : Prop :=
  ∃ result bytes event, EventService.handle l requestId request .hub localDeviceId = pure (l, result) ∧
    result.disposition = .handled ∧ encodeOperationResponse versionMinor02 result.response = .ok bytes ∧
    decodeOperationResponse versionMinor02 bytes = .ok result.response ∧
    decodeHostEventRecord result.response.value.bytes = .ok event ∧ event.available = 1 ∧
    contentOfHost event = content

/-- A valid ACTIVE record is converted for the Host, field by field. -/
theorem convert_of_valid {held : HubRecord} (hactive : held.state = .active)
    (hvalid : validateHubRecord held = .ok ()) :
    ∃ event, EventService.convert held = some event ∧ event.available = 1 ∧
      isValidHostEventRecord event = true ∧ contentOfHost event = contentOfHub held := by
  obtain ⟨-, hcontent⟩ := (validateHubRecord_iff (Hub.owned_of_active hactive)).1 hvalid
  have hbody : bodyOf (held.body.toList.take held.bodyLength.toNat) = held.body := bodyOf_take hcontent.tail
  unfold EventService.convert
  rw [if_neg (not_not.2 hactive)]
  extract_lets candidate
  have hsame : contentOfHost candidate = contentOfHub held := by
    simp only [candidate, contentOfHost, contentOfHub, hbody]
  have hvalid : isValidHostEventRecord candidate = true := by
    rw [isValidHostEventRecord_iff rfl, hsame]
    exact hcontent
  exact ⟨candidate, if_neg (by simp [hvalid]), rfl, hvalid, hsame⟩

/-- The answer to a poll that has found a record. -/
def polled (requestId : UInt16) (request : OperationRequest) (value : Bytes) : ServiceResult :=
  EventService.setSuccess { makeBaseResult requestId request with disposition := .handled } ⟨structureValueType, value⟩

/-- **What a poll returns is decoded by the Host to the content of the ledger's record.** -/
theorem shows_of_oldestActive {l : Hub.Ledger} {slot : SlotIndex} {held : HubRecord}
    (h : l.oldestActive = some (slot, held)) (hvalid : validateHubRecord held = .ok ()) {requestId : UInt16}
    {request : OperationRequest} {localDeviceId : UInt8} (hreq : Polls request localDeviceId) :
    Shows l requestId request localDeviceId (contentOfHub held) := by
  obtain ⟨hhealthy, -, hactive, -⟩ := Hub.oldestActive_some h
  obtain ⟨event, hconvert, havailable, hevent, hsame⟩ := convert_of_valid hactive hvalid
  obtain ⟨value, hencoded⟩ : ∃ value, encodeHostEventRecord event = .ok value := by
    unfold encodeHostEventRecord
    rw [hevent]
    exact ⟨_, rfl⟩
  have hdecoded := (decodeHostEventRecord_encode hencoded).2
  have hresponse : ∃ bytes, encodeOperationResponse versionMinor02 (polled requestId request value).response = .ok bytes ∧
      bytes.length ≤ Host.maxPayloadSize := by
    refine Suits.encodes hreq.valid (EventService.suits_success hreq.category (Or.inl ⟨hreq.operation, ?_⟩))
    rw [hreq.operation]
    exact isRecord_event hencoded
  obtain ⟨bytes, hbytes, -⟩ := hresponse
  refine ⟨polled requestId request value, bytes, event, ?_, rfl, hbytes,
    decodeOperationResponse_encode hbytes (Or.inl rfl), hdecoded, havailable, hsame⟩
  rw [hreq.handle_eq hhealthy]
  unfold EventService.poll
  rw [h]
  dsimp only
  rw [hconvert]
  dsimp only [EventService.pollResult]
  rw [hencoded]
  rfl

end Poll

/-! ### The run of a system -/

/-- An enqueue of the input puts the identity in the queue of the Node. -/
def Entry.accepts (entry : Entry) (epoch id : UInt32) (input : Node.EventInput) : Prop :=
  (∃ a, entry.action = .node a ∧ a.input? = some input) ∧ ¬ Node.QueuedIn entry.before.node.image epoch id ∧
    Node.QueuedIn entry.after.node.image epoch id

/-- The packet fits the radio, and the Hub takes it: the adapter decodes the content in it, a ledger in service finds
no fault with it, and the record that is made of it encodes under any ordinal that the ledger may allocate. -/
def Received (device hub : UInt8) (l : Hub.Ledger) (content : Content) (bytes : Bytes) : Prop :=
  bytes.length ≤ maxPacketSize ∧ ∃ event, Hub.HubAdapter.receivedEvent bytes hub device = some event ∧
    isRegisteredFamily event.family = true ∧ isValidEvent event = true ∧ contentOfEvent event = content ∧
    Welcome device hub event ∧
    ∀ ops l' ordinal generation, l.ledgerHealthy = true →
      Prog.Returns (fun _ _ => True) l.allocateOrdinal ops (l', some ordinal) →
      ∃ b, encodeHubRecord (Hub.Ledger.admittedRecord generation event ordinal) = .ok b ∧
        decodeHubRecord b = .ok (Hub.Ledger.admittedRecord generation event ordinal) ∧
        contentOfHub (Hub.Ledger.admittedRecord generation event ordinal) = content

/-- **All that the system has of the identity agrees with the content.** -/
structure Agrees (device hub : UInt8) (content : Content) (st : State) : Prop where
  record : ∀ r, Node.HoldsRecord st.node.image r → r.Owned → r.eventEpoch = content.epoch → r.eventId = content.id →
    contentOfNode device r = content ∧ ∃ b, encodeNodeRecord r = .ok b ∧ decodeNodeRecord b = .ok r
  packet : ∀ r, Node.HoldsRecord st.node.image r → r.Owned → r.eventEpoch = content.epoch → r.eventId = content.id →
    ∀ sequence, ∃ bytes, encodeEvent (Node.Ram.eventOf device hub sequence r) maxPacketSize = some bytes ∧
      Received device hub st.hub.ledger content bytes
  air : ∀ bytes ∈ st.events, ∃ event, decodeEvent bytes = some event ∧
    (event.epoch = content.epoch → event.id = content.id → Received device hub st.hub.ledger content bytes)
  ledger : ∀ held, Hub.HoldsRecord st.hub.image held → held.Owned →
    held.identity = ⟨device, content.epoch, content.id⟩ →
    contentOfHub held = content ∧ ∃ b, encodeHubRecord held = .ok b ∧ decodeHubRecord b = .ok held
  poll : ∀ slot held requestId request localDeviceId, st.hub.ledger.oldestActive = some (slot, held) →
    held.identity = ⟨device, content.epoch, content.id⟩ → Polls request localDeviceId →
    Shows st.hub.ledger requestId request localDeviceId content

section Run

variable {device hub : UInt8} {c : Channel} {st : State} {r : Chronicle} {chron chron' : Node.Chronicle} {x : Entry}

/-- The packet is made of a valid record of the Node. -/
def SentOf (device hub : UInt8) (bytes : Bytes) : Prop :=
  ∃ r sequence, validateNodeRecord r = .ok () ∧ r.Owned ∧
    encodeEvent (Node.Ram.eventOf device hub sequence r) maxPacketSize = some bytes

/-- What a Node puts on the air is made of a valid record. -/
theorem sentOf_transmit (h : Node.Consistent device hub chron) {a : Node.Action} {bytes : Bytes}
    (hr : (chron.machine.step device hub a).2 = .transmit bytes) : SentOf device hub bytes := by
  rcases h with ⟨hasleep, -⟩ | ⟨v, halive, -⟩
  · exact absurd hr ((hasleep.step a).2 bytes)
  obtain ⟨v', halive', hturn⟩ := halive.step a
  rw [hr] at hturn
  cases hturn with
  | evolved _ hq _ => exact absurd rfl (hq bytes)
  | created _ _ _ _ hq => exact absurd rfl (hq bytes)
  | @transmitted v1 slot sequence _ _ harm _ hbytes =>
    have hvalid := halive'.stored.valid slot
    rw [Node.View.put_apply] at hvalid
    -- arming leaves the Event as it is
    exact ⟨_, sequence, hvalid, Node.owned_of_queued harm.1, hbytes⟩

/-- **The invariant of a system**: the inputs that were accepted are in the history of the Node, and all that is on
the air and in the ledger comes from there. -/
structure Faithful (device hub : UInt8) (r : Chronicle) (chron : Node.Chronicle) : Prop where
  linked : Linked device hub r.state chron
  living : Hub.Living hub device r.state.hub
  accepted : ∀ entry ∈ r.history, ∀ epoch id input, entry.accepts epoch id input →
    ∃ x ∈ chron.history, x.creates epoch id input
  sent : ∀ bytes ∈ r.state.events, SentOf device hub bytes
  owned : ∀ held, Hub.HoldsRecord r.state.hub.image held → held.Owned →
    ∃ event, (∃ entry ∈ chron.history, entry.sends event) ∧ Matches held event

theorem Faithful.nodeStep (h : Faithful device hub r chron) (a : Action) {b : Node.Action}
    (hb : ∀ b', a = .node b' → b' = b) :
    Faithful device hub ⟨r.state.nodeStep device hub b, r.history ++ [⟨r.state, a, r.state.nodeStep device hub b⟩]⟩
      (chron.step device hub b) := by
  refine ⟨h.linked.nodeStep b, h.living, forall_mem_concat ?_ ?_, fun bytes hbytes => ?_, fun held hh ho => ?_⟩
  · intro entry he epoch id input hacc
    obtain ⟨x, hx, hc⟩ := h.accepted entry he epoch id input hacc
    exact ⟨x, List.mem_append_left _ hx, hc⟩
  · rintro epoch id input ⟨⟨b', hb', hinput⟩, hno, hyes⟩
    obtain rfl := hb b' hb'
    refine ⟨_, List.mem_append_right _ List.mem_cons_self, hinput, ?_, ?_⟩
    · rw [h.linked.machine]
      exact hno
    · rw [h.linked.machine]
      exact hyes
  · rcases List.mem_append.1 hbytes with hbytes | hbytes
    · exact h.sent bytes hbytes
    · rw [← h.linked.machine] at hbytes
      exact sentOf_transmit h.linked.consistent (mem_packets.1 hbytes)
  · obtain ⟨event, ⟨entry, he, hse⟩, hm⟩ := h.owned held hh ho
    exact ⟨event, ⟨entry, List.mem_append_left _ he, hse⟩, hm⟩

/-- An entry that leaves the Node as it was accepts nothing. -/
theorem not_accepts_of_same (hnode : x.after.node = x.before.node) {epoch id : UInt32} {input : Node.EventInput} :
    ¬ x.accepts epoch id input := by
  rintro ⟨-, hno, hyes⟩
  rw [hnode] at hyes
  exact hno hyes

theorem Faithful.hubStep (h : Faithful device hub r chron) {a : Action} {b : Hub.Action}
    (hp : Picked c device hub r.state.events b) :
    Faithful device hub ⟨r.state.hubStep device hub b, r.history ++ [⟨r.state, a, r.state.hubStep device hub b⟩]⟩
      chron := by
  obtain ⟨hliving, hmoved, -⟩ := h.living.step b
  refine ⟨h.linked.hubStep b, hliving, forall_mem_concat h.accepted fun epoch id input hacc => ?_, h.sent,
    fun held hh ho => ?_⟩
  · exact absurd hacc (not_accepts_of_same rfl)
  · rcases hmoved.origin held hh ho with ⟨old, hold, hown, hsame, -⟩ | ⟨-, -, event, hevent, hcan⟩
    · obtain ⟨event, hsent, hm⟩ := h.owned old hold hown
      exact ⟨event, hsent, hm.same hsame.symm⟩
    · obtain ⟨hsent, -⟩ := h.linked.picked hp hevent
      exact ⟨event, hsent, matches_of_sameCanonical hcan⟩

theorem Faithful.step (h : Faithful device hub r chron) (a : Action) :
    ∃ chron', Faithful device hub (r.step c device hub a) chron' := by
  refine step_cases (Q := fun st' => ∃ chron', Faithful device hub ⟨st', r.history ++ [⟨r.state, a, st'⟩]⟩ chron')
    r.state a ?_ (fun b _ hb => ⟨_, h.nodeStep a hb⟩) fun b hp _ => ⟨chron, h.hubStep hp⟩
  refine ⟨chron, h.linked, h.living, forall_mem_concat h.accepted fun epoch id input hacc => ?_, h.sent, h.owned⟩
  exact absurd hacc (not_accepts_of_same rfl)

theorem faithful_chronicle {nodeImage hubImage : Image} (hn : Node.Dormant nodeImage) (hh : Hub.Unborn hubImage)
    (actions : List Action) :
    ∃ chron, Faithful device hub (chronicle c device hub nodeImage hubImage actions) chron := by
  unfold chronicle
  refine List.foldlRecOn (motive := fun r => ∃ chron, Faithful device hub r chron) actions _ ?_ fun r hr a _ => ?_
  · refine ⟨⟨.off nodeImage, []⟩, ⟨rfl, Node.consistent_chronicle hn [], rfl⟩, Or.inl ⟨hh, rfl⟩, ?_, ?_, ?_⟩
    · exact fun entry he => (by cases he)
    · exact fun bytes hb => (by cases hb)
    · exact fun held hheld ho => absurd ho (hh.not_owned hheld)
  · obtain ⟨chron, h⟩ := hr
    exact h.step a

/-! ### What the invariant says of one identity -/

/-- The ordinals of a sound ledger are not zero, whatever the flash answers. -/
theorem allocated_ne_zero {l l' : Hub.Ledger} {img : Image} {v : Hub.View} (h : Hub.Sound l img v)
    {ops : List StorageOp} {ordinal : UInt32}
    (hret : Prog.Returns (fun _ _ => True) l.allocateOrdinal ops (l', some ordinal)) : ordinal ≠ 0 := by
  unfold Hub.Ledger.allocateOrdinal at hret
  split at hret
  · cases (Prog.returns_pure.1 hret).2
  rename_i hready
  have hready : l.ordinalReady = true := by simpa using hready
  split at hret
  · dsimp only at hret
    split at hret
    · cases (Prog.returns_pure.1 hret).2
    obtain ⟨⟨l₁, committed⟩, -, ops₂, -, hret, -⟩ := Prog.returns_bind hret
    dsimp only at hret
    split at hret
    · cases (Prog.returns_pure.1 hret).2
    · cases (Prog.returns_pure.1 hret).2
      rintro hzero
      have hmark := Hub.validHighWater_iff.1 h.highWater
      rw [hzero] at hmark
      cases hmark
  · rename_i hend
    cases (Prog.returns_pure.1 hret).2
    exact (h.cursor hready hend).nonzero

/-- The Event in a packet that is made of a valid record is routed from the Node to the Hub. -/
theorem SentOf.routed {bytes : Bytes} (h : SentOf device hub bytes) {event : Event}
    (hdec : decodeEvent bytes = some event) : event.source = device ∧ event.destination = hub := by
  obtain ⟨rec, sequence, hvalid, hown, hbytes⟩ := h
  have hbody := Node.body_of_valid hvalid hown
  have hdec' := decodeEvent_encodeEvent hbytes (by
    change bodyOf ((bodyOf (rec.body.toList.take rec.bodyLength.toNat)).toList.take rec.bodyLength.toNat) =
      bodyOf (rec.body.toList.take rec.bodyLength.toNat)
    rw [hbody, hbody])
  cases hdec.symm.trans hdec'
  exact ⟨rfl, rfl⟩

/-- A packet that is made of a valid record is received. -/
theorem SentOf.received (hd : device ≠ 0 ∧ hub ≠ 0 ∧ device ≠ hub) {m : Hub.Machine} (hm : Hub.Living hub device m)
    {rec : NodeRecord} (hvalid : validateNodeRecord rec = .ok ()) (hown : rec.Owned) {sequence : UInt8} {bytes : Bytes}
    (hbytes : encodeEvent (Node.Ram.eventOf device hub sequence rec) maxPacketSize = some bytes) :
    decodeEvent bytes = some (Node.Ram.eventOf device hub sequence rec) ∧
      Received device hub m.ledger (contentOfNode device rec) bytes := by
  obtain ⟨hdev, hhub, hne⟩ := hd
  set event := Node.Ram.eventOf device hub sequence rec with hevent
  have hcontent := ((validateNodeRecord_iff hdev hown).1 hvalid).2.2
  have hbody : event.body = rec.body := Node.body_of_valid hvalid hown
  have hsame : contentOfEvent event = contentOfNode device rec := by
    simp only [contentOfEvent, hbody]
    rfl
  have hev : (contentOfEvent event).Valid := by
    rw [hsame]
    exact hcontent
  have hok := isValidEvent_of_valid hev hhub hne
  obtain ⟨bytes', hbytes', hshort⟩ := encodeEvent_of_valid hok
  obtain rfl : bytes' = bytes := Option.some.inj (hbytes'.symm.trans hbytes)
  have hdec : decodeEvent bytes' = some event := decodeEvent_encodeEvent hbytes (bodyOf_take hev.tail)
  refine ⟨hdec, hshort, event, receivedEvent_of_routed hdec rfl rfl, family_of_valid hok, hok, hsame,
    welcome_of_valid hev rfl rfl hhub hne, fun ops l' ordinal generation hhealthy hret => ?_⟩
  rcases hm with hasleep | ⟨v, halive⟩
  · rw [hasleep.unhealthy] at hhealthy
    cases hhealthy
  · rw [← hsame]
    exact admittedRecord_encodes hev (allocated_ne_zero (halive.sound hhealthy) hret) generation

theorem contentOfNode_of_recordOf {rec : NodeRecord} {input : Node.EventInput} {epoch id : UInt32}
    (h : Node.RecordOf rec input) (hepoch : rec.eventEpoch = epoch) (hid : rec.eventId = id) :
    contentOfNode device rec = contentOfInput device epoch id input := by
  simp only [contentOfNode, contentOfInput, h.family, h.flags, h.lifetime, h.bodyLength, h.body, hepoch, hid]

/-- The Node's record of an identity has the content that was accepted. -/
theorem Faithful.record (h : Faithful device hub r chron) {x : Node.Entry} (hx : x ∈ chron.history) {epoch id : UInt32}
    {input : Node.EventInput} (hc : x.creates epoch id input) {rec : NodeRecord}
    (hrec : Node.HoldsRecord r.state.node.image rec) (hown : rec.Owned) (hepoch : rec.eventEpoch = epoch)
    (hid : rec.eventId = id) :
    validateNodeRecord rec = .ok () ∧ contentOfNode device rec = contentOfInput device epoch id input := by
  rcases h.linked.consistent with ⟨hasleep, -⟩ | ⟨v, halive, hlog, hfifo, -⟩
  · obtain ⟨slot, copy, hslot⟩ := hrec
    rw [← h.linked.machine] at hslot
    exact absurd (hasleep.dormant slot copy rec hslot) hown
  · rw [← h.linked.machine] at hrec
    obtain ⟨i, rfl⟩ := (Node.holdsRecord_iff halive.stored).1 hrec
    obtain ⟨creation, hcr, input', hc', hof⟩ := hlog.born i hown
    rw [hepoch, hid] at hc'
    obtain rfl := hfifo.input_unique hx hcr hc hc'
    exact ⟨halive.stored.valid i, contentOfNode_of_recordOf hof hepoch hid⟩

/-- The ledger's record of an identity has the content that was accepted. -/
theorem Faithful.ledger (h : Faithful device hub r chron) {x : Node.Entry} (hx : x ∈ chron.history) {epoch id : UInt32}
    {input : Node.EventInput} (hc : x.creates epoch id input) {held : HubRecord}
    (hheld : Hub.HoldsRecord r.state.hub.image held) (hown : held.Owned) (hid : held.identity = ⟨device, epoch, id⟩) :
    contentOfHub held = contentOfInput device epoch id input := by
  obtain ⟨event, ⟨entry, he, hse⟩, hm⟩ := h.owned held hheld hown
  have hfifo := h.linked.consistent.strictFifo
  have hident := hid.symm.trans hm.identity
  obtain ⟨rfl, rfl, rfl⟩ : device = event.source ∧ epoch = event.epoch ∧ id = event.id := by
    simpa [Hub.eventIdentity] using hident
  have hcarries := hfifo.carries he hx hse hc
  obtain ⟨bytes, -, hbytes⟩ := h.linked.transmitted he hse
  have hbody : held.body = event.body := by
    have htail := ((Hub.validateHubRecord_owned hown).1 hheld.valid).2.2
    calc held.body = bodyOf (held.body.toList.take held.bodyLength.toNat) := (bodyOf_take htail).symm
      _ = bodyOf (event.body.toList.take event.bodyLength.toNat) := by rw [hm.bodyLength, hm.body]
      _ = event.body := bodyOf_take (zeroTail_of_decodeEvent hbytes)
  simp only [HubRecord.identity, Identity.mk.injEq] at hid
  simp only [contentOfHub, contentOfInput, hid.1, hid.2.1, hid.2.2, hm.family, hm.flags, hm.lifetime, hm.bodyLength,
    hbody, hcarries.family, hcarries.flags, hcarries.lifetime, hcarries.bodyLength, hcarries.body]

/-- What a poll of the ledger returns is in the flash. -/
theorem holdsRecord_of_oldestActive {m : Hub.Machine} (h : Hub.Living hub device m) {slot : SlotIndex}
    {held : HubRecord} (hpoll : m.ledger.oldestActive = some (slot, held)) : Hub.HoldsRecord m.image held := by
  obtain ⟨hhealthy, hrec, -, -⟩ := Hub.oldestActive_some hpoll
  rcases h with hasleep | ⟨v, halive⟩
  · rw [hasleep.unhealthy] at hhealthy
    cases hhealthy
  · have hsound := halive.sound hhealthy
    exact (Hub.holdsRecord_iff halive.stored).2 ⟨slot, by rw [← hsound.records, hrec]⟩

theorem Faithful.agrees (h : Faithful device hub r chron) (hd : device ≠ 0 ∧ hub ≠ 0 ∧ device ≠ hub) {x : Node.Entry}
    (hx : x ∈ chron.history) {epoch id : UInt32} {input : Node.EventInput} (hc : x.creates epoch id input) :
    Agrees device hub (contentOfInput device epoch id input) r.state := by
  constructor
  · intro rec hrec hown hepoch hid
    obtain ⟨hvalid, hcontent⟩ := h.record hx hc hrec hown hepoch hid
    exact ⟨hcontent, Node.encodeNodeRecord_of_valid hvalid⟩
  · intro rec hrec hown hepoch hid sequence
    obtain ⟨hvalid, hcontent⟩ := h.record hx hc hrec hown hepoch hid
    have hev : (contentOfEvent (Node.Ram.eventOf device hub sequence rec)).Valid := by
      have hbody : (Node.Ram.eventOf device hub sequence rec).body = rec.body := Node.body_of_valid hvalid hown
      simp only [contentOfEvent, hbody]
      exact ((validateNodeRecord_iff hd.1 hown).1 hvalid).2.2
    obtain ⟨bytes, hbytes, -⟩ := encodeEvent_of_valid (isValidEvent_of_valid hev hd.2.1 hd.2.2)
    rw [← hcontent]
    exact ⟨bytes, hbytes, (SentOf.received hd h.living hvalid hown hbytes).2⟩
  · intro bytes hb
    obtain ⟨rec, sequence, hvalid, hown, hbytes⟩ := h.sent bytes hb
    obtain ⟨hdec, hreceived⟩ := SentOf.received hd h.living hvalid hown hbytes
    refine ⟨_, hdec, fun hepoch hid => ?_⟩
    obtain ⟨entry, he, event, hdec', hse⟩ := h.linked.sent hb
    obtain rfl := Option.some.inj (hdec.symm.trans hdec')
    have hcarries := h.linked.consistent.strictFifo.carries he hx hse (by rw [hepoch, hid]; exact hc)
    have hbody : (Node.Ram.eventOf device hub sequence rec).body = rec.body := Node.body_of_valid hvalid hown
    have hof : Node.RecordOf rec input := ⟨hcarries.family, hcarries.flags, hcarries.lifetime, hcarries.bodyLength,
      hbody.symm.trans hcarries.body⟩
    have hcontent : contentOfNode device rec = contentOfInput device epoch id input :=
      contentOfNode_of_recordOf hof hepoch hid
    rw [← hcontent]
    exact hreceived
  · intro held hheld hown hid
    exact ⟨h.ledger hx hc hheld hown hid, Hub.encodeHubRecord_of_valid hheld.valid⟩
  · intro slot held requestId request localDeviceId hpoll hid hreq
    have hheld := holdsRecord_of_oldestActive h.living hpoll
    have hactive := (Hub.oldestActive_some hpoll).2.2.1
    rw [← h.ledger hx hc hheld (Hub.owned_of_active hactive) hid]
    exact shows_of_oldestActive hpoll hheld.valid hreq

/-- **Every validator on the Event path agrees.**  An input that has been accepted in a run is, at the end of the run,
what the Node, the radio, the ledger and the Host have of its identity. -/
theorem validators_agree {nodeImage hubImage : Image} (hd : device ≠ 0 ∧ hub ≠ 0 ∧ device ≠ hub)
    (hn : Node.Dormant nodeImage) (hh : Hub.Unborn hubImage) (c : Channel) (actions : List Action) {creation : Entry}
    (hmem : creation ∈ (chronicle c device hub nodeImage hubImage actions).history) {epoch id : UInt32}
    {input : Node.EventInput} (haccepts : creation.accepts epoch id input) :
    Agrees device hub (contentOfInput device epoch id input) (chronicle c device hub nodeImage hubImage actions).state := by
  have hrun : ∃ chron, Faithful device hub (chronicle c device hub nodeImage hubImage actions) chron :=
    faithful_chronicle hn hh actions
  obtain ⟨chron, h⟩ := hrun
  obtain ⟨x, hx, hc⟩ := h.accepted creation hmem epoch id input haccepts
  exact h.agrees hd hx hc

theorem validators_agree_first_admission :
    ∃ creation ∈ (chronicle .reordering 2 1 blankImage blankImage firstAdmission).history,
      creation.accepts 7 1 ⟨Family.manualCheckIn, 0, 60, 1, bodyOf [1]⟩ ∧
      Agrees 2 1 (contentOfInput 2 7 1 ⟨Family.manualCheckIn, 0, 60, 1, bodyOf [1]⟩)
        (chronicle .reordering 2 1 blankImage blankImage firstAdmission).state := by
  have hmem := List.get_mem (chronicle .reordering 2 1 blankImage blankImage firstAdmission).history
    ⟨2, by decide +kernel⟩
  have haccepts : ((chronicle .reordering 2 1 blankImage blankImage firstAdmission).history.get
      ⟨2, by decide +kernel⟩).accepts 7 1 ⟨Family.manualCheckIn, 0, 60, 1, bodyOf [1]⟩ := by
    refine ⟨⟨_, rfl, rfl⟩, ?_, ?_⟩
    · decide +kernel
    · decide +kernel
  exact ⟨_, hmem, haccepts, validators_agree (by decide) Node.dormant_blank Hub.unborn_blankImage .reordering
    firstAdmission hmem haccepts⟩

end Run

end Redline.Network
