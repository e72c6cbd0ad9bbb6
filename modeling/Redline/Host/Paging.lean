import Mathlib.Data.List.Nodup
import Redline.Host.Exchange
import Redline.Lib.Paging

/-!
# Paging visits everything once

The capabilities of a device and its diagnostics are listed page by page.  A client asks without a cursor first and
then with the cursor of the last page, until a page is marked as the last one.  The cursor is 16 bits in a page of
capabilities, 8 in a page of diagnostics, and 32 in a request.

`paging_visits_everything`: the client sees the registry and the ten metrics, each once and in order, when it asks the
services of a device and when it asks them through the bridge of the Hub.  Between two queries the counters may change:
each page of the diagnostics has them as its own query finds them.
-/

namespace Redline.Host

open Redline.Wire Redline.Lib

/-! ### The lists -/

/-- The identifiers of a registry. -/
def registryIds (registry : CapabilityRegistryView) : List UInt16 :=
  match registry.descriptors with
  | none => []
  | some descriptors => (List.range registry.count.toNat).map fun index => (descriptors index).id

/-- The ten metrics, with the counters that the query for each page finds. -/
def diagnosticEntries (counters : ℕ → DiagnosticCounters) : List DiagnosticEntry :=
  (List.range diagnosticMetricCount).map fun index =>
    ⟨(index + 1).toUInt8, (diagnosticMetrics (counters (index / maxDiagnosticPageEntries))).getD index 0⟩

theorem length_diagnosticEntries (counters : ℕ → DiagnosticCounters) :
    (diagnosticEntries counters).length = diagnosticMetricCount := by
  rw [diagnosticEntries, List.length_map, List.length_range]

/-- The descriptors of a valid registry. -/
theorem validRegistry_cases {registry : CapabilityRegistryView} (h : isValidCapabilityRegistry registry = true) :
    registry.count.toNat ≤ 16 ∧
      ((registry.descriptors = none ∧ registry.count = 0) ∨
        ∃ descriptors, registry.descriptors = some descriptors ∧ ∀ index < registry.count.toNat,
          isValidCapabilityDescriptor (descriptors index) = true ∧
            ∀ previous < index, (descriptors previous).id ≠ (descriptors index).id) := by
  unfold isValidCapabilityRegistry at h
  split at h
  · cases h
  rename_i hcount
  refine ⟨by simpa [maxCapabilities, UInt8.lt_iff_toNat_lt] using hcount, ?_⟩
  cases hd : registry.descriptors with
  | none =>
    rw [hd] at h
    exact Or.inl ⟨rfl, by simpa using h⟩
  | some descriptors =>
    rw [hd] at h
    simp only [Bool.and_eq_true, List.all_eq_true, List.mem_range, bne_iff_ne] at h
    exact Or.inr ⟨descriptors, rfl, fun index hindex => h.2 index hindex⟩

theorem length_registryIds {registry : CapabilityRegistryView} (h : isValidCapabilityRegistry registry = true) :
    (registryIds registry).length = registry.count.toNat := by
  unfold registryIds
  obtain ⟨-, ⟨hd, hcount⟩ | ⟨descriptors, hd, -⟩⟩ := validRegistry_cases h
  · rw [hd, hcount]
    rfl
  · rw [hd, List.length_map, List.length_range]

theorem registryIds_ne_zero {registry : CapabilityRegistryView} (h : isValidCapabilityRegistry registry = true) :
    ∀ id ∈ registryIds registry, id ≠ invalidCapabilityId := by
  unfold registryIds
  obtain ⟨-, ⟨hd, -⟩ | ⟨descriptors, hd, hvalid⟩⟩ := validRegistry_cases h
  · rw [hd]
    simp
  · rw [hd]
    intro id hid
    obtain ⟨index, hindex, rfl⟩ := List.mem_map.1 hid
    have hdescriptor := (hvalid index (List.mem_range.1 hindex)).1
    simp only [isValidCapabilityDescriptor, Bool.and_eq_true, bne_iff_ne, ne_eq] at hdescriptor
    exact hdescriptor.1.1.1.1.1.1.1.1.1.1

/-- No identifier occurs twice. -/
theorem registryIds_nodup {registry : CapabilityRegistryView} (h : isValidCapabilityRegistry registry = true) :
    (registryIds registry).Nodup := by
  unfold registryIds
  obtain ⟨-, ⟨hd, -⟩ | ⟨descriptors, hd, hvalid⟩⟩ := validRegistry_cases h
  · rw [hd]
    exact List.nodup_nil
  · rw [hd]
    refine List.Nodup.map_on ?_ List.nodup_range
    intro i hi j hj hij
    rw [List.mem_range] at hi hj
    by_contra hne
    rcases Nat.lt_or_gt_of_ne hne with hlt | hlt
    · exact (hvalid j hj).2 i hlt hij
    · exact (hvalid i hi).2 j hlt hij.symm

/-! ### Pages of the lists -/

/-- A page of a list that is counted through. -/
theorem take_drop_map_range {α : Type} (f : ℕ → α) {n i : ℕ} (limit : ℕ) (hi : i ≤ n) :
    (((List.range n).map f).drop i).take limit = (List.range' i (min n (i + limit) - i)).map f := by
  rw [← List.map_drop, ← List.map_take, List.range_eq_range', List.drop_range', Nat.zero_add, Nat.mul_one]
  rcases Nat.le_total (n - i) limit with hle | hle
  · rw [List.take_range'_of_length_le hle, Nat.min_eq_left (by omega)]
  · rw [List.take_range'_of_length_ge hle, Nat.min_eq_right (by omega), Nat.add_sub_cancel_left]

theorem getCapabilityByIndex_eq {registry : CapabilityRegistryView} (h : isValidCapabilityRegistry registry = true)
    {descriptors : ℕ → CapabilityDescriptor} (hd : registry.descriptors = some descriptors) {index : ℕ}
    (hindex : index < registry.count.toNat) : getCapabilityByIndex registry index = some (descriptors index) := by
  rw [getCapabilityByIndex, h, if_neg (by simpa using hindex), hd]
  rfl

theorem mapM_eq_some_map {α β : Type} {f : α → Option β} {g : α → β} {xs : List α} (h : ∀ x ∈ xs, f x = some (g x)) :
    xs.mapM f = some (xs.map g) := by
  induction xs with
  | nil => rfl
  | cons x xs ih =>
    rw [List.mapM_cons, h x List.mem_cons_self, ih fun y hy => h y (List.mem_cons_of_mem x hy)]
    rfl

/-- **A page of the registry**, as the service cuts it. -/
theorem capabilityPage_eq {registry : CapabilityRegistryView} (h : isValidCapabilityRegistry registry = true) {i : ℕ}
    (hi : i ≤ registry.count.toNat) :
    capabilityPage registry i = some
      ⟨if registry.count.toNat ≤ i + maxCapabilityPageEntries then capabilityPageEnd
          else (i + maxCapabilityPageEntries).toUInt16,
        ((registryIds registry).drop i).take maxCapabilityPageEntries⟩ := by
  have hids : (List.range' i (min registry.count.toNat (i + maxCapabilityPageEntries) - i)).mapM
      (fun index => (getCapabilityByIndex registry index).map (·.id)) =
        some (((registryIds registry).drop i).take maxCapabilityPageEntries) := by
    unfold registryIds
    obtain ⟨-, ⟨hd, hcount⟩ | ⟨descriptors, hd, -⟩⟩ := validRegistry_cases h
    · rw [hd, hcount, show (0 : UInt8).toNat = 0 from rfl, Nat.zero_min, Nat.zero_sub, List.drop_nil, List.take_nil]
      rfl
    · rw [hd, take_drop_map_range _ _ hi]
      refine mapM_eq_some_map fun index hindex => ?_
      have hindex : index < registry.count.toNat := by
        rw [List.mem_range'_1] at hindex
        omega
      rw [getCapabilityByIndex_eq h hd hindex]
      rfl
  unfold capabilityPage
  dsimp only
  rw [hids, Option.map_some]
  by_cases hlast : registry.count.toNat ≤ i + maxCapabilityPageEntries
  · rw [Nat.min_eq_left hlast, if_pos rfl, if_pos hlast]
  · rw [Nat.min_eq_right (by omega), if_neg (by omega), if_neg hlast]

/-- **A page of the metrics**, as the service cuts it. -/
theorem diagnosticPage_eq (counters : ℕ → DiagnosticCounters) {n : ℕ}
    (hn : maxDiagnosticPageEntries * n ≤ diagnosticMetricCount) :
    diagnosticPage (counters n) (maxDiagnosticPageEntries * n) =
      ⟨if diagnosticMetricCount ≤ maxDiagnosticPageEntries * n + maxDiagnosticPageEntries then diagnosticPageEnd
          else (maxDiagnosticPageEntries * n + maxDiagnosticPageEntries).toUInt8,
        ((diagnosticEntries counters).drop (maxDiagnosticPageEntries * n)).take maxDiagnosticPageEntries⟩ := by
  have hsize : maxDiagnosticPageEntries = 3 := rfl
  unfold diagnosticPage diagnosticEntries
  dsimp only
  rw [take_drop_map_range _ _ hn]
  congr 1
  · by_cases hlast : diagnosticMetricCount ≤ maxDiagnosticPageEntries * n + maxDiagnosticPageEntries
    · rw [Nat.min_eq_left hlast, if_pos rfl, if_pos hlast]
    · rw [Nat.min_eq_right (by omega), if_neg (by omega), if_neg hlast]
  · -- every metric of the page is one that this query reads
    refine List.map_congr_left fun index hindex => ?_
    have hquery : index / maxDiagnosticPageEntries = n := by
      rw [List.mem_range'_1] at hindex
      rw [hsize] at hindex ⊢
      omega
    rw [hquery]

/-! ### The client -/

def cursorValue : Option UInt32 → TypedValue
  | none => noneValue
  | some cursor => uint32Value ValueType.unsigned32 cursor

/-- A list that is read page by page: the operation for a page, and what a client reads in its record. -/
structure Listing (α : Type) where
  category : UInt8
  operation : UInt8
  read : TypedValue → Option (Page α UInt32)

def capabilityListing : Listing UInt16 where
  category := OperationCategory.capability
  operation := OperationCode.getCapabilities
  read value :=
    match decodeCapabilityPageRecord value with
    | .error _ => none
    | .ok page =>
      some ⟨page.capabilityIds, if page.nextCursor = capabilityPageEnd then none else some page.nextCursor.toUInt32⟩

def diagnosticListing : Listing DiagnosticEntry where
  category := OperationCategory.diagnostic
  operation := OperationCode.getDiagnostics
  read value :=
    match decodeDiagnosticPageRecord value with
    | .error _ => none
    | .ok page =>
      some ⟨page.entries, if page.nextCursor = diagnosticPageEnd then none else some page.nextCursor.toUInt32⟩

/-- What the queries of a client meet: each has a request id and a minor version, and finds the device and the clock of
the Hub as they are then. -/
structure Queries (σ : Type) where
  requestId : ℕ → UInt16
  minor : ℕ → UInt8
  context : ℕ → NodeContext
  dev : Device DeviceOp.Reply σ
  hubId : UInt8
  nodeId : UInt8
  now : ℕ → UInt32
  overallTimeout : ℕ → UInt32
  maxRetries : ℕ → UInt8
  explicitlyConfigured : ℕ → Bool

def Queries.counters {σ : Type} (q : Queries σ) (n : ℕ) : DiagnosticCounters := (q.context n).snapshot.counters

/-- The packet after its way over the radio. -/
def overAir (packet : Packet) : Option Packet := (Wire.encode packet Wire.maxPacketSize).bind Wire.decode

namespace Listing

variable {α σ : Type} (l : Listing α) (q : Queries σ)

def request (deviceId : UInt8) (cursor : Option UInt32) : OperationRequest :=
  ⟨l.category, l.operation, deviceId, 0, cursorValue cursor⟩

/-- The page in an OK response. -/
def answer (response : OperationResponse) : Option (Page α UInt32) :=
  if response.resultClass ≠ ResultClass.operationResult ∨ response.resultCode ≠ OperationStatus.ok then none
  else l.read response.value

/-- A query to the services of a device. -/
def askLocal (n : ℕ) (s : σ) (cursor : Option UInt32) : Option (Page α UInt32 × σ) :=
  let c := q.context n
  let (result, t) := (handleLocalOperation (q.requestId n) (l.request c.snapshot.deviceId cursor) c.snapshot
    c.registryValid c.registry c.interlock (q.minor n)).run q.dev s
  if result.disposition ≠ .handled then none else (l.answer result.response).map fun page => (page, t)

/-- The exchange of a query through the bridge. -/
def exchange (n : ℕ) (s : HubBridge × NodeProcessor × σ) (cursor : Option UInt32) : Exchange σ where
  bridge := s.1
  requestId := q.requestId n
  request := l.request q.nodeId cursor
  hubId := q.hubId
  nodeId := q.nodeId
  now := q.now n
  overallTimeout := q.overallTimeout n
  maxRetries := q.maxRetries n
  explicitlyConfigured := q.explicitlyConfigured n
  node := s.2.1
  context := q.context n
  dev := q.dev
  device := s.2.2

/-- A query through the bridge of the Hub: command, acknowledgment and response go over the radio, and every step has
to be the one of an exchange that succeeds. -/
def askRemote (n : ℕ) (s : HubBridge × NodeProcessor × σ) (cursor : Option UInt32) :
    Option (Page α UInt32 × (HubBridge × NodeProcessor × σ)) :=
  let e := l.exchange q n s cursor
  if e.submitted.2.action ≠ .transmitCommand ∨ overAir e.command ≠ some e.command ∨
      e.admitted.2.action ≠ .ackThenExecute ∨ overAir e.admitted.2.acknowledgment ≠ some e.admitted.2.acknowledgment ∨
      e.executed.1.2.action ≠ .responseReady ∨ overAir e.response ≠ some e.response ∨
      e.received.2.action ≠ .hostResponseReady then none
  else (l.answer e.received.2.response).map fun page => (page, (e.received.1, e.executed.1.1, e.executed.2))

end Listing

/-! ### The pages of the services -/

/-- The service reads the position that the cursor stands for. -/
theorem cursor_of_request {request : OperationRequest} {i : ℕ} (hi : i < 2 ^ 32)
    (hvalue : request.value = cursorValue (cursorAt Nat.toUInt32 i)) :
    (if isNoneValue request.value then 0 else readUint32Le request.value.bytes 0).toNat = i := by
  rw [hvalue, cursorAt]
  by_cases h0 : i = 0
  · rw [if_pos h0, h0]
    rfl
  · have hnone : isNoneValue (cursorValue (some i.toUInt32)) = false := rfl
    have hread : readUint32Le (cursorValue (some i.toUInt32)).bytes 0 = i.toUInt32 := uint32_of_bytes i.toUInt32
    rw [if_neg h0, hnone, if_neg (by decide), hread, Nat.toUInt32_eq, UInt32.toNat_ofNat', Nat.mod_eq_of_lt hi]

theorem isPageValue (cursor : Option UInt32) :
    (isNoneValue (cursorValue cursor) || isCursorValue (cursorValue cursor)) = true := by
  cases cursor <;> rfl

/-- A request for a page is valid in every minor version. -/
theorem validateOperationRequest_capabilities (minor deviceId : UInt8) (cursor : Option UInt32) :
    validateOperationRequest minor (capabilityListing.request deviceId cursor) = .ok := by
  have hclass : classifyCategoryOperation minor OperationCategory.capability OperationCode.getCapabilities = .valid :=
    classifyCategoryOperation_valid minor rfl (by decide) rfl
  have hevent : OperationCategory.capability ≠ OperationCategory.event := by decide
  exact validateOperationRequest_of hclass hevent rfl (isPageValue cursor)

theorem validateOperationRequest_diagnostics (minor deviceId : UInt8) (cursor : Option UInt32) :
    validateOperationRequest minor (diagnosticListing.request deviceId cursor) = .ok := by
  have hclass : classifyCategoryOperation minor OperationCategory.diagnostic OperationCode.getDiagnostics = .valid :=
    classifyCategoryOperation_valid minor rfl (by decide) rfl
  have hevent : OperationCategory.diagnostic ≠ OperationCategory.event := by decide
  exact validateOperationRequest_of hclass hevent rfl (isPageValue cursor)

/-- In this context the services answer a query at the cursor with the page. -/
def Listing.Shows {α : Type} (l : Listing α) (c : NodeContext) (cursor : Option UInt32) (page : Page α UInt32) : Prop :=
  ∀ requestId minor, ∃ result,
    handleLocalOperation requestId (l.request c.snapshot.deviceId cursor) c.snapshot c.registryValid c.registry
        c.interlock minor = pure result ∧
      result.disposition = .handled ∧ l.answer result.response = some page

/-- A client reads the record of a result. -/
theorem answer_setRecord {α : Type} {l : Listing α} {value : TypedValue} {page : Page α UInt32}
    (h : l.read value = some page) (result : ServiceResult) :
    (setRecord result (.ok value)).disposition = .handled ∧
      l.answer (setRecord result (.ok value)).response = some page := by
  refine ⟨rfl, ?_⟩
  rw [Listing.answer, if_neg]
  · exact h
  · simp [setRecord, setOperationResult]

/-- The cursor of a page of capabilities has 16 bits, and a position is not the mark of the last page. -/
theorem capabilityCursor {k : ℕ} (h : k < 0xFFFF) :
    k.toUInt16 ≠ capabilityPageEnd ∧ k.toUInt16.toUInt32 = k.toUInt32 := by
  have hk : k.toUInt16.toNat = k := by
    rw [Nat.toUInt16_eq, UInt16.toNat_ofNat', Nat.mod_eq_of_lt (by omega)]
  constructor
  · intro hc
    rw [hc, show capabilityPageEnd.toNat = 0xFFFF from rfl] at hk
    omega
  · apply UInt32.toNat_inj.1
    rw [UInt16.toNat_toUInt32, hk, Nat.toUInt32_eq, UInt32.toNat_ofNat', Nat.mod_eq_of_lt (by omega)]

/-- The cursor of a page of diagnostics has 8. -/
theorem diagnosticCursor {k : ℕ} (h : k < 0xFF) :
    k.toUInt8 ≠ diagnosticPageEnd ∧ k.toUInt8.toUInt32 = k.toUInt32 := by
  have hk : k.toUInt8.toNat = k := by
    rw [Nat.toUInt8_eq, UInt8.toNat_ofNat', Nat.mod_eq_of_lt (by omega)]
  constructor
  · intro hc
    rw [hc, show diagnosticPageEnd.toNat = 0xFF from rfl] at hk
    omega
  · apply UInt32.toNat_inj.1
    rw [UInt8.toNat_toUInt32, hk, Nat.toUInt32_eq, UInt32.toNat_ofNat', Nat.mod_eq_of_lt (by omega)]

theorem read_capabilityPage {registry : CapabilityRegistryView} (h : isValidCapabilityRegistry registry = true) {i : ℕ}
    {r : CapabilityPageRecord} (hr : capabilityPage registry i = some r) (hi : i ≤ registry.count.toNat) :
    ∃ value, encodeCapabilityPageRecord r = .ok value ∧ capabilityListing.read value =
      some (pageAt Nat.toUInt32 maxCapabilityPageEntries (registryIds registry) i) := by
  have hcount := (validRegistry_cases h).1
  rw [capabilityPage_eq h hi, Option.some.injEq] at hr
  obtain ⟨value, hencode⟩ : ∃ value, encodeCapabilityPageRecord r = .ok value := by
    rw [← hr, encodeCapabilityPageRecord, if_neg, if_neg]
    · exact ⟨_, rfl⟩
    · simp only [List.any_eq_true, beq_iff_eq, not_exists, not_and]
      intro id hid
      exact registryIds_ne_zero h id (List.mem_of_mem_drop (List.mem_of_mem_take hid))
    · rw [not_lt]
      exact List.length_take_le _ _
  refine ⟨value, hencode, ?_⟩
  simp only [capabilityListing, decodeCapabilityPageRecord_encode hencode, pageAt, length_registryIds h]
  rw [← hr]
  by_cases hlast : registry.count.toNat ≤ i + maxCapabilityPageEntries
  · simp only [if_pos hlast]
    rfl
  · obtain ⟨hne, hwide⟩ := capabilityCursor (k := i + maxCapabilityPageEntries) (by omega)
    simp only [if_neg hlast, if_neg hne, hwide]

theorem read_diagnosticPage (counters : ℕ → DiagnosticCounters) {n : ℕ}
    (hn : maxDiagnosticPageEntries * n ≤ diagnosticMetricCount) :
    ∃ value, encodeDiagnosticPageRecord (diagnosticPage (counters n) (maxDiagnosticPageEntries * n)) = .ok value ∧
      diagnosticListing.read value = some (pageAt Nat.toUInt32 maxDiagnosticPageEntries (diagnosticEntries counters)
        (maxDiagnosticPageEntries * n)) := by
  have hcount : diagnosticMetricCount = 10 := rfl
  rw [diagnosticPage_eq counters hn]
  generalize maxDiagnosticPageEntries * n = i at hn
  obtain ⟨r, hr⟩ : ∃ r : DiagnosticPageRecord, r =
      ⟨if diagnosticMetricCount ≤ i + maxDiagnosticPageEntries then diagnosticPageEnd
        else (i + maxDiagnosticPageEntries).toUInt8,
      ((diagnosticEntries counters).drop i).take maxDiagnosticPageEntries⟩ := ⟨_, rfl⟩
  rw [← hr]
  obtain ⟨value, hencode⟩ : ∃ value, encodeDiagnosticPageRecord r = .ok value := by
    rw [hr, encodeDiagnosticPageRecord, if_neg]
    · exact ⟨_, rfl⟩
    · rw [not_lt]
      exact List.length_take_le _ _
  refine ⟨value, hencode, ?_⟩
  simp only [diagnosticListing, decodeDiagnosticPageRecord_encode hencode, pageAt, length_diagnosticEntries]
  rw [hr]
  by_cases hlast : diagnosticMetricCount ≤ i + maxDiagnosticPageEntries
  · simp only [if_pos hlast]
    rfl
  · obtain ⟨hne, hwide⟩ := diagnosticCursor (k := i + maxDiagnosticPageEntries) (by omega)
    simp only [if_neg hlast, if_neg hne, hwide]

/-- A valid request for a page of capabilities is served from the registry. -/
theorem handleLocalOperation_capabilities {request : OperationRequest} {c : NodeContext}
    (hvalid : validateOperationRequest versionMinor01 request = .ok)
    (hcategory : request.category = OperationCategory.capability)
    (hop : request.operation = OperationCode.getCapabilities)
    (hdevice : request.targetDeviceId = c.snapshot.deviceId) (requestId : UInt16) (minor : UInt8) :
    handleLocalOperation requestId request c.snapshot c.registryValid c.registry c.interlock minor =
      pure (handleGetCapabilities { makeBaseResult requestId request with disposition := .handled } request
        c.registryValid c.registry) := by
  unfold handleLocalOperation
  rw [if_pos hcategory]
  unfold handleLocalCapability
  simp only [hvalid]
  rw [if_neg (not_not.2 rfl), if_neg (not_not.2 hcategory), if_neg (not_not.2 hdevice), if_pos hop]

/-- One for a page of diagnostics is served from the counters. -/
theorem handleLocalOperation_diagnostics {request : OperationRequest} {c : NodeContext} (minor : UInt8)
    (hvalid : validateOperationRequest minor request = .ok)
    (hcategory : request.category = OperationCategory.diagnostic)
    (hdevice : request.targetDeviceId = c.snapshot.deviceId) (requestId : UInt16) :
    handleLocalOperation requestId request c.snapshot c.registryValid c.registry c.interlock minor =
      pure (deviceResult (makeBaseResult requestId request) request c.snapshot) := by
  have hother : ¬ request.category = OperationCategory.capability := by
    rw [hcategory]
    decide
  unfold handleLocalOperation
  rw [if_neg hother]
  unfold handleLocalDeviceOrDiagnostic
  simp only [hvalid]
  rw [if_neg (not_not.2 rfl), if_neg (fun hc => hc.2 hcategory), if_neg (not_not.2 hdevice)]

/-- **A page of the capabilities.** -/
theorem capabilities_shown {c : NodeContext} (hvalid : c.registryValid = true)
    (h : isValidCapabilityRegistry c.registry = true) {i : ℕ} (hi : i ≤ (registryIds c.registry).length) :
    capabilityListing.Shows c (cursorAt Nat.toUInt32 i)
      (pageAt Nat.toUInt32 maxCapabilityPageEntries (registryIds c.registry) i) := by
  intro requestId minor
  have hcount := (validRegistry_cases h).1
  rw [length_registryIds h] at hi
  obtain ⟨value, hencode, hread⟩ := read_capabilityPage h (capabilityPage_eq h hi) hi
  obtain ⟨request, hrequest⟩ : ∃ request, request =
      capabilityListing.request c.snapshot.deviceId (cursorAt Nat.toUInt32 i) := ⟨_, rfl⟩
  have hserved := handleLocalOperation_capabilities (c := c) (hrequest ▸ validateOperationRequest_capabilities _ _ _)
    (by rw [hrequest]; rfl) (by rw [hrequest]; rfl) (by rw [hrequest]; rfl) requestId minor
  have hresult : ∀ result, handleGetCapabilities result request c.registryValid c.registry =
      setRecord result (.ok value) := by
    intro result
    unfold handleGetCapabilities
    dsimp only
    rw [hvalid, h, if_neg (by decide), cursor_of_request (i := i) (by omega) (by rw [hrequest]; rfl),
      if_neg (not_lt.2 hi), capabilityPage_eq h hi]
    dsimp only
    rw [hencode]
  rw [← hrequest]
  exact ⟨_, by rw [hserved, hresult], answer_setRecord hread _⟩

/-- **A page of the diagnostics.** -/
theorem diagnostics_shown (context : ℕ → NodeContext) {n : ℕ}
    (hn : maxDiagnosticPageEntries * n ≤ diagnosticMetricCount) :
    diagnosticListing.Shows (context n) (cursorAt Nat.toUInt32 (maxDiagnosticPageEntries * n))
      (pageAt Nat.toUInt32 maxDiagnosticPageEntries (diagnosticEntries fun n => (context n).snapshot.counters)
        (maxDiagnosticPageEntries * n)) := by
  intro requestId minor
  have hmetrics : diagnosticMetricCount = 10 := rfl
  obtain ⟨value, hencode, hread⟩ := read_diagnosticPage (fun n => (context n).snapshot.counters) hn
  obtain ⟨request, hrequest⟩ : ∃ request, request = diagnosticListing.request (context n).snapshot.deviceId
      (cursorAt Nat.toUInt32 (maxDiagnosticPageEntries * n)) := ⟨_, rfl⟩
  have hop : request.operation = OperationCode.getDiagnostics := by
    rw [hrequest]
    rfl
  have hserved := handleLocalOperation_diagnostics (c := context n) minor
    (hrequest ▸ validateOperationRequest_diagnostics _ _ _) (by rw [hrequest]; rfl) (by rw [hrequest]; rfl) requestId
  have hresult : ∀ result, deviceResult result request (context n).snapshot = setRecord result (.ok value) := by
    intro result
    unfold deviceResult
    dsimp only
    rw [hop, if_neg (by decide), if_neg (by decide), if_neg (by decide), if_neg (by decide),
      cursor_of_request (i := maxDiagnosticPageEntries * n) (by omega) (by rw [hrequest]; rfl), if_neg (not_lt.2 hn),
      hencode]
  rw [← hrequest]
  exact ⟨_, by rw [hserved, hresult], answer_setRecord hread _⟩

/-! ### The queries of a client -/

/-- Query after query the services show the list, each time the page that the query asks for. -/
structure Listing.Lists {α : Type} (l : Listing α) (context : ℕ → NodeContext) (limit : ℕ) (items : List α) : Prop where
  positive : 0 < limit
  short : items.length + limit < 2 ^ 32
  served : ServedLocally l.operation
  valid : ∀ minor deviceId cursor, validateOperationRequest minor (l.request deviceId cursor) = .ok
  pages : ∀ n, limit * n ≤ items.length →
    l.Shows (context n) (cursorAt Nat.toUInt32 (limit * n)) (pageAt Nat.toUInt32 limit items (limit * n))

theorem capabilities_listed {context : ℕ → NodeContext} {registry : CapabilityRegistryView}
    (h : isValidCapabilityRegistry registry = true)
    (hcontext : ∀ n, (context n).registryValid = true ∧ (context n).registry = registry) :
    capabilityListing.Lists context maxCapabilityPageEntries (registryIds registry) where
  positive := by decide
  short := by
    have hcount := (validRegistry_cases h).1
    rw [length_registryIds h, show maxCapabilityPageEntries = 9 from rfl]
    omega
  served := by simp [ServedLocally, capabilityListing]
  valid := validateOperationRequest_capabilities
  pages := by
    intro n hn
    obtain ⟨hvalid, hregistry⟩ := hcontext n
    rw [← hregistry] at h hn ⊢
    exact capabilities_shown hvalid h hn

theorem diagnostics_listed (context : ℕ → NodeContext) :
    diagnosticListing.Lists context maxDiagnosticPageEntries
      (diagnosticEntries fun n => (context n).snapshot.counters) where
  positive := by decide
  short := by
    rw [length_diagnosticEntries]
    decide
  served := by simp [ServedLocally, diagnosticListing]
  valid := validateOperationRequest_diagnostics
  pages := by
    intro n hn
    rw [length_diagnosticEntries] at hn
    exact diagnostics_shown context hn

section Visits

variable {α σ : Type} {l : Listing α} {q : Queries σ} {limit : ℕ} {items : List α}

/-- **A client of the services sees the whole list.** -/
theorem visits_local (h : l.Lists q.context limit items) (s : σ) : Visits (l.askLocal q) s items := by
  have hserves : Serves (l.askLocal q) Nat.toUInt32 limit items fun n _ i => i = limit * n := by
    constructor
    rintro n s i rfl hi
    obtain ⟨result, hserved, hhandled, hanswer⟩ := h.pages n hi (q.requestId n) (q.minor n)
    refine ⟨s, ?_, (Nat.mul_succ limit n).symm⟩
    unfold Listing.askLocal
    dsimp only
    rw [hserved, Prog.run_pure]
    dsimp only
    rw [if_neg (not_not.2 hhandled), hanswer]
    rfl
  exact visits_of_serves hserves h.positive (Nat.mul_zero limit).symm

/-- Different positions have different cursors. -/
theorem cursorValue_ne {i j : ℕ} (hi : i < 2 ^ 32) (hj : j < 2 ^ 32) (hne : i ≠ j) :
    cursorValue (cursorAt Nat.toUInt32 i) ≠ cursorValue (cursorAt Nat.toUInt32 j) := by
  intro hvalue
  obtain ⟨request, hrequest⟩ : ∃ request : OperationRequest, request.value = cursorValue (cursorAt Nat.toUInt32 i) :=
    ⟨capabilityListing.request 0 _, rfl⟩
  have hread := cursor_of_request hi hrequest
  rw [cursor_of_request hj (hrequest.trans hvalue)] at hread
  exact hne hread.symm

theorem overAir_of_carried {packet : Packet} (h : Exchange.Carried packet) : overAir packet = some packet := by
  obtain ⟨bytes, hencode, -, hdecode⟩ := h
  rw [overAir, hencode]
  exact hdecode

/-- **A query through the bridge** is answered as the services of the Node answer it. -/
theorem askRemote_eq {n : ℕ} {s : HubBridge × NodeProcessor × σ} {cursor : Option UInt32} {page : Page α UInt32}
    (h : (l.exchange q n s cursor).Remote) (hfree : (l.exchange q n s cursor).Free) (hop : ServedLocally l.operation)
    (hshows : l.Shows (q.context n) cursor page) :
    l.askRemote q n s cursor = some (page, (l.exchange q n s cursor).received.1, (l.exchange q n s cursor).executed.1.1,
      (l.exchange q n s cursor).executed.2) := by
  have hanswers := Exchange.answers h hop hfree
  have hcommands := Exchange.commands h
  have hack : overAir (l.exchange q n s cursor).admitted.2.acknowledgment =
      some (l.exchange q n s cursor).admitted.2.acknowledgment := by
    have hone : 1 ≤ Wire.maxPayloadSize := by decide
    rw [Exchange.admitted_eq h hfree]
    exact overAir_of_carried (Exchange.carried_of_short hone)
  have hpage : l.answer (l.exchange q n s cursor).received.2.response = some page := by
    obtain ⟨result, hserved, -, hanswer⟩ := hshows 0 versionMinor01
    have hresult : (l.exchange q n s cursor).localResult 0 = (result, s.2.2) :=
      congrArg (fun program => Prog.run q.dev program s.2.2) hserved
    rw [Listing.answer, hanswers.resultClass 0, hanswers.resultCode 0, hanswers.value 0, hresult]
    exact hanswer
  unfold Listing.askRemote
  dsimp only
  rw [if_neg, hpage]
  · rfl
  · simp only [hcommands.action, overAir_of_carried hcommands.carried, hanswers.admitted, hack, hanswers.executed,
      overAir_of_carried hanswers.carried, hanswers.received, ne_eq, not_true_eq_false, or_self, not_false_eq_true]

/-- **A client of the bridge sees the whole list**, once its first query can be made. -/
theorem visits_remote (h : l.Lists q.context limit items) {s : HubBridge × NodeProcessor × σ}
    (hremote : (l.exchange q 0 s none).Remote) (hfree : (l.exchange q 0 s none).Free) :
    Visits (l.askRemote q) s items := by
  have hserves : Serves (l.askRemote q) Nat.toUInt32 limit items fun n s i => i = limit * n ∧
      (l.exchange q n s (cursorAt Nat.toUInt32 i)).Remote ∧ (l.exchange q n s (cursorAt Nat.toUInt32 i)).Free := by
    constructor
    rintro n s i ⟨rfl, hremote, hfree⟩ hi
    refine ⟨_, askRemote_eq hremote hfree h.served (h.pages n hi), (Nat.mul_succ limit n).symm, ?_⟩
    -- the next query begins where this one has ended, at another position
    have hshort := h.short
    have hpositive := h.positive
    have hnext : Exchange.Follows (l.exchange q (n + 1)
        ((l.exchange q n s (cursorAt Nat.toUInt32 (limit * n))).received.1,
          (l.exchange q n s (cursorAt Nat.toUInt32 (limit * n))).executed.1.1,
          (l.exchange q n s (cursorAt Nat.toUInt32 (limit * n))).executed.2)
        (cursorAt Nat.toUInt32 (limit * n + limit))) (l.exchange q n s (cursorAt Nat.toUInt32 (limit * n))) :=
      { bridge := rfl, node := rfl, hubId := rfl, nodeId := rfl, valid := h.valid _ _ _, peer := rfl
        differs := cursorValue_ne (by omega) (by omega) (by omega) }
    exact ⟨hnext.remote hremote hfree, hnext.free hremote hfree⟩
  exact visits_of_serves hserves h.positive ⟨(Nat.mul_zero limit).symm, hremote, hfree⟩

end Visits

/-- Paging visits everything once. -/
structure VisitsEverything {σ : Type} (q : Queries σ) (registry : CapabilityRegistryView) : Prop where
  ids : (registryIds registry).Nodup
  metrics : (diagnosticEntries q.counters).map (·.metricId) = [1, 2, 3, 4, 5, 6, 7, 8, 9, 10]
  snapshot : ∀ counters, (∀ n, q.counters n = counters) →
    (diagnosticEntries q.counters).map (·.value) = diagnosticMetrics counters
  localCapabilities : ∀ s, Visits (capabilityListing.askLocal q) s (registryIds registry)
  localDiagnostics : ∀ s, Visits (diagnosticListing.askLocal q) s (diagnosticEntries q.counters)
  remoteCapabilities : ∀ s, (capabilityListing.exchange q 0 s none).Remote →
    (capabilityListing.exchange q 0 s none).Free → Visits (capabilityListing.askRemote q) s (registryIds registry)
  remoteDiagnostics : ∀ s, (diagnosticListing.exchange q 0 s none).Remote →
    (diagnosticListing.exchange q 0 s none).Free →
    Visits (diagnosticListing.askRemote q) s (diagnosticEntries q.counters)

/-- **Paging visits everything once**, for every valid registry and whatever the counters are at each query: a client
that follows the cursors comes to an end, with the identifiers of the registry in order and the ten metrics in order.
Through the bridge this takes an idle bridge that may start with the first query, and a Node with nothing to execute
that does not hold that query from before. -/
theorem paging_visits_everything {σ : Type} (q : Queries σ) {registry : CapabilityRegistryView}
    (h : isValidCapabilityRegistry registry = true)
    (hcontext : ∀ n, (q.context n).registryValid = true ∧ (q.context n).registry = registry) :
    VisitsEverything q registry where
  ids := registryIds_nodup h
  metrics := rfl
  snapshot := by
    intro counters hcounters
    simp only [diagnosticEntries, hcounters]
    rfl
  localCapabilities := visits_local (capabilities_listed h hcontext)
  localDiagnostics := visits_local (diagnostics_listed q.context)
  remoteCapabilities := fun _ => visits_remote (capabilities_listed h hcontext)
  remoteDiagnostics := fun _ => visits_remote (diagnostics_listed q.context)

/-- Eleven indicators, which take two pages. -/
def indicators : CapabilityRegistryView where
  descriptors := some fun index =>
    { id := (index + 1).toUInt16, capabilityClass := CapabilityClass.indicatorOutput
      operationFlags := OperationFlag.describe ||| OperationFlag.set, valueType := ValueType.boolean
      authorizationPolicyId := 0, safetyPolicyId := 0, unitCode := 0, metadataFlags := 0, reserved := 0
      minimumBits := 0, maximumBits := 1 }
  count := 11

/-- The queries of a Hub that may start with any operation. -/
def indicatorQueries : Queries Unit where
  requestId n := n.toUInt16 + 1
  minor _ := versionMinor01
  context _ := ⟨default, true, indicators, .clear⟩
  dev := mute
  hubId := 1
  nodeId := 2
  now _ := 0
  overallTimeout _ := 1000
  maxRetries _ := 2
  explicitlyConfigured _ := true

theorem paging_visits_everything_indicators :
    Visits (capabilityListing.askLocal indicatorQueries) () [1, 2, 3, 4, 5, 6, 7, 8, 9, 10, 11] ∧
      Visits (capabilityListing.askRemote indicatorQueries) (.initial, .initial, ())
        [1, 2, 3, 4, 5, 6, 7, 8, 9, 10, 11] ∧
      Visits (diagnosticListing.askRemote indicatorQueries) (.initial, .initial, ())
        (diagnosticEntries indicatorQueries.counters) :=
  have h := paging_visits_everything indicatorQueries (show isValidCapabilityRegistry indicators = true by decide)
    fun _ => ⟨rfl, rfl⟩
  ⟨h.localCapabilities (),
    h.remoteCapabilities (.initial, .initial, ()) ⟨.initial, rfl, rfl, by decide, rfl, by decide⟩
      ⟨⟨[], trivial, rfl⟩, rfl, rfl⟩,
    h.remoteDiagnostics (.initial, .initial, ()) ⟨.initial, rfl, rfl, by decide, rfl, by decide⟩
      ⟨⟨[], trivial, rfl⟩, rfl, rfl⟩⟩

end Redline.Host
