import Redline.Host.Services
import Redline.Records.Codec

/-!
# The records of the responses

Each record that a local service puts into a response passes the check that the encoder of responses makes of it:
`isValidStructureValue` for the operation it belongs to, and no more than 111 bytes.  For the records that the check
decodes again this is a round trip.

The words at the end of a record are read back by `readUint16Le_flatMap` and `readUint32Le_flatMap`, the entries of a
page by `flatMap_split`.
-/

namespace Redline.Host

open Redline.Wire Redline.Records

/-! ### Words in a row -/

/-- The length of fields of one width in a row. -/
theorem length_flatMap_width {α : Type} {write : α → Bytes} {width : ℕ} (hwidth : ∀ a, (write a).length = width)
    (items : List α) : (items.flatMap write).length = width * items.length := by
  induction items with
  | nil => rfl
  | cons a items ih =>
    rw [List.flatMap_cons, List.length_append, hwidth, ih, List.length_cons, Nat.mul_succ, Nat.add_comm]

/-- Fields of one width in a row, split at one of them. -/
theorem flatMap_split {α : Type} {write : α → Bytes} {width : ℕ} (hwidth : ∀ a, (write a).length = width) {p : Bytes}
    {n : ℕ} (hp : p.length = n) (items : List α) {i : ℕ} (hi : i < items.length) :
    ∃ q rest, p ++ items.flatMap write = q ++ (write items[i] ++ rest) ∧ q.length = n + width * i := by
  refine ⟨p ++ (items.take i).flatMap write, (items.drop (i + 1)).flatMap write, ?_, ?_⟩
  · have hsplit : items = items.take i ++ items[i] :: items.drop (i + 1) := by
      rw [List.getElem_cons_drop, List.take_append_drop]
    conv_lhs => rw [hsplit]
    rw [List.flatMap_append, List.flatMap_cons, List.append_assoc]
  · rw [List.length_append, hp, length_flatMap_width hwidth, List.length_take, Nat.min_eq_left (Nat.le_of_lt hi)]

theorem readUint16Le_flatMap {p : Bytes} {n : ℕ} (hp : p.length = n) (words : List UInt16) {i : ℕ}
    (hi : i < words.length) : readUint16Le (p ++ words.flatMap writeUint16Le) (n + 2 * i) = words[i] := by
  obtain ⟨q, rest, hsplit, hq⟩ := flatMap_split length_writeUint16Le hp words hi
  rw [hsplit]
  exact readUint16Le_write hq _ _

theorem readUint32Le_flatMap {p : Bytes} {n : ℕ} (hp : p.length = n) (words : List UInt32) {i : ℕ}
    (hi : i < words.length) : readUint32Le (p ++ words.flatMap writeUint32Le) (n + 4 * i) = words[i] := by
  obtain ⟨q, rest, hsplit, hq⟩ := flatMap_split length_writeUint32Le hp words hi
  rw [hsplit]
  exact readUint32Le_write hq _ _

/-! ### The diagnostics -/

theorem decodeEventDiagnosticsRecord_encode {r : EventDiagnosticsRecord} {value : TypedValue}
    (h : encodeEventDiagnosticsRecord r = .ok value) : value.type = structureValueType ∧
      value.bytes.length = eventDiagnosticsRecordSize ∧ decodeEventDiagnosticsRecord value = .ok r := by
  unfold encodeEventDiagnosticsRecord at h
  split at h
  · cases h
  rename_i hvalid
  obtain ⟨bytes, hbytes⟩ : ∃ bytes, bytes = eventDiagnosticsHead r ++ r.counters.toList.flatMap writeUint32Le :=
    ⟨_, rfl⟩
  rw [← hbytes] at h
  cases h
  have hhead : (eventDiagnosticsHead r).length = 51 := rfl
  have hlen : bytes.length = eventDiagnosticsRecordSize := by
    rw [hbytes, List.length_append, length_flatMap_width length_writeUint32Le, hhead, Vector.length_toList]
    rfl
  refine ⟨rfl, hlen, ?_⟩
  have hcounters : (Vector.ofFn fun i : Fin 15 => readUint32Le bytes (51 + 4 * i)) = r.counters := by
    refine Vector.ext fun i hi => ?_
    rw [Vector.getElem_ofFn, hbytes, readUint32Le_flatMap hhead _ (by simpa using hi), Vector.getElem_toList]
  have hread : bytes = eventDiagnosticsHead r ++ r.counters.toList.flatMap writeUint32Le := hbytes
  simp only [eventDiagnosticsHead, identityBytes, writeUint32Le, List.cons_append, List.nil_append] at hread
  unfold decodeEventDiagnosticsRecord
  rw [if_neg (by simp [hlen])]
  dsimp only
  rw [hcounters, hread]
  simp only [readIdentity, readUint32Le, byteAt, List.getD_cons_succ, List.getD_cons_zero, uint32_of_bytes,
    Nat.reduceAdd]
  exact if_neg hvalid

theorem decodeEventTxDiagnostics_encode {role : UInt8} {s : EventTxSnapshot} {value : TypedValue}
    (h : encodeEventTxDiagnostics role s = .ok value) : value.type = structureValueType ∧
      value.bytes.length = eventTxDiagnosticsSize ∧ decodeEventTxDiagnostics value = .ok (role, s) := by
  unfold encodeEventTxDiagnostics at h
  split at h
  · cases h
  rename_i hvalid
  obtain ⟨bytes, hbytes⟩ : ∃ bytes, bytes = eventTxHead role s ++ s.counters.toList.flatMap writeUint16Le := ⟨_, rfl⟩
  rw [← hbytes] at h
  cases h
  have hhead : (eventTxHead role s).length = 39 := rfl
  have hlen : bytes.length = eventTxDiagnosticsSize := by
    rw [hbytes, List.length_append, length_flatMap_width length_writeUint16Le, hhead, Vector.length_toList]
    rfl
  refine ⟨rfl, hlen, ?_⟩
  have hcounters : (Vector.ofFn fun i : Fin 30 => readUint16Le bytes (39 + 2 * i)) = s.counters := by
    refine Vector.ext fun i hi => ?_
    rw [Vector.getElem_ofFn, hbytes, readUint16Le_flatMap hhead _ (by simpa using hi), Vector.getElem_toList]
  have hread : bytes = eventTxHead role s ++ s.counters.toList.flatMap writeUint16Le := hbytes
  simp only [eventTxHead, writeUint32Le, writeUint16Le, List.cons_append, List.nil_append] at hread
  have havailable : ((if s.available then (1 : UInt8) else 0) != 0) = s.available := by
    cases s.available <;> rfl
  unfold decodeEventTxDiagnostics
  rw [if_neg]
  · dsimp only
    rw [hcounters, hread]
    simp only [readUint32Le, readUint16Le, byteAt, List.getD_cons_succ, List.getD_cons_zero, uint32_of_bytes,
      uint16_of_bytes, Nat.reduceAdd, havailable]
    exact if_neg hvalid
  · rw [hlen, hread]
    simp only [byteAt, List.getD_cons_succ, List.getD_cons_zero]
    cases s.available <;> simp

/-! ### Pages -/

theorem decodeCapabilityPageRecord_encode {r : CapabilityPageRecord} {value : TypedValue}
    (h : encodeCapabilityPageRecord r = .ok value) : decodeCapabilityPageRecord value = .ok r := by
  unfold encodeCapabilityPageRecord at h
  split at h
  · cases h
  rename_i hcount
  split at h
  · cases h
  rename_i hids
  obtain ⟨bytes, hbytes⟩ : ∃ bytes, bytes = writeUint16Le r.nextCursor ++ [r.capabilityIds.length.toUInt8] ++
      r.capabilityIds.flatMap writeUint16Le := ⟨_, rfl⟩
  rw [← hbytes] at h
  cases h
  have hcount : r.capabilityIds.length ≤ 9 := not_lt.1 hcount
  have hhead : (writeUint16Le r.nextCursor ++ [r.capabilityIds.length.toUInt8]).length = 3 := rfl
  have hlen : bytes.length = 3 + 2 * r.capabilityIds.length := by
    rw [hbytes, List.length_append, length_flatMap_width length_writeUint16Le, hhead]
  have hbyte : (byteAt bytes 2).toNat = r.capabilityIds.length := by
    rw [hbytes]
    change (r.capabilityIds.length.toUInt8).toNat = _
    rw [Nat.toUInt8_eq, UInt8.toNat_ofNat']
    omega
  have hcursor : readUint16Le bytes 0 = r.nextCursor := by
    rw [hbytes]
    exact uint16_of_bytes r.nextCursor
  have hread : ((List.range r.capabilityIds.length).map fun index => readUint16Le bytes (3 + 2 * index)) =
      r.capabilityIds := by
    refine List.ext_getElem (by simp) fun i hi hi' => ?_
    rw [List.getElem_map, List.getElem_range, hbytes, readUint16Le_flatMap hhead _ hi']
  have hshape : ¬ (structureValueType ≠ structureValueType ∨ bytes.length < 3 ∨ 21 < bytes.length ∨
      (bytes.length - 3) % 2 ≠ 0) := by
    rw [hlen, ne_self_iff_false, false_or]
    omega
  have hfits : ¬ (maxCapabilityPageEntries < (byteAt bytes 2).toNat ∨
      bytes.length ≠ 3 + 2 * (byteAt bytes 2).toNat) := by
    rw [hbyte, hlen, show maxCapabilityPageEntries = 9 from rfl]
    omega
  unfold decodeCapabilityPageRecord
  dsimp only
  rw [if_neg hshape, if_neg hfits, hbyte, hread, if_neg hids, hcursor]

theorem decodeDiagnosticPageRecord_encode {r : DiagnosticPageRecord} {value : TypedValue}
    (h : encodeDiagnosticPageRecord r = .ok value) : decodeDiagnosticPageRecord value = .ok r := by
  unfold encodeDiagnosticPageRecord at h
  split at h
  · cases h
  rename_i hcount
  have hwidth : ∀ e : DiagnosticEntry, (e.metricId :: writeUint32Le e.value).length = 5 := fun _ => rfl
  obtain ⟨bytes, hbytes⟩ : ∃ bytes, bytes = [r.nextCursor, r.entries.length.toUInt8] ++
      r.entries.flatMap fun e => e.metricId :: writeUint32Le e.value := ⟨_, rfl⟩
  rw [← hbytes] at h
  cases h
  have hcount : r.entries.length ≤ 3 := not_lt.1 hcount
  have hhead : [r.nextCursor, r.entries.length.toUInt8].length = 2 := rfl
  have hlen : bytes.length = 2 + 5 * r.entries.length := by
    rw [hbytes, List.length_append, length_flatMap_width hwidth, hhead]
  have hbyte : (byteAt bytes 1).toNat = r.entries.length := by
    rw [hbytes]
    change (r.entries.length.toUInt8).toNat = _
    rw [Nat.toUInt8_eq, UInt8.toNat_ofNat']
    omega
  have hcursor : byteAt bytes 0 = r.nextCursor := by
    rw [hbytes]
    rfl
  have hread : ((List.range r.entries.length).map fun index =>
      (⟨byteAt bytes (2 + 5 * index), readUint32Le bytes (3 + 5 * index)⟩ : DiagnosticEntry)) = r.entries := by
    refine List.ext_getElem (by simp) fun i hi hi' => ?_
    obtain ⟨q, rest, hsplit, hq⟩ := flatMap_split hwidth hhead r.entries hi'
    have hid : byteAt bytes (2 + 5 * i) = r.entries[i].metricId := by
      rw [hbytes, hsplit, ← Nat.add_zero (2 + 5 * i), byteAt_append_right _ hq]
      rfl
    have hvalue : readUint32Le bytes (3 + 5 * i) = r.entries[i].value := by
      have hq' : (q ++ [r.entries[i].metricId]).length = 3 + 5 * i := by
        rw [List.length_append, hq, List.length_singleton]
        omega
      rw [hbytes, hsplit, ← List.singleton_append, List.append_assoc, ← List.append_assoc q,
        readUint32Le_write hq' _ _]
    rw [List.getElem_map, List.getElem_range, hid, hvalue]
  have hshape : ¬ (structureValueType ≠ structureValueType ∨ bytes.length < 2 ∨ 17 < bytes.length ∨
      (bytes.length - 2) % 5 ≠ 0) := by
    rw [hlen, ne_self_iff_false, false_or]
    omega
  have hfits : ¬ (maxDiagnosticPageEntries < (byteAt bytes 1).toNat ∨
      bytes.length ≠ 2 + 5 * (byteAt bytes 1).toNat) := by
    rw [hbyte, hlen, show maxDiagnosticPageEntries = 3 from rfl]
    omega
  unfold decodeDiagnosticPageRecord
  dsimp only
  rw [if_neg hshape, if_neg hfits, hbyte, hread, hcursor]

/-! ### Events -/

theorem decodeHostEventRecord_encode {record : HostEventRecord} {bytes : Bytes}
    (h : encodeHostEventRecord record = .ok bytes) :
    bytes.length = hostEventRecordSize ∧ decodeHostEventRecord bytes = .ok record := by
  unfold encodeHostEventRecord at h
  split at h
  · cases h
  rename_i hvalid
  rw [Except.ok.injEq, ← bodyBytes_eq] at h
  have hbody : (Vector.ofFn fun i : Fin 12 => byteAt bytes (17 + i)) = record.body := by
    refine Vector.ext fun i hi => ?_
    rw [Vector.getElem_ofFn, ← h]
    interval_cases i <;> rfl
  have hlen : bytes.length = hostEventRecordSize := by
    rw [← h]
    rfl
  refine ⟨hlen, ?_⟩
  simp only [writeUint32Le, List.cons_append, List.nil_append] at h
  unfold decodeHostEventRecord
  rw [if_neg (not_not.2 hlen)]
  dsimp only
  rw [hbody, ← h]
  simp only [readUint32Le, byteAt, List.getD_cons_succ, List.getD_cons_zero, uint32_of_bytes, Nat.reduceAdd]
  exact if_neg hvalid

/-! ### The response -/

/-- The decoders look at the type of a value first: they take records and scalars. -/
theorem not_refused {value : TypedValue} (h : value.type = structureValueType ∨ isValidScalarValue value = true) :
    ¬ (value.type ≠ structureValueType ∧ (!isValidScalarValue value) = true) := by
  rintro ⟨htype, hscalar⟩
  rcases h with h | h
  · exact htype h
  · rw [h] at hscalar
    cases hscalar

/-- **A response that has been encoded is decoded to itself**, if its value is a record or a scalar. -/
theorem decodeOperationResponse_encode {minor : UInt8} {r : OperationResponse} {bytes : Bytes}
    (h : encodeOperationResponse minor r = .ok bytes)
    (hvalue : r.value.type = structureValueType ∨ isValidScalarValue r.value = true) :
    decodeOperationResponse minor bytes = .ok r := by
  unfold encodeOperationResponse at h
  split at h
  · cases h
  rename_i hvalid
  split at h
  · cases h
  rename_i hshort
  rw [Except.ok.injEq] at h
  have hsize : operationResponseFixedSize = 9 := rfl
  have hmax : maxPayloadSize < 256 := by decide
  have hlen : bytes.length = operationResponseFixedSize + r.value.bytes.length := by
    simp only [← h, List.length_append, length_writeUint16Le, List.length_cons, List.length_nil]
    omega
  have hcount : (r.value.bytes.length.toUInt8).toNat = r.value.bytes.length := by
    rw [Nat.toUInt8_eq, UInt8.toNat_ofNat']
    omega
  have hdrop : bytes.drop operationResponseFixedSize = r.value.bytes := by
    rw [← h, List.drop_left' (by simp [hsize])]
  simp only [writeUint16Le, List.cons_append, List.nil_append] at h
  have hcandidate : ({ category := byteAt bytes 0, operation := byteAt bytes 1, targetDeviceId := byteAt bytes 2
                       targetId := readUint16Le bytes 3, resultClass := byteAt bytes 5, resultCode := byteAt bytes 6
                       value := ⟨byteAt bytes 7, bytes.drop operationResponseFixedSize⟩ } : OperationResponse) = r := by
    rw [hdrop, ← h]
    simp only [readUint16Le, byteAt, List.getD_cons_succ, List.getD_cons_zero, uint16_of_bytes, Nat.reduceAdd]
  have hbyte : (byteAt bytes 8).toNat = r.value.bytes.length := by
    rw [← h]
    exact hcount
  unfold decodeOperationResponse
  rw [if_neg (by omega), if_neg (by omega)]
  extract_lets candidate
  have hr : candidate = r := hcandidate
  clear_value candidate
  subst hr
  rw [if_neg (not_refused hvalue), if_neg hvalid]

/-! ### The check of the encoder -/

/-- The value may be the record in a successful response to the operation. -/
def IsRecord (operation : UInt8) (value : TypedValue) : Prop :=
  isValidStructureValue operation value = true ∧ value.bytes.length ≤ eventDiagnosticsRecordSize

theorem isRecord_of {operation : UInt8} {value : TypedValue} (htype : value.type = structureValueType)
    (hlength : isValidStructureLength operation value.bytes.length = true)
    (hfields : hasValidStructureFields operation value = true)
    (hshort : value.bytes.length ≤ eventDiagnosticsRecordSize) :
    IsRecord operation value := by
  refine ⟨?_, hshort⟩
  rw [isValidStructureValue, htype, hlength, hfields]
  rfl

theorem isRecord_deviceInfo {r : DeviceInfoRecord} {value : TypedValue} (h : encodeDeviceInfoRecord r = .ok value) :
    IsRecord OperationCode.getDeviceInfo value := by
  unfold encodeDeviceInfoRecord at h
  split at h
  · cases h
  rename_i hvalid
  simp only [Bool.or_eq_true, Bool.not_eq_true', not_or, Bool.not_eq_false] at hvalid
  cases h
  refine isRecord_of rfl rfl ?_ (by simp [eventDiagnosticsRecordSize])
  change (isKnownHardwareProfile r.hardwareProfile && isKnownDeviceRole r.role) = true
  rw [hvalid.1, hvalid.2]
  rfl

theorem isRecord_status {r : StatusRecord} {value : TypedValue} (h : encodeStatusRecord r = .ok value) :
    IsRecord OperationCode.getStatus value := by
  unfold encodeStatusRecord at h
  split at h
  · cases h
  rename_i hflags
  cases h
  refine isRecord_of rfl rfl ?_ (by simp [eventDiagnosticsRecordSize])
  have hread : ∀ rest, readUint16Le (writeUint16Le r.statusFlags ++ rest) 0 = r.statusFlags :=
    fun rest => uint16_of_bytes r.statusFlags
  simp only [List.append_assoc, hasValidStructureFields, hread]
  simpa [OperationCode.getStatus, OperationCode.getDeviceInfo] using hflags

theorem isRecord_capabilityPage {r : CapabilityPageRecord} {value : TypedValue}
    (h : decodeCapabilityPageRecord value = .ok r) : IsRecord OperationCode.getCapabilities value := by
  unfold decodeCapabilityPageRecord at h
  dsimp only at h
  split at h
  · cases h
  rename_i hlength
  split at h
  · cases h
  rename_i hcount
  split at h
  · cases h
  rename_i hids
  simp only [not_or, not_not, not_lt] at hlength hcount
  obtain ⟨htype, hleast, hmost, heven⟩ := hlength
  refine isRecord_of htype ?_ ?_ ?_
  · change (decide (3 ≤ value.bytes.length) && decide (value.bytes.length ≤ 21) &&
      (value.bytes.length - 3) % 2 == 0) = true
    simp [hleast, hmost, heven]
  · unfold hasValidStructureFields
    dsimp only
    rw [if_neg (by decide), if_neg (by decide), if_pos rfl]
    simp only [List.any_map, List.any_eq_true, Function.comp_apply, not_exists, not_and] at hids
    simp only [Bool.and_eq_true, decide_eq_true_eq, beq_iff_eq, List.all_eq_true]
    exact ⟨hcount, fun index hindex => by simpa [bne] using hids index hindex⟩
  · rw [eventDiagnosticsRecordSize]
    omega

theorem isRecord_capabilityDescription {r : CapabilityDescriptionRecord} {value : TypedValue}
    (h : encodeCapabilityDescriptionRecord r = .ok value) : IsRecord OperationCode.describeCapability value := by
  unfold encodeCapabilityDescriptionRecord at h
  split at h
  · cases h
  rename_i hvalid
  cases h
  refine isRecord_of rfl rfl ?_ (by simp [eventDiagnosticsRecordSize])
  change (isKnownCapabilityClass r.capabilityClass && isKnownValueType r.valueType &&
    hasKnownOperationFlags r.operationFlags && isKnownUnitCode r.unit && decide (r.availability ≤ 1) &&
    r.reserved == 0) = true
  simpa [and_assoc] using hvalid

theorem isRecord_diagnosticPage {r : DiagnosticPageRecord} {value : TypedValue}
    (h : decodeDiagnosticPageRecord value = .ok r) : IsRecord OperationCode.getDiagnostics value := by
  unfold decodeDiagnosticPageRecord at h
  dsimp only at h
  split at h
  · cases h
  rename_i hlength
  split at h
  · cases h
  rename_i hcount
  simp only [not_or, not_not, not_lt] at hlength hcount
  obtain ⟨htype, hleast, hmost, hfives⟩ := hlength
  refine isRecord_of htype ?_ ?_ ?_
  · change (decide (2 ≤ value.bytes.length) && decide (value.bytes.length ≤ 17) &&
      (value.bytes.length - 2) % 5 == 0) = true
    simp [hleast, hmost, hfives]
  · unfold hasValidStructureFields
    dsimp only
    rw [if_neg (by decide), if_neg (by decide), if_neg (by decide), if_neg (by decide), if_pos rfl]
    simp only [Bool.and_eq_true, decide_eq_true_eq, beq_iff_eq]
    exact hcount
  · rw [eventDiagnosticsRecordSize]
    omega

theorem isRecord_eventDiagnostics {r : EventDiagnosticsRecord} {value : TypedValue}
    (h : encodeEventDiagnosticsRecord r = .ok value) : IsRecord OperationCode.getEventDiagnostics value := by
  obtain ⟨htype, hlen, hdec⟩ := decodeEventDiagnosticsRecord_encode h
  refine isRecord_of htype (by rw [hlen]; rfl) ?_ (by rw [hlen])
  have hne : ¬ value.bytes.length = eventTxDiagnosticsSize := by
    rw [hlen]
    decide
  change (if value.bytes.length = eventTxDiagnosticsSize then (decodeEventTxDiagnostics value).toBool
    else (decodeEventDiagnosticsRecord value).toBool) = true
  rw [if_neg hne, hdec]
  rfl

theorem isRecord_eventTxDiagnostics {role : UInt8} {s : EventTxSnapshot} {value : TypedValue}
    (h : encodeEventTxDiagnostics role s = .ok value) : IsRecord OperationCode.getEventDiagnostics value := by
  obtain ⟨htype, hlen, hdec⟩ := decodeEventTxDiagnostics_encode h
  refine isRecord_of htype (by rw [hlen]; rfl) ?_ (by rw [hlen]; decide)
  change (if value.bytes.length = eventTxDiagnosticsSize then (decodeEventTxDiagnostics value).toBool
    else (decodeEventDiagnosticsRecord value).toBool) = true
  rw [if_pos hlen, hdec]
  rfl

theorem isRecord_event {record : HostEventRecord} {bytes : Bytes} (h : encodeHostEventRecord record = .ok bytes) :
    IsRecord OperationCode.pollEvents ⟨structureValueType, bytes⟩ := by
  obtain ⟨hlen, hdec⟩ := decodeHostEventRecord_encode h
  refine isRecord_of rfl (by rw [hlen]; rfl) ?_ (by rw [hlen]; decide)
  change (decodeHostEventRecord bytes).toBool = true
  rw [hdec]
  rfl

end Redline.Host
