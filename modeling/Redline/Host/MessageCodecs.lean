import Redline.Lib.Codec
import Redline.Host.Hello
import Redline.Host.Minors
import Redline.Wire.Slices

/-!
# The codecs of the messages

The messages of the Host protocol have one representation each at a minor version: what is encoded decodes to itself,
and what decodes is the encoding of its value (`hostCodecs`).  A request and a response are told by their validation
alone: the check of the value that the decoder makes before it follows from it (`value_of_validatedRequest`,
`value_of_validated`).

The second minor version only adds to the first: every check that depends on the minor passes at 2 if it passes at 1.
-/

namespace Redline.Host

open Redline.Wire Redline.Lib

variable {minor : UInt8}

/-! ### Requests -/

/-- The value of a valid request is a record or a scalar. -/
theorem value_of_validatedRequest {r : OperationRequest} (h : validateOperationRequest minor r = .ok) :
    r.value.type = structureValueType ∨ isValidScalarValue r.value = true := by
  have hnone : isNoneValue r.value = true → isValidScalarValue r.value = true := by
    intro hv
    rw [isNoneValue_iff.1 hv]
    exact isValidScalarValue_noneValue
  have hlist : (isNoneValue r.value || isCursorValue r.value) = true → isValidScalarValue r.value = true := by
    intro hv
    rw [Bool.or_eq_true] at hv
    exact hv.elim hnone isCursorValue_scalar
  unfold validateOperationRequest at h
  split at h
  · split at h <;> cases h
  · cases h
  split at h
  · cases h
  split at h
  · split at h
    · exact Or.inr (hnone ‹_›)
    · cases h
  split at h
  · split at h
    · rename_i hrecord
      simp only [Bool.and_eq_true, beq_iff_eq] at hrecord
      exact Or.inl hrecord.1.1
    · cases h
  split at h
  · cases h
  rename_i hvalue
  rw [Bool.not_eq_true', Bool.not_eq_false] at hvalue
  refine Or.inr ?_
  unfold isValidOperationRequestValue at hvalue
  split at hvalue
  · exact hnone hvalue
  split at hvalue
  · exact hlist hvalue
  split at hvalue
  · exact (Bool.and_eq_true _ _ ▸ hvalue : _ ∧ _).2
  split at hvalue
  · exact hvalue
  split at hvalue
  · exact hlist hvalue
  split at hvalue
  · rw [Bool.or_eq_true, Bool.and_eq_true] at hvalue
    exact hvalue.elim hnone fun hv => isCursorValue_scalar hv.1
  · cases hvalue

theorem length_of_encodeOperationRequest {r : OperationRequest} {bytes : Bytes}
    (h : encodeOperationRequest minor r = .ok bytes) : bytes.length ≤ maxPayloadSize := by
  unfold encodeOperationRequest at h
  split at h
  · cases h
  split at h
  · cases h
  rename_i hshort
  cases h
  have hsize : operationRequestFixedSize = 7 := rfl
  simp only [List.length_append, length_writeUint16Le, List.length_cons, List.length_nil]
  omega

theorem decodeOperationRequest_encode {r : OperationRequest} {bytes : Bytes}
    (h : encodeOperationRequest minor r = .ok bytes) : decodeOperationRequest minor bytes = .ok r := by
  unfold encodeOperationRequest at h
  split at h
  · cases h
  rename_i hvalid
  split at h
  · cases h
  rename_i hshort
  rw [Except.ok.injEq] at h
  have hvalue := value_of_validatedRequest (not_not.1 hvalid)
  have hsize : operationRequestFixedSize = 7 := rfl
  have hmax : maxPayloadSize < 256 := by decide
  have hlen : bytes.length = operationRequestFixedSize + r.value.bytes.length := by
    simp only [← h, List.length_append, length_writeUint16Le, List.length_cons, List.length_nil]
    omega
  have hcount : (r.value.bytes.length.toUInt8).toNat = r.value.bytes.length := by
    rw [Nat.toUInt8_eq, UInt8.toNat_ofNat']
    omega
  have hdrop : bytes.drop operationRequestFixedSize = r.value.bytes := by
    rw [← h, List.drop_left' (by simp [hsize])]
  simp only [writeUint16Le, List.cons_append, List.nil_append] at h
  have hcandidate : ({ category := byteAt bytes 0, operation := byteAt bytes 1, targetDeviceId := byteAt bytes 2
                       targetId := readUint16Le bytes 3
                       value := ⟨byteAt bytes 5, bytes.drop operationRequestFixedSize⟩ } : OperationRequest) = r := by
    rw [hdrop, ← h]
    simp only [readUint16Le, byteAt, List.getD_cons_succ, List.getD_cons_zero, uint16_of_bytes, Nat.reduceAdd]
  have hbyte : (byteAt bytes 6).toNat = r.value.bytes.length := by
    rw [← h]
    exact hcount
  unfold decodeOperationRequest
  rw [if_neg (by omega), if_neg (by omega)]
  extract_lets candidate
  have hr : candidate = r := hcandidate
  clear_value candidate
  subst hr
  rw [if_neg (not_refused hvalue), if_neg hvalid]

theorem encodeOperationRequest_decode {r : OperationRequest} {bytes : Bytes}
    (h : decodeOperationRequest minor bytes = .ok r) : encodeOperationRequest minor r = .ok bytes := by
  unfold decodeOperationRequest at h
  split at h
  · cases h
  rename_i hbounds
  split at h
  · cases h
  rename_i hlen
  dsimp only at h
  split at h
  · cases h
  split at h
  · cases h
  rename_i hvalid
  cases h
  rw [not_or] at hbounds
  rw [not_not] at hlen
  have hsize : operationRequestFixedSize = 7 := rfl
  obtain ⟨hdrop, hbyte⟩ := length_drop_counted hlen
  have hnames : [byteAt bytes 0, byteAt bytes 1, byteAt bytes 2] = slice bytes 0 3 := by
    rw [slice_eq_map (by omega)]
    rfl
  have hshape : [byteAt bytes 5, byteAt bytes 6] = slice bytes 5 2 := by
    rw [slice_eq_map (by omega)]
    rfl
  have hhead : [byteAt bytes 0, byteAt bytes 1, byteAt bytes 2] ++ writeUint16Le (readUint16Le bytes 3) ++
      [byteAt bytes 5, byteAt bytes 6] = bytes.take operationRequestFixedSize := by
    rw [writeUint16Le_read (by omega), hnames, hshape, slice_append bytes 0 3 2, slice_append bytes 0 5 2,
      slice_zero_left, hsize]
  unfold encodeOperationRequest
  dsimp only
  rw [if_neg hvalid, hbyte, hhead, List.take_append_drop]
  exact if_neg (by omega)

theorem operationRequest_canonical (minor : UInt8) :
    Canonical (encodeOperationRequest minor) (decodeOperationRequest minor) :=
  ⟨fun _ _ h => decodeOperationRequest_encode h, fun _ _ h => encodeOperationRequest_decode h⟩

/-! ### Responses -/

theorem length_of_encodeOperationResponse {r : OperationResponse} {bytes : Bytes}
    (h : encodeOperationResponse minor r = .ok bytes) : bytes.length ≤ maxPayloadSize := by
  unfold encodeOperationResponse at h
  split at h
  · cases h
  split at h
  · cases h
  rename_i hshort
  cases h
  have hsize : operationResponseFixedSize = 9 := rfl
  simp only [List.length_append, length_writeUint16Le, List.length_cons, List.length_nil]
  omega

theorem encodeOperationResponse_decode {r : OperationResponse} {bytes : Bytes}
    (h : decodeOperationResponse minor bytes = .ok r) : encodeOperationResponse minor r = .ok bytes := by
  unfold decodeOperationResponse at h
  split at h
  · cases h
  rename_i hbounds
  split at h
  · cases h
  rename_i hlen
  dsimp only at h
  split at h
  · cases h
  split at h
  · cases h
  rename_i hvalid
  cases h
  rw [not_or] at hbounds
  rw [not_not] at hlen
  have hsize : operationResponseFixedSize = 9 := rfl
  obtain ⟨hdrop, hbyte⟩ := length_drop_counted hlen
  have hnames : [byteAt bytes 0, byteAt bytes 1, byteAt bytes 2] = slice bytes 0 3 := by
    rw [slice_eq_map (by omega)]
    rfl
  have hshape : [byteAt bytes 5, byteAt bytes 6, byteAt bytes 7, byteAt bytes 8] = slice bytes 5 4 := by
    rw [slice_eq_map (by omega)]
    rfl
  have hhead : [byteAt bytes 0, byteAt bytes 1, byteAt bytes 2] ++ writeUint16Le (readUint16Le bytes 3) ++
      [byteAt bytes 5, byteAt bytes 6, byteAt bytes 7, byteAt bytes 8] = bytes.take operationResponseFixedSize := by
    rw [writeUint16Le_read (by omega), hnames, hshape, slice_append bytes 0 3 2, slice_append bytes 0 5 4,
      slice_zero_left, hsize]
  unfold encodeOperationResponse
  dsimp only
  rw [if_neg hvalid, hbyte, hhead, List.take_append_drop]
  exact if_neg (by omega)

theorem operationResponse_canonical (minor : UInt8) :
    Canonical (encodeOperationResponse minor) (decodeOperationResponse minor) :=
  ⟨fun _ _ h => decode_of_encode h, fun _ _ h => encodeOperationResponse_decode h⟩

/-! ### The greeting -/

theorem helloRequest_canonical (minor : UInt8) : Canonical (encodeHelloRequest minor) (decodeHelloRequest minor) := by
  refine ⟨fun r bytes h => ?_, fun r bytes h => ?_⟩
  · unfold encodeHelloRequest at h
    split at h
    · cases h
    · rename_i hrange
      cases h
      unfold decodeHelloRequest
      rw [if_neg (by simp [helloRequestPayloadSize])]
      exact if_neg hrange
  · unfold decodeHelloRequest at h
    split at h
    · cases h
    · rename_i hlen
      dsimp only at h
      split at h
      · cases h
      · rename_i hrange
        cases h
        have hsize : bytes.length = 2 := not_not.1 hlen
        have hbytes : [byteAt bytes 0, byteAt bytes 1] = bytes := by
          have hmap : slice bytes 0 2 = (List.range 2).map fun i => byteAt bytes (0 + i) := slice_eq_map (by omega)
          rw [slice_zero_left, List.take_of_length_le (by omega)] at hmap
          exact hmap.symm
        unfold encodeHelloRequest
        rw [if_neg hrange, hbytes]

theorem helloResponse_canonical : Canonical encodeHelloResponse decodeHelloResponse := by
  refine ⟨fun r bytes h => ?_, fun r bytes h => ?_⟩
  · unfold encodeHelloResponse at h
    split at h
    · cases h
    · rename_i hvalid
      rw [Except.ok.injEq] at h
      have hlen : bytes.length = helloResponsePayloadSize := by
        rw [← h]
        rfl
      simp only [writeUint16Le, List.cons_append, List.nil_append] at h
      unfold decodeHelloResponse
      rw [if_neg (not_not.2 hlen), ← h]
      simp only [readUint16Le, byteAt, List.getD_cons_succ, List.getD_cons_zero, uint16_of_bytes, Nat.reduceAdd]
      exact if_neg hvalid
  · unfold decodeHelloResponse at h
    split at h
    · cases h
    · rename_i hlen
      dsimp only at h
      split at h
      · cases h
      · rename_i hvalid
        cases h
        have hsize : bytes.length = 16 := not_not.1 hlen
        have hhead : [byteAt bytes 0, byteAt bytes 1, byteAt bytes 2, byteAt bytes 3, byteAt bytes 4, byteAt bytes 5,
            byteAt bytes 6, byteAt bytes 7, byteAt bytes 8, byteAt bytes 9] = slice bytes 0 10 := by
          rw [slice_eq_map (by omega)]
          rfl
        have htail : [byteAt bytes 14, byteAt bytes 15] = slice bytes 14 2 := by
          rw [slice_eq_map (by omega)]
          rfl
        unfold encodeHelloResponse
        rw [if_neg hvalid]
        dsimp only
        rw [hhead, htail, writeUint16Le_read (by omega), writeUint16Le_read (by omega), slice_append bytes 0 10 2,
          slice_append bytes 0 12 2, slice_append bytes 0 14 2, slice_zero_left, List.take_of_length_le (by omega)]

/-! ### Events -/

/-- An identity, written as it was read. -/
theorem identityBytes_readIdentity {bytes : Bytes} {offset : ℕ} (h : offset + 9 ≤ bytes.length) :
    identityBytes (readIdentity bytes offset) = slice bytes offset 9 := by
  unfold identityBytes readIdentity
  dsimp only
  rw [← slice_one (by omega), writeUint32Le_read (by omega), writeUint32Le_read (by omega),
    slice_append bytes offset 1 4, slice_append bytes offset 5 4]

theorem identity_canonical : Canonical encodeHostEventIdentity decodeHostEventIdentity := by
  refine ⟨fun identity bytes h => ?_, fun identity bytes h => ?_⟩
  · unfold encodeHostEventIdentity at h
    split at h
    · cases h
    · rename_i hvalid
      rw [Except.ok.injEq] at h
      have hlen : bytes.length = hostEventIdentitySize := by
        rw [← h]
        rfl
      simp only [writeUint32Le, List.cons_append, List.nil_append] at h
      unfold decodeHostEventIdentity
      rw [if_neg (not_not.2 hlen), ← h]
      simp only [readUint32Le, byteAt, List.getD_cons_succ, List.getD_cons_zero, uint32_of_bytes, Nat.reduceAdd]
      exact if_neg hvalid
  · unfold decodeHostEventIdentity at h
    split at h
    · cases h
    · rename_i hlen
      dsimp only at h
      split at h
      · cases h
      · rename_i hvalid
        cases h
        have hsize : bytes.length = 9 := not_not.1 hlen
        have hbytes : identityBytes (readIdentity bytes 0) = bytes := by
          rw [identityBytes_readIdentity (by omega), slice_zero_left, List.take_of_length_le (by omega)]
        unfold encodeHostEventIdentity
        rw [if_neg hvalid]
        exact congrArg Except.ok hbytes

theorem eventRecord_canonical : Canonical encodeHostEventRecord decodeHostEventRecord := by
  refine ⟨fun record bytes h => (decodeHostEventRecord_encode h).2, fun record bytes h => ?_⟩
  unfold decodeHostEventRecord at h
  split at h
  · cases h
  · rename_i hlen
    dsimp only at h
    split at h
    · cases h
    · rename_i hvalid
      cases h
      have hsize : bytes.length = 29 := not_not.1 hlen
      have hhead : [byteAt bytes 0, byteAt bytes 1, byteAt bytes 2, byteAt bytes 3] = slice bytes 0 4 := by
        rw [slice_eq_map (by omega)]
        rfl
      unfold encodeHostEventRecord
      rw [if_neg hvalid]
      dsimp only
      rw [hhead, toList_ofFn_byteAt (by omega), ← slice_one (by omega : 16 < bytes.length), writeUint32Le_read (by omega),
        writeUint32Le_read (by omega), writeUint32Le_read (by omega), slice_append bytes 0 4 4, slice_append bytes 0 8 4,
        slice_append bytes 0 12 4, slice_append bytes 0 16 1, slice_append bytes 0 17 12, slice_zero_left,
        List.take_of_length_le (by omega)]

/-! ### Pages of diagnostics -/

theorem eventDiagnostics_canonical : Canonical encodeEventDiagnosticsRecord decodeEventDiagnosticsRecord := by
  refine ⟨fun r value h => (decodeEventDiagnosticsRecord_encode h).2.2, fun r value h => ?_⟩
  unfold decodeEventDiagnosticsRecord at h
  split at h
  · cases h
  · rename_i hshape
    rw [not_or, not_not, not_not] at hshape
    obtain ⟨htype, hlen⟩ := hshape
    dsimp only at h
    split at h
    · cases h
    · rename_i hvalid
      cases h
      obtain ⟨type, bytes⟩ := value
      dsimp only at htype hlen hvalid ⊢
      have hsize : bytes.length = 111 := hlen
      have hfirst : [byteAt bytes 0, byteAt bytes 1, byteAt bytes 2, byteAt bytes 3, byteAt bytes 4, byteAt bytes 5,
          byteAt bytes 6, byteAt bytes 7] = slice bytes 0 8 := by
        rw [slice_eq_map (by omega)]
        rfl
      have hsecond : [byteAt bytes 17, byteAt bytes 18, byteAt bytes 19, byteAt bytes 20] = slice bytes 17 4 := by
        rw [slice_eq_map (by omega)]
        rfl
      have hthird : [byteAt bytes 39, byteAt bytes 40, byteAt bytes 41] = slice bytes 39 3 := by
        rw [slice_eq_map (by omega)]
        rfl
      unfold encodeEventDiagnosticsRecord
      rw [if_neg hvalid, eventDiagnosticsHead]
      dsimp only
      rw [flatMap_ofFn_read (fun offset (h : offset + 4 ≤ bytes.length) => writeUint32Le_read h) (by omega), hfirst, hsecond,
        hthird,
        identityBytes_readIdentity (by omega), identityBytes_readIdentity (by omega), identityBytes_readIdentity (by omega),
        ← slice_one (by omega : 29 < bytes.length), writeUint32Le_read (by omega), writeUint32Le_read (by omega),
        slice_append bytes 0 8 9, slice_append bytes 0 17 4, slice_append bytes 0 21 4, slice_append bytes 0 25 4,
        slice_append bytes 0 29 1, slice_append bytes 0 30 9, slice_append bytes 0 39 3, slice_append bytes 0 42 9,
        slice_append bytes 0 51, slice_zero_left, List.take_of_length_le (by omega), htype]

theorem eventTxDiagnostics_canonical :
    Canonical (fun page : UInt8 × EventTxSnapshot => encodeEventTxDiagnostics page.1 page.2) decodeEventTxDiagnostics := by
  refine ⟨fun page value h => (decodeEventTxDiagnostics_encode h).2.2, fun page value h => ?_⟩
  unfold decodeEventTxDiagnostics at h
  split at h
  · cases h
  · rename_i hshape
    simp only [not_or, not_not] at hshape
    obtain ⟨htype, hlen, hschema, havailable⟩ := hshape
    dsimp only at h
    split at h
    · cases h
    · rename_i hvalid
      cases h
      obtain ⟨type, bytes⟩ := value
      dsimp only at htype hlen hschema havailable hvalid ⊢
      have hsize : bytes.length = 99 := hlen
      -- the flag is one of the two bytes that it is written as
      have hflag : (if byteAt bytes 2 != 0 then (1 : UInt8) else 0) = byteAt bytes 2 := by
        have hle : (byteAt bytes 2).toNat ≤ 1 := UInt8.le_iff_toNat_le.1 (UInt8.not_lt.1 havailable)
        rcases Nat.le_one_iff_eq_zero_or_eq_one.1 hle with hb | hb
        · rw [show byteAt bytes 2 = 0 from UInt8.toNat_inj.1 hb]
          rfl
        · rw [show byteAt bytes 2 = 1 from UInt8.toNat_inj.1 hb]
          rfl
      have hfirst : [eventTxDiagnosticsSchema, byteAt bytes 1, byteAt bytes 2, byteAt bytes 3, byteAt bytes 4,
          byteAt bytes 5, byteAt bytes 6, byteAt bytes 7] = slice bytes 0 8 := by
        rw [slice_eq_map (by omega), ← hschema]
        rfl
      unfold encodeEventTxDiagnostics
      dsimp only
      rw [if_neg hvalid, eventTxHead]
      dsimp only
      rw [hflag, flatMap_ofFn_read (fun offset (h : offset + 2 ≤ bytes.length) => writeUint16Le_read h) (by omega), hfirst,
        ← slice_one (by omega : 38 < bytes.length), writeUint16Le_read (by omega), writeUint32Le_read (by omega),
        writeUint32Le_read (by omega), writeUint32Le_read (by omega), writeUint32Le_read (by omega),
        writeUint32Le_read (by omega), writeUint32Le_read (by omega), writeUint32Le_read (by omega),
        slice_append bytes 0 8 4, slice_append bytes 0 12 4, slice_append bytes 0 16 4, slice_append bytes 0 20 4,
        slice_append bytes 0 24 4, slice_append bytes 0 28 4, slice_append bytes 0 32 4, slice_append bytes 0 36 2,
        slice_append bytes 0 38 1, slice_append bytes 0 39, slice_zero_left, List.take_of_length_le (by omega), htype]

/-! ### The second minor version -/

/-- What the first accepts, the second accepts with the same result. -/
def Extends {α β ε : Type} (first second : α → Except ε β) : Prop :=
  ∀ a b, first a = .ok b → second a = .ok b

theorem validateOperationResponse_extends {r : OperationResponse}
    (h : validateOperationResponse versionMinor01 r = .ok) : validateOperationResponse versionMinor02 r = .ok := by
  have hclass : classifyCategoryOperation versionMinor01 r.category r.operation = .valid := by
    unfold validateOperationResponse at h
    split at h
    · split at h <;> cases h
    · cases h
    · assumption
  unfold validateOperationResponse at h ⊢
  rw [hclass] at h
  rw [classify_of_01 hclass]
  dsimp only at h ⊢
  split at h
  · cases h
  rename_i htarget
  rw [if_neg htarget]
  split at h
  · cases h
  rename_i hresult
  have hother : (versionMinor01 == versionMinor02) = false := by decide
  have hknown : isKnownResultClassAt versionMinor02 r.resultClass = true := by
    rw [Bool.not_eq_true', Bool.not_eq_false, isKnownResultClassAt, hother, Bool.false_and, Bool.or_false] at hresult
    rw [isKnownResultClassAt, hresult, Bool.true_or]
  rw [hknown]
  exact h

theorem encodeOperationRequest_extends :
    Extends (encodeOperationRequest versionMinor01) (encodeOperationRequest versionMinor02) := by
  intro r bytes h
  unfold encodeOperationRequest at h ⊢
  split at h
  · cases h
  · rename_i hvalid
    rw [if_neg (not_not.2 (validate_of_01 (not_not.1 hvalid)))]
    exact h

theorem encodeOperationResponse_extends :
    Extends (encodeOperationResponse versionMinor01) (encodeOperationResponse versionMinor02) := by
  intro r bytes h
  unfold encodeOperationResponse at h ⊢
  split at h
  · cases h
  · rename_i hvalid
    rw [if_neg (not_not.2 (validateOperationResponse_extends (not_not.1 hvalid)))]
    exact h

theorem encodeHelloRequest_extends :
    Extends (encodeHelloRequest versionMinor01) (encodeHelloRequest versionMinor02) := by
  intro r bytes h
  unfold encodeHelloRequest at h ⊢
  split at h
  · cases h
  · rename_i hrange
    rw [Bool.not_eq_true', Bool.not_eq_false, isValidHelloMinorRange, if_pos rfl, Bool.and_eq_true, beq_iff_eq,
      beq_iff_eq] at hrange
    have hsecond : isValidHelloMinorRange versionMinor02 r.minimumMinor r.maximumMinor = true := by
      rw [hrange.1, hrange.2]
      decide
    rw [hsecond]
    exact h

/-- Where the encoders extend each other, so do the decoders of canonical codecs. -/
theorem decode_extends {α β ε δ : Type} {encode encode' : α → Except ε β} {decode decode' : β → Except δ α}
    (h : Canonical encode decode) (h' : Canonical encode' decode') (hextends : Extends encode encode') :
    Extends decode decode' := by
  intro b a hdec
  exact h'.decode_encode a b (hextends a b (h.encode_decode a b hdec))

/-- A greeting that selects the first minor version may select the second: it advertises no Events. -/
theorem isValidHelloResponse_extends {r : HelloResponse} (h : isValidHelloResponse r = true)
    (hminor : r.selectedMinor = versionMinor01) :
    isValidHelloResponse { r with selectedMinor := versionMinor02 } = true := by
  simp only [isValidHelloResponse, Bool.and_eq_true] at h
  obtain ⟨⟨⟨⟨⟨⟨⟨⟨⟨-, -⟩, hprofile⟩, hrole⟩, hpayload⟩, hcategories⟩, hfeatures⟩, hevents⟩, houtstanding⟩, hreserved⟩ := h
  rw [hminor] at hcategories hfeatures hevents
  have hcategories : hasValidCategoryBitmap versionMinor02 r.operationCategoryBitmap = true := by
    rw [hasValidCategoryBitmap, if_pos rfl, beq_iff_eq] at hcategories
    have hmask : reservedCategoryBitmap02 = reservedCategoryBitmap &&& reservedCategoryBitmap02 := by decide
    rw [hasValidCategoryBitmap, if_neg (by decide), hmask, ← UInt16.and_assoc, hcategories]
    decide
  have hfeatures : hasValidFeatureBitmap versionMinor02 r.featureBitmap = true := by
    rw [hasValidFeatureBitmap, if_pos rfl, beq_iff_eq] at hfeatures
    have hmask : reservedFeatureBitmap02 = reservedFeatureBitmap &&& reservedFeatureBitmap02 := by decide
    rw [hasValidFeatureBitmap, if_neg (by decide), hmask, ← UInt16.and_assoc, hfeatures]
    decide
  have hevents : hasConsistentEventAdvertisement versionMinor02 r.operationCategoryBitmap r.featureBitmap = true := by
    unfold hasConsistentEventAdvertisement at hevents ⊢
    dsimp only at hevents ⊢
    rw [if_pos rfl, Bool.and_eq_true, Bool.not_eq_true', Bool.not_eq_true'] at hevents
    rw [if_neg (by decide), hevents.1, hevents.2]
    decide
  simp only [isValidHelloResponse, Bool.and_eq_true]
  exact ⟨⟨⟨⟨⟨⟨⟨⟨⟨rfl, rfl⟩, hprofile⟩, hrole⟩, hpayload⟩, hcategories⟩, hfeatures⟩, hevents⟩, houtstanding⟩,
    hreserved⟩

/-- **The codecs of the messages**: round trips both ways at every minor version, and the second minor version takes
what the first does. -/
theorem hostCodecs :
    (∀ minor, Buffered 128 id (fun r => intoBuffer (encodeOperationRequest minor r))
          (fun bytes => (decodeOperationRequest minor bytes).toOption) ∧
        Buffered 128 id (fun r => intoBuffer (encodeOperationResponse minor r))
          (fun bytes => (decodeOperationResponse minor bytes).toOption) ∧
        Buffered 2 id (fun r => intoBuffer (encodeHelloRequest minor r))
          (fun bytes => (decodeHelloRequest minor bytes).toOption)) ∧
    (Buffered 16 id (fun r => intoBuffer (encodeHelloResponse r)) (fun bytes => (decodeHelloResponse bytes).toOption) ∧
      Buffered 9 id (fun identity => intoBuffer (encodeHostEventIdentity identity))
        (fun bytes => (decodeHostEventIdentity bytes).toOption) ∧
      Buffered 29 id (fun record => intoBuffer (encodeHostEventRecord record))
        (fun bytes => (decodeHostEventRecord bytes).toOption)) ∧
    (Canonical encodeEventDiagnosticsRecord decodeEventDiagnosticsRecord ∧
      (∀ r value, encodeEventDiagnosticsRecord r = .ok value → value.bytes.length = 111) ∧
      Canonical (fun page : UInt8 × EventTxSnapshot => encodeEventTxDiagnostics page.1 page.2) decodeEventTxDiagnostics ∧
      ∀ role s value, encodeEventTxDiagnostics role s = .ok value → value.bytes.length = 99) ∧
    (Extends (encodeOperationRequest versionMinor01) (encodeOperationRequest versionMinor02) ∧
      Extends (decodeOperationRequest versionMinor01) (decodeOperationRequest versionMinor02) ∧
      Extends (encodeOperationResponse versionMinor01) (encodeOperationResponse versionMinor02) ∧
      Extends (decodeOperationResponse versionMinor01) (decodeOperationResponse versionMinor02) ∧
      Extends (encodeHelloRequest versionMinor01) (encodeHelloRequest versionMinor02) ∧
      Extends (decodeHelloRequest versionMinor01) (decodeHelloRequest versionMinor02) ∧
      ∀ r, isValidHelloResponse r = true → r.selectedMinor = versionMinor01 →
        isValidHelloResponse { r with selectedMinor := versionMinor02 } = true) := by
  refine ⟨fun minor => ⟨?_, ?_, ?_⟩, ⟨?_, ?_, ?_⟩, ⟨eventDiagnostics_canonical, ?_, eventTxDiagnostics_canonical, ?_⟩,
    encodeOperationRequest_extends, ?_, encodeOperationResponse_extends, ?_, encodeHelloRequest_extends, ?_, ?_⟩
  · exact (operationRequest_canonical minor).buffered fun _ _ h => length_of_encodeOperationRequest h
  · exact (operationResponse_canonical minor).buffered fun _ _ h => length_of_encodeOperationResponse h
  · refine (helloRequest_canonical minor).buffered fun r bytes h => ?_
    unfold encodeHelloRequest at h
    split at h <;> cases h
    exact Nat.le_refl 2
  · refine helloResponse_canonical.buffered fun r bytes h => ?_
    unfold encodeHelloResponse at h
    split at h <;> cases h
    exact Nat.le_refl 16
  · refine identity_canonical.buffered fun identity bytes h => ?_
    unfold encodeHostEventIdentity at h
    split at h <;> cases h
    exact Nat.le_refl 9
  · exact eventRecord_canonical.buffered fun record bytes h => Nat.le_of_eq (decodeHostEventRecord_encode h).1
  · intro r value h
    exact (decodeEventDiagnosticsRecord_encode h).2.1
  · intro role s value h
    exact (decodeEventTxDiagnostics_encode h).2.1
  · exact decode_extends (operationRequest_canonical _) (operationRequest_canonical _) encodeOperationRequest_extends
  · exact decode_extends (operationResponse_canonical _) (operationResponse_canonical _) encodeOperationResponse_extends
  · exact decode_extends (helloRequest_canonical _) (helloRequest_canonical _) encodeHelloRequest_extends
  · intro r h hminor
    exact isValidHelloResponse_extends h hminor

end Redline.Host
