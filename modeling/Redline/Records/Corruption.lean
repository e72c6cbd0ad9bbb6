import Redline.Lib.ShiftRegister
import Redline.Records.Canonical

/-!
# Corrupted records

Records that are torn or corrupted on the flash.  The CRC of the stored formats is a run of a shift register
(`run_bytes`), and a record ends with its CRC: a string is intact exactly when the whole of it, the CRC included,
leaves one fixed value in the register (`run_finishCrc`).  An error of at most 32 consecutive bits leaves another one,
wherever it begins.
-/

namespace Redline.Records

open Redline.Wire Redline.Lib

/-- The register of `crc32IsoHdlc`: it is reflected, so that bits leave it at the low end. -/
def crcRegister : ShiftRegister 32 := ShiftRegister.rightward 0xEDB88320#32 (by decide)

/-- The bits of a string, in the order in which the CRC takes them. -/
def bitsOf (bytes : Bytes) : List Bool := bytes.flatMap lsbFirst

theorem length_bitsOf (bytes : Bytes) : (bitsOf bytes).length = bytes.length * 8 :=
  length_flatMap_of_const length_lsbFirst bytes

/-! ### The checksum is a run of the register -/

theorem toBitVec_crcBit (value : UInt32) : (crcBit value).toBitVec = crcRegister.clock value.toBitVec := by
  have hlow : value &&& 1 ≠ 0 ↔ value.toBitVec.getLsbD 0 = true := by
    rw [Ne, ← UInt32.toNat_inj, UInt32.toNat_and, UInt32.toNat_one, Nat.and_one_is_mod, BitVec.getLsbD,
      Nat.testBit_zero, decide_eq_true_iff, UInt32.toNat_toBitVec, UInt32.toNat_zero]
    omega
  unfold crcBit
  rw [crcRegister, ShiftRegister.clock_rightward]
  by_cases h : value &&& 1 ≠ 0
  · rw [if_pos h, hlow.1 h, UInt32.toBitVec_xor, UInt32.toBitVec_shiftRight]
    rfl
  · have hoff : value.toBitVec.getLsbD 0 = false := Bool.eq_false_iff.2 fun hb => h (hlow.2 hb)
    rw [if_neg h, hoff, UInt32.toBitVec_shiftRight, ShiftRegister.feedback_false, BitVec.xor_zero]
    rfl

theorem toBitVec_crcByte (value : UInt32) (byte : UInt8) :
    (crcByte value byte).toBitVec = crcRegister.run value.toBitVec (lsbFirst byte) := by
  rw [crcByte, ShiftRegister.state_rounds toBitVec_crcBit, ShiftRegister.run_eq_iterate _ _ (by simp),
    length_lsbFirst, List.length_range, crcRegister, word_lsbFirst _ _ (by decide), UInt32.toBitVec_xor,
    UInt8.toBitVec_toUInt32]

theorem toBitVec_crcBytes (value : UInt32) (bytes : Bytes) :
    (bytes.foldl crcByte value).toBitVec = crcRegister.run value.toBitVec (bitsOf bytes) :=
  ShiftRegister.state_bytes toBitVec_crcByte bytes value

/-- The four bytes of a word, as bits in the register. -/
theorem word_writeUint32Le (value : UInt32) : crcRegister.word 0 (bitsOf (writeUint32Le value)) = value.toBitVec := by
  refine crcRegister.ext _ _ fun j hj => ?_
  rw [ShiftRegister.bitAt_word _ (by rw [length_bitsOf]; rfl) hj]
  show _ = value.toBitVec.getLsbD j
  have hbits : bitsOf (writeUint32Le value) = (List.range 32).map value.toBitVec.getLsbD := by
    simp [bitsOf, writeUint32Le, lsbFirst, List.range_succ]
  simp [hbits, hj]

/-- What an intact string leaves in the register. -/
def residue : BitVec 32 := crcRegister.clock^[32] 0xFFFFFFFF#32

theorem run_finishCrc (output : Bytes) :
    crcRegister.run 0xFFFFFFFF#32 (bitsOf (finishCrc output)) = residue := by
  have hcrc : (crc32IsoHdlc output).toBitVec = crcRegister.run 0xFFFFFFFF#32 (bitsOf output) ^^^ 0xFFFFFFFF#32 := by
    rw [crc32IsoHdlc, UInt32.toBitVec_xor, toBitVec_crcBytes]
    rfl
  rw [finishCrc, bitsOf, List.flatMap_append, ShiftRegister.run_append, ← bitsOf, ← bitsOf,
    ShiftRegister.run_eq_iterate _ _ (by rw [length_bitsOf]; rfl), word_writeUint32Le, hcrc, ← BitVec.xor_assoc,
    BitVec.xor_self, BitVec.zero_xor, length_bitsOf]
  rfl

/-! ### Intact strings -/

/-- The string ends with the CRC of what is before it. -/
def Intact (bytes : Bytes) : Prop := ∃ output, finishCrc output = bytes

/-- A burst in an intact string leaves one that is not intact. -/
theorem not_intact_of_burst {bytes error : Bytes} (h : Intact bytes) (hlen : error.length = bytes.length)
    (hburst : Burst 32 (bitsOf error)) : ¬ Intact (flipBits bytes error) := by
  obtain ⟨output, rfl⟩ := h
  rintro ⟨other, hother⟩
  have hbits : (bitsOf (finishCrc output)).length = (bitsOf error).length := by
    rw [length_bitsOf, length_bitsOf, hlen]
  have hne := crcRegister.run_ne_of_error hbits (run_finishCrc output) (crcRegister.run_burst hburst)
  apply hne
  rw [bitsOf, bitsOf, ← flatMap_flipBits length_lsbFirst lsbFirst_xor hlen.symm, ← hother]
  exact run_finishCrc other

/-- A decoder that refuses what its envelope refuses takes intact strings only. -/
theorem intact_of_enveloped {α : Type} {decoded : Except CodecResult α} {value : α} {input : Bytes} {n : ℕ}
    (magic : Magic) (hn : 16 ≤ n) (h : decoded = .ok value)
    (hrefuses : ∀ e, validateEnvelope input n magic = .error e → decoded = .error e) : Intact input := by
  cases henv : validateEnvelope input n magic with
  | error e =>
    rw [hrefuses e henv] at h
    cases h
  | ok u => exact ⟨_, (enveloped_of_validateEnvelope hn henv).crc⟩

theorem intact_of_decodeNodeMetadata {value : NodeMetadata} {bytes : Bytes} (h : decodeNodeMetadata bytes = .ok value) :
    Intact bytes :=
  intact_of_enveloped magicEID1 (show 16 ≤ nodeMetadataSize by decide) h fun e henv => by rw [decodeNodeMetadata, henv]

theorem intact_of_decodeHubMetadata {value : HubMetadata} {bytes : Bytes} (h : decodeHubMetadata bytes = .ok value) :
    Intact bytes :=
  intact_of_enveloped magicHAO1 (show 16 ≤ hubMetadataSize by decide) h fun e henv => by rw [decodeHubMetadata, henv]

theorem intact_of_decodeNodeRecord {value : NodeRecord} {bytes : Bytes} (h : decodeNodeRecord bytes = .ok value) :
    Intact bytes :=
  intact_of_enveloped magicEVT1 (show 16 ≤ nodeRecordSize by decide) h fun e henv => by rw [decodeNodeRecord, henv]

theorem intact_of_decodeHubRecord {value : HubRecord} {bytes : Bytes} (h : decodeHubRecord bytes = .ok value) :
    Intact bytes :=
  intact_of_enveloped magicHEV1 (show 16 ≤ hubRecordSize by decide) h fun e henv => by rw [decodeHubRecord, henv]

end Redline.Records

namespace Redline.DeviceSettings

open Redline.Wire Redline.Records

theorem intact_of_crc {input : Bytes} (hlen : input.length = recordSize)
    (h : readUint32Le input 20 = crc32IsoHdlc (input.take crcInputSize)) : Intact input := by
  have hlen' : input.length = 24 := hlen
  have htail : slice input 20 4 = input.drop crcInputSize := by
    rw [slice, List.take_of_length_le (by rw [List.length_drop]; omega)]
    rfl
  refine ⟨input.take crcInputSize, ?_⟩
  rw [finishCrc, ← h, writeUint32Le_read (by omega), htail, List.take_append_drop]

/-- Only the errors that come before the CRC check are reported of a string that is not intact. -/
theorem decodeRecord_of_not_intact {input : Bytes} (h : ¬ Intact input) :
    decodeRecord input = .error .wrongLength ∨ decodeRecord input = .error .corruptMagic ∨
      decodeRecord input = .error .corruptRecordLength ∨ decodeRecord input = .error .corruptCrc := by
  unfold decodeRecord
  by_cases hlen : input.length ≠ recordSize
  · rw [if_pos hlen]
    exact Or.inl rfl
  · rw [if_neg hlen]
    split
    · exact Or.inr (Or.inl rfl)
    · split
      · exact Or.inr (Or.inr (Or.inl rfl))
      · split
        · exact Or.inr (Or.inr (Or.inr rfl))
        · rename_i hcrc
          exact absurd (intact_of_crc (not_not.1 hlen) (not_not.1 hcrc)) h

theorem intact_of_decodeRecord {input : Bytes} {value : Settings × UInt32} (h : decodeRecord input = .ok value) :
    Intact input := by
  by_contra hnot
  rcases decodeRecord_of_not_intact hnot with he | he | he | he <;> rw [he] at h <;> cases h

/-- The repair is of the fields alone: it takes no string that is not intact. -/
theorem intact_of_decodeRecordWithRepair {input : Bytes} {value : Settings × UInt32 × Bool}
    (h : decodeRecordWithRepair input = .ok value) : Intact input := by
  by_contra hnot
  unfold decodeRecordWithRepair at h
  rcases decodeRecord_of_not_intact hnot with he | he | he | he <;> rw [he] at h <;> cases h

end Redline.DeviceSettings

namespace Redline.Records

open Redline.Wire Redline.Lib

/-! ### Errors -/

/-- What is encoded and then changed within 32 consecutive bits is refused. -/
def DetectsBursts {α β ε δ : Type} (encode : α → Except ε Bytes) (decode : Bytes → Except δ β) : Prop :=
  ∀ value bytes error, encode value = .ok bytes → error.length = bytes.length → Burst 32 (bitsOf error) →
    ∀ accepted, decode (flipBits bytes error) ≠ .ok accepted

/-- What has been encoded decodes, and what decodes is intact. -/
theorem detectsBursts_of_intact {α β ε δ : Type} {encode : α → Except ε Bytes} {decode : Bytes → Except δ β}
    (hback : ∀ value bytes, encode value = .ok bytes → ∃ decoded, decode bytes = .ok decoded)
    (hintact : ∀ bytes decoded, decode bytes = .ok decoded → Intact bytes) : DetectsBursts encode decode := by
  intro value bytes error henc hlen hburst accepted hdec
  obtain ⟨decoded, hdecoded⟩ := hback value bytes henc
  exact not_intact_of_burst (hintact _ _ hdecoded) hlen hburst (hintact _ _ hdec)

/-- **Corrupted records are detected.** -/
theorem corruptedRecords_refused :
    DetectsBursts encodeNodeRecord decodeNodeRecord ∧ DetectsBursts encodeHubRecord decodeHubRecord ∧
      DetectsBursts encodeNodeMetadata decodeNodeMetadata ∧ DetectsBursts encodeHubMetadata decodeHubMetadata ∧
      DetectsBursts (fun value : DeviceSettings.Settings × UInt32 => DeviceSettings.encodeRecord value.1 value.2)
        DeviceSettings.decodeRecord ∧
      DetectsBursts (fun value : DeviceSettings.Settings × UInt32 => DeviceSettings.encodeRecord value.1 value.2)
        DeviceSettings.decodeRecordWithRepair := by
  refine ⟨?_, ?_, ?_, ?_, ?_, ?_⟩
  · exact detectsBursts_of_intact (fun _ _ h => ⟨_, decodeNodeRecord_encode h⟩) fun _ _ => intact_of_decodeNodeRecord
  · exact detectsBursts_of_intact (fun _ _ h => ⟨_, decodeHubRecord_encode h⟩) fun _ _ => intact_of_decodeHubRecord
  · exact detectsBursts_of_intact (fun _ _ h => ⟨_, decodeNodeMetadata_encode h⟩)
      fun _ _ => intact_of_decodeNodeMetadata
  · exact detectsBursts_of_intact (fun _ _ h => ⟨_, decodeHubMetadata_encode h⟩) fun _ _ => intact_of_decodeHubMetadata
  · exact detectsBursts_of_intact (fun _ _ h => ⟨_, DeviceSettings.decodeRecord_encodeRecord h⟩)
      fun _ _ => DeviceSettings.intact_of_decodeRecord
  · exact detectsBursts_of_intact (fun _ _ h => ⟨_, DeviceSettings.decodeRecordWithRepair_encodeRecord h⟩)
      fun _ _ => DeviceSettings.intact_of_decodeRecordWithRepair

end Redline.Records
