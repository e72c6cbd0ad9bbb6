import Redline.Records.EventRecords

/-!
# The settings record

`device_settings.h`: the six settings, their ranges and defaults, the repair of settings out of range, and the
record of 24 bytes that carries them with a generation.  A record decodes strictly (`decodeRecord`) or with its
fields repaired (`decodeRecordWithRepair`); what is encoded decodes to itself (`decodeRecord_encodeRecord`).
-/

namespace Redline.DeviceSettings

open Redline.Wire Redline.Records

def schemaVersion : UInt16 := 1
def recordSize : ℕ := 24
def crcInputSize : ℕ := 20

/-- A screen, as its byte: a stored byte may name none. -/
abbrev DefaultScreen := UInt8

namespace DefaultScreen

def home : DefaultScreen := 0
def radio : DefaultScreen := 1
def device : DefaultScreen := 2
def lastPacket : DefaultScreen := 3
def diagnostics : DefaultScreen := 4
def about : DefaultScreen := 5

end DefaultScreen

structure Settings where
  displayTimeoutSeconds : UInt16
  displayContrast : UInt8
  ledEnabled : Bool
  diagnosticsEnabled : Bool
  defaultScreen : DefaultScreen
  buttonFeedbackEnabled : Bool
  deriving DecidableEq

def defaults : Settings where
  displayTimeoutSeconds := 30
  displayContrast := 207
  ledEnabled := true
  diagnosticsEnabled := true
  defaultScreen := DefaultScreen.home
  buttonFeedbackEnabled := false

instance : Inhabited Settings := ⟨defaults⟩

/-! ### Ranges and repair -/

def isValidDisplayTimeoutSeconds (value : UInt16) : Bool := value == 0 || (value ≥ 5 && value ≤ 600)

def isValidDisplayContrast (value : UInt8) : Bool := value ≥ 16

def isValidDefaultScreen (value : DefaultScreen) : Bool :=
  value == DefaultScreen.home || value == DefaultScreen.radio || value == DefaultScreen.device ||
    value == DefaultScreen.lastPacket || value == DefaultScreen.diagnostics || value == DefaultScreen.about

def isValid (settings : Settings) : Bool :=
  isValidDisplayTimeoutSeconds settings.displayTimeoutSeconds && isValidDisplayContrast settings.displayContrast &&
    isValidDefaultScreen settings.defaultScreen

/-- Settings with each field out of range set to its default, and whether there was one. -/
def validateAndRepair (settings : Settings) : Settings × Bool :=
  let timeout := isValidDisplayTimeoutSeconds settings.displayTimeoutSeconds
  let contrast := isValidDisplayContrast settings.displayContrast
  let screen := isValidDefaultScreen settings.defaultScreen
  ({ settings with
      displayTimeoutSeconds := if timeout then settings.displayTimeoutSeconds else defaults.displayTimeoutSeconds
      displayContrast := if contrast then settings.displayContrast else defaults.displayContrast
      defaultScreen := if screen then settings.defaultScreen else defaults.defaultScreen },
    !timeout || !contrast || !screen)

theorem isValid_defaults : isValid defaults = true := by decide

theorem validateAndRepair_of_valid {settings : Settings} (h : isValid settings = true) :
    validateAndRepair settings = (settings, false) := by
  simp only [isValid, Bool.and_eq_true] at h
  simp [validateAndRepair, h]

theorem validateAndRepair_valid (settings : Settings) : isValid (validateAndRepair settings).1 = true := by
  have hd := isValid_defaults
  simp only [isValid, Bool.and_eq_true] at hd ⊢
  refine ⟨⟨?_, ?_⟩, ?_⟩
  · simp only [validateAndRepair]
    split
    · assumption
    · exact hd.1.1
  · simp only [validateAndRepair]
    split
    · assumption
    · exact hd.1.2
  · simp only [validateAndRepair]
    split
    · assumption
    · exact hd.2

/-! ### The codec -/

inductive CodecError
  | wrongLength | corruptMagic | corruptRecordLength | corruptCrc | unsupportedSchema | unknownFlags
  | nonzeroReserved | invalidTimeout | invalidContrast | invalidScreen
  deriving DecidableEq

def validateCodecSettings (settings : Settings) : Except CodecError Unit :=
  if !isValidDisplayTimeoutSeconds settings.displayTimeoutSeconds then .error .invalidTimeout
  else if !isValidDisplayContrast settings.displayContrast then .error .invalidContrast
  else if !isValidDefaultScreen settings.defaultScreen then .error .invalidScreen
  else .ok ()

def flagsOf (settings : Settings) : UInt8 :=
  (if settings.ledEnabled then 0x01 else 0) ||| (if settings.diagnosticsEnabled then 0x02 else 0) |||
    (if settings.buttonFeedbackEnabled then 0x04 else 0)

/-- The bytes under the checksum. -/
def recordBytes (settings : Settings) (generation : UInt32) : Bytes :=
  [0x52, 0x4C, 0x43, 0x46] ++ writeUint16Le schemaVersion ++ writeUint16Le recordSize.toUInt16 ++
    writeUint32Le generation ++ writeUint16Le settings.displayTimeoutSeconds ++
    [settings.displayContrast, settings.defaultScreen, flagsOf settings, 0, 0, 0]

def encodeRecord (settings : Settings) (generation : UInt32) : Except CodecError Bytes :=
  match validateCodecSettings settings with
  | .error e => .error e
  | .ok () =>
    .ok (recordBytes settings generation ++ writeUint32Le (crc32IsoHdlc (recordBytes settings generation)))

/-- The fields of a record, as they are stored. -/
def settingsOf (input : Bytes) : Settings where
  displayTimeoutSeconds := readUint16Le input 12
  displayContrast := byteAt input 14
  defaultScreen := byteAt input 15
  ledEnabled := byteAt input 16 &&& 0x01 != 0
  diagnosticsEnabled := byteAt input 16 &&& 0x02 != 0
  buttonFeedbackEnabled := byteAt input 16 &&& 0x04 != 0

def hasMagic (input : Bytes) : Bool :=
  byteAt input 0 == 0x52 && byteAt input 1 == 0x4C && byteAt input 2 == 0x43 && byteAt input 3 == 0x46

def decodeRecord (input : Bytes) : Except CodecError (Settings × UInt32) :=
  if input.length ≠ recordSize then .error .wrongLength
  else if !hasMagic input then .error .corruptMagic
  else if readUint16Le input 6 ≠ recordSize.toUInt16 then .error .corruptRecordLength
  else if readUint32Le input 20 ≠ crc32IsoHdlc (input.take crcInputSize) then .error .corruptCrc
  else if readUint16Le input 4 ≠ schemaVersion then .error .unsupportedSchema
  else if byteAt input 16 &&& 0xF8 ≠ 0 then .error .unknownFlags
  else if byteAt input 17 ≠ 0 ∨ byteAt input 18 ≠ 0 ∨ byteAt input 19 ≠ 0 then .error .nonzeroReserved
  else
    match validateCodecSettings (settingsOf input) with
    | .error e => .error e
    | .ok () => .ok (settingsOf input, readUint32Le input 8)

/-- The settings, the generation, and whether a field was repaired. -/
def decodeRecordWithRepair (input : Bytes) : Except CodecError (Settings × UInt32 × Bool) :=
  match decodeRecord input with
  | .ok (settings, generation) => .ok (settings, generation, false)
  | .error e =>
    if e ≠ .invalidTimeout ∧ e ≠ .invalidContrast ∧ e ≠ .invalidScreen then .error e
    else .ok ((validateAndRepair (settingsOf input)).1, readUint32Le input 8, true)

theorem validateCodecSettings_ok {settings : Settings} :
    validateCodecSettings settings = .ok () ↔ isValid settings = true := by
  unfold validateCodecSettings isValid
  cases isValidDisplayTimeoutSeconds settings.displayTimeoutSeconds <;>
    cases isValidDisplayContrast settings.displayContrast <;>
    cases isValidDefaultScreen settings.defaultScreen <;> simp

theorem encodeRecord_of_valid {settings : Settings} (h : isValid settings = true) (generation : UInt32) :
    encodeRecord settings generation =
      .ok (recordBytes settings generation ++ writeUint32Le (crc32IsoHdlc (recordBytes settings generation))) := by
  rw [encodeRecord, validateCodecSettings_ok.2 h]

/-- The flags of settings name them. -/
theorem flagsOf_bits (settings : Settings) :
    ((flagsOf settings &&& 0x01 != 0) = settings.ledEnabled ∧
      (flagsOf settings &&& 0x02 != 0) = settings.diagnosticsEnabled ∧
      (flagsOf settings &&& 0x04 != 0) = settings.buttonFeedbackEnabled) ∧ flagsOf settings &&& 0xF8 = 0 := by
  unfold flagsOf
  cases settings.ledEnabled <;> cases settings.diagnosticsEnabled <;> cases settings.buttonFeedbackEnabled <;>
    decide

/-- **What is encoded decodes.** -/
theorem decodeRecord_encodeRecord {settings : Settings} {generation : UInt32} {bytes : Bytes}
    (h : encodeRecord settings generation = .ok bytes) : decodeRecord bytes = .ok (settings, generation) := by
  have hv : isValid settings = true := by
    unfold encodeRecord at h
    split at h
    · cases h
    · exact validateCodecSettings_ok.1 ‹_›
  rw [encodeRecord_of_valid hv, Except.ok.injEq] at h
  have hlen : bytes.length = recordSize := by
    rw [← h]
    rfl
  have hcrc : readUint32Le bytes 20 = crc32IsoHdlc (bytes.take crcInputSize) := by
    rw [← h]
    exact uint32_of_bytes _
  have h4 : readUint16Le bytes 4 = schemaVersion := by
    rw [← h]
    exact uint16_of_bytes schemaVersion
  have h6 : readUint16Le bytes 6 = recordSize.toUInt16 := by
    rw [← h]
    exact uint16_of_bytes recordSize.toUInt16
  have h8 : readUint32Le bytes 8 = generation := by
    rw [← h]
    exact uint32_of_bytes _
  have h12 : readUint16Le bytes 12 = settings.displayTimeoutSeconds := by
    rw [← h]
    exact uint16_of_bytes _
  have hmagic : hasMagic bytes = true := by
    rw [← h]
    rfl
  have h14 : byteAt bytes 14 = settings.displayContrast := by
    rw [← h]
    rfl
  have h15 : byteAt bytes 15 = settings.defaultScreen := by
    rw [← h]
    rfl
  have h16 : byteAt bytes 16 = flagsOf settings := by
    rw [← h]
    rfl
  have hreserved : byteAt bytes 17 = 0 ∧ byteAt bytes 18 = 0 ∧ byteAt bytes 19 = 0 := by
    rw [← h]
    exact ⟨rfl, rfl, rfl⟩
  have hbits := flagsOf_bits settings
  have hsettings : settingsOf bytes = settings := by
    unfold settingsOf
    rw [h12, h14, h15, h16, hbits.1.1, hbits.1.2.1, hbits.1.2.2]
  unfold decodeRecord
  rw [if_neg (not_not.2 hlen), hmagic, h6, hcrc, h4, h16, hbits.2, hreserved.1, hreserved.2.1, hreserved.2.2,
    hsettings, validateCodecSettings_ok.2 hv, h8]
  simp

theorem decodeRecordWithRepair_encodeRecord {settings : Settings} {generation : UInt32} {bytes : Bytes}
    (h : encodeRecord settings generation = .ok bytes) :
    decodeRecordWithRepair bytes = .ok (settings, generation, false) := by
  unfold decodeRecordWithRepair
  rw [decodeRecord_encodeRecord h]

theorem length_of_encodeRecord {settings : Settings} {generation : UInt32} {bytes : Bytes}
    (h : encodeRecord settings generation = .ok bytes) : bytes.length = recordSize := by
  have hdec := decodeRecord_encodeRecord h
  unfold decodeRecord at hdec
  split at hdec
  · cases hdec
  · exact not_not.1 ‹_›

end Redline.DeviceSettings
