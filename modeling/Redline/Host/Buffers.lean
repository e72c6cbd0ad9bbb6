import Mathlib.Data.List.Infix
import Redline.Lib.Prog
import Redline.Host.FrameCodec

/-!
# COBS in the caller's buffers

`cobsEncode` and `cobsDecode` of `Host.Frame` map strings to strings.  The functions of the source get two pointers with
two sizes, read the one buffer and write the other by index, and the encoder goes back to a code byte when its block is
closed.  Here they are programs over these accesses, with a `size_t` of any width.

* `cobsEncode_within`, `cobsDecode_within` — the indices, whatever the bytes that are read;
* `run_cobsEncode`, `run_cobsDecode` — the programs do what the functions of `Host.Frame` do, errors included;
* `cobs_in_memory` — the round trips, in buffers.
-/

namespace Redline.Host.Buffers

open Redline.Wire Redline.Lib Redline.Lib.Prog

/-! ### The functions -/

/-- An access to the caller's buffers: `input[index]`, `output[index] = value`. -/
inductive BufferOp
  | read (index : ℕ)
  | write (index : ℕ) (value : UInt8)

abbrev BufferOp.Reply : BufferOp → Type
  | .read _ => UInt8
  | .write _ _ => Unit

abbrev BufferM := Prog BufferOp.Reply

def readInput (index : ℕ) : BufferM UInt8 := lift (BufferOp.read index)

def writeOutput (index : ℕ) (value : UInt8) : BufferM Unit := lift (BufferOp.write index value)

inductive Pointer
  | null | buffer
  deriving DecidableEq

inductive CobsResult
  | ok | nullArgument | inputTooLarge | outputTooSmall | malformedInput
  deriving DecidableEq

variable {bits : ℕ}

/-- The loop of the encoder and what follows it: the bytes that are left, the offset of `input`, then the source's
variables. -/
def cobsEncodeLoop (outputCapacity : BitVec bits) :
    ℕ → ℕ → BitVec bits → BitVec bits → UInt8 → BufferM (CobsResult × BitVec bits)
  | 0, _, codeIndex, writeIndex, code =>
    if outputCapacity ≤ codeIndex then return (.outputTooSmall, 0)
    else do
      writeOutput codeIndex.toNat code
      return (.ok, writeIndex)
  | inputLength + 1, position, codeIndex, writeIndex, code => do
    let value ← readInput position
    if value = 0 then
      if outputCapacity ≤ codeIndex then return (.outputTooSmall, 0)
      else
        writeOutput codeIndex.toNat code
        if outputCapacity ≤ writeIndex then return (.outputTooSmall, 0)
        else cobsEncodeLoop outputCapacity inputLength (position + 1) writeIndex (writeIndex + 1) 1
    else
      if outputCapacity ≤ writeIndex then return (.outputTooSmall, 0)
      else
        writeOutput writeIndex.toNat value
        if code + 1 = 0xFF then
          writeOutput codeIndex.toNat (code + 1)
          if outputCapacity ≤ writeIndex + 1 then return (.outputTooSmall, 0)
          else cobsEncodeLoop outputCapacity inputLength (position + 1) (writeIndex + 1) (writeIndex + 1 + 1) 1
        else cobsEncodeLoop outputCapacity inputLength (position + 1) codeIndex (writeIndex + 1) (code + 1)

/-- The result and the output length. -/
def cobsEncode (input : Pointer) (inputLength : BitVec bits) (output : Pointer) (outputCapacity : BitVec bits) :
    BufferM (CobsResult × BitVec bits) :=
  if (input = .null ∧ inputLength ≠ 0) ∨ output = .null then return (.nullArgument, 0)
  else if maxDecodedFrameSize < inputLength.toNat then return (.inputTooLarge, 0)
  else if outputCapacity = 0 then return (.outputTooSmall, 0)
  else cobsEncodeLoop outputCapacity inputLength.toNat 0 0 1 1

/-- The copy of a block, and `next` at the indices behind it. -/
def copyBlock (next : BitVec bits → BitVec bits → BufferM (CobsResult × BitVec bits)) :
    ℕ → BitVec bits → BitVec bits → BufferM (CobsResult × BitVec bits)
  | 0, readIndex, writeIndex => next readIndex writeIndex
  | count + 1, readIndex, writeIndex => do
    let value ← readInput readIndex.toNat
    if value = 0 then return (.malformedInput, 0)
    else
      writeOutput writeIndex.toNat value
      copyBlock next count (readIndex + 1) (writeIndex + 1)

/-- The body of the decoder's loop, with `next` for its following rounds. -/
def cobsDecodeRound (inputLength outputCapacity : BitVec bits)
    (next : BitVec bits → BitVec bits → BufferM (CobsResult × BitVec bits)) (readIndex writeIndex : BitVec bits) :
    BufferM (CobsResult × BitVec bits) := do
  let code ← readInput readIndex.toNat
  let readIndex := readIndex + 1
  if code = 0 then return (.malformedInput, 0)
  else
    let blockLength := code.toNat - 1
    if (inputLength - readIndex).toNat < blockLength then return (.malformedInput, 0)
    else if (outputCapacity - writeIndex).toNat < blockLength then return (.outputTooSmall, 0)
    else
      copyBlock (fun readIndex writeIndex =>
        if code ≠ 0xFF ∧ readIndex < inputLength then
          if outputCapacity ≤ writeIndex then return (.outputTooSmall, 0)
          else do
            writeOutput writeIndex.toNat 0
            next readIndex (writeIndex + 1)
        else next readIndex writeIndex) blockLength readIndex writeIndex

/-- The loop of the decoder.  Each round reads at least one byte, so that as many rounds as there are bytes to read are
enough (`cobsDecodeLoop_rounds`). -/
def cobsDecodeLoop (inputLength outputCapacity : BitVec bits) :
    ℕ → BitVec bits → BitVec bits → BufferM (CobsResult × BitVec bits)
  | 0, readIndex, writeIndex =>
    if readIndex < inputLength then return (.malformedInput, 0) else return (.ok, writeIndex)
  | rounds + 1, readIndex, writeIndex =>
    if readIndex < inputLength then
      cobsDecodeRound inputLength outputCapacity (cobsDecodeLoop inputLength outputCapacity rounds) readIndex writeIndex
    else return (.ok, writeIndex)

def cobsDecode (input : Pointer) (inputLength : BitVec bits) (output : Pointer) (outputCapacity : BitVec bits) :
    BufferM (CobsResult × BitVec bits) :=
  if input = .null ∨ output = .null then return (.nullArgument, 0)
  else if inputLength = 0 then return (.malformedInput, 0)
  else if maxCobsCandidateSize < inputLength.toNat then return (.inputTooLarge, 0)
  else cobsDecodeLoop inputLength outputCapacity inputLength.toNat 0 0

/-! ### Memory -/

/-- The bytes behind the two pointers, in buffers that do not overlap; the state is the output buffer. -/
def buffers (input : Bytes) : Device BufferOp.Reply Bytes
  | .read index, output => (byteAt input index, output)
  | .write index value, output => ((), output.set index value)

/-- Reads in front of `readable`, writes in front of `writable`. -/
def Within (readable writable : ℕ) : BufferOp → Prop
  | .read index => index < readable
  | .write index _ => index < writable

section Rules

variable {α : Type} {permitted : BufferOp → Prop} {input output : Bytes} {index : ℕ} {value : UInt8}

@[simp] theorem run_readInput_bind (next : UInt8 → BufferM α) :
    run (buffers input) (readInput index >>= next) output = run (buffers input) (next (byteAt input index)) output := rfl

@[simp] theorem run_writeOutput_bind (next : Unit → BufferM α) :
    run (buffers input) (writeOutput index value >>= next) output =
      run (buffers input) (next ()) (output.set index value) := rfl

@[simp] theorem calls_readInput_bind (next : UInt8 → BufferM α) :
    Calls permitted (readInput index >>= next) ↔ permitted (.read index) ∧ ∀ value, Calls permitted (next value) := Iff.rfl

@[simp] theorem calls_writeOutput_bind (next : Unit → BufferM α) :
    Calls permitted (writeOutput index value >>= next) ↔ permitted (.write index value) ∧ Calls permitted (next ()) :=
  ⟨fun h => ⟨h.1, h.2 ()⟩, fun h => ⟨h.1, fun _ => h.2⟩⟩

@[simp] theorem within_read {readable writable : ℕ} : Within readable writable (.read index) ↔ index < readable := Iff.rfl

@[simp] theorem within_write {readable writable : ℕ} :
    Within readable writable (.write index value) ↔ index < writable := Iff.rfl

end Rules

/-- Below another index the next one does not wrap. -/
theorem toNat_succ {a b : BitVec bits} (h : a < b) : (a + 1).toNat = a.toNat + 1 := by
  rw [BitVec.lt_def] at h
  have hb := b.isLt
  have hbits : 1 < 2 ^ bits := by omega
  have hone : (1 : BitVec bits).toNat = 1 := Nat.mod_eq_of_lt hbits
  rw [BitVec.toNat_add_of_lt (by rw [hone]; omega), hone]

/-! ### The indices of the encoder -/

/-- The encoder's variables after `position` bytes of a short input: the open block begins at its code byte, and every
byte so far has added one. -/
structure EncoderAt (outputCapacity : BitVec bits) (position : ℕ) (codeIndex writeIndex : BitVec bits)
    (code : UInt8) : Prop where
  pending : codeIndex.toNat + code.toNat = writeIndex.toNat
  opened : codeIndex.toNat < writeIndex.toNat
  advance : writeIndex.toNat = position + 1
  room : writeIndex.toNat ≤ outputCapacity.toNat
  short : position ≤ maxDecodedFrameSize

namespace EncoderAt

variable {outputCapacity codeIndex writeIndex : BitVec bits} {position : ℕ} {code : UInt8}

theorem start (h : outputCapacity ≠ 0) : EncoderAt outputCapacity 0 0 1 1 := by
  have hpos : 0 < outputCapacity := (BitVec.pos_iff_ne_zero _).2 h
  have hone : (1 : BitVec bits).toNat = 1 := by simpa using toNat_succ hpos
  have hzero : (0 : BitVec bits).toNat = 0 := BitVec.toNat_zero
  have hcode : (1 : UInt8).toNat = 1 := rfl
  rw [BitVec.lt_def, hzero] at hpos
  exact ⟨by omega, by omega, by omega, by omega, Nat.zero_le _⟩

/-- The code byte is in the output. -/
theorem not_le_codeIndex (h : EncoderAt outputCapacity position codeIndex writeIndex code) :
    ¬ outputCapacity ≤ codeIndex := by
  have := h.opened
  have := h.room
  rw [BitVec.le_def]
  omega

/-- A short input has no block of 254 bytes. -/
theorem toNat_code_succ (h : EncoderAt outputCapacity position codeIndex writeIndex code) :
    (code + 1).toNat = code.toNat + 1 ∧ code + 1 ≠ 0xFF := by
  have hpending := h.pending
  have hadvance := h.advance
  have hshort := h.short
  rw [maxDecodedFrameSize] at hshort
  have hsucc : (code + 1).toNat = code.toNat + 1 := by
    rw [UInt8.toNat_add, UInt8.toNat_one]
    omega
  refine ⟨hsucc, fun hfull => ?_⟩
  rw [hfull, show (0xFF : UInt8).toNat = 0xFF from rfl] at hsucc
  omega

theorem zero (h : EncoderAt outputCapacity position codeIndex writeIndex code) (hroom : ¬ outputCapacity ≤ writeIndex)
    (hshort : position + 1 ≤ maxDecodedFrameSize) :
    EncoderAt outputCapacity (position + 1) writeIndex (writeIndex + 1) 1 := by
  rw [BitVec.not_le] at hroom
  have hsucc := toNat_succ hroom
  have hadvance := h.advance
  rw [BitVec.lt_def] at hroom
  have hcode : (1 : UInt8).toNat = 1 := rfl
  exact ⟨by rw [hsucc, hcode], by omega, by omega, by omega, hshort⟩

theorem nonzero (h : EncoderAt outputCapacity position codeIndex writeIndex code)
    (hroom : ¬ outputCapacity ≤ writeIndex) (hshort : position + 1 ≤ maxDecodedFrameSize) :
    EncoderAt outputCapacity (position + 1) codeIndex (writeIndex + 1) (code + 1) := by
  rw [BitVec.not_le] at hroom
  have hsucc := toNat_succ hroom
  have hcode := h.toNat_code_succ.1
  have hpending := h.pending
  have hadvance := h.advance
  rw [BitVec.lt_def] at hroom
  exact ⟨by omega, by omega, by omega, by omega, hshort⟩

end EncoderAt

/-- The encoder reads its input, and writes one byte more than that at most. -/
theorem cobsEncodeLoop_within {outputCapacity codeIndex writeIndex : BitVec bits} {remaining position : ℕ}
    {code : UInt8} (h : EncoderAt outputCapacity position codeIndex writeIndex code)
    (hshort : position + remaining ≤ maxDecodedFrameSize) :
    Calls (Within (position + remaining) (min (position + remaining + 1) outputCapacity.toNat))
      (cobsEncodeLoop outputCapacity remaining position codeIndex writeIndex code) := by
  have hcodeIndex : codeIndex.toNat < min (position + remaining + 1) outputCapacity.toNat := by
    have := h.opened
    have := h.advance
    have := h.room
    omega
  induction remaining generalizing position codeIndex writeIndex code with
  | zero =>
    rw [cobsEncodeLoop, if_neg h.not_le_codeIndex, calls_writeOutput_bind]
    exact ⟨hcodeIndex, calls_pure _⟩
  | succ remaining ih =>
    rw [cobsEncodeLoop, calls_readInput_bind]
    refine ⟨by rw [within_read]; omega, fun value => ?_⟩
    have hindices := h.advance
    have hnext : position + 1 + remaining = position + (remaining + 1) := by omega
    split
    · rw [if_neg h.not_le_codeIndex, calls_writeOutput_bind]
      refine ⟨hcodeIndex, ?_⟩
      split
      · exact calls_pure _
      · rename_i hroom
        have := ih (h.zero hroom (by omega)) (by omega) (by rw [BitVec.not_le, BitVec.lt_def] at hroom; omega)
        rwa [hnext] at this
    · split
      · exact calls_pure _
      · rename_i hroom
        rw [calls_writeOutput_bind, if_neg h.toNat_code_succ.2]
        have := ih (h.nonzero hroom (by omega)) (by omega) (by omega)
        rw [hnext] at this
        refine ⟨?_, this⟩
        rw [BitVec.not_le, BitVec.lt_def] at hroom
        rw [within_write]
        omega

theorem cobsEncode_within (input output : Pointer) (inputLength outputCapacity : BitVec bits) :
    Calls (Within inputLength.toNat (min (inputLength.toNat + 1) outputCapacity.toNat))
      (cobsEncode input inputLength output outputCapacity) := by
  unfold cobsEncode
  split
  · exact calls_pure _
  · split
    · exact calls_pure _
    · rename_i hshort
      split
      · exact calls_pure _
      · rename_i hcapacity
        have hlen : 0 + inputLength.toNat ≤ maxDecodedFrameSize := by omega
        have h := cobsEncodeLoop_within (EncoderAt.start hcapacity) hlen
        rwa [Nat.zero_add] at h

/-! ### The indices of the decoder -/

/-- The decoder's variables: neither index has passed the end of its buffer. -/
structure DecoderAt (inputLength outputCapacity readIndex writeIndex : BitVec bits) : Prop where
  read : readIndex.toNat ≤ inputLength.toNat
  write : writeIndex.toNat ≤ outputCapacity.toNat

theorem DecoderAt.start {inputLength outputCapacity : BitVec bits} : DecoderAt inputLength outputCapacity 0 0 :=
  ⟨Nat.zero_le _, Nat.zero_le _⟩

section Rounds

variable {inputLength outputCapacity readIndex writeIndex : BitVec bits}
variable {next next' : BitVec bits → BitVec bits → BufferM (CobsResult × BitVec bits)}

/-- The checks in front of the copy leave the block inside both buffers. -/
theorem DecoderAt.block (h : DecoderAt inputLength outputCapacity readIndex writeIndex) (hmore : readIndex < inputLength)
    {blockLength : ℕ} (hread : ¬ (inputLength - (readIndex + 1)).toNat < blockLength)
    (hwrite : ¬ (outputCapacity - writeIndex).toNat < blockLength) :
    (readIndex + 1).toNat + blockLength ≤ inputLength.toNat ∧ writeIndex.toNat + blockLength ≤ outputCapacity.toNat := by
  have hsucc := toNat_succ hmore
  have := h.write
  rw [BitVec.lt_def] at hmore
  rw [BitVec.toNat_sub_of_le (by rw [BitVec.le_def]; omega)] at hread hwrite
  omega

theorem copyBlock_within {count : ℕ} (hread : readIndex.toNat + count ≤ inputLength.toNat)
    (hwrite : writeIndex.toNat + count ≤ outputCapacity.toNat)
    (hnext : ∀ readIndex' writeIndex', readIndex'.toNat = readIndex.toNat + count →
      writeIndex'.toNat = writeIndex.toNat + count →
        Calls (Within inputLength.toNat outputCapacity.toNat) (next readIndex' writeIndex')) :
    Calls (Within inputLength.toNat outputCapacity.toNat) (copyBlock next count readIndex writeIndex) := by
  induction count generalizing readIndex writeIndex with
  | zero => exact hnext _ _ rfl rfl
  | succ count ih =>
    have hr := toNat_succ (a := readIndex) (b := inputLength) (by rw [BitVec.lt_def]; omega)
    have hw := toNat_succ (a := writeIndex) (b := outputCapacity) (by rw [BitVec.lt_def]; omega)
    rw [copyBlock, calls_readInput_bind]
    refine ⟨by rw [within_read]; omega, fun value => ?_⟩
    split
    · exact calls_pure _
    · rw [calls_writeOutput_bind]
      refine ⟨by rw [within_write]; omega, ih (by omega) (by omega) fun r w hr' hw' => ?_⟩
      exact hnext r w (by omega) (by omega)

theorem cobsDecodeRound_within (h : DecoderAt inputLength outputCapacity readIndex writeIndex)
    (hmore : readIndex < inputLength)
    (hnext : ∀ readIndex writeIndex, DecoderAt inputLength outputCapacity readIndex writeIndex →
      Calls (Within inputLength.toNat outputCapacity.toNat) (next readIndex writeIndex)) :
    Calls (Within inputLength.toNat outputCapacity.toNat)
      (cobsDecodeRound inputLength outputCapacity next readIndex writeIndex) := by
  unfold cobsDecodeRound
  rw [calls_readInput_bind]
  refine ⟨by rwa [within_read, ← BitVec.lt_def], fun code => ?_⟩
  dsimp only
  split
  · exact calls_pure _
  · split
    · exact calls_pure _
    · rename_i hread
      split
      · exact calls_pure _
      · rename_i hwrite
        obtain ⟨hread, hwrite⟩ := h.block hmore hread hwrite
        refine copyBlock_within hread hwrite fun r w hr hw => ?_
        split
        · split
          · exact calls_pure _
          · rename_i hroom
            rw [BitVec.not_le] at hroom
            have hsucc := toNat_succ hroom
            rw [BitVec.lt_def] at hroom
            rw [calls_writeOutput_bind]
            exact ⟨by rwa [within_write], hnext _ _ ⟨by omega, by omega⟩⟩
        · exact hnext _ _ ⟨by omega, by omega⟩

theorem cobsDecodeLoop_within {rounds : ℕ} (h : DecoderAt inputLength outputCapacity readIndex writeIndex) :
    Calls (Within inputLength.toNat outputCapacity.toNat)
      (cobsDecodeLoop inputLength outputCapacity rounds readIndex writeIndex) := by
  induction rounds generalizing readIndex writeIndex with
  | zero =>
    rw [cobsDecodeLoop]
    split <;> exact calls_pure _
  | succ rounds ih =>
    rw [cobsDecodeLoop]
    split
    · rename_i hmore
      exact cobsDecodeRound_within h hmore fun r w hat => ih hat
    · exact calls_pure _

theorem copyBlock_congr {count : ℕ} (hread : readIndex.toNat + count ≤ inputLength.toNat)
    (hwrite : writeIndex.toNat + count ≤ outputCapacity.toNat)
    (hnext : ∀ readIndex' writeIndex', readIndex'.toNat = readIndex.toNat + count →
      writeIndex'.toNat = writeIndex.toNat + count → next readIndex' writeIndex' = next' readIndex' writeIndex') :
    copyBlock next count readIndex writeIndex = copyBlock next' count readIndex writeIndex := by
  induction count generalizing readIndex writeIndex with
  | zero => exact hnext _ _ rfl rfl
  | succ count ih =>
    have hr := toNat_succ (a := readIndex) (b := inputLength) (by rw [BitVec.lt_def]; omega)
    have hw := toNat_succ (a := writeIndex) (b := outputCapacity) (by rw [BitVec.lt_def]; omega)
    rw [copyBlock, copyBlock, ih (by omega) (by omega) fun r w hr' hw' => hnext r w (by omega) (by omega)]

theorem cobsDecodeRound_congr (h : DecoderAt inputLength outputCapacity readIndex writeIndex)
    (hmore : readIndex < inputLength)
    (hnext : ∀ readIndex' writeIndex', DecoderAt inputLength outputCapacity readIndex' writeIndex' →
      readIndex.toNat < readIndex'.toNat → next readIndex' writeIndex' = next' readIndex' writeIndex') :
    cobsDecodeRound inputLength outputCapacity next readIndex writeIndex =
      cobsDecodeRound inputLength outputCapacity next' readIndex writeIndex := by
  have hsucc := toNat_succ hmore
  unfold cobsDecodeRound
  congr 1
  funext code
  dsimp only
  split
  · rfl
  · split
    · rfl
    · rename_i hread
      split
      · rfl
      · rename_i hwrite
        obtain ⟨hread, hwrite⟩ := h.block hmore hread hwrite
        refine copyBlock_congr hread hwrite fun r w hr hw => ?_
        split
        · split
          · rfl
          · rename_i hroom
            rw [BitVec.not_le] at hroom
            have hw' := toNat_succ hroom
            rw [BitVec.lt_def] at hroom
            rw [hnext r (w + 1) ⟨by omega, by omega⟩ (by omega)]
        · exact hnext r w ⟨by omega, by omega⟩ (by omega)

/-- More rounds than there are bytes to read change nothing. -/
theorem cobsDecodeLoop_rounds {rounds : ℕ} (h : DecoderAt inputLength outputCapacity readIndex writeIndex)
    (hrounds : inputLength.toNat ≤ readIndex.toNat + rounds) :
    cobsDecodeLoop inputLength outputCapacity (rounds + 1) readIndex writeIndex =
      cobsDecodeLoop inputLength outputCapacity rounds readIndex writeIndex := by
  induction rounds generalizing readIndex writeIndex with
  | zero =>
    have hdone : ¬ readIndex < inputLength := by
      rw [BitVec.lt_def]
      omega
    rw [cobsDecodeLoop, cobsDecodeLoop, if_neg hdone, if_neg hdone]
  | succ rounds ih =>
    rw [cobsDecodeLoop]
    conv_rhs => rw [cobsDecodeLoop]
    split
    · rename_i hmore
      exact cobsDecodeRound_congr h hmore fun r w hat hlt => ih hat (by omega)
    · rfl

/-- The `while` loop of the source. -/
theorem cobsDecodeLoop_while {rounds : ℕ} (h : DecoderAt inputLength outputCapacity readIndex writeIndex)
    (hrounds : inputLength.toNat ≤ readIndex.toNat + rounds) :
    cobsDecodeLoop inputLength outputCapacity rounds readIndex writeIndex =
      if readIndex < inputLength then
        cobsDecodeRound inputLength outputCapacity (cobsDecodeLoop inputLength outputCapacity rounds) readIndex writeIndex
      else return (.ok, writeIndex) := by
  rw [← cobsDecodeLoop_rounds h hrounds, cobsDecodeLoop]

end Rounds

theorem cobsDecode_within (input output : Pointer) (inputLength outputCapacity : BitVec bits) :
    Calls (Within inputLength.toNat outputCapacity.toNat) (cobsDecode input inputLength output outputCapacity) := by
  unfold cobsDecode
  split
  · exact calls_pure _
  · split
    · exact calls_pure _
    · split
      · exact calls_pure _
      · exact cobsDecodeLoop_within DecoderAt.start

/-! ### What is left in the output -/

section Prefixes

variable {done block output : Bytes}

theorem prefix_write (h : done <+: output) (hroom : done.length < output.length) (value : UInt8) :
    done ++ [value] <+: output.set done.length value := by
  obtain ⟨tail, rfl⟩ := h
  cases tail with
  | nil =>
    rw [List.append_nil] at hroom
    omega
  | cons y tail =>
    rw [List.set_append_right _ _ (Nat.le_refl _), Nat.sub_self, List.set_cons_zero]
    exact ⟨tail, by rw [List.append_assoc, List.singleton_append]⟩

/-- The code byte of a block is written when the block is closed. -/
theorem prefix_patch {x : UInt8} (h : done ++ x :: block <+: output) (code : UInt8) :
    done ++ code :: block <+: output.set done.length code := by
  obtain ⟨tail, rfl⟩ := h
  rw [List.append_assoc, List.set_append_right _ _ (Nat.le_refl _), Nat.sub_self, List.cons_append, List.set_cons_zero]
  exact ⟨tail, by rw [List.append_assoc, List.cons_append]⟩

/-- The place of the next code byte. -/
theorem prefix_reserve (h : done <+: output) (hroom : done.length < output.length) : ∃ x, done ++ [x] <+: output := by
  obtain ⟨tail, rfl⟩ := h
  cases tail with
  | nil =>
    rw [List.append_nil] at hroom
    omega
  | cons x tail => exact ⟨x, tail, by rw [List.append_assoc, List.singleton_append]⟩

end Prefixes

theorem byteAt_of_drop {input rest : Bytes} {position : ℕ} {value : UInt8} (h : input.drop position = value :: rest) :
    byteAt input position = value := by
  rw [byteAt, List.getD_eq_getElem?_getD, ← Nat.add_zero position, ← List.getElem?_drop, h]
  rfl

theorem drop_succ {input rest : Bytes} {position : ℕ} {value : UInt8} (h : input.drop position = value :: rest) :
    input.drop (position + 1) = rest := by
  rw [← List.drop_drop, h, List.drop_succ_cons, List.drop_zero]

/-! ### The programs and the functions -/

def CobsResult.ofError : Host.CobsResult → CobsResult
  | .inputTooLarge => .inputTooLarge
  | .outputTooSmall => .outputTooSmall
  | .malformedInput => .malformedInput

/-- The run of a program answers what the function on strings does: the bytes stand at the beginning of the output. -/
def Answers (result : Except Host.CobsResult Bytes) (run : (CobsResult × BitVec bits) × Bytes) : Prop :=
  match result with
  | .ok bytes => run.1.1 = .ok ∧ run.1.2.toNat = bytes.length ∧ bytes <+: run.2
  | .error error => run.1 = (.ofError error, 0)

theorem run_cobsEncodeLoop {input rest done block output : Bytes} {x code : UInt8} {position : ℕ}
    {outputCapacity codeIndex writeIndex : BitVec bits}
    (h : EncoderAt outputCapacity position codeIndex writeIndex code) (hrest : input.drop position = rest)
    (hshort : position + rest.length ≤ maxDecodedFrameSize) (hdone : done.length = codeIndex.toNat)
    (hblock : block.length + 1 = code.toNat) (hpre : done ++ x :: block <+: output)
    (hroom : outputCapacity.toNat ≤ output.length) :
    Answers (Host.cobsEncodeLoop outputCapacity.toNat rest done block)
      (run (buffers input) (cobsEncodeLoop outputCapacity rest.length position codeIndex writeIndex code) output) := by
  induction rest generalizing position codeIndex writeIndex code done block output x with
  | nil =>
    have hcode : (block.length + 1).toUInt8 = code := by rw [hblock, Nat.toUInt8_eq, UInt8.ofNat_toNat]
    have hopened := h.opened
    have hwriteRoom := h.room
    rw [List.length_nil, cobsEncodeLoop, if_neg h.not_le_codeIndex, run_writeOutput_bind, run_pure, Host.cobsEncodeLoop,
      if_neg (by omega), hcode]
    refine ⟨rfl, ?_, hdone ▸ prefix_patch hpre code⟩
    rw [List.length_append, List.length_cons, hdone, hblock]
    exact h.pending.symm
  | cons value rest ih =>
    have hpending := h.pending
    have hopened := h.opened
    have hwriteRoom := h.room
    have hcode : (block.length + 1).toUInt8 = code := by rw [hblock, Nat.toUInt8_eq, UInt8.ofNat_toNat]
    have hlen : (done ++ x :: block).length = writeIndex.toNat := by
      rw [List.length_append, List.length_cons]
      omega
    rw [List.length_cons] at hshort
    rw [List.length_cons, cobsEncodeLoop, run_readInput_bind, byteAt_of_drop hrest, Host.cobsEncodeLoop, hcode]
    by_cases hz : value = 0
    · rw [if_pos hz, if_pos hz, if_neg h.not_le_codeIndex, if_neg (by omega), run_writeOutput_bind]
      by_cases hfull : outputCapacity ≤ writeIndex
      · rw [if_pos hfull, if_pos (by rw [BitVec.le_def] at hfull; omega), run_pure]
        rfl
      · have hlt : writeIndex.toNat < outputCapacity.toNat := by rwa [BitVec.not_le, BitVec.lt_def] at hfull
        have hpatched := prefix_patch hpre code
        rw [hdone] at hpatched
        have hlen' : (done ++ code :: block).length = writeIndex.toNat := by rwa [List.length_append] at hlen ⊢
        obtain ⟨y, hreserved⟩ := prefix_reserve hpatched (by rw [hlen', List.length_set]; omega)
        rw [if_neg hfull, if_neg (by omega)]
        exact ih (h.zero hfull (by omega)) (drop_succ hrest) (by omega) hlen' rfl hreserved
          (by rwa [List.length_set])
    · rw [if_neg hz, if_neg hz]
      by_cases hfull : outputCapacity ≤ writeIndex
      · rw [if_pos hfull, if_pos (by rw [BitVec.le_def] at hfull; omega), run_pure]
        rfl
      · have hlt : writeIndex.toNat < outputCapacity.toNat := by rwa [BitVec.not_le, BitVec.lt_def] at hfull
        obtain ⟨hsucc, hnot⟩ := h.toNat_code_succ
        have hwritten := prefix_write hpre (by rw [hlen]; omega) value
        rw [hlen, List.append_assoc, List.cons_append] at hwritten
        rw [if_neg hfull, if_neg (by omega), run_writeOutput_bind, if_neg hnot, if_neg (fun hc => hnot ?_)]
        · exact ih (h.nonzero hfull (by omega)) (drop_succ hrest) (by omega) hdone
            (by rw [List.length_append, List.length_singleton]; omega) hwritten (by rwa [List.length_set])
        · rw [← UInt8.toNat_inj, hsucc, ← hblock, hc]
          rfl

/-- **The encoder in memory is the encoder on strings.** -/
theorem run_cobsEncode {input output : Bytes} {source : Pointer} {inputLength outputCapacity : BitVec bits}
    (hsource : source = .null → input = []) (hlen : inputLength.toNat = input.length)
    (hroom : outputCapacity.toNat ≤ output.length) :
    Answers (Host.cobsEncode input outputCapacity.toNat)
      (run (buffers input) (cobsEncode source inputLength .buffer outputCapacity) output) := by
  have hnull : ¬ ((source = .null ∧ inputLength ≠ 0) ∨ Pointer.buffer = .null) := by
    rintro (⟨hs, hne⟩ | hbuffer)
    · rw [hsource hs, List.length_nil] at hlen
      exact hne (BitVec.eq_of_toNat_eq hlen)
    · cases hbuffer
  unfold cobsEncode Host.cobsEncode
  rw [if_neg hnull, hlen]
  split
  · rfl
  · rename_i hshort
    by_cases hcapacity : outputCapacity = 0
    · rw [if_pos hcapacity, if_pos (by rw [hcapacity]; exact BitVec.toNat_zero)]
      rfl
    · have hpos : outputCapacity.toNat ≠ 0 := fun hc => hcapacity (BitVec.eq_of_toNat_eq hc)
      have hnil : ([] : Bytes) <+: output := List.nil_prefix
      obtain ⟨x, hpre⟩ := prefix_reserve hnil (by rw [List.length_nil]; omega)
      rw [if_neg hcapacity, if_neg hpos]
      exact run_cobsEncodeLoop (EncoderAt.start hcapacity) rfl (by omega) rfl rfl hpre hroom

/-- The decoder between two bytes: what it has not read, and what it has written. -/
structure Decoding (input : Bytes) (inputLength outputCapacity readIndex writeIndex : BitVec bits)
    (rest decoded output : Bytes) : Prop extends DecoderAt inputLength outputCapacity readIndex writeIndex where
  length : input.length = inputLength.toNat
  unread : input.drop readIndex.toNat = rest
  indexed : decoded.length = writeIndex.toNat
  written : decoded <+: output
  room : outputCapacity.toNat ≤ output.length

section Decoder

variable {input rest decoded output : Bytes} {inputLength outputCapacity readIndex writeIndex : BitVec bits}
variable {next : BitVec bits → BitVec bits → BufferM (CobsResult × BitVec bits)}

namespace Decoding

theorem length_rest (h : Decoding input inputLength outputCapacity readIndex writeIndex rest decoded output) :
    rest.length = inputLength.toNat - readIndex.toNat := by
  rw [← h.unread, List.length_drop, h.length]

theorem lt_iff (h : Decoding input inputLength outputCapacity readIndex writeIndex rest decoded output) :
    readIndex < inputLength ↔ rest ≠ [] := by
  rw [BitVec.lt_def, ← List.length_pos_iff, h.length_rest]
  omega

/-- `input[readIndex++]` -/
theorem read_next {value : UInt8}
    (h : Decoding input inputLength outputCapacity readIndex writeIndex (value :: rest) decoded output) :
    Decoding input inputLength outputCapacity (readIndex + 1) writeIndex rest decoded output := by
  have hlt : readIndex < inputLength := h.lt_iff.2 (List.cons_ne_nil _ _)
  have hsucc := toNat_succ hlt
  rw [BitVec.lt_def] at hlt
  exact ⟨⟨by omega, h.write⟩, h.length, by rw [hsucc]; exact drop_succ h.unread, h.indexed, h.written, h.room⟩

/-- `output[writeIndex++] = value` -/
theorem write_next (h : Decoding input inputLength outputCapacity readIndex writeIndex rest decoded output)
    (hlt : writeIndex.toNat < outputCapacity.toNat) (value : UInt8) :
    Decoding input inputLength outputCapacity readIndex (writeIndex + 1) rest (decoded ++ [value])
      (output.set writeIndex.toNat value) := by
  have hroom := h.room
  have hsucc := toNat_succ (BitVec.lt_def.2 hlt)
  have hwritten := prefix_write h.written (by rw [h.indexed]; omega) value
  rw [h.indexed] at hwritten
  exact ⟨⟨h.read, by omega⟩, h.length, h.unread, by rw [List.length_append, h.indexed, hsucc]; rfl, hwritten,
    by rwa [List.length_set]⟩

end Decoding

/-- A block that is copied stands behind what has been decoded; one with a zero is refused. -/
theorem run_copyBlock {block : Bytes} {result : Except Host.CobsResult Bytes}
    (h : Decoding input inputLength outputCapacity readIndex writeIndex (block ++ rest) decoded output)
    (hwrite : writeIndex.toNat + block.length ≤ outputCapacity.toNat)
    (hzero : block.any (· == 0) → result = .error .malformedInput)
    (hnext : ¬ block.any (· == 0) → ∀ readIndex' writeIndex' output',
      Decoding input inputLength outputCapacity readIndex' writeIndex' rest (decoded ++ block) output' →
        Answers result (run (buffers input) (next readIndex' writeIndex') output')) :
    Answers result (run (buffers input) (copyBlock next block.length readIndex writeIndex) output) := by
  induction block generalizing readIndex writeIndex decoded output with
  | nil => exact hnext (by simp) _ _ _ (by rwa [List.append_nil])
  | cons value block ih =>
    rw [List.length_cons] at hwrite
    rw [List.length_cons, copyBlock, run_readInput_bind, byteAt_of_drop h.unread]
    by_cases hv : value = 0
    · rw [if_pos hv, run_pure, hzero (by simp [hv])]
      rfl
    · have hany : (value :: block).any (· == 0) = block.any (· == 0) := by simp [hv]
      have hlt : writeIndex.toNat < outputCapacity.toNat := by omega
      have hw := toNat_succ (BitVec.lt_def.2 hlt)
      rw [hany] at hzero hnext
      rw [if_neg hv, run_writeOutput_bind]
      refine ih (h.read_next.write_next hlt value) (by omega) hzero fun hnz r w output' hat => ?_
      rw [List.append_assoc, List.singleton_append] at hat
      exact hnext hnz r w output' hat

theorem run_cobsDecodeRound {rounds : ℕ} {code : UInt8}
    (h : Decoding input inputLength outputCapacity readIndex writeIndex (code :: rest) decoded output)
    (hnext : ∀ readIndex' writeIndex' rest' decoded' output',
      Decoding input inputLength outputCapacity readIndex' writeIndex' rest' decoded' output' →
        Answers (Host.cobsDecodeLoop outputCapacity.toNat rounds rest' decoded')
          (run (buffers input) (next readIndex' writeIndex') output')) :
    Answers (Host.cobsDecodeLoop outputCapacity.toNat (rounds + 1) (code :: rest) decoded)
      (run (buffers input) (cobsDecodeRound inputLength outputCapacity next readIndex writeIndex) output) := by
  have hread := h.read_next
  have hlength := hread.length_rest
  have hreadSub : (inputLength - (readIndex + 1)).toNat = rest.length := by
    rw [BitVec.toNat_sub_of_le (by rw [BitVec.le_def]; exact hread.read), hlength]
  have hwriteSub : (outputCapacity - writeIndex).toNat = outputCapacity.toNat - decoded.length := by
    rw [BitVec.toNat_sub_of_le (by rw [BitVec.le_def]; exact h.write), h.indexed]
  unfold cobsDecodeRound
  rw [run_readInput_bind, byteAt_of_drop h.unread, Host.cobsDecodeLoop]
  dsimp only
  rw [hreadSub, hwriteSub]
  split
  · rfl
  · split
    · rfl
    · rename_i hblock
      split
      · rfl
      · rename_i hroom
        have hwrite := h.write
        have hindexed := h.indexed
        obtain ⟨block, left, rfl, hcount⟩ : ∃ block left, rest = block ++ left ∧ block.length = code.toNat - 1 :=
          ⟨_, _, (List.take_append_drop _ _).symm, List.length_take_of_le (by omega)⟩
        rw [← hcount, List.take_left' rfl, List.drop_left' rfl]
        refine run_copyBlock hread (by omega) (fun hz => if_pos hz) fun hnz r w output' hat => ?_
        rw [if_neg hnz]
        by_cases hdelimited : code ≠ 0xFF ∧ left ≠ []
        · have hlen := hat.indexed
          rw [List.length_append] at hlen
          have hmore : code ≠ 0xFF ∧ r < inputLength := by rwa [hat.lt_iff]
          rw [if_pos hdelimited, if_pos hmore]
          by_cases hfull : outputCapacity ≤ w
          · rw [if_pos hfull, if_pos (by rw [BitVec.le_def] at hfull; omega)]
            rfl
          · have hlt : w.toNat < outputCapacity.toNat := by rwa [BitVec.not_le, BitVec.lt_def] at hfull
            rw [if_neg hfull, if_neg (by omega), run_writeOutput_bind]
            exact hnext _ _ _ _ _ (hat.write_next hlt 0)
        · have hlast : ¬ (code ≠ 0xFF ∧ r < inputLength) := by rwa [hat.lt_iff]
          rw [if_neg hdelimited, if_neg hlast]
          exact hnext _ _ _ _ _ hat

theorem run_cobsDecodeLoop {rounds : ℕ}
    (h : Decoding input inputLength outputCapacity readIndex writeIndex rest decoded output) :
    Answers (Host.cobsDecodeLoop outputCapacity.toNat rounds rest decoded)
      (run (buffers input) (cobsDecodeLoop inputLength outputCapacity rounds readIndex writeIndex) output) := by
  induction rounds generalizing readIndex writeIndex rest decoded output with
  | zero =>
    rw [cobsDecodeLoop]
    cases rest with
    | nil =>
      rw [if_neg (by rw [h.lt_iff]; simp), run_pure, Host.cobsDecodeLoop]
      exact ⟨rfl, h.indexed.symm, h.written⟩
    | cons code rest =>
      rw [if_pos (h.lt_iff.2 (List.cons_ne_nil _ _))]
      rfl
  | succ rounds ih =>
    rw [cobsDecodeLoop]
    cases rest with
    | nil =>
      rw [if_neg (by rw [h.lt_iff]; simp), run_pure, Host.cobsDecodeLoop]
      exact ⟨rfl, h.indexed.symm, h.written⟩
    | cons code rest =>
      rw [if_pos (h.lt_iff.2 (List.cons_ne_nil _ _))]
      exact run_cobsDecodeRound h fun r w rest' decoded' output' hat => ih hat

/-- **The decoder in memory is the decoder on strings.** -/
theorem run_cobsDecode (hlen : inputLength.toNat = input.length) (hroom : outputCapacity.toNat ≤ output.length) :
    Answers (Host.cobsDecode input outputCapacity.toNat)
      (run (buffers input) (cobsDecode .buffer inputLength .buffer outputCapacity) output) := by
  have hstart : Decoding input inputLength outputCapacity 0 0 input [] output :=
    ⟨DecoderAt.start, hlen.symm, rfl, rfl, List.nil_prefix, hroom⟩
  have hnull : ¬ (Pointer.buffer = .null ∨ Pointer.buffer = .null) := by decide
  unfold cobsDecode Host.cobsDecode
  rw [if_neg hnull, hlen]
  by_cases hempty : input = []
  · rw [if_pos hempty, if_pos (BitVec.eq_of_toNat_eq (by rw [hlen, hempty]; rfl))]
    rfl
  · have hne : inputLength ≠ 0 := by
      rintro rfl
      exact hempty (List.length_eq_zero_iff.1 hlen.symm)
    rw [if_neg hempty, if_neg hne]
    split
    · rfl
    · exact run_cobsDecodeLoop hstart

end Decoder

/-! ### The codec -/

/-- What stands behind the bytes that a program may write stays. -/
theorem drop_of_calls {α : Type} {readable writable : ℕ} {input : Bytes} {program : BufferM α}
    (h : Calls (Within readable writable) program) (output : Bytes) :
    (run (buffers input) program output).2.drop writable = output.drop writable := by
  refine view_of_calls (List.drop writable) (fun op output hop => ?_) h output
  cases op with
  | read index => rfl
  | write index value => exact List.drop_set_of_lt hop

/-- A string that fits is encoded, and nothing else of the output changes. -/
theorem run_cobsEncode_eq {input output : Bytes} {source : Pointer} {inputLength outputCapacity outputLength : BitVec bits}
    (hshort : input.length ≤ maxDecodedFrameSize) (hsource : source = .null → input = [])
    (hlen : inputLength.toNat = input.length) (hcapacity : input.length + 1 ≤ outputCapacity.toNat)
    (hroom : outputCapacity.toNat ≤ output.length) (houtputLength : outputLength.toNat = input.length + 1) :
    run (buffers input) (cobsEncode source inputLength .buffer outputCapacity) output =
      ((.ok, outputLength), stuffed [] input ++ output.drop (input.length + 1)) := by
  have hl := length_stuffed_nil input
  have hanswers := run_cobsEncode hsource hlen hroom
  have hwithin := cobsEncode_within source .buffer inputLength outputCapacity
  rw [hlen, Nat.min_eq_left hcapacity] at hwithin
  have hkept : (run (buffers input) _ output).2.drop (input.length + 1) = output.drop (input.length + 1) :=
    drop_of_calls hwithin output
  rw [cobsEncode_eq hshort hcapacity] at hanswers
  obtain ⟨hok, hlength, tail, htail⟩ := hanswers
  rw [← htail, List.drop_left' hl] at hkept
  refine Prod.ext (Prod.ext hok (BitVec.eq_of_toNat_eq ?_)) ?_
  · rw [hlength, hl, houtputLength]
  · rw [← htail, hkept]

/-- What is encoded is decoded again. -/
theorem run_cobsDecode_stuffed {input output : Bytes} {inputLength outputCapacity outputLength : BitVec bits}
    (hshort : input.length ≤ maxDecodedFrameSize) (hlen : inputLength.toNat = input.length + 1)
    (hcapacity : input.length ≤ outputCapacity.toNat) (hroom : outputCapacity.toNat ≤ output.length)
    (houtputLength : outputLength.toNat = input.length) :
    ∃ final, run (buffers (stuffed [] input)) (cobsDecode .buffer inputLength .buffer outputCapacity) output =
      ((.ok, outputLength), final) ∧ final.take input.length = input := by
  have hlength : inputLength.toNat = (stuffed [] input).length := by rw [hlen, length_stuffed_nil]
  have hanswers := run_cobsDecode hlength hroom
  rw [cobsDecode_stuffed hshort hcapacity] at hanswers
  obtain ⟨hok, hdecoded, hfinal⟩ := hanswers
  refine ⟨_, Prod.ext (Prod.ext hok (BitVec.eq_of_toNat_eq (hdecoded.trans houtputLength.symm))) rfl, ?_⟩
  exact (List.prefix_iff_eq_take.1 hfinal).symm

/-- What is decoded is an encoding. -/
theorem stuffed_of_run_cobsDecode {encoded output final : Bytes} {inputLength outputCapacity outputLength : BitVec bits}
    (hlen : inputLength.toNat = encoded.length) (hroom : outputCapacity.toNat ≤ output.length)
    (hrun : run (buffers encoded) (cobsDecode .buffer inputLength .buffer outputCapacity) output =
      ((.ok, outputLength), final)) :
    ∃ decoded, final.take outputLength.toNat = decoded ∧ outputLength.toNat = decoded.length ∧
      decoded.length ≤ maxDecodedFrameSize ∧ encoded = stuffed [] decoded := by
  have hanswers := run_cobsDecode hlen hroom
  rw [hrun] at hanswers
  cases hdecoded : Host.cobsDecode encoded outputCapacity.toNat with
  | error error =>
    rw [hdecoded] at hanswers
    have hstatus : CobsResult.ok = .ofError error := congrArg Prod.fst hanswers
    cases error <;> cases hstatus
  | ok decoded =>
    rw [hdecoded] at hanswers
    obtain ⟨-, hlength, hfinal⟩ := hanswers
    have hstuffed := cobsDecode_inv hdecoded
    have hbound := length_le_of_cobsDecode hdecoded
    refine ⟨decoded, ?_, hlength, ?_, hstuffed⟩
    · rw [hlength]
      exact (List.prefix_iff_eq_take.1 hfinal).symm
    · rw [hstuffed, length_stuffed_nil, maxCobsCandidateSize] at hbound
      rw [maxDecodedFrameSize]
      omega

/-- **COBS in the caller's buffers.** -/
theorem cobs_in_memory {bits : ℕ} :
    (∀ (input output : Bytes) (source : Pointer) (inputLength outputCapacity : BitVec bits),
      input.length ≤ maxDecodedFrameSize → (source = .null → input = []) → inputLength.toNat = input.length →
      input.length + 1 ≤ outputCapacity.toNat → outputCapacity.toNat ≤ output.length →
      ∃ encoded outputLength, encoded.length = input.length + 1 ∧ (∀ b ∈ encoded, b ≠ 0) ∧
        outputLength.toNat = input.length + 1 ∧
        run (buffers input) (cobsEncode source inputLength .buffer outputCapacity) output =
          ((.ok, outputLength), encoded ++ output.drop (input.length + 1)) ∧
        Calls (Within input.length (input.length + 1)) (cobsEncode source inputLength .buffer outputCapacity) ∧
        ∀ (output' : Bytes) (outputCapacity' : BitVec bits),
          input.length ≤ outputCapacity'.toNat → outputCapacity'.toNat ≤ output'.length →
          ∃ final, run (buffers encoded) (cobsDecode .buffer outputLength .buffer outputCapacity') output' =
            ((.ok, inputLength), final) ∧ final.take input.length = input) ∧
    (∀ (encoded output final : Bytes) (inputLength outputCapacity outputLength : BitVec bits),
      inputLength.toNat = encoded.length → outputCapacity.toNat ≤ output.length →
      run (buffers encoded) (cobsDecode .buffer inputLength .buffer outputCapacity) output =
        ((.ok, outputLength), final) →
      ∀ (output' : Bytes) (outputCapacity' : BitVec bits),
        encoded.length ≤ outputCapacity'.toNat → outputCapacity'.toNat ≤ output'.length →
        run (buffers (final.take outputLength.toNat)) (cobsEncode .buffer outputLength .buffer outputCapacity') output' =
          ((.ok, inputLength), encoded ++ output'.drop encoded.length)) ∧
    ∀ (source destination : Pointer) (inputLength outputCapacity : BitVec bits),
      Calls (Within inputLength.toNat outputCapacity.toNat)
        (cobsDecode source inputLength destination outputCapacity) := by
  refine ⟨fun input output source inputLength outputCapacity hshort hsource hlen hcapacity hroom => ?_,
    fun encoded output final inputLength outputCapacity outputLength hlen hroom hrun output' outputCapacity' hcapacity
      hroom' => ?_, cobsDecode_within⟩
  · have hlt : inputLength < outputCapacity := by
      rw [BitVec.lt_def]
      omega
    have houtputLength : (inputLength + 1).toNat = input.length + 1 := by rw [toNat_succ hlt, hlen]
    have hwithin := cobsEncode_within source .buffer inputLength outputCapacity
    rw [hlen, Nat.min_eq_left hcapacity] at hwithin
    have hzero : ([] : Bytes).length + input.length < 0xFF := by
      rw [maxDecodedFrameSize] at hshort
      rw [List.length_nil]
      omega
    exact ⟨stuffed [] input, inputLength + 1, length_stuffed_nil input, stuffed_ne_zero (by simp) hzero, houtputLength,
      run_cobsEncode_eq hshort hsource hlen hcapacity hroom houtputLength, hwithin,
      fun output' outputCapacity' hcapacity' hroom' =>
        run_cobsDecode_stuffed hshort houtputLength hcapacity' hroom' hlen⟩
  · obtain ⟨decoded, htake, hlength, hshort, hstuffed⟩ := stuffed_of_run_cobsDecode hlen hroom hrun
    have hl : encoded.length = decoded.length + 1 := by rw [hstuffed, length_stuffed_nil]
    have hsource : Pointer.buffer = .null → decoded = [] := fun hnull => Pointer.noConfusion hnull
    rw [hl] at hcapacity
    rw [htake, hl]
    conv_rhs => rw [hstuffed]
    exact run_cobsEncode_eq hshort hsource hlength hcapacity hroom' (hlen.trans hl)

/-- Three bytes with a zero between, in buffers that are larger. -/
theorem cobs_in_memory_zero_between :
    (∃ encoded outputLength, encoded.length = 4 ∧
      run (buffers [0x11, 0, 0x22]) (cobsEncode .buffer (3 : BitVec 32) .buffer 6) (List.replicate 8 0xEE) =
        ((.ok, outputLength), encoded ++ List.replicate 4 0xEE)) ∧
    run (buffers [0x11, 0, 0x22]) (cobsEncode .buffer (3 : BitVec 32) .buffer 6) (List.replicate 8 0xEE) =
      ((.ok, 4), [2, 0x11, 2, 0x22] ++ List.replicate 4 0xEE) := by
  constructor
  · obtain ⟨encoded, outputLength, hlen, -, -, hrun, -⟩ := cobs_in_memory.1 [0x11, 0, 0x22] (List.replicate 8 0xEE)
      .buffer (3 : BitVec 32) 6 (by decide) (fun h => Pointer.noConfusion h) rfl (by decide) (by decide)
    exact ⟨encoded, outputLength, hlen, hrun⟩
  · exact cobs_in_memory.2.1 [2, 0x11, 2, 0x22] (List.replicate 3 0) [0x11, 0, 0x22] 4 3 3 rfl (by decide)
      (by decide +kernel) (List.replicate 8 0xEE) 6 (by decide) (by decide)

end Redline.Host.Buffers
