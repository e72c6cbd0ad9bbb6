import Redline.Host.Frame

/-!
# The byte stream of the Host link

`host_protocol_stream.h` and `host_transport.h`: the parser collects bytes up to a delimiter and decodes them as a
frame, and the adapter reads a bounded number of bytes a call and keeps one encoded frame until the stream has taken
all of it.

What the stream answers is given to the calls: the bytes there are to read, with `none` for a failed read, and how
much it can take and has taken of a write.
-/

namespace Redline.Host

open Redline.Wire

/-! ### The parser -/

inductive StreamEvent
  | none | frameReady | frameRejected | oversizedCandidate
  deriving DecidableEq

structure StreamResult where
  consumed : ℕ
  event : StreamEvent
  decodeResult : DecodeResult
  frame : Frame

instance : Inhabited StreamResult := ⟨⟨0, .none, .ok, default⟩⟩

/-- The candidate is the bytes of the array up to the candidate length. -/
structure StreamParser where
  candidate : Bytes
  discardingOversize : Bool

namespace StreamParser

def reset : StreamParser := ⟨[], false⟩

def consumeLoop (p : StreamParser) (consumed : ℕ) : Bytes → StreamParser × StreamResult
  | [] => (p, { (default : StreamResult) with consumed })
  | value :: input =>
    if p.discardingOversize then
      if value = frameDelimiter then (reset, ⟨consumed + 1, .oversizedCandidate, .encodedFrameTooLarge, default⟩)
      else consumeLoop p (consumed + 1) input
    else if value ≠ frameDelimiter then
      if p.candidate.length < maxCobsCandidateSize then
        consumeLoop { p with candidate := p.candidate ++ [value] } (consumed + 1) input
      else consumeLoop ⟨[], true⟩ (consumed + 1) input
    else if p.candidate.length = 0 then consumeLoop p (consumed + 1) input
    else
      let (decodeResult, frame) := decodeFrame (p.candidate ++ [frameDelimiter])
      (reset, ⟨consumed + 1, if decodeResult = .ok then .frameReady else .frameRejected, decodeResult, frame⟩)

def consume (p : StreamParser) (input : Bytes) : StreamParser × StreamResult := consumeLoop p 0 input

end StreamParser

/-! ### The adapter -/

inductive RxStatus
  | noActivity | progress | parserEvent | inputError
  deriving DecidableEq

inductive SubmitStatus
  | ok | busy | invalidArgument | invalidFrame
  deriving DecidableEq

inductive TxStatus
  | idle | blocked | progress | complete | outputError
  deriving DecidableEq

structure RxResult where
  status : RxStatus
  bytesRead : ℕ
  parserResult : StreamResult

structure TxResult where
  status : TxStatus
  bytesWritten : ℕ
  remaining : ℕ

/-- The frame that waits to be written is the bytes of the array up to the pending length. -/
structure Transport where
  parser : StreamParser
  pending : Bytes
  pendingOffset : ℕ

namespace Transport

def initial : Transport := ⟨.reset, [], 0⟩

def hasPendingTx (t : Transport) : Bool := t.pending.length != 0

def remainingTx (t : Transport) : ℕ := t.pending.length - t.pendingOffset

/-- The loop of `serviceRx`: one byte a round, up to an event of the parser. -/
def serviceRxLoop (parser : StreamParser) (bytesRead : ℕ) (last : StreamResult) :
    ℕ → List (Option UInt8) → StreamParser × RxResult
  | budget + 1, some byte :: stream =>
    let (parser, result) := parser.consume [byte]
    if result.event ≠ .none then (parser, ⟨.parserEvent, bytesRead + 1, result⟩)
    else serviceRxLoop parser (bytesRead + 1) result budget stream
  | _ + 1, none :: _ => (parser, ⟨.inputError, bytesRead, last⟩)
  | _, _ => (parser, ⟨if bytesRead ≠ 0 then .progress else .noActivity, bytesRead, last⟩)

def serviceRx (t : Transport) (budget : ℕ) (stream : List (Option UInt8)) : Transport × RxResult :=
  let (parser, result) := serviceRxLoop t.parser 0 default budget stream
  ({ t with parser }, result)

def submit (t : Transport) (frame : Bytes) : Transport × SubmitStatus :=
  if t.pending.length ≠ 0 then (t, .busy)
  else if frame.length = 0 ∨ maxEncodedFrameSize < frame.length then (t, .invalidArgument)
  else if (decodeFrame frame).1 ≠ .ok then (t, .invalidFrame)
  else ({ t with pending := frame, pendingOffset := 0 }, .ok)

/-- The stream can take `writable` bytes, and takes `written` of those it is given. -/
def serviceTx (t : Transport) (budget : ℕ) (writable : Int) (written : ℕ) : Transport × TxResult :=
  if t.pending.length = 0 then (t, ⟨.idle, 0, t.remainingTx⟩)
  else if budget = 0 then (t, ⟨.blocked, 0, t.remainingTx⟩)
  else if writable ≤ 0 then (t, ⟨.blocked, 0, t.remainingTx⟩)
  else
    let attempt := min (min writable.toNat budget) t.remainingTx
    if attempt < written then (t, ⟨.outputError, 0, t.remainingTx⟩)
    else if written = 0 then (t, ⟨.blocked, 0, t.remainingTx⟩)
    else
      let t := { t with pendingOffset := t.pendingOffset + written }
      if t.pendingOffset = t.pending.length then
        ({ t with pending := [], pendingOffset := 0 }, ⟨.complete, written, t.remainingTx⟩)
      else (t, ⟨.progress, written, t.remainingTx⟩)

def reset (_ : Transport) : Transport := initial

end Transport

end Redline.Host
