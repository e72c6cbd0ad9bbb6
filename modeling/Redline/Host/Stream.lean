import Redline.Lib.Delimited
import Redline.Host.FrameCodec
import Redline.Host.Transport

/-!
# What the parser makes of a stream

The parser against its purpose: cut the stream at the delimiters, drop the empty candidates, report one too long for a
frame as oversized and decode each of the others (`streamEvents`).

`partialParser candidate` is the parser that has taken `candidate` since the last delimiter.  One byte keeps the parser
in this form and reports what the byte closes (`consume_byte`); a chunk, and a call of `serviceRx`, take their bytes
one after the other (`consumeLoop_feed`, `serviceRxLoop_feed`).
-/

namespace Redline.Host

open Redline.Wire Redline.Lib

/-- What is reported of a candidate. -/
structure Report where
  event : StreamEvent
  decodeResult : DecodeResult
  frame : Frame
  deriving DecidableEq

/-- The report of a call of the parser, if it has one. -/
def StreamResult.reports (r : StreamResult) : List Report :=
  if r.event = .none then [] else [⟨r.event, r.decodeResult, r.frame⟩]

/-! ### The reference -/

def candidateReport (candidate : Bytes) : Report :=
  if maxCobsCandidateSize < candidate.length then ⟨.oversizedCandidate, .encodedFrameTooLarge, default⟩
  else
    let (decodeResult, frame) := decodeFrame (candidate ++ [frameDelimiter])
    ⟨if decodeResult = .ok then .frameReady else .frameRejected, decodeResult, frame⟩

/-- The reports of the candidates that are not empty. -/
def reportsOf (candidates : List Bytes) : List Report := (candidates.filter (· ≠ [])).map candidateReport

/-- **The events of a stream.** -/
def streamEvents (stream : Bytes) : List Report := reportsOf (closed frameDelimiter stream)

theorem reportsOf_append (a b : List Bytes) : reportsOf (a ++ b) = reportsOf a ++ reportsOf b := by
  simp [reportsOf]

/-! ### A byte -/

namespace StreamParser

/-- The bytes, taken one a call, and what is reported of them. -/
def feed (p : StreamParser) : Bytes → StreamParser × List Report
  | [] => (p, [])
  | byte :: input =>
    let (p', r) := p.consume [byte]
    let (p'', reports) := feed p' input
    (p'', r.reports ++ reports)

theorem feed_cons (p : StreamParser) (byte : UInt8) (input : Bytes) :
    p.feed (byte :: input) =
      (((p.consume [byte]).1.feed input).1, (p.consume [byte]).2.reports ++ ((p.consume [byte]).1.feed input).2) := rfl

theorem feed_append (p : StreamParser) (a b : Bytes) :
    p.feed (a ++ b) = (((p.feed a).1.feed b).1, (p.feed a).2 ++ ((p.feed a).1.feed b).2) := by
  induction a generalizing p with
  | nil => rfl
  | cons byte a ih =>
    simp only [List.cons_append, feed, ih, List.append_assoc]

/-- The parser that has taken a candidate since the last delimiter. -/
def partialParser (candidate : Bytes) : StreamParser :=
  if candidate.length ≤ maxCobsCandidateSize then ⟨candidate, false⟩ else ⟨[], true⟩

theorem partialParser_nil : partialParser [] = reset := rfl

theorem length_partialParser (candidate : Bytes) :
    (partialParser candidate).candidate.length ≤ maxCobsCandidateSize := by
  unfold partialParser
  split
  · assumption
  · exact Nat.zero_le _

/-- A byte of a candidate is kept, or discarded with the rest. -/
theorem consume_byte (candidate : Bytes) {byte : UInt8} (h : byte ≠ frameDelimiter) :
    ∃ r, (partialParser candidate).consume [byte] = (partialParser (candidate ++ [byte]), r) ∧ r.reports = [] := by
  refine ⟨{ (default : StreamResult) with consumed := 1 }, ?_, rfl⟩
  unfold consume partialParser
  rw [List.length_append, List.length_singleton]
  by_cases hfits : candidate.length ≤ maxCobsCandidateSize
  · rw [if_pos hfits]
    by_cases hmore : candidate.length < maxCobsCandidateSize
    · rw [if_pos (by omega)]
      simp [consumeLoop, h, hmore]
    · rw [if_neg (by omega)]
      simp [consumeLoop, h, hmore]
  · rw [if_neg hfits, if_neg (by omega)]
    simp [consumeLoop, h]

/-- A delimiter reports the candidate it closes. -/
theorem consume_delimiter (candidate : Bytes) :
    ∃ r, (partialParser candidate).consume [frameDelimiter] = (partialParser [], r) ∧
      r.reports = reportsOf [candidate] := by
  unfold consume partialParser
  by_cases hfits : candidate.length ≤ maxCobsCandidateSize
  · rw [if_pos hfits]
    by_cases hempty : candidate = []
    · subst hempty
      exact ⟨{ (default : StreamResult) with consumed := 1 }, by simp [consumeLoop], rfl⟩
    · have hlen : candidate.length ≠ 0 := fun hc => hempty (List.length_eq_zero_iff.1 hc)
      refine ⟨_, by simp only [consumeLoop, Bool.false_eq_true, if_false, ne_eq, not_true_eq_false, hlen]; rfl, ?_⟩
      have hreport : reportsOf [candidate] = [candidateReport candidate] := by simp [reportsOf, hempty]
      rw [hreport, candidateReport, if_neg (Nat.not_lt.2 hfits)]
      unfold StreamResult.reports
      dsimp only
      rw [if_neg (by split <;> simp)]
  · rw [if_neg hfits]
    have hempty : candidate ≠ [] := by
      rintro rfl
      exact hfits (Nat.zero_le _)
    refine ⟨⟨1, .oversizedCandidate, .encodedFrameTooLarge, default⟩, ?_, ?_⟩
    · simp [consumeLoop, reset]
    · have hreport : reportsOf [candidate] = [candidateReport candidate] := by simp [reportsOf, hempty]
      rw [hreport, candidateReport, if_pos (Nat.lt_of_not_le hfits)]
      rfl

/-- **The parser keeps to the reference**, a byte at a time. -/
theorem feed_reset (stream : Bytes) :
    reset.feed stream = (partialParser (opened frameDelimiter stream), streamEvents stream) := by
  induction stream using List.reverseRecOn with
  | nil => simp [feed, streamEvents, reportsOf, partialParser_nil]
  | append_singleton stream byte ih =>
    rw [feed_append, ih]
    simp only [feed, List.append_nil]
    by_cases hbyte : byte = frameDelimiter
    · subst hbyte
      obtain ⟨r, hr, hreports⟩ := consume_delimiter (opened frameDelimiter stream)
      rw [hr, opened_append_delimiter, streamEvents, streamEvents, closed_append_delimiter, reportsOf_append, ← hreports]
    · have hfree : frameDelimiter ∉ [byte] := by simpa using Ne.symm hbyte
      obtain ⟨r, hr, hreports⟩ := consume_byte (opened frameDelimiter stream) hbyte
      rw [hr, opened_append_free _ hfree, streamEvents, streamEvents, closed_append_free _ hfree, hreports,
        List.append_nil]

/-! ### A chunk -/

@[simp] theorem default_event : (default : StreamResult).event = .none := rfl

/-- The loop goes on behind a byte that reports nothing. -/
theorem consumeLoop_cons (p : StreamParser) (consumed : ℕ) (byte : UInt8) (input : Bytes) :
    p.consumeLoop consumed (byte :: input) =
      if (p.consume [byte]).2.event = .none then (p.consume [byte]).1.consumeLoop (consumed + 1) input
      else ((p.consume [byte]).1, { (p.consume [byte]).2 with consumed := consumed + 1 }) := by
  unfold consume
  by_cases hdiscard : p.discardingOversize = true <;> by_cases hbyte : byte = frameDelimiter
  · simp [consumeLoop, hdiscard, hbyte]
  · simp [consumeLoop, hdiscard, hbyte]
  · by_cases hempty : p.candidate.length = 0
    · simp [consumeLoop, hdiscard, hbyte, hempty]
    · have hreport : (if (decodeFrame (p.candidate ++ [frameDelimiter])).1 = .ok then StreamEvent.frameReady
          else .frameRejected) ≠ .none := by
        split <;> simp
      simp [consumeLoop, hdiscard, hbyte, hempty, hreport]
  · by_cases hmore : p.candidate.length < maxCobsCandidateSize
    · simp [consumeLoop, hdiscard, hbyte, hmore]
    · simp [consumeLoop, hdiscard, hbyte, hmore]

/-- **A call takes its bytes one after the other**, up to the first report. -/
theorem consumeLoop_feed (p : StreamParser) (consumed : ℕ) (input : Bytes) :
    ∃ k ≤ input.length, (p.consumeLoop consumed input).2.consumed = consumed + k ∧
      p.feed (input.take k) = ((p.consumeLoop consumed input).1, (p.consumeLoop consumed input).2.reports) ∧
      ((p.consumeLoop consumed input).2.event = .none → k = input.length) ∧
      ((p.consumeLoop consumed input).2.event ≠ .none → 0 < k) := by
  induction input generalizing p consumed with
  | nil => exact ⟨0, Nat.le_refl 0, rfl, rfl, fun _ => rfl, fun h => absurd rfl h⟩
  | cons byte input ih =>
    rw [consumeLoop_cons]
    split
    · rename_i hnone
      obtain ⟨k, hk, hconsumed, hfeed, hall, -⟩ := ih (p.consume [byte]).1 (consumed + 1)
      refine ⟨k + 1, by rw [List.length_cons]; omega, by rw [hconsumed]; omega, ?_, ?_, fun _ => by omega⟩
      · rw [List.take_succ_cons, feed_cons, hfeed]
        simp [StreamResult.reports, hnone]
      · intro h
        rw [hall h, List.length_cons]
    · rename_i hsome
      refine ⟨1, by rw [List.length_cons]; omega, rfl, ?_, fun h => absurd h hsome, fun _ => Nat.one_pos⟩
      rw [List.take_succ_cons, List.take_zero]
      simp [feed, StreamResult.reports]

/-- A chunk, handed over again behind each report until all of it is taken. -/
def feedChunk : ℕ → StreamParser → Bytes → StreamParser × List Report
  | 0, p, _ => (p, [])
  | rounds + 1, p, chunk =>
    let (p', r) := p.consume chunk
    if r.event = .none then (p', [])
    else
      let (p'', reports) := feedChunk rounds p' (chunk.drop r.consumed)
      (p'', r.reports ++ reports)

/-- Chunks, one after the other. -/
def feedChunks (p : StreamParser) : List Bytes → StreamParser × List Report
  | [] => (p, [])
  | chunk :: chunks =>
    let (p', reports) := feedChunk (chunk.length + 1) p chunk
    let (p'', more) := feedChunks p' chunks
    (p'', reports ++ more)

theorem feedChunk_feed {rounds : ℕ} (p : StreamParser) {chunk : Bytes} (h : chunk.length < rounds) :
    feedChunk rounds p chunk = p.feed chunk := by
  induction rounds generalizing p chunk with
  | zero => omega
  | succ rounds ih =>
    obtain ⟨k, hk, hconsumed, hfeed, hall, hpos⟩ := consumeLoop_feed p 0 chunk
    rw [Nat.zero_add] at hconsumed
    unfold feedChunk
    dsimp only [consume]
    split
    · rename_i hnone
      rw [hall hnone, List.take_length] at hfeed
      rw [hfeed]
      simp [StreamResult.reports, hnone]
    · rename_i hsome
      have hlt := hpos hsome
      have hsplit : p.feed chunk = p.feed (chunk.take k ++ chunk.drop k) := by rw [List.take_append_drop]
      rw [hconsumed, ih _ (by rw [List.length_drop]; omega), hsplit, feed_append, hfeed]

theorem feedChunks_feed (p : StreamParser) (chunks : List Bytes) : p.feedChunks chunks = p.feed chunks.flatten := by
  induction chunks generalizing p with
  | nil => rfl
  | cons chunk chunks ih =>
    unfold feedChunks
    rw [List.flatten_cons, feed_append, feedChunk_feed p (Nat.lt_succ_self _)]
    simp only [ih]

end StreamParser

/-! ### The transport -/

namespace Transport

open StreamParser

/-- The bytes that a call has read of what the stream offered. -/
def bytesOf (stream : List (Option UInt8)) (bytesRead : ℕ) : Bytes := (stream.take bytesRead).filterMap id

theorem serviceRxLoop_feed (parser : StreamParser) (bytesRead : ℕ) (last : StreamResult) (budget : ℕ)
    (stream : List (Option UInt8)) :
    ∃ k ≤ stream.length, k ≤ budget ∧
      (serviceRxLoop parser bytesRead last budget stream).2.bytesRead = bytesRead + k ∧
      parser.feed (bytesOf stream k) = ((serviceRxLoop parser bytesRead last budget stream).1,
        if (serviceRxLoop parser bytesRead last budget stream).2.status = .parserEvent then
          (serviceRxLoop parser bytesRead last budget stream).2.parserResult.reports else []) := by
  induction budget generalizing parser bytesRead last stream with
  | zero => exact ⟨0, Nat.zero_le _, Nat.le_refl 0, rfl, by simp only [serviceRxLoop]; split <;> simp [bytesOf, feed]⟩
  | succ budget ih =>
    cases stream with
    | nil => exact ⟨0, Nat.le_refl 0, Nat.zero_le _, rfl, by simp only [serviceRxLoop]; split <;> simp [bytesOf, feed]⟩
    | cons head stream =>
      cases head with
      | none => exact ⟨0, Nat.zero_le _, Nat.zero_le _, rfl, by simp [serviceRxLoop, bytesOf, feed]⟩
      | some byte =>
        unfold serviceRxLoop
        dsimp only
        split
        · refine ⟨1, by rw [List.length_cons]; omega, by omega, rfl, ?_⟩
          simp [bytesOf, feed]
        · rename_i hnone
          rw [not_not] at hnone
          obtain ⟨k, hk, hbudget, hread, hfeed⟩ := ih (parser.consume [byte]).1 (bytesRead + 1) (parser.consume [byte]).2 stream
          refine ⟨k + 1, by rw [List.length_cons]; omega, by omega, by rw [hread]; omega, ?_⟩
          have hbytes : bytesOf (some byte :: stream) (k + 1) = byte :: bytesOf stream k := rfl
          rw [hbytes, feed_cons, hfeed]
          simp [StreamResult.reports, hnone]

/-- Calls of `serviceRx`, each with its budget and what the stream offers: the bytes that were read and the events that
were returned. -/
def receive (t : Transport) : List (ℕ × List (Option UInt8)) → Transport × Bytes × List Report
  | [] => (t, [], [])
  | (budget, stream) :: calls =>
    let (t', result) := t.serviceRx budget stream
    let (t'', bytes, reports) := t'.receive calls
    (t'', bytesOf stream result.bytesRead ++ bytes,
      (if result.status = .parserEvent then result.parserResult.reports else []) ++ reports)

theorem receive_feed (t : Transport) (calls : List (ℕ × List (Option UInt8))) :
    t.parser.feed (t.receive calls).2.1 = ((t.receive calls).1.parser, (t.receive calls).2.2) := by
  induction calls generalizing t with
  | nil => rfl
  | cons call calls ih =>
    obtain ⟨budget, stream⟩ := call
    obtain ⟨k, -, -, hread, hfeed⟩ := serviceRxLoop_feed t.parser 0 default budget stream
    rw [Nat.zero_add] at hread
    have hrest := ih { t with parser := (serviceRxLoop t.parser 0 default budget stream).1 }
    dsimp only at hrest
    simp only [receive, serviceRx, hread, feed_append, hfeed, hrest]
    rfl

end Transport

/-! ### What follows for frames -/

/-- The event of a frame. -/
def frameReport (frame : Frame) : Report := ⟨.frameReady, .ok, frame⟩

theorem candidateReport_encoded {frame : Frame} (h : frame.Sendable) :
    candidateReport (stuffed [] (frameBytes frame)) = frameReport frame := by
  have hshort : frame.payload.length ≤ 128 := h.short
  rw [candidateReport, if_neg, decodeFrame_iff.2 ⟨h, rfl⟩]
  · rfl
  · rw [length_stuffed_nil, length_frameBytes, maxCobsCandidateSize, minDecodedFrameSize]
    omega

theorem closed_encoded {frame : Frame} (h : frame.Sendable) :
    closed frameDelimiter (stuffed [] (frameBytes frame) ++ [frameDelimiter]) = [stuffed [] (frameBytes frame)] := by
  have hfree : frameDelimiter ∉ stuffed [] (frameBytes frame) := by
    obtain ⟨body, hbody, hz⟩ := endsAtDelimiter_stuffed h.short
    rw [(List.append_left_inj _).1 hbody]
    exact fun hc => hz _ hc rfl
  rw [closed_append_delimiter, closed_of_free hfree, opened_of_free hfree, List.nil_append]

/-- A frame is delivered where the stream begins anew. -/
theorem streamEvents_frame {stream : Bytes} (hs : opened frameDelimiter stream = []) {frame : Frame} {encoded : Bytes}
    (h : decodeFrame encoded = (.ok, frame)) (rest : Bytes) :
    streamEvents (stream ++ encoded ++ rest) = streamEvents stream ++ frameReport frame :: streamEvents rest := by
  obtain ⟨hsend, rfl⟩ := decodeFrame_inv h
  have hclosed := closed_encoded hsend
  have hopen : opened frameDelimiter (stuffed [] (frameBytes frame) ++ [frameDelimiter]) = [] :=
    opened_append_delimiter _
  have hne := stuffed_ne_nil (frameBytes frame)
  have hreport : reportsOf [stuffed [] (frameBytes frame)] = [frameReport frame] := by
    simp [reportsOf, hne, candidateReport_encoded hsend]
  rw [List.append_assoc, streamEvents, closed_after hs, closed_after hopen, hclosed, reportsOf_append, reportsOf_append,
    hreport]
  rfl

/-- A frame that is delivered was one piece of the stream, from one delimiter to the next. -/
theorem exists_of_frameReport {stream : Bytes} {report : Report} (h : report ∈ streamEvents stream)
    (hready : report.event = .frameReady) :
    ∃ past candidate rest, stream = past ++ (candidate ++ [frameDelimiter]) ++ rest ∧ frameDelimiter ∉ candidate ∧
      opened frameDelimiter past = [] ∧ decodeFrame (candidate ++ [frameDelimiter]) = (.ok, report.frame) := by
  obtain ⟨candidate, hmem, rfl⟩ := List.mem_map.1 h
  obtain ⟨past, rest, rfl, hfree, hopen⟩ := mem_closed (List.mem_filter.1 hmem).1
  refine ⟨past, candidate, rest, by simp, hfree, hopen, ?_⟩
  unfold candidateReport at hready ⊢
  split at hready
  · cases hready
  · rename_i hlen
    rw [if_neg hlen]
    dsimp only at hready ⊢
    split at hready
    · rename_i hok
      exact Prod.ext hok rfl
    · cases hready

/-- What the parser of the Host link does with a stream. -/
structure ParsesStreams : Prop where
  /-- The bytes in chunks, in any split. -/
  chunks : ∀ chunks : List Bytes, (StreamParser.reset.feedChunks chunks).2 = streamEvents chunks.flatten
  /-- The bytes through the transport, with any budgets and whatever the stream offers to each call. -/
  calls : ∀ calls : List (ℕ × List (Option UInt8)),
    (Transport.initial.receive calls).2.2 = streamEvents (Transport.initial.receive calls).2.1
  /-- After garbage and a delimiter the next frame is delivered. -/
  resynchronises : ∀ garbage encoded rest frame, decodeFrame encoded = (.ok, frame) →
    streamEvents (garbage ++ [frameDelimiter] ++ encoded ++ rest) =
      streamEvents (garbage ++ [frameDelimiter]) ++ frameReport frame :: streamEvents rest
  /-- No frame is delivered from bytes on both sides of a delimiter. -/
  within : ∀ stream, ∀ report ∈ streamEvents stream, report.event = .frameReady →
    ∃ past candidate rest, stream = past ++ (candidate ++ [frameDelimiter]) ++ rest ∧ frameDelimiter ∉ candidate ∧
      opened frameDelimiter past = [] ∧ decodeFrame (candidate ++ [frameDelimiter]) = (.ok, report.frame)
  /-- The index stays in the buffer, after every byte. -/
  bounded : ∀ stream, (StreamParser.reset.feed stream).1.candidate.length ≤ maxCobsCandidateSize

/-- **The parser resynchronises and does not depend on the split.** -/
theorem parsesStreams : ParsesStreams where
  chunks := fun chunks => by rw [StreamParser.feedChunks_feed, StreamParser.feed_reset]
  calls := fun calls => by
    have hfeed := Transport.receive_feed Transport.initial calls
    rw [show Transport.initial.parser = StreamParser.reset from rfl, StreamParser.feed_reset, Prod.mk.injEq] at hfeed
    exact hfeed.2.symm
  resynchronises := fun garbage encoded rest frame h => streamEvents_frame (opened_append_delimiter garbage) h rest
  within := fun stream report h hready => exists_of_frameReport h hready
  bounded := fun stream => by
    rw [StreamParser.feed_reset]
    exact StreamParser.length_partialParser _

end Redline.Host
