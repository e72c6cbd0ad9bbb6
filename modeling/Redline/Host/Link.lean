import Redline.Host.Stream

/-!
# Frames over the Host link

The sending side of the adapter: frames are submitted, accepted or refused, and written in as many pieces as the stream
takes.  `Link` keeps beside the adapter what the stream has taken so far and which frames were accepted.

`Sending` is the invariant: the stream has taken every accepted frame but the pending one, and of that one the bytes
before the offset.  The delimiter of the pending frame is its last byte, so a parser at the other end has delivered the
frames before it and none of it.
-/

namespace Redline.Host

open Redline.Wire Redline.Lib

/-- An adapter that sends: what was taken of it, and the frames it accepted. -/
structure Link where
  transport : Transport
  written : Bytes
  accepted : List Bytes

inductive LinkCall
  | submit (frame : Bytes)
  | serviceTx (budget : ℕ) (writable : Int) (accepts : ℕ)

/-- The bytes that `serviceTx` gives to the stream; none where it does not write. -/
def Transport.offered (t : Transport) (budget : ℕ) (writable : Int) : Bytes :=
  if t.pending.length = 0 ∨ budget = 0 ∨ writable ≤ 0 then []
  else (t.pending.drop t.pendingOffset).take (min (min writable.toNat budget) t.remainingTx)

namespace Link

def initial : Link := ⟨.initial, [], []⟩

/-- A call.  The stream takes the first `accepts` bytes of what it is given, or all of them. -/
def step (link : Link) : LinkCall → Link
  | .submit frame =>
    let (transport, status) := link.transport.submit frame
    if status = .ok then { link with transport, accepted := link.accepted ++ [frame] } else { link with transport }
  | .serviceTx budget writable accepts =>
    let taken := (link.transport.offered budget writable).take accepts
    { link with
      transport := (link.transport.serviceTx budget writable taken.length).1
      written := link.written ++ taken }

def run (calls : List LinkCall) : Link := calls.foldl step initial

/-! ### The invariant -/

/-- The frame is one that the decoder accepts. -/
def Valid (encoded : Bytes) : Prop := (decodeFrame encoded).1 = .ok

inductive Sending : Link → Prop
  | idle {parser : StreamParser} {accepted : List Bytes} (valid : ∀ encoded ∈ accepted, Valid encoded) :
      Sending ⟨⟨parser, [], 0⟩, accepted.flatten, accepted⟩
  | pending {parser : StreamParser} {past : List Bytes} {encoded : Bytes} {offset : ℕ}
      (valid : ∀ encoded ∈ past, Valid encoded) (hencoded : Valid encoded) (hoffset : offset < encoded.length) :
      Sending ⟨⟨parser, encoded, offset⟩, past.flatten ++ encoded.take offset, past ++ [encoded]⟩

theorem Sending.submit {link : Link} (h : Sending link) (frame : Bytes) : Sending (link.step (.submit frame)) := by
  cases h with
  | @idle parser accepted valid =>
    unfold step
    simp only [Transport.submit, List.length_nil, ne_eq, not_true_eq_false, if_false]
    split
    · simpa using Sending.idle valid
    · rename_i hlen
      split
      · simpa using Sending.idle valid
      · rename_i hvalid
        rw [not_not] at hvalid
        have hpos : 0 < frame.length := by omega
        have hpending : Sending ⟨⟨parser, frame, 0⟩, accepted.flatten ++ frame.take 0, accepted ++ [frame]⟩ :=
          .pending valid hvalid hpos
        rw [List.take_zero, List.append_nil] at hpending
        simpa using hpending
  | @pending parser past encoded offset valid hencoded hoffset =>
    have hbusy : Transport.submit ⟨parser, encoded, offset⟩ frame = (⟨parser, encoded, offset⟩, .busy) :=
      if_pos (by dsimp only; omega)
    unfold step
    simp only [hbusy]
    exact Sending.pending valid hencoded hoffset

theorem Sending.serviceTx {link : Link} (h : Sending link) (budget : ℕ) (writable : Int) (accepts : ℕ) :
    Sending (link.step (.serviceTx budget writable accepts)) := by
  cases h with
  | @idle parser accepted valid =>
    unfold step
    simpa [Transport.offered, Transport.serviceTx] using Sending.idle valid
  | @pending parser past encoded offset valid hencoded hoffset =>
    have hstay : Sending ⟨⟨parser, encoded, offset⟩, past.flatten ++ encoded.take offset, past ++ [encoded]⟩ :=
      .pending valid hencoded hoffset
    have hne : encoded.length ≠ 0 := by omega
    by_cases hwrites : budget = 0 ∨ writable ≤ 0
    · -- nothing is given to the stream
      have hoffered : Transport.offered ⟨parser, encoded, offset⟩ budget writable = [] := if_pos (.inr hwrites)
      unfold step
      simp only [hoffered, List.take_nil, List.length_nil, List.append_nil, Transport.serviceTx, if_neg hne]
      split
      · exact hstay
      · rename_i hbudget
        rw [if_pos (hwrites.resolve_left hbudget)]
        exact hstay
    · rw [not_or] at hwrites
      set attempt := min (min writable.toNat budget) (encoded.length - offset) with hattempt
      have hoffered : Transport.offered ⟨parser, encoded, offset⟩ budget writable = (encoded.drop offset).take attempt :=
        if_neg (by rw [not_or, not_or]; exact ⟨hne, hwrites.1, hwrites.2⟩)
      have hle : attempt ≤ encoded.length - offset := Nat.min_le_right _ _
      have htaken : ((encoded.drop offset).take attempt).take accepts =
          (encoded.drop offset).take (min accepts attempt) := List.take_take
      have hlen : ((encoded.drop offset).take (min accepts attempt)).length = min accepts attempt := by
        rw [List.length_take, List.length_drop]
        omega
      have hwritten : encoded.take offset ++ (encoded.drop offset).take (min accepts attempt) =
          encoded.take (offset + min accepts attempt) := List.take_add.symm
      unfold step
      simp only [hoffered, htaken, hlen, List.append_assoc, hwritten, Transport.serviceTx, if_neg hne, if_neg hwrites.1,
        if_neg hwrites.2, Transport.remainingTx, ← hattempt, if_neg (Nat.not_lt.2 (Nat.min_le_right accepts attempt))]
      split
      · rename_i hzero
        rw [hzero, Nat.add_zero]
        exact hstay
      · split
        · rename_i hall
          rw [hall, List.take_length]
          have hvalid : ∀ e ∈ past ++ [encoded], Valid e := by
            intro e he
            rcases List.mem_append.1 he with he | he
            · exact valid e he
            · rw [List.mem_singleton.1 he]
              exact hencoded
          have hidle : Sending ⟨⟨parser, [], 0⟩, (past ++ [encoded]).flatten, past ++ [encoded]⟩ := .idle hvalid
          simpa using hidle
        · exact Sending.pending valid hencoded (by omega)

theorem Sending.run (calls : List LinkCall) : Sending (Link.run calls) := by
  have hstep : ∀ link call, Sending link → Sending (link.step call) := by
    intro link call h
    cases call with
    | submit frame => exact h.submit frame
    | serviceTx budget writable accepts => exact h.serviceTx budget writable accepts
  have hnone : ∀ encoded ∈ ([] : List Bytes), Valid encoded := by simp
  have hinitial : Sending initial := .idle hnone
  unfold Link.run
  generalize initial = link at hinitial
  induction calls generalizing link with
  | nil => exact hinitial
  | cons call calls ih => exact ih _ (hstep link call hinitial)

/-! ### What a parser delivers -/

/-- The event of an accepted frame. -/
def delivery (encoded : Bytes) : Report := frameReport (decodeFrame encoded).2

theorem Valid.decodes {encoded : Bytes} (h : Valid encoded) : decodeFrame encoded = (.ok, (decodeFrame encoded).2) :=
  Prod.ext h rfl

theorem streamEvents_flatten {frames : List Bytes} (h : ∀ encoded ∈ frames, Valid encoded) :
    streamEvents frames.flatten = frames.map delivery := by
  induction frames with
  | nil => simp [streamEvents, reportsOf]
  | cons encoded frames ih =>
    have hframe := streamEvents_frame (opened_nil (d := frameDelimiter)) (h encoded List.mem_cons_self).decodes
      frames.flatten
    rw [List.nil_append] at hframe
    rw [List.flatten_cons, hframe, ih fun e he => h e (List.mem_cons_of_mem _ he)]
    simp [streamEvents, reportsOf, delivery]

/-- The delimiter is the last byte of a frame. -/
theorem Valid.not_mem_take {encoded : Bytes} (h : Valid encoded) {offset : ℕ} (hoffset : offset < encoded.length) :
    frameDelimiter ∉ encoded.take offset := by
  obtain ⟨hsend, hencoded⟩ := decodeFrame_inv h.decodes
  obtain ⟨body, hbody, hfree⟩ := endsAtDelimiter_stuffed hsend.short
  rw [hencoded, hbody] at hoffset ⊢
  rw [List.length_append, List.length_singleton] at hoffset
  rw [List.take_append_of_le_length (by omega)]
  intro hc
  exact hfree _ (List.mem_of_mem_take hc) rfl

theorem streamEvents_append_free (stream : Bytes) {bytes : Bytes} (h : frameDelimiter ∉ bytes) :
    streamEvents (stream ++ bytes) = streamEvents stream := by
  rw [streamEvents, closed_append_free stream h, streamEvents]

/-- The accepted frames that are written to their end. -/
def complete (link : Link) : List Bytes := if link.transport.hasPendingTx then link.accepted.dropLast else link.accepted

/-- What holds of the bytes on the wire. -/
structure DeliversIntact (link : Link) : Prop where
  /-- The bytes of the accepted frames, in order, up to some point. -/
  written_prefix : link.written <+: link.accepted.flatten
  /-- All of them, when nothing is pending. -/
  written_all : link.transport.hasPendingTx = false → link.written = link.accepted.flatten
  /-- Every accepted frame decodes. -/
  valid : ∀ encoded ∈ link.accepted, Valid encoded
  /-- A parser, in any split, delivers the frames that are complete and nothing else. -/
  delivered : ∀ chunks : List Bytes, chunks.flatten = link.written →
    (StreamParser.reset.feedChunks chunks).2 = link.complete.map delivery

theorem Sending.deliversIntact {link : Link} (h : Sending link) : DeliversIntact link := by
  have hparse : ∀ chunks : List Bytes, (StreamParser.reset.feedChunks chunks).2 = streamEvents chunks.flatten := by
    intro chunks
    rw [StreamParser.feedChunks_feed, StreamParser.feed_reset]
  cases h with
  | @idle parser accepted valid =>
    refine ⟨List.prefix_refl _, fun _ => rfl, valid, fun chunks hchunks => ?_⟩
    rw [hparse, hchunks]
    exact streamEvents_flatten valid
  | @pending parser past encoded offset valid hencoded hoffset =>
    have hpending : Transport.hasPendingTx ⟨parser, encoded, offset⟩ = true := by
      simp only [Transport.hasPendingTx, bne_iff_ne]
      omega
    refine ⟨?_, fun hc => ?_, fun e he => ?_, fun chunks hchunks => ?_⟩
    · refine ⟨encoded.drop offset, ?_⟩
      simp
    · rw [hpending] at hc
      cases hc
    · rcases List.mem_append.1 he with he | he
      · exact valid e he
      · rw [List.mem_singleton.1 he]
        exact hencoded
    · rw [hparse, hchunks, streamEvents_append_free _ (hencoded.not_mem_take hoffset), streamEvents_flatten valid,
        complete, if_pos hpending, List.dropLast_concat]

/-- **The link delivers frames intact**, in every run of submissions and writes. -/
theorem run_deliversIntact (calls : List LinkCall) : DeliversIntact (run calls) := (Sending.run calls).deliversIntact

end Link

end Redline.Host
