import StaticServer.Proofs.Resuming

/-!
# Cuts

A stream arrives in pieces, each of which is copied into the buffer or read into it in attempts of any size, and after
each piece the reader reads on. Where the stream is cut does not matter.

* `Piece.enter_eq_receive`: a piece that is read is received like one that is copied.
* `RequestReader.feed`: a stream read piece by piece.
* `RequestReader.feed_matches`: a stream read piece by piece comes to what it comes to as a whole.
-/

namespace StaticServer

/-- One attempt of a reading that goes on behind it: some octets, at least one, or an interruption. -/
inductive Attempt
  | octets (first : UInt8) (rest : Bytes)
  | interrupted
  deriving DecidableEq, Repr

def Attempt.toArrival : Attempt → Arrival
  | octets first rest => .data (first :: rest)
  | interrupted => .failure .interrupted

/-- A piece of a stream on its way into a buffer: copied, or read until nothing more of it is there. -/
inductive Piece
  | copied (octets : Bytes)
  /-- Behind the last attempt, the reading has to wait, or finds that the piece has ended. -/
  | read (attempts : List Attempt) (ended : Bool)
  deriving DecidableEq, Repr

namespace Piece

/-- The reads to come of a piece that is read. -/
def arrivals (attempts : List Attempt) (ended : Bool) : List Arrival :=
  attempts.map Attempt.toArrival ++ [if ended then .data [] else .failure .wouldBlock]

def octets : Piece → Bytes
  | copied octets => octets
  | read attempts ended => Exchange.unreadOctets (arrivals attempts ended)

/-- The buffer with a piece in it, as much of it as fits. -/
def enter (b : LineBuffer) : Piece → LineBuffer
  | copied octets => b.receive octets
  | read attempts ended => (b.fill (arrivals attempts ended)).buffer

theorem fill_arrivals {b : LineBuffer} (hb : b.Ordered) (attempts : List Attempt) (ended : Bool) :
    (b.fill (arrivals attempts ended)).buffer = b.receive (octets (.read attempts ended)) := by
  induction attempts generalizing b with
  | nil =>
    by_cases hf : b.isFull = true <;> cases ended <;> simp [arrivals, octets, LineBuffer.fill, hf]
  | cons attempt rest ih =>
    by_cases hf : b.isFull = true
    · rw [LineBuffer.receive_of_isFull hb hf]
      cases attempt <;> simp [arrivals, LineBuffer.fill, hf]
    cases attempt with
    | interrupted =>
      simp only [arrivals, List.map_cons, List.cons_append, Attempt.toArrival, LineBuffer.fill, if_neg hf]
      exact ih hb
    | octets first more =>
      have ho : octets (.read (.octets first more :: rest) ended) = first :: more ++ octets (.read rest ended) := rfl
      rw [ho, ← LineBuffer.receive_receive hb]
      simp only [arrivals, List.map_cons, List.cons_append, Attempt.toArrival, LineBuffer.fill, if_neg hf]
      split
      · exact ih (hb.receive _)
      · next hl =>
        -- the octets that do not fit fill the buffer, so nothing behind them enters
        refine (LineBuffer.receive_of_room ?_ _).symm
        rw [LineBuffer.room_receive hb]
        exact Nat.sub_eq_zero_of_le (Nat.le_of_not_le hl)

/-- A piece that is read is received like one that is copied. -/
theorem enter_eq_receive {b : LineBuffer} (hb : b.Ordered) (piece : Piece) :
    piece.enter b = b.receive piece.octets := by
  cases piece with
  | copied octets => rfl
  | read attempts ended => exact fill_arrivals hb attempts ended

end Piece

namespace RequestReader

/-- Reads on after each piece of a stream, up to the first request or error. -/
def feed (reader : RequestReader) (buffer : LineBuffer) (piece : Piece) : List Piece → Advance
  | [] => reader.advance (piece.enter buffer)
  | next :: rest =>
    let result := reader.advance (piece.enter buffer)
    match result.outcome with
    | .ok none => feed result.reader result.buffer next rest
    | _ => result

theorem feed_cons_of_waiting {reader : RequestReader} {b : LineBuffer} {piece : Piece}
    (h : (advance reader (piece.enter b)).outcome = .ok none) (next : Piece) (rest : List Piece) :
    feed reader b piece (next :: rest) =
      feed (advance reader (piece.enter b)).reader (advance reader (piece.enter b)).buffer next rest := by
  simp only [feed, h]

theorem feed_cons_of_finished {reader : RequestReader} {b : LineBuffer} {piece : Piece}
    (h : (advance reader (piece.enter b)).outcome ≠ .ok none) (next : Piece) (rest : List Piece) :
    feed reader b piece (next :: rest) = advance reader (piece.enter b) := by
  rw [feed]
  split
  · next ho => exact absurd ho h
  · rfl

/-- A stream read piece by piece comes to what it comes to as a whole, but for the octets behind the request or error
found, which have not been received. -/
theorem feed_matches (reader : RequestReader) {b : LineBuffer} (hb : b.Ordered) (piece : Piece) (rest : List Piece) :
    ∃ behind, Advance.Matches (advance reader (b.receive ((piece :: rest).flatMap Piece.octets)))
        { feed reader b piece rest with buffer := (feed reader b piece rest).buffer.receive behind } ∧
      ((feed reader b piece rest).outcome = .ok none → behind = []) := by
  induction rest generalizing reader b piece with
  | nil =>
    refine ⟨[], ?_, fun _ => rfl⟩
    rw [LineBuffer.receive_nil, feed, Piece.enter_eq_receive hb, List.flatMap_singleton]
    exact .refl _
  | cons next rest ih =>
    have he := Piece.enter_eq_receive hb piece
    have hp := hb.receive piece.octets
    rw [List.flatMap_cons, ← LineBuffer.receive_receive hb]
    by_cases hw : (advance reader (b.receive piece.octets)).outcome = .ok none
    · rw [feed_cons_of_waiting (he ▸ hw), he]
      have ho := (keeps_advance reader hp).ordered
      obtain ⟨behind, hm, hn⟩ := ih (advance reader (b.receive piece.octets)).reader ho next
      exact ⟨behind, (advance_receive_of_waiting hp hw _).trans hm, hn⟩
    · rw [feed_cons_of_finished (he ▸ hw), he]
      refine ⟨(next :: rest).flatMap Piece.octets, ?_, fun hn => absurd hn hw⟩
      rw [advance_receive_of_finished hp hw]
      exact .refl _

/-- Where a stream is cut, and how its pieces enter the buffer, does not matter: the request and the positions behind
it, the error, or the state of the reader and all positions are those of reading the stream as a whole. -/
theorem feed_eq_advance (capacity : Nat) (piece : Piece) (rest : List Piece) :
    let cut := feed .requestLine (.ofCapacity capacity) piece rest
    let whole := advance .requestLine ((LineBuffer.ofCapacity capacity).receive ((piece :: rest).flatMap Piece.octets))
    cut.outcome = whole.outcome ∧ cut.reader = whole.reader ∧
      (∀ r, whole.outcome = .ok (some r) → cut.buffer.cursor.scan = whole.buffer.cursor.scan ∧
        cut.buffer.cursor.lineStart = whole.buffer.cursor.lineStart) ∧
      (whole.outcome = .ok none → cut.buffer.cursor = whole.buffer.cursor) := by
  intro cut whole
  obtain ⟨behind, hm, hn⟩ := feed_matches .requestLine (LineBuffer.ordered_ofCapacity capacity) piece rest
  have ho : whole.outcome = cut.outcome := hm.outcome
  refine ⟨ho.symm, hm.reader.symm, ?_, ?_⟩
  · intro r hr
    have hc : whole.buffer.cursor = (cut.buffer.receive behind).cursor := (hm.buffer ⟨some r, hr⟩).cursor
    rw [hc, LineBuffer.scan_receive, LineBuffer.lineStart_receive]
    exact ⟨rfl, rfl⟩
  · intro hr
    have hc := (hm.buffer ⟨none, hr⟩).cursor
    rw [hn (ho ▸ hr), LineBuffer.receive_nil] at hc
    exact hc.symm

end RequestReader

end StaticServer
