import StaticServer.Request.Reader
import StaticServer.Site

/-!
# Answers to a stream

What a client receives for the octets it has sent, however they arrived: the requests are read one after the other, and
each is answered, until one of them is not complete yet or its response does not keep the connection.

* `Site.answers`: the responses, and whether the connection is kept behind them.
* `Request.pos_of_ofBytes`: a request takes octets off its stream.
-/

namespace StaticServer

namespace LineBuffer

theorem scan_le_scan_scanLine (b : LineBuffer) : b.cursor.scan ≤ b.scanLine.2.cursor.scan := by
  rw [scanLine]
  split
  · next i hi =>
    have := Terminator.le_of_seek_at hi
    simp only
    omega
  · next i hi => exact Terminator.le_of_seek_missing hi
  · exact Nat.le_refl _

theorem scan_le_of_scanLine {b b' : LineBuffer} {line : Line} (h : b.scanLine = (line, b')) :
    b.cursor.scan ≤ b'.cursor.scan := by
  simpa [h] using b.scan_le_scan_scanLine

theorem pos_scan_of_scanLine {b b' : LineBuffer} {start stop : Nat} (h : b.scanLine = (.complete start stop, b')) :
    0 < b'.cursor.scan := by
  rw [scanLine] at h
  split at h
  · cases h
    exact Nat.succ_pos _
  · cases h
  · cases h

theorem scan_le_scan_takeBody (b : LineBuffer) (length : Nat) : b.cursor.scan ≤ (b.takeBody length).2.cursor.scan := by
  rw [takeBody]
  split
  · exact Nat.le_refl _
  · exact Nat.le_add_right _ _

end LineBuffer

namespace RequestReader

theorem scan_le_scan_advanceBody (r : Request) (b : LineBuffer) :
    b.cursor.scan ≤ (advanceBody r b).buffer.cursor.scan := by
  have h := b.scan_le_scan_takeBody r.contentLength
  rw [advanceBody]
  split
  · exact Nat.le_refl _
  · split
    · next hb => simpa [hb] using h
    · next hb => simpa [hb] using h

/-- Reading on never goes back. -/
theorem scan_le_scan_advance (reader : RequestReader) (b : LineBuffer) :
    b.cursor.scan ≤ (advance reader b).buffer.cursor.scan := by
  fun_induction advance reader b with
  | case1 b r => exact scan_le_scan_advanceBody r b
  | case2 => exact LineBuffer.scan_le_of_scanLine ‹_›
  | case3 => exact LineBuffer.scan_le_of_scanLine ‹_›
  | case4 =>
    rw [‹takeLine _ _ = _›]
    exact LineBuffer.scan_le_of_scanLine ‹_›
  | case5 =>
    rw [‹takeLine _ _ = _›]
    exact LineBuffer.scan_le_of_scanLine ‹_›
  | case6 _ _ _ _ _ _ _ _ _ _ ih =>
    rw [‹takeLine _ _ = _›]
    exact Nat.le_trans (LineBuffer.scan_le_of_scanLine ‹_›) ih

/-- A complete request takes octets off the buffer. -/
theorem pos_scan_of_advance {b : LineBuffer} {r : Request}
    (h : (advance .requestLine b).outcome = .ok (some r)) : 0 < (advance .requestLine b).buffer.cursor.scan := by
  unfold advance at h ⊢
  simp only at h ⊢
  split at h
  · cases h
  · split at h <;> cases h
  · next start stop b' hs =>
    have hpos := LineBuffer.pos_scan_of_scanLine hs
    split at h
    · cases h
    · next hl => simpa only [hl] using hpos
    · next next hl => simpa only [hl] using Nat.lt_of_lt_of_le hpos (scan_le_scan_advance _ _)

end RequestReader

/-- A request takes octets off its stream. -/
theorem Request.pos_of_ofBytes {data : Bytes} {r : Request} {n : Nat} (h : Request.ofBytes data = .ok (r, n)) :
    0 < n := by
  simp only [Request.ofBytes] at h
  split at h
  · cases h
  · cases h
  · next hr =>
    cases h
    exact RequestReader.pos_scan_of_advance hr

/-- What becomes of a connection behind its responses. -/
inductive Ending
  /-- It waits for the rest of a request. -/
  | kept
  | closed
  deriving DecidableEq, Repr

/-- A way to answer the first request of a stream, once it is complete or known to be wrong. -/
structure Answering where
  /-- The response, and how many octets the request takes. -/
  first? : Bytes → Option (Response × Nat)
  pos : ∀ {octets response n}, first? octets = some (response, n) → response.keepAlive = true → 0 < n

/-- The responses to a stream of which all of `octets` has been sent and nothing more, and what becomes of the
connection. -/
def Answering.answers (a : Answering) (octets : Bytes) : List Response × Ending :=
  if octets.isEmpty then ([], .kept)
  else
    match _h : a.first? octets with
    | none => ([], .kept)
    | some (response, n) =>
      if response.keepAlive then
        let (more, ending) := a.answers (octets.drop n)
        (response :: more, ending)
      else ([response], .closed)
termination_by octets.length
decreasing_by
  have hn := a.pos _h ‹_›
  have : octets.length ≠ 0 := by simp_all
  rw [List.length_drop]
  omega

namespace Site

/-- The response to the first request of a stream, and how many octets the request takes. -/
def answerFirst? (site : Site) (octets : Bytes) : Option (Response × Nat) :=
  match Request.ofBytes octets with
  | .error .incomplete => none
  | .error _ => some (.ofError .badRequest, octets.length)
  | .ok (request, n) => some (site.respond request.path request.keepAlive, n)

theorem pos_of_answerFirst? {site : Site} {octets : Bytes} {response : Response} {n : Nat}
    (h : site.answerFirst? octets = some (response, n)) (hk : response.keepAlive = true) : 0 < n := by
  rw [answerFirst?] at h
  split at h
  · cases h
  · cases h
    cases hk
  · next hr =>
    cases h
    exact Request.pos_of_ofBytes hr

/-- The way a site answers. -/
def answering (site : Site) : Answering := { first? := site.answerFirst?, pos := pos_of_answerFirst? }

/-- The responses of a site to a stream, and what becomes of the connection. -/
def answers (site : Site) (octets : Bytes) : List Response × Ending := site.answering.answers octets

end Site

end StaticServer
