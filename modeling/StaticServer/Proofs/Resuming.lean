import StaticServer.Proofs.Received

/-!
# Reading on

A reader that is called again when more octets are there ends where one call for all of them would have ended. Its
outcome is decided by the octets it has looked at: a request or an error stays what it is with more octets behind.

* `RequestReader.keeps_advance`: reading on only moves positions.
* `RequestReader.advance_alike`: buffers that cannot be told apart are read alike.
* `RequestReader.advance_receive_of_finished`: a request or an error is not changed by what comes behind it.
* `RequestReader.advance_receive_of_waiting`: a reader that waits goes on where it stopped.
-/

namespace StaticServer

namespace RequestReader

variable {reader : RequestReader} {b c : LineBuffer}

/-! ## What one call does -/

theorem advance_body (r : Request) (b : LineBuffer) : advance (.body r) b = advanceBody r b := by
  rw [advance]

theorem advance_of_malformed (hr : ∀ r, reader ≠ .body r) (hs : b.scanLine = (.malformed, c)) :
    advance reader b = { outcome := .error .malformedLine, reader := reader, buffer := c } := by
  rw [advance]
  · split <;> simp_all
  · exact hr

theorem advance_of_incomplete (hr : ∀ r, reader ≠ .body r) (hs : b.scanLine = (.incomplete, c)) :
    advance reader b =
      { outcome := if c.isFull then .error .tooLarge else .ok none, reader := reader, buffer := c } := by
  rw [advance]
  · split <;> simp_all
  · exact hr

section Complete

variable {start stop : Nat}

theorem advance_of_refused (hr : ∀ r, reader ≠ .body r) (hs : b.scanLine = (.complete start stop, c))
    {e : RequestError} (ht : takeLine reader (c.slice start stop) = .error e) :
    advance reader b = { outcome := .error e, reader := reader, buffer := c } := by
  rw [advance]
  · split <;> simp_all
  · exact hr

theorem advance_of_request (hr : ∀ r, reader ≠ .body r) (hs : b.scanLine = (.complete start stop, c)) {r : Request}
    (ht : takeLine reader (c.slice start stop) = .ok (.inr r)) :
    advance reader b = { outcome := .ok (some r), reader := .requestLine, buffer := c } := by
  rw [advance]
  · split <;> simp_all
  · exact hr

theorem advance_of_next (hr : ∀ r, reader ≠ .body r) (hs : b.scanLine = (.complete start stop, c))
    {next : RequestReader} (ht : takeLine reader (c.slice start stop) = .ok (.inl next)) :
    advance reader b = advance next c := by
  rw [advance]
  · split <;> simp_all
  · exact hr

end Complete

theorem advanceBody_of_large {r : Request} (h : b.roomAfterScan < r.contentLength) :
    advanceBody r b = { outcome := .error .tooLarge, reader := .body r, buffer := b } := by
  rw [advanceBody, if_pos h]

theorem advanceBody_of_lt {r : Request} (h : r.contentLength ≤ b.roomAfterScan) (hu : b.unscanned < r.contentLength) :
    advanceBody r b = { outcome := .ok none, reader := .body r, buffer := b } := by
  rw [advanceBody, if_neg (Nat.not_lt.mpr h), LineBuffer.takeBody_of_lt hu]

theorem advanceBody_of_le {r : Request} (h : r.contentLength ≤ b.roomAfterScan) (hu : r.contentLength ≤ b.unscanned) :
    advanceBody r b = { outcome := .ok (some r), reader := .requestLine,
                        buffer := b.restartAt (b.cursor.scan + r.contentLength) } := by
  rw [advanceBody, if_neg (Nat.not_lt.mpr h), LineBuffer.takeBody_of_le hu]

/-- What reading a body does: it is too large, not all there, or cut off. -/
theorem advanceBody_cases (r : Request) (b : LineBuffer) :
    (b.roomAfterScan < r.contentLength ∧
      advanceBody r b = { outcome := .error .tooLarge, reader := .body r, buffer := b }) ∨
    (r.contentLength ≤ b.roomAfterScan ∧ b.unscanned < r.contentLength ∧
      advanceBody r b = { outcome := .ok none, reader := .body r, buffer := b }) ∨
    (r.contentLength ≤ b.roomAfterScan ∧ r.contentLength ≤ b.unscanned ∧
      advanceBody r b = { outcome := .ok (some r), reader := .requestLine,
                          buffer := b.restartAt (b.cursor.scan + r.contentLength) }) := by
  rcases Nat.lt_or_ge b.roomAfterScan r.contentLength with h | h
  · exact Or.inl ⟨h, advanceBody_of_large h⟩
  · rcases Nat.lt_or_ge b.unscanned r.contentLength with hu | hu
    · exact Or.inr (Or.inl ⟨h, hu, advanceBody_of_lt h hu⟩)
    · exact Or.inr (Or.inr ⟨h, hu, advanceBody_of_le h hu⟩)

/-! ## Only positions move -/

/-- What reading on keeps of a buffer. -/
structure Keeps (b c : LineBuffer) : Prop where
  ordered : c.Ordered
  filled : c.cursor.filled = b.cursor.filled
  capacity : c.capacity = b.capacity
  received : c.received = b.received

theorem Keeps.trans {d : LineBuffer} (h : Keeps b c) (h' : Keeps c d) : Keeps b d :=
  ⟨h'.ordered, h'.filled.trans h.filled, h'.capacity.trans h.capacity, h'.received.trans h.received⟩

theorem Keeps.isFull (h : Keeps b c) : c.isFull = b.isFull := by
  rw [LineBuffer.isFull, LineBuffer.isFull, h.filled, h.capacity]

theorem keeps_scanLine (hb : b.Ordered) {line : Line} (hs : b.scanLine = (line, c)) : Keeps b c := by
  have ho := hb.scanLine
  rw [hs] at ho
  cases LineBuffer.scanned_of_scanLine hb hs with
  | complete => exact ⟨ho, rfl, rfl, rfl⟩
  | incomplete => exact ⟨ho, rfl, rfl, rfl⟩
  | malformed => exact ⟨ho, rfl, rfl, rfl⟩

/-- Reading on leaves the octets received as they are. -/
theorem keeps_advance (reader : RequestReader) (hb : b.Ordered) : Keeps b (advance reader b).buffer := by
  induction reader, b using advance.induct with
  | case1 b r =>
    rw [advance_body]
    obtain ⟨_, he⟩ | ⟨_, _, he⟩ | ⟨_, hu, he⟩ := advanceBody_cases r b
    · rw [he]
      exact ⟨hb, rfl, rfl, rfl⟩
    · rw [he]
      exact ⟨hb, rfl, rfl, rfl⟩
    · rw [he]
      have := hb.scan_le
      rw [LineBuffer.unscanned] at hu
      exact ⟨hb.restartAt (by omega), rfl, rfl, rfl⟩
  | case2 reader b c hs hr =>
    rw [advance_of_malformed hr hs]
    exact keeps_scanLine hb hs
  | case3 reader b c hs hr =>
    rw [advance_of_incomplete hr hs]
    exact keeps_scanLine hb hs
  | case4 reader b start stop c hs e ht hr =>
    rw [advance_of_refused hr hs ht]
    exact keeps_scanLine hb hs
  | case5 reader b start stop c hs r ht hr =>
    rw [advance_of_request hr hs ht]
    exact keeps_scanLine hb hs
  | case6 reader b start stop c hs next ht _ hr ih =>
    rw [advance_of_next hr hs ht]
    have hk := keeps_scanLine hb hs
    exact hk.trans (ih hk.ordered)

/-! ## Results that match -/

/-- Two results of reading on that differ at most in what is left over behind the octets received, or, where reading
stopped with an error, in the place where it stopped. -/
structure Advance.Matches (a a' : Advance) : Prop where
  outcome : a.outcome = a'.outcome
  reader : a.reader = a'.reader
  buffer : (∃ o, a.outcome = .ok o) → LineBuffer.Alike a.buffer a'.buffer

namespace Advance.Matches

theorem refl (a : Advance) : Matches a a := ⟨rfl, rfl, fun _ => .refl _⟩

theorem symm {a a' : Advance} (h : Matches a a') : Matches a' a :=
  ⟨h.outcome.symm, h.reader.symm, fun ⟨o, ho⟩ => (h.buffer ⟨o, h.outcome.trans ho⟩).symm⟩

theorem trans {a a' a'' : Advance} (h : Matches a a') (h' : Matches a' a'') : Matches a a'' :=
  ⟨h.outcome.trans h'.outcome, h.reader.trans h'.reader,
    fun ⟨o, ho⟩ => (h.buffer ⟨o, ho⟩).trans (h'.buffer ⟨o, h.outcome.symm.trans ho⟩)⟩

end Advance.Matches

theorem scanLine_of_alike (h : LineBuffer.Alike b c) {line : Line} {b' : LineBuffer} (hs : b.scanLine = (line, b')) :
    ∃ c', c.scanLine = (line, c') ∧ LineBuffer.Alike b' c' := by
  obtain ⟨h₁, h₂⟩ := h.scanLine
  rw [hs] at h₁ h₂
  exact ⟨c.scanLine.2, Prod.ext h₁.symm rfl, h₂⟩

theorem stop_le_of_scanLine (hb : b.Ordered) {start stop : Nat} (hs : b.scanLine = (.complete start stop, c)) :
    stop ≤ c.cursor.filled := by
  cases LineBuffer.scanned_of_scanLine hb hs with
  | complete _ _ hf => exact Nat.le_of_succ_le (Nat.le_of_succ_le hf)

theorem advanceBody_alike (r : Request) (h : LineBuffer.Alike b c) :
    Advance.Matches (advanceBody r b) (advanceBody r c) := by
  obtain ⟨hl, he⟩ | ⟨hl, hu, he⟩ | ⟨hl, hu, he⟩ := advanceBody_cases r b
  · rw [he, advanceBody_of_large (h.roomAfterScan ▸ hl)]
    exact ⟨rfl, rfl, fun _ => h⟩
  · rw [he, advanceBody_of_lt (h.roomAfterScan ▸ hl) (h.unscanned ▸ hu)]
    exact ⟨rfl, rfl, fun _ => h⟩
  · rw [he, advanceBody_of_le (h.roomAfterScan ▸ hl) (h.unscanned ▸ hu)]
    exact ⟨rfl, rfl, fun _ => h.cursor ▸ h.restartAt _⟩

/-- Buffers that cannot be told apart are read alike. -/
theorem advance_alike (reader : RequestReader) (hb : b.Ordered) (h : LineBuffer.Alike b c) :
    Advance.Matches (advance reader b) (advance reader c) := by
  induction reader, b using advance.induct generalizing c with
  | case1 b r =>
    rw [advance_body, advance_body]
    exact advanceBody_alike r h
  | case2 reader b b' hs hr =>
    obtain ⟨c', hc, h'⟩ := scanLine_of_alike h hs
    rw [advance_of_malformed hr hs, advance_of_malformed hr hc]
    exact ⟨rfl, rfl, fun _ => h'⟩
  | case3 reader b b' hs hr =>
    obtain ⟨c', hc, h'⟩ := scanLine_of_alike h hs
    rw [advance_of_incomplete hr hs, advance_of_incomplete hr hc, h'.isFull]
    exact ⟨rfl, rfl, fun _ => h'⟩
  | case4 reader b start stop b' hs e ht hr =>
    obtain ⟨c', hc, h'⟩ := scanLine_of_alike h hs
    rw [advance_of_refused hr hs ht, advance_of_refused hr hc (h'.slice (stop_le_of_scanLine hb hs) ▸ ht)]
    exact ⟨rfl, rfl, fun _ => h'⟩
  | case5 reader b start stop b' hs r ht hr =>
    obtain ⟨c', hc, h'⟩ := scanLine_of_alike h hs
    rw [advance_of_request hr hs ht, advance_of_request hr hc (h'.slice (stop_le_of_scanLine hb hs) ▸ ht)]
    exact ⟨rfl, rfl, fun _ => h'⟩
  | case6 reader b start stop b' hs next ht _ hr ih =>
    obtain ⟨c', hc, h'⟩ := scanLine_of_alike h hs
    rw [advance_of_next hr hs ht, advance_of_next hr hc (h'.slice (stop_le_of_scanLine hb hs) ▸ ht)]
    exact ih (keeps_scanLine hb hs).ordered h'

/-! ## More octets behind -/

theorem roomAfterScan_receive (hb : b.Ordered) (data : Bytes) : (b.receive data).roomAfterScan = b.roomAfterScan := by
  rw [LineBuffer.roomAfterScan, LineBuffer.roomAfterScan, LineBuffer.capacity_receive hb, LineBuffer.scan_receive]

/-- The line of a slice is the same with more octets behind. -/
theorem slice_receive (hb : b.Ordered) {start stop : Nat} (hs : stop ≤ b.cursor.filled) (data : Bytes) :
    (b.receive data).slice start stop = b.slice start stop := by
  have hl : stop ≤ b.received.length := by
    rw [hb.length_received]
    exact hs
  have hle : stop ≤ (b.receive data).cursor.filled := by
    rw [LineBuffer.filled_receive]
    exact Nat.le_add_right_of_le hs
  rw [LineBuffer.slice_eq hle, LineBuffer.slice_eq hs, LineBuffer.received_receive hb,
    List.take_append_of_le_length hl]

/-- A request or an error is not changed by what comes behind it. -/
theorem advance_receive_of_finished (hb : b.Ordered) (h : (advance reader b).outcome ≠ .ok none) (data : Bytes) :
    advance reader (b.receive data) =
      { advance reader b with buffer := (advance reader b).buffer.receive data } := by
  induction reader, b using advance.induct with
  | case1 b r =>
    rw [advance_body] at h ⊢
    rw [advance_body]
    obtain ⟨hl, he⟩ | ⟨_, _, he⟩ | ⟨hl, hu, he⟩ := advanceBody_cases r b
    · rw [he, advanceBody_of_large (roomAfterScan_receive hb data ▸ hl)]
    · rw [he] at h
      exact absurd rfl h
    · have hu' : r.contentLength ≤ (b.receive data).unscanned := by
        rw [LineBuffer.unscanned_receive hb]
        exact Nat.le_add_right_of_le hu
      rw [he, advanceBody_of_le (roomAfterScan_receive hb data ▸ hl) hu']
      rfl
  | case2 reader b c hs hr =>
    rw [advance_of_malformed hr hs, advance_of_malformed hr (LineBuffer.scanLine_receive_of_malformed hb hs data)]
  | case3 reader b c hs hr =>
    rw [advance_of_incomplete hr hs] at h
    have hk := keeps_scanLine hb hs
    -- an unfinished line is an error only in a full buffer, which receives nothing
    have hfull : c.isFull = true := by
      cases hf : c.isFull with
      | true => rfl
      | false => simp [hf] at h
    rw [LineBuffer.receive_of_isFull hb (hk.isFull ▸ hfull), advance_of_incomplete hr hs,
      LineBuffer.receive_of_isFull hk.ordered hfull]
  | case4 reader b start stop c hs e ht hr =>
    have ht' := slice_receive (keeps_scanLine hb hs).ordered (stop_le_of_scanLine hb hs) data ▸ ht
    rw [advance_of_refused hr hs ht, advance_of_refused hr (LineBuffer.scanLine_receive_of_complete hb hs data) ht']
  | case5 reader b start stop c hs r ht hr =>
    have ht' := slice_receive (keeps_scanLine hb hs).ordered (stop_le_of_scanLine hb hs) data ▸ ht
    rw [advance_of_request hr hs ht, advance_of_request hr (LineBuffer.scanLine_receive_of_complete hb hs data) ht']
  | case6 reader b start stop c hs next ht _ hr ih =>
    have ht' := slice_receive (keeps_scanLine hb hs).ordered (stop_le_of_scanLine hb hs) data ▸ ht
    rw [advance_of_next hr hs ht] at h ⊢
    rw [advance_of_next hr (LineBuffer.scanLine_receive_of_complete hb hs data) ht']
    exact ih (keeps_scanLine hb hs).ordered h

/-- Two buffers in which the same line is found are read on alike. -/
theorem advance_of_same_line (hr : ∀ r, reader ≠ .body r) (h₁ : b.scanLine.1 = c.scanLine.1)
    (h₂ : b.scanLine.1 ≠ .malformed → b.scanLine.2 = c.scanLine.2) :
    Advance.Matches (advance reader b) (advance reader c) := by
  cases hs : b.scanLine.1 with
  | malformed =>
    have hb : b.scanLine = (.malformed, b.scanLine.2) := Prod.ext hs rfl
    have hc : c.scanLine = (.malformed, c.scanLine.2) := Prod.ext (h₁ ▸ hs) rfl
    rw [advance_of_malformed hr hb, advance_of_malformed hr hc]
    exact ⟨rfl, rfl, fun ⟨_, ho⟩ => by cases ho⟩
  | incomplete =>
    have hb : b.scanLine = (.incomplete, b.scanLine.2) := Prod.ext hs rfl
    have hc : c.scanLine = (.incomplete, b.scanLine.2) := Prod.ext (h₁ ▸ hs) (h₂ (by simp [hs])).symm
    rw [advance_of_incomplete hr hb, advance_of_incomplete hr hc]
    exact .refl _
  | complete start stop =>
    have hb : b.scanLine = (.complete start stop, b.scanLine.2) := Prod.ext hs rfl
    have hc : c.scanLine = (.complete start stop, b.scanLine.2) := Prod.ext (h₁ ▸ hs) (h₂ (by simp [hs])).symm
    cases ht : takeLine reader (b.scanLine.2.slice start stop) with
    | error e =>
      rw [advance_of_refused hr hb ht, advance_of_refused hr hc ht]
      exact .refl _
    | ok next =>
      cases next with
      | inl next =>
        rw [advance_of_next hr hb ht, advance_of_next hr hc ht]
        exact .refl _
      | inr r =>
        rw [advance_of_request hr hb ht, advance_of_request hr hc ht]
        exact .refl _

/-- A reader that waits goes on where it stopped, as if all octets had been there at once. -/
theorem advance_receive_of_waiting (hb : b.Ordered) (h : (advance reader b).outcome = .ok none) (data : Bytes) :
    Advance.Matches (advance reader (b.receive data))
      (advance (advance reader b).reader ((advance reader b).buffer.receive data)) := by
  induction reader, b using advance.induct with
  | case1 b r =>
    rw [advance_body] at h ⊢
    rw [advance_body]
    obtain ⟨_, he⟩ | ⟨_, _, he⟩ | ⟨_, _, he⟩ := advanceBody_cases r b
    · rw [he] at h
      cases h
    · rw [he, advance_body]
      exact .refl _
    · rw [he] at h
      cases h
  | case2 reader b c hs hr =>
    rw [advance_of_malformed hr hs] at h
    cases h
  | case3 reader b c hs hr =>
    rw [advance_of_incomplete hr hs]
    obtain ⟨h₁, h₂⟩ := LineBuffer.scanLine_receive_of_incomplete hb hs data
    exact advance_of_same_line hr h₁ h₂
  | case4 reader b start stop c hs e ht hr =>
    rw [advance_of_refused hr hs ht] at h
    cases h
  | case5 reader b start stop c hs r ht hr =>
    rw [advance_of_request hr hs ht] at h
    cases h
  | case6 reader b start stop c hs next ht _ hr ih =>
    have ht' := slice_receive (keeps_scanLine hb hs).ordered (stop_le_of_scanLine hb hs) data ▸ ht
    rw [advance_of_next hr hs ht] at h ⊢
    rw [advance_of_next hr (LineBuffer.scanLine_receive_of_complete hb hs data) ht']
    exact ih (keeps_scanLine hb hs).ordered h

end RequestReader

end StaticServer
