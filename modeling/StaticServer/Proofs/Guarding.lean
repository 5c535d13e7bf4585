import StaticServer.Proofs.Scanning
import StaticServer.Request.Guarded

/-!
# Guards that always hold

A buffer with its positions in order, and with no more octets than a word can count, meets every guard: whatever is
called next, no step is a fault, and the guarded call gives what the call itself gives. Every call leaves such a buffer
behind, one that was refused too. So no guard ever fails, in whatever order a buffer and its reader are called, whatever
arrives, and however long a body is declared to be.

* `LineBuffer.Bounded`: the invariant, kept by every call (`Reading.bounded_call`).
* `Reading.range_of_call`: what a call hands out has been received.
* `Guarded.scanFrom_eq`: the search octet by octet is the search for a terminator.
* `Guarded.receive_eq`, `Guarded.fill_eq`, `Guarded.takeBody_eq`, `Guarded.compact_eq`, `Guarded.advance_eq`: a guarded
  step is the step itself, and so is a guarded call (`Guarded.call_eq`).
* `Reading.after_guarded`: what holds behind any calls.
-/

namespace StaticServer

namespace LineBuffer

/-- The positions are in order, and the store has no more octets than a word can count. -/
structure Bounded (b : LineBuffer) : Prop where
  ordered : b.Ordered
  capacity_lt : b.capacity < UInt64.size

variable {b : LineBuffer}

/-- A position inside the store is a word. -/
theorem Bounded.lt_size (h : b.Bounded) {position : Nat} (hp : position ≤ b.cursor.filled) : position < UInt64.size :=
  Nat.lt_of_le_of_lt (Nat.le_trans hp h.ordered.filled_le) h.capacity_lt

theorem Bounded.receive (h : b.Bounded) (data : Bytes) : (b.receive data).Bounded :=
  ⟨h.ordered.receive data, capacity_receive h.ordered data ▸ h.capacity_lt⟩

theorem Bounded.of_keeps {c : LineBuffer} (h : b.Bounded) (hc : RequestReader.Keeps b c) : c.Bounded :=
  ⟨hc.ordered, hc.capacity ▸ h.capacity_lt⟩

/-- A line that is found has been received. -/
theorem Ordered.range_of_scanLine (h : b.Ordered) {start stop : Nat} {c : LineBuffer}
    (hs : b.scanLine = (.complete start stop, c)) : start ≤ stop ∧ stop ≤ b.cursor.filled := by
  cases scanned_of_scanLine h hs with
  | complete _ hi hf => exact ⟨Nat.le_trans h.lineStart_le hi, Nat.le_of_succ_le (Nat.le_of_succ_le hf)⟩

/-- What a call hands out has been received. -/
theorem Ordered.range_of_call (h : b.Ordered) {call : Call} {start stop : Nat}
    (hr : (b.call call).1.range? = some (start, stop)) : start ≤ stop ∧ stop ≤ b.cursor.filled := by
  cases call with
  | scanLine =>
    cases hs : b.scanLine with
    | mk line c =>
      rw [call, hs] at hr
      cases line with
      | complete =>
        cases hr
        exact h.range_of_scanLine hs
      | incomplete => cases hr
      | malformed => cases hr
  | takeBody length =>
    have hscan := h.scan_le
    rcases Nat.lt_or_ge b.unscanned length with hlt | hle
    · rw [call, takeBody_of_lt hlt] at hr
      cases hr
    · rw [call, takeBody_of_le hle] at hr
      cases hr
      rw [unscanned] at hle
      omega
  | receive data => cases hr
  | fill arrivals => cases hr
  | compact => cases hr
  | clear => cases hr

/-- The scan for a line does what the terminator found asks for. -/
def conclude (b : LineBuffer) : Terminator → Line × LineBuffer
  | .at i => (.complete b.cursor.lineStart i, b.restartAt (i + 2))
  | .missing i => (.incomplete, b.scanTo i)
  | .stray => (.malformed, b)

theorem scanLine_eq_conclude (b : LineBuffer) : b.scanLine = b.conclude (Terminator.seek b.cursor.scan b.ahead) := by
  cases hs : Terminator.seek b.cursor.scan b.ahead with
  | «at» i => exact scanLine_of_at hs
  | missing i => exact scanLine_of_missing hs
  | stray => exact scanLine_of_stray hs

theorem slice_eq_cons {start stop : Nat} (h : start < stop) (hstop : stop ≤ b.capacity) :
    ∃ o, b.store[start]? = some o ∧ b.slice start stop = o :: b.slice (start + 1) stop := by
  have hlt : start < b.store.length := Nat.lt_of_lt_of_le h hstop
  have hlt' : start < (b.store.take stop).length := by rwa [List.length_take_of_le hstop]
  refine ⟨b.store[start], List.getElem?_eq_getElem hlt, ?_⟩
  rw [slice, List.drop_eq_getElem_cons hlt', List.getElem_take, slice]

end LineBuffer

namespace Reading

variable {s : Reading}

/-! ## Calls in any order -/

/-- Every call keeps the invariant, and the store as large as it is. -/
theorem keeps_call (h : s.buffer.Ordered) (call : Call) :
    (s.call call).2.buffer.Ordered ∧ (s.call call).2.buffer.capacity = s.buffer.capacity := by
  cases call with
  | onBuffer call =>
    have hmoved := LineBuffer.moved_call h call
    exact ⟨hmoved.ordered h, hmoved.capacity h⟩
  | advance =>
    have hkeeps := RequestReader.keeps_advance s.reader h
    exact ⟨hkeeps.ordered, hkeeps.capacity⟩
  | reset => exact ⟨h, rfl⟩

theorem bounded_call (h : s.buffer.Bounded) (call : Call) : (s.call call).2.buffer.Bounded :=
  ⟨(keeps_call h.ordered call).1, (keeps_call h.ordered call).2 ▸ h.capacity_lt⟩

theorem keeps_after (h : s.buffer.Ordered) {capacity : Nat} (hcapacity : s.buffer.capacity = capacity)
    (calls : List Call) : (s.after calls).buffer.Ordered ∧ (s.after calls).buffer.capacity = capacity := by
  induction calls generalizing s with
  | nil => exact ⟨h, hcapacity⟩
  | cons call calls ih =>
    obtain ⟨hordered, hkept⟩ := keeps_call h call
    exact ih hordered (hkept.trans hcapacity)

theorem range_of_call (h : s.buffer.Ordered) {call : Call} {start stop : Nat}
    (hr : (s.call call).1.range? = some (start, stop)) : start ≤ stop ∧ stop ≤ s.buffer.cursor.filled := by
  cases call with
  | onBuffer call => exact h.range_of_call hr
  | advance => cases hr
  | reset => cases hr

end Reading

namespace Guarded

variable {b : LineBuffer}

/-! ## Guards that hold -/

@[simp] theorem ok_bind {α β : Type} (a : α) (f : α → Except Fault β) : (Except.ok a >>= f) = f a := rfl

theorem add_eq {m n : Nat} (h : m + n < UInt64.size) : add m n = .ok (m + n) := if_pos h

theorem sub_eq {m n : Nat} (h : n ≤ m) : sub m n = .ok (m - n) := if_pos h

theorem octet_eq {octets : Bytes} {position : Nat} {o : UInt8} (h : octets[position]? = some o) :
    octet octets position = .ok o := by
  rw [octet, h]

theorem slice_eq {octets : Bytes} {start stop : Nat} (h : start ≤ stop) (hstop : stop ≤ octets.length) :
    slice octets start stop = .ok ((octets.take stop).drop start) := if_pos ⟨h, hstop⟩

theorem inOrder_eq (h : b.Ordered) : inOrder b = .ok b := if_pos ⟨h.lineStart_le, h.scan_le, h.filled_le⟩

theorem inOrder_scanTo {position : Nat} (h : (b.scanTo position).Ordered) :
    inOrder { b with cursor := { b.cursor with scan := position } } = .ok (b.scanTo position) := inOrder_eq h

theorem inOrder_restartAt {position : Nat} (h : (b.restartAt position).Ordered) :
    inOrder { b with cursor := { b.cursor with lineStart := position, scan := position } } =
      .ok (b.restartAt position) := inOrder_eq h

theorem handOut_eq {start stop : Nat} (h : start ≤ stop) (hstop : stop ≤ b.cursor.filled) :
    handOut b start stop = .ok (start, stop) := if_pos ⟨h, hstop⟩

/-! ## Receiving -/

/-- Octets for which there is room are received. -/
theorem append_eq (h : b.Bounded) {data : Bytes} (hfit : data.length ≤ b.room) :
    append b data = .ok (b.receive data) := by
  have hle := h.ordered.filled_le
  have hstop : b.cursor.filled + data.length ≤ b.capacity := by
    rw [LineBuffer.room] at hfit
    omega
  have htake : data.take b.room = data := List.take_of_length_le hfit
  have hreceive : b.receive data =
      { store := b.store.take b.cursor.filled ++ data ++ b.store.drop (b.cursor.filled + data.length)
        cursor := { b.cursor with filled := b.cursor.filled + data.length } } := by
    simp only [LineBuffer.receive, htake]
  rw [append, add_eq (Nat.lt_of_le_of_lt hstop h.capacity_lt), ok_bind, slice_eq (Nat.le_add_right _ _) hstop, ok_bind,
    ← hreceive, inOrder_eq (h.ordered.receive data)]

theorem receive_eq (h : b.Bounded) (data : Bytes) : receive b data = .ok (b.taken data, b.receive data) := by
  have hfit : (data.take b.room).length ≤ b.room := List.length_take_le _ _
  have htake : (data.take (min data.length b.room)).drop 0 = data.take b.room := by
    rw [List.drop_zero, List.take_eq_take_iff]
    omega
  have hslice : slice data 0 (min data.length b.room) = .ok (data.take b.room) :=
    htake ▸ slice_eq (Nat.zero_le _) (Nat.min_le_left _ _)
  have hcount : (data.take b.room).length = b.taken data := by
    rw [List.length_take, LineBuffer.taken, Nat.min_comm]
  rw [receive, sub_eq h.ordered.filled_le, ok_bind, ← LineBuffer.room, hslice, ok_bind, append_eq h hfit, ok_bind,
    hcount, LineBuffer.receive_take_room]
  rfl

theorem offer_eq (h : b.Bounded) : offer b = .ok b.room := by
  have hlength : ((b.store.take b.capacity).drop b.cursor.filled).length = b.room := by
    rw [List.length_drop, LineBuffer.capacity, List.take_length]
    rfl
  rw [offer, slice_eq h.ordered.filled_le (Nat.le_refl _), ok_bind, hlength]
  rfl

theorem fill_eq (h : b.Bounded) (arrivals : List Arrival) : fill b arrivals = .ok (b.fill arrivals) := by
  fun_induction LineBuffer.fill b arrivals with
  | case1 b =>
    rw [fill, offer_eq h]
    cases b.isFull <;> rfl
  | case2 b arrival rest hf =>
    rw [fill, if_pos hf]
    rfl
  | case3 b rest hf =>
    rw [fill, if_neg hf, offer_eq h]
    rfl
  | case4 b rest hf ih =>
    rw [fill, if_neg hf, offer_eq h]
    exact ih h
  | case5 b rest hf e hw hi =>
    rw [fill, if_neg hf, offer_eq h]
    cases e with
    | wouldBlock => exact absurd rfl hw
    | interrupted => exact absurd rfl hi
    | _ => rfl
  | case6 b rest hf =>
    rw [fill, if_neg hf, offer_eq h]
    rfl
  | case7 b rest hf o os data hfit ih =>
    have htake : data.take b.room = data := List.take_of_length_le hfit
    rw [fill, if_neg hf, offer_eq h, ok_bind]
    dsimp only
    rw [htake, append_eq h hfit, ok_bind, if_pos hfit]
    exact ih (h.receive data)
  | case8 b rest hf o os data hfit =>
    have hroom : (data.take b.room).length ≤ b.room := List.length_take_le _ _
    rw [fill, if_neg hf, offer_eq h, ok_bind]
    dsimp only
    rw [append_eq h hroom, LineBuffer.receive_take_room, ok_bind, if_neg hfit]
    rfl

/-! ## Cutting off -/

/-- The search octet by octet is the search for a terminator. -/
theorem scanFrom_eq (h : b.Bounded) {position : Nat} (hle : b.cursor.scan ≤ position)
    (hfilled : position ≤ b.cursor.filled) :
    scanFrom b position = .ok (b.conclude (Terminator.seek position (b.slice position b.cursor.filled))) := by
  have hstart := Nat.le_trans h.ordered.lineStart_le hle
  -- the search goes on over one octet after the other, so the induction is on the number of octets left
  induction hn : b.cursor.filled - position generalizing position with
  | zero =>
    obtain rfl : position = b.cursor.filled := by omega
    have hc : (b.scanTo b.cursor.filled).Ordered := ⟨hstart, Nat.le_refl _, h.ordered.filled_le⟩
    rw [scanFrom, dif_neg (Nat.lt_irrefl _), LineBuffer.slice_self, inOrder_scanTo hc]
    rfl
  | succ n ih =>
    have hlt : position < b.cursor.filled := by omega
    obtain ⟨o, ho, hslice⟩ := LineBuffer.slice_eq_cons hlt h.ordered.filled_le
    rw [scanFrom, dif_pos hlt, octet_eq ho, ok_bind, add_eq (h.lt_size hlt), ok_bind, hslice]
    by_cases hcr : o = Bytes.cr
    · rw [if_pos hcr, hcr]
      by_cases hlast : position + 1 = b.cursor.filled
      · -- a carriage return that came last: the scan stays in front of it
        have hc : (b.scanTo position).Ordered := ⟨hstart, hfilled, h.ordered.filled_le⟩
        rw [if_pos hlast, hlast, LineBuffer.slice_self, inOrder_scanTo hc]
        rfl
      · have hnext : position + 1 < b.cursor.filled := by omega
        obtain ⟨o', ho', hslice'⟩ := LineBuffer.slice_eq_cons hnext h.ordered.filled_le
        rw [if_neg hlast, octet_eq ho', ok_bind, hslice']
        by_cases hlf : o' = Bytes.lf
        · have hc : (b.restartAt (position + 2)).Ordered := h.ordered.restartAt hnext
          rw [if_neg (not_not_intro hlf), handOut_eq hstart hfilled, ok_bind, add_eq (h.lt_size hnext), ok_bind,
            inOrder_restartAt hc, hlf]
          rfl
        · rw [if_pos hlf, Terminator.seek_cr_cons hlf]
          rfl
    · rw [if_neg hcr]
      by_cases hlf : o = Bytes.lf
      · rw [if_pos hlf, hlf]
        rfl
      · rw [if_neg hlf, Terminator.seek_cons hcr hlf]
        exact ih (by omega) hlt (by omega) (by omega)

theorem scanLine_eq (h : b.Bounded) : scanLine b = .ok b.scanLine := by
  rw [scanLine, scanFrom_eq h (Nat.le_refl _) h.ordered.scan_le, LineBuffer.scanLine_eq_conclude]
  rfl

theorem takeBody_eq (h : b.Bounded) (length : Nat) :
    takeBody b length =
      .ok ((b.takeBody length).1.map fun start => (start, start + length), (b.takeBody length).2) := by
  have hscan := h.ordered.scan_le
  rw [takeBody, sub_eq hscan, ok_bind]
  rcases Nat.lt_or_ge (b.cursor.filled - b.cursor.scan) length with hlt | hle
  · rw [if_pos hlt, LineBuffer.takeBody_of_lt hlt]
    rfl
  · have hnext : b.cursor.scan + length ≤ b.cursor.filled := by omega
    rw [if_neg (Nat.not_lt.mpr hle), add_eq (h.lt_size hnext), ok_bind, handOut_eq (Nat.le_add_right _ _) hnext,
      ok_bind, inOrder_restartAt (h.ordered.restartAt hnext), LineBuffer.takeBody_of_le hle]
    rfl

theorem compact_eq (h : b.Bounded) : compact b = .ok b.compact := by
  rw [compact, slice_eq h.ordered.scan_le h.ordered.filled_le, ok_bind, sub_eq h.ordered.scan_le, ok_bind]
  exact inOrder_eq h.ordered.compact

/-- Positions that are out of order do not pass the guards. -/
example : compact { store := [0], cursor := { scan := 1 } } = .error .outside := rfl

/-! ## Reading requests -/

theorem advanceBody_eq (h : b.Bounded) (request : Request) :
    advanceBody request b = .ok (RequestReader.advanceBody request b) := by
  rw [advanceBody, sub_eq (Nat.le_trans h.ordered.scan_le h.ordered.filled_le), ok_bind, RequestReader.advanceBody,
    LineBuffer.roomAfterScan]
  split
  · rfl
  · rw [takeBody_eq h, ok_bind]
    cases b.takeBody request.contentLength with
    | mk start c => cases start <;> rfl

section Scanned

variable {reader : RequestReader} {c : LineBuffer}

theorem advance_of_malformed (h : b.Bounded) (hr : ∀ r, reader ≠ .body r) (hs : b.scanLine = (.malformed, c)) :
    advance reader b = .ok { outcome := .error .malformedLine, reader := reader, buffer := c } := by
  have hscan : scanLine b = .ok (.malformed, c) := hs ▸ scanLine_eq h
  rw [advance]
  · split <;> next hs' => cases hscan.symm.trans hs' <;> rfl
  · exact hr

theorem advance_of_incomplete (h : b.Bounded) (hr : ∀ r, reader ≠ .body r) (hs : b.scanLine = (.incomplete, c)) :
    advance reader b =
      .ok { outcome := if c.isFull then .error .tooLarge else .ok none, reader := reader, buffer := c } := by
  have hscan : scanLine b = .ok (.incomplete, c) := hs ▸ scanLine_eq h
  rw [advance]
  · split <;> next hs' => cases hscan.symm.trans hs' <;> rfl
  · exact hr

/-- A line that has been scanned is inside the store, and the reader takes it. -/
theorem advance_of_complete (h : b.Bounded) (hr : ∀ r, reader ≠ .body r) {start stop : Nat}
    (hs : b.scanLine = (.complete start stop, c)) :
    advance reader b =
      match reader.takeLine (c.slice start stop) with
      | .error e => .ok { outcome := .error e, reader := reader, buffer := c }
      | .ok (.inr request) => .ok { outcome := .ok (some request), reader := .requestLine, buffer := c }
      | .ok (.inl next) => advance next c := by
  have hscan : scanLine b = .ok (.complete start stop, c) := hs ▸ scanLine_eq h
  have hkeeps := RequestReader.keeps_scanLine h.ordered hs
  obtain ⟨hstart, hstop⟩ := h.ordered.range_of_scanLine hs
  have hslice : slice c.store start stop = .ok (c.slice start stop) :=
    slice_eq hstart (Nat.le_trans (hkeeps.filled ▸ hstop) hkeeps.ordered.filled_le)
  rw [advance]
  · split <;> next hs' => cases hscan.symm.trans hs' <;> (rw [hslice, ok_bind]; rfl)
  · exact hr

end Scanned

/-- Reading on is never at fault. -/
theorem advance_eq (reader : RequestReader) (h : b.Bounded) : advance reader b = .ok (reader.advance b) := by
  induction reader, b using RequestReader.advance.induct with
  | case1 b r =>
    rw [advance, RequestReader.advance_body]
    exact advanceBody_eq h r
  | case2 reader b c hs hr => rw [advance_of_malformed h hr hs, RequestReader.advance_of_malformed hr hs]
  | case3 reader b c hs hr => rw [advance_of_incomplete h hr hs, RequestReader.advance_of_incomplete hr hs]
  | case4 reader b start stop c hs e ht hr =>
    rw [advance_of_complete h hr hs, ht, RequestReader.advance_of_refused hr hs ht]
  | case5 reader b start stop c hs r ht hr =>
    rw [advance_of_complete h hr hs, ht, RequestReader.advance_of_request hr hs ht]
  | case6 reader b start stop c hs next ht _ hr ih =>
    rw [advance_of_complete h hr hs, ht, RequestReader.advance_of_next hr hs ht]
    exact ih (h.of_keeps (RequestReader.keeps_scanLine h.ordered hs))

/-! ## Calls -/

theorem onBuffer_eq (h : b.Bounded) (call : LineBuffer.Call) : onBuffer b call = .ok (b.call call) := by
  cases call with
  | receive data =>
    rw [onBuffer, receive_eq h]
    rfl
  | fill arrivals =>
    rw [onBuffer, fill_eq h]
    rfl
  | scanLine =>
    rw [onBuffer, scanLine_eq h]
    rfl
  | takeBody length =>
    rw [onBuffer, takeBody_eq h]
    rfl
  | compact =>
    rw [onBuffer, compact_eq h]
    rfl
  | clear => rfl

/-- A guarded call gives what the call itself gives. -/
theorem call_eq {s : Reading} (h : s.buffer.Bounded) (request : Reading.Call) :
    call s request = .ok (s.call request) := by
  cases request with
  | onBuffer request =>
    rw [call, onBuffer_eq h]
    rfl
  | advance =>
    rw [call, advance_eq s.reader h]
    rfl
  | reset => rfl

theorem after_eq {s : Reading} (h : s.buffer.Bounded) (calls : List Reading.Call) :
    after s calls = .ok (s.after calls) := by
  induction calls generalizing s with
  | nil => rfl
  | cons request calls ih =>
    rw [after, List.foldlM_cons, call_eq h]
    exact ih (Reading.bounded_call h request)

end Guarded

/-- Whatever has been called before, the positions of a buffer are in order and inside its store, which is as large as
at first; no guard has failed, and none fails in the next call, which gives what it gives without the guards; and the
line or the body that it hands out has been received. -/
theorem Reading.after_guarded (capacity : UInt64) (calls : List Reading.Call) :
    let s := (start capacity.toNat).after calls
    s.buffer.cursor.lineStart ≤ s.buffer.cursor.scan ∧ s.buffer.cursor.scan ≤ s.buffer.cursor.filled ∧
    s.buffer.cursor.filled ≤ s.buffer.capacity ∧ s.buffer.capacity = capacity.toNat ∧
    Guarded.after (start capacity.toNat) calls = .ok s ∧
    ∀ call, Guarded.call s call = .ok (s.call call) ∧
      ∀ start stop, (s.call call).1.range? = some (start, stop) → start ≤ stop ∧ stop ≤ s.buffer.cursor.filled := by
  intro s
  have hstart : (start capacity.toNat).buffer.Ordered := LineBuffer.ordered_ofCapacity _
  have hcapacity : (start capacity.toNat).buffer.capacity = capacity.toNat := LineBuffer.capacity_ofCapacity _
  obtain ⟨hordered, hkept⟩ : s.buffer.Ordered ∧ s.buffer.capacity = capacity.toNat := keeps_after hstart hcapacity calls
  have hbounded : s.buffer.Bounded := ⟨hordered, Nat.lt_of_le_of_lt (Nat.le_of_eq hkept) capacity.toNat_lt_size⟩
  have hguarded : Guarded.after (start capacity.toNat) calls = .ok s :=
    Guarded.after_eq ⟨hstart, Nat.lt_of_le_of_lt (Nat.le_of_eq hcapacity) capacity.toNat_lt_size⟩ calls
  exact ⟨hordered.lineStart_le, hordered.scan_le, hordered.filled_le, hkept, hguarded,
    fun call => ⟨Guarded.call_eq hbounded call, fun _ _ => range_of_call hordered⟩⟩

end StaticServer
