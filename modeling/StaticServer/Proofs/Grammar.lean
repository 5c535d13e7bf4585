import StaticServer.Proofs.FirstLine
import StaticServer.Proofs.Resuming

/-!
# The grammar of requests

A request is written as a first line, header lines and an empty line, each with its terminator, and a body of the
length declared. Reading accepts exactly what is written so and fits into the buffer.

* `Terminator.seek_eq_at_iff`: a terminator is found behind the first line.
* `RequestReader.Taken`: what a line does to a reader.
* `RequestReader.Reads`: the octets that complete a request from a state of the reader.
* `RequestReader.advance_eq_some_iff`: reading on gives a request where such octets are ahead.
* `Request.ofBytes_eq_ok_iff`: the requests that are accepted.
-/

namespace StaticServer

namespace Bytes

/-- The terminator of a line. -/
def crlf : Bytes := [cr, lf]

/-- Octets with no line end among them. -/
structure IsLine (line : Bytes) : Prop where
  cr_not_mem : cr ∉ line
  lf_not_mem : lf ∉ line

theorem isLine_nil : IsLine [] := ⟨List.not_mem_nil, List.not_mem_nil⟩

theorem IsLine.cons_iff {b : UInt8} {line : Bytes} : IsLine (b :: line) ↔ b ≠ cr ∧ b ≠ lf ∧ IsLine line := by
  constructor
  · rintro ⟨hcr, hlf⟩
    rw [List.mem_cons, not_or] at hcr hlf
    exact ⟨Ne.symm hcr.1, Ne.symm hlf.1, hcr.2, hlf.2⟩
  · rintro ⟨hcr, hlf, hline⟩
    refine ⟨?_, ?_⟩
    · rw [List.mem_cons, not_or]
      exact ⟨hcr.symm, hline.cr_not_mem⟩
    · rw [List.mem_cons, not_or]
      exact ⟨hlf.symm, hline.lf_not_mem⟩

theorem IsLine.append {line more : Bytes} (h : IsLine line) (h' : IsLine more) : IsLine (line ++ more) where
  cr_not_mem := fun hmem => (List.mem_append.mp hmem).elim h.cr_not_mem h'.cr_not_mem
  lf_not_mem := fun hmem => (List.mem_append.mp hmem).elim h.lf_not_mem h'.lf_not_mem

end Bytes

namespace Terminator

/-- A search passes over a line to whatever comes behind it. -/
theorem seek_line_append {line : Bytes} (h : Bytes.IsLine line) (position : Nat) (rest : Bytes) :
    seek position (line ++ rest) = seek (position + line.length) rest := by
  induction line generalizing position with
  | nil => rfl
  | cons b line ih =>
    obtain ⟨hcr, hlf, hline⟩ := Bytes.IsLine.cons_iff.mp h
    rw [List.cons_append, seek_cons hcr hlf, ih hline, List.length_cons, Nat.add_assoc, Nat.add_comm 1]

/-- A search finds the terminator behind a line. -/
theorem seek_line {line : Bytes} (h : Bytes.IsLine line) (position : Nat) (rest : Bytes) :
    seek position (line ++ Bytes.crlf ++ rest) = .at (position + line.length) := by
  rw [List.append_assoc, seek_line_append h]
  rfl

/-- A terminator is found behind the first line, and nowhere else. -/
theorem seek_eq_at_iff {position i : Nat} {octets : Bytes} :
    seek position octets = .at i ↔
      ∃ line rest, octets = line ++ Bytes.crlf ++ rest ∧ Bytes.IsLine line ∧ i = position + line.length := by
  constructor
  · intro h
    fun_induction seek position octets with
    | case1 => cases h
    | case2 => cases h
    | case3 position rest =>
      cases h
      exact ⟨[], rest, rfl, Bytes.isLine_nil, rfl⟩
    | case4 => cases h
    | case5 => cases h
    | case6 position b rest hcr hlf ih =>
      obtain ⟨line, behind, rfl, hline, rfl⟩ := ih h
      refine ⟨b :: line, behind, rfl, Bytes.IsLine.cons_iff.mpr ⟨hcr, hlf, hline⟩, ?_⟩
      rw [List.length_cons]
      omega
  · rintro ⟨line, rest, rfl, hline, rfl⟩
    exact seek_line hline position rest

end Terminator

namespace LineBuffer

variable {b c : LineBuffer}

/-- A line ahead of a scan that stands at the start of a line is cut off with its terminator. -/
theorem scanLine_of_line (hb : b.Ordered) (hl : b.cursor.lineStart = b.cursor.scan) {line rest : Bytes}
    (hline : Bytes.IsLine line) (ha : b.ahead = line ++ Bytes.crlf ++ rest) :
    ∃ c start stop, b.scanLine = (.complete start stop, c) ∧ c.slice start stop = line ∧ c.ahead = rest ∧
      c.cursor.scan = b.cursor.scan + line.length + 2 ∧ c.cursor.lineStart = c.cursor.scan := by
  have hseek : Terminator.seek b.cursor.scan b.ahead = .at (b.cursor.scan + line.length) := by
    rw [ha, Terminator.seek_line hline]
  refine ⟨_, _, _, scanLine_of_at hseek, ?_, ?_, rfl, rfl⟩
  · have hlen := hb.length_ahead
    have hscan := hb.scan_le
    rw [ha, unscanned] at hlen
    simp only [List.length_append] at hlen
    have hfilled : b.cursor.scan + line.length ≤ b.cursor.filled := by omega
    rw [hl]
    show b.slice b.cursor.scan (b.cursor.scan + line.length) = line
    rw [slice_eq hfilled, List.drop_take, Nat.add_sub_cancel_left, ← ahead_eq, ha, List.append_assoc, List.take_left]
  · show b.received.drop (b.cursor.scan + line.length + 2) = rest
    have hdrop : b.received.drop (b.cursor.scan + line.length + 2) = b.ahead.drop (line.length + 2) := by
      rw [ahead_eq, List.drop_drop, Nat.add_assoc]
    have hlen : (line ++ Bytes.crlf).length = line.length + 2 := by
      rw [List.length_append]
      rfl
    rw [hdrop, ha, ← hlen, List.drop_left]

/-- A line that is cut off was ahead, with its terminator. -/
theorem line_of_scanLine (hb : b.Ordered) (hl : b.cursor.lineStart = b.cursor.scan) {start stop : Nat}
    (hs : b.scanLine = (.complete start stop, c)) :
    ∃ line, Bytes.IsLine line ∧ c.slice start stop = line ∧ b.ahead = line ++ Bytes.crlf ++ c.ahead ∧
      c.cursor.scan = b.cursor.scan + line.length + 2 ∧ c.cursor.lineStart = c.cursor.scan := by
  have hseek : Terminator.seek b.cursor.scan b.ahead = .at stop := by
    cases scanned_of_scanLine hb hs with
    | complete hseek => exact hseek
  obtain ⟨line, rest, ha, hline, _⟩ := Terminator.seek_eq_at_iff.mp hseek
  obtain ⟨c', start', stop', hs', hslice, hrest, hscan, hstart⟩ := scanLine_of_line hb hl hline ha
  rw [hs] at hs'
  cases hs'
  exact ⟨line, hline, hslice, hrest ▸ ha, hscan, hstart⟩

end LineBuffer

namespace RequestReader

variable {reader : RequestReader} {b : LineBuffer}

/-- What a line that is accepted does to a reader. -/
inductive Taken : RequestReader → Bytes → RequestReader ⊕ Request → Prop
  | first {line : Bytes} {r : Request} (h : Request.ofLine line = .ok r) : Taken .requestLine line (.inl (.headers r))
  | header {line : Bytes} {r next : Request} (hne : line ≠ []) (h : r.applyHeader line = .ok next) :
      Taken (.headers r) line (.inl (.headers next))
  /-- The empty line of a request without a body completes it. -/
  | last {r : Request} (hz : r.contentLength = 0) : Taken (.headers r) [] (.inr r)
  | beforeBody {r : Request} (hz : r.contentLength ≠ 0) : Taken (.headers r) [] (.inl (.body r))

theorem Taken.ne_body {line : Bytes} {result : RequestReader ⊕ Request} (h : Taken reader line result) (r : Request) :
    reader ≠ .body r := by
  cases h <;> rintro ⟨⟩

theorem taken_of_takeLine (hr : ∀ r, reader ≠ .body r) {line : Bytes} {result : RequestReader ⊕ Request}
    (h : takeLine reader line = .ok result) : Taken reader line result := by
  cases reader with
  | requestLine =>
    rw [takeLine] at h
    cases hf : Request.ofLine line with
    | error e =>
      rw [hf] at h
      cases h
    | ok r =>
      rw [hf] at h
      cases h
      exact .first hf
  | headers r =>
    rw [takeLine] at h
    by_cases hempty : line = []
    · subst hempty
      rw [if_pos List.isEmpty_nil] at h
      by_cases hz : r.contentLength = 0
      · rw [if_pos hz] at h
        cases h
        exact .last hz
      · rw [if_neg hz] at h
        cases h
        exact .beforeBody hz
    · rw [if_neg (fun hnil => hempty (List.isEmpty_iff.mp hnil))] at h
      cases ha : r.applyHeader line with
      | error e =>
        rw [ha] at h
        cases h
      | ok next =>
        rw [ha] at h
        cases h
        exact .header hempty ha
  | body r => exact absurd rfl (hr r)

theorem Taken.takeLine {line : Bytes} {result : RequestReader ⊕ Request} (h : Taken reader line result) :
    takeLine reader line = .ok result := by
  cases h with
  | first h => rw [RequestReader.takeLine, h]; rfl
  | header hne h => rw [RequestReader.takeLine, if_neg (fun hnil => hne (List.isEmpty_iff.mp hnil)), h]; rfl
  | last hz => rw [RequestReader.takeLine, if_pos List.isEmpty_nil, if_pos hz]
  | beforeBody hz => rw [RequestReader.takeLine, if_pos List.isEmpty_nil, if_neg hz]

/-- The octets that complete a request from a state of the reader: lines with their terminators, the last of which
completes the request or is followed by its body. -/
inductive Reads : RequestReader → Bytes → Request → Prop
  | line {reader next : RequestReader} {line rest : Bytes} {r : Request} (hline : Bytes.IsLine line)
      (ht : Taken reader line (.inl next)) (hrest : Reads next rest r) : Reads reader (line ++ Bytes.crlf ++ rest) r
  | last {reader : RequestReader} {line : Bytes} {r : Request} (hline : Bytes.IsLine line)
      (ht : Taken reader line (.inr r)) : Reads reader (line ++ Bytes.crlf) r
  | body {octets : Bytes} {r : Request} (hl : octets.length = r.contentLength) : Reads (.body r) octets r

/-- A request that is found was ahead. -/
theorem reads_of_advance (hb : b.Ordered) (hl : b.cursor.lineStart = b.cursor.scan) {r : Request}
    (h : (advance reader b).outcome = .ok (some r)) :
    ∃ octets rest, b.ahead = octets ++ rest ∧ Reads reader octets r ∧
      (advance reader b).buffer.cursor.scan = b.cursor.scan + octets.length := by
  induction reader, b using advance.induct with
  | case1 b request =>
    rw [advance_body] at h ⊢
    obtain ⟨_, he⟩ | ⟨_, _, he⟩ | ⟨_, hu, he⟩ := advanceBody_cases request b
    · rw [he] at h
      cases h
    · rw [he] at h
      cases h
    · rw [he] at h ⊢
      cases h
      have hlen : (b.ahead.take r.contentLength).length = r.contentLength := by
        rw [List.length_take, hb.length_ahead]
        exact Nat.min_eq_left hu
      refine ⟨b.ahead.take r.contentLength, b.ahead.drop r.contentLength, ?_, .body hlen, ?_⟩
      · rw [List.take_append_drop]
      · rw [hlen]
        rfl
  | case2 reader b c hs hr =>
    rw [advance_of_malformed hr hs] at h
    cases h
  | case3 reader b c hs hr =>
    rw [advance_of_incomplete hr hs] at h
    simp only at h
    split at h <;> cases h
  | case4 reader b start stop c hs e ht hr =>
    rw [advance_of_refused hr hs ht] at h
    cases h
  | case5 reader b start stop c hs request ht hr =>
    rw [advance_of_request hr hs ht] at h ⊢
    cases h
    obtain ⟨line, hline, rfl, ha, hscan, _⟩ := LineBuffer.line_of_scanLine hb hl hs
    refine ⟨_, c.ahead, ha, .last hline (taken_of_takeLine hr ht), ?_⟩
    rw [hscan, List.length_append]
    rfl
  | case6 reader b start stop c hs next ht _ hr ih =>
    rw [advance_of_next hr hs ht] at h ⊢
    obtain ⟨line, hline, rfl, ha, hscan, hstart⟩ := LineBuffer.line_of_scanLine hb hl hs
    obtain ⟨octets, rest, hc, hreads, hend⟩ := ih (keeps_scanLine hb hs).ordered hstart h
    refine ⟨c.slice start stop ++ Bytes.crlf ++ octets, rest, ?_, .line hline (taken_of_takeLine hr ht) hreads, ?_⟩
    · rw [ha, hc, List.append_assoc _ octets]
    · rw [hend, hscan, List.length_append, List.length_append, ← Nat.add_assoc, ← Nat.add_assoc]
      rfl

/-- A request that is ahead is found, whatever is behind it. -/
theorem advance_of_reads {octets rest : Bytes} {r : Request} (h : Reads reader octets r) (hb : b.Ordered)
    (hl : b.cursor.lineStart = b.cursor.scan) (ha : b.ahead = octets ++ rest) :
    (advance reader b).outcome = .ok (some r) ∧
      (advance reader b).buffer.cursor.scan = b.cursor.scan + octets.length := by
  induction h generalizing b with
  | @line reader next line behind r hline ht _ ih =>
    rw [List.append_assoc (line ++ Bytes.crlf)] at ha
    obtain ⟨c, start, stop, hs, hslice, hrest, hscan, hstart⟩ := LineBuffer.scanLine_of_line hb hl hline ha
    rw [advance_of_next ht.ne_body hs (hslice ▸ ht.takeLine)]
    obtain ⟨ho, hend⟩ := ih (keeps_scanLine hb hs).ordered hstart hrest
    refine ⟨ho, ?_⟩
    rw [hend, hscan, List.length_append, List.length_append, ← Nat.add_assoc, ← Nat.add_assoc]
    rfl
  | @last reader line r hline ht =>
    obtain ⟨c, start, stop, hs, hslice, hrest, hscan, hstart⟩ := LineBuffer.scanLine_of_line hb hl hline ha
    rw [advance_of_request ht.ne_body hs (hslice ▸ ht.takeLine)]
    refine ⟨rfl, ?_⟩
    rw [hscan, List.length_append]
    rfl
  | @body octets r hlen =>
    have hahead := hb.length_ahead
    rw [ha, List.length_append, hlen] at hahead
    have hu : r.contentLength ≤ b.unscanned := by omega
    have hroom : r.contentLength ≤ b.roomAfterScan := by
      have := hb.filled_le
      rw [LineBuffer.unscanned] at hu
      rw [LineBuffer.roomAfterScan]
      omega
    rw [advance_body, advanceBody_of_le hroom hu]
    exact ⟨rfl, congrArg (b.cursor.scan + ·) hlen.symm⟩

/-- Reading on from the start of a line gives a request where the octets that complete it are ahead. -/
theorem advance_eq_some_iff (hb : b.Ordered) (hl : b.cursor.lineStart = b.cursor.scan) {r : Request} {stop : Nat} :
    ((advance reader b).outcome = .ok (some r) ∧ (advance reader b).buffer.cursor.scan = stop) ↔
      ∃ octets rest, b.ahead = octets ++ rest ∧ Reads reader octets r ∧ stop = b.cursor.scan + octets.length := by
  constructor
  · rintro ⟨h, rfl⟩
    exact reads_of_advance hb hl h
  · rintro ⟨octets, rest, ha, hreads, rfl⟩
    exact advance_of_reads hreads hb hl ha

end RequestReader

namespace Request

open Bytes RequestReader

/-! ## Requests as they are written -/

/-- A request as it is written: its first line, its header lines and its body. -/
structure Written where
  line : Bytes
  headers : List Bytes
  body : Bytes

namespace Written

/-- The header lines and the empty line behind them, each with its terminator. -/
def headerOctets (headers : List Bytes) : Bytes := headers.flatMap (· ++ crlf) ++ crlf

/-- All lines, each with its terminator. -/
def head (w : Written) : Bytes := w.line ++ crlf ++ headerOctets w.headers

/-- The octets of a request. -/
def octets (w : Written) : Bytes := w.head ++ w.body

/-- A request is made by what is written of it: its first line makes a request, to which its header lines are applied
in order, and its body has the length declared. -/
structure Makes (w : Written) (r : Request) : Prop where
  line : IsLine w.line
  headers : ∀ h ∈ w.headers, IsLine h ∧ h ≠ []
  request : ∃ first, FirstLine w.line first ∧ w.headers.foldlM applyHeader first = .ok r
  body : w.body.length = r.contentLength

theorem headerOctets_cons (header : Bytes) (headers : List Bytes) :
    headerOctets (header :: headers) = header ++ crlf ++ headerOctets headers := by
  simp [headerOctets]

end Written

theorem foldlM_applyHeader_cons_iff {first r : Request} {header : Bytes} {headers : List Bytes} :
    (header :: headers).foldlM applyHeader first = .ok r ↔
      ∃ next, first.applyHeader header = .ok next ∧ headers.foldlM applyHeader next = .ok r := by
  rw [List.foldlM_cons]
  cases h : first.applyHeader header with
  | error e =>
    constructor
    · intro h'
      cases h'
    · rintro ⟨_, h', _⟩
      cases h'
  | ok next =>
    constructor
    · intro h'
      exact ⟨next, rfl, h'⟩
    · rintro ⟨_, h', h''⟩
      cases h'
      exact h''

/-- What completes a request behind its first line is written as header lines, an empty line and a body. -/
theorem written_of_reads_headers {first r : Request} {octets : Bytes} (h : Reads (.headers first) octets r) :
    ∃ headers body, octets = Written.headerOctets headers ++ body ∧ (∀ h ∈ headers, IsLine h ∧ h ≠ []) ∧
      headers.foldlM applyHeader first = .ok r ∧ body.length = r.contentLength := by
  generalize hreader : RequestReader.headers first = reader at h
  induction h generalizing first with
  | @line reader next line rest r hline ht hrest ih =>
    subst hreader
    cases ht with
    | @header _ _ second hne ha =>
      obtain ⟨headers, body, rfl, hlines, hfold, hl⟩ := ih rfl
      refine ⟨line :: headers, body, ?_, ?_, foldlM_applyHeader_cons_iff.mpr ⟨second, ha, hfold⟩, hl⟩
      · rw [Written.headerOctets_cons, List.append_assoc _ _ body]
      · exact List.forall_mem_cons.mpr ⟨⟨hline, hne⟩, hlines⟩
    | beforeBody hz =>
      cases hrest with
      | line _ ht' => exact absurd rfl (ht'.ne_body first)
      | last _ ht' => exact absurd rfl (ht'.ne_body first)
      | body hl => exact ⟨[], rest, rfl, List.forall_mem_nil _, rfl, hl⟩
  | last hline ht =>
    subst hreader
    cases ht with
    | last hz => exact ⟨[], [], rfl, List.forall_mem_nil _, rfl, hz.symm⟩
  | body => cases hreader

/-- Header lines, an empty line and a body complete a request behind its first line. -/
theorem reads_headers_of_written {first r : Request} {headers : List Bytes} {body : Bytes}
    (hlines : ∀ h ∈ headers, IsLine h ∧ h ≠ []) (hfold : headers.foldlM applyHeader first = .ok r)
    (hl : body.length = r.contentLength) : Reads (.headers first) (Written.headerOctets headers ++ body) r := by
  induction headers generalizing first with
  | nil =>
    cases hfold
    by_cases hz : r.contentLength = 0
    · have hbody : body = [] := List.length_eq_zero_iff.mp (hl.trans hz)
      subst hbody
      exact .last isLine_nil (.last hz)
    · exact .line isLine_nil (.beforeBody hz) (.body hl)
  | cons header headers ih =>
    obtain ⟨⟨hline, hne⟩, hlines⟩ := List.forall_mem_cons.mp hlines
    obtain ⟨second, ha, hfold⟩ := foldlM_applyHeader_cons_iff.mp hfold
    rw [Written.headerOctets_cons, List.append_assoc _ _ body]
    exact .line hline (.header hne ha) (ih hlines hfold)

/-- The octets that complete a request from its first line on are those that are written of it. -/
theorem reads_requestLine_iff {octets : Bytes} {r : Request} :
    Reads .requestLine octets r ↔ ∃ w : Written, w.Makes r ∧ octets = w.octets := by
  constructor
  · intro h
    cases h with
    | @line _ next line rest _ hline ht hrest =>
      cases ht with
      | first hfirst =>
        obtain ⟨headers, body, rfl, hlines, hfold, hl⟩ := written_of_reads_headers hrest
        refine ⟨⟨line, headers, body⟩, ⟨hline, hlines, ⟨_, ofLine_eq_ok_iff.mp hfirst, hfold⟩, hl⟩, ?_⟩
        rw [Written.octets, Written.head, List.append_assoc _ _ body]
    | last _ ht => cases ht
  · rintro ⟨w, ⟨hline, hlines, ⟨first, hfirst, hfold⟩, hl⟩, rfl⟩
    rw [Written.octets, Written.head, List.append_assoc _ _ w.body]
    exact .line hline (.first (ofLine_eq_ok_iff.mpr hfirst)) (reads_headers_of_written hlines hfold hl)

/-! ## Requests that are accepted -/

theorem Written.length_octets {w : Written} {r : Request} (h : w.Makes r) :
    w.octets.length = w.head.length + r.contentLength := by
  rw [Written.octets, List.length_append, h.body]

/-- An empty buffer that receives octets has them ahead, as many as fit. -/
theorem ahead_ofCapacity_receive (capacity : Nat) (data : Bytes) :
    ((LineBuffer.ofCapacity capacity).receive data).ahead = data.take capacity := by
  have hroom : (LineBuffer.ofCapacity capacity).room = capacity := by
    rw [LineBuffer.room, LineBuffer.capacity_ofCapacity]
    rfl
  rw [LineBuffer.ahead_receive (LineBuffer.ordered_ofCapacity capacity), hroom]
  simp [LineBuffer.ahead, LineBuffer.ofCapacity]

theorem ofBytes_eq_ok_iff_advance {data : Bytes} {r : Request} {n : Nat} :
    ofBytes data = .ok (r, n) ↔
      (advance .requestLine ((LineBuffer.ofCapacity maxSize).receive data)).outcome = .ok (some r) ∧
      (advance .requestLine ((LineBuffer.ofCapacity maxSize).receive data)).buffer.cursor.scan = n := by
  rw [ofBytes]
  generalize advance .requestLine ((LineBuffer.ofCapacity maxSize).receive data) = result
  obtain ⟨outcome, reader, buffer⟩ := result
  cases outcome with
  | error e => simp
  | ok o => cases o <;> simp

/-- The requests that are accepted are those that are written by the grammar and fit into the buffer, and a request
takes the octets of its head and of the body declared. -/
theorem ofBytes_eq_ok_iff (data : Bytes) (r : Request) (n : Nat) :
    ofBytes data = .ok (r, n) ↔
      ∃ w : Written, w.Makes r ∧ w.octets <+: data ∧ n = w.head.length + r.contentLength ∧ n ≤ maxSize := by
  have hb := (LineBuffer.ordered_ofCapacity maxSize).receive data
  have hscan : ((LineBuffer.ofCapacity maxSize).receive data).cursor.scan = 0 := rfl
  rw [ofBytes_eq_ok_iff_advance, advance_eq_some_iff hb rfl, ahead_ofCapacity_receive, hscan]
  constructor
  · rintro ⟨octets, rest, ha, hreads, rfl⟩
    obtain ⟨w, hw, rfl⟩ := reads_requestLine_iff.mp hreads
    have hprefix : w.octets <+: data.take maxSize := ⟨rest, ha.symm⟩
    obtain ⟨hdata, hle⟩ := List.prefix_take_iff.mp hprefix
    have hlen := Written.length_octets hw
    exact ⟨w, hw, hdata, by omega, by omega⟩
  · rintro ⟨w, hw, hdata, rfl, hle⟩
    have hlen := Written.length_octets hw
    obtain ⟨rest, ha⟩ := List.prefix_take_iff.mpr ⟨hdata, hlen ▸ hle⟩
    exact ⟨w.octets, rest, ha.symm, reads_requestLine_iff.mpr ⟨w, hw, rfl⟩, by omega⟩

end Request

end StaticServer
