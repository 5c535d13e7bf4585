import StaticServer.Request.Reading

/-!
# Guarded readings

The calls on a line buffer and on its reader once more, step by step and in words of 64 bits. Every sum and every
difference of positions is guarded, and so is every position and every slice of a store that is looked at, the order of
the three positions behind every step that moves one, and every line and body that is handed out. A guard that does not
hold is a fault.

* `Guarded.add`, `Guarded.sub`, `Guarded.octet`, `Guarded.slice`, `Guarded.inOrder`, `Guarded.handOut`: the guards.
* `Guarded.scanFrom`: the search for the end of a line, octet by octet.
* `Guarded.call`, `Guarded.after`: what a call gives, and where calls lead to, unless there is a fault.
-/

namespace StaticServer

/-- What can be wrong with a step. -/
inductive Fault
  /-- A sum that takes more than 64 bits. -/
  | overflow
  /-- A difference below zero. -/
  | underflow
  /-- A position or a slice outside a store. -/
  | outside
  /-- Positions that are out of order. -/
  | disordered
  /-- A line or a body that has not been received. -/
  | unreceived
  deriving DecidableEq, Repr

namespace Guarded

/-! ## Guards -/

def add (m n : Nat) : Except Fault Nat := if m + n < UInt64.size then .ok (m + n) else .error .overflow

def sub (m n : Nat) : Except Fault Nat := if n ≤ m then .ok (m - n) else .error .underflow

/-- The octet at a position. -/
def octet (octets : Bytes) (position : Nat) : Except Fault UInt8 :=
  match octets[position]? with
  | some o => .ok o
  | none => .error .outside

/-- The octets from `start` up to `stop`. -/
def slice (octets : Bytes) (start stop : Nat) : Except Fault Bytes :=
  if start ≤ stop ∧ stop ≤ octets.length then .ok ((octets.take stop).drop start) else .error .outside

/-- The buffer, if its positions are in order and inside the store. -/
def inOrder (b : LineBuffer) : Except Fault LineBuffer :=
  if b.cursor.lineStart ≤ b.cursor.scan ∧ b.cursor.scan ≤ b.cursor.filled ∧ b.cursor.filled ≤ b.capacity then .ok b
  else .error .disordered

/-- A line or a body from `start` up to `stop`, if it is among the octets received. -/
def handOut (b : LineBuffer) (start stop : Nat) : Except Fault (Nat × Nat) :=
  if start ≤ stop ∧ stop ≤ b.cursor.filled then .ok (start, stop) else .error .unreceived

/-! ## Receiving -/

/-- Puts octets into the store behind those received. -/
def append (b : LineBuffer) (data : Bytes) : Except Fault LineBuffer := do
  let stop ← add b.cursor.filled data.length
  let _ ← slice b.store b.cursor.filled stop
  inOrder
    { store := b.store.take b.cursor.filled ++ data ++ b.store.drop stop
      cursor := { b.cursor with filled := stop } }

/-- Receives octets, as many as fit: how many there were, and the buffer. -/
def receive (b : LineBuffer) (data : Bytes) : Except Fault (Nat × LineBuffer) := do
  let room ← sub b.capacity b.cursor.filled
  let taken ← slice data 0 (min data.length room)
  let c ← append b taken
  return (taken.length, c)

/-- The store behind the octets received, which an attempt to read is offered: how many octets it has. -/
def offer (b : LineBuffer) : Except Fault Nat := do
  let offered ← slice b.store b.cursor.filled b.capacity
  return offered.length

/-- Reads until nothing is there, the stream ends, the store is full or an attempt fails. -/
def fill (b : LineBuffer) : List Arrival → Except Fault LineBuffer.Filling
  | [] => do
    if b.isFull then return { outcome := .ok .full, buffer := b, unread := [] }
    let _ ← offer b
    return { outcome := .ok .drained, buffer := b, unread := [] }
  | arrival :: rest => do
    if b.isFull then return { outcome := .ok .full, buffer := b, unread := arrival :: rest }
    let room ← offer b
    match arrival with
    | .failure .wouldBlock => return { outcome := .ok .drained, buffer := b, unread := rest }
    | .failure .interrupted => fill b rest
    | .failure error => return { outcome := .error error, buffer := b, unread := rest }
    | .data [] => return { outcome := .ok .ended, buffer := b, unread := rest }
    | .data (o :: os) =>
      let data := o :: os
      let c ← append b (data.take room)
      if data.length ≤ room then fill c rest
      else return { outcome := .ok .full, buffer := c, unread := .data (data.drop room) :: rest }

/-! ## Cutting off -/

/-- Scans for the end of the current line from a position on. -/
def scanFrom (b : LineBuffer) (position : Nat) : Except Fault (Line × LineBuffer) :=
  if h : position < b.cursor.filled then do
    let o ← octet b.store position
    let next ← add position 1
    if o = Bytes.cr then
      if next = b.cursor.filled then
        let c ← inOrder { b with cursor := { b.cursor with scan := position } }
        return (.incomplete, c)
      let o' ← octet b.store next
      if o' ≠ Bytes.lf then return (.malformed, b)
      let line ← handOut b b.cursor.lineStart position
      let behind ← add position 2
      let c ← inOrder { b with cursor := { b.cursor with lineStart := behind, scan := behind } }
      return (.complete line.1 line.2, c)
    else if o = Bytes.lf then return (.malformed, b)
    else scanFrom b (position + 1)
  else do
    let c ← inOrder { b with cursor := { b.cursor with scan := b.cursor.filled } }
    return (.incomplete, c)
termination_by b.cursor.filled - position

/-- Scans on for the end of the current line. -/
def scanLine (b : LineBuffer) : Except Fault (Line × LineBuffer) := scanFrom b b.cursor.scan

/-- Cuts off `length` octets of body, if they are all there. -/
def takeBody (b : LineBuffer) (length : Nat) : Except Fault (Option (Nat × Nat) × LineBuffer) := do
  let unscanned ← sub b.cursor.filled b.cursor.scan
  if unscanned < length then return (none, b)
  let next ← add b.cursor.scan length
  let body ← handOut b b.cursor.scan next
  let c ← inOrder { b with cursor := { b.cursor with lineStart := next, scan := next } }
  return (some body, c)

/-- Forgets what has been scanned and moves the octets ahead to the front. -/
def compact (b : LineBuffer) : Except Fault LineBuffer := do
  let kept ← slice b.store b.cursor.scan b.cursor.filled
  let filled ← sub b.cursor.filled b.cursor.scan
  inOrder { store := kept ++ b.store.drop kept.length, cursor := { filled := filled } }

/-! ## Reading requests -/

theorem exists_of_bind {α β : Type} {x : Except Fault α} {f : α → Except Fault β} {result : β}
    (h : x >>= f = .ok result) : ∃ a, x = .ok a ∧ f a = .ok result := by
  cases x with
  | error fault => cases h
  | ok a => exact ⟨a, rfl, h⟩

theorem eq_of_add {m n sum : Nat} (h : add m n = .ok sum) : sum = m + n := by
  rw [add] at h
  split at h <;> cases h
  rfl

theorem eq_of_inOrder {b c : LineBuffer} (h : inOrder b = .ok c) : c = b ∧ b.cursor.scan ≤ b.cursor.filled := by
  rw [inOrder] at h
  split at h
  · next horder =>
    cases h
    exact ⟨rfl, horder.2.1⟩
  · cases h

/-- A line cut off leaves fewer octets ahead. -/
theorem unscanned_scanFrom_lt {b c : LineBuffer} {position start stop : Nat} (hle : b.cursor.scan ≤ position)
    (h : scanFrom b position = .ok (.complete start stop, c)) : c.unscanned < b.unscanned := by
  induction hn : b.cursor.filled - position generalizing position with
  | zero =>
    rw [scanFrom, dif_neg (by omega)] at h
    obtain ⟨_, _, h⟩ := exists_of_bind h
    cases h
  | succ n ih =>
    rw [scanFrom, dif_pos (by omega)] at h
    obtain ⟨o, _, h⟩ := exists_of_bind h
    obtain ⟨next, _, h⟩ := exists_of_bind h
    split at h
    · split at h
      · obtain ⟨_, _, h⟩ := exists_of_bind h
        cases h
      · obtain ⟨o', _, h⟩ := exists_of_bind h
        split at h
        · cases h
        · obtain ⟨line, _, h⟩ := exists_of_bind h
          obtain ⟨behind, hbehind, h⟩ := exists_of_bind h
          obtain ⟨d, hd, h⟩ := exists_of_bind h
          cases h
          obtain ⟨rfl, horder⟩ := eq_of_inOrder hd
          obtain rfl := eq_of_add hbehind
          simp only [LineBuffer.unscanned] at horder ⊢
          omega
    · split at h
      · cases h
      · exact ih (by omega) h (by omega)

/-- Reads the body of a request. -/
def advanceBody (request : Request) (b : LineBuffer) : Except Fault RequestReader.Advance := do
  let room ← sub b.capacity b.cursor.scan
  if room < request.contentLength then
    return { outcome := .error .tooLarge, reader := .body request, buffer := b }
  let (body, c) ← takeBody b request.contentLength
  match body with
  | some _ => return { outcome := .ok (some request), reader := .requestLine, buffer := c }
  | none => return { outcome := .ok none, reader := .body request, buffer := c }

/-- Reads as much of a request as the buffer holds. -/
def advance (reader : RequestReader) (b : LineBuffer) : Except Fault RequestReader.Advance :=
  match reader with
  | .body request => advanceBody request b
  | _ =>
    match h : scanLine b with
    | .error fault => .error fault
    | .ok (.malformed, c) => .ok { outcome := .error .malformedLine, reader := reader, buffer := c }
    | .ok (.incomplete, c) =>
      .ok { outcome := if c.isFull then .error .tooLarge else .ok none, reader := reader, buffer := c }
    | .ok (.complete start stop, c) => do
      let line ← slice c.store start stop
      match reader.takeLine line with
      | .error e => return { outcome := .error e, reader := reader, buffer := c }
      | .ok (.inr request) => return { outcome := .ok (some request), reader := .requestLine, buffer := c }
      | .ok (.inl next) =>
        have := unscanned_scanFrom_lt (Nat.le_refl _) h
        advance next c
termination_by b.unscanned

/-! ## Calls -/

/-- What a call on a buffer gives, and the buffer after it. -/
def onBuffer (b : LineBuffer) : LineBuffer.Call → Except Fault (LineBuffer.Reply × LineBuffer)
  | .receive data => do
    let (count, c) ← receive b data
    return (.taken count, c)
  | .fill arrivals => do
    let filling ← fill b arrivals
    return (.filled filling.outcome filling.unread, filling.buffer)
  | .scanLine => do
    let (line, c) ← scanLine b
    return (.line line, c)
  | .takeBody length => do
    let (body, c) ← takeBody b length
    return (.body body, c)
  | .compact => do
    let c ← compact b
    return (.nothing, c)
  | .clear => return (.nothing, b.clear)

/-- What a call gives, and the reader and the buffer after it. -/
def call (s : Reading) : Reading.Call → Except Fault (Reading.Reply × Reading)
  | .onBuffer call => do
    let (reply, c) ← onBuffer s.buffer call
    return (.ofBuffer reply, { s with buffer := c })
  | .advance => do
    let advance ← advance s.reader s.buffer
    return (.advance advance.outcome, { reader := advance.reader, buffer := advance.buffer })
  | .reset => return (.nothing, { s with reader := .requestLine })

/-- The reader and the buffer after some calls. -/
def after (s : Reading) (calls : List Reading.Call) : Except Fault Reading :=
  calls.foldlM (fun s request => Prod.snd <$> call s request) s

end Guarded

end StaticServer
