import StaticServer.Transfer

/-!
# The line buffer

Octets from a stream wait in a store of fixed capacity until lines and bodies are cut off. Three positions divide the
store: the line being scanned starts at `lineStart`, the octets before `scan` have been looked at, and the octets
before `filled` have been received. What lies behind `filled` is left over from earlier uses.

A line ends at a carriage return with a line feed right behind it. Each of the two octets is wrong anywhere else, and a
carriage return that came last waits for the octet after it.

* `seek` says where the first terminator is.
* `LineBuffer.scanLine`, `LineBuffer.takeBody` cut off a line and a body; `LineBuffer.compact` forgets what was cut
  off.
* `LineBuffer.fill` reads until nothing is there, the stream ends or the store is full.
-/

namespace StaticServer

/-! ## Terminators -/

/-- What a search for a line terminator finds. -/
inductive Terminator
  /-- A terminator, its first octet at this position. -/
  | at (position : Nat)
  /-- No terminator yet: the search goes on at this position once more octets are there. -/
  | missing (position : Nat)
  /-- A carriage return or line feed that is not part of a terminator. -/
  | stray
  deriving DecidableEq, Repr

/-- Searches octets of which the first is at `position`. -/
def Terminator.seek (position : Nat) : Bytes → Terminator
  | [] => .missing position
  | b :: rest =>
    if b = Bytes.cr then
      match rest with
      | [] => .missing position
      | next :: _ => if next = Bytes.lf then .at position else .stray
    else if b = Bytes.lf then .stray
    else seek (position + 1) rest

theorem Terminator.seek_at_lt {position i : Nat} {octets : Bytes} (h : seek position octets = .at i) :
    i + 2 ≤ position + octets.length := by
  induction octets generalizing position with
  | nil => simp [seek] at h
  | cons b rest ih =>
    unfold seek at h
    split at h
    · split at h
      · cases h
      · split at h
        · cases h
          simp only [List.length_cons]
          omega
        · cases h
    · split at h
      · cases h
      · have := ih h
        simp only [List.length_cons]
        omega

theorem Terminator.le_of_seek_at {position i : Nat} {octets : Bytes} (h : seek position octets = .at i) :
    position ≤ i := by
  induction octets generalizing position with
  | nil => simp [seek] at h
  | cons b rest ih =>
    unfold seek at h
    split at h
    · split at h
      · cases h
      · split at h
        · cases h
          exact Nat.le_refl _
        · cases h
    · split at h
      · cases h
      · exact Nat.le_trans (Nat.le_succ _) (ih h)

theorem Terminator.le_of_seek_missing {position i : Nat} {octets : Bytes} (h : seek position octets = .missing i) :
    position ≤ i := by
  induction octets generalizing position with
  | nil =>
    cases h
    exact Nat.le_refl _
  | cons b rest ih =>
    unfold seek at h
    split at h
    · split at h
      · cases h
        exact Nat.le_refl _
      · split at h <;> cases h
    · split at h
      · cases h
      · exact Nat.le_trans (Nat.le_succ _) (ih h)

/-! ## The store and its positions -/

/-- Three positions in the store. -/
structure Cursor where
  lineStart : Nat := 0
  scan : Nat := 0
  filled : Nat := 0
  deriving DecidableEq, Repr

/-- A store of octets and the positions that divide it. -/
structure LineBuffer where
  store : Bytes
  cursor : Cursor := {}
  deriving DecidableEq, Repr

/-- What a scan for a line gives. -/
inductive Line
  /-- A line from `start` up to `stop`, its terminator left out. -/
  | complete (start stop : Nat)
  | incomplete
  | malformed
  deriving DecidableEq, Repr

/-- Why reading stopped. -/
inductive Fill
  /-- Nothing more is there for now. -/
  | drained
  /-- The stream has ended. -/
  | ended
  /-- The store has no room left. -/
  | full
  deriving DecidableEq, Repr

namespace LineBuffer

/-- An empty store of zeros. -/
def ofCapacity (capacity : Nat) : LineBuffer := { store := List.replicate capacity 0 }

def capacity (b : LineBuffer) : Nat := b.store.length

/-- No further octet can be received. -/
def isFull (b : LineBuffer) : Bool := b.cursor.filled == b.capacity

/-- The number of octets that can still be received. -/
def room (b : LineBuffer) : Nat := b.capacity - b.cursor.filled

/-- The number of octets received and not yet scanned. -/
def unscanned (b : LineBuffer) : Nat := b.cursor.filled - b.cursor.scan

/-- The room for a body that starts where the scan stands, received octets included. -/
def roomAfterScan (b : LineBuffer) : Nat := b.capacity - b.cursor.scan

/-- The octets received and not yet scanned. -/
def ahead (b : LineBuffer) : Bytes := (b.store.take b.cursor.filled).drop b.cursor.scan

/-- The octets of the store from `start` up to `stop`, if there are such positions. -/
def slice? (b : LineBuffer) (start stop : Nat) : Option Bytes :=
  if start ≤ stop ∧ stop ≤ b.capacity then some ((b.store.take stop).drop start) else none

/-- The octets of the store from `start` up to `stop`. -/
def slice (b : LineBuffer) (start stop : Nat) : Bytes := (b.store.take stop).drop start

/-! ## Receiving -/

/-- Receives octets behind those already there, as many as fit. -/
def receive (b : LineBuffer) (data : Bytes) : LineBuffer :=
  let taken := data.take b.room
  { store := b.store.take b.cursor.filled ++ taken ++ b.store.drop (b.cursor.filled + taken.length)
    cursor := { b.cursor with filled := b.cursor.filled + taken.length } }

/-- How many octets of `data` a call of `receive` takes. -/
def taken (b : LineBuffer) (data : Bytes) : Nat := min data.length b.room

/-- What reading into the buffer comes to: how it stopped, the buffer, and the attempts not made. -/
structure Filling where
  outcome : Except TransferError Fill
  buffer : LineBuffer
  unread : List Arrival

/-- Reads until nothing is there, the stream ends, the store is full or an attempt fails; an interrupted attempt is
made again. A read leaves behind what the store has no room for. -/
def fill (b : LineBuffer) : List Arrival → Filling
  | [] => { outcome := .ok (if b.isFull then .full else .drained), buffer := b, unread := [] }
  | arrival :: rest =>
    if b.isFull then { outcome := .ok .full, buffer := b, unread := arrival :: rest }
    else
      match arrival with
      | .failure .wouldBlock => { outcome := .ok .drained, buffer := b, unread := rest }
      | .failure .interrupted => b.fill rest
      | .failure error => { outcome := .error error, buffer := b, unread := rest }
      | .data [] => { outcome := .ok .ended, buffer := b, unread := rest }
      | .data (o :: os) =>
        let data := o :: os
        if data.length ≤ b.room then (b.receive data).fill rest
        else { outcome := .ok .full, buffer := b.receive data, unread := .data (data.drop b.room) :: rest }

/-! ## Cutting off -/

/-- Scans on for the end of the current line. At a terminator the next line starts behind it; where a terminator is
still missing the scan stays at the place to go on from. -/
def scanLine (b : LineBuffer) : Line × LineBuffer :=
  match Terminator.seek b.cursor.scan b.ahead with
  | .at i => (.complete b.cursor.lineStart i, { b with cursor := { b.cursor with lineStart := i + 2, scan := i + 2 } })
  | .missing i => (.incomplete, { b with cursor := { b.cursor with scan := i } })
  | .stray => (.malformed, b)

/-- Cuts off `length` octets of body, if they are all there: the position where the body starts. -/
def takeBody (b : LineBuffer) (length : Nat) : Option Nat × LineBuffer :=
  if b.unscanned < length then (none, b)
  else
    let next := b.cursor.scan + length
    (some b.cursor.scan, { b with cursor := { b.cursor with lineStart := next, scan := next } })

/-- Forgets what has been scanned and moves the octets ahead to the front. -/
def compact (b : LineBuffer) : LineBuffer :=
  { store := b.ahead ++ b.store.drop b.ahead.length
    cursor := { filled := b.unscanned } }

/-- Forgets all octets received. -/
def clear (b : LineBuffer) : LineBuffer := { b with cursor := {} }

theorem length_ahead_le (b : LineBuffer) : b.ahead.length ≤ b.unscanned := by
  simp only [ahead, unscanned, List.length_drop, List.length_take]
  omega

/-- A line cut off leaves fewer octets ahead. -/
theorem unscanned_scanLine_lt {b b' : LineBuffer} {start stop : Nat} (h : b.scanLine = (.complete start stop, b')) :
    b'.unscanned < b.unscanned := by
  rw [scanLine] at h
  split at h
  · next i hi =>
    cases h
    have h₁ := Terminator.seek_at_lt hi
    have h₂ := Terminator.le_of_seek_at hi
    have h₃ := b.length_ahead_le
    simp only [unscanned] at h₃ ⊢
    omega
  · cases h
  · cases h

end LineBuffer

end StaticServer
