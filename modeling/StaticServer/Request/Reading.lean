import StaticServer.Request.Reader

/-!
# Readings

A line buffer goes from call to call, and so does a reader with the buffer that it reads. The calls come in any order,
also behind one that was refused.

* `LineBuffer.call`, `LineBuffer.after`: what a call on a buffer gives, and where calls lead to.
* `Reading.call`, `Reading.after`: the same for a reader and its buffer.
-/

namespace StaticServer

namespace LineBuffer

/-- The calls that change a buffer. -/
inductive Call
  | receive (data : Bytes)
  | fill (arrivals : List Arrival)
  | scanLine
  | takeBody (length : Nat)
  | compact
  | clear
  deriving DecidableEq, Repr

/-- What a call gives. -/
inductive Reply
  /-- So many octets were taken. -/
  | taken (count : Nat)
  /-- How reading stopped, and the attempts not made. -/
  | filled (outcome : Except TransferError Fill) (unread : List Arrival)
  | line (line : Line)
  /-- Where the body starts and stops, if it is all there. -/
  | body (range : Option (Nat × Nat))
  | nothing

/-- Where the line or the body that a call hands out starts and stops. -/
def Reply.range? : Reply → Option (Nat × Nat)
  | line (.complete start stop) => some (start, stop)
  | body range => range
  | _ => none

/-- What a call gives, and the buffer after it. -/
def call (b : LineBuffer) : Call → Reply × LineBuffer
  | .receive data => (.taken (b.taken data), b.receive data)
  | .fill arrivals => (.filled (b.fill arrivals).outcome (b.fill arrivals).unread, (b.fill arrivals).buffer)
  | .scanLine => (.line b.scanLine.1, b.scanLine.2)
  | .takeBody length =>
    (.body ((b.takeBody length).1.map fun start => (start, start + length)), (b.takeBody length).2)
  | .compact => (.nothing, b.compact)
  | .clear => (.nothing, b.clear)

/-- The buffer after some calls. -/
def after (b : LineBuffer) (calls : List Call) : LineBuffer := calls.foldl (fun b call => (b.call call).2) b

end LineBuffer

/-- A reader and the buffer that it reads. -/
structure Reading where
  reader : RequestReader := .requestLine
  buffer : LineBuffer
  deriving DecidableEq, Repr

namespace Reading

/-- The calls on a reader and its buffer. -/
inductive Call
  | onBuffer (call : LineBuffer.Call)
  | advance
  /-- What has been read of a request is forgotten. -/
  | reset
  deriving DecidableEq, Repr

/-- What a call gives. -/
inductive Reply
  | ofBuffer (reply : LineBuffer.Reply)
  | advance (outcome : Except RequestError (Option Request))
  | nothing

/-- Where the line or the body that a call hands out starts and stops. -/
def Reply.range? : Reply → Option (Nat × Nat)
  | ofBuffer reply => reply.range?
  | _ => none

/-- A new reader and an empty buffer. -/
def start (capacity : Nat) : Reading := { buffer := .ofCapacity capacity }

/-- What a call gives, and the reader and the buffer after it. -/
def call (s : Reading) : Call → Reply × Reading
  | .onBuffer call => (.ofBuffer (s.buffer.call call).1, { s with buffer := (s.buffer.call call).2 })
  | .advance =>
    let advance := s.reader.advance s.buffer
    (.advance advance.outcome, { reader := advance.reader, buffer := advance.buffer })
  | .reset => (.nothing, { s with reader := .requestLine })

/-- The reader and the buffer after some calls. -/
def after (s : Reading) (calls : List Call) : Reading := calls.foldl (fun s call => (s.call call).2) s

end Reading

end StaticServer
