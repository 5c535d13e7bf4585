import StaticServer.Request
import StaticServer.LineBuffer

/-!
# Reading requests

A reader cuts the lines and the body of a request off a line buffer. It keeps what it has read so far, so it can be
called again whenever more octets are there.

* `RequestReader.advance`: reads on until the request is complete, more octets are needed or something is wrong.
* `Request.ofBytes`: the request at the start of some octets, and how many octets it takes.
-/

namespace StaticServer

/-- How far a request has been read. -/
inductive RequestReader
  /-- The first line comes next. -/
  | requestLine
  /-- A header line or the empty line comes next. -/
  | headers (request : Request)
  /-- The body comes next. -/
  | body (request : Request)
  deriving DecidableEq, Repr

namespace RequestReader

/-- What reading on comes to: a request, nothing yet, or an error; the reader and the buffer afterwards. -/
structure Advance where
  outcome : Except RequestError (Option Request)
  reader : RequestReader
  buffer : LineBuffer
  deriving Repr

/-- Reads the body of a request. -/
def advanceBody (request : Request) (buffer : LineBuffer) : Advance :=
  if buffer.roomAfterScan < request.contentLength then
    { outcome := .error .tooLarge, reader := .body request, buffer := buffer }
  else
    match buffer.takeBody request.contentLength with
    | (some _, rest) => { outcome := .ok (some request), reader := .requestLine, buffer := rest }
    | (none, rest) => { outcome := .ok none, reader := .body request, buffer := rest }

/-- What a line does to a reader: the reader afterwards, or the complete request. -/
def takeLine (reader : RequestReader) (line : Bytes) : Except RequestError (RequestReader ⊕ Request) :=
  match reader with
  | .requestLine => (Request.ofLine line).map fun r => .inl (.headers r)
  | .headers r =>
    if line.isEmpty then .ok (if r.contentLength = 0 then .inr r else .inl (.body r))
    else (r.applyHeader line).map fun r' => .inl (.headers r')
  | .body r => .ok (.inl (.body r))

/-- Reads as much of a request as the buffer holds. -/
def advance (reader : RequestReader) (buffer : LineBuffer) : Advance :=
  match reader with
  | .body request => advanceBody request buffer
  | _ =>
    match h : buffer.scanLine with
    | (.malformed, b) => { outcome := .error .malformedLine, reader := reader, buffer := b }
    | (.incomplete, b) =>
      { outcome := if b.isFull then .error .tooLarge else .ok none, reader := reader, buffer := b }
    | (.complete start stop, b) =>
      match takeLine reader (b.slice start stop) with
      | .error e => { outcome := .error e, reader := reader, buffer := b }
      | .ok (.inr request) => { outcome := .ok (some request), reader := .requestLine, buffer := b }
      | .ok (.inl next) =>
        have := LineBuffer.unscanned_scanLine_lt h
        advance next b
termination_by buffer.unscanned

end RequestReader

/-! ## A request as a whole -/

namespace Request

/-- The capacity of a connection's line buffer, which bounds a request. -/
def maxSize : Nat := 4096

/-- The request at the start of some octets, and how many octets it takes. -/
def ofBytes (data : Bytes) : Except RequestError (Request × Nat) :=
  let result := RequestReader.advance .requestLine ((LineBuffer.ofCapacity maxSize).receive data)
  match result.outcome with
  | .error e => .error e
  | .ok none => .error .incomplete
  | .ok (some r) => .ok (r, result.buffer.cursor.scan)

end Request

end StaticServer
