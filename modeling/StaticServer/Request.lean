import StaticServer.Target
import StaticServer.Text.Words
import StaticServer.Text.Decimal

/-!
# Requests

A request names a method, a target and a version on its first line; of its headers three are kept. What can be wrong
with a request is one of the causes in `RequestError`.

* `Request.ofLine`: the request that a first line makes.
* `Request.applyHeader`: what one header line does to a request.
-/

namespace StaticServer

/-! ## Methods -/

/-- The methods that are told apart. Only `get` is served. -/
inductive Method
  | get
  | post
  | put
  | delete
  | head
  | options
  | patch
  deriving DecidableEq, Repr

namespace Method

/-- The canonical name of a method. -/
def name : Method → String
  | get => "GET"
  | post => "POST"
  | put => "PUT"
  | delete => "DELETE"
  | head => "HEAD"
  | options => "OPTIONS"
  | patch => "PATCH"

/-- All methods. -/
def all : List Method := [get, post, put, delete, head, options, patch]

/-- The method with this name in any case. -/
def ofName? (name : List Char) : Option Method := all.find? fun m => Text.sameLetters m.name.toList name

end Method

/-! ## Requests and what can be wrong with them -/

/-- Why a request is refused. -/
inductive RequestError
  /-- A carriage return or line feed that is no part of a line terminator. -/
  | malformedLine
  /-- A first line that is no text of three words. -/
  | invalidRequestLine
  /-- A method other than `get`. -/
  | unsupportedMethod
  | unsupportedVersion
  | invalidTarget
  /-- A header that is kept, with a value that is no text. -/
  | invalidHeader
  | invalidContentLength
  /-- A request that the line buffer cannot hold. -/
  | tooLarge
  /-- A request that has not been received in full. -/
  | incomplete
  deriving DecidableEq, Repr

/-- The text that goes with a cause. -/
def RequestError.message : RequestError → String
  | malformedLine => "malformed line terminator"
  | invalidRequestLine => "invalid request line"
  | unsupportedMethod => "unsupported method"
  | unsupportedVersion => "unsupported protocol version"
  | invalidTarget => "invalid request target"
  | invalidHeader => "invalid header value"
  | invalidContentLength => "invalid Content-Length"
  | tooLarge => "request too large"
  | incomplete => "incomplete request"

/-- A request: its first line and the three headers that are kept. -/
structure Request where
  method : Method
  /-- The path served, escapes read, starting with a slash. -/
  path : String
  /-- The version as it was written. -/
  version : String
  host : Option String := none
  /-- The length of the body, zero where none is declared. -/
  contentLength : Nat := 0
  /-- The client asked for the connection to be kept. -/
  keepAlive : Bool := false
  deriving DecidableEq, Repr

namespace Request

/-! ## The first line -/

/-- The only version served. -/
def servedVersion : String := "HTTP/1.1"

/-- The request of the three words on a first line. -/
def ofWords (method target version : List Char) : Except RequestError Request :=
  if Method.ofName? method ≠ some .get then .error .unsupportedMethod
  else if !Text.sameLetters version servedVersion.toList then .error .unsupportedVersion
  else
    match Target.normalize? (String.ofList target) with
    | none => .error .invalidTarget
    | some path => .ok { method := .get, path := path, version := String.ofList version }

/-- The request that a first line makes. -/
def ofLine (line : Bytes) : Except RequestError Request :=
  match (Bytes.text? line).map fun s => Text.words s.toList with
  | some [method, target, version] => ofWords method target version
  | _ => .error .invalidRequestLine

/-! ## Headers -/

/-- The headers that are kept. -/
inductive Field
  | connection
  | contentLength
  | host
  deriving DecidableEq, Repr

/-- The name of a header. -/
def Field.name : Field → String
  | connection => "Connection"
  | contentLength => "Content-Length"
  | host => "Host"

/-- All headers that are kept. -/
def Field.all : List Field := [connection, contentLength, host]

/-- The header with this name in any case. -/
def Field.ofName? (name : Bytes) : Option Field := all.find? fun f => Bytes.sameLetters name (Bytes.ofText f.name)

/-- The value of a header: its text without the blanks around it. -/
def fieldValue? (raw : Bytes) : Option (List Char) := (Bytes.text? raw).map fun s => Text.trimBlanks s.toList

/-- A length: decimal digits behind an optional plus sign, of a number that fits into 64 bits. -/
def length? (value : List Char) : Option Nat :=
  let cs := if value.head? = some '+' then value.drop 1 else value
  (Decimal.value? cs).filter (· < UInt64.size)

/-- The value that asks for the connection to be kept. -/
def keepAliveValue : String := "keep-alive"

/-- The request with the value of a header that is kept. -/
def setField (r : Request) (field : Field) (value : List Char) : Except RequestError Request :=
  match field with
  | .connection =>
    .ok (if Text.sameLetters value keepAliveValue.toList then { r with keepAlive := true } else r)
  | .contentLength =>
    match length? value with
    | none => .error .invalidContentLength
    | some n => .ok { r with contentLength := n }
  | .host => .ok { r with host := some (String.ofList value) }

/-- The name and the raw value of a header line; without a colon there is none. -/
def splitHeader (line : Bytes) : Option (Bytes × Bytes) :=
  match line.dropWhile (· != Bytes.colon) with
  | [] => none
  | _ :: raw => some (line.takeWhile (· != Bytes.colon), raw)

/-- The header of a line, if it is one that is kept, and its raw value. -/
def keptHeader? (line : Bytes) : Option (Field × Bytes) :=
  (splitHeader line).bind fun (name, raw) => (Field.ofName? name).map fun field => (field, raw)

/-- What one header line does to a request: a line without a colon and a header that is not kept do nothing. -/
def applyHeader (r : Request) (line : Bytes) : Except RequestError Request :=
  match keptHeader? line with
  | none => .ok r
  | some (field, raw) =>
    match fieldValue? raw with
    | none => .error .invalidHeader
    | some value => r.setField field value

end Request

end StaticServer
