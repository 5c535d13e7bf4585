import StaticServer.Transfer
import StaticServer.Text.Decimal

/-!
# Responses

A response has a status, possibly a media type, a body, and says whether the connection is kept. Its head is the
status line, the length and type of the body and the fate of the connection, each on a line, and an empty line.

* `Response.head`: the octets of the head.
* `Response.octets`: the whole response as it goes over the wire.
-/

namespace StaticServer

/-! ## Statuses -/

/-- The statuses answered with. -/
inductive Status
  | ok
  | badRequest
  | forbidden
  | notFound
  | internalServerError
  deriving DecidableEq, Repr

namespace Status

def code : Status → Nat
  | ok => 200
  | badRequest => 400
  | forbidden => 403
  | notFound => 404
  | internalServerError => 500

def reason : Status → String
  | ok => "OK"
  | badRequest => "Bad Request"
  | forbidden => "Forbidden"
  | notFound => "Not Found"
  | internalServerError => "Internal Error"

/-- The page served for an empty file. -/
def emptyPage : String := "<html><body></body></html>"

/-- The fixed body of a status. -/
def page : Status → String
  | ok => emptyPage
  | badRequest => "Your request has bad syntax or is inherently impossible to satisfy.\n"
  | forbidden => "You do not have permission to get file from this server.\n"
  | notFound => "The requested file was not found on this server.\n"
  | internalServerError => "There was an unusual problem serving the requested file.\n"

def isSuccess (s : Status) : Bool := s == ok

end Status

/-! ## Responses -/

/-- Where the body of a response comes from. -/
inductive Body
  /-- A fixed text, sent along with the head. -/
  | page (text : String)
  /-- A file, sent from where it is. -/
  | file (content : Content)
  deriving DecidableEq, Repr

namespace Body

def octets : Body → Bytes
  | page text => Bytes.ofText text
  | file content => content.octets

def size : Body → Nat
  | page text => (Bytes.ofText text).length
  | file content => content.size

theorem length_octets (b : Body) : b.octets.length = b.size := by
  cases b <;> simp [octets, size]

end Body

/-- A response. -/
structure Response where
  status : Status
  mediaType : Option String
  keepAlive : Bool
  body : Body
  deriving DecidableEq, Repr

namespace Response

/-- A file that is served. -/
def ofFile (content : Content) (mediaType : String) (keepAlive : Bool) : Response :=
  { status := .ok, mediaType := some mediaType, keepAlive := keepAlive, body := .file content }

/-- What is served for an empty file. -/
def ofEmptyFile (keepAlive : Bool) : Response :=
  { status := .ok, mediaType := some "text/html", keepAlive := keepAlive, body := .page Status.emptyPage }

/-- An error, which ends the connection. -/
def ofError (status : Status) : Response :=
  { status := status, mediaType := none, keepAlive := false, body := .page status.page }

def contentLength (r : Response) : Nat := r.body.size

/-- The lines of the head. -/
def headLines (r : Response) : List (List Char) :=
  ["HTTP/1.1 ".toList ++ Decimal.digits r.status.code ++ ' ' :: r.status.reason.toList,
    "Content-Length: ".toList ++ Decimal.digits r.contentLength] ++
  (match r.mediaType with
    | some type => ["Content-Type: ".toList ++ type.toList]
    | none => []) ++
  ["Connection: ".toList ++ (if r.keepAlive then "keep-alive" else "close").toList, []]

/-- The head: its lines, each with a line terminator. -/
def head (r : Response) : Bytes :=
  r.headLines.flatMap fun line => Bytes.ofText (String.ofList line) ++ [Bytes.cr, Bytes.lf]

/-- The response as it goes over the wire. -/
def octets (r : Response) : Bytes := r.head ++ r.body.octets

end Response

end StaticServer
