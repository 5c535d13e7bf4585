import StaticServer.Request.Reader
import StaticServer.Response.Delivery
import StaticServer.Site

/-!
# Connections

A connection reads a request, delivers its response, and goes on to the next request if the response keeps it. It
never waits: whoever drives it says that its stream can be read or written, and is told what to wait for next.

* `Connection.onReady`: one turn of a connection.
* `Connection.flush`: goes on delivering; a request that came along with the one answered is read at once.
* `Connection.close`: gives up the stream.
-/

namespace StaticServer

/-- What a stream can do. -/
inductive Readiness
  | readable
  | writable
  deriving DecidableEq, Repr

/-- What a connection waits for: to read, to write, or to be closed. -/
inductive Step
  | read
  | write
  | close
  deriving DecidableEq, Repr

/-- Where a connection is. -/
inductive ConnectionState
  | readingRequestLine
  | readingHeaders
  | readingBody
  | responding
  | closed
  deriving DecidableEq, Repr

/-- One client's connection. -/
structure Connection where
  /-- The stream has not been given up. -/
  isOpen : Bool := true
  buffer : LineBuffer := .ofCapacity Request.maxSize
  reader : RequestReader := .requestLine
  /-- The last request read, until its response is delivered and the connection goes on. -/
  request : Option Request := none
  /-- The response on its way. -/
  delivery : Option Delivery := none
  /-- The client's end of the stream was found ended. -/
  peerClosed : Bool := false
  deriving Repr

/-- What a stream holds ready: the reads to come, and where writes go. -/
structure Wire where
  arrivals : List Arrival
  sink : Sink
  deriving Repr

namespace Connection

def state (c : Connection) : ConnectionState :=
  if !c.isOpen then .closed
  else if c.delivery.isSome then .responding
  else
    match c.reader with
    | .requestLine => .readingRequestLine
    | .headers _ => .readingHeaders
    | .body _ => .readingBody

/-- Makes a response the one on its way. -/
def respond (c : Connection) (response : Response) : Step × Connection :=
  (.write, { c with delivery := some (.ofResponse response) })

/-- The response to a request: one that keeps the connection does so only while the client's end has not been found
ended. -/
def answer (site : Site) (c : Connection) (request : Request) : Response :=
  let response := site.respond request.path request.keepAlive
  { response with keepAlive := response.keepAlive && !c.peerClosed }

/-- Reads on in what has been received. -/
def process (site : Site) (c : Connection) : Step × Connection :=
  let result := c.reader.advance c.buffer
  let c := { c with reader := result.reader, buffer := result.buffer }
  match result.outcome with
  | .ok (some request) => { c with request := some request }.respond (answer site c request)
  | .ok none => (if c.peerClosed then .close else .read, c)
  | .error _ => c.respond (.ofError .badRequest)

/-- Gets ready for the next request. -/
def renew (c : Connection) : Connection :=
  { c with reader := .requestLine, buffer := c.buffer.compact, request := none, delivery := none }

/-- Goes on delivering the response on its way. -/
def flush (site : Site) (c : Connection) (wire : Wire) : Step × Connection × Wire :=
  match c.delivery with
  | none => (.close, c, wire)
  | some delivery =>
    if !c.isOpen then (.close, c, wire)
    else
      let outcome := delivery.deliver wire.sink
      let wire := { wire with sink := outcome.sink }
      match outcome.result with
      | .ok .wouldBlock => (.write, { c with delivery := some outcome.delivery }, wire)
      | .error _ => (.close, { c with delivery := none }, wire)
      | .ok .done =>
        if !delivery.keepAlive then (.close, { c with delivery := none }, wire)
        else
          let c := c.renew
          if c.buffer.unscanned = 0 then (.read, c, wire)
          else
            let (step, c) := c.process site
            (step, c, wire)

/-- Reads what the stream holds ready; a stream given up has ended. -/
def fill (c : Connection) (wire : Wire) : Except TransferError Fill × Connection × Wire :=
  if !c.isOpen then (.ok .ended, c, wire)
  else
    let filling := c.buffer.fill wire.arrivals
    (filling.outcome, { c with buffer := filling.buffer }, { wire with arrivals := filling.unread })

/-- One turn: goes on delivering if the stream can be written or a response is on its way, and reads otherwise. -/
def onReady (site : Site) (ready : Readiness) (c : Connection) (wire : Wire) : Step × Connection × Wire :=
  if !c.isOpen then (.close, c, wire)
  else if ready = .writable ∨ c.delivery.isSome then c.flush site wire
  else
    let (outcome, c, wire) := c.fill wire
    match outcome with
    | .error _ => (.close, c, wire)
    | .ok .ended =>
      let (step, c) := { c with peerClosed := true }.process site
      (step, c, wire)
    | .ok _ =>
      let (step, c) := c.process site
      (step, c, wire)

/-- Gives up the stream and all that was on its way: whether there was a stream to give up. -/
def close (c : Connection) : Bool × Connection :=
  (c.isOpen, { c with isOpen := false, delivery := none, request := none, buffer := c.buffer.clear })

end Connection

end StaticServer
