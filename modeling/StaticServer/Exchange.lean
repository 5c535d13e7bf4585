import StaticServer.Connection

/-!
# Exchanges

An exchange is a connection with its client at the other end of the stream. Octets sent are there for the other side
at once. The stream holds a bounded backlog of octets that the client has not received, so a long response comes to a
halt until the client receives some.

A client may end its half of the stream, or leave. After it has left, the connection still reads what was sent; then
the stream ends, or fails once if the client left octets behind that it had not received.

* `Exchange.turn`: one turn of the connection.
* `Exchange.drain`: turns in which the client receives everything, until the response is delivered.
-/

namespace StaticServer

/-- A connection and its client. -/
structure Exchange where
  site : Site
  connection : Connection := {}
  /-- Octets sent by the client that the connection has not read. -/
  inbound : Bytes := []
  /-- Octets written by the connection that the client has not received. -/
  outbound : Bytes := []
  /-- The client sends nothing more. -/
  finished : Bool := false
  /-- The client has left. -/
  left : Bool := false
  /-- The next read behind the octets sent fails. -/
  resetPending : Bool := false

namespace Exchange

/-- The most octets that wait for the client to receive them. -/
def maxBacklog : Nat := 1048576

/-- What the stream holds ready for the connection. -/
def wire (x : Exchange) : Wire :=
  let room := maxBacklog - x.outbound.length
  { arrivals :=
      (if x.inbound.isEmpty then [] else [.data x.inbound]) ++
      (if x.resetPending then [.failure .connectionReset] else []) ++
      (if x.finished then [.data []] else [])
    sink :=
      { acceptances :=
          if x.left then [.failure .brokenPipe]
          else if room = 0 then [.failure .wouldBlock]
          else [.upTo room, .failure .wouldBlock] } }

/-- The octets that reads to come would give. -/
def unreadOctets (arrivals : List Arrival) : Bytes :=
  arrivals.flatMap fun
    | .data octets => octets
    | .failure _ => []

/-- The exchange after its connection has used the stream. -/
def after (x : Exchange) (connection : Connection) (wire : Wire) : Exchange :=
  { x with
    connection := connection
    inbound := unreadOctets wire.arrivals
    outbound := x.outbound ++ wire.sink.received
    resetPending := wire.arrivals.contains (.failure .connectionReset) }

/-! ## The client -/

/-- The client sends octets: whether there was a connection to send them to. -/
def send (x : Exchange) (data : Bytes) : Bool × Exchange :=
  if x.connection.isOpen && !x.finished then (true, { x with inbound := x.inbound ++ data }) else (false, x)

/-- The client ends its half of the stream. -/
def finish (x : Exchange) : Exchange := { x with finished := true }

/-- The client leaves, unless it has left before. -/
def leave (x : Exchange) : Exchange :=
  if x.left then x else { x with finished := true, left := true, resetPending := !x.outbound.isEmpty, outbound := [] }

/-- The client receives what is there: the octets, and whether the connection's side has ended. -/
def receive (x : Exchange) : Bytes × Bool × Exchange := (x.outbound, !x.connection.isOpen, { x with outbound := [] })

/-! ## The connection -/

/-- One turn of the connection. -/
def turn (x : Exchange) (ready : Readiness) : Step × Exchange :=
  let (step, connection, wire) := x.connection.onReady x.site ready x.wire
  (step, x.after connection wire)

/-- The connection goes on delivering. -/
def flush (x : Exchange) : Step × Exchange :=
  let (step, connection, wire) := x.connection.flush x.site x.wire
  (step, x.after connection wire)

/-- The connection reads. -/
def fill (x : Exchange) : Except TransferError Fill × Exchange :=
  let (outcome, connection, wire) := x.connection.fill x.wire
  (outcome, x.after connection wire)

/-- The connection gives up its end of the stream. -/
def close (x : Exchange) : Bool × Exchange :=
  let (had, connection) := x.connection.close
  (had, { x with connection := connection })

/-- At most `turns` turns for writing, before each of which the client receives everything, until the connection waits
for something else; then the client receives once more. The last step and all octets received. -/
def drain (x : Exchange) : (turns : Nat) → Step × Bytes × Exchange
  | 0 => (.write, [], x)
  | turns + 1 =>
    let (before, _, x) := x.receive
    let (step, x) := x.turn .writable
    if step = .write then
      let (step, more, x) := drain x turns
      (step, before ++ more, x)
    else
      let (behind, _, x) := x.receive
      (step, before ++ behind, x)

end Exchange

end StaticServer
