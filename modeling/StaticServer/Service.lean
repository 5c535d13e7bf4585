import StaticServer.Exchange
import StaticServer.Response.Received
import StaticServer.Service.Startup

/-!
# Services and their clients

A service answers the connections of its clients. Each of its groups of workers takes a bounded number of them, and
new clients go to the groups in turn; a client beyond the bound is told that the server is busy. Clients act one after
the other: whatever one does, its connection goes on until it has to wait for the client again.

* `Service.start`: a service without clients, or why there is none.
* `Service.connect`, `Service.send`, `Service.finish`, `Service.leave`: what clients do.
* `Service.reply`, `Service.remainder`: what a client receives.
-/

namespace StaticServer

/-- What a client beyond the bound is told. -/
def busyNotice : Bytes := Bytes.ofText "Internal server busy"

/-- A client that is refused: the notice is all it gets. -/
def Exchange.refused (site : Site) : Exchange :=
  { site := site, connection := (({} : Connection).close).2, outbound := busyNotice }

/-- A client, with its connection. -/
structure Client where
  name : String
  /-- The group of workers that serves it. -/
  group : Nat
  exchange : Exchange
  /-- What its connection waits for. -/
  awaits : Step
  /-- Octets that it has received and not used. -/
  inbox : Bytes := []

namespace Client

/-- The client has a connection. -/
def isServed (c : Client) : Bool := c.exchange.connection.isOpen

/-- The connection has what it waits for. -/
def isReady (c : Client) : Bool :=
  match c.awaits with
  | .read => !c.exchange.inbound.isEmpty || c.exchange.finished
  | .write => c.exchange.left || c.exchange.outbound.length < Exchange.maxBacklog
  | .close => false

/-- One turn of the connection with what it waited for. -/
def turn (c : Client) : Client :=
  let (step, exchange) := c.exchange.turn (if c.awaits = .write then .writable else .readable)
  { c with awaits := step, exchange := if step = .close then exchange.close.2 else exchange }

/-- At most `turns` turns, until the connection does not have what it waits for. -/
def settle (c : Client) : (turns : Nat) → Client
  | 0 => c
  | turns + 1 => if c.isReady then c.turn.settle turns else c

/-- More turns than the connection takes for what it has been sent. A turn uses up octets, or the response to some. -/
def turnBound (c : Client) : Nat := 4 * (c.exchange.inbound.length + Request.maxSize + 1)

/-- The client does something with its end of the stream, and the connection goes on. -/
def act (c : Client) (f : Exchange → Exchange) : Client :=
  let c := { c with exchange := f c.exchange }
  c.settle c.turnBound

/-- The client receives what is there, and the connection goes on. -/
def receive (c : Client) : Client :=
  let (data, _, exchange) := c.exchange.receive
  { c with inbox := c.inbox ++ data }.act fun _ => exchange

/-- Receives at most `rounds` times, until there is enough or nothing comes. -/
def gather (enough : Bytes → Bool) (c : Client) : (rounds : Nat) → Client
  | 0 => c
  | rounds + 1 => if enough c.inbox || c.exchange.outbound.isEmpty then c else c.receive.gather enough rounds

end Client

/-- A service: what it serves, and to whom. -/
structure Service where
  site : Site
  /-- The most connections of one group of workers. -/
  maxConnections : Nat
  /-- How many groups of workers there are: the threads of a process are one. -/
  groups : Nat
  /-- Clients can find a way to the service. -/
  isReachable : Bool := true
  /-- How many clients have connected. -/
  arrivals : Nat := 0
  clients : List Client := []

namespace Service

/-- A service without clients, or why there is none. -/
def start (fileSystem : FileSystem) (config : Config) (isReachable : Bool) : Except StartError Service :=
  config.check.map fun _ =>
    { site := { fileSystem := fileSystem, root := config.root }
      maxConnections := config.maxConnections
      groups := if config.mode = .threads then 1 else config.workers
      isReachable := isReachable }

def client? (s : Service) (name : String) : Option Client := s.clients.find? fun c => c.name == name

/-- The service with a client changed. -/
def setClient (s : Service) (client : Client) : Service :=
  { s with clients := s.clients.map fun c => if c.name = client.name then client else c }

/-- A client does something with its end of the stream. -/
def act (s : Service) (name : String) (f : Exchange → Exchange) : Option Service :=
  (s.client? name).map fun c => s.setClient (c.act f)

/-- A client leaves. -/
def leave (s : Service) (name : String) : Option Service := s.act name Exchange.leave

/-- How many connections a group of workers has. -/
def load (s : Service) (group : Nat) : Nat := s.clients.countP fun c => c.isServed && c.group == group

/-- The end of a stream for a new client of a group: it is served, or refused. -/
def welcome (s : Service) (name : String) (group : Nat) : Client :=
  if s.load group < s.maxConnections then
    { name := name, group := group, exchange := { site := s.site }, awaits := .read }
  else { name := name, group := group, exchange := .refused s.site, awaits := .close }

/-- A client connects, if it finds a way. It leaves the connection that it may have had before. -/
def connect (s : Service) (name : String) : Option Service :=
  if s.isReachable then
    let before := (s.leave name).getD s
    let client := before.welcome name (s.arrivals % s.groups)
    some { before with arrivals := s.arrivals + 1, clients := client :: s.clients.filter fun c => c.name != name }
  else none

/-- A client sends octets. -/
def send (s : Service) (name : String) (data : Bytes) : Option Service := s.act name fun x => (x.send data).2

/-- A client ends its half of the stream. -/
def finish (s : Service) (name : String) : Option Service := s.act name Exchange.finish

/-- A client receives one response, in at most `rounds` rounds: its octets, or all that is left if the stream ends
before the response does; and whether the stream ended. -/
def reply (s : Service) (name : String) (rounds : Nat) : Option (Bytes × Bool × Service) :=
  (s.client? name).map fun c =>
    let c := c.gather (fun octets => (ReceivedResponse.ofBytes? octets).isSome) rounds
    match ReceivedResponse.ofBytes? c.inbox with
    | some (_, rest) =>
      (c.inbox.take (c.inbox.length - rest.length), false, s.setClient { c with inbox := rest })
    | none => (c.inbox, !c.isServed, s.setClient { c with inbox := [] })

/-- A client receives all that is left, in at most `rounds` rounds, and whether the stream ended. -/
def remainder (s : Service) (name : String) (rounds : Nat) : Option (Bytes × Bool × Service) :=
  (s.client? name).map fun c =>
    let c := c.gather (fun _ => false) rounds
    (c.inbox, !c.isServed, s.setClient { c with inbox := [] })

end Service

end StaticServer
