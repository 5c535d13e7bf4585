import StaticServer.Config
import StaticServer.Dispatch.Worker
import StaticServer.Jobs.Pool
import StaticServer.Target.Host.Address
import StaticServer.Text.Words

/-!
# Starting a service

A service listens first and then makes its workers. Its host is on no network, so nothing says which IPv4 addresses
belong to others, and it can listen on each of them. Of the IPv6 addresses only the unspecified one and those that
stand for IPv4 addresses are left. An address is given by its text, or by the name `localhost`, with the number of a
port behind a colon.

* `Config.check`: why a service with this configuration does not start, if it does not.
-/

namespace StaticServer

/-- Why a service does not start. -/
inductive StartError
  /-- It cannot listen on this address. -/
  | bind (address : String)
  /-- It cannot make its pool of threads. -/
  | jobPool (cause : JobPoolError)
  /-- It cannot have this many processes. -/
  | workerCount (count : Nat)
  deriving DecidableEq, Repr

/-- The most worker processes of a service. -/
def WorkerSet.maxSize : Nat := 16

/-- The text that goes with a cause. -/
def StartError.message : StartError → String
  | bind address => "Failed to bind " ++ address
  | jobPool _ => "Failed to build thread pool"
  | workerCount count =>
    "process pool needs between 1 and " ++ String.ofList (Decimal.digits WorkerSet.maxSize) ++ " workers, got " ++
      String.ofList (Decimal.digits count)

namespace ListenAddress

/-- The host and the port of an address, which the last colon separates. -/
def split? (address : List Char) : Option (List Char × List Char) :=
  match address.reverse.dropWhile (· != ':') with
  | [] => none
  | _ :: host => some (host.reverse, (address.reverse.takeWhile (· != ':')).reverse)

/-- The number of a port. -/
def isPort (cs : List Char) : Bool := (Decimal.value? cs).any (· < 65536)

/-- Digits behind an optional plus sign. -/
def dropPlus (cs : List Char) : List Char := if cs.head? = some '+' then cs.drop 1 else cs

/-- The mark of the hexadecimal base without a digit. -/
def isBareMark (part : List Char) : Bool := part == ['0', 'x'] || part == ['0', 'X']

/-- An IPv4 address; no part may be left out, not even at the end. -/
def isIPv4 (host : List Char) : Bool :=
  host.getLast? != some '.' && !(Target.Host.pieces '.' host).any isBareMark && (Target.Host.ipv4? host).isSome

/-- The address without the number of its zone, if it has one. -/
def dropZone? (address : List Char) : Option (List Char) :=
  match address.dropWhile (· != '%') with
  | [] => some address
  | _ :: zone =>
    if (Decimal.value? zone).any (· < UInt32.size) then some (address.takeWhile (· != '%')) else none

/-- An IPv6 address of the host itself: the unspecified one, or one that stands for an IPv4 address. -/
def isIPv6 (host : List Char) : Bool :=
  ((dropZone? host).bind Target.Host.ipv6?).any fun groups =>
    groups.all (· == 0) || (groups.take 6 == [0, 0, 0, 0, 0, 0xFFFF])

/-- An address to listen on. Square brackets around an IPv6 address may be left out; no sign stands before the port
behind them. -/
def isValid (address : String) : Bool :=
  match split? address.toList with
  | none => false
  | some ('[' :: inner, port) => inner.getLast? == some ']' && isIPv6 inner.dropLast && isPort port
  | some (host, port) =>
    (Text.sameLetters host "localhost".toList || isIPv4 host || isIPv6 host) && isPort (dropPlus port)

end ListenAddress

/-- Checks that a service with this configuration starts. -/
def Config.check (c : Config) : Except StartError Unit :=
  if !ListenAddress.isValid c.listenAddr then .error (.bind c.listenAddr)
  else
    match c.mode with
    | .threads =>
      match (JobPool.create c.workers c.maxRequests : Except JobPoolError (JobPool Unit)) with
      | .ok _ => .ok ()
      | .error cause => .error (.jobPool cause)
    | .processes => if c.workers = 0 ∨ WorkerSet.maxSize < c.workers then .error (.workerCount c.workers) else .ok ()

end StaticServer
