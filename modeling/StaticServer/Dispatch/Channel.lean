import StaticServer.Transfer

/-!
# Control channels

A channel carries notices, each of four octets, from the coordinator to a worker. The worker reads what is there in
pieces and counts the whole notices of each piece.

* `Channel.send`: writes a notice, unless an end is gone or too much is unread.
* `Channel.readPiece`: one read; others may write before the next one.
* `Channel.readNotices`: how many notices were there, and whether the sending end is gone.
-/

namespace StaticServer

/-- A channel: the octets sent and not yet read, and which ends are still there. -/
structure Channel where
  pending : Bytes := []
  senderOpen : Bool := true
  receiverOpen : Bool := true
  /-- A write has to wait while more octets than this are unread; without a limit it never has to. -/
  limit : Option Nat := none
  deriving DecidableEq, Repr

/-- What a reader learns from a channel. -/
structure Notices where
  count : Nat
  closed : Bool
  deriving DecidableEq, Repr

namespace Channel

/-- The notice of a new connection: the number one in four octets, the lowest first. -/
def notice : Bytes := [1, 0, 0, 0]

/-- The most octets that one read takes. -/
def readSize : Nat := 16 * notice.length

/-- The whole notices among octets that are read in pieces. -/
def countNotices (octets : Bytes) : Nat :=
  if _h : octets.length = 0 then 0
  else min readSize octets.length / notice.length + countNotices (octets.drop readSize)
termination_by octets.length
decreasing_by
  simp only [List.length_drop, readSize, notice, List.length_cons, List.length_nil]
  omega

/-- More octets are unread than the channel has room for. -/
def isFull (c : Channel) : Bool := c.limit.any (· < c.pending.length)

/-- Writes octets, all of them or none: none if an end is gone or the channel is full. -/
def write (c : Channel) (octets : Bytes) : Except TransferError Channel :=
  if !c.senderOpen then .error .notConnected
  else if !c.receiverOpen then .error .brokenPipe
  else if c.isFull then .error .wouldBlock
  else .ok { c with pending := c.pending ++ octets }

/-- Sends a notice. -/
def send (c : Channel) : Except TransferError Channel := c.write notice

/-- One read: the whole notices in the octets that it gives, unless nothing is there. -/
def readPiece (c : Channel) : Option Nat × Channel :=
  if c.pending.isEmpty then (none, c)
  else (some (min readSize c.pending.length / notice.length), { c with pending := c.pending.drop readSize })

/-- Reads all that is there. -/
def readNotices (c : Channel) : Notices × Channel :=
  ({ count := countNotices c.pending, closed := !c.senderOpen }, { c with pending := [] })

/-- The sending end goes away. -/
def closeSender (c : Channel) : Channel := { c with senderOpen := false }

/-- The receiving end goes away, and what it has not read with it. -/
def closeReceiver (c : Channel) : Channel := { c with receiverOpen := false, pending := [] }

end Channel

end StaticServer
