import StaticServer.Transfer

/-!
# Readiness polling

A poller watches the near ends of streams. An end that becomes ready joins a queue, and a wait reports the ends of the
queue in turn, as far as there is room for them. A level-triggered end joins the queue again while it stays ready; an
edge-triggered end joins it again when something happens to the stream; a one-shot end is reported once and then rests
until it is armed again.

* `Poller.register`, `Poller.rearm`, `Poller.deregister`: what is watched.
* `Poller.wait`: the events of one wait.
-/

namespace StaticServer

/-- What a watched end is to be reported for. -/
inductive Interest
  | read
  | write
  deriving DecidableEq, Repr

/-- How often a watched end is reported. -/
inductive TriggerMode
  | level
  | edge
  | oneShot
  deriving DecidableEq, Repr

/-- The near end of a stream: what the far end has sent and it has not read, and whether the far end is there. -/
structure NearEnd where
  pending : Bytes := []
  /-- The far end sends nothing more. -/
  finished : Bool := false
  /-- The far end is gone. -/
  gone : Bool := false
  deriving DecidableEq, Repr

namespace NearEnd

def isReadable (e : NearEnd) : Bool := !e.pending.isEmpty || e.finished || e.gone

/-- One read of at most `max` octets. -/
def read (e : NearEnd) (max : Nat) : Except TransferError Bytes × NearEnd :=
  if !e.pending.isEmpty then (.ok (e.pending.take max), { e with pending := e.pending.drop max })
  else if e.finished || e.gone then (.ok [], e)
  else (.error .wouldBlock, e)

end NearEnd

/-- How the near end of a stream is watched. -/
structure Watch where
  /-- Which of the near ends it is. -/
  place : Nat
  token : Nat
  mode : TriggerMode
  interest : Interest
  /-- The watch does not rest. -/
  armed : Bool := true
  deriving DecidableEq, Repr

/-- What is reported of a watched end. -/
structure Event where
  token : Nat
  readable : Bool
  writable : Bool
  hangup : Bool
  deriving DecidableEq, Repr

/-- The streams, the watches on their near ends, and the queue of ends that may be ready. -/
structure Poller where
  ends : List NearEnd
  watches : List Watch := []
  queue : List Nat := []
  deriving DecidableEq, Repr

namespace Poller

/-- A poller for streams of which nothing is watched. -/
def ofCount (count : Nat) : Poller := { ends := List.replicate count {} }

def nearEnd (p : Poller) (i : Nat) : NearEnd := (p.ends[i]?).getD {}

def watch? (p : Poller) (i : Nat) : Option Watch := p.watches.find? fun w => w.place == i

/-- What is reported of an end now, if anything. -/
def event? (p : Poller) (w : Watch) : Option Event :=
  let e := p.nearEnd w.place
  let readable := w.interest == .read && e.isReadable
  let writable := w.interest == .write
  if w.armed && (readable || writable || e.gone) then
    some { token := w.token, readable := readable, writable := writable, hangup := e.gone }
  else none

/-- An end joins the queue, unless it is in it. -/
def enqueue (p : Poller) (i : Nat) : Poller := if i ∈ p.queue then p else { p with queue := p.queue ++ [i] }

/-- An end joins the queue if there is something to report. -/
def enqueueIfReady (p : Poller) (w : Watch) : Poller := if (p.event? w).isSome then p.enqueue w.place else p

/-! ## Watches -/

/-- Watches the near end of a stream. -/
def register (p : Poller) (w : Watch) : Except TransferError Poller :=
  if (p.watch? w.place).isSome then .error .alreadyExists
  else .ok ({ p with watches := p.watches ++ [w] }.enqueueIfReady w)

/-- Watches an end once more, for one report. -/
def rearm (p : Poller) (i token : Nat) (interest : Interest) : Except TransferError Poller :=
  if (p.watch? i).isNone then .error .notFound
  else
    let w : Watch := { place := i, token := token, mode := .oneShot, interest := interest }
    .ok ({ p with watches := p.watches.map fun (v : Watch) => if v.place = i then w else v }.enqueueIfReady w)

/-- Stops watching an end, which is closed: whether it was watched. -/
def deregister (p : Poller) (i : Nat) : Except TransferError Unit × Poller :=
  (if (p.watch? i).isSome then .ok () else .error .notFound,
    { p with watches := p.watches.filter fun w => w.place != i, queue := p.queue.filter (· != i) })

/-! ## What happens to a stream -/

/-- Something happens to a stream that may interest those who watch its near end for `interest`, or everybody. -/
def touch (p : Poller) (i : Nat) (interest : Option Interest) : Poller :=
  match p.watch? i with
  | some w => if w.armed && (interest.all fun x => w.interest == x) then p.enqueue i else p
  | none => p

/-- The poller with a near end changed. -/
def setEnd (p : Poller) (i : Nat) (f : NearEnd → NearEnd) : Poller := { p with ends := p.ends.modify i f }

/-- The far end sends octets. -/
def write (p : Poller) (i : Nat) (data : Bytes) : Poller :=
  if data.isEmpty then p
  else (p.setEnd i fun e => { e with pending := e.pending ++ data }).touch i (some .read)

/-- The far end sends nothing more. -/
def finish (p : Poller) (i : Nat) : Poller := (p.setEnd i fun e => { e with finished := true }).touch i none

/-- The far end goes away. -/
def drop (p : Poller) (i : Nat) : Poller := (p.setEnd i fun e => { e with gone := true }).touch i none

/-- One read at the near end. -/
def read (p : Poller) (i max : Nat) : Except TransferError Bytes × Poller :=
  let (result, e) := (p.nearEnd i).read max
  (result, p.setEnd i fun _ => e)

/-! ## Waiting -/

/-- A one-shot watch rests once it has been reported. -/
def rest (w : Watch) : Watch := if w.mode = .oneShot then { w with armed := false } else w

/-- Goes through the ends of a queue, with room for `room` events: the events, the ends that join the queue again, and
the ends that were not reached. -/
def report (p : Poller) (room : Nat) : List Nat → List (Watch × Event) × List Nat
  | [] => ([], [])
  | i :: queue =>
    match room with
    | 0 => ([], i :: queue)
    | more + 1 =>
      match (p.watch? i).bind fun w => (p.event? w).map fun e => (w, e) with
      | none => p.report room queue
      | some reported =>
        let (events, unreached) := p.report more queue
        (reported :: events, unreached)

/-- One wait with room for `capacity` events, and for one at least: the events in the order of the queue. -/
def wait (p : Poller) (capacity : Nat) : List Event × Poller :=
  let (reported, unreached) := p.report (max capacity 1) p.queue
  let again := (reported.filter fun (w, _) => w.mode == .level).map fun (w, _) => w.place
  let seen := reported.map fun (w, _) => w.place
  (reported.map Prod.snd,
    { p with
      queue := unreached ++ again
      watches := p.watches.map fun w => if w.place ∈ seen then rest w else w })

end Poller

end StaticServer
