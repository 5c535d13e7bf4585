import StaticServer.Dispatch.Coordinator

/-!
# Histories

A set of workers goes from call to call, and a coordinator from event to event. Its workers may read their channels or
leave them between any two events.

* `WorkerSet.after`, `WorkerSet.selections`: where calls lead to, and the places that they select.
* `Coordinator.after`: where events lead to.
-/

namespace StaticServer

namespace WorkerSet

/-- The calls that change a set of workers. -/
inductive Call
  /-- The next live worker is selected. -/
  | next
  /-- A process has been reaped. -/
  | reaped (pid : Int)
  deriving DecidableEq, Repr

/-- The place that a call selects, if it selects one, and the set after the call. -/
def call (s : WorkerSet) : Call → Option Nat × WorkerSet
  | .next =>
    match s.nextLive? with
    | some (i, t) => (some i, t)
    | none => (none, s)
  | .reaped pid => (none, (s.markReaped pid).2)

/-- The set after some calls. -/
def after (s : WorkerSet) (calls : List Call) : WorkerSet := calls.foldl (fun s call => (s.call call).2) s

/-- The places that some calls select, in order. -/
def selections (s : WorkerSet) : List Call → List Nat
  | [] => []
  | call :: rest => (s.call call).1.toList ++ (s.call call).2.selections rest

end WorkerSet

namespace Coordinator

/-- What can happen to a coordinator and to the channels of its workers. -/
inductive Event
  /-- A worker is to be told of a connection. -/
  | dispatch
  /-- A process has been reaped. -/
  | childExit (pid : Int)
  /-- The signal with this number is handled, when these processes have ended. -/
  | signal (number : Int) (ended : List Int)
  /-- A worker reads a piece from its channel. -/
  | read (worker : Nat)
  /-- A worker's end of its channel is closed. -/
  | dropEnd (worker : Nat)
  deriving DecidableEq, Repr

namespace Event

/-- The processes that an event reports as reaped. -/
def reported : Event → List Int
  | childExit pid => [pid]
  | signal number ended => if number = Signal.child.number then ended else []
  | _ => []

/-- An event that asks the coordinator to stop its workers. -/
def isShutdown : Event → Bool
  | signal number _ => number = Signal.interrupt.number ∨ number = Signal.terminate.number
  | _ => false

end Event

/-- The coordinator after an event. -/
def handle (c : Coordinator) : Event → Coordinator
  | .dispatch => c.dispatch.2
  | .childExit pid => c.onChildExit pid
  | .signal number ended => (c.handleNumber { ended := ended } number).1
  | .read i => { c with workers := c.workers.modify i fun w => { w with channel := w.channel.readPiece.2 } }
  | .dropEnd i => { c with workers := c.workers.modify i Worker.dropEnd }

/-- The coordinator after some events. -/
def after (c : Coordinator) (events : List Event) : Coordinator := events.foldl handle c

end Coordinator

end StaticServer
