import StaticServer.Dispatch.Worker
import StaticServer.Dispatch.Signal

/-!
# The coordinator

The coordinator tells live workers in turn that there is a connection. A worker is dead only once its process has been
reaped, and the coordinator stops when all workers are dead. A shutdown signal ends the dispatching and is passed on to
the workers.

* `Coordinator.dispatch`: the worker that was told, if one could be.
* `Coordinator.onChildExit`: a process has been reaped.
* `Coordinator.handleSignal`, `Coordinator.handleNumber`: what a signal does.
-/

namespace StaticServer

/-- The processes started by the coordinator: those that run, and those that have ended and not been reaped. -/
structure Children where
  running : List Int := []
  ended : List Int := []
  deriving DecidableEq, Repr

namespace Children

/-- A process ends, if it runs. -/
def finish (c : Children) (pid : Int) : Children :=
  if pid ∈ c.running then { running := c.running.erase pid, ended := c.ended ++ [pid] } else c

/-- The processes that have ended, which are reaped. -/
def reap (c : Children) : List Int × Children := (c.ended, { c with ended := [] })

end Children

/-- The state of the coordinator. -/
structure Coordinator where
  workers : WorkerSet
  terminating : Bool
  /-- The coordinator is to stop. -/
  stop : Bool
  deriving DecidableEq, Repr

namespace Coordinator

/-- The coordinator of some workers. -/
def ofWorkers (workers : WorkerSet) : Coordinator :=
  { workers := workers, terminating := false, stop := workers.allDead }

/-- Tells live workers in turn, at most `tries` of them, until one can be told: its place. -/
def tell (workers : WorkerSet) : (tries : Nat) → Option Nat × WorkerSet
  | 0 => (none, workers)
  | tries + 1 =>
    match workers.nextLive? with
    | none => (none, workers)
    | some (i, workers) =>
      match workers.workers[i]?.map Worker.notify with
      | some (.ok told) => (some i, workers.modify i fun _ => told)
      | _ => tell workers tries

/-- Tells a live worker that there is a connection: its place, if one could be told. -/
def dispatch (c : Coordinator) : Option Nat × Coordinator :=
  if c.terminating then (none, c)
  else
    match tell c.workers c.workers.size with
    | (some i, workers) => (some i, { c with workers := workers })
    | (none, workers) => (none, { c with workers := workers, stop := c.stop || workers.allDead })

/-- A process has been reaped. -/
def onChildExit (c : Coordinator) (pid : Int) : Coordinator :=
  let (_, workers) := c.workers.markReaped pid
  { c with workers := workers, stop := c.stop || workers.allDead }

/-- What a signal does, to the coordinator and to the processes. -/
def handleSignal (c : Coordinator) (children : Children) (s : Signal) : Coordinator × Children :=
  if s = .child then
    let (pids, children) := children.reap
    (pids.foldl onChildExit c, children)
  else if s.isShutdown then ({ c with terminating := true }, c.workers.livePids.foldl Children.finish children)
  else (c, children)

/-- What the signal with a number does. Signals that are not told apart do nothing. -/
def handleNumber (c : Coordinator) (children : Children) (number : Int) : Coordinator × Children :=
  match Signal.ofNumber? number with
  | some s => c.handleSignal children s
  | none => (c, children)

end Coordinator

end StaticServer
