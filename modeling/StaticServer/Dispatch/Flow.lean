import StaticServer.Dispatch.Coordinator

/-!
# Notices that flow to workers

The coordinator sends notices while the workers read theirs. A worker reads its channel in pieces until nothing is
there, and the coordinator may do anything between two pieces. Every interleaving of what the coordinator does with
the reads of all workers is a run of steps. The workers told and the answers of the readers are kept in order.

* `NoticeFlow.step?`: one step, where it is possible.
* `NoticeFlow.run?`: a run of steps.
-/

namespace StaticServer

/-- The reading side of a channel. -/
structure NoticeReader where
  /-- The notices counted so far by a reading that is under way. -/
  counted : Option Nat := none
  /-- What the readings that have come to their end found, in order. -/
  found : List Notices := []
  deriving DecidableEq, Repr

namespace NoticeReader

/-- A piece with this many notices has been read. -/
def goOn (r : NoticeReader) (count : Nat) : NoticeReader := { r with counted := some (r.counted.getD 0 + count) }

/-- Nothing was there to read, and the reading comes to its end. -/
def conclude (r : NoticeReader) (closed : Bool) : NoticeReader :=
  { counted := none, found := r.found ++ [{ count := r.counted.getD 0, closed := closed }] }

end NoticeReader

/-- A coordinator and the reading sides of its workers' channels. -/
structure NoticeFlow where
  coordinator : Coordinator
  readers : List NoticeReader
  /-- The places of the workers told of a connection, in order. -/
  told : List Nat := []
  deriving DecidableEq, Repr

namespace NoticeFlow

/-- The steps of the coordinator and the workers. -/
inductive Action
  /-- The coordinator tells a worker of a connection. -/
  | dispatch
  /-- The coordinator learns that a process has ended. -/
  | childExit (pid : Int)
  /-- The coordinator handles a signal, when these processes have ended. -/
  | signal (signal : Signal) (ended : List Int)
  /-- A worker reads a piece from its channel. -/
  | read (worker : Nat)
  /-- A worker's end of its channel is closed. -/
  | dropEnd (worker : Nat)
  deriving DecidableEq, Repr

/-- Live workers with these processes, whose channels have this limit. -/
def start (pids : List Int) (limit : Option Nat) : NoticeFlow :=
  { coordinator := .ofWorkers ((WorkerSet.ofPids pids).withLimit limit), readers := pids.map fun _ => {} }

/-- The worker at a place. -/
def worker? (f : NoticeFlow) (i : Nat) : Option Worker := f.coordinator.workers.workers[i]?

/-- The flow with a worker changed. -/
def modify (f : NoticeFlow) (i : Nat) (change : Worker → Worker) : NoticeFlow :=
  { f with coordinator := { f.coordinator with workers := f.coordinator.workers.modify i change } }

/-- A worker reads a piece; where nothing is there, its reading comes to an end. -/
def read (f : NoticeFlow) (i : Nat) (w : Worker) (r : NoticeReader) : NoticeFlow :=
  match w.channel.readPiece with
  | (none, _) => { f with readers := f.readers.set i (r.conclude !w.channel.senderOpen) }
  | (some count, channel) =>
    { f.modify i fun _ => { w with channel := channel } with readers := f.readers.set i (r.goOn count) }

/-- The flow after a step, if the step is possible. -/
def step? (f : NoticeFlow) : Action → Option NoticeFlow
  | .dispatch =>
    let (told, coordinator) := f.coordinator.dispatch
    some { f with coordinator := coordinator, told := f.told ++ told.toList }
  | .childExit pid => some { f with coordinator := f.coordinator.onChildExit pid }
  | .signal signal ended =>
    some { f with coordinator := (f.coordinator.handleSignal { ended := ended } signal).1 }
  | .read i =>
    match f.worker? i, f.readers[i]? with
    | some w, some r => if w.channel.receiverOpen then some (f.read i w r) else none
    | _, _ => none
  | .dropEnd i => some (f.modify i Worker.dropEnd)

/-- The flow after a run of steps, if each is possible. -/
def run? (f : NoticeFlow) (actions : List Action) : Option NoticeFlow := actions.foldlM step? f

end NoticeFlow

end StaticServer
