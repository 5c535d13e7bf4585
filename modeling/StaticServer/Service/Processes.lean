import StaticServer.Dispatch.Coordinator

/-!
# Connections accepted by processes

Connections wait in a backlog that all processes share. The coordinator is told that something has arrived, and tells
one worker; a worker that was told accepts one connection after the other until none waits. A worker may end at any
moment, also while it reads its notices or accepts, and is dead for the coordinator once its process has been reaped.

Every interleaving of arrivals, the coordinator and the workers is a run of steps.

* `ProcessService.step?`: one step, where it is possible.
* `ProcessService.run?`: a run of steps.
-/

namespace StaticServer

/-- What the process of a worker does. -/
inductive WorkerActivity
  /-- It reads its notices, of which it has counted this many; without any it waits for one. -/
  | reading (counted : Nat)
  /-- It accepts connections until none waits. -/
  | accepting
  deriving DecidableEq, Repr

/-- The coordinator with the processes of its workers, and the connections that nobody has accepted. -/
structure ProcessService where
  coordinator : Coordinator
  children : Children
  activities : List WorkerActivity
  /-- How many connections wait to be accepted. -/
  backlog : Nat := 0
  /-- The coordinator is to be told that a connection has arrived. -/
  announced : Bool := false
  /-- The places of the workers told since connections have been waiting, in order. -/
  told : List Nat := []
  deriving DecidableEq, Repr

namespace ProcessService

/-- The steps of clients, the coordinator and the workers. -/
inductive Action
  /-- A connection arrives. -/
  | arrive
  /-- The coordinator is told, and tells a worker. -/
  | dispatch
  /-- A worker that runs reads a piece from its channel. -/
  | read (worker : Nat)
  /-- A worker that runs accepts a connection, or finds that none waits. -/
  | accept (worker : Nat)
  /-- The process of a worker ends. -/
  | exit (worker : Nat)
  /-- The coordinator learns that a process has ended. -/
  | reap (pid : Int)
  /-- The coordinator handles a signal. A worker that is told to end does so in a step of its own. -/
  | signal (signal : Signal)
  deriving DecidableEq, Repr

/-- A service whose workers all run, with this limit for each channel. -/
def start (pids : List Int) (limit : Option Nat) : ProcessService :=
  { coordinator := .ofWorkers ((WorkerSet.ofPids pids).withLimit limit)
    children := { running := pids }
    activities := pids.map fun _ => .reading 0 }

/-- The worker at a place. -/
def worker? (s : ProcessService) (i : Nat) : Option Worker := s.coordinator.workers.workers[i]?

/-- The worker at a place has a process that runs. -/
def isRunning (s : ProcessService) (i : Nat) : Bool :=
  ((s.worker? i).bind Worker.pid?).any fun pid => s.children.running.contains pid

/-- The service with a worker changed. -/
def modify (s : ProcessService) (i : Nat) (f : Worker → Worker) : ProcessService :=
  { s with coordinator := { s.coordinator with workers := s.coordinator.workers.modify i f } }

/-- Nobody was told since connections have been waiting if none waits. -/
def settle (s : ProcessService) : ProcessService := if s.backlog = 0 then { s with told := [] } else s

/-- The coordinator tells a worker. -/
def dispatch (s : ProcessService) : ProcessService :=
  let (told, coordinator) := s.coordinator.dispatch
  { s with coordinator := coordinator, announced := false, told := s.told ++ told.toList }.settle

/-- A worker that has counted some notices reads a piece. Where nothing is there it goes on to accept, if there were any
notices. -/
def read (s : ProcessService) (i : Nat) (w : Worker) (counted : Nat) : ProcessService :=
  match w.channel.readPiece with
  | (none, _) => { s with activities := s.activities.set i (if counted = 0 then .reading 0 else .accepting) }
  | (some count, channel) =>
    { s.modify i fun _ => { w with channel := channel } with
      activities := s.activities.set i (.reading (counted + count)) }

/-- A worker accepts a connection, or finds that none waits. -/
def accept (s : ProcessService) (i : Nat) : ProcessService :=
  if s.backlog = 0 then { s with activities := s.activities.set i (.reading 0) }
  else { s with backlog := s.backlog - 1 }.settle

/-- The service after a step, if the step is possible. -/
def step? (s : ProcessService) : Action → Option ProcessService
  | .arrive => some { s with backlog := s.backlog + 1, announced := true }
  | .dispatch => if s.announced then some s.dispatch else none
  | .read i =>
    match s.worker? i, s.activities[i]? with
    | some w, some (.reading counted) => if s.isRunning i then some (s.read i w counted) else none
    | _, _ => none
  | .accept i =>
    match s.activities[i]? with
    | some .accepting => if s.isRunning i then some (s.accept i) else none
    | _ => none
  | .exit i =>
    match (s.worker? i).bind Worker.pid? with
    | some pid =>
      if s.isRunning i then some { s.modify i Worker.dropEnd with children := s.children.finish pid } else none
    | none => none
  | .reap pid =>
    if pid ∈ s.children.ended then
      some { s with
        coordinator := s.coordinator.onChildExit pid
        children := { s.children with ended := s.children.ended.erase pid } }
    else none
  | .signal signal =>
    let (coordinator, children) := s.coordinator.handleSignal s.children signal
    some { s with coordinator := coordinator, children := if signal = .child then children else s.children }

/-- The service after a run of steps, if each is possible. -/
def run? (s : ProcessService) (actions : List Action) : Option ProcessService := actions.foldlM step? s

end ProcessService

end StaticServer
