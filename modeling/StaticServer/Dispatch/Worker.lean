import StaticServer.Dispatch.Channel

/-!
# Worker processes

The coordinator knows each worker by its place, its process while that lives, and its channel. Workers take turns: the
next live worker is the first one from a cursor on, around the circle.

* `WorkerSet.nextLive?`: the place of the next live worker, and the cursor behind it.
* `WorkerSet.markReaped`: the worker of a process that has ended is dead.
-/

namespace StaticServer

/-- The process of a worker, while it lives. -/
inductive WorkerState
  | live (pid : Int)
  | dead
  deriving DecidableEq, Repr

/-- A worker as the coordinator knows it. -/
structure Worker where
  index : Nat
  state : WorkerState
  channel : Channel := {}
  deriving DecidableEq, Repr

namespace Worker

def pid? (w : Worker) : Option Int :=
  match w.state with
  | .live pid => some pid
  | .dead => none

def isLive (w : Worker) : Bool := w.pid?.isSome

/-- The worker is dead, and the coordinator's end of its channel is closed. -/
def markDead (w : Worker) : Worker := { w with state := .dead, channel := w.channel.closeSender }

/-- Sends the worker a notice. -/
def notify (w : Worker) : Except TransferError Worker := w.channel.send.map fun channel => { w with channel := channel }

/-- What the worker's end of the channel reads. -/
def readNotices (w : Worker) : Notices × Worker :=
  let (notices, channel) := w.channel.readNotices
  (notices, { w with channel := channel })

/-- The worker's end of the channel is closed. -/
def dropEnd (w : Worker) : Worker := { w with channel := w.channel.closeReceiver }

end Worker

/-- The workers of a coordinator, and where the search for the next one starts. -/
structure WorkerSet where
  workers : List Worker
  cursor : Nat := 0
  deriving DecidableEq, Repr

namespace WorkerSet

/-- Live workers with these processes, in order. -/
def ofPids (pids : List Int) : WorkerSet :=
  { workers := pids.zipIdx.map fun (pid, index) => { index := index, state := .live pid } }

/-- The workers with this limit for each of their channels. -/
def withLimit (s : WorkerSet) (limit : Option Nat) : WorkerSet :=
  { s with workers := s.workers.map fun w => { w with channel := { w.channel with limit := limit } } }

def size (s : WorkerSet) : Nat := s.workers.length

def isEmpty (s : WorkerSet) : Bool := s.workers.isEmpty

def liveCount (s : WorkerSet) : Nat := s.workers.countP Worker.isLive

def allDead (s : WorkerSet) : Bool := s.liveCount == 0

/-- The processes of the live workers, in order. -/
def livePids (s : WorkerSet) : List Int := s.workers.filterMap Worker.pid?

/-- The places of the live workers, in order. -/
def liveIndexes (s : WorkerSet) : List Nat := (s.workers.filter Worker.isLive).map Worker.index

/-- There is a live worker at this place. -/
def isLiveAt (s : WorkerSet) (i : Nat) : Bool := s.workers[i]?.any Worker.isLive

/-- All places, from the cursor on, around the circle. -/
def fromCursor (s : WorkerSet) : List Nat := (List.range s.size).map fun offset => (s.cursor + offset) % s.size

/-- The place of the next live worker, and the set with the cursor behind it. -/
def nextLive? (s : WorkerSet) : Option (Nat × WorkerSet) :=
  (s.fromCursor.find? s.isLiveAt).map fun i => (i, { s with cursor := (i + 1) % s.size })

/-- The set with a worker changed. -/
def modify (s : WorkerSet) (i : Nat) (f : Worker → Worker) : WorkerSet := { s with workers := s.workers.modify i f }

/-- The place of the first live worker with this process. -/
def findPid? (s : WorkerSet) (pid : Int) : Option Nat := s.workers.findIdx? fun w => w.pid? == some pid

/-- The worker of a process that has ended is dead: its place, if there is one. -/
def markReaped (s : WorkerSet) (pid : Int) : Option Nat × WorkerSet :=
  match s.findPid? pid with
  | none => (none, s)
  | some i => (some i, s.modify i Worker.markDead)

end WorkerSet

end StaticServer
