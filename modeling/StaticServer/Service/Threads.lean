import StaticServer.Connection
import StaticServer.Jobs.Queue
import StaticServer.Poller

/-!
# Sessions served by threads

One thread, the loop, accepts connections, collects the events of the poller and queues the sessions that became
ready. The workers take sessions from the queue; each gives its session one turn and then arms the watch on it again,
or closes it. All watches are one-shot, so a session that was reported stays at rest until somebody arms it.

A session is found in the table by the descriptor of its stream. Descriptors are used again once the stream is closed,
so a session is taken out of the table before that.

Every interleaving of the loop, the workers and the poller is a run of steps.

* `ThreadService.step?`: one step, where it is possible.
* `ThreadService.run?`: a run of steps.
-/

namespace StaticServer

/-- The interest that a step of a connection asks for; a connection to be closed has none. -/
def Step.interest? : Step → Option Interest
  | read => some .read
  | write => some .write
  | close => none

/-- The interest that brings this readiness back. -/
def Readiness.interest : Readiness → Interest
  | readable => .read
  | writable => .write

/-- What a session that an event reports can do, unless the event is a hang-up. -/
def Event.readiness? (e : Event) : Option Readiness :=
  if e.readable then some .readable else if e.writable then some .writable else none

/-- An event that a watch with this interest may report. -/
def Event.isFor (e : Event) (interest : Interest) : Bool :=
  (e.readable || e.writable || e.hangup) && (!e.readable || interest == .read) && (!e.writable || interest == .write)

/-- A session: its number, which is never used again, and the descriptor of its stream. -/
structure Session where
  id : Nat
  descriptor : Nat
  deriving DecidableEq, Repr

/-- A session that is to have a turn. -/
structure Turn where
  session : Session
  ready : Readiness
  deriving DecidableEq, Repr

/-- The watch on the stream of a session, which rests once it has been reported. -/
structure SessionWatch where
  session : Session
  /-- What it was armed for last. -/
  interest : Interest
  armed : Bool := true
  deriving DecidableEq, Repr

/-- An event that the loop has collected, with the session whose watch was reported. The loop knows only its token. -/
structure Report where
  session : Session
  event : Event
  deriving DecidableEq, Repr

/-- What a thread does with a session. -/
inductive SessionWork
  /-- It is in the table, and the loop is about to watch its stream. -/
  | opening (session : Session)
  /-- The loop is about to queue it; a worker gives it its turn. -/
  | turn (turn : Turn)
  /-- It is out of the table, and its stream is about to be closed. -/
  | closing (session : Session)
  deriving DecidableEq, Repr

/-- The threads of a service, and what they share. -/
structure ThreadService where
  maxSessions : Nat
  queue : JobQueue Turn
  /-- What each worker does. -/
  workers : List (Option SessionWork)
  /-- What the loop does with a session. -/
  loop : Option SessionWork := none
  /-- The events collected by the loop and not handled yet. -/
  reports : List Report := []
  table : List Session := []
  /-- The streams that are open. -/
  streams : List Session := []
  watches : List SessionWatch := []
  /-- The number of the next session. -/
  nextId : Nat := 0
  deriving DecidableEq, Repr

namespace ThreadService

/-- The steps of the threads and the poller. Where a watch is set up or armed, this may fail. -/
inductive Action
  /-- The loop accepts a connection, whose stream gets this descriptor. -/
  | accept (descriptor : Nat)
  /-- The loop watches the stream of the connection that it has accepted. -/
  | watch (watched : Bool)
  /-- The poller reports an armed watch to the loop. -/
  | report (session : Session) (event : Event)
  /-- The loop goes on to the next event. -/
  | handle
  /-- The loop queues its session, or arms the watch on it again if the queue is full. -/
  | append (armed : Bool)
  /-- A worker takes a session from the queue. -/
  | take (worker : Nat)
  /-- A worker's session has had its turn. -/
  | finish (worker : Nat) (step : Step) (armed : Bool)
  /-- The loop closes a stream. -/
  | release
  /-- A worker closes a stream. -/
  | releaseBy (worker : Nat)
  deriving DecidableEq, Repr

/-- A service without sessions. -/
def start (maxSessions capacity workers : Nat) : ThreadService :=
  { maxSessions := maxSessions, queue := { capacity := capacity }, workers := List.replicate workers none }

/-- The session in the table with this descriptor. -/
def session? (s : ThreadService) (descriptor : Nat) : Option Session :=
  s.table.find? fun session => session.descriptor == descriptor

/-- The service without a table entry for this descriptor. -/
def forget (s : ThreadService) (descriptor : Nat) : ThreadService :=
  { s with table := s.table.filter fun session => session.descriptor != descriptor }

/-- The watch on a session. -/
def watch? (s : ThreadService) (session : Session) : Option SessionWatch :=
  s.watches.find? fun watch => watch.session == session

/-- The watch on a session is changed. -/
def setWatch (s : ThreadService) (session : Session) (f : SessionWatch → SessionWatch) : ThreadService :=
  { s with watches := s.watches.map fun watch => if watch.session = session then f watch else watch }

/-- The watch on a session is armed. -/
def arm (s : ThreadService) (session : Session) (interest : Interest) : ThreadService :=
  s.setWatch session fun watch => { watch with interest := interest, armed := true }

/-- The watch on a session rests. -/
def rest (s : ThreadService) (session : Session) : ThreadService :=
  s.setWatch session fun watch => { watch with armed := false }

/-- The stream of a session is closed, and the watch on it is gone. -/
def closeStream (s : ThreadService) (session : Session) : ThreadService :=
  { s with
    streams := s.streams.filter (· != session)
    watches := s.watches.filter fun watch => watch.session != session }

/-- Arms the watch on a session, or takes the session out of the table to be closed: what is left to do with it. -/
def armOrForget (s : ThreadService) (session : Session) (interest : Option Interest) (armed : Bool) :
    Option SessionWork × ThreadService :=
  match interest, armed with
  | some interest, true => (none, s.arm session interest)
  | _, _ => (some (.closing session), s.forget session.descriptor)

/-- The loop accepts a connection, unless there are too many. -/
def accept (s : ThreadService) (descriptor : Nat) : ThreadService :=
  if s.maxSessions ≤ s.table.length then s
  else
    let session : Session := { id := s.nextId, descriptor := descriptor }
    { s with
      table := session :: (s.forget descriptor).table
      streams := session :: s.streams
      nextId := s.nextId + 1
      loop := some (.opening session) }

/-- The loop handles an event. -/
def handle (s : ThreadService) (event : Event) : ThreadService :=
  match s.session? event.token with
  | none => s
  | some session =>
    if event.hangup then { s.forget session.descriptor with loop := some (.closing session) }
    else
      match event.readiness? with
      | none => s
      | some ready => { s with loop := some (.turn { session := session, ready := ready }) }

/-- The service with another work for a worker. -/
def setWorker (s : ThreadService) (worker : Nat) (work : Option SessionWork) : ThreadService :=
  { s with workers := s.workers.set worker work }

/-- The service after a step, if the step is possible. -/
def step? (s : ThreadService) : Action → Option ThreadService
  | .accept descriptor =>
    if s.loop.isSome || s.streams.any fun session => session.descriptor == descriptor then none
    else some (s.accept descriptor)
  | .watch watched =>
    match s.loop with
    | some (.opening session) =>
      if watched then
        some { s with watches := { session := session, interest := .read } :: s.watches, loop := none }
      else some { s.forget session.descriptor with loop := some (.closing session) }
    | _ => none
  | .report session event =>
    match s.watch? session with
    | some watch =>
      if watch.armed ∧ event.token = session.descriptor ∧ event.isFor watch.interest then
        some { s.rest session with reports := s.reports ++ [{ session := session, event := event }] }
      else none
    | none => none
  | .handle =>
    match s.loop, s.reports with
    | none, report :: reports => some ({ s with reports := reports }.handle report.event)
    | _, _ => none
  | .append armed =>
    match s.loop with
    | some (.turn turn) =>
      match s.queue.push turn with
      | .ok queue => some { s with queue := queue, loop := none }
      | .error back =>
        let (work, s) := s.armOrForget back.session (some back.ready.interest) armed
        some { s with loop := work }
    | _ => none
  | .take worker =>
    match s.workers[worker]?, s.queue.pop? with
    | some none, some (turn, queue) => some ({ s with queue := queue }.setWorker worker (some (.turn turn)))
    | _, _ => none
  | .finish worker step armed =>
    match s.workers[worker]? with
    | some (some (.turn turn)) =>
      let (work, s) := s.armOrForget turn.session step.interest? armed
      some (s.setWorker worker work)
    | _ => none
  | .release =>
    match s.loop with
    | some (.closing session) => some { s.closeStream session with loop := none }
    | _ => none
  | .releaseBy worker =>
    match s.workers[worker]? with
    | some (some (.closing session)) => some ((s.closeStream session).setWorker worker none)
    | _ => none

/-- The service after a run of steps, if each is possible. -/
def run? (s : ThreadService) (actions : List Action) : Option ThreadService := actions.foldlM step? s

end ThreadService

end StaticServer
