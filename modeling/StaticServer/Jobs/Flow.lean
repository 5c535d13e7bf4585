import StaticServer.Jobs.Queue

/-!
# Jobs that flow through a queue

Producers push jobs and workers pop them, each in two steps that others may come between: a job is put in before its
unit is added, and a unit is taken before its job. Every interleaving of any number of producers and workers is a run
of steps. What was accepted and what was taken is kept in order.

* `JobFlow.step?`: one step, where it is possible.
* `JobFlow.run?`: a run of steps.
-/

namespace StaticServer

/-- Where a worker is in its round. -/
inductive WorkerPlace (α : Type)
  /-- It waits for a unit. -/
  | waiting
  /-- It has taken a unit and no job yet. -/
  | claiming
  | working (job : α)
  deriving DecidableEq, Repr

/-- A queue, the threads around it, and what went through it. -/
structure JobFlow (α : Type) where
  queue : JobQueue α
  workers : List (WorkerPlace α)
  /-- Producers that have put a job in and not added its unit yet. -/
  posting : Nat := 0
  /-- The jobs accepted, in order. -/
  accepted : List α := []
  /-- The jobs taken, in order, each with the worker that took it. -/
  taken : List (Nat × α) := []
  deriving DecidableEq, Repr

namespace JobFlow

variable {α : Type}

/-- The steps of producers and workers. -/
inductive Action (α : Type)
  /-- A producer puts a job in, or gets it back. -/
  | offer (job : α)
  /-- A producer whose job is in adds a unit. -/
  | post
  /-- A worker that waits takes a unit. -/
  | acquire (worker : Nat)
  /-- A worker that has taken a unit takes a job; without one it waits again. -/
  | take (worker : Nat)
  /-- A worker is done with its job. -/
  | finish (worker : Nat)
  deriving DecidableEq, Repr

/-- A flow that nothing went through yet. -/
def start (capacity workers : Nat) : JobFlow α :=
  { queue := { capacity := capacity }, workers := List.replicate workers .waiting }

/-- A producer puts a job in: the flow, and the job if it is handed back. -/
def offer (f : JobFlow α) (job : α) : JobFlow α × Option α :=
  match f.queue.enqueue? job with
  | none => (f, some job)
  | some queue => ({ f with queue := queue, posting := f.posting + 1, accepted := f.accepted ++ [job] }, none)

/-- The flow with a worker at another place. -/
def setWorker (f : JobFlow α) (worker : Nat) (place : WorkerPlace α) : JobFlow α :=
  { f with workers := f.workers.set worker place }

/-- The flow after a step, if the step is possible. -/
def step? (f : JobFlow α) : Action α → Option (JobFlow α)
  | .offer job => some (f.offer job).1
  | .post => if f.posting = 0 then none else some { f with queue := f.queue.post, posting := f.posting - 1 }
  | .acquire worker =>
    match f.workers[worker]?, f.queue.acquire? with
    | some .waiting, some queue => some ({ f with queue := queue }.setWorker worker .claiming)
    | _, _ => none
  | .take worker =>
    match f.workers[worker]? with
    | some .claiming =>
      match f.queue.dequeue? with
      | none => some (f.setWorker worker .waiting)
      | some (job, queue) =>
        some ({ f with queue := queue, taken := f.taken ++ [(worker, job)] }.setWorker worker (.working job))
    | _ => none
  | .finish worker =>
    match f.workers[worker]? with
    | some (.working _) => some (f.setWorker worker .waiting)
    | _ => none

/-- The flow after a run of steps, if each is possible. -/
def run? (f : JobFlow α) (actions : List (Action α)) : Option (JobFlow α) := actions.foldlM step? f

end JobFlow

end StaticServer
