import StaticServer.Jobs.Queue

/-!
# Pools of worker threads

A pool has a fixed number of threads that take jobs from a bounded queue. It needs a thread and room for a job.

* `JobPool.create`: a pool, or why there is none.
* `JobPool.append`: queues a job; a thread without a job picks up the first one.
-/

namespace StaticServer

/-- A pool whose threads are busy with the jobs of `running`. -/
structure JobPool (α : Type) where
  threads : Nat
  queue : JobQueue α
  running : List α := []
  deriving DecidableEq, Repr

/-- Why a pool cannot be made. -/
inductive JobPoolError
  | noThreads
  | noRoom
  deriving DecidableEq, Repr

/-- The text that goes with a cause. -/
def JobPoolError.message : JobPoolError → String
  | noThreads => "thread pool needs at least one thread"
  | noRoom => "thread pool queue needs room for at least one request"

namespace JobPool

variable {α : Type}

/-- A pool without jobs. -/
def create (threads capacity : Nat) : Except JobPoolError (JobPool α) :=
  if threads = 0 then .error .noThreads
  else if capacity = 0 then .error .noRoom
  else .ok { threads := threads, queue := { capacity := capacity } }

/-- A thread without a job picks up the first job of the queue. -/
def pickUp (p : JobPool α) : JobPool α :=
  if p.running.length < p.threads then
    match p.queue.pop? with
    | some (job, queue) => { p with queue := queue, running := p.running ++ [job] }
    | none => p
  else p

/-- Queues a job and lets a thread pick one up: whether there was room. -/
def append (p : JobPool α) (job : α) : Bool × JobPool α :=
  match p.queue.push job with
  | .error _ => (false, p)
  | .ok queue => (true, { p with queue := queue }.pickUp)

/-- All jobs that have been accepted and not finished, the oldest first. -/
def accepted (p : JobPool α) : List α := p.running ++ p.queue.items

end JobPool

end StaticServer
