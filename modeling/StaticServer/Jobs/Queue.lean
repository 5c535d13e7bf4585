/-!
# Job queues

A job queue is a bounded queue with a semaphore that counts its items. To push is to put an item in, unless the queue
is full, and then to add a unit; to pop is to take a unit, for which a thread may have to wait, and then to take the
first item out.

* `JobQueue.push`: an item that does not fit is handed back.
* `JobQueue.pop?`: the first item, unless the thread has to wait.
-/

namespace StaticServer

/-- A bounded queue of jobs and the units of its semaphore. -/
structure JobQueue (α : Type) where
  capacity : Nat
  items : List α := []
  units : Nat := 0
  deriving DecidableEq, Repr

namespace JobQueue

variable {α : Type}

def size (q : JobQueue α) : Nat := q.items.length

def isEmpty (q : JobQueue α) : Bool := q.size == 0

def isFull (q : JobQueue α) : Bool := decide (q.capacity ≤ q.size)

/-! ## The halves of an operation -/

/-- Puts an item in, unless the queue is full. -/
def enqueue? (q : JobQueue α) (item : α) : Option (JobQueue α) :=
  if q.isFull then none else some { q with items := q.items ++ [item] }

/-- Adds a unit. -/
def post (q : JobQueue α) : JobQueue α := { q with units := q.units + 1 }

/-- Takes a unit, if there is one. -/
def acquire? (q : JobQueue α) : Option (JobQueue α) :=
  if q.units = 0 then none else some { q with units := q.units - 1 }

/-- Takes the first item out, if there is one. -/
def dequeue? (q : JobQueue α) : Option (α × JobQueue α) :=
  match q.items with
  | [] => none
  | item :: rest => some (item, { q with items := rest })

/-! ## Operations -/

/-- Pushes an item: the queue with it, or the item handed back. -/
def push (q : JobQueue α) (item : α) : Except α (JobQueue α) :=
  match q.enqueue? item with
  | none => .error item
  | some q => .ok q.post

/-- Pops an item, unless the thread has to wait. A unit without an item is used up. -/
def pop? (q : JobQueue α) : Option (α × JobQueue α) :=
  let rec go (q : JobQueue α) : (units : Nat) → Option (α × JobQueue α)
    | 0 => none
    | units + 1 =>
      let q := { q with units := units }
      match q.dequeue? with
      | some result => some result
      | none => go q units
  go q q.units

/-- A thread waits for an item on an empty queue, and then an item is pushed: the item that the thread gets. -/
def popAfterPush? (q : JobQueue α) (item : α) : Option (α × JobQueue α) :=
  match q.push item with
  | .ok q => q.pop?
  | .error _ => none

end JobQueue

end StaticServer
