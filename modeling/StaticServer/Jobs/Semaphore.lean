/-!
# Counting semaphores

A semaphore holds a count of units. A thread that waits takes a unit, or falls asleep where there is none; a post adds
a unit and wakes one sleeper, which then looks at the count again and may find that another thread was faster. A
sleeper may also wake by itself.

Each of these is one step. The state says how many threads are at each point, so every interleaving of any number of
threads is a run of steps.

* `Semaphore.step?`: one step, where it is possible.
* `Semaphore.settle`: lets every thread that can go on do so.
-/

namespace StaticServer

/-- A semaphore and the threads that wait on it, counted by where they are. -/
structure Semaphore where
  /-- The units that can be taken. -/
  count : Nat
  /-- Threads that are about to look at the count for the first time. -/
  arriving : Nat := 0
  /-- Threads that sleep until they are woken. -/
  asleep : Nat := 0
  /-- Threads that have been woken and are about to look at the count again. -/
  woken : Nat := 0
  /-- Threads that have taken a unit. -/
  returned : Nat := 0
  deriving DecidableEq, Repr

namespace Semaphore

/-- The steps of the threads that use a semaphore. -/
inductive Action
  /-- A unit is added, and a sleeper is woken if there is one. -/
  | post
  /-- A thread starts to wait. -/
  | arrive
  /-- A thread that has just started to wait looks at the count. -/
  | look
  /-- A thread that was woken looks at the count. -/
  | lookAgain
  /-- A sleeper wakes by itself. -/
  | wake
  deriving DecidableEq, Repr

/-- Adds a unit and wakes a sleeper, if there is one. -/
def post (s : Semaphore) : Semaphore :=
  if s.asleep = 0 then { s with count := s.count + 1 }
  else { s with count := s.count + 1, asleep := s.asleep - 1, woken := s.woken + 1 }

/-- A thread that looks at the count takes a unit, or falls asleep where there is none. -/
def take (s : Semaphore) : Semaphore :=
  if s.count = 0 then { s with asleep := s.asleep + 1 } else { s with count := s.count - 1, returned := s.returned + 1 }

/-- The state after a step, if the step is possible. -/
def step? (s : Semaphore) : Action → Option Semaphore
  | .post => some s.post
  | .arrive => some { s with arriving := s.arriving + 1 }
  | .look => if s.arriving = 0 then none else some { s with arriving := s.arriving - 1 }.take
  | .lookAgain => if s.woken = 0 then none else some { s with woken := s.woken - 1 }.take
  | .wake => if s.asleep = 0 then none else some { s with asleep := s.asleep - 1, woken := s.woken + 1 }

/-- The state after a run of steps, if each is possible. -/
def run? (s : Semaphore) (actions : List Action) : Option Semaphore := actions.foldlM step? s

/-- Each thread has taken a unit or sleeps. -/
def isSettled (s : Semaphore) : Bool := s.arriving == 0 && s.woken == 0

/-- Lets each thread that is about to look at the count do so, one after the other. -/
def settle (s : Semaphore) : Semaphore :=
  (List.replicate (s.arriving + s.woken) ()).foldl (fun s _ =>
    ((s.step? .lookAgain).or (s.step? .look)).getD s) s

end Semaphore

end StaticServer
