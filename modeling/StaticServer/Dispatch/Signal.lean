/-!
# Signals

A signal that arrives is written into every pipe that listens to it, once for each time the pipe was told to listen,
and is found there when the pipe is drained.
-/

namespace StaticServer

/-- The signals that are told apart. -/
inductive Signal
  | hangup
  | interrupt
  | user1
  | user2
  | terminate
  | child
  deriving DecidableEq, Repr

namespace Signal

/-- The number of a signal. -/
def number : Signal → Nat
  | hangup => 1
  | interrupt => 2
  | user1 => 10
  | user2 => 12
  | terminate => 15
  | child => 17

/-- The signals that are told apart, in the order of their numbers. -/
def all : List Signal := [hangup, interrupt, user1, user2, terminate, child]

/-- The signal with a number, if it is told apart. -/
def ofNumber? (number : Int) : Option Signal := all.find? fun s => (s.number : Int) == number

/-- A signal that asks the server to stop. -/
def isShutdown : Signal → Bool
  | interrupt => true
  | terminate => true
  | _ => false

theorem ofNumber?_eq_some_iff {number : Int} {s : Signal} : ofNumber? number = some s ↔ number = s.number := by
  constructor
  · intro h
    have hs : (s.number : Int) = number := by simpa using List.find?_some h
    exact hs.symm
  · rintro rfl
    cases s <;> rfl

end Signal

/-- A pipe that collects the signals it listens to. -/
structure SignalPipe where
  listens : List Signal
  pending : List Signal := []
  isOpen : Bool := true
  deriving DecidableEq, Repr

namespace SignalPipe

/-- A signal arrives. -/
def raise (p : SignalPipe) (s : Signal) : SignalPipe :=
  if p.isOpen then { p with pending := p.pending ++ p.listens.filter (· == s) } else p

/-- The signals collected, unless the pipe is closed. -/
def drain (p : SignalPipe) : Option (List Signal) × SignalPipe :=
  if p.isOpen then (some p.pending, { p with pending := [] }) else (none, p)

/-- The pipe stops listening. -/
def close (p : SignalPipe) : SignalPipe := { p with isOpen := false, pending := [] }

end SignalPipe

end StaticServer
