import StaticServer.Octets

/-!
# Transfers that never block

A stream is read and written in attempts, and every attempt has an outcome of its own: some octets move, or the
attempt fails. The outcomes that lie ahead are a list, so a run over a stream is a function of that list, and a
statement about every stream is a statement about every list.

* `Arrival` is one attempt to read, `Acceptance` one attempt to write.
* `Sink` keeps the octets that its acceptances let through.
-/

namespace StaticServer

/-- Why an attempt to move octets fails. -/
inductive TransferError
  | wouldBlock
  | interrupted
  | writeZero
  | brokenPipe
  | connectionReset
  | timedOut
  | notConnected
  | alreadyExists
  | notFound
  | other
  deriving DecidableEq, Repr

/-- One attempt to read: octets that are there (none of them means the end of the stream), or a failure. Where no
attempt is listed any more, nothing is there to read yet. -/
inductive Arrival
  | data (octets : Bytes)
  | failure (error : TransferError)
  deriving DecidableEq, Repr

/-- One attempt to write: how many octets are taken at most, or a failure. Where no attempt is listed any more,
everything is taken. -/
inductive Acceptance
  | upTo (count : Nat)
  | failure (error : TransferError)
  deriving DecidableEq, Repr

/-! ## Stored octets -/

/-- The content of a file: its octets, or a hole of zeros, whose length may exceed what could be held as a list. -/
inductive Content
  | stored (octets : Bytes)
  | hole (size : Nat)
  deriving DecidableEq, Repr

namespace Content

/-- The number of octets. -/
def size : Content → Nat
  | stored octets => octets.length
  | hole size => size

/-- The octets themselves. -/
def octets : Content → Bytes
  | stored octets => octets
  | hole size => List.replicate size 0

/-- The content without its first `count` octets. -/
def drop (count : Nat) : Content → Content
  | stored octets => stored (octets.drop count)
  | hole size => hole (size - count)

/-- The first `count` octets, or all of them if there are fewer. -/
def takeOctets (count : Nat) : Content → Bytes
  | stored octets => octets.take count
  | hole size => List.replicate (min count size) 0

@[simp] theorem size_stored (octets : Bytes) : (stored octets).size = octets.length := rfl

@[simp] theorem length_octets (c : Content) : c.octets.length = c.size := by
  cases c <;> simp [octets, size]

@[simp] theorem octets_drop (count : Nat) (c : Content) : (c.drop count).octets = c.octets.drop count := by
  cases c <;> simp [octets, drop]

@[simp] theorem takeOctets_eq (count : Nat) (c : Content) : c.takeOctets count = c.octets.take count := by
  cases c <;> simp [octets, takeOctets, List.take_replicate]

@[simp] theorem size_drop (count : Nat) (c : Content) : (c.drop count).size = c.size - count := by
  cases c <;> simp [size, drop]

end Content

/-! ## The receiving end -/

/-- The receiving end of a stream: the outcomes of the attempts to come, whether an attempt may take from all the
slices it is offered or only from the first that holds something, and the octets received so far. -/
structure Sink where
  acceptances : List Acceptance
  gathers : Bool := true
  received : Bytes := []
  deriving DecidableEq, Repr

namespace Sink

/-- The number of octets in some slices. -/
def sizeOf : List Content → Nat
  | [] => 0
  | c :: rest => c.size + sizeOf rest

/-- The octets of some slices, one slice after the other. -/
def join (slices : List Content) : Bytes := slices.flatMap Content.octets

/-- The slices that one attempt may take from. -/
def offered (sink : Sink) (slices : List Content) : List Content :=
  if sink.gathers then slices else (slices.find? fun c => c.size != 0).toList

/-- The first `count` octets of some slices. -/
def takeFrom (count : Nat) : List Content → Bytes
  | [] => []
  | c :: rest => if count ≤ c.size then c.takeOctets count else c.octets ++ takeFrom (count - c.size) rest

/-- One attempt to write the slices: how many octets were taken, or why none was. -/
def write (sink : Sink) (slices : List Content) : Except TransferError Nat × Sink :=
  let offer := sink.offered slices
  match sink.acceptances with
  | [] => (.ok (sizeOf offer), { sink with received := sink.received ++ join offer })
  | .upTo count :: rest =>
    let taken := min count (sizeOf offer)
    (.ok taken, { sink with acceptances := rest, received := sink.received ++ takeFrom taken offer })
  | .failure error :: rest => (.error error, { sink with acceptances := rest })

theorem takeFrom_eq (count : Nat) (slices : List Content) : takeFrom count slices = (join slices).take count := by
  induction slices generalizing count with
  | nil => simp [takeFrom, join]
  | cons c rest ih =>
    simp only [join, List.flatMap_cons] at ih ⊢
    rw [takeFrom, List.take_append, Content.length_octets]
    split
    · next h => simp [Nat.sub_eq_zero_of_le h]
    · next h =>
      have hc : c.octets.take count = c.octets := List.take_of_length_le (by rw [Content.length_octets]; omega)
      rw [ih, hc]

theorem length_join (slices : List Content) : (join slices).length = sizeOf slices := by
  induction slices with
  | nil => rfl
  | cons c rest ih => simp_all [join, sizeOf]

end Sink

end StaticServer
