import StaticServer.Response

/-!
# Delivering a response

A response is written in attempts, each of which may take a part of what is left. It is kept in at most two segments:
the head, with the body behind it if that is a fixed page, and the file.

* `Delivery.deliver`: writes until everything is written or an attempt takes nothing.
-/

namespace StaticServer

/-- A response on its way, of which `written` octets have been written. -/
structure Delivery where
  status : Status
  keepAlive : Bool
  front : Bytes
  file : Option Content
  written : Nat := 0
  deriving DecidableEq, Repr

/-- How far a delivery has come. -/
inductive Progress
  /-- Everything has been written. -/
  | done
  /-- Nothing more is taken for now. -/
  | wouldBlock
  deriving DecidableEq, Repr

namespace Delivery

/-- The delivery of a response of which nothing has been written. -/
def ofResponse (r : Response) : Delivery :=
  match r.body with
  | .page text => { status := r.status, keepAlive := r.keepAlive, front := r.head ++ Bytes.ofText text, file := none }
  | .file content => { status := r.status, keepAlive := r.keepAlive, front := r.head, file := some content }

/-- The number of octets of the file segment. -/
def fileSize (d : Delivery) : Nat := (d.file.map Content.size).getD 0

/-- The number of octets to be written in all. -/
def size (d : Delivery) : Nat := d.front.length + d.fileSize

def isDone (d : Delivery) : Bool := d.written == d.size

/-- The number of segments. -/
def segments (d : Delivery) : Nat := if d.file.isSome then 2 else 1

/-- All octets to be written. -/
def octets (d : Delivery) : Bytes := d.front ++ (d.file.map Content.octets).getD []

/-- What is left to be written, in slices. -/
def slices (d : Delivery) : List Content :=
  let file := d.file.getD (.stored [])
  if d.written < d.front.length then [.stored (d.front.drop d.written), file]
  else [file.drop (d.written - d.front.length)]

/-- What writing comes to, with the delivery and the receiving end afterwards. -/
structure Outcome where
  result : Except TransferError Progress
  delivery : Delivery
  sink : Sink
  deriving Repr

/-- One attempt to write what is left: the octets taken, or why writing stops here. -/
def attempt (d : Delivery) (sink : Sink) : Outcome ⊕ (Delivery × Sink) :=
  match sink.write d.slices with
  | (.ok 0, sink) => .inl { result := .error .writeZero, delivery := d, sink := sink }
  | (.ok n, sink) => .inr ({ d with written := d.written + n }, sink)
  | (.error .wouldBlock, sink) => .inl { result := .ok .wouldBlock, delivery := d, sink := sink }
  | (.error .interrupted, sink) => .inr (d, sink)
  | (.error e, sink) => .inl { result := .error e, delivery := d, sink := sink }

/-- The attempts that the receiving end still lists, and the octets left: an attempt uses up one or the other. -/
def budget (d : Delivery) (sink : Sink) : Nat := sink.acceptances.length + (d.size - d.written)

theorem sizeOf_slices (d : Delivery) : Sink.sizeOf d.slices = d.size - d.written := by
  simp only [slices, size, fileSize]
  cases d.file with
  | none =>
    split
    · simp [Sink.sizeOf]
    · simp [Sink.sizeOf]
      omega
  | some c =>
    split
    · simp [Sink.sizeOf]
      omega
    · simp [Sink.sizeOf]
      omega

theorem sizeOf_offered_le (sink : Sink) (slices : List Content) :
    Sink.sizeOf (sink.offered slices) ≤ Sink.sizeOf slices := by
  rw [Sink.offered]
  split
  · exact Nat.le_refl _
  · induction slices with
    | nil => simp [Sink.sizeOf]
    | cons c rest ih =>
      rw [List.find?_cons]
      split
      · simp [Sink.sizeOf]
      · exact Nat.le_trans ih (by simp [Sink.sizeOf])

theorem budget_attempt_lt {d d' : Delivery} {sink sink' : Sink} (h : d.attempt sink = .inr (d', sink')) :
    d'.budget sink' < d.budget sink := by
  have hoffer := sizeOf_offered_le sink d.slices
  rw [sizeOf_slices] at hoffer
  simp only [attempt, Sink.write] at h
  cases hs : sink.acceptances with
  | nil =>
    simp only [hs] at h
    split at h
    · cases h
    · next n s hn hw =>
      simp only [Prod.mk.injEq, Except.ok.injEq] at hw
      obtain ⟨rfl, rfl⟩ := hw
      cases h
      have hpos : Sink.sizeOf (sink.offered d.slices) ≠ 0 := fun h0 => by simp [h0] at hn
      simp only [budget, size, fileSize, hs] at hoffer ⊢
      omega
    all_goals simp_all
  | cons a rest =>
    cases a with
    | upTo count =>
      simp only [hs] at h
      split at h
      · cases h
      · next n s hn hw =>
        simp only [Prod.mk.injEq, Except.ok.injEq] at hw
        obtain ⟨rfl, rfl⟩ := hw
        cases h
        simp only [budget, size, fileSize, hs, List.length_cons]
        omega
      all_goals simp_all
    | failure e =>
      simp only [hs] at h
      cases e <;> simp only [reduceCtorEq] at h
      cases h
      simp [budget, hs]

/-- Writes what is left. An attempt that takes nothing without failing is an error; an interrupted attempt is made
again. -/
def deliver (d : Delivery) (sink : Sink) : Outcome :=
  if d.isDone then { result := .ok .done, delivery := d, sink := sink }
  else
    match h : d.attempt sink with
    | .inl outcome => outcome
    | .inr (d', sink') =>
      have := budget_attempt_lt h
      deliver d' sink'
termination_by d.budget sink

end Delivery

end StaticServer
