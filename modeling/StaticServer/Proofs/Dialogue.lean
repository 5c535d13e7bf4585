import StaticServer.Proofs.Turns

/-!
# Dialogues

A dialogue is a connection with a client of which nothing is assumed: the client sends what it likes when it likes and
receives as slowly as it likes, and every turn of the connection meets a stream that gives and takes as little as it
likes. The connection gets a turn when its stream can do what it waits for, and none once it is to be closed.

* `Dialogue.step`, `Dialogue.run`: what one event, and what a list of events does to a dialogue.
* `Dialogue.Event.isSteady`: an event in which the client stays and its stream does not fail.
* `Intake.unreadOctets_offers`: what is offered to be read, and what is not, is what has been sent.
* `LineBuffer.outcome_fill_of_steady`: reading from a steady stream neither fails nor ends.
-/

namespace StaticServer

/-! ## What a stream gives -/

/-- One attempt to read from a stream: it gives some of the octets sent, it fails, or it finds the stream ended. -/
inductive Intake
  /-- At most `count` of the octets sent; it has to wait if there are none. -/
  | upTo (count : Nat)
  | failure (error : TransferError)
  | ended
  deriving DecidableEq, Repr

namespace Intake

/-- The reads to come of a stream on which these octets wait, and the octets that no read will give. -/
def offers (unread : Bytes) : List Intake → List Arrival × Bytes
  | [] => ([], unread)
  | .upTo count :: rest =>
    match unread.take count with
    | [] => (.failure .wouldBlock :: (offers unread rest).1, (offers unread rest).2)
    | o :: os => (.data (o :: os) :: (offers (unread.drop count) rest).1, (offers (unread.drop count) rest).2)
  | .failure e :: rest => (.failure e :: (offers unread rest).1, (offers unread rest).2)
  | .ended :: rest => (.data [] :: (offers unread rest).1, (offers unread rest).2)

/-- An attempt that gives octets, is interrupted or has to wait. -/
def isSteady : Intake → Bool
  | upTo _ => true
  | failure .wouldBlock => true
  | failure .interrupted => true
  | failure _ => false
  | ended => false

/-- What is offered to be read, and what is not, is what waits on the stream. -/
theorem unreadOctets_offers (unread : Bytes) (intakes : List Intake) :
    Exchange.unreadOctets (offers unread intakes).1 ++ (offers unread intakes).2 = unread := by
  fun_induction offers unread intakes with
  | case1 unread => rfl
  | case2 unread count rest h ih => exact ih
  | case3 unread count rest o os h ih =>
    rw [Exchange.unreadOctets_data, List.append_assoc, ih, ← h, List.take_append_drop]
  | case4 unread e rest ih => exact ih
  | case5 unread rest ih => exact ih

end Intake

/-- A read that gives octets, is interrupted or has to wait. -/
def Arrival.isSteady : Arrival → Bool
  | data octets => !octets.isEmpty
  | failure .wouldBlock => true
  | failure .interrupted => true
  | failure _ => false

theorem Intake.isSteady_offers (unread : Bytes) {intakes : List Intake} (h : ∀ i ∈ intakes, i.isSteady = true) :
    ∀ a ∈ (offers unread intakes).1, a.isSteady = true := by
  fun_induction offers unread intakes with
  | case1 => exact fun _ ha => absurd ha List.not_mem_nil
  | case2 unread count rest _ ih =>
    exact List.forall_mem_cons.mpr ⟨rfl, ih (List.forall_mem_cons.mp h).2⟩
  | case3 unread count rest o os _ ih =>
    exact List.forall_mem_cons.mpr ⟨rfl, ih (List.forall_mem_cons.mp h).2⟩
  | case4 unread e rest ih =>
    obtain ⟨he, hrest⟩ := List.forall_mem_cons.mp h
    refine List.forall_mem_cons.mpr ⟨?_, ih hrest⟩
    cases e <;> simp_all [isSteady, Arrival.isSteady]
  | case5 unread rest ih => cases (List.forall_mem_cons.mp h).1

/-- Reading from a steady stream neither fails nor ends. -/
theorem LineBuffer.outcome_fill_of_steady (b : LineBuffer) {arrivals : List Arrival}
    (h : ∀ a ∈ arrivals, a.isSteady = true) : ∃ f, (b.fill arrivals).outcome = .ok f ∧ f ≠ .ended := by
  fun_induction fill b arrivals with
  | case1 b =>
    refine ⟨_, rfl, ?_⟩
    split <;> rintro ⟨⟩
  | case2 b arrival rest hf => exact ⟨.full, rfl, by rintro ⟨⟩⟩
  | case3 b rest hf => exact ⟨.drained, rfl, by rintro ⟨⟩⟩
  | case4 b rest hf ih => exact ih (List.forall_mem_cons.mp h).2
  | case5 b rest hf e hwait hagain =>
    have he := (List.forall_mem_cons.mp h).1
    cases e <;> simp_all [Arrival.isSteady]
  | case6 b rest hf => cases (List.forall_mem_cons.mp h).1
  | case7 b rest hf o os data hd ih => exact ih (List.forall_mem_cons.mp h).2
  | case8 b rest hf o os data hd => exact ⟨.full, rfl, by rintro ⟨⟩⟩

/-! ## Events -/

/-- A connection, what it waits for, and all that has gone over its stream. -/
structure Dialogue where
  connection : Connection := {}
  awaits : Step := .read
  /-- All octets sent by the client. -/
  sent : Bytes := []
  /-- Those of them that the connection has not read. -/
  unread : Bytes := []
  /-- Octets written by the connection that the client has not received. -/
  inTransit : Bytes := []
  /-- All octets received by the client. -/
  received : Bytes := []
  deriving Repr

namespace Dialogue

/-- What happens in a dialogue. -/
inductive Event
  /-- The client sends octets. -/
  | send (octets : Bytes)
  /-- The client receives at most `count` of the octets on their way to it. -/
  | receive (count : Nat)
  /-- The connection gets a turn, in which its stream gives and takes octets in these attempts. -/
  | turn (intakes : List Intake) (acceptances : List Acceptance) (gathers : Bool)
  deriving DecidableEq, Repr

/-- The client stays and its stream does not fail. -/
def Event.isSteady : Event → Bool
  | send _ => true
  | receive _ => true
  | turn intakes acceptances _ => intakes.all Intake.isSteady && acceptances.all Acceptance.isSteady

/-- All octets written by the connection. -/
def written (d : Dialogue) : Bytes := d.received ++ d.inTransit

/-- What a stream holds ready for a turn. -/
def wire (d : Dialogue) (intakes : List Intake) (acceptances : List Acceptance) (gathers : Bool) : Wire :=
  { arrivals := (Intake.offers d.unread intakes).1
    sink := { acceptances := acceptances, gathers := gathers } }

/-- The connection gets a turn, for what its stream can do. -/
def turn (site : Site) (d : Dialogue) (ready : Readiness) (intakes : List Intake) (acceptances : List Acceptance)
    (gathers : Bool) : Dialogue :=
  let (step, connection, wire) := d.connection.onReady site ready (d.wire intakes acceptances gathers)
  { d with
    connection := connection
    awaits := step
    unread := Exchange.unreadOctets wire.arrivals ++ (Intake.offers d.unread intakes).2
    inTransit := d.inTransit ++ wire.sink.received }

/-- What one event does. A connection that is to be closed gets no turn any more. -/
def step (site : Site) (d : Dialogue) : Event → Dialogue
  | .send octets => { d with sent := d.sent ++ octets, unread := d.unread ++ octets }
  | .receive count =>
    { d with received := d.received ++ d.inTransit.take count, inTransit := d.inTransit.drop count }
  | .turn intakes acceptances gathers =>
    match d.awaits with
    | .read => d.turn site .readable intakes acceptances gathers
    | .write => d.turn site .writable intakes acceptances gathers
    | .close => d

/-- What a list of events does to a new connection. -/
def run (site : Site) (events : List Event) : Dialogue := events.foldl (step site) {}

/-- What holds of a new connection and is kept by every event of a kind holds behind every list of such events. -/
theorem run_induction {site : Site} {motive : Dialogue → Prop} {events : List Event} (hnew : motive {})
    (hstep : ∀ d, motive d → ∀ e ∈ events, motive (d.step site e)) : motive (run site events) := by
  rw [run]
  generalize ({} : Dialogue) = d at hnew ⊢
  induction events generalizing d with
  | nil => exact hnew
  | cons e rest ih =>
    exact ih (fun d hd e' he' => hstep d hd e' (List.mem_cons_of_mem e he')) (d.step site e)
      (hstep d hnew e List.mem_cons_self)

/-- Receiving moves octets that have been written. -/
@[simp] theorem written_receive (site : Site) (d : Dialogue) (count : Nat) :
    (d.step site (.receive count)).written = d.written := by
  simp only [step, written, List.append_assoc, List.take_append_drop]

/-- What a turn writes comes behind what has been written. -/
theorem written_turn (site : Site) (d : Dialogue) (ready : Readiness) (intakes : List Intake)
    (acceptances : List Acceptance) (gathers : Bool) :
    (d.turn site ready intakes acceptances gathers).written =
      d.written ++ (d.connection.onReady site ready (d.wire intakes acceptances gathers)).2.2.sink.received := by
  simp only [turn, written, List.append_assoc]

end Dialogue

end StaticServer
