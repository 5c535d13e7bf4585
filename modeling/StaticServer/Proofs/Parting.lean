import StaticServer.Proofs.Dialogue

/-!
# Partings

A client that finishes sends nothing more and goes on receiving. Behind the last octet that it has sent, its stream is
found ended. A parting is a dialogue whose client may finish at any time.

* `Parting.step`, `Parting.after`, `Parting.run`: what one event, and what a list of events does to a parting.
* `LineBuffer.fill_snoc_ended`: reading from a steady stream that ends.
* `Parting.fill_intakes`: the end is found only once the client has finished and everything has been read.
-/

namespace StaticServer

/-! ## Streams that end -/

/-- The end of a stream is offered behind all that the stream gives. -/
theorem Intake.offers_snoc_ended (unread : Bytes) (intakes : List Intake) :
    offers unread (intakes ++ [.ended]) = ((offers unread intakes).1 ++ [.data []], (offers unread intakes).2) := by
  fun_induction offers unread intakes with
  | case1 unread => rfl
  | case2 unread count rest h ih => simp only [List.cons_append, offers, h, ih]
  | case3 unread count rest o os h ih => simp only [List.cons_append, offers, h, ih]
  | case4 unread e rest ih => simp only [List.cons_append, offers, ih]
  | case5 unread rest ih => simp only [List.cons_append, offers, ih]

/-- Reading from a steady stream that ends does not fail, and if the end is found then nothing is left to read. -/
theorem LineBuffer.fill_snoc_ended (b : LineBuffer) {arrivals : List Arrival}
    (h : ∀ a ∈ arrivals, a.isSteady = true) :
    ∃ f, (b.fill (arrivals ++ [.data []])).outcome = .ok f ∧
      (f = .ended → (b.fill (arrivals ++ [.data []])).unread = []) := by
  fun_induction fill b arrivals with
  | case1 b =>
    rw [List.nil_append, fill]
    split
    · exact ⟨.full, rfl, by rintro ⟨⟩⟩
    · exact ⟨.ended, rfl, fun _ => rfl⟩
  | case2 b arrival rest hf =>
    rw [List.cons_append, fill.eq_def]
    simp only [hf, if_true]
    exact ⟨.full, rfl, by rintro ⟨⟩⟩
  | case3 b rest hf =>
    rw [List.cons_append, fill, if_neg hf]
    exact ⟨.drained, rfl, by rintro ⟨⟩⟩
  | case4 b rest hf ih =>
    rw [List.cons_append, fill, if_neg hf]
    exact ih (List.forall_mem_cons.mp h).2
  | case5 b rest hf e hwait hagain =>
    have he := (List.forall_mem_cons.mp h).1
    cases e <;> simp_all [Arrival.isSteady]
  | case6 b rest hf => cases (List.forall_mem_cons.mp h).1
  | case7 b rest hf o os data hd ih =>
    rw [List.cons_append, fill, if_neg hf]
    simp only [data] at hd
    simp only [hd, if_true]
    exact ih (List.forall_mem_cons.mp h).2
  | case8 b rest hf o os data hd =>
    rw [List.cons_append, fill, if_neg hf]
    simp only [data] at hd
    simp only [hd, if_false]
    exact ⟨.full, rfl, by rintro ⟨⟩⟩

/-! ## Events -/

/-- A dialogue whose client may have finished. -/
structure Parting where
  dialogue : Dialogue := {}
  /-- The client sends nothing more. -/
  finished : Bool := false
  deriving Repr

namespace Parting

/-- What happens in a parting. -/
inductive Event
  /-- The client finishes. -/
  | finish
  /-- Something happens in the dialogue. -/
  | meet (event : Dialogue.Event)
  deriving DecidableEq, Repr

/-- The client goes on receiving and its stream does not fail. -/
def Event.isSteady : Event → Bool
  | finish => true
  | meet event => event.isSteady

/-- The connection has found the stream ended. -/
def found (p : Parting) : Bool := p.dialogue.connection.peerClosed

/-- The attempts to read in a turn: if they give all that waits on the stream and the client has finished, then one
more finds the stream ended. -/
def intakes (p : Parting) (intakes : List Intake) : List Intake :=
  if p.finished && (Intake.offers p.dialogue.unread intakes).2.isEmpty then intakes ++ [.ended] else intakes

/-- What an event comes to in the dialogue. -/
def meets (p : Parting) : Dialogue.Event → Dialogue.Event
  | .send octets => .send (if p.finished then [] else octets)
  | .receive count => .receive count
  | .turn intakes acceptances gathers => .turn (p.intakes intakes) acceptances gathers

/-- What one event does. -/
def step (site : Site) (p : Parting) : Event → Parting
  | .finish => { p with finished := true }
  | .meet event => { p with dialogue := p.dialogue.step site (p.meets event) }

/-- What a list of events does. -/
def after (site : Site) (p : Parting) (events : List Event) : Parting := events.foldl (step site) p

/-- What a list of events does to a new connection. -/
def run (site : Site) (events : List Event) : Parting := after site {} events

theorem run_append (site : Site) (events more : List Event) :
    run site (events ++ more) = (run site events).after site more := List.foldl_append

/-- What the connection reads in a turn: it does not fail, and if the end is found then the client has finished, and
nothing is left of what it has sent. -/
theorem fill_intakes (p : Parting) (b : LineBuffer) {intakes : List Intake} (h : ∀ i ∈ intakes, i.isSteady = true) :
    let offers := Intake.offers p.dialogue.unread (p.intakes intakes)
    ∃ f, (b.fill offers.1).outcome = .ok f ∧
      (f = .ended → p.finished = true ∧ Exchange.unreadOctets (b.fill offers.1).unread ++ offers.2 = []) := by
  have hsteady := Intake.isSteady_offers p.dialogue.unread h
  rw [Parting.intakes]
  split
  · next hend =>
    rw [Bool.and_eq_true, List.isEmpty_iff] at hend
    obtain ⟨hfinished, hrest⟩ := hend
    obtain ⟨f, hf, hnone⟩ := b.fill_snoc_ended hsteady
    simp only [Intake.offers_snoc_ended]
    refine ⟨f, hf, fun he => ⟨hfinished, ?_⟩⟩
    rw [hnone he, hrest]
    rfl
  · obtain ⟨f, hf, hne⟩ := b.outcome_fill_of_steady hsteady
    exact ⟨f, hf, fun he => absurd he hne⟩

end Parting

end StaticServer
