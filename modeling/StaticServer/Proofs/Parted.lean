import StaticServer.Proofs.Answered
import StaticServer.Proofs.Parting
import StaticServer.Proofs.SelfDelimiting

/-!
# What a finished client receives

Until its end is found, a parting is a dialogue in which the client stays, and keeps the invariant of one. The end is
found only by a connection that waits to read, with every octet left of the stream in its buffer. The first request there
is answered, and the connection is not kept behind its response, so this response is the last one: requests behind it are
not answered. `Parting.Leaving` is the invariant from there on.

* `Parting.leaving_process`, `Parting.leaving_flush`: reading on and going on delivering once the end has been found.
* `Parting.present_step`, `Parting.parted_step`: events before and behind the end.
* `Parting.Parted.closes`: once the client takes all that it is sent, the connection is to be closed.
* `Parting.run_parted`: what the client has been sent by then.
-/

namespace StaticServer

/-! ## The last response -/

/-- The response with the connection not kept behind it. -/
def Response.closing (r : Response) : Response := { r with keepAlive := false }

@[simp] theorem Response.keepAlive_closing (r : Response) : r.closing.keepAlive = false := rfl

/-- Once the stream has been found ended, the connection is not kept behind a response. -/
theorem Connection.answer_of_peerClosed {site : Site} {c : Connection} (h : c.peerClosed = true) (r : Request) :
    answer site c r = (site.respond r.path r.keepAlive).closing := by
  simp [answer, h, Response.closing]

/-- The connection with the stream found ended. -/
def Connection.parted (c : Connection) : Connection := { c with peerClosed := true }

namespace Parting

variable {site : Site} {sent written octets unread : Bytes} {c : Connection} {given : List Response}

/-- Where a connection stands that has found its stream ended, given the responses that had been written by then and
all octets that have been written. -/
inductive Leaving (site : Site) (sent : Bytes) (given : List Response) (written : Bytes) : Step × Connection → Prop
  /-- Of the next response, which is the last one, `count` octets have been written. -/
  | responding {c : Connection} {r : Response} {left : List Response} {count : Nat} (hopen : c.isOpen = true)
      (hpeer : c.peerClosed = true) (hd : c.delivery = some ((Delivery.ofResponse r.closing).withWritten count))
      (hle : count ≤ r.closing.octets.length) (hall : (site.answers sent).1 = given ++ r :: left)
      (hout : written = given.flatMap Response.octets ++ r.closing.octets.take count) :
      Leaving site sent given written (.write, c)
  /-- The next response has been written, unless there was none left. -/
  | closed {c : Connection} {left : List Response} (hpeer : c.peerClosed = true)
      (hall : (site.answers sent).1 = given ++ left)
      (hout : written = (given ++ (left.take 1).map Response.closing).flatMap Response.octets) :
      Leaving site sent given written (.close, c)

/-- The next response is on its way. -/
theorem leaving_of_response {r : Response} {left : List Response} (hopen : c.isOpen = true)
    (hpeer : c.peerClosed = true) (hd : c.delivery = some (.ofResponse r.closing))
    (hall : (site.answers sent).1 = given ++ r :: left) (hout : written = given.flatMap Response.octets) :
    Leaving site sent given written (.write, c) := by
  have hd' : c.delivery = some ((Delivery.ofResponse r.closing).withWritten 0) := by
    rw [hd, ← Delivery.ofResponse_eq_withWritten]
  refine .responding hopen hpeer hd' (Nat.zero_le _) hall ?_
  rw [hout, List.take_zero, List.append_nil]

/-- The first request that is left when the end is found is answered, if it is complete or known to be wrong. -/
theorem leaving_process (hc : c.Holds octets) (hall : site.Answered sent given octets)
    (hout : written = given.flatMap Response.octets) : Leaving site sent given written (c.parted.process site) := by
  have hm : RequestReader.Advance.Matches (c.parted.reader.advance c.parted.buffer) (Request.reading octets) :=
    hc.advance
  -- nothing waits on the stream any more
  rw [← List.append_nil octets] at hall
  cases ho : (Request.reading octets).outcome with
  | error e =>
    have hanswers := congrArg Prod.fst (hall.refuse ho).answers
    rw [Connection.process_of_error (hm.outcome.trans ho)]
    exact leaving_of_response hc.isOpen rfl rfl hanswers hout
  | ok o =>
    cases o with
    | none =>
      have hanswers : (site.answers sent).1 = given ++ [] := by
        rw [hall.answers, List.append_nil, site.answers_of_waiting ho]
      rw [Connection.process_of_waiting (hm.outcome.trans ho)]
      refine .closed rfl hanswers ?_
      rw [hout, List.take_nil, List.map_nil, List.append_nil]
    | some r =>
      rw [Connection.process_of_request (hm.outcome.trans ho), Connection.answer_of_peerClosed rfl]
      obtain ⟨left, hleft⟩ := hall.exists_next hc.fits ho
      exact leaving_of_response hc.isOpen rfl rfl hleft hout

/-- Going on delivering once the end has been found. -/
theorem leaving_flush (h : Leaving site sent given written (.write, c)) {wire : Wire}
    (hsteady : ∀ a ∈ wire.sink.acceptances, a.isSteady = true) (hnew : wire.sink.received = []) :
    Leaving site sent given (written ++ (c.flush site wire).2.2.sink.received)
      ((c.flush site wire).1, (c.flush site wire).2.1) := by
  cases h with
  | @responding _ r left count hopen hpeer hd hle hall hout =>
    obtain ⟨total, htotal, harrivals, hreceived, hflushed⟩ :=
      @Connection.flushed_flush site c hopen r.closing count hd hle wire hnew
    have hwritten : written ++ (c.flush site wire).2.2.sink.received =
        given.flatMap Response.octets ++ r.closing.octets.take total := by
      rw [hout, List.append_assoc, hreceived]
    generalize ((c.flush site wire).1, (c.flush site wire).2.1) = result at hflushed ⊢
    cases hflushed with
    | waits => exact .responding hopen hpeer rfl htotal hall hwritten
    | fails he => exact absurd he (Delivery.deliver_of_steady (Delivery.written_le_of_response hle) hsteady _)
    | last ht hk =>
      refine .closed hpeer hall ?_
      rw [hwritten, ht, List.take_length, List.take_succ_cons, List.take_zero, List.map_singleton,
        Response.flatMap_octets_snoc]
    -- no connection is kept behind this response
    | rests ht hk hu => cases hk
    | next ht hk => cases hk

/-! ## Events before the end is found -/

/-- A parting in which the end has not been found: a dialogue in which the client stays. -/
structure Present (site : Site) (p : Parting) : Prop where
  found : p.found = false
  stands : Dialogue.Stands site p.dialogue

/-- A parting in which the end was found when these responses had been written. -/
structure Parted (site : Site) (given : List Response) (p : Parting) : Prop where
  finished : p.finished = true
  leaving : Leaving site p.dialogue.sent given p.dialogue.written (p.dialogue.awaits, p.dialogue.connection)

variable {p : Parting} {intakes : List Intake} {acceptances : List Acceptance}

theorem present_new (site : Site) : Present site {} := ⟨rfl, Dialogue.stands_new site⟩

section Reading

variable (h : Present site p) (ha : p.dialogue.awaits = .read)
include h ha

/-- A connection that waits to read has a stream and no response on its way. -/
theorem Present.reading : p.dialogue.connection.isOpen = true ∧ p.dialogue.connection.delivery = none := by
  have hstands := h.stands
  rw [Dialogue.Stands, ha] at hstands
  cases hstands with
  | reading hc => exact ⟨hc.isOpen, hc.delivery⟩

/-- A turn that reads and does not find the end. -/
theorem present_of_fill {f : Fill}
    (hf : (p.dialogue.connection.buffer.fill (Intake.offers p.dialogue.unread intakes).1).outcome = .ok f)
    (hne : f ≠ .ended) (acceptances : List Acceptance) (gathers : Bool) :
    Present site { p with dialogue := p.dialogue.turn site .readable intakes acceptances gathers } := by
  have hoffer := Intake.unreadOctets_offers p.dialogue.unread intakes
  have hstands := h.stands
  rw [Dialogue.Stands, ha] at hstands
  obtain ⟨hopen, hdelivery⟩ := h.reading ha
  constructor
  · simp only [found, Dialogue.turn]
    rw [Connection.onReady_of_fill hopen hdelivery _ hf hne]
    exact (Connection.kept_process site _).2.trans h.found
  · rw [Dialogue.Stands, Dialogue.written_turn]
    exact Dialogue.standing_of_fill hoffer.symm rfl hstands hf hne

/-- A turn that finds the end, with everything read that has been sent. -/
theorem parted_of_ended (hfinished : p.finished = true)
    (hf : (p.dialogue.connection.buffer.fill (Intake.offers p.dialogue.unread intakes).1).outcome = .ok .ended)
    (hnone : Exchange.unreadOctets
        (p.dialogue.connection.buffer.fill (Intake.offers p.dialogue.unread intakes).1).unread ++
      (Intake.offers p.dialogue.unread intakes).2 = []) (acceptances : List Acceptance) (gathers : Bool) :
    ∃ given, p.dialogue.written = given.flatMap Response.octets ∧
      Parted site given { p with dialogue := p.dialogue.turn site .readable intakes acceptances gathers } := by
  have hoffer := Intake.unreadOctets_offers p.dialogue.unread intakes
  have hstands := h.stands
  rw [Dialogue.Stands, ha] at hstands
  cases hstands with
  | @reading _ octets given hc hall hout =>
    obtain ⟨taken, htaken, hholds⟩ := hc.filled (Intake.offers p.dialogue.unread intakes).1
    -- all that was left to read has been read in this turn, so it is in the buffer
    have hunread : p.dialogue.unread = taken := by
      rw [← hoffer, htaken, List.append_assoc, hnone, List.append_nil]
    rw [hunread] at hall
    refine ⟨given, hout, hfinished, ?_⟩
    have hleaving := leaving_process hholds hall hout
    rw [Dialogue.written_turn]
    simp only [Dialogue.turn]
    rw [Connection.onReady_of_ended hc.isOpen hc.delivery _ hf]
    simp only [Dialogue.wire, List.append_nil]
    exact hleaving

end Reading

/-- An event before the end is found does not find it, or it is a turn of a connection that waits to read. -/
theorem present_step (h : Present site p) {event : Event} (he : event.isSteady = true) :
    Present site (p.step site event) ∨
      p.dialogue.awaits = .read ∧
        ∃ given, p.dialogue.written = given.flatMap Response.octets ∧ Parted site given (p.step site event) := by
  cases event with
  | finish => exact Or.inl ⟨h.found, h.stands⟩
  | meet event =>
    cases event with
    | send octets => exact Or.inl ⟨h.found, Dialogue.stands_step h.stands rfl⟩
    | receive count => exact Or.inl ⟨h.found, Dialogue.stands_step h.stands rfl⟩
    | turn intakes acceptances gathers =>
      simp only [Event.isSteady, Dialogue.Event.isSteady, Bool.and_eq_true, List.all_eq_true] at he
      obtain ⟨hin, hto⟩ := he
      simp only [step, meets, Dialogue.step]
      cases ha : p.dialogue.awaits with
      | read =>
        obtain ⟨f, hf, hend⟩ := p.fill_intakes p.dialogue.connection.buffer hin
        by_cases hended : f = .ended
        · obtain ⟨hfinished, hnone⟩ := hend hended
          rw [hended] at hf
          exact Or.inr ⟨rfl, parted_of_ended h ha hfinished hf hnone acceptances gathers⟩
        · exact Or.inl (present_of_fill h ha hf hended acceptances gathers)
      | write =>
        have hstands := h.stands
        rw [Dialogue.Stands, ha] at hstands
        have hopen : p.dialogue.connection.isOpen = true := by
          cases hstands with
          | responding hopen => exact hopen
        refine Or.inl ⟨?_, ?_⟩
        · simp only [found, Dialogue.turn]
          rw [Connection.onReady_writable hopen]
          exact (Connection.kept_flush site _ _).2.trans h.found
        · rw [Dialogue.Stands, Dialogue.written_turn]
          exact Dialogue.standing_writable (Intake.unreadOctets_offers _ _).symm rfl hstands hto
      | close => exact Or.inl h

/-! ## Events once the end has been found -/

/-- No event adds to what has been sent, and turns go on delivering the last response. -/
theorem parted_step (h : Parted site given p) {event : Event} (he : event.isSteady = true) :
    Parted site given (p.step site event) := by
  obtain ⟨hfinished, hleaving⟩ := h
  cases event with
  | finish => exact ⟨rfl, hleaving⟩
  | meet event =>
    refine ⟨hfinished, ?_⟩
    cases event with
    | send octets =>
      simp only [step, meets, hfinished, if_true, Dialogue.step, List.append_nil]
      exact hleaving
    | receive count =>
      simp only [step, meets, Dialogue.written_receive]
      exact hleaving
    | turn intakes acceptances gathers =>
      simp only [Event.isSteady, Dialogue.Event.isSteady, Bool.and_eq_true, List.all_eq_true] at he
      obtain ⟨hin, hto⟩ := he
      simp only [step, meets, Dialogue.step]
      cases ha : p.dialogue.awaits with
      | read =>
        rw [ha] at hleaving
        cases hleaving
      | write =>
        rw [ha] at hleaving
        have hopen : p.dialogue.connection.isOpen = true := by
          cases hleaving with
          | responding hopen => exact hopen
        rw [Dialogue.written_turn]
        simp only [Dialogue.turn]
        rw [Connection.onReady_writable hopen]
        exact leaving_flush hleaving hto rfl
      | close =>
        rw [ha] at hleaving
        simp only [ha]
        exact hleaving

theorem parted_after (h : Parted site given p) {events : List Event} (he : ∀ e ∈ events, e.isSteady = true) :
    Parted site given (p.after site events) := by
  induction events generalizing p with
  | nil => exact h
  | cons e events ih =>
    obtain ⟨hhead, htail⟩ := List.forall_mem_cons.mp he
    exact ih (parted_step h hhead) htail

/-! ## What the client receives -/

theorem Leaving.peerClosed {result : Step × Connection} (h : Leaving site sent given written result) :
    result.2.peerClosed = true := by
  cases h with
  | responding hopen hpeer => exact hpeer
  | closed hpeer => exact hpeer

theorem Parted.found (h : Parted site given p) : p.found = true := h.leaving.peerClosed

/-- A connection that is to be closed once the end has been found has written one more response, if there was one. -/
theorem Parted.written_of_close (h : Parted site given p) (hclose : p.dialogue.awaits = .close) :
    ∃ left, (site.answers p.dialogue.sent).1 = given ++ left ∧
      p.dialogue.written = (given ++ (left.take 1).map Response.closing).flatMap Response.octets := by
  have hleaving := h.leaving
  rw [hclose] at hleaving
  cases hleaving with
  | closed hpeer hall hout => exact ⟨_, hall, hout⟩

/-- Once the end has been found, a turn in which the client takes all that it is sent is the last one. -/
theorem Parted.closes (h : Parted site given p) (intakes : List Intake) {acceptances : List Acceptance}
    (hall : ∀ a ∈ acceptances, a.ending? = none) (gathers : Bool) :
    (p.step site (.meet (.turn intakes acceptances gathers))).dialogue.awaits = .close := by
  have hleaving := h.leaving
  simp only [step, meets, Dialogue.step]
  cases ha : p.dialogue.awaits with
  | read =>
    rw [ha] at hleaving
    cases hleaving
  | close => exact ha
  | write =>
    rw [ha] at hleaving
    cases hleaving with
    | @responding _ r left count hopen hpeer hd hle hall' hout =>
      have hdone : (((Delivery.ofResponse r.closing).withWritten count).deliver
          (p.dialogue.wire (p.intakes intakes) acceptances gathers).sink).result = .ok .done :=
        Delivery.deliver_of_taking (Delivery.written_le_of_response hle) hall
      simp only [Dialogue.turn]
      rw [Connection.onReady_writable hopen]
      simp only [Connection.flush, hd, hopen, hdone]
      simp

/-- Of these events, the one behind `before` finds the end, and these responses have been written before it. -/
structure FindsBehind (site : Site) (p : Parting) (events before : List Event) (given : List Response) : Prop where
  event : ∃ e behind, events = before ++ e :: behind ∧ (p.after site (before ++ [e])).found = true
  found : (p.after site before).found = false
  awaits : (p.after site before).dialogue.awaits = .read
  written : (p.after site before).dialogue.written = given.flatMap Response.octets

theorem FindsBehind.cons {e : Event} {events before : List Event}
    (h : FindsBehind site (p.step site e) events before given) : FindsBehind site p (e :: events) (e :: before) given where
  event := by
    obtain ⟨e', behind, hevents, hfound⟩ := h.event
    exact ⟨e', behind, congrArg (e :: ·) hevents, hfound⟩
  found := h.found
  awaits := h.awaits
  written := h.written

/-- Behind every list of events in which the client's stream does not fail, the end has been found or it has not. -/
theorem present_or_parted_after (h : Present site p) {events : List Event} (he : ∀ e ∈ events, e.isSteady = true) :
    Present site (p.after site events) ∨
      ∃ before given, FindsBehind site p events before given ∧ Parted site given (p.after site events) := by
  induction events generalizing p with
  | nil => exact Or.inl h
  | cons e events ih =>
    obtain ⟨hhead, htail⟩ := List.forall_mem_cons.mp he
    rcases present_step h hhead with hpresent | ⟨hawaits, given, hout, hparted⟩
    · rcases ih hpresent htail with hpresent | ⟨before, given, hfinds, hparted⟩
      · exact Or.inl hpresent
      · exact Or.inr ⟨e :: before, given, hfinds.cons, hparted⟩
    · exact Or.inr ⟨[], given, ⟨⟨e, events, rfl, hparted.found⟩, h.found, hawaits, hout⟩, parted_after hparted htail⟩

/-- However streams are cut and clients receive: a client that stays has been sent the answers to its stream once nothing
is left to be done. A client that finishes, at any time, and whose end has not been found when the connection is to be
closed has been sent the same. If the end has been found, by a connection that waits to read, the client has been sent
the answers that had been written by then, and of those left the first one, with the connection not kept behind it. -/
theorem run_parted (site : Site) {events : List Event} (h : ∀ e ∈ events, e.isSteady = true)
    (hclose : (run site events).dialogue.awaits = .close) :
    let p := run site events
    let answers := site.answers p.dialogue.sent
    (∀ staying : List Dialogue.Event, (∀ e ∈ staying, e.isSteady = true) →
        (Dialogue.run site staying).sent = p.dialogue.sent → (Dialogue.run site staying).IsAtRest →
        (Dialogue.run site staying).written = answers.1.flatMap Response.octets) ∧
      (p.found = false → p.dialogue.written = answers.1.flatMap Response.octets ∧ answers.2 = .closed) ∧
      (p.found = true → ∃ before given left, FindsBehind site {} events before given ∧ answers.1 = given ++ left ∧
        p.dialogue.written = (given ++ (left.take 1).map Response.closing).flatMap Response.octets) := by
  intro p answers
  refine ⟨?_, ?_⟩
  · intro staying hstaying hsent hrest
    have hstands : Dialogue.Stands site (Dialogue.run site staying) := Dialogue.stands_run hstaying
    show (Dialogue.run site staying).written = (site.answers (run site events).dialogue.sent).1.flatMap Response.octets
    rw [← hsent]
    exact hstands.written_of_isAtRest hrest
  rcases present_or_parted_after (present_new site) h with hpresent | ⟨before, given, hfinds, hparted⟩
  · refine ⟨fun _ => ?_, fun hfound => absurd (hfound.symm.trans hpresent.found) nofun⟩
    have hstands : Dialogue.Standing site p.dialogue.sent p.dialogue.unread p.dialogue.written
      (p.dialogue.awaits, p.dialogue.connection) := hpresent.stands
    rw [hclose] at hstands
    exact Dialogue.written_of_standing_close hstands
  · refine ⟨fun hfound => absurd (hfound.symm.trans hparted.found) nofun, fun _ => ?_⟩
    obtain ⟨left, hall, hout⟩ := hparted.written_of_close hclose
    exact ⟨before, given, left, hfinds, hall, hout⟩

/-! ## Two requests at once -/

open Dialogue (shelf asking served answers_asking)

/-- The client sends the request twice and finishes, and the connection reads. -/
def arriving : List Event := [.meet (.send (asking ++ asking)), .finish, .meet (.turn [.upTo 1000] [] true)]

/-- The connection writes. -/
def leaving : List Event := [.meet (.turn [] [] true)]

/-- The end is found along with the requests. -/
theorem parted_arriving : Parted shelf [] (run shelf arriving) := by
  have hpresent : Present shelf (run shelf (arriving.take 2)) :=
    ⟨rfl, Dialogue.stands_step (Dialogue.stands_new shelf) rfl⟩
  have hsteady : (Event.meet (.turn [.upTo 1000] [] true)).isSteady = true := rfl
  have hfound : (run shelf arriving).found = true := by decide +kernel
  rcases present_step hpresent hsteady with h | ⟨_, given, hout, h⟩
  · exact absurd (hfound.symm.trans h.found) nofun
  · -- nothing had been written yet, and every response has octets
    have hgiven : given = [] := by
      cases given with
      | nil => rfl
      | cons r given => exact absurd (List.append_eq_nil_iff.mp hout.symm).1 r.octets_ne_nil
    rw [hgiven] at h
    exact h

theorem parted_leaving : Parted shelf [] (run shelf (arriving ++ leaving)) := by
  have hsteady : ∀ e ∈ leaving, e.isSteady = true := by decide
  rw [run_append]
  exact parted_after parted_arriving hsteady

/-- One turn to write is enough. -/
theorem closes_leaving : (run shelf (arriving ++ leaving)).dialogue.awaits = .close := by
  rw [run_append]
  exact parted_arriving.closes [] (List.forall_mem_nil _) true

theorem sent_leaving : (run shelf (arriving ++ leaving)).dialogue.sent = asking ++ asking := by decide +kernel

/-- What a client that asks twice and finishes has been sent. -/
theorem run_parted_asking :
    (∀ e ∈ arriving ++ leaving, e.isSteady = true) ∧ (run shelf (arriving ++ leaving)).dialogue.awaits = .close ∧
      ∃ before given left, FindsBehind shelf {} (arriving ++ leaving) before given ∧ [served, served] = given ++ left ∧
        (run shelf (arriving ++ leaving)).dialogue.written =
          (given ++ (left.take 1).map Response.closing).flatMap Response.octets := by
  have h : ∀ e ∈ arriving ++ leaving, e.isSteady = true := by decide
  have hall := (run_parted shelf h closes_leaving).2.2 parted_leaving.found
  rw [sent_leaving, answers_asking] at hall
  exact ⟨h, closes_leaving, hall⟩

/-- A client that asks twice and finishes is answered once, and would be answered twice if it stayed. -/
theorem answered_once :
    (∀ e ∈ arriving ++ leaving, e.isSteady = true) ∧ (run shelf (arriving ++ leaving)).finished = true ∧
      (run shelf (arriving ++ leaving)).dialogue.awaits = .close ∧
      (ReceivedResponse.sequence (run shelf (arriving ++ leaving)).dialogue.written).1.map
          (fun r => (r.code, r.body)) = [(200, [120])] ∧
      (shelf.answers (run shelf (arriving ++ leaving)).dialogue.sent).1.map
          (fun r => (r.toReceived.code, r.toReceived.body)) = [(200, [120]), (200, [120])] := by
  have h : ∀ e ∈ arriving ++ leaving, e.isSteady = true := by decide
  refine ⟨h, parted_leaving.finished, closes_leaving, ?_, ?_⟩
  · obtain ⟨left, hall, hout⟩ := parted_leaving.written_of_close closes_leaving
    rw [sent_leaving, answers_asking, List.nil_append] at hall
    have hmade : served.closing.IsMade := .file (.stored [120]) "/a" false
    have hread := ReceivedResponse.sequence_flatMap_octets (List.forall_mem_singleton.mpr hmade.hasVisibleType)
    rw [hout, ← hall, List.nil_append, List.take_succ_cons, List.take_zero, List.map_singleton, hread]
    rfl
  · rw [sent_leaving, answers_asking]
    rfl

end Parting

end StaticServer
