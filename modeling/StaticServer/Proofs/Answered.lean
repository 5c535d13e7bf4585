import StaticServer.Proofs.Dialogue
import StaticServer.Proofs.Streams

/-!
# Dialogues are answered

Whatever way octets take to a connection and back, a client that stays receives the answers to the stream it has sent,
in order, and it receives all of them: `Site.answers` says what the answers are.

The invariant of a dialogue is `Dialogue.Standing`. The connection waits for the rest of a request of which it has
read some octets, which are in its buffer; or a response is on its way, and the octets behind its request are in the
buffer; or the connection is to be closed. What has been written are the octets of the responses so far, and what is
left to answer are the octets in the buffer, and behind them those that wait on the stream.

* `Connection.Waits.filled`: what is read is behind what has been read.
* `Dialogue.standing_process`, `Dialogue.standing_flush`: reading on and going on delivering keep the invariant.
* `Dialogue.standing_step`, `Dialogue.standing_run`: so do all events, and all lists of events.
* `Dialogue.run_answered`: the client receives the answers to what it has sent.
-/

namespace StaticServer

namespace Connection

variable {c : Connection} {octets : Bytes}

/-! ## Connections that read -/

/-- A connection that waits for the rest of a request of which it has read these octets. -/
structure Waits (c : Connection) (octets : Bytes) : Prop where
  isOpen : c.isOpen = true
  peerClosed : c.peerClosed = false
  delivery : c.delivery = none
  fits : octets.length ≤ Request.maxSize
  outcome : (Request.reading octets).outcome = .ok none
  reader : c.reader = (Request.reading octets).reader
  buffer : LineBuffer.Alike c.buffer (Request.reading octets).buffer

/-- A connection that has these octets of a request and is about to read on. -/
structure Holds (c : Connection) (octets : Bytes) : Prop where
  isOpen : c.isOpen = true
  peerClosed : c.peerClosed = false
  delivery : c.delivery = none
  fits : octets.length ≤ Request.maxSize
  ordered : c.buffer.Ordered
  capacity : c.buffer.capacity = Request.maxSize
  advance : RequestReader.Advance.Matches (c.reader.advance c.buffer) (Request.reading octets)

theorem waits_new : ({} : Connection).Waits [] where
  isOpen := rfl
  peerClosed := rfl
  delivery := rfl
  fits := Nat.zero_le _
  outcome := by rw [Request.reading_nil]
  reader := by rw [Request.reading_nil]
  buffer := by
    rw [Request.reading_nil]
    exact .refl _

theorem Waits.ordered (h : c.Waits octets) : c.buffer.Ordered := h.buffer.symm.ordered (Request.ordered_reading octets)

/-- What is left of the buffer is room for the rest of the request. -/
theorem Waits.room (h : c.Waits octets) : c.buffer.room = Request.maxSize - octets.length := by
  have hl := (Request.ordered_reading octets).length_received
  rw [Request.received_reading h.fits] at hl
  rw [h.buffer.room, LineBuffer.room, Request.capacity_reading, hl]

/-- A connection that waits reads from the front of its stream, and what it has read is behind what it had read. -/
theorem Waits.filled (h : c.Waits octets) (arrivals : List Arrival) :
    ∃ taken, Exchange.unreadOctets arrivals = taken ++ Exchange.unreadOctets (c.buffer.fill arrivals).unread ∧
      (c.filled arrivals).Holds (octets ++ taken) := by
  obtain ⟨taken, hroom, hbuffer, hunread⟩ := LineBuffer.fill_eq_receive h.ordered arrivals
  refine ⟨taken, hunread, h.isOpen, h.peerClosed, h.delivery, ?_, ?_, ?_, ?_⟩
  · have := h.fits
    rw [h.room] at hroom
    rw [List.length_append]
    omega
  · show (c.buffer.fill arrivals).buffer.Ordered
    rw [hbuffer]
    exact h.ordered.receive taken
  · show (c.buffer.fill arrivals).buffer.capacity = Request.maxSize
    rw [hbuffer, LineBuffer.capacity_receive h.ordered, h.buffer.capacity, Request.capacity_reading]
  · have halike := RequestReader.advance_alike c.reader (h.ordered.receive taken) (h.buffer.receive h.ordered taken)
    rw [h.reader] at halike
    show RequestReader.Advance.Matches (c.reader.advance (c.buffer.fill arrivals).buffer) _
    rw [hbuffer, h.reader]
    exact halike.trans (Request.reading_append_of_waiting h.outcome taken).symm

/-- A connection that goes on to the next request has the octets behind the last one. -/
theorem holds_renew (hopen : c.isOpen = true) (hpeer : c.peerClosed = false) (hb : c.buffer.Ordered)
    (hcapacity : c.buffer.capacity = Request.maxSize) : c.renew.Holds c.buffer.ahead := by
  have halike := LineBuffer.alike_compact hb
  rw [hcapacity] at halike
  have ho := LineBuffer.ordered_ofCapacity Request.maxSize
  have hordered := halike.symm.ordered (ho.receive _)
  refine ⟨hopen, hpeer, rfl, ?_, hordered, ?_, RequestReader.advance_alike .requestLine hordered halike⟩
  · have := hb.filled_le
    rw [hb.length_ahead, LineBuffer.unscanned]
    omega
  · show c.buffer.compact.capacity = Request.maxSize
    rw [halike.capacity, LineBuffer.capacity_receive ho, LineBuffer.capacity_ofCapacity]

/-- A connection that goes on to the next request and has nothing of it waits. -/
theorem waits_renew (hopen : c.isOpen = true) (hpeer : c.peerClosed = false) (hb : c.buffer.Ordered)
    (hcapacity : c.buffer.capacity = Request.maxSize) (hahead : c.buffer.ahead = []) : c.renew.Waits [] where
  isOpen := hopen
  peerClosed := hpeer
  delivery := rfl
  fits := Nat.zero_le _
  outcome := by rw [Request.reading_nil]
  reader := by rw [Request.reading_nil]; rfl
  buffer := by
    have halike := LineBuffer.alike_compact hb
    rw [hcapacity, hahead, LineBuffer.receive_nil] at halike
    rw [Request.reading_nil]
    exact halike

end Connection

namespace Dialogue

variable {site : Site} {sent unread written octets behind : Bytes} {c : Connection} {responses : List Response}

/-! ## The invariant -/

/-- Where a connection stands in the answers to what its client has sent, given the octets that wait on the stream and
those that have been written. -/
inductive Standing (site : Site) (sent unread written : Bytes) : Step × Connection → Prop
  /-- Everything up to the request of which `octets` have been read has been answered. -/
  | reading {c : Connection} {octets : Bytes} {responses : List Response} (hc : c.Waits octets)
      (hall : site.Answered sent responses (octets ++ unread)) (hout : written = responses.flatMap Response.octets) :
      Standing site sent unread written (.read, c)
  /-- Of the response to the last request read, `count` octets have been written. -/
  | responding {c : Connection} {r : Response} {count : Nat} {responses : List Response} (hopen : c.isOpen = true)
      (hpeer : c.peerClosed = false) (hb : c.buffer.Ordered) (hcapacity : c.buffer.capacity = Request.maxSize)
      (hd : c.delivery = some ((Delivery.ofResponse r).withWritten count)) (hle : count ≤ r.octets.length)
      (hkept : r.keepAlive = true → site.Answered sent (responses ++ [r]) (c.buffer.ahead ++ unread))
      (hclosed : r.keepAlive = false → site.Concluded sent (responses ++ [r]))
      (hout : written = responses.flatMap Response.octets ++ r.octets.take count) :
      Standing site sent unread written (.write, c)
  /-- Everything has been answered that will be. -/
  | closed {c : Connection} {responses : List Response} (hall : site.Concluded sent responses)
      (hout : written = responses.flatMap Response.octets) : Standing site sent unread written (.close, c)

/-- A response that nothing has been written of is on its way. -/
theorem standing_of_response (hopen : c.isOpen = true) (hpeer : c.peerClosed = false) (hb : c.buffer.Ordered)
    (hcapacity : c.buffer.capacity = Request.maxSize) {r : Response} (hd : c.delivery = some (.ofResponse r))
    (hkept : r.keepAlive = true → site.Answered sent (responses ++ [r]) (c.buffer.ahead ++ unread))
    (hclosed : r.keepAlive = false → site.Concluded sent (responses ++ [r]))
    (hout : written = responses.flatMap Response.octets) : Standing site sent unread written (.write, c) := by
  have hd' : c.delivery = some ((Delivery.ofResponse r).withWritten 0) := by
    rw [hd, ← Delivery.ofResponse_eq_withWritten]
  refine .responding hopen hpeer hb hcapacity hd' (Nat.zero_le _) hkept hclosed ?_
  rw [hout, List.take_zero, List.append_nil]

/-- Reading on in what a connection has keeps the invariant. -/
theorem standing_process (hc : c.Holds octets) (hall : site.Answered sent responses (octets ++ unread))
    (hout : written = responses.flatMap Response.octets) : Standing site sent unread written (c.process site) := by
  have hm := hc.advance
  have hkeeps := RequestReader.keeps_advance c.reader hc.ordered
  have hcapacity := hkeeps.capacity.trans hc.capacity
  cases ho : (Request.reading octets).outcome with
  | error e =>
    rw [Connection.process_of_error (hm.outcome.trans ho)]
    exact standing_of_response hc.isOpen hc.peerClosed hkeeps.ordered hcapacity rfl (fun hk => by cases hk)
      (fun _ => hall.refuse ho) hout
  | ok o =>
    have halike := hm.buffer ⟨o, hm.outcome.trans ho⟩
    cases o with
    | none =>
      rw [Connection.process_of_waiting (hm.outcome.trans ho), hc.peerClosed]
      exact .reading ⟨hc.isOpen, hc.peerClosed, hc.delivery, hc.fits, ho, hm.reader, halike⟩ hall hout
    | some r =>
      rw [Connection.process_of_request (hm.outcome.trans ho), Connection.answer_of_not_peerClosed hc.peerClosed]
      refine standing_of_response hc.isOpen hc.peerClosed hkeeps.ordered hcapacity rfl ?_ (hall.conclude ho) hout
      intro hk
      show site.Answered sent _ ((c.reader.advance c.buffer).buffer.ahead ++ unread)
      rw [halike.ahead]
      exact hall.snoc hc.fits ho hk

/-! ## Events keep the invariant -/

/-- Going on delivering keeps the invariant. -/
theorem standing_flush (h : Standing site sent unread written (.write, c)) {wire : Wire}
    (hsteady : ∀ a ∈ wire.sink.acceptances, a.isSteady = true) (hnew : wire.sink.received = []) :
    Standing site sent unread (written ++ (c.flush site wire).2.2.sink.received)
        ((c.flush site wire).1, (c.flush site wire).2.1) ∧
      (c.flush site wire).2.2.arrivals = wire.arrivals := by
  cases h with
  | @responding _ r count responses hopen hpeer hb hcapacity hd hle hkept hclosed hout =>
    obtain ⟨total, htotal, harrivals, hreceived, hflushed⟩ :=
      @Connection.flushed_flush site c hopen r count hd hle wire hnew
    have hwritten : written ++ (c.flush site wire).2.2.sink.received =
        responses.flatMap Response.octets ++ r.octets.take total := by
      rw [hout, List.append_assoc, hreceived]
    have hall : total = r.octets.length →
        written ++ (c.flush site wire).2.2.sink.received = (responses ++ [r]).flatMap Response.octets := by
      intro ht
      rw [hwritten, ht, List.take_length, Response.flatMap_octets_snoc]
    refine ⟨?_, harrivals⟩
    generalize ((c.flush site wire).1, (c.flush site wire).2.1) = result at hflushed ⊢
    cases hflushed with
    | waits => exact .responding hopen hpeer hb hcapacity rfl htotal hkept hclosed hwritten
    | fails he => exact absurd he (Delivery.deliver_of_steady (Delivery.written_le_of_response hle) hsteady _)
    | last ht hk => exact .closed (hclosed hk) (hall ht)
    | rests ht hk hu =>
      have hahead : c.buffer.ahead = [] := List.length_eq_zero_iff.mp (hb.length_ahead.trans hu)
      have hrest := hkept hk
      rw [hahead] at hrest
      exact .reading (Connection.waits_renew hopen hpeer hb hcapacity hahead) hrest (hall ht)
    | next ht hk => exact standing_process (Connection.holds_renew hopen hpeer hb hcapacity) (hkept hk) (hall ht)

section Turns

variable {wire : Wire} (hunread : unread = Exchange.unreadOctets wire.arrivals ++ behind)
  (hnew : wire.sink.received = [])
include hunread hnew

/-- A turn that reads, and neither fails nor finds the stream ended, keeps the invariant. -/
theorem standing_of_fill (h : Standing site sent unread written (.read, c)) {f : Fill}
    (hf : (c.buffer.fill wire.arrivals).outcome = .ok f) (hne : f ≠ .ended) :
    Standing site sent (Exchange.unreadOctets (c.onReady site .readable wire).2.2.arrivals ++ behind)
      (written ++ (c.onReady site .readable wire).2.2.sink.received)
      ((c.onReady site .readable wire).1, (c.onReady site .readable wire).2.1) := by
  cases h with
  | @reading _ octets responses hc hall hout =>
    obtain ⟨taken, htaken, hholds⟩ := hc.filled wire.arrivals
    have hall' : site.Answered sent responses
        (octets ++ taken ++ (Exchange.unreadOctets (c.buffer.fill wire.arrivals).unread ++ behind)) := by
      rw [List.append_assoc, ← List.append_assoc taken, ← htaken, ← hunread]
      exact hall
    have hout' : written ++ wire.sink.received = responses.flatMap Response.octets := by
      rw [hnew, List.append_nil]
      exact hout
    rw [Connection.onReady_of_fill hc.isOpen hc.delivery wire hf hne]
    exact standing_process hholds hall' hout'

/-- A turn that reads from a steady stream keeps the invariant. -/
theorem standing_readable (h : Standing site sent unread written (.read, c))
    (hsteady : ∀ a ∈ wire.arrivals, a.isSteady = true) :
    Standing site sent (Exchange.unreadOctets (c.onReady site .readable wire).2.2.arrivals ++ behind)
      (written ++ (c.onReady site .readable wire).2.2.sink.received)
      ((c.onReady site .readable wire).1, (c.onReady site .readable wire).2.1) := by
  obtain ⟨f, hf, hne⟩ := c.buffer.outcome_fill_of_steady hsteady
  exact standing_of_fill hunread hnew h hf hne

/-- A turn that writes keeps the invariant. -/
theorem standing_writable (h : Standing site sent unread written (.write, c))
    (hsteady : ∀ a ∈ wire.sink.acceptances, a.isSteady = true) :
    Standing site sent (Exchange.unreadOctets (c.onReady site .writable wire).2.2.arrivals ++ behind)
      (written ++ (c.onReady site .writable wire).2.2.sink.received)
      ((c.onReady site .writable wire).1, (c.onReady site .writable wire).2.1) := by
  have hopen : c.isOpen = true := by
    cases h with
    | responding hopen => exact hopen
  obtain ⟨hstands, harrivals⟩ := standing_flush h hsteady hnew
  rw [Connection.onReady_writable hopen, harrivals, ← hunread]
  exact hstands

end Turns

/-- The invariant of a dialogue. -/
def Stands (site : Site) (d : Dialogue) : Prop :=
  Standing site d.sent d.unread d.written (d.awaits, d.connection)

/-- A new connection has answered nothing of nothing. -/
theorem stands_new (site : Site) : Stands site {} := .reading Connection.waits_new (site.answered_nil []) rfl

/-- More octets on the stream are behind all that is left to answer. -/
theorem Standing.send {result : Step × Connection} (h : Standing site sent unread written result) (more : Bytes) :
    Standing site (sent ++ more) (unread ++ more) written result := by
  cases h with
  | reading hc hall hout => exact .reading hc (List.append_assoc _ _ more ▸ hall.append more) hout
  | responding hopen hpeer hb hcapacity hd hle hkept hclosed hout =>
    refine .responding hopen hpeer hb hcapacity hd hle ?_ (fun hk => (hclosed hk).append more) hout
    intro hk
    rw [← List.append_assoc]
    exact (hkept hk).append more
  | closed hall hout => exact .closed (hall.append more) hout

/-- Every event in which the client stays and its stream does not fail keeps the invariant. -/
theorem stands_step {d : Dialogue} (h : Stands site d) {event : Event} (he : event.isSteady = true) :
    Stands site (d.step site event) := by
  cases event with
  | send octets => exact Standing.send h octets
  | receive count =>
    rw [Stands, written_receive]
    exact h
  | turn intakes acceptances gathers =>
    simp only [Event.isSteady, Bool.and_eq_true, List.all_eq_true] at he
    obtain ⟨hin, hto⟩ := he
    have hoffer := Intake.unreadOctets_offers d.unread intakes
    rw [Stands] at h
    cases ha : d.awaits with
    | read =>
      rw [ha] at h
      simp only [step, ha]
      rw [Stands, written_turn]
      exact standing_readable hoffer.symm rfl h (Intake.isSteady_offers d.unread hin)
    | write =>
      rw [ha] at h
      simp only [step, ha]
      rw [Stands, written_turn]
      exact standing_writable hoffer.symm rfl h hto
    | close =>
      simp only [step, ha]
      exact h

/-- The invariant holds behind every list of events in which the client stays and its stream does not fail. -/
theorem stands_run {events : List Event} (h : ∀ e ∈ events, e.isSteady = true) : Stands site (run site events) :=
  run_induction (stands_new site) fun _ hd e he => stands_step hd (h e he)

/-! ## What the client receives -/

/-- Everything written is part of the answers. -/
theorem written_prefix_of_standing {result : Step × Connection} (h : Standing site sent unread written result) :
    written <+: (site.answers sent).1.flatMap Response.octets := by
  cases h with
  | reading hc hall hout =>
    rw [hout, hall.answers, List.flatMap_append]
    exact List.prefix_append _ _
  | @responding _ r count responses hopen hpeer hb hcapacity hd hle hkept hclosed hout =>
    have hall : ∃ more, (site.answers sent).1 = responses ++ [r] ++ more := by
      cases hk : r.keepAlive with
      | true => exact ⟨_, congrArg Prod.fst (hkept hk).answers⟩
      | false => exact ⟨[], by rw [(hclosed hk).answers, List.append_nil]⟩
    obtain ⟨more, hmore⟩ := hall
    rw [hmore, List.flatMap_append, hout]
    exact (Response.flatMap_octets_take_prefix responses r count).trans (List.prefix_append _ _)
  | closed hall hout =>
    rw [hall.answers]
    exact hout ▸ List.prefix_refl _

/-- A connection that waits with nothing on the stream has answered everything. -/
theorem written_of_standing_read (h : Standing site sent [] written (.read, c)) :
    written = (site.answers sent).1.flatMap Response.octets ∧ (site.answers sent).2 = .kept := by
  cases h with
  | @reading _ octets responses hc hall hout =>
    have hwaits := site.answers_of_waiting hc.outcome
    rw [List.append_nil] at hall
    rw [hall.answers, hwaits, List.append_nil]
    exact ⟨hout, rfl⟩

/-- A connection that is to be closed has answered everything. -/
theorem written_of_standing_close (h : Standing site sent unread written (.close, c)) :
    written = (site.answers sent).1.flatMap Response.octets ∧ (site.answers sent).2 = .closed := by
  cases h with
  | closed hall hout =>
    rw [hall.answers]
    exact ⟨hout, rfl⟩

/-- Nothing is left to be done before the client sends more. -/
def IsAtRest (d : Dialogue) : Prop := d.awaits = .close ∨ d.awaits = .read ∧ d.unread = []

/-- With nothing left to be done, everything has been answered. -/
theorem Stands.written_of_isAtRest {d : Dialogue} (h : Stands site d) (hrest : d.IsAtRest) :
    d.written = (site.answers d.sent).1.flatMap Response.octets := by
  rw [Stands] at h
  rcases hrest with ha | ⟨ha, hunread⟩
  · rw [ha] at h
    exact (written_of_standing_close h).1
  · rw [ha, hunread] at h
    exact (written_of_standing_read h).1

/-- However a stream is cut, and however its client receives: a client that stays has received the start of the answers
to what it has sent. Once the connection is to be closed, the answers have been written in full and end closed; while it
waits to read and nothing is there to be read, they have been written in full and keep the connection. -/
theorem run_answered (site : Site) (events : List Event) (h : ∀ e ∈ events, e.isSteady = true) :
    let d := run site events
    let answers := (site.answers d.sent).1.flatMap Response.octets
    d.received <+: answers ∧
      (d.awaits = .close → d.received ++ d.inTransit = answers ∧ (site.answers d.sent).2 = .closed) ∧
      (d.awaits = .read → d.unread = [] →
        d.received ++ d.inTransit = answers ∧ (site.answers d.sent).2 = .kept) := by
  intro d answers
  have hstands : Standing site d.sent d.unread d.written (d.awaits, d.connection) := stands_run h
  refine ⟨?_, ?_, ?_⟩
  · exact (List.prefix_append d.received d.inTransit).trans (written_prefix_of_standing hstands)
  · intro ha
    rw [ha] at hstands
    exact written_of_standing_close hstands
  · intro ha hu
    rw [ha, hu] at hstands
    exact written_of_standing_read hstands

/-! ## Two requests -/

/-- A site with one file. -/
def shelf : Site := { fileSystem := { nodes := [([['a']], .file (.stored [120]) 0o644)] }, root := "/" }

/-- A request for the file by a client that asks for the connection to be kept. -/
def asking : Bytes := Bytes.ofText "GET /a HTTP/1.1\r\nConnection: keep-alive\r\n\r\n"

/-- The response to the request. -/
def served : Response := .ofFile (.stored [120]) (MediaType.ofPath "/a") true

theorem respond_shelf : shelf.respond "/a" true = served := by decide +kernel

theorem reading_asking : (Request.reading asking).outcome =
    .ok (some { method := .get, path := "/a", version := "HTTP/1.1", keepAlive := true }) := by
  have h : (Request.reading asking).outcome.toOption =
      some (some { method := .get, path := "/a", version := "HTTP/1.1", keepAlive := true }) := by
    decide +kernel
  cases ho : (Request.reading asking).outcome with
  | error e =>
    rw [ho] at h
    cases h
  | ok o =>
    rw [ho] at h
    cases h
    rfl

/-- Both requests are answered if the client stays. -/
theorem answers_asking : shelf.answers (asking ++ asking) = ([served, served], .kept) := by
  have hfits : asking.length ≤ Request.maxSize := by decide +kernel
  have hahead : (Request.reading asking).buffer.ahead = [] := by decide +kernel
  have hkept : (shelf.respond "/a" true).keepAlive = true := by
    rw [respond_shelf]
    rfl
  have hnext {responses : List Response} {left : Bytes}
      (h : shelf.Answered (asking ++ asking) responses (asking ++ left)) :
      shelf.Answered (asking ++ asking) (responses ++ [served]) left := by
    have hsnoc := h.snoc hfits reading_asking hkept
    rw [hahead, List.nil_append, respond_shelf] at hsnoc
    exact hsnoc
  have hone : shelf.Answered (asking ++ asking) [served] (asking ++ []) := by
    rw [List.append_nil]
    exact hnext (shelf.answered_nil _)
  have hnone : shelf.answers [] = ([], .kept) := shelf.answers_of_waiting (by rw [Request.reading_nil])
  have hall := (hnext hone).answers
  rw [hnone] at hall
  exact hall

/-- The client sends the request twice, cut within either, and receives the responses in pieces. -/
def asksTwice : List Event :=
  [.send (asking.take 20), .turn [.upTo 9, .failure .interrupted, .upTo 1000] [] true,
    .send (asking.drop 20 ++ asking.take 30), .turn [.upTo 25, .upTo 1000] [] true,
    .turn [] [.upTo 7, .failure .wouldBlock] true, .receive 3, .turn [] [.failure .interrupted] false,
    .send (asking.drop 30), .turn [.upTo 1000] [] true, .receive 200, .turn [] [.upTo 100] true, .receive 200]

/-- Both requests are answered, and the connection waits for a third one. -/
theorem run_answered_twice :
    (∀ e ∈ asksTwice, e.isSteady = true) ∧ (run shelf asksTwice).awaits = .read ∧
      (run shelf asksTwice).unread = [] ∧
      (run shelf asksTwice).received = [served, served].flatMap Response.octets := by
  have h : ∀ e ∈ asksTwice, e.isSteady = true := by decide
  obtain ⟨hread, hunread, hend, hsent⟩ :
      (run shelf asksTwice).awaits = .read ∧ (run shelf asksTwice).unread = [] ∧
        (run shelf asksTwice).inTransit = [] ∧ (run shelf asksTwice).sent = asking ++ asking := by decide +kernel
  have hall := ((run_answered shelf asksTwice h).2.2 hread hunread).1
  rw [hend, List.append_nil, hsent, answers_asking] at hall
  exact ⟨h, hread, hunread, hall⟩

end Dialogue

end StaticServer
