import StaticServer.Proofs.Grammar
import StaticServer.Site.Answers

/-!
# Answers along a stream

The answers to a stream are decided from its front: the first request that is complete is answered in the same way
whatever comes behind it, and so is the first thing that is wrong. So the answers to a stream are those to its first
requests, followed by those to what is left.

* `Request.reading_append_of_finished`: what the front of a stream decides stays decided.
* `Site.Answered`, `Site.Concluded`: the responses given so far are the first ones of the stream, or all of them.
* `Site.Answered.snoc`: the next request of a stream and its response.
-/

namespace StaticServer

/-! ## No request is found incomplete -/

namespace Request

theorem ofWords_ne_incomplete (method target version : List Char) :
    ofWords method target version ≠ .error .incomplete := by
  unfold ofWords
  split
  · intro h
    cases h
  · split
    · intro h
      cases h
    · split <;> intro h <;> cases h

theorem ofLine_ne_incomplete (line : Bytes) : ofLine line ≠ .error .incomplete := by
  unfold ofLine
  split
  · exact ofWords_ne_incomplete _ _ _
  · intro h
    cases h

theorem setField_ne_incomplete (r : Request) (field : Field) (value : List Char) :
    r.setField field value ≠ .error .incomplete := by
  unfold setField
  split
  · intro h
    cases h
  · split <;> intro h <;> cases h
  · intro h
    cases h

theorem applyHeader_ne_incomplete (r : Request) (line : Bytes) : r.applyHeader line ≠ .error .incomplete := by
  unfold applyHeader
  split
  · intro h
    cases h
  · split
    · intro h
      cases h
    · exact setField_ne_incomplete _ _ _

end Request

namespace RequestReader

theorem takeLine_ne_incomplete (reader : RequestReader) (line : Bytes) :
    takeLine reader line ≠ .error .incomplete := by
  unfold takeLine
  cases reader with
  | requestLine =>
    cases h : Request.ofLine line with
    | error e =>
      rintro ⟨⟩
      exact Request.ofLine_ne_incomplete line h
    | ok r => rintro ⟨⟩
  | headers r =>
    simp only
    split
    · rintro ⟨⟩
    · cases h : r.applyHeader line with
      | error e =>
        rintro ⟨⟩
        exact Request.applyHeader_ne_incomplete r line h
      | ok r' => rintro ⟨⟩
  | body r => rintro ⟨⟩

/-- A reader that needs more octets waits for them; it never calls a request incomplete. -/
theorem outcome_advance_ne_incomplete (reader : RequestReader) (b : LineBuffer) :
    (advance reader b).outcome ≠ .error .incomplete := by
  induction reader, b using advance.induct with
  | case1 b r =>
    rw [advance_body]
    obtain ⟨_, he⟩ | ⟨_, _, he⟩ | ⟨_, _, he⟩ := advanceBody_cases r b <;> rw [he] <;> rintro ⟨⟩
  | case2 reader b c hs hr =>
    rw [advance_of_malformed hr hs]
    rintro ⟨⟩
  | case3 reader b c hs hr =>
    rw [advance_of_incomplete hr hs]
    simp only
    split <;> rintro ⟨⟩
  | case4 reader b start stop c hs e ht hr =>
    rw [advance_of_refused hr hs ht]
    rintro ⟨⟩
    exact takeLine_ne_incomplete _ _ ht
  | case5 reader b start stop c hs r ht hr =>
    rw [advance_of_request hr hs ht]
    rintro ⟨⟩
  | case6 reader b start stop c hs next ht _ hr ih =>
    rw [advance_of_next hr hs ht]
    exact ih

end RequestReader

/-! ## The front of a stream -/

namespace Request

open RequestReader

/-- What reading the first request of a stream comes to. -/
def reading (octets : Bytes) : Advance := advance .requestLine ((LineBuffer.ofCapacity maxSize).receive octets)

theorem ordered_reading (octets : Bytes) : (reading octets).buffer.Ordered :=
  (keeps_advance _ ((LineBuffer.ordered_ofCapacity _).receive _)).ordered

theorem received_ofCapacity_receive (capacity : Nat) (data : Bytes) :
    ((LineBuffer.ofCapacity capacity).receive data).received = data.take capacity :=
  ahead_ofCapacity_receive capacity data

/-- A reader waits for the first octet. -/
theorem advance_ofCapacity {capacity : Nat} (h : capacity ≠ 0) :
    advance .requestLine (.ofCapacity capacity) =
      { outcome := .ok none, reader := .requestLine, buffer := .ofCapacity capacity } := by
  have hs : (LineBuffer.ofCapacity capacity).scanLine = (.incomplete, .ofCapacity capacity) :=
    LineBuffer.scanLine_of_missing rfl
  have hf : (LineBuffer.ofCapacity capacity).isFull = false := by
    rw [LineBuffer.isFull, LineBuffer.capacity_ofCapacity]
    exact beq_eq_false_iff_ne.mpr h.symm
  rw [advance_of_incomplete (fun _ h => by cases h) hs, hf]
  rfl

theorem capacity_reading (octets : Bytes) : (reading octets).buffer.capacity = maxSize := by
  have ho := LineBuffer.ordered_ofCapacity maxSize
  rw [reading, (keeps_advance _ (ho.receive octets)).capacity, LineBuffer.capacity_receive ho,
    LineBuffer.capacity_ofCapacity]

theorem received_reading {octets : Bytes} (h : octets.length ≤ maxSize) :
    (reading octets).buffer.received = octets := by
  have ho := LineBuffer.ordered_ofCapacity maxSize
  rw [reading, (keeps_advance _ (ho.receive octets)).received, received_ofCapacity_receive, List.take_of_length_le h]

/-- Nothing is wrong with no octets. -/
theorem reading_nil :
    reading [] = { outcome := .ok none, reader := .requestLine, buffer := .ofCapacity maxSize } := by
  rw [reading, LineBuffer.receive_nil]
  exact advance_ofCapacity (Nat.succ_ne_zero _)

theorem reading_append (octets more : Bytes) :
    reading (octets ++ more) =
      advance .requestLine (((LineBuffer.ofCapacity maxSize).receive octets).receive more) := by
  rw [reading, LineBuffer.receive_receive (LineBuffer.ordered_ofCapacity maxSize)]

/-- What the front of a stream decides stays decided, whatever comes behind it. -/
theorem reading_append_of_finished {octets : Bytes} (h : (reading octets).outcome ≠ .ok none) (more : Bytes) :
    reading (octets ++ more) = { reading octets with buffer := (reading octets).buffer.receive more } := by
  rw [reading_append]
  exact advance_receive_of_finished ((LineBuffer.ordered_ofCapacity _).receive _) h more

/-- Reading goes on where it waits. -/
theorem reading_append_of_waiting {octets : Bytes} (h : (reading octets).outcome = .ok none) (more : Bytes) :
    Advance.Matches (reading (octets ++ more))
      (advance (reading octets).reader ((reading octets).buffer.receive more)) := by
  rw [reading_append]
  exact advance_receive_of_waiting ((LineBuffer.ordered_ofCapacity _).receive _) h more

end Request

/-! ## One request of a stream -/

namespace Site

open Request RequestReader

variable {site : Site} {octets : Bytes}

theorem answers_of_none (h : site.answerFirst? octets = none) : site.answers octets = ([], .kept) := by
  have hfirst : site.answering.first? octets = none := h
  unfold answers Answering.answers
  by_cases hempty : octets.isEmpty = true
  · rw [if_pos hempty]
  · rw [if_neg hempty, hfirst]

theorem answers_of_kept {response : Response} {n : Nat} (hne : octets ≠ [])
    (h : site.answerFirst? octets = some (response, n)) (hk : response.keepAlive = true) :
    site.answers octets = (response :: (site.answers (octets.drop n)).1, (site.answers (octets.drop n)).2) := by
  have hfirst : site.answering.first? octets = some (response, n) := h
  rw [answers, Answering.answers, if_neg (by simpa using hne), hfirst]
  simp only [hk, if_true]
  rfl

theorem answers_of_closed {response : Response} {n : Nat} (hne : octets ≠ [])
    (h : site.answerFirst? octets = some (response, n)) (hk : response.keepAlive = false) :
    site.answers octets = ([response], .closed) := by
  have hfirst : site.answering.first? octets = some (response, n) := h
  rw [answers, Answering.answers, if_neg (by simpa using hne), hfirst]
  simp only [hk]
  rfl

theorem ne_waiting_of_request {r : Request} (h : (reading octets).outcome = .ok (some r)) :
    (reading octets).outcome ≠ .ok none := by
  rw [h]
  rintro ⟨⟩

theorem ne_waiting_of_error {e : RequestError} (h : (reading octets).outcome = .error e) :
    (reading octets).outcome ≠ .ok none := by
  rw [h]
  rintro ⟨⟩

theorem ne_nil_of_reading (h : (reading octets).outcome ≠ .ok none) : octets ≠ [] := by
  rintro rfl
  exact h (by rw [reading_nil])

/-- A stream that ends within a request is not answered any further. -/
theorem answers_of_waiting (h : (reading octets).outcome = .ok none) : site.answers octets = ([], .kept) := by
  refine answers_of_none ?_
  have hp : ofBytes octets = .error .incomplete := by
    rw [ofBytes, ← reading, h]
  rw [answerFirst?, hp]

/-- What is wrong is answered, and nothing behind it. -/
theorem answers_of_error {e : RequestError} (h : (reading octets).outcome = .error e) :
    site.answers octets = ([.ofError .badRequest], .closed) := by
  refine answers_of_closed (n := octets.length) (ne_nil_of_reading (ne_waiting_of_error h)) ?_ rfl
  have hp : ofBytes octets = .error e := by
    rw [ofBytes, ← reading, h]
  rw [answerFirst?, hp]
  cases e with
  | incomplete => exact absurd h (RequestReader.outcome_advance_ne_incomplete _ _)
  | _ => rfl

/-- The first request of a stream is answered in the same way whatever comes behind it. -/
theorem answerFirst?_append {r : Request} (h : (reading octets).outcome = .ok (some r)) (more : Bytes) :
    site.answerFirst? (octets ++ more) =
      some (site.respond r.path r.keepAlive, (reading octets).buffer.cursor.scan) := by
  have hread := reading_append_of_finished (ne_waiting_of_request h) more
  have hp : ofBytes (octets ++ more) = .ok (r, (reading octets).buffer.cursor.scan) :=
    ofBytes_eq_ok_iff_advance.mpr ⟨(congrArg Advance.outcome hread).trans h, congrArg (·.buffer.cursor.scan) hread⟩
  rw [answerFirst?, hp]

/-! ## Responses given so far -/

/-- The first responses to a stream, and what of it is left to answer, whatever is sent behind. -/
def Answered (site : Site) (sent : Bytes) (responses : List Response) (left : Bytes) : Prop :=
  ∀ more, site.answers (sent ++ more) =
    (responses ++ (site.answers (left ++ more)).1, (site.answers (left ++ more)).2)

/-- All responses to a stream, whatever is sent behind. -/
def Concluded (site : Site) (sent : Bytes) (responses : List Response) : Prop :=
  ∀ more, site.answers (sent ++ more) = (responses, .closed)

variable {sent left more : Bytes} {responses : List Response}

theorem answered_nil (site : Site) (sent : Bytes) : Answered site sent [] sent := fun _ => rfl

theorem Answered.append (h : Answered site sent responses left) (more : Bytes) :
    Answered site (sent ++ more) responses (left ++ more) := by
  intro behind
  rw [List.append_assoc, List.append_assoc]
  exact h (more ++ behind)

theorem Concluded.append (h : Concluded site sent responses) (more : Bytes) :
    Concluded site (sent ++ more) responses := by
  intro behind
  rw [List.append_assoc]
  exact h (more ++ behind)

theorem Answered.answers (h : Answered site sent responses left) :
    site.answers sent = (responses ++ (site.answers left).1, (site.answers left).2) := by
  simpa using h []

theorem Concluded.answers (h : Concluded site sent responses) : site.answers sent = (responses, .closed) := by
  simpa using h []

/-- The octets behind the first request of a stream. -/
theorem drop_reading (hfit : octets.length ≤ maxSize) (more : Bytes) :
    (octets ++ more).drop (reading octets).buffer.cursor.scan = (reading octets).buffer.ahead ++ more := by
  have ho := ordered_reading octets
  have hlen := ho.length_received
  rw [received_reading hfit] at hlen
  rw [LineBuffer.ahead_eq, received_reading hfit, List.drop_append_of_le_length (hlen ▸ ho.scan_le)]

section Next

variable (h : Answered site sent responses (octets ++ left))
include h

/-- The next request of a stream is answered, and the connection is kept. -/
theorem Answered.snoc (hfit : octets.length ≤ maxSize) {r : Request} (hr : (reading octets).outcome = .ok (some r))
    (hk : (site.respond r.path r.keepAlive).keepAlive = true) :
    Answered site sent (responses ++ [site.respond r.path r.keepAlive]) ((reading octets).buffer.ahead ++ left) := by
  intro more
  have hne : octets ++ (left ++ more) ≠ [] :=
    List.append_ne_nil_of_left_ne_nil (ne_nil_of_reading (ne_waiting_of_request hr)) _
  rw [h more, List.append_assoc, answers_of_kept hne (answerFirst?_append hr _) hk, drop_reading hfit,
    List.append_assoc, List.append_assoc, List.singleton_append]

/-- The next request of a stream is answered, and the connection is not kept. -/
theorem Answered.conclude {r : Request} (hr : (reading octets).outcome = .ok (some r))
    (hk : (site.respond r.path r.keepAlive).keepAlive = false) :
    Concluded site sent (responses ++ [site.respond r.path r.keepAlive]) := by
  intro more
  have hne : octets ++ (left ++ more) ≠ [] :=
    List.append_ne_nil_of_left_ne_nil (ne_nil_of_reading (ne_waiting_of_request hr)) _
  rw [h more, List.append_assoc, answers_of_closed hne (answerFirst?_append hr _) hk]

/-- The response to the next request of a stream is the next one of the answers, whether or not it keeps the connection. -/
theorem Answered.exists_next (hfit : octets.length ≤ maxSize) {r : Request}
    (hr : (reading octets).outcome = .ok (some r)) :
    ∃ behind, (site.answers sent).1 = responses ++ site.respond r.path r.keepAlive :: behind := by
  cases hk : (site.respond r.path r.keepAlive).keepAlive with
  | true =>
    have hanswers := congrArg Prod.fst (h.snoc hfit hr hk).answers
    rw [List.append_assoc, List.singleton_append] at hanswers
    exact ⟨_, hanswers⟩
  | false => exact ⟨[], congrArg Prod.fst (h.conclude hr hk).answers⟩

/-- What is wrong next in a stream is answered, and the connection is not kept. -/
theorem Answered.refuse {e : RequestError} (hr : (reading octets).outcome = .error e) :
    Concluded site sent (responses ++ [.ofError .badRequest]) := by
  intro more
  have hread := reading_append_of_finished (ne_waiting_of_error hr) (left ++ more)
  have hr' : (reading (octets ++ (left ++ more))).outcome = .error e := (congrArg Advance.outcome hread).trans hr
  rw [h more, List.append_assoc, answers_of_error hr']

end Next

end Site

end StaticServer
