import StaticServer.Proofs.Turns

/-!
# Delivering in several calls

A delivery that had to wait, or whose receiving end failed, may be called again. Whatever the receiving end does, a call
goes on at the octet where the call before it stopped: nothing is lost, written twice or out of order.

* `Delivery.Meets`: the acceptances that a call meets, and what the call comes to; `Delivery.meets_deliver`: every call
  comes to what the acceptances it meets say.
* `Delivery.Stands`: the invariant that exactly the octets that count as written have been received, and
  `Delivery.stands_deliver`, `Delivery.stands_afterCalls`: it is kept by a call, and by all calls.
* `Delivery.afterCalls_resumes`: what every call does, whatever calls came before it.
-/

namespace StaticServer

namespace Delivery

variable {d : Delivery} {sink : Sink} {r : Response} {count : Nat}

/-! ## What a call meets -/

/-- The acceptances that a call meets, and what it comes to: it goes on behind all of them but the last, and the last one
ends it unless everything has been written. -/
inductive Meets : List Acceptance → Except TransferError Progress → Prop
  | done : Meets [] (.ok .done)
  | ends {a : Acceptance} {result : Except TransferError Progress} (h : a.ending? = some result) : Meets [a] result
  | goesOn {a : Acceptance} {met : List Acceptance} {result : Except TransferError Progress} (h : a.ending? = none)
      (hmet : Meets met result) : Meets (a :: met) result

/-- An attempt that may take nothing ends the call that meets it. -/
theorem Meets.writeZero {met : List Acceptance} {result : Except TransferError Progress} (h : Meets met result)
    (hz : .upTo 0 ∈ met) : result = .error .writeZero := by
  induction h with
  | done => cases hz
  | ends h =>
    rw [← List.mem_singleton.mp hz] at h
    cases h
    rfl
  | goesOn h hmet ih =>
    rcases List.mem_cons.mp hz with hz | hz
    · rw [← hz] at h
      cases h
    · exact ih hz

/-- A call that only meets acceptances behind which it goes on is done. -/
theorem Meets.done_of_forall {met : List Acceptance} {result : Except TransferError Progress} (h : Meets met result)
    (hall : ∀ a ∈ met, a.ending? = none) : result = .ok .done := by
  induction h with
  | done => rfl
  | ends h =>
    rw [hall _ List.mem_cons_self] at h
    cases h
  | goesOn h hmet ih => exact ih (List.forall_mem_cons.mp hall).2

/-- A failure that is neither a wait nor an interruption ends a call with this failure. -/
theorem ending?_failure {e : TransferError} (hwait : e ≠ .wouldBlock) (hagain : e ≠ .interrupted) :
    (Acceptance.failure e).ending? = some (.error e) := by
  cases e with
  | wouldBlock => exact absurd rfl hwait
  | interrupted => exact absurd rfl hagain
  | _ => rfl

/-- Every call meets the next acceptances of its receiving end, and comes to what they say. -/
theorem meets_deliver (hd : d.written ≤ d.size) (sink : Sink) :
    ∃ met, sink.acceptances = met ++ (d.deliver sink).sink.acceptances ∧ Meets met (d.deliver sink).result := by
  induction d, sink using deliver.induct with
  | case1 d sink hdone =>
    rw [deliver, if_pos hdone]
    exact ⟨[], rfl, .done⟩
  | case2 d sink hdone outcome ha =>
    have hne : d.written ≠ d.size := by simpa [isDone] using hdone
    have hat := attempted_attempt hd sink
    rw [ha] at hat
    rw [deliver_of_stopped hdone ha]
    cases hat with
    | nothing hr hs => exact ⟨[.upTo 0], hs (by omega), .ends rfl⟩
    | waits hr hs => exact ⟨[.failure .wouldBlock], hs, .ends rfl⟩
    | @fails _ e hwait hagain hr hs => exact ⟨[.failure e], hs, .ends (ending?_failure hwait hagain)⟩
  | case3 d sink hdone d' sink' ha _ ih =>
    have hat := attempted_attempt hd sink
    rw [ha] at hat
    rw [deliver_of_attempted hdone ha]
    cases hat with
    | took hpos hle hr hs =>
      obtain ⟨met, hmet, hmeets⟩ := ih hle
      rcases hs with ⟨hs, hs'⟩ | ⟨count, hcount, hs⟩
      · exact ⟨met, hs.trans (hs' ▸ hmet), hmeets⟩
      · refine ⟨.upTo count :: met, ?_, .goesOn (if_neg hcount) hmeets⟩
        rw [hs, hmet, List.cons_append]
    | again hr hs =>
      obtain ⟨met, hmet, hmeets⟩ := ih hd
      refine ⟨.failure .interrupted :: met, ?_, .goesOn rfl hmeets⟩
      rw [hs, hmet, List.cons_append]

/-- A receiving end that takes some each time, however often it is interrupted, is done in one call. -/
theorem deliver_of_taking (hd : d.written ≤ d.size) {sink : Sink} (h : ∀ a ∈ sink.acceptances, a.ending? = none) :
    (d.deliver sink).result = .ok .done := by
  obtain ⟨met, hmet, hmeets⟩ := meets_deliver hd sink
  refine hmeets.done_of_forall fun a ha => h a ?_
  rw [hmet]
  exact List.mem_append_left _ ha

/-! ## What a call leaves -/

/-- Of a response, `count` octets count as written, and exactly these have been received. -/
structure Stands (r : Response) (count : Nat) (d : Delivery) (sink : Sink) : Prop where
  delivery : d = (ofResponse r).withWritten count
  le : count ≤ r.octets.length
  received : sink.received = r.octets.take count

theorem Stands.written (h : Stands r count d sink) : d.written = count := by rw [h.delivery, written_withWritten]

theorem Stands.size (h : Stands r count d sink) : d.size = r.octets.length := by
  rw [h.delivery, size_withWritten, size_ofResponse]

theorem Stands.written_le (h : Stands r count d sink) : d.written ≤ d.size := by
  rw [h.written, h.size]
  exact h.le

/-- Nothing of a response has been written yet. -/
theorem stands_ofResponse (r : Response) (hnew : sink.received = []) : Stands r 0 (ofResponse r) sink :=
  ⟨ofResponse_eq_withWritten r, Nat.zero_le _, hnew⟩

/-- A call keeps the invariant, and is done when all octets of the response have been written. -/
theorem stands_deliver (h : Stands r count d sink) :
    ∃ total, count ≤ total ∧ Stands r total (d.deliver sink).delivery (d.deliver sink).sink ∧
      ((d.deliver sink).result = .ok .done ↔ total = r.octets.length) := by
  obtain ⟨total, hcount, htotal, hdelivery, hreceived, hdone⟩ := deliver_spec h.written_le sink
  rw [h.written] at hcount hreceived
  rw [h.size] at htotal hdone
  refine ⟨total, hcount, ⟨?_, htotal, ?_⟩, hdone⟩
  · rw [hdelivery, h.delivery, withWritten_withWritten]
  · have htake : r.octets.take count = (r.octets.take total).take count := by
      rw [List.take_take, Nat.min_eq_left hcount]
    rw [hreceived, h.delivery, octets_withWritten, octets_ofResponse, h.received, htake, List.take_append_drop]

/-- A delivery and its receiving end behind a number of calls. -/
def afterCalls (d : Delivery) (sink : Sink) : Nat → Delivery × Sink
  | 0 => (d, sink)
  | calls + 1 =>
    let (d, sink) := afterCalls d sink calls
    ((d.deliver sink).delivery, (d.deliver sink).sink)

/-- Any number of calls keeps the invariant. -/
theorem stands_afterCalls (h : Stands r count d sink) (calls : Nat) :
    ∃ total, Stands r total (d.afterCalls sink calls).1 (d.afterCalls sink calls).2 := by
  induction calls with
  | zero => exact ⟨count, h⟩
  | succ calls ih =>
    obtain ⟨total, hstands⟩ := ih
    obtain ⟨total', _, hstands', _⟩ := stands_deliver hstands
    exact ⟨total', hstands'⟩

/-! ## Any number of calls -/

/-- What the next call of a delivery does, for the delivery of a response. -/
structure Resumes (r : Response) (d : Delivery) (sink : Sink) : Prop where
  /-- The octets received are the first ones of the response, as many as count as written. -/
  received : (d.deliver sink).sink.received = r.octets.take (d.deliver sink).delivery.written
  /-- What counts as written are the octets received. -/
  counted : (d.deliver sink).delivery.written = (d.deliver sink).sink.received.length
  onward : d.written ≤ (d.deliver sink).delivery.written
  size : (d.deliver sink).delivery.size = r.octets.length
  done_iff : (d.deliver sink).result = .ok .done ↔ (d.deliver sink).delivery.written = (d.deliver sink).delivery.size
  /-- The call does not touch the receiving end when everything has been written before. -/
  untouched : d.written = d.size → d.deliver sink = { result := .ok .done, delivery := d, sink := sink }
  /-- The call comes to what the acceptances that it uses up say. -/
  meets : ∃ met, sink.acceptances = met ++ (d.deliver sink).sink.acceptances ∧ Meets met (d.deliver sink).result ∧
    (.upTo 0 ∈ met → (d.deliver sink).result = .error .writeZero)

theorem Stands.resumes (h : Stands r count d sink) : Resumes r d sink := by
  obtain ⟨total, hcount, hstands, hdone⟩ := stands_deliver h
  obtain ⟨met, hmet, hmeets⟩ := meets_deliver h.written_le sink
  refine ⟨?_, ?_, ?_, hstands.size, ?_, ?_, met, hmet, hmeets, hmeets.writeZero⟩
  · rw [hstands.written, hstands.received]
  · rw [hstands.written, hstands.received, List.length_take, Nat.min_eq_left hstands.le]
  · rw [h.written, hstands.written]
    exact hcount
  · rw [hdone, hstands.written, hstands.size]
  · intro hall
    have hisDone : d.isDone = true := beq_iff_eq.mpr hall
    rw [deliver, if_pos hisDone]

/-- However a receiving end takes octets, waits or fails, every call for a response goes on where the calls before it
stopped: it writes the next octets of the response, and is done when all have been written. -/
theorem afterCalls_resumes (r : Response) (acceptances : List Acceptance) (gathers : Bool) (calls : Nat) :
    let before := (ofResponse r).afterCalls { acceptances := acceptances, gathers := gathers } calls
    Resumes r before.1 before.2 := by
  intro before
  have hnew : Stands r 0 (ofResponse r) { acceptances := acceptances, gathers := gathers } := stands_ofResponse r rfl
  obtain ⟨total, hstands⟩ := stands_afterCalls hnew calls
  exact hstands.resumes

end Delivery

end StaticServer
