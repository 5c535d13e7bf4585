import StaticServer.Connection
import StaticServer.Proofs.Delivering
import StaticServer.Proofs.Received

/-!
# Turns of a connection

What one turn of a connection does, case by case: all that it can do with what it reads, and all that can become of
the response on its way.

* `Connection.process_of_waiting`, `Connection.process_of_request`, `Connection.process_of_error`: reading on.
* `Connection.flushed_flush`: going on delivering.
* `Connection.kept_process`, `Connection.kept_flush`: neither gives up the stream or finds it ended.
* `Connection.onReady_of_fill`, `Connection.onReady_of_ended`, `Connection.onReady_of_failure`: a turn that reads.
* `Delivery.octets_ofResponse`: a delivery writes the octets of its response.
-/

namespace StaticServer

/-! ## Responses one after the other -/

namespace Response

theorem flatMap_octets_snoc (responses : List Response) (r : Response) :
    (responses ++ [r]).flatMap octets = responses.flatMap octets ++ r.octets := by
  rw [List.flatMap_append, List.flatMap_singleton]

/-- Some responses and the start of one more. -/
theorem flatMap_octets_take_prefix (responses : List Response) (r : Response) (count : Nat) :
    responses.flatMap octets ++ r.octets.take count <+: (responses ++ [r]).flatMap octets := by
  rw [flatMap_octets_snoc]
  exact (List.prefix_append_right_inj _).mpr (List.take_prefix _ _)

end Response

namespace Delivery

/-! ## The delivery of a response -/

@[simp] theorem octets_ofResponse (r : Response) : (ofResponse r).octets = r.octets := by
  obtain ⟨status, mediaType, keepAlive, body⟩ := r
  cases body with
  | page text => simp [ofResponse, octets, Response.octets, Body.octets]
  | file content => simp [ofResponse, octets, Response.octets, Body.octets]

@[simp] theorem keepAlive_ofResponse (r : Response) : (ofResponse r).keepAlive = r.keepAlive := by
  unfold ofResponse
  split <;> rfl

@[simp] theorem keepAlive_withWritten (d : Delivery) (written : Nat) :
    (d.withWritten written).keepAlive = d.keepAlive := rfl

theorem size_ofResponse (r : Response) : (ofResponse r).size = r.octets.length := by
  rw [← length_octets, octets_ofResponse]

/-- Of a response, no more octets have been written than there are. -/
theorem written_le_of_response {r : Response} {count : Nat} (hle : count ≤ r.octets.length) :
    ((ofResponse r).withWritten count).written ≤ ((ofResponse r).withWritten count).size := by
  rw [size_withWritten, size_ofResponse]
  exact hle

theorem ofResponse_eq_withWritten (r : Response) : ofResponse r = (ofResponse r).withWritten 0 := by
  unfold ofResponse
  split <;> rfl

@[simp] theorem withWritten_withWritten (d : Delivery) (m n : Nat) :
    (d.withWritten m).withWritten n = d.withWritten n := rfl

end Delivery

namespace Connection

variable {site : Site} {c : Connection}

/-! ## Reading on -/

/-- The connection behind what its reader has read. -/
def readOn (c : Connection) : Connection :=
  { c with reader := (c.reader.advance c.buffer).reader, buffer := (c.reader.advance c.buffer).buffer }

theorem process_of_waiting (h : (c.reader.advance c.buffer).outcome = .ok none) :
    c.process site = (if c.peerClosed then .close else .read, c.readOn) := by
  simp only [process, h, readOn]

theorem process_of_request {r : Request} (h : (c.reader.advance c.buffer).outcome = .ok (some r)) :
    c.process site =
      (.write, { c.readOn with request := some r, delivery := some (.ofResponse (answer site c r)) }) := by
  simp only [process, h, readOn, respond, answer]

theorem process_of_error {e : RequestError} (h : (c.reader.advance c.buffer).outcome = .error e) :
    c.process site = (.write, { c.readOn with delivery := some (.ofResponse (.ofError .badRequest)) }) := by
  simp only [process, h, readOn, respond]

/-- A client whose end has not been found ended is answered by the site. -/
theorem answer_of_not_peerClosed (h : c.peerClosed = false) (r : Request) :
    answer site c r = site.respond r.path r.keepAlive := by
  simp [answer, h]

/-- Reading on neither gives up the stream nor finds it ended. -/
theorem kept_process (site : Site) (c : Connection) :
    (c.process site).2.isOpen = c.isOpen ∧ (c.process site).2.peerClosed = c.peerClosed := by
  unfold process
  simp only
  split <;> exact ⟨rfl, rfl⟩

/-! ## Going on delivering -/

/-- Nor does going on delivering. -/
theorem kept_flush (site : Site) (c : Connection) (wire : Wire) :
    (c.flush site wire).2.1.isOpen = c.isOpen ∧ (c.flush site wire).2.1.peerClosed = c.peerClosed := by
  unfold flush
  split
  · exact ⟨rfl, rfl⟩
  · split
    · exact ⟨rfl, rfl⟩
    · simp only
      split
      · exact ⟨rfl, rfl⟩
      · exact ⟨rfl, rfl⟩
      · split
        · exact ⟨rfl, rfl⟩
        · split
          · exact ⟨rfl, rfl⟩
          · exact kept_process site _

/-- What becomes of a connection that goes on delivering a response of which `count` octets were written, when it has
written `total` of them. -/
inductive Flushed (site : Site) (c : Connection) (wire : Wire) (r : Response) (count total : Nat) :
    Step × Connection → Prop
  | waits : Flushed site c wire r count total
      (.write, { c with delivery := some ((Delivery.ofResponse r).withWritten total) })
  | fails {e : TransferError} (he : (((Delivery.ofResponse r).withWritten count).deliver wire.sink).result = .error e) :
      Flushed site c wire r count total (.close, { c with delivery := none })
  | last (ht : total = r.octets.length) (hk : r.keepAlive = false) :
      Flushed site c wire r count total (.close, { c with delivery := none })
  | rests (ht : total = r.octets.length) (hk : r.keepAlive = true) (hu : c.buffer.unscanned = 0) :
      Flushed site c wire r count total (.read, c.renew)
  | next (ht : total = r.octets.length) (hk : r.keepAlive = true) :
      Flushed site c wire r count total (c.renew.process site)

/-- Going on delivering writes the next octets of the response, and it is one of these cases. -/
theorem flushed_flush (hopen : c.isOpen = true) {r : Response} {count : Nat}
    (hd : c.delivery = some ((Delivery.ofResponse r).withWritten count)) (hle : count ≤ r.octets.length) {wire : Wire}
    (hnew : wire.sink.received = []) :
    ∃ total, total ≤ r.octets.length ∧ (c.flush site wire).2.2.arrivals = wire.arrivals ∧
      r.octets.take count ++ (c.flush site wire).2.2.sink.received = r.octets.take total ∧
      Flushed site c wire r count total ((c.flush site wire).1, (c.flush site wire).2.1) := by
  have hsize := Delivery.size_ofResponse r
  obtain ⟨total, hcount, htotal, hdelivery, hreceived, hdone⟩ :=
    Delivery.deliver_spec (Delivery.written_le_of_response hle) wire.sink
  rw [Delivery.size_withWritten, hsize] at htotal hdone
  rw [Delivery.written_withWritten] at hcount hreceived
  rw [Delivery.octets_withWritten, Delivery.octets_ofResponse, hnew, List.nil_append] at hreceived
  rw [Delivery.withWritten_withWritten] at hdelivery
  -- the octets written before and now are the first `total` ones
  have hwritten : r.octets.take count ++ (((Delivery.ofResponse r).withWritten count).deliver wire.sink).sink.received =
      r.octets.take total := by
    have htake : r.octets.take count = (r.octets.take total).take count := by
      rw [List.take_take, Nat.min_eq_left hcount]
    rw [hreceived, htake, List.take_append_drop]
  have hkeep : ((Delivery.ofResponse r).withWritten count).keepAlive = r.keepAlive := by
    rw [Delivery.keepAlive_withWritten, Delivery.keepAlive_ofResponse]
  refine ⟨total, htotal, ?_⟩
  simp only [flush, hd, hkeep]
  rw [if_neg (by simp [hopen])]
  split
  · exact ⟨rfl, hwritten, hdelivery ▸ .waits⟩
  · next e he => exact ⟨rfl, hwritten, .fails he⟩
  · next hr =>
    have ht := hdone.mp hr
    split
    · next hk => exact ⟨rfl, hwritten, .last ht (by simpa using hk)⟩
    · next hk =>
      have hk : r.keepAlive = true := by simpa using hk
      split
      · next hu => exact ⟨rfl, hwritten, .rests ht hk hu⟩
      · exact ⟨rfl, hwritten, .next ht hk⟩

/-! ## Turns that read -/

theorem onReady_writable (hopen : c.isOpen = true) (wire : Wire) :
    c.onReady site .writable wire = c.flush site wire := by
  simp [onReady, hopen]

/-- The connection with what it has read from the stream. -/
def filled (c : Connection) (arrivals : List Arrival) : Connection :=
  { c with buffer := (c.buffer.fill arrivals).buffer }

section Reading

variable (hopen : c.isOpen = true) (hd : c.delivery = none) (wire : Wire)
include hopen hd

theorem onReady_of_fill {f : Fill} (hf : (c.buffer.fill wire.arrivals).outcome = .ok f) (hne : f ≠ .ended) :
    c.onReady site .readable wire =
      (((c.filled wire.arrivals).process site).1, ((c.filled wire.arrivals).process site).2,
        { wire with arrivals := (c.buffer.fill wire.arrivals).unread }) := by
  simp only [onReady, fill, hopen, hd, hf, filled]
  cases f with
  | ended => exact absurd rfl hne
  | drained => simp
  | full => simp

theorem onReady_of_ended (hf : (c.buffer.fill wire.arrivals).outcome = .ok .ended) :
    c.onReady site .readable wire =
      ((({ c.filled wire.arrivals with peerClosed := true } : Connection).process site).1,
        (({ c.filled wire.arrivals with peerClosed := true } : Connection).process site).2,
        { wire with arrivals := (c.buffer.fill wire.arrivals).unread }) := by
  simp [onReady, fill, hopen, hd, hf, filled]

theorem onReady_of_failure {e : TransferError} (hf : (c.buffer.fill wire.arrivals).outcome = .error e) :
    c.onReady site .readable wire =
      (.close, c.filled wire.arrivals, { wire with arrivals := (c.buffer.fill wire.arrivals).unread }) := by
  simp [onReady, fill, hopen, hd, hf, filled]

end Reading

end Connection

end StaticServer
