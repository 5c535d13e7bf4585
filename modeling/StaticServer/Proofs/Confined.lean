import StaticServer.Proofs.Dialogue
import StaticServer.Proofs.Resolved

/-!
# Only what is below the root is shown

Whatever octets a client sends, and whatever its stream does with them, a connection only ever writes responses of its
site. A response that is a success shows a file that others may read, at a path that is the root of the site or below
it, and nothing else.

* `Site.Confined`: a response that shows nothing else, and `Site.confined_respond`: all responses of a site are such.
* `Dialogue.Issuing`: the invariant that everything written is of such responses.
* `Dialogue.issuing_process`, `Dialogue.issuing_flush`: reading on and going on delivering keep the invariant.
* `Dialogue.issues_step`, `Dialogue.issues_run`: so do all events, and all lists of events.
* `Dialogue.run_confined`: what decides an answer, and what a client receives.
-/

namespace StaticServer

namespace Site

variable {site : Site} {r : Response}

/-! ## The responses of a site -/

/-- A response that shows nothing but what others may read below the root of a site. A success shows a file that others
may read, at a path that the path of a request leads to. -/
inductive Confined (site : Site) : Response → Prop
  /-- The fixed page of an error. -/
  | error {status : Status} (h : status ≠ .ok) : Confined site (.ofError status)
  /-- The fixed page for an empty file. -/
  | emptyFile {request : String} {q : List Char} {content : Content} {mode : Nat} {keepAlive : Bool}
      (hq : Leads site request q) (hs : site.fileSystem.lookup? q = some (.file content mode))
      (hr : othersRead mode = true) (hz : content.size = 0) : Confined site (.ofEmptyFile keepAlive)
  /-- The content of a file, all of it and nothing else. -/
  | file {request : String} {q : List Char} {content : Content} {mode : Nat} {keepAlive : Bool}
      (hq : Leads site request q) (hs : site.fileSystem.lookup? q = some (.file content mode))
      (hr : othersRead mode = true) (hz : content.size ≠ 0) :
      Confined site (.ofFile content (MediaType.ofPath (String.ofList q)) keepAlive)

theorem confined_badRequest (site : Site) : Confined site (.ofError .badRequest) := .error (by rintro ⟨⟩)

/-- Not to keep the connection does not change what a response shows. -/
theorem Confined.keepAlive_and (h : Confined site r) (kept : Bool) :
    Confined site { r with keepAlive := r.keepAlive && kept } := by
  cases h with
  | error h => exact .error h
  | emptyFile hq hs hr hz => exact .emptyFile hq hs hr hz
  | file hq hs hr hz => exact .file hq hs hr hz

/-- The responses of a site are confined to it. -/
theorem confined_respond (site : Site) (request : String) (keepAlive : Bool) :
    Confined site (site.respond request keepAlive) := by
  have hd := decided_fetch site request
  unfold respond
  generalize site.fetch request = outcome at hd ⊢
  cases hd with
  | escapes => exact .error (by rintro ⟨⟩)
  | missing => exact .error (by rintro ⟨⟩)
  | directory => exact .error (by rintro ⟨⟩)
  | unreadable => exact .error (by rintro ⟨⟩)
  | fails => exact .error (by rintro ⟨⟩)
  | empty hq hs hr hz => exact .emptyFile hq hs hr hz
  | served hq hs hr hz => exact .file hq hs hr hz

/-- A connection answers a request with a response that is confined to its site. -/
theorem confined_answer (site : Site) (c : Connection) (request : Request) :
    Confined site (Connection.answer site c request) := (confined_respond site _ _).keepAlive_and _

end Site

namespace Dialogue

variable {site : Site} {written : Bytes} {c : Connection} {responses : List Response}

/-! ## What a connection writes -/

/-- Everything a connection has written is of responses that show only what is below the root of the site. -/
inductive Issuing (site : Site) (written : Bytes) : Step × Connection → Prop
  | reading {c : Connection} {responses : List Response} (hall : ∀ r ∈ responses, site.Confined r)
      (hopen : c.isOpen = true) (hd : c.delivery = none) (hout : written = responses.flatMap Response.octets) :
      Issuing site written (.read, c)
  | responding {c : Connection} {r : Response} {count : Nat} {responses : List Response}
      (hall : ∀ r ∈ responses, site.Confined r) (hr : site.Confined r) (hopen : c.isOpen = true)
      (hd : c.delivery = some ((Delivery.ofResponse r).withWritten count)) (hle : count ≤ r.octets.length)
      (hout : written = responses.flatMap Response.octets ++ r.octets.take count) :
      Issuing site written (.write, c)
  | closed {c : Connection} {responses : List Response} (hall : ∀ r ∈ responses, site.Confined r)
      (hout : written <+: responses.flatMap Response.octets) : Issuing site written (.close, c)

/-- So it is the start of such responses. -/
theorem Issuing.exists_responses {result : Step × Connection} (h : Issuing site written result) :
    ∃ responses : List Response, written <+: responses.flatMap Response.octets ∧ ∀ r ∈ responses, site.Confined r := by
  cases h with
  | @reading _ responses hall hopen hd hout => exact ⟨responses, hout ▸ List.prefix_refl _, hall⟩
  | @responding _ r count responses hall hr hopen hd hle hout =>
    refine ⟨responses ++ [r], ?_, List.forall_mem_append.mpr ⟨hall, List.forall_mem_singleton.mpr hr⟩⟩
    rw [hout]
    exact Response.flatMap_octets_take_prefix responses r count
  | @closed _ responses hall hout => exact ⟨responses, hout, hall⟩

/-- A response that nothing has been written of is on its way. -/
theorem issuing_of_response (hall : ∀ r ∈ responses, site.Confined r) {r : Response} (hr : site.Confined r)
    (hopen : c.isOpen = true) (hd : c.delivery = some (.ofResponse r))
    (hout : written = responses.flatMap Response.octets) : Issuing site written (.write, c) := by
  rw [Delivery.ofResponse_eq_withWritten] at hd
  refine .responding hall hr hopen hd (Nat.zero_le _) ?_
  rw [hout, List.take_zero, List.append_nil]

/-- Reading on keeps the invariant. -/
theorem issuing_process (hall : ∀ r ∈ responses, site.Confined r) (hopen : c.isOpen = true) (hd : c.delivery = none)
    (hout : written = responses.flatMap Response.octets) : Issuing site written (c.process site) := by
  cases ho : (c.reader.advance c.buffer).outcome with
  | error e =>
    rw [Connection.process_of_error ho]
    exact issuing_of_response hall site.confined_badRequest hopen rfl hout
  | ok o =>
    cases o with
    | none =>
      rw [Connection.process_of_waiting ho]
      cases c.peerClosed with
      | true => exact .closed hall (hout ▸ List.prefix_refl _)
      | false => exact .reading hall hopen hd hout
    | some request =>
      rw [Connection.process_of_request ho]
      exact issuing_of_response hall (site.confined_answer c request) hopen rfl hout

/-- Going on delivering keeps the invariant. -/
theorem issuing_flush (h : Issuing site written (.write, c)) {wire : Wire} (hnew : wire.sink.received = []) :
    Issuing site (written ++ (c.flush site wire).2.2.sink.received)
      ((c.flush site wire).1, (c.flush site wire).2.1) := by
  cases h with
  | @responding _ r count responses hall hr hopen hd hle hout =>
    obtain ⟨total, htotal, _, hreceived, hflushed⟩ := @Connection.flushed_flush site c hopen r count hd hle wire hnew
    have hwritten : written ++ (c.flush site wire).2.2.sink.received =
        responses.flatMap Response.octets ++ r.octets.take total := by
      rw [hout, List.append_assoc, hreceived]
    have hall' : ∀ r' ∈ responses ++ [r], site.Confined r' :=
      List.forall_mem_append.mpr ⟨hall, List.forall_mem_singleton.mpr hr⟩
    have hpart : written ++ (c.flush site wire).2.2.sink.received <+: (responses ++ [r]).flatMap Response.octets := by
      rw [hwritten]
      exact Response.flatMap_octets_take_prefix responses r total
    have hwhole : total = r.octets.length →
        written ++ (c.flush site wire).2.2.sink.received = (responses ++ [r]).flatMap Response.octets := by
      intro ht
      rw [hwritten, ht, List.take_length, Response.flatMap_octets_snoc]
    generalize ((c.flush site wire).1, (c.flush site wire).2.1) = result at hflushed ⊢
    cases hflushed with
    | waits => exact .responding hall hr hopen rfl htotal hwritten
    | fails => exact .closed hall' hpart
    | last => exact .closed hall' hpart
    | rests ht => exact .reading hall' hopen rfl (hwhole ht)
    | next ht => exact issuing_process hall' hopen rfl (hwhole ht)

/-- A turn that reads keeps the invariant. -/
theorem issuing_readable (h : Issuing site written (.read, c)) {wire : Wire} (hnew : wire.sink.received = []) :
    Issuing site (written ++ (c.onReady site .readable wire).2.2.sink.received)
      ((c.onReady site .readable wire).1, (c.onReady site .readable wire).2.1) := by
  cases h with
  | @reading _ responses hall hopen hd hout =>
    have hout' : written ++ wire.sink.received = responses.flatMap Response.octets := by
      rw [hnew, List.append_nil]
      exact hout
    cases hf : (c.buffer.fill wire.arrivals).outcome with
    | error e =>
      rw [Connection.onReady_of_failure hopen hd wire hf]
      exact .closed hall (hout' ▸ List.prefix_refl _)
    | ok f =>
      by_cases hended : f = .ended
      · rw [hended] at hf
        rw [Connection.onReady_of_ended hopen hd wire hf]
        exact issuing_process hall hopen hd hout'
      · rw [Connection.onReady_of_fill hopen hd wire hf hended]
        exact issuing_process hall hopen hd hout'

/-- A turn that writes keeps the invariant. -/
theorem issuing_writable (h : Issuing site written (.write, c)) {wire : Wire} (hnew : wire.sink.received = []) :
    Issuing site (written ++ (c.onReady site .writable wire).2.2.sink.received)
      ((c.onReady site .writable wire).1, (c.onReady site .writable wire).2.1) := by
  have hopen : c.isOpen = true := by
    cases h with
    | responding _ _ hopen => exact hopen
  rw [Connection.onReady_writable hopen]
  exact issuing_flush h hnew

/-- The invariant of a dialogue. -/
def Issues (site : Site) (d : Dialogue) : Prop := Issuing site d.written (d.awaits, d.connection)

theorem issues_new (site : Site) : Issues site {} := .reading (List.forall_mem_nil _) rfl rfl rfl

/-- Every event keeps the invariant. -/
theorem issues_step {d : Dialogue} (h : Issues site d) (event : Event) : Issues site (d.step site event) := by
  cases event with
  | send octets => exact h
  | receive count =>
    rw [Issues, written_receive]
    exact h
  | turn intakes acceptances gathers =>
    rw [Issues] at h
    cases ha : d.awaits with
    | read =>
      rw [ha] at h
      simp only [step, ha]
      rw [Issues, written_turn]
      exact issuing_readable h rfl
    | write =>
      rw [ha] at h
      simp only [step, ha]
      rw [Issues, written_turn]
      exact issuing_writable h rfl
    | close =>
      simp only [step, ha]
      exact h

/-- The invariant holds behind every list of events. -/
theorem issues_run (site : Site) (events : List Event) : Issues site (run site events) :=
  run_induction (issues_new site) fun _ hd event _ => issues_step hd event

/-! ## What the client sees -/

/-- What the path of a request leads to decides the answer to it. Whatever a client sends and whatever its stream does,
it is written nothing but responses that are confined to the site. -/
theorem run_confined (site : Site) :
    (∀ request outcome, site.fetch request = outcome ↔ site.Decided request outcome) ∧
      ∀ events, ∃ responses : List Response,
        (run site events).received ++ (run site events).inTransit <+: responses.flatMap Response.octets ∧
          ∀ r ∈ responses, site.Confined r :=
  ⟨fun _ _ => Site.fetch_eq_iff, fun events => (issues_run site events).exists_responses⟩

end Dialogue

end StaticServer
