import StaticServer.Proofs.Dialogue
import StaticServer.Proofs.Resuming

/-!
# Connections called in any order

A connection need not be driven by the steps that it returns. Whatever is called, in whatever order and with whatever
its stream gives and takes, the step that a call returns fits the connection behind it: one that is to be read next has
room to read into and has not found its stream ended, one that is to be written next has something to write, and one
that is to be closed holds no response.

* `RequestReader.room_of_waiting`: a reader that waits leaves room for what it waits for.
* `Connection.Sound`: the invariant of a connection, and `Connection.Settled`: what holds of a connection and the step
  returned with it.
* `Connection.settled_process`, `Connection.settled_flush`, `Connection.settled_onReady`: every step is returned so.
* `Connection.sound_call`, `Connection.sound_after`: every call keeps the invariant, and so do all calls.
* `Connection.run_fits`: the step of every call fits, and a connection closed stays closed.
* `Exchange.exists_calls`: whatever a client does, its exchange is such a run of calls.
-/

namespace StaticServer

/-! ## Room to read into -/

namespace LineBuffer

variable {b : LineBuffer}

/-- What has not been filled can be received into. -/
theorem room_pos_of_isFull (h : b.Ordered) (hf : b.isFull = false) : 0 < b.room := by
  have hne : b.cursor.filled ≠ b.capacity := beq_eq_false_iff_ne.mp hf
  have hle := h.filled_le
  rw [room]
  omega

end LineBuffer

/-- A reader that waits, for the end of a line or for the rest of a body, leaves room for more octets. -/
theorem RequestReader.room_of_waiting {reader : RequestReader} {b : LineBuffer} (hb : b.Ordered)
    (h : (advance reader b).outcome = .ok none) : 0 < (advance reader b).buffer.room := by
  induction reader, b using advance.induct with
  | case1 b r =>
    rw [advance_body] at h ⊢
    obtain ⟨_, he⟩ | ⟨hl, hu, he⟩ | ⟨_, _, he⟩ := advanceBody_cases r b
    · rw [he] at h
      cases h
    · -- the octets of the body that are missing fit behind those that are there
      rw [he]
      have hscan := hb.scan_le
      rw [LineBuffer.roomAfterScan] at hl
      rw [LineBuffer.unscanned] at hu
      show 0 < b.room
      rw [LineBuffer.room]
      omega
    · rw [he] at h
      cases h
  | case2 reader b c hs hr =>
    rw [advance_of_malformed hr hs] at h
    cases h
  | case3 reader b c hs hr =>
    rw [advance_of_incomplete hr hs] at h ⊢
    refine LineBuffer.room_pos_of_isFull (keeps_scanLine hb hs).ordered ?_
    cases hf : c.isFull with
    | true => simp [hf] at h
    | false => rfl
  | case4 reader b start stop c hs e ht hr =>
    rw [advance_of_refused hr hs ht] at h
    cases h
  | case5 reader b start stop c hs r ht hr =>
    rw [advance_of_request hr hs ht] at h
    cases h
  | case6 reader b start stop c hs next ht _ hr ih =>
    rw [advance_of_next hr hs ht] at h ⊢
    exact ih (keeps_scanLine hb hs).ordered h

namespace Connection

variable {site : Site} {c : Connection}

/-! ## Calls -/

/-- What a stream gives and takes during one call, whatever its client has done. -/
structure Stream where
  arrivals : List Arrival := []
  acceptances : List Acceptance := []
  gathers : Bool := true
  deriving DecidableEq, Repr

/-- The stream as a call finds it. -/
def Stream.wire (s : Stream) : Wire :=
  { arrivals := s.arrivals, sink := { acceptances := s.acceptances, gathers := s.gathers } }

/-- What can be called. -/
inductive Call
  | onReady (ready : Readiness) (stream : Stream)
  | flush (stream : Stream)
  | fill (stream : Stream)
  | close
  deriving DecidableEq, Repr

/-- What a call returns. -/
inductive Reply
  | step (step : Step)
  | fill (outcome : Except TransferError Fill)
  | close (had : Bool)

/-- What a call returns, and the connection behind it. -/
def call (site : Site) (c : Connection) : Call → Reply × Connection
  | .onReady ready stream =>
    let (step, c, _) := c.onReady site ready stream.wire
    (.step step, c)
  | .flush stream =>
    let (step, c, _) := c.flush site stream.wire
    (.step step, c)
  | .fill stream =>
    let (outcome, c, _) := c.fill stream.wire
    (.fill outcome, c)
  | .close =>
    let (had, c) := c.close
    (.close had, c)

/-- A connection behind some calls. -/
def after (site : Site) (c : Connection) (calls : List Call) : Connection :=
  calls.foldl (fun c call => (c.call site call).2) c

/-- A new connection behind some calls. -/
def run (site : Site) (calls : List Call) : Connection := after site {} calls

/-! ## The invariant -/

/-- A response on its way, of which some octets have been written. It keeps the connection only if the stream has not
been found ended. -/
structure Pending (c : Connection) (d : Delivery) : Prop where
  response : ∃ (r : Response) (count : Nat), d = (Delivery.ofResponse r).withWritten count ∧ count ≤ r.octets.length
  peerClosed : d.keepAlive = true → c.peerClosed = false

/-- The invariant of a connection. -/
structure Sound (c : Connection) : Prop where
  ordered : c.buffer.Ordered
  capacity : c.buffer.capacity = Request.maxSize
  delivery_of_closed : c.isOpen = false → c.delivery = none
  pending : ∀ d ∈ c.delivery, c.Pending d

/-- What holds of a connection and the step that is returned with it. -/
inductive Settled : Step × Connection → Prop
  | reads {c : Connection} (hc : c.Sound) (hopen : c.isOpen = true) (hd : c.delivery = none) (hroom : 0 < c.buffer.room)
      (hpeer : c.peerClosed = false) : Settled (.read, c)
  | writes {c : Connection} (hc : c.Sound) (hopen : c.isOpen = true) (hd : c.delivery.isSome = true) :
      Settled (.write, c)
  | closes {c : Connection} (hc : c.Sound) (hd : c.delivery = none) : Settled (.close, c)

theorem Settled.sound {step : Step} (h : Settled (step, c)) : c.Sound := by
  cases h with
  | reads hc => exact hc
  | writes hc => exact hc
  | closes hc => exact hc

theorem sound_new : ({} : Connection).Sound where
  ordered := LineBuffer.ordered_ofCapacity _
  capacity := LineBuffer.capacity_ofCapacity _
  delivery_of_closed := fun _ => rfl
  pending := fun _ hd => by cases hd

/-- A connection with nothing on its way. -/
theorem sound_of_none (hb : c.buffer.Ordered) (hcapacity : c.buffer.capacity = Request.maxSize)
    (hd : c.delivery = none) : c.Sound where
  ordered := hb
  capacity := hcapacity
  delivery_of_closed := fun _ => hd
  pending := fun d hd' => by
    rw [hd] at hd'
    cases hd'

/-- A connection with a response on its way is to be written next. -/
theorem settled_of_pending (hb : c.buffer.Ordered) (hcapacity : c.buffer.capacity = Request.maxSize)
    (hopen : c.isOpen = true) {r : Response} {count : Nat}
    (hd : c.delivery = some ((Delivery.ofResponse r).withWritten count)) (hle : count ≤ r.octets.length)
    (hpeer : r.keepAlive = true → c.peerClosed = false) : Settled (.write, c) := by
  refine .writes ⟨hb, hcapacity, fun hclosed => ?_, fun d hd' => ?_⟩ hopen (by rw [hd]; rfl)
  · rw [hopen] at hclosed
    cases hclosed
  · rw [hd] at hd'
    cases hd'
    refine ⟨⟨r, count, rfl, hle⟩, fun hk => hpeer ?_⟩
    rwa [Delivery.keepAlive_withWritten, Delivery.keepAlive_ofResponse] at hk

/-! ## Every step is settled -/

/-- Reading on settles a connection that has nothing on its way. -/
theorem settled_process (hb : c.buffer.Ordered) (hcapacity : c.buffer.capacity = Request.maxSize)
    (hopen : c.isOpen = true) (hd : c.delivery = none) : Settled (c.process site) := by
  have hkeeps := RequestReader.keeps_advance c.reader hb
  have hcapacity' : c.readOn.buffer.capacity = Request.maxSize := hkeeps.capacity.trans hcapacity
  cases ho : (c.reader.advance c.buffer).outcome with
  | error e =>
    rw [process_of_error ho]
    have hnew := congrArg some (Delivery.ofResponse_eq_withWritten (.ofError .badRequest))
    exact settled_of_pending hkeeps.ordered hcapacity' hopen hnew (Nat.zero_le _) fun hk => by cases hk
  | ok o =>
    cases o with
    | none =>
      rw [process_of_waiting ho]
      have hsound : c.readOn.Sound := sound_of_none hkeeps.ordered hcapacity' hd
      cases hpeer : c.peerClosed with
      | true => exact .closes hsound hd
      | false => exact .reads hsound hopen hd (RequestReader.room_of_waiting hb ho) hpeer
    | some r =>
      rw [process_of_request ho]
      have hnew := congrArg some (Delivery.ofResponse_eq_withWritten (answer site c r))
      refine settled_of_pending hkeeps.ordered hcapacity' hopen hnew (Nat.zero_le _) fun hk => ?_
      show c.peerClosed = false
      have hk' : (site.respond r.path r.keepAlive).keepAlive = true ∧ (!c.peerClosed) = true := by
        rw [← Bool.and_eq_true]
        exact hk
      simpa using hk'.2

/-- Going on delivering settles a connection. -/
theorem settled_flush (h : c.Sound) (stream : Stream) :
    Settled ((c.flush site stream.wire).1, (c.flush site stream.wire).2.1) := by
  cases hd : c.delivery with
  | none =>
    simp only [flush, hd]
    exact .closes h hd
  | some d =>
    obtain ⟨⟨r, count, rfl, hle⟩, hpeer⟩ := h.pending d hd
    rw [Delivery.keepAlive_withWritten, Delivery.keepAlive_ofResponse] at hpeer
    have hopen : c.isOpen = true := by
      cases hopen : c.isOpen with
      | true => rfl
      | false =>
        rw [h.delivery_of_closed hopen] at hd
        cases hd
    obtain ⟨total, htotal, _, _, hflushed⟩ := @flushed_flush site c hopen r count hd hle stream.wire rfl
    have hcapacity : c.renew.buffer.capacity = Request.maxSize :=
      (LineBuffer.capacity_compact h.ordered).trans h.capacity
    generalize ((c.flush site stream.wire).1, (c.flush site stream.wire).2.1) = result at hflushed ⊢
    cases hflushed with
    | waits => exact settled_of_pending h.ordered h.capacity hopen rfl htotal hpeer
    | fails => exact .closes (sound_of_none h.ordered h.capacity rfl) rfl
    | last => exact .closes (sound_of_none h.ordered h.capacity rfl) rfl
    | rests _ hk hu =>
      refine .reads (sound_of_none h.ordered.compact hcapacity rfl) hopen rfl ?_ (hpeer hk)
      show 0 < c.buffer.compact.capacity - c.buffer.unscanned
      rw [hu, Nat.sub_zero]
      exact hcapacity ▸ Nat.succ_pos _
    | next => exact settled_process h.ordered.compact hcapacity hopen rfl

theorem ordered_filled (h : c.Sound) (arrivals : List Arrival) : (c.filled arrivals).buffer.Ordered := by
  obtain ⟨taken, _, hbuffer, _⟩ := LineBuffer.fill_eq_receive h.ordered arrivals
  rw [filled, hbuffer]
  exact h.ordered.receive taken

theorem capacity_filled (h : c.Sound) (arrivals : List Arrival) :
    (c.filled arrivals).buffer.capacity = Request.maxSize := by
  obtain ⟨taken, _, hbuffer, _⟩ := LineBuffer.fill_eq_receive h.ordered arrivals
  rw [filled, hbuffer, LineBuffer.capacity_receive h.ordered, h.capacity]

/-- A turn settles a connection. -/
theorem settled_onReady (h : c.Sound) (ready : Readiness) (stream : Stream) :
    Settled ((c.onReady site ready stream.wire).1, (c.onReady site ready stream.wire).2.1) := by
  cases hopen : c.isOpen with
  | false =>
    simp only [onReady, hopen]
    exact .closes h (h.delivery_of_closed hopen)
  | true =>
    by_cases hwrites : ready = .writable ∨ c.delivery.isSome = true
    · have hflush : c.onReady site ready stream.wire = c.flush site stream.wire := by
        rw [onReady, if_neg (by simp [hopen]), if_pos hwrites]
      rw [hflush]
      exact settled_flush h stream
    · obtain ⟨hready, hd⟩ := not_or.mp hwrites
      have hd : c.delivery = none := by simpa using hd
      have hready : ready = .readable := by
        cases ready with
        | readable => rfl
        | writable => exact absurd rfl hready
      subst hready
      have hb := ordered_filled h stream.wire.arrivals
      have hcapacity := capacity_filled h stream.wire.arrivals
      cases hf : (c.buffer.fill stream.wire.arrivals).outcome with
      | error e =>
        rw [onReady_of_failure hopen hd _ hf]
        exact .closes (sound_of_none hb hcapacity hd) hd
      | ok f =>
        by_cases hended : f = .ended
        · rw [hended] at hf
          rw [onReady_of_ended hopen hd _ hf]
          exact settled_process hb hcapacity hopen hd
        · rw [onReady_of_fill hopen hd _ hf hended]
          exact settled_process hb hcapacity hopen hd

/-! ## Every call keeps the invariant -/

/-- Reading from the stream keeps the invariant. -/
theorem sound_fill (h : c.Sound) (stream : Stream) : (c.fill stream.wire).2.1.Sound := by
  cases hopen : c.isOpen with
  | false =>
    simp only [fill, hopen]
    exact h
  | true =>
    have hfill : (c.fill stream.wire).2.1 = c.filled stream.wire.arrivals := by simp [fill, hopen, filled]
    rw [hfill]
    exact ⟨ordered_filled h _, capacity_filled h _, h.delivery_of_closed,
      fun d hd => ⟨(h.pending d hd).response, (h.pending d hd).peerClosed⟩⟩

theorem sound_close (h : c.Sound) : c.close.2.Sound :=
  sound_of_none ⟨Nat.le_refl _, Nat.le_refl _, Nat.zero_le _⟩ h.capacity rfl

/-- Every call keeps the invariant. -/
theorem sound_call (h : c.Sound) (call : Call) : (c.call site call).2.Sound := by
  cases call with
  | onReady ready stream => exact (settled_onReady h ready stream).sound
  | flush stream => exact (settled_flush h stream).sound
  | fill stream => exact sound_fill h stream
  | close => exact sound_close h

/-- All calls keep the invariant. -/
theorem sound_after (h : c.Sound) (calls : List Call) : (after site c calls).Sound := by
  induction calls generalizing c with
  | nil => exact h
  | cons call calls ih => exact ih (sound_call h call)

theorem sound_run (site : Site) (calls : List Call) : (run site calls).Sound := sound_after sound_new calls

/-! ## Only closing closes -/

theorem isOpen_fill (c : Connection) (wire : Wire) : (c.fill wire).2.1.isOpen = c.isOpen := by
  unfold fill
  split <;> rfl

theorem isOpen_onReady (site : Site) (ready : Readiness) (c : Connection) (wire : Wire) :
    (c.onReady site ready wire).2.1.isOpen = c.isOpen := by
  have hfill := isOpen_fill c wire
  unfold onReady
  split
  · rfl
  · split
    · exact (kept_flush site c wire).1
    · simp only
      split
      · exact hfill
      · exact (kept_process site _).1.trans hfill
      · exact (kept_process site _).1.trans hfill

/-- A connection stays open until it is closed. -/
theorem isOpen_call (site : Site) (c : Connection) {call : Call} (h : call ≠ .close) :
    (c.call site call).2.isOpen = c.isOpen := by
  cases call with
  | onReady ready stream => exact isOpen_onReady site ready c stream.wire
  | flush stream => exact (kept_flush site c stream.wire).1
  | fill stream => exact isOpen_fill c stream.wire
  | close => exact absurd rfl h

/-- Behind some calls, a connection is open if it was open before and none of them closes it. -/
theorem isOpen_after_iff (site : Site) (c : Connection) (calls : List Call) :
    (after site c calls).isOpen = true ↔ c.isOpen = true ∧ .close ∉ calls := by
  induction calls generalizing c with
  | nil => exact ⟨fun h => ⟨h, List.not_mem_nil⟩, fun h => h.1⟩
  | cons call calls ih =>
    have hnext : (after site c (call :: calls)).isOpen = true ↔
        (c.call site call).2.isOpen = true ∧ .close ∉ calls := ih _
    rw [hnext, List.mem_cons, not_or]
    by_cases hclose : .close = call
    · subst hclose
      exact ⟨fun h => absurd h.1 Bool.false_ne_true, fun h => absurd rfl h.2.1⟩
    · rw [isOpen_call site c (Ne.symm hclose)]
      exact ⟨fun h => ⟨h.1, hclose, h.2⟩, fun h => ⟨h.1, h.2.2⟩⟩

theorem isOpen_run_iff (site : Site) (calls : List Call) : (run site calls).isOpen = true ↔ .close ∉ calls := by
  rw [run, isOpen_after_iff]
  exact ⟨fun h => h.2, fun h => ⟨rfl, h⟩⟩

/-! ## What calls return -/

/-- A step that fits the connection with which it is returned. -/
structure Fits (step : Step) (c : Connection) : Prop where
  write_iff : step = .write ↔ c.state = .responding
  read : step = .read → c.isOpen = true ∧ c.delivery = none ∧ 0 < c.buffer.room ∧ c.peerClosed = false
  close : step = .close → c.delivery = none

theorem state_eq_responding_iff : c.state = .responding ↔ c.isOpen = true ∧ c.delivery.isSome = true := by
  unfold state
  cases c.isOpen with
  | false => simp
  | true =>
    cases c.delivery with
    | none => cases c.reader <;> simp
    | some d => simp

theorem Settled.fits {step : Step} (h : Settled (step, c)) : Fits step c := by
  cases h with
  | reads hc hopen hd hroom hpeer =>
    refine ⟨?_, fun _ => ⟨hopen, hd, hroom, hpeer⟩, by rintro ⟨⟩⟩
    simp [state_eq_responding_iff, hd]
  | writes hc hopen hd =>
    refine ⟨?_, by rintro ⟨⟩, by rintro ⟨⟩⟩
    simp [state_eq_responding_iff, hopen, hd]
  | closes hc hd =>
    refine ⟨?_, by rintro ⟨⟩, fun _ => hd⟩
    simp [state_eq_responding_iff, hd]

/-- What a call of a closed connection returns. -/
def Call.refusal : Call → Reply
  | .onReady _ _ => .step .close
  | .flush _ => .step .close
  | .fill _ => .fill (.ok .ended)
  | .close => .close false

theorem state_of_closed (h : c.isOpen = false) : c.state = .closed := by simp [state, h]

/-- A closed connection refuses every call, and stays closed. -/
theorem call_of_closed (h : c.Sound) (hclosed : c.isOpen = false) (call : Call) :
    (c.call site call).1 = call.refusal ∧ (c.call site call).2.isOpen = false := by
  have hd := h.delivery_of_closed hclosed
  cases call with
  | onReady ready stream => simp [Connection.call, onReady, hclosed, Call.refusal]
  | flush stream => simp [Connection.call, flush, hd, hclosed, Call.refusal]
  | fill stream => simp [Connection.call, fill, hclosed, Call.refusal]
  | close => simp [Connection.call, close, hclosed, Call.refusal]

/-- The step of a call fits the connection behind it. -/
theorem fits_of_call (h : c.Sound) {call : Call} {step : Step} (hs : (c.call site call).1 = .step step) :
    Fits step (c.call site call).2 := by
  cases call with
  | onReady ready stream =>
    cases hs
    exact (settled_onReady h ready stream).fits
  | flush stream =>
    cases hs
    exact (settled_flush h stream).fits
  | fill stream => cases hs
  | close => cases hs

end Connection

/-! ## Exchanges -/

namespace Exchange

/-- What the client of an exchange does, and what is called on the connection. -/
inductive Action
  | send (octets : Bytes)
  | finish
  | leave
  | receive
  | onReady (ready : Readiness)
  | flush
  | fill
  | close
  deriving DecidableEq, Repr

/-- An exchange behind one action. -/
def act (x : Exchange) : Action → Exchange
  | .send octets => (x.send octets).2
  | .finish => x.finish
  | .leave => x.leave
  | .receive => x.receive.2.2
  | .onReady ready => (x.turn ready).2
  | .flush => x.flush.2
  | .fill => x.fill.2
  | .close => x.close.2

/-- What the stream of an exchange gives and takes. -/
def stream (x : Exchange) : Connection.Stream :=
  { arrivals := x.wire.arrivals, acceptances := x.wire.sink.acceptances }

/-- The client of an exchange leaves the connection as it is; everything else is a call. -/
theorem connection_act (x : Exchange) (action : Action) : (x.act action).site = x.site ∧
    ((x.act action).connection = x.connection ∨
      ∃ call, (x.act action).connection = (x.connection.call x.site call).2) := by
  cases action with
  | send octets =>
    simp only [act, send]
    split <;> exact ⟨rfl, Or.inl rfl⟩
  | finish => exact ⟨rfl, Or.inl rfl⟩
  | leave =>
    simp only [act, leave]
    split <;> exact ⟨rfl, Or.inl rfl⟩
  | receive => exact ⟨rfl, Or.inl rfl⟩
  | onReady ready => exact ⟨rfl, Or.inr ⟨.onReady ready x.stream, rfl⟩⟩
  | flush => exact ⟨rfl, Or.inr ⟨.flush x.stream, rfl⟩⟩
  | fill => exact ⟨rfl, Or.inr ⟨.fill x.stream, rfl⟩⟩
  | close => exact ⟨rfl, Or.inr ⟨.close, rfl⟩⟩

/-- An exchange behind some actions. -/
def acts (x : Exchange) (actions : List Action) : Exchange := actions.foldl act x

/-- Whatever its client does, the connection of an exchange has calls and nothing else. -/
theorem exists_calls (x : Exchange) (actions : List Action) :
    ∃ calls, (x.acts actions).connection = Connection.after x.site x.connection calls := by
  induction actions generalizing x with
  | nil => exact ⟨[], rfl⟩
  | cons action actions ih =>
    obtain ⟨calls, hcalls⟩ := ih (x.act action)
    obtain ⟨hsite, hkept | ⟨call, hcall⟩⟩ := connection_act x action
    · rw [hsite, hkept] at hcalls
      exact ⟨calls, hcalls⟩
    · rw [hsite, hcall] at hcalls
      exact ⟨call :: calls, hcalls⟩

end Exchange

namespace Connection

/-- Whatever has been called before, with whatever streams: the step that a call returns fits the connection behind it,
the first call that closes the connection gives up its stream, and from then on it is closed and every call is refused.
Whatever the client of an exchange does, its connection has had such calls. -/
theorem run_fits (site : Site) :
    (∀ calls call,
      let before := run site calls
      let after := before.call site call
      (∀ step, after.1 = .step step → Fits step after.2) ∧
        (call = .close → (after.1 = .close true ↔ .close ∉ calls)) ∧
        (.close ∈ calls → before.state = .closed ∧ after.2.state = .closed ∧ after.1 = call.refusal)) ∧
      ∀ actions, ∃ calls, (Exchange.acts { site := site } actions).connection = run site calls := by
  refine ⟨fun calls call => ⟨fun step hs => fits_of_call (sound_run site calls) hs, ?_, ?_⟩,
    Exchange.exists_calls { site := site }⟩
  · rintro rfl
    rw [← isOpen_run_iff site calls]
    exact ⟨fun h => Reply.close.inj h, fun h => congrArg Reply.close h⟩
  · intro hmem
    have hclosed : (run site calls).isOpen = false := by
      rw [← Bool.not_eq_true, isOpen_run_iff]
      exact not_not_intro hmem
    obtain ⟨hreply, hstays⟩ := @call_of_closed site _ (sound_run site calls) hclosed call
    exact ⟨state_of_closed hclosed, state_of_closed hstays, hreply⟩

end Connection

end StaticServer
