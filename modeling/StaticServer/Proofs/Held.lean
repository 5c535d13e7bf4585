import StaticServer.Proofs.Handover

/-!
# A session is in one hand at a time

Every step of the threads and the poller hands at most one session on. So in every state that can be reached, a session
of the table is in exactly one hand, and a session whose stream has been closed comes into none again.

* `ThreadService.kept_step`, `ThreadService.ready_step`: every step keeps the invariants.
* `ThreadService.Gone`: a session whose stream has been closed, which stays so.
* `ThreadService.run_holds_once`: what holds of every service that a run leads to.
-/

namespace StaticServer

namespace ThreadService

variable {s t : ThreadService} {x y : Session}

/-! ## Hands change one at a time -/

/-- The loop takes its session out of the table, and is about to close the stream. -/
theorem Kept.drop {work : SessionWork} (h : s.Kept) (hloop : s.loop = some work)
    (hserves : ∀ y, (work.serves y).toNat = if x = y then 1 else 0) (hcloses : ∀ y, work.closes y = false) :
    Kept { s.forget x.descriptor with loop := some (.closing x) } := by
  have hx : x ∈ s.table := h.mem_of_loop hloop (by simpa using hserves x)
  refine h.leave hx ?_ ?_ (fun _ => rfl) ?_ rfl rfl rfl rfl rfl
  · intro y
    show s.armed y + (s.reported y + 0) + s.queued y + s.running y + _ = _
    rw [holds, handled_of_loop hloop, hserves]
    omega
  · intro y
    have hclosings := closings_setLoop s (some (.closing x)) y
    rw [hloop, Option.any_some, Option.any_some, hcloses, SessionWork.toNat_closes_closing] at hclosings
    exact hclosings
  · intro y hxy
    have hopens := work.toNat_opens_le_serves y
    rw [hserves, if_neg hxy] at hopens
    rw [openings_of_loop hloop]
    exact (Nat.le_zero.mp hopens).symm

/-- The watch on a session that rests is armed, and whoever had the session has let it go. -/
theorem Kept.rearm {interest : Interest} (h : s.Kept) (hx : x ∈ s.table) (harmed : s.armed x = 0)
    (hopenings : s.openings x = 0) (hwatches : t.watches = (s.arm x interest).watches)
    (hreported : t.reports = s.reports) (hheld : ∀ y, t.handled y + t.queued y + t.running y +
      (if x = y then 1 else 0) = s.handled y + s.queued y + s.running y)
    (hclosings : ∀ y, t.closings y = s.closings y) (hopen : ∀ y, t.openings y = s.openings y)
    (htable : t.table = s.table) (hstreams : t.streams = s.streams) (hid : t.nextId = s.nextId)
    (hmax : t.maxSessions = s.maxSessions) (hqueue : t.queue = s.queue) : t.Kept := by
  refine h.move ?_ hclosings ?_ htable hstreams hid hmax (hqueue ▸ h.units_eq)
  · intro y
    have harm : t.armed y = s.armed y + if x = y then 1 else 0 := by
      rw [← h.armed_arm_eq hx harmed hopenings interest y, armed, hwatches, armed]
    have hsum := hheld y
    rw [holds, holds, harm, reported, hreported, ← reported]
    omega
  · intro y
    rw [watched, hwatches, ← watched, watched_arm, hopen]

theorem armed_pos {w : SessionWatch} (hw : s.watch? x = some w) (harmed : w.armed = true) : 0 < s.armed x := by
  have hx : w.session = x := by simpa using List.find?_some hw
  exact List.countP_pos_iff.mpr ⟨w, List.mem_of_find?_eq_some hw, by simp [hx, harmed]⟩

/-- The loop accepts a connection. -/
theorem Kept.accept {descriptor : Nat} (h : s.Kept) (hx : x = { id := s.nextId, descriptor := descriptor })
    (hloop : s.loop = none) (hfree : ∀ y ∈ s.streams, y.descriptor ≠ descriptor)
    (hroom : s.table.length < s.maxSessions) :
    Kept { s with
      table := x :: (s.forget descriptor).table
      streams := x :: s.streams
      nextId := s.nextId + 1
      loop := some (.opening x) } := by
  have htable : (s.forget descriptor).table = s.table := by
    rw [forget, List.filter_eq_self]
    exact fun y hy => by simpa using hfree y (h.mem_streams hy)
  refine h.enter hx hfree hroom ?_ ?_ (fun _ => rfl) (fun _ => SessionWork.toNat_opens_opening)
    (openings_of_idle hloop) (congrArg (x :: ·) htable) rfl rfl rfl rfl
  · intro y
    show s.armed y + (s.reported y + ((SessionWork.opening x).serves y).toNat) + s.queued y + s.running y = _
    rw [SessionWork.toNat_serves_opening, holds, handled_of_idle hloop]
    omega
  · intro y
    have hclosings := closings_setLoop s (some (.opening x)) y
    rwa [hloop] at hclosings

/-- The loop watches the stream of a connection. -/
theorem Kept.watch (h : s.Kept) (hloop : s.loop = some (.opening x)) :
    Kept { s with watches := { session := x, interest := .read } :: s.watches, loop := none } := by
  refine h.move ?_ ?_ ?_ rfl rfl rfl rfl h.units_eq
  · intro y
    show List.countP _ (_ :: s.watches) + (s.reported y + 0) + s.queued y + s.running y = _
    rw [List.countP_cons, holds, handled_of_loop hloop, SessionWork.toNat_serves_opening, armed]
    simp only [Bool.and_true, beq_iff_eq]
    omega
  · intro y
    have hclosings := closings_setLoop s none y
    rwa [hloop] at hclosings
  · intro y
    show List.countP _ (_ :: s.watches) + 0 = _
    rw [List.countP_cons, openings_of_loop hloop, SessionWork.toNat_opens_opening, watched]
    simp only [beq_iff_eq]
    omega

/-- An armed watch is reported to the loop. -/
theorem Kept.report {w : SessionWatch} (h : s.Kept) (hw : s.watch? x = some w) (harmed : w.armed = true)
    (event : Event) : Kept { s.rest x with reports := s.reports ++ [{ session := x, event := event }] } := by
  refine h.move ?_ (fun _ => rfl) (fun y => congrArg (· + s.openings y) watched_rest) rfl rfl rfl rfl h.units_eq
  intro y
  have hpos := armed_pos hw harmed
  have hle := h.holds_le x
  rw [holds, reported] at hle
  show (s.rest x).armed y + (List.countP _ (s.reports ++ [_]) + s.handled y) + s.queued y + s.running y = _
  rw [armed_rest, List.countP_append, List.countP_singleton, holds, reported]
  simp only [beq_iff_eq]
  by_cases hxy : x = y
  · rw [if_pos hxy, if_pos hxy, ← hxy]
    omega
  · rw [if_neg hxy, if_neg hxy]
    omega

/-- The first event is handled, or about to be. -/
theorem reported_of_cons {r : Report} {rest : List Report} (h : s.reports = r :: rest) (y : Session) :
    ({ s with reports := rest } : ThreadService).reported y + (if r.session = y then 1 else 0) = s.reported y := by
  rw [reported, reported, h, List.countP_cons]
  simp

/-- A hang-up makes the loop take the session out of the table. -/
theorem Kept.hangUp {r : Report} {rest : List Report} (h : s.Kept) (hloop : s.loop = none)
    (hreports : s.reports = r :: rest) (hx : r.session ∈ s.table) :
    Kept { s.forget r.session.descriptor with reports := rest, loop := some (.closing r.session) } := by
  refine h.leave hx ?_ ?_ (fun _ => rfl) (fun y _ => (openings_of_idle hloop y).symm) rfl rfl rfl rfl rfl
  · intro y
    show s.armed y + (ThreadService.reported { s with reports := rest } y + 0) + s.queued y + s.running y + _ = _
    rw [holds, handled_of_idle hloop, ← reported_of_cons hreports]
    omega
  · intro y
    have hclosings := closings_setLoop s (some (.closing r.session)) y
    rwa [hloop, Option.any_some, SessionWork.toNat_closes_closing] at hclosings

/-- The loop is about to queue a session that was reported. -/
theorem Kept.handle {r : Report} {rest : List Report} {u : Turn} (h : s.Kept) (hloop : s.loop = none)
    (hreports : s.reports = r :: rest) (hu : u.session = r.session) :
    Kept { s with reports := rest, loop := some (.turn u) } := by
  refine h.move ?_ ?_ (fun y => congrArg (s.watched y + ·) (openings_of_idle hloop y).symm) rfl rfl rfl rfl
    h.units_eq
  · intro y
    show s.armed y + (ThreadService.reported { s with reports := rest } y + ((SessionWork.turn u).serves y).toNat) +
      s.queued y + s.running y = _
    rw [SessionWork.toNat_serves_turn, hu, holds, handled_of_idle hloop, ← reported_of_cons hreports]
    omega
  · intro y
    have hclosings := closings_setLoop s (some (.turn u)) y
    rwa [hloop] at hclosings

/-- The loop queues its session. -/
theorem Kept.push {u : Turn} (h : s.Kept) (hloop : s.loop = some (.turn u)) :
    Kept { s with
      queue := { s.queue with items := s.queue.items ++ [u], units := s.queue.units + 1 }
      loop := none } := by
  refine h.move ?_ ?_ (fun y => congrArg (s.watched y + ·) (openings_of_loop hloop y).symm) rfl rfl rfl rfl ?_
  · intro y
    show s.armed y + (s.reported y + 0) + List.countP _ (s.queue.items ++ [u]) + s.running y = _
    rw [List.countP_append, List.countP_singleton, holds, handled_of_loop hloop, SessionWork.toNat_serves_turn, queued]
    simp only [beq_iff_eq]
    omega
  · intro y
    have hclosings := closings_setLoop s none y
    rwa [hloop] at hclosings
  · show s.queue.units + 1 = (s.queue.items ++ [u]).length
    rw [List.length_append, h.units_eq]
    rfl

/-- The loop leaves its session armed. -/
theorem Kept.defer {u : Turn} (h : s.Kept) (hloop : s.loop = some (.turn u)) (interest : Interest) :
    Kept { s.arm u.session interest with loop := none } := by
  have hx : u.session ∈ s.table := h.mem_of_loop hloop (by simp [SessionWork.serves])
  have hhandled : ∀ y, s.handled y = if u.session = y then 1 else 0 := fun y => by
    rw [handled_of_loop hloop, SessionWork.toNat_serves_turn]
  have hopen : ∀ y, s.openings y = 0 := openings_of_loop hloop
  have hone := h.holds_le u.session
  rw [holds, hhandled, if_pos rfl] at hone
  refine h.rearm hx (by omega) (hopen _) rfl rfl ?_ ?_ (fun y => (hopen y).symm) rfl rfl rfl rfl rfl
  · intro y
    show 0 + s.queued y + s.running y + _ = _
    rw [hhandled]
    omega
  · intro y
    have hclosings := closings_setLoop s none y
    rwa [hloop] at hclosings

/-- A worker takes a session from the queue. -/
theorem Kept.take {worker : Nat} {u : Turn} {rest : List Turn} (h : s.Kept) (hworker : s.workers[worker]? = some none)
    (hitems : s.queue.items = u :: rest) :
    Kept ({ s with queue := { s.queue with items := rest, units := rest.length } }.setWorker worker
      (some (.turn u))) := by
  refine h.move ?_ (closings_setWorker hworker (some (.turn u))) (fun _ => rfl) rfl rfl rfl rfl rfl
  intro y
  have hrunning := running_setWorker hworker (some (.turn u)) y
  rw [Option.any_some, SessionWork.toNat_serves_turn, Option.any_none, Bool.toNat_false] at hrunning
  show s.armed y + (s.reported y + s.handled y) + List.countP _ rest +
    (s.setWorker worker (some (.turn u))).running y = _
  rw [holds, queued, hitems, List.countP_cons]
  simp only [beq_iff_eq]
  omega

/-- A worker leaves its session armed. -/
theorem Kept.finish {worker : Nat} {u : Turn} (h : s.Kept) (hworker : s.workers[worker]? = some (some (.turn u)))
    (interest : Interest) : Kept ((s.arm u.session interest).setWorker worker none) := by
  have hx : u.session ∈ s.table := h.mem_of_worker hworker (by simp [SessionWork.serves])
  have hrunning : ∀ y, (s.setWorker worker none).running y + (if u.session = y then 1 else 0) = s.running y :=
    fun y => by
      have hsum := running_setWorker hworker none y
      rwa [Option.any_some, SessionWork.toNat_serves_turn] at hsum
  have hone := h.holds_le u.session
  have hopen := openings_le_handled s u.session
  have hself := hrunning u.session
  rw [holds] at hone
  rw [if_pos rfl] at hself
  refine h.rearm hx (by omega) (by omega) rfl rfl ?_ (closings_setWorker hworker none) (fun _ => rfl) rfl rfl rfl rfl
    rfl
  intro y
  show s.handled y + s.queued y + (s.setWorker worker none).running y + _ = _
  rw [← hrunning y]
  omega

/-- A worker takes its session out of the table, and is about to close the stream. -/
theorem Kept.dropBy {worker : Nat} {u : Turn} (h : s.Kept) (hworker : s.workers[worker]? = some (some (.turn u))) :
    Kept ((s.forget u.session.descriptor).setWorker worker (some (.closing u.session))) := by
  have hx : u.session ∈ s.table := h.mem_of_worker hworker (by simp [SessionWork.serves])
  refine h.leave hx ?_ ?_ (fun _ => rfl) (fun _ _ => rfl) rfl rfl rfl rfl rfl
  · intro y
    have hrunning := running_setWorker hworker (some (.closing u.session)) y
    rw [Option.any_some, SessionWork.toNat_serves_turn] at hrunning
    show s.armed y + (s.reported y + s.handled y) + s.queued y +
      (s.setWorker worker (some (.closing u.session))).running y + _ = _
    rw [Nat.add_assoc, hrunning]
    rfl
  · intro y
    have hclosings := closings_setWorker hworker (some (.closing u.session)) y
    rwa [Option.any_some, Option.any_some, SessionWork.toNat_closes_closing] at hclosings

/-- The loop closes a stream. -/
theorem Kept.closed (h : s.Kept) (hloop : s.loop = some (.closing x)) :
    Kept { s.closeStream x with loop := none } := by
  have hclosings : ∀ y, ({ s with loop := none } : ThreadService).closings y + (if x = y then 1 else 0) =
      s.closings y := fun y => by
    have hsum := closings_setLoop s none y
    rwa [hloop, Option.any_some, SessionWork.toNat_closes_closing] at hsum
  refine h.release (closings_pos_of_loop hloop) ?_ hclosings rfl (fun y => (openings_of_loop hloop y).symm) rfl rfl rfl
    rfl rfl
  intro y
  show (s.closeStream x).armed y + (s.reported y + 0) + s.queued y + s.running y =
    (s.closeStream x).armed y + (s.reported y + s.handled y) + s.queued y + s.running y
  rw [handled_of_loop hloop]
  rfl

/-- A worker closes a stream. -/
theorem Kept.closedBy {worker : Nat} (h : s.Kept) (hworker : s.workers[worker]? = some (some (.closing x))) :
    Kept ((s.closeStream x).setWorker worker none) := by
  have hclosings : ∀ y, (s.setWorker worker none).closings y + (if x = y then 1 else 0) = s.closings y := fun y => by
    have hsum := closings_setWorker hworker none y
    rwa [Option.any_some, SessionWork.toNat_closes_closing] at hsum
  refine h.release (closings_pos_of_worker hworker) ?_ hclosings rfl (fun _ => rfl) rfl rfl rfl rfl rfl
  intro y
  have hrunning : (s.setWorker worker none).running y = s.running y := running_setWorker hworker none y
  show (s.closeStream x).armed y + (s.reported y + s.handled y) + s.queued y + (s.setWorker worker none).running y =
    (s.closeStream x).armed y + (s.reported y + s.handled y) + s.queued y + s.running y
  rw [hrunning]

/-! ## Every step keeps the invariants -/

theorem session_of_report {r : Report} {rest : List Report} (h : s.Kept) (hready : s.Ready)
    (hreports : s.reports = r :: rest) (hx : s.session? r.event.token = some x) : r.session = x :=
  Option.some.inj ((h.session?_of_report hready (hreports ▸ List.mem_cons_self)).symm.trans hx)

theorem kept_step {action : Action} (h : s.Kept) (hready : s.Ready) (hstep : Stepped s action t) : t.Kept := by
  cases hstep with
  | refused => exact h
  | accepted hx hloop hfree hroom => exact h.accept hx hloop hfree hroom
  | watched hloop => exact h.watch hloop
  | unwatched hloop => exact h.drop hloop (fun _ => SessionWork.toNat_serves_opening) (fun _ => rfl)
  | reported hw harmed htoken hfor => exact h.report hw harmed _
  | missed hloop hreports hnone =>
    -- A reported session stays in the table until its event has been handled.
    rw [h.session?_of_report hready (hreports ▸ List.mem_cons_self)] at hnone
    cases hnone
  | hungUp hloop hreports hx hup =>
    obtain rfl := session_of_report h hready hreports hx
    exact h.hangUp hloop hreports (List.mem_of_find?_eq_some hx)
  | idle hloop hreports hx hup hnone =>
    -- Only an event that is for the interest of the watch is reported.
    obtain ⟨-, w, -, -, hfor⟩ := hready.reports _ (hreports ▸ List.mem_cons_self)
    rw [(readiness?_of_isFor hfor).1 hnone] at hup
    cases hup
  | handled hloop hreports hx hup hr =>
    obtain rfl := session_of_report h hready hreports hx
    exact h.handle hloop hreports rfl
  | queued hloop hroom => exact h.push hloop
  | deferred hloop hfull => exact h.defer hloop _
  | dropped hloop hfull => exact h.drop hloop (fun _ => SessionWork.toNat_serves_turn) (fun _ => rfl)
  | taken hworker hpop =>
    rw [JobQueue.pop?_of_units h.units_eq] at hpop
    split at hpop
    · cases hpop
    · obtain ⟨rfl, rfl⟩ := Prod.mk.inj (Option.some.inj hpop)
      exact h.take hworker ‹_›
  | rearmed hworker hinterest => exact h.finish hworker _
  | ended hworker hend => exact h.dropBy hworker
  | released hloop => exact h.closed hloop
  | releasedBy hworker => exact h.closedBy hworker

/-- The loop takes up work that is no turn. -/
theorem mem_turns_of_loop {u : Turn} (hloop : ∀ u, t.loop ≠ some (.turn u)) (hqueue : t.queue = s.queue)
    (hworkers : t.workers = s.workers) (hu : u ∈ t.turns) : u ∈ s.turns := by
  rcases mem_turns.mp hu with h | h | h
  · exact absurd h (hloop u)
  · exact mem_turns.mpr (.inr (.inl (hqueue ▸ h)))
  · exact mem_turns.mpr (.inr (.inr (hworkers ▸ h)))

/-- A worker takes up work that is no turn. -/
theorem mem_turns_of_setWorker {worker : Nat} {new : Option SessionWork} {u : Turn} (hnew : ∀ u, new ≠ some (.turn u))
    (hu : u ∈ (s.setWorker worker new).turns) : u ∈ s.turns := by
  rcases mem_turns.mp hu with h | h | h
  · exact mem_turns.mpr (.inl h)
  · exact mem_turns.mpr (.inr (.inl h))
  · rcases List.mem_or_eq_of_mem_set h with h | h
    · exact mem_turns.mpr (.inr (.inr h))
    · exact absurd h.symm (hnew u)

/-- The watch on a session is armed, so nobody else has that session. -/
theorem Ready.of_armed {w : SessionWatch} (h : s.Ready) (ht : t.Kept) (hw : t.watch? x = some w)
    (harmed : w.armed = true) (hwatch : ∀ y, x ≠ y → t.watch? y = s.watch? y) (hreports : t.reports = s.reports)
    (hturns : ∀ u ∈ t.turns, u ∈ s.turns) : t.Ready := by
  have hpos := armed_pos hw harmed
  have hone := ht.holds_le x
  have hjobs := jobs_le t x
  exact h.of_apart x hwatch (by omega) (fun r hr => hreports ▸ hr) hturns

/-- The stream of a session is closed, so nobody has that session. -/
theorem Ready.of_closed (h : s.Ready) (ht : t.Kept) (hx : x ∉ t.table)
    (hwatches : t.watches = (s.closeStream x).watches) (hreports : t.reports = s.reports)
    (hturns : ∀ u ∈ t.turns, u ∈ s.turns) : t.Ready := by
  have hzero : t.holds x = 0 := by rw [ht.holds_eq, List.count_eq_zero.mpr hx]
  have hjobs := jobs_le t x
  refine h.of_apart x (fun y hxy => ?_) (by omega) (fun r hr => hreports ▸ hr) hturns
  have hwatch : t.watch? y = (s.closeStream x).watch? y := by rw [watch?, hwatches, ← watch?]
  exact hwatch.trans (watch?_closeStream_of_ne hxy)

/-- A watch is reported, and whoever handles the event finds that it rests. -/
theorem Ready.report {w : SessionWatch} {event : Event} (h : s.Ready) (hw : s.watch? x = some w)
    (htoken : event.token = x.descriptor) (hfor : event.isFor w.interest = true) :
    Ready { s.rest x with reports := s.reports ++ [{ session := x, event := event }] } where
  reports := fun r hr => by
    rcases List.mem_append.mp hr with hold | hnew
    · obtain ⟨hdescriptor, hrest⟩ := h.reports r hold
      exact ⟨hdescriptor, hrest.rest x⟩
    · obtain rfl := List.mem_singleton.mp hnew
      refine ⟨htoken, { w with armed := false }, ?_, rfl, hfor⟩
      show (s.rest x).watch? x = _
      rw [rest, watch?_setWatch, hw]
      · simp
      · exact fun _ => rfl
  turns := fun u hu => (h.turns u hu).rest x

/-- The readiness of a turn is that of the event, which its watch was armed for. -/
theorem Ready.handle {r : Report} {rest : List Report} {u : Turn} (h : s.Ready) (hreports : s.reports = r :: rest)
    (hu : u.session = r.session) (hready : r.event.readiness? = some u.ready) :
    Ready { s with reports := rest, loop := some (.turn u) } where
  reports := fun r hr => h.reports r (hreports ▸ List.mem_cons_of_mem _ hr)
  turns := fun v hv => by
    rcases mem_turns.mp hv with hloop | hqueue | hworker
    · obtain rfl : u = v := by simpa using hloop
      obtain ⟨-, w, hw, harmed, hfor⟩ := h.reports r (hreports ▸ List.mem_cons_self)
      rw [← hu] at hw
      exact ⟨w, hw, harmed, (readiness?_of_isFor hfor).2 _ hready⟩
    · exact h.turns v (mem_turns.mpr (.inr (.inl hqueue)))
    · exact h.turns v (mem_turns.mpr (.inr (.inr hworker)))

theorem ready_step {action : Action} (h : s.Kept) (ht : t.Kept) (hready : s.Ready) (hstep : Stepped s action t) :
    t.Ready := by
  cases hstep with
  | refused => exact hready
  | accepted hx hloop hfree hroom =>
    exact hready.of_subset rfl (fun _ hr => hr) fun _ => mem_turns_of_loop (fun _ => by rintro ⟨⟩) rfl rfl
  | @watched x hloop =>
    refine hready.of_armed ht (x := x) (w := { session := x, interest := .read }) ?_ rfl ?_ rfl fun _ =>
      mem_turns_of_loop (fun _ => by rintro ⟨⟩) rfl rfl
    · simp [watch?]
    · exact fun y hxy => watch?_cons_of_ne (s := s) (w := { session := x, interest := .read }) hxy
  | unwatched hloop =>
    exact hready.of_subset rfl (fun _ hr => hr) fun _ => mem_turns_of_loop (fun _ => by rintro ⟨⟩) rfl rfl
  | reported hw harmed htoken hfor => exact hready.report hw htoken hfor
  | missed hloop hreports hnone =>
    exact hready.of_subset rfl (fun _ hr => hreports ▸ List.mem_cons_of_mem _ hr) fun _ hu => hu
  | hungUp hloop hreports hx hup =>
    exact hready.of_subset rfl (fun _ hr => hreports ▸ List.mem_cons_of_mem _ hr) fun _ =>
      mem_turns_of_loop (fun _ => by rintro ⟨⟩) rfl rfl
  | idle hloop hreports hx hup hnone =>
    exact hready.of_subset rfl (fun _ hr => hreports ▸ List.mem_cons_of_mem _ hr) fun _ hu => hu
  | handled hloop hreports hx hup hr =>
    obtain rfl := session_of_report h hready hreports hx
    exact hready.handle hreports rfl hr
  | queued hloop hroom =>
    refine hready.of_subset rfl (fun _ hr => hr) fun v hv => ?_
    rcases mem_turns.mp hv with hv | hv | hv
    · cases hv
    · rcases List.mem_append.mp hv with hv | hv
      · exact mem_turns.mpr (.inr (.inl hv))
      · obtain rfl := List.mem_singleton.mp hv
        exact mem_turns.mpr (.inl hloop)
    · exact mem_turns.mpr (.inr (.inr hv))
  | deferred hloop hfull =>
    obtain ⟨w, hw, -, -⟩ := hready.turns _ (mem_turns.mpr (.inl hloop))
    exact hready.of_armed ht (watch?_arm_self hw) rfl (fun _ hne => watch?_arm_of_ne hne) rfl fun _ =>
      mem_turns_of_loop (fun _ => by rintro ⟨⟩) rfl rfl
  | dropped hloop hfull =>
    exact hready.of_subset rfl (fun _ hr => hr) fun _ => mem_turns_of_loop (fun _ => by rintro ⟨⟩) rfl rfl
  | taken hworker hpop =>
    rw [JobQueue.pop?_of_units h.units_eq] at hpop
    split at hpop
    · cases hpop
    · rename_i hitems
      obtain ⟨rfl, rfl⟩ := Prod.mk.inj (Option.some.inj hpop)
      refine hready.of_subset rfl (fun _ hr => hr) fun v hv => ?_
      rcases mem_turns.mp hv with hv | hv | hv
      · exact mem_turns.mpr (.inl hv)
      · exact mem_turns.mpr (.inr (.inl (hitems ▸ List.mem_cons_of_mem _ hv)))
      · rcases List.mem_or_eq_of_mem_set hv with hv | hv
        · exact mem_turns.mpr (.inr (.inr hv))
        · obtain rfl := SessionWork.turn.inj (Option.some.inj hv)
          exact mem_turns.mpr (.inr (.inl (hitems ▸ List.mem_cons_self)))
  | rearmed hworker hinterest =>
    obtain ⟨w, hw, -, -⟩ := hready.turns _ (mem_turns.mpr (.inr (.inr (List.mem_of_getElem? hworker))))
    exact hready.of_armed ht (watch?_arm_self hw) rfl (fun _ hne => watch?_arm_of_ne hne) rfl fun _ =>
      mem_turns_of_setWorker (fun _ => by rintro ⟨⟩)
  | ended hworker hend =>
    exact hready.of_subset rfl (fun _ hr => hr) fun _ => mem_turns_of_setWorker (fun _ => by rintro ⟨⟩)
  | released hloop =>
    exact hready.of_closed ht (h.not_mem_of_closings (closings_pos_of_loop hloop)) rfl rfl fun _ =>
      mem_turns_of_loop (fun _ => by rintro ⟨⟩) rfl rfl
  | releasedBy hworker =>
    exact hready.of_closed ht (h.not_mem_of_closings (closings_pos_of_worker hworker)) rfl rfl fun _ =>
      mem_turns_of_setWorker (fun _ => by rintro ⟨⟩)

/-! ## Streams that have been closed -/

/-- The stream of this session has been closed. -/
def Gone (s : ThreadService) (x : Session) : Prop := x.id < s.nextId ∧ x ∉ s.streams

/-- A session does not come back: the number of the next one is greater. -/
theorem gone_step {action : Action} (h : s.Gone x) (hstep : Stepped s action t) : t.Gone x := by
  obtain ⟨hid, hx⟩ := h
  cases hstep with
  | accepted hnew =>
    refine ⟨Nat.lt_succ_of_lt hid, fun hmem => ?_⟩
    rcases List.mem_cons.mp hmem with heq | hmem
    · rw [heq, hnew] at hid
      exact Nat.lt_irrefl _ hid
    · exact hx hmem
  | released => exact ⟨hid, fun hmem => hx (List.mem_filter.mp hmem).1⟩
  | releasedBy => exact ⟨hid, fun hmem => hx (List.mem_filter.mp hmem).1⟩
  | _ => exact ⟨hid, hx⟩

/-- A step that closes the stream of a session, which ends its close. -/
inductive Closes (s : ThreadService) (x : Session) : Action → Prop
  | byLoop (hloop : s.loop = some (.closing x)) : Closes s x .release
  | byWorker {worker : Nat} (hworker : s.workers[worker]? = some (some (.closing x))) : Closes s x (.releaseBy worker)

theorem Kept.gone_of_closes {action : Action} (h : s.Kept) (hcloses : s.Closes x action) :
    ∃ t, s.step? action = some t ∧ t.Gone x := by
  have hid : 0 < s.closings x → x.id < s.nextId := fun hpos => by
    have hstreams := h.streams_eq x
    exact h.fresh x (List.count_pos_iff.mp (by omega))
  cases hcloses with
  | byLoop hloop =>
    refine ⟨{ s.closeStream x with loop := none }, by simp only [step?, hloop], hid (closings_pos_of_loop hloop), ?_⟩
    simp [closeStream]
  | @byWorker worker hworker =>
    refine ⟨(s.closeStream x).setWorker worker none, by simp only [step?, hworker],
      hid (closings_pos_of_worker hworker), ?_⟩
    simp [closeStream, setWorker]

/-- Nobody holds, watches or finds a session whose stream has been closed. -/
theorem Kept.gone (h : s.Kept) (hx : s.Gone x) : x ∉ s.table ∧ s.watched x = 0 ∧ s.holds x = 0 := by
  have htable : x ∉ s.table := fun hmem => hx.2 (h.mem_streams hmem)
  exact ⟨htable, h.unwatched x hx.2, (h.holds_eq x).trans (List.count_eq_zero.mpr htable)⟩

/-! ## Services that a run leads to -/

theorem maxSessions_run {actions : List Action} {maxSessions : Nat} (hs : s.maxSessions = maxSessions)
    (h : s.run? actions = some t) : t.maxSessions = maxSessions :=
  List.foldlM_option_induction (motive := fun s => s.maxSessions = maxSessions)
    (fun _ _ _ hmax hstep => by cases stepped_of_step hstep <;> exact hmax) hs h

/-- Every run keeps the invariants. -/
theorem kept_run {actions : List Action} (hs : s.Kept ∧ s.Ready) (h : s.run? actions = some t) : t.Kept ∧ t.Ready :=
  List.foldlM_option_induction (motive := fun s => s.Kept ∧ s.Ready)
    (fun _ _ _ ⟨hkept, hready⟩ hstep =>
      have hstepped := stepped_of_step hstep
      have ht := kept_step hkept hready hstepped
      ⟨ht, ready_step hkept ht hready hstepped⟩) hs h

theorem gone_run {actions : List Action} (hs : s.Gone x) (h : s.run? actions = some t) : t.Gone x :=
  List.foldlM_option_induction (motive := fun s => s.Gone x)
    (fun _ _ _ hgone hstep => gone_step hgone (stepped_of_step hstep)) hs h

/-- A full queue leaves the session armed for what it was armed for before. -/
theorem Ready.armed_of_isFull {u : Turn} (h : s.Ready) (hloop : s.loop = some (.turn u))
    (hfull : s.queue.isFull = true) :
    ∃ w t, s.watch? u.session = some w ∧ w.armed = false ∧ s.step? (.append true) = some t ∧
      t.queue = s.queue ∧ t.table = s.table ∧ t.watch? u.session = some { w with armed := true } := by
  obtain ⟨w, hw, harmed, hinterest⟩ := h.turns u (mem_turns.mpr (.inl hloop))
  refine ⟨w, { s.arm u.session u.ready.interest with loop := none }, hw, harmed, ?_, rfl, rfl, ?_⟩
  · simp only [step?, hloop, JobQueue.push_of_isFull hfull, armOrForget]
  · have hwatch : (s.arm u.session u.ready.interest).watch? u.session = _ := watch?_arm_self hw
    exact hwatch.trans (by rw [← hinterest])

/-- **A session is never run twice at once, and never forgotten.** In every service that a run of steps leads to: a
session of the table is in exactly one hand; no session has two unfinished turns; an open stream whose session is not in
the table is about to be closed by one thread; a session whose stream has been closed is not in the table, not watched
and in no hand, whatever happens then; a full queue leaves the session armed with the interest it had; and the table
holds no more sessions than it may. -/
theorem run_holds_once (maxSessions capacity workers : Nat) {actions : List Action} {s : ThreadService}
    (h : (start maxSessions capacity workers).run? actions = some s) :
    (∀ x ∈ s.table, s.armed x + (s.reported x + s.handled x) + s.queued x + s.running x = 1) ∧
    (∀ x, s.jobs x ≤ 1) ∧
    (∀ x ∈ s.streams, s.table.count x + s.closings x = 1) ∧
    (∀ x action, s.Closes x action → ∃ t, s.step? action = some t ∧
      ∀ later u, t.run? later = some u → x ∉ u.table ∧ u.watched x = 0 ∧ u.holds x = 0) ∧
    (∀ turn, s.loop = some (.turn turn) → s.queue.isFull = true →
      ∃ w t, s.watch? turn.session = some w ∧ w.armed = false ∧ s.step? (.append true) = some t ∧
        t.queue = s.queue ∧ t.table = s.table ∧ t.watch? turn.session = some { w with armed := true }) ∧
    s.table.length ≤ maxSessions := by
  obtain ⟨hkept, hready⟩ := kept_run ⟨Kept.start .., Ready.start ..⟩ h
  refine ⟨fun x => hkept.holds_of_mem, fun x => ?_, fun x hx => ?_, fun x action hcloses => ?_,
    fun turn => hready.armed_of_isFull, ?_⟩
  · have hone := hkept.holds_le x
    have hjobs := jobs_le s x
    omega
  · have hle := hkept.count_streams_le x
    have hpos := List.count_pos_iff.mpr hx
    have hstreams := hkept.streams_eq x
    omega
  · obtain ⟨t, hstep, hgone⟩ := hkept.gone_of_closes hcloses
    refine ⟨t, hstep, fun later u hlater => ?_⟩
    exact (kept_run ⟨hkept, hready⟩ (List.foldlM_option_cons hstep hlater)).1.gone (gone_run hgone hlater)
  · have hlength := hkept.length_le
    rwa [maxSessions_run rfl h] at hlength

/-- One session is being closed by a worker, one is queued, and the loop has one for which the queue has no room. -/
theorem run_holds_once_full :
    ∃ s : ThreadService,
      (start 3 1 1).run? [.accept 5, .watch true, .accept 6, .watch true, .accept 7, .watch true,
        .report ⟨0, 5⟩ ⟨5, true, false, false⟩, .report ⟨1, 6⟩ ⟨6, true, false, false⟩,
        .report ⟨2, 7⟩ ⟨7, true, false, false⟩, .handle, .append true, .take 0, .finish 0 .close true,
        .handle, .append true, .handle] = some s ∧
      s.table = [⟨2, 7⟩, ⟨1, 6⟩] ∧ s.queued ⟨1, 6⟩ = 1 ∧ s.handled ⟨2, 7⟩ = 1 ∧ s.queue.isFull = true ∧
      (∃ t, s.step? (.releaseBy 0) = some t ∧ ⟨0, 5⟩ ∉ t.table ∧ t.watched ⟨0, 5⟩ = 0 ∧ t.holds ⟨0, 5⟩ = 0) ∧
      ∃ w t, s.watch? ⟨2, 7⟩ = some w ∧ s.step? (.append true) = some t ∧
        t.watch? ⟨2, 7⟩ = some { w with armed := true } := by
  have h : (start 3 1 1).run? [.accept 5, .watch true, .accept 6, .watch true, .accept 7, .watch true,
        .report ⟨0, 5⟩ ⟨5, true, false, false⟩, .report ⟨1, 6⟩ ⟨6, true, false, false⟩,
        .report ⟨2, 7⟩ ⟨7, true, false, false⟩, .handle, .append true, .take 0, .finish 0 .close true,
        .handle, .append true, .handle] =
      some { maxSessions := 3
             queue := { capacity := 1, items := [⟨⟨1, 6⟩, .readable⟩], units := 1 }
             workers := [some (.closing ⟨0, 5⟩)]
             loop := some (.turn ⟨⟨2, 7⟩, .readable⟩)
             table := [⟨2, 7⟩, ⟨1, 6⟩]
             streams := [⟨2, 7⟩, ⟨1, 6⟩, ⟨0, 5⟩]
             watches := [⟨⟨2, 7⟩, .read, false⟩, ⟨⟨1, 6⟩, .read, false⟩, ⟨⟨0, 5⟩, .read, false⟩]
             nextId := 3 } := by decide
  obtain ⟨-, -, -, hclosed, hfull, -⟩ := run_holds_once 3 1 1 h
  refine ⟨_, h, rfl, rfl, rfl, rfl, ?_, ?_⟩
  · obtain ⟨t, hstep, hgone⟩ := hclosed ⟨0, 5⟩ (.releaseBy 0) (.byWorker rfl)
    exact ⟨t, hstep, hgone [] t rfl⟩
  · obtain ⟨w, t, hw, -, hstep, -, -, hwatch⟩ := hfull ⟨⟨2, 7⟩, .readable⟩ rfl rfl
    exact ⟨w, t, hw, hstep, hwatch⟩

end ThreadService

end StaticServer
