import StaticServer.Proofs.Holding

/-!
# How sessions are handed over

What each step of the threads and the poller can do, and what a thread that is handed a session may rely on: the event
is for this session, and its watch rests with the interest that the event answers.

* `ThreadService.Stepped`: what each step can do, and when; `ThreadService.stepped_of_step` says that this is all.
* `ThreadService.Ready`: whoever has a session knows what its watch was armed for.
* `ThreadService.Kept.session?_of_report`: a reported session is found in the table.
-/

namespace StaticServer

/-- The turn that a thread is at work on. -/
def SessionWork.turn? : SessionWork → Option Turn
  | turn t => some t
  | _ => none

namespace JobQueue

variable {α : Type} {q : JobQueue α}

theorem push_of_room (h : q.isFull = false) (item : α) :
    q.push item = .ok { q with items := q.items ++ [item], units := q.units + 1 } := by
  simp [push, enqueue?, h, post]

theorem push_of_isFull (h : q.isFull = true) (item : α) : q.push item = .error item := by
  simp [push, enqueue?, h]

/-- Where each item has its unit, popping takes the first item with its unit. -/
theorem pop?_of_units (h : q.units = q.items.length) :
    q.pop? = match q.items with
      | [] => none
      | item :: rest => some (item, { q with items := rest, units := rest.length }) := by
  rw [pop?, h]
  cases hitems : q.items with
  | nil => rfl
  | cons item rest => simp [pop?.go, dequeue?, hitems]

end JobQueue

namespace ThreadService

variable {s t : ThreadService} {x y : Session}

/-! ## Steps -/

/-- What each step does, and when it is possible. -/
inductive Stepped (s : ThreadService) : Action → ThreadService → Prop
  | refused {descriptor : Nat} (hloop : s.loop = none) (hfree : ∀ y ∈ s.streams, y.descriptor ≠ descriptor)
      (hfull : s.maxSessions ≤ s.table.length) : Stepped s (.accept descriptor) s
  | accepted {descriptor : Nat} {x : Session} (hx : x = { id := s.nextId, descriptor := descriptor })
      (hloop : s.loop = none) (hfree : ∀ y ∈ s.streams, y.descriptor ≠ descriptor)
      (hroom : s.table.length < s.maxSessions) :
      Stepped s (.accept descriptor) { s with
        table := x :: (s.forget descriptor).table
        streams := x :: s.streams
        nextId := s.nextId + 1
        loop := some (.opening x) }
  | watched {x : Session} (hloop : s.loop = some (.opening x)) :
      Stepped s (.watch true) { s with watches := { session := x, interest := .read } :: s.watches, loop := none }
  | unwatched {x : Session} (hloop : s.loop = some (.opening x)) :
      Stepped s (.watch false) { s.forget x.descriptor with loop := some (.closing x) }
  | reported {x : Session} {event : Event} {w : SessionWatch} (hw : s.watch? x = some w) (harmed : w.armed = true)
      (htoken : event.token = x.descriptor) (hfor : event.isFor w.interest = true) :
      Stepped s (.report x event) { s.rest x with reports := s.reports ++ [{ session := x, event := event }] }
  | missed {r : Report} {rest : List Report} (hloop : s.loop = none) (hreports : s.reports = r :: rest)
      (hnone : s.session? r.event.token = none) : Stepped s .handle { s with reports := rest }
  | hungUp {r : Report} {rest : List Report} {x : Session} (hloop : s.loop = none) (hreports : s.reports = r :: rest)
      (hx : s.session? r.event.token = some x) (hup : r.event.hangup = true) :
      Stepped s .handle { s.forget x.descriptor with reports := rest, loop := some (.closing x) }
  | idle {r : Report} {rest : List Report} {x : Session} (hloop : s.loop = none) (hreports : s.reports = r :: rest)
      (hx : s.session? r.event.token = some x) (hup : r.event.hangup = false) (hready : r.event.readiness? = none) :
      Stepped s .handle { s with reports := rest }
  | handled {r : Report} {rest : List Report} {x : Session} {ready : Readiness} (hloop : s.loop = none)
      (hreports : s.reports = r :: rest) (hx : s.session? r.event.token = some x) (hup : r.event.hangup = false)
      (hready : r.event.readiness? = some ready) :
      Stepped s .handle { s with reports := rest, loop := some (.turn { session := x, ready := ready }) }
  | queued {u : Turn} {armed : Bool} (hloop : s.loop = some (.turn u)) (hroom : s.queue.isFull = false) :
      Stepped s (.append armed) { s with
        queue := { s.queue with items := s.queue.items ++ [u], units := s.queue.units + 1 }
        loop := none }
  | deferred {u : Turn} (hloop : s.loop = some (.turn u)) (hfull : s.queue.isFull = true) :
      Stepped s (.append true) { s.arm u.session u.ready.interest with loop := none }
  | dropped {u : Turn} (hloop : s.loop = some (.turn u)) (hfull : s.queue.isFull = true) :
      Stepped s (.append false) { s.forget u.session.descriptor with loop := some (.closing u.session) }
  | taken {worker : Nat} {u : Turn} {queue : JobQueue Turn} (hworker : s.workers[worker]? = some none)
      (hpop : s.queue.pop? = some (u, queue)) :
      Stepped s (.take worker) ({ s with queue := queue }.setWorker worker (some (.turn u)))
  | rearmed {worker : Nat} {u : Turn} {step : Step} {interest : Interest}
      (hworker : s.workers[worker]? = some (some (.turn u))) (hstep : step.interest? = some interest) :
      Stepped s (.finish worker step true) ((s.arm u.session interest).setWorker worker none)
  | ended {worker : Nat} {u : Turn} {step : Step} {armed : Bool}
      (hworker : s.workers[worker]? = some (some (.turn u))) (hstep : armed = true → step.interest? = none) :
      Stepped s (.finish worker step armed)
        ((s.forget u.session.descriptor).setWorker worker (some (.closing u.session)))
  | released {x : Session} (hloop : s.loop = some (.closing x)) :
      Stepped s .release { s.closeStream x with loop := none }
  | releasedBy {worker : Nat} {x : Session} (hworker : s.workers[worker]? = some (some (.closing x))) :
      Stepped s (.releaseBy worker) ((s.closeStream x).setWorker worker none)

theorem stepped_of_step {action : Action} (h : s.step? action = some t) : Stepped s action t := by
  cases action with
  | accept descriptor =>
    simp only [step?] at h
    split at h
    · cases h
    · rename_i hfree
      simp only [Bool.or_eq_true, not_or, Bool.not_eq_true, Option.isSome_eq_false_iff, Option.isNone_iff_eq_none,
        List.any_eq_false, beq_iff_eq] at hfree
      obtain rfl := Option.some.inj h
      rw [accept]
      split
      · exact .refused hfree.1 hfree.2 ‹_›
      · exact .accepted rfl hfree.1 hfree.2 (Nat.lt_of_not_le ‹_›)
  | watch watched =>
    simp only [step?] at h
    split at h
    · cases watched with
      | true =>
        obtain rfl := Option.some.inj h
        exact .watched ‹_›
      | false =>
        obtain rfl := Option.some.inj h
        exact .unwatched ‹_›
    · cases h
  | report x event =>
    simp only [step?] at h
    split at h
    · split at h
      · rename_i w hw hevent
        obtain rfl := Option.some.inj h
        exact .reported hw hevent.1 hevent.2.1 hevent.2.2
      · cases h
    · cases h
  | handle =>
    simp only [step?] at h
    split at h
    · rename_i hloop hreports
      obtain rfl := Option.some.inj h
      rw [handle]
      split
      · exact .missed hloop hreports ‹_›
      · split
        · exact .hungUp hloop hreports ‹_› ‹_›
        · split
          · exact .idle hloop hreports ‹_› (Bool.not_eq_true _ ▸ ‹¬_›) ‹_›
          · exact .handled hloop hreports ‹_› (Bool.not_eq_true _ ▸ ‹¬_›) ‹_›
    · cases h
  | append armed =>
    cases hloop : s.loop with
    | none => simp [step?, hloop] at h
    | some work =>
      cases work with
      | opening x => simp [step?, hloop] at h
      | closing x => simp [step?, hloop] at h
      | turn u =>
        cases hfull : s.queue.isFull with
        | false =>
          simp only [step?, hloop, JobQueue.push_of_room hfull, Option.some.injEq] at h
          subst h
          exact .queued hloop hfull
        | true =>
          simp only [step?, hloop, JobQueue.push_of_isFull hfull, Option.some.injEq] at h
          subst h
          cases armed with
          | true => exact .deferred hloop hfull
          | false => exact .dropped hloop hfull
  | take worker =>
    simp only [step?] at h
    split at h
    · obtain rfl := Option.some.inj h
      exact .taken ‹_› ‹_›
    · cases h
  | finish worker step armed =>
    simp only [step?] at h
    split at h
    · rename_i u hworker
      obtain rfl := Option.some.inj h
      cases armed with
      | false => cases step.interest? <;> exact .ended hworker nofun
      | true =>
        cases hinterest : step.interest? with
        | none => exact .ended hworker fun _ => hinterest
        | some interest => exact .rearmed hworker hinterest
    · cases h
  | release =>
    simp only [step?] at h
    split at h
    · obtain rfl := Option.some.inj h
      exact .released ‹_›
    · cases h
  | releaseBy worker =>
    simp only [step?] at h
    split at h
    · obtain rfl := Option.some.inj h
      exact .releasedBy ‹_›
    · cases h

/-! ## What whoever has a session knows -/

/-- The turns that are queued, given, or about to be queued. -/
def turns (s : ThreadService) : List Turn :=
  s.loop.toList.filterMap SessionWork.turn? ++ s.queue.items ++ s.workers.filterMap fun work =>
    work.bind SessionWork.turn?

/-- The unfinished turns of a session. -/
def jobs (s : ThreadService) (x : Session) : Nat := s.turns.countP fun u => u.session == x

theorem turn?_eq_some_iff {work : SessionWork} {u : Turn} : work.turn? = some u ↔ work = .turn u := by
  cases work <;> simp [SessionWork.turn?]

theorem mem_turns {u : Turn} :
    u ∈ s.turns ↔ s.loop = some (.turn u) ∨ u ∈ s.queue.items ∨ some (.turn u) ∈ s.workers := by
  have hworkers : (∃ work, work ∈ s.workers ∧ work.bind SessionWork.turn? = some u) ↔ some (.turn u) ∈ s.workers := by
    constructor
    · rintro ⟨work, hwork, hturn⟩
      obtain ⟨w, rfl, hw⟩ := Option.bind_eq_some_iff.mp hturn
      rwa [turn?_eq_some_iff.mp hw] at hwork
    · exact fun hwork => ⟨_, hwork, rfl⟩
  simp [turns, List.mem_filterMap, turn?_eq_some_iff, hworkers]

/-- Armed watches, events and unfinished turns of a session are in different hands. -/
theorem jobs_le (s : ThreadService) (x : Session) : s.armed x + s.reported x + s.jobs x ≤ s.holds x := by
  have hserves : ∀ work : SessionWork, ((work.turn?.map fun u : Turn => u.session == x).getD false) = true →
      work.serves x = true := fun work hwork => by
    cases work <;> simp_all [SessionWork.turn?, SessionWork.serves]
  have hloop : (s.loop.toList.filterMap SessionWork.turn?).countP (fun u => u.session == x) ≤ s.handled x := by
    rw [List.countP_filterMap, handled]
    cases s.loop with
    | none => exact Nat.le_refl _
    | some work =>
      have := hserves work
      cases hturn : (work.turn?.map fun u : Turn => u.session == x).getD false <;> simp_all
  have hworkers : (s.workers.filterMap fun work => work.bind SessionWork.turn?).countP (fun u => u.session == x) ≤
      s.running x := by
    rw [List.countP_filterMap]
    refine List.countP_mono_left fun work _ hwork => ?_
    cases work with
    | none => cases hwork
    | some work => exact hserves work hwork
  rw [jobs, turns, List.countP_append, List.countP_append, holds, queued]
  omega

/-- The watch on a session rests, and its interest when it was armed last has this property. -/
def RestsFor (s : ThreadService) (x : Session) (p : Interest → Prop) : Prop :=
  ∃ w, s.watch? x = some w ∧ w.armed = false ∧ p w.interest

/-- Events and turns fit what the watch on their session was armed for. -/
structure Ready (s : ThreadService) : Prop where
  reports : ∀ r ∈ s.reports, r.event.token = r.session.descriptor ∧
    s.RestsFor r.session fun interest => r.event.isFor interest = true
  turns : ∀ u ∈ s.turns, s.RestsFor u.session (· = u.ready.interest)

theorem watch?_setWatch {f : SessionWatch → SessionWatch} (hf : ∀ w, (f w).session = w.session) (x y : Session) :
    (s.setWatch x f).watch? y = (s.watch? y).map fun w => if x = y then f w else w := by
  rw [watch?, setWatch, List.find?_map, watch?]
  have hpred : (fun w : SessionWatch => w.session == y) ∘ (fun w => if w.session = x then f w else w) =
      fun w => w.session == y := by
    funext w
    by_cases hw : w.session = x <;> simp [hw, hf]
  rw [hpred]
  cases hfind : s.watches.find? fun w => w.session == y with
  | none => rfl
  | some w =>
    have hw : w.session = y := by simpa using List.find?_some hfind
    simp [hw, eq_comm]

theorem watch?_arm_of_ne {interest : Interest} (hxy : x ≠ y) : (s.arm x interest).watch? y = s.watch? y := by
  rw [arm, watch?_setWatch]
  · simp [hxy]
  · exact fun _ => rfl

theorem watch?_arm_self {interest : Interest} {w : SessionWatch} (h : s.watch? x = some w) :
    (s.arm x interest).watch? x = some { w with interest := interest, armed := true } := by
  rw [arm, watch?_setWatch, h]
  · simp
  · exact fun _ => rfl

theorem watch?_closeStream_of_ne (hxy : x ≠ y) : (s.closeStream x).watch? y = s.watch? y := by
  rw [watch?, closeStream, List.find?_filter, watch?]
  congr 1
  funext w
  by_cases hw : w.session = y <;> simp [hw, Ne.symm hxy]

theorem watch?_cons_of_ne {w : SessionWatch} (hxy : w.session ≠ y) :
    ({ s with watches := w :: s.watches } : ThreadService).watch? y = s.watch? y := by
  simp [watch?, hxy]

namespace RestsFor

theorem congr {p : Interest → Prop} (h : s.RestsFor x p) (hwatch : t.watch? x = s.watch? x) : t.RestsFor x p := by
  obtain ⟨w, hw, hrest⟩ := h
  exact ⟨w, hwatch.trans hw, hrest⟩

/-- Letting a watch rest lets no other one be armed. -/
theorem rest {p : Interest → Prop} (h : s.RestsFor y p) (x : Session) : (s.rest x).RestsFor y p := by
  obtain ⟨w, hw, harmed, hp⟩ := h
  refine ⟨if x = y then { w with armed := false } else w, ?_, ?_, ?_⟩
  · rw [ThreadService.rest, watch?_setWatch, hw]
    · rfl
    · exact fun _ => rfl
  · split <;> first | rfl | exact harmed
  · split <;> exact hp

end RestsFor

namespace Ready

theorem start (maxSessions capacity workers : Nat) : (ThreadService.start maxSessions capacity workers).Ready where
  reports := fun r hr => absurd hr List.not_mem_nil
  turns := fun u hu => by
    rcases mem_turns.mp hu with h | h | h
    · cases h
    · exact absurd h List.not_mem_nil
    · have hnone := List.eq_of_mem_replicate h
      cases hnone

/-- Nothing is learnt about watches, and they stay as they are. -/
theorem of_subset (h : s.Ready) (hwatches : t.watches = s.watches) (hreports : ∀ r ∈ t.reports, r ∈ s.reports)
    (hturns : ∀ u ∈ t.turns, u ∈ s.turns) : t.Ready := by
  have hwatch : ∀ y, t.watch? y = s.watch? y := fun y => by rw [watch?, hwatches, watch?]
  refine ⟨fun r hr => ?_, fun u hu => ?_⟩
  · obtain ⟨htoken, hrest⟩ := h.reports r (hreports r hr)
    exact ⟨htoken, hrest.congr (hwatch _)⟩
  · exact (h.turns u (hturns u hu)).congr (hwatch _)

/-- The watch on a session changes that nobody else has. -/
theorem of_apart (h : s.Ready) (x : Session) (hwatch : ∀ y, x ≠ y → t.watch? y = s.watch? y)
    (hapart : t.reported x + t.jobs x = 0) (hreports : ∀ r ∈ t.reports, r ∈ s.reports)
    (hturns : ∀ u ∈ t.turns, u ∈ s.turns) : t.Ready := by
  have hreported : t.reported x = 0 := by omega
  have hjobs : t.jobs x = 0 := by omega
  refine ⟨fun r hr => ?_, fun u hu => ?_⟩
  · have hne : x ≠ r.session := fun heq => by
      rw [reported, List.countP_eq_zero] at hreported
      exact hreported r hr (by simp [heq])
    obtain ⟨htoken, hrest⟩ := h.reports r (hreports r hr)
    exact ⟨htoken, hrest.congr (hwatch _ hne)⟩
  · have hne : x ≠ u.session := fun heq => by
      rw [jobs, List.countP_eq_zero] at hjobs
      exact hjobs u hu (by simp [heq])
    exact (h.turns u (hturns u hu)).congr (hwatch _ hne)

end Ready

/-! ## What a thread that has a session may rely on -/

/-- A session that the loop serves is in the table. -/
theorem Kept.mem_of_loop {work : SessionWork} (h : s.Kept) (hloop : s.loop = some work)
    (hserves : work.serves x = true) : x ∈ s.table := by
  refine h.mem_table_of_holds ?_
  have hhandled : s.handled x = 1 := by simp [handled, hloop, hserves]
  rw [holds]
  omega

/-- A session that a worker serves is in the table. -/
theorem Kept.mem_of_worker {worker : Nat} {work : SessionWork} (h : s.Kept)
    (hworker : s.workers[worker]? = some (some work)) (hserves : work.serves x = true) : x ∈ s.table := by
  refine h.mem_table_of_holds ?_
  have hrunning : 0 < s.running x :=
    List.countP_pos_iff.mpr ⟨some work, List.mem_of_getElem? hworker, hserves⟩
  rw [holds]
  omega

/-- A reported session is in the table, and found by the token of its event. -/
theorem Kept.session?_of_report {r : Report} (h : s.Kept) (hready : s.Ready) (hr : r ∈ s.reports) :
    s.session? r.event.token = some r.session := by
  have hreported : 0 < s.reported r.session := List.countP_pos_iff.mpr ⟨r, hr, beq_self_eq_true _⟩
  have hmem : r.session ∈ s.table := h.mem_table_of_holds (by rw [holds]; omega)
  rw [(hready.reports r hr).1, h.session?_eq hmem]

/-- An event that is no hang-up says what its session can do, and that fits what its watch was armed for. -/
theorem readiness?_of_isFor {event : Event} {interest : Interest} (h : event.isFor interest = true) :
    (event.readiness? = none → event.hangup = true) ∧
      ∀ ready, event.readiness? = some ready → interest = ready.interest := by
  cases hr : event.readable <;> cases hw : event.writable <;> cases interest <;>
    simp_all [Event.isFor, Event.readiness?, Readiness.interest]

end ThreadService

end StaticServer
