import StaticServer.Proofs.Counted
import StaticServer.Service.Processes

/-!
# Who attends to waiting connections

A connection that waits is in the charge of the workers that were told since connections have been waiting: each of
them that still runs has a notice to read, or has read one and goes on to accept until nothing waits. The charge ends
with a worker's process, and is not passed on. So connections may be left waiting only if all the workers told have
ended.

* `ProcessService.Busy`: a worker has a notice to read or to act upon.
* `ProcessService.SteppedAt`: what a step does to one worker.
* `ProcessService.Attended`: while connections wait, each worker that was told and runs is busy.
* `ProcessService.run_attended`: what holds of every service that a run leads to.
-/

namespace StaticServer

namespace ProcessService

variable {s t : ProcessService} {w : Worker} {i : Nat}

/-- A worker has a notice to read, or has read one and not acted upon it. -/
def Busy (s : ProcessService) (i : Nat) : Prop :=
  (∃ w, s.worker? i = some w ∧ w.channel.pending ≠ []) ∨ s.activities[i]? ≠ some (.reading 0)

instance : Decidable (s.Busy i) :=
  decidable_of_iff
    ((s.worker? i).any (fun w => !w.channel.pending.isEmpty) = true ∨ s.activities[i]? ≠ some (.reading 0))
    (by simp [Busy, Option.any_eq_true])

theorem isRunning_eq_true_iff :
    s.isRunning i = true ↔ ∃ w pid, s.worker? i = some w ∧ w.pid? = some pid ∧ pid ∈ s.children.running := by
  simp only [isRunning, Option.any_eq_true, Option.bind_eq_some_iff, List.contains_iff_mem]
  constructor
  · rintro ⟨pid, ⟨w, hw, hpid⟩, hmem⟩
    exact ⟨w, pid, hw, hpid, hmem⟩
  · rintro ⟨w, pid, hw, hpid, hmem⟩
    exact ⟨pid, ⟨w, hw, hpid⟩, hmem⟩

/-! ## Steps -/

theorem settle_eq (s : ProcessService) : s.settle = { s with told := if s.backlog = 0 then [] else s.told } := by
  rw [settle]
  split <;> rfl

theorem dispatch_eq (s : ProcessService) :
    s.dispatch = { s with
      coordinator := s.coordinator.dispatch.2
      announced := false
      told := if s.backlog = 0 then [] else s.told ++ s.coordinator.dispatch.1.toList } :=
  settle_eq _

/-- What each step does, and when it is possible. -/
inductive Stepped (s : ProcessService) : Action → ProcessService → Prop
  | arrived : Stepped s .arrive { s with backlog := s.backlog + 1, announced := true }
  | dispatched (hannounced : s.announced = true) : Stepped s .dispatch { s with
      coordinator := s.coordinator.dispatch.2
      announced := false
      told := if s.backlog = 0 then [] else s.told ++ s.coordinator.dispatch.1.toList }
  | wentOn {worker counted count : Nat} {w : Worker} {channel : Channel} (hw : s.worker? worker = some w)
      (hactivity : s.activities[worker]? = some (.reading counted))
      (hrunning : s.isRunning worker = true) (hpiece : w.channel.readPiece = (some count, channel)) :
      Stepped s (.read worker) { s.modify worker fun _ => { w with channel := channel } with
        activities := s.activities.set worker (.reading (counted + count)) }
  | concluded {worker counted : Nat} {w : Worker} {channel : Channel} (hw : s.worker? worker = some w)
      (hactivity : s.activities[worker]? = some (.reading counted)) (hrunning : s.isRunning worker = true)
      (hpiece : w.channel.readPiece = (none, channel)) : Stepped s (.read worker) { s with
        activities := s.activities.set worker (if counted = 0 then .reading 0 else .accepting) }
  | rested {worker : Nat} (hactivity : s.activities[worker]? = some .accepting)
      (hrunning : s.isRunning worker = true) (hbacklog : s.backlog = 0) :
      Stepped s (.accept worker) { s with activities := s.activities.set worker (.reading 0) }
  | accepted {worker : Nat} (hactivity : s.activities[worker]? = some .accepting)
      (hrunning : s.isRunning worker = true) (hbacklog : s.backlog ≠ 0) : Stepped s (.accept worker) { s with
        backlog := s.backlog - 1
        told := if s.backlog - 1 = 0 then [] else s.told }
  | ended {worker : Nat} {pid : Int} (hpid : (s.worker? worker).bind Worker.pid? = some pid)
      (hrunning : s.isRunning worker = true) :
      Stepped s (.exit worker) { s.modify worker Worker.dropEnd with children := s.children.finish pid }
  | reaped {pid : Int} (hended : pid ∈ s.children.ended) : Stepped s (.reap pid) { s with
      coordinator := s.coordinator.onChildExit pid
      children := { s.children with ended := s.children.ended.erase pid } }
  | signalled {signal : Signal} : Stepped s (.signal signal) { s with
      coordinator := (s.coordinator.handleSignal s.children signal).1
      children := if signal = .child then (s.coordinator.handleSignal s.children signal).2 else s.children }

theorem step_signal (s : ProcessService) (signal : Signal) :
    s.step? (.signal signal) = some { s with
      coordinator := (s.coordinator.handleSignal s.children signal).1
      children := if signal = .child then (s.coordinator.handleSignal s.children signal).2 else s.children } :=
  rfl

theorem stepped_of_step {action : Action} (h : s.step? action = some t) : Stepped s action t := by
  cases action with
  | arrive =>
    obtain rfl := Option.some.inj h
    exact .arrived
  | dispatch =>
    simp only [step?] at h
    split at h
    · rw [dispatch_eq] at h
      obtain rfl := Option.some.inj h
      exact .dispatched ‹_›
    · cases h
  | read worker =>
    simp only [step?] at h
    split at h
    · split at h
      · obtain rfl := Option.some.inj h
        rw [read]
        split
        · exact .concluded ‹_› ‹_› ‹_› ‹_›
        · exact .wentOn ‹_› ‹_› ‹_› ‹_›
      · cases h
    · cases h
  | accept worker =>
    simp only [step?] at h
    split at h
    · split at h
      · obtain rfl := Option.some.inj h
        rw [accept]
        split
        · exact .rested ‹_› ‹_› ‹_›
        · rw [settle_eq]
          exact .accepted ‹_› ‹_› ‹_›
      · cases h
    · cases h
  | exit worker =>
    simp only [step?] at h
    split at h
    · split at h
      · obtain rfl := Option.some.inj h
        exact .ended ‹_› ‹_›
      · cases h
    · cases h
  | reap pid =>
    simp only [step?] at h
    split at h
    · obtain rfl := Option.some.inj h
      exact .reaped ‹_›
    · cases h
  | signal signal =>
    rw [step_signal] at h
    obtain rfl := Option.some.inj h
    exact .signalled

/-! ## Steps at one place -/

/-- What a step does to the worker at a place. -/
inductive SteppedAt (s t : ProcessService) (i : Nat) : Prop
  | untouched (hworker : t.worker? i = s.worker? i) (hactivity : t.activities[i]? = s.activities[i]?)
  | told (hworker : t.worker? i = (s.worker? i).map Worker.withNotice)
      (hactivity : t.activities[i]? = s.activities[i]?)
  | died (hworker : t.worker? i = (s.worker? i).map Worker.markDead)
  | ended (hworker : t.worker? i = (s.worker? i).map Worker.dropEnd) (hnot : t.isRunning i = false)
  | wentOn {w : Worker} {counted count : Nat} {channel : Channel} (hw : s.worker? i = some w)
      (hpiece : w.channel.readPiece = (some count, channel))
      (hworker : t.worker? i = some { w with channel := channel })
      (hactivity : t.activities[i]? = some (.reading (counted + count)))
  | concluded {w : Worker} {counted : Nat} {channel : Channel} (hw : s.worker? i = some w)
      (hpiece : w.channel.readPiece = (none, channel)) (hworker : t.worker? i = s.worker? i)
      (hold : s.activities[i]? = some (.reading counted))
      (hactivity : t.activities[i]? = some (if counted = 0 then .reading 0 else .accepting))
  | rested (hbacklog : s.backlog = 0) (hworker : t.worker? i = s.worker? i)

theorem worker?_modify (s : ProcessService) (place i : Nat) (f : Worker → Worker) :
    (s.modify place f).worker? i = (s.worker? i).map fun w => if place = i then f w else w :=
  WorkerSet.worker_modify _ place i _

/-- A worker dies, or nothing happens to it. -/
theorem SteppedAt.of_outlived (h : Coordinator.Outlived s.coordinator.workers t.coordinator.workers)
    (hactivities : t.activities = s.activities) (i : Nat) : SteppedAt s t i := by
  rcases h i with hw | hw
  · exact .untouched hw (by rw [hactivities])
  · exact .died hw

theorem isRunning_of_exit {worker : Nat} {pid : Int} (hnodup : s.children.running.Nodup)
    (hpid : (s.worker? worker).bind Worker.pid? = some pid) :
    isRunning { s.modify worker Worker.dropEnd with children := s.children.finish pid } worker = false := by
  have hnot : pid ∉ (s.children.finish pid).running := by
    rw [Children.finish]
    split
    · exact hnodup.not_mem_erase
    · assumption
  obtain ⟨w, hw, hwpid⟩ := Option.bind_eq_some_iff.mp hpid
  rw [Bool.eq_false_iff, ne_eq, isRunning_eq_true_iff]
  rintro ⟨v, other, hv, hother, hmem⟩
  have hdropped : v = w.dropEnd := by
    have hworker := (worker?_modify s worker worker Worker.dropEnd).symm.trans hv
    simpa [hw] using hworker.symm
  obtain rfl : pid = other := by
    rw [hdropped] at hother
    exact Option.some.inj (hwpid.symm.trans hother)
  exact hnot hmem

theorem steppedAt_of_stepped {action : Action} (hnodup : s.children.running.Nodup) (h : Stepped s action t)
    (i : Nat) : SteppedAt s t i := by
  cases h with
  | arrived => exact .untouched rfl rfl
  | dispatched =>
    have hworker := s.coordinator.dispatch_worker i
    by_cases hplace : s.coordinator.dispatch.1 = some i
    · exact .told (hworker.trans (by simp [hplace, worker?])) rfl
    · exact .untouched (hworker.trans (by simp [hplace, worker?])) rfl
  | @wentOn worker counted count w channel hw hactivity hrunning hpiece =>
    have hworker := worker?_modify s worker i fun _ => { w with channel := channel }
    have hlt : worker < s.activities.length := (List.getElem?_eq_some_iff.mp hactivity).1
    by_cases hi : worker = i
    · subst hi
      exact .wentOn hw hpiece (hworker.trans (by simp [hw])) (List.getElem?_set_self hlt)
    · exact .untouched (hworker.trans (by simp [hi])) (List.getElem?_set_ne hi)
  | @concluded worker counted w channel hw hactivity hrunning hpiece =>
    have hlt : worker < s.activities.length := (List.getElem?_eq_some_iff.mp hactivity).1
    by_cases hi : worker = i
    · subst hi
      exact .concluded hw hpiece rfl hactivity (List.getElem?_set_self hlt)
    · exact .untouched rfl (List.getElem?_set_ne hi)
  | @rested worker hactivity hrunning hbacklog =>
    by_cases hi : worker = i
    · exact .rested hbacklog rfl
    · exact .untouched rfl (List.getElem?_set_ne hi)
  | accepted => exact .untouched rfl rfl
  | @ended worker pid hpid hrunning =>
    have hworker := worker?_modify s worker i Worker.dropEnd
    by_cases hi : worker = i
    · subst hi
      exact .ended (hworker.trans (by simp)) (isRunning_of_exit hnodup hpid)
    · exact .untouched (hworker.trans (by simp [hi])) rfl
  | @reaped pid hended =>
    refine .of_outlived ?_ ?_ i
    · exact s.coordinator.outlived_onChildExit pid
    · rfl
  | @signalled signal =>
    refine .of_outlived ?_ ?_ i
    · exact s.coordinator.outlived_handleSignal _ signal
    · rfl

/-! ## The invariant -/

/-- The invariant of a service. -/
structure Attended (s : ProcessService) : Prop where
  nodup : s.children.running.Nodup
  /-- A channel is closed just if its worker is dead, and holds whole notices. -/
  channel : ∀ i w, s.worker? i = some w → w.channel.senderOpen = w.isLive ∧ ∃ n, w.channel.Unread n
  receiverOpen : ∀ i w, s.worker? i = some w → s.isRunning i = true → w.channel.receiverOpen = true
  /-- Nobody is in charge of a backlog that is empty. -/
  told_of_empty : s.backlog = 0 → s.told = []
  /-- Each worker that was told since connections have been waiting is busy while it runs. -/
  busy_of_told : s.coordinator.terminating = false → ∀ i ∈ s.told, s.isRunning i = true → s.Busy i
  /-- If nobody could be told, all workers are busy. -/
  busy_of_untold : s.coordinator.terminating = false → s.backlog ≠ 0 → s.announced = false → s.told = [] →
    ∀ i, s.isRunning i = true → s.Busy i

theorem worker?_start (pids : List Int) (limit : Option Nat) (i : Nat) :
    (start pids limit).worker? i =
      pids[i]?.map fun pid => { index := i, state := .live pid, channel := { limit := limit } } :=
  NoticeFlow.worker?_start pids limit i

theorem attended_start {pids : List Int} (hpids : pids.Nodup) (limit : Option Nat) :
    (start pids limit).Attended where
  nodup := hpids
  channel := fun i w hw => by
    rw [worker?_start] at hw
    obtain ⟨pid, -, rfl⟩ := Option.map_eq_some_iff.mp hw
    exact ⟨rfl, 0, rfl⟩
  receiverOpen := fun i w hw _ => by
    rw [worker?_start] at hw
    obtain ⟨pid, -, rfl⟩ := Option.map_eq_some_iff.mp hw
    rfl
  told_of_empty := fun _ => rfl
  busy_of_told := fun _ i hi => absurd hi List.not_mem_nil
  busy_of_untold := fun _ hbacklog => absurd rfl hbacklog

/-- A worker that runs ran before. -/
theorem SteppedAt.isRunning (h : SteppedAt s t i) (hrunning : ∀ pid ∈ t.children.running, pid ∈ s.children.running)
    (hi : t.isRunning i = true) : s.isRunning i = true := by
  obtain ⟨w, pid, hw, hpid, hmem⟩ := isRunning_eq_true_iff.mp hi
  have hmem := hrunning pid hmem
  rw [isRunning_eq_true_iff]
  cases h with
  | untouched hworker hactivity => exact ⟨w, pid, hworker ▸ hw, hpid, hmem⟩
  | told hworker hactivity =>
    obtain ⟨v, hv, rfl⟩ := Option.map_eq_some_iff.mp (hworker.symm.trans hw)
    exact ⟨v, pid, hv, hpid, hmem⟩
  | died hworker =>
    obtain ⟨v, hv, rfl⟩ := Option.map_eq_some_iff.mp (hworker.symm.trans hw)
    cases hpid
  | ended hworker hnot =>
    rw [hi] at hnot
    cases hnot
  | wentOn hv hpiece hworker hactivity =>
    obtain rfl := Option.some.inj (hworker.symm.trans hw)
    exact ⟨_, pid, hv, hpid, hmem⟩
  | concluded hv hpiece hworker hold hactivity => exact ⟨w, pid, hworker ▸ hw, hpid, hmem⟩
  | rested hbacklog hworker => exact ⟨w, pid, hworker ▸ hw, hpid, hmem⟩

/-- What a step does to a worker keeps its channel in order. -/
theorem SteppedAt.channel (h : SteppedAt s t i)
    (hs : ∀ w, s.worker? i = some w → w.channel.senderOpen = w.isLive ∧ ∃ n, w.channel.Unread n) :
    ∀ w, t.worker? i = some w → w.channel.senderOpen = w.isLive ∧ ∃ n, w.channel.Unread n := by
  intro w hw
  cases h with
  | untouched hworker hactivity => exact hs w (hworker ▸ hw)
  | told hworker hactivity =>
    obtain ⟨v, hv, rfl⟩ := Option.map_eq_some_iff.mp (hworker.symm.trans hw)
    obtain ⟨hsender, n, hn⟩ := hs v hv
    exact ⟨hsender, n + 1, hn.withNotice⟩
  | died hworker =>
    obtain ⟨v, hv, rfl⟩ := Option.map_eq_some_iff.mp (hworker.symm.trans hw)
    exact ⟨rfl, (hs v hv).2⟩
  | ended hworker hnot =>
    obtain ⟨v, hv, rfl⟩ := Option.map_eq_some_iff.mp (hworker.symm.trans hw)
    exact ⟨(hs v hv).1, 0, rfl⟩
  | wentOn hv hpiece hworker hactivity =>
    obtain rfl := Option.some.inj (hworker.symm.trans hw)
    obtain ⟨hsender, n, hn⟩ := hs _ hv
    obtain ⟨-, m, hm, -⟩ := hn.of_readPiece_some hpiece
    refine ⟨?_, m, hm⟩
    rw [Channel.eq_of_readPiece hpiece]
    exact hsender
  | concluded hv hpiece hworker hold hactivity => exact hs w (hworker ▸ hw)
  | rested hbacklog hworker => exact hs w (hworker ▸ hw)

/-- A worker that runs has its end of the channel open. -/
theorem SteppedAt.receiverOpen (h : SteppedAt s t i) (hi : t.isRunning i = true)
    (hs : ∀ w, s.worker? i = some w → w.channel.receiverOpen = true) :
    ∀ w, t.worker? i = some w → w.channel.receiverOpen = true := by
  intro w hw
  cases h with
  | untouched hworker hactivity => exact hs w (hworker ▸ hw)
  | told hworker hactivity =>
    obtain ⟨v, hv, rfl⟩ := Option.map_eq_some_iff.mp (hworker.symm.trans hw)
    exact hs v hv
  | died hworker =>
    obtain ⟨v, hv, rfl⟩ := Option.map_eq_some_iff.mp (hworker.symm.trans hw)
    exact hs v hv
  | ended hworker hnot =>
    rw [hi] at hnot
    cases hnot
  | wentOn hv hpiece hworker hactivity =>
    obtain rfl := Option.some.inj (hworker.symm.trans hw)
    have hopen := hs _ hv
    rw [Channel.eq_of_readPiece hpiece]
    exact hopen
  | concluded hv hpiece hworker hold hactivity => exact hs w (hworker ▸ hw)
  | rested hbacklog hworker => exact hs w (hworker ▸ hw)

/-- A busy worker that still runs is busy, as long as connections wait. -/
theorem SteppedAt.busy (h : SteppedAt s t i) (hi : t.isRunning i = true)
    (hs : ∀ w, s.worker? i = some w → w.channel.senderOpen = w.isLive ∧ ∃ n, w.channel.Unread n)
    (hbacklog : s.backlog ≠ 0) (hbusy : s.Busy i) : t.Busy i := by
  cases h with
  | untouched hworker hactivity =>
    rw [Busy, hworker, hactivity]
    exact hbusy
  | told hworker hactivity =>
    rcases hbusy with ⟨w, hw, hpending⟩ | hother
    · refine .inl ⟨w.withNotice, by rw [hworker, hw]; rfl, ?_⟩
      exact List.append_ne_nil_of_left_ne_nil hpending _
    · rw [← hactivity] at hother
      exact .inr hother
  | died hworker =>
    obtain ⟨w, pid, hw, hpid, -⟩ := isRunning_eq_true_iff.mp hi
    obtain ⟨v, -, rfl⟩ := Option.map_eq_some_iff.mp (hworker.symm.trans hw)
    cases hpid
  | ended hworker hnot =>
    rw [hi] at hnot
    cases hnot
  | wentOn hv hpiece hworker hactivity =>
    obtain ⟨-, n, hn⟩ := hs _ hv
    obtain ⟨hpos, -⟩ := hn.of_readPiece_some hpiece
    refine .inr ?_
    rw [hactivity]
    simp only [ne_eq, Option.some.injEq, WorkerActivity.reading.injEq]
    omega
  | concluded hv hpiece hworker hold hactivity =>
    obtain ⟨-, n, hn⟩ := hs _ hv
    rcases hbusy with ⟨w, hw, hpending⟩ | hother
    · obtain rfl := Option.some.inj (hv.symm.trans hw)
      rw [hn.of_readPiece_none hpiece] at hn
      exact absurd hn hpending
    · refine .inr ?_
      rw [hold] at hother
      rw [hactivity]
      split <;> simp_all
  | rested hempty hworker => exact absurd hempty hbacklog

/-- Processes only end. -/
theorem Stepped.running_sublist {action : Action} (h : Stepped s action t) :
    t.children.running.Sublist s.children.running := by
  cases h with
  | @ended worker pid hpid hrunning =>
    show (s.children.finish pid).running.Sublist s.children.running
    rw [Children.finish]
    split
    · exact List.erase_sublist
    · exact List.Sublist.refl _
  | @signalled signal =>
    show (ite _ _ _ : Children).running.Sublist s.children.running
    split
    · rename_i hsignal
      rw [Coordinator.handleSignal, if_pos hsignal]
      exact List.Sublist.refl _
    · exact List.Sublist.refl _
  | _ => exact List.Sublist.refl _

/-- Once a shutdown signal has been handled, that stays so. -/
theorem Stepped.terminating_of {action : Action} (h : Stepped s action t)
    (ht : t.coordinator.terminating = false) : s.coordinator.terminating = false := by
  cases h with
  | dispatched => exact s.coordinator.dispatch_terminating.symm.trans ht
  | @signalled signal =>
    have hsignal : (s.coordinator.handleSignal s.children signal).1.terminating = false := ht
    rw [Coordinator.handleSignal] at hsignal
    split at hsignal
    · exact (Coordinator.terminating_foldl_onChildExit _ _).symm.trans hsignal
    · split at hsignal
      · cases hsignal
      · exact hsignal
  | _ => exact ht

/-- A worker that runs and cannot be told has so much unread that its channel is full. -/
theorem Attended.busy_of_not_isReachableAt (h : s.Attended) (hi : s.isRunning i = true)
    (hreach : s.coordinator.workers.isReachableAt i = false) : s.Busy i := by
  obtain ⟨w, pid, hw, hpid, -⟩ := isRunning_eq_true_iff.mp hi
  have hlive : w.isLive = true := by rw [Worker.isLive, hpid]; rfl
  have hsender := (h.channel i w hw).1.trans hlive
  have hreceiver := h.receiverOpen i w hw hi
  have hfull : w.channel.isFull = true := by
    rw [WorkerSet.isReachableAt, show s.coordinator.workers.workers[i]? = some w from hw, Option.any_some] at hreach
    simpa [Worker.isReachable, Channel.accepts, hlive, hsender, hreceiver] using hreach
  refine .inl ⟨w, hw, fun hempty => ?_⟩
  simp [Channel.isFull, hempty] at hfull

/-- A worker that has just been told has a notice to read. -/
theorem busy_of_dispatch {announced : Bool} {told : List Nat} (h : s.coordinator.dispatch.1 = some i) :
    Busy { s with coordinator := s.coordinator.dispatch.2, announced := announced, told := told } i := by
  obtain ⟨w, hw, -⟩ := WorkerSet.isReachableAt_eq_true_iff.mp (Coordinator.isReachableAt_of_dispatch h)
  refine .inl ⟨w.withNotice, ?_, List.append_ne_nil_of_right_ne_nil _ (by decide)⟩
  rw [worker?, Coordinator.dispatch_worker, hw]
  simp [h]

theorem attended_step {action : Action} (h : s.Attended) (hstep : Stepped s action t) : t.Attended := by
  have hat := steppedAt_of_stepped h.nodup hstep
  have hrunning : ∀ i, t.isRunning i = true → s.isRunning i = true :=
    fun i => (hat i).isRunning fun pid hpid => hstep.running_sublist.subset hpid
  have hbusy : s.backlog ≠ 0 → ∀ i, t.isRunning i = true → s.Busy i → t.Busy i :=
    fun hbacklog i hi => (hat i).busy hi (h.channel i) hbacklog
  have hterm := hstep.terminating_of
  refine ⟨h.nodup.sublist hstep.running_sublist, fun i => (hat i).channel (h.channel i),
    fun i w hw hi => (hat i).receiverOpen hi (fun v hv => h.receiverOpen i v hv (hrunning i hi)) w hw, ?_, ?_, ?_⟩
  · intro ht
    cases hstep with
    | arrived => cases ht
    | dispatched => exact if_pos ht
    | accepted => exact if_pos ht
    | _ => exact h.told_of_empty ht
  · intro ht i hi hrun
    have hold : i ∈ s.told → t.Busy i := fun hmem => by
      refine hbusy (fun hempty => ?_) i hrun (h.busy_of_told (hterm ht) i hmem (hrunning i hrun))
      rw [h.told_of_empty hempty] at hmem
      exact List.not_mem_nil hmem
    cases hstep with
    | dispatched =>
      have hmem : i ∈ if s.backlog = 0 then [] else s.told ++ s.coordinator.dispatch.1.toList := hi
      split at hmem
      · exact absurd hmem List.not_mem_nil
      · rcases List.mem_append.mp hmem with hmem | hplace
        · exact hold hmem
        · exact busy_of_dispatch (Option.mem_toList.mp hplace)
    | accepted =>
      have hmem : i ∈ if s.backlog - 1 = 0 then [] else s.told := hi
      split at hmem
      · exact absurd hmem List.not_mem_nil
      · exact hold hmem
    | _ => exact hold hi
  · intro ht hbacklog hannounced htold i hrun
    have hs := hterm ht
    have hi := hrunning i hrun
    cases hstep with
    | arrived => cases hannounced
    | dispatched =>
      have hnobody : s.told ++ s.coordinator.dispatch.1.toList = [] := (if_neg hbacklog).symm.trans htold
      have hnone : s.coordinator.dispatch.1 = none := by simpa using (List.append_eq_nil_iff.mp hnobody).2
      have hreach := Coordinator.not_isReachableAt_of_dispatch hs hnone i
      exact hbusy hbacklog i hrun (h.busy_of_not_isReachableAt hi hreach)
    | accepted hactivity hrunning' hs' =>
      have hnobody : s.told = [] := (if_neg hbacklog).symm.trans htold
      exact hbusy hs' i hrun (h.busy_of_untold hs hs' hannounced hnobody i hi)
    | _ => exact hbusy hbacklog i hrun (h.busy_of_untold hs hbacklog hannounced htold i hi)

theorem attended_run {actions : List Action} (hs : s.Attended) (h : s.run? actions = some t) : t.Attended :=
  List.foldlM_option_induction (motive := Attended)
    (fun _ _ _ hattended hstep => attended_step hattended (stepped_of_step hstep)) hs h

/-! ## Services that a run leads to -/

/-- **Waiting connections are attended to while one of the workers told lives.** In every service that a run of steps
leads to, unless a shutdown signal has been handled: if some worker runs, the coordinator has no arrival to be told of,
and no worker that runs has a notice that it has not read or not acted upon, then no connection waits, or workers were
told since connections have been waiting, and all of them have ended. -/
theorem run_attended {pids : List Int} (hpids : pids.Nodup) (limit : Option Nat) {actions : List Action}
    {s : ProcessService} (h : (start pids limit).run? actions = some s) (hterm : s.coordinator.terminating = false)
    (hlives : ∃ i, s.isRunning i = true) (hannounced : s.announced = false)
    (hread : ∀ i, s.isRunning i = true → ¬s.Busy i) :
    s.backlog = 0 ∨ s.told ≠ [] ∧ ∀ i ∈ s.told, s.isRunning i = false := by
  have hs := attended_run (attended_start hpids limit) h
  obtain ⟨i, hi⟩ := hlives
  by_cases hbacklog : s.backlog = 0
  · exact .inl hbacklog
  · refine .inr ⟨fun hnobody => ?_, fun j hj => ?_⟩
    · exact hread i hi (hs.busy_of_untold hterm hbacklog hannounced hnobody i hi)
    · rw [Bool.eq_false_iff]
      exact fun hrun => hread j hrun (hs.busy_of_told hterm j hj hrun)

/-- The worker told first has ended, and the other one was told of the next connection and has accepted both. -/
theorem run_attended_recovered :
    ∃ s : ProcessService, (start [1, 2] (some 64)).run? [.arrive, .dispatch, .exit 0, .reap 1, .arrive, .dispatch,
        .read 1, .read 1, .accept 1, .accept 1, .accept 1] = some s ∧
      s.isRunning 1 = true ∧ s.isRunning 0 = false ∧
      (s.backlog = 0 ∨ s.told ≠ [] ∧ ∀ i ∈ s.told, s.isRunning i = false) := by
  have h : (start [1, 2] (some 64)).run? [.arrive, .dispatch, .exit 0, .reap 1, .arrive, .dispatch, .read 1, .read 1,
        .accept 1, .accept 1, .accept 1] =
      some { coordinator :=
               { workers :=
                   { workers :=
                       [{ index := 0, state := .dead
                          channel := { senderOpen := false, receiverOpen := false, limit := some 64 } },
                        { index := 1, state := .live 2, channel := { limit := some 64 } }]
                     cursor := 0 }
                 terminating := false
                 stop := false }
             children := { running := [2], ended := [] }
             activities := [.reading 0, .reading 0] } := by decide
  refine ⟨_, h, rfl, rfl, run_attended (by decide) (some 64) h rfl ⟨1, rfl⟩ rfl fun i hi => ?_⟩
  match i, hi with
  | 1, _ => decide

/-- A connection may be left waiting: the worker told has ended with its notice unread, and nobody else is told. -/
theorem backlog_left :
    ∃ s : ProcessService, (start [1, 2] none).run? [.arrive, .dispatch, .exit 0, .reap 1] = some s ∧
      s.coordinator.terminating = false ∧ s.isRunning 1 = true ∧ s.children.ended = [] ∧ s.announced = false ∧
      (∀ i, s.isRunning i = true → ¬s.Busy i) ∧ s.backlog = 1 := by
  refine ⟨_, rfl, rfl, rfl, rfl, rfl, fun i hi => ?_, rfl⟩
  match i, hi with
  | 1, _ => decide

end ProcessService

end StaticServer
