import Mathlib.Data.List.Basic
import StaticServer.Dispatch.History
import StaticServer.Proofs.Telling

/-!
# The life of a coordinator

What becomes of a worker is decided by the processes that have been reported as reaped, and by nothing else: a notice
that fails, a worker that leaves its channel and a shutdown signal change no worker's state. So the outline of the
workers after some events (all but the octets and the far ends of their channels) can be read off the outline at the
start and the list of reaped processes.

* `Coordinator.Handled`: what one event does.
* `Coordinator.outline_after`: the workers after some events.
* `Coordinator.isDue_after`: when the coordinator is to stop.
* `Coordinator.terminating_after`: when it ends its work.
* `Coordinator.after_lifetime`: what holds after any events.
-/

namespace StaticServer

namespace Worker

variable {w : Worker}

/-- The worker with nothing of its channel but whether the sending end is open. -/
def outline (w : Worker) : Worker := { w with channel := { senderOpen := w.channel.senderOpen } }

/-- The worker when these processes have been reaped. -/
def reap (pids : List Int) (w : Worker) : Worker := if w.pid?.any (· ∈ pids) then w.markDead else w

@[simp] theorem pid?_outline (w : Worker) : w.outline.pid? = w.pid? := rfl

@[simp] theorem isLive_outline (w : Worker) : w.outline.isLive = w.isLive := rfl

theorem outline_withNotice (w : Worker) : w.withNotice.outline = w.outline := rfl

theorem outline_dropEnd (w : Worker) : w.dropEnd.outline = w.outline := rfl

theorem outline_readPiece (w : Worker) : outline { w with channel := w.channel.readPiece.2 } = w.outline := by
  unfold Channel.readPiece
  split <;> rfl

@[simp] theorem pid?_markDead (w : Worker) : w.markDead.pid? = none := rfl

theorem reap_of_mem {pid : Int} {pids : List Int} (hpid : w.pid? = some pid) (hmem : pid ∈ pids) :
    w.reap pids = w.markDead := by
  unfold reap
  simp [hpid, hmem]

theorem reap_of_not_mem {pids : List Int} (h : ∀ pid, w.pid? = some pid → pid ∉ pids) : w.reap pids = w := by
  unfold reap
  cases hpid : w.pid? with
  | none => rfl
  | some pid => simp [h pid hpid]

/-- A worker is reaped or left as it is. -/
theorem reap_cases (pids : List Int) (w : Worker) :
    (∃ pid, w.pid? = some pid ∧ pid ∈ pids ∧ w.reap pids = w.markDead) ∨
      (∀ pid, w.pid? = some pid → pid ∉ pids) ∧ w.reap pids = w := by
  by_cases h : ∃ pid, w.pid? = some pid ∧ pid ∈ pids
  · obtain ⟨pid, hpid, hmem⟩ := h
    exact .inl ⟨pid, hpid, hmem, reap_of_mem hpid hmem⟩
  · have hnot : ∀ pid, w.pid? = some pid → pid ∉ pids := fun pid hpid hmem => h ⟨pid, hpid, hmem⟩
    exact .inr ⟨hnot, reap_of_not_mem hnot⟩

theorem outline_reap (pids : List Int) (w : Worker) : (w.reap pids).outline = w.outline.reap pids := by
  rcases reap_cases pids w with ⟨pid, hpid, hmem, hreap⟩ | ⟨hnot, hreap⟩ <;> rw [hreap]
  · exact (reap_of_mem (w := w.outline) hpid hmem).symm
  · exact (reap_of_not_mem (w := w.outline) hnot).symm

theorem pid?_reap (pids : List Int) (w : Worker) : (w.reap pids).pid? = w.pid?.filter (· ∉ pids) := by
  rcases reap_cases pids w with ⟨pid, hpid, hmem, hreap⟩ | ⟨hnot, hreap⟩ <;> rw [hreap]
  · simp [hpid, hmem, Option.filter]
  · cases hpid : w.pid? with
    | none => rfl
    | some pid => simp [hnot pid hpid, Option.filter]

theorem reap_reap (pids more : List Int) (w : Worker) : (w.reap pids).reap more = w.reap (pids ++ more) := by
  rcases reap_cases pids w with ⟨pid, hpid, hmem, hreap⟩ | ⟨hnot, hreap⟩ <;> rw [hreap]
  · rw [reap_of_mem hpid (List.mem_append_left more hmem)]
    exact reap_of_not_mem (by simp)
  · rcases reap_cases more w with ⟨pid, hpid, hmem, hmore⟩ | ⟨hnot', hmore⟩ <;> rw [hmore]
    · exact (reap_of_mem hpid (List.mem_append_right pids hmem)).symm
    · refine (reap_of_not_mem fun pid hpid => ?_).symm
      rw [List.mem_append, not_or]
      exact ⟨hnot pid hpid, hnot' pid hpid⟩

theorem pid?_eq_some_iff {pid : Int} : w.pid? = some pid ↔ w.state = .live pid := by
  unfold pid?
  cases w.state <;> simp

/-- A worker is dead once its process has been reaped. -/
theorem state_reap_eq_dead_iff (hlive : w.isLive = true) (pids : List Int) :
    (w.reap pids).state = .dead ↔ ∃ pid ∈ pids, w.state = .live pid := by
  obtain ⟨own, hown⟩ := Option.isSome_iff_exists.mp hlive
  rw [pid?_eq_some_iff] at hown
  rcases reap_cases pids w with ⟨pid, hpid, hmem, hreap⟩ | ⟨hnot, hreap⟩ <;> rw [hreap]
  · exact ⟨fun _ => ⟨pid, hmem, pid?_eq_some_iff.mp hpid⟩, fun _ => rfl⟩
  · constructor
    · intro hdead
      rw [hown] at hdead
      cases hdead
    · rintro ⟨pid, hmem, hpid⟩
      exact absurd hmem (hnot pid (pid?_eq_some_iff.mpr hpid))

theorem index_reap (pids : List Int) (w : Worker) : (w.reap pids).index = w.index := by
  rcases reap_cases pids w with ⟨-, -, -, hreap⟩ | ⟨-, hreap⟩ <;> rw [hreap]
  rfl

theorem state_reap (pids : List Int) (w : Worker) : (w.reap pids).state = .dead ∨ (w.reap pids).state = w.state := by
  rcases reap_cases pids w with ⟨-, -, -, hreap⟩ | ⟨-, hreap⟩ <;> rw [hreap]
  · exact .inl rfl
  · exact .inr rfl

theorem isLive_of_reap {pids : List Int} (h : (w.reap pids).isLive = true) : w.isLive = true := by
  rcases reap_cases pids w with ⟨-, -, -, hreap⟩ | ⟨-, hreap⟩ <;> rw [hreap] at h
  · cases h
  · exact h

theorem isLive_eq_false_iff : w.isLive = false ↔ w.state = .dead := by
  unfold isLive pid?
  cases w.state <;> simp

/-- A channel that is open just if its worker lives stays so. -/
theorem senderOpen_reap (hopen : w.channel.senderOpen = w.isLive) (pids : List Int) :
    (w.reap pids).channel.senderOpen = (w.reap pids).isLive := by
  rcases reap_cases pids w with ⟨-, -, -, hreap⟩ | ⟨-, hreap⟩ <;> rw [hreap]
  · rfl
  · exact hopen

end Worker

namespace WorkerSet

variable {s t : WorkerSet} {pid : Int}

/-- All workers live, each with a process of its own, and their channels are open. -/
structure IsStarted (s : WorkerSet) : Prop where
  isLive : ∀ w ∈ s.workers, w.isLive = true
  senderOpen : ∀ w ∈ s.workers, w.channel.senderOpen = true
  nodup : s.livePids.Nodup

/-- Workers with different processes are started so. -/
theorem isStarted_ofPids {pids : List Int} (h : pids.Nodup) : (ofPids pids).IsStarted where
  isLive := fun w hw => by
    obtain ⟨⟨pid, i⟩, -, rfl⟩ := List.mem_map.mp hw
    rfl
  senderOpen := fun w hw => by
    obtain ⟨⟨pid, i⟩, -, rfl⟩ := List.mem_map.mp hw
    rfl
  nodup := by
    have hpids : (ofPids pids).livePids = pids.zipIdx.map Prod.fst := by
      rw [livePids, ofPids, List.filterMap_map, ← List.filterMap_eq_map]
      rfl
    rw [hpids, List.zipIdx_map_fst]
    exact h

/-- The outlines of the workers, in order. -/
def outline (s : WorkerSet) : List Worker := s.workers.map Worker.outline

theorem outline_modify {f : Worker → Worker} (h : ∀ w, (f w).outline = w.outline) (s : WorkerSet) (i : Nat) :
    (s.modify i f).outline = s.outline := by
  refine List.ext_getElem? fun k => ?_
  rw [outline, outline, List.getElem?_map, List.getElem?_map, worker_modify, Option.map_map]
  congr 1
  funext w
  by_cases hk : i = k <;> simp [hk, h]

theorem livePids_eq (s : WorkerSet) : s.livePids = s.outline.filterMap Worker.pid? := by
  rw [outline, List.filterMap_map]
  rfl

theorem allDead_eq_true_iff : s.allDead = true ↔ ∀ w ∈ s.workers, w.isLive = false := by
  rw [allDead, beq_iff_eq, liveCount, List.countP_eq_zero]
  simp

theorem allDead_of_outline (h : t.outline = s.outline) : t.allDead = s.allDead := by
  have hcount (u : WorkerSet) : u.liveCount = u.outline.countP Worker.isLive := by
    rw [outline, List.countP_map]
    rfl
  rw [allDead, allDead, hcount, hcount, h]

theorem isLiveAt_eq (s : WorkerSet) (i : Nat) : s.isLiveAt i = s.outline[i]?.any Worker.isLive := by
  rw [outline, List.getElem?_map, Option.any_map]
  rfl

/-- Where processes differ, the first worker of a process is the only one. -/
theorem modify_findIdx?_eq_map {workers : List Worker} (h : (workers.filterMap Worker.pid?).Nodup) :
    ((workers.findIdx? fun w => w.pid? == some pid).elim workers fun i => workers.modify i Worker.markDead) =
      workers.map (Worker.reap [pid]) := by
  induction workers with
  | nil => rfl
  | cons w rest ih =>
    rw [List.findIdx?_cons, List.map_cons]
    by_cases hw : w.pid? = some pid
    · rw [List.filterMap_cons_some hw, List.nodup_cons, List.mem_filterMap] at h
      have hrest : rest.map (Worker.reap [pid]) = rest := by
        rw [List.map_congr_left, List.map_id]
        intro v hv
        refine Worker.reap_of_not_mem fun other hother hmem => ?_
        obtain rfl := List.mem_singleton.mp hmem
        exact h.1 ⟨v, hv, hother⟩
      rw [hrest, Worker.reap_of_mem hw List.mem_cons_self, if_pos (by simp [hw])]
      rfl
    · have hnodup : (rest.filterMap Worker.pid?).Nodup :=
        h.sublist ((List.sublist_cons_self w rest).filterMap _)
      have hself : w.reap [pid] = w := by
        refine Worker.reap_of_not_mem fun other hother hmem => hw ?_
        obtain rfl := List.mem_singleton.mp hmem
        exact hother
      rw [hself, ← ih hnodup, if_neg (by simp [hw])]
      cases rest.findIdx? fun w => w.pid? == some pid <;> rfl

/-- The worker of a reaped process is dead, and nothing else is changed. -/
theorem workers_markReaped (h : s.livePids.Nodup) (pid : Int) :
    (s.markReaped pid).2.workers = s.workers.map (Worker.reap [pid]) := by
  rw [← modify_findIdx?_eq_map h]
  unfold markReaped findPid?
  cases s.workers.findIdx? fun w => w.pid? == some pid <;> rfl

theorem markReaped_of_allDead (h : s.allDead = true) (pid : Int) : s.markReaped pid = (none, s) := by
  rw [allDead_eq_true_iff] at h
  have hnone : s.findPid? pid = none := by
    rw [findPid?, List.findIdx?_eq_none_iff]
    intro w hw
    have hpid := h w hw
    rw [Worker.isLive, Option.isSome_eq_false_iff, Option.isNone_iff_eq_none] at hpid
    rw [hpid]
    rfl
  rw [markReaped, hnone]

/-- The processes of the workers that live on. -/
theorem filterMap_reap (workers : List Worker) (pids : List Int) :
    (workers.map (Worker.reap pids)).filterMap Worker.pid? =
      (workers.filterMap Worker.pid?).filter (· ∉ pids) := by
  rw [List.filterMap_map, List.filter_filterMap]
  congr 1
  funext w
  exact Worker.pid?_reap pids w

end WorkerSet

namespace Coordinator

variable {c d : Coordinator} {e : Event}

/-! ## Events -/

/-- What one event does. -/
inductive Handled (c : Coordinator) : Event → Coordinator → Prop
  | dispatched : Handled c .dispatch c.dispatch.2
  | exited (pid : Int) : Handled c (.childExit pid) (c.onChildExit pid)
  | reaped {number : Int} (ended : List Int) (hnumber : number = Signal.child.number) :
      Handled c (.signal number ended) (ended.foldl onChildExit c)
  | shutDown {number : Int} (ended : List Int)
      (hnumber : number = Signal.interrupt.number ∨ number = Signal.terminate.number) :
      Handled c (.signal number ended) { c with terminating := true }
  | ignored {number : Int} (ended : List Int) (hchild : number ≠ Signal.child.number)
      (hshutdown : ¬(number = Signal.interrupt.number ∨ number = Signal.terminate.number)) :
      Handled c (.signal number ended) c
  | read (i : Nat) : Handled c (.read i)
      { c with workers := c.workers.modify i fun w => { w with channel := w.channel.readPiece.2 } }
  | dropped (i : Nat) : Handled c (.dropEnd i) { c with workers := c.workers.modify i Worker.dropEnd }

theorem handled_signal (c : Coordinator) (number : Int) (ended : List Int) :
    Handled c (.signal number ended) (c.handleNumber { ended := ended } number).1 := by
  unfold handleNumber
  cases hsignal : Signal.ofNumber? number with
  | none =>
    have hne : ∀ s : Signal, number ≠ s.number := fun s hs => by
      rw [Signal.ofNumber?_eq_some_iff.mpr hs] at hsignal
      cases hsignal
    exact .ignored ended (hne .child) fun h => h.elim (hne .interrupt) (hne .terminate)
  | some s =>
    obtain rfl := Signal.ofNumber?_eq_some_iff.mp hsignal
    cases s with
    | child => exact .reaped ended rfl
    | interrupt => exact .shutDown ended (.inl rfl)
    | terminate => exact .shutDown ended (.inr rfl)
    | hangup | user1 | user2 => exact .ignored ended (by decide) (by decide)

theorem handled_handle (c : Coordinator) (e : Event) : Handled c e (c.handle e) := by
  cases e with
  | dispatch => exact .dispatched
  | childExit pid => exact .exited pid
  | signal number ended => exact handled_signal c number ended
  | read i => exact .read i
  | dropEnd i => exact .dropped i

/-! ## The workers -/

theorem outline_dispatch (c : Coordinator) : c.dispatch.2.workers.outline = c.workers.outline := by
  rw [WorkerSet.outline, dispatch_workers]
  cases c.dispatch.1 with
  | none => rfl
  | some i => exact WorkerSet.outline_modify Worker.outline_withNotice c.workers i

theorem outline_onChildExit (h : c.workers.livePids.Nodup) (pid : Int) :
    (c.onChildExit pid).workers.outline = c.workers.outline.map (Worker.reap [pid]) := by
  show (c.workers.markReaped pid).2.outline = _
  rw [WorkerSet.outline, WorkerSet.workers_markReaped h, WorkerSet.outline, List.map_map, List.map_map]
  exact List.map_congr_left fun w _ => Worker.outline_reap [pid] w

theorem nodup_of_outline {pids : List Int} (h : c.workers.livePids.Nodup)
    (houtline : d.workers.outline = c.workers.outline.map (Worker.reap pids)) : d.workers.livePids.Nodup := by
  rw [WorkerSet.livePids_eq] at h ⊢
  rw [houtline, WorkerSet.filterMap_reap]
  exact h.filter _

theorem map_reap_reap (workers : List Worker) (pids more : List Int) :
    (workers.map (Worker.reap pids)).map (Worker.reap more) = workers.map (Worker.reap (pids ++ more)) := by
  rw [List.map_map]
  exact List.map_congr_left fun w _ => Worker.reap_reap pids more w

theorem map_reap_nil (workers : List Worker) : workers.map (Worker.reap []) = workers := by
  have hid : Worker.reap [] = id := funext fun w => Worker.reap_of_not_mem fun _ _ => List.not_mem_nil
  rw [hid, List.map_id]

theorem outline_foldl_onChildExit (h : c.workers.livePids.Nodup) (pids : List Int) :
    (pids.foldl onChildExit c).workers.outline = c.workers.outline.map (Worker.reap pids) := by
  induction pids generalizing c with
  | nil => exact (map_reap_nil _).symm
  | cons pid rest ih =>
    have houtline := outline_onChildExit h pid
    rw [List.foldl_cons, ih (nodup_of_outline h houtline), houtline, map_reap_reap]
    rfl

/-- An event does no more to the outlines of the workers than to reap the processes that it reports. -/
theorem Handled.outline (hevent : Handled c e d) (h : c.workers.livePids.Nodup) :
    d.workers.outline = c.workers.outline.map (Worker.reap e.reported) := by
  cases hevent with
  | dispatched => exact (outline_dispatch c).trans (map_reap_nil _).symm
  | exited pid => exact outline_onChildExit h pid
  | reaped ended hnumber =>
    rw [Event.reported, if_pos hnumber]
    exact outline_foldl_onChildExit h ended
  | shutDown ended hnumber =>
    rw [Event.reported, if_neg (by rcases hnumber with rfl | rfl <;> decide)]
    exact (map_reap_nil _).symm
  | ignored ended hchild hshutdown =>
    rw [Event.reported, if_neg hchild]
    exact (map_reap_nil _).symm
  | read i => exact (WorkerSet.outline_modify Worker.outline_readPiece c.workers i).trans (map_reap_nil _).symm
  | dropped i => exact (WorkerSet.outline_modify Worker.outline_dropEnd c.workers i).trans (map_reap_nil _).symm

/-- The workers after some events. -/
theorem outline_after (h : c.workers.livePids.Nodup) (events : List Event) :
    (c.after events).workers.outline = c.workers.outline.map (Worker.reap (events.flatMap Event.reported)) := by
  induction events generalizing c with
  | nil => exact (map_reap_nil _).symm
  | cons e rest ih =>
    have houtline := (handled_handle c e).outline h
    show ((c.handle e).after rest).workers.outline = _
    rw [ih (nodup_of_outline h houtline), houtline, map_reap_reap, List.flatMap_cons]

/-! ## Stopping -/

/-- The coordinator is to stop just if nobody lives. -/
def IsDue (c : Coordinator) : Prop := c.stop = c.workers.allDead

theorem isDue_ofWorkers (s : WorkerSet) : (ofWorkers s).IsDue := rfl

theorem isDue_dispatch (h : c.IsDue) : c.dispatch.2.IsDue := by
  have hdead : c.dispatch.2.workers.allDead = c.workers.allDead := WorkerSet.allDead_of_outline (outline_dispatch c)
  have hstop : c.dispatch.2.stop = c.stop ∨ c.dispatch.2.stop = (c.stop || c.dispatch.2.workers.allDead) := by
    unfold dispatch
    split
    · exact .inl rfl
    · split
      · exact .inl rfl
      · exact .inr rfl
  unfold IsDue at h ⊢
  rcases hstop with hstop | hstop <;> rw [hstop, hdead, h]
  exact Bool.or_self _

theorem isDue_onChildExit (h : c.IsDue) (pid : Int) : (c.onChildExit pid).IsDue := by
  unfold IsDue at h ⊢
  show (c.stop || (c.workers.markReaped pid).2.allDead) = (c.workers.markReaped pid).2.allDead
  cases hdead : c.workers.allDead with
  | true =>
    rw [h, WorkerSet.markReaped_of_allDead hdead, hdead]
    rfl
  | false => rw [h, hdead, Bool.false_or]

theorem isDue_foldl_onChildExit (h : c.IsDue) (pids : List Int) : (pids.foldl onChildExit c).IsDue := by
  induction pids generalizing c with
  | nil => exact h
  | cons pid rest ih => exact ih (isDue_onChildExit h pid)

theorem isDue_modify {f : Worker → Worker} (hf : ∀ w, (f w).outline = w.outline) (h : c.IsDue) (i : Nat) :
    IsDue { c with workers := c.workers.modify i f } := by
  unfold IsDue at h ⊢
  rw [WorkerSet.allDead_of_outline (WorkerSet.outline_modify hf c.workers i)]
  exact h

theorem Handled.isDue (hevent : Handled c e d) (h : c.IsDue) : d.IsDue := by
  cases hevent with
  | dispatched => exact isDue_dispatch h
  | exited pid => exact isDue_onChildExit h pid
  | reaped ended hnumber => exact isDue_foldl_onChildExit h ended
  | shutDown ended hnumber => exact h
  | ignored ended hchild hshutdown => exact h
  | read i => exact isDue_modify Worker.outline_readPiece h i
  | dropped i => exact isDue_modify Worker.outline_dropEnd h i

/-- A shutdown signal alone does not stop the coordinator. -/
theorem Handled.stop_of_isShutdown (hevent : Handled c e d) (he : e.isShutdown = true) : d.stop = c.stop := by
  cases hevent with
  | shutDown ended hnumber => rfl
  | ignored ended hchild hshutdown => rfl
  | reaped ended hnumber =>
    rw [hnumber] at he
    cases he
  | dispatched | exited | read | dropped => cases he

theorem isDue_after (h : c.IsDue) (events : List Event) : (c.after events).IsDue := by
  induction events generalizing c with
  | nil => exact h
  | cons e rest ih => exact ih ((handled_handle c e).isDue h)

/-! ## Ending the work -/

theorem Handled.terminating (hevent : Handled c e d) : d.terminating = (c.terminating || e.isShutdown) := by
  cases hevent with
  | shutDown ended hnumber => simp [Event.isShutdown, hnumber]
  | ignored ended hchild hshutdown => simp [Event.isShutdown, hshutdown]
  | reaped ended hnumber =>
    rw [terminating_foldl_onChildExit, hnumber]
    simp [Event.isShutdown, Signal.number]
  | dispatched => simp [Event.isShutdown]
  | exited pid => simp [Event.isShutdown, onChildExit]
  | read i => simp [Event.isShutdown]
  | dropped i => simp [Event.isShutdown]

theorem terminating_after (c : Coordinator) (events : List Event) :
    (c.after events).terminating = (c.terminating || events.any Event.isShutdown) := by
  induction events generalizing c with
  | nil => exact (Bool.or_false _).symm
  | cons e rest ih =>
    show ((c.handle e).after rest).terminating = _
    rw [ih, (handled_handle c e).terminating, List.any_cons, Bool.or_assoc]

/-- Nothing is written to any channel: what is unread was unread before. -/
def NothingWritten (s t : WorkerSet) : Prop :=
  ∀ (i : Nat) (v : Worker), t.workers[i]? = some v →
    ∃ w, s.workers[i]? = some w ∧ v.channel.pending <:+ w.channel.pending

theorem nothingWritten_of_outlived {s t : WorkerSet} (h : Outlived s t) : NothingWritten s t := by
  intro i v hv
  rcases h i with hw | hw <;> rw [hv] at hw
  · exact ⟨v, hw.symm, List.suffix_rfl⟩
  · obtain ⟨w, hold, rfl⟩ := Option.map_eq_some_iff.mp hw.symm
    exact ⟨w, hold, List.suffix_rfl⟩

theorem nothingWritten_modify {f : Worker → Worker} (hf : ∀ w, (f w).channel.pending <:+ w.channel.pending)
    (s : WorkerSet) (place : Nat) : NothingWritten s (s.modify place f) := by
  intro i v hv
  rw [WorkerSet.worker_modify] at hv
  obtain ⟨w, hw, rfl⟩ := Option.map_eq_some_iff.mp hv
  refine ⟨w, hw, ?_⟩
  split
  · exact hf w
  · exact List.suffix_rfl

/-- A coordinator that ends its work writes nothing. -/
theorem Handled.nothingWritten (hevent : Handled c e d) (hterm : c.terminating = true) :
    NothingWritten c.workers d.workers := by
  cases hevent with
  | dispatched =>
    rw [dispatch_of_terminating hterm]
    exact nothingWritten_of_outlived (Outlived.refl _)
  | exited pid => exact nothingWritten_of_outlived (outlived_onChildExit c pid)
  | reaped ended hnumber => exact nothingWritten_of_outlived (outlived_foldl_onChildExit c ended)
  | shutDown ended hnumber => exact nothingWritten_of_outlived (Outlived.refl _)
  | ignored ended hchild hshutdown => exact nothingWritten_of_outlived (Outlived.refl _)
  | read i =>
    refine nothingWritten_modify (fun w => ?_) c.workers i
    show w.channel.readPiece.2.pending <:+ w.channel.pending
    unfold Channel.readPiece
    split
    · exact List.suffix_rfl
    · exact List.drop_suffix ..
  | dropped i => exact nothingWritten_modify (fun w => List.nil_suffix) c.workers i

/-! ## After any events -/

/-- The worker at a place after some events is the one at the start, reaped if its process has been reported. -/
theorem worker_after {s : WorkerSet} (hs : s.IsStarted) (events : List Event) {i : Nat} {w : Worker}
    (hw : s.workers[i]? = some w) :
    ∃ v, ((ofWorkers s).after events).workers.workers[i]? = some v ∧ v.index = w.index ∧
      v.state = (w.reap (events.flatMap Event.reported)).state ∧ v.channel.senderOpen = v.isLive := by
  have houtline := congrArg (fun l => l[i]?) (outline_after (c := ofWorkers s) hs.nodup events)
  simp only [WorkerSet.outline, ofWorkers, List.getElem?_map, hw, Option.map_some] at houtline
  rw [← Worker.outline_reap] at houtline
  obtain ⟨v, hv, heq⟩ := Option.map_eq_some_iff.mp houtline
  have hmem := List.mem_of_getElem? hw
  have hstart : w.channel.senderOpen = w.isLive := (hs.senderOpen w hmem).trans (hs.isLive w hmem).symm
  have hindex : v.outline.index = (w.reap (events.flatMap Event.reported)).outline.index := congrArg Worker.index heq
  have hstate : v.outline.state = (w.reap (events.flatMap Event.reported)).outline.state := congrArg Worker.state heq
  have hopen : v.outline.channel.senderOpen = (w.reap (events.flatMap Event.reported)).outline.channel.senderOpen :=
    congrArg (fun u => u.channel.senderOpen) heq
  have hlive : v.outline.isLive = (w.reap (events.flatMap Event.reported)).outline.isLive := congrArg Worker.isLive heq
  exact ⟨v, hv, hindex.trans (Worker.index_reap _ w), hstate,
    hopen.trans ((Worker.senderOpen_reap hstart _).trans hlive.symm)⟩

theorem size_after {s : WorkerSet} (hs : s.IsStarted) (events : List Event) :
    ((ofWorkers s).after events).workers.size = s.size := by
  have houtline := congrArg List.length (outline_after (c := ofWorkers s) hs.nodup events)
  simpa [WorkerSet.outline, WorkerSet.size, ofWorkers] using houtline

theorem isLiveAt_of_after (h : c.workers.livePids.Nodup) {events : List Event} {i : Nat}
    (hlive : (c.after events).workers.isLiveAt i = true) : c.workers.isLiveAt i = true := by
  rw [WorkerSet.isLiveAt_eq, outline_after h, List.getElem?_map, Option.any_map] at hlive
  rw [WorkerSet.isLiveAt_eq]
  obtain ⟨w, hw, hreap⟩ := (Option.any_eq_true ..).mp hlive
  exact (Option.any_eq_true ..).mpr ⟨w, hw, Worker.isLive_of_reap hreap⟩

theorem allDead_after (h : c.workers.livePids.Nodup) (hdead : c.workers.allDead = true) (events : List Event) :
    (c.after events).workers.allDead = true := by
  rw [WorkerSet.allDead_eq_true_iff, WorkerSet.forall_eq_false_iff] at hdead ⊢
  intro i
  rw [← Bool.not_eq_true]
  exact fun hlive => Bool.false_ne_true ((hdead i).symm.trans (isLiveAt_of_after h hlive))

/-- **The life of a coordinator.** It starts with live workers, each with a process of its own. After any events the
workers are at the places where they were: each is dead just if its process has been reported as reaped, and its channel
is closed just if it is dead; a worker that is dead stays so, and a notice, sent or not, changes nobody's liveness. The
coordinator is to stop just if all workers are dead, which stays so, and which no shutdown signal brings about. It ends
its work just if a shutdown signal has been handled: from then on it tells nobody of a connection, and whatever happens
next writes nothing to any channel. -/
theorem after_lifetime {s : WorkerSet} (hs : s.IsStarted) (events : List Event) :
    let c := (ofWorkers s).after events
    (c.workers.size = s.size ∧ ∀ (i : Nat) (w : Worker), s.workers[i]? = some w →
      ∃ v : Worker, c.workers.workers[i]? = some v ∧ v.index = w.index ∧ (v.state = .dead ∨ v.state = w.state) ∧
        (v.state = .dead ↔ ∃ pid ∈ events.flatMap Event.reported, w.state = .live pid) ∧
        (v.channel.senderOpen = false ↔ v.state = .dead)) ∧
    (∀ later i, c.workers.isLiveAt i = false → (c.after later).workers.isLiveAt i = false) ∧
    (∀ i, c.dispatch.2.workers.isLiveAt i = c.workers.isLiveAt i) ∧
    (c.stop = true ↔ ∀ w ∈ c.workers.workers, w.state = .dead) ∧
    (∀ later, c.stop = true → (c.after later).stop = true) ∧
    (∀ e, e.isShutdown = true → (c.handle e).stop = c.stop) ∧
    (c.terminating = true ↔ ∃ e ∈ events, e.isShutdown = true) ∧
    (c.terminating = true → ∀ later e, (c.after later).dispatch = (none, c.after later) ∧
      NothingWritten (c.after later).workers ((c.after later).handle e).workers) := by
  intro c
  have hnodup : c.workers.livePids.Nodup := nodup_of_outline hs.nodup (outline_after hs.nodup events)
  have hdue : c.IsDue := isDue_after (isDue_ofWorkers s) events
  refine ⟨⟨size_after hs events, fun i w hw => ?_⟩, fun later i hdead => ?_, c.isLiveAt_dispatch, ?_,
    fun later hstop => ?_, fun e he => ?_, ?_, fun hterm later e => ?_⟩
  · obtain ⟨v, hv, hindex, hstate, hopen⟩ := worker_after hs events hw
    refine ⟨v, hv, hindex, ?_, ?_, ?_⟩
    · rw [hstate]
      exact Worker.state_reap _ w
    · rw [hstate]
      exact Worker.state_reap_eq_dead_iff (hs.isLive w (List.mem_of_getElem? hw)) _
    · rw [hopen]
      exact Worker.isLive_eq_false_iff
  · rw [← Bool.not_eq_true] at hdead ⊢
    exact fun hlive => hdead (isLiveAt_of_after hnodup hlive)
  · rw [hdue, WorkerSet.allDead_eq_true_iff]
    exact forall₂_congr fun w _ => Worker.isLive_eq_false_iff
  · rw [isDue_after hdue later]
    rw [hdue] at hstop
    exact allDead_after hnodup hstop later
  · exact (handled_handle c e).stop_of_isShutdown he
  · rw [terminating_after (ofWorkers s) events, ← List.any_eq_true]
    exact Bool.eq_iff_iff.mp (Bool.false_or _)
  · have hlater : (c.after later).terminating = true := by
      rw [terminating_after, hterm]
      rfl
    exact ⟨dispatch_of_terminating hlater, (handled_handle _ e).nothingWritten hlater⟩

/-- Of three workers one is reaped and one leaves its channel, before a shutdown signal is handled. -/
theorem after_lifetime_ending :
    let c := (ofWorkers (WorkerSet.ofPids [11, 12, 13])).after
      [.dispatch, .childExit 99, .signal 17 [12, 40], .dropEnd 0, .dispatch, .signal 15 []]
    (∃ v, c.workers.workers[1]? = some v ∧ v.state = .dead ∧ v.channel.senderOpen = false) ∧
      (∃ v, c.workers.workers[0]? = some v ∧ v.state ≠ .dead) ∧ c.stop = false ∧ c.terminating = true ∧
      c.dispatch = (none, c) := by
  intro c
  have hpids : [(11 : Int), 12, 13].Nodup := by decide
  obtain ⟨⟨-, hworker⟩, -, -, hstop, -, -, hterm, hends⟩ :=
    after_lifetime (WorkerSet.isStarted_ofPids hpids)
      [.dispatch, .childExit 99, .signal 17 [12, 40], .dropEnd 0, .dispatch, .signal 15 []]
  obtain ⟨v, hv, -, -, hdead, hopen⟩ := hworker 1 _ rfl
  obtain ⟨u, hu, -, -, hlive, -⟩ := hworker 0 _ rfl
  have hv' : v.state = .dead := hdead.mpr ⟨12, by decide, rfl⟩
  have hu' : u.state ≠ .dead := by
    rw [ne_eq, hlive]
    decide
  have hterm' : c.terminating = true := hterm.mpr ⟨.signal 15 [], by decide, rfl⟩
  refine ⟨⟨v, hv, hv', hopen.mpr hv'⟩, ⟨u, hu, hu'⟩, ?_, hterm', (hends hterm' [] .dispatch).1⟩
  rw [← Bool.not_eq_true, hstop]
  exact fun hall => hu' (hall u (List.mem_of_getElem? hu))

end Coordinator

end StaticServer
