import Mathlib.Data.List.Rotate
import StaticServer.Dispatch.Coordinator

/-!
# Which worker is told

The search for a worker goes around the circle from the cursor, and comes past the places of dead workers. A
worker that was tried in vain goes to the end of the circle, so as many tries as there are places come to each of them:
what is kept is that nobody can be told at the places which the tries left do not reach.

* `WorkerSet.fromCursor_past`: the circle after a selection.
* `Coordinator.tell_place`, `Coordinator.tell_workers`: the first worker that can be told gets one notice.
* `Coordinator.dispatch_place`, `Coordinator.dispatch_workers`: the same for the coordinator.
* `Coordinator.dispatch_reaches`: who is told, and what changes.
* `Coordinator.outlived_onChildExit`, `Coordinator.outlived_handleSignal`: what else happens to a worker is its death.
-/

namespace StaticServer

namespace Channel

variable {c : Channel}

/-- A notice can be written. -/
def accepts (c : Channel) : Bool := c.senderOpen && c.receiverOpen && !c.isFull

/-- The channel with one more notice. -/
def withNotice (c : Channel) : Channel := { c with pending := c.pending ++ notice }

theorem send_of_accepts (h : c.accepts = true) : c.send = .ok c.withNotice := by
  simp only [accepts, Bool.and_eq_true, Bool.not_eq_true'] at h
  simp [send, write, h, withNotice]

theorem send_of_not_accepts (h : c.accepts = false) : ∃ e, c.send = .error e := by
  rw [send, write]
  split
  · exact ⟨_, rfl⟩
  · split
    · exact ⟨_, rfl⟩
    · split
      · exact ⟨_, rfl⟩
      · simp_all [accepts]

end Channel

namespace Worker

variable {w : Worker}

/-- The worker lives, and its channel takes a notice. -/
def isReachable (w : Worker) : Bool := w.isLive && w.channel.accepts

/-- The worker with one more notice in its channel. -/
def withNotice (w : Worker) : Worker := { w with channel := w.channel.withNotice }

theorem notify_of_isReachable (h : w.isReachable = true) : w.notify = .ok w.withNotice := by
  rw [isReachable, Bool.and_eq_true] at h
  rw [notify, Channel.send_of_accepts h.2]
  rfl

theorem notify_of_not_isReachable (hlive : w.isLive = true) (h : w.isReachable = false) : ∃ e, w.notify = .error e := by
  rw [isReachable, hlive, Bool.true_and] at h
  obtain ⟨e, he⟩ := Channel.send_of_not_accepts h
  exact ⟨e, by rw [notify, he]; rfl⟩

end Worker

namespace WorkerSet

variable {s t : WorkerSet} {i j : Nat}

/-- The worker at this place can be told. -/
def isReachableAt (s : WorkerSet) (i : Nat) : Bool := s.workers[i]?.any Worker.isReachable

/-- The set with its cursor behind this place. -/
def past (s : WorkerSet) (i : Nat) : WorkerSet := { s with cursor := (i + 1) % s.size }

theorem isReachableAt_eq_true_iff :
    s.isReachableAt i = true ↔ ∃ w, s.workers[i]? = some w ∧ w.isReachable = true :=
  Option.any_eq_true ..

/-- Nobody has a property just if nobody has it at any place. -/
theorem forall_eq_false_iff {p : Worker → Bool} :
    (∀ w ∈ s.workers, p w = false) ↔ ∀ i : Nat, s.workers[i]?.any p = false := by
  constructor
  · intro h i
    cases hw : s.workers[i]? with
    | none => rfl
    | some w => exact h w (List.mem_of_getElem? hw)
  · intro h w hw
    obtain ⟨i, hi⟩ := List.getElem?_of_mem hw
    have hnot := h i
    rwa [hi] at hnot

theorem lt_size_of_isLiveAt (h : s.isLiveAt i = true) : i < s.size := by
  obtain ⟨w, hw, -⟩ := (Option.any_eq_true ..).mp h
  exact (List.getElem?_eq_some_iff.mp hw).1

theorem isLiveAt_of_isReachableAt (h : s.isReachableAt i = true) : s.isLiveAt i = true := by
  obtain ⟨w, hw, hreach⟩ := isReachableAt_eq_true_iff.mp h
  rw [Worker.isReachable, Bool.and_eq_true] at hreach
  rw [isLiveAt, hw]
  exact hreach.1

theorem worker_modify (s : WorkerSet) (place i : Nat) (f : Worker → Worker) :
    (s.modify place f).workers[i]? = s.workers[i]?.map fun w => if place = i then f w else w := by
  rw [modify, List.getElem?_modify]
  rfl

/-! ## The circle -/

theorem fromCursor_eq_rotate (s : WorkerSet) : s.fromCursor = (List.range s.size).rotate s.cursor := by
  refine List.ext_getElem (by simp [fromCursor]) fun k h₁ h₂ => ?_
  rw [List.getElem_rotate]
  simp [fromCursor, Nat.add_comm]

theorem mem_fromCursor : i ∈ s.fromCursor ↔ i < s.size := by
  rw [fromCursor_eq_rotate, List.mem_rotate, List.mem_range]

/-- The first place on the circle, counted from the cursor. -/
theorem find?_fromCursor_eq_some_iff {p : Nat → Bool} :
    s.fromCursor.find? p = some i ↔
      ∃ k < s.size, i = (s.cursor + k) % s.size ∧ p i = true ∧ ∀ j < k, p ((s.cursor + j) % s.size) = false := by
  rw [List.find?_eq_some_iff_getElem]
  constructor
  · rintro ⟨hp, k, hk, rfl, hbefore⟩
    simp only [fromCursor, List.length_map, List.length_range] at hk
    refine ⟨k, hk, by simp [fromCursor], hp, fun j hj => ?_⟩
    simpa [fromCursor] using hbefore j hj
  · rintro ⟨k, hk, rfl, hp, hbefore⟩
    refine ⟨hp, k, by simpa [fromCursor] using hk, by simp [fromCursor], fun j hj => ?_⟩
    simpa [fromCursor] using hbefore j hj

/-- A selected place goes to the end of the circle, behind those before it. -/
theorem fromCursor_past {before behind : List Nat} (h : s.fromCursor = before ++ i :: behind) :
    (s.past i).fromCursor = behind ++ (before ++ [i]) := by
  have hi : (s.cursor + before.length) % s.size = i := by
    have hlt : before.length < s.fromCursor.length := by simp [h]
    have hget : s.fromCursor[before.length] = i := by simp [h]
    simpa [fromCursor] using hget
  have hmod : (i + 1) % s.size = (s.cursor + (before ++ [i]).length) % s.size := by
    rw [← hi, List.length_append, List.length_singleton, Nat.mod_add_mod, Nat.add_assoc]
  calc (s.past i).fromCursor
      = (List.range s.size).rotate ((i + 1) % s.size) := fromCursor_eq_rotate _
    _ = (List.range s.size).rotate ((s.cursor + (before ++ [i]).length) % (List.range s.size).length) := by
        rw [hmod, List.length_range]
    _ = s.fromCursor.rotate (before ++ [i]).length := by
        rw [List.rotate_mod, ← List.rotate_rotate, fromCursor_eq_rotate]
    _ = behind ++ (before ++ [i]) := by
        rw [h, List.append_cons, List.rotate_append_length_eq]

/-- The next live worker is the first one on the circle. -/
theorem nextLive?_cases (s : WorkerSet) :
    (s.nextLive? = none ∧ ∀ i ∈ s.fromCursor, s.isLiveAt i = false) ∨
      ∃ i before behind, s.nextLive? = some (i, s.past i) ∧ s.fromCursor = before ++ i :: behind ∧
        s.isLiveAt i = true ∧ ∀ j ∈ before, s.isLiveAt j = false := by
  cases hfind : s.fromCursor.find? s.isLiveAt with
  | none => exact .inl ⟨by rw [nextLive?, hfind]; rfl, by simpa using hfind⟩
  | some i =>
    obtain ⟨hlive, before, behind, hsplit, hbefore⟩ := List.find?_eq_some_iff_append.mp hfind
    exact .inr ⟨i, before, behind, by rw [nextLive?, hfind]; rfl, hsplit, hlive, by simpa using hbefore⟩

end WorkerSet

namespace Coordinator

variable {s t : WorkerSet} {c : Coordinator} {i : Nat}

/-! ## Tries -/

/-- A try that comes to a worker that can be told is the last one. -/
theorem tell_of_isReachableAt {tries : Nat} (hnext : s.nextLive? = some (i, t)) (h : t.isReachableAt i = true) :
    tell s (tries + 1) = (some i, t.modify i Worker.withNotice) := by
  obtain ⟨w, hw, hreach⟩ := WorkerSet.isReachableAt_eq_true_iff.mp h
  have hmodify : (t.modify i fun _ => w.withNotice) = t.modify i Worker.withNotice := by
    rw [WorkerSet.modify, WorkerSet.modify, List.modify_eq_set_getElem?, List.modify_eq_set_getElem?, hw]
    rfl
  simp only [tell, hnext, hw, Option.map_some, Worker.notify_of_isReachable hreach, hmodify]

/-- A try that comes to a worker that cannot be told leaves it to the others. -/
theorem tell_of_not_isReachableAt {tries : Nat} (hnext : s.nextLive? = some (i, t)) (hlive : t.isLiveAt i = true)
    (h : t.isReachableAt i = false) : tell s (tries + 1) = tell t tries := by
  obtain ⟨w, hw, hwlive⟩ := (Option.any_eq_true ..).mp hlive
  have hreach : w.isReachable = false := by rwa [WorkerSet.isReachableAt, hw] at h
  obtain ⟨e, he⟩ := Worker.notify_of_not_isReachable hwlive hreach
  simp only [tell, hnext, hw, Option.map_some, he]

theorem tell_of_none {tries : Nat} (hnext : s.nextLive? = none) : tell s (tries + 1) = (none, s) := by
  simp only [tell, hnext]

/-- The worker told is the first one on the circle that can be, if no worker can be behind where the tries end. -/
theorem tell_place {tries : Nat} (h : ∀ i ∈ s.fromCursor.drop tries, s.isReachableAt i = false) :
    (tell s tries).1 = s.fromCursor.find? s.isReachableAt := by
  induction tries generalizing s with
  | zero =>
    have hnone : s.fromCursor.find? s.isReachableAt = none := by simpa [List.find?_eq_none] using h
    rw [hnone]
    rfl
  | succ tries ih =>
    have hreach : ∀ j, s.isLiveAt j = false → s.isReachableAt j = false := fun j hj => by
      cases hr : s.isReachableAt j with
      | false => rfl
      | true => rw [WorkerSet.isLiveAt_of_isReachableAt hr] at hj; cases hj
    rcases s.nextLive?_cases with ⟨hnext, hdead⟩ | ⟨i, before, behind, hnext, hsplit, hlive, hdead⟩
    · have hnone : s.fromCursor.find? s.isReachableAt = none := by
        rw [List.find?_eq_none]
        exact fun j hj => by simp [hreach j (hdead j hj)]
      rw [tell_of_none hnext, hnone]
    · have hbefore : before.find? s.isReachableAt = none := by
        rw [List.find?_eq_none]
        exact fun j hj => by simp [hreach j (hdead j hj)]
      cases hi : s.isReachableAt i with
      | true =>
        rw [tell_of_isReachableAt hnext hi, hsplit, List.find?_append, hbefore, List.find?_cons_of_pos hi]
        rfl
      | false =>
        have hpast := WorkerSet.fromCursor_past hsplit
        have hrest : (s.past i).fromCursor.find? s.isReachableAt = s.fromCursor.find? s.isReachableAt := by
          simp [hpast, hsplit, List.find?_append, hbefore, hi]
        rw [tell_of_not_isReachableAt hnext hlive hi, ← hrest]
        refine ih fun j hj => ?_
        rw [hpast, List.drop_append] at hj
        rcases List.mem_append.mp hj with hj | hj
        · -- Selecting a place uses up at least one place of the circle for one try.
          have hle : tries + 1 ≤ before.length + (tries + 1) := Nat.le_add_left ..
          refine h j (List.drop_subset_drop_left s.fromCursor hle ?_)
          rwa [hsplit, List.drop_length_add_append, List.drop_succ_cons]
        · rcases List.mem_append.mp (List.mem_of_mem_drop hj) with hj | hj
          · exact hreach j (hdead j hj)
          · obtain rfl := List.mem_singleton.mp hj
            exact hi

/-- The worker told has one more notice in its channel, and no other worker is changed. -/
theorem tell_workers (s : WorkerSet) (tries : Nat) :
    (tell s tries).2.workers = (tell s tries).1.elim s.workers fun i => s.workers.modify i Worker.withNotice := by
  induction tries generalizing s with
  | zero => rfl
  | succ tries ih =>
    rcases s.nextLive?_cases with ⟨hnext, -⟩ | ⟨i, -, -, hnext, -, hlive, -⟩
    · rw [tell_of_none hnext]
      rfl
    · cases hi : s.isReachableAt i with
      | true =>
        rw [tell_of_isReachableAt hnext hi]
        rfl
      | false =>
        rw [tell_of_not_isReachableAt hnext hlive hi]
        exact ih (s.past i)

/-- The cursor is left behind the worker told. -/
theorem tell_cursor {tries : Nat} (h : (tell s tries).1 = some i) :
    (tell s tries).2.cursor = (i + 1) % s.size := by
  induction tries generalizing s with
  | zero => cases h
  | succ tries ih =>
    rcases s.nextLive?_cases with ⟨hnext, -⟩ | ⟨j, -, -, hnext, -, hlive, -⟩
    · rw [tell_of_none hnext] at h
      cases h
    · cases hj : s.isReachableAt j with
      | true =>
        rw [tell_of_isReachableAt hnext hj] at h ⊢
        obtain rfl := Option.some.inj h
        rfl
      | false =>
        rw [tell_of_not_isReachableAt hnext hlive hj] at h ⊢
        exact ih h

/-! ## The coordinator -/

theorem dispatch_of_terminating (h : c.terminating = true) : c.dispatch = (none, c) := by
  rw [dispatch, if_pos h]

theorem dispatch_place (h : c.terminating = false) :
    c.dispatch.1 = c.workers.fromCursor.find? c.workers.isReachableAt := by
  have hall : c.workers.fromCursor.drop c.workers.size = [] :=
    List.drop_eq_nil_of_le (by simp [WorkerSet.fromCursor])
  have hplace := tell_place (s := c.workers) fun i hi => absurd (hall ▸ hi) List.not_mem_nil
  rw [← hplace, dispatch, if_neg (by simp [h])]
  split <;> simp_all

theorem dispatch_workers (c : Coordinator) :
    c.dispatch.2.workers.workers =
      c.dispatch.1.elim c.workers.workers fun i => c.workers.workers.modify i Worker.withNotice := by
  have htell := tell_workers c.workers c.workers.size
  cases h : c.terminating with
  | true =>
    rw [dispatch_of_terminating h]
    rfl
  | false =>
    rw [dispatch, if_neg (by simp [h])]
    split <;> simp_all

theorem dispatch_worker (c : Coordinator) (i : Nat) :
    c.dispatch.2.workers.workers[i]? =
      c.workers.workers[i]?.map fun w => if c.dispatch.1 = some i then w.withNotice else w := by
  rw [dispatch_workers]
  cases c.dispatch.1 with
  | none => simp
  | some place =>
    rw [Option.elim_some, List.getElem?_modify]
    simp

@[simp] theorem dispatch_terminating (c : Coordinator) : c.dispatch.2.terminating = c.terminating := by
  rw [dispatch]
  split
  · rfl
  · split <;> rfl

/-- A worker that is told could be told. -/
theorem isReachableAt_of_dispatch (h : c.dispatch.1 = some i) : c.workers.isReachableAt i = true := by
  cases hterm : c.terminating with
  | true => rw [dispatch_of_terminating hterm] at h; cases h
  | false =>
    rw [dispatch_place hterm] at h
    exact List.find?_some h

theorem dispatch_cursor (h : c.dispatch.1 = some i) : c.dispatch.2.workers.cursor = (i + 1) % c.workers.size := by
  cases hterm : c.terminating with
  | true =>
    rw [dispatch_of_terminating hterm] at h
    cases h
  | false =>
    have htell : (tell c.workers c.workers.size).1 = some i → _ := tell_cursor
    rw [dispatch, if_neg (by simp [hterm])] at h ⊢
    split at h <;> simp_all

/-- A notice changes nobody's liveness, whether it could be sent or not. -/
theorem isLiveAt_dispatch (c : Coordinator) (i : Nat) :
    c.dispatch.2.workers.isLiveAt i = c.workers.isLiveAt i := by
  rw [WorkerSet.isLiveAt, WorkerSet.isLiveAt, dispatch_worker, Option.any_map]
  congr 1
  funext w
  by_cases hplace : c.dispatch.1 = some i
  · simp [hplace, Worker.withNotice, Worker.isLive, Worker.pid?]
  · simp [hplace]

/-- If nobody is told, nobody could be told. -/
theorem not_isReachableAt_of_dispatch (hterm : c.terminating = false) (h : c.dispatch.1 = none) (i : Nat) :
    c.workers.isReachableAt i = false := by
  rw [dispatch_place hterm, List.find?_eq_none] at h
  by_cases hi : i < c.workers.size
  · simpa using h i (WorkerSet.mem_fromCursor.mpr hi)
  · rw [WorkerSet.isReachableAt, List.getElem?_eq_none (Nat.le_of_not_lt hi)]
    rfl

/-- **A notice reaches a worker if one can be reached, and exactly one.** The worker told is the first one from the
cursor on, around the circle, that lives and whose channel takes the notice; nobody is told just if there is none. The
worker told has one more notice in its channel, and the cursor stands behind it. No other worker is changed, and none
lives or is dead that was not so before. -/
theorem dispatch_reaches (c : Coordinator) (hterm : c.terminating = false) :
    (∀ i, c.dispatch.1 = some i ↔ ∃ k < c.workers.size, i = (c.workers.cursor + k) % c.workers.size ∧
      c.workers.isReachableAt i = true ∧
      ∀ j < k, c.workers.isReachableAt ((c.workers.cursor + j) % c.workers.size) = false) ∧
    (c.dispatch.1 = none ↔ ∀ w ∈ c.workers.workers, w.isReachable = false) ∧
    (∀ i, c.dispatch.1 = some i → c.dispatch.2.workers.cursor = (i + 1) % c.workers.size) ∧
    (∀ i, c.dispatch.2.workers.workers[i]? = c.workers.workers[i]?.map fun w =>
      if c.dispatch.1 = some i
      then { w with channel := { w.channel with pending := w.channel.pending ++ Channel.notice } }
      else w) ∧
    ∀ i, c.dispatch.2.workers.isLiveAt i = c.workers.isLiveAt i := by
  refine ⟨fun i => ?_, ?_, fun i hplace => dispatch_cursor hplace, c.dispatch_worker, c.isLiveAt_dispatch⟩
  · rw [dispatch_place hterm]
    exact WorkerSet.find?_fromCursor_eq_some_iff
  · rw [WorkerSet.forall_eq_false_iff]
    constructor
    · exact fun hnone i => not_isReachableAt_of_dispatch hterm hnone i
    · intro hnot
      rw [dispatch_place hterm, List.find?_eq_none]
      intro i _
      rw [WorkerSet.isReachableAt, hnot i]
      exact Bool.false_ne_true

/-- From the second place on, one worker is dead, one has left its channel, and the channel of one is full. The circle
goes on to the last one but one. -/
theorem dispatch_reaches_fifth :
    let workers : List Worker :=
      [{ index := 0, state := .live 10 }, { index := 1, state := .dead, channel := { senderOpen := false } },
        { index := 2, state := .live 12, channel := { receiverOpen := false } },
        { index := 3, state := .live 13, channel := { pending := Channel.notice, limit := some 3 } },
        { index := 4, state := .live 14, channel := { pending := Channel.notice, limit := some 4 } },
        { index := 5, state := .live 15 }]
    let c : Coordinator := { workers := { workers := workers, cursor := 1 }, terminating := false, stop := false }
    c.dispatch.1 = some 4 ∧ c.dispatch.2.workers.cursor = 5 ∧
      (c.dispatch.2.workers.workers[4]?.map fun w => w.channel.pending) = some (Channel.notice ++ Channel.notice) ∧
      c.dispatch.2.workers.workers[3]? = workers[3]? := by
  intro workers c
  obtain ⟨hplace, -, hcursor, hworker, -⟩ := dispatch_reaches c rfl
  have htold : c.dispatch.1 = some 4 := (hplace 4).mpr ⟨3, by decide, by decide, by decide, by decide⟩
  refine ⟨htold, hcursor 4 htold, ?_, ?_⟩
  · rw [hworker 4, htold]
    rfl
  · rw [hworker 3, htold]
    rfl

/-! ## Deaths -/

/-- The worker at each place is as before, or has died. -/
def Outlived (s t : WorkerSet) : Prop :=
  ∀ i : Nat, t.workers[i]? = s.workers[i]? ∨ t.workers[i]? = s.workers[i]?.map Worker.markDead

theorem Outlived.refl (s : WorkerSet) : Outlived s s := fun _ => .inl rfl

theorem Outlived.trans {u : WorkerSet} (h : Outlived s t) (h' : Outlived t u) : Outlived s u := by
  intro i
  rcases h' i with hu | hu <;> rcases h i with ht | ht <;> rw [hu, ht]
  · exact .inl rfl
  · exact .inr rfl
  · exact .inr rfl
  · rw [Option.map_map]
    exact .inr rfl

/-- Who lives has lived before. -/
theorem Outlived.isLiveAt (h : Outlived s t) (hlive : t.isLiveAt i = true) : s.isLiveAt i = true := by
  rw [WorkerSet.isLiveAt] at hlive ⊢
  rcases h i with hw | hw <;> rw [hw] at hlive
  · exact hlive
  · rw [Option.any_map] at hlive
    obtain ⟨w, -, hdead⟩ := (Option.any_eq_true ..).mp hlive
    cases hdead

theorem outlived_markReaped (s : WorkerSet) (pid : Int) : Outlived s (s.markReaped pid).2 := by
  intro i
  rw [WorkerSet.markReaped]
  split
  · exact .inl rfl
  · rename_i place _
    have hworker := s.worker_modify place i Worker.markDead
    by_cases hi : place = i
    · exact .inr (hworker.trans (by simp [hi]))
    · exact .inl (hworker.trans (by simp [hi]))

theorem outlived_onChildExit (c : Coordinator) (pid : Int) : Outlived c.workers (c.onChildExit pid).workers :=
  outlived_markReaped c.workers pid

theorem outlived_foldl_onChildExit (c : Coordinator) (pids : List Int) :
    Outlived c.workers (pids.foldl onChildExit c).workers := by
  induction pids generalizing c with
  | nil => exact Outlived.refl _
  | cons pid rest ih => exact (outlived_onChildExit c pid).trans (ih _)

/-- A signal does no more to a worker than its death does. -/
theorem outlived_handleSignal (c : Coordinator) (children : Children) (signal : Signal) :
    Outlived c.workers (c.handleSignal children signal).1.workers := by
  rw [handleSignal]
  split
  · exact outlived_foldl_onChildExit c children.ended
  · split <;> exact Outlived.refl _

@[simp] theorem terminating_foldl_onChildExit (c : Coordinator) (pids : List Int) :
    (pids.foldl onChildExit c).terminating = c.terminating := by
  induction pids generalizing c with
  | nil => rfl
  | cons pid rest ih => exact ih (c.onChildExit pid)

end Coordinator

end StaticServer
