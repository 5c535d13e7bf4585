import StaticServer.Jobs.Flow
import StaticServer.Proofs.Runs

/-!
# Jobs are kept in order

Whatever producers and workers do between each other's half steps, no job is lost, taken twice or overtaken. The count
that carries this: each item of the queue has its unit on the semaphore, or with a worker that has not taken its item
yet, or still with its producer.

* `JobFlow.Sound`: the invariant.
* `JobFlow.sound_step`, `JobFlow.sound_run`: every step keeps it, and so does every run.
* `JobFlow.run_conserves`: what holds of every flow that a run leads to.
-/

namespace StaticServer

variable {α : Type}

/-- The worker has taken a unit and no job yet. -/
def WorkerPlace.isClaiming : WorkerPlace α → Bool
  | claiming => true
  | _ => false

namespace JobFlow

/-- How many workers have taken a unit and no job yet. -/
def claims (f : JobFlow α) : Nat := f.workers.countP WorkerPlace.isClaiming

/-- The jobs that a worker took, in order. -/
def takenBy (f : JobFlow α) (worker : Nat) : List α := (f.taken.filter fun t => t.1 == worker).map Prod.snd

/-- The invariant of a flow whose queue has this capacity. -/
structure Sound (capacity : Nat) (f : JobFlow α) : Prop where
  capacity_eq : f.queue.capacity = capacity
  size_le : f.queue.size ≤ capacity
  /-- Each item has its unit somewhere. -/
  units : f.queue.units + f.claims + f.posting = f.queue.size
  accepted : f.accepted = f.taken.map Prod.snd ++ f.queue.items
  /-- A worker works on the job that it took last. -/
  working : ∀ worker job, f.workers[worker]? = some (.working job) → (f.takenBy worker).getLast? = some job

variable {capacity : Nat} {f : JobFlow α}

theorem sound_start (capacity workers : Nat) : Sound capacity (start capacity workers : JobFlow α) where
  capacity_eq := rfl
  size_le := Nat.zero_le _
  units := by
    have hclaims : (start capacity workers : JobFlow α).claims = 0 := by
      rw [claims, List.countP_eq_zero]
      intro place hplace
      rw [List.eq_of_mem_replicate hplace]
      exact Bool.false_ne_true
    rw [hclaims]
    rfl
  accepted := rfl
  working := fun worker job h => by
    have hjob := List.eq_of_mem_replicate (List.mem_of_getElem? h)
    cases hjob

/-! ## Steps -/

/-- A job is handed back if the queue is full, and then nothing changes. -/
theorem offer_of_isFull (h : f.queue.isFull = true) (job : α) : f.offer job = (f, some job) := by
  simp [offer, JobQueue.enqueue?, h]

/-- A job is accepted if the queue has room for it. -/
theorem offer_of_room (h : f.queue.isFull = false) (job : α) :
    f.offer job = ({ f with
      queue := { f.queue with items := f.queue.items ++ [job] }
      posting := f.posting + 1
      accepted := f.accepted ++ [job] }, none) := by
  simp [offer, JobQueue.enqueue?, h]

theorem isFull_iff (h : f.Sound capacity) : f.queue.isFull = true ↔ f.queue.size = capacity := by
  have hle := h.size_le
  rw [JobQueue.isFull, decide_eq_true_iff, h.capacity_eq]
  omega

theorem Sound.offer (h : f.Sound capacity) (job : α) : (f.offer job).1.Sound capacity := by
  cases hfull : f.queue.isFull with
  | true =>
    rw [offer_of_isFull hfull]
    exact h
  | false =>
    have hne : f.queue.size ≠ capacity := fun heq => Bool.false_ne_true (hfull.symm.trans ((isFull_iff h).mpr heq))
    have hsize : (f.queue.items ++ [job]).length = f.queue.size + 1 := by simp [JobQueue.size]
    have hle := h.size_le
    have hunits := h.units
    rw [offer_of_room hfull]
    refine ⟨h.capacity_eq, ?_, ?_, ?_, h.working⟩
    · show (f.queue.items ++ [job]).length ≤ capacity
      omega
    · show f.queue.units + f.claims + (f.posting + 1) = (f.queue.items ++ [job]).length
      omega
    · show f.accepted ++ [job] = f.taken.map Prod.snd ++ (f.queue.items ++ [job])
      rw [h.accepted, List.append_assoc]

/-- A producer adds the unit of its job. -/
theorem Sound.post (h : f.Sound capacity) (hp : f.posting ≠ 0) :
    Sound capacity { f with queue := f.queue.post, posting := f.posting - 1 } := by
  refine ⟨h.capacity_eq, h.size_le, ?_, h.accepted, h.working⟩
  have hunits := h.units
  show f.queue.units + 1 + f.claims + (f.posting - 1) = f.queue.size
  omega

/-- What a worker claims more or less when it goes to another place. -/
theorem claims_setWorker {worker : Nat} {old : WorkerPlace α} (h : f.workers[worker]? = some old)
    (new : WorkerPlace α) :
    (f.setWorker worker new).claims + old.isClaiming.toNat = f.claims + new.isClaiming.toNat :=
  List.countP_set_add WorkerPlace.isClaiming h new

/-- A worker that goes to a place without a job leaves the others at work. -/
theorem working_setWorker {worker other : Nat} {new : WorkerPlace α} {job : α} (hnew : ∀ job, new ≠ .working job)
    (h : (f.setWorker worker new).workers[other]? = some (.working job)) : f.workers[other]? = some (.working job) := by
  rw [setWorker, List.getElem?_set] at h
  split at h
  · split at h
    · exact absurd (Option.some.inj h) (hnew job)
    · cases h
  · exact h

/-- A waiting worker takes a unit. -/
theorem Sound.acquire {worker : Nat} (h : f.Sound capacity) (hw : f.workers[worker]? = some .waiting)
    (hu : f.queue.units ≠ 0) :
    Sound capacity
      ({ f with queue := { f.queue with units := f.queue.units - 1 } }.setWorker worker .claiming) := by
  have hclaims : (f.setWorker worker .claiming).claims + 0 = f.claims + 1 := claims_setWorker hw .claiming
  have hunits := h.units
  refine ⟨h.capacity_eq, h.size_le, ?_, h.accepted, ?_⟩
  · show f.queue.units - 1 + (f.setWorker worker .claiming).claims + f.posting = f.queue.size
    omega
  · exact fun other job hother => h.working other job (working_setWorker (fun _ => by rintro ⟨⟩) hother)

/-- A worker that is done waits again. -/
theorem Sound.finish {worker : Nat} {job : α} (h : f.Sound capacity)
    (hw : f.workers[worker]? = some (.working job)) : Sound capacity (f.setWorker worker .waiting) := by
  have hclaims : (f.setWorker worker .waiting).claims + 0 = f.claims + 0 := claims_setWorker hw .waiting
  have hunits := h.units
  refine ⟨h.capacity_eq, h.size_le, ?_, h.accepted, ?_⟩
  · show f.queue.units + (f.setWorker worker .waiting).claims + f.posting = f.queue.size
    omega
  · exact fun other job hother => h.working other job (working_setWorker (fun _ => by rintro ⟨⟩) hother)

/-- A worker that has taken a unit finds a job. -/
theorem Sound.items_of_claiming {worker : Nat} (h : f.Sound capacity) (hw : f.workers[worker]? = some .claiming) :
    ∃ job rest, f.queue.items = job :: rest := by
  have hclaims : 0 < f.claims := List.countP_pos_iff.mpr ⟨.claiming, List.mem_of_getElem? hw, rfl⟩
  have hunits := h.units
  refine List.exists_cons_of_length_pos ?_
  show 0 < f.queue.size
  omega

/-- The flow in which a worker has taken the first of some jobs. -/
def withTaken (f : JobFlow α) (worker : Nat) (job : α) (rest : List α) : JobFlow α :=
  { f with
    queue := { f.queue with items := rest }
    taken := f.taken ++ [(worker, job)] }.setWorker worker (.working job)

theorem step_take {worker : Nat} {job : α} {rest : List α} (hw : f.workers[worker]? = some .claiming)
    (hitems : f.queue.items = job :: rest) : f.step? (.take worker) = some (f.withTaken worker job rest) := by
  simp [step?, hw, JobQueue.dequeue?, hitems, withTaken]

theorem Sound.take {worker : Nat} {job : α} {rest : List α} (h : f.Sound capacity)
    (hw : f.workers[worker]? = some .claiming) (hitems : f.queue.items = job :: rest) :
    Sound capacity (f.withTaken worker job rest) := by
  have hsize : f.queue.size = rest.length + 1 := by rw [JobQueue.size, hitems, List.length_cons]
  have hclaims : (f.setWorker worker (.working job)).claims + 1 = f.claims + 0 := claims_setWorker hw (.working job)
  have hunits := h.units
  have hle := h.size_le
  refine ⟨h.capacity_eq, ?_, ?_, ?_, ?_⟩
  · show rest.length ≤ capacity
    omega
  · show f.queue.units + (f.setWorker worker (.working job)).claims + f.posting = rest.length
    omega
  · show f.accepted = (f.taken ++ [(worker, job)]).map Prod.snd ++ rest
    simp [h.accepted, hitems]
  · intro other job' hother
    show (((f.taken ++ [(worker, job)]).filter fun t => t.1 == other).map Prod.snd).getLast? = some job'
    by_cases heq : worker = other
    · have hlt : worker < f.workers.length := (List.getElem?_eq_some_iff.mp hw).1
      have hjob : (f.workers.set worker (.working job))[other]? = some (.working job') := hother
      rw [← heq, List.getElem?_set_self hlt] at hjob
      obtain rfl : job = job' := by simpa using hjob
      simp [heq]
    · have hjob : (f.workers.set worker (.working job))[other]? = some (.working job') := hother
      rw [List.getElem?_set_ne heq] at hjob
      have hlast := h.working other job' hjob
      rw [takenBy] at hlast
      simpa [heq] using hlast

/-- Every step keeps the invariant. -/
theorem sound_step {g : JobFlow α} (action : Action α) (h : f.Sound capacity) (hstep : f.step? action = some g) :
    g.Sound capacity := by
  cases action with
  | offer job =>
    obtain rfl := Option.some.inj hstep
    exact h.offer job
  | post =>
    simp only [step?] at hstep
    split at hstep
    · cases hstep
    · obtain rfl := Option.some.inj hstep
      exact h.post ‹_›
  | acquire worker =>
    cases hw : f.workers[worker]? with
    | none => simp [step?, hw] at hstep
    | some place =>
      cases place with
      | waiting =>
        by_cases hu : f.queue.units = 0
        · simp [step?, hw, JobQueue.acquire?, hu] at hstep
        · simp only [step?, hw, JobQueue.acquire?, if_neg hu, Option.some.injEq] at hstep
          subst hstep
          exact h.acquire hw hu
      | claiming => simp [step?, hw] at hstep
      | working job => simp [step?, hw] at hstep
  | take worker =>
    cases hw : f.workers[worker]? with
    | none => simp [step?, hw] at hstep
    | some place =>
      cases place with
      | waiting => simp [step?, hw] at hstep
      | claiming =>
        obtain ⟨job, rest, hitems⟩ := h.items_of_claiming hw
        rw [step_take hw hitems] at hstep
        obtain rfl := Option.some.inj hstep
        exact h.take hw hitems
      | working job => simp [step?, hw] at hstep
  | finish worker =>
    cases hw : f.workers[worker]? with
    | none => simp [step?, hw] at hstep
    | some place =>
      cases place with
      | waiting => simp [step?, hw] at hstep
      | claiming => simp [step?, hw] at hstep
      | working job =>
        simp only [step?, hw, Option.some.injEq] at hstep
        subst hstep
        exact h.finish hw

/-- Every run keeps the invariant. -/
theorem sound_run {workers : Nat} {actions : List (Action α)} (h : (start capacity workers).run? actions = some f) :
    f.Sound capacity :=
  List.foldlM_option_induction (motive := Sound capacity) (fun _ action _ hf => sound_step action hf)
    (sound_start capacity workers) h

/-! ## Flows that a run leads to -/

/-- A job is handed back just if the queue holds as many items as it may. -/
theorem Sound.offer_cases (h : f.Sound capacity) (job : α) :
    (f.queue.size = capacity ∧ f.offer job = (f, some job)) ∨
      (f.queue.size < capacity ∧ (f.offer job).2 = none ∧
        (f.offer job).1.queue.items = f.queue.items ++ [job] ∧ (f.offer job).1.accepted = f.accepted ++ [job]) := by
  cases hfull : f.queue.isFull with
  | true => exact .inl ⟨(isFull_iff h).mp hfull, offer_of_isFull hfull job⟩
  | false =>
    have hne : f.queue.size ≠ capacity := fun heq => Bool.false_ne_true (hfull.symm.trans ((isFull_iff h).mpr heq))
    rw [offer_of_room hfull]
    exact .inr ⟨Nat.lt_of_le_of_ne h.size_le hne, rfl, rfl, rfl⟩

/-- An accepted job has been taken, by one worker, or is in the queue behind those before it. -/
theorem Sound.accepted_cases (h : f.Sound capacity) {n : Nat} {job : α} (hjob : f.accepted[n]? = some job) :
    (n < f.taken.length ∧ ∃! worker, f.taken[n]? = some (worker, job)) ∨
      (f.taken.length ≤ n ∧ f.queue.items[n - f.taken.length]? = some job) := by
  rw [h.accepted, List.getElem?_append, List.length_map] at hjob
  split at hjob
  · obtain ⟨⟨worker, job'⟩, ht, rfl⟩ := Option.map_eq_some_iff.mp ((List.getElem?_map ..).symm.trans hjob)
    refine .inl ⟨‹_›, worker, ht, fun other hother => ?_⟩
    rw [ht] at hother
    exact (congrArg Prod.fst (Option.some.inj hother)).symm
  · exact .inr ⟨Nat.le_of_not_lt ‹_›, hjob⟩

/-- A worker has to wait for a unit only if the queue is empty, unless somebody is between two half steps. -/
theorem Sound.items_of_blocked {worker : Nat} (h : f.Sound capacity) (hp : f.posting = 0) (hc : f.claims = 0)
    (hw : f.workers[worker]? = some .waiting) (hblocked : f.step? (.acquire worker) = none) : f.queue.items = [] := by
  have hunits := h.units
  rw [hp, hc] at hunits
  by_cases hu : f.queue.units = 0
  · refine List.eq_nil_of_length_eq_zero ?_
    show f.queue.size = 0
    omega
  · simp [step?, hw, JobQueue.acquire?, hu] at hblocked

/-- **No job is lost, duplicated or overtaken.** In every flow that a run of half steps leads to: the queue holds no
more than its capacity; units and claims make up the items whose producers are done, so a worker with a unit finds a
job; jobs were taken in the order in which they were accepted, each by one worker, which works on it, and the others
are in the queue; a job is handed back just if the queue is full, and then nothing changes; with nobody between two
half steps, a worker is blocked only on an empty queue. -/
theorem run_conserves (capacity workers : Nat) {actions : List (Action α)} {f : JobFlow α}
    (h : (start capacity workers).run? actions = some f) :
    f.queue.size ≤ capacity ∧
    (f.posting ≤ f.queue.size ∧ f.queue.units + f.claims = f.queue.size - f.posting) ∧
    (∀ worker, f.workers[worker]? = some .claiming →
      ∃ job rest, f.queue.items = job :: rest ∧ f.step? (.take worker) = some (f.withTaken worker job rest)) ∧
    f.accepted = f.taken.map Prod.snd ++ f.queue.items ∧
    (∀ n job, f.accepted[n]? = some job →
      (n < f.taken.length ∧ ∃! worker, f.taken[n]? = some (worker, job)) ∨
        (f.taken.length ≤ n ∧ f.queue.items[n - f.taken.length]? = some job)) ∧
    (∀ worker job, f.workers[worker]? = some (.working job) → (f.takenBy worker).getLast? = some job) ∧
    (∀ job, (f.queue.size = capacity ∧ f.offer job = (f, some job)) ∨
      (f.queue.size < capacity ∧ (f.offer job).2 = none ∧
        (f.offer job).1.queue.items = f.queue.items ++ [job] ∧ (f.offer job).1.accepted = f.accepted ++ [job])) ∧
    (f.posting = 0 → f.claims = 0 → ∀ worker, f.workers[worker]? = some .waiting →
      f.step? (.acquire worker) = none → f.queue.items = []) := by
  have hf := sound_run h
  have hunits := hf.units
  refine ⟨hf.size_le, ⟨by omega, by omega⟩, ?_, hf.accepted, fun n job => hf.accepted_cases, hf.working,
    hf.offer_cases, fun hp hc worker => hf.items_of_blocked hp hc⟩
  intro worker hw
  obtain ⟨job, rest, hitems⟩ := hf.items_of_claiming hw
  exact ⟨job, rest, hitems, step_take hw hitems⟩

/-- One worker is at work and another one between its two steps, behind a job that was handed back. -/
theorem run_conserves_claiming :
    ∃ f : JobFlow Nat,
      (start 2 2).run? [.offer 7, .offer 8, .post, .acquire 1, .offer 9, .take 1, .post, .acquire 0] = some f ∧
      f.workers = [.claiming, .working 7] ∧ f.accepted = f.taken.map Prod.snd ++ f.queue.items ∧
      ∃ job rest, f.queue.items = job :: rest ∧ f.step? (.take 0) = some (f.withTaken 0 job rest) := by
  have h : (start 2 2).run? [.offer 7, .offer 8, .post, .acquire 1, .offer 9, .take 1, .post, .acquire 0] =
      some { queue := { capacity := 2, items := [8] }
             workers := [.claiming, .working 7]
             accepted := [7, 8]
             taken := [(1, 7)] } := rfl
  obtain ⟨-, -, hclaiming, horder, -⟩ := run_conserves 2 2 h
  exact ⟨_, h, rfl, horder, hclaiming 0 rfl⟩

end JobFlow

end StaticServer
