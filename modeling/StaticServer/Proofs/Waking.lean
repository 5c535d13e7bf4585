import StaticServer.Jobs.Semaphore
import StaticServer.Proofs.Runs

/-!
# No wake-up is lost

A thread that has just come may take the unit for which another thread was woken, and a sleeper may wake without a
post, so posts and threads that go on are not matched one to one. What carries the proofs is weaker: while anybody
sleeps, there are at least as many woken threads as units. Each of them looks at the count again, so no unit is left to
threads that sleep.

* `Semaphore.Balanced`: the invariant, given the units and the threads that there have been.
* `Semaphore.balanced_step`, `Semaphore.balanced_run`: every step keeps it, and so does every run.
* `Semaphore.settle_settles`: letting the threads that are awake look leads to a state where none is.
* `Semaphore.run_wakes`: what holds of every state that a run leads to.
-/

namespace StaticServer

namespace Semaphore

/-- The invariant of a semaphore that has been given these units and on which so many threads have started to wait. -/
structure Balanced (units waits : Nat) (s : Semaphore) : Prop where
  /-- Each unit is there, or a thread has returned with it. -/
  units : s.count + s.returned = units
  /-- Each thread that has started to wait is at one of the four points. -/
  waits : s.arriving + s.asleep + s.woken + s.returned = waits
  /-- While anybody sleeps, each unit has a woken thread that will look for it. -/
  awake : s.asleep = 0 ∨ s.count ≤ s.woken

variable {s t : Semaphore} {units waits : Nat}

theorem balanced_start (initial : Nat) : Balanced initial 0 { count := initial } where
  units := rfl
  waits := rfl
  awake := .inl rfl

/-! ## Steps -/

/-- A post brings a unit, and with it a woken thread if anybody sleeps. -/
theorem Balanced.post (h : s.Balanced units waits) : s.post.Balanced (units + 1) waits := by
  obtain ⟨hunits, hwaits, hawake⟩ := h
  unfold Semaphore.post
  split
  · next hnone => exact ⟨by simp only; omega, hwaits, .inl hnone⟩
  · next hsome =>
    refine ⟨by simp only; omega, by simp only; omega, .inr ?_⟩
    simp only
    omega

theorem Balanced.arrive (h : s.Balanced units waits) :
    Balanced units (waits + 1) { s with arriving := s.arriving + 1 } where
  units := h.units
  waits := by
    have := h.waits
    simp only
    omega
  awake := h.awake

/-- A thread looks at the count. It is counted nowhere while it does, so the sleepers are one woken thread short. -/
theorem balanced_take (hunits : s.count + s.returned = units)
    (hwaits : s.arriving + s.asleep + s.woken + s.returned + 1 = waits)
    (hawake : s.asleep = 0 ∨ s.count ≤ s.woken + 1) : s.take.Balanced units waits := by
  unfold Semaphore.take
  split
  · next hnone =>
    refine ⟨hunits, by simp only; omega, .inr ?_⟩
    simp only
    omega
  · next hsome =>
    refine ⟨by simp only; omega, by simp only; omega, hawake.imp_right fun hle => ?_⟩
    simp only
    omega

/-- A thread that has just started to wait looks: it may overtake the woken ones. -/
theorem Balanced.look (h : s.Balanced units waits) (hne : s.arriving ≠ 0) :
    Balanced units waits { s with arriving := s.arriving - 1 }.take := by
  have hwaits := h.waits
  refine balanced_take h.units ?_ (h.awake.imp_right fun hle => Nat.le_succ_of_le hle)
  simp only
  omega

/-- A woken thread looks: if it has been overtaken, it sleeps again. -/
theorem Balanced.lookAgain (h : s.Balanced units waits) (hne : s.woken ≠ 0) :
    Balanced units waits { s with woken := s.woken - 1 }.take := by
  have hwaits := h.waits
  refine balanced_take h.units ?_ (h.awake.imp_right fun hle => ?_)
  · simp only
    omega
  · simp only
    omega

/-- A sleeper that wakes by itself is one woken thread more. -/
theorem Balanced.wake (h : s.Balanced units waits) (hne : s.asleep ≠ 0) :
    Balanced units waits { s with asleep := s.asleep - 1, woken := s.woken + 1 } := by
  have hwaits := h.waits
  refine ⟨h.units, ?_, h.awake.elim (fun hzero => absurd hzero hne) fun hle => .inr (Nat.le_succ_of_le hle)⟩
  simp only
  omega

/-- Every step keeps the invariant. -/
theorem balanced_step (action : Action) (h : s.Balanced units waits) (hstep : s.step? action = some t) :
    t.Balanced (units + [action].count .post) (waits + [action].count .arrive) := by
  cases action with
  | post =>
    obtain rfl := Option.some.inj hstep
    exact h.post
  | arrive =>
    obtain rfl := Option.some.inj hstep
    exact h.arrive
  | look =>
    obtain ⟨hne, hstep⟩ := Option.ite_none_left_eq_some.mp hstep
    obtain rfl := Option.some.inj hstep
    exact h.look hne
  | lookAgain =>
    obtain ⟨hne, hstep⟩ := Option.ite_none_left_eq_some.mp hstep
    obtain rfl := Option.some.inj hstep
    exact h.lookAgain hne
  | wake =>
    obtain ⟨hne, hstep⟩ := Option.ite_none_left_eq_some.mp hstep
    obtain rfl := Option.some.inj hstep
    exact h.wake hne

/-- Every run keeps the invariant: its posts bring units, and its arrivals bring threads. -/
theorem balanced_run {actions : List Action} (h : s.Balanced units waits) (hrun : s.run? actions = some t) :
    t.Balanced (units + actions.count .post) (waits + actions.count .arrive) := by
  induction actions generalizing s units waits with
  | nil =>
    obtain rfl := Option.some.inj hrun
    exact h
  | cons action rest ih =>
    rw [run?, List.foldlM_cons] at hrun
    obtain ⟨u, hstep, hrest⟩ := Option.bind_eq_some_iff.mp hrun
    show t.Balanced (units + ([action] ++ rest).count .post) (waits + ([action] ++ rest).count .arrive)
    rw [List.count_append, List.count_append, ← Nat.add_assoc, ← Nat.add_assoc]
    exact ih (balanced_step action h hstep) hrest

/-! ## Threads that are awake go on -/

/-- A step in which a thread looks at the count. -/
def Action.IsLook (action : Action) : Prop := action = .look ∨ action = .lookAgain

theorem take_arriving (s : Semaphore) : s.take.arriving = s.arriving := by
  unfold take
  split <;> rfl

theorem take_woken (s : Semaphore) : s.take.woken = s.woken := by
  unfold take
  split <;> rfl

/-- As long as a thread is awake, one can look, and then one less is awake. -/
theorem exists_look {n : Nat} (h : s.arriving + s.woken = n + 1) :
    ∃ action t, action.IsLook ∧ s.step? action = some t ∧
      ((s.step? .lookAgain).or (s.step? .look)).getD s = t ∧ t.arriving + t.woken = n := by
  by_cases hwoken : s.woken = 0
  · have harriving : s.arriving ≠ 0 := by omega
    have hlook : s.step? .look = some { s with arriving := s.arriving - 1 }.take := if_neg harriving
    have hagain : s.step? .lookAgain = none := if_pos hwoken
    refine ⟨.look, _, .inl rfl, hlook, by rw [hagain, hlook]; rfl, ?_⟩
    rw [take_arriving, take_woken]
    simp only
    omega
  · have hagain : s.step? .lookAgain = some { s with woken := s.woken - 1 }.take := if_neg hwoken
    refine ⟨.lookAgain, _, .inr rfl, hagain, by rw [hagain]; rfl, ?_⟩
    rw [take_arriving, take_woken]
    simp only
    omega

/-- Letting each thread that is awake look is a run, after which none is awake. -/
theorem settle_settles (s : Semaphore) :
    ∃ actions, (∀ action ∈ actions, action.IsLook) ∧ s.run? actions = some s.settle ∧ s.settle.isSettled = true := by
  unfold settle
  generalize hn : s.arriving + s.woken = n
  induction n generalizing s with
  | zero =>
    have hsettled : s.isSettled = true := by
      rw [isSettled, Bool.and_eq_true, beq_iff_eq, beq_iff_eq]
      omega
    exact ⟨[], List.forall_mem_nil _, rfl, hsettled⟩
  | succ n ih =>
    obtain ⟨action, t, hlook, hstep, hnext, hawake⟩ := exists_look hn
    obtain ⟨rest, hrest, hrun, hsettled⟩ := ih t hawake
    rw [List.replicate_succ, List.foldl_cons, hnext]
    exact ⟨action :: rest, List.forall_mem_cons.mpr ⟨hlook, hrest⟩, List.foldlM_option_cons hstep hrun, hsettled⟩

/-! ## States that a run leads to -/

/-- Where no thread is awake, as many have returned as there are units for. -/
theorem Balanced.returned_of_isSettled (h : s.Balanced units waits) (hsettled : s.isSettled = true) :
    s.returned = min waits units := by
  obtain ⟨hunits, hwaits, hawake⟩ := h
  rw [isSettled, Bool.and_eq_true, beq_iff_eq, beq_iff_eq] at hsettled
  omega

/-- Looking brings neither units nor threads. -/
theorem Balanced.settle (h : s.Balanced units waits) : s.settle.Balanced units waits := by
  obtain ⟨actions, hlook, hrun, -⟩ := settle_settles s
  have hnone {a : Action} (ha : ¬a.IsLook) : actions.count a = 0 :=
    List.count_eq_zero.mpr fun hmem => ha (hlook a hmem)
  have hsettled := balanced_run h hrun
  rwa [hnone (by simp [Action.IsLook]), hnone (by simp [Action.IsLook])] at hsettled

/-- **No wake-up is lost.** In every state that a run leads to: there have been as many units as threads have returned
and units are left; every thread that started to wait is at one of its points; as long as a unit is there, nobody
sleeps unless a woken thread is about to look. Where each thread has returned or sleeps, as many have returned as there
have been threads and units for; and letting those that are awake look leads there. -/
theorem run_wakes (initial : Nat) {actions : List Action} {s : Semaphore}
    (h : ({ count := initial } : Semaphore).run? actions = some s) :
    (s.returned ≤ initial + actions.count .post ∧ s.count = initial + actions.count .post - s.returned) ∧
    s.arriving + s.asleep + s.woken + s.returned = actions.count .arrive ∧
    (s.asleep ≠ 0 → s.count ≤ s.woken) ∧
    (s.isSettled = true → s.returned = min (actions.count .arrive) (initial + actions.count .post)) ∧
    (∃ looks, (∀ action ∈ looks, action.IsLook) ∧ s.run? looks = some s.settle ∧ s.settle.isSettled = true ∧
      s.settle.returned = min (actions.count .arrive) (initial + actions.count .post)) := by
  have hs : s.Balanced (initial + actions.count .post) (actions.count .arrive) := by
    have := balanced_run (balanced_start initial) h
    rwa [Nat.zero_add] at this
  have hunits := hs.units
  obtain ⟨looks, hlook, hrun, hsettled⟩ := settle_settles s
  exact ⟨⟨by omega, by omega⟩, hs.waits, hs.awake.resolve_left, hs.returned_of_isSettled,
    looks, hlook, hrun, hsettled, hs.settle.returned_of_isSettled hsettled⟩

/-- A newcomer takes the unit for which a sleeper was woken, which then sleeps again, and another sleeper wakes by
itself: one thread has returned with the only unit, and the other two sleep. -/
theorem run_wakes_overtaken :
    ∃ s : Semaphore,
      ({ count := 0 } : Semaphore).run? [.arrive, .look, .arrive, .look, .post, .arrive, .look, .lookAgain, .wake,
        .lookAgain] = some s ∧
      s.asleep = 2 ∧ s.isSettled = true ∧ s.returned = min 3 (0 + 1) := by
  have h : ({ count := 0 } : Semaphore).run? [.arrive, .look, .arrive, .look, .post, .arrive, .look, .lookAgain, .wake,
      .lookAgain] = some { count := 0, asleep := 2, returned := 1 } := rfl
  obtain ⟨-, -, -, hsettled, -⟩ := run_wakes 0 h
  exact ⟨_, h, rfl, rfl, hsettled rfl⟩

end Semaphore

end StaticServer
