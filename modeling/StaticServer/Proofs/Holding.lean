import Mathlib.Data.List.Nodup
import StaticServer.Proofs.Runs
import StaticServer.Service.Threads

/-!
# Who holds a session

A session goes from hand to hand: its watch is armed, or it has been reported to the loop, or the loop is at work on it,
or it is in the queue, or a worker runs it. Nothing but the order of these hand-overs keeps two threads from the same
session, so the places are counted, and the count of each session is what every step keeps.

* `ThreadService.holds`: in how many hands a session is.
* `ThreadService.Kept`: a session in the table is in one hand, any other session in none.
* `ThreadService.Kept.move`, `ThreadService.Kept.enter`, `ThreadService.Kept.leave`, `ThreadService.Kept.release`: the
  four kinds of step. A session goes to another hand, comes into the table, leaves it to be closed, or is closed.
-/

namespace StaticServer

namespace SessionWork

/-- A thread opens this session or gives it its turn. -/
def serves (x : Session) : SessionWork → Bool
  | opening y => y == x
  | turn t => t.session == x
  | closing _ => false

/-- A thread is about to close the stream of this session. -/
def closes (x : Session) : SessionWork → Bool
  | closing y => y == x
  | _ => false

/-- The loop is about to watch the stream of this session. -/
def opens (x : Session) : SessionWork → Bool
  | opening y => y == x
  | _ => false

variable {x y : Session}

@[simp] theorem toNat_serves_opening : ((opening x).serves y).toNat = if x = y then 1 else 0 := by
  by_cases h : x = y <;> simp [serves, h]

@[simp] theorem toNat_serves_turn {u : Turn} : ((turn u).serves y).toNat = if u.session = y then 1 else 0 := by
  by_cases h : u.session = y <;> simp [serves, h]

@[simp] theorem toNat_closes_closing : ((closing x).closes y).toNat = if x = y then 1 else 0 := by
  by_cases h : x = y <;> simp [closes, h]

@[simp] theorem toNat_opens_opening : ((opening x).opens y).toNat = if x = y then 1 else 0 := by
  by_cases h : x = y <;> simp [opens, h]

theorem toNat_opens_le_serves (work : SessionWork) (x : Session) : (work.opens x).toNat ≤ (work.serves x).toNat := by
  cases work with
  | opening y => exact Nat.le_refl _
  | turn t => exact Nat.zero_le _
  | closing y => exact Nat.zero_le _

end SessionWork

namespace ThreadService

variable {s t : ThreadService} {x y : Session}

/-! ## Hands -/

/-- The armed watches on a session. -/
def armed (s : ThreadService) (x : Session) : Nat := s.watches.countP fun w => w.session == x && w.armed

/-- The watches on a session. -/
def watched (s : ThreadService) (x : Session) : Nat := s.watches.countP fun w => w.session == x

/-- The events of a session that the loop has collected. -/
def reported (s : ThreadService) (x : Session) : Nat := s.reports.countP fun r => r.session == x

/-- Whether the loop is at work on a session that is not being closed. -/
def handled (s : ThreadService) (x : Session) : Nat := (s.loop.any (SessionWork.serves x)).toNat

/-- The places of a session in the queue. -/
def queued (s : ThreadService) (x : Session) : Nat := s.queue.items.countP fun t => t.session == x

/-- The workers that give a session its turn. -/
def running (s : ThreadService) (x : Session) : Nat := s.workers.countP fun work => work.any (SessionWork.serves x)

/-- In how many hands a session is. -/
def holds (s : ThreadService) (x : Session) : Nat :=
  s.armed x + (s.reported x + s.handled x) + s.queued x + s.running x

/-- The threads that are about to close the stream of a session. -/
def closings (s : ThreadService) (x : Session) : Nat :=
  (s.loop.any (SessionWork.closes x)).toNat + s.workers.countP fun work => work.any (SessionWork.closes x)

/-- Whether the loop is about to watch the stream of a session. -/
def openings (s : ThreadService) (x : Session) : Nat := (s.loop.any (SessionWork.opens x)).toNat

theorem openings_le_handled (s : ThreadService) (x : Session) : s.openings x ≤ s.handled x := by
  rw [openings, handled]
  cases s.loop with
  | none => exact Nat.le_refl _
  | some work => exact work.toNat_opens_le_serves x

/-! ## What the operations do to the counts -/

theorem watched_setWatch {f : SessionWatch → SessionWatch} (hf : ∀ w, (f w).session = w.session) (x y : Session) :
    (s.setWatch x f).watched y = s.watched y := by
  rw [watched, setWatch, List.countP_map]
  refine List.countP_congr fun w _ => ?_
  by_cases hw : w.session = x <;> simp [hw, hf]

@[simp] theorem watched_arm (interest : Interest) : (s.arm x interest).watched y = s.watched y := by
  rw [arm, watched_setWatch]
  exact fun _ => rfl

@[simp] theorem watched_rest : (s.rest x).watched y = s.watched y := by
  rw [rest, watched_setWatch]
  exact fun _ => rfl

theorem armed_arm (interest : Interest) : (s.arm x interest).armed y = if x = y then s.watched y else s.armed y := by
  rw [armed, arm, setWatch, List.countP_map]
  by_cases hxy : x = y
  · rw [if_pos hxy, watched]
    refine List.countP_congr fun w _ => ?_
    by_cases hw : w.session = y <;> simp [hw, hxy]
  · rw [if_neg hxy, armed]
    refine List.countP_congr fun w _ => ?_
    by_cases hw : w.session = x <;> simp [hw, hxy]

theorem armed_rest : (s.rest x).armed y = if x = y then 0 else s.armed y := by
  rw [armed, rest, setWatch, List.countP_map]
  by_cases hxy : x = y
  · rw [if_pos hxy, List.countP_eq_zero]
    intro w _
    by_cases hw : w.session = y <;> simp [hw, hxy]
  · rw [if_neg hxy, armed]
    refine List.countP_congr fun w _ => ?_
    by_cases hw : w.session = x <;> simp [hw, hxy]

theorem watched_closeStream : (s.closeStream x).watched y = if x = y then 0 else s.watched y := by
  rw [watched, closeStream, List.countP_filter]
  by_cases hxy : x = y
  · rw [if_pos hxy, List.countP_eq_zero]
    intro w _
    simp [hxy]
  · rw [if_neg hxy, watched]
    refine List.countP_congr fun w _ => ?_
    by_cases hw : w.session = y <;> simp [hw, Ne.symm hxy]

theorem armed_le_watched (s : ThreadService) (x : Session) : s.armed x ≤ s.watched x :=
  List.countP_mono_left fun w _ h => by simp_all

theorem armed_closeStream : (s.closeStream x).armed y = if x = y then 0 else s.armed y := by
  by_cases hxy : x = y
  · have hle := armed_le_watched (s.closeStream x) y
    rw [watched_closeStream, if_pos hxy] at hle
    rw [if_pos hxy]
    exact Nat.le_zero.mp hle
  · rw [if_neg hxy, armed, armed, closeStream, List.countP_filter]
    refine List.countP_congr fun w _ => ?_
    by_cases hw : w.session = y <;> simp [hw, Ne.symm hxy]

theorem count_streams_closeStream :
    (s.closeStream x).streams.count y = if x = y then 0 else s.streams.count y := by
  rw [closeStream]
  by_cases hxy : x = y
  · rw [if_pos hxy, List.count_eq_zero]
    simp [hxy]
  · rw [if_neg hxy, List.count_filter]
    simpa using Ne.symm hxy

theorem handled_of_loop {work : SessionWork} (h : s.loop = some work) (x : Session) :
    s.handled x = (work.serves x).toNat := by
  rw [handled, h, Option.any_some]

theorem handled_of_idle (h : s.loop = none) (x : Session) : s.handled x = 0 := by
  rw [handled, h]
  rfl

theorem openings_of_loop {work : SessionWork} (h : s.loop = some work) (x : Session) :
    s.openings x = (work.opens x).toNat := by
  rw [openings, h, Option.any_some]

theorem openings_of_idle (h : s.loop = none) (x : Session) : s.openings x = 0 := by
  rw [openings, h]
  rfl

/-- The loop changes from one work to another. -/
theorem closings_setLoop (s : ThreadService) (work : Option SessionWork) (x : Session) :
    ({ s with loop := work } : ThreadService).closings x + (s.loop.any (SessionWork.closes x)).toNat =
      s.closings x + (work.any (SessionWork.closes x)).toNat := by
  show (work.any (SessionWork.closes x)).toNat + (s.workers.countP fun work => work.any (SessionWork.closes x)) + _ = _
  rw [closings]
  omega

theorem running_setWorker {worker : Nat} {old : Option SessionWork} (h : s.workers[worker]? = some old)
    (new : Option SessionWork) (x : Session) :
    (s.setWorker worker new).running x + (old.any (SessionWork.serves x)).toNat =
      s.running x + (new.any (SessionWork.serves x)).toNat :=
  List.countP_set_add (fun work : Option SessionWork => work.any (SessionWork.serves x)) h new

theorem closings_setWorker {worker : Nat} {old : Option SessionWork} (h : s.workers[worker]? = some old)
    (new : Option SessionWork) (x : Session) :
    (s.setWorker worker new).closings x + (old.any (SessionWork.closes x)).toNat =
      s.closings x + (new.any (SessionWork.closes x)).toNat := by
  have hworkers := List.countP_set_add (fun work : Option SessionWork => work.any (SessionWork.closes x)) h new
  show (s.loop.any (SessionWork.closes x)).toNat +
    ((s.workers.set worker new).countP fun work => work.any (SessionWork.closes x)) + _ = _
  rw [closings]
  omega

theorem closings_pos_of_loop (h : s.loop = some (.closing x)) : 0 < s.closings x := by
  rw [closings, h, Option.any_some, SessionWork.toNat_closes_closing, if_pos rfl]
  exact Nat.add_pos_left Nat.one_pos _

theorem closings_pos_of_worker {worker : Nat} (h : s.workers[worker]? = some (some (.closing x))) :
    0 < s.closings x :=
  Nat.add_pos_right _ (List.countP_pos_iff.mpr ⟨_, List.mem_of_getElem? h, beq_self_eq_true x⟩)

/-! ## The invariant -/

/-- The invariant of a service: each session of the table is in one hand, and any other in none. -/
structure Kept (s : ThreadService) : Prop where
  holds_eq : ∀ x, s.holds x = s.table.count x
  /-- A stream is open while its session is in the table, and until it has been closed after that. -/
  streams_eq : ∀ x, s.streams.count x = s.table.count x + s.closings x
  unique : (s.streams.map Session.descriptor).Nodup
  fresh : ∀ x ∈ s.streams, x.id < s.nextId
  /-- The stream of a session in the table has one watch, which the loop may be about to set up. -/
  watched_eq : ∀ x ∈ s.table, s.watched x + s.openings x = 1
  unwatched : ∀ x, x ∉ s.streams → s.watched x = 0
  length_le : s.table.length ≤ s.maxSessions
  units_eq : s.queue.units = s.queue.items.length

namespace Kept

theorem mem_streams (h : s.Kept) (hx : x ∈ s.table) : x ∈ s.streams := by
  have hcount := h.streams_eq x
  have hpos := List.count_pos_iff.mpr hx
  exact List.count_pos_iff.mp (by omega)

theorem count_streams_le (h : s.Kept) (x : Session) : s.streams.count x ≤ 1 :=
  List.nodup_iff_count_le_one.mp (List.Nodup.of_map _ h.unique) x

/-- A session that somebody holds is in the table. -/
theorem mem_table_of_holds (h : s.Kept) (hx : 0 < s.holds x) : x ∈ s.table :=
  List.count_pos_iff.mp (h.holds_eq x ▸ hx)

theorem holds_le (h : s.Kept) (x : Session) : s.holds x ≤ 1 := by
  have hle := h.count_streams_le x
  rw [h.streams_eq] at hle
  rw [h.holds_eq]
  omega

theorem holds_of_mem (h : s.Kept) (hx : x ∈ s.table) : s.holds x = 1 := by
  have hle := h.holds_le x
  have hpos := List.count_pos_iff.mpr hx
  rw [← h.holds_eq] at hpos
  omega

theorem closings_of_mem (h : s.Kept) (hx : x ∈ s.table) : s.closings x = 0 := by
  have hle := h.count_streams_le x
  have hpos := List.count_pos_iff.mpr hx
  rw [h.streams_eq] at hle
  omega

/-- A session whose stream is about to be closed is out of the table. -/
theorem not_mem_of_closings (h : s.Kept) (hx : 0 < s.closings x) : x ∉ s.table := fun hmem => by
  have hzero := h.closings_of_mem hmem
  omega

/-- Open streams have descriptors of their own. -/
theorem eq_of_descriptor (h : s.Kept) (hx : x ∈ s.streams) (hy : y ∈ s.streams)
    (hd : x.descriptor = y.descriptor) : x = y :=
  List.inj_on_of_nodup_map h.unique hx hy hd

/-- A session in the table is found by its descriptor. -/
theorem session?_eq (h : s.Kept) (hx : x ∈ s.table) : s.session? x.descriptor = some x := by
  cases hf : s.session? x.descriptor with
  | none => simpa using List.find?_eq_none.mp hf x hx
  | some y =>
    rw [session?] at hf
    have hd : y.descriptor = x.descriptor := by simpa using List.find?_some hf
    rw [h.eq_of_descriptor (h.mem_streams (List.mem_of_find?_eq_some hf)) (h.mem_streams hx) hd]

/-- Forgetting the descriptor of a session takes nothing but that session out of the table. -/
theorem count_forget (h : s.Kept) (hx : x ∈ s.table) (y : Session) :
    (s.forget x.descriptor).table.count y = if x = y then 0 else s.table.count y := by
  rw [forget]
  by_cases hxy : x = y
  · rw [if_pos hxy, List.count_eq_zero]
    simp [hxy]
  · rw [if_neg hxy]
    by_cases hy : y ∈ s.table
    · refine List.count_filter ?_
      have hd : y.descriptor ≠ x.descriptor := fun hd =>
        hxy (h.eq_of_descriptor (h.mem_streams hx) (h.mem_streams hy) hd.symm)
      simpa using hd
    · rw [List.count_eq_zero.mpr hy, List.count_eq_zero]
      exact fun hmem => hy (List.mem_filter.mp hmem).1

/-- A session in the table whose watch rests, and has been set up, has an armed watch once that is armed. -/
theorem armed_arm_eq (h : s.Kept) (hx : x ∈ s.table) (harmed : s.armed x = 0) (hopenings : s.openings x = 0)
    (interest : Interest) (y : Session) : (s.arm x interest).armed y = s.armed y + if x = y then 1 else 0 := by
  rw [armed_arm]
  by_cases hxy : x = y
  · have hone := h.watched_eq x hx
    rw [if_pos hxy, if_pos hxy, ← hxy]
    omega
  · rw [if_neg hxy, if_neg hxy, Nat.add_zero]

theorem start (maxSessions capacity workers : Nat) : (ThreadService.start maxSessions capacity workers).Kept where
  holds_eq := fun x => by
    simp [holds, armed, reported, handled, queued, running, ThreadService.start, List.countP_replicate]
  streams_eq := fun x => by simp [closings, ThreadService.start, List.countP_replicate]
  unique := List.nodup_nil
  fresh := fun x hx => absurd hx List.not_mem_nil
  watched_eq := fun x hx => absurd hx List.not_mem_nil
  unwatched := fun x _ => rfl
  length_le := Nat.zero_le _
  units_eq := rfl

/-! ## Kinds of step -/

/-- A session goes from one hand to another. -/
theorem move (h : s.Kept) (hholds : ∀ y, t.holds y = s.holds y) (hclosings : ∀ y, t.closings y = s.closings y)
    (hwatches : ∀ y, t.watched y + t.openings y = s.watched y + s.openings y) (htable : t.table = s.table)
    (hstreams : t.streams = s.streams) (hid : t.nextId = s.nextId) (hmax : t.maxSessions = s.maxSessions)
    (hunits : t.queue.units = t.queue.items.length) : t.Kept where
  holds_eq := fun y => by rw [hholds, htable, h.holds_eq]
  streams_eq := fun y => by rw [hstreams, htable, hclosings, h.streams_eq]
  unique := hstreams ▸ h.unique
  fresh := by
    rw [hstreams, hid]
    exact h.fresh
  watched_eq := fun y hy => (hwatches y).trans (h.watched_eq y (htable ▸ hy))
  unwatched := fun y hy => by
    rw [hstreams] at hy
    have htable' : s.table.count y = 0 := List.count_eq_zero.mpr fun hmem => hy (h.mem_streams hmem)
    have hopen := openings_le_handled s y
    have hzero := h.unwatched y hy
    have hheld := h.holds_eq y
    have hsum := hwatches y
    rw [holds] at hheld
    omega
  length_le := by
    rw [htable, hmax]
    exact h.length_le
  units_eq := hunits

/-- A new session comes into the table, and into the hand of the loop. -/
theorem enter (h : s.Kept) {descriptor : Nat} (hx : x = { id := s.nextId, descriptor := descriptor })
    (hfree : ∀ y ∈ s.streams, y.descriptor ≠ descriptor) (hroom : s.table.length < s.maxSessions)
    (hholds : ∀ y, t.holds y = s.holds y + if x = y then 1 else 0) (hclosings : ∀ y, t.closings y = s.closings y)
    (hwatched : ∀ y, t.watched y = s.watched y) (hopenings : ∀ y, t.openings y = if x = y then 1 else 0)
    (hno : ∀ y, s.openings y = 0) (htable : t.table = x :: s.table) (hstreams : t.streams = x :: s.streams)
    (hid : t.nextId = s.nextId + 1) (hmax : t.maxSessions = s.maxSessions) (hqueue : t.queue = s.queue) :
    t.Kept := by
  have hnew : x ∉ s.streams := fun hmem => by
    have hlt := h.fresh x hmem
    rw [hx] at hlt
    exact Nat.lt_irrefl _ hlt
  refine ⟨?_, ?_, ?_, ?_, ?_, ?_, ?_, ?_⟩
  · intro y
    rw [hholds, htable, List.count_cons, h.holds_eq]
    simp only [beq_iff_eq]
  · intro y
    rw [hstreams, htable, List.count_cons, List.count_cons, hclosings, h.streams_eq]
    omega
  · rw [hstreams, List.map_cons, List.nodup_cons]
    refine ⟨fun hmem => ?_, h.unique⟩
    obtain ⟨y, hy, hd⟩ := List.mem_map.mp hmem
    rw [hx] at hd
    exact hfree y hy hd
  · intro y hy
    rw [hstreams] at hy
    rw [hid]
    rcases List.mem_cons.mp hy with rfl | hy
    · rw [hx]
      exact Nat.lt_succ_self _
    · exact Nat.lt_succ_of_lt (h.fresh y hy)
  · intro y hy
    rw [htable] at hy
    rw [hwatched, hopenings]
    rcases List.mem_cons.mp hy with rfl | hy
    · rw [h.unwatched y hnew, if_pos rfl]
    · have hne : x ≠ y := fun heq => hnew (heq ▸ h.mem_streams hy)
      have hone := h.watched_eq y hy
      rw [hno] at hone
      rw [if_neg hne]
      exact hone
  · intro y hy
    rw [hstreams] at hy
    rw [hwatched]
    exact h.unwatched y fun hmem => hy (List.mem_cons_of_mem x hmem)
  · rw [htable, hmax, List.length_cons]
    exact hroom
  · rw [hqueue]
    exact h.units_eq

/-- A session leaves the table, and a thread is about to close its stream. -/
theorem leave (h : s.Kept) (hx : x ∈ s.table) (hholds : ∀ y, t.holds y + (if x = y then 1 else 0) = s.holds y)
    (hclosings : ∀ y, t.closings y = s.closings y + if x = y then 1 else 0)
    (hwatched : ∀ y, t.watched y = s.watched y) (hopenings : ∀ y, x ≠ y → t.openings y = s.openings y)
    (htable : t.table = (s.forget x.descriptor).table) (hstreams : t.streams = s.streams)
    (hid : t.nextId = s.nextId) (hmax : t.maxSessions = s.maxSessions) (hqueue : t.queue = s.queue) : t.Kept := by
  have hcount : ∀ y, t.table.count y + (if x = y then 1 else 0) = s.table.count y := fun y => by
    rw [htable, h.count_forget hx]
    by_cases hxy : x = y
    · rw [if_pos hxy, if_pos hxy, ← hxy, ← h.holds_eq, h.holds_of_mem hx]
    · rw [if_neg hxy, if_neg hxy, Nat.add_zero]
  refine ⟨?_, ?_, hstreams ▸ h.unique, ?_, ?_, ?_, ?_, ?_⟩
  · intro y
    have hheld := hholds y
    have hleft := hcount y
    rw [h.holds_eq] at hheld
    omega
  · intro y
    have hleft := hcount y
    rw [hstreams, h.streams_eq, hclosings]
    omega
  · rw [hstreams, hid]
    exact h.fresh
  · intro y hy
    have hleft := hcount y
    have hpos := List.count_pos_iff.mpr hy
    have hle := h.holds_le y
    rw [h.holds_eq] at hle
    by_cases hxy : x = y
    · rw [if_pos hxy] at hleft
      omega
    · rw [if_neg hxy] at hleft
      rw [hwatched, hopenings y hxy]
      exact h.watched_eq y (List.count_pos_iff.mp (by omega))
  · intro y hy
    rw [hstreams] at hy
    rw [hwatched]
    exact h.unwatched y hy
  · rw [htable, hmax]
    exact Nat.le_trans (List.length_filter_le ..) h.length_le
  · rw [hqueue]
    exact h.units_eq

/-- The stream of a session is closed. -/
theorem release (h : s.Kept) (hx : 0 < s.closings x) (hholds : ∀ y, t.holds y = (s.closeStream x).holds y)
    (hclosings : ∀ y, t.closings y + (if x = y then 1 else 0) = s.closings y)
    (hwatches : t.watches = (s.closeStream x).watches) (hopenings : ∀ y, t.openings y = s.openings y)
    (htable : t.table = s.table) (hstreams : t.streams = (s.closeStream x).streams) (hid : t.nextId = s.nextId)
    (hmax : t.maxSessions = s.maxSessions) (hqueue : t.queue = s.queue) : t.Kept := by
  have hnot := h.not_mem_of_closings hx
  have hwatched : ∀ y, t.watched y = if x = y then 0 else s.watched y := fun y => by
    rw [← watched_closeStream, watched, hwatches]
    rfl
  have hsub : t.streams.Sublist s.streams := by
    rw [hstreams]
    exact List.filter_sublist
  refine ⟨?_, ?_, h.unique.sublist (hsub.map _), ?_, ?_, ?_, ?_, ?_⟩
  · intro y
    have heq := h.holds_eq y
    rw [hholds, htable, ← heq, holds, armed_closeStream, holds]
    by_cases hxy : x = y
    · rw [← hxy, List.count_eq_zero.mpr hnot, holds] at heq
      rw [if_pos hxy, ← hxy]
      show 0 + (s.reported x + s.handled x) + s.queued x + s.running x = _
      omega
    · rw [if_neg hxy]
      rfl
  · intro y
    have hle := h.count_streams_le y
    have hone := hclosings y
    rw [h.streams_eq y] at hle
    rw [hstreams, count_streams_closeStream, htable]
    by_cases hxy : x = y
    · rw [if_pos hxy] at hone ⊢
      omega
    · rw [if_neg hxy] at hone ⊢
      rw [h.streams_eq y]
      omega
  · intro y hy
    rw [hid]
    exact h.fresh y (hsub.subset hy)
  · intro y hy
    rw [htable] at hy
    have hxy : x ≠ y := fun heq => hnot (heq ▸ hy)
    rw [hwatched, if_neg hxy, hopenings]
    exact h.watched_eq y hy
  · intro y hy
    rw [hwatched]
    by_cases hxy : x = y
    · rw [if_pos hxy]
    · rw [if_neg hxy]
      refine h.unwatched y fun hmem => hy ?_
      have hpos := List.count_pos_iff.mpr hmem
      refine List.count_pos_iff.mp ?_
      rwa [hstreams, count_streams_closeStream, if_neg hxy]
  · rw [htable, hmax]
    exact h.length_le
  · rw [hqueue]
    exact h.units_eq

end Kept

end ThreadService

end StaticServer
