import Mathlib.Algebra.Ring.Nat
import StaticServer.Dispatch.Flow
import StaticServer.Proofs.Runs
import StaticServer.Proofs.Telling

/-!
# Notices that are counted

A worker reads octets and the coordinator sends notices, so both sides agree only if the octets in the channel are whole
notices before and after every read. Then each notice that the coordinator has sent is in one of three places: in the
count of a reading that has come to its end, in the count of one that is under way, or in the channel.

* `Channel.Unread`: the channel holds whole notices, so many.
* `NoticeFlow.SteppedAt`: what a step does at the place of one worker.
* `NoticeFlow.Balanced`: the three places make up the notices sent.
* `NoticeFlow.run_counts_notices`: what holds of every flow that a run leads to.
-/

namespace StaticServer

namespace Channel

variable {c d : Channel} {n : Nat}

/-- The unread octets are this many notices. -/
def Unread (c : Channel) (n : Nat) : Prop := c.pending = (List.replicate n notice).flatten

/-- What a read that found something leaves. -/
theorem eq_of_readPiece {count : Nat} (h : c.readPiece = (some count, d)) :
    d = { c with pending := c.pending.drop readSize } := by
  rw [readPiece] at h
  split at h
  · cases h
  · exact (Prod.mk.inj h).2.symm

namespace Unread

theorem length_eq (h : c.Unread n) : c.pending.length = n * notice.length := by
  rw [h]
  simp

theorem withNotice (h : c.Unread n) : c.withNotice.Unread (n + 1) := by
  show c.pending ++ notice = _
  rw [h, List.replicate_succ', List.flatten_append, List.flatten_singleton]

/-- Taking whole notices off the front leaves whole notices. -/
theorem drop (h : c.Unread n) (k : Nat) :
    Unread { c with pending := c.pending.drop (k * notice.length) } (n - k) := by
  have hlength (m : Nat) : (List.replicate m notice).flatten.length = m * notice.length := by simp
  show c.pending.drop (k * notice.length) = _
  rw [h]
  rcases Nat.le_total k n with hle | hle
  · obtain ⟨m, rfl⟩ := Nat.exists_eq_add_of_le hle
    rw [List.replicate_add, List.flatten_append, List.drop_left' (hlength k), Nat.add_sub_cancel_left]
  · rw [Nat.sub_eq_zero_of_le hle, List.drop_eq_nil_of_le]
    · rfl
    · rw [hlength]
      exact Nat.mul_le_mul_right _ hle

theorem readPiece_zero (h : c.Unread 0) : c.readPiece = (none, c) := by
  rw [readPiece, if_pos]
  rw [h]
  rfl

/-- A read counts as many notices as it has room for, and leaves the others. -/
theorem readPiece_pos (h : c.Unread n) (hn : 0 < n) :
    c.readPiece = (some (min 16 n), { c with pending := c.pending.drop readSize }) := by
  have hne : ¬c.pending.isEmpty = true := by
    have hlength : c.pending.length = n * 4 := h.length_eq
    rw [List.isEmpty_iff, ← List.length_eq_zero_iff]
    omega
  rw [readPiece, if_neg hne, h.length_eq, readSize, Nat.mul_min_mul_right, Nat.mul_div_cancel _ (by decide)]

/-- A read that found something counts what it takes. -/
theorem of_readPiece_some {count : Nat} (h : c.Unread n) (hpiece : c.readPiece = (some count, d)) :
    0 < count ∧ ∃ m, d.Unread m ∧ n = count + m := by
  have hn : 0 < n := by
    refine Nat.pos_of_ne_zero fun hzero => ?_
    rw [readPiece_zero (hzero ▸ h)] at hpiece
    cases hpiece
  rw [h.readPiece_pos hn] at hpiece
  obtain ⟨hcount, rfl⟩ := Prod.mk.inj hpiece
  obtain rfl := Option.some.inj hcount
  exact ⟨by omega, n - 16, h.drop 16, by omega⟩

theorem of_readPiece_none (h : c.Unread n) (hpiece : c.readPiece = (none, d)) : n = 0 := by
  refine Nat.eq_zero_of_not_pos fun hn => ?_
  rw [h.readPiece_pos hn] at hpiece
  cases hpiece

theorem countNotices_eq (h : c.Unread n) : countNotices c.pending = n := by
  induction n using Nat.strong_induction_on generalizing c with
  | _ n ih =>
    have hlength : c.pending.length = n * 4 := h.length_eq
    rw [countNotices]
    split
    · omega
    · have hrest : countNotices (c.pending.drop readSize) = n - 16 := ih (n - 16) (by omega) (h.drop 16)
      rw [hrest, h.length_eq, readSize, Nat.mul_min_mul_right, Nat.mul_div_cancel _ (by decide)]
      omega

end Unread

end Channel

namespace NoticeReader

variable {r : NoticeReader}

/-- The notices counted by the readings that have come to their end. -/
def total (r : NoticeReader) : Nat := (r.found.map Notices.count).sum

theorem total_conclude (r : NoticeReader) (closed : Bool) :
    (r.conclude closed).total = r.total + r.counted.getD 0 := by
  simp [total, conclude]

/-- The notices counted by the readings up to this one. -/
def totalTo (r : NoticeReader) (k : Nat) : Nat := ((r.found.take (k + 1)).map Notices.count).sum

theorem totalTo_of_lt {closed : Bool} {k : Nat} (h : k < r.found.length) :
    (r.conclude closed).totalTo k = r.totalTo k := by
  rw [totalTo, conclude, List.take_append_of_le_length h, totalTo]

theorem totalTo_last (r : NoticeReader) (closed : Bool) :
    (r.conclude closed).totalTo r.found.length = r.total + r.counted.getD 0 := by
  rw [← total_conclude r closed, totalTo, total, List.take_of_length_le]
  simp [conclude]

end NoticeReader

namespace NoticeFlow

variable {f g : NoticeFlow} {w : Worker} {r : NoticeReader} {i told n : Nat}

/-! ## Steps at one place -/

/-- What a step does at the place of one worker. -/
inductive SteppedAt (f g : NoticeFlow) (i : Nat) : Action → Prop
  | told (hplace : f.coordinator.dispatch.1 = some i)
      (hworker : g.worker? i = (f.worker? i).map Worker.withNotice)
      (htold : g.told.count i = f.told.count i + 1) (hreader : g.readers[i]? = f.readers[i]?) :
      SteppedAt f g i .dispatch
  | untouched {action : Action} (hplace : action = .dispatch → f.coordinator.dispatch.1 ≠ some i)
      (hworker : g.worker? i = f.worker? i) (htold : g.told.count i = f.told.count i)
      (hreader : g.readers[i]? = f.readers[i]?) : SteppedAt f g i action
  | died {action : Action} (hplace : action = .dispatch → f.coordinator.dispatch.1 ≠ some i)
      (hworker : g.worker? i = (f.worker? i).map Worker.markDead) (htold : g.told.count i = f.told.count i)
      (hreader : g.readers[i]? = f.readers[i]?) : SteppedAt f g i action
  | dropped (hworker : g.worker? i = (f.worker? i).map Worker.dropEnd) (htold : g.told.count i = f.told.count i)
      (hreader : g.readers[i]? = f.readers[i]?) : SteppedAt f g i (.dropEnd i)
  | wentOn {w : Worker} {r : NoticeReader} {count : Nat} {channel : Channel} (hw : f.worker? i = some w)
      (hr : f.readers[i]? = some r) (hpiece : w.channel.readPiece = (some count, channel))
      (hworker : g.worker? i = some { w with channel := channel }) (htold : g.told.count i = f.told.count i)
      (hreader : g.readers[i]? = some (r.goOn count)) : SteppedAt f g i (.read i)
  | concluded {w : Worker} {r : NoticeReader} {channel : Channel} (hw : f.worker? i = some w)
      (hr : f.readers[i]? = some r) (hpiece : w.channel.readPiece = (none, channel)) (hworker : g.worker? i = some w)
      (htold : g.told.count i = f.told.count i) (hreader : g.readers[i]? = some (r.conclude !w.channel.senderOpen)) :
      SteppedAt f g i (.read i)

/-- A worker dies, or nothing happens to it. -/
theorem SteppedAt.of_outlived {action : Action} (hne : action ≠ .dispatch)
    (h : Coordinator.Outlived f.coordinator.workers g.coordinator.workers) (htold : g.told = f.told)
    (hreaders : g.readers = f.readers) : SteppedAt f g i action := by
  have hplace : action = .dispatch → f.coordinator.dispatch.1 ≠ some i := fun heq => absurd heq hne
  rcases h i with hw | hw
  · exact .untouched hplace hw (by rw [htold]) (by rw [hreaders])
  · exact .died hplace hw (by rw [htold]) (by rw [hreaders])

theorem worker?_modify (f : NoticeFlow) (place i : Nat) (change : Worker → Worker) :
    (f.modify place change).worker? i = (f.worker? i).map fun w => if place = i then change w else w :=
  WorkerSet.worker_modify _ place i _

theorem step_dispatch (f : NoticeFlow) :
    f.step? .dispatch = some { f with
      coordinator := f.coordinator.dispatch.2
      told := f.told ++ f.coordinator.dispatch.1.toList } :=
  rfl

theorem steppedAt_read {place : Nat} (hw : f.worker? place = some w) (hr : f.readers[place]? = some r) (i : Nat) :
    SteppedAt f (f.read place w r) i (.read place) := by
  have hlt : place < f.readers.length := (List.getElem?_eq_some_iff.mp hr).1
  rw [read]
  split
  · rename_i channel hpiece
    by_cases hi : place = i
    · subst hi
      exact .concluded hw hr hpiece hw rfl (List.getElem?_set_self hlt)
    · exact .untouched (by simp) rfl rfl (List.getElem?_set_ne hi)
  · rename_i count channel hpiece
    have hworker := worker?_modify f place i fun _ => { w with channel := channel }
    by_cases hi : place = i
    · subst hi
      exact .wentOn hw hr hpiece (hworker.trans (by simp [hw])) rfl (List.getElem?_set_self hlt)
    · exact .untouched (by simp) (hworker.trans (by simp [hi])) rfl (List.getElem?_set_ne hi)

theorem steppedAt_of_step {action : Action} (h : f.step? action = some g) (i : Nat) : SteppedAt f g i action := by
  cases action with
  | dispatch =>
    rw [step_dispatch] at h
    obtain rfl := Option.some.inj h
    have hworker := f.coordinator.dispatch_worker i
    have htold : (f.told ++ f.coordinator.dispatch.1.toList).count i =
        f.told.count i + f.coordinator.dispatch.1.toList.count i := List.count_append
    by_cases hplace : f.coordinator.dispatch.1 = some i
    · exact .told hplace (hworker.trans (by simp [hplace, worker?])) (htold.trans (by simp [hplace])) rfl
    · have hnot : f.coordinator.dispatch.1.toList.count i = 0 := List.count_eq_zero.mpr (by simpa using hplace)
      rw [hnot, Nat.add_zero] at htold
      exact .untouched (fun _ => hplace) (hworker.trans (by simp [hplace, worker?])) htold rfl
  | childExit pid =>
    obtain rfl := Option.some.inj h
    exact .of_outlived (by simp) (f.coordinator.outlived_onChildExit pid) rfl rfl
  | signal signal ended =>
    obtain rfl := Option.some.inj h
    exact .of_outlived (by simp) (f.coordinator.outlived_handleSignal _ signal) rfl rfl
  | read place =>
    simp only [step?] at h
    split at h
    · rename_i w r hw hr
      split at h
      · obtain rfl := Option.some.inj h
        exact steppedAt_read hw hr i
      · cases h
    · cases h
  | dropEnd place =>
    obtain rfl := Option.some.inj h
    by_cases hi : place = i
    · subst hi
      exact .dropped (by simp [worker?_modify]) rfl rfl
    · exact .untouched (by simp) (by simp [worker?_modify, hi]) rfl rfl

/-! ## The invariant -/

/-- So many notices were sent to a worker: they have been counted or are unread, as long as its end is open. -/
structure Balanced (told : Nat) (w : Worker) (r : NoticeReader) : Prop where
  /-- The channel is closed just if the worker is dead. -/
  senderOpen_eq : w.channel.senderOpen = w.isLive
  balance : w.channel.receiverOpen = true → ∃ n, w.channel.Unread n ∧ told = r.total + r.counted.getD 0 + n
  /-- A reading finds the channel closed only once the worker is dead, and then nothing is left to count. -/
  closed : w.channel.receiverOpen = true → ∀ k notices, r.found[k]? = some notices → notices.closed = true →
    w.isLive = false ∧ r.totalTo k = told

namespace Balanced

theorem withNotice (h : Balanced told w r) (hreach : w.isReachable = true) : Balanced (told + 1) w.withNotice r where
  senderOpen_eq := h.senderOpen_eq
  balance := fun hopen => by
    obtain ⟨n, hn, htold⟩ := h.balance hopen
    exact ⟨n + 1, hn.withNotice, by omega⟩
  closed := fun hopen k notices hk hclosed => by
    have hdead := (h.closed hopen k notices hk hclosed).1
    rw [Worker.isReachable, hdead] at hreach
    cases hreach

theorem markDead (h : Balanced told w r) : Balanced told w.markDead r where
  senderOpen_eq := rfl
  balance := h.balance
  closed := fun hopen k notices hk hclosed => ⟨rfl, (h.closed hopen k notices hk hclosed).2⟩

theorem dropEnd (h : Balanced told w r) : Balanced told w.dropEnd r where
  senderOpen_eq := h.senderOpen_eq
  balance := by rintro ⟨⟩
  closed := by rintro ⟨⟩

/-- What a piece takes off the channel is counted. -/
theorem goOn {count : Nat} {channel : Channel} (h : Balanced told w r)
    (hpiece : w.channel.readPiece = (some count, channel)) :
    Balanced told { w with channel := channel } (r.goOn count) := by
  have hchannel := Channel.eq_of_readPiece hpiece
  have hopen : channel.receiverOpen = w.channel.receiverOpen := by rw [hchannel]
  refine ⟨?_, fun hc => ?_, fun hc => h.closed (hopen ▸ hc)⟩
  · rw [hchannel]
    exact h.senderOpen_eq
  · obtain ⟨n, hn, htold⟩ := h.balance (hopen ▸ hc)
    obtain ⟨-, m, hm, rfl⟩ := hn.of_readPiece_some hpiece
    refine ⟨m, hm, ?_⟩
    show told = r.total + (r.counted.getD 0 + count) + m
    omega

/-- A reading that finds nothing more has counted all notices of a closed channel. -/
theorem conclude {channel : Channel} (h : Balanced told w r) (hpiece : w.channel.readPiece = (none, channel)) :
    Balanced told w (r.conclude !w.channel.senderOpen) := by
  refine ⟨h.senderOpen_eq, fun hopen => ?_, fun hopen k notices hk hclosed => ?_⟩
  · obtain ⟨n, hn, htold⟩ := h.balance hopen
    exact ⟨n, hn, htold.trans (by rw [NoticeReader.total_conclude]; rfl)⟩
  · by_cases hlt : k < r.found.length
    · rw [NoticeReader.totalTo_of_lt hlt]
      rw [NoticeReader.conclude, List.getElem?_append_left hlt] at hk
      exact h.closed hopen k notices hk hclosed
    · -- This is the reading that has just come to its end.
      have hlength : k < (r.conclude !w.channel.senderOpen).found.length := (List.getElem?_eq_some_iff.mp hk).1
      obtain rfl : k = r.found.length := by
        rw [NoticeReader.conclude, List.length_append, List.length_singleton] at hlength
        omega
      obtain rfl : _ = notices := by simpa [NoticeReader.conclude] using hk
      obtain ⟨n, hn, htold⟩ := h.balance hopen
      rw [hn.of_readPiece_none hpiece] at htold
      rw [NoticeReader.totalTo_last]
      exact ⟨by simpa [h.senderOpen_eq] using hclosed, htold.symm⟩

end Balanced

/-- There is a worker at this place, and its notices are balanced. -/
def BalancedAt (f : NoticeFlow) (i : Nat) : Prop :=
  ∃ w r, f.worker? i = some w ∧ f.readers[i]? = some r ∧ Balanced (f.told.count i) w r

theorem worker?_start (pids : List Int) (limit : Option Nat) (i : Nat) :
    (start pids limit).worker? i =
      pids[i]?.map fun pid => { index := i, state := .live pid, channel := { limit := limit } } := by
  simp [start, worker?, Coordinator.ofWorkers, WorkerSet.withLimit, WorkerSet.ofPids, List.getElem?_zipIdx,
    Function.comp_def]

theorem balancedAt_start {pids : List Int} (limit : Option Nat) (hi : i < pids.length) :
    (start pids limit).BalancedAt i := by
  refine ⟨_, {}, (worker?_start pids limit i).trans (by rw [List.getElem?_eq_getElem hi]; rfl), ?_, ?_⟩
  · simp [start, hi]
  · exact ⟨rfl, fun _ => ⟨0, rfl, rfl⟩, fun _ k notices hk => by simp at hk⟩

/-- What a step does at a place keeps the balance there. -/
theorem SteppedAt.balancedAt {action : Action} (h : SteppedAt f g i action) (hf : f.BalancedAt i) :
    g.BalancedAt i := by
  obtain ⟨w, r, hw, hr, hbalanced⟩ := hf
  cases h with
  | told hplace hworker htold hreader =>
    obtain ⟨v, hv, hreach⟩ := WorkerSet.isReachableAt_eq_true_iff.mp (Coordinator.isReachableAt_of_dispatch hplace)
    obtain rfl : w = v := Option.some.inj (hw.symm.trans hv)
    rw [BalancedAt, htold]
    exact ⟨_, r, hworker.trans (congrArg _ hw), hreader.trans hr, hbalanced.withNotice hreach⟩
  | untouched hplace hworker htold hreader =>
    rw [BalancedAt, htold]
    exact ⟨w, r, hworker.trans hw, hreader.trans hr, hbalanced⟩
  | died hplace hworker htold hreader =>
    rw [BalancedAt, htold]
    exact ⟨_, r, hworker.trans (congrArg _ hw), hreader.trans hr, hbalanced.markDead⟩
  | dropped hworker htold hreader =>
    rw [BalancedAt, htold]
    exact ⟨_, r, hworker.trans (congrArg _ hw), hreader.trans hr, hbalanced.dropEnd⟩
  | wentOn hv hr' hpiece hworker htold hreader =>
    obtain rfl := Option.some.inj (hw.symm.trans hv)
    obtain rfl := Option.some.inj (hr.symm.trans hr')
    rw [BalancedAt, htold]
    exact ⟨_, _, hworker, hreader, hbalanced.goOn hpiece⟩
  | concluded hv hr' hpiece hworker htold hreader =>
    obtain rfl := Option.some.inj (hw.symm.trans hv)
    obtain rfl := Option.some.inj (hr.symm.trans hr')
    rw [BalancedAt, htold]
    exact ⟨_, _, hworker, hreader, hbalanced.conclude hpiece⟩

theorem balancedAt_run {actions : List Action} (hf : f.BalancedAt i) (h : f.run? actions = some g) :
    g.BalancedAt i :=
  List.foldlM_option_induction (motive := fun f => f.BalancedAt i)
    (fun _ _ _ hbalanced hstep => (steppedAt_of_step hstep i).balancedAt hbalanced) hf h

/-! ## Steps that are no reads -/

/-- Only a dispatch that chooses the worker adds a notice, and nothing but the worker takes one away. -/
theorem SteppedAt.pending_eq {action : Action} {w' : Worker} (h : SteppedAt f g i action) (hw : f.worker? i = some w)
    (hw' : g.worker? i = some w') (hread : action ≠ .read i) (hdrop : action ≠ .dropEnd i) :
    w'.channel.pending = w.channel.pending ++
      if action = .dispatch ∧ f.coordinator.dispatch.1 = some i then Channel.notice else [] := by
  cases h with
  | told hplace hworker htold hreader =>
    rw [hw, hw'] at hworker
    obtain rfl := Option.some.inj hworker
    rw [if_pos ⟨rfl, hplace⟩]
    rfl
  | untouched hplace hworker htold hreader =>
    rw [hw, hw'] at hworker
    obtain rfl := Option.some.inj hworker
    rw [if_neg fun h => hplace h.1 h.2, List.append_nil]
  | died hplace hworker htold hreader =>
    rw [hw, hw'] at hworker
    obtain rfl := Option.some.inj hworker
    rw [if_neg fun h => hplace h.1 h.2, List.append_nil]
    rfl
  | dropped => exact absurd rfl hdrop
  | wentOn => exact absurd rfl hread
  | concluded => exact absurd rfl hread

/-- The worker's end of its channel is open. -/
def OpenAt (f : NoticeFlow) (i : Nat) : Prop := ∀ w, f.worker? i = some w → w.channel.receiverOpen = true

theorem SteppedAt.openAt {action : Action} (h : SteppedAt f g i action) (hdrop : action ≠ .dropEnd i)
    (hf : f.OpenAt i) : g.OpenAt i := by
  intro w hw
  cases h with
  | told hplace hworker htold hreader =>
    obtain ⟨v, hv, rfl⟩ := Option.map_eq_some_iff.mp (hworker.symm.trans hw)
    exact hf v hv
  | untouched hplace hworker htold hreader => exact hf w (hworker.symm.trans hw)
  | died hplace hworker htold hreader =>
    obtain ⟨v, hv, rfl⟩ := Option.map_eq_some_iff.mp (hworker.symm.trans hw)
    exact hf v hv
  | dropped => exact absurd rfl hdrop
  | wentOn hv hr hpiece hworker htold hreader =>
    obtain rfl := Option.some.inj (hworker.symm.trans hw)
    have hopen := hf _ hv
    rw [Channel.eq_of_readPiece hpiece]
    exact hopen
  | concluded hv hr hpiece hworker htold hreader =>
    obtain rfl := Option.some.inj (hworker.symm.trans hw)
    exact hf _ hv

theorem openAt_run {actions : List Action} (hdrop : Action.dropEnd i ∉ actions) (hf : f.OpenAt i)
    (h : f.run? actions = some g) : g.OpenAt i :=
  List.foldlM_option_induction_of_mem (motive := fun f => f.OpenAt i)
    (fun _ _ _ hmem hopen hstep => (steppedAt_of_step hstep i).openAt (fun heq => hdrop (heq ▸ hmem)) hopen) hf h

theorem openAt_start (pids : List Int) (limit : Option Nat) (i : Nat) : (start pids limit).OpenAt i := by
  intro w hw
  rw [worker?_start] at hw
  obtain ⟨pid, -, rfl⟩ := Option.map_eq_some_iff.mp hw
  rfl

/-! ## Readings that nothing comes between -/

theorem step_read (hw : f.worker? i = some w) (hr : f.readers[i]? = some r) (hopen : w.channel.receiverOpen = true) :
    f.step? (.read i) = some (f.read i w r) := by
  simp [step?, hw, hr, hopen]

theorem step_read_none {channel : Channel} (hw : f.worker? i = some w) (hr : f.readers[i]? = some r)
    (hopen : w.channel.receiverOpen = true) (hpiece : w.channel.readPiece = (none, channel)) :
    ∃ g, f.step? (.read i) = some g ∧ g.worker? i = some w ∧
      g.readers[i]? = some (r.conclude !w.channel.senderOpen) ∧ g.told = f.told := by
  refine ⟨_, step_read hw hr hopen, ?_, ?_, ?_⟩ <;> rw [read, hpiece]
  · exact hw
  · exact List.getElem?_set_self (List.getElem?_eq_some_iff.mp hr).1

theorem step_read_some {count : Nat} {channel : Channel} (hw : f.worker? i = some w) (hr : f.readers[i]? = some r)
    (hopen : w.channel.receiverOpen = true) (hpiece : w.channel.readPiece = (some count, channel)) :
    ∃ g, f.step? (.read i) = some g ∧ g.worker? i = some { w with channel := channel } ∧
      g.readers[i]? = some (r.goOn count) ∧ g.told = f.told := by
  refine ⟨_, step_read hw hr hopen, ?_, ?_, ?_⟩ <;> rw [read, hpiece]
  · exact (worker?_modify f i i _).trans (by simp [hw])
  · exact List.getElem?_set_self (List.getElem?_eq_some_iff.mp hr).1
  · rfl

/-- A reading that comes to its end says whether the sending end is gone. -/
theorem closed_of_concluded {notices : Notices} (hw : f.worker? i = some w) (hr : f.readers[i]? = some r)
    (hopen : w.channel.receiverOpen = true) (hstep : f.step? (.read i) = some g)
    (hfound : g.readers[i]? = some { found := r.found ++ [notices] }) : notices.closed = !w.channel.senderOpen := by
  cases hpiece : w.channel.readPiece with
  | mk count channel =>
    cases count with
    | none =>
      obtain ⟨g', hstep', -, hreader, -⟩ := step_read_none hw hr hopen hpiece
      obtain rfl := Option.some.inj (hstep'.symm.trans hstep)
      have hnotices := hreader.symm.trans hfound
      simp only [NoticeReader.conclude, Option.some.injEq, NoticeReader.mk.injEq, List.append_cancel_left_eq,
        List.cons.injEq, and_true, true_and] at hnotices
      rw [← hnotices]
    | some count =>
      obtain ⟨g', hstep', -, hreader, -⟩ := step_read_some hw hr hopen hpiece
      obtain rfl := Option.some.inj (hstep'.symm.trans hstep)
      have hnotices := hreader.symm.trans hfound
      simp [NoticeReader.goOn] at hnotices

/-- A reading with nothing in between finds what is unread, and leaves nothing. -/
theorem run_reading (hw : f.worker? i = some w) (hr : f.readers[i]? = some r)
    (hopen : w.channel.receiverOpen = true) (hn : w.channel.Unread n) :
    ∃ k g, f.run? (List.replicate k (.read i)) = some g ∧
      g.worker? i = some { w with channel := { w.channel with pending := [] } } ∧
      g.readers[i]? = some { found := r.found ++ [⟨r.counted.getD 0 + n, !w.channel.senderOpen⟩] } ∧
      g.told = f.told := by
  induction n using Nat.strong_induction_on generalizing f w r with
  | _ n ih =>
    rcases Nat.eq_zero_or_pos n with rfl | hpos
    · obtain ⟨g, hstep, hworker, hreader, htold⟩ := step_read_none hw hr hopen hn.readPiece_zero
      have hempty : w.channel.pending = [] := hn
      refine ⟨1, g, List.foldlM_option_cons hstep rfl, ?_, hreader, htold⟩
      rw [← hempty]
      exact hworker
    · obtain ⟨g, hstep, hworker, hreader, htold⟩ := step_read_some hw hr hopen (hn.readPiece_pos hpos)
      obtain ⟨k, e, hrun, hworker', hreader', htold'⟩ := ih (n - 16) (by omega) hworker hreader hopen (hn.drop 16)
      refine ⟨k + 1, e, List.foldlM_option_cons hstep hrun, hworker', hreader'.trans ?_, htold'.trans htold⟩
      have hcount : r.counted.getD 0 + min 16 n + (n - 16) = r.counted.getD 0 + n := by omega
      simp only [NoticeReader.goOn, Option.getD_some]
      rw [hcount]

/-! ## Flows that a run leads to -/

/-- **No notice is lost or counted twice.** In every flow that a run of steps leads to, for every worker whose end of
its channel has stayed open: the dispatches that chose it are as many as the notices found by its readings, counted by
one that is under way, and unread; another step adds a notice if it is a dispatch that chooses the worker, and changes
nothing in the channel otherwise; a reading that comes to its end finds the channel closed just if the worker is dead,
and by then all its notices have been found; and a reading with nothing in between finds what is unread. -/
theorem run_counts_notices (pids : List Int) (limit : Option Nat) {actions : List Action} {f : NoticeFlow}
    (h : (start pids limit).run? actions = some f) {i : Nat} (hi : i < pids.length)
    (hstays : Action.dropEnd i ∉ actions) :
    ∃ w r, f.worker? i = some w ∧ f.readers[i]? = some r ∧
      (∃ n, w.channel.Unread n ∧
        f.told.count i = (r.found.map Notices.count).sum + r.counted.getD 0 + n) ∧
      (∀ action g w', f.step? action = some g → g.worker? i = some w' → action ≠ .read i → action ≠ .dropEnd i →
        w'.channel.pending = w.channel.pending ++
          if action = .dispatch ∧ f.coordinator.dispatch.1 = some i then Channel.notice else []) ∧
      (∀ g notices, f.step? (.read i) = some g → g.readers[i]? = some { found := r.found ++ [notices] } →
        (notices.closed = true ↔ w.isLive = false)) ∧
      (∀ k notices, r.found[k]? = some notices → notices.closed = true →
        w.isLive = false ∧ ((r.found.take (k + 1)).map Notices.count).sum = f.told.count i) ∧
      (r.counted = none → ∃ k g, f.run? (List.replicate k (.read i)) = some g ∧
        g.worker? i = some w.readNotices.2 ∧ g.readers[i]? = some { found := r.found ++ [w.readNotices.1] }) := by
  obtain ⟨w, r, hw, hr, hbalanced⟩ := balancedAt_run (balancedAt_start limit hi) h
  have hopen := openAt_run hstays (openAt_start pids limit i) h w hw
  obtain ⟨n, hn, htold⟩ := hbalanced.balance hopen
  refine ⟨w, r, hw, hr, ⟨n, hn, htold⟩, ?_, ?_, hbalanced.closed hopen, fun hcounted => ?_⟩
  · exact fun action g w' hstep hw' => (steppedAt_of_step hstep i).pending_eq hw hw'
  · intro g notices hstep hfound
    rw [closed_of_concluded hw hr hopen hstep hfound, hbalanced.senderOpen_eq]
    simp
  · obtain ⟨k, g, hrun, hworker, hreader, -⟩ := run_reading hw hr hopen hn
    refine ⟨k, g, hrun, hworker, hreader.trans ?_⟩
    rw [Worker.readNotices, Channel.readNotices, hn.countNotices_eq, hcounted]
    simp

/-- One worker is told again while it reads; the other one has died, and its reader has found that out. -/
theorem run_counts_notices_reading :
    ∃ f : NoticeFlow,
      (start [11, 12] (some 64)).run? [.dispatch, .dispatch, .read 0, .dispatch, .childExit 12, .read 1, .read 1] =
        some f ∧
      f.told = [0, 1, 0] ∧ f.readers = [{ counted := some 1 }, { found := [⟨1, true⟩] }] ∧
      (∃ w n, f.worker? 0 = some w ∧ w.channel.Unread n ∧ f.told.count 0 = 0 + 1 + n) ∧
      ∃ w, f.worker? 1 = some w ∧ w.isLive = false ∧ f.told.count 1 = 1 := by
  have h : (start [11, 12] (some 64)).run? [.dispatch, .dispatch, .read 0, .dispatch, .childExit 12, .read 1,
      .read 1] =
      some { coordinator :=
               { workers :=
                   { workers :=
                       [{ index := 0, state := .live 11, channel := { pending := Channel.notice, limit := some 64 } },
                        { index := 1, state := .dead, channel := { senderOpen := false, limit := some 64 } }]
                     cursor := 1 }
                 terminating := false
                 stop := false }
             readers := [{ counted := some 1 }, { found := [⟨1, true⟩] }]
             told := [0, 1, 0] } := by decide
  obtain ⟨w, r, hw, hr, ⟨n, hn, hcount⟩, -⟩ := run_counts_notices [11, 12] (some 64) h (i := 0) (by decide) (by decide)
  obtain rfl : _ = r := by simpa using hr
  obtain ⟨w', r', hw', hr', -, -, -, hclosed, -⟩ :=
    run_counts_notices [11, 12] (some 64) h (i := 1) (by decide) (by decide)
  obtain rfl : _ = r' := by simpa using hr'
  obtain ⟨hdead, htotal⟩ := hclosed 0 ⟨1, true⟩ rfl rfl
  exact ⟨_, h, rfl, rfl, ⟨w, n, hw, hn, hcount⟩, w', hw', hdead, htotal.symm⟩

end NoticeFlow

end StaticServer
