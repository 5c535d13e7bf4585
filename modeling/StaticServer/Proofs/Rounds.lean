import Mathlib.Data.List.Basic
import StaticServer.Dispatch.History
import StaticServer.Proofs.Telling

/-!
# Rounds

Between two selections of a worker the search goes around the circle once. At each moment of such a round the circle
reads, from the cursor on: the places ahead, the worker that the round started with, and the places that have been
passed. Nobody ahead has been selected in the round, and of those passed everybody that still lives has been. Workers
may die at any moment, but the worker that the round started with is alive, so no selection comes past it unless it is
selected itself.

* `WorkerSet.InRound`: where the cursor stands in a round, and who has been selected.
* `WorkerSet.InRound.call`, `WorkerSet.InRound.after`: one call, and a list of calls.
* `WorkerSet.selections_fair`: who is selected between two selections of a worker.
-/

namespace StaticServer

namespace WorkerSet

variable {s t : WorkerSet} {i j : Nat} {chosen : List Nat}

/-! ## Calls -/

/-- A selection finds nobody alive, or the first live place on the circle. -/
theorem call_next_cases (s : WorkerSet) :
    (s.call .next = (none, s) ∧ ∀ i ∈ s.fromCursor, s.isLiveAt i = false) ∨
      ∃ i before behind, s.call .next = (some i, s.past i) ∧ s.fromCursor = before ++ i :: behind ∧
        s.isLiveAt i = true ∧ ∀ j ∈ before, s.isLiveAt j = false := by
  rcases s.nextLive?_cases with ⟨hnext, hdead⟩ | ⟨i, before, behind, hnext, hcircle⟩
  · exact .inl ⟨by rw [call, hnext], hdead⟩
  · exact .inr ⟨i, before, behind, by rw [call, hnext], hcircle⟩

theorem nodup_fromCursor (s : WorkerSet) : s.fromCursor.Nodup := by
  rw [fromCursor_eq_rotate, List.nodup_rotate]
  exact List.nodup_range

/-- A death leaves the circle as it is. -/
theorem fromCursor_reaped (s : WorkerSet) (pid : Int) : (s.call (.reaped pid)).2.fromCursor = s.fromCursor := by
  show (s.markReaped pid).2.fromCursor = s.fromCursor
  unfold markReaped
  split
  · rfl
  · simp [fromCursor, modify, size]

/-- Nobody comes to life by a call. -/
theorem isLiveAt_of_call {call : Call} (h : (s.call call).2.isLiveAt i = true) : s.isLiveAt i = true := by
  cases call with
  | next =>
    rcases s.call_next_cases with ⟨hcall, -⟩ | ⟨j, -, -, hcall, -⟩ <;> rw [hcall] at h <;> exact h
  | reaped pid => exact (Coordinator.outlived_markReaped s pid).isLiveAt h

theorem isLiveAt_of_after {calls : List Call} (h : (s.after calls).isLiveAt i = true) : s.isLiveAt i = true := by
  induction calls generalizing s with
  | nil => exact h
  | cons call rest ih => exact isLiveAt_of_call (ih h)

/-- Who is selected lives. -/
theorem isLiveAt_of_call_next (h : (s.call .next).1 = some i) : s.isLiveAt i = true := by
  rcases s.call_next_cases with ⟨hcall, -⟩ | ⟨j, -, -, hcall, -, hlive, -⟩ <;> rw [hcall] at h
  · cases h
  · obtain rfl := Option.some.inj h
    exact hlive

/-- Nobody is selected just if nobody lives. -/
theorem call_next_eq_none_iff : (s.call .next).1 = none ↔ ∀ w ∈ s.workers, w.isLive = false := by
  rw [forall_eq_false_iff]
  rcases s.call_next_cases with ⟨hcall, hdead⟩ | ⟨i, -, -, hcall, -, hlive, -⟩ <;> rw [hcall]
  · refine ⟨fun _ i => ?_, fun _ => rfl⟩
    rw [← Bool.not_eq_true]
    intro hlive
    have hi : s.isLiveAt i = false := hdead i (mem_fromCursor.mpr (lt_size_of_isLiveAt hlive))
    exact Bool.false_ne_true (hi.symm.trans hlive)
  · constructor
    · intro h
      cases h
    · intro hdead
      have hi : s.isLiveAt i = false := hdead i
      exact absurd (hi.symm.trans hlive) Bool.false_ne_true

/-! ## Inside a round -/

/-- The set is in a round that started with the selection of `i`, and these places have been selected since. -/
def InRound (s : WorkerSet) (i : Nat) (chosen : List Nat) : Prop :=
  chosen.Nodup ∧ ∃ ahead passed, s.fromCursor = ahead ++ i :: passed ∧ (∀ j ∈ ahead, j ∉ chosen) ∧
    ∀ j ∈ passed, s.isLiveAt j = true → j ∈ chosen

/-- A selection starts a round. -/
theorem inRound_of_call (h : s.call .next = (some i, t)) : t.InRound i [] := by
  rcases s.call_next_cases with ⟨hcall, -⟩ | ⟨j, before, behind, hcall, hcircle, -⟩ <;> rw [hcall] at h
  · cases h
  · cases h
    refine ⟨List.nodup_nil, behind ++ before, [], ?_, fun j _ => List.not_mem_nil,
      fun j hj => absurd hj List.not_mem_nil⟩
    rw [fromCursor_past hcircle, List.append_assoc]

namespace InRound

/-- A place other than `i` is selected: it is ahead, and nobody before it lives. -/
theorem past {before behind : List Nat} (h : s.InRound i chosen) (hi : s.isLiveAt i = true) (hne : j ≠ i)
    (hcircle : s.fromCursor = before ++ j :: behind) (hbefore : ∀ k ∈ before, s.isLiveAt k = false) :
    (s.past j).InRound i (chosen ++ [j]) := by
  obtain ⟨hchosen, ahead, passed, hround, hahead, hpassed⟩ := h
  obtain ⟨rest, rfl, rfl⟩ : ∃ rest, ahead = before ++ j :: rest ∧ behind = rest ++ i :: passed := by
    rcases List.append_eq_append_iff.mp (hround.symm.trans hcircle) with ⟨c, rfl, hc⟩ | ⟨c, rfl, hc⟩
    · -- The selected place cannot lie behind `i`, which lives.
      cases c with
      | nil => exact absurd (List.cons.inj hc).1.symm hne
      | cons k c =>
        obtain rfl := (List.cons.inj hc).1
        have hdead := hbefore i (by simp)
        exact absurd (hdead.symm.trans hi) Bool.false_ne_true
    · cases c with
      | nil => exact absurd (List.cons.inj hc).1 hne
      | cons k c =>
        obtain ⟨rfl, rfl⟩ := List.cons.inj hc
        exact ⟨c, rfl, rfl⟩
  have hnodup := hcircle ▸ s.nodup_fromCursor
  have hj : j ∉ chosen := hahead j (by simp)
  refine ⟨?_, rest, passed ++ (before ++ [j]), ?_, ?_, ?_⟩
  · rw [List.nodup_append]
    refine ⟨hchosen, List.nodup_singleton j, fun a ha b hb => ?_⟩
    obtain rfl := List.mem_singleton.mp hb
    exact fun heq => hj (heq ▸ ha)
  · rw [fromCursor_past hcircle, List.append_assoc, List.cons_append]
  · intro k hk hmem
    rcases List.mem_append.mp hmem with hmem | hmem
    · exact hahead k (by simp [hk]) hmem
    · obtain rfl := List.mem_singleton.mp hmem
      have hnot : k ∉ rest ++ i :: passed := (List.nodup_cons.mp (List.nodup_append.mp hnodup).2.1).1
      exact hnot (List.mem_append_left _ hk)
  · intro k hk hlive
    rcases List.mem_append.mp hk with hk | hk
    · exact List.mem_append_left _ (hpassed k hk hlive)
    · rcases List.mem_append.mp hk with hk | hk
      · have hdead : s.isLiveAt k = false := hbefore k hk
        exact absurd (hdead.symm.trans hlive) Bool.false_ne_true
      · exact List.mem_append_right _ hk

/-- A call that does not select `i` goes on with the round. -/
theorem call {call : Call} (h : s.InRound i chosen) (hi : s.isLiveAt i = true) (hne : (s.call call).1 ≠ some i) :
    (s.call call).2.InRound i (chosen ++ (s.call call).1.toList) := by
  cases call with
  | next =>
    rcases s.call_next_cases with ⟨hcall, -⟩ | ⟨j, before, behind, hcall, hcircle, -, hbefore⟩ <;> rw [hcall] at hne ⊢
    · simpa using h
    · exact h.past hi (fun heq => hne (heq ▸ rfl)) hcircle hbefore
  | reaped pid =>
    obtain ⟨hchosen, ahead, passed, hround, hahead, hpassed⟩ := h
    have hchosen' : chosen ++ (s.call (.reaped pid)).1.toList = chosen := List.append_nil chosen
    rw [hchosen']
    refine ⟨hchosen, ahead, passed, (s.fromCursor_reaped pid).trans hround, hahead, fun j hj hlive => ?_⟩
    exact hpassed j hj (isLiveAt_of_call hlive)

/-- Calls that do not select `i` go on with the round, as long as `i` lives. -/
theorem after {span : List Call} (h : s.InRound i chosen) (hi : (s.after span).isLiveAt i = true)
    (hne : i ∉ s.selections span) : (s.after span).InRound i (chosen ++ s.selections span) := by
  induction span generalizing s chosen with
  | nil =>
    rw [selections, List.append_nil]
    exact h
  | cons call rest ih =>
    rw [selections, List.mem_append, not_or, Option.mem_toList] at hne
    have hmid := h.call (isLiveAt_of_call (isLiveAt_of_after hi)) hne.1
    have hrest := ih hmid hi hne.2
    rw [selections, ← List.append_assoc]
    exact hrest

/-- When `i` is selected again, everybody else that lives has been selected. -/
theorem mem_of_call (h : s.InRound i chosen) (hnext : (s.call .next).1 = some i) (hj : j ≠ i)
    (hlive : s.isLiveAt j = true) : j ∈ chosen := by
  obtain ⟨-, ahead, passed, hround, -, hpassed⟩ := h
  rcases s.call_next_cases with ⟨hcall, -⟩ | ⟨k, before, behind, hcall, hcircle, -, hbefore⟩ <;> rw [hcall] at hnext
  · cases hnext
  · obtain rfl := Option.some.inj hnext
    have hnodup := List.nodup_append.mp (hround ▸ s.nodup_fromCursor)
    have hahead : k ∉ ahead := fun hk => hnodup.2.2 k hk k List.mem_cons_self rfl
    have hbehind : k ∉ passed := (List.nodup_cons.mp hnodup.2.1).1
    obtain ⟨rfl, -, rfl⟩ := (List.append_cons_inj_of_notMem hahead hbehind).mp (hround.symm.trans hcircle)
    have hmem : j ∈ ahead ++ k :: passed := hround ▸ mem_fromCursor.mpr (lt_size_of_isLiveAt hlive)
    rcases List.mem_append.mp hmem with hmem | hmem
    · have hdead : s.isLiveAt j = false := hbefore j hmem
      exact absurd (hdead.symm.trans hlive) Bool.false_ne_true
    · rcases List.mem_cons.mp hmem with heq | hmem
      · exact absurd heq hj
      · exact hpassed j hmem hlive

end InRound

/-! ## From one selection to the next -/

/-- **Workers take turns.** In every set that calls lead to, a selection finds nobody just if nobody lives, and finds no
dead worker. Between two consecutive selections of a worker, nobody is selected twice, and every other worker that lives
throughout is selected once. -/
theorem selections_fair (s : WorkerSet) (calls : List Call) :
    let t := s.after calls
    ((t.call .next).1 = none ↔ ∀ w ∈ t.workers, w.isLive = false) ∧
    (∀ i, (t.call .next).1 = some i → t.isLiveAt i = true) ∧
    ∀ i u span, t.call .next = (some i, u) → i ∉ u.selections span → ((u.after span).call .next).1 = some i →
      (u.selections span).Nodup ∧
      ∀ j, j ≠ i → (∀ k, (u.after (span.take k)).isLiveAt j = true) → (u.selections span).count j = 1 := by
  intro t
  refine ⟨call_next_eq_none_iff, fun i => isLiveAt_of_call_next, fun i u span hfirst hbetween hagain => ?_⟩
  have hround : (u.after span).InRound i (u.selections span) :=
    (inRound_of_call hfirst).after (isLiveAt_of_call_next hagain) hbetween
  refine ⟨hround.1, fun j hj hlive => ?_⟩
  have hend : (u.after span).isLiveAt j = true := by
    have h := hlive span.length
    rwa [List.take_length] at h
  exact List.count_eq_one_of_mem hround.1 (hround.mem_of_call hagain hj hend)

/-- Of four workers the last one dies while the second one waits for its next turn. -/
theorem selections_fair_dying :
    let t := (ofPids [10, 11, 12, 13]).after [.next]
    let u := (t.call .next).2
    let span := [.next, .reaped 13, .next, .reaped 99]
    t.call .next = (some 1, u) ∧ 1 ∉ u.selections span ∧ ((u.after span).call .next).1 = some 1 ∧
      (∀ k, (u.after (span.take k)).isLiveAt 0 = true) ∧ (u.selections span).count 0 = 1 := by
  intro t u span
  have hfirst : t.call .next = (some 1, u) := by decide
  have hbetween : 1 ∉ u.selections span := by decide
  have hagain : ((u.after span).call .next).1 = some 1 := by decide
  have hstart : ∀ k < 4, (u.after (span.take k)).isLiveAt 0 = true := by decide
  have hlive : ∀ k, (u.after (span.take k)).isLiveAt 0 = true := by
    intro k
    rcases Nat.lt_or_ge k 4 with hk | hk
    · exact hstart k hk
    · rw [List.take_of_length_le hk]
      decide
  obtain ⟨-, -, hfair⟩ := selections_fair (ofPids [10, 11, 12, 13]) [.next]
  exact ⟨hfirst, hbetween, hagain, hlive, (hfair 1 u span hfirst hbetween hagain).2 0 (by decide) hlive⟩

end WorkerSet

end StaticServer
