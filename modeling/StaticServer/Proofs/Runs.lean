import Mathlib.Data.List.Basic

/-!
# Runs of steps

A system is given by what one step does, where it is possible, and a run is a list of steps that are all possible. What
every step keeps, every run keeps.

* `List.foldlM_option_induction`, `List.foldlM_option_induction_of_mem`: from steps to runs.
* `List.countP_set_add`: a count over threads when one of them changes.
-/

namespace List

/-- What every step of a run keeps, the run keeps. -/
theorem foldlM_option_induction_of_mem {σ α : Type} {step : σ → α → Option σ} {motive : σ → Prop} {actions : List α}
    (hstep : ∀ s a t, a ∈ actions → motive s → step s a = some t → motive t) {s t : σ} (hs : motive s)
    (h : actions.foldlM step s = some t) : motive t := by
  induction actions generalizing s with
  | nil =>
    obtain rfl := Option.some.inj h
    exact hs
  | cons a rest ih =>
    rw [foldlM_cons] at h
    obtain ⟨u, hu, hrest⟩ := Option.bind_eq_some_iff.mp h
    exact ih (fun s b t hb => hstep s b t (mem_cons_of_mem a hb)) (hstep s a u mem_cons_self hs hu) hrest

/-- What every step keeps, a run of steps keeps. -/
theorem foldlM_option_induction {σ α : Type} {step : σ → α → Option σ} {motive : σ → Prop}
    (hstep : ∀ s a t, motive s → step s a = some t → motive t) {actions : List α} {s t : σ} (hs : motive s)
    (h : actions.foldlM step s = some t) : motive t :=
  foldlM_option_induction_of_mem (fun s a t _ => hstep s a t) hs h

theorem foldlM_option_cons {σ α : Type} {step : σ → α → Option σ} {a : α} {actions : List α} {s t u : σ}
    (h : step s a = some t) (hrest : actions.foldlM step t = some u) : (a :: actions).foldlM step s = some u := by
  rw [foldlM_cons, h]
  exact hrest

/-- Where one element of a list is replaced, a count changes by what the two elements count for. -/
theorem countP_set_add {α : Type} (p : α → Bool) {l : List α} {i : Nat} {old : α} (h : l[i]? = some old) (new : α) :
    (l.set i new).countP p + (p old).toNat = l.countP p + (p new).toNat := by
  obtain ⟨hi, hold⟩ := getElem?_eq_some_iff.mp h
  have hpos : p old = true → 0 < l.countP p := fun hp => countP_pos_iff.mpr ⟨old, mem_of_getElem? h, hp⟩
  rw [countP_set hi, hold]
  cases hp : p old <;> cases p new <;> simp_all

end List
