-- SUMMARY: Assignments to keys, each followed by a save that may fail and then ends the rest; when such a sequence is all or nothing.
import Mathlib.Data.List.Basic
import Mathlib.Logic.Function.Basic

/-!
# Assignments with saves

A list of assignments is carried out in order. Each puts its value in place and then
saves it; the first save that fails ends the sequence, with its value in place.
-/

namespace Assign

variable {K V : Type*} {fails : K → Bool} {l : List (K × V)} {f : K → V} {k : K}

/-- The assignments that are carried out: up to the first whose save fails. -/
def reached (fails : K → Bool) : List (K × V) → List (K × V)
  | [] => []
  | (k, v) :: rest => if fails k then [(k, v)] else (k, v) :: reached fails rest

theorem reached_subset {p : K × V} (h : p ∈ reached fails l) : p ∈ l := by
  induction l with
  | nil => exact h
  | cons q rest ih =>
    rw [reached] at h
    split at h
    · exact List.mem_cons.mpr (.inl (List.mem_singleton.mp h))
    · rcases List.mem_cons.mp h with h | h
      · exact List.mem_cons.mpr (.inl h)
      · exact List.mem_cons_of_mem q (ih h)

theorem reached_of_saved (h : ∀ p ∈ l, fails p.1 = false) : reached fails l = l := by
  induction l with
  | nil => rfl
  | cons p rest ih =>
    rw [reached, if_neg (by simp [h p]), ih fun q hq => h q (List.mem_cons_of_mem p hq)]

variable [DecidableEq K]

/-- Carry out assignments; `false` when a save fails. -/
def assignAll (fails : K → Bool) : List (K × V) → (K → V) → (K → V) × Bool
  | [], f => (f, true)
  | (k, v) :: rest, f =>
    if fails k then (Function.update f k v, false)
    else assignAll fails rest (Function.update f k v)

theorem assignAll_snd : (assignAll fails l f).2 = true ↔ ∀ p ∈ l, fails p.1 = false := by
  induction l generalizing f with
  | nil => simp [assignAll]
  | cons p rest ih =>
    rw [assignAll]
    by_cases hp : fails p.1 = true
    · simp [hp]
    · rw [if_neg hp, ih]
      simp [hp]

theorem assignAll_of_not_mem (h : k ∉ (reached fails l).map Prod.fst) :
    (assignAll fails l f).1 k = f k := by
  induction l generalizing f with
  | nil => rfl
  | cons p rest ih =>
    rw [reached] at h
    rw [assignAll]
    by_cases hp : fails p.1 = true
    · rw [if_pos hp] at h ⊢
      exact Function.update_of_ne (by simpa using h) ..
    · rw [if_neg hp] at h ⊢
      rw [List.map_cons, List.mem_cons, not_or] at h
      rw [ih h.2, Function.update_of_ne h.1]

/-- An assignment that is carried out stays, as no key is assigned twice. -/
theorem assignAll_of_mem (hl : (l.map Prod.fst).Nodup) {p : K × V} (h : p ∈ reached fails l) :
    (assignAll fails l f).1 p.1 = p.2 := by
  induction l generalizing f with
  | nil => exact absurd h (by simp [reached])
  | cons q rest ih =>
    rw [List.map_cons, List.nodup_cons] at hl
    rw [reached] at h
    rw [assignAll]
    by_cases hq : fails q.1 = true
    · rw [if_pos hq] at h ⊢
      rw [List.mem_singleton.mp h]
      exact Function.update_self ..
    · rw [if_neg hq] at h ⊢
      rcases List.mem_cons.mp h with hpq | h
      · have hlater : q.1 ∉ (reached fails rest).map Prod.fst := by
          intro hmem
          obtain ⟨r, hr, hkey⟩ := List.mem_map.mp hmem
          exact hl.1 (List.mem_map.mpr ⟨r, reached_subset hr, hkey⟩)
        rw [hpq, assignAll_of_not_mem hlater]
        exact Function.update_self ..
      · exact ih hl.2 h

/-- Nothing is changed exactly when every assignment carried out finds its value in
place. -/
theorem assignAll_eq_iff (hl : (l.map Prod.fst).Nodup) :
    (assignAll fails l f).1 = f ↔ ∀ p ∈ reached fails l, f p.1 = p.2 := by
  constructor
  · intro h p hp
    rw [← assignAll_of_mem (f := f) hl hp, h]
  · intro h
    funext k
    by_cases hk : k ∈ (reached fails l).map Prod.fst
    · obtain ⟨p, hp, rfl⟩ := List.mem_map.mp hk
      rw [assignAll_of_mem hl hp, h p hp]
    · exact assignAll_of_not_mem hk

/-- After all assignments a key has the value it is assigned, or its old one. -/
theorem assignAll_apply_eq_iff (hl : (l.map Prod.fst).Nodup) (h : ∀ p ∈ l, fails p.1 = false)
    {v : V} :
    (assignAll fails l f).1 k = v ↔ (k, v) ∈ l ∨ (k ∉ l.map Prod.fst ∧ f k = v) := by
  have hreached := reached_of_saved h
  by_cases hk : k ∈ l.map Prod.fst
  · obtain ⟨p, hp, rfl⟩ := List.mem_map.mp hk
    have hvalue : (assignAll fails l f).1 p.1 = p.2 := assignAll_of_mem hl (hreached.symm ▸ hp)
    constructor
    · intro hv
      rw [hvalue] at hv
      exact .inl (by rw [← hv]; exact hp)
    · rintro (hv | ⟨hnot, -⟩)
      · exact assignAll_of_mem (p := (p.1, v)) hl (hreached.symm ▸ hv)
      · exact absurd hk hnot
  · rw [assignAll_of_not_mem (by rw [hreached]; exact hk)]
    constructor
    · intro hv
      exact .inr ⟨hk, hv⟩
    · rintro (hv | ⟨-, hv⟩)
      · exact absurd (List.mem_map.mpr ⟨_, hv, rfl⟩) hk
      · exact hv

/-! ## All or nothing -/

/-- The outcome `f'` of a request on `f` that asks for values: with success they are all in
place, without it nothing has changed. -/
def AllOrNothing (f : K → V) (asked : K → Option V) (success : Prop) (f' : K → V) : Prop :=
  (success → ∀ k v, asked k = some v → f' k = v) ∧ (¬ success → f' = f)

/-- When all saves succeed and the reply is sent, the values asked for are the ones
assigned, or in place and not assigned; otherwise what is assigned is in place. -/
def Kept (f : K → V) (asked : K → Option V) (fails : K → Bool) (l : List (K × V))
    (replies : Prop) : Prop :=
  (((∀ p ∈ l, fails p.1 = false) ∧ replies) → ∀ k v, asked k = some v →
    (k, v) ∈ l ∨ (k ∉ l.map Prod.fst ∧ f k = v)) ∧
  (¬ ((∀ p ∈ l, fails p.1 = false) ∧ replies) → ∀ p ∈ reached fails l, f p.1 = p.2)

theorem allOrNothing_iff (hl : (l.map Prod.fst).Nodup) (asked : K → Option V) (replies : Prop) :
    AllOrNothing f asked ((assignAll fails l f).2 = true ∧ replies) (assignAll fails l f).1 ↔
      Kept f asked fails l replies := by
  simp only [AllOrNothing, Kept, assignAll_snd]
  refine and_congr ?_ ?_
  · refine imp_congr_right fun hsaved => ?_
    simp only [assignAll_apply_eq_iff hl hsaved.1]
  · exact imp_congr_right fun _ => assignAll_eq_iff hl

end Assign
