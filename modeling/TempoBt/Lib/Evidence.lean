-- SUMMARY: A counter that may hold more than the run it stands for, and what reaching a bound then says about the run.
import Mathlib.Algebra.Order.Ring.Int

/-!
# Counted evidence

A counter is meant for the length of a run of events. Where it is not reset at the start
of the period, it stands for the run only once it has been zero in it.
-/

/-- `count` stands for a run of length `run`. While it has not been zero it also holds
what came before, and has reached no `bound` since. -/
structure Evidence (count : Int) (run : Nat) (fresh : Bool) (bound : Int) : Prop where
  nonneg : 0 ≤ count
  of_fresh : fresh = true → count ≤ run
  of_stale : fresh = false → run < count ∧ (bound ≤ count → run = 0)

namespace Evidence

variable {count bound : Int} {run : Nat} {fresh : Bool}

theorem entered (hcount : 0 ≤ count) : Evidence count 0 (decide (count = 0)) bound where
  nonneg := hcount
  of_fresh h := by simpa using (of_decide_eq_true h).le
  of_stale h := by
    have hne : count ≠ 0 := of_decide_eq_false h
    exact ⟨by simpa using lt_of_le_of_ne hcount hne.symm, fun _ => rfl⟩

theorem zero : Evidence 0 run true bound where
  nonneg := le_refl 0
  of_fresh _ := Int.natCast_nonneg run
  of_stale h := by simp at h

/-- A step that does not count. -/
theorem keep (h : Evidence count run fresh bound) :
    Evidence count run (decide (count = 0) || fresh) bound := by
  by_cases hcount : count = 0
  · subst hcount
    exact .zero
  · simpa [hcount] using h

/-- A step that counts, and that does not reach the bound with what came before. -/
theorem climb (h : Evidence count run fresh bound)
    (hguard : bound ≤ count + 1 → fresh = true) :
    Evidence (count + 1) (run + 1) fresh bound where
  nonneg := by have := h.nonneg; omega
  of_fresh hf := by have := h.of_fresh hf; omega
  of_stale hf := by
    have hstale := (h.of_stale hf).1
    refine ⟨by push_cast; omega, fun hbound => ?_⟩
    rw [hguard hbound] at hf
    simp at hf

/-- A step that breaks off the run, and counts nothing unless something came before. -/
theorem idle (h : Evidence count run fresh bound) (hzero : fresh = true → count = 0) :
    Evidence count 0 (decide (count = 0) || fresh) bound := by
  by_cases hcount : count = 0
  · subst hcount
    exact .zero
  · have hfresh : fresh = false := by simpa using mt hzero hcount
    obtain ⟨hlt, -⟩ := h.of_stale hfresh
    refine ⟨h.nonneg, ?_, fun _ => ⟨?_, fun _ => rfl⟩⟩
    · simp [hcount, hfresh]
    · push_cast
      omega

/-- Where the bound is reached, the run is long enough if nothing else was counted. -/
theorem le_run (h : Evidence count run fresh bound) (hbound : bound ≤ count + 1)
    (hfresh : fresh = true) : bound ≤ (run + 1 : Nat) := by
  have := h.of_fresh hfresh
  push_cast
  omega

/-- Otherwise it is too short, but for a bound of one. -/
theorem run_lt (h : Evidence count run fresh bound) (hbound : bound ≤ count + 1)
    (hfresh : fresh = false) (hone : 1 < bound) : ((run + 1 : Nat) : Int) < bound := by
  obtain ⟨hlt, hzero⟩ := h.of_stale hfresh
  by_cases hreached : bound ≤ count
  · simpa [hzero hreached] using hone
  · push_cast
    omega

end Evidence
