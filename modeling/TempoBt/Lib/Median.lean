-- SUMMARY: The middle value of three, and the streams of samples in which no outlier has another one near it.
import Mathlib.Data.List.Infix
import Mathlib.Data.List.Perm.Basic
import Mathlib.Order.Lattice

/-!
# Medians of three

A filter that takes the middle value of the last three samples forgets an outlier that
stands alone: of three samples at most one is another value, so the middle one is not.
-/

namespace Median

variable {α : Type*} [LinearOrder α]

/-- `m` stands between the two others of three values. -/
def IsMiddle (m : α) (xs : List α) : Prop := ∃ a c, a ≤ m ∧ m ≤ c ∧ xs.Perm [a, m, c]

theorem IsMiddle.perm {m : α} {xs ys : List α} (h : IsMiddle m xs) (hperm : xs.Perm ys) :
    IsMiddle m ys := by
  obtain ⟨a, c, ha, hc, hxs⟩ := h
  exact ⟨a, c, ha, hc, hperm.symm.trans hxs⟩

/-- A value that only one of the three misses is the middle one. -/
theorem IsMiddle.eq_of_countP {m h : α} {xs : List α} (hm : IsMiddle m xs)
    (hcount : xs.countP (· ≠ h) ≤ 1) : m = h := by
  obtain ⟨a, c, ha, hc, hxs⟩ := hm
  rw [hxs.countP_eq] at hcount
  by_contra hne
  -- then neither neighbour misses it, and it lies between them
  have hothers : a = h ∧ c = h := by
    constructor
    · by_contra hane
      simp [List.countP_cons, hane, hne] at hcount
    · by_contra hcne
      simp only [ne_eq, decide_not, List.countP_cons, List.countP_nil, hne, hcne, decide_false,
        Bool.not_false, if_true, Nat.zero_add] at hcount
      exact absurd ((Nat.le_add_right 2 _).trans hcount) (by decide)
  obtain ⟨rfl, rfl⟩ := hothers
  exact hne (le_antisymm hc ha)

/-- The first three samples are `h`, and of any three in a row at most one is not. -/
structure IsolatedOutliers (h : α) (xs : List α) : Prop where
  first : ∀ x ∈ xs.take 3, x = h
  window : ∀ i, ((xs.drop i).take 3).countP (· ≠ h) ≤ 1

namespace IsolatedOutliers

variable {h : α} {xs ys : List α}

theorem of_prefix (hys : IsolatedOutliers h ys) (hpre : xs <+: ys) : IsolatedOutliers h xs where
  first x hx := hys.first x ((List.IsPrefix.take hpre 3).subset hx)
  window i :=
    (List.IsPrefix.take (List.IsPrefix.drop hpre i) 3).sublist.countP_le.trans (hys.window i)

/-- The sample after fewer than three is no outlier. -/
theorem early {x : α} (h' : IsolatedOutliers h (xs ++ [x])) (hlength : xs.length < 3) : x = h := by
  apply h'.first
  have hlast : (xs ++ [x]).length ≤ 3 := by
    rw [List.length_append]
    exact hlength
  rw [List.take_of_length_le hlast]
  exact List.mem_append_right xs (List.mem_singleton_self x)

theorem last_three {a b x : α} (h' : IsolatedOutliers h (xs ++ [a, b, x])) :
    [a, b, x].countP (· ≠ h) ≤ 1 := by
  have hwindow := h'.window xs.length
  rwa [List.drop_left] at hwindow

end IsolatedOutliers

end Median
