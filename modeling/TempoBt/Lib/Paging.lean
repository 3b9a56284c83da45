-- SUMMARY: Cutting a list into pages of a fixed size.
import Mathlib.Data.List.Basic

/-!
# Pages

`page n l p` is page `p` of the list `l`, in pages of `n` items.
-/

namespace List

variable {α : Type*}

/-- Page `p` of the list, in pages of `n` items. -/
def page (n : Nat) (l : List α) (p : Nat) : List α := (l.drop (p * n)).take n

theorem page_length (n : Nat) (l : List α) (p : Nat) :
    (l.page n p).length = min n (l.length - p * n) := by
  rw [page, length_take, length_drop]

/-- The first pages together are the front part of the list. -/
theorem flatMap_page (n : Nat) (l : List α) (pages : Nat) :
    (List.range pages).flatMap (l.page n) = l.take (pages * n) := by
  induction pages with
  | zero => simp
  | succ pages ih =>
    rw [range_succ, flatMap_append, ih, flatMap_singleton, page, Nat.succ_mul, take_add]

/-- Enough pages hold the whole list. -/
theorem flatMap_page_all {n : Nat} {l : List α} {pages : Nat} (h : l.length ≤ pages * n) :
    (List.range pages).flatMap (l.page n) = l := by
  rw [flatMap_page, take_of_length_le h]

end List
