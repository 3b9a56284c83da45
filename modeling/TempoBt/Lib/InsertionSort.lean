-- SUMMARY: In-place insertion sort with an arbitrary stopping test: what one insertion does, and that the result is the sorted permutation.
import Mathlib.Data.List.Induction
import Mathlib.Data.List.Perm.Basic

/-!
# Insertion sort

The array program: the outer loop takes each item in turn, the inner loop moves
larger items of the sorted front part one place up until the stopping test holds
of the item before the hole. `stops a x` says that `a` may stay in front of `x`.
-/

namespace InsertionSort

variable {α : Type*} (stops : α → α → Bool)

/-- The inner loop for the item `x`, with the hole after `j` items. -/
def shift (x : α) : Nat → List α → List α
  | 0, l => l.set 0 x
  | j + 1, l =>
    match l[j]? with
    | some a => if stops a x then l.set (j + 1) x else shift x j (l.set (j + 1) a)
    | none => l

/-- The body of the outer loop. -/
def insertAt (l : List α) (i : Nat) : List α :=
  match l[i]? with
  | some x => shift stops x i l
  | none => l

/-- The outer loop. -/
def sort (l : List α) : List α := (List.range' 1 (l.length - 1)).foldl (insertAt stops) l

/-! ## One insertion -/

/-- The inner loop puts the item behind the last item that stops it. -/
theorem shift_eq (x : α) (front : List α) (y : α) (rest : List α) :
    ∃ as bs, front = as ++ bs ∧ (∀ b ∈ bs, stops b x = false) ∧
      (∀ a ∈ as.getLast?, stops a x = true) ∧
      shift stops x front.length (front ++ y :: rest) = as ++ x :: bs ++ rest := by
  induction front using List.reverseRecOn generalizing y rest with
  | nil => exact ⟨[], [], rfl, by simp, by simp, rfl⟩
  | append_singleton front a ih =>
    have hget : (front ++ [a] ++ y :: rest)[front.length]? = some a := by simp
    have hset (z : α) :
        (front ++ [a] ++ y :: rest).set (front.length + 1) z = front ++ [a] ++ z :: rest := by
      rw [List.set_append_right _ _ (by simp)]
      simp
    rw [List.length_append, List.length_singleton, shift, hget]
    simp only
    split
    · rename_i hstop
      refine ⟨front ++ [a], [], by simp, by simp, by simpa using hstop, ?_⟩
      rw [hset]
      simp
    · rename_i hstop
      -- the hole moves to the place of `a`
      rw [hset, List.append_assoc, List.singleton_append]
      obtain ⟨as, bs, rfl, hbs, has, hshift⟩ := ih a (a :: rest)
      refine ⟨as, bs ++ [a], by simp, ?_, has, by rw [hshift]; simp⟩
      intro b hb
      rcases List.mem_append.mp hb with hb | hb
      · exact hbs b hb
      · rw [List.mem_singleton.mp hb]
        simpa using hstop

section Ordered

variable {stops} (hswap : ∀ a b, stops a b = false → stops b a = true)
  (htrans : ∀ a b c, stops a b = true → stops b c = true → stops a c = true)

include hswap htrans

/-- One round of the outer loop inserts the item after a sorted front part. -/
theorem insertAt_sorted {front : List α} (hfront : front.Pairwise (stops · · = true)) (x : α)
    (rest : List α) :
    ∃ front', insertAt stops (front ++ x :: rest) front.length = front' ++ rest ∧
      front'.Perm (front ++ [x]) ∧ front'.Pairwise (stops · · = true) := by
  obtain ⟨as, bs, rfl, hbs, has, hshift⟩ := shift_eq stops x front x rest
  have hget : (as ++ bs ++ x :: rest)[(as ++ bs).length]? = some x := by simp
  refine ⟨as ++ x :: bs, by rw [insertAt, hget]; exact hshift, ?_, ?_⟩
  · rw [List.append_assoc]
    exact List.Perm.append_left as (List.perm_append_singleton x bs).symm
  obtain ⟨has', hbs', hab⟩ := List.pairwise_append.mp hfront
  have hlast : ∀ a ∈ as, stops a x = true := by
    intro a ha
    rcases List.eq_nil_or_concat' as with rfl | ⟨init, last, rfl⟩
    · simp at ha
    have hstop : stops last x = true := has last (by simp)
    rcases List.mem_append.mp ha with ha | ha
    · exact htrans a last x ((List.pairwise_append.mp has').2.2 a ha last (by simp)) hstop
    · rwa [List.mem_singleton.mp ha]
  rw [List.pairwise_append]
  refine ⟨has', List.pairwise_cons.mpr ⟨fun b hb => hswap b x (hbs b hb), hbs'⟩, ?_⟩
  intro a ha b hb
  rcases List.mem_cons.mp hb with rfl | hb
  · exact hlast a ha
  · exact hab a ha b hb

/-- The rounds from `i` on, after a sorted front part of `i` items. -/
theorem foldl_insertAt (front rest : List α) (hfront : front.Pairwise (stops · · = true)) :
    ((List.range' front.length rest.length).foldl (insertAt stops) (front ++ rest)).Perm
        (front ++ rest) ∧
      ((List.range' front.length rest.length).foldl (insertAt stops) (front ++ rest)).Pairwise
        (stops · · = true) := by
  induction rest generalizing front with
  | nil => simpa using hfront
  | cons x rest ih =>
    obtain ⟨front', hround, hperm, hsorted⟩ := insertAt_sorted hswap htrans hfront x rest
    have hlen : front'.length = front.length + 1 := by simpa using hperm.length_eq
    have hrest := ih front' hsorted
    rw [List.length_cons, List.range'_succ, List.foldl_cons, hround, ← hlen]
    refine ⟨hrest.1.trans ?_, hrest.2⟩
    simpa using hperm.append_right rest

theorem sort_perm (l : List α) : (sort stops l).Perm l := by
  cases l with
  | nil => exact List.Perm.refl []
  | cons x l => exact (foldl_insertAt hswap htrans [x] l (by simp)).1

theorem sort_sorted (l : List α) : (sort stops l).Pairwise (stops · · = true) := by
  cases l with
  | nil => exact List.Pairwise.nil
  | cons x l => exact (foldl_insertAt hswap htrans [x] l (by simp)).2

end Ordered

end InsertionSort
