-- SUMMARY: Maximal runs of the items of a sequence that satisfy a test, counted as the sequence grows.
import Mathlib.Data.List.Induction

/-!
# Maximal runs

`countRuns p l` is the number of maximal runs of consecutive items of `l` that
satisfy `p`, `lastRun p l` the run that `l` ends with, and `trailing p l` its length.
-/

namespace List

variable {α : Type*} (p : α → Bool)

/-- The runs that begin in the list; `inside` says whether a run is already under way. -/
def runsFrom (inside : Bool) : List α → Nat
  | [] => 0
  | a :: l => (if p a && !inside then 1 else 0) + runsFrom (p a) l

/-- The number of maximal runs of items satisfying `p`. -/
def countRuns (l : List α) : Nat := l.runsFrom p false

/-- The length of the run at the end. -/
def trailing (l : List α) : Nat := (l.reverse.takeWhile p).length

variable {p}

theorem trailing_concat_of_pos {a : α} (l : List α) (ha : p a = true) :
    (l ++ [a]).trailing p = l.trailing p + 1 := by
  simp [trailing, ha]

theorem trailing_concat_of_neg {a : α} (l : List α) (ha : p a = false) :
    (l ++ [a]).trailing p = 0 := by
  simp [trailing, ha]

/-- The run at the end. -/
def lastRun (p : α → Bool) (l : List α) : List α := (l.reverse.takeWhile p).reverse

@[simp] theorem lastRun_nil : ([] : List α).lastRun p = [] := rfl

theorem lastRun_concat_of_pos {a : α} (l : List α) (ha : p a = true) :
    (l ++ [a]).lastRun p = l.lastRun p ++ [a] := by
  simp [lastRun, ha]

theorem lastRun_concat_of_neg {a : α} (l : List α) (ha : p a = false) :
    (l ++ [a]).lastRun p = [] := by
  simp [lastRun, ha]

theorem trailing_le_length (l : List α) : l.trailing p ≤ l.length := by
  have h := (List.takeWhile_sublist p (l := l.reverse)).length_le
  rwa [List.length_reverse] at h

theorem runsFrom_le_length (inside : Bool) (l : List α) : l.runsFrom p inside ≤ l.length := by
  induction l generalizing inside with
  | nil => exact Nat.le_refl 0
  | cons a l ih =>
    have hl := ih (p a)
    rw [runsFrom, length_cons]
    split <;> omega

theorem countRuns_le_length (l : List α) : l.countRuns p ≤ l.length :=
  runsFrom_le_length false l

theorem runsFrom_concat (inside : Bool) (l : List α) (a : α) :
    (l ++ [a]).runsFrom p inside =
      l.runsFrom p inside + if p a && !(l.getLast?.map p).getD inside then 1 else 0 := by
  induction l generalizing inside with
  | nil => simp [runsFrom]
  | cons b l ih =>
    rw [List.cons_append, runsFrom, ih, runsFrom, Nat.add_assoc]
    cases l with
    | nil => rfl
    | cons c l => rfl

/-- An item begins a run exactly when it satisfies `p` and the run before it is
empty. -/
theorem countRuns_concat (l : List α) (a : α) :
    (l ++ [a]).countRuns p =
      l.countRuns p + if p a = true ∧ l.trailing p = 0 then 1 else 0 := by
  have hlast : (l.getLast?.map p).getD false = false ↔ l.trailing p = 0 := by
    induction l using List.reverseRecOn with
    | nil => simp [trailing]
    | append_singleton l b _ =>
      cases hb : p b with
      | true => simp [trailing_concat_of_pos l hb, hb]
      | false => simp [trailing_concat_of_neg l hb, hb]
  rw [countRuns, runsFrom_concat, countRuns]
  congr 1
  by_cases h : l.trailing p = 0
  · simp [h, hlast.mpr h]
  · have hin : (l.getLast?.map p).getD false = true := by
      simpa using mt hlast.mp h
    simp [h, hin]

end List
