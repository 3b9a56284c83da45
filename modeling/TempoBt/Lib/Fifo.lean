-- SUMMARY: Bounded first-in first-out buffers whose capacity bound is part of the value.
import Mathlib.Data.List.Basic

/-!
# Bounded FIFO buffers

A `Fifo α n` holds at most `n` items. `put` stores as many leading items as
fit, `get` takes at most the requested number from the front.
-/

/-- A queue of at most `capacity` items, oldest first. -/
structure Fifo (α : Type*) (capacity : Nat) where
  items : List α
  fits : items.length ≤ capacity

namespace Fifo

variable {α : Type*} {n : Nat}

@[ext] theorem ext {q r : Fifo α n} (h : q.items = r.items) : q = r := by
  cases q; cases r; congr

def empty : Fifo α n := ⟨[], Nat.zero_le _⟩

instance : Inhabited (Fifo α n) := ⟨empty⟩

instance [DecidableEq α] : DecidableEq (Fifo α n) := fun q r =>
  decidable_of_iff (q.items = r.items) ⟨ext, fun h => by rw [h]⟩

def size (q : Fifo α n) : Nat := q.items.length

def space (q : Fifo α n) : Nat := n - q.size

/-- Append the leading items of `xs` that fit; also the number stored. -/
def put (q : Fifo α n) (xs : List α) : Fifo α n × Nat :=
  (⟨q.items ++ xs.take q.space, by
      have := q.fits
      simp only [List.length_append, List.length_take, space, size]
      omega⟩,
    min xs.length q.space)

/-- Take at most `k` items from the front; also the items taken. -/
def get (q : Fifo α n) (k : Nat) : Fifo α n × List α :=
  (⟨q.items.drop k, by
      have := q.fits
      simp only [List.length_drop]
      omega⟩,
    q.items.take k)

/-- A block that fits is stored whole. -/
theorem put_items_of_fits {q : Fifo α n} {xs : List α} (h : xs.length ≤ q.space) :
    (q.put xs).1.items = q.items ++ xs := by
  simp [put, List.take_of_length_le h]

@[simp] theorem get_fst_items (q : Fifo α n) (k : Nat) : (q.get k).1.items = q.items.drop k := rfl

@[simp] theorem get_snd (q : Fifo α n) (k : Nat) : (q.get k).2 = q.items.take k := rfl

/-- With a positive request nothing is taken only from an empty queue. -/
theorem get_eq_nil {q : Fifo α n} {k : Nat} (hk : 0 < k) :
    (q.get k).2 = [] ↔ q.items = [] := by
  simp [List.take_eq_nil_iff, Nat.pos_iff_ne_zero.mp hk]

end Fifo
