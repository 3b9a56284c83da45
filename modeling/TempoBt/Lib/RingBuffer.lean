-- SUMMARY: Ring buffers seen as the latest entries of an infinite history, most recent first.
import Mathlib.Algebra.Group.Fin.Basic
import Mathlib.Algebra.Group.Units.Equiv
import Mathlib.Data.List.FinRange
import Mathlib.Data.Stream.Init
import Mathlib.Tactic.Abel

/-!
# Ring buffers

An array of slots that is written around and around. What it is for is the latest
entries of a history without a beginning: the value that the slots were filled with
stands before the first entry. The place where the index stands is of no concern.
-/

namespace RingBuffer

variable {α : Type*} {n : ℕ} [NeZero n]

/-- The slots after a write at index `next`. -/
def write (slots : Fin n → α) (next : Fin n) (x : α) : Fin n → α :=
  fun i => if i = next then x else slots i

/-- The `k`-th most recent entry, where `next` is written next. -/
def recent (slots : Fin n → α) (next k : Fin n) : α := slots (next - 1 - k)

/-- The slots hold the latest entries of a history. -/
def Holds (slots : Fin n → α) (next : Fin n) (history : Stream' α) : Prop :=
  ∀ k : Fin n, recent slots next k = history.get k

variable {slots : Fin n → α} {next : Fin n} {history : Stream' α}

/-- Slots that all have one value hold the history that is this value throughout. -/
theorem holds_fill (x : α) (next : Fin n) : Holds (fun _ => x) next (Stream'.const x) :=
  fun _ => rfl

/-- A write is an entry. -/
theorem Holds.write (h : Holds slots next history) (x : α) :
    Holds (RingBuffer.write slots next x) (next + 1) (history.cons x) := by
  intro k
  have hback : next + 1 - 1 - k = next - k := by abel
  rw [recent, hback, RingBuffer.write]
  by_cases hk : k = 0
  · rw [hk, if_pos (sub_zero next)]
    rfl
  · have hne : next - k ≠ next := fun heq => hk (by simpa using heq)
    rw [if_neg hne]
    -- the entry before `k` is the one that was at `k - 1`
    obtain ⟨j, hj⟩ : ∃ j, k.val = j + 1 :=
      Nat.exists_eq_succ_of_ne_zero fun hval => hk (Fin.ext hval)
    have hprev : next - k = next - 1 - (k - 1) := by abel
    have hval : (k - 1).val = j := by
      rw [Fin.val_sub_one_of_ne_zero hk, hj]
      rfl
    calc slots (next - k)
        = recent slots next (k - 1) := by rw [hprev, recent]
      _ = history.get j := by rw [h (k - 1), hval]
      _ = (history.cons x).get k := by rw [hj]; rfl

/-- Slots that hold one history hold another when its latest entries are the same. -/
theorem Holds.iff (h : Holds slots next history) (history' : Stream' α) :
    Holds slots next history' ↔ ∀ k : Fin n, history.get k = history'.get k := by
  unfold Holds
  constructor
  · intro h' k
    rw [← h k, h' k]
  · intro heq k
    rw [h k, heq k]

/-- The slots are the entries, in another order. -/
theorem perm_recent (slots : Fin n → α) (next : Fin n) :
    (List.ofFn slots).Perm (List.ofFn (recent slots next)) := by
  have hrecent : recent slots next = slots ∘ Equiv.subLeft (next - 1) := by
    funext k
    rw [recent, Function.comp_apply, Equiv.subLeft_apply]
  rw [hrecent]
  exact (Equiv.Perm.ofFn_comp_perm (Equiv.subLeft (next - 1)) slots).symm

/-- Two histories with the same latest entry differ, if they do, in the entries before. -/
theorem get_cons_eq_iff (x : α) (a b : Stream' α) (n : ℕ) :
    (∀ k : Fin (n + 1), (a.cons x).get k = (b.cons x).get k) ↔
      ∀ k : Fin n, a.get k = b.get k := by
  rw [Fin.forall_fin_succ]
  exact ⟨fun h => h.2, fun h => ⟨rfl, h⟩⟩

end RingBuffer
