-- SUMMARY: Machine words as little-endian bytes.
import TempoBt.Lib.Bytes

/-!
# Words in memory

The bytes of a number, the low one first, and the number of some bytes.
-/

namespace Bytes

/-- The lowest `n` bytes of `v`. -/
def leBytes : Nat → Nat → Bytes
  | 0, _ => []
  | n + 1, v => UInt8.ofNat v :: leBytes n (v / 256)

def leNat : Bytes → Nat
  | [] => 0
  | b :: bs => b.toNat + 256 * leNat bs

@[simp] theorem length_leBytes (n v : Nat) : (leBytes n v).length = n := by
  induction n generalizing v with
  | zero => rfl
  | succ n ih => rw [leBytes, List.length_cons, ih]

theorem leNat_leBytes (n v : Nat) : leNat (leBytes n v) = v % 256 ^ n := by
  induction n generalizing v with
  | zero => rw [leBytes, leNat, pow_zero, Nat.mod_one]
  | succ n ih =>
    rw [leBytes, leNat, ih, pow_succ', Nat.mod_mul, UInt8.toNat_ofNat']

/-- The first word of a record. -/
theorem leNat_take_append (n v : Nat) (rest : Bytes) :
    leNat ((leBytes n v ++ rest).take n) = v % 256 ^ n := by
  rw [List.take_left' (length_leBytes n v), leNat_leBytes]

/-- The words after the first one. -/
theorem drop_leBytes_append {n m : Nat} (h : n ≤ m) (v : Nat) (rest : Bytes) :
    (leBytes n v ++ rest).drop m = rest.drop (m - n) := by
  rw [List.drop_append, length_leBytes, List.drop_eq_nil_of_le (by rw [length_leBytes]; exact h),
    List.nil_append]

theorem leNat_lt (bs : Bytes) : leNat bs < 256 ^ bs.length := by
  induction bs with
  | nil => exact Nat.one_pos
  | cons b bs ih =>
    have hb := b.toNat_lt
    rw [leNat, List.length_cons, pow_succ]
    omega

end Bytes
