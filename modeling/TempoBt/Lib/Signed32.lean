-- SUMMARY: Arithmetic of 32-bit signed integers where nothing overflows, and the factors that a scaled number can take.
import Mathlib.Algebra.Order.Ring.Int

/-!
# 32-bit signed integers

Where the exact result of an operation is in range, the machine computes it. A fixed
point product is cut by a shift, which rounds down also below zero.
-/

namespace Signed32

/-- The range of `int32_t`. -/
def InRange (v : Int) : Prop := -2147483648 ≤ v ∧ v ≤ 2147483647

instance (v : Int) : Decidable (InRange v) := inferInstanceAs (Decidable (_ ∧ _))

theorem bmod_of_inRange {v : Int} (h : InRange v) : v.bmod (2 ^ 32) = v := by
  obtain ⟨hlow, hhigh⟩ := h
  exact Int.bmod_eq_of_le hlow (by omega)

theorem toInt_add {a b : Int32} (h : InRange (a.toInt + b.toInt)) :
    (a + b).toInt = a.toInt + b.toInt := by
  rw [Int32.toInt_add, bmod_of_inRange h]

theorem toInt_sub {a b : Int32} (h : InRange (a.toInt - b.toInt)) :
    (a - b).toInt = a.toInt - b.toInt := by
  rw [Int32.toInt_sub, bmod_of_inRange h]

theorem toInt_mul {a b : Int32} (h : InRange (a.toInt * b.toInt)) :
    (a * b).toInt = a.toInt * b.toInt := by
  rw [Int32.toInt_mul, bmod_of_inRange h]

/-- The step of a running minimum. -/
theorem toInt_ite_lt (a b : Int32) : (if a < b then a else b).toInt = min b.toInt a.toInt := by
  split
  · rename_i h
    rw [Int32.lt_iff_toInt_lt] at h
    omega
  · rename_i h
    rw [Int32.lt_iff_toInt_lt] at h
    omega

/-- The step of a running maximum. -/
theorem toInt_ite_gt (a b : Int32) : (if a > b then a else b).toInt = max b.toInt a.toInt := by
  split
  · rename_i h
    rw [gt_iff_lt, Int32.lt_iff_toInt_lt] at h
    omega
  · rename_i h
    rw [gt_iff_lt, Int32.lt_iff_toInt_lt] at h
    omega

/-- A number is kept by 16 unsigned bits exactly when it fits. -/
theorem toNat_ofInt_iff (v : Int) : ((UInt16.ofInt v).toNat : Int) = v ↔ 0 ≤ v ∧ v < 65536 := by
  unfold UInt16.ofInt
  rw [UInt16.toNat_ofNat']
  omega

/-- A 16-bit factor, as C promotes it. -/
theorem toInt_promote (n : UInt16) : n.toUInt32.toInt32.toInt = n.toNat := by
  have hlt := n.toNat_lt
  have hbits : n.toUInt32.toBitVec.toNat = n.toNat := UInt16.toNat_toUInt32 n
  change n.toUInt32.toBitVec.toInt = _
  rw [BitVec.toInt_eq_toNat_of_lt (by omega), hbits]

/-- The arithmetic shift by 15 divides by 32768 and rounds down. -/
theorem toInt_shiftRight (a : Int32) : (a >>> 15).toInt = a.toInt / 32768 := by
  have hbits : (a >>> 15).toBitVec = a.toBitVec.sshiftRight 15 := rfl
  change (a >>> 15).toBitVec.toInt = _
  rw [hbits, BitVec.toInt_sshiftRight, Int.shiftRight_eq_div_pow]
  rfl

/-- A number and its product with a factor are in range exactly when the number is
within the quotients of the bounds. -/
theorem inRange_mul_iff (d : Int) (n : Nat) :
    InRange d ∧ InRange (d * n) ↔
      -(2147483648 / (max n 1 : Nat)) ≤ d ∧ d ≤ 2147483647 / (max n 1 : Nat) := by
  unfold InRange
  cases n with
  | zero => simp
  | succ n =>
    have hone : (1 : Int) ≤ ((n + 1 : Nat) : Int) := Int.ofNat_le.mpr (Nat.le_add_left 1 n)
    have hpos : (0 : Int) < ((n + 1 : Nat) : Int) := hone
    have hlow : -(2147483648 / ((n + 1 : Nat) : Int)) ≤ d ↔ -2147483648 ≤ d * (n + 1 : Nat) := by
      rw [neg_le, Int.le_ediv_iff_mul_le hpos, neg_mul, neg_le]
    rw [Nat.max_eq_left (Nat.le_add_left 1 n), Int.le_ediv_iff_mul_le hpos, hlow]
    refine ⟨fun h => h.2, fun h => ⟨?_, h⟩⟩
    -- the factor is at least 1, so the product is at least as far from 0 as the number
    rcases le_total 0 d with hd | hd
    · have hfar := le_mul_of_one_le_right hd hone
      omega
    · have hfar := mul_le_of_one_le_right hd hone
      omega

end Signed32
