-- SUMMARY: Fixed-point arithmetic of 64-bit signed integers: checked operations, and the error and the magnitude of what they compute.
import Mathlib.Algebra.Order.Field.Basic
import Mathlib.Algebra.Order.Ring.Abs
import Mathlib.Data.Rat.Cast.Order
import Mathlib.Tactic.FieldSimp
import Mathlib.Tactic.Linarith
import Mathlib.Tactic.NormNum
import Mathlib.Tactic.Ring

/-!
# Fixed-point arithmetic

A formula is evaluated in 64-bit integers, with divisions that cut towards zero. Each value
is an approximation of an exact one, with a bound on its error and one on the exact value;
the operations carry both bounds along, and the second one keeps them from overflowing.
-/

namespace FixedPoint

/-- The result of an `int64_t` operation; an overflow has none. -/
def checked (x : Int) : Option Int :=
  if -9223372036854775808 ≤ x ∧ x ≤ 9223372036854775807 then some x else none

/-- `x` approximates `y`, which is at most `M`, up to an error of `e`. -/
structure Approx (x : Int) (y M e : ℚ) : Prop where
  error : |(x : ℚ) - y| ≤ e
  bound : |y| ≤ M

namespace Approx

variable {x x' : Int} {y y' M M' e e' : ℚ}

theorem exact {x : Int} {M : ℚ} (h : |(x : ℚ)| ≤ M) : Approx x x M 0 :=
  ⟨by rw [sub_self, abs_zero], h⟩

/-- The exact value of a formula in another form, with rounder bounds. -/
theorem weaken (h : Approx x y M e) (hy : y = y') (hM : M ≤ M') (he : e ≤ e') :
    Approx x y' M' e' :=
  hy ▸ ⟨h.error.trans he, h.bound.trans hM⟩

theorem error_nonneg (h : Approx x y M e) : 0 ≤ e := (abs_nonneg _).trans h.error

theorem bound_nonneg (h : Approx x y M e) : 0 ≤ M := (abs_nonneg _).trans h.bound

theorem abs_le_add (h : Approx x y M e) : |(x : ℚ)| ≤ M + e := by
  have hsum := abs_add_le y ((x : ℚ) - y)
  rw [add_sub_cancel] at hsum
  exact hsum.trans (add_le_add h.bound h.error)

theorem add (h : Approx x y M e) (h' : Approx x' y' M' e') :
    Approx (x + x') (y + y') (M + M') (e + e') := by
  constructor
  · have hsplit : ((x + x' : Int) : ℚ) - (y + y') = (x - y) + (x' - y') := by
      push_cast
      ring
    rw [hsplit]
    exact (abs_add_le _ _).trans (add_le_add h.error h'.error)
  · exact (abs_add_le _ _).trans (add_le_add h.bound h'.bound)

theorem mul (h : Approx x y M e) (h' : Approx x' y' M' e') :
    Approx (x * x') (y * y') (M * M') (M * e' + e * M' + e * e') := by
  have hM := h.bound_nonneg
  have he := h.error_nonneg
  constructor
  · have hsplit : ((x * x' : Int) : ℚ) - y * y' =
        y * (x' - y') + (x - y) * y' + (x - y) * (x' - y') := by
      push_cast
      ring
    rw [hsplit]
    apply (abs_add_le _ _).trans
    apply add_le_add
    · apply (abs_add_le _ _).trans
      rw [abs_mul, abs_mul]
      exact add_le_add (mul_le_mul h.bound h'.error (abs_nonneg _) hM)
        (mul_le_mul h.error h'.bound (abs_nonneg _) he)
    · rw [abs_mul]
      exact mul_le_mul h.error h'.error (abs_nonneg _) he
  · rw [abs_mul]
    exact mul_le_mul h.bound h'.bound (abs_nonneg _) hM

theorem neg (h : Approx x y M e) : Approx (-x) (-y) M e := by
  constructor
  · have hneg : ((-x : Int) : ℚ) - -y = -(x - y) := by
      push_cast
      ring
    rw [hneg, abs_neg]
    exact h.error
  · rw [abs_neg]
    exact h.bound

/-- Divisions one after the other are one by the product. -/
theorem tdiv_tdiv (x : Int) (b c : Nat) : (x.tdiv b).tdiv c = x.tdiv (b * c : Nat) := by
  have hnat (n : Nat) : ((n : Int).tdiv b).tdiv c = (n : Int).tdiv (b * c : Nat) := by
    rw [← Int.ofNat_tdiv, ← Int.ofNat_tdiv, ← Int.ofNat_tdiv, Nat.div_div_eq_div_mul]
  obtain ⟨n, rfl | rfl⟩ := x.eq_nat_or_neg
  · exact hnat n
  · rw [Int.neg_tdiv, Int.neg_tdiv, Int.neg_tdiv, hnat]

/-- A division that cuts towards zero is less than one away from the quotient. -/
theorem abs_tdiv_sub_le (x : Int) {b : Nat} (hb : 0 < b) :
    |((x.tdiv b : Int) : ℚ) - x / b| ≤ 1 := by
  have hb' : (0 : ℚ) < b := by exact_mod_cast hb
  have hmod := Int.mul_tdiv_add_tmod x b
  have hlt : |x.tmod b| < b := by
    rw [← Int.natCast_natAbs, Int.natAbs_tmod, Int.natAbs_natCast]
    exact_mod_cast Nat.mod_lt _ hb
  have hcast : (x : ℚ) = b * (x.tdiv b : Int) + (x.tmod b : Int) := by
    exact_mod_cast hmod.symm
  have hlt' : |((x.tmod b : Int) : ℚ)| < b := by exact_mod_cast hlt
  have hdiff : ((x.tdiv b : Int) : ℚ) - x / b = -((x.tmod b : Int) / b) := by
    rw [hcast]
    field_simp
    ring
  rw [hdiff, abs_neg, abs_div, abs_of_pos hb', div_le_one hb']
  exact hlt'.le

theorem tdiv (h : Approx x y M e) (b : Nat) (hb : 0 < b) :
    Approx (x.tdiv b) (y / b) (M / b) (e / b + 1) := by
  have hb' : (0 : ℚ) < b := by exact_mod_cast hb
  constructor
  · have hcut := abs_tdiv_sub_le x hb
    have hquot : |(x : ℚ) / b - y / b| ≤ e / b := by
      rw [← sub_div, abs_div, abs_of_pos hb']
      exact div_le_div_of_nonneg_right h.error hb'.le
    have hsum := abs_add_le ((x : ℚ) / b - y / b) ((x.tdiv b : Int) - x / b)
    have hsplit : (x : ℚ) / b - y / b + ((x.tdiv b : Int) - x / b) = (x.tdiv b : Int) - y / b := by
      ring
    rw [hsplit] at hsum
    exact hsum.trans (add_le_add hquot hcut)
  · rw [abs_div, abs_of_pos hb']
    exact div_le_div_of_nonneg_right h.bound hb'.le

/-- A value whose bounds are small does not overflow. -/
theorem checked_eq (h : Approx x y M e) (hfits : M + e ≤ 9223372036854775807) :
    checked x = some x := by
  have habs := abs_le.mp (h.abs_le_add.trans hfits)
  have hlow : (-9223372036854775807 : Int) ≤ x := by exact_mod_cast habs.1
  have hhigh : x ≤ 9223372036854775807 := by exact_mod_cast habs.2
  exact if_pos ⟨by omega, hhigh⟩

/-- The rule of a checked operation, when its result is kept as it is. -/
theorem run {β : Type} {f : Int → Option β} {v : Option β} (h : Approx x y M e)
    (hfits : M + e ≤ 9223372036854775807) (hf : f x = v) : (checked x >>= f) = v := by
  rw [h.checked_eq hfits]
  exact hf

/-- The rule of a checked operation: what follows has a value as exact as its result. -/
theorem bind {β : Type} {f : Int → Option β} {Q : β → Prop} (h : Approx x y M e)
    (hfits : M + e ≤ 9223372036854775807)
    (hf : ∀ z, Approx z y M e → ∃ v, f z = some v ∧ Q v) :
    ∃ v, (checked x >>= f) = some v ∧ Q v := by
  obtain ⟨v, hv, hQ⟩ := hf x h
  refine ⟨v, ?_, hQ⟩
  rw [h.checked_eq hfits]
  exact hv

end Approx

end FixedPoint
