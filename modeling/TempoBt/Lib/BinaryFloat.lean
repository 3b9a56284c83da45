-- SUMMARY: Rounding to a binary floating-point format: to nearest, ties to even, and how far the result is off.
import Mathlib.Data.Int.Log
import Mathlib.Data.Rat.Floor
import Mathlib.Tactic.Linarith
import Mathlib.Tactic.Ring

/-!
# Rounding to binary floating point

A format keeps a number of significant bits, down to a smallest exponent. A number is
rounded to the nearest one of the format, of two that are as near to the one with an even
last bit. Numbers that are too large for a format do not occur here.
-/

namespace BinaryFloat

/-- The nearest integer, of two the even one. -/
def nearest (q : ℚ) : Int :=
  if q - ⌊q⌋ < 1 / 2 ∨ q - ⌊q⌋ = 1 / 2 ∧ ⌊q⌋ % 2 = 0 then ⌊q⌋ else ⌊q⌋ + 1

theorem abs_nearest_sub_le (q : ℚ) : |(nearest q : ℚ) - q| ≤ 1 / 2 := by
  have hlow := Int.floor_le q
  have hhigh := Int.lt_floor_add_one q
  unfold nearest
  split
  · rename_i hdown
    have hhalf : q - ⌊q⌋ ≤ 1 / 2 := hdown.elim le_of_lt fun h => h.1.le
    rw [abs_le]
    constructor <;> linarith
  · rename_i hup
    have hhalf : 1 / 2 ≤ q - ⌊q⌋ := not_lt.mp fun h => hup (.inl h)
    rw [abs_le]
    push_cast
    constructor <;> linarith

theorem nearest_intCast (n : Int) : nearest (n : ℚ) = n := by
  rw [nearest, Int.floor_intCast, sub_self]
  exact if_pos (.inl (by norm_num))

structure Format where
  precision : Nat
  minExp : Int

/-- `float` -/
def binary32 : Format := ⟨24, -149⟩

namespace Format

variable (fmt : Format)

/-- The last bit of a number in the format. -/
def ulp (q : ℚ) : ℚ := 2 ^ max (Int.log 2 |q| + 1 - fmt.precision) fmt.minExp

def round (q : ℚ) : ℚ := nearest (q / fmt.ulp q) * fmt.ulp q

variable {q : ℚ}

theorem ulp_pos : 0 < fmt.ulp q := zpow_pos (by norm_num) _

theorem round_zero : fmt.round 0 = 0 := by
  have hnearest := nearest_intCast 0
  rw [Int.cast_zero] at hnearest
  rw [round, zero_div, hnearest, Int.cast_zero, zero_mul]

/-- A number is rounded by half its last bit at most. -/
theorem abs_round_sub_le : |fmt.round q - q| ≤ fmt.ulp q / 2 := by
  have hpos : 0 < fmt.ulp q := fmt.ulp_pos
  have herror := abs_nearest_sub_le (q / fmt.ulp q)
  have hscaled : fmt.round q - q = (nearest (q / fmt.ulp q) - q / fmt.ulp q) * fmt.ulp q := by
    rw [round, sub_mul, div_mul_cancel₀ q hpos.ne']
  rw [hscaled, abs_mul, abs_of_pos hpos]
  calc |(nearest (q / fmt.ulp q) : ℚ) - q / fmt.ulp q| * fmt.ulp q
      ≤ 1 / 2 * fmt.ulp q := mul_le_mul_of_nonneg_right herror hpos.le
    _ = fmt.ulp q / 2 := by ring

/-- The leading bit of a number below a power of two. -/
theorem log_lt {k : Int} (hpos : 0 < |q|) (h : |q| < 2 ^ k) : Int.log 2 |q| < k :=
  (Int.lt_zpow_iff_log_lt (by norm_num) hpos).mp (by exact_mod_cast h)

theorem ulp_le {k : Int} (hpos : 0 < |q|) (h : |q| < 2 ^ k)
    (hk : fmt.minExp ≤ k - fmt.precision) : fmt.ulp q ≤ 2 ^ (k - fmt.precision) := by
  have hlog := log_lt hpos h
  exact zpow_le_zpow_right₀ (by norm_num) (max_le (by omega) hk)

/-- A number below a power of two is rounded by half of the last bit that it can have. -/
theorem abs_round_sub_le_of_lt {k : Int} (h : |q| < 2 ^ k)
    (hk : fmt.minExp ≤ k - fmt.precision) :
    |fmt.round q - q| ≤ 2 ^ (k - fmt.precision) / 2 := by
  rcases (abs_nonneg q).eq_or_lt with hzero | hpos
  · have hq : q = 0 := abs_eq_zero.mp hzero.symm
    rw [hq, round_zero, sub_zero, abs_zero]
    exact (div_pos (zpow_pos (by norm_num) _) (by norm_num)).le
  · have hulp := fmt.ulp_le hpos h hk
    have hround : |fmt.round q - q| ≤ fmt.ulp q / 2 := fmt.abs_round_sub_le
    linarith

/-- An integer that has no more bits than the format is in it. -/
theorem round_intCast {n : Int} (h : |(n : ℚ)| < 2 ^ (fmt.precision : Int))
    (hmin : fmt.minExp ≤ 0) : fmt.round n = n := by
  rcases eq_or_ne n 0 with rfl | hn
  · rw [Int.cast_zero, round_zero]
  have hpos : 0 < |(n : ℚ)| := abs_pos.mpr (Int.cast_ne_zero.mpr hn)
  have hlog := log_lt hpos h
  -- the last bit is a fraction of one, so that the integer is a multiple of it
  obtain ⟨e, he⟩ : ∃ e : Nat, fmt.ulp n = 2 ^ (-(e : Int)) := by
    have hle : max (Int.log 2 |(n : ℚ)| + 1 - fmt.precision) fmt.minExp ≤ 0 :=
      max_le (by omega) hmin
    refine ⟨(max (Int.log 2 |(n : ℚ)| + 1 - fmt.precision) fmt.minExp).natAbs, ?_⟩
    rw [ulp]
    congr 1
    omega
  have hquotient : (n : ℚ) / fmt.ulp n = ((n * 2 ^ e : Int) : ℚ) := by
    rw [he, zpow_neg, zpow_natCast, div_inv_eq_mul]
    push_cast
    ring
  rw [round, hquotient, nearest_intCast, ← hquotient, div_mul_cancel₀ _ fmt.ulp_pos.ne']

end Format

end BinaryFloat
