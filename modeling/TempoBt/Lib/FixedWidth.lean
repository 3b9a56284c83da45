-- SUMMARY: Numbers printed with a fixed number of places: the text of `%0<width>d`, what is read back from it, and that texts are ordered as their numbers.
import TempoBt.Lib.Scanf
import Mathlib.Data.Nat.Log

/-!
# Numbers of fixed width

`lowDigits` is the text of a number that fits its places. Texts of one width can be put
side by side, and compare as their numbers do.
-/

namespace Printf

open Bytes

/-- `%0<width>d` -/
def zeroPadded (width : Nat) (i : Int) : Bytes :=
  let sign := if i < 0 then [45] else []
  let digits := decimal i.natAbs
  sign ++ List.replicate (width - (sign.length + digits.length)) 48 ++ digits

@[simp] theorem length_lowDigits (width n : Nat) : (lowDigits width n).length = width := by
  induction width generalizing n with
  | zero => rfl
  | succ width ih => rw [lowDigits, List.length_append, ih, List.length_singleton]

/-- The digits of a number that has all its places. -/
theorem decimal_eq_lowDigits {width n : Nat} (hlow : 10 ^ width ≤ n)
    (hhigh : n < 10 ^ (width + 1)) :
    decimal n = lowDigits (width + 1) n := by
  induction width generalizing n with
  | zero =>
    have hmod : n % 10 = n := Nat.mod_eq_of_lt hhigh
    rw [decimal_of_lt hhigh, lowDigits, lowDigits, hmod, List.nil_append]
  | succ width ih =>
    rw [Nat.pow_succ] at hlow hhigh
    have hten : 10 ≤ n := Nat.le_trans (Nat.le_mul_of_pos_left 10 (Nat.pow_pos (by decide))) hlow
    have hlow' : 10 ^ width ≤ n / 10 := (Nat.le_div_iff_mul_le (by decide)).mpr hlow
    have hhigh' : n / 10 < 10 ^ (width + 1) := Nat.div_lt_of_lt_mul (Nat.mul_comm _ _ ▸ hhigh)
    rw [decimal_append hten, ih hlow' hhigh']
    rfl

theorem lowDigits_zero_front {width n : Nat} (h : n < 10 ^ width) :
    lowDigits (width + 1) n = 48 :: lowDigits width n := by
  induction width generalizing n with
  | zero =>
    have hzero : n = 0 := Nat.lt_one_iff.mp h
    subst hzero
    rfl
  | succ width ih =>
    have hdiv : n / 10 < 10 ^ width := Nat.div_lt_of_lt_mul (by rw [Nat.mul_comm]; exact h)
    rw [lowDigits, ih hdiv, List.cons_append]
    rfl

/-- A number that has fewer digits than places is printed with zeros before it. -/
theorem lowDigits_replicate {width n : Nat} (h : n < 10 ^ width) (zeros : Nat) :
    lowDigits (width + zeros) n = List.replicate zeros 48 ++ lowDigits width n := by
  induction zeros with
  | zero => rfl
  | succ zeros ih =>
    have hlt : n < 10 ^ (width + zeros) :=
      Nat.lt_of_lt_of_le h (Nat.pow_le_pow_right (by decide) (Nat.le_add_right _ _))
    rw [← Nat.add_assoc, lowDigits_zero_front hlt, ih]
    rfl

/-- The digits of any number, by how many they are. -/
theorem exists_decimal_eq_lowDigits (n : Nat) :
    ∃ width, n < 10 ^ (width + 1) ∧ (width = 0 ∨ 10 ^ width ≤ n) ∧
      decimal n = lowDigits (width + 1) n := by
  rcases Nat.eq_zero_or_pos n with rfl | hn
  · exact ⟨0, by decide, .inl rfl, rfl⟩
  · have hlow : 10 ^ Nat.log 10 n ≤ n := Nat.pow_log_le_self 10 hn.ne'
    have hhigh : n < 10 ^ (Nat.log 10 n + 1) := Nat.lt_pow_succ_log_self (by decide) n
    exact ⟨Nat.log 10 n, hhigh, .inr hlow, decimal_eq_lowDigits hlow hhigh⟩

/-- A number is printed with its places, or with more when it does not fit. -/
theorem zeroPadded_eq {width : Nat} (hpos : 0 < width) (n : Nat) :
    ∃ w, width ≤ w ∧ n < 10 ^ w ∧ (w = width ∨ 10 ^ (w - 1) ≤ n) ∧
      zeroPadded width n = lowDigits w n := by
  obtain ⟨digits, hhigh, hlow, hdecimal⟩ := exists_decimal_eq_lowDigits n
  have hsign : ¬ (n : Int) < 0 := Int.not_lt.mpr (Int.natCast_nonneg n)
  have hpadded : zeroPadded width n =
      List.replicate (width - (digits + 1)) 48 ++ lowDigits (digits + 1) n := by
    rw [zeroPadded, if_neg hsign, Int.natAbs_natCast, hdecimal, length_lowDigits]
    simp
  rcases Nat.le_total (digits + 1) width with hle | hle
  · obtain ⟨zeros, rfl⟩ := Nat.exists_eq_add_of_le hle
    refine ⟨_, Nat.le_refl _, ?_, .inl rfl, ?_⟩
    · exact Nat.lt_of_lt_of_le hhigh (Nat.pow_le_pow_right (by decide) hle)
    · rw [hpadded, lowDigits_replicate hhigh, Nat.add_sub_cancel_left]
  · refine ⟨digits + 1, hle, hhigh, ?_, ?_⟩
    · rcases hlow with rfl | hlow
      · exact .inl (Nat.le_antisymm hpos hle)
      · exact .inr hlow
    · rw [hpadded, Nat.sub_eq_zero_of_le hle]
      rfl

theorem zeroPadded_of_lt {width n : Nat} (hpos : 0 < width) (h : n < 10 ^ width) :
    zeroPadded width n = lowDigits width n := by
  obtain ⟨w, hle, -, rfl | hlow, htext⟩ := zeroPadded_eq hpos n
  · exact htext
  · have hlt : w - 1 < width :=
      (Nat.pow_lt_pow_iff_right (by decide)).mp (Nat.lt_of_le_of_lt hlow h)
    have hw : w = width := by omega
    rw [htext, hw]

theorem isDecimal_of_mem_lowDigits {width n : Nat} :
    ∀ b ∈ lowDigits width n, isDecimal b = true := by
  induction width generalizing n with
  | zero => simp [lowDigits]
  | succ width ih =>
    intro b hb
    rcases List.mem_append.mp hb with hb | hb
    · exact ih b hb
    · rw [List.mem_singleton.mp hb]
      exact isDecimal_ofNat (Nat.mod_lt n (by decide))

/-- What was printed is read back. -/
theorem digits_lowDigits {width n : Nat} (h : n < 10 ^ width) :
    digits 10 0 (lowDigits width n) = n := by
  induction width generalizing n with
  | zero => exact (Nat.lt_one_iff.mp h).symm
  | succ width ih =>
    have hdiv : n / 10 < 10 ^ width := Nat.div_lt_of_lt_mul (by rw [Nat.mul_comm]; exact h)
    have hlast := Nat.mod_lt n (by decide : 0 < 10)
    rw [lowDigits, digits_append isDecimal_of_mem_lowDigits, ih hdiv]
    simp only [digits, digitVal_ofNat hlast, if_pos hlast]
    omega

/-- `strtol` reads what was printed, if it fits a `long`. -/
theorem strtol_lowDigits {width n : Nat} (hpos : 0 < width) (h : n < 10 ^ width)
    (hmax : n < 2147483648) : strtol 10 (lowDigits width n) = n := by
  have hdigits := digits_lowDigits h
  cases htext : lowDigits width n with
  | nil =>
    have hlength := length_lowDigits width n
    rw [htext] at hlength
    exact absurd hlength hpos.ne
  | cons b rest =>
    obtain ⟨d, -, hval⟩ := digitVal_of_isDecimal
      (isDecimal_of_mem_lowDigits b (htext ▸ List.mem_cons_self))
    rw [htext] at hdigits
    rw [strtol, List.dropWhile_cons_of_neg (by simp [isSpace_of_digitVal hval]),
      splitSign_of_digitVal hval]
    simp only [Nat.reduceEqDiff, if_false, hdigits]
    simp
    omega

/-! ## Side by side -/

theorem lowDigits_mod (width n : Nat) : lowDigits width (n % 10 ^ width) = lowDigits width n := by
  induction width generalizing n with
  | zero => rfl
  | succ width ih =>
    have hdiv : n % 10 ^ (width + 1) / 10 = n / 10 % 10 ^ width := by
      rw [Nat.pow_succ, Nat.mul_comm, Nat.mod_mul_right_div_self]
    have hmod : n % 10 ^ (width + 1) % 10 = n % 10 :=
      Nat.mod_mod_of_dvd n (Dvd.intro_left (10 ^ width) rfl)
    rw [lowDigits, hdiv, hmod, ih, lowDigits]

theorem lowDigits_add (front back n : Nat) :
    lowDigits (front + back) n = lowDigits front (n / 10 ^ back) ++ lowDigits back n := by
  induction back generalizing n with
  | zero => simp [lowDigits]
  | succ back ih =>
    have hdiv : n / 10 / 10 ^ back = n / 10 ^ (back + 1) := by
      rw [Nat.div_div_eq_div_mul, Nat.pow_succ, Nat.mul_comm]
    rw [← Nat.add_assoc, lowDigits, ih, hdiv, lowDigits, List.append_assoc]

/-- A text made of two. -/
theorem lowDigits_append {back b : Nat} (hb : b < 10 ^ back) (front a : Nat) :
    lowDigits front a ++ lowDigits back b = lowDigits (front + back) (a * 10 ^ back + b) := by
  have hpos : 0 < 10 ^ back := Nat.pow_pos (by decide)
  rw [lowDigits_add, Nat.mul_comm, Nat.mul_add_div hpos, Nat.div_eq_of_lt hb, Nat.add_zero,
    ← lowDigits_mod back (10 ^ back * a + b), Nat.mul_add_mod, Nat.mod_eq_of_lt hb]

/-! ## Order -/

/-- The first digit of a number, and the number that is left. -/
theorem lowDigits_cons {width n : Nat} (h : n < 10 ^ (width + 1)) :
    lowDigits (width + 1) n =
      UInt8.ofNat (48 + n / 10 ^ width) :: lowDigits width (n % 10 ^ width) := by
  have hdigit : n / 10 ^ width < 10 := Nat.div_lt_of_lt_mul (by rwa [Nat.pow_succ] at h)
  rw [Nat.add_comm, lowDigits_add, lowDigits_mod, lowDigits, lowDigits, Nat.mod_eq_of_lt hdigit]
  rfl

theorem digit_lt_iff {a b : Nat} (ha : a < 10) (hb : b < 10) :
    UInt8.ofNat (48 + a) < UInt8.ofNat (48 + b) ↔ a < b := by
  rw [UInt8.lt_iff_toNat_lt, UInt8.toNat_ofNat', UInt8.toNat_ofNat']
  omega

theorem digit_inj {a b : Nat} (ha : a < 10) (hb : b < 10) :
    UInt8.ofNat (48 + a) = UInt8.ofNat (48 + b) ↔ a = b := by
  rw [← UInt8.toNat_inj, UInt8.toNat_ofNat', UInt8.toNat_ofNat']
  omega

theorem lt_iff_div_mod (a b p : Nat) : a < b ↔ a / p < b / p ∨ a / p = b / p ∧ a % p < b % p := by
  have hda := Nat.div_add_mod a p
  have hdb := Nat.div_add_mod b p
  constructor
  · intro h
    rcases (Nat.div_le_div_right (Nat.le_of_lt h) : a / p ≤ b / p).lt_or_eq with hlt | heq
    · exact .inl hlt
    · rw [heq] at hda
      exact .inr ⟨heq, by omega⟩
  · rintro (hlt | ⟨heq, hlt⟩)
    · exact Nat.lt_of_div_lt_div hlt
    · rw [heq] at hda
      omega

/-- Texts of one width are ordered as their numbers. -/
theorem lowDigits_lt_iff {width a b : Nat} (ha : a < 10 ^ width) (hb : b < 10 ^ width) :
    lowDigits width a < lowDigits width b ↔ a < b := by
  induction width generalizing a b with
  | zero =>
    rw [Nat.lt_one_iff.mp ha, Nat.lt_one_iff.mp hb]
    simp [lowDigits]
  | succ width ih =>
    have hpos : 0 < 10 ^ width := Nat.pow_pos (by decide)
    have hda : a / 10 ^ width < 10 := Nat.div_lt_of_lt_mul (by rwa [Nat.pow_succ] at ha)
    have hdb : b / 10 ^ width < 10 := Nat.div_lt_of_lt_mul (by rwa [Nat.pow_succ] at hb)
    have hla := Nat.mod_lt a hpos
    have hlb := Nat.mod_lt b hpos
    rw [lowDigits_cons ha, lowDigits_cons hb, List.cons_lt_cons_iff, digit_lt_iff hda hdb,
      digit_inj hda hdb, ih hla hlb, lt_iff_div_mod a b (10 ^ width)]

end Printf
