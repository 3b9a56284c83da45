-- SUMMARY: What `strtol` makes of one or two characters in base 16, whatever they are, and how large a text of some length can read in base 10.
import TempoBt.Lib.Bytes

/-!
# Short numbers

`strtol` skips white space, applies a sign and stops at the first character that is
not a digit, so it gives a value to texts that are no numbers.
-/

namespace Bytes

/-! ## Digits -/

/-- The value of a hex digit. -/
def hexVal (b : UInt8) : Option Nat := (digitVal b).filter (· < 16)

/-- What two characters read as in base 16: a missing second digit is dropped, a
space or a sign before the second digit is skipped or applied. -/
def fieldValue (p1 p2 : UInt8) : Int :=
  match hexVal p1, hexVal p2 with
  | some a, some b => a * 16 + b
  | some a, none => a
  | none, some b => if isSpace p1 ∨ p1 = 43 then b else if p1 = 45 then -b else 0
  | none, none => 0

theorem hexVal_eq_some {b : UInt8} {n : Nat} :
    hexVal b = some n ↔ digitVal b = some n ∧ n < 16 := by
  simp [hexVal, Option.filter_eq_some_iff]

theorem digits_of_hexVal {b : UInt8} {d : Nat} (h : hexVal b = some d) (acc : Nat)
    (bs : Bytes) : digits 16 acc (b :: bs) = digits 16 (acc * 16 + d) bs := by
  obtain ⟨hdigit, hd⟩ := hexVal_eq_some.mp h
  simp [digits, hdigit, hd]

theorem digits_of_no_hexVal {b : UInt8} (h : hexVal b = none) (acc : Nat) (bs : Bytes) :
    digits 16 acc (b :: bs) = acc := by
  cases hb : digitVal b with
  | none => simp [digits, hb]
  | some d =>
    have hd : ¬ d < 16 := fun hd => by simp [hexVal_eq_some.mpr ⟨hb, hd⟩] at h
    simp [digits, hb, hd]

/-- Two characters are too short for a `0x` prefix. -/
theorem dropHexPrefix_of_length {s : Bytes} (h : s.length ≤ 2) : dropHexPrefix s = s := by
  unfold dropHexPrefix
  split
  · simp at h
  · rfl

theorem hexVal_digit_not_space {b : UInt8} {n : Nat} (h : hexVal b = some n) :
    isSpace b = false ∧ b ≠ 45 ∧ b ≠ 43 := by
  obtain ⟨hdigit, -⟩ := hexVal_eq_some.mp h
  have hb := digitVal_bounds hdigit
  refine ⟨isSpace_of_digitVal hdigit, ?_, ?_⟩
  · rintro rfl
    simp at hb
  · rintro rfl
    simp at hb

theorem digits_single (p : UInt8) : digits 16 0 [p] = (hexVal p).getD 0 := by
  cases hp : hexVal p with
  | some a => rw [digits_of_hexVal hp, digits, Nat.zero_mul, Nat.zero_add, Option.getD_some]
  | none => simp [digits_of_no_hexVal hp]

theorem hexVal_getD_lt (p : UInt8) : (hexVal p).getD 0 < 16 := by
  cases hp : hexVal p with
  | some a => exact (hexVal_eq_some.mp hp).2
  | none => simp

/-! ## Reading

The first character decides how the number is read. -/

theorem strtol_space {p : UInt8} (hp : isSpace p = true) (base : Nat) (bs : Bytes) :
    strtol base (p :: bs) = strtol base bs := by
  simp [strtol, hp]

theorem strtol_plus (p : UInt8) : strtol 16 [43, p] = ((hexVal p).getD 0 : Nat) := by
  have hlt := hexVal_getD_lt p
  have hspace : isSpace 43 = false := rfl
  simp only [strtol, List.dropWhile_cons, hspace, splitSign]
  rw [← digits_single] at hlt ⊢
  simp [dropHexPrefix]
  omega

theorem strtol_minus (p : UInt8) : strtol 16 [45, p] = -((hexVal p).getD 0 : Nat) := by
  have hlt := hexVal_getD_lt p
  have hspace : isSpace 45 = false := rfl
  simp only [strtol, List.dropWhile_cons, hspace, splitSign]
  rw [← digits_single] at hlt ⊢
  simp [dropHexPrefix]
  omega

theorem strtol_unsigned {p : UInt8} (hspace : isSpace p = false) (hminus : p ≠ 45)
    (hplus : p ≠ 43) {bs : Bytes} (hlen : bs.length ≤ 1) :
    strtol 16 (p :: bs) =
      max (-2147483648) (min 2147483647 (digits 16 0 (p :: bs) : Int)) := by
  have hprefix : dropHexPrefix (p :: bs) = p :: bs := dropHexPrefix_of_length (by simpa using hlen)
  simp [strtol, hspace, splitSign, hminus, hplus, hprefix]

/-- A single character reads as its digit, any other as zero. -/
theorem strtol_single (p : UInt8) : strtol 16 [p] = ((hexVal p).getD 0 : Nat) := by
  by_cases hspace : isSpace p = true
  · have hp : hexVal p = none := by
      cases hp : hexVal p with
      | some a => simp [(hexVal_digit_not_space hp).1] at hspace
      | none => rfl
    rw [strtol_space hspace, hp]
    rfl
  · by_cases hminus : p = 45
    · rw [hminus]
      rfl
    · by_cases hplus : p = 43
      · rw [hplus]
        rfl
      · have hlt := hexVal_getD_lt p
        rw [strtol_unsigned (by simpa using hspace) hminus hplus (by simp), digits_single]
        omega

theorem fieldValue_of_no_digit {p1 : UInt8} (h1 : hexVal p1 = none) (p2 : UInt8) :
    fieldValue p1 p2 =
      if isSpace p1 ∨ p1 = 43 then (((hexVal p2).getD 0 : Nat) : Int)
      else if p1 = 45 then -(((hexVal p2).getD 0 : Nat) : Int) else 0 := by
  cases h2 : hexVal p2 with
  | some b => simp only [fieldValue, h1, h2, Option.getD_some]
  | none => simp [fieldValue, h1, h2]

/-- `fieldValue` is what `strtol` makes of the two checksum characters. -/
theorem strtol_fieldValue (p1 p2 : UInt8) : strtol 16 [p1, p2] = fieldValue p1 p2 := by
  cases h1 : hexVal p1 with
  | some a =>
    have ha := (hexVal_eq_some.mp h1).2
    obtain ⟨hspace, hminus, hplus⟩ := hexVal_digit_not_space h1
    rw [strtol_unsigned hspace hminus hplus (by simp)]
    cases h2 : hexVal p2 with
    | some b =>
      have hb := (hexVal_eq_some.mp h2).2
      have hdigits : digits 16 0 [p1, p2] = a * 16 + b := by
        rw [digits_of_hexVal h1, digits_of_hexVal h2, digits, Nat.zero_mul, Nat.zero_add]
      simp only [hdigits, fieldValue, h1, h2]
      omega
    | none =>
      have hdigits : digits 16 0 [p1, p2] = a := by
        rw [digits_of_hexVal h1, digits_of_no_hexVal h2, Nat.zero_mul, Nat.zero_add]
      simp only [hdigits, fieldValue, h1, h2]
      omega
  | none =>
    rw [fieldValue_of_no_digit h1]
    by_cases hspace : isSpace p1 = true
    · rw [strtol_space hspace, strtol_single, if_pos (Or.inl hspace)]
    · by_cases hplus : p1 = 43
      · rw [hplus, strtol_plus, if_pos (Or.inr rfl)]
      · rw [if_neg (by simp [hspace, hplus])]
        by_cases hminus : p1 = 45
        · rw [hminus, strtol_minus, if_pos rfl]
        · rw [if_neg hminus, strtol_unsigned (by simpa using hspace) hminus hplus (by simp),
            digits_of_no_hexVal h1]
          rfl

/-- Two characters are the hex digits of `v` when both are hex digits and they read
as `v`. -/
theorem isHex_iff {p1 p2 v : UInt8} :
    IsHex p1 p2 v ↔
      (hexVal p1).isSome ∧ (hexVal p2).isSome ∧ v = strtolU8 16 [p1, p2] := by
  constructor
  · intro h
    have hv := v.toNat_lt
    refine ⟨?_, ?_, (strtolU8_isHex h).symm⟩
    · rw [hexVal_eq_some.mpr ⟨h.1, by omega⟩, Option.isSome_some]
    · rw [hexVal_eq_some.mpr ⟨h.2, by omega⟩, Option.isSome_some]
  · rintro ⟨h1, h2, rfl⟩
    obtain ⟨a, ha⟩ := Option.isSome_iff_exists.mp h1
    obtain ⟨b, hb⟩ := Option.isSome_iff_exists.mp h2
    have ha16 := (hexVal_eq_some.mp ha).2
    have hb16 := (hexVal_eq_some.mp hb).2
    have hval : (strtolU8 16 [p1, p2]).toNat = a * 16 + b := by
      rw [strtolU8, strtol_fieldValue]
      simp only [fieldValue, ha, hb, UInt8.ofInt, UInt8.toNat_ofNat']
      omega
    refine ⟨?_, ?_⟩
    · rw [hval, (hexVal_eq_some.mp ha).1]
      congr 1
      omega
    · rw [hval, (hexVal_eq_some.mp hb).1]
      congr 1
      omega

/-! ## Magnitudes -/

/-- Digits make a number of no more places than there are characters. -/
theorem digits_lt {base : Nat} (hbase : 0 < base) (acc : Nat) (s : Bytes) :
    digits base acc s < (acc + 1) * base ^ s.length := by
  have hplaces (n : Nat) : acc < (acc + 1) * base ^ n :=
    calc acc < acc + 1 := Nat.lt_succ_self acc
      _ ≤ (acc + 1) * base ^ n := Nat.le_mul_of_pos_right _ (Nat.pow_pos hbase)
  induction s generalizing acc with
  | nil => simp [digits]
  | cons b bs ih =>
    rw [digits]
    split
    · rename_i d hd
      split
      · rename_i hlt
        calc digits base (acc * base + d) bs
            < (acc * base + d + 1) * base ^ bs.length := by
              apply ih
              intro n
              exact (Nat.lt_succ_self _).trans_le (Nat.le_mul_of_pos_right _ (Nat.pow_pos hbase))
          _ ≤ ((acc + 1) * base) * base ^ bs.length := by
              apply Nat.mul_le_mul_right
              rw [Nat.succ_mul]
              exact Nat.add_le_add_left hlt _
          _ = (acc + 1) * base ^ (b :: bs).length := by
              rw [List.length_cons, Nat.pow_succ, Nat.mul_assoc, Nat.mul_comm base]
      · exact hplaces _
    · exact hplaces _

theorem length_splitSign_le (s : Bytes) : (splitSign s).2.length ≤ s.length := by
  unfold splitSign
  split
  · exact Nat.le_refl _
  · split
    · exact Nat.le_succ _
    · split
      · exact Nat.le_succ _
      · exact Nat.le_refl _

/-- In base 10 a text of `n` characters reads as less than `10 ^ n`, with either sign. -/
theorem strtol_bounds (s : Bytes) :
    -(10 ^ s.length : Nat) < strtol 10 s ∧ strtol 10 s < (10 ^ s.length : Nat) := by
  have hdigits := digits_lt (show 0 < 10 by decide) 0 (splitSign (s.dropWhile isSpace)).2
  have hlength : (splitSign (s.dropWhile isSpace)).2.length ≤ s.length :=
    (length_splitSign_le _).trans (List.dropWhile_suffix isSpace).length_le
  have hplaces := Nat.pow_le_pow_right (show 0 < 10 by decide) hlength
  simp only [strtol, show ¬ (10 : Nat) = 16 by decide, if_false]
  split <;> omega

end Bytes
