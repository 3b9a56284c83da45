-- SUMMARY: Byte strings of a C program: character codes, the XOR of a byte string, hex digits, and `strtol`.
import Mathlib.Data.List.Basic
import Mathlib.Tactic.IntervalCases

/-!
# Byte strings

A C string or a memory block is a list of bytes. The character functions follow
the C standard in the "C" locale.
-/

abbrev Bytes := List UInt8

/-- The bytes of an ASCII text. -/
def ascii (s : String) : Bytes := s.toList.map fun c => UInt8.ofNat c.toNat

namespace Bytes

/-! ## The XOR of a byte string -/

/-- A check of all characters. -/
theorem forall_of_all {P : UInt8 → Prop} [DecidablePred P] {s : Bytes}
    (h : (s.all fun b => decide (P b)) = true) : ∀ b ∈ s, P b := fun b hb =>
  of_decide_eq_true (List.all_eq_true.mp h b hb)

/-- The XOR of all bytes. -/
def xorSum (bs : Bytes) : UInt8 := bs.foldl (· ^^^ ·) 0

theorem foldl_xor (c : UInt8) (bs : Bytes) : bs.foldl (· ^^^ ·) c = c ^^^ xorSum bs := by
  induction bs generalizing c with
  | nil => simp [xorSum]
  | cons b bs ih =>
    have h : xorSum (b :: bs) = b ^^^ xorSum bs := by
      rw [xorSum, List.foldl_cons, ih, UInt8.zero_xor]
    rw [List.foldl_cons, ih, h, UInt8.xor_assoc]

@[simp] theorem xorSum_nil : xorSum [] = 0 := rfl

@[simp] theorem xorSum_cons (b : UInt8) (bs : Bytes) : xorSum (b :: bs) = b ^^^ xorSum bs := by
  rw [xorSum, List.foldl_cons, foldl_xor, UInt8.zero_xor]

@[simp] theorem xorSum_append (as bs : Bytes) :
    xorSum (as ++ bs) = xorSum as ^^^ xorSum bs := by
  induction as with
  | nil => simp
  | cons a as ih => simp [ih, UInt8.xor_assoc]

/-- Changing one byte changes the XOR. -/
theorem xorSum_replace_ne {as bs : Bytes} {b c : UInt8} (h : b ≠ c) :
    xorSum (as ++ b :: bs) ≠ xorSum (as ++ c :: bs) := by
  simp only [xorSum_append, xorSum_cons, ne_eq, UInt8.xor_right_inj, UInt8.xor_left_inj]
  exact h

/-! ## Separators -/

/-- Two splits of one text at its first separator are the same split. -/
theorem append_sep_inj {sep : UInt8} {as bs s t : Bytes} (has : sep ∉ as) (hbs : sep ∉ bs)
    (h : as ++ sep :: s = bs ++ sep :: t) : as = bs ∧ s = t := by
  induction as generalizing bs with
  | nil =>
    cases bs with
    | nil => simpa using h
    | cons b bs =>
      obtain ⟨rfl, -⟩ := List.cons.inj h
      simp at hbs
  | cons a as ih =>
    cases bs with
    | nil =>
      obtain ⟨rfl, -⟩ := List.cons.inj h
      simp at has
    | cons b bs =>
      simp only [List.cons_append, List.cons.injEq] at h
      simp only [List.mem_cons, not_or] at has hbs
      obtain ⟨rfl, rfl⟩ := ih has.2 hbs.2 h.2
      exact ⟨by rw [h.1], rfl⟩

/-! ## Hex digits -/

/-- The value of a character as a digit in bases up to 36. -/
def digitVal (b : UInt8) : Option Nat :=
  if 48 ≤ b ∧ b ≤ 57 then some (b.toNat - 48)
  else if 65 ≤ b ∧ b ≤ 90 then some (b.toNat - 55)
  else if 97 ≤ b ∧ b ≤ 122 then some (b.toNat - 87)
  else none

/-- The digit `%X` prints for a value below 16. -/
def hexDigit (n : Nat) : UInt8 := UInt8.ofNat (if n < 10 then 48 + n else 55 + n)

/-- `%02X` of a byte: its two upper-case hex digits. -/
def hex2 (b : UInt8) : Bytes := [hexDigit (b.toNat / 16), hexDigit (b.toNat % 16)]

/-- `hi` and `lo` are the two hex digits of `v`, in either letter case. -/
def IsHex (hi lo v : UInt8) : Prop :=
  digitVal hi = some (v.toNat / 16) ∧ digitVal lo = some (v.toNat % 16)

instance (hi lo v : UInt8) : Decidable (IsHex hi lo v) := inferInstanceAs (Decidable (_ ∧ _))

theorem digitVal_hexDigit {n : Nat} (h : n < 16) : digitVal (hexDigit n) = some n := by
  interval_cases n <;> decide

theorem isHex_hex2 (v : UInt8) :
    IsHex (hexDigit (v.toNat / 16)) (hexDigit (v.toNat % 16)) v := by
  have h := v.toNat_lt
  exact ⟨digitVal_hexDigit (by omega), digitVal_hexDigit (by omega)⟩

/-- A digit character is neither white space nor a sign nor line structure. -/
theorem digitVal_bounds {b : UInt8} {n : Nat} (h : digitVal b = some n) : 48 ≤ b.toNat := by
  unfold digitVal at h
  split at h
  · rename_i hb; simpa [UInt8.le_iff_toNat_le] using hb.1
  · split at h
    · rename_i hb; have := hb.1; simp [UInt8.le_iff_toNat_le] at this; omega
    · split at h
      · rename_i hb; have := hb.1; simp [UInt8.le_iff_toNat_le] at this; omega
      · cases h

theorem le_hexDigit {n : Nat} (h : n < 16) : 48 ≤ (hexDigit n).toNat :=
  digitVal_bounds (digitVal_hexDigit h)

theorem le_of_mem_hex2 {b v : UInt8} (h : b ∈ hex2 v) : 48 ≤ b.toNat := by
  have hv := v.toNat_lt
  simp only [hex2, List.mem_cons, List.not_mem_nil, or_false] at h
  rcases h with rfl | rfl
  · exact le_hexDigit (by omega)
  · exact le_hexDigit (by omega)

/-! ## `strtol` -/

/-- `isspace` in the "C" locale. -/
def isSpace (b : UInt8) : Bool := b == 32 || (9 ≤ b && b ≤ 13)

/-- The value of the leading digits below `base`, continuing from `acc`. -/
def digits (base : Nat) : Nat → Bytes → Nat
  | acc, [] => acc
  | acc, b :: bs =>
    match digitVal b with
    | some d => if d < base then digits base (acc * base + d) bs else acc
    | none => acc

/-- Drop the `0x` prefix `strtol` allows in base 16; it counts only before a
hex digit. -/
def dropHexPrefix : Bytes → Bytes
  | 48 :: x :: d :: bs =>
    if (x = 120 ∨ x = 88) ∧ ∃ n ∈ digitVal d, n < 16 then d :: bs else 48 :: x :: d :: bs
  | bs => bs

/-- Split an optional sign off; `true` for a minus sign. -/
def splitSign : Bytes → Bool × Bytes
  | [] => (false, [])
  | b :: bs => if b = 45 then (true, bs) else if b = 43 then (false, bs) else (false, b :: bs)

/-- `strtol(s, NULL, base)` for base 10 or 16, with a 32-bit `long`. -/
def strtol (base : Nat) (s : Bytes) : Int :=
  let sign := splitSign (s.dropWhile isSpace)
  let n : Int := digits base 0 (if base = 16 then dropHexPrefix sign.2 else sign.2)
  max (-2147483648) (min 2147483647 (if sign.1 then -n else n))

/-- `(uint8_t)strtol(s, NULL, base)`. -/
def strtolU8 (base : Nat) (s : Bytes) : UInt8 := UInt8.ofInt (strtol base s)

theorem isSpace_of_digitVal {b : UInt8} {n : Nat} (h : digitVal b = some n) :
    isSpace b = false := by
  have hb := digitVal_bounds h
  simp only [isSpace, Bool.or_eq_false_iff, beq_eq_false_iff_ne, Bool.and_eq_false_iff,
    decide_eq_false_iff_not, UInt8.le_iff_toNat_le]
  refine ⟨fun h => ?_, Or.inr ?_⟩
  · subst h; simp at hb
  · simp; omega

/-- A digit is not a sign. -/
theorem splitSign_of_digitVal {b : UInt8} {n : Nat} (h : digitVal b = some n) (bs : Bytes) :
    splitSign (b :: bs) = (false, b :: bs) := by
  have hb := digitVal_bounds h
  have hminus : b ≠ 45 := by rintro rfl; simp at hb
  have hplus : b ≠ 43 := by rintro rfl; simp at hb
  simp [splitSign, hminus, hplus]

/-- Reading two hex digits gives back the byte. -/
theorem strtolU8_isHex {hi lo v : UInt8} (h : IsHex hi lo v) : strtolU8 16 [hi, lo] = v := by
  obtain ⟨hhi, hlo⟩ := h
  have hv := v.toNat_lt
  have hsp : [hi, lo].dropWhile isSpace = [hi, lo] := by
    simp [isSpace_of_digitVal hhi]
  have hprefix : dropHexPrefix [hi, lo] = [hi, lo] := by
    unfold dropHexPrefix
    split
    · rename_i heq; simp at heq
    · rfl
  have hdig : digits 16 0 [hi, lo] = v.toNat := by
    simp only [digits, hhi, hlo]
    rw [if_pos (by omega), if_pos (by omega)]
    omega
  have hval : strtol 16 [hi, lo] = v.toNat := by
    simp only [strtol, hsp, splitSign_of_digitVal hhi, if_true, hprefix, hdig,
      Bool.false_eq_true, if_false]
    omega
  have hmod : ((v.toNat : Int) % 2 ^ 8).toNat = v.toNat := by omega
  rw [strtolU8, hval, UInt8.ofInt, hmod, UInt8.ofNat_toNat]

end Bytes
