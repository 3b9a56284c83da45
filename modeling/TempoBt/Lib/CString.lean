-- SUMMARY: C string functions on byte lists: comparison, prefixes, occurrences, the part after a separator, and bounded copies.
import TempoBt.Lib.Bytes
import Mathlib.Data.List.Infix
import Mathlib.Data.List.TakeWhile

/-!
# C strings

The functions of `string.h` on strings without their terminator. A string holds
no NUL; the lemmas say so where it matters.
-/

namespace CString

/-- The string in a byte list: up to the first NUL. -/
def cstr (s : Bytes) : Bytes := s.takeWhile (· != 0)

/-- `strcmp`: the difference at the first place where the strings differ, with the
terminator below every character. -/
def strcmp : Bytes → Bytes → Int
  | [], [] => 0
  | [], b :: _ => -(b.toNat : Int)
  | a :: _, [] => a.toNat
  | a :: as, b :: bs =>
    if a = b then if a = 0 then 0 else strcmp as bs else (a.toNat : Int) - b.toNat

/-- `strncmp(s, start, strlen(start)) == 0` -/
def startsWith (start s : Bytes) : Bool := start.isPrefixOf s

/-- `strstr(s, part) != NULL` -/
def strstr (s part : Bytes) : Bool := s.tails.any part.isPrefixOf

/-- The string after the last `sep`, or all of it: `strrchr(s, sep) + 1`. -/
def afterLast (sep : UInt8) (s : Bytes) : Bytes := (s.reverse.takeWhile (· != sep)).reverse

/-- The string in an array of `size` characters. -/
@[ext]
structure CharArray (size : Nat) where
  chars : Bytes
  no_nul : 0 ∉ chars
  fits : chars.length < size
  deriving DecidableEq

/-- What a buffer of `size` bytes keeps of a string that is copied into it and
terminated. -/
def copied (size : Nat) (s : Bytes) : Bytes := s.take (size - 1)

/-! ## Comparison -/

theorem cstr_of_no_nul {s : Bytes} (h : 0 ∉ s) : cstr s = s := by
  rw [cstr, List.takeWhile_eq_self_iff]
  intro b hb
  rw [bne_iff_ne]
  rintro rfl
  exact h hb

theorem cstr_append_nul {s : Bytes} (h : 0 ∉ s) (t : Bytes) : cstr (s ++ 0 :: t) = s := by
  have hall : ∀ b ∈ s, (b != 0) = true := by
    intro b hb
    rw [bne_iff_ne]
    rintro rfl
    exact h hb
  rw [cstr, List.takeWhile_append_of_pos hall, List.takeWhile_cons_of_neg (by simp),
    List.append_nil]

theorem not_mem_cstr (s : Bytes) : 0 ∉ cstr s := fun h => by
  simpa using List.mem_takeWhile_imp h

@[simp] theorem cstr_cstr (s : Bytes) : cstr (cstr s) = cstr s := cstr_of_no_nul (not_mem_cstr s)

theorem length_cstr_le (s : Bytes) : (cstr s).length ≤ s.length :=
  (List.takeWhile_prefix _).length_le

theorem cstr_cons (a : UInt8) (s : Bytes) : cstr (a :: s) = if a = 0 then [] else a :: cstr s := by
  rw [cstr, List.takeWhile_cons]
  by_cases ha : a = 0 <;> simp [ha, cstr]

theorem strcmp_swap (as bs : Bytes) : strcmp bs as = -strcmp as bs := by
  induction as generalizing bs with
  | nil => cases bs <;> simp [strcmp]
  | cons a as ih =>
    cases bs with
    | nil => simp [strcmp]
    | cons b bs =>
      rw [strcmp, strcmp]
      by_cases hab : a = b
      · subst hab
        rw [if_pos rfl, if_pos rfl, ih bs]
        split <;> omega
      · rw [if_neg hab, if_neg (fun h => hab h.symm)]
        omega

/-- `strcmp` is the byte order on strings. -/
theorem strcmp_neg_iff (as bs : Bytes) : strcmp as bs < 0 ↔ cstr as < cstr bs := by
  have hpos {b : UInt8} (hb : b ≠ 0) : 0 < b.toNat :=
    Nat.pos_of_ne_zero (fun h => hb (UInt8.toNat_inj.mp h))
  induction as generalizing bs with
  | nil =>
    cases bs with
    | nil => simp [strcmp, cstr]
    | cons b bs =>
      rw [cstr_cons, strcmp]
      by_cases hb : b = 0
      · simp [hb, cstr]
      · have := hpos hb
        rw [if_neg hb]
        simp only [cstr, List.takeWhile_nil, List.nil_lt_cons, iff_true]
        omega
  | cons a as ih =>
    cases bs with
    | nil =>
      simp only [strcmp, cstr, List.takeWhile_nil, List.not_lt_nil, iff_false]
      omega
    | cons b bs =>
      rw [cstr_cons, cstr_cons, strcmp]
      by_cases hab : a = b
      · subst hab
        rw [if_pos rfl]
        by_cases ha : a = 0
        · simp [ha]
        · simp only [if_neg ha, List.cons_lt_cons_iff, UInt8.lt_irrefl, false_or, true_and]
          exact ih bs
      · rw [if_neg hab]
        by_cases ha : a = 0
        · have hb : b ≠ 0 := fun hb => hab (ha.trans hb.symm)
          have := hpos hb
          rw [if_pos ha, if_neg hb, ha]
          simp only [UInt8.toNat_zero, List.nil_lt_cons, iff_true]
          omega
        · rw [if_neg ha]
          by_cases hb : b = 0
          · have := hpos ha
            rw [if_pos hb, hb]
            simp only [UInt8.toNat_zero, List.not_lt_nil, iff_false]
            omega
          · rw [if_neg hb, List.cons_lt_cons_iff]
            simp only [hab, false_and, or_false, UInt8.lt_iff_toNat_lt]
            omega

theorem strcmp_nonpos_iff (as bs : Bytes) : strcmp as bs ≤ 0 ↔ cstr as ≤ cstr bs := by
  have h := strcmp_neg_iff bs as
  rw [strcmp_swap as bs] at h
  rw [← List.not_lt, ← h]
  omega

/-! ## Parts -/

theorem startsWith_iff {start s : Bytes} : startsWith start s = true ↔ start <+: s :=
  List.isPrefixOf_iff_prefix

theorem startsWith_append (start s : Bytes) : startsWith start (start ++ s) = true :=
  startsWith_iff.mpr (List.prefix_append start s)

/-- A string occurs where another begins with it. -/
theorem strstr_of_prefix {s part : Bytes} (h : part <+: s) : strstr s part = true := by
  rw [strstr, List.any_eq_true]
  exact ⟨s, (List.mem_tails s s).mpr (List.suffix_refl s), List.isPrefixOf_iff_prefix.mpr h⟩

theorem afterLast_append {sep : UInt8} {t : Bytes} (ht : sep ∉ t) (s : Bytes) :
    afterLast sep (s ++ sep :: t) = t := by
  have hall : ∀ b ∈ t.reverse, (b != sep) = true := by
    intro b hb
    rw [bne_iff_ne]
    rintro rfl
    exact ht (List.mem_reverse.mp hb)
  rw [afterLast, List.reverse_append, List.reverse_cons, List.append_assoc,
    List.takeWhile_append_of_pos hall]
  simp

/-- A string that fits is copied whole. -/
theorem copied_of_fits {size : Nat} {s : Bytes} (h : s.length < size) : copied size s = s :=
  List.take_of_length_le (by omega)

end CString
