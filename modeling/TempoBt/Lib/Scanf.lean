-- SUMMARY: The numbers that `sscanf` reads from a text with `%d` and `%u` directives between commas.
import TempoBt.Lib.Printf
import Mathlib.Data.List.TakeWhile

/-!
# Reading numbers

A directive reads white space, a sign and decimal digits. What it stores for a number
that its 32-bit type cannot represent is a parameter: the C standard leaves it open for
`%d`, and for `%u` up to the wrap of a negative number.
-/

namespace Bytes

def isDecimal (b : UInt8) : Bool := 48 ≤ b && b ≤ 57

/-- The number a directive reads, and what follows it. -/
def scanNumber (s : Bytes) : Option (Int × Bytes) :=
  let sign := splitSign (s.dropWhile isSpace)
  if (sign.2.takeWhile isDecimal).isEmpty then none
  else
    let n : Int := digits 10 0 sign.2
    some (if sign.1 then -n else n, sign.2.dropWhile isDecimal)

/-- The numbers read by `count` directives with commas between them. -/
def scanNumbers : Nat → Bytes → List Int
  | 0, _ => []
  | count + 1, s =>
    match scanNumber s with
    | none => []
    | some (n, 44 :: rest) => n :: scanNumbers count rest
    | some (n, _) => [n]

section Stored

variable (other : Int → UInt32) (n : Int)

/-- What `%u` stores. -/
def scanUInt32 : UInt32 := if 0 ≤ n ∧ n < 4294967296 then n.toNat.toUInt32 else other n

/-- What `%d` stores. -/
def scanInt32 : Int32 :=
  if -2147483648 ≤ n ∧ n < 2147483648 then .ofInt n else (other n).toInt32

end Stored

/-! ## Printed numbers -/

section Printed

open Printf

theorem decimal_of_lt {n : Nat} (h : n < 10) : decimal n = [UInt8.ofNat (48 + n)] := by
  rw [decimal, Nat.toDigits_of_lt_base h]
  interval_cases n <;> rfl

theorem decimal_append {n : Nat} (h : 10 ≤ n) :
    decimal n = decimal (n / 10) ++ [UInt8.ofNat (48 + n % 10)] := by
  have hlast := decimal_of_lt (Nat.mod_lt n (by decide : 0 < 10))
  rw [decimal, Nat.toDigits_of_lt_base (Nat.mod_lt n (by decide : 0 < 10))] at hlast
  rw [decimal, Nat.toDigits_of_base_le (by decide) h, List.map_append, hlast, decimal]

theorem digitVal_ofNat {d : Nat} (h : d < 10) : digitVal (UInt8.ofNat (48 + d)) = some d := by
  interval_cases d <;> rfl

theorem isDecimal_ofNat {d : Nat} (h : d < 10) : isDecimal (UInt8.ofNat (48 + d)) = true := by
  interval_cases d <;> rfl

theorem isDecimal_of_mem_decimal {n : Nat} : ∀ b ∈ decimal n, isDecimal b = true := by
  induction n using Nat.strong_induction_on with
  | _ n ih =>
    rcases Nat.lt_or_ge n 10 with hn | hn
    · rw [decimal_of_lt hn]
      simpa using isDecimal_ofNat hn
    · rw [decimal_append hn]
      intro b hb
      rcases List.mem_append.mp hb with hb | hb
      · exact ih (n / 10) (by omega) b hb
      · rw [List.mem_singleton.mp hb]
        exact isDecimal_ofNat (Nat.mod_lt n (by decide))

theorem decimal_ne_nil (n : Nat) : decimal n ≠ [] := by
  rw [decimal, ne_eq, List.map_eq_nil_iff]
  exact Nat.toDigits_ne_nil

/-- A decimal digit, and no other character, is read in base 10. -/
theorem digitVal_of_isDecimal {b : UInt8} (h : isDecimal b = true) :
    ∃ d < 10, digitVal b = some d := by
  simp only [isDecimal, Bool.and_eq_true, decide_eq_true_eq] at h
  refine ⟨b.toNat - 48, ?_, by rw [digitVal, if_pos h]⟩
  have hhigh := UInt8.le_iff_toNat_le.mp h.2
  simp only [UInt8.reduceToNat] at hhigh
  omega

theorem digits_stop {b : UInt8} (h : isDecimal b = false) (acc : Nat) (s : Bytes) :
    digits 10 acc (b :: s) = acc := by
  simp only [isDecimal, Bool.and_eq_false_iff, decide_eq_false_iff_not] at h
  rw [digits, digitVal, if_neg (not_and_or.mpr h)]
  split
  · rename_i d hd
    rw [if_neg]
    split at hd
    · cases hd
      rename_i hletter
      have hlow := UInt8.le_iff_toNat_le.mp hletter.1
      simp only [UInt8.reduceToNat] at hlow
      omega
    · split at hd
      · cases hd
        rename_i hletter
        have hlow := UInt8.le_iff_toNat_le.mp hletter.1
        simp only [UInt8.reduceToNat] at hlow
        omega
      · cases hd
  · rfl

theorem digits_append {s : Bytes} (hs : ∀ b ∈ s, isDecimal b = true) (acc : Nat) (t : Bytes) :
    digits 10 acc (s ++ t) = digits 10 (digits 10 acc s) t := by
  induction s generalizing acc with
  | nil => rfl
  | cons b s ih =>
    rw [List.forall_mem_cons] at hs
    obtain ⟨d, hd, hval⟩ := digitVal_of_isDecimal hs.1
    simp only [List.cons_append, digits, hval, if_pos hd]
    exact ih hs.2 _

/-- What was printed is read back. -/
theorem digits_decimal (n : Nat) : digits 10 0 (decimal n) = n := by
  induction n using Nat.strong_induction_on with
  | _ n ih =>
    rcases Nat.lt_or_ge n 10 with hn | hn
    · simp only [decimal_of_lt hn, digits, digitVal_ofNat hn, if_pos hn]
      omega
    · have hlast := Nat.mod_lt n (by decide : 0 < 10)
      rw [decimal_append hn, digits_append isDecimal_of_mem_decimal, ih (n / 10) (by omega)]
      simp only [digits, digitVal_ofNat hlast, if_pos hlast]
      omega

/-- The text after a number does not begin with a digit. -/
def Stops (rest : Bytes) : Prop := ∀ b ∈ rest.head?, isDecimal b = false

theorem digits_decimal_append (n : Nat) {rest : Bytes} (hrest : Stops rest) :
    digits 10 0 (decimal n ++ rest) = n := by
  rw [digits_append isDecimal_of_mem_decimal, digits_decimal]
  cases rest with
  | nil => rfl
  | cons b rest => exact digits_stop (hrest b rfl) n rest

theorem Stops.takeWhile {rest : Bytes} (hrest : Stops rest) : rest.takeWhile isDecimal = [] := by
  cases rest with
  | nil => rfl
  | cons b rest => rw [List.takeWhile_cons, hrest b rfl]; rfl

theorem Stops.dropWhile {rest : Bytes} (hrest : Stops rest) :
    rest.dropWhile isDecimal = rest := by
  cases rest with
  | nil => rfl
  | cons b rest => rw [List.dropWhile_cons, hrest b rfl]; rfl

/-- The digits of a number with its sign split off. -/
theorem scan_decimal (n : Nat) {rest : Bytes} (hrest : Stops rest) :
    ((decimal n ++ rest).takeWhile isDecimal).isEmpty = false ∧
      digits 10 0 (decimal n ++ rest) = n ∧ (decimal n ++ rest).dropWhile isDecimal = rest := by
  rw [List.takeWhile_append_of_pos isDecimal_of_mem_decimal, hrest.takeWhile, List.append_nil,
    List.dropWhile_append_of_pos isDecimal_of_mem_decimal, hrest.dropWhile]
  refine ⟨?_, digits_decimal_append n hrest, rfl⟩
  rw [List.isEmpty_eq_false_iff]
  exact decimal_ne_nil n

/-- A number begins with neither white space nor a sign. -/
theorem decimal_begin (n : Nat) (rest : Bytes) :
    (decimal n ++ rest).dropWhile isSpace = decimal n ++ rest ∧
      splitSign (decimal n ++ rest) = (false, decimal n ++ rest) := by
  cases hdecimal : decimal n with
  | nil => exact absurd hdecimal (decimal_ne_nil n)
  | cons b bs =>
    have hb : isDecimal b = true := isDecimal_of_mem_decimal b (hdecimal ▸ List.mem_cons_self)
    obtain ⟨d, -, hval⟩ := digitVal_of_isDecimal hb
    rw [List.cons_append, List.dropWhile_cons, isSpace_of_digitVal hval]
    exact ⟨rfl, splitSign_of_digitVal hval _⟩

theorem scanNumber_decimalInt (n : Int) {rest : Bytes} (hrest : Stops rest) :
    scanNumber (decimalInt n ++ rest) = some (n, rest) := by
  obtain ⟨hsome, hvalue, hdrop⟩ := scan_decimal n.natAbs hrest
  unfold decimalInt scanNumber
  split
  · have hminus : isSpace 45 = false := rfl
    simp only [List.cons_append, List.dropWhile_cons, hminus, Bool.false_eq_true, if_false,
      splitSign, if_true, hsome, hvalue, hdrop]
    congr 2
    omega
  · obtain ⟨hspace, hsign⟩ := decimal_begin n.natAbs rest
    simp only [hspace, hsign, hsome, hvalue, hdrop, Bool.false_eq_true, if_false]
    congr 2
    omega

/-- `,` -/
def separator : UInt8 := 44

/-- Numbers with commas between them. -/
def separated (ns : List Int) : Bytes := [separator].intercalate (ns.map decimalInt)

theorem separated_cons (n m : Int) (ns : List Int) :
    separated (n :: m :: ns) = decimalInt n ++ separator :: separated (m :: ns) := by
  simp [separated, List.intercalate]

theorem mem_separated {b : UInt8} {ns : List Int} (hb : b ∈ separated ns) :
    b = separator ∨ b = 45 ∨ isDecimal b = true := by
  induction ns with
  | nil => exact absurd hb List.not_mem_nil
  | cons n ns ih =>
    have hnumber : b ∈ decimalInt n → b = 45 ∨ isDecimal b = true := by
      intro hb
      unfold decimalInt at hb
      split at hb
      · rcases List.mem_cons.mp hb with hb | hb
        · exact .inl hb
        · exact .inr (isDecimal_of_mem_decimal b hb)
      · exact .inr (isDecimal_of_mem_decimal b hb)
    cases ns with
    | nil =>
      rw [separated, List.map_cons, List.map_nil, List.intercalate_singleton] at hb
      exact .inr (hnumber hb)
    | cons m ns =>
      rw [separated_cons] at hb
      rcases List.mem_append.mp hb with hb | hb
      · exact .inr (hnumber hb)
      · rcases List.mem_cons.mp hb with hb | hb
        · exact .inl hb
        · exact ih hb

theorem length_separated_le {ns : List Int} {count : Nat}
    (h : ∀ n ∈ ns, (decimalInt n).length ≤ count) :
    (separated ns).length ≤ (count + 1) * ns.length := by
  induction ns with
  | nil => exact Nat.zero_le _
  | cons n ns ih =>
    rw [List.forall_mem_cons] at h
    cases ns with
    | nil =>
      rw [separated, List.map_cons, List.map_nil, List.intercalate_singleton,
        List.length_singleton]
      omega
    | cons m ns =>
      have hrest := ih h.2
      rw [separated_cons, List.length_append, List.length_cons, List.length_cons, Nat.mul_succ]
      omega

/-- The texts of the numbers are the fields between the commas. -/
theorem splitOn_separated {ns : List Int} (hns : ns ≠ []) :
    (separated ns).splitOn separator = ns.map decimalInt := by
  refine List.splitOn_intercalate separator ?_ (by simpa using hns)
  intro field hfield hsep
  obtain ⟨n, -, rfl⟩ := List.mem_map.mp hfield
  have hnum := isNumeral_of_mem_decimalInt hsep
  have hnot : ¬ isNumeral separator := by
    unfold isNumeral separator
    decide
  exact hnot hnum

theorem scanNumbers_separated (ns : List Int) {rest : Bytes} (hrest : Stops rest)
    (hsep : rest.head? ≠ some separator) : scanNumbers ns.length (separated ns ++ rest) = ns := by
  induction ns with
  | nil => rfl
  | cons n ns ih =>
    cases ns with
    | nil =>
      simp only [separated, List.map_cons, List.map_nil, List.intercalate_singleton,
        List.length_singleton, scanNumbers, scanNumber_decimalInt n hrest]
      split
      · rename_i h
        cases h
      · rename_i h
        cases h
        exact absurd rfl hsep
      · rename_i h
        cases h
        rfl
    | cons m ns =>
      have hcons : separated (n :: m :: ns) ++ rest =
          decimalInt n ++ separator :: (separated (m :: ns) ++ rest) := by
        rw [separated_cons, List.append_assoc, List.cons_append]
      have hstops : Stops (separator :: (separated (m :: ns) ++ rest)) := by
        rintro b ⟨rfl⟩
        rfl
      rw [hcons, List.length_cons, scanNumbers, scanNumber_decimalInt n hstops]
      simp only [separator]
      rw [ih]

end Printed

end Bytes
