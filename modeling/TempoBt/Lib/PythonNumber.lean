-- SUMMARY: Python strings of code points: white space, the last occurrence of a character, and what `int` and `float` read.
import Mathlib.Data.List.DropRight

/-!
# Python numbers

A string is the list of its code points. `int` and `float` take more than the digits of
a number: white space around it, underscores between digits, and decimal digits of all
scripts.
-/

namespace PythonNumber

abbrev PyStr := List Nat

/-- The string of a literal. -/
def pyStr (s : String) : PyStr := s.toList.map Char.toNat

/-! ## White space and searching -/

/-- `str.isspace` of a character -/
def isSpace (c : Nat) : Bool :=
  (9 ≤ c && c ≤ 13) || (28 ≤ c && c ≤ 32) || c == 0x85 || c == 0xA0 || c == 0x1680 ||
    (0x2000 ≤ c && c ≤ 0x200A) || c == 0x2028 || c == 0x2029 || c == 0x202F || c == 0x205F ||
    c == 0x3000

/-- `s.strip()` -/
def strip (s : PyStr) : PyStr := (s.rdropWhile isSpace).dropWhile isSpace

/-- `s.rfind(c)`; `none` stands for `-1`. -/
def rfind (c : Nat) : PyStr → Option Nat
  | [] => none
  | a :: s =>
    match rfind c s with
    | some i => some (i + 1)
    | none => if a = c then some 0 else none

theorem strip_strip (s : PyStr) : strip (strip s) = strip s := by
  have hright : (strip s).rdropWhile isSpace = strip s := by
    rw [List.rdropWhile_eq_self_iff]
    intro hne
    have hsuffix : strip s <:+ s.rdropWhile isSpace := List.dropWhile_suffix isSpace
    have hne' : s.rdropWhile isSpace ≠ [] := fun h => hne (List.suffix_nil.mp (h ▸ hsuffix))
    rw [hsuffix.getLast hne]
    exact List.rdropWhile_last_not isSpace s hne'
  rw [strip, hright]
  exact List.dropWhile_idempotent isSpace _

theorem rfind_eq_none {c : Nat} {s : PyStr} : rfind c s = none ↔ c ∉ s := by
  induction s with
  | nil => exact ⟨fun _ => List.not_mem_nil, fun _ => rfl⟩
  | cons a s ih =>
    rw [rfind, List.mem_cons, not_or, ← ih]
    cases rfind c s with
    | none =>
      by_cases h : a = c
      · simp [h]
      · simp [h, Ne.symm h]
    | some i => simp

theorem rfind_append {c : Nat} {t : PyStr} (ht : c ∉ t) (s : PyStr) :
    rfind c (s ++ c :: t) = some s.length := by
  induction s with
  | nil => rw [List.nil_append, rfind, rfind_eq_none.mpr ht, if_pos rfl]; rfl
  | cons a s ih => rw [List.cons_append, rfind, ih]; rfl

theorem exists_of_rfind {c i : Nat} {s : PyStr} (h : rfind c s = some i) :
    ∃ before tail, s = before ++ c :: tail ∧ c ∉ tail ∧ before.length = i := by
  induction s generalizing i with
  | nil => cases h
  | cons a s ih =>
    rw [rfind] at h
    cases hs : rfind c s with
    | none =>
      rw [hs] at h
      by_cases ha : a = c
      · rw [if_pos ha] at h
        cases h
        exact ⟨[], s, by rw [ha]; rfl, rfind_eq_none.mp hs, rfl⟩
      · rw [if_neg ha] at h
        cases h
    | some j =>
      rw [hs] at h
      cases h
      obtain ⟨before, tail, rfl, htail, hlength⟩ := ih hs
      exact ⟨a :: before, tail, rfl, htail, by rw [List.length_cons, hlength]⟩

/-- What is split at a character holds it no more. -/
theorem notMem_of_mem_splitOn {c : Nat} {s field : PyStr} (h : field ∈ s.splitOn c) :
    c ∉ field := by
  induction s generalizing field with
  | nil =>
    rw [List.splitOn_nil, List.mem_singleton] at h
    rw [h]
    exact List.not_mem_nil
  | cons a s ih =>
    rw [List.splitOn_cons_eq_if_modifyHead] at h
    by_cases ha : a = c
    · rw [if_pos (beq_iff_eq.mpr ha)] at h
      rcases List.mem_cons.mp h with rfl | h
      · exact List.not_mem_nil
      · exact ih h
    · rw [if_neg (by simpa using ha)] at h
      obtain ⟨first, fields, hsplit⟩ := List.exists_cons_of_ne_nil (List.splitOn_ne_nil c s)
      rw [hsplit] at h ih
      rcases List.mem_cons.mp h with rfl | h
      · rw [List.mem_cons, not_or]
        exact ⟨Ne.symm ha, ih List.mem_cons_self⟩
      · exact ih (List.mem_cons_of_mem _ h)

/-! ## Digits -/

/-- `'_'` -/
def underscore : Nat := 95

/-- White space around a number in ASCII -/
def isBlank (c : Nat) : Bool := (9 ≤ c && c ≤ 13) || c == 32

/-- The value of a character as a digit of a number in `base`. -/
def digitIn (base c : Nat) : Option Nat :=
  if 48 ≤ c ∧ c ≤ 57 then some (c - 48)
  else if 65 ≤ c ∧ c ≤ 90 then some (c - 55) |>.filter (· < base)
  else if 97 ≤ c ∧ c ≤ 122 then some (c - 87) |>.filter (· < base)
  else none

/-- The number of a text of digits; other characters do not count. -/
def number (base : Nat) (s : PyStr) : Nat :=
  (s.filterMap (digitIn base)).foldl (fun n d => n * base + d) 0

/-- Split an optional sign off; `true` for a minus sign. -/
def splitSign : PyStr → Bool × PyStr
  | [] => (false, [])
  | c :: s => if c = 45 then (true, s) else if c = 43 then (false, s) else (false, c :: s)

/-- Underscores stand alone, between other characters. -/
def grouped (s : PyStr) : Bool := (s.splitOn underscore).all fun group => !group.isEmpty

/-- What depends on the version of Python: the decimal digits beyond ASCII, and the number
of digits at which `int` stops reading. -/
structure Python where
  decimal : Nat → Option (Fin 10)
  maxDigits : Option Nat

variable (py : Python)

/-- A string as ASCII text for a number; `'?'` has no place in one. -/
def Python.toAscii (s : PyStr) : PyStr :=
  s.map fun c =>
    if c < 128 then c
    else if isSpace c then 32
    else match py.decimal c with
      | some d => 48 + d
      | none => 63

/-! ## `int` -/

/-- Drop the prefix that base 16 allows, and an underscore behind it. -/
def dropHexPrefix : PyStr → PyStr
  | 48 :: x :: s =>
    if x = 120 ∨ x = 88 then
      match s with
      | 95 :: digits => digits
      | digits => digits
    else 48 :: x :: s
  | s => s

/-- `int(s, base)` for base 10 or 16; `none` is a `ValueError`. -/
def Python.int (base : Nat) (s : PyStr) : Option Int :=
  let (negative, s) := splitSign ((py.toAscii s).dropWhile isBlank)
  let s := if base = 16 then dropHexPrefix s else s
  let inNumber (c : Nat) : Bool := c = underscore || (digitIn base c).isSome
  let digits := s.takeWhile inNumber
  if grouped digits ∧ (s.dropWhile inNumber).all isBlank ∧
      (base = 10 → ∀ most ∈ py.maxDigits, (digits.filterMap (digitIn base)).length ≤ most) then
    some (if negative then -number base digits else number base digits)
  else none

section HexDigits

variable {s : PyStr}

/-- The characters of hex digits. -/
theorem of_mem_hexDigits (hs : ∀ c ∈ s, (digitIn 16 c).isSome) {c : Nat} (hc : c ∈ s) :
    48 ≤ c ∧ c ≤ 102 ∧ c ≠ underscore ∧ c ≠ 88 := by
  have h := hs c hc
  unfold digitIn at h
  unfold underscore
  split at h
  · omega
  · split at h
    · obtain ⟨d, hd⟩ := Option.isSome_iff_exists.mp h
      simp only [Option.filter_some, Option.ite_none_right_eq_some, decide_eq_true_eq] at hd
      omega
    · split at h
      · obtain ⟨d, hd⟩ := Option.isSome_iff_exists.mp h
        simp only [Option.filter_some, Option.ite_none_right_eq_some, decide_eq_true_eq] at hd
        omega
      · cases h

theorem Python.toAscii_of_lt (hs : ∀ c ∈ s, c < 128) : py.toAscii s = s := by
  rw [toAscii]
  conv_rhs => rw [← List.map_id s]
  apply List.map_congr_left
  intro c hc
  rw [if_pos (hs c hc)]
  rfl

theorem splitSign_hexDigits (hs : ∀ c ∈ s, (digitIn 16 c).isSome) : splitSign s = (false, s) := by
  cases s with
  | nil => rfl
  | cons c s =>
    obtain ⟨hlow, -⟩ := of_mem_hexDigits hs List.mem_cons_self
    rw [splitSign, if_neg (by omega), if_neg (by omega)]

theorem dropHexPrefix_hexDigits (hs : ∀ c ∈ s, (digitIn 16 c).isSome) : dropHexPrefix s = s := by
  unfold dropHexPrefix
  split
  · rename_i x s
    obtain ⟨-, hhigh, -, hx⟩ := of_mem_hexDigits hs (List.mem_cons_of_mem _ List.mem_cons_self)
    rw [if_neg (by omega)]
  · rfl

theorem grouped_of_notMem (hne : s ≠ []) (hs : underscore ∉ s) : grouped s = true := by
  have hother : ∀ c ∈ s, (c == underscore) = false := fun c hc => by
    rw [beq_eq_false_iff_ne]
    rintro rfl
    exact hs hc
  rw [grouped, List.splitOn_eq_splitOnP, List.splitOnP_eq_singleton hother]
  simpa using hne

/-- A text of hex digits is read as their number. -/
theorem Python.int_hexDigits (hne : s ≠ []) (hs : ∀ c ∈ s, (digitIn 16 c).isSome) :
    py.int 16 s = some (number 16 s : Int) := by
  have hascii : py.toAscii s = s :=
    py.toAscii_of_lt fun c hc => by have := of_mem_hexDigits hs hc; omega
  have hblank : s.dropWhile isBlank = s := by
    rw [List.dropWhile_eq_self_iff]
    intro hlength
    have := of_mem_hexDigits hs (List.getElem_mem hlength)
    simp only [isBlank, Bool.or_eq_true, Bool.and_eq_true, decide_eq_true_eq, beq_iff_eq]
    omega
  have hin : ∀ c ∈ s, (c = underscore || (digitIn 16 c).isSome) = true := fun c hc => by
    rw [hs c hc, Bool.or_true]
  have hunderscore : underscore ∉ s := fun h => (of_mem_hexDigits hs h).2.2.1 rfl
  rw [int, hascii, hblank, splitSign_hexDigits hs]
  simp only [if_true, dropHexPrefix_hexDigits hs, List.takeWhile_eq_self_iff.mpr hin,
    List.dropWhile_eq_nil_iff.mpr hin, grouped_of_notMem hne hunderscore]
  rfl

end HexDigits

/-! ## `float` -/

/-- The number that `float` reads, before it is rounded. -/
inductive PyFloat
  | finite (negative : Bool) (significand : Nat) (exponent : Int)
  | infinite (negative : Bool)
  | nan (negative : Bool)
  deriving DecidableEq

def isDigit (c : Nat) : Bool := 48 ≤ c && c ≤ 57

/-- A text without its underscores, each of which must stand between two digits. -/
def joinDigits : Bool → PyStr → Option PyStr
  | _, [] => some []
  | afterDigit, c :: s =>
    if c = underscore then
      if afterDigit ∧ s.head?.any isDigit then joinDigits false s else none
    else (joinDigits (isDigit c) s).map (c :: ·)

/-- The exponent of a number; nothing follows it. -/
def readExponent : PyStr → Option Int
  | [] => some 0
  | e :: s =>
    let (negative, digits) := splitSign s
    if (e = 101 ∨ e = 69) ∧ digits ≠ [] ∧ digits.all isDigit then
      some (if negative then -number 10 digits else number 10 digits)
    else none

/-- The part of a number behind the decimal point, and what follows it. -/
def readFraction : PyStr → PyStr × PyStr
  | 46 :: s => (s.takeWhile isDigit, s.dropWhile isDigit)
  | s => ([], s)

/-- A number without sign, white space and underscores. -/
def readUnsigned (negative : Bool) (s : PyStr) : Option PyFloat :=
  let letters := s.map fun c => if 65 ≤ c ∧ c ≤ 90 then c + 32 else c
  if letters = pyStr "inf" ∨ letters = pyStr "infinity" then some (.infinite negative)
  else if letters = pyStr "nan" then some (.nan negative)
  else
    let whole := s.takeWhile isDigit
    let (fraction, rest) := readFraction (s.dropWhile isDigit)
    if whole ++ fraction = [] then none
    else (readExponent rest).map fun exponent =>
      .finite negative (number 10 (whole ++ fraction)) (exponent - fraction.length)

/-- `float(s)`; `none` is a `ValueError`. -/
def Python.float (s : PyStr) : Option PyFloat := do
  let s ← joinDigits false (((py.toAscii s).dropWhile isBlank).rdropWhile isBlank)
  readUnsigned (splitSign s).1 (splitSign s).2

end PythonNumber
