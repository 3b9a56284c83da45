-- SUMMARY: The C formatted-output functions: number formatting, format strings, and `snprintf` into a bounded buffer.
import TempoBt.Lib.Bytes
import Mathlib.Data.Bool.AllAny
import Mathlib.Data.Rat.Floor

/-!
# Formatted output

`vformat` renders a format string with its arguments, for the conversions `%d`,
`%u`, `%s`, `%c`-free text and `%.<prec>f`. `snprintf` writes rendered text into
a memory block and fails (`none`) when the write would leave the block.
-/

namespace Printf

/-! ## Numbers -/

/-- `%u`: decimal digits without leading zeros. -/
def decimal (n : Nat) : Bytes := (Nat.toDigits 10 n).map fun c => UInt8.ofNat c.toNat

/-- `%d`. -/
def decimalInt (i : Int) : Bytes := if i < 0 then 45 :: decimal i.natAbs else decimal i.natAbs

/-- The low `prec` decimal digits of `n`, most significant first. -/
def lowDigits : Nat → Nat → Bytes
  | 0, _ => []
  | prec + 1, n => lowDigits prec (n / 10) ++ [UInt8.ofNat (48 + n % 10)]

/-- A value of a binary floating-point type: a number, a negative zero, an
infinity or a NaN with its sign. -/
inductive CFloat where
  | num (q : ℚ)
  | negZero
  | inf (neg : Bool)
  | nan (neg : Bool)
  deriving DecidableEq

/-- The conversion `(int)x`; out of range and NaN as the target's instruction does
it. -/
def CFloat.toInt : CFloat → Int
  | .num q => max (-2147483648) (min 2147483647 (if q < 0 then -⌊-q⌋ else ⌊q⌋))
  | .negZero => 0
  | .inf neg => if neg then -2147483648 else 2147483647
  | .nan _ => 0

/-- The product `x * q`. -/
def CFloat.scale (q : ℚ) : CFloat → CFloat
  | .num x => .num (x * q)
  | .negZero => .negZero
  | .inf neg => .inf neg
  | .nan neg => .nan neg

/-- Round to the nearest integer, ties to even. -/
def roundEven (q : ℚ) : Int :=
  let r := q - ⌊q⌋
  if r < 1 / 2 then ⌊q⌋
  else if 1 / 2 < r then ⌊q⌋ + 1
  else if ⌊q⌋ % 2 = 0 then ⌊q⌋ else ⌊q⌋ + 1

/-- `%.<prec>f` of a nonnegative number. -/
def fixedAbs (prec : Nat) (q : ℚ) : Bytes :=
  let n := (roundEven (q * 10 ^ prec)).toNat
  decimal (n / 10 ^ prec) ++ (if prec = 0 then [] else 46 :: lowDigits prec n)

/-- `%.<prec>f`. -/
def fixed (prec : Nat) : CFloat → Bytes
  | .num q => if q < 0 then 45 :: fixedAbs prec (-q) else fixedAbs prec q
  | .negZero => 45 :: fixedAbs prec 0
  | .inf neg => (if neg then [45] else []) ++ ascii "inf"
  | .nan neg => (if neg then [45] else []) ++ ascii "nan"

/-! ## Format strings -/

/-- A variadic argument. -/
inductive Arg where
  | int (i : Int)
  | uint (n : Nat)
  | str (s : Bytes)
  | float (x : CFloat)

/-- The text `vsnprintf` produces for a format string and its arguments. -/
def vformat : List Char → List Arg → Bytes
  | '%' :: 'd' :: f, .int i :: args => decimalInt i ++ vformat f args
  | '%' :: 'u' :: f, .uint n :: args => decimal n ++ vformat f args
  | '%' :: 's' :: f, .str s :: args => s ++ vformat f args
  | '%' :: '.' :: p :: 'f' :: f, .float x :: args => fixed (p.toNat - 48) x ++ vformat f args
  | c :: f, args => UInt8.ofNat c.toNat :: vformat f args
  | [], _ => []

/-- The text of a format string. -/
def format (fmt : String) (args : List Arg) : Bytes := vformat fmt.toList args

/-- `%d` and `%f` print only digits, a sign, a point and the letters of `inf`
and `nan`. -/
def isNumeral (b : UInt8) : Prop := (48 ≤ b ∧ b ≤ 57) ∨ b ∈ ascii "-.inf" ∨ b ∈ ascii "nan"

/-- `P` holds of every character of the strings among the arguments. -/
def Arg.Satisfies (P : UInt8 → Prop) : Arg → Prop
  | .str s => ∀ b ∈ s, P b
  | _ => True

/-- The codes of the digits of a number. -/
theorem toNat_of_mem_toDigits {c : Char} {n : Nat} (hc : c ∈ Nat.toDigits 10 n) :
    48 ≤ c.toNat ∧ c.toNat ≤ 57 := by
  have hd := Nat.isDigit_of_mem_toDigits (by decide) (by decide) hc
  simp only [Char.isDigit, Bool.and_eq_true, decide_eq_true_eq] at hd
  constructor
  · simpa [UInt32.le_iff_toNat_le] using hd.1
  · simpa [UInt32.le_iff_toNat_le] using hd.2

theorem isNumeral_of_mem_decimal {b : UInt8} {n : Nat} (h : b ∈ decimal n) : isNumeral b := by
  simp only [decimal, List.mem_map] at h
  obtain ⟨c, hc, rfl⟩ := h
  obtain ⟨h1, h2⟩ := toNat_of_mem_toDigits hc
  left
  simp only [UInt8.le_iff_toNat_le, UInt8.toNat_ofNat']
  constructor
  · simp; omega
  · simp; omega

/-- Different numbers print differently. -/
theorem decimal_injective {m n : Nat} (h : decimal m = decimal n) : m = n := by
  have hback (k : Nat) : (decimal k).map (fun b => Char.ofNat b.toNat) = Nat.toDigits 10 k := by
    rw [decimal, List.map_map]
    conv_rhs => rw [← List.map_id (Nat.toDigits 10 k)]
    refine List.map_congr_left fun c hc => ?_
    have hlt : c.toNat < 256 := Nat.lt_of_le_of_lt (toNat_of_mem_toDigits hc).2 (by decide)
    simp only [Function.comp, UInt8.toNat_ofNat', id]
    rw [Nat.mod_eq_of_lt hlt, Char.ofNat_toNat]
  have hdigits : Nat.toDigits 10 m = Nat.toDigits 10 n := by
    rw [← hback m, ← hback n, h]
  rw [← Nat.ofDigitChars_ten_toDigits (n := m), hdigits, Nat.ofDigitChars_ten_toDigits]

/-- A number below a power of ten has at most as many digits as the power. -/
theorem length_decimal_le {n count : Nat} (hcount : 0 < count) (h : n < 10 ^ count) :
    (decimal n).length ≤ count := by
  rw [decimal, List.length_map]
  exact (Nat.length_toDigits_le_iff (by decide) hcount).mpr h

theorem length_decimalInt_le {n : Int} {count : Nat} (hcount : 0 < count)
    (h : n.natAbs < 10 ^ count) : (decimalInt n).length ≤ count + 1 := by
  have hdigits := length_decimal_le hcount h
  unfold decimalInt
  split
  · rw [List.length_cons]
    omega
  · omega

theorem isNumeral_minus : isNumeral 45 := Or.inr (Or.inl (by decide))

theorem isNumeral_of_mem_decimalInt {b : UInt8} {i : Int} (h : b ∈ decimalInt i) :
    isNumeral b := by
  unfold decimalInt at h
  split at h
  · rcases List.mem_cons.mp h with rfl | h
    · exact isNumeral_minus
    · exact isNumeral_of_mem_decimal h
  · exact isNumeral_of_mem_decimal h

theorem isNumeral_of_mem_lowDigits {b : UInt8} {prec n : Nat} (h : b ∈ lowDigits prec n) :
    isNumeral b := by
  induction prec generalizing n with
  | zero => simp [lowDigits] at h
  | succ prec ih =>
    rcases List.mem_append.mp h with h | h
    · exact ih h
    · rw [List.mem_singleton] at h
      subst h
      left
      simp only [UInt8.le_iff_toNat_le, UInt8.toNat_ofNat']
      constructor
      · simp; omega
      · simp; omega

theorem isNumeral_of_mem_fixedAbs {b : UInt8} {prec : Nat} {q : ℚ} (h : b ∈ fixedAbs prec q) :
    isNumeral b := by
  rcases List.mem_append.mp h with h | h
  · exact isNumeral_of_mem_decimal h
  · split at h
    · simp at h
    · rcases List.mem_cons.mp h with rfl | h
      · exact Or.inr (Or.inl (by decide))
      · exact isNumeral_of_mem_lowDigits h

theorem mem_ascii_inf {b : UInt8} (h : b ∈ ascii "inf") : b ∈ ascii "-.inf" := by
  have hsub : ∀ b ∈ ascii "inf", b ∈ ascii "-.inf" := List.all_iff_forall_prop.mp (by decide)
  exact hsub b h

theorem isNumeral_of_mem_fixed {b : UInt8} {prec : Nat} {x : CFloat} (h : b ∈ fixed prec x) :
    isNumeral b := by
  have hminus {neg : Bool} (h : b ∈ if neg then [45] else []) : isNumeral b := by
    split at h
    · rw [List.mem_singleton] at h; subst h; exact isNumeral_minus
    · simp at h
  cases x with
  | num q =>
    simp only [fixed] at h
    split at h
    · rcases List.mem_cons.mp h with rfl | h
      · exact isNumeral_minus
      · exact isNumeral_of_mem_fixedAbs h
    · exact isNumeral_of_mem_fixedAbs h
  | negZero =>
    rcases List.mem_cons.mp h with rfl | h
    · exact isNumeral_minus
    · exact isNumeral_of_mem_fixedAbs h
  | inf neg =>
    rcases List.mem_append.mp h with h | h
    · exact hminus h
    · exact Or.inr (Or.inl (mem_ascii_inf h))
  | nan neg =>
    rcases List.mem_append.mp h with h | h
    · exact hminus h
    · exact Or.inr (Or.inr h)

/-- A property of all numeral characters, of the format's own characters and of
the string arguments holds of the whole text. -/
theorem vformat_forall {P : UInt8 → Prop} (hnum : ∀ b, isNumeral b → P b) (fmt : List Char)
    (args : List Arg) (hfmt : ∀ c ∈ fmt, P (UInt8.ofNat c.toNat))
    (hargs : ∀ a ∈ args, a.Satisfies P) : ∀ b ∈ vformat fmt args, P b := by
  have hstep {s t : Bytes} (hs : ∀ b ∈ s, P b) (ht : ∀ b ∈ t, P b) : ∀ b ∈ s ++ t, P b := by
    intro b hb
    rcases List.mem_append.mp hb with hb | hb
    · exact hs b hb
    · exact ht b hb
  fun_induction vformat fmt args with
  | case1 f i args ih =>
    exact hstep (fun b hb => hnum b (isNumeral_of_mem_decimalInt hb))
      (ih (fun c hc => hfmt c (by simp [hc])) (fun a ha => hargs a (by simp [ha])))
  | case2 f n args ih =>
    exact hstep (fun b hb => hnum b (isNumeral_of_mem_decimal hb))
      (ih (fun c hc => hfmt c (by simp [hc])) (fun a ha => hargs a (by simp [ha])))
  | case3 f s args ih =>
    exact hstep (hargs (.str s) (by simp))
      (ih (fun c hc => hfmt c (by simp [hc])) (fun a ha => hargs a (by simp [ha])))
  | case4 p f x args ih =>
    exact hstep (fun b hb => hnum b (isNumeral_of_mem_fixed hb))
      (ih (fun c hc => hfmt c (by simp [hc])) (fun a ha => hargs a (by simp [ha])))
  | case5 c f args _ _ _ _ ih =>
    exact hstep (s := [UInt8.ofNat c.toNat])
      (fun b hb => by rw [List.mem_singleton] at hb; rw [hb]; exact hfmt c (by simp))
      (ih (fun c hc => hfmt c (by simp [hc])) hargs)
  | case6 => simp

/-- A leading character that is not `%` is copied. -/
theorem vformat_cons {c : Char} (hc : c ≠ '%') (f : List Char) (args : List Arg) :
    vformat (c :: f) args = UInt8.ofNat c.toNat :: vformat f args := by
  rw [vformat]
  all_goals
    intros
    contradiction

/-! ## Memory blocks -/

/-- Read `n` bytes at `off`; `none` outside the block. -/
def read (buf : Bytes) (off n : Nat) : Option Bytes :=
  if off + n ≤ buf.length then some ((buf.drop off).take n) else none

/-- Store `bs` at `off`; `none` outside the block. -/
def write (buf : Bytes) (off : Nat) (bs : Bytes) : Option Bytes :=
  if off + bs.length ≤ buf.length then
    some (buf.take off ++ bs ++ buf.drop (off + bs.length))
  else none

/-- `snprintf(buf + off, size, ...)` for the formatted text `text`: at most
`size - 1` characters and a terminator are stored, the full length is returned.
A text longer than `INT_MAX` is an error. -/
def snprintf (buf : Bytes) (off size : Nat) (text : Bytes) : Option (Bytes × Int) :=
  if 2147483647 < text.length then some (buf, -1)
  else if size = 0 then some (buf, text.length)
  else do
    let buf ← write buf off (text.take (size - 1) ++ [0])
    return (buf, text.length)

/-- `strlen(buf)`; `none` when the block holds no terminator. -/
def strlen (buf : Bytes) : Option Nat := if 0 ∈ buf then some (buf.idxOf 0) else none

theorem read_append (as bs cs : Bytes) :
    read (as ++ bs ++ cs) as.length bs.length = some bs := by
  simp [read]

/-- A text that fits with its terminator is stored whole. -/
theorem snprintf_of_fits (buf text : Bytes) (off size : Nat) (hint : text.length ≤ 2147483647)
    (hsize : text.length < size) (hbuf : off + text.length + 1 ≤ buf.length) :
    snprintf buf off size text =
      some (buf.take off ++ text ++ 0 :: buf.drop (off + text.length + 1),
        (text.length : Int)) := by
  have htake : text.take (size - 1) = text := List.take_of_length_le (by omega)
  have hlen : off + (text ++ [0]).length ≤ buf.length := by simpa [← Nat.add_assoc] using hbuf
  rw [snprintf, if_neg (by omega), if_neg (by omega), htake, write, if_pos hlen]
  simp [Nat.add_assoc]

/-- Whatever the text, nothing outside the announced size changes. -/
theorem snprintf_frame (buf text : Bytes) (off size : Nat) (hbuf : off + size ≤ buf.length) :
    ∃ buf', snprintf buf off size text =
        some (buf', if 2147483647 < text.length then -1 else (text.length : Int)) ∧
      buf'.length = buf.length ∧ buf'.drop (off + size) = buf.drop (off + size) := by
  unfold snprintf
  split
  · exact ⟨buf, rfl, rfl, rfl⟩
  · split
    · exact ⟨buf, rfl, rfl, rfl⟩
    · have hlen : off + (text.take (size - 1) ++ [0]).length ≤ buf.length := by
        simp only [List.length_append, List.length_take, List.length_singleton]
        omega
      rw [write, if_pos hlen]
      refine ⟨_, rfl, ?_, ?_⟩
      · simp only [List.length_append, List.length_take, List.length_drop] at hlen ⊢
        omega
      · have hfront : (buf.take off ++ (text.take (size - 1) ++ [0])).length ≤ off + size := by
          simp only [List.length_append, List.length_take, List.length_singleton]
          omega
        rw [List.drop_append, List.drop_eq_nil_of_le hfront, List.nil_append, List.drop_drop]
        congr 1
        simp only [List.length_append, List.length_take, List.length_singleton] at hfront ⊢
        omega

theorem strlen_append {s t : Bytes} (hs : 0 ∉ s) : strlen (s ++ 0 :: t) = some s.length := by
  simp [strlen, List.idxOf_append_of_notMem hs]

end Printf
