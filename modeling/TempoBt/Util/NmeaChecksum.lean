-- SUMMARY: The NMEA checksum utilities: computing, verifying and appending the checksum of a sentence.
import TempoBt.Lib.Printf
import Mathlib.Data.List.TakeWhile

/-!
# NMEA checksum utilities

The functions of `util/nmea_checksum.c`, and the verifier of `gnss_m10q.c`,
which repeats the same scan. A sentence with its length is the list of its
bytes; the buffer of `nmeaAppendChecksum` is the memory block it lies in.
-/

namespace TempoBt

open Bytes Printf

/-! ## Characters -/

def dollar : UInt8 := 36
def star : UInt8 := 42
def cr : UInt8 := 13
def lf : UInt8 := 10

/-- `snprintf`'s text for `"*%02X\r\n"`. -/
def checksumTail (checksum : UInt8) : Bytes := star :: hex2 checksum ++ [cr, lf]

/-- A sentence text with its checksum and line end. -/
def withChecksum (text : Bytes) : Bytes := text ++ checksumTail (xorSum text.tail)

@[simp] theorem checksumTail_length (c : UInt8) : (checksumTail c).length = 5 := rfl

@[simp] theorem withChecksum_length (text : Bytes) :
    (withChecksum text).length = text.length + 5 := by
  simp [withChecksum]

/-! ## Computing -/

/-- The checksum loop: XOR up to the first `*` or the end. -/
def xorUntilStar : UInt8 → Bytes → UInt8
  | checksum, [] => checksum
  | checksum, b :: bs => if b = star then checksum else xorUntilStar (checksum ^^^ b) bs

def nmeaChecksum (payload : Bytes) : UInt8 :=
  match payload with
  | [] => 0
  | b :: bs => if b = dollar then xorUntilStar 0 bs else xorUntilStar 0 (b :: bs)

/-- The part of a text its checksum is about: what stands between a leading `$` and
the first `*`. -/
def checksummed (text : Bytes) : Bytes :=
  (if text.head? = some dollar then text.tail else text).takeWhile (· ≠ star)

theorem xorUntilStar_eq (c : UInt8) (bs : Bytes) :
    xorUntilStar c bs = c ^^^ xorSum (bs.takeWhile (· ≠ star)) := by
  induction bs generalizing c with
  | nil => simp [xorUntilStar]
  | cons b bs ih =>
    by_cases hb : b = star
    · simp [xorUntilStar, hb]
    · rw [xorUntilStar, if_neg hb, ih, List.takeWhile_cons_of_pos (by simpa using hb),
        xorSum_cons, UInt8.xor_assoc]

theorem nmeaChecksum_eq (text : Bytes) : nmeaChecksum text = xorSum (checksummed text) := by
  cases text with
  | nil => rfl
  | cons b bs =>
    by_cases hb : b = dollar
    · simp [nmeaChecksum, checksummed, hb, xorUntilStar_eq]
    · simp only [nmeaChecksum, checksummed, hb, if_false, List.head?_cons, Option.some.injEq,
        xorUntilStar_eq, UInt8.zero_xor]

theorem checksummed_of_no_star {bs : Bytes} (h : star ∉ bs) :
    checksummed (dollar :: bs) = bs := by
  have hall : ∀ b ∈ bs, decide (b ≠ star) = true := by
    intro b hb
    simp only [decide_eq_true_eq]
    rintro rfl
    exact h hb
  simp only [checksummed, List.head?_cons, if_true, List.tail_cons]
  exact List.takeWhile_eq_self_iff.mpr hall

/-! ## Verifying -/

/-- The scan of the verifiers, `n` iterations left: the checksum so far and the
pointer `p` as the rest of the sentence. -/
def scanChecksum : Nat → UInt8 → Bytes → UInt8 × Bytes
  | n + 1, sum, b :: p => if b = star then (sum, b :: p) else scanChecksum n (sum ^^^ b) p
  | _, sum, p => (sum, p)

/-- The algorithm of both verifiers. -/
def checksumAccepts (sentence : Bytes) : Bool :=
  if sentence.length < 8 ∨ sentence.head? ≠ some dollar then false
  else
    match scanChecksum (sentence.length - 4) 0 sentence.tail with
    | (sum, b :: p1 :: p2 :: _) => b = star && sum = strtolU8 16 [p1, p2]
    | _ => false

def nmeaVerifyChecksum (sentence : Bytes) : Bool := checksumAccepts sentence

/-- The copy of the verifier in the GNSS service. -/
def validateNmeaChecksum (sentence : Bytes) : Bool := checksumAccepts sentence

theorem scanChecksum_star {body : Bytes} (h : star ∉ body) {n : Nat} (hn : body.length ≤ n)
    (c : UInt8) (rest : Bytes) :
    scanChecksum n c (body ++ star :: rest) = (c ^^^ xorSum body, star :: rest) := by
  induction body generalizing n c with
  | nil => cases n <;> simp [scanChecksum]
  | cons b body ih =>
    obtain ⟨n, rfl⟩ : ∃ m, n = m + 1 := ⟨n - 1, by simp at hn; omega⟩
    have hb : b ≠ star := fun hb => h (by simp [hb])
    have hbody : star ∉ body := fun hb => h (by simp [hb])
    have hn' : body.length ≤ n := by simpa using hn
    rw [List.cons_append, scanChecksum, if_neg hb, ih hbody hn', xorSum_cons, UInt8.xor_assoc]

/-- The scan stops after a part without `*`: at a `*`, or out of iterations. -/
theorem scanChecksum_split (n : Nat) (c : UInt8) (p : Bytes) :
    ∃ body rest, p = body ++ rest ∧ star ∉ body ∧ body.length ≤ n ∧
      scanChecksum n c p = (c ^^^ xorSum body, rest) := by
  induction n generalizing c p with
  | zero => exact ⟨[], p, by simp [scanChecksum]⟩
  | succ n ih =>
    cases p with
    | nil => exact ⟨[], [], by simp [scanChecksum]⟩
    | cons b p =>
      by_cases hb : b = star
      · exact ⟨[], b :: p, by simp [scanChecksum, hb]⟩
      · obtain ⟨body, rest, hp, hbody, hlen, hscan⟩ := ih (c ^^^ b) p
        refine ⟨b :: body, rest, by rw [hp]; rfl, ?_, by simpa using hlen, ?_⟩
        · simp only [List.mem_cons, not_or]
          exact ⟨fun h => hb h.symm, hbody⟩
        · rw [scanChecksum, if_neg hb, hscan, xorSum_cons, UInt8.xor_assoc]

/-- The verifiers accept a sentence of at least 8 bytes exactly when it is `$`, a
body without `*`, `*`, and two characters that read as the XOR of the body. -/
theorem checksumAccepts_iff (s : Bytes) :
    checksumAccepts s = true ↔
      8 ≤ s.length ∧ ∃ body p1 p2 rest, s = dollar :: body ++ star :: p1 :: p2 :: rest ∧
        star ∉ body ∧ xorSum body = strtolU8 16 [p1, p2] := by
  constructor
  · intro h
    unfold checksumAccepts at h
    split at h
    · cases h
    · rename_i hshape
      simp only [not_or, not_lt, not_not] at hshape
      obtain ⟨body, rest, htail, hbody, -, hscan⟩ :=
        scanChecksum_split (s.length - 4) 0 s.tail
      rw [hscan] at h
      split at h
      · rename_i sum b p1 p2 rest' heq
        cases heq
        simp only [Bool.and_eq_true, decide_eq_true_eq, UInt8.zero_xor] at h
        obtain ⟨rfl, hsum⟩ := h
        refine ⟨hshape.1, body, p1, p2, rest', ?_, hbody, hsum⟩
        rw [List.cons_append, ← htail]
        exact List.eq_cons_of_mem_head? (by simp [hshape.2])
      · cases h
  · rintro ⟨hlen, body, p1, p2, rest, rfl, hbody, hsum⟩
    have hn : body.length ≤ (dollar :: body ++ star :: p1 :: p2 :: rest).length - 4 := by
      simp only [List.length_append, List.length_cons]
      omega
    unfold checksumAccepts
    rw [if_neg (by simp only [List.cons_append, List.head?_cons]; simpa using hlen)]
    rw [List.cons_append, List.tail_cons, scanChecksum_star hbody (by simpa using hn)]
    simp [hsum]

/-- What follows an accepted sentence does not matter. -/
theorem checksumAccepts_append {s : Bytes} (h : checksumAccepts s = true) (t : Bytes) :
    checksumAccepts (s ++ t) = true := by
  obtain ⟨hlen, body, p1, p2, rest, rfl, hbody, hsum⟩ := (checksumAccepts_iff s).mp h
  refine (checksumAccepts_iff _).mpr ⟨?_, body, p1, p2, rest ++ t, by simp, hbody, hsum⟩
  rw [List.length_append]
  omega

/-- A text with its checksum is accepted. -/
theorem checksumAccepts_withChecksum {body : Bytes} (hlen : 2 ≤ body.length)
    (hbody : star ∉ body) : checksumAccepts (withChecksum (dollar :: body)) = true := by
  refine (checksumAccepts_iff _).mpr ⟨?_, body, _, _, [cr, lf], rfl, hbody, ?_⟩
  · simp; omega
  · exact (strtolU8_isHex (isHex_hex2 _)).symm

/-- A sentence whose body does not have the checksum it carries is rejected. -/
theorem checksumAccepts_eq_false {body : Bytes} {hi lo v : UInt8} (hbody : star ∉ body)
    (hhex : IsHex hi lo v) (hne : xorSum body ≠ v) (rest : Bytes) :
    checksumAccepts (dollar :: body ++ star :: hi :: lo :: rest) = false := by
  rw [Bool.eq_false_iff]
  intro h
  obtain ⟨-, body', p1, p2, rest', heq, hbody', hsum⟩ := (checksumAccepts_iff _).mp h
  have hsplit : body ++ star :: hi :: lo :: rest = body' ++ star :: p1 :: p2 :: rest' := by
    simpa using heq
  obtain ⟨rfl, heq'⟩ := append_sep_inj hbody hbody' hsplit
  obtain ⟨rfl, rfl, -⟩ : hi = p1 ∧ lo = p2 ∧ rest = rest' := by simpa using heq'
  exact hne (hsum.trans (strtolU8_isHex hhex))

/-! ## Appending -/

/-- `nmea_append_checksum` on the block `buf`: the block afterwards and the
returned code; `none` when the call leaves the block. -/
def nmeaAppendChecksum (buf : Bytes) (bufSize : Nat) : Option (Bytes × Int) :=
  if bufSize < 6 then some (buf, -1)
  else do
    let len ← strlen buf
    if len + 5 > bufSize then return (buf, -1)
    let sentence ← read buf 0 len
    let (buf, _) ← snprintf buf len (bufSize - len) (checksumTail (nmeaChecksum sentence))
    return (buf, 0)

/-- The line a completed text makes. -/
def completed (text : Bytes) : Bytes := text ++ checksumTail (xorSum (checksummed text))

section Append

variable {text rest : Bytes} {bufSize : Nat}

theorem nmeaAppendChecksum_too_small (hnul : 0 ∉ text)
    (hsmall : bufSize < 6 ∨ bufSize < text.length + 5) :
    nmeaAppendChecksum (text ++ 0 :: rest) bufSize = some (text ++ 0 :: rest, -1) := by
  unfold nmeaAppendChecksum
  by_cases hmin : bufSize < 6
  · rw [if_pos hmin]
  · have hroom : text.length + 5 > bufSize := hsmall.resolve_left hmin
    rw [if_neg hmin, strlen_append hnul]
    simp only [Option.bind_eq_bind, Option.bind_some, hroom, if_true]
    rfl

/-- With room for five bytes the call prints what fits of the tail and reports
success. -/
theorem nmeaAppendChecksum_prints (hnul : 0 ∉ text) (hmin : 6 ≤ bufSize)
    (hroom : text.length + 5 ≤ bufSize) {buf : Bytes} {code : Int}
    (hprint : snprintf (text ++ 0 :: rest) text.length (bufSize - text.length)
      (checksumTail (xorSum (checksummed text))) = some (buf, code)) :
    nmeaAppendChecksum (text ++ 0 :: rest) bufSize = some (buf, 0) := by
  have hread : read (text ++ 0 :: rest) 0 text.length = some text := by
    simpa using read_append [] text (0 :: rest)
  rw [nmeaAppendChecksum, if_neg (by omega), strlen_append hnul]
  simp only [Option.bind_eq_bind, Option.bind_some, hread, nmeaChecksum_eq]
  rw [if_neg (by omega), hprint]
  rfl

theorem nmeaAppendChecksum_completes (hnul : 0 ∉ text) (hroom : text.length + 6 ≤ bufSize)
    (hbuf : bufSize ≤ (text ++ 0 :: rest).length) :
    nmeaAppendChecksum (text ++ 0 :: rest) bufSize =
      some (completed text ++ 0 :: rest.drop 5, 0) := by
  have hprint := snprintf_of_fits (text ++ 0 :: rest) (checksumTail (xorSum (checksummed text)))
    text.length (bufSize - text.length) (by simp) (by simp; omega) (by simp at hbuf ⊢; omega)
  rw [List.take_left', checksumTail_length, Nat.add_assoc, List.drop_length_add_append] at hprint
  · exact nmeaAppendChecksum_prints hnul (by omega) (by omega) hprint
  · rfl

end Append

/-- With room for checksum, line end and terminator a sentence is completed. -/
theorem nmeaAppendChecksum_of_fits {body rest : Bytes} {bufSize : Nat} (hstar : star ∉ body)
    (hnul : 0 ∉ body) (hfit : body.length + 7 ≤ bufSize)
    (hbuf : bufSize ≤ (dollar :: body ++ 0 :: rest).length) :
    nmeaAppendChecksum (dollar :: body ++ 0 :: rest) bufSize =
      some (withChecksum (dollar :: body) ++ 0 :: rest.drop 5, 0) := by
  have hnul' : 0 ∉ dollar :: body := by
    simp only [List.mem_cons, not_or]
    exact ⟨by decide, hnul⟩
  rw [nmeaAppendChecksum_completes hnul' (by simpa using hfit) hbuf, completed,
    checksummed_of_no_star hstar]
  rfl

end TempoBt
