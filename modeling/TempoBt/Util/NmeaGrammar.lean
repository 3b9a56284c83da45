-- SUMMARY: The grammar of NMEA sentences: what the verifiers accept beyond it, and when appending a checksum completes a line.
import TempoBt.Lib.Strtol
import TempoBt.Util.NmeaChecksum

/-!
# The grammar of sentences

A complete sentence is `$`, a body, `*`, the two hex digits of the XOR of the
body, and at most a line end. The verifiers give the two checksum characters to
`strtol`, which reads less than two digits as a number too, and do not look at
what follows them. `nmeaAppendChecksum` asks for five bytes behind the text and
prints six.
-/

namespace TempoBt

open Bytes Printf

/-! ## Verifying -/

/-- A complete sentence, with or without its line end. -/
def IsSentence (s : Bytes) : Prop :=
  ∃ body p1 p2 rest, s = dollar :: body ++ star :: p1 :: p2 :: rest ∧ star ∉ body ∧
    IsHex p1 p2 (xorSum body) ∧ (rest = [] ∨ rest = [cr, lf])

/-- The checksum field reads as the XOR of the body, but a character of it is not
a hex digit, or more than a line end follows. -/
def Malformed (s : Bytes) : Prop :=
  ∃ body p1 p2 rest, s = dollar :: body ++ star :: p1 :: p2 :: rest ∧ star ∉ body ∧
    xorSum body = UInt8.ofInt (fieldValue p1 p2) ∧
    (hexVal p1 = none ∨ hexVal p2 = none ∨ (rest ≠ [] ∧ rest ≠ [cr, lf]))

/-- A complete sentence is accepted. -/
theorem IsSentence.accepts {s : Bytes} (h : IsSentence s) (hlen : 8 ≤ s.length) :
    checksumAccepts s = true := by
  obtain ⟨body, p1, p2, rest, hs, hbody, hhex, -⟩ := h
  exact (checksumAccepts_iff s).mpr
    ⟨hlen, body, p1, p2, rest, hs, hbody, (strtolU8_isHex hhex).symm⟩

/-- What is accepted is a complete sentence or reads as one. -/
theorem checksumAccepts_cases {s : Bytes} (h : checksumAccepts s = true) :
    IsSentence s ∨ Malformed s := by
  obtain ⟨-, body, p1, p2, rest, hs, hbody, hsum⟩ := (checksumAccepts_iff s).mp h
  have hsum' : xorSum body = UInt8.ofInt (fieldValue p1 p2) := by
    rw [hsum, strtolU8, strtol_fieldValue]
  by_cases hform : hexVal p1 = none ∨ hexVal p2 = none ∨ (rest ≠ [] ∧ rest ≠ [cr, lf])
  · exact Or.inr ⟨body, p1, p2, rest, hs, hbody, hsum', hform⟩
  · rw [not_or, not_or] at hform
    obtain ⟨h1, h2, hrest⟩ := hform
    have hhex : IsHex p1 p2 (xorSum body) :=
      isHex_iff.mpr ⟨Option.isSome_iff_ne_none.mpr h1, Option.isSome_iff_ne_none.mpr h2, hsum⟩
    refine Or.inl ⟨body, p1, p2, rest, hs, hbody, hhex, ?_⟩
    by_contra hne
    exact hrest (not_or.mp hne)

/-- A sentence that only reads as one is accepted and is none. -/
theorem Malformed.accepts {s : Bytes} (h : Malformed s) (hlen : 8 ≤ s.length) :
    checksumAccepts s = true ∧ ¬ IsSentence s := by
  obtain ⟨body, p1, p2, rest, hs, hbody, hsum, hform⟩ := h
  refine ⟨(checksumAccepts_iff s).mpr ⟨hlen, body, p1, p2, rest, hs, hbody, ?_⟩, ?_⟩
  · rw [hsum, strtolU8, strtol_fieldValue]
  · rintro ⟨body', q1, q2, rest', hs', hbody', hhex, hrest⟩
    have hsplit : body ++ star :: p1 :: p2 :: rest = body' ++ star :: q1 :: q2 :: rest' := by
      simpa [hs] using hs'
    obtain ⟨-, htail⟩ := append_sep_inj hbody hbody' hsplit
    obtain ⟨rfl, rfl, rfl⟩ : p1 = q1 ∧ p2 = q2 ∧ rest = rest' := by simpa using htail
    obtain ⟨h1, h2, -⟩ := isHex_iff.mp hhex
    rcases hform with hp1 | hp2 | ⟨hnil, hline⟩
    · simp [hp1] at h1
    · simp [hp2] at h2
    · exact hrest.elim hnil hline

/-- The verifiers accept exactly the complete sentences among the texts that do not
merely read as one. -/
theorem verifiers_accept_sentence_iff {s : Bytes} (hlen : 8 ≤ s.length) :
    ((nmeaVerifyChecksum s = true ↔ IsSentence s) ∧
      (validateNmeaChecksum s = true ↔ IsSentence s)) ↔ ¬ Malformed s := by
  constructor
  · rintro ⟨hverify, -⟩ hmal
    obtain ⟨haccept, hnot⟩ := hmal.accepts hlen
    exact hnot (hverify.mp haccept)
  · intro hmal
    have haccept : checksumAccepts s = true ↔ IsSentence s :=
      ⟨fun h => (checksumAccepts_cases h).resolve_right hmal, fun h => h.accepts hlen⟩
    exact ⟨haccept, haccept⟩

theorem verifiers_accept_sentence_iff_line :
    ((nmeaVerifyChecksum (ascii "$AAAE*04") = true ↔ IsSentence (ascii "$AAAE*04")) ∧
      (validateNmeaChecksum (ascii "$AAAE*04") = true ↔ IsSentence (ascii "$AAAE*04"))) ↔
      ¬ Malformed (ascii "$AAAE*04") :=
  verifiers_accept_sentence_iff (by decide)

/-- `4G` reads as the XOR `04`. -/
theorem not_verifiers_accept_only_sentences :
    ¬ ∀ s : Bytes, 8 ≤ s.length →
      (nmeaVerifyChecksum s = true ↔ IsSentence s) ∧
        (validateNmeaChecksum s = true ↔ IsSentence s) := by
  intro h
  have hmal : Malformed (ascii "$AAAE*4G") :=
    ⟨ascii "AAAE", 52, 71, [], rfl, by decide, by decide, Or.inr (Or.inl rfl)⟩
  obtain ⟨haccept, hnot⟩ := hmal.accepts (by decide)
  exact hnot ((h (ascii "$AAAE*4G") (by decide)).1.mp haccept)

/-! ## Appending -/

/-- The call on the block `buf`, of which `bufSize` bytes are its own, either fails
and leaves the block alone, or leaves the completed line with its terminator. -/
def AllOrNothing (text rest : Bytes) (bufSize : Nat) : Prop :=
  ∃ buf code, nmeaAppendChecksum (text ++ 0 :: rest) bufSize = some (buf, code) ∧
    (code = -1 ∧ buf = text ++ 0 :: rest ∨
      code = 0 ∧ (completed text).length < bufSize ∧ ∃ after, buf = completed text ++ 0 :: after)

/-- A completed text without a `*` of its own is a complete sentence. -/
theorem isSentence_completed {body : Bytes} (hbody : star ∉ body) :
    IsSentence (completed (dollar :: body)) := by
  refine ⟨body, _, _, [cr, lf], ?_, hbody, isHex_hex2 (xorSum body), Or.inr rfl⟩
  rw [completed, checksummed_of_no_star hbody]
  rfl

section Append

variable {text rest : Bytes} {bufSize : Nat}

/-- One byte short, the terminator takes the place of the line feed. -/
theorem nmeaAppendChecksum_cuts (hnul : 0 ∉ text) (hne : text ≠ [])
    (hbuf : text.length + 5 ≤ (text ++ 0 :: rest).length) :
    nmeaAppendChecksum (text ++ 0 :: rest) (text.length + 5) =
      some (text ++ (checksumTail (xorSum (checksummed text))).take 4 ++ 0 :: rest.drop 4, 0) := by
  have hpos : 0 < text.length := List.length_pos_iff.mpr hne
  have hwrite : text.length + 5 ≤ text.length + (rest.length + 1) := by simpa using hbuf
  have hprint : snprintf (text ++ 0 :: rest) text.length (text.length + 5 - text.length)
      (checksumTail (xorSum (checksummed text))) =
      some (text ++ (checksumTail (xorSum (checksummed text))).take 4 ++ 0 :: rest.drop 4, 5) := by
    rw [Nat.add_sub_cancel_left, snprintf, if_neg (by simp), if_neg (by omega), write,
      if_pos (by simpa using hwrite)]
    simp [checksumTail, hex2, List.drop_append]
  exact nmeaAppendChecksum_prints hnul (by omega) (by omega) hprint

/-- The call is all or nothing except where the buffer ends with the line feed. -/
theorem nmeaAppendChecksum_allOrNothing_iff (hnul : 0 ∉ text) (hsize : text.length < bufSize)
    (hbuf : bufSize ≤ (text ++ 0 :: rest).length) :
    AllOrNothing text rest bufSize ↔ ¬ (text ≠ [] ∧ bufSize = text.length + 5) := by
  constructor
  · rintro ⟨buf, code, hcall, hresult⟩ ⟨hne, rfl⟩
    rw [nmeaAppendChecksum_cuts hnul hne hbuf] at hcall
    obtain ⟨-, rfl⟩ : _ ∧ 0 = code := by simpa using hcall
    obtain ⟨hcode, -⟩ | ⟨-, hfits, -⟩ := hresult
    · simp at hcode
    · simp [completed] at hfits
  · intro hcond
    by_cases hroom : text.length + 6 ≤ bufSize
    · refine ⟨_, _, nmeaAppendChecksum_completes hnul hroom hbuf, Or.inr ⟨rfl, ?_, _, rfl⟩⟩
      simp only [completed, List.length_append, checksumTail_length]
      omega
    · have hsmall : bufSize < 6 ∨ bufSize < text.length + 5 := by
        by_contra hfar
        rw [not_or, not_lt, not_lt] at hfar
        refine hcond ⟨?_, by omega⟩
        rintro rfl
        simp at hfar hroom
        omega
      exact ⟨_, _, nmeaAppendChecksum_too_small hnul hsmall, Or.inl ⟨rfl, rfl⟩⟩

theorem nmeaAppendChecksum_allOrNothing_iff_letter :
    AllOrNothing (ascii "$A") (ascii "12345") 8 ↔
      ¬ (ascii "$A" ≠ [] ∧ (8 : Nat) = (ascii "$A").length + 5) :=
  nmeaAppendChecksum_allOrNothing_iff (by decide) (by decide) (by decide)

/-- In a buffer of seven bytes the sentence `$A` is reported complete and ends with
the carriage return. -/
theorem not_nmeaAppendChecksum_allOrNothing :
    nmeaAppendChecksum (ascii "$A" ++ 0 :: ascii "1234") 7 =
        some (ascii "$A*41" ++ [cr, 0], 0) ∧
      ¬ ∀ (text rest : Bytes) (bufSize : Nat), 0 ∉ text → text.length < bufSize →
        bufSize ≤ (text ++ 0 :: rest).length → AllOrNothing text rest bufSize := by
  refine ⟨by decide, fun h => ?_⟩
  obtain ⟨buf, code, hcall, hresult⟩ := h (ascii "$A") (ascii "1234") 7 (by decide) (by decide)
    (by decide)
  have hcuts : nmeaAppendChecksum (ascii "$A" ++ 0 :: ascii "1234") 7 =
      some (ascii "$A*41" ++ [cr, 0], 0) := by decide
  obtain ⟨-, rfl⟩ : _ ∧ 0 = code := by simpa using hcuts.symm.trans hcall
  obtain ⟨hcode, -⟩ | ⟨-, hfits, -⟩ := hresult
  · simp at hcode
  · exact absurd hfits (by decide)

end Append

end TempoBt
