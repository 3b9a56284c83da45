-- SUMMARY: The log-line formatter: a formatted sentence with its checksum and line end in a bounded buffer.
import TempoBt.Util.NmeaChecksum

/-!
# Log sentences

`log_format_sentence` and its helpers from `aggregator.c` and `app/log_format.h`.
The variadic arguments enter as the formatted text they denote
(`Printf.format`). Sizes are 32-bit, as on the target.
-/

namespace TempoBt

open Bytes Printf

/-- `LOG_MAX_SENTENCE_LEN`: line end and terminator included. -/
def logMaxSentenceLen : UInt32 := 128

def logCalcChecksum (sentence : Bytes) : UInt8 := sentence.foldl (· ^^^ ·) 0

/-- `log_format_sentence` on the block `buf`: the block afterwards and the
returned length or `-1`; `none` when the call leaves the block. -/
def logFormatSentence (buf : Bytes) (bufSize : UInt32) (text : Bytes) :
    Option (Bytes × Int) := do
  let (buf, len) ← snprintf buf 0 (bufSize - 5).toNat text
  if len < 0 ∨ (bufSize - 5).toNat ≤ len.toNat then return (buf, -1)
  -- The text without its `$`; `len - 1` is converted to `size_t`.
  let body ← read buf 1 (UInt32.ofNat len.toNat - 1).toNat
  let checksum := logCalcChecksum body
  let (buf, n) ← snprintf buf len.toNat (bufSize.toNat - len.toNat) (checksumTail checksum)
  return (buf, len + n)

/-- What every caller does with a line buffer of its own: format the sentence,
and hand it on when the returned length is positive. -/
def sentenceLine (text : Bytes) : Option Bytes := do
  let (buf, len) ← logFormatSentence (List.replicate logMaxSentenceLen.toNat 0)
    logMaxSentenceLen text
  if 0 < len then some (buf.take len.toNat) else none

/-! ## What the formatter leaves in the buffer -/

theorem logCalcChecksum_eq (sentence : Bytes) : logCalcChecksum sentence = xorSum sentence := rfl

theorem sub_five_toNat {bufSize : UInt32} (h : 6 ≤ bufSize.toNat) :
    (bufSize - 5).toNat = bufSize.toNat - 5 := by
  have h5 : (5 : UInt32) ≤ bufSize := by
    rw [UInt32.le_iff_toNat_le]
    exact Nat.le_of_succ_le h
  rw [UInt32.toNat_sub_of_le _ _ h5]
  rfl

theorem sub_one_toNat {n : Nat} (hpos : 0 < n) (hn : n < 2 ^ 32) :
    (UInt32.ofNat n - 1).toNat = n - 1 := by
  have hof : (UInt32.ofNat n).toNat = n := by
    rw [UInt32.toNat_ofNat']
    exact Nat.mod_eq_of_lt hn
  have h1 : (1 : UInt32) ≤ UInt32.ofNat n := by
    rw [UInt32.le_iff_toNat_le, hof]
    exact hpos
  rw [UInt32.toNat_sub_of_le _ _ h1, hof]
  rfl

/-- A text that fits with its checksum, line end and terminator is completed. -/
theorem logFormatSentence_of_fits {buf text : Bytes} {bufSize : UInt32} (hpos : 0 < text.length)
    (hint : text.length ≤ 2147483647) (hfit : text.length + 6 ≤ bufSize.toNat)
    (hbuf : bufSize.toNat ≤ buf.length) :
    logFormatSentence buf bufSize text =
      some (withChecksum text ++ 0 :: buf.drop (text.length + 6),
        ((withChecksum text).length : Int)) := by
  have hsize : (bufSize - 5).toNat = bufSize.toNat - 5 := sub_five_toNat (by omega)
  have hone : (UInt32.ofNat text.length - 1).toNat = text.length - 1 :=
    sub_one_toNat hpos (by omega)
  have htext := snprintf_of_fits buf text 0 (bufSize.toNat - 5) hint
    (by omega) (by omega)
  have hbody : read (text ++ 0 :: buf.drop (text.length + 1)) 1 (text.length - 1) =
      some text.tail := by
    cases text with
    | nil => simp at hpos
    | cons t text => simpa using read_append [t] text (0 :: buf.drop (text.length + 1 + 1))
  -- The second `snprintf` overwrites the terminator of the first.
  have htail := snprintf_of_fits (text ++ 0 :: buf.drop (text.length + 1))
    (checksumTail (xorSum text.tail)) text.length (bufSize.toNat - text.length) (by simp)
    (by simp; omega) (by simp; omega)
  simp only [List.take_zero, List.nil_append, Nat.zero_add] at htext
  simp only [checksumTail_length, List.take_left'] at htail
  rw [logFormatSentence, hsize, htext]
  simp only [Option.bind_eq_bind, Option.bind_some, Int.toNat_natCast, hone, hbody,
    logCalcChecksum_eq]
  have hdrop : (text ++ 0 :: buf.drop (text.length + 1)).drop (text.length + 5 + 1) =
      buf.drop (text.length + 6) := by
    rw [Nat.add_assoc, List.drop_length_add_append, List.drop_succ_cons, List.drop_drop,
      Nat.add_assoc]
  rw [if_neg (by omega), htail, hdrop]
  simp [withChecksum]

/-- A text that does not fit is refused, and nothing after `bufSize` bytes changes. -/
theorem logFormatSentence_of_not_fits (buf text : Bytes) {bufSize : UInt32}
    (hsize : 6 ≤ bufSize.toNat) (hbuf : bufSize.toNat ≤ buf.length)
    (hfit : ¬ (text.length ≤ 2147483647 ∧ text.length + 6 ≤ bufSize.toNat)) :
    ∃ buf', logFormatSentence buf bufSize text = some (buf', -1) ∧
      buf'.length = buf.length ∧ buf'.drop bufSize.toNat = buf.drop bufSize.toNat := by
  have hfive : (bufSize - 5).toNat = bufSize.toNat - 5 := sub_five_toNat hsize
  obtain ⟨buf', hbuf', hlength, hframe⟩ :=
    snprintf_frame buf text 0 (bufSize.toNat - 5) (by omega)
  refine ⟨buf', ?_, hlength, ?_⟩
  · rw [logFormatSentence, hfive, hbuf']
    simp only [Option.bind_eq_bind, Option.bind_some]
    rw [if_pos]
    · rfl
    · split
      · left; decide
      · right; simp only [Int.toNat_natCast]; omega
  · have h := congrArg (List.drop 5) hframe
    rw [List.drop_drop, List.drop_drop] at h
    rw [show bufSize.toNat = 0 + (bufSize.toNat - 5) + 5 by omega]
    exact h

/-- The line of a text: nothing when it does not fit the line buffer, else the text
with its checksum. -/
theorem sentenceLine_eq {text : Bytes} (hpos : 0 < text.length) :
    sentenceLine text = if text.length + 6 ≤ 128 then some (withChecksum text) else none := by
  have hsize : logMaxSentenceLen.toNat = 128 := rfl
  have hblock : (List.replicate logMaxSentenceLen.toNat (0 : UInt8)).length = 128 := by simp [hsize]
  unfold sentenceLine
  split
  · rename_i hfit
    rw [logFormatSentence_of_fits hpos (by omega) (by rw [hsize]; exact hfit)
      (by rw [hblock, hsize])]
    simp only [Option.bind_eq_bind, Option.bind_some, Int.toNat_natCast, List.take_left']
    rw [if_pos (by simp; omega)]
  · rename_i hfit
    obtain ⟨buf', hbuf', -, -⟩ := logFormatSentence_of_not_fits
      (List.replicate logMaxSentenceLen.toNat 0) text (by rw [hsize]; omega)
      (by rw [hblock, hsize]) (by rw [hsize]; omega)
    rw [hbuf']
    rfl

/-! ## Encoders and verifier -/

/-- Both encoders produce the same line from a text, the verifier accepts it, and
it rejects the line after any single-character change of the body. -/
theorem sentence_encoders_agree (s : Bytes) (hs : s.head? = some dollar) (hlen : 3 ≤ s.length)
    (hstar : star ∉ s) (hnul : 0 ∉ s) (bufSize : UInt32) (hsize : 6 ≤ bufSize.toNat)
    (buf : Bytes) (hbuf : bufSize.toNat ≤ buf.length) :
    ((∃ buf', logFormatSentence buf bufSize s = some (buf', -1) ∧ buf'.length = buf.length ∧
          buf'.drop bufSize.toNat = buf.drop bufSize.toNat ∧
          ¬ (s.length ≤ 2147483647 ∧ s.length + 6 ≤ bufSize.toNat)) ∨
        (logFormatSentence buf bufSize s =
            some (withChecksum s ++ 0 :: buf.drop (s.length + 6),
              ((withChecksum s).length : Int)) ∧
          (withChecksum s).length + 1 ≤ bufSize.toNat)) ∧
      nmeaVerifyChecksum (withChecksum s) = true ∧
      (∀ rest bufSize', s.length + 6 ≤ bufSize' → bufSize' ≤ (s ++ 0 :: rest).length →
        nmeaAppendChecksum (s ++ 0 :: rest) bufSize' =
          some (withChecksum s ++ 0 :: rest.drop 5, 0)) ∧
      ∀ as c bs d, s = dollar :: as ++ c :: bs → d ≠ c → d ≠ star →
        nmeaVerifyChecksum (dollar :: as ++ d :: bs ++ checksumTail (xorSum s.tail)) = false := by
  obtain ⟨body, rfl⟩ : ∃ body, s = dollar :: body := ⟨s.tail, List.eq_cons_of_mem_head? hs⟩
  simp only [List.mem_cons, not_or] at hstar hnul
  simp only [List.length_cons] at hlen
  refine ⟨?_, ?_, ?_, ?_⟩
  · by_cases hfit : (dollar :: body).length ≤ 2147483647 ∧
        (dollar :: body).length + 6 ≤ bufSize.toNat
    · right
      refine ⟨logFormatSentence_of_fits (by simp) hfit.1 hfit.2 hbuf, ?_⟩
      rw [withChecksum_length]
      omega
    -- the text is too long for the buffer, or for the return type of `vsnprintf`
    · left
      obtain ⟨buf', hbuf', hlength, hframe⟩ := logFormatSentence_of_not_fits buf _ hsize hbuf hfit
      exact ⟨buf', hbuf', hlength, hframe, hfit⟩
  · exact checksumAccepts_withChecksum (by omega) hstar.2
  · intro rest bufSize' hfit hblock
    exact nmeaAppendChecksum_of_fits hstar.2 hnul.2 (by simp at hfit; omega) hblock
  · intro as c bs d hsplit hdc hdstar
    obtain rfl : body = as ++ c :: bs := by simpa using hsplit
    -- the changed body still ends at the same `*`, and its XOR differs
    have hbody : star ∉ as ++ d :: bs := by
      simp only [List.mem_append, List.mem_cons, not_or] at hstar ⊢
      exact ⟨hstar.2.1, fun h => hdstar h.symm, hstar.2.2.2⟩
    simpa [nmeaVerifyChecksum, checksumTail, hex2] using
      checksumAccepts_eq_false hbody (isHex_hex2 (xorSum (as ++ c :: bs)))
        (xorSum_replace_ne hdc) [cr, lf]

/-- The time-hack text `$PTH,7` in the line buffer of the callers. -/
theorem sentence_encoders_agree_pth :
    nmeaVerifyChecksum (withChecksum (ascii "$PTH,7")) = true ∧
      ∀ d : UInt8, d ≠ 55 → d ≠ star →
        nmeaVerifyChecksum (ascii "$PTH," ++ d :: checksumTail (xorSum (ascii "PTH,7"))) =
          false := by
  have h := sentence_encoders_agree (ascii "$PTH,7") (by decide) (by decide) (by decide)
    (by decide) 128 (by decide) (List.replicate 128 0) (by simp)
  exact ⟨h.2.1, fun d hd hstar => h.2.2.2 (ascii "PTH,") 55 [] d (by decide) hd hstar⟩

end TempoBt
