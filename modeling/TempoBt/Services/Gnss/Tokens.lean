-- SUMMARY: The tokenizer of the GNSS service: the fields that it leaves in the buffer of a sentence, and what it writes to the array of tokens.
import TempoBt.Services.Gnss.Fix

/-!
# Tokens

`nmea_tokenize` cuts a sentence in its own buffer. The tokens are offsets into that buffer,
which are kept in an array of the caller.
-/

namespace TempoBt

open Bytes CString

/-- `tokens[i] = pos` in an array of the caller; `none` is a write out of range. -/
def writeSlot (slots : List Nat) (i pos : Nat) : Option (List Nat) :=
  if i < slots.length then some (slots.set i pos) else none

/-- The buffer, `token_count` and the array of the caller when `nmea_tokenize` returns. -/
structure Tokenized where
  buffer : Bytes
  tokenCount : Nat
  slots : List Nat

/-- One more byte before the part of the buffer that is looked at. -/
def Tokenized.behind (c : UInt8) (t : Tokenized) : Tokenized := { t with buffer := c :: t.buffer }

/-- The loop of `nmea_tokenize`, with the array of the caller. -/
def tokenizeIntoFrom (maxTokens : Nat) : Nat → Nat → List Nat → Bytes → Option Tokenized
  | _, tokenCount, slots, [] => some ⟨[], tokenCount, slots⟩
  | pos, tokenCount, slots, c :: rest =>
    if c = 0 ∨ ¬ tokenCount < maxTokens then some ⟨c :: rest, tokenCount, slots⟩
    else if c = fieldSeparator then
      if tokenCount < maxTokens then
        match writeSlot slots tokenCount (pos + 1) with
        | none => none
        | some slots =>
          (tokenizeIntoFrom maxTokens (pos + 1) (tokenCount + 1) slots rest).map (·.behind 0)
      else (tokenizeIntoFrom maxTokens (pos + 1) tokenCount slots rest).map (·.behind 0)
    else if c = star then some ⟨0 :: rest, tokenCount, slots⟩
    else (tokenizeIntoFrom maxTokens (pos + 1) tokenCount slots rest).map (·.behind c)

/-- `nmea_tokenize`, with the array of the caller. -/
def tokenizeInto (maxTokens : Nat) (slots : List Nat) (buffer : Bytes) : Option Tokenized :=
  if maxTokens = 0 then some ⟨buffer, 0, slots⟩
  else
    match writeSlot slots 0 0 with
    | none => none
    | some slots => tokenizeIntoFrom maxTokens 0 1 slots buffer

/-- The tokens, as the strings that they are in the buffer afterwards. -/
def Tokenized.strings (t : Tokenized) : List Bytes :=
  (t.slots.take t.tokenCount).map fun pos => cstr (t.buffer.drop pos)

/-- The fields of a sentence, up to its checksum. -/
def sentenceFields (text : Bytes) : List Bytes :=
  (text.takeWhile (· != star)).splitOn fieldSeparator

/-- A buffer changes only where a separator, or the first `'*'`, becomes a terminator. -/
def OnlyCuts (before after : Bytes) : Prop :=
  after.length = before.length ∧
    ∀ i, after[i]? ≠ before[i]? →
      after[i]? = some 0 ∧
        (before[i]? = some fieldSeparator ∨ before[i]? = some star ∧ star ∉ before.take i)

/-! ## The array of tokens -/

section Slots

variable {maxTokens pos : Nat} {tokens free : List Nat}

theorem writeSlot_append (free : List Nat) (slot : Nat) :
    writeSlot (tokens ++ slot :: free) tokens.length pos = some ((tokens ++ [pos]) ++ free) := by
  rw [writeSlot, if_pos (by simp), List.set_append_right _ _ le_rfl, Nat.sub_self,
    List.append_assoc]
  rfl

/-- The array of the caller holds the tokens, and what it held before behind them. -/
theorem tokenizeIntoFrom_eq (pos : Nat) (hslots : tokens.length + free.length = maxTokens)
    (rest : Bytes) :
    ∃ free', free' <:+ free ∧
      (nmeaTokenizeFrom maxTokens pos tokens rest).2.length + free'.length = maxTokens ∧
      tokenizeIntoFrom maxTokens pos tokens.length (tokens ++ free) rest =
        some ⟨(nmeaTokenizeFrom maxTokens pos tokens rest).1,
          (nmeaTokenizeFrom maxTokens pos tokens rest).2.length,
          (nmeaTokenizeFrom maxTokens pos tokens rest).2 ++ free'⟩ := by
  induction rest generalizing pos tokens free with
  | nil => exact ⟨free, List.suffix_refl _, hslots, rfl⟩
  | cons c rest ih =>
    rw [nmeaTokenizeFrom, tokenizeIntoFrom]
    by_cases hstop : c = 0 ∨ ¬ tokens.length < maxTokens
    · rw [if_pos hstop, if_pos hstop]
      exact ⟨free, List.suffix_refl _, hslots, rfl⟩
    rw [if_neg hstop, if_neg hstop]
    have hroom : tokens.length < maxTokens := not_not.mp (not_or.mp hstop).2
    by_cases hcomma : c = fieldSeparator
    · rw [if_pos hcomma, if_pos hcomma, if_pos hroom, if_pos hroom]
      cases free with
      | nil =>
        rw [List.length_nil] at hslots
        omega
      | cons slot free =>
        have hnext : (tokens ++ [pos + 1]).length + free.length = maxTokens := by
          rw [List.length_append, List.length_singleton, ← hslots, List.length_cons]
          omega
        obtain ⟨free', hsuffix, hlength, hinto⟩ := ih (pos + 1) hnext
        rw [List.length_append, List.length_singleton] at hinto
        refine ⟨free', hsuffix.trans (List.suffix_cons _ _), hlength, ?_⟩
        rw [writeSlot_append]
        simp only [hinto]
        rfl
    rw [if_neg hcomma, if_neg hcomma]
    by_cases hstar : c = star
    · rw [if_pos hstar, if_pos hstar]
      exact ⟨free, List.suffix_refl _, hslots, rfl⟩
    · rw [if_neg hstar, if_neg hstar]
      obtain ⟨free', hsuffix, hlength, hinto⟩ := ih (pos + 1) hslots
      refine ⟨free', hsuffix, hlength, ?_⟩
      rw [hinto]
      rfl

/-- No write is out of range, and the tokens are those of `nmeaTokenize`. -/
theorem tokenizeInto_eq {slots : List Nat} (hslots : slots.length = maxTokens) (buffer : Bytes) :
    ∃ free, (nmeaTokenize maxTokens buffer).2.length + free.length = maxTokens ∧
      tokenizeInto maxTokens slots buffer =
        some ⟨(nmeaTokenize maxTokens buffer).1, (nmeaTokenize maxTokens buffer).2.length,
          (nmeaTokenize maxTokens buffer).2 ++ free⟩ := by
  cases slots with
  | nil =>
    rw [← hslots]
    exact ⟨[], rfl, rfl⟩
  | cons slot free =>
    have hpos : maxTokens ≠ 0 := by
      rw [← hslots, List.length_cons]
      omega
    have hfirst : writeSlot (slot :: free) 0 0 = some ([0] ++ free) := rfl
    have hfree : [0].length + free.length = maxTokens := by
      rw [← hslots]
      exact Nat.add_comm 1 free.length
    obtain ⟨free', -, hlength, hinto⟩ := tokenizeIntoFrom_eq 0 hfree buffer
    refine ⟨free', ?_, ?_⟩
    · rw [nmeaTokenize, if_neg hpos]
      exact hlength
    · rw [tokenizeInto, nmeaTokenize, if_neg hpos, if_neg hpos, hfirst]
      exact hinto

end Slots

/-! ## The fields -/

section Fields

variable {maxTokens pos : Nat} {tokens : List Nat} {text : Bytes}

theorem sentenceFields_cons (c : UInt8) (text : Bytes) :
    sentenceFields (c :: text) =
      if c = star then [[]]
      else if c = fieldSeparator then [] :: sentenceFields text
      else (sentenceFields text).modifyHead (c :: ·) := by
  rw [sentenceFields, List.takeWhile_cons]
  by_cases hstar : c = star
  · simp [hstar]
  · rw [if_pos (by simpa using hstar), List.splitOn_cons_eq_if_modifyHead, if_neg hstar]
    simp only [beq_iff_eq]
    rfl

theorem sentenceFields_ne_nil (text : Bytes) : sentenceFields text ≠ [] :=
  List.splitOn_ne_nil _ _

/-- The strings at `pos` and at later offsets, in the part of a buffer from `pos` on. -/
def stringsFrom (pos : Nat) (later : List Nat) (buffer : Bytes) : List Bytes :=
  cstr buffer :: later.map fun q => cstr (buffer.drop (q - pos))

theorem later_strings {later : List Nat} (hlater : ∀ q ∈ later, pos + 1 < q) (c : UInt8)
    (buffer : Bytes) :
    later.map (fun q => cstr ((c :: buffer).drop (q - pos))) =
      later.map fun q => cstr (buffer.drop (q - (pos + 1))) := by
  apply List.map_congr_left
  intro q hq
  have hq := hlater q hq
  have hoffset : q - pos = q - (pos + 1) + 1 := by omega
  rw [hoffset, List.drop_succ_cons]

/-- A token ends where its comma was. -/
theorem stringsFrom_terminator {later : List Nat} (hlater : ∀ q ∈ later, pos + 1 < q)
    (buffer : Bytes) :
    stringsFrom pos ((pos + 1) :: later) (0 :: buffer) =
      [] :: stringsFrom (pos + 1) later buffer := by
  rw [stringsFrom, List.map_cons, later_strings hlater, stringsFrom, Nat.add_sub_cancel_left]
  rfl

/-- A token is longer by a character that is kept. -/
theorem stringsFrom_cons {later : List Nat} (hlater : ∀ q ∈ later, pos + 1 < q) {c : UInt8}
    (hc : c ≠ 0) (buffer : Bytes) :
    stringsFrom pos later (c :: buffer) =
      (stringsFrom (pos + 1) later buffer).modifyHead (c :: ·) := by
  rw [stringsFrom, later_strings hlater, cstr_cons, if_neg hc]
  rfl

/-- From offset `pos` on, where the last of `tokens` begins, the tokenizer has found the
strings `fields`. -/
def SplitsFrom (pos : Nat) (tokens : List Nat) (r : Bytes × List Nat) (fields : List Bytes) :
    Prop :=
  ∃ later, r.2 = tokens ++ later ∧ (∀ q ∈ later, pos < q) ∧ stringsFrom pos later r.1 = fields

/-- The last token ends at a terminator. -/
theorem SplitsFrom.last (pos : Nat) (tokens : List Nat) (rest : Bytes) :
    SplitsFrom pos tokens (0 :: rest, tokens) [[]] := by
  refine ⟨[], (List.append_nil _).symm, by simp, ?_⟩
  simp [stringsFrom, cstr]

theorem SplitsFrom.separator {r : Bytes × List Nat} {fields : List Bytes}
    (h : SplitsFrom (pos + 1) (tokens ++ [pos + 1]) r fields) :
    SplitsFrom pos tokens (0 :: r.1, r.2) ([] :: fields) := by
  obtain ⟨later, htokens, hlater, hstrings⟩ := h
  refine ⟨(pos + 1) :: later, ?_, ?_, ?_⟩
  · rw [htokens, List.append_assoc]
    rfl
  · intro q hq
    rcases List.mem_cons.mp hq with rfl | hq
    · exact Nat.lt_succ_self pos
    · exact Nat.lt_of_succ_lt (hlater q hq)
  · rw [stringsFrom_terminator hlater, hstrings]

theorem SplitsFrom.char {r : Bytes × List Nat} {fields : List Bytes} {c : UInt8} (hc : c ≠ 0)
    (h : SplitsFrom (pos + 1) tokens r fields) :
    SplitsFrom pos tokens (c :: r.1, r.2) (fields.modifyHead (c :: ·)) := by
  obtain ⟨later, htokens, hlater, hstrings⟩ := h
  refine ⟨later, htokens, fun q hq => Nat.lt_of_succ_lt (hlater q hq), ?_⟩
  rw [stringsFrom_cons hlater hc, hstrings]

/-- While there is room for all fields, the tokens are the fields. -/
theorem nmeaTokenizeFrom_fields (pos : Nat) (hnul : 0 ∉ text) (after : Bytes)
    (hroom : tokens.length + (sentenceFields text).length ≤ maxTokens) :
    SplitsFrom pos tokens (nmeaTokenizeFrom maxTokens pos tokens (text ++ 0 :: after))
      (sentenceFields text) := by
  induction text generalizing pos tokens with
  | nil =>
    rw [List.nil_append, nmeaTokenizeFrom, if_pos (.inl rfl)]
    exact SplitsFrom.last pos tokens after
  | cons c text ih =>
    rw [List.mem_cons, not_or] at hnul
    have hfields := List.length_pos_iff.mpr (sentenceFields_ne_nil (c :: text))
    have hfree : tokens.length < maxTokens := by omega
    have hgo : ¬ (c = 0 ∨ ¬ tokens.length < maxTokens) := by
      rw [not_or, not_not]
      exact ⟨Ne.symm hnul.1, hfree⟩
    rw [List.cons_append, nmeaTokenizeFrom, if_neg hgo]
    by_cases hcomma : c = fieldSeparator
    · -- the field ends here, and the next one gets a slot
      have hcons : sentenceFields (c :: text) = [] :: sentenceFields text := by
        rw [sentenceFields_cons, if_neg (by rw [hcomma]; decide), if_pos hcomma]
      rw [hcons, List.length_cons] at hroom
      have hnext : (tokens ++ [pos + 1]).length + (sentenceFields text).length ≤ maxTokens := by
        rw [List.length_append, List.length_singleton]
        omega
      rw [if_pos hcomma, if_pos hfree, hcons]
      exact (ih (pos + 1) hnul.2 hnext).separator
    rw [if_neg hcomma]
    by_cases hstar : c = star
    · -- the checksum follows: the field is the last one
      rw [if_pos hstar, sentenceFields_cons, if_pos hstar]
      exact SplitsFrom.last pos tokens _
    · have hcons : sentenceFields (c :: text) = (sentenceFields text).modifyHead (c :: ·) := by
        rw [sentenceFields_cons, if_neg hstar, if_neg hcomma]
      rw [hcons, List.length_modifyHead] at hroom
      rw [if_neg hstar, hcons]
      exact (ih (pos + 1) hnul.2 hroom).char (Ne.symm hnul.1)

end Fields

/-! ## The buffer -/

theorem OnlyCuts.refl (buffer : Bytes) : OnlyCuts buffer buffer :=
  ⟨rfl, fun _ h => absurd rfl h⟩

/-- A byte in front of a buffer: it stays, or it is a comma that becomes a terminator. -/
theorem OnlyCuts.cons {before after : Bytes} {b c : UInt8} (h : OnlyCuts before after)
    (hb : b ≠ star) (hc : c = b ∨ c = 0 ∧ b = fieldSeparator) :
    OnlyCuts (b :: before) (c :: after) := by
  refine ⟨by rw [List.length_cons, List.length_cons, h.1], fun i hi => ?_⟩
  cases i with
  | zero =>
    rw [List.getElem?_cons_zero, List.getElem?_cons_zero] at hi ⊢
    rcases hc with rfl | ⟨rfl, rfl⟩
    · exact absurd rfl hi
    · exact ⟨rfl, .inl rfl⟩
  | succ i =>
    rw [List.getElem?_cons_succ, List.getElem?_cons_succ] at hi ⊢
    obtain ⟨hnul, hcut⟩ := h.2 i hi
    refine ⟨hnul, hcut.imp_right fun hfirst => ⟨hfirst.1, ?_⟩⟩
    rw [List.take_succ_cons, List.mem_cons, not_or]
    exact ⟨Ne.symm hb, hfirst.2⟩

theorem onlyCuts_star (rest : Bytes) : OnlyCuts (star :: rest) (0 :: rest) := by
  refine ⟨rfl, fun i hi => ?_⟩
  cases i with
  | zero => exact ⟨rfl, .inr ⟨rfl, List.not_mem_nil⟩⟩
  | succ i => exact absurd rfl hi

theorem onlyCuts_nmeaTokenizeFrom (maxTokens pos : Nat) (tokens : List Nat) (buffer : Bytes) :
    OnlyCuts buffer (nmeaTokenizeFrom maxTokens pos tokens buffer).1 := by
  induction buffer generalizing pos tokens with
  | nil => exact OnlyCuts.refl []
  | cons c rest ih =>
    rw [nmeaTokenizeFrom]
    split
    · exact OnlyCuts.refl _
    · split
      · rename_i hcomma
        exact (ih _ _).cons (by rw [hcomma]; decide) (.inr ⟨rfl, hcomma⟩)
      · split
        · rename_i hstar
          rw [hstar]
          exact onlyCuts_star rest
        · rename_i hstar
          exact (ih _ _).cons hstar (.inl rfl)

/-! ## The whole call -/

theorem nmeaTokenize_fields {text : Bytes} (hnul : 0 ∉ text) (after : Bytes)
    (hfields : (sentenceFields text).length ≤ 31) :
    (nmeaTokenize maxNmeaTokens (text ++ 0 :: after)).2.map (fun pos =>
      cstr ((nmeaTokenize maxNmeaTokens (text ++ 0 :: after)).1.drop pos)) =
      sentenceFields text := by
  have hroom : [0].length + (sentenceFields text).length ≤ maxNmeaTokens := by
    rw [maxNmeaTokens, List.length_singleton]
    omega
  obtain ⟨later, htokens, -, hstrings⟩ := nmeaTokenizeFrom_fields 0 hnul after hroom
  rw [nmeaTokenize, if_neg (by decide), htokens, ← hstrings]
  rfl

/-- The tokens that the parsers of the service see. -/
theorem sentenceTokens_eq {sentence : Bytes}
    (hfields :
      (sentenceFields (copied gnssUartBufferSize (cstr sentence))).length ≤ 31) :
    sentenceTokens sentence = sentenceFields (copied gnssUartBufferSize (cstr sentence)) :=
  nmeaTokenize_fields (fun h => not_mem_cstr sentence (List.mem_of_mem_take h)) [] hfields

/-- The tokenizer, with an array of 32 tokens: it writes within the array, it gives exactly
the fields of a sentence of at most 31 fields, and it changes separators only. -/
theorem tokenizeInto_exact (text after : Bytes) (slots : List Nat) (hnul : 0 ∉ text)
    (hslots : slots.length = maxNmeaTokens) :
    ∃ t, tokenizeInto maxNmeaTokens slots (text ++ 0 :: after) = some t ∧
      ((sentenceFields text).length ≤ 31 →
        t.tokenCount = (sentenceFields text).length ∧ t.strings = sentenceFields text) ∧
      t.tokenCount ≤ 32 ∧ t.slots.length = maxNmeaTokens ∧
      OnlyCuts (text ++ 0 :: after) t.buffer := by
  obtain ⟨free, hlength, hinto⟩ := tokenizeInto_eq hslots (text ++ 0 :: after)
  refine ⟨_, hinto, fun hfields => ?_, ?_, ?_, ?_⟩
  · have hstrings := nmeaTokenize_fields hnul after hfields
    constructor
    · rw [← hstrings, List.length_map]
    · rw [Tokenized.strings, List.take_left, hstrings]
  · exact Nat.le_trans (Nat.le_add_right _ free.length) hlength.le
  · rw [List.length_append, hlength]
  · rw [nmeaTokenize, if_neg (by decide)]
    exact onlyCuts_nmeaTokenizeFrom _ _ _ _

/-- Empty fields, and a checksum behind them. -/
theorem tokenizeInto_exact_empty_fields :
    ∃ t, tokenizeInto maxNmeaTokens (List.replicate 32 0) (ascii "$GPGGA,,1,*5A" ++ 0 :: []) =
        some t ∧
      t.strings = [ascii "$GPGGA", [], ascii "1", []] := by
  obtain ⟨t, hinto, hexact, -⟩ := tokenizeInto_exact (ascii "$GPGGA,,1,*5A") []
    (List.replicate 32 0) (by decide) (by decide)
  refine ⟨t, hinto, ?_⟩
  rw [(hexact (by decide)).2]
  decide

end TempoBt
