-- SUMMARY: Python's text files and strings: universal newlines, the lines of a file, stripping and splitting.
import TempoBt.Lib.Bytes
import TempoBt.Lib.Lines
import Mathlib.Data.List.DropRight

/-!
# Python text

Texts of ASCII characters, as their bytes. A file that is opened for reading as text is
read with universal newlines: every line end becomes `'\n'`.
-/

namespace PythonText

open Lines

/-- `'\n'` and `'\r'` -/
def lineFeed : UInt8 := 10
def carriageReturn : UInt8 := 13

/-- What `read` makes of the bytes of a file, after a `'\r'` or not. -/
def universalNewlines : Bool → Bytes → Bytes
  | _, [] => []
  | afterCr, b :: s =>
    if b = carriageReturn then lineFeed :: universalNewlines true s
    else if b = lineFeed ∧ afterCr then universalNewlines false s
    else b :: universalNewlines false s

/-- `readlines` of a file that is opened for reading as text. -/
def readlines (file : Bytes) : List Bytes := keepEnds lineFeed (universalNewlines false file)

/-- The lines of a file, with the line ends that it has itself; `line` has begun. -/
def ownLines : Bytes → Bytes → List Bytes
  | line, [] => if line = [] then [] else [line]
  | line, b :: s =>
    if b = lineFeed ∨ (b = carriageReturn ∧ s.head? ≠ some lineFeed) then
      (line ++ [b]) :: ownLines [] s
    else ownLines (line ++ [b]) s

/-- `s.rstrip("\r\n")` -/
def stripEol (s : Bytes) : Bytes := s.rdropWhile fun b => b = carriageReturn || b = lineFeed

section Newlines

variable {file : Bytes}

theorem carriageReturn_notMem_universalNewlines (afterCr : Bool) (file : Bytes) :
    carriageReturn ∉ universalNewlines afterCr file := by
  induction file generalizing afterCr with
  | nil => exact List.not_mem_nil
  | cons b file ih =>
    rw [universalNewlines]
    split
    · rw [List.mem_cons, not_or]
      exact ⟨by decide, ih true⟩
    · rename_i hb
      split
      · exact ih false
      · rw [List.mem_cons, not_or]
        exact ⟨Ne.symm hb, ih false⟩

theorem universalNewlines_of_notMem (h : carriageReturn ∉ file) :
    universalNewlines false file = file := by
  induction file with
  | nil => rfl
  | cons b file ih =>
    rw [List.mem_cons, not_or] at h
    rw [universalNewlines, if_neg (Ne.symm h.1), if_neg (by simp), ih h.2]

theorem readlines_of_notMem (h : carriageReturn ∉ file) :
    readlines file = keepEnds lineFeed file := by
  rw [readlines, universalNewlines_of_notMem h]

/-- Where no line ends in `'\r'`, the lines are read as they are. -/
theorem ownLines_of_notMem (h : carriageReturn ∉ file) : ownLines [] file = readlines file := by
  have hlines (line : Bytes) : ownLines line file =
      (splitLines lineFeed line file).1.map (· ++ [lineFeed]) ++
        if (splitLines lineFeed line file).2 = [] then []
        else [(splitLines lineFeed line file).2] := by
    induction file generalizing line with
    | nil => rfl
    | cons b file ih =>
      rw [List.mem_cons, not_or] at h
      have hend : (b = lineFeed ∨ (b = carriageReturn ∧ file.head? ≠ some lineFeed)) ↔
          b = lineFeed :=
        or_iff_left fun hb => h.1 hb.1.symm
      simp only [ownLines, hend, splitLines]
      split
      · rename_i hb
        rw [ih h.2, hb]
        rfl
      · exact ih h.2 _
  rw [hlines, readlines_of_notMem h, keepEnds]

theorem flatten_ownLines (line file : Bytes) : (ownLines line file).flatten = line ++ file := by
  induction file generalizing line with
  | nil =>
    rw [ownLines]
    split
    · rename_i hline
      rw [hline]
      rfl
    · rw [List.flatten_singleton, List.append_nil]
  | cons b file ih =>
    rw [ownLines]
    split
    · rw [List.flatten_cons, ih, List.nil_append, List.append_assoc]
      rfl
    · rw [ih, List.append_assoc]
      rfl

theorem mem_of_mem_stripEol {b : UInt8} {s : Bytes} (hb : b ∈ stripEol s) : b ∈ s :=
  (List.rdropWhile_prefix _ s).mem hb

theorem flatten_readlines (file : Bytes) :
    (readlines file).flatten = universalNewlines false file :=
  flatten_keepEnds lineFeed _

/-- The lines that are read hold no `'\r'`. -/
theorem carriageReturn_notMem_readlines {line : Bytes} (hline : line ∈ readlines file) :
    carriageReturn ∉ line := by
  intro hcr
  have hmem := List.mem_flatten_of_mem hline hcr
  rw [flatten_readlines] at hmem
  exact carriageReturn_notMem_universalNewlines false file hmem

/-- A stripped line holds no line end. -/
theorem stripEol_readlines {line : Bytes} (hline : line ∈ readlines file) :
    lineFeed ∉ stripEol line ∧ carriageReturn ∉ stripEol line := by
  refine ⟨?_, fun hcr => carriageReturn_notMem_readlines hline (mem_of_mem_stripEol hcr)⟩
  obtain ⟨htexts, hrest⟩ := notMem_splitLines lineFeed (universalNewlines false file)
  rcases List.mem_append.mp hline with htext | hlast
  · obtain ⟨text, hmem, rfl⟩ := List.mem_map.mp htext
    have hstrip : stripEol (text ++ [lineFeed]) = stripEol text :=
      List.rdropWhile_concat_pos _ _ _ (by decide)
    rw [hstrip]
    exact fun hlf => htexts text hmem (mem_of_mem_stripEol hlf)
  · split at hlast
    · exact absurd hlast List.not_mem_nil
    · rw [List.mem_singleton.mp hlast]
      exact fun hlf => hrest (mem_of_mem_stripEol hlf)

end Newlines

/-! ## Joining and splitting -/

section Join

variable {sep b : UInt8} {fields : List Bytes} {field : Bytes}

theorem mem_intercalate_of_mem (hfield : field ∈ fields) (hb : b ∈ field) :
    b ∈ [sep].intercalate fields := by
  induction fields with
  | nil => exact absurd hfield List.not_mem_nil
  | cons first fields ih =>
    cases fields with
    | nil =>
      rw [List.intercalate_singleton, ← List.mem_singleton.mp hfield]
      exact hb
    | cons second fields =>
      rw [List.intercalate_cons_cons]
      rcases List.mem_cons.mp hfield with rfl | hfield
      · exact List.mem_append_left _ (List.mem_append_left _ hb)
      · exact List.mem_append_right _ (ih hfield)

theorem mem_intercalate (hb : b ∈ [sep].intercalate fields) :
    b = sep ∨ ∃ field ∈ fields, b ∈ field := by
  induction fields with
  | nil => exact absurd hb List.not_mem_nil
  | cons first fields ih =>
    cases fields with
    | nil =>
      rw [List.intercalate_singleton] at hb
      exact .inr ⟨first, List.mem_cons_self, hb⟩
    | cons second fields =>
      rw [List.intercalate_cons_cons] at hb
      rcases List.mem_append.mp hb with hb | hb
      · rcases List.mem_append.mp hb with hb | hb
        · exact .inr ⟨first, List.mem_cons_self, hb⟩
        · exact .inl (List.mem_singleton.mp hb)
      · rcases ih hb with hsep | ⟨field, hfield, hb⟩
        · exact .inl hsep
        · exact .inr ⟨field, List.mem_cons_of_mem _ hfield, hb⟩

theorem mem_of_mem_splitOn {s : Bytes} (hfield : field ∈ s.splitOn sep) (hb : b ∈ field) :
    b ∈ s := by
  have hjoin : [sep].intercalate (s.splitOn sep) = s := List.intercalate_splitOn sep
  rw [← hjoin]
  exact mem_intercalate_of_mem hfield hb

end Join

end PythonText
