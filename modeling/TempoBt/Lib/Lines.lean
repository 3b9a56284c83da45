-- SUMMARY: Cutting a stream into lines, chunk by chunk, streams whose lines are bounded, streams made of whole lines, and lines that keep their ends.
import Mathlib.Data.List.Infix

/-!
# Lines

A stream is cut at a separator. The complete lines and the line that has begun can be
computed from what came before and the next chunk.
-/

namespace Lines

variable {α : Type*} [DecidableEq α] (sep : α)

/-- The complete lines of a stream, after `line` has begun, and the line that has begun
at its end. -/
def splitLines (line : List α) : List α → List (List α) × List α
  | [] => ([], line)
  | a :: as =>
    if a = sep then (line :: (splitLines [] as).1, (splitLines [] as).2)
    else splitLines (line ++ [a]) as

theorem splitLines_append (line as bs : List α) :
    splitLines sep line (as ++ bs) =
      ((splitLines sep line as).1 ++ (splitLines sep (splitLines sep line as).2 bs).1,
        (splitLines sep (splitLines sep line as).2 bs).2) := by
  induction as generalizing line with
  | nil => rfl
  | cons a as ih =>
    simp only [List.cons_append, splitLines]
    split
    · rw [ih]
      rfl
    · exact ih _

theorem splitLines_of_notMem {as : List α} (has : sep ∉ as) (line : List α) :
    splitLines sep line as = ([], line ++ as) := by
  induction as generalizing line with
  | nil => rw [List.append_nil]; rfl
  | cons a as ih =>
    rw [List.mem_cons, not_or] at has
    rw [splitLines, if_neg (Ne.symm has.1), ih has.2, List.append_assoc]
    rfl

/-- The line that has begun is at the end of the stream and holds no separator. -/
theorem splitLines_snd {line : List α} (hline : sep ∉ line) (as : List α) :
    (splitLines sep line as).2 <:+ line ++ as ∧ sep ∉ (splitLines sep line as).2 := by
  induction as generalizing line with
  | nil => exact ⟨by simp [splitLines], hline⟩
  | cons a as ih =>
    rw [splitLines]
    split
    · obtain ⟨hsuffix, hsep⟩ := ih List.not_mem_nil
      refine ⟨hsuffix.trans ?_, hsep⟩
      exact ⟨line ++ [a], by simp⟩
    · rename_i ha
      have hnew : sep ∉ line ++ [a] := by
        rw [List.mem_append, List.mem_singleton, not_or]
        exact ⟨hline, fun h => ha h.symm⟩
      simpa using ih hnew

/-- The complete lines lie in the stream and hold no separator. -/
theorem splitLines_fst {line : List α} (hline : sep ∉ line) {as l : List α}
    (hl : l ∈ (splitLines sep line as).1) : l <:+: line ++ as ∧ sep ∉ l := by
  induction as generalizing line with
  | nil => exact absurd hl (by simp [splitLines])
  | cons a as ih =>
    rw [splitLines] at hl
    split at hl
    · rcases List.mem_cons.mp hl with rfl | hl
      · exact ⟨(List.prefix_append l _).isInfix, hline⟩
      · obtain ⟨hwithin, hsep⟩ := ih List.not_mem_nil hl
        refine ⟨hwithin.trans ?_, hsep⟩
        exact ⟨line ++ [a], [], by simp⟩
    · rename_i ha
      have hnew : sep ∉ line ++ [a] := by
        rw [List.mem_append, List.mem_singleton, not_or]
        exact ⟨hline, fun h => ha h.symm⟩
      simpa using ih hnew hl

omit [DecidableEq α] in
/-- No line is longer than `bound`. -/
def LinesFit (bound : Nat) (stream : List α) : Prop :=
  ∀ part, part <:+: stream → sep ∉ part → part.length ≤ bound

variable {sep} {bound : Nat}

omit [DecidableEq α] in
theorem LinesFit.of_append {as bs : List α} (h : LinesFit sep bound (as ++ bs)) :
    LinesFit sep bound as :=
  fun part hpart hsep => h part (hpart.trans (List.prefix_append as bs).isInfix) hsep

omit [DecidableEq α] in
/-- A stream that is no longer than a line. -/
theorem LinesFit.of_length_le {stream : List α} (h : stream.length ≤ bound) :
    LinesFit sep bound stream :=
  fun _ hpart _ => hpart.length_le.trans h

/-- There is room for the next byte of the line that has begun. -/
theorem LinesFit.room {as bs : List α} {a : α} (h : LinesFit sep bound (as ++ a :: bs))
    (ha : a ≠ sep) : (splitLines sep [] as).2.length < bound := by
  obtain ⟨hsuffix, hsep⟩ := splitLines_snd sep List.not_mem_nil as
  have hpart : (splitLines sep [] as).2 ++ [a] <:+: as ++ a :: bs := by
    obtain ⟨start, hstart⟩ := hsuffix
    rw [List.nil_append] at hstart
    exact ⟨start, bs, by rw [← List.append_assoc, hstart, List.append_assoc]; rfl⟩
  have hlength := h _ hpart (by
    rw [List.mem_append, List.mem_singleton, not_or]
    exact ⟨hsep, ha.symm⟩)
  rw [List.length_append, List.length_singleton] at hlength
  omega

/-! ## Streams of whole lines -/

/-- A line: its text, which holds no separator. -/
structure Line {α : Type*} (sep : α) where
  text : List α
  whole : sep ∉ text

namespace Line

omit [DecidableEq α]

/-- The line with the separator that ends it. -/
def toList (line : Line sep) : List α := line.text ++ [sep]

theorem length_toList (line : Line sep) : line.toList.length = line.text.length + 1 := by
  simp [toList]

/-- A proper first part of a line holds no separator. -/
theorem sep_notMem_take (line : Line sep) {k : Nat} (hk : k < line.toList.length) :
    sep ∉ line.toList.take k := by
  rw [length_toList] at hk
  rw [toList, List.take_append_of_le_length (by omega)]
  exact fun h => line.whole (List.mem_of_mem_take h)

end Line

section Whole

omit [DecidableEq α]

/-- `stream` is empty or stops at the end of a line. -/
def Ended (sep : α) (stream : List α) : Prop := ∀ a ∈ stream.getLast?, a = sep

/-- `stream` consists of some of `lines`, each whole and in their order. -/
def MadeOf (lines : List (Line sep)) (stream : List α) : Prop :=
  ∃ kept, List.Sublist kept lines ∧ stream = kept.flatMap Line.toList

theorem Ended.append {as bs : List α} (has : Ended sep as) (hbs : Ended sep bs) :
    Ended sep (as ++ bs) := by
  intro a ha
  rw [List.getLast?_append, Option.mem_def, Option.or_eq_some_iff] at ha
  rcases ha with ha | ⟨-, ha⟩
  · exact hbs a ha
  · exact has a ha

theorem Ended.flatMap (lines : List (Line sep)) : Ended sep (lines.flatMap Line.toList) := by
  induction lines with
  | nil => simp [Ended]
  | cons line lines ih =>
    rw [List.flatMap_cons]
    apply Ended.append _ ih
    simp [Ended, Line.toList]

/-- What begins no line ends none. -/
theorem not_ended_append {as part : List α} (hne : part ≠ []) (hsep : sep ∉ part) :
    ¬ Ended sep (as ++ part) := by
  intro h
  have hlast := h (part.getLast hne) (by
    rw [List.getLast?_append, List.getLast?_eq_some_getLast hne]
    rfl)
  exact hsep (hlast ▸ List.getLast_mem hne)

/-- Whole lines up to an end of a line are whole lines. -/
theorem exists_prefix_of_ended {kept : List (Line sep)} {as bs : List α}
    (h : as ++ bs = kept.flatMap Line.toList) (has : Ended sep as) :
    ∃ first, first <+: kept ∧ as = first.flatMap Line.toList := by
  induction kept generalizing as with
  | nil =>
    obtain ⟨rfl, -⟩ := List.append_eq_nil_iff.mp h
    exact ⟨[], List.nil_prefix, rfl⟩
  | cons line kept ih =>
    rw [List.flatMap_cons] at h
    rcases List.append_eq_append_iff.mp h with ⟨rest, hline, -⟩ | ⟨rest, hmore, hrest⟩
    · -- the stream stops within the first line: before it, or at its end
      by_cases hrest : rest = []
      · subst hrest
        rw [List.append_nil] at hline
        exact ⟨[line], by simp, by simp [hline]⟩
      · by_cases hempty : as = []
        · exact ⟨[], List.nil_prefix, hempty⟩
        · have hlength : as.length < line.toList.length := by
            rw [hline, List.length_append]
            have := List.length_pos_iff.mpr hrest
            omega
          have hpart : line.toList.take as.length = as := by
            rw [hline, List.take_left]
          have hsep := line.sep_notMem_take hlength
          rw [hpart] at hsep
          have hnot : ¬ Ended sep ([] ++ as) := not_ended_append hempty hsep
          exact absurd has hnot
    · have hended : Ended sep rest := by
        intro a ha
        apply has a
        rw [hmore, List.getLast?_append, Option.mem_def.mp ha]
        rfl
      obtain ⟨first, hfirst, rfl⟩ := ih hrest.symm hended
      exact ⟨line :: first, List.cons_prefix_cons.mpr ⟨rfl, hfirst⟩, hmore⟩

namespace MadeOf

variable {lines : List (Line sep)} {stream : List α}

theorem nil (lines : List (Line sep)) : MadeOf lines [] := ⟨[], List.nil_sublist lines, rfl⟩

theorem ended (h : MadeOf lines stream) : Ended sep stream := by
  obtain ⟨kept, -, rfl⟩ := h
  exact .flatMap kept

/-- A line that is left out. -/
theorem skip (h : MadeOf lines stream) (line : Line sep) : MadeOf (lines ++ [line]) stream := by
  obtain ⟨kept, hkept, rfl⟩ := h
  exact ⟨kept, hkept.trans (List.sublist_append_left lines [line]), rfl⟩

/-- A line that follows whole. -/
theorem append (h : MadeOf lines stream) (line : Line sep) :
    MadeOf (lines ++ [line]) (stream ++ line.toList) := by
  obtain ⟨kept, hkept, rfl⟩ := h
  refine ⟨kept ++ [line], hkept.append (List.Sublist.refl [line]), ?_⟩
  simp [List.flatMap_append]

/-- The stream up to an end of a line. -/
theorem of_ended {as bs : List α} (h : MadeOf lines (as ++ bs)) (has : Ended sep as) :
    MadeOf lines as := by
  obtain ⟨kept, hkept, heq⟩ := h
  obtain ⟨first, hfirst, rfl⟩ := exists_prefix_of_ended heq has
  exact ⟨first, hfirst.sublist.trans hkept, rfl⟩

end MadeOf

end Whole

/-! ## Lines with their ends -/

variable (sep) in
/-- The lines of a stream, each with the separator that ends it; the last may have none. -/
def keepEnds (stream : List α) : List (List α) :=
  (splitLines sep [] stream).1.map (· ++ [sep]) ++
    if (splitLines sep [] stream).2 = [] then [] else [(splitLines sep [] stream).2]

theorem splitLines_flatten {texts : List (List α)} (htexts : ∀ text ∈ texts, sep ∉ text)
    {rest : List α} (hrest : sep ∉ rest) :
    splitLines sep [] ((texts.map (· ++ [sep])).flatten ++ rest) = (texts, rest) := by
  induction texts with
  | nil => simp [splitLines_of_notMem sep hrest]
  | cons text texts ih =>
    rw [List.forall_mem_cons] at htexts
    have hfirst : splitLines sep [] (text ++ [sep]) = ([text], []) := by
      simp [splitLines_append, splitLines_of_notMem sep htexts.1, splitLines]
    rw [List.map_cons, List.flatten_cons, List.append_assoc, splitLines_append, hfirst,
      ih htexts.2]
    rfl

variable (sep) in
theorem splitLines_eq (line stream : List α) :
    line ++ stream = ((splitLines sep line stream).1.map (· ++ [sep])).flatten ++
      (splitLines sep line stream).2 := by
  induction stream generalizing line with
  | nil => simp [splitLines]
  | cons a stream ih =>
    rw [splitLines]
    split
    · rename_i ha
      have hrest := ih []
      rw [List.nil_append] at hrest
      rw [List.map_cons, List.flatten_cons, List.append_assoc, ← hrest, ha]
      simp
    · rw [← ih, List.append_assoc]
      rfl

variable (sep) in
/-- The lines make up the stream. -/
theorem flatten_keepEnds (stream : List α) : (keepEnds sep stream).flatten = stream := by
  have hstream := splitLines_eq sep [] stream
  rw [keepEnds, List.flatten_append]
  split
  · rename_i hrest
    rw [hrest, List.nil_append] at hstream
    rw [List.flatten_nil]
    exact hstream.symm
  · rw [List.flatten_singleton]
    exact hstream.symm

theorem keepEnds_flatten {texts : List (List α)} (htexts : ∀ text ∈ texts, sep ∉ text)
    {rest : List α} (hrest : sep ∉ rest) :
    keepEnds sep ((texts.map (· ++ [sep])).flatten ++ rest) =
      texts.map (· ++ [sep]) ++ if rest = [] then [] else [rest] := by
  rw [keepEnds, splitLines_flatten htexts hrest]

variable (sep) in
theorem notMem_splitLines (stream : List α) :
    (∀ text ∈ (splitLines sep [] stream).1, sep ∉ text) ∧ sep ∉ (splitLines sep [] stream).2 :=
  ⟨fun _ htext => (splitLines_fst sep List.not_mem_nil htext).2,
    (splitLines_snd sep List.not_mem_nil stream).2⟩

variable (sep) in
theorem length_keepEnds (stream : List α) : (keepEnds sep stream).length =
    (splitLines sep [] stream).1.length + if (splitLines sep [] stream).2 = [] then 0 else 1 := by
  rw [keepEnds, List.length_append, List.length_map]
  split <;> rfl

/-- A line that is inserted behind one that is ended leaves the lines before it and after
it as they are. -/
theorem keepEnds_insert {stream text : List α} (htext : sep ∉ text) {i : Nat}
    (hi : i ≤ (splitLines sep [] stream).1.length) :
    keepEnds sep ((keepEnds sep stream).take i ++ (text ++ [sep]) ::
        (keepEnds sep stream).drop i).flatten =
      (keepEnds sep stream).take i ++ (text ++ [sep]) :: (keepEnds sep stream).drop i := by
  obtain ⟨htexts, hrest⟩ := notMem_splitLines sep stream
  have hkeep : keepEnds sep stream = (splitLines sep [] stream).1.map (· ++ [sep]) ++
      if (splitLines sep [] stream).2 = [] then [] else [(splitLines sep [] stream).2] := rfl
  rw [hkeep]
  generalize (splitLines sep [] stream).1 = texts at hi htexts
  generalize (splitLines sep [] stream).2 = rest at hrest
  have hlines : (texts.map (· ++ [sep]) ++ if rest = [] then [] else [rest]).take i ++
      (text ++ [sep]) :: (texts.map (· ++ [sep]) ++ if rest = [] then [] else [rest]).drop i =
        (texts.take i ++ text :: texts.drop i).map (· ++ [sep]) ++
          if rest = [] then [] else [rest] := by
    rw [List.take_append_of_le_length (by simpa using hi),
      List.drop_append_of_le_length (by simpa using hi)]
    simp
  have hall : ∀ t ∈ texts.take i ++ text :: texts.drop i, sep ∉ t := by
    intro t ht
    rcases List.mem_append.mp ht with ht | ht
    · exact htexts t (List.mem_of_mem_take ht)
    · rcases List.mem_cons.mp ht with rfl | ht
      · exact htext
      · exact htexts t (List.mem_of_mem_drop ht)
  have hflatten : (if rest = [] then [] else [rest] : List (List α)).flatten = rest := by
    split
    · rename_i hnil
      exact hnil.symm
    · exact List.flatten_singleton
  rw [hlines, List.flatten_append, hflatten, keepEnds_flatten hall hrest]

/-- Of the lines only the last may have no end. -/
theorem getLast?_keepEnds {stream line : List α} {i : Nat}
    (hline : (keepEnds sep stream)[i]? = some line) :
    line.getLast? = some sep ↔ i < (splitLines sep [] stream).1.length := by
  rcases Nat.lt_or_ge i (splitLines sep [] stream).1.length with hi | hi
  · rw [keepEnds, List.getElem?_append_left (by simpa using hi), List.getElem?_map,
      Option.map_eq_some_iff] at hline
    obtain ⟨text, -, rfl⟩ := hline
    simp [hi]
  · have hrest := (notMem_splitLines sep stream).2
    rw [keepEnds, List.getElem?_append_right (by simpa using hi)] at hline
    have hmem := List.mem_of_getElem? hline
    split at hmem
    · exact absurd hmem List.not_mem_nil
    · rw [List.mem_singleton] at hmem
      subst hmem
      refine iff_of_false (fun hlast => hrest (List.mem_of_getLast? hlast)) (by omega)

/-- Behind a line without an end no line begins. -/
theorem length_keepEnds_append {stream text : List α} (htext : sep ∉ text)
    (hrest : (splitLines sep [] stream).2 ≠ []) :
    (keepEnds sep (stream ++ (text ++ [sep]))).length = (keepEnds sep stream).length := by
  have hglued : splitLines sep (splitLines sep [] stream).2 (text ++ [sep]) =
      ([(splitLines sep [] stream).2 ++ text], []) := by
    simp [splitLines_append, splitLines_of_notMem sep htext, splitLines]
  simp [keepEnds, splitLines_append, hglued, hrest]

end Lines
