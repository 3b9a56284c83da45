-- SUMMARY: The tool that inserts an RMC sentence into a flight log, and for which logs it changes nothing else.
import TempoBt.App.LogFields
import TempoBt.Lib.CString
import TempoBt.Lib.PythonText
import TempoBt.Lib.Scanf
import TempoBt.Util.NmeaChecksum

/-!
# RMC patches

`patch_rmc.py` looks for the first VTG, GGA and PTH lines that follow each other, and
inserts an RMC sentence behind them. The command line and the log are ASCII texts; the
operations on the two files do not fail.
-/

namespace TempoBt.PatchRmc

open Bytes CString Lines PythonText

/-! ## Sentences -/

/-- `parse_gga`, with the fields that are used. -/
structure GgaFields where
  utc : Bytes
  lat : Bytes
  latDir : Bytes
  lon : Bytes
  lonDir : Bytes
  quality : Bytes

/-- `parse_vtg`, with the fields that are used. -/
structure VtgFields where
  trackTrue : Bytes
  speedKn : Bytes

/-- The fields of a GGA sentence; `none` is an `IndexError`. -/
def parseGga (sentence : Bytes) : Option GgaFields :=
  match sentence.splitOn comma with
  | _ :: utc :: lat :: latDir :: lon :: lonDir :: quality :: _ =>
    some { utc, lat, latDir, lon, lonDir, quality }
  | _ => none

/-- The fields of a VTG sentence without its checksum; `none` is an `IndexError`. -/
def parseVtg (sentence : Bytes) : Option VtgFields :=
  match (sentence.takeWhile (· != star)).splitOn comma with
  | _ :: trackTrue :: _ :: _ :: _ :: speedKn :: _ => some { trackTrue, speedKn }
  | _ => none

def fixQualityToMode (quality : Bytes) : Bytes :=
  if quality = ascii "0" then ascii "N"
  else if quality = ascii "1" then ascii "A"
  else if quality = ascii "2" then ascii "D"
  else if quality = ascii "4" then ascii "R"
  else if quality = ascii "5" then ascii "F"
  else if quality = ascii "6" then ascii "E"
  else ascii "A"

/-- The body of an RMC sentence, between `$` and the checksum. -/
def rmcBody (dateDdmmyy : Bytes) (gga : GgaFields) (vtg : VtgFields) : Bytes :=
  [comma].intercalate
    [ascii "GNRMC", gga.utc, ascii "A", gga.lat, gga.latDir, gga.lon, gga.lonDir, vtg.speedKn,
      vtg.trackTrue, dateDdmmyy, [], [], fixQualityToMode gga.quality]

def buildRmc (dateDdmmyy : Bytes) (gga : GgaFields) (vtg : VtgFields) : Bytes :=
  let body := rmcBody dateDdmmyy gga vtg
  dollar :: body ++ star :: hex2 (xorSum body)

/-- The fields that are taken over from the GGA line. -/
def GgaFields.taken (gga : GgaFields) : List Bytes :=
  [gga.utc, gga.lat, gga.latDir, gga.lon, gga.lonDir]

/-! ## The scan -/

def isVtg (text : Bytes) : Bool :=
  startsWith (ascii "$GNVTG,") text || startsWith (ascii "$GPVTG,") text

def isGga (text : Bytes) : Bool :=
  startsWith (ascii "$GNGGA,") text || startsWith (ascii "$GPGGA,") text

def isPth (text : Bytes) : Bool := startsWith (ascii "$PTH,") text

/-- What the scan finds. -/
structure Triplet where
  vtg : VtgFields
  gga : GgaFields
  insertIndex : Nat

/-- The loop of `main` from line `i` on: the first triplet, or none; the outer `none` is an
`IndexError` on the way. -/
def scanTriplet : Nat → List Bytes → Option (Option Triplet)
  | _, [] => some none
  | i, line :: lines =>
    if isVtg (stripEol line) then
      match parseVtg (stripEol line) with
      | none => none
      | some vtg =>
        match lines with
        | [] => scanTriplet (i + 1) lines
        | nextLine :: rest =>
          if isGga (stripEol nextLine) then
            match parseGga (stripEol nextLine) with
            | none => none
            | some gga =>
              if rest.head?.any fun pthLine => isPth (stripEol pthLine) then
                some (some { vtg, gga, insertIndex := i + 3 })
              else scanTriplet (i + 1) lines
          else scanTriplet (i + 1) lines
    else scanTriplet (i + 1) lines

/-- Whether a line near the insertion point holds an RMC sentence. -/
def rmcNearby (lines : List Bytes) (insertIndex : Nat) : Bool :=
  ((lines.take (insertIndex + 2)).drop (insertIndex - 4)).any fun line =>
    strstr line (ascii "$GNRMC,") || strstr line (ascii "$GPRMC,")

/-! ## `main` -/

/-- The log and its backup. -/
structure PatchFiles where
  log : Option Bytes
  backup : Option Bytes

/-- How `main` ends. -/
inductive PatchEnd where
  | usage
  | badDate
  | raised
  | noTriplet
  | rmcPresent
  | inserted

/-- The date argument as DDMMYY. The pattern lets a line feed stand behind the date. -/
def dateDdmmyy (dateStr : Bytes) : Option Bytes :=
  match (if dateStr.getLast? = some lineFeed then dateStr.dropLast else dateStr) with
  | [y₁, y₂, y₃, y₄, 45, m₁, m₂, 45, d₁, d₂] =>
    if [y₁, y₂, y₃, y₄, m₁, m₂, d₁, d₂].all isDecimal then some [d₁, d₂, m₁, m₂, y₃, y₄] else none
  | _ => none

/-- The line end of the first line. -/
def lineEnd (lines : List Bytes) : Bytes :=
  if lines.head?.any fun line => [carriageReturn, lineFeed].isSuffixOf line then
    [carriageReturn, lineFeed]
  else [lineFeed]

def patchMain (argv : List Bytes) (files : PatchFiles) : PatchFiles × PatchEnd :=
  match argv with
  | [_, dateStr, _] =>
    match dateDdmmyy dateStr with
    | none => (files, .badDate)
    | some date =>
      match files.log with
      | none => (files, .raised)
      | some log =>
        let lines := readlines log
        match scanTriplet 0 lines with
        | none => (files, .raised)
        | some none => (files, .noTriplet)
        | some (some t) =>
          if rmcNearby lines t.insertIndex then (files, .rmcPresent)
          else
            let lines := lines.take t.insertIndex ++
              (buildRmc date t.gga t.vtg ++ lineEnd lines) :: lines.drop t.insertIndex
            -- the backup is the old file, renamed
            ({ log := some lines.flatten, backup := some log }, .inserted)
  | _ => (files, .usage)

/-! ## The purpose -/

def IsAscii (text : Bytes) : Prop := ∀ b ∈ text, b < 128

/-- A call of the tool. -/
structure PatchCall where
  argv : List Bytes
  files : PatchFiles
  argv_ascii : ∀ arg ∈ argv, IsAscii arg
  log_ascii : ∀ log ∈ files.log, IsAscii log

/-- A VTG, a GGA and a PTH line follow each other from line `i` on. -/
def TripletAt (lines : List Bytes) (i : Nat) : Prop :=
  ∃ vtg gga pth rest, lines.drop i = vtg :: gga :: pth :: rest ∧
    isVtg (stripEol vtg) = true ∧ isGga (stripEol gga) = true ∧ isPth (stripEol pth) = true

/-- The first such lines. -/
def FirstTriplet (lines : List Bytes) (i : Nat) : Prop :=
  TripletAt lines i ∧ ∀ j < i, ¬ TripletAt lines j

/-- An RMC sentence with a correct checksum. -/
def IsRmc (sentence : Bytes) : Prop :=
  ∃ body, startsWith (ascii "GNRMC,") body = true ∧ star ∉ body ∧
    sentence = dollar :: body ++ star :: hex2 (xorSum body)

/-- The new log has the lines of the old one, each with the line end that it had, and one
RMC line in the style of the log behind the first triplet. -/
def InsertsRmc (log new : Bytes) : Prop :=
  ∃ i rmc, FirstTriplet (ownLines [] log) i ∧ IsRmc rmc ∧
    ownLines [] new = (ownLines [] log).take (i + 3) ++
      (rmc ++ lineEnd (ownLines [] log)) :: (ownLines [] log).drop (i + 3)

namespace PatchCall

def outcome (c : PatchCall) : PatchFiles × PatchEnd := patchMain c.argv c.files

/-- The files are left as they are, or the log gets an RMC line and the backup holds what
the log was. -/
def InsertsOnly (c : PatchCall) : Prop :=
  c.outcome.1 = c.files ∨
    ∃ log new, c.files.log = some log ∧ c.outcome.1 = ⟨some new, some log⟩ ∧ InsertsRmc log new

/-- A log into which the tool would insert has no `'\r'`, an end at the PTH line, and no
`*` in the fields that are taken over from the GGA line. -/
def Insertable (c : PatchCall) : Prop :=
  ∀ prog dateStr path date log t, c.argv = [prog, dateStr, path] →
    dateDdmmyy dateStr = some date → c.files.log = some log →
    scanTriplet 0 (readlines log) = some (some t) →
    rmcNearby (readlines log) t.insertIndex = false →
      carriageReturn ∉ log ∧
      (∀ line, (readlines log)[t.insertIndex - 1]? = some line → line.getLast? = some lineFeed) ∧
      ∀ field ∈ t.gga.taken, star ∉ field

end PatchCall

/-! ## What the scan finds -/

theorem tripletAt_zero_iff {line : Bytes} {lines : List Bytes} :
    TripletAt (line :: lines) 0 ↔ isVtg (stripEol line) = true ∧
      ∃ gga pth rest, lines = gga :: pth :: rest ∧ isGga (stripEol gga) = true ∧
        isPth (stripEol pth) = true := by
  constructor
  · rintro ⟨vtg, gga, pth, rest, heq, hvtg, hgga, hpth⟩
    obtain ⟨rfl, rfl⟩ := List.cons.inj heq
    exact ⟨hvtg, gga, pth, rest, rfl, hgga, hpth⟩
  · rintro ⟨hvtg, gga, pth, rest, rfl, hgga, hpth⟩
    exact ⟨line, gga, pth, rest, rfl, hvtg, hgga, hpth⟩

theorem FirstTriplet.cons {line : Bytes} {lines : List Bytes} {i : Nat}
    (h : FirstTriplet lines i) (hline : ¬ TripletAt (line :: lines) 0) :
    FirstTriplet (line :: lines) (i + 1) := by
  refine ⟨h.1, fun j hj => ?_⟩
  cases j with
  | zero => exact hline
  | succ j => exact h.2 j (Nat.lt_of_succ_lt_succ hj)

theorem FirstTriplet.unique {lines : List Bytes} {i j : Nat} (hi : FirstTriplet lines i)
    (hj : FirstTriplet lines j) : i = j := by
  rcases Nat.lt_trichotomy i j with hlt | heq | hgt
  · exact absurd hi.1 (hj.2 i hlt)
  · exact heq
  · exact absurd hj.1 (hi.2 j hgt)

theorem TripletAt.le_length {lines : List Bytes} {i : Nat} (h : TripletAt lines i) :
    i + 3 ≤ lines.length := by
  obtain ⟨vtg, gga, pth, rest, heq, -⟩ := h
  have hlength := congrArg List.length heq
  simp only [List.length_drop, List.length_cons] at hlength
  omega

/-- What is inserted takes no `'\r'` away. -/
theorem InsertsRmc.carriageReturn_notMem {log new : Bytes} (h : InsertsRmc log new)
    (hnew : carriageReturn ∉ new) : carriageReturn ∉ log := by
  obtain ⟨i, rmc, -, -, hlines⟩ := h
  have hnew' := flatten_ownLines [] new
  have hold := flatten_ownLines [] log
  rw [hlines, List.flatten_append, List.flatten_cons, List.nil_append] at hnew'
  rw [← List.take_append_drop (i + 3) (ownLines [] log), List.flatten_append,
    List.nil_append] at hold
  intro hcr
  rw [← hold] at hcr
  rw [← hnew'] at hnew
  refine hnew ?_
  rcases List.mem_append.mp hcr with hcr | hcr
  · exact List.mem_append_left _ hcr
  · exact List.mem_append_right _ (List.mem_append_right _ hcr)

/-- The triplet stands at the head of the lines or is found behind it. -/
theorem scanTriplet_cons {i : Nat} {line : Bytes} {lines : List Bytes} {t : Triplet}
    (h : scanTriplet i (line :: lines) = some (some t)) :
    (TripletAt (line :: lines) 0 ∧ t.insertIndex = i + 3 ∧ parseVtg (stripEol line) = some t.vtg ∧
        ∃ gga ∈ lines, parseGga (stripEol gga) = some t.gga) ∨
      (¬ TripletAt (line :: lines) 0 ∧ scanTriplet (i + 1) lines = some (some t)) := by
  rw [tripletAt_zero_iff]
  rw [scanTriplet] at h
  split at h
  · rename_i hvtg
    split at h
    · cases h
    · rename_i vtg hparse
      split at h
      · exact .inr ⟨by simp, h⟩
      · rename_i nextLine rest
        split at h
        · rename_i hgga
          split at h
          · cases h
          · rename_i gga hgga'
            split at h
            · rename_i hpth
              obtain rfl := Option.some.inj (Option.some.inj h)
              cases rest with
              | nil => cases hpth
              | cons pth rest =>
                exact .inl ⟨⟨hvtg, nextLine, pth, rest, rfl, hgga, hpth⟩, rfl, hparse,
                  nextLine, List.mem_cons_self, hgga'⟩
            · rename_i hpth
              refine .inr ⟨?_, h⟩
              rintro ⟨-, gga', pth, rest', heq, -, hpth'⟩
              obtain ⟨rfl, rfl⟩ := List.cons.inj heq
              exact hpth hpth'
        · rename_i hgga
          refine .inr ⟨?_, h⟩
          rintro ⟨-, gga', pth, rest', heq, hgga', -⟩
          obtain ⟨rfl, rfl⟩ := List.cons.inj heq
          exact hgga hgga'
  · rename_i hvtg
    exact .inr ⟨fun htriplet => hvtg htriplet.1, h⟩

/-- The scan finds the first triplet, with the fields of its lines. -/
theorem scanTriplet_first {i : Nat} {lines : List Bytes} {t : Triplet}
    (h : scanTriplet i lines = some (some t)) :
    (∃ k, FirstTriplet lines k ∧ t.insertIndex = i + k + 3) ∧
      (∃ vtg ∈ lines, parseVtg (stripEol vtg) = some t.vtg) ∧
      ∃ gga ∈ lines, parseGga (stripEol gga) = some t.gga := by
  induction lines generalizing i with
  | nil => cases h
  | cons line lines ih =>
    rcases scanTriplet_cons h with ⟨hfirst, hindex, hvtg, gga, hmem, hgga⟩ | ⟨hnone, hrest⟩
    · refine ⟨⟨0, ⟨hfirst, by simp⟩, hindex⟩, ⟨line, List.mem_cons_self, hvtg⟩, gga, ?_, hgga⟩
      exact List.mem_cons_of_mem _ hmem
    · obtain ⟨⟨k, hk, hindex⟩, ⟨vtg, hvtg, hvtg'⟩, gga, hgga, hgga'⟩ := ih hrest
      refine ⟨⟨k + 1, hk.cons hnone, ?_⟩, ⟨vtg, List.mem_cons_of_mem _ hvtg, hvtg'⟩, gga,
        List.mem_cons_of_mem _ hgga, hgga'⟩
      rw [hindex]
      omega

/-! ## The sentence -/

section Sentence

variable {P : UInt8 → Prop} {sentence : Bytes}

theorem parseGga_forall {gga : GgaFields} (h : parseGga sentence = some gga)
    (hP : ∀ b ∈ sentence, P b) : ∀ field ∈ gga.taken, ∀ b ∈ field, P b := by
  unfold parseGga at h
  split at h
  · rename_i hsplit
    obtain rfl := Option.some.inj h
    have hfields : ∀ field ∈ sentence.splitOn comma, ∀ b ∈ field, P b :=
      fun field hfield b hb => hP b (mem_of_mem_splitOn hfield hb)
    rw [hsplit] at hfields
    simp only [List.forall_mem_cons] at hfields
    simp only [GgaFields.taken, List.forall_mem_cons]
    exact ⟨hfields.2.1, hfields.2.2.1, hfields.2.2.2.1, hfields.2.2.2.2.1, hfields.2.2.2.2.2.1,
      by simp⟩
  · cases h

theorem parseVtg_forall {vtg : VtgFields} (h : parseVtg sentence = some vtg)
    (hP : ∀ b ∈ sentence, b ≠ star → P b) :
    (∀ b ∈ vtg.speedKn, P b) ∧ ∀ b ∈ vtg.trackTrue, P b := by
  unfold parseVtg at h
  split at h
  · rename_i hsplit
    obtain rfl := Option.some.inj h
    have hfields : ∀ field ∈ (sentence.takeWhile (· != star)).splitOn comma,
        ∀ b ∈ field, P b := by
      intro field hfield b hb
      have hmem := mem_of_mem_splitOn hfield hb
      exact hP b (List.takeWhile_subset _ hmem) (by simpa using List.mem_takeWhile_imp hmem)
    rw [hsplit] at hfields
    simp only [List.forall_mem_cons] at hfields
    exact ⟨hfields.2.2.2.2.2.1, hfields.2.1⟩
  · cases h

theorem dateDdmmyy_forall {dateStr date : Bytes} (h : dateDdmmyy dateStr = some date) :
    ∀ b ∈ date, isDecimal b = true := by
  unfold dateDdmmyy at h
  split at h
  · split at h
    · rename_i hdigits
      obtain rfl := Option.some.inj h
      simp only [List.all_cons, List.all_nil, Bool.and_true, Bool.and_eq_true] at hdigits
      simp only [List.forall_mem_cons]
      exact ⟨hdigits.2.2.2.2.2.2.1, hdigits.2.2.2.2.2.2.2, hdigits.2.2.2.2.1,
        hdigits.2.2.2.2.2.1, hdigits.2.2.1, hdigits.2.2.2.1, by simp⟩
    · cases h
  · cases h

variable {date : Bytes} {gga : GgaFields} {vtg : VtgFields}

theorem fixQualityToMode_subset (quality : Bytes) :
    ∀ b ∈ fixQualityToMode quality, b ∈ ascii "GNRMC,ADFENR" := by
  unfold fixQualityToMode
  repeat' split
  all_goals exact forall_of_all (by decide)

/-- What holds of the characters of a body: of those that `rmcBody` puts in, and of those
of the fields. -/
theorem rmcBody_forall (hfixed : ∀ b ∈ ascii "GNRMC,ADFENR", P b) (hdate : ∀ b ∈ date, P b)
    (hgga : ∀ field ∈ gga.taken, ∀ b ∈ field, P b)
    (hvtg : (∀ b ∈ vtg.speedKn, P b) ∧ ∀ b ∈ vtg.trackTrue, P b) :
    ∀ b ∈ rmcBody date gga vtg, P b := by
  have htext (text : Bytes) (hsubset : ∀ b ∈ text, b ∈ ascii "GNRMC,ADFENR") :
      ∀ b ∈ text, P b := fun b hb => hfixed b (hsubset b hb)
  simp only [GgaFields.taken, List.forall_mem_cons] at hgga
  obtain ⟨hutc, hlat, hlatDir, hlon, hlonDir, -⟩ := hgga
  have hall : ∀ field ∈ [ascii "GNRMC", gga.utc, ascii "A", gga.lat, gga.latDir, gga.lon,
      gga.lonDir, vtg.speedKn, vtg.trackTrue, date, [], [], fixQualityToMode gga.quality],
      ∀ b ∈ field, P b := by
    simp only [List.forall_mem_cons]
    exact ⟨htext _ (forall_of_all (by decide)), hutc, htext _ (forall_of_all (by decide)), hlat,
      hlatDir, hlon, hlonDir, hvtg.1, hvtg.2, hdate, by simp, by simp,
      htext _ (fixQualityToMode_subset _), by simp⟩
  intro b hb
  rcases mem_intercalate hb with rfl | ⟨field, hfield, hb⟩
  · exact hfixed comma (by decide)
  · exact hall field hfield b hb

/-- The body has a `*` exactly if a field of the GGA line brings one. -/
theorem star_notMem_rmcBody (hdate : star ∉ date)
    (hvtg : star ∉ vtg.speedKn ∧ star ∉ vtg.trackTrue) :
    star ∉ rmcBody date gga vtg ↔ ∀ field ∈ gga.taken, star ∉ field := by
  have hne (text : Bytes) (htext : star ∉ text) : ∀ b ∈ text, b ≠ star := by
    rintro b hb rfl
    exact htext hb
  constructor
  · intro hbody field hfield hstar
    refine hbody (mem_intercalate_of_mem ?_ hstar)
    simp only [GgaFields.taken, List.mem_cons, List.not_mem_nil, or_false] at hfield
    rcases hfield with rfl | rfl | rfl | rfl | rfl <;> simp
  · intro hfields hstar
    exact rmcBody_forall (P := (· ≠ star)) (forall_of_all (by decide)) (hne _ hdate)
      (fun field hfield => hne _ (hfields field hfield)) ⟨hne _ hvtg.1, hne _ hvtg.2⟩ star hstar rfl

/-- The sentence is an RMC sentence with a correct checksum exactly if its body has no `*`. -/
theorem isRmc_buildRmc : IsRmc (buildRmc date gga vtg) ↔ star ∉ rmcBody date gga vtg := by
  constructor
  · rintro ⟨body, -, hstar, heq⟩
    have hsame : rmcBody date gga vtg ++ star :: hex2 (xorSum (rmcBody date gga vtg)) =
        body ++ star :: hex2 (xorSum body) := List.cons.inj heq |>.2
    obtain ⟨rfl, -⟩ := List.append_inj' hsame rfl
    exact hstar
  · intro hstar
    refine ⟨_, ?_, hstar, rfl⟩
    rw [startsWith_iff, rmcBody, List.intercalate_cons_cons]
    exact ⟨_, rfl⟩

end Sentence

/-! ## The new log -/

section Patched

variable {log date dateStr : Bytes} {t : Triplet}

/-- The log that `main` writes. -/
def patched (log date : Bytes) (t : Triplet) : Bytes :=
  ((readlines log).take t.insertIndex ++
    (buildRmc date t.gga t.vtg ++ lineEnd (readlines log)) ::
      (readlines log).drop t.insertIndex).flatten

theorem lineEnd_readlines (log : Bytes) : lineEnd (readlines log) = [lineFeed] := by
  cases hlines : readlines log with
  | nil => rfl
  | cons line lines =>
    have hcr : carriageReturn ∉ line :=
      carriageReturn_notMem_readlines (hlines ▸ List.mem_cons_self)
    have hsuffix : [carriageReturn, lineFeed].isSuffixOf line = false := by
      rw [Bool.eq_false_iff]
      intro hsuffix
      exact hcr ((List.isSuffixOf_iff_suffix.mp hsuffix).mem List.mem_cons_self)
    rw [lineEnd, List.head?_cons, Option.any_some, hsuffix]
    rfl

theorem ne_lineEnd_of_le {b : UInt8} (h : 48 ≤ b.toNat) :
    b ≠ lineFeed ∧ b ≠ carriageReturn := by
  constructor
  · rintro rfl
    exact absurd h (by decide)
  · rintro rfl
    exact absurd h (by decide)

section Found

variable (hdate : dateDdmmyy dateStr = some date)
  (hscan : scanTriplet 0 (readlines log) = some (some t))

include hdate hscan

theorem star_notMem_rmcBody_found :
    star ∉ rmcBody date t.gga t.vtg ↔ ∀ field ∈ t.gga.taken, star ∉ field := by
  obtain ⟨-, ⟨vtg, -, hvtg⟩, -⟩ := scanTriplet_first hscan
  have hfields := parseVtg_forall (P := (· ≠ star)) hvtg fun b _ hb => hb
  refine star_notMem_rmcBody ?_ ⟨fun h => hfields.1 star h rfl, fun h => hfields.2 star h rfl⟩
  exact fun h => absurd (dateDdmmyy_forall hdate star h) (by decide)

/-- The sentence is on one line. -/
theorem lineEnd_notMem_buildRmc : lineFeed ∉ buildRmc date t.gga t.vtg ∧
    carriageReturn ∉ buildRmc date t.gga t.vtg := by
  obtain ⟨-, ⟨vtg, hvtg, hvtg'⟩, gga, hgga, hgga'⟩ := scanTriplet_first hscan
  have hstripped {line : Bytes} (hline : line ∈ readlines log) :
      ∀ b ∈ stripEol line, b ≠ lineFeed ∧ b ≠ carriageReturn := by
    obtain ⟨hlf, hcr⟩ := stripEol_readlines hline
    intro b hb
    refine ⟨?_, ?_⟩
    · rintro rfl
      exact hlf hb
    · rintro rfl
      exact hcr hb
  have hdigits : ∀ b ∈ date, b ≠ lineFeed ∧ b ≠ carriageReturn := by
    intro b hb
    have hdigit := dateDdmmyy_forall hdate b hb
    simp only [isDecimal, Bool.and_eq_true, decide_eq_true_eq] at hdigit
    exact ne_lineEnd_of_le (UInt8.le_iff_toNat_le.mp hdigit.1)
  have hbody := rmcBody_forall (P := fun b => b ≠ lineFeed ∧ b ≠ carriageReturn)
    (forall_of_all (by decide)) hdigits (parseGga_forall hgga' (hstripped hgga))
    (parseVtg_forall hvtg' fun b hb _ => hstripped hvtg b hb)
  have hall : ∀ b ∈ buildRmc date t.gga t.vtg, b ≠ lineFeed ∧ b ≠ carriageReturn := by
    intro b hb
    rcases List.mem_append.mp hb with hb | hb
    · rcases List.mem_cons.mp hb with rfl | hb
      · decide
      · exact hbody b hb
    · rcases List.mem_cons.mp hb with rfl | hb
      · decide
      · exact ne_lineEnd_of_le (le_of_mem_hex2 hb)
  exact ⟨fun h => (hall _ h).1 rfl, fun h => (hall _ h).2 rfl⟩

theorem carriageReturn_notMem_patched : carriageReturn ∉ patched log date t := by
  have hrmc := (lineEnd_notMem_buildRmc hdate hscan).2
  intro hcr
  obtain ⟨line, hline, hcr⟩ := List.mem_flatten.mp hcr
  rcases List.mem_append.mp hline with hline | hline
  · exact carriageReturn_notMem_readlines (List.mem_of_mem_take hline) hcr
  · rcases List.mem_cons.mp hline with rfl | hline
    · rw [lineEnd_readlines] at hcr
      rcases List.mem_append.mp hcr with hcr | hcr
      · exact hrmc hcr
      · exact absurd hcr (by decide)
    · exact carriageReturn_notMem_readlines (List.mem_of_mem_drop hline) hcr

/-- The new log is not the old one. -/
theorem patched_ne : patched log date t ≠ log := by
  intro heq
  have hcr := carriageReturn_notMem_patched hdate hscan
  rw [heq] at hcr
  have hlength := congrArg List.length heq
  have hlog := congrArg List.length (flatten_readlines log)
  rw [universalNewlines_of_notMem hcr] at hlog
  rw [← List.take_append_drop t.insertIndex (readlines log)] at hlog
  simp only [patched, lineEnd_readlines, List.flatten_append, List.flatten_cons,
    List.length_append, List.length_singleton] at hlength hlog
  omega

/-- Behind a PTH line that has an end the sentence is a line. -/
theorem ownLines_patched_of_ended (hcr : carriageReturn ∉ log) {line : Bytes}
    (hline : (readlines log)[t.insertIndex - 1]? = some line) (hpos : 0 < t.insertIndex)
    (hended : line.getLast? = some lineFeed) :
    ownLines [] (patched log date t) = (readlines log).take t.insertIndex ++
      (buildRmc date t.gga t.vtg ++ [lineFeed]) :: (readlines log).drop t.insertIndex := by
  have hcr' := carriageReturn_notMem_patched hdate hscan
  rw [ownLines_of_notMem hcr', readlines_of_notMem hcr', patched, lineEnd_readlines]
  rw [readlines_of_notMem hcr] at hline ⊢
  have hlt := (getLast?_keepEnds hline).mp hended
  exact keepEnds_insert (lineEnd_notMem_buildRmc hdate hscan).1 (by omega)

/-- Behind one that has none it is no line of its own. -/
theorem length_ownLines_patched (hcr : carriageReturn ∉ log) {line : Bytes}
    (hline : (readlines log)[t.insertIndex - 1]? = some line) (hpos : 0 < t.insertIndex)
    (hlength : t.insertIndex ≤ (readlines log).length) (hended : line.getLast? ≠ some lineFeed) :
    (ownLines [] (patched log date t)).length = (readlines log).length := by
  have hcr' := carriageReturn_notMem_patched hdate hscan
  rw [readlines_of_notMem hcr] at hline hlength
  have hge := mt (getLast?_keepEnds hline).mpr hended
  have hcount := length_keepEnds lineFeed log
  -- so it is the last line
  have hrest : (splitLines lineFeed [] log).2 ≠ [] := by
    intro hrest
    obtain ⟨hlt, -⟩ := List.getElem?_eq_some_iff.mp hline
    rw [if_pos hrest] at hcount
    omega
  have hlast : t.insertIndex = (keepEnds lineFeed log).length := by
    rw [if_neg hrest] at hcount
    omega
  have hpatched : patched log date t =
      log ++ (buildRmc date t.gga t.vtg ++ [lineFeed]) := by
    rw [patched, lineEnd_readlines, readlines_of_notMem hcr, hlast, List.take_length,
      List.drop_length, List.flatten_append, flatten_keepEnds, List.flatten_singleton]
  rw [ownLines_of_notMem hcr', readlines_of_notMem hcr', hpatched, readlines_of_notMem hcr]
  exact length_keepEnds_append (lineEnd_notMem_buildRmc hdate hscan).1 hrest

/-- The insertion is the one that is meant exactly on logs without `'\r'`, where the PTH line
has an end and the fields hold no `*`. -/
theorem insertsRmc_patched_iff : InsertsRmc log (patched log date t) ↔
    carriageReturn ∉ log ∧
      (∀ line, (readlines log)[t.insertIndex - 1]? = some line → line.getLast? = some lineFeed) ∧
      ∀ field ∈ t.gga.taken, star ∉ field := by
  obtain ⟨⟨k, hk, hindex⟩, -, -⟩ := scanTriplet_first hscan
  rw [Nat.zero_add] at hindex
  have hlength : t.insertIndex ≤ (readlines log).length := hindex ▸ hk.1.le_length
  rw [← star_notMem_rmcBody_found hdate hscan, ← isRmc_buildRmc]
  constructor
  · intro h
    have hcr := h.carriageReturn_notMem (carriageReturn_notMem_patched hdate hscan)
    obtain ⟨i, rmc, hi, hrmc, hlines⟩ := h
    rw [ownLines_of_notMem hcr] at hi hlines
    obtain rfl := hi.unique hk
    rw [← hindex, lineEnd_readlines] at hlines
    have hended : ∀ line, (readlines log)[t.insertIndex - 1]? = some line →
        line.getLast? = some lineFeed := by
      intro line hline
      by_contra hended
      have hsame := length_ownLines_patched hdate hscan hcr hline (by omega) hlength hended
      rw [hlines, List.length_append, List.length_cons, List.length_take, List.length_drop] at hsame
      omega
    refine ⟨hcr, hended, ?_⟩
    obtain ⟨line, hline⟩ : ∃ line, (readlines log)[t.insertIndex - 1]? = some line :=
      ⟨_, List.getElem?_eq_getElem (by omega)⟩
    rw [ownLines_patched_of_ended hdate hscan hcr hline (by omega) (hended _ hline)] at hlines
    obtain ⟨hsame, -⟩ := List.cons.inj (List.append_cancel_left hlines)
    rw [List.append_cancel_right hsame]
    exact hrmc
  · rintro ⟨hcr, hended, hrmc⟩
    obtain ⟨line, hline⟩ : ∃ line, (readlines log)[t.insertIndex - 1]? = some line :=
      ⟨_, List.getElem?_eq_getElem (by omega)⟩
    refine ⟨k, _, ?_, hrmc, ?_⟩
    · rw [ownLines_of_notMem hcr]
      exact hk
    · rw [ownLines_patched_of_ended hdate hscan hcr hline (by omega) (hended _ hline),
        ownLines_of_notMem hcr, lineEnd_readlines, hindex]

end Found

end Patched

/-! ## Calls -/

namespace PatchCall

variable {c : PatchCall}

/-- The files are left alone, or the log is one with a triplet that gets its sentence. -/
theorem outcome_cases (c : PatchCall) :
    c.outcome.1 = c.files ∨ ∃ prog dateStr path date log t, c.argv = [prog, dateStr, path] ∧
      dateDdmmyy dateStr = some date ∧ c.files.log = some log ∧
      scanTriplet 0 (readlines log) = some (some t) ∧
      rmcNearby (readlines log) t.insertIndex = false := by
  unfold outcome patchMain
  split
  · rename_i prog dateStr path hargv
    split
    · exact .inl rfl
    · rename_i date hdate
      split
      · exact .inl rfl
      · rename_i log hlog
        dsimp only
        split
        · exact .inl rfl
        · exact .inl rfl
        · rename_i t hscan
          split
          · exact .inl rfl
          · rename_i hnearby
            exact .inr ⟨prog, dateStr, path, date, log, t, hargv, hdate, hlog, hscan,
              Bool.eq_false_iff.mpr hnearby⟩
  · exact .inl rfl

theorem outcome_inserted {prog dateStr path date log : Bytes} {t : Triplet}
    (hargv : c.argv = [prog, dateStr, path]) (hdate : dateDdmmyy dateStr = some date)
    (hlog : c.files.log = some log) (hscan : scanTriplet 0 (readlines log) = some (some t))
    (hnearby : rmcNearby (readlines log) t.insertIndex = false) :
    c.outcome.1 = ⟨some (patched log date t), some log⟩ := by
  simp only [outcome, patchMain, hargv, hdate, hlog, hscan, hnearby, Bool.false_eq_true, if_false]
  rfl

end PatchCall

/-- **Nothing but an insertion.** A call changes nothing but for one RMC line exactly if the
log is insertable. -/
theorem patchRmc_insertsOnly_iff (c : PatchCall) : c.InsertsOnly ↔ c.Insertable := by
  constructor
  · intro h prog dateStr path date log t hargv hdate hlog hscan hnearby
    have hout := PatchCall.outcome_inserted hargv hdate hlog hscan hnearby
    refine (insertsRmc_patched_iff hdate hscan).mp ?_
    rcases h with heq | ⟨log', new, hlog', hout', hinserts⟩
    · rw [hout] at heq
      have hsame := Option.some.inj ((congrArg PatchFiles.log heq).trans hlog)
      exact absurd hsame (patched_ne hdate hscan)
    · obtain rfl := Option.some.inj (hlog.symm.trans hlog')
      have hnew := Option.some.inj (congrArg PatchFiles.log (hout.symm.trans hout'))
      rw [hnew]
      exact hinserts
  · intro h
    rcases c.outcome_cases with heq | ⟨prog, dateStr, path, date, log, t, hargv, hdate, hlog,
      hscan, hnearby⟩
    · exact .inl heq
    · refine .inr ⟨log, _, hlog, PatchCall.outcome_inserted hargv hdate hlog hscan hnearby, ?_⟩
      exact (insertsRmc_patched_iff hdate hscan).mpr
        (h prog dateStr path date log t hargv hdate hlog hscan hnearby)

/-- A log whose lines end in `"\r\n"`, as the device writes them. -/
def deviceLog : Bytes :=
  ascii "$GNVTG,10.1,T,,M,5.5,N,6,K,A*00\r\n" ++
    ascii "$GNGGA,120000.00,4700.0,N,01100.0,E,1,08*55\r\n" ++ ascii "$PTH,123*44\r\n"

def deviceLogCall : PatchCall where
  argv := [ascii "patch_rmc.py", ascii "2025-01-31", ascii "flight.txt"]
  files := ⟨some deviceLog, none⟩
  argv_ascii := by
    simp only [List.forall_mem_cons, IsAscii]
    exact ⟨forall_of_all (by decide), forall_of_all (by decide), forall_of_all (by decide), by simp⟩
  log_ascii := by
    rintro log ⟨rfl⟩
    exact forall_of_all (by decide)

theorem not_insertsOnly_deviceLog : ¬ deviceLogCall.InsertsOnly := by
  have hnew : ∀ new ∈ deviceLogCall.outcome.1.log, carriageReturn ∉ new := by decide +kernel
  rintro (heq | ⟨log, new, hlog, hout, hinserts⟩)
  · exact hnew deviceLog (by rw [heq]; rfl) (by decide)
  · obtain rfl : deviceLog = log := Option.some.inj hlog
    exact hinserts.carriageReturn_notMem (hnew new (by rw [hout]; rfl)) (by decide)

end TempoBt.PatchRmc
