-- SUMMARY: The magnetometer calibration tool's reader: PRMG lines, and for which lines the thread survives and takes only genuine samples.
import TempoBt.Lib.Bytes
import TempoBt.Lib.Machine
import TempoBt.Lib.PythonNumber

/-!
# Reading PRMG lines

A thread of `mag_cal.py` reads lines from the serial port. PRMG lines go through
`parse_prmg`, which also reads the lines of a file.
-/

namespace TempoBt.MagCal

open PythonNumber

/-! ## `parse_prmg` -/

def prmgTag : PyStr := pyStr "$PRMG,"

/-- `'*'` and `','` -/
def asterisk : Nat := 42
def separator : Nat := 44

structure PrmgSample where
  timestampMs : Int
  rawX : Int
  rawY : Int
  rawZ : Int
  tempC : PyFloat
  deriving DecidableEq

variable (py : Python)

/-- The values of the six fields of a sentence without its checksum. -/
def fieldValues (line : PyStr) : Option PrmgSample :=
  match line.splitOn separator with
  | [_, timestampMs, rawX, rawY, rawZ, tempC] => do
    let timestampMs ← py.int 10 timestampMs
    let rawX ← py.int 10 rawX
    let rawY ← py.int 10 rawY
    let rawZ ← py.int 10 rawZ
    let tempC ← py.float tempC
    return { timestampMs, rawX, rawY, rawZ, tempC }
  | _ => none

/-- The XOR of the characters of a payload. -/
def ordXor (payload : PyStr) : Nat := payload.foldl (· ^^^ ·) 0

/-- `parse_prmg`; the outer `none` is a `ValueError` that leaves the function. -/
def parsePrmg (line : PyStr) : Option (Option PrmgSample) :=
  let line := strip line
  if !prmgTag.isPrefixOf line then some none
  else
    match rfind asterisk line with
    | none => some (fieldValues py line)
    | some i =>
      if 0 < i then
        let payload := (line.take i).drop 1
        match py.int 16 ((line.drop (i + 1)).take 2) with
        | none => none
        | some expected =>
          if (ordXor payload : Int) ≠ expected then some none
          else some (fieldValues py (line.take i))
      else some (fieldValues py line)

/-! ## Genuine lines -/

/-- Six fields between commas, each number in the form that is read for it. -/
def SixFields (line : PyStr) (sample : PrmgSample) : Prop :=
  ∃ timestampMs rawX rawY rawZ tempC : PyStr,
    line = [separator].intercalate [pyStr "$PRMG", timestampMs, rawX, rawY, rawZ, tempC] ∧
    (∀ field ∈ [timestampMs, rawX, rawY, rawZ, tempC], separator ∉ field) ∧
    py.int 10 timestampMs = some sample.timestampMs ∧ py.int 10 rawX = some sample.rawX ∧
    py.int 10 rawY = some sample.rawY ∧ py.int 10 rawZ = some sample.rawZ ∧
    py.float tempC = some sample.tempC

/-- Two hex digits -/
def HexDigits (s : PyStr) : Prop := s.length = 2 ∧ ∀ c ∈ s, (digitIn 16 c).isSome

/-- A line that is, without the white space around it, a whole sentence with these values. -/
def Genuine (line : PyStr) (sample : PrmgSample) : Prop :=
  ∃ before sum, strip line = before ++ asterisk :: sum ∧ SixFields py before sample ∧
    HexDigits sum ∧ ordXor (before.drop 1) = number 16 sum

/-- The line does no harm: it gives its values when it is genuine, and none otherwise. -/
structure Survives (line : PyStr) : Prop where
  returns : (parsePrmg py line).isSome
  exact_values : ∀ sample, parsePrmg py line = some (some sample) ↔ Genuine py line sample

/-- A sentence has a checksum field that can be read, and that is two hex digits long where
it agrees with the payload of six good fields. -/
def Checked (line : PyStr) : Prop :=
  prmgTag <+: strip line →
    (asterisk ∉ strip line → ∀ sample, ¬ SixFields py (strip line) sample) ∧
    ∀ before tail, strip line = before ++ asterisk :: tail → asterisk ∉ tail →
      ∃ expected, py.int 16 (tail.take 2) = some expected ∧
        (ordXor (before.drop 1) = expected → ∀ sample, SixFields py before sample →
          HexDigits tail)

variable {py} {line before tail : PyStr} {sample : PrmgSample}

theorem HexDigits.asterisk_notMem (h : HexDigits tail) : asterisk ∉ tail := fun hmem => by
  obtain ⟨hlow, -⟩ := of_mem_hexDigits h.2 hmem
  exact absurd hlow (by decide)

theorem HexDigits.int_take (h : HexDigits tail) :
    py.int 16 (tail.take 2) = some (number 16 tail : Int) := by
  have hne : tail ≠ [] := by
    rintro rfl
    exact absurd h.1 (by decide)
  rw [List.take_of_length_le h.1.le]
  exact py.int_hexDigits hne h.2

/-- The split of a line at its last `'*'` is the only one. -/
theorem split_unique {before' tail' : PyStr} (htail : asterisk ∉ tail) (htail' : asterisk ∉ tail')
    (h : before ++ asterisk :: tail = before' ++ asterisk :: tail') :
    before = before' ∧ tail = tail' := by
  have hlength : before.length = before'.length := by
    have hfind := rfind_append htail before
    rw [h, rfind_append htail'] at hfind
    exact (Option.some.inj hfind).symm
  obtain ⟨hbefore, hrest⟩ := List.append_inj h hlength
  exact ⟨hbefore, (List.cons.inj hrest).2⟩

/-! ## The six fields -/

theorem prmgTag_eq : prmgTag = pyStr "$PRMG" ++ [separator] := by decide

theorem SixFields.prefix_line (h : SixFields py line sample) : prmgTag <+: line := by
  obtain ⟨timestampMs, rawX, rawY, rawZ, tempC, rfl, -⟩ := h
  rw [prmgTag_eq, List.intercalate_cons_cons, List.append_assoc]
  exact List.prefix_append _ _

/-- What is before the last `'*'` begins like the line. -/
theorem prefix_before (htag : prmgTag <+: before ++ asterisk :: tail) : prmgTag <+: before := by
  have hbefore : before <+: before ++ asterisk :: tail := List.prefix_append _ _
  rcases Nat.lt_or_ge before.length prmgTag.length with hshort | hlong
  · -- the `'*'` would be in the tag
    have hstar : before ++ [asterisk] <+: before ++ asterisk :: tail := ⟨tail, by simp⟩
    have hlength : (before ++ [asterisk]).length ≤ prmgTag.length := by
      rw [List.length_append]
      exact hshort
    have hprefix : before ++ [asterisk] <+: prmgTag :=
      List.prefix_of_prefix_length_le hstar htag hlength
    have hmem : asterisk ∈ prmgTag :=
      hprefix.mem (List.mem_append_right _ (List.mem_singleton_self _))
    exact absurd hmem (by decide)
  · exact List.prefix_of_prefix_length_le htag hbefore hlong

/-- The values that are taken from a sentence are those of its six fields. -/
theorem fieldValues_iff (htag : prmgTag <+: line) :
    fieldValues py line = some sample ↔ SixFields py line sample := by
  constructor
  · intro h
    unfold fieldValues at h
    split at h
    · rename_i tag timestampMs rawX rawY rawZ tempC hsplit
      simp only [Option.bind_eq_bind, Option.bind_eq_some_iff, Option.pure_def,
        Option.some.injEq] at h
      obtain ⟨t, ht, x, hx, y, hy, z, hz, c, hc, rfl⟩ := h
      have hjoin : [separator].intercalate (line.splitOn separator) = line :=
        List.intercalate_splitOn separator
      have hfirst : tag = pyStr "$PRMG" := by
        obtain ⟨rest, hrest⟩ := htag
        rw [prmgTag_eq, List.append_assoc, List.singleton_append] at hrest
        rw [← hrest, List.splitOn_eq_splitOnP,
          List.splitOnP_append_cons_of_forall_mem (by decide) separator (by decide)] at hsplit
        exact (List.cons.inj hsplit).1.symm
      refine ⟨timestampMs, rawX, rawY, rawZ, tempC, ?_, ?_, ht, hx, hy, hz, hc⟩
      · rw [← hjoin, hsplit, hfirst]
      · intro field hfield
        apply notMem_of_mem_splitOn (s := line)
        rw [hsplit]
        exact List.mem_cons_of_mem _ hfield
    · cases h
  · rintro ⟨timestampMs, rawX, rawY, rawZ, tempC, rfl, hfields, ht, hx, hy, hz, hc⟩
    have hsplit : ([separator].intercalate
        [pyStr "$PRMG", timestampMs, rawX, rawY, rawZ, tempC]).splitOn separator =
        [pyStr "$PRMG", timestampMs, rawX, rawY, rawZ, tempC] := by
      apply List.splitOn_intercalate
      · rw [List.forall_mem_cons]
        exact ⟨by decide, hfields⟩
      · exact List.cons_ne_nil _ _
    simp only [fieldValues, hsplit, ht, hx, hy, hz, hc]
    rfl

theorem genuine_iff (hline : strip line = before ++ asterisk :: tail) (htail : asterisk ∉ tail) :
    Genuine py line sample ↔
      SixFields py before sample ∧ HexDigits tail ∧ ordXor (before.drop 1) = number 16 tail := by
  constructor
  · rintro ⟨before', sum, hline', hfields, hsum, hxor⟩
    rw [hline] at hline'
    obtain ⟨rfl, rfl⟩ := split_unique htail hsum.asterisk_notMem hline'
    exact ⟨hfields, hsum, hxor⟩
  · exact fun h => ⟨before, tail, hline, h⟩

theorem Genuine.asterisk_mem (h : Genuine py line sample) : asterisk ∈ strip line := by
  obtain ⟨before, sum, hline, -⟩ := h
  rw [hline]
  exact List.mem_append_right _ List.mem_cons_self

theorem Genuine.prefix_strip (h : Genuine py line sample) : prmgTag <+: strip line := by
  obtain ⟨before, sum, hline, hfields, -⟩ := h
  rw [hline]
  exact hfields.prefix_line.trans (List.prefix_append _ _)

/-! ## What `parse_prmg` returns -/

theorem parsePrmg_of_not_prefix (htag : ¬ prmgTag <+: strip line) :
    parsePrmg py line = some none := by
  rw [← List.isPrefixOf_iff_prefix] at htag
  rw [parsePrmg, if_pos (by rw [Bool.eq_false_iff.mpr htag]; rfl)]

theorem parsePrmg_of_notMem (htag : prmgTag <+: strip line) (hline : asterisk ∉ strip line) :
    parsePrmg py line = some (fieldValues py (strip line)) := by
  rw [← List.isPrefixOf_iff_prefix] at htag
  simp [parsePrmg, htag, rfind_eq_none.mpr hline]

theorem parsePrmg_of_split (py : Python) (htag : prmgTag <+: strip line)
    (hline : strip line = before ++ asterisk :: tail) (htail : asterisk ∉ tail) :
    parsePrmg py line = (py.int 16 (tail.take 2)).map fun (expected : Int) =>
      if ordXor (before.drop 1) = expected then fieldValues py before else none := by
  have hprefix : prmgTag <+: before := prefix_before (hline ▸ htag)
  have hbefore : 0 < before.length := Nat.lt_of_lt_of_le (by decide) hprefix.length_le
  have hpayload : (before ++ asterisk :: tail).take before.length = before := List.take_left
  have hsum : (before ++ asterisk :: tail).drop (before.length + 1) = tail := by
    rw [← List.drop_drop, List.drop_left]
    rfl
  rw [← List.isPrefixOf_iff_prefix, hline] at htag
  rw [parsePrmg, hline, if_neg (by rw [htag]; decide)]
  simp only [rfind_append htail, if_pos hbefore, hpayload, hsum]
  cases py.int 16 (tail.take 2) with
  | none => rfl
  | some expected =>
    simp only [Option.map_some, ne_eq, ite_not]
    split <;> rfl

/-! ## The lines that do no harm -/

/-- Without a checksum field the values are taken as they are. -/
theorem survives_iff_of_notMem (htag : prmgTag <+: strip line) (hline : asterisk ∉ strip line) :
    Survives py line ↔ ∀ sample, ¬ SixFields py (strip line) sample := by
  have hparse : parsePrmg py line = some (fieldValues py (strip line)) :=
    parsePrmg_of_notMem htag hline
  have hgenuine (sample : PrmgSample) : ¬ Genuine py line sample :=
    fun h => hline h.asterisk_mem
  constructor
  · intro h sample hfields
    rw [← fieldValues_iff htag] at hfields
    rw [hfields] at hparse
    exact hgenuine sample ((h.exact_values sample).mp hparse)
  · intro hfields
    refine ⟨by rw [hparse]; rfl, fun sample => ?_⟩
    rw [hparse, Option.some.injEq, fieldValues_iff htag]
    exact iff_of_false (hfields sample) (hgenuine sample)

theorem survives_iff_of_split (htag : prmgTag <+: strip line)
    (hline : strip line = before ++ asterisk :: tail) (htail : asterisk ∉ tail) :
    Survives py line ↔ ∃ expected : Int, py.int 16 (tail.take 2) = some expected ∧
      (ordXor (before.drop 1) = expected → ∀ sample, SixFields py before sample →
        HexDigits tail) := by
  have hparse := parsePrmg_of_split py htag hline htail
  have hbefore : prmgTag <+: before := by
    rw [hline] at htag
    exact prefix_before htag
  constructor
  · rintro ⟨hreturns, hexact⟩
    rw [hparse, Option.isSome_map, Option.isSome_iff_exists] at hreturns
    obtain ⟨expected, hexpected⟩ := hreturns
    refine ⟨expected, hexpected, fun hsum sample hfields => ?_⟩
    rw [← fieldValues_iff hbefore] at hfields
    rw [hexpected, Option.map_some, if_pos hsum, hfields] at hparse
    exact ((genuine_iff hline htail).mp ((hexact sample).mp hparse)).2.1
  · rintro ⟨expected, hexpected, hdigits⟩
    rw [hexpected, Option.map_some] at hparse
    have hnumber (h : HexDigits tail) : (number 16 tail : Int) = expected :=
      Option.some.inj (h.int_take.symm.trans hexpected)
    refine ⟨by rw [hparse]; rfl, fun sample => ?_⟩
    rw [hparse, genuine_iff hline htail, Option.some.injEq, Option.ite_none_right_eq_some,
      fieldValues_iff hbefore]
    constructor
    · rintro ⟨hsum, hfields⟩
      have htwo : HexDigits tail := hdigits hsum sample hfields
      exact ⟨hfields, htwo, Int.ofNat_inj.mp (hsum.trans (hnumber htwo).symm)⟩
    · rintro ⟨hfields, htwo, hsum⟩
      exact ⟨by rw [hsum, hnumber htwo], hfields⟩

/-- A line gives its values exactly when it is genuine, without an error that leaves the
function: so it is when the line is checked. -/
theorem survives_iff_checked (line : PyStr) : Survives py line ↔ Checked py line := by
  by_cases htag : prmgTag <+: strip line
  · cases hstar : rfind asterisk (strip line) with
    | none =>
      have hline := rfind_eq_none.mp hstar
      rw [survives_iff_of_notMem htag hline]
      constructor
      · refine fun hfields _ => ⟨fun _ => hfields, fun before tail hsplit _ => ?_⟩
        rw [hsplit] at hline
        exact absurd (List.mem_append_right _ List.mem_cons_self) hline
      · exact fun hchecked => (hchecked htag).1 hline
    | some i =>
      obtain ⟨before, tail, hline, htail, -⟩ := exists_of_rfind hstar
      rw [survives_iff_of_split htag hline htail]
      constructor
      · refine fun hexpected _ => ⟨fun hnone => ?_, fun before' tail' hsplit htail' => ?_⟩
        · exact absurd (rfind_eq_none.mpr hnone) (by simp [hstar])
        · rw [hline] at hsplit
          obtain ⟨rfl, rfl⟩ := split_unique htail htail' hsplit
          exact hexpected
      · exact fun hchecked => (hchecked htag).2 before tail hline htail
  · have hparse : parsePrmg py line = some none := parsePrmg_of_not_prefix htag
    refine iff_of_true ⟨?_, fun sample => ?_⟩ fun h => absurd h htag
    · rw [hparse]
      rfl
    · rw [hparse]
      exact iff_of_false (by simp) fun h => htag h.prefix_strip

/-! ## `serial_reader_thread` -/

def prspTag : PyStr := pyStr "$PRSP"

/-- What a turn of the thread meets: the event to stop, an error of the port, or a line. -/
inductive ReaderInput
  | stopEvent
  | serialException
  | readline (raw : Bytes)

inductive ReaderStatus
  | running
  | ended
  | died
  deriving DecidableEq

structure Reader where
  status : ReaderStatus
  samples : List PrmgSample
  responses : List PyStr

/-- `raw.decode("ascii", errors="ignore")` -/
def decodeIgnore (raw : Bytes) : PyStr := (raw.filter (· < 128)).map UInt8.toNat

variable (py)

/-- The body of the loop, for one line. -/
def Reader.take (r : Reader) (raw : Bytes) : Reader :=
  let line := strip (decodeIgnore raw)
  if line = [] then r
  else if prspTag.isPrefixOf line then { r with responses := r.responses ++ [line] }
  else
    match parsePrmg py line with
    | none => { r with status := .died }
    | some none => r
    | some (some result) => { r with samples := r.samples ++ [result] }

/-- One turn of `serial_reader_thread`. -/
def Reader.step (r : Reader) (input : ReaderInput) : Reader × Unit :=
  match r.status, input with
  | .running, .stopEvent => ({ r with status := .ended }, ())
  | .running, .serialException => ({ r with status := .ended }, ())
  | .running, .readline raw => (r.take py raw, ())
  | _, _ => (r, ())

/-- A turn does not kill the thread, and it appends the values of a genuine line, and of no
other. -/
def Reader.TakesGenuine (r : Reader) (input : ReaderInput) (r' : Reader) : Prop :=
  r'.status ≠ .died ∧
    ∃ new : Option PrmgSample, r'.samples = r.samples ++ new.toList ∧
      ∀ sample, new = some sample ↔
        r.status = .running ∧ ∃ raw, input = .readline raw ∧
          Genuine py (decodeIgnore raw) sample

/-- The line that a running thread reads is checked. -/
def Reader.ReadsChecked (r : Reader) (input : ReaderInput) : Prop :=
  r.status = .running → ∀ raw, input = .readline raw → Checked py (decodeIgnore raw)

variable {py} {r : Reader} {raw : Bytes} {input : ReaderInput}

theorem parsePrmg_strip (line : PyStr) : parsePrmg py (strip line) = parsePrmg py line := by
  rw [parsePrmg, parsePrmg, strip_strip]

/-- What becomes of a line: the thread dies where `parse_prmg` raises, and appends what it
returns otherwise. Lines that do not come to `parse_prmg` would give no values there. -/
theorem Reader.take_cases (py : Python) (r : Reader) (raw : Bytes) :
    (parsePrmg py (decodeIgnore raw) = none ∧ (r.take py raw).status = .died) ∨
      ∃ new, parsePrmg py (decodeIgnore raw) = some new ∧ (r.take py raw).status = r.status ∧
        (r.take py raw).samples = r.samples ++ new.toList := by
  unfold take
  by_cases hempty : strip (decodeIgnore raw) = []
  · have htag : ¬ prmgTag <+: strip (decodeIgnore raw) := by
      rw [hempty]
      decide
    right
    refine ⟨none, parsePrmg_of_not_prefix htag, ?_⟩
    simp [hempty]
  by_cases hprsp : prspTag.isPrefixOf (strip (decodeIgnore raw))
  · have htag : ¬ prmgTag <+: strip (decodeIgnore raw) := fun h => by
      have hprefix := List.prefix_of_prefix_length_le (List.isPrefixOf_iff_prefix.mp hprsp) h
        (by decide)
      exact absurd hprefix (by decide)
    right
    refine ⟨none, parsePrmg_of_not_prefix htag, ?_⟩
    simp [hempty, hprsp]
  simp only [if_neg hempty, if_neg hprsp, parsePrmg_strip]
  cases hparse : parsePrmg py (decodeIgnore raw) with
  | none => exact .inl ⟨rfl, rfl⟩
  | some new =>
    right
    refine ⟨new, rfl, ?_⟩
    cases new with
    | none => simp
    | some sample => exact ⟨rfl, rfl⟩

theorem Reader.takesGenuine_take (hrunning : r.status = .running) :
    r.TakesGenuine py (.readline raw) (r.take py raw) ↔ Survives py (decodeIgnore raw) := by
  have hread (sample : PrmgSample) :
      (r.status = .running ∧ ∃ raw', ReaderInput.readline raw = .readline raw' ∧
        Genuine py (decodeIgnore raw') sample) ↔ Genuine py (decodeIgnore raw) sample := by
    simp [hrunning]
  rcases r.take_cases py raw with ⟨hnone, hdied⟩ | ⟨new, hparse, hstatus, hsamples⟩
  · refine iff_of_false (fun h => h.1 hdied) fun h => ?_
    have hreturns := h.returns
    rw [hnone] at hreturns
    cases hreturns
  · constructor
    · rintro ⟨-, new', hnew, hgenuine⟩
      rw [hsamples] at hnew
      have hsame : new = new' := by simpa using congrArg List.head? (List.append_cancel_left hnew)
      refine ⟨by rw [hparse]; rfl, fun sample => ?_⟩
      rw [hparse, Option.some.injEq, hsame]
      exact (hgenuine sample).trans (hread sample)
    · intro h
      refine ⟨by simp [hstatus, hrunning], new, hsamples, fun sample => ?_⟩
      rw [hread, ← h.exact_values, hparse, Option.some.injEq]

theorem Reader.takesGenuine_step (halive : r.status ≠ .died) :
    r.TakesGenuine py input (r.step py input).1 ↔ r.ReadsChecked py input := by
  by_cases hread : r.status = .running ∧ ∃ raw, input = .readline raw
  · obtain ⟨hrunning, raw, rfl⟩ := hread
    have hstep : (r.step py (.readline raw)).1 = r.take py raw := by
      simp only [step, hrunning]
    rw [hstep, takesGenuine_take hrunning, survives_iff_checked]
    constructor
    · intro h _ raw' hraw
      cases hraw
      exact h
    · exact fun h => h hrunning raw rfl
  · refine iff_of_true ?_ fun hrunning raw hraw => absurd ⟨hrunning, raw, hraw⟩ hread
    have hsame : (r.step py input).1.status ≠ .died ∧ (r.step py input).1.samples = r.samples := by
      unfold step
      split
      · exact ⟨by simp, rfl⟩
      · exact ⟨by simp, rfl⟩
      · rename_i raw hrunning
        exact absurd ⟨hrunning, raw, rfl⟩ hread
      · exact ⟨halive, rfl⟩
    refine ⟨hsame.1, none, by rw [hsame.2]; simp, fun sample => ?_⟩
    exact iff_of_false (by simp) fun h => hread ⟨h.1, h.2.choose, h.2.choose_spec.1⟩

/-- `parse_prmg` handles a line rightly exactly when the line is checked, and the thread
lives and takes the genuine samples along exactly the runs that read checked lines. -/
theorem reader_survives_iff (py : Python) :
    (∀ line, Survives py line ↔ Checked py line) ∧
      ∀ samples responses inputs,
        Machine.Along (Reader.step py) (Reader.TakesGenuine py) ⟨.running, samples, responses⟩
            inputs ↔
          Machine.Guarded (Reader.step py) (Reader.ReadsChecked py) ⟨.running, samples, responses⟩
            inputs := by
  refine ⟨survives_iff_checked, fun samples responses inputs => ?_⟩
  apply Machine.along_iff_guarded (I := fun r => r.status ≠ .died)
  · exact fun r input halive hchecked => ((Reader.takesGenuine_step halive).mpr hchecked).1
  · exact fun r input halive hchecked => (Reader.takesGenuine_step halive).mpr hchecked
  · exact fun r input halive hchecked h => hchecked ((Reader.takesGenuine_step halive).mp h)
  · simp

/-- A Python without digits beyond ASCII. -/
def asciiPython : Python := { decimal := fun _ => none, maxDigits := some 4300 }

/-- A sentence that ends at the `'*'` raises an error that kills the thread, and one that
ends before it is taken without a checksum. -/
theorem not_survives_truncated :
    ¬ Survives asciiPython (pyStr "$PRMG,1,2,3,4,5*") ∧
      ¬ Survives asciiPython (pyStr "$PRMG,1,2,3,4,5") := by
  constructor
  · intro h
    exact absurd h.returns (by decide +kernel)
  · intro h
    have hparse : parsePrmg asciiPython (pyStr "$PRMG,1,2,3,4,5") =
        some (some ⟨1, 2, 3, 4, .finite false 5 0⟩) := by decide +kernel
    have hstar := ((h.exact_values _).mp hparse).asterisk_mem
    exact absurd hstar (by decide +kernel)

end TempoBt.MagCal
