-- SUMMARY: Whether a date and time that is marked valid is one, in every run of the receiver, and which texts in a sentence it takes to break that.
import TempoBt.Services.Gnss.Fix

/-!
# Real dates and times

The clock is set from a fix once in a boot. A text in a time or date field is read
leniently and marked valid whatever it is, so what is valid is as real as the texts.
-/

namespace TempoBt

open Bytes

/-! ## The property -/

/-- The time of a fix is one; a second may be a leap second. -/
def GnssFix.RealTime (fix : GnssFix) : Prop :=
  fix.hours ≤ 23 ∧ fix.minutes ≤ 59 ∧ fix.seconds ≤ 60 ∧ fix.milliseconds ≤ 999

def GnssFix.RealDate (fix : GnssFix) : Prop :=
  1 ≤ fix.month ∧ fix.month ≤ 12 ∧ 1 ≤ fix.day ∧ fix.day ≤ 31

/-- What is marked valid is real. -/
structure GnssFix.Real (fix : GnssFix) : Prop where
  time : fix.timeValid = true → fix.RealTime
  date : fix.dateValid = true → fix.RealDate

/-- The clock was set from a real date and time. -/
structure SystemClock.Real (clock : SystemClock) : Prop where
  mon : 0 ≤ clock.setFrom.mon ∧ clock.setFrom.mon ≤ 11
  mday : 1 ≤ clock.setFrom.mday ∧ clock.setFrom.mday ≤ 31
  hour : clock.setFrom.hour ≤ 23
  min : clock.setFrom.min ≤ 59
  sec : clock.setFrom.sec ≤ 60
  milliseconds : clock.milliseconds ≤ 999

/-- The clock and the correlation are set together, from a real date and time. -/
structure GnssTime.ClockReal (s : GnssTime) : Prop where
  clock : ∀ clock ∈ s.clock, clock.Real
  correlation : s.correlation.valid = true → ∃ clock ∈ s.clock,
    s.correlation.utcMs = UInt64.ofInt clock.unixTime * 1000 + clock.milliseconds.toUInt64

/-- What is marked valid is real, and so is what the clock was set from. -/
structure GnssTime.Real (s : GnssTime) : Prop where
  fix : s.fix.Real
  clockReal : s.ClockReal

/-! ## Texts -/

/-- A text that reads as a real time. -/
def TimeText (text : Bytes) : Prop :=
  (0 ≤ twoChars text 0 ∧ twoChars text 0 ≤ 23) ∧ (0 ≤ twoChars text 2 ∧ twoChars text 2 ≤ 59) ∧
    (0 ≤ twoChars text 4 ∧ twoChars text 4 ≤ 60) ∧ 0 ≤ fraction text

/-- A text that reads as a real day and month. -/
def DateText (text : Bytes) : Prop :=
  (1 ≤ twoChars text 0 ∧ twoChars text 0 ≤ 31) ∧ (1 ≤ twoChars text 2 ∧ twoChars text 2 ≤ 12)

instance (text : Bytes) : Decidable (TimeText text) := inferInstanceAs (Decidable (_ ∧ _))

instance (text : Bytes) : Decidable (DateText text) := inferInstanceAs (Decidable (_ ∧ _))

theorem twoChars_bounds (text : Bytes) (i : Nat) :
    -100 < twoChars text i ∧ twoChars text i < 100 :=
  strtol_bounds [text.getD i 0, text.getD (i + 1) 0]

theorem fraction_bounds (text : Bytes) : -1000 < fraction text ∧ fraction text < 1000 := by
  unfold fraction
  split
  · exact strtol_bounds [text.getD 7 0, text.getD 8 0, 48]
  · decide

/-- A number of two places keeps its range in a byte: a negative one becomes too large. -/
theorem ofInt_range_iff {v : Int} (hv : -100 < v ∧ v < 100) (low : UInt8) {high : UInt8}
    (hhigh : high.toNat < 100) :
    low ≤ UInt8.ofInt v ∧ UInt8.ofInt v ≤ high ↔ (low.toNat : Int) ≤ v ∧ v ≤ high.toNat := by
  have htoNat : ((UInt8.ofInt v).toNat : Int) = v % 256 := by
    simp only [UInt8.ofInt, UInt8.toNat_ofNat']
    omega
  rw [UInt8.le_iff_toNat_le, UInt8.le_iff_toNat_le]
  omega

theorem ofInt_le_iff {v : Int} (hv : -100 < v ∧ v < 100) {high : UInt8}
    (hhigh : high.toNat < 100) : UInt8.ofInt v ≤ high ↔ 0 ≤ v ∧ v ≤ high.toNat := by
  have hrange := ofInt_range_iff hv 0 hhigh
  simpa using hrange

theorem ofInt_milliseconds_iff {v : Int} (hv : -1000 < v ∧ v < 1000) :
    UInt16.ofInt v ≤ 999 ↔ 0 ≤ v := by
  have htoNat : ((UInt16.ofInt v).toNat : Int) = v % 65536 := by
    simp only [UInt16.ofInt, UInt16.toNat_ofNat']
    omega
  rw [UInt16.le_iff_toNat_le]
  change (UInt16.ofInt v).toNat ≤ 999 ↔ _
  omega

/-- A time of six characters or more is real exactly if its text reads so. -/
theorem parseNmeaTime_real_iff {text : Bytes} (hlength : 6 ≤ text.length) (fix : GnssFix) :
    (parseNmeaTime text fix).1.RealTime ↔ TimeText text := by
  rw [parseNmeaTime, if_neg (Nat.not_lt.mpr hlength)]
  exact and_congr (ofInt_le_iff (twoChars_bounds text 0) (by decide))
    (and_congr (ofInt_le_iff (twoChars_bounds text 2) (by decide))
      (and_congr (ofInt_le_iff (twoChars_bounds text 4) (by decide))
        (ofInt_milliseconds_iff (fraction_bounds text))))

/-- A time field leaves a real time: its text reads so, or it is too short to be read
and the time that is there is real. -/
def KeepsTime (text : Bytes) (fix : GnssFix) : Prop :=
  if 6 ≤ text.length then TimeText text else fix.RealTime

theorem takeTime_real_iff (text : Bytes) (fix : GnssFix) :
    (takeTime text fix).RealTime ↔ KeepsTime text fix := by
  unfold KeepsTime
  split
  · rename_i hlength
    exact parseNmeaTime_real_iff hlength fix
  · rename_i hlength
    rw [takeTime, parseNmeaTime, if_pos (Nat.lt_of_not_le hlength)]
    exact Iff.rfl

@[simp] theorem takeTime_timeValid (text : Bytes) (fix : GnssFix) :
    (takeTime text fix).timeValid = true := rfl

theorem takeTime_date (text : Bytes) (fix : GnssFix) :
    (takeTime text fix).dateValid = fix.dateValid ∧
      ((takeTime text fix).RealDate ↔ fix.RealDate) := by
  unfold takeTime parseNmeaTime
  split
  · exact ⟨rfl, Iff.rfl⟩
  · exact ⟨rfl, Iff.rfl⟩

theorem takeDate_time (text : Bytes) (fix : GnssFix) :
    (takeDate text fix).timeValid = fix.timeValid ∧
      ((takeDate text fix).RealTime ↔ fix.RealTime) := by
  unfold takeDate
  split
  · exact ⟨rfl, Iff.rfl⟩
  · exact ⟨rfl, Iff.rfl⟩

/-- A date field of six characters or more leaves a real date exactly if it reads so. -/
theorem takeDate_real_iff {text : Bytes} {fix : GnssFix}
    (hdate : fix.dateValid = true → fix.RealDate) :
    ((takeDate text fix).dateValid = true → (takeDate text fix).RealDate) ↔
      (6 ≤ text.length → DateText text) := by
  unfold takeDate
  split
  · rename_i hlength
    have hday := ofInt_range_iff (twoChars_bounds text 0) 1 (show UInt8.toNat 31 < 100 by decide)
    have hmonth := ofInt_range_iff (twoChars_bounds text 2) 1 (show UInt8.toNat 12 < 100 by decide)
    simp only [hlength, true_implies, DateText, GnssFix.RealDate]
    rw [← and_assoc, hday, hmonth]
    exact and_comm
  · rename_i hlength
    exact iff_of_true hdate fun h => absurd h hlength

/-! ## Sentences -/

/-- The time field of a GGA sentence with enough fields, if it has one, leaves a real time. -/
def GgaKeeps (tokens : List Bytes) (fix : GnssFix) : Prop :=
  0 < (token tokens 1).length → KeepsTime (token tokens 1) fix

/-- So do the time and the date field of an RMC sentence that is active. -/
def RmcKeeps (tokens : List Bytes) (fix : GnssFix) : Prop :=
  rmcActive tokens = true → (0 < (token tokens 1).length → KeepsTime (token tokens 1) fix) ∧
    (6 ≤ (token tokens 9).length → DateText (token tokens 9))

section Sentences

variable {fix : GnssFix}

theorem takeTime_fix_real_iff (hdate : fix.dateValid = true → fix.RealDate) (text : Bytes) :
    (takeTime text fix).Real ↔ KeepsTime text fix := by
  obtain ⟨hvalid, hreal⟩ := takeTime_date text fix
  rw [← takeTime_real_iff]
  constructor
  · intro h
    exact h.time rfl
  · intro h
    refine ⟨fun _ => h, ?_⟩
    rw [hvalid, hreal]
    exact hdate

theorem parseGga_real_iff (hfix : fix.Real) {sentence : Bytes}
    (hlength : 15 ≤ (sentenceTokens sentence).length) (now : UInt64) :
    (parseGga sentence now fix).Real ↔ GgaKeeps (sentenceTokens sentence) fix := by
  unfold parseGga GgaKeeps
  simp only [if_neg (Nat.not_lt.mpr hlength)]
  generalize token (sentenceTokens sentence) 1 = text
  -- the fields after the time have nothing to do with it
  by_cases htext : 0 < text.length
  · simp only [htext, true_implies]
    rw [← takeTime_fix_real_iff hfix.date text]
    exact ⟨fun h => ⟨h.time, h.date⟩, fun h => ⟨h.time, h.date⟩⟩
  · simp only [if_neg htext]
    exact iff_of_true ⟨fun h => absurd h Bool.false_ne_true, hfix.date⟩ fun h => absurd h htext

/-- An empty time field leaves the time that is there. -/
theorem rmcTime_real_iff (hfix : fix.Real) (text : Bytes) :
    (if 0 < text.length then takeTime text fix else fix).Real ↔
      (0 < text.length → KeepsTime text fix) := by
  split
  · rename_i htext
    rw [takeTime_fix_real_iff hfix.date text]
    exact ⟨fun h _ => h, fun h => h htext⟩
  · rename_i htext
    exact iff_of_true hfix fun h => absurd h htext

theorem rmcTime_date (hdate : fix.dateValid = true → fix.RealDate) (text : Bytes) :
    (if 0 < text.length then takeTime text fix else fix).dateValid = true →
      (if 0 < text.length then takeTime text fix else fix).RealDate := by
  split
  · obtain ⟨hvalid, hreal⟩ := takeTime_date text fix
    rw [hvalid, hreal]
    exact hdate
  · exact hdate

theorem parseRmcTokens_real_iff (hfix : fix.Real) (tokens : List Bytes) :
    (parseRmcTokens tokens fix).Real ↔ RmcKeeps tokens fix := by
  unfold parseRmcTokens RmcKeeps
  by_cases hactive : rmcActive tokens = true
  · simp only [hactive, if_true, true_implies]
    have htime := rmcTime_real_iff hfix (token tokens 1)
    have hdate := rmcTime_date hfix.date (token tokens 1)
    generalize (if 0 < (token tokens 1).length then takeTime (token tokens 1) fix else fix) =
      timed at htime hdate ⊢
    obtain ⟨hvalid, hreal⟩ := takeDate_time (token tokens 9) timed
    rw [← htime, ← takeDate_real_iff hdate]
    constructor
    · intro h
      refine ⟨⟨?_, hdate⟩, h.date⟩
      rw [← hvalid, ← hreal]
      exact h.time
    · rintro ⟨htimed, hdated⟩
      refine ⟨?_, hdated⟩
      rw [hvalid, hreal]
      exact htimed.time
  · simp only [hactive, Bool.false_eq_true, if_false]
    exact iff_of_true ⟨fun h => absurd h Bool.false_ne_true, fun h => absurd h Bool.false_ne_true⟩
      False.elim

end Sentences

/-! ## The clock -/

section Clock

variable {mktime : Tm → Option Int} {s : GnssTime}

/-- `mktime` has no value for the fix, so that its date and time are withdrawn. -/
def GnssTime.Refused (mktime : Tm → Option Int) (s : GnssTime) : Prop :=
  s.fix.dateValid = true ∧ s.fix.timeValid = true ∧ s.timeSet = false ∧ mktime s.fix.tm = none

/-- A real date and time makes a real `struct tm`. -/
theorem SystemClock.real_of_fix {fix : GnssFix} (htime : fix.RealTime) (hdate : fix.RealDate)
    (unixTime : Int) : SystemClock.Real ⟨fix.tm, unixTime, fix.milliseconds⟩ := by
  obtain ⟨hhours, hminutes, hseconds, hmilliseconds⟩ := htime
  obtain ⟨hmonth₁, hmonth₂, hday₁, hday₂⟩ := hdate
  rw [UInt8.le_iff_toNat_le] at hhours hminutes hseconds hmonth₁ hmonth₂ hday₁ hday₂
  simp only [UInt8.reduceToNat] at hhours hminutes hseconds hmonth₁ hmonth₂ hday₁ hday₂
  constructor
  · simp only [GnssFix.tm]
    omega
  · simp only [GnssFix.tm]
    omega
  · simp only [GnssFix.tm]
    omega
  · simp only [GnssFix.tm]
    omega
  · simp only [GnssFix.tm]
    omega
  · exact hmilliseconds

theorem updateSystemTimeFromFix_real_iff (hset : s.ClockReal) (e : SentenceEnv) :
    (updateSystemTimeFromFix mktime e s).Real ↔ s.fix.Real ∨ s.Refused mktime := by
  have hkept : s.Real ↔ s.fix.Real := ⟨fun h => h.fix, fun h => ⟨h, hset⟩⟩
  unfold updateSystemTimeFromFix GnssTime.Refused
  by_cases hvalid : s.fix.dateValid = true ∧ s.fix.timeValid = true
  · obtain ⟨hdate, htime⟩ := hvalid
    cases hflag : s.timeSet with
    | true => simp [hdate, htime, hkept]
    | false =>
      cases hmktime : mktime s.fix.tm with
      | none =>
        simp only [hdate, htime, Bool.not_true, Bool.or_self, Bool.false_eq_true, if_false,
          true_and, or_true, iff_true]
        exact ⟨⟨fun h => absurd h Bool.false_ne_true, fun h => absurd h Bool.false_ne_true⟩,
          ⟨hset.clock, hset.correlation⟩⟩
      | some unixTime =>
        simp only [hdate, htime, Bool.not_true, Bool.or_self, Bool.false_eq_true, if_false,
          reduceCtorEq, and_false, or_false]
        split
        · constructor
          · exact fun h => h.fix
          · intro h
            refine ⟨h, ?_, fun _ => ⟨_, rfl, rfl⟩⟩
            rintro clock ⟨rfl⟩
            exact SystemClock.real_of_fix (h.time htime) (h.date hdate) unixTime
        · exact hkept
  · have hnot : (!s.fix.dateValid || !s.fix.timeValid) = true := by
      cases hdate : s.fix.dateValid <;> cases htime : s.fix.timeValid <;> simp_all
    rw [if_pos hnot, hkept]
    exact ⟨.inl, fun h => h.resolve_right fun hrefused => hvalid ⟨hrefused.1, hrefused.2.1⟩⟩

end Clock

/-! ## Runs -/

section Runs

variable (mktime : Tm → Option Int)

/-- What a sentence must be like for what is valid to stay real: a GGA sentence, or an
active RMC sentence, has real texts in its fields or has its date and time withdrawn. -/
def SentenceKeeps (s : GnssTime) (sentence : Bytes) : Prop :=
  let tokens := sentenceTokens sentence
  if sentence.length ≤ 6 then True
  else if isGga sentence then 15 ≤ tokens.length → GgaKeeps tokens s.fix
  else if isRmc sentence then
    13 ≤ tokens.length → RmcKeeps tokens s.fix ∨
      { s with fix := parseRmcTokens tokens s.fix }.Refused mktime
  else True

variable {mktime} {s : GnssTime}

theorem parseRmc_real_iff (hs : s.Real) {sentence : Bytes}
    (hlength : 13 ≤ (sentenceTokens sentence).length) (e : SentenceEnv) :
    (parseRmc mktime sentence e s).Real ↔ RmcKeeps (sentenceTokens sentence) s.fix ∨
      { s with fix := parseRmcTokens (sentenceTokens sentence) s.fix }.Refused mktime := by
  have hset : { s with fix := parseRmcTokens (sentenceTokens sentence) s.fix }.ClockReal :=
    ⟨hs.clockReal.clock, hs.clockReal.correlation⟩
  rw [parseRmc, if_neg (Nat.not_lt.mpr hlength), updateSystemTimeFromFix_real_iff hset,
    parseRmcTokens_real_iff hs.fix]

theorem processNmeaSentence_real_iff (hs : s.Real) (sentence : Bytes) (e : SentenceEnv) :
    (processNmeaSentence mktime sentence e s).Real ↔ SentenceKeeps mktime s sentence := by
  unfold processNmeaSentence SentenceKeeps
  simp only
  split
  · exact iff_of_true hs trivial
  · split
    · by_cases hlength : 15 ≤ (sentenceTokens sentence).length
      · simp only [hlength, true_implies]
        rw [← parseGga_real_iff hs.fix hlength e.now]
        exact ⟨fun h => h.fix, fun h => ⟨h, hs.clockReal.clock, hs.clockReal.correlation⟩⟩
      · have hsame : parseGga sentence e.now s.fix = s.fix := if_pos (Nat.lt_of_not_le hlength)
        rw [hsame]
        exact iff_of_true hs fun h => absurd h hlength
    · split
      · by_cases hlength : 13 ≤ (sentenceTokens sentence).length
        · rw [parseRmc_real_iff hs hlength]
          exact ⟨fun h _ => h, fun h => h hlength⟩
        · have hsame : parseRmc mktime sentence e s = s := if_pos (Nat.lt_of_not_le hlength)
          rw [hsame]
          exact iff_of_true hs fun h => absurd h hlength
      · exact iff_of_true hs trivial

/-- The sentence that a byte completes, if it does, keeps what is valid real. -/
def InputKeeps (mktime : Tm → Option Int) (s : GnssReceiver) (input : GnssInput) : Prop :=
  ∀ sentence ∈ completedSentence s.demux input, SentenceKeeps mktime s.time sentence

theorem gnssStep_real_iff {s : GnssReceiver} (hs : s.time.Real) (input : GnssInput) :
    (gnssStep mktime s input).1.time.Real ↔ InputKeeps mktime s input := by
  unfold gnssStep InputKeeps
  cases completedSentence s.demux input with
  | none => simpa using hs
  | some sentence => simpa using processNmeaSentence_real_iff hs sentence input.env

theorem initial_real (nmeaCallback : Bool) : (GnssReceiver.initial nmeaCallback).time.Real where
  fix := ⟨fun h => absurd h Bool.false_ne_true, fun h => absurd h Bool.false_ne_true⟩
  clockReal := ⟨fun clock h => by simp [GnssReceiver.initial] at h,
    fun h => absurd h Bool.false_ne_true⟩

/-- For every byte stream: a time and a date that are marked valid are always real, and
the clock and the correlation are only set from such a time and date, exactly when every
sentence of the stream has real texts in the fields that are taken, or `mktime` makes the
receiver withdraw them. -/
theorem validFix_real_iff (mktime : Tm → Option Int) (nmeaCallback : Bool)
    (inputs : List GnssInput) :
    Machine.Always (gnssStep mktime) (fun s => s.time.Real) (.initial nmeaCallback) inputs ↔
      Machine.Guarded (gnssStep mktime) (InputKeeps mktime) (.initial nmeaCallback) inputs := by
  apply Machine.always_iff_guarded (I := fun s => s.time.Real)
  · intro s input hs hkeeps
    exact (gnssStep_real_iff hs input).mpr hkeeps
  · exact fun s hs => hs
  · intro s input hs hbreaks hreal
    exact hbreaks ((gnssStep_real_iff hs input).mp hreal)
  · exact initial_real nmeaCallback

end Runs

/-! ### The 32nd of January -/

/-- A sentence with 25 o'clock on the 32nd of January 2025, and a checksum that is right. -/
def impossibleDate : List GnssInput :=
  (ascii "$GPRMC,250000,A,,,,,,,320125,,,*0A\r\n").map fun byte => ⟨byte, 0, 0⟩

/-- `mktime` takes it for the 2nd of February, one o'clock. -/
def mktimeOfImpossible : Tm → Option Int := fun _ => some 1738458000

theorem not_validFix_real_impossibleDate :
    ¬ Machine.Always (gnssStep mktimeOfImpossible) (fun s => s.time.Real) (.initial true)
      impossibleDate := by
  rintro ⟨-, halong⟩
  have hend :
      (Machine.run (gnssStep mktimeOfImpossible) (.initial true) impossibleDate).1.time.Real :=
    halong.final (fun _ _ h => h)
  have hclock : (Machine.run (gnssStep mktimeOfImpossible) (.initial true)
      impossibleDate).1.time.clock.map (fun clock => clock.setFrom.hour) = some 25 := by
    decide +kernel
  obtain ⟨clock, hmem, hhour⟩ := Option.map_eq_some_iff.mp hclock
  have hreal := (hend.clockReal.clock clock hmem).hour
  rw [hhour] at hreal
  exact absurd hreal (by decide)

end TempoBt
