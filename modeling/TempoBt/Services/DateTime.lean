-- SUMMARY: The UTC time as text: what is read back from the date and time that is shown, and from which sentence it comes.
import TempoBt.App.Errno
import TempoBt.App.Mcumgr
import TempoBt.Lib.FixedWidth
import TempoBt.Services.Gnss.Fix

/-!
# Date and time

The correlation gives milliseconds, `gmtime_r` makes fields of them, and the request
`GET_DATETIME` is answered with their text.
-/

namespace TempoBt

open Bytes CString Printf Calendar

/-- The format of `timebase_get_utc_iso8601` -/
def iso8601 (tm : Tm) (tenths : Nat) : Bytes :=
  zeroPadded 4 (tm.year + 1900) ++ ascii "-" ++ zeroPadded 2 (tm.mon + 1) ++ ascii "-" ++
    zeroPadded 2 tm.mday ++ ascii "T" ++ zeroPadded 2 tm.hour ++ ascii ":" ++
    zeroPadded 2 tm.min ++ ascii ":" ++ zeroPadded 2 tm.sec ++ ascii "." ++ decimal tenths ++
    ascii "Z"

/-- `timebase_get_utc_iso8601`, with the clock `now`: the text in the buffer when it
returns 0, or else what it returns. -/
def timebaseGetUtcIso8601 (bufSize : Nat) (now : UInt64) (corr : TimeCorrelation) :
    Except Int Bytes :=
  if bufSize < 25 then .error (-Errno.einval)
  else
    let utcMs := getCurrentUtcMs now corr
    if utcMs = 0 then .error (-Errno.eagain)
    else
      let text := iso8601 (gmtimeR (utcMs / 1000).toNat) (utcMs % 1000 / 100).toNat
      if bufSize ≤ text.length then .error (-Errno.enomem) else .ok text

/-- `tempo_mgmt_get_datetime`: the keys of the response with their texts, where the response
can be encoded. -/
def tempoMgmtGetDatetime (encodes : Bool) (now : UInt64) (corr : TimeCorrelation) :
    Except MgmtErr (List (Bytes × Bytes)) :=
  let reply :=
    match timebaseGetUtcIso8601 32 now corr with
    | .error _ => [(ascii "error", ascii "No valid UTC time"), (ascii "datetime", [])]
    | .ok text => [(ascii "datetime", text)]
  if encodes then .ok reply else .error .emsgsize

/-! ## Reading a text -/

/-- The number in so many characters from a position of a text. -/
def numberAt (text : Bytes) (pos width : Nat) : Nat := digits 10 0 ((text.drop pos).take width)

/-- The tenths of a second since the epoch that a text `YYYY-MM-DDTHH:MM:SS.dZ` names; the
year may have more digits. -/
def readIso8601 (text : Bytes) : Option Nat :=
  let rest := text.dropWhile isDecimal
  if rest.length = 18 ∧ rest.getD 0 0 = 45 ∧ rest.getD 3 0 = 45 ∧ rest.getD 6 0 = 84 ∧
      rest.getD 9 0 = 58 ∧ rest.getD 12 0 = 58 ∧ rest.getD 15 0 = 46 ∧ rest.getD 17 0 = 90 then
    (DateTime.ofFields (digits 10 0 text) (numberAt rest 1 2) (numberAt rest 4 2)
      (numberAt rest 7 2) (numberAt rest 10 2) (numberAt rest 13 2)).map fun t =>
        t.seconds * 10 + numberAt rest 16 1
  else none

/-- The text behind the year. -/
def isoRest (t : DateTime) (tenths : Nat) : Bytes :=
  45 :: lowDigits 2 t.date.month ++ 45 :: lowDigits 2 t.date.day ++ 84 :: lowDigits 2 t.hour ++
    58 :: lowDigits 2 t.minute ++ 58 :: lowDigits 2 t.second ++ 46 :: lowDigits 1 tenths ++ [90]

theorem numberAt_eq {text : Bytes} {pos width n : Nat}
    (htext : (text.drop pos).take width = lowDigits width n) (h : n < 10 ^ width) :
    numberAt text pos width = n := by
  rw [numberAt, htext, digits_lowDigits h]

theorem zeroPadded_two {n : Nat} (h : n < 100) : zeroPadded 2 n = lowDigits 2 n :=
  zeroPadded_of_lt (by decide) h

theorem iso8601_tmOf (t : DateTime) {tenths : Nat} (h : tenths < 10) :
    iso8601 (tmOf t) tenths = zeroPadded 4 t.date.year ++ isoRest t tenths := by
  have hyear : (tmOf t).year + 1900 = t.date.year := Int.sub_add_cancel _ _
  have hmon : (tmOf t).mon + 1 = t.date.month := Int.sub_add_cancel _ _
  have htenths : decimal tenths = lowDigits 1 tenths := by
    rw [decimal_of_lt h, lowDigits, lowDigits, Nat.mod_eq_of_lt h, List.nil_append]
  rw [iso8601, hyear, hmon, htenths, zeroPadded_two t.date.month_lt]
  change _ ++ zeroPadded 2 t.date.day ++ _ ++ zeroPadded 2 t.hour ++ _ ++
    zeroPadded 2 t.minute ++ _ ++ zeroPadded 2 t.second ++ _ ++ _ ++ _ = _
  rw [zeroPadded_two t.date.day_lt, zeroPadded_two (t.hour_lt.trans (by decide)),
    zeroPadded_two (t.minute_lt.trans (by decide)), zeroPadded_two (t.second_lt.trans (by decide))]
  simp only [List.append_assoc]
  rfl

theorem readIso8601_eq (t : DateTime) {w tenths : Nat} (h : tenths < 10)
    (hyear : t.date.year < 10 ^ w) :
    readIso8601 (lowDigits w t.date.year ++ isoRest t tenths) = some (t.seconds * 10 + tenths) := by
  have hdigits : digits 10 0 (lowDigits w t.date.year ++ isoRest t tenths) = t.date.year := by
    rw [digits_append isDecimal_of_mem_lowDigits, digits_lowDigits hyear]
    exact digits_stop rfl _ _
  have hrest : (lowDigits w t.date.year ++ isoRest t tenths).dropWhile isDecimal =
      isoRest t tenths := by
    rw [List.dropWhile_append_of_pos isDecimal_of_mem_lowDigits]
    rfl
  have hmonth : numberAt (isoRest t tenths) 1 2 = t.date.month := numberAt_eq rfl t.date.month_lt
  have hday : numberAt (isoRest t tenths) 4 2 = t.date.day := numberAt_eq rfl t.date.day_lt
  have hhour : numberAt (isoRest t tenths) 7 2 = t.hour :=
    numberAt_eq rfl (t.hour_lt.trans (by decide))
  have hminute : numberAt (isoRest t tenths) 10 2 = t.minute :=
    numberAt_eq rfl (t.minute_lt.trans (by decide))
  have hsecond : numberAt (isoRest t tenths) 13 2 = t.second :=
    numberAt_eq rfl (t.second_lt.trans (by decide))
  have htenths : numberAt (isoRest t tenths) 16 1 = tenths := numberAt_eq rfl h
  rw [readIso8601, hrest, hdigits, hmonth, hday, hhour, hminute, hsecond, htenths,
    DateTime.ofFields_eq]
  rfl

/-! ## GET_DATETIME -/

theorem length_isoRest (t : DateTime) (tenths : Nat) : (isoRest t tenths).length = 18 := rfl

/-- A year that the milliseconds of 64 bits can reach has at most nine digits. -/
theorem year_lt {t : DateTime} (h : t.seconds < 18446744073709552) :
    t.date.year < 1000000000 := by
  have hnumber := t.date.dayNumber_eq
  have hmarch : t.date.year ≤ t.date.marchYear + 1 := by
    unfold Date.marchYear
    split <;> omega
  unfold DateTime.seconds at h
  omega

/-- The text of a time is read back, and fits the buffer of the request. -/
theorem iso8601_reads (t : DateTime) {tenths : Nat} (h : tenths < 10)
    (hsec : t.seconds < 18446744073709552) :
    readIso8601 (iso8601 (tmOf t) tenths) = some (t.seconds * 10 + tenths) ∧
      (iso8601 (tmOf t) tenths).length < 32 := by
  obtain ⟨w, hle, hyear, hw, htext⟩ := zeroPadded_eq (show 0 < 4 by decide) t.date.year
  rw [iso8601_tmOf t h, htext]
  refine ⟨readIso8601_eq t h hyear, ?_⟩
  have hdigits : w ≤ 9 := by
    rcases hw with rfl | hlow
    · decide
    · have hlt : w - 1 < 9 :=
        (Nat.pow_lt_pow_iff_right (by decide)).mp (Nat.lt_of_le_of_lt hlow (year_lt hsec))
      omega
  rw [List.length_append, length_lowDigits, length_isoRest]
  omega

theorem timebaseGetUtcIso8601_ok {bufSize : Nat} (hbuf : 25 ≤ bufSize) {now : UInt64}
    {corr : TimeCorrelation} {utcMs : UInt64} (hutc : getCurrentUtcMs now corr = utcMs)
    (hne : utcMs ≠ 0) {text : Bytes}
    (htext : iso8601 (gmtimeR (utcMs / 1000).toNat) (utcMs % 1000 / 100).toNat = text)
    (hfits : text.length < bufSize) : timebaseGetUtcIso8601 bufSize now corr = .ok text := by
  unfold timebaseGetUtcIso8601
  rw [if_neg (Nat.not_lt.mpr hbuf)]
  simp only [hutc, htext]
  rw [if_neg hne, if_neg (Nat.not_le.mpr hfits)]

/-- What the request is answered with, and what a client reads in it. -/
structure Shows (encodes : Bool) (reply : Except MgmtErr (List (Bytes × Bytes))) (utcMs : Nat) :
    Prop where
  refused : encodes = false → reply = .error .emsgsize
  unknown : encodes = true → utcMs = 0 →
    reply = .ok [(ascii "error", ascii "No valid UTC time"), (ascii "datetime", [])]
  known : encodes = true → utcMs ≠ 0 → ∃ text, reply = .ok [(ascii "datetime", text)] ∧
    readIso8601 text = some (utcMs / 100)

/-- The date and time that is shown reads back as the current UTC time, cut to tenths of a
second, at every time and with every correlation; there is none exactly when UTC is 0, or when
the response cannot be encoded. -/
theorem getDatetime_shows (encodes : Bool) (now : UInt64) (corr : TimeCorrelation) :
    Shows encodes (tempoMgmtGetDatetime encodes now corr) (getCurrentUtcMs now corr).toNat := by
  generalize hutc : getCurrentUtcMs now corr = utcMs
  constructor
  · rintro rfl
    rfl
  · rintro rfl hzero
    have hzero : utcMs = 0 := UInt64.toNat_inj.mp hzero
    simp [tempoMgmtGetDatetime, timebaseGetUtcIso8601, hutc, hzero]
  · rintro rfl hne
    have hne : utcMs ≠ 0 := fun h => hne (congrArg UInt64.toNat h)
    have hsec : (utcMs / 1000).toNat = utcMs.toNat / 1000 := UInt64.toNat_div ..
    have htenths : (utcMs % 1000 / 100).toNat = utcMs.toNat % 1000 / 100 := by
      rw [UInt64.toNat_div, UInt64.toNat_mod]
      rfl
    have hrange := utcMs.toNat_lt
    obtain ⟨hreads, hfits⟩ := iso8601_reads (dateTimeOf (utcMs.toNat / 1000))
      (show utcMs.toNat % 1000 / 100 < 10 by omega) (by rw [seconds_dateTimeOf]; omega)
    rw [seconds_dateTimeOf] at hreads
    have htext : utcMs.toNat / 1000 * 10 + utcMs.toNat % 1000 / 100 = utcMs.toNat / 100 := by
      omega
    rw [htext] at hreads
    refine ⟨_, ?_, hreads⟩
    have hok := timebaseGetUtcIso8601_ok (by decide) hutc hne
      (by rw [hsec, htenths, gmtimeR]) hfits
    rw [tempoMgmtGetDatetime, hok]
    rfl

/-! ## From the sentence to the text -/

/-- The tokens of an active RMC sentence with a time of two places and a date from 2000 to
2099. -/
structure RmcNames (tokens : List Bytes) (t : DateTime) (hundredths : Nat) : Prop where
  count : 13 ≤ tokens.length
  active : rmcActive tokens = true
  time : ∃ more, token tokens 1 = lowDigits 2 t.hour ++ lowDigits 2 t.minute ++
    lowDigits 2 t.second ++ 46 :: lowDigits 2 hundredths ++ more
  date : token tokens 9 =
    lowDigits 2 t.date.day ++ lowDigits 2 t.date.month ++ lowDigits 2 (t.date.year - 2000)
  year_low : 2000 ≤ t.date.year
  year_high : t.date.year < 2100
  hundredths_lt : hundredths < 100

theorem twoChars_eq {text : Bytes} {i n : Nat} (h : n < 100)
    (htext : [text.getD i 0, text.getD (i + 1) 0] = lowDigits 2 n) : twoChars text i = n := by
  rw [twoChars, htext]
  exact strtol_lowDigits (by decide) h (Nat.lt_trans h (by decide))

theorem toNat_ofInt_uint8 {n : Nat} (h : n < 256) : (UInt8.ofInt n).toNat = n := by
  simp only [UInt8.ofInt, UInt8.toNat_ofNat']
  omega

theorem toNat_ofInt_uint16 {n : Nat} (h : n < 65536) : (UInt16.ofInt n).toNat = n := by
  simp only [UInt16.ofInt, UInt16.toNat_ofNat']
  omega

theorem takeTime_names {timeStr : Bytes} {t : DateTime} {hundredths : Nat}
    (hhundredths : hundredths < 100) (htime : ∃ more, timeStr = lowDigits 2 t.hour ++
      lowDigits 2 t.minute ++ lowDigits 2 t.second ++ 46 :: lowDigits 2 hundredths ++ more)
    (fix : GnssFix) :
    takeTime timeStr fix =
      { fix with
        hours := UInt8.ofInt t.hour
        minutes := UInt8.ofInt t.minute
        seconds := UInt8.ofInt t.second
        milliseconds := UInt16.ofInt (hundredths * 10 : Nat)
        timeValid := true } := by
  obtain ⟨more, htime⟩ := htime
  have hhour := t.hour_lt
  have hminute := t.minute_lt
  have hsecond := t.second_lt
  have h0 : twoChars timeStr 0 = t.hour := twoChars_eq (by omega) (by rw [htime]; rfl)
  have h2 : twoChars timeStr 2 = t.minute := twoChars_eq (by omega) (by rw [htime]; rfl)
  have h4 : twoChars timeStr 4 = t.second := twoChars_eq (by omega) (by rw [htime]; rfl)
  have hlength : 9 ≤ timeStr.length := by
    rw [htime]
    simp only [List.length_append, List.length_cons, length_lowDigits]
    omega
  have hfraction : fraction timeStr = (hundredths * 10 : Nat) := by
    have hpoint : timeStr.getD 6 0 = 46 := by rw [htime]; rfl
    have htext : [timeStr.getD 7 0, timeStr.getD 8 0, 48] = lowDigits 3 (hundredths * 10) := by
      have hlast : lowDigits 3 (hundredths * 10) = lowDigits 2 hundredths ++ [48] := by
        rw [lowDigits, Nat.mul_div_cancel _ (by decide), Nat.mul_mod_left]
        rfl
      rw [htime, hlast]
      rfl
    rw [fraction, if_pos ⟨hpoint, hlength⟩, htext]
    exact strtol_lowDigits (by decide) (by omega) (by omega)
  rw [takeTime, parseNmeaTime, if_neg (by omega), h0, h2, h4, hfraction]

theorem takeDate_names {date : Bytes} {d : Date} (hdate : date =
      lowDigits 2 d.day ++ lowDigits 2 d.month ++ lowDigits 2 (d.year - 2000))
    (hlow : 2000 ≤ d.year) (hhigh : d.year < 2100) (fix : GnssFix) :
    takeDate date fix =
      { fix with
        day := UInt8.ofInt d.day
        month := UInt8.ofInt d.month
        year := UInt16.ofInt d.year
        dateValid := true } := by
  have hmonth := d.month_lt
  have hday := d.day_lt
  have h0 : twoChars date 0 = d.day := twoChars_eq (by omega) (by rw [hdate]; rfl)
  have h2 : twoChars date 2 = d.month := twoChars_eq (by omega) (by rw [hdate]; rfl)
  have h4 : twoChars date 4 = (d.year - 2000 : Nat) :=
    twoChars_eq (by omega) (by rw [hdate]; rfl)
  have hyear : (2000 : Int) + (d.year - 2000 : Nat) = d.year := by omega
  have hlength : 6 ≤ date.length := by
    rw [hdate]
    simp
  rw [takeDate, if_pos hlength, h0, h2, h4, hyear]

/-- Such a sentence leaves its date and time in the fix. -/
theorem parseRmcTokens_names {tokens : List Bytes} {t : DateTime} {hundredths : Nat}
    (h : RmcNames tokens t hundredths) (fix : GnssFix) :
    (parseRmcTokens tokens fix).timeValid = true ∧ (parseRmcTokens tokens fix).dateValid = true ∧
      (parseRmcTokens tokens fix).tm = tmOf t ∧
      (parseRmcTokens tokens fix).milliseconds.toNat = hundredths * 10 := by
  obtain ⟨-, hactive, htime, hdate, hlow, hhigh, hhundredths⟩ := h
  have hhour := t.hour_lt
  have hminute := t.minute_lt
  have hsecond := t.second_lt
  have hmonth := t.date.month_lt
  have hday := t.date.day_lt
  have hsome : 0 < (token tokens 1).length := by
    obtain ⟨more, htime⟩ := htime
    simp [htime]
  rw [parseRmcTokens, if_pos hactive, if_pos hsome, takeTime_names hhundredths htime,
    takeDate_names hdate hlow hhigh]
  refine ⟨rfl, rfl, ?_, ?_⟩
  · simp only [GnssFix.tm, tmOf]
    rw [toNat_ofInt_uint16 (by omega), toNat_ofInt_uint8 (by omega), toNat_ofInt_uint8 (by omega),
      toNat_ofInt_uint8 (by omega), toNat_ofInt_uint8 (by omega), toNat_ofInt_uint8 (by omega)]
  · exact toNat_ofInt_uint16 (by omega)

theorem not_isGga_of_isRmc {sentence : Bytes} (h : isRmc sentence = true) :
    isGga sentence = false := by
  have hboth {gga rmc : Bytes} (hrmc : startsWith rmc sentence = true)
      (hlength : gga.length = rmc.length) (hne : gga ≠ rmc) : startsWith gga sentence = false := by
    rw [Bool.eq_false_iff]
    intro hgga
    rw [startsWith_iff] at hgga hrmc
    exact hne ((List.prefix_of_prefix_length_le hgga hrmc hlength.le).eq_of_length hlength)
  rw [isRmc, Bool.or_eq_true] at h
  rw [isGga, Bool.or_eq_false_iff]
  rcases h with h | h
  · exact ⟨hboth h (by decide +kernel) (by decide +kernel),
      hboth h (by decide +kernel) (by decide +kernel)⟩
  · exact ⟨hboth h (by decide +kernel) (by decide +kernel),
      hboth h (by decide +kernel) (by decide +kernel)⟩

section Clock

variable {mktime : Tm → Option Int}

/-- The clock and the correlation are set to a date and time, with milliseconds, at `now`. -/
structure GnssTime.SetTo (s : GnssTime) (t : DateTime) (ms : Nat) (now : UInt64) : Prop where
  timeSet : s.timeSet = true
  clock : ∃ clock ∈ s.clock, clock.unixTime = t.seconds ∧ clock.milliseconds.toNat = ms
  valid : s.correlation.valid = true
  monoUs : s.correlation.monoUs = now
  utcMs : s.correlation.utcMs.toNat = t.seconds * 1000 + ms

/-- The seconds before the year 2100. -/
theorem seconds_lt_of_year {t : DateTime} (h : t.date.year < 2100) : t.seconds < 4102444800 := by
  have hday := (t.date.year_lt_iff (by decide)).mp h
  have hhour := t.hour_lt
  have hminute := t.minute_lt
  have hsecond := t.second_lt
  unfold DateTime.seconds
  omega

theorem toNat_ofInt_uint64 {n : Nat} (h : n < 18446744073709551616) :
    (UInt64.ofInt n).toNat = n := by
  simp only [UInt64.ofInt, UInt64.toNat_ofNat']
  omega

/-- The first sentence with a date and time sets the clock to it. -/
theorem processNmeaSentence_sets
    (hmktime : ∀ t : DateTime, mktime (tmOf t) = some (t.seconds : Int)) {s : GnssTime}
    (hset : s.timeSet = false) {sentence : Bytes} (hrmc : isRmc sentence = true)
    (hlength : 6 < sentence.length) {t : DateTime} {hundredths : Nat}
    (hnames : RmcNames (sentenceTokens sentence) t hundredths) {e : SentenceEnv}
    (hclock : e.clockSettime = 0) :
    (processNmeaSentence mktime sentence e s).SetTo t (hundredths * 10) e.now := by
  obtain ⟨htime, hdate, htm, hms⟩ := parseRmcTokens_names hnames s.fix
  have hyear := hnames.year_high
  have hseconds : t.seconds < 4102444800 := seconds_lt_of_year hyear
  have hhundredths := hnames.hundredths_lt
  rw [processNmeaSentence, if_neg (Nat.not_le.mpr hlength), not_isGga_of_isRmc hrmc,
    if_neg Bool.false_ne_true, if_pos hrmc, parseRmc, if_neg (Nat.not_lt.mpr hnames.count),
    updateSystemTimeFromFix]
  simp only [htime, hdate, hset, htm, hmktime, hclock, Bool.not_true, Bool.or_self,
    Bool.false_eq_true, if_false, if_true]
  refine ⟨rfl, ⟨_, rfl, rfl, hms⟩, rfl, rfl, ?_⟩
  change (UInt64.ofInt t.seconds * 1000 + UInt16.toUInt64 _).toNat = _
  rw [UInt64.toNat_add, UInt64.toNat_mul, toNat_ofInt_uint64 (by omega), UInt16.toNat_toUInt64, hms]
  change (t.seconds * 1000 % 18446744073709551616 + _) % 18446744073709551616 = _
  omega

variable (mktime) in
/-- No later sentence sets the clock again. -/
theorem gnssStep_keeps {t : DateTime} {ms : Nat} {now : UInt64} (s : GnssReceiver)
    (input : GnssInput) (h : s.time.SetTo t ms now) :
    (gnssStep mktime s input).1.time.SetTo t ms now := by
  obtain ⟨hset, hclock, hvalid, hmono, hutc⟩ := h
  have hupdate (e : SentenceEnv) (fix : GnssFix) :
      updateSystemTimeFromFix mktime e { s.time with fix } = { s.time with fix } := by
    simp [updateSystemTimeFromFix, hset]
  unfold gnssStep
  cases completedSentence s.demux input with
  | none => exact ⟨hset, hclock, hvalid, hmono, hutc⟩
  | some sentence =>
    simp only [Option.elim_some]
    unfold processNmeaSentence parseRmc
    split
    · exact ⟨hset, hclock, hvalid, hmono, hutc⟩
    · split
      · exact ⟨hset, hclock, hvalid, hmono, hutc⟩
      · split
        · simp only
          split
          · exact ⟨hset, hclock, hvalid, hmono, hutc⟩
          · rw [hupdate]
            exact ⟨hset, hclock, hvalid, hmono, hutc⟩
        · exact ⟨hset, hclock, hvalid, hmono, hutc⟩

/-- What is shown once the clock is set. -/
theorem GnssTime.SetTo.shows {s : GnssTime} {t : DateTime} {ms : Nat} {set now : UInt64}
    (h : s.SetTo t ms set) (hyear : t.date.year < 2100) (hms : ms < 1000) (hlater : set ≤ now)
    (hsize : now.toNat - set.toNat < 9223372036854775808) (encodes : Bool) :
    Shows encodes (tempoMgmtGetDatetime encodes now s.correlation)
      (t.seconds * 1000 + ms + (now.toNat - set.toNat) / 1000) := by
  have hseconds := seconds_lt_of_year hyear
  have hmono := h.monoUs
  have hutc := TimeCorrelation.utcAt_later (hmono ▸ hlater) (hmono ▸ hsize)
    (by rw [h.utcMs, hmono]; omega)
  have hcurrent : getCurrentUtcMs now s.correlation = s.correlation.utcAt now := by
    rw [getCurrentUtcMs, timebaseMonoToUtc, if_pos h.valid, Option.getD_some]
  have hshows := getDatetime_shows encodes now s.correlation
  rw [hcurrent, hutc, h.utcMs, hmono] at hshows
  exact hshows

/-- From the first sentence with a date and time on, whatever the receiver sends after it,
the request is answered with the time of that sentence and the time that has passed since.
-/
theorem getDatetime_of_sentence (hmktime : ∀ t : DateTime, mktime (tmOf t) = some (t.seconds : Int))
    {s : GnssReceiver} (hset : s.time.timeSet = false) {input : GnssInput} {sentence : Bytes}
    (hcompleted : completedSentence s.demux input = some sentence)
    (hrmc : isRmc sentence = true) (hlength : 6 < sentence.length) {t : DateTime}
    {hundredths : Nat} (hnames : RmcNames (sentenceTokens sentence) t hundredths)
    (hclock : input.env.clockSettime = 0) (inputs : List GnssInput) {now : UInt64}
    (hlater : input.env.now ≤ now)
    (hsize : now.toNat - input.env.now.toNat < 9223372036854775808) (encodes : Bool) :
    Shows encodes
      (tempoMgmtGetDatetime encodes now
        (Machine.run (gnssStep mktime) s (input :: inputs)).1.time.correlation)
      (t.seconds * 1000 + hundredths * 10 + (now.toNat - input.env.now.toNat) / 1000) := by
  have hfirst : (gnssStep mktime s input).1.time.SetTo t (hundredths * 10) input.env.now := by
    unfold gnssStep
    rw [hcompleted]
    exact processNmeaSentence_sets hmktime hset hrmc hlength hnames hclock
  have hrun := Machine.run_invariant (gnssStep_keeps mktime) hfirst inputs
  have hhundredths := hnames.hundredths_lt
  exact hrun.shows hnames.year_high (by omega) hlater hsize encodes

end Clock

/-! ### 24 July 2025, 12:35:19.45 -/

/-- `mktime`, where the fields name a date and time. -/
def timegm (tm : Tm) : Option Int :=
  (DateTime.ofFields (tm.year + 1900).toNat (tm.mon + 1).toNat tm.mday.toNat tm.hour.toNat
    tm.min.toNat tm.sec.toNat).map fun t => t.seconds

theorem timegm_tmOf (t : DateTime) : timegm (tmOf t) = some (t.seconds : Int) := by
  have hyear : (tmOf t).year + 1900 = t.date.year := Int.sub_add_cancel _ _
  have hmon : (tmOf t).mon + 1 = t.date.month := Int.sub_add_cancel _ _
  rw [timegm, hyear, hmon]
  change (DateTime.ofFields t.date.year t.date.month t.date.day t.hour t.minute t.second).map _ = _
  rw [DateTime.ofFields_eq]
  rfl

def julyTime : DateTime where
  date := ⟨2025, 7, 24, by decide, by decide, by decide, by decide, by decide⟩
  hour := 12
  minute := 35
  second := 19
  hour_lt := by decide
  minute_lt := by decide
  second_lt := by decide

def julySentence : Bytes := ascii "$GPRMC,123519.45,A,,,,,,,240725,,,*2E"

/-- The receiver that lacks only the end of the line. -/
def julyReceiver : GnssReceiver :=
  (Machine.run (gnssStep timegm) (.initial true)
    (julySentence.map fun byte => ⟨byte, 5000000, 0⟩)).1

theorem julySentence_names : RmcNames (sentenceTokens julySentence) julyTime 45 where
  count := by decide +kernel
  active := by decide +kernel
  time := ⟨[], by decide +kernel⟩
  date := by decide +kernel
  year_low := by decide
  year_high := by decide
  hundredths_lt := by decide

/-- A minute later, in which another line begins. -/
theorem getDatetime_of_sentence_july :
    Shows true
      (tempoMgmtGetDatetime true 65000000
        (Machine.run (gnssStep timegm) julyReceiver
          [⟨13, 5000000, 0⟩, ⟨10, 5000000, 0⟩, ⟨36, 6000000, 0⟩]).1.time.correlation)
      1753360579450 := by
  have hset : julyReceiver.time.timeSet = false := by decide +kernel
  have hcompleted : completedSentence julyReceiver.demux ⟨13, 5000000, 0⟩ = some julySentence := by
    decide +kernel
  have hlater : (5000000 : UInt64) ≤ 65000000 := by decide
  have hshows := getDatetime_of_sentence timegm_tmOf hset hcompleted (by decide +kernel)
    (by decide +kernel) julySentence_names rfl [⟨10, 5000000, 0⟩, ⟨36, 6000000, 0⟩] hlater
    (by decide) true
  have hms : julyTime.seconds * 1000 + 45 * 10 + ((65000000 : UInt64).toNat - 5000000) / 1000 =
      1753360579450 := by
    decide
  rw [← hms]
  exact hshows

end TempoBt
