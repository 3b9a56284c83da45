-- SUMMARY: The position fix: how sentences are split into tokens, the date and time that they leave, and the clock that is set from them.
import TempoBt.Lib.CString
import TempoBt.Lib.Strtol
import TempoBt.Services.BrokenDownTime
import TempoBt.Services.Gnss.Demux
import TempoBt.Services.Timebase

/-!
# The fix

The sentences that change date and time, from the line to the clock. The numbers of a
position are left out: nothing decides on them. `mktime` is a parameter.
-/

namespace TempoBt

open Bytes CString

/-! ## Tokens -/

/-- The separator of the fields -/
def fieldSeparator : UInt8 := 44

/-- The loop of `nmea_tokenize`, at offset `pos`: what is left of the buffer, and the
offsets of the tokens found so far. -/
def nmeaTokenizeFrom (maxTokens : Nat) : Nat → List Nat → Bytes → Bytes × List Nat
  | _, tokens, [] => ([], tokens)
  | pos, tokens, c :: rest =>
    if c = 0 ∨ ¬ tokens.length < maxTokens then (c :: rest, tokens)
    else if c = fieldSeparator then
      let tokens := if tokens.length < maxTokens then tokens ++ [pos + 1] else tokens
      let r := nmeaTokenizeFrom maxTokens (pos + 1) tokens rest
      (0 :: r.1, r.2)
    else if c = star then (0 :: rest, tokens)
    else
      let r := nmeaTokenizeFrom maxTokens (pos + 1) tokens rest
      (c :: r.1, r.2)

/-- `nmea_tokenize`: the buffer afterwards, and the offsets of the tokens in it. -/
def nmeaTokenize (maxTokens : Nat) (buffer : Bytes) : Bytes × List Nat :=
  if maxTokens = 0 then (buffer, []) else nmeaTokenizeFrom maxTokens 0 [0] buffer

/-- `MAX_NMEA_TOKENS` -/
def maxNmeaTokens : Nat := 32

/-- The tokens of a sentence, as the strings that they are in the copy of it. -/
def sentenceTokens (sentence : Bytes) : List Bytes :=
  let r := nmeaTokenize maxNmeaTokens (copied gnssUartBufferSize (cstr sentence) ++ [0])
  r.2.map fun pos => cstr (r.1.drop pos)

/-- `tokens[i]` -/
def token (tokens : List Bytes) (i : Nat) : Bytes := tokens.getD i []

/-! ## The fix -/

/-- `gnss_fix_t`, without the numbers of position and speed -/
structure GnssFix where
  fixQuality : UInt8
  numSatellites : UInt8
  year : UInt16
  month : UInt8
  day : UInt8
  hours : UInt8
  minutes : UInt8
  seconds : UInt8
  milliseconds : UInt16
  positionValid : Bool
  timeValid : Bool
  dateValid : Bool
  timestampUs : UInt64
  deriving DecidableEq

/-- `current_fix` after `memset` -/
def GnssFix.initial : GnssFix := ⟨0, 0, 0, 0, 0, 0, 0, 0, 0, false, false, false, 0⟩

/-- What `strtol` reads in two characters of a text. -/
def twoChars (text : Bytes) (i : Nat) : Int := strtol 10 [text.getD i 0, text.getD (i + 1) 0]

/-- The milliseconds of a time: two places are read, and a third is taken as 0. -/
def fraction (timeStr : Bytes) : Int :=
  if timeStr.getD 6 0 = 46 ∧ 9 ≤ timeStr.length then
    strtol 10 [timeStr.getD 7 0, timeStr.getD 8 0, 48]
  else 0

/-- `parse_nmea_time` -/
def parseNmeaTime (timeStr : Bytes) (fix : GnssFix) : GnssFix × Bool :=
  if timeStr.length < 6 then (fix, false)
  else
    ({ fix with
        hours := UInt8.ofInt (twoChars timeStr 0)
        minutes := UInt8.ofInt (twoChars timeStr 2)
        seconds := UInt8.ofInt (twoChars timeStr 4)
        milliseconds := UInt16.ofInt (fraction timeStr) }, true)

/-- The time field of a sentence: what `parse_nmea_time` returns is not looked at. -/
def takeTime (timeStr : Bytes) (fix : GnssFix) : GnssFix :=
  { (parseNmeaTime timeStr fix).1 with timeValid := true }

/-- `parse_gga`, with the clock `now` -/
def parseGga (sentence : Bytes) (now : UInt64) (fix : GnssFix) : GnssFix :=
  let tokens := sentenceTokens sentence
  if tokens.length < 15 then fix
  else
    let fix :=
      if 0 < (token tokens 1).length then takeTime (token tokens 1) fix
      else { fix with timeValid := false }
    { fix with
      positionValid :=
        0 < (token tokens 2).length && 0 < (token tokens 3).length &&
          0 < (token tokens 4).length && 0 < (token tokens 5).length
      fixQuality := if 0 < (token tokens 6).length then strtolU8 10 (token tokens 6) else 0
      numSatellites := if 0 < (token tokens 7).length then strtolU8 10 (token tokens 7) else 0
      timestampUs := now }

/-- The date field of `parse_rmc` -/
def takeDate (date : Bytes) (fix : GnssFix) : GnssFix :=
  if 6 ≤ date.length then
    { fix with
      day := UInt8.ofInt (twoChars date 0)
      month := UInt8.ofInt (twoChars date 2)
      year := UInt16.ofInt (2000 + twoChars date 4)
      dateValid := true }
  else fix

/-- The status of an RMC sentence is A. -/
def rmcActive (tokens : List Bytes) : Bool := (token tokens 2).head? = some 65

/-- `parse_rmc` up to its call of `update_system_time_from_fix`, once it has its tokens -/
def parseRmcTokens (tokens : List Bytes) (fix : GnssFix) : GnssFix :=
  if rmcActive tokens then
    takeDate (token tokens 9)
      (if 0 < (token tokens 1).length then takeTime (token tokens 1) fix else fix)
  else { fix with dateValid := false, timeValid := false }

/-! ## The clock -/

/-- The `struct tm` of a fix: years since 1900, months since January. -/
def GnssFix.tm (fix : GnssFix) : Tm where
  year := fix.year.toNat - 1900
  mon := fix.month.toNat - 1
  mday := fix.day.toNat
  hour := fix.hours.toNat
  min := fix.minutes.toNat
  sec := fix.seconds.toNat

/-- The system clock: the date and time that it was set from, and the seconds and
milliseconds that it was set to. -/
structure SystemClock where
  setFrom : Tm
  unixTime : Int
  milliseconds : UInt16

/-- The static data of the GNSS service that a fix changes, and what is set from it. -/
structure GnssTime where
  fix : GnssFix
  /-- `gnss_time_set_flag` -/
  timeSet : Bool
  clock : Option SystemClock
  correlation : TimeCorrelation

/-- What the world answers while a sentence is processed: the clock, and the return
value of `clock_settime`. -/
structure SentenceEnv where
  now : UInt64
  clockSettime : Int

def isGga (sentence : Bytes) : Bool :=
  startsWith (ascii "$GNGGA") sentence || startsWith (ascii "$GPGGA") sentence

def isRmc (sentence : Bytes) : Bool :=
  startsWith (ascii "$GNRMC") sentence || startsWith (ascii "$GPRMC") sentence

section Clock

variable (mktime : Tm → Option Int)

/-- `update_system_time_from_fix`, where `mktime` has no value for -1 -/
def updateSystemTimeFromFix (e : SentenceEnv) (s : GnssTime) : GnssTime :=
  if !s.fix.dateValid || !s.fix.timeValid then s
  else if s.timeSet then s
  else
    match mktime s.fix.tm with
    | none => { s with fix := { s.fix with dateValid := false, timeValid := false } }
    | some unixTime =>
      if e.clockSettime = 0 then
        { s with
          timeSet := true
          clock := some ⟨s.fix.tm, unixTime, s.fix.milliseconds⟩
          correlation :=
            timebaseUpdateCorrelation
              (UInt64.ofInt unixTime * 1000 + s.fix.milliseconds.toUInt64) 100 e.now }
      else s

/-- `parse_rmc` -/
def parseRmc (sentence : Bytes) (e : SentenceEnv) (s : GnssTime) : GnssTime :=
  let tokens := sentenceTokens sentence
  if tokens.length < 13 then s
  else updateSystemTimeFromFix mktime e { s with fix := parseRmcTokens tokens s.fix }

/-- `process_nmea_sentence`; the other sentences leave date and time. -/
def processNmeaSentence (sentence : Bytes) (e : SentenceEnv) (s : GnssTime) : GnssTime :=
  if sentence.length ≤ 6 then s
  else if isGga sentence then { s with fix := parseGga sentence e.now s.fix }
  else if isRmc sentence then parseRmc mktime sentence e s
  else s

/-! ## The receiver -/

/-- The receive path with the fix it keeps up to date. -/
structure GnssReceiver where
  demux : Demux
  time : GnssTime

/-- A byte from the ring, with what the world answers while it is processed. -/
structure GnssInput where
  byte : UInt8
  env : SentenceEnv

/-- The sentence that a byte completes, if it does. -/
def completedSentence (d : Demux) (input : GnssInput) : Option Bytes :=
  (processUartByte d (input.env.now, input.byte)).2.findSome? fun
    | .sentence line => some line
    | .callback _ | .ubx _ => none

/-- One byte of `process_uart_data`, with the sentence that it completes. -/
def gnssStep (s : GnssReceiver) (input : GnssInput) : GnssReceiver × List GnssEvent :=
  ({ demux := (processUartByte s.demux (input.env.now, input.byte)).1
     time :=
      (completedSentence s.demux input).elim s.time fun sentence =>
        processNmeaSentence mktime sentence input.env s.time },
    (processUartByte s.demux (input.env.now, input.byte)).2)

end Clock

/-- The receiver after `gnss_init`, with an NMEA callback or none. -/
def GnssReceiver.initial (nmeaCallback : Bool) : GnssReceiver where
  demux := { Demux.initial with nmeaCallback }
  time := { fix := .initial, timeSet := false, clock := none, correlation := .initial }

end TempoBt
