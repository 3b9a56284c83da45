-- SUMMARY: Broken-down time: the fields that gmtime makes of seconds, and the texts of the folders of a session.
import TempoBt.Lib.Calendar
import TempoBt.Lib.FixedWidth

/-!
# Broken-down time

Times are seconds since 1970. The library of C makes fields of them, and texts of the
fields.
-/

namespace TempoBt

open Bytes Printf Calendar

/-- The fields of a `struct tm` that are set. -/
structure Tm where
  year : Int
  mon : Int
  mday : Int
  hour : Int
  min : Int
  sec : Int
  deriving DecidableEq

/-- The `struct tm` of a date and time. -/
def tmOf (t : DateTime) : Tm where
  year := t.date.year - 1900
  mon := t.date.month - 1
  mday := t.date.day
  hour := t.hour
  min := t.minute
  sec := t.second

/-- `gmtime` and `gmtime_r` -/
def gmtimeR (sec : Nat) : Tm := tmOf (dateTimeOf sec)

/-- `strftime` with `%Y%m%d`; its buffer has room for years of eleven digits. -/
def dateFolder (sec : Nat) : Bytes :=
  let tm := gmtimeR sec
  decimalInt (tm.year + 1900) ++ zeroPadded 2 (tm.mon + 1) ++ zeroPadded 2 tm.mday

/-- `strftime` with `%H%M%S` -/
def timeFolder (sec : Nat) : Bytes :=
  let tm := gmtimeR sec
  zeroPadded 2 tm.hour ++ zeroPadded 2 tm.min ++ zeroPadded 2 tm.sec

end TempoBt
