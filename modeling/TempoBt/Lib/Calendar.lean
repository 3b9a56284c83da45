-- SUMMARY: The Gregorian calendar from 1970 on: the days since the epoch of a date, the date that has a number of days, and the order of dates as that of their days.
import Mathlib.Algebra.Order.Group.Nat
import Mathlib.Order.Monotone.Basic
import Mathlib.Tactic.IntervalCases

/-!
# Calendar

The number of a day is counted as POSIX does, by the years since the epoch and their leap
days. The date is found from the other end, in cycles of 400, 100 and 4 years that begin in
March, so that a leap day is the last one of its cycle.
-/

namespace Calendar

/-! ## Cycles -/

/-- A day of the calendar, by the cycles of 400, 100 and 4 years it lies in. -/
structure Cycles where
  era : Nat
  century : Nat
  quad : Nat
  year : Nat
  day : Nat
  century_le : century ≤ 3
  quad_le : quad ≤ 24
  year_le : year ≤ 3
  day_le : day < 365 ∨ day = 365 ∧ year = 3 ∧ (quad < 24 ∨ century = 3)

namespace Cycles

def number (k : Cycles) : Nat :=
  k.era * 146097 + k.century * 36524 + k.quad * 1461 + k.year * 365 + k.day

/-- The years that are over. -/
def years (k : Cycles) : Nat := k.era * 400 + k.century * 100 + k.quad * 4 + k.year

end Cycles

/-- Of a remainder in so many parts of equal length, the last one a day longer. -/
def part (n length last : Nat) : Nat := min (n / length) last

theorem part_le (n length last : Nat) : part n length last ≤ last := Nat.min_le_right _ _

theorem part_mul_le (n length last : Nat) : part n length last * length ≤ n :=
  (Nat.mul_le_mul_right _ (Nat.min_le_left _ _)).trans (Nat.div_mul_le_self _ _)

theorem part_rest {n length last : Nat} (hlen : 0 < length) (h : n ≤ length * (last + 1)) :
    n - part n length last * length < length ∨
      n - part n length last * length = length ∧ part n length last = last := by
  have hle : n / length ≤ last + 1 := Nat.div_le_of_le_mul h
  rcases hle.lt_or_eq with hlt | heq
  · left
    rw [part, Nat.min_eq_left (Nat.lt_succ_iff.mp hlt), Nat.mul_comm, ← Nat.mod_eq_sub_mul_div]
    exact Nat.mod_lt n hlen
  · right
    have hn : n = length * (last + 1) := by
      refine h.antisymm ?_
      rw [← heq]
      exact Nat.mul_div_le n length
    have hpart : part n length last = last := by
      rw [part, heq]
      exact Nat.min_eq_right (Nat.le_succ _)
    rw [hpart, hn, Nat.mul_succ, Nat.mul_comm, Nat.add_sub_cancel_left]
    exact ⟨rfl, rfl⟩

/-- The cycles of a day. -/
def cyclesOf (n : Nat) : Cycles :=
  let r400 := n % 146097
  let c := part r400 36524 3
  let r100 := r400 - c * 36524
  let r4 := r100 % 1461
  let a := part r4 365 3
  { era := n / 146097
    century := c
    quad := r100 / 1461
    year := a
    day := r4 - a * 365
    century_le := part_le _ _ _
    quad_le := by
      have h := @part_rest r400 36524 3 (by omega) (by omega)
      change _ / 1461 ≤ 24
      omega
    year_le := part_le _ _ _
    day_le := by
      have h := @part_rest r400 36524 3 (by omega) (by omega)
      have h' := @part_rest r4 365 3 (by omega) (by omega)
      change r4 - a * 365 < 365 ∨ r4 - a * 365 = 365 ∧ a = 3 ∧ (r100 / 1461 < 24 ∨ c = 3)
      change r100 < _ ∨ r100 = _ ∧ c = 3 at h
      change r4 - a * 365 < _ ∨ r4 - a * 365 = _ ∧ a = 3 at h'
      rcases h' with h' | ⟨h', ha⟩
      · exact .inl h'
      · rcases h with h | ⟨h, hc⟩
        · refine .inr ⟨h', ha, .inl ?_⟩
          have : r4 = r100 % 1461 := rfl
          omega
        · exact .inr ⟨h', ha, .inr hc⟩ }

def leapDays (y : Nat) : Nat := y / 4 - y / 100 + y / 400

theorem leapDays_cycles (k : Cycles) :
   k.years * 365 + leapDays k.years + k.day = k.number := by
  have := k.century_le
  have := k.quad_le
  have := k.year_le
  unfold leapDays Cycles.years Cycles.number
  omega

theorem number_cyclesOf (n : Nat) : (cyclesOf n).number = n := by
  dsimp only [cyclesOf, Cycles.number]
  have h1 := part_mul_le (n % 146097) 36524 3
  have h2 := part_mul_le ((n % 146097 - part (n % 146097) 36524 3 * 36524) % 1461) 365 3
  omega

/-! ## Dates -/

def IsLeap (year : Nat) : Prop := year % 4 = 0 ∧ (year % 100 ≠ 0 ∨ year % 400 = 0)

instance (year : Nat) : Decidable (IsLeap year) := inferInstanceAs (Decidable (_ ∧ _))

/-- The days of a month. -/
def monthLength (year : Nat) : Nat → Nat
  | 2 => if IsLeap year then 29 else 28
  | 4 | 6 | 9 | 11 => 30
  | _ => 31

theorem monthLength_le (year month : Nat) : monthLength year month ≤ 31 := by
  unfold monthLength
  split
  · split <;> decide
  all_goals decide

/-- The days of a year before a month. -/
def daysBefore (year : Nat) : Nat → Nat
  | 0 | 1 => 0
  | month + 2 => daysBefore year (month + 1) + monthLength year (month + 1)

@[ext]
structure Date where
  year : Nat
  month : Nat
  day : Nat
  year_le : 1970 ≤ year
  month_pos : 1 ≤ month
  month_le : month ≤ 12
  day_pos : 1 ≤ day
  day_le : day ≤ monthLength year month
  deriving DecidableEq

theorem Date.month_lt (d : Date) : d.month < 100 := Nat.lt_of_le_of_lt d.month_le (by decide)

theorem Date.day_lt (d : Date) : d.day < 100 :=
  Nat.lt_of_le_of_lt (d.day_le.trans (monthLength_le d.year d.month)) (by decide)

/-- The days since 1 January 1970. -/
def Date.dayNumber (d : Date) : Nat :=
  (d.year - 1970) * 365 + (d.year - 1969) / 4 - (d.year - 1901) / 100 + (d.year - 1601) / 400 +
    daysBefore d.year d.month + (d.day - 1)

theorem leapDays_succ (y : Nat) :
    leapDays (y + 1) = leapDays y + if IsLeap (y + 1) then 1 else 0 := by
  have h4 : (y + 1) / 4 = _ := Nat.succ_div
  have h100 : (y + 1) / 100 = _ := Nat.succ_div
  have h400 : (y + 1) / 400 = _ := Nat.succ_div
  simp only [Nat.dvd_iff_mod_eq_zero] at h4 h100 h400
  have hle : y / 100 ≤ y / 4 := Nat.div_le_div_left (by decide) (by decide)
  unfold leapDays IsLeap
  rw [h4, h100, h400]
  rcases Nat.eq_zero_or_pos ((y + 1) % 400) with h | h
  · have h1 : (y + 1) % 100 = 0 := by omega
    have h2 : (y + 1) % 4 = 0 := by omega
    simp [h, h1, h2]
    omega
  · rcases Nat.eq_zero_or_pos ((y + 1) % 100) with h1 | h1
    · have h2 : (y + 1) % 4 = 0 := by omega
      simp [h.ne', h1, h2]
    · rcases Nat.eq_zero_or_pos ((y + 1) % 4) with h2 | h2
      · simp [h.ne', h1.ne', h2]
        omega
      · simp [h.ne', h1.ne', h2.ne']

/-- The number of a month, in a year that begins in March. -/
def marchMonth (month : Nat) : Nat := if 2 < month then month - 3 else month + 9

/-- The day a month begins with, in a year that begins in March. -/
def marchStart (m : Nat) : Nat := (153 * m + 2) / 5

/-- The year of a date, when it begins in March. -/
def Date.marchYear (d : Date) : Nat := if 2 < d.month then d.year else d.year - 1

/-- The day of a date, in a year that begins in March. -/
def Date.marchDay (d : Date) : Nat := marchStart (marchMonth d.month) + (d.day - 1)

/-- The days of the years before a year of the epoch. -/
theorem yearDays_eq {y : Nat} (h : 1970 ≤ y) :
    (y - 1970) * 365 + (y - 1969) / 4 - (y - 1901) / 100 + (y - 1601) / 400 + 719468 =
      (y - 1) * 365 + leapDays (y - 1) + 306 := by
  obtain ⟨k, rfl⟩ := Nat.exists_eq_add_of_le h
  unfold leapDays
  omega

/-- The days of a year before a month, by the leap day that comes first. -/
theorem daysBefore_eq {year month : Nat} (hpos : 1 ≤ month) (hle : month ≤ 12) :
    daysBefore year month =
      if 2 < month then 59 + (if IsLeap year then 1 else 0) + marchStart (marchMonth month)
      else 31 * (month - 1) := by
  interval_cases month <;> by_cases hleap : IsLeap year <;>
    simp [daysBefore, monthLength, marchStart, marchMonth, hleap]

/-- The days since the epoch, in years that begin in March. -/
theorem Date.dayNumber_eq (d : Date) :
    d.dayNumber + 719468 = d.marchYear * 365 + leapDays d.marchYear + d.marchDay := by
  have hyears := yearDays_eq d.year_le
  have hyear := d.year_le
  have hpos := d.month_pos
  unfold Date.dayNumber Date.marchYear Date.marchDay
  rw [daysBefore_eq hpos d.month_le]
  by_cases hmonth : 2 < d.month
  · have hsucc := leapDays_succ (d.year - 1)
    rw [Nat.sub_add_cancel (Nat.le_trans (by decide) hyear)] at hsucc
    rw [if_pos hmonth, if_pos hmonth]
    omega
  · rw [if_neg hmonth, if_neg hmonth, marchStart, marchMonth, if_neg hmonth]
    omega

/-! ## Years that begin in March -/

/-- The months but February have the length that their days in March's year leave. -/
theorem monthLength_march (year : Nat) {month : Nat} (hpos : 1 ≤ month) (hle : month ≤ 12)
    (hfeb : month ≠ 2) :
    marchStart (marchMonth month) + monthLength year month = marchStart (marchMonth month + 1) := by
  interval_cases month
  case «2» => exact absurd rfl hfeb
  all_goals rfl

theorem Date.marchDay_lt (d : Date) : d.marchDay < marchStart (marchMonth d.month + 1) := by
  have hday := d.day_le
  have hpos := d.day_pos
  unfold marchDay
  by_cases hfeb : d.month = 2
  · rw [hfeb, monthLength] at hday
    rw [hfeb]
    change 337 + _ < 367
    split at hday <;> omega
  · have := monthLength_march d.year d.month_pos d.month_le hfeb
    omega

/-- A year that begins in March ends with the leap day of the year after. -/
theorem Date.marchDay_le (d : Date) :
    d.marchDay < 365 ∨ d.marchDay = 365 ∧ IsLeap (d.marchYear + 1) := by
  have hday := d.day_le
  have hpos := d.day_pos
  by_cases hfeb : d.month = 2
  · have hyear : d.marchYear + 1 = d.year := by
      have := d.year_le
      rw [marchYear, hfeb, if_neg (by decide)]
      omega
    rw [hyear]
    rw [hfeb, monthLength] at hday
    rw [marchDay, hfeb]
    change 337 + _ < 365 ∨ 337 + _ = 365 ∧ IsLeap d.year
    split at hday
    · rename_i hleap
      simp only [hleap, and_true]
      omega
    · omega
  · have hmonth : marchMonth d.month ≤ 10 := by
      have := d.month_pos
      have := d.month_le
      unfold marchMonth
      split <;> omega
    have := d.marchDay_lt
    unfold marchStart at this
    omega

theorem isLeap_cycles {era century quad year : Nat} (hc : century ≤ 3) (hq : quad ≤ 24)
    (hy : year ≤ 3) :
    IsLeap (era * 400 + century * 100 + quad * 4 + year + 1) ↔
      year = 3 ∧ (quad < 24 ∨ century = 3) := by
  unfold IsLeap
  omega

/-! ## The date of a day -/

/-- The month of a day, in a year that begins in March. -/
def monthOf (dayOfYear : Nat) : Nat := (5 * dayOfYear + 2) / 153

theorem marchStart_monthOf_le (n : Nat) : marchStart (monthOf n) ≤ n := by
  unfold marchStart monthOf
  omega

theorem lt_marchStart_monthOf (n : Nat) : n < marchStart (monthOf n + 1) := by
  unfold marchStart monthOf
  omega

/-- The month of the calendar that a month of March's year is. -/
def calendarMonth (m : Nat) : Nat := if m < 10 then m + 3 else m - 9

theorem marchMonth_calendarMonth {m : Nat} (h : m ≤ 11) : marchMonth (calendarMonth m) = m := by
  unfold marchMonth calendarMonth
  split <;> split <;> omega

theorem two_lt_calendarMonth {m : Nat} (h : m ≤ 11) : 2 < calendarMonth m ↔ m < 10 := by
  unfold calendarMonth
  split <;> omega

/-- The year in which a day of the cycles lies. -/
def Cycles.calendarYear (k : Cycles) : Nat := if monthOf k.day < 10 then k.years else k.years + 1

theorem Cycles.monthOf_le (k : Cycles) : monthOf k.day ≤ 11 := by
  have hday := k.day_le
  unfold monthOf
  omega

theorem Cycles.isLeap (k : Cycles) (h : k.day = 365) : IsLeap (k.years + 1) := by
  rcases k.day_le with hday | ⟨-, hyear, hquad⟩
  · omega
  · exact (isLeap_cycles k.century_le k.quad_le k.year_le).mpr ⟨hyear, hquad⟩

theorem Cycles.day_le_monthLength (k : Cycles) :
    k.day - marchStart (monthOf k.day) + 1 ≤
      monthLength k.calendarYear (calendarMonth (monthOf k.day)) := by
  have hmonth := k.monthOf_le
  have hlow := marchStart_monthOf_le k.day
  have hhigh := lt_marchStart_monthOf k.day
  by_cases hfeb : monthOf k.day = 11
  · have hday := k.day_le
    have hleap := k.isLeap
    rw [calendarYear, hfeb, if_neg (by decide)]
    rw [hfeb] at hlow
    change 337 ≤ _ at hlow
    change _ - 337 + 1 ≤ monthLength _ 2
    rw [monthLength]
    split
    · omega
    · rename_i hnot
      have : k.day ≠ 365 := fun h => hnot (hleap h)
      omega
  · have hpos : 1 ≤ calendarMonth (monthOf k.day) := by
      unfold calendarMonth
      split <;> omega
    have hle : calendarMonth (monthOf k.day) ≤ 12 := by
      unfold calendarMonth
      split <;> omega
    have hne : calendarMonth (monthOf k.day) ≠ 2 := by
      unfold calendarMonth
      split <;> omega
    have hlength := monthLength_march k.calendarYear hpos hle hne
    rw [marchMonth_calendarMonth hmonth] at hlength
    omega

/-- The date of a day that is not before 1970. -/
def Cycles.date (k : Cycles) (h : 719468 ≤ k.number) : Date where
  year := k.calendarYear
  month := calendarMonth (monthOf k.day)
  day := k.day - marchStart (monthOf k.day) + 1
  year_le := by
    have hnumber := leapDays_cycles k
    have hday := k.day_le
    unfold leapDays at hnumber
    unfold calendarYear monthOf
    split <;> omega
  month_pos := by
    unfold calendarMonth
    split <;> omega
  month_le := by
    have hmonth := k.monthOf_le
    unfold calendarMonth
    split <;> omega
  day_pos := Nat.le_add_left _ _
  day_le := k.day_le_monthLength

theorem Cycles.marchDay_date (k : Cycles) (h : 719468 ≤ k.number) :
    (k.date h).marchDay = k.day := by
  have hlow := marchStart_monthOf_le k.day
  unfold Date.marchDay Cycles.date
  dsimp only
  rw [marchMonth_calendarMonth k.monthOf_le]
  omega

theorem Cycles.marchYear_date (k : Cycles) (h : 719468 ≤ k.number) :
    (k.date h).marchYear = k.years := by
  change (if 2 < calendarMonth (monthOf k.day) then k.calendarYear else k.calendarYear - 1) = _
  unfold calendarYear
  by_cases hmonth : monthOf k.day < 10
  · rw [if_pos ((two_lt_calendarMonth k.monthOf_le).mpr hmonth), if_pos hmonth]
  · rw [if_neg (mt (two_lt_calendarMonth k.monthOf_le).mp hmonth), if_neg hmonth,
      Nat.add_sub_cancel]

/-- The date of a day since 1 January 1970, which is day 719468 since 1 March 0. -/
def dateOf (n : Nat) : Date :=
  (cyclesOf (n + 719468)).date (by rw [number_cyclesOf]; exact Nat.le_add_left _ _)

theorem dayNumber_dateOf (n : Nat) : (dateOf n).dayNumber = n := by
  have hnumber : (dateOf n).dayNumber + 719468 = n + 719468 := by
    rw [Date.dayNumber_eq, dateOf, Cycles.marchYear_date, Cycles.marchDay_date, leapDays_cycles,
      number_cyclesOf]
  exact Nat.add_right_cancel hnumber

/-! ## The order of dates -/

/-- A later date has the greater year, or else the greater month, or else the greater day. -/
def Date.Before (d e : Date) : Prop :=
  d.year < e.year ∨ d.year = e.year ∧ (d.month < e.month ∨ d.month = e.month ∧ d.day < e.day)

/-- The days before 1 March of a year. -/
def daysToMarch (y : Nat) : Nat := y * 365 + leapDays y

theorem daysToMarch_succ (y : Nat) : daysToMarch y + 365 ≤ daysToMarch (y + 1) := by
  have := leapDays_succ y
  unfold daysToMarch
  omega

theorem daysToMarch_mono : Monotone daysToMarch :=
  monotone_nat_of_le_succ fun y => by
    have := daysToMarch_succ y
    omega

theorem marchStart_mono : Monotone marchStart := fun m m' h => by
  unfold marchStart
  omega

/-- A day is at most the last one of February, if its year begins in March. -/
theorem Date.dayNumber_lt (d : Date) : d.dayNumber + 719468 < daysToMarch (d.marchYear + 1) := by
  have hsucc := leapDays_succ d.marchYear
  rw [d.dayNumber_eq]
  unfold daysToMarch
  rcases d.marchDay_le with hday | ⟨hday, hleap⟩
  · omega
  · rw [if_pos hleap] at hsucc
    omega

theorem Date.dayNumber_lt_of_before {d e : Date} (h : d.Before e) : d.dayNumber < e.dayNumber := by
  have hd := d.dayNumber_eq
  have he := e.dayNumber_eq
  have hmarch : d.marchYear < e.marchYear ∨ d.marchYear = e.marchYear ∧
      (marchMonth d.month < marchMonth e.month ∨ d.month = e.month ∧ d.day < e.day) := by
    have hyear := d.year_le
    have hpos := e.month_pos
    have hle := d.month_le
    unfold Before at h
    unfold marchYear marchMonth
    split <;> split <;> omega
  rcases hmarch with hlt | ⟨heq, hlt | ⟨hmonth, hlt⟩⟩
  · have hlast := d.dayNumber_lt
    have hmono : daysToMarch (d.marchYear + 1) ≤ daysToMarch e.marchYear := daysToMarch_mono hlt
    unfold daysToMarch at hlast hmono
    omega
  · have hday : d.marchDay < e.marchDay :=
      d.marchDay_lt.trans_le ((marchStart_mono hlt).trans (Nat.le_add_right _ _))
    rw [heq] at hd
    omega
  · have hday := d.day_pos
    unfold marchDay at hd he
    rw [heq, hmonth] at hd
    omega

theorem Date.before_trichotomy (d e : Date) : d.Before e ∨ d = e ∨ e.Before d := by
  rw [Date.ext_iff]
  unfold Before
  omega

/-- The days are numbered in the order of their dates. -/
theorem Date.dayNumber_lt_iff {d e : Date} : d.dayNumber < e.dayNumber ↔ d.Before e := by
  refine ⟨fun h => ?_, dayNumber_lt_of_before⟩
  rcases d.before_trichotomy e with hbefore | rfl | hafter
  · exact hbefore
  · exact absurd h (Nat.lt_irrefl _)
  · exact absurd h (dayNumber_lt_of_before hafter).asymm

/-- The dates before a year are those whose days come before its first one. -/
theorem Date.year_lt_iff (d : Date) {y : Nat} (h : 1970 ≤ y) :
    d.year < y ↔
      d.dayNumber < (y - 1970) * 365 + (y - 1969) / 4 - (y - 1901) / 100 + (y - 1601) / 400 := by
  have hmonth := d.month_pos
  have hday := d.day_pos
  let newYear : Date :=
    ⟨y, 1, 1, h, by decide, by decide, by decide, by rw [monthLength] <;> decide⟩
  have hnumber : newYear.dayNumber =
      (y - 1970) * 365 + (y - 1969) / 4 - (y - 1901) / 100 + (y - 1601) / 400 := rfl
  have hbefore : d.Before newYear ↔ d.year < y := by
    unfold Before newYear
    dsimp only
    omega
  rw [← hnumber, dayNumber_lt_iff, hbefore]

/-! ## Times of day -/

/-- A second of a day; there are no leap seconds. -/
structure DateTime where
  date : Date
  hour : Nat
  minute : Nat
  second : Nat
  hour_lt : hour < 24
  minute_lt : minute < 60
  second_lt : second < 60
  deriving DecidableEq

/-- The date and time that fields name, if they name one. -/
def DateTime.ofFields (year month day hour minute second : Nat) : Option DateTime :=
  if h : (1970 ≤ year ∧ 1 ≤ month ∧ month ≤ 12 ∧ 1 ≤ day ∧ day ≤ monthLength year month) ∧
      hour < 24 ∧ minute < 60 ∧ second < 60 then
    some
      { date := ⟨year, month, day, h.1.1, h.1.2.1, h.1.2.2.1, h.1.2.2.2.1, h.1.2.2.2.2⟩
        hour, minute, second
        hour_lt := h.2.1
        minute_lt := h.2.2.1
        second_lt := h.2.2.2 }
  else none

theorem DateTime.ofFields_eq (t : DateTime) :
    ofFields t.date.year t.date.month t.date.day t.hour t.minute t.second = some t := by
  exact dif_pos ⟨⟨t.date.year_le, t.date.month_pos, t.date.month_le, t.date.day_pos,
    t.date.day_le⟩, t.hour_lt, t.minute_lt, t.second_lt⟩

/-- The seconds since the epoch. -/
def DateTime.seconds (t : DateTime) : Nat :=
  t.date.dayNumber * 86400 + t.hour * 3600 + t.minute * 60 + t.second

/-- The date and time of a number of seconds since the epoch. -/
def dateTimeOf (n : Nat) : DateTime where
  date := dateOf (n / 86400)
  hour := n % 86400 / 3600
  minute := n % 3600 / 60
  second := n % 60
  hour_lt := by omega
  minute_lt := by omega
  second_lt := by omega

theorem seconds_dateTimeOf (n : Nat) : (dateTimeOf n).seconds = n := by
  change (dateOf _).dayNumber * 86400 + n % 86400 / 3600 * 3600 + n % 3600 / 60 * 60 + n % 60 = n
  rw [dayNumber_dateOf]
  omega

end Calendar
