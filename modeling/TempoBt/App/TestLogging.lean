-- SUMMARY: The test logging request: which texts it takes for a time, and which start it schedules.
import TempoBt.App.System
import TempoBt.Services.Timebase

/-!
# Test logging

`tempo_mgmt_test_logging` reads a minute and a second from four characters and
schedules the alarm for their next occurrence.
-/

namespace TempoBt

/-! ## The handler -/

/-- The variables of the decoding loop; `startStr` is not set without a `start`. -/
structure TestLoggingFields where
  startStr : Option Bytes := none
  hasStart : Bool := false
  jumpValue : UInt32 := 0
  hasJump : Bool := false

/-- One pass of the loop. A `start` of another length is stored too. -/
def testLoggingField : Bytes → CborItem → TestLoggingFields → Option TestLoggingFields :=
  onField (ascii "start") CborItem.tstr?
    (fun v f => { f with startStr := some v, hasStart := f.hasStart || v.length == 4 })
  <| onField (ascii "jump") CborItem.uint32? (fun v f => { f with jumpValue := v, hasJump := true })
  <| skipField

/-- `str.value[i]`, where `beyond` is what the memory holds after the text. -/
def byteAt (str : Bytes) (beyond : Nat → UInt8) (i : Nat) : UInt8 :=
  str.getD i (beyond (i - str.length))

/-- `(a - '0') * 10 + (b - '0')`, converted to 32 bits -/
def twoDigits (a b : UInt8) : UInt32 := (a.toUInt32 - 48) * 10 + (b.toUInt32 - 48)

/-- A start that has been scheduled. -/
structure TestLoggingSchedule where
  mm : UInt32
  ss : UInt32
  secondsUntilStart : UInt32
  targetUtcMs : UInt64
  jumpDelaySec : UInt32
  deriving DecidableEq

inductive TestLoggingReply where
  /-- `success` is false: there is no UTC time. -/
  | noUtc
  | scheduled (s : TestLoggingSchedule)

structure TestLoggingResult where
  reply : Except MgmtErr TestLoggingReply
  scheduled : Option TestLoggingSchedule
  /-- Whether the end of the text has been passed. -/
  overread : Bool

/-- The milliseconds of an hour up to `mm` minutes and `ss` seconds. -/
def hourOffsetMs (mm ss : UInt32) : UInt64 := (mm.toUInt64 * 60 + ss.toUInt64) * 1000

/-- `target_utc_ms`; the time of the correlation stands for the current one. -/
def testLoggingTarget (currentUtcMs : UInt64) (mm ss : UInt32) : UInt64 :=
  let currentHourStart := currentUtcMs / 3600000 * 3600000
  let targetUtcMs := currentHourStart + hourOffsetMs mm ss
  if targetUtcMs ≤ currentUtcMs then targetUtcMs + 3600000 else targetUtcMs

/-- What the handler schedules once the time is accepted. -/
def testLoggingSchedule (corr : TimeCorrelation) (mm ss jump : UInt32) : TestLoggingSchedule :=
  let targetUtcMs := testLoggingTarget corr.utcMs mm ss
  { mm, ss
    secondsUntilStart := ((targetUtcMs - corr.utcMs) / 1000).toUInt32
    targetUtcMs
    jumpDelaySec := jump }

/-- `tempo_mgmt_test_logging`; `fits` says whether the response has room. -/
def tempoMgmtTestLogging (request : SmpRequest) (beyond : Nat → UInt8) (corr : TimeCorrelation)
    (fits : Bool) : TestLoggingResult :=
  match decodeMap testLoggingField request {} with
  | none => ⟨.error .einval, none, false⟩
  | some f =>
    if !f.hasStart then ⟨.error .einval, none, false⟩
    else if f.hasJump && 3600 < f.jumpValue then ⟨.error .einval, none, false⟩
    else
      -- a text of four bytes has been seen, but a later one may have replaced it
      let str := f.startStr.getD []
      let value := byteAt str beyond
      let mm := twoDigits (value 0) (value 1)
      let ss := twoDigits (value 2) (value 3)
      let overread : Bool := str.length < 4
      if 59 < mm ∨ 59 < ss then ⟨.error .einval, none, overread⟩
      else if !(timebaseGetCorrelation corr).1 then
        ⟨if fits then .ok .noUtc else .error .emsgsize, none, overread⟩
      else
        let s := testLoggingSchedule corr mm ss (if f.hasJump then f.jumpValue else 0)
        -- the alarm is set also when the response does not fit
        ⟨if fits then .ok (.scheduled s) else .error .emsgsize, some s, overread⟩

/-- The alarm that a request leaves on the device. -/
def TestLoggingResult.apply (r : TestLoggingResult) (d : Device) : Device :=
  r.scheduled.elim d fun s => testLoggingScheduled s.targetUtcMs s.jumpDelaySec d

/-- A start that is scheduled is the operation of the system. -/
theorem TestLoggingResult.apply_scheduled {r : TestLoggingResult} {s : TestLoggingSchedule}
    (h : r.scheduled = some s) (sys : System) :
    (sys.step (.testLogging s.targetUtcMs s.jumpDelaySec)).device = r.apply sys.device := by
  rw [apply, h]
  rfl

/-! ## The start that is scheduled -/

/-- The next occurrence of `mm` and `ss` after the current time, and the whole seconds to
it. -/
def SchedulesNext (currentUtcMs : UInt64) (s : TestLoggingSchedule) : Prop :=
  currentUtcMs.toNat < s.targetUtcMs.toNat ∧
    s.targetUtcMs.toNat ≤ currentUtcMs.toNat + 3600000 ∧
    s.targetUtcMs.toNat % 3600000 = (s.mm.toNat * 60 + s.ss.toNat) * 1000 ∧
    s.secondsUntilStart.toNat = (s.targetUtcMs.toNat - currentUtcMs.toNat) / 1000

/-- The first time after `utcMs` that is `offsetMs` into an hour. -/
def nextOccurrence (utcMs offsetMs : Nat) : Nat :=
  utcMs / 3600000 * 3600000 + offsetMs + if offsetMs ≤ utcMs % 3600000 then 3600000 else 0

/-- The correlation still tells the second, rounded up, and neither it nor the current
time is at the start, unless they are the same. -/
structure StillCurrent (utcMs currentUtcMs offsetMs : Nat) : Prop where
  fits : nextOccurrence utcMs offsetMs < 18446744073709551616
  second : (currentUtcMs + 999) / 1000 = (utcMs + 999) / 1000
  apart : currentUtcMs = utcMs ∨ max currentUtcMs utcMs % 3600000 ≠ offsetMs

section Occurrence

variable {utcMs offsetMs currentUtcMs : Nat}

theorem nextOccurrence_bounds (hoffset : offsetMs < 3600000) :
    utcMs < nextOccurrence utcMs offsetMs ∧
      nextOccurrence utcMs offsetMs ≤ utcMs + 3600000 ∧
      nextOccurrence utcMs offsetMs % 3600000 = offsetMs := by
  unfold nextOccurrence
  split
  · omega
  · omega

/-- What is next after `utcMs` is next after the current time too, in as many seconds. -/
theorem nextOccurrence_iff (hoffset : offsetMs < 3600000) (hsecond : offsetMs % 1000 = 0) :
    (currentUtcMs < nextOccurrence utcMs offsetMs ∧
        nextOccurrence utcMs offsetMs ≤ currentUtcMs + 3600000 ∧
        nextOccurrence utcMs offsetMs % 3600000 = offsetMs ∧
        (nextOccurrence utcMs offsetMs - utcMs) / 1000 =
          (nextOccurrence utcMs offsetMs - currentUtcMs) / 1000) ↔
      (currentUtcMs + 999) / 1000 = (utcMs + 999) / 1000 ∧
        (currentUtcMs = utcMs ∨ max currentUtcMs utcMs % 3600000 ≠ offsetMs) := by
  obtain ⟨m, rfl⟩ : ∃ m, offsetMs = 1000 * m := ⟨offsetMs / 1000, by omega⟩
  obtain ⟨k, r, hr, rfl⟩ : ∃ k r, r < 3600000 ∧ utcMs = 3600000 * k + r :=
    ⟨utcMs / 3600000, utcMs % 3600000, by omega, by omega⟩
  have hhour : (3600000 * k + r) / 3600000 = k := by omega
  have hrest : (3600000 * k + r) % 3600000 = r := by omega
  rw [nextOccurrence, hhour, hrest]
  generalize hnext : k * 3600000 + 1000 * m + (if 1000 * m ≤ r then 3600000 else 0) = next
  constructor
  · rintro ⟨hlt, hle, -, hseconds⟩
    split at hnext
    · constructor <;> omega
    · constructor <;> omega
  · rintro ⟨hsame, hapart⟩
    split at hnext
    · refine ⟨?_, ?_, ?_, ?_⟩ <;> omega
    · refine ⟨?_, ?_, ?_, ?_⟩ <;> omega

/-- The sums of the handler, modulo `w`: they give the next occurrence if that is below
`w`, and else a time that has wrapped once. -/
theorem nextOccurrence_wrap {w : Nat} (hw : w = 18446744073709551616) (hutc : utcMs < w)
    (hoffset : offsetMs < 3600000) :
    let atHour := (utcMs / 3600000 * 3600000 + offsetMs) % w
    let target := if atHour ≤ utcMs then (atHour + 3600000) % w else atHour
    (nextOccurrence utcMs offsetMs < w ∧ target = nextOccurrence utcMs offsetMs) ∨
      (w ≤ nextOccurrence utcMs offsetMs ∧ ∃ k, target + w = 3600000 * k + offsetMs) := by
  intro atHour target
  obtain ⟨k, r, hr, rfl⟩ : ∃ k r, r < 3600000 ∧ utcMs = 3600000 * k + r :=
    ⟨utcMs / 3600000, utcMs % 3600000, by omega, by omega⟩
  have hhour : (3600000 * k + r) / 3600000 * 3600000 + offsetMs = 3600000 * k + offsetMs := by
    omega
  have hrest : (3600000 * k + r) % 3600000 = r := by omega
  rw [nextOccurrence, hrest, hhour]
  by_cases hle : offsetMs ≤ r
  · have hat : atHour = 3600000 * k + offsetMs := by
      simp only [atHour, hhour]
      exact Nat.mod_eq_of_lt (by omega)
    have htarget : target = (3600000 * k + offsetMs + 3600000) % w := by
      simp only [target, hat]
      exact if_pos (by omega)
    rw [if_pos hle]
    by_cases hfits : 3600000 * k + offsetMs + 3600000 < w
    · exact .inl ⟨hfits, htarget.trans (Nat.mod_eq_of_lt hfits)⟩
    · refine .inr ⟨by omega, k + 1, ?_⟩
      rw [htarget, Nat.mod_eq_sub_mod (by omega), Nat.mod_eq_of_lt (by omega)]
      omega
  · rw [if_neg hle, Nat.add_zero]
    by_cases hfits : 3600000 * k + offsetMs < w
    · have hat : atHour = 3600000 * k + offsetMs := by
        simp only [atHour, hhour]
        exact Nat.mod_eq_of_lt hfits
      refine .inl ⟨hfits, ?_⟩
      simp only [target, hat]
      exact if_neg (by omega)
    · have hat : atHour = 3600000 * k + offsetMs - w := by
        simp only [atHour, hhour]
        rw [Nat.mod_eq_sub_mod (by omega), Nat.mod_eq_of_lt (by omega)]
      have htarget : target = (3600000 * k + offsetMs - w + 3600000) % w := by
        simp only [target, hat]
        exact if_pos (by omega)
      refine .inr ⟨by omega, k + 1, ?_⟩
      rw [htarget, Nat.mod_eq_of_lt (by omega)]
      omega

/-- The radix is not a whole number of hours. -/
theorem wrapped_mod_ne {target k : Nat}
    (h : target + 18446744073709551616 = 3600000 * k + offsetMs) :
    target % 3600000 ≠ offsetMs := by
  omega

end Occurrence

theorem hourOffsetMs_toNat {mm ss : UInt32} (hmm : mm.toNat ≤ 59) (hss : ss.toNat ≤ 59) :
    (hourOffsetMs mm ss).toNat = (mm.toNat * 60 + ss.toNat) * 1000 := by
  simp only [hourOffsetMs, UInt64.toNat_mul, UInt64.toNat_add, UInt32.toNat_toUInt64]
  have h60 : (60 : UInt64).toNat = 60 := rfl
  have h1000 : (1000 : UInt64).toNat = 1000 := rfl
  rw [h60, h1000]
  omega

section Target

variable {utcMs : UInt64} {mm ss : UInt32} (hmm : mm.toNat ≤ 59) (hss : ss.toNat ≤ 59)

include hmm hss

/-- The sums of the handler, with their wraps. -/
theorem testLoggingTarget_toNat :
    (testLoggingTarget utcMs mm ss).toNat =
      let offsetMs := (mm.toNat * 60 + ss.toNat) * 1000
      let atHour := (utcMs.toNat / 3600000 * 3600000 + offsetMs) % 18446744073709551616
      if atHour ≤ utcMs.toNat then (atHour + 3600000) % 18446744073709551616 else atHour := by
  have hoffset := hourOffsetMs_toNat hmm hss
  have hhour : (utcMs / 3600000 * 3600000).toNat = utcMs.toNat / 3600000 * 3600000 := by
    have h := utcMs.toNat_lt
    rw [UInt64.toNat_mul, UInt64.toNat_div]
    have hms : (3600000 : UInt64).toNat = 3600000 := rfl
    rw [hms]
    omega
  simp only [testLoggingTarget, UInt64.le_iff_toNat_le, apply_ite UInt64.toNat, UInt64.toNat_add,
    hhour, hoffset]
  rfl

theorem testLoggingTarget_cases :
    (nextOccurrence utcMs.toNat ((mm.toNat * 60 + ss.toNat) * 1000) < 18446744073709551616 ∧
        (testLoggingTarget utcMs mm ss).toNat =
          nextOccurrence utcMs.toNat ((mm.toNat * 60 + ss.toNat) * 1000)) ∨
      (18446744073709551616 ≤ nextOccurrence utcMs.toNat ((mm.toNat * 60 + ss.toNat) * 1000) ∧
        (testLoggingTarget utcMs mm ss).toNat % 3600000 ≠
          (mm.toNat * 60 + ss.toNat) * 1000) := by
  have hoffset : (mm.toNat * 60 + ss.toNat) * 1000 < 3600000 := by omega
  rw [testLoggingTarget_toNat hmm hss]
  rcases nextOccurrence_wrap rfl utcMs.toNat_lt hoffset with hfits | ⟨hwraps, k, hk⟩
  · exact .inl hfits
  · exact .inr ⟨hwraps, wrapped_mod_ne hk⟩

end Target

section Schedule

variable {request : SmpRequest} {beyond : Nat → UInt8} {corr : TimeCorrelation} {fits : Bool}

/-- The minute that the handler reads from the text. -/
def TestLoggingFields.mm (f : TestLoggingFields) (beyond : Nat → UInt8) : UInt32 :=
  twoDigits (byteAt (f.startStr.getD []) beyond 0) (byteAt (f.startStr.getD []) beyond 1)

/-- The second that the handler reads from the text. -/
def TestLoggingFields.ss (f : TestLoggingFields) (beyond : Nat → UInt8) : UInt32 :=
  twoDigits (byteAt (f.startStr.getD []) beyond 2) (byteAt (f.startStr.getD []) beyond 3)

/-- The text is read, and how it is taken. -/
def TestLoggingFields.reads (f : TestLoggingFields) : Bool :=
  f.hasStart && !(f.hasJump && 3600 < f.jumpValue)

theorem tempoMgmtTestLogging_of_decode (beyond : Nat → UInt8) (fits : Bool) {f : TestLoggingFields}
    (hdecode : decodeMap testLoggingField request {} = some f) (hvalid : corr.valid = true) :
    (tempoMgmtTestLogging request beyond corr fits).scheduled =
        (if f.reads = true ∧ f.mm beyond ≤ 59 ∧ f.ss beyond ≤ 59 then
          some (testLoggingSchedule corr (f.mm beyond) (f.ss beyond)
            (if f.hasJump then f.jumpValue else 0))
        else none) ∧
      (tempoMgmtTestLogging request beyond corr fits).overread =
        (f.reads && decide ((f.startStr.getD []).length < 4)) := by
  rw [tempoMgmtTestLogging, hdecode]
  cases hstart : f.hasStart with
  | false => simp [TestLoggingFields.reads, hstart]
  | true =>
    cases hjump : f.hasJump && decide (3600 < f.jumpValue) with
    | true => simp [TestLoggingFields.reads, hstart, hjump]
    | false =>
      have hreads : f.reads = true := by simp [TestLoggingFields.reads, hstart, hjump]
      simp only [hstart, hjump, hreads, Bool.not_true, Bool.false_eq_true, if_false, true_and,
        Bool.true_and]
      by_cases hrange : f.mm beyond ≤ 59 ∧ f.ss beyond ≤ 59
      · have hnot : ¬ (59 < f.mm beyond ∨ 59 < f.ss beyond) := by
          rw [not_or, UInt32.not_lt, UInt32.not_lt]
          exact hrange
        rw [if_pos hrange]
        unfold TestLoggingFields.mm TestLoggingFields.ss at hnot
        rw [if_neg hnot]
        simp only [timebaseGetCorrelation, hvalid, Bool.not_true, Bool.false_eq_true, if_false]
        exact ⟨rfl, trivial⟩
      · have hout : 59 < f.mm beyond ∨ 59 < f.ss beyond := by
          by_contra hnot
          rw [not_or, UInt32.not_lt, UInt32.not_lt] at hnot
          exact hrange hnot
        rw [if_neg hrange]
        unfold TestLoggingFields.mm TestLoggingFields.ss at hout
        rw [if_pos hout]
        exact ⟨rfl, rfl⟩

/-- What a scheduled start is made of. -/
theorem schedule_of_scheduled {s : TestLoggingSchedule}
    (h : (tempoMgmtTestLogging request beyond corr fits).scheduled = some s) :
    s.mm.toNat ≤ 59 ∧ s.ss.toNat ≤ 59 ∧
      s = testLoggingSchedule corr s.mm s.ss s.jumpDelaySec := by
  have hvalid : corr.valid = true := by
    by_contra hnot
    rw [Bool.not_eq_true] at hnot
    unfold tempoMgmtTestLogging at h
    split at h
    · cases h
    · simp only [timebaseGetCorrelation, hnot, Bool.not_false, if_true] at h
      split_ifs at h
  cases hdecode : decodeMap testLoggingField request {} with
  | none =>
    rw [tempoMgmtTestLogging, hdecode] at h
    cases h
  | some f =>
    rw [(tempoMgmtTestLogging_of_decode beyond fits hdecode hvalid).1] at h
    split at h
    · rename_i hrange
      cases h
      exact ⟨UInt32.le_iff_toNat_le.mp hrange.2.1, UInt32.le_iff_toNat_le.mp hrange.2.2, rfl⟩
    · cases h

end Schedule

/-- A start is for the next occurrence, in the seconds that the reply says, exactly while
the correlation is still current. -/
theorem schedulesNext_iff (request : SmpRequest) (beyond : Nat → UInt8) (corr : TimeCorrelation)
    (fits : Bool) (s : TestLoggingSchedule)
    (h : (tempoMgmtTestLogging request beyond corr fits).scheduled = some s) (now : UInt64) :
    SchedulesNext (corr.utcAt now) s ↔
      StillCurrent corr.utcMs.toNat (corr.utcAt now).toNat
        ((s.mm.toNat * 60 + s.ss.toNat) * 1000) := by
  obtain ⟨hmm, hss, hs⟩ := schedule_of_scheduled h
  have hoffset : (s.mm.toNat * 60 + s.ss.toNat) * 1000 < 3600000 := by omega
  have htarget : s.targetUtcMs = testLoggingTarget corr.utcMs s.mm s.ss := congrArg _ hs
  have hseconds : s.secondsUntilStart = ((s.targetUtcMs - corr.utcMs) / 1000).toUInt32 := by
    rw [htarget]
    exact congrArg _ hs
  rcases @testLoggingTarget_cases corr.utcMs _ _ hmm hss with
    ⟨hfits, hnext⟩ | ⟨hwraps, hmod⟩
  · rw [← htarget] at hnext
    have hbounds := @nextOccurrence_bounds corr.utcMs.toNat _ hoffset
    have hiff := @nextOccurrence_iff corr.utcMs.toNat _ (corr.utcAt now).toNat hoffset (by omega)
    have hcount : s.secondsUntilStart.toNat =
        (s.targetUtcMs.toNat - corr.utcMs.toNat) / 1000 := by
      have hle : corr.utcMs ≤ s.targetUtcMs := by
        rw [UInt64.le_iff_toNat_le, hnext]
        omega
      have hthousand : (1000 : UInt64).toNat = 1000 := rfl
      rw [hseconds, UInt64.toNat_toUInt32, UInt64.toNat_div, UInt64.toNat_sub_of_le _ _ hle,
        hthousand]
      exact Nat.mod_eq_of_lt (by omega)
    unfold SchedulesNext
    rw [hcount, hnext, hiff]
    exact ⟨fun ⟨hsecond, hapart⟩ => ⟨hfits, hsecond, hapart⟩,
      fun hcurrent => ⟨hcurrent.second, hcurrent.apart⟩⟩
  · constructor
    · rintro ⟨-, -, hat, -⟩
      rw [htarget] at hat
      exact absurd hat hmod
    · intro hcurrent
      exact absurd hcurrent.fits (Nat.not_lt.mpr hwraps)

/-- Where that holds of a later time, less than a second has passed since. -/
theorem StillCurrent.elapsed {corr : TimeCorrelation} {now : UInt64} {offsetMs : Nat}
    (h : StillCurrent corr.utcMs.toNat (corr.utcAt now).toNat offsetMs)
    (hlater : corr.monoUs ≤ now)
    (hsize : now.toNat - corr.monoUs.toNat < 9223372036854775808)
    (hfits : corr.utcMs.toNat + (now.toNat - corr.monoUs.toNat) / 1000 < 18446744073709551616) :
    now.toNat - corr.monoUs.toNat < 1000000 := by
  have hsecond := h.second
  rw [TimeCorrelation.utcAt_later hlater hsize hfits] at hsecond
  omega

/-- The alarm does not take a start that is for the next occurrence at once. -/
theorem SchedulesNext.waits {corr : TimeCorrelation} {now : UInt64} {s : TestLoggingSchedule}
    (h : SchedulesNext (corr.utcAt now) s) (hvalid : corr.valid = true) {r : TestLoggingResult}
    (hscheduled : r.scheduled = some s) {e : AlarmEnv} (he : e.utcMs = getCurrentUtcMs now corr)
    (d : Device) : testAlarmWorkHandler e (r.apply d) = (r.apply d, []) := by
  have happly : r.apply d = testLoggingScheduled s.targetUtcMs s.jumpDelaySec d := by
    rw [TestLoggingResult.apply, hscheduled]
    rfl
  have hutc : e.utcMs = corr.utcAt now := by
    rw [he, getCurrentUtcMs, timebaseMonoToUtc, if_pos hvalid]
    rfl
  have hlt : e.utcMs < s.targetUtcMs := by
    rw [hutc, UInt64.lt_iff_toNat_lt]
    exact h.1
  rw [happly]
  exact if_pos (.inr hlt)

/-! ### A start that has passed -/

def startRequest (text : Bytes) : SmpRequest := textRequest (ascii "start") text

/-- A correlation at the start of an hour. -/
def hourCorrelation : TimeCorrelation := timebaseUpdateCorrelation 1735689600000 100 0

/-- `0500`, as the handler schedules it under that correlation. -/
def fivePast : TestLoggingSchedule := testLoggingSchedule hourCorrelation 5 0 0

theorem schedulesNext_atCorrelation : SchedulesNext (hourCorrelation.utcAt 0) fivePast :=
  (schedulesNext_iff (startRequest (ascii "0500")) (fun _ => 0) hourCorrelation true fivePast
    (by decide +kernel) 0).mpr ⟨by decide +kernel, by decide +kernel, by decide +kernel⟩

/-- Ten minutes after the correlation the handler schedules a time five minutes ago. -/
theorem not_schedulesNext_tenMinutesLater :
    (tempoMgmtTestLogging (startRequest (ascii "0500")) (fun _ => 0) hourCorrelation
        true).scheduled = some fivePast ∧
      ¬ SchedulesNext (hourCorrelation.utcAt 600000000) fivePast := by
  refine ⟨by decide +kernel, fun hnext => ?_⟩
  have hpast : (hourCorrelation.utcAt 600000000).toNat = fivePast.targetUtcMs.toNat + 300000 := by
    decide +kernel
  have hlt := hnext.1
  omega

/-! ## The texts that are taken -/

/-- The items under `start`, in order. -/
def startItems (request : SmpRequest) : List CborItem :=
  request.elim [] (fieldValues (ascii "start"))

/-- The text of the last `start`. -/
def lastStart (request : SmpRequest) : Option Bytes :=
  (startItems request).getLast?.bind CborItem.tstr?

/-- The number of the last `jump`. -/
def lastJump (request : SmpRequest) : Option UInt32 :=
  (request.elim [] (fieldValues (ascii "jump"))).getLast?.bind CborItem.uint32?

def IsDigit (b : UInt8) : Prop := 48 ≤ b.toNat ∧ b.toNat ≤ 57

/-- The text is `MMSS`: four digits, for a minute and a second. -/
def IsMmss (text : Bytes) (mm ss : Nat) : Prop :=
  text.length = 4 ∧ (∀ b ∈ text, IsDigit b) ∧
    mm = (text.getD 0 0).toNat * 10 + (text.getD 1 0).toNat - 528 ∧
    ss = (text.getD 2 0).toNat * 10 + (text.getD 3 0).toNat - 528 ∧
    mm ≤ 59 ∧ ss ≤ 59

/-- The request schedules what its last `start` says, if that is a time, and nothing is
read beyond the text. -/
def TakesMmss (request : SmpRequest) (r : TestLoggingResult) : Prop :=
  (∀ mm ss, (∃ s, r.scheduled = some s ∧ s.mm.toNat = mm ∧ s.ss.toNat = ss) ↔
    ∃ text, lastStart request = some text ∧ IsMmss text mm ss) ∧
    r.overread = false

/-- The value of two characters, as integers. -/
def pairValue (a b : UInt8) : Int := 10 * ((a.toNat : Int) - 48) + ((b.toNat : Int) - 48)

/-- Both pairs have values that a minute and a second may have. -/
def InRange (text : Bytes) : Prop :=
  (0 ≤ pairValue (text.getD 0 0) (text.getD 1 0) ∧
      pairValue (text.getD 0 0) (text.getD 1 0) ≤ 59) ∧
    0 ≤ pairValue (text.getD 2 0) (text.getD 3 0) ∧
    pairValue (text.getD 2 0) (text.getD 3 0) ≤ 59

instance (b : UInt8) : Decidable (IsDigit b) := inferInstanceAs (Decidable (_ ∧ _))

instance (text : Bytes) (mm ss : Nat) : Decidable (IsMmss text mm ss) :=
  inferInstanceAs (Decidable (_ ∧ _))

instance (text : Bytes) : Decidable (InRange text) := inferInstanceAs (Decidable (_ ∧ _))

/-- A request whose last `start` the handler can tell from `MMSS`: where a `start` of four
bytes makes it read the last one, that has four bytes at least, and no values in range
without being four digits. -/
def WellGiven (request : SmpRequest) : Prop :=
  if (decodeMap testLoggingField request {}).isSome then
    (∃ text, .tstr text ∈ startItems request ∧ text.length = 4) →
      ∀ text, lastStart request = some text →
        4 ≤ text.length ∧ (InRange text → text.length = 4 ∧ ∀ b ∈ text, IsDigit b)
  else ∀ text mm ss, lastStart request = some text → ¬ IsMmss text mm ss

section Digits

variable {a b : UInt8}

theorem twoDigits_mod (a b : UInt8) :
    ((twoDigits a b).toNat : Int) = pairValue a b % 4294967296 := by
  have ha := a.toNat_lt
  have hb := b.toNat_lt
  have h48 : (48 : UInt32).toNat = 48 := rfl
  have h10 : (10 : UInt32).toNat = 10 := rfl
  rw [twoDigits, UInt32.toNat_add, UInt32.toNat_mul, UInt32.toNat_sub, UInt32.toNat_sub,
    UInt8.toNat_toUInt32, UInt8.toNat_toUInt32, h48, h10, pairValue]
  omega

theorem pairValue_bounds (a b : UInt8) : -528 ≤ pairValue a b ∧ pairValue a b < 4294967296 := by
  have ha := a.toNat_lt
  have hb := b.toNat_lt
  unfold pairValue
  omega

theorem twoDigits_le :
    twoDigits a b ≤ 59 ↔ 0 ≤ pairValue a b ∧ pairValue a b ≤ 59 := by
  have h := twoDigits_mod a b
  have hbounds := pairValue_bounds a b
  have h59 : (59 : UInt32).toNat = 59 := rfl
  rw [UInt32.le_iff_toNat_le, h59]
  omega

theorem twoDigits_toNat (h : 0 ≤ pairValue a b) :
    ((twoDigits a b).toNat : Int) = pairValue a b := by
  rw [twoDigits_mod]
  exact Int.emod_eq_of_lt h (pairValue_bounds a b).2

theorem pairValue_digits (ha : IsDigit a) (hb : IsDigit b) :
    pairValue a b = (a.toNat * 10 + b.toNat - 528 : Nat) := by
  have ha' := ha.1
  have hb' := hb.1
  unfold pairValue
  omega

end Digits

/-! ### What has been decoded -/

section Decoded

variable {request : SmpRequest} {f : TestLoggingFields}

theorem foldl_getLast {α β : Type*} (g : α → β) (l : List α) (x : β) :
    l.foldl (fun _ a => g a) x = (l.getLast?.map g).getD x := by
  induction l generalizing x with
  | nil => rfl
  | cons a l ih =>
    rw [List.foldl_cons, ih, List.getLast?_cons]
    cases l.getLast? <;> rfl

theorem foldl_or {α : Type*} (p : α → Bool) (l : List α) (b : Bool) :
    l.foldl (fun b a => b || p a) b = (b || l.any p) := by
  induction l generalizing b with
  | nil => simp
  | cons a l ih => simp [ih, Bool.or_assoc]

/-- A start item is stored, and counted if it has four bytes. -/
theorem testLoggingField_start {v : CborItem} {a a' : TestLoggingFields}
    (h : testLoggingField (ascii "start") v a = some a') :
    a'.startStr = v.tstr? ∧ a'.hasStart = (a.hasStart || v.tstr?.any (·.length == 4)) ∧
      a'.hasJump = a.hasJump ∧ a'.jumpValue = a.jumpValue := by
  simp only [testLoggingField, onField, if_true, Option.map_eq_some_iff] at h
  obtain ⟨text, htext, rfl⟩ := h
  exact ⟨htext.symm, by rw [htext]; rfl, rfl, rfl⟩

theorem testLoggingField_other {key : Bytes} {v : CborItem} {a a' : TestLoggingFields}
    (hkey : key ≠ ascii "start") (h : testLoggingField key v a = some a') :
    a'.startStr = a.startStr ∧ a'.hasStart = a.hasStart := by
  simp only [testLoggingField, onField, if_neg hkey] at h
  split at h
  · obtain ⟨jump, -, rfl⟩ := Option.map_eq_some_iff.mp h
    exact ⟨rfl, rfl⟩
  · cases h
    exact ⟨rfl, rfl⟩

theorem startStr_of_decode (h : decodeMap testLoggingField request {} = some f) :
    f.startStr = lastStart request := by
  obtain ⟨pairs, rfl, hfields⟩ := decodeMap_eq_some h
  rw [decodeFields_foldl TestLoggingFields.startStr (ascii "start") (fun _ v => v.tstr?)
    (fun v a a' ha => (testLoggingField_start ha).1)
    (fun key v a a' hkey ha => (testLoggingField_other hkey ha).1) hfields, foldl_getLast]
  change ((startItems (some pairs)).getLast?.map CborItem.tstr?).getD none =
    (startItems (some pairs)).getLast?.bind CborItem.tstr?
  cases (startItems (some pairs)).getLast? <;> rfl

theorem hasStart_of_decode (h : decodeMap testLoggingField request {} = some f) :
    f.hasStart = true ↔ ∃ text, .tstr text ∈ startItems request ∧ text.length = 4 := by
  obtain ⟨pairs, rfl, hfields⟩ := decodeMap_eq_some h
  rw [decodeFields_foldl TestLoggingFields.hasStart (ascii "start")
    (fun b v => b || v.tstr?.any (·.length == 4))
    (fun v a a' ha => (testLoggingField_start ha).2.1)
    (fun key v a a' hkey ha => (testLoggingField_other hkey ha).2) hfields, foldl_or]
  change (false || (startItems (some pairs)).any _) = true ↔ _
  rw [Bool.false_or, List.any_eq_true]
  constructor
  · rintro ⟨v, hv, hlength⟩
    cases v with
    | tstr text => exact ⟨text, hv, by simpa [CborItem.tstr?] using hlength⟩
    | int _ | bool _ | other => simp [CborItem.tstr?] at hlength
  · rintro ⟨text, hv, hlength⟩
    exact ⟨.tstr text, hv, by simpa [CborItem.tstr?] using hlength⟩

/-- Where the text is read there is one. -/
theorem lastStart_of_hasStart (h : decodeMap testLoggingField request {} = some f)
    (hhas : f.hasStart = true) : ∃ text, lastStart request = some text := by
  obtain ⟨text, hmem, -⟩ := (hasStart_of_decode h).mp hhas
  have hstr := startStr_of_decode h
  obtain ⟨pairs, rfl, hfields⟩ := decodeMap_eq_some h
  have hlast := decodeFields_last TestLoggingFields.startStr (ascii "start") CborItem.tstr?
    (fun v a a' ha => by
      simp only [testLoggingField, onField, if_true, Option.map_eq_some_iff] at ha
      obtain ⟨text, htext, rfl⟩ := ha
      rw [htext]
      rfl)
    (fun key v a a' hkey ha => (testLoggingField_other hkey ha).1) hfields
  rw [hstr, Option.or_none] at hlast
  rw [hlast]
  refine Option.isSome_iff_exists.mp (List.getLast?_isSome.mpr ?_)
  exact List.ne_nil_of_mem (List.mem_filterMap.mpr ⟨_, hmem, rfl⟩)

theorem lastStart_mem {text : Bytes} (h : lastStart request = some text) :
    .tstr text ∈ startItems request := by
  obtain ⟨v, hv, htext⟩ := Option.bind_eq_some_iff.mp h
  cases v with
  | tstr value =>
    cases htext
    exact List.mem_of_getLast? hv
  | int _ | bool _ | other => cases htext

theorem jump_of_decode (h : decodeMap testLoggingField request {} = some f) :
    (if f.hasJump then some f.jumpValue else none) = lastJump request := by
  obtain ⟨pairs, rfl, hfields⟩ := decodeMap_eq_some h
  rw [decodeFields_foldl (fun f : TestLoggingFields => if f.hasJump then some f.jumpValue else none)
    (ascii "jump") (fun _ v => v.uint32?) ?_ ?_ hfields, foldl_getLast]
  · change ((fieldValues (ascii "jump") pairs).getLast?.map CborItem.uint32?).getD none =
      (fieldValues (ascii "jump") pairs).getLast?.bind CborItem.uint32?
    cases (fieldValues (ascii "jump") pairs).getLast? <;> rfl
  · intro v a a' ha
    have hkey : ascii "jump" ≠ ascii "start" := by decide
    simp only [testLoggingField, onField, if_neg hkey, if_true, Option.map_eq_some_iff] at ha
    obtain ⟨jump, hjump, rfl⟩ := ha
    exact hjump.symm
  · intro key v a a' hkey ha
    by_cases hstart : key = ascii "start"
    · subst hstart
      obtain ⟨-, -, hhas, hvalue⟩ := testLoggingField_start ha
      simp only [hhas, hvalue]
    · simp only [testLoggingField, onField, if_neg hstart, if_neg hkey, skipField] at ha
      cases ha
      rfl

end Decoded

/-! ### Exactly which requests are well taken -/

section Texts

variable {text : Bytes} {beyond : Nat → UInt8} {f : TestLoggingFields}

theorem byteAt_eq {i : Nat} (h : i < text.length) : byteAt text beyond i = text.getD i 0 := by
  simp [byteAt, List.getD_eq_getElem?_getD, List.getElem?_eq_getElem h]

/-- What is read from a text that is long enough. -/
theorem mm_eq (beyond : Nat → UInt8) (hstart : f.startStr = some text) (hlength : 4 ≤ text.length) :
    f.mm beyond = twoDigits (text.getD 0 0) (text.getD 1 0) ∧
      f.ss beyond = twoDigits (text.getD 2 0) (text.getD 3 0) := by
  have hget : f.startStr.getD [] = text := by rw [hstart]; rfl
  unfold TestLoggingFields.mm TestLoggingFields.ss
  rw [hget, byteAt_eq (by omega), byteAt_eq (by omega), byteAt_eq (by omega), byteAt_eq (by omega)]
  exact ⟨rfl, rfl⟩

theorem isDigit_getD (hlength : text.length = 4) (hdigits : ∀ b ∈ text, IsDigit b) {i : Nat}
    (hi : i < 4) : IsDigit (text.getD i 0) := by
  have hi' : i < text.length := by omega
  rw [List.getD_eq_getElem?_getD, List.getElem?_eq_getElem hi']
  exact hdigits _ (List.getElem_mem hi')

/-- The pairs of four digits. -/
theorem pairValues_digits (hlength : text.length = 4) (hdigits : ∀ b ∈ text, IsDigit b) :
    pairValue (text.getD 0 0) (text.getD 1 0) =
        ((text.getD 0 0).toNat * 10 + (text.getD 1 0).toNat - 528 : Nat) ∧
      pairValue (text.getD 2 0) (text.getD 3 0) =
        ((text.getD 2 0).toNat * 10 + (text.getD 3 0).toNat - 528 : Nat) :=
  ⟨pairValue_digits (isDigit_getD hlength hdigits (by decide))
      (isDigit_getD hlength hdigits (by decide)),
    pairValue_digits (isDigit_getD hlength hdigits (by decide))
      (isDigit_getD hlength hdigits (by decide))⟩

theorem IsMmss.pairValues {mm ss : Nat} (h : IsMmss text mm ss) :
    pairValue (text.getD 0 0) (text.getD 1 0) = mm ∧
      pairValue (text.getD 2 0) (text.getD 3 0) = ss := by
  obtain ⟨hlength, hdigits, hmm, hss, -, -⟩ := h
  rw [hmm, hss]
  exact pairValues_digits hlength hdigits

theorem IsMmss.inRange {mm ss : Nat} (h : IsMmss text mm ss) : InRange text := by
  obtain ⟨hmm, hss⟩ := h.pairValues
  obtain ⟨-, -, -, -, hmm', hss'⟩ := h
  unfold InRange
  omega

/-- Four digits in range are a time. -/
theorem IsMmss.of_inRange (hrange : InRange text) (hlength : text.length = 4)
    (hdigits : ∀ b ∈ text, IsDigit b) :
    IsMmss text (twoDigits (text.getD 0 0) (text.getD 1 0)).toNat
      (twoDigits (text.getD 2 0) (text.getD 3 0)).toNat := by
  obtain ⟨⟨hmm, hmm'⟩, hss, hss'⟩ := hrange
  have hmmNat := twoDigits_toNat hmm
  have hssNat := twoDigits_toNat hss
  obtain ⟨hmmValue, hssValue⟩ := pairValues_digits hlength hdigits
  refine ⟨hlength, hdigits, ?_, ?_, ?_, ?_⟩ <;> omega

/-- A text of at least four bytes that is read. -/
theorem reads_iff (beyond : Nat → UInt8) (hstart : f.startStr = some text)
    (hlength : 4 ≤ text.length) (schedule : TestLoggingSchedule) (hmm : schedule.mm = f.mm beyond)
    (hss : schedule.ss = f.ss beyond) :
    (∀ mm ss, (∃ s,
        (if f.mm beyond ≤ 59 ∧ f.ss beyond ≤ 59 then some schedule else none) = some s ∧
          s.mm.toNat = mm ∧ s.ss.toNat = ss) ↔ IsMmss text mm ss) ↔
      (InRange text → text.length = 4 ∧ ∀ b ∈ text, IsDigit b) := by
  obtain ⟨hmmEq, hssEq⟩ := mm_eq beyond hstart hlength
  have hrange : (f.mm beyond ≤ 59 ∧ f.ss beyond ≤ 59) ↔ InRange text := by
    rw [hmmEq, hssEq, twoDigits_le, twoDigits_le, InRange]
  rw [if_congr hrange rfl rfl]
  constructor
  · intro htakes hin
    have hmmss := (htakes _ _).mp ⟨schedule, if_pos hin, rfl, rfl⟩
    exact ⟨hmmss.1, hmmss.2.1⟩
  · intro hdigits mm ss
    constructor
    · rintro ⟨s, hs, rfl, rfl⟩
      split at hs
      · rename_i hin
        cases hs
        obtain ⟨hfour, hall⟩ := hdigits hin
        rw [hmm, hss, hmmEq, hssEq]
        exact .of_inRange hin hfour hall
      · cases hs
    · intro hmmss
      obtain ⟨hmmValue, hssValue⟩ := hmmss.pairValues
      refine ⟨schedule, if_pos hmmss.inRange, ?_, ?_⟩
      · have h := twoDigits_toNat hmmss.inRange.1.1
        rw [hmm, hmmEq]
        omega
      · have h := twoDigits_toNat hmmss.inRange.2.1
        rw [hss, hssEq]
        omega

end Texts

section Requests

variable {request : SmpRequest} {f : TestLoggingFields} {beyond : Nat → UInt8}
  {corr : TimeCorrelation} {fits : Bool}

/-- A request that does not decode is refused, and nothing is read. -/
theorem takesMmss_undecoded (hdecode : decodeMap testLoggingField request {} = none) :
    TakesMmss request (tempoMgmtTestLogging request beyond corr fits) ↔ WellGiven request := by
  have hrefused : tempoMgmtTestLogging request beyond corr fits =
      ⟨.error .einval, none, false⟩ := by rw [tempoMgmtTestLogging, hdecode]
  rw [WellGiven, hdecode, if_neg (by simp), hrefused]
  constructor
  · rintro ⟨htakes, -⟩ text mm ss htext hmmss
    obtain ⟨s, hs, -⟩ := (htakes mm ss).mpr ⟨text, htext, hmmss⟩
    cases hs
  · intro hnot
    refine ⟨fun mm ss => iff_of_false ?_ ?_, rfl⟩
    · rintro ⟨s, hs, -⟩
      cases hs
    · rintro ⟨text, htext, hmmss⟩
      exact hnot text mm ss htext hmmss

/-- The text is read whenever a `start` of four bytes has been seen. -/
theorem reads_of_decode (hdecode : decodeMap testLoggingField request {} = some f)
    (hjump : ∀ jump, lastJump request = some jump → jump ≤ 3600) : f.reads = f.hasStart := by
  have hlast := jump_of_decode hdecode
  have hnojump : (f.hasJump && decide (3600 < f.jumpValue)) = false := by
    cases hj : f.hasJump with
    | false => rfl
    | true =>
      rw [hj, if_pos rfl] at hlast
      simpa using hjump f.jumpValue hlast.symm
  simp [TestLoggingFields.reads, hnojump]

end Requests

theorem takesMmss_iff (request : SmpRequest) (beyond : Nat → UInt8) (corr : TimeCorrelation)
    (fits : Bool) (hvalid : corr.valid = true)
    (hjump : ∀ jump, lastJump request = some jump → jump ≤ 3600) :
    TakesMmss request (tempoMgmtTestLogging request beyond corr fits) ↔ WellGiven request := by
  cases hdecode : decodeMap testLoggingField request {} with
  | none => exact takesMmss_undecoded hdecode
  | some f =>
    have hstr := startStr_of_decode hdecode
    have hhas := hasStart_of_decode hdecode
    obtain ⟨hscheduled, hoverread⟩ :=
      tempoMgmtTestLogging_of_decode beyond fits hdecode hvalid
    rw [WellGiven, hdecode, if_pos Option.isSome_some, TakesMmss, hscheduled, hoverread,
      reads_of_decode hdecode hjump]
    cases hread : f.hasStart with
    | false =>
      have hno : ¬ ∃ text, .tstr text ∈ startItems request ∧ text.length = 4 := by
        rw [← hhas, hread]
        decide
      refine iff_of_true ⟨fun mm ss => iff_of_false ?_ ?_, rfl⟩ fun hex => absurd hex hno
      · rintro ⟨s, hs, -⟩
        simp at hs
      · rintro ⟨text, htext, hmmss⟩
        exact hno ⟨text, lastStart_mem htext, hmmss.1⟩
    | true =>
      obtain ⟨text, htext⟩ := lastStart_of_hasStart hdecode hread
      have hstart : f.startStr = some text := hstr.trans htext
      have hget : f.startStr.getD [] = text := by rw [hstart]; rfl
      rw [hget]
      simp only [htext, Option.some.injEq, forall_eq', exists_eq_left', true_and, Bool.true_and,
        decide_eq_false_iff_not, Nat.not_lt]
      by_cases hlength : 4 ≤ text.length
      · have hreads' := reads_iff beyond hstart hlength
          (testLoggingSchedule corr (f.mm beyond) (f.ss beyond)
            (if f.hasJump then f.jumpValue else 0)) rfl rfl
        constructor
        · rintro ⟨htakes, -⟩ -
          exact ⟨hlength, hreads'.mp htakes⟩
        · intro hgiven
          exact ⟨hreads'.mpr (hgiven (hhas.mp hread)).2, hlength⟩
      · constructor
        · rintro ⟨-, hlong⟩
          exact absurd hlong hlength
        · intro hgiven
          exact absurd (hgiven (hhas.mp hread)).1 hlength

/-! ### Texts that are no times -/

theorem takesMmss_quarterPast :
    TakesMmss (startRequest (ascii "1530"))
      (tempoMgmtTestLogging (startRequest (ascii "1530")) (fun _ => 0) hourCorrelation true) := by
  refine (takesMmss_iff (startRequest (ascii "1530")) (fun _ => 0) hourCorrelation true (by decide)
    (fun jump h => ?_)).mpr ?_
  · cases h
  · rw [WellGiven, if_pos (by decide +kernel)]
    intro _ text htext
    have hlast : lastStart (startRequest (ascii "1530")) = some (ascii "1530") := by
      decide +kernel
    rw [hlast] at htext
    cases htext
    exact ⟨by decide +kernel, fun _ => ⟨by decide +kernel, by decide +kernel⟩⟩

/-- `/:00` is taken for 00:00. -/
theorem not_takesMmss_slashColon :
    ¬ TakesMmss (startRequest (ascii "/:00"))
      (tempoMgmtTestLogging (startRequest (ascii "/:00")) (fun _ => 0) hourCorrelation true) := by
  intro h
  have hscheduled :
      (tempoMgmtTestLogging (startRequest (ascii "/:00")) (fun _ => 0) hourCorrelation
        true).scheduled = some (testLoggingSchedule hourCorrelation 0 0 0) := by
    decide +kernel
  obtain ⟨text, htext, hmmss⟩ := (h.1 0 0).mp ⟨_, hscheduled, rfl, rfl⟩
  have hlast : lastStart (startRequest (ascii "/:00")) = some (ascii "/:00") := by
    decide +kernel
  rw [hlast] at htext
  cases htext
  exact absurd hmmss (by decide +kernel)

end TempoBt
