-- SUMMARY: The correlation of the monotonic clock with UTC, and the UTC time that is extrapolated from it.
import Mathlib.Data.UInt

/-!
# Timebase

`timebase.c` up to the alarm: one correlation point, which the receiver sets once, and
the UTC time of any monotonic time.
-/

namespace TempoBt

/-- `time_correlation_t` -/
structure TimeCorrelation where
  monoUs : UInt64
  utcMs : UInt64
  valid : Bool
  accuracyMs : UInt32

/-- `time_corr` before the first fix -/
def TimeCorrelation.initial : TimeCorrelation := ⟨0, 0, false, 0⟩

/-- `timebase_update_correlation`, with the clock `now` -/
def timebaseUpdateCorrelation (utcMs : UInt64) (accuracyMs : UInt32) (now : UInt64) :
    TimeCorrelation :=
  ⟨now, utcMs, true, accuracyMs⟩

namespace TimeCorrelation

variable (corr : TimeCorrelation)

/-- The offset from the correlation point is signed, and cut towards it. -/
def utcAt (monoUs : UInt64) : UInt64 :=
  corr.utcMs + ((monoUs - corr.monoUs).toInt64 / 1000).toUInt64

end TimeCorrelation

/-- `timebase_mono_to_utc` -/
def timebaseMonoToUtc (monoUs : UInt64) (corr : TimeCorrelation) : Option UInt64 :=
  if corr.valid then some (corr.utcAt monoUs) else none

/-- `timebase_get_correlation`: whether it is valid, and a copy of it. -/
def timebaseGetCorrelation (corr : TimeCorrelation) : Bool × TimeCorrelation := (corr.valid, corr)

/-- `get_current_utc_ms`; 0 without a correlation. -/
def getCurrentUtcMs (now : UInt64) (corr : TimeCorrelation) : UInt64 :=
  (timebaseMonoToUtc now corr).getD 0

/-- The division of a time difference that is not negative. -/
theorem toNat_toInt64_div {x : UInt64} (hx : x.toNat < 9223372036854775808) :
    (x.toInt64 / 1000).toUInt64.toNat = x.toNat / 1000 := by
  have hmsb : x.toBitVec.msb = false := by
    rw [BitVec.msb_eq_false_iff_two_mul_lt]
    change 2 * x.toNat < _
    omega
  have hd : (1000#64).msb = false := by decide
  change (x.toBitVec.sdiv 1000#64).toNat = x.toNat / 1000
  rw [BitVec.toNat_sdiv, hmsb, hd]
  rfl

/-- Later than the correlation the whole milliseconds since are added. -/
theorem TimeCorrelation.utcAt_later {corr : TimeCorrelation} {now : UInt64}
    (hlater : corr.monoUs ≤ now)
    (hsize : now.toNat - corr.monoUs.toNat < 9223372036854775808)
    (hfits : corr.utcMs.toNat + (now.toNat - corr.monoUs.toNat) / 1000 < 18446744073709551616) :
    (corr.utcAt now).toNat = corr.utcMs.toNat + (now.toNat - corr.monoUs.toNat) / 1000 := by
  have hsub : (now - corr.monoUs).toNat = now.toNat - corr.monoUs.toNat :=
    UInt64.toNat_sub_of_le _ _ hlater
  rw [utcAt, UInt64.toNat_add, toNat_toInt64_div (hsub ▸ hsize), hsub]
  exact Nat.mod_eq_of_lt hfits

end TempoBt
