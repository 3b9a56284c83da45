-- SUMMARY: The fixed-point compensation of the barometer: it does not overflow, and what it computes is the calibration polynomial up to a hundredth.
import TempoBt.Lib.BinaryFloat
import TempoBt.Lib.FixedPoint
import TempoBt.Lib.Words
import Mathlib.Tactic.IntervalCases

/-!
# Compensation of the barometer

The sensor's calibration is a polynomial in its raw values. The driver evaluates it in
64-bit integers, with divisions in between that make room for the next product, and rounds
the result to a `float`.
-/

namespace TempoBt

open BinaryFloat Bytes FixedPoint

/-- `bmp390_calib_data` -/
structure Bmp390CalibData where
  parT1 : UInt16
  parT2 : UInt16
  parT3 : Int8
  parP1 : Int16
  parP2 : Int16
  parP3 : Int8
  parP4 : Int8
  parP5 : UInt16
  parP6 : UInt16
  parP7 : Int8
  parP8 : Int8
  parP9 : Int16
  parP10 : Int8
  parP11 : Int8

/-- `bmp388_compensate_temp`: the temperature in degrees, and the one that the compensation of
the pressure uses. -/
def bmp388CompensateTemp (uncompTemp : Nat) (cal : Bmp390CalibData) : Option (Int × Int) := do
  let partialData1 ← checked (uncompTemp + -(256 * cal.parT1.toNat))
  let partialData2 ← checked (cal.parT2.toNat * partialData1)
  let partialData3 ← checked (partialData1 * partialData1)
  let partialData4 ← checked (partialData3 * cal.parT3.toInt)
  let partialData2 ← checked (partialData2 * 262144)
  let partialData5 ← checked (partialData2 + partialData4)
  let compTempTmp := partialData5.tdiv 4294967296
  let tmp ← checked (compTempTmp * 250000)
  return ((tmp.tdiv 16384).tdiv 1000000, compTempTmp)

/-- `bmp388_compensate_press`, in hundredths of Pa. -/
def bmp388CompensatePress (rawPressure : Nat) (tempFp : Int) (cal : Bmp390CalibData) :
    Option UInt64 := do
  let tLin := tempFp
  let partialData1 ← checked (tLin * tLin)
  let partialData2 := partialData1.tdiv 64
  let partialData3 ← checked (partialData2 * tLin)
  let partialData3 := partialData3.tdiv 256
  let partialData4 ← checked (cal.parP8.toInt * partialData3)
  let partialData4 := partialData4.tdiv 32
  let partialData5 ← checked (cal.parP7.toInt * partialData1)
  let partialData5 ← checked (partialData5 * 16)
  let partialData6 ← checked (cal.parP6.toNat * tLin)
  let partialData6 ← checked (partialData6 * 4194304)
  let offset ← checked (cal.parP5.toNat * 140737488355328)
  let offset ← checked (offset + partialData4)
  let offset ← checked (offset + partialData5)
  let offset ← checked (offset + partialData6)
  let partialData2 ← checked (cal.parP4.toInt * partialData3)
  let partialData2 := partialData2.tdiv 32
  let partialData4 ← checked (cal.parP3.toInt * partialData1)
  let partialData4 ← checked (partialData4 * 4)
  let partialData5 ← checked ((cal.parP2.toInt - 16384) * tLin)
  let partialData5 ← checked (partialData5 * 2097152)
  let sensitivity ← checked ((cal.parP1.toInt - 16384) * 70368744177664)
  let sensitivity ← checked (sensitivity + partialData2)
  let sensitivity ← checked (sensitivity + partialData4)
  let sensitivity ← checked (sensitivity + partialData5)
  let partialData1 ← checked (sensitivity.tdiv 16777216 * rawPressure)
  let partialData2 ← checked (cal.parP10.toInt * tLin)
  let partialData3 ← checked (partialData2 + 65536 * cal.parP9.toInt)
  let partialData4 ← checked (partialData3 * rawPressure)
  let partialData4 := partialData4.tdiv 8192
  let partialData5 ← checked (rawPressure * partialData4.tdiv 10)
  let partialData5 ← checked (partialData5.tdiv 512 * 10)
  let partialData6 ← checked (rawPressure * rawPressure)
  let partialData2 ← checked (cal.parP11.toInt * partialData6)
  let partialData3 ← checked (partialData2.tdiv 65536 * rawPressure)
  let partialData3 := partialData3.tdiv 128
  let partialData4 ← checked (offset.tdiv 4 + partialData1)
  let partialData4 ← checked (partialData4 + partialData5)
  let partialData4 ← checked (partialData4 + partialData3)
  return UInt64.ofInt partialData4 * 25 / 1099511627776

/-- `baro_sample_t`, without the altitude and the time. -/
structure BaroMeasurement where
  temperatureC : ℚ
  pressurePa : ℚ
  deriving DecidableEq

/-- The data registers. -/
abbrev BaroRegisters := Vector UInt8 6

def BaroRegisters.rawPress (data : BaroRegisters) : Nat := leNat (data.toList.take 3)

def BaroRegisters.rawTemp (data : BaroRegisters) : Nat := leNat (data.toList.drop 3)

/-- The pressure in Pa from `comp_press`, which becomes a `float` before the division and
after it. -/
def compPressPa (compPress : UInt64) : ℚ :=
  binary32.round (binary32.round compPress.toNat / 100)

/-- `read_sensor_data`, when the registers can be read. -/
def readSensorData (data : BaroRegisters) (cal : Bmp390CalibData) : Option BaroMeasurement := do
  let (tempC, tempFp) ← bmp388CompensateTemp data.rawTemp cal
  let compPress ← bmp388CompensatePress data.rawPress tempFp cal
  return ⟨binary32.round tempC, compPressPa compPress⟩

/-! ## The polynomials -/

namespace Bmp390CalibData

variable (cal : Bmp390CalibData)

/-- The temperature that the compensation of the pressure uses, in units of 1/65536 of a
degree. -/
def tempFp (rawTemp : Nat) : Int :=
  (cal.parT2.toNat * ((rawTemp : Int) - 256 * cal.parT1.toNat) * 262144 +
    ((rawTemp : Int) - 256 * cal.parT1.toNat) ^ 2 * cal.parT3.toInt).tdiv 4294967296

/-- The temperature in the same units. -/
def exactTemp (rawTemp : ℚ) : ℚ :=
  (cal.parT2.toNat * (rawTemp - 256 * cal.parT1.toNat) * 262144 +
    (rawTemp - 256 * cal.parT1.toNat) ^ 2 * cal.parT3.toInt) / 4294967296

def exactOffset (t : ℚ) : ℚ :=
  cal.parP5.toNat * 140737488355328 + cal.parP8.toInt * t ^ 3 / 524288 +
    cal.parP7.toInt * t ^ 2 * 16 + cal.parP6.toNat * t * 4194304

def exactSensitivity (t : ℚ) : ℚ :=
  (cal.parP1.toInt - 16384) * 70368744177664 + cal.parP4.toInt * t ^ 3 / 524288 +
    cal.parP3.toInt * t ^ 2 * 4 + (cal.parP2.toInt - 16384) * t * 2097152

/-- The pressure in Pa, at a temperature in units of 1/65536 of a degree. -/
def exactPressure (rawPress t : ℚ) : ℚ :=
  (cal.exactOffset t / 4 + cal.exactSensitivity t / 16777216 * rawPress +
    (cal.parP10.toInt * t + 65536 * cal.parP9.toInt) * rawPress ^ 2 / 4194304 +
    cal.parP11.toInt * rawPress ^ 3 / 8388608) * 25 / 109951162777600

end Bmp390CalibData

/-! ## Magnitudes -/

theorem approx_int8 (x : Int8) : Approx x.toInt x.toInt 128 0 := by
  apply Approx.exact
  have hlow := x.le_toInt
  have hhigh := x.toInt_lt
  rw [abs_le]
  constructor
  · norm_cast
  · norm_cast
    omega

theorem approx_int16 (x : Int16) : Approx x.toInt x.toInt 32768 0 := by
  apply Approx.exact
  have hlow := x.le_toInt
  have hhigh := x.toInt_lt
  rw [abs_le]
  constructor
  · norm_cast
  · norm_cast
    omega

theorem approx_nat {n m : Nat} (h : n ≤ m) : Approx n n m 0 := by
  have habs : |((n : Int) : ℚ)| ≤ m := by
    rw [Int.cast_natCast, Nat.abs_cast]
    exact_mod_cast h
  simpa using Approx.exact habs

/-- The first two coefficients of the pressure, which are stored with an offset. -/
theorem approx_shifted (x : Int16) : Approx (x.toInt - 16384) (x.toInt - 16384) 49152 0 := by
  have hsum := (approx_int16 x).add (approx_nat (le_refl 16384)).neg
  exact hsum.weaken (by push_cast; ring) (by norm_num) (by norm_num)

theorem approx_uint16 (x : UInt16) : Approx x.toNat x.toNat 65535 0 :=
  approx_nat (Nat.le_of_lt_succ x.toNat_lt)

/-! ## Temperature -/

theorem bmp388CompensateTemp_eq (cal : Bmp390CalibData) {raw : Nat} (hraw : raw ≤ 16777215) :
    bmp388CompensateTemp raw cal =
        some ((cal.tempFp raw).tdiv 65536, cal.tempFp raw) ∧
      |(cal.tempFp raw : ℚ) - cal.exactTemp raw| ≤ 1 := by
  have hoffset : Approx (-(256 * (cal.parT1.toNat : Int))) (-(256 * cal.parT1.toNat))
      16776960 0 := by
    have hneg := ((approx_nat (le_refl 256)).mul (approx_uint16 cal.parT1)).neg
    exact hneg.weaken (by norm_num) (by norm_num) (by norm_num)
  have h1 := (approx_nat hraw).add hoffset
  have h2 := (approx_uint16 cal.parT2).mul h1
  have h3 := h1.mul h1
  have h4 := h3.mul (approx_int8 cal.parT3)
  have h2' := h2.mul (approx_nat (le_refl 262144))
  have h5 := h2'.add h4
  have htemp := h5.tdiv 4294967296 (by norm_num)
  have htmp := htemp.mul (approx_nat (le_refl 250000))
  have hfp : cal.tempFp raw =
      (cal.parT2.toNat * ((raw : Int) + -(256 * cal.parT1.toNat)) * 262144 +
        ((raw : Int) + -(256 * cal.parT1.toNat)) * ((raw : Int) + -(256 * cal.parT1.toNat)) *
          cal.parT3.toInt).tdiv 4294967296 := by
    rw [Bmp390CalibData.tempFp, sub_eq_add_neg, sq]
  rw [hfp]
  constructor
  · unfold bmp388CompensateTemp
    refine h1.run (by norm_num) (h2.run (by norm_num) (h3.run (by norm_num) ?_))
    refine h4.run (by norm_num) (h2'.run (by norm_num) (h5.run (by norm_num) ?_))
    refine htmp.run (by norm_num) (congrArg some (Prod.ext ?_ rfl))
    -- 250000 / 16384 / 1000000 is 1 / 65536
    refine (Approx.tdiv_tdiv _ 16384 1000000).trans ?_
    exact Int.mul_tdiv_mul_of_pos_left _ 65536 (by norm_num)
  · have hexact : Approx _ (cal.exactTemp raw) _ 1 :=
      htemp.weaken (by rw [Bmp390CalibData.exactTemp]; push_cast; ring) (le_refl _) (by norm_num)
    exact hexact.error

/-! ## Pressure -/

/-- A term with the third power of the temperature. -/
theorem approx_cube {t3 : Int} {t : ℚ} (h : Approx t3 (t ^ 3 / 16384) 10550587162624000 21761)
    (p : Int8) :
    Approx (p.toInt * t3) (p.toInt * (t ^ 3 / 16384)) 1350475156815872000 2785408 :=
  ((approx_int8 p).mul h).weaken rfl (by norm_num) (by norm_num)

theorem approx_cube_tdiv {z : Int} {p t : ℚ}
    (h : Approx z (p * (t ^ 3 / 16384)) 1350475156815872000 2785408) :
    Approx (z.tdiv 32) (p * t ^ 3 / 524288) 42202348650496000 87045 :=
  (h.tdiv 32 (by norm_num)).weaken (by push_cast; ring) (by norm_num) (by norm_num)

/-- The last division, in unsigned integers. -/
theorem hundredths_error {d : Int} {p M : ℚ} (h : Approx d (p * 4398046511104) M 17400000)
    (hlow : 1 ≤ p) (hhigh : p ≤ 167000) :
    |((UInt64.ofInt d * 25 / 1099511627776).toNat : ℚ) / 100 - p| ≤ 101 / 10000 := by
  obtain ⟨hbelow, habove⟩ := abs_le.mp h.error
  have hpos : (0 : ℚ) ≤ d := by linarith
  have hpos' : 0 ≤ d := by exact_mod_cast hpos
  obtain ⟨n, rfl⟩ := Int.eq_ofNat_of_zero_le hpos'
  rw [Int.cast_natCast] at hbelow habove
  have hfits : (n : ℚ) * 25 < 18446744073709551616 := by linarith
  have hfits' : n * 25 < 18446744073709551616 := by exact_mod_cast hfits
  have hvalue : (UInt64.ofInt n * 25 / 1099511627776).toNat = n * 25 / 1099511627776 := by
    have hword : (UInt64.ofInt n).toNat = n := by
      rw [UInt64.ofInt, UInt64.toNat_ofNat']
      omega
    rw [UInt64.toNat_div, UInt64.toNat_mul, hword]
    exact congrArg (· / 1099511627776) (Nat.mod_eq_of_lt hfits')
  rw [hvalue]
  have hdiv : n * 25 / 1099511627776 * 1099511627776 ≤ n * 25 := Nat.div_mul_le_self _ _
  have hdiv' : n * 25 < (n * 25 / 1099511627776 + 1) * 1099511627776 :=
    Nat.lt_mul_of_div_lt (Nat.lt_succ_self _) (by norm_num)
  have hlower : ((n * 25 / 1099511627776 : Nat) : ℚ) * 1099511627776 ≤ n * 25 := by
    exact_mod_cast hdiv
  have hupper : (n : ℚ) * 25 < ((n * 25 / 1099511627776 : Nat) + 1 : ℚ) * 1099511627776 := by
    exact_mod_cast hdiv'
  rw [abs_le]
  constructor <;> linarith

theorem bmp388CompensatePress_spec (cal : Bmp390CalibData) {raw : Nat} {t : Int}
    (hraw : raw ≤ 16777215) (ht : |(t : ℚ)| ≤ 5570560) (hp5 : cal.parP5.toNat ≤ 53000)
    (hp9 : |(cal.parP9.toInt : ℚ)| ≤ 29000) (hlow : 1 ≤ cal.exactPressure raw t)
    (hhigh : cal.exactPressure raw t ≤ 167000) :
    ∃ v, bmp388CompensatePress raw t cal = some v ∧
      |(v.toNat : ℚ) / 100 - cal.exactPressure raw t| ≤ 101 / 10000 := by
  unfold bmp388CompensatePress
  dsimp only
  have happrox := Approx.exact ht
  have hr : Approx raw raw 16777215 0 := approx_nat hraw
  -- the powers of the temperature
  refine (Approx.weaken (happrox.mul happrox) (sq (t : ℚ)).symm
    (by norm_num : _ ≤ (31031138713600 : ℚ)) (by norm_num : _ ≤ (0 : ℚ))).bind (by norm_num)
    fun t2 ht2 => ?_
  have hcut : Approx (t2.tdiv 64) (t ^ 2 / 64) 484861542400 1 :=
    (ht2.tdiv 64 (by norm_num)).weaken (by push_cast; ring) (by norm_num) (by norm_num)
  refine (hcut.mul happrox).bind (by norm_num) fun d3 hd3 => ?_
  have ht3 : Approx (d3.tdiv 256) (t ^ 3 / 16384) 10550587162624000 21761 :=
    (hd3.tdiv 256 (by norm_num)).weaken (by push_cast; ring) (by norm_num) (by norm_num)
  -- the offset
  refine (approx_cube ht3 cal.parP8).bind (by norm_num) fun o3 ho3 => ?_
  have ho3' := approx_cube_tdiv ho3
  refine ((approx_int8 cal.parP7).mul ht2).bind (by norm_num) fun o2 ho2 => ?_
  refine (ho2.mul (approx_nat (le_refl 16))).bind (by norm_num) fun o2' ho2' => ?_
  refine ((approx_uint16 cal.parP6).mul happrox).bind (by norm_num) fun o1 ho1 => ?_
  refine (ho1.mul (approx_nat (le_refl 4194304))).bind (by norm_num) fun o1' ho1' => ?_
  refine ((approx_nat hp5).mul (approx_nat (le_refl 140737488355328))).bind (by norm_num)
    fun o0 ho0 => ?_
  refine (ho0.add ho3').bind (by norm_num) fun s1 hs1 => ?_
  refine (hs1.add ho2').bind (by norm_num) fun s2 hs2 => ?_
  refine (hs2.add ho1').bind (by norm_num) fun offset hoffset => ?_
  have hoffset' : Approx offset (cal.exactOffset t) 9096041512252211200 87045 :=
    hoffset.weaken (by rw [Bmp390CalibData.exactOffset]; push_cast; ring) (by norm_num)
      (by norm_num)
  clear ho3 ho3' ho2 ho2' ho1 ho1' ho0 hs1 hs2 hoffset
  -- the sensitivity
  refine (approx_cube ht3 cal.parP4).bind (by norm_num) fun c3 hc3 => ?_
  have hc3' := approx_cube_tdiv hc3
  refine ((approx_int8 cal.parP3).mul ht2).bind (by norm_num) fun c2 hc2 => ?_
  refine (hc2.mul (approx_nat (le_refl 4))).bind (by norm_num) fun c2' hc2' => ?_
  refine ((approx_shifted cal.parP2).mul happrox).bind (by norm_num) fun c1 hc1 => ?_
  refine (hc1.mul (approx_nat (le_refl 2097152))).bind (by norm_num) fun c1' hc1' => ?_
  refine ((approx_shifted cal.parP1).mul (approx_nat (le_refl 70368744177664))).bind
    (by norm_num) fun c0 hc0 => ?_
  refine (hc0.add hc3').bind (by norm_num) fun s1 hs1 => ?_
  refine (hs1.add hc2').bind (by norm_num) fun s2 hs2 => ?_
  refine (hs2.add hc1').bind (by norm_num) fun sensitivity hsens => ?_
  have hsens' : Approx (sensitivity.tdiv 16777216) (cal.exactSensitivity t / 16777216)
      243846402049 (87045 / 16777216 + 1) :=
    (hsens.tdiv 16777216 (by norm_num)).weaken
      (by rw [Bmp390CalibData.exactSensitivity]; push_cast; ring) (by norm_num) (by norm_num)
  clear hc3 hc3' hc2 hc2' hc1 hc1' hc0 hs1 hs2 hsens
  refine (hsens'.mul hr).bind (by norm_num) fun linear hlinear => ?_
  -- the term with the square of the raw pressure
  refine ((approx_int8 cal.parP10).mul happrox).bind (by norm_num) fun q1 hq1 => ?_
  refine (hq1.add ((approx_nat (le_refl 65536)).mul (Approx.exact hp9))).bind (by norm_num)
    fun q hq => ?_
  refine (hq.mul hr).bind (by norm_num) fun qr hqr => ?_
  have hqr' := (hqr.tdiv 8192 (by norm_num)).tdiv 10 (by norm_num)
  refine (hr.mul hqr').bind (by norm_num) fun qr2 hqr2 => ?_
  refine ((hqr2.tdiv 512 (by norm_num)).mul (approx_nat (le_refl 10))).bind (by norm_num)
    fun square hsquare => ?_
  have hsquare' : Approx square
      ((cal.parP10.toInt * t + 65536 * cal.parP9.toInt) * raw ^ 2 / 4194304)
      175394073954222704 360460 :=
    hsquare.weaken (by push_cast; ring) (by norm_num) (by norm_num)
  clear hq1 hq hqr hqr' hqr2 hsquare
  -- the term with its third power
  refine (hr.mul hr).bind (by norm_num) fun r2 hr2 => ?_
  refine ((approx_int8 cal.parP11).mul hr2).bind (by norm_num) fun k2 hk2 => ?_
  refine ((hk2.tdiv 65536 (by norm_num)).mul hr).bind (by norm_num) fun k3 hk3 => ?_
  have hk3' : Approx (k3.tdiv 128) (cal.parP11.toInt * raw ^ 3 / 8388608) 72057581153102683
      131073 :=
    (hk3.tdiv 128 (by norm_num)).weaken (by push_cast; ring) (by norm_num) (by norm_num)
  clear hr2 hk2 hk3
  -- all together
  refine ((hoffset'.tdiv 4 (by norm_num)).add hlinear).bind (by norm_num) fun d1 hd1 => ?_
  refine (hd1.add hsquare').bind (by norm_num) fun d2 hd2 => ?_
  refine (hd2.add hk3').bind (by norm_num) fun d hd => ?_
  have hexact : Approx d (cal.exactPressure raw t * 4398046511104) 6700000000000000000 17400000 :=
    hd.weaken (by rw [Bmp390CalibData.exactPressure]; push_cast; ring) (by norm_num) (by norm_num)
  exact ⟨_, rfl, hundredths_error hexact hlow hhigh⟩

/-! ## A reading -/

/-- The two roundings of the pressure; below 2²⁴ hundredths the first changes nothing. -/
theorem compPressPa_near {v : UInt64} {p : ℚ} (hp : |(v.toNat : ℚ) / 100 - p| ≤ 101 / 10000)
    (hlow : 1 ≤ p) (hhigh : p ≤ 167000) : |compPressPa v - p| ≤ 18 / 1000 := by
  obtain ⟨hbelow, habove⟩ := abs_le.mp hp
  have hnonneg : (0 : ℚ) ≤ v.toNat := Nat.cast_nonneg _
  have hfirst : binary32.round (v.toNat : ℚ) = v.toNat := by
    have hfits : |(((v.toNat : Int)) : ℚ)| < 2 ^ (binary32.precision : Int) := by
      rw [Int.cast_natCast, abs_of_nonneg hnonneg, show (2 : ℚ) ^ (binary32.precision : Int) =
        16777216 by norm_num [binary32]]
      linarith
    simpa using binary32.round_intCast hfits (by decide)
  have hsecond : |binary32.round ((v.toNat : ℚ) / 100) - v.toNat / 100| ≤ 1 / 128 := by
    have hfits : |(v.toNat : ℚ) / 100| < 2 ^ (18 : Int) := by
      rw [abs_of_nonneg (by linarith), show (2 : ℚ) ^ (18 : Int) = 262144 by norm_num]
      linarith
    have hround := binary32.abs_round_sub_le_of_lt hfits (by decide)
    exact hround.trans (by norm_num [binary32])
  rw [compPressPa, hfirst]
  rw [abs_le] at hsecond ⊢
  constructor <;> linarith

/-- A temperature in whole degrees is stored as it is. -/
theorem round_degrees {t : Int} (ht : |(t : ℚ)| ≤ 85 * 65536) :
    binary32.round ((t.tdiv 65536 : Int) : ℚ) = (t.tdiv 65536 : Int) := by
  refine binary32.round_intCast ?_ (by decide)
  have ht' : |t| ≤ 85 * 65536 := by exact_mod_cast ht
  have hbound : |t.tdiv 65536| ≤ 85 := by
    have hdiv : (t.tdiv 65536).natAbs = t.natAbs / 65536 := Int.natAbs_tdiv t 65536
    rw [Int.abs_eq_natAbs] at ht' ⊢
    omega
  have hbound' : |((t.tdiv 65536 : Int) : ℚ)| ≤ 85 := by exact_mod_cast hbound
  exact hbound'.trans_lt (by norm_num [binary32])

theorem leNat_three {bs : Bytes} (h : bs.length = 3) : leNat bs ≤ 16777215 := by
  have hlt := leNat_lt bs
  rw [h] at hlt
  omega

/-- **What the barometer reads**: in the sensor's range of temperatures and pressures, and with
the two largest coefficients a little below their limits, no operation overflows. The
temperature is cut to whole degrees, and the pressure is that of the calibration polynomial up
to 0.018 Pa, of which the `float` accounts for 1/128. -/
theorem readSensorData_near (data : BaroRegisters) (cal : Bmp390CalibData)
    (ht : |(cal.tempFp data.rawTemp : ℚ)| ≤ 85 * 65536) (hp5 : cal.parP5.toNat ≤ 53000)
    (hp9 : |(cal.parP9.toInt : ℚ)| ≤ 29000)
    (hlow : 1 ≤ cal.exactPressure data.rawPress (cal.tempFp data.rawTemp))
    (hhigh : cal.exactPressure data.rawPress (cal.tempFp data.rawTemp) ≤ 167000) :
    |(cal.tempFp data.rawTemp : ℚ) - cal.exactTemp data.rawTemp| ≤ 1 ∧
      ∃ pressurePa,
        readSensorData data cal =
          some ⟨((cal.tempFp data.rawTemp).tdiv 65536 : Int), pressurePa⟩ ∧
        |pressurePa - cal.exactPressure data.rawPress (cal.tempFp data.rawTemp)| ≤
          18 / 1000 := by
  have hrawTemp : data.rawTemp ≤ 16777215 := leNat_three (by simp)
  have hrawPress : data.rawPress ≤ 16777215 := leNat_three (by simp)
  obtain ⟨htemp, hnear⟩ := bmp388CompensateTemp_eq cal hrawTemp
  obtain ⟨v, hpress, herror⟩ := bmp388CompensatePress_spec cal hrawPress
    (ht.trans (by norm_num)) hp5 hp9 hlow hhigh
  refine ⟨hnear, compPressPa v, ?_, compPressPa_near herror hlow hhigh⟩
  unfold readSensorData
  rw [htemp]
  show (bmp388CompensatePress data.rawPress (cal.tempFp data.rawTemp) cal >>= _) = _
  rw [hpress]
  exact congrArg some (congrArg (BaroMeasurement.mk · (compPressPa v)) (round_degrees ht))

/-- The calibration of a sensor. -/
def Bmp390CalibData.sample : Bmp390CalibData where
  parT1 := 28159
  parT2 := 18966
  parT3 := -7
  parP1 := 1120
  parP2 := -800
  parP3 := 35
  parP4 := 0
  parP5 := 24730
  parP6 := 30100
  parP7 := -7
  parP8 := -10
  parP9 := 16000
  parP10 := 6
  parP11 := -60

/-- A reading near the ground, at 19 degrees. -/
theorem readSensorData_near_ground :
    ∃ pressurePa,
      readSensorData #v[0xC0, 0xCF, 0x6A, 0xE0, 0xA5, 0x7E] .sample = some ⟨19, pressurePa⟩ ∧
      |pressurePa - Bmp390CalibData.sample.exactPressure 7000000 1261335| ≤ 18 / 1000 := by
  have hpress : BaroRegisters.rawPress #v[0xC0, 0xCF, 0x6A, 0xE0, 0xA5, 0x7E] = 7000000 := by
    decide
  have htemp : Bmp390CalibData.sample.tempFp
      (BaroRegisters.rawTemp #v[0xC0, 0xCF, 0x6A, 0xE0, 0xA5, 0x7E]) = 1261335 := by
    decide +kernel
  have hreads := readSensorData_near #v[0xC0, 0xCF, 0x6A, 0xE0, 0xA5, 0x7E] .sample
  rw [hpress, htemp] at hreads
  exact (hreads (by norm_num) (by decide) (by decide +kernel) (by decide +kernel)
    (by decide +kernel)).2

/-- The `float` nearest to 102311.16 Pa. -/
example : readSensorData #v[0x58, 0x77, 0x6B, 0xE0, 0xA5, 0x7E] .sample =
    some ⟨19, 3273957 / 32⟩ := by decide +kernel

end TempoBt
