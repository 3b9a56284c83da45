-- SUMMARY: The magnetometer correction in 32 bits, by the service and by the driver, and the readings for which it is exact.
import TempoBt.App.SettingsRequests
import TempoBt.Lib.Signed32
import Mathlib.Algebra.Order.Floor.Ring
import Mathlib.Data.Rat.Floor

/-!
# Magnetometer correction

A reading is corrected by an offset and a scale in fixed point. Service and driver do
it with the same three lines for each axis; the product is formed in 32 bits.
-/

namespace TempoBt

open CString Signed32

/-! ## Readings -/

/-- Counts of the three axes. -/
structure MagCounts where
  x : Int32
  y : Int32
  z : Int32
  deriving DecidableEq

/-- The range of `mmc5983ma_read_raw`: counts of 18 bits, less `MMC5983MA_18BIT_OFFSET`. -/
def InRawRange (raw : Int32) : Prop := -131072 ≤ raw.toInt ∧ raw.toInt ≤ 131071

instance (raw : Int32) : Decidable (InRawRange raw) := inferInstanceAs (Decidable (_ ∧ _))

/-! ## Correction -/

/-- What both corrections do with one axis. -/
def correctedCount (raw offset : Int32) (scale : UInt16) : Int32 :=
  ((raw - offset) * scale.toUInt32.toInt32) >>> 15

/-- The counts that `apply_calibration` of the service converts to gauss. -/
def applyCalibration (cal : MagCalibration) (raw : MagCounts) : MagCounts :=
  if cal.valid then
    { x := correctedCount raw.x cal.offsetX cal.scaleX
      y := correctedCount raw.y cal.offsetY cal.scaleY
      z := correctedCount raw.z cal.offsetZ cal.scaleZ }
  else raw

/-- `struct mmc5983ma_data` as far as a correction reads and writes it; the matrix of its
calibration is not applied. -/
structure Mmc5983maData where
  raw : MagCounts
  calibrated : MagCounts
  cal : MagCalibration

/-- `mmc5983ma_apply_calibration` -/
def mmc5983maApplyCalibration (data : Mmc5983maData) : Mmc5983maData :=
  if !data.cal.valid then { data with calibrated := data.raw }
  else
    { data with
      calibrated :=
        { x := correctedCount data.raw.x data.cal.offsetX data.cal.scaleX
          y := correctedCount data.raw.y data.cal.offsetY data.cal.scaleY
          z := correctedCount data.raw.z data.cal.offsetZ data.cal.scaleZ } }

/-- The driver corrects as the service does. -/
theorem mmc5983maApplyCalibration_calibrated (data : Mmc5983maData) :
    (mmc5983maApplyCalibration data).calibrated = applyCalibration data.cal data.raw := by
  unfold mmc5983maApplyCalibration applyCalibration
  cases data.cal.valid <;> rfl

/-! ## Exactness -/

/-- An axis is corrected exactly: the count is the scaled difference, rounded down, and
nothing on the way leaves the 32-bit range. -/
structure ExactAxis (raw offset : Int32) (scale : UInt16) (corrected : Int32) : Prop where
  count : corrected.toInt = ⌊((raw.toInt - offset.toInt) * scale.toNat : ℚ) / 32768⌋
  difference : Signed32.InRange (raw.toInt - offset.toInt)
  product : Signed32.InRange ((raw.toInt - offset.toInt) * scale.toNat)

/-- The reading is so near to the offset that its difference, scaled, fits in 32 bits. -/
def NearOffset (raw offset : Int32) (scale : UInt16) : Prop :=
  -(2147483648 / (max scale.toNat 1 : Nat)) ≤ raw.toInt - offset.toInt ∧
    raw.toInt - offset.toInt ≤ 2147483647 / (max scale.toNat 1 : Nat)

theorem exactAxis_iff (raw offset : Int32) (scale : UInt16) :
    ExactAxis raw offset scale (correctedCount raw offset scale) ↔ NearOffset raw offset scale := by
  rw [NearOffset, ← inRange_mul_iff]
  constructor
  · exact fun h => ⟨h.difference, h.product⟩
  · rintro ⟨hdifference, hproduct⟩
    refine ⟨?_, hdifference, hproduct⟩
    have hsub := toInt_sub hdifference
    have hmul : ((raw - offset) * scale.toUInt32.toInt32).toInt =
        (raw.toInt - offset.toInt) * scale.toNat := by
      rw [toInt_mul, hsub, toInt_promote]
      rwa [hsub, toInt_promote]
    rw [correctedCount, toInt_shiftRight, hmul]
    have hfloor := Rat.floor_intCast_div_natCast ((raw.toInt - offset.toInt) * scale.toNat) 32768
    push_cast at hfloor
    exact hfloor.symm

/-- A reading is corrected exactly on every axis, in the service and in the driver. -/
structure CorrectsExactly (cal : MagCalibration) (raw : MagCounts) : Prop where
  service :
    ExactAxis raw.x cal.offsetX cal.scaleX (applyCalibration cal raw).x ∧
      ExactAxis raw.y cal.offsetY cal.scaleY (applyCalibration cal raw).y ∧
      ExactAxis raw.z cal.offsetZ cal.scaleZ (applyCalibration cal raw).z
  driver : ∀ data : Mmc5983maData, data.cal = cal → data.raw = raw →
    ExactAxis raw.x cal.offsetX cal.scaleX (mmc5983maApplyCalibration data).calibrated.x ∧
      ExactAxis raw.y cal.offsetY cal.scaleY (mmc5983maApplyCalibration data).calibrated.y ∧
      ExactAxis raw.z cal.offsetZ cal.scaleZ (mmc5983maApplyCalibration data).calibrated.z

theorem correctsExactly_iff_service (cal : MagCalibration) (raw : MagCounts) :
    CorrectsExactly cal raw ↔
      ExactAxis raw.x cal.offsetX cal.scaleX (applyCalibration cal raw).x ∧
        ExactAxis raw.y cal.offsetY cal.scaleY (applyCalibration cal raw).y ∧
        ExactAxis raw.z cal.offsetZ cal.scaleZ (applyCalibration cal raw).z := by
  constructor
  · exact fun h => h.service
  · intro h
    refine ⟨h, fun data hcal hraw => ?_⟩
    rw [mmc5983maApplyCalibration_calibrated, hcal, hraw]
    exact h

theorem correctsExactly_iff_of_valid {cal : MagCalibration} (hvalid : cal.valid = true)
    (raw : MagCounts) :
    CorrectsExactly cal raw ↔
      NearOffset raw.x cal.offsetX cal.scaleX ∧ NearOffset raw.y cal.offsetY cal.scaleY ∧
        NearOffset raw.z cal.offsetZ cal.scaleZ := by
  rw [correctsExactly_iff_service, applyCalibration, if_pos hvalid]
  exact and_congr (exactAxis_iff raw.x cal.offsetX cal.scaleX)
    (and_congr (exactAxis_iff raw.y cal.offsetY cal.scaleY)
      (exactAxis_iff raw.z cal.offsetZ cal.scaleZ))

/-! ## Calibrations that are accepted -/

/-- A calibration as it is stored after `CAL_SET` or the BLE request was answered with
success. -/
inductive AcceptedCalibration : MagCalibration → Prop
  | calSet (env : SettingsEnv) (args : Bytes) (m : Mag) (h : (cmdCalSet env args m).2 = 0) :
      AcceptedCalibration (cmdCalSet env args m).1.cal
  | magCalSet (env : SettingsEnv) (request : SmpRequest) (m : Mag) (response : SmpResponse)
      (h : (tempoMgmtMagCalSet env request m).2 = .ok response) :
      AcceptedCalibration (tempoMgmtMagCalSet env request m).1.cal

theorem magCalSetAndSave_cal {save : SettingsSave} {cal : MagCalibration} {m : Mag}
    (h : (magCalSetAndSave save cal m).2 = 0) : (magCalSetAndSave save cal m).1.cal = cal := by
  cases hinit : m.initialized with
  | false => simp [magCalSetAndSave, magCalSet, hinit, Errno.enodev] at h
  | true => simp [magCalSetAndSave, magCalSet, hinit]

theorem cmdCalSet_valid {env : SettingsEnv} {args : Bytes} {m : Mag}
    (h : (cmdCalSet env args m).2 = 0) : (cmdCalSet env args m).1.cal.valid = true := by
  unfold cmdCalSet at h ⊢
  split at h
  · dsimp only at h ⊢
    split at h
    · simp [Errno.erange] at h
    · rename_i hscales
      rw [if_neg hscales, magCalSetAndSave_cal h]
  · simp [Errno.einval] at h

theorem tempoMgmtMagCalSet_valid {env : SettingsEnv} {request : SmpRequest} {m : Mag}
    {response : SmpResponse} (h : (tempoMgmtMagCalSet env request m).2 = .ok response) :
    (tempoMgmtMagCalSet env request m).1.cal.valid = true := by
  cases hcal : (decodeMap magCalField request {}).bind MagCalUpdate.cal with
  | none => simp [tempoMgmtMagCalSet, hcal] at h
  | some cal =>
    have hret : (magCalSetAndSave env.save cal m).2 = 0 := by
      by_contra hret
      simp [tempoMgmtMagCalSet, hcal, hret] at h
    obtain ⟨u, -, hucal⟩ := Option.bind_eq_some_iff.mp hcal
    simp only [tempoMgmtMagCalSet, hcal]
    rw [magCalSetAndSave_cal hret]
    exact (MagCalUpdate.cal_eq_some hucal).1

theorem AcceptedCalibration.valid {cal : MagCalibration} (h : AcceptedCalibration cal) :
    cal.valid = true := by
  cases h with
  | calSet env args m h => exact cmdCalSet_valid h
  | magCalSet env request m response h => exact tempoMgmtMagCalSet_valid h

/-- With a calibration that was accepted, a reading is corrected exactly if and only if on
each axis it is so near to the offset that the scaled difference fits. -/
theorem correctsExactly_iff {cal : MagCalibration} (haccepted : AcceptedCalibration cal)
    (raw : MagCounts) :
    CorrectsExactly cal raw ↔
      NearOffset raw.x cal.offsetX cal.scaleX ∧ NearOffset raw.y cal.offsetY cal.scaleY ∧
        NearOffset raw.z cal.offsetZ cal.scaleZ :=
  correctsExactly_iff_of_valid haccepted.valid raw

/-- `CAL_SET` with the given numbers, on a magnetometer that is ready. -/
private abbrev calSetReady (args : String) : Mag × Int :=
  cmdCalSet ⟨fun _ => 0, true, true, UInt32.ofInt⟩ (ascii args) ⟨true, .cleared⟩

theorem correctsExactly_iff_unitScale :
    CorrectsExactly (calSetReady "100,-100,0,32768,32768,32768").1.cal ⟨1000, -1000, 0⟩ ↔
      NearOffset 1000 100 32768 ∧ NearOffset (-1000) (-100) 32768 ∧ NearOffset 0 0 32768 := by
  have hcal : (calSetReady "100,-100,0,32768,32768,32768").1.cal =
      ⟨100, -100, 0, 32768, 32768, 32768, true⟩ := by decide +kernel
  have haccepted := AcceptedCalibration.calSet ⟨fun _ => 0, true, true, UInt32.ofInt⟩
    (ascii "100,-100,0,32768,32768,32768") ⟨true, .cleared⟩ (by decide +kernel)
  have h := correctsExactly_iff haccepted ⟨1000, -1000, 0⟩
  rwa [hcal] at h ⊢

/-- A field of 4 gauss is in the raw range; with offsets of 0 and unit scales its product
is 2^31, and the corrected count is negative. -/
theorem not_correctsExactly_fourGauss :
    (calSetReady "0,0,0,32768,32768,32768").2 = 0 ∧
      InRawRange 65536 ∧ InRawRange 0 ∧
      (applyCalibration (calSetReady "0,0,0,32768,32768,32768").1.cal ⟨65536, 0, 0⟩).x = -65536 ∧
      ¬CorrectsExactly (calSetReady "0,0,0,32768,32768,32768").1.cal ⟨65536, 0, 0⟩ := by
  have hcal : (calSetReady "0,0,0,32768,32768,32768").1.cal =
      ⟨0, 0, 0, 32768, 32768, 32768, true⟩ := by decide +kernel
  rw [hcal]
  refine ⟨by decide +kernel, by decide, by decide, by decide, fun h => ?_⟩
  have hproduct := h.service.1.product
  revert hproduct
  decide

end TempoBt
