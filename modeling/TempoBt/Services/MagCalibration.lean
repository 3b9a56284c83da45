-- SUMMARY: The calibration that the magnetometer service computes from its samples, and when it is exact and changes nothing on errors.
import TempoBt.Lib.Machine
import TempoBt.Services.MagCorrection

/-!
# Magnetometer calibration

While samples are collected, the service keeps the lowest and the highest count of each
axis. `mag_cal_compute` centres the offsets between them and scales each range to the
average of the three.
-/

namespace TempoBt

open Errno Signed32

/-! ## Axes -/

inductive MagAxis where
  | x
  | y
  | z

namespace MagAxis

def counts (c : MagCounts) : MagAxis → Int32
  | .x => c.x
  | .y => c.y
  | .z => c.z

def offset (cal : MagCalibration) : MagAxis → Int32
  | .x => cal.offsetX
  | .y => cal.offsetY
  | .z => cal.offsetZ

def scale (cal : MagCalibration) : MagAxis → UInt16
  | .x => cal.scaleX
  | .y => cal.scaleY
  | .z => cal.scaleZ

end MagAxis

/-- The counts of a reading, each in the sensor's range. -/
structure RawSample where
  counts : MagCounts
  inRange : ∀ axis : MagAxis, InRawRange (axis.counts counts)

/-! ## The service -/

/-- `mag_sample_t` as counts, before they are converted to gauss. -/
structure MagSampleCounts where
  counts : MagCounts
  calibrated : Bool

/-- The return value of a call that fills a sample. -/
def magRet : Except Int MagSampleCounts → Int
  | .error ret => ret
  | .ok _ => 0

/-- The service's `state`, less the configuration of the sensor. -/
structure MagService extends Mag where
  calCollecting : Bool
  calMin : MagCounts
  calMax : MagCounts
  calSampleCount : UInt32

namespace MagService

/-- The `state` before `mag_init`. -/
def zero : MagService where
  initialized := false
  cal := ⟨0, 0, 0, 0, 0, 0, false⟩
  calCollecting := false
  calMin := ⟨0, 0, 0⟩
  calMax := ⟨0, 0, 0⟩
  calSampleCount := 0

/-- `mag_init`, with the calibration that `mag_cal_load` finds. -/
def magInit (deviceReady : Bool) (loaded : Option MagCalibration) (s : MagService) :
    MagService × Int :=
  if deviceReady then
    ({ zero with cal := loaded.getD .cleared, initialized := true }, 0)
  else (s, -enodev)

/-- The end of `mag_read`: a sample is added while samples are collected. -/
def collect (raw : MagCounts) (s : MagService) : MagService :=
  if s.calCollecting then
    { s with
      calMin :=
        { x := if raw.x < s.calMin.x then raw.x else s.calMin.x
          y := if raw.y < s.calMin.y then raw.y else s.calMin.y
          z := if raw.z < s.calMin.z then raw.z else s.calMin.z }
      calMax :=
        { x := if raw.x > s.calMax.x then raw.x else s.calMax.x
          y := if raw.y > s.calMax.y then raw.y else s.calMax.y
          z := if raw.z > s.calMax.z then raw.z else s.calMax.z }
      calSampleCount := s.calSampleCount + 1 }
  else s

/-- `mag_read`, with what `mag_read_raw` returns. -/
def magRead (raw : Except Int RawSample) (s : MagService) :
    MagService × Except Int MagSampleCounts :=
  if s.initialized then
    match raw with
    | .error ret => (s, .error ret)
    | .ok raw =>
      (s.collect raw.counts,
        .ok { counts := applyCalibration s.cal raw.counts, calibrated := s.cal.valid })
  else (s, .error (-enodev))

def magCalStart (s : MagService) : MagService × Int :=
  if s.initialized then
    ({ s with
        calMin := ⟨Int32.maxValue, Int32.maxValue, Int32.maxValue⟩
        calMax := ⟨Int32.minValue, Int32.minValue, Int32.minValue⟩
        calSampleCount := 0
        calCollecting := true }, 0)
  else (s, -enodev)

/-- `mag_cal_add_sample`; the sample itself is dropped. -/
def magCalAddSample (raw : Except Int RawSample) (s : MagService) : MagService × Int :=
  if s.initialized = false then (s, -enodev)
  else if s.calCollecting = false then (s, -einval)
  else ((s.magRead raw).1, magRet (s.magRead raw).2)

/-- The cast of `(avg_range * 32768LL) / range` to `uint16_t`; 64 bits hold the product. -/
def scaleFactor (avgRange range : Int32) : UInt16 :=
  UInt16.ofInt ((avgRange.toInt * 32768).tdiv range.toInt)

/-- The hard-iron offsets, in the middle of each axis. -/
def storeOffsets (s : MagService) : MagService :=
  { s with
    cal.offsetX := (s.calMin.x + s.calMax.x) / 2
    cal.offsetY := (s.calMin.y + s.calMax.y) / 2
    cal.offsetZ := (s.calMin.z + s.calMax.z) / 2 }

/-- The soft-iron scale factors, normalised to the average range. -/
def storeScales (rangeX rangeY rangeZ : Int32) (s : MagService) : MagService :=
  let avgRange := (rangeX + rangeY + rangeZ) / 3
  { s with
    cal.scaleX := scaleFactor avgRange rangeX
    cal.scaleY := scaleFactor avgRange rangeY
    cal.scaleZ := scaleFactor avgRange rangeZ
    cal.valid := true }

def magCalCompute (s : MagService) : MagService × Int :=
  if s.initialized = false then (s, -enodev)
  else if s.calCollecting = false then (s, -einval)
  else if s.calSampleCount < 100 then (s, -einval)
  else
    let s := { s with calCollecting := false }.storeOffsets
    let rangeX := s.calMax.x - s.calMin.x
    let rangeY := s.calMax.y - s.calMin.y
    let rangeZ := s.calMax.z - s.calMin.z
    -- the offsets are stored by now
    if rangeX = 0 ∨ rangeY = 0 ∨ rangeZ = 0 then (s, -einval)
    else (s.storeScales rangeX rangeY rangeZ, 0)

/-- `mag_cal_clear` -/
def magCalClear (s : MagService) : MagService × Int :=
  ({ s with cal := .cleared }, 0)

end MagService

/-- A call into the service, from any of its users. -/
inductive MagCall where
  | init (deviceReady : Bool) (loaded : Option MagCalibration)
  | read (raw : Except Int RawSample)
  | calStart
  | calAddSample (raw : Except Int RawSample)
  | calCompute
  | calSet (cal : MagCalibration)
  | calClear

def magStep (s : MagService) : MagCall → MagService × Int
  | .init deviceReady loaded => s.magInit deviceReady loaded
  | .read raw => ((s.magRead raw).1, magRet (s.magRead raw).2)
  | .calStart => s.magCalStart
  | .calAddSample raw => s.magCalAddSample raw
  | .calCompute => s.magCalCompute
  | .calSet cal => ({ s with toMag := (magCalSet cal s.toMag).1 }, (magCalSet cal s.toMag).2)
  | .calClear => s.magCalClear

/-! ## Samples -/

/-- What a call adds to the samples since the last `mag_cal_start`. -/
def samplesStep (samples : List RawSample) : MagCall → List RawSample
  | .calStart => []
  | .read (.ok raw) | .calAddSample (.ok raw) => samples ++ [raw]
  | .read (.error _) | .calAddSample (.error _) => samples
  | .init .. | .calCompute | .calSet _ | .calClear => samples

/-- The samples that a run has read since its last `mag_cal_start`. -/
def samplesSince (calls : List MagCall) : List RawSample := calls.foldl samplesStep []

section Samples

variable (samples : List RawSample) (axis : MagAxis)

def axisCounts : List Int := samples.map fun sample => (axis.counts sample.counts).toInt

/-- The lowest count of an axis. -/
def axisMin : Int := (axisCounts samples axis).min?.getD 0

/-- The highest count of an axis. -/
def axisMax : Int := (axisCounts samples axis).max?.getD 0

/-- The midpoint of an axis in whole counts, as C divides. -/
def axisMidpoint : Int := (axisMin samples axis + axisMax samples axis).tdiv 2

def axisRange : Int := axisMax samples axis - axisMin samples axis

/-- The average range in whole counts. -/
def averageRange : Int :=
  (axisRange samples .x + axisRange samples .y + axisRange samples .z) / 3

variable {samples}

theorem isLeast_axisMin (hsome : samples ≠ []) :
    IsLeast { v | v ∈ axisCounts samples axis } (axisMin samples axis) := by
  have hcounts : axisCounts samples axis ≠ [] := by simpa [axisCounts] using hsome
  have hmin := List.min?_eq_some_iff.mp (List.min?_eq_some_min hcounts)
  rw [axisMin, List.min?_eq_some_min hcounts]
  exact ⟨hmin.1, fun v hv => hmin.2 v hv⟩

theorem isGreatest_axisMax (hsome : samples ≠ []) :
    IsGreatest { v | v ∈ axisCounts samples axis } (axisMax samples axis) := by
  have hcounts : axisCounts samples axis ≠ [] := by simpa [axisCounts] using hsome
  have hmax := List.max?_eq_some_iff.mp (List.max?_eq_some_max hcounts)
  rw [axisMax, List.max?_eq_some_max hcounts]
  exact ⟨hmax.1, fun v hv => hmax.2 v hv⟩

theorem axisCounts_inRange {v : Int} (hv : v ∈ axisCounts samples axis) :
    -131072 ≤ v ∧ v ≤ 131071 := by
  obtain ⟨sample, -, rfl⟩ := List.mem_map.mp hv
  exact sample.inRange axis

/-- An axis lies in the sensor's range, so its sums and differences fit in 32 bits. -/
theorem axis_bounds (hsome : samples ≠ []) :
    -131072 ≤ axisMin samples axis ∧ axisMin samples axis ≤ axisMax samples axis ∧
      axisMax samples axis ≤ 131071 := by
  have hmin := isLeast_axisMin axis hsome
  have hmax := isGreatest_axisMax axis hsome
  exact ⟨(axisCounts_inRange axis hmin.1).1, hmin.2 hmax.1, (axisCounts_inRange axis hmax.1).2⟩

theorem axisRange_bounds (hsome : samples ≠ []) :
    0 ≤ axisRange samples axis ∧ axisRange samples axis ≤ 262143 := by
  have hbounds := axis_bounds axis hsome
  unfold axisRange
  omega

end Samples

/-! ## Collection -/

namespace MagService

variable {s : MagService} {samples : List RawSample}

/-- The running extremes and the count are those of the samples. -/
structure Tracks (s : MagService) (samples : List RawSample) : Prop where
  initialized : s.initialized = true
  min (axis : MagAxis) :
    (axis.counts s.calMin).toInt = (axisCounts samples axis).foldl min Int32.maxValue.toInt
  max (axis : MagAxis) :
    (axis.counts s.calMax).toInt = (axisCounts samples axis).foldl max Int32.minValue.toInt
  count : s.calSampleCount = UInt32.ofNat samples.length

theorem tracks_magCalStart (hinit : s.initialized = true) : s.magCalStart.1.Tracks [] := by
  rw [magCalStart, if_pos hinit]
  refine ⟨hinit, fun axis => ?_, fun axis => ?_, rfl⟩
  · cases axis <;> rfl
  · cases axis <;> rfl

theorem Tracks.collect (h : s.Tracks samples) (hcollecting : s.calCollecting = true)
    (raw : RawSample) : (s.collect raw.counts).Tracks (samples ++ [raw]) := by
  rw [MagService.collect, if_pos hcollecting]
  refine ⟨h.initialized, fun axis => ?_, fun axis => ?_, ?_⟩
  · rw [axisCounts, List.map_append, List.foldl_append, ← axisCounts, ← h.min axis]
    cases axis <;> exact toInt_ite_lt _ _
  · rw [axisCounts, List.map_append, List.foldl_append, ← axisCounts, ← h.max axis]
    cases axis <;> exact toInt_ite_gt _ _
  · have hcount := h.count
    simp [hcount]

/-- While samples are collected, the state tracks those since the last start. -/
def Collects (s : MagService) (samples : List RawSample) : Prop :=
  s.calCollecting = true → s.Tracks samples

/-- Collecting means that the service is initialised. -/
theorem Collects.not_collecting (h : s.Collects samples) (hinit : s.initialized = false) :
    s.calCollecting = false := by
  cases hcollecting : s.calCollecting with
  | false => rfl
  | true =>
    have hinitialized := (h hcollecting).initialized
    simp [hinit] at hinitialized

theorem Collects.of_not_collecting (h : s.calCollecting = false) : s.Collects samples := by
  intro hcollecting
  simp [h] at hcollecting

theorem magRead_error (ret : Int) : (s.magRead (.error ret)).1 = s := by
  unfold magRead
  split <;> rfl

theorem Collects.magRead (h : s.Collects samples) (raw : Except Int RawSample) :
    (s.magRead raw).1.Collects (samplesStep samples (.read raw)) := by
  cases raw with
  | error ret =>
    rw [magRead_error]
    exact h
  | ok raw =>
    cases hcollecting : s.calCollecting with
    | false =>
      apply of_not_collecting
      unfold MagService.magRead collect
      split <;> simp [hcollecting]
    | true =>
      have htracks := h hcollecting
      simp only [MagService.magRead, htracks.initialized, if_true]
      exact fun _ => htracks.collect hcollecting raw

theorem Collects.magCalStart (h : s.Collects samples) : s.magCalStart.1.Collects [] := by
  cases hinit : s.initialized with
  | true => exact fun _ => tracks_magCalStart hinit
  | false =>
    have hsame : s.magCalStart = (s, -enodev) := by simp [MagService.magCalStart, hinit]
    rw [hsame]
    exact of_not_collecting (h.not_collecting hinit)

/-- A sample is added as by a reading, or not at all where none are collected. -/
theorem magCalAddSample_cases (h : s.Collects samples) (raw : Except Int RawSample) :
    (s.magCalAddSample raw).1 = (s.magRead raw).1 ∨
      (s.magCalAddSample raw).1 = s ∧ s.calCollecting = false := by
  cases hcollecting : s.calCollecting with
  | false =>
    right
    refine ⟨?_, rfl⟩
    simp only [magCalAddSample, hcollecting, if_true]
    split <;> rfl
  | true =>
    left
    simp [magCalAddSample, hcollecting, (h hcollecting).initialized]

/-- `mag_cal_compute` returns before it stores anything. -/
def Refused (s : MagService) : Prop :=
  s.initialized = false ∨ s.calCollecting = false ∨ s.calSampleCount < 100

theorem magCalCompute_refused (h : s.Refused) : s.magCalCompute.1 = s ∧ s.magCalCompute.2 ≠ 0 := by
  unfold magCalCompute
  by_cases hinit : s.initialized = false
  · rw [if_pos hinit]
    exact ⟨rfl, by simp [enodev]⟩
  · rw [if_neg hinit]
    by_cases hcollecting : s.calCollecting = false
    · rw [if_pos hcollecting]
      exact ⟨rfl, by simp [einval]⟩
    · have hcount := (h.resolve_left hinit).resolve_left hcollecting
      rw [if_neg hcollecting, if_pos hcount]
      exact ⟨rfl, by simp [einval]⟩

/-- Otherwise the offsets are stored, and the scales if no axis is flat. -/
theorem magCalCompute_accepted (h : ¬s.Refused) :
    s.magCalCompute =
      if s.calMax.x - s.calMin.x = 0 ∨ s.calMax.y - s.calMin.y = 0 ∨ s.calMax.z - s.calMin.z = 0
      then ({ s with calCollecting := false }.storeOffsets, -einval)
      else
        ({ s with calCollecting := false }.storeOffsets.storeScales (s.calMax.x - s.calMin.x)
          (s.calMax.y - s.calMin.y) (s.calMax.z - s.calMin.z), 0) := by
  obtain ⟨hinit, hcollecting, hcount⟩ : ¬s.initialized = false ∧ ¬s.calCollecting = false ∧
      ¬s.calSampleCount < 100 := by simpa [Refused] using h
  rw [magCalCompute, if_neg hinit, if_neg hcollecting, if_neg hcount]
  rfl

theorem Collects.magCalCompute (h : s.Collects samples) :
    s.magCalCompute.1.Collects samples := by
  by_cases hrefused : s.Refused
  · rw [(magCalCompute_refused hrefused).1]
    exact h
  · rw [magCalCompute_accepted hrefused]
    intro hcollecting
    split at hcollecting
    · cases hcollecting
    · cases hcollecting

end MagService

open MagService

theorem collects_magStep {s : MagService} {samples : List RawSample} (h : s.Collects samples)
    (call : MagCall) : (magStep s call).1.Collects (samplesStep samples call) := by
  cases call with
  | init deviceReady loaded =>
    cases deviceReady with
    | false => exact h
    | true => exact fun hcollecting => by cases hcollecting
  | read raw => exact h.magRead raw
  | calStart => exact h.magCalStart
  | calAddSample raw =>
    simp only [magStep]
    rcases magCalAddSample_cases h raw with hread | ⟨hsame, hnot⟩
    · have hsamples :
          samplesStep samples (.calAddSample raw) = samplesStep samples (.read raw) := by
        cases raw <;> rfl
      rw [hread, hsamples]
      exact h.magRead raw
    · rw [hsame]
      exact .of_not_collecting hnot
  | calCompute => exact h.magCalCompute
  | calSet cal =>
    intro hcollecting
    have htracks := h hcollecting
    simp only [magStep, magCalSet, htracks.initialized, if_true]
    exact ⟨rfl, htracks.min, htracks.max, htracks.count⟩
  | calClear =>
    intro hcollecting
    have htracks := h hcollecting
    exact ⟨htracks.initialized, htracks.min, htracks.max, htracks.count⟩

/-- In every run from power-up, the state tracks the samples since the last start. -/
theorem collects_run (calls : List MagCall) :
    (Machine.run magStep .zero calls).1.Collects (samplesSince calls) := by
  have hzero : Collects .zero [] := fun hcollecting => by cases hcollecting
  exact Machine.run_ghost (I := Collects) (fun _ call _ h => collects_magStep h call) calls hzero

/-! ## Extremes and ranges -/

namespace MagService

namespace Tracks

variable {s : MagService} {samples : List RawSample} (h : s.Tracks samples)
  (hsome : samples ≠ []) (axis : MagAxis)

include h hsome

theorem min_eq : (axis.counts s.calMin).toInt = axisMin samples axis := by
  have hcounts : axisCounts samples axis ≠ [] := by simpa [axisCounts] using hsome
  have hrange := axisCounts_inRange axis (isLeast_axisMin axis hsome).1
  have hstart : Int32.maxValue.toInt = 2147483647 := rfl
  have hmin : (axisCounts samples axis).min?.getD 2147483647 = axisMin samples axis := by
    rw [axisMin, List.min?_eq_some_min hcounts]
    rfl
  rw [h.min axis, List.foldl_min, hstart, hmin]
  omega

theorem max_eq : (axis.counts s.calMax).toInt = axisMax samples axis := by
  have hcounts : axisCounts samples axis ≠ [] := by simpa [axisCounts] using hsome
  have hrange := axisCounts_inRange axis (isGreatest_axisMax axis hsome).1
  have hstart : Int32.minValue.toInt = -2147483648 := rfl
  have hmax : (axisCounts samples axis).max?.getD (-2147483648) = axisMax samples axis := by
    rw [axisMax, List.max?_eq_some_max hcounts]
    rfl
  rw [h.max axis, List.foldl_max, hstart, hmax]
  omega

theorem range_eq :
    (axis.counts s.calMax - axis.counts s.calMin).toInt = axisRange samples axis := by
  have hbounds := axis_bounds axis hsome
  rw [toInt_sub, h.max_eq hsome, h.min_eq hsome, axisRange]
  rw [h.max_eq hsome, h.min_eq hsome, Signed32.InRange]
  omega

theorem midpoint_eq :
    ((axis.counts s.calMin + axis.counts s.calMax) / 2).toInt = axisMidpoint samples axis := by
  have hbounds := axis_bounds axis hsome
  rw [Int32.toInt_div_of_ne_right _ _ (by decide), toInt_add, h.max_eq hsome, h.min_eq hsome,
    axisMidpoint]
  · rfl
  · rw [h.max_eq hsome, h.min_eq hsome, Signed32.InRange]
    omega

end Tracks

end MagService

/-! ## Exactness -/

theorem toInt_average {samples : List RawSample} (hsome : samples ≠ []) {x y z : Int32}
    (hx : x.toInt = axisRange samples .x) (hy : y.toInt = axisRange samples .y)
    (hz : z.toInt = axisRange samples .z) :
    ((x + y + z) / 3).toInt = averageRange samples := by
  have hbx := axisRange_bounds .x hsome
  have hby := axisRange_bounds .y hsome
  have hbz := axisRange_bounds .z hsome
  have hxy : (x + y).toInt = axisRange samples .x + axisRange samples .y := by
    rw [toInt_add, hx, hy]
    rw [hx, hy, Signed32.InRange]
    omega
  rw [Int32.toInt_div_of_ne_right _ _ (by decide), toInt_add, hxy, hz, averageRange]
  · exact Int.tdiv_eq_ediv_of_nonneg (by omega)
  · rw [hxy, hz, Signed32.InRange]
    omega

/-- An axis is scaled exactly when its range is more than half the average. -/
theorem scaleFactor_exact_iff {avgRange range : Int32} (haverage : 0 ≤ avgRange.toInt)
    (hrange : 0 < range.toInt) :
    ((scaleFactor avgRange range).toNat : Int) = avgRange.toInt * 32768 / range.toInt ↔
      avgRange.toInt < 2 * range.toInt := by
  have hproduct : 0 ≤ avgRange.toInt * 32768 := by omega
  have hnonneg := Int.ediv_nonneg hproduct hrange.le
  rw [scaleFactor, Int.tdiv_eq_ediv_of_nonneg hproduct, toNat_ofInt_iff,
    Int.ediv_lt_iff_lt_mul hrange]
  omega

/-- The offsets are the midpoints, and the scales are exact, in 16 bits. -/
structure CalibratedFrom (samples : List RawSample) (cal : MagCalibration) : Prop where
  offset (axis : MagAxis) : (axis.offset cal).toInt = axisMidpoint samples axis
  scale (axis : MagAxis) :
    ((axis.scale cal).toNat : Int) = averageRange samples * 32768 / axisRange samples axis

/-- `mag_cal_compute` calibrates from the samples, or returns an error and leaves the
calibration as it was. -/
def CalibratesOrKeeps (s : MagService) (samples : List RawSample) : Prop :=
  (s.magCalCompute.2 ≠ 0 → s.magCalCompute.1.cal = s.cal) ∧
    (s.magCalCompute.2 = 0 → CalibratedFrom samples s.magCalCompute.1.cal)

/-- The call is refused before it stores anything; or an axis is flat, and the offsets
are the midpoints already; or no axis has only half the average range, or less. -/
def Calibratable (s : MagService) (samples : List RawSample) : Prop :=
  s.Refused ∨
    ((∃ axis, axisRange samples axis = 0) ∧
      ∀ axis : MagAxis, (axis.offset s.cal).toInt = axisMidpoint samples axis) ∨
    ∀ axis, averageRange samples < 2 * axisRange samples axis

namespace MagService.Tracks

variable {s : MagService} {samples : List RawSample}

theorem ne_nil (h : s.Tracks samples) (hrefused : ¬s.Refused) : samples ≠ [] := by
  rintro rfl
  apply hrefused
  right
  right
  rw [h.count]
  decide

variable (h : s.Tracks samples) (hsome : samples ≠ [])

include h hsome

theorem flat_iff :
    (s.calMax.x - s.calMin.x = 0 ∨ s.calMax.y - s.calMin.y = 0 ∨ s.calMax.z - s.calMin.z = 0) ↔
      ∃ axis, axisRange samples axis = 0 := by
  have hzero (axis : MagAxis) :
      axis.counts s.calMax - axis.counts s.calMin = 0 ↔ axisRange samples axis = 0 := by
    rw [← Int32.toInt_inj, h.range_eq hsome axis]
    rfl
  constructor
  · rintro (hx | hy | hz)
    · exact ⟨.x, (hzero .x).mp hx⟩
    · exact ⟨.y, (hzero .y).mp hy⟩
    · exact ⟨.z, (hzero .z).mp hz⟩
  · rintro ⟨axis, haxis⟩
    have hrange := (hzero axis).mpr haxis
    cases axis with
    | x => exact .inl hrange
    | y => exact .inr (.inl hrange)
    | z => exact .inr (.inr hrange)

/-- The offsets that are stored are the midpoints. -/
theorem storeOffsets_offset (axis : MagAxis) :
    (axis.offset s.storeOffsets.cal).toInt = axisMidpoint samples axis := by
  rw [← h.midpoint_eq hsome axis]
  cases axis <;> rfl

theorem storeOffsets_cal_iff :
    s.storeOffsets.cal = s.cal ↔
      ∀ axis : MagAxis, (axis.offset s.cal).toInt = axisMidpoint samples axis := by
  have hoffset := h.storeOffsets_offset hsome
  constructor
  · intro hsame
    rwa [hsame] at hoffset
  · intro hmidpoint
    have hsame (axis : MagAxis) : axis.offset s.storeOffsets.cal = axis.offset s.cal :=
      Int32.toInt_inj.mp ((hoffset axis).trans (hmidpoint axis).symm)
    ext1
    · exact hsame .x
    · exact hsame .y
    · exact hsame .z
    · rfl
    · rfl
    · rfl
    · rfl

/-- With no flat axis, what is stored is calibrated from the samples if and only if every
scale fits. -/
theorem calibratedFrom_iff (hflat : ∀ axis, axisRange samples axis ≠ 0) :
    CalibratedFrom samples (s.storeOffsets.storeScales (s.calMax.x - s.calMin.x)
        (s.calMax.y - s.calMin.y) (s.calMax.z - s.calMin.z)).cal ↔
      ∀ axis, averageRange samples < 2 * axisRange samples axis := by
  have haverage := toInt_average hsome (h.range_eq hsome .x) (h.range_eq hsome .y)
    (h.range_eq hsome .z)
  have hscale (axis : MagAxis) :
      ((axis.scale (s.storeOffsets.storeScales (s.calMax.x - s.calMin.x)
          (s.calMax.y - s.calMin.y) (s.calMax.z - s.calMin.z)).cal).toNat : Int) =
          averageRange samples * 32768 / axisRange samples axis ↔
        averageRange samples < 2 * axisRange samples axis := by
    have hbx := axisRange_bounds .x hsome
    have hby := axisRange_bounds .y hsome
    have hbz := axisRange_bounds .z hsome
    have hnonneg : 0 ≤ averageRange samples := by
      unfold averageRange
      omega
    have hpos : 0 < axisRange samples axis :=
      lt_of_le_of_ne (axisRange_bounds axis hsome).1 (hflat axis).symm
    rw [← haverage] at hnonneg ⊢
    rw [← h.range_eq hsome axis] at hpos ⊢
    rw [← scaleFactor_exact_iff hnonneg hpos]
    cases axis <;> rfl
  constructor
  · exact fun hcalibrated axis => (hscale axis).mp (hcalibrated.scale axis)
  · intro hspread
    refine ⟨fun axis => ?_, fun axis => (hscale axis).mpr (hspread axis)⟩
    rw [← h.storeOffsets_offset hsome axis]
    cases axis <;> rfl

end MagService.Tracks

/-- A flat axis has less than half the average range. -/
theorem not_forall_spread {samples : List RawSample} (hsome : samples ≠ []) {axis : MagAxis}
    (hflat : axisRange samples axis = 0) :
    ¬∀ axis, averageRange samples < 2 * axisRange samples axis := by
  intro hspread
  have hbx := axisRange_bounds .x hsome
  have hby := axisRange_bounds .y hsome
  have hbz := axisRange_bounds .z hsome
  have haxis := hspread axis
  unfold averageRange at haxis
  omega

theorem calibratesOrKeeps_iff_of_collects {s : MagService} {samples : List RawSample}
    (h : s.Collects samples) : CalibratesOrKeeps s samples ↔ Calibratable s samples := by
  unfold CalibratesOrKeeps Calibratable
  by_cases hrefused : s.Refused
  · obtain ⟨hsame, hret⟩ := magCalCompute_refused hrefused
    simp [hsame, hret, hrefused]
  · have hcollecting : s.calCollecting = true := by
      by_contra hnot
      exact hrefused (.inr (.inl (by simpa using hnot)))
    have htracks := h hcollecting
    have hsome := htracks.ne_nil hrefused
    rw [magCalCompute_accepted hrefused]
    by_cases hflat : ∃ axis, axisRange samples axis = 0
    · have hspread : ¬∀ axis, averageRange samples < 2 * axisRange samples axis := by
        obtain ⟨axis, haxis⟩ := hflat
        exact not_forall_spread hsome haxis
      rw [if_pos ((htracks.flat_iff hsome).mpr hflat)]
      -- the call fails with the offsets stored, so these have to be the old ones
      calc
        _ ↔ s.storeOffsets.cal = s.cal := by simp [einval, storeOffsets]
        _ ↔ ∀ axis : MagAxis, (axis.offset s.cal).toInt = axisMidpoint samples axis :=
          htracks.storeOffsets_cal_iff hsome
        _ ↔ _ := by simp only [hrefused, hflat, hspread, false_or, true_and, or_false]
    · have hcalibrated := htracks.calibratedFrom_iff hsome fun axis haxis => hflat ⟨axis, haxis⟩
      rw [if_neg (fun hzero => hflat ((htracks.flat_iff hsome).mp hzero))]
      calc
        _ ↔ CalibratedFrom samples (s.storeOffsets.storeScales (s.calMax.x - s.calMin.x)
            (s.calMax.y - s.calMin.y) (s.calMax.z - s.calMin.z)).cal := by
          simp [storeOffsets, storeScales]
        _ ↔ ∀ axis, averageRange samples < 2 * axisRange samples axis := hcalibrated
        _ ↔ _ := by simp [hrefused, hflat]

/-- After any run from power-up, `mag_cal_compute` is exact on the samples since the last
start, and atomic, if and only if it is refused or its samples can be calibrated. -/
theorem magCalCompute_exact_iff (calls : List MagCall) :
    CalibratesOrKeeps (Machine.run magStep .zero calls).1 (samplesSince calls) ↔
      Calibratable (Machine.run magStep .zero calls).1 (samplesSince calls) :=
  calibratesOrKeeps_iff_of_collects (collects_run calls)

/-- A calibration from 50 readings of each of two samples. -/
private def twoPointRun (a b : RawSample) : List MagCall :=
  [.init true none, .calStart] ++ List.replicate 50 (.read (.ok a)) ++
    List.replicate 50 (.read (.ok b))

private def sampleNear : RawSample where
  counts := ⟨-500, -500, 30⟩
  inRange axis := by cases axis <;> decide

private def sampleFlat : RawSample where
  counts := ⟨500, 700, 30⟩
  inRange axis := by cases axis <;> decide

private def sampleNarrow : RawSample where
  counts := ⟨500, 700, 130⟩
  inRange axis := by cases axis <;> decide

/-- With a flat z axis the call fails and has stored three offsets. With a range of 100
beside 1000 and 1200 it succeeds, and the z scale, 7.66 in Q1.15, is cut to 1.66. -/
theorem not_magCalCompute_exact_twoPoint :
    ¬CalibratesOrKeeps (Machine.run magStep .zero (twoPointRun sampleNear sampleFlat)).1
        (samplesSince (twoPointRun sampleNear sampleFlat)) ∧
      ¬CalibratesOrKeeps (Machine.run magStep .zero (twoPointRun sampleNear sampleNarrow)).1
        (samplesSince (twoPointRun sampleNear sampleNarrow)) := by
  constructor
  · intro h
    have hkept := h.1 (by decide +kernel)
    revert hkept
    decide +kernel
  · intro h
    have hscale := (h.2 (by decide +kernel)).scale .z
    revert hscale
    decide +kernel

end TempoBt
