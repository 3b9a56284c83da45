-- SUMMARY: What the logger uses of the sensor services: the ground-altitude history and the acceleration filter.
import Mathlib.Data.Rat.Floor

/-!
# Sensor services

The ground-altitude tracker of the barometer service and the acceleration filter
of the IMU service. Altitudes and accelerations are exact numbers.
-/

namespace TempoBt

/-! ## Ground altitude -/

/-- `GROUND_ALTITUDE_SAMPLES` -/
abbrev groundAltitudeSamples : Nat := 4

/-- `ground_altitude_tracker` -/
structure GroundAltitudeTracker where
  altitudeFt : Fin groundAltitudeSamples → ℚ
  nextIndex : Fin groundAltitudeSamples
  initialized : Bool

def GroundAltitudeTracker.initial : GroundAltitudeTracker where
  altitudeFt := fun _ => 0
  nextIndex := 0
  initialized := false

/-- `sample->altitude_m * 3.28084f` -/
def metresToFeet (altitudeM : ℚ) : ℚ := altitudeM * (328084 / 100000)

/-- `baro_init_ground_altitude` -/
def baroInitGroundAltitude (altitudeFt : ℚ) : GroundAltitudeTracker where
  altitudeFt := fun _ => altitudeFt
  nextIndex := 0
  initialized := true

/-- `baro_record_ground_altitude`; the index wraps around. -/
def baroRecordGroundAltitude (altitudeFt : ℚ) (g : GroundAltitudeTracker) :
    GroundAltitudeTracker :=
  if !g.initialized then baroInitGroundAltitude altitudeFt
  else
    { g with
      altitudeFt := fun i => if i = g.nextIndex then altitudeFt else g.altitudeFt i
      nextIndex := g.nextIndex + 1 }

/-- `baro_get_ground_altitude_psfc`: three samples back, around the ring. -/
def baroGetGroundAltitudePsfc (g : GroundAltitudeTracker) : ℚ :=
  if !g.initialized then 0 else g.altitudeFt (g.nextIndex - 3)

/-! ## Acceleration filter -/

/-- `accel_filter_state` -/
structure AccelFilter where
  filteredMagnitudeG : ℚ
  enabled : Bool
  initialized : Bool

def AccelFilter.initial : AccelFilter := ⟨0, false, false⟩

def imuEnableAccelFilter : AccelFilter := ⟨0, true, false⟩

def imuDisableAccelFilter (f : AccelFilter) : AccelFilter :=
  { f with enabled := false, initialized := false }

/-- The filter's part of `imu_fifo_read`, for a sample of the given magnitude. -/
def accelFilterUpdate (magnitudeG : ℚ) (f : AccelFilter) : AccelFilter :=
  if !f.enabled then f
  else if !f.initialized then { f with filteredMagnitudeG := magnitudeG, initialized := true }
  else
    { f with
      filteredMagnitudeG := 15 / 100 * magnitudeG + (1 - 15 / 100) * f.filteredMagnitudeG }

/-- `imu_get_filtered_acceleration`; `none` for `-EAGAIN`. -/
def imuGetFilteredAcceleration (f : AccelFilter) : Option ℚ :=
  if !f.enabled || !f.initialized then none else some f.filteredMagnitudeG

@[simp] theorem accelFilterUpdate_enabled (magnitudeG : ℚ) (f : AccelFilter) :
    (accelFilterUpdate magnitudeG f).enabled = f.enabled := by
  unfold accelFilterUpdate
  split
  · rfl
  · split <;> rfl

end TempoBt
