-- SUMMARY: The aggregator service: session configuration, the output handlers, and the sentences they format.
import TempoBt.App.Errno
import TempoBt.App.LogFormat

/-!
# Aggregator

The state and the functions of `aggregator.c`. A function returns the lines it
hands to the output callback, in order; sensor readings and clock values are
arguments. Conversions of sensor values to other units are exact here.
-/

namespace TempoBt

open Printf Errno

/-! ## State -/

structure AggregatorConfig where
  imuOutputRate : UInt16
  envOutputRate : UInt16
  gnssOutputRate : UInt16
  magOutputRate : UInt16
  enableQuaternion : Bool
  enableMagnetometer : Bool
  sessionId : UInt32
  sessionStartUs : UInt64
  deriving DecidableEq

/-- The functions registered as output callback: `aggregator_output_to_file` and
`usb_tty_output_line`. -/
inductive OutputCallback where
  | toFile
  | usbTty
  deriving DecidableEq

structure BaroSample where
  pressurePa : CFloat
  altitudeM : CFloat

/-- The static data of `aggregator.c`. -/
structure Aggregator where
  config : AggregatorConfig
  outputCallback : Option OutputCallback
  running : Bool
  /-- `last_nmea_arrival_ms` -/
  lastNmeaArrivalMs : UInt32
  /-- `last_baro_sample`, once `have_baro_sample` is set. -/
  lastBaroSample : Option BaroSample
  /-- Whether `imu_output_work` is scheduled. -/
  imuOutputWork : Bool
  /-- Whether `env_output_work` is scheduled. -/
  envOutputWork : Bool

/-- The static data after `aggregator_init`. -/
def Aggregator.initial : Aggregator where
  config :=
    { imuOutputRate := 50, envOutputRate := 4, gnssOutputRate := 1, magOutputRate := 0
      enableQuaternion := true, enableMagnetometer := false, sessionId := 0, sessionStartUs := 0 }
  outputCallback := none
  running := false
  lastNmeaArrivalMs := 0
  lastBaroSample := none
  imuOutputWork := false
  envOutputWork := false

/-- The strings of the generated version header. -/
structure AppVersion where
  deviceType : Bytes
  versionString : Bytes
  gitCommit : Bytes
  numeric : Int

structure ImuSample where
  accelX : CFloat
  accelY : CFloat
  accelZ : CFloat
  gyroX : CFloat
  gyroY : CFloat
  gyroZ : CFloat

structure OrientationQuaternion where
  w : CFloat
  x : CFloat
  y : CFloat
  z : CFloat

/-- In gauss. -/
structure MagSample where
  magX : CFloat
  magY : CFloat
  magZ : CFloat

/-- What the sensor services answer to one run of the IMU handler; `none` for a
call that fails. -/
structure ImuReadings where
  now : UInt64
  orientationReady : Bool
  imu : Option ImuSample
  quat : Option OrientationQuaternion
  magReady : Bool
  mag : Option MagSample

/-! ## Control -/

/-- `log_get_timestamp_ms`, with the clock `now`. -/
def logGetTimestampMs (now sessionStartUs : UInt64) : UInt32 :=
  ((now - sessionStartUs) / 1000).toUInt32

def aggregatorConfigure (cfg : AggregatorConfig) (a : Aggregator) : Aggregator :=
  { a with config := cfg }

def aggregatorRegisterOutputCallback (callback : OutputCallback) (a : Aggregator) : Aggregator :=
  { a with outputCallback := some callback }

def aggregatorStart (now : UInt64) (a : Aggregator) : Aggregator × Int :=
  if a.running then (a, -ealready)
  else
    ({ a with
        config :=
          if a.config.sessionStartUs = 0 then { a.config with sessionStartUs := now } else a.config
        running := true
        imuOutputWork := true
        envOutputWork := true }, 0)

def aggregatorStop (a : Aggregator) : Aggregator × Int :=
  if !a.running then (a, -ealready)
  else ({ a with running := false, imuOutputWork := false, envOutputWork := false }, 0)

/-- `aggregator_set_gnss_rate`: any rate but 1 and 10 is refused. -/
def aggregatorSetGnssRate (rateHz : UInt16) (a : Aggregator) : Aggregator :=
  if rateHz ≠ 1 ∧ rateHz ≠ 10 then a
  else { a with config := { a.config with gnssOutputRate := rateHz } }

/-- `baro_data_callback` -/
def baroDataCallback (sample : BaroSample) (a : Aggregator) : Aggregator :=
  { a with lastBaroSample := some sample }

/-! ## Sentences -/

/-- Format a sentence into a line buffer, and hand it on if it fits. -/
def logLine (fmt : String) (args : List Arg) : List Bytes := (sentenceLine (format fmt args)).toList

/-- `version_string[64]` -/
def versionString (v : AppVersion) : Bytes :=
  (format "Tempo %s %s (%s)" [.str v.deviceType, .str v.versionString, .str v.gitCommit]).take 63

def aggregatorWriteVersion (v : AppVersion) (a : Aggregator) : List Bytes :=
  if a.outputCallback.isNone then []
  else logLine "$PVER,\"%s\",%d" [.str (versionString v), .int v.numeric]

/-- `aggregator_write_surface_altitude`, with `baro_get_ground_altitude_psfc`. -/
def aggregatorWriteSurfaceAltitude (groundAltFt : CFloat) (a : Aggregator) : List Bytes :=
  if a.outputCallback.isNone then []
  else logLine "$PSFC,%d" [.int groundAltFt.toInt]

def aggregatorWriteSessionHeader (v : AppVersion) (groundAltFt : CFloat) (a : Aggregator) :
    List Bytes :=
  aggregatorWriteVersion v a ++ aggregatorWriteSurfaceAltitude groundAltFt a

def aggregatorWriteStateChange (now : UInt64) (oldState newState trigger : Bytes)
    (a : Aggregator) : List Bytes :=
  if a.outputCallback.isNone then []
  else
    logLine "$PST,%u,%s,%s,%s"
      [.uint (logGetTimestampMs now a.config.sessionStartUs).toNat, .str oldState, .str newState,
        .str trigger]

/-- The sentence type of a GNSS sentence: the three characters after the talker. -/
def sentenceType (sentence : Bytes) : Bytes := (sentence.drop 3).take 3

/-- `nmea_passthrough_callback`, with the clock `now`. -/
def nmeaPassthroughCallback (now : UInt64) (sentence : Bytes) (a : Aggregator) :
    Aggregator × List Bytes :=
  if a.outputCallback.isNone then (a, [])
  else
    -- the clock when the sentence is called back, not when it began
    let a := { a with lastNmeaArrivalMs := logGetTimestampMs now a.config.sessionStartUs }
    if 6 < sentence.length then
      if sentenceType sentence = ascii "GGA" ∨ sentenceType sentence = ascii "GLL" then
        (a, sentence :: logLine "$PTH,%u" [.uint a.lastNmeaArrivalMs.toNat])
      else if sentenceType sentence = ascii "VTG" ∨ sentenceType sentence = ascii "RMC" ∨
          sentenceType sentence = ascii "TXT" then
        (a, [sentence])
      else (a, [])
    else (a, [])

def pimuLine (timestampMs : UInt32) (imu : ImuSample) : List Bytes :=
  logLine "$PIMU,%u,%.2f,%.2f,%.2f,%.4f,%.4f,%.4f"
    [.uint timestampMs.toNat, .float imu.accelX, .float imu.accelY, .float imu.accelZ,
      .float imu.gyroX, .float imu.gyroY, .float imu.gyroZ]

/-- Without a quaternion the identity is reported. -/
def pim2Line (timestampMs : UInt32) (quat : Option OrientationQuaternion) : List Bytes :=
  match quat with
  | some q =>
    logLine "$PIM2,%u,%.4f,%.4f,%.4f,%.4f"
      [.uint timestampMs.toNat, .float q.w, .float q.x, .float q.y, .float q.z]
  | none => logLine "$PIM2,%u,1.0000,0.0000,0.0000,0.0000" [.uint timestampMs.toNat]

/-- In microtesla. -/
def pmagLine (timestampMs : UInt32) (mag : MagSample) : List Bytes :=
  logLine "$PMAG,%u,%.2f,%.2f,%.2f"
    [.uint timestampMs.toNat, .float (mag.magX.scale 100), .float (mag.magY.scale 100),
      .float (mag.magZ.scale 100)]

/-- `imu_output_handler` -/
def imuOutputHandler (r : ImuReadings) (a : Aggregator) : Aggregator × List Bytes :=
  ({ a with imuOutputWork := a.running },
    if !a.running || a.outputCallback.isNone || !r.orientationReady then []
    else
      let timestampMs := logGetTimestampMs r.now a.config.sessionStartUs
      (r.imu.elim [] (pimuLine timestampMs)) ++
        (if a.config.enableQuaternion then pim2Line timestampMs r.quat else []) ++
        (if a.config.enableMagnetometer && r.magReady then r.mag.elim [] (pmagLine timestampMs)
          else []))

/-- In hectopascal and feet; there is no battery monitoring. -/
def penvLine (timestampMs : UInt32) (sample : BaroSample) : List Bytes :=
  logLine "$PENV,%u,%.2f,%.2f,%.2f"
    [.uint timestampMs.toNat, .float (sample.pressurePa.scale (1 / 100)),
      .float (sample.altitudeM.scale (328084 / 100000)), .float (.num (-1))]

/-- `env_output_handler` -/
def envOutputHandler (now : UInt64) (a : Aggregator) : Aggregator × List Bytes :=
  ({ a with envOutputWork := a.running },
    if !a.running || a.outputCallback.isNone then []
    else a.lastBaroSample.elim [] (penvLine (logGetTimestampMs now a.config.sessionStartUs)))

end TempoBt
