-- SUMMARY: The logger service: session start, jump, stop, arming, the executive and the barometer handler, with their effect on the session flags.
import TempoBt.Lib.CString
import TempoBt.Services.BrokenDownTime
import TempoBt.Services.Device
import Mathlib.Algebra.Order.Field.Rat

/-!
# Logger

The functions of `logger.c`. A function with a critical section on the logger's
mutex is split there: `loggerStartLocked` is what `logger_start` does under the
lock, and the rest follows after the lock is released. What the clock, the
storage and the sensors answer in a call is an argument of the call.
-/

namespace TempoBt

open Errno

/-! ## Initialisation -/

/-- The configuration that `main` passes; magnetometer mode is a setting. -/
def loggerCfg (enableMagnetometer : Bool) : LoggerConfig where
  basePath := ascii "/logs"
  useDateFolders := true
  useUuidNames := true
  imuRateHz := 50
  envRateHz := 4
  gnssRateHz := 1
  enableQuaternion := true
  enableMagnetometer
  autoStartOnTakeoff := true

/-- `logger_init`, with the two readings of the barometer. -/
def loggerInit (config : LoggerConfig) (usbEnabled : Bool) (version : AppVersion)
    (first second : Option ℚ) : Device :=
  let d := Device.initial config usbEnabled version
  match first with
  | some m =>
    { d with groundAltitude := baroInitGroundAltitude (metresToFeet m) }.startGroundAltitudeSampling
      second
  | none => d

/-! ## Starting a session -/

/-- What one start is answered: the clocks, the random session id, and the medium. -/
structure StartEnv where
  rand : UInt32
  now : UInt64
  /-- The seconds of `CLOCK_REALTIME`, when it can be read. -/
  realtime : Option Nat
  file : OpenEnv
  close : CloseEnv
  /-- The clock in `aggregator_start`. -/
  aggregatorNow : UInt64
  /-- The clock when the state change is written. -/
  stateChangeNow : UInt64

/-- `%08X` -/
def hex8 (id : UInt32) : Bytes :=
  [(24 : UInt32), 16, 8, 0].flatMap fun shift => Bytes.hex2 (id >>> shift).toUInt8

/-- `create_session_directory`: only the paths are made. Without `CLOCK_REALTIME` they are of
the uptime. -/
def createSessionDirectory (e : StartEnv) (d : Device) : Device × Int :=
  let now := e.realtime.getD (d.logger.sessionStartUs.toNat / 1000000)
  let path :=
    d.logger.config.basePath ++
      (if d.logger.config.useDateFolders then ascii "/" ++ dateFolder now else []) ++
      ascii "/" ++
      (if d.logger.config.useUuidNames then hex8 d.logger.sessionId else timeFolder now)
  ({ d with
      logger :=
        { d.logger with
          sessionPath := path, logFilePath := (path ++ ascii "/flight.txt").take 255 } }, 0)

/-- The aggregator configuration of the session that is being started. -/
def Logger.aggregatorConfig (s : Logger) : AggregatorConfig where
  imuOutputRate := s.config.imuRateHz
  envOutputRate := s.config.envRateHz
  gnssOutputRate := s.config.gnssRateHz
  magOutputRate := if s.config.enableMagnetometer then 10 else 0
  enableQuaternion := s.config.enableQuaternion
  enableMagnetometer := s.config.enableMagnetometer
  sessionId := s.sessionId
  sessionStartUs := s.sessionStartUs

/-- The id and the start time of a new session. -/
def Device.newSession (rand : UInt32) (now : UInt64) (d : Device) : Device :=
  { d with logger := { d.logger with sessionId := rand, sessionStartUs := now } }

def Device.openFile (e : OpenEnv) (d : Device) : Device × Int :=
  ({ d with fileWriter := (fileWriterOpen e d.fileWriter).1 }, (fileWriterOpen e d.fileWriter).2)

def Device.openTty (dtr : Option Bool) (d : Device) : Device × Int :=
  ({ d with usbTty := (usbTtyOpen dtr d.usbTty).1 }, (usbTtyOpen dtr d.usbTty).2)

/-- What both kinds of start do with the aggregator before it is started: configure
it, register the output callback and write the header. -/
def Device.configureSession (callback : OutputCallback) (d : Device) : Device :=
  { d with
    aggregator :=
      aggregatorRegisterOutputCallback callback
        (aggregatorConfigure d.logger.aggregatorConfig d.aggregator) }
    |>.stopGroundAltitudeSampling
    |>.writeSessionHeader

/-- `aggregator_start` -/
def Device.startAggregator (now : UInt64) (d : Device) : Device × Int :=
  ({ d with aggregator := (aggregatorStart now d.aggregator).1 },
    (aggregatorStart now d.aggregator).2)

/-- `logger_start` under the lock. -/
def loggerStartLocked (e : StartEnv) (d : Device) : Device × Int :=
  if !d.logger.state.canStart then (d, -einval)
  else
    -- the id and the paths stay those of the attempt when a later step fails
    let dir := createSessionDirectory e (d.newSession e.rand e.now)
    if dir.2 ≠ 0 then dir
    else
      let file := dir.1.openFile e.file
      if file.2 ≠ 0 then file
      else
        -- the callback stays registered when the aggregator does not start
        let started := (file.1.configureSession .toFile).startAggregator e.aggregatorNow
        if started.2 ≠ 0 then (started.1.closeFile e.close, started.2)
        else (started.1.setState .logging, 0)

/-- `logger_start` -/
def loggerStart (reason : Bytes) (e : StartEnv) (d : Device) : Device × Int :=
  let r := loggerStartLocked e d
  if r.2 ≠ 0 then r
  else
    (r.1.writeStateChange e.stateChangeNow d.logger.state .logging reason
      |>.publishSessionStart
      |>.gnssSetRate 1
      |>.executiveResetCounters
      |>.enableAccelFilter
      -- a caller over BLE restarts the radio and stops it deferred
      |>.bleMcumgrStop, 0)

/-- What one start over USB is answered; the DTR line is read twice. -/
structure UsbStartEnv where
  rand : UInt32
  now : UInt64
  dtrConnected : Option Bool
  dtrOpen : Option Bool
  aggregatorNow : UInt64
  stateChangeNow : UInt64

/-- `logger_start_usb` under the lock. -/
def loggerStartUsbLocked (e : UsbStartEnv) (d : Device) : Device × Int :=
  if !d.logger.state.canStart then (d, -einval)
  else if !usbTtyIsConnected e.dtrConnected d.usbTty then (d, -enotconn)
  else
    let tty := ((d.newSession e.rand e.now).setUsbMode true).openTty e.dtrOpen
    if tty.2 ≠ 0 then (tty.1.setUsbMode false, tty.2)
    else
      let started :=
        (tty.1.registerDisconnectCallback (some .usbDisconnectHandler)
          |>.configureSession .usbTty).startAggregator e.aggregatorNow
      if started.2 ≠ 0 then (started.1.closeTty.setUsbMode false, started.2)
      else (started.1.setState .logging, 0)

/-- `logger_start_usb` -/
def loggerStartUsb (e : UsbStartEnv) (d : Device) : Device × Int :=
  let r := loggerStartUsbLocked e d
  if r.2 ≠ 0 then r
  else
    (r.1.writeStateChange e.stateChangeNow d.logger.state .logging (ascii "usb_start")
      |>.gnssSetRate 1, 0)

/-! ## Jump, stop, arm and disarm -/

/-- `logger_jumped` under the lock. -/
def loggerJumpedLocked (d : Device) : Device × Int :=
  if d.logger.state ≠ .logging then (d, -einval) else (d.setState .jumped, 0)

/-- `logger_jumped`, with the clock `now`. -/
def loggerJumped (now : UInt64) (d : Device) : Device × Int :=
  let r := loggerJumpedLocked d
  if r.2 ≠ 0 then r
  else
    (r.1.executiveResetCounters
      |>.gnssSetRate 10
      |>.writeStateChange now d.logger.state .jumped (ascii "freefall_detected")
      |>.publish (.stateChange d.logger.state .jumped), 0)

/-- What one stop is answered. -/
structure StopEnv where
  now : UInt64
  close : CloseEnv
  groundSample : Option ℚ

/-- The states from which `logger_stop` stops. -/
def LoggerState.canStop : LoggerState → Bool
  | .logging | .jumped | .postflight => true
  | _ => false

/-- `logger_stop` under the lock. -/
def loggerStopLocked (d : Device) : Device × Int :=
  if !d.logger.state.canStop then (d, -einval) else (d.setState .idle, 0)

/-- What `logger_stop` does with the session's output: with USB the terminal, else
the file is closed. -/
def Device.closeOutput (e : CloseEnv) (d : Device) : Device :=
  if d.logger.usbMode then d.closeTty.registerDisconnectCallback none |>.setUsbMode false
  else d.closeFile e

/-- `if (logger_state.state == LOGGER_STATE_IDLE) start_ground_altitude_sampling()` -/
def Device.sampleIfIdle (sample : Option ℚ) (d : Device) : Device :=
  if d.logger.state = .idle then d.startGroundAltitudeSampling sample else d

/-- `logger_stop` -/
def loggerStop (e : StopEnv) (d : Device) : Device × Int :=
  let r := loggerStopLocked d
  if r.2 ≠ 0 then r
  else
    (r.1.disableAccelFilter
      |>.writeStateChange e.now d.logger.state .idle (ascii "manual_stop")
      |>.stopAggregator
      |>.closeOutput e.close
      |>.publishSessionStop
      |>.sampleIfIdle e.groundSample
      |>.bleMcumgrRestart, 0)

/-- `usb_disconnect_handler` -/
def usbDisconnectHandler (e : StopEnv) (d : Device) : Device := (loggerStop e d).1

/-- The two barometer readings of one arming. -/
structure ArmEnv where
  initSample : Option ℚ
  groundSample : Option ℚ

/-- `logger_arm` under the lock. No state is refused. -/
def loggerArmLocked (e : ArmEnv) (d : Device) : Device :=
  let d :=
    -- every arming forgets the earlier ground samples
    { d with
      groundAltitude := e.initSample.elim d.groundAltitude
        fun m => baroInitGroundAltitude (metresToFeet m) }
  d.startGroundAltitudeSampling e.groundSample |>.setState .armed

/-- `logger_arm`; it always returns 0. -/
def loggerArm (e : ArmEnv) (d : Device) : Device :=
  (loggerArmLocked e d).publish (.stateChange d.logger.state .armed)

/-- `logger_disarm` under the lock. -/
def loggerDisarmLocked (d : Device) : Device × Int :=
  if d.logger.state ≠ .armed then (d, -einval) else (d.setState .idle, 0)

/-- `logger_disarm` -/
def loggerDisarm (groundSample : Option ℚ) (d : Device) : Device × Int :=
  let r := loggerDisarmLocked d
  if r.2 ≠ 0 then r
  else
    (r.1.startGroundAltitudeSampling groundSample
      |>.publish (.stateChange d.logger.state .idle), 0)

/-- `logger_get_session_info`: the id, the start time, and what a buffer of `pathSize`
bytes keeps of the path. -/
def loggerGetSessionInfo (pathSize : Nat) (d : Device) : Except Int (UInt32 × UInt64 × Bytes) :=
  if d.logger.state ≠ .logging ∧ d.logger.state ≠ .postflight then .error (-einval)
  else
    .ok (d.logger.sessionId, d.logger.sessionStartUs,
      CString.copied pathSize d.logger.sessionPath)

/-! ## The executive -/

/-- What a tick of the executive decides to do. -/
inductive ExecutiveAction where
  | none
  | start
  | jumped
  /-- Stop, sleep, and arm again: an abort or a landing. -/
  | rearm
  deriving DecidableEq

/-- `EXEC_TAKEOFF_CLIMB_RATE_MPS` -/
def execTakeoffClimbRateMps : ℚ := 1016 / 1000
/-- `EXEC_FREEFALL_DESCENT_RATE_MPS` -/
def execFreefallDescentRateMps : ℚ := -(508 / 100)
/-- `EXEC_LOW_ACTIVITY_RATE_MPS` -/
def execLowActivityRateMps : ℚ := 1016 / 1000
/-- `EXEC_JUMPED_TIMEOUT_S` -/
def execJumpedTimeoutS : UInt32 := 60
/-- `EXEC_LOGGING_ABORT_TIMEOUT_S` -/
def execLoggingAbortTimeoutS : UInt32 := 360
/-- `EXEC_FREEFALL_ACCEL_THRESHOLD_G` -/
def execFreefallAccelThresholdG : ℚ := 6 / 10
/-- `EXEC_FREEFALL_ACCEL_CONFIRM` -/
def execFreefallAccelConfirm : UInt8 := 2
/-- `EXEC_TICKS_PER_SECOND` -/
def execTicksPerSecond : Nat := 4

/-- `executive_handle_armed_state` up to its call -/
def executiveHandleArmedState (climbRate : ℚ) (x : Executive) : Executive × ExecutiveAction :=
  if execTakeoffClimbRateMps < climbRate then
    let x := { x with takeoffConfirmCount := x.takeoffConfirmCount + 1 }
    (x, if 3 * execTicksPerSecond ≤ x.takeoffConfirmCount.toNat then .start else .none)
  else ({ x with takeoffConfirmCount := 0 }, .none)

/-- The low-activity timeout that both active states share. -/
def lowActivityTimeout (climbRate : ℚ) (timeoutS : UInt32) (x : Executive) :
    Executive × ExecutiveAction :=
  if |climbRate| < execLowActivityRateMps then
    let x := { x with lowActivityCounter := x.lowActivityCounter + 1 }
    (x, if timeoutS.toNat * execTicksPerSecond ≤ x.lowActivityCounter.toNat then .rearm else .none)
  else ({ x with lowActivityCounter := 0 }, .none)

/-- `executive_handle_logging_state` up to its calls; `accel` is the filtered
acceleration, if valid. -/
def executiveHandleLoggingState (climbRate : ℚ) (accel : Option ℚ) (x : Executive) :
    Executive × ExecutiveAction :=
  let freefall : Bool := climbRate < execFreefallDescentRateMps
  let x :=
    { x with
      freefallConfirmCount := if freefall then x.freefallConfirmCount + 1 else 0 }
  if freefall ∧ 2 * execTicksPerSecond ≤ x.freefallConfirmCount.toNat then (x, .jumped)
  else
    let lowAccel : Bool := accel.any (· < execFreefallAccelThresholdG)
    let x :=
      { x with
        lowAccelConfirmCount := if lowAccel then x.lowAccelConfirmCount + 1 else 0 }
    if lowAccel ∧ execFreefallAccelConfirm ≤ x.lowAccelConfirmCount then (x, .jumped)
    else lowActivityTimeout climbRate execLoggingAbortTimeoutS x

/-- `executive_handle_jumped_state` up to its calls -/
def executiveHandleJumpedState (climbRate : ℚ) (x : Executive) : Executive × ExecutiveAction :=
  lowActivityTimeout climbRate execJumpedTimeoutS x

/-- The tick of `logger_executive` in the state it has read. -/
def Device.executiveTick (currentState : LoggerState) (d : Device) : Device × ExecutiveAction :=
  if !d.executive.filterInitialized then (d, .none)
  else
    let climbRate := d.executive.climbRateEstMps
    match currentState with
    | .armed =>
      let r := executiveHandleArmedState climbRate d.executive
      ({ d with executive := r.1 }, r.2)
    | .logging =>
      let r := executiveHandleLoggingState climbRate (imuGetFilteredAcceleration d.accelFilter)
        d.executive
      ({ d with executive := r.1 }, r.2)
    | .jumped =>
      let r := executiveHandleJumpedState climbRate d.executive
      ({ d with executive := r.1 }, r.2)
    -- the counters count only while they are looked at
    | .idle | .postflight | .error => (d.executiveResetCounters, .none)

/-- What the calls of one tick are answered. -/
structure ExecutiveEnv where
  start : StartEnv
  jumpedNow : UInt64
  stop : StopEnv
  arm : ArmEnv

/-- The calls of a tick. -/
def executiveAct (e : ExecutiveEnv) (d : Device) : ExecutiveAction → Device
  | .none => d
  | .start => (loggerStart (ascii "takeoff_detected") e.start d).1
  | .jumped => (loggerJumped e.jumpedNow d).1
  | .rearm =>
    (loggerArm e.arm (loggerStop e.stop d).1).gnssSetRate 1 |>.executiveResetCounters

/-- `logger_executive` -/
def loggerExecutive (e : ExecutiveEnv) (d : Device) : Device :=
  if d.logger.usbMode then d
  else
    let tick := d.executiveTick d.logger.state
    executiveAct e tick.1 tick.2

/-! ## The barometer handler -/

/-- The fields of a `baro_sample_t` that the logger reads. -/
structure BaroReading where
  timestampUs : UInt64
  altitudeM : ℚ
  pressureValid : Bool

def median3 (a b c : ℚ) : ℚ :=
  if b < a then (if c < b then b else if c < a then c else a)
  else if c < a then a
  else if c < b then c
  else b

/-- `ALPHA_BETA_ALPHA` -/
def alphaBetaAlpha : ℚ := 15 / 100
/-- `ALPHA_BETA_BETA` -/
def alphaBetaBeta : ℚ := 5 / 1000
/-- `TAKEOFF_CLIMB_RATE_MPS` -/
def takeoffClimbRateMps : ℚ := 2
/-- `TAKEOFF_MIN_ALTITUDE_M` -/
def takeoffMinAltitudeM : ℚ := 100
/-- `TAKEOFF_DETECT_DURATION_S` -/
def takeoffDetectDurationS : Int := 5

/-- The median pre-filter: the altitude enters the buffer; the filtered altitude. -/
def medianFilter (altitudeM : ℚ) (x : Executive) : Executive × ℚ :=
  let x := x.pushAltitude altitudeM
  let (a, b, c) := x.medianSamples
  (x, if 3 ≤ x.medianCount then median3 a b c else altitudeM)

/-- The alpha-beta filter, once initialised. -/
def alphaBetaUpdate (filteredAltitudeM dt : ℚ) (x : Executive) : Executive :=
  let altitudePred := x.altitudeEstM + x.climbRateEstMps * dt
  let residual := filteredAltitudeM - altitudePred
  { x with
    altitudeEstM := altitudePred + alphaBetaAlpha * residual
    climbRateEstMps := x.climbRateEstMps + alphaBetaBeta / dt * residual }

/-- The time step to the sample in seconds, 0 without an earlier sample. -/
def sampleDt (s : BaroReading) (lastSampleTimeUs : UInt64) : ℚ :=
  if 0 < lastSampleTimeUs ∧ lastSampleTimeUs < s.timestampUs then
    ((s.timestampUs - lastSampleTimeUs).toNat : ℚ) / 1000000
  else 0

/-- The takeoff detection of `logger_baro_handler`; whether it calls `logger_start`. -/
def takeoffDetection (climbRate agl : ℚ) (d : Device) : Device × Bool :=
  if d.logger.state = .armed ∧ d.logger.config.autoStartOnTakeoff then
    if takeoffClimbRateMps < climbRate ∧ takeoffMinAltitudeM < agl then
      let samples := d.baroHandler.climbSamples + 1
      ({ d with baroHandler := { d.baroHandler with climbSamples := samples } },
        decide (takeoffDetectDurationS * d.logger.config.envRateHz.toNat < samples))
    else ({ d with baroHandler := { d.baroHandler with climbSamples := 0 } }, false)
  else (d, false)

/-- `logger_baro_handler` up to its call of `logger_start`; whether it makes it. -/
def baroHandlerUpdate (s : BaroReading) (d : Device) : Device × Bool :=
  if !s.pressureValid then (d, false)
  else
    let setsGround := d.logger.state = .armed ∧ !d.baroHandler.groundLevelSet
    let dt := sampleDt s d.baroHandler.lastSampleTimeUs
    let d :=
      { d with
        baroHandler :=
          { d.baroHandler with
            groundAltitudeM := if setsGround then s.altitudeM else d.baroHandler.groundAltitudeM
            groundLevelSet := d.baroHandler.groundLevelSet || decide setsGround
            lastSampleTimeUs := s.timestampUs } }
    -- also the first sample, whose time step is 0
    if dt < 1 / 1000 ∨ 10 < dt then (d, false)
    else
      let median := medianFilter s.altitudeM d.executive
      if !median.1.filterInitialized then
        ({ d with
            executive :=
              { median.1 with
                altitudeEstM := median.2, climbRateEstMps := 0, filterInitialized := true } },
          false)
      else
        let executive := alphaBetaUpdate median.2 dt median.1
        takeoffDetection executive.climbRateEstMps (median.2 - d.baroHandler.groundAltitudeM)
          { d with executive }

/-- `logger_baro_handler` -/
def loggerBaroHandler (s : BaroReading) (e : StartEnv) (d : Device) : Device :=
  let r := baroHandlerUpdate s d
  if r.2 then (loggerStart (ascii "takeoff_detected") e r.1).1 else r.1

/-! ## A world in which every call succeeds -/

def CloseEnv.working : CloseEnv := { write := .all, close := 0 }

def StartEnv.working : StartEnv where
  rand := 7
  now := 5000000
  realtime := some 1735732800
  file := { close := .working, file := .opened [] }
  close := .working
  aggregatorNow := 5000000
  stateChangeNow := 5000000

def UsbStartEnv.working : UsbStartEnv where
  rand := 7
  now := 5000000
  dtrConnected := some true
  dtrOpen := some true
  aggregatorNow := 5000000
  stateChangeNow := 5000000

def StopEnv.working : StopEnv := { now := 6000000, close := .working, groundSample := none }

def ArmEnv.working : ArmEnv := { initSample := none, groundSample := none }

/-! ## What the functions do to the flags of the session -/

section Specs

variable (d : Device)

theorem loggerInit_flags (config : LoggerConfig) (usbEnabled : Bool) (version : AppVersion)
    (first second : Option ℚ) :
    (loggerInit config usbEnabled version first second).flags =
      (Device.initial config usbEnabled version).flags := by
  unfold loggerInit
  cases first with
  | none => rfl
  | some m =>
    simp only [Device.startGroundAltitudeSampling_flags]
    rfl

/-- A start over USB is refused, fails with the terminal closed, or goes through. -/
theorem loggerStartUsb_outcomes (e : UsbStartEnv) :
    let tty := ((d.newSession e.rand e.now).setUsbMode true).openTty e.dtrOpen
    let started :=
      (tty.1.registerDisconnectCallback (some .usbDisconnectHandler)
        |>.configureSession .usbTty).startAggregator e.aggregatorNow
    (d.logger.state.canStart = false ∧ loggerStartUsb e d = (d, -einval)) ∨
      d.logger.state.canStart = true ∧
        (loggerStartUsb e d = (d, -enotconn) ∨
          (tty.2 ≠ 0 ∧ loggerStartUsb e d = (tty.1.setUsbMode false, tty.2)) ∨
          (started.2 ≠ 0 ∧ loggerStartUsb e d = (started.1.closeTty.setUsbMode false, started.2)) ∨
          loggerStartUsb e d =
            (started.1.setState .logging
              |>.writeStateChange e.stateChangeNow d.logger.state .logging (ascii "usb_start")
              |>.gnssSetRate 1, 0)) := by
  intro tty started
  unfold loggerStartUsb loggerStartUsbLocked
  cases hcan : d.logger.state.canStart with
  | false => exact .inl ⟨rfl, by simp [einval]⟩
  | true =>
    refine .inr ⟨rfl, ?_⟩
    cases usbTtyIsConnected e.dtrConnected d.usbTty with
    | false => exact .inl (by simp [enotconn])
    | true =>
      right
      by_cases htty : tty.2 ≠ 0
      · left
        simp only [Bool.not_true, Bool.false_eq_true, if_false]
        rw [if_pos htty, if_pos htty]
        exact ⟨htty, rfl⟩
      · right
        simp only [Bool.not_true, Bool.false_eq_true, if_false]
        rw [if_neg htty]
        by_cases hstarted : started.2 ≠ 0
        · rw [if_pos hstarted, if_pos hstarted]
          exact .inl ⟨hstarted, rfl⟩
        · rw [if_neg hstarted, if_neg (not_not.mpr rfl)]
          exact .inr rfl

/-- A jump is refused outside of logging. -/
theorem loggerJumped_eq (now : UInt64) :
    loggerJumped now d =
      if d.logger.state = .logging then
        (d.setState .jumped
          |>.executiveResetCounters
          |>.gnssSetRate 10
          |>.writeStateChange now .logging .jumped (ascii "freefall_detected")
          |>.publish (.stateChange .logging .jumped), 0)
      else (d, -einval) := by
  unfold loggerJumped loggerJumpedLocked
  by_cases hstate : d.logger.state = .logging
  · simp [hstate]
  · simp [hstate, einval]

/-- A stop is refused where there is nothing to stop. -/
theorem loggerStop_eq (e : StopEnv) :
    loggerStop e d =
      if d.logger.state.canStop then
        (d.setState .idle
          |>.disableAccelFilter
          |>.writeStateChange e.now d.logger.state .idle (ascii "manual_stop")
          |>.stopAggregator
          |>.closeOutput e.close
          |>.publishSessionStop
          |>.sampleIfIdle e.groundSample
          |>.bleMcumgrRestart, 0)
      else (d, -einval) := by
  unfold loggerStop loggerStopLocked
  cases hstop : d.logger.state.canStop with
  | true => simp
  | false => simp [einval]

/-- A disarming is refused where the logger is not armed. -/
theorem loggerDisarm_eq (groundSample : Option ℚ) :
    loggerDisarm groundSample d =
      if d.logger.state = .armed then
        (d.setState .idle
          |>.startGroundAltitudeSampling groundSample
          |>.publish (.stateChange .armed .idle), 0)
      else (d, -einval) := by
  unfold loggerDisarm loggerDisarmLocked
  by_cases hstate : d.logger.state = .armed
  · simp [hstate]
  · simp [hstate, einval]

@[simp] theorem newSession_flags (rand : UInt32) (now : UInt64) :
    (d.newSession rand now).flags = d.flags := rfl

@[simp] theorem createSessionDirectory_flags (e : StartEnv) :
    (createSessionDirectory e d).1.flags = d.flags := rfl

@[simp] theorem configureSession_flags (callback : OutputCallback) :
    (d.configureSession callback).flags = { d.flags with callback := some callback } := by
  simp only [Device.configureSession, Device.writeSessionHeader_flags]
  rfl

theorem openFile_ret (e : OpenEnv) :
    (d.openFile e).2 = (storageOpen e.file).2 := by
  simp only [Device.openFile, fileWriterOpen]
  split
  · rfl
  · rename_i h
    exact (not_not.mp h).symm

theorem openTty_ret (dtr : Option Bool) :
    (d.openTty dtr).2 = 0 ↔ usbTtyIsConnected dtr d.usbTty = true :=
  usbTtyOpen_ret dtr d.usbTty

theorem openFile_cases (e : OpenEnv) :
    ((d.openFile e).2 ≠ 0 ∧ (d.openFile e).1.flags = { d.flags with fileOpen := false }) ∨
    ((d.openFile e).2 = 0 ∧ (d.openFile e).1.flags = { d.flags with fileOpen := true }) := by
  simp only [Device.openFile, Device.flags]
  by_cases h : (fileWriterOpen e d.fileWriter).2 = 0
  · rw [fileWriterOpen_fileOpen h]
    exact .inr ⟨h, rfl⟩
  · rw [fileWriterOpen_error h]
    exact .inl ⟨h, rfl⟩

theorem openTty_cases (dtr : Option Bool) :
    ((d.openTty dtr).2 ≠ 0 ∧ (d.openTty dtr).1 = d) ∨
    ((d.openTty dtr).2 = 0 ∧ (d.openTty dtr).1.flags = { d.flags with ttyOpen := true }) := by
  rcases usbTtyOpen_cases dtr d.usbTty with ⟨hret, htty⟩ | ⟨hret, htty⟩
  · exact .inl ⟨hret, by simp only [Device.openTty, htty]⟩
  · exact .inr ⟨hret, by simp only [Device.openTty, Device.flags, htty]⟩

/-- The aggregator starts exactly when it is not running. -/
theorem startAggregator_cases (now : UInt64) :
    (d.flags.running = true ∧ (d.startAggregator now).2 ≠ 0 ∧
      (d.startAggregator now).1.flags = d.flags) ∨
    (d.flags.running = false ∧ (d.startAggregator now).2 = 0 ∧
      (d.startAggregator now).1.flags = { d.flags with running := true }) := by
  unfold Device.startAggregator aggregatorStart
  split
  · rename_i h
    exact .inl ⟨h, by simp [ealready], rfl⟩
  · rename_i h
    exact .inr ⟨by simpa [Device.flags] using h, rfl, rfl⟩

/-- A start is refused in the wrong state, fails with the file closed, or makes an
SD session. -/
theorem loggerStartLocked_cases (e : StartEnv) :
    (d.flags.state.canStart = false ∧ (loggerStartLocked e d).2 ≠ 0 ∧
      (loggerStartLocked e d).1 = d) ∨
    (d.flags.state.canStart = true ∧ (loggerStartLocked e d).2 ≠ 0 ∧
      ∃ callback, (loggerStartLocked e d).1.flags =
        { d.flags with fileOpen := false, callback }) ∨
    (d.flags.state.canStart = true ∧ d.flags.running = false ∧ (loggerStartLocked e d).2 = 0 ∧
      (loggerStartLocked e d).1.flags =
        { d.flags with
          state := .logging, running := true, callback := some .toFile, fileOpen := true }) := by
  unfold loggerStartLocked
  split
  · rename_i h
    exact .inl ⟨by simpa [Device.flags] using h, by simp [einval], rfl⟩
  · rename_i hstate
    have hcan : d.flags.state.canStart = true := by simpa [Device.flags] using hstate
    right
    simp only
    -- making the paths never fails, and touches no flag
    rw [if_neg (by simp [createSessionDirectory])]
    have hdir : (createSessionDirectory e (d.newSession e.rand e.now)).1.flags = d.flags := by simp
    generalize (createSessionDirectory e (d.newSession e.rand e.now)).1 = dir at hdir ⊢
    rcases openFile_cases dir e.file with ⟨hret, hopen⟩ | ⟨hret, hopen⟩
    · left
      rw [if_pos hret]
      exact ⟨hcan, hret, d.flags.callback, by rw [hopen, hdir]⟩
    · rw [if_neg (by simpa using hret)]
      have hconf : ((dir.openFile e.file).1.configureSession .toFile).flags =
          { d.flags with callback := some .toFile, fileOpen := true } := by
        rw [configureSession_flags, hopen, hdir]
      rcases startAggregator_cases ((dir.openFile e.file).1.configureSession .toFile)
        e.aggregatorNow with ⟨-, hret, hstarted⟩ | ⟨hrun, hret, hstarted⟩
      · left
        rw [if_pos hret]
        exact ⟨hcan, hret, some .toFile, by rw [Device.closeFile_flags, hstarted, hconf]⟩
      · right
        rw [if_neg (by simpa using hret)]
        refine ⟨hcan, by simpa [hconf] using hrun, rfl, ?_⟩
        rw [Device.setState_flags, hstarted, hconf]

/-- A start over USB that fails leaves at most a trace in the callback and the
terminal; one that succeeds makes a USB session. -/
theorem loggerStartUsbLocked_cases (e : UsbStartEnv) :
    ((loggerStartUsbLocked e d).2 ≠ 0 ∧ (loggerStartUsbLocked e d).1 = d) ∨
    (d.flags.state.canStart = true ∧ (loggerStartUsbLocked e d).2 ≠ 0 ∧
      ∃ callback ttyOpen, (loggerStartUsbLocked e d).1.flags =
        { d.flags with usbMode := false, callback, ttyOpen }) ∨
    (d.flags.state.canStart = true ∧ d.flags.running = false ∧ (loggerStartUsbLocked e d).2 = 0 ∧
      (loggerStartUsbLocked e d).1.flags =
        { d.flags with
          state := .logging, usbMode := true, running := true, callback := some .usbTty
          ttyOpen := true }) := by
  unfold loggerStartUsbLocked
  split
  · exact .inl ⟨by simp [einval], rfl⟩
  · rename_i hstate
    have hcan : d.flags.state.canStart = true := by simpa [Device.flags] using hstate
    split
    · exact .inl ⟨by simp [enotconn], rfl⟩
    · right
      simp only
      have hsession : ((d.newSession e.rand e.now).setUsbMode true).flags =
          { d.flags with usbMode := true } := rfl
      generalize (d.newSession e.rand e.now).setUsbMode true = session at hsession ⊢
      rcases openTty_cases session e.dtrOpen with ⟨hret, htty⟩ | ⟨hret, htty⟩
      · left
        rw [if_pos hret, htty]
        refine ⟨hcan, hret, d.flags.callback, d.flags.ttyOpen, ?_⟩
        rw [Device.setUsbMode_flags, hsession]
      · rw [if_neg (by simpa using hret)]
        generalize (session.openTty e.dtrOpen).1 = tty at htty ⊢
        have hconf : ((tty.registerDisconnectCallback (some .usbDisconnectHandler)).configureSession
            .usbTty).flags =
            { d.flags with usbMode := true, callback := some .usbTty, ttyOpen := true } := by
          rw [configureSession_flags, Device.registerDisconnectCallback_flags, htty, hsession]
        generalize (tty.registerDisconnectCallback (some .usbDisconnectHandler)).configureSession
          .usbTty = configured at hconf ⊢
        rcases startAggregator_cases configured e.aggregatorNow with
          ⟨-, hret, hstarted⟩ | ⟨hrun, hret, hstarted⟩
        · left
          rw [if_pos hret]
          refine ⟨hcan, hret, some .usbTty, false, ?_⟩
          rw [Device.setUsbMode_flags, Device.closeTty_flags, hstarted, hconf]
        · right
          rw [if_neg (by simpa using hret)]
          refine ⟨hcan, by simpa [hconf] using hrun, rfl, ?_⟩
          rw [Device.setState_flags, hstarted, hconf]

/-- A stop closes what the mode says. -/
theorem closeOutput_flags (e : CloseEnv) :
    (d.closeOutput e).flags =
      if d.flags.usbMode then { d.flags with usbMode := false, ttyOpen := false }
      else { d.flags with fileOpen := false } := by
  unfold Device.closeOutput
  by_cases husb : d.flags.usbMode = true
  · have h : d.logger.usbMode = true := husb
    rw [if_pos h, if_pos husb]
    rfl
  · have h : ¬ d.logger.usbMode = true := husb
    rw [if_neg h, if_neg husb, Device.closeFile_flags]

@[simp] theorem sampleIfIdle_flags (sample : Option ℚ) :
    (d.sampleIfIdle sample).flags = d.flags := by
  unfold Device.sampleIfIdle
  split
  · exact Device.startGroundAltitudeSampling_flags d sample
  · rfl

@[simp] theorem loggerArmLocked_flags (e : ArmEnv) :
    (loggerArmLocked e d).flags = { d.flags with state := .armed } := by
  simp only [loggerArmLocked, Device.setState_flags, Device.startGroundAltitudeSampling_flags]
  rfl

@[simp] theorem loggerArm_flags (e : ArmEnv) :
    (loggerArm e d).flags = { d.flags with state := .armed } := by
  rw [loggerArm, Device.publish_flags, loggerArmLocked_flags]

@[simp] theorem executiveTick_flags (currentState : LoggerState) :
    (d.executiveTick currentState).1.flags = d.flags := by
  unfold Device.executiveTick
  split
  · rfl
  · cases currentState <;> rfl

/-- Only an active state makes a tick stop and arm. -/
theorem isActive_of_executiveTick_rearm (currentState : LoggerState)
    (h : (d.executiveTick currentState).2 = .rearm) : currentState.isActive = true := by
  unfold Device.executiveTick at h
  split at h
  · exact absurd h (by simp)
  · cases currentState with
    | armed =>
      simp only [executiveHandleArmedState] at h
      split at h
      · simp only at h
        split at h <;> exact absurd h (by simp)
      · exact absurd h (by simp)
    | logging => rfl
    | jumped => rfl
    | idle => exact absurd h (by simp)
    | postflight => exact absurd h (by simp)
    | error => exact absurd h (by simp)

@[simp] theorem takeoffDetection_flags (climbRate agl : ℚ) :
    (takeoffDetection climbRate agl d).1.flags = d.flags := by
  unfold takeoffDetection
  split
  · split <;> rfl
  · rfl

@[simp] theorem baroHandlerUpdate_flags (s : BaroReading) :
    (baroHandlerUpdate s d).1.flags = d.flags := by
  unfold baroHandlerUpdate
  split
  · rfl
  · simp only
    split
    · rfl
    · split
      · rfl
      · rw [takeoffDetection_flags]
        rfl

end Specs

end TempoBt
