-- SUMMARY: The state of all services that a logging session involves, the actions on it, and the flags that describe a session.
import TempoBt.Services.Aggregator
import TempoBt.Services.FileWriter
import TempoBt.Services.Sensors
import TempoBt.Services.UsbTty

/-!
# The device

The static data of the services that take part in a logging session, and the
calls between these services. What the outside sees is kept in order: the lines
handed to an output callback and the published events.
-/

namespace TempoBt

/-! ## State -/

/-- `logger_state_t` -/
inductive LoggerState where
  | idle
  | armed
  | logging
  | jumped
  | postflight
  | error
  deriving DecidableEq

/-- `logger_config_t`, without the landing option, which nothing acts on. -/
structure LoggerConfig where
  basePath : Bytes
  useDateFolders : Bool
  useUuidNames : Bool
  imuRateHz : UInt16
  envRateHz : UInt16
  gnssRateHz : UInt16
  enableQuaternion : Bool
  enableMagnetometer : Bool
  autoStartOnTakeoff : Bool

/-- The static `logger_state`. -/
structure Logger where
  state : LoggerState
  config : LoggerConfig
  sessionId : UInt32
  sessionStartUs : UInt64
  sessionPath : Bytes
  logFilePath : Bytes
  usbMode : Bool

/-- `executive_state`, in exact numbers. -/
structure Executive where
  altitudeEstM : ℚ
  climbRateEstMps : ℚ
  filterInitialized : Bool
  medianBuffer : Fin 3 → ℚ
  medianIndex : Fin 3
  medianCount : UInt8
  lowActivityCounter : UInt32
  takeoffConfirmCount : UInt8
  freefallConfirmCount : UInt8
  lowAccelConfirmCount : UInt8

/-- `executive_init` -/
def Executive.initial : Executive where
  altitudeEstM := 0
  climbRateEstMps := 0
  filterInitialized := false
  medianBuffer := fun _ => 0
  medianIndex := 0
  medianCount := 0
  lowActivityCounter := 0
  takeoffConfirmCount := 0
  freefallConfirmCount := 0
  lowAccelConfirmCount := 0

/-- An altitude enters the median pre-filter's buffer. -/
def Executive.pushAltitude (altitudeM : ℚ) (x : Executive) : Executive :=
  { x with
    medianBuffer := fun i => if i = x.medianIndex then altitudeM else x.medianBuffer i
    medianIndex := x.medianIndex + 1
    medianCount := if x.medianCount < 3 then x.medianCount + 1 else x.medianCount }

/-- The samples in the median pre-filter's buffer, by index. -/
def Executive.medianSamples (x : Executive) : ℚ × ℚ × ℚ :=
  (x.medianBuffer 0, x.medianBuffer 1, x.medianBuffer 2)

/-- The static variables of `logger_baro_handler`. -/
structure BaroHandler where
  groundAltitudeM : ℚ
  lastSampleTimeUs : UInt64
  climbSamples : Int
  groundLevelSet : Bool

def BaroHandler.initial : BaroHandler := ⟨0, 0, 0, false⟩

/-- `TEST_ALARM_IDLE`, `TEST_ALARM_WAITING_START` and `TEST_ALARM_WAITING_JUMP` -/
inductive TestAlarmState where
  | idle
  | waitingStart
  | waitingJump
  deriving DecidableEq

/-- The static `test_alarm`. -/
structure TestAlarm where
  state : TestAlarmState
  targetStartUtcMs : UInt64
  jumpDelaySec : UInt32
  jumpCountdown : UInt32

def TestAlarm.initial : TestAlarm := ⟨.idle, 0, 0, 0⟩

/-- The events the logger publishes, with their payload. -/
inductive AppEvent where
  | sessionStart (id : UInt32)
  | sessionStop (id : UInt32)
  | stateChange (oldState newState : LoggerState)
  deriving DecidableEq

structure Device where
  logger : Logger
  executive : Executive
  baroHandler : BaroHandler
  groundAltitude : GroundAltitudeTracker
  /-- Whether `ground_altitude_work` is scheduled. -/
  groundAltitudeWork : Bool
  accelFilter : AccelFilter
  aggregator : Aggregator
  fileWriter : FileWriter
  usbTty : UsbTty
  testAlarm : TestAlarm
  /-- The rate last requested with `gnss_set_rate`. -/
  gnssRateHz : UInt8
  /-- `ble_radio_active` -/
  bleRadioActive : Bool
  /-- Whether `ble_stop_work` is scheduled. -/
  bleStopWork : Bool
  /-- The generated version header. -/
  version : AppVersion
  /-- The lines handed to an output callback. -/
  handed : List (OutputCallback × Bytes)
  published : List AppEvent

/-- The device with its services initialised and no ground altitude yet. -/
def Device.initial (config : LoggerConfig) (usbEnabled : Bool) (version : AppVersion) : Device where
  logger :=
    { state := .idle, config, sessionId := 0, sessionStartUs := 0, sessionPath := []
      logFilePath := [], usbMode := false }
  executive := .initial
  baroHandler := .initial
  groundAltitude := .initial
  groundAltitudeWork := false
  accelFilter := .initial
  aggregator := .initial
  fileWriter := fileWriterInit (some { bufferSize := 4096, flushIntervalMs := 250 })
  usbTty := .initial usbEnabled
  testAlarm := .initial
  gnssRateHz := 1
  bleRadioActive := true
  bleStopWork := false
  version
  handed := []
  published := []

/-- The states in which a session runs. -/
def LoggerState.isActive : LoggerState → Bool
  | .logging | .jumped => true
  | _ => false

/-- The states in which a session may be started. -/
def LoggerState.canStart : LoggerState → Bool
  | .idle | .armed => true
  | _ => false

def stateToString : LoggerState → Bytes
  | .idle => ascii "IDLE"
  | .armed => ascii "ARMED"
  | .logging => ascii "LOGGING"
  | .jumped => ascii "JUMPED"
  | .postflight => ascii "POSTFLIGHT"
  | .error => ascii "ERROR"

/-! ## Calls between services -/

namespace Device

variable (d : Device)

/-- A line reaches the registered output callback. -/
def outputLine (line : Bytes) : Device :=
  match d.aggregator.outputCallback with
  | none => d
  | some .toFile =>
    { d with
      fileWriter := (fileWriterWrite line d.fileWriter).1
      handed := d.handed ++ [(.toFile, line)] }
  | some .usbTty =>
    { d with
      usbTty := usbTtyOutputLine line d.usbTty
      handed := d.handed ++ [(.usbTty, line)] }

def outputLines (lines : List Bytes) : Device := lines.foldl outputLine d

/-- `aggregator_write_session_header` -/
def writeSessionHeader : Device :=
  d.outputLines (aggregatorWriteSessionHeader d.version
    (.num (baroGetGroundAltitudePsfc d.groundAltitude)) d.aggregator)

/-- `aggregator_write_state_change` -/
def writeStateChange (now : UInt64) (oldState newState : LoggerState) (trigger : Bytes) : Device :=
  d.outputLines (aggregatorWriteStateChange now (stateToString oldState) (stateToString newState)
    trigger d.aggregator)

/-- `event_bus_publish` -/
def publish (evt : AppEvent) : Device := { d with published := d.published ++ [evt] }

/-- The event that ends `logger_start`, for the session of the moment. -/
def publishSessionStart : Device := d.publish (.sessionStart d.logger.sessionId)

/-- The event of `logger_stop`, for the session of the moment. -/
def publishSessionStop : Device := d.publish (.sessionStop d.logger.sessionId)

/-- `gnss_set_rate`: a rate out of range is refused. -/
def gnssSetRate (rateHz : UInt8) : Device :=
  if rateHz < 1 ∨ 10 < rateHz then d else { d with gnssRateHz := rateHz }

def executiveResetCounters : Device :=
  { d with
    executive :=
      { d.executive with
        lowActivityCounter := 0
        takeoffConfirmCount := 0
        freefallConfirmCount := 0
        lowAccelConfirmCount := 0 } }

def enableAccelFilter : Device := { d with accelFilter := imuEnableAccelFilter }

def disableAccelFilter : Device := { d with accelFilter := imuDisableAccelFilter d.accelFilter }

def stopAggregator : Device := { d with aggregator := (aggregatorStop d.aggregator).1 }

def closeFile (e : CloseEnv) : Device := { d with fileWriter := (fileWriterClose e d.fileWriter).1 }

def closeTty : Device := { d with usbTty := usbTtyClose d.usbTty }

def registerDisconnectCallback (callback : Option DisconnectCallback) : Device :=
  { d with usbTty := usbTtyRegisterDisconnectCallback callback d.usbTty }

def setUsbMode (usbMode : Bool) : Device := { d with logger := { d.logger with usbMode } }

def setState (state : LoggerState) : Device := { d with logger := { d.logger with state } }

/-- `ble_mcumgr_stop` -/
def bleMcumgrStop : Device := { d with bleRadioActive := false }

/-- `ble_mcumgr_restart`: the radio counts as active even when advertising fails. -/
def bleMcumgrRestart : Device := { d with bleRadioActive := true }

/-- `ble_mcumgr_stop_deferred` -/
def bleMcumgrStopDeferred : Device := { d with bleStopWork := true }

/-- `ground_altitude_work_handler`; the sample is `none` when the barometer has no
valid pressure. -/
def groundAltitudeWorkHandler (sample : Option ℚ) : Device :=
  if !d.logger.state.canStart then { d with groundAltitudeWork := false }
  else
    { d with
      groundAltitude :=
        sample.elim d.groundAltitude
          fun m => baroRecordGroundAltitude (metresToFeet m) d.groundAltitude
      groundAltitudeWork := true }

/-- `start_ground_altitude_sampling` -/
def startGroundAltitudeSampling (sample : Option ℚ) : Device :=
  { d.groundAltitudeWorkHandler sample with groundAltitudeWork := true }

/-- `stop_ground_altitude_sampling` -/
def stopGroundAltitudeSampling : Device := { d with groundAltitudeWork := false }

end Device

/-! ## The flags of a session -/

/-- What the consistency of a session is about. -/
structure Flags where
  state : LoggerState
  usbMode : Bool
  running : Bool
  callback : Option OutputCallback
  fileOpen : Bool
  ttyOpen : Bool
  accelFilter : Bool
  deriving DecidableEq

def Device.flags (d : Device) : Flags where
  state := d.logger.state
  usbMode := d.logger.usbMode
  running := d.aggregator.running
  callback := d.aggregator.outputCallback
  fileOpen := d.fileWriter.fileOpen
  ttyOpen := d.usbTty.ttyOpen
  accelFilter := d.accelFilter.enabled

namespace Device

variable (d : Device)

@[simp] theorem outputLine_flags (line : Bytes) : (d.outputLine line).flags = d.flags := by
  unfold outputLine
  split
  · rfl
  · simp [flags]
  · simp [flags]

@[simp] theorem outputLines_flags (lines : List Bytes) :
    (d.outputLines lines).flags = d.flags := by
  induction lines generalizing d with
  | nil => rfl
  | cons line lines ih =>
    calc ((d.outputLine line).outputLines lines).flags
        = (d.outputLine line).flags := ih _
      _ = d.flags := outputLine_flags d line

@[simp] theorem writeSessionHeader_flags : d.writeSessionHeader.flags = d.flags :=
  outputLines_flags d _

@[simp] theorem writeStateChange_flags (now : UInt64) (oldState newState : LoggerState)
    (trigger : Bytes) : (d.writeStateChange now oldState newState trigger).flags = d.flags :=
  outputLines_flags d _

@[simp] theorem publish_flags (evt : AppEvent) : (d.publish evt).flags = d.flags := rfl

@[simp] theorem publishSessionStart_flags : d.publishSessionStart.flags = d.flags := rfl

@[simp] theorem publishSessionStop_flags : d.publishSessionStop.flags = d.flags := rfl

@[simp] theorem gnssSetRate_flags (rateHz : UInt8) : (d.gnssSetRate rateHz).flags = d.flags := by
  unfold gnssSetRate
  split <;> rfl

@[simp] theorem executiveResetCounters_flags : d.executiveResetCounters.flags = d.flags := rfl

@[simp] theorem enableAccelFilter_flags :
    d.enableAccelFilter.flags = { d.flags with accelFilter := true } := rfl

@[simp] theorem disableAccelFilter_flags :
    d.disableAccelFilter.flags = { d.flags with accelFilter := false } := rfl

@[simp] theorem stopAggregator_flags :
    d.stopAggregator.flags = { d.flags with running := false } := by
  unfold stopAggregator aggregatorStop
  split
  · rename_i h
    simp only [Bool.not_eq_true'] at h
    simp [flags, h]
  · rfl

@[simp] theorem closeFile_flags (e : CloseEnv) :
    (d.closeFile e).flags = { d.flags with fileOpen := false } := by
  simp [closeFile, flags]

@[simp] theorem closeTty_flags : d.closeTty.flags = { d.flags with ttyOpen := false } := rfl

@[simp] theorem registerDisconnectCallback_flags (callback : Option DisconnectCallback) :
    (d.registerDisconnectCallback callback).flags = d.flags := rfl

@[simp] theorem setUsbMode_flags (usbMode : Bool) :
    (d.setUsbMode usbMode).flags = { d.flags with usbMode } := rfl

@[simp] theorem setState_flags (state : LoggerState) :
    (d.setState state).flags = { d.flags with state } := rfl

@[simp] theorem bleMcumgrStop_flags : d.bleMcumgrStop.flags = d.flags := rfl

@[simp] theorem bleMcumgrRestart_flags : d.bleMcumgrRestart.flags = d.flags := rfl

@[simp] theorem bleMcumgrStopDeferred_flags : d.bleMcumgrStopDeferred.flags = d.flags := rfl

@[simp] theorem groundAltitudeWorkHandler_flags (sample : Option ℚ) :
    (d.groundAltitudeWorkHandler sample).flags = d.flags := by
  unfold groundAltitudeWorkHandler
  split <;> rfl

@[simp] theorem startGroundAltitudeSampling_flags (sample : Option ℚ) :
    (d.startGroundAltitudeSampling sample).flags = d.flags :=
  groundAltitudeWorkHandler_flags d sample

end Device

end TempoBt
