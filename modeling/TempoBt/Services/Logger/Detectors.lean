-- SUMMARY: The variables of the takeoff, jump and landing detection, and which functions of the logger reset them.
import TempoBt.Services.Logger.Status

/-!
# Detectors

The executive and the barometer handler keep the counters of their decisions in
variables of their own. Of the functions of the logger only `logger_start` and
`logger_jumped` touch them, and these only the executive's.
-/

namespace TempoBt

structure Detectors where
  executive : Executive
  baroHandler : BaroHandler
  config : LoggerConfig

def Device.detectors (d : Device) : Detectors where
  executive := d.executive
  baroHandler := d.baroHandler
  config := d.logger.config

/-- `executive_reset_counters` -/
def Executive.resetCounters (x : Executive) : Executive :=
  { x with
    lowActivityCounter := 0
    takeoffConfirmCount := 0
    freefallConfirmCount := 0
    lowAccelConfirmCount := 0 }

/-! ## Single calls -/

namespace Device

variable (d : Device)

@[simp] theorem outputLine_detectors (line : Bytes) :
    (d.outputLine line).detectors = d.detectors := by
  unfold outputLine
  split <;> rfl

@[simp] theorem outputLines_detectors (lines : List Bytes) :
    (d.outputLines lines).detectors = d.detectors := by
  induction lines generalizing d with
  | nil => rfl
  | cons line lines ih => exact (ih _).trans (outputLine_detectors d line)

@[simp] theorem writeSessionHeader_detectors : d.writeSessionHeader.detectors = d.detectors :=
  outputLines_detectors d _

@[simp] theorem writeStateChange_detectors (now : UInt64) (oldState newState : LoggerState)
    (trigger : Bytes) :
    (d.writeStateChange now oldState newState trigger).detectors = d.detectors :=
  outputLines_detectors d _

@[simp] theorem publish_detectors (evt : AppEvent) : (d.publish evt).detectors = d.detectors := rfl

@[simp] theorem publishSessionStart_detectors : d.publishSessionStart.detectors = d.detectors :=
  rfl

@[simp] theorem publishSessionStop_detectors : d.publishSessionStop.detectors = d.detectors := rfl

@[simp] theorem gnssSetRate_detectors (rateHz : UInt8) :
    (d.gnssSetRate rateHz).detectors = d.detectors := by
  unfold gnssSetRate
  split <;> rfl

@[simp] theorem executiveResetCounters_detectors :
    d.executiveResetCounters.detectors =
      { d.detectors with executive := d.detectors.executive.resetCounters } := rfl

@[simp] theorem enableAccelFilter_detectors : d.enableAccelFilter.detectors = d.detectors := rfl

@[simp] theorem disableAccelFilter_detectors : d.disableAccelFilter.detectors = d.detectors := rfl

@[simp] theorem stopAggregator_detectors : d.stopAggregator.detectors = d.detectors := rfl

@[simp] theorem closeOutput_detectors (e : CloseEnv) :
    (d.closeOutput e).detectors = d.detectors := by
  unfold closeOutput
  split <;> rfl

@[simp] theorem closeFile_detectors (e : CloseEnv) : (d.closeFile e).detectors = d.detectors := rfl

@[simp] theorem closeTty_detectors : d.closeTty.detectors = d.detectors := rfl

@[simp] theorem registerDisconnectCallback_detectors (callback : Option DisconnectCallback) :
    (d.registerDisconnectCallback callback).detectors = d.detectors := rfl

@[simp] theorem setUsbMode_detectors (usbMode : Bool) :
    (d.setUsbMode usbMode).detectors = d.detectors := rfl

@[simp] theorem setState_detectors (state : LoggerState) :
    (d.setState state).detectors = d.detectors := rfl

@[simp] theorem bleMcumgrStop_detectors : d.bleMcumgrStop.detectors = d.detectors := rfl

@[simp] theorem bleMcumgrRestart_detectors : d.bleMcumgrRestart.detectors = d.detectors := rfl

@[simp] theorem groundAltitudeWorkHandler_detectors (sample : Option ℚ) :
    (d.groundAltitudeWorkHandler sample).detectors = d.detectors := by
  unfold groundAltitudeWorkHandler
  split <;> rfl

@[simp] theorem startGroundAltitudeSampling_detectors (sample : Option ℚ) :
    (d.startGroundAltitudeSampling sample).detectors = d.detectors :=
  groundAltitudeWorkHandler_detectors d sample

@[simp] theorem newSession_detectors (rand : UInt32) (now : UInt64) :
    (d.newSession rand now).detectors = d.detectors := rfl

@[simp] theorem createSessionDirectory_detectors (e : StartEnv) :
    (createSessionDirectory e d).1.detectors = d.detectors := rfl

@[simp] theorem openFile_detectors (e : OpenEnv) :
    (d.openFile e).1.detectors = d.detectors := rfl

@[simp] theorem openTty_detectors (dtr : Option Bool) :
    (d.openTty dtr).1.detectors = d.detectors := rfl

@[simp] theorem configureSession_detectors (callback : OutputCallback) :
    (d.configureSession callback).detectors = d.detectors := by
  rw [configureSession, writeSessionHeader_detectors]
  rfl

@[simp] theorem startAggregator_detectors (now : UInt64) :
    (d.startAggregator now).1.detectors = d.detectors := rfl

@[simp] theorem sampleIfIdle_detectors (sample : Option ℚ) :
    (d.sampleIfIdle sample).detectors = d.detectors := by
  unfold sampleIfIdle
  split
  · exact startGroundAltitudeSampling_detectors d sample
  · rfl

end Device

/-! ## Functions of the logger -/

theorem loggerInit_detectors (config : LoggerConfig) (usbEnabled : Bool) (version : AppVersion)
    (first second : Option ℚ) :
    (loggerInit config usbEnabled version first second).detectors =
      (Device.initial config usbEnabled version).detectors := by
  unfold loggerInit
  cases first with
  | none => rfl
  | some m =>
    simp only [Device.startGroundAltitudeSampling_detectors]
    rfl

section Functions

variable (d : Device)

theorem loggerStartLocked_detectors (e : StartEnv) :
    (loggerStartLocked e d).1.detectors = d.detectors := by
  unfold loggerStartLocked
  split
  · rfl
  · simp only
    rw [if_neg (by simp [createSessionDirectory])]
    split
    · simp
    · split <;> simp

/-- A start that succeeds resets the executive's counters, and not the handler's. -/
theorem loggerStart_detectors (reason : Bytes) (e : StartEnv) :
    (loggerStart reason e d).1.detectors =
      if (loggerStart reason e d).2 = 0 then
        { d.detectors with executive := d.detectors.executive.resetCounters }
      else d.detectors := by
  have hlocked := loggerStartLocked_detectors d e
  unfold loggerStart
  by_cases hret : (loggerStartLocked e d).2 = 0
  · simp [hret, hlocked]
  · simp [hret, hlocked]

@[simp] theorem loggerStartUsb_detectors (e : UsbStartEnv) :
    (loggerStartUsb e d).1.detectors = d.detectors := by
  rcases loggerStartUsb_outcomes d e with
    ⟨-, h⟩ | ⟨-, h | ⟨-, h⟩ | ⟨-, h⟩ | h⟩
  all_goals simp [h]

theorem loggerJumped_detectors (now : UInt64) :
    (loggerJumped now d).1.detectors =
      if d.logger.state = .logging then
        { d.detectors with executive := d.detectors.executive.resetCounters }
      else d.detectors := by
  rw [loggerJumped_eq]
  split
  · simp
  · rfl

@[simp] theorem loggerStop_detectors (e : StopEnv) :
    (loggerStop e d).1.detectors = d.detectors := by
  rw [loggerStop_eq]
  split
  · simp
  · rfl

@[simp] theorem loggerArm_detectors (e : ArmEnv) : (loggerArm e d).detectors = d.detectors := by
  simp only [loggerArm, loggerArmLocked, Device.publish_detectors, Device.setState_detectors,
    Device.startGroundAltitudeSampling_detectors]
  rfl

@[simp] theorem loggerDisarm_detectors (groundSample : Option ℚ) :
    (loggerDisarm groundSample d).1.detectors = d.detectors := by
  rw [loggerDisarm_eq]
  split
  · simp
  · rfl

end Functions

/-! ## Operations -/

section Quiet

variable {d : Device}

/-- The calls of the logger leave the handler's variables and the configuration. -/
structure Device.KeepsHandler (d d' : Device) : Prop where
  baroHandler : d'.baroHandler = d.baroHandler
  config : d'.logger.config = d.logger.config

namespace Device.KeepsHandler

theorem trans {d d' d'' : Device} (h : d.KeepsHandler d') (h' : d'.KeepsHandler d'') :
    d.KeepsHandler d'' :=
  ⟨h'.1.trans h.1, h'.2.trans h.2⟩

theorem of_detectors {d d' : Device} (h : d'.detectors = d.detectors) : d.KeepsHandler d' :=
  ⟨congrArg Detectors.baroHandler h, congrArg Detectors.config h⟩

theorem of_reset {d d' : Device} {x : Executive}
    (h : d'.detectors = { d.detectors with executive := x }) : d.KeepsHandler d' :=
  ⟨congrArg Detectors.baroHandler h, congrArg Detectors.config h⟩

variable (d : Device)

theorem loggerStart (reason : Bytes) (e : StartEnv) :
    d.KeepsHandler (loggerStart reason e d).1 := by
  have h := loggerStart_detectors d reason e
  split at h
  · exact of_reset h
  · exact of_detectors h

theorem loggerJumped (now : UInt64) : d.KeepsHandler (loggerJumped now d).1 := by
  have h := loggerJumped_detectors d now
  split at h
  · exact of_reset h
  · exact of_detectors h

theorem executiveAct (e : ExecutiveEnv) (a : ExecutiveAction) :
    d.KeepsHandler (executiveAct e d a) := by
  cases a with
  | none => exact ⟨rfl, rfl⟩
  | start => exact loggerStart d _ _
  | jumped => exact loggerJumped d _
  | rearm =>
    have hstop := of_detectors (loggerStop_detectors d e.stop)
    have harm := of_detectors (loggerArm_detectors (loggerStop e.stop d).1 e.arm)
    have hrate := of_detectors
      (Device.gnssSetRate_detectors (loggerArm e.arm (loggerStop e.stop d).1) 1)
    exact (hstop.trans harm).trans (hrate.trans ⟨rfl, rfl⟩)

theorem executiveTick (currentState : LoggerState) :
    d.KeepsHandler (d.executiveTick currentState).1 := by
  unfold Device.executiveTick
  split
  · exact ⟨rfl, rfl⟩
  · cases currentState <;> exact ⟨rfl, rfl⟩

theorem loggerExecutive (e : ExecutiveEnv) : d.KeepsHandler (loggerExecutive e d) := by
  unfold TempoBt.loggerExecutive
  split
  · exact ⟨rfl, rfl⟩
  · exact (executiveTick d _).trans (executiveAct _ e _)

end Device.KeepsHandler

/-- Only a sample touches the handler's variables. -/
theorem loggerStep_keepsHandler (d : Device) (op : LoggerOp) :
    match op with
    | .baroSample s _ => (baroHandlerUpdate s d).1.KeepsHandler (loggerStep d op).1
    | _ => d.KeepsHandler (loggerStep d op).1 := by
  cases op with
  | start reason e => exact .loggerStart d reason e
  | startUsb e => exact .of_detectors (loggerStartUsb_detectors d e)
  | jumped now => exact .loggerJumped d now
  | stop e => exact .of_detectors (loggerStop_detectors d e)
  | arm e => exact .of_detectors (loggerArm_detectors d e)
  | disarm groundSample => exact .of_detectors (loggerDisarm_detectors d groundSample)
  | executive e => exact .loggerExecutive d e
  | baroSample s e =>
    change (baroHandlerUpdate s d).1.KeepsHandler (loggerBaroHandler s e d)
    unfold loggerBaroHandler
    simp only
    split
    · exact .loggerStart _ _ _
    · exact ⟨rfl, rfl⟩
  | usbDisconnect e => exact .of_detectors (loggerStop_detectors d e)
  | groundAltitudeTimer sample =>
    exact .of_detectors (Device.groundAltitudeWorkHandler_detectors d sample)
  | accelSample magnitudeG => exact ⟨rfl, rfl⟩

/-- An operation without a detector that leaves the logger ARMED. -/
theorem loggerStep_quiet {op : LoggerOp}
    (hquiet : match op with | .executive _ | .baroSample .. => False | _ => True)
    (harmed : d.logger.state = .armed) (harmed' : (loggerStep d op).1.logger.state = .armed) :
    (loggerStep d op).1.detectors = d.detectors ∧
      (d.logger.usbMode = false → (loggerStep d op).1.logger.usbMode = false) := by
  have hstop (e : StopEnv) : (loggerStop e d).1.detectors = d.detectors ∧
      (d.logger.usbMode = false → (loggerStop e d).1.logger.usbMode = false) := by
    have hstatus := loggerStop_status d e
    rw [if_neg (by simp [Device.status, harmed, LoggerState.canStop])] at hstatus
    exact ⟨loggerStop_detectors d e, fun husb => (congrArg Status.usbMode hstatus).trans husb⟩
  cases op with
  | start reason e =>
    have hstatus := loggerStart_status d reason e
    have hdetectors := loggerStart_detectors d reason e
    by_cases hret : (loggerStart reason e d).2 = 0
    · rw [if_pos hret] at hstatus
      have hlogging : (loggerStart reason e d).1.logger.state = .logging :=
        congrArg Status.state hstatus
      exact absurd (hlogging.symm.trans harmed') (by decide)
    · rw [if_neg hret] at hstatus hdetectors
      exact ⟨hdetectors, fun husb => (congrArg Status.usbMode hstatus).trans husb⟩
  | startUsb e =>
    refine ⟨loggerStartUsb_detectors d e, fun husb => ?_⟩
    rcases loggerStartUsb_status d e with ⟨-, -, h⟩ | ⟨-, h⟩ | ⟨-, -, callback, h⟩
    · have hlogging : (loggerStartUsb e d).1.logger.state = .logging := congrArg Status.state h
      exact absurd (hlogging.symm.trans harmed') (by decide)
    · exact (congrArg Status.usbMode h).trans husb
    · exact congrArg Status.usbMode h
  | jumped now =>
    have hne : ¬ d.logger.state = .logging := by simp [harmed]
    have hstatus := loggerJumped_status d now
    have hdetectors := loggerJumped_detectors d now
    rw [if_neg (show ¬ d.status.state = .logging from hne)] at hstatus
    rw [if_neg hne] at hdetectors
    exact ⟨hdetectors, fun husb => (congrArg Status.usbMode hstatus).trans husb⟩
  | stop e => exact hstop e
  | arm e =>
    exact ⟨loggerArm_detectors d e,
      fun husb => (congrArg Status.usbMode (loggerArm_status d e)).trans husb⟩
  | disarm groundSample =>
    have hstatus := loggerDisarm_status d groundSample
    rw [if_pos (show d.status.state = .armed from harmed)] at hstatus
    have hidle : (loggerDisarm groundSample d).1.logger.state = .idle :=
      congrArg Status.state hstatus
    exact absurd (hidle.symm.trans harmed') (by decide)
  | executive e => exact hquiet.elim
  | baroSample s e => exact hquiet.elim
  | usbDisconnect e => exact hstop e
  | groundAltitudeTimer sample =>
    have hstatus := Device.groundAltitudeWorkHandler_status d sample
    exact ⟨Device.groundAltitudeWorkHandler_detectors d sample,
      fun husb => (congrArg Status.usbMode hstatus).trans husb⟩
  | accelSample magnitudeG => exact ⟨rfl, id⟩

end Quiet

end TempoBt
