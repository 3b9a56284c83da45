-- SUMMARY: The status of the logger and of what it switches, and the change that each function of the logger makes to it.
import TempoBt.Services.Logger.Session

/-!
# Status

What the features around a session see of the logger, and what the logger
switches for them: the state, the rate of the receiver, the radio, the alarm and
the registered disconnect callback. A function of the logger makes one of a few
changes to it, or several in turn.
-/

namespace TempoBt

structure Status where
  state : LoggerState
  usbMode : Bool
  gnssRateHz : UInt8
  bleRadioActive : Bool
  bleStopWork : Bool
  testAlarm : TestAlarm
  disconnectCb : Option DisconnectCallback

def Device.status (d : Device) : Status where
  state := d.logger.state
  usbMode := d.logger.usbMode
  gnssRateHz := d.gnssRateHz
  bleRadioActive := d.bleRadioActive
  bleStopWork := d.bleStopWork
  testAlarm := d.testAlarm
  disconnectCb := d.usbTty.disconnectCb

/-! ## Single calls -/

namespace Device

variable (d : Device)

@[simp] theorem outputLine_status (line : Bytes) : (d.outputLine line).status = d.status := by
  unfold outputLine
  split
  · rfl
  · rfl
  · simp only [status, usbTtyOutputLine]
    split <;> rfl

@[simp] theorem outputLines_status (lines : List Bytes) :
    (d.outputLines lines).status = d.status := by
  induction lines generalizing d with
  | nil => rfl
  | cons line lines ih =>
    calc ((d.outputLine line).outputLines lines).status
        = (d.outputLine line).status := ih _
      _ = d.status := outputLine_status d line

@[simp] theorem writeSessionHeader_status : d.writeSessionHeader.status = d.status :=
  outputLines_status d _

@[simp] theorem writeStateChange_status (now : UInt64) (oldState newState : LoggerState)
    (trigger : Bytes) : (d.writeStateChange now oldState newState trigger).status = d.status :=
  outputLines_status d _

@[simp] theorem publish_status (evt : AppEvent) : (d.publish evt).status = d.status := rfl

@[simp] theorem publishSessionStart_status : d.publishSessionStart.status = d.status := rfl

@[simp] theorem publishSessionStop_status : d.publishSessionStop.status = d.status := rfl

@[simp] theorem gnssSetRate_one_status :
    (d.gnssSetRate 1).status = { d.status with gnssRateHz := 1 } := rfl

@[simp] theorem gnssSetRate_ten_status :
    (d.gnssSetRate 10).status = { d.status with gnssRateHz := 10 } := rfl

@[simp] theorem executiveResetCounters_status : d.executiveResetCounters.status = d.status := rfl

@[simp] theorem enableAccelFilter_status : d.enableAccelFilter.status = d.status := rfl

@[simp] theorem disableAccelFilter_status : d.disableAccelFilter.status = d.status := rfl

@[simp] theorem stopAggregator_status : d.stopAggregator.status = d.status := rfl

@[simp] theorem closeFile_status (e : CloseEnv) : (d.closeFile e).status = d.status := rfl

@[simp] theorem closeTty_status : d.closeTty.status = d.status := rfl

@[simp] theorem registerDisconnectCallback_status (callback : Option DisconnectCallback) :
    (d.registerDisconnectCallback callback).status =
      { d.status with disconnectCb := callback } := rfl

@[simp] theorem setUsbMode_status (usbMode : Bool) :
    (d.setUsbMode usbMode).status = { d.status with usbMode } := rfl

@[simp] theorem setState_status (state : LoggerState) :
    (d.setState state).status = { d.status with state } := rfl

@[simp] theorem bleMcumgrStop_status :
    d.bleMcumgrStop.status = { d.status with bleRadioActive := false } := rfl

@[simp] theorem bleMcumgrRestart_status :
    d.bleMcumgrRestart.status = { d.status with bleRadioActive := true } := rfl

@[simp] theorem bleMcumgrStopDeferred_status :
    d.bleMcumgrStopDeferred.status = { d.status with bleStopWork := true } := rfl

@[simp] theorem groundAltitudeWorkHandler_status (sample : Option ℚ) :
    (d.groundAltitudeWorkHandler sample).status = d.status := by
  unfold groundAltitudeWorkHandler
  split <;> rfl

@[simp] theorem startGroundAltitudeSampling_status (sample : Option ℚ) :
    (d.startGroundAltitudeSampling sample).status = d.status :=
  groundAltitudeWorkHandler_status d sample

@[simp] theorem newSession_status (rand : UInt32) (now : UInt64) :
    (d.newSession rand now).status = d.status := rfl

@[simp] theorem createSessionDirectory_status (e : StartEnv) :
    (createSessionDirectory e d).1.status = d.status := rfl

@[simp] theorem openFile_status (e : OpenEnv) : (d.openFile e).1.status = d.status := rfl

@[simp] theorem openTty_status (dtr : Option Bool) : (d.openTty dtr).1.status = d.status := by
  simp only [openTty, usbTtyOpen, status]
  split
  · rfl
  · split <;> rfl

@[simp] theorem configureSession_status (callback : OutputCallback) :
    (d.configureSession callback).status = d.status := by
  rw [configureSession, writeSessionHeader_status]
  rfl

@[simp] theorem startAggregator_status (now : UInt64) :
    (d.startAggregator now).1.status = d.status := rfl

@[simp] theorem sampleIfIdle_status (sample : Option ℚ) :
    (d.sampleIfIdle sample).status = d.status := by
  unfold sampleIfIdle
  split
  · exact startGroundAltitudeSampling_status d sample
  · rfl

@[simp] theorem executiveTick_status (currentState : LoggerState) :
    (d.executiveTick currentState).1.status = d.status := by
  unfold executiveTick
  split
  · rfl
  · cases currentState <;> rfl

end Device

/-! ## Functions of the logger -/

theorem loggerInit_status (config : LoggerConfig) (usbEnabled : Bool) (version : AppVersion)
    (first second : Option ℚ) :
    (loggerInit config usbEnabled version first second).status =
      (Device.initial config usbEnabled version).status := by
  unfold loggerInit
  cases first with
  | none => rfl
  | some m =>
    simp only [Device.startGroundAltitudeSampling_status]
    rfl

section Functions

variable (d : Device)

theorem loggerStartLocked_status (e : StartEnv) :
    (loggerStartLocked e d).1.status =
      if (loggerStartLocked e d).2 = 0 then { d.status with state := .logging } else d.status := by
  unfold loggerStartLocked
  split
  · rfl
  · simp only
    rw [if_neg (by simp [createSessionDirectory])]
    by_cases hfile :
        ((createSessionDirectory e (d.newSession e.rand e.now)).1.openFile e.file).2 = 0
    · rw [if_neg (not_not.mpr hfile)]
      split <;> simp [*]
    · rw [if_pos hfile, if_neg hfile]
      simp

/-- A start that succeeds makes a session with the radio off. -/
theorem loggerStart_status (reason : Bytes) (e : StartEnv) :
    (loggerStart reason e d).1.status =
      if (loggerStart reason e d).2 = 0 then
        { d.status with state := .logging, gnssRateHz := 1, bleRadioActive := false }
      else d.status := by
  have hlocked := loggerStartLocked_status d e
  unfold loggerStart
  by_cases hret : (loggerStartLocked e d).2 = 0
  · rw [if_pos hret] at hlocked
    simp [hret, hlocked]
  · rw [if_neg hret] at hlocked
    simp [hret, hlocked]

/-- A start is refused in an active session. -/
theorem canStart_of_loggerStart {reason : Bytes} {e : StartEnv} {d : Device}
    (h : (loggerStart reason e d).2 = 0) : d.status.state.canStart = true := by
  by_contra hstate
  have hrefused : loggerStartLocked e d = (d, -Errno.einval) := by
    rw [loggerStartLocked, if_pos (by simpa [Device.status] using hstate)]
  simp [loggerStart, hrefused, Errno.einval] at h

/-- A start over USB leaves the radio; one that fails may leave its mark on the mode
and the disconnect callback. -/
theorem loggerStartUsb_status (e : UsbStartEnv) :
    (d.status.state.canStart = true ∧ (loggerStartUsb e d).2 = 0 ∧
      (loggerStartUsb e d).1.status =
        { d.status with
          state := .logging, usbMode := true, gnssRateHz := 1
          disconnectCb := some .usbDisconnectHandler }) ∨
    ((loggerStartUsb e d).2 ≠ 0 ∧ (loggerStartUsb e d).1.status = d.status) ∨
    (d.status.state.canStart = true ∧ (loggerStartUsb e d).2 ≠ 0 ∧
      ∃ callback, (loggerStartUsb e d).1.status =
        { d.status with usbMode := false, disconnectCb := callback }) := by
  rcases loggerStartUsb_outcomes d e with
    ⟨-, h⟩ | ⟨hcan, h | ⟨hret, h⟩ | ⟨hret, h⟩ | h⟩
  · exact .inr (.inl ⟨by simp [h, Errno.einval], by rw [h]⟩)
  · exact .inr (.inl ⟨by simp [h, Errno.enotconn], by rw [h]⟩)
  · refine .inr (.inr ⟨hcan, by rwa [h], d.usbTty.disconnectCb, ?_⟩)
    rw [h]
    simp
    rfl
  · refine .inr (.inr ⟨hcan, by rwa [h], some .usbDisconnectHandler, ?_⟩)
    simp [h]
  · exact .inl ⟨hcan, by rw [h], by simp [h]⟩

theorem loggerJumped_status (now : UInt64) :
    (loggerJumped now d).1.status =
      if d.status.state = .logging then { d.status with state := .jumped, gnssRateHz := 10 }
      else d.status := by
  rw [loggerJumped_eq, show d.status.state = d.logger.state from rfl]
  split
  · simp
  · rfl

theorem closeOutput_status (e : CloseEnv) :
    (d.closeOutput e).status =
      { d.status with
        usbMode := false
        disconnectCb := if d.status.usbMode then none else d.status.disconnectCb } := by
  unfold Device.closeOutput
  by_cases husb : d.status.usbMode = true
  · have h : d.logger.usbMode = true := husb
    rw [if_pos h, if_pos husb]
    rfl
  · have h : ¬ d.logger.usbMode = true := husb
    rw [if_neg h, if_neg husb, Device.closeFile_status, ← eq_false_of_ne_true husb]

/-- A stop switches the radio on, and leaves the rate. -/
theorem loggerStop_status (e : StopEnv) :
    (loggerStop e d).1.status =
      if d.status.state.canStop then
        { d.status with
          state := .idle, usbMode := false, bleRadioActive := true
          disconnectCb := if d.status.usbMode then none else d.status.disconnectCb }
      else d.status := by
  rw [loggerStop_eq, show d.status.state = d.logger.state from rfl]
  split
  · simp only [Device.bleMcumgrRestart_status, Device.sampleIfIdle_status,
      Device.publishSessionStop_status, closeOutput_status, Device.stopAggregator_status,
      Device.writeStateChange_status, Device.disableAccelFilter_status, Device.setState_status]
  · rfl

theorem loggerStop_ret (e : StopEnv) :
    (loggerStop e d).2 = 0 ↔ d.status.state.canStop = true := by
  rw [loggerStop_eq, show d.status.state = d.logger.state from rfl]
  split
  · rename_i hstate
    exact iff_of_true rfl hstate
  · rename_i hstate
    exact iff_of_false (by simp [Errno.einval]) hstate

@[simp] theorem loggerArm_status (e : ArmEnv) :
    (loggerArm e d).status = { d.status with state := .armed } := by
  simp only [loggerArm, loggerArmLocked, Device.publish_status, Device.setState_status,
    Device.startGroundAltitudeSampling_status]
  rfl

theorem loggerDisarm_status (groundSample : Option ℚ) :
    (loggerDisarm groundSample d).1.status =
      if d.status.state = .armed then { d.status with state := .idle } else d.status := by
  rw [loggerDisarm_eq, show d.status.state = d.logger.state from rfl]
  split
  · simp
  · rfl

@[simp] theorem takeoffDetection_status (climbRate agl : ℚ) :
    (takeoffDetection climbRate agl d).1.status = d.status := by
  unfold takeoffDetection
  split
  · split <;> rfl
  · rfl

@[simp] theorem baroHandlerUpdate_status (s : BaroReading) :
    (baroHandlerUpdate s d).1.status = d.status := by
  unfold baroHandlerUpdate
  split
  · rfl
  · simp only
    split
    · rfl
    · split
      · rfl
      · rw [takeoffDetection_status]
        rfl

end Functions

/-! ## Changes -/

/-- The changes of the status that the functions of the logger make. -/
inductive Status.Change : Status → Status → Prop where
  | started {s : Status} (hstate : s.state.canStart = true) :
    Change s { s with state := .logging, gnssRateHz := 1, bleRadioActive := false }
  | startedUsb {s : Status} (hstate : s.state.canStart = true) :
    Change s
      { s with
        state := .logging, usbMode := true, gnssRateHz := 1
        disconnectCb := some .usbDisconnectHandler }
  | refusedUsb {s : Status} (hstate : s.state.canStart = true)
      (callback : Option DisconnectCallback) :
    Change s { s with usbMode := false, disconnectCb := callback }
  | jumped {s : Status} (hstate : s.state = .logging) :
    Change s { s with state := .jumped, gnssRateHz := 10 }
  | stopped {s : Status} (hstate : s.state.canStop = true) :
    Change s
      { s with
        state := .idle, usbMode := false, bleRadioActive := true
        disconnectCb := if s.usbMode then none else s.disconnectCb }
  | armed {s : Status} (hstate : s.state = .idle) : Change s { s with state := .armed }
  | disarmed {s : Status} (hstate : s.state = .armed) : Change s { s with state := .idle }
  | slowed (s : Status) : Change s { s with gnssRateHz := 1 }

/-- The status of `d'` comes from that of `d` by changes of the logger. -/
def Changes (d d' : Device) : Prop := Relation.ReflTransGen Status.Change d.status d'.status

namespace Changes

variable {d d' d'' : Device}

theorem of_eq (h : d'.status = d.status) : Changes d d' := by
  rw [Changes, h]

theorem trans (h : Changes d d') (h' : Changes d' d'') : Changes d d'' :=
  Relation.ReflTransGen.trans h h'

/-- What every change keeps, the functions of the logger keep. -/
theorem keep {P : Status → Prop} (hchange : ∀ s s', Status.Change s s' → P s → P s')
    (h : Changes d d') (hd : P d.status) : P d'.status := by
  unfold Changes at h
  generalize d'.status = s' at h ⊢
  induction h with
  | refl => exact hd
  | tail _ hlast ih => exact hchange _ _ hlast ih

end Changes

section Functions

variable (d : Device)

theorem loggerStart_changes (reason : Bytes) (e : StartEnv) :
    Changes d (loggerStart reason e d).1 := by
  rw [Changes, loggerStart_status]
  split
  · rename_i hret
    exact .single (.started (canStart_of_loggerStart hret))
  · exact .refl

theorem loggerStartUsb_changes (e : UsbStartEnv) : Changes d (loggerStartUsb e d).1 := by
  rw [Changes]
  rcases loggerStartUsb_status d e with ⟨hcan, -, h⟩ | ⟨-, h⟩ | ⟨hcan, -, callback, h⟩
  · rw [h]
    exact .single (.startedUsb hcan)
  · rw [h]
  · rw [h]
    exact .single (.refusedUsb hcan callback)

theorem loggerJumped_changes (now : UInt64) : Changes d (loggerJumped now d).1 := by
  rw [Changes, loggerJumped_status]
  split
  · rename_i hstate
    exact .single (.jumped hstate)
  · exact .refl

theorem loggerStop_changes (e : StopEnv) : Changes d (loggerStop e d).1 := by
  rw [Changes, loggerStop_status]
  split
  · rename_i hstate
    exact .single (.stopped hstate)
  · exact .refl

variable {d} in
theorem loggerArm_changes (e : ArmEnv) (hstate : d.status.state = .idle) :
    Changes d (loggerArm e d) := by
  rw [Changes, loggerArm_status]
  exact .single (.armed hstate)

theorem loggerDisarm_changes (groundSample : Option ℚ) :
    Changes d (loggerDisarm groundSample d).1 := by
  rw [Changes, loggerDisarm_status]
  split
  · rename_i hstate
    exact .single (.disarmed hstate)
  · exact .refl

/-- A tick changes the status by its calls only. -/
theorem loggerExecutive_changes (e : ExecutiveEnv) : Changes d (loggerExecutive e d) := by
  unfold loggerExecutive
  split
  · exact .of_eq rfl
  · simp only
    have htick := d.executiveTick_status d.logger.state
    have hrearm := isActive_of_executiveTick_rearm d d.logger.state
    generalize (d.executiveTick d.logger.state).1 = ticked at htick ⊢
    refine (Changes.of_eq htick).trans ?_
    cases haction : (d.executiveTick d.logger.state).2 with
    | none => exact .of_eq rfl
    | start => exact loggerStart_changes ticked _ e.start
    | jumped => exact loggerJumped_changes ticked e.jumpedNow
    | rearm =>
      -- the session that the tick has seen is stopped, and the logger idle when it is armed
      have hactive : ticked.status.state.isActive = true := by
        rw [htick]
        exact hrearm haction
      have hstop : ticked.status.state.canStop = true := by
        cases hstate : ticked.status.state <;> simp_all [LoggerState.isActive, LoggerState.canStop]
      have hidle : (loggerStop e.stop ticked).1.status.state = .idle := by
        rw [loggerStop_status, if_pos hstop]
      refine (loggerStop_changes ticked e.stop).trans ((loggerArm_changes e.arm hidle).trans ?_)
      exact .single (.slowed _)

theorem loggerBaroHandler_changes (s : BaroReading) (e : StartEnv) :
    Changes d (loggerBaroHandler s e d) := by
  have hupdate : Changes d (baroHandlerUpdate s d).1 := .of_eq (baroHandlerUpdate_status d s)
  unfold loggerBaroHandler
  simp only
  split
  · exact hupdate.trans (loggerStart_changes _ _ e)
  · exact hupdate

end Functions

end TempoBt
