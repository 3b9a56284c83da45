-- SUMMARY: The id, the times and the path that the logger keeps of a session, and that only a start writes them.
import TempoBt.Services.Logger.Status

/-!
# Data of the session

The logger keeps the id, the start time and the directory of its session. They are
written by a start, also by one that fails, and a start is refused while a session
is active.
-/

namespace TempoBt

/-- What the logger knows of its session, and the configuration it makes it from. -/
structure SessionData where
  config : LoggerConfig
  sessionId : UInt32
  sessionStartUs : UInt64
  sessionPath : Bytes

def Device.session (d : Device) : SessionData where
  config := d.logger.config
  sessionId := d.logger.sessionId
  sessionStartUs := d.logger.sessionStartUs
  sessionPath := d.logger.sessionPath

/-- The directory of the session lies below the base path, and `key` leads to it. -/
def SessionData.HasKey (s : SessionData) (key : Bytes) : Prop :=
  s.sessionPath = s.config.basePath ++ ascii "/" ++ key

/-! ## Single calls -/

namespace Device

variable (d : Device)

@[simp] theorem outputLine_session (line : Bytes) : (d.outputLine line).session = d.session := by
  unfold outputLine
  split <;> rfl

@[simp] theorem outputLines_session (lines : List Bytes) :
    (d.outputLines lines).session = d.session := by
  induction lines generalizing d with
  | nil => rfl
  | cons line lines ih =>
    calc ((d.outputLine line).outputLines lines).session
        = (d.outputLine line).session := ih _
      _ = d.session := outputLine_session d line

@[simp] theorem writeSessionHeader_session : d.writeSessionHeader.session = d.session :=
  outputLines_session d _

@[simp] theorem writeStateChange_session (now : UInt64) (oldState newState : LoggerState)
    (trigger : Bytes) : (d.writeStateChange now oldState newState trigger).session = d.session :=
  outputLines_session d _

@[simp] theorem publish_session (evt : AppEvent) : (d.publish evt).session = d.session := rfl

@[simp] theorem publishSessionStart_session : d.publishSessionStart.session = d.session := rfl

@[simp] theorem publishSessionStop_session : d.publishSessionStop.session = d.session := rfl

@[simp] theorem gnssSetRate_session (rateHz : UInt8) :
    (d.gnssSetRate rateHz).session = d.session := by
  unfold gnssSetRate
  split <;> rfl

@[simp] theorem executiveResetCounters_session : d.executiveResetCounters.session = d.session := rfl

@[simp] theorem enableAccelFilter_session : d.enableAccelFilter.session = d.session := rfl

@[simp] theorem disableAccelFilter_session : d.disableAccelFilter.session = d.session := rfl

@[simp] theorem stopAggregator_session : d.stopAggregator.session = d.session := rfl

@[simp] theorem closeFile_session (e : CloseEnv) : (d.closeFile e).session = d.session := rfl

@[simp] theorem closeTty_session : d.closeTty.session = d.session := rfl

@[simp] theorem registerDisconnectCallback_session (callback : Option DisconnectCallback) :
    (d.registerDisconnectCallback callback).session = d.session := rfl

@[simp] theorem setUsbMode_session (usbMode : Bool) : (d.setUsbMode usbMode).session = d.session :=
  rfl

@[simp] theorem setState_session (state : LoggerState) : (d.setState state).session = d.session :=
  rfl

@[simp] theorem bleMcumgrStop_session : d.bleMcumgrStop.session = d.session := rfl

@[simp] theorem bleMcumgrRestart_session : d.bleMcumgrRestart.session = d.session := rfl

@[simp] theorem bleMcumgrStopDeferred_session : d.bleMcumgrStopDeferred.session = d.session := rfl

@[simp] theorem groundAltitudeWorkHandler_session (sample : Option ℚ) :
    (d.groundAltitudeWorkHandler sample).session = d.session := by
  unfold groundAltitudeWorkHandler
  split <;> rfl

@[simp] theorem startGroundAltitudeSampling_session (sample : Option ℚ) :
    (d.startGroundAltitudeSampling sample).session = d.session :=
  groundAltitudeWorkHandler_session d sample

@[simp] theorem openFile_session (e : OpenEnv) : (d.openFile e).1.session = d.session := rfl

@[simp] theorem openTty_session (dtr : Option Bool) : (d.openTty dtr).1.session = d.session := rfl

@[simp] theorem configureSession_session (callback : OutputCallback) :
    (d.configureSession callback).session = d.session := by
  rw [configureSession, writeSessionHeader_session]
  rfl

@[simp] theorem startAggregator_session (now : UInt64) :
    (d.startAggregator now).1.session = d.session := rfl

@[simp] theorem sampleIfIdle_session (sample : Option ℚ) :
    (d.sampleIfIdle sample).session = d.session := by
  unfold sampleIfIdle
  split
  · exact startGroundAltitudeSampling_session d sample
  · rfl

@[simp] theorem closeOutput_session (e : CloseEnv) : (d.closeOutput e).session = d.session := by
  unfold closeOutput
  split <;> rfl

@[simp] theorem executiveTick_session (currentState : LoggerState) :
    (d.executiveTick currentState).1.session = d.session := by
  unfold executiveTick
  split
  · rfl
  · cases currentState <;> rfl

end Device

/-! ## Functions of the logger -/

section Functions

variable (d : Device)

/-- The directory that a start makes is that of a key. -/
theorem createSessionDirectory_hasKey (e : StartEnv) :
    ∃ key, (createSessionDirectory e d).1.session.HasKey key := by
  let now := e.realtime.getD (d.logger.sessionStartUs.toNat / 1000000)
  by_cases hdate : d.logger.config.useDateFolders = true
  · refine ⟨dateFolder now ++ ascii "/" ++
      (if d.logger.config.useUuidNames then hex8 d.logger.sessionId else timeFolder now), ?_⟩
    simp [SessionData.HasKey, Device.session, createSessionDirectory, hdate, now]
  · refine ⟨if d.logger.config.useUuidNames then hex8 d.logger.sessionId else timeFolder now, ?_⟩
    simp [SessionData.HasKey, Device.session, createSessionDirectory, hdate, now]

theorem loggerStartLocked_session (e : StartEnv) :
    (loggerStartLocked e d).1.session =
      if d.status.state.canStart then
        (createSessionDirectory e (d.newSession e.rand e.now)).1.session
      else d.session := by
  rw [show d.status.state = d.logger.state from rfl]
  unfold loggerStartLocked
  by_cases hcan : d.logger.state.canStart = true
  · simp only [hcan, Bool.not_true, Bool.false_eq_true, if_false, if_true]
    rw [if_neg (by simp [createSessionDirectory])]
    split
    · simp
    · split
      · simp
      · simp
  · simp [hcan]

/-- A start writes the data, whether it succeeds or not. -/
theorem loggerStart_session (reason : Bytes) (e : StartEnv) :
    (loggerStart reason e d).1.session =
      if d.status.state.canStart then
        (createSessionDirectory e (d.newSession e.rand e.now)).1.session
      else d.session := by
  rw [← loggerStartLocked_session]
  unfold loggerStart
  simp only
  split
  · rfl
  · simp

theorem loggerStartUsb_session (e : UsbStartEnv) :
    (loggerStartUsb e d).1.session.config = d.session.config ∧
      (d.status.state.canStart = false → (loggerStartUsb e d).1.session = d.session) := by
  have hnew : (d.newSession e.rand e.now).session.config = d.session.config := rfl
  rcases loggerStartUsb_outcomes d e with ⟨-, h⟩ | ⟨hcan, h⟩
  · rw [h]
    exact ⟨rfl, fun _ => rfl⟩
  · refine ⟨?_, fun hrefused => absurd (hcan.symm.trans hrefused) (by decide)⟩
    rcases h with h | ⟨-, h⟩ | ⟨-, h⟩ | h
    all_goals simp [h, hnew]

@[simp] theorem loggerJumped_session (now : UInt64) :
    (loggerJumped now d).1.session = d.session := by
  rw [loggerJumped_eq]
  split
  · simp
  · rfl

@[simp] theorem loggerStop_session (e : StopEnv) : (loggerStop e d).1.session = d.session := by
  rw [loggerStop_eq]
  split
  · simp
  · rfl

@[simp] theorem loggerArm_session (e : ArmEnv) : (loggerArm e d).session = d.session := by
  simp only [loggerArm, loggerArmLocked, Device.publish_session, Device.setState_session,
    Device.startGroundAltitudeSampling_session]
  rfl

@[simp] theorem loggerDisarm_session (groundSample : Option ℚ) :
    (loggerDisarm groundSample d).1.session = d.session := by
  rw [loggerDisarm_eq]
  split
  · simp
  · rfl

@[simp] theorem takeoffDetection_session (climbRate agl : ℚ) :
    (takeoffDetection climbRate agl d).1.session = d.session := by
  unfold takeoffDetection
  split
  · split <;> rfl
  · rfl

@[simp] theorem baroHandlerUpdate_session (s : BaroReading) :
    (baroHandlerUpdate s d).1.session = d.session := by
  unfold baroHandlerUpdate
  split
  · rfl
  · simp only
    split
    · rfl
    · split
      · rfl
      · rw [takeoffDetection_session]
        rfl

end Functions

/-! ## What an operation does to the data -/

/-- From `d` to `d'` a session on the SD card gets its key when it begins, and keeps
its data while it is active. -/
structure PreservesSession (d d' : Device) : Prop where
  config : d'.session.config = d.session.config
  kept : d.status.state.canStart = false → d'.session = d.session
  mode : d.status.state.canStart = false → d'.status.state.canStart = false →
    d'.status.usbMode = d.status.usbMode
  named : d.status.state.canStart = true → d'.status.state.canStart = false →
    d'.status.usbMode = false → ∃ key, d'.session.HasKey key

namespace PreservesSession

variable {d d' d'' : Device}

/-- The data stay, and no session begins. -/
theorem of_eq (hsession : d'.session = d.session)
    (hcan : d.status.state.canStart = true → d'.status.state.canStart = true)
    (hmode : d.status.state.canStart = false → d'.status.state.canStart = false →
      d'.status.usbMode = d.status.usbMode) : PreservesSession d d' where
  config := by rw [hsession]
  kept := fun _ => hsession
  mode := hmode
  named := fun h h' => absurd (hcan h) (by simp [h'])

theorem refl (d : Device) : PreservesSession d d := of_eq rfl id (fun _ _ => rfl)

/-- What comes first concerns neither the data nor the session. -/
theorem after (h : PreservesSession d' d'') (hsession : d'.session = d.session)
    (hcan : d'.status.state.canStart = d.status.state.canStart)
    (hmode : d'.status.usbMode = d.status.usbMode) : PreservesSession d d'' where
  config := by rw [h.config, hsession]
  kept := fun hd => by rw [h.kept (hcan.trans hd), hsession]
  mode := fun hd hd'' => by rw [h.mode (hcan.trans hd) hd'', hmode]
  named := fun hd => h.named (hcan.trans hd)

/-- What comes last concerns neither the data nor the session. -/
theorem before (h : PreservesSession d d') (hsession : d''.session = d'.session)
    (hstate : d''.status.state = d'.status.state) (hmode : d''.status.usbMode = d'.status.usbMode) :
    PreservesSession d d'' where
  config := by rw [hsession, h.config]
  kept := fun hd => by rw [hsession, h.kept hd]
  mode := fun hd hd'' => by rw [hmode, h.mode hd (by rwa [← hstate])]
  named := fun hd hd'' hmode'' => by
    rw [hsession]
    exact h.named hd (by rwa [← hstate]) (by rwa [← hmode])

end PreservesSession

section Functions

variable (d : Device)

theorem loggerStart_preservesSession (reason : Bytes) (e : StartEnv) :
    PreservesSession d (loggerStart reason e d).1 where
  config := by
    rw [loggerStart_session]
    split <;> rfl
  kept := fun hcan => by rw [loggerStart_session, if_neg (by simp [hcan])]
  mode := fun _ _ => by
    rw [loggerStart_status]
    split <;> rfl
  named := fun hcan _ _ => by
    rw [loggerStart_session, if_pos hcan]
    exact createSessionDirectory_hasKey _ e

theorem loggerStartUsb_preservesSession (e : UsbStartEnv) :
    PreservesSession d (loggerStartUsb e d).1 where
  config := (loggerStartUsb_session d e).1
  kept := (loggerStartUsb_session d e).2
  mode := fun hcan _ => by
    rcases loggerStartUsb_status d e with ⟨h, -, -⟩ | ⟨-, h⟩ | ⟨h, -, -⟩
    · simp [h] at hcan
    · rw [h]
    · simp [h] at hcan
  named := fun hcan hactive husb => by
    -- such a session is one over USB
    rcases loggerStartUsb_status d e with ⟨-, -, h⟩ | ⟨-, h⟩ | ⟨-, -, callback, h⟩
    · rw [h] at husb
      exact absurd husb (by simp)
    · rw [h, hcan] at hactive
      exact absurd hactive (by simp)
    · have hactive : d.status.state.canStart = false := by rwa [h] at hactive
      rw [hcan] at hactive
      exact absurd hactive (by simp)

theorem loggerJumped_preservesSession (now : UInt64) :
    PreservesSession d (loggerJumped now d).1 := by
  apply PreservesSession.of_eq (loggerJumped_session d now)
  · intro hcan
    rw [loggerJumped_status, if_neg]
    · exact hcan
    · intro hstate
      simp [hstate, LoggerState.canStart] at hcan
  · intro _ _
    rw [loggerJumped_status]
    split <;> rfl

theorem loggerStop_preservesSession (e : StopEnv) : PreservesSession d (loggerStop e d).1 := by
  apply PreservesSession.of_eq (loggerStop_session d e)
  · intro hcan
    rw [loggerStop_status]
    split
    · rfl
    · exact hcan
  · intro _ hcan
    rw [loggerStop_status] at hcan ⊢
    split at hcan
    · exact absurd hcan (by simp [LoggerState.canStart])
    · rename_i hstop
      rw [if_neg hstop]

theorem loggerArm_preservesSession (e : ArmEnv) : PreservesSession d (loggerArm e d) := by
  apply PreservesSession.of_eq (loggerArm_session d e)
  · intro _
    rw [loggerArm_status]
    rfl
  · intro _ _
    rw [loggerArm_status]

theorem loggerDisarm_preservesSession (groundSample : Option ℚ) :
    PreservesSession d (loggerDisarm groundSample d).1 := by
  apply PreservesSession.of_eq (loggerDisarm_session d groundSample)
  · intro hcan
    rw [loggerDisarm_status]
    split
    · rfl
    · exact hcan
  · intro _ _
    rw [loggerDisarm_status]
    split <;> rfl

/-- A start after an arming in IDLE. -/
theorem loggerStart_loggerArm_preservesSession {d : Device} (hidle : d.status.state = .idle)
    (e : ArmEnv) (reason : Bytes) (e' : StartEnv) :
    PreservesSession d (loggerStart reason e' (loggerArm e d)).1 := by
  apply (loggerStart_preservesSession (loggerArm e d) reason e').after (loggerArm_session d e)
  · rw [loggerArm_status, hidle]
    rfl
  · rw [loggerArm_status]

theorem loggerExecutive_preservesSession (e : ExecutiveEnv) :
    PreservesSession d (loggerExecutive e d) := by
  unfold loggerExecutive
  split
  · exact .refl d
  · simp only
    have hsession := d.executiveTick_session d.logger.state
    have hstatus := d.executiveTick_status d.logger.state
    generalize (d.executiveTick d.logger.state).1 = ticked at hsession hstatus ⊢
    refine (?_ : PreservesSession ticked _).after hsession (by rw [hstatus]) (by rw [hstatus])
    cases (d.executiveTick d.logger.state).2 with
    | none => exact .refl ticked
    | start => exact loggerStart_preservesSession ticked _ e.start
    | jumped => exact loggerJumped_preservesSession ticked e.jumpedNow
    | rearm =>
      apply PreservesSession.of_eq
      · simp [executiveAct]
      · intro _
        simp [executiveAct, LoggerState.canStart]
      · intro _ hcan
        simp [executiveAct, LoggerState.canStart] at hcan

theorem loggerBaroHandler_preservesSession (s : BaroReading) (e : StartEnv) :
    PreservesSession d (loggerBaroHandler s e d) := by
  have hsession := baroHandlerUpdate_session d s
  have hstatus := baroHandlerUpdate_status d s
  unfold loggerBaroHandler
  simp only
  generalize baroHandlerUpdate s d = updated at hsession hstatus ⊢
  refine (?_ : PreservesSession updated.1 _).after hsession (by rw [hstatus]) (by rw [hstatus])
  split
  · exact loggerStart_preservesSession updated.1 _ e
  · exact .refl updated.1

end Functions

end TempoBt
