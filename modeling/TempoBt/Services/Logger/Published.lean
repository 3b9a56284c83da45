-- SUMMARY: The calls of the logger that change its state, and the events that each function publishes for them.
import TempoBt.App.Events
import TempoBt.Services.Logger.Overlap
import TempoBt.Services.Logger.Status

/-!
# Published events

A change of the logger's state is told by an event of its own type, by the start or
the stop of a session, or not at all. Here each function is described by the calls
in it that succeed.
-/

namespace TempoBt

/-! ## Calls that change the state -/

/-- The type of an event of the logger. -/
def AppEvent.type : AppEvent → EventType
  | .sessionStart _ => .sessionStart
  | .sessionStop _ => .sessionStop
  | .stateChange .. => .stateChange

/-- A call of the logger. -/
inductive LoggerCall where
  | start
  | startUsb
  | jumped
  | stop
  | arm
  | disarm
  deriving DecidableEq

namespace LoggerCall

def newState : LoggerCall → LoggerState
  | .start | .startUsb => .logging
  | .jumped => .jumped
  | .stop | .disarm => .idle
  | .arm => .armed

/-- The event that the call publishes. -/
def event : LoggerCall → Option EventType
  | .start => some .sessionStart
  | .startUsb => none
  | .stop => some .sessionStop
  | .jumped | .arm | .disarm => some .stateChange

end LoggerCall

/-- The device after `calls`: its state, and what it has published. -/
structure Device.After (d : Device) (calls : List LoggerCall) (d' : Device) : Prop where
  state : d'.logger.state = (calls.map LoggerCall.newState).getLastD d.logger.state
  published :
    d'.published.map AppEvent.type =
      d.published.map AppEvent.type ++ calls.filterMap LoggerCall.event

namespace Device.After

variable {d d' d'' : Device} {calls calls' : List LoggerCall}

theorem of_eq (hstate : d'.logger.state = d.logger.state)
    (hpublished : d'.published = d.published) : d.After [] d' :=
  ⟨by simpa using hstate, by simp [hpublished]⟩

theorem trans (h : d.After calls d') (h' : d'.After calls' d'') :
    d.After (calls ++ calls') d'' where
  state := by
    rw [h'.state, h.state, List.map_append]
    cases hlast : calls' with
    | nil => simp
    | cons => simp [List.getLastD_eq_getLast?, List.getLast?_append]
  published := by rw [h'.published, h.published, List.filterMap_append, List.append_assoc]

/-- What neither changes the state nor publishes may come before. -/
theorem congr_left (h : d'.After calls d'') (hstate : d'.logger.state = d.logger.state)
    (hpublished : d'.published = d.published) : d.After calls d'' :=
  (of_eq hstate hpublished).trans h

end Device.After

/-! ## Calls that publish nothing -/

namespace Device

variable (d : Device)

@[simp] theorem outputLines_published (lines : List Bytes) :
    (d.outputLines lines).published = d.published := by
  induction lines generalizing d with
  | nil => rfl
  | cons line lines ih =>
    have hline : (d.outputLine line).published = d.published := by
      unfold outputLine
      split <;> rfl
    calc ((d.outputLine line).outputLines lines).published
        = (d.outputLine line).published := ih _
      _ = d.published := hline

@[simp] theorem writeStateChange_published (now : UInt64) (oldState newState : LoggerState)
    (trigger : Bytes) :
    (d.writeStateChange now oldState newState trigger).published = d.published :=
  outputLines_published d _

@[simp] theorem configureSession_published (callback : OutputCallback) :
    (d.configureSession callback).published = d.published := by
  rw [configureSession, writeSessionHeader, outputLines_published]
  rfl

@[simp] theorem startAggregator_published (now : UInt64) :
    (d.startAggregator now).1.published = d.published := rfl

@[simp] theorem openFile_published (e : OpenEnv) : (d.openFile e).1.published = d.published := rfl

@[simp] theorem openTty_published (dtr : Option Bool) :
    (d.openTty dtr).1.published = d.published := rfl

@[simp] theorem registerDisconnectCallback_published (callback : Option DisconnectCallback) :
    (d.registerDisconnectCallback callback).published = d.published := rfl

@[simp] theorem closeFile_published (e : CloseEnv) : (d.closeFile e).published = d.published := rfl

@[simp] theorem closeTty_published : d.closeTty.published = d.published := rfl

@[simp] theorem setState_published (state : LoggerState) :
    (d.setState state).published = d.published := rfl

@[simp] theorem setUsbMode_published (usbMode : Bool) :
    (d.setUsbMode usbMode).published = d.published := rfl

@[simp] theorem publish_published (evt : AppEvent) :
    (d.publish evt).published = d.published ++ [evt] := rfl

@[simp] theorem executiveResetCounters_published :
    d.executiveResetCounters.published = d.published := rfl

@[simp] theorem enableAccelFilter_published : d.enableAccelFilter.published = d.published := rfl

@[simp] theorem disableAccelFilter_published : d.disableAccelFilter.published = d.published := rfl

@[simp] theorem stopAggregator_published : d.stopAggregator.published = d.published := rfl

@[simp] theorem bleMcumgrStop_published : d.bleMcumgrStop.published = d.published := rfl

@[simp] theorem bleMcumgrRestart_published : d.bleMcumgrRestart.published = d.published := rfl

@[simp] theorem gnssSetRate_published (rateHz : UInt8) :
    (d.gnssSetRate rateHz).published = d.published := by
  unfold gnssSetRate
  split <;> rfl

@[simp] theorem groundAltitudeWorkHandler_published (sample : Option ℚ) :
    (d.groundAltitudeWorkHandler sample).published = d.published := by
  unfold groundAltitudeWorkHandler
  split <;> rfl

@[simp] theorem startGroundAltitudeSampling_published (sample : Option ℚ) :
    (d.startGroundAltitudeSampling sample).published = d.published :=
  groundAltitudeWorkHandler_published d sample

@[simp] theorem sampleIfIdle_published (sample : Option ℚ) :
    (d.sampleIfIdle sample).published = d.published := by
  unfold sampleIfIdle
  split
  · exact startGroundAltitudeSampling_published d sample
  · rfl

@[simp] theorem closeOutput_published (e : CloseEnv) :
    (d.closeOutput e).published = d.published := by
  unfold closeOutput
  split <;> rfl

@[simp] theorem executiveTick_published (currentState : LoggerState) :
    (d.executiveTick currentState).1.published = d.published := by
  unfold executiveTick
  split
  · rfl
  · cases currentState <;> rfl

end Device

@[simp] theorem takeoffDetection_published (climbRate agl : ℚ) (d : Device) :
    (takeoffDetection climbRate agl d).1.published = d.published := by
  unfold takeoffDetection
  split
  · split <;> rfl
  · rfl

@[simp] theorem baroHandlerUpdate_published (s : BaroReading) (d : Device) :
    (baroHandlerUpdate s d).1.published = d.published := by
  unfold baroHandlerUpdate
  split
  · rfl
  · simp only
    split
    · rfl
    · split
      · rfl
      · rw [takeoffDetection_published]

@[simp] theorem createSessionDirectory_published (e : StartEnv) (d : Device) :
    (createSessionDirectory e d).1.published = d.published := rfl

@[simp] theorem newSession_published (rand : UInt32) (now : UInt64) (d : Device) :
    (d.newSession rand now).published = d.published := rfl

theorem loggerStartLocked_published (e : StartEnv) (d : Device) :
    (loggerStartLocked e d).1.published = d.published := by
  unfold loggerStartLocked
  split
  · rfl
  · simp only
    split
    · simp
    · split
      · simp
      · split <;> simp

theorem loggerStartUsbLocked_published (e : UsbStartEnv) (d : Device) :
    (loggerStartUsbLocked e d).1.published = d.published := by
  unfold loggerStartUsbLocked
  split
  · rfl
  · split
    · rfl
    · simp only
      split
      · simp
      · split <;> simp

/-! ## The functions of the logger -/

section Functions

variable (d : Device)

theorem loggerStart_eq_zero_iff (reason : Bytes) (e : StartEnv) :
    (loggerStart reason e d).2 = 0 ↔ startCommits e d = true := by
  rw [startCommits_iff, loggerStart]
  by_cases hret : (loggerStartLocked e d).2 = 0
  · simp [hret]
  · rw [if_pos hret]

theorem loggerStartUsb_eq_zero_iff (e : UsbStartEnv) :
    (loggerStartUsb e d).2 = 0 ↔ startUsbCommits e d = true := by
  rw [startUsbCommits_iff, loggerStartUsb]
  by_cases hret : (loggerStartUsbLocked e d).2 = 0
  · simp [hret]
  · rw [if_pos hret]

theorem loggerJumped_eq_zero_iff (now : UInt64) :
    (loggerJumped now d).2 = 0 ↔ d.logger.state = .logging := by
  rw [loggerJumped_eq]
  split
  · rename_i hstate
    exact iff_of_true rfl hstate
  · rename_i hstate
    exact iff_of_false (by simp [Errno.einval]) hstate

theorem loggerStart_after (reason : Bytes) (e : StartEnv) :
    d.After (if startCommits e d then [.start] else []) (loggerStart reason e d).1 := by
  have hret := startCommits_iff e d
  have hpublished := loggerStartLocked_published e d
  by_cases hcommits : startCommits e d = true
  · have hzero := hret.mp hcommits
    rw [if_pos hcommits]
    have hstart := (loggerStart_eq_zero_iff d reason e).mpr hcommits
    have hstatus := loggerStart_status d reason e
    rw [if_pos hstart] at hstatus
    refine ⟨congrArg Status.state hstatus, ?_⟩
    simp [loggerStart, hzero, Device.publishSessionStart, hpublished, AppEvent.type,
      LoggerCall.event]
  · have hfail : (loggerStartLocked e d).2 ≠ 0 := fun h => hcommits (hret.mpr h)
    have hstate := congrArg Status.state (loggerStartLocked_status d e)
    rw [if_neg hfail] at hstate
    rw [if_neg hcommits, loggerStart, if_pos hfail]
    exact .of_eq hstate hpublished

theorem loggerStartUsb_after (e : UsbStartEnv) :
    d.After (if startUsbCommits e d then [.startUsb] else []) (loggerStartUsb e d).1 := by
  have hret := startUsbCommits_iff e d
  have hpublished := loggerStartUsbLocked_published e d
  by_cases hcommits : startUsbCommits e d = true
  · have hzero := hret.mp hcommits
    rw [if_pos hcommits]
    have hstart := (loggerStartUsb_eq_zero_iff d e).mpr hcommits
    refine ⟨?_, ?_⟩
    · rcases loggerStartUsb_status d e with ⟨-, -, h⟩ | ⟨hfail, -⟩ | ⟨-, hfail, -⟩
      · exact congrArg Status.state h
      · exact absurd hstart hfail
      · exact absurd hstart hfail
    · simp [loggerStartUsb, hzero, hpublished, LoggerCall.event]
  · have hfail : (loggerStartUsbLocked e d).2 ≠ 0 := fun h => hcommits (hret.mpr h)
    have hret' := fun h => hcommits ((loggerStartUsb_eq_zero_iff d e).mp h)
    rw [if_neg hcommits]
    refine .of_eq ?_ ?_
    · rcases loggerStartUsb_status d e with ⟨-, hzero, -⟩ | ⟨-, h⟩ | ⟨-, -, callback, h⟩
      · exact absurd hzero hret'
      · exact congrArg Status.state h
      · exact congrArg Status.state h
    · rw [loggerStartUsb, if_pos hfail]
      exact hpublished

theorem loggerJumped_after (now : UInt64) :
    d.After (if d.logger.state = .logging then [.jumped] else []) (loggerJumped now d).1 := by
  have hstatus := loggerJumped_status d now
  by_cases hstate : d.logger.state = .logging
  · rw [if_pos (by exact hstate)] at hstatus
    rw [if_pos hstate]
    refine ⟨congrArg Status.state hstatus, ?_⟩
    simp [loggerJumped_eq, hstate, AppEvent.type, LoggerCall.event]
  · rw [if_neg (by exact hstate)] at hstatus
    rw [if_neg hstate]
    refine .of_eq (congrArg Status.state hstatus) ?_
    simp [loggerJumped_eq, hstate]

theorem loggerStop_after (e : StopEnv) :
    d.After (if d.logger.state.canStop then [.stop] else []) (loggerStop e d).1 := by
  have hstatus := loggerStop_status d e
  by_cases hstate : d.logger.state.canStop = true
  · rw [if_pos (by exact hstate)] at hstatus
    rw [if_pos hstate]
    refine ⟨congrArg Status.state hstatus, ?_⟩
    simp [loggerStop_eq, hstate, Device.publishSessionStop, AppEvent.type, LoggerCall.event]
  · rw [if_neg (by exact hstate)] at hstatus
    rw [if_neg hstate]
    refine .of_eq (congrArg Status.state hstatus) ?_
    simp [loggerStop_eq, hstate]

theorem loggerArm_after (e : ArmEnv) : d.After [.arm] (loggerArm e d) where
  state := congrArg Status.state (loggerArm_status d e)
  published := by
    simp [loggerArm, loggerArmLocked, AppEvent.type, LoggerCall.event]

theorem loggerDisarm_after (groundSample : Option ℚ) :
    d.After (if d.logger.state = .armed then [.disarm] else [])
      (loggerDisarm groundSample d).1 := by
  have hstatus := loggerDisarm_status d groundSample
  by_cases hstate : d.logger.state = .armed
  · rw [if_pos (by exact hstate)] at hstatus
    rw [if_pos hstate]
    refine ⟨congrArg Status.state hstatus, ?_⟩
    simp [loggerDisarm_eq, hstate, AppEvent.type, LoggerCall.event]
  · rw [if_neg (by exact hstate)] at hstatus
    rw [if_neg hstate]
    refine .of_eq (congrArg Status.state hstatus) ?_
    simp [loggerDisarm_eq, hstate]

variable {d} in
/-- Whether a start goes through depends on the flags, not on the paths or the counters. -/
theorem startCommits_congr {d' : Device}
    (hstate : d'.logger.state.canStart = d.logger.state.canStart)
    (hrunning : d'.flags.running = d.flags.running) (e : StartEnv) :
    startCommits e d' = startCommits e d := by
  have hrunning : d'.aggregator.running = d.aggregator.running := hrunning
  simp only [startCommits, hstate, hrunning]

/-- The calls of a tick that succeed. -/
def executiveLoggerCalls (e : ExecutiveEnv) : List LoggerCall :=
  if d.logger.usbMode then []
  else
    match (d.executiveTick d.logger.state).2 with
    | .none => []
    | .start => if startCommits e.start d then [.start] else []
    | .jumped => [.jumped]
    | .rearm => [.stop, .arm]

/-- Only a session makes a tick mark a jump. -/
theorem logging_of_executiveTick_jumped {currentState : LoggerState}
    (h : (d.executiveTick currentState).2 = .jumped) : currentState = .logging := by
  have htimeout (climbRate : ℚ) (timeoutS : UInt32) (x : Executive) :
      (lowActivityTimeout climbRate timeoutS x).2 ≠ .jumped := by
    unfold lowActivityTimeout
    split
    · simp only
      split <;> simp
    · simp
  unfold Device.executiveTick at h
  split at h
  · exact absurd h (by simp)
  · cases currentState with
    | armed =>
      simp only [executiveHandleArmedState] at h
      split at h
      · simp only at h
        split at h <;> exact absurd h (by simp)
      · exact absurd h (by simp)
    | logging => rfl
    | jumped => exact absurd h (htimeout _ _ _)
    | idle => exact absurd h (by simp)
    | postflight => exact absurd h (by simp)
    | error => exact absurd h (by simp)

theorem loggerExecutive_after (e : ExecutiveEnv) :
    d.After (executiveLoggerCalls d e) (loggerExecutive e d) := by
  unfold loggerExecutive executiveLoggerCalls
  split
  · exact .of_eq rfl rfl
  · simp only
    have hrearm := isActive_of_executiveTick_rearm d d.logger.state
    have hjumped := @logging_of_executiveTick_jumped d d.logger.state
    have hstate : (d.executiveTick d.logger.state).1.logger.state = d.logger.state :=
      congrArg Flags.state (executiveTick_flags d d.logger.state)
    have hrunning := congrArg Flags.running (executiveTick_flags d d.logger.state)
    have hpublished := d.executiveTick_published d.logger.state
    generalize (d.executiveTick d.logger.state).1 = ticked at hstate hrunning hpublished ⊢
    cases haction : (d.executiveTick d.logger.state).2 with
    | none => exact .of_eq hstate hpublished
    | start =>
      rw [← startCommits_congr (by rw [hstate]) hrunning]
      exact (loggerStart_after ticked _ e.start).congr_left hstate hpublished
    | jumped =>
      have hlogging : ticked.logger.state = .logging := hstate.trans (hjumped haction)
      have hcall := loggerJumped_after ticked e.jumpedNow
      rw [if_pos hlogging] at hcall
      exact hcall.congr_left hstate hpublished
    | rearm =>
      have hstop : ticked.logger.state.canStop = true := by
        have hactive := hrearm haction
        rw [hstate]
        cases hs : d.logger.state <;> simp_all [LoggerState.isActive, LoggerState.canStop]
      have hcall := loggerStop_after ticked e.stop
      rw [if_pos hstop] at hcall
      -- the rate and the counters come last
      have htail : (loggerArm e.arm (loggerStop e.stop ticked).1).After []
          (executiveAct e ticked .rearm) := .of_eq rfl (by simp [executiveAct])
      exact ((hcall.trans (loggerArm_after _ e.arm)).trans htail).congr_left hstate hpublished

theorem loggerBaroHandler_after (s : BaroReading) (e : StartEnv) :
    d.After (if (baroHandlerUpdate s d).2 && startCommits e d then [.start] else [])
      (loggerBaroHandler s e d) := by
  have hstate : (baroHandlerUpdate s d).1.logger.state = d.logger.state :=
    congrArg Flags.state (baroHandlerUpdate_flags d s)
  have hrunning := congrArg Flags.running (baroHandlerUpdate_flags d s)
  have hpublished := baroHandlerUpdate_published s d
  unfold loggerBaroHandler
  cases hstart : (baroHandlerUpdate s d).2 with
  | true =>
    rw [Bool.true_and, ← startCommits_congr (by rw [hstate]) hrunning]
    simp only [hstart, if_true]
    exact (loggerStart_after _ _ e).congr_left hstate hpublished
  | false =>
    simp only [hstart, Bool.false_and, Bool.false_eq_true, if_false]
    exact .of_eq hstate hpublished

end Functions

end TempoBt
