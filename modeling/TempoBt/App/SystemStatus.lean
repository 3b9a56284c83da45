-- SUMMARY: What each operation of the system does to the status of the logger and to the calibration streaming.
import TempoBt.App.System

/-!
# Status of the system

The features around the logger change its status by calls of the logger; beside
these the radio, the alarm and the disconnect callback are set by few operations,
which are told apart here.
-/

namespace TempoBt

/-! ## Operations of the logger's users -/

section Functions

variable (d : Device)

theorem controlAct_changes (e : ControlEnv) (action : ControlAction) :
    Changes d (controlAct e d action).1 := by
  cases action with
  | start =>
    rw [controlAct]
    cases hstate : d.logger.state with
    | armed => exact loggerStart_changes d _ e.start
    | idle => exact (loggerArm_changes e.arm hstate).trans (loggerStart_changes _ _ e.start)
    | logging => exact .of_eq rfl
    | jumped => exact .of_eq rfl
    | postflight => exact .of_eq rfl
    | error => exact .of_eq rfl
  | stop =>
    rw [controlAct]
    split
    · exact loggerStop_changes d e.stop
    · exact .of_eq rfl
  | arm =>
    rw [controlAct]
    split
    · rename_i hstate
      exact loggerArm_changes e.arm hstate
    · exact .of_eq rfl
  | disarm =>
    rw [controlAct]
    split
    · exact loggerDisarm_changes d e.groundSample
    · exact .of_eq rfl

/-- A start over BLE that succeeds has made a session. -/
theorem controlAct_start_state {e : ControlEnv} {d : Device}
    (hret : (controlAct e d .start).2 = 0) : (controlAct e d .start).1.status.state = .logging := by
  rw [controlAct] at hret ⊢
  cases hstate : d.logger.state with
  | armed =>
    rw [hstate] at hret
    rw [loggerStart_status, if_pos hret]
  | idle =>
    rw [hstate] at hret
    rw [loggerStart_status, if_pos hret]
  | logging => simp [hstate, Errno.einval] at hret
  | jumped => simp [hstate, Errno.einval] at hret
  | postflight => simp [hstate, Errno.einval] at hret
  | error => simp [hstate, Errno.einval] at hret

/-- A request over BLE does what its action does; after a start the radio is on, and
due to stop. -/
theorem tempoMgmtLoggerControl_cases (request : SmpRequest) (e : ControlEnv) :
    Changes d (tempoMgmtLoggerControl request e d).1 ∨
      ∃ started, Changes d started ∧ started.status.state = .logging ∧
        (tempoMgmtLoggerControl request e d).1.status =
          { started.status with bleRadioActive := true, bleStopWork := true } := by
  unfold tempoMgmtLoggerControl
  split
  · exact .inl (.of_eq rfl)
  · exact .inl (.of_eq rfl)
  · rename_i text _
    split
    · exact .inl (.of_eq rfl)
    · rename_i action _
      simp only
      split
      · exact .inl (controlAct_changes d e action)
      · rename_i hret
        by_cases haction : action = .start
        · subst haction
          exact .inr ⟨_, controlAct_changes d e .start,
            controlAct_start_state (not_not.mp hret), rfl⟩
        · rw [if_neg haction]
          exact .inl (controlAct_changes d e action)

theorem button0LongPress_changes (e : StartEnv) : Changes d (button0LongPress e d) := by
  unfold button0LongPress
  split
  · exact loggerStart_changes d _ e
  · exact .of_eq rfl

theorem button1ActionHandler_changes (stop : StopEnv) (start : UsbStartEnv) :
    Changes d (button1ActionHandler stop start d) := by
  unfold button1ActionHandler
  split
  · exact loggerStop_changes d stop
  · split
    · exact loggerStartUsb_changes d start
    · exact .of_eq rfl

@[simp] theorem Device.setTestAlarm_status (testAlarm : TestAlarm) :
    (d.setTestAlarm testAlarm).status = { d.status with testAlarm } := rfl

/-- A tick of the alarm calls the logger, and else changes the alarm only. -/
theorem testAlarmWorkHandler_changes (e : AlarmEnv) :
    ∃ called, Changes d called ∧ ∃ testAlarm,
      (testAlarmWorkHandler e d).1.status = { called.status with testAlarm } := by
  unfold testAlarmWorkHandler
  cases hstate : d.testAlarm.state with
  | idle => exact ⟨d, .of_eq rfl, d.testAlarm, rfl⟩
  | waitingStart =>
    simp only
    split
    · exact ⟨d, .of_eq rfl, d.testAlarm, rfl⟩
    · refine ⟨(loggerStart (ascii "test_alarm") e.start
        (if d.logger.state = .idle then loggerArm e.arm d else d)).1, ?_, _, rfl⟩
      by_cases hidle : d.logger.state = .idle
      · rw [if_pos hidle]
        exact (loggerArm_changes e.arm hidle).trans (loggerStart_changes _ _ e.start)
      · rw [if_neg hidle]
        exact loggerStart_changes d _ e.start
  | waitingJump =>
    simp only
    split
    · exact ⟨d, .of_eq rfl, d.testAlarm, rfl⟩
    · split
      · -- the call does not see the countdown
        refine ⟨_, loggerJumped_changes d e.jumpedNow,
          (loggerJumped e.jumpedNow
            (d.setTestAlarm d.testAlarm.decrementCountdown)).1.testAlarm.setState .idle, ?_⟩
        rw [Device.setTestAlarm_status, loggerJumped_status, loggerJumped_status]
        by_cases hlogging : d.status.state = .logging
        · rw [if_pos hlogging, if_pos (by exact hlogging)]
          rfl
        · rw [if_neg hlogging, if_neg (by exact hlogging)]
          rfl
      · exact ⟨d, .of_eq rfl, _, rfl⟩

end Functions

/-! ## Operations of the system -/

/-- The operations that write the alarm. -/
def SystemOp.SetsAlarm : SystemOp → Prop
  | .testLogging .. | .alarmTick _ => True
  | .control .. | .button0Long _ | .button1Long .. | .button1Short .. | .usbDisconnect _
  | .bleStopWork | .executive _ | .baroSample .. | .groundAltitudeTimer _ | .accelSample _ => False

namespace System

theorem atBoot_status (config : LoggerConfig) (usbEnabled : Bool) (version : AppVersion)
    (first second : Option ℚ) (arm : ArmEnv) :
    (System.atBoot config usbEnabled version first second arm).device.status =
      { (Device.initial config usbEnabled version).status with state := .armed } := by
  rw [atBoot, loggerArm_status, loggerInit_status]

/-- The operation ends the calibration streaming. -/
def EndsStreaming (s : System) : SystemOp → Prop
  | .button1Short .. => s.magCal.streaming = true
  | .usbDisconnect _ =>
    s.magCal.streaming = true ∧ s.device.status.disconnectCb = some .magCalDisconnectHandler
  | .control .. | .testLogging .. | .alarmTick _ | .button0Long _ | .button1Long .. | .bleStopWork
  | .executive _ | .baroSample .. | .groundAltitudeTimer _ | .accelSample _ => False

/-- What an operation does to the status and to the streaming. -/
inductive StatusChange (s : System) (op : SystemOp) (s' : System) : Prop where
  /-- The logger is called, or nothing happens; the alarm may be set. -/
  | logger (called : Device) (testAlarm : TestAlarm) (hcalled : Changes s.device called)
      (htestAlarm : ¬ op.SetsAlarm → testAlarm = called.status.testAlarm)
      (hstatus : s'.device.status = { called.status with testAlarm })
      (hstreaming : s'.magCal.streaming = s.magCal.streaming)
  | bleStart (started : Device) (hstarted : Changes s.device started)
      (hstate : started.status.state = .logging)
      (hstatus : s'.device.status =
        { started.status with bleRadioActive := true, bleStopWork := true })
      (hstreaming : s'.magCal.streaming = s.magCal.streaming)
  | streamingStarts
      (hstatus : s'.device.status =
        { s.device.status with
          bleRadioActive := false, disconnectCb := some .magCalDisconnectHandler })
      (hstreaming : s'.magCal.streaming = true)
  | streamingEnds (hop : s.EndsStreaming op)
      (hstatus : s'.device.status = { s.device.status with bleRadioActive := true })
      (hstreaming : s'.magCal.streaming = false)
  | radioStops (hop : op = .bleStopWork) (hdue : s.device.status.bleStopWork = true)
      (hstatus : s'.device.status =
        { s.device.status with bleRadioActive := false, bleStopWork := false })
      (hstreaming : s'.magCal.streaming = s.magCal.streaming)

namespace StatusChange

variable {s : System} {op : SystemOp}

/-- An operation that calls the logger on the device. -/
theorem onDevice {f : Device → Device} (h : Changes s.device (f s.device)) :
    StatusChange s op (s.onDevice f) :=
  .logger (f s.device) (f s.device).testAlarm h (fun _ => rfl) rfl rfl

theorem of_eq {s' : System} (hstatus : s'.device.status = s.device.status)
    (hstreaming : s'.magCal.streaming = s.magCal.streaming) : StatusChange s op s' :=
  .logger s.device s.device.testAlarm (.of_eq rfl) (fun _ => rfl) hstatus hstreaming

end StatusChange

theorem button1ShortPress_change (magReady : Bool) (dtr : Option Bool) (s : System) :
    StatusChange s (.button1Short magReady dtr) (s.button1ShortPress magReady dtr) := by
  unfold button1ShortPress button1ShortPressHandler
  split
  · split
    · rename_i hstreaming
      exact .streamingEnds hstreaming rfl rfl
    · split
      · exact .of_eq rfl rfl
      · simp only
        split
        · exact .of_eq (Device.openTty_status s.device dtr) rfl
        · refine .streamingStarts ?_ rfl
          simp
  · exact .of_eq rfl rfl

theorem disconnectWorkHandler_change (e : StopEnv) (s : System) :
    StatusChange s (.usbDisconnect e) (s.disconnectWorkHandler e) := by
  unfold disconnectWorkHandler
  split
  · exact .of_eq rfl rfl
  · exact .onDevice (f := usbDisconnectHandler e) (loggerStop_changes s.device e)
  · rename_i hcallback
    unfold magCalDisconnectHandler
    split
    · rename_i hstreaming
      exact .streamingEnds ⟨hstreaming, hcallback⟩ rfl rfl
    · exact .of_eq rfl rfl

/-- What one operation can do. -/
theorem step_change (s : System) (op : SystemOp) : StatusChange s op (s.step op) := by
  cases op with
  | control request e =>
    rcases tempoMgmtLoggerControl_cases s.device request e with h | ⟨started, h, hstate, hstatus⟩
    · exact .onDevice (f := fun d => (tempoMgmtLoggerControl request e d).1) h
    · exact .bleStart started h hstate hstatus rfl
  | testLogging targetUtcMs jumpDelaySec =>
    exact .logger s.device ⟨.waitingStart, targetUtcMs, jumpDelaySec, 0⟩ (.of_eq rfl)
      (fun hop => absurd trivial hop) rfl rfl
  | alarmTick e =>
    obtain ⟨called, h, testAlarm, hstatus⟩ := testAlarmWorkHandler_changes s.device e
    exact .logger called testAlarm h (fun hop => absurd trivial hop) hstatus rfl
  | button0Long e => exact .onDevice (button0LongPress_changes s.device e)
  | button1Long stop start => exact .onDevice (button1ActionHandler_changes s.device stop start)
  | button1Short magReady dtr => exact button1ShortPress_change magReady dtr s
  | usbDisconnect e => exact disconnectWorkHandler_change e s
  | bleStopWork =>
    rw [step, bleStopWorkHandler]
    split
    · rename_i hdue
      exact .radioStops rfl hdue rfl rfl
    · exact .of_eq rfl rfl
  | executive e => exact .onDevice (loggerExecutive_changes s.device e)
  | baroSample r e => exact .onDevice (loggerBaroHandler_changes s.device r e)
  | groundAltitudeTimer sample =>
    exact .of_eq (Device.groundAltitudeWorkHandler_status s.device sample) rfl
  | accelSample magnitudeG => exact .of_eq rfl rfl

/-- Only a request and the alarm itself write the alarm. -/
theorem step_testAlarm {s : System} {op : SystemOp} (hop : ¬ op.SetsAlarm) :
    (s.step op).device.status.testAlarm = s.device.status.testAlarm := by
  have hkeep {called : Device} (hcalled : Changes s.device called) :
      called.status.testAlarm = s.device.status.testAlarm := by
    refine hcalled.keep (P := fun σ => σ.testAlarm = s.device.status.testAlarm) ?_ rfl
    intro σ σ' hchange hσ
    cases hchange <;> exact hσ
  cases s.step_change op with
  | logger called testAlarm hcalled htestAlarm hstatus hstreaming =>
    rw [hstatus, ← hkeep hcalled]
    exact htestAlarm hop
  | bleStart started hstarted hstate hstatus hstreaming =>
    rw [hstatus]
    exact hkeep hstarted
  | streamingStarts hstatus hstreaming => rw [hstatus]
  | streamingEnds hends hstatus hstreaming => rw [hstatus]
  | radioStops hstop hdue hstatus hstreaming => rw [hstatus]

theorem step_of_endsStreaming {s : System} {op : SystemOp} (h : s.EndsStreaming op) :
    s.step op = s.endStreaming := by
  cases op with
  | button1Short magReady dtr =>
    have hstreaming : s.magCal.streaming = true := h
    simp [step, button1ShortPress, button1ShortPressHandler, hstreaming]
  | usbDisconnect e =>
    obtain ⟨hstreaming, hcallback⟩ := h
    have hcallback : s.device.usbTty.disconnectCb = some .magCalDisconnectHandler := hcallback
    simp [step, disconnectWorkHandler, hcallback, magCalDisconnectHandler, hstreaming]
  | control => exact h.elim
  | testLogging => exact h.elim
  | alarmTick => exact h.elim
  | button0Long => exact h.elim
  | button1Long => exact h.elim
  | bleStopWork => exact h.elim
  | executive => exact h.elim
  | baroSample => exact h.elim
  | groundAltitudeTimer => exact h.elim
  | accelSample => exact h.elim

end System

end TempoBt
