-- SUMMARY: The whole device: BLE requests, buttons, alarm, calibration streaming and deferred work around the logger, each run to completion.
import TempoBt.App.Mcumgr
import TempoBt.Services.Logger.Interleaving
import TempoBt.Services.Logger.Published
import TempoBt.Services.Logger.Status

/-!
# System

The features that use the logger from outside: the BLE requests of
`mcumgr_custom.c`, the buttons and the calibration streaming of `main.c`, the test
alarm of `timebase.c`, the deferred stop of the radio in `ble_mcumgr.c`. An
operation is one activation of one of them, with nothing else going on.
-/

namespace TempoBt

open Errno

/-! ## Logger control over BLE -/

/-- The text of `action`. -/
def controlAction (action : Bytes) : Option ControlAction :=
  if action = ascii "start" then some .start
  else if action = ascii "stop" then some .stop
  else if action = ascii "arm" then some .arm
  else if action = ascii "disarm" then some .disarm
  else none

/-- What an action calls in the state it has read; the value is that of the last call. -/
def controlAct (e : ControlEnv) (d : Device) : ControlAction → Device × Int
  | .start =>
    match d.logger.state with
    | .armed => loggerStart (ascii "ble_commanded_start") e.start d
    -- `logger_arm` always returns 0
    | .idle => loggerStart (ascii "ble_commanded_start") e.start (loggerArm e.arm d)
    | .logging | .jumped | .postflight | .error => (d, -einval)
  | .stop => if d.logger.state = .logging then loggerStop e.stop d else (d, -einval)
  | .arm => if d.logger.state = .idle then (loggerArm e.arm d, 0) else (d, -einval)
  | .disarm =>
    if d.logger.state = .armed then loggerDisarm e.groundSample d else (d, -einval)

/-- The state that the response to a successful action names. -/
def ControlAction.newState : ControlAction → LoggerState
  | .start => .logging
  | .stop => .idle
  | .arm => .armed
  | .disarm => .idle

structure ControlResponse where
  state : LoggerState
  /-- The id and the path of the session, in a response that says LOGGING. -/
  session : Option (UInt32 × Bytes)

/-- `tempo_mgmt_logger_control` -/
def tempoMgmtLoggerControl (request : SmpRequest) (e : ControlEnv) (d : Device) :
    Device × Except MgmtErr ControlResponse :=
  match decodeMap (textField (ascii "action")) request none with
  | none | some none => (d, .error .einval)
  | some (some text) =>
    match controlAction text with
    | none => (d, .error .einval)
    | some action =>
      let r := controlAct e d action
      if r.2 ≠ 0 then (r.1, .error .eunknown)
      else
        -- the radio comes back for the response, and goes off later
        let d := if action = .start then r.1.bleMcumgrRestart.bleMcumgrStopDeferred else r.1
        let info := (loggerGetSessionInfo 256 d).toOption.map fun info => (info.1, info.2.2)
        (d, .ok
          { state := action.newState
            session := if action.newState = .logging then info else none })

/-! ## Test alarm -/

namespace TestAlarm

/-- `test_alarm_set_state` -/
def setState (state : TestAlarmState) (a : TestAlarm) : TestAlarm := { a with state }

/-- `test_alarm_start_jump_countdown` -/
def startJumpCountdown (a : TestAlarm) : TestAlarm := { a with jumpCountdown := a.jumpDelaySec }

/-- `test_alarm_decrement_countdown` -/
def decrementCountdown (a : TestAlarm) : TestAlarm :=
  { a with jumpCountdown := if 0 < a.jumpCountdown then a.jumpCountdown - 1 else a.jumpCountdown }

/-- The alarm after its `logger_start` has returned. -/
def started (ret : Int) (a : TestAlarm) : TestAlarm :=
  if ret ≠ 0 then a.setState .idle
  else if 0 < a.jumpDelaySec then a.startJumpCountdown.setState .waitingJump
  else a.setState .idle

end TestAlarm

def Device.setTestAlarm (testAlarm : TestAlarm) (d : Device) : Device := { d with testAlarm }

@[simp] theorem Device.setTestAlarm_testAlarm (testAlarm : TestAlarm) (d : Device) :
    (d.setTestAlarm testAlarm).testAlarm = testAlarm := rfl

/-- The part of `tempo_mgmt_test_logging` that follows when the request is accepted. -/
def testLoggingScheduled (targetUtcMs : UInt64) (jumpDelaySec : UInt32) (d : Device) : Device :=
  d.setTestAlarm ⟨.waitingStart, targetUtcMs, jumpDelaySec, 0⟩

/-- `test_alarm_work_handler`, with its calls of the logger and what they return. -/
def testAlarmWorkHandler (e : AlarmEnv) (d : Device) : Device × List (LoggerCall × Int) :=
  match d.testAlarm.state with
  | .idle => (d, [])
  | .waitingStart =>
    if e.utcMs = 0 ∨ e.utcMs < d.testAlarm.targetStartUtcMs then (d, [])
    else
      let armed := if d.logger.state = .idle then loggerArm e.arm d else d
      -- `logger_arm` always returns 0
      let armCalls := if d.logger.state = .idle then [(LoggerCall.arm, (0 : Int))] else []
      let r := loggerStart (ascii "test_alarm") e.start armed
      (r.1.setTestAlarm (r.1.testAlarm.started r.2), armCalls ++ [(.start, r.2)])
  | .waitingJump =>
    if e.utcMs = 0 then (d, [])
    else
      let counted := d.setTestAlarm d.testAlarm.decrementCountdown
      if counted.testAlarm.jumpCountdown = 0 then
        -- what `logger_jumped` returns is only logged
        let r := loggerJumped e.jumpedNow counted
        (r.1.setTestAlarm (r.1.testAlarm.setState .idle), [(.jumped, r.2)])
      else (counted, [])

/-! ## Buttons and calibration streaming -/

/-- `mag_cal_streaming`, and whether `mag_cal_stream_work` is scheduled and the USB
commands are active. -/
structure MagCal where
  streaming : Bool
  streamWork : Bool
  commandsActive : Bool

structure System where
  device : Device
  magCal : MagCal

/-- The start of a logging session that button 0 asks for. -/
def button0LongPress (e : StartEnv) (d : Device) : Device :=
  if d.logger.state = .armed then (loggerStart (ascii "manual_start") e d).1 else d

/-- `button1_action_handler` -/
def button1ActionHandler (stop : StopEnv) (start : UsbStartEnv) (d : Device) : Device :=
  if d.logger.state.isActive then (loggerStop stop d).1
  else if d.logger.state.canStart then (loggerStartUsb start d).1
  else d

namespace System

/-- The end of the calibration streaming. -/
def endStreaming (s : System) : System where
  device := s.device.closeTty.bleMcumgrRestart
  magCal := ⟨false, false, false⟩

/-- `mag_cal_disconnect_handler` -/
def magCalDisconnectHandler (s : System) : System :=
  if s.magCal.streaming then s.endStreaming else s

/-- `button1_short_press_handler`. Only a missing host keeps the streaming from
starting, not a terminal that cannot be opened for another reason. -/
def button1ShortPressHandler (magReady : Bool) (dtr : Option Bool) (s : System) : System :=
  if s.magCal.streaming then s.endStreaming
  else if !magReady then s
  else
    let tty := s.device.openTty dtr
    if tty.2 = -enotconn then { s with device := tty.1 }
    else
      { device :=
          (tty.1.registerDisconnectCallback (some .magCalDisconnectHandler)).bleMcumgrStop
        magCal := ⟨true, true, true⟩ }

/-- A short press, which `button1_isr` hands on while streaming or in no session. -/
def button1ShortPress (magReady : Bool) (dtr : Option Bool) (s : System) : System :=
  if s.magCal.streaming || s.device.logger.state.canStart then
    s.button1ShortPressHandler magReady dtr
  else s

/-- `disconnect_work_handler` -/
def disconnectWorkHandler (e : StopEnv) (s : System) : System :=
  match s.device.usbTty.disconnectCb with
  | none => s
  | some .usbDisconnectHandler => { s with device := usbDisconnectHandler e s.device }
  | some .magCalDisconnectHandler => s.magCalDisconnectHandler

/-- `ble_stop_work_handler`, when it is due. -/
def bleStopWorkHandler (s : System) : System :=
  if s.device.bleStopWork then
    { s with device := { s.device with bleStopWork := false }.bleMcumgrStop }
  else s

/-- The system when `main` has initialised and armed the logger. -/
def atBoot (config : LoggerConfig) (usbEnabled : Bool) (version : AppVersion)
    (first second : Option ℚ) (arm : ArmEnv) : System where
  device := loggerArm arm (loggerInit config usbEnabled version first second)
  magCal := ⟨false, false, false⟩

end System

/-! ## Operations -/

inductive SystemOp where
  | control (request : SmpRequest) (e : ControlEnv)
  | testLogging (targetUtcMs : UInt64) (jumpDelaySec : UInt32)
  | alarmTick (e : AlarmEnv)
  | button0Long (e : StartEnv)
  | button1Long (stop : StopEnv) (start : UsbStartEnv)
  | button1Short (magReady : Bool) (dtr : Option Bool)
  | usbDisconnect (e : StopEnv)
  | bleStopWork
  | executive (e : ExecutiveEnv)
  | baroSample (s : BaroReading) (e : StartEnv)
  | groundAltitudeTimer (sample : Option ℚ)
  | accelSample (magnitudeG : ℚ)

/-- What an operation that leaves the streaming alone does to the device. -/
def System.onDevice (f : Device → Device) (s : System) : System := { s with device := f s.device }

def System.step (s : System) : SystemOp → System
  | .control request e => s.onDevice fun d => (tempoMgmtLoggerControl request e d).1
  | .testLogging targetUtcMs jumpDelaySec =>
    s.onDevice (testLoggingScheduled targetUtcMs jumpDelaySec)
  | .alarmTick e => s.onDevice fun d => (testAlarmWorkHandler e d).1
  | .button0Long e => s.onDevice (button0LongPress e)
  | .button1Long stop start => s.onDevice (button1ActionHandler stop start)
  | .button1Short magReady dtr => s.button1ShortPress magReady dtr
  | .usbDisconnect e => s.disconnectWorkHandler e
  | .bleStopWork => s.bleStopWorkHandler
  | .executive e => s.onDevice (loggerExecutive e)
  | .baroSample r e => s.onDevice (loggerBaroHandler r e)
  | .groundAltitudeTimer sample => s.onDevice (Device.groundAltitudeWorkHandler · sample)
  | .accelSample magnitudeG =>
    s.onDevice fun d => { d with accelFilter := accelFilterUpdate magnitudeG d.accelFilter }

/-- The system as a machine without output. -/
def systemStep (s : System) (op : SystemOp) : System × Unit := (s.step op, ())

def ControlEnv.working : ControlEnv := ⟨.working, .working, .working, none⟩

def AlarmEnv.working (utcMs : UInt64) : AlarmEnv := ⟨utcMs, .working, .working, 5500000⟩

/-! ## An operation that no other thread interrupts -/

section Solo

open Threads (Solo)

variable (d : Device) (rest : List Instr)

/-- The caller of `logger_start` gets its return value. -/
theorem solo_loggerStart_caller (reason : Bytes) (e : StartEnv) (caller : StartCaller) :
    Solo exec (d, .critical (.start reason e caller) :: rest)
      ((loggerStart reason e d).1,
        .call (.startReturned caller (loggerStart reason e d).2) :: rest) := by
  apply Solo.cons
  by_cases hret : (loggerStartLocked e d).2 = 0
  · have hneg : ¬ (loggerStartLocked e d).2 ≠ 0 := not_not.mpr hret
    simp only [exec, execCritical, loggerStart, if_neg hneg, afterStart, List.cons_append,
      List.nil_append]
    exact .cons (.cons (.cons (.cons (.cons (.cons .refl)))))
  · simp only [exec, execCritical, loggerStart, if_pos hret, List.cons_append, List.nil_append]
    exact .refl

/-- A start over BLE: the radio comes back for the response to one that succeeds. -/
theorem solo_bleStart (e : StartEnv) :
    Solo exec (d, .critical (.start (ascii "ble_commanded_start") e .bleControl) :: rest)
      (if (loggerStart (ascii "ble_commanded_start") e d).2 ≠ 0 then
          (loggerStart (ascii "ble_commanded_start") e d).1
        else
          (loggerStart (ascii "ble_commanded_start") e d).1.bleMcumgrRestart.bleMcumgrStopDeferred,
        rest) := by
  apply (solo_loggerStart_caller d rest _ e .bleControl).trans
  generalize loggerStart (ascii "ble_commanded_start") e d = r
  apply Solo.cons
  by_cases hret : r.2 = 0
  · rw [if_neg (not_not.mpr hret)]
    simp only [exec, execCall, onStartReturned, if_pos hret, List.map_cons, List.map_nil,
      List.cons_append, List.nil_append]
    exact .cons (.cons .refl)
  · rw [if_pos hret]
    simp only [exec, execCall, onStartReturned, if_neg hret, List.map_nil, List.nil_append]
    exact .refl

variable {d} in
/-- What an understood request does. -/
theorem tempoMgmtLoggerControl_fst {request : SmpRequest} {text : Bytes} {action : ControlAction}
    (hrequest : decodeMap (textField (ascii "action")) request none = some (some text))
    (haction : controlAction text = some action) (e : ControlEnv) :
    (tempoMgmtLoggerControl request e d).1 =
      if (controlAct e d action).2 ≠ 0 then (controlAct e d action).1
      else if action = .start then
        (controlAct e d action).1.bleMcumgrRestart.bleMcumgrStopDeferred
      else (controlAct e d action).1 := by
  rw [tempoMgmtLoggerControl, hrequest]
  simp only [haction]
  split
  · rfl
  · rfl

/-- A request that nobody interrupts is `tempo_mgmt_logger_control`. -/
theorem solo_control {request : SmpRequest} {text : Bytes} {action : ControlAction}
    (hrequest : decodeMap (textField (ascii "action")) request none = some (some text))
    (haction : controlAction text = some action) (e : ControlEnv) :
    Solo exec (d, .caller (.control action e) :: rest)
      ((tempoMgmtLoggerControl request e d).1, rest) := by
  rw [tempoMgmtLoggerControl_fst hrequest haction]
  apply Solo.cons
  simp only [exec, execCaller]
  cases action with
  | start =>
    rw [if_pos rfl]
    cases hstate : d.logger.state with
    | armed =>
      simp only [controlCalls, controlAct, hstate, List.cons_append, List.nil_append]
      exact solo_bleStart d rest e.start
    | idle =>
      simp only [controlCalls, controlAct, hstate, List.cons_append, List.nil_append]
      exact (solo_loggerArm d _ e.arm).trans (solo_bleStart _ rest e.start)
    | logging => simp [controlCalls, controlAct, hstate, einval, Solo.refl]
    | jumped => simp [controlCalls, controlAct, hstate, einval, Solo.refl]
    | postflight => simp [controlCalls, controlAct, hstate, einval, Solo.refl]
    | error => simp [controlCalls, controlAct, hstate, einval, Solo.refl]
  | stop =>
    rw [if_neg (by simp : ControlAction.stop ≠ .start), ite_self, controlAct]
    cases hstate : d.logger.state with
    | logging => exact solo_loggerStop d rest e.stop
    | _ => exact .refl
  | arm =>
    rw [if_neg (by simp : ControlAction.arm ≠ .start), ite_self, controlAct]
    cases hstate : d.logger.state with
    | idle => exact solo_loggerArm d rest e.arm
    | _ => exact .refl
  | disarm =>
    rw [if_neg (by simp : ControlAction.disarm ≠ .start), ite_self, controlAct]
    cases hstate : d.logger.state with
    | armed => exact solo_loggerDisarm d rest e.groundSample
    | _ => exact .refl

theorem testAlarmTick_waitingJump {a : TestAlarm} (ha : a.state = .waitingJump) {e : AlarmEnv}
    (hutc : e.utcMs ≠ 0) :
    testAlarmTick e a =
      (a.decrementCountdown,
        if a.decrementCountdown.jumpCountdown = 0 then
          [.critical (.jumped e.jumpedNow), .call (.setTestAlarm .idle)]
        else []) := by
  simp [testAlarmTick, ha, hutc, TestAlarm.decrementCountdown]

/-- A tick that nobody interrupts is `test_alarm_work_handler`. -/
theorem solo_testAlarm (e : AlarmEnv) :
    Solo exec (d, .caller (.testAlarm e) :: rest) ((testAlarmWorkHandler e d).1, rest) := by
  apply Solo.cons
  simp only [exec, execCaller, testAlarmWorkHandler]
  cases hstate : d.testAlarm.state with
  | idle =>
    simp only [testAlarmTick, hstate]
    exact .refl
  | waitingStart =>
    simp only [testAlarmTick, hstate]
    split
    · exact .refl
    · refine Solo.trans (y := ((if d.logger.state = .idle then loggerArm e.arm d else d),
        .critical (.start (ascii "test_alarm") e.start .testAlarm) :: rest)) ?_ ?_
      · apply Solo.cons
        simp only [exec, execCaller]
        split
        · exact solo_loggerArm d _ e.arm
        · exact .refl
      · apply (solo_loggerStart_caller _ rest _ e.start .testAlarm).trans
        exact .cons .refl
  | waitingJump =>
    by_cases hutc : e.utcMs = 0
    · simp only [testAlarmTick, hstate, if_pos hutc]
      exact .refl
    · rw [testAlarmTick_waitingJump hstate hutc]
      simp only [if_neg hutc]
      generalize hcounted : d.setTestAlarm d.testAlarm.decrementCountdown = counted
      have hcount : counted.testAlarm = d.testAlarm.decrementCountdown := by rw [← hcounted]; rfl
      have hdevice : { d with testAlarm := d.testAlarm.decrementCountdown } = counted := hcounted
      rw [hdevice, hcount]
      split
      · exact (solo_loggerJumped counted _ e.jumpedNow).trans (.cons .refl)
      · exact .refl

theorem solo_button0 (e : StartEnv) :
    Solo exec (d, .caller (.button0 e) :: rest) (button0LongPress e d, rest) := by
  apply Solo.cons
  by_cases harmed : d.logger.state = .armed
  · simp only [exec, execCaller, button0LongPress, if_pos harmed, List.cons_append,
      List.nil_append]
    exact solo_loggerStart d rest _ e
  · simp only [exec, execCaller, button0LongPress, if_neg harmed, List.nil_append]
    exact .refl

theorem solo_button1 (stop : StopEnv) (start : UsbStartEnv) :
    Solo exec (d, .caller (.button1 stop start) :: rest)
      (button1ActionHandler stop start d, rest) := by
  apply Solo.cons
  by_cases hactive : d.logger.state.isActive = true
  · simp only [exec, execCaller, button1ActionHandler, if_pos hactive, List.cons_append,
      List.nil_append]
    exact solo_loggerStop d rest stop
  · by_cases hcan : d.logger.state.canStart = true
    · simp only [exec, execCaller, button1ActionHandler, if_neg hactive, if_pos hcan,
        List.cons_append, List.nil_append]
      exact solo_loggerStartUsb d rest start
    · simp only [exec, execCaller, button1ActionHandler, if_neg hactive, if_neg hcan,
        List.nil_append]
      exact .refl

end Solo

end TempoBt
