-- SUMMARY: The logger's functions and their callers as sequences of atomic steps of several threads.
import TempoBt.Lib.Threads
import TempoBt.Services.Logger

/-!
# Interleaved callers

Several threads call the logger: the executive in the main loop, the BLE
handlers, the button handlers, the test alarm, the barometer thread and the USB
work queue. An atomic step is a critical section on the logger's mutex or one
call made outside it. A step may put further steps before the rest of its
thread, which is how branches and the code after a critical section are
reached.
-/

namespace TempoBt

/-! ## Steps -/

/-- Who called `logger_start` and acts on its return value. -/
inductive StartCaller where
  | bleControl
  | testAlarm
  | other
  deriving DecidableEq

/-- The request of the BLE logger control. -/
inductive ControlAction where
  | start
  | stop
  | arm
  | disarm
  deriving DecidableEq

/-- What the calls of one BLE request are answered. -/
structure ControlEnv where
  start : StartEnv
  stop : StopEnv
  arm : ArmEnv
  groundSample : Option ℚ

/-- What the calls of one alarm tick are answered; `utcMs` is 0 without a valid time
correlation. -/
structure AlarmEnv where
  utcMs : UInt64
  arm : ArmEnv
  start : StartEnv
  jumpedNow : UInt64

/-- The critical sections on the logger's mutex. -/
inductive Critical where
  | start (reason : Bytes) (e : StartEnv) (caller : StartCaller)
  | startUsb (e : UsbStartEnv)
  | jumped (now : UInt64)
  | stop (e : StopEnv)
  | arm (e : ArmEnv)
  | disarm (groundSample : Option ℚ)

/-- The calls with which `logger_stop` takes a session down. -/
inductive Teardown where
  | stopAggregator
  /-- The test of `usb_mode`. -/
  | closeOutput (e : CloseEnv)
  | closeTty
  | unregisterDisconnect
  | clearUsbMode
  | getStats
  | closeFile (e : CloseEnv)

/-- The other calls made outside the lock. -/
inductive Call where
  | writeStateChange (now : UInt64) (oldState newState : LoggerState) (trigger : Bytes)
  | publishSessionStart
  | publishSessionStop
  | publish (evt : AppEvent)
  | gnssSetRate (rateHz : UInt8)
  | executiveResetCounters
  | enableAccelFilter
  | disableAccelFilter
  | sampleIfIdle (sample : Option ℚ)
  | startSampling (sample : Option ℚ)
  | bleStop
  | bleRestart
  | bleStopDeferred
  /-- The caller has the return value of `logger_start`. -/
  | startReturned (caller : StartCaller) (ret : Int)
  | sleep
  | setTestAlarm (state : TestAlarmState)
  | groundAltitudeTimer (sample : Option ℚ)

/-- The steps in which a caller decides what to call. -/
inductive Caller where
  /-- The test of `usb_mode` in `logger_executive`. -/
  | executive (e : ExecutiveEnv)
  | executiveReadState (e : ExecutiveEnv)
  | executiveTick (currentState : LoggerState) (e : ExecutiveEnv)
  | control (action : ControlAction) (e : ControlEnv)
  | button0 (e : StartEnv)
  | button1 (stop : StopEnv) (start : UsbStartEnv)
  | testAlarm (e : AlarmEnv)
  | armIfIdle (e : ArmEnv)
  | testLogging (targetUtcMs : UInt64) (jumpDelaySec : UInt32)
  | baroSample (s : BaroReading) (e : StartEnv)

inductive Instr where
  | critical (c : Critical)
  | teardown (s : Teardown)
  | call (c : Call)
  | caller (c : Caller)

/-- `logger_start` after the lock is released. -/
def afterStart (reason : Bytes) (e : StartEnv) (caller : StartCaller) (oldState : LoggerState) :
    List Instr :=
  [.call (.writeStateChange e.stateChangeNow oldState .logging reason), .call .publishSessionStart,
    .call (.gnssSetRate 1), .call .executiveResetCounters, .call .enableAccelFilter,
    .call .bleStop, .call (.startReturned caller 0)]

/-- `logger_start_usb` after the lock is released. -/
def afterStartUsb (e : UsbStartEnv) (oldState : LoggerState) : List Instr :=
  [.call (.writeStateChange e.stateChangeNow oldState .logging (ascii "usb_start")),
    .call (.gnssSetRate 1)]

/-- `logger_jumped` after the lock is released. -/
def afterJumped (now : UInt64) (oldState : LoggerState) : List Instr :=
  [.call .executiveResetCounters, .call (.gnssSetRate 10),
    .call (.writeStateChange now oldState .jumped (ascii "freefall_detected")),
    .call (.publish (.stateChange oldState .jumped))]

/-- `logger_stop` after the lock is released. -/
def afterStop (e : StopEnv) (oldState : LoggerState) : List Instr :=
  [.call .disableAccelFilter,
    .call (.writeStateChange e.now oldState .idle (ascii "manual_stop")),
    .teardown .stopAggregator, .teardown (.closeOutput e.close), .call .publishSessionStop,
    .call (.sampleIfIdle e.groundSample), .call .bleRestart]

/-- `logger_disarm` after the lock is released. -/
def afterDisarm (groundSample : Option ℚ) (oldState : LoggerState) : List Instr :=
  [.call (.startSampling groundSample), .call (.publish (.stateChange oldState .idle))]

/-- A critical section: the device afterwards, the steps that follow, and the value
the function returns. -/
def execCritical (d : Device) : Critical → Device × List Instr × Int
  | .start reason e caller =>
    let r := loggerStartLocked e d
    (r.1,
      if r.2 ≠ 0 then [.call (.startReturned caller r.2)]
      else afterStart reason e caller d.logger.state, r.2)
  | .startUsb e =>
    let r := loggerStartUsbLocked e d
    (r.1, if r.2 ≠ 0 then [] else afterStartUsb e d.logger.state, r.2)
  | .jumped now =>
    let r := loggerJumpedLocked d
    (r.1, if r.2 ≠ 0 then [] else afterJumped now d.logger.state, r.2)
  | .stop e =>
    let r := loggerStopLocked d
    (r.1, if r.2 ≠ 0 then [] else afterStop e d.logger.state, r.2)
  | .arm e => (loggerArmLocked e d, [.call (.publish (.stateChange d.logger.state .armed))], 0)
  | .disarm groundSample =>
    let r := loggerDisarmLocked d
    (r.1, if r.2 ≠ 0 then [] else afterDisarm groundSample d.logger.state, r.2)

/-- The statistics are only printed. -/
def execTeardown (d : Device) : Teardown → Device × List Teardown
  | .stopAggregator => (d.stopAggregator, [])
  | .closeOutput e =>
    -- read without the lock, of whatever session there is by now
    (d, if d.logger.usbMode then [.closeTty, .unregisterDisconnect, .clearUsbMode]
      else [.getStats, .closeFile e])
  | .closeTty => (d.closeTty, [])
  | .unregisterDisconnect => (d.registerDisconnectCallback none, [])
  | .clearUsbMode => (d.setUsbMode false, [])
  | .getStats => (d, [])
  | .closeFile e => (d.closeFile e, [])

/-- What a caller does with the return value of `logger_start`. -/
def onStartReturned (caller : StartCaller) (ret : Int) (d : Device) : Device × List Call :=
  match caller with
  | .bleControl => (d, if ret = 0 then [.bleRestart, .bleStopDeferred] else [])
  | .testAlarm =>
    ({ d with
        testAlarm :=
          if ret ≠ 0 then { d.testAlarm with state := .idle }
          else if 0 < d.testAlarm.jumpDelaySec then
            { d.testAlarm with
              jumpCountdown := d.testAlarm.jumpDelaySec, state := .waitingJump }
          else { d.testAlarm with state := .idle } }, [])
  | .other => (d, [])

def execCall (d : Device) : Call → Device × List Call
  | .writeStateChange now oldState newState trigger =>
    (d.writeStateChange now oldState newState trigger, [])
  | .publishSessionStart => (d.publishSessionStart, [])
  | .publishSessionStop => (d.publishSessionStop, [])
  | .publish evt => (d.publish evt, [])
  | .gnssSetRate rateHz => (d.gnssSetRate rateHz, [])
  | .executiveResetCounters => (d.executiveResetCounters, [])
  | .enableAccelFilter => (d.enableAccelFilter, [])
  | .disableAccelFilter => (d.disableAccelFilter, [])
  | .sampleIfIdle sample => (d.sampleIfIdle sample, [])
  | .startSampling sample => (d.startGroundAltitudeSampling sample, [])
  | .bleStop => (d.bleMcumgrStop, [])
  | .bleRestart => (d.bleMcumgrRestart, [])
  | .bleStopDeferred => (d.bleMcumgrStopDeferred, [])
  | .startReturned caller ret => onStartReturned caller ret d
  | .sleep => (d, [])
  | .setTestAlarm state => ({ d with testAlarm := { d.testAlarm with state } }, [])
  | .groundAltitudeTimer sample => (d.groundAltitudeWorkHandler sample, [])

/-- The calls that a tick of the executive makes. -/
def executiveCalls (e : ExecutiveEnv) : ExecutiveAction → List Instr
  | .none => []
  | .start => [.critical (.start (ascii "takeoff_detected") e.start .other)]
  | .jumped => [.critical (.jumped e.jumpedNow)]
  | .rearm =>
    -- what `logger_stop` and `logger_arm` return is not looked at
    [.critical (.stop e.stop), .call .sleep, .critical (.arm e.arm), .call (.gnssSetRate 1),
      .call .executiveResetCounters]

/-- The calls of `tempo_mgmt_logger_control` in the state it has read. -/
def controlCalls (e : ControlEnv) : ControlAction → LoggerState → List Instr
  | .start, .armed => [.critical (.start (ascii "ble_commanded_start") e.start .bleControl)]
  -- `logger_arm` always returns 0, so the start follows
  | .start, .idle =>
    [.critical (.arm e.arm), .critical (.start (ascii "ble_commanded_start") e.start .bleControl)]
  | .stop, .logging => [.critical (.stop e.stop)]
  | .arm, .idle => [.critical (.arm e.arm)]
  | .disarm, .armed => [.critical (.disarm e.groundSample)]
  | _, _ => []

/-- `test_alarm_work_handler` up to its calls. -/
def testAlarmTick (e : AlarmEnv) (a : TestAlarm) : TestAlarm × List Instr :=
  match a.state with
  | .idle => (a, [])
  | .waitingStart =>
    if e.utcMs = 0 ∨ e.utcMs < a.targetStartUtcMs then (a, [])
    else
      -- the alarm changes its state only when `logger_start` has returned
      (a, [.caller (.armIfIdle e.arm), .critical (.start (ascii "test_alarm") e.start .testAlarm)])
  | .waitingJump =>
    if e.utcMs = 0 then (a, [])
    else
      let remaining := if 0 < a.jumpCountdown then a.jumpCountdown - 1 else a.jumpCountdown
      ({ a with jumpCountdown := remaining },
        if remaining = 0 then [.critical (.jumped e.jumpedNow), .call (.setTestAlarm .idle)]
        else [])

def execCaller (d : Device) : Caller → Device × List Instr
  | .executive e => (d, if d.logger.usbMode then [] else [.caller (.executiveReadState e)])
  | .executiveReadState e => (d, [.caller (.executiveTick d.logger.state e)])
  | .executiveTick currentState e =>
    ((d.executiveTick currentState).1, executiveCalls e (d.executiveTick currentState).2)
  | .control action e => (d, controlCalls e action d.logger.state)
  | .button0 e =>
    (d,
      if d.logger.state = .armed then [.critical (.start (ascii "manual_start") e .other)] else [])
  | .button1 stop start =>
    (d,
      -- the state is read once; the lock is taken later
      if d.logger.state.isActive then [.critical (.stop stop)]
      else if d.logger.state.canStart then [.critical (.startUsb start)] else [])
  | .testAlarm e =>
    ({ d with testAlarm := (testAlarmTick e d.testAlarm).1 }, (testAlarmTick e d.testAlarm).2)
  | .armIfIdle e => (d, if d.logger.state = .idle then [.critical (.arm e)] else [])
  | .testLogging targetUtcMs jumpDelaySec =>
    ({ d with testAlarm := ⟨.waitingStart, targetUtcMs, jumpDelaySec, 0⟩ }, [])
  | .baroSample s e =>
    ((baroHandlerUpdate s d).1,
      if (baroHandlerUpdate s d).2 then [.critical (.start (ascii "takeoff_detected") e .other)]
      else [])

/-- One atomic step: the device afterwards, the steps that follow at once, and the
return value of a logger function where the step decides it. -/
def exec (d : Device) : Instr → Device × List Instr × Option Int
  | .critical c => ((execCritical d c).1, (execCritical d c).2.1, some (execCritical d c).2.2)
  | .teardown s => ((execTeardown d s).1, (execTeardown d s).2.map .teardown, none)
  | .call c => ((execCall d c).1, (execCall d c).2.map .call, none)
  | .caller c => ((execCaller d c).1, (execCaller d c).2, none)

/-! ## Calls -/

/-- The calls that begin and end a session. -/
inductive SessionCall where
  | start (reason : Bytes) (e : StartEnv)
  | startUsb (e : UsbStartEnv)
  | stop (e : StopEnv)

def SessionCall.entry : SessionCall → List Instr
  | .start reason e => [.critical (.start reason e .other)]
  | .startUsb e => [.critical (.startUsb e)]
  | .stop e => [.critical (.stop e)]

/-- The activations of the threads that use the logger. -/
inductive Handler where
  | executive (e : ExecutiveEnv)
  | control (action : ControlAction) (e : ControlEnv)
  | button0 (e : StartEnv)
  | button1 (stop : StopEnv) (start : UsbStartEnv)
  | testAlarm (e : AlarmEnv)
  | testLogging (targetUtcMs : UInt64) (jumpDelaySec : UInt32)
  | baroSample (s : BaroReading) (e : StartEnv)
  | usbDisconnect (e : StopEnv)
  | groundAltitudeTimer (sample : Option ℚ)

def Handler.entry : Handler → List Instr
  | .executive e => [.caller (.executive e)]
  | .control action e => [.caller (.control action e)]
  | .button0 e => [.caller (.button0 e)]
  | .button1 stop start => [.caller (.button1 stop start)]
  | .testAlarm e => [.caller (.testAlarm e)]
  | .testLogging targetUtcMs jumpDelaySec => [.caller (.testLogging targetUtcMs jumpDelaySec)]
  | .baroSample s e => [.caller (.baroSample s e)]
  | .usbDisconnect e => [.critical (.stop e)]
  | .groundAltitudeTimer sample => [.call (.groundAltitudeTimer sample)]

/-- The threads when `main` has initialised and armed the logger: no call is in
progress. -/
def atBoot {ι : Type*} (config : LoggerConfig) (usbEnabled : Bool) (version : AppVersion)
    (first second : Option ℚ) (arm : ArmEnv) : Threads ι Device Instr where
  shared := loggerArm arm (loggerInit config usbEnabled version first second)
  code := fun _ => []

theorem atBoot_flags {ι : Type*} (config : LoggerConfig) (usbEnabled : Bool)
    (version : AppVersion) (first second : Option ℚ) (arm : ArmEnv) :
    (atBoot (ι := ι) config usbEnabled version first second arm).shared.flags =
      { (Device.initial config usbEnabled version).flags with state := .armed } := by
  rw [atBoot, loggerArm_flags, loggerInit_flags]

/-! ## A call that no other thread interrupts -/

section Solo

open Threads (Solo)

variable (d : Device) (rest : List Instr)

theorem solo_closeOutput (e : CloseEnv) :
    Solo exec (d, .teardown (.closeOutput e) :: rest) (d.closeOutput e, rest) := by
  apply Solo.cons
  by_cases husb : d.logger.usbMode = true
  · simp only [exec, execTeardown, Device.closeOutput, if_pos husb, List.map_cons, List.map_nil,
      List.cons_append, List.nil_append]
    exact .cons (.cons (.cons .refl))
  · simp only [exec, execTeardown, Device.closeOutput, if_neg husb, List.map_cons, List.map_nil,
      List.cons_append, List.nil_append]
    exact .cons (.cons .refl)

theorem solo_loggerStart (reason : Bytes) (e : StartEnv) :
    Solo exec (d, .critical (.start reason e .other) :: rest)
      ((loggerStart reason e d).1, rest) := by
  apply Solo.cons
  by_cases hret : (loggerStartLocked e d).2 = 0
  · have hneg : ¬ (loggerStartLocked e d).2 ≠ 0 := not_not.mpr hret
    simp only [exec, execCritical, loggerStart, if_neg hneg, afterStart, List.cons_append,
      List.nil_append]
    exact .cons (.cons (.cons (.cons (.cons (.cons (.cons .refl))))))
  · simp only [exec, execCritical, loggerStart, if_pos hret, List.cons_append, List.nil_append]
    exact .cons .refl

theorem solo_loggerStartUsb (e : UsbStartEnv) :
    Solo exec (d, .critical (.startUsb e) :: rest) ((loggerStartUsb e d).1, rest) := by
  apply Solo.cons
  by_cases hret : (loggerStartUsbLocked e d).2 = 0
  · have hneg : ¬ (loggerStartUsbLocked e d).2 ≠ 0 := not_not.mpr hret
    simp only [exec, execCritical, loggerStartUsb, if_neg hneg, afterStartUsb,
      List.cons_append, List.nil_append]
    exact .cons (.cons .refl)
  · simp only [exec, execCritical, loggerStartUsb, if_pos hret, List.nil_append]
    exact .refl

theorem solo_loggerJumped (now : UInt64) :
    Solo exec (d, .critical (.jumped now) :: rest) ((loggerJumped now d).1, rest) := by
  apply Solo.cons
  by_cases hret : (loggerJumpedLocked d).2 = 0
  · have hneg : ¬ (loggerJumpedLocked d).2 ≠ 0 := not_not.mpr hret
    simp only [exec, execCritical, loggerJumped, if_neg hneg, afterJumped, List.cons_append,
      List.nil_append]
    exact .cons (.cons (.cons (.cons .refl)))
  · simp only [exec, execCritical, loggerJumped, if_pos hret, List.nil_append]
    exact .refl

theorem solo_loggerStop (e : StopEnv) :
    Solo exec (d, .critical (.stop e) :: rest) ((loggerStop e d).1, rest) := by
  apply Solo.cons
  by_cases hret : (loggerStopLocked d).2 = 0
  · have hneg : ¬ (loggerStopLocked d).2 ≠ 0 := not_not.mpr hret
    simp only [exec, execCritical, loggerStop, if_neg hneg, afterStop, List.cons_append,
      List.nil_append]
    apply Solo.cons
    apply Solo.cons
    apply Solo.cons
    apply (solo_closeOutput _ _ e.close).trans
    exact .cons (.cons (.cons .refl))
  · simp only [exec, execCritical, loggerStop, if_pos hret, List.nil_append]
    exact .refl

theorem solo_loggerArm (e : ArmEnv) :
    Solo exec (d, .critical (.arm e) :: rest) (loggerArm e d, rest) :=
  .cons (.cons .refl)

theorem solo_loggerDisarm (groundSample : Option ℚ) :
    Solo exec (d, .critical (.disarm groundSample) :: rest)
      ((loggerDisarm groundSample d).1, rest) := by
  apply Solo.cons
  by_cases hret : (loggerDisarmLocked d).2 = 0
  · have hneg : ¬ (loggerDisarmLocked d).2 ≠ 0 := not_not.mpr hret
    simp only [exec, execCritical, loggerDisarm, if_neg hneg, afterDisarm,
      List.cons_append, List.nil_append]
    exact .cons (.cons .refl)
  · simp only [exec, execCritical, loggerDisarm, if_pos hret, List.nil_append]
    exact .refl

theorem solo_executiveCalls (e : ExecutiveEnv) (action : ExecutiveAction) :
    Solo exec (d, executiveCalls e action ++ rest) (executiveAct e d action, rest) := by
  cases action with
  | none => exact .refl
  | start => exact solo_loggerStart d rest _ e.start
  | jumped => exact solo_loggerJumped d rest e.jumpedNow
  | rearm =>
    apply (solo_loggerStop d _ e.stop).trans
    apply Solo.cons
    apply (solo_loggerArm _ _ e.arm).trans
    exact .cons (.cons .refl)

/-- A tick of the executive that nobody interrupts is `logger_executive`. -/
theorem solo_executive (e : ExecutiveEnv) :
    Solo exec (d, .caller (.executive e) :: rest) (loggerExecutive e d, rest) := by
  apply Solo.cons
  by_cases husb : d.logger.usbMode = true
  · simp only [exec, execCaller, loggerExecutive, if_pos husb, List.nil_append]
    exact .refl
  · simp only [exec, execCaller, loggerExecutive, if_neg husb, List.cons_append, List.nil_append]
    exact .cons (.cons (solo_executiveCalls _ rest e _))

theorem solo_baroSample (s : BaroReading) (e : StartEnv) :
    Solo exec (d, .caller (.baroSample s e) :: rest) (loggerBaroHandler s e d, rest) := by
  apply Solo.cons
  by_cases hstart : (baroHandlerUpdate s d).2 = true
  · simp only [exec, execCaller, loggerBaroHandler, if_pos hstart, List.cons_append,
      List.nil_append]
    exact solo_loggerStart _ rest _ e
  · simp only [exec, execCaller, loggerBaroHandler, if_neg hstart, List.nil_append]
    exact .refl

end Solo

end TempoBt
