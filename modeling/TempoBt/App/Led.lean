-- SUMMARY: The LED's colour, set by the event bus and by the buttons, and the runs in which it is that of the logger's state.
import TempoBt.App.System
import TempoBt.Services.Logger.Published

/-!
# LED

The colour that the application gives the LED. A button sets it for the state at the
end of its action; all other callers leave that to the event thread, which handles an
event only if it is a change of the state or an error. The runs in which the colour
is right are described exactly.
-/

namespace TempoBt

/-! ## The calls of an operation -/

/-- A start that arms first in IDLE. -/
def armedStartCalls (e : StartEnv) (d : Device) : List LoggerCall :=
  (if d.logger.state = .idle then [.arm] else []) ++ (if startCommits e d then [.start] else [])

def controlLoggerCalls (e : ControlEnv) (d : Device) : ControlAction → List LoggerCall
  | .start => armedStartCalls e.start d
  | .stop => if d.logger.state = .logging then [.stop] else []
  | .arm => if d.logger.state = .idle then [.arm] else []
  | .disarm => if d.logger.state = .armed then [.disarm] else []

def alarmLoggerCalls (e : AlarmEnv) (d : Device) : List LoggerCall :=
  match d.testAlarm.state with
  | .idle => []
  | .waitingStart =>
    if e.utcMs = 0 ∨ e.utcMs < d.testAlarm.targetStartUtcMs then []
    else armedStartCalls e.start d
  | .waitingJump =>
    if e.utcMs = 0 then []
    else if d.testAlarm.decrementCountdown.jumpCountdown = 0 then
      if d.logger.state = .logging then [.jumped] else []
    else []

/-- The action of an understood request. -/
def requestedAction (request : SmpRequest) : Option ControlAction :=
  match decodeMap (textField (ascii "action")) request none with
  | some (some text) => controlAction text
  | none | some none => none

/-- The calls of the logger that succeed in an operation, by what the operation finds. -/
def System.loggerCalls (s : System) : SystemOp → List LoggerCall
  | .control request e =>
    (requestedAction request).elim [] (controlLoggerCalls e s.device)
  | .alarmTick e => alarmLoggerCalls e s.device
  | .button0Long e =>
    if s.device.logger.state = .armed ∧ startCommits e s.device then [.start] else []
  | .button1Long _ start =>
    if s.device.logger.state.isActive then [.stop]
    else if startUsbCommits start s.device then [.startUsb]
    else []
  | .usbDisconnect _ =>
    if s.device.usbTty.disconnectCb = some .usbDisconnectHandler ∧ s.device.logger.state.canStop
    then [.stop] else []
  | .executive e => executiveLoggerCalls s.device e
  | .baroSample r e =>
    if (baroHandlerUpdate r s.device).2 && startCommits e s.device then [.start] else []
  | .testLogging .. | .button1Short .. | .bleStopWork | .groundAltitudeTimer _ | .accelSample _ =>
    []

section Calls

variable (d : Device)

variable {d} in
theorem armedStartCalls_refused {e : StartEnv} (h : d.logger.state.canStart = false) :
    armedStartCalls e d = [] := by
  have hidle : d.logger.state ≠ .idle := by
    intro hidle
    rw [hidle] at h
    exact absurd h (by decide)
  simp [armedStartCalls, startCommits, h, hidle]

/-- Arming first leaves it to the medium and the aggregator whether the start goes
through. -/
theorem startCommits_armed (arm : ArmEnv) (e : StartEnv) :
    startCommits e (if d.logger.state = .idle then loggerArm arm d else d) = startCommits e d := by
  by_cases hidle : d.logger.state = .idle
  · rw [if_pos hidle]
    apply startCommits_congr
    · rw [show (loggerArm arm d).logger.state = .armed from
        congrArg Flags.state (loggerArm_flags d arm), hidle]
      rfl
    · rw [loggerArm_flags]
  · rw [if_neg hidle]

theorem armedStart_after (reason : Bytes) (arm : ArmEnv) (e : StartEnv) :
    d.After (armedStartCalls e d)
      (loggerStart reason e (if d.logger.state = .idle then loggerArm arm d else d)).1 := by
  have hcommits := startCommits_armed d arm e
  unfold armedStartCalls
  by_cases hidle : d.logger.state = .idle
  · rw [if_pos hidle] at hcommits
    rw [if_pos hidle, if_pos hidle, ← hcommits]
    exact (loggerArm_after d arm).trans (loggerStart_after _ reason e)
  · rw [if_neg hidle, if_neg hidle]
    exact loggerStart_after d reason e

theorem controlAct_after (e : ControlEnv) (action : ControlAction) :
    d.After (controlLoggerCalls e d action) (controlAct e d action).1 := by
  cases action with
  | start =>
    have hcalls := armedStart_after d (ascii "ble_commanded_start") e.arm e.start
    rw [controlLoggerCalls, controlAct]
    cases hstate : d.logger.state with
    | armed => simpa [hstate] using hcalls
    | idle => simpa [hstate] using hcalls
    | logging =>
      rw [armedStartCalls_refused (by rw [hstate]; rfl)]
      exact .of_eq rfl rfl
    | jumped =>
      rw [armedStartCalls_refused (by rw [hstate]; rfl)]
      exact .of_eq rfl rfl
    | postflight =>
      rw [armedStartCalls_refused (by rw [hstate]; rfl)]
      exact .of_eq rfl rfl
    | error =>
      rw [armedStartCalls_refused (by rw [hstate]; rfl)]
      exact .of_eq rfl rfl
  | stop =>
    rw [controlLoggerCalls, controlAct]
    split
    · rename_i hstate
      have hcalls := loggerStop_after d e.stop
      rwa [if_pos (by rw [hstate]; rfl)] at hcalls
    · exact .of_eq rfl rfl
  | arm =>
    rw [controlLoggerCalls, controlAct]
    split
    · exact loggerArm_after d e.arm
    · exact .of_eq rfl rfl
  | disarm =>
    rw [controlLoggerCalls, controlAct]
    split
    · rename_i hstate
      have hcalls := loggerDisarm_after d e.groundSample
      rwa [if_pos hstate] at hcalls
    · exact .of_eq rfl rfl

theorem tempoMgmtLoggerControl_after (request : SmpRequest) (e : ControlEnv) :
    d.After ((requestedAction request).elim [] (controlLoggerCalls e d))
      (tempoMgmtLoggerControl request e d).1 := by
  unfold tempoMgmtLoggerControl requestedAction
  cases decodeMap (textField (ascii "action")) request none with
  | none => exact .of_eq rfl rfl
  | some text =>
    cases text with
    | none => exact .of_eq rfl rfl
    | some text =>
      simp only
      cases controlAction text with
      | none => exact .of_eq rfl rfl
      | some action =>
        have hcalls := controlAct_after d e action
        simp only [Option.elim_some]
        split
        · exact hcalls
        · -- the radio comes after the call
          simp only
          split
          · exact ⟨hcalls.state, hcalls.published⟩
          · exact hcalls

theorem testAlarmWorkHandler_after (e : AlarmEnv) :
    d.After (alarmLoggerCalls e d) (testAlarmWorkHandler e d).1 := by
  unfold testAlarmWorkHandler alarmLoggerCalls
  cases hstate : d.testAlarm.state with
  | idle => exact .of_eq rfl rfl
  | waitingStart =>
    simp only
    split
    · exact .of_eq rfl rfl
    · have hcalls := armedStart_after d (ascii "test_alarm") e.arm e.start
      exact ⟨hcalls.state, hcalls.published⟩
  | waitingJump =>
    simp only
    split
    · exact .of_eq rfl rfl
    · have hcalls := loggerJumped_after (d.setTestAlarm d.testAlarm.decrementCountdown) e.jumpedNow
      by_cases hcount : d.testAlarm.decrementCountdown.jumpCountdown = 0
      · have hcount' : (d.setTestAlarm
            d.testAlarm.decrementCountdown).testAlarm.jumpCountdown = 0 := hcount
        rw [if_pos hcount, if_pos hcount']
        exact ⟨hcalls.state, hcalls.published⟩
      · have hcount' : ¬ (d.setTestAlarm
            d.testAlarm.decrementCountdown).testAlarm.jumpCountdown = 0 := hcount
        rw [if_neg hcount, if_neg hcount']
        exact .of_eq rfl rfl

end Calls

/-- A short press that does not stream leaves the device but for the terminal. -/
theorem System.button1ShortPress_after {s : System} {magReady : Bool} {dtr : Option Bool}
    (hbefore : s.magCal.streaming = false)
    (hafter : (s.button1ShortPress magReady dtr).magCal.streaming = false) :
    s.device.After [] (s.button1ShortPress magReady dtr).device := by
  unfold button1ShortPress button1ShortPressHandler at hafter ⊢
  split
  · rename_i hpress
    rw [if_neg (by simp [hbefore])]
    split
    · exact .of_eq rfl rfl
    · rename_i hready
      simp only
      split
      · exact .of_eq rfl rfl
      · rename_i htty
        rw [if_pos hpress, if_neg (by simp [hbefore]), if_neg hready] at hafter
        simp only at hafter
        rw [if_neg htty] at hafter
        exact absurd hafter (by simp)
  · exact .of_eq rfl rfl

/-- What an operation leaves, by its calls, as long as nothing is streamed. -/
theorem System.step_after {s : System} {op : SystemOp} (hbefore : s.magCal.streaming = false)
    (hafter : (s.step op).magCal.streaming = false) :
    s.device.After (s.loggerCalls op) (s.step op).device := by
  cases op with
  | control request e => exact tempoMgmtLoggerControl_after s.device request e
  | testLogging targetUtcMs jumpDelaySec => exact .of_eq rfl rfl
  | alarmTick e => exact testAlarmWorkHandler_after s.device e
  | button0Long e =>
    change s.device.After _ (button0LongPress e s.device)
    rw [loggerCalls, button0LongPress]
    by_cases harmed : s.device.logger.state = .armed
    · rw [if_pos harmed]
      simp only [harmed, true_and]
      exact loggerStart_after s.device _ e
    · rw [if_neg harmed, if_neg (fun h => harmed h.1)]
      exact .of_eq rfl rfl
  | button1Long stop start =>
    change s.device.After _ (button1ActionHandler stop start s.device)
    rw [loggerCalls, button1ActionHandler]
    split
    · rename_i hactive
      have hcalls := loggerStop_after s.device stop
      rwa [if_pos (by
        cases hstate : s.device.logger.state <;>
          simp_all [LoggerState.isActive, LoggerState.canStop])] at hcalls
    · by_cases hcan : s.device.logger.state.canStart = true
      · rw [if_pos hcan]
        exact loggerStartUsb_after s.device start
      · rw [if_neg hcan, if_neg (by simp [startUsbCommits, hcan])]
        exact .of_eq rfl rfl
  | button1Short magReady dtr => exact button1ShortPress_after hbefore hafter
  | usbDisconnect e =>
    rw [step, loggerCalls, disconnectWorkHandler]
    cases hcallback : s.device.usbTty.disconnectCb with
    | none => exact .of_eq rfl rfl
    | some callback =>
      cases callback with
      | usbDisconnectHandler =>
        simp only [true_and]
        exact loggerStop_after s.device e
      | magCalDisconnectHandler =>
        simp only [magCalDisconnectHandler, hbefore]
        exact .of_eq rfl rfl
  | bleStopWork =>
    rw [step, bleStopWorkHandler]
    split <;> exact .of_eq rfl rfl
  | executive e => exact loggerExecutive_after s.device e
  | baroSample r e => exact loggerBaroHandler_after s.device r e
  | groundAltitudeTimer sample =>
    exact .of_eq (congrArg Status.state (s.device.groundAltitudeWorkHandler_status sample))
      (s.device.groundAltitudeWorkHandler_published sample)
  | accelSample magnitudeG => exact .of_eq rfl rfl

/-! ## The LED and the event bus -/

structure RgbColor where
  r : UInt8
  g : UInt8
  b : UInt8
  deriving DecidableEq

namespace RgbColor

def black : RgbColor := ⟨0, 0, 0⟩
def red : RgbColor := ⟨255, 0, 0⟩
def green : RgbColor := ⟨0, 255, 0⟩
def blue : RgbColor := ⟨0, 0, 255⟩
def magenta : RgbColor := ⟨255, 0, 255⟩
def orange : RgbColor := ⟨255, 128, 0⟩

end RgbColor

/-- The colour that `update_led_for_state` gives the LED. -/
def updateLedForState : LoggerState → RgbColor
  | .idle => .blue
  | .armed => .black
  | .logging => .green
  | .jumped => .orange
  | .postflight | .error => .red

/-- The mask with which the LED subscribes to the event bus. -/
def ledEventMask : EventType → Bool
  | .stateChange | .storageError | .sensorError => true
  | _ => false

/-- `led_event_handler`, in the state of the moment. -/
def ledEventHandler (event : EventType) (state : LoggerState) (color : RgbColor) : RgbColor :=
  match event with
  | .stateChange => updateLedForState state
  | .storageError | .sensorError => .red
  | _ => color

/-- `EVENT_QUEUE_SIZE` -/
def eventQueueSize : Nat := 16

/-- `event_bus_publish`: an event that finds no room is dropped. -/
def eventBusPublish (queue : List EventType) (event : EventType) : List EventType :=
  if queue.length < eventQueueSize then queue ++ [event] else queue

structure LedSystem where
  system : System
  /-- `led_state.app_color` -/
  appColor : RgbColor
  eventQueue : List EventType

/-- The operations of the system, the events of the radio, and one turn of the event
thread. -/
inductive LedOp where
  | operation (op : SystemOp)
  | bleConnected
  | bleDisconnected
  | eventThread

/-- The operations that set the LED themselves. -/
def SystemOp.showsState : SystemOp → Bool
  | .button0Long _ | .button1Long .. => true
  | .control .. | .testLogging .. | .alarmTick _ | .button1Short .. | .usbDisconnect _
  | .bleStopWork | .executive _ | .baroSample .. | .groundAltitudeTimer _ | .accelSample _ => false

namespace LedSystem

def state (s : LedSystem) : LoggerState := s.system.device.logger.state

/-- The colour that an operation's own handler leaves. -/
def colorAfter (s : LedSystem) (op : SystemOp) : RgbColor :=
  let d := s.system.device
  let s' := s.system.step op
  match op with
  | .button0Long e =>
    if d.logger.state = .armed ∧ (loggerStart (ascii "manual_start") e d).2 = 0 then
      updateLedForState s'.device.logger.state
    else s.appColor
  | .button1Long _ start =>
    if d.logger.state.isActive ∨ d.logger.state.canStart ∧ (loggerStartUsb start d).2 = 0 then
      updateLedForState s'.device.logger.state
    else s.appColor
  | .button1Short .. =>
    if s.system.magCal.streaming then updateLedForState s'.device.logger.state
    else if s'.magCal.streaming then .magenta
    else s.appColor
  | .usbDisconnect _ =>
    if d.usbTty.disconnectCb = some .magCalDisconnectHandler ∧ s.system.magCal.streaming then
      updateLedForState s'.device.logger.state
    else s.appColor
  | .control .. | .testLogging .. | .alarmTick _ | .bleStopWork | .executive _ | .baroSample ..
  | .groundAltitudeTimer _ | .accelSample _ => s.appColor

/-- The types of the events that an operation publishes. -/
def events (s : LedSystem) (op : SystemOp) : List EventType :=
  ((s.system.step op).device.published.drop s.system.device.published.length).map AppEvent.type

/-- One turn of the loop of `event_thread_func`, when an event is queued. -/
def eventThread (s : LedSystem) : LedSystem :=
  match s.eventQueue with
  | [] => s
  | event :: rest =>
    { s with
      appColor :=
        if ledEventMask event then ledEventHandler event s.state s.appColor else s.appColor
      eventQueue := rest }

def step (s : LedSystem) : LedOp → LedSystem
  | .operation op =>
    { system := s.system.step op
      appColor := s.colorAfter op
      eventQueue := (s.events op).foldl eventBusPublish s.eventQueue }
  | .bleConnected => { s with eventQueue := eventBusPublish s.eventQueue .bleConnected }
  | .bleDisconnected => { s with eventQueue := eventBusPublish s.eventQueue .bleDisconnected }
  | .eventThread => s.eventThread

/-- The event thread has handled all that is queued. -/
def drained (s : LedSystem) : LedSystem := eventThread^[s.eventQueue.length] s

/-- With the queue drained, the LED has the colour of the state. -/
def ShowsState (s : LedSystem) : Prop := s.drained.appColor = updateLedForState s.drained.state

/-- The system when `main` has armed the logger and set the LED for it; the event of the
arming is queued. -/
def atBoot (config : LoggerConfig) (usbEnabled : Bool) (version : AppVersion)
    (first second : Option ℚ) (arm : ArmEnv) : LedSystem where
  system := .atBoot config usbEnabled version first second arm
  appColor := updateLedForState .armed
  eventQueue := [.stateChange]

end LedSystem

/-- The system with its LED as a machine without output. -/
def ledStep (s : LedSystem) (op : LedOp) : LedSystem × Unit := (s.step op, ())

/-! ## What a drained queue leaves -/

/-- No error is among the events. -/
def NoErrors (queue : List EventType) : Prop :=
  ∀ event ∈ queue, event ≠ .storageError ∧ event ≠ .sensorError

/-- Events that are published one after the other fill the queue. -/
theorem foldl_eventBusPublish (queue events : List EventType) :
    events.foldl eventBusPublish queue =
      queue ++ events.take (eventQueueSize - queue.length) := by
  induction events generalizing queue with
  | nil => simp
  | cons event events ih =>
    rw [List.foldl_cons, ih, eventBusPublish]
    split
    · rename_i hroom
      obtain ⟨room, hroom⟩ : ∃ room, eventQueueSize - queue.length = room + 1 :=
        ⟨eventQueueSize - queue.length - 1, by omega⟩
      have hrest : eventQueueSize - (queue ++ [event]).length = room := by
        rw [List.length_append, List.length_singleton]
        omega
      rw [hroom, hrest, List.take_succ_cons, List.append_assoc, List.singleton_append]
    · rename_i hfull
      have hroom : eventQueueSize - queue.length = 0 := by omega
      rw [hroom, List.take_zero, List.take_zero]

theorem LoggerCall.event_noErrors (calls : List LoggerCall) :
    NoErrors (calls.filterMap LoggerCall.event) := by
  intro event hevent
  obtain ⟨call, -, hcall⟩ := List.mem_filterMap.mp hevent
  cases call <;> cases hcall <;> decide

namespace LedSystem

/-- Without errors, only a change of the state matters to the LED, whenever it is
handled. -/
theorem drained_eq (s : LedSystem) (hqueue : NoErrors s.eventQueue) :
    s.drained =
      { s with
        appColor := if .stateChange ∈ s.eventQueue then updateLedForState s.state else s.appColor
        eventQueue := [] } := by
  obtain ⟨system, color, queue⟩ := s
  induction queue generalizing color with
  | nil => rfl
  | cons event rest ih =>
    have hrest : NoErrors rest := fun e he => hqueue e (List.mem_cons_of_mem event he)
    have hturn : drained ⟨system, color, event :: rest⟩ =
        drained (eventThread ⟨system, color, event :: rest⟩) := by
      rw [drained, List.length_cons, Function.iterate_succ_apply]
      rfl
    rw [hturn, eventThread, ih _ hrest]
    by_cases hchange : event = .stateChange
    · simp [hchange, ledEventMask, ledEventHandler, state]
    · have hcolor : (if ledEventMask event then
          ledEventHandler event system.device.logger.state color else color) = color := by
        obtain ⟨hstorage, hsensor⟩ := hqueue event List.mem_cons_self
        cases event <;> simp_all [ledEventMask]
      have hmem : EventType.stateChange ∈ event :: rest ↔ EventType.stateChange ∈ rest := by
        simp [Ne.symm hchange]
      simp only [state, hcolor, hmem]

theorem showsState_iff {s : LedSystem} (hqueue : NoErrors s.eventQueue) :
    s.ShowsState ↔ .stateChange ∈ s.eventQueue ∨ s.appColor = updateLedForState s.state := by
  rw [ShowsState, s.drained_eq hqueue]
  change (if .stateChange ∈ s.eventQueue then updateLedForState s.state else s.appColor) =
    updateLedForState s.state ↔ _
  split
  · rename_i hmem
    simp [hmem]
  · rename_i hmem
    simp [hmem]

/-- A turn of the event thread does not change what the drained queue leaves. -/
theorem eventThread_showsState (s : LedSystem) : s.eventThread.ShowsState ↔ s.ShowsState := by
  obtain ⟨system, color, queue⟩ := s
  cases queue with
  | nil => exact Iff.rfl
  | cons event rest =>
    have hturn : drained ⟨system, color, event :: rest⟩ =
        drained (eventThread ⟨system, color, event :: rest⟩) := by
      rw [drained, List.length_cons, Function.iterate_succ_apply]
      rfl
    rw [ShowsState, ShowsState, hturn]

end LedSystem

/-! ## One operation -/

/-- Calls that change the colour of the state, or no calls. -/
def ChangesColor (state : LoggerState) (calls : List LoggerCall) : Prop :=
  calls ≠ [] →
    updateLedForState ((calls.map LoggerCall.newState).getLastD state) ≠ updateLedForState state

instance (state : LoggerState) (calls : List LoggerCall) : Decidable (ChangesColor state calls) :=
  inferInstanceAs (Decidable (_ → _))

theorem ChangesColor.nil (state : LoggerState) : ChangesColor state [] := fun h => absurd rfl h

section ChangesColor

variable (d : Device)

variable {d} in
theorem canStart_of_startCommits {e : StartEnv} (h : startCommits e d = true) :
    d.logger.state.canStart = true := by
  unfold startCommits at h
  simp only [Bool.and_eq_true] at h
  exact h.1.1

theorem start_changesColor (e : StartEnv) :
    ChangesColor d.logger.state (if startCommits e d then [.start] else []) := by
  split
  · rename_i hcommits
    have hcan := canStart_of_startCommits hcommits
    revert hcan
    cases d.logger.state <;> decide
  · exact .nil _

theorem armedStartCalls_changesColor (e : StartEnv) :
    ChangesColor d.logger.state (armedStartCalls e d) := by
  have hcan : startCommits e d = true → d.logger.state.canStart = true := canStart_of_startCommits
  unfold armedStartCalls
  revert hcan
  cases d.logger.state <;> cases startCommits e d <;> decide

theorem controlLoggerCalls_changesColor (e : ControlEnv) (action : ControlAction) :
    ChangesColor d.logger.state (controlLoggerCalls e d action) := by
  cases action with
  | start => exact armedStartCalls_changesColor d e.start
  | stop =>
    simp only [controlLoggerCalls]
    cases d.logger.state <;> decide
  | arm =>
    simp only [controlLoggerCalls]
    cases d.logger.state <;> decide
  | disarm =>
    simp only [controlLoggerCalls]
    cases d.logger.state <;> decide

theorem alarmLoggerCalls_changesColor (e : AlarmEnv) :
    ChangesColor d.logger.state (alarmLoggerCalls e d) := by
  unfold alarmLoggerCalls
  split
  · exact .nil _
  · split
    · exact .nil _
    · exact armedStartCalls_changesColor d e.start
  · split
    · exact .nil _
    · split
      · cases d.logger.state <;> decide
      · exact .nil _

theorem executiveLoggerCalls_changesColor (e : ExecutiveEnv) :
    ChangesColor d.logger.state (executiveLoggerCalls d e) := by
  unfold executiveLoggerCalls
  split
  · exact .nil _
  · have hrearm := isActive_of_executiveTick_rearm d d.logger.state
    have hjumped := @logging_of_executiveTick_jumped d d.logger.state
    cases haction : (d.executiveTick d.logger.state).2 with
    | none => exact .nil _
    | start => exact start_changesColor d e.start
    | jumped =>
      change ChangesColor d.logger.state [.jumped]
      rw [hjumped haction]
      decide
    | rearm =>
      change ChangesColor d.logger.state [.stop, .arm]
      have hactive := hrearm haction
      revert hactive
      cases d.logger.state <;> decide

/-- A change of the state that no button makes is a change of the colour. -/
theorem System.loggerCalls_changesColor {s : System} {op : SystemOp}
    (hop : op.showsState = false) : ChangesColor s.device.logger.state (s.loggerCalls op) := by
  cases op with
  | control request e =>
    rw [loggerCalls]
    cases requestedAction request with
    | none => exact .nil _
    | some action => exact controlLoggerCalls_changesColor s.device e action
  | alarmTick e => exact alarmLoggerCalls_changesColor s.device e
  | usbDisconnect e =>
    rw [loggerCalls]
    split
    · rename_i hstop
      obtain ⟨-, hstop⟩ := hstop
      revert hstop
      cases s.device.logger.state <;> decide
    · exact .nil _
  | executive e => exact executiveLoggerCalls_changesColor s.device e
  | baroSample r e =>
    rw [loggerCalls]
    cases (baroHandlerUpdate r s.device).2 with
    | true => exact start_changesColor s.device e
    | false => exact .nil _
  | button0Long => exact absurd hop (by simp [SystemOp.showsState])
  | button1Long => exact absurd hop (by simp [SystemOp.showsState])
  | testLogging => exact .nil _
  | button1Short => exact .nil _
  | bleStopWork => exact .nil _
  | groundAltitudeTimer => exact .nil _
  | accelSample => exact .nil _

end ChangesColor

namespace LedSystem

section Operation

variable {s : LedSystem} {op : SystemOp}

theorem events_eq (hbefore : s.system.magCal.streaming = false)
    (hafter : (s.system.step op).magCal.streaming = false) :
    s.events op = (s.system.loggerCalls op).filterMap LoggerCall.event := by
  have hpublished := (System.step_after hbefore hafter).published
  rw [events, List.map_drop, hpublished]
  simp

/-- A button's own handler sets the colour when it has called the logger with success. -/
theorem colorAfter_eq (hbefore : s.system.magCal.streaming = false)
    (hafter : (s.system.step op).magCal.streaming = false) :
    s.colorAfter op =
      if op.showsState ∧ s.system.loggerCalls op ≠ [] then
        updateLedForState (s.system.step op).device.logger.state
      else s.appColor := by
  cases op with
  | button0Long e =>
    have hret := loggerStart_eq_zero_iff s.system.device (ascii "manual_start") e
    simp only [colorAfter, hret, SystemOp.showsState, System.loggerCalls, true_and]
    congr 1
    split <;> simp_all
  | button1Long stop start =>
    have hret := loggerStartUsb_eq_zero_iff s.system.device start
    have hcan : startUsbCommits start s.system.device = true →
        s.system.device.logger.state.canStart = true := by
      unfold startUsbCommits
      simp only [Bool.and_eq_true]
      exact fun h => h.1.1.1
    simp only [colorAfter, hret, SystemOp.showsState, System.loggerCalls, true_and,
      and_iff_right_of_imp hcan]
    congr 1
    split
    · simp_all
    · split <;> simp_all
  | button1Short magReady dtr =>
    simp [colorAfter, hbefore, hafter, SystemOp.showsState]
  | usbDisconnect e => simp [colorAfter, hbefore, SystemOp.showsState]
  | control => rfl
  | testLogging => rfl
  | alarmTick => rfl
  | bleStopWork => rfl
  | executive => rfl
  | baroSample => rfl
  | groundAltitudeTimer => rfl
  | accelSample => rfl

theorem events_noErrors (hbefore : s.system.magCal.streaming = false)
    (hafter : (s.system.step op).magCal.streaming = false) : NoErrors (s.events op) := by
  rw [events_eq hbefore hafter]
  exact LoggerCall.event_noErrors _

theorem state_step (hbefore : s.system.magCal.streaming = false)
    (hafter : (s.system.step op).magCal.streaming = false) :
    (s.step (.operation op)).state =
      ((s.system.loggerCalls op).map LoggerCall.newState).getLastD s.state :=
  (System.step_after hbefore hafter).state

end Operation

/-- An operation that changes the state sets the LED itself, or finds a change of the
state in the queue, or publishes one for which there is room. -/
def Announces (s : LedSystem) : LedOp → Prop
  | .operation op =>
    s.system.loggerCalls op = [] ∨ op.showsState = true ∨ .stateChange ∈ s.eventQueue ∨
      .stateChange ∈ ((s.system.loggerCalls op).filterMap LoggerCall.event).take
        (eventQueueSize - s.eventQueue.length)
  | .bleConnected | .bleDisconnected | .eventThread => True

theorem noErrors_eventBusPublish {queue : List EventType} {event : EventType}
    (hqueue : NoErrors queue) (hevent : event ≠ .storageError ∧ event ≠ .sensorError) :
    NoErrors (eventBusPublish queue event) := by
  unfold eventBusPublish
  split
  · intro e he
    rcases List.mem_append.mp he with he | he
    · exact hqueue e he
    · rw [List.mem_singleton.mp he]
      exact hevent
  · exact hqueue

theorem mem_eventBusPublish {queue : List EventType} {event : EventType} (new : EventType)
    (hmem : event ∈ queue) : event ∈ eventBusPublish queue new := by
  unfold eventBusPublish
  split
  · exact List.mem_append_left _ hmem
  · exact hmem

/-- What each state of a run without errors and without streaming satisfies. -/
structure Quiet (s : LedSystem) : Prop where
  noErrors : NoErrors s.eventQueue
  streaming : s.system.magCal.streaming = false

theorem Quiet.step {s : LedSystem} {op : LedOp} (h : s.Quiet)
    (hafter : (s.step op).system.magCal.streaming = false) : (s.step op).Quiet := by
  refine ⟨?_, hafter⟩
  cases op with
  | operation op =>
    change NoErrors ((s.events op).foldl eventBusPublish s.eventQueue)
    rw [foldl_eventBusPublish]
    intro event hevent
    rcases List.mem_append.mp hevent with hevent | hevent
    · exact h.noErrors event hevent
    · exact events_noErrors h.streaming hafter event (List.mem_of_mem_take hevent)
  | bleConnected => exact noErrors_eventBusPublish h.noErrors (by decide)
  | bleDisconnected => exact noErrors_eventBusPublish h.noErrors (by decide)
  | eventThread =>
    obtain ⟨system, color, queue⟩ := s
    cases queue with
    | nil => exact h.noErrors
    | cons event rest => exact fun e he => h.noErrors e (List.mem_cons_of_mem event he)

/-- An operation keeps the LED right exactly when it announces its change. -/
theorem operation_showsState_iff {s : LedSystem} {op : SystemOp} (h : s.Quiet)
    (hafter : (s.system.step op).magCal.streaming = false) (hshows : s.ShowsState) :
    (s.step (.operation op)).ShowsState ↔ s.Announces (.operation op) := by
  have hquiet : (s.step (.operation op)).Quiet := h.step hafter
  rw [showsState_iff hquiet.noErrors]
  rw [showsState_iff h.noErrors] at hshows
  have hqueue : (s.step (.operation op)).eventQueue =
      s.eventQueue ++ ((s.system.loggerCalls op).filterMap LoggerCall.event).take
        (eventQueueSize - s.eventQueue.length) := by
    rw [← events_eq h.streaming hafter]
    exact foldl_eventBusPublish _ _
  have hcolor : (s.step (.operation op)).appColor = _ := colorAfter_eq h.streaming hafter
  have hstate := state_step h.streaming hafter
  rw [Announces, hqueue, hcolor, List.mem_append]
  by_cases hcalls : s.system.loggerCalls op = []
  · rw [hcalls] at hstate
    simp only [hcalls, ne_eq, not_true_eq_false, and_false, if_false, List.filterMap_nil,
      List.take_nil, List.not_mem_nil, or_false, true_or, iff_true]
    rw [hstate]
    exact hshows
  · cases hop : op.showsState with
    | true =>
      simp only [hcalls, ne_eq, not_false_eq_true, and_true, if_true, true_or, or_true, iff_true]
      exact .inr rfl
    | false =>
      have hne := System.loggerCalls_changesColor hop hcalls
      simp only [hcalls, Bool.false_eq_true, false_and, if_false, false_or]
      rw [hstate]
      constructor
      · rintro ((hmem | hmem) | hcolor)
        · exact .inl hmem
        · exact .inr hmem
        · rcases hshows with hmem | hbefore
          · exact .inl hmem
          · exact absurd (hcolor.symm.trans hbefore) hne
      · rintro (hmem | hmem)
        · exact .inl (.inl hmem)
        · exact .inl (.inr hmem)

theorem step_showsState_iff {s : LedSystem} {op : LedOp} (h : s.Quiet)
    (hafter : (s.step op).system.magCal.streaming = false) (hshows : s.ShowsState) :
    (s.step op).ShowsState ↔ s.Announces op := by
  cases op with
  | operation op => exact operation_showsState_iff h hafter hshows
  | bleConnected =>
    refine iff_of_true ?_ trivial
    have hquiet : (s.step .bleConnected).Quiet := h.step hafter
    rw [showsState_iff hquiet.noErrors]
    rw [showsState_iff h.noErrors] at hshows
    exact hshows.imp_left (mem_eventBusPublish _)
  | bleDisconnected =>
    refine iff_of_true ?_ trivial
    have hquiet : (s.step .bleDisconnected).Quiet := h.step hafter
    rw [showsState_iff hquiet.noErrors]
    rw [showsState_iff h.noErrors] at hshows
    exact hshows.imp_left (mem_eventBusPublish _)
  | eventThread => exact iff_of_true ((eventThread_showsState s).mpr hshows) trivial

end LedSystem

section AtBoot

variable (config : LoggerConfig) (usbEnabled : Bool) (version : AppVersion)
  (first second : Option ℚ) (arm : ArmEnv)

/-- **The drained event queue leaves the LED with the colour of the state** in exactly
the runs in which every change of the state is made by a button, finds another one still
queued, or publishes a change of the state that the queue has room for. -/
theorem led_showsState_iff (ops : List LedOp)
    (hstreaming : Machine.Always ledStep (fun s => s.system.magCal.streaming = false)
      (LedSystem.atBoot config usbEnabled version first second arm) ops) :
    Machine.Always ledStep LedSystem.ShowsState
        (LedSystem.atBoot config usbEnabled version first second arm) ops ↔
      Machine.Guarded ledStep LedSystem.Announces
        (LedSystem.atBoot config usbEnabled version first second arm) ops := by
  have hquiet : (LedSystem.atBoot config usbEnabled version first second arm).Quiet :=
    ⟨by simp [NoErrors, LedSystem.atBoot], rfl⟩
  have hshows : (LedSystem.atBoot config usbEnabled version first second arm).ShowsState :=
    (LedSystem.showsState_iff hquiet.noErrors).mpr (.inl List.mem_cons_self)
  have halong := Machine.along_iff_guarded_of (Q := fun _ _ s' => LedSystem.ShowsState s')
    (I := fun s => LedSystem.Quiet s ∧ LedSystem.ShowsState s) (G := LedSystem.Announces)
    (fun s op hi hafter hop => ⟨hi.1.step hafter,
      (LedSystem.step_showsState_iff hi.1 hafter hi.2).mpr hop⟩)
    (fun s op hi hafter hop => (LedSystem.step_showsState_iff hi.1 hafter hi.2).mpr hop)
    (fun s op hi hafter hop hshows =>
      hop ((LedSystem.step_showsState_iff hi.1 hafter hi.2).mp hshows))
    ⟨hquiet, hshows⟩ hstreaming.2
  exact ⟨fun h => halong.mp h.2, fun h => ⟨hshows, halong.mpr h⟩⟩

end AtBoot

/-- A session that button 0 starts. -/
theorem led_showsState_button0 :
    Machine.Always ledStep LedSystem.ShowsState
      (LedSystem.atBoot (loggerCfg false) true ⟨[], [], [], 0⟩ none none .working)
      [.eventThread, .operation (.button0Long .working), .eventThread] :=
  (led_showsState_iff (loggerCfg false) true ⟨[], [], [], 0⟩ none none .working
    [.eventThread, .operation (.button0Long .working), .eventThread]
    ⟨rfl, by decide +kernel⟩).mpr ⟨trivial, .inr (.inl rfl), trivial, trivial⟩

/-- A session that is started over BLE in ARMED. -/
theorem not_led_showsState_bleStart :
    ¬ Machine.Always ledStep LedSystem.ShowsState
      (LedSystem.atBoot (loggerCfg false) true ⟨[], [], [], 0⟩ none none .working)
      [.eventThread, .operation (.control (textRequest (ascii "action") (ascii "start")) .working),
        .eventThread] := by
  intro h
  have hlast := h.2.2.2.1
  unfold LedSystem.ShowsState at hlast
  exact absurd hlast (by decide +kernel)

end TempoBt
