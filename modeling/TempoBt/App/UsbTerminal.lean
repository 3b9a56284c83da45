-- SUMMARY: The ownership of the USB terminal: USB sessions, calibration streaming and the host, and the runs in which neither user takes it from the other.
import TempoBt.App.SystemStatus
import TempoBt.Lib.Machine

/-!
# Ownership of the USB terminal

A USB session and the calibration streaming share the terminal and the one slot for
a disconnect callback. Each of them opens and closes the terminal for itself. The
runs in which that does no harm are described exactly.
-/

namespace TempoBt

/-! ## The host -/

structure UsbSystem where
  system : System
  /-- Whether `disconnect_work` is pending. -/
  disconnectWork : Bool

/-- The operations of the system, and what the host does. -/
inductive UsbOp where
  | operation (op : SystemOp)
  | usbStatus (status : UsbDcStatus)
  | dtrPoll (dtr : Option Bool)

namespace UsbSystem

/-- A callback of the terminal, which may submit `disconnect_work`. -/
def onTty (f : UsbTty → UsbTty × Bool) (s : UsbSystem) : UsbSystem where
  system := s.system.onDevice fun d => { d with usbTty := (f d.usbTty).1 }
  disconnectWork := s.disconnectWork || (f s.system.device.usbTty).2

def step (s : UsbSystem) : UsbOp → UsbSystem
  -- the handler of `disconnect_work` runs when the work is pending
  | .operation (.usbDisconnect e) =>
    if s.disconnectWork then ⟨s.system.step (.usbDisconnect e), false⟩ else s
  | .operation op => { s with system := s.system.step op }
  | .usbStatus status => s.onTty (usbStatusCallback status)
  | .dtrPoll dtr =>
    if s.system.device.usbTty.dtrPollWork then s.onTty (dtrPollHandler dtr) else s

end UsbSystem

/-- The system with its host as a machine without output. -/
def usbStep (s : UsbSystem) (op : UsbOp) : UsbSystem × Unit := (s.step op, ())

/-! ## Ownership -/

/-- What the two users share, and what tells of the session. -/
structure TerminalView where
  state : LoggerState
  usbMode : Bool
  ttyOpen : Bool
  disconnectCb : Option DisconnectCallback

def Device.terminal (d : Device) : TerminalView where
  state := d.logger.state
  usbMode := d.logger.usbMode
  ttyOpen := d.usbTty.ttyOpen
  disconnectCb := d.usbTty.disconnectCb

namespace TerminalView

/-- Whoever is active has the terminal open and its own callback registered. -/
structure Owned (streams : Bool) (v : TerminalView) : Prop where
  session : v.state.isActive = true → v.usbMode = true →
    v.ttyOpen = true ∧ v.disconnectCb = some .usbDisconnectHandler
  streaming : streams = true →
    v.ttyOpen = true ∧ v.disconnectCb = some .magCalDisconnectHandler

/-- Beside the ownership: the mode is that of a session, and the terminal is open for
one of the two only. -/
structure Invariant (streams : Bool) (v : TerminalView) : Prop extends Owned streams v where
  usbMode : v.usbMode = true → v.state.isActive = true
  closed : v.ttyOpen = true → v.usbMode = true ∨ streams = true

variable {streams : Bool} {v : TerminalView}

theorem Invariant.not_usbMode (h : v.Invariant streams) (hcan : v.state.canStart = true) :
    v.usbMode = false := by
  by_contra husb
  have hactive := h.usbMode (by simpa using husb)
  cases hstate : v.state <;> simp_all [LoggerState.isActive, LoggerState.canStart]

/-- The streaming and a USB session are not active together. -/
theorem Invariant.not_streaming (h : v.Invariant streams) (husb : v.usbMode = true) :
    streams = false := by
  by_contra hstreaming
  have hsession := (h.session (h.usbMode husb) husb).2
  rw [(h.streaming (by simpa using hstreaming)).2] at hsession
  exact absurd hsession (by simp)

end TerminalView

/-- An active USB session and an active streaming own the terminal. -/
def System.OwnsTerminal (s : System) : Prop := s.device.terminal.Owned s.magCal.streaming

/-! ## What the functions of the logger do to the terminal -/

section Functions

variable (d : Device)

/-- The view is that of the status, with the terminal's own flag. -/
theorem Device.terminal_eq :
    d.terminal =
      ⟨d.status.state, d.status.usbMode, d.flags.ttyOpen, d.status.disconnectCb⟩ := rfl

theorem loggerStart_terminal (reason : Bytes) (e : StartEnv) :
    (loggerStart reason e d).1.terminal =
      if (loggerStart reason e d).2 = 0 then { d.terminal with state := .logging }
      else d.terminal := by
  have htty : (loggerStart reason e d).1.flags.ttyOpen = d.flags.ttyOpen := by
    have hlocked : (loggerStartLocked e d).1.flags.ttyOpen = d.flags.ttyOpen := by
      rcases loggerStartLocked_cases d e with ⟨-, -, h⟩ | ⟨-, -, callback, h⟩ | ⟨-, -, -, h⟩
      all_goals rw [h]
    unfold loggerStart
    simp only
    split
    · exact hlocked
    · simpa using hlocked
  rw [Device.terminal_eq, loggerStart_status, htty]
  split <;> rfl

theorem loggerJumped_terminal (now : UInt64) :
    (loggerJumped now d).1.terminal =
      if d.terminal.state = .logging then { d.terminal with state := .jumped }
      else d.terminal := by
  have htty : (loggerJumped now d).1.flags.ttyOpen = d.flags.ttyOpen := by
    rw [loggerJumped_eq]
    split
    · simp
    · rfl
  rw [Device.terminal_eq, loggerJumped_status, htty]
  rw [Device.terminal_eq d]
  split <;> rfl

/-- A stop of a USB session closes the terminal and removes the callback. -/
theorem loggerStop_terminal (e : StopEnv) :
    (loggerStop e d).1.terminal =
      if d.terminal.state.canStop then
        if d.terminal.usbMode then ⟨.idle, false, false, none⟩
        else { d.terminal with state := .idle }
      else d.terminal := by
  have htty : (loggerStop e d).1.flags.ttyOpen =
      if d.status.state.canStop && d.status.usbMode then false else d.flags.ttyOpen := by
    rw [loggerStop_eq, show d.status.state = d.logger.state from rfl]
    by_cases hstate : d.logger.state.canStop = true
    · simp only [hstate, if_true, Device.bleMcumgrRestart_flags, sampleIfIdle_flags,
        Device.publishSessionStop_flags, closeOutput_flags, Device.stopAggregator_flags,
        Device.writeStateChange_flags, Device.disableAccelFilter_flags, Device.setState_flags,
        Bool.true_and]
      rw [show d.flags.usbMode = d.status.usbMode from rfl]
      split <;> rfl
    · simp [hstate]
  rw [Device.terminal_eq, loggerStop_status, htty]
  rw [Device.terminal_eq d]
  cases hstop : d.status.state.canStop with
  | false => rfl
  | true => cases husb : d.status.usbMode <;> simp

theorem loggerArm_terminal (e : ArmEnv) :
    (loggerArm e d).terminal = { d.terminal with state := .armed } := by
  rw [Device.terminal_eq, loggerArm_status, loggerArm_flags]
  rfl

theorem loggerDisarm_terminal (groundSample : Option ℚ) :
    (loggerDisarm groundSample d).1.terminal =
      if d.terminal.state = .armed then { d.terminal with state := .idle } else d.terminal := by
  have htty : (loggerDisarm groundSample d).1.flags.ttyOpen = d.flags.ttyOpen := by
    rw [loggerDisarm_eq]
    split
    · simp
    · rfl
  rw [Device.terminal_eq, loggerDisarm_status, htty]
  rw [Device.terminal_eq d]
  split <;> rfl

theorem executiveTick_terminal (currentState : LoggerState) :
    (d.executiveTick currentState).1.terminal = d.terminal := by
  rw [Device.terminal_eq, Device.executiveTick_status, executiveTick_flags]
  rfl

theorem baroHandlerUpdate_terminal (s : BaroReading) :
    (baroHandlerUpdate s d).1.terminal = d.terminal := by
  rw [Device.terminal_eq, baroHandlerUpdate_status, baroHandlerUpdate_flags]
  rfl

/-- The start over USB gets as far as opening the terminal. -/
def UsbStartEnv.Opens (e : UsbStartEnv) (d : Device) : Prop :=
  d.logger.state.canStart = true ∧ usbTtyIsConnected e.dtrConnected d.usbTty = true ∧
    usbTtyIsConnected e.dtrOpen d.usbTty = true

/-- A start over USB that does not open the terminal leaves it. -/
theorem loggerStartUsb_terminal_refused {e : UsbStartEnv} (h : ¬ e.Opens d) :
    (loggerStartUsb e d).1.terminal = d.terminal ∨
      d.terminal.state.canStart = true ∧
        (loggerStartUsb e d).1.terminal = { d.terminal with usbMode := false } := by
  unfold loggerStartUsb loggerStartUsbLocked
  cases hcan : d.logger.state.canStart with
  | false => exact .inl (by simp [Errno.einval])
  | true =>
    cases hconnected : usbTtyIsConnected e.dtrConnected d.usbTty with
    | false => exact .inl (by simp [Errno.enotconn])
    | true =>
      right
      have hopen : ¬ usbTtyIsConnected e.dtrOpen d.usbTty = true :=
        fun hopen => h ⟨hcan, hconnected, hopen⟩
      rcases openTty_cases ((d.newSession e.rand e.now).setUsbMode true) e.dtrOpen with
        ⟨hret, htty⟩ | ⟨hret, -⟩
      · simp only [Bool.not_true, Bool.false_eq_true, if_false, if_pos hret, htty]
        exact ⟨hcan, rfl⟩
      · exact absurd ((openTty_ret _ _).mp hret) hopen

/-- One that opens it registers its own callback, and closes the terminal again when
the aggregator does not start. -/
theorem loggerStartUsb_terminal_opened {e : UsbStartEnv} (h : e.Opens d) :
    (loggerStartUsb e d).1.terminal =
        ⟨d.terminal.state, false, false, some .usbDisconnectHandler⟩ ∨
      (loggerStartUsb e d).1.terminal = ⟨.logging, true, true, some .usbDisconnectHandler⟩ := by
  obtain ⟨hcan, hconnected, hopen⟩ := h
  have hret := (openTty_ret ((d.newSession e.rand e.now).setUsbMode true) e.dtrOpen).mpr hopen
  have hopened : (((d.newSession e.rand e.now).setUsbMode true).openTty e.dtrOpen).1.flags.ttyOpen =
      true := by
    rcases openTty_cases ((d.newSession e.rand e.now).setUsbMode true) e.dtrOpen with
      ⟨hfail, -⟩ | ⟨-, hflags⟩
    · exact absurd hret hfail
    · rw [hflags]
  have hstatus := Device.openTty_status ((d.newSession e.rand e.now).setUsbMode true) e.dtrOpen
  unfold loggerStartUsb loggerStartUsbLocked
  rw [hcan, hconnected]
  simp only [Bool.not_true, Bool.false_eq_true, if_false, hret, ne_eq, not_true_eq_false]
  generalize (((d.newSession e.rand e.now).setUsbMode true).openTty e.dtrOpen).1 = tty
    at hopened hstatus ⊢
  split
  · left
    simp [Device.terminal_eq, hstatus]
  · right
    -- the aggregator does not touch the terminal
    have hstarted : ((tty.registerDisconnectCallback (some .usbDisconnectHandler)
        |>.configureSession .usbTty).startAggregator e.aggregatorNow).1.flags.ttyOpen = true := by
      rcases startAggregator_cases (tty.registerDisconnectCallback (some .usbDisconnectHandler)
        |>.configureSession .usbTty) e.aggregatorNow with ⟨-, -, h⟩ | ⟨-, -, h⟩
      all_goals simp [h, hopened]
    simp [Device.terminal_eq, hstatus, hstarted]

end Functions

/-! ## What keeps the invariant -/

namespace TerminalView.Invariant

variable {streams : Bool} {v : TerminalView}

theorem setState {state : LoggerState} (h : v.Invariant streams)
    (hstate : v.usbMode = true → state.isActive = true) :
    { v with state }.Invariant streams where
  session _ husb := h.session (h.usbMode husb) husb
  streaming := h.streaming
  usbMode := hstate
  closed := h.closed

end TerminalView.Invariant

section Functions

variable {streams : Bool} {d : Device}

open TerminalView (Invariant)

theorem loggerStart_terminalInvariant (h : d.terminal.Invariant streams) (reason : Bytes)
    (e : StartEnv) : (loggerStart reason e d).1.terminal.Invariant streams := by
  rw [loggerStart_terminal]
  split
  · exact h.setState fun _ => rfl
  · exact h

theorem loggerJumped_terminalInvariant (h : d.terminal.Invariant streams) (now : UInt64) :
    (loggerJumped now d).1.terminal.Invariant streams := by
  rw [loggerJumped_terminal]
  split
  · exact h.setState fun _ => rfl
  · exact h

/-- A USB session that is stopped leaves the terminal to nobody, and the streaming was
not there. -/
theorem loggerStop_terminalInvariant (h : d.terminal.Invariant streams) (e : StopEnv) :
    (loggerStop e d).1.terminal.Invariant streams := by
  rw [loggerStop_terminal]
  split
  · split
    · rename_i husb
      rw [h.not_streaming husb]
      exact ⟨⟨by simp, by simp⟩, by simp, by simp⟩
    · rename_i husb
      exact h.setState fun husb' => absurd husb' husb
  · exact h

theorem loggerArm_terminalInvariant (h : d.terminal.Invariant streams)
    (hidle : d.terminal.state = .idle) (e : ArmEnv) :
    (loggerArm e d).terminal.Invariant streams := by
  rw [loggerArm_terminal]
  exact h.setState fun husb => absurd husb (by simp [h.not_usbMode (by rw [hidle]; rfl)])

theorem loggerDisarm_terminalInvariant (h : d.terminal.Invariant streams)
    (groundSample : Option ℚ) :
    (loggerDisarm groundSample d).1.terminal.Invariant streams := by
  rw [loggerDisarm_terminal]
  split
  · rename_i hstate
    exact h.setState fun husb => absurd husb
      (by simp [h.not_usbMode (by rw [hstate]; rfl)])
  · exact h

theorem controlAct_terminalInvariant (h : d.terminal.Invariant streams) (e : ControlEnv)
    (action : ControlAction) : (controlAct e d action).1.terminal.Invariant streams := by
  cases action with
  | start =>
    rw [controlAct]
    cases hstate : d.logger.state with
    | armed => exact loggerStart_terminalInvariant h _ e.start
    | idle =>
      exact loggerStart_terminalInvariant (loggerArm_terminalInvariant h hstate e.arm) _ e.start
    | logging => exact h
    | jumped => exact h
    | postflight => exact h
    | error => exact h
  | stop =>
    rw [controlAct]
    split
    · exact loggerStop_terminalInvariant h e.stop
    · exact h
  | arm =>
    rw [controlAct]
    split
    · rename_i hstate
      exact loggerArm_terminalInvariant h hstate e.arm
    · exact h
  | disarm =>
    rw [controlAct]
    split
    · exact loggerDisarm_terminalInvariant h e.groundSample
    · exact h

theorem tempoMgmtLoggerControl_terminalInvariant (h : d.terminal.Invariant streams)
    (request : SmpRequest) (e : ControlEnv) :
    (tempoMgmtLoggerControl request e d).1.terminal.Invariant streams := by
  unfold tempoMgmtLoggerControl
  split
  · exact h
  · exact h
  · split
    · exact h
    · rename_i action _
      have hact := controlAct_terminalInvariant h e action
      simp only
      split
      · exact hact
      · -- the radio is not the terminal
        split <;> exact hact

theorem testAlarmWorkHandler_terminalInvariant (h : d.terminal.Invariant streams)
    (e : AlarmEnv) : (testAlarmWorkHandler e d).1.terminal.Invariant streams := by
  unfold testAlarmWorkHandler
  cases hstate : d.testAlarm.state with
  | idle => exact h
  | waitingStart =>
    simp only
    split
    · exact h
    · have harmed : (if d.logger.state = .idle then loggerArm e.arm d else d).terminal.Invariant
          streams := by
        split
        · rename_i hidle
          exact loggerArm_terminalInvariant h hidle e.arm
        · exact h
      exact loggerStart_terminalInvariant harmed (ascii "test_alarm") e.start
  | waitingJump =>
    simp only
    split
    · exact h
    · split
      · exact loggerJumped_terminalInvariant
          (d := d.setTestAlarm d.testAlarm.decrementCountdown) h e.jumpedNow
      · exact h

theorem loggerExecutive_terminalInvariant (h : d.terminal.Invariant streams)
    (e : ExecutiveEnv) : (loggerExecutive e d).terminal.Invariant streams := by
  unfold loggerExecutive
  split
  · exact h
  · simp only
    have hrearm := isActive_of_executiveTick_rearm d d.logger.state
    have htick := executiveTick_terminal d d.logger.state
    generalize (d.executiveTick d.logger.state).1 = ticked at htick ⊢
    rw [← htick] at h
    cases haction : (d.executiveTick d.logger.state).2 with
    | none => exact h
    | start => exact loggerStart_terminalInvariant h _ e.start
    | jumped => exact loggerJumped_terminalInvariant h e.jumpedNow
    | rearm =>
      -- the stop succeeds and leaves the logger idle
      have hactive : ticked.terminal.state.isActive = true := by
        rw [htick]
        exact hrearm haction
      have hidle : (loggerStop e.stop ticked).1.terminal.state = .idle := by
        rw [loggerStop_terminal, if_pos (by
          cases hstate : ticked.terminal.state <;>
            simp_all [LoggerState.isActive, LoggerState.canStop])]
        split <;> rfl
      exact loggerArm_terminalInvariant (loggerStop_terminalInvariant h e.stop) hidle e.arm

theorem loggerBaroHandler_terminalInvariant (h : d.terminal.Invariant streams)
    (s : BaroReading) (e : StartEnv) : (loggerBaroHandler s e d).terminal.Invariant streams := by
  have hupdate : (baroHandlerUpdate s d).1.terminal.Invariant streams := by
    rwa [baroHandlerUpdate_terminal]
  unfold loggerBaroHandler
  simp only
  split
  · exact loggerStart_terminalInvariant hupdate _ e
  · exact hupdate

end Functions

/-! ## Runs -/

namespace System

/-- An operation does not take the terminal from a user: the button starts no USB
session while the streaming has the terminal, and no streaming without USB. -/
def LeavesTerminal (s : System) : SystemOp → Prop
  | .button1Long _ start => s.magCal.streaming = true → ¬ start.Opens s.device
  | .button1Short magReady _ =>
    s.magCal.streaming = false → s.device.logger.state.canStart = true → magReady = true →
      s.device.usbTty.usbEnabled = true
  | .control .. | .testLogging .. | .alarmTick _ | .button0Long _ | .usbDisconnect _ | .bleStopWork
  | .executive _ | .baroSample .. | .groundAltitudeTimer _ | .accelSample _ => True

def TerminalInvariant (s : System) : Prop := s.device.terminal.Invariant s.magCal.streaming

theorem endStreaming_terminalInvariant {s : System} (h : s.TerminalInvariant)
    (hstreaming : s.magCal.streaming = true) : s.endStreaming.TerminalInvariant := by
  -- the streaming has kept a USB session away
  have husb : s.device.terminal.usbMode = false := by
    by_contra husb
    rw [h.not_streaming (by simpa using husb)] at hstreaming
    exact absurd hstreaming (by simp)
  have husb : s.device.logger.usbMode = false := husb
  refine ⟨⟨fun _ husb' => ?_, fun h => absurd h (by simp [endStreaming])⟩, fun husb' => ?_,
    fun hopen => ?_⟩
  · exact absurd (husb.symm.trans husb') (by simp)
  · exact absurd (husb.symm.trans husb') (by simp)
  · exact absurd hopen (by simp [endStreaming, Device.terminal, Device.bleMcumgrRestart,
      Device.closeTty, usbTtyClose])

/-- With USB enabled, only a missing host keeps the terminal from being opened. -/
theorem openTty_notConnected {d : Device} {dtr : Option Bool}
    (henabled : d.usbTty.usbEnabled = true) (hret : (d.openTty dtr).2 ≠ 0) :
    (d.openTty dtr).2 = -Errno.enotconn := by
  simp only [Device.openTty, usbTtyOpen, henabled, Bool.not_true, Bool.false_eq_true,
    if_false] at hret ⊢
  split
  · rfl
  · rename_i hconnected
    exact absurd (by rw [if_neg hconnected]) hret

theorem button1Long_terminalInvariant {s : System} {stop : StopEnv} {start : UsbStartEnv}
    (h : s.TerminalInvariant) (hop : s.LeavesTerminal (.button1Long stop start)) :
    (s.step (.button1Long stop start)).TerminalInvariant := by
  change (button1ActionHandler stop start s.device).terminal.Invariant s.magCal.streaming
  unfold button1ActionHandler
  split
  · exact loggerStop_terminalInvariant h stop
  · split
    · rename_i hcan
      by_cases hopens : start.Opens s.device
      · have hstreaming : s.magCal.streaming = false := by
          by_contra hstreaming
          exact hop (by simpa using hstreaming) hopens
        rw [hstreaming]
        rcases loggerStartUsb_terminal_opened s.device hopens with hclosed | hstarted
        · rw [hclosed]
          exact ⟨⟨by simp, by simp⟩, by simp, by simp⟩
        · rw [hstarted]
          exact ⟨⟨by simp, by simp⟩, by simp [LoggerState.isActive], by simp⟩
      · have husb := h.not_usbMode hcan
        rcases loggerStartUsb_terminal_refused s.device hopens with hsame | ⟨-, hmode⟩
        · rwa [hsame]
        · rw [hmode, ← husb]
          exact h
    · exact h

theorem button1Short_terminalInvariant {s : System} {magReady : Bool} {dtr : Option Bool}
    (h : s.TerminalInvariant) (hop : s.LeavesTerminal (.button1Short magReady dtr)) :
    (s.step (.button1Short magReady dtr)).TerminalInvariant := by
  simp only [step, button1ShortPress, button1ShortPressHandler]
  cases hstreaming : s.magCal.streaming with
  | true =>
    simp only [Bool.true_or, if_true]
    exact endStreaming_terminalInvariant h hstreaming
  | false =>
    cases hcan : s.device.logger.state.canStart with
    | false => simpa using h
    | true =>
      cases hready : magReady with
      | false => simpa using h
      | true =>
        have henabled := hop hstreaming hcan hready
        have husb := h.not_usbMode hcan
        simp only [Bool.false_or, if_true, Bool.false_eq_true, if_false, Bool.not_true]
        rcases openTty_cases s.device dtr with ⟨hret, htty⟩ | ⟨hret, htty⟩
        · rw [if_pos (openTty_notConnected henabled hret), htty]
          exact h
        · rw [if_neg (by rw [hret]; simp [Errno.enotconn])]
          have hopen : (s.device.openTty dtr).1.usbTty.ttyOpen = true :=
            congrArg Flags.ttyOpen htty
          have hmode : (s.device.openTty dtr).1.logger.usbMode = false :=
            (congrArg Flags.usbMode htty).trans husb
          refine ⟨⟨fun _ husb' => ?_, fun _ => ⟨hopen, rfl⟩⟩, fun husb' => ?_, fun _ => .inr rfl⟩
          · exact absurd (hmode.symm.trans husb') (by simp)
          · exact absurd (hmode.symm.trans husb') (by simp)

theorem step_terminalInvariant {s : System} {op : SystemOp} (h : s.TerminalInvariant)
    (hop : s.LeavesTerminal op) : (s.step op).TerminalInvariant := by
  cases op with
  | control request e => exact tempoMgmtLoggerControl_terminalInvariant h request e
  | testLogging targetUtcMs jumpDelaySec => exact h
  | alarmTick e => exact testAlarmWorkHandler_terminalInvariant h e
  | button0Long e =>
    change (button0LongPress e s.device).terminal.Invariant s.magCal.streaming
    unfold button0LongPress
    split
    · exact loggerStart_terminalInvariant h _ e
    · exact h
  | button1Long stop start => exact button1Long_terminalInvariant h hop
  | button1Short magReady dtr => exact button1Short_terminalInvariant h hop
  | usbDisconnect e =>
    simp only [step, disconnectWorkHandler]
    split
    · exact h
    · exact loggerStop_terminalInvariant h e
    · unfold magCalDisconnectHandler
      split
      · rename_i hstreaming
        exact endStreaming_terminalInvariant h hstreaming
      · exact h
  | bleStopWork =>
    simp only [step, bleStopWorkHandler]
    split <;> exact h
  | executive e => exact loggerExecutive_terminalInvariant h e
  | baroSample r e => exact loggerBaroHandler_terminalInvariant h r e
  | groundAltitudeTimer sample =>
    have hsame : (s.device.groundAltitudeWorkHandler sample).terminal = s.device.terminal := by
      rw [Device.terminal_eq, Device.groundAltitudeWorkHandler_status,
        Device.groundAltitudeWorkHandler_flags]
      rfl
    change (s.device.groundAltitudeWorkHandler sample).terminal.Invariant s.magCal.streaming
    rwa [hsame]
  | accelSample magnitudeG => exact h

/-- A session over USB takes the callback of the streaming. -/
theorem not_ownsTerminal_button1Long {s : System} {stop : StopEnv} {start : UsbStartEnv}
    (hop : ¬ s.LeavesTerminal (.button1Long stop start)) :
    ¬ (s.step (.button1Long stop start)).OwnsTerminal := by
  simp only [LeavesTerminal, Classical.not_imp, not_not] at hop
  obtain ⟨hstreaming, hopens⟩ := hop
  have hstep : s.step (.button1Long stop start) =
      s.onDevice fun d => (loggerStartUsb start d).1 := by
    have hinactive : s.device.logger.state.isActive = false := by
      cases hstate : s.device.logger.state <;>
        simp_all [LoggerState.isActive, UsbStartEnv.Opens, LoggerState.canStart]
    simp [step, button1ActionHandler, onDevice, hinactive, hopens.1]
  intro howns
  have hcallback := (howns.streaming (by rw [hstep]; exact hstreaming)).2
  rw [hstep] at hcallback
  rcases loggerStartUsb_terminal_opened s.device hopens with hclosed | hstarted
  · exact absurd ((congrArg TerminalView.disconnectCb hclosed).symm.trans hcallback) (by simp)
  · exact absurd ((congrArg TerminalView.disconnectCb hstarted).symm.trans hcallback) (by simp)

/-- The streaming starts although the terminal is not there. -/
theorem not_ownsTerminal_button1Short {s : System} {magReady : Bool} {dtr : Option Bool}
    (h : s.TerminalInvariant) (hop : ¬ s.LeavesTerminal (.button1Short magReady dtr)) :
    ¬ (s.step (.button1Short magReady dtr)).OwnsTerminal := by
  simp only [LeavesTerminal, Classical.not_imp, Bool.not_eq_true] at hop
  obtain ⟨hstreaming, hcan, hready, hdisabled⟩ := hop
  have hclosed : s.device.usbTty.ttyOpen = false := by
    by_contra hopen
    have hopen : s.device.terminal.ttyOpen = true := Bool.eq_true_of_not_eq_false hopen
    rcases h.closed hopen with husb | hstreaming'
    · exact absurd ((h.not_usbMode hcan).symm.trans husb) (by simp)
    · exact absurd (hstreaming.symm.trans hstreaming') (by simp)
  have htty : s.device.openTty dtr = (s.device, -Errno.enodev) := by
    simp [Device.openTty, usbTtyOpen, hdisabled]
  intro howns
  have hopen := (howns.streaming (by
    simp [step, button1ShortPress, button1ShortPressHandler, hstreaming, hcan, hready, htty,
      Errno.enodev, Errno.enotconn])).1
  rw [step, button1ShortPress] at hopen
  simp [button1ShortPressHandler, hstreaming, hcan, hready, htty, Errno.enodev, Errno.enotconn,
    Device.terminal, Device.bleMcumgrStop, Device.registerDisconnectCallback,
    usbTtyRegisterDisconnectCallback, hclosed] at hopen

/-- An operation that takes the terminal leaves an active user without it. -/
theorem not_ownsTerminal_step {s : System} {op : SystemOp} (h : s.TerminalInvariant)
    (hop : ¬ s.LeavesTerminal op) : ¬ (s.step op).OwnsTerminal := by
  cases op with
  | button1Long stop start => exact not_ownsTerminal_button1Long hop
  | button1Short magReady dtr => exact not_ownsTerminal_button1Short h hop
  | control => exact absurd trivial hop
  | testLogging => exact absurd trivial hop
  | alarmTick => exact absurd trivial hop
  | button0Long => exact absurd trivial hop
  | usbDisconnect => exact absurd trivial hop
  | bleStopWork => exact absurd trivial hop
  | executive => exact absurd trivial hop
  | baroSample => exact absurd trivial hop
  | groundAltitudeTimer => exact absurd trivial hop
  | accelSample => exact absurd trivial hop

end System

namespace UsbSystem

def OwnsTerminal (s : UsbSystem) : Prop := s.system.OwnsTerminal

/-- The host takes the terminal from nobody. -/
def LeavesTerminal (s : UsbSystem) : UsbOp → Prop
  | .operation op => s.system.LeavesTerminal op
  | .usbStatus _ | .dtrPoll _ => True

/-- What the host does is seen by the next open or by the disconnect handler only. -/
theorem onTty_terminal {f : UsbTty → UsbTty × Bool}
    (hf : ∀ u, (f u).1.ttyOpen = u.ttyOpen ∧ (f u).1.disconnectCb = u.disconnectCb)
    (s : UsbSystem) : (s.onTty f).system.device.terminal = s.system.device.terminal := by
  obtain ⟨htty, hcallback⟩ := hf s.system.device.usbTty
  simp only [onTty, System.onDevice, Device.terminal, htty, hcallback]

/-- An operation of the system runs, or it is a disconnect handler that is not due. -/
theorem step_operation (s : UsbSystem) (op : SystemOp) :
    (s.step (.operation op)).system = s.system.step op ∨
      (∃ e, op = .usbDisconnect e) ∧ s.step (.operation op) = s := by
  cases op with
  | usbDisconnect e =>
    rw [step]
    split
    · exact .inl rfl
    · exact .inr ⟨⟨e, rfl⟩, rfl⟩
  | control => exact .inl rfl
  | testLogging => exact .inl rfl
  | alarmTick => exact .inl rfl
  | button0Long => exact .inl rfl
  | button1Long => exact .inl rfl
  | button1Short => exact .inl rfl
  | bleStopWork => exact .inl rfl
  | executive => exact .inl rfl
  | baroSample => exact .inl rfl
  | groundAltitudeTimer => exact .inl rfl
  | accelSample => exact .inl rfl

theorem step_terminalInvariant {s : UsbSystem} {op : UsbOp} (h : s.system.TerminalInvariant)
    (hop : s.LeavesTerminal op) : (s.step op).system.TerminalInvariant := by
  cases op with
  | operation op =>
    rcases s.step_operation op with hstep | ⟨-, hstep⟩
    · rw [hstep]
      exact System.step_terminalInvariant h hop
    · rwa [hstep]
  | usbStatus status =>
    change (s.onTty (usbStatusCallback status)).system.device.terminal.Invariant _
    rwa [onTty_terminal (usbStatusCallback_terminal status)]
  | dtrPoll dtr =>
    rw [step]
    split
    · change (s.onTty (dtrPollHandler dtr)).system.device.terminal.Invariant _
      rwa [onTty_terminal (dtrPollHandler_terminal dtr)]
    · exact h

theorem not_ownsTerminal_step {s : UsbSystem} {op : UsbOp} (h : s.system.TerminalInvariant)
    (hop : ¬ s.LeavesTerminal op) : ¬ (s.step op).OwnsTerminal := by
  cases op with
  | operation op =>
    have htakes : ¬ s.system.LeavesTerminal op := hop
    rcases s.step_operation op with hstep | ⟨⟨e, rfl⟩, -⟩
    · rw [OwnsTerminal, hstep]
      exact System.not_ownsTerminal_step h htakes
    · exact absurd trivial htakes
  | usbStatus status => exact absurd trivial hop
  | dtrPoll dtr => exact absurd trivial hop

/-- The system when `main` has initialised and armed the logger. -/
def atBoot (config : LoggerConfig) (usbEnabled : Bool) (version : AppVersion)
    (first second : Option ℚ) (arm : ArmEnv) : UsbSystem :=
  ⟨System.atBoot config usbEnabled version first second arm, false⟩

end UsbSystem

section AtBoot

variable (config : LoggerConfig) (usbEnabled : Bool) (version : AppVersion)
  (first second : Option ℚ) (arm : ArmEnv)

theorem System.atBoot_terminalInvariant :
    (System.atBoot config usbEnabled version first second arm).TerminalInvariant := by
  have hterminal : (System.atBoot config usbEnabled version first second arm).device.terminal =
      ⟨.armed, false, false, none⟩ := by
    have htty : (System.atBoot config usbEnabled version first second arm).device.flags.ttyOpen =
        false := by
      rw [atBoot, loggerArm_flags, loggerInit_flags]
      rfl
    rw [Device.terminal_eq, atBoot_status, htty]
    rfl
  rw [TerminalInvariant, hterminal]
  exact ⟨⟨by simp, fun h => absurd h (by simp [System.atBoot])⟩, by simp, by simp⟩

/-- **An active user has the terminal open and its own callback registered** in exactly
the runs in which the button starts no USB session over the streaming, and no streaming
without USB. -/
theorem terminal_owned_iff (ops : List UsbOp) :
    Machine.Always usbStep UsbSystem.OwnsTerminal
        (UsbSystem.atBoot config usbEnabled version first second arm) ops ↔
      Machine.Guarded usbStep UsbSystem.LeavesTerminal
        (UsbSystem.atBoot config usbEnabled version first second arm) ops := by
  apply Machine.always_iff_guarded (I := fun s => s.system.TerminalInvariant)
  · intro s op h hop
    exact UsbSystem.step_terminalInvariant h hop
  · intro s h
    exact h.toOwned
  · intro s op h hop
    exact UsbSystem.not_ownsTerminal_step h hop
  · exact System.atBoot_terminalInvariant config usbEnabled version first second arm

end AtBoot

/-- Streaming to a host, and a long press of the same button. -/
theorem not_terminal_owned_longPressWhileStreaming :
    ¬ Machine.Always usbStep UsbSystem.OwnsTerminal
      (UsbSystem.atBoot (loggerCfg false) true ⟨[], [], [], 0⟩ none none .working)
      [.usbStatus .configured, .operation (.button1Short true (some true)),
        .operation (.button1Long .working .working)] := by
  intro h
  have hlast := h.2.2.2.1
  exact absurd (hlast.streaming (by decide +kernel)).2 (by decide +kernel)

end TempoBt
