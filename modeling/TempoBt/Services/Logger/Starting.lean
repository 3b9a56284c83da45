-- SUMMARY: The start of a session as atomic steps beside the writers of lines, with the log of the file that was opened last.
import TempoBt.Services.Logger.Interleaving
import TempoBt.Services.Logger.Outputs

/-!
# Starting a session

`logger_start` holds the logger's mutex, which the writers of lines do not take. So
its steps under the lock are separate here: opening the file, configuring the
aggregator, registering the output callback, the two header lines, and starting the
aggregator. The handlers of the logger run one after another, next to any number of
threads that write lines.
-/

namespace TempoBt

open Errno

/-! ## Steps -/

/-- The two kinds of start. -/
inductive Starting where
  | sd (reason : Bytes) (e : StartEnv) (caller : StartCaller)
  | usb (e : UsbStartEnv)

def Starting.callback : Starting → OutputCallback
  | .sd .. => .toFile
  | .usb _ => .usbTty

/-- The steps of a start under the lock, after the state was tested. -/
inductive StartStep where
  /-- `file_writer_open` or `usb_tty_open` -/
  | openOutput (k : Starting)
  | configure (k : Starting)
  | registerCallback (k : Starting)
  | writeVersion (k : Starting)
  | writeSurfaceAltitude (k : Starting)
  /-- `aggregator_start`, and the rest under the lock. -/
  | startAggregator (k : Starting)

inductive SessionStep where
  | output (p : OutputStep)
  | start (p : StartStep)
  | instr (i : Instr)

/-- The log of the file opened last. -/
structure SessionLog where
  logging : Logging
  /-- The session that the file was opened for, counted as in `Logging.sessions`. -/
  fileSession : Nat
  /-- Whether its `logger_start` has gone on to `aggregator_start`. -/
  started : Bool

namespace SessionLog

def setDevice (d : Device) (s : SessionLog) : SessionLog :=
  { s with logging := { s.logging with device := d } }

@[simp] theorem setDevice_device (d : Device) (s : SessionLog) :
    (s.setDevice d).logging.device = d := rfl

@[simp] theorem setDevice_log (d : Device) (s : SessionLog) :
    (s.setDevice d).logging.log = s.logging.log := rfl

@[simp] theorem setDevice_sessions (d : Device) (s : SessionLog) :
    (s.setDevice d).logging.sessions = s.logging.sessions := rfl

@[simp] theorem setDevice_fileSession (d : Device) (s : SessionLog) :
    (s.setDevice d).fileSession = s.fileSession := rfl

@[simp] theorem setDevice_started (d : Device) (s : SessionLog) :
    (s.setDevice d).started = s.started := rfl

end SessionLog

/-- The lines of a call that nobody interrupts. -/
def Logging.write (lines : List Bytes) (s : Logging) : Logging :=
  lines.foldl (fun s line => s.output ⟨s.calls, 0, s.sessions, line⟩) s

/-- The return of `logger_start` to its caller. -/
def startReturned (caller : StartCaller) (ret : Int) : SessionStep :=
  .instr (.call (.startReturned caller ret))

/-- The beginning of a start, up to its first separate step. -/
def execBegin (s : SessionLog) : Starting → SessionLog × List SessionStep
  | .sd reason e caller =>
    let d := s.logging.device
    if !d.logger.state.canStart then (s, [startReturned caller (-einval)])
    else
      let dir := createSessionDirectory e (d.newSession e.rand e.now)
      if dir.2 ≠ 0 then (s.setDevice dir.1, [startReturned caller dir.2])
      else (s.setDevice dir.1, [.start (.openOutput (.sd reason e caller))])
  | .usb e =>
    let d := s.logging.device
    if !d.logger.state.canStart then (s, [])
    else if !usbTtyIsConnected e.dtrConnected d.usbTty then (s, [])
    else
      (s.setDevice ((d.newSession e.rand e.now).setUsbMode true), [.start (.openOutput (.usb e))])

def execStart (s : SessionLog) : StartStep → SessionLog × List SessionStep
  | .openOutput (.sd reason e caller) =>
    let file := s.logging.device.openFile e.file
    if file.2 ≠ 0 then (s.setDevice file.1, [startReturned caller file.2])
    else
      ({ logging := { s.logging with device := file.1, log := [] }
         fileSession := s.logging.sessions + 1
         started := false }, [.start (.configure (.sd reason e caller))])
  | .openOutput (.usb e) =>
    let tty := s.logging.device.openTty e.dtrOpen
    if tty.2 ≠ 0 then (s.setDevice (tty.1.setUsbMode false), [])
    else
      (s.setDevice (tty.1.registerDisconnectCallback (some .usbDisconnectHandler)),
        [.start (.configure (.usb e))])
  | .configure k =>
    let d := s.logging.device
    ({ s with
        logging :=
          { s.logging with
            device :=
              { d with aggregator := aggregatorConfigure d.logger.aggregatorConfig d.aggregator }
            sessions := s.logging.sessions + 1 } }, [.start (.registerCallback k)])
  | .registerCallback k =>
    let d := s.logging.device
    -- the ground altitude is no longer sampled, so the header finds its last value
    (s.setDevice ({ d with
        aggregator := aggregatorRegisterOutputCallback k.callback d.aggregator }
          |>.stopGroundAltitudeSampling), [.start (.writeVersion k)])
  | .writeVersion k =>
    let d := s.logging.device
    ({ s with logging := s.logging.write (aggregatorWriteVersion d.version d.aggregator) },
      [.start (.writeSurfaceAltitude k)])
  | .writeSurfaceAltitude k =>
    let d := s.logging.device
    ({ s with
        logging := s.logging.write (aggregatorWriteSurfaceAltitude
          (.num (baroGetGroundAltitudePsfc d.groundAltitude)) d.aggregator) },
      [.start (.startAggregator k)])
  | .startAggregator (.sd reason e caller) =>
    let d := s.logging.device
    let started := d.startAggregator e.aggregatorNow
    if started.2 ≠ 0 then
      ({ s.setDevice (started.1.closeFile e.close) with started := true },
        [startReturned caller started.2])
    else
      ({ s.setDevice (started.1.setState .logging) with started := true },
        (afterStart reason e caller d.logger.state).map .instr)
  | .startAggregator (.usb e) =>
    let d := s.logging.device
    let started := d.startAggregator e.aggregatorNow
    if started.2 ≠ 0 then (s.setDevice (started.1.closeTty.setUsbMode false), [])
    else
      (s.setDevice (started.1.setState .logging), (afterStartUsb e d.logger.state).map .instr)

/-- A step of a handler. A start and a state change are not atomic here. -/
def execInstr (s : SessionLog) : Instr → SessionLog × List SessionStep
  | .critical (.start reason e caller) => execBegin s (.sd reason e caller)
  | .critical (.startUsb e) => execBegin s (.usb e)
  | .call (.writeStateChange now oldState newState trigger) =>
    (s, [.output (.begin (.stateChange now oldState newState trigger))])
  | i =>
    let r := exec s.logging.device i
    (s.setDevice r.1, r.2.1.map .instr)

def sessionExec (s : SessionLog) : SessionStep → SessionLog × List SessionStep × Option Empty
  | .output p =>
    let r := outputExec s.logging p
    ({ s with logging := r.1 }, r.2.1.map .output, none)
  | .start p => ((execStart s p).1, (execStart s p).2, none)
  | .instr i => ((execInstr s i).1, (execInstr s i).2, none)

/-! ## A step that no writer interrupts -/

section Solo

open Threads (Solo)

/-- Written line by line, the lines reach the callback as they do together. -/
theorem Logging.write_device (lines : List Bytes) (s : Logging) :
    (s.write lines).device = s.device.outputLines lines := by
  unfold write Device.outputLines
  induction lines generalizing s with
  | nil => rfl
  | cons line lines ih => exact ih (s.output ⟨s.calls, 0, s.sessions, line⟩)

@[simp] theorem Device.outputLines_aggregator (d : Device) (lines : List Bytes) :
    (d.outputLines lines).aggregator = d.aggregator := by
  unfold outputLines
  induction lines generalizing d with
  | nil => rfl
  | cons line lines ih => exact (ih (d.outputLine line)).trans (d.outputLine_aggregator line)

@[simp] theorem Device.outputLine_groundAltitude (d : Device) (line : Bytes) :
    (d.outputLine line).groundAltitude = d.groundAltitude := by
  unfold outputLine
  split <;> rfl

@[simp] theorem Device.outputLines_groundAltitude (d : Device) (lines : List Bytes) :
    (d.outputLines lines).groundAltitude = d.groundAltitude := by
  unfold outputLines
  induction lines generalizing d with
  | nil => rfl
  | cons line lines ih =>
    exact (ih (d.outputLine line)).trans (d.outputLine_groundAltitude line)

/-- The two header steps are `aggregator_write_session_header`. -/
theorem writeSessionHeader_eq (d : Device) :
    d.writeSessionHeader =
      (d.outputLines (aggregatorWriteVersion d.version d.aggregator)).outputLines
        (aggregatorWriteSurfaceAltitude (.num (baroGetGroundAltitudePsfc d.groundAltitude))
          d.aggregator) := by
  rw [Device.writeSessionHeader, aggregatorWriteSessionHeader, Device.outputLines,
    List.foldl_append]
  rfl

variable (s : SessionLog) (rest : List SessionStep)

theorem solo_configure (k : Starting) :
    ∃ s', Solo sessionExec (s, .start (.configure k) :: rest)
        (s', .start (.startAggregator k) :: rest) ∧
      s'.logging.device = s.logging.device.configureSession k.callback := by
  refine ⟨_, .cons (.cons (.cons (.cons .refl))), ?_⟩
  simp only [sessionExec, execStart, Logging.write_device, Device.outputLines_aggregator,
    Device.outputLines_groundAltitude]
  rw [Device.configureSession, writeSessionHeader_eq]
  rfl

theorem configureSession_state (callback : OutputCallback) (d : Device) :
    (d.configureSession callback).logger.state = d.logger.state :=
  congrArg Flags.state (configureSession_flags d callback)

/-- The end of a start on the SD card, once the file is open. -/
theorem solo_afterOpen (reason : Bytes) (e : StartEnv) (caller : StartCaller) :
    let started := (s.logging.device.configureSession .toFile).startAggregator e.aggregatorNow
    ∃ s', Solo sessionExec (s, .start (.configure (.sd reason e caller)) :: rest)
        (s', (if started.2 ≠ 0 then [startReturned caller started.2]
          else (afterStart reason e caller s.logging.device.logger.state).map .instr) ++ rest) ∧
      s'.logging.device =
        if started.2 ≠ 0 then started.1.closeFile e.close else started.1.setState .logging := by
  intro started
  obtain ⟨s', hsolo, hdevice⟩ := solo_configure s rest (.sd reason e caller)
  have hconfigured : s'.logging.device.startAggregator e.aggregatorNow = started := by
    rw [hdevice]
    rfl
  have hstate : s'.logging.device.logger.state = s.logging.device.logger.state := by
    rw [hdevice]
    exact configureSession_state _ _
  refine ⟨(execStart s' (.startAggregator (.sd reason e caller))).1,
    hsolo.trans (.cons ?_), ?_⟩
  · simp only [sessionExec, execStart, hconfigured, hstate]
    split <;> exact .refl
  · simp only [execStart, hconfigured]
    split <;> rfl

/-- The start on the SD card from the opening of its file on. -/
theorem solo_openOutput (reason : Bytes) (e : StartEnv) (caller : StartCaller) :
    let file := s.logging.device.openFile e.file
    let started := (file.1.configureSession .toFile).startAggregator e.aggregatorNow
    ∃ s', Solo sessionExec (s, .start (.openOutput (.sd reason e caller)) :: rest)
        (s', (if file.2 ≠ 0 then [startReturned caller file.2]
          else if started.2 ≠ 0 then [startReturned caller started.2]
          else (afterStart reason e caller file.1.logger.state).map .instr) ++ rest) ∧
      s'.logging.device =
        if file.2 ≠ 0 then file.1
        else if started.2 ≠ 0 then started.1.closeFile e.close
        else started.1.setState .logging := by
  intro file started
  by_cases hopen : file.2 = 0
  · have hopened : sessionExec s (.start (.openOutput (.sd reason e caller))) =
        ({ logging := { s.logging with device := file.1, log := [] }
           fileSession := s.logging.sessions + 1
           started := false }, [.start (.configure (.sd reason e caller))], none) := by
      simp only [sessionExec, execStart]
      rw [if_neg (not_not.mpr hopen)]
    obtain ⟨s', hsolo, hdevice⟩ := solo_afterOpen
      { logging := { s.logging with device := file.1, log := [] }
        fileSession := s.logging.sessions + 1
        started := false } rest reason e caller
    refine ⟨s', .cons ?_, ?_⟩
    · rw [hopened, if_neg (not_not.mpr hopen)]
      exact hsolo
    · rw [hdevice, if_neg (not_not.mpr hopen)]
  · refine ⟨s.setDevice file.1, .cons ?_, ?_⟩
    · simp only [sessionExec, execStart]
      rw [if_pos hopen, if_pos hopen]
      exact .refl
    · rw [if_pos hopen]
      rfl

theorem solo_startLocked (reason : Bytes) (e : StartEnv) (caller : StartCaller) :
    ∃ s', Solo sessionExec (s, .instr (.critical (.start reason e caller)) :: rest)
        (s', (execCritical s.logging.device (.start reason e caller)).2.1.map .instr ++ rest) ∧
      s'.logging.device = (execCritical s.logging.device (.start reason e caller)).1 := by
  cases hcan : s.logging.device.logger.state.canStart with
  | false =>
    refine ⟨s, .cons ?_, ?_⟩
    · simp only [sessionExec, execInstr, execBegin, execCritical, loggerStartLocked, hcan]
      exact .refl
    · simp [execCritical, loggerStartLocked, hcan]
  | true =>
    generalize hdir : createSessionDirectory e (s.logging.device.newSession e.rand e.now) = dir
    have hret : dir.2 = 0 := by
      rw [← hdir]
      rfl
    have hstate : (dir.1.openFile e.file).1.logger.state = s.logging.device.logger.state := by
      rw [← hdir]
      rfl
    have hlocked : loggerStartLocked e s.logging.device =
        (let file := dir.1.openFile e.file
          let started := (file.1.configureSession .toFile).startAggregator e.aggregatorNow
          if file.2 ≠ 0 then file
          else if started.2 ≠ 0 then (started.1.closeFile e.close, started.2)
          else (started.1.setState .logging, 0)) := by
      simp only [loggerStartLocked, hcan, hdir, hret]
      rfl
    have hbegin : sessionExec s (.instr (.critical (.start reason e caller))) =
        (s.setDevice dir.1, [.start (.openOutput (.sd reason e caller))], none) := by
      simp only [sessionExec, execInstr, execBegin, hcan, hdir, hret]
      rfl
    obtain ⟨s', hsolo, hdevice⟩ := solo_openOutput (s.setDevice dir.1) rest reason e caller
    rw [SessionLog.setDevice_device] at hsolo hdevice
    refine ⟨s', .cons ?_, ?_⟩
    · rw [hbegin]
      refine hsolo.trans ?_
      simp only [execCritical, hlocked, hstate, startReturned]
      split_ifs <;> first | exact .refl | contradiction
    · rw [hdevice]
      simp only [execCritical, hlocked]
      split_ifs <;> rfl

/-- The start over USB from the opening of the terminal on. -/
theorem solo_openTty (e : UsbStartEnv) :
    let tty := s.logging.device.openTty e.dtrOpen
    let started :=
      ((tty.1.registerDisconnectCallback (some .usbDisconnectHandler)).configureSession
        .usbTty).startAggregator e.aggregatorNow
    ∃ s', Solo sessionExec (s, .start (.openOutput (.usb e)) :: rest)
        (s', (if tty.2 ≠ 0 then []
          else if started.2 ≠ 0 then []
          else (afterStartUsb e tty.1.logger.state).map .instr) ++ rest) ∧
      s'.logging.device =
        if tty.2 ≠ 0 then tty.1.setUsbMode false
        else if started.2 ≠ 0 then started.1.closeTty.setUsbMode false
        else started.1.setState .logging := by
  intro tty started
  by_cases hopen : tty.2 = 0
  · have hopened : sessionExec s (.start (.openOutput (.usb e))) =
        (s.setDevice (tty.1.registerDisconnectCallback (some .usbDisconnectHandler)),
          [.start (.configure (.usb e))], none) := by
      simp only [sessionExec, execStart]
      rw [if_neg (not_not.mpr hopen)]
    obtain ⟨s', hsolo, hdevice⟩ := solo_configure
      (s.setDevice (tty.1.registerDisconnectCallback (some .usbDisconnectHandler))) rest (.usb e)
    have hconfigured : s'.logging.device.startAggregator e.aggregatorNow = started := by
      rw [hdevice]
      rfl
    have hstate : s'.logging.device.logger.state = tty.1.logger.state := by
      rw [hdevice]
      exact configureSession_state _ _
    refine ⟨(execStart s' (.startAggregator (.usb e))).1, .cons ?_, ?_⟩
    · rw [hopened, if_neg (not_not.mpr hopen)]
      refine hsolo.trans (.cons ?_)
      simp only [sessionExec, execStart, hconfigured, hstate]
      split <;> exact .refl
    · rw [if_neg (not_not.mpr hopen)]
      simp only [execStart, hconfigured]
      split <;> rfl
  · refine ⟨s.setDevice (tty.1.setUsbMode false), .cons ?_, ?_⟩
    · simp only [sessionExec, execStart]
      rw [if_pos hopen, if_pos hopen]
      exact .refl
    · rw [if_pos hopen]
      rfl

theorem solo_startUsbLocked (e : UsbStartEnv) :
    ∃ s', Solo sessionExec (s, .instr (.critical (.startUsb e)) :: rest)
        (s', (execCritical s.logging.device (.startUsb e)).2.1.map .instr ++ rest) ∧
      s'.logging.device = (execCritical s.logging.device (.startUsb e)).1 := by
  cases hcan : s.logging.device.logger.state.canStart with
  | false =>
    refine ⟨s, .cons ?_, ?_⟩
    · simp only [sessionExec, execInstr, execBegin, execCritical, loggerStartUsbLocked, hcan]
      exact .refl
    · simp [execCritical, loggerStartUsbLocked, hcan]
  | true =>
    cases hconnected : usbTtyIsConnected e.dtrConnected s.logging.device.usbTty with
    | false =>
      refine ⟨s, .cons ?_, ?_⟩
      · simp only [sessionExec, execInstr, execBegin, execCritical, loggerStartUsbLocked, hcan,
          hconnected]
        exact .refl
      · simp [execCritical, loggerStartUsbLocked, hcan, hconnected]
    | true =>
      generalize hdevice₀ : (s.logging.device.newSession e.rand e.now).setUsbMode true = d
      have hstate : (d.openTty e.dtrOpen).1.logger.state = s.logging.device.logger.state := by
        rw [← hdevice₀]
        rfl
      have hlocked : loggerStartUsbLocked e s.logging.device =
          (let tty := d.openTty e.dtrOpen
            let started :=
              ((tty.1.registerDisconnectCallback (some .usbDisconnectHandler)).configureSession
                .usbTty).startAggregator e.aggregatorNow
            if tty.2 ≠ 0 then (tty.1.setUsbMode false, tty.2)
            else if started.2 ≠ 0 then (started.1.closeTty.setUsbMode false, started.2)
            else (started.1.setState .logging, 0)) := by
        simp only [loggerStartUsbLocked, hcan, hconnected, hdevice₀]
        rfl
      have hbegin : sessionExec s (.instr (.critical (.startUsb e))) =
          (s.setDevice d, [.start (.openOutput (.usb e))], none) := by
        simp only [sessionExec, execInstr, execBegin, hcan, hconnected, hdevice₀]
        rfl
      obtain ⟨s', hsolo, hdevice⟩ := solo_openTty (s.setDevice d) rest e
      rw [SessionLog.setDevice_device] at hsolo hdevice
      refine ⟨s', .cons ?_, ?_⟩
      · rw [hbegin]
        refine hsolo.trans ?_
        simp only [execCritical, hlocked, hstate]
        split_ifs <;> first | exact .refl | contradiction
      · rw [hdevice]
        simp only [execCritical, hlocked]
        split_ifs <;> rfl

/-- The lines of a call, when nobody else writes. -/
theorem solo_outputSteps (call session index : Nat) (lines : List Bytes) :
    ∃ s', Solo sessionExec (s, (outputSteps call session index lines).map .output ++ rest)
        (s', rest) ∧
      s'.logging.device = s.logging.device.outputLines lines := by
  induction lines generalizing s index with
  | nil => exact ⟨s, .refl, rfl⟩
  | cons line lines ih =>
    obtain ⟨s', hsolo, hdevice⟩ :=
      ih { s with logging := s.logging.output ⟨call, index, session, line⟩ } (index + 1)
    exact ⟨s', .cons hsolo, hdevice⟩

/-- A step of a handler, alone, does what it does as one atomic step. -/
theorem solo_instr (i : Instr) :
    ∃ s', Solo sessionExec (s, .instr i :: rest)
        (s', (exec s.logging.device i).2.1.map .instr ++ rest) ∧
      s'.logging.device = (exec s.logging.device i).1 := by
  cases i with
  | critical c =>
    cases c with
    | start reason e caller => exact solo_startLocked s rest reason e caller
    | startUsb e => exact solo_startUsbLocked s rest e
    | jumped now => exact ⟨_, .cons .refl, rfl⟩
    | stop e => exact ⟨_, .cons .refl, rfl⟩
    | arm e => exact ⟨_, .cons .refl, rfl⟩
    | disarm groundSample => exact ⟨_, .cons .refl, rfl⟩
  | teardown p => exact ⟨_, .cons .refl, rfl⟩
  | call c =>
    cases c with
    | writeStateChange now oldState newState trigger =>
      obtain ⟨s', hsolo, hdevice⟩ := solo_outputSteps
        { s with logging := { s.logging with calls := s.logging.calls + 1 } } rest
        s.logging.calls s.logging.sessions 0
        (aggregatorWriteStateChange now (stateToString oldState) (stateToString newState) trigger
          s.logging.device.aggregator)
      exact ⟨s', .cons (.cons hsolo), hdevice⟩
    | _ => exact ⟨_, .cons .refl, rfl⟩
  | caller c => exact ⟨_, .cons .refl, rfl⟩

end Solo

/-! ## Runs -/

/-- A handler of the logger, or a call that writes lines. -/
def sessionEntry : Handler ⊕ OutputCall → List SessionStep
  | .inl h => h.entry.map .instr
  | .inr c => [.output (.begin c)]

/-- The scheduling choices: the next handler of the logger, the next call of a thread
that writes lines, or one step of either. -/
inductive SessionAction (ι : Type*) where
  | handler (h : Handler)
  | writer (i : ι) (c : OutputCall)
  | advance (o : Option ι)

def SessionAction.toThreads {ι : Type*} :
    SessionAction ι → Threads.Action (Option ι) (Handler ⊕ OutputCall)
  | .handler h => .call none (.inl h)
  | .writer i c => .call (some i) (.inr c)
  | .advance o => .advance o

section Runs

variable {ι : Type*} [DecidableEq ι]

def sessionStep (t : Threads (Option ι) SessionLog SessionStep) (a : SessionAction ι) :
    Threads (Option ι) SessionLog SessionStep × Option Empty :=
  Threads.step sessionEntry sessionExec t a.toThreads

/-- The threads when `main` has initialised and armed the logger, with no file yet. -/
def sessionsAtBoot (config : LoggerConfig) (usbEnabled : Bool) (version : AppVersion)
    (first second : Option ℚ) (arm : ArmEnv) : Threads (Option ι) SessionLog SessionStep where
  shared :=
    { logging :=
        { device := loggerArm arm (loggerInit config usbEnabled version first second)
          calls := 0, sessions := 0, log := [] }
      fileSession := 0
      started := false }
  code := fun _ => []

end Runs

end TempoBt
