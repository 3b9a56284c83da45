-- SUMMARY: The session machine that the logger refines, and the consistency of the session flags in every reachable state.
import TempoBt.Lib.Machine
import TempoBt.Services.Logger

/-!
# Sessions

What the logger is for, as a machine of its own: a device with no session, armed
or not, or with one session, on the SD card or over USB. Every operation of the
logger, run to completion, takes a step of this machine or fails and takes none,
so the flags that four services keep always tell one story.
-/

namespace TempoBt

/-! ## The session machine -/

inductive Session where
  | inactive (armed : Bool)
  | active (output : OutputCallback) (jumped : Bool)

namespace Session

def state : Session → LoggerState
  | .inactive armed => if armed then .armed else .idle
  | .active _ jumped => if jumped then .jumped else .logging

def output : Session → Option OutputCallback
  | .inactive _ => none
  | .active output _ => some output

/-- The operations of the machine. -/
inductive Op where
  | start (output : OutputCallback)
  | jump
  | stop
  | arm
  | disarm

/-- The session after an operation, where the operation is possible. -/
def step : Op → Session → Option Session
  | .start output, .inactive _ => some (.active output false)
  | .jump, .active output false => some (.active output true)
  | .stop, .active _ _ => some (.inactive false)
  | .arm, .inactive _ => some (.inactive true)
  | .disarm, .inactive true => some (.inactive false)
  | _, _ => none

def Next (s t : Session) : Prop := ∃ op, step op s = some t

end Session

/-- The flags tell of session `s`. -/
structure Flags.Represents (f : Flags) (s : Session) : Prop where
  state : f.state = s.state
  usbMode : f.usbMode = (s.output == some .usbTty)
  running : f.running = s.output.isSome
  fileOpen : f.fileOpen = (s.output == some .toFile)
  accelFilter : f.accelFilter = (s.output == some .toFile)

/-- The consistency of the flags of four services. -/
structure Flags.Consistent (f : Flags) : Prop where
  state : f.state = .idle ∨ f.state = .armed ∨ f.state = .logging ∨ f.state = .jumped
  running : f.running = true ↔ f.state = .logging ∨ f.state = .jumped
  fileOpen : f.fileOpen = true ↔ (f.state = .logging ∨ f.state = .jumped) ∧ f.usbMode = false
  usbMode : f.usbMode = true → f.state = .logging ∨ f.state = .jumped
  accelFilter :
    f.accelFilter = true ↔ (f.state = .logging ∨ f.state = .jumped) ∧ f.usbMode = false

/-- State, mode, aggregator and file are as they were. -/
def Flags.SameSession (f g : Flags) : Prop :=
  g.state = f.state ∧ g.usbMode = f.usbMode ∧ g.running = f.running ∧ g.fileOpen = f.fileOpen

namespace Flags.Represents

variable {f g : Flags} {s : Session}

theorem consistent (h : f.Represents s) : f.Consistent := by
  obtain ⟨hstate, husb, hrun, hfile, haccel⟩ := h
  cases s with
  | inactive armed =>
    cases armed <;> constructor <;> simp [*, Session.state, Session.output]
  | active output jumped =>
    cases output <;> cases jumped <;> constructor <;> simp [*, Session.state, Session.output]

theorem sameSession (hf : f.Represents s) (hg : g.Represents s) : f.SameSession g :=
  ⟨by rw [hf.state, hg.state], by rw [hf.usbMode, hg.usbMode], by rw [hf.running, hg.running],
    by rw [hf.fileOpen, hg.fileOpen]⟩

/-- Flags from which a session may be started tell of no session. -/
theorem inactive_of_canStart (h : f.Represents s) (hcan : f.state.canStart = true) :
    ∃ armed, s = .inactive armed := by
  cases s with
  | inactive armed => exact ⟨armed, rfl⟩
  | active output jumped =>
    rw [h.state] at hcan
    cases jumped <;> simp [Session.state, LoggerState.canStart] at hcan

theorem active_of_isActive (h : f.Represents s) (hactive : f.state.isActive = true) :
    ∃ output jumped, s = .active output jumped := by
  cases s with
  | active output jumped => exact ⟨output, jumped, rfl⟩
  | inactive armed =>
    rw [h.state] at hactive
    cases armed <;> simp [Session.state, LoggerState.isActive] at hactive

/-- Flags from which a session may be stopped tell of one. -/
theorem active_of_canStop (h : f.Represents s) (hcan : f.state.canStop = true) :
    ∃ output jumped, s = .active output jumped := by
  cases s with
  | active output jumped => exact ⟨output, jumped, rfl⟩
  | inactive armed =>
    rw [h.state] at hcan
    cases armed <;> simp [Session.state, LoggerState.canStop] at hcan

end Flags.Represents

/-! ## Each function refines the session machine -/

/-- A function with its return value fails and leaves the session, or returns 0 and
does `op`. -/
def Outcome (op : Session.Op) (s : Session) (r : Device × Int) : Prop :=
  (r.2 ≠ 0 ∧ r.1.flags.Represents s) ∨
    (r.2 = 0 ∧ ∃ t, Session.step op s = some t ∧ r.1.flags.Represents t)

section Functions

variable {d : Device} {s : Session}

theorem loggerStart_outcome (h : d.flags.Represents s) (reason : Bytes) (e : StartEnv) :
    Outcome (.start .toFile) s (loggerStart reason e d) := by
  unfold loggerStart
  simp only
  rcases loggerStartLocked_cases d e with
    ⟨-, hret, hsame⟩ | ⟨hcan, hret, callback, hflags⟩ | ⟨hcan, -, hret, hflags⟩
  · rw [if_pos hret]
    exact .inl ⟨hret, by rwa [hsame]⟩
  · obtain ⟨armed, rfl⟩ := h.inactive_of_canStart hcan
    rw [if_pos hret]
    refine .inl ⟨hret, ?_⟩
    rw [hflags]
    exact ⟨h.state, h.usbMode, h.running, rfl, h.accelFilter⟩
  · obtain ⟨armed, rfl⟩ := h.inactive_of_canStart hcan
    rw [if_neg (by simpa using hret)]
    refine .inr ⟨rfl, .active .toFile false, rfl, ?_⟩
    -- after the lock, only the acceleration filter is touched
    simp only [Device.bleMcumgrStop_flags, Device.enableAccelFilter_flags,
      Device.executiveResetCounters_flags, Device.gnssSetRate_flags,
      Device.publishSessionStart_flags,
      Device.writeStateChange_flags, hflags]
    exact ⟨rfl, h.usbMode, rfl, rfl, rfl⟩

theorem loggerStartUsb_outcome (h : d.flags.Represents s) (e : UsbStartEnv) :
    Outcome (.start .usbTty) s (loggerStartUsb e d) := by
  unfold loggerStartUsb
  simp only
  rcases loggerStartUsbLocked_cases d e with
    ⟨hret, hsame⟩ | ⟨hcan, hret, callback, ttyOpen, hflags⟩ | ⟨hcan, -, hret, hflags⟩
  · rw [if_pos hret]
    exact .inl ⟨hret, by rwa [hsame]⟩
  · obtain ⟨armed, rfl⟩ := h.inactive_of_canStart hcan
    rw [if_pos hret]
    refine .inl ⟨hret, ?_⟩
    rw [hflags]
    exact ⟨h.state, rfl, h.running, h.fileOpen, h.accelFilter⟩
  · obtain ⟨armed, rfl⟩ := h.inactive_of_canStart hcan
    rw [if_neg (by simpa using hret)]
    refine .inr ⟨rfl, .active .usbTty false, rfl, ?_⟩
    simp only [Device.gnssSetRate_flags, Device.writeStateChange_flags, hflags]
    exact ⟨rfl, rfl, rfl, h.fileOpen, h.accelFilter⟩

theorem loggerJumped_outcome (h : d.flags.Represents s) (now : UInt64) :
    Outcome .jump s (loggerJumped now d) := by
  rw [loggerJumped_eq]
  split
  · rename_i hstate
    have hs : s.state = .logging := by rw [← h.state]; exact hstate
    obtain ⟨output, rfl⟩ : ∃ output, s = .active output false := by
      cases s with
      | inactive armed => cases armed <;> simp [Session.state] at hs
      | active output jumped =>
        cases jumped with
        | false => exact ⟨output, rfl⟩
        | true => simp [Session.state] at hs
    refine .inr ⟨rfl, .active output true, rfl, ?_⟩
    simp only [Device.publish_flags, Device.writeStateChange_flags, Device.gnssSetRate_flags,
      Device.executiveResetCounters_flags, Device.setState_flags]
    exact ⟨rfl, h.usbMode, h.running, h.fileOpen, h.accelFilter⟩
  · exact .inl ⟨by simp [Errno.einval], h⟩

/-- A stop of a session always succeeds, whatever the medium does. -/
theorem loggerStop_active {output : OutputCallback} {jumped : Bool}
    (h : d.flags.Represents (.active output jumped)) (e : StopEnv) :
    (loggerStop e d).2 = 0 ∧ (loggerStop e d).1.flags.Represents (.inactive false) := by
  have hstate : d.logger.state.canStop = true := by
    have hstate : d.logger.state = (Session.active output jumped).state := h.state
    rw [hstate]
    cases jumped <;> rfl
  rw [loggerStop_eq, if_pos hstate]
  simp only [Device.bleMcumgrRestart_flags, sampleIfIdle_flags, Device.publishSessionStop_flags,
    closeOutput_flags, Device.stopAggregator_flags, Device.writeStateChange_flags,
    Device.disableAccelFilter_flags, Device.setState_flags, true_and]
  have husb := h.usbMode
  have hfile := h.fileOpen
  cases output with
  | toFile =>
    -- the mode tells a file session from a USB one
    rw [if_neg (by simp [husb, Session.output])]
    exact ⟨rfl, husb, rfl, rfl, rfl⟩
  | usbTty =>
    rw [if_pos (by simp [husb, Session.output])]
    exact ⟨rfl, rfl, rfl, hfile, rfl⟩

theorem loggerStop_outcome (h : d.flags.Represents s) (e : StopEnv) :
    Outcome .stop s (loggerStop e d) := by
  by_cases hstate : d.logger.state.canStop = true
  · obtain ⟨output, jumped, rfl⟩ := h.active_of_canStop hstate
    obtain ⟨hret, hstopped⟩ := loggerStop_active h e
    exact .inr ⟨hret, .inactive false, rfl, hstopped⟩
  · rw [loggerStop_eq, if_neg hstate]
    exact .inl ⟨by simp [Errno.einval], h⟩

theorem loggerDisarm_outcome (h : d.flags.Represents s) (groundSample : Option ℚ) :
    Outcome .disarm s (loggerDisarm groundSample d) := by
  rw [loggerDisarm_eq]
  split
  · rename_i hstate
    have hs : s.state = .armed := by rw [← h.state]; exact hstate
    obtain rfl : s = .inactive true := by
      cases s with
      | inactive armed =>
        cases armed with
        | true => rfl
        | false => simp [Session.state] at hs
      | active output jumped => cases jumped <;> simp [Session.state] at hs
    refine .inr ⟨rfl, .inactive false, rfl, ?_⟩
    simp only [Device.publish_flags, Device.startGroundAltitudeSampling_flags,
      Device.setState_flags]
    exact ⟨rfl, h.usbMode, h.running, h.fileOpen, h.accelFilter⟩
  · exact .inl ⟨by simp [Errno.einval], h⟩

theorem loggerArm_represents {armed : Bool} (h : d.flags.Represents (.inactive armed))
    (e : ArmEnv) : (loggerArm e d).flags.Represents (.inactive true) := by
  rw [loggerArm_flags]
  exact ⟨rfl, h.usbMode, h.running, h.fileOpen, h.accelFilter⟩

/-- The session afterwards is reached by steps of the session machine. -/
def Reaches (s : Session) (d : Device) : Prop :=
  ∃ t, Relation.ReflTransGen Session.Next s t ∧ d.flags.Represents t

theorem Outcome.reaches {op : Session.Op} {r : Device × Int} (h : Outcome op s r) :
    Reaches s r.1 := by
  rcases h with ⟨-, h⟩ | ⟨-, t, hstep, h⟩
  · exact ⟨s, .refl, h⟩
  · exact ⟨t, .single ⟨op, hstep⟩, h⟩

/-- A tick: at most one step, or a stop and the arming that follows it. -/
theorem loggerExecutive_reaches (h : d.flags.Represents s) (e : ExecutiveEnv) :
    Reaches s (loggerExecutive e d) := by
  unfold loggerExecutive
  split
  · exact ⟨s, .refl, h⟩
  · simp only
    have htick : (d.executiveTick d.logger.state).1.flags.Represents s := by
      rwa [executiveTick_flags]
    have hrearm := isActive_of_executiveTick_rearm d d.logger.state
    generalize (d.executiveTick d.logger.state).1 = ticked at htick ⊢
    cases haction : (d.executiveTick d.logger.state).2 with
    | none => exact ⟨s, .refl, htick⟩
    | start => exact (loggerStart_outcome htick _ e.start).reaches
    | jumped => exact (loggerJumped_outcome htick e.jumpedNow).reaches
    | rearm =>
      have hactive : d.flags.state.isActive = true := hrearm haction
      -- the tick asks to rearm only in a session, so its stop succeeds
      obtain ⟨output, jumped, rfl⟩ := h.active_of_isActive hactive
      obtain ⟨-, hstopped⟩ := loggerStop_active htick e.stop
      have harmed := loggerArm_represents hstopped e.arm
      refine ⟨.inactive true, ?_, ?_⟩
      · exact .tail (.single ⟨.stop, rfl⟩) ⟨.arm, rfl⟩
      · simpa only [executiveAct, Device.executiveResetCounters_flags, Device.gnssSetRate_flags]
          using harmed

theorem loggerBaroHandler_reaches (h : d.flags.Represents s) (r : BaroReading) (e : StartEnv) :
    Reaches s (loggerBaroHandler r e d) := by
  have hupdate : (baroHandlerUpdate r d).1.flags.Represents s := by
    rwa [baroHandlerUpdate_flags]
  unfold loggerBaroHandler
  simp only
  split
  · exact (loggerStart_outcome hupdate _ e).reaches
  · exact ⟨s, .refl, hupdate⟩

end Functions

/-! ## Runs -/

/-- The operations of the logger, each run to completion, with what the world
answers. -/
inductive LoggerOp where
  | start (reason : Bytes) (e : StartEnv)
  | startUsb (e : UsbStartEnv)
  | jumped (now : UInt64)
  | stop (e : StopEnv)
  | arm (e : ArmEnv)
  | disarm (groundSample : Option ℚ)
  | executive (e : ExecutiveEnv)
  | baroSample (s : BaroReading) (e : StartEnv)
  | usbDisconnect (e : StopEnv)
  | groundAltitudeTimer (sample : Option ℚ)
  | accelSample (magnitudeG : ℚ)

/-- One operation, with its return value; 0 where the function returns nothing. -/
def loggerStep (d : Device) : LoggerOp → Device × Int
  | .start reason e => loggerStart reason e d
  | .startUsb e => loggerStartUsb e d
  | .jumped now => loggerJumped now d
  | .stop e => loggerStop e d
  | .arm e => (loggerArm e d, 0)
  | .disarm groundSample => loggerDisarm groundSample d
  | .executive e => (loggerExecutive e d, 0)
  | .baroSample s e => (loggerBaroHandler s e d, 0)
  | .usbDisconnect e => (usbDisconnectHandler e d, 0)
  | .groundAltitudeTimer sample => (d.groundAltitudeWorkHandler sample, 0)
  | .accelSample magnitudeG =>
    ({ d with accelFilter := accelFilterUpdate magnitudeG d.accelFilter }, 0)

/-- The callers of `logger_arm` have seen the state IDLE. -/
def ArmsFromIdle (d : Device) : LoggerOp → Prop
  | .arm _ => d.logger.state = .idle
  | _ => True

instance (d : Device) (op : LoggerOp) : Decidable (ArmsFromIdle d op) :=
  match op with
  | .arm _ => inferInstanceAs (Decidable (d.logger.state = .idle))
  | .start .. | .startUsb _ | .jumped _ | .stop _ | .disarm _ | .executive _ | .baroSample ..
  | .usbDisconnect _ | .groundAltitudeTimer _ | .accelSample _ => .isTrue trivial

theorem loggerInit_represents (config : LoggerConfig) (usbEnabled : Bool) (version : AppVersion)
    (first second : Option ℚ) :
    (loggerInit config usbEnabled version first second).flags.Represents (.inactive false) := by
  rw [loggerInit_flags]
  exact ⟨rfl, rfl, rfl, rfl, rfl⟩

/-- Every operation is matched by steps of the session machine. -/
theorem loggerStep_reaches {d : Device} {s : Session} (h : d.flags.Represents s) (op : LoggerOp)
    (harm : ArmsFromIdle d op) : Reaches s (loggerStep d op).1 := by
  cases op with
  | start reason e => exact (loggerStart_outcome h reason e).reaches
  | startUsb e => exact (loggerStartUsb_outcome h e).reaches
  | jumped now => exact (loggerJumped_outcome h now).reaches
  | stop e => exact (loggerStop_outcome h e).reaches
  | arm e =>
    have hidle : d.flags.state = .idle := harm
    obtain ⟨armed, rfl⟩ := h.inactive_of_canStart (by rw [hidle]; rfl)
    exact ⟨.inactive true, .single ⟨.arm, rfl⟩, loggerArm_represents h e⟩
  | disarm groundSample => exact (loggerDisarm_outcome h groundSample).reaches
  | executive e => exact loggerExecutive_reaches h e
  | baroSample r e => exact loggerBaroHandler_reaches h r e
  | usbDisconnect e => exact (loggerStop_outcome h e).reaches
  | groundAltitudeTimer sample => exact ⟨s, .refl, by simpa [loggerStep] using h⟩
  | accelSample magnitudeG =>
    refine ⟨s, .refl, h.state, h.usbMode, h.running, h.fileOpen, ?_⟩
    exact (accelFilterUpdate_enabled magnitudeG d.accelFilter).trans h.accelFilter

/-- An operation that returns an error leaves the session. -/
theorem loggerStep_error {d : Device} {s : Session} (h : d.flags.Represents s) (op : LoggerOp)
    (hret : (loggerStep d op).2 ≠ 0) : (loggerStep d op).1.flags.Represents s := by
  have error_of_outcome {abstract : Session.Op} {r : Device × Int} (ho : Outcome abstract s r)
      (hr : r.2 ≠ 0) : r.1.flags.Represents s := by
    rcases ho with ⟨-, ho⟩ | ⟨hzero, -⟩
    · exact ho
    · exact absurd hzero hr
  cases op with
  | start reason e => exact error_of_outcome (loggerStart_outcome h reason e) hret
  | startUsb e => exact error_of_outcome (loggerStartUsb_outcome h e) hret
  | jumped now => exact error_of_outcome (loggerJumped_outcome h now) hret
  | stop e => exact error_of_outcome (loggerStop_outcome h e) hret
  | disarm groundSample => exact error_of_outcome (loggerDisarm_outcome h groundSample) hret
  | arm e => exact absurd rfl hret
  | executive e => exact absurd rfl hret
  | baroSample r e => exact absurd rfl hret
  | usbDisconnect e => exact absurd rfl hret
  | groundAltitudeTimer sample => exact absurd rfl hret
  | accelSample magnitudeG => exact absurd rfl hret

/-- In every run the logger follows the session machine. -/
theorem loggerRun_refines (config : LoggerConfig) (usbEnabled : Bool) (version : AppVersion)
    (first second : Option ℚ) {ops : List LoggerOp}
    (hops : Machine.Guarded loggerStep ArmsFromIdle
      (loggerInit config usbEnabled version first second) ops) :
    Reaches (.inactive false)
      (Machine.run loggerStep (loggerInit config usbEnabled version first second) ops).1 := by
  refine Machine.Guarded.simulation (R := fun (d : Device) s => d.flags.Represents s) ?_
    (loggerInit_represents config usbEnabled version first second) hops
  intro d op s h harm
  exact loggerStep_reaches h op harm

/-- After every run the flags are consistent, and a further operation that returns
an error leaves state, mode, aggregator and file as they were. -/
theorem loggerRun_consistent (config : LoggerConfig) (usbEnabled : Bool) (version : AppVersion)
    (first second : Option ℚ) (ops : List LoggerOp)
    (hops : Machine.Guarded loggerStep ArmsFromIdle
      (loggerInit config usbEnabled version first second) ops) :
    let d := (Machine.run loggerStep (loggerInit config usbEnabled version first second) ops).1
    d.flags.Consistent ∧
      ∀ op, (loggerStep d op).2 ≠ 0 → d.flags.SameSession (loggerStep d op).1.flags := by
  intro d
  obtain ⟨s, -, h⟩ := loggerRun_refines config usbEnabled version first second hops
  refine ⟨h.consistent, fun op hret => ?_⟩
  exact h.sameSession (loggerStep_error h op hret)

/-- Arming, a start that the card refuses, a session, and arming again. -/
theorem loggerRun_consistent_session :
    (Machine.run loggerStep (loggerInit (loggerCfg false) true ⟨[], [], [], 0⟩ none none)
      [.arm .working, .start [] { StartEnv.working with file.file := .error 4 },
        .start [] .working, .stop .working, .arm .working]).1.flags.Consistent :=
  (loggerRun_consistent (loggerCfg false) true ⟨[], [], [], 0⟩ none none
    [.arm .working, .start [] { StartEnv.working with file.file := .error 4 },
      .start [] .working, .stop .working, .arm .working] (by decide +kernel)).1

end TempoBt
