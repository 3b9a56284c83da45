-- SUMMARY: The sessions that begin beside a test alarm, and the runs in which the alarm marks no session as jumped but its own.
import TempoBt.App.SystemStatus
import TempoBt.Lib.Machine

/-!
# The session of the alarm

The alarm counts down to the jump of the session that it has started, and knows
that session by nothing but the state LOGGING. Beside the system runs an account of
the sessions that have begun, in which they have numbers.
-/

namespace TempoBt

/-! ## The account of sessions -/

/-- An operation begins a session at most once. -/
def System.Begins (s s' : System) : Prop :=
  s.device.status.state.canStart = true ∧ s'.device.status.state.isActive = true

instance (s s' : System) : Decidable (s.Begins s') := instDecidableAnd

structure Watched where
  system : System
  /-- The sessions that have begun; an active session is the last of them. -/
  sessions : Nat
  /-- The session that the alarm has begun since its request. -/
  alarmSession : Option Nat
  /-- The sessions that have begun since then. -/
  later : Nat

namespace Watched

def atBoot (s : System) : Watched := ⟨s, 0, none, 0⟩

/-- A session begins at the operation `op`. -/
def begin (op : SystemOp) (w : Watched) : Watched :=
  match op with
  | .alarmTick _ =>
    { w with sessions := w.sessions + 1, alarmSession := some (w.sessions + 1), later := 0 }
  | _ => { w with sessions := w.sessions + 1, later := w.later + 1 }

/-- A request forgets the session of an earlier alarm. -/
def request (op : SystemOp) (w : Watched) : Watched :=
  match op with
  | .testLogging .. => { w with alarmSession := none, later := 0 }
  | _ => w

def step (w : Watched) (op : SystemOp) : Watched × Unit :=
  let w' := { w with system := w.system.step op }
  ((if w.system.Begins w'.system then w'.begin op else w').request op, ())

end Watched

/-! ## Ticks of the alarm -/

/-- The tick `e` ends the countdown. -/
def TestAlarm.Completes (e : AlarmEnv) (a : TestAlarm) : Prop :=
  a.state = .waitingJump ∧ e.utcMs ≠ 0 ∧ a.decrementCountdown.jumpCountdown = 0

instance (e : AlarmEnv) (a : TestAlarm) : Decidable (a.Completes e) := instDecidableAnd

/-- In LOGGING a tick marks the jump exactly when it ends the countdown. -/
theorem testAlarmWorkHandler_jumped_iff {d : Device} (hstate : d.status.state = .logging)
    (e : AlarmEnv) :
    (testAlarmWorkHandler e d).1.status.state = .jumped ↔ d.testAlarm.Completes e := by
  have hnot : d.status.state ≠ .jumped := by simp [hstate]
  unfold testAlarmWorkHandler TestAlarm.Completes
  cases halarm : d.testAlarm.state with
  | idle => simp [hnot]
  | waitingStart =>
    simp only
    split
    · simp [hnot]
    · -- a start is refused in LOGGING
      have hidle : d.logger.state ≠ .idle := fun h => by
        have hidle : d.status.state = .idle := h
        simp [hstate] at hidle
      rw [if_neg hidle, Device.setTestAlarm_status, loggerStart_status]
      split
      · simp
      · simp [hnot]
  | waitingJump =>
    simp only
    by_cases hutc : e.utcMs = 0
    · simp [hutc, hnot]
    · rw [if_neg hutc]
      by_cases hcount : d.testAlarm.decrementCountdown.jumpCountdown = 0
      · rw [if_pos (by exact hcount), Device.setTestAlarm_status, loggerJumped_status,
          if_pos (by exact hstate)]
        simp [hutc, hcount]
      · rw [if_neg (by exact hcount), Device.setTestAlarm_status]
        simp [hnot, hcount]

/-- After a tick the alarm counts down only if it did before, or has just begun a
session. -/
theorem testAlarmWorkHandler_waitingJump {d : Device} {e : AlarmEnv}
    (h : (testAlarmWorkHandler e d).1.testAlarm.state = .waitingJump) :
    (d.testAlarm.state = .waitingJump ∧
      (testAlarmWorkHandler e d).1.status.state = d.status.state) ∨
    (d.status.state.canStart = true ∧
      (testAlarmWorkHandler e d).1.status.state = .logging) := by
  unfold testAlarmWorkHandler at h ⊢
  cases halarm : d.testAlarm.state with
  | idle => simp [halarm] at h
  | waitingStart =>
    rw [halarm] at h
    simp only at h ⊢
    split at h
    · simp [halarm] at h
    · rename_i htime
      rw [if_neg htime]
      right
      generalize hr : loggerStart (ascii "test_alarm") e.start
        (if d.logger.state = .idle then loggerArm e.arm d else d) = r at h ⊢
      have hret : r.2 = 0 := by
        by_contra hret
        have hidle : (r.1.setTestAlarm (r.1.testAlarm.started r.2)).testAlarm.state = .idle := by
          simp [TestAlarm.started, hret, TestAlarm.setState, Device.setTestAlarm]
        rw [hidle] at h
        exact absurd h (by simp)
      subst hr
      refine ⟨?_, by rw [Device.setTestAlarm_status, loggerStart_status, if_pos hret]⟩
      by_cases hidle : d.logger.state = .idle
      · have hidle : d.status.state = .idle := hidle
        rw [hidle]
        rfl
      · rw [if_neg hidle] at hret
        exact canStart_of_loggerStart hret
  | waitingJump =>
    left
    rw [halarm] at h
    simp only at h ⊢
    split at h
    · rename_i hutc
      simp [hutc]
    · rename_i hutc
      rw [if_neg hutc]
      split at h
      · simp [Device.setTestAlarm, TestAlarm.setState] at h
      · rename_i hcount
        rw [if_neg hcount]
        exact ⟨trivial, rfl⟩

/-! ## Runs -/

namespace Watched

/-- A jump that a tick of the alarm marks is that of the alarm's own session. -/
def JumpsOwnSession (w : Watched) (op : SystemOp) (w' : Watched) : Prop :=
  match op with
  | .alarmTick _ =>
    w.system.device.status.state = .logging → w'.system.device.status.state = .jumped →
      w.alarmSession = some w.sessions
  | _ => True

instance (w : Watched) (op : SystemOp) (w' : Watched) : Decidable (w.JumpsOwnSession op w') := by
  unfold JumpsOwnSession
  split <;> infer_instance

/-- A countdown that ends in LOGGING has seen no session begin. -/
def CountsAlone (w : Watched) (op : SystemOp) : Prop :=
  match op with
  | .alarmTick e =>
    w.system.device.testAlarm.Completes e → w.system.device.status.state = .logging → w.later = 0
  | _ => True

/-- While the alarm counts down, the account knows its session. -/
def Accounted (w : Watched) : Prop :=
  w.system.device.testAlarm.state = .waitingJump →
    ∃ own, w.alarmSession = some own ∧ w.sessions = own + w.later

@[simp] theorem begin_system (op : SystemOp) (w : Watched) : (w.begin op).system = w.system := by
  cases op <;> rfl

@[simp] theorem request_system (op : SystemOp) (w : Watched) :
    (w.request op).system = w.system := by
  cases op <;> rfl

theorem step_system (w : Watched) (op : SystemOp) :
    (w.step op).1.system = w.system.step op := by
  simp only [step, request_system]
  split
  · rw [begin_system]
  · rfl

/-- Nothing but a tick and a request concerns the alarm's session. -/
theorem step_account {w : Watched} {op : SystemOp} (hop : ¬ op.SetsAlarm) :
    (w.step op).1.alarmSession = w.alarmSession ∧
      ∃ begun, (w.step op).1.sessions = w.sessions + begun ∧
        (w.step op).1.later = w.later + begun := by
  have hrequest (w' : Watched) : w'.request op = w' := by
    cases op <;> first | rfl | exact absurd trivial hop
  have hbegin (w' : Watched) :
      w'.begin op = { w' with sessions := w'.sessions + 1, later := w'.later + 1 } := by
    cases op <;> first | rfl | exact absurd trivial hop
  simp only [step, hrequest, hbegin]
  split
  · exact ⟨rfl, 1, rfl, rfl⟩
  · exact ⟨rfl, 0, rfl, rfl⟩

theorem accounted_step {w : Watched} (h : w.Accounted) (op : SystemOp) :
    (w.step op).1.Accounted := by
  by_cases hop : op.SetsAlarm
  · intro hstate
    rw [step_system] at hstate
    cases op with
    | alarmTick e =>
      have hstate : (testAlarmWorkHandler e w.system.device).1.testAlarm.state = .waitingJump :=
        hstate
      rcases testAlarmWorkHandler_waitingJump hstate with ⟨hwas, hsame⟩ | ⟨hcan, hlogging⟩
      · -- the countdown goes on, and no session begins
        have hbegins : ¬ w.system.Begins (w.system.step (.alarmTick e)) := by
          rintro ⟨hcan, hactive⟩
          have hactive : (testAlarmWorkHandler e w.system.device).1.status.state.isActive = true :=
            hactive
          rw [hsame] at hactive
          cases hs : w.system.device.status.state <;>
            simp_all [LoggerState.canStart, LoggerState.isActive]
        simp only [step, if_neg hbegins, request]
        exact h hwas
      · have hbegins : w.system.Begins (w.system.step (.alarmTick e)) := by
          refine ⟨hcan, ?_⟩
          have hactive :
              (testAlarmWorkHandler e w.system.device).1.status.state.isActive = true := by
            rw [hlogging]
            rfl
          exact hactive
        simp only [step, if_pos hbegins, request, begin]
        exact ⟨w.sessions + 1, rfl, rfl⟩
    | testLogging targetUtcMs jumpDelaySec => exact absurd hstate (by simp [System.step,
        System.onDevice, testLoggingScheduled, Device.setTestAlarm])
    | _ => exact hop.elim
  · intro hstate
    have hkeep : (w.system.step op).device.testAlarm = w.system.device.testAlarm :=
      System.step_testAlarm hop
    rw [step_system, hkeep] at hstate
    obtain ⟨own, hown, hsessions⟩ := h hstate
    obtain ⟨halarm, begun, hbegun, hlater⟩ := w.step_account hop
    refine ⟨own, halarm.trans hown, ?_⟩
    rw [hbegun, hlater, hsessions, Nat.add_assoc]

/-- At one operation the jump is the own session's exactly when the countdown has
seen no other. -/
theorem jumpsOwnSession_iff {w : Watched} (h : w.Accounted) (op : SystemOp) :
    w.JumpsOwnSession op (w.step op).1 ↔ w.CountsAlone op := by
  cases op with
  | alarmTick e =>
    have hsystem :
        (w.step (.alarmTick e)).1.system.device = (testAlarmWorkHandler e w.system.device).1 := by
      rw [step_system]
      rfl
    simp only [JumpsOwnSession, CountsAlone, hsystem]
    constructor
    · intro hjump hcompletes hlogging
      have hjumped := (testAlarmWorkHandler_jumped_iff hlogging e).mpr hcompletes
      obtain ⟨own, hown, hsessions⟩ := h hcompletes.1
      have heq : some own = some w.sessions := hown.symm.trans (hjump hlogging hjumped)
      rw [Option.some.injEq] at heq
      omega
    · intro halone hlogging hjumped
      have hcompletes := (testAlarmWorkHandler_jumped_iff hlogging e).mp hjumped
      obtain ⟨own, hown, hsessions⟩ := h hcompletes.1
      rw [hown, hsessions, halone hcompletes hlogging, Nat.add_zero]
  | _ => exact Iff.rfl

end Watched

/-- **A test alarm touches its own session only** in exactly the runs in which no
other session has begun when a countdown ends in LOGGING. -/
theorem alarm_jumpsOwnSession_iff (config : LoggerConfig) (usbEnabled : Bool)
    (version : AppVersion) (first second : Option ℚ) (arm : ArmEnv) (ops : List SystemOp) :
    Machine.Along Watched.step Watched.JumpsOwnSession
        (.atBoot (System.atBoot config usbEnabled version first second arm)) ops ↔
      Machine.Guarded Watched.step Watched.CountsAlone
        (.atBoot (System.atBoot config usbEnabled version first second arm)) ops := by
  apply Machine.along_iff_guarded (I := Watched.Accounted)
  · intro w op h _
    exact Watched.accounted_step h op
  · intro w op h halone
    exact (Watched.jumpsOwnSession_iff h op).mpr halone
  · intro w op h halone hjump
    exact halone ((Watched.jumpsOwnSession_iff h op).mp hjump)
  · intro hstate
    have halarm : (System.atBoot config usbEnabled version first second arm).device.testAlarm =
        .initial := by
      have hstatus := System.atBoot_status config usbEnabled version first second arm
      exact congrArg Status.testAlarm hstatus
    rw [Watched.atBoot, halarm] at hstate
    exact absurd hstate (by simp [TestAlarm.initial])

/-- The alarm's session is stopped by hand while the countdown goes on, and another
one is started over BLE. -/
theorem not_alarm_jumpsOwnSession_manualRestart :
    ¬ Machine.Along Watched.step Watched.JumpsOwnSession
      (.atBoot (System.atBoot (loggerCfg false) true ⟨[], [], [], 0⟩ none none .working))
      ([.testLogging 1000 30, .alarmTick (.working 1000), .button1Long .working .working,
          .control (textRequest (ascii "action") (ascii "start")) .working] ++
        List.replicate 30 (.alarmTick (.working 2000))) := by
  decide +kernel

end TempoBt
