-- SUMMARY: The runs of the logger in which the rate requested of the receiver follows the state.
import TempoBt.Services.Logger.Status

/-!
# Rate of the receiver

A jump raises the rate, a start and the executive's abort and landing lower it. A
stop by anybody else does not, so after a jumped session that is stopped by hand
the receiver goes on at the rate of the jump.
-/

namespace TempoBt

/-- The rate requested last is that of the state. -/
def RateFollowsState (s : Status) : Prop := s.gnssRateHz = if s.state = .jumped then 10 else 1

instance (s : Status) : Decidable (RateFollowsState s) :=
  inferInstanceAs (Decidable (s.gnssRateHz = if s.state = .jumped then 10 else 1))

/-- A jumped session is left by the executive only. -/
def LeftByExecutive (d : Device) : LoggerOp → Prop
  | .stop _ | .usbDisconnect _ | .arm _ => d.status.state ≠ .jumped
  | .start .. | .startUsb _ | .jumped _ | .disarm _ | .executive _ | .baroSample ..
  | .groundAltitudeTimer _ | .accelSample _ => True

section Functions

variable {d : Device} (h : RateFollowsState d.status)

include h

theorem loggerStart_rate (reason : Bytes) (e : StartEnv) :
    RateFollowsState (loggerStart reason e d).1.status := by
  rw [loggerStart_status]
  split
  · rfl
  · exact h

theorem loggerStartUsb_rate (e : UsbStartEnv) :
    RateFollowsState (loggerStartUsb e d).1.status := by
  rcases loggerStartUsb_status d e with ⟨-, -, hs⟩ | ⟨-, hs⟩ | ⟨-, -, callback, hs⟩
  · rw [hs]
    rfl
  · rwa [hs]
  · rw [hs]
    exact h

theorem loggerJumped_rate (now : UInt64) : RateFollowsState (loggerJumped now d).1.status := by
  rw [loggerJumped_status]
  split
  · rfl
  · exact h

/-- A stop keeps the rate, which fits the idle state unless it was the rate of a jump. -/
theorem loggerStop_rate_iff (e : StopEnv) :
    RateFollowsState (loggerStop e d).1.status ↔ d.status.state ≠ .jumped := by
  rw [loggerStop_status]
  unfold RateFollowsState at h ⊢
  by_cases hjumped : d.status.state = .jumped
  · rw [if_pos hjumped] at h
    simp [h, hjumped, LoggerState.canStop]
  · rw [if_neg hjumped] at h
    by_cases hstop : d.status.state.canStop = true
    · simp [h, hjumped, hstop]
    · simp [h, hjumped, hstop]

theorem loggerArm_rate_iff (e : ArmEnv) :
    RateFollowsState (loggerArm e d).status ↔ d.status.state ≠ .jumped := by
  rw [loggerArm_status]
  unfold RateFollowsState at h ⊢
  by_cases hjumped : d.status.state = .jumped
  · rw [if_pos hjumped] at h
    simp [h, hjumped]
  · rw [if_neg hjumped] at h
    simp [h, hjumped]

theorem loggerDisarm_rate (groundSample : Option ℚ) :
    RateFollowsState (loggerDisarm groundSample d).1.status := by
  rw [loggerDisarm_status]
  split
  · rename_i harmed
    rw [RateFollowsState, if_neg (by simp [harmed])] at h
    exact h
  · exact h

/-- An abort and a landing request the low rate themselves. -/
theorem loggerExecutive_rate (e : ExecutiveEnv) :
    RateFollowsState (loggerExecutive e d).status := by
  unfold loggerExecutive
  split
  · exact h
  · simp only
    have htick : RateFollowsState (d.executiveTick d.logger.state).1.status := by
      rwa [Device.executiveTick_status]
    generalize (d.executiveTick d.logger.state).1 = ticked at htick ⊢
    cases (d.executiveTick d.logger.state).2 with
    | none => exact htick
    | start => exact loggerStart_rate htick _ e.start
    | jumped => exact loggerJumped_rate htick e.jumpedNow
    | rearm => simp [executiveAct, RateFollowsState]

theorem loggerBaroHandler_rate (s : BaroReading) (e : StartEnv) :
    RateFollowsState (loggerBaroHandler s e d).status := by
  have hupdate : RateFollowsState (baroHandlerUpdate s d).1.status := by
    rwa [baroHandlerUpdate_status]
  unfold loggerBaroHandler
  simp only
  split
  · exact loggerStart_rate hupdate _ e
  · exact hupdate

/-- One operation leaves the rate right exactly when it meets the condition. -/
theorem loggerStep_rate_iff (op : LoggerOp) :
    RateFollowsState (loggerStep d op).1.status ↔ LeftByExecutive d op := by
  cases op with
  | start reason e => exact iff_of_true (loggerStart_rate h reason e) trivial
  | startUsb e => exact iff_of_true (loggerStartUsb_rate h e) trivial
  | jumped now => exact iff_of_true (loggerJumped_rate h now) trivial
  | stop e => exact loggerStop_rate_iff h e
  | arm e => exact loggerArm_rate_iff h e
  | disarm groundSample => exact iff_of_true (loggerDisarm_rate h groundSample) trivial
  | executive e => exact iff_of_true (loggerExecutive_rate h e) trivial
  | baroSample s e => exact iff_of_true (loggerBaroHandler_rate h s e) trivial
  | usbDisconnect e => exact loggerStop_rate_iff h e
  | groundAltitudeTimer sample =>
    exact iff_of_true (by simpa [loggerStep] using h) trivial
  | accelSample magnitudeG => exact iff_of_true h trivial

end Functions

/-- **The rate follows the state** in exactly the runs in which a jumped session is
left by the executive only. -/
theorem gnssRate_follows_iff (config : LoggerConfig) (usbEnabled : Bool) (version : AppVersion)
    (first second : Option ℚ) (ops : List LoggerOp) :
    Machine.Always loggerStep (fun d => RateFollowsState d.status)
        (loggerInit config usbEnabled version first second) ops ↔
      Machine.Guarded loggerStep LeftByExecutive
        (loggerInit config usbEnabled version first second) ops := by
  apply Machine.always_iff_guarded (I := fun d => RateFollowsState d.status)
  · intro d op h hleft
    exact (loggerStep_rate_iff h op).mpr hleft
  · intro d h
    exact h
  · intro d op h hleft
    exact fun hrate => hleft ((loggerStep_rate_iff h op).mp hrate)
  · rw [loggerInit_status]
    rfl

/-- A jumped session that is stopped by hand. -/
theorem not_gnssRate_follows_manualStop :
    ¬ Machine.Always loggerStep (fun d => RateFollowsState d.status)
      (loggerInit (loggerCfg false) true ⟨[], [], [], 0⟩ none none)
      [.arm .working, .start (ascii "manual_start") .working, .jumped 5500000, .stop .working] := by
  unfold Machine.Always
  decide +kernel

end TempoBt
