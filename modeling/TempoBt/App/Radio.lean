-- SUMMARY: The runs in which the radio is on without a session and off during one on the SD card.
import TempoBt.App.SystemStatus
import TempoBt.Lib.Machine

/-!
# Radio

The radio is switched by the logger, by the calibration streaming and by a stop
that is due some time after a start over BLE. Each of them knows its own occasion
only. The runs in which that does no harm are described exactly.
-/

namespace TempoBt

/-! ## The radio outside a session -/

/-- The radio is on where a session may be started. -/
def Status.OnWhenInactive (s : Status) : Prop :=
  s.state.canStart = true → s.bleRadioActive = true

/-- Without a session, without streaming and without a stop that is due, the radio
is on. -/
def System.RadioReachable (s : System) : Prop :=
  s.magCal.streaming = false → s.device.status.bleStopWork = false →
    s.device.status.OnWhenInactive

/-- A stop of the radio that is due finds a session or the streaming. -/
def System.StopsInUse (s : System) : SystemOp → Prop
  | .bleStopWork =>
    s.device.status.bleStopWork = true → s.device.status.state.canStart = true →
      s.magCal.streaming = true
  | .control .. | .testLogging .. | .alarmTick _ | .button0Long _ | .button1Long ..
  | .button1Short .. | .usbDisconnect _ | .executive _ | .baroSample .. | .groundAltitudeTimer _
  | .accelSample _ => True

/-- Every session ends with the radio on. -/
theorem Status.Change.onWhenInactive {s s' : Status} (h : Status.Change s s')
    (hs : s.OnWhenInactive) : s'.OnWhenInactive := by
  cases h with
  | started _ => exact fun hcan => absurd hcan (by simp [LoggerState.canStart])
  | startedUsb _ => exact fun hcan => absurd hcan (by simp [LoggerState.canStart])
  | refusedUsb hstate _ => exact fun _ => hs hstate
  | jumped _ => exact fun hcan => absurd hcan (by simp [LoggerState.canStart])
  | stopped _ => exact fun _ => rfl
  | armed hstate => exact fun _ => hs (by simp [hstate, LoggerState.canStart])
  | disarmed hstate => exact fun _ => hs (by simp [hstate, LoggerState.canStart])
  | slowed => exact hs

/-- Without streaming the radio is on outside a session. -/
def System.OnWhenUnused (s : System) : Prop :=
  s.magCal.streaming = false → s.device.status.OnWhenInactive

theorem System.onWhenUnused_step {s : System} {op : SystemOp} (h : s.OnWhenUnused)
    (hop : s.StopsInUse op) : (s.step op).OnWhenUnused := by
  intro hstreaming'
  cases s.step_change op with
  | logger called testAlarm hcalled _ hstatus hstreaming =>
    rw [hstreaming] at hstreaming'
    have hon := hcalled.keep (P := Status.OnWhenInactive) (fun _ _ hc => hc.onWhenInactive)
      (h hstreaming')
    rw [hstatus]
    exact hon
  | bleStart started hstarted hstate hstatus hstreaming =>
    rw [hstatus]
    exact fun _ => rfl
  | streamingStarts hstatus hstreaming =>
    rw [hstreaming] at hstreaming'
    exact absurd hstreaming' (by simp)
  | streamingEnds hends hstatus hstreaming =>
    rw [hstatus]
    exact fun _ => rfl
  | radioStops hstop hdue hstatus hstreaming =>
    subst hstop
    rw [hstatus]
    intro hcan
    rw [hstreaming, hop hdue hcan] at hstreaming'
    exact absurd hstreaming' (by simp)

/-- A stop that finds the device unused leaves it so, with the radio off. -/
theorem System.not_reachable_step {s : System} {op : SystemOp} (hop : ¬ s.StopsInUse op) :
    ¬ (s.step op).RadioReachable := by
  cases op with
  | bleStopWork =>
    simp only [StopsInUse, Classical.not_imp, Bool.not_eq_true] at hop
    obtain ⟨hdue, hcan, hstreaming⟩ := hop
    have hdue : s.device.bleStopWork = true := hdue
    have hstep : s.step .bleStopWork =
        { s with device := { s.device with bleStopWork := false }.bleMcumgrStop } := by
      rw [step, bleStopWorkHandler, if_pos hdue]
    rw [hstep]
    exact fun h => absurd (h hstreaming rfl hcan) (by simp [Device.status, Device.bleMcumgrStop])
  | control => exact absurd trivial hop
  | testLogging => exact absurd trivial hop
  | alarmTick => exact absurd trivial hop
  | button0Long => exact absurd trivial hop
  | button1Long => exact absurd trivial hop
  | button1Short => exact absurd trivial hop
  | usbDisconnect => exact absurd trivial hop
  | executive => exact absurd trivial hop
  | baroSample => exact absurd trivial hop
  | groundAltitudeTimer => exact absurd trivial hop
  | accelSample => exact absurd trivial hop

section AtBoot

variable (config : LoggerConfig) (usbEnabled : Bool) (version : AppVersion)
  (first second : Option ℚ) (arm : ArmEnv)

/-- **The device stays reachable** in exactly the runs in which every deferred stop of
the radio finds a session or the streaming. -/
theorem system_reachable_iff (ops : List SystemOp) :
    Machine.Always systemStep System.RadioReachable
        (System.atBoot config usbEnabled version first second arm) ops ↔
      Machine.Guarded systemStep System.StopsInUse
        (System.atBoot config usbEnabled version first second arm) ops := by
  apply Machine.always_iff_guarded (I := System.OnWhenUnused)
  · intro s op h hop
    exact System.onWhenUnused_step h hop
  · intro s h
    exact fun hstreaming _ => h hstreaming
  · intro s op _ hop
    exact System.not_reachable_step hop
  · intro _
    rw [System.atBoot_status]
    exact fun _ => rfl

end AtBoot

/-- A session that is started over BLE, and stopped before the radio is due to stop. -/
theorem not_system_reachable_stopWithinHalfSecond :
    ¬ Machine.Always systemStep System.RadioReachable
      (System.atBoot (loggerCfg false) true ⟨[], [], [], 0⟩ none none .working)
      [.control (textRequest (ascii "action") (ascii "start")) .working,
        .control (textRequest (ascii "action") (ascii "stop")) .working, .bleStopWork] := by
  intro h
  have hlast := h.2.2.2.1
  exact absurd (hlast (by decide +kernel) (by decide +kernel) (by decide +kernel))
    (by decide +kernel)

/-! ## The radio in a session -/

/-- In a session on the SD card the radio is off, unless due to stop. -/
def Status.OffInSession (s : Status) : Prop :=
  s.state.isActive = true → s.usbMode = false → s.bleStopWork = false → s.bleRadioActive = false

/-- The streaming does not end in a session on the SD card, unless the radio is due
to stop. -/
def System.StreamsOutsideSession (s : System) (op : SystemOp) : Prop :=
  s.EndsStreaming op → s.device.status.state.isActive = true → s.device.status.usbMode = false →
    s.device.status.bleStopWork = true

/-- Every session on the SD card begins with the radio off. -/
theorem Status.Change.offInSession {s s' : Status} (h : Status.Change s s')
    (hs : s.OffInSession) : s'.OffInSession := by
  cases h with
  | started _ => exact fun _ _ _ => rfl
  | startedUsb _ => exact fun _ husb => absurd husb (by simp)
  | refusedUsb hstate _ =>
    intro hactive
    cases hs' : s.state <;> simp_all [LoggerState.isActive, LoggerState.canStart]
  | jumped hstate => exact fun _ => hs (by simp [hstate, LoggerState.isActive])
  | stopped _ => exact fun hactive => absurd hactive (by simp [LoggerState.isActive])
  | armed _ => exact fun hactive => absurd hactive (by simp [LoggerState.isActive])
  | disarmed _ => exact fun hactive => absurd hactive (by simp [LoggerState.isActive])
  | slowed => exact hs

theorem System.offInSession_step_iff {s : System} (h : s.device.status.OffInSession)
    (op : SystemOp) :
    (s.step op).device.status.OffInSession ↔ s.StreamsOutsideSession op := by
  by_cases hends : s.EndsStreaming op
  · have hstatus : (s.step op).device.status =
        { s.device.status with bleRadioActive := true } := by
      rw [step_of_endsStreaming hends]
      rfl
    rw [hstatus]
    constructor
    · intro hoff _ hactive husb
      by_contra hdue
      exact absurd (hoff hactive husb (by simpa using hdue)) (by simp)
    · intro hop hactive husb hdue
      have hdue : s.device.status.bleStopWork = false := hdue
      rw [hop hends hactive husb] at hdue
      exact absurd hdue (by simp)
  · refine iff_of_true ?_ (fun hends' => absurd hends' hends)
    cases s.step_change op with
    | logger called testAlarm hcalled _ hstatus hstreaming =>
      rw [hstatus]
      exact hcalled.keep (P := Status.OffInSession) (fun _ _ hc => hc.offInSession) h
    | bleStart started hstarted hstate hstatus hstreaming =>
      rw [hstatus]
      exact fun _ _ hdue => absurd hdue (by simp)
    | streamingStarts hstatus hstreaming =>
      rw [hstatus]
      exact fun _ _ _ => rfl
    | streamingEnds hends' hstatus hstreaming => exact absurd hends' hends
    | radioStops hstop hdue hstatus hstreaming =>
      rw [hstatus]
      exact fun _ _ _ => rfl

/-- **The radio is off in every session on the SD card** in exactly the runs in which
the streaming ends outside such sessions, or with a stop of the radio due. -/
theorem radio_off_iff (config : LoggerConfig) (usbEnabled : Bool) (version : AppVersion)
    (first second : Option ℚ) (arm : ArmEnv) (ops : List SystemOp) :
    Machine.Always systemStep (fun s => s.device.status.OffInSession)
        (System.atBoot config usbEnabled version first second arm) ops ↔
      Machine.Guarded systemStep System.StreamsOutsideSession
        (System.atBoot config usbEnabled version first second arm) ops := by
  apply Machine.always_iff_guarded (I := fun s => s.device.status.OffInSession)
  · intro s op h hop
    exact (System.offInSession_step_iff h op).mpr hop
  · intro s h
    exact h
  · intro s op h hop hoff
    exact hop ((System.offInSession_step_iff h op).mp hoff)
  · rw [System.atBoot_status]
    exact fun hactive => absurd hactive (by simp [LoggerState.isActive])

/-- Streaming that is begun before a session and ended in it. -/
theorem not_radio_off_streamingEnded :
    ¬ Machine.Always systemStep (fun s => s.device.status.OffInSession)
      (System.atBoot (loggerCfg false) true ⟨[], [], [], 0⟩ none none .working)
      [.button1Short true (some true), .button0Long .working,
        .button1Short true (some true)] := by
  intro h
  have hlast := h.2.2.2.1
  exact absurd (hlast (by decide +kernel) (by decide +kernel) (by decide +kernel))
    (by decide +kernel)

end TempoBt
