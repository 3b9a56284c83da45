-- SUMMARY: Automatic starts and the climb before them: which ticks and samples of the armed period the two detectors have counted.
import TempoBt.Lib.Evidence
import TempoBt.Services.Logger.ExecutiveRuns

/-!
# Takeoff

Two detectors start a session by themselves: the executive counts its ticks, the
barometer handler the samples. Neither counter is reset where the logger becomes
ARMED, so a climb may have begun before.
-/

namespace TempoBt

/-! ## Ticks and samples -/

/-- A tick that sees a climb. -/
def Device.climbs (d : Device) : Bool :=
  decide d.Ticks && decide (execTakeoffClimbRateMps < d.executive.climbRateEstMps)

/-- A sample that the takeoff detection has looked at. -/
structure ClimbSample where
  timestampUs : UInt64
  climbs : Bool

/-- `logger_baro_handler` up to the takeoff detection: the climb rate and the height
above ground, unless the sample is discarded. -/
def baroEstimate (s : BaroReading) (d : Device) : Device × Option (ℚ × ℚ) :=
  if !s.pressureValid then (d, none)
  else
    let setsGround := d.logger.state = .armed ∧ !d.baroHandler.groundLevelSet
    let dt := sampleDt s d.baroHandler.lastSampleTimeUs
    let d :=
      { d with
        baroHandler :=
          { d.baroHandler with
            groundAltitudeM := if setsGround then s.altitudeM else d.baroHandler.groundAltitudeM
            groundLevelSet := d.baroHandler.groundLevelSet || decide setsGround
            lastSampleTimeUs := s.timestampUs } }
    if dt < 1 / 1000 ∨ 10 < dt then (d, none)
    else
      let median := medianFilter s.altitudeM d.executive
      if !median.1.filterInitialized then
        ({ d with
            executive :=
              { median.1 with
                altitudeEstM := median.2, climbRateEstMps := 0, filterInitialized := true } },
          none)
      else
        let executive := alphaBetaUpdate median.2 dt median.1
        ({ d with executive },
          some (executive.climbRateEstMps, median.2 - d.baroHandler.groundAltitudeM))

/-- The handler is its estimate and the takeoff detection. -/
theorem baroHandlerUpdate_eq (s : BaroReading) (d : Device) :
    baroHandlerUpdate s d =
      match (baroEstimate s d).2 with
      | some (climbRate, agl) => takeoffDetection climbRate agl (baroEstimate s d).1
      | none => ((baroEstimate s d).1, false) := by
  unfold baroHandlerUpdate baroEstimate
  split
  · rfl
  · simp only
    split
    · rfl
    · split <;> rfl

/-- The sample as the takeoff detection sees it, in ARMED with an automatic start. -/
def Device.takeoffSample (s : BaroReading) (d : Device) : Option ClimbSample :=
  if d.logger.state = .armed ∧ d.logger.config.autoStartOnTakeoff then
    (baroEstimate s d).2.map fun (climbRate, agl) =>
      { timestampUs := s.timestampUs
        climbs := decide (takeoffClimbRateMps < climbRate ∧ takeoffMinAltitudeM < agl) }
  else none

/-! ## Armed periods -/

/-- The device, the ticks and samples since it last became ARMED, and whether each
counter has been zero since. -/
structure ArmedPeriod where
  device : Device
  ticks : List Bool
  samples : List ClimbSample
  ticksFresh : Bool
  samplesFresh : Bool

namespace ArmedPeriod

/-- The ticks with the one of the operation. -/
def ticksWith (w : ArmedPeriod) : LoggerOp → List Bool
  | .executive _ => w.ticks ++ [w.device.climbs]
  | _ => w.ticks

/-- The samples with the one of the operation. -/
def samplesWith (w : ArmedPeriod) : LoggerOp → List ClimbSample
  | .baroSample s _ => w.samples ++ (w.device.takeoffSample s).toList
  | _ => w.samples

/-- The climb that is under way, with the sample of the operation. -/
def climbWith (w : ArmedPeriod) (op : LoggerOp) : List ClimbSample :=
  (w.samplesWith op).lastRun ClimbSample.climbs

def step (w : ArmedPeriod) (op : LoggerOp) : ArmedPeriod × Int :=
  let r := loggerStep w.device op
  let becomesArmed : Bool := w.device.logger.state ≠ .armed ∧ r.1.logger.state = .armed
  ({ device := r.1
     ticks := if becomesArmed then [] else w.ticksWith op
     samples := if becomesArmed then [] else w.samplesWith op
     ticksFresh := decide (r.1.executive.takeoffConfirmCount = 0) || (!becomesArmed && w.ticksFresh)
     samplesFresh :=
       decide (r.1.baroHandler.climbSamples = 0) || (!becomesArmed && w.samplesFresh) },
    r.2)

end ArmedPeriod

/-- Whether the operation calls `logger_start` by itself. -/
def Device.startsItself (d : Device) : LoggerOp → Bool
  | .executive _ => decide (d.executiveAction = .start)
  | .baroSample s _ => (baroHandlerUpdate s d).2
  | _ => false

/-- A climb that justifies a start: more samples than 5 s at the configured rate, over
at least 5 s. -/
def Sustained (envRateHz : Nat) (climb : List ClimbSample) : Prop :=
  5 * envRateHz < climb.length ∧
    ∀ first ∈ climb.head?, ∀ last ∈ climb.getLast?,
      first.timestampUs.toNat + 5000000 ≤ last.timestampUs.toNat

/-- An automatic start has its whole climb in the armed period. -/
def ArmedPeriod.Debounced (w : ArmedPeriod) (op : LoggerOp) (_ : ArmedPeriod) : Prop :=
  w.device.startsItself op = true →
    match op with
    | .executive _ => 12 ≤ (w.ticksWith op).trailing id
    | .baroSample .. =>
      Sustained w.device.logger.config.envRateHz.toNat (w.climbWith op)
    | _ => True

/-- The samples of a climb came, on average, no faster than the configured rate, as far as
they count towards its 5 s. -/
def Paced (envRateHz : Nat) (climb : List ClimbSample) : Prop :=
  0 < envRateHz ∧
    ∀ first ∈ climb.head?, ∀ last ∈ climb.getLast?,
      envRateHz * first.timestampUs.toNat + min (climb.length - 1) (5 * envRateHz) * 1000000 ≤
        envRateHz * last.timestampUs.toNat

/-- At an automatic start its counter has been zero since the logger became ARMED, and a
start of the handler counted samples that came no faster than it assumes. -/
def ArmedPeriod.Confirmed (w : ArmedPeriod) (op : LoggerOp) : Prop :=
  w.device.startsItself op = true →
    match op with
    | .executive _ => w.ticksFresh = true
    | .baroSample .. =>
      w.samplesFresh = true ∧ Paced w.device.logger.config.envRateHz.toNat (w.climbWith op)
    | _ => True

section Instances

variable (w w' : ArmedPeriod) (op : LoggerOp)

instance (envRateHz : Nat) (climb : List ClimbSample) : Decidable (Sustained envRateHz climb) :=
  inferInstanceAs (Decidable (_ ∧ _))

instance (envRateHz : Nat) (climb : List ClimbSample) : Decidable (Paced envRateHz climb) :=
  inferInstanceAs (Decidable (_ ∧ _))

instance : Decidable (w.Debounced op w') :=
  match op with
  | .executive e =>
    inferInstanceAs (Decidable (w.device.startsItself (.executive e) = true →
      12 ≤ (w.ticksWith (.executive e)).trailing id))
  | .baroSample s e =>
    inferInstanceAs (Decidable (w.device.startsItself (.baroSample s e) = true →
      Sustained w.device.logger.config.envRateHz.toNat (w.climbWith (.baroSample s e))))
  | .start .. | .startUsb _ | .jumped _ | .stop _ | .arm _ | .disarm _ | .usbDisconnect _
  | .groundAltitudeTimer _ | .accelSample _ => .isTrue fun _ => trivial

instance : Decidable (w.Confirmed op) :=
  match op with
  | .executive e =>
    inferInstanceAs (Decidable (w.device.startsItself (.executive e) = true →
      w.ticksFresh = true))
  | .baroSample s e =>
    inferInstanceAs (Decidable (w.device.startsItself (.baroSample s e) = true →
      w.samplesFresh = true ∧
        Paced w.device.logger.config.envRateHz.toNat (w.climbWith (.baroSample s e))))
  | .start .. | .startUsb _ | .jumped _ | .stop _ | .arm _ | .disarm _ | .usbDisconnect _
  | .groundAltitudeTimer _ | .accelSample _ => .isTrue fun _ => trivial

end Instances

/-! ## Ticks in ARMED -/

section Ticks

variable {d : Device}

theorem executiveAction_armed (hticks : d.Ticks) (harmed : d.logger.state = .armed) :
    d.executiveAction = .start ↔
      d.climbs = true ∧ 12 ≤ (d.executive.takeoffConfirmCount + 1).toNat := by
  have haction : d.executiveAction =
      (executiveHandleArmedState d.executive.climbRateEstMps d.executive).2 := by
    rw [Device.executiveAction, if_neg (by simp [hticks.1]), harmed, executiveTick_armed hticks.2]
  rw [haction, executiveHandleArmedState]
  by_cases hclimb : execTakeoffClimbRateMps < d.executive.climbRateEstMps
  · simp [Device.climbs, hticks, hclimb, execTicksPerSecond]
  · simp [Device.climbs, hclimb]

theorem lowActivityTimeout_ne_start (climbRate : ℚ) (timeoutS : UInt32) (x : Executive) :
    (lowActivityTimeout climbRate timeoutS x).2 ≠ .start := by
  unfold lowActivityTimeout
  split
  · simp only
    split <;> simp
  · simp

theorem executiveHandleLoggingState_ne_start (climbRate : ℚ) (accel : Option ℚ) (x : Executive) :
    (executiveHandleLoggingState climbRate accel x).2 ≠ .start := by
  unfold executiveHandleLoggingState
  simp only
  split_ifs
  all_goals first | exact lowActivityTimeout_ne_start _ _ _ | simp

/-- Only in ARMED a tick starts a session. -/
theorem armed_of_executiveAction (h : d.executiveAction = .start) :
    d.logger.state = .armed ∧ d.Ticks := by
  have hticks : d.Ticks := by
    by_contra hnot
    have hnone := (loggerExecutive_of_not_ticks hnot .working).2
    exact absurd (h.symm.trans hnone) (by decide)
  refine ⟨?_, hticks⟩
  rw [Device.executiveAction, if_neg (by simp [hticks.1])] at h
  cases hstate : d.logger.state with
  | armed => rfl
  | logging =>
    rw [hstate, executiveTick_logging hticks.2] at h
    exact absurd h (executiveHandleLoggingState_ne_start _ _ _)
  | jumped =>
    rw [hstate, executiveTick_jumped hticks.2] at h
    exact absurd h (lowActivityTimeout_ne_start _ _ _)
  | idle | postflight | error =>
    rw [hstate] at h
    simp [Device.executiveTick, hticks.2] at h

/-- A tick that leaves the logger ARMED only counts. -/
theorem loggerExecutive_armed (hticks : d.Ticks) (harmed : d.logger.state = .armed)
    {e : ExecutiveEnv} (harmed' : (loggerExecutive e d).logger.state = .armed) :
    (loggerExecutive e d).executive.takeoffConfirmCount =
        (if d.climbs then d.executive.takeoffConfirmCount + 1 else 0) ∧
      (loggerExecutive e d).Ticks := by
  let r := executiveHandleArmedState d.executive.climbRateEstMps d.executive
  have hexec : loggerExecutive e d = executiveAct e { d with executive := r.1 } r.2 := by
    rw [loggerExecutive, if_neg (by simp [hticks.1]), harmed, executiveTick_armed hticks.2]
  have hcount : r.1.takeoffConfirmCount =
      if d.climbs then d.executive.takeoffConfirmCount + 1 else 0 := by
    by_cases hclimb : execTakeoffClimbRateMps < d.executive.climbRateEstMps
    · simp [r, executiveHandleArmedState, Device.climbs, hticks, hclimb]
    · simp [r, executiveHandleArmedState, Device.climbs, hclimb]
  obtain ⟨count, action, hhandle, haction⟩ :=
    executiveHandleArmedState_cases d.executive.climbRateEstMps d.executive
  have hfilter : r.1.filterInitialized = true := by
    have hr : r = _ := hhandle
    rw [hr]
    exact hticks.2
  rw [hexec] at harmed' ⊢
  rcases haction with rfl | rfl
  · have hnone : r.2 = .none := congrArg Prod.snd hhandle
    rw [hnone]
    exact ⟨hcount, hticks.1, hfilter⟩
  · have hstart : r.2 = .start := congrArg Prod.snd hhandle
    rw [hstart] at harmed' ⊢
    by_cases hret : (loggerStart (ascii "takeoff_detected") e.start
        { d with executive := r.1 }).2 = 0
    · obtain ⟨-, hlogging, -⟩ := executiveAct_start_ok e hret
      exact absurd (hlogging.symm.trans harmed') (by decide)
    · obtain ⟨husb, -, hsame⟩ := executiveAct_start_error e hret
      exact ⟨(congrArg Executive.takeoffConfirmCount hsame).trans hcount,
        husb.trans hticks.1, (congrArg Executive.filterInitialized hsame).trans hfilter⟩

end Ticks

/-! ## Samples -/

section Samples

variable (s : BaroReading) (d : Device)

/-- The estimate leaves the logger and both counters alone. -/
theorem baroEstimate_keeps :
    (baroEstimate s d).1.logger = d.logger ∧
      (baroEstimate s d).1.baroHandler.climbSamples = d.baroHandler.climbSamples ∧
      (baroEstimate s d).1.executive.takeoffConfirmCount = d.executive.takeoffConfirmCount := by
  unfold baroEstimate
  split
  · exact ⟨rfl, rfl, rfl⟩
  · simp only
    split
    · exact ⟨rfl, rfl, rfl⟩
    · split <;> exact ⟨rfl, rfl, rfl⟩

theorem baroEstimate_filterInitialized (h : d.executive.filterInitialized = true) :
    (baroEstimate s d).1.executive.filterInitialized = true := by
  unfold baroEstimate
  split
  · exact h
  · simp only
    split
    · exact h
    · split
      · rfl
      · exact h

theorem takeoffDetection_eq (climbRate agl : ℚ) :
    takeoffDetection climbRate agl d =
      ({ d with
          baroHandler :=
            { d.baroHandler with
              climbSamples := (takeoffDetection climbRate agl d).1.baroHandler.climbSamples } },
        (takeoffDetection climbRate agl d).2) := by
  unfold takeoffDetection
  split
  · split <;> rfl
  · rfl

/-- But for the counter, the handler leaves what its estimate leaves. -/
theorem baroHandlerUpdate_estimate :
    (baroHandlerUpdate s d).1 =
      { (baroEstimate s d).1 with
        baroHandler :=
          { (baroEstimate s d).1.baroHandler with
            climbSamples := (baroHandlerUpdate s d).1.baroHandler.climbSamples } } := by
  rw [baroHandlerUpdate_eq]
  cases (baroEstimate s d).2 with
  | none => rfl
  | some estimate => exact congrArg Prod.fst (takeoffDetection_eq _ _ _)

/-- What the handler counts, and when it calls `logger_start`. -/
theorem baroHandlerUpdate_takeoff :
    match d.takeoffSample s with
    | none =>
      (baroHandlerUpdate s d).2 = false ∧
        (baroHandlerUpdate s d).1.baroHandler.climbSamples = d.baroHandler.climbSamples
    | some sample =>
      (baroHandlerUpdate s d).1.baroHandler.climbSamples =
          (if sample.climbs then d.baroHandler.climbSamples + 1 else 0) ∧
        ((baroHandlerUpdate s d).2 = true ↔
          sample.climbs = true ∧
            5 * (d.logger.config.envRateHz.toNat : Int) + 1 ≤ d.baroHandler.climbSamples + 1) := by
  obtain ⟨hlogger, hcount, -⟩ := baroEstimate_keeps s d
  rw [baroHandlerUpdate_eq, Device.takeoffSample]
  cases hestimate : (baroEstimate s d).2 with
  | none =>
    rw [Option.map_none, ite_self]
    exact ⟨rfl, hcount⟩
  | some estimate =>
    obtain ⟨climbRate, agl⟩ := estimate
    rw [Option.map_some]
    simp only [takeoffDetection, hlogger]
    by_cases hdetects : d.logger.state = .armed ∧ d.logger.config.autoStartOnTakeoff = true
    · rw [if_pos hdetects, if_pos hdetects]
      by_cases hclimbs : takeoffClimbRateMps < climbRate ∧ takeoffMinAltitudeM < agl
      · simp only [hclimbs, and_self, decide_true, if_true, hcount, decide_eq_true_eq, true_and,
          takeoffDetectDurationS]
        exact Int.add_one_le_iff.symm
      · simp only [hclimbs, if_false, decide_false, Bool.false_eq_true, false_and, true_and]
    · rw [if_neg hdetects, if_neg hdetects]
      exact ⟨rfl, hcount⟩

/-- A sample that leaves the logger ARMED, or in any other state. -/
theorem loggerBaroHandler_detectors {e : StartEnv}
    (harmed' : (loggerBaroHandler s e d).logger.state ≠ .logging ∨
      (baroHandlerUpdate s d).2 = false) :
    (loggerBaroHandler s e d).detectors = (baroHandlerUpdate s d).1.detectors ∧
      (loggerBaroHandler s e d).logger.usbMode = d.logger.usbMode := by
  have husb : (baroHandlerUpdate s d).1.logger.usbMode = d.logger.usbMode :=
    congrArg Status.usbMode (baroHandlerUpdate_status d s)
  unfold loggerBaroHandler at harmed' ⊢
  by_cases hcalls : (baroHandlerUpdate s d).2 = true
  · rw [if_pos hcalls] at harmed' ⊢
    have hstatus := loggerStart_status (baroHandlerUpdate s d).1 (ascii "takeoff_detected") e
    have hdetectors := loggerStart_detectors (baroHandlerUpdate s d).1 (ascii "takeoff_detected") e
    by_cases hret : (loggerStart (ascii "takeoff_detected") e (baroHandlerUpdate s d).1).2 = 0
    · rw [if_pos hret] at hstatus
      rcases harmed' with hne | hnot
      · exact absurd (congrArg Status.state hstatus) hne
      · simp [hnot] at hcalls
    · rw [if_neg hret] at hstatus hdetectors
      exact ⟨hdetectors, (congrArg Status.usbMode hstatus).trans husb⟩
  · rw [if_neg hcalls]
    exact ⟨rfl, husb⟩

end Samples

/-! ## The invariant -/

theorem decide_toNat_eq_zero (count : UInt8) :
    decide ((count.toNat : Int) = 0) = decide (count = 0) := by
  simp [← UInt8.toNat_inj]

namespace ArmedPeriod

/-- The samples of the climb that is under way. -/
def climb (w : ArmedPeriod) : List ClimbSample := w.samples.lastRun ClimbSample.climbs

/-- The configured samples in a second. -/
def envRate (w : ArmedPeriod) : Nat := w.device.logger.config.envRateHz.toNat

/-- In ARMED the counters stand for the runs of the armed period. Where no sample makes up
the 5 s, the first of a climb starts a session. -/
structure Counts (w : ArmedPeriod) : Prop where
  ticks : Evidence w.device.executive.takeoffConfirmCount.toNat (w.ticks.trailing id)
    w.ticksFresh 12
  /-- Ticks that look at no counter do not count. -/
  unticked : ¬ w.device.Ticks → w.ticksFresh = true → w.device.executive.takeoffConfirmCount = 0
  samples : Evidence w.device.baroHandler.climbSamples w.climb.length w.samplesFresh
    (5 * w.envRate + 1)
  rateless : w.envRate = 0 → w.climb = []

/-- What holds in every state; outside ARMED only that the handler's counter is not negative. -/
structure Inv (w : ArmedPeriod) : Prop where
  nonneg : 0 ≤ w.device.baroHandler.climbSamples
  armed : w.device.logger.state = .armed → w.Counts

variable {w : ArmedPeriod} {op : LoggerOp}

theorem climbWith_sample (s : BaroReading) (e : StartEnv) :
    w.climbWith (.baroSample s e) =
      match w.device.takeoffSample s with
      | none => w.climb
      | some sample => if sample.climbs then w.climb ++ [sample] else [] := by
  change (w.samples ++ (w.device.takeoffSample s).toList).lastRun ClimbSample.climbs = _
  cases w.device.takeoffSample s with
  | none => rw [Option.toList_none, List.append_nil, climb]
  | some sample =>
    simp only [Option.toList_some]
    cases hclimbs : sample.climbs with
    | true => exact List.lastRun_concat_of_pos w.samples hclimbs
    | false => exact List.lastRun_concat_of_neg w.samples hclimbs

theorem step_of_entered (hne : w.device.logger.state ≠ .armed)
    (harmed : (loggerStep w.device op).1.logger.state = .armed) :
    (w.step op).1 =
      { device := (loggerStep w.device op).1
        ticks := []
        samples := []
        ticksFresh := decide ((loggerStep w.device op).1.executive.takeoffConfirmCount = 0)
        samplesFresh :=
          decide ((loggerStep w.device op).1.baroHandler.climbSamples = 0) } := by
  simp [step, hne, harmed]

theorem step_of_armed (harmed : w.device.logger.state = .armed) :
    (w.step op).1 =
      { device := (loggerStep w.device op).1
        ticks := w.ticksWith op
        samples := w.samplesWith op
        ticksFresh :=
          decide ((loggerStep w.device op).1.executive.takeoffConfirmCount = 0) || w.ticksFresh
        samplesFresh :=
          decide ((loggerStep w.device op).1.baroHandler.climbSamples = 0) || w.samplesFresh } := by
  simp [step, harmed]

/-- The logger becomes ARMED with whatever the counters hold. -/
theorem counts_of_entered (hnonneg : 0 ≤ (loggerStep w.device op).1.baroHandler.climbSamples)
    (hne : w.device.logger.state ≠ .armed)
    (harmed : (loggerStep w.device op).1.logger.state = .armed) : (w.step op).1.Counts := by
  rw [step_of_entered hne harmed]
  refine ⟨?_, fun _ hfresh => of_decide_eq_true hfresh, .entered hnonneg, fun _ => rfl⟩
  rw [← decide_toNat_eq_zero]
  exact .entered (Int.natCast_nonneg _)

/-- Ticks that look at no counter leave it at zero once it is there. -/
theorem Counts.zero_of_fresh (h : w.Counts) (hnot : ¬ w.device.Ticks)
    (hfresh : (decide (w.device.executive.takeoffConfirmCount = 0) || w.ticksFresh) = true) :
    w.device.executive.takeoffConfirmCount = 0 := by
  rcases Bool.or_eq_true_iff.mp hfresh with hzero | hfresh
  · exact of_decide_eq_true hzero
  · exact h.unticked hnot hfresh

/-- A step that is not a sample, for what it does to the ticks. -/
theorem Counts.of_keepsHandler (h : w.Counts) {d' : Device} (hkeeps : w.device.KeepsHandler d')
    {ticks : List Bool} {ticksFresh : Bool}
    (hticks : Evidence d'.executive.takeoffConfirmCount.toNat (ticks.trailing id) ticksFresh 12)
    (hunticked : ¬ d'.Ticks → ticksFresh = true → d'.executive.takeoffConfirmCount = 0) :
    Counts ⟨d', ticks, w.samples, ticksFresh,
      decide (d'.baroHandler.climbSamples = 0) || w.samplesFresh⟩ := by
  refine ⟨hticks, hunticked, ?_, ?_⟩
  · simp only [hkeeps.baroHandler, envRate, climb, hkeeps.config]
    exact h.samples.keep
  · simp only [envRate, climb, hkeeps.config]
    exact h.rateless

theorem Counts.quiet (h : w.Counts)
    (hquiet : match op with | .executive _ | .baroSample .. => False | _ => True)
    (harmed : w.device.logger.state = .armed)
    (harmed' : (loggerStep w.device op).1.logger.state = .armed) : (w.step op).1.Counts := by
  obtain ⟨hdetectors, husb⟩ := loggerStep_quiet hquiet harmed harmed'
  have hticks : w.ticksWith op = w.ticks := by
    cases op <;> first | rfl | exact hquiet.elim
  have hsamples : w.samplesWith op = w.samples := by
    cases op <;> first | rfl | exact hquiet.elim
  have hexecutive : (loggerStep w.device op).1.executive = w.device.executive :=
    congrArg Detectors.executive hdetectors
  rw [step_of_armed harmed, hticks, hsamples]
  refine h.of_keepsHandler (.of_detectors hdetectors) ?_ fun hnot hfresh => ?_
  · rw [hexecutive, ← decide_toNat_eq_zero]
    exact h.ticks.keep
  · have hnot' : ¬ w.device.Ticks :=
      fun hticks' => hnot ⟨husb hticks'.1, hexecutive ▸ hticks'.2⟩
    rw [hexecutive] at hfresh ⊢
    exact h.zero_of_fresh hnot' hfresh

/-- A tick in ARMED with the counter of one byte, which may wrap. -/
theorem Counts.ticks_step (h : w.Counts) {climbs : Bool} {count : UInt8}
    (hcount : count = if climbs then w.device.executive.takeoffConfirmCount + 1 else 0)
    (hguard : climbs = true → 12 ≤ (w.device.executive.takeoffConfirmCount + 1).toNat →
      w.ticksFresh = true) :
    Evidence count.toNat ((w.ticks ++ [climbs]).trailing id) (decide (count = 0) || w.ticksFresh)
      12 := by
  by_cases hzero : count = 0
  · subst hzero
    exact .zero
  · cases climbs with
    | false => exact absurd hcount hzero
    | true =>
      rw [if_pos rfl] at hcount
      have hnext : (count.toNat : Int) = w.device.executive.takeoffConfirmCount.toNat + 1 := by
        have hne : count.toNat ≠ 0 := fun h0 => hzero (UInt8.toNat_inj.mp h0)
        rw [hcount, UInt8.toNat_add, UInt8.toNat_one] at hne ⊢
        have := w.device.executive.takeoffConfirmCount.toNat_lt
        omega
      rw [List.trailing_concat_of_pos w.ticks rfl, hnext, decide_eq_false hzero, Bool.false_or]
      refine h.ticks.climb fun hbound => hguard rfl ?_
      rw [← hcount]
      omega

theorem Counts.executive (h : w.Counts) {e : ExecutiveEnv} (hguard : w.Confirmed (.executive e))
    (harmed : w.device.logger.state = .armed)
    (harmed' : (loggerStep w.device (.executive e)).1.logger.state = .armed) :
    (w.step (.executive e)).1.Counts := by
  change (loggerExecutive e w.device).logger.state = .armed at harmed'
  rw [step_of_armed harmed]
  refine h.of_keepsHandler (.loggerExecutive w.device e) ?_ ?_
  · by_cases hticks : w.device.Ticks
    · obtain ⟨hcount, -⟩ := loggerExecutive_armed hticks harmed harmed'
      refine h.ticks_step hcount fun hclimbs hbound => hguard ?_
      exact decide_eq_true ((executiveAction_armed hticks harmed).mpr ⟨hclimbs, hbound⟩)
    · obtain ⟨hexec, -⟩ := loggerExecutive_of_not_ticks hticks e
      have hclimbs : w.device.climbs = false := by simp [Device.climbs, hticks]
      change Evidence (loggerExecutive e w.device).executive.takeoffConfirmCount.toNat
        ((w.ticks ++ [w.device.climbs]).trailing id)
        (decide ((loggerExecutive e w.device).executive.takeoffConfirmCount = 0) || w.ticksFresh) 12
      rw [hexec, hclimbs, List.trailing_concat_of_neg w.ticks rfl, ← decide_toNat_eq_zero]
      refine h.ticks.idle fun hfresh => ?_
      rw [h.unticked hticks hfresh]
      rfl
  · intro hnot hfresh
    by_cases hticks : w.device.Ticks
    · exact absurd (loggerExecutive_armed hticks harmed harmed').2 hnot
    · obtain ⟨hexec, -⟩ := loggerExecutive_of_not_ticks hticks e
      change (decide ((loggerExecutive e w.device).executive.takeoffConfirmCount = 0) ||
        w.ticksFresh) = true at hfresh
      rw [hexec] at hfresh ⊢
      exact h.zero_of_fresh hticks hfresh

/-- What the sample does to the handler's counter. -/
theorem Counts.samples_step (h : w.Counts) {s : BaroReading} {e : StartEnv}
    (hguard : w.Confirmed (.baroSample s e))
    {count : Int} (hcount : count = (baroHandlerUpdate s w.device).1.baroHandler.climbSamples) :
    Evidence count (w.climbWith (.baroSample s e)).length
      (decide (count = 0) || w.samplesFresh) (5 * w.envRate + 1) := by
  have htakeoff := baroHandlerUpdate_takeoff s w.device
  rw [climbWith_sample]
  cases hsample : w.device.takeoffSample s with
  | none =>
    rw [hsample] at htakeoff
    rw [hcount, htakeoff.2]
    exact h.samples.keep
  | some sample =>
    rw [hsample] at htakeoff
    obtain ⟨hnext, hcalls⟩ := htakeoff
    rw [hcount, hnext]
    cases hclimbs : sample.climbs with
    | false => exact .zero
    | true =>
      simp only [hclimbs, if_true, List.length_append]
      refine (h.samples.climb fun hbound => ?_).keep
      exact (hguard (hcalls.mpr ⟨hclimbs, hbound⟩)).1

/-- Where no sample makes up the 5 s, a sample of a climb needs the guard. -/
theorem Counts.rateless_step (h : w.Counts) {s : BaroReading} {e : StartEnv}
    (hguard : w.Confirmed (.baroSample s e)) (hrate : w.envRate = 0) :
    w.climbWith (.baroSample s e) = [] := by
  have htakeoff := baroHandlerUpdate_takeoff s w.device
  rw [climbWith_sample]
  cases hsample : w.device.takeoffSample s with
  | none => exact h.rateless hrate
  | some sample =>
    rw [hsample] at htakeoff
    cases hclimbs : sample.climbs with
    | false => simp [hclimbs]
    | true =>
      have hnonneg := h.samples.nonneg
      have hzero : w.device.logger.config.envRateHz.toNat = 0 := hrate
      have hbound : 5 * (w.device.logger.config.envRateHz.toNat : Int) + 1 ≤
          w.device.baroHandler.climbSamples + 1 := by
        rw [hzero]
        omega
      have hpaced := (hguard (htakeoff.2.mpr ⟨hclimbs, hbound⟩)).2
      exact absurd hpaced.1 (by omega)

theorem Counts.sample (h : w.Counts) {s : BaroReading} {e : StartEnv}
    (hguard : w.Confirmed (.baroSample s e)) (harmed : w.device.logger.state = .armed)
    (harmed' : (loggerStep w.device (.baroSample s e)).1.logger.state = .armed) :
    (w.step (.baroSample s e)).1.Counts := by
  change (loggerBaroHandler s e w.device).logger.state = .armed at harmed'
  obtain ⟨hdetectors, husb⟩ := loggerBaroHandler_detectors s w.device (e := e)
    (.inl (by rw [harmed']; decide))
  have hexecutive := congrArg Detectors.executive hdetectors
  have hhandler : (loggerBaroHandler s e w.device).baroHandler =
      (baroHandlerUpdate s w.device).1.baroHandler := congrArg Detectors.baroHandler hdetectors
  have hconfig : (loggerBaroHandler s e w.device).logger.config = w.device.logger.config := by
    refine (congrArg Detectors.config hdetectors).trans ?_
    change (baroHandlerUpdate s w.device).1.logger.config = w.device.logger.config
    rw [baroHandlerUpdate_estimate, (baroEstimate_keeps s w.device).1]
  have hcount : (loggerBaroHandler s e w.device).executive.takeoffConfirmCount =
      w.device.executive.takeoffConfirmCount := by
    refine (congrArg Executive.takeoffConfirmCount hexecutive).trans ?_
    change (baroHandlerUpdate s w.device).1.executive.takeoffConfirmCount = _
    rw [baroHandlerUpdate_estimate, (baroEstimate_keeps s w.device).2.2]
  have hfilter (hticks : w.device.Ticks) : (loggerBaroHandler s e w.device).Ticks := by
    refine ⟨husb.trans hticks.1, (congrArg Executive.filterInitialized hexecutive).trans ?_⟩
    change (baroHandlerUpdate s w.device).1.executive.filterInitialized = true
    rw [baroHandlerUpdate_estimate]
    exact baroEstimate_filterInitialized s w.device hticks.2
  have henvRate : (w.step (.baroSample s e)).1.envRate = w.envRate :=
    congrArg (fun config => config.envRateHz.toNat) hconfig
  rw [step_of_armed harmed] at henvRate ⊢
  constructor
  · rw [show (loggerStep w.device (.baroSample s e)).1 = loggerBaroHandler s e w.device from rfl,
      hcount, ← decide_toNat_eq_zero]
    exact h.ticks.keep
  · intro hnot hfresh
    have hnot' : ¬ w.device.Ticks := fun hticks => hnot (hfilter hticks)
    change (decide ((loggerBaroHandler s e w.device).executive.takeoffConfirmCount = 0) ||
      w.ticksFresh) = true at hfresh
    change (loggerBaroHandler s e w.device).executive.takeoffConfirmCount = 0
    rw [hcount] at hfresh ⊢
    exact h.zero_of_fresh hnot' hfresh
  · rw [henvRate]
    exact h.samples_step hguard (congrArg BaroHandler.climbSamples hhandler)
  · rw [henvRate]
    exact h.rateless_step hguard

theorem climbSamples_step_nonneg (h : 0 ≤ w.device.baroHandler.climbSamples) :
    0 ≤ (loggerStep w.device op).1.baroHandler.climbSamples := by
  have hkeeps := loggerStep_keepsHandler w.device op
  cases op with
  | baroSample s e =>
    rw [hkeeps.baroHandler]
    have htakeoff := baroHandlerUpdate_takeoff s w.device
    cases hsample : w.device.takeoffSample s with
    | none =>
      rw [hsample] at htakeoff
      rw [htakeoff.2]
      exact h
    | some sample =>
      rw [hsample] at htakeoff
      rw [htakeoff.1]
      split
      · omega
      · exact le_refl 0
  | start | startUsb | jumped | stop | arm | disarm | executive | usbDisconnect
  | groundAltitudeTimer | accelSample =>
    rw [hkeeps.baroHandler]
    exact h

theorem Inv.step (h : w.Inv) (hguard : w.Confirmed op) : (w.step op).1.Inv where
  nonneg := climbSamples_step_nonneg h.nonneg
  armed harmed' := by
    by_cases harmed : w.device.logger.state = .armed
    · have hcounts := h.armed harmed
      cases op with
      | executive e => exact hcounts.executive hguard harmed harmed'
      | baroSample s e => exact hcounts.sample hguard harmed harmed'
      | start | startUsb | jumped | stop | arm | disarm | usbDisconnect | groundAltitudeTimer
      | accelSample => exact hcounts.quiet trivial harmed harmed'
    · exact counts_of_entered (climbSamples_step_nonneg h.nonneg) harmed harmed'

/-! ### Starts of the executive -/

theorem executive_bound {d : Device} (h : d.executiveAction = .start) :
    d.logger.state = .armed ∧ d.climbs = true ∧
      (12 : Int) ≤ d.executive.takeoffConfirmCount.toNat + 1 := by
  obtain ⟨harmed, hticks⟩ := armed_of_executiveAction h
  obtain ⟨hclimbs, hbound⟩ := (executiveAction_armed hticks harmed).mp h
  refine ⟨harmed, hclimbs, ?_⟩
  rw [UInt8.toNat_add, UInt8.toNat_one] at hbound
  omega

theorem Inv.executive_debounced (h : w.Inv) {e : ExecutiveEnv} {w' : ArmedPeriod}
    (hstarts : w.device.startsItself (.executive e) = true) :
    w.Debounced (.executive e) w' ↔ w.ticksFresh = true := by
  obtain ⟨harmed, hclimbs, hbound⟩ := executive_bound (of_decide_eq_true hstarts)
  have hticks := (h.armed harmed).ticks
  have hrun : (w.ticksWith (.executive e)).trailing id = w.ticks.trailing id + 1 := by
    change (w.ticks ++ [w.device.climbs]).trailing id = _
    rw [hclimbs, List.trailing_concat_of_pos w.ticks rfl]
  constructor
  · intro hdebounced
    have hlong : 12 ≤ (w.ticksWith (.executive e)).trailing id := hdebounced hstarts
    rw [hrun] at hlong
    by_contra hstale
    have hshort := hticks.run_lt hbound (by simpa using hstale) (by decide)
    omega
  · intro hfresh _
    have hlong := hticks.le_run hbound hfresh
    change 12 ≤ (w.ticksWith (.executive e)).trailing id
    omega

/-! ### Starts of the handler -/

/-- What a call of the handler says about its sample. -/
theorem sample_bound {s : BaroReading} {e : StartEnv}
    (hstarts : w.device.startsItself (.baroSample s e) = true) :
    ∃ sample, w.device.logger.state = .armed ∧
      w.climbWith (.baroSample s e) = w.climb ++ [sample] ∧
      5 * (w.envRate : Int) + 1 ≤ w.device.baroHandler.climbSamples + 1 := by
  have htakeoff := baroHandlerUpdate_takeoff s w.device
  have hclimb := climbWith_sample (w := w) s e
  cases hsample : w.device.takeoffSample s with
  | none =>
    rw [hsample] at htakeoff
    exact absurd (hstarts.symm.trans htakeoff.1) (by decide)
  | some sample =>
    rw [hsample] at htakeoff hclimb
    obtain ⟨hclimbs, hbound⟩ := htakeoff.2.mp hstarts
    have harmed : w.device.logger.state = .armed := by
      by_contra hne
      simp [Device.takeoffSample, hne] at hsample
    refine ⟨sample, harmed, ?_, hbound⟩
    simpa [hclimbs] using hclimb

/-- For a climb of enough samples, 5 s are what they take at the rate. -/
theorem sustained_iff_paced {envRateHz : Nat} {climb : List ClimbSample}
    (hrate : 0 < envRateHz) (hlong : 5 * envRateHz < climb.length) :
    Sustained envRateHz climb ↔ Paced envRateHz climb := by
  have hmin : min (climb.length - 1) (5 * envRateHz) = 5 * envRateHz :=
    Nat.min_eq_right (Nat.le_sub_one_of_lt hlong)
  have hscaled (first last : Nat) : envRateHz * first + 5 * envRateHz * 1000000 ≤
      envRateHz * last ↔ first + 5000000 ≤ last := by
    rw [show envRateHz * first + 5 * envRateHz * 1000000 = envRateHz * (first + 5000000) by ring]
    exact Nat.mul_le_mul_left_iff hrate
  simp only [Sustained, Paced, hmin, hscaled, hrate, hlong, true_and]

theorem Inv.sample_debounced (h : w.Inv) {s : BaroReading} {e : StartEnv} {w' : ArmedPeriod}
    (hstarts : w.device.startsItself (.baroSample s e) = true) :
    w.Debounced (.baroSample s e) w' ↔
      w.samplesFresh = true ∧ Paced w.envRate (w.climbWith (.baroSample s e)) := by
  obtain ⟨sample, harmed, hclimb, hbound⟩ := sample_bound hstarts
  have hcounts := h.armed harmed
  have hlength : (w.climbWith (.baroSample s e)).length = w.climb.length + 1 := by
    rw [hclimb, List.length_append, List.length_singleton]
  have hdebounced : w.Debounced (.baroSample s e) w' ↔
      Sustained w.envRate (w.climbWith (.baroSample s e)) :=
    ⟨fun hall => hall hstarts, fun hsustained _ => hsustained⟩
  rw [hdebounced]
  rcases Nat.eq_zero_or_pos w.envRate with hzero | hrate
  · -- the first sample of a climb is also its last
    refine iff_of_false (fun hsustained => ?_) fun hpaced => absurd hpaced.2.1 (by omega)
    have hspan := hsustained.2
    rw [hclimb, hcounts.rateless hzero] at hspan
    have hself := hspan sample rfl sample rfl
    omega
  · constructor
    · intro hsustained
      have hlong := hsustained.1
      refine ⟨?_, (sustained_iff_paced hrate hlong).mp hsustained⟩
      by_contra hstale
      have hshort := hcounts.samples.run_lt hbound (by simpa using hstale) (by omega)
      omega
    · rintro ⟨hfresh, hpaced⟩
      have hlong := hcounts.samples.le_run hbound hfresh
      exact (sustained_iff_paced hrate (by omega)).mpr hpaced

theorem Inv.debounced_iff (h : w.Inv) {w' : ArmedPeriod} :
    w.Debounced op w' ↔ w.Confirmed op := by
  by_cases hstarts : w.device.startsItself op = true
  · cases op with
    | executive e =>
      exact (h.executive_debounced hstarts).trans ⟨fun hf _ => hf, fun hg => hg hstarts⟩
    | baroSample s e =>
      exact (h.sample_debounced hstarts).trans ⟨fun hf _ => hf, fun hg => hg hstarts⟩
    | start | startUsb | jumped | stop | arm | disarm | usbDisconnect | groundAltitudeTimer
    | accelSample => exact absurd hstarts (by simp [Device.startsItself])
  · exact ⟨fun _ h' => absurd h' hstarts, fun _ h' => absurd h' hstarts⟩

/-- The device before any operation. -/
def atInit (config : LoggerConfig) (usbEnabled : Bool) (version : AppVersion)
    (first second : Option ℚ) : ArmedPeriod :=
  ⟨loggerInit config usbEnabled version first second, [], [], true, true⟩

theorem atInit_inv (config : LoggerConfig) (usbEnabled : Bool) (version : AppVersion)
    (first second : Option ℚ) : (atInit config usbEnabled version first second).Inv := by
  have hstate : (loggerInit config usbEnabled version first second).logger.state = .idle :=
    congrArg Status.state (loggerInit_status config usbEnabled version first second)
  have hsamples :
      (loggerInit config usbEnabled version first second).baroHandler.climbSamples = 0 := by
    have hdetectors := loggerInit_detectors config usbEnabled version first second
    exact congrArg (fun x => x.baroHandler.climbSamples) hdetectors
  exact ⟨hsamples.ge, fun harmed => absurd (hstate.symm.trans harmed) (by decide)⟩

end ArmedPeriod

/-- The automatic starts of a run are debounced exactly when the counter of each has been
zero in its armed period, and the samples that the handler counted came no faster than the
configured rate. -/
theorem debounced_iff_confirmed (config : LoggerConfig) (usbEnabled : Bool)
    (version : AppVersion) (first second : Option ℚ) (ops : List LoggerOp) :
    Machine.Along ArmedPeriod.step ArmedPeriod.Debounced
        (.atInit config usbEnabled version first second) ops ↔
      Machine.Guarded ArmedPeriod.step ArmedPeriod.Confirmed
        (.atInit config usbEnabled version first second) ops :=
  Machine.along_iff_guarded (I := ArmedPeriod.Inv)
    (fun _ _ hinv hguard => hinv.step hguard)
    (fun _ _ hinv hguard => hinv.debounced_iff.mpr hguard)
    (fun _ _ hinv hbreak hdebounced => hbreak (hinv.debounced_iff.mp hdebounced))
    (ArmedPeriod.atInit_inv config usbEnabled version first second) ops

/-! ### A climb before arming, and a barometer that is too fast -/

/-- The `k`-th valid sample at 4 Hz, with a card that works. -/
def climbSampleAt (k : UInt64) (altitudeM : ℚ) : LoggerOp :=
  .baroSample ⟨1000000 + 250000 * k, altitudeM, true⟩ .working

/-- The logger is armed, and the filter sees a fast climb. -/
def climbingRun : List LoggerOp :=
  [.arm .working, climbSampleAt 0 0, climbSampleAt 1 0, climbSampleAt 2 1000, climbSampleAt 3 1000]

/-- Eleven ticks, then one after the logger was disarmed and armed. -/
def climbAcrossArming : List LoggerOp :=
  climbingRun ++ List.replicate 11 (.executive .working) ++
    [.disarm none, .arm .working, .executive .working]

/-- A steady climb, at the 8 Hz of the barometer that `main` configures: the 21 samples
that the handler asks for take 2.5 s. -/
def climbAtEightHertz : List LoggerOp :=
  .arm .working :: (List.range 28).map fun k =>
    .baroSample ⟨1000000 + 125000 * UInt64.ofNat k, 100 * k, true⟩ .working

theorem not_debounced_climbAcrossArming :
    ¬ Machine.Along ArmedPeriod.step ArmedPeriod.Debounced
        (.atInit (loggerCfg false) true ⟨[], [], [], 0⟩ none none) climbAcrossArming ∧
      ¬ Machine.Along ArmedPeriod.step ArmedPeriod.Debounced
        (.atInit (loggerCfg false) true ⟨[], [], [], 0⟩ none none) climbAtEightHertz := by
  decide +kernel

end TempoBt
