-- SUMMARY: The decisions of the executive as run lengths of its inputs: jump, abort and landing, and the attempts to start on takeoff.
import TempoBt.Lib.Machine
import TempoBt.Lib.Runs
import TempoBt.Services.Logger.Detectors

/-!
# Runs of the executive

A tick sees a climb rate and an acceleration, and the counters of the executive stand
for the lengths of the runs of ticks with a property. The runs count from the entry to
the current state, where the counters are reset.
-/

namespace TempoBt

/-! ## Ticks -/

/-- What one tick finds: the estimates of the moment, and what its calls are answered. -/
structure ExecutiveInput where
  climbRate : ℚ
  accelFilter : AccelFilter
  env : ExecutiveEnv

namespace ExecutiveInput

variable (i : ExecutiveInput)

def climbing : Bool := execTakeoffClimbRateMps < i.climbRate

def freefall : Bool := i.climbRate < execFreefallDescentRateMps

/-- A valid acceleration below the threshold. -/
def lowAccel : Bool :=
  (imuGetFilteredAcceleration i.accelFilter).any (· < execFreefallAccelThresholdG)

def lowActivity : Bool := |i.climbRate| < execLowActivityRateMps

/-- The device as the tick finds it. -/
def find (d : Device) : Device :=
  { d with
    executive := { d.executive with climbRateEstMps := i.climbRate }
    accelFilter := i.accelFilter }

end ExecutiveInput

/-- The device, and the ticks since it entered its state. -/
structure Watch where
  device : Device
  since : List ExecutiveInput

/-- What the tick of `logger_executive` decides. -/
def Device.executiveAction (d : Device) : ExecutiveAction :=
  if d.logger.usbMode then .none else (d.executiveTick d.logger.state).2

/-- A tick of `logger_executive`, with what it decides. -/
def Watch.step (w : Watch) (i : ExecutiveInput) : Watch × ExecutiveAction :=
  let found := i.find w.device
  let device := loggerExecutive i.env found
  ({ device
     since := if device.logger.state = w.device.logger.state then w.since ++ [i] else [] },
    found.executiveAction)

/-! ## Decisions -/

/-- A session is marked jumped when the run of freefall has length 8, or that of low
acceleration length 2. -/
def Jumps (ticks : List ExecutiveInput) : Prop :=
  ticks.trailing ExecutiveInput.freefall = 8 ∨ ticks.trailing ExecutiveInput.lowAccel = 2

instance (ticks : List ExecutiveInput) : Decidable (Jumps ticks) :=
  inferInstanceAs (Decidable (_ ∨ _))

/-- The decision of a tick in a state, for the ticks since the entry to the state, itself
included. -/
def decision (state : LoggerState) (ticks : List ExecutiveInput) : ExecutiveAction :=
  match state with
  | .logging =>
    if Jumps ticks then .jumped
    else if ticks.trailing ExecutiveInput.lowActivity = 1440 then .rearm
    else .none
  | .jumped => if ticks.trailing ExecutiveInput.lowActivity = 240 then .rearm else .none
  | .idle | .armed | .postflight | .error => .none

/-- The state after a decision in an active state. -/
def ExecutiveAction.stateAfter (state : LoggerState) : ExecutiveAction → LoggerState
  | .none => state
  | .start => .logging
  | .jumped => .jumped
  | .rearm => .armed

/-- In an active state a tick decides by the run lengths, and the state follows. Elsewhere
only a start on takeoff changes the state. -/
def Watch.Decides (w : Watch) (i : ExecutiveInput) (w' : Watch) : Prop :=
  let state := w.device.logger.state
  if state.isActive then
    (w.step i).2 = decision state (w.since ++ [i]) ∧
      w'.device.logger.state = (decision state (w.since ++ [i])).stateAfter state
  else w'.device.logger.state = state ∨ (state = .armed ∧ w'.device.logger.state = .logging)

theorem decision_ne_start (state : LoggerState) (ticks : List ExecutiveInput) :
    decision state ticks ≠ .start := by
  cases state <;> simp only [decision, ne_eq, reduceCtorEq, not_false_eq_true]
  all_goals split_ifs <;> simp

theorem logging_of_decision_jumped {state : LoggerState} {ticks : List ExecutiveInput}
    (h : decision state ticks = .jumped) : state = .logging := by
  cases state with
  | logging => rfl
  | jumped =>
    simp only [decision] at h
    split at h <;> simp at h
  | idle | armed | postflight | error => simp [decision] at h

/-! ## Counters -/

section Counters

variable (p : ExecutiveInput → Bool) (since : List ExecutiveInput) (i : ExecutiveInput)

theorem trailing_concat_le : (since ++ [i]).trailing p ≤ since.trailing p + 1 := by
  cases hp : p i with
  | true => rw [List.trailing_concat_of_pos since hp]
  | false => simp [List.trailing_concat_of_neg since hp]

variable {p since i}

/-- A counter of one byte that is not full. -/
theorem trailing_count {count : UInt8} (hcount : count.toNat = since.trailing p)
    (hlt : since.trailing p < 255) :
    (if p i then count + 1 else 0).toNat = (since ++ [i]).trailing p := by
  cases hp : p i with
  | true =>
    rw [List.trailing_concat_of_pos since hp, if_pos rfl, UInt8.toNat_add, hcount]
    exact Nat.mod_eq_of_lt (by simpa using Nat.succ_lt_succ hlt)
  | false => simp [List.trailing_concat_of_neg since hp]

/-- A run that has not reached `bound` reaches it with a tick that belongs to it. -/
theorem trailing_reaches {bound : Nat} (hpos : 0 < bound) (hlt : since.trailing p < bound) :
    (p i = true ∧ bound ≤ (since ++ [i]).trailing p) ↔ (since ++ [i]).trailing p = bound := by
  have hle := trailing_concat_le p since i
  constructor
  · rintro ⟨-, hge⟩
    omega
  · intro heq
    refine ⟨?_, heq.ge⟩
    by_contra hp
    rw [List.trailing_concat_of_neg since (by simpa using hp)] at heq
    omega

/-- The timeout of an active state, after `bound` ticks. -/
theorem lowActivityTimeout_spec (timeoutS : UInt32) (bound : Nat) {x : Executive}
    (hbound : timeoutS.toNat * execTicksPerSecond = bound) (hpos : 0 < bound)
    (hsize : bound < 4294967296)
    (hcount : x.lowActivityCounter.toNat = since.trailing ExecutiveInput.lowActivity)
    (hlt : since.trailing ExecutiveInput.lowActivity < bound) :
    ∃ count, lowActivityTimeout i.climbRate timeoutS x =
        ({ x with lowActivityCounter := count },
          if (since ++ [i]).trailing ExecutiveInput.lowActivity = bound then .rearm else .none) ∧
      count.toNat = (since ++ [i]).trailing ExecutiveInput.lowActivity := by
  have hreaches := trailing_reaches (i := i) hpos hlt
  unfold lowActivityTimeout
  by_cases hlow : |i.climbRate| < execLowActivityRateMps
  · have hp : i.lowActivity = true := by simp [ExecutiveInput.lowActivity, hlow]
    have hnext : (x.lowActivityCounter + 1).toNat =
        (since ++ [i]).trailing ExecutiveInput.lowActivity := by
      rw [List.trailing_concat_of_pos since hp, UInt32.toNat_add, hcount]
      exact Nat.mod_eq_of_lt (by simp; omega)
    refine ⟨x.lowActivityCounter + 1, ?_, hnext⟩
    simp only [if_pos hlow, hbound, hnext]
    congr 1
    refine if_congr ?_ rfl rfl
    rw [← hreaches]
    exact (and_iff_right hp).symm
  · have hp : i.lowActivity = false := by simp [ExecutiveInput.lowActivity, hlow]
    refine ⟨0, ?_, by simp [List.trailing_concat_of_neg since hp]⟩
    rw [if_neg hlow, List.trailing_concat_of_neg since hp, if_neg (by omega)]

end Counters

/-- The counters in LOGGING stand for run lengths, which have not reached their bounds. -/
structure LoggingCounts (x : Executive) (since : List ExecutiveInput) : Prop where
  freefall : x.freefallConfirmCount.toNat = since.trailing ExecutiveInput.freefall
  freefall_lt : since.trailing ExecutiveInput.freefall < 8
  lowAccel : x.lowAccelConfirmCount.toNat = since.trailing ExecutiveInput.lowAccel
  lowAccel_lt : since.trailing ExecutiveInput.lowAccel < 2
  lowActivity : x.lowActivityCounter.toNat = since.trailing ExecutiveInput.lowActivity
  lowActivity_lt : since.trailing ExecutiveInput.lowActivity < 1440

/-- The counter in JUMPED. -/
structure JumpedCounts (x : Executive) (since : List ExecutiveInput) : Prop where
  lowActivity : x.lowActivityCounter.toNat = since.trailing ExecutiveInput.lowActivity
  lowActivity_lt : since.trailing ExecutiveInput.lowActivity < 240

theorem LoggingCounts.resetCounters (x : Executive) : LoggingCounts x.resetCounters [] := by
  constructor <;> simp [Executive.resetCounters, List.trailing]

theorem JumpedCounts.resetCounters (x : Executive) : JumpedCounts x.resetCounters [] := by
  constructor <;> simp [Executive.resetCounters, List.trailing]

section Handlers

variable {x : Executive} {since : List ExecutiveInput}

/-- The two counters of a jump, after a tick that does not end the count of freefall. -/
def Executive.countJump (i : ExecutiveInput) (x : Executive) : Executive :=
  { x with
    freefallConfirmCount := if i.freefall then x.freefallConfirmCount + 1 else 0
    lowAccelConfirmCount := if i.lowAccel then x.lowAccelConfirmCount + 1 else 0 }

/-- The counter of low acceleration stays as it is when the freefall is confirmed. -/
theorem executiveHandleLoggingState_eq (i : ExecutiveInput) (x : Executive) :
    executiveHandleLoggingState i.climbRate (imuGetFilteredAcceleration i.accelFilter) x =
      if i.freefall = true ∧ 8 ≤ (x.countJump i).freefallConfirmCount.toNat then
        ({ x with freefallConfirmCount := (x.countJump i).freefallConfirmCount }, .jumped)
      else if i.lowAccel = true ∧ 2 ≤ (x.countJump i).lowAccelConfirmCount.toNat then
        (x.countJump i, .jumped)
      else lowActivityTimeout i.climbRate execLoggingAbortTimeoutS (x.countJump i) :=
  rfl

theorem decision_of_jumps {ticks : List ExecutiveInput} (h : Jumps ticks) :
    decision .logging ticks = .jumped :=
  if_pos h

theorem decision_of_not_jumps {ticks : List ExecutiveInput} (h : ¬ Jumps ticks) :
    decision .logging ticks =
      if ticks.trailing ExecutiveInput.lowActivity = 1440 then .rearm else .none :=
  if_neg h

/-- A tick after which no run has reached its bound. -/
theorem LoggingCounts.concat (h : LoggingCounts x since) (i : ExecutiveInput) {count : UInt32}
    (hcount : count.toNat = (since ++ [i]).trailing ExecutiveInput.lowActivity)
    (hjumps : ¬ Jumps (since ++ [i]))
    (hnone : decision .logging (since ++ [i]) = .none) :
    LoggingCounts { x.countJump i with lowActivityCounter := count } (since ++ [i]) := by
  obtain ⟨hfall8, haccel2⟩ := not_or.mp hjumps
  have hlow : (since ++ [i]).trailing ExecutiveInput.lowActivity ≠ 1440 := by
    intro heq
    simp [decision_of_not_jumps hjumps, heq] at hnone
  have hfall_lt := h.freefall_lt
  have haccel_lt := h.lowAccel_lt
  constructor
  case freefall => exact trailing_count h.freefall (by omega)
  case freefall_lt =>
    exact lt_of_le_of_ne ((trailing_concat_le _ since i).trans h.freefall_lt) hfall8
  case lowAccel => exact trailing_count h.lowAccel (by omega)
  case lowAccel_lt =>
    exact lt_of_le_of_ne ((trailing_concat_le _ since i).trans h.lowAccel_lt) haccel2
  case lowActivity => exact hcount
  case lowActivity_lt =>
    exact lt_of_le_of_ne ((trailing_concat_le _ since i).trans h.lowActivity_lt) hlow

theorem LoggingCounts.decides (h : LoggingCounts x since) (i : ExecutiveInput) :
    ∃ x', executiveHandleLoggingState i.climbRate (imuGetFilteredAcceleration i.accelFilter) x =
        (x', decision .logging (since ++ [i])) ∧
      x'.filterInitialized = x.filterInitialized ∧
      (decision .logging (since ++ [i]) = .none → LoggingCounts x' (since ++ [i])) := by
  have hfall_lt := h.freefall_lt
  have haccel_lt := h.lowAccel_lt
  have hfreefall : (x.countJump i).freefallConfirmCount.toNat =
      (since ++ [i]).trailing ExecutiveInput.freefall :=
    trailing_count h.freefall (by omega)
  have hlowAccel : (x.countJump i).lowAccelConfirmCount.toNat =
      (since ++ [i]).trailing ExecutiveInput.lowAccel :=
    trailing_count h.lowAccel (by omega)
  have hfall := trailing_reaches (i := i) (by decide) h.freefall_lt
  have haccel := trailing_reaches (i := i) (by decide) h.lowAccel_lt
  obtain ⟨count, htimeout, hcount⟩ := lowActivityTimeout_spec (i := i) execLoggingAbortTimeoutS
    1440 (x := x.countJump i) (by decide) (by decide) (by decide) h.lowActivity h.lowActivity_lt
  rw [executiveHandleLoggingState_eq, hfreefall, hlowAccel, if_congr hfall rfl rfl,
    if_congr haccel rfl rfl, htimeout]
  by_cases hfall8 : (since ++ [i]).trailing ExecutiveInput.freefall = 8
  · rw [if_pos hfall8, decision_of_jumps (.inl hfall8)]
    exact ⟨_, rfl, rfl, by simp⟩
  · rw [if_neg hfall8]
    by_cases haccel2 : (since ++ [i]).trailing ExecutiveInput.lowAccel = 2
    · rw [if_pos haccel2, decision_of_jumps (.inr haccel2)]
      exact ⟨_, rfl, rfl, by simp⟩
    · have hjumps : ¬ Jumps (since ++ [i]) := not_or.mpr ⟨hfall8, haccel2⟩
      rw [if_neg haccel2]
      refine ⟨_, congrArg _ (decision_of_not_jumps hjumps).symm, rfl, fun hnone => ?_⟩
      exact h.concat i hcount hjumps hnone

theorem JumpedCounts.decides (h : JumpedCounts x since) (i : ExecutiveInput) :
    ∃ x', executiveHandleJumpedState i.climbRate x = (x', decision .jumped (since ++ [i])) ∧
      x'.filterInitialized = x.filterInitialized ∧
      (decision .jumped (since ++ [i]) = .none → JumpedCounts x' (since ++ [i])) := by
  obtain ⟨count, heq, hcount⟩ := lowActivityTimeout_spec (i := i) execJumpedTimeoutS 240
    (by decide) (by decide) (by decide) h.lowActivity h.lowActivity_lt
  refine ⟨_, heq, rfl, fun hnone => ⟨hcount, ?_⟩⟩
  have hle := trailing_concat_le ExecutiveInput.lowActivity since i
  have hlt := h.lowActivity_lt
  have hne : (since ++ [i]).trailing ExecutiveInput.lowActivity ≠ 240 := by
    intro heq
    simp [decision, heq] at hnone
  omega

/-- Without a session a tick only counts, and may start one. -/
theorem executiveHandleArmedState_cases (climbRate : ℚ) (x : Executive) :
    ∃ count action, executiveHandleArmedState climbRate x =
        ({ x with takeoffConfirmCount := count }, action) ∧
      (action = .none ∨ action = .start) := by
  unfold executiveHandleArmedState
  by_cases hclimb : execTakeoffClimbRateMps < climbRate
  · rw [if_pos hclimb]
    refine ⟨_, _, rfl, ?_⟩
    split
    · exact .inr rfl
    · exact .inl rfl
  · rw [if_neg hclimb]
    exact ⟨_, _, rfl, .inl rfl⟩

end Handlers

/-! ## Ticks with the filter initialised -/

section Ticks

variable {d : Device} (hfilter : d.executive.filterInitialized = true)

include hfilter

theorem executiveTick_armed :
    d.executiveTick .armed =
      ({ d with executive := (executiveHandleArmedState d.executive.climbRateEstMps
          d.executive).1 },
        (executiveHandleArmedState d.executive.climbRateEstMps d.executive).2) := by
  simp only [Device.executiveTick, hfilter, Bool.not_true, Bool.false_eq_true, if_false]

theorem executiveTick_logging :
    d.executiveTick .logging =
      ({ d with executive := (executiveHandleLoggingState d.executive.climbRateEstMps
          (imuGetFilteredAcceleration d.accelFilter) d.executive).1 },
        (executiveHandleLoggingState d.executive.climbRateEstMps
          (imuGetFilteredAcceleration d.accelFilter) d.executive).2) := by
  simp only [Device.executiveTick, hfilter, Bool.not_true, Bool.false_eq_true, if_false]

theorem executiveTick_jumped :
    d.executiveTick .jumped =
      ({ d with executive := (executiveHandleJumpedState d.executive.climbRateEstMps
          d.executive).1 },
        (executiveHandleJumpedState d.executive.climbRateEstMps d.executive).2) := by
  simp only [Device.executiveTick, hfilter, Bool.not_true, Bool.false_eq_true, if_false]

end Ticks

/-! ## Actions -/

section Actions

variable (e : ExecutiveEnv) {d : Device}

theorem executiveAct_start_ok
    (hret : (loggerStart (ascii "takeoff_detected") e.start d).2 = 0) :
    (executiveAct e d .start).logger.usbMode = d.logger.usbMode ∧
      (executiveAct e d .start).logger.state = .logging ∧
      (executiveAct e d .start).executive = d.executive.resetCounters := by
  have hstatus := loggerStart_status d (ascii "takeoff_detected") e.start
  have hdetectors := loggerStart_detectors d (ascii "takeoff_detected") e.start
  rw [if_pos hret] at hstatus hdetectors
  exact ⟨congrArg Status.usbMode hstatus, congrArg Status.state hstatus,
    congrArg Detectors.executive hdetectors⟩

/-- A failed start leaves the counters as they are. -/
theorem executiveAct_start_error
    (hret : (loggerStart (ascii "takeoff_detected") e.start d).2 ≠ 0) :
    (executiveAct e d .start).logger.usbMode = d.logger.usbMode ∧
      (executiveAct e d .start).logger.state = d.logger.state ∧
      (executiveAct e d .start).executive = d.executive := by
  have hstatus := loggerStart_status d (ascii "takeoff_detected") e.start
  have hdetectors := loggerStart_detectors d (ascii "takeoff_detected") e.start
  rw [if_neg hret] at hstatus hdetectors
  exact ⟨congrArg Status.usbMode hstatus, congrArg Status.state hstatus,
    congrArg Detectors.executive hdetectors⟩

theorem executiveAct_jumped (hstate : d.logger.state = .logging) :
    (executiveAct e d .jumped).logger.state = .jumped ∧
      (executiveAct e d .jumped).logger.usbMode = d.logger.usbMode ∧
      (executiveAct e d .jumped).executive = d.executive.resetCounters := by
  have hstatus := loggerJumped_status d e.jumpedNow
  have hdetectors := loggerJumped_detectors d e.jumpedNow
  rw [if_pos (show d.status.state = .logging from hstate)] at hstatus
  rw [if_pos hstate] at hdetectors
  exact ⟨congrArg Status.state hstatus, congrArg Status.usbMode hstatus,
    congrArg Detectors.executive hdetectors⟩

theorem executiveAct_rearm (husb : d.logger.usbMode = false) :
    (executiveAct e d .rearm).logger.state = .armed ∧
      (executiveAct e d .rearm).logger.usbMode = false ∧
      (executiveAct e d .rearm).executive = d.executive.resetCounters := by
  have hstatus := loggerArm_status (loggerStop e.stop d).1 e.arm
  have hstop : (loggerStop e.stop d).1.status.usbMode = false := by
    rw [loggerStop_status]
    split
    · rfl
    · exact husb
  have hdetectors : (loggerArm e.arm (loggerStop e.stop d).1).detectors = d.detectors := by simp
  refine ⟨congrArg Status.state hstatus, (congrArg Status.usbMode hstatus).trans hstop, ?_⟩
  have hexecutive := congrArg Detectors.executive hdetectors
  exact congrArg Executive.resetCounters hexecutive

end Actions

/-! ## Runs -/

namespace Watch

/-- An SD session with the filter initialised, and counters that stand for run lengths. -/
structure Counts (w : Watch) : Prop where
  sd : w.device.logger.usbMode = false
  filter : w.device.executive.filterInitialized = true
  logging : w.device.logger.state = .logging → LoggingCounts w.device.executive w.since
  jumped : w.device.logger.state = .jumped → JumpedCounts w.device.executive w.since

variable {w : Watch}

/-- A session has just begun. -/
theorem Counts.entered {d : Device} {x : Executive} (hsd : d.logger.usbMode = false)
    (hfilter : x.filterInitialized = true) (hcounters : d.executive = x.resetCounters) :
    Counts ⟨d, []⟩ where
  sd := hsd
  filter := by
    rw [hcounters]
    exact hfilter
  logging _ := by
    rw [hcounters]
    exact .resetCounters x
  jumped _ := by
    rw [hcounters]
    exact .resetCounters x

theorem step_of_tick {w : Watch} (hsd : w.device.logger.usbMode = false) {i : ExecutiveInput}
    {d : Device} {a : ExecutiveAction}
    (htick : (i.find w.device).executiveTick w.device.logger.state = (d, a)) :
    w.step i =
      ({ device := executiveAct i.env d a
         since :=
           if (executiveAct i.env d a).logger.state = w.device.logger.state then w.since ++ [i]
           else [] }, a) := by
  have hfound : (i.find w.device).logger = w.device.logger := rfl
  have hexec : loggerExecutive i.env (i.find w.device) = executiveAct i.env d a := by
    simp only [loggerExecutive, hfound, hsd, Bool.false_eq_true, if_false, htick]
  have haction : (i.find w.device).executiveAction = a := by
    simp only [Device.executiveAction, hfound, hsd, Bool.false_eq_true, if_false, htick]
  simp only [Watch.step, hexec, haction]

/-- The tick of an active state, for what its handler returns. -/
theorem Counts.step_active (h : w.Counts) {state : LoggerState}
    (hstate : w.device.logger.state = state) (hactive : state.isActive = true)
    (i : ExecutiveInput) {x : Executive}
    (htick : (i.find w.device).executiveTick state =
      ({ i.find w.device with executive := x }, decision state (w.since ++ [i])))
    (hfilter : x.filterInitialized = true)
    (hlogging : state = .logging → decision state (w.since ++ [i]) = .none →
      LoggingCounts x (w.since ++ [i]))
    (hjumped : state = .jumped → decision state (w.since ++ [i]) = .none →
      JumpedCounts x (w.since ++ [i])) :
    w.Decides i (w.step i).1 ∧ (w.step i).1.Counts := by
  subst hstate
  have hstep := step_of_tick h.sd htick
  unfold Decides
  rw [if_pos hactive, hstep]
  cases hdecision : decision w.device.logger.state (w.since ++ [i]) with
  | none =>
    refine ⟨⟨rfl, rfl⟩, h.sd, hfilter, fun hst => ?_, fun hst => ?_⟩
    · simpa [executiveAct, ExecutiveInput.find] using hlogging hst hdecision
    · simpa [executiveAct, ExecutiveInput.find] using hjumped hst hdecision
  | start => exact absurd hdecision (decision_ne_start _ _)
  | jumped =>
    have hlog := logging_of_decision_jumped hdecision
    obtain ⟨hst, husb, hexec⟩ := executiveAct_jumped i.env
      (d := { i.find w.device with executive := x }) hlog
    refine ⟨⟨rfl, hst⟩, ?_⟩
    simp only [hst, hlog, reduceCtorEq, if_false]
    exact .entered (husb.trans h.sd) hfilter hexec
  | rearm =>
    obtain ⟨hst, husb, hexec⟩ := executiveAct_rearm i.env
      (d := { i.find w.device with executive := x }) h.sd
    refine ⟨⟨rfl, hst⟩, ?_⟩
    have hne : LoggerState.armed ≠ w.device.logger.state := by
      rintro heq
      simp [← heq, LoggerState.isActive] at hactive
    simp only [hst, if_neg hne]
    exact .entered husb hfilter hexec

/-- A state that is not active keeps no run lengths. -/
theorem Counts.of_not_active {w : Watch} (hsd : w.device.logger.usbMode = false)
    (hfilter : w.device.executive.filterInitialized = true)
    (hactive : w.device.logger.state.isActive = false) : w.Counts where
  sd := hsd
  filter := hfilter
  logging hst := by simp [hst, LoggerState.isActive] at hactive
  jumped hst := by simp [hst, LoggerState.isActive] at hactive

/-- A tick in ARMED only starts a session, or leaves the state as it is. -/
theorem Counts.step_armed {w : Watch} (h : w.Counts) (hstate : w.device.logger.state = .armed)
    (i : ExecutiveInput) : w.Decides i (w.step i).1 ∧ (w.step i).1.Counts := by
  have hinit : (i.find w.device).executive.filterInitialized = true := h.filter
  have hactive : w.device.logger.state.isActive = false := by
    rw [hstate]
    rfl
  obtain ⟨count, action, hhandle, haction⟩ :=
    executiveHandleArmedState_cases i.climbRate (i.find w.device).executive
  let found : Device :=
    { i.find w.device with
      executive := { (i.find w.device).executive with takeoffConfirmCount := count } }
  have htick : (i.find w.device).executiveTick w.device.logger.state = (found, action) := by
    rw [hstate, executiveTick_armed hinit]
    exact congrArg (fun r => ({ i.find w.device with executive := r.1 }, r.2)) hhandle
  rw [step_of_tick h.sd htick]
  unfold Decides
  rw [hstate, if_neg (by decide)]
  rcases haction with rfl | rfl
  · exact ⟨.inl hstate, .of_not_active h.sd h.filter hactive⟩
  · by_cases hret : (loggerStart (ascii "takeoff_detected") i.env.start found).2 = 0
    · obtain ⟨husb, hlog, hexec⟩ := executiveAct_start_ok i.env hret
      refine ⟨.inr ⟨rfl, hlog⟩, ?_⟩
      simp only [hlog, reduceCtorEq, if_false]
      exact .entered (x := found.executive) (husb.trans h.sd) h.filter hexec
    · obtain ⟨husb, hkeeps, hexec⟩ := executiveAct_start_error i.env hret
      refine ⟨.inl (hkeeps.trans hstate), .of_not_active (husb.trans h.sd) ?_ ?_⟩
      · exact (congrArg Executive.filterInitialized hexec).trans h.filter
      · exact (congrArg LoggerState.isActive hkeeps).trans hactive

/-- A tick in a state that the executive does not handle only resets the counters. -/
theorem Counts.step_idle {w : Watch} (h : w.Counts)
    (hactive : w.device.logger.state.isActive = false)
    (harmed : w.device.logger.state ≠ .armed) (i : ExecutiveInput) :
    w.Decides i (w.step i).1 ∧ (w.step i).1.Counts := by
  have hinit : (i.find w.device).executive.filterInitialized = true := h.filter
  have htick : (i.find w.device).executiveTick w.device.logger.state =
      ((i.find w.device).executiveResetCounters, .none) := by
    unfold Device.executiveTick
    cases hstate : w.device.logger.state with
    | armed => exact absurd hstate harmed
    | logging | jumped => simp [hstate, LoggerState.isActive] at hactive
    | idle | postflight | error =>
      simp only [hinit, Bool.not_true, Bool.false_eq_true, if_false]
  have hkeeps : (executiveAct i.env (i.find w.device).executiveResetCounters .none).logger.state =
      w.device.logger.state := rfl
  rw [step_of_tick h.sd htick]
  refine ⟨?_, .of_not_active h.sd h.filter ?_⟩
  · unfold Decides
    rw [if_neg (by simp [hactive])]
    exact .inl hkeeps
  · rw [hkeeps, hactive]

/-- A tick decides by the run lengths, and the counters stand for them afterwards. -/
theorem Counts.step (h : w.Counts) (i : ExecutiveInput) :
    w.Decides i (w.step i).1 ∧ (w.step i).1.Counts := by
  have hinit : (i.find w.device).executive.filterInitialized = true := h.filter
  cases hstate : w.device.logger.state with
  | logging =>
    have hcounts : LoggingCounts (i.find w.device).executive w.since :=
      { h.logging hstate with }
    obtain ⟨x, hhandle, hfilter, hnone⟩ := hcounts.decides i
    refine h.step_active hstate rfl i ?_ (hfilter.trans hinit) (fun _ => hnone) (by simp)
    rw [executiveTick_logging hinit]
    exact congrArg (fun r => ({ i.find w.device with executive := r.1 }, r.2)) hhandle
  | jumped =>
    have hcounts : JumpedCounts (i.find w.device).executive w.since :=
      { h.jumped hstate with }
    obtain ⟨x, hhandle, hfilter, hnone⟩ := hcounts.decides i
    refine h.step_active hstate rfl i ?_ (hfilter.trans hinit) (by simp) (fun _ => hnone)
    rw [executiveTick_jumped hinit]
    exact congrArg (fun r => ({ i.find w.device with executive := r.1 }, r.2)) hhandle
  | armed => exact h.step_armed hstate i
  | idle | postflight | error =>
    refine h.step_idle ?_ ?_ i
    · rw [hstate]
      rfl
    · simp [hstate]

end Watch

/-- The device as it enters a state: no session, or one that has just been started or
marked jumped. -/
inductive Device.Entered : Device → Prop
  | inactive {d : Device} (h : d.logger.state.isActive = false) : Entered d
  | started {d : Device} (reason : Bytes) (e : StartEnv) (h : (loggerStart reason e d).2 = 0) :
    Entered (loggerStart reason e d).1
  | jumped {d : Device} (now : UInt64) (h : (loggerJumped now d).2 = 0) :
    Entered (loggerJumped now d).1

theorem Device.Entered.counts {d : Device} (h : d.Entered) (hsd : d.logger.usbMode = false)
    (hfilter : d.executive.filterInitialized = true) : Watch.Counts ⟨d, []⟩ := by
  cases h with
  | inactive hactive => exact .of_not_active hsd hfilter hactive
  | started reason e hret =>
    rename_i d0
    have hdetectors := loggerStart_detectors d0 reason e
    rw [if_pos hret] at hdetectors
    have hexec := congrArg Detectors.executive hdetectors
    exact .entered hsd ((congrArg Executive.filterInitialized hexec).symm.trans hfilter) hexec
  | jumped now hret =>
    rename_i d0
    have hstate : d0.logger.state = .logging := by
      by_contra hne
      simp [loggerJumped_eq, hne, Errno.einval] at hret
    have hdetectors := loggerJumped_detectors d0 now
    rw [if_pos hstate] at hdetectors
    have hexec := congrArg Detectors.executive hdetectors
    exact .entered hsd ((congrArg Executive.filterInitialized hexec).symm.trans hfilter) hexec

/-- In an SD session every tick decides by the runs since the entry to the state. -/
theorem Device.Entered.decides_along {d : Device} (h : d.Entered) (hsd : d.logger.usbMode = false)
    (hfilter : d.executive.filterInitialized = true) (ticks : List ExecutiveInput) :
    Machine.Along Watch.step Watch.Decides ⟨d, []⟩ ticks := by
  have hguarded : Machine.Guarded Watch.step (fun _ _ => True) ⟨d, []⟩ ticks :=
    .of_forall (fun _ _ _ => trivial) _
  exact hguarded.along (fun w i hw _ => (hw.step i).2) (fun w i hw _ => (hw.step i).1)
    (h.counts hsd hfilter)

/-! ### A jump after eight ticks -/

/-- A device in ARMED whose filter is initialised. -/
def armedDevice : Device :=
  { loggerArm .working (Device.initial (loggerCfg false) true ⟨[], [], [], 0⟩) with
    executive :=
      { (Device.initial (loggerCfg false) true ⟨[], [], [], 0⟩).executive with
        filterInitialized := true } }

def ExecutiveEnv.working : ExecutiveEnv where
  start := .working
  jumpedNow := 7000000
  stop := .working
  arm := .working

/-- A tick in free fall, without an acceleration. -/
def freefallTick : ExecutiveInput where
  climbRate := -6
  accelFilter := armedDevice.accelFilter
  env := .working

theorem decides_freefall :
    Machine.Along Watch.step Watch.Decides ⟨(loggerStart [] .working armedDevice).1, []⟩
      (List.replicate 8 freefallTick) := by
  have hret : (loggerStart [] .working armedDevice).2 = 0 := by decide +kernel
  exact (Device.Entered.started [] .working hret).decides_along (by decide +kernel)
    (by decide +kernel) _

/-! ## Attempts to start -/

/-- A tick in ARMED above the takeoff threshold, whose start fails if it attempts one. -/
def Watch.FailedClimb (w : Watch) (i : ExecutiveInput) (_ : Watch) : Prop :=
  let found := i.find w.device
  w.device.logger.state = .armed ∧ i.climbing = true ∧
    (found.executiveAction = .start →
      (loggerStart (ascii "takeoff_detected") i.env.start (found.executiveTick .armed).1).2 ≠ 0)

/-- From the twelfth tick on, every tick attempts a start. -/
def KeepsRetrying (actions : List ExecutiveAction) : Prop :=
  ∀ a ∈ actions.drop 11, a = .start

/-- What the `k`-th tick of a climb does, from 0, when the counter began at `count`. -/
def attempt (count k : Nat) : ExecutiveAction :=
  if 12 ≤ (count + (k + 1)) % 256 then .start else .none

/-- A tick that looks at the counters. -/
def Device.Ticks (d : Device) : Prop :=
  d.logger.usbMode = false ∧ d.executive.filterInitialized = true

instance (d : Device) : Decidable d.Ticks := inferInstanceAs (Decidable (_ ∧ _))

/-- A tick that looks at no counter changes nothing. -/
theorem loggerExecutive_of_not_ticks {d : Device} (hticks : ¬ d.Ticks) (e : ExecutiveEnv) :
    loggerExecutive e d = d ∧ d.executiveAction = .none := by
  by_cases husb : d.logger.usbMode = true
  · exact ⟨if_pos husb, if_pos husb⟩
  · have hfilter : d.executive.filterInitialized = false := by
      by_contra hne
      exact hticks ⟨by simpa using husb, (Bool.not_eq_false _).mp hne⟩
    have htick : d.executiveTick d.logger.state = (d, .none) := by
      simp only [Device.executiveTick, hfilter, Bool.not_false, if_true]
    constructor
    · rw [loggerExecutive, if_neg husb, htick]
      rfl
    · rw [Device.executiveAction, if_neg husb, htick]

namespace Watch

variable {w : Watch} {i : ExecutiveInput}

/-- A failed climb counts, and attempts a start when the counter says so. -/
theorem FailedClimb.step (h : w.FailedClimb i (w.step i).1) (hticks : w.device.Ticks) :
    (w.step i).2 = attempt w.device.executive.takeoffConfirmCount.toNat 0 ∧
      (w.step i).1.device.Ticks ∧
      (w.step i).1.device.executive.takeoffConfirmCount =
        w.device.executive.takeoffConfirmCount + 1 ∧
      (w.step i).1.device.logger.state = .armed := by
  obtain ⟨hstate, hclimb, hfails⟩ := h
  obtain ⟨hsd, hfilter⟩ := hticks
  have hfound : (i.find w.device).executive.filterInitialized = true := hfilter
  let count := w.device.executive.takeoffConfirmCount + 1
  let counted : Device :=
    { i.find w.device with
      executive := { (i.find w.device).executive with takeoffConfirmCount := count } }
  have hhandle : executiveHandleArmedState i.climbRate (i.find w.device).executive =
      (counted.executive, if 12 ≤ count.toNat then .start else .none) :=
    if_pos (of_decide_eq_true hclimb)
  have harmed : (i.find w.device).executiveTick .armed =
      (counted, if 12 ≤ count.toNat then .start else .none) := by
    rw [executiveTick_armed hfound]
    exact congrArg (fun r => ({ i.find w.device with executive := r.1 }, r.2)) hhandle
  have hcount : count.toNat =
      (w.device.executive.takeoffConfirmCount.toNat + (0 + 1)) % 256 := by
    simp [count, UInt8.toNat_add]
  have hattempt : attempt w.device.executive.takeoffConfirmCount.toNat 0 =
      if 12 ≤ count.toNat then .start else .none := by
    rw [attempt, hcount]
  have haction : (i.find w.device).executiveAction =
      if 12 ≤ count.toNat then .start else .none := by
    have hlogger : (i.find w.device).logger = w.device.logger := rfl
    simp only [Device.executiveAction, hlogger, hsd, hstate, harmed, Bool.false_eq_true, if_false]
  rw [haction, harmed] at hfails
  rw [hattempt, step_of_tick hsd (hstate.symm ▸ harmed)]
  by_cases hstart : 12 ≤ count.toNat
  · rw [if_pos hstart] at hfails ⊢
    obtain ⟨husb, hst, hexec⟩ := executiveAct_start_error i.env (hfails rfl)
    exact ⟨rfl, ⟨husb.trans hsd, (congrArg Executive.filterInitialized hexec).trans hfilter⟩,
      congrArg Executive.takeoffConfirmCount hexec, hst.trans hstate⟩
  · rw [if_neg hstart]
    exact ⟨rfl, ⟨hsd, hfilter⟩, rfl, hstate⟩

/-- The decisions of a climb in which every start fails. -/
theorem FailedClimb.run {ticks : List ExecutiveInput}
    (hrun : Machine.Along Watch.step FailedClimb w ticks) (hticks : w.device.Ticks) :
    (Machine.run Watch.step w ticks).2 =
      (List.range ticks.length).map
        (attempt w.device.executive.takeoffConfirmCount.toNat) := by
  induction ticks generalizing w with
  | nil => rfl
  | cons i ticks ih =>
    obtain ⟨hout, hticks', hcount, -⟩ := FailedClimb.step hrun.1 hticks
    have hrest := ih hrun.2 hticks'
    rw [Machine.run_cons, List.length_cons, List.range_succ_eq_map, List.map_cons, List.map_map]
    simp only [hout, hrest, hcount]
    congr 1
    refine List.map_congr_left fun k _ => ?_
    have hshift : ((w.device.executive.takeoffConfirmCount + 1).toNat + (k + 1)) % 256 =
        (w.device.executive.takeoffConfirmCount.toNat + (k + 1 + 1)) % 256 := by
      rw [UInt8.toNat_add, UInt8.toNat_one]
      omega
    exact congrArg (fun m => if 12 ≤ m then ExecutiveAction.start else .none) hshift

theorem step_of_not_ticks (hticks : ¬ w.device.Ticks) (i : ExecutiveInput) :
    (w.step i).2 = .none ∧ ¬ (w.step i).1.device.Ticks := by
  have hfound : ¬ (i.find w.device).Ticks := hticks
  obtain ⟨hexec, haction⟩ := loggerExecutive_of_not_ticks hfound i.env
  simp only [Watch.step, haction, hexec]
  exact ⟨trivial, hticks⟩

theorem run_of_not_ticks (hticks : ¬ w.device.Ticks) (ticks : List ExecutiveInput) :
    (Machine.run Watch.step w ticks).2 = List.replicate ticks.length .none := by
  induction ticks generalizing w with
  | nil => rfl
  | cons i ticks ih =>
    obtain ⟨hout, hticks'⟩ := step_of_not_ticks hticks i
    rw [Machine.run_cons, List.length_cons, List.replicate_succ]
    simp only [hout, ih hticks']

end Watch

/-- A counter of one byte that starts at `count` attempts from the twelfth tick on unless
it wraps. -/
theorem keepsRetrying_attempts {count : Nat} (hcount : count < 256) (length : Nat) :
    KeepsRetrying ((List.range length).map (attempt count)) ↔
      length < 12 ∨ count + length < 256 := by
  have hdrop : ((List.range length).map (attempt count)).drop 11 =
      (List.range' 11 (length - 11)).map (attempt count) := by
    rw [← List.map_drop, List.range_eq_range', List.drop_range', Nat.zero_add, Nat.mul_one]
  unfold KeepsRetrying
  rw [hdrop]
  constructor
  · intro hall
    by_contra hlong
    -- the first tick from the twelfth on at which the counter is below twelve
    let k := max 12 (256 - count) - 1
    have hk : attempt count k = .start := by
      refine hall _ (List.mem_map_of_mem ?_)
      rw [List.mem_range'_1]
      omega
    have hwrapped : (count + (k + 1)) % 256 < 12 := by omega
    rw [attempt, if_neg (by omega)] at hk
    exact absurd hk (by decide)
  · intro hshort a ha
    obtain ⟨k, hk, rfl⟩ := List.mem_map.mp ha
    rw [List.mem_range'_1] at hk
    have hmod : (count + (k + 1)) % 256 = count + (k + 1) := Nat.mod_eq_of_lt (by omega)
    rw [attempt, if_pos (by omega)]

theorem keepsRetrying_none (length : Nat) :
    KeepsRetrying (List.replicate length .none) ↔ length < 12 := by
  unfold KeepsRetrying
  rw [List.drop_replicate]
  constructor
  · intro hall
    by_contra hlong
    have hnone := hall .none (List.mem_replicate.mpr ⟨by omega, rfl⟩)
    exact absurd hnone (by decide)
  · intro hshort a ha
    rw [List.mem_replicate] at ha
    omega

/-- In a climb in which every start fails, the executive keeps retrying exactly when the
climb ends before the counter wraps. -/
theorem keepsRetrying_iff (w : Watch) (ticks : List ExecutiveInput)
    (hrun : Machine.Along Watch.step Watch.FailedClimb w ticks) :
    KeepsRetrying (Machine.run Watch.step w ticks).2 ↔
      ticks.length < 12 ∨
        (w.device.Ticks ∧ w.device.executive.takeoffConfirmCount.toNat + ticks.length < 256) := by
  by_cases hticks : w.device.Ticks
  · rw [Watch.FailedClimb.run hrun hticks,
      keepsRetrying_attempts w.device.executive.takeoffConfirmCount.toNat_lt]
    simp only [hticks, true_and]
  · rw [Watch.run_of_not_ticks hticks, keepsRetrying_none]
    simp only [hticks, false_and, or_false]

/-! ### A card that is not ready -/

/-- A start that cannot open its file fails. -/
theorem loggerStart_ne_zero_of_open (d : Device) (reason : Bytes) {e : StartEnv}
    (hopen : (storageOpen e.file.file).2 ≠ 0) : (loggerStart reason e d).2 ≠ 0 := by
  have hlocked : (loggerStartLocked e d).2 ≠ 0 := by
    unfold loggerStartLocked
    split
    · simp [Errno.einval]
    · simp only
      rw [if_neg (by simp [createSessionDirectory])]
      have hret := openFile_ret (createSessionDirectory e (d.newSession e.rand e.now)).1 e.file
      rw [if_pos (hret ▸ hopen), hret]
      exact hopen
  unfold loggerStart
  rwa [if_pos hlocked]

/-- A climbing tick, while the session's file cannot be opened. -/
def failingTick : ExecutiveInput where
  climbRate := 2
  accelFilter := armedDevice.accelFilter
  env := { ExecutiveEnv.working with
    start := { StartEnv.working with file := { StartEnv.working.file with file := .error 4 } } }

theorem failedClimb_failingTicks (n : Nat) :
    Machine.Along Watch.step Watch.FailedClimb ⟨armedDevice, []⟩
      (List.replicate n failingTick) := by
  have hfailed (w : Watch) (hst : w.device.logger.state = .armed) :
      w.FailedClimb failingTick (w.step failingTick).1 :=
    ⟨hst, by decide +kernel, fun _ => loggerStart_ne_zero_of_open _ _ (by decide)⟩
  have hguarded : Machine.Guarded Watch.step (fun _ i => i = failingTick) ⟨armedDevice, []⟩
      (List.replicate n failingTick) :=
    .of_forall (fun i hi _ => List.eq_of_mem_replicate hi) _
  refine hguarded.along (I := fun w => w.device.logger.state = .armed ∧ w.device.Ticks) ?_ ?_
    ⟨by decide +kernel, by decide +kernel, by decide +kernel⟩
  · rintro w i ⟨hst, hticks⟩ rfl
    obtain ⟨-, hticks', -, hst'⟩ := (hfailed w hst).step hticks
    exact ⟨hst', hticks'⟩
  · rintro w i ⟨hst, -⟩ rfl
    exact hfailed w hst

theorem keepsRetrying_failingTicks :
    KeepsRetrying (Machine.run Watch.step ⟨armedDevice, []⟩ (List.replicate 255 failingTick)).2 :=
  (keepsRetrying_iff _ _ (failedClimb_failingTicks 255)).mpr (.inr (by decide +kernel))

/-- The 256th tick attempts nothing. -/
theorem not_keepsRetrying_failingTicks :
    Machine.Along Watch.step Watch.FailedClimb ⟨armedDevice, []⟩
        (List.replicate 256 failingTick) ∧
      ¬ KeepsRetrying
        (Machine.run Watch.step ⟨armedDevice, []⟩ (List.replicate 256 failingTick)).2 := by
  have hrun := failedClimb_failingTicks 256
  refine ⟨hrun, ?_⟩
  have hticks : Device.Ticks armedDevice := ⟨by decide +kernel, by decide +kernel⟩
  rw [Watch.FailedClimb.run hrun hticks, keepsRetrying_attempts (UInt8.toNat_lt _),
    List.length_replicate]
  omega

end TempoBt
