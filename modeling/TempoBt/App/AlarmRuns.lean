-- SUMMARY: A test alarm from its request on: the tick that starts the session, the tick that marks the jump, and the idle alarm after them.
import TempoBt.App.Led

/-!
# Runs of the test alarm

The handler of the alarm runs once on every pulse of the receiver. A tick calls the
logger when the target time is reached, and once more when the jump delay has been
counted down. Between two ticks the rest of the firmware may do anything that leaves the
alarm alone.
-/

namespace TempoBt

/-! ## Ticks -/

/-- A tick, and what the rest of the firmware did since the one before. -/
structure AlarmTick where
  elsewhere : Device → Device
  env : AlarmEnv
  /-- Only a request and the handler itself write to the alarm. -/
  keeps : ∀ d, (elsewhere d).testAlarm = d.testAlarm

/-- A tick of the alarm, as a machine. -/
def alarmTick (d : Device) (t : AlarmTick) : Device × List (LoggerCall × Int) :=
  testAlarmWorkHandler t.env (t.elsewhere d)

/-- The calls of a tick that start a session or mark its jump. -/
def sessionCalls (calls : List (LoggerCall × Int)) : List LoggerCall :=
  (calls.map Prod.fst).filter (· ≠ .arm)

/-- What the tick with number `n` is to call, for an alarm that comes due at tick `due`. -/
def scheduledCalls (due delay n : Nat) : List LoggerCall :=
  if n = due then [.start] else if n = due + delay then [.jumped] else []

section Ticks

/-- The calls that succeed are those that the bus and the LED hear of. -/
theorem testAlarmWorkHandler_succeeding (e : AlarmEnv) (d : Device) :
    ((testAlarmWorkHandler e d).2.filter fun c => c.2 = 0).map Prod.fst =
      alarmLoggerCalls e d := by
  unfold testAlarmWorkHandler alarmLoggerCalls
  cases d.testAlarm.state with
  | idle => rfl
  | waitingStart =>
    simp only
    split
    · rfl
    · have hstart := loggerStart_eq_zero_iff
        (if d.logger.state = .idle then loggerArm e.arm d else d) (ascii "test_alarm") e.start
      rw [startCommits_armed] at hstart
      simp only [armedStartCalls, List.filter_append, List.map_append, List.filter_cons,
        List.filter_nil, hstart, decide_eq_true_eq]
      congr 1
      · split <;> rfl
      · split <;> rfl
  | waitingJump =>
    simp only
    split
    · rfl
    · have hjumped : (loggerJumped e.jumpedNow
          (d.setTestAlarm d.testAlarm.decrementCountdown)).2 = 0 ↔ d.logger.state = .logging :=
        loggerJumped_eq_zero_iff _ _
      by_cases hcount : d.testAlarm.decrementCountdown.jumpCountdown = 0
      · have hcount' : (d.setTestAlarm
            d.testAlarm.decrementCountdown).testAlarm.jumpCountdown = 0 := hcount
        rw [if_pos hcount', if_pos hcount]
        simp only [List.filter_cons, List.filter_nil, hjumped, decide_eq_true_eq]
        split <;> rfl
      · have hcount' : ¬ (d.setTestAlarm
            d.testAlarm.decrementCountdown).testAlarm.jumpCountdown = 0 := hcount
        rw [if_neg hcount', if_neg hcount]
        rfl

variable {d : Device} {t : AlarmTick}

theorem alarmTick_idle (h : d.testAlarm.state = .idle) :
    alarmTick d t = (t.elsewhere d, []) := by
  simp [alarmTick, testAlarmWorkHandler, t.keeps, h]

theorem alarmTick_early (h : d.testAlarm.state = .waitingStart)
    (hearly : t.env.utcMs < d.testAlarm.targetStartUtcMs) :
    alarmTick d t = (t.elsewhere d, []) := by
  simp [alarmTick, testAlarmWorkHandler, t.keeps, h, hearly]

/-- The tick at which the alarm is due, when its start goes through. -/
theorem alarmTick_due (h : d.testAlarm.state = .waitingStart) (hutc : t.env.utcMs ≠ 0)
    (hdue : ¬ t.env.utcMs < d.testAlarm.targetStartUtcMs)
    (hsucceed : ∀ c ∈ (alarmTick d t).2, c.2 = 0) :
    sessionCalls (alarmTick d t).2 = [.start] ∧
      (alarmTick d t).1.testAlarm = d.testAlarm.started 0 := by
  have hnot : ¬ (t.env.utcMs = 0 ∨ t.env.utcMs < d.testAlarm.targetStartUtcMs) := by
    simp [hutc, hdue]
  have hkeeps := t.keeps d
  simp only [alarmTick, testAlarmWorkHandler, hkeeps, h, if_neg hnot] at hsucceed ⊢
  generalize t.elsewhere d = d' at hkeeps hsucceed ⊢
  generalize hr : loggerStart (ascii "test_alarm") t.env.start
    (if d'.logger.state = .idle then loggerArm t.env.arm d' else d') = r at hsucceed ⊢
  have hret : r.2 = 0 := hsucceed (.start, r.2) (by simp)
  have halarm : r.1.testAlarm = d'.testAlarm := by
    have hstatus := loggerStart_status
      (if d'.logger.state = .idle then loggerArm t.env.arm d' else d')
      (ascii "test_alarm") t.env.start
    rw [hr, if_pos hret] at hstatus
    refine (congrArg Status.testAlarm hstatus).trans ?_
    change (if d'.logger.state = .idle then loggerArm t.env.arm d' else d').status.testAlarm = _
    split
    · rw [loggerArm_status]
      rfl
    · rfl
  constructor
  · split <;> rfl
  · change r.1.testAlarm.started r.2 = _
    rw [halarm, hkeeps, hret]

theorem toNat_decrementCountdown (a : TestAlarm) :
    a.decrementCountdown.jumpCountdown.toNat = a.jumpCountdown.toNat - 1 := by
  unfold TestAlarm.decrementCountdown
  simp only
  split
  · rename_i hpos
    have hone : (1 : UInt32) ≤ a.jumpCountdown := by
      rw [UInt32.lt_iff_toNat_lt] at hpos
      rw [UInt32.le_iff_toNat_le]
      exact hpos
    exact UInt32.toNat_sub_of_le _ _ hone
  · rename_i hzero
    rw [UInt32.not_lt, UInt32.le_iff_toNat_le] at hzero
    change a.jumpCountdown.toNat ≤ 0 at hzero
    omega

/-- A tick of the countdown that is not its last. -/
theorem alarmTick_counting (h : d.testAlarm.state = .waitingJump) (hutc : t.env.utcMs ≠ 0)
    (hcount : 1 < d.testAlarm.jumpCountdown.toNat) :
    alarmTick d t = ((t.elsewhere d).setTestAlarm d.testAlarm.decrementCountdown, []) := by
  have hne : ¬ d.testAlarm.decrementCountdown.jumpCountdown = 0 := by
    rw [← UInt32.toNat_inj, toNat_decrementCountdown]
    change ¬ d.testAlarm.jumpCountdown.toNat - 1 = 0
    omega
  simp only [alarmTick, testAlarmWorkHandler, t.keeps, h, if_neg hutc,
    Device.setTestAlarm_testAlarm, hne, if_false]

/-- The last tick of the countdown. -/
theorem alarmTick_jump (h : d.testAlarm.state = .waitingJump) (hutc : t.env.utcMs ≠ 0)
    (hcount : d.testAlarm.jumpCountdown.toNat = 1) :
    sessionCalls (alarmTick d t).2 = [.jumped] ∧
      (alarmTick d t).1.testAlarm.state = .idle := by
  have hzero : d.testAlarm.decrementCountdown.jumpCountdown = 0 := by
    rw [← UInt32.toNat_inj, toNat_decrementCountdown, hcount]
    rfl
  simp only [alarmTick, testAlarmWorkHandler, t.keeps, h, if_neg hutc,
    Device.setTestAlarm_testAlarm, hzero, if_true]
  exact ⟨rfl, rfl⟩

end Ticks

/-! ## Runs -/

section Runs

variable {d : Device} {ticks : List AlarmTick}

/-- The calls of a run, tick by tick. -/
def alarmRunCalls (d : Device) (ticks : List AlarmTick) : List (List LoggerCall) :=
  (Machine.run alarmTick d ticks).2.map sessionCalls

@[simp] theorem alarmRunCalls_nil : alarmRunCalls d [] = [] := rfl

@[simp] theorem alarmRunCalls_cons (t : AlarmTick) :
    alarmRunCalls d (t :: ticks) =
      sessionCalls (alarmTick d t).2 :: alarmRunCalls (alarmTick d t).1 ticks := rfl

/-- The calls of a run are given by their place in it when those of its first tick and of
the rest are. -/
theorem alarmRunCalls_cons_eq {t : AlarmTick} {f : Nat → List LoggerCall}
    (hfirst : sessionCalls (alarmTick d t).2 = f 0)
    (hrest : alarmRunCalls (alarmTick d t).1 ticks =
      (List.range ticks.length).map fun n => f (n + 1)) :
    alarmRunCalls d (t :: ticks) = (List.range (ticks.length + 1)).map f := by
  rw [alarmRunCalls_cons, hfirst, hrest, List.range_succ_eq_map, List.map_cons, List.map_map]
  rfl

/-- What is idle `k` ticks after the first one is idle `k + 1` ticks after the beginning. -/
theorem idle_take_cons {t : AlarmTick} {k n : Nat}
    (h : ∀ n, k ≤ n → n ≤ ticks.length →
      (Machine.run alarmTick (alarmTick d t).1 (ticks.take n)).1.testAlarm.state = .idle)
    (hn : k < n) (hlength : n ≤ ticks.length + 1) :
    (Machine.run alarmTick d ((t :: ticks).take n)).1.testAlarm.state = .idle := by
  cases n with
  | zero => omega
  | succ n =>
    rw [List.take_succ_cons, Machine.run_cons_fst]
    exact h n (Nat.le_of_lt_succ hn) (Nat.le_of_succ_le_succ hlength)

theorem run_idle (h : d.testAlarm.state = .idle) (ticks : List AlarmTick) :
    alarmRunCalls d ticks = (List.range ticks.length).map (fun _ => []) ∧
      (Machine.run alarmTick d ticks).1.testAlarm.state = .idle := by
  induction ticks generalizing d with
  | nil => exact ⟨rfl, h⟩
  | cons t ticks ih =>
    obtain ⟨hcalls, hidle⟩ := ih (d := t.elsewhere d) (by rw [t.keeps]; exact h)
    have htick := alarmTick_idle (t := t) h
    constructor
    · refine alarmRunCalls_cons_eq (by rw [htick]; rfl) ?_
      rw [htick, hcalls]
    · rw [Machine.run_cons_fst, htick]
      exact hidle

/-- The jump is marked when the countdown has run, and the alarm is idle from then on. -/
theorem run_countdown {count : Nat} (h : d.testAlarm.state = .waitingJump)
    (hcount : d.testAlarm.jumpCountdown.toNat = count) (hpos : 0 < count)
    (hvalid : ∀ t ∈ ticks, t.env.utcMs ≠ 0) :
    alarmRunCalls d ticks =
        (List.range ticks.length).map (fun n => if n + 1 = count then [.jumped] else []) ∧
      ∀ n, count ≤ n → n ≤ ticks.length →
        (Machine.run alarmTick d (ticks.take n)).1.testAlarm.state = .idle := by
  induction ticks generalizing d count with
  | nil =>
    refine ⟨rfl, fun n hn hlength => ?_⟩
    rw [List.length_nil] at hlength
    omega
  | cons t ticks ih =>
    obtain ⟨hutc, hvalid⟩ := List.forall_mem_cons.mp hvalid
    rcases Nat.lt_or_ge 1 count with hlong | hshort
    · have htick := alarmTick_counting (t := t) h hutc (hcount.symm ▸ hlong)
      have hnext : ((t.elsewhere d).setTestAlarm
          d.testAlarm.decrementCountdown).testAlarm.jumpCountdown.toNat = count - 1 := by
        rw [Device.setTestAlarm_testAlarm, toNat_decrementCountdown, hcount]
      obtain ⟨hcalls, hidle⟩ :=
        ih (d := (t.elsewhere d).setTestAlarm d.testAlarm.decrementCountdown) h hnext (by omega)
          hvalid
      constructor
      · apply alarmRunCalls_cons_eq
        · rw [htick, if_neg (by omega)]
          rfl
        · rw [htick, hcalls]
          exact List.map_congr_left fun n _ => if_congr (by omega) rfl rfl
      · intro n hn hlength
        refine idle_take_cons (k := count - 1) ?_ (by omega) hlength
        rw [htick]
        exact hidle
    · obtain rfl : count = 1 := by omega
      obtain ⟨hjump, hidle⟩ := alarmTick_jump h hutc hcount
      constructor
      · refine alarmRunCalls_cons_eq hjump ?_
        rw [(run_idle hidle ticks).1]
        exact List.map_congr_left fun n _ => (if_neg (by omega)).symm
      · intro n hn hlength
        exact idle_take_cons (fun n _ _ => (run_idle hidle _).2) hn hlength

/-- From the tick at which the alarm is due. -/
theorem run_due {t : AlarmTick} (h : d.testAlarm.state = .waitingStart)
    (hdue : ¬ t.env.utcMs < d.testAlarm.targetStartUtcMs)
    (hvalid : ∀ t' ∈ t :: ticks, t'.env.utcMs ≠ 0)
    (hsucceed : ∀ c ∈ (alarmTick d t).2, c.2 = 0) :
    alarmRunCalls d (t :: ticks) =
        (List.range (ticks.length + 1)).map
          (scheduledCalls 0 d.testAlarm.jumpDelaySec.toNat) ∧
      ∀ n, d.testAlarm.jumpDelaySec.toNat < n → n ≤ ticks.length + 1 →
        (Machine.run alarmTick d ((t :: ticks).take n)).1.testAlarm.state = .idle := by
  obtain ⟨hutc, hvalid⟩ := List.forall_mem_cons.mp hvalid
  obtain ⟨hcalls, halarm⟩ := alarmTick_due h hutc hdue hsucceed
  by_cases hdelay : 0 < d.testAlarm.jumpDelaySec
  · have hstarted : d.testAlarm.started 0 =
        d.testAlarm.startJumpCountdown.setState .waitingJump := by
      rw [TestAlarm.started, if_neg (by simp), if_pos hdelay]
    rw [hstarted] at halarm
    obtain ⟨hrest, hidle⟩ := run_countdown (d := (alarmTick d t).1)
      (congrArg TestAlarm.state halarm)
      (congrArg (fun a => a.jumpCountdown.toNat) halarm) hdelay hvalid
    constructor
    · refine alarmRunCalls_cons_eq hcalls (hrest.trans (List.map_congr_left fun n _ => ?_))
      simp [scheduledCalls]
    · exact fun n hn hlength => idle_take_cons hidle hn hlength
  · have hstarted : d.testAlarm.started 0 = d.testAlarm.setState .idle := by
      rw [TestAlarm.started, if_neg (by simp), if_neg hdelay]
    rw [hstarted] at halarm
    have hzero : d.testAlarm.jumpDelaySec.toNat = 0 := by
      rw [UInt32.not_lt, UInt32.le_iff_toNat_le] at hdelay
      exact Nat.le_zero.mp hdelay
    have hidle : (alarmTick d t).1.testAlarm.state = .idle := congrArg TestAlarm.state halarm
    constructor
    · refine alarmRunCalls_cons_eq hcalls
        ((run_idle hidle ticks).1.trans (List.map_congr_left fun n _ => ?_))
      simp [scheduledCalls, hzero]
    · exact fun n hn hlength => idle_take_cons (fun n _ _ => (run_idle hidle _).2) hn hlength

/-- From any tick before that. -/
theorem run_waiting {due : Nat} (h : d.testAlarm.state = .waitingStart)
    (hdue : (ticks.takeWhile fun t => t.env.utcMs < d.testAlarm.targetStartUtcMs).length = due)
    (hvalid : ∀ t ∈ ticks, t.env.utcMs ≠ 0)
    (hsucceed : ∀ calls ∈ (Machine.run alarmTick d ticks).2, ∀ c ∈ calls, c.2 = 0) :
    alarmRunCalls d ticks =
        (List.range ticks.length).map (scheduledCalls due d.testAlarm.jumpDelaySec.toNat) ∧
      ∀ n, due + d.testAlarm.jumpDelaySec.toNat < n → n ≤ ticks.length →
        (Machine.run alarmTick d (ticks.take n)).1.testAlarm.state = .idle := by
  induction ticks generalizing d due with
  | nil =>
    refine ⟨rfl, fun n hn hlength => ?_⟩
    rw [List.length_nil] at hlength
    omega
  | cons t ticks ih =>
    by_cases hearly : t.env.utcMs < d.testAlarm.targetStartUtcMs
    · have htick := alarmTick_early h hearly
      rw [Machine.run_cons, htick] at hsucceed
      rw [List.takeWhile_cons_of_pos (by simpa using hearly), List.length_cons] at hdue
      have hkeeps := t.keeps d
      obtain ⟨hcalls, hidle⟩ := ih (d := t.elsewhere d) (by rw [hkeeps]; exact h) rfl
        (fun t' ht' => hvalid t' (List.mem_cons_of_mem t ht'))
        (fun calls hcalls => hsucceed calls (List.mem_cons_of_mem _ hcalls))
      rw [hkeeps] at hcalls hidle
      constructor
      · apply alarmRunCalls_cons_eq
        · rw [htick, scheduledCalls, if_neg (by omega), if_neg (by omega)]
          rfl
        · rw [htick, hcalls]
          refine List.map_congr_left fun n _ => ?_
          exact if_congr (by omega) rfl (if_congr (by omega) rfl rfl)
      · intro n hn hlength
        refine idle_take_cons (k := due - 1 + d.testAlarm.jumpDelaySec.toNat + 1) ?_ (by omega)
          hlength
        rw [htick]
        exact fun n hn hlength => hidle n (by omega) hlength
    · rw [List.takeWhile_cons_of_neg (by simpa using hearly), List.length_nil] at hdue
      subst hdue
      rw [Nat.zero_add]
      exact run_due h hearly hvalid (hsucceed _ (by simp [Machine.run_cons]))

end Runs

/-- **The alarm fires once and on time.** The session starts at the first tick at or after
the target, the jump is marked `delay` ticks later, and no other tick starts a session or
marks a jump. -/
theorem alarm_firesOnce (d : Device) (target : UInt64) (delay : UInt32) (ticks : List AlarmTick)
    (hvalid : ∀ t ∈ ticks, t.env.utcMs ≠ 0)
    (hsucceed : ∀ calls ∈ (Machine.run alarmTick (testLoggingScheduled target delay d) ticks).2,
      ∀ c ∈ calls, c.2 = 0) :
    let due := (ticks.takeWhile fun t => t.env.utcMs < target).length
    alarmRunCalls (testLoggingScheduled target delay d) ticks =
        (List.range ticks.length).map (scheduledCalls due delay.toNat) ∧
      ∀ n, due + delay.toNat < n → n ≤ ticks.length →
        (Machine.run alarmTick (testLoggingScheduled target delay d)
          (ticks.take n)).1.testAlarm.state = .idle :=
  run_waiting rfl rfl hvalid hsucceed

theorem alarm_firesOnce_secondTick :
    let d := loggerInit (loggerCfg false) true ⟨[], [], [], 0⟩ none none
    let ticks := ([999, 1000, 2000, 3000, 4000] : List UInt64).map fun utcMs =>
      AlarmTick.mk id (AlarmEnv.working utcMs) fun _ => rfl
    alarmRunCalls (testLoggingScheduled 1000 2 d) ticks = [[], [.start], [], [.jumped], []] ∧
      ∀ n, 3 < n → n ≤ 5 →
        (Machine.run alarmTick (testLoggingScheduled 1000 2 d)
          (ticks.take n)).1.testAlarm.state = .idle :=
  alarm_firesOnce _ 1000 2 _ (by decide) (by decide +kernel)

end TempoBt
