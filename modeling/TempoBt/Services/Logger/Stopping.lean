-- SUMMARY: Which thread is stopping the aggregator in an interleaving, and when an active session is left only by a stop.
import TempoBt.Services.Logger.Interleaving

/-!
# Stopping and arming

`logger_stop` gives up the state under the lock and stops the aggregator later.
Between the two, one thread owes the call of `aggregator_stop`. The aggregator
then still runs, so no start can succeed, and this is what keeps overlapping
stops and starts apart. Only `logger_arm`, which refuses no state, can break in:
it leaves active sessions alone exactly when it never finds the aggregator
running.
-/

namespace TempoBt

open Threads (Owner Action)

/-! ## Pending teardown steps -/

/-- The step is one of `logger_stop`'s teardown, of kind `q`. -/
def Instr.teardownIs (q : Teardown → Bool) : Instr → Bool
  | .teardown s => q s
  | _ => false

def Teardown.stopsAggregator : Teardown → Bool
  | .stopAggregator => true
  | _ => false

/-- The flags without that of the acceleration filter. -/
def Flags.core (f : Flags) : Flags := { f with accelFilter := false }

theorem Flags.core_eq {f g : Flags} (h : f.core = g.core) :
    f.state = g.state ∧ f.usbMode = g.usbMode ∧ f.running = g.running ∧
      f.callback = g.callback ∧ f.fileOpen = g.fileOpen ∧ f.ttyOpen = g.ttyOpen := by
  simpa [Flags.core] using h

section Steps

variable (d : Device) (q : Teardown → Bool)

@[simp] theorem countP_map_call (calls : List Call) :
    (calls.map Instr.call).countP (Instr.teardownIs q) = 0 := by
  simp [List.countP_eq_zero, Instr.teardownIs]

theorem execCall_core (c : Call) : (execCall d c).1.flags.core = d.flags.core := by
  cases c with
  | startReturned caller ret => cases caller <;> rfl
  | setTestAlarm state => rfl
  | _ => simp [execCall, Flags.core]

theorem execCaller_flags (c : Caller) : (execCaller d c).1.flags = d.flags := by
  cases c with
  | executiveTick currentState e => exact executiveTick_flags d currentState
  | baroSample s e => exact baroHandlerUpdate_flags d s
  | _ => rfl

/-- Callers put no teardown steps; these come from a stop only. -/
theorem execCaller_countP (c : Caller) :
    (execCaller d c).2.countP (Instr.teardownIs q) = 0 := by
  cases c with
  | executive e => simp only [execCaller]; split <;> rfl
  | executiveReadState e => rfl
  | executiveTick currentState e =>
    simp only [execCaller]
    generalize (d.executiveTick currentState).2 = action
    cases action <;> rfl
  | control action e =>
    simp only [execCaller]
    generalize d.logger.state = state
    cases action <;> cases state <;> rfl
  | button0 e => simp only [execCaller]; split <;> rfl
  | button1 stop start =>
    simp only [execCaller]
    split
    · rfl
    · split <;> rfl
  | testAlarm e =>
    simp only [execCaller, testAlarmTick]
    split
    · rfl
    · split <;> rfl
    · split
      · rfl
      · simp only
        split <;> split <;> rfl
  | armIfIdle e => simp only [execCaller]; split <;> rfl
  | testLogging targetUtcMs jumpDelaySec => rfl
  | baroSample s e => simp only [execCaller]; split <;> rfl

/-- Under the lock only a stop puts teardown steps: one that stops the aggregator
and one that chooses the output to close. -/
theorem execCritical_countP (c : Critical) (hstop : ∀ e, c ≠ .stop e) :
    (execCritical d c).2.1.countP (Instr.teardownIs q) = 0 := by
  cases c with
  | stop e => exact absurd rfl (hstop e)
  | arm e => rfl
  | _ =>
    simp only [execCritical]
    split <;> rfl

end Steps

/-! ## The thread that stops the aggregator -/

section Stopping

variable {ι : Type*} [DecidableEq ι]

/-- Thread `o` is the one that has called `logger_stop` and still has to stop the
aggregator; until it does, the aggregator runs and no session is active. -/
structure Stopping (t : Threads ι Device Instr) (o : Option ι) : Prop where
  state : t.shared.flags.state.canStart = true ∨ t.shared.flags.state.isActive = true
  owner : t.Owner (Instr.teardownIs Teardown.stopsAggregator) o
  running : t.shared.flags.state.isActive = true → t.shared.flags.running = true
  owned : o.isSome = true →
    t.shared.flags.running = true ∧ t.shared.flags.state.isActive = false

/-- What step `p` of thread `i` does to the session and to the thread that stops the
aggregator, from flags `f` to flags `g`. -/
inductive Evolves (i : ι) (p : Instr) (f g : Flags) : Option ι → Option ι → Prop
  | same (o : Option ι) (state : g.state = f.state) (running : g.running = f.running) :
      Evolves i p f g o o
  | started (state : f.state.canStart = true) (idle : f.running = false)
      (logging : g.state = .logging) (running : g.running = true) : Evolves i p f g none none
  | jumped (o : Option ι) (logging : f.state = .logging) (state : g.state = .jumped)
      (running : g.running = f.running) : Evolves i p f g o o
  | stopped (e : StopEnv) (step : p = .critical (.stop e)) (active : f.state.isActive = true)
      (state : g.state = .idle) (running : g.running = f.running) : Evolves i p f g none (some i)
  | aggregatorStopped (state : g.state = f.state) (running : g.running = false) :
      Evolves i p f g (some i) none
  | armed (o : Option ι) (e : ArmEnv) (step : p = .critical (.arm e)) (state : g.state = .armed)
      (running : g.running = f.running) : Evolves i p f g o o
  | disarmed (o : Option ι) (armed : f.state = .armed) (state : g.state = .idle)
      (running : g.running = f.running) : Evolves i p f g o o

theorem canStop_of_isActive {state : LoggerState} (h : state.isActive = true) :
    state.canStop = true := by
  cases state <;> simp_all [LoggerState.isActive, LoggerState.canStop]

theorem Stopping.none_of_not_running {t : Threads ι Device Instr} {o : Option ι}
    (h : Stopping t o) (hrun : t.shared.flags.running = false) : o = none := by
  cases o with
  | none => rfl
  | some i => simp [h.owned rfl] at hrun

theorem Stopping.none_of_isActive {t : Threads ι Device Instr} {o : Option ι}
    (h : Stopping t o) (hactive : t.shared.flags.state.isActive = true) : o = none := by
  cases o with
  | none => rfl
  | some i => simp [h.owned rfl] at hactive

/-- A session that can be stopped is active: POSTFLIGHT is never reached. -/
theorem Stopping.isActive_of_canStop {t : Threads ι Device Instr} {o : Option ι}
    (h : Stopping t o) (hcan : t.shared.logger.state.canStop = true) :
    t.shared.flags.state.isActive = true := by
  rcases h.state with hstate | hstate
  · change t.shared.logger.state.canStart = true at hstate
    cases hs : t.shared.logger.state <;>
      simp_all [LoggerState.canStart, LoggerState.canStop]
  · exact hstate

variable {t : Threads ι Device Instr} {o : Option ι} {i : ι} {rest : List Instr}

/-- Of the steps of a teardown only that which stops the aggregator has an owner. -/
theorem teardown_evolves {s : Teardown} (h : Stopping t o)
    (hcode : t.code i = .teardown s :: rest) :
    ∃ o',
      (t.perform exec i (.teardown s) rest).Owner
          (Instr.teardownIs Teardown.stopsAggregator) o' ∧
        Evolves i (.teardown s) t.shared.flags
          (exec t.shared (.teardown s)).1.flags o o' := by
  cases s with
  | stopAggregator =>
    -- only the owner has this step to do, and it has it once
    obtain rfl := h.owner.eq_some hcode rfl
    refine ⟨none, h.owner.release hcode rfl rfl, ?_⟩
    exact .aggregatorStopped (by simp [exec, execTeardown]) (by simp [exec, execTeardown])
  | closeOutput e =>
    refine ⟨o, h.owner.perform hcode rfl ?_, .same o rfl rfl⟩
    simp only [exec, execTeardown]
    split <;> rfl
  | closeFile e =>
    refine ⟨o, h.owner.perform hcode rfl rfl, ?_⟩
    exact .same o (by simp [exec, execTeardown]) (by simp [exec, execTeardown])
  | closeTty => exact ⟨o, h.owner.perform hcode rfl rfl, .same o rfl rfl⟩
  | unregisterDisconnect => exact ⟨o, h.owner.perform hcode rfl rfl, .same o rfl rfl⟩
  | clearUsbMode => exact ⟨o, h.owner.perform hcode rfl rfl, .same o rfl rfl⟩
  | getStats => exact ⟨o, h.owner.perform hcode rfl rfl, .same o rfl rfl⟩

/-- A stop makes its thread the owner, when it goes through. -/
theorem stop_evolves {e : StopEnv} (h : Stopping t o)
    (hcode : t.code i = .critical (.stop e) :: rest) :
    ∃ o',
      (t.perform exec i (.critical (.stop e)) rest).Owner
          (Instr.teardownIs Teardown.stopsAggregator) o' ∧
        Evolves i (.critical (.stop e)) t.shared.flags
          (exec t.shared (.critical (.stop e))).1.flags o o' := by
  by_cases hcan : t.shared.logger.state.canStop = true
  -- a stop takes the lock in a session, so no other thread is stopping
  · have hactive := h.isActive_of_canStop hcan
    obtain rfl := h.none_of_isActive hactive
    have hone : (exec t.shared (.critical (.stop e))).2.1.countP
        (Instr.teardownIs Teardown.stopsAggregator) = 1 := by
      simp only [exec, execCritical, loggerStopLocked, hcan]
      rfl
    refine ⟨some i, h.owner.acquire hcode hone, .stopped e rfl hactive ?_ ?_⟩
    · simp [exec, execCritical, loggerStopLocked, hcan]
    · simp [exec, execCritical, loggerStopLocked, hcan]
  · have hzero : (exec t.shared (.critical (.stop e))).2.1.countP
        (Instr.teardownIs Teardown.stopsAggregator) = 0 := by
      simp [exec, execCritical, loggerStopLocked, hcan, Errno.einval]
    refine ⟨o, h.owner.perform hcode rfl hzero, .same o ?_ ?_⟩
    · simp [exec, execCritical, loggerStopLocked, hcan]
    · simp [exec, execCritical, loggerStopLocked, hcan]

/-- The other critical sections leave the owner. -/
theorem critical_evolves {c : Critical} (h : Stopping t o)
    (hcode : t.code i = .critical c :: rest) (hstop : ¬ ∃ e, c = .stop e) :
    ∃ o',
      (t.perform exec i (.critical c) rest).Owner
          (Instr.teardownIs Teardown.stopsAggregator) o' ∧
        Evolves i (.critical c) t.shared.flags
          (exec t.shared (.critical c)).1.flags o o' := by
  have howner : (t.perform exec i (.critical c) rest).Owner
      (Instr.teardownIs Teardown.stopsAggregator) o :=
    h.owner.perform hcode rfl
      (execCritical_countP t.shared _ c (fun e he => hstop ⟨e, he⟩))
  cases c with
  | start reason e caller =>
    rcases loggerStartLocked_cases t.shared e with
      ⟨-, -, hsame⟩ | ⟨-, -, callback, hflags⟩ | ⟨hcan, hrun, -, hflags⟩
    · exact ⟨o, howner, .same o (by simp [exec, execCritical, hsame])
        (by simp [exec, execCritical, hsame])⟩
    · exact ⟨o, howner, .same o (by simp [exec, execCritical, hflags])
        (by simp [exec, execCritical, hflags])⟩
    -- a start needs a stopped aggregator, so no thread is stopping one
    · obtain rfl := h.none_of_not_running hrun
      exact ⟨none, howner, .started hcan hrun (by simp [exec, execCritical, hflags])
        (by simp [exec, execCritical, hflags])⟩
  | startUsb e =>
    rcases loggerStartUsbLocked_cases t.shared e with
      ⟨-, hsame⟩ | ⟨-, -, callback, ttyOpen, hflags⟩ | ⟨hcan, hrun, -, hflags⟩
    · exact ⟨o, howner, .same o (by simp [exec, execCritical, hsame])
        (by simp [exec, execCritical, hsame])⟩
    · exact ⟨o, howner, .same o (by simp [exec, execCritical, hflags])
        (by simp [exec, execCritical, hflags])⟩
    · obtain rfl := h.none_of_not_running hrun
      exact ⟨none, howner, .started hcan hrun (by simp [exec, execCritical, hflags])
        (by simp [exec, execCritical, hflags])⟩
  | jumped now =>
    refine ⟨o, howner, ?_⟩
    by_cases hstate : t.shared.logger.state = .logging
    · exact .jumped o hstate (by simp [exec, execCritical, loggerJumpedLocked, hstate])
        (by simp [exec, execCritical, loggerJumpedLocked, hstate])
    · exact .same o (by simp [exec, execCritical, loggerJumpedLocked, hstate])
        (by simp [exec, execCritical, loggerJumpedLocked, hstate])
  | stop e => exact absurd ⟨e, rfl⟩ hstop
  | arm e =>
    exact ⟨o, howner, .armed o e rfl (by simp [exec, execCritical])
      (by simp [exec, execCritical])⟩
  | disarm groundSample =>
    refine ⟨o, howner, ?_⟩
    by_cases hstate : t.shared.logger.state = .armed
    · exact .disarmed o hstate (by simp [exec, execCritical, loggerDisarmLocked, hstate])
        (by simp [exec, execCritical, loggerDisarmLocked, hstate])
    · exact .same o (by simp [exec, execCritical, loggerDisarmLocked, hstate])
        (by simp [exec, execCritical, loggerDisarmLocked, hstate])

/-- What one step can do. -/
theorem exec_evolves {p : Instr} (h : Stopping t o) (hcode : t.code i = p :: rest) :
    ∃ o', (t.perform exec i p rest).Owner (Instr.teardownIs Teardown.stopsAggregator) o' ∧
      Evolves i p t.shared.flags (exec t.shared p).1.flags o o' := by
  cases p with
  | call c =>
    refine ⟨o, h.owner.perform hcode rfl (countP_map_call _ _), ?_⟩
    obtain ⟨hstate, -, hrun, -⟩ := Flags.core_eq (execCall_core t.shared c)
    exact .same o hstate hrun
  | caller c =>
    refine ⟨o, h.owner.perform hcode rfl (execCaller_countP _ _ c), ?_⟩
    exact .same o (by simp [exec, execCaller_flags]) (by simp [exec, execCaller_flags])
  | teardown s => exact teardown_evolves h hcode
  | critical c =>
    by_cases hstop : ∃ e, c = .stop e
    · obtain ⟨e, rfl⟩ := hstop
      exact stop_evolves h hcode
    · exact critical_evolves h hcode hstop

theorem Stopping.of_evolves {t' : Threads ι Device Instr} {p : Instr} {o' : Option ι}
    (h : Stopping t o)
    (howner : t'.Owner (Instr.teardownIs Teardown.stopsAggregator) o')
    (he : Evolves i p t.shared.flags t'.shared.flags o o') : Stopping t' o' := by
  cases he with
  | same _ state running =>
    exact ⟨by rw [state]; exact h.state, howner, by rw [state, running]; exact h.running,
      by rw [state, running]; exact h.owned⟩
  | started state idle logging running =>
    exact ⟨.inr (by rw [logging]; rfl), howner, fun _ => running, fun ho => by simp at ho⟩
  | jumped _ logging state running =>
    have hactive : t.shared.flags.state.isActive = true := by rw [logging]; rfl
    obtain rfl := h.none_of_isActive hactive
    exact ⟨.inr (by rw [state]; rfl), howner, fun _ => running.trans (h.running hactive),
      fun ho => by simp at ho⟩
  | stopped e step active state running =>
    exact ⟨.inl (by rw [state]; rfl), howner,
      fun hactive => by simp [state, LoggerState.isActive] at hactive,
      fun _ => ⟨running.trans (h.running active), by rw [state]; rfl⟩⟩
  | aggregatorStopped state running =>
    have hinactive := (h.owned rfl).2
    exact ⟨by rw [state]; exact h.state, howner,
      fun hactive => by simp [state, hinactive] at hactive, fun ho => by simp at ho⟩
  | armed _ e step state running =>
    exact ⟨.inl (by rw [state]; rfl), howner,
      fun hactive => by simp [state, LoggerState.isActive] at hactive,
      fun ho => ⟨running.trans (h.owned ho).1, by rw [state]; rfl⟩⟩
  | disarmed _ armed state running =>
    exact ⟨.inl (by rw [state]; rfl), howner,
      fun hactive => by simp [state, LoggerState.isActive] at hactive,
      fun ho => ⟨running.trans (h.owned ho).1, by rw [state]; rfl⟩⟩

theorem Stopping.perform {p : Instr} (h : Stopping t o) (hcode : t.code i = p :: rest) :
    ∃ o', Stopping (t.perform exec i p rest) o' := by
  obtain ⟨o', howner, he⟩ := exec_evolves h hcode
  exact ⟨o', h.of_evolves howner he⟩

end Stopping

/-! ## When a session is left only by a stop -/

section Arming

variable {ι : Type*} [DecidableEq ι]

/-- Besides: what runs without a session is about to be stopped, from IDLE. -/
structure TornDown (t : Threads ι Device Instr) (o : Option ι) : Prop extends Stopping t o where
  idle : o.isSome = true → t.shared.flags.state = .idle
  owed : t.shared.flags.running = true → t.shared.flags.state.isActive = true ∨ o.isSome = true

/-- From LOGGING or JUMPED the state goes on to a state without a session only under
the lock of a `logger_stop`, whose thread then tears the session down. An armed
logger does not have the aggregator running, and an aggregator that runs without a
session is about to be stopped. -/
structure LeftByStop (t : Threads ι Device Instr) (a : Action ι Handler)
    (t' : Threads ι Device Instr) : Prop where
  left : t.shared.flags.state.isActive = true → t'.shared.flags.state.isActive = false →
    ∃ i e rest, a = .advance i ∧ t.code i = .critical (.stop e) :: rest ∧
      t'.code i = afterStop e t.shared.flags.state ++ rest
  armed : t'.shared.flags.state = .armed → t'.shared.flags.running = false
  owed : t'.shared.flags.running = true →
    t'.shared.flags.state.isActive = true ∨ ∃ i, .teardown .stopAggregator ∈ t'.code i

/-- `logger_arm` takes the lock only while the aggregator does not run. -/
def ArmsStopped (t : Threads ι Device Instr) : Instr → Prop
  | .critical (.arm _) => t.shared.flags.running = false
  | _ => True

instance (t : Threads ι Device Instr) (p : Instr) : Decidable (ArmsStopped t p) :=
  match p with
  | .critical (.arm _) => inferInstanceAs (Decidable (t.shared.flags.running = false))
  | .critical (.start ..) | .critical (.startUsb _) | .critical (.jumped _) | .critical (.stop _)
  | .critical (.disarm _) | .teardown _ | .call _ | .caller _ => .isTrue trivial

variable {t : Threads ι Device Instr} {o : Option ι} {i : ι} {rest : List Instr}

theorem TornDown.of_evolves {t' : Threads ι Device Instr} {p : Instr} {o' : Option ι}
    (h : TornDown t o) (hp : ArmsStopped t p)
    (howner : t'.Owner (Instr.teardownIs Teardown.stopsAggregator) o')
    (he : Evolves i p t.shared.flags t'.shared.flags o o') : TornDown t' o' := by
  have hstopping := h.toStopping.of_evolves howner he
  cases he with
  | same _ state running =>
    exact ⟨hstopping, by rw [state]; exact h.idle, by rw [state, running]; exact h.owed⟩
  | started state idle logging running =>
    exact ⟨hstopping, fun ho => by simp at ho, fun _ => .inl (by rw [logging]; rfl)⟩
  | jumped _ logging state running =>
    have hactive : t.shared.flags.state.isActive = true := by rw [logging]; rfl
    obtain rfl := h.none_of_isActive hactive
    exact ⟨hstopping, fun ho => by simp at ho, fun _ => .inl (by rw [state]; rfl)⟩
  | stopped e step active state running =>
    exact ⟨hstopping, fun _ => state, fun _ => .inr rfl⟩
  | aggregatorStopped state running =>
    exact ⟨hstopping, fun ho => by simp at ho, fun hrun => by simp [running] at hrun⟩
  | armed _ e step state running =>
    subst step
    -- the guard is used here only: nothing runs, so nothing is owed
    have hstill : t.shared.flags.running = false := hp
    obtain rfl := h.none_of_not_running hstill
    exact ⟨hstopping, fun ho => by simp at ho, fun hrun => by simp [running, hstill] at hrun⟩
  | disarmed _ armed state running =>
    -- while a thread is stopping, the state is IDLE and not ARMED
    have hnone : ¬ o.isSome = true := fun ho => by simp [h.idle ho] at armed
    refine ⟨hstopping, fun _ => state, fun hrun => ?_⟩
    rcases h.owed (running ▸ hrun) with hactive | ho
    · simp [armed, LoggerState.isActive] at hactive
    · exact absurd ho hnone

/-- In the invariant, a transition that leaves no session otherwise is as it should. -/
theorem TornDown.leftByStop {t' : Threads ι Device Instr} {a : Action ι Handler}
    (h' : TornDown t' o)
    (hleft : t.shared.flags.state.isActive = true → t'.shared.flags.state.isActive = false →
      ∃ i e rest, a = .advance i ∧ t.code i = .critical (.stop e) :: rest ∧
        t'.code i = afterStop e t.shared.flags.state ++ rest) : LeftByStop t a t' := by
  refine ⟨hleft, fun harmed => ?_, fun hrun => ?_⟩
  · by_contra hrun
    rcases h'.owed (by simpa using hrun) with hactive | ho
    · simp [harmed, LoggerState.isActive] at hactive
    · simp [h'.idle ho] at harmed
  · rcases h'.owed hrun with hactive | ho
    · exact .inl hactive
    · obtain ⟨i, rfl⟩ := Option.isSome_iff_exists.mp ho
      obtain ⟨p, hmem, hp⟩ := h'.owner.exists_mem
      refine .inr ⟨i, ?_⟩
      cases p with
      | teardown s =>
        cases s with
        | stopAggregator => exact hmem
        | _ => simp [Instr.teardownIs, Teardown.stopsAggregator] at hp
      | _ => simp [Instr.teardownIs] at hp

/-- A permitted step keeps the invariant, and leaves a session only by a stop. -/
theorem TornDown.perform {p : Instr} (h : TornDown t o) (hcode : t.code i = p :: rest)
    (hp : ArmsStopped t p) :
    (∃ o', TornDown (t.perform exec i p rest) o') ∧
      LeftByStop t (.advance i) (t.perform exec i p rest) := by
  obtain ⟨o', howner, he⟩ := exec_evolves h.toStopping hcode
  have hnext : TornDown (t.perform exec i p rest) o' := h.of_evolves hp howner he
  refine ⟨⟨o', hnext⟩, hnext.leftByStop fun hactive hinactive => ?_⟩
  rw [Threads.perform_shared] at hinactive
  cases he with
  | same _ state _ => simp [state, hactive] at hinactive
  | started _ _ logging _ => simp [logging, LoggerState.isActive] at hinactive
  | jumped _ _ state _ => simp [state, LoggerState.isActive] at hinactive
  | stopped e step active state running =>
    subst step
    refine ⟨i, e, rest, rfl, hcode, ?_⟩
    -- the stop succeeds, and its teardown is what the thread does next
    have hcan : t.shared.logger.state.canStop = true := canStop_of_isActive hactive
    rw [Threads.perform_code_self]
    simp [exec, execCritical, loggerStopLocked, hcan, Device.flags]
  | aggregatorStopped state _ => simp [state, hactive] at hinactive
  | armed _ e step _ _ =>
    subst step
    have hstill : t.shared.flags.running = false := hp
    simp [h.running hactive] at hstill
  | disarmed _ armed _ _ => simp [armed, LoggerState.isActive] at hactive

/-- The beginning of a call puts no teardown steps. -/
theorem Handler.entry_countP (q : Teardown → Bool) (c : Handler) :
    c.entry.countP (Instr.teardownIs q) = 0 := by
  cases c <;> rfl

theorem TornDown.setCode (h : TornDown t o) (hidle : t.code i = []) (c : Handler) :
    TornDown (t.setCode i c.entry) o :=
  ⟨⟨h.state, h.owner.setCode hidle (c.entry_countP _), h.running, h.owned⟩, h.idle, h.owed⟩

variable (config : LoggerConfig) (usbEnabled : Bool) (version : AppVersion)
  (first second : Option ℚ) (arm : ArmEnv)

theorem tornDown_atBoot :
    TornDown (ι := ι) (atBoot config usbEnabled version first second arm) none := by
  have hflags := atBoot_flags (ι := ι) config usbEnabled version first second arm
  refine ⟨⟨?_, Owner.none_of_idle fun _ => rfl, ?_, fun ho => ?_⟩, fun ho => ?_, fun hrun => ?_⟩
  · rw [hflags]
    exact .inl rfl
  · rw [hflags]
    exact fun h => h
  · simp at ho
  · simp at ho
  · rw [hflags] at hrun
    exact absurd hrun (by simp [Device.flags, Device.initial, Aggregator.initial])

/-- Sessions are left only by a stop only if `logger_arm` finds the aggregator
stopped. -/
theorem armsStopped_of_leftByStop {t : Threads ι Device Instr} {as : List (Action ι Handler)}
    (h : Machine.Along (Threads.step Handler.entry exec) LeftByStop t as) :
    Machine.Guarded (Threads.step Handler.entry exec) (Threads.Permits ArmsStopped) t as := by
  apply Machine.Along.mono _ h
  intro t a hleft
  cases a with
  | call i c => trivial
  | advance i =>
    intro p hp
    cases p with
    | critical c =>
      cases c with
      | arm e =>
        obtain ⟨rest, hcode⟩ : ∃ rest, t.code i = .critical (.arm e) :: rest := by
          cases hc : t.code i with
          | nil => simp [hc] at hp
          | cons q rest => exact ⟨rest, by simpa [hc] using hp⟩
        have hstep : (Threads.step Handler.entry exec t (.advance i)).1 =
            t.perform exec i (.critical (.arm e)) rest := by
          simp only [Threads.step, hcode]
        have harmed := hleft.armed (by simp [hstep, exec, execCritical])
        rw [hstep, Threads.perform_shared] at harmed
        change t.shared.flags.running = false
        simpa [exec, execCritical] using harmed
      | _ => trivial
    | _ => trivial

/-- In every interleaving, sessions are left only by a stop, and an armed logger
never has the aggregator running, if and only if `logger_arm` always takes the lock
while the aggregator does not run. -/
theorem leftByStop_iff (as : List (Action ι Handler)) :
    Machine.Along (Threads.step Handler.entry exec) LeftByStop
        (atBoot config usbEnabled version first second arm) as ↔
      Machine.Guarded (Threads.step Handler.entry exec) (Threads.Permits ArmsStopped)
        (atBoot config usbEnabled version first second arm) as := by
  constructor
  · exact armsStopped_of_leftByStop
  · intro h
    refine Threads.guarded_along (I := fun t => ∃ o, TornDown t o) ?_ ?_ ?_
      ⟨none, tornDown_atBoot config usbEnabled version first second arm⟩ h
    · intro t a ⟨o, ht⟩ _
      exact ht.leftByStop fun hactive hinactive => by simp [hactive] at hinactive
    · intro t i c ⟨o, ht⟩ hidle
      have hnext := ht.setCode hidle c
      refine ⟨⟨o, hnext⟩, hnext.leftByStop fun hactive hinactive => ?_⟩
      simp [hactive] at hinactive
    · intro t i p rest ⟨o, ht⟩ hcode hp
      exact ht.perform hcode hp

end Arming

open Threads.Action in
/-- The BLE thread (`false`) disarms, reads IDLE for an arm request, and takes the
lock only after the button thread (`true`) has begun a USB session: the session is
armed over. -/
def armOverSession : List (Action Bool Handler) :=
  let e : ControlEnv := ⟨.working, .working, .working, none⟩
  [call false (.control .disarm e), advance false, advance false, advance false, advance false,
    call false (.control .arm e), advance false,
    call true (.button1 .working .working), advance true, advance true, advance false]

theorem not_leftByStop_armOverSession :
    ¬ Machine.Along (Threads.step Handler.entry exec) LeftByStop
      (atBoot (loggerCfg false) true ⟨[], [], [], 0⟩ none none .working) armOverSession := by
  intro h
  exact absurd (armsStopped_of_leftByStop h) (by decide +kernel)

end TempoBt
