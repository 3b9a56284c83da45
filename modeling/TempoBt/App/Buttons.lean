-- SUMMARY: The two buttons: interrupts, the delayed check for a long press, and which presses are handed on, whatever the order in which they run.
import TempoBt.Lib.Machine
import TempoBt.Services.Device

/-!
# Buttons

An edge of the pin raises an interrupt, whose handler reads the pin when it gets to run. A
press is long if the delayed work that its handler schedules still finds the pin pressed.
-/

namespace TempoBt

/-! ## The handlers -/

/-- `BUTTON_DEBOUNCE_DELAY_MS` -/
def buttonDebounceDelayMs : Nat := 50
/-- `BUTTON_LONG_PRESS_MS` -/
def buttonLongPressMs : Nat := 2000

/-- What is submitted to `button_workq`. -/
inductive ButtonEvent where
  /-- `button0_action_work` or `button1_action_work` -/
  | long
  /-- `button1_short_press_work` -/
  | short
  deriving DecidableEq

/-- What a handler finds: the state of the logger, and `mag_cal_streaming`. -/
structure ButtonEnv where
  state : LoggerState
  streaming : Bool
  deriving DecidableEq

/-- Which presses a button hands on. -/
structure Button where
  long : ButtonEnv → Bool
  short : ButtonEnv → Bool

/-- Button 0 starts the logger when it is armed. -/
def button0 : Button where
  long := fun e => e.state == .armed
  short := fun _ => false

/-- Button 1 hands on every long press; a short press turns the streaming of the
magnetometer on or off. -/
def button1 : Button where
  long := fun _ => true
  short := fun e => e.streaming || e.state.canStart

/-- The pin, the static data of a button and its delayed work. -/
structure ButtonState where
  /-- The level of the pin, and the time of its last edge. -/
  pressed : Bool
  since : Nat
  /-- How often the pin has become pressed. -/
  presses : Nat
  /-- An edge whose interrupt has not been served. -/
  irq : Bool
  /-- `k_uptime_get` -/
  now : Nat
  /-- `button0_press_time`, `button1_press_time` -/
  pressTime : Nat
  /-- When `button0_work` or `button1_work` is due. -/
  delayed : Option Nat
  /-- The work is in the system work queue. -/
  queued : Bool
  deriving DecidableEq

inductive ButtonAction where
  /-- The pin changes. -/
  | edge
  | isr (e : ButtonEnv)
  /-- A millisecond passes. -/
  | tick
  /-- The system work queue gets to the work, if it is there. -/
  | work (e : ButtonEnv)
  deriving DecidableEq

/-- `k_work_reschedule`: what is in the queue stays there. -/
def ButtonState.reschedule (delayMs : Nat) (s : ButtonState) : ButtonState :=
  { s with delayed := some (s.now + delayMs) }

/-- `k_work_cancel_delayable` -/
def ButtonState.cancelDelayable (s : ButtonState) : ButtonState :=
  { s with delayed := none, queued := false }

namespace Button

variable (b : Button)

/-- `button0_isr` and `button1_isr` -/
def isr (e : ButtonEnv) (s : ButtonState) : ButtonState × List ButtonEvent :=
  let s := { s with irq := false }
  if s.pressed then ({ s with pressTime := s.now }.reschedule buttonLongPressMs, [])
  else
    let s := s.cancelDelayable
    let pressDuration := s.now - s.pressTime
    (s, if pressDuration < buttonLongPressMs ∧ buttonDebounceDelayMs < pressDuration ∧
        b.short e = true then [.short] else [])

/-- `button0_work_handler` and `button1_work_handler`. An interrupt that comes after the pin
has been read does what it does before the handler or after it. -/
def workHandler (e : ButtonEnv) (s : ButtonState) : List ButtonEvent :=
  if s.pressed = true ∧ buttonLongPressMs ≤ s.now - s.pressTime ∧ b.long e = true then [.long]
  else []

/-- The work moves to its queue when it is due. -/
def tick (s : ButtonState) : ButtonState :=
  let s := { s with now := s.now + 1 }
  if s.delayed = some s.now then { s with delayed := none, queued := true } else s

/-- An interrupt is served before any thread runs on. -/
def step (s : ButtonState) : ButtonAction → ButtonState × List ButtonEvent
  | .edge =>
    ({ s with
      pressed := !s.pressed
      since := s.now
      presses := if s.pressed then s.presses else s.presses + 1
      irq := true }, [])
  | .isr e => if s.irq then b.isr e s else (s, [])
  | .tick => (tick s, [])
  | .work e =>
    if s.queued && !s.irq then ({ s with queued := false }, b.workHandler e s) else (s, [])

end Button

/-- After `buttons_init`. A button that is held then counts as one press. -/
def ButtonState.boot (pressed : Bool) (now : Nat) : ButtonState where
  pressed
  since := now
  presses := if pressed then 1 else 0
  irq := false
  now
  pressTime := 0
  delayed := none
  queued := false

/-! ## Long presses -/

namespace ButtonState

/-- How much of a long press is still to come: the work that is due or in its queue, and a
press whose interrupt has not been served. -/
def owed (s : ButtonState) : Nat :=
  s.delayed.toList.length + s.queued.toNat + (s.irq && s.pressed).toNat

/-- What the delayed work says of the pin. -/
structure Sound (s : ButtonState) : Prop where
  /-- The work is due so long after the last press that was seen. -/
  due : ∀ t ∈ s.delayed, t = s.pressTime + buttonLongPressMs ∧ s.now < t
  /-- While the work waits, the pin has been pressed since the last press that was seen. -/
  held : s.delayed.isSome = true ∨ s.queued = true → s.irq = false →
    s.pressed = true ∧ s.since ≤ s.pressTime
  since_le : s.since ≤ s.now

theorem sound_boot (pressed : Bool) (now : Nat) : (boot pressed now).Sound where
  due := nofun
  held := nofun
  since_le := Nat.le_refl now

end ButtonState

section Runs

variable (b : Button)

theorem Button.isr_pressed (e : ButtonEnv) {s : ButtonState} (h : s.pressed = true) :
    b.isr e s =
      ({ s with irq := false, pressTime := s.now, delayed := some (s.now + buttonLongPressMs) },
        []) := by
  rw [isr]
  simp only [h, if_true]
  rfl

theorem Button.isr_released (e : ButtonEnv) {s : ButtonState} (h : s.pressed = false) :
    (b.isr e s).1 = { s with irq := false, delayed := none, queued := false } := by
  rw [isr]
  simp only [h, Bool.false_eq_true, if_false]
  rfl

theorem ButtonState.Sound.tick {s : ButtonState} (h : s.Sound) : (Button.tick s).Sound := by
  obtain ⟨hdue, hheld, hsince⟩ := h
  unfold Button.tick
  simp only
  split
  · rename_i hnow
    exact ⟨nofun, fun _ => hheld (.inl (by rw [hnow]; rfl)), Nat.le_succ_of_le hsince⟩
  · rename_i hnow
    refine ⟨?_, hheld, Nat.le_succ_of_le hsince⟩
    intro t ht
    obtain ⟨heq, hlt⟩ := hdue t ht
    refine ⟨heq, Nat.lt_of_le_of_ne hlt ?_⟩
    rintro rfl
    exact hnow ht

theorem ButtonState.Sound.step {s : ButtonState} (h : s.Sound) (a : ButtonAction) :
    (b.step s a).1.Sound := by
  obtain ⟨hdue, hheld, hsince⟩ := h
  cases a with
  | edge => exact ⟨hdue, fun _ hirq => absurd hirq Bool.noConfusion, Nat.le_refl _⟩
  | isr e =>
    rw [Button.step]
    split
    · cases hpressed : s.pressed with
      | true =>
        rw [b.isr_pressed e hpressed]
        refine ⟨?_, fun _ _ => ⟨hpressed, hsince⟩, hsince⟩
        rintro t ⟨rfl⟩
        exact ⟨rfl, Nat.lt_add_of_pos_right (by decide)⟩
      | false =>
        rw [b.isr_released e hpressed]
        exact ⟨nofun, nofun, hsince⟩
    · exact ⟨hdue, hheld, hsince⟩
  | tick => exact ButtonState.Sound.tick ⟨hdue, hheld, hsince⟩
  | work e =>
    rw [Button.step]
    split
    · exact ⟨hdue, fun hwaits => hheld (.inl (hwaits.resolve_right Bool.false_ne_true)), hsince⟩
    · exact ⟨hdue, hheld, hsince⟩

/-- What a long press is: the pin is pressed, and has been for so long. -/
def ButtonState.Held (s : ButtonState) : Prop :=
  s.pressed = true ∧ s.since + buttonLongPressMs ≤ s.now

theorem ButtonState.Sound.long_held {s : ButtonState} (h : s.Sound) {a : ButtonAction}
    (hlong : .long ∈ (b.step s a).2) : s.Held := by
  cases a with
  | edge => exact absurd hlong List.not_mem_nil
  | isr e =>
    rw [Button.step] at hlong
    split at hlong
    · unfold Button.isr at hlong
      simp only at hlong
      split at hlong
      · exact absurd hlong List.not_mem_nil
      · simp only at hlong
        split at hlong
        · simp at hlong
        · exact absurd hlong List.not_mem_nil
    · exact absurd hlong List.not_mem_nil
  | tick => exact absurd hlong List.not_mem_nil
  | work e =>
    rw [Button.step] at hlong
    split at hlong
    · rename_i hqueued
      simp only [Bool.and_eq_true, Bool.not_eq_true'] at hqueued
      obtain ⟨hpressed, hsince⟩ := h.held (.inr hqueued.1) hqueued.2
      simp only [Button.workHandler] at hlong
      split at hlong
      · rename_i hpress
        refine ⟨hpressed, ?_⟩
        have hlength : buttonLongPressMs ≤ s.now - s.pressTime := hpress.2.1
        unfold buttonLongPressMs at hlength ⊢
        omega
      · exact absurd hlong List.not_mem_nil
    · exact absurd hlong List.not_mem_nil

theorem Button.isr_count_long (e : ButtonEnv) (s : ButtonState) :
    (b.isr e s).2.count .long = 0 := by
  unfold isr
  simp only
  split
  · rfl
  · simp only
    split <;> rfl

/-- Every long press that is handed on uses up one time that the pin became pressed. -/
theorem ButtonState.owed_step (s : ButtonState) (a : ButtonAction) :
    (b.step s a).2.count .long + (b.step s a).1.owed + s.presses ≤
      s.owed + (b.step s a).1.presses := by
  cases a with
  | edge =>
    simp only [Button.step, owed, List.count_nil, Bool.true_and]
    cases s.pressed with
    | true => simp
    | false => simp; omega
  | isr e =>
    rw [Button.step]
    split
    · rename_i hirq
      rw [b.isr_count_long]
      cases hpressed : s.pressed with
      | true =>
        rw [b.isr_pressed e hpressed]
        simp only [owed, hirq, hpressed, Option.toList_some, List.length_singleton, Bool.false_and,
          Bool.true_and, Bool.toNat_true, Bool.toNat_false]
        omega
      | false =>
        rw [b.isr_released e hpressed]
        simp [owed]
    · simp
  | tick =>
    simp only [Button.step, Button.tick, owed, List.count_nil]
    split
    · rename_i hdue
      simp [hdue]
    · simp
  | work e =>
    rw [Button.step]
    split
    · rename_i hqueued
      simp only [Bool.and_eq_true, Bool.not_eq_true'] at hqueued
      have hcount : (b.workHandler e s).count .long ≤ 1 := by
        unfold Button.workHandler
        split <;> simp
      simp only [owed, hqueued.1, Bool.toNat_true, Bool.toNat_false]
      omega
    · simp

theorem ButtonState.owed_run (s : ButtonState) (actions : List ButtonAction) :
    (Machine.run b.step s actions).2.flatten.count .long +
        (Machine.run b.step s actions).1.owed + s.presses ≤
      s.owed + (Machine.run b.step s actions).1.presses := by
  induction actions generalizing s with
  | nil => simp
  | cons a actions ih =>
    have hfirst := s.owed_step b a
    have hrest := ih (b.step s a).1
    rw [Machine.run_cons, List.flatten_cons, List.count_append]
    dsimp only
    omega

/-- **A long press is a press that lasts**: whatever edges, interrupts and delays there are,
what is handed on as a long press finds the pin pressed for two seconds without an edge,
and there are never more long presses than times that the pin has become pressed. -/
theorem longPress_held (pressed : Bool) (now : Nat) (actions : List ButtonAction) :
    Machine.Along b.step (fun s a _ => .long ∈ (b.step s a).2 → s.Held) (.boot pressed now)
        actions ∧
      (Machine.run b.step (.boot pressed now) actions).2.flatten.count .long ≤
        (Machine.run b.step (.boot pressed now) actions).1.presses := by
  constructor
  · exact Machine.Guarded.along (fun s a hs _ => hs.step b a) (fun s a hs _ => hs.long_held b)
      (ButtonState.sound_boot pressed now) (Machine.Guarded.of_forall (fun _ _ _ => trivial) _)
  · have howed : (ButtonState.boot pressed now).owed = 0 := by
      simp [ButtonState.boot, ButtonState.owed]
    have hrun := (ButtonState.boot pressed now).owed_run b actions
    omega

end Runs

/-! ## Clean presses -/

/-- What the work finds that runs first when so many milliseconds have passed. -/
def firstWork : Nat → List ButtonAction → Option ButtonEnv
  | _, [] => none
  | 0, .work e :: _ => some e
  | n + 1, .tick :: as => firstWork n as
  | n, _ :: as => firstWork n as

/-- A press without a bounce: how long the button is left alone and then held, and what the
interrupts find, which are served at once. -/
structure CleanPress where
  idle : List ButtonAction
  pressEnv : ButtonEnv
  hold : List ButtonAction
  releaseEnv : ButtonEnv
  idle_noEdge : .edge ∉ idle
  hold_noEdge : .edge ∉ hold

namespace CleanPress

variable (p : CleanPress)

def actions : List ButtonAction :=
  p.idle ++ .edge :: .isr p.pressEnv :: (p.hold ++ [.edge, .isr p.releaseEnv])

/-- How long the button is held. -/
def ms : Nat := p.hold.count .tick

/-- What the press is to do: a long one is handed on while the button is held, a short one
when it is released. -/
def events (b : Button) : List ButtonEvent :=
  ((firstWork buttonLongPressMs p.hold).toList.filter b.long).map (fun _ => .long) ++
    if buttonDebounceDelayMs < p.ms ∧ p.ms < buttonLongPressMs ∧ b.short p.releaseEnv = true then
      [.short]
    else []

end CleanPress

namespace ButtonState

structure AtRest (s : ButtonState) : Prop where
  pressed : s.pressed = false
  irq : s.irq = false
  delayed : s.delayed = none
  queued : s.queued = false

/-- The button has been held for `n` milliseconds. -/
structure Holding (s : ButtonState) (n : Nat) : Prop where
  pressed : s.pressed = true
  irq : s.irq = false
  now : s.now = s.pressTime + n

/-- How many more milliseconds the work waits; it is in its queue; it has run. -/
inductive WorkPhase (s : ButtonState) (n : Nat) : Option Nat → Prop where
  | waiting (r : Nat) (hdelayed : s.delayed = some (s.pressTime + buttonLongPressMs))
      (hqueued : s.queued = false) (hn : n + (r + 1) = buttonLongPressMs) :
      WorkPhase s n (some (r + 1))
  | due (hdelayed : s.delayed = none) (hqueued : s.queued = true) (hn : buttonLongPressMs ≤ n) :
      WorkPhase s n (some 0)
  | done (hdelayed : s.delayed = none) (hqueued : s.queued = false) : WorkPhase s n none

end ButtonState

/-- What a hold hands on when the work waits for so long. -/
def holdEvents (b : Button) : Option Nat → List ButtonAction → List ButtonEvent
  | none, _ => []
  | some r, hold => ((firstWork r hold).toList.filter b.long).map fun _ => .long

section CleanRuns

variable (b : Button)

theorem ButtonState.AtRest.step {s : ButtonState} (h : s.AtRest) {a : ButtonAction}
    (ha : a ≠ .edge) : (b.step s a).1.AtRest ∧ (b.step s a).2 = [] := by
  obtain ⟨hpressed, hirq, hdelayed, hqueued⟩ := h
  cases a with
  | edge => exact absurd rfl ha
  | isr e =>
    rw [Button.step, hirq]
    exact ⟨⟨hpressed, hirq, hdelayed, hqueued⟩, rfl⟩
  | tick =>
    have hwaits : s.delayed ≠ some (s.now + 1) := by simp [hdelayed]
    rw [Button.step, Button.tick]
    simp only [hwaits, if_false]
    exact ⟨⟨hpressed, hirq, hdelayed, hqueued⟩, trivial⟩
  | work e =>
    rw [Button.step, hqueued]
    exact ⟨⟨hpressed, hirq, hdelayed, hqueued⟩, rfl⟩

theorem ButtonState.AtRest.run {s : ButtonState} (h : s.AtRest) {idle : List ButtonAction}
    (hidle : .edge ∉ idle) :
    (Machine.run b.step s idle).1.AtRest ∧ (Machine.run b.step s idle).2.flatten = [] := by
  induction idle generalizing s with
  | nil => exact ⟨h, rfl⟩
  | cons a idle ih =>
    rw [List.mem_cons, not_or] at hidle
    obtain ⟨hrest, hnone⟩ := h.step b (Ne.symm hidle.1)
    obtain ⟨hrest', hnone'⟩ := ih hrest hidle.2
    rw [Machine.run_cons, List.flatten_cons, hnone, hnone']
    exact ⟨hrest', rfl⟩

theorem holdEvents_isr (e : ButtonEnv) (r : Option Nat) (hold : List ButtonAction) :
    holdEvents b r (.isr e :: hold) = holdEvents b r hold := by
  rcases r with - | - | r <;> rfl

theorem ButtonState.Holding.tick {s : ButtonState} {n : Nat} (h : s.Holding n) {r : Option Nat}
    (hphase : s.WorkPhase n r) :
    (Button.tick s).Holding (n + 1) ∧
      ∃ r', (Button.tick s).WorkPhase (n + 1) r' ∧
        ∀ hold, holdEvents b r (.tick :: hold) = holdEvents b r' hold := by
  obtain ⟨hpressed, hirq, hnow⟩ := h
  have hnow' : s.now + 1 = s.pressTime + (n + 1) := by omega
  cases hphase with
  | waiting r hdelayed hqueued hn =>
    unfold Button.tick
    simp only [hdelayed, Option.some.injEq]
    cases r with
    | zero =>
      rw [if_pos (by omega)]
      exact ⟨⟨hpressed, hirq, hnow'⟩, some 0, .due rfl rfl (by omega), fun _ => rfl⟩
    | succ r =>
      rw [if_neg (by omega)]
      exact ⟨⟨hpressed, hirq, hnow'⟩, some (r + 1), .waiting r rfl hqueued (by omega),
        fun _ => rfl⟩
  | due hdelayed hqueued hn =>
    have hwaits : s.delayed ≠ some (s.now + 1) := by simp [hdelayed]
    unfold Button.tick
    simp only [hwaits, if_false]
    exact ⟨⟨hpressed, hirq, hnow'⟩, some 0, .due hdelayed hqueued (Nat.le_succ_of_le hn),
      fun _ => rfl⟩
  | done hdelayed hqueued =>
    have hwaits : s.delayed ≠ some (s.now + 1) := by simp [hdelayed]
    unfold Button.tick
    simp only [hwaits, if_false]
    exact ⟨⟨hpressed, hirq, hnow'⟩, none, .done hdelayed hqueued, fun _ => rfl⟩

theorem ButtonState.Holding.work {s : ButtonState} {n : Nat} (h : s.Holding n) {r : Option Nat}
    (hphase : s.WorkPhase n r) (e : ButtonEnv) :
    (b.step s (.work e)).1.Holding n ∧
      ∃ r', (b.step s (.work e)).1.WorkPhase n r' ∧
        ∀ hold, holdEvents b r (.work e :: hold) =
          (b.step s (.work e)).2 ++ holdEvents b r' hold := by
  obtain ⟨hpressed, hirq, hnow⟩ := h
  cases hphase with
  | waiting r hdelayed hqueued hn =>
    rw [Button.step, hqueued]
    exact ⟨⟨hpressed, hirq, hnow⟩, some (r + 1), .waiting r hdelayed hqueued hn, fun _ => rfl⟩
  | due hdelayed hqueued hn =>
    have hlength : buttonLongPressMs ≤ s.now - s.pressTime := by omega
    rw [Button.step, hqueued, hirq, if_pos (by decide)]
    refine ⟨⟨hpressed, rfl, hnow⟩, none, .done hdelayed rfl, fun hold => ?_⟩
    simp only [holdEvents, firstWork, Option.toList_some, Button.workHandler, hpressed, hlength,
      true_and, List.append_nil]
    cases hlong : b.long e with
    | true => simp [hlong]
    | false => simp [hlong]
  | done hdelayed hqueued =>
    rw [Button.step, hqueued]
    exact ⟨⟨hpressed, hirq, hnow⟩, none, .done hdelayed hqueued, fun _ => rfl⟩

/-- While the button is held, the work runs once when it is due. -/
theorem ButtonState.Holding.run {s : ButtonState} {n : Nat} (h : s.Holding n) {r : Option Nat}
    (hphase : s.WorkPhase n r) {hold : List ButtonAction} (hhold : .edge ∉ hold) :
    (Machine.run b.step s hold).1.Holding (n + hold.count .tick) ∧
      (Machine.run b.step s hold).2.flatten = holdEvents b r hold := by
  induction hold generalizing s n r with
  | nil =>
    refine ⟨h, ?_⟩
    cases r <;> rfl
  | cons a hold ih =>
    rw [List.mem_cons, not_or] at hhold
    rw [Machine.run_cons, List.flatten_cons]
    cases a with
    | edge => exact absurd rfl hhold.1
    | isr e =>
      have hstep : b.step s (.isr e) = (s, []) := by rw [Button.step, h.irq]; rfl
      obtain ⟨hend, hevents⟩ := ih h hphase hhold.2
      rw [hstep, hevents, holdEvents_isr, List.count_cons_of_ne (by simp)]
      exact ⟨hend, rfl⟩
    | tick =>
      obtain ⟨hnext, r', hphase', hsame⟩ := h.tick b hphase
      obtain ⟨hend, hevents⟩ := ih hnext hphase' hhold.2
      rw [List.count_cons_self, hsame, ← hevents, ← Nat.add_assoc, Nat.add_right_comm]
      exact ⟨hend, rfl⟩
    | work e =>
      obtain ⟨hnext, r', hphase', hsame⟩ := h.work b hphase e
      obtain ⟨hend, hevents⟩ := ih hnext hphase' hhold.2
      rw [List.count_cons_of_ne (by simp), hsame, ← hevents]
      exact ⟨hend, rfl⟩

/-- The release after a hold. -/
theorem ButtonState.Holding.release {s : ButtonState} {n : Nat} (h : s.Holding n)
    (e : ButtonEnv) :
    (Machine.run b.step s [.edge, .isr e]).1.AtRest ∧
      (Machine.run b.step s [.edge, .isr e]).2.flatten =
        if buttonDebounceDelayMs < n ∧ n < buttonLongPressMs ∧ b.short e = true then [.short]
        else [] := by
  obtain ⟨hpressed, hirq, hnow⟩ := h
  have hlength : s.now - s.pressTime = n := by omega
  rw [Machine.run_cons, Machine.run_cons]
  simp only [Button.step, hpressed, Bool.not_true, if_true, Machine.run_nil, Button.isr,
    Bool.false_eq_true, if_false, ButtonState.cancelDelayable, hlength]
  refine ⟨⟨rfl, rfl, rfl, rfl⟩, ?_⟩
  rw [List.flatten_cons, List.nil_append, List.flatten_singleton]
  exact if_congr (by tauto) rfl rfl

/-- The press before a hold. -/
theorem ButtonState.AtRest.press {s : ButtonState} (h : s.AtRest) (e : ButtonEnv) :
    (Machine.run b.step s [.edge, .isr e]).1.Holding 0 ∧
      (Machine.run b.step s [.edge, .isr e]).1.WorkPhase 0 (some buttonLongPressMs) ∧
      (Machine.run b.step s [.edge, .isr e]).2.flatten = [] := by
  obtain ⟨hpressed, hirq, hdelayed, hqueued⟩ := h
  rw [Machine.run_cons, Machine.run_cons]
  simp only [Button.step, hpressed, Bool.not_false, if_true, Machine.run_nil]
  rw [b.isr_pressed e rfl]
  exact ⟨⟨rfl, rfl, rfl⟩, .waiting 1999 rfl hqueued rfl, rfl⟩

theorem CleanPress.run (p : CleanPress) {s : ButtonState} (h : s.AtRest) :
    (Machine.run b.step s p.actions).1.AtRest ∧
      (Machine.run b.step s p.actions).2.flatten = p.events b := by
  have hparts : p.actions =
      p.idle ++ ([.edge, .isr p.pressEnv] ++ (p.hold ++ [.edge, .isr p.releaseEnv])) := rfl
  obtain ⟨hidle, hidleEvents⟩ := h.run b p.idle_noEdge
  obtain ⟨hpress, hphase, hpressEvents⟩ := hidle.press b p.pressEnv
  obtain ⟨hhold, hholdEvents⟩ := hpress.run b hphase p.hold_noEdge
  obtain ⟨hrelease, hreleaseEvents⟩ := hhold.release b p.releaseEnv
  rw [Nat.zero_add] at hreleaseEvents
  simp only [hparts, Machine.run_append, List.flatten_append, hidleEvents, hpressEvents,
    hholdEvents, hreleaseEvents]
  exact ⟨hrelease, rfl⟩

/-- **Clean presses**: of any number of presses without a bounce, with any pauses, every one
that is held while the delayed work runs at two seconds or later is handed on as a long press,
every one of more than 50 ms and less than two seconds as a short one, and no other. -/
theorem cleanPresses_events (now : Nat) (presses : List CleanPress) :
    (Machine.run b.step (.boot false now) (presses.flatMap CleanPress.actions)).2.flatten =
      presses.flatMap fun p => p.events b := by
  have hrest : (ButtonState.boot false now).AtRest := ⟨rfl, rfl, rfl, rfl⟩
  generalize ButtonState.boot false now = s at hrest
  induction presses generalizing s with
  | nil => rfl
  | cons p presses ih =>
    obtain ⟨hnext, hevents⟩ := p.run b hrest
    rw [List.flatMap_cons, Machine.run_append, List.flatten_append, hevents, ih _ hnext,
      List.flatMap_cons]

end CleanRuns

end TempoBt
