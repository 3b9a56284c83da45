-- SUMMARY: The LED service: who decides on its colour, and when it is lit, over any sequence of commands and ticks.
import TempoBt.App.Led
import TempoBt.App.Mcumgr
import TempoBt.App.SettingsRequests
import TempoBt.Lib.Machine

/-!
# LED service

The LED blinks in the colour of the application, or in that of an override that a request
sets. A timer turns it on, and delayed work turns it off again; both count milliseconds.
-/

namespace TempoBt

/-! ## The service -/

/-- `BLINK_PERIOD_MS` -/
def blinkPeriodMs : Nat := 2000

/-- `BLINK_ON_TIME_MS` -/
def blinkOnTimeMs : Nat := 50

/-- `PWM_PERIOD_NS` -/
def pwmPeriodNs : Nat := 1000000

/-- The pulse that `set_pwm_channel` gives a channel; one of the whole period is dark. -/
def pwmPulse (brightness : UInt8) : Nat :=
  ((255 - brightness) >>> 3).toNat * pwmPeriodNs / 31

/-- The pulses of the three channels. -/
abbrev Pulses := Nat × Nat × Nat

/-- `led_state`, with the time that is left to the timer and to the work that turns the LED
off, where they are pending, and the pulses of the channels. -/
@[ext]
structure LedService where
  currentColor : RgbColor := .black
  enabled : Bool := false
  blinkTimer : Option Nat := none
  ledOn : Bool := false
  overrideColor : RgbColor := .black
  overrideEnabled : Bool := false
  appColor : RgbColor := .black
  appEnabled : Bool := false
  ledOffWork : Option Nat := none
  pulses : Pulses := (pwmPulse 0, pwmPulse 0, pwmPulse 0)
  /-- The level of the pin of the GPS LED, where it is available; 0 is its lit level. -/
  gpsLed : Option Bool := none

/-- The pulses of a dark LED. -/
def darkPulses : Pulses := (pwmPulse 0, pwmPulse 0, pwmPulse 0)

/-- The pulses with which a colour is shown. -/
def RgbColor.pulses (color : RgbColor) : Pulses :=
  (pwmPulse (color.r >>> 3), pwmPulse (color.g >>> 3), pwmPulse (color.b >>> 3))

namespace LedService

/-- `led_on`, where `hasFix` is the answer of `gnss_has_fix`. -/
def turnOn (hasFix : Bool) (s : LedService) : LedService :=
  if s.enabled then
    { s with pulses := s.currentColor.pulses, ledOn := true,
             gpsLed := if hasFix then s.gpsLed else s.gpsLed.map fun _ => false }
  else s

/-- `led_off` -/
def turnOff (s : LedService) : LedService :=
  { s with pulses := darkPulses, ledOn := false, gpsLed := s.gpsLed.map fun _ => true }

/-- `led_service_init`, where the PWM device is ready. -/
def init (gpsLedAvailable : Bool) : LedService :=
  { gpsLed := if gpsLedAvailable then some false else none : LedService }.turnOff

def blinkTimerHandler (hasFix : Bool) (s : LedService) : LedService :=
  if s.ledOn then s else { s.turnOn hasFix with ledOffWork := some blinkOnTimeMs }

/-- `k_timer_start` with no delay: the timer fires in the next millisecond. -/
def startBlinking (s : LedService) : LedService := { s with blinkTimer := some 1 }

/-- The timer is stopped, the work cancelled, and the LED turned off. -/
def stopBlinking (s : LedService) : LedService :=
  { s with blinkTimer := none, ledOffWork := none }.turnOff

def setColorLedState (color : RgbColor) (state : Bool) (s : LedService) : LedService :=
  let s := { s with appColor := color, appEnabled := state }
  if s.overrideEnabled then s
  else
    let s := { s with currentColor := color, enabled := state }
    if state then s.startBlinking else s.stopBlinking

/-- `led_service_set_override` -/
def setOverride (color : RgbColor) (enable : Bool) (s : LedService) : LedService :=
  let s := { s with overrideColor := color, overrideEnabled := enable }
  if enable then { s with currentColor := color, enabled := true }.startBlinking
  else
    let s := { s with currentColor := s.appColor, enabled := s.appEnabled }
    if s.appEnabled then s.startBlinking else s.stopBlinking

/-- One millisecond: the timer's handler runs when its time is up, and starts the next
period, and then the work that is due. -/
def tick (hasFix : Bool) (s : LedService) : LedService :=
  let offDue := s.ledOffWork == some 1
  let s := { s with ledOffWork := s.ledOffWork.map (· - 1) }
  let s :=
    if s.blinkTimer = some 1 then
      { s.blinkTimerHandler hasFix with blinkTimer := some blinkPeriodMs }
    else { s with blinkTimer := s.blinkTimer.map (· - 1) }
  if offDue then { s with ledOffWork := none }.turnOff else s

end LedService

/-! ## `tempo_mgmt_led_control` -/

/-- The variables of the handler; a key that is missing leaves zero. -/
structure LedControl where
  enable : Bool := false
  r : UInt32 := 0
  g : UInt32 := 0
  b : UInt32 := 0

/-- The body of the decoding loop. -/
def ledControlField : Bytes → CborItem → LedControl → Option LedControl :=
  onField (ascii "enable") CborItem.bool? (fun v u => { u with enable := v }) <|
  onField (ascii "r") CborItem.uint32? (fun n u => { u with r := n }) <|
  onField (ascii "g") CborItem.uint32? (fun n u => { u with g := n }) <|
  onField (ascii "b") CborItem.uint32? (fun n u => { u with b := n })
  skipField

def LedControl.color (u : LedControl) : RgbColor := ⟨u.r.toUInt8, u.g.toUInt8, u.b.toUInt8⟩

/-- The command of a request, when it can be decoded and its values are those of a colour. -/
def ledControl (request : SmpRequest) : Option LedControl :=
  (decodeMap ledControlField request {}).filter fun u => u.r ≤ 255 && u.g ≤ 255 && u.b ≤ 255

def tempoMgmtLedControl (encodes : Bool) (request : SmpRequest) (s : LedService) :
    LedService × Except MgmtErr SmpResponse :=
  match ledControl request with
  | none => (s, .error .einval)
  | some u =>
    let s := s.setOverride u.color u.enable
    (s,
      if encodes then
        .ok [(ascii "enabled", .bool s.overrideEnabled),
          (ascii "r", .int s.overrideColor.r.toNat), (ascii "g", .int s.overrideColor.g.toNat),
          (ascii "b", .int s.overrideColor.b.toNat)]
      else .error .emsgsize)

/-! ## Runs -/

/-- What happens to the service. -/
inductive LedEvent where
  | setColor (color : RgbColor) (state : Bool)
  | control (encodes : Bool) (request : SmpRequest)
  | tick (hasFix : Bool)

def LedService.step (s : LedService) : LedEvent → LedService
  | .setColor color state => s.setColorLedState color state
  | .control encodes request => (tempoMgmtLedControl encodes request s).1
  | .tick hasFix => s.tick hasFix

/-- The service after its initialization and some events. -/
def LedService.after (gpsLedAvailable : Bool) (events : List LedEvent) : LedService :=
  events.foldl LedService.step (.init gpsLedAvailable)

/-! ## Who decides -/

/-- What the application asked for last. -/
def appWish (events : List LedEvent) : RgbColor × Bool :=
  events.foldl (fun wish event =>
    match event with
    | .setColor color state => (color, state)
    | .control .. | .tick _ => wish) (.black, false)

/-- What the requests asked for last. -/
def overrideWish (events : List LedEvent) : RgbColor × Bool :=
  events.foldl (fun wish event =>
    match event with
    | .control _ request => (ledControl request).elim wish fun u => (u.color, u.enable)
    | .setColor .. | .tick _ => wish) (.black, false)

/-- An override goes first. -/
def arbitrate (app request : RgbColor × Bool) : RgbColor × Bool :=
  if request.2 then (request.1, true) else app

/-- The colour, and whether the LED blinks at all. -/
def ledWish (events : List LedEvent) : RgbColor × Bool :=
  arbitrate (appWish events) (overrideWish events)

namespace LedService

/-- The timer runs while the LED is to blink, and the work is pending while it is lit. -/
structure Sound (s : LedService) : Prop where
  timer : (∃ n, s.blinkTimer = some n ∧ 1 ≤ n ∧ n ≤ blinkPeriodMs) ∨ s.blinkTimer = none
  enabled_iff : s.enabled = true ↔ s.blinkTimer.isSome = true
  off : (∃ n, s.ledOffWork = some n ∧ 1 ≤ n ∧ n ≤ blinkOnTimeMs) ∨ s.ledOffWork = none
  on_iff : s.ledOn = true ↔ s.ledOffWork.isSome = true
  lit : s.ledOn = true → s.enabled = true
  dark : s.ledOn = false → s.pulses = darkPulses ∧ s.gpsLed ≠ some false

/-! ### One step -/

/-- What a tick leaves alone. -/
structure SameWishes (s s' : LedService) : Prop where
  shown : (s'.currentColor, s'.enabled) = (s.currentColor, s.enabled)
  app : (s'.appColor, s'.appEnabled) = (s.appColor, s.appEnabled)
  request : (s'.overrideColor, s'.overrideEnabled) = (s.overrideColor, s.overrideEnabled)

theorem tick_sameWishes (hasFix : Bool) (s : LedService) : s.SameWishes (s.tick hasFix) := by
  unfold tick blinkTimerHandler turnOn turnOff
  constructor <;> dsimp only <;> split_ifs <;> rfl

theorem gpsLed_turnOff (level : Option Bool) : (level.map fun _ => true) ≠ some false := by
  cases level <;> simp

theorem sound_init (gpsLedAvailable : Bool) : (init gpsLedAvailable).Sound where
  timer := .inr rfl
  enabled_iff := by simp [init, turnOff]
  off := .inr rfl
  on_iff := by simp [init, turnOff]
  lit h := by simp [init, turnOff] at h
  dark _ := ⟨rfl, gpsLed_turnOff _⟩

theorem Sound.startBlinking {s : LedService} (h : s.Sound) (color : RgbColor) :
    ({ s with currentColor := color, enabled := true } : LedService).startBlinking.Sound where
  timer := .inl ⟨1, rfl, le_refl 1, by decide⟩
  enabled_iff := iff_of_true rfl rfl
  off := h.off
  on_iff := h.on_iff
  lit _ := rfl
  dark := h.dark

theorem sound_stopBlinking (s : LedService) (color : RgbColor) :
    ({ s with currentColor := color, enabled := false } : LedService).stopBlinking.Sound where
  timer := .inr rfl
  enabled_iff := by simp [LedService.stopBlinking, turnOff]
  off := .inr rfl
  on_iff := by simp [LedService.stopBlinking, turnOff]
  lit h := by simp [LedService.stopBlinking, turnOff] at h
  dark _ := ⟨rfl, gpsLed_turnOff _⟩

/-- The LED is given to a colour, or turned off. -/
theorem Sound.give {s : LedService} (h : s.Sound) (color : RgbColor) (state : Bool) :
    (if state then
        ({ s with currentColor := color, enabled := state } : LedService).startBlinking
      else
        ({ s with currentColor := color, enabled := state } : LedService).stopBlinking).Sound := by
  cases state with
  | true => exact h.startBlinking color
  | false => exact sound_stopBlinking s color

theorem Sound.setColorLedState {s : LedService} (h : s.Sound) (color : RgbColor) (state : Bool) :
    (s.setColorLedState color state).Sound := by
  have happ : ({ s with appColor := color, appEnabled := state } : LedService).Sound :=
    ⟨h.timer, h.enabled_iff, h.off, h.on_iff, h.lit, h.dark⟩
  unfold LedService.setColorLedState
  dsimp only
  split
  · exact happ
  · exact happ.give color state

theorem Sound.setOverride {s : LedService} (h : s.Sound) (color : RgbColor) (enable : Bool) :
    (s.setOverride color enable).Sound := by
  have hoverride (e : Bool) :
      ({ s with overrideColor := color, overrideEnabled := e } : LedService).Sound :=
    ⟨h.timer, h.enabled_iff, h.off, h.on_iff, h.lit, h.dark⟩
  unfold LedService.setOverride
  cases enable with
  | true => exact (hoverride true).startBlinking color
  | false => exact (hoverride false).give s.appColor s.appEnabled

/-- The time that is left to the timer one millisecond later. -/
def nextTimer (timer : Option Nat) : Option Nat :=
  if timer = some 1 then some blinkPeriodMs else timer.map (· - 1)

/-- A tick of a lit LED, which the timer does not touch. -/
theorem tick_lit {s : LedService} {o : Nat} (hasFix : Bool) (hon : s.ledOn = true)
    (hoff : s.ledOffWork = some o) :
    s.tick hasFix =
      if o = 1 then
        { s with blinkTimer := nextTimer s.blinkTimer, ledOffWork := none, ledOn := false,
                 pulses := darkPulses, gpsLed := s.gpsLed.map fun _ => true }
      else { s with blinkTimer := nextTimer s.blinkTimer, ledOffWork := some (o - 1) } := by
  unfold tick blinkTimerHandler turnOff nextTimer
  by_cases ho : o = 1 <;> by_cases htimer : s.blinkTimer = some 1 <;>
    simp [hon, hoff, ho, htimer]

/-- A tick of a dark LED, with which a flash may begin. -/
theorem tick_dark {s : LedService} (hasFix : Bool) (hon : s.ledOn = false)
    (hoff : s.ledOffWork = none) (henabled : s.enabled = true ↔ s.blinkTimer.isSome = true) :
    s.tick hasFix =
      if s.blinkTimer = some 1 then
        { s with blinkTimer := some blinkPeriodMs, ledOffWork := some blinkOnTimeMs, ledOn := true,
                 pulses := s.currentColor.pulses
                 gpsLed := if hasFix then s.gpsLed else s.gpsLed.map fun _ => false }
      else { s with blinkTimer := nextTimer s.blinkTimer } := by
  unfold tick blinkTimerHandler turnOn nextTimer
  by_cases htimer : s.blinkTimer = some 1
  · have hen : s.enabled = true := henabled.mpr (by rw [htimer]; rfl)
    simp [hon, hoff, htimer, hen]
  · simp [hon, hoff, htimer]

theorem nextTimer_isSome (timer : Option Nat) : (nextTimer timer).isSome = timer.isSome := by
  unfold nextTimer
  split
  · rename_i h
    rw [h]
    rfl
  · cases timer <;> rfl

theorem nextTimer_bounds {timer : Option Nat}
    (h : (∃ n, timer = some n ∧ 1 ≤ n ∧ n ≤ blinkPeriodMs) ∨ timer = none) :
    (∃ n, nextTimer timer = some n ∧ 1 ≤ n ∧ n ≤ blinkPeriodMs) ∨ nextTimer timer = none := by
  rcases h with ⟨n, rfl, hlow, hhigh⟩ | rfl
  · left
    by_cases hn : n = 1
    · exact ⟨blinkPeriodMs, by simp [nextTimer, hn], by decide, le_refl _⟩
    · exact ⟨n - 1, by simp [nextTimer, hn], by omega, by omega⟩
  · exact .inr rfl

theorem Sound.lit_work {s : LedService} (h : s.Sound) (hon : s.ledOn = true) :
    ∃ o, s.ledOffWork = some o ∧ 1 ≤ o ∧ o ≤ blinkOnTimeMs := by
  rcases h.off with hoff | hoff
  · exact hoff
  · have hsome := h.on_iff.mp hon
    rw [hoff] at hsome
    cases hsome

theorem Sound.dark_work {s : LedService} (h : s.Sound) (hon : s.ledOn = false) :
    s.ledOffWork = none := by
  cases hoff : s.ledOffWork with
  | none => rfl
  | some o =>
    have hlit := h.on_iff.mpr (by rw [hoff]; rfl)
    rw [hon] at hlit
    cases hlit

theorem Sound.tick {s : LedService} (h : s.Sound) (hasFix : Bool) : (s.tick hasFix).Sound := by
  have henabled : s.enabled = true ↔ (nextTimer s.blinkTimer).isSome = true := by
    rw [nextTimer_isSome]
    exact h.enabled_iff
  cases hon : s.ledOn with
  | true =>
    obtain ⟨o, hoff, hlow, hhigh⟩ := h.lit_work hon
    rw [tick_lit hasFix hon hoff]
    split
    · exact ⟨nextTimer_bounds h.timer, henabled, .inr rfl, iff_of_false nofun nofun, nofun,
        fun _ => ⟨rfl, gpsLed_turnOff _⟩⟩
    · refine ⟨nextTimer_bounds h.timer, henabled, .inl ⟨o - 1, rfl, by omega, by omega⟩,
        iff_of_true hon rfl, fun _ => h.lit hon, fun hdark => ?_⟩
      exact absurd (hon.symm.trans hdark) nofun
  | false =>
    rw [tick_dark hasFix hon (h.dark_work hon) h.enabled_iff]
    split
    · rename_i htimer
      have hblinks : s.enabled = true := h.enabled_iff.mpr (by rw [htimer]; rfl)
      exact ⟨.inl ⟨_, rfl, by decide, le_refl _⟩, iff_of_true hblinks rfl,
        .inl ⟨_, rfl, by decide, le_refl _⟩, iff_of_true rfl rfl, fun _ => hblinks, nofun⟩
    · exact ⟨nextTimer_bounds h.timer, henabled, h.off, h.on_iff, h.lit, h.dark⟩

theorem Sound.step {s : LedService} (h : s.Sound) (event : LedEvent) : (s.step event).Sound := by
  cases event with
  | setColor color state => exact h.setColorLedState color state
  | control encodes request =>
    simp only [LedService.step, tempoMgmtLedControl]
    cases ledControl request with
    | none => exact h
    | some u => exact h.setOverride u.color u.enable
  | tick hasFix => exact h.tick hasFix

/-! ### Every run -/

/-- The service does what was asked for last. -/
structure Follows (wanted overriding : RgbColor × Bool) (s : LedService) : Prop where
  app : (s.appColor, s.appEnabled) = wanted
  request : (s.overrideColor, s.overrideEnabled) = overriding
  shown : (s.currentColor, s.enabled) = arbitrate wanted overriding

theorem Follows.setColorLedState {s : LedService} {wanted overriding : RgbColor × Bool}
    (h : s.Follows wanted overriding) (color : RgbColor) (state : Bool) :
    (s.setColorLedState color state).Follows (color, state) overriding := by
  obtain ⟨-, rfl, hshown⟩ := h
  unfold LedService.setColorLedState
  dsimp only
  cases hoverride : s.overrideEnabled with
  | true =>
    refine ⟨rfl, rfl, ?_⟩
    simpa only [arbitrate, hoverride, if_true] using hshown
  | false => cases state <;> exact ⟨rfl, rfl, rfl⟩

theorem Follows.setOverride {s : LedService} {wanted overriding : RgbColor × Bool}
    (h : s.Follows wanted overriding) (color : RgbColor) (enable : Bool) :
    (s.setOverride color enable).Follows wanted (color, enable) := by
  obtain ⟨rfl, -, -⟩ := h
  unfold LedService.setOverride
  dsimp only
  cases enable with
  | true => exact ⟨rfl, rfl, rfl⟩
  | false => cases happ : s.appEnabled <;> exact ⟨rfl, rfl, rfl⟩

theorem Follows.tick {s : LedService} {wanted overriding : RgbColor × Bool}
    (h : s.Follows wanted overriding) (hasFix : Bool) :
    (s.tick hasFix).Follows wanted overriding := by
  have hsame := s.tick_sameWishes hasFix
  exact ⟨hsame.app.trans h.app, hsame.request.trans h.request, hsame.shown.trans h.shown⟩

theorem follows_after (gpsLedAvailable : Bool) (events : List LedEvent) :
    (after gpsLedAvailable events).Follows (appWish events) (overrideWish events) := by
  induction events using List.reverseRecOn with
  | nil => exact ⟨rfl, rfl, rfl⟩
  | append_singleton events event ih =>
    unfold after appWish overrideWish at *
    simp only [List.foldl_append, List.foldl_cons, List.foldl_nil]
    cases event with
    | setColor color state => exact ih.setColorLedState color state
    | control encodes request =>
      simp only [LedService.step, tempoMgmtLedControl]
      cases ledControl request with
      | none => exact ih
      | some u => exact ih.setOverride u.color u.enable
    | tick hasFix => exact ih.tick hasFix

theorem sound_after (gpsLedAvailable : Bool) (events : List LedEvent) :
    (after gpsLedAvailable events).Sound := by
  induction events using List.reverseRecOn with
  | nil => exact sound_init gpsLedAvailable
  | append_singleton events event ih =>
    unfold after at *
    rw [List.foldl_append]
    exact ih.step event

end LedService

/-- In every run the service has the colour that the last request of an override or, without
one, the last call of the application asked for. It blinks exactly when that asks for it, a
flash is always about to end, and between two flashes both LEDs are off. -/
theorem led_follows_wishes (gpsLedAvailable : Bool) (events : List LedEvent) :
    let s := LedService.after gpsLedAvailable events
    (s.currentColor, s.enabled) = ledWish events ∧
      (s.blinkTimer.isSome = true ↔ (ledWish events).2 = true) ∧
      (s.ledOn = true → (ledWish events).2 = true ∧ ∃ n ≤ blinkOnTimeMs, s.ledOffWork = some n) ∧
      (s.ledOn = false → s.pulses = darkPulses ∧ s.gpsLed ≠ some false) := by
  intro s
  have hshown : (s.currentColor, s.enabled) = ledWish events :=
    (LedService.follows_after gpsLedAvailable events).shown
  have hsound : s.Sound := LedService.sound_after gpsLedAvailable events
  have henabled : s.enabled = (ledWish events).2 := congrArg Prod.snd hshown
  rw [← henabled]
  refine ⟨hshown, hsound.enabled_iff.symm, fun hon => ⟨hsound.lit hon, ?_⟩, hsound.dark⟩
  obtain ⟨n, hwork, -, hn⟩ := hsound.lit_work hon
  exact ⟨n, hn, hwork⟩

/-! ## When the LED is lit -/

/-- The first flash that is still to begin, when the timer has `t` milliseconds left and the
present flash, if there is one, `o`: the timer skips a turn that falls into a flash. -/
def firstFlash (t o : Nat) : Nat := if t ≤ o then t + blinkPeriodMs else t

/-- The LED is lit in the rest of the present flash, and then at the start of each period. -/
def Flashes (t o n : Nat) : Prop :=
  n < o ∨ firstFlash t o ≤ n ∧ (n - firstFlash t o) % blinkPeriodMs < blinkOnTimeMs

/-- In a flash one more millisecond has passed. -/
theorem flashes_lit {t o : Nat} (n : Nat) (ho : 1 ≤ o) (ht : 1 ≤ t) (ho' : o ≤ blinkOnTimeMs) :
    Flashes t o (n + 1) ↔ Flashes (if t = 1 then blinkPeriodMs else t - 1) (o - 1) n := by
  unfold Flashes firstFlash blinkPeriodMs blinkOnTimeMs at *
  split_ifs <;> omega

/-- Between two flashes, too. -/
theorem flashes_dark {t : Nat} (n : Nat) (ht : 2 ≤ t) :
    Flashes t 0 (n + 1) ↔ Flashes (t - 1) 0 n := by
  unfold Flashes firstFlash blinkPeriodMs blinkOnTimeMs
  split_ifs <;> omega

/-- A flash begins. -/
theorem flashes_begin (n : Nat) :
    Flashes 1 0 (n + 1) ↔ Flashes blinkPeriodMs blinkOnTimeMs n := by
  unfold Flashes firstFlash blinkPeriodMs blinkOnTimeMs
  split_ifs <;> omega

namespace LedService

/-- Some milliseconds without a command. -/
def ticks (s : LedService) (fixes : List Bool) : LedService :=
  fixes.foldl (fun s hasFix => s.tick hasFix) s

/-- What the LED shows after `n` milliseconds in which nothing is asked for. -/
structure Shows (s : LedService) (t o n : Nat) (s' : LedService) : Prop where
  ledOn : s'.ledOn = true ↔ Flashes t o n
  pulses : s'.pulses =
    if n < o then s.pulses else if s'.ledOn then s.currentColor.pulses else darkPulses

theorem Shows.now {s : LedService} {t : Nat} (h : s.Sound) (ht : 1 ≤ t) :
    s.Shows t (s.ledOffWork.getD 0) 0 s := by
  cases hon : s.ledOn with
  | true =>
    obtain ⟨o, hwork, ho, -⟩ := h.lit_work hon
    rw [hwork]
    exact ⟨iff_of_true hon (.inl ho), (if_pos (show 0 < o from ho)).symm⟩
  | false =>
    have hnot : ¬ Flashes t 0 0 := by
      unfold Flashes firstFlash
      split_ifs <;> omega
    rw [h.dark_work hon]
    refine ⟨iff_of_false (by rw [hon]; exact nofun) hnot, ?_⟩
    rw [hon]
    exact (h.dark hon).1

/-- The step of the induction over the milliseconds: what is shown from the next millisecond
on is what is shown now, one millisecond later. -/
theorem Shows.later {s s' : LedService} {hasFix : Bool} {t n : Nat} (h : s.Sound)
    (ht : s.blinkTimer = some t) (hlow : 1 ≤ t)
    (hshows : (s.tick hasFix).Shows (if t = 1 then blinkPeriodMs else t - 1)
      ((s.tick hasFix).ledOffWork.getD 0) n s') :
    s.Shows t (s.ledOffWork.getD 0) (n + 1) s' := by
  have hcolor : (s.tick hasFix).currentColor = s.currentColor :=
    congrArg Prod.fst (s.tick_sameWishes hasFix).shown
  obtain ⟨hon', hpulses⟩ := hshows
  rw [hcolor] at hpulses
  cases hon : s.ledOn with
  | true =>
    obtain ⟨o, hwork, ho, ho'⟩ := h.lit_work hon
    have htick := tick_lit hasFix hon hwork
    rw [hwork]
    -- the present flash has a millisecond less to go, or has just ended
    have hnext : (s.tick hasFix).ledOffWork.getD 0 = o - 1 := by
      rw [htick]
      split
      · rename_i hlast
        rw [hlast]
        rfl
      · rfl
    rw [hnext] at hon' hpulses
    refine ⟨hon'.trans (flashes_lit n ho hlow ho').symm, hpulses.trans ?_⟩
    by_cases hn : n < o - 1
    · have hsame : (s.tick hasFix).pulses = s.pulses := by
        rw [htick, if_neg (by omega)]
      rw [if_pos hn, if_pos (show n + 1 < (some o).getD 0 by simp; omega), hsame]
    · rw [if_neg hn, if_neg (show ¬ n + 1 < (some o).getD 0 by simp; omega)]
  | false =>
    have hwork := h.dark_work hon
    have htick := tick_dark hasFix hon hwork h.enabled_iff
    rw [hwork]
    by_cases hfire : t = 1
    · -- the timer fires, and a flash begins
      subst hfire
      rw [if_pos ht] at htick
      rw [htick] at hon' hpulses
      refine ⟨hon'.trans (flashes_begin n).symm, hpulses.trans ?_⟩
      rw [if_neg (show ¬ n + 1 < (none : Option Nat).getD 0 from Nat.not_lt_zero _)]
      by_cases hn : n < blinkOnTimeMs
      · exact (if_pos hn).trans (if_pos (hon'.mpr (.inl hn))).symm
      · exact if_neg hn
    · have hnot : s.blinkTimer ≠ some 1 := by
        rw [ht]
        exact fun h => hfire (Option.some.inj h)
      rw [if_neg hnot] at htick
      rw [htick, if_neg hfire] at hon'
      rw [htick] at hpulses
      simp only [hwork] at hon' hpulses
      exact ⟨hon'.trans (flashes_dark n (by omega)).symm, hpulses⟩

/-- The timer never stands still, whatever the LED does. -/
theorem tick_blinkTimer {s : LedService} {t : Nat} (hasFix : Bool) (h : s.Sound)
    (ht : s.blinkTimer = some t) :
    (s.tick hasFix).blinkTimer = some (if t = 1 then blinkPeriodMs else t - 1) := by
  have hnext : nextTimer s.blinkTimer = some (if t = 1 then blinkPeriodMs else t - 1) := by
    rw [ht]
    unfold nextTimer
    split_ifs <;> simp_all
  rw [← hnext]
  cases hon : s.ledOn with
  | true =>
    obtain ⟨o, hwork, -, -⟩ := h.lit_work hon
    rw [tick_lit hasFix hon hwork]
    split <;> rfl
  | false =>
    rw [tick_dark hasFix hon (h.dark_work hon) h.enabled_iff]
    split
    · rename_i hfire
      rw [hfire]
      rfl
    · rfl

theorem shows_ticks {s : LedService} {t : Nat} (fixes : List Bool) (h : s.Sound)
    (ht : s.blinkTimer = some t) (hlow : 1 ≤ t) :
    s.Shows t (s.ledOffWork.getD 0) fixes.length (s.ticks fixes) := by
  induction fixes generalizing s t with
  | nil => exact .now h hlow
  | cons hasFix fixes ih =>
    have hpos : 1 ≤ if t = 1 then blinkPeriodMs else t - 1 := by
      split
      · decide
      · omega
    exact .later h ht hlow (ih (h.tick hasFix) (tick_blinkTimer hasFix h ht) hpos)

end LedService

/-! ### Brightness -/

/-- The five bits that are shifted away, and the three that are shifted away after the
inversion, leave four levels of brightness. -/
theorem pwmPulse_shifted (c : UInt8) :
    pwmPulse (c >>> 3) = (31 - c.toNat / 64) * pwmPeriodNs / 31 := by
  have hall : ∀ c : Fin 256, pwmPulse (UInt8.ofFin c >>> 3) =
      (31 - c.val / 64) * pwmPeriodNs / 31 := by
    decide +kernel
  exact hall c.toFin

theorem pwmPulse_inj {c d : UInt8} (h : pwmPulse (c >>> 3) = pwmPulse (d >>> 3)) :
    c.toNat / 64 = d.toNat / 64 := by
  rw [pwmPulse_shifted, pwmPulse_shifted, pwmPeriodNs] at h
  have hc := c.toNat_lt
  have hd := d.toNat_lt
  omega

theorem RgbColor.pulses_eq_dark (color : RgbColor) :
    color.pulses = darkPulses ↔
      color.r.toNat < 64 ∧ color.g.toNat < 64 ∧ color.b.toNat < 64 := by
  have hchannel (c : UInt8) : pwmPulse (c >>> 3) = pwmPulse 0 ↔ c.toNat < 64 := by
    constructor
    · intro h
      have hzero : c.toNat / 64 = 0 := pwmPulse_inj (d := 0) h
      omega
    · intro h
      rw [pwmPulse_shifted, Nat.div_eq_of_lt h]
      rfl
  unfold RgbColor.pulses darkPulses
  rw [Prod.mk.injEq, Prod.mk.injEq, hchannel, hchannel, hchannel]

/-- In every run in which the LED is to blink, it is lit for 50 ms at the start of each
period of two seconds for as long as nothing is asked for. The flash that a command falls into
goes on in its old colour and is not repeated; the others have the new colour, and can be seen
exactly where a channel of it is at least 64. -/
theorem led_blinks (gpsLedAvailable : Bool) (events : List LedEvent) (fixes : List Bool)
    (hwish : (ledWish events).2 = true) :
    let s := LedService.after gpsLedAvailable events
    let s' := LedService.after gpsLedAvailable (events ++ fixes.map .tick)
    let o := s.ledOffWork.getD 0
    ∃ t, s.blinkTimer = some t ∧ 1 ≤ t ∧ t ≤ blinkPeriodMs ∧ o ≤ blinkOnTimeMs ∧
      (s'.ledOn = true ↔ Flashes t o fixes.length) ∧
      (fixes.length < o → s'.pulses = s.pulses) ∧
      (o ≤ fixes.length → (s'.pulses ≠ darkPulses ↔ s'.ledOn = true ∧
        (64 ≤ (ledWish events).1.r.toNat ∨ 64 ≤ (ledWish events).1.g.toNat ∨
          64 ≤ (ledWish events).1.b.toNat))) := by
  intro s s' o
  have hsound : s.Sound := LedService.sound_after gpsLedAvailable events
  have hshown : (s.currentColor, s.enabled) = ledWish events :=
    (LedService.follows_after gpsLedAvailable events).shown
  have hs' : s' = s.ticks fixes := by
    unfold s' s LedService.after LedService.ticks
    rw [List.foldl_append, List.foldl_map]
    rfl
  obtain ⟨t, ht, hlow, hhigh⟩ : ∃ t, s.blinkTimer = some t ∧ 1 ≤ t ∧ t ≤ blinkPeriodMs := by
    rcases hsound.timer with htimer | hnone
    · exact htimer
    · have hsome := hsound.enabled_iff.mp ((congrArg Prod.snd hshown).trans hwish)
      rw [hnone] at hsome
      cases hsome
  have ho : o ≤ blinkOnTimeMs := by
    unfold o
    rcases hsound.off with ⟨n, hn, -, hle⟩ | hnone
    · rw [hn]
      exact hle
    · rw [hnone]
      exact Nat.zero_le _
  obtain ⟨hon, hpulses⟩ := LedService.shows_ticks fixes hsound ht hlow
  rw [← hs'] at hon hpulses
  refine ⟨t, ht, hlow, hhigh, ho, hon, fun hn => ?_, fun hn => ?_⟩
  · rw [hpulses, if_pos hn]
  · rw [hpulses, if_neg (Nat.not_lt.mpr hn), ← hshown]
    cases hlit : s'.ledOn with
    | true =>
      rw [if_pos rfl, ne_eq, RgbColor.pulses_eq_dark]
      simp only [true_and]
      omega
    | false => simp

/-- A green that is asked for is shown one millisecond later. -/
theorem led_blinks_green :
    (ledWish [.setColor .green true]).2 = true ∧
      (LedService.after false ([.setColor .green true] ++ [true].map .tick)).ledOn = true ∧
      (LedService.after false ([.setColor .green true] ++ [true].map .tick)).pulses ≠
        darkPulses := by
  obtain ⟨t, ht, -, -, -, hon, -, hseen⟩ :=
    led_blinks false [.setColor .green true] [true] rfl
  have ht1 : t = 1 := Option.some.inj ht.symm
  have hlit := hon.mpr (.inr (by subst ht1; decide))
  exact ⟨rfl, hlit, (hseen (by decide)).mpr ⟨hlit, .inr (.inl (by decide))⟩⟩

end TempoBt
