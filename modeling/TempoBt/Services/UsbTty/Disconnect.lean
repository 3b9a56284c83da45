-- SUMMARY: Runs of the USB terminal service, and when its disconnect callback runs only after the host or the device was lost.
import TempoBt.Lib.Machine
import TempoBt.Services.UsbTty

/-!
# Disconnect reports

The service learns of its host from the USB status and from polling the DTR line. An
open takes the line for asserted, also when the host was accepted without it. A
report waits in a work item, which an open does not cancel.
-/

namespace TempoBt

/-! ## Runs -/

/-- The service, and beside it what is known of the host. -/
structure TtyRun where
  tty : UsbTty
  /-- Whether `disconnect_work` is pending. -/
  disconnectWork : Bool
  /-- The last value of the DTR line that was read. -/
  lastDtr : Option Bool
  /-- Since the terminal was last opened, the line was read low after it had been high, or
  the device was disconnected or suspended. -/
  lost : Bool

/-- What happens to the service, in any order; `dtr` is the answer for the DTR line. -/
inductive TtyInput where
  | usbStatus (status : UsbDcStatus)
  | dtrPoll (dtr : Option Bool)
  | isConnected (dtr : Option Bool)
  | openTty (dtr : Option Bool)
  | closeTty
  | register (callback : Option DisconnectCallback)
  | disconnectWork

/-- The line is not read high, and the device is not lost. -/
def TtyInput.NeverAsserts : TtyInput → Prop
  | .usbStatus status => status ≠ .disconnected ∧ status ≠ .suspend
  | .dtrPoll dtr | .isConnected dtr | .openTty dtr => dtr ≠ some true
  | _ => True

namespace TtyRun

def initial (usbEnabled : Bool) : TtyRun := ⟨.initial usbEnabled, false, none, false⟩

/-- A reading of the DTR line. -/
def observe (dtr : Option Bool) (s : TtyRun) : TtyRun :=
  { s with
    lastDtr := dtr.or s.lastDtr
    lost := s.lost || (dtr == some false && s.lastDtr == some true) }

/-- A handler, which may submit `disconnect_work`. -/
def handle (f : UsbTty → UsbTty × Bool) (s : TtyRun) : TtyRun :=
  { s with tty := (f s.tty).1, disconnectWork := s.disconnectWork || (f s.tty).2 }

/-- One event, and the disconnect callback that it calls. -/
def step (s : TtyRun) : TtyInput → TtyRun × Option DisconnectCallback
  | .usbStatus status =>
    let loss := status == .disconnected || status == .suspend
    ({ s.handle (usbStatusCallback status) with lost := s.lost || loss }, none)
  -- the handler runs when the work is scheduled
  | .dtrPoll dtr =>
    if s.tty.dtrPollWork then ((s.observe dtr).handle (dtrPollHandler dtr), none) else (s, none)
  | .isConnected dtr => (s.observe dtr, none)
  | .openTty dtr =>
    if (usbTtyOpen dtr s.tty).2 = 0 then
      ({ s.observe dtr with tty := (usbTtyOpen dtr s.tty).1, lost := false }, none)
    else (s.observe dtr, none)
  | .closeTty => ({ s with tty := usbTtyClose s.tty }, none)
  | .register callback =>
    ({ s with tty := usbTtyRegisterDisconnectCallback callback s.tty }, none)
  | .disconnectWork =>
    if s.disconnectWork then ({ s with disconnectWork := false }, disconnectWorkHandler s.tty)
    else (s, none)

/-! ## Reports and losses -/

/-- A report that is due while the terminal is open follows a loss. -/
def DueAfterLoss (s : TtyRun) : Prop :=
  s.disconnectWork = true → s.tty.ttyOpen = true → s.lost = true

/-- A callback that runs while the terminal is open follows a loss. -/
def RunsAfterLoss (s : TtyRun) (input : TtyInput) (_ : TtyRun) : Prop :=
  (s.step input).2.isSome = true → s.tty.ttyOpen = true → s.lost = true

/-- The line is not read low where only the open took it for asserted, and the terminal
is not opened while a report is due. -/
def Admits (s : TtyRun) : TtyInput → Prop
  | .dtrPoll dtr =>
    s.tty.dtrPollWork = true → s.tty.ttyOpen = true → s.tty.dtrState = true →
      dtr = some false → s.lost = true ∨ s.lastDtr = some true
  | .openTty dtr => usbTtyIsConnected dtr s.tty = true → s.disconnectWork = false
  | _ => True

variable {s : TtyRun}

/-! ## Steps -/

theorem DueAfterLoss.observe (h : s.DueAfterLoss) (dtr : Option Bool) :
    (s.observe dtr).DueAfterLoss := by
  intro hwork hopen
  have hlost : s.lost = true := h hwork hopen
  simp [TtyRun.observe, hlost]

/-- A handler keeps the property when a report of its own follows a loss. -/
theorem DueAfterLoss.handle {f : UsbTty → UsbTty × Bool} (h : s.DueAfterLoss)
    (hopen : (f s.tty).1.ttyOpen = s.tty.ttyOpen)
    (hreport : (f s.tty).2 = true → s.tty.ttyOpen = true → s.lost = true) :
    (s.handle f).DueAfterLoss := by
  intro hwork hopen'
  have hopened : s.tty.ttyOpen = true := hopen.symm.trans hopen'
  rcases Bool.or_eq_true_iff.mp hwork with hbefore | hnow
  · exact h hbefore hopened
  · exact hreport hnow hopened

theorem dueAfterLoss_usbStatus (h : s.DueAfterLoss) (status : UsbDcStatus) :
    (s.step (.usbStatus status)).1.DueAfterLoss := by
  intro hwork hopen
  cases status with
  | configured =>
    have hlost : s.lost = true :=
      h.handle (f := usbStatusCallback .configured) rfl (by simp [usbStatusCallback]) hwork hopen
    simp [step, hlost]
  | other =>
    have hlost : s.lost = true :=
      h.handle (f := usbStatusCallback .other) rfl (by simp [usbStatusCallback]) hwork hopen
    simp [step, hlost]
  | disconnected => simp [step]
  | suspend => simp [step]

/-- What an admitted poll reports follows a loss. -/
theorem dueAfterLoss_dtrPoll (h : s.DueAfterLoss) {dtr : Option Bool}
    (hadmits : s.Admits (.dtrPoll dtr)) : (s.step (.dtrPoll dtr)).1.DueAfterLoss := by
  rw [step]
  split
  · rename_i hscheduled
    refine (h.observe dtr).handle (dtrPollHandler_terminal dtr s.tty).1 ?_
    intro hreport _
    obtain ⟨hopen, hstate, hlow⟩ := (dtrPollHandler_submits dtr s.tty).mp hreport
    rcases hadmits hscheduled hopen hstate hlow with hlost | hhigh
    · simp [TtyRun.observe, hlost]
    · simp [TtyRun.observe, hlow, hhigh]
  · exact h

/-- Nothing is due when the terminal is opened. -/
theorem dueAfterLoss_openTty (h : s.DueAfterLoss) {dtr : Option Bool}
    (hadmits : s.Admits (.openTty dtr)) : (s.step (.openTty dtr)).1.DueAfterLoss := by
  rw [step]
  split
  · rename_i hret
    have hidle := hadmits ((usbTtyOpen_ret dtr s.tty).mp hret)
    intro hwork
    rw [show s.disconnectWork = true from hwork] at hidle
    cases hidle
  · exact h.observe dtr

/-- Every admitted event keeps the reports after their losses. -/
theorem DueAfterLoss.step (h : s.DueAfterLoss) {input : TtyInput} (hadmits : s.Admits input) :
    (s.step input).1.DueAfterLoss := by
  cases input with
  | usbStatus status => exact dueAfterLoss_usbStatus h status
  | dtrPoll dtr => exact dueAfterLoss_dtrPoll h hadmits
  | isConnected dtr => exact h.observe dtr
  | openTty dtr => exact dueAfterLoss_openTty h hadmits
  | closeTty =>
    intro _ hopen
    cases hopen
  | register callback => exact h
  | disconnectWork =>
    rw [TtyRun.step]
    split
    · intro hwork
      cases hwork
    · exact h

/-- Any other event makes a report due without a loss. -/
theorem not_dueAfterLoss_step {input : TtyInput} (hadmits : ¬ s.Admits input) :
    ¬ (s.step input).1.DueAfterLoss := by
  intro hdue
  cases input with
  | dtrPoll dtr =>
    simp only [Admits, Classical.not_imp, not_or] at hadmits
    obtain ⟨hscheduled, hopen, hstate, rfl, hlost, hhigh⟩ := hadmits
    have hreport := (dtrPollHandler_submits (some false) s.tty).mpr ⟨hopen, hstate, rfl⟩
    rw [step, if_pos hscheduled] at hdue
    have hafter := hdue (by simp [handle, TtyRun.observe, hreport])
      ((dtrPollHandler_terminal (some false) s.tty).1.trans hopen)
    simp [handle, TtyRun.observe, hlost, hhigh] at hafter
  | openTty dtr =>
    simp only [Admits, Classical.not_imp, Bool.not_eq_false] at hadmits
    obtain ⟨hconnected, hwork⟩ := hadmits
    have hret := (usbTtyOpen_ret dtr s.tty).mpr hconnected
    have hopen : (usbTtyOpen dtr s.tty).1.ttyOpen = true := by
      rcases usbTtyOpen_cases dtr s.tty with ⟨hfail, -⟩ | ⟨-, hopen⟩
      · exact absurd hret hfail
      · exact hopen
    rw [step, if_pos hret] at hdue
    cases hdue hwork hopen
  | usbStatus status => exact hadmits trivial
  | isConnected dtr => exact hadmits trivial
  | closeTty => exact hadmits trivial
  | register callback => exact hadmits trivial
  | disconnectWork => exact hadmits trivial

/-- Only the work item calls the callback. -/
theorem DueAfterLoss.runsAfterLoss (h : s.DueAfterLoss) (input : TtyInput) :
    s.RunsAfterLoss input (s.step input).1 := by
  intro hcall
  cases input with
  | disconnectWork =>
    rw [TtyRun.step] at hcall
    split at hcall
    · rename_i hwork
      exact h hwork
    · cases hcall
  | dtrPoll dtr =>
    rw [TtyRun.step] at hcall
    split at hcall
    · cases hcall
    · cases hcall
  | openTty dtr =>
    rw [TtyRun.step] at hcall
    split at hcall
    · cases hcall
    · cases hcall
  | usbStatus status => cases hcall
  | isConnected dtr => cases hcall
  | closeTty => cases hcall
  | register callback => cases hcall

/-! ## A host that never asserts DTR -/

/-- There is neither a loss nor a high line it could begin with. -/
def Unlost (s : TtyRun) : Prop := s.lost = false ∧ s.lastDtr ≠ some true

theorem Unlost.observe (h : s.Unlost) {dtr : Option Bool} (hdtr : dtr ≠ some true) :
    (s.observe dtr).Unlost := by
  obtain ⟨hlost, hlast⟩ := h
  refine ⟨by simp [TtyRun.observe, hlost, hlast], ?_⟩
  cases dtr with
  | none => exact hlast
  | some value => exact hdtr

theorem Unlost.step (h : s.Unlost) {input : TtyInput} (hinput : input.NeverAsserts) :
    (s.step input).1.Unlost := by
  cases input with
  | usbStatus status =>
    refine ⟨?_, h.2⟩
    simp [TtyRun.step, h.1, hinput.1, hinput.2]
  | dtrPoll dtr =>
    rw [TtyRun.step]
    split
    · exact h.observe hinput
    · exact h
  | isConnected dtr => exact h.observe hinput
  | openTty dtr =>
    have hobserved := h.observe hinput
    rw [TtyRun.step]
    split
    · exact ⟨rfl, hobserved.2⟩
    · exact hobserved
  | closeTty => exact h
  | register callback => exact h
  | disconnectWork =>
    rw [TtyRun.step]
    split
    · exact h
    · exact h

end TtyRun

/-- **Disconnects.** In every order of events: each report that is due during an open
follows a loss in exactly the runs that admit every event; in these, each callback that
runs during an open follows one, and there is none for a host that never asserts DTR. -/
theorem disconnect_after_loss_iff (usbEnabled : Bool) (inputs : List TtyInput) :
    (Machine.Always TtyRun.step TtyRun.DueAfterLoss (.initial usbEnabled) inputs ↔
      Machine.Guarded TtyRun.step TtyRun.Admits (.initial usbEnabled) inputs) ∧
    (Machine.Guarded TtyRun.step TtyRun.Admits (.initial usbEnabled) inputs →
      Machine.Along TtyRun.step TtyRun.RunsAfterLoss (.initial usbEnabled) inputs ∧
      ((∀ input ∈ inputs, input.NeverAsserts) →
        Machine.Along TtyRun.step
          (fun s input _ => (s.step input).2.isSome = true → s.tty.ttyOpen = false)
          (.initial usbEnabled) inputs)) := by
  have hinitial : (TtyRun.initial usbEnabled).DueAfterLoss := by
    intro hwork
    cases hwork
  refine ⟨?_, fun hadmits => ?_⟩
  · apply Machine.always_iff_guarded (I := TtyRun.DueAfterLoss)
    · exact fun s input h hinput => h.step hinput
    · exact fun s h => h
    · exact fun s input _ hinput => TtyRun.not_dueAfterLoss_step hinput
    · exact hinitial
  · have hruns : Machine.Along TtyRun.step TtyRun.RunsAfterLoss (.initial usbEnabled) inputs :=
      Machine.Guarded.along (fun s input h hinput => h.step hinput)
        (fun s input h _ => h.runsAfterLoss input) hinitial hadmits
    refine ⟨hruns, fun hnever => ?_⟩
    have hunlost : Machine.Along TtyRun.step (fun s _ _ => s.Unlost) (.initial usbEnabled) inputs :=
      Machine.Guarded.along (G := fun _ input => input.NeverAsserts)
        (fun s input h hinput => h.step hinput) (fun s input h _ => h)
        ⟨rfl, by simp [TtyRun.initial]⟩
        (Machine.Guarded.of_forall (fun input hmem _ => hnever input hmem) _)
    refine (Machine.along_and.mpr ⟨hruns, hunlost⟩).mono fun s input h hcall => ?_
    obtain ⟨hafter, hlost, -⟩ := h
    by_contra hopen
    have hloss := hafter hcall (Bool.eq_true_of_not_eq_false hopen)
    rw [hlost] at hloss
    cases hloss

/-- A host that asserts DTR and drops it is reported. -/
example :
    (Machine.run TtyRun.step (.initial true)
      [.openTty (some true), .register (some .usbDisconnectHandler), .dtrPoll (some true),
        .dtrPoll (some false), .disconnectWork]).2 =
      [none, none, none, none, some .usbDisconnectHandler] := by decide +kernel

/-- The first poll after an open without DTR, and a report from before a close that runs
after the next open. -/
theorem not_runsAfterLoss :
    ¬ Machine.Along TtyRun.step TtyRun.RunsAfterLoss (.initial true)
        [.usbStatus .configured, .openTty (some false), .register (some .usbDisconnectHandler),
          .dtrPoll (some false), .disconnectWork] ∧
      ¬ Machine.Along TtyRun.step TtyRun.RunsAfterLoss (.initial true)
        [.openTty (some true), .dtrPoll (some false), .closeTty, .openTty (some true),
          .register (some .usbDisconnectHandler), .disconnectWork] := by
  refine ⟨fun h => ?_, fun h => ?_⟩
  · have hlost := h.2.2.2.2.1 (by decide +kernel) (by decide +kernel)
    revert hlost
    decide +kernel
  · have hlost := h.2.2.2.2.2.1 (by decide +kernel) (by decide +kernel)
    revert hlost
    decide +kernel

end TempoBt
