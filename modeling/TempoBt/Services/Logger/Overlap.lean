-- SUMMARY: When overlapping starts and stops of several threads leave every session its file or terminal.
import TempoBt.Services.Logger.Stopping
import Mathlib.Data.Fintype.Option

/-!
# Overlapping starts and stops

`logger_stop` closes the session's output after it has released the lock, and
decides by `usb_mode` at that late moment what to close. A session begun in the
meantime keeps its file if no thread is about to close it or can still choose
to, and its terminal likewise.
-/

namespace TempoBt

open Threads (Owner Action)

/-! ## Sessions and their output -/

/-- The output of the active session. -/
def Flags.session (f : Flags) : Option OutputCallback :=
  if f.state.isActive then f.callback else none

def Flags.outputOpen (f : Flags) : OutputCallback → Bool
  | .toFile => f.fileOpen
  | .usbTty => f.ttyOpen

theorem Flags.session_eq_some {f : Flags} {output : OutputCallback} :
    f.session = some output ↔ f.state.isActive = true ∧ f.callback = some output := by
  simp [Flags.session]

theorem Flags.session_of_canStart {f : Flags} (h : f.state.canStart = true) : f.session = none := by
  have hinactive : f.state.isActive = false := by
    cases hs : f.state <;> simp_all [LoggerState.canStart, LoggerState.isActive]
  simp [Flags.session, hinactive]

/-- The test of `usb_mode`, after which a stop knows what to close. -/
def Teardown.choosesOutput : Teardown → Bool
  | .closeOutput _ => true
  | _ => false

def Teardown.closesFile : Teardown → Bool
  | .closeFile _ => true
  | _ => false

def Teardown.closesTty : Teardown → Bool
  | .closeTty => true
  | _ => false

def Teardown.clearsUsbMode : Teardown → Bool
  | .clearUsbMode => true
  | _ => false

/-- The step belongs to no start or stop: a caller, or another critical section. -/
def Instr.isForeign : Instr → Bool
  | .caller _ | .critical (.jumped _) | .critical (.arm _) | .critical (.disarm _) => true
  | _ => false

section Safe

variable {ι : Type*} [DecidableEq ι]

/-- No thread will close the file: none has chosen to, and at most one has still to
choose, which finds `usb_mode` set and nobody about to clear it. -/
structure FileSafe (t : Threads ι Device Instr) : Prop where
  closing : t.Owner (Instr.teardownIs Teardown.closesFile) none
  choosing : ∃ o, t.Owner (Instr.teardownIs Teardown.choosesOutput) o ∧
    (o.isSome = true → t.shared.flags.usbMode = true ∧
      t.Owner (Instr.teardownIs Teardown.clearsUsbMode) none)

/-- No thread will close the terminal: none has chosen to or has still to choose. -/
structure TtySafe (t : Threads ι Device Instr) : Prop where
  choosing : t.Owner (Instr.teardownIs Teardown.choosesOutput) none
  closing : t.Owner (Instr.teardownIs Teardown.closesTty) none

instance [Fintype ι] (t : Threads ι Device Instr) : Decidable (FileSafe t) :=
  decidable_of_iff
    (t.Owner (Instr.teardownIs Teardown.closesFile) none ∧
      ∃ o, t.Owner (Instr.teardownIs Teardown.choosesOutput) o ∧
        (o.isSome = true → t.shared.flags.usbMode = true ∧
          t.Owner (Instr.teardownIs Teardown.clearsUsbMode) none))
    ⟨fun h => ⟨h.1, h.2⟩, fun h => ⟨h.closing, h.choosing⟩⟩

instance [Fintype ι] (t : Threads ι Device Instr) : Decidable (TtySafe t) :=
  decidable_of_iff
    (t.Owner (Instr.teardownIs Teardown.choosesOutput) none ∧
      t.Owner (Instr.teardownIs Teardown.closesTty) none)
    ⟨fun h => ⟨h.1, h.2⟩, fun h => ⟨h.choosing, h.closing⟩⟩

def SafeFor (t : Threads ι Device Instr) : OutputCallback → Prop
  | .toFile => FileSafe t
  | .usbTty => TtySafe t

variable {t t' : Threads ι Device Instr}

theorem FileSafe.mono (h : FileSafe t)
    (howner : ∀ q o, t.Owner (Instr.teardownIs q) o → t'.Owner (Instr.teardownIs q) o)
    (husb : t'.shared.flags.usbMode = t.shared.flags.usbMode) : FileSafe t' := by
  obtain ⟨o, hchoosing, husbMode⟩ := h.choosing
  refine ⟨howner _ _ h.closing, o, howner _ _ hchoosing, fun ho => ?_⟩
  rw [husb]
  exact ⟨(husbMode ho).1, howner _ _ (husbMode ho).2⟩

theorem TtySafe.mono (h : TtySafe t)
    (howner : ∀ q o, t.Owner (Instr.teardownIs q) o → t'.Owner (Instr.teardownIs q) o) :
    TtySafe t' :=
  ⟨howner _ _ h.choosing, howner _ _ h.closing⟩

theorem SafeFor.mono {output : OutputCallback} (h : SafeFor t output)
    (howner : ∀ q o, t.Owner (Instr.teardownIs q) o → t'.Owner (Instr.teardownIs q) o)
    (husb : t'.shared.flags.usbMode = t.shared.flags.usbMode) : SafeFor t' output := by
  cases output with
  | toFile => exact FileSafe.mono h howner husb
  | usbTty => exact TtySafe.mono h howner

/-- When a thread is about to clear `usb_mode`, none has still to choose. -/
theorem FileSafe.choosing_none (h : FileSafe t) {i : ι} {rest : List Instr}
    (hcode : t.code i = .teardown .clearUsbMode :: rest) :
    t.Owner (Instr.teardownIs Teardown.choosesOutput) none := by
  obtain ⟨o, hchoosing, husb⟩ := h.choosing
  cases o with
  | none => exact hchoosing
  | some j =>
    have hfalse := (husb rfl).2.head_eq_false hcode
    simp [Instr.teardownIs, Teardown.clearsUsbMode] at hfalse

end Safe

/-! ## Starts that go through -/

/-- `logger_start` will succeed: the state allows it, the medium opens the file, and
the aggregator does not run. -/
def startCommits (e : StartEnv) (d : Device) : Bool :=
  d.logger.state.canStart && !d.aggregator.running && decide ((storageOpen e.file.file).2 = 0)

/-- `logger_start_usb` will succeed. -/
def startUsbCommits (e : UsbStartEnv) (d : Device) : Bool :=
  d.logger.state.canStart && !d.aggregator.running && usbTtyIsConnected e.dtrConnected d.usbTty &&
    usbTtyIsConnected e.dtrOpen d.usbTty

theorem startCommits_iff (e : StartEnv) (d : Device) :
    startCommits e d = true ↔ (loggerStartLocked e d).2 = 0 := by
  unfold startCommits loggerStartLocked
  cases hcan : d.logger.state.canStart with
  | false => simp [Errno.einval]
  | true =>
    simp only [Bool.not_true, Bool.false_eq_true, if_false, Bool.true_and]
    rw [if_neg (by simp [createSessionDirectory])]
    have hdir : (createSessionDirectory e (d.newSession e.rand e.now)).1.flags = d.flags := by simp
    generalize (createSessionDirectory e (d.newSession e.rand e.now)).1 = dir at hdir ⊢
    rw [← openFile_ret dir e.file]
    rcases openFile_cases dir e.file with ⟨hret, -⟩ | ⟨hret, hopen⟩
    · rw [if_pos hret]
      simp [hret]
    · rw [if_neg (by simpa using hret)]
      have hrunning : ((dir.openFile e.file).1.configureSession .toFile).flags.running =
          d.aggregator.running := by
        rw [configureSession_flags, hopen, hdir]
        rfl
      rcases startAggregator_cases ((dir.openFile e.file).1.configureSession .toFile)
        e.aggregatorNow with ⟨hrun, hret', -⟩ | ⟨hrun, hret', -⟩
      · rw [hrunning] at hrun
        rw [if_pos hret']
        simp [hret', hrun]
      · rw [hrunning] at hrun
        rw [if_neg (by simpa using hret')]
        simp [hret, hrun]

theorem startUsbCommits_iff (e : UsbStartEnv) (d : Device) :
    startUsbCommits e d = true ↔ (loggerStartUsbLocked e d).2 = 0 := by
  unfold startUsbCommits loggerStartUsbLocked
  cases hcan : d.logger.state.canStart with
  | false => simp [Errno.einval]
  | true =>
    simp only [Bool.not_true, Bool.false_eq_true, if_false, Bool.true_and]
    cases hconnected : usbTtyIsConnected e.dtrConnected d.usbTty with
    | false => simp [Errno.enotconn]
    | true =>
      simp only [Bool.not_true, Bool.false_eq_true, if_false, Bool.and_true]
      have hopen := openTty_ret ((d.newSession e.rand e.now).setUsbMode true) e.dtrOpen
      change _ ↔ usbTtyIsConnected e.dtrOpen d.usbTty = true at hopen
      have hsession : ((d.newSession e.rand e.now).setUsbMode true).flags.running =
          d.aggregator.running := rfl
      generalize (d.newSession e.rand e.now).setUsbMode true = session at hopen hsession ⊢
      rcases openTty_cases session e.dtrOpen with ⟨hret, -⟩ | ⟨hret, htty⟩
      · rw [if_pos hret]
        simp [hret, ← hopen]
      · rw [if_neg (by simpa using hret)]
        have hrunning : (((session.openTty e.dtrOpen).1.registerDisconnectCallback
            (some .usbDisconnectHandler)).configureSession .usbTty).flags.running =
            d.aggregator.running := by
          rw [configureSession_flags, Device.registerDisconnectCallback_flags, htty]
          exact hsession
        rcases startAggregator_cases (((session.openTty e.dtrOpen).1.registerDisconnectCallback
          (some .usbDisconnectHandler)).configureSession .usbTty) e.aggregatorNow with
          ⟨hrun, hret', -⟩ | ⟨hrun, hret', -⟩
        · rw [hrunning] at hrun
          rw [if_pos hret']
          simp [hret', hrun]
        · rw [hrunning] at hrun
          rw [if_neg (by simpa using hret')]
          simp [hopen.mp hret, hrun]

section Guard

variable {ι : Type*} [DecidableEq ι]

/-- A start that goes through does so when no earlier stop will close the new
session's output. -/
def StartsSafely (t : Threads ι Device Instr) : Instr → Prop
  | .critical (.start _ e _) => startCommits e t.shared = true → FileSafe t
  | .critical (.startUsb e) => startUsbCommits e t.shared = true → TtySafe t
  | _ => True

instance [Fintype ι] (t : Threads ι Device Instr) (p : Instr) : Decidable (StartsSafely t p) :=
  match p with
  | .critical (.start _ e _) =>
    inferInstanceAs (Decidable (startCommits e t.shared = true → FileSafe t))
  | .critical (.startUsb e) =>
    inferInstanceAs (Decidable (startUsbCommits e t.shared = true → TtySafe t))
  | .critical (.jumped _) | .critical (.stop _) | .critical (.arm _) | .critical (.disarm _)
  | .teardown _ | .call _ | .caller _ => .isTrue trivial

/-- What holds of every state of the interleavings of starts and stops. -/
structure Kept (t : Threads ι Device Instr) : Prop where
  stopping : ∃ o, Stopping t o
  alone : t.Owner Instr.isForeign none
  whole : ∀ output, t.shared.flags.session = some output →
    t.shared.flags.outputOpen output = true ∧ SafeFor t output

/-- A session keeps running with its output open until a stop takes the lock. -/
structure KeepsSession (t : Threads ι Device Instr) (a : Action ι SessionCall)
    (t' : Threads ι Device Instr) : Prop where
  begun : ∀ i reason e caller rest, a = .advance i →
    t.code i = .critical (.start reason e caller) :: rest → (loggerStartLocked e t.shared).2 = 0 →
    t'.shared.flags.session = some .toFile
  begunUsb : ∀ i e rest, a = .advance i → t.code i = .critical (.startUsb e) :: rest →
    (loggerStartUsbLocked e t.shared).2 = 0 → t'.shared.flags.session = some .usbTty
  kept : ∀ output, t.shared.flags.session = some output →
    t'.shared.flags.session = some output ∨
      ∃ i e rest, a = .advance i ∧ t.code i = .critical (.stop e) :: rest
  whole : ∀ output, t'.shared.flags.session = some output →
    t'.shared.flags.running = true ∧ t'.shared.flags.outputOpen output = true

variable {t : Threads ι Device Instr} {i : ι} {rest : List Instr}

/-- Under the lock, a step that is not a stop leaves every owner of teardown steps. -/
theorem owner_perform_critical {c : Critical} (hcode : t.code i = .critical c :: rest)
    (hstop : ∀ e, c ≠ .stop e) (q : Teardown → Bool) (o : Option ι)
    (h : t.Owner (Instr.teardownIs q) o) :
    (t.perform exec i (.critical c) rest).Owner (Instr.teardownIs q) o :=
  h.perform hcode rfl (execCritical_countP t.shared q c hstop)

/-- A critical section that leaves the device leaves the session's output safe. -/
theorem Kept.of_same {p : Instr} (h : Kept t)
    (hshared : (t.perform exec i p rest).shared = t.shared)
    (howner : ∀ q o, t.Owner (Instr.teardownIs q) o →
      (t.perform exec i p rest).Owner (Instr.teardownIs q) o)
    (output : OutputCallback)
    (hsession : (t.perform exec i p rest).shared.flags.session = some output) :
    (t.perform exec i p rest).shared.flags.outputOpen output = true ∧
      SafeFor (t.perform exec i p rest) output := by
  rw [hshared] at hsession
  obtain ⟨hopen, hsafe⟩ := h.whole output hsession
  exact ⟨by rw [hshared]; exact hopen, hsafe.mono howner (by rw [hshared])⟩

theorem Kept.perform_critical {c : Critical} (h : Kept t)
    (hcode : t.code i = .critical c :: rest) (hp : StartsSafely t (.critical c))
    (output : OutputCallback)
    (hsession : (t.perform exec i (.critical c) rest).shared.flags.session = some output) :
    (t.perform exec i (.critical c) rest).shared.flags.outputOpen output = true ∧
      SafeFor (t.perform exec i (.critical c) rest) output := by
  have hforeign := h.alone.head_eq_false hcode
  cases c with
  | start reason e caller =>
    have howner := owner_perform_critical hcode (fun e => by simp)
    rcases loggerStartLocked_cases t.shared e with
      ⟨-, -, hsame⟩ | ⟨hcan, -, callback, hflags⟩ | ⟨-, -, hret, hflags⟩
    · have hshared : (t.perform exec i (.critical (.start reason e caller)) rest).shared =
          t.shared := hsame
      exact h.of_same hshared howner output hsession
    -- a start that fails after the test of the state began without a session
    · have hnone : (loggerStartLocked e t.shared).1.flags.session = none := by
        rw [hflags]
        exact Flags.session_of_canStart hcan
      exact absurd (hsession.symm.trans hnone) (by simp)
    -- a start that goes through opened its file; that it stays open is the guard
    · have hsd : (loggerStartLocked e t.shared).1.flags.session = some .toFile := by
        rw [hflags]
        rfl
      obtain rfl : output = .toFile := Option.some.inj (hsession.symm.trans hsd)
      have husb : (loggerStartLocked e t.shared).1.flags.usbMode = t.shared.flags.usbMode := by
        rw [hflags]
      refine ⟨congrArg (fun f => Flags.outputOpen f .toFile) hflags, ?_⟩
      exact (hp ((startCommits_iff e t.shared).mpr hret)).mono howner husb
  | startUsb e =>
    have howner := owner_perform_critical hcode (fun e => by simp)
    rcases loggerStartUsbLocked_cases t.shared e with
      ⟨-, hsame⟩ | ⟨hcan, -, callback, ttyOpen, hflags⟩ | ⟨-, -, hret, hflags⟩
    · have hshared : (t.perform exec i (.critical (.startUsb e)) rest).shared = t.shared := hsame
      exact h.of_same hshared howner output hsession
    · have hnone : (loggerStartUsbLocked e t.shared).1.flags.session = none := by
        rw [hflags]
        exact Flags.session_of_canStart hcan
      exact absurd (hsession.symm.trans hnone) (by simp)
    · have husb : (loggerStartUsbLocked e t.shared).1.flags.session = some .usbTty := by
        rw [hflags]
        rfl
      obtain rfl : output = .usbTty := Option.some.inj (hsession.symm.trans husb)
      refine ⟨congrArg (fun f => Flags.outputOpen f .usbTty) hflags, ?_⟩
      exact (hp ((startUsbCommits_iff e t.shared).mpr hret)).mono howner
  | stop e =>
    by_cases hcan : t.shared.logger.state.canStop = true
    · have hnone : (loggerStopLocked t.shared).1.flags.session = none := by
        simp [loggerStopLocked, hcan, Flags.session, LoggerState.isActive]
      exact absurd (hsession.symm.trans hnone) (by simp)
    -- a stop without a session is refused
    · have hsame : (t.perform exec i (.critical (.stop e)) rest).shared = t.shared := by
        simp [exec, execCritical, loggerStopLocked, hcan]
      refine h.of_same hsame (fun q o ho => ho.perform hcode rfl ?_) output hsession
      simp [exec, execCritical, loggerStopLocked, hcan, Errno.einval]
  | jumped now => simp [Instr.isForeign] at hforeign
  | arm e => simp [Instr.isForeign] at hforeign
  | disarm groundSample => simp [Instr.isForeign] at hforeign

/-- The file stays safe through every teardown step that can then be reached. -/
theorem FileSafe.perform_teardown {s : Teardown} (h : FileSafe t)
    (hcode : t.code i = .teardown s :: rest) :
    FileSafe (t.perform exec i (.teardown s) rest) ∧
      (t.perform exec i (.teardown s) rest).shared.flags.fileOpen = t.shared.flags.fileOpen := by
  have hnotClosing := h.closing.head_eq_false hcode
  obtain ⟨o, hchoosing, husb⟩ := h.choosing
  cases s with
  | closeOutput e =>
    obtain rfl := hchoosing.eq_some hcode rfl
    have husbMode : t.shared.logger.usbMode = true := (husb rfl).1
    -- the only thread that still chooses finds `usb_mode` set, and takes the terminal
    refine ⟨⟨h.closing.perform hcode rfl ?_, none, hchoosing.release hcode rfl ?_, by simp⟩, rfl⟩
    · simp only [exec, execTeardown, husbMode, if_true]
      rfl
    · simp only [exec, execTeardown, husbMode, if_true]
      rfl
  | clearUsbMode =>
    -- nobody chooses any more, so it does not matter that `usb_mode` goes
    have hnone := h.choosing_none hcode
    exact ⟨⟨h.closing.perform hcode rfl rfl, none, hnone.perform hcode rfl rfl, by simp⟩, rfl⟩
  | closeFile e => simp [Instr.teardownIs, Teardown.closesFile] at hnotClosing
  | stopAggregator | closeTty | unregisterDisconnect | getStats =>
    refine ⟨⟨h.closing.perform hcode rfl rfl, o, hchoosing.perform hcode rfl rfl, fun ho => ?_⟩,
      by simp [exec, execTeardown]⟩
    exact ⟨by simpa [exec, execTeardown] using (husb ho).1, (husb ho).2.perform hcode rfl rfl⟩

/-- The terminal stays safe through every teardown step that can then be reached. -/
theorem TtySafe.perform_teardown {s : Teardown} (h : TtySafe t)
    (hcode : t.code i = .teardown s :: rest) :
    TtySafe (t.perform exec i (.teardown s) rest) ∧
      (t.perform exec i (.teardown s) rest).shared.flags.ttyOpen = t.shared.flags.ttyOpen := by
  have hnotChoosing := h.choosing.head_eq_false hcode
  have hnotClosing := h.closing.head_eq_false hcode
  have hsafe (hnew : (execTeardown t.shared s).2 = []) :
      TtySafe (t.perform exec i (.teardown s) rest) := by
    have hzero (q : Teardown → Bool) : (exec t.shared (.teardown s)).2.1.countP
        (Instr.teardownIs q) = 0 := by
      simp [exec, hnew]
    exact ⟨h.choosing.perform hcode hnotChoosing (hzero _),
      h.closing.perform hcode hnotClosing (hzero _)⟩
  cases s with
  | stopAggregator => exact ⟨hsafe rfl, by simp [exec, execTeardown]⟩
  | closeOutput e => simp [Instr.teardownIs, Teardown.choosesOutput] at hnotChoosing
  | closeTty => simp [Instr.teardownIs, Teardown.closesTty] at hnotClosing
  | unregisterDisconnect => exact ⟨hsafe rfl, rfl⟩
  | clearUsbMode => exact ⟨hsafe rfl, rfl⟩
  | getStats => exact ⟨hsafe rfl, rfl⟩
  | closeFile e => exact ⟨hsafe rfl, by simp [exec, execTeardown]⟩

theorem execTeardown_session (d : Device) (s : Teardown) :
    (execTeardown d s).1.flags.session = d.flags.session := by
  cases s with
  | stopAggregator => simp [execTeardown, Flags.session]
  | closeFile e => simp [execTeardown, Flags.session]
  | _ => rfl

/-- A step of a stop's teardown spares the session that is active meanwhile. -/
theorem Kept.perform_teardown {s : Teardown} (h : Kept t)
    (hcode : t.code i = .teardown s :: rest) (output : OutputCallback)
    (hsession : (t.perform exec i (.teardown s) rest).shared.flags.session = some output) :
    (t.perform exec i (.teardown s) rest).shared.flags.outputOpen output = true ∧
      SafeFor (t.perform exec i (.teardown s) rest) output := by
  have hsame : t.shared.flags.session = some output :=
    (execTeardown_session t.shared s).symm.trans hsession
  obtain ⟨hopen, hsafe⟩ := h.whole output hsame
  cases output with
  | toFile =>
    obtain ⟨hnext, hfile⟩ := FileSafe.perform_teardown hsafe hcode
    exact ⟨hfile.trans hopen, hnext⟩
  | usbTty =>
    obtain ⟨hnext, htty⟩ := TtySafe.perform_teardown hsafe hcode
    exact ⟨htty.trans hopen, hnext⟩

theorem Kept.perform_call {c : Call} (h : Kept t) (hcode : t.code i = .call c :: rest)
    (output : OutputCallback)
    (hsession : (t.perform exec i (.call c) rest).shared.flags.session = some output) :
    (t.perform exec i (.call c) rest).shared.flags.outputOpen output = true ∧
      SafeFor (t.perform exec i (.call c) rest) output := by
  obtain ⟨hstate, husb, -, hcallback, hfile, htty⟩ := Flags.core_eq (execCall_core t.shared c)
  have hsame : t.shared.flags.session = some output := by
    rw [← hsession]
    simp [exec, Flags.session, hstate, hcallback]
  obtain ⟨hopen, hsafe⟩ := h.whole output hsame
  refine ⟨?_, hsafe.mono (fun q o ho => ho.perform hcode rfl (countP_map_call _ _)) husb⟩
  cases output with
  | toFile => exact hfile.trans hopen
  | usbTty => exact htty.trans hopen

/-- Starts, stops and what they put off put nothing foreign. -/
theorem exec_foreign (d : Device) {p : Instr} (hp : p.isForeign = false) :
    (exec d p).2.1.countP Instr.isForeign = 0 := by
  cases p with
  | critical c =>
    cases c with
    | start reason e caller =>
      simp only [exec, execCritical]
      split <;> rfl
    | startUsb e =>
      simp only [exec, execCritical]
      split <;> rfl
    | stop e =>
      simp only [exec, execCritical]
      split <;> rfl
    | _ => simp [Instr.isForeign] at hp
  | teardown s => simp [exec, List.countP_eq_zero, Instr.isForeign]
  | call c => simp [exec, List.countP_eq_zero, Instr.isForeign]
  | caller c => simp [Instr.isForeign] at hp

theorem Kept.perform {p : Instr} (h : Kept t) (hcode : t.code i = p :: rest)
    (hp : StartsSafely t p) : Kept (t.perform exec i p rest) := by
  have hforeign := h.alone.head_eq_false hcode
  obtain ⟨o, hstopping⟩ := h.stopping
  refine ⟨hstopping.perform hcode, h.alone.perform hcode hforeign (exec_foreign _ hforeign), ?_⟩
  cases p with
  | critical c => exact h.perform_critical hcode hp
  | teardown s => exact h.perform_teardown hcode
  | call c => exact h.perform_call hcode
  | caller c => simp [Instr.isForeign] at hforeign

/-- The session stays until a stop takes the lock. -/
theorem exec_session {d : Device} {p : Instr} (hp : p.isForeign = false)
    (hstop : ∀ e, p ≠ .critical (.stop e)) {output : OutputCallback}
    (h : d.flags.session = some output) : (exec d p).1.flags.session = some output := by
  have hcannot (hcan : d.flags.state.canStart = true) : False := by
    simp [Flags.session_of_canStart hcan] at h
  cases p with
  | critical c =>
    cases c with
    | start reason e caller =>
      rcases loggerStartLocked_cases d e with ⟨-, -, hsame⟩ | ⟨hcan, -⟩ | ⟨hcan, -⟩
      · simpa [exec, execCritical, hsame] using h
      · exact absurd hcan hcannot
      · exact absurd hcan hcannot
    | startUsb e =>
      rcases loggerStartUsbLocked_cases d e with ⟨-, hsame⟩ | ⟨hcan, -⟩ | ⟨hcan, -⟩
      · simpa [exec, execCritical, hsame] using h
      · exact absurd hcan hcannot
      · exact absurd hcan hcannot
    | stop e => exact absurd rfl (hstop e)
    | _ => simp [Instr.isForeign] at hp
  | teardown s => exact (execTeardown_session d s).trans h
  | call c =>
    obtain ⟨hstate, -, -, hcallback, -⟩ := Flags.core_eq (execCall_core d c)
    simpa [exec, Flags.session, hstate, hcallback] using h
  | caller c => simp [Instr.isForeign] at hp

/-- A permitted step keeps the invariant and the sessions. -/
theorem Kept.step {p : Instr} (h : Kept t) (hcode : t.code i = p :: rest)
    (hp : StartsSafely t p) :
    Kept (t.perform exec i p rest) ∧ KeepsSession t (.advance i) (t.perform exec i p rest) := by
  have hnext := h.perform hcode hp
  refine ⟨hnext, ?_, ?_, ?_, ?_⟩
  · intro j reason e caller rest' hj hcode' hret
    cases hj
    obtain ⟨rfl, rfl⟩ := List.cons.inj (hcode.symm.trans hcode')
    rcases loggerStartLocked_cases t.shared e with ⟨-, hne, -⟩ | ⟨-, hne, -⟩ | ⟨-, -, -, hflags⟩
    · exact absurd hret hne
    · exact absurd hret hne
    · simp [exec, execCritical, hflags, Flags.session, LoggerState.isActive]
  · intro j e rest' hj hcode' hret
    cases hj
    obtain ⟨rfl, rfl⟩ := List.cons.inj (hcode.symm.trans hcode')
    rcases loggerStartUsbLocked_cases t.shared e with ⟨hne, -⟩ | ⟨-, hne, -⟩ | ⟨-, -, -, hflags⟩
    · exact absurd hret hne
    · exact absurd hret hne
    · simp [exec, execCritical, hflags, Flags.session, LoggerState.isActive]
  · intro output hsession
    by_cases hstop : ∃ e, p = .critical (.stop e)
    · obtain ⟨e, rfl⟩ := hstop
      exact .inr ⟨i, e, rest, rfl, hcode⟩
    · left
      exact exec_session (h.alone.head_eq_false hcode) (fun e he => hstop ⟨e, he⟩) hsession
  · intro output hsession
    obtain ⟨o, hstopping⟩ := hnext.stopping
    exact ⟨hstopping.running (Flags.session_eq_some.mp hsession).1, (hnext.whole output hsession).1⟩

/-- A state of the invariant keeps its sessions while nothing happens to it. -/
theorem Kept.idle {t' : Threads ι Device Instr} {a : Action ι SessionCall} (h : Kept t)
    (hshared : t'.shared = t.shared) (ha : ∀ i, a = .advance i → t.code i = []) :
    KeepsSession t a t' := by
  refine ⟨?_, ?_, ?_, ?_⟩
  · intro i reason e caller rest hi hcode
    simp [ha i hi] at hcode
  · intro i e rest hi hcode
    simp [ha i hi] at hcode
  · intro output hsession
    exact .inl (hshared ▸ hsession)
  · intro output hsession
    rw [hshared] at hsession ⊢
    obtain ⟨o, hstopping⟩ := h.stopping
    exact ⟨hstopping.running (Flags.session_eq_some.mp hsession).1, (h.whole output hsession).1⟩

theorem Kept.setCode (h : Kept t) (hidle : t.code i = []) (c : SessionCall) :
    Kept (t.setCode i c.entry) := by
  have hentry (q : Teardown → Bool) : c.entry.countP (Instr.teardownIs q) = 0 := by
    cases c <;> rfl
  have hforeign : c.entry.countP Instr.isForeign = 0 := by cases c <;> rfl
  obtain ⟨o, hstopping⟩ := h.stopping
  refine ⟨⟨o, hstopping.state, hstopping.owner.setCode hidle (hentry _), hstopping.running,
    hstopping.owned⟩, h.alone.setCode hidle hforeign, fun output hsession => ?_⟩
  obtain ⟨hopen, hsafe⟩ := h.whole output hsession
  exact ⟨hopen, hsafe.mono (fun q o ho => ho.setCode hidle (hentry q)) rfl⟩

variable (config : LoggerConfig) (usbEnabled : Bool) (version : AppVersion)
  (first second : Option ℚ) (arm : ArmEnv)

theorem kept_atBoot : Kept (ι := ι) (atBoot config usbEnabled version first second arm) := by
  have hflags := atBoot_flags (ι := ι) config usbEnabled version first second arm
  refine ⟨⟨none, (tornDown_atBoot config usbEnabled version first second arm).toStopping⟩,
    Owner.none_of_idle fun _ => rfl, fun output hsession => ?_⟩
  rw [hflags] at hsession
  simp [Flags.session, LoggerState.isActive] at hsession

/-- In every interleaving of starts and stops in which each start that goes through
begins when no earlier stop will close its output, every session keeps running with
its output open until a stop takes the lock. -/
theorem sessions_kept (as : List (Action ι SessionCall))
    (has : Machine.Guarded (Threads.step SessionCall.entry exec) (Threads.Permits StartsSafely)
      (atBoot config usbEnabled version first second arm) as) :
    Machine.Along (Threads.step SessionCall.entry exec) KeepsSession
      (atBoot config usbEnabled version first second arm) as := by
  refine Threads.guarded_along (I := Kept) ?_ ?_ ?_
    (kept_atBoot config usbEnabled version first second arm) has
  · intro t a h ha
    exact h.idle rfl ha
  · intro t i c h hidle
    exact ⟨h.setCode hidle c, h.idle rfl (fun j hj => by simp at hj)⟩
  · intro t i p rest h hcode hp
    exact h.step hcode hp

end Guard

open Threads.Action in
/-- While one thread (`false`) has stopped a USB session and not yet read
`usb_mode`, the other (`true`) begins an SD session. -/
def startDuringUsbStop : List (Action Bool SessionCall) :=
  [call false (.startUsb .working), advance false, advance false, advance false,
    call false (.stop .working), advance false, advance false, advance false, advance false,
    call true (.start [] .working), advance true,
    advance false, advance false, advance false, advance false]

theorem sessions_kept_startDuringUsbStop :
    Machine.Along (Threads.step SessionCall.entry exec) KeepsSession
      (atBoot (loggerCfg false) true ⟨[], [], [], 0⟩ none none .working) startDuringUsbStop :=
  sessions_kept (loggerCfg false) true ⟨[], [], [], 0⟩ none none .working startDuringUsbStop
    (by decide +kernel)

open Threads.Action in
/-- While one thread (`false`) has stopped an SD session and not yet closed its
file, the other (`true`) begins another one, whose file is then closed. -/
def startDuringStop : List (Action Bool SessionCall) :=
  [call false (.start [] .working), advance false, advance false, advance false, advance false,
    advance false, advance false, advance false, advance false,
    call false (.stop .working), advance false, advance false, advance false, advance false,
    advance false,
    call true (.start [] .working), advance true, advance false]

theorem not_sessions_kept_startDuringStop :
    ¬ Machine.Along (Threads.step SessionCall.entry exec) KeepsSession
      (atBoot (loggerCfg false) true ⟨[], [], [], 0⟩ none none .working)
      (startDuringStop ++ [.advance false]) := by
  intro h
  have hlast := ((Machine.along_append _ _ _ _ _).mp h).2.1
  have hopen := (hlast.whole .toFile (by decide +kernel)).2
  exact absurd hopen (by decide +kernel)

end TempoBt
