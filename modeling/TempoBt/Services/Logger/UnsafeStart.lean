-- SUMMARY: A start that goes through while an earlier stop can still close its output loses it in some continuation.
import TempoBt.Services.Logger.Overlap

/-!
# Unsafe starts

The condition under which overlapping starts and stops leave every session its
output is exact: when a start goes through against it, the steps that are already
pending can be scheduled so that they close the new session's output.
-/

namespace TempoBt

open Threads (Owner Action Solo)

/-! ## Steps outside the lock -/

/-- A step of what a start or a stop does after it has released the lock. -/
def Instr.isPending : Instr → Bool
  | .teardown _ | .call _ => true
  | _ => false

/-- The steps of a stop that decide by `usb_mode` or clear it. -/
def Teardown.readsUsbMode (s : Teardown) : Bool := s.choosesOutput || s.clearsUsbMode

/-- A step and all that it can still put. -/
def Instr.weight : Instr → Nat
  | .teardown (.closeOutput _) => 4
  | .call (.startReturned _ _) => 3
  | _ => 1

section Pending

variable {d : Device} {p : Instr}

theorem exec_isPending (hp : p.isPending = true) : ∀ p' ∈ (exec d p).2.1, p'.isPending = true := by
  intro p' hp'
  cases p with
  | teardown s =>
    obtain ⟨s', -, rfl⟩ := List.mem_map.mp hp'
    rfl
  | call c =>
    obtain ⟨c', -, rfl⟩ := List.mem_map.mp hp'
    rfl
  | _ => simp [Instr.isPending] at hp

theorem exec_weight (hp : p.isPending = true) :
    ((exec d p).2.1.map Instr.weight).sum < p.weight := by
  cases p with
  | teardown s =>
    cases s with
    | closeOutput e =>
      simp only [exec, execTeardown]
      split <;> simp [Instr.weight]
    | _ => simp [exec, execTeardown, Instr.weight]
  | call c =>
    cases c with
    | startReturned caller ret =>
      cases caller with
      | bleControl =>
        simp only [exec, execCall, onStartReturned]
        split <;> simp [Instr.weight]
      | _ => simp [exec, execCall, onStartReturned, Instr.weight]
    | _ => simp [exec, execCall, Instr.weight]
  | _ => simp [Instr.isPending] at hp

theorem exec_session_of_isPending (hp : p.isPending = true) :
    (exec d p).1.flags.session = d.flags.session := by
  cases p with
  | teardown s => exact execTeardown_session d s
  | call c =>
    obtain ⟨hstate, -, -, hcallback, -⟩ := Flags.core_eq (execCall_core d c)
    simp [exec, Flags.session, hstate, hcallback]
  | _ => simp [Instr.isPending] at hp

/-- Only the end of a USB session changes `usb_mode`, and clears it. -/
theorem exec_usbMode_of_isPending (hp : p.isPending = true)
    (hclear : p.teardownIs Teardown.clearsUsbMode = false ∨ d.logger.usbMode = false) :
    (exec d p).1.logger.usbMode = d.logger.usbMode := by
  cases p with
  | teardown s =>
    cases s with
    | clearUsbMode =>
      rcases hclear with hclear | hclear
      · simp [Instr.teardownIs, Teardown.clearsUsbMode] at hclear
      · exact hclear.symm
    | _ => rfl
  | call c => exact (Flags.core_eq (execCall_core d c)).2.1
  | _ => simp [Instr.isPending] at hp

end Pending

/-- The session is active and its output is closed. -/
structure Flags.Lost (f : Flags) (output : OutputCallback) : Prop where
  session : f.session = some output
  closed : f.outputOpen output = false

/-! ## What one thread's pending steps do to a session -/

section Alone

variable {d : Device} {code : List Instr} {q : Teardown → Bool} {output : OutputCallback}

/-- A thread reaches its pending teardown step, and the session is still there. -/
theorem solo_reaches (hsession : d.flags.session = some output)
    (hcode : ∀ p ∈ code, p.isPending = true) (hq : ∃ p ∈ code, p.teardownIs q = true) :
    ∃ d' s rest, Solo exec (d, code) (d', .teardown s :: rest) ∧ q s = true ∧
      d'.flags.session = some output ∧
      (d.logger.usbMode = false → d'.logger.usbMode = false) := by
  have hstep (d' : Device) (p : Instr) (hp : p.isPending = true)
      (hI : d'.flags.session = some output ∧
        (d.logger.usbMode = false → d'.logger.usbMode = false)) :
      (exec d' p).1.flags.session = some output ∧
        (d.logger.usbMode = false → (exec d' p).1.logger.usbMode = false) := by
    refine ⟨(exec_session_of_isPending hp).trans hI.1, fun husb => ?_⟩
    exact (exec_usbMode_of_isPending hp (.inr (hI.2 husb))).trans (hI.2 husb)
  obtain ⟨d', p, rest, hsolo, hp, hI⟩ :=
    Solo.exists_head (q := Instr.teardownIs q) Instr.weight
      (fun d' p hp _ hI => ⟨hstep d' p hp hI, exec_isPending hp, exec_weight hp⟩)
      ⟨hsession, fun husb => husb⟩ hcode hq
  cases p with
  | teardown s => exact ⟨d', s, rest, hsolo, hp, hI⟩
  | _ => simp [Instr.teardownIs] at hp

theorem solo_closesFile (hsession : d.flags.session = some .toFile)
    (hcode : ∀ p ∈ code, p.isPending = true)
    (hq : ∃ p ∈ code, p.teardownIs Teardown.closesFile = true) :
    ∃ y, Solo exec (d, code) y ∧ y.1.flags.Lost .toFile := by
  obtain ⟨d', s, rest, hsolo, hs, hsession', -⟩ := solo_reaches hsession hcode hq
  cases s with
  | closeFile e =>
    refine ⟨_, hsolo.trans (.cons .refl), ?_, ?_⟩
    · exact (execTeardown_session d' (.closeFile e)).trans hsession'
    · simp [exec, execTeardown, Flags.outputOpen]
  | _ => simp [Teardown.closesFile] at hs

theorem solo_closesTty (hsession : d.flags.session = some .usbTty)
    (hcode : ∀ p ∈ code, p.isPending = true)
    (hq : ∃ p ∈ code, p.teardownIs Teardown.closesTty = true) :
    ∃ y, Solo exec (d, code) y ∧ y.1.flags.Lost .usbTty := by
  obtain ⟨d', s, rest, hsolo, hs, hsession', -⟩ := solo_reaches hsession hcode hq
  cases s with
  | closeTty =>
    exact ⟨_, hsolo.trans (.cons .refl), (execTeardown_session d' .closeTty).trans hsession', rfl⟩
  | _ => simp [Teardown.closesTty] at hs

theorem solo_clearsUsbMode (hsession : d.flags.session = some output)
    (hcode : ∀ p ∈ code, p.isPending = true)
    (hq : ∃ p ∈ code, p.teardownIs Teardown.clearsUsbMode = true) :
    ∃ y, Solo exec (d, code) y ∧ y.1.flags.session = some output ∧
      y.1.logger.usbMode = false := by
  obtain ⟨d', s, rest, hsolo, hs, hsession', -⟩ := solo_reaches hsession hcode hq
  cases s with
  | clearUsbMode => exact ⟨_, hsolo.trans (.cons .refl), hsession', rfl⟩
  | _ => simp [Teardown.clearsUsbMode] at hs

/-- The thread that has still to choose closes the file, or finds `usb_mode` set and
clears it. -/
theorem solo_choosesOutput (hsession : d.flags.session = some .toFile)
    (hcode : ∀ p ∈ code, p.isPending = true)
    (hq : ∃ p ∈ code, p.teardownIs Teardown.choosesOutput = true) :
    ∃ y, Solo exec (d, code) y ∧ (y.1.flags.Lost .toFile ∨
      d.logger.usbMode = true ∧ y.1.flags.session = some .toFile ∧
        y.1.logger.usbMode = false) := by
  obtain ⟨d', s, rest, hsolo, hs, hsession', husb⟩ := solo_reaches hsession hcode hq
  cases s with
  | closeOutput e =>
    -- from the test of `usb_mode` on, the thread does what `logger_stop` does alone
    refine ⟨_, hsolo.trans (solo_closeOutput d' rest e), ?_⟩
    cases husb' : d'.logger.usbMode with
    | true =>
      have hset : d.logger.usbMode = true := by
        cases hd : d.logger.usbMode with
        | true => rfl
        | false => simp [husb hd] at husb'
      simp only [Device.closeOutput, husb', if_true]
      exact .inr ⟨hset, hsession', rfl⟩
    | false =>
      simp only [Device.closeOutput, husb', Bool.false_eq_true, if_false]
      refine .inl ⟨(execTeardown_session d' (.closeFile e)).trans hsession', ?_⟩
      simp [Flags.outputOpen]
  | _ => simp [Teardown.choosesOutput] at hs

/-- With `usb_mode` set and nobody to clear it, the thread that has still to choose
closes the terminal. -/
theorem solo_choosesTty (hsession : d.flags.session = some .usbTty)
    (husb : d.logger.usbMode = true) (hcode : ∀ p ∈ code, p.isPending = true)
    (hclear : ∀ p ∈ code, p.teardownIs Teardown.clearsUsbMode = false)
    (hq : ∃ p ∈ code, p.teardownIs Teardown.choosesOutput = true) :
    ∃ y, Solo exec (d, code) y ∧ y.1.flags.Lost .usbTty := by
  have hnew (d' : Device) (p : Instr) (hp : p.isPending = true)
      (hchoose : p.teardownIs Teardown.choosesOutput = false) :
      ∀ p' ∈ (exec d' p).2.1, p'.teardownIs Teardown.clearsUsbMode = false := by
    cases p with
    | teardown s =>
      cases s with
      | closeOutput e => simp [Instr.teardownIs, Teardown.choosesOutput] at hchoose
      | _ => simp [exec, execTeardown]
    | call c => simp [exec, Instr.teardownIs]
    | _ => simp [Instr.isPending] at hp
  obtain ⟨d', p, rest, hsolo, hp, hsession', husb'⟩ :=
    Solo.exists_head (q := Instr.teardownIs Teardown.choosesOutput)
      (N := fun p => p.isPending = true ∧ p.teardownIs Teardown.clearsUsbMode = false)
      (I := fun d' => d'.flags.session = some .usbTty ∧ d'.logger.usbMode = true) Instr.weight
      (fun d' p hp hchoose hI => ⟨⟨(exec_session_of_isPending hp.1).trans hI.1,
          (exec_usbMode_of_isPending hp.1 (.inl hp.2)).trans hI.2⟩,
        fun p' hp' => ⟨exec_isPending hp.1 p' hp', hnew d' p hp.1 hchoose p' hp'⟩,
        exec_weight hp.1⟩)
      ⟨hsession, husb⟩ (fun p hp => ⟨hcode p hp, hclear p hp⟩) hq
  cases p with
  | teardown s =>
    cases s with
    | closeOutput e =>
      -- the terminal is closed first, and the session is lost at once
      have hchoose : Solo exec (d', .teardown (.closeOutput e) :: rest)
          (d'.closeTty, .teardown .unregisterDisconnect :: .teardown .clearUsbMode :: rest) := by
        apply Solo.cons
        simp only [exec, execTeardown, husb', if_true, List.map_cons, List.map_nil,
          List.cons_append, List.nil_append]
        exact .cons .refl
      exact ⟨_, hsolo.trans hchoose, hsession', rfl⟩
    | _ => simp [Instr.teardownIs, Teardown.choosesOutput] at hp
  | _ => simp [Instr.teardownIs] at hp

end Alone

/-! ## Threads in the middle of a stop -/

section Threads

variable {ι : Type*} [DecidableEq ι]

/-- Every thread is about to take the lock, or has only steps outside it to do, at
most one of which depends on `usb_mode`. -/
def Tidy (t : Threads ι Device Instr) : Prop :=
  ∀ i, (∃ c, t.code i = [.critical c]) ∨
    (∀ p ∈ t.code i, p.isPending = true) ∧
      (t.code i).countP (Instr.teardownIs Teardown.readsUsbMode) ≤ 1

variable {t : Threads ι Device Instr} {i j : ι}

omit [DecidableEq ι] in
/-- A thread with a teardown step to do is in the middle of a stop. -/
theorem Tidy.isPending (h : Tidy t) {q : Teardown → Bool}
    (hq : ∃ p ∈ t.code i, p.teardownIs q = true) : ∀ p ∈ t.code i, p.isPending = true := by
  rcases h i with ⟨c, hcode⟩ | ⟨hpending, -⟩
  · obtain ⟨p, hp, hq⟩ := hq
    rw [hcode, List.mem_singleton] at hp
    subst hp
    simp [Instr.teardownIs] at hq
  · exact hpending

omit [DecidableEq ι] in
theorem Tidy.countP_le (h : Tidy t) (i : ι) :
    (t.code i).countP (Instr.teardownIs Teardown.readsUsbMode) ≤ 1 := by
  rcases h i with ⟨c, hcode⟩ | ⟨-, hcount⟩
  · simp [hcode, Instr.teardownIs]
  · exact hcount

/-- What a critical section puts is done outside the lock. -/
theorem execCritical_tidy (d : Device) (c : Critical) :
    (∀ p ∈ (execCritical d c).2.1, p.isPending = true) ∧
      (execCritical d c).2.1.countP (Instr.teardownIs Teardown.readsUsbMode) ≤ 1 := by
  cases c with
  | arm e => simp [execCritical, Instr.isPending, Instr.teardownIs]
  | stop e =>
    simp only [execCritical]
    split
    · simp
    · exact ⟨by simp [afterStop, Instr.isPending], by
        simp [afterStop, Instr.teardownIs, Teardown.readsUsbMode, Teardown.choosesOutput,
          Teardown.clearsUsbMode]⟩
  | start reason e caller =>
    simp only [execCritical]
    split <;> simp [afterStart, Instr.isPending, Instr.teardownIs]
  | startUsb e =>
    simp only [execCritical]
    split <;> simp [afterStartUsb, Instr.isPending, Instr.teardownIs]
  | jumped now =>
    simp only [execCritical]
    split <;> simp [afterJumped, Instr.isPending, Instr.teardownIs]
  | disarm groundSample =>
    simp only [execCritical]
    split <;> simp [afterDisarm, Instr.isPending, Instr.teardownIs]

/-- A step outside the lock that depends on `usb_mode` puts at most one such step, and
the others put none. -/
theorem exec_readsUsbMode (d : Device) {p : Instr} (hp : p.isPending = true)
    (rest : List Instr) :
    ((exec d p).2.1 ++ rest).countP (Instr.teardownIs Teardown.readsUsbMode) ≤
      (p :: rest).countP (Instr.teardownIs Teardown.readsUsbMode) := by
  rw [List.countP_append, List.countP_cons, Nat.add_comm]
  apply Nat.add_le_add_left
  cases p with
  | teardown s =>
    cases s with
    | closeOutput e =>
      simp only [exec, execTeardown]
      split <;> simp [Instr.teardownIs, Teardown.readsUsbMode, Teardown.choosesOutput,
        Teardown.clearsUsbMode]
    | _ => simp [exec, execTeardown]
  | call c => simp only [exec, countP_map_call, Nat.zero_le]
  | _ => simp [Instr.isPending] at hp

theorem Tidy.perform (h : Tidy t) {p : Instr} {rest : List Instr} (hcode : t.code i = p :: rest) :
    Tidy (t.perform exec i p rest) := by
  intro j
  by_cases hj : j = i
  · subst hj
    right
    rw [Threads.perform_code_self]
    rcases h j with ⟨c, hcritical⟩ | ⟨hpending, hcount⟩
    · obtain ⟨rfl, rfl⟩ := List.cons.inj (hcode.symm.trans hcritical)
      rw [List.append_nil]
      exact execCritical_tidy t.shared c
    · rw [hcode] at hpending hcount
      have hp := hpending p (by simp)
      refine ⟨fun p' hp' => ?_, (exec_readsUsbMode t.shared hp rest).trans hcount⟩
      rcases List.mem_append.mp hp' with hp' | hp'
      · exact exec_isPending hp p' hp'
      · exact hpending p' (List.mem_cons_of_mem p hp')
  · rw [Threads.perform_code_of_ne exec t hj]
    exact h j

theorem Tidy.setCode (h : Tidy t) (c : SessionCall) : Tidy (t.setCode i c.entry) := by
  intro j
  by_cases hj : j = i
  · subst hj
    rw [Threads.setCode_code_self]
    left
    cases c with
    | start reason e => exact ⟨_, rfl⟩
    | startUsb e => exact ⟨_, rfl⟩
    | stop e => exact ⟨_, rfl⟩
  · rw [Threads.setCode_code_of_ne t hj]
    exact h j

/-- The pending steps of the threads can be scheduled so that the session loses its
output. -/
def CanLose (t : Threads ι Device Instr) (output : OutputCallback) : Prop :=
  ∃ later : List ι,
    (Machine.run (Threads.step SessionCall.entry exec) t
      (later.map .advance)).1.shared.flags.Lost output

/-- The state after thread `i` has run alone. -/
theorem exists_run_of_solo {y : Device × List Instr} (h : Solo exec (t.shared, t.code i) y) :
    ∃ later : List ι, (Machine.run (Threads.step SessionCall.entry exec) t
      (later.map .advance)).1 = { shared := y.1, code := Function.update t.code i y.2 } := by
  obtain ⟨n, hn⟩ : ∃ n, (Machine.run (Threads.step SessionCall.entry exec) t
      (List.replicate n (.advance i))).1 =
      { shared := y.1, code := Function.update t.code i y.2 } := h.run t i rfl
  refine ⟨List.replicate n i, ?_⟩
  rw [List.map_replicate]
  exact hn

variable {output : OutputCallback} {y : Device × List Instr}

theorem CanLose.of_solo (h : Solo exec (t.shared, t.code i) y) (hlost : y.1.flags.Lost output) :
    CanLose t output := by
  obtain ⟨later, hrun⟩ := exists_run_of_solo h
  refine ⟨later, ?_⟩
  rw [hrun]
  exact hlost

theorem CanLose.after_solo (h : Solo exec (t.shared, t.code i) y)
    (hlose : CanLose { shared := y.1, code := Function.update t.code i y.2 } output) :
    CanLose t output := by
  obtain ⟨before, hrun⟩ := exists_run_of_solo h
  obtain ⟨later, hlost⟩ := hlose
  refine ⟨before ++ later, ?_⟩
  rw [List.map_append, Machine.run_append, hrun]
  exact hlost

/-! ## Every unsafe start can lose its output -/

/-- A step depends on `usb_mode` if it chooses by it or clears it. -/
theorem countP_readsUsbMode (code : List Instr) :
    code.countP (Instr.teardownIs Teardown.readsUsbMode) =
      code.countP (Instr.teardownIs Teardown.choosesOutput) +
        code.countP (Instr.teardownIs Teardown.clearsUsbMode) := by
  induction code with
  | nil => rfl
  | cons p code ih =>
    have hp : (if p.teardownIs Teardown.readsUsbMode = true then 1 else 0) =
        (if p.teardownIs Teardown.choosesOutput = true then 1 else 0) +
          if p.teardownIs Teardown.clearsUsbMode = true then 1 else 0 := by
      cases p with
      | teardown s => cases s <;> rfl
      | _ => rfl
    rw [List.countP_cons, List.countP_cons, List.countP_cons, ih, hp]
    omega

omit [DecidableEq ι] in
/-- A thread that has still to choose does so once, and has not to clear `usb_mode`. -/
theorem Tidy.of_choosing (h : Tidy t)
    (hchoose : ∃ p ∈ t.code i, p.teardownIs Teardown.choosesOutput = true) :
    (t.code i).countP (Instr.teardownIs Teardown.choosesOutput) = 1 ∧
      ∀ p ∈ t.code i, p.teardownIs Teardown.clearsUsbMode = false := by
  have hle := h.countP_le i
  have hpos := List.countP_pos_iff.mpr hchoose
  rw [countP_readsUsbMode] at hle
  have hzero : (t.code i).countP (Instr.teardownIs Teardown.clearsUsbMode) = 0 := by omega
  exact ⟨by omega, by simpa using List.countP_eq_zero.mp hzero⟩

/-- When one thread clears `usb_mode`, another that has still to choose can close the
file. -/
theorem Tidy.canLose_of_cleared (h : Tidy t) (hsolo : Solo exec (t.shared, t.code j) y)
    (hsession : y.1.flags.session = some .toFile) (hcleared : y.1.logger.usbMode = false)
    (hij : i ≠ j) (hchoose : ∃ p ∈ t.code i, p.teardownIs Teardown.choosesOutput = true) :
    CanLose t .toFile := by
  apply CanLose.after_solo hsolo
  obtain ⟨z, hsolo', hlost | ⟨hset, -⟩⟩ :=
    solo_choosesOutput hsession (h.isPending hchoose) hchoose
  · have hcode : Function.update t.code j y.2 i = t.code i := Function.update_of_ne hij _ _
    rw [← hcode] at hsolo'
    exact .of_solo hsolo' hlost
  · simp [hcleared] at hset

theorem canLose_file (h : Tidy t) (hsession : t.shared.flags.session = some .toFile)
    (hnot : ¬ FileSafe t) : CanLose t .toFile := by
  by_cases hclosing : t.Owner (Instr.teardownIs Teardown.closesFile) none
  · have hchoosing : ¬ t.Owner (Instr.teardownIs Teardown.choosesOutput) none :=
      fun hnone => hnot ⟨hclosing, none, hnone, by simp⟩
    obtain ⟨i, hi⟩ := Owner.exists_of_not_none hchoosing
    obtain ⟨y, hsolo, hlost | ⟨husb, hsession', hcleared⟩⟩ :=
      solo_choosesOutput hsession (h.isPending hi) hi
    · exact .of_solo hsolo hlost
    by_cases hother : ∃ k, k ≠ i ∧ ∃ p ∈ t.code k, p.teardownIs Teardown.choosesOutput = true
    · -- the first thread clears `usb_mode`, and the second one closes the file
      obtain ⟨k, hki, hk⟩ := hother
      exact h.canLose_of_cleared hsolo hsession' hcleared hki hk
    · -- the thread is the only one, so a third one is about to clear `usb_mode`
      have howner : t.Owner (Instr.teardownIs Teardown.choosesOutput) (some i) := by
        intro k
        by_cases hki : k = i
        · subst hki
          rw [if_pos rfl]
          exact (h.of_choosing hi).1
        · rw [if_neg (fun he => hki (Option.some.inj he).symm), List.countP_eq_zero]
          intro p hp hq
          exact hother ⟨k, hki, p, hp, hq⟩
      have hclearing : ¬ t.Owner (Instr.teardownIs Teardown.clearsUsbMode) none :=
        fun hnone => hnot ⟨hclosing, some i, howner, fun _ => ⟨husb, hnone⟩⟩
      obtain ⟨k, hk⟩ := Owner.exists_of_not_none hclearing
      have hik : i ≠ k := by
        rintro rfl
        obtain ⟨p, hp, hq⟩ := hk
        simp [(h.of_choosing hi).2 p hp] at hq
      obtain ⟨z, hclear, hsession'', hcleared'⟩ :=
        solo_clearsUsbMode hsession (h.isPending hk) hk
      exact h.canLose_of_cleared hclear hsession'' hcleared' hik hi
  · obtain ⟨i, hi⟩ := Owner.exists_of_not_none hclosing
    obtain ⟨y, hsolo, hlost⟩ := solo_closesFile hsession (h.isPending hi) hi
    exact .of_solo hsolo hlost

theorem canLose_tty (h : Tidy t) (hsession : t.shared.flags.session = some .usbTty)
    (husb : t.shared.logger.usbMode = true) (hnot : ¬ TtySafe t) : CanLose t .usbTty := by
  by_cases hclosing : t.Owner (Instr.teardownIs Teardown.closesTty) none
  · have hchoosing : ¬ t.Owner (Instr.teardownIs Teardown.choosesOutput) none :=
      fun hnone => hnot ⟨hnone, hclosing⟩
    obtain ⟨i, hi⟩ := Owner.exists_of_not_none hchoosing
    obtain ⟨y, hsolo, hlost⟩ :=
      solo_choosesTty hsession husb (h.isPending hi) (h.of_choosing hi).2 hi
    exact .of_solo hsolo hlost
  · obtain ⟨i, hi⟩ := Owner.exists_of_not_none hclosing
    obtain ⟨y, hsolo, hlost⟩ := solo_closesTty hsession (h.isPending hi) hi
    exact .of_solo hsolo hlost

/-- After a start that went through unsafely, the new session can lose its output. -/
theorem canLose_of_not_startsSafely {p : Instr} {rest : List Instr} (h : Tidy t)
    (hcode : t.code i = p :: rest) (hnot : ¬ StartsSafely t p) :
    ∃ output, CanLose (t.perform exec i p rest) output := by
  have hnext := h.perform hcode
  cases p with
  | critical c =>
    have howner (hstop : ∀ e, c ≠ .stop e) (q : Teardown → Bool) (o : Option ι)
        (ho : (t.perform exec i (.critical c) rest).Owner (Instr.teardownIs q) o) :
        t.Owner (Instr.teardownIs q) o :=
      (Owner.perform_iff hcode rfl (execCritical_countP t.shared q c hstop)).mp ho
    cases c with
    | start reason e caller =>
      obtain ⟨hcommits, hfile⟩ := Classical.not_imp.mp hnot
      have hret := (startCommits_iff e t.shared).mp hcommits
      rcases loggerStartLocked_cases t.shared e with ⟨-, hne, -⟩ | ⟨-, hne, -⟩ | ⟨-, -, -, hflags⟩
      · exact absurd hret hne
      · exact absurd hret hne
      · refine ⟨.toFile, canLose_file hnext ?_ fun hsafe => hfile ?_⟩
        · exact congrArg Flags.session hflags
        · exact hsafe.mono (howner (by simp)) (congrArg Flags.usbMode hflags).symm
    | startUsb e =>
      obtain ⟨hcommits, htty⟩ := Classical.not_imp.mp hnot
      have hret := (startUsbCommits_iff e t.shared).mp hcommits
      rcases loggerStartUsbLocked_cases t.shared e with ⟨hne, -⟩ | ⟨-, hne, -⟩ | ⟨-, -, -, hflags⟩
      · exact absurd hret hne
      · exact absurd hret hne
      · refine ⟨.usbTty, canLose_tty hnext ?_ ?_ fun hsafe => htty ?_⟩
        · exact congrArg Flags.session hflags
        · exact congrArg Flags.usbMode hflags
        · exact hsafe.mono (howner (by simp))
    | _ => exact absurd trivial hnot
  | _ => exact absurd trivial hnot

variable (config : LoggerConfig) (usbEnabled : Bool) (version : AppVersion)
  (first second : Option ℚ) (arm : ArmEnv)

theorem tidy_run (as : List (Action ι SessionCall)) :
    Tidy (Machine.run (Threads.step SessionCall.entry exec)
      (atBoot config usbEnabled version first second arm) as).1 := by
  apply Threads.run_invariant
  · intro t i c h hidle
    exact h.setCode c
  · intro t i p rest h hcode
    exact h.perform hcode
  · intro i
    exact .inr ⟨by simp [atBoot], by simp [atBoot]⟩

/-- A session that loses its output is not kept. -/
theorem CanLose.not_along {as : List (Action ι SessionCall)} {rest : List Instr} {p : Instr}
    (hcode : (Machine.run (Threads.step SessionCall.entry exec) t as).1.code i = p :: rest)
    (hlose : CanLose ((Machine.run (Threads.step SessionCall.entry exec) t as).1.perform exec i
      p rest) output) :
    ∃ later : List ι, ¬ Machine.Along (Threads.step SessionCall.entry exec) KeepsSession t
      (as ++ .advance i :: later.map .advance) := by
  obtain ⟨later, hlost⟩ := hlose
  refine ⟨later, fun halong => ?_⟩
  have hlater := ((Machine.along_append _ _ _ _ _).mp halong).2
  have hwhole := Machine.Along.final
    (R := fun t => ∀ output, t.shared.flags.session = some output →
      t.shared.flags.outputOpen output = true)
    (fun t a h output hsession => (h.whole output hsession).2) hlater output
  have hstep : (Threads.step SessionCall.entry exec
      (Machine.run (Threads.step SessionCall.entry exec) t as).1 (.advance i)).1 =
      (Machine.run (Threads.step SessionCall.entry exec) t as).1.perform exec i p rest := by
    simp only [Threads.step, hcode]
  rw [Machine.run_cons_fst, hstep] at hwhole
  have hopen := hwhole hlost.session
  rw [hlost.closed] at hopen
  exact absurd hopen (by decide)

/-- **Exactness.** When, in any interleaving of starts and stops, a start is about to
go through although an earlier stop can still close its output, the threads can be
scheduled so that the session it begins loses its output before any stop. -/
theorem exists_not_kept (as : List (Action ι SessionCall)) {p : Instr}
    {rest : List Instr}
    (hcode : (Machine.run (Threads.step SessionCall.entry exec)
      (atBoot config usbEnabled version first second arm) as).1.code i = p :: rest)
    (hnot : ¬ StartsSafely (Machine.run (Threads.step SessionCall.entry exec)
      (atBoot config usbEnabled version first second arm) as).1 p) :
    ∃ later : List ι, ¬ Machine.Along (Threads.step SessionCall.entry exec) KeepsSession
      (atBoot config usbEnabled version first second arm)
      (as ++ .advance i :: later.map .advance) := by
  have htidy := tidy_run (ι := ι) config usbEnabled version first second arm as
  obtain ⟨output, hlose⟩ := canLose_of_not_startsSafely htidy hcode hnot
  exact hlose.not_along hcode

end Threads

end TempoBt
