-- SUMMARY: The barometer's sampling thread with its signals and callbacks: no signal is lost and each sample is delivered, over every interleaving.
import TempoBt.App.Errno
import TempoBt.Lib.Machine
import Mathlib.Data.List.Nodup
import Mathlib.Logic.Function.Basic
import Mathlib.Order.Basic

/-!
# The sampling thread

A measurement is signalled with a flag and a binary semaphore: by the work of the interrupt,
by the periodic work and by the setting of the ground reference. The thread takes the
semaphore, tests and clears the flag, reads the sensor, and hands the sample to the callbacks
that were registered when it copied them. The threads interleave between these steps.
-/

namespace TempoBt

open Errno

/-! ## Registered callbacks -/

/-- `BARO_MAX_CALLBACKS` -/
def baroMaxCallbacks : Nat := 4

/-- `callback_registry`; a slot without a callback is NULL. -/
structure CallbackRegistry (C : Type*) where
  callbacks : Nat → Option C
  count : Nat
  count_le : count ≤ baroMaxCallbacks

namespace CallbackRegistry

variable {C : Type*}

def empty : CallbackRegistry C := ⟨fun _ => none, 0, Nat.zero_le _⟩

/-- The loop that moves the callbacks from slot `i` on down, after `n` rounds. -/
def shiftDown (callbacks : Nat → Option C) (i : Nat) : Nat → Nat → Option C
  | 0 => callbacks
  | n + 1 =>
    Function.update (shiftDown callbacks i n) (i + n) (shiftDown callbacks i n (i + n + 1))

/-- The copy that the thread takes of the used slots. -/
def copy (r : CallbackRegistry C) : List (Option C) := (List.range r.count).map r.callbacks

variable [DecidableEq C]

/-- The first slot with a callback. -/
def find (r : CallbackRegistry C) (callback : C) : Option Nat :=
  (List.range r.count).find? fun i => r.callbacks i == some callback

/-- `baro_register_callback` -/
def register (callback : Option C) (r : CallbackRegistry C) : CallbackRegistry C × Int :=
  match callback with
  | none => (r, -einval)
  | some callback =>
    if (r.find callback).isSome then (r, -ealready)
    else if h : r.count < baroMaxCallbacks then
      (⟨Function.update r.callbacks r.count (some callback), r.count + 1, h⟩, 0)
    else (r, -enomem)

/-- `baro_unregister_callback` -/
def unregister (callback : Option C) (r : CallbackRegistry C) : CallbackRegistry C × Int :=
  match callback with
  | none => (r, -einval)
  | some callback =>
    match r.find callback with
    | none => (r, -enoent)
    | some i =>
      (⟨shiftDown r.callbacks i (r.count - 1 - i), r.count - 1,
        Nat.le_trans (Nat.sub_le _ _) r.count_le⟩, 0)

end CallbackRegistry

/-- The registry as it is meant: the callbacks in the order of their registration. -/
structure Registered (C : Type*) where
  callbacks : List C
  nodup : callbacks.Nodup
  length_le : callbacks.length ≤ baroMaxCallbacks

namespace Registered

variable {C : Type*}

def empty : Registered C := ⟨[], List.nodup_nil, Nat.zero_le _⟩

def copy (r : Registered C) : List (Option C) := r.callbacks.map some

theorem nodup_append {r : Registered C} {callback : C} (h : callback ∉ r.callbacks) :
    (r.callbacks ++ [callback]).Nodup :=
  List.nodup_append.mpr ⟨r.nodup, List.nodup_singleton callback, fun c hc d hd heq => by
    rw [List.mem_singleton.mp hd] at heq
    exact h (heq ▸ hc)⟩

variable [DecidableEq C]

def register (callback : Option C) (r : Registered C) : Registered C × Int :=
  match callback with
  | none => (r, -einval)
  | some callback =>
    if h : callback ∈ r.callbacks then (r, -ealready)
    else if hfree : r.callbacks.length < baroMaxCallbacks then
      (⟨r.callbacks ++ [callback], nodup_append h, by simpa using Nat.succ_le_of_lt hfree⟩, 0)
    else (r, -enomem)

def unregister (callback : Option C) (r : Registered C) : Registered C × Int :=
  match callback with
  | none => (r, -einval)
  | some callback =>
    if callback ∈ r.callbacks then
      (⟨r.callbacks.erase callback, r.nodup.erase callback,
        Nat.le_trans List.length_erase_le r.length_le⟩, 0)
    else (r, -enoent)

end Registered

namespace CallbackRegistry

variable {C : Type*} {r : CallbackRegistry C} {l : Registered C}

theorem length_copy (r : CallbackRegistry C) : r.copy.length ≤ baroMaxCallbacks := by
  rw [copy, List.length_map, List.length_range]
  exact r.count_le

/-- The used slots hold the registered callbacks in their order. -/
def Represents (r : CallbackRegistry C) (l : Registered C) : Prop := r.copy = l.copy

theorem Represents.count (h : r.Represents l) : r.count = l.callbacks.length := by
  have hlength := congrArg List.length h
  simpa [copy, Registered.copy] using hlength

theorem Represents.slot (h : r.Represents l) {i : Nat} (hi : i < r.count) :
    r.callbacks i = l.callbacks[i]? := by
  have hslot := congrArg (·[i]?) h
  have hlt : i < l.callbacks.length := h.count ▸ hi
  simpa [copy, Registered.copy, hi, hlt] using hslot

theorem represents_of_slots (hcount : r.count = l.callbacks.length)
    (hslots : ∀ i < r.count, r.callbacks i = l.callbacks[i]?) : r.Represents l := by
  apply List.ext_getElem?
  intro i
  by_cases hi : i < r.count
  · have hlt : i < l.callbacks.length := hcount ▸ hi
    have hslot := hslots i hi
    rw [List.getElem?_eq_getElem hlt] at hslot
    simp [copy, Registered.copy, hi, hlt, hslot]
  · have hlt : ¬ i < l.callbacks.length := hcount ▸ hi
    simp [copy, Registered.copy, hi, hlt]

theorem shiftDown_apply (callbacks : Nat → Option C) (i n k : Nat) :
    shiftDown callbacks i n k =
      if i ≤ k ∧ k < i + n then callbacks (k + 1) else callbacks k := by
  induction n generalizing k with
  | zero =>
    rw [shiftDown, if_neg]
    omega
  | succ n ih =>
    rw [shiftDown]
    by_cases hk : k = i + n
    · subst hk
      rw [Function.update_self, ih, if_neg (by omega), if_pos (by omega)]
    · rw [Function.update_of_ne hk, ih]
      congr 1
      simp only [eq_iff_iff]
      omega

variable [DecidableEq C]

theorem Represents.find_isSome (h : r.Represents l) (callback : C) :
    (r.find callback).isSome = true ↔ callback ∈ l.callbacks := by
  unfold find
  rw [List.find?_isSome]
  constructor
  · rintro ⟨i, hi, hslot⟩
    rw [List.mem_range] at hi
    rw [beq_iff_eq, h.slot hi] at hslot
    exact List.mem_of_getElem? hslot
  · intro hmem
    obtain ⟨i, hi, hget⟩ := List.mem_iff_getElem.mp hmem
    have hlt : i < r.count := h.count ▸ hi
    refine ⟨i, List.mem_range.mpr hlt, ?_⟩
    rw [beq_iff_eq, h.slot hlt, List.getElem?_eq_getElem hi, hget]

/-- A registration adds the callback behind the others. -/
theorem Represents.register (h : r.Represents l) (callback : Option C) :
    (r.register callback).1.Represents (l.register callback).1 ∧
      (r.register callback).2 = (l.register callback).2 := by
  unfold CallbackRegistry.register Registered.register
  cases callback with
  | none => exact ⟨h, rfl⟩
  | some callback =>
    dsimp only
    by_cases hmem : callback ∈ l.callbacks
    · rw [if_pos ((h.find_isSome callback).mpr hmem), dif_pos hmem]
      exact ⟨h, rfl⟩
    · rw [if_neg (fun hfound => hmem ((h.find_isSome callback).mp hfound)), dif_neg hmem]
      by_cases hfree : r.count < baroMaxCallbacks
      · rw [dif_pos hfree, dif_pos (h.count ▸ hfree)]
        refine ⟨represents_of_slots (by simp [h.count]) fun i hi => ?_, rfl⟩
        dsimp only at hi ⊢
        by_cases hlast : i = r.count
        · subst hlast
          rw [Function.update_self, h.count]
          simp
        · have hold : i < r.count := by omega
          rw [Function.update_of_ne hlast, h.slot hold,
            List.getElem?_append_left (h.count ▸ hold)]
      · rw [dif_neg hfree, dif_neg (h.count ▸ hfree)]
        exact ⟨h, rfl⟩

/-- A callback is taken out, and those behind it close up. -/
theorem Represents.unregister (h : r.Represents l) (callback : Option C) :
    (r.unregister callback).1.Represents (l.unregister callback).1 ∧
      (r.unregister callback).2 = (l.unregister callback).2 := by
  unfold CallbackRegistry.unregister Registered.unregister
  cases callback with
  | none => exact ⟨h, rfl⟩
  | some callback =>
    have hmem := h.find_isSome callback
    dsimp only
    cases hfind : r.find callback with
    | none =>
      rw [hfind] at hmem
      rw [if_neg fun hin => by cases hmem.mpr hin]
      exact ⟨h, rfl⟩
    | some i =>
      have hin : callback ∈ l.callbacks := hmem.mp (by rw [hfind]; rfl)
      rw [if_pos hin]
      have hi : i < r.count := List.mem_range.mp (List.mem_of_find?_eq_some hfind)
      have hlt : i < l.callbacks.length := h.count ▸ hi
      have hget : l.callbacks[i] = callback := by
        have hslot := List.find?_some hfind
        rw [beq_iff_eq, h.slot hi, List.getElem?_eq_getElem hlt] at hslot
        exact Option.some.inj hslot
      have herase : l.callbacks.erase callback = l.callbacks.eraseIdx i := by
        rw [← hget]
        exact l.nodup.erase_getElem i hlt
      refine ⟨represents_of_slots ?_ fun k hk => ?_, rfl⟩
      · dsimp only
        rw [herase, List.length_eraseIdx_of_lt hlt, h.count]
      · dsimp only at hk ⊢
        rw [herase, shiftDown_apply, List.getElem?_eraseIdx]
        by_cases hki : k < i
        · rw [if_neg (by omega), if_pos hki, h.slot (by omega)]
        · rw [if_pos (by omega), if_neg hki, h.slot (by omega)]

end CallbackRegistry

/-! ## The threads -/

/-- A registry that the threads use under its mutex. -/
structure RegistryOps (R C : Type*) where
  register : Option C → R → R × Int
  unregister : Option C → R → R × Int
  copy : R → List (Option C)

def CallbackRegistry.ops (C : Type*) [DecidableEq C] : RegistryOps (CallbackRegistry C) C :=
  ⟨register, unregister, copy⟩

def Registered.ops (C : Type*) [DecidableEq C] : RegistryOps (Registered C) C :=
  ⟨register, unregister, copy⟩

/-- Where the thread is in its loop. -/
inductive BaroThread (σ C : Type*) where
  | take
  | test
  | clear
  | read
  | copy (sample : σ)
  | store (sample : σ) (localCallbacks : List (Option C))
  | call (sample : σ) (localCallbacks : List (Option C))

/-- How many steps the thread is away from a read for which it need not wait. -/
def BaroThread.distance {σ C : Type*} : BaroThread σ C → Nat
  | .read => 1
  | .clear => 2
  | .test => 3
  | .take => 4
  | .call _ localCallbacks => localCallbacks.length + 5
  | .store _ localCallbacks => localCallbacks.length + 6
  | .copy _ => baroMaxCallbacks + 7

theorem BaroThread.distance_pos {σ C : Type*} (t : BaroThread σ C) : 0 < t.distance := by
  cases t <;> simp [distance]

/-- The shared state; the semaphore counts to one. A producer `p` that has set the flag is to
give the semaphore next. -/
structure BaroSystem (ι σ R C : Type*) where
  dataReady : Bool := false
  baroSem : Bool := false
  signalling : ι → Bool := fun _ => false
  thread : BaroThread σ C := .take
  registry : R
  lastBaroSample : Option σ := none

/-- The next step of a producer, of the thread, for which `reading` is what the sensor gives,
or of a caller. -/
inductive BaroAction (ι σ C : Type*) where
  | signal (p : ι)
  | give (p : ι)
  | thread (reading : Option σ)
  | register (callback : Option C)
  | unregister (callback : Option C)
  | getCurrentSample

def BaroAction.isThread {ι σ C : Type*} : BaroAction ι σ C → Bool
  | .thread _ => true
  | _ => false

inductive BaroOutput (σ C : Type*) where
  | quiet
  | signalled
  | read (reading : Option σ)
  | copied (sample : σ) (localCallbacks : List (Option C))
  | called (callback : C) (sample : σ)
  | returned (ret : Int)
  | sample (current : Option σ)

def BaroOutput.isRead {σ C : Type*} : BaroOutput σ C → Bool
  | .read _ => true
  | _ => false

def BaroOutput.isSignalled {σ C : Type*} : BaroOutput σ C → Bool
  | .signalled => true
  | _ => false

def BaroThread.reading {σ C : Type*} : BaroThread σ C → Nat
  | .read => 1
  | _ => 0

namespace BaroSystem

variable {ι σ R C : Type*}

section Steps

variable (ops : RegistryOps R C)

/-- The thread's next step. -/
def threadStep (s : BaroSystem ι σ R C) (reading : Option σ) :
    BaroSystem ι σ R C × BaroOutput σ C :=
  match s.thread with
  | .take =>
    if s.baroSem then ({ s with baroSem := false, thread := .test }, .quiet) else (s, .quiet)
  | .test => ({ s with thread := if s.dataReady then .clear else .take }, .quiet)
  | .clear => ({ s with dataReady := false, thread := .read }, .quiet)
  | .read => ({ s with thread := reading.elim .take .copy }, .read reading)
  | .copy sample =>
    ({ s with thread := .store sample (ops.copy s.registry) },
      .copied sample (ops.copy s.registry))
  | .store sample localCallbacks =>
    ({ s with lastBaroSample := some sample, thread := .call sample localCallbacks }, .quiet)
  | .call _ [] => ({ s with thread := .take }, .quiet)
  | .call sample (none :: rest) => ({ s with thread := .call sample rest }, .quiet)
  | .call sample (some callback :: rest) =>
    ({ s with thread := .call sample rest }, .called callback sample)

def step [DecidableEq ι] (s : BaroSystem ι σ R C) :
    BaroAction ι σ C → BaroSystem ι σ R C × BaroOutput σ C
  | .signal p =>
    if s.signalling p then (s, .quiet)
    else
      ({ s with dataReady := true, signalling := Function.update s.signalling p true }, .signalled)
  | .give p =>
    if s.signalling p then
      ({ s with baroSem := true, signalling := Function.update s.signalling p false }, .quiet)
    else (s, .quiet)
  | .thread reading => s.threadStep ops reading
  | .register callback =>
    ({ s with registry := (ops.register callback s.registry).1 },
      .returned (ops.register callback s.registry).2)
  | .unregister callback =>
    ({ s with registry := (ops.unregister callback s.registry).1 },
      .returned (ops.unregister callback s.registry).2)
  | .getCurrentSample => (s, .sample s.lastBaroSample)

end Steps

/-! ## A signal is served -/

section Signals

variable {ops : RegistryOps R C} {s : BaroSystem ι σ R C}

/-- The thread gets to a read without another signal. -/
def Owed (s : BaroSystem ι σ R C) : Prop :=
  s.thread = .read ∨
    s.dataReady = true ∧ (s.thread = .clear ∨ s.thread = .test ∨ s.baroSem = true)

theorem Owed.ready (h : s.Owed) (hthread : s.thread ≠ .read) : s.dataReady = true :=
  (h.resolve_left hthread).1

theorem Owed.given (h : s.Owed) (hthread : s.thread.distance ≥ 4) : s.baroSem = true := by
  rcases h with hread | ⟨-, hclear | htest | hgiven⟩
  · simp [hread, BaroThread.distance] at hthread
  · simp [hclear, BaroThread.distance] at hthread
  · simp [htest, BaroThread.distance] at hthread
  · exact hgiven

/-- The signals that are still to be read: the thread is about to read, or the flag is set. -/
def unread (s : BaroSystem ι σ R C) : Nat := s.thread.reading + s.dataReady.toNat

/-- Each read takes a signal away. -/
structure Paid (s : BaroSystem ι σ R C) (outputs : List (BaroOutput σ C)) : Prop where
  reads : outputs.countP BaroOutput.isRead + s.unread ≤ outputs.countP BaroOutput.isSignalled
  ready : s.thread = .clear → s.dataReady = true

/-- A step that neither signals nor reads. -/
theorem Paid.quiet {s s' : BaroSystem ι σ R C} {outputs : List (BaroOutput σ C)}
    {output : BaroOutput σ C} (h : s.Paid outputs) (hread : output.isRead = false)
    (hsignalled : output.isSignalled = false) (hunread : s'.unread ≤ s.unread)
    (hready : s'.thread = .clear → s'.dataReady = true) : s'.Paid (outputs ++ [output]) := by
  refine ⟨?_, hready⟩
  have hreads := h.reads
  simp only [List.countP_append, List.countP_singleton, hread, hsignalled]
  simp only [Bool.false_eq_true, if_false]
  omega

variable [DecidableEq ι]

/-- Each step of the thread brings it nearer to the read that is owed, and no other step
takes it further away. -/
theorem Owed.step (hcopy : ∀ r, (ops.copy r).length ≤ baroMaxCallbacks) (h : s.Owed)
    (a : BaroAction ι σ C) :
    (∃ reading, (s.step ops a).2 = .read reading) ∨
      (s.step ops a).1.Owed ∧
        (s.step ops a).1.thread.distance + (if a.isThread then 1 else 0) ≤ s.thread.distance := by
  cases a with
  | signal p =>
    right
    simp only [BaroSystem.step]
    split
    · exact ⟨h, Nat.le_refl _⟩
    · exact ⟨h.imp_right fun hready => ⟨rfl, hready.2⟩, Nat.le_refl _⟩
  | give p =>
    right
    simp only [BaroSystem.step]
    split
    · exact ⟨h.imp_right fun hready => ⟨hready.1, .inr (.inr rfl)⟩, Nat.le_refl _⟩
    · exact ⟨h, Nat.le_refl _⟩
  | register callback => exact .inr ⟨h, Nat.le_refl _⟩
  | unregister callback => exact .inr ⟨h, Nat.le_refl _⟩
  | getCurrentSample => exact .inr ⟨h, Nat.le_refl _⟩
  | thread reading =>
    simp only [BaroSystem.step, BaroAction.isThread, if_true]
    unfold threadStep
    cases hthread : s.thread with
    | read => exact .inl ⟨reading, rfl⟩
    | clear => exact .inr ⟨.inl rfl, Nat.le_refl _⟩
    | test =>
      have hready := h.ready (by rw [hthread]; exact nofun)
      right
      dsimp only
      rw [hready, if_pos rfl]
      exact ⟨.inr ⟨rfl, .inl rfl⟩, Nat.le_refl _⟩
    | take =>
      have hready := h.ready (by rw [hthread]; exact nofun)
      have hgiven := h.given (by simp [hthread, BaroThread.distance])
      right
      dsimp only
      rw [if_pos hgiven]
      exact ⟨.inr ⟨hready, .inr (.inl rfl)⟩, Nat.le_refl _⟩
    | copy sample =>
      have hready := h.ready (by rw [hthread]; exact nofun)
      have hgiven := h.given (by simp [hthread, BaroThread.distance])
      refine .inr ⟨.inr ⟨hready, .inr (.inr hgiven)⟩, ?_⟩
      have hle := hcopy s.registry
      simp only [BaroThread.distance]
      omega
    | store sample localCallbacks =>
      have hready := h.ready (by rw [hthread]; exact nofun)
      have hgiven := h.given (by simp [hthread, BaroThread.distance])
      exact .inr ⟨.inr ⟨hready, .inr (.inr hgiven)⟩, Nat.le_refl _⟩
    | call sample localCallbacks =>
      have hready := h.ready (by rw [hthread]; exact nofun)
      have hgiven := h.given (by simp [hthread, BaroThread.distance])
      rcases localCallbacks with - | ⟨- | callback, rest⟩
      · exact .inr ⟨.inr ⟨hready, .inr (.inr hgiven)⟩, Nat.le_refl _⟩
      · exact .inr ⟨.inr ⟨hready, .inr (.inr hgiven)⟩, Nat.le_refl _⟩
      · exact .inr ⟨.inr ⟨hready, .inr (.inr hgiven)⟩, Nat.le_refl _⟩

theorem Owed.run (ops : RegistryOps R C) (hcopy : ∀ r, (ops.copy r).length ≤ baroMaxCallbacks)
    (h : s.Owed) (as : List (BaroAction ι σ C))
    (hsteps : s.thread.distance ≤ as.countP BaroAction.isThread) :
    ∃ reading, .read reading ∈ (Machine.run (BaroSystem.step ops) s as).2 := by
  induction as generalizing s with
  | nil =>
    have hpos := s.thread.distance_pos
    rw [List.countP_nil] at hsteps
    omega
  | cons a as ih =>
    rcases h.step hcopy a with ⟨reading, hread⟩ | ⟨hnext, hdistance⟩
    · exact ⟨reading, hread ▸ List.mem_cons_self⟩
    · rw [List.countP_cons] at hsteps
      obtain ⟨reading, hread⟩ := ih hnext (by omega)
      exact ⟨reading, List.mem_cons_of_mem _ hread⟩

/-- A producer has set the flag, and has yet to give the semaphore. -/
def Signalling (p : ι) (s : BaroSystem ι σ R C) : Prop :=
  s.signalling p = true ∧ (s.dataReady = true ∨ s.thread = .read)

theorem Signalling.step (ops : RegistryOps R C) {p : ι} (h : s.Signalling p)
    {a : BaroAction ι σ C} (ha : a ≠ .give p) :
    (∃ reading, (s.step ops a).2 = .read reading) ∨ (s.step ops a).1.Signalling p := by
  cases a with
  | signal q =>
    right
    simp only [BaroSystem.step]
    split
    · exact h
    · rename_i hq
      have hpq : p ≠ q := fun hpq => hq (hpq ▸ h.1)
      exact ⟨(Function.update_of_ne hpq _ _).trans h.1, .inl rfl⟩
  | give q =>
    have hpq : p ≠ q := fun hpq => ha (hpq ▸ rfl)
    right
    simp only [BaroSystem.step]
    split
    · exact ⟨(Function.update_of_ne hpq _ _).trans h.1, h.2⟩
    · exact h
  | register callback => exact .inr h
  | unregister callback => exact .inr h
  | getCurrentSample => exact .inr h
  | thread reading =>
    simp only [BaroSystem.step]
    unfold threadStep
    cases hthread : s.thread with
    | read => exact .inl ⟨reading, rfl⟩
    | clear => exact .inr ⟨h.1, .inr rfl⟩
    | take =>
      have hready := h.2.resolve_right (by rw [hthread]; exact nofun)
      right
      dsimp only
      split <;> exact ⟨h.1, .inl hready⟩
    | call sample localCallbacks =>
      have hready := h.2.resolve_right (by rw [hthread]; exact nofun)
      rcases localCallbacks with - | ⟨- | callback, rest⟩ <;> exact .inr ⟨h.1, .inl hready⟩
    | test | copy | store =>
      have hready := h.2.resolve_right (by rw [hthread]; exact nofun)
      exact .inr ⟨h.1, .inl hready⟩

theorem Signalling.run (ops : RegistryOps R C) {p : ι} (h : s.Signalling p)
    {as : List (BaroAction ι σ C)} (has : .give p ∉ as) :
    (∃ reading, .read reading ∈ (Machine.run (BaroSystem.step ops) s as).2) ∨
      (Machine.run (BaroSystem.step ops) s as).1.Signalling p := by
  induction as generalizing s with
  | nil => exact .inr h
  | cons a as ih =>
    rw [List.mem_cons, not_or] at has
    rcases h.step ops (Ne.symm has.1) with ⟨reading, hread⟩ | hnext
    · exact .inl ⟨reading, hread ▸ List.mem_cons_self⟩
    · rcases ih hnext has.2 with ⟨reading, hread⟩ | hlast
      · exact .inl ⟨reading, List.mem_cons_of_mem _ hread⟩
      · exact .inr hlast

/-- The semaphore is given while the flag is set, or just after the thread has cleared it. -/
theorem Signalling.give (ops : RegistryOps R C) {p : ι} (h : s.Signalling p) :
    (s.step ops (.give p)).1.Owed := by
  simp only [BaroSystem.step, if_pos h.1]
  rcases h.2 with hready | hread
  · exact .inr ⟨hready, .inr (.inr rfl)⟩
  · exact .inl hread

/-- The callbacks that are to be called fit into the thread's copy. -/
def Fits (s : BaroSystem ι σ R C) : Prop := s.thread.distance ≤ baroMaxCallbacks + 7

theorem Fits.step (hcopy : ∀ r, (ops.copy r).length ≤ baroMaxCallbacks) (h : s.Fits)
    (a : BaroAction ι σ C) : (s.step ops a).1.Fits := by
  unfold Fits at *
  cases a with
  | signal p | give p =>
    simp only [BaroSystem.step]
    split <;> exact h
  | register callback => exact h
  | unregister callback => exact h
  | getCurrentSample => exact h
  | thread reading =>
    simp only [BaroSystem.step]
    unfold threadStep
    cases hthread : s.thread with
    | read => cases reading <;> simp [BaroThread.distance]
    | clear => simp [BaroThread.distance]
    | test =>
      dsimp only
      split <;> simp [BaroThread.distance]
    | take =>
      dsimp only
      split
      · simp [BaroThread.distance]
      · exact h
    | copy sample =>
      have hle := hcopy s.registry
      simp only [BaroThread.distance]
      omega
    | store sample localCallbacks =>
      rw [hthread] at h
      simp only [BaroThread.distance] at h ⊢
      omega
    | call sample localCallbacks =>
      rw [hthread] at h
      rcases localCallbacks with - | ⟨- | callback, rest⟩
      · simp [BaroThread.distance]
      · simp only [BaroThread.distance, List.length_cons] at h ⊢
        omega
      · simp only [BaroThread.distance, List.length_cons] at h ⊢
        omega

theorem Paid.step (ops : RegistryOps R C) {outputs : List (BaroOutput σ C)}
    (h : s.Paid outputs) (a : BaroAction ι σ C) :
    (s.step ops a).1.Paid (outputs ++ [(s.step ops a).2]) := by
  cases a with
  | signal p =>
    simp only [BaroSystem.step]
    split
    · exact h.quiet rfl rfl (Nat.le_refl _) h.ready
    · refine ⟨?_, fun _ => rfl⟩
      have hreads := h.reads
      have hflag : s.dataReady.toNat ≤ 1 := Bool.toNat_le _
      simp only [List.countP_append, List.countP_singleton, BaroOutput.isRead,
        BaroOutput.isSignalled, unread, Bool.toNat_true, if_true, Bool.false_eq_true,
        if_false] at hreads ⊢
      omega
  | give p =>
    simp only [BaroSystem.step]
    split <;> exact h.quiet rfl rfl (Nat.le_refl _) h.ready
  | register callback => exact h.quiet rfl rfl (Nat.le_refl _) h.ready
  | unregister callback => exact h.quiet rfl rfl (Nat.le_refl _) h.ready
  | getCurrentSample => exact h.quiet rfl rfl (Nat.le_refl _) h.ready
  | thread reading =>
    simp only [BaroSystem.step]
    unfold threadStep
    cases hthread : s.thread with
    | read =>
      have hreads := h.reads
      refine ⟨?_, fun hclear => by cases reading <;> cases hclear⟩
      cases reading <;>
        simp only [List.countP_append, List.countP_singleton, BaroOutput.isRead,
          BaroOutput.isSignalled, unread, hthread, if_true, Bool.false_eq_true, if_false,
          BaroThread.reading, Option.elim] at hreads ⊢ <;>
        omega
    | clear =>
      -- the flag that is taken away is the read that comes
      refine h.quiet rfl rfl ?_ nofun
      simp [unread, hthread, BaroThread.reading, h.ready hthread]
    | test =>
      dsimp only
      split
      · rename_i hready
        exact h.quiet rfl rfl (by simp [unread, hthread, BaroThread.reading]) fun _ => hready
      · exact h.quiet rfl rfl (by simp [unread, hthread, BaroThread.reading]) nofun
    | take =>
      dsimp only
      split
      · exact h.quiet rfl rfl (by simp [unread, hthread, BaroThread.reading]) nofun
      · exact h.quiet rfl rfl (Nat.le_refl _) h.ready
    | copy sample => exact h.quiet rfl rfl (by simp [unread, hthread, BaroThread.reading]) nofun
    | store sample localCallbacks =>
      exact h.quiet rfl rfl (by simp [unread, hthread, BaroThread.reading]) nofun
    | call sample localCallbacks =>
      rcases localCallbacks with - | ⟨- | callback, rest⟩ <;>
        exact h.quiet rfl rfl (by simp [unread, hthread, BaroThread.reading]) nofun

end Signals

/-! ## A sample is delivered -/

section Samples

/-- The samples that a callback is called with. -/
def called [DecidableEq C] (callback : C) (outputs : List (BaroOutput σ C)) : List σ :=
  outputs.filterMap fun
    | .called c sample => if c = callback then some sample else none
    | _ => none

/-- The samples for which a callback is in the thread's copy. -/
def due [DecidableEq C] (callback : C) (outputs : List (BaroOutput σ C)) : List σ :=
  outputs.filterMap fun
    | .copied sample localCallbacks => if some callback ∈ localCallbacks then some sample else none
    | _ => none

/-- The samples that the thread has copied the callbacks for. -/
def copied (outputs : List (BaroOutput σ C)) : List σ :=
  outputs.filterMap fun
    | .copied sample _ => some sample
    | _ => none

/-- What the sensor has given. -/
def readings (outputs : List (BaroOutput σ C)) : List σ :=
  outputs.filterMap fun
    | .read reading => reading
    | _ => none

theorem called_append [DecidableEq C] (callback : C) (l l' : List (BaroOutput σ C)) :
    called callback (l ++ l') = called callback l ++ called callback l' :=
  List.filterMap_append

theorem due_append [DecidableEq C] (callback : C) (l l' : List (BaroOutput σ C)) :
    due callback (l ++ l') = due callback l ++ due callback l' :=
  List.filterMap_append

theorem copied_append (l l' : List (BaroOutput σ C)) : copied (l ++ l') = copied l ++ copied l' :=
  List.filterMap_append

theorem readings_append (l l' : List (BaroOutput σ C)) :
    readings (l ++ l') = readings l ++ readings l' :=
  List.filterMap_append

/-- The sample that the thread has yet to call a callback with. -/
def outstanding [DecidableEq C] (callback : C) : BaroThread σ C → List σ
  | .store sample localCallbacks | .call sample localCallbacks =>
    if some callback ∈ localCallbacks then [sample] else []
  | _ => []

/-- The sample that the thread has yet to copy the callbacks for. -/
def uncopied : BaroThread σ C → List σ
  | .copy sample => [sample]
  | _ => []

/-- The callbacks that the thread has yet to call differ, and the latest sample is theirs. -/
def Calls (s : BaroSystem ι σ R C) : Prop :=
  match s.thread with
  | .store _ localCallbacks => localCallbacks.Nodup
  | .call sample localCallbacks => localCallbacks.Nodup ∧ s.lastBaroSample = some sample
  | _ => True

variable [DecidableEq C] {ops : RegistryOps R C} {s : BaroSystem ι σ R C}

/-- Every sample that was read is delivered, or on its way. -/
structure Delivers (s : BaroSystem ι σ R C) (outputs : List (BaroOutput σ C)) : Prop where
  calls : s.Calls
  delivered : ∀ callback,
    due callback outputs = called callback outputs ++ outstanding callback s.thread
  read : readings outputs = copied outputs ++ uncopied s.thread

/-- An output with which no sample moves. -/
structure Silent (output : BaroOutput σ C) : Prop where
  called : ∀ callback, called callback [output] = []
  due : ∀ callback, due callback [output] = []
  copied : copied [output] = []
  readings : readings [output] = []

theorem Delivers.silent {s' : BaroSystem ι σ R C} {outputs : List (BaroOutput σ C)}
    {output : BaroOutput σ C} (h : s.Delivers outputs) (hsilent : Silent output)
    (hcalls : s'.Calls)
    (hout : ∀ callback, outstanding callback s'.thread = outstanding callback s.thread)
    (huncopied : uncopied s'.thread = uncopied s.thread) :
    s'.Delivers (outputs ++ [output]) where
  calls := hcalls
  delivered callback := by
    rw [due_append, called_append, hsilent.due, hsilent.called, hout, List.append_nil,
      List.append_nil]
    exact h.delivered callback
  read := by
    rw [readings_append, copied_append, hsilent.readings, hsilent.copied, huncopied,
      List.append_nil, List.append_nil]
    exact h.read

theorem Delivers.threadStep (hnodup : ∀ r, (ops.copy r).Nodup)
    {outputs : List (BaroOutput σ C)} (h : s.Delivers outputs) (reading : Option σ) :
    (s.threadStep ops reading).1.Delivers (outputs ++ [(s.threadStep ops reading).2]) := by
  obtain ⟨hcalls, hdue, hreadings⟩ := id h
  unfold BaroSystem.threadStep
  unfold Calls at hcalls
  cases hthread : s.thread with
  | take =>
    dsimp only
    split
    · exact h.silent ⟨fun _ => rfl, fun _ => rfl, rfl, rfl⟩ trivial (by simp [hthread, outstanding])
        (by simp [hthread, uncopied])
    · exact h.silent ⟨fun _ => rfl, fun _ => rfl, rfl, rfl⟩ h.calls (fun _ => rfl) rfl
  | test =>
    dsimp only
    split <;> exact h.silent ⟨fun _ => rfl, fun _ => rfl, rfl, rfl⟩ trivial
      (by simp [hthread, outstanding]) (by simp [hthread, uncopied])
  | clear =>
    exact h.silent ⟨fun _ => rfl, fun _ => rfl, rfl, rfl⟩ trivial (by simp [hthread, outstanding])
        (by simp [hthread, uncopied])
  | read =>
    rw [hthread] at hdue hreadings
    cases reading with
    | none =>
      exact h.silent ⟨fun _ => rfl, fun _ => rfl, rfl, rfl⟩ trivial
        (by simp [hthread, outstanding]) (by simp [hthread, uncopied])
    | some sample =>
      refine ⟨trivial, fun callback => ?_, ?_⟩
      · rw [due_append, called_append, hdue]
        simp [due, called, outstanding]
      · rw [readings_append, copied_append, hreadings]
        simp [readings, copied, uncopied]
  | copy sample =>
    rw [hthread] at hdue hreadings
    refine ⟨hnodup s.registry, fun callback => ?_, ?_⟩
    · rw [due_append, called_append, hdue]
      simp only [due, called, outstanding, List.filterMap_cons, List.filterMap_nil]
      split <;> simp_all
    · rw [readings_append, copied_append, hreadings]
      simp [readings, copied, uncopied]
  | store sample localCallbacks =>
    rw [hthread] at hcalls
    exact h.silent ⟨fun _ => rfl, fun _ => rfl, rfl, rfl⟩ ⟨hcalls, rfl⟩
      (by simp [hthread, outstanding]) (by simp [hthread, uncopied])
  | call sample localCallbacks =>
    rw [hthread] at hcalls hdue hreadings
    obtain ⟨hdistinct, hlast⟩ := hcalls
    rcases localCallbacks with - | ⟨- | c, rest⟩
    · exact h.silent ⟨fun _ => rfl, fun _ => rfl, rfl, rfl⟩ trivial
        (by simp [hthread, outstanding]) (by simp [hthread, uncopied])
    · exact h.silent ⟨fun _ => rfl, fun _ => rfl, rfl, rfl⟩ ⟨hdistinct.of_cons, hlast⟩
        (by simp [hthread, outstanding]) (by simp [hthread, uncopied])
    · refine ⟨⟨hdistinct.of_cons, hlast⟩, fun callback => ?_, ?_⟩
      · rw [due_append, called_append, hdue]
        by_cases hc : c = callback
        · -- a callback that is called is in the copy only once
          subst hc
          have hnot : some c ∉ rest := (List.nodup_cons.mp hdistinct).1
          simp [due, called, outstanding, hnot]
        · have hne : ¬ callback = c := fun heq => hc heq.symm
          simp [due, called, outstanding, hc, hne]
      · rw [readings_append, copied_append, hreadings]
        simp [readings, copied, uncopied]

theorem Delivers.step [DecidableEq ι] (ops : RegistryOps R C)
    (hnodup : ∀ r, (ops.copy r).Nodup) {outputs : List (BaroOutput σ C)}
    (h : s.Delivers outputs) (a : BaroAction ι σ C) :
    (s.step ops a).1.Delivers (outputs ++ [(s.step ops a).2]) := by
  cases a with
  | signal p | give p =>
    simp only [BaroSystem.step]
    split <;> exact h.silent ⟨fun _ => rfl, fun _ => rfl, rfl, rfl⟩ h.calls (fun _ => rfl) rfl
  | register callback =>
    exact h.silent ⟨fun _ => rfl, fun _ => rfl, rfl, rfl⟩ h.calls (fun _ => rfl) rfl
  | unregister callback =>
    exact h.silent ⟨fun _ => rfl, fun _ => rfl, rfl, rfl⟩ h.calls (fun _ => rfl) rfl
  | getCurrentSample =>
    exact h.silent ⟨fun _ => rfl, fun _ => rfl, rfl, rfl⟩ h.calls (fun _ => rfl) rfl
  | thread reading => exact h.threadStep hnodup reading

/-! ### The array and the list -/

/-- The same system with the array and with the list of the callbacks. -/
structure Simulates (s : BaroSystem ι σ (CallbackRegistry C) C)
    (t : BaroSystem ι σ (Registered C) C) : Prop where
  registry : s.registry.Represents t.registry
  dataReady : s.dataReady = t.dataReady
  baroSem : s.baroSem = t.baroSem
  signalling : s.signalling = t.signalling
  thread : s.thread = t.thread
  lastBaroSample : s.lastBaroSample = t.lastBaroSample

theorem Simulates.step [DecidableEq ι] {s : BaroSystem ι σ (CallbackRegistry C) C}
    {t : BaroSystem ι σ (Registered C) C} (h : s.Simulates t) (a : BaroAction ι σ C) :
    (s.step (CallbackRegistry.ops C) a).1.Simulates (t.step (Registered.ops C) a).1 ∧
      (s.step (CallbackRegistry.ops C) a).2 = (t.step (Registered.ops C) a).2 := by
  obtain ⟨ready, sem, signalling, thread, registry, last⟩ := s
  obtain ⟨ready', sem', signalling', thread', registered, last'⟩ := t
  obtain ⟨hregistry, hready, hsem, hsignalling, hthread, hlast⟩ := h
  dsimp only at hregistry hready hsem hsignalling hthread hlast
  subst hready hsem hsignalling hthread hlast
  have hcopy : (CallbackRegistry.ops C).copy registry = (Registered.ops C).copy registered :=
    hregistry
  cases a with
  | signal p | give p =>
    simp only [BaroSystem.step]
    split <;> exact ⟨⟨hregistry, rfl, rfl, rfl, rfl, rfl⟩, rfl⟩
  | register callback =>
    obtain ⟨hnext, hret⟩ := hregistry.register callback
    exact ⟨⟨hnext, rfl, rfl, rfl, rfl, rfl⟩, congrArg _ hret⟩
  | unregister callback =>
    obtain ⟨hnext, hret⟩ := hregistry.unregister callback
    exact ⟨⟨hnext, rfl, rfl, rfl, rfl, rfl⟩, congrArg _ hret⟩
  | getCurrentSample => exact ⟨⟨hregistry, rfl, rfl, rfl, rfl, rfl⟩, rfl⟩
  | thread reading =>
    simp only [BaroSystem.step]
    unfold BaroSystem.threadStep
    cases thread with
    | take =>
      dsimp only
      split <;> exact ⟨⟨hregistry, rfl, rfl, rfl, rfl, rfl⟩, rfl⟩
    | copy sample =>
      dsimp only
      rw [hcopy]
      exact ⟨⟨hregistry, rfl, rfl, rfl, rfl, rfl⟩, rfl⟩
    | call sample localCallbacks =>
      rcases localCallbacks with - | ⟨- | callback, rest⟩ <;>
        exact ⟨⟨hregistry, rfl, rfl, rfl, rfl, rfl⟩, rfl⟩
    | test | clear | read | store => exact ⟨⟨hregistry, rfl, rfl, rfl, rfl, rfl⟩, rfl⟩

theorem Simulates.run [DecidableEq ι] {s : BaroSystem ι σ (CallbackRegistry C) C}
    {t : BaroSystem ι σ (Registered C) C} (h : s.Simulates t) (as : List (BaroAction ι σ C)) :
    (Machine.run (BaroSystem.step (CallbackRegistry.ops C)) s as).1.Simulates
        (Machine.run (BaroSystem.step (Registered.ops C)) t as).1 ∧
      (Machine.run (BaroSystem.step (CallbackRegistry.ops C)) s as).2 =
        (Machine.run (BaroSystem.step (Registered.ops C)) t as).2 := by
  induction as generalizing s t with
  | nil => exact ⟨h, rfl⟩
  | cons a as ih =>
    obtain ⟨hnext, hout⟩ := h.step a
    obtain ⟨hlast, houts⟩ := ih hnext
    exact ⟨hlast, congrArg₂ List.cons hout houts⟩

end Samples

end BaroSystem

/-! ## Every interleaving -/

section Runs

open BaroSystem

variable {ι σ C : Type*} [DecidableEq ι] [DecidableEq C]

/-- What happens from the start of the thread on. -/
def baroRun (as : List (BaroAction ι σ C)) :
    BaroSystem ι σ (CallbackRegistry C) C × List (BaroOutput σ C) :=
  Machine.run (step (CallbackRegistry.ops C)) { registry := .empty } as

/-- The same with the registry as it is meant. -/
def baroSpec (as : List (BaroAction ι σ C)) :
    BaroSystem ι σ (Registered C) C × List (BaroOutput σ C) :=
  Machine.run (step (Registered.ops C)) { registry := .empty } as

theorem baroRun_append (as bs : List (BaroAction ι σ C)) :
    baroRun (as ++ bs) =
      ((Machine.run (step (CallbackRegistry.ops C)) (baroRun as).1 bs).1,
        (baroRun as).2 ++ (Machine.run (step (CallbackRegistry.ops C)) (baroRun as).1 bs).2) :=
  Machine.run_append _ _ as bs

/-- No signal is lost: in every interleaving, the sensor is read after a producer has set the
flag, at the latest in the eleventh step that the thread does after the producer has given the
semaphore. -/
theorem baro_signal_served (before mid after : List (BaroAction ι σ C)) (p : ι)
    (hidle : (baroRun before).1.signalling p = false) (hmid : .give p ∉ mid)
    (hsteps : 11 ≤ after.countP BaroAction.isThread) :
    ∃ reading, .read reading ∈ (Machine.run (step (CallbackRegistry.ops C))
      (baroRun (before ++ [.signal p])).1 (mid ++ .give p :: after)).2 := by
  have hsignal : (baroRun (before ++ [.signal p])).1.Signalling p := by
    rw [baroRun_append, Machine.run_cons_fst, Machine.run_nil, step, hidle]
    exact ⟨by simp, .inl rfl⟩
  rw [Machine.run_append]
  rcases hsignal.run (CallbackRegistry.ops C) hmid with ⟨reading, hread⟩ | hgive
  · exact ⟨reading, List.mem_append_left _ hread⟩
  · have hfits : ((baroRun (before ++ [.signal p] ++ mid ++ [.give p])).1).Fits :=
      Machine.run_invariant (I := Fits) (fun s a h => h.step CallbackRegistry.length_copy a)
        (show Fits { registry := CallbackRegistry.empty } by simp [Fits, BaroThread.distance]) _
    rw [baroRun_append _ [.give p], baroRun_append _ mid] at hfits
    obtain ⟨reading, hread⟩ := (hgive.give (CallbackRegistry.ops C)).run
      (CallbackRegistry.ops C) CallbackRegistry.length_copy after (Nat.le_trans hfits hsteps)
    exact ⟨reading, List.mem_append_right _ (List.mem_cons_of_mem _ hread)⟩

/-- A signal of the periodic work while the thread waits. -/
theorem baro_signal_served_waiting :
    ∃ reading, .read reading ∈ (Machine.run (step (CallbackRegistry.ops Nat))
      (baroRun ([] ++ [.signal ()])).1 ([.thread none] ++ .give () ::
        List.replicate 11 (.thread (some 101325)))).2 :=
  baro_signal_served [] [.thread none] (List.replicate 11 (.thread (some 101325))) () rfl
    (by simp) (by decide)

/-- **What the callbacks get**: in every interleaving with registrations and signals, the array
of the callbacks behaves like the list of them in the order of registration. There are no more
reads than signals; of the samples that were read, each is delivered, in their order and once,
to every callback that was registered when the thread copied the callbacks, but for the one
sample that is on its way; and the latest sample is the one that the callbacks get. -/
theorem baro_delivers (as : List (BaroAction ι σ C)) :
    (baroRun as).2 = (baroSpec as).2 ∧
      (baroRun as).2.countP BaroOutput.isRead ≤ (baroRun as).2.countP BaroOutput.isSignalled ∧
      readings (baroRun as).2 = copied (baroRun as).2 ++ uncopied (baroRun as).1.thread ∧
      (∀ callback, due callback (baroRun as).2 =
        called callback (baroRun as).2 ++ outstanding callback (baroRun as).1.thread) ∧
      (∀ sample localCallbacks, (baroRun as).1.thread = .call sample localCallbacks →
        (baroRun as).1.lastBaroSample = some sample) := by
  have hempty : Simulates (ι := ι) (σ := σ) (C := C) { registry := .empty }
      { registry := .empty } := ⟨rfl, rfl, rfl, rfl, rfl, rfl⟩
  obtain ⟨hsimulates, hout⟩ := hempty.run as
  have hpaid := Machine.run_history (I := Paid)
    (fun _ a _ hs => hs.step (CallbackRegistry.ops C) a) as (s := { registry := .empty }) (h := [])
      (show Paid (ι := ι) _ _ from ⟨by simp [unread, BaroThread.reading], nofun⟩)
  have hnodup (l : Registered C) : l.copy.Nodup :=
    l.nodup.map fun _ _ => Option.some.inj
  have hdelivers := Machine.run_history (I := Delivers)
    (fun _ a _ hs => hs.step (Registered.ops C) hnodup a) as (s := { registry := .empty }) (h := [])
      (show Delivers (ι := ι) _ _ from ⟨trivial, fun _ => rfl, rfl⟩)
  rw [List.nil_append] at hpaid hdelivers
  refine ⟨hout, Nat.le_trans (Nat.le_add_right _ _) hpaid.reads, ?_, fun callback => ?_,
    fun sample localCallbacks hthread => ?_⟩
  · rw [baroRun, hout, hsimulates.thread]
    exact hdelivers.read
  · rw [baroRun, hout, hsimulates.thread]
    exact hdelivers.delivered callback
  · have hcalls := hdelivers.calls
    have hthread' := hsimulates.thread.symm.trans hthread
    unfold Calls at hcalls
    rw [hthread'] at hcalls
    exact hsimulates.lastBaroSample.trans hcalls.2

end Runs

end TempoBt
