-- SUMMARY: Machines with outputs: runs over input sequences, properties of every transition, and the invariant rules.
import Mathlib.Data.List.Basic
import Mathlib.Logic.Relation

/-!
# Machines

A machine is a step function that consumes one input and yields the next state
and one output. Nondeterminism (an interleaving, a failing device) is part of
the input. A run folds the step over a sequence of inputs.
-/

namespace Machine

variable {S A O : Type*} (step : S → A → S × O)

/-- Run a machine over `as`: the final state, and the outputs in order. -/
def run : S → List A → S × List O
  | s, [] => (s, [])
  | s, a :: as => ((run (step s a).1 as).1, (step s a).2 :: (run (step s a).1 as).2)

/-- `Q` holds of every transition of the run of `as` from `s`. -/
def Along (Q : S → A → S → Prop) : S → List A → Prop
  | _, [] => True
  | s, a :: as => Q s a (step s a).1 ∧ Along Q (step s a).1 as

/-- Every input of the run meets `G` in the state where it is consumed. -/
abbrev Guarded (G : S → A → Prop) : S → List A → Prop :=
  Along step (fun s a _ => G s a)

/-- `P` holds in every state of the run, the first and the last included. -/
def Always (P : S → Prop) (s : S) (as : List A) : Prop :=
  P s ∧ Along step (fun _ _ s' => P s') s as

@[simp] theorem run_nil (s : S) : run step s [] = (s, []) := rfl

theorem run_cons (s : S) (a : A) (as : List A) :
    run step s (a :: as) =
      ((run step (step s a).1 as).1, (step s a).2 :: (run step (step s a).1 as).2) := rfl

@[simp] theorem run_cons_fst (s : S) (a : A) (as : List A) :
    (run step s (a :: as)).1 = (run step (step s a).1 as).1 := rfl

theorem run_append (s : S) (as bs : List A) :
    run step s (as ++ bs) =
      ((run step (run step s as).1 bs).1,
        (run step s as).2 ++ (run step (run step s as).1 bs).2) := by
  induction as generalizing s with
  | nil => rfl
  | cons a as ih => simp [run_cons, ih]

@[simp] theorem along_nil (Q : S → A → S → Prop) (s : S) : Along step Q s [] := trivial

@[simp] theorem along_cons (Q : S → A → S → Prop) (s : S) (a : A) (as : List A) :
    Along step Q s (a :: as) ↔ Q s a (step s a).1 ∧ Along step Q (step s a).1 as := Iff.rfl

theorem along_append (Q : S → A → S → Prop) (s : S) (as bs : List A) :
    Along step Q s (as ++ bs) ↔
      Along step Q s as ∧ Along step Q (run step s as).1 bs := by
  induction as generalizing s with
  | nil => simp
  | cons a as ih => simp [ih, and_assoc]

instance decidableAlong (Q : S → A → S → Prop) [∀ s a s', Decidable (Q s a s')] :
    (s : S) → (as : List A) → Decidable (Along step Q s as)
  | _, [] => .isTrue trivial
  | s, a :: as =>
    have := decidableAlong Q (step s a).1 as
    inferInstanceAs (Decidable (Q s a (step s a).1 ∧ Along step Q (step s a).1 as))

theorem guarded_append (G : S → A → Prop) (s : S) (as bs : List A) :
    Guarded step G s (as ++ bs) ↔ Guarded step G s as ∧ Guarded step G (run step s as).1 bs :=
  along_append step _ s as bs

variable {step}

/-- Inputs that meet the guard in every state make a guarded run. -/
theorem Guarded.of_forall {G : S → A → Prop} {as : List A} (h : ∀ a ∈ as, ∀ s, G s a) (s : S) :
    Guarded step G s as := by
  induction as generalizing s with
  | nil => trivial
  | cons a as ih =>
    exact ⟨h a (by simp) s, ih (fun b hb => h b (List.mem_cons_of_mem a hb)) _⟩

/-- An invariant kept by every guarded input holds after every guarded run. -/
theorem Guarded.invariant {G : S → A → Prop} {I : S → Prop}
    (hstep : ∀ s a, I s → G s a → I (step s a).1) {s : S} {as : List A} (hs : I s)
    (has : Guarded step G s as) : I (run step s as).1 := by
  induction as generalizing s with
  | nil => exact hs
  | cons a as ih => exact ih (hstep s a hs has.1) has.2

/-- An invariant kept by every input holds after every run. -/
theorem run_invariant {I : S → Prop} (hstep : ∀ s a, I s → I (step s a).1)
    {s : S} (hs : I s) (as : List A) : I (run step s as).1 :=
  Guarded.invariant (G := fun _ _ => True) (fun s a h _ => hstep s a h) hs
    (Guarded.of_forall (fun _ _ _ => trivial) s)

/-- Under an invariant, a transition property that follows from the guard holds
along every guarded run. -/
theorem Guarded.along {G : S → A → Prop} {I : S → Prop} {Q : S → A → S → Prop}
    (hstep : ∀ s a, I s → G s a → I (step s a).1)
    (hQ : ∀ s a, I s → G s a → Q s a (step s a).1) {s : S} {as : List A}
    (hs : I s) (has : Guarded step G s as) : Along step Q s as := by
  induction as generalizing s with
  | nil => trivial
  | cons a as ih => exact ⟨hQ s a hs has.1, ih (hstep s a hs has.1) has.2⟩

/-- A property of the transitions of the machine that implies another one. -/
theorem Along.mono {Q Q' : S → A → S → Prop}
    (h : ∀ s a, Q s a (step s a).1 → Q' s a (step s a).1) {s : S} {as : List A}
    (has : Along step Q s as) : Along step Q' s as := by
  induction as generalizing s with
  | nil => trivial
  | cons a as ih => exact ⟨h _ _ has.1, ih has.2⟩

theorem along_and {Q Q' : S → A → S → Prop} {s : S} {as : List A} :
    Along step (fun s a s' => Q s a s' ∧ Q' s a s') s as ↔
      Along step Q s as ∧ Along step Q' s as := by
  induction as generalizing s with
  | nil => simp
  | cons a as ih => simp only [along_cons, ih, and_assoc, and_left_comm]

/-- What every transition establishes holds after a run of at least one. -/
theorem Along.final {Q : S → A → S → Prop} {R : S → Prop}
    (h : ∀ s a, Q s a (step s a).1 → R (step s a).1) {s : S} {a : A} {as : List A}
    (has : Along step Q s (a :: as)) : R (run step s (a :: as)).1 := by
  induction as generalizing s a with
  | nil => exact h s a has.1
  | cons b as ih => exact ih has.2

/-- Along the transitions that satisfy `R`: a guard that keeps an invariant, and that
the transition property needs there, describes exactly the runs along which the
property holds. -/
theorem along_iff_guarded_of {R Q : S → A → S → Prop} {G : S → A → Prop} {I : S → Prop}
    (hstep : ∀ s a, I s → R s a (step s a).1 → G s a → I (step s a).1)
    (hQ : ∀ s a, I s → R s a (step s a).1 → G s a → Q s a (step s a).1)
    (hbreak : ∀ s a, I s → R s a (step s a).1 → ¬ G s a → ¬ Q s a (step s a).1) {s : S}
    (hs : I s) {as : List A} (hR : Along step R s as) :
    Along step Q s as ↔ Guarded step G s as := by
  induction as generalizing s with
  | nil => exact Iff.rfl
  | cons a as ih =>
    constructor
    · intro hall
      have ha : G s a := by
        by_contra ha
        exact hbreak s a hs hR.1 ha hall.1
      exact ⟨ha, (ih (hstep s a hs hR.1 ha) hR.2).mp hall.2⟩
    · intro hguarded
      have ha := hguarded.1
      exact ⟨hQ s a hs hR.1 ha, (ih (hstep s a hs hR.1 ha) hR.2).mpr hguarded.2⟩

/-- A guard that keeps an invariant, and that the transition property needs there,
describes exactly the runs along which the property holds. -/
theorem along_iff_guarded {G : S → A → Prop} {I : S → Prop} {Q : S → A → S → Prop}
    (hstep : ∀ s a, I s → G s a → I (step s a).1)
    (hQ : ∀ s a, I s → G s a → Q s a (step s a).1)
    (hbreak : ∀ s a, I s → ¬ G s a → ¬ Q s a (step s a).1) {s : S} (hs : I s) (as : List A) :
    Along step Q s as ↔ Guarded step G s as := by
  apply along_iff_guarded_of (R := fun _ _ _ => True) (I := I)
  · exact fun s a hi _ hg => hstep s a hi hg
  · exact fun s a hi _ hg => hQ s a hi hg
  · exact fun s a hi _ hg => hbreak s a hi hg
  · exact hs
  · exact Guarded.of_forall (fun _ _ _ => trivial) s

/-- A guard without which one step breaks `P` describes exactly the runs in whose
every state `P` holds. -/
theorem always_iff_guarded {G : S → A → Prop} {I P : S → Prop}
    (hstep : ∀ s a, I s → G s a → I (step s a).1) (hP : ∀ s, I s → P s)
    (hbreak : ∀ s a, I s → ¬ G s a → ¬ P (step s a).1) {s : S} (hs : I s) (as : List A) :
    Always step P s as ↔ Guarded step G s as := by
  have halong := along_iff_guarded (Q := fun _ _ s' => P s') hstep
    (fun s a hi hg => hP _ (hstep s a hi hg)) hbreak hs as
  exact ⟨fun h => halong.mp h.2, fun h => ⟨hP s hs, halong.mpr h⟩⟩

/-- Every output of a guarded run satisfies `P` when each step's output does under
the invariant. -/
theorem Guarded.outputs {G : S → A → Prop} {I : S → Prop} {P : O → Prop}
    (hstep : ∀ s a, I s → G s a → I (step s a).1)
    (hout : ∀ s a, I s → G s a → P (step s a).2) {s : S} {as : List A} (hs : I s)
    (has : Guarded step G s as) : ∀ o ∈ (run step s as).2, P o := by
  induction as generalizing s with
  | nil => simp
  | cons a as ih =>
    intro o ho
    rcases List.mem_cons.mp ho with rfl | ho
    · exact hout s a hs has.1
    · exact ih (hstep s a hs has.1) has.2 o ho

/-- Every output of a run satisfies `P` when each step's output does under the
invariant. -/
theorem run_outputs {I : S → Prop} {P : O → Prop}
    (hstep : ∀ s a, I s → I (step s a).1) (hout : ∀ s a, I s → P (step s a).2)
    {s : S} (hs : I s) (as : List A) : ∀ o ∈ (run step s as).2, P o :=
  Guarded.outputs (G := fun _ _ => True) (fun s a h _ => hstep s a h) (fun s a h _ => hout s a h) hs
    (Guarded.of_forall (fun _ _ _ => trivial) s)

/-- A guarded machine whose every step is matched by steps of an abstract machine
is matched by it along every run. -/
theorem Guarded.simulation {T : Type*} {G : S → A → Prop} {R : S → T → Prop}
    {N : T → T → Prop}
    (hstep : ∀ s a t, R s t → G s a → ∃ t', Relation.ReflTransGen N t t' ∧ R (step s a).1 t')
    {s : S} {t : T} {as : List A} (hs : R s t) (has : Guarded step G s as) :
    ∃ t', Relation.ReflTransGen N t t' ∧ R (run step s as).1 t' := by
  induction as generalizing s t with
  | nil => exact ⟨t, .refl, hs⟩
  | cons a as ih =>
    obtain ⟨t', hnext, ht'⟩ := hstep s a t hs has.1
    obtain ⟨t'', hrest, ht''⟩ := ih ht' has.2
    exact ⟨t'', hnext.trans hrest, ht''⟩

/-- A relation between the state and the outputs so far, kept by every guarded
input, holds after every guarded run. -/
theorem Guarded.history {G : S → A → Prop} {I : S → List O → Prop}
    (hstep : ∀ s a h, I s h → G s a → I (step s a).1 (h ++ [(step s a).2]))
    {s : S} {as : List A} {h : List O} (hs : I s h) (has : Guarded step G s as) :
    I (run step s as).1 (h ++ (run step s as).2) := by
  induction as generalizing s h with
  | nil => simpa using hs
  | cons a as ih =>
    have hnext := ih (hstep s a h hs has.1) has.2
    rwa [List.append_assoc, List.singleton_append] at hnext

/-- A relation between the state and the outputs so far, kept by every input,
holds after every run. -/
theorem run_history {I : S → List O → Prop}
    (hstep : ∀ s a h, I s h → I (step s a).1 (h ++ [(step s a).2]))
    {s : S} (as : List A) {h : List O} (hs : I s h) :
    I (run step s as).1 (h ++ (run step s as).2) := by
  induction as generalizing s h with
  | nil => simpa using hs
  | cons a as ih =>
    have hnext := ih (hstep s a h hs)
    rwa [List.append_assoc, List.singleton_append] at hnext

/-- A relation between the state and what a fold makes of the inputs so far, kept by
every input, holds after every run. -/
theorem run_ghost {T : Type*} {ghost : T → A → T} {I : S → T → Prop}
    (hstep : ∀ s a t, I s t → I (step s a).1 (ghost t a))
    {s : S} {t : T} (as : List A) (hs : I s t) : I (run step s as).1 (as.foldl ghost t) := by
  induction as generalizing s t with
  | nil => exact hs
  | cons a as ih => exact ih (hstep s a t hs)

/-- A run that is not guarded has a first part after which an input misses the
guard. -/
theorem exists_of_not_guarded {G : S → A → Prop} {s : S} {as : List A}
    (has : ¬ Guarded step G s as) :
    ∃ before a after, as = before ++ a :: after ∧ ¬ G (run step s before).1 a := by
  induction as generalizing s with
  | nil => exact absurd trivial has
  | cons a as ih =>
    by_cases ha : G s a
    · obtain ⟨before, b, after, rfl, hb⟩ := ih (fun h => has ⟨ha, h⟩)
      exact ⟨a :: before, b, after, rfl, hb⟩
    · exact ⟨[], a, as, rfl, ha⟩

end Machine
