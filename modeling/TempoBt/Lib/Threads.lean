-- SUMMARY: Parties that interleave atomic steps on a shared state, with the invariant rule for guarded interleavings.
import TempoBt.Lib.Machine
import Mathlib.Algebra.GroupWithZero.Nat
import Mathlib.Data.Fintype.Basic
import Mathlib.Logic.Function.Basic

/-!
# Interleaved parties

Each party runs one call at a time. A call is a sequence of atomic steps; a step
acts on the shared state and may put further steps before the rest of its call,
so that branches and early returns are decided when they are reached. A run is
any sequence of scheduling choices.
-/

/-- A shared state, and for each party the steps of its call that are still to be
done. -/
structure Threads (ι S P : Type*) where
  shared : S
  code : ι → List P

namespace Threads

variable {ι S P C O : Type*} [DecidableEq ι]

/-- A scheduling choice: an idle party begins a call, or a party does its next
step. -/
inductive Action (ι C : Type*) where
  | call (i : ι) (c : C)
  | advance (i : ι)

/-- Party `i` replaces its remaining steps. -/
def setCode (t : Threads ι S P) (i : ι) (steps : List P) : Threads ι S P :=
  { t with code := Function.update t.code i steps }

@[simp] theorem setCode_shared (t : Threads ι S P) (i : ι) (steps : List P) :
    (t.setCode i steps).shared = t.shared := rfl

@[simp] theorem setCode_code_self (t : Threads ι S P) (i : ι) (steps : List P) :
    (t.setCode i steps).code i = steps := by
  simp [setCode]

theorem setCode_code_of_ne (t : Threads ι S P) {i j : ι} (h : j ≠ i) (steps : List P) :
    (t.setCode i steps).code j = t.code j := by
  simp [setCode, h]

variable (entry : C → List P) (exec : S → P → S × List P × Option O)

/-- Party `i` does step `p`, with `rest` to follow. -/
def perform (t : Threads ι S P) (i : ι) (p : P) (rest : List P) : Threads ι S P :=
  { shared := (exec t.shared p).1
    code := Function.update t.code i ((exec t.shared p).2.1 ++ rest) }

@[simp] theorem perform_shared (t : Threads ι S P) (i : ι) (p : P) (rest : List P) :
    (t.perform exec i p rest).shared = (exec t.shared p).1 := rfl

@[simp] theorem perform_code_self (t : Threads ι S P) (i : ι) (p : P) (rest : List P) :
    (t.perform exec i p rest).code i = (exec t.shared p).2.1 ++ rest := by
  simp [perform]

theorem perform_code_of_ne (t : Threads ι S P) {i j : ι} (h : j ≠ i) (p : P) (rest : List P) :
    (t.perform exec i p rest).code j = t.code j := by
  simp [perform, h]

/-- What is to be done after a step was put there by it, or was to be done before. -/
theorem mem_of_perform {t : Threads ι S P} {i j : ι} {p q : P} {rest : List P}
    (hcode : t.code i = p :: rest) (hq : q ∈ (t.perform exec i p rest).code j) :
    j = i ∧ q ∈ (exec t.shared p).2.1 ∨ q ∈ t.code j := by
  by_cases hj : j = i
  · subst hj
    rw [perform_code_self] at hq
    rcases List.mem_append.mp hq with hnew | hrest
    · exact .inl ⟨rfl, hnew⟩
    · right
      rw [hcode]
      exact List.mem_cons_of_mem p hrest
  · rw [perform_code_of_ne exec t hj] at hq
    exact .inr hq

theorem mem_of_setCode {t : Threads ι S P} {i j : ι} {q : P} {steps : List P}
    (hq : q ∈ (t.setCode i steps).code j) : j = i ∧ q ∈ steps ∨ q ∈ t.code j := by
  by_cases hj : j = i
  · subst hj
    rw [setCode_code_self] at hq
    exact .inl ⟨rfl, hq⟩
  · rw [setCode_code_of_ne t hj] at hq
    exact .inr hq

/-- One scheduling choice. A call of a busy party and a step of an idle one do
nothing. -/
def step (t : Threads ι S P) (a : Action ι C) : Threads ι S P × Option O :=
  match a with
  | .call i c => (if (t.code i).isEmpty then t.setCode i (entry c) else t, none)
  | .advance i =>
    match t.code i with
    | [] => (t, none)
    | p :: rest => (t.perform exec i p rest, (exec t.shared p).2.2)

/-- The step that the choice performs, if any, meets `G`. -/
def Permits (G : Threads ι S P → P → Prop) (t : Threads ι S P) (a : Action ι C) : Prop :=
  match a with
  | .call _ _ => True
  | .advance i => ∀ p ∈ (t.code i).head?, G t p

instance (G : Threads ι S P → P → Prop) [∀ t p, Decidable (G t p)] (t : Threads ι S P)
    (a : Action ι C) : Decidable (Permits G t a) :=
  match a with
  | .call _ _ => .isTrue trivial
  | .advance i => inferInstanceAs (Decidable (∀ p ∈ (t.code i).head?, G t p))

variable {entry exec}

/-- A relation between the state and the outputs so far holds after every guarded
interleaving when every beginning of a call and every permitted step keeps it. -/
theorem guarded_history {G : Threads ι S P → P → Prop}
    {J : Threads ι S P → List (Option O) → Prop}
    (hidle : ∀ t h, J t h → J t (h ++ [none]))
    (hcall : ∀ t h i c, J t h → t.code i = [] → J (t.setCode i (entry c)) (h ++ [none]))
    (hexec : ∀ t h i p rest, J t h → t.code i = p :: rest → G t p →
      J (t.perform exec i p rest) (h ++ [(exec t.shared p).2.2]))
    {t : Threads ι S P} {as : List (Action ι C)} (ht : J t [])
    (has : Machine.Guarded (step entry exec) (Permits G) t as) :
    J (Machine.run (step entry exec) t as).1 (Machine.run (step entry exec) t as).2 := by
  have hrun := Machine.Guarded.history (I := J) (fun t a h hJ hG => by
    cases a with
    | call i c =>
      simp only [step]
      split
      · rename_i hempty
        exact hcall t h i c hJ (List.isEmpty_iff.mp hempty)
      · exact hidle t h hJ
    | advance i =>
      simp only [step]
      split
      · exact hidle t h hJ
      · rename_i p rest hcode
        exact hexec t h i p rest hJ hcode (hG p (by rw [hcode, List.head?_cons]; rfl))) ht has
  rwa [List.nil_append] at hrun

/-- A property of every transition holds along every guarded interleaving when it
follows, with an invariant, from every beginning of a call and every permitted step. -/
theorem guarded_along {G : Threads ι S P → P → Prop} {I : Threads ι S P → Prop}
    {Q : Threads ι S P → Action ι C → Threads ι S P → Prop}
    (hidle : ∀ t a, I t → (∀ i, a = .advance i → t.code i = []) → Q t a t)
    (hcall : ∀ t i c, I t → t.code i = [] →
      I (t.setCode i (entry c)) ∧ Q t (.call i c) (t.setCode i (entry c)))
    (hexec : ∀ t i p rest, I t → t.code i = p :: rest → G t p →
      I (t.perform exec i p rest) ∧ Q t (.advance i) (t.perform exec i p rest))
    {t : Threads ι S P} {as : List (Action ι C)} (ht : I t)
    (has : Machine.Guarded (step entry exec) (Permits G) t as) :
    Machine.Along (step entry exec) Q t as := by
  have hstep : ∀ t a, I t → Permits G t a →
      I (step entry exec t a).1 ∧ Q t a (step entry exec t a).1 := by
    intro t a hI hG
    cases a with
    | call i c =>
      simp only [step]
      split
      · rename_i hempty
        exact hcall t i c hI (List.isEmpty_iff.mp hempty)
      · exact ⟨hI, hidle t _ hI (fun j hj => by simp at hj)⟩
    | advance i =>
      simp only [step]
      split
      · rename_i hnil
        exact ⟨hI, hidle t _ hI (fun j hj => by cases hj; exact hnil)⟩
      · rename_i p rest hcode
        exact hexec t i p rest hI hcode (hG p (by rw [hcode, List.head?_cons]; rfl))
  exact Machine.Guarded.along (fun t a hI hG => (hstep t a hI hG).1)
    (fun t a hI hG => (hstep t a hI hG).2) ht has

/-- An invariant kept by every beginning of a call and every step holds after every
interleaving. -/
theorem run_invariant {I : Threads ι S P → Prop}
    (hcall : ∀ t i c, I t → t.code i = [] → I (t.setCode i (entry c)))
    (hexec : ∀ t i p rest, I t → t.code i = p :: rest → I (t.perform exec i p rest))
    {t : Threads ι S P} (ht : I t) (as : List (Action ι C)) :
    I (Machine.run (step entry exec) t as).1 := by
  apply Machine.run_invariant _ ht
  intro t a hI
  cases a with
  | call i c =>
    simp only [step]
    split
    · rename_i hempty
      exact hcall t i c hI (List.isEmpty_iff.mp hempty)
    · exact hI
  | advance i =>
    simp only [step]
    split
    · exact hI
    · rename_i p rest hcode
      exact hexec t i p rest hI hcode

/-! ## A party that nobody interrupts -/

section Solo

variable (exec : S → P → S × List P × Option O)

/-- One step of a party's code, with the shared state. -/
inductive SoloStep : S × List P → S × List P → Prop
  | mk (s : S) (p : P) (rest : List P) :
      SoloStep (s, p :: rest) ((exec s p).1, (exec s p).2.1 ++ rest)

/-- Steps of one party while no other party steps. -/
def Solo : S × List P → S × List P → Prop := Relation.ReflTransGen (SoloStep exec)

variable {exec}

theorem Solo.refl {x : S × List P} : Solo exec x x := Relation.ReflTransGen.refl

theorem Solo.trans {x y z : S × List P} (hxy : Solo exec x y) (hyz : Solo exec y z) :
    Solo exec x z :=
  Relation.ReflTransGen.trans hxy hyz

theorem Solo.cons {s : S} {p : P} {rest : List P} {x : S × List P}
    (h : Solo exec ((exec s p).1, (exec s p).2.1 ++ rest) x) : Solo exec (s, p :: rest) x :=
  Relation.ReflTransGen.head (.mk s p rest) h

/-- What a party does alone is a run in which only that party advances, and which
leaves the others alone. -/
theorem Solo.run {entry : C → List P} {x y : S × List P} (h : Solo exec x y)
    (t : Threads ι S P) (i : ι) (hx : x = (t.shared, t.code i)) :
    ∃ n, (Machine.run (step entry exec) t (List.replicate n (.advance i))).1 =
      { shared := y.1, code := Function.update t.code i y.2 } := by
  induction h using Relation.ReflTransGen.head_induction_on generalizing t with
  | refl =>
    subst hx
    exact ⟨0, by simp⟩
  | head hstep _ ih =>
    obtain ⟨s, p, rest⟩ := hstep
    obtain ⟨rfl, hcode⟩ := Prod.mk.inj hx
    have hnext : (step entry exec t (.advance i)).1 = t.perform exec i p rest := by
      simp only [step, ← hcode]
    obtain ⟨n, hn⟩ := ih (t.perform exec i p rest) (by simp)
    refine ⟨n + 1, ?_⟩
    rw [List.replicate_succ, Machine.run_cons_fst, hnext, hn]
    simp [Threads.perform]

/-- A party with a step of kind `q` ahead reaches such a step alone, when the steps
before it keep an invariant and each puts less than its own weight. -/
theorem Solo.exists_head {q : P → Bool} {N : P → Prop} {I : S → Prop} (weight : P → Nat)
    (hstep : ∀ s p, N p → q p = false → I s →
      I (exec s p).1 ∧ (∀ p' ∈ (exec s p).2.1, N p') ∧
        ((exec s p).2.1.map weight).sum < weight p)
    {s : S} {code : List P} (hs : I s) (hcode : ∀ p ∈ code, N p)
    (hq : ∃ p ∈ code, q p = true) :
    ∃ s' p rest, Solo exec (s, code) (s', p :: rest) ∧ q p = true ∧ I s' := by
  induction hn : (code.map weight).sum using Nat.strong_induction_on generalizing s code with
  | _ n ih =>
    cases code with
    | nil => simp at hq
    | cons p rest =>
      cases hp : q p with
      | true => exact ⟨s, p, rest, .refl, hp, hs⟩
      | false =>
        obtain ⟨hs', hnew, hweight⟩ := hstep s p (hcode p (by simp)) hp hs
        -- the step is traded for lighter ones, so the rest of the code is lighter
        have hsum : (((exec s p).2.1 ++ rest).map weight).sum < n := by
          rw [List.map_append, List.sum_append, ← hn, List.map_cons, List.sum_cons]
          omega
        have hcode' : ∀ p' ∈ (exec s p).2.1 ++ rest, N p' := by
          intro p' hp'
          rcases List.mem_append.mp hp' with hp' | hp'
          · exact hnew p' hp'
          · exact hcode p' (List.mem_cons_of_mem p hp')
        have hq' : ∃ p' ∈ (exec s p).2.1 ++ rest, q p' = true := by
          obtain ⟨p', hmem, hp'⟩ := hq
          rcases List.mem_cons.mp hmem with rfl | hmem
          · simp [hp] at hp'
          · exact ⟨p', List.mem_append_right _ hmem, hp'⟩
        obtain ⟨s', p', rest', hsolo, hp', hI⟩ := ih _ hsum hs' hcode' hq' rfl
        exact ⟨s', p', rest', .cons hsolo, hp', hI⟩

end Solo

/-! ## Steps that one party owns

A kind of step that at most one party has still to do, and once. -/

/-- Party `o` alone has a step of kind `q` to do, exactly one; with `none` there is
no such step. -/
def Owner (t : Threads ι S P) (q : P → Bool) (o : Option ι) : Prop :=
  ∀ i, (t.code i).countP q = if o = some i then 1 else 0

instance [Fintype ι] (t : Threads ι S P) (q : P → Bool) (o : Option ι) :
    Decidable (t.Owner q o) :=
  inferInstanceAs (Decidable (∀ i, (t.code i).countP q = if o = some i then 1 else 0))

namespace Owner

variable {t : Threads ι S P} {q : P → Bool} {o : Option ι} {i : ι} {p : P} {rest : List P}

/-- Without code nothing is owned. -/
theorem none_of_idle (h : ∀ i, t.code i = []) : t.Owner q none := by
  intro i
  simp [h i]

/-- A party about to do such a step owns it. -/
theorem eq_some (h : t.Owner q o) (hcode : t.code i = p :: rest) (hp : q p = true) :
    o = some i := by
  have hcount := h i
  rw [hcode, List.countP_cons_of_pos hp] at hcount
  by_contra hne
  rw [if_neg hne] at hcount
  omega

/-- The owner has such a step to do. -/
theorem exists_mem (h : t.Owner q (some i)) : ∃ p ∈ t.code i, q p = true := by
  have hcount := h i
  rw [if_pos rfl] at hcount
  exact List.countP_pos_iff.mp (by omega)

/-- With no owner, no party is about to do such a step. -/
theorem head_eq_false (h : t.Owner q none) (hcode : t.code i = p :: rest) : q p = false := by
  by_contra hp
  simpa using h.eq_some hcode (by simpa using hp)

/-- Unless nobody has such a step to do, some party has. -/
theorem exists_of_not_none (h : ¬ t.Owner q none) : ∃ i, ∃ p ∈ t.code i, q p = true := by
  obtain ⟨i, hi⟩ := not_forall.mp h
  refine ⟨i, List.countP_pos_iff.mp (Nat.pos_of_ne_zero ?_)⟩
  simpa using hi

/-- A step of another kind that puts no such step leaves the owner. -/
theorem perform_iff (hcode : t.code i = p :: rest) (hp : q p = false)
    (hnew : (exec t.shared p).2.1.countP q = 0) :
    (t.perform exec i p rest).Owner q o ↔ t.Owner q o := by
  have hcount (j : ι) : ((t.perform exec i p rest).code j).countP q = (t.code j).countP q := by
    by_cases hj : j = i
    · subst hj
      rw [perform_code_self, List.countP_append, hnew, hcode,
        List.countP_cons_of_neg (by simp [hp]), Nat.zero_add]
    · rw [perform_code_of_ne exec t hj]
  simp only [Owner, hcount]

theorem perform (h : t.Owner q o) (hcode : t.code i = p :: rest) (hp : q p = false)
    (hnew : (exec t.shared p).2.1.countP q = 0) : (t.perform exec i p rest).Owner q o :=
  (perform_iff hcode hp hnew).mpr h

/-- The owner does its step. -/
theorem release (h : t.Owner q (some i)) (hcode : t.code i = p :: rest) (hp : q p = true)
    (hnew : (exec t.shared p).2.1.countP q = 0) : (t.perform exec i p rest).Owner q none := by
  intro j
  by_cases hj : j = i
  · subst hj
    have hcount := h j
    rw [hcode, List.countP_cons_of_pos hp, if_pos rfl] at hcount
    rw [perform_code_self, List.countP_append, hnew]
    simp only [reduceCtorEq, if_false]
    omega
  · rw [perform_code_of_ne exec t hj]
    have hcount := h j
    rwa [if_neg (fun he => hj (Option.some.inj he).symm)] at hcount

/-- A step that puts such a step makes its party the owner, if there was none. -/
theorem acquire (h : t.Owner q none) (hcode : t.code i = p :: rest)
    (hnew : (exec t.shared p).2.1.countP q = 1) : (t.perform exec i p rest).Owner q (some i) := by
  intro j
  by_cases hj : j = i
  · subst hj
    have hcount := h j
    rw [hcode, List.countP_cons_of_neg (by simp [h.head_eq_false hcode])] at hcount
    rw [perform_code_self, List.countP_append, hnew, hcount]
    simp
  · rw [perform_code_of_ne exec t hj, if_neg (fun he => hj (Option.some.inj he).symm)]
    exact h j

/-- The beginning of a call without such steps leaves the owner. -/
theorem setCode (h : t.Owner q o) (hidle : t.code i = []) {steps : List P}
    (hnew : steps.countP q = 0) : (t.setCode i steps).Owner q o := by
  intro j
  by_cases hj : j = i
  · subst hj
    have hcount := h j
    rw [hidle, List.countP_nil] at hcount
    rw [setCode_code_self, hnew]
    exact hcount
  · rw [setCode_code_of_ne t hj]
    exact h j

end Owner

end Threads
