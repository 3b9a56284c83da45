-- SUMMARY: Singly linked lists in memory: segments, the loop that follows the links, and lists that it never leaves.
import Mathlib.Data.List.Basic
import Mathlib.Data.List.Nodup
import Mathlib.Data.List.TakeWhile

/-!
# Linked lists

Objects are linked by `next`. A list in memory is a segment that ends at no object; the
loop that follows the links may not end, so it gets a number of tests that it may make.
-/

namespace LinkedList

variable {P : Type*} (next : P → Option P)

/-- The objects from `start` on are `ps`, and `stop` comes after them. -/
def Segment : Option P → List P → Option P → Prop
  | start, [], stop => start = stop
  | start, p :: ps, stop => start = some p ∧ Segment (next p) ps stop

/-- `while (p && !found(p)) p = p->next`, within a number of tests: the objects passed,
and where the loop ends. -/
def scan (found : P → Bool) : Nat → Option P → Option (List P × Option P)
  | 0, _ => none
  | _ + 1, none => some ([], none)
  | tests + 1, some p =>
    if found p then some ([], some p)
    else (scan found tests (next p)).map fun r => (p :: r.1, r.2)

/-! ## Segments -/

section Segment

variable {next} {start stop : Option P} {ps qs : List P} {p : P}

theorem segment_append :
    Segment next start (ps ++ qs) stop ↔
      ∃ mid, Segment next start ps mid ∧ Segment next mid qs stop := by
  induction ps generalizing start with
  | nil => exact ⟨fun h => ⟨start, rfl, h⟩, fun ⟨mid, heq, h⟩ => by rwa [heq]⟩
  | cons p ps ih =>
    constructor
    · rintro ⟨hstart, h⟩
      obtain ⟨mid, hps, hqs⟩ := ih.mp h
      exact ⟨mid, ⟨hstart, hps⟩, hqs⟩
    · rintro ⟨mid, ⟨hstart, hps⟩, hqs⟩
      exact ⟨hstart, ih.mpr ⟨mid, hps, hqs⟩⟩

theorem Segment.start_eq (h : Segment next start ps none) : start = ps.head? := by
  cases ps with
  | nil => exact h
  | cons p ps => exact h.1

/-- A segment depends on the links of its own objects. -/
theorem Segment.congr {next' : P → Option P} (h : Segment next start ps stop)
    (hsame : ∀ p ∈ ps, next' p = next p) : Segment next' start ps stop := by
  induction ps generalizing start with
  | nil => exact h
  | cons p ps ih =>
    rw [List.forall_mem_cons] at hsame
    exact ⟨h.1, ih (hsame.1 ▸ h.2) hsame.2⟩

/-- From one object there is one list. -/
theorem Segment.unique (hps : Segment next start ps none) (hqs : Segment next start qs none) :
    ps = qs := by
  induction ps generalizing start qs with
  | nil =>
    cases qs with
    | nil => rfl
    | cons q qs => exact absurd (hps.symm.trans hqs.1) (by simp)
  | cons p ps ih =>
    cases qs with
    | nil => exact absurd (hqs.symm.trans hps.1) (by simp)
    | cons q qs =>
      obtain ⟨rfl⟩ : p = q := Option.some.inj (hps.1.symm.trans hqs.1)
      rw [ih hps.2 hqs.2]

/-- A list that ends meets no object twice. -/
theorem Segment.nodup (h : Segment next start ps none) : ps.Nodup := by
  induction ps generalizing start with
  | nil => exact List.nodup_nil
  | cons p ps ih =>
    refine List.nodup_cons.mpr ⟨fun hp => ?_, ih h.2⟩
    -- what follows `p` would be a proper part of itself
    obtain ⟨before, after, rfl⟩ := List.append_of_mem hp
    obtain ⟨mid, -, hmid, hafter⟩ := segment_append.mp h.2
    have heq := congrArg List.length (h.2.unique hafter)
    simp only [List.length_append, List.length_cons] at heq
    omega

/-- The link of an object of the list leads to the next object of the list, or nowhere. -/
theorem Segment.next_mem (h : Segment next start ps none) (hp : p ∈ ps) :
    ∀ q ∈ next p, q ∈ ps := by
  induction ps generalizing start with
  | nil => exact absurd hp List.not_mem_nil
  | cons head ps ih =>
    rcases List.mem_cons.mp hp with rfl | hp
    · intro q hq
      cases ps with
      | nil => exact absurd (hq.symm.trans h.2) (by simp)
      | cons q' ps =>
        obtain ⟨rfl⟩ : q = q' := Option.some.inj (hq.symm.trans h.2.1)
        exact List.mem_cons_of_mem _ List.mem_cons_self
    · exact fun q hq => List.mem_cons_of_mem _ (ih h.2 hp q hq)

/-- Two objects of a list with the same successor are one. -/
theorem Segment.eq_of_next (h : Segment next start ps none) {q : P} (hp : p ∈ ps) (hq : q ∈ ps)
    (hnext : next p = next q) : p = q := by
  obtain ⟨before, after, hps⟩ := List.append_of_mem hp
  obtain ⟨before', after', hps'⟩ := List.append_of_mem hq
  obtain ⟨-, -, -, hafter⟩ := segment_append.mp (hps ▸ h)
  obtain ⟨-, -, -, hafter'⟩ := segment_append.mp (hps' ▸ h)
  obtain rfl : after = after' := (hnext ▸ hafter).unique hafter'
  rw [hps, List.append_cons, List.append_cons before', List.append_cancel_right_eq] at hps'
  exact List.singleton_inj.mp (List.append_inj' hps' rfl).2

/-- An object behind another one is not the first. -/
theorem Segment.start_ne {q : P} {rest : List P}
    (h : Segment next start (ps ++ q :: p :: rest) none) : start ≠ some p := by
  have hnodup := h.nodup
  rw [h.start_eq]
  intro hhead
  cases ps with
  | nil =>
    obtain rfl : q = p := Option.some.inj hhead
    exact (List.nodup_cons.mp hnodup).1 List.mem_cons_self
  | cons first ps =>
    obtain rfl : first = p := Option.some.inj hhead
    apply (List.nodup_cons.mp hnodup).1
    exact List.mem_append_right ps (List.mem_cons_of_mem q List.mem_cons_self)

theorem Segment.next_eq {q : P} {rest : List P}
    (h : Segment next start (ps ++ q :: p :: rest) none) : next q = some p := by
  obtain ⟨mid, -, rfl, hnext, -⟩ := segment_append.mp h
  exact hnext

/-- The objects before the one that is linked to `p` are not. -/
theorem Segment.next_ne {q : P} {rest : List P}
    (h : Segment next start (ps ++ q :: p :: rest) none) : ∀ r ∈ ps, next r ≠ some p := by
  intro r hr hnext
  have heq := h.eq_of_next (List.mem_append_left _ hr)
    (List.mem_append_right _ List.mem_cons_self) (hnext.trans h.next_eq.symm)
  exact (List.nodup_append.mp h.nodup).2.2 r hr q List.mem_cons_self heq

section Update

variable {next' : P → Option P} {q : P}

/-- An object is linked behind the last one. -/
theorem Segment.link (h : Segment next start (ps ++ [q]) none) (hp : p ∉ ps ++ [q])
    (hq : next' q = some p) (hlast : next' p = none)
    (hsame : ∀ r, r ≠ p → r ≠ q → next' r = next r) :
    Segment next' start (ps ++ [q] ++ [p]) none := by
  have hnodup := List.nodup_append.mp h.nodup
  obtain ⟨mid, hps, rfl, -⟩ := segment_append.mp h
  refine segment_append.mpr ⟨some p, segment_append.mpr ⟨some q, hps.congr ?_, rfl, hq⟩, rfl, hlast⟩
  intro r hr
  refine hsame r ?_ ?_
  · rintro rfl
    exact hp (List.mem_append_left _ hr)
  · exact hnodup.2.2 r hr q (List.mem_singleton_self q)

/-- The object behind another one is taken out. -/
theorem Segment.unlink {rest : List P} (h : Segment next start (ps ++ q :: p :: rest) none)
    (hq : next' q = next p) (hsame : ∀ r, r ≠ q → next' r = next r) :
    Segment next' start (ps ++ q :: rest) none := by
  obtain ⟨hps, hrest, hdisjoint⟩ := List.nodup_append.mp h.nodup
  obtain ⟨mid, hbefore, rfl, -, hafter⟩ := segment_append.mp h
  refine segment_append.mpr ⟨some q, hbefore.congr ?_, rfl, hq ▸ hafter.congr ?_⟩
  · exact fun r hr => hsame r (hdisjoint r hr q List.mem_cons_self)
  · rintro r hr
    refine hsame r ?_
    rintro rfl
    exact (List.nodup_cons.mp hrest).1 (List.mem_cons_of_mem _ hr)

end Update

/-- A list goes on where its beginning ends. -/
theorem Segment.exists_rest (h : Segment next start ps stop) (hlist : Segment next start qs none) :
    ∃ rest, qs = ps ++ rest ∧ Segment next stop rest none := by
  induction ps generalizing start qs with
  | nil =>
    obtain rfl : start = stop := h
    exact ⟨qs, rfl, hlist⟩
  | cons p ps ih =>
    cases qs with
    | nil => exact absurd (hlist.symm.trans h.1) (by simp)
    | cons q qs =>
      obtain ⟨rfl⟩ : p = q := Option.some.inj (h.1.symm.trans hlist.1)
      obtain ⟨rest, rfl, hrest⟩ := ih h.2 hlist.2
      exact ⟨rest, rfl, hrest⟩

/-- An object that is its own successor is in no list. -/
theorem Segment.not_list_of_loop (h : Segment next start ps (some p)) (hloop : next p = some p) :
    ¬ Segment next start qs none := by
  intro hlist
  obtain ⟨rest, -, hrest⟩ := h.exists_rest hlist
  cases rest with
  | nil => exact absurd hrest (by simp [Segment])
  | cons q rest =>
    obtain ⟨rfl⟩ : p = q := Option.some.inj hrest.1
    have htail : Segment next (some p) rest none := hloop ▸ hrest.2
    have heq := congrArg List.length (htail.unique hrest)
    simp at heq

end Segment

/-! ## The loop -/

section Scan

variable {next} (found : P → Bool)

/-- On a list the loop ends at the first object that is found. -/
theorem Segment.scan_eq {start : Option P} {ps : List P} (h : Segment next start ps none)
    (tests : Nat) :
    scan next found tests start =
      if (ps.takeWhile fun p => !found p).length < tests then
        some (ps.takeWhile fun p => !found p, (ps.dropWhile fun p => !found p).head?)
      else none := by
  induction ps generalizing start tests with
  | nil =>
    obtain rfl : start = none := h
    cases tests <;> rfl
  | cons p ps ih =>
    obtain ⟨rfl, hrest⟩ := h
    cases tests with
    | zero => rfl
    | succ tests =>
      rw [scan, ih hrest]
      by_cases hp : found p = true
      · simp [hp]
      · simp only [hp, List.takeWhile_cons, List.dropWhile_cons, Bool.not_false, if_true,
          Bool.false_eq_true, if_false, List.length_cons, Nat.add_lt_add_iff_right]
        split <;> rfl

variable {found} {start : Option P} {ps rest : List P} {q : P}

theorem Segment.scan_found (h : Segment next start (ps ++ q :: rest) none)
    (hps : ∀ p ∈ ps, found p = false) (hq : found q = true) (tests : Nat) :
    scan next found tests start = if ps.length < tests then some (ps, some q) else none := by
  have hpass : ∀ p ∈ ps, (!found p) = true := fun p hp => by rw [hps p hp]; rfl
  rw [h.scan_eq, List.takeWhile_append_of_pos hpass, List.dropWhile_append_of_pos hpass,
    List.takeWhile_cons_of_neg (by simp [hq]), List.dropWhile_cons_of_neg (by simp [hq]),
    List.append_nil]
  rfl

theorem Segment.scan_all (h : Segment next start ps none) (hps : ∀ p ∈ ps, found p = false)
    (tests : Nat) :
    scan next found tests start = if ps.length < tests then some (ps, none) else none := by
  have hpass : ∀ p ∈ ps, (!found p) = true := fun p hp => by rw [hps p hp]; rfl
  rw [h.scan_eq, List.takeWhile_eq_self_iff.mpr hpass, List.dropWhile_eq_nil_iff.mpr hpass]
  rfl

/-- The loop that stops at no object ends on a list only. -/
theorem segment_of_scan {tests : Nat} {r : List P × Option P}
    (h : scan next (fun _ => false) tests start = some r) : Segment next start r.1 none := by
  induction tests generalizing start r with
  | zero => cases h
  | succ tests ih =>
    cases start with
    | none =>
      obtain rfl := Option.some.inj h
      rfl
    | some p =>
      obtain ⟨r', hr', rfl⟩ := Option.map_eq_some_iff.mp h
      exact ⟨rfl, ih hr'⟩

end Scan

end LinkedList
