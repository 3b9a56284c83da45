-- SUMMARY: Stores that outlive their program: saves that may fail, and loading every value through a handler.
import Mathlib.Data.List.AList

/-!
# Durable stores

A store keeps one value for each key. A save may fail, and what it fails to write is up
to the environment; a restart loads all values, each through a handler that changes the
part of the state that belongs to its key.
-/

namespace Durable

variable {K V S O : Type*}

abbrev Store (K V : Type*) := AList (fun _ : K => V)

/-- How a save ends: what it returns, and whether the store has the new value, which it has
when zero is returned. -/
structure Save where
  ret : Int
  written : Bool
  written_of_ret : ret = 0 → written = true

variable [DecidableEq K]

/-- Save `v`; no value takes the key out of the store. -/
def Store.save (o : Save) (k : K) (v : Option V) (store : Store K V) : Store K V :=
  if o.written then v.elim (store.erase k) (store.insert k) else store

theorem Store.lookup_save_self (o : Save) (k : K) (v : Option V) (store : Store K V) :
    (store.save o k v).lookup k = if o.written then v else store.lookup k := by
  unfold Store.save
  split
  · cases v with
    | none => exact AList.lookup_erase k store
    | some v => exact AList.lookup_insert store
  · rfl

theorem Store.lookup_save_ne (o : Save) {k k' : K} (h : k' ≠ k) (v : Option V)
    (store : Store K V) : (store.save o k v).lookup k' = store.lookup k' := by
  unfold Store.save
  split
  · cases v with
    | none => exact AList.lookup_erase_ne h
    | some v => exact AList.lookup_insert_ne h
  · rfl

/-- Load every value of a store. -/
def load (handler : K → V → S → S) (store : Store K V) (s : S) : S :=
  store.entries.foldl (fun s e => handler e.1 e.2 s) s

omit [DecidableEq K] in
/-- What the handler never changes. -/
theorem get_load {handler : K → V → S → S} (get : S → O)
    (h : ∀ k v s, get (handler k v s) = get s) (store : Store K V) (s : S) :
    get (load handler store s) = get s := by
  unfold load
  induction store.entries generalizing s with
  | nil => rfl
  | cons e l ih => rw [List.foldl_cons, ih, h]

/-- A part of the state that only the value of one key changes. -/
def Owns (handler : K → V → S → S) (get : S → O) (k : K) : Prop :=
  ∀ k' v s, k' ≠ k → get (handler k' v s) = get s

section Load

variable {handler : K → V → S → S} {get : S → O} {k : K}

omit [DecidableEq K] in
theorem Owns.foldl_of_not_mem (h : Owns handler get k) (l : List (Sigma fun _ : K => V))
    (hl : k ∉ l.keys) (s : S) : get (l.foldl (fun s e => handler e.1 e.2 s) s) = get s := by
  induction l generalizing s with
  | nil => rfl
  | cons e l ih =>
    rw [List.keys_cons, List.mem_cons, not_or] at hl
    rw [List.foldl_cons, ih hl.2, h _ _ _ (Ne.symm hl.1)]

theorem Owns.load_none (h : Owns handler get k) {store : Store K V} (hk : store.lookup k = none)
    (s : S) : get (load handler store s) = get s :=
  h.foldl_of_not_mem _ (AList.lookup_eq_none.mp hk) s

/-- Whatever the order in which the values are loaded, the part of a key is what the
handler makes of its value. -/
theorem Owns.load_some (h : Owns handler get k) {store : Store K V} {v : V}
    (hk : store.lookup k = some v) (s : S) :
    ∃ s', get s' = get s ∧ get (load handler store s) = get (handler k v s') := by
  obtain ⟨l, hl⟩ := store
  unfold AList.lookup at hk
  unfold load
  induction l generalizing s with
  | nil => cases hk
  | cons e l ih =>
    obtain ⟨k', w⟩ := e
    obtain ⟨hk', hl⟩ := List.nodupKeys_cons.mp hl
    rw [List.foldl_cons]
    by_cases heq : k' = k
    · subst heq
      rw [List.dlookup_cons_eq] at hk
      cases hk
      exact ⟨s, rfl, h.foldl_of_not_mem l hk' _⟩
    · rw [List.dlookup_cons_ne l ⟨k', w⟩ (Ne.symm heq)] at hk
      obtain ⟨s', hs', hload⟩ := ih (handler k' w s) hl hk
      exact ⟨s', hs'.trans (h k' w s heq), hload⟩

end Load

end Durable
