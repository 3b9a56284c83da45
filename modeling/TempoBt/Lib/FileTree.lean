-- SUMMARY: File systems by the laws their callers rely on: making directories one by one down a path, and exactly when that succeeds.
import Mathlib.Data.List.Chain
import Mathlib.Logic.Function.Basic

/-!
# File trees

A tree has a file, a directory or nothing at each key. A file system shows its tree through
calls that take paths; which paths name the same entry is up to it. An entry can be made
where there is nothing and the parent is a directory, unless the file system refuses.
-/

namespace FileTree

variable {F P K E : Type*}

inductive Entry where
  | file
  | dir
  deriving DecidableEq

abbrev FileMap (K : Type*) := K → Option Entry

/-- How an attempt to make an entry ends. -/
inductive Made (E : Type*) where
  | made
  | already
  | failed (e : E)

/-- Every entry's parent is a directory. -/
def WellFormed (parent : K → Option K) (tree : FileMap K) : Prop :=
  ∀ k q, (tree k).isSome → parent k = some q → tree q = some .dir

/-- Entries that are there stay, and the others come from `made`. -/
def Extends (made : K → Option Entry) (tree tree' : FileMap K) : Prop :=
  ∀ k, tree' k = tree k ∨ tree k = none ∧ tree' k = made k

theorem Extends.refl (made : K → Option Entry) (tree : FileMap K) : Extends made tree tree :=
  fun _ => .inl rfl

theorem Extends.trans {made : K → Option Entry} {tree tree' tree'' : FileMap K}
    (h : Extends made tree tree') (h' : Extends made tree' tree'') : Extends made tree tree'' := by
  intro k
  rcases h' k with hk' | ⟨hnone, hk'⟩
  · rw [hk']
    exact h k
  · rcases h k with hk | ⟨hk, -⟩
    · exact .inr ⟨hk ▸ hnone, hk'⟩
    · exact .inr ⟨hk, hk'⟩

theorem Extends.mono {made made' : K → Option Entry} {tree tree' : FileMap K}
    (h : Extends made tree tree') (hmade : ∀ k e, made k = some e → made' k = some e) :
    Extends made' tree tree' := by
  intro k
  rcases h k with hk | ⟨hnone, hk⟩
  · exact .inl hk
  · cases hm : made k with
    | none => exact .inl (by rw [hk, hm, hnone])
    | some e => exact .inr ⟨hnone, by rw [hk, hm, hmade k e hm]⟩

variable [DecidableEq K]

/-- Directories, at the keys of a list. -/
def dirsAt (ks : List K) (k : K) : Option Entry := if k ∈ ks then some .dir else none

/-- What an attempt to make an entry may change: nothing, or the entry is made in a
directory. -/
def Grows (parent : K → Option K) (entry : Entry) (k : K) (tree tree' : FileMap K) : Prop :=
  tree' = tree ∨
    tree k = none ∧ (parent k).bind tree = some .dir ∧
      tree' = Function.update tree k (some entry)

section Grows

variable {parent : K → Option K} {entry : Entry} {k : K} {tree tree' : FileMap K}

theorem Grows.extends (h : Grows parent entry k tree tree') :
    Extends (fun k' => if k' = k then some entry else none) tree tree' := by
  rcases h with rfl | ⟨hnone, -, rfl⟩
  · exact .refl _ _
  · intro k'
    by_cases hk : k' = k
    · subst hk
      exact .inr ⟨hnone, by simp⟩
    · exact .inl (Function.update_of_ne hk _ _)

theorem Grows.wellFormed (h : Grows parent entry k tree tree') (hwf : WellFormed parent tree) :
    WellFormed parent tree' := by
  rcases h with rfl | ⟨hnone, hparent, rfl⟩
  · exact hwf
  obtain ⟨q, hq, hdir⟩ := Option.bind_eq_some_iff.mp hparent
  have hne {c : K} (hc : tree c = some .dir) : c ≠ k := by
    rintro rfl
    rw [hnone] at hc
    cases hc
  intro a b ha hb
  by_cases hak : a = k
  · subst hak
    rw [hq] at hb
    cases hb
    rw [Function.update_of_ne (hne hdir)]
    exact hdir
  · rw [Function.update_of_ne hak] at ha
    have hc := hwf a b ha hb
    rw [Function.update_of_ne (hne hc)]
    exact hc

/-- Where something is, nothing is made. -/
theorem Grows.of_there (h : Grows parent entry k tree tree') (hk : (tree k).isSome) :
    tree' = tree := by
  rcases h with rfl | ⟨hnone, -⟩
  · rfl
  · rw [hnone] at hk
    cases hk

/-- What has appeared was made in a directory. -/
theorem Grows.of_made (h : Grows parent entry k tree tree') (hnone : tree k = none)
    (hk : (tree' k).isSome) :
    (parent k).bind tree = some .dir ∧ tree' = Function.update tree k (some entry) := by
  rcases h with rfl | ⟨-, hparent, hmade⟩
  · rw [hnone] at hk
    cases hk
  · exact ⟨hparent, hmade⟩

end Grows

/-- A file system in which entries can be looked up and directories made. Some entries are
hidden from the look, and some it refuses to make. -/
structure FileSystem (F P K E : Type*) [DecidableEq K] where
  key : P → K
  parent : K → Option K
  entries : F → FileMap K
  hidden : K → Prop
  refused : K → Prop
  lookUp : P → F → Option Entry
  makeDir : P → F → F × Made E
  lookUp_hidden : ∀ p s, hidden (key p) → lookUp p s = none
  lookUp_shown : ∀ p s, ¬ hidden (key p) → lookUp p s = entries s (key p)
  grows : ∀ p s, Grows parent .dir (key p) (entries s) (entries (makeDir p s).1)
  made : ∀ p s, (makeDir p s).2 = .made →
    entries s (key p) = none ∧ (entries (makeDir p s).1 (key p)).isSome
  already : ∀ p s, (makeDir p s).2 = .already → (entries s (key p)).isSome
  refuses : ∀ p s, refused (key p) → ∃ e, (makeDir p s).2 = .failed e
  finds : ∀ p s, ¬ refused (key p) → (entries s (key p)).isSome → (makeDir p s).2 = .already
  makes : ∀ p s, ¬ refused (key p) → entries s (key p) = none →
    (parent (key p)).bind (entries s) = some .dir → (makeDir p s).2 = .made

namespace FileSystem

variable (fs : FileSystem F P K E) (accepts : Option Entry → Bool)

/-- Make the directories of a path, from the top: those that the look accepts are passed over,
and one that is there after all is no error. -/
def makeDirs : List P → F → F × Made E
  | [], s => (s, .made)
  | p :: ps, s =>
    if accepts (fs.lookUp p s) then makeDirs ps s
    else
      match fs.makeDir p s with
      | (s, .failed e) => (s, .failed e)
      | (s, _) => makeDirs ps s

/-- An entry is passed over by its look. -/
def Seen (tree : FileMap K) (p : P) : Prop :=
  ¬ fs.hidden (fs.key p) ∧ accepts (tree (fs.key p)) = true

/-- Nothing keeps the directories from being made: no file is in the way of another one, and
none is refused that is not seen. -/
def Clear (ps : List P) (tree : FileMap K) : Prop :=
  (∀ p ∈ ps.dropLast, tree (fs.key p) ≠ some .file) ∧
    ∀ p ∈ ps, fs.refused (fs.key p) → fs.Seen accepts tree p

/-- What `makeDirs` does: it only makes directories of the path, it succeeds exactly when
nothing is in the way, and then every one of them is there. -/
structure DirsMade (ps : List P) (tree : FileMap K) (result : F × Made E) : Prop where
  wellFormed : WellFormed fs.parent (fs.entries result.1)
  frame : Extends (dirsAt (ps.map fs.key)) tree (fs.entries result.1)
  ended : result.2 ≠ .already
  made_iff : result.2 = .made ↔ fs.Clear accepts ps tree
  there : result.2 = .made →
    ∀ p ∈ ps, fs.entries result.1 (fs.key p) = some ((tree (fs.key p)).getD .dir)

variable {fs accepts} {p : P} {ps : List P} {s : F}

theorem lookUp_none (h : fs.entries s (fs.key p) = none) : fs.lookUp p s = none := by
  by_cases hhidden : fs.hidden (fs.key p)
  · exact fs.lookUp_hidden p s hhidden
  · rw [fs.lookUp_shown p s hhidden, h]

theorem not_seen_none (hnone : accepts none = false) {tree : FileMap K}
    (h : tree (fs.key p) = none) : ¬ fs.Seen accepts tree p := by
  rintro ⟨-, haccepts⟩
  rw [h, hnone] at haccepts
  cases haccepts

/-- A look that accepts sees the entry. -/
theorem seen_of_accepts (hnone : accepts none = false) (h : accepts (fs.lookUp p s) = true) :
    fs.Seen accepts (fs.entries s) p := by
  by_cases hhidden : fs.hidden (fs.key p)
  · rw [fs.lookUp_hidden p s hhidden, hnone] at h
    cases h
  · exact ⟨hhidden, fs.lookUp_shown p s hhidden ▸ h⟩

theorem accepts_of_seen (h : fs.Seen accepts (fs.entries s) p) :
    accepts (fs.lookUp p s) = true := by
  rw [fs.lookUp_shown p s h.1]
  exact h.2

theorem makeDirs_seen (h : accepts (fs.lookUp p s) = true) :
    fs.makeDirs accepts (p :: ps) s = fs.makeDirs accepts ps s := by
  rw [makeDirs, if_pos h]

theorem makeDirs_failed (h : ¬ accepts (fs.lookUp p s) = true) {e : E}
    (he : (fs.makeDir p s).2 = .failed e) :
    fs.makeDirs accepts (p :: ps) s = ((fs.makeDir p s).1, .failed e) := by
  rw [makeDirs, if_neg h]
  split
  · rename_i heq
    rw [heq] at he ⊢
    cases he
    rfl
  · rename_i hno heq
    rw [heq] at he
    exact absurd he (hno e)

theorem makeDirs_next (h : ¬ accepts (fs.lookUp p s) = true)
    (hnext : ∀ e, (fs.makeDir p s).2 ≠ .failed e) :
    fs.makeDirs accepts (p :: ps) s = fs.makeDirs accepts ps (fs.makeDir p s).1 := by
  rw [makeDirs, if_neg h]
  split
  · rename_i e heq
    exact absurd (congrArg Prod.snd heq) (hnext e)
  · rename_i heq
    rw [heq]

/-- The step of `makeDirs` over an entry that is there. -/
theorem makeDirs_there (ps : List P) (hnone : accepts none = false)
    (h : (fs.entries s (fs.key p)).isSome) :
    (∃ s', fs.entries s' = fs.entries s ∧
        fs.makeDirs accepts (p :: ps) s = fs.makeDirs accepts ps s' ∧
        (fs.refused (fs.key p) → fs.Seen accepts (fs.entries s) p)) ∨
      ∃ s' e, fs.entries s' = fs.entries s ∧
        fs.makeDirs accepts (p :: ps) s = (s', .failed e) ∧
        fs.refused (fs.key p) ∧ ¬ fs.Seen accepts (fs.entries s) p := by
  have hsame := (fs.grows p s).of_there h
  by_cases haccepts : accepts (fs.lookUp p s) = true
  · exact .inl ⟨s, rfl, makeDirs_seen haccepts, fun _ => seen_of_accepts hnone haccepts⟩
  · by_cases hrefused : fs.refused (fs.key p)
    · obtain ⟨e, he⟩ := fs.refuses p s hrefused
      exact .inr ⟨_, e, hsame, makeDirs_failed haccepts he, hrefused,
        fun hseen => haccepts (accepts_of_seen hseen)⟩
    · have halready := fs.finds p s hrefused h
      refine .inl ⟨_, hsame, makeDirs_next haccepts fun e => ?_, fun hr => absurd hr hrefused⟩
      rw [halready]
      simp

/-- The attempt ends here. -/
theorem DirsMade.of_failed {e : E} {s' : F} (hwf : WellFormed fs.parent (fs.entries s'))
    {tree : FileMap K} (hframe : Extends (dirsAt (ps.map fs.key)) tree (fs.entries s'))
    (hclear : ¬ fs.Clear accepts ps tree) : fs.DirsMade accepts ps tree (s', .failed e) where
  wellFormed := hwf
  frame := hframe
  ended := by simp
  made_iff := iff_of_false (by simp) hclear
  there h := by cases h

/-- The first entry of the path is there, and is passed over. -/
theorem DirsMade.cons_there {result : F × Made E} {tree : FileMap K}
    (h : fs.DirsMade accepts ps tree result) (hp : tree (fs.key p) = some .dir)
    (hseen : fs.refused (fs.key p) → fs.Seen accepts tree p) :
    fs.DirsMade accepts (p :: ps) tree result where
  wellFormed := h.wellFormed
  frame := h.frame.mono fun q e hq => by
    unfold dirsAt at hq ⊢
    split at hq
    · rename_i hmem
      rw [if_pos (by simpa using .inr (List.mem_map.mp hmem))]
      exact hq
    · cases hq
  ended := h.ended
  made_iff := by
    have hfile : (∀ q ∈ (p :: ps).dropLast, tree (fs.key q) ≠ some .file) ↔
        ∀ q ∈ ps.dropLast, tree (fs.key q) ≠ some .file := by
      cases ps with
      | nil => simp
      | cons b ps => simp [hp]
    rw [h.made_iff, Clear, Clear, hfile, List.forall_mem_cons]
    exact and_congr_right fun _ => ⟨fun hall => ⟨hseen, hall⟩, And.right⟩
  there hmade q hq := by
    rcases List.mem_cons.mp hq with rfl | hq
    · rcases h.frame (fs.key q) with hq | ⟨hnone, -⟩
      · rw [hq, hp, Option.getD_some]
      · rw [hp] at hnone
        cases hnone
    · exact h.there hmade q hq

/-- A directory that is there, and then the others. -/
theorem DirsMade.there_then (hnone : accepts none = false)
    (hp : fs.entries s (fs.key p) = some .dir) (hwf : WellFormed fs.parent (fs.entries s))
    (h : ∀ s', fs.entries s' = fs.entries s →
      fs.DirsMade accepts ps (fs.entries s) (fs.makeDirs accepts ps s')) :
    fs.DirsMade accepts (p :: ps) (fs.entries s) (fs.makeDirs accepts (p :: ps) s) := by
  rcases makeDirs_there ps hnone (by rw [hp]; rfl) with
    ⟨s', hs', heq, hseen⟩ | ⟨s', e, hs', heq, hrefused, hnot⟩
  · rw [heq]
    exact (h s' hs').cons_there hp hseen
  · rw [heq]
    refine .of_failed (hs' ▸ hwf) (hs' ▸ .refl _ _) fun hclear => ?_
    exact hnot (hclear.2 p List.mem_cons_self hrefused)

/-- Whether the rest is clear does not depend on a directory that has been made. -/
theorem clear_update {tree : FileMap K}
    (hp : tree (fs.key p) = none) (hrefused : ¬ fs.refused (fs.key p)) :
    fs.Clear accepts ps (Function.update tree (fs.key p) (some .dir)) ↔
      fs.Clear accepts ps tree := by
  have hfile (q : P) : Function.update tree (fs.key p) (some Entry.dir) (fs.key q) ≠ some .file ↔
      tree (fs.key q) ≠ some .file := by
    by_cases hq : fs.key q = fs.key p
    · rw [hq]
      simp [hp]
    · rw [Function.update_of_ne hq]
  have hseen (q : P) :
      (fs.refused (fs.key q) →
          fs.Seen accepts (Function.update tree (fs.key p) (some .dir)) q) ↔
        (fs.refused (fs.key q) → fs.Seen accepts tree q) := by
    by_cases hq : fs.key q = fs.key p
    · rw [hq]
      exact iff_of_true (fun h => absurd h hrefused) fun h => absurd h hrefused
    · rw [Seen, Seen, Function.update_of_ne hq]
  simp only [Clear, hfile, hseen]

/-- The first entry of the path has just been made. -/
theorem DirsMade.cons_made {result : F × Made E} {tree : FileMap K}
    (h : fs.DirsMade accepts ps (Function.update tree (fs.key p) (some .dir)) result)
    (hp : tree (fs.key p) = none) (hparent : (fs.parent (fs.key p)).bind tree = some .dir)
    (hrefused : ¬ fs.refused (fs.key p)) : fs.DirsMade accepts (p :: ps) tree result := by
  have hcons := h.cons_there (Function.update_self ..) fun hr => absurd hr hrefused
  have hgrows : Grows fs.parent .dir (fs.key p) tree
      (Function.update tree (fs.key p) (some .dir)) := .inr ⟨hp, hparent, rfl⟩
  refine ⟨hcons.wellFormed, ?_, hcons.ended, hcons.made_iff.trans (clear_update hp hrefused),
    ?_⟩
  · refine Extends.trans (hgrows.extends.mono fun q e hq => ?_) hcons.frame
    split at hq
    · rename_i heq
      rw [dirsAt, heq, if_pos (by simp)]
      exact hq
    · cases hq
  · intro hr q hq
    rw [hcons.there hr q hq]
    by_cases hqp : fs.key q = fs.key p
    · rw [hqp]
      simp [hp]
    · rw [Function.update_of_ne hqp]

/-- A directory that is not there, and then the others. -/
theorem DirsMade.missing_then (hnone : accepts none = false)
    (hp : fs.entries s (fs.key p) = none)
    (hparent : (fs.parent (fs.key p)).bind (fs.entries s) = some .dir)
    (hwf : WellFormed fs.parent (fs.entries s))
    (h : ∀ s', fs.entries s' = Function.update (fs.entries s) (fs.key p) (some .dir) →
      fs.DirsMade accepts ps (fs.entries s') (fs.makeDirs accepts ps s')) :
    fs.DirsMade accepts (p :: ps) (fs.entries s) (fs.makeDirs accepts (p :: ps) s) := by
  have hlook : ¬ accepts (fs.lookUp p s) = true := by simp [lookUp_none hp, hnone]
  have hgrows := fs.grows p s
  by_cases hrefused : fs.refused (fs.key p)
  · obtain ⟨e, he⟩ := fs.refuses p s hrefused
    rw [makeDirs_failed hlook he]
    refine .of_failed (hgrows.wellFormed hwf) (hgrows.extends.mono fun q e' hq => ?_)
      fun hclear => not_seen_none hnone hp (hclear.2 p List.mem_cons_self hrefused)
    split at hq
    · rename_i heq
      rw [dirsAt, heq, if_pos (by simp)]
      exact hq
    · cases hq
  · have hmade := fs.makes p s hrefused hp hparent
    obtain ⟨-, hs'⟩ := hgrows.of_made hp (fs.made p s hmade).2
    rw [makeDirs_next hlook (by simp [hmade])]
    exact (hs' ▸ h _ hs').cons_made hp hparent hrefused

/-- Below a file nothing is made. -/
theorem makeDirs_below_file (ps : List P) (hnone : accepts none = false)
    (hp : fs.entries s (fs.key p) = none)
    (hparent : (fs.parent (fs.key p)).bind (fs.entries s) ≠ some .dir) :
    ∃ s' e, fs.entries s' = fs.entries s ∧ fs.makeDirs accepts (p :: ps) s = (s', .failed e) := by
  have hlook : ¬ accepts (fs.lookUp p s) = true := by simp [lookUp_none hp, hnone]
  have hsame : fs.entries (fs.makeDir p s).1 = fs.entries s := by
    rcases fs.grows p s with hsame | ⟨-, hdir, -⟩
    · exact hsame
    · exact absurd hdir hparent
  cases hmake : (fs.makeDir p s).2 with
  | made =>
    have hthere := (fs.made p s hmake).2
    rw [hsame, hp] at hthere
    cases hthere
  | already =>
    have hthere := fs.already p s hmake
    rw [hp] at hthere
    cases hthere
  | failed e => exact ⟨_, e, hsame, makeDirs_failed hlook hmake⟩

/-- A file in a directory's place: nothing is below it, so that the next directory is missing
and cannot be made. -/
theorem DirsMade.file_then (hnone : accepts none = false)
    (hp : fs.entries s (fs.key p) = some .file) (hwf : WellFormed fs.parent (fs.entries s))
    (hchain : List.IsChain (fun a b => fs.parent (fs.key b) = some (fs.key a)) (p :: ps)) :
    fs.DirsMade accepts (p :: ps) (fs.entries s) (fs.makeDirs accepts (p :: ps) s) := by
  rcases makeDirs_there ps hnone (by rw [hp]; rfl) with
    ⟨s', hs', heq, hseen⟩ | ⟨s', e, hs', heq, hrefused, hnot⟩
  · rw [heq]
    cases ps with
    | nil =>
      refine ⟨hs' ▸ hwf, hs' ▸ .refl _ _, by simp [makeDirs],
        iff_of_true rfl ⟨by simp, by simpa using hseen⟩, fun _ q hq => ?_⟩
      show fs.entries s' _ = _
      rw [hs', List.mem_singleton.mp hq, hp, Option.getD_some]
    | cons q qs =>
      have hq := (List.isChain_cons_cons.mp hchain).1
      have hmissing : fs.entries s' (fs.key q) = none := by
        by_contra hsome
        rw [hs'] at hsome
        have hdir := hwf _ _ (Option.isSome_iff_ne_none.mpr hsome) hq
        rw [hp] at hdir
        cases hdir
      obtain ⟨s'', e, hs'', hfailed⟩ := makeDirs_below_file qs hnone hmissing
        (by rw [hq, Option.bind_some, hs', hp]; decide)
      rw [hfailed]
      have hsame : fs.entries s'' = fs.entries s := hs''.trans hs'
      exact .of_failed (hsame ▸ hwf) (hsame ▸ .refl _ _) fun hclear => hclear.1 p (by simp) hp
  · rw [heq]
    refine .of_failed (hs' ▸ hwf) (hs' ▸ .refl _ _) fun hclear => ?_
    exact hnot (hclear.2 p List.mem_cons_self hrefused)

theorem makeDirs_spec (hnone : accepts none = false) {top : P}
    (hchain : List.IsChain (fun a b => fs.parent (fs.key b) = some (fs.key a)) (top :: ps))
    (hwf : WellFormed fs.parent (fs.entries s)) (htop : fs.entries s (fs.key top) = some .dir) :
    fs.DirsMade accepts ps (fs.entries s) (fs.makeDirs accepts ps s) := by
  induction ps generalizing top s with
  | nil =>
    exact ⟨hwf, .refl _ _, by simp [makeDirs], iff_of_true rfl ⟨by simp, by simp⟩,
      fun _ q hq => by cases hq⟩
  | cons p ps ih =>
    obtain ⟨hparent, hrest⟩ := List.isChain_cons_cons.mp hchain
    cases hp : fs.entries s (fs.key p) with
    | none =>
      have hdir : (fs.parent (fs.key p)).bind (fs.entries s) = some .dir := by
        rw [hparent, Option.bind_some, htop]
      refine .missing_then hnone hp hdir hwf fun s' hs' => ih hrest ?_ ?_
      · exact hs' ▸ Grows.wellFormed (.inr ⟨hp, hdir, rfl⟩) hwf
      · rw [hs', Function.update_self]
    | some entry =>
      cases entry with
      | dir =>
        refine .there_then hnone hp hwf fun s' hs' => ?_
        rw [← hs']
        exact ih hrest (hs' ▸ hwf) (by rw [hs', hp])
      | file => exact .file_then hnone hp hwf hrest

end FileSystem

end FileTree
