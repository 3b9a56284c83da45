-- SUMMARY: The paths that a listing hands to its callback, and the directories and names for which they are exact in both backends.
import TempoBt.Services.Storage.Listing

/-!
# Paths in a listing

Each backend builds the path of an entry in a buffer of 256 bytes: the FAT backend with
unbounded appends, the littlefs backend with a bounded print that cuts off. Callers unlink
what they are handed.
-/

namespace TempoBt

open CString

/-- The directory's path, one slash, and the name. -/
def exactPath (path name : Bytes) : Bytes :=
  (if path.getLast? = some 47 then path.dropLast else path) ++ 47 :: name

/-- What a callback is handed for an entry. -/
structure ListCall where
  path : Bytes
  isDir : Bool
  size : Nat

def exactCall (path : Bytes) (e : DirEntry) : ListCall := ⟨exactPath path e.name, e.isDir, e.size⟩

/-- A callback that keeps a record of its calls. -/
def recordCalls {σ : Type} (cb : Bytes → Bool → Nat → σ → σ × Int) (path : Bytes) (isDir : Bool)
    (size : Nat) (st : σ × List ListCall) : (σ × List ListCall) × Int :=
  (((cb path isDir size st.1).1, st.2 ++ [⟨path, isDir, size⟩]), (cb path isDir size st.1).2)

/-- Every callback is called with exact paths of entries, in their order, and nothing is
written outside of a buffer. -/
def ListsExactly (b : StorageBackend) (dirs : Bytes → DirListing) (path : Bytes) : Prop :=
  ∀ (σ : Type) (cb : Bytes → Bool → Nat → σ → σ × Int) (st : σ),
    ∃ physical st' calls ret, physicalPath b path .listDir = some physical ∧
      storageListDir b dirs path (recordCalls cb) (st, []) = some ((st', calls), ret) ∧
      List.Sublist calls ((visibleEntries (dirs physical).entries).map (exactCall path))

/-- The path fits the buffer, and the littlefs backend is not given a slash at the end. -/
def BuildsExactly (b : StorageBackend) (path name : Bytes) : Prop :=
  (exactPath path name).length < pathBufferSize ∧ (b = .littlefs → path.getLast? ≠ some 47)

/-! ## One entry -/

theorem fatEntryPath_eq (path name : Bytes) : fatEntryPath path name = exactPath path name := by
  rw [fatEntryPath, exactPath]
  by_cases hslash : path.getLast? = some 47
  · rw [if_pos hslash, if_pos hslash, List.append_nil]
    obtain ⟨front, rfl⟩ : ∃ front, path = front ++ [47] :=
      List.getLast?_eq_some_iff.mp hslash
    simp
  · rw [if_neg hslash, if_neg hslash, List.append_assoc, List.singleton_append]

/-- The backends build the exact path exactly when the condition holds. -/
theorem entryPath_eq_exactPath_iff {b : StorageBackend} {path name : Bytes} (hname : name ≠ [])
    (hnoslash : 47 ∉ name) :
    entryPath b path name = some (exactPath path name) ↔ BuildsExactly b path name := by
  cases b with
  | fatfs =>
    rw [entryPath, fatEntryPath_eq, BuildsExactly]
    split
    · rename_i hfits
      simp [hfits]
    · rename_i hlong
      simp [hlong]
  | littlefs =>
    rw [entryPath, Option.some.injEq, BuildsExactly]
    constructor
    · intro heq
      have hlength := congrArg List.length heq
      rw [copied, List.length_take] at hlength
      have hfits : (exactPath path name).length < pathBufferSize := by
        rw [pathBufferSize] at hlength ⊢
        omega
      refine ⟨hfits, fun _ hslash => ?_⟩
      -- with the slash that is there already, the text is too long by one
      obtain ⟨front, rfl⟩ : ∃ front, path = front ++ [47] :=
        List.getLast?_eq_some_iff.mp hslash
      have hexact : exactPath (front ++ [47]) name = front ++ 47 :: name := by
        rw [exactPath, if_pos hslash, List.dropLast_concat]
      rw [hexact] at heq
      have hpos := List.length_pos_iff.mpr hname
      rw [hexact, List.length_append, List.length_cons, pathBufferSize] at hfits
      obtain ⟨room, hroom⟩ : ∃ room, 255 - front.length = room + 2 :=
        ⟨253 - front.length, by omega⟩
      rw [copied, pathBufferSize, List.append_assoc, List.take_append,
        List.take_of_length_le (by omega), List.append_cancel_left_eq, List.singleton_append,
        hroom, List.take_succ_cons, List.take_succ_cons, List.cons.injEq] at heq
      apply hnoslash
      rw [← heq.2]
      exact List.mem_cons_self
    · rintro ⟨hfits, hslash⟩
      have hexact : exactPath path name = path ++ 47 :: name := by
        rw [exactPath, if_neg (hslash rfl)]
      rw [hexact] at hfits ⊢
      exact copied_of_fits hfits

/-! ## The walk -/

section Walk

variable {σ : Type} {b : StorageBackend} {path : Bytes}
  {cb : Bytes → Bool → Nat → σ → σ × Int}

/-- While all paths are exact, so are the calls. -/
theorem listEntries_exact {entries : List DirEntry}
    (hexact : ∀ e ∈ entries, entryPath b path e.name = some (exactPath path e.name))
    (hvisible : ∀ e ∈ entries, e.name ≠ [] ∧ ¬ (e.name = ascii "." ∨ e.name = ascii ".."))
    (st : σ) (before : List ListCall) :
    ∃ st' calls ret, listEntries (entryPath b path) (recordCalls cb) entries (st, before) =
        some ((st', before ++ calls), ret) ∧
      List.Sublist calls (entries.map (exactCall path)) := by
  induction entries generalizing st before with
  | nil => exact ⟨st, [], 0, by rw [List.append_nil]; rfl, List.nil_sublist _⟩
  | cons e entries ih =>
    rw [List.forall_mem_cons] at hexact hvisible
    obtain ⟨⟨hname, hdot⟩, hvisible⟩ := hvisible
    by_cases hstop : (cb (exactPath path e.name) e.isDir e.size st).2 = 0
    · have hcb : recordCalls cb (exactPath path e.name) e.isDir e.size (st, before) =
          (((cb (exactPath path e.name) e.isDir e.size st).1, before ++ [exactCall path e]),
            0) := by
        rw [recordCalls, hstop]
        rfl
      obtain ⟨st', calls, ret, hwalk, hcalls⟩ := ih hexact.2 hvisible
        (cb (exactPath path e.name) e.isDir e.size st).1 (before ++ [exactCall path e])
      refine ⟨st', exactCall path e :: calls, ret, ?_, hcalls.cons_cons _⟩
      rw [listEntries_next hname hdot hexact.1 hcb, hwalk, List.append_assoc, List.singleton_append]
    · refine ⟨_, [exactCall path e], _, listEntries_stop hname hdot hexact.1 rfl hstop, ?_⟩
      rw [List.map_cons]
      exact (List.nil_sublist _).cons_cons _

/-- A callback that never stops is called for every entry. -/
theorem calls_of_listEntries {entries : List DirEntry}
    (hvisible : ∀ e ∈ entries, e.name ≠ [] ∧ ¬ (e.name = ascii "." ∨ e.name = ascii ".."))
    {before calls : List ListCall} {ret : Int}
    (h : listEntries (entryPath b path) (recordCalls fun _ _ _ (st : Unit) => (st, 0)) entries
      ((), before) = some (((), calls), ret)) :
    calls.map (fun call => some call.path) =
      before.map (fun call => some call.path) ++ entries.map fun e => entryPath b path e.name := by
  induction entries generalizing before with
  | nil =>
    cases h
    rw [List.map_nil, List.append_nil]
  | cons e entries ih =>
    rw [List.forall_mem_cons] at hvisible
    obtain ⟨⟨hname, hdot⟩, hvisible⟩ := hvisible
    cases hpath : entryPath b path e.name with
    | none =>
      rw [listEntries_none hname hdot hpath] at h
      cases h
    | some fullPath =>
      have hfirst : (e :: entries).map (fun e => entryPath b path e.name) =
          some fullPath :: entries.map fun e => entryPath b path e.name := by
        rw [List.map_cons, hpath]
      rw [listEntries_next hname hdot hpath rfl] at h
      rw [hfirst, ih hvisible h, List.map_append, List.append_assoc]
      rfl

end Walk

/-- Exact calls are made of exact paths. -/
theorem ListsExactly.builds {b : StorageBackend} {dirs : Bytes → DirListing} {path : Bytes}
    (hnames : ∀ physical, ∀ e ∈ (dirs physical).entries, 47 ∉ e.name)
    (h : ListsExactly b dirs path) :
    ∃ physical, physicalPath b path .listDir = some physical ∧
      ((dirs physical).ret = 0 → ∀ e ∈ visibleEntries (dirs physical).entries,
        BuildsExactly b path e.name) := by
  obtain ⟨physical, st, calls, ret, hphysical, hlist, hcalls⟩ :=
    h Unit (fun _ _ _ st => (st, 0)) ()
  refine ⟨physical, hphysical, fun hret e he => ?_⟩
  rw [storageListDir, hphysical, Option.bind_some, if_neg (not_not.mpr hret),
    ← listEntries_visibleEntries] at hlist
  have hpaths := calls_of_listEntries (fun e he => (mem_visibleEntries he).2) hlist
  have hlength := congrArg List.length hpaths
  rw [List.length_map, List.map_nil, List.nil_append, List.length_map] at hlength
  have hall := hcalls.eq_of_length (by rw [hlength, List.length_map])
  rw [hall, List.map_nil, List.nil_append, List.map_map, List.map_inj_left] at hpaths
  obtain ⟨hmem, hname, -⟩ := mem_visibleEntries he
  exact (entryPath_eq_exactPath_iff hname (hnames physical e hmem)).mp (hpaths e he).symm

/-- **Listed paths.** A listing hands exact paths to every callback exactly when its own
path can be translated, and every entry that it comes to builds an exact path. -/
theorem listDir_exact_iff (b : StorageBackend) (dirs : Bytes → DirListing) (path : Bytes)
    (hnames : ∀ physical, ∀ e ∈ (dirs physical).entries, 47 ∉ e.name) :
    ListsExactly b dirs path ↔
      ∃ physical, physicalPath b path .listDir = some physical ∧
        ((dirs physical).ret = 0 → ∀ e ∈ visibleEntries (dirs physical).entries,
          BuildsExactly b path e.name) := by
  constructor
  · exact ListsExactly.builds hnames
  · rintro ⟨physical, hphysical, hbuilds⟩ σ cb st
    by_cases hret : (dirs physical).ret = 0
    · have hexact : ∀ e ∈ visibleEntries (dirs physical).entries,
          entryPath b path e.name = some (exactPath path e.name) := by
        intro e he
        obtain ⟨hmem, hname, -⟩ := mem_visibleEntries he
        exact (entryPath_eq_exactPath_iff hname (hnames physical e hmem)).mpr (hbuilds hret e he)
      obtain ⟨st', calls, ret, hwalk, hcalls⟩ := @listEntries_exact σ b path cb _ hexact
        (fun e he => (mem_visibleEntries he).2) st []
      refine ⟨physical, st', calls, ret, hphysical, ?_, hcalls⟩
      rw [storageListDir, hphysical, Option.bind_some, if_neg (not_not.mpr hret),
        ← listEntries_visibleEntries, hwalk, List.nil_append]
    · refine ⟨physical, st, [], (dirs physical).ret, hphysical, ?_, List.nil_sublist _⟩
      rw [storageListDir, hphysical, Option.bind_some, if_pos hret]

/-- A directory with one file. -/
def oneFile (name : Bytes) : Bytes → DirListing := fun _ => ⟨0, [⟨name, false, 0⟩]⟩

theorem oneFile_names {name : Bytes} (hname : 47 ∉ name) (physical : Bytes) :
    ∀ e ∈ (oneFile name physical).entries, 47 ∉ e.name := by
  intro e he
  rw [List.mem_singleton.mp he]
  exact hname

theorem mem_visibleEntries_oneFile {name : Bytes} (hname : 2 < name.length) (physical : Bytes) :
    ⟨name, false, 0⟩ ∈ visibleEntries (oneFile name physical).entries := by
  have hne (other : Bytes) (hother : other.length ≤ 2) : name ≠ other := by
    rintro rfl
    omega
  simp [visibleEntries, oneFile, hne [] (by decide), hne (ascii ".") (by decide),
    hne (ascii "..") (by decide)]

theorem listDir_exact_iff_flight :
    ListsExactly .fatfs (oneFile (ascii "flight.txt")) (ascii "/logs/20250101/00000007") ↔
      ∃ physical,
        physicalPath .fatfs (ascii "/logs/20250101/00000007") .listDir = some physical ∧
        ((oneFile (ascii "flight.txt") physical).ret = 0 →
          ∀ e ∈ visibleEntries (oneFile (ascii "flight.txt") physical).entries,
            BuildsExactly .fatfs (ascii "/logs/20250101/00000007") e.name) :=
  listDir_exact_iff .fatfs (oneFile (ascii "flight.txt")) _ (oneFile_names (by decide))

/-- Names of 250 and 251 letters: on FAT the buffer is left by one byte, and on littlefs the
path is cut off. -/
theorem not_listsExactly :
    ¬ ListsExactly .fatfs (oneFile (List.replicate 250 65)) (ascii "/logs") ∧
      ¬ ListsExactly .littlefs (oneFile (List.replicate 251 65)) (ascii "/lfs") := by
  constructor
  · intro h
    obtain ⟨physical, -, hbuilds⟩ := h.builds (oneFile_names (by decide +kernel))
    obtain ⟨hfits, -⟩ := hbuilds rfl _ (mem_visibleEntries_oneFile (by decide +kernel) physical)
    exact absurd hfits (by decide +kernel)
  · intro h
    obtain ⟨physical, -, hbuilds⟩ := h.builds (oneFile_names (by decide +kernel))
    obtain ⟨hfits, -⟩ := hbuilds rfl _ (mem_visibleEntries_oneFile (by decide +kernel) physical)
    exact absurd hfits (by decide +kernel)

end TempoBt
