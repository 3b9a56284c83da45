-- SUMMARY: Directory listings of the storage layer: the walk over a directory's entries, and the paths handed to the callback.
import TempoBt.Services.Storage.Paths

/-!
# Directory listings

`storage_list_dir` opens a directory and calls a function back with the path, the
kind and the size of each entry, until the function asks to stop. What the file
system answers to one listing is an argument.
-/

namespace TempoBt

open CString

/-- `struct fs_dirent` -/
structure DirEntry where
  name : Bytes
  isDir : Bool
  size : Nat

/-- A name that the file system gives to an entry, other than `.` and `..`. -/
structure FileName (name : Bytes) : Prop where
  ne_nil : name ≠ []
  ne_dot : name ≠ ascii "."
  ne_dotdot : name ≠ ascii ".."
  no_nul : (0 : UInt8) ∉ name
  no_slash : (47 : UInt8) ∉ name
  length_le : name.length ≤ 255

instance (name : Bytes) : Decidable (FileName name) :=
  decidable_of_iff
    (name ≠ [] ∧ name ≠ ascii "." ∧ name ≠ ascii ".." ∧ (0 : UInt8) ∉ name ∧ (47 : UInt8) ∉ name ∧
      name.length ≤ 255)
    ⟨fun ⟨h₁, h₂, h₃, h₄, h₅, h₆⟩ => ⟨h₁, h₂, h₃, h₄, h₅, h₆⟩,
      fun ⟨h₁, h₂, h₃, h₄, h₅, h₆⟩ => ⟨h₁, h₂, h₃, h₄, h₅, h₆⟩⟩

/-- What one listing is answered: the return value of the calls that open the
directory, and the entries that `fs_readdir` gives before it fails or comes to the
end. -/
structure DirListing where
  ret : Int
  entries : List DirEntry

/-- The text of an entry's path on FAT: a slash is put in between if there is none. -/
def fatEntryPath (path name : Bytes) : Bytes :=
  path ++ (if path.getLast? = some 47 then [] else [47]) ++ name

/-- The path of an entry as the backend's `list_dir` builds it in its buffer; `none`
when `strcat` and `strncat` leave the buffer. -/
def entryPath (b : StorageBackend) (path name : Bytes) : Option Bytes :=
  match b with
  | .fatfs =>
    if (fatEntryPath path name).length < pathBufferSize then some (fatEntryPath path name) else none
  | .littlefs => some (copied pathBufferSize (path ++ 47 :: name))

section Walk

variable {σ : Type*} (pathOf : Bytes → Option Bytes) (cb : Bytes → Bool → Nat → σ → σ × Int)

/-- The loop over the entries, with the value of the last callback. -/
def listEntries : List DirEntry → σ → Option (σ × Int)
  | [], st => some (st, 0)
  | entry :: rest, st =>
    if entry.name = [] then some (st, 0)
    else if entry.name = ascii "." ∨ entry.name = ascii ".." then listEntries rest st
    else
      (pathOf entry.name).bind fun fullPath =>
        let r := cb fullPath entry.isDir entry.size st
        if r.2 ≠ 0 then some r else listEntries rest r.1

variable {pathOf cb} {entry : DirEntry} {rest : List DirEntry} {st st' : σ} {fullPath : Bytes}
  {ret : Int}

/-- The two entries that every directory has are passed over. -/
theorem listEntries_dots (hdot : entry.name = ascii "." ∨ entry.name = ascii "..") :
    listEntries pathOf cb (entry :: rest) st = listEntries pathOf cb rest st := by
  have hname : entry.name ≠ [] := by
    rintro hnil
    rw [hnil] at hdot
    exact absurd hdot (by decide)
  rw [listEntries, if_neg hname, if_pos hdot]

/-- An entry after which the walk goes on. -/
theorem listEntries_next (hname : entry.name ≠ [])
    (hdot : ¬ (entry.name = ascii "." ∨ entry.name = ascii ".."))
    (hpath : pathOf entry.name = some fullPath)
    (hcb : cb fullPath entry.isDir entry.size st = (st', 0)) :
    listEntries pathOf cb (entry :: rest) st = listEntries pathOf cb rest st' := by
  rw [listEntries, if_neg hname, if_neg hdot, hpath, Option.bind_some, hcb]
  rfl

/-- An entry at which the function asks to stop. -/
theorem listEntries_stop (hname : entry.name ≠ [])
    (hdot : ¬ (entry.name = ascii "." ∨ entry.name = ascii ".."))
    (hpath : pathOf entry.name = some fullPath)
    (hcb : cb fullPath entry.isDir entry.size st = (st', ret)) (hret : ret ≠ 0) :
    listEntries pathOf cb (entry :: rest) st = some (st', ret) := by
  rw [listEntries, if_neg hname, if_neg hdot, hpath, Option.bind_some, hcb]
  exact if_pos hret

/-- An entry whose path leaves the buffer. -/
theorem listEntries_none (hname : entry.name ≠ [])
    (hdot : ¬ (entry.name = ascii "." ∨ entry.name = ascii ".."))
    (hpath : pathOf entry.name = none) : listEntries pathOf cb (entry :: rest) st = none := by
  rw [listEntries, if_neg hname, if_neg hdot, hpath, Option.bind_none]

end Walk

/-- `storage_list_dir` for an initialised storage; `dirs` answers the listing of a
physical path. -/
def storageListDir {σ : Type*} (b : StorageBackend) (dirs : Bytes → DirListing) (path : Bytes)
    (cb : Bytes → Bool → Nat → σ → σ × Int) (st : σ) : Option (σ × Int) :=
  (physicalPath b path .listDir).bind fun physical =>
    if (dirs physical).ret ≠ 0 then some (st, (dirs physical).ret)
    else listEntries (entryPath b path) cb (dirs physical).entries st

section Invariant

variable {σ : Type*} {I : σ → Prop} {pathOf : Bytes → Option Bytes}
  {cb : Bytes → Bool → Nat → σ → σ × Int}

/-- What the callback keeps, a walk over the entries keeps. -/
theorem listEntries_invariant {entries : List DirEntry}
    (hcb : ∀ e ∈ entries, ∀ fullPath, pathOf e.name = some fullPath →
      ∀ st, I st → I (cb fullPath e.isDir e.size st).1)
    {st : σ} (hst : I st) {r : σ × Int} (h : listEntries pathOf cb entries st = some r) :
    I r.1 := by
  induction entries generalizing st with
  | nil =>
    cases h
    exact hst
  | cons e entries ih =>
    rw [List.forall_mem_cons] at hcb
    rw [listEntries] at h
    split at h
    · cases h
      exact hst
    · split at h
      · exact ih hcb.2 hst h
      · obtain ⟨fullPath, hpath, h⟩ := Option.bind_eq_some_iff.mp h
        have hnext := hcb.1 fullPath hpath st hst
        simp only at h
        split at h
        · cases h
          exact hnext
        · exact ih hcb.2 hnext h

theorem storageListDir_invariant {b : StorageBackend} {dirs : Bytes → DirListing} {path : Bytes}
    (hcb : ∀ physical ∈ physicalPath b path .listDir, ∀ e ∈ (dirs physical).entries,
      ∀ fullPath, entryPath b path e.name = some fullPath →
        ∀ st, I st → I (cb fullPath e.isDir e.size st).1)
    {st : σ} (hst : I st) {r : σ × Int} (h : storageListDir b dirs path cb st = some r) :
    I r.1 := by
  obtain ⟨physical, hphysical, h⟩ := Option.bind_eq_some_iff.mp h
  split at h
  · cases h
    exact hst
  · exact listEntries_invariant (hcb physical hphysical) hst h

end Invariant

/-- The entries that the walk over a listing comes to: up to one without a name, and
without the two that every directory has. -/
def visibleEntries (entries : List DirEntry) : List DirEntry :=
  (entries.takeWhile fun e => e.name != []).filter fun e =>
    !(e.name == ascii "." || e.name == ascii "..")

theorem mem_visibleEntries {entries : List DirEntry} {e : DirEntry}
    (h : e ∈ visibleEntries entries) :
    e ∈ entries ∧ e.name ≠ [] ∧ ¬ (e.name = ascii "." ∨ e.name = ascii "..") := by
  obtain ⟨hmem, hdot⟩ := List.mem_filter.mp h
  refine ⟨(List.takeWhile_prefix _).subset hmem, ?_, by simpa using hdot⟩
  simpa using List.mem_takeWhile_imp hmem

theorem listEntries_visibleEntries {σ : Type*} (pathOf : Bytes → Option Bytes)
    (cb : Bytes → Bool → Nat → σ → σ × Int) (entries : List DirEntry) (st : σ) :
    listEntries pathOf cb (visibleEntries entries) st = listEntries pathOf cb entries st := by
  induction entries generalizing st with
  | nil => rfl
  | cons e entries ih =>
    by_cases hname : e.name = []
    · rw [visibleEntries, List.takeWhile_cons_of_neg (by simpa using hname), listEntries,
        if_pos hname]
      rfl
    · rw [visibleEntries, List.takeWhile_cons_of_pos (by simpa using hname)]
      by_cases hdot : e.name = ascii "." ∨ e.name = ascii ".."
      · rw [List.filter_cons_of_neg (by simpa [or_iff_not_imp_left] using hdot),
        listEntries_dots hdot]
        exact ih st
      · rw [List.filter_cons_of_pos (by simpa using hdot), listEntries, listEntries, if_neg hname,
          if_neg hname, if_neg hdot, if_neg hdot]
        congr 1
        funext fullPath
        simp only
        split
        · rfl
        · exact ih _

/-! ## Paths of entries -/

/-- On FAT the path of an entry fits its buffer. -/
def PathFits (b : StorageBackend) (path name : Bytes) : Prop :=
  b = .fatfs → path.length + name.length + 1 < pathBufferSize

/-- Only the FAT backend leaves its buffer. -/
theorem entryPath_isSome {b : StorageBackend} {path name : Bytes}
    (hslash : path.getLast? ≠ some 47) :
    (∃ fullPath, entryPath b path name = some fullPath) ↔ PathFits b path name := by
  cases b with
  | fatfs =>
    have hfat : fatEntryPath path name = path ++ 47 :: name := by simp [fatEntryPath, hslash]
    rw [entryPath, hfat, List.length_append, List.length_cons]
    split
    · rename_i hfits
      constructor
      · intro _ _
        omega
      · exact fun _ => ⟨_, rfl⟩
    · rename_i hlong
      constructor
      · rintro ⟨fullPath, h⟩
        cases h
      · intro h
        exact absurd (h rfl) (by omega)
  | littlefs =>
    constructor
    · rintro - ⟨⟩
    · exact fun _ => ⟨_, rfl⟩

theorem entryPath_eq_none {b : StorageBackend} {path name : Bytes}
    (hslash : path.getLast? ≠ some 47) (h : ¬ PathFits b path name) :
    entryPath b path name = none := by
  rw [Option.eq_none_iff_forall_ne_some]
  exact fun fullPath hpath => h ((entryPath_isSome hslash).mp ⟨fullPath, hpath⟩)

/-- An entry whose path fits the buffer has that path, below a directory that is not
given with a slash at its end. -/
theorem entryPath_of_fits {b : StorageBackend} {path name : Bytes}
    (hslash : path.getLast? ≠ some 47) (hfits : path.length + name.length + 1 < pathBufferSize) :
    entryPath b path name = some (path ++ 47 :: name) := by
  have hpath : fatEntryPath path name = path ++ 47 :: name := by simp [fatEntryPath, hslash]
  have hlen : (path ++ 47 :: name).length < pathBufferSize := by
    rw [List.length_append, List.length_cons]
    omega
  cases b with
  | fatfs => rw [entryPath, hpath, if_pos hlen]
  | littlefs => rw [entryPath, copied_of_fits hlen]

/-- Where it fits, the path of an entry is what a bounded copy makes of it. -/
theorem entryPath_of_pathFits {b : StorageBackend} {path name : Bytes}
    (hslash : path.getLast? ≠ some 47) (h : PathFits b path name) :
    entryPath b path name = some (copied pathBufferSize (path ++ 47 :: name)) := by
  cases b with
  | littlefs => rfl
  | fatfs =>
    have hfits := h rfl
    rw [entryPath_of_fits hslash hfits, copied_of_fits]
    rw [List.length_append, List.length_cons]
    omega

end TempoBt
