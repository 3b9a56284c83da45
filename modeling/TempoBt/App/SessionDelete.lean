-- SUMMARY: The deletion of a session on a file system that any unlink and any listing can fail on, and the requests that delete the session they name and nothing else.
import TempoBt.App.ActiveSession
import Mathlib.Tactic.SplitIfs

/-!
# Session deletion

`tempo_mgmt_session_delete` pastes the host's text into a path, unlinks the files that a
listing of that path gives, and then the path itself. The file system is any that removes
what an unlink answers with 0, and nothing that it answers with an error.
-/

namespace TempoBt

open CString

/-! ## File systems -/

/-- What is on a card, and `fs_unlink`. -/
structure FileSystem (F : Type*) where
  Exists : F → Bytes → Prop
  unlink : Bytes → F → F × Int
  /-- What is in a directory is there with the directory. -/
  parent : ∀ s dir name, Exists s (dir ++ 47 :: name) → Exists s dir
  unlink_zero : ∀ p s, (unlink p s).2 = 0 → ¬ Exists (unlink p s).1 p
  unlink_error : ∀ p s, (unlink p s).2 ≠ 0 → ∀ q, Exists (unlink p s).1 q ↔ Exists s q

variable {F : Type*}

/-- `storage_delete`. A path that outgrows the buffer of the FAT backend is none of those
that are deleted here. -/
def FileSystem.storageDelete (fs : FileSystem F) (b : StorageBackend) (path : Bytes) (s : F) :
    F × Int :=
  match physicalPath b path .delete with
  | some physical => fs.unlink physical s
  | none => (s, 0)

/-! ## The request -/

/-- The answers that `delete_files_callback` takes for a failure. -/
def DeleteFails (ret : Int) : Prop := ret ≠ 0 ∧ ret ≠ -Errno.enoent

instance (ret : Int) : Decidable (DeleteFails ret) := inferInstanceAs (Decidable (_ ∧ _))

/-- `delete_files_callback`, with the state that `storage_delete` changes. -/
def deleteFilesCallbackOn (delete : Bytes → F → F × Int) (path : Bytes) (isDir : Bool) (_size : Nat)
    (st : DeleteContext × F) : (DeleteContext × F) × Int :=
  if isDir then (st, 0)
  else
    let r := delete path st.2
    let ctx := { st.1 with handed := st.1.handed ++ [path] }
    if DeleteFails r.2 then (({ ctx with error := r.2 }, r.1), -1)
    else (({ ctx with filesDeleted := ctx.filesDeleted + 1 }, r.1), 0)

/-- The path that a key leads to. -/
def sessionDeletePath (key : Bytes) : Bytes := copied 256 (ascii "/logs/" ++ cstr key)

/-- `tempo_mgmt_session_delete`, with the state that `storage_delete` changes. -/
def tempoMgmtSessionDeleteOn (delete : Bytes → F → F × Int) (b : StorageBackend)
    (request : SmpRequest) (dirs : Bytes → DirListing) (d : Device) (s : F) :
    Option ((List Bytes × Except MgmtErr SessionDeleteResponse) × F) :=
  match decodeMap (textField (ascii "session")) request none with
  | none | some none => some (([], .error .einval), s)
  | some (some key) =>
    if isCurrentSession (sessionDeletePath key) d then some (([], .ok .currentlyActive), s)
    else
      (storageListDir b dirs (sessionDeletePath key) (deleteFilesCallbackOn delete)
          (⟨0, 0, []⟩, s)).map fun r =>
        if r.1.1.error ≠ 0 then ((r.1.1.handed, .error .eunknown), r.1.2)
        else
          ((r.1.1.handed ++ [sessionDeletePath key], .ok (.deleted r.1.1.filesDeleted)),
            (delete (sessionDeletePath key) r.1.2).1)

/-- A callback that is seen through a projection of its state. -/
theorem storageListDir_proj {σ τ : Type*} {b : StorageBackend} {dirs : Bytes → DirListing}
    {path : Bytes} {cb : Bytes → Bool → Nat → σ → σ × Int} {cb' : Bytes → Bool → Nat → τ → τ × Int}
    (π : σ → τ)
    (hcb : ∀ fullPath isDir size st, cb' fullPath isDir size (π st) =
      (π (cb fullPath isDir size st).1, (cb fullPath isDir size st).2)) (st : σ) :
    storageListDir b dirs path cb' (π st) =
      (storageListDir b dirs path cb st).map fun r => (π r.1, r.2) := by
  have hwalk (entries : List DirEntry) (st : σ) :
      listEntries (entryPath b path) cb' entries (π st) =
        (listEntries (entryPath b path) cb entries st).map fun r => (π r.1, r.2) := by
    induction entries generalizing st with
    | nil => rfl
    | cons e entries ih =>
      rw [listEntries, listEntries]
      split
      · rfl
      · split
        · exact ih st
        · cases entryPath b path e.name with
          | none => rfl
          | some fullPath =>
            simp only [Option.bind_some, hcb]
            split
            · rfl
            · exact ih _
  rw [storageListDir, storageListDir]
  cases physicalPath b path .listDir with
  | none => rfl
  | some physical =>
    simp only [Option.bind_some]
    split
    · rfl
    · exact hwalk _ st

theorem deleteFilesCallback_eq (delete : Bytes → Int) (path : Bytes) (isDir : Bool) (size : Nat)
    (st : DeleteContext × Unit) :
    deleteFilesCallback delete path isDir size st.1 =
      ((deleteFilesCallbackOn (fun path s => (s, delete path)) path isDir size st).1.1,
        (deleteFilesCallbackOn (fun path s => (s, delete path)) path isDir size st).2) := by
  cases isDir with
  | true => rfl
  | false =>
    by_cases hfails : DeleteFails (delete path)
    · have hcond : delete path ≠ 0 ∧ delete path ≠ -Errno.enoent := hfails
      simp [deleteFilesCallback, deleteFilesCallbackOn, hfails, hcond]
    · have hcond : ¬ (delete path ≠ 0 ∧ delete path ≠ -Errno.enoent) := hfails
      simp [deleteFilesCallback, deleteFilesCallbackOn, hfails, hcond]

/-- Where each path has one answer, the request is the one without a state. -/
theorem tempoMgmtSessionDelete_eq (b : StorageBackend) (request : SmpRequest) (e : DeleteEnv)
    (d : Device) :
    tempoMgmtSessionDelete b request e d =
      (tempoMgmtSessionDeleteOn (fun path (s : Unit) => (s, e.delete path)) b request e.dirs d
        ()).map Prod.fst := by
  rw [tempoMgmtSessionDelete, tempoMgmtSessionDeleteOn]
  cases decodeMap (textField (ascii "session")) request none with
  | none => rfl
  | some session =>
    cases session with
    | none => rfl
    | some key =>
      simp only [sessionDeletePath]
      by_cases hcurrent : isCurrentSession (copied 256 (ascii "/logs/" ++ cstr key)) d = true
      · simp only [hcurrent, if_true, Option.map_some]
      · have hwalk := @storageListDir_proj (DeleteContext × Unit) DeleteContext b e.dirs
          (copied 256 (ascii "/logs/" ++ cstr key)) _ _ Prod.fst (deleteFilesCallback_eq e.delete)
          (⟨0, 0, []⟩, ())
        simp only at hwalk
        simp only [hcurrent, if_false, Bool.false_eq_true, hwalk, Option.map_map]
        congr 1
        funext r
        simp only [Function.comp_apply]
        split <;> rfl

/-! ## What is unlinked -/

/-- The mount point in front of a logical path. -/
def mountPoint (b : StorageBackend) : Bytes :=
  match b with
  | .fatfs => fatfsMountPoint
  | .littlefs => []

/-- The directory of a session, as the file system knows it. -/
def sessionDir (b : StorageBackend) (key : Bytes) : Bytes := mountPoint b ++ ascii "/logs/" ++ key

/-- The session directory itself, or a file directly in it. -/
def InSession (session p : Bytes) : Prop :=
  p = session ∨ ∃ name, 47 ∉ name ∧ p = session ++ 47 :: name

/-- A key with two components, the date and the session. -/
def NamedKey (key : Bytes) : Prop :=
  ∃ date id, FileName date ∧ FileName id ∧ key = date ++ 47 :: id

/-- The host asks to delete the session of the key. -/
def AsksToDelete (request : SmpRequest) (key : Bytes) : Prop :=
  decodeMap (textField (ascii "session")) request none = some (some key)

/-- The request unlinks the session that it names and what is directly in it, nothing else;
and when it reports success, nothing of that session is left. -/
def DeletesOnlyNamed (fs : FileSystem F) (b : StorageBackend) (request : SmpRequest)
    (dirs : Bytes → DirListing) (d : Device) (s : F) : Prop :=
  ∃ handed reply s',
    tempoMgmtSessionDeleteOn (fs.storageDelete b) b request dirs d s = some ((handed, reply), s') ∧
    (∀ p ∈ handed, ∃ key physical, AsksToDelete request key ∧ NamedKey key ∧
      physicalPath b p .delete = some physical ∧ InSession (sessionDir b key) physical) ∧
    ∀ n, reply = .ok (.deleted n) → ∀ key, AsksToDelete request key →
      ¬ fs.Exists s' (sessionDir b key) ∧ ∀ name, ¬ fs.Exists s' (sessionDir b key ++ 47 :: name)

/-- The entries that the listing of a directory gives. -/
def givenEntries (dirs : Bytes → DirListing) (physical : Bytes) : List DirEntry :=
  if (dirs physical).ret = 0 then visibleEntries (dirs physical).entries else []

/-- The files are unlinked in turn, up to the first failure. -/
def unlinkFiles (delete : Bytes → F → F × Int) (path : Bytes) : List DirEntry → F → F × Int
  | [], s => (s, 0)
  | e :: rest, s =>
    if e.isDir then unlinkFiles delete path rest s
    else
      let r := delete (copied pathBufferSize (path ++ 47 :: e.name)) s
      if DeleteFails r.2 then r else unlinkFiles delete path rest r.1

/-- As far as the files are unlinked, the paths fit. -/
def UnlinksFit (b : StorageBackend) (delete : Bytes → F → F × Int) (path : Bytes) :
    List DirEntry → F → Prop
  | [], _ => True
  | e :: rest, s =>
    PathFits b path e.name ∧
      if e.isDir then UnlinksFit b delete path rest s
      else
        let r := delete (copied pathBufferSize (path ++ 47 :: e.name)) s
        ¬ DeleteFails r.2 → UnlinksFit b delete path rest r.1

/-- The key names a session whose path fits every buffer, and either a file of it fails to
be unlinked, or its directory is unlinked after its files, or is not there by then. -/
structure Deletable (fs : FileSystem F) (b : StorageBackend) (dirs : Bytes → DirListing)
    (key : Bytes) (s : F) : Prop where
  named : NamedKey key
  fits : (sessionDir b key).length < pathBufferSize
  unlinks : UnlinksFit b (fs.storageDelete b) (ascii "/logs/" ++ key)
    (givenEntries dirs (sessionDir b key)) s
  gone : ∀ s' ret, unlinkFiles (fs.storageDelete b) (ascii "/logs/" ++ key)
      (givenEntries dirs (sessionDir b key)) s = (s', ret) →
    ret ≠ 0 ∨ (fs.unlink (sessionDir b key) s').2 = 0 ∨ ¬ fs.Exists s' (sessionDir b key)

/-! ## Paths -/

theorem physicalPath_logs (b : StorageBackend) (rest : Bytes) {op : PathOp}
    (hop : op = .delete ∨ op = .listDir) :
    physicalPath b (ascii "/logs/" ++ rest) op =
      some (match b with
        | .fatfs => copied pathBufferSize (sessionDir .fatfs rest)
        | .littlefs => sessionDir .littlefs rest) := by
  rcases hop with rfl | rfl
  · cases b <;> rfl
  · cases b <;> rfl

/-- Where the session's own path fits, all of a path that begins with it is in it. -/
theorem inSession_of_prefix {session name p : Bytes} (hname : 47 ∉ name)
    (hlength : session.length ≤ p.length) (h : p <+: session ++ 47 :: name) :
    InSession session p := by
  obtain ⟨rest, rfl⟩ : session <+: p :=
    List.prefix_of_prefix_length_le (List.prefix_append session _) h hlength
  rw [List.prefix_append_right_inj] at h
  cases rest with
  | nil => exact .inl (List.append_nil session)
  | cons a rest =>
    obtain ⟨rfl, hrest⟩ := List.cons_prefix_cons.mp h
    exact .inr ⟨rest, fun hmem => hname (hrest.subset hmem), rfl⟩

theorem NamedKey.slash {key : Bytes} (h : NamedKey key) :
    (ascii "/logs/" ++ key).getLast? ≠ some 47 := by
  obtain ⟨date, id, -, hid, rfl⟩ := h
  rw [List.getLast?_append_of_ne_nil _ (by simp), List.getLast?_append_of_ne_nil _ (by simp),
    List.getLast?_cons_of_ne_nil hid.ne_nil]
  exact fun hlast => hid.no_slash (List.mem_of_getLast? hlast)

theorem NamedKey.cstr {key : Bytes} (h : NamedKey key) : cstr key = key := by
  obtain ⟨date, id, hdate, hid, rfl⟩ := h
  apply cstr_of_no_nul
  rw [List.mem_append, List.mem_cons, not_or, not_or]
  exact ⟨hdate.no_nul, by decide, hid.no_nul⟩

theorem length_sessionDir (b : StorageBackend) (key : Bytes) :
    (ascii "/logs/" ++ key).length ≤ (sessionDir b key).length := by
  rw [sessionDir, List.append_assoc, @List.length_append _ (mountPoint b)]
  exact Nat.le_add_left _ _

theorem length_entryPath {b : StorageBackend} {path name fullPath : Bytes}
    (h : entryPath b path name = some fullPath) : fullPath.length < pathBufferSize := by
  cases b with
  | fatfs =>
    rw [entryPath] at h
    split at h
    · rename_i hfits
      cases h
      exact hfits
    · cases h
  | littlefs =>
    cases h
    rw [copied, List.length_take, pathBufferSize]
    omega

theorem length_physicalPath {b : StorageBackend} {path physical : Bytes}
    (h : physicalPath b path .delete = some physical) (hpath : path.length < pathBufferSize) :
    physical.length < pathBufferSize := by
  cases b with
  | littlefs =>
    cases h
    exact hpath
  | fatfs =>
    rw [physicalPath, backendPath, fatfsTranslatePath] at h
    split at h
    · cases h
      exact hpath
    · cases h
      rw [copied, List.length_take, pathBufferSize]
      omega

/-- An entry of the session directory, or the directory itself where its path is cut. -/
theorem inSession_entryPath {b : StorageBackend} {key name fullPath : Bytes} (hkey : NamedKey key)
    (hfits : (sessionDir b key).length < pathBufferSize) (hname : 47 ∉ name)
    (h : entryPath b (ascii "/logs/" ++ key) name = some fullPath) :
    ∃ physical, physicalPath b fullPath .delete = some physical ∧
      InSession (sessionDir b key) physical := by
  have hassoc : sessionDir b (key ++ 47 :: name) = sessionDir b key ++ 47 :: name := by
    rw [sessionDir, sessionDir, List.append_assoc _ key]
  cases b with
  | fatfs =>
    have hpath : fullPath = ascii "/logs/" ++ (key ++ 47 :: name) := by
      have hfat : fatEntryPath (ascii "/logs/" ++ key) name =
          ascii "/logs/" ++ key ++ 47 :: name := by
        rw [fatEntryPath, if_neg hkey.slash, List.append_assoc, List.singleton_append]
      rw [entryPath, hfat] at h
      split at h
      · cases h
        rw [List.append_assoc]
      · cases h
    rw [hpath, physicalPath_logs _ _ (.inl rfl)]
    refine ⟨_, rfl, inSession_of_prefix hname ?_ ?_⟩
    · rw [hassoc, copied, List.length_take, List.length_append]
      have := hfits
      rw [pathBufferSize] at this ⊢
      omega
    · rw [hassoc]
      exact List.take_prefix _ _
  | littlefs =>
    cases h
    refine ⟨_, rfl, inSession_of_prefix hname ?_ (List.take_prefix _ _)⟩
    have hlogs : sessionDir .littlefs key = ascii "/logs/" ++ key := rfl
    rw [hlogs] at hfits ⊢
    rw [copied, List.length_take, @List.length_append _ (ascii "/logs/" ++ key)]
    rw [pathBufferSize] at hfits ⊢
    omega

/-! ## The listing -/

/-- What holds of the paths of all entries holds of those handed to `storage_delete`; after
an error there is one. -/
theorem handed_of_listing {b : StorageBackend} {dirs : Bytes → DirListing} {path : Bytes}
    {delete : Bytes → F → F × Int} {s : F} {Q : Bytes → Prop}
    (hentries : ∀ physical ∈ physicalPath b path .listDir, ∀ e ∈ (dirs physical).entries,
      ∀ fullPath, entryPath b path e.name = some fullPath → Q fullPath)
    {r : (DeleteContext × F) × Int}
    (h : storageListDir b dirs path (deleteFilesCallbackOn delete) (⟨0, 0, []⟩, s) = some r) :
    (∀ p ∈ r.1.1.handed, Q p) ∧ (r.1.1.error ≠ 0 → r.1.1.handed ≠ []) := by
  apply storageListDir_invariant
    (I := fun st => (∀ p ∈ st.1.handed, Q p) ∧ (st.1.error ≠ 0 → st.1.handed ≠ [])) _ _ h
  swap
  · exact ⟨by simp, fun h => absurd rfl h⟩
  rintro physical hphysical e he fullPath hpath st ⟨hhanded, herror⟩
  have hQ := hentries physical hphysical e he fullPath hpath
  have hall : ∀ p ∈ st.1.handed ++ [fullPath], Q p := by
    intro p hp
    rcases List.mem_append.mp hp with hp | hp
    · exact hhanded p hp
    · rw [List.mem_singleton.mp hp]
      exact hQ
  rw [deleteFilesCallbackOn]
  split
  · exact ⟨hhanded, herror⟩
  · simp only
    split
    · exact ⟨hall, by simp⟩
    · exact ⟨hall, by simp⟩

section Callback

variable {delete : Bytes → F → F × Int} {path : Bytes} {isDir : Bool} {size : Nat}
  {ctx : DeleteContext} {s : F}

theorem deleteFilesCallbackOn_dir (hdir : isDir = true) :
    deleteFilesCallbackOn delete path isDir size (ctx, s) = ((ctx, s), 0) := by
  rw [deleteFilesCallbackOn, if_pos hdir]

theorem deleteFilesCallbackOn_failed (hdir : isDir = false) (hret : DeleteFails (delete path s).2) :
    deleteFilesCallbackOn delete path isDir size (ctx, s) =
      (({ ctx with handed := ctx.handed ++ [path], error := (delete path s).2 },
        (delete path s).1), -1) := by
  simp [deleteFilesCallbackOn, hdir, hret]

theorem deleteFilesCallbackOn_deleted (hdir : isDir = false)
    (hret : ¬ DeleteFails (delete path s).2) :
    deleteFilesCallbackOn delete path isDir size (ctx, s) =
      (({ ctx with handed := ctx.handed ++ [path], filesDeleted := ctx.filesDeleted + 1 },
        (delete path s).1), 0) := by
  simp [deleteFilesCallbackOn, hdir, hret]

end Callback

/-- While the paths fit, the walk unlinks the files in turn. -/
theorem listEntries_delete {b : StorageBackend} {path : Bytes} {delete : Bytes → F → F × Int}
    (hslash : path.getLast? ≠ some 47) {entries : List DirEntry}
    (hvisible : ∀ e ∈ entries, e.name ≠ [] ∧ ¬ (e.name = ascii "." ∨ e.name = ascii ".."))
    {ctx : DeleteContext} (herror : ctx.error = 0) {s : F}
    (hfits : UnlinksFit b delete path entries s) :
    ∃ ctx' ret, listEntries (entryPath b path) (deleteFilesCallbackOn delete) entries (ctx, s) =
        some ((ctx', (unlinkFiles delete path entries s).1), ret) ∧
      ctx'.error = (unlinkFiles delete path entries s).2 := by
  induction entries generalizing ctx s with
  | nil => exact ⟨ctx, 0, rfl, herror⟩
  | cons e entries ih =>
    rw [List.forall_mem_cons] at hvisible
    obtain ⟨⟨hname, hdot⟩, hvisible⟩ := hvisible
    obtain ⟨hfirst, hrest⟩ := hfits
    have hpath := entryPath_of_pathFits hslash hfirst
    rw [unlinkFiles]
    cases hdir : e.isDir with
    | true =>
      rw [hdir, if_pos rfl] at hrest
      rw [listEntries_next hname hdot hpath (deleteFilesCallbackOn_dir hdir), if_pos rfl]
      exact ih hvisible herror hrest
    | false =>
      rw [hdir] at hrest
      simp only [Bool.false_eq_true, if_false] at hrest ⊢
      by_cases hret : DeleteFails (delete (copied pathBufferSize (path ++ 47 :: e.name)) s).2
      · rw [listEntries_stop hname hdot hpath (deleteFilesCallbackOn_failed hdir hret) (by decide),
          if_pos hret]
        exact ⟨_, _, rfl, rfl⟩
      · rw [listEntries_next hname hdot hpath (deleteFilesCallbackOn_deleted hdir hret),
          if_neg hret]
        apply ih hvisible _ (hrest hret)
        exact herror

/-- Otherwise the walk leaves the path buffer. -/
theorem listEntries_delete_none {b : StorageBackend} {path : Bytes} {delete : Bytes → F → F × Int}
    (hslash : path.getLast? ≠ some 47) {entries : List DirEntry}
    (hvisible : ∀ e ∈ entries, e.name ≠ [] ∧ ¬ (e.name = ascii "." ∨ e.name = ascii ".."))
    (ctx : DeleteContext) {s : F} (hfits : ¬ UnlinksFit b delete path entries s) :
    listEntries (entryPath b path) (deleteFilesCallbackOn delete) entries (ctx, s) = none := by
  induction entries generalizing ctx s with
  | nil => exact absurd trivial hfits
  | cons e entries ih =>
    rw [List.forall_mem_cons] at hvisible
    obtain ⟨⟨hname, hdot⟩, hvisible⟩ := hvisible
    rw [UnlinksFit, not_and] at hfits
    by_cases hfirst : PathFits b path e.name
    · have hpath := entryPath_of_pathFits hslash hfirst
      have hrest := hfits hfirst
      cases hdir : e.isDir with
      | true =>
        rw [hdir, if_pos rfl] at hrest
        rw [listEntries_next hname hdot hpath (deleteFilesCallbackOn_dir hdir)]
        exact ih hvisible ctx hrest
      | false =>
        rw [hdir] at hrest
        simp only [Bool.false_eq_true, if_false, Classical.not_imp] at hrest
        obtain ⟨hret, hrest⟩ := hrest
        rw [listEntries_next hname hdot hpath (deleteFilesCallbackOn_deleted hdir hret)]
        exact ih hvisible _ hrest
    · exact listEntries_none hname hdot (entryPath_eq_none hslash hfirst)

/-! ## The request -/

section Request

variable {fs : FileSystem F} {b : StorageBackend} {request : SmpRequest}
  {dirs : Bytes → DirListing} {d : Device} {s : F} {key : Bytes}

/-- A request that is not refused. -/
theorem sessionDelete_of_asks {delete : Bytes → F → F × Int} (hasks : AsksToDelete request key)
    (hidle : isCurrentSession (sessionDeletePath key) d = false) :
    tempoMgmtSessionDeleteOn delete b request dirs d s =
      (storageListDir b dirs (sessionDeletePath key) (deleteFilesCallbackOn delete)
          (⟨0, 0, []⟩, s)).map fun r =>
        if r.1.1.error ≠ 0 then ((r.1.1.handed, .error .eunknown), r.1.2)
        else
          ((r.1.1.handed ++ [sessionDeletePath key], .ok (.deleted r.1.1.filesDeleted)),
            (delete (sessionDeletePath key) r.1.2).1) := by
  have hdecode : decodeMap (textField (ascii "session")) request none = some (some key) := hasks
  rw [tempoMgmtSessionDeleteOn, hdecode]
  simp only [hidle, Bool.false_eq_true, if_false]

/-- What a request that is not refused hands to `storage_delete` is short, and something is
handed over. -/
theorem exists_handed (hasks : AsksToDelete request key)
    (hidle : isCurrentSession (sessionDeletePath key) d = false)
    {handed : List Bytes} {reply : Except MgmtErr SessionDeleteResponse} {s' : F}
    (h : tempoMgmtSessionDeleteOn (fs.storageDelete b) b request dirs d s =
      some ((handed, reply), s')) :
    ∃ p ∈ handed, p.length < pathBufferSize := by
  have hpath : (sessionDeletePath key).length < pathBufferSize := by
    rw [sessionDeletePath, copied, List.length_take, pathBufferSize]
    omega
  rw [sessionDelete_of_asks hasks hidle] at h
  obtain ⟨r, hr, heq⟩ := Option.map_eq_some_iff.mp h
  obtain ⟨hshort, hne⟩ := handed_of_listing (Q := fun p => p.length < pathBufferSize)
    (fun _ _ _ _ _ hfull => length_entryPath hfull) hr
  split at heq
  · rename_i herror
    cases heq
    obtain ⟨p, hp⟩ := List.exists_mem_of_ne_nil _ (hne herror)
    exact ⟨p, hp, hshort p hp⟩
  · cases heq
    exact ⟨_, List.mem_append_right _ (List.mem_singleton_self _), hpath⟩

theorem NamedKey.sessionDeletePath (hkey : NamedKey key)
    (hfits : (sessionDir b key).length < pathBufferSize) :
    sessionDeletePath key = ascii "/logs/" ++ key := by
  rw [TempoBt.sessionDeletePath, hkey.cstr]
  exact copied_of_fits ((length_sessionDir b key).trans_lt hfits)

theorem physicalPath_session (hfits : (sessionDir b key).length < pathBufferSize) {op : PathOp}
    (hop : op = .delete ∨ op = .listDir) :
    physicalPath b (ascii "/logs/" ++ key) op = some (sessionDir b key) := by
  rw [physicalPath_logs b key hop]
  cases b with
  | littlefs => rfl
  | fatfs => exact congrArg some (copied_of_fits hfits)

/-- The walk over the session directory, whether or not it opens. -/
theorem storageListDir_session (hkey : NamedKey key)
    (hfits : (sessionDir b key).length < pathBufferSize) {delete : Bytes → F → F × Int} :
    (UnlinksFit b delete (ascii "/logs/" ++ key) (givenEntries dirs (sessionDir b key)) s →
      ∃ ctx ret, storageListDir b dirs (ascii "/logs/" ++ key) (deleteFilesCallbackOn delete)
          (⟨0, 0, []⟩, s) =
          some ((ctx, (unlinkFiles delete (ascii "/logs/" ++ key)
            (givenEntries dirs (sessionDir b key)) s).1), ret) ∧
        ctx.error = (unlinkFiles delete (ascii "/logs/" ++ key)
          (givenEntries dirs (sessionDir b key)) s).2) ∧
    (¬ UnlinksFit b delete (ascii "/logs/" ++ key) (givenEntries dirs (sessionDir b key)) s →
      storageListDir b dirs (ascii "/logs/" ++ key) (deleteFilesCallbackOn delete)
        (⟨0, 0, []⟩, s) = none) := by
  rw [storageListDir, physicalPath_session hfits (.inr rfl), Option.bind_some, givenEntries]
  by_cases hret : (dirs (sessionDir b key)).ret = 0
  · have hvisible : ∀ e ∈ visibleEntries (dirs (sessionDir b key)).entries,
        e.name ≠ [] ∧ ¬ (e.name = ascii "." ∨ e.name = ascii "..") :=
      fun e he => (mem_visibleEntries he).2
    rw [if_neg (not_not.mpr hret), if_pos hret, ← listEntries_visibleEntries]
    exact ⟨listEntries_delete hkey.slash hvisible rfl,
      listEntries_delete_none hkey.slash hvisible _⟩
  · rw [if_pos hret, if_neg hret]
    exact ⟨fun _ => ⟨_, _, rfl, rfl⟩, fun h => absurd trivial h⟩

theorem storageDelete_session (hfits : (sessionDir b key).length < pathBufferSize) :
    fs.storageDelete b (ascii "/logs/" ++ key) s = fs.unlink (sessionDir b key) s := by
  rw [FileSystem.storageDelete, physicalPath_session hfits (.inl rfl)]

/-- The request for a session whose path and whose files' paths fit. -/
theorem sessionDelete_of_fits (hasks : AsksToDelete request key)
    (hidle : isCurrentSession (TempoBt.sessionDeletePath key) d = false) (hkey : NamedKey key)
    (hfits : (sessionDir b key).length < pathBufferSize)
    (hunlinks : UnlinksFit b (fs.storageDelete b) (ascii "/logs/" ++ key)
      (givenEntries dirs (sessionDir b key)) s) {s₁ : F} {ret : Int}
    (hfiles : unlinkFiles (fs.storageDelete b) (ascii "/logs/" ++ key)
      (givenEntries dirs (sessionDir b key)) s = (s₁, ret)) :
    ∃ handed n, tempoMgmtSessionDeleteOn (fs.storageDelete b) b request dirs d s =
      some (if ret ≠ 0 then ((handed, .error .eunknown), s₁)
        else ((handed ++ [ascii "/logs/" ++ key], .ok (.deleted n)),
          (fs.unlink (sessionDir b key) s₁).1)) ∧
      ∃ r, storageListDir b dirs (ascii "/logs/" ++ key)
        (deleteFilesCallbackOn (fs.storageDelete b)) (⟨0, 0, []⟩, s) = some r ∧
          r.1.1.handed = handed := by
  obtain ⟨ctx, last, hwalk, herror⟩ := (storageListDir_session hkey hfits).1 hunlinks
  rw [hfiles] at hwalk herror
  refine ⟨ctx.handed, ctx.filesDeleted, ?_, _, hwalk, rfl⟩
  rw [sessionDelete_of_asks hasks hidle, hkey.sessionDeletePath hfits, hwalk, Option.map_some,
    storageDelete_session hfits]
  simp only at herror
  rw [herror]

theorem AsksToDelete.unique {key' : Bytes} (h : AsksToDelete request key)
    (h' : AsksToDelete request key') : key' = key := by
  have hsame : some (some key') = some (some key) := h'.symm.trans h
  simpa using hsame

theorem Deletable.of_onlyNamed (hasks : AsksToDelete request key)
    (hidle : isCurrentSession (TempoBt.sessionDeletePath key) d = false)
    (h : DeletesOnlyNamed fs b request dirs d s) : Deletable fs b dirs key s := by
  obtain ⟨handed, reply, s', hrun, hsafe, hgone⟩ := h
  obtain ⟨p, hp, hlength⟩ := exists_handed hasks hidle hrun
  obtain ⟨key', physical, hasks', hkey, hphysical, hin⟩ := hsafe p hp
  obtain rfl := hasks.unique hasks'
  have hfits : (sessionDir b key').length < pathBufferSize := by
    apply lt_of_le_of_lt _ (length_physicalPath hphysical hlength)
    rcases hin with rfl | ⟨name, -, rfl⟩
    · exact le_refl _
    · rw [List.length_append]
      exact Nat.le_add_right _ _
  have hunlinks : UnlinksFit b (fs.storageDelete b) (ascii "/logs/" ++ key')
      (givenEntries dirs (sessionDir b key')) s := by
    by_contra hunfit
    rw [sessionDelete_of_asks hasks hidle, hkey.sessionDeletePath hfits,
      (storageListDir_session hkey hfits).2 hunfit] at hrun
    cases hrun
  refine ⟨hkey, hfits, hunlinks, fun s₁ ret hfiles => ?_⟩
  obtain ⟨found, n, hresult, -⟩ := sessionDelete_of_fits hasks hidle hkey hfits hunlinks hfiles
  by_cases hret : ret = 0
  · rw [if_neg (not_not.mpr hret), hrun, Option.some.injEq] at hresult
    cases hresult
    have hleft := (hgone n rfl key' hasks).1
    by_cases hunlink : (fs.unlink (sessionDir b key') s₁).2 = 0
    · exact .inr (.inl hunlink)
    · rw [fs.unlink_error _ _ hunlink] at hleft
      exact .inr (.inr hleft)
  · exact .inl hret

/-- After the files of a deletable session nothing is left of it. -/
theorem Deletable.not_exists (h : Deletable fs b dirs key s) {s₁ : F}
    (hfiles : unlinkFiles (fs.storageDelete b) (ascii "/logs/" ++ key)
      (givenEntries dirs (sessionDir b key)) s = (s₁, 0)) :
    ¬ fs.Exists (fs.unlink (sessionDir b key) s₁).1 (sessionDir b key) := by
  rcases h.gone s₁ 0 hfiles with hfailed | hunlink | hnone
  · exact absurd rfl hfailed
  · exact fs.unlink_zero _ _ hunlink
  · by_cases hunlink : (fs.unlink (sessionDir b key) s₁).2 = 0
    · exact fs.unlink_zero _ _ hunlink
    · rwa [fs.unlink_error _ _ hunlink]

theorem Deletable.onlyNamed (hasks : AsksToDelete request key)
    (hidle : isCurrentSession (TempoBt.sessionDeletePath key) d = false)
    (hnames : ∀ physical, ∀ e ∈ (dirs physical).entries, 47 ∉ e.name)
    (h : Deletable fs b dirs key s) : DeletesOnlyNamed fs b request dirs d s := by
  cases hfiles : unlinkFiles (fs.storageDelete b) (ascii "/logs/" ++ key)
    (givenEntries dirs (sessionDir b key)) s with
  | mk s₁ ret =>
    obtain ⟨handed, n, hresult, r, hr, rfl⟩ :=
      sessionDelete_of_fits hasks hidle h.named h.fits h.unlinks hfiles
    have hin : ∀ p ∈ r.1.1.handed, ∃ key physical, AsksToDelete request key ∧ NamedKey key ∧
        physicalPath b p .delete = some physical ∧ InSession (sessionDir b key) physical := by
      refine (handed_of_listing ?_ hr).1
      intro physical _ e he fullPath hfull
      obtain ⟨deleted, hdeleted, hin⟩ :=
        inSession_entryPath h.named h.fits (hnames physical e he) hfull
      exact ⟨key, deleted, hasks, h.named, hdeleted, hin⟩
    by_cases hret : ret = 0
    · subst hret
      rw [if_neg (not_not.mpr rfl)] at hresult
      refine ⟨_, _, _, hresult, ?_, ?_⟩
      · intro p hp
        rcases List.mem_append.mp hp with hp | hp
        · exact hin p hp
        · rw [List.mem_singleton.mp hp]
          exact ⟨key, _, hasks, h.named, physicalPath_session h.fits (.inl rfl), .inl rfl⟩
      · rintro n - key' hasks'
        obtain rfl := hasks.unique hasks'
        have hleft := h.not_exists hfiles
        exact ⟨hleft, fun name hname => hleft (fs.parent _ _ name hname)⟩
    · rw [if_pos hret] at hresult
      exact ⟨_, _, _, hresult, hin, fun n hreply => by cases hreply⟩

/-- A request that is answered without the storage. -/
theorem DeletesOnlyNamed.of_unlinks_nothing {reply : Except MgmtErr SessionDeleteResponse}
    (h : tempoMgmtSessionDeleteOn (fs.storageDelete b) b request dirs d s =
      some (([], reply), s)) (hreply : ∀ n, reply ≠ .ok (.deleted n)) :
    DeletesOnlyNamed fs b request dirs d s :=
  ⟨[], reply, s, h, by simp, fun n heq => absurd heq (hreply n)⟩

end Request

/-- **Deletion.** A request deletes the session that it names and nothing else, and reports
success only when that session is gone, exactly when it is refused or the session is
deletable. -/
theorem sessionDelete_onlyNamed_iff (fs : FileSystem F) (b : StorageBackend) (request : SmpRequest)
    (dirs : Bytes → DirListing) (d : Device) (s : F)
    (hnames : ∀ physical, ∀ e ∈ (dirs physical).entries, 47 ∉ e.name) :
    DeletesOnlyNamed fs b request dirs d s ↔
      ∀ key, AsksToDelete request key → isCurrentSession (sessionDeletePath key) d = false →
        Deletable fs b dirs key s := by
  constructor
  · exact fun h key hasks hidle => .of_onlyNamed hasks hidle h
  · intro hdeletable
    cases hdecode : decodeMap (textField (ascii "session")) request none with
    | none =>
      apply DeletesOnlyNamed.of_unlinks_nothing
      · rw [tempoMgmtSessionDeleteOn, hdecode]
      · simp
    | some session =>
      cases session with
      | none =>
        apply DeletesOnlyNamed.of_unlinks_nothing
        · rw [tempoMgmtSessionDeleteOn, hdecode]
        · simp
      | some key =>
        by_cases hcurrent : isCurrentSession (sessionDeletePath key) d = true
        · apply DeletesOnlyNamed.of_unlinks_nothing
          · rw [tempoMgmtSessionDeleteOn, hdecode]
            simp only [hcurrent, if_true]
            rfl
          · simp
        · have hidle := Bool.eq_false_of_not_eq_true hcurrent
          exact (hdeletable key hdecode hidle).onlyNamed hdecode hidle hnames

/-- A card as the list of what is on it; some paths fail to be unlinked. -/
def listCard (broken : Bytes → Bool) : FileSystem (List Bytes) where
  Exists s p := ∃ q ∈ s, q = p ∨ p ++ [47] <+: q
  unlink p s :=
    if broken p then (s, -5)
    else if ∃ q ∈ s, p ++ [47] <+: q then (s, -39)
    else if s.contains p then (s.filter (· ≠ p), 0)
    else (s, -2)
  parent := by
    rintro s dir name ⟨q, hq, hin⟩
    have hbelow : dir ++ [47] <+: dir ++ 47 :: name := by
      rw [List.prefix_append_right_inj]
      exact ⟨name, rfl⟩
    rcases hin with rfl | hin
    · exact ⟨_, hq, .inr hbelow⟩
    · exact ⟨q, hq, .inr (hbelow.trans ((List.prefix_append _ _).trans hin))⟩
  unlink_zero := by
    intro p s hret
    split_ifs at hret ⊢ with hbroken hfull hmem
    · exact absurd hret (by simp)
    · exact absurd hret (by simp)
    · rintro ⟨q, hq, hin⟩
      obtain ⟨hq, hne⟩ := List.mem_filter.mp hq
      rcases hin with rfl | hin
      · simp at hne
      · exact hfull ⟨q, hq, hin⟩
    · exact absurd hret (by simp)
  unlink_error := by
    intro p s hret q
    split_ifs at hret ⊢ with hbroken hfull hmem
    · exact Iff.rfl
    · exact Iff.rfl
    · exact absurd rfl hret
    · exact Iff.rfl

/-- A session with its log file, in the directory of its date. -/
def oneSession : List Bytes :=
  [ascii "/SD:/logs/20250101", ascii "/SD:/logs/20250101/00000007",
    ascii "/SD:/logs/20250101/00000007/flight.txt"]

def oneSessionDirs (physical : Bytes) : DirListing :=
  if physical = ascii "/SD:/logs/20250101" then ⟨0, [⟨ascii "00000007", true, 0⟩]⟩
  else if physical = ascii "/SD:/logs/20250101/00000007" then
    ⟨0, [⟨ascii "flight.txt", false, 100⟩]⟩
  else ⟨-2, []⟩

theorem oneSessionDirs_names (physical : Bytes) :
    ∀ e ∈ (oneSessionDirs physical).entries, 47 ∉ e.name := by
  unfold oneSessionDirs
  split
  · decide +kernel
  · split
    · decide +kernel
    · simp

def idleDevice : Device := .initial (loggerCfg false) true ⟨[], [], [], 0⟩

theorem sessionDelete_onlyNamed_iff_oneSession :
    DeletesOnlyNamed (listCard fun _ => false) .fatfs
        (textRequest (ascii "session") (ascii "20250101/00000007")) oneSessionDirs idleDevice
        oneSession ↔
      ∀ key, AsksToDelete (textRequest (ascii "session") (ascii "20250101/00000007")) key →
        isCurrentSession (sessionDeletePath key) idleDevice = false →
          Deletable (listCard fun _ => false) .fatfs oneSessionDirs key oneSession :=
  sessionDelete_onlyNamed_iff _ .fatfs _ oneSessionDirs idleDevice oneSession oneSessionDirs_names

/-- A key of one component unlinks what is in the date's directory, and tries the directory;
and success is reported of a session whose directory the card does not unlink. -/
theorem not_deletesOnlyNamed :
    ¬ DeletesOnlyNamed (listCard fun _ => false) .fatfs
        (textRequest (ascii "session") (ascii "20250101")) oneSessionDirs idleDevice oneSession ∧
      ¬ DeletesOnlyNamed (listCard fun p => p == ascii "/SD:/logs/20250101/00000007") .fatfs
        (textRequest (ascii "session") (ascii "20250101/00000007")) oneSessionDirs idleDevice
        oneSession := by
  constructor
  · rintro ⟨handed, reply, s', hrun, hsafe, -⟩
    have hasks : AsksToDelete (textRequest (ascii "session") (ascii "20250101"))
      (ascii "20250101") := rfl
    obtain ⟨p, hp, -⟩ := exists_handed hasks (by decide +kernel) hrun
    obtain ⟨key, -, hasks', hkey, -, -⟩ := hsafe p hp
    obtain rfl := hasks.unique hasks'
    obtain ⟨date, id, -, -, hkey⟩ := hkey
    have hslash : 47 ∈ ascii "20250101" := by
      rw [hkey]
      simp
    exact absurd hslash (by decide +kernel)
  · rintro ⟨handed, reply, s', hrun, -, hgone⟩
    have hresult : tempoMgmtSessionDeleteOn
        ((listCard fun p => p == ascii "/SD:/logs/20250101/00000007").storageDelete .fatfs) .fatfs
        (textRequest (ascii "session") (ascii "20250101/00000007")) oneSessionDirs idleDevice
        oneSession =
        some (([ascii "/logs/20250101/00000007/flight.txt", ascii "/logs/20250101/00000007"],
          .ok (.deleted 1)),
          [ascii "/SD:/logs/20250101", ascii "/SD:/logs/20250101/00000007"]) := rfl
    rw [hrun] at hresult
    cases hresult
    have hleft := (hgone 1 rfl (ascii "20250101/00000007") rfl).1
    exact hleft ⟨ascii "/SD:/logs/20250101/00000007", by decide +kernel, .inl rfl⟩

end TempoBt
