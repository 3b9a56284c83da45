-- SUMMARY: Opening a log file: the directories above it are made first, and exactly when the file is then there.
import TempoBt.App.Errno
import TempoBt.Lib.FileTree
import TempoBt.Services.Storage.Paths

/-!
# Directories

Both backends make the directories of a path before they open its file. They walk through
the path from slash to slash, and differ in where they begin and in what they accept as a
directory that is there. The file system behind them is a parameter, with what its
callers rely on.
-/

namespace TempoBt

open CString Errno FileTree

/-- `FATFS_MOUNT_POINT`, `LFS_MOUNT_POINT` -/
def StorageBackend.mountPoint : StorageBackend → Bytes
  | .littlefs => ascii "/lfs"
  | .fatfs => fatfsMountPoint

/-! ## The file system -/

/-- A path below `top`, by the names that lead to it. -/
def dirPath (top : Bytes) (names : List Bytes) : Bytes := top ++ names.flatMap (47 :: ·)

/-- Names of entries: not empty, neither of the dots, and with no control character or
separator in them. -/
def IsName (name : Bytes) : Prop :=
  name ≠ [] ∧ name ≠ ascii "." ∧ name ≠ ascii ".." ∧
    ∀ c ∈ name, 32 ≤ c.toNat ∧ c ≠ 47 ∧ c ≠ 92

instance (name : Bytes) : Decidable (IsName name) :=
  inferInstanceAs (Decidable (_ ∧ _ ∧ _ ∧ ∀ c ∈ name, _))

/-- The calls of Zephyr's file system on the volume of a backend, by what they do to its
entries. It is up to the file system which paths name one entry. The medium hides some
entries from `fs_stat`, and refuses to make or to open some. -/
structure FileCalls (b : StorageBackend) (F K : Type*) [DecidableEq K] where
  key : Bytes → K
  parent : K → Option K
  entries : F → FileMap K
  hidden : K → Prop
  refusedDir : K → Prop
  refusedFile : K → Prop
  fsMount : F → F × Int
  fsStat : Bytes → F → Option Entry
  fsMkdir : Bytes → F → F × Int
  /-- `fs_open` with the flags to create and to append. -/
  fsOpenAppend : Bytes → F → F × Int
  /-- How far an entry is from the root. -/
  depth : K → Nat
  depth_parent : ∀ k q, parent k = some q → depth q < depth k
  parent_name : ∀ names name, (∀ n ∈ names, IsName n) → IsName name →
    parent (key (dirPath b.mountPoint names ++ 47 :: name)) =
      some (key (dirPath b.mountPoint names))
  mount_entries : ∀ s, entries (fsMount s).1 = entries s
  stat_hidden : ∀ p s, hidden (key p) → fsStat p s = none
  stat_shown : ∀ p s, ¬ hidden (key p) → fsStat p s = entries s (key p)
  mkdir_grows : ∀ p s, Grows parent .dir (key p) (entries s) (entries (fsMkdir p s).1)
  mkdir_zero : ∀ p s, (fsMkdir p s).2 = 0 →
    entries s (key p) = none ∧ (entries (fsMkdir p s).1 (key p)).isSome
  mkdir_exists : ∀ p s, (fsMkdir p s).2 = -eexist → (entries s (key p)).isSome
  mkdir_refused : ∀ p s, refusedDir (key p) →
    (fsMkdir p s).2 ≠ 0 ∧ (fsMkdir p s).2 ≠ -eexist
  mkdir_there : ∀ p s, ¬ refusedDir (key p) → (entries s (key p)).isSome →
    (fsMkdir p s).2 = -eexist
  mkdir_missing : ∀ p s, ¬ refusedDir (key p) → entries s (key p) = none →
    (parent (key p)).bind (entries s) = some .dir → (fsMkdir p s).2 = 0
  open_grows : ∀ p s, Grows parent .file (key p) (entries s) (entries (fsOpenAppend p s).1)
  open_zero : ∀ p s, (fsOpenAppend p s).2 = 0 →
    ¬ refusedFile (key p) ∧ entries (fsOpenAppend p s).1 (key p) = some .file
  open_there : ∀ p s, ¬ refusedFile (key p) → entries s (key p) = some .file →
    (fsOpenAppend p s).2 = 0
  open_missing : ∀ p s, ¬ refusedFile (key p) → entries s (key p) = none →
    (parent (key p)).bind (entries s) = some .dir → (fsOpenAppend p s).2 = 0

/-- What `fs_mkdir` returns where it neither makes a directory nor finds an entry. -/
abbrev MkdirError := { ret : Int // ret ≠ 0 ∧ ret ≠ -eexist }

def Made.ofRet (ret : Int) : Made MkdirError :=
  if h0 : ret = 0 then .made
  else if h1 : ret = -eexist then .already
  else .failed ⟨ret, h0, h1⟩

section Rets

variable {ret : Int}

theorem Made.ofRet_made : Made.ofRet ret = .made ↔ ret = 0 := by
  unfold Made.ofRet
  split
  · exact iff_of_true rfl ‹_›
  · split
    · exact iff_of_false (by simp) ‹_›
    · exact iff_of_false (by simp) ‹_›

theorem Made.ofRet_already : Made.ofRet ret = .already ↔ ret = -eexist := by
  unfold Made.ofRet
  split
  · rename_i h0
    exact iff_of_false (by simp) (by rw [h0]; decide)
  · split
    · exact iff_of_true rfl ‹_›
    · exact iff_of_false (by simp) ‹_›

theorem Made.ofRet_failed (h0 : ret ≠ 0) (h1 : ret ≠ -eexist) :
    Made.ofRet ret = .failed ⟨ret, h0, h1⟩ := by
  rw [Made.ofRet, dif_neg h0, dif_neg h1]

end Rets

variable {b : StorageBackend} {F K : Type*} [DecidableEq K]

/-- The directory calls are those of a file system. -/
def FileCalls.dirs (fs : FileCalls b F K) : FileSystem F Bytes K MkdirError where
  key := fs.key
  parent := fs.parent
  entries := fs.entries
  hidden := fs.hidden
  refused := fs.refusedDir
  lookUp := fs.fsStat
  makeDir p s := ((fs.fsMkdir p s).1, Made.ofRet (fs.fsMkdir p s).2)
  lookUp_hidden := fs.stat_hidden
  lookUp_shown := fs.stat_shown
  grows := fs.mkdir_grows
  made p s h := fs.mkdir_zero p s (Made.ofRet_made.mp h)
  already p s h := fs.mkdir_exists p s (Made.ofRet_already.mp h)
  refuses p s h := ⟨_, Made.ofRet_failed (fs.mkdir_refused p s h).1 (fs.mkdir_refused p s h).2⟩
  finds p s h hthere := Made.ofRet_already.mpr (fs.mkdir_there p s h hthere)
  makes p s h hnone hparent := Made.ofRet_made.mpr (fs.mkdir_missing p s h hnone hparent)

/-! ## `create_directory_path` -/

/-- A path up to its last slash, where `strrchr` finds one. -/
def dirPart (path : Bytes) : Option Bytes :=
  if 47 ∈ path then some (path.reverse.dropWhile (· != 47)).tail.reverse else none

section Calls

variable (fs : FileCalls b F K)

/-- Make one directory, unless the entry that is looked up will do. -/
def makeDirectory (accepts : Option Entry → Bool) (path : Bytes) (s : F) : F × Int :=
  if accepts (fs.fsStat path s) then (s, 0)
  else
    match fs.fsMkdir path s with
    | (s, ret) => if ret ≠ 0 ∧ ret ≠ -eexist then (s, ret) else (s, 0)

/-- The loop: `seen` is the path up to the place of the search, and `rest` what is after
it. -/
def createFrom (accepts : Option Entry → Bool) (seen : Bytes) : Bytes → F → F × Int
  | [], s => makeDirectory fs accepts seen s
  | c :: rest, s =>
    if c = 47 then
      match makeDirectory fs accepts seen s with
      | (s, ret) => if ret ≠ 0 then (s, ret) else createFrom accepts (seen ++ [c]) rest s
    else createFrom accepts (seen ++ [c]) rest s

/-- `create_directory_path` of the FAT backend, which begins after the mount point and takes
no file for a directory. -/
def fatfsCreateDirectoryPath (fullPath : Bytes) (s : F) : F × Int :=
  match dirPart (copied pathBufferSize fullPath) with
  | none => (s, 0)
  | some path =>
    let start := if startsWith fatfsMountPoint path then fatfsMountPoint.length else 0
    match path.drop start with
    | [] => (s, 0)
    | c :: rest => createFrom fs (· == some .dir) (path.take start ++ [c]) rest s

/-- `create_directory_path` of the littlefs backend. -/
def lfsCreateDirectoryPath (fullPath : Bytes) (s : F) : F × Int :=
  match dirPart (copied pathBufferSize fullPath) with
  | none => (s, 0)
  -- the search begins after the terminator, in a rest without slashes
  | some [] => makeDirectory fs Option.isSome [] s
  | some (c :: rest) => createFrom fs Option.isSome [c] rest s

def createDirectoryPath (path : Bytes) (s : F) : F × Int :=
  match b with
  | .fatfs => fatfsCreateDirectoryPath fs path s
  | .littlefs => lfsCreateDirectoryPath fs path s

end Calls

/-! ## `storage_open` -/

structure Volume (F : Type*) where
  mounted : Bool
  files : F

/-- `ensure_mounted`, and the beginning of `lfs_open`. -/
def ensureMounted (fs : FileCalls b F K) (v : Volume F) : Volume F × Int :=
  if v.mounted then (v, 0)
  else
    match fs.fsMount v.files with
    | (files, ret) => if ret ≠ 0 then (⟨false, files⟩, ret) else (⟨true, files⟩, 0)

/-- `fatfs_open` and `lfs_open`, for a path that has been translated. -/
def openFile (fs : FileCalls b F K) (path : Bytes) (v : Volume F) : Volume F × Int :=
  match ensureMounted fs v with
  | (v, ret) =>
    if ret ≠ 0 then (v, ret)
    else
      match createDirectoryPath fs path v.files with
      | (files, ret) =>
        if ret ≠ 0 then ({ v with files }, ret)
        else
          match fs.fsOpenAppend path files with
          | (files, ret) => ({ v with files }, ret)

/-- `storage_open` on an initialized backend; `none` when a translation leaves its buffer. -/
def storageOpenPath (fs : FileCalls b F K) (path : Bytes) (v : Volume F) :
    Option (Volume F × Int) :=
  (physicalPath b path .openFile).map fun p => openFile fs p v

/-! ## Paths -/

/-- The directories that lead there. -/
def dirsBelow (top : Bytes) : List Bytes → List Bytes
  | [] => []
  | name :: names => (top ++ 47 :: name) :: dirsBelow (top ++ 47 :: name) names

section Paths

variable {fs : FileCalls b F K} {accepts : Option Entry → Bool}

/-- The directories that the loop looks at. -/
def lookedAt : Bytes → Bytes → List Bytes
  | seen, [] => [seen]
  | seen, c :: rest =>
    if c = 47 then seen :: lookedAt (seen ++ [c]) rest else lookedAt (seen ++ [c]) rest

theorem lookedAt_append {name : Bytes} (h : 47 ∉ name) (seen rest : Bytes) :
    lookedAt seen (name ++ rest) = lookedAt (seen ++ name) rest := by
  induction name generalizing seen with
  | nil => rw [List.nil_append, List.append_nil]
  | cons c name ih =>
    rw [List.mem_cons, not_or] at h
    rw [List.cons_append, lookedAt, if_neg (Ne.symm h.1), ih h.2, List.append_assoc,
      List.singleton_append]

theorem IsName.no_slash {name : Bytes} (h : IsName name) : 47 ∉ name :=
  fun hmem => (h.2.2.2 47 hmem).2.1 rfl

theorem lookedAt_names {names : List Bytes} (h : ∀ name ∈ names, IsName name) (top : Bytes) :
    lookedAt top (names.flatMap (47 :: ·)) = top :: dirsBelow top names := by
  induction names generalizing top with
  | nil => rfl
  | cons name names ih =>
    have hname := h name (by simp)
    rw [List.flatMap_cons, List.cons_append, lookedAt, if_pos rfl, lookedAt_append hname.no_slash,
      ih fun n hn => h n (List.mem_cons_of_mem name hn), dirsBelow, List.append_assoc,
      List.singleton_append]

theorem dirPart_append {name : Bytes} (h : 47 ∉ name) (top : Bytes) :
    dirPart (top ++ 47 :: name) = some top := by
  have hdrop : (name.reverse ++ 47 :: top.reverse).dropWhile (· != 47) = 47 :: top.reverse := by
    rw [List.dropWhile_append_of_pos]
    · simp
    · intro c hc
      have hne : c ≠ 47 := fun heq => h (heq ▸ List.mem_reverse.mp hc)
      simpa using hne
  rw [dirPart, if_pos (by simp), List.reverse_append, List.reverse_cons, List.append_assoc,
    List.singleton_append, hdrop, List.tail_cons, List.reverse_reverse]

theorem dirPath_concat (top : Bytes) (names : List Bytes) (name : Bytes) :
    dirPath top (names ++ [name]) = dirPath top names ++ 47 :: name := by
  simp [dirPath]

theorem isChain_dirsBelow (fs : FileCalls b F K) {seen names : List Bytes}
    (hseen : ∀ name ∈ seen, IsName name) (h : ∀ name ∈ names, IsName name) :
    List.IsChain (fun p q => fs.parent (fs.key q) = some (fs.key p))
      (dirPath b.mountPoint seen :: dirsBelow (dirPath b.mountPoint seen) names) := by
  induction names generalizing seen with
  | nil => exact List.isChain_singleton _
  | cons name names ih =>
    have hname := h name (by simp)
    refine List.isChain_cons_cons.mpr ⟨fs.parent_name seen name hseen hname, ?_⟩
    rw [← dirPath_concat]
    refine ih (fun n hn => ?_) fun n hn => h n (List.mem_cons_of_mem name hn)
    rcases List.mem_append.mp hn with hn | hn
    · exact hseen n hn
    · exact List.mem_singleton.mp hn ▸ hname

/-- The files, and the return value for the last directory that was made. -/
def madeRet (result : F × Made MkdirError) : F × Int :=
  (result.1, match result.2 with
    | .made => 0
    | .already => -eexist
    | .failed e => e)

theorem madeRet_eq_zero (result : F × Made MkdirError) :
    (madeRet result).2 = 0 ↔ result.2 = .made := by
  obtain ⟨s, _ | _ | e⟩ := result
  · simp [madeRet]
  · simp [madeRet, eexist]
  · simp [madeRet, e.2.1]

/-- One directory, and then the others. -/
theorem makeDirectory_then {ps : List Bytes} {next : F → F × Int}
    (hnext : ∀ s, next s = madeRet (fs.dirs.makeDirs accepts ps s)) (path : Bytes) (s : F) :
    (match makeDirectory fs accepts path s with
      | (s, ret) => if ret ≠ 0 then (s, ret) else next s) =
      madeRet (fs.dirs.makeDirs accepts (path :: ps) s) := by
  unfold makeDirectory
  by_cases hlook : accepts (fs.fsStat path s) = true
  · rw [if_pos hlook, FileSystem.makeDirs_seen hlook]
    simpa using hnext s
  · rw [if_neg hlook]
    by_cases hret : (fs.fsMkdir path s).2 ≠ 0 ∧ (fs.fsMkdir path s).2 ≠ -eexist
    · have hfailed : (fs.dirs.makeDir path s).2 = .failed ⟨_, hret⟩ :=
        Made.ofRet_failed hret.1 hret.2
      rw [FileSystem.makeDirs_failed hlook hfailed]
      simp [hret, madeRet, FileCalls.dirs]
    · have hnot (e : MkdirError) : (fs.dirs.makeDir path s).2 ≠ .failed e := by
        intro hfailed
        rcases not_and_or.mp hret with h0 | h1
        · have hmade := Made.ofRet_made.mpr (not_not.mp h0)
          exact absurd (hmade.symm.trans hfailed) (by simp)
        · have halready := Made.ofRet_already.mpr (not_not.mp h1)
          exact absurd (halready.symm.trans hfailed) (by simp)
      rw [FileSystem.makeDirs_next hlook hnot]
      rw [show (fs.dirs.makeDir path s).1 = (fs.fsMkdir path s).1 from rfl, ← hnext]
      simp [hret]

theorem createFrom_eq (seen rest : Bytes) (s : F) :
    createFrom fs accepts seen rest s =
      madeRet (fs.dirs.makeDirs accepts (lookedAt seen rest) s) := by
  induction rest generalizing seen s with
  | nil =>
    have hdone (s : F) : (s, (0 : Int)) = madeRet (fs.dirs.makeDirs accepts [] s) := rfl
    have hlast := makeDirectory_then hdone seen s
    rw [lookedAt, ← hlast, createFrom]
    split
    rename_i s' ret hmade
    rw [hmade]
    split
    · rfl
    · rename_i hret
      rw [not_not.mp hret]
  | cons c rest ih =>
    rw [createFrom, lookedAt]
    split
    · exact makeDirectory_then (fun s => ih (seen ++ [c]) s) seen s
    · exact ih (seen ++ [c]) s

end Paths

/-! ## The directories of a path are made -/

/-- The path of an entry, by the names that lead to it. -/
def entryAt (b : StorageBackend) (names : List Bytes) (name : Bytes) : Bytes :=
  dirPath b.mountPoint names ++ 47 :: name

/-- The directories that a backend makes or finds: the littlefs backend looks at the mount
point, too. -/
def dirsOn (b : StorageBackend) (names : List Bytes) : List Bytes :=
  match b with
  | .littlefs => b.mountPoint :: dirsBelow b.mountPoint names
  | .fatfs => dirsBelow b.mountPoint names

/-- What a backend takes for a directory that is there. -/
def StorageBackend.accepts : StorageBackend → Option Entry → Bool
  | .littlefs => Option.isSome
  | .fatfs => (· == some .dir)

section Create

variable {fs : FileCalls b F K} {names : List Bytes} {name : Bytes} {s : F}

theorem accepts_none (b : StorageBackend) : b.accepts none = false := by
  cases b <;> rfl

theorem dirPart_copied (hname : IsName name)
    (hfits : (entryAt b names name).length < pathBufferSize) :
    dirPart (copied pathBufferSize (entryAt b names name)) = some (dirPath b.mountPoint names) := by
  rw [copied_of_fits hfits, entryAt, dirPart_append hname.no_slash]

/-- A backend takes the directories of a path that fits its buffer one after the other. -/
theorem createDirectoryPath_eq (hnames : ∀ n ∈ names, IsName n) (hname : IsName name)
    (hfits : (entryAt b names name).length < pathBufferSize) :
    createDirectoryPath fs (entryAt b names name) s =
      madeRet (fs.dirs.makeDirs b.accepts (dirsOn b names) s) := by
  have hdir := dirPart_copied hname hfits
  cases b with
  | littlefs =>
    have hlooked : lookedAt [47] (ascii "lfs" ++ names.flatMap (47 :: ·)) =
        StorageBackend.littlefs.mountPoint ::
          dirsBelow StorageBackend.littlefs.mountPoint names := by
      rw [lookedAt_append (by decide), lookedAt_names hnames]
      rfl
    unfold createDirectoryPath lfsCreateDirectoryPath
    rw [hdir]
    show createFrom fs Option.isSome [47] (ascii "lfs" ++ names.flatMap (47 :: ·)) s = _
    rw [createFrom_eq, hlooked]
    rfl
  | fatfs =>
    have hstart : startsWith fatfsMountPoint (dirPath fatfsMountPoint names) = true :=
      startsWith_append _ _
    unfold createDirectoryPath fatfsCreateDirectoryPath
    rw [hdir]
    dsimp only [StorageBackend.mountPoint]
    rw [if_pos hstart, dirPath, List.drop_left, List.take_left]
    cases names with
    | nil => rfl
    | cons n names =>
      have hlooked : lookedAt (fatfsMountPoint ++ [47]) (n ++ names.flatMap (47 :: ·)) =
          dirsBelow fatfsMountPoint (n :: names) := by
        rw [lookedAt_append (hnames n (by simp)).no_slash,
          lookedAt_names fun n' hn' => hnames n' (List.mem_cons_of_mem n hn'), dirsBelow,
          List.append_assoc, List.singleton_append]
      rw [List.flatMap_cons, List.cons_append]
      dsimp only
      rw [createFrom_eq, hlooked]
      rfl

/-- The directories of a path are made below a mount point that is there. -/
theorem dirsMade_dirsOn (hnames : ∀ n ∈ names, IsName n)
    (hwf : WellFormed fs.parent (fs.entries s))
    (hmount : fs.entries s (fs.key b.mountPoint) = some .dir) :
    fs.dirs.DirsMade b.accepts (dirsOn b names) (fs.entries s)
      (fs.dirs.makeDirs b.accepts (dirsOn b names) s) := by
  have hmakes (s' : F) (hs' : fs.entries s' = fs.entries s) :
      fs.dirs.DirsMade b.accepts (dirsBelow b.mountPoint names) (fs.entries s)
        (fs.dirs.makeDirs b.accepts (dirsBelow b.mountPoint names) s') := by
    have hchain := isChain_dirsBelow fs (show ∀ name ∈ [], IsName name by simp) hnames
    rw [dirPath, List.flatMap_nil, List.append_nil] at hchain
    rw [← hs'] at hwf hmount ⊢
    exact FileSystem.makeDirs_spec (accepts_none b) hchain hwf hmount
  cases b with
  | littlefs => exact FileSystem.DirsMade.there_then (accepts_none _) hmount hwf hmakes
  | fatfs => exact hmakes s rfl

theorem dirsBelow_concat (top : Bytes) (names : List Bytes) (n : Bytes) :
    dirsBelow top (names ++ [n]) = dirsBelow top names ++ [dirPath top (names ++ [n])] := by
  induction names generalizing top with
  | nil => simp [dirsBelow, dirPath]
  | cons n' names ih =>
    rw [List.cons_append, dirsBelow, ih, dirsBelow, List.cons_append]
    simp [dirPath]

/-- On the way down the entries get further from the root. -/
theorem depth_le_of_mem_dirsBelow (fs : FileCalls b F K) (hnames : ∀ n ∈ names, IsName n)
    {q : Bytes} (hq : q = b.mountPoint ∨ q ∈ dirsBelow b.mountPoint names) :
    fs.depth (fs.key q) ≤ fs.depth (fs.key (dirPath b.mountPoint names)) := by
  induction names using List.reverseRecOn with
  | nil =>
    rcases hq with rfl | hq
    · rw [dirPath, List.flatMap_nil, List.append_nil]
    · cases hq
  | append_singleton names n ih =>
    have hbefore (m : Bytes) (hm : m ∈ names) : IsName m := hnames m (List.mem_append_left _ hm)
    have hparent := fs.parent_name names n hbefore (hnames n (by simp))
    rw [← dirPath_concat] at hparent
    have hlt := fs.depth_parent _ _ hparent
    rw [dirsBelow_concat, List.mem_append, List.mem_singleton] at hq
    rcases hq with rfl | hq | rfl
    · exact (ih hbefore (.inl rfl)).trans hlt.le
    · exact (ih hbefore (.inr hq)).trans hlt.le
    · exact le_refl _

/-- The file is none of the directories above it. -/
theorem key_entryAt_ne (hnames : ∀ n ∈ names, IsName n) (hname : IsName name) {q : Bytes}
    (hq : q = b.mountPoint ∨ q ∈ dirsBelow b.mountPoint names) :
    fs.key (entryAt b names name) ≠ fs.key q := by
  intro heq
  have hlt := fs.depth_parent _ _ (fs.parent_name names name hnames hname)
  have hle := depth_le_of_mem_dirsBelow fs hnames hq
  rw [← heq] at hle
  exact absurd hlt (Nat.not_lt.mpr hle)

theorem mem_dirsOn {q : Bytes} (hq : q ∈ dirsOn b names) :
    q = b.mountPoint ∨ q ∈ dirsBelow b.mountPoint names := by
  cases b with
  | littlefs => exact List.mem_cons.mp hq
  | fatfs => exact .inr hq

theorem key_entryAt_not_mem (hnames : ∀ n ∈ names, IsName n) (hname : IsName name) :
    fs.key (entryAt b names name) ∉ (dirsOn b names).map fs.key := by
  rw [List.mem_map]
  rintro ⟨q, hq, heq⟩
  exact key_entryAt_ne hnames hname (mem_dirsOn hq) heq.symm

end Create

/-! ## A file is opened -/

/-- Nothing keeps a file from being opened: the volume is mounted or can be, no file is in the
place of one of its directories, each of these can be made or is seen to be there, and no
directory is in the file's own place, which is not refused. -/
structure CanOpen (fs : FileCalls b F K) (v : Volume F) (names : List Bytes) (name : Bytes) :
    Prop where
  mounts : v.mounted = true ∨ (fs.fsMount v.files).2 = 0
  noFile : ∀ q ∈ dirsBelow b.mountPoint names, fs.entries v.files (fs.key q) ≠ some .file
  dirs : ∀ q ∈ dirsOn b names, fs.refusedDir (fs.key q) →
    ¬ fs.hidden (fs.key q) ∧ fs.entries v.files (fs.key q) = some .dir
  noDir : fs.entries v.files (fs.key (entryAt b names name)) ≠ some .dir
  file : ¬ fs.refusedFile (fs.key (entryAt b names name))

/-- The file, and its directories. -/
def openedAt (fs : FileCalls b F K) (names : List Bytes) (name : Bytes) (k : K) : Option Entry :=
  if k = fs.key (entryAt b names name) then some .file
  else dirsAt ((dirsOn b names).map fs.key) k

/-- What an attempt to open a file does: it succeeds exactly when nothing keeps it from it;
then the file and all its directories are there; and whether it does or not, nothing but
these entries has been made, and nothing has been changed. -/
structure Opens (fs : FileCalls b F K) (v : Volume F) (names : List Bytes) (name : Bytes)
    (result : Volume F × Int) : Prop where
  ok_iff : result.2 = 0 ↔ CanOpen fs v names name
  there : result.2 = 0 →
    fs.entries result.1.files (fs.key (entryAt b names name)) = some .file ∧
      ∀ q ∈ dirsBelow b.mountPoint names, fs.entries result.1.files (fs.key q) = some .dir
  frame : Extends (openedAt fs names name) (fs.entries v.files) (fs.entries result.1.files)
  wellFormed : WellFormed fs.parent (fs.entries result.1.files)

section Open

variable {fs : FileCalls b F K} {names : List Bytes} {name : Bytes} {v : Volume F}

theorem extends_openedAt (hnames : ∀ n ∈ names, IsName n) (hname : IsName name)
    {tree tree' : FileMap K}
    (h : Extends (dirsAt ((dirsOn b names).map fs.key)) tree tree') :
    Extends (openedAt fs names name) tree tree' := by
  refine h.mono fun k e hk => ?_
  rw [openedAt, if_neg, hk]
  rintro rfl
  rw [dirsAt, if_neg (key_entryAt_not_mem hnames hname)] at hk
  cases hk

theorem mem_dirsOn_of_mem {q : Bytes} (hq : q ∈ dirsBelow b.mountPoint names) :
    q ∈ dirsOn b names := by
  cases b with
  | littlefs => exact List.mem_cons_of_mem _ hq
  | fatfs => exact hq

/-- Above the last directory there is no file, and the last one is not a file either. -/
theorem noFile_iff (fs : FileCalls b F K) {tree : FileMap K}
    (hmount : tree (fs.key b.mountPoint) = some .dir) :
    (∀ q ∈ dirsBelow b.mountPoint names, tree (fs.key q) ≠ some .file) ↔
      (∀ q ∈ (dirsOn b names).dropLast, tree (fs.key q) ≠ some .file) ∧
        tree (fs.key (dirPath b.mountPoint names)) ≠ some .file := by
  have hbelow : (∀ q ∈ (dirsOn b names).dropLast, tree (fs.key q) ≠ some .file) ↔
      ∀ q ∈ (dirsBelow b.mountPoint names).dropLast, tree (fs.key q) ≠ some .file := by
    cases b with
    | fatfs => exact Iff.rfl
    | littlefs =>
      rw [dirsOn]
      cases hdirs : dirsBelow StorageBackend.littlefs.mountPoint names with
      | nil => simp
      | cons q qs => simp [hmount]
  rw [hbelow]
  rcases names.eq_nil_or_concat' with rfl | ⟨names, n, rfl⟩
  · simp [dirsBelow, dirPath, hmount]
  · rw [dirsBelow_concat, List.dropLast_concat, List.forall_mem_append, List.forall_mem_singleton]

/-- Where no file is in the place of a directory, a backend sees directories only. -/
theorem clear_iff (hnoFile : ∀ q ∈ dirsBelow b.mountPoint names,
      fs.entries v.files (fs.key q) ≠ some .file)
    (hmount : fs.entries v.files (fs.key b.mountPoint) = some .dir) :
    fs.dirs.Clear b.accepts (dirsOn b names) (fs.entries v.files) ↔
      ∀ q ∈ dirsOn b names, fs.refusedDir (fs.key q) →
        ¬ fs.hidden (fs.key q) ∧ fs.entries v.files (fs.key q) = some .dir := by
  have haccepts (q : Bytes) (hq : q ∈ dirsOn b names) :
      b.accepts (fs.entries v.files (fs.key q)) = true ↔
        fs.entries v.files (fs.key q) = some .dir := by
    have hnot : fs.entries v.files (fs.key q) ≠ some .file := by
      rcases mem_dirsOn hq with rfl | hq
      · rw [hmount]
        decide
      · exact hnoFile q hq
    cases hentry : fs.entries v.files (fs.key q) with
    | none => simp [accepts_none]
    | some entry =>
      cases entry with
      | file => exact absurd hentry hnot
      | dir => cases b <;> simp [StorageBackend.accepts]
  have hfiles := ((noFile_iff fs hmount).mp hnoFile).1
  constructor
  · intro hclear q hq hrefused
    obtain ⟨hhidden, hseen⟩ := hclear.2 q hq hrefused
    exact ⟨hhidden, (haccepts q hq).mp hseen⟩
  · intro hall
    refine ⟨hfiles, fun q hq hrefused => ?_⟩
    obtain ⟨hhidden, hdir⟩ := hall q hq hrefused
    exact ⟨hhidden, (haccepts q hq).mpr hdir⟩

/-- The attempt ends with an error, after some directories at the most. -/
theorem Opens.failed {v' : Volume F} {ret : Int} (hret : ret ≠ 0)
    (hcan : ¬ CanOpen fs v names name)
    (hframe : Extends (openedAt fs names name) (fs.entries v.files) (fs.entries v'.files))
    (hwf : WellFormed fs.parent (fs.entries v'.files)) : Opens fs v names name (v', ret) where
  ok_iff := iff_of_false hret hcan
  there h := absurd h hret
  frame := hframe
  wellFormed := hwf

section Append

variable {result : F × Made MkdirError} (hnames : ∀ n ∈ names, IsName n) (hname : IsName name)
  (hwf : WellFormed fs.parent (fs.entries v.files))
  (hmount : fs.entries v.files (fs.key b.mountPoint) = some .dir)
  (hspec : fs.dirs.DirsMade b.accepts (dirsOn b names) (fs.entries v.files) result)
  (hmade : result.2 = .made)

include hspec hmade in
/-- The directories are there when all have been made, but for files in their places. -/
theorem madeDirs_there {q : Bytes} (hq : q ∈ dirsOn b names) :
    fs.entries result.1 (fs.key q) = some .dir ↔
      fs.entries v.files (fs.key q) ≠ some .file := by
  have hthere : fs.entries result.1 (fs.key q) =
      some ((fs.entries v.files (fs.key q)).getD .dir) := hspec.there hmade q hq
  rw [hthere]
  cases fs.entries v.files (fs.key q) with
  | none => simp
  | some entry => cases entry <;> simp

include hmount hspec hmade in
/-- So is the last of them, which may be the mount point. -/
theorem madeDirs_top :
    fs.entries result.1 (fs.key (dirPath b.mountPoint names)) = some .dir ↔
      fs.entries v.files (fs.key (dirPath b.mountPoint names)) ≠ some .file := by
  rcases names.eq_nil_or_concat' with rfl | ⟨names, n, rfl⟩
  · rw [dirPath, List.flatMap_nil, List.append_nil]
    have hsame : fs.entries result.1 (fs.key b.mountPoint) = some .dir := by
      rcases hspec.frame (fs.key b.mountPoint) with hsame | ⟨hnone, -⟩
      · exact hsame.trans hmount
      · exact absurd (hnone.symm.trans hmount) (by simp)
    simp [hsame, hmount]
  · refine madeDirs_there hspec hmade (mem_dirsOn_of_mem ?_)
    rw [dirsBelow_concat]
    simp

include hnames hname hspec in
/-- Making the directories leaves the file's own place as it was. -/
theorem madeDirs_entry : fs.entries result.1 (fs.key (entryAt b names name)) =
    fs.entries v.files (fs.key (entryAt b names name)) := by
  rcases hspec.frame (fs.key (entryAt b names name)) with h | ⟨h, h'⟩
  · exact h
  · exact h'.trans ((if_neg (key_entryAt_not_mem hnames hname)).trans h.symm)

include hnames hname hmount hspec hmade in
/-- When the directories have been made, the file is opened exactly if it can be. -/
theorem fsOpenAppend_zero_iff (hmounts : v.mounted = true ∨ (fs.fsMount v.files).2 = 0) :
    (fs.fsOpenAppend (entryAt b names name) result.1).2 = 0 ↔ CanOpen fs v names name := by
  have hparent := fs.parent_name names name hnames hname
  have hclear := hspec.made_iff.mp hmade
  have hsame := madeDirs_entry hnames hname hspec
  have htop := madeDirs_top hmount hspec hmade
  constructor
  · intro hzero
    obtain ⟨hrefused, hfile⟩ := fs.open_zero _ _ hzero
    -- what was there before is the file, or nothing
    have hbefore : fs.entries v.files (fs.key (entryAt b names name)) ≠ some .dir := by
      intro hdir
      have hthere := (fs.open_grows (entryAt b names name) result.1).of_there
        (by rw [hsame, hdir]; rfl)
      rw [hthere, hsame, hdir] at hfile
      cases hfile
    have hdir : fs.entries result.1 (fs.key (dirPath b.mountPoint names)) = some .dir := by
      cases hentry : fs.entries result.1 (fs.key (entryAt b names name)) with
      | some entry =>
        exact hspec.wellFormed _ _ (Option.isSome_iff_exists.mpr ⟨entry, hentry⟩) hparent
      | none =>
        have hmakes := ((fs.open_grows (entryAt b names name) result.1).of_made hentry
          (by rw [hfile]; rfl)).1
        rwa [show fs.parent (fs.key (entryAt b names name)) = _ from hparent,
          Option.bind_some] at hmakes
    have hnoFile := (noFile_iff fs hmount).mpr ⟨hclear.1, htop.mp hdir⟩
    exact ⟨hmounts, hnoFile, (clear_iff hnoFile hmount).mp hclear, hbefore, hrefused⟩
  · intro hcan
    cases hentry : fs.entries v.files (fs.key (entryAt b names name)) with
    | some entry =>
      cases entry with
      | file => exact fs.open_there _ _ hcan.file (hsame.trans hentry)
      | dir => exact absurd hentry hcan.noDir
    | none =>
      refine fs.open_missing _ _ hcan.file (hsame.trans hentry) ?_
      rw [show fs.parent (fs.key (entryAt b names name)) = _ from hparent, Option.bind_some]
      exact htop.mpr ((noFile_iff fs hmount).mp hcan.noFile).2

include hnames hname hmount hspec hmade in
/-- What comes after the directories have been made. -/
theorem fsOpenAppend_opens (hmounts : v.mounted = true ∨ (fs.fsMount v.files).2 = 0)
    {mounted : Bool} :
    Opens fs v names name
      (⟨mounted, (fs.fsOpenAppend (entryAt b names name) result.1).1⟩,
        (fs.fsOpenAppend (entryAt b names name) result.1).2) := by
  have hgrows := fs.open_grows (entryAt b names name) result.1
  have hzero := fsOpenAppend_zero_iff hnames hname hmount hspec hmade hmounts
  refine ⟨hzero, fun hret => ⟨(fs.open_zero _ _ hret).2, fun q hq => ?_⟩, ?_,
    hgrows.wellFormed hspec.wellFormed⟩
  · have hdir := (madeDirs_there hspec hmade (mem_dirsOn_of_mem hq)).mpr
      ((hzero.mp hret).noFile q hq)
    rcases hgrows.extends (fs.key q) with h | ⟨h, -⟩
    · exact h.trans hdir
    · rw [hdir] at h
      cases h
  · refine (extends_openedAt hnames hname hspec.frame).trans (hgrows.extends.mono fun k e hk => ?_)
    split at hk
    · rename_i heq
      rw [openedAt, if_pos heq]
      exact hk
    · cases hk

end Append

theorem ensureMounted_cases (fs : FileCalls b F K) (v : Volume F) :
    fs.entries (ensureMounted fs v).1.files = fs.entries v.files ∧
      ((ensureMounted fs v).2 = 0 ↔ v.mounted = true ∨ (fs.fsMount v.files).2 = 0) := by
  unfold ensureMounted
  cases hmounted : v.mounted with
  | true => simp
  | false =>
    simp only [Bool.false_eq_true, if_false, false_or]
    split
    · exact ⟨fs.mount_entries _, Iff.rfl⟩
    · rename_i hret
      exact ⟨fs.mount_entries _, iff_of_true rfl (not_not.mp hret)⟩

theorem openFile_opens (hnames : ∀ n ∈ names, IsName n) (hname : IsName name)
    (hfits : (entryAt b names name).length < pathBufferSize)
    (hwf : WellFormed fs.parent (fs.entries v.files))
    (hmount : fs.entries v.files (fs.key b.mountPoint) = some .dir) :
    Opens fs v names name (openFile fs (entryAt b names name) v) := by
  obtain ⟨hsame, hmounts⟩ := ensureMounted_cases fs v
  unfold openFile
  split
  rename_i v' ret hensure
  rw [hensure] at hsame hmounts
  split
  · rename_i hret
    exact .failed hret (fun hcan => hret (hmounts.mpr hcan.mounts)) (hsame ▸ .refl _ _)
      (hsame ▸ hwf)
  · rename_i hret
    have hspec : fs.dirs.DirsMade b.accepts (dirsOn b names) (fs.entries v'.files) _ :=
      dirsMade_dirsOn hnames (hsame ▸ hwf) (hsame ▸ hmount)
    rw [hsame] at hspec
    rw [createDirectoryPath_eq hnames hname hfits]
    generalize fs.dirs.makeDirs b.accepts (dirsOn b names) v'.files = result at hspec ⊢
    by_cases hmade : result.2 = .made
    · have hzero := (madeRet_eq_zero result).mpr hmade
      rw [madeRet] at hzero
      simp only [madeRet, hzero, ne_eq, not_true_eq_false, if_false]
      exact fsOpenAppend_opens hnames hname hmount hspec hmade (hmounts.mp (not_not.mp hret))
    · have hne : (madeRet result).2 ≠ 0 := fun h => hmade ((madeRet_eq_zero result).mp h)
      rw [madeRet] at hne
      simp only [madeRet, hne, ne_eq, not_false_eq_true, if_true]
      refine .failed hne (fun hcan => hmade (hspec.made_iff.mpr ?_))
        (extends_openedAt hnames hname hspec.frame) hspec.wellFormed
      exact (clear_iff hcan.noFile hmount).mpr hcan.dirs

theorem length_openedPath {path p : Bytes} (h : physicalPath b path .openFile = some p) :
    p.length < pathBufferSize := by
  have hcopied (s : Bytes) : (copied pathBufferSize s).length < pathBufferSize := by
    unfold copied pathBufferSize
    rw [List.length_take]
    omega
  unfold physicalPath backendPath at h
  cases b with
  | littlefs =>
    cases h
    exact hcopied _
  | fatfs =>
    simp only [fatfsTranslatePath] at h
    split at h
    · split at h
      · rename_i hlen
        cases h
        exact hlen
      · cases h
    · cases h
      exact hcopied _

/-- **Opening a log file**: on a volume in which every entry is in a directory, a path that
leads through names to a file is opened exactly when nothing keeps it from being opened, with
all its directories made, and nothing else is made or changed. -/
theorem storageOpen_opens (fs : FileCalls b F K) (path : Bytes) (v : Volume F)
    (names : List Bytes) (name : Bytes)
    (hpath : physicalPath b path .openFile = some (entryAt b names name))
    (hnames : ∀ n ∈ names, IsName n) (hname : IsName name)
    (hwf : WellFormed fs.parent (fs.entries v.files))
    (hmount : fs.entries v.files (fs.key b.mountPoint) = some .dir) :
    ∃ result, storageOpenPath fs path v = some result ∧ Opens fs v names name result := by
  refine ⟨openFile fs (entryAt b names name) v, ?_, ?_⟩
  · rw [storageOpenPath, hpath, Option.map_some]
  · exact openFile_opens hnames hname (length_openedPath hpath) hwf hmount

end Open

/-! ## A card -/

/-- A letter as the names on a FAT volume are compared. -/
def foldCase (c : UInt8) : UInt8 := if 97 ≤ c ∧ c ≤ 122 then c - 32 else c

theorem foldCase_slash {c : UInt8} (h : foldCase c = 47) : c = 47 := by
  unfold foldCase at h
  split at h
  · rename_i hletter
    have hc : c = 79 := by
      rw [← UInt8.sub_add_cancel c 32, h]
      rfl
    rw [hc] at hletter
    exact absurd hletter (by decide)
  · exact h

/-- The entry above another, from the names alone. -/
def cardParent (k : Bytes) : Option Bytes := if k = fatfsMountPoint then none else dirPart k

theorem length_dirPart {path q : Bytes} (h : dirPart path = some q) : q.length < path.length := by
  unfold dirPart at h
  split at h
  · rename_i hslash
    cases h
    have hlen := List.dropWhile_suffix (· != 47) (l := path.reverse) |>.length_le
    have hpos : 0 < path.length := List.length_pos_of_mem hslash
    rw [List.length_reverse, List.length_tail]
    rw [List.length_reverse] at hlen
    omega
  · cases h

theorem cardParent_name {names : List Bytes} {name : Bytes} (hname : IsName name) :
    cardParent ((dirPath fatfsMountPoint names ++ 47 :: name).map foldCase) =
      some ((dirPath fatfsMountPoint names).map foldCase) := by
  have hslash : 47 ∉ name.map foldCase := by
    rw [List.mem_map]
    rintro ⟨c, hc, hfold⟩
    exact hname.no_slash (foldCase_slash hfold ▸ hc)
  rw [List.map_append, List.map_cons, show foldCase 47 = 47 from rfl, cardParent, if_neg,
    dirPart_append hslash]
  intro heq
  have hlen := congrArg List.length heq
  simp only [List.length_append, List.length_map, List.length_cons, dirPath] at hlen
  omega

/-- A card that refuses nothing and does not tell capital letters from others. -/
def foldingCard : FileCalls .fatfs (FileMap Bytes) Bytes where
  key := List.map foldCase
  parent := cardParent
  entries := id
  hidden _ := False
  refusedDir _ := False
  refusedFile _ := False
  fsMount tree := (tree, 0)
  fsStat p tree := tree (p.map foldCase)
  fsMkdir p tree :=
    if (tree (p.map foldCase)).isSome then (tree, -eexist)
    else if (cardParent (p.map foldCase)).bind tree = some .dir then
      (Function.update tree (p.map foldCase) (some .dir), 0)
    else (tree, -enoent)
  fsOpenAppend p tree :=
    match tree (p.map foldCase) with
    | some .file => (tree, 0)
    | some .dir => (tree, -eisdir)
    | none =>
      if (cardParent (p.map foldCase)).bind tree = some .dir then
        (Function.update tree (p.map foldCase) (some .file), 0)
      else (tree, -enoent)
  depth := List.length
  depth_parent k q h := by
    unfold cardParent at h
    split at h
    · cases h
    · exact length_dirPart h
  parent_name _ _ _ hname := cardParent_name hname
  mount_entries _ := rfl
  stat_hidden _ _ h := h.elim
  stat_shown _ _ _ := rfl
  mkdir_grows p tree := by
    split_ifs with hthere hparent
    · exact .inl rfl
    · exact .inr ⟨by simpa using hthere, hparent, rfl⟩
    · exact .inl rfl
  mkdir_zero p tree := by
    split_ifs with hthere hparent
    · simp [eexist]
    · exact fun _ => ⟨by simpa using hthere, by simp⟩
    · simp [enoent]
  mkdir_exists p tree := by
    split_ifs with hthere hparent
    · exact fun _ => hthere
    · simp [eexist]
    · simp [eexist, enoent]
  mkdir_refused _ _ h := h.elim
  mkdir_there p tree _ hthere := by rw [if_pos (by exact hthere)]
  mkdir_missing p tree _ hnone hparent := by
    rw [if_neg (by simpa using hnone), if_pos (by exact hparent)]
  open_grows p tree := by
    split
    · exact .inl rfl
    · exact .inl rfl
    · rename_i hnone
      split_ifs with hparent
      · exact .inr ⟨hnone, hparent, rfl⟩
      · exact .inl rfl
  open_zero p tree := by
    split
    · rename_i hfile
      exact fun _ => ⟨id, hfile⟩
    · simp [eisdir]
    · split_ifs with hparent
      · exact fun _ => ⟨id, by simp⟩
      · simp [enoent]
  open_there p tree _ hfile := by
    have hfile' : tree (p.map foldCase) = some .file := hfile
    simp only [hfile']
  open_missing p tree _ hnone hparent := by
    have hnone' : tree (p.map foldCase) = none := hnone
    have hparent' : (cardParent (p.map foldCase)).bind tree = some .dir := hparent
    simp only [hnone', if_pos hparent']

/-- A card that has been used before, with its folder in capital letters. -/
def usedCard : Volume (FileMap Bytes) where
  mounted := false
  files := fun k =>
    if k = ascii "/SD:" ∨ k = ascii "/SD:/LOGS" then some .dir else none

theorem storageOpen_opens_usedCard :
    ∃ result, storageOpenPath foldingCard (ascii "/logs/20250101/flight.txt") usedCard =
        some result ∧
      Opens foldingCard usedCard [ascii "logs", ascii "20250101"] (ascii "flight.txt") result := by
  refine storageOpen_opens foldingCard _ usedCard [ascii "logs", ascii "20250101"]
    (ascii "flight.txt") (by decide +kernel) (by decide +kernel) (by decide +kernel) ?_
    (by decide +kernel)
  intro k q hk hq
  change cardParent k = some q at hq
  change usedCard.files q = some .dir
  have hdir : k = ascii "/SD:" ∨ k = ascii "/SD:/LOGS" := by
    by_contra hnot
    have hnone : usedCard.files k = none := if_neg hnot
    rw [show foldingCard.entries usedCard.files k = usedCard.files k from rfl, hnone] at hk
    cases hk
  rcases hdir with rfl | rfl
  · have hroot : cardParent (ascii "/SD:") = none := by decide
    rw [hroot] at hq
    cases hq
  · have hparent : cardParent (ascii "/SD:/LOGS") = some (ascii "/SD:") := by decide
    rw [hparent] at hq
    cases hq
    decide

end TempoBt
