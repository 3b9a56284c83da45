-- SUMMARY: The path translations of the storage layer and its two backends, and the paths on which all operations agree.
import TempoBt.Lib.CString

/-!
# Storage paths

Every operation of `storage.c` takes a logical path. It reaches the file system
under a physical path that up to two translations make of it: the storage
layer's own, in `storage_open` and `storage_read_file`, and the FAT backend's, in
each operation of its interface. The littlefs backend passes its path on.
-/

namespace TempoBt

open CString

/-! ## Translations -/

/-- `storage_backend_t` -/
inductive StorageBackend where
  | littlefs
  | fatfs
  deriving DecidableEq

/-- The size of every path buffer. -/
def pathBufferSize : Nat := 256

/-- `FATFS_MOUNT_POINT` -/
def fatfsMountPoint : Bytes := ascii "/SD:"

/-- The text that `storage_translate_path` makes of a logical path. -/
def translatedPath (b : StorageBackend) (logicalPath : Bytes) : Bytes :=
  match b with
  | .littlefs =>
    if !startsWith (ascii "/lfs/") logicalPath then ascii "/lfs" ++ logicalPath else logicalPath
  | .fatfs =>
    if !startsWith (ascii "/SD:") logicalPath then ascii "/SD:" ++ logicalPath else logicalPath

/-- `storage_translate_path` -/
def storageTranslatePath (b : StorageBackend) (logicalPath : Bytes) (pathSize : Nat) : Bytes :=
  copied pathSize (translatedPath b logicalPath)

/-- The text that `translate_path` of the FAT backend makes of a path. -/
def fatPath (logPath : Bytes) : Bytes :=
  if startsWith (ascii "/SD:/") logPath then logPath
  else if startsWith (ascii "/lfs/") logPath then fatfsMountPoint ++ logPath.drop 4
  else if logPath.head? = some 47 then fatfsMountPoint ++ logPath
  else fatfsMountPoint ++ ascii "/" ++ logPath

/-- `translate_path` of the FAT backend; `none` when its `strcpy` leaves the buffer. -/
def fatfsTranslatePath (logPath : Bytes) : Option Bytes :=
  if startsWith (ascii "/SD:/") logPath then
    if logPath.length < pathBufferSize then some logPath else none
  else some (copied pathBufferSize (fatPath logPath))

/-- The text that `storage_read_file` makes of its path. -/
def readPath (b : StorageBackend) (path : Bytes) : Bytes :=
  match b with
  | .fatfs =>
    if startsWith (ascii "/lfs/") path then ascii "/SD:" ++ path.drop 4 else ascii "/SD:" ++ path
  | .littlefs => path

/-- The path with which a backend's interface turns to the file system. -/
def backendPath (b : StorageBackend) (path : Bytes) : Option Bytes :=
  match b with
  | .fatfs => fatfsTranslatePath path
  | .littlefs => some path

/-! ## Operations -/

/-- The operations of the storage layer that take a path. -/
inductive PathOp where
  | openFile
  | delete
  | existsFile
  | listDir
  | readFile
  deriving DecidableEq

/-- The physical path of an operation: the argument of `fs_open`, `fs_unlink`,
`fs_stat` or `fs_opendir`. -/
def physicalPath (b : StorageBackend) (path : Bytes) : PathOp → Option Bytes
  | .openFile => backendPath b (storageTranslatePath b path pathBufferSize)
  -- these three hand the logical path to the backend as it is
  | .delete | .existsFile | .listDir => backendPath b path
  | .readFile => some (copied pathBufferSize (readPath b path))

/-- The contents of the files, by physical path. -/
abbrev FileTree := Bytes → Option Bytes

section Files

variable (b : StorageBackend) (path : Bytes)

/-- `storage_open`, a `storage_write` of `data` and `storage_close`, all carried out:
the file is created if need be, and grows. -/
def storageAppend (data : Bytes) (files : FileTree) : Option FileTree :=
  (physicalPath b path .openFile).map fun p =>
    Function.update files p (some ((files p).getD [] ++ data))

def storageExists (files : FileTree) : Option Bool :=
  (physicalPath b path .existsFile).map fun p => (files p).isSome

/-- `storage_delete`, for a file that can be unlinked. -/
def storageDelete (files : FileTree) : Option FileTree :=
  (physicalPath b path .delete).map fun p => Function.update files p none

/-- `storage_read_file`: the inner `none` is a file that does not open. -/
def storageReadFile (maxLen : Nat) (files : FileTree) : Option (Option Bytes) :=
  (physicalPath b path .readFile).map fun p => (files p).map (·.take maxLen)

end Files

/-! ## Paths that name one file -/

/-- No translation of the path outgrows a path buffer. -/
def FitsBuffers (b : StorageBackend) (path : Bytes) : Prop :=
  (translatedPath b path).length < pathBufferSize ∧ (readPath b path).length < pathBufferSize ∧
    (b = .fatfs → (fatPath (translatedPath b path)).length < pathBufferSize ∧
      (fatPath path).length < pathBufferSize)

/-- The path leads every operation to one physical path, and so a file written
through `storage_open` is the one that exists, is read and is deleted. -/
structure NamesOneFile (b : StorageBackend) (path : Bytes) : Prop where
  same : ∀ op op', physicalPath b path op = physicalPath b path op'
  written : ∀ data files, ∃ files', storageAppend b path data files = some files' ∧
    storageExists b path files' = some true ∧
    ∃ contents, storageReadFile b path (contents ++ data).length files' =
        some (some (contents ++ data)) ∧
      ∃ left, storageDelete b path files' = some left ∧ storageExists b path left = some false ∧
        ∀ maxLen, storageReadFile b path maxLen left = some none

/-- The paths that the backend's translations treat alike: on FAT an absolute path
that does not begin with one of the mount points, on littlefs a path below the
mount point. -/
def UniformPath (b : StorageBackend) (path : Bytes) : Prop :=
  match b with
  | .fatfs =>
    path.head? = some 47 ∧ startsWith (ascii "/lfs/") path = false ∧
      startsWith (ascii "/SD:/") path = false
  | .littlefs => startsWith (ascii "/lfs/") path = true

variable {b : StorageBackend} {path : Bytes}

theorem fatfsTranslatePath_of_fits (h : (fatPath path).length < pathBufferSize) :
    fatfsTranslatePath path = some (fatPath path) := by
  unfold fatfsTranslatePath
  split
  · rename_i hmount
    have hpath : fatPath path = path := by rw [fatPath, if_pos hmount]
    rw [hpath] at h ⊢
    rw [if_pos h]
  · rw [copied_of_fits h]

/-- The physical paths on FAT, where nothing is cut off. -/
theorem physicalPath_fatfs (h : FitsBuffers .fatfs path) :
    physicalPath .fatfs path .openFile = some (fatPath (translatedPath .fatfs path)) ∧
      physicalPath .fatfs path .readFile = some (readPath .fatfs path) ∧
      ∀ op, op ≠ .openFile → op ≠ .readFile →
        physicalPath .fatfs path op = some (fatPath path) := by
  obtain ⟨htranslated, hread, hfat⟩ := h
  obtain ⟨hopen, hpath⟩ := hfat rfl
  refine ⟨?_, ?_, ?_⟩
  · rw [physicalPath, storageTranslatePath, copied_of_fits htranslated, backendPath,
      fatfsTranslatePath_of_fits hopen]
  · rw [physicalPath, copied_of_fits hread]
  · intro op hne hne'
    cases op with
    | openFile => exact absurd rfl hne
    | readFile => exact absurd rfl hne'
    | delete => exact fatfsTranslatePath_of_fits hpath
    | existsFile => exact fatfsTranslatePath_of_fits hpath
    | listDir => exact fatfsTranslatePath_of_fits hpath

theorem physicalPath_littlefs (h : FitsBuffers .littlefs path) :
    physicalPath .littlefs path .openFile = some (translatedPath .littlefs path) ∧
      ∀ op, op ≠ .openFile → physicalPath .littlefs path op = some path := by
  obtain ⟨htranslated, hread, -⟩ := h
  refine ⟨?_, ?_⟩
  · rw [physicalPath, storageTranslatePath, copied_of_fits htranslated, backendPath]
  · intro op hne
    cases op with
    | openFile => exact absurd rfl hne
    | readFile => exact congrArg some (copied_of_fits hread)
    | delete => rfl
    | existsFile => rfl
    | listDir => rfl

/-- Operations that agree on the path agree on the file. -/
theorem NamesOneFile.of_same (h : ∀ op op', physicalPath b path op = physicalPath b path op') :
    NamesOneFile b path := by
  obtain ⟨p, hp⟩ : ∃ p, physicalPath b path .readFile = some p := ⟨_, rfl⟩
  have hall (op : PathOp) : physicalPath b path op = some p := (h op .readFile).trans hp
  refine ⟨h, fun data files => ?_⟩
  refine ⟨Function.update files p (some ((files p).getD [] ++ data)), ?_, ?_, ?_⟩
  · rw [storageAppend, hall, Option.map_some]
  · rw [storageExists, hall, Option.map_some, Function.update_self, Option.isSome_some]
  refine ⟨(files p).getD [], ?_, Function.update files p none, ?_, ?_, ?_⟩
  · rw [storageReadFile, hall, Option.map_some, Function.update_self, Option.map_some,
      List.take_length]
  · rw [storageDelete, hall, Option.map_some, Function.update_idem]
  · rw [storageExists, hall, Option.map_some, Function.update_self, Option.isSome_none]
  · intro maxLen
    rw [storageReadFile, hall, Option.map_some, Function.update_self, Option.map_none]

/-- On littlefs only `storage_open` puts the mount point in front. -/
theorem same_littlefs_iff (h : FitsBuffers .littlefs path) :
    (∀ op op', physicalPath .littlefs path op = physicalPath .littlefs path op') ↔
      UniformPath .littlefs path := by
  obtain ⟨hopen, hother⟩ := physicalPath_littlefs h
  constructor
  · intro hsame
    have heq := hsame .openFile .readFile
    rw [hopen, hother .readFile (by decide), Option.some.injEq, translatedPath] at heq
    by_contra hlfs
    have hlfs : startsWith (ascii "/lfs/") path = false := by simpa [UniformPath] using hlfs
    rw [hlfs] at heq
    have hlen := congrArg List.length heq
    simp only [Bool.not_false, if_true, List.length_append] at hlen
    have hmount : (ascii "/lfs").length = 4 := rfl
    omega
  · intro huniform
    have hlfs : startsWith (ascii "/lfs/") path = true := huniform
    have hall (op : PathOp) : physicalPath .littlefs path op = some path := by
      by_cases hop : op = .openFile
      · rw [hop, hopen, translatedPath, hlfs]
        rfl
      · exact hother op hop
    intro op op'
    rw [hall op, hall op']

/-- The mount point in front of an absolute path is recognised. -/
theorem fatPath_mounted {path : Bytes} (h : path.head? = some 47) :
    fatPath (ascii "/SD:" ++ path) = ascii "/SD:" ++ path := by
  obtain ⟨rest, rfl⟩ : ∃ rest, path = 47 :: rest := ⟨path.tail, List.eq_cons_of_mem_head? h⟩
  have hmount : startsWith (ascii "/SD:/") (ascii "/SD:" ++ 47 :: rest) = true :=
    startsWith_append (ascii "/SD:/") rest
  rw [fatPath, if_pos hmount]

/-- A second mount point is put in front by the read only. -/
theorem fatPath_ne_readPath_of_mounted (h : startsWith (ascii "/SD:/") path = true) :
    fatPath path ≠ readPath .fatfs path := by
  intro heq
  obtain ⟨rest, rfl⟩ := startsWith_iff.mp h
  have hlfs : startsWith (ascii "/lfs/") (ascii "/SD:/" ++ rest) = false := rfl
  rw [fatPath, if_pos h, readPath, if_neg (by simp [hlfs])] at heq
  have hlen := congrArg List.length heq
  simp [ascii] at hlen

/-- The legacy prefix is stripped by all but the open. -/
theorem fatPath_translatedPath_ne_of_legacy (hsd : startsWith (ascii "/SD:/") path = false)
    (h : startsWith (ascii "/lfs/") path = true) :
    fatPath (translatedPath .fatfs path) ≠ fatPath path := by
  intro heq
  obtain ⟨rest, rfl⟩ := startsWith_iff.mp h
  have hmount : startsWith (ascii "/SD:") (ascii "/lfs/" ++ rest) = false := rfl
  rw [translatedPath, hmount, Bool.not_false, if_pos rfl, fatPath_mounted rfl, fatPath,
    if_neg (by simp [hsd]), if_pos h] at heq
  have hlen := congrArg List.length heq
  have hlegacy : (ascii "/lfs/").length = 5 := rfl
  simp only [fatfsMountPoint, List.length_append, List.length_drop] at hlen
  omega

/-- A slash is put in front of a relative path by all but the read. -/
theorem fatPath_ne_readPath_of_relative (hsd : startsWith (ascii "/SD:/") path = false)
    (hlfs : startsWith (ascii "/lfs/") path = false) (h : path.head? ≠ some 47) :
    fatPath path ≠ readPath .fatfs path := by
  intro heq
  rw [fatPath, if_neg (by simp [hsd]), if_neg (by simp [hlfs]), if_neg h, readPath,
    if_neg (by simp [hlfs])] at heq
  have hlen := congrArg List.length heq
  simp [ascii, fatfsMountPoint] at hlen

theorem physicalPath_of_uniform (h : FitsBuffers .fatfs path) (huniform : UniformPath .fatfs path)
    (op : PathOp) : physicalPath .fatfs path op = some (ascii "/SD:" ++ path) := by
  obtain ⟨hopen, hread, hother⟩ := physicalPath_fatfs h
  obtain ⟨hhead, hlfs, hsd⟩ := huniform
  have hpath : fatPath path = ascii "/SD:" ++ path := by
    rw [fatPath, if_neg (by simp [hsd]), if_neg (by simp [hlfs]), if_pos hhead, fatfsMountPoint]
  cases op with
  | openFile =>
    rw [hopen, translatedPath]
    cases startsWith (ascii "/SD:") path with
    -- the mount point without a slash behind it is taken for a name
    | true => exact congrArg some hpath
    | false => exact congrArg some (fatPath_mounted hhead)
  | readFile => rw [hread, readPath, if_neg (by simp [hlfs])]
  | delete => rw [hother .delete (by decide) (by decide), hpath]
  | existsFile => rw [hother .existsFile (by decide) (by decide), hpath]
  | listDir => rw [hother .listDir (by decide) (by decide), hpath]

/-- On FAT the translations treat relative paths and the mount points differently. -/
theorem same_fatfs_iff (h : FitsBuffers .fatfs path) :
    (∀ op op', physicalPath .fatfs path op = physicalPath .fatfs path op') ↔
      UniformPath .fatfs path := by
  obtain ⟨hopen, hread, hother⟩ := physicalPath_fatfs h
  constructor
  · intro hsame
    have hdelete : fatPath path = readPath .fatfs path := by
      have heq := hsame .delete .readFile
      rwa [hother .delete (by decide) (by decide), hread, Option.some.injEq] at heq
    have hopened : fatPath (translatedPath .fatfs path) = fatPath path := by
      have heq := hsame .openFile .delete
      rwa [hopen, hother .delete (by decide) (by decide), Option.some.injEq] at heq
    have hsd : startsWith (ascii "/SD:/") path = false :=
      Bool.eq_false_of_not_eq_true fun hsd => fatPath_ne_readPath_of_mounted hsd hdelete
    have hlfs : startsWith (ascii "/lfs/") path = false :=
      Bool.eq_false_of_not_eq_true fun hlfs =>
        fatPath_translatedPath_ne_of_legacy hsd hlfs hopened
    have hhead : path.head? = some 47 := by
      by_contra hhead
      exact fatPath_ne_readPath_of_relative hsd hlfs hhead hdelete
    exact ⟨hhead, hlfs, hsd⟩
  · intro huniform op op'
    rw [physicalPath_of_uniform h huniform op, physicalPath_of_uniform h huniform op']

/-- **One logical path names one file** exactly where the translations agree. -/
theorem namesOneFile_iff (b : StorageBackend) (path : Bytes) (hfits : FitsBuffers b path) :
    NamesOneFile b path ↔ UniformPath b path := by
  have hsame : (∀ op op', physicalPath b path op = physicalPath b path op') ↔
      UniformPath b path := by
    cases b with
    | littlefs => exact same_littlefs_iff hfits
    | fatfs => exact same_fatfs_iff hfits
  exact ⟨fun h => hsame.mp h.same, fun h => .of_same (hsame.mpr h)⟩

theorem namesOneFile_iff_logs :
    NamesOneFile .fatfs (ascii "/logs/20250101/0000002A/flight.txt") ↔
      UniformPath .fatfs (ascii "/logs/20250101/0000002A/flight.txt") :=
  namesOneFile_iff .fatfs _ (by unfold FitsBuffers; decide +kernel)

/-- A log file on the internal flash: written below `/lfs`, looked for at the root. -/
theorem not_namesOneFile_littlefs_logs :
    FitsBuffers .littlefs (ascii "/logs/flight.txt") ∧
      physicalPath .littlefs (ascii "/logs/flight.txt") .openFile =
        some (ascii "/lfs/logs/flight.txt") ∧
      physicalPath .littlefs (ascii "/logs/flight.txt") .delete = some (ascii "/logs/flight.txt") ∧
      ¬ NamesOneFile .littlefs (ascii "/logs/flight.txt") := by
  refine ⟨by unfold FitsBuffers; decide +kernel, by decide +kernel, by decide +kernel, ?_⟩
  intro h
  exact absurd (h.same .openFile .delete) (by decide +kernel)

end TempoBt
