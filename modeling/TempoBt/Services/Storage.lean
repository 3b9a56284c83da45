-- SUMMARY: The storage layer's file operations, with the medium's behaviour as an input.
import TempoBt.App.Errno
import TempoBt.Lib.Bytes

/-!
# Storage

The file operations of `storage.c` over its file-system backends. What the medium
does in a call is an argument of the call, so every failure pattern is a choice
of arguments. A file is its contents; it is opened for appending.
-/

namespace TempoBt

open Errno

/-! ## Files -/

/-- `storage_file_t`, with the contents of the file it refers to. -/
structure StorageFile where
  isOpen : Bool
  contents : Bytes
  deriving DecidableEq

/-- What one `fs_write` does. -/
inductive FsWrite where
  /-- Everything is stored. -/
  | all
  /-- At most `n` bytes, and not everything, are stored. -/
  | short (n : Nat)
  /-- Nothing is stored, an error code is returned. -/
  | error (errno : Nat)
  deriving DecidableEq

/-- The outcome of mounting, creating the directories and opening the file: an
error, or the present contents of the file. -/
inductive FsOpen where
  | opened (contents : Bytes)
  | error (errno : Nat)
  deriving DecidableEq

/-- The bytes an `fs_write` of `data` stores, and its return value. -/
def fsWrite (w : FsWrite) (data : Bytes) : Bytes × Int :=
  match w with
  | .all => (data, data.length)
  | .short n => (data.take (min n (data.length - 1)), min n (data.length - 1))
  | .error e => ([], -(e + 1))

def storageOpen (o : FsOpen) : StorageFile × Int :=
  match o with
  | .opened contents => ({ isOpen := true, contents }, 0)
  | .error e => ({ isOpen := false, contents := [] }, -(e + 1))

def storageWrite (w : FsWrite) (file : StorageFile) (data : Bytes) : StorageFile × Int :=
  if data.length = 0 then (file, -einval)
  else if !file.isOpen then (file, -einval)
  else
    let stored := (fsWrite w data).1
    let written := (fsWrite w data).2
    ({ file with contents := file.contents ++ stored },
      if written < 0 then written else if written ≠ data.length then -eio else 0)

/-- `ret` is the result of `fs_close`. -/
def storageClose (ret : Int) (file : StorageFile) : StorageFile × Int :=
  if !file.isOpen then (file, -einval)
  else if ret ≠ 0 then (file, ret)
  else ({ file with isOpen := false }, 0)

/-! ## What a write stores -/

theorem storageOpen_ok {o : FsOpen} (h : (storageOpen o).2 = 0) :
    ∃ contents, o = .opened contents ∧ (storageOpen o).1 = { isOpen := true, contents } := by
  cases o with
  | opened contents => exact ⟨contents, rfl, rfl⟩
  | error e => simp only [storageOpen] at h; omega

@[simp] theorem storageWrite_isOpen (w : FsWrite) (file : StorageFile) (data : Bytes) :
    (storageWrite w file data).1.isOpen = file.isOpen := by
  unfold storageWrite
  split
  · rfl
  · split <;> rfl

/-- A write the medium carries out appends the data. -/
theorem storageWrite_all {file : StorageFile} {data : Bytes} (hopen : file.isOpen = true)
    (hdata : data ≠ []) :
    storageWrite .all file data = ({ file with contents := file.contents ++ data }, 0) := by
  simp [storageWrite, fsWrite, hdata, hopen]

/-- A write the medium does not carry out stores a proper prefix and is reported. -/
theorem storageWrite_not_all {w : FsWrite} {file : StorageFile} {data : Bytes}
    (hopen : file.isOpen = true) (hdata : data ≠ []) (hw : w ≠ .all) :
    ∃ n, n < data.length ∧ (storageWrite w file data).2 ≠ 0 ∧
      (storageWrite w file data).1 = { file with contents := file.contents ++ data.take n } := by
  have hlen : 0 < data.length := List.length_pos_iff.mpr hdata
  have hne : data.length ≠ 0 := by omega
  simp only [storageWrite, hne, hopen, if_false, Bool.not_true, Bool.false_eq_true]
  cases w with
  | all => exact absurd rfl hw
  | short n =>
    refine ⟨min n (data.length - 1), by omega, ?_, rfl⟩
    simp only [fsWrite, eio]
    omega
  | error e =>
    refine ⟨0, hlen, ?_, by simp [fsWrite]⟩
    simp only [fsWrite]
    omega

end TempoBt
