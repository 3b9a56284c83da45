-- SUMMARY: The file writer service: ring buffer, chunked flushing, opening and closing, with one specification lemma per operation.
import TempoBt.Lib.Fifo
import TempoBt.Lib.Pipeline
import TempoBt.Util.NmeaChecksum
import TempoBt.Services.Storage
import Mathlib.Tactic.Common

/-!
# File writer

The state and the operations of `file_writer.c`. A write enqueues its data whole
or drops it; a flush moves at most one write buffer of data from the ring to the
file. `doFlush` is the composition of its two halves, which other threads may
separate: `flushTake` fills the shared write buffer, `flushStore` stores it.
-/

namespace TempoBt

open Errno

/-! ## State -/

/-- `RING_BUFFER_SIZE` -/
def ringBufferSize : Nat := 8192

/-- `DEFAULT_BUFFER_SIZE` -/
def defaultBufferSize : Nat := 4096

/-- `DEFAULT_FLUSH_INTERVAL` -/
def defaultFlushInterval : UInt32 := 250

structure FileWriterConfig where
  bufferSize : UInt32
  flushIntervalMs : UInt32

structure FileWriterStats where
  linesWritten : UInt32
  bytesWritten : UInt64
  flushes : UInt32
  writeErrors : UInt32
  /-- Buffer-full episodes; consecutive drops count once. -/
  bufferOverflows : UInt32
  linesDropped : UInt32
  deriving DecidableEq

/-- `memset(&writer.stats, 0, ...)` -/
def FileWriterStats.zero : FileWriterStats := ⟨0, 0, 0, 0, 0, 0⟩

/-- The static `writer` and `write_buffer`. The write buffer is never larger than
its memory, and never empty. -/
structure FileWriter where
  bufferSize : Nat
  bufferSize_pos : 0 < bufferSize
  bufferSize_le : bufferSize ≤ defaultBufferSize
  flushIntervalMs : UInt32
  file : StorageFile
  fileOpen : Bool
  ring : Fifo UInt8 ringBufferSize
  /-- Lines dropped in the current buffer-full episode. -/
  pendingDrops : UInt32
  /-- The `data_ready` semaphore, of limit 1. -/
  dataReady : Bool
  /-- Whether `flush_work` is scheduled. -/
  flushWork : Bool
  stats : FileWriterStats
  /-- `write_buffer`, shared by all flushes. -/
  writeBuffer : Bytes

/-- The configured size, or the default for 0 and for no configuration, clamped
to the static buffer. -/
def configuredBufferSize (config : Option FileWriterConfig) : Nat :=
  match config with
  | some c => min (if 0 < c.bufferSize.toNat then c.bufferSize.toNat else defaultBufferSize)
      defaultBufferSize
  | none => defaultBufferSize

theorem configuredBufferSize_bounds (config : Option FileWriterConfig) :
    0 < configuredBufferSize config ∧ configuredBufferSize config ≤ defaultBufferSize := by
  unfold configuredBufferSize defaultBufferSize
  split
  · split <;> omega
  · omega

def fileWriterInit (config : Option FileWriterConfig) : FileWriter where
  bufferSize := configuredBufferSize config
  bufferSize_pos := (configuredBufferSize_bounds config).1
  bufferSize_le := (configuredBufferSize_bounds config).2
  flushIntervalMs :=
    match config with
    | some c => if 0 < c.flushIntervalMs then c.flushIntervalMs else defaultFlushInterval
    | none => defaultFlushInterval
  file := { isOpen := false, contents := [] }
  fileOpen := false
  ring := .empty
  pendingDrops := 0
  dataReady := false
  flushWork := false
  stats := .zero
  writeBuffer := List.replicate defaultBufferSize 0

/-! ## Operations -/

/-- The number of line ends in `data`, counted in 32 bits. -/
def countNewlines (data : Bytes) : UInt32 := UInt32.ofNat (data.count lf)

/-- `file_writer_write`: one critical section on the ring, then the statistics. -/
def fileWriterWrite (data : Bytes) (s : FileWriter) : FileWriter × Int :=
  if data.length = 0 then (s, -einval)
  else if !s.fileOpen then (s, -enoent)
  else if s.ring.space < data.length then
    let newEpisode := s.pendingDrops == 0
    ({ s with
        pendingDrops := s.pendingDrops + 1
        stats :=
          { s.stats with
            linesDropped := s.stats.linesDropped + 1
            bufferOverflows := s.stats.bufferOverflows + if newEpisode then 1 else 0 }
        dataReady := true }, -enospc)
  else
    let ring := (s.ring.put data).1
    ({ s with
        pendingDrops := 0
        ring
        stats := { s.stats with linesWritten := s.stats.linesWritten + countNewlines data }
        dataReady := s.dataReady || decide (ringBufferSize / 2 < ring.size) }, 0)

/-- The first half of `do_flush`: move data from the ring to the write buffer;
also the number of bytes moved. -/
def flushTake (s : FileWriter) : FileWriter × Nat :=
  let data := (s.ring.get s.bufferSize).2
  ({ s with
      ring := (s.ring.get s.bufferSize).1
      -- what the buffer held before is overwritten in front, and stays behind
      writeBuffer := data ++ s.writeBuffer.drop data.length }, data.length)

/-- The second half of `do_flush`: store the first `len` bytes of the write
buffer. -/
def flushStore (w : FsWrite) (len : Nat) (s : FileWriter) : FileWriter × Int :=
  let r := storageWrite w s.file (s.writeBuffer.take len)
  ({ s with
      file := r.1
      stats :=
        if r.2 = 0 then
          { s.stats with
            bytesWritten := s.stats.bytesWritten + UInt64.ofNat len
            flushes := s.stats.flushes + 1 }
        -- the bytes are gone from the ring either way
        else { s.stats with writeErrors := s.stats.writeErrors + 1 }
      dataReady := s.dataReady || decide (0 < s.ring.size) }, r.2)

def doFlush (w : FsWrite) (s : FileWriter) : FileWriter × Int :=
  if !s.fileOpen then (s, -enoent)
  else
    let t := flushTake s
    if t.2 = 0 then (t.1, 0) else flushStore w t.2 t.1

/-- `k_work_cancel_delayable(&writer.flush_work)` -/
def cancelFlushWork (s : FileWriter) : FileWriter := { s with flushWork := false }

def fileWriterFlush (w : FsWrite) (s : FileWriter) : FileWriter × Int :=
  if !s.fileOpen then (s, -enoent)
  else doFlush w (cancelFlushWork s)

/-- What the medium does during a close: its answer to the final write, and the
result of `fs_close`. -/
structure CloseEnv where
  write : FsWrite
  close : Int

/-- The close after the final flush. -/
def closeFile (close : Int) (s : FileWriter) : FileWriter × Int :=
  let r := storageClose close s.file
  ({ s with fileOpen := false, file := r.1 }, r.2)

def fileWriterClose (e : CloseEnv) (s : FileWriter) : FileWriter × Int :=
  if !s.fileOpen then (s, -enoent)
  else closeFile e.close (doFlush e.write (cancelFlushWork s)).1

/-- Marking the file open: the first step of a successful open. -/
def markOpen (file : StorageFile) (s : FileWriter) : FileWriter :=
  { s with file, fileOpen := true, stats := .zero }

/-- Resetting the ring: the second step of a successful open. -/
def resetRing (s : FileWriter) : FileWriter :=
  { s with ring := .empty, pendingDrops := 0, flushWork := true }

/-- What the medium does during an open; `close` is for a file still open. -/
structure OpenEnv where
  close : CloseEnv
  file : FsOpen

def fileWriterOpen (e : OpenEnv) (s : FileWriter) : FileWriter × Int :=
  -- what the close returns is ignored
  let s := if s.fileOpen then (fileWriterClose e.close s).1 else s
  let r := storageOpen e.file
  if r.2 ≠ 0 then ({ s with file := r.1 }, r.2)
  else (resetRing (markOpen r.1 s), 0)

/-- The writer thread's body when it wakes up. -/
def writerThreadStep (w : FsWrite) (s : FileWriter) : FileWriter :=
  let s := { s with dataReady := false }
  if s.fileOpen && decide (0 < s.ring.size) then (doFlush w s).1 else s

/-- `flush_work_handler` -/
def flushWorkHandler (s : FileWriter) : FileWriter :=
  if s.fileOpen then { s with dataReady := true, flushWork := true }
  else { s with flushWork := false }

/-! ## What each operation does -/

section Specs

variable {s : FileWriter} {data : Bytes} {w : FsWrite}

/-- An accepted write enqueues the data whole. -/
theorem fileWriterWrite_accepted (hopen : s.fileOpen = true) (hdata : data ≠ [])
    (hspace : data.length ≤ s.ring.space) :
    ∃ ready, fileWriterWrite data s =
      ({ s with
          pendingDrops := 0
          ring := (s.ring.put data).1
          stats := { s.stats with linesWritten := s.stats.linesWritten + countNewlines data }
          dataReady := ready }, 0) := by
  have hlen : data.length ≠ 0 := by simpa using hdata
  unfold fileWriterWrite
  rw [if_neg hlen, if_neg (by simp [hopen]), if_neg (by omega)]
  exact ⟨_, rfl⟩

/-- A refused write changes only the drop counters and wakes the writer thread. -/
theorem fileWriterWrite_refused (hopen : s.fileOpen = true) (hspace : s.ring.space < data.length) :
    fileWriterWrite data s =
      ({ s with
          pendingDrops := s.pendingDrops + 1
          stats :=
            { s.stats with
              linesDropped := s.stats.linesDropped + 1
              bufferOverflows :=
                s.stats.bufferOverflows + if s.pendingDrops == 0 then 1 else 0 }
          dataReady := true }, -enospc) := by
  have hlen : data.length ≠ 0 := by omega
  unfold fileWriterWrite
  rw [if_neg hlen, if_neg (by simp [hopen]), if_pos hspace]

@[simp] theorem cancelFlushWork_fileOpen (s : FileWriter) :
    (cancelFlushWork s).fileOpen = s.fileOpen := rfl

@[simp] theorem cancelFlushWork_file (s : FileWriter) : (cancelFlushWork s).file = s.file := rfl

@[simp] theorem cancelFlushWork_ring (s : FileWriter) : (cancelFlushWork s).ring = s.ring := rfl

@[simp] theorem cancelFlushWork_bufferSize (s : FileWriter) :
    (cancelFlushWork s).bufferSize = s.bufferSize := rfl

@[simp] theorem fileWriterWrite_fileOpen (data : Bytes) (s : FileWriter) :
    (fileWriterWrite data s).1.fileOpen = s.fileOpen := by
  unfold fileWriterWrite
  split
  · rfl
  · split
    · rfl
    · split <;> rfl

@[simp] theorem fileWriterWrite_file (data : Bytes) (s : FileWriter) :
    (fileWriterWrite data s).1.file = s.file := by
  unfold fileWriterWrite
  split
  · rfl
  · split
    · rfl
    · split <;> rfl

/-- A write enqueues its data whole and returns 0, or leaves the ring as it is. -/
theorem fileWriterWrite_cases (data : Bytes) (s : FileWriter) :
    ((fileWriterWrite data s).2 = 0 ∧ s.fileOpen = true ∧
      (fileWriterWrite data s).1.ring.items = s.ring.items ++ data) ∨
    ((fileWriterWrite data s).2 ≠ 0 ∧ (fileWriterWrite data s).1.ring = s.ring) := by
  unfold fileWriterWrite
  split
  · exact .inr ⟨by simp [einval], rfl⟩
  · split
    · exact .inr ⟨by simp [enoent], rfl⟩
    · rename_i hopen
      split
      · exact .inr ⟨by simp [enospc], rfl⟩
      · rename_i hspace
        exact .inl ⟨rfl, by simpa using hopen, Fifo.put_items_of_fits (by omega)⟩

@[simp] theorem fileWriterWrite_writeBuffer (data : Bytes) (s : FileWriter) :
    (fileWriterWrite data s).1.writeBuffer = s.writeBuffer := by
  unfold fileWriterWrite
  split
  · rfl
  · split
    · rfl
    · split <;> rfl

@[simp] theorem flushTake_snd (s : FileWriter) :
    (flushTake s).2 = (s.ring.items.take s.bufferSize).length := rfl

@[simp] theorem flushTake_ring (s : FileWriter) :
    (flushTake s).1.ring.items = s.ring.items.drop s.bufferSize := rfl

theorem flushTake_writeBuffer (s : FileWriter) :
    (flushTake s).1.writeBuffer.take (flushTake s).2 = s.ring.items.take s.bufferSize :=
  List.take_left' rfl

theorem flushTake_eq_zero_iff : (flushTake s).2 = 0 ↔ s.ring.items = [] := by
  rw [flushTake_snd, List.length_eq_zero_iff]
  exact Fifo.get_eq_nil s.bufferSize_pos

@[simp] theorem doFlush_fileOpen (w : FsWrite) (s : FileWriter) :
    (doFlush w s).1.fileOpen = s.fileOpen := by
  unfold doFlush
  split
  · rfl
  · simp only
    split <;> rfl

@[simp] theorem doFlush_file_isOpen (w : FsWrite) (s : FileWriter) :
    (doFlush w s).1.file.isOpen = s.file.isOpen := by
  unfold doFlush
  split
  · rfl
  · simp only
    split
    · rfl
    · exact storageWrite_isOpen w s.file _

/-- A flush of an empty ring changes nothing. -/
theorem doFlush_empty (hopen : s.fileOpen = true) (hring : s.ring.items = []) :
    doFlush w s = (s, 0) := by
  have hzero : (flushTake s).2 = 0 := flushTake_eq_zero_iff.mpr hring
  have hget : (s.ring.get s.bufferSize).1 = s.ring := Fifo.ext (by simp [hring])
  simp only [doFlush, hopen, Bool.not_true, Bool.false_eq_true, if_false, hzero, if_true]
  simp [flushTake, hget, hring]

theorem doFlush_eq (hopen : s.fileOpen = true) (hring : s.ring.items ≠ []) :
    doFlush w s = flushStore w (flushTake s).2 (flushTake s).1 := by
  have hne : (flushTake s).2 ≠ 0 := fun h => hring (flushTake_eq_zero_iff.mp h)
  simp only [doFlush, hopen, Bool.not_true, Bool.false_eq_true, if_false]
  rw [if_neg hne]

/-- A flush takes one write buffer from the ring and stores what the medium lets
it store. -/
theorem doFlush_nonempty (hopen : s.fileOpen = true) (hring : s.ring.items ≠ []) :
    (doFlush w s).1.ring.items = s.ring.items.drop s.bufferSize ∧
      (doFlush w s).1.file = (storageWrite w s.file (s.ring.items.take s.bufferSize)).1 ∧
      (doFlush w s).2 = (storageWrite w s.file (s.ring.items.take s.bufferSize)).2 := by
  rw [doFlush_eq hopen hring]
  unfold flushStore
  rw [flushTake_writeBuffer]
  exact ⟨rfl, rfl, rfl⟩

/-- A flush whose storage write succeeds appends one write buffer to the file and
counts it. -/
theorem doFlush_all (hopen : s.fileOpen = true) (hfile : s.file.isOpen = true)
    (hring : s.ring.items ≠ []) :
    ∃ buffer ready, doFlush .all s =
      ({ s with
          ring := (s.ring.get s.bufferSize).1
          writeBuffer := buffer
          file := { s.file with contents := s.file.contents ++ s.ring.items.take s.bufferSize }
          stats :=
            { s.stats with
              bytesWritten :=
                s.stats.bytesWritten + UInt64.ofNat (s.ring.items.take s.bufferSize).length
              flushes := s.stats.flushes + 1 }
          dataReady := ready }, 0) := by
  have hdata : s.ring.items.take s.bufferSize ≠ [] := by
    rw [← List.length_pos_iff]
    have := List.length_pos_iff.mpr hring
    have := s.bufferSize_pos
    rw [List.length_take]
    omega
  rw [doFlush_eq hopen hring]
  unfold flushStore
  have hwrite : storageWrite .all (flushTake s).1.file (s.ring.items.take s.bufferSize) =
      ({ s.file with contents := s.file.contents ++ s.ring.items.take s.bufferSize }, 0) :=
    storageWrite_all hfile hdata
  rw [flushTake_writeBuffer, hwrite]
  exact ⟨_, _, rfl⟩

/-- A successful open leaves an empty ring, cleared counters and the file as the
medium holds it. -/
theorem fileWriterOpen_ok {e : OpenEnv} (h : (fileWriterOpen e s).2 = 0) :
    ∃ contents, e.file = .opened contents ∧
      (fileWriterOpen e s).1.fileOpen = true ∧
      (fileWriterOpen e s).1.file = { isOpen := true, contents } ∧
      (fileWriterOpen e s).1.ring.items = [] ∧
      (fileWriterOpen e s).1.pendingDrops = 0 ∧
      (fileWriterOpen e s).1.stats = .zero := by
  unfold fileWriterOpen at h ⊢
  simp only at h ⊢
  split at h
  · rename_i hne
    exact absurd h hne
  · rename_i hok
    simp only [ne_eq, not_not] at hok
    obtain ⟨contents, hfile, hopened⟩ := storageOpen_ok hok
    rw [if_neg (by simpa using hok), hopened]
    exact ⟨contents, hfile, rfl, rfl, rfl, rfl, rfl⟩

theorem fileWriterOpen_fileOpen {e : OpenEnv} (h : (fileWriterOpen e s).2 = 0) :
    (fileWriterOpen e s).1.fileOpen = true := by
  obtain ⟨-, -, hopen, -⟩ := fileWriterOpen_ok h
  exact hopen

/-- A close that finds the file open ends with the file marked closed. -/
@[simp] theorem fileWriterClose_fileOpen (e : CloseEnv) (s : FileWriter) :
    (fileWriterClose e s).1.fileOpen = false := by
  unfold fileWriterClose
  split
  · rename_i h
    simpa using h
  · rfl

/-- An open that fails leaves no file open, also not the one that was. -/
theorem fileWriterOpen_error {e : OpenEnv} (h : (fileWriterOpen e s).2 ≠ 0) :
    (fileWriterOpen e s).1.fileOpen = false := by
  unfold fileWriterOpen at h ⊢
  simp only at h ⊢
  split at h
  · rename_i hne
    rw [if_pos hne]
    cases hopen : s.fileOpen with
    | true => simp
    | false => simp [hopen]
  · exact absurd rfl h

/-- A close of an open file returns what `fs_close` returns. -/
theorem fileWriterClose_ret {e : CloseEnv} (hopen : s.fileOpen = true)
    (hfile : s.file.isOpen = true) : (fileWriterClose e s).2 = e.close := by
  have hflush : (doFlush e.write (cancelFlushWork s)).1.file.isOpen = true := by
    rw [doFlush_file_isOpen]
    exact hfile
  rw [fileWriterClose, if_neg (by simp [hopen]), closeFile]
  simp only [storageClose, hflush]
  by_cases hclose : e.close = 0 <;> simp [hclose]

/-- The final flush of a close takes at most one write buffer. -/
theorem fileWriterClose_contents {e : CloseEnv} (hopen : s.fileOpen = true)
    (hfile : s.file.isOpen = true) (hwrite : e.write = .all) :
    (fileWriterClose e s).1.file.contents =
      s.file.contents ++ s.ring.items.take s.bufferSize := by
  have hclose (f : StorageFile) : (storageClose e.close f).1.contents = f.contents := by
    unfold storageClose
    split
    · rfl
    · split <;> rfl
  rw [fileWriterClose, if_neg (by simp [hopen]), closeFile, hclose, hwrite]
  by_cases hring : s.ring.items = []
  · rw [doFlush_empty (by simpa using hopen) (by simpa using hring)]
    simp [hring]
  · obtain ⟨buffer, ready, hflush⟩ :=
      doFlush_all (s := cancelFlushWork s) (by simpa using hopen) (by simpa using hfile)
        (by simpa using hring)
    rw [hflush]
    rfl

end Specs

/-! ## What the file writer is for -/

/-- The file grown since it had contents `atOpen`, and the ring, are the output
and the queue of a pipeline; `inFlight` is what a flush has taken and not yet
stored. -/
structure Refines (atOpen inFlight : Bytes) (s : FileWriter) (p : Pipeline UInt8) : Prop where
  fileOpen : s.fileOpen = true
  storageOpen : s.file.isOpen = true
  out : s.file.contents = atOpen ++ p.out
  flight : p.inFlight = inFlight
  queue : p.queue = s.ring.items

end TempoBt
