-- SUMMARY: What happens to accepted data over runs of writes and flushes: conservation, the statistics, the final flush of a close, and failing storage.
import TempoBt.App.Events
import TempoBt.Lib.Machine
import TempoBt.Lib.Pipeline
import TempoBt.Lib.Runs
import TempoBt.Services.FileWriter
import Mathlib.Algebra.Order.BigOperators.Group.List
import Mathlib.Data.List.Sublists

/-!
# Conservation of accepted data

A run of the file writer is a sequence of write calls and flushes of its single
consumer. The history of a run is the list of its calls; the accepted data, the
refused calls and the statistics are all read off the history.
-/

namespace TempoBt

open Errno

/-! ## Runs and histories -/

/-- A call of `file_writer_write` with at least one byte, or a `do_flush`. -/
inductive WriterOp where
  | write (data : Bytes) (nonempty : data ≠ [])
  | flush (w : FsWrite)
  deriving DecidableEq

/-- A call with its return value and the events it publishes. -/
structure WriterCall where
  op : WriterOp
  ret : Int
  published : List EventType
  deriving DecidableEq

/-- One call. Neither function publishes an event on any path. -/
def writerStep (s : FileWriter) (op : WriterOp) : FileWriter × WriterCall :=
  match op with
  | .write data _ => ((fileWriterWrite data s).1, ⟨op, (fileWriterWrite data s).2, []⟩)
  | .flush w => ((doFlush w s).1, ⟨op, (doFlush w s).2, []⟩)

/-- The data of a write call that returned 0. -/
def WriterCall.accepted (c : WriterCall) : Option Bytes :=
  match c.op with
  | .write data _ => if c.ret = 0 then some data else none
  | .flush _ => none

/-- The return value of a write call. -/
def WriterCall.writeReturn (c : WriterCall) : Option Int :=
  match c.op with
  | .write _ _ => some c.ret
  | .flush _ => none

/-- The data of the calls that returned 0, in call order. -/
def accepted (h : List WriterCall) : List Bytes := h.filterMap WriterCall.accepted

/-- The return values of the write calls, in call order. -/
def writeReturns (h : List WriterCall) : List Int := h.filterMap WriterCall.writeReturn

/-- The storage error events published in the history. -/
def storageErrors (h : List WriterCall) : Nat :=
  (h.flatMap WriterCall.published).count .storageError

def isEnospc (ret : Int) : Bool := ret == -enospc

variable {s : FileWriter} {h : List WriterCall} {atOpen data : Bytes}

section Histories

variable (h : List WriterCall) (nonempty : data ≠ []) (w : FsWrite) (ret : Int)
  (published : List EventType)

@[simp] theorem accepted_concat_write :
    accepted (h ++ [⟨.write data nonempty, 0, published⟩]) = accepted h ++ [data] := by
  simp [accepted, WriterCall.accepted]

@[simp] theorem accepted_concat_refused :
    accepted (h ++ [⟨.write data nonempty, -enospc, published⟩]) = accepted h := by
  simp [accepted, WriterCall.accepted, enospc]

@[simp] theorem accepted_concat_flush :
    accepted (h ++ [⟨.flush w, ret, published⟩]) = accepted h := by
  simp [accepted, WriterCall.accepted]

@[simp] theorem writeReturns_concat_write :
    writeReturns (h ++ [⟨.write data nonempty, ret, published⟩]) = writeReturns h ++ [ret] := by
  simp [writeReturns, WriterCall.writeReturn]

@[simp] theorem writeReturns_concat_flush :
    writeReturns (h ++ [⟨.flush w, ret, published⟩]) = writeReturns h := by
  simp [writeReturns, WriterCall.writeReturn]

end Histories

/-! ## One write call

A write on an open file is accepted whole or refused; nothing else happens.
-/

theorem writerStep_write (hopen : s.fileOpen = true) (hdata : data ≠ []) :
    (data.length ≤ s.ring.space ∧
      (writerStep s (.write data hdata)).2 = ⟨.write data hdata, 0, []⟩ ∧
      ∃ ready, (writerStep s (.write data hdata)).1 =
        { s with
          pendingDrops := 0
          ring := (s.ring.put data).1
          stats := { s.stats with linesWritten := s.stats.linesWritten + countNewlines data }
          dataReady := ready }) ∨
    (s.ring.space < data.length ∧
      (writerStep s (.write data hdata)).2 = ⟨.write data hdata, -enospc, []⟩ ∧
      (writerStep s (.write data hdata)).1 =
        { s with
          pendingDrops := s.pendingDrops + 1
          stats :=
            { s.stats with
              linesDropped := s.stats.linesDropped + 1
              bufferOverflows :=
                s.stats.bufferOverflows + if s.pendingDrops == 0 then 1 else 0 }
          dataReady := true }) := by
  by_cases hspace : data.length ≤ s.ring.space
  · obtain ⟨ready, hwrite⟩ := fileWriterWrite_accepted hopen hdata hspace
    exact .inl ⟨hspace, by simp [writerStep, hwrite], ready, by simp [writerStep, hwrite]⟩
  · have hfull : s.ring.space < data.length := by omega
    have hwrite := fileWriterWrite_refused hopen hfull
    exact .inr ⟨hfull, by simp [writerStep, hwrite], by simp [writerStep, hwrite]⟩

theorem writerStep_fileOpen (s : FileWriter) (op : WriterOp) :
    (writerStep s op).1.fileOpen = s.fileOpen := by
  cases op with
  | write data nonempty => exact fileWriterWrite_fileOpen data s
  | flush w => exact doFlush_fileOpen w s

/-! ## The statistics agree with the history -/

/-- The counters of `file_writer_write`, as functions of the history. Only the
overflow counter looks at another one, so only it needs the bound on the calls. -/
structure Counts (s : FileWriter) (h : List WriterCall) : Prop where
  fileOpen : s.fileOpen = true
  lines : s.stats.linesWritten = UInt32.ofNat ((accepted h).flatten.count lf)
  dropped : s.stats.linesDropped = UInt32.ofNat ((writeReturns h).count (-enospc))
  pending : s.pendingDrops = UInt32.ofNat ((writeReturns h).trailing isEnospc)
  overflows : (writeReturns h).length < 2 ^ 32 →
    s.stats.bufferOverflows = UInt32.ofNat ((writeReturns h).countRuns isEnospc)

theorem doFlush_counters (w : FsWrite) (s : FileWriter) :
    (doFlush w s).1.stats.linesWritten = s.stats.linesWritten ∧
      (doFlush w s).1.stats.linesDropped = s.stats.linesDropped ∧
      (doFlush w s).1.stats.bufferOverflows = s.stats.bufferOverflows ∧
      (doFlush w s).1.pendingDrops = s.pendingDrops := by
  unfold doFlush
  split
  · exact ⟨rfl, rfl, rfl, rfl⟩
  · simp only
    split
    · exact ⟨rfl, rfl, rfl, rfl⟩
    · simp only [flushStore]
      split <;> exact ⟨rfl, rfl, rfl, rfl⟩

/-- Every call keeps the counters in agreement with the history. -/
theorem Counts.step (op : WriterOp) (hs : Counts s h) :
    Counts (writerStep s op).1 (h ++ [(writerStep s op).2]) := by
  cases op with
  | flush w =>
    obtain ⟨hlines, hdropped, hover, hpending⟩ := doFlush_counters w s
    simp only [writerStep]
    constructor
    · rw [doFlush_fileOpen, hs.fileOpen]
    · rw [accepted_concat_flush, hlines, hs.lines]
    · rw [writeReturns_concat_flush, hdropped, hs.dropped]
    · rw [writeReturns_concat_flush, hpending, hs.pending]
    · rw [writeReturns_concat_flush, hover]
      exact hs.overflows
  | write data nonempty =>
    rcases writerStep_write hs.fileOpen nonempty with
      ⟨-, hcall, ready, hstep⟩ | ⟨-, hcall, hstep⟩
    · have hzero : isEnospc 0 = false := rfl
      rw [hcall, hstep]
      constructor
      · exact hs.fileOpen
      · simp [hs.lines, countNewlines, UInt32.ofNat_add]
      · simp [hs.dropped, List.count_append, enospc]
      · simp [List.trailing_concat_of_neg _ hzero]
      · rw [writeReturns_concat_write, List.countRuns_concat]
        intro hcalls
        have hover := hs.overflows (by simp at hcalls; omega)
        simpa [hzero] using hover
    · have hfull : isEnospc (-enospc) = true := rfl
      rw [hcall, hstep]
      constructor
      · exact hs.fileOpen
      · simpa using hs.lines
      · simp [hs.dropped, List.count_append, UInt32.ofNat_add]
      · simp [hs.pending, List.trailing_concat_of_pos _ hfull, UInt32.ofNat_add]
      · rw [writeReturns_concat_write, List.countRuns_concat]
        intro hcalls
        have hlen : (writeReturns h).length < 2 ^ 32 := by simp at hcalls; omega
        have htrail := List.trailing_le_length (p := isEnospc) (writeReturns h)
        -- the episode flag cannot wrap to zero inside an episode
        have hflag : s.pendingDrops = 0 ↔ (writeReturns h).trailing isEnospc = 0 := by
          rw [hs.pending, ← UInt32.toNat_inj, UInt32.toNat_zero,
            UInt32.toNat_ofNat_of_lt' (by rw [UInt32.size]; omega)]
        simp only [hs.overflows hlen, beq_iff_eq, hflag, hfull, true_and]
        split <;> simp [UInt32.ofNat_add]

/-! ## The file and the ring as a pipeline -/

/-- Between calls nothing is in flight, the accepted data is what the pipeline
accepted, and the byte counter is the length of its output. -/
structure Tracks (atOpen : Bytes) (s : FileWriter) (h : List WriterCall) (p : Pipeline UInt8) :
    Prop where
  refines : Refines atOpen [] s p
  accepted : p.accepted = accepted h
  bytes : s.stats.bytesWritten = UInt64.ofNat p.out.length

/-- Every storage write of the call succeeds. -/
def StoresAll (s : FileWriter) (op : WriterOp) : Prop :=
  ∀ w, op = .flush w → s.ring.items ≠ [] → w = .all

/-- Every call whose storage writes succeed is a step of the pipeline. -/
theorem Tracks.step {p : Pipeline UInt8} {op : WriterOp} (hp : Tracks atOpen s h p)
    (hop : StoresAll s op) :
    ∃ q, Tracks atOpen (writerStep s op).1 (h ++ [(writerStep s op).2]) q := by
  obtain ⟨⟨hopen, hfile, hout, hflight, hqueue⟩, hacc, hbytes⟩ := hp
  cases op with
  | write data nonempty =>
    rcases writerStep_write hopen nonempty with
      ⟨hspace, hcall, ready, hstep⟩ | ⟨hfull, hcall, hstep⟩
    -- accepted whole: the pipeline accepts it too
    · rw [hcall, hstep]
      refine ⟨p.accept data, ⟨hopen, hfile, hout, hflight, ?_⟩, ?_, hbytes⟩
      · rw [Pipeline.accept_queue, hqueue, Fifo.put_items_of_fits hspace]
      · rw [Pipeline.accept_accepted, hacc, accepted_concat_write]
    · rw [hcall, hstep]
      exact ⟨p, ⟨hopen, hfile, hout, hflight, hqueue⟩,
        by rw [hacc, accepted_concat_refused], hbytes⟩
  | flush w =>
    by_cases hring : s.ring.items = []
    · simp only [writerStep, doFlush_empty hopen hring]
      exact ⟨p, ⟨hopen, hfile, hout, hflight, hqueue⟩, by rw [hacc, accepted_concat_flush], hbytes⟩
    · obtain rfl := hop w rfl hring
      obtain ⟨buffer, ready, hstep⟩ := doFlush_all hopen hfile hring
      simp only [writerStep, hstep]
      -- a flush is a take and a commit, with nothing in between
      refine ⟨(p.take s.bufferSize hflight).commit, ⟨hopen, hfile, ?_, rfl, ?_⟩, ?_, ?_⟩
      · simp [Pipeline.commit, Pipeline.take, hout, hqueue]
      · simp [Pipeline.commit, Pipeline.take, hqueue]
      · simpa [Pipeline.commit, Pipeline.take] using hacc
      · simp only [Pipeline.commit, Pipeline.take, hqueue, List.length_append, UInt64.ofNat_add,
          hbytes]

/-! ## Runs after an open -/

section Opened

variable {e : OpenEnv} {ops : List WriterOp}

theorem counts_of_open (h : (fileWriterOpen e s).2 = 0) : Counts (fileWriterOpen e s).1 [] := by
  obtain ⟨contents, -, hopen, -, -, hpending, hstats⟩ := fileWriterOpen_ok h
  constructor
  · exact hopen
  · rw [hstats]; rfl
  · rw [hstats]; rfl
  · rw [hpending]; rfl
  · rw [hstats]; exact fun _ => rfl

theorem tracks_of_open (h : (fileWriterOpen e s).2 = 0) :
    Tracks (fileWriterOpen e s).1.file.contents (fileWriterOpen e s).1 [] .empty := by
  obtain ⟨contents, -, hopen, hfile, hring, -, hstats⟩ := fileWriterOpen_ok h
  refine ⟨⟨hopen, by rw [hfile], by simp [Pipeline.empty], rfl, by rw [hring]; rfl⟩, rfl, ?_⟩
  rw [hstats]
  rfl

theorem counts_run (h : (fileWriterOpen e s).2 = 0) (ops : List WriterOp) :
    Counts (Machine.run writerStep (fileWriterOpen e s).1 ops).1
      (Machine.run writerStep (fileWriterOpen e s).1 ops).2 := by
  have hrun := Machine.run_history (fun s op h hs => Counts.step op hs) ops (counts_of_open h)
  rwa [List.nil_append] at hrun

theorem tracks_run (h : (fileWriterOpen e s).2 = 0)
    (hops : Machine.Guarded writerStep StoresAll (fileWriterOpen e s).1 ops) :
    ∃ p, Tracks (fileWriterOpen e s).1.file.contents
      (Machine.run writerStep (fileWriterOpen e s).1 ops).1
      (Machine.run writerStep (fileWriterOpen e s).1 ops).2 p := by
  have hrun := Machine.Guarded.history
    (I := fun s' h' => ∃ p, Tracks (fileWriterOpen e s).1.file.contents s' h' p)
    (fun s op h hs hop => hs.elim fun p hp => Tracks.step hp hop) ⟨_, tracks_of_open h⟩ hops
  rwa [List.nil_append] at hrun

theorem guarded_of_flush_all (hflush : ∀ w, .flush w ∈ ops → w = .all) (s : FileWriter) :
    Machine.Guarded writerStep StoresAll s ops :=
  Machine.Guarded.of_forall (fun op hop _ w hw _ => hflush w (by rwa [← hw])) s

/-- An accepted block fits the ring. -/
theorem accepted_block_le (h : (fileWriterOpen e s).2 = 0) (ops : List WriterOp) :
    ∀ block ∈ accepted (Machine.run writerStep (fileWriterOpen e s).1 ops).2,
      block.length ≤ ringBufferSize := by
  have hcalls : ∀ c ∈ (Machine.run writerStep (fileWriterOpen e s).1 ops).2,
      ∀ block, c.accepted = some block → block.length ≤ ringBufferSize :=
    Machine.run_outputs (I := fun s => s.fileOpen = true)
    (fun s op hs => by rw [writerStep_fileOpen, hs])
    (fun s op hs block hblock => by
      cases op with
      | flush w => simp [writerStep, WriterCall.accepted] at hblock
      | write data nonempty =>
        rcases writerStep_write hs nonempty with ⟨hspace, hcall, -⟩ | ⟨-, hcall, -⟩
        · simp only [hcall, WriterCall.accepted, if_true, Option.some.injEq] at hblock
          rw [← hblock]
          exact hspace.trans (Nat.sub_le _ _)
        · simp [hcall, WriterCall.accepted, enospc] at hblock)
    (counts_of_open h).fileOpen ops
  intro block hblock
  obtain ⟨c, hc, hcb⟩ := List.mem_filterMap.mp hblock
  exact hcalls c hc block hcb

theorem accepted_length_le (h : List WriterCall) :
    (accepted h).length ≤ (writeReturns h).length := by
  induction h with
  | nil => exact Nat.le_refl 0
  | cons c h ih =>
    have hc : c.accepted.toList.length ≤ c.writeReturn.toList.length := by
      unfold WriterCall.accepted WriterCall.writeReturn
      split
      · split <;> simp
      · simp
    have hacc : accepted (c :: h) = c.accepted.toList ++ accepted h := by
      cases hc : c.accepted <;> simp [accepted, hc]
    have hret : writeReturns (c :: h) = c.writeReturn.toList ++ writeReturns h := by
      cases hc : c.writeReturn <;> simp [writeReturns, hc]
    rw [hacc, hret, List.length_append, List.length_append]
    omega

/-- The accepted data is bounded by the number of calls. -/
theorem accepted_flatten_length_le (h : (fileWriterOpen e s).2 = 0) (ops : List WriterOp) :
    (accepted (Machine.run writerStep (fileWriterOpen e s).1 ops).2).flatten.length ≤
      (writeReturns (Machine.run writerStep (fileWriterOpen e s).1 ops).2).length *
        ringBufferSize := by
  have hblocks := accepted_block_le h ops
  have hnum := accepted_length_le (Machine.run writerStep (fileWriterOpen e s).1 ops).2
  have hsum := List.sum_le_card_nsmul
    ((accepted (Machine.run writerStep (fileWriterOpen e s).1 ops).2).map List.length)
    ringBufferSize (by simpa using hblocks)
  rw [List.length_map, nsmul_eq_mul, Nat.cast_id] at hsum
  rw [List.length_flatten]
  exact hsum.trans (Nat.mul_le_mul_right _ hnum)

/-- **Conservation.** With successful storage writes, the bytes appended since the
open and the bytes in the ring are the accepted data in call order, and the
statistics agree with the history of the calls. -/
theorem fileWriter_conservation (e : OpenEnv) (s : FileWriter) (ops : List WriterOp)
    (hopen : (fileWriterOpen e s).2 = 0) (hflush : ∀ w, .flush w ∈ ops → w = .all)
    (hcalls : (writeReturns (Machine.run writerStep (fileWriterOpen e s).1 ops).2).length < 2 ^ 32)
    (hlines : (accepted (Machine.run writerStep (fileWriterOpen e s).1 ops).2).flatten.count lf
      < 2 ^ 32) :
    let opened := (fileWriterOpen e s).1
    let final := (Machine.run writerStep opened ops).1
    let history := (Machine.run writerStep opened ops).2
    ∃ appended, final.file.contents = opened.file.contents ++ appended ∧
      appended ++ final.ring.items = (accepted history).flatten ∧
      final.stats.bytesWritten.toNat = appended.length ∧
      final.stats.linesWritten.toNat = (accepted history).flatten.count lf ∧
      final.stats.linesDropped.toNat = (writeReturns history).count (-enospc) ∧
      final.stats.bufferOverflows.toNat = (writeReturns history).countRuns isEnospc := by
  intro opened final history
  obtain ⟨p, hp⟩ := tracks_run hopen (guarded_of_flush_all hflush opened)
  have hc := counts_run hopen ops
  have hconserved : p.out ++ final.ring.items = (accepted history).flatten := by
    rw [← hp.refines.queue, ← hp.accepted, ← p.conserved, hp.refines.flight, List.append_nil]
  -- fewer than 2^32 calls of at most one ring each cannot wrap the byte counter
  have hbytes : p.out.length < 2 ^ 64 := by
    have hout : p.out.length ≤ (accepted history).flatten.length := by
      rw [← hconserved, List.length_append]
      omega
    have hsum := hout.trans (accepted_flatten_length_le hopen ops)
    rw [ringBufferSize] at hsum
    omega
  refine ⟨p.out, hp.refines.out, hconserved, ?_, ?_, ?_, ?_⟩
  · rw [hp.bytes, UInt64.toNat_ofNat_of_lt' (by rw [UInt64.size]; omega)]
  · rw [hc.lines, UInt32.toNat_ofNat_of_lt' (by rw [UInt32.size]; omega)]
  · have hle : (writeReturns history).count (-enospc) < UInt32.size :=
      List.count_le_length.trans_lt hcalls
    rw [hc.dropped, UInt32.toNat_ofNat_of_lt' hle]
  · have hle : (writeReturns history).countRuns isEnospc < UInt32.size :=
      (List.countRuns_le_length _).trans_lt hcalls
    rw [hc.overflows hcalls, UInt32.toNat_ofNat_of_lt' hle]

end Opened

/-- The medium opens an empty file. -/
def openNew : OpenEnv where
  close := { write := .all, close := 0 }
  file := .opened []

theorem fileWriter_conservation_two_lines :
    let ops : List WriterOp :=
      [.write (ascii "$A\n") (by decide), .flush .all, .write (ascii "$B\n") (by decide)]
    let opened := (fileWriterOpen openNew (fileWriterInit none)).1
    let final := (Machine.run writerStep opened ops).1
    let history := (Machine.run writerStep opened ops).2
    ∃ appended, final.file.contents = opened.file.contents ++ appended ∧
      appended ++ final.ring.items = (accepted history).flatten ∧
      final.stats.bytesWritten.toNat = appended.length ∧
      final.stats.linesWritten.toNat = (accepted history).flatten.count lf ∧
      final.stats.linesDropped.toNat = (writeReturns history).count (-enospc) ∧
      final.stats.bufferOverflows.toNat = (writeReturns history).countRuns isEnospc :=
  fileWriter_conservation openNew (fileWriterInit none) _ (by decide) (by simp) (by decide)
    (by decide)

/-! ## The final flush of a close -/

/-- **Close.** With successful storage operations, a close leaves all accepted data
in the file exactly when the ring holds at most one write buffer at the call. -/
theorem fileWriterClose_complete_iff (e : OpenEnv) (s : FileWriter) (ops : List WriterOp)
    (hopen : (fileWriterOpen e s).2 = 0) (hflush : ∀ w, .flush w ∈ ops → w = .all) :
    let opened := (fileWriterOpen e s).1
    let final := (Machine.run writerStep opened ops).1
    let history := (Machine.run writerStep opened ops).2
    (fileWriterClose { write := .all, close := 0 } final).1.file.contents =
        opened.file.contents ++ (accepted history).flatten ↔
      final.ring.size ≤ final.bufferSize := by
  intro opened final history
  obtain ⟨p, hp⟩ := tracks_run hopen (guarded_of_flush_all hflush opened)
  have hconserved : p.out ++ final.ring.items = (accepted history).flatten := by
    rw [← hp.refines.queue, ← hp.accepted, ← p.conserved, hp.refines.flight, List.append_nil]
  rw [fileWriterClose_contents hp.refines.fileOpen hp.refines.storageOpen rfl, hp.refines.out,
    ← hconserved, List.append_assoc, List.append_cancel_left_eq, List.append_cancel_left_eq,
    List.take_eq_self_iff]
  rfl

theorem fileWriterClose_complete_one_line :
    let ops : List WriterOp := [.write (ascii "$A\n") (by decide)]
    let opened := (fileWriterOpen openNew (fileWriterInit none)).1
    let final := (Machine.run writerStep opened ops).1
    let history := (Machine.run writerStep opened ops).2
    (fileWriterClose { write := .all, close := 0 } final).1.file.contents =
        opened.file.contents ++ (accepted history).flatten ↔
      final.ring.size ≤ final.bufferSize :=
  fileWriterClose_complete_iff openNew (fileWriterInit none) _ (by decide) (by simp)

/-- A block longer than the write buffer, accepted right after an open, is cut by
the close. -/
theorem fileWriterClose_cuts (block : Bytes) (hblock : block ≠ [])
    (hlong : defaultBufferSize < block.length) (hfits : block.length ≤ ringBufferSize) :
    let opened := (fileWriterOpen openNew (fileWriterInit none)).1
    let final := (Machine.run writerStep opened [.write block hblock]).1
    let history := (Machine.run writerStep opened [.write block hblock]).2
    (fileWriterOpen openNew (fileWriterInit none)).2 = 0 ∧
      (fileWriterClose { write := .all, close := 0 } final).2 = 0 ∧
      (fileWriterClose { write := .all, close := 0 } final).1.file.contents ≠
        opened.file.contents ++ (accepted history).flatten := by
  intro opened final history
  obtain ⟨ready, hwrite⟩ := fileWriterWrite_accepted (s := opened) rfl hblock hfits
  have hhistory : history = [⟨.write block hblock, 0, []⟩] := by
    have hret : (fileWriterWrite block opened).2 = 0 := by rw [hwrite]
    rw [← hret]; rfl
  have hacc : accepted history = [block] := by rw [hhistory]; rfl
  have hfinal : final = (fileWriterWrite block opened).1 := rfl
  have hring : final.ring.items = block := by
    rw [hfinal, hwrite]
    exact Fifo.put_items_of_fits hfits
  have hopenFinal : final.fileOpen = true := by rw [hfinal, fileWriterWrite_fileOpen]; rfl
  have hfile : final.file = { isOpen := true, contents := [] } := by
    rw [hfinal, fileWriterWrite_file]; rfl
  have hsize : final.bufferSize = defaultBufferSize := by rw [hfinal, hwrite]; rfl
  have hopened : opened.file.contents = [] := rfl
  refine ⟨rfl, fileWriterClose_ret hopenFinal (by rw [hfile]), ?_⟩
  rw [fileWriterClose_contents hopenFinal (by rw [hfile]) rfl, hring, hfile, hsize, hopened, hacc,
    List.flatten_singleton, List.nil_append]
  intro heq
  have hlen := congrArg List.length heq
  rw [List.nil_append, List.length_take] at hlen
  omega

theorem replicate_ne_nil : List.replicate 4097 (65 : UInt8) ≠ [] :=
  List.ne_nil_of_length_pos (by rw [List.length_replicate]; decide)

theorem fileWriterClose_cuts_4097 :
    let opened := (fileWriterOpen openNew (fileWriterInit none)).1
    let ops : List WriterOp := [.write (List.replicate 4097 65) replicate_ne_nil]
    let final := (Machine.run writerStep opened ops).1
    let history := (Machine.run writerStep opened ops).2
    (fileWriterOpen openNew (fileWriterInit none)).2 = 0 ∧
      (fileWriterClose { write := .all, close := 0 } final).2 = 0 ∧
      (fileWriterClose { write := .all, close := 0 } final).1.file.contents ≠
        opened.file.contents ++ (accepted history).flatten :=
  fileWriterClose_cuts (List.replicate 4097 65) replicate_ne_nil
    (by rw [List.length_replicate]; decide) (by rw [List.length_replicate]; decide)

/-! ## Failing storage -/

/-- The file and the part not yet written are whole accepted blocks in order, and
every missing block is counted as dropped, beyond the refused calls, or reported
by a storage error event. -/
def LineStructure (atOpen : Bytes) (s : FileWriter) (h : List WriterCall) : Prop :=
  ∃ kept : List Bytes, kept.Sublist (accepted h) ∧
    s.file.contents ++ s.ring.items = atOpen ++ kept.flatten ∧
    (accepted h).length - kept.length ≤
      s.stats.linesDropped.toNat - (writeReturns h).count (-enospc) + storageErrors h

/-- At least `k` accepted bytes are neither in the file nor in the ring. -/
structure Lost (atOpen : Bytes) (k : Nat) (s : FileWriter) (h : List WriterCall) : Prop where
  fileOpen : s.fileOpen = true
  storageOpen : s.file.isOpen = true
  bytes : s.file.contents.length + s.ring.items.length + k ≤
    atOpen.length + (accepted h).flatten.length

theorem lineStructure_of_tracks {p : Pipeline UInt8} (hp : Tracks atOpen s h p) :
    LineStructure atOpen s h := by
  refine ⟨accepted h, List.Sublist.refl _, ?_, by simp⟩
  rw [hp.refines.out, ← hp.refines.queue, ← hp.accepted, ← p.conserved, hp.refines.flight,
    List.append_nil, List.append_assoc]

/-- Nothing is ever counted or reported for a lost block, so lost bytes break the
line structure. -/
theorem Lost.not_lineStructure {k : Nat} (hk : 0 < k) (hl : Lost atOpen k s h)
    (hc : Counts s h) (herrors : storageErrors h = 0) : ¬ LineStructure atOpen s h := by
  rintro ⟨kept, hsub, hbytes, hmissing⟩
  have hdropped : s.stats.linesDropped.toNat ≤ (writeReturns h).count (-enospc) := by
    rw [hc.dropped, UInt32.toNat_ofNat']
    exact Nat.mod_le _ _
  -- nothing was reported, so no block may be missing, but bytes are
  have hkept : kept = accepted h := hsub.eq_of_length_le (by omega)
  have hlen := congrArg List.length hbytes
  rw [List.length_append, List.length_append, hkept] at hlen
  have hlost := hl.bytes
  omega

/-- A storage write that fails or is short loses part of what the flush took. -/
theorem Lost.flush_not_all {k : Nat} {w : FsWrite} (hl : Lost atOpen k s h)
    (hring : s.ring.items ≠ []) (hw : w ≠ .all) :
    Lost atOpen (k + 1) (writerStep s (.flush w)).1 (h ++ [(writerStep s (.flush w)).2]) := by
  obtain ⟨hdrop, hfile, -⟩ := doFlush_nonempty (w := w) hl.fileOpen hring
  have htake : s.ring.items.take s.bufferSize ≠ [] :=
    fun hnil => hring ((Fifo.get_eq_nil s.bufferSize_pos).mp hnil)
  obtain ⟨n, hn, -, hstored⟩ := storageWrite_not_all hl.storageOpen htake hw
  have hbytes := hl.bytes
  simp only [writerStep]
  constructor
  · rw [doFlush_fileOpen, hl.fileOpen]
  · rw [doFlush_file_isOpen, hl.storageOpen]
  · rw [hdrop, hfile, hstored, accepted_concat_flush]
    simp only [List.length_append, List.length_take, List.length_drop] at hn ⊢
    omega

/-- No call brings lost bytes back. -/
theorem Lost.step {k : Nat} (op : WriterOp) (hl : Lost atOpen k s h) :
    Lost atOpen k (writerStep s op).1 (h ++ [(writerStep s op).2]) := by
  obtain ⟨hopen, hfile, hbytes⟩ := hl
  cases op with
  | write data nonempty =>
    rcases writerStep_write hopen nonempty with
      ⟨hspace, hcall, ready, hstep⟩ | ⟨hfull, hcall, hstep⟩
    · rw [hcall, hstep]
      refine ⟨hopen, hfile, ?_⟩
      simp only [accepted_concat_write, Fifo.put_items_of_fits hspace, List.length_append,
        List.flatten_append, List.flatten_singleton]
      omega
    · rw [hcall, hstep]
      exact ⟨hopen, hfile, by rwa [accepted_concat_refused]⟩
  | flush w =>
    by_cases hring : s.ring.items = []
    · simp only [writerStep, doFlush_empty hopen hring]
      exact ⟨hopen, hfile, by rwa [accepted_concat_flush]⟩
    · by_cases hw : w = .all
      · subst hw
        obtain ⟨buffer, ready, hstep⟩ := doFlush_all hopen hfile hring
        simp only [writerStep, hstep]
        refine ⟨hopen, hfile, ?_⟩
        simp only [accepted_concat_flush, List.length_append, Fifo.get_fst_items,
          List.length_take, List.length_drop]
        omega
      · have hlost := Lost.flush_not_all ⟨hopen, hfile, hbytes⟩ hring hw
        exact ⟨hlost.fileOpen, hlost.storageOpen, by have := hlost.bytes; omega⟩

section Opened

variable {e : OpenEnv} {ops : List WriterOp}

theorem storageErrors_run (s : FileWriter) (ops : List WriterOp) :
    storageErrors (Machine.run writerStep s ops).2 = 0 := by
  have hnone : ∀ c ∈ (Machine.run writerStep s ops).2, c.published = [] :=
    Machine.run_outputs (I := fun _ => True) (fun _ _ _ => trivial)
      (fun s op _ => by cases op <;> rfl) trivial ops
  rw [storageErrors, List.flatMap_eq_nil_iff.mpr hnone, List.count_nil]

theorem lost_of_open (h : (fileWriterOpen e s).2 = 0) :
    Lost (fileWriterOpen e s).1.file.contents 0 (fileWriterOpen e s).1 [] := by
  obtain ⟨contents, -, hopen, hfile, hring, -, -⟩ := fileWriterOpen_ok h
  refine ⟨hopen, by rw [hfile], ?_⟩
  rw [hring]
  simp

/-- A run with a storage write that does not succeed ends with lost bytes. -/
theorem lost_run (h : (fileWriterOpen e s).2 = 0)
    (hops : ¬ Machine.Guarded writerStep StoresAll (fileWriterOpen e s).1 ops) :
    Lost (fileWriterOpen e s).1.file.contents 1
      (Machine.run writerStep (fileWriterOpen e s).1 ops).1
      (Machine.run writerStep (fileWriterOpen e s).1 ops).2 := by
  obtain ⟨before, op, after, rfl, hop⟩ := Machine.exists_of_not_guarded hops
  simp only [StoresAll, not_forall] at hop
  obtain ⟨w, rfl, hring, hw⟩ := hop
  have hbefore := Machine.run_history (fun s op h hs => Lost.step op hs) before (lost_of_open h)
  rw [List.nil_append] at hbefore
  -- the first write that fails loses a byte, and no later call brings it back
  have hflush := hbefore.flush_not_all hring hw
  have hafter := Machine.run_history (fun s op h hs => Lost.step op hs) after hflush
  rw [Machine.run_append, Machine.run_cons]
  rwa [List.append_assoc, List.singleton_append] at hafter

/-- **Storage failures.** The line structure holds throughout a run exactly when
every flush of a non-empty ring is stored whole. -/
theorem lineStructure_iff (e : OpenEnv) (s : FileWriter) (ops : List WriterOp)
    (hopen : (fileWriterOpen e s).2 = 0) :
    (∀ done, done <+: ops →
      LineStructure (fileWriterOpen e s).1.file.contents
        (Machine.run writerStep (fileWriterOpen e s).1 done).1
        (Machine.run writerStep (fileWriterOpen e s).1 done).2) ↔
      Machine.Guarded writerStep StoresAll (fileWriterOpen e s).1 ops := by
  constructor
  · intro hlines
    by_contra hops
    exact (lost_run hopen hops).not_lineStructure Nat.one_pos (counts_run hopen ops)
      (storageErrors_run _ ops) (hlines ops (List.prefix_refl ops))
  · rintro hops done ⟨rest, rfl⟩
    obtain ⟨p, hp⟩ := tracks_run hopen ((Machine.guarded_append _ _ _ _ _).mp hops).1
    exact lineStructure_of_tracks hp

end Opened

theorem lineStructure_iff_one_line :
    let opened := (fileWriterOpen openNew (fileWriterInit none)).1
    let ops : List WriterOp := [.write (ascii "$A\n") (by decide), .flush .all]
    (∀ done, done <+: ops →
      LineStructure opened.file.contents (Machine.run writerStep opened done).1
        (Machine.run writerStep opened done).2) ↔
      Machine.Guarded writerStep StoresAll opened ops :=
  lineStructure_iff openNew (fileWriterInit none) _ (by decide)

/-- A short write of the first line's flush leaves a torn line before the second
line, and nothing counts or reports it. -/
theorem lineStructure_torn_line :
    let opened := (fileWriterOpen openNew (fileWriterInit none)).1
    let ops : List WriterOp :=
      [.write (ascii "$A\n") (by decide), .flush (.short 1), .write (ascii "$B\n") (by decide),
        .flush .all]
    (fileWriterOpen openNew (fileWriterInit none)).2 = 0 ∧
      (Machine.run writerStep opened ops).1.file.contents = ascii "$$B\n" ∧
      ¬ LineStructure opened.file.contents (Machine.run writerStep opened ops).1
        (Machine.run writerStep opened ops).2 := by
  intro opened ops
  have hacc : accepted (Machine.run writerStep opened ops).2 = [ascii "$A\n", ascii "$B\n"] := by
    decide
  have hfile : (Machine.run writerStep opened ops).1.file.contents ++
      (Machine.run writerStep opened ops).1.ring.items = ascii "$$B\n" := by decide
  have hnone : ∀ kept ∈ [ascii "$A\n", ascii "$B\n"].sublists,
      ascii "$$B\n" ≠ [] ++ kept.flatten := by
    decide
  refine ⟨by decide, by decide, ?_⟩
  rintro ⟨kept, hsub, hbytes, -⟩
  rw [hacc] at hsub
  rw [hfile] at hbytes
  exact hnone kept (List.mem_sublists.mpr hsub) hbytes

end TempoBt
