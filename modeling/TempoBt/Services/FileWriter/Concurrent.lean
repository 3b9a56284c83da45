-- SUMMARY: The file writer under concurrent parties: every flush split in two steps, and when accepted data still arrives whole and in order.
import TempoBt.Lib.Pipeline
import TempoBt.Lib.Threads
import TempoBt.Services.FileWriter
import Mathlib.Data.Fintype.Basic

/-!
# Concurrent flushers

Producers, the writer thread and the callers of flush, close and open interleave.
A flush is two atomic steps: it takes data from the ring into the shared write
buffer, and it stores the write buffer. An open marks the file open and resets
the ring in separate steps. All storage operations succeed.
-/

namespace TempoBt

/-! ## Parties -/

/-- The calls; the writer thread's is to wake up. -/
inductive WriterRequest where
  | write (data : Bytes)
  | wake
  /-- `flush_work` fires. -/
  | flushWork
  | flush
  | close
  | openFile (contents : Bytes)
  deriving DecidableEq

/-- The atomic steps of the calls. -/
inductive WriterStep where
  /-- The beginning of a call, up to its first separate step. -/
  | request (r : WriterRequest)
  /-- The first half of `do_flush`. -/
  | take
  /-- The second half of `do_flush`, for the `len` bytes taken. -/
  | store (len : Nat)
  | closeFile
  | markOpen (contents : Bytes)
  | resetRing
  deriving DecidableEq

/-- What matters of a step for the content of the file. -/
inductive SessionEvent where
  | opened (contents : Bytes)
  | accepted (data : Bytes)

def writerEntry (r : WriterRequest) : List WriterStep := [.request r]

def requestExec (s : FileWriter) :
    WriterRequest → FileWriter × List WriterStep × Option SessionEvent
  | .write data =>
    ((fileWriterWrite data s).1, [],
      if (fileWriterWrite data s).2 = 0 then some (.accepted data) else none)
  | .wake =>
    ({ s with dataReady := false },
      if s.fileOpen && decide (0 < s.ring.size) then [.take] else [], none)
  | .flushWork => (flushWorkHandler s, [], none)
  | .flush => if !s.fileOpen then (s, [], none) else (cancelFlushWork s, [.take], none)
  | .close => if !s.fileOpen then (s, [], none) else (cancelFlushWork s, [.take, .closeFile], none)
  | .openFile contents =>
    -- an open file is closed first, as by a call of `file_writer_close`
    (s, (if s.fileOpen then [.request .close] else []) ++ [.markOpen contents, .resetRing], none)

def writerExec (s : FileWriter) : WriterStep → FileWriter × List WriterStep × Option SessionEvent
  | .request r => requestExec s r
  | .take =>
    -- `do_flush` looks at the open flag again, after its caller has
    if !s.fileOpen then (s, [], none)
    else ((flushTake s).1, if (flushTake s).2 = 0 then [] else [.store (flushTake s).2], none)
  | .store len => ((flushStore .all len s).1, [], none)
  | .closeFile => ((closeFile 0 s).1, [], none)
  | .markOpen contents =>
    (markOpen { isOpen := true, contents } s, [], some (.opened contents))
  | .resetRing => (resetRing s, [], none)

/-- The file as it was opened last, and the data accepted since. -/
def session (h : List (Option SessionEvent)) : Bytes × List Bytes :=
  h.foldl (fun acc event =>
    match event with
    | some (.opened contents) => (contents, [])
    | some (.accepted data) => (acc.1, acc.2 ++ [data])
    | none => acc) ([], [])

@[simp] theorem session_concat_none (h : List (Option SessionEvent)) :
    session (h ++ [none]) = session h := by
  simp [session]

@[simp] theorem session_concat_opened (h : List (Option SessionEvent)) (contents : Bytes) :
    session (h ++ [some (.opened contents)]) = (contents, []) := by
  simp [session]

@[simp] theorem session_concat_accepted (h : List (Option SessionEvent)) (data : Bytes) :
    session (h ++ [some (.accepted data)]) = ((session h).1, (session h).2 ++ [data]) := by
  simp [session]

/-! ## A call that no other party interrupts -/

section Solo

open Threads (Solo)

variable (s : FileWriter) (rest : List WriterStep)

theorem solo_doFlush : Solo writerExec (s, .take :: rest) ((doFlush .all s).1, rest) := by
  apply Solo.cons
  by_cases hopen : s.fileOpen = true
  · simp only [writerExec, doFlush, hopen, Bool.not_true, Bool.false_eq_true, if_false]
    by_cases hzero : (flushTake s).2 = 0
    · simp only [if_pos hzero]
      exact .refl
    · simp only [if_neg hzero]
      exact .cons .refl
  · simp only [writerExec, doFlush, hopen, Bool.not_false, if_true]
    exact .refl

theorem solo_fileWriterFlush :
    Solo writerExec (s, .request .flush :: rest) ((fileWriterFlush .all s).1, rest) := by
  apply Solo.cons
  by_cases hopen : s.fileOpen = true
  · simp only [writerExec, requestExec, fileWriterFlush, hopen, Bool.not_true,
      Bool.false_eq_true, if_false]
    exact solo_doFlush _ rest
  · simp only [writerExec, requestExec, fileWriterFlush, hopen, Bool.not_false, if_true]
    exact .refl

theorem solo_fileWriterClose :
    Solo writerExec (s, .request .close :: rest) ((fileWriterClose ⟨.all, 0⟩ s).1, rest) := by
  apply Solo.cons
  by_cases hopen : s.fileOpen = true
  · simp only [writerExec, requestExec, fileWriterClose, hopen, Bool.not_true,
      Bool.false_eq_true, if_false]
    exact (solo_doFlush _ _).trans (.cons .refl)
  · simp only [writerExec, requestExec, fileWriterClose, hopen, Bool.not_false, if_true]
    exact .refl

theorem solo_fileWriterOpen (contents : Bytes) :
    Solo writerExec (s, .request (.openFile contents) :: rest)
      ((fileWriterOpen ⟨⟨.all, 0⟩, .opened contents⟩ s).1, rest) := by
  apply Solo.cons
  by_cases hopen : s.fileOpen = true
  · simp only [writerExec, requestExec, fileWriterOpen, hopen, if_true]
    exact (solo_fileWriterClose _ _).trans (.cons (.cons .refl))
  · simp only [writerExec, requestExec, fileWriterOpen, hopen]
    exact .cons (.cons .refl)

theorem solo_writerThread :
    Solo writerExec (s, .request .wake :: rest) (writerThreadStep .all s, rest) := by
  apply Solo.cons
  by_cases hready : (s.fileOpen && decide (0 < s.ring.size)) = true
  · simp only [writerExec, requestExec, writerThreadStep, hready, if_true]
    exact solo_doFlush _ rest
  · simp only [writerExec, requestExec, writerThreadStep, hready]
    exact .refl

end Solo

/-! ## Delivery -/

section Delivery

variable {ι : Type*} [DecidableEq ι]

/-- No party is between the two halves of a flush. -/
def Quiet (code : ι → List WriterStep) : Prop := ∀ i len, .store len ∉ code i

/-- What the file owes to the accepted data: at any time the file has grown by a
beginning of it, and by all of it once nothing is on the way or the file is
closed. -/
structure Delivered (t : Threads ι FileWriter WriterStep) (h : List (Option SessionEvent)) :
    Prop where
  ordered : ∃ stored, t.shared.file.contents = (session h).1 ++ stored ∧
    stored <+: (session h).2.flatten
  complete : t.shared.fileOpen = false ∨ t.shared.ring.items = [] ∧ Quiet t.code →
    t.shared.file.contents = (session h).1 ++ (session h).2.flatten

/-- The step does not run into another party's flush, and loses nothing by itself:
data is taken only while no other flush is half done; the file is marked closed or
open only when nothing is on the way; the ring is reset only when empty. -/
def Undisturbed (t : Threads ι FileWriter WriterStep) : WriterStep → Prop
  | .take => t.shared.ring.items ≠ [] → Quiet t.code
  | .closeFile | .markOpen _ => t.shared.ring.items = [] ∧ Quiet t.code
  | .resetRing => t.shared.ring.items = []
  | _ => True

/-- `data` is what the flush under way has taken: nothing and no flush is half
done, or the one that is holds it in the write buffer. -/
def InFlight (t : Threads ι FileWriter WriterStep) (data : Bytes) : Prop :=
  (data = [] ∧ Quiet t.code) ∨
    ∃ i rest, t.code i = .store data.length :: rest ∧ data ≠ [] ∧
      t.shared.writeBuffer.take data.length = data ∧
      (∀ len, .store len ∉ rest) ∧ ∀ j, j ≠ i → ∀ len, .store len ∉ t.code j

def WriterStep.isStore : WriterStep → Bool
  | .store _ => true
  | _ => false

instance [Fintype ι] (code : ι → List WriterStep) : Decidable (Quiet code) :=
  decidable_of_iff (∀ i, ∀ p ∈ code i, p.isStore = false) (by
    constructor
    · intro h i len hmem
      exact absurd (h i _ hmem) (by simp [WriterStep.isStore])
    · intro h i p hp
      cases p with
      | store len => exact absurd hp (h i len)
      | _ => rfl)

instance [Fintype ι] (t : Threads ι FileWriter WriterStep) :
    (p : WriterStep) → Decidable (Undisturbed t p)
  | .take => inferInstanceAs (Decidable (t.shared.ring.items ≠ [] → Quiet t.code))
  | .closeFile | .markOpen _ =>
    inferInstanceAs (Decidable (t.shared.ring.items = [] ∧ Quiet t.code))
  | .resetRing => inferInstanceAs (Decidable (t.shared.ring.items = []))
  | .request _ => .isTrue trivial
  | .store _ => .isTrue trivial

/-- The invariant: an open file refines a pipeline, a closed file is complete. -/
def Delivers (t : Threads ι FileWriter WriterStep) (h : List (Option SessionEvent)) : Prop :=
  (∃ p data, Refines (session h).1 data t.shared p ∧ p.accepted = (session h).2 ∧
      InFlight t data) ∨
    (t.shared.fileOpen = false ∧ t.shared.ring.items = [] ∧ Quiet t.code ∧
      t.shared.file.contents = (session h).1 ++ (session h).2.flatten)

variable {t : Threads ι FileWriter WriterStep} {i : ι} {p : WriterStep} {rest : List WriterStep}
  {h : List (Option SessionEvent)} {data : Bytes}

omit [DecidableEq ι] in
theorem InFlight.eq_nil_of_quiet (hf : InFlight t data) (hq : Quiet t.code) : data = [] := by
  rcases hf with ⟨hnil, -⟩ | ⟨k, tail, hcode, -⟩
  · exact hnil
  · exact absurd (by rw [hcode]; exact List.mem_cons_self) (hq k data.length)

/-- A step that is not the second half of a flush, and does not become one, leaves
the flush under way alone. -/
theorem Quiet.perform (hq : Quiet t.code) (hcode : t.code i = p :: rest)
    (hpre : ∀ len, .store len ∉ (writerExec t.shared p).2.1) :
    Quiet (t.perform writerExec i p rest).code := by
  intro j len hmem
  rcases Threads.mem_of_perform writerExec hcode hmem with ⟨-, hnew⟩ | hmem
  · exact hpre len hnew
  · exact hq j len hmem

theorem InFlight.perform (hf : InFlight t data) (hcode : t.code i = p :: rest)
    (hp : ∀ len, p ≠ .store len) (hpre : ∀ len, .store len ∉ (writerExec t.shared p).2.1)
    (hbuffer : (writerExec t.shared p).1.writeBuffer = t.shared.writeBuffer) :
    InFlight (t.perform writerExec i p rest) data := by
  rcases hf with ⟨hnil, hq⟩ | ⟨k, tail, hk, hdata, hheld, htail, hothers⟩
  · exact .inl ⟨hnil, hq.perform hcode hpre⟩
  · have hik : i ≠ k := by
      rintro rfl
      rw [hcode] at hk
      exact hp _ (List.cons.inj hk).1
    refine .inr ⟨k, tail, ?_, hdata, ?_, htail, ?_⟩
    · rw [Threads.perform_code_of_ne _ _ hik.symm, hk]
    · rw [Threads.perform_shared, hbuffer, hheld]
    · intro j hj len hmem
      rcases Threads.mem_of_perform writerExec hcode hmem with ⟨-, hnew⟩ | hmem
      · exact hpre len hnew
      · exact hothers j hj len hmem

/-! ### One lemma for each kind of step -/

theorem Refines.congr {atOpen inFlight : Bytes} {s s' : FileWriter} {q : Pipeline UInt8}
    (hr : Refines atOpen inFlight s q) (hopen : s'.fileOpen = s.fileOpen)
    (hfile : s'.file = s.file) (hring : s'.ring.items = s.ring.items) :
    Refines atOpen inFlight s' q where
  fileOpen := by rw [hopen, hr.fileOpen]
  storageOpen := by rw [hfile, hr.storageOpen]
  out := by rw [hfile, hr.out]
  flight := hr.flight
  queue := by rw [hring, hr.queue]

/-- A step that moves no data keeps the invariant. -/
theorem Delivers.perform_still (hd : Delivers t h) (hcode : t.code i = p :: rest)
    (hp : ∀ len, p ≠ .store len) (hpre : ∀ len, .store len ∉ (writerExec t.shared p).2.1)
    (hbuffer : (writerExec t.shared p).1.writeBuffer = t.shared.writeBuffer)
    (hopen : (writerExec t.shared p).1.fileOpen = t.shared.fileOpen)
    (hfile : (writerExec t.shared p).1.file = t.shared.file)
    (hring : (writerExec t.shared p).1.ring.items = t.shared.ring.items)
    (hnone : (writerExec t.shared p).2.2 = none) :
    Delivers (t.perform writerExec i p rest) (h ++ [(writerExec t.shared p).2.2]) := by
  rw [hnone]
  rcases hd with ⟨q, data, hr, hacc, hf⟩ | ⟨hclosed, hempty, hq, hcontents⟩
  · refine .inl ⟨q, data, ?_, ?_, hf.perform hcode hp hpre hbuffer⟩
    · rw [session_concat_none]
      exact hr.congr hopen hfile hring
    · rw [session_concat_none, hacc]
  · refine .inr ⟨?_, ?_, hq.perform hcode hpre, ?_⟩
    · rw [Threads.perform_shared, hopen, hclosed]
    · rw [Threads.perform_shared, hring, hempty]
    · rw [Threads.perform_shared, hfile, session_concat_none, hcontents]

theorem Delivers.perform_write {block : Bytes} (hd : Delivers t h)
    (hcode : t.code i = .request (.write block) :: rest) :
    Delivers (t.perform writerExec i (.request (.write block)) rest)
      (h ++ [(writerExec t.shared (.request (.write block))).2.2]) := by
  have hpre : ∀ len,
      WriterStep.store len ∉ (writerExec t.shared (.request (.write block))).2.1 := by
    simp [writerExec, requestExec]
  rcases fileWriterWrite_cases block t.shared with ⟨hret, hopen, hput⟩ | ⟨hret, hring⟩
  · rcases hd with ⟨q, data, hr, hacc, hf⟩ | ⟨hclosed, -⟩
    · have hevent : (writerExec t.shared (.request (.write block))).2.2 =
          some (.accepted block) := by
        simp [writerExec, requestExec, hret]
      rw [hevent]
      refine .inl ⟨q.accept block, data, ?_, ?_, hf.perform hcode (by simp) hpre ?_⟩
      · rw [session_concat_accepted]
        constructor
        · rw [← hr.fileOpen]
          exact fileWriterWrite_fileOpen block t.shared
        · rw [← hr.storageOpen]
          exact congrArg StorageFile.isOpen (fileWriterWrite_file block t.shared)
        · rw [Pipeline.accept_out, ← hr.out]
          exact congrArg StorageFile.contents (fileWriterWrite_file block t.shared)
        · rw [Pipeline.accept_inFlight, hr.flight]
        · rw [Pipeline.accept_queue, hr.queue]
          exact hput.symm
      · rw [session_concat_accepted, Pipeline.accept_accepted, hacc]
      · exact fileWriterWrite_writeBuffer block t.shared
    · rw [hclosed] at hopen
      exact absurd hopen (by decide)
  · refine hd.perform_still hcode (by simp) hpre (fileWriterWrite_writeBuffer block t.shared)
      (fileWriterWrite_fileOpen block t.shared) (fileWriterWrite_file block t.shared) ?_ ?_
    · exact congrArg Fifo.items hring
    · simp [writerExec, requestExec, hret]

/-- The beginnings of the other calls only look at the state. -/
theorem Delivers.perform_request {r : WriterRequest} (hd : Delivers t h)
    (hcode : t.code i = .request r :: rest) :
    Delivers (t.perform writerExec i (.request r) rest)
      (h ++ [(writerExec t.shared (.request r)).2.2]) := by
  cases r with
  | write block => exact hd.perform_write hcode
  | wake =>
    refine hd.perform_still hcode (by simp) ?_ rfl rfl rfl rfl rfl
    intro len
    simp only [writerExec, requestExec]
    split <;> simp
  | flushWork =>
    by_cases hopen : t.shared.fileOpen = true
    · refine hd.perform_still hcode (by simp) ?_ ?_ ?_ ?_ ?_ ?_ <;>
        simp [writerExec, requestExec, flushWorkHandler, hopen]
    · refine hd.perform_still hcode (by simp) ?_ ?_ ?_ ?_ ?_ ?_ <;>
        simp [writerExec, requestExec, flushWorkHandler, hopen]
  | flush =>
    by_cases hopen : t.shared.fileOpen = true
    · refine hd.perform_still hcode (by simp) ?_ ?_ ?_ ?_ ?_ ?_ <;>
        simp [writerExec, requestExec, hopen, cancelFlushWork]
    · refine hd.perform_still hcode (by simp) ?_ ?_ ?_ ?_ ?_ ?_ <;>
        simp [writerExec, requestExec, hopen]
  | close =>
    by_cases hopen : t.shared.fileOpen = true
    · refine hd.perform_still hcode (by simp) ?_ ?_ ?_ ?_ ?_ ?_ <;>
        simp [writerExec, requestExec, hopen, cancelFlushWork]
    · refine hd.perform_still hcode (by simp) ?_ ?_ ?_ ?_ ?_ ?_ <;>
        simp [writerExec, requestExec, hopen]
  | openFile contents =>
    refine hd.perform_still hcode (by simp) ?_ rfl rfl rfl rfl rfl
    intro len
    simp only [writerExec, requestExec]
    split <;> simp

theorem writerExec_take {f : FileWriter} (hopen : f.fileOpen = true) :
    writerExec f .take = ((flushTake f).1,
      if (flushTake f).2 = 0 then [] else [.store (flushTake f).2], none) := by
  simp [writerExec, hopen]

/-- What a flush takes is in flight, in the write buffer, which no other flush is using. -/
theorem Delivers.perform_takeData (hd : Delivers t h) (hcode : t.code i = .take :: rest)
    (hopen : t.shared.fileOpen = true) (hring : t.shared.ring.items ≠ []) (hq : Quiet t.code) :
    Delivers (t.perform writerExec i .take rest) (h ++ [(writerExec t.shared .take).2.2]) := by
  have hexec := writerExec_take hopen
  have hne : (flushTake t.shared).2 ≠ 0 := fun hzero => hring (flushTake_eq_zero_iff.mp hzero)
  rcases hd with ⟨q, data, hr, hacc, hf⟩ | ⟨hclosed, -⟩
  · obtain rfl := hf.eq_nil_of_quiet hq
    have hevent : (writerExec t.shared .take).2.2 = none := by rw [hexec]
    have htaken : t.shared.ring.items.take t.shared.bufferSize ≠ [] :=
      fun hnil => hring ((Fifo.get_eq_nil t.shared.bufferSize_pos).mp hnil)
    rw [hevent]
    refine .inl ⟨q.take t.shared.bufferSize hr.flight,
      t.shared.ring.items.take t.shared.bufferSize, ?_, ?_,
      .inr ⟨i, rest, ?_, htaken, ?_, ?_, ?_⟩⟩
    · rw [session_concat_none]
      constructor
      · rw [Threads.perform_shared, hexec, ← hr.fileOpen]; rfl
      · rw [Threads.perform_shared, hexec, ← hr.storageOpen]; rfl
      · rw [Threads.perform_shared, hexec]; exact hr.out
      · simp only [Pipeline.take, hr.queue]
      · simp only [Pipeline.take, hr.queue, Threads.perform_shared, hexec, flushTake_ring]
    · rw [session_concat_none, ← hacc]; rfl
    · rw [Threads.perform_code_self, hexec]
      simp only [if_neg hne, List.singleton_append]
      rfl
    · rw [Threads.perform_shared, hexec]
      exact flushTake_writeBuffer t.shared
    · intro len hmem
      exact hq i len (by rw [hcode]; exact List.mem_cons_of_mem _ hmem)
    · intro j hj len
      rw [Threads.perform_code_of_ne _ _ hj]
      exact hq j len
  · rw [hclosed] at hopen
    exact absurd hopen (by decide)

/-- The first half of a flush puts what it takes in flight. -/
theorem Delivers.perform_take (hd : Delivers t h) (hcode : t.code i = .take :: rest)
    (hguard : t.shared.ring.items ≠ [] → Quiet t.code) :
    Delivers (t.perform writerExec i .take rest) (h ++ [(writerExec t.shared .take).2.2]) := by
  by_cases hopen : t.shared.fileOpen = true
  · by_cases hring : t.shared.ring.items = []
    · have hexec := writerExec_take hopen
      have hzero : (flushTake t.shared).2 = 0 := flushTake_eq_zero_iff.mpr hring
      refine hd.perform_still hcode (by simp) ?_ ?_ ?_ ?_ ?_ ?_
      · simp only [hexec, if_pos hzero, List.not_mem_nil, not_false_iff, implies_true]
      · simp [hexec, flushTake, hring]
      · rw [hexec]; rfl
      · rw [hexec]; rfl
      · simp [hexec, hring]
      · rw [hexec]
    -- by the guard no other flush is half done, so the buffer is free
    · exact hd.perform_takeData hcode hopen hring (hguard hring)
  · refine hd.perform_still hcode (by simp) ?_ ?_ ?_ ?_ ?_ ?_ <;> simp [writerExec, hopen]

/-- The second half of a flush commits what is in flight. -/
theorem Delivers.perform_store {len : Nat} (hd : Delivers t h)
    (hcode : t.code i = .store len :: rest) :
    Delivers (t.perform writerExec i (.store len) rest)
      (h ++ [(writerExec t.shared (.store len)).2.2]) := by
  have hmem : .store len ∈ t.code i := by rw [hcode]; exact List.mem_cons_self
  rcases hd with ⟨q, data, hr, hacc, hf⟩ | ⟨-, -, hq, -⟩
  · rcases hf with ⟨-, hq⟩ | ⟨k, tail, hk, hdata, hheld, htail, hothers⟩
    · exact absurd hmem (hq i len)
    -- only one flush is half done, so this is the one that filled the buffer
    · have hik : i = k := by
        by_contra hne
        exact hothers i hne len hmem
      subst hik
      rw [hk] at hcode
      obtain ⟨hlen, rfl⟩ := List.cons.inj hcode
      obtain rfl := WriterStep.store.inj hlen
      have hstore : (storageWrite .all t.shared.file
          (t.shared.writeBuffer.take data.length)).1 =
          { t.shared.file with contents := t.shared.file.contents ++ data } := by
        rw [hheld, storageWrite_all hr.storageOpen hdata]
      refine .inl ⟨q.commit, [], ?_, ?_, .inl ⟨rfl, ?_⟩⟩
      · simp only [writerExec, session_concat_none]
        constructor
        · exact hr.fileOpen
        · exact (congrArg StorageFile.isOpen hstore).trans hr.storageOpen
        · refine (congrArg StorageFile.contents hstore).trans ?_
          simp only [Pipeline.commit, hr.out, hr.flight, List.append_assoc]
        · rfl
        · exact hr.queue
      · simp only [writerExec, session_concat_none]
        exact hacc
      · intro j len'
        by_cases hj : j = i
        · subst hj
          simpa [writerExec] using htail len'
        · rw [Threads.perform_code_of_ne _ _ hj]
          exact hothers j hj len'
  · exact absurd hmem (hq i len)

omit [DecidableEq ι] in
/-- With nothing on the way, the file is complete. -/
theorem Delivers.contents (hd : Delivers t h) (hring : t.shared.ring.items = [])
    (hq : Quiet t.code) :
    t.shared.file.contents = (session h).1 ++ (session h).2.flatten := by
  rcases hd with ⟨q, data, hr, hacc, hf⟩ | ⟨-, -, -, hcontents⟩
  · obtain rfl := hf.eq_nil_of_quiet hq
    have hout : q.out = q.accepted.flatten :=
      q.out_eq_iff.mpr ⟨hr.flight, by rw [hr.queue, hring]⟩
    rw [hr.out, hout, hacc]
  · exact hcontents

theorem Delivers.perform_closeFile (hd : Delivers t h) (hcode : t.code i = .closeFile :: rest)
    (hring : t.shared.ring.items = []) (hq : Quiet t.code) :
    Delivers (t.perform writerExec i .closeFile rest)
      (h ++ [(writerExec t.shared .closeFile).2.2]) := by
  refine .inr ⟨rfl, hring, hq.perform hcode (by simp [writerExec]), ?_⟩
  simp only [writerExec, session_concat_none, ← hd.contents hring hq]
  simp only [Threads.perform_shared, writerExec, closeFile, storageClose]
  split
  · rfl
  · rfl

theorem Delivers.perform_markOpen {contents : Bytes}
    (hcode : t.code i = .markOpen contents :: rest) (hring : t.shared.ring.items = [])
    (hq : Quiet t.code) :
    Delivers (t.perform writerExec i (.markOpen contents) rest)
      (h ++ [(writerExec t.shared (.markOpen contents)).2.2]) := by
  refine .inl ⟨.empty, [], ?_, ?_, .inl ⟨rfl, hq.perform hcode (by simp [writerExec])⟩⟩
  · simp only [writerExec, session_concat_opened]
    exact ⟨rfl, rfl, (List.append_nil contents).symm, rfl, hring.symm⟩
  · simp only [writerExec, session_concat_opened]
    rfl

theorem Delivers.perform_resetRing (hd : Delivers t h) (hcode : t.code i = .resetRing :: rest)
    (hring : t.shared.ring.items = []) :
    Delivers (t.perform writerExec i .resetRing rest)
      (h ++ [(writerExec t.shared .resetRing).2.2]) :=
  hd.perform_still hcode (by simp) (by simp [writerExec]) rfl rfl rfl hring.symm rfl

/-- The beginning of a call moves no data. -/
theorem Delivers.setCode_call (hd : Delivers t h) (hcode : t.code i = []) (r : WriterRequest) :
    Delivers (t.setCode i (writerEntry r)) (h ++ [none]) := by
  have hentry : ∀ len, WriterStep.store len ∉ writerEntry r := by simp [writerEntry]
  have hquiet : Quiet t.code → Quiet (t.setCode i (writerEntry r)).code := by
    intro hq j len hmem
    rcases Threads.mem_of_setCode hmem with ⟨-, hnew⟩ | hmem
    · exact hentry len hnew
    · exact hq j len hmem
  rw [Delivers, session_concat_none]
  rcases hd with ⟨q, data, hr, hacc, hf⟩ | ⟨hclosed, hring, hq, hcontents⟩
  · refine .inl ⟨q, data, hr, hacc, ?_⟩
    rcases hf with ⟨hnil, hq⟩ | ⟨k, tail, hk, hdata, hheld, htail, hothers⟩
    · exact .inl ⟨hnil, hquiet hq⟩
    · have hki : k ≠ i := by
        rintro rfl
        rw [hcode] at hk
        exact absurd hk (by simp)
      refine .inr ⟨k, tail, ?_, hdata, hheld, htail, ?_⟩
      · rw [Threads.setCode_code_of_ne _ hki, hk]
      · intro j hj len hmem
        rcases Threads.mem_of_setCode hmem with ⟨-, hnew⟩ | hmem
        · exact hentry len hnew
        · exact hothers j hj len hmem
  · exact .inr ⟨hclosed, hring, hquiet hq, hcontents⟩

theorem Delivers.perform (hd : Delivers t h) (hcode : t.code i = p :: rest)
    (hguard : Undisturbed t p) :
    Delivers (t.perform writerExec i p rest) (h ++ [(writerExec t.shared p).2.2]) := by
  cases p with
  | request r => exact hd.perform_request hcode
  | take => exact hd.perform_take hcode hguard
  | store len => exact hd.perform_store hcode
  | closeFile => exact hd.perform_closeFile hcode hguard.1 hguard.2
  | markOpen contents => exact Delivers.perform_markOpen hcode hguard.1 hguard.2
  | resetRing => exact hd.perform_resetRing hcode hguard

omit [DecidableEq ι] in
theorem Delivers.delivered (hd : Delivers t h) : Delivered t h where
  ordered := by
    rcases hd with ⟨q, data, hr, hacc, -⟩ | ⟨-, -, -, hcontents⟩
    · exact ⟨q.out, hr.out, by rw [← hacc]; exact q.out_prefix⟩
    · exact ⟨(session h).2.flatten, hcontents, List.prefix_refl _⟩
  complete := by
    rintro (hclosed | ⟨hring, hq⟩)
    · rcases hd with ⟨q, data, hr, -⟩ | ⟨-, -, -, hcontents⟩
      · rw [hr.fileOpen] at hclosed
        exact absurd hclosed (by decide)
      · exact hcontents
    · exact hd.contents hring hq

/-- No call is under way, and no file has been opened yet. -/
def idleWriter (ι : Type*) (config : Option FileWriterConfig) :
    Threads ι FileWriter WriterStep where
  shared := fileWriterInit config
  code := fun _ => []

/-- **Delivery.** In every interleaving whose steps are undisturbed, every state
reached has delivered the accepted data: whole, once, and in the order accepted. -/
theorem delivered_of_undisturbed (config : Option FileWriterConfig)
    (actions : List (Threads.Action ι WriterRequest))
    (hguard : Machine.Guarded (Threads.step writerEntry writerExec)
      (Threads.Permits Undisturbed) (idleWriter ι config) actions) :
    ∀ done, done <+: actions →
      Delivered (Machine.run (Threads.step writerEntry writerExec) (idleWriter ι config) done).1
        (Machine.run (Threads.step writerEntry writerExec) (idleWriter ι config) done).2 := by
  rintro done ⟨later, rfl⟩
  have hinit : Delivers (idleWriter ι config) [] :=
    .inr ⟨rfl, rfl, fun _ _ => List.not_mem_nil, rfl⟩
  have hdone := ((Machine.guarded_append _ _ _ _ _).mp hguard).1
  refine Delivers.delivered (Threads.guarded_history (J := Delivers) ?_ ?_ ?_ hinit hdone)
  · intro t h hd
    simpa only [Delivers, session_concat_none] using hd
  · intro t h i c hd hcode
    exact hd.setCode_call hcode c
  · intro t h i p rest hd hcode hG
    exact hd.perform hcode hG

end Delivery

/-! ## Two runs -/

open Threads.Action in
/-- A producer's line goes through a flush of the main thread and a close. -/
def orderlyRun : List (Threads.Action Bool WriterRequest) :=
  [call true (.openFile []), advance true, advance true, advance true,
    call false (.write (ascii "$A\n")), advance false,
    call true .flush, advance true, advance true, advance true,
    call true .close, advance true, advance true, advance true]

theorem delivered_orderlyRun :
    let final := Machine.run (Threads.step writerEntry writerExec) (idleWriter Bool none) orderlyRun
    Delivered final.1 final.2 :=
  delivered_of_undisturbed none orderlyRun (by decide) orderlyRun List.prefix_rfl

open Threads.Action in
/-- The writer thread (`false`) has taken the first line when a flush of the main
thread (`true`) takes and stores the second one. -/
def overlappingFlushes : List (Threads.Action Bool WriterRequest) :=
  [call true (.openFile []), advance true, advance true, advance true,
    call true (.write (ascii "$A\n")), advance true,
    call false .wake, advance false, advance false,
    call true (.write (ascii "$B\n")), advance true,
    call true .flush, advance true, advance true, advance true, advance false]

theorem not_delivered_overlappingFlushes :
    let final := Machine.run (Threads.step writerEntry writerExec) (idleWriter Bool none)
      overlappingFlushes
    final.1.shared.file.contents = ascii "$B\n$B\n" ∧
      (session final.2).2 = [ascii "$A\n", ascii "$B\n"] ∧
      ¬ Delivered final.1 final.2 := by
  intro final
  have hfile : final.1.shared.file.contents = ascii "$B\n$B\n" := by decide
  have hsession : session final.2 = ([], [ascii "$A\n", ascii "$B\n"]) := by decide
  refine ⟨hfile, by rw [hsession], fun hd => ?_⟩
  -- the second line in front is no beginning of the accepted data
  obtain ⟨stored, hstored, hprefix⟩ := hd.ordered
  rw [hsession] at hstored hprefix
  rw [hfile, List.nil_append] at hstored
  rw [← hstored] at hprefix
  exact absurd hprefix (by decide)

end TempoBt
