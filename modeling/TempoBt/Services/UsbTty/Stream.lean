-- SUMMARY: The byte stream of the USB terminal, and the runs in which the host receives whole lines.
import TempoBt.Lib.Lines
import TempoBt.Lib.Machine
import TempoBt.Services.UsbTty
import TempoBt.Util.NmeaChecksum

/-!
# The stream to the USB host

Lines are queued in the transmit ring, and the transmit interrupt moves bytes from
there to the host. A line for which the ring has some room but not enough is queued in
part.
-/

namespace TempoBt

open Lines

/-- The most that `uart_irq_callback` claims at once. -/
def usbTtyTxClaim : Nat := 256

/-- `uart_fifo_fill`, with the number of bytes that the controller takes, negative for an
error. -/
def uartFifoFill (room : Int) (data : Bytes) : Int := min room data.length

/-- The transmit half of `uart_irq_callback`, and the bytes sent. `contiguous` is how much
of the ring can be claimed in one piece. -/
def uartIrqTx (contiguous : Nat) (room : Int) (u : UsbTty) : UsbTty × Bytes :=
  let data := (u.txRing.get (min contiguous usbTtyTxClaim)).2
  if 0 < data.length then
    let sent := uartFifoFill room data
    if 0 < sent then ({ u with txRing := (u.txRing.get sent.toNat).1 }, data.take sent.toNat)
    else (u, [])
  else (u, [])

/-- What is sent is taken from the front of the ring. -/
theorem uartIrqTx_items (contiguous : Nat) (room : Int) (u : UsbTty) :
    (uartIrqTx contiguous room u).2 ++ (uartIrqTx contiguous room u).1.txRing.items =
      u.txRing.items := by
  unfold uartIrqTx
  simp only
  split
  · split
    · rename_i hsent
      simp only [uartFifoFill, Fifo.get_snd, Fifo.get_fst_items] at hsent ⊢
      rw [List.take_take, min_eq_left, List.take_append_drop]
      rw [List.length_take]
      omega
    · rfl
  · rfl

theorem uartIrqTx_ttyOpen (contiguous : Nat) (room : Int) (u : UsbTty) :
    (uartIrqTx contiguous room u).1.ttyOpen = u.ttyOpen := by
  unfold uartIrqTx
  simp only
  split
  · split
    · rfl
    · rfl
  · rfl

/-! ## Runs -/

/-- The terminal, and the stream since it was opened: the lines it was given, and the bytes
sent to the host. -/
structure TtyStream where
  tty : UsbTty
  lines : List (Line lf)
  sent : Bytes

/-- What happens to the stream, in any order. -/
inductive StreamInput where
  | outputLine (line : Line lf)
  | txReady (contiguous : Nat) (room : Int)
  | usbStatus (status : UsbDcStatus)
  | dtrPoll (dtr : Option Bool)
  | openTty (dtr : Option Bool)
  | closeTty

namespace TtyStream

def initial (usbEnabled : Bool) : TtyStream := ⟨.initial usbEnabled, [], []⟩

/-- The bytes sent, and those still queued. -/
def stream (s : TtyStream) : Bytes := s.sent ++ s.tty.txRing.items

def step (s : TtyStream) : StreamInput → TtyStream × Unit
  | .outputLine line =>
    ({ s with tty := usbTtyOutputLine line.toList s.tty, lines := s.lines ++ [line] }, ())
  | .txReady contiguous room =>
    ({ s with
        tty := (uartIrqTx contiguous room s.tty).1
        sent := s.sent ++ (uartIrqTx contiguous room s.tty).2 }, ())
  | .usbStatus status => ({ s with tty := (usbStatusCallback status s.tty).1 }, ())
  | .dtrPoll dtr => ({ s with tty := (dtrPollHandler dtr s.tty).1 }, ())
  | .openTty dtr =>
    -- an open of the open terminal goes on with its stream
    if s.tty.ttyOpen then ({ s with tty := (usbTtyOpen dtr s.tty).1 }, ())
    else (⟨(usbTtyOpen dtr s.tty).1, [], []⟩, ())
  | .closeTty => ({ s with tty := usbTtyClose s.tty }, ())

/-- From an open to the next close the stream consists of whole lines. -/
def WholeLines (s : TtyStream) : Prop := s.tty.ttyOpen = true → MadeOf s.lines s.stream

/-- A line finds room for all of it or for none, and the terminal is not opened again
within a line. -/
def Admits (s : TtyStream) : StreamInput → Prop
  | .outputLine line =>
    s.tty.ttyOpen = true → s.tty.dtrState = true →
      line.toList.length ≤ s.tty.txRing.space ∨ s.tty.txRing.space = 0
  | .openTty dtr =>
    s.tty.ttyOpen = true → usbTtyIsConnected dtr s.tty = true → Ended lf s.sent
  | _ => True

variable {s : TtyStream}

/-! ## Lines -/

/-- What becomes of a line: it is left out, or the part that fits is queued. -/
theorem stream_outputLine (s : TtyStream) (line : Line lf) :
    (s.step (.outputLine line)).1.stream =
      if s.tty.ttyOpen = true ∧ s.tty.dtrState = true then
        s.stream ++ line.toList.take s.tty.txRing.space
      else s.stream := by
  by_cases htakes : s.tty.ttyOpen = true ∧ s.tty.dtrState = true
  · simp [step, stream, usbTtyOutputLine, htakes, Fifo.put]
  · have hrefused : (!s.tty.ttyOpen || !s.tty.dtrState) = true := by
      simpa [imp_iff_not_or] using htakes
    simp only [step, stream, usbTtyOutputLine, hrefused, if_true, if_neg htakes]

theorem WholeLines.outputLine (h : s.WholeLines) {line : Line lf}
    (hadmits : s.Admits (.outputLine line)) : (s.step (.outputLine line)).1.WholeLines := by
  intro hopen'
  have hopen : s.tty.ttyOpen = true := by simpa [TtyStream.step] using hopen'
  rw [stream_outputLine]
  split
  · rename_i htakes
    rcases hadmits hopen htakes.2 with hfits | hfull
    · rw [List.take_of_length_le hfits]
      exact (h hopen).append line
    · rw [hfull, List.take_zero, List.append_nil]
      exact (h hopen).skip line
  · exact (h hopen).skip line

/-- A line that finds room for a part of it. -/
theorem not_wholeLines_outputLine {line : Line lf} (hadmits : ¬ s.Admits (.outputLine line)) :
    ¬ (s.step (.outputLine line)).1.WholeLines := by
  intro hwhole
  simp only [Admits, Classical.not_imp, not_or, Nat.not_le] at hadmits
  obtain ⟨hopen, hdtr, hlong, hroom⟩ := hadmits
  have hended := (hwhole (by simpa [TtyStream.step] using hopen)).ended
  rw [stream_outputLine, if_pos ⟨hopen, hdtr⟩] at hended
  apply not_ended_append _ (line.sep_notMem_take hlong) hended
  rw [ne_eq, List.take_eq_nil_iff, not_or]
  refine ⟨hroom, ?_⟩
  simp [Line.toList]

/-! ## Opening -/

/-- The terminal that was open is opened again when the host is there. -/
theorem stream_reopen (hopen : s.tty.ttyOpen = true) (dtr : Option Bool) :
    (s.step (.openTty dtr)).1.stream =
      if usbTtyIsConnected dtr s.tty = true then s.sent else s.stream := by
  have hlines : (s.step (.openTty dtr)).1.sent = s.sent := by simp [step, hopen]
  have hring : (s.step (.openTty dtr)).1.tty = (usbTtyOpen dtr s.tty).1 := by simp [step, hopen]
  rw [stream, hlines, hring]
  by_cases henabled : s.tty.usbEnabled = true
  · by_cases hconnected : usbTtyIsConnected dtr s.tty = true
    · simp [usbTtyOpen, henabled, hconnected, Fifo.empty]
    · simp [usbTtyOpen, henabled, hconnected, stream]
  · have hconnected : usbTtyIsConnected dtr s.tty ≠ true := by
      simp [usbTtyIsConnected, henabled]
    simp [usbTtyOpen, henabled, hconnected, stream]

theorem lines_reopen (hopen : s.tty.ttyOpen = true) (dtr : Option Bool) :
    (s.step (.openTty dtr)).1.lines = s.lines := by
  simp [step, hopen]

theorem ttyOpen_reopen (hopen : s.tty.ttyOpen = true) (dtr : Option Bool) :
    (s.step (.openTty dtr)).1.tty.ttyOpen = true := by
  have htty : (s.step (.openTty dtr)).1.tty = (usbTtyOpen dtr s.tty).1 := by simp [step, hopen]
  rw [htty]
  rcases usbTtyOpen_cases dtr s.tty with ⟨-, hsame⟩ | ⟨-, hopened⟩
  · rw [hsame, hopen]
  · exact hopened

theorem WholeLines.openTty (h : s.WholeLines) {dtr : Option Bool}
    (hadmits : s.Admits (.openTty dtr)) : (s.step (.openTty dtr)).1.WholeLines := by
  intro hopen'
  by_cases hopen : s.tty.ttyOpen = true
  · rw [lines_reopen hopen, stream_reopen hopen]
    split
    · rename_i hconnected
      exact (h hopen).of_ended (hadmits hopen hconnected)
    · exact h hopen
  · rw [TtyStream.step, if_neg hopen] at hopen' ⊢
    rcases usbTtyOpen_cases dtr s.tty with ⟨-, hsame⟩ | ⟨hret, -⟩
    · rw [hsame] at hopen'
      exact absurd hopen' hopen
    · have hempty : (usbTtyOpen dtr s.tty).1.txRing.items = [] := by
        have hconnected := (usbTtyOpen_ret dtr s.tty).mp hret
        have henabled : s.tty.usbEnabled = true := by
          rw [usbTtyIsConnected, Bool.and_eq_true] at hconnected
          exact hconnected.1
        simp [usbTtyOpen, henabled, hconnected, Fifo.empty]
      rw [stream, hempty]
      exact .nil []

/-- An open that cuts off a line. -/
theorem not_wholeLines_openTty {dtr : Option Bool} (hadmits : ¬ s.Admits (.openTty dtr)) :
    ¬ (s.step (.openTty dtr)).1.WholeLines := by
  intro hwhole
  simp only [Admits, Classical.not_imp] at hadmits
  obtain ⟨hopen, hconnected, hended⟩ := hadmits
  have hstream := (hwhole (ttyOpen_reopen hopen dtr)).ended
  rw [stream_reopen hopen, if_pos hconnected] at hstream
  exact hended hstream

/-! ## Steps -/

theorem WholeLines.step (h : s.WholeLines) {input : StreamInput} (hadmits : s.Admits input) :
    (s.step input).1.WholeLines := by
  cases input with
  | outputLine line => exact h.outputLine hadmits
  | txReady contiguous room =>
    intro hopen
    have hstream : (s.step (.txReady contiguous room)).1.stream = s.stream := by
      simp only [stream, TtyStream.step, List.append_assoc, uartIrqTx_items]
    rw [hstream]
    exact h ((uartIrqTx_ttyOpen contiguous room s.tty).symm.trans hopen)
  | usbStatus status =>
    cases status <;> exact h
  | dtrPoll dtr =>
    intro hopen
    have hring : (dtrPollHandler dtr s.tty).1.txRing = s.tty.txRing := by
      cases dtr with
      | none => rfl
      | some newDtr =>
        rw [dtrPollHandler]
        split <;> rfl
    have hwhole := h ((dtrPollHandler_terminal dtr s.tty).1.symm.trans hopen)
    rwa [stream, ← hring] at hwhole
  | openTty dtr => exact h.openTty hadmits
  | closeTty =>
    intro hopen
    cases hopen

theorem not_wholeLines_step {input : StreamInput} (hadmits : ¬ s.Admits input) :
    ¬ (s.step input).1.WholeLines := by
  cases input with
  | outputLine line => exact not_wholeLines_outputLine hadmits
  | openTty dtr => exact not_wholeLines_openTty hadmits
  | txReady contiguous room => exact absurd trivial hadmits
  | usbStatus status => exact absurd trivial hadmits
  | dtrPoll dtr => exact absurd trivial hadmits
  | closeTty => exact absurd trivial hadmits

end TtyStream

/-- **Whole lines.** In every order of lines, transmit interrupts and events of the host:
from each open to the next close the host receives whole lines, in exactly the runs in
which every line finds room for all of it or for none and no line is cut off by an open. -/
theorem usbStream_wholeLines_iff (usbEnabled : Bool) (inputs : List StreamInput) :
    Machine.Always TtyStream.step TtyStream.WholeLines (.initial usbEnabled) inputs ↔
      Machine.Guarded TtyStream.step TtyStream.Admits (.initial usbEnabled) inputs := by
  apply Machine.always_iff_guarded (I := TtyStream.WholeLines)
  · exact fun s input h hinput => h.step hinput
  · exact fun s h => h
  · exact fun s input _ hinput => TtyStream.not_wholeLines_step hinput
  · intro hopen
    cases hopen

namespace TtyStream

/-- Lines that fit one after the other use up the room. -/
theorem space_outputLines {s : TtyStream} {line : Line lf} {k : Nat}
    (hopen : s.tty.ttyOpen = true) (hdtr : s.tty.dtrState = true)
    (hroom : k * line.toList.length ≤ s.tty.txRing.space) :
    let s' := (Machine.run step s (List.replicate k (.outputLine line))).1
    s'.tty.ttyOpen = true ∧ s'.tty.dtrState = true ∧
      s'.tty.txRing.space = s.tty.txRing.space - k * line.toList.length := by
  induction k generalizing s with
  | zero => exact ⟨hopen, hdtr, by simp⟩
  | succ k ih =>
    rw [Nat.add_mul, Nat.one_mul] at hroom ⊢
    have htty : (s.step (.outputLine line)).1.tty =
        { s.tty with txRing := (s.tty.txRing.put line.toList).1 } := by
      simp [step, usbTtyOutputLine, hopen, hdtr]
    have hspace : (s.step (.outputLine line)).1.tty.txRing.space =
        s.tty.txRing.space - line.toList.length := by
      rw [htty, Fifo.space, Fifo.size, Fifo.put_items_of_fits (by omega), List.length_append,
        Nat.sub_add_eq]
      rfl
    obtain ⟨hopen', hdtr', hspace'⟩ := ih (s := (s.step (.outputLine line)).1)
      (by rw [htty]; exact hopen) (by rw [htty]; exact hdtr) (by omega)
    refine ⟨hopen', hdtr', ?_⟩
    rw [List.replicate_succ, Machine.run_cons_fst, hspace', hspace]
    omega

end TtyStream

/-- A line of 61 bytes. -/
def letters : Line lf := ⟨List.replicate 60 65, by decide⟩

/-- A host that opens the terminal and then reads nothing: 67 lines of 61 bytes fit, and the
first 9 bytes of the next. -/
theorem not_wholeLines_stalledHost :
    ¬ Machine.Always TtyStream.step TtyStream.WholeLines (.initial true)
      (.openTty (some true) :: (List.replicate 67 (.outputLine letters) ++
        [.outputLine letters])) := by
  intro h
  have hlength : letters.toList.length = 61 := by decide
  have hspace : ((TtyStream.initial true).step (.openTty (some true))).1.tty.txRing.space =
      4096 := by decide
  obtain ⟨-, -, hlines⟩ := h
  obtain ⟨hlast, -⟩ := ((Machine.along_append _ _ _ _ _).mp hlines).2
  have hfits : 67 * letters.toList.length ≤
      ((TtyStream.initial true).step (.openTty (some true))).1.tty.txRing.space := by omega
  obtain ⟨hopen, hdtr, hroom⟩ := TtyStream.space_outputLines (by decide) (by decide) hfits
  rw [hlength, hspace] at hroom
  apply TtyStream.not_wholeLines_outputLine _ hlast
  intro hadmits
  rcases hadmits hopen hdtr with hfits | hfull
  · rw [hroom, hlength] at hfits
    exact absurd hfits (by decide)
  · rw [hroom] at hfull
    exact absurd hfull (by decide)

end TempoBt
