-- SUMMARY: The USB receive path: the interrupt that completes lines, the work handler that delivers them, and when every line is delivered.
import TempoBt.Lib.Bytes
import TempoBt.Lib.Lines
import TempoBt.Lib.Machine
import Mathlib.Logic.Function.Iterate

/-!
# USB receive path

The interrupt collects bytes in `rx_line_buf` and copies each complete line to
`rx_complete_buf`, which the work handler passes to the receive callback. The callback
reads the buffer as often as it likes until it returns, and the interrupt preempts the
handler anywhere; submitting work that is pending does nothing.
-/

namespace TempoBt

open Lines

/-! ## Interrupt and handler -/

/-- `USB_TTY_RX_LINE_SIZE` -/
def usbTtyRxLineSize : Nat := 128

/-- Where `rx_line_work_handler` is. -/
inductive RxHandler where
  /-- It runs and has not read `rx_complete_len` yet. -/
  | begun
  /-- It is in the callback, to which it passed this length. The different texts that the
  callback found in the buffer so far, terminators included, in their order. -/
  | calling (len : Nat) (texts : List Bytes)
  deriving DecidableEq

structure UsbRx where
  /-- Whether a receive callback is registered. -/
  rxCallback : Bool
  /-- `rx_line_buf` up to `rx_pos`. -/
  rxLine : Bytes
  completeBuf : Bytes
  completeLen : Nat
  /-- Whether `rx_line_work` is pending. -/
  submitted : Bool
  handler : Option RxHandler
  /-- The texts that the callback found in each call that has returned. -/
  delivered : List (List Bytes)
  /-- The bytes from the host so far. -/
  received : Bytes
  deriving DecidableEq

/-- The receive path after `usb_cmd_init`. -/
def UsbRx.initial : UsbRx where
  rxCallback := true
  rxLine := []
  completeBuf := List.replicate usbTtyRxLineSize 0
  completeLen := 0
  submitted := false
  handler := none
  delivered := []
  received := []

inductive RxAction where
  /-- The interrupt, with the bytes in the FIFO. -/
  | irq (bytes : Bytes)
  /-- The handler begins, reads the length and calls the callback, or returns from it. -/
  | worker

/-- `'\n'` -/
def newline : UInt8 := 10

/-- A line without a trailing `'\r'`. -/
def stripCr (line : Bytes) : Bytes := if line.getLast? = some 13 then line.dropLast else line

/-- `memcpy` of a line and its terminator. -/
def copyLine (line buf : Bytes) : Bytes := line ++ 0 :: buf.drop (line.length + 1)

/-- What a callback that was given this length finds in the buffer. -/
def callText (buf : Bytes) (len : Nat) : Bytes := buf.take (len + 1)

/-- A running callback looks at the buffer again. -/
def RxHandler.look (buf : Bytes) : RxHandler → RxHandler
  | .begun => .begun
  | .calling len texts =>
    .calling len
      (if texts.getLast? = some (callText buf len) then texts else texts ++ [callText buf len])

namespace UsbRx

/-- A line is copied and the work submitted. -/
def completeLine (s : UsbRx) (line : Bytes) : UsbRx :=
  { s with
    completeBuf := copyLine line s.completeBuf
    completeLen := line.length
    submitted := true }

/-- The loop of `uart_irq_callback` for one byte. -/
def rxByte (s : UsbRx) (byte : UInt8) : UsbRx :=
  if byte = newline then
    { (if stripCr s.rxLine ≠ [] ∧ s.rxCallback then s.completeLine (stripCr s.rxLine) else s) with
      rxLine := [] }
  else if s.rxLine.length < usbTtyRxLineSize - 1 then { s with rxLine := s.rxLine ++ [byte] }
  else s

/-- A step of `rx_line_work_handler`. -/
def workerStep (s : UsbRx) : UsbRx :=
  match s.handler with
  | some .begun =>
    { s with
      handler :=
        if s.rxCallback ∧ 0 < s.completeLen then
          some (.calling s.completeLen [callText s.completeBuf s.completeLen])
        else none }
  | some (.calling _ texts) => { s with delivered := s.delivered ++ [texts], handler := none }
  | none =>
    -- the work queue clears the pending flag before it calls the handler
    if s.submitted then { s with submitted := false, handler := some .begun } else s

def step (s : UsbRx) : RxAction → UsbRx × Unit
  | .irq bytes =>
    let s' := bytes.foldl rxByte s
    ({ s' with
        handler := s'.handler.map (RxHandler.look s'.completeBuf)
        received := s.received ++ bytes }, ())
  | .worker => (s.workerStep, ())

end UsbRx

/-! ## Delivery -/

/-- The lines of a stream that are to be delivered: without `'\r'` and not empty. -/
def usableLines (lines : List Bytes) : List Bytes := (lines.map stripCr).filter (· ≠ [])

/-- The complete lines of a stream that are to be delivered. -/
def completeLines (stream : Bytes) : List Bytes := usableLines (splitLines newline [] stream).1

namespace UsbRx

/-- The handler has nothing to do. -/
def Idle (s : UsbRx) : Prop := s.submitted = false ∧ s.handler = none

/-- The callback finds a line: the same text in the whole call, terminated. -/
def call (line : Bytes) : List Bytes := [line ++ [0]]

/-- Once the handler has run to its end, each complete line of the stream has been
delivered, once, whole and in order. -/
def Delivers (s : UsbRx) : Prop :=
  ∃ n, Idle (workerStep^[n] s) ∧
    (workerStep^[n] s).delivered = (completeLines s.received).map call

/-- The lines that an interrupt completes. -/
def newLines (s : UsbRx) (bytes : Bytes) : List Bytes :=
  usableLines (splitLines newline s.rxLine bytes).1

/-- A copy of `line` leaves the line that is in the handler's hands as it is. -/
def Keeps (s : UsbRx) (line : Bytes) : Prop :=
  match s.handler with
  | none => True
  | some .begun => callText s.completeBuf s.completeLen = line ++ [0]
  | some (.calling len _) =>
    callText (copyLine line s.completeBuf) len = callText s.completeBuf len

/-- An interrupt completes no line, or one, when none waits for the handler and the line in
the handler's hands, from its beginning to the return of the callback, is not changed. -/
def OneAtATime (s : UsbRx) : RxAction → Prop
  | .irq bytes =>
    s.newLines bytes = [] ∨
      ((s.newLines bytes).length = 1 ∧ s.submitted = false ∧
        ∀ line ∈ s.newLines bytes, s.Keeps line)
  | .worker => True

/-- The call that the handler is about to make or in. -/
def underWay (s : UsbRx) : Option (List Bytes) :=
  s.handler.map fun
    | .begun => [callText s.completeBuf s.completeLen]
    | .calling _ texts => texts

/-- What will have been delivered when the handler has run to its end. -/
def drained (s : UsbRx) : List (List Bytes) :=
  s.delivered ++ s.underWay.toList ++
    if s.submitted then [[callText s.completeBuf s.completeLen]] else []

/-- What holds of the buffers in every state. -/
structure Wf (s : UsbRx) : Prop where
  rxCallback : s.rxCallback = true
  rxLine : s.rxLine = (splitLines newline [] s.received).2
  bufLength : s.completeBuf.length = usbTtyRxLineSize
  lenLt : s.completeLen < usbTtyRxLineSize
  lenPos : s.submitted = true ∨ s.handler = some .begun → 0 < s.completeLen
  calling : ∀ len texts, s.handler = some (.calling len texts) →
    texts.getLast? = some (callText s.completeBuf len)

theorem Wf.initial : UsbRx.initial.Wf where
  rxCallback := rfl
  rxLine := rfl
  bufLength := List.length_replicate
  lenLt := by decide
  lenPos := by decide
  calling := by simp [UsbRx.initial]

/-! ### The handler -/

variable {s : UsbRx}

theorem Wf.worker (h : s.Wf) : s.workerStep.Wf ∧ s.workerStep.drained = s.drained := by
  obtain ⟨hcallback, hline, hlength, hlt, hpos, hcalling⟩ := h
  unfold UsbRx.workerStep
  split
  · rename_i hbegun
    rw [if_pos ⟨hcallback, hpos (.inr hbegun)⟩]
    refine ⟨⟨hcallback, hline, hlength, hlt, ?_, ?_⟩, ?_⟩
    · exact fun hwaits => hpos (hwaits.imp_right fun hnot => absurd hnot (by simp))
    · rintro _ _ ⟨⟩
      rfl
    · simp [drained, underWay, hbegun]
  · rename_i len texts hrunning
    refine ⟨⟨hcallback, hline, hlength, hlt, ?_, by simp⟩, ?_⟩
    · exact fun hwaits => hpos (hwaits.imp_right fun hnot => absurd hnot (by simp))
    · simp [drained, underWay, hrunning]
  · rename_i hnone
    split
    · rename_i hsubmitted
      refine ⟨⟨hcallback, hline, hlength, hlt, fun _ => hpos (.inl hsubmitted), by simp⟩, ?_⟩
      simp [drained, underWay, hnone, hsubmitted]
    · exact ⟨⟨hcallback, hline, hlength, hlt, hpos, hcalling⟩, rfl⟩

/-- How many steps the handler has to its end. -/
def work (s : UsbRx) : Nat :=
  (match s.handler with
    | none => 0
    | some .begun => 2
    | some (.calling _ _) => 1) + if s.submitted then 3 else 0

theorem Wf.work_lt (h : s.Wf) (hidle : ¬ s.Idle) : s.workerStep.work < s.work := by
  unfold UsbRx.workerStep
  split
  · rename_i hbegun
    rw [if_pos ⟨h.rxCallback, h.lenPos (.inr hbegun)⟩]
    simp [work, hbegun]
  · rename_i hrunning
    simp [work, hrunning]
  · rename_i hnone
    split
    · rename_i hsubmitted
      simp [work, hnone, hsubmitted]
    · rename_i hsubmitted
      exact absurd ⟨by simpa using hsubmitted, hnone⟩ hidle

theorem Idle.drained (h : s.Idle) : s.drained = s.delivered := by
  simp [UsbRx.drained, underWay, h.1, h.2]

/-- The handler runs to its end, and delivers what it has to. -/
theorem Wf.exists_idle (h : s.Wf) :
    ∃ n, Idle (workerStep^[n] s) ∧ (workerStep^[n] s).delivered = s.drained := by
  induction hwork : s.work using Nat.strong_induction_on generalizing s with
  | _ w ih =>
    by_cases hidle : s.Idle
    · exact ⟨0, hidle, hidle.drained.symm⟩
    · obtain ⟨n, hn, hdelivered⟩ := ih _ (hwork ▸ h.work_lt hidle) h.worker.1 rfl
      exact ⟨n + 1, hn, hdelivered.trans h.worker.2⟩

/-- Where the handler has come to its end, it has delivered what it had to. -/
theorem Wf.delivered_of_idle (h : s.Wf) {n : Nat} (hidle : Idle (workerStep^[n] s)) :
    (workerStep^[n] s).delivered = s.drained := by
  induction n generalizing s with
  | zero => exact hidle.drained.symm
  | succ n ih => exact (ih h.worker.1 hidle).trans h.worker.2

theorem Wf.delivers_iff (h : s.Wf) :
    s.Delivers ↔ s.drained = (completeLines s.received).map call := by
  constructor
  · rintro ⟨n, hidle, hdelivered⟩
    rw [← h.delivered_of_idle hidle, hdelivered]
  · intro hdrained
    obtain ⟨n, hidle, hdelivered⟩ := h.exists_idle
    exact ⟨n, hidle, hdelivered.trans hdrained⟩

/-! ### The interrupt -/

theorem usableLines_cons (line : Bytes) (lines : List Bytes) :
    usableLines (line :: lines) =
      if stripCr line ≠ [] then stripCr line :: usableLines lines else usableLines lines := by
  by_cases hline : stripCr line = [] <;> simp [usableLines, hline]

theorem foldl_completeLine_rxLine (lines : List Bytes) (s : UsbRx) (line : Bytes) :
    lines.foldl completeLine { s with rxLine := line } =
      { lines.foldl completeLine s with rxLine := line } := by
  induction lines generalizing s with
  | nil => rfl
  | cons new lines ih => exact ih (s.completeLine new)

/-- The loop over the bytes of an interrupt copies the complete lines one after the
other. -/
theorem foldl_rxByte {pre bytes : Bytes} (hcallback : s.rxCallback = true)
    (hline : s.rxLine = (splitLines newline [] pre).2)
    (hfit : LinesFit newline (usbTtyRxLineSize - 1) (pre ++ bytes)) :
    bytes.foldl rxByte s =
      { (s.newLines bytes).foldl completeLine s with
        rxLine := (splitLines newline s.rxLine bytes).2 } := by
  induction bytes generalizing s pre with
  | nil => rfl
  | cons b bs ih =>
    have hfit' : LinesFit newline (usbTtyRxLineSize - 1) ((pre ++ [b]) ++ bs) := by
      simpa using hfit
    rw [List.foldl_cons, rxByte]
    by_cases hb : b = newline
    · have hbegun : (splitLines newline [] (pre ++ [b])).2 = [] := by
        simp [splitLines_append, splitLines, hb]
      rw [if_pos hb, ih (by split <;> simp [completeLine, hcallback]) hbegun.symm hfit']
      simp only [newLines, splitLines, if_pos hb, usableLines_cons]
      rw [foldl_completeLine_rxLine]
      by_cases hstrip : stripCr s.rxLine = []
      · simp [hstrip]
      · simp [hstrip, hcallback]
    · have hbegun : (splitLines newline [] (pre ++ [b])).2 = s.rxLine ++ [b] := by
        simp [splitLines_append, splitLines, hb, hline]
      have hroom : s.rxLine.length < usbTtyRxLineSize - 1 := by
        rw [hline]
        exact hfit.room hb
      rw [if_neg hb, if_pos hroom,
        ih (s := { s with rxLine := s.rxLine ++ [b] }) hcallback hbegun.symm hfit']
      simp only [newLines, splitLines, if_neg hb]
      rw [foldl_completeLine_rxLine]

theorem length_copyLine {line buf : Bytes} (hline : line.length < usbTtyRxLineSize)
    (hbuf : buf.length = usbTtyRxLineSize) : (copyLine line buf).length = usbTtyRxLineSize := by
  simp only [copyLine, List.length_append, List.length_cons, List.length_drop]
  omega

/-- The lines of an interrupt leave the last of them to the handler. -/
theorem foldl_completeLine {lines : List Bytes} (s : UsbRx) (hlines : lines ≠ [])
    (hfits : ∀ line ∈ lines, line.length < usbTtyRxLineSize)
    (hlength : s.completeBuf.length = usbTtyRxLineSize) :
    ∃ buf, buf.length = usbTtyRxLineSize ∧ lines.foldl completeLine s =
      { s with
        completeBuf := copyLine (lines.getLast hlines) buf
        completeLen := (lines.getLast hlines).length
        submitted := true } := by
  induction lines generalizing s with
  | nil => exact absurd rfl hlines
  | cons line lines ih =>
    cases lines with
    | nil => exact ⟨s.completeBuf, hlength, rfl⟩
    | cons next lines =>
      rw [List.forall_mem_cons] at hfits
      obtain ⟨buf, hbuf, heq⟩ := ih (s.completeLine line) (by simp) hfits.2
        (length_copyLine hfits.1 hlength)
      exact ⟨buf, hbuf, by rw [List.foldl_cons, heq]; rfl⟩

theorem length_stripCr_le (line : Bytes) : (stripCr line).length ≤ line.length := by
  unfold stripCr
  split
  · rw [List.length_dropLast]
    omega
  · exact Nat.le_refl _

theorem Wf.newLines_fit (h : s.Wf) {bytes : Bytes}
    (hfit : LinesFit newline (usbTtyRxLineSize - 1) (s.received ++ bytes)) {line : Bytes}
    (hline : line ∈ s.newLines bytes) : line ≠ [] ∧ line.length < usbTtyRxLineSize := by
  simp only [newLines, usableLines, List.mem_filter, List.mem_map, decide_eq_true_eq] at hline
  obtain ⟨⟨l, hl, rfl⟩, hne⟩ := hline
  obtain ⟨hsuffix, hsep⟩ := splitLines_snd newline List.not_mem_nil s.received
  rw [← h.rxLine] at hsuffix hsep
  obtain ⟨hwithin, hl⟩ := splitLines_fst newline hsep hl
  have hpart : l <:+: s.received ++ bytes := by
    obtain ⟨start, hstart⟩ := hsuffix
    refine hwithin.trans ⟨start, [], ?_⟩
    rw [List.nil_append] at hstart
    rw [← hstart, List.append_nil, List.append_assoc]
  have hlength := hfit l hpart hl
  have hstrip := length_stripCr_le l
  have hsize : usbTtyRxLineSize = 128 := rfl
  exact ⟨hne, by omega⟩

/-- The lines of the stream after an interrupt. -/
theorem Wf.completeLines_append (h : s.Wf) (bytes : Bytes) :
    completeLines (s.received ++ bytes) = completeLines s.received ++ s.newLines bytes := by
  simp [completeLines, newLines, splitLines_append, usableLines, h.rxLine]

/-- An interrupt that leaves the buffer as it is shows a callback nothing new. -/
theorem Wf.look_handler (h : s.Wf) :
    s.handler.map (RxHandler.look s.completeBuf) = s.handler := by
  cases hhandler : s.handler with
  | none => rfl
  | some running =>
    cases running with
    | begun => rfl
    | calling len texts => simp [RxHandler.look, h.calling len texts hhandler]

/-- What an interrupt does that completes no line. -/
theorem Wf.irq_nil (h : s.Wf) {bytes : Bytes}
    (hfit : LinesFit newline (usbTtyRxLineSize - 1) (s.received ++ bytes))
    (hnone : s.newLines bytes = []) :
    (s.step (.irq bytes)).1 =
      { s with
        rxLine := (splitLines newline s.rxLine bytes).2
        received := s.received ++ bytes } := by
  simp only [step, foldl_rxByte h.rxCallback h.rxLine hfit, hnone, List.foldl_nil,
    h.look_handler]

/-- What an interrupt does that completes lines. -/
theorem Wf.irq_cons (h : s.Wf) {bytes : Bytes}
    (hfit : LinesFit newline (usbTtyRxLineSize - 1) (s.received ++ bytes))
    (hsome : s.newLines bytes ≠ []) :
    ∃ buf, buf.length = usbTtyRxLineSize ∧ (s.step (.irq bytes)).1 =
      { s with
        rxLine := (splitLines newline s.rxLine bytes).2
        completeBuf := copyLine ((s.newLines bytes).getLast hsome) buf
        completeLen := ((s.newLines bytes).getLast hsome).length
        submitted := true
        handler := s.handler.map
          (RxHandler.look (copyLine ((s.newLines bytes).getLast hsome) buf))
        received := s.received ++ bytes } := by
  obtain ⟨buf, hbuf, heq⟩ := foldl_completeLine s hsome
    (fun line hline => (h.newLines_fit hfit hline).2) h.bufLength
  refine ⟨buf, hbuf, ?_⟩
  simp only [step, foldl_rxByte h.rxCallback h.rxLine hfit, heq]

/-- After a look, the callback has found what stands in the buffer. -/
theorem getLast?_look {handler : Option RxHandler} {buf : Bytes} {len : Nat}
    {texts : List Bytes} (h : handler.map (RxHandler.look buf) = some (.calling len texts)) :
    texts.getLast? = some (callText buf len) := by
  obtain ⟨_ | ⟨len', texts'⟩, -, hlook⟩ := Option.map_eq_some_iff.mp h
  · exact absurd hlook (by simp [RxHandler.look])
  · obtain ⟨rfl, rfl⟩ := RxHandler.calling.inj hlook
    split
    · assumption
    · exact List.getLast?_concat

/-- The text of a line that has just been copied. -/
theorem callText_copyLine (line buf : Bytes) :
    callText (copyLine line buf) line.length = line ++ [0] := by
  simp [callText, copyLine, List.take_append]

theorem length_drained (s : UsbRx) : s.drained.length =
    s.delivered.length + (if s.handler.isSome then 1 else 0) + (if s.submitted then 1 else 0) := by
  cases hrunning : s.handler <;> cases hsubmitted : s.submitted <;>
    simp [drained, underWay, hrunning, hsubmitted, Nat.add_assoc]

/-- A look adds a text exactly when the buffer has changed. -/
theorem look_iff (buf : Bytes) (len : Nat) {text : Bytes} {texts : List Bytes}
    (hlast : texts.getLast? = some text) :
    (if texts.getLast? = some (callText buf len) then texts else texts ++ [callText buf len]) =
      texts ↔ callText buf len = text := by
  simp only [hlast, Option.some_inj]
  by_cases hsame : callText buf len = text
  · simp [hsame]
  · simp [hsame, Ne.symm hsame]

/-- A line is added to those on their way exactly when its copy leaves the one in the
handler's hands as it is. -/
theorem Wf.drained_irq_single (h : s.Wf) {bytes line : Bytes}
    (hfit : LinesFit newline (usbTtyRxLineSize - 1) (s.received ++ bytes))
    (hline : s.newLines bytes = [line]) (hsubmitted : s.submitted = false) :
    (s.step (.irq bytes)).1.drained = s.drained ++ [call line] ↔ s.Keeps line := by
  have hstep : (s.step (.irq bytes)).1.drained = s.delivered ++
      ({ s.completeLine line with
          handler := s.handler.map (RxHandler.look (copyLine line s.completeBuf)) }).underWay.toList
        ++ [call line] := by
    simp only [step, foldl_rxByte h.rxCallback h.rxLine hfit, hline, List.foldl_cons,
      List.foldl_nil, drained, completeLine, if_true, callText_copyLine, call]
    rfl
  rw [hstep]
  simp only [drained, hsubmitted, Bool.false_eq_true, if_false, List.append_nil,
    List.append_cancel_right_eq, List.append_cancel_left_eq]
  cases hhandler : s.handler with
  | none => simp [underWay, Keeps, hhandler, completeLine]
  | some running =>
    cases running with
    | begun =>
      simp [underWay, Keeps, hhandler, completeLine, RxHandler.look, callText_copyLine, eq_comm]
    | calling len texts =>
      have hlooked := look_iff (copyLine line s.completeBuf) len (h.calling len texts hhandler)
      simpa [underWay, Keeps, hhandler, RxHandler.look, completeLine] using hlooked

/-- The lines of an interrupt are added to those on their way exactly under the guard. -/
theorem Wf.drained_irq_iff (h : s.Wf) {bytes : Bytes}
    (hfit : LinesFit newline (usbTtyRxLineSize - 1) (s.received ++ bytes)) :
    (s.step (.irq bytes)).1.drained = s.drained ++ (s.newLines bytes).map call ↔
      s.OneAtATime (.irq bytes) := by
  by_cases hnew : s.newLines bytes = []
  · rw [h.irq_nil hfit hnew, hnew, List.map_nil, List.append_nil]
    exact iff_of_true rfl (.inl hnew)
  · -- a single line is copied to the buffer that the handler reads
    have hsingle : (s.newLines bytes).length = 1 → s.submitted = false →
        ((s.step (.irq bytes)).1.drained = s.drained ++ (s.newLines bytes).map call ↔
          ∀ line ∈ s.newLines bytes, s.Keeps line) := by
      intro hlength hsubmitted
      obtain ⟨line, hline⟩ := List.length_eq_one_iff.mp hlength
      rw [hline, List.map_singleton, h.drained_irq_single hfit hline hsubmitted]
      simp
    constructor
    · intro heq
      obtain ⟨buf, -, hstep⟩ := h.irq_cons hfit hnew
      have hpos : 0 < (s.newLines bytes).length := List.length_pos_iff.mpr hnew
      -- the handler has at most one line more to deliver than before
      have hcount := congrArg List.length heq
      rw [hstep, List.length_append, List.length_map, length_drained, length_drained] at hcount
      simp only [if_true, Option.isSome_map] at hcount
      cases hsubmitted : s.submitted with
      | true =>
        rw [hsubmitted, if_pos rfl] at hcount
        omega
      | false =>
        have hlength : (s.newLines bytes).length = 1 := by
          simp only [hsubmitted, Bool.false_eq_true, if_false] at hcount
          omega
        exact .inr ⟨hlength, hsubmitted, (hsingle hlength hsubmitted).mp heq⟩
    · rintro (hnone | ⟨hlength, hsubmitted, hkeeps⟩)
      · exact absurd hnone hnew
      · exact (hsingle hlength hsubmitted).mpr hkeeps

theorem Wf.irq (h : s.Wf) {bytes : Bytes}
    (hfit : LinesFit newline (usbTtyRxLineSize - 1) (s.received ++ bytes)) :
    (s.step (.irq bytes)).1.Wf := by
  have hline : (splitLines newline s.rxLine bytes).2 =
      (splitLines newline [] (s.received ++ bytes)).2 := by
    rw [splitLines_append, h.rxLine]
  by_cases hnew : s.newLines bytes = []
  · rw [h.irq_nil hfit hnew]
    exact ⟨h.rxCallback, hline, h.bufLength, h.lenLt, h.lenPos, h.calling⟩
  · obtain ⟨buf, hbuf, heq⟩ := h.irq_cons hfit hnew
    obtain ⟨hne, hlt⟩ := h.newLines_fit hfit (List.getLast_mem hnew)
    rw [heq]
    exact ⟨h.rxCallback, hline, length_copyLine hlt hbuf, hlt,
      fun _ => List.length_pos_iff.mpr hne, fun _ _ hrunning => getLast?_look hrunning⟩

/-! ### Runs -/

/-- All lines of the stream are delivered or on their way. -/
def Inv (s : UsbRx) : Prop := s.Wf ∧ s.drained = (completeLines s.received).map call

theorem Inv.initial : UsbRx.initial.Inv := ⟨Wf.initial, rfl⟩

theorem workerStep_received (s : UsbRx) : s.workerStep.received = s.received := by
  unfold workerStep
  split
  · rfl
  · rfl
  · split <;> rfl

theorem Inv.step (h : s.Inv) {a : RxAction}
    (hfit : LinesFit newline (usbTtyRxLineSize - 1) (s.step a).1.received)
    (hone : s.OneAtATime a) : (s.step a).1.Inv := by
  cases a with
  | worker =>
    obtain ⟨hwf, hdrained⟩ := h.1.worker
    refine ⟨hwf, ?_⟩
    change s.workerStep.drained = (completeLines s.workerStep.received).map call
    rw [hdrained, workerStep_received, h.2]
  | irq bytes =>
    refine ⟨h.1.irq hfit, ?_⟩
    rw [(h.1.drained_irq_iff hfit).mpr hone, h.2, ← List.map_append]
    exact congrArg _ (h.1.completeLines_append bytes).symm

/-- A step without the guard loses a line or changes one. -/
theorem Inv.not_delivers (h : s.Inv) {a : RxAction}
    (hfit : LinesFit newline (usbTtyRxLineSize - 1) (s.step a).1.received)
    (hone : ¬ s.OneAtATime a) : ¬ (s.step a).1.Delivers := by
  cases a with
  | worker => exact absurd trivial hone
  | irq bytes =>
    intro hdelivers
    have hdrained := (h.1.irq hfit).delivers_iff.mp hdelivers
    refine hone ((h.1.drained_irq_iff hfit).mp (hdrained.trans ?_))
    rw [h.2, ← List.map_append]
    exact congrArg _ (h.1.completeLines_append bytes)

theorem foldl_rxByte_delivered (bytes : Bytes) (s : UsbRx) :
    (bytes.foldl rxByte s).delivered = s.delivered := by
  induction bytes generalizing s with
  | nil => rfl
  | cons b bytes ih =>
    rw [List.foldl_cons, ih]
    unfold rxByte
    split
    · split <;> rfl
    · split <;> rfl

/-- What has been delivered stays so. -/
theorem delivered_prefix (s : UsbRx) (a : RxAction) :
    s.delivered <+: (s.step a).1.delivered := by
  cases a with
  | irq bytes =>
    simp only [step, foldl_rxByte_delivered]
    exact List.prefix_refl _
  | worker =>
    simp only [step, workerStep]
    split
    · exact List.prefix_refl _
    · exact List.prefix_append _ _
    · split <;> exact List.prefix_refl _

/-- The bytes of the interrupts of a run. -/
def stream (as : List RxAction) : Bytes :=
  as.flatMap fun
    | .irq bytes => bytes
    | .worker => []

theorem step_received_append (s : UsbRx) (a : RxAction) (as : List RxAction) :
    (s.step a).1.received ++ stream as = s.received ++ stream (a :: as) := by
  cases a with
  | worker => exact congrArg (· ++ stream as) (workerStep_received s)
  | irq bytes => simp [step, stream]

theorem along_linesFit {as : List RxAction} {s : UsbRx}
    (h : LinesFit newline (usbTtyRxLineSize - 1) (s.received ++ stream as)) :
    Machine.Along step (fun _ _ s' => LinesFit newline (usbTtyRxLineSize - 1) s'.received) s
      as := by
  induction as generalizing s with
  | nil => trivial
  | cons a as ih =>
    rw [← step_received_append] at h
    exact ⟨h.of_append, ih h⟩

theorem delivers_iff_oneAtATime (as : List RxAction)
    (hfit : LinesFit newline (usbTtyRxLineSize - 1) (stream as)) :
    Machine.Along step (fun _ _ s' => s'.Delivers) .initial as ↔
      Machine.Guarded step OneAtATime .initial as := by
  refine Machine.along_iff_guarded_of (I := Inv) ?_ ?_ ?_ Inv.initial (along_linesFit hfit)
  · exact fun _ _ h hfit hone => h.step hfit hone
  · exact fun _ _ h hfit hone => (h.step hfit hone).1.delivers_iff.mpr (h.step hfit hone).2
  · exact fun _ _ h hfit hone => h.not_delivers hfit hone

/-! ### A single line -/

theorem length_completeLines_append_le (as bs : Bytes) :
    (completeLines as).length ≤ (completeLines (as ++ bs)).length := by
  simp [completeLines, splitLines_append, usableLines]

/-- An interrupt that brings the first line of a stream finds the handler at rest. -/
theorem Inv.oneAtATime (h : s.Inv) {bytes : Bytes}
    (hone : (completeLines (s.received ++ bytes)).length ≤ 1) : s.OneAtATime (.irq bytes) := by
  rw [h.1.completeLines_append, List.length_append] at hone
  by_cases hnone : s.newLines bytes = []
  · exact .inl hnone
  · have hpos : 0 < (s.newLines bytes).length := List.length_pos_iff.mpr hnone
    have hdrained : s.drained.length = 0 := by
      rw [h.2, List.length_map]
      omega
    rw [length_drained] at hdrained
    refine .inr ⟨by omega, ?_, ?_⟩
    · cases hsubmitted : s.submitted with
      | false => rfl
      | true =>
        rw [hsubmitted, if_pos rfl] at hdrained
        omega
    · cases hrunning : s.handler with
      | none => exact fun line _ => by simp [Keeps, hrunning]
      | some running =>
        rw [hrunning, Option.isSome_some, if_pos rfl] at hdrained
        omega

/-- A stream of one line breaks no guard, however the interrupts cut it. -/
theorem Inv.run_single (h : s.Inv) (as : List RxAction)
    (hfit : LinesFit newline (usbTtyRxLineSize - 1) (s.received ++ stream as))
    (hone : (completeLines (s.received ++ stream as)).length ≤ 1) :
    (Machine.run UsbRx.step s as).1.Inv ∧
      (Machine.run UsbRx.step s as).1.received = s.received ++ stream as := by
  induction as generalizing s with
  | nil => exact ⟨h, (List.append_nil _).symm⟩
  | cons a as ih =>
    rw [← step_received_append] at hfit hone ⊢
    refine ih (h.step hfit.of_append ?_) hfit hone
    cases a with
    | worker => trivial
    | irq bytes => exact h.oneAtATime ((length_completeLines_append_le _ _).trans hone)

/-- The receive path between lines. What it has received and delivered before does not
matter. -/
structure AtRest (s : UsbRx) : Prop where
  rxCallback : s.rxCallback = true
  rxLine : s.rxLine = []
  bufLength : s.completeBuf.length = usbTtyRxLineSize
  lenLt : s.completeLen < usbTtyRxLineSize
  idle : s.Idle

/-- The receive path with a past. -/
def withPast (delivered : List (List Bytes)) (received : Bytes) (s : UsbRx) : UsbRx :=
  { s with delivered := delivered ++ s.delivered, received := received ++ s.received }

section Past

variable (delivered : List (List Bytes)) (received : Bytes)

theorem foldl_rxByte_withPast (bytes : Bytes) (s : UsbRx) :
    bytes.foldl rxByte (s.withPast delivered received) =
      (bytes.foldl rxByte s).withPast delivered received := by
  induction bytes generalizing s with
  | nil => rfl
  | cons b bytes ih =>
    have hbyte : (s.withPast delivered received).rxByte b =
        (s.rxByte b).withPast delivered received := by
      unfold rxByte
      by_cases hb : b = newline
      · simp only [if_pos hb]
        by_cases hdone : stripCr s.rxLine ≠ [] ∧ s.rxCallback = true
        · rw [if_pos hdone, if_pos (by exact hdone)]
          rfl
        · rw [if_neg hdone, if_neg (by exact hdone)]
          rfl
      · simp only [if_neg hb]
        by_cases hroom : s.rxLine.length < usbTtyRxLineSize - 1
        · rw [if_pos hroom, if_pos (by exact hroom)]
          rfl
        · rw [if_neg hroom, if_neg (by exact hroom)]
    rw [List.foldl_cons, List.foldl_cons, hbyte, ih]

theorem workerStep_withPast (s : UsbRx) :
    (s.withPast delivered received).workerStep =
      s.workerStep.withPast delivered received := by
  obtain ⟨rxCallback, rxLine, completeBuf, completeLen, submitted, handler, _, _⟩ := s
  cases handler with
  | none => cases submitted <;> rfl
  | some running =>
    cases running with
    | begun => rfl
    | calling len texts => simp [workerStep, withPast]

/-- No step looks at the past. -/
theorem run_withPast (s : UsbRx) (as : List RxAction) :
    (Machine.run step (s.withPast delivered received) as).1 =
      (Machine.run step s as).1.withPast delivered received := by
  induction as generalizing s with
  | nil => rfl
  | cons a as ih =>
    have hstep : ((s.withPast delivered received).step a).1 =
        (s.step a).1.withPast delivered received := by
      cases a with
      | worker => exact workerStep_withPast delivered received s
      | irq bytes =>
        simp only [step, foldl_rxByte_withPast]
        simp [withPast]
    rw [Machine.run_cons_fst, Machine.run_cons_fst, hstep, ih]

end Past

theorem idle_withPast_iff {delivered : List (List Bytes)} {received : Bytes} {s : UsbRx} :
    (s.withPast delivered received).Idle ↔ s.Idle := Iff.rfl

/-- What the receive path makes of a line is what it makes of it without a past. -/
theorem AtRest.run_line (h : s.AtRest) (as : List RxAction)
    (hfit : (stream as).length < usbTtyRxLineSize)
    (hone : (completeLines (stream as)).length ≤ 1) :
    ∃ s' : UsbRx, s'.Inv ∧ s'.received = stream as ∧
      (Machine.run UsbRx.step s as).1 = s'.withPast s.delivered s.received := by
  obtain ⟨hsubmitted, hhandler⟩ := h.idle
  let fresh : UsbRx := { s with delivered := [], received := [] }
  have hidle : fresh.Idle := h.idle
  have hinv : fresh.Inv := by
    refine ⟨⟨h.rxCallback, h.rxLine, h.bufLength, h.lenLt, ?_, ?_⟩, hidle.drained⟩
    · rintro (hwaits | hbegun)
      · exact absurd (hsubmitted.symm.trans hwaits) (by decide)
      · exact absurd (hhandler.symm.trans hbegun) (by simp)
    · exact fun _ _ hruns => absurd (hhandler.symm.trans hruns) (by simp)
  have hpast : s = fresh.withPast s.delivered s.received := by simp [withPast, fresh]
  obtain ⟨hend, hreceived⟩ :=
    hinv.run_single as (.of_length_le (Nat.le_pred_of_lt hfit)) hone
  refine ⟨(Machine.run UsbRx.step fresh as).1, hend, hreceived, ?_⟩
  rw [← run_withPast, ← hpast]

theorem run_workers (s : UsbRx) (n : Nat) :
    (Machine.run UsbRx.step s (List.replicate n .worker)).1 = workerStep^[n] s := by
  induction n generalizing s with
  | zero => rfl
  | succ n ih => exact ih s.workerStep

section Receive

variable {line : Bytes} (hline : newline ∉ line)

include hline

theorem splitLines_line : splitLines newline [] (line ++ [newline]) = ([line], []) := by
  simp [splitLines_append, splitLines_of_notMem newline hline, splitLines]

theorem completeLines_line (hne : stripCr line ≠ []) :
    completeLines (line ++ [newline]) = [stripCr line] := by
  simp [completeLines, splitLines_line hline, usableLines, hne]

/-- A line that the interrupts bring in any pieces is delivered when the handler has run to
its end, which it does, and the receive path is then between lines again. -/
theorem AtRest.receive (h : s.AtRest) (hlength : line.length + 1 < usbTtyRxLineSize)
    (hne : stripCr line ≠ []) {as : List RxAction} (hstream : stream as = line ++ [newline]) :
    (∃ n, (Machine.run UsbRx.step s (as ++ List.replicate n .worker)).1.Idle) ∧
      ((Machine.run UsbRx.step s as).1.Idle →
        (Machine.run UsbRx.step s as).1.delivered = s.delivered ++ [call (stripCr line)] ∧
          (Machine.run UsbRx.step s as).1.AtRest) := by
  have hlines := completeLines_line hline hne
  obtain ⟨s', hinv, hreceived, hrun⟩ := h.run_line as (by rw [hstream]; simpa using hlength)
    (by rw [hstream, hlines]; simp)
  rw [hstream] at hreceived
  constructor
  · obtain ⟨n, hidle, -⟩ := hinv.1.exists_idle
    refine ⟨n, ?_⟩
    rw [Machine.run_append, hrun]
    rw [← run_workers] at hidle
    simpa only [run_withPast, idle_withPast_iff] using hidle
  · rw [hrun]
    intro hidle
    have hidle' : s'.Idle := hidle
    have hdone : s'.delivered = [call (stripCr line)] := by
      rw [← hidle'.drained, hinv.2, hreceived, hlines, List.map_singleton]
    refine ⟨by rw [withPast, hdone], hinv.1.rxCallback, ?_, hinv.1.bufLength, hinv.1.lenLt, hidle⟩
    rw [withPast, hinv.1.rxLine, hreceived, splitLines_line hline]

end Receive

theorem AtRest.initial : UsbRx.initial.AtRest where
  rxCallback := rfl
  rxLine := rfl
  bufLength := List.length_replicate
  lenLt := by decide
  idle := ⟨rfl, rfl⟩

instance (s : UsbRx) (line : Bytes) : Decidable (s.Keeps line) :=
  match h : s.handler with
  | none => .isTrue (by simp [Keeps, h])
  | some .begun => decidable_of_iff (callText s.completeBuf s.completeLen = line ++ [0])
      (by simp [Keeps, h])
  | some (.calling len _) =>
    decidable_of_iff (callText (copyLine line s.completeBuf) len = callText s.completeBuf len)
      (by simp [Keeps, h])

instance (s : UsbRx) : (a : RxAction) → Decidable (s.OneAtATime a)
  | .irq bytes => inferInstanceAs (Decidable (s.newLines bytes = [] ∨
      ((s.newLines bytes).length = 1 ∧ s.submitted = false ∧
        ∀ line ∈ s.newLines bytes, s.Keeps line)))
  | .worker => .isTrue trivial

/-- A line in two interrupts, delivered after the second. -/
def deliveredRun : List RxAction :=
  [.irq (ascii "A"), .worker, .irq (ascii "T\r\n"), .worker, .worker, .worker, .worker]

theorem delivers_deliveredRun :
    Machine.Along step (fun _ _ s' => s'.Delivers) .initial deliveredRun :=
  (delivers_iff_oneAtATime deliveredRun (.of_length_le (by decide))).mpr (by decide)

/-- Two lines in one interrupt. -/
theorem not_delivers_twoLines :
    LinesFit newline (usbTtyRxLineSize - 1) (stream [.irq (ascii "A\nB\n")]) ∧
      ¬ Machine.Along step (fun _ _ s' => s'.Delivers) .initial [.irq (ascii "A\nB\n")] := by
  have hfit : LinesFit newline (usbTtyRxLineSize - 1) (stream [.irq (ascii "A\nB\n")]) :=
    .of_length_le (by decide)
  refine ⟨hfit, fun h => ?_⟩
  have hwf : (UsbRx.initial.step (.irq (ascii "A\nB\n"))).1.Wf := Wf.initial.irq hfit
  exact absurd (hwf.delivers_iff.mp h.1) (by decide)

end UsbRx

end TempoBt
