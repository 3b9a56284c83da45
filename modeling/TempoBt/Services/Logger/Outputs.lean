-- SUMMARY: The calls that write lines as sequences of atomic output callbacks, the log of accepted lines, and whose line comes next.
import TempoBt.Lib.Threads
import TempoBt.Services.Aggregator.Tags
import TempoBt.Services.Device

/-!
# Outputs

Sentences reach the log from several threads: the GNSS thread passes sentences
on, the work handlers write sensor records, and whoever changes the state writes
that. Each line is handed over in one atomic step, which drops it when the
buffer is full. What was accepted is kept in order, with the call that wrote it.
-/

namespace TempoBt

open Bytes Printf

/-! ## Calls and their steps -/

/-- A line on its way to the output callback: the number of the call that writes it,
its place among the lines of that call, and how many sessions were configured when
the call took its time. -/
structure OutputLine where
  call : Nat
  index : Nat
  session : Nat
  line : Bytes
  deriving DecidableEq

/-- The calls that write lines, and the flushes by which the writer thread makes room. -/
inductive OutputCall where
  | nmea (now : UInt64) (sentence : Bytes)
  | imu (r : ImuReadings)
  | env (now : UInt64)
  | stateChange (now : UInt64) (oldState newState : LoggerState) (trigger : Bytes)
  | flush (w : FsWrite)

/-- The device, and the lines of its log: those that the file writer has accepted. -/
structure Logging where
  device : Device
  /-- The calls begun. -/
  calls : Nat
  /-- The sessions configured. -/
  sessions : Nat
  log : List OutputLine

/-- A call up to its first line: the device, and the lines it will write. -/
def OutputCall.run (d : Device) : OutputCall → Device × List Bytes
  | .nmea now sentence =>
    let r := nmeaPassthroughCallback now sentence d.aggregator
    ({ d with aggregator := r.1 }, r.2)
  | .imu r =>
    let r := imuOutputHandler r d.aggregator
    ({ d with aggregator := r.1 }, r.2)
  | .env now =>
    let r := envOutputHandler now d.aggregator
    ({ d with aggregator := r.1 }, r.2)
  | .stateChange now oldState newState trigger =>
    (d, aggregatorWriteStateChange now (stateToString oldState) (stateToString newState) trigger
      d.aggregator)
  | .flush w => ({ d with fileWriter := writerThreadStep w d.fileWriter }, [])

/-- The file writer takes the line. -/
def Device.accepts (d : Device) (line : Bytes) : Bool :=
  d.aggregator.outputCallback == some .toFile && (fileWriterWrite line d.fileWriter).2 == 0

/-- One call of the output callback. -/
def Logging.output (l : OutputLine) (s : Logging) : Logging :=
  { s with
    device := s.device.outputLine l.line
    log := if s.device.accepts l.line then s.log ++ [l] else s.log }

inductive OutputStep where
  | begin (c : OutputCall)
  | output (l : OutputLine)

/-- The lines of a call, from place `index` on. -/
def outputSteps (call session : Nat) : Nat → List Bytes → List OutputStep
  | _, [] => []
  | index, line :: rest =>
    .output ⟨call, index, session, line⟩ :: outputSteps call session (index + 1) rest

def outputEntry (c : OutputCall) : List OutputStep := [.begin c]

def outputExec (s : Logging) : OutputStep → Logging × List OutputStep × Option Empty
  | .begin c =>
    let r := c.run s.device
    ({ s with device := r.1, calls := s.calls + 1 }, outputSteps s.calls s.sessions 0 r.2, none)
  | .output l => (s.output l, [], none)

/-- The line that a party is about to hand over. -/
def nextLine : List OutputStep → Option OutputLine
  | .output l :: _ => some l
  | _ => none

/-! ## What the steps leave alone -/

namespace Device

variable (d : Device)

@[simp] theorem outputLine_aggregator (line : Bytes) :
    (d.outputLine line).aggregator = d.aggregator := by
  unfold outputLine
  split <;> rfl

end Device

@[simp] theorem OutputCall.run_config (c : OutputCall) (d : Device) :
    (c.run d).1.aggregator.config = d.aggregator.config := by
  cases c with
  | nmea now sentence =>
    simp only [run, nmeaPassthroughCallback]
    split
    · rfl
    · split
      · split
        · rfl
        · split <;> rfl
      · rfl
  | imu r => rfl
  | env now => rfl
  | stateChange now oldState newState trigger => rfl
  | flush w => rfl

@[simp] theorem outputExec_config (s : Logging) (p : OutputStep) :
    (outputExec s p).1.device.aggregator.config = s.device.aggregator.config := by
  cases p with
  | begin c => exact c.run_config s.device
  | output l => simp [outputExec, Logging.output]

theorem nextLine_outputSteps (call session index : Nat) (lines : List Bytes) :
    nextLine (outputSteps call session index lines) =
      lines.head?.map fun line => ⟨call, index, session, line⟩ := by
  cases lines <;> rfl

/-! ## Calls of their own -/

/-- A party is idle, is about to begin a call, or has the rest of one still to write,
whose lines keep `Q`. -/
inductive CallCode (Q : List Bytes → Prop) (calls : Nat) : List OutputStep → Prop where
  | idle : CallCode Q calls []
  | begin (c : OutputCall) : CallCode Q calls [.begin c]
  | lines (call session index : Nat) (lines : List Bytes) (hcall : call < calls) (h : Q lines) :
      CallCode Q calls (outputSteps call session index lines)

namespace CallCode

variable {Q : List Bytes → Prop} {calls : Nat} {rest : List OutputStep}

theorem mono {calls' : Nat} {code : List OutputStep} (h : CallCode Q calls code)
    (hle : calls ≤ calls') : CallCode Q calls' code := by
  cases h with
  | idle => exact .idle
  | begin c => exact .begin c
  | lines call session index lines hcall h => exact .lines call session index lines (by omega) h

theorem rest_of_begin {c : OutputCall} (h : CallCode Q calls (.begin c :: rest)) : rest = [] := by
  generalize hcode : OutputStep.begin c :: rest = code at h
  cases h with
  | idle => simp at hcode
  | begin c' => exact (List.cons.inj hcode).2
  | lines call session index lines hcall h => cases lines <;> simp [outputSteps] at hcode

/-- After a line the rest of its call follows. -/
theorem rest_of_output {l : OutputLine} (h : CallCode Q calls (.output l :: rest)) :
    l.call < calls ∧ ∃ lines, rest = outputSteps l.call l.session (l.index + 1) lines ∧
      Q (l.line :: lines) := by
  generalize hcode : OutputStep.output l :: rest = code at h
  cases h with
  | idle => simp at hcode
  | begin c => simp at hcode
  | lines call session index lines hcall h =>
    cases lines with
    | nil => simp [outputSteps] at hcode
    | cons line lines =>
      obtain ⟨hline, rfl⟩ := List.cons.inj hcode
      obtain rfl := OutputStep.output.inj hline
      exact ⟨hcall, lines, rfl, h⟩

theorem call_lt {code : List OutputStep} (h : CallCode Q calls code) {l : OutputLine}
    (hl : l ∈ nextLine code) : l.call < calls := by
  cases h with
  | idle => simp [nextLine] at hl
  | begin c => simp [nextLine] at hl
  | lines call session index lines hcall h =>
    cases lines with
    | nil => simp [nextLine, outputSteps] at hl
    | cons line lines =>
      simp only [nextLine, outputSteps, Option.mem_some_iff] at hl
      rw [← hl]
      exact hcall

end CallCode

section Numbered

variable {ι : Type*} [DecidableEq ι]

/-- Every party is in a call of its own. -/
structure Numbered (Q : List Bytes → Prop) (t : Threads ι Logging OutputStep) : Prop where
  code : ∀ i, CallCode Q t.shared.calls (t.code i)
  own : ∀ i j, ∀ l ∈ nextLine (t.code i), ∀ l' ∈ nextLine (t.code j), l.call = l'.call → i = j

namespace Numbered

variable {Q : List Bytes → Prop} {t : Threads ι Logging OutputStep} {i : ι}

/-- A party that has no line ahead may take up any code of calls. -/
theorem update {t' : Threads ι Logging OutputStep} (h : Numbered Q t)
    (hcalls : t.shared.calls ≤ t'.shared.calls) (hself : CallCode Q t'.shared.calls (t'.code i))
    (hfresh : ∀ l ∈ nextLine (t'.code i),
      t.shared.calls ≤ l.call ∨ ∃ l' ∈ nextLine (t.code i), l'.call = l.call)
    (hothers : ∀ j, j ≠ i → t'.code j = t.code j) : Numbered Q t' where
  code j := by
    by_cases hj : j = i
    · rw [hj]
      exact hself
    · rw [hothers j hj]
      exact (h.code j).mono hcalls
  own j k l hl l' hl' hcall := by
    -- the line of `i`, old or new, is of a call that no other party has
    have hdiffer {j : ι} (hj : j ≠ i) {l l' : OutputLine} (hl : l ∈ nextLine (t'.code j))
        (hl' : l' ∈ nextLine (t'.code i)) : l.call ≠ l'.call := by
      intro hcall
      rw [hothers j hj] at hl
      rcases hfresh l' hl' with hle | ⟨l'', hl'', hsame⟩
      · have hlt := (h.code j).call_lt hl
        omega
      · exact hj (h.own j i l hl l'' hl'' (hcall.trans hsame.symm))
    by_cases hj : j = i
    · by_cases hk : k = i
      · rw [hj, hk]
      · rw [hj] at hl
        exact absurd hcall.symm (hdiffer hk hl' hl)
    · by_cases hk : k = i
      · rw [hk] at hl'
        exact absurd hcall (hdiffer hj hl hl')
      · rw [hothers j hj] at hl
        rw [hothers k hk] at hl'
        exact h.own j k l hl l' hl' hcall

theorem setCode (h : Numbered Q t) (c : OutputCall) : Numbered Q (t.setCode i (outputEntry c)) := by
  refine h.update le_rfl ?_ ?_ (fun j hj => Threads.setCode_code_of_ne t hj _)
  · rw [Threads.setCode_code_self]
    exact .begin c
  · simp [outputEntry, nextLine]

theorem perform (h : Numbered Q t) (hrun : ∀ c : OutputCall, Q (c.run t.shared.device).2)
    (htail : ∀ line lines, Q (line :: lines) → Q lines) {p : OutputStep} {rest : List OutputStep}
    (hcode : t.code i = p :: rest) : Numbered Q (t.perform outputExec i p rest) := by
  have hself := h.code i
  rw [hcode] at hself
  refine h.update ?_ ?_ ?_ (fun j hj => Threads.perform_code_of_ne outputExec t hj p rest)
  · cases p with
    | begin c => exact Nat.le_succ _
    | output l => exact le_rfl
  · cases p with
    | begin c =>
      rw [Threads.perform_code_self, hself.rest_of_begin, List.append_nil]
      exact .lines _ _ _ _ (Nat.lt_succ_self _) (hrun c)
    | output l =>
      obtain ⟨hcall, lines, rfl, hlines⟩ := hself.rest_of_output
      rw [Threads.perform_code_self]
      exact .lines _ _ _ _ hcall (htail _ _ hlines)
  · intro l hl
    rw [Threads.perform_code_self] at hl
    cases p with
    | begin c =>
      rw [hself.rest_of_begin, List.append_nil] at hl
      left
      simp only [outputExec, nextLine_outputSteps, Option.mem_def, Option.map_eq_some_iff] at hl
      obtain ⟨line, -, rfl⟩ := hl
      exact le_rfl
    | output l' =>
      obtain ⟨-, lines, rfl, -⟩ := hself.rest_of_output
      right
      simp only [outputExec, List.nil_append, nextLine_outputSteps, Option.mem_def,
        Option.map_eq_some_iff] at hl
      obtain ⟨line, -, rfl⟩ := hl
      exact ⟨l', by rw [hcode]; rfl, rfl⟩

end Numbered

end Numbered

/-- A position sentence. -/
def exampleGga : Bytes :=
  ascii "$GNGGA,134316.00,3327.50347,N,09622.62352,W,1,12,0.59,258.0,M,-25.6,M,,*71\r\n"

end TempoBt
