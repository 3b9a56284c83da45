-- SUMMARY: Which lines a session file begins with, and the interleavings of the writers with a start that leave the header first.
import TempoBt.Services.Logger.Starting

/-!
# The session header

A file should begin with the `$PVER` and the `$PSFC` line of its session, and none of
its times should be counted from the start of an earlier session. The output callback
stays registered between sessions, so a writer of lines may come before the header.
-/

namespace TempoBt

open Bytes Printf

/-! ## Tags -/

/-- The records of the header, in order. -/
def headerTags : List Bytes := [ascii "$PVER", ascii "$PSFC"]

/-- The records with a time since the start of the session. -/
def timedTags : List Bytes :=
  [ascii "$PTH", ascii "$PIMU", ascii "$PIM2", ascii "$PMAG", ascii "$PENV", ascii "$PST"]

/-- The sentences that are passed on. -/
def passedTypes : List Bytes :=
  [ascii "GGA", ascii "GLL", ascii "VTG", ascii "RMC", ascii "TXT"]

def isTimed (line : Bytes) : Bool := decide (lineTag line ∈ timedTags)

theorem nmeaPassthroughCallback_tag (now : UInt64) (sentence : Bytes) (a : Aggregator) :
    ∀ line ∈ (nmeaPassthroughCallback now sentence a).2,
      lineTag line ∈ timedTags ∨ sentenceType line ∈ passedTypes := by
  intro line hline
  unfold nmeaPassthroughCallback at hline
  split at hline
  · simp at hline
  · simp only at hline
    split at hline
    · split at hline
      · rename_i htype
        rcases List.mem_cons.mp hline with rfl | hline
        · right
          rcases htype with h | h <;> simp [h, passedTypes]
        · obtain ⟨pth, hpth, htag⟩ := pthLine_tag (logGetTimestampMs now a.config.sessionStartUs)
          left
          simp only [hpth, List.mem_singleton] at hline
          rw [hline, htag]
          decide
      · split at hline
        · rename_i htype
          obtain rfl : line = sentence := by simpa using hline
          right
          rcases htype with h | h | h <;> simp [h, passedTypes]
        · simp at hline
    · simp at hline

theorem imuOutputHandler_tag (r : ImuReadings) (a : Aggregator) :
    ∀ line ∈ (imuOutputHandler r a).2, lineTag line ∈ timedTags := by
  intro line hline
  unfold imuOutputHandler at hline
  simp only at hline
  split at hline
  · simp at hline
  · rcases List.mem_append.mp hline with hline | hline
    · rcases List.mem_append.mp hline with hline | hline
      · rw [(pimuLines_tag _ r.imu line hline).1]
        decide
      · rw [(pim2Lines_tag _ r.quat _ line hline).1]
        decide
    · rw [pmagLines_tag _ r.mag _ line hline]
      decide

/-- A call writes records with a time, or passes a sentence on. -/
theorem OutputCall.run_tag (c : OutputCall) (d : Device) :
    ∀ line ∈ (c.run d).2, lineTag line ∈ timedTags ∨ sentenceType line ∈ passedTypes := by
  intro line hline
  cases c with
  | nmea now sentence => exact nmeaPassthroughCallback_tag now sentence d.aggregator line hline
  | imu r => exact .inl (imuOutputHandler_tag r d.aggregator line hline)
  | env now =>
    left
    rw [envOutputHandler_tag now d.aggregator line hline]
    decide
  | stateChange now oldState newState trigger =>
    left
    rw [pstLine_tag now _ _ _ d.aggregator line hline]
    decide
  | flush w => simp [run] at hline

/-- So no call writes what could be taken for a line of the header. -/
theorem OutputCall.run_notHeader (c : OutputCall) (d : Device) :
    ∀ line ∈ (c.run d).2, lineTag line ∉ headerTags := by
  intro line hline htag
  rcases c.run_tag d line hline with htimed | htype
  · have hdisjoint : ∀ tag ∈ headerTags, tag ∉ timedTags := by decide
    exact hdisjoint _ htag htimed
  · have hthird : ∀ tag ∈ headerTags, ∃ c ∈ tag[3]?, ∀ t ∈ passedTypes, t.head? ≠ some c := by
      decide
    obtain ⟨c, hc, hne⟩ := hthird _ htag
    exact hne _ htype (sentenceType_head?_of_tag hc)

/-! ## The property -/

/-- A line of the log, by its record and the session it was timed in. -/
def OutputLine.record (l : OutputLine) : Bytes × Nat := (lineTag l.line, l.session)

/-- The header that the file of a session begins with. -/
def headerOf (session : Nat) : List (Bytes × Nat) := headerTags.map fun tag => (tag, session)

/-- The file opened last begins with its header, as far as it was written, and has no
time of an earlier session. -/
structure HeaderFirst (s : SessionLog) : Prop where
  header : (s.logging.log.take 2).map OutputLine.record <+: headerOf s.fileSession
  complete : s.started = true → 2 ≤ s.logging.log.length
  timed : ∀ l ∈ s.logging.log, isTimed l.line = true → s.fileSession ≤ l.session

/-- The step of a start that comes next. -/
def nextStart : List SessionStep → Option StartStep
  | .start p :: _ => some p
  | _ => none

/-- After the opening of the file, and not after the end of its header. -/
def StartStep.isOpening : StartStep → Bool
  | .configure k | .registerCallback k | .writeVersion k | .writeSurfaceAltitude k =>
    k.callback == .toFile
  | .openOutput _ | .startAggregator _ => false

/-- A start has a file open whose header it is still to write. -/
def opening (code : List SessionStep) : Bool := (nextStart code).any StartStep.isOpening

/-- The line that a step hands over, if any. -/
def SessionStep.line? : SessionStep → Option OutputLine
  | .output (.output l) => some l
  | _ => none

/-- A line that is accepted comes when no start is still to write its header, and if
it has a time, this was taken since the session of the file was configured. -/
def KeepsHeader {ι : Type*} (t : Threads (Option ι) SessionLog SessionStep) :
    SessionAction ι → Prop
  | .advance o =>
    ∀ l ∈ (t.code o).head?.bind SessionStep.line?,
      t.shared.logging.device.accepts l.line = true →
        opening (t.code none) = false ∧
          (isTimed l.line = true → t.shared.fileSession ≤ l.session)
  | _ => True

instance {ι : Type*} (t : Threads (Option ι) SessionLog SessionStep) (a : SessionAction ι) :
    Decidable (KeepsHeader t a) :=
  match a with
  | .advance o => inferInstanceAs (Decidable (∀ l ∈ (t.code o).head?.bind _, _ = true → _ ∧ _))
  | .handler _ => .isTrue trivial
  | .writer _ _ => .isTrue trivial

theorem HeaderFirst.tag_mem {s : SessionLog} (h : HeaderFirst s) {l : OutputLine}
    (hl : l ∈ s.logging.log.take 2) : lineTag l.line ∈ headerTags := by
  have hrecord := h.header.subset (List.mem_map_of_mem (f := OutputLine.record) hl)
  obtain ⟨tag, htag, heq⟩ := List.mem_map.mp hrecord
  rw [← (Prod.mk.inj heq).1]
  exact htag

/-- The file is open and has the first `n` lines of its header, and nothing else. -/
structure Opened (s : SessionLog) (n : Nat) : Prop where
  fileOpen : s.logging.device.fileWriter.fileOpen = true
  ring : s.logging.device.fileWriter.ring.size ≤ 128 * n
  log : s.logging.log.map OutputLine.record = (headerOf s.fileSession).take n
  notStarted : s.started = false

namespace Opened

variable {s : SessionLog} {n : Nat}

theorem length_log (h : Opened s n) (hn : n ≤ 2) : s.logging.log.length = n := by
  have hlength := congrArg List.length h.log
  simp only [List.length_map, headerOf, List.length_take, headerTags, List.length_cons,
    List.length_nil] at hlength
  omega

theorem headerFirst (h : Opened s n) (hn : n ≤ 2) : HeaderFirst s where
  header := by
    rw [List.take_of_length_le (by rw [h.length_log hn]; exact hn), h.log]
    exact List.take_prefix n _
  complete hstarted := by
    rw [h.notStarted] at hstarted
    contradiction
  timed l hl htimed := by
    have hrecord := List.mem_map_of_mem (f := OutputLine.record) hl
    rw [h.log] at hrecord
    obtain ⟨tag, htag, heq⟩ := List.mem_map.mp (List.mem_of_mem_take hrecord)
    have hdisjoint : ∀ tag ∈ headerTags, tag ∉ timedTags := by decide
    rw [isTimed, decide_eq_true_eq, show lineTag l.line = tag from (Prod.mk.inj heq).1.symm]
      at htimed
    exact absurd htimed (hdisjoint tag htag)

end Opened

/-- What has come before a step of a start. -/
def StartStep.Ready (s : SessionLog) : StartStep → Prop
  | .openOutput _ => True
  | .configure k =>
    k.callback = .toFile → Opened s 0 ∧ s.fileSession = s.logging.sessions + 1
  | .registerCallback k =>
    k.callback = .toFile → Opened s 0 ∧ s.fileSession = s.logging.sessions
  | .writeVersion k =>
    s.logging.device.aggregator.outputCallback = some k.callback ∧
      (k.callback = .toFile → Opened s 0 ∧ s.fileSession = s.logging.sessions)
  | .writeSurfaceAltitude k =>
    s.logging.device.aggregator.outputCallback = some k.callback ∧
      (k.callback = .toFile → Opened s 1 ∧ s.fileSession = s.logging.sessions)
  | .startAggregator k => k.callback = .toFile → 2 ≤ s.logging.log.length

def SessionStep.isStart : SessionStep → Bool
  | .start _ => true
  | _ => false

/-- In the code of a handler only the next step may be one of a start, and then it is
ready. -/
structure CodeReady (s : SessionLog) (code : List SessionStep) : Prop where
  next : ∀ p ∈ nextStart code, p.Ready s
  rest : ∀ q ∈ code.tail, q.isStart = false

/-- The log and the code of the handlers between steps. -/
structure HeaderState (version : AppVersion) (s : SessionLog) (code : List SessionStep) :
    Prop where
  header : HeaderFirst s
  version : s.logging.device.version = version
  ready : CodeReady s code
  /-- An open file that no start is about to write to has its header. -/
  written : s.logging.device.fileWriter.fileOpen = true → opening code = false →
    2 ≤ s.logging.log.length

/-! ## What the writers leave alone -/

theorem doFlush_size_le (w : FsWrite) (s : FileWriter) :
    (doFlush w s).1.ring.size ≤ s.ring.size := by
  cases hopen : s.fileOpen with
  | false => simp [doFlush, hopen]
  | true =>
    by_cases hring : s.ring.items = []
    · rw [doFlush_empty hopen hring]
    · rw [Fifo.size, (doFlush_nonempty hopen hring).1, List.length_drop]
      exact Nat.sub_le _ _

theorem writerThreadStep_fileOpen (w : FsWrite) (s : FileWriter) :
    (writerThreadStep w s).fileOpen = s.fileOpen := by
  unfold writerThreadStep
  simp only
  split
  · exact doFlush_fileOpen w _
  · rfl

theorem writerThreadStep_size_le (w : FsWrite) (s : FileWriter) :
    (writerThreadStep w s).ring.size ≤ s.ring.size := by
  unfold writerThreadStep
  simp only
  split
  · exact doFlush_size_le w { s with dataReady := false }
  · exact le_rfl

/-- A step that neither the log nor a start sees. -/
structure Aside (s s' : SessionLog) : Prop where
  log : s'.logging.log = s.logging.log
  sessions : s'.logging.sessions = s.logging.sessions
  fileSession : s'.fileSession = s.fileSession
  started : s'.started = s.started
  version : s'.logging.device.version = s.logging.device.version
  callback : s'.logging.device.aggregator.outputCallback =
    s.logging.device.aggregator.outputCallback
  fileOpen : s'.logging.device.fileWriter.fileOpen = s.logging.device.fileWriter.fileOpen
  ring : s'.logging.device.fileWriter.ring.size ≤ s.logging.device.fileWriter.ring.size

namespace Aside

variable {s s' : SessionLog} {code : List SessionStep}

theorem headerFirst (h : Aside s s') (hs : HeaderFirst s) : HeaderFirst s' where
  header := by
    rw [h.log, h.fileSession]
    exact hs.header
  complete := by
    rw [h.log, h.started]
    exact hs.complete
  timed := by
    rw [h.log, h.fileSession]
    exact hs.timed

theorem opened {n : Nat} (h : Aside s s') (hs : Opened s n) : Opened s' n where
  fileOpen := h.fileOpen.trans hs.fileOpen
  ring := h.ring.trans hs.ring
  log := by
    rw [h.log, h.fileSession]
    exact hs.log
  notStarted := h.started.trans hs.notStarted

/-- The file stays open for the session that is `m` after the configured ones. -/
theorem openedFor {n m : Nat} (h : Aside s s')
    (hs : Opened s n ∧ s.fileSession = s.logging.sessions + m) :
    Opened s' n ∧ s'.fileSession = s'.logging.sessions + m := by
  refine ⟨h.opened hs.1, ?_⟩
  rw [h.fileSession, h.sessions]
  exact hs.2

theorem ready {p : StartStep} (h : Aside s s') (hp : p.Ready s) : p.Ready s' := by
  cases p with
  | openOutput k => trivial
  | configure k => exact fun hk => h.openedFor (hp hk)
  | registerCallback k => exact fun hk => h.openedFor (m := 0) (hp hk)
  | writeVersion k => exact ⟨h.callback.trans hp.1, fun hk => h.openedFor (m := 0) (hp.2 hk)⟩
  | writeSurfaceAltitude k =>
    exact ⟨h.callback.trans hp.1, fun hk => h.openedFor (m := 0) (hp.2 hk)⟩
  | startAggregator k =>
    intro hk
    rw [h.log]
    exact hp hk

theorem codeReady (h : Aside s s') (hcode : CodeReady s code) : CodeReady s' code where
  next p hp := h.ready (hcode.next p hp)
  rest := hcode.rest

theorem headerState {version : AppVersion} (h : Aside s s') (hs : HeaderState version s code) :
    HeaderState version s' code where
  header := h.headerFirst hs.header
  version := h.version.trans hs.version
  ready := h.codeReady hs.ready
  written := by
    rw [h.fileOpen, h.log]
    exact hs.written

end Aside

theorem nmeaPassthroughCallback_callback (now : UInt64) (sentence : Bytes) (a : Aggregator) :
    (nmeaPassthroughCallback now sentence a).1.outputCallback = a.outputCallback := by
  unfold nmeaPassthroughCallback
  simp only
  split_ifs <;> rfl

/-- The beginning of a call computes its lines. -/
theorem aside_begin (s : SessionLog) (c : OutputCall) :
    Aside s (sessionExec s (.output (.begin c))).1 := by
  cases c with
  | nmea now sentence =>
    exact ⟨rfl, rfl, rfl, rfl, rfl, nmeaPassthroughCallback_callback _ _ _, rfl, le_rfl⟩
  | imu r => exact ⟨rfl, rfl, rfl, rfl, rfl, rfl, rfl, le_rfl⟩
  | env now => exact ⟨rfl, rfl, rfl, rfl, rfl, rfl, rfl, le_rfl⟩
  | stateChange now oldState newState trigger =>
    exact ⟨rfl, rfl, rfl, rfl, rfl, rfl, rfl, le_rfl⟩
  | flush w =>
    exact ⟨rfl, rfl, rfl, rfl, rfl, rfl, writerThreadStep_fileOpen w _,
      writerThreadStep_size_le w _⟩

namespace Device

variable (d : Device) (line : Bytes)

@[simp] theorem outputLine_version : (d.outputLine line).version = d.version := by
  unfold outputLine
  split <;> rfl

@[simp] theorem outputLine_fileOpen :
    (d.outputLine line).fileWriter.fileOpen = d.fileWriter.fileOpen :=
  congrArg Flags.fileOpen (d.outputLine_flags line)

/-- A line that the file writer does not take leaves the ring. -/
theorem outputLine_refused (h : d.accepts line = false) :
    (d.outputLine line).fileWriter.ring = d.fileWriter.ring := by
  unfold outputLine
  split
  · rfl
  · rename_i hcallback
    rcases fileWriterWrite_cases line d.fileWriter with ⟨hret, -⟩ | ⟨-, hring⟩
    · simp [accepts, hcallback, hret] at h
    · exact hring
  · rfl

/-- A line that fits into the ring of an open file is taken. -/
theorem accepts_of_fits (hcallback : d.aggregator.outputCallback = some .toFile)
    (hopen : d.fileWriter.fileOpen = true) (hline : 0 < line.length)
    (hfits : line.length ≤ d.fileWriter.ring.space) : d.accepts line = true := by
  obtain ⟨ready, hwrite⟩ :=
    fileWriterWrite_accepted hopen (List.length_pos_iff.mp hline) hfits
  simp [accepts, hcallback, hwrite]

theorem outputLine_accepted (h : d.accepts line = true) :
    (d.outputLine line).fileWriter.ring.items = d.fileWriter.ring.items ++ line := by
  obtain ⟨hcallback, hret⟩ : d.aggregator.outputCallback = some .toFile ∧
      (fileWriterWrite line d.fileWriter).2 = 0 := by simpa [accepts] using h
  rcases fileWriterWrite_cases line d.fileWriter with ⟨-, -, hring⟩ | ⟨hne, -⟩
  · simp only [outputLine, hcallback]
    exact hring
  · exact absurd hret hne

end Device

theorem aside_refused (s : SessionLog) {l : OutputLine}
    (h : s.logging.device.accepts l.line = false) :
    Aside s { s with logging := s.logging.output l } where
  log := by simp [Logging.output, h]
  sessions := rfl
  fileSession := rfl
  started := rfl
  version := s.logging.device.outputLine_version l.line
  callback := by simp [Logging.output]
  fileOpen := s.logging.device.outputLine_fileOpen l.line
  ring := by
    have hring := s.logging.device.outputLine_refused l.line h
    simp [Logging.output, hring]

/-! ## Accepted lines -/

section Accepted

variable {s : SessionLog} {l : OutputLine}

theorem Device.accepts_fileOpen {d : Device} {line : Bytes} (h : d.accepts line = true) :
    d.fileWriter.fileOpen = true := by
  have hret : (fileWriterWrite line d.fileWriter).2 = 0 := by
    simp only [accepts, Bool.and_eq_true, beq_iff_eq] at h
    exact h.2
  rcases fileWriterWrite_cases line d.fileWriter with ⟨-, hopen, -⟩ | ⟨hne, -⟩
  · exact hopen
  · exact absurd hret hne

theorem output_log (h : s.logging.device.accepts l.line = true) :
    (s.logging.output l).log = s.logging.log ++ [l] := by
  simp [Logging.output, h]

theorem StartStep.ready_of_accepted {p : StartStep} (hp : p.Ready s)
    (hopening : p.isOpening = false) (h : s.logging.device.accepts l.line = true) :
    p.Ready { s with logging := s.logging.output l } := by
  have hcallback : (s.logging.device.outputLine l.line).aggregator.outputCallback =
      s.logging.device.aggregator.outputCallback := by simp
  have hnotFile {k : Starting} (hk : (k.callback == .toFile) = false) : k.callback ≠ .toFile := by
    simpa using hk
  cases p with
  | openOutput k => trivial
  | configure k => exact fun hk => absurd hk (hnotFile hopening)
  | registerCallback k => exact fun hk => absurd hk (hnotFile hopening)
  | writeVersion k => exact ⟨hcallback.trans hp.1, fun hk => absurd hk (hnotFile hopening)⟩
  | writeSurfaceAltitude k =>
    exact ⟨hcallback.trans hp.1, fun hk => absurd hk (hnotFile hopening)⟩
  | startAggregator k =>
    intro hk
    have hlog := hp hk
    simp only [output_log h, List.length_append]
    omega

/-- An accepted line that meets the condition comes after the header. -/
theorem HeaderState.accepted {version : AppVersion} {code : List SessionStep}
    (h : HeaderState version s code) (haccept : s.logging.device.accepts l.line = true)
    (hopening : opening code = false)
    (htimed : isTimed l.line = true → s.fileSession ≤ l.session) :
    HeaderState version { s with logging := s.logging.output l } code := by
  have hlog := output_log haccept
  have hwritten := h.written (Device.accepts_fileOpen haccept) hopening
  exact
    { header :=
        { header := by
            simp only [hlog, List.take_append_of_le_length hwritten]
            exact h.header.header
          complete := fun _ => by
            simp only [hlog, List.length_append]
            omega
          timed := fun l' hl' htimed' => by
            simp only [hlog, List.mem_append, List.mem_singleton] at hl'
            rcases hl' with hl' | rfl
            · exact h.header.timed l' hl' htimed'
            · exact htimed htimed' }
      version := (s.logging.device.outputLine_version l.line).trans h.version
      ready :=
        { next := fun p hp => by
            refine StartStep.ready_of_accepted (h.ready.next p hp) ?_ haccept
            simpa [opening, Option.mem_def.mp hp] using hopening
          rest := h.ready.rest }
      written := fun _ _ => by
        simp only [hlog, List.length_append]
        omega }

/-- Before its header is complete the file has none or the first line of it. -/
theorem HeaderState.opened {version : AppVersion} {code : List SessionStep}
    (h : HeaderState version s code) (hopening : opening code = true) :
    ∃ n, n < 2 ∧ Opened s n := by
  obtain ⟨p, hp, hisOpening⟩ := (Option.any_eq_true ..).mp hopening
  have hready := h.ready.next p hp
  have hfile {k : Starting} (hk : (k.callback == .toFile) = true) : k.callback = .toFile := by
    simpa using hk
  cases p with
  | openOutput k => simp [StartStep.isOpening] at hisOpening
  | configure k => exact ⟨0, by omega, (hready (hfile hisOpening)).1⟩
  | registerCallback k => exact ⟨0, by omega, (hready (hfile hisOpening)).1⟩
  | writeVersion k => exact ⟨0, by omega, (hready.2 (hfile hisOpening)).1⟩
  | writeSurfaceAltitude k => exact ⟨1, by omega, (hready.2 (hfile hisOpening)).1⟩
  | startAggregator k => simp [StartStep.isOpening] at hisOpening

/-- Any other accepted line breaks the beginning of the file, or has a time of an
earlier session. -/
theorem HeaderState.not_headerFirst {version : AppVersion} {code : List SessionStep}
    (h : HeaderState version s code) (haccept : s.logging.device.accepts l.line = true)
    (htag : lineTag l.line ∉ headerTags)
    (hbreak : ¬ (opening code = false ∧ (isTimed l.line = true → s.fileSession ≤ l.session))) :
    ¬ HeaderFirst { s with logging := s.logging.output l } := by
  intro hheader
  have hlog := output_log haccept
  refine hbreak ⟨?_, fun htimed => hheader.timed l (by simp [hlog]) htimed⟩
  by_contra hopening
  obtain ⟨n, hn, hopened⟩ := h.opened (by simpa using hopening)
  have hlength := hopened.length_log (by omega)
  refine htag (hheader.tag_mem ?_)
  simp only [hlog]
  rw [List.take_of_length_le (by simp only [List.length_append, List.length_singleton]; omega)]
  simp

end Accepted

/-! ## Steps of a start -/

section Start

variable {version : AppVersion} {s : SessionLog} {rest : List SessionStep}

theorem HeaderFirst.setDevice (h : HeaderFirst s) (d : Device) : HeaderFirst (s.setDevice d) :=
  ⟨h.header, h.complete, h.timed⟩

theorem nextStart_eq_none {code : List SessionStep} (h : ∀ q ∈ code, q.isStart = false) :
    nextStart code = none := by
  cases code with
  | nil => rfl
  | cons q rest =>
    cases q with
    | start p => simpa [SessionStep.isStart] using h (.start p) (by simp)
    | output p => rfl
    | instr i => rfl

/-- No start is under way. -/
theorem HeaderState.of_noStart {code : List SessionStep} (header : HeaderFirst s)
    (hversion : s.logging.device.version = version) (hcode : ∀ q ∈ code, q.isStart = false)
    (hwritten : s.logging.device.fileWriter.fileOpen = true → 2 ≤ s.logging.log.length) :
    HeaderState version s code where
  header := header
  version := hversion
  ready :=
    { next := fun p hp => by simp [nextStart_eq_none hcode] at hp
      rest := fun q hq => hcode q (List.mem_of_mem_tail hq) }
  written hopen _ := hwritten hopen

/-- A start comes to its step `p`. -/
theorem HeaderState.of_start {p : StartStep} (header : HeaderFirst s)
    (hversion : s.logging.device.version = version) (hp : p.Ready s)
    (hrest : ∀ q ∈ rest, q.isStart = false)
    (hwritten : p.isOpening = false → s.logging.device.fileWriter.fileOpen = true →
      2 ≤ s.logging.log.length) : HeaderState version s (.start p :: rest) where
  header := header
  version := hversion
  ready :=
    { next := fun p' hp' => by
        obtain rfl := Option.some.inj hp'
        exact hp
      rest := hrest }
  written hopen hopening := hwritten (by simpa [opening, nextStart] using hopening) hopen

/-- A line of the header is written to the open file, or to the terminal. -/
theorem write_header {k : Starting} {n : Nat} {line : Bytes}
    (hcallback : s.logging.device.aggregator.outputCallback = some k.callback)
    (hopened : k.callback = .toFile → Opened s n ∧ s.fileSession = s.logging.sessions)
    (htag : headerTags[n]? = some (lineTag line)) (hpos : 0 < line.length)
    (hlen : line.length ≤ 128) :
    (k.callback = .toFile → Opened { s with logging := s.logging.write [line] } (n + 1)) ∧
      (k.callback ≠ .toFile → Aside s { s with logging := s.logging.write [line] }) := by
  have hn : n < 2 := (List.getElem?_eq_some_iff.mp htag).1
  refine ⟨fun hk => ?_, fun hk => ?_⟩
  · obtain ⟨hopened, hsession⟩ := hopened hk
    rw [hk] at hcallback
    have hring := hopened.ring
    have haccept : s.logging.device.accepts line = true := by
      refine s.logging.device.accepts_of_fits line hcallback hopened.fileOpen hpos ?_
      unfold Fifo.space
      have hsize : ringBufferSize = 8192 := rfl
      omega
    have hitems := s.logging.device.outputLine_accepted line haccept
    exact
      { fileOpen := (s.logging.device.outputLine_fileOpen line).trans hopened.fileOpen
        ring := by
          change (s.logging.device.outputLine line).fileWriter.ring.items.length ≤ _
          rw [hitems, List.length_append]
          change s.logging.device.fileWriter.ring.size + _ ≤ _
          omega
        log := by
          change (s.logging.output ⟨s.logging.calls, 0, s.logging.sessions, line⟩).log.map _ = _
          rw [output_log haccept, List.map_append, hopened.log, List.take_add_one]
          simp [OutputLine.record, headerOf, htag, hsession]
        notStarted := hopened.notStarted }
  · refine aside_refused s (l := ⟨s.logging.calls, 0, s.logging.sessions, line⟩) ?_
    simp [Device.accepts, hcallback, hk]

namespace HeaderState

theorem rest_isStart {q : SessionStep} (h : HeaderState version s (q :: rest)) :
    ∀ q ∈ rest, q.isStart = false := h.ready.rest

theorem startReady {p : StartStep} (h : HeaderState version s (.start p :: rest)) : p.Ready s :=
  h.ready.next p rfl

/-- Unless a start is to write to the file, its header was written. -/
theorem written_of_start {p : StartStep} (h : HeaderState version s (.start p :: rest))
    (hp : p.isOpening = false) :
    s.logging.device.fileWriter.fileOpen = true → 2 ≤ s.logging.log.length :=
  fun hopen => h.written hopen (by simpa [opening, nextStart] using hp)

theorem openOutput {k : Starting} (h : HeaderState version s (.start (.openOutput k) :: rest)) :
    HeaderState version (execStart s (.openOutput k)).1
      ((execStart s (.openOutput k)).2 ++ rest) := by
  have hrest := h.rest_isStart
  cases k with
  | sd reason e caller =>
    by_cases hfile : (s.logging.device.openFile e.file).2 = 0
    · obtain ⟨contents, -, hopen, -, hring, -⟩ := fileWriterOpen_ok hfile
      have hopened : Opened
          { logging := { s.logging with device := (s.logging.device.openFile e.file).1, log := [] }
            fileSession := s.logging.sessions + 1
            started := false } 0 :=
        { fileOpen := hopen
          ring := by
            change (fileWriterOpen e.file s.logging.device.fileWriter).1.ring.items.length ≤ _
            simp [hring]
          log := rfl
          notStarted := rfl }
      simp only [execStart]
      rw [if_neg (not_not.mpr hfile)]
      exact .of_start (hopened.headerFirst (by omega)) h.version (fun _ => ⟨hopened, rfl⟩) hrest
        (fun hk => by simp [StartStep.isOpening, Starting.callback] at hk)
    · simp only [execStart]
      rw [if_pos hfile]
      refine .of_noStart (h.header.setDevice _) h.version ?_ (fun hopen => ?_)
      · simpa [startReturned, SessionStep.isStart] using hrest
      · rw [SessionLog.setDevice_device, Device.openFile, fileWriterOpen_error hfile] at hopen
        contradiction
  | usb e =>
    have hwritten := h.written_of_start rfl
    simp only [execStart]
    split
    · exact .of_noStart (h.header.setDevice _) h.version hrest hwritten
    · exact .of_start (h.header.setDevice _) h.version
        (fun hk => by simp [Starting.callback] at hk) hrest (fun _ => hwritten)

theorem configure {k : Starting} (h : HeaderState version s (.start (.configure k) :: rest)) :
    HeaderState version (execStart s (.configure k)).1
      ((execStart s (.configure k)).2 ++ rest) := by
  refine .of_start ⟨h.header.header, h.header.complete, h.header.timed⟩ h.version (fun hk => ?_)
    h.rest_isStart (fun hp => h.written_of_start hp)
  obtain ⟨hopened, hsession⟩ := h.startReady hk
  exact ⟨⟨hopened.fileOpen, hopened.ring, hopened.log, hopened.notStarted⟩, hsession⟩

theorem registerCallback {k : Starting}
    (h : HeaderState version s (.start (.registerCallback k) :: rest)) :
    HeaderState version (execStart s (.registerCallback k)).1
      ((execStart s (.registerCallback k)).2 ++ rest) := by
  refine .of_start (h.header.setDevice _) h.version ⟨rfl, fun hk => ?_⟩
    h.rest_isStart (fun hp => h.written_of_start hp)
  obtain ⟨hopened, hsession⟩ := h.startReady hk
  exact ⟨⟨hopened.fileOpen, hopened.ring, hopened.log, hopened.notStarted⟩, hsession⟩

/-- A line of the header keeps the beginning of the file. -/
theorem write {k : Starting} {p : StartStep} {n : Nat} {line : Bytes}
    (h : HeaderState version s (.start p :: rest)) (hp : p.isOpening = (k.callback == .toFile))
    (hcallback : s.logging.device.aggregator.outputCallback = some k.callback)
    (hopened : k.callback = .toFile → Opened s n ∧ s.fileSession = s.logging.sessions)
    (htag : headerTags[n]? = some (lineTag line)) (hpos : 0 < line.length)
    (hlen : line.length ≤ 128) :
    HeaderFirst { s with logging := s.logging.write [line] } ∧
      (k.callback = .toFile → Opened { s with logging := s.logging.write [line] } (n + 1)) ∧
      (k.callback ≠ .toFile → s.logging.device.fileWriter.fileOpen = true →
        2 ≤ (s.logging.write [line]).log.length) := by
  have hn : n < 2 := (List.getElem?_eq_some_iff.mp htag).1
  obtain ⟨hfile, haside⟩ := write_header hcallback hopened htag hpos hlen
  by_cases hk : k.callback = .toFile
  · exact ⟨(hfile hk).headerFirst hn, hfile, fun hne => absurd hk hne⟩
  · refine ⟨(haside hk).headerFirst h.header, hfile, fun _ hopen => ?_⟩
    have hlog : (s.logging.write [line]).log = s.logging.log := (haside hk).log
    rw [hlog]
    exact h.written_of_start (by simpa [hp] using hk) hopen

theorem write_fileOpen (lines : List Bytes) (l : Logging) :
    (l.write lines).device.fileWriter.fileOpen = l.device.fileWriter.fileOpen := by
  rw [Logging.write_device]
  exact congrArg Flags.fileOpen (l.device.outputLines_flags lines)

theorem writeVersion {k : Starting} (hv : IsInt version.numeric)
    (h : HeaderState version s (.start (.writeVersion k) :: rest)) :
    HeaderState version (execStart s (.writeVersion k)).1
      ((execStart s (.writeVersion k)).2 ++ rest) := by
  obtain ⟨hcallback, hopened⟩ := h.startReady
  obtain ⟨line, hline, htag, hpos, hlen⟩ := aggregatorWriteVersion_tag
    (v := s.logging.device.version) (a := s.logging.device.aggregator) (by rw [h.version]; exact hv)
    (by rw [hcallback]; rfl)
  obtain ⟨hheader, hfile, htty⟩ :=
    h.write (k := k) rfl hcallback hopened (n := 0) (by rw [htag]; rfl) hpos hlen
  simp only [execStart, hline]
  refine .of_start hheader ?_ ⟨?_, fun hk => ⟨hfile hk, (hopened hk).2⟩⟩ h.rest_isStart ?_
  · exact (s.logging.device.outputLine_version line).trans h.version
  · rw [← hcallback]
    exact congrArg Aggregator.outputCallback (s.logging.device.outputLine_aggregator line)
  · intro hp hopen
    rw [write_fileOpen] at hopen
    exact htty (by simpa [StartStep.isOpening] using hp) hopen

theorem writeSurfaceAltitude {k : Starting}
    (h : HeaderState version s (.start (.writeSurfaceAltitude k) :: rest)) :
    HeaderState version (execStart s (.writeSurfaceAltitude k)).1
      ((execStart s (.writeSurfaceAltitude k)).2 ++ rest) := by
  obtain ⟨hcallback, hopened⟩ := h.startReady
  obtain ⟨line, hline, htag, hpos, hlen⟩ := @aggregatorWriteSurfaceAltitude_tag
    (.num (baroGetGroundAltitudePsfc s.logging.device.groundAltitude))
    s.logging.device.aggregator (by rw [hcallback]; rfl)
  obtain ⟨hheader, hfile, htty⟩ :=
    h.write (k := k) rfl hcallback hopened (n := 1) (by rw [htag]; rfl) hpos hlen
  have hwritten (hk : k.callback = .toFile) : 2 ≤ (s.logging.write [line]).log.length :=
    ((hfile hk).length_log le_rfl).ge
  simp only [execStart, hline]
  refine .of_start hheader ?_ hwritten h.rest_isStart ?_
  · exact (s.logging.device.outputLine_version line).trans h.version
  · intro _ hopen
    rw [write_fileOpen] at hopen
    by_cases hk : k.callback = .toFile
    · exact hwritten hk
    · exact htty hk hopen

theorem startAggregator {k : Starting}
    (h : HeaderState version s (.start (.startAggregator k) :: rest)) :
    HeaderState version (execStart s (.startAggregator k)).1
      ((execStart s (.startAggregator k)).2 ++ rest) := by
  have hwritten := h.written_of_start rfl
  have hrest := h.rest_isStart
  cases k with
  | sd reason e caller =>
    have hlog : 2 ≤ s.logging.log.length := h.startReady rfl
    have hheader (d : Device) : HeaderFirst { s.setDevice d with started := true } :=
      ⟨h.header.header, fun _ => hlog, h.header.timed⟩
    simp only [execStart]
    split
    · refine .of_noStart (hheader _) h.version ?_ (fun _ => hlog)
      simpa [startReturned, SessionStep.isStart] using hrest
    · refine .of_noStart (hheader _) h.version ?_ (fun _ => hlog)
      simpa [afterStart, SessionStep.isStart] using hrest
  | usb e =>
    simp only [execStart]
    split
    · exact .of_noStart (h.header.setDevice _) h.version hrest hwritten
    · refine .of_noStart (h.header.setDevice _) h.version ?_ hwritten
      simpa [afterStartUsb, SessionStep.isStart] using hrest

/-- A step of a start keeps the beginning of the file. -/
theorem start {p : StartStep} (hv : IsInt version.numeric)
    (h : HeaderState version s (.start p :: rest)) :
    HeaderState version (execStart s p).1 ((execStart s p).2 ++ rest) := by
  cases p with
  | openOutput k => exact h.openOutput
  | configure k => exact h.configure
  | registerCallback k => exact h.registerCallback
  | writeVersion k => exact h.writeVersion hv
  | writeSurfaceAltitude k => exact h.writeSurfaceAltitude
  | startAggregator k => exact h.startAggregator

end HeaderState

end Start

/-! ## Steps of a handler -/

/-- What a step outside a start leaves alone, but for closing the file. -/
def Device.file (d : Device) : AppVersion × FileWriter := (d.version, d.fileWriter)

section File

variable (d : Device)

theorem groundAltitudeWorkHandler_file (sample : Option ℚ) :
    (d.groundAltitudeWorkHandler sample).file = d.file := by
  unfold Device.groundAltitudeWorkHandler
  split <;> rfl

theorem takeoffDetection_file (climbRate agl : ℚ) :
    (takeoffDetection climbRate agl d).1.file = d.file := by
  unfold takeoffDetection
  split
  · split <;> rfl
  · rfl

theorem baroHandlerUpdate_file (s : BaroReading) : (baroHandlerUpdate s d).1.file = d.file := by
  unfold baroHandlerUpdate
  split
  · rfl
  · simp only
    split
    · rfl
    · split
      · rfl
      · rw [takeoffDetection_file]
        rfl

theorem executiveTick_file (currentState : LoggerState) :
    (d.executiveTick currentState).1.file = d.file := by
  unfold Device.executiveTick
  split
  · rfl
  · cases currentState <;> rfl

theorem execCritical_file {c : Critical} (hsd : ∀ reason e caller, c ≠ .start reason e caller)
    (husb : ∀ e, c ≠ .startUsb e) : (execCritical d c).1.file = d.file := by
  cases c with
  | start reason e caller => exact absurd rfl (hsd reason e caller)
  | startUsb e => exact absurd rfl (husb e)
  | jumped now =>
    simp only [execCritical, loggerJumpedLocked]
    split <;> rfl
  | stop e =>
    simp only [execCritical, loggerStopLocked]
    split <;> rfl
  | arm e => exact groundAltitudeWorkHandler_file _ e.groundSample
  | disarm groundSample =>
    simp only [execCritical, loggerDisarmLocked]
    split <;> rfl

theorem execTeardown_file {p : Teardown} (hclose : ∀ e, p ≠ .closeFile e) :
    (execTeardown d p).1.file = d.file := by
  cases p with
  | closeFile e => exact absurd rfl (hclose e)
  | _ => rfl

theorem execCall_file {c : Call} (hwrite : ∀ now oldState newState trigger,
    c ≠ .writeStateChange now oldState newState trigger) : (execCall d c).1.file = d.file := by
  cases c with
  | writeStateChange now oldState newState trigger =>
    exact absurd rfl (hwrite now oldState newState trigger)
  | gnssSetRate rateHz =>
    simp only [execCall, Device.gnssSetRate]
    split <;> rfl
  | sampleIfIdle sample =>
    simp only [execCall, Device.sampleIfIdle]
    split
    · exact groundAltitudeWorkHandler_file d sample
    · rfl
  | startSampling sample => exact groundAltitudeWorkHandler_file d sample
  | groundAltitudeTimer sample => exact groundAltitudeWorkHandler_file d sample
  | startReturned caller ret => cases caller <;> rfl
  | _ => rfl

theorem execCaller_file (c : Caller) : (execCaller d c).1.file = d.file := by
  cases c with
  | executiveTick currentState e => exact executiveTick_file d currentState
  | baroSample s e => exact baroHandlerUpdate_file d s
  | _ => rfl

end File

section Handlers

variable {version : AppVersion} {s : SessionLog} {rest : List SessionStep}

theorem isStart_map_instr (steps : List Instr) :
    ∀ q ∈ steps.map SessionStep.instr, q.isStart = false := by
  intro q hq
  obtain ⟨i, -, rfl⟩ := List.mem_map.mp hq
  rfl

namespace HeaderState

/-- Between starts the header of an open file was written. -/
theorem written_of_noStart {q : SessionStep} (h : HeaderState version s (q :: rest))
    (hq : q.isStart = false) :
    s.logging.device.fileWriter.fileOpen = true → 2 ≤ s.logging.log.length := by
  refine fun hopen => h.written hopen ?_
  have hnone : nextStart (q :: rest) = none := by
    cases q with
    | start p => simp [SessionStep.isStart] at hq
    | output p => rfl
    | instr i => rfl
  simp [opening, hnone]

/-- A step that sets the device, which opens no file. -/
theorem setDevice {q : SessionStep} {steps : List SessionStep} {d : Device}
    (h : HeaderState version s (q :: rest)) (hq : q.isStart = false)
    (hversion : d.version = s.logging.device.version)
    (hopen : d.fileWriter.fileOpen = true → s.logging.device.fileWriter.fileOpen = true)
    (hsteps : ∀ q ∈ steps, q.isStart = false) :
    HeaderState version (s.setDevice d) (steps ++ rest) := by
  refine .of_noStart (h.header.setDevice d) (hversion.trans h.version) ?_
    (fun hd => h.written_of_noStart hq (hopen hd))
  intro q' hq'
  rcases List.mem_append.mp hq' with hq' | hq'
  · exact hsteps q' hq'
  · exact h.rest_isStart q' hq'

/-- The step ahead makes way for others than of a start. -/
theorem replace {q : SessionStep} {steps : List SessionStep}
    (h : HeaderState version s (q :: rest)) (hq : q.isStart = false)
    (hsteps : ∀ q ∈ steps, q.isStart = false) : HeaderState version s (steps ++ rest) :=
  h.setDevice (d := s.logging.device) hq rfl id hsteps

/-- A start that gets to the opening of its file or terminal has opened nothing yet. -/
theorem begin {k : Starting} {i : Instr} (h : HeaderState version s (.instr i :: rest)) :
    HeaderState version (execBegin s k).1 ((execBegin s k).2 ++ rest) := by
  have hwritten := h.written_of_noStart rfl
  cases k with
  | sd reason e caller =>
    simp only [execBegin]
    split
    · exact h.replace rfl (by simp [startReturned, SessionStep.isStart])
    · split
      · exact h.setDevice rfl rfl id (by simp [startReturned, SessionStep.isStart])
      · exact .of_start (h.header.setDevice _) h.version trivial h.rest_isStart fun _ => hwritten
  | usb e =>
    simp only [execBegin]
    split
    · exact h.replace rfl (by simp)
    · split
      · exact h.replace rfl (by simp)
      · exact .of_start (h.header.setDevice _) h.version trivial h.rest_isStart fun _ => hwritten

theorem instr {i : Instr} (h : HeaderState version s (.instr i :: rest)) :
    HeaderState version (execInstr s i).1 ((execInstr s i).2 ++ rest) := by
  have hfile {d : Device} {steps : List Instr} (hd : d.file = s.logging.device.file) :
      HeaderState version (s.setDevice d) (steps.map .instr ++ rest) := by
    obtain ⟨hversion, hwriter⟩ := Prod.mk.inj hd
    exact h.setDevice rfl hversion (fun hopen => by rwa [← hwriter]) (isStart_map_instr steps)
  cases i with
  | critical c =>
    cases c with
    | start reason e caller => exact h.begin
    | startUsb e => exact h.begin
    | _ => exact hfile (execCritical_file _ (by simp) (by simp))
  | teardown p =>
    cases p with
    | closeFile e =>
      refine h.setDevice rfl rfl (fun hopen => ?_) (isStart_map_instr _)
      have hclosed : (s.logging.device.closeFile e).fileWriter.fileOpen = false :=
        congrArg Flags.fileOpen (s.logging.device.closeFile_flags e)
      exact absurd (hclosed.symm.trans hopen) Bool.false_ne_true
    | _ => exact hfile (execTeardown_file _ (by simp))
  | call c =>
    cases c with
    | writeStateChange now oldState newState trigger =>
      refine h.replace rfl fun q hq => ?_
      obtain rfl := List.mem_singleton.mp hq
      rfl
    | _ => exact hfile (execCall_file _ (by simp))
  | caller c => exact hfile (execCaller_file _ c)

end HeaderState

end Handlers

/-! ## Interleavings -/

section Interleavings

variable {version : AppVersion} {s : SessionLog} {code : List SessionStep}

/-- A step of a writer, if a line that is accepted meets the condition. -/
theorem HeaderState.output (h : HeaderState version s code) {p : OutputStep}
    (hkeep : ∀ l, p = .output l → s.logging.device.accepts l.line = true →
      opening code = false ∧ (isTimed l.line = true → s.fileSession ≤ l.session)) :
    HeaderState version (sessionExec s (.output p)).1 code := by
  cases p with
  | begin c => exact (aside_begin s c).headerState h
  | output l =>
    cases haccept : s.logging.device.accepts l.line with
    | false => exact (aside_refused s haccept).headerState h
    | true =>
      obtain ⟨hopening, htimed⟩ := hkeep l rfl haccept
      exact h.accepted haccept hopening htimed

/-- No line that is still to come could be taken for one of the header. -/
def NoHeaderLine (code : List SessionStep) : Prop :=
  ∀ q ∈ code, ∀ l ∈ q.line?, lineTag l.line ∉ headerTags

theorem noHeaderLine_of_none {code : List SessionStep} (h : ∀ q ∈ code, q.line? = none) :
    NoHeaderLine code := by
  intro q hq l hl
  rw [h q hq] at hl
  simp at hl

theorem code_of_line {code : List SessionStep} {l : OutputLine}
    (hl : l ∈ code.head?.bind SessionStep.line?) : ∃ rest, code = .output (.output l) :: rest := by
  obtain ⟨q, hq, hline⟩ := Option.bind_eq_some_iff.mp hl
  obtain ⟨rest, rfl⟩ := List.head?_eq_some_iff.mp hq
  refine ⟨rest, congrArg (· :: rest) ?_⟩
  unfold SessionStep.line? at hline
  split at hline
  · rw [Option.some.inj hline]
  · contradiction

theorem line_outputSteps {call session index : Nat} {lines : List Bytes} {p : OutputStep}
    (hp : p ∈ outputSteps call session index lines) : ∃ l, p = .output l ∧ l.line ∈ lines := by
  induction lines generalizing index with
  | nil => simp [outputSteps] at hp
  | cons line lines ih =>
    rcases List.mem_cons.mp hp with rfl | hp
    · exact ⟨_, rfl, by simp⟩
    · obtain ⟨l, rfl, hl⟩ := ih hp
      exact ⟨l, rfl, List.mem_cons_of_mem line hl⟩

/-- The steps of a call of a writer are its lines. -/
theorem sessionExec_output (s : SessionLog) (p : OutputStep) :
    ∀ q ∈ (sessionExec s (.output p)).2.1, ∃ l, q = .output (.output l) ∧
      lineTag l.line ∉ headerTags := by
  intro q hq
  cases p with
  | begin c =>
    obtain ⟨p', hp', rfl⟩ := List.mem_map.mp hq
    obtain ⟨l, rfl, hl⟩ := line_outputSteps hp'
    exact ⟨l, rfl, c.run_notHeader s.logging.device l.line hl⟩
  | output l => simp [sessionExec, outputExec] at hq

theorem execBegin_line (s : SessionLog) (k : Starting) :
    ∀ q ∈ (execBegin s k).2, q.line? = none := by
  cases k with
  | sd reason e caller =>
    simp only [execBegin]
    split
    · simp [startReturned, SessionStep.line?]
    · split <;> simp [startReturned, SessionStep.line?]
  | usb e =>
    simp only [execBegin]
    split
    · simp
    · split <;> simp [SessionStep.line?]

theorem map_instr_line (steps : List Instr) :
    ∀ q ∈ steps.map SessionStep.instr, q.line? = none := by
  intro q hq
  obtain ⟨i, -, rfl⟩ := List.mem_map.mp hq
  rfl

theorem execInstr_line (s : SessionLog) (i : Instr) :
    ∀ q ∈ (execInstr s i).2, q.line? = none := by
  cases i with
  | critical c =>
    cases c with
    | start reason e caller => exact execBegin_line s _
    | startUsb e => exact execBegin_line s _
    | _ => exact map_instr_line _
  | teardown p => exact map_instr_line _
  | call c =>
    cases c with
    | writeStateChange now oldState newState trigger =>
      intro q hq
      obtain rfl := List.mem_singleton.mp hq
      rfl
    | _ => exact map_instr_line _
  | caller c => exact map_instr_line _

theorem execStart_line (s : SessionLog) (p : StartStep) :
    ∀ q ∈ (execStart s p).2, q.line? = none := by
  cases p with
  | openOutput k =>
    cases k <;> simp only [execStart] <;> split <;> simp [startReturned, SessionStep.line?]
  | startAggregator k =>
    cases k with
    | sd reason e caller =>
      simp only [execStart]
      split
      · simp [startReturned, SessionStep.line?]
      · exact map_instr_line _
    | usb e =>
      simp only [execStart]
      split
      · simp
      · exact map_instr_line _
  | _ => simp [execStart, SessionStep.line?]

theorem sessionExec_noHeaderLine (s : SessionLog) (p : SessionStep) :
    NoHeaderLine (sessionExec s p).2.1 := by
  cases p with
  | output p =>
    intro q hq l hl
    obtain ⟨l', rfl, hl'⟩ := sessionExec_output s p q hq
    obtain rfl := Option.some.inj hl
    exact hl'
  | start p => exact noHeaderLine_of_none (execStart_line s p)
  | instr i => exact noHeaderLine_of_none (execInstr_line s i)

variable {ι : Type*} [DecidableEq ι]

/-- What is proved along a run. -/
structure HeaderInvariant (version : AppVersion) (t : Threads (Option ι) SessionLog SessionStep) :
    Prop where
  state : HeaderState version t.shared (t.code none)
  writers : ∀ i, ∀ q ∈ t.code (some i), ∃ p, q = .output p
  lines : ∀ o, NoHeaderLine (t.code o)

namespace HeaderInvariant

variable {t : Threads (Option ι) SessionLog SessionStep}

theorem perform_state (hv : IsInt version.numeric) (h : HeaderInvariant version t)
    {o : Option ι} {q : SessionStep} {rest : List SessionStep} (hcode : t.code o = q :: rest)
    (hkeep : KeepsHeader t (.advance o)) :
    HeaderState version (t.perform sessionExec o q rest).shared
      ((t.perform sessionExec o q rest).code none) := by
  have hstate := h.state
  have hline {l : OutputLine} (hq : q = .output (.output l)) :
      l ∈ (t.code o).head?.bind SessionStep.line? := by
    rw [hcode, hq]
    rfl
  cases o with
  | none =>
    rw [Threads.perform_code_self]
    rw [hcode] at hstate
    cases q with
    | start p => exact hstate.start hv
    | instr i => exact hstate.instr
    | output p =>
      have hnew : ∀ q ∈ (sessionExec t.shared (.output p)).2.1, q.isStart = false := by
        intro q hq
        obtain ⟨l, rfl, -⟩ := sessionExec_output t.shared p q hq
        rfl
      refine (hstate.replace rfl hnew).output ?_
      rintro l rfl haccept
      have hnone : nextStart ([] ++ rest) = none := nextStart_eq_none hstate.rest_isStart
      exact ⟨congrArg (Option.any _) hnone, (hkeep l (hline rfl) haccept).2⟩
  | some i =>
    rw [Threads.perform_code_of_ne sessionExec t (Option.some_ne_none i).symm]
    obtain ⟨p, rfl⟩ := h.writers i q (by simp [hcode])
    refine hstate.output ?_
    rintro l rfl haccept
    exact hkeep l (hline rfl) haccept

theorem perform (hv : IsInt version.numeric) (h : HeaderInvariant version t) {o : Option ι}
    {q : SessionStep} {rest : List SessionStep} (hcode : t.code o = q :: rest)
    (hkeep : KeepsHeader t (.advance o)) :
    HeaderInvariant version (t.perform sessionExec o q rest) where
  state := h.perform_state hv hcode hkeep
  writers i q' hq' := by
    rcases Threads.mem_of_perform sessionExec hcode hq' with ⟨rfl, hnew⟩ | hq'
    · obtain ⟨p, rfl⟩ := h.writers i q (by simp [hcode])
      obtain ⟨l, rfl, -⟩ := sessionExec_output t.shared p q' hnew
      exact ⟨_, rfl⟩
    · exact h.writers i q' hq'
  lines o' q' hq' := by
    rcases Threads.mem_of_perform sessionExec hcode hq' with ⟨-, hnew⟩ | hq'
    · exact sessionExec_noHeaderLine t.shared q q' hnew
    · exact h.lines o' q' hq'

/-- A party begins a call. -/
theorem setCode (h : HeaderInvariant version t) {o : Option ι} (hidle : t.code o = [])
    {steps : List SessionStep} (hline : ∀ q ∈ steps, q.line? = none)
    (hstart : ∀ q ∈ steps, q.isStart = false)
    (hwriter : o ≠ none → ∀ q ∈ steps, ∃ p, q = .output p) :
    HeaderInvariant version (t.setCode o steps) where
  state := by
    cases o with
    | none =>
      rw [Threads.setCode_code_self]
      refine .of_noStart h.state.header h.state.version hstart fun hopen => ?_
      exact h.state.written hopen (by rw [hidle]; rfl)
    | some i =>
      rw [Threads.setCode_code_of_ne t (Option.some_ne_none i).symm]
      exact h.state
  writers i q hq := by
    rcases Threads.mem_of_setCode hq with ⟨rfl, hnew⟩ | hq
    · exact hwriter (Option.some_ne_none i) q hnew
    · exact h.writers i q hq
  lines o' q hq := by
    rcases Threads.mem_of_setCode hq with ⟨-, hnew⟩ | hq
    · exact noHeaderLine_of_none hline q hnew
    · exact h.lines o' q hq

theorem step (hv : IsInt version.numeric) (h : HeaderInvariant version t) {a : SessionAction ι}
    (ha : KeepsHeader t a) : HeaderInvariant version (sessionStep t a).1 := by
  cases a with
  | handler c =>
    simp only [sessionStep, SessionAction.toThreads, Threads.step]
    split
    · rename_i hidle
      exact h.setCode (List.isEmpty_iff.mp hidle) (map_instr_line _) (isStart_map_instr _)
        (fun hne => absurd rfl hne)
    · exact h
  | writer i c =>
    simp only [sessionStep, SessionAction.toThreads, Threads.step]
    split
    · rename_i hidle
      refine h.setCode (List.isEmpty_iff.mp hidle) ?_ ?_ ?_ <;>
        simp [sessionEntry, SessionStep.line?, SessionStep.isStart]
    · exact h
  | advance o =>
    simp only [sessionStep, SessionAction.toThreads, Threads.step]
    split
    · exact h
    · rename_i q rest hcode
      exact h.perform hv hcode ha

/-- A line accepted against the condition does not belong where it comes. -/
theorem not_headerFirst (h : HeaderInvariant version t) {a : SessionAction ι}
    (ha : ¬ KeepsHeader t a) : ¬ HeaderFirst (sessionStep t a).1.shared := by
  cases a with
  | handler c => exact absurd trivial ha
  | writer i c => exact absurd trivial ha
  | advance o =>
    simp only [KeepsHeader, not_forall] at ha
    obtain ⟨l, hl, haccept, hbreak⟩ := ha
    obtain ⟨rest, hcode⟩ := code_of_line hl
    have htag := h.lines o (.output (.output l)) (by simp [hcode]) l rfl
    simp only [sessionStep, SessionAction.toThreads, Threads.step, hcode]
    exact h.state.not_headerFirst haccept htag hbreak

end HeaderInvariant

omit [DecidableEq ι] in
/-- At boot there is no file. -/
theorem headerInvariant_atBoot (config : LoggerConfig) (usbEnabled : Bool) (version : AppVersion)
    (first second : Option ℚ) (arm : ArmEnv) :
    HeaderInvariant version
      (sessionsAtBoot (ι := ι) config usbEnabled version first second arm) where
  state := by
    have hinit : (loggerInit config usbEnabled version first second).file =
        (Device.initial config usbEnabled version).file := by
      cases first with
      | none => rfl
      | some m => exact groundAltitudeWorkHandler_file _ second
    have harm (d : Device) : (loggerArm arm d).file = d.file :=
      groundAltitudeWorkHandler_file _ arm.groundSample
    obtain ⟨hversion, hwriter⟩ := Prod.mk.inj ((harm _).trans hinit)
    refine .of_noStart ⟨List.nil_prefix, fun h => ?_, fun l hl => ?_⟩ hversion ?_ fun hopen => ?_
    · simp [sessionsAtBoot] at h
    · simp [sessionsAtBoot] at hl
    · simp [sessionsAtBoot]
    · change (loggerArm arm _).fileWriter.fileOpen = true at hopen
      rw [hwriter] at hopen
      contradiction
  writers i q hq := by simp [sessionsAtBoot] at hq
  lines o q hq := by simp [sessionsAtBoot] at hq

/-- **The header comes first**, in every state of an interleaving, exactly when every
line that is accepted meets the condition. -/
theorem headerFirst_iff (config : LoggerConfig) (usbEnabled : Bool) (version : AppVersion)
    (hv : IsInt version.numeric) (first second : Option ℚ) (arm : ArmEnv)
    (as : List (SessionAction ι)) :
    Machine.Always sessionStep (fun t => HeaderFirst t.shared)
        (sessionsAtBoot config usbEnabled version first second arm) as ↔
      Machine.Guarded sessionStep KeepsHeader
        (sessionsAtBoot config usbEnabled version first second arm) as := by
  refine Machine.always_iff_guarded (I := HeaderInvariant version)
    (fun _ _ h ha => h.step hv ha) (fun _ h => h.state.header)
    (fun _ _ h ha => h.not_headerFirst ha) ?_ as
  exact headerInvariant_atBoot config usbEnabled version first second arm

end Interleavings

/-- Steps of the handler under way, next to one thread that writes. -/
def handlerSteps (n : Nat) : List (SessionAction Unit) := List.replicate n (.advance none)

/-- A first session, started by the button. -/
def firstSession : List (SessionAction Unit) := .handler (.button0 .working) :: handlerSteps 20

def exampleBoot : Threads (Option Unit) SessionLog SessionStep :=
  sessionsAtBoot (loggerCfg false) true ⟨[], [], [], 0⟩ none none .working

theorem headerFirst_firstSession :
    Machine.Always sessionStep (fun t => HeaderFirst t.shared) exampleBoot firstSession := by
  refine (headerFirst_iff (loggerCfg false) true ⟨[], [], [], 0⟩ ?_ none none .working _).mpr ?_
  · unfold IsInt
    decide
  · decide +kernel

/-- A second session, started over BLE after the first was stopped. When it has opened
its file, but not configured the aggregator, a position sentence arrives. -/
def sentenceAtOpen : Threads (Option Unit) SessionLog SessionStep :=
  let e : ControlEnv := ⟨.working, .working, .working, none⟩
  (Machine.run sessionStep exampleBoot
    (firstSession ++ .handler (.control .stop e) :: handlerSteps 20 ++
      .handler (.control .start e) :: handlerSteps 5 ++
      .writer () (.nmea 6000000 exampleGga) :: List.replicate 3 (.advance (some ())) ++
      handlerSteps 20)).1

/-- The file of the second session begins with the sentence, and has the time since the
start of the first session. -/
theorem not_headerFirst_sentenceAtOpen :
    sentenceAtOpen.shared.started = true ∧ ¬ HeaderFirst sentenceAtOpen.shared := by
  obtain ⟨hstarted, hlog⟩ : sentenceAtOpen.shared.started = true ∧
      sentenceAtOpen.shared.logging.log.map OutputLine.record =
        [(ascii "$GNGGA", 1), (ascii "$PTH", 1), (ascii "$PVER", 2), (ascii "$PSFC", 2),
          (ascii "$PST", 2)] := by decide +kernel
  generalize sentenceAtOpen = t at hstarted hlog ⊢
  refine ⟨hstarted, fun h => ?_⟩
  obtain ⟨l, rest, hcons, hl, -⟩ := List.map_eq_cons_iff.mp hlog
  have htag := h.tag_mem (l := l) (by simp [hcons])
  rw [(Prod.mk.inj hl).1] at htag
  revert htag
  decide

end TempoBt
