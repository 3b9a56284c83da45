-- SUMMARY: Every line handed to the output callback is a valid sentence, over all runs of the UART path, the handlers and the writers.
import TempoBt.Services.Aggregator
import TempoBt.Services.Gnss.Demux

/-!
# Log lines

Lines come from the formatter, for every sentence the aggregator builds, and from
the GNSS demultiplexer, whose valid lines are passed through. Both sources only
produce valid sentences: the formatter because it completes its text with the
checksum, the demultiplexer because its line buffer never holds a line end.
-/

namespace TempoBt

open Bytes Printf

/-! ## Valid lines -/

/-- A character that may stand in a sentence body. -/
def IsText (b : UInt8) : Prop := b ≠ star ∧ b ≠ cr ∧ b ≠ lf

instance (b : UInt8) : Decidable (IsText b) := inferInstanceAs (Decidable (_ ∧ _))

/-- A string free of `*`, CR and LF. -/
def PlainText (s : Bytes) : Prop := ∀ b ∈ s, IsText b

instance (s : Bytes) : Decidable (PlainText s) := inferInstanceAs (Decidable (∀ b ∈ s, IsText b))

structure LogLine (line : Bytes) : Prop where
  dollar : line.head? = some dollar
  crlf : [cr, lf] <:+ line
  oneLf : line.count lf = 1
  accepted : nmeaVerifyChecksum line = true

/-- A valid line without line ends, completed with one, is a valid line. -/
theorem logLine_of_valid {line : Bytes} (hvalid : validateNmeaChecksum line = true)
    (hlf : lf ∉ line) : LogLine (line ++ [cr, lf]) := by
  obtain ⟨-, body, p1, p2, rest, rfl, -⟩ := (checksumAccepts_iff line).mp hvalid
  refine ⟨rfl, List.suffix_append _ _, ?_, checksumAccepts_append hvalid _⟩
  rw [List.count_append, List.count_eq_zero_of_not_mem hlf]
  rfl

/-- A text completed by the formatter is a valid line. -/
theorem logLine_withChecksum {body : Bytes} (hlen : 2 ≤ body.length) (hbody : PlainText body) :
    LogLine (withChecksum (dollar :: body)) := by
  have hstar : star ∉ body := fun h => (hbody star h).1 rfl
  have hlf : lf ∉ body := fun h => (hbody lf h).2.2 rfl
  have hhex : lf ∉ hex2 (xorSum body) := fun h => absurd (le_of_mem_hex2 h) (by decide)
  refine ⟨rfl, ?_, ?_, checksumAccepts_withChecksum hlen hstar⟩
  · exact ⟨dollar :: body ++ star :: hex2 (xorSum body), by simp [withChecksum, checksumTail]⟩
  · have hcount : (dollar :: body).count lf = 0 :=
      List.count_eq_zero_of_not_mem (by simp only [List.mem_cons, not_or]; exact ⟨by decide, hlf⟩)
    rw [withChecksum, checksumTail, List.count_append, hcount, List.cons_append,
      List.count_cons_of_ne (by decide), List.count_append, List.tail_cons,
      List.count_eq_zero_of_not_mem hhex]
    rfl

/-! ## Formatted sentences -/

/-- A format string that begins with `$` and two literal characters, and holds no
character that ends a body. -/
def isSentenceFormat : List Char → Bool
  | '$' :: c₁ :: c₂ :: f =>
    c₁ != '%' && c₂ != '%' && (c₁ :: c₂ :: f).all fun c => decide (IsText (UInt8.ofNat c.toNat))
  | _ => false

theorem isText_of_isNumeral {b : UInt8} (h : isNumeral b) : IsText b := by
  rcases h with ⟨hlow, hhigh⟩ | hsign | hnan
  · simp only [UInt8.le_iff_toNat_le] at hlow
    refine ⟨?_, ?_, ?_⟩
    · rintro rfl; exact absurd hlow (by decide)
    · rintro rfl; exact absurd hlow (by decide)
    · rintro rfl; exact absurd hlow (by decide)
  · have hall : ∀ b ∈ ascii "-.inf", IsText b := List.all_iff_forall_prop.mp (by decide)
    exact hall b hsign
  · have hall : ∀ b ∈ ascii "nan", IsText b := List.all_iff_forall_prop.mp (by decide)
    exact hall b hnan

/-- Every sentence the formatter completes is a valid line. -/
theorem logLine_mem {fmt : String} {args : List Arg} (hfmt : isSentenceFormat fmt.toList = true)
    (hargs : ∀ a ∈ args, a.Satisfies IsText) : ∀ line ∈ logLine fmt args, LogLine line := by
  intro line hline
  unfold isSentenceFormat at hfmt
  split at hfmt
  · rename_i c₁ c₂ f hlist
    simp only [Bool.and_eq_true, bne_iff_ne, List.all_eq_true, decide_eq_true_eq] at hfmt
    obtain ⟨⟨hc₁, hc₂⟩, hall⟩ := hfmt
    -- the format's first three characters are literal, so the text is long enough
    have htext : format fmt args = dollar :: vformat (c₁ :: c₂ :: f) args := by
      rw [format, hlist, vformat_cons (by decide)]
      rfl
    have hbody : PlainText (vformat (c₁ :: c₂ :: f) args) :=
      vformat_forall (fun _ => isText_of_isNumeral) _ _ hall hargs
    have hlen : 2 ≤ (vformat (c₁ :: c₂ :: f) args).length := by
      rw [vformat_cons hc₁, vformat_cons hc₂]
      simp
    rw [logLine, htext, sentenceLine_eq (by simp)] at hline
    split at hline
    · simp only [Option.toList_some, List.mem_singleton] at hline
      rw [hline]
      exact logLine_withChecksum hlen hbody
    · simp at hline
  · cases hfmt

/-- The version strings are free of `*`, CR and LF. -/
structure AppVersion.Plain (v : AppVersion) : Prop where
  deviceType : PlainText v.deviceType
  versionString : PlainText v.versionString
  gitCommit : PlainText v.gitCommit

variable {a : Aggregator} {now : UInt64} {timestampMs : UInt32}

theorem versionString_plain {v : AppVersion} (hv : v.Plain) : PlainText (versionString v) := by
  intro b hb
  have hfmt : ∀ c ∈ "Tempo %s %s (%s)".toList, IsText (UInt8.ofNat c.toNat) :=
    List.all_iff_forall_prop.mp (by decide)
  refine vformat_forall (fun _ => isText_of_isNumeral) _ _ hfmt ?_ b (List.mem_of_mem_take hb)
  simp only [List.mem_cons, List.not_mem_nil, or_false, forall_eq_or_imp, forall_eq, Arg.Satisfies]
  exact ⟨hv.deviceType, hv.versionString, hv.gitCommit⟩

theorem aggregatorWriteVersion_mem {v : AppVersion} (hv : v.Plain) :
    ∀ line ∈ aggregatorWriteVersion v a, LogLine line := by
  unfold aggregatorWriteVersion
  split
  · simp
  · refine logLine_mem (by decide) ?_
    simp only [List.mem_cons, List.not_mem_nil, or_false, forall_eq_or_imp, forall_eq,
      Arg.Satisfies]
    exact ⟨versionString_plain hv, trivial⟩

theorem aggregatorWriteSurfaceAltitude_mem {groundAltFt : CFloat} :
    ∀ line ∈ aggregatorWriteSurfaceAltitude groundAltFt a, LogLine line := by
  unfold aggregatorWriteSurfaceAltitude
  split
  · simp
  · exact logLine_mem (by decide) (by simp [Arg.Satisfies])

theorem aggregatorWriteStateChange_mem {oldState newState trigger : Bytes}
    (hold : PlainText oldState) (hnew : PlainText newState) (htrigger : PlainText trigger) :
    ∀ line ∈ aggregatorWriteStateChange now oldState newState trigger a, LogLine line := by
  unfold aggregatorWriteStateChange
  split
  · simp
  · refine logLine_mem (by decide) ?_
    simp only [List.mem_cons, List.not_mem_nil, or_false, forall_eq_or_imp, forall_eq,
      Arg.Satisfies]
    exact ⟨trivial, hold, hnew, htrigger⟩

theorem pimuLine_mem (imu : ImuSample) : ∀ line ∈ pimuLine timestampMs imu, LogLine line :=
  logLine_mem (by decide) (by simp [Arg.Satisfies])

theorem pim2Line_mem (quat : Option OrientationQuaternion) :
    ∀ line ∈ pim2Line timestampMs quat, LogLine line := by
  cases quat with
  | none => exact logLine_mem (by decide) (by simp [Arg.Satisfies])
  | some q => exact logLine_mem (by decide) (by simp [Arg.Satisfies])

theorem pmagLine_mem (mag : MagSample) : ∀ line ∈ pmagLine timestampMs mag, LogLine line :=
  logLine_mem (by decide) (by simp [Arg.Satisfies])

theorem penvLine_mem (sample : BaroSample) : ∀ line ∈ penvLine timestampMs sample, LogLine line :=
  logLine_mem (by decide) (by simp [Arg.Satisfies])

theorem imuOutputHandler_mem (r : ImuReadings) :
    ∀ line ∈ (imuOutputHandler r a).2, LogLine line := by
  intro line hline
  simp only [imuOutputHandler] at hline
  split at hline
  · simp at hline
  · simp only [List.mem_append] at hline
    rcases hline with (himu | hquat) | hmag
    · cases hr : r.imu with
      | none => simp [hr] at himu
      | some imu => exact pimuLine_mem imu line (by simpa [hr] using himu)
    · split at hquat
      · exact pim2Line_mem r.quat line hquat
      · simp at hquat
    · split at hmag
      · cases hr : r.mag with
        | none => simp [hr] at hmag
        | some mag => exact pmagLine_mem mag line (by simpa [hr] using hmag)
      · simp at hmag

theorem envOutputHandler_mem : ∀ line ∈ (envOutputHandler now a).2, LogLine line := by
  intro line hline
  simp only [envOutputHandler] at hline
  split at hline
  · simp at hline
  · cases hr : a.lastBaroSample with
    | none => simp [hr] at hline
    | some sample => exact penvLine_mem sample line (by simpa [hr] using hline)

/-- The pass-through hands on the sentence it is given, and time hacks. -/
theorem nmeaPassthroughCallback_mem {sentence : Bytes} (hsentence : LogLine sentence) :
    ∀ line ∈ (nmeaPassthroughCallback now sentence a).2, LogLine line := by
  unfold nmeaPassthroughCallback
  split
  · simp
  · simp only
    split
    · split
      · intro line hline
        rcases List.mem_cons.mp hline with rfl | hpth
        · exact hsentence
        · exact logLine_mem (by decide) (by simp [Arg.Satisfies]) line hpth
      · split
        · simpa using hsentence
        · simp
    · simp

/-! ## The demultiplexer -/

/-- The line buffer never holds a line end, so what is called back is one line. -/
theorem processUartByte_clean {d : Demux} (hd : lf ∉ d.line.chars) (input : UInt64 × UInt8) :
    lf ∉ (processUartByte d input).1.line.chars ∧
      ∀ bytes, .callback bytes ∈ (processUartByte d input).2 → LogLine bytes := by
  rcases processUartByte_cases d input with
    ⟨-, hstep⟩ | ⟨-, -, hstep⟩ | ⟨-, -, hstep⟩ | ⟨-, hend, line, hline, hstep⟩
  · obtain ⟨ack, hubx⟩ := demuxUbx_eq input.2 d
    rw [hstep, hubx]
    exact ⟨hd, by simp⟩
  · rw [hstep]
    exact ⟨by simp [NmeaLine.start, lf, dollar], by simp⟩
  · rw [hstep]
    rcases demuxLineEnd_cases d with hempty | ⟨events, hline, hevents⟩
    · rw [hempty]
      exact ⟨hd, by simp⟩
    · rw [hline]
      refine ⟨by simp [NmeaLine.empty], fun bytes hbytes => ?_⟩
      -- the checksum routine of the receiver implies the one of the log
      obtain ⟨hvalid, rfl⟩ := hevents bytes hbytes
      exact logLine_of_valid hvalid hd
  · rw [hstep]
    refine ⟨?_, by simp⟩
    rcases hline with rfl | rfl
    · exact hd
    · unfold NmeaLine.push
      split
      · simp only [List.mem_append, List.mem_singleton, not_or]
        exact ⟨hd, fun h => hend (.inr h.symm)⟩
      · simp [NmeaLine.empty]

/-! ## All sources together -/

/-- The receive path and the aggregator it calls back. -/
structure LogSources where
  demux : Demux
  aggregator : Aggregator

def LogSources.initial : LogSources := ⟨.initial, .initial⟩

/-- What can happen to them, in any order. -/
inductive LogOp where
  | uart (chunk : List (UInt64 × UInt8))
  | baro (sample : BaroSample)
  | imuWork (readings : ImuReadings)
  | envWork (now : UInt64)
  | sessionHeader (groundAltFt : CFloat)
  | stateChange (now : UInt64) (oldState newState trigger : Bytes)
  | configure (cfg : AggregatorConfig)
  | registerOutput (callback : OutputCallback)
  | start (now : UInt64)
  | stop
  | setGnssRate (rateHz : UInt16)

/-- State and trigger strings are free of `*`, CR and LF. -/
def LogOp.Plain : LogOp → Prop
  | .stateChange _ oldState newState trigger =>
    PlainText oldState ∧ PlainText newState ∧ PlainText trigger
  | _ => True

/-- The NMEA callbacks among the events, with the clock `now`. -/
def passThrough (now : UInt64) : List GnssEvent → Aggregator → Aggregator × List Bytes
  | [], a => (a, [])
  | .callback sentence :: events, a =>
    let first := nmeaPassthroughCallback now sentence a
    let later := passThrough now events first.1
    (later.1, first.2 ++ later.2)
  | _ :: events, a => passThrough now events a

/-- One byte of the UART stream, and the lines handed on because of it. -/
def logUartByte (s : LogSources) (input : UInt64 × UInt8) : LogSources × List Bytes :=
  let r := processUartByte s.demux input
  let out := passThrough input.1 r.2 s.aggregator
  (⟨r.1, out.1⟩, out.2)

/-- One operation, and the lines handed to the output callback. -/
def logStep (v : AppVersion) (s : LogSources) : LogOp → LogSources × List Bytes
  | .uart chunk =>
    ((Machine.run logUartByte s chunk).1, (Machine.run logUartByte s chunk).2.flatten)
  | .baro sample => ({ s with aggregator := baroDataCallback sample s.aggregator }, [])
  | .imuWork readings =>
    let r := imuOutputHandler readings s.aggregator
    ({ s with aggregator := r.1 }, r.2)
  | .envWork now =>
    let r := envOutputHandler now s.aggregator
    ({ s with aggregator := r.1 }, r.2)
  | .sessionHeader groundAltFt => (s, aggregatorWriteSessionHeader v groundAltFt s.aggregator)
  | .stateChange now oldState newState trigger =>
    (s, aggregatorWriteStateChange now oldState newState trigger s.aggregator)
  | .configure cfg => ({ s with aggregator := aggregatorConfigure cfg s.aggregator }, [])
  | .registerOutput callback =>
    ({ s with aggregator := aggregatorRegisterOutputCallback callback s.aggregator }, [])
  | .start now => ({ s with aggregator := (aggregatorStart now s.aggregator).1 }, [])
  | .stop => ({ s with aggregator := (aggregatorStop s.aggregator).1 }, [])
  | .setGnssRate rateHz => ({ s with aggregator := aggregatorSetGnssRate rateHz s.aggregator }, [])

/-- What holds of the lines of every callback holds of all of them. -/
theorem passThrough_forall {events : List GnssEvent} {P : Bytes → Prop}
    (hevents : ∀ bytes, .callback bytes ∈ events → ∀ a,
      ∀ line ∈ (nmeaPassthroughCallback now bytes a).2, P line) (a : Aggregator) :
    ∀ line ∈ (passThrough now events a).2, P line := by
  induction events generalizing a with
  | nil => simp [passThrough]
  | cons event events ih =>
    have hlater := ih (fun bytes h => hevents bytes (List.mem_cons_of_mem event h))
    cases event with
    | callback sentence =>
      intro line hline
      rcases List.mem_append.mp hline with hfirst | hline
      · exact hevents sentence List.mem_cons_self a line hfirst
      · exact hlater _ line hline
    | sentence s => exact hlater a
    | ubx m => exact hlater a

theorem passThrough_mem {events : List GnssEvent}
    (hevents : ∀ bytes, .callback bytes ∈ events → LogLine bytes) (a : Aggregator) :
    ∀ line ∈ (passThrough now events a).2, LogLine line :=
  passThrough_forall (fun bytes h _ => nmeaPassthroughCallback_mem (hevents bytes h)) a

/-- The line buffer holds no line end. -/
def LogSources.Clean (s : LogSources) : Prop := lf ∉ s.demux.line.chars

theorem LogSources.Clean.uartByte {s : LogSources} (hs : s.Clean) (input : UInt64 × UInt8) :
    (logUartByte s input).1.Clean ∧ ∀ line ∈ (logUartByte s input).2, LogLine line := by
  obtain ⟨hclean, hevents⟩ := processUartByte_clean hs input
  exact ⟨hclean, passThrough_mem hevents s.aggregator⟩

/-- One operation keeps the line buffer clean and hands on valid lines only. -/
theorem LogSources.Clean.step {v : AppVersion} (hv : v.Plain) {s : LogSources} (hs : s.Clean)
    {op : LogOp} (hop : op.Plain) :
    (logStep v s op).1.Clean ∧ ∀ line ∈ (logStep v s op).2, LogLine line := by
  cases op with
  | uart chunk =>
    refine ⟨Machine.run_invariant (I := Clean) (fun s b h => (h.uartByte b).1) hs chunk, ?_⟩
    have hout := Machine.run_outputs (I := Clean) (P := fun lines => ∀ line ∈ lines, LogLine line)
      (fun s b h => (h.uartByte b).1) (fun s b h => (h.uartByte b).2) hs chunk
    intro line hline
    obtain ⟨lines, hlines, hmem⟩ := List.mem_flatten.mp hline
    exact hout lines hlines line hmem
  | imuWork readings => exact ⟨hs, imuOutputHandler_mem readings⟩
  | envWork now => exact ⟨hs, envOutputHandler_mem⟩
  | sessionHeader groundAltFt =>
    refine ⟨hs, fun line hline => ?_⟩
    rcases List.mem_append.mp hline with hversion | haltitude
    · exact aggregatorWriteVersion_mem hv line hversion
    · exact aggregatorWriteSurfaceAltitude_mem line haltitude
  | stateChange now oldState newState trigger =>
    exact ⟨hs, aggregatorWriteStateChange_mem hop.1 hop.2.1 hop.2.2⟩
  | baro sample => exact ⟨hs, by simp [logStep]⟩
  | configure cfg => exact ⟨hs, by simp [logStep]⟩
  | registerOutput callback => exact ⟨hs, by simp [logStep]⟩
  | start now => exact ⟨hs, by simp [logStep]⟩
  | stop => exact ⟨hs, by simp [logStep]⟩
  | setGnssRate rateHz => exact ⟨hs, by simp [logStep]⟩

/-- **Every logged line is a valid sentence**, whatever the receiver sends, the
sensors read, and the order of the operations. -/
theorem logStep_lines_valid (v : AppVersion) (hv : v.Plain) (ops : List LogOp)
    (hops : ∀ op ∈ ops, op.Plain) :
    ∀ line ∈ (Machine.run (logStep v) LogSources.initial ops).2.flatten, LogLine line := by
  have hguard : Machine.Guarded (logStep v) (fun _ op => op.Plain) LogSources.initial ops :=
    Machine.Guarded.of_forall (fun op hop _ => hops op hop) _
  have hout := Machine.Guarded.outputs (I := LogSources.Clean)
    (P := fun lines => ∀ line ∈ lines, LogLine line)
    (fun s op hs hop => (hs.step hv hop).1) (fun s op hs hop => (hs.step hv hop).2)
    (show LogSources.initial.Clean from List.not_mem_nil) hguard
  intro line hline
  obtain ⟨lines, hlines, hmem⟩ := List.mem_flatten.mp hline
  exact hout lines hlines line hmem

theorem logStep_lines_valid_header :
    let v : AppVersion :=
      { deviceType := ascii "V1", versionString := ascii "1.0", gitCommit := ascii "abc",
        numeric := 100 }
    let ops : List LogOp :=
      [.registerOutput .toFile, .sessionHeader (.num 12),
        .stateChange 5000 (ascii "ARMED") (ascii "LOGGING") (ascii "TAKEOFF")]
    ∀ line ∈ (Machine.run (logStep v) LogSources.initial ops).2.flatten, LogLine line :=
  logStep_lines_valid _ ⟨by decide +kernel, by decide +kernel, by decide +kernel⟩ _
    (by simp only [List.mem_cons, List.not_mem_nil, or_false, forall_eq_or_imp, forall_eq]
        exact ⟨trivial, trivial, by decide +kernel, by decide +kernel, by decide +kernel⟩)

end TempoBt
