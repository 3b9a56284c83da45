-- SUMMARY: The times of the time-hack records, and when they are the arrival of the sentence before them.
import TempoBt.Services.Aggregator.LogLines
import TempoBt.Services.Aggregator.Tags

/-!
# Times of arrival

The log format documents the time of a `$PTH` record as the arrival of the first
character of the position sentence before it. The receive path takes that time at
the `$`, but hands only the text to the callback, which reads the clock again when
the line is complete.
-/

namespace TempoBt

open Bytes Printf

/-! ## The beginning of a sentence -/

/-- A byte outside UBX frames that begins a sentence. -/
def Demux.StartsSentence (d : Demux) (byte : UInt8) : Prop :=
  d.rx.state = .syncSearch ∧ byte = dollar

instance (d : Demux) (byte : UInt8) : Decidable (d.StartsSentence byte) :=
  inferInstanceAs (Decidable (_ ∧ _))

/-- The receive path, with the time of the last beginning of a sentence. -/
def followStart (s : Demux × Option UInt64) (input : UInt64 × UInt8) :
    (Demux × Option UInt64) × Unit :=
  (((processUartByte s.1 input).1, if s.1.StartsSentence input.2 then some input.1 else s.2), ())

/-- When the sentence that `d` is in after `past` began, if it began there. -/
def sentenceStart (d : Demux) (past : List (UInt64 × UInt8)) : Option UInt64 :=
  (Machine.run followStart (d, none) past).1.2

variable {d : Demux}

theorem processUartByte_begins (input : UInt64 × UInt8) (h : d.StartsSentence input.2) :
    processUartByte d input = ({ d with arrivalUs := input.1, line := .start }, []) := by
  obtain ⟨hidle, hdollar⟩ := h
  have hinput : input = (input.1, dollar) := by rw [← hdollar]
  rw [hinput]
  exact processUartByte_dollar input.1 hidle

/-- Other bytes keep the time of arrival. -/
theorem processUartByte_continues (input : UInt64 × UInt8) (h : ¬ d.StartsSentence input.2) :
    (processUartByte d input).1.arrivalUs = d.arrivalUs := by
  rcases processUartByte_cases d input with
    ⟨-, hstep⟩ | ⟨hidle, hdollar, -⟩ | ⟨-, -, hstep⟩ | ⟨-, -, line, -, hstep⟩
  · obtain ⟨ack, hubx⟩ := demuxUbx_eq input.2 d
    rw [hstep, hubx]
  · exact absurd ⟨hidle, hdollar⟩ h
  · rw [hstep]
    rcases demuxLineEnd_cases d with hempty | ⟨events, hline, -⟩
    · rw [hempty]
    · rw [hline]
  · rw [hstep]

theorem processUartByte_nmeaCallback (d : Demux) (input : UInt64 × UInt8) :
    (processUartByte d input).1.nmeaCallback = d.nmeaCallback := by
  rcases processUartByte_cases d input with
    ⟨-, hstep⟩ | ⟨-, -, hstep⟩ | ⟨-, -, hstep⟩ | ⟨-, -, line, -, hstep⟩
  · obtain ⟨ack, hubx⟩ := demuxUbx_eq input.2 d
    rw [hstep, hubx]
  · rw [hstep]
  · rw [hstep]
    rcases demuxLineEnd_cases d with hempty | ⟨events, hline, -⟩
    · rw [hempty]
    · rw [hline]
  · rw [hstep]

theorem run_followStart (s : Demux × Option UInt64) (inputs : List (UInt64 × UInt8)) :
    (Machine.run followStart s inputs).1.1 = (Machine.run processUartByte s.1 inputs).1 := by
  induction inputs generalizing s with
  | nil => rfl
  | cons input inputs ih =>
    rw [Machine.run_cons_fst, Machine.run_cons_fst, ih]
    rfl

/-- The receive path knows when the sentence it is in began. -/
theorem sentenceStart_arrivalUs {past : List (UInt64 × UInt8)} {t : UInt64}
    (h : sentenceStart d past = some t) : (Machine.run processUartByte d past).1.arrivalUs = t := by
  have hinv : ∀ t, (Machine.run followStart (d, none) past).1.2 = some t →
      (Machine.run followStart (d, none) past).1.1.arrivalUs = t := by
    apply Machine.run_invariant (I := fun s : Demux × Option UInt64 =>
      ∀ t, s.2 = some t → s.1.arrivalUs = t)
    · intro s input hs t ht
      simp only [followStart] at ht ⊢
      split at ht
      · rename_i hbegins
        rw [processUartByte_begins input hbegins]
        exact Option.some.inj ht
      · rename_i hbegins
        rw [processUartByte_continues input hbegins]
        exact hs t ht
    · intro t ht
      cases ht
  rw [← run_followStart (d, none) past]
  exact hinv t h

/-! ## The record -/

/-- The `$PTH` record with the time `ms`. -/
def pthRecord (ms : Nat) : List Bytes := logLine "$PTH,%u" [.uint ms]

/-- Whole milliseconds from `start` to `t`. -/
def elapsedMs (start t : UInt64) : Nat := (t.toNat - start.toNat) / 1000

theorem logGetTimestampMs_eq {start t : UInt64} (h : start ≤ t) :
    (logGetTimestampMs t start).toNat = elapsedMs start t % 2 ^ 32 := by
  rw [logGetTimestampMs, elapsedMs, UInt64.toNat_toUInt32, UInt64.toNat_div,
    UInt64.toNat_sub_of_le _ _ h]
  rfl

theorem pthRecord_eq (ms : Nat) :
    pthRecord ms =
      if (decimal ms).length + 11 ≤ 128 then [withChecksum (ascii "$PTH," ++ decimal ms)]
      else [] := by
  have htext : format "$PTH,%u" [.uint ms] = ascii "$PTH," ++ decimal ms := by
    show ascii "$PTH," ++ (decimal ms ++ []) = _
    rw [List.append_nil]
  rw [pthRecord, logLine, htext, sentenceLine_eq (by simp [ascii])]
  have hlength : (ascii "$PTH," ++ decimal ms).length = (decimal ms).length + 5 := by
    rw [List.length_append, Nat.add_comm]
    rfl
  rw [hlength]
  split
  · rfl
  · rfl

/-- A record carries one time. -/
theorem pthRecord_inj {line : Bytes} {m n : Nat} (hm : line ∈ pthRecord m)
    (hn : line ∈ pthRecord n) : m = n := by
  rw [pthRecord_eq] at hm hn
  split at hm
  · split at hn
    · rw [List.mem_singleton] at hm hn
      have hline := hm.symm.trans hn
      rw [withChecksum, withChecksum] at hline
      have htext := List.append_inj_left' hline rfl
      exact decimal_injective (List.append_cancel_left htext)
    · cases hn
  · cases hm

/-! ## One byte -/

/-- The byte completes a position sentence, which the log follows with its time. -/
def Demux.CompletesPosition (d : Demux) (byte : UInt8) : Prop :=
  d.rx.state = .syncSearch ∧ (byte = cr ∨ byte = lf) ∧
    validateNmeaChecksum d.line.chars = true ∧
    (sentenceType d.line.chars = ascii "GGA" ∨ sentenceType d.line.chars = ascii "GLL")

theorem length_of_valid {chars : Bytes} (h : validateNmeaChecksum chars = true) :
    8 ≤ chars.length :=
  ((checksumAccepts_iff chars).mp h).1

/-- The line end does not belong to the sentence type. -/
theorem sentenceType_line {chars : Bytes} (h : validateNmeaChecksum chars = true) :
    sentenceType (chars ++ [cr, lf]) = sentenceType chars := by
  have hlength := length_of_valid h
  rw [sentenceType, sentenceType, List.drop_append_of_le_length (by omega),
    List.take_append_of_le_length (by rw [List.length_drop]; omega)]

/-- What is called back is the line that the byte completes. -/
theorem processUartByte_callback {input : UInt64 × UInt8} {bytes : Bytes}
    (h : .callback bytes ∈ (processUartByte d input).2) :
    d.rx.state = .syncSearch ∧ (input.2 = cr ∨ input.2 = lf) ∧
      validateNmeaChecksum d.line.chars = true ∧ bytes = d.line.chars ++ [cr, lf] := by
  rcases processUartByte_cases d input with
    ⟨-, hstep⟩ | ⟨-, -, hstep⟩ | ⟨hidle, hend, hstep⟩ | ⟨-, -, line, -, hstep⟩
  · obtain ⟨ack, hubx⟩ := demuxUbx_eq input.2 d
    rw [hstep, hubx] at h
    simp at h
  · rw [hstep] at h
    cases h
  · rw [hstep] at h
    rcases demuxLineEnd_cases d with hempty | ⟨events, hline, hevents⟩
    · rw [hempty] at h
      cases h
    · rw [hline] at h
      exact ⟨hidle, hend, hevents bytes h⟩
  · rw [hstep] at h
    cases h

/-- A completed position sentence is logged, with the clock of this moment. -/
theorem logUartByte_position {s : LogSources} {input : UInt64 × UInt8}
    (hout : s.aggregator.outputCallback.isSome = true) (hcallback : s.demux.nmeaCallback = true)
    (h : s.demux.CompletesPosition input.2) :
    (logUartByte s input).2 = (s.demux.line.chars ++ [cr, lf]) ::
      pthRecord (logGetTimestampMs input.1 s.aggregator.config.sessionStartUs).toNat := by
  obtain ⟨hidle, hend, hvalid, htype⟩ := h
  have hlength := length_of_valid hvalid
  have hnone : s.aggregator.outputCallback.isNone = false := by
    simpa [Option.isSome_iff_ne_none] using hout
  have hevents := demuxLineEnd_valid hvalid (List.ne_nil_of_length_pos (by omega)) hcallback
  have hbyte : processUartByte s.demux input = demuxLineEnd s.demux :=
    processUartByte_lineEnd input.1 hidle hend
  rw [← sentenceType_line hvalid] at htype
  simp only [logUartByte, hbyte, hevents, passThrough, nmeaPassthroughCallback, hnone]
  rw [if_neg (by simp), if_pos (by simp; omega), if_pos htype, List.append_nil]
  rfl

/-- A record with a sentence type is not a time-hack record. -/
theorem lineTag_ne_pth {sentence : Bytes} {c : UInt8}
    (h : (sentenceType sentence).head? = some c) (hc : c ≠ 72) :
    lineTag sentence ≠ ascii "$PTH" := by
  intro htag
  have hhead : (sentenceType sentence).head? = some 72 :=
    sentenceType_head?_of_tag (by rw [htag]; rfl)
  rw [h] at hhead
  exact hc (Option.some.inj hhead)

/-- No sentence is logged as a time-hack record. -/
theorem nmeaPassthroughCallback_no_pth {sentence : Bytes}
    (h : ¬ (sentenceType sentence = ascii "GGA" ∨ sentenceType sentence = ascii "GLL"))
    (now : UInt64) (a : Aggregator) :
    ∀ line ∈ (nmeaPassthroughCallback now sentence a).2, lineTag line ≠ ascii "$PTH" := by
  unfold nmeaPassthroughCallback
  split
  · simp
  · simp only
    split
    · split
      · rename_i hother
        rw [List.forall_mem_singleton]
        rcases hother with htype | htype | htype
        · exact lineTag_ne_pth (c := 86) (by rw [htype]; rfl) (by decide)
        · exact lineTag_ne_pth (c := 82) (by rw [htype]; rfl) (by decide)
        · exact lineTag_ne_pth (c := 84) (by rw [htype]; rfl) (by decide)
      · simp
    · simp

/-- A byte that does not complete a position sentence logs no time. -/
theorem logUartByte_other {s : LogSources} {input : UInt64 × UInt8}
    (h : ¬ s.demux.CompletesPosition input.2) :
    ∀ line ∈ (logUartByte s input).2, lineTag line ≠ ascii "$PTH" := by
  refine passThrough_forall (fun bytes hbytes a => ?_) s.aggregator
  obtain ⟨hidle, hend, hvalid, rfl⟩ := processUartByte_callback hbytes
  refine nmeaPassthroughCallback_no_pth (fun htype => ?_) input.1 a
  rw [sentenceType_line hvalid] at htype
  exact h ⟨hidle, hend, hvalid, htype⟩

/-! ## The stream -/

/-- The bytes leave the configuration and the callbacks alone. -/
structure LogSources.SameSession (s s' : LogSources) : Prop where
  nmeaCallback : s'.demux.nmeaCallback = s.demux.nmeaCallback
  outputCallback : s'.aggregator.outputCallback = s.aggregator.outputCallback
  config : s'.aggregator.config = s.aggregator.config

/-- The callbacks change the time of the last sentence only. -/
theorem passThrough_keeps (now : UInt64) (events : List GnssEvent) (a : Aggregator) :
    (passThrough now events a).1.outputCallback = a.outputCallback ∧
      (passThrough now events a).1.config = a.config := by
  induction events generalizing a with
  | nil => exact ⟨rfl, rfl⟩
  | cons event events ih =>
    cases event with
    | callback sentence =>
      obtain ⟨hout, hconfig⟩ := ih (nmeaPassthroughCallback now sentence a).1
      have hfirst : (nmeaPassthroughCallback now sentence a).1.outputCallback = a.outputCallback ∧
          (nmeaPassthroughCallback now sentence a).1.config = a.config := by
        unfold nmeaPassthroughCallback
        split
        · exact ⟨rfl, rfl⟩
        · simp only
          split
          · split
            · exact ⟨rfl, rfl⟩
            · split
              · exact ⟨rfl, rfl⟩
              · exact ⟨rfl, rfl⟩
          · exact ⟨rfl, rfl⟩
      exact ⟨hout.trans hfirst.1, hconfig.trans hfirst.2⟩
    | sentence s => exact ih a
    | ubx m => exact ih a

theorem LogSources.SameSession.run (s : LogSources) (inputs : List (UInt64 × UInt8)) :
    s.SameSession (Machine.run logUartByte s inputs).1 := by
  refine Machine.run_invariant (I := s.SameSession) (fun s' input h => ?_) ⟨rfl, rfl, rfl⟩ inputs
  obtain ⟨hout, hconfig⟩ :=
    passThrough_keeps input.1 (processUartByte s'.demux input).2 s'.aggregator
  exact ⟨(processUartByte_nmeaCallback s'.demux input).trans h.nmeaCallback,
    hout.trans h.outputCallback, hconfig.trans h.config⟩

theorem run_logUartByte_demux (s : LogSources) (inputs : List (UInt64 × UInt8)) :
    (Machine.run logUartByte s inputs).1.demux =
      (Machine.run processUartByte s.demux inputs).1 := by
  induction inputs generalizing s with
  | nil => rfl
  | cons input inputs ih =>
    rw [Machine.run_cons_fst, Machine.run_cons_fst, ih]
    rfl

/-- Chunks are logged byte by byte. -/
theorem run_logStep_uart (v : AppVersion) (s : LogSources)
    (chunks : List (List (UInt64 × UInt8))) :
    (Machine.run (logStep v) s (chunks.map .uart)).1 =
        (Machine.run logUartByte s chunks.flatten).1 ∧
      (Machine.run (logStep v) s (chunks.map .uart)).2.flatten =
        (Machine.run logUartByte s chunks.flatten).2.flatten := by
  induction chunks generalizing s with
  | nil => exact ⟨rfl, rfl⟩
  | cons chunk chunks ih =>
    obtain ⟨hstate, hout⟩ := ih (Machine.run logUartByte s chunk).1
    simp only [List.map_cons, Machine.run_cons, List.flatten_cons, Machine.run_append,
      List.flatten_append]
    exact ⟨hstate, by rw [← hout]; rfl⟩

/-- Every `$PTH` record carries the arrival of the sentence it follows. -/
def PthArrival (s : LogSources) (inputs : List (UInt64 × UInt8)) : Prop :=
  ∀ before input after, inputs = before ++ input :: after →
    ∀ line ∈ (logUartByte (Machine.run logUartByte s before).1 input).2,
      lineTag line = ascii "$PTH" → ∀ t, sentenceStart s.demux before = some t →
        line ∈ pthRecord (elapsedMs s.aggregator.config.sessionStartUs t)

/-- Every position sentence is complete in the millisecond in which it began. -/
def CompleteInTime (s : LogSources) (inputs : List (UInt64 × UInt8)) : Prop :=
  ∀ before input after, inputs = before ++ input :: after →
    (Machine.run processUartByte s.demux before).1.CompletesPosition input.2 →
      ∀ t, sentenceStart s.demux before = some t →
        elapsedMs s.aggregator.config.sessionStartUs input.1 % 2 ^ 32 =
          elapsedMs s.aggregator.config.sessionStartUs t

section Session

variable {s : LogSources} {inputs : List (UInt64 × UInt8)}

/-- What a byte of the stream that completes a position sentence logs. -/
theorem logUartByte_position_run (hout : s.aggregator.outputCallback.isSome = true)
    (hcallback : s.demux.nmeaCallback = true) {before : List (UInt64 × UInt8)}
    {input : UInt64 × UInt8}
    (hcomplete : (Machine.run processUartByte s.demux before).1.CompletesPosition input.2) :
    (logUartByte (Machine.run logUartByte s before).1 input).2 =
      ((Machine.run processUartByte s.demux before).1.line.chars ++ [cr, lf]) ::
        pthRecord (logGetTimestampMs input.1 s.aggregator.config.sessionStartUs).toNat := by
  have hsame := LogSources.SameSession.run s before
  rw [← run_logUartByte_demux] at hcomplete ⊢
  rw [logUartByte_position (by rw [hsame.outputCallback, hout])
    (by rw [hsame.nmeaCallback, hcallback]) hcomplete, hsame.config]

theorem CompleteInTime.pthArrival (h : CompleteInTime s inputs)
    (hout : s.aggregator.outputCallback.isSome = true) (hcallback : s.demux.nmeaCallback = true)
    (hclock : ∀ input ∈ inputs, s.aggregator.config.sessionStartUs ≤ input.1) :
    PthArrival s inputs := by
  intro before input after hinputs line hline htag t ht
  by_cases hcomplete : (Machine.run processUartByte s.demux before).1.CompletesPosition input.2
  · have hle := hclock input (by rw [hinputs]; simp)
    have hms := h before input after hinputs hcomplete t ht
    rw [logUartByte_position_run hout hcallback hcomplete, logGetTimestampMs_eq hle, hms] at hline
    rcases List.mem_cons.mp hline with rfl | hrecord
    -- the sentence itself has another tag
    · obtain ⟨-, -, hvalid, htype⟩ := hcomplete
      rw [← sentenceType_line hvalid] at htype
      rcases htype with htype | htype
      · exact absurd htag (lineTag_ne_pth (c := 71) (by rw [htype]; rfl) (by decide))
      · exact absurd htag (lineTag_ne_pth (c := 71) (by rw [htype]; rfl) (by decide))
    · exact hrecord
  · rw [← run_logUartByte_demux] at hcomplete
    exact absurd htag (logUartByte_other hcomplete line hline)

theorem PthArrival.completeInTime (h : PthArrival s inputs)
    (hout : s.aggregator.outputCallback.isSome = true) (hcallback : s.demux.nmeaCallback = true)
    (hclock : ∀ input ∈ inputs, s.aggregator.config.sessionStartUs ≤ input.1) :
    CompleteInTime s inputs := by
  intro before input after hinputs hcomplete t ht
  have hle := hclock input (by rw [hinputs]; simp)
  have hlines := logUartByte_position_run hout hcallback hcomplete
  obtain ⟨line, hrecord, htag⟩ :=
    pthLine_tag (logGetTimestampMs input.1 s.aggregator.config.sessionStartUs)
  have hmem : line ∈ pthRecord
      (logGetTimestampMs input.1 s.aggregator.config.sessionStartUs).toNat := by
    rw [pthRecord, hrecord]
    exact List.mem_singleton_self line
  have hdocumented := h before input after hinputs line
    (by rw [hlines]; exact List.mem_cons_of_mem _ hmem) htag t ht
  rw [← logGetTimestampMs_eq hle]
  exact pthRecord_inj hmem hdocumented

end Session

/-- **Time hacks.** Whatever the receiver sends and when, in whatever chunks: the
records carry the times of arrival exactly when no position sentence takes longer
than the millisecond in which it began. -/
theorem pthArrival_iff (v : AppVersion) (s : LogSources) (chunks : List (List (UInt64 × UInt8)))
    (hout : s.aggregator.outputCallback.isSome = true) (hcallback : s.demux.nmeaCallback = true)
    (hclock : ∀ input ∈ chunks.flatten, s.aggregator.config.sessionStartUs ≤ input.1) :
    (Machine.run (logStep v) s (chunks.map .uart)).2.flatten =
        (Machine.run logUartByte s chunks.flatten).2.flatten ∧
      (PthArrival s chunks.flatten ↔ CompleteInTime s chunks.flatten) :=
  ⟨(run_logStep_uart v s chunks).2, fun h => h.completeInTime hout hcallback hclock,
    fun h => h.pthArrival hout hcallback hclock⟩

/-- A session that began after one millisecond and logs to the card. -/
def LogSources.session : LogSources where
  demux := .initial
  aggregator :=
    { Aggregator.initial with
      config := { Aggregator.initial.config with sessionStartUs := 1000 }
      outputCallback := some .toFile }

/-- A short position sentence whose line end comes at `t`, the rest of it at 2 ms. -/
def positionAt (t : UInt64) : List (UInt64 × UInt8) :=
  (ascii "$GPGGA*56").map (fun b => (2000, b)) ++ [(t, cr), (t, lf)]

theorem le_of_mem_positionAt {t start : UInt64} (hstart : start ≤ 2000) (ht : start ≤ t) :
    ∀ input ∈ positionAt t, start ≤ input.1 := by
  intro input hinput
  rcases List.mem_append.mp hinput with htext | hend
  · obtain ⟨b, -, rfl⟩ := List.mem_map.mp htext
    exact hstart
  · simp only [List.mem_cons, List.not_mem_nil, or_false] at hend
    rcases hend with rfl | rfl
    · exact ht
    · exact ht

theorem pthArrival_iff_fast :
    let v : AppVersion :=
      { deviceType := ascii "V1", versionString := ascii "1.0", gitCommit := ascii "abc",
        numeric := 100 }
    let s := LogSources.session
    let chunks := [positionAt 2400]
    (Machine.run (logStep v) s (chunks.map .uart)).2.flatten =
        (Machine.run logUartByte s chunks.flatten).2.flatten ∧
      (PthArrival s chunks.flatten ↔ CompleteInTime s chunks.flatten) :=
  pthArrival_iff _ LogSources.session [positionAt 2400] rfl rfl
    (le_of_mem_positionAt (by decide) (by decide))

/-- A sentence of five milliseconds: the record says 6 where the `$` came at 1. -/
theorem not_pthArrival_slow :
    ((positionAt 7000).map Prod.fst).Pairwise (· ≤ ·) ∧
      ¬ PthArrival LogSources.session (positionAt 7000) := by
  refine ⟨by decide +kernel, fun h => ?_⟩
  let before := (ascii "$GPGGA*56").map fun b => ((2000 : UInt64), b)
  have hlines : (logUartByte (Machine.run logUartByte LogSources.session before).1 (7000, cr)).2 =
      (ascii "$GPGGA*56" ++ [cr, lf]) :: pthRecord 6 := by decide +kernel
  have hstart : sentenceStart LogSources.session.demux before = some 2000 := by decide +kernel
  have hrecord : withChecksum (ascii "$PTH,6") ∈ pthRecord 6 := by decide +kernel
  have htag : lineTag (withChecksum (ascii "$PTH,6")) = ascii "$PTH" := by decide +kernel
  have hwrong := h before (7000, cr) [(7000, lf)] rfl (withChecksum (ascii "$PTH,6"))
    (by rw [hlines]; exact List.mem_cons_of_mem _ hrecord) htag 2000 hstart
  have hsix := pthRecord_inj hrecord hwrong
  revert hsix
  decide

end TempoBt
