-- SUMMARY: Records that belong in pairs, and the interleavings of the writers that keep every pair together in the log.
import TempoBt.Services.Logger
import TempoBt.Services.Logger.Outputs
import Mathlib.Data.List.Chain

/-!
# Paired records

A position sentence is followed by a `$PTH` line with its time of arrival, and a
`$PIMU` line by the `$PIM2` line of the same sample. The two lines of a pair are
handed over by separate calls of the output callback, so another writer may come
between them, and the second may be dropped after the first was accepted.
-/

namespace TempoBt

open Bytes Printf

/-! ## Pairs of lines -/

/-- A GGA or GLL sentence, as `nmea_passthrough_callback` tells them. -/
def emitsPth (line : Bytes) : Bool :=
  decide (6 < line.length) &&
    (sentenceType line == ascii "GGA" || sentenceType line == ascii "GLL")

/-- The first line of a pair; `quaternion` when quaternion output is enabled. -/
def opens (quaternion : Bool) (line : Bytes) : Bool :=
  emitsPth line || (quaternion && lineTag line == ascii "$PIMU")

/-- The record that belongs after the first line of a pair. -/
def SecondOf (first second : Bytes) : Prop :=
  if emitsPth first then lineTag second = ascii "$PTH"
  else lineTag second = ascii "$PIM2" ∧ timestampField second = timestampField first

instance (first second : Bytes) : Decidable (SecondOf first second) :=
  inferInstanceAs (Decidable (if emitsPth first = true then _ = _ else _ = _ ∧ _ = _))

/-- The line `l` comes right after `e` in the call that wrote both, and is its second
line if `e` opens a pair. -/
def Follows (quaternion : Bool) (e l : OutputLine) : Prop :=
  opens quaternion e.line = true →
    l.call = e.call ∧ l.index = e.index + 1 ∧ SecondOf e.line l.line

instance (quaternion : Bool) (e l : OutputLine) : Decidable (Follows quaternion e l) :=
  inferInstanceAs (Decidable (_ = true → _ = _ ∧ _ = _ ∧ SecondOf _ _))

/-! ## The lines of a call -/

/-- The first lines among the lines of a call have their second lines behind them,
except a `$PIMU` line whose `$PIM2` line did not fit the line buffer. -/
def PairedLines (quaternion : Bool) : List Bytes → Prop
  | [] => True
  | line :: rest =>
    (opens quaternion line = true →
      (∃ second ∈ rest.head?, SecondOf line second) ∨
        (lineTag line = ascii "$PIMU" ∧ ∀ second ∈ rest.head?, lineTag second ≠ ascii "$PIM2")) ∧
    PairedLines quaternion rest

theorem emitsPth_of_tag {line : Bytes} {c : UInt8} (h : (lineTag line)[3]? = some c)
    (hc : c ≠ 71) : emitsPth line = false := by
  have hhead := sentenceType_head?_of_tag h
  have hne {s : String} (hs : (ascii s).head? = some 71) :
      (sentenceType line == ascii s) = false := by
    rw [beq_eq_false_iff_ne]
    intro heq
    rw [heq, hs] at hhead
    exact hc (Option.some.inj hhead).symm
  simp [emitsPth, hne (s := "GGA") (by decide), hne (s := "GLL") (by decide)]

theorem emitsPth_of_pimu {line : Bytes} (htag : lineTag line = ascii "$PIMU") :
    emitsPth line = false :=
  emitsPth_of_tag (c := 77) (by rw [htag]; rfl) (by decide)

/-- A `$PIMU` line opens a pair exactly when quaternion output is enabled. -/
theorem opens_pimu {line : Bytes} (htag : lineTag line = ascii "$PIMU") (quaternion : Bool) :
    opens quaternion line = quaternion := by
  simp [opens, emitsPth_of_pimu htag, htag]

/-- The records of the device with a time, but `$PIMU`. -/
def closedTags : List Bytes :=
  [ascii "$PTH", ascii "$PIM2", ascii "$PMAG", ascii "$PENV", ascii "$PST"]

/-- No other record of the device opens a pair. -/
theorem opens_of_closedTag {quaternion : Bool} {line : Bytes} (h : lineTag line ∈ closedTags) :
    opens quaternion line = false := by
  have hne : lineTag line ≠ ascii "$PIMU" := by
    intro htag
    rw [htag] at h
    revert h
    decide
  have hthird : ∃ c, (lineTag line)[3]? = some c ∧ c ≠ 71 := by
    have hall : ∀ tag ∈ closedTags, tag[3]?.any (· != 71) = true := by decide
    simpa [Option.any_eq_true] using hall _ h
  obtain ⟨c, hc, hc'⟩ := hthird
  simp [opens, emitsPth_of_tag hc hc', hne]

section Lines

variable {quaternion : Bool}

theorem pairedLines_singleton {line : Bytes} (h : opens quaternion line = false) :
    PairedLines quaternion [line] :=
  ⟨fun hopens => by simp [h] at hopens, trivial⟩

/-- Lines of which none opens a pair. -/
theorem pairedLines_of_closed {lines : List Bytes}
    (h : ∀ line ∈ lines, opens quaternion line = false) : PairedLines quaternion lines := by
  induction lines with
  | nil => trivial
  | cons line rest ih =>
    refine ⟨fun hopens => ?_, ih (fun l hl => h l (List.mem_cons_of_mem line hl))⟩
    rw [h line (by simp)] at hopens
    contradiction

theorem pairedLines_tail {line : Bytes} {lines : List Bytes}
    (h : PairedLines quaternion (line :: lines)) : PairedLines quaternion lines := h.2

/-- A passed sentence opens a pair exactly when its `$PTH` line follows. -/
theorem pairedLines_nmea (now : UInt64) (sentence : Bytes) (a : Aggregator) :
    PairedLines quaternion (nmeaPassthroughCallback now sentence a).2 := by
  unfold nmeaPassthroughCallback
  split
  · trivial
  · simp only
    split
    · rename_i hlength
      split
      · rename_i htype
        obtain ⟨line, hline, htag⟩ := pthLine_tag (logGetTimestampMs now a.config.sessionStartUs)
        simp only [hline]
        refine ⟨fun _ => .inl ⟨line, rfl, ?_⟩, pairedLines_singleton ?_⟩
        · have hemits : emitsPth sentence = true := by simpa [emitsPth, hlength] using htype
          simp [SecondOf, hemits, htag]
        · exact opens_of_closedTag (by rw [htag]; decide)
      · split
        · rename_i htype hother
          apply pairedLines_singleton
          have hemits : emitsPth sentence = false := by
            simpa [emitsPth, hlength] using htype
          have hpimu : lineTag sentence ≠ ascii "$PIMU" := by
            intro htag
            have hhead := sentenceType_head?_of_tag (c := 77) (by rw [htag]; rfl)
            rcases hother with h | h | h <;> rw [h] at hhead <;> revert hhead <;> decide
          simp [opens, hemits, hpimu]
        · trivial
    · trivial

/-- The lines of one sample, when its `$PIMU` line fits. -/
theorem pairedLines_sample {line stamp : Bytes} (pim2 pmag : List Bytes)
    (htag : lineTag line = ascii "$PIMU") (hstamp : timestampField line = stamp)
    (hpim2 : quaternion = true → pim2 = [] ∨ ∃ second, pim2 = [second] ∧
      lineTag second = ascii "$PIM2" ∧ timestampField second = stamp)
    (hpmag : ∀ line ∈ pmag, lineTag line = ascii "$PMAG")
    (hclosed : ∀ line ∈ pim2 ++ pmag, opens quaternion line = false) :
    PairedLines quaternion (line :: (pim2 ++ pmag)) := by
  have hemits := emitsPth_of_pimu htag
  refine ⟨fun hopens => ?_, pairedLines_of_closed hclosed⟩
  have hquaternion : quaternion = true := by rwa [opens_pimu htag] at hopens
  rcases hpim2 hquaternion with rfl | ⟨second, rfl, hsecond, htime⟩
  · right
    refine ⟨htag, fun second hsecond => ?_⟩
    rw [hpmag second (List.mem_of_mem_head? hsecond)]
    decide
  · left
    exact ⟨second, rfl, by simp [SecondOf, hemits, hsecond, htime, hstamp]⟩

/-- A `$PIMU` line opens a pair exactly when quaternion output is enabled, and its
`$PIM2` line follows if it fits. -/
theorem pairedLines_imu (r : ImuReadings) (a : Aggregator) :
    PairedLines a.config.enableQuaternion (imuOutputHandler r a).2 := by
  unfold imuOutputHandler
  simp only
  split
  · trivial
  · generalize logGetTimestampMs r.now a.config.sessionStartUs = ts
    generalize hmag : (if a.config.enableMagnetometer && r.magReady then
      r.mag.elim [] (pmagLine ts) else []) = pmag
    have hpmag := pmagLines_tag ts r.mag (a.config.enableMagnetometer && r.magReady)
    rw [hmag] at hpmag
    generalize hquat : (if a.config.enableQuaternion then pim2Line ts r.quat else []) = pim2
    have hpim2 := pim2Lines_tag ts r.quat a.config.enableQuaternion
    rw [hquat] at hpim2
    have hclosed : ∀ line ∈ pim2 ++ pmag, opens a.config.enableQuaternion line = false := by
      intro line hline
      apply opens_of_closedTag
      rcases List.mem_append.mp hline with hline | hline
      · rw [(hpim2 line hline).1]
        decide
      · rw [hpmag line hline]
        decide
    rw [List.append_assoc]
    cases r.imu with
    | none => exact pairedLines_of_closed hclosed
    | some imu =>
      change PairedLines _ (pimuLine ts imu ++ (pim2 ++ pmag))
      rcases pimuLine_cases ts imu with hpimu | ⟨line, hpimu⟩
      · rw [hpimu]
        exact pairedLines_of_closed hclosed
      · obtain ⟨htag, hstamp⟩ := pimuLine_tag ts imu line (by simp [hpimu])
        rw [hpimu]
        refine pairedLines_sample pim2 pmag htag hstamp (fun hquaternion => ?_) hpmag hclosed
        rw [if_pos hquaternion] at hquat
        rcases pim2Line_cases ts r.quat with hnone | ⟨second, hsome⟩
        · exact .inl (hquat.symm.trans hnone)
        · exact .inr ⟨second, hquat.symm.trans hsome,
            pim2Line_tag ts r.quat second (by simp [hsome])⟩

theorem OutputCall.pairedLines (c : OutputCall) (d : Device) :
    PairedLines d.aggregator.config.enableQuaternion (c.run d).2 := by
  cases c with
  | nmea now sentence => exact pairedLines_nmea now sentence d.aggregator
  | imu r => exact pairedLines_imu r d.aggregator
  | env now =>
    refine pairedLines_of_closed fun line hline => opens_of_closedTag ?_
    rw [envOutputHandler_tag now d.aggregator line hline]
    decide
  | stateChange now oldState newState trigger =>
    refine pairedLines_of_closed fun line hline => opens_of_closedTag ?_
    rw [pstLine_tag _ _ _ _ _ line hline]
    decide
  | flush w => trivial

end Lines

/-! ## Pairs in the log -/

section Log

variable {ι : Type*}

/-- Quaternion output is enabled. -/
def Logging.quaternion (s : Logging) : Bool := s.device.aggregator.config.enableQuaternion

/-- Some party is about to hand over the second line to `e`. -/
def Awaited (t : Threads ι Logging OutputStep) (e : OutputLine) : Prop :=
  ∃ i, ∃ l ∈ nextLine (t.code i), Follows t.shared.quaternion e l

/-- Every first line of a pair in the log is directly followed by its own second line;
at the end of the log the second line may be about to come. -/
structure PairsAdjacent (t : Threads ι Logging OutputStep) : Prop where
  adjacent : t.shared.log.IsChain (Follows t.shared.quaternion)
  awaited : ∀ e ∈ t.shared.log.getLast?, opens t.shared.quaternion e.line = true → Awaited t e

/-- The step does not part a pair. While the last line of the log waits for its second
line, that line is accepted when it comes, and all others are dropped; and a `$PIMU`
line is accepted only when its `$PIM2` line fitted the line buffer. -/
def KeepsPairs (t : Threads ι Logging OutputStep) :
    Threads.Action ι OutputCall → Prop
  | .call _ _ => True
  | .advance i =>
    match t.code i with
    | .output l :: rest =>
      if t.shared.device.accepts l.line then
        (∀ e ∈ t.shared.log.getLast?, opens t.shared.quaternion e.line = true → l.call = e.call) ∧
          (t.shared.quaternion = true → lineTag l.line = ascii "$PIMU" →
            ∃ l' ∈ nextLine rest, lineTag l'.line = ascii "$PIM2")
      else
        ∀ e ∈ t.shared.log.getLast?, opens t.shared.quaternion e.line = true → l.call ≠ e.call
    | _ => True

/-- A log in which every first line of a pair has its own second line. -/
def Logging.Paired (s : Logging) : Prop :=
  ∀ i e, s.log[i]? = some e → opens s.quaternion e.line = true →
    ∃ l, s.log[i + 1]? = some l ∧ l.call = e.call ∧ l.index = e.index + 1 ∧
      SecondOf e.line l.line

/-- Once no call is under way, the pairs of the log are complete. -/
theorem PairsAdjacent.paired {t : Threads ι Logging OutputStep} (h : PairsAdjacent t)
    (hidle : ∀ i, t.code i = []) : t.shared.Paired := by
  intro i e he hopens
  obtain ⟨hlt, hget⟩ := List.getElem?_eq_some_iff.mp he
  by_cases hlast : i + 1 < t.shared.log.length
  · refine ⟨t.shared.log[i + 1], List.getElem?_eq_getElem hlast, ?_⟩
    have hfollows := List.isChain_iff_getElem.mp h.adjacent i hlast
    rw [hget] at hfollows
    exact hfollows hopens
  · have hend : t.shared.log.getLast? = some e := by
      rw [List.getLast?_eq_getElem?, ← he]
      congr 1
      omega
    obtain ⟨j, l, hl, -⟩ := h.awaited e hend hopens
    simp [hidle j, nextLine] at hl

/-! ## Steps -/

variable [DecidableEq ι] {t : Threads ι Logging OutputStep} {i : ι} {rest : List OutputStep}
  {e l : OutputLine}

theorem perform_quaternion (p : OutputStep) :
    (t.perform outputExec i p rest).shared.quaternion = t.shared.quaternion := by
  unfold Logging.quaternion
  rw [Threads.perform_shared, outputExec_config]

theorem perform_output_log (l : OutputLine) :
    (t.perform outputExec i (.output l) rest).shared.log =
      if t.shared.device.accepts l.line then t.shared.log ++ [l] else t.shared.log := rfl

/-- A second line stays awaited while the party that has it does something else. -/
theorem Awaited.perform (h : Awaited t e) (p : OutputStep)
    (hother : ∀ l ∈ nextLine (t.code i), ¬ Follows t.shared.quaternion e l) :
    Awaited (t.perform outputExec i p rest) e := by
  obtain ⟨j, l, hl, hfollows⟩ := h
  have hj : j ≠ i := by
    rintro rfl
    exact hother l hl hfollows
  refine ⟨j, l, ?_, ?_⟩
  · rwa [Threads.perform_code_of_ne outputExec t hj]
  · rwa [perform_quaternion]

theorem Awaited.setCode (h : Awaited t e) (hidle : t.code i = []) (steps : List OutputStep) :
    Awaited (t.setCode i steps) e := by
  obtain ⟨j, l, hl, hfollows⟩ := h
  have hj : j ≠ i := by
    rintro rfl
    simp [hidle, nextLine] at hl
  exact ⟨j, l, by rwa [Threads.setCode_code_of_ne t hj], hfollows⟩

/-- What is proved along a run: the pairs, and that every party is in a call of its
own, whose lines are paired. -/
structure PairInvariant (quaternion : Bool) (t : Threads ι Logging OutputStep) : Prop where
  pairs : PairsAdjacent t
  numbered : Numbered (PairedLines quaternion) t
  quaternion : t.shared.quaternion = quaternion

namespace PairInvariant

variable {quaternion : Bool}

omit [DecidableEq ι] in
/-- The line that a pair waits for is the next line of the call that opened it. -/
theorem follows_of_call (h : PairInvariant quaternion t) (hcode : t.code i = .output l :: rest)
    (he : Awaited t e) (hopens : opens t.shared.quaternion e.line = true)
    (hcall : l.call = e.call) : Follows t.shared.quaternion e l := by
  obtain ⟨j, l', hl', hfollows⟩ := he
  have hl : l ∈ nextLine (t.code i) := by simp [hcode, nextLine]
  have hij := h.numbered.own i j l hl l' hl' (hcall.trans (hfollows hopens).1.symm)
  subst hij
  rw [Option.mem_unique hl hl']
  exact hfollows

omit [DecidableEq ι] in
/-- A first line is followed by its second line in its call, if that was formatted. -/
theorem follows_next (h : PairInvariant quaternion t) (hcode : t.code i = .output l :: rest)
    (hopens : opens t.shared.quaternion l.line = true)
    (hfits : t.shared.quaternion = true → lineTag l.line = ascii "$PIMU" →
      ∃ l' ∈ nextLine rest, lineTag l'.line = ascii "$PIM2") :
    ∃ l' ∈ nextLine rest, Follows t.shared.quaternion l l' := by
  have hself := h.numbered.code i
  rw [hcode] at hself
  obtain ⟨-, lines, rfl, hfirst, -⟩ := hself.rest_of_output
  rw [nextLine_outputSteps] at hfits ⊢
  rw [← h.quaternion] at hfirst
  rcases hfirst hopens with ⟨second, hsecond, hof⟩ | ⟨htag, hnone⟩
  · exact ⟨_, Option.mem_map_of_mem _ hsecond, fun _ => ⟨rfl, rfl, hof⟩⟩
  · have hq : t.shared.quaternion = true := by rwa [opens_pimu htag] at hopens
    obtain ⟨l', hl', htag'⟩ := hfits hq htag
    obtain ⟨second, hsecond, rfl⟩ := Option.mem_map.mp hl'
    exact absurd htag' (hnone second hsecond)

/-- After a line of a call only the same party has another of it. -/
theorem mem_rest (h : PairInvariant quaternion t) (hcode : t.code i = .output l :: rest) {j : ι}
    {l' : OutputLine} (hl' : l' ∈ nextLine ((t.perform outputExec i (.output l) rest).code j))
    (hcall : l'.call = l.call) : l' ∈ nextLine rest ∧ l'.index = l.index + 1 := by
  have hj : j = i := by
    by_contra hj
    rw [Threads.perform_code_of_ne outputExec t hj] at hl'
    exact hj (h.numbered.own j i l' hl' l (by simp [hcode, nextLine]) hcall)
  subst hj
  have hself := h.numbered.code j
  rw [hcode] at hself
  obtain ⟨-, lines, rfl, -⟩ := hself.rest_of_output
  rw [Threads.perform_code_self] at hl'
  refine ⟨hl', ?_⟩
  simp only [outputExec, List.nil_append, nextLine_outputSteps, Option.mem_def,
    Option.map_eq_some_iff] at hl'
  obtain ⟨line, -, rfl⟩ := hl'
  rfl

/-- A line that is accepted keeps the pairs together exactly when it is the one waited
for, if any, and its own second line will come. -/
theorem accepted_iff (h : PairInvariant quaternion t) (hcode : t.code i = .output l :: rest)
    (haccept : t.shared.device.accepts l.line = true) :
    PairsAdjacent (t.perform outputExec i (.output l) rest) ↔ KeepsPairs t (.advance i) := by
  have hlog : (t.perform outputExec i (.output l) rest).shared.log = t.shared.log ++ [l] := by
    rw [perform_output_log, if_pos haccept]
  have hlast : (t.shared.log ++ [l]).getLast? = some l := by simp
  simp only [KeepsPairs, hcode, if_pos haccept]
  constructor
  · rintro ⟨hadjacent, hawaited⟩
    rw [hlog, perform_quaternion] at hadjacent hawaited
    have hfollows := (List.isChain_append.mp hadjacent).2.2
    refine ⟨fun e he hopens => (hfollows e he l (by simp) hopens).1, fun hq htag => ?_⟩
    have hemits := emitsPth_of_pimu htag
    have hopens : opens t.shared.quaternion l.line = true := (opens_pimu htag _).trans hq
    obtain ⟨j, l', hl', hsecond⟩ := hawaited l hlast hopens
    rw [perform_quaternion] at hsecond
    obtain ⟨hcall, -, hof⟩ := hsecond hopens
    simp only [SecondOf, hemits, Bool.false_eq_true, if_false] at hof
    exact ⟨l', (h.mem_rest hcode hl' hcall).1, hof.1⟩
  · rintro ⟨hcall, hfits⟩
    refine ⟨?_, ?_⟩
    · rw [hlog, perform_quaternion]
      refine List.isChain_append.mpr ⟨h.pairs.adjacent, List.isChain_singleton l, ?_⟩
      intro e he y hy hopens
      obtain rfl : l = y := by simpa using hy
      exact h.follows_of_call hcode (h.pairs.awaited e he hopens) hopens (hcall e he hopens) hopens
    · intro e he hopens
      rw [hlog, hlast] at he
      obtain rfl : l = e := by simpa using he
      rw [perform_quaternion] at hopens
      obtain ⟨l', hl', hfollows⟩ := h.follows_next hcode hopens hfits
      refine ⟨i, l', ?_, by rwa [perform_quaternion]⟩
      rw [Threads.perform_code_self]
      exact hl'

/-- A line that is dropped parts a pair exactly when the pair waits for it. -/
theorem dropped_iff (h : PairInvariant quaternion t) (hcode : t.code i = .output l :: rest)
    (haccept : t.shared.device.accepts l.line = false) :
    PairsAdjacent (t.perform outputExec i (.output l) rest) ↔ KeepsPairs t (.advance i) := by
  have hlog : (t.perform outputExec i (.output l) rest).shared.log = t.shared.log := by
    rw [perform_output_log, haccept]
    rfl
  simp only [KeepsPairs, hcode, haccept, Bool.false_eq_true, if_false]
  constructor
  · rintro ⟨-, hawaited⟩ e he hopens hcall
    rw [hlog, perform_quaternion] at hawaited
    obtain ⟨j, l', hl', hsecond⟩ := hawaited e he hopens
    rw [perform_quaternion] at hsecond
    obtain ⟨hcall', hindex', -⟩ := hsecond hopens
    -- the next line of the call comes one place too late
    have hindex := (h.mem_rest hcode hl' (hcall'.trans hcall.symm)).2
    have hfollows := h.follows_of_call hcode (h.pairs.awaited e he hopens) hopens hcall
    have hexpected := (hfollows hopens).2.1
    omega
  · intro hother
    refine ⟨?_, ?_⟩
    · rw [hlog, perform_quaternion]
      exact h.pairs.adjacent
    · intro e he hopens
      rw [hlog] at he
      rw [perform_quaternion] at hopens
      refine (h.pairs.awaited e he hopens).perform (.output l) ?_
      intro l' hl' hfollows
      obtain rfl : l = l' := by simpa [hcode, nextLine] using hl'
      exact hother e he hopens (hfollows hopens).1

/-- The beginning of a call leaves the log. -/
theorem begin_adjacent (h : PairInvariant quaternion t) {c : OutputCall}
    (hcode : t.code i = .begin c :: rest) :
    PairsAdjacent (t.perform outputExec i (.begin c) rest) where
  adjacent := by
    rw [perform_quaternion]
    exact h.pairs.adjacent
  awaited e he hopens := by
    rw [perform_quaternion] at hopens
    refine (h.pairs.awaited e he hopens).perform (.begin c) ?_
    simp [hcode, nextLine]

theorem setCode (h : PairInvariant quaternion t) (hidle : t.code i = []) (c : OutputCall) :
    PairInvariant quaternion (t.setCode i (outputEntry c)) where
  pairs :=
    { adjacent := h.pairs.adjacent
      awaited := fun e he hopens => (h.pairs.awaited e he hopens).setCode hidle _ }
  numbered := h.numbered.setCode c
  quaternion := h.quaternion

end PairInvariant

/-- A step keeps the pairs together exactly when it meets the condition. -/
theorem step_adjacent_iff {quaternion : Bool} (h : PairInvariant quaternion t)
    (a : Threads.Action ι OutputCall) :
    PairsAdjacent (Threads.step outputEntry outputExec t a).1 ↔ KeepsPairs t a := by
  cases a with
  | call i c =>
    simp only [Threads.step, KeepsPairs, iff_true]
    split
    · rename_i hempty
      exact (h.setCode (List.isEmpty_iff.mp hempty) c).pairs
    · exact h.pairs
  | advance i =>
    simp only [Threads.step]
    split
    · rename_i hcode
      simp only [KeepsPairs, hcode, iff_true]
      exact h.pairs
    · rename_i p rest hcode
      cases p with
      | begin c =>
        simp only [KeepsPairs, hcode, iff_true]
        exact h.begin_adjacent hcode
      | output l =>
        cases haccept : t.shared.device.accepts l.line with
        | true => exact h.accepted_iff hcode haccept
        | false => exact h.dropped_iff hcode haccept

theorem PairInvariant.step {quaternion : Bool} (h : PairInvariant quaternion t)
    {a : Threads.Action ι OutputCall} (ha : KeepsPairs t a) :
    PairInvariant quaternion (Threads.step outputEntry outputExec t a).1 where
  pairs := (step_adjacent_iff h a).mpr ha
  numbered := by
    have hrun (c : OutputCall) : PairedLines quaternion (c.run t.shared.device).2 := by
      rw [← h.quaternion]
      exact c.pairedLines t.shared.device
    cases a with
    | call i c =>
      simp only [Threads.step]
      split
      · exact h.numbered.setCode c
      · exact h.numbered
    | advance i =>
      simp only [Threads.step]
      split
      · exact h.numbered
      · rename_i p rest hcode
        exact h.numbered.perform hrun (fun _ _ => pairedLines_tail) hcode
  quaternion := by
    cases a with
    | call i c =>
      simp only [Threads.step]
      split <;> exact h.quaternion
    | advance i =>
      simp only [Threads.step]
      split
      · exact h.quaternion
      · exact (perform_quaternion _).trans h.quaternion

/-- The writers before their first call, with an empty log. -/
def writersIdle (d : Device) : Threads ι Logging OutputStep where
  shared := { device := d, calls := 0, sessions := 0, log := [] }
  code := fun _ => []

/-- **Pairs stay together** in every state of an interleaving exactly when every step
of it meets the condition. -/
theorem pairsAdjacent_iff (d : Device) (as : List (Threads.Action ι OutputCall)) :
    Machine.Always (Threads.step outputEntry outputExec) PairsAdjacent (writersIdle d) as ↔
      Machine.Guarded (Threads.step outputEntry outputExec) KeepsPairs (writersIdle d) as := by
  have hidle : PairInvariant d.aggregator.config.enableQuaternion
      (writersIdle d : Threads ι Logging OutputStep) :=
    { pairs := { adjacent := List.isChain_nil, awaited := fun e he => by simp [writersIdle] at he }
      numbered :=
        { code := fun _ => .idle
          own := fun i j l hl => by simp [writersIdle, nextLine] at hl }
      quaternion := rfl }
  refine Machine.always_iff_guarded (I := PairInvariant d.aggregator.config.enableQuaternion)
    (fun _ _ h ha => h.step ha) (fun _ h => h.pairs) ?_ hidle as
  intro t a h ha hadjacent
  exact ha ((step_adjacent_iff h a).mp hadjacent)

end Log

/-- Two of the threads that write. -/
inductive WriterThread where
  | gnss
  | executive
  deriving DecidableEq

/-- In an open session the executive detects the jump between a position sentence and
its `$PTH` line. -/
def jumpBetween : Threads WriterThread Logging OutputStep :=
  (Machine.run (Threads.step outputEntry outputExec)
    (writersIdle (loggerStart (ascii "manual_start") .working
      (loggerInit (loggerCfg false) true ⟨[], [], [], 0⟩ none none)).1)
    [.call .gnss (.nmea 6000000 exampleGga), .advance .gnss, .advance .gnss,
      .call .executive (.stateChange 6000000 .logging .jumped (ascii "freefall_detected")),
      .advance .executive, .advance .executive, .advance .gnss]).1

/-- No call is under way any more, and the sentence has lost its `$PTH` line. -/
theorem not_paired_jumpBetween :
    (∀ i, jumpBetween.code i = []) ∧ ¬ jumpBetween.shared.Paired := by
  obtain ⟨hlog, hgnss, hexecutive⟩ :
      jumpBetween.shared.log.map (fun l => (l.call, emitsPth l.line)) =
          [(0, true), (1, false), (0, false)] ∧
        (jumpBetween.code .gnss).isEmpty = true ∧
        (jumpBetween.code .executive).isEmpty = true := by decide +kernel
  generalize jumpBetween = t at hlog hgnss hexecutive ⊢
  refine ⟨?_, fun h => ?_⟩
  · intro i
    cases i with
    | gnss => exact List.isEmpty_iff.mp hgnss
    | executive => exact List.isEmpty_iff.mp hexecutive
  obtain ⟨e, rest, hcons, he, hrest⟩ := List.map_eq_cons_iff.mp hlog
  obtain ⟨l, rest, rfl, hl, -⟩ := List.map_eq_cons_iff.mp hrest
  simp only [Prod.mk.injEq] at he hl
  obtain ⟨l', hnext, hcall, -⟩ := h 0 e (by rw [hcons]; rfl) (by simp [opens, he.2])
  obtain rfl : l = l' := by simpa [hcons] using hnext
  rw [he.1, hl.1] at hcall
  contradiction

end TempoBt
