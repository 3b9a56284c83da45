-- SUMMARY: The tags and times of the lines that the aggregator formats.
import TempoBt.App.LogFields
import TempoBt.Services.Aggregator

/-!
# Tags

What can be read back from the lines of the aggregator: each record has its tag,
and a record with a time has it in the second field.
-/

namespace TempoBt

open Bytes Printf

/-! ## Formatted lines -/

theorem logLine_cases (fmt : String) (args : List Arg) :
    logLine fmt args = [] ∨ ∃ line, logLine fmt args = [line] := by
  unfold logLine
  cases sentenceLine (format fmt args) with
  | none => exact .inl rfl
  | some line => exact .inr ⟨line, rfl⟩

/-- What becomes of a text that begins with a tag. -/
theorem logLine_tagged {fmt : String} {args : List Arg} {tag rest : Bytes}
    (htext : format fmt args = tag ++ comma :: rest) :
    logLine fmt args =
      if tag.length + rest.length + 7 ≤ 128 then
        [tag ++ comma :: (rest ++ checksumTail (xorSum (format fmt args).tail))]
      else [] := by
  rw [logLine, sentenceLine_eq (by rw [htext]; simp), withChecksum]
  rw [htext]
  simp only [List.length_append, List.length_cons, List.append_assoc, List.cons_append]
  by_cases hfit : tag.length + rest.length + 7 ≤ 128
  · rw [if_pos hfit, if_pos (by omega)]
    rfl
  · rw [if_neg hfit, if_neg (by omega)]
    rfl

/-- A record with a time has its tag and its time. -/
theorem logLine_stamped {fmt : String} {args : List Arg} (tag rest : Bytes) {stamp : Bytes}
    (htag : comma ∉ tag) (hstamp : comma ∉ stamp)
    (htext : format fmt args = tag ++ comma :: (stamp ++ comma :: rest)) :
    ∀ line ∈ logLine fmt args, lineTag line = tag ∧ timestampField line = stamp := by
  intro line hline
  rw [logLine_tagged htext] at hline
  split at hline
  · simp only [List.mem_singleton] at hline
    rw [hline, lineTag_append htag, List.append_assoc, List.cons_append,
      timestampField_append htag hstamp]
    exact ⟨rfl, rfl⟩
  · simp at hline

/-! ## Records -/

theorem pimuLine_tag (timestampMs : UInt32) (imu : ImuSample) :
    ∀ line ∈ pimuLine timestampMs imu,
      lineTag line = ascii "$PIMU" ∧ timestampField line = decimal timestampMs.toNat :=
  logLine_stamped (ascii "$PIMU") _ (by decide) (comma_notMem_decimal _) rfl

theorem pim2Line_tag (timestampMs : UInt32) (quat : Option OrientationQuaternion) :
    ∀ line ∈ pim2Line timestampMs quat,
      lineTag line = ascii "$PIM2" ∧ timestampField line = decimal timestampMs.toNat := by
  cases quat with
  | some q => exact logLine_stamped (ascii "$PIM2") _ (by decide) (comma_notMem_decimal _) rfl
  | none =>
    exact logLine_stamped (ascii "$PIM2") (ascii "1.0000,0.0000,0.0000,0.0000") (by decide)
      (comma_notMem_decimal _) rfl

theorem pmagLine_tag (timestampMs : UInt32) (mag : MagSample) :
    ∀ line ∈ pmagLine timestampMs mag, lineTag line = ascii "$PMAG" := fun line hline =>
  (logLine_stamped (ascii "$PMAG") _ (by decide) (comma_notMem_decimal _) rfl line hline).1

theorem penvLine_tag (timestampMs : UInt32) (sample : BaroSample) :
    ∀ line ∈ penvLine timestampMs sample, lineTag line = ascii "$PENV" := fun line hline =>
  (logLine_stamped (ascii "$PENV") _ (by decide) (comma_notMem_decimal _) rfl line hline).1

theorem pstLine_tag (now : UInt64) (oldState newState trigger : Bytes) (a : Aggregator) :
    ∀ line ∈ aggregatorWriteStateChange now oldState newState trigger a,
      lineTag line = ascii "$PST" := by
  intro line hline
  unfold aggregatorWriteStateChange at hline
  split at hline
  · simp at hline
  · exact (logLine_stamped (ascii "$PST") _ (by decide) (comma_notMem_decimal _) rfl line hline).1

/-- The parts of a sample: what was not read or is not enabled has no line. -/
theorem pimuLines_tag (timestampMs : UInt32) (imu : Option ImuSample) :
    ∀ line ∈ imu.elim [] (pimuLine timestampMs),
      lineTag line = ascii "$PIMU" ∧ timestampField line = decimal timestampMs.toNat := by
  cases imu with
  | none => simp
  | some imu => exact pimuLine_tag timestampMs imu

theorem pim2Lines_tag (timestampMs : UInt32) (quat : Option OrientationQuaternion)
    (enabled : Bool) :
    ∀ line ∈ (if enabled then pim2Line timestampMs quat else []),
      lineTag line = ascii "$PIM2" ∧ timestampField line = decimal timestampMs.toNat := by
  cases enabled with
  | false => simp
  | true => exact pim2Line_tag timestampMs quat

theorem pmagLines_tag (timestampMs : UInt32) (mag : Option MagSample) (enabled : Bool) :
    ∀ line ∈ (if enabled then mag.elim [] (pmagLine timestampMs) else []),
      lineTag line = ascii "$PMAG" := by
  cases enabled with
  | false => simp
  | true =>
    cases mag with
    | none => simp
    | some mag => exact pmagLine_tag timestampMs mag

theorem envOutputHandler_tag (now : UInt64) (a : Aggregator) :
    ∀ line ∈ (envOutputHandler now a).2, lineTag line = ascii "$PENV" := by
  intro line hline
  unfold envOutputHandler at hline
  simp only at hline
  split at hline
  · simp at hline
  · cases hsample : a.lastBaroSample with
    | none => simp [hsample] at hline
    | some sample =>
      rw [hsample] at hline
      exact penvLine_tag _ sample line hline

/-- The time of arrival always fits its line. -/
theorem pthLine_tag (arrivalMs : UInt32) :
    ∃ line, logLine "$PTH,%u" [.uint arrivalMs.toNat] = [line] ∧ lineTag line = ascii "$PTH" := by
  have htext : format "$PTH,%u" [.uint arrivalMs.toNat] =
      ascii "$PTH" ++ comma :: (decimal arrivalMs.toNat ++ []) := rfl
  rw [logLine_tagged htext, if_pos]
  · exact ⟨_, rfl, lineTag_append (by decide) _⟩
  · have hlen := decimal_length_le arrivalMs
    have htag : (ascii "$PTH").length = 4 := by decide
    simp only [List.append_nil]
    omega

theorem pimuLine_cases (timestampMs : UInt32) (imu : ImuSample) :
    pimuLine timestampMs imu = [] ∨ ∃ line, pimuLine timestampMs imu = [line] :=
  logLine_cases _ _

theorem pim2Line_cases (timestampMs : UInt32) (quat : Option OrientationQuaternion) :
    pim2Line timestampMs quat = [] ∨ ∃ line, pim2Line timestampMs quat = [line] := by
  cases quat <;> exact logLine_cases _ _

/-! ## The session header -/

/-- The value of a C `int`. -/
def IsInt (i : Int) : Prop := -2147483648 ≤ i ∧ i ≤ 2147483647

theorem decimalInt_length_le {i : Int} (h : IsInt i) : (decimalInt i).length ≤ 11 := by
  obtain ⟨hlow, hhigh⟩ := h
  exact length_decimalInt_le (by decide : 0 < 10) (by omega)

theorem isInt_toInt (x : CFloat) : IsInt x.toInt := by
  unfold IsInt
  cases x with
  | num q => simp only [CFloat.toInt]; omega
  | negZero => simp [CFloat.toInt]
  | inf neg => cases neg <;> simp [CFloat.toInt]
  | nan neg => simp [CFloat.toInt]

/-- The version line always fits. -/
theorem aggregatorWriteVersion_tag {v : AppVersion} (hv : IsInt v.numeric) {a : Aggregator}
    (hcallback : a.outputCallback.isSome = true) :
    ∃ line, aggregatorWriteVersion v a = [line] ∧ lineTag line = ascii "$PVER" ∧
      0 < line.length ∧ line.length ≤ 128 := by
  have htext : format "$PVER,\"%s\",%d" [.str (versionString v), .int v.numeric] =
      ascii "$PVER" ++ comma :: (34 :: (versionString v ++ 34 :: comma ::
        (decimalInt v.numeric ++ []))) := rfl
  have hversion : (versionString v).length ≤ 63 := by
    unfold versionString
    rw [List.length_take]
    omega
  have hnumeric := decimalInt_length_le hv
  have htag : (ascii "$PVER").length = 5 := by decide
  unfold aggregatorWriteVersion
  rw [if_neg (by simpa [Option.isSome_iff_ne_none] using hcallback), logLine_tagged htext, if_pos]
  · refine ⟨_, rfl, lineTag_append (by decide) _, by simp, ?_⟩
    simp only [List.length_append, List.length_cons, List.length_nil, checksumTail_length]
    omega
  · simp only [List.length_append, List.length_cons, List.length_nil]
    omega

/-- So does the altitude line. -/
theorem aggregatorWriteSurfaceAltitude_tag {groundAltFt : CFloat} {a : Aggregator}
    (hcallback : a.outputCallback.isSome = true) :
    ∃ line, aggregatorWriteSurfaceAltitude groundAltFt a = [line] ∧
      lineTag line = ascii "$PSFC" ∧ 0 < line.length ∧ line.length ≤ 128 := by
  have htext : format "$PSFC,%d" [.int groundAltFt.toInt] =
      ascii "$PSFC" ++ comma :: (decimalInt groundAltFt.toInt ++ []) := rfl
  have hnumeric := decimalInt_length_le (isInt_toInt groundAltFt)
  have htag : (ascii "$PSFC").length = 5 := by decide
  unfold aggregatorWriteSurfaceAltitude
  rw [if_neg (by simpa [Option.isSome_iff_ne_none] using hcallback), logLine_tagged htext, if_pos]
  · refine ⟨_, rfl, lineTag_append (by decide) _, by simp, ?_⟩
    simp only [List.length_append, List.length_cons, List.length_nil, checksumTail_length]
    omega
  · simp only [List.length_append, List.length_nil]
    omega

/-! ## Passed sentences -/

/-- The fourth character of a tag is that of the sentence type. -/
theorem sentenceType_head?_of_tag {sentence : Bytes} {c : UInt8}
    (h : (lineTag sentence)[3]? = some c) : (sentenceType sentence).head? = some c := by
  have hprefix : lineTag sentence <+: sentence := List.takeWhile_prefix _
  obtain ⟨rest, hsentence⟩ := hprefix
  have hget : sentence[3]? = some c := by
    rw [← hsentence, List.getElem?_append_left (List.getElem?_eq_some_iff.mp h).1]
    exact h
  simpa [sentenceType, List.head?_take, List.head?_drop] using hget

end TempoBt
