-- SUMMARY: The barometer filter under isolated outliers: the median pre-filter takes the middle of the last three samples, and the estimate stands still.
import TempoBt.Lib.Machine
import TempoBt.Lib.Median
import TempoBt.Lib.RingBuffer
import TempoBt.Services.Logger.Takeoff

/-!
# Outliers

The barometer handler filters its samples twice. The median of three keeps a single
wrong altitude from the alpha-beta filter, which would follow it with its climb rate.
-/

namespace TempoBt

open Median

/-! ## The median pre-filter -/

theorem median3_isMiddle (a b c : ℚ) : IsMiddle (median3 a b c) [a, b, c] := by
  have hrotate (x y z : ℚ) : [x, y, z].Perm [y, z, x] :=
    (List.perm_append_comm : ([x] ++ [y, z]).Perm ([y, z] ++ [x]))
  unfold median3
  split
  · rename_i hba
    split
    · rename_i hcb
      exact ⟨c, a, hcb.le, hba.le, (List.reverse_perm [a, b, c]).symm⟩
    · rename_i hcb
      split
      · rename_i hca
        exact ⟨b, a, not_lt.mp hcb, hca.le, hrotate a b c⟩
      · rename_i hca
        exact ⟨b, c, hba.le, not_lt.mp hca, List.Perm.swap b a [c]⟩
  · rename_i hba
    split
    · rename_i hca
      exact ⟨c, b, hca.le, not_lt.mp hba, (hrotate c a b).symm⟩
    · rename_i hca
      split
      · rename_i hcb
        exact ⟨a, b, not_lt.mp hca, hcb.le, (List.Perm.swap c b []).cons a⟩
      · rename_i hcb
        exact ⟨a, c, not_lt.mp hba, not_lt.mp hcb, List.Perm.refl _⟩

/-! ## The filter -/

/-- A sample that reaches the filter: it is valid, and its time step is accepted. -/
def Accepted (d : Device) (s : BaroReading × StartEnv) : Prop :=
  s.1.pressureValid = true ∧ 1 / 1000 ≤ sampleDt s.1 d.baroHandler.lastSampleTimeUs ∧
    sampleDt s.1 d.baroHandler.lastSampleTimeUs ≤ 10

instance (d : Device) (s : BaroReading × StartEnv) : Decidable (Accepted d s) :=
  inferInstanceAs (Decidable (_ ∧ _ ∧ _))

/-- `logger_baro_handler`, with what a start would be answered. -/
def baroStep (d : Device) (s : BaroReading × StartEnv) : Device × Unit :=
  (loggerBaroHandler s.1 s.2 d, ())

/-- The filtered altitude of a sample, which the alpha-beta filter is given. -/
def filteredAltitude (d : Device) (s : BaroReading) : ℚ := (medianFilter s.altitudeM d.executive).2

/-- No sample has reached the filter. -/
structure Executive.Unfiltered (x : Executive) : Prop where
  filterInitialized : x.filterInitialized = false
  medianCount : x.medianCount = 0

/-- The filter has been given `altitudes`, the last one first, and stands at `h`. -/
structure Executive.Stands (h : ℚ) (altitudes : List ℚ) (x : Executive) : Prop where
  ring : ∃ before, RingBuffer.Holds x.medianBuffer x.medianIndex
    (Stream'.appendStream' altitudes before)
  count : x.medianCount.toNat = min 3 altitudes.length
  filterInitialized : x.filterInitialized = !altitudes.isEmpty
  estimate : altitudes ≠ [] → x.altitudeEstM = h ∧ x.climbRateEstMps = 0

theorem Executive.Unfiltered.stands {x : Executive} (hx : x.Unfiltered) (h : ℚ) :
    x.Stands h [] where
  ring := by
    refine ⟨fun k => RingBuffer.recent x.medianBuffer x.medianIndex (Fin.ofNat 3 k), fun k => ?_⟩
    simp [Stream'.appendStream', Stream'.get]
  count := by simp [hx.medianCount]
  filterInitialized := hx.filterInitialized
  estimate hne := absurd rfl hne

section MedianFilter

variable {h : ℚ} {altitudes : List ℚ} {x : Executive}

theorem pushAltitude_ring (hx : x.Stands h altitudes) (altitudeM : ℚ) :
    ∃ before, RingBuffer.Holds (x.pushAltitude altitudeM).medianBuffer
      (x.pushAltitude altitudeM).medianIndex
      (Stream'.appendStream' (altitudeM :: altitudes) before) := by
  obtain ⟨before, hring⟩ := hx.ring
  exact ⟨before, hring.write altitudeM⟩

theorem pushAltitude_count (hx : x.Stands h altitudes) (altitudeM : ℚ) :
    (x.pushAltitude altitudeM).medianCount.toNat = min 3 (altitudes.length + 1) := by
  have hcount := hx.count
  simp only [Executive.pushAltitude]
  split
  · rename_i hlt
    have hlt' : x.medianCount.toNat < 3 := UInt8.lt_iff_toNat_lt.mp hlt
    rw [UInt8.toNat_add, UInt8.toNat_one]
    omega
  · rename_i hge
    have hge' : ¬ x.medianCount.toNat < 3 := fun hlt => hge (UInt8.lt_iff_toNat_lt.mpr hlt)
    omega

/-- Before the third sample the raw altitude is taken. -/
theorem filteredAltitude_early {d : Device} (hx : d.executive.Stands h altitudes)
    (hlength : altitudes.length < 2) (s : BaroReading) : filteredAltitude d s = s.altitudeM := by
  have hcount := pushAltitude_count hx s.altitudeM
  have hfew : ¬ 3 ≤ (d.executive.pushAltitude s.altitudeM).medianCount := by
    rw [UInt8.le_iff_toNat_le]
    change ¬ 3 ≤ _
    omega
  rw [filteredAltitude, medianFilter]
  exact if_neg hfew

/-- From then on it is the middle value of the last three samples, in whatever slots
they are. -/
theorem filteredAltitude_isMiddle {d : Device} {b a : ℚ}
    (hx : d.executive.Stands h (b :: a :: altitudes)) (s : BaroReading) :
    IsMiddle (filteredAltitude d s) [a, b, s.altitudeM] := by
  have hcount := pushAltitude_count hx s.altitudeM
  obtain ⟨before, hring⟩ := pushAltitude_ring hx s.altitudeM
  have hfull : 3 ≤ (d.executive.pushAltitude s.altitudeM).medianCount := by
    rw [UInt8.le_iff_toNat_le]
    change 3 ≤ _
    simp only [List.length_cons] at hcount
    omega
  rw [filteredAltitude, medianFilter]
  simp only [if_pos hfull, Executive.medianSamples]
  refine (median3_isMiddle _ _ _).perm ?_
  generalize (d.executive.pushAltitude s.altitudeM).medianBuffer = slots at hring ⊢
  generalize (d.executive.pushAltitude s.altitudeM).medianIndex = next at hring
  calc [slots 0, slots 1, slots 2]
      = List.ofFn slots := by simp [List.ofFn_succ]
    List.Perm _ (List.ofFn (RingBuffer.recent slots next)) := RingBuffer.perm_recent slots next
    _ = [RingBuffer.recent slots next 0, RingBuffer.recent slots next 1,
          RingBuffer.recent slots next 2] := by simp [List.ofFn_succ]
    _ = [s.altitudeM, b, a] := by
      rw [hring 0, hring 1, hring 2]
      rfl
    List.Perm _ [a, b, s.altitudeM] := List.reverse_perm [a, b, s.altitudeM]

end MedianFilter

/-! ## Samples -/

section Samples

variable {d : Device} {s : BaroReading × StartEnv} {h : ℚ} {altitudes : List ℚ}

/-- What the filter makes of a sample that reaches it. -/
theorem baroEstimate_accepted (hs : Accepted d s) :
    (baroEstimate s.1 d).1.executive =
        (if d.executive.filterInitialized then
          alphaBetaUpdate (filteredAltitude d s.1)
            (sampleDt s.1 d.baroHandler.lastSampleTimeUs)
            (d.executive.pushAltitude s.1.altitudeM)
        else
          { d.executive.pushAltitude s.1.altitudeM with
            altitudeEstM := filteredAltitude d s.1, climbRateEstMps := 0
            filterInitialized := true }) ∧
      ∀ estimate ∈ (baroEstimate s.1 d).2,
        estimate.1 = (baroEstimate s.1 d).1.executive.climbRateEstMps := by
  obtain ⟨hvalid, hlow, hhigh⟩ := hs
  have hdt : ¬ (sampleDt s.1 d.baroHandler.lastSampleTimeUs < 1 / 1000 ∨
      10 < sampleDt s.1 d.baroHandler.lastSampleTimeUs) := by
    rw [not_or, not_lt, not_lt]
    exact ⟨hlow, hhigh⟩
  unfold baroEstimate
  simp only [hvalid, Bool.not_true, Bool.false_eq_true, if_false, hdt]
  have hinit : (medianFilter s.1.altitudeM d.executive).1.filterInitialized =
      d.executive.filterInitialized := rfl
  rw [hinit]
  cases d.executive.filterInitialized with
  | false => exact ⟨rfl, fun _ hnone => by simp at hnone⟩
  | true =>
    refine ⟨rfl, fun estimate hsome => ?_⟩
    obtain rfl := Option.some.inj (Option.mem_def.mp hsome)
    rfl

/-- A filtered altitude that is the estimate, without a climb rate, leaves both. -/
theorem alphaBetaUpdate_still {x : Executive} (hx : x.climbRateEstMps = 0) (dt : ℚ) :
    (alphaBetaUpdate x.altitudeEstM dt x).altitudeEstM = x.altitudeEstM ∧
      (alphaBetaUpdate x.altitudeEstM dt x).climbRateEstMps = 0 := by
  simp [alphaBetaUpdate, hx]

/-- What a sample leaves of the filter where nothing moves: the estimate stands at `h`,
and the sample counts for no climb. -/
structure Still (h : ℚ) (s : BaroReading) (d d' : Device) : Prop where
  altitudeEst : d'.executive.altitudeEstM = h
  climbRateEst : d'.executive.climbRateEstMps = 0
  notClimbing : ∀ sample ∈ d.takeoffSample s, sample.climbs = false
  climbSamples : d'.baroHandler.climbSamples = d.baroHandler.climbSamples ∨
    d'.baroHandler.climbSamples = 0

/-- The estimate that a sample leaves, with the buffer it was pushed into. -/
theorem baroEstimate_stands (hx : d.executive.Stands h altitudes) (hs : Accepted d s)
    (hfiltered : filteredAltitude d s.1 = h) :
    (baroEstimate s.1 d).1.executive.Stands h (s.1.altitudeM :: altitudes) := by
  have hring := pushAltitude_ring hx s.1.altitudeM
  have hcount := pushAltitude_count hx s.1.altitudeM
  obtain ⟨hexecutive, -⟩ := baroEstimate_accepted hs
  rw [hexecutive, hfiltered]
  cases altitudes with
  | nil =>
    have hinit : d.executive.filterInitialized = false := hx.filterInitialized
    rw [if_neg (by simp [hinit])]
    exact ⟨hring, hcount, rfl, fun _ => ⟨rfl, rfl⟩⟩
  | cons a rest =>
    have hinit : d.executive.filterInitialized = true := hx.filterInitialized
    obtain ⟨hest, hrate⟩ := hx.estimate (List.cons_ne_nil a rest)
    have hstill := alphaBetaUpdate_still (x := d.executive.pushAltitude s.1.altitudeM) hrate
      (sampleDt s.1 d.baroHandler.lastSampleTimeUs)
    have hpushed : (d.executive.pushAltitude s.1.altitudeM).altitudeEstM = h := hest
    rw [if_pos hinit]
    rw [hpushed] at hstill
    exact ⟨hring, hcount, hinit, fun _ => hstill⟩

theorem takeoffSample_still (hx : d.executive.Stands h altitudes) (hs : Accepted d s)
    (hfiltered : filteredAltitude d s.1 = h) :
    ∀ sample ∈ d.takeoffSample s.1, sample.climbs = false := by
  intro sample hsample
  obtain ⟨-, hrate⟩ := baroEstimate_accepted hs
  have hstands := baroEstimate_stands hx hs hfiltered
  obtain ⟨-, hzero⟩ := hstands.estimate (List.cons_ne_nil _ _)
  simp only [Device.takeoffSample, Option.mem_def, Option.ite_none_right_eq_some,
    Option.map_eq_some_iff] at hsample
  obtain ⟨-, estimate, hestimate, rfl⟩ := hsample
  have hnot : ¬ takeoffClimbRateMps < estimate.1 := by
    rw [hrate estimate hestimate, hzero]
    decide
  simp [hnot]

/-- A sample whose filtered altitude is `h` moves nothing, and no session is started. -/
theorem Executive.Stands.sample (hx : d.executive.Stands h altitudes) (hs : Accepted d s)
    (hfiltered : filteredAltitude d s.1 = h) :
    Still h s.1 d (baroStep d s).1 ∧
      (baroStep d s).1.executive.Stands h (s.1.altitudeM :: altitudes) := by
  have hnot := takeoffSample_still hx hs hfiltered
  have hstands := baroEstimate_stands hx hs hfiltered
  have htakeoff := baroHandlerUpdate_takeoff s.1 d
  have hcounted : (baroHandlerUpdate s.1 d).2 = false ∧
      ((baroHandlerUpdate s.1 d).1.baroHandler.climbSamples = d.baroHandler.climbSamples ∨
        (baroHandlerUpdate s.1 d).1.baroHandler.climbSamples = 0) := by
    cases hsample : d.takeoffSample s.1 with
    | none =>
      rw [hsample] at htakeoff
      exact ⟨htakeoff.1, .inl htakeoff.2⟩
    | some sample =>
      have hclimbs := hnot sample hsample
      rw [hsample] at htakeoff
      obtain ⟨hcount, hstart⟩ := htakeoff
      rw [hclimbs] at hcount
      refine ⟨?_, .inr hcount⟩
      rw [Bool.eq_false_iff]
      intro hcalls
      simp [hclimbs] at hstart
      simp [hstart] at hcalls
  obtain ⟨hcalls, hclimb⟩ := hcounted
  have hstep : (baroStep d s).1 = (baroHandlerUpdate s.1 d).1 := by
    simp [baroStep, loggerBaroHandler, hcalls]
  have hexecutive : (baroStep d s).1.executive = (baroEstimate s.1 d).1.executive := by
    rw [hstep, baroHandlerUpdate_estimate]
  rw [← hexecutive] at hstands
  obtain ⟨hest, hrate⟩ := hstands.estimate (List.cons_ne_nil _ _)
  exact ⟨⟨hest, hrate, hnot, by rwa [hstep]⟩, hstands⟩

end Samples

/-! ## Streams -/

/-- The altitudes of a stream, in order. -/
def streamAltitudes (stream : List (BaroReading × StartEnv)) : List ℚ :=
  stream.map fun s => s.1.altitudeM

section Streams

variable {d : Device} {h : ℚ}

/-- In a stream with isolated outliers every filtered altitude is `h`. -/
theorem filteredAltitude_isolated {altitudes : List ℚ} (hx : d.executive.Stands h altitudes.reverse)
    {s : BaroReading} (hisolated : IsolatedOutliers h (altitudes ++ [s.altitudeM])) :
    filteredAltitude d s = h := by
  have hback : altitudes = altitudes.reverse.reverse := (List.reverse_reverse altitudes).symm
  cases hrev : altitudes.reverse with
  | nil =>
    rw [hrev] at hx hback
    subst hback
    exact (filteredAltitude_early hx (by decide) s).trans (hisolated.early (by decide))
  | cons b rest =>
    cases rest with
    | nil =>
      rw [hrev] at hx hback
      subst hback
      exact (filteredAltitude_early hx (by simp) s).trans (hisolated.early (by simp))
    | cons a rest =>
      rw [hrev] at hx hback
      have hlast : altitudes ++ [s.altitudeM] = rest.reverse ++ [a, b, s.altitudeM] := by
        rw [hback]
        simp
      rw [hlast] at hisolated
      exact (filteredAltitude_isMiddle hx s).eq_of_countP hisolated.last_three

theorem stands_of_isolated (hd : d.executive.Unfiltered) {stream : List (BaroReading × StartEnv)}
    (haccepted : Machine.Guarded baroStep Accepted d stream)
    (hisolated : IsolatedOutliers h (streamAltitudes stream)) :
    (Machine.run baroStep d stream).1.executive.Stands h (streamAltitudes stream).reverse := by
  induction stream using List.reverseRecOn with
  | nil => exact hd.stands h
  | append_singleton before s ih =>
    have haltitudes : streamAltitudes (before ++ [s]) = streamAltitudes before ++ [s.1.altitudeM] :=
      List.map_append
    rw [haltitudes] at hisolated ⊢
    obtain ⟨hbefore, hs, -⟩ := (Machine.guarded_append baroStep Accepted d before [s]).mp haccepted
    have hx := ih hbefore (hisolated.of_prefix (List.prefix_append _ _))
    rw [Machine.run_append, List.reverse_append]
    exact (hx.sample hs (filteredAltitude_isolated hx hisolated)).2

/-- The barometer handler stands still on a stream of samples whose outliers stand alone:
after every sample the estimate is the altitude `h` without a climb rate, the sample has
counted for no climb, and from the third sample on the filtered altitude is the middle
value of the last three. -/
theorem isolatedOutliers_ignored (hd : d.executive.Unfiltered)
    {stream : List (BaroReading × StartEnv)}
    (haccepted : Machine.Guarded baroStep Accepted d stream)
    (hisolated : IsolatedOutliers h (streamAltitudes stream)) :
    (∀ before s after, stream = before ++ s :: after →
      let d' := (Machine.run baroStep d before).1
      Still h s.1 d' (baroStep d' s).1) ∧
    ∀ before a b s after, stream = before ++ a :: b :: s :: after →
      IsMiddle (filteredAltitude (Machine.run baroStep d (before ++ [a, b])).1 s.1)
        [a.1.altitudeM, b.1.altitudeM, s.1.altitudeM] := by
  -- every first part of the stream is such a stream
  have hfirst {before after : List (BaroReading × StartEnv)} (hstream : stream = before ++ after) :
      (Machine.run baroStep d before).1.executive.Stands h (streamAltitudes before).reverse := by
    subst hstream
    obtain ⟨hbefore, -⟩ := (Machine.guarded_append baroStep Accepted d before after).mp haccepted
    refine stands_of_isolated hd hbefore (hisolated.of_prefix ?_)
    rw [streamAltitudes, streamAltitudes, List.map_append]
    exact List.prefix_append _ _
  constructor
  · intro before s after hstream
    have hx := hfirst hstream
    subst hstream
    obtain ⟨-, hs, -⟩ :=
      (Machine.guarded_append baroStep Accepted d before (s :: after)).mp haccepted
    have hpre : streamAltitudes before ++ [s.1.altitudeM] <+:
        streamAltitudes (before ++ s :: after) := by
      simp [streamAltitudes]
    exact (hx.sample hs (filteredAltitude_isolated hx (hisolated.of_prefix hpre))).1
  · intro before a b s after hstream
    have hx : (Machine.run baroStep d (before ++ [a, b])).1.executive.Stands h
        (streamAltitudes (before ++ [a, b])).reverse := by
      have hsplit : stream = (before ++ [a, b]) ++ s :: after := by simpa using hstream
      exact hfirst hsplit
    have hrev : (streamAltitudes (before ++ [a, b])).reverse =
        b.1.altitudeM :: a.1.altitudeM :: (streamAltitudes before).reverse := by
      simp [streamAltitudes]
    rw [hrev] at hx
    exact filteredAltitude_isMiddle hx s.1

end Streams

/-- A device that has seen one sample, which no filter was given. -/
def polledDevice : Device :=
  (baroStep (loggerInit (loggerCfg false) true ⟨[], [], [], 0⟩ none none)
    (⟨1000000, 100, true⟩, .working)).1

/-- A spike of five kilometres at the fourth of five samples. -/
def spikedStream : List (BaroReading × StartEnv) :=
  [(⟨1250000, 100, true⟩, .working), (⟨1500000, 100, true⟩, .working),
    (⟨1750000, 100, true⟩, .working), (⟨2000000, 5100, true⟩, .working),
    (⟨2250000, 100, true⟩, .working)]

theorem spikedStream_isolated : IsolatedOutliers 100 (streamAltitudes spikedStream) where
  first := by decide +kernel
  window i := by
    by_cases hi : i < 5
    · have hall :
        ∀ i < 5, (((streamAltitudes spikedStream).drop i).take 3).countP (· ≠ 100) ≤ 1 := by
        decide +kernel
      exact hall i hi
    · rw [List.drop_eq_nil_of_le (Nat.le_of_not_lt hi)]
      exact Nat.zero_le 1

theorem isolatedOutliers_ignored_spike :
    (∀ before s after, spikedStream = before ++ s :: after →
      let d' := (Machine.run baroStep polledDevice before).1
      Still 100 s.1 d' (baroStep d' s).1) ∧
    ∀ before a b s after, spikedStream = before ++ a :: b :: s :: after →
      IsMiddle (filteredAltitude (Machine.run baroStep polledDevice (before ++ [a, b])).1 s.1)
        [a.1.altitudeM, b.1.altitudeM, s.1.altitudeM] :=
  isolatedOutliers_ignored ⟨by decide +kernel, by decide +kernel⟩ (by decide +kernel)
    spikedStream_isolated

end TempoBt
