-- SUMMARY: The orientation service: the time step that each sample reaches the fusion filter with, over runs of polls.
import Mathlib.Data.List.Chain
import Mathlib.Tactic.Linarith
import Mathlib.Tactic.NormNum
import TempoBt.Services.Imu

/-!
# Orientation

The thread polls the FIFO and feeds each sample to the fusion filter with the time since
the sample before it. The timestamps are unsigned, and so is their difference. Floats are
exact.
-/

namespace TempoBt

/-! ## Model -/

structure FusionVector where
  x : ℚ
  y : ℚ
  z : ℚ
  deriving DecidableEq

/-- The configuration, as far as the time step and the choice of the update need it. -/
structure OrientationConfig where
  samplePeriod : ℚ
  useMagnetometer : Bool
  deriving DecidableEq

def OrientationConfig.default : OrientationConfig := ⟨1 / 200, false⟩

/-- The state of the service, without that of the filter. -/
structure Orientation where
  config : OrientationConfig
  initialized : Bool
  running : Bool
  lastSampleUs : UInt64
  sampleCount : UInt32
  pollCount : UInt32
  latestImu : Option FifoSample

/-- `orientation_init`; `none` for the default configuration. The last sample stays. -/
def orientationInit (config : Option OrientationConfig) (o : Orientation) : Orientation where
  config := config.getD .default
  initialized := true
  running := false
  lastSampleUs := 0
  sampleCount := 0
  pollCount := 0
  latestImu := o.latestImu

/-- What a sample is fed to the filter with; no magnetometer for the update without one. -/
structure FusionUpdate where
  gyroscope : FusionVector
  accelerometer : FusionVector
  magnetometer : Option FusionVector
  deltaTime : ℚ
  deriving DecidableEq

/-- `(float)M_PI`. -/
def piF : ℚ := 13176795 / 4194304

/-- The bounds on a time step, in seconds. -/
def clampStep (seconds : ℚ) : ℚ :=
  if seconds < 1 / 10000 then 1 / 10000 else if 1 / 10 < seconds then 1 / 10 else seconds

/-- The time step of a sample. -/
def deltaTime (samplePeriod : ℚ) (lastSampleUs timestampUs : UInt64) : ℚ :=
  if lastSampleUs = 0 then samplePeriod
  else clampStep ((timestampUs - lastSampleUs).toNat / 1000000)

/-- `process_sample`; `mag` is what the magnetometer answers, `none` when it is not ready or
its read fails. -/
def processSample (o : Orientation) (a : Option FusionVector × FifoSample) :
    Orientation × FusionUpdate :=
  ({ o with
      lastSampleUs := a.2.timestampUs
      sampleCount := o.sampleCount + 1
      latestImu := some a.2 },
    { gyroscope := ⟨a.2.gyroX * (180 / piF), a.2.gyroY * (180 / piF), a.2.gyroZ * (180 / piF)⟩
      accelerometer :=
        ⟨a.2.accelX / (980665 / 100000), a.2.accelY / (980665 / 100000),
          a.2.accelZ / (980665 / 100000)⟩
      magnetometer := if o.config.useMagnetometer then a.1 else none
      deltaTime := deltaTime o.config.samplePeriod o.lastSampleUs a.2.timestampUs })

/-- What one pass of the thread meets: the bus, and the magnetometer sample by sample. -/
structure OrientationPoll where
  bus : FifoBus
  mag : Nat → Option FusionVector

/-- The body of the loop of `orientation_thread_fn`, with the samples it feeds to the filter. -/
def orientationPoll (sqrtf : ℚ → ℚ) (s : Orientation × Imu) (p : OrientationPoll) :
    (Orientation × Imu) × List (FifoSample × FusionUpdate) :=
  let read := imuFifoRead sqrtf p.bus 16 s.2
  let samples := read.2.toOption.getD []
  let fed := Machine.run processSample s.1 (samples.zipIdx.map fun a => (p.mag a.2, a.1))
  (({ fed.1 with pollCount := fed.1.pollCount + 1 }, read.1), samples.zip fed.2)

/-! ## Time steps -/

/-- The signed difference of two timestamps, in the bounds of a time step. -/
def trueStep (prev timestampUs : UInt64) : ℚ :=
  clampStep ((timestampUs - prev).toBitVec.toInt / 1000000)

/-- Each sample but the first is fed with the true time since the one before it. -/
def TrueSteps (fed : List (FifoSample × FusionUpdate)) : Prop :=
  fed.IsChain fun a b => b.2.deltaTime = trueStep a.1.timestampUs b.1.timestampUs

instance (fed : List (FifoSample × FusionUpdate)) : Decidable (TrueSteps fed) :=
  inferInstanceAs (Decidable (fed.IsChain _))

/-- A timestamp that the one before it makes no trouble for: it is not earlier, and the one
before it is not 0, which stands for no sample. -/
def StepSafe (samplePeriod : ℚ) (prev timestampUs : UInt64) : Prop :=
  if prev = 0 then samplePeriod = trueStep 0 timestampUs
  else 0 ≤ (timestampUs - prev).toBitVec.toInt

theorem clampStep_of_neg {seconds : ℚ} (h : seconds < 0) : clampStep seconds = 1 / 10000 := by
  rw [clampStep, if_pos (by linarith)]

theorem clampStep_of_large {seconds : ℚ} (h : 1 / 10 < seconds) : clampStep seconds = 1 / 10 := by
  rw [clampStep, if_neg (by linarith), if_pos h]

/-- The unsigned difference has the same bounded value as the signed one unless the latter
is negative. -/
theorem deltaTime_eq_trueStep_iff (samplePeriod : ℚ) (prev timestampUs : UInt64) :
    deltaTime samplePeriod prev timestampUs = trueStep prev timestampUs ↔
      StepSafe samplePeriod prev timestampUs := by
  unfold deltaTime StepSafe
  by_cases hzero : prev = 0
  · subst hzero
    simp only [if_true]
  · rw [if_neg hzero, if_neg hzero, trueStep]
    generalize hdiff : timestampUs - prev = diff
    have htoInt : diff.toBitVec.toInt =
        if 2 * diff.toNat < 2 ^ 64 then (diff.toNat : ℤ) else diff.toNat - 2 ^ 64 :=
      BitVec.toInt_eq_toNat_cond _
    have hlt : diff.toNat < 2 ^ 64 := diff.toNat_lt
    by_cases hsmall : 2 * diff.toNat < 2 ^ 64
    · rw [if_pos hsmall] at htoInt
      rw [htoInt]
      simp
    · rw [if_neg hsmall] at htoInt
      have hneg : diff.toBitVec.toInt < 0 := by omega
      have hlarge : (1 : ℚ) / 10 < (diff.toNat : ℚ) / 1000000 := by
        have hnat : (100000 : ℚ) < diff.toNat := by
          exact_mod_cast (by omega : 100000 < diff.toNat)
        linarith
      have hback : ((diff.toBitVec.toInt : ℤ) : ℚ) / 1000000 < 0 := by
        have hint : ((diff.toBitVec.toInt : ℤ) : ℚ) < 0 := by exact_mod_cast hneg
        linarith
      rw [clampStep_of_large hlarge, clampStep_of_neg hback]
      constructor
      · intro h
        norm_num at h
      · intro h
        omega

/-! ## Runs -/

/-- The time steps of a sequence of timestamps, from the state in which the last sample was
at `last`. -/
def feedSteps (samplePeriod : ℚ) : UInt64 → List UInt64 → List (UInt64 × ℚ)
  | _, [] => []
  | last, t :: ts => (t, deltaTime samplePeriod last t) :: feedSteps samplePeriod t ts

/-- The timestamp and the time step of a sample that was fed to the filter. -/
def fedStep (fed : FifoSample × FusionUpdate) : UInt64 × ℚ := (fed.1.timestampUs, fed.2.deltaTime)

section Runs

variable {samplePeriod : ℚ} {last : UInt64} {ts : List UInt64}

theorem feedSteps_append (ts' : List UInt64) :
    feedSteps samplePeriod last (ts ++ ts') =
      feedSteps samplePeriod last ts ++ feedSteps samplePeriod (ts.getLastD last) ts' := by
  induction ts generalizing last with
  | nil => rfl
  | cons t ts ih =>
    rw [List.cons_append, feedSteps, feedSteps, ih, List.cons_append, List.getLastD_cons]

theorem feedSteps_isChain_iff (step : UInt64 → UInt64 → ℚ) :
    (feedSteps samplePeriod last ts).IsChain (fun a b => b.2 = step a.1 b.1) ↔
      ts.IsChain fun a b => deltaTime samplePeriod a b = step a b := by
  induction ts generalizing last with
  | nil => simp [feedSteps]
  | cons t ts ih =>
    cases ts with
    | nil => simp [feedSteps]
    | cons u ts =>
      have hrest := @ih t
      simp only [feedSteps, List.isChain_cons_cons] at hrest ⊢
      exact and_congr_right fun _ => hrest

theorem run_processSample (o : Orientation) (as : List (Option FusionVector × FifoSample)) :
    ((as.map Prod.snd).zip (Machine.run processSample o as).2).map fedStep =
        feedSteps o.config.samplePeriod o.lastSampleUs (as.map fun a => a.2.timestampUs) ∧
      (Machine.run processSample o as).1.config = o.config ∧
      (Machine.run processSample o as).1.lastSampleUs =
        (as.map fun a => a.2.timestampUs).getLastD o.lastSampleUs := by
  induction as generalizing o with
  | nil => exact ⟨rfl, rfl, rfl⟩
  | cons a as ih =>
    obtain ⟨hfed, hconfig, hlast⟩ := ih (processSample o a).1
    refine ⟨?_, hconfig, ?_⟩
    · exact congrArg (List.cons (a.2.timestampUs,
        deltaTime o.config.samplePeriod o.lastSampleUs a.2.timestampUs)) hfed
    · rw [List.map_cons, List.getLastD_cons]
      exact hlast

/-- One pass: the samples are fed with the steps of the read's timestamps. -/
theorem orientationPoll_fed (sqrtf : ℚ → ℚ) (s : Orientation × Imu) (p : OrientationPoll) :
    (orientationPoll sqrtf s p).2.map fedStep =
        feedSteps s.1.config.samplePeriod s.1.lastSampleUs (fifoStamps p.bus 16 s.2) ∧
      (orientationPoll sqrtf s p).1.1.config = s.1.config ∧
      (orientationPoll sqrtf s p).1.1.lastSampleUs =
        (fifoStamps p.bus 16 s.2).getLastD s.1.lastSampleUs := by
  have hstamps := imuFifoRead_timestamps sqrtf p.bus 16 s.2
  simp only [orientationPoll]
  generalize (imuFifoRead sqrtf p.bus 16 s.2).2.toOption.getD [] = samples at hstamps ⊢
  have hsamples : (samples.zipIdx.map fun a => (p.mag a.2, a.1)).map Prod.snd = samples := by
    rw [List.map_map]
    exact List.zipIdx_map_fst 0 samples
  have htimes : (samples.zipIdx.map fun a => (p.mag a.2, a.1)).map
      (fun a => a.2.timestampUs) = fifoStamps p.bus 16 s.2 := by
    have hmap := congrArg (List.map FifoSample.timestampUs) hsamples
    rw [List.map_map] at hmap
    exact hmap.trans hstamps
  obtain ⟨hfed, hconfig, hlast⟩ :=
    run_processSample s.1 (samples.zipIdx.map fun a => (p.mag a.2, a.1))
  rw [hsamples, htimes] at hfed
  rw [htimes] at hlast
  exact ⟨hfed, hconfig, hlast⟩

/-- A run: the samples are fed with the steps of all timestamps in a row. -/
theorem run_orientationPoll_fed (sqrtf : ℚ → ℚ) (s : Orientation × Imu)
    (polls : List OrientationPoll) :
    (Machine.run (orientationPoll sqrtf) s polls).2.flatten.map fedStep =
      feedSteps s.1.config.samplePeriod s.1.lastSampleUs
        (polls.flatMap fun p => fifoStamps p.bus 16 s.2) := by
  induction polls generalizing s with
  | nil => rfl
  | cons p polls ih =>
    obtain ⟨hfed, hconfig, hlast⟩ := orientationPoll_fed sqrtf s p
    have hstamps : ∀ p' : OrientationPoll,
        fifoStamps p'.bus 16 (orientationPoll sqrtf s p).1.2 = fifoStamps p'.bus 16 s.2 :=
      fun p' => fifoStamps_imuFifoRead sqrtf p.bus 16 s.2 p'.bus 16
    rw [Machine.run_cons, List.flatten_cons, List.map_append, ih, hfed, hconfig, hlast,
      List.flatMap_cons, feedSteps_append]
    simp only [hstamps]

/-- **When the fusion filter gets the true time steps.** Exactly when no timestamp of the
reads makes trouble for the one after it. -/
theorem trueSteps_iff (sqrtf : ℚ → ℚ) (s : Orientation × Imu) (polls : List OrientationPoll) :
    TrueSteps (Machine.run (orientationPoll sqrtf) s polls).2.flatten ↔
      (polls.flatMap fun p => fifoStamps p.bus 16 s.2).IsChain
        (StepSafe s.1.config.samplePeriod) := by
  have hfed := run_orientationPoll_fed sqrtf s polls
  generalize (Machine.run (orientationPoll sqrtf) s polls).2.flatten = fed at hfed ⊢
  have hmap : TrueSteps fed ↔
      (fed.map fedStep).IsChain fun a b => b.2 = trueStep a.1 b.1 := by
    rw [List.isChain_map]
    rfl
  rw [hmap, hfed, feedSteps_isChain_iff]
  simp only [deltaTime_eq_trueStep_iff]

end Runs

/-- A pass at the time `now` that finds `count` packets with data in the FIFO. -/
def OrientationPoll.full (count : UInt8) (now : UInt64) : OrientationPoll where
  bus :=
    { countRet := 0, countH := count >>> 4, countL := count <<< 4, dataRet := 0
      data := fun i => if i % 16 = 0 then 0x60 else 0
      now }
  mag := fun _ => none

/-- A FIFO that is still full 20 ms after a read: the second read is dated back to before the
first one, and its first sample is fed with the longest step. -/
theorem not_trueSteps_backlog :
    let imu : Imu := ⟨true, true, ⟨200, 8, 500⟩, .initial⟩
    let polls := [OrientationPoll.full 16 1000000, OrientationPoll.full 16 1020000]
    ¬ TrueSteps (Machine.run (orientationPoll id)
        (orientationInit none ⟨.default, false, false, 0, 0, 0, none⟩, imu) polls).2.flatten := by
  decide +kernel

end TempoBt
