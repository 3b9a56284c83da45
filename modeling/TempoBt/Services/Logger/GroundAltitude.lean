-- SUMMARY: The history of ground samples that the ring of the barometer service holds, and the armings that lose it.
import TempoBt.Lib.RingBuffer
import TempoBt.Services.Logger.Starting
import TempoBt.Services.Logger.Status

/-!
# Ground altitude

A session header has the ground altitude of some ten minutes ago. The barometer
service keeps the latest samples in a ring, and the first altitude stands for all
samples before it. The samples are taken by a timer and by the changes of state that
restart it, and an arming captures an altitude before its sample.
-/

namespace TempoBt

/-! ## The ring -/

instance groundAltitudeSamples_neZero : NeZero groundAltitudeSamples := ⟨by decide⟩

namespace GroundAltitudeTracker

/-- The tracker holds the latest samples of a history, or is not initialised. -/
def Holds (g : GroundAltitudeTracker) : Option (Stream' ℚ) → Prop
  | none => g.initialized = false
  | some history => g.initialized = true ∧ RingBuffer.Holds g.altitudeFt g.nextIndex history

variable {g : GroundAltitudeTracker} {history : Stream' ℚ}

theorem holds_init (altitudeFt : ℚ) :
    (baroInitGroundAltitude altitudeFt).Holds (some (Stream'.const altitudeFt)) :=
  ⟨rfl, RingBuffer.holds_fill altitudeFt 0⟩

/-- `baro_get_ground_altitude_psfc` returns the third most recent sample. -/
theorem Holds.psfc (h : g.Holds (some history)) :
    baroGetGroundAltitudePsfc g = history.get 2 := by
  obtain ⟨hinit, hring⟩ := h
  have hthird : g.nextIndex - 3 = g.nextIndex - 1 - 2 := by
    rw [sub_sub]
    rfl
  rw [baroGetGroundAltitudePsfc, hinit, hthird]
  exact hring 2

end GroundAltitudeTracker

/-! ## Calls -/

/-- A call that writes the tracker: `baro_init_ground_altitude` in an arming, or
`baro_record_ground_altitude`. -/
inductive GroundCall where
  | capture (altitudeFt : ℚ)
  | record (altitudeFt : ℚ)

namespace GroundCall

def tracker (g : GroundAltitudeTracker) : GroundCall → GroundAltitudeTracker
  | .capture altitudeFt => baroInitGroundAltitude altitudeFt
  | .record altitudeFt => baroRecordGroundAltitude altitudeFt g

/-- The samples that should be there after a call, the most recent first. The first
altitude fills all earlier slots, and an arming captures one only if none is there. -/
def history (h : Option (Stream' ℚ)) : GroundCall → Option (Stream' ℚ)
  | .capture altitudeFt => some (h.getD (Stream'.const altitudeFt))
  | .record altitudeFt =>
    some (h.elim (Stream'.const altitudeFt) fun samples => samples.cons altitudeFt)

/-- A sample is kept as the history wants it. -/
theorem holds_record {g : GroundAltitudeTracker} {h : Option (Stream' ℚ)} (hg : g.Holds h)
    (altitudeFt : ℚ) :
    (baroRecordGroundAltitude altitudeFt g).Holds (history h (.record altitudeFt)) := by
  cases h with
  | none =>
    have hinit : g.initialized = false := hg
    rw [baroRecordGroundAltitude, hinit]
    exact GroundAltitudeTracker.holds_init altitudeFt
  | some samples =>
    obtain ⟨hinit, hring⟩ := hg
    rw [baroRecordGroundAltitude, hinit]
    exact ⟨rfl, hring.write altitudeFt⟩

end GroundCall

/-- What the sampling handler records in a state. -/
def samplesIn (state : LoggerState) (sample : Option ℚ) : List GroundCall :=
  if state.canStart then (sample.map fun m => .record (metresToFeet m)).toList else []

/-- The calls of one arming in a state. -/
def armCalls (e : ArmEnv) (state : LoggerState) : List GroundCall :=
  (e.initSample.map fun m => .capture (metresToFeet m)).toList ++ samplesIn state e.groundSample

/-- The calls of one stop. -/
def stopCalls (e : StopEnv) (d : Device) : List GroundCall :=
  if d.logger.state.canStop then samplesIn .idle e.groundSample else []

/-- The arming in an operation, with the device that it finds: a landing or an abort
stops before it arms. -/
def armingIn (d : Device) : LoggerOp → Option (ArmEnv × Device)
  | .arm e => some (e, d)
  | .executive e =>
    let tick := d.executiveTick d.logger.state
    if !d.logger.usbMode ∧ tick.2 = .rearm then some (e.arm, (loggerStop e.stop tick.1).1) else none
  | .start .. | .startUsb _ | .jumped _ | .stop _ | .disarm _ | .baroSample .. | .usbDisconnect _
  | .groundAltitudeTimer _ | .accelSample _ => none

/-- The calls of an operation before its arming, if it has one. -/
def samplingIn (d : Device) : LoggerOp → List GroundCall
  | .stop e | .usbDisconnect e => stopCalls e d
  | .disarm groundSample => if d.logger.state = .armed then samplesIn .idle groundSample else []
  | .executive e => if (armingIn d (.executive e)).isSome then stopCalls e.stop d else []
  | .groundAltitudeTimer sample => samplesIn d.logger.state sample
  | .arm _ | .start .. | .startUsb _ | .jumped _ | .baroSample .. | .accelSample _ => []

/-- The calls of one operation, in order. -/
def groundCalls (d : Device) (op : LoggerOp) : List GroundCall :=
  samplingIn d op ++
    (armingIn d op).elim [] fun arming => armCalls arming.1 arming.2.logger.state

/-! ## Single calls -/

namespace Device

variable (d : Device)

@[simp] theorem writeStateChange_groundAltitude (now : UInt64) (oldState newState : LoggerState)
    (trigger : Bytes) :
    (d.writeStateChange now oldState newState trigger).groundAltitude = d.groundAltitude :=
  outputLines_groundAltitude d _

@[simp] theorem publish_groundAltitude (evt : AppEvent) :
    (d.publish evt).groundAltitude = d.groundAltitude := rfl

@[simp] theorem publishSessionStart_groundAltitude :
    d.publishSessionStart.groundAltitude = d.groundAltitude := rfl

@[simp] theorem publishSessionStop_groundAltitude :
    d.publishSessionStop.groundAltitude = d.groundAltitude := rfl

@[simp] theorem gnssSetRate_groundAltitude (rateHz : UInt8) :
    (d.gnssSetRate rateHz).groundAltitude = d.groundAltitude := by
  unfold gnssSetRate
  split <;> rfl

@[simp] theorem executiveResetCounters_groundAltitude :
    d.executiveResetCounters.groundAltitude = d.groundAltitude := rfl

@[simp] theorem enableAccelFilter_groundAltitude :
    d.enableAccelFilter.groundAltitude = d.groundAltitude := rfl

@[simp] theorem disableAccelFilter_groundAltitude :
    d.disableAccelFilter.groundAltitude = d.groundAltitude := rfl

@[simp] theorem stopAggregator_groundAltitude :
    d.stopAggregator.groundAltitude = d.groundAltitude := rfl

@[simp] theorem closeFile_groundAltitude (e : CloseEnv) :
    (d.closeFile e).groundAltitude = d.groundAltitude := rfl

@[simp] theorem closeTty_groundAltitude : d.closeTty.groundAltitude = d.groundAltitude := rfl

@[simp] theorem registerDisconnectCallback_groundAltitude (callback : Option DisconnectCallback) :
    (d.registerDisconnectCallback callback).groundAltitude = d.groundAltitude := rfl

@[simp] theorem closeOutput_groundAltitude (e : CloseEnv) :
    (d.closeOutput e).groundAltitude = d.groundAltitude := by
  unfold closeOutput
  split <;> rfl

@[simp] theorem setUsbMode_groundAltitude (usbMode : Bool) :
    (d.setUsbMode usbMode).groundAltitude = d.groundAltitude := rfl

@[simp] theorem setState_groundAltitude (state : LoggerState) :
    (d.setState state).groundAltitude = d.groundAltitude := rfl

@[simp] theorem bleMcumgrStop_groundAltitude :
    d.bleMcumgrStop.groundAltitude = d.groundAltitude := rfl

@[simp] theorem bleMcumgrRestart_groundAltitude :
    d.bleMcumgrRestart.groundAltitude = d.groundAltitude := rfl

@[simp] theorem newSession_groundAltitude (rand : UInt32) (now : UInt64) :
    (d.newSession rand now).groundAltitude = d.groundAltitude := rfl

@[simp] theorem createSessionDirectory_groundAltitude (e : StartEnv) :
    (createSessionDirectory e d).1.groundAltitude = d.groundAltitude := rfl

@[simp] theorem openFile_groundAltitude (e : OpenEnv) :
    (d.openFile e).1.groundAltitude = d.groundAltitude := rfl

@[simp] theorem openTty_groundAltitude (dtr : Option Bool) :
    (d.openTty dtr).1.groundAltitude = d.groundAltitude := rfl

@[simp] theorem configureSession_groundAltitude (callback : OutputCallback) :
    (d.configureSession callback).groundAltitude = d.groundAltitude := by
  unfold configureSession
  exact outputLines_groundAltitude _ _

@[simp] theorem startAggregator_groundAltitude (now : UInt64) :
    (d.startAggregator now).1.groundAltitude = d.groundAltitude := rfl

theorem groundAltitudeWorkHandler_groundAltitude (sample : Option ℚ) :
    (d.groundAltitudeWorkHandler sample).groundAltitude =
      (samplesIn d.logger.state sample).foldl GroundCall.tracker d.groundAltitude := by
  unfold groundAltitudeWorkHandler samplesIn
  cases hstate : d.logger.state.canStart with
  | false => rfl
  | true => cases sample <;> rfl

theorem startGroundAltitudeSampling_groundAltitude (sample : Option ℚ) :
    (d.startGroundAltitudeSampling sample).groundAltitude =
      (samplesIn d.logger.state sample).foldl GroundCall.tracker d.groundAltitude :=
  groundAltitudeWorkHandler_groundAltitude d sample

theorem sampleIfIdle_groundAltitude (hstate : d.logger.state = .idle) (sample : Option ℚ) :
    (d.sampleIfIdle sample).groundAltitude =
      (samplesIn .idle sample).foldl GroundCall.tracker d.groundAltitude := by
  rw [sampleIfIdle, if_pos hstate, startGroundAltitudeSampling_groundAltitude, hstate]

end Device

/-! ## The functions of the logger -/

section Functions

variable (d : Device)

@[simp] theorem loggerStartLocked_groundAltitude (e : StartEnv) :
    (loggerStartLocked e d).1.groundAltitude = d.groundAltitude := by
  unfold loggerStartLocked
  split
  · rfl
  · simp only
    rw [if_neg (by simp [createSessionDirectory])]
    split
    · simp
    · split <;> simp

@[simp] theorem loggerStart_groundAltitude (reason : Bytes) (e : StartEnv) :
    (loggerStart reason e d).1.groundAltitude = d.groundAltitude := by
  unfold loggerStart
  simp only
  split <;> simp

@[simp] theorem loggerStartUsb_groundAltitude (e : UsbStartEnv) :
    (loggerStartUsb e d).1.groundAltitude = d.groundAltitude := by
  rcases loggerStartUsb_outcomes d e with
    ⟨-, h⟩ | ⟨-, h | ⟨-, h⟩ | ⟨-, h⟩ | h⟩
  all_goals simp [h]

@[simp] theorem loggerJumped_groundAltitude (now : UInt64) :
    (loggerJumped now d).1.groundAltitude = d.groundAltitude := by
  rw [loggerJumped_eq]
  split
  · simp
  · rfl

theorem loggerStop_groundAltitude (e : StopEnv) :
    (loggerStop e d).1.groundAltitude =
      (stopCalls e d).foldl GroundCall.tracker d.groundAltitude := by
  rw [loggerStop_eq, stopCalls]
  cases hstop : d.logger.state.canStop with
  | false => rfl
  | true =>
    simp only [if_true, Device.bleMcumgrRestart_groundAltitude]
    rw [Device.sampleIfIdle_groundAltitude]
    · simp
    · -- nothing after the lock changes the state
      change Status.state (Device.status _) = .idle
      simp [closeOutput_status]

theorem loggerArm_groundAltitude (e : ArmEnv) :
    (loggerArm e d).groundAltitude =
      (armCalls e d.logger.state).foldl GroundCall.tracker d.groundAltitude := by
  have hsampling := Device.startGroundAltitudeSampling_groundAltitude
    { d with
      groundAltitude := e.initSample.elim d.groundAltitude
        fun m => baroInitGroundAltitude (metresToFeet m) } e.groundSample
  rw [armCalls, List.foldl_append]
  refine hsampling.trans ?_
  cases e.initSample <;> rfl

theorem loggerDisarm_groundAltitude (groundSample : Option ℚ) :
    (loggerDisarm groundSample d).1.groundAltitude =
      (if d.logger.state = .armed then samplesIn .idle groundSample else []).foldl
        GroundCall.tracker d.groundAltitude := by
  rw [loggerDisarm_eq]
  split
  · rw [Device.publish_groundAltitude]
    exact Device.startGroundAltitudeSampling_groundAltitude (d.setState .idle) groundSample
  · rfl

@[simp] theorem executiveTick_groundAltitude (currentState : LoggerState) :
    (d.executiveTick currentState).1.groundAltitude = d.groundAltitude := by
  unfold Device.executiveTick
  split
  · rfl
  · cases currentState <;> rfl

@[simp] theorem takeoffDetection_groundAltitude (climbRate agl : ℚ) :
    (takeoffDetection climbRate agl d).1.groundAltitude = d.groundAltitude := by
  unfold takeoffDetection
  split
  · split <;> rfl
  · rfl

@[simp] theorem baroHandlerUpdate_groundAltitude (s : BaroReading) :
    (baroHandlerUpdate s d).1.groundAltitude = d.groundAltitude := by
  unfold baroHandlerUpdate
  split
  · rfl
  · simp only
    split
    · rfl
    · split
      · rfl
      · rw [takeoffDetection_groundAltitude]

theorem loggerExecutive_groundAltitude (e : ExecutiveEnv) :
    (loggerExecutive e d).groundAltitude =
      (groundCalls d (.executive e)).foldl GroundCall.tracker d.groundAltitude := by
  unfold loggerExecutive
  by_cases husb : d.logger.usbMode = true
  · simp [husb, groundCalls, samplingIn, armingIn]
  · have htick := executiveTick_groundAltitude d d.logger.state
    have hstate : (d.executiveTick d.logger.state).1.logger.state = d.logger.state :=
      congrArg Status.state (Device.executiveTick_status d d.logger.state)
    simp only [husb, Bool.false_eq_true, if_false, groundCalls, samplingIn, armingIn]
    generalize (d.executiveTick d.logger.state).1 = ticked at htick hstate ⊢
    cases haction : (d.executiveTick d.logger.state).2 with
    | none => simpa [executiveAct] using htick
    | start => simpa [executiveAct] using htick
    | jumped => simpa [executiveAct] using htick
    | rearm =>
      simp only [executiveAct, Device.executiveResetCounters_groundAltitude,
        Device.gnssSetRate_groundAltitude, loggerArm_groundAltitude, loggerStop_groundAltitude]
      simp [stopCalls, hstate, htick]

theorem loggerBaroHandler_groundAltitude (s : BaroReading) (e : StartEnv) :
    (loggerBaroHandler s e d).groundAltitude = d.groundAltitude := by
  unfold loggerBaroHandler
  simp only
  split <;> simp

/-- An operation changes the tracker by its calls, in their order. -/
theorem loggerStep_groundAltitude (op : LoggerOp) :
    (loggerStep d op).1.groundAltitude =
      (groundCalls d op).foldl GroundCall.tracker d.groundAltitude := by
  cases op with
  | start reason e => exact loggerStart_groundAltitude d reason e
  | startUsb e => exact loggerStartUsb_groundAltitude d e
  | jumped now => exact loggerJumped_groundAltitude d now
  | stop e =>
    simpa [loggerStep, groundCalls, samplingIn, armingIn] using loggerStop_groundAltitude d e
  | arm e => exact loggerArm_groundAltitude d e
  | disarm groundSample =>
    simpa [loggerStep, groundCalls, samplingIn, armingIn] using
      loggerDisarm_groundAltitude d groundSample
  | executive e => exact loggerExecutive_groundAltitude d e
  | baroSample s e => exact loggerBaroHandler_groundAltitude d s e
  | usbDisconnect e =>
    simpa [loggerStep, usbDisconnectHandler, groundCalls, samplingIn, armingIn] using
      loggerStop_groundAltitude d e
  | groundAltitudeTimer sample =>
    simpa [loggerStep, groundCalls, samplingIn, armingIn] using
      d.groundAltitudeWorkHandler_groundAltitude sample
  | accelSample magnitudeG => rfl

/-- An arming finds the tracker as the calls before it left it. -/
theorem armingIn_groundAltitude {op : LoggerOp} {arming : ArmEnv × Device}
    (h : arming ∈ armingIn d op) :
    arming.2.groundAltitude = (samplingIn d op).foldl GroundCall.tracker d.groundAltitude := by
  cases op with
  | arm e =>
    obtain rfl : (e, d) = arming := by simpa [armingIn] using h
    rfl
  | executive e =>
    simp only [armingIn, Option.mem_def, Option.ite_none_right_eq_some] at h
    obtain ⟨hrearm, hsome⟩ := h
    obtain rfl := Option.some.inj hsome
    have hstate : (d.executiveTick d.logger.state).1.logger.state = d.logger.state :=
      congrArg Status.state (Device.executiveTick_status d d.logger.state)
    simp [loggerStop_groundAltitude, samplingIn, armingIn, hrearm, stopCalls, hstate]
  | start reason e => simp [armingIn] at h
  | startUsb e => simp [armingIn] at h
  | jumped now => simp [armingIn] at h
  | stop e => simp [armingIn] at h
  | disarm groundSample => simp [armingIn] at h
  | baroSample s e => simp [armingIn] at h
  | usbDisconnect e => simp [armingIn] at h
  | groundAltitudeTimer sample => simp [armingIn] at h
  | accelSample magnitudeG => simp [armingIn] at h

end Functions

/-! ## Sampling and arming -/

section History

variable {g : GroundAltitudeTracker} {h : Option (Stream' ℚ)}

/-- The sampling handler records at most one sample, and the tracker keeps it. -/
theorem holds_samplesIn (hg : g.Holds h) (state : LoggerState) (sample : Option ℚ) :
    ((samplesIn state sample).foldl GroundCall.tracker g).Holds
      ((samplesIn state sample).foldl GroundCall.history h) := by
  unfold samplesIn
  split
  · cases sample with
    | none => exact hg
    | some m => exact GroundCall.holds_record hg (metresToFeet m)
  · exact hg

theorem holds_samplingIn (hg : g.Holds h) (d : Device) (op : LoggerOp) :
    ((samplingIn d op).foldl GroundCall.tracker g).Holds
      ((samplingIn d op).foldl GroundCall.history h) := by
  have hstop (e : StopEnv) : ((stopCalls e d).foldl GroundCall.tracker g).Holds
      ((stopCalls e d).foldl GroundCall.history h) := by
    unfold stopCalls
    split
    · exact holds_samplesIn hg .idle e.groundSample
    · exact hg
  cases op with
  | stop e => exact hstop e
  | usbDisconnect e => exact hstop e
  | executive e =>
    simp only [samplingIn]
    split
    · exact hstop e.stop
    · exact hg
  | disarm groundSample =>
    simp only [samplingIn]
    split
    · exact holds_samplesIn hg .idle groundSample
    · exact hg
  | groundAltitudeTimer sample => exact holds_samplesIn hg d.logger.state sample
  | start reason e => exact hg
  | startUsb e => exact hg
  | jumped now => exact hg
  | arm e => exact hg
  | baroSample s e => exact hg
  | accelSample magnitudeG => exact hg

/-- An arming of a tracker keeps its samples: the tracker is not initialised, or the
barometer has no altitude to capture, or every sample that stays in the ring has the
captured altitude. One slot less stays where the arming records a sample. -/
def ArmKeeps (e : ArmEnv) (state : LoggerState) (g : GroundAltitudeTracker) : Prop :=
  g.initialized = true → ∀ m ∈ e.initSample, ∀ k : Fin groundAltitudeSamples,
    k ≠ 3 ∨ samplesIn state e.groundSample = [] →
      RingBuffer.recent g.altitudeFt g.nextIndex k = metresToFeet m

/-- A captured altitude and its sample are the history that the tracker had before
exactly where the altitude is what stays of this history in the ring. -/
theorem holds_capture_iff {samples : Stream' ℚ} (altitudeFt : ℚ) (state : LoggerState)
    (sample : Option ℚ) :
    ((samplesIn state sample).foldl GroundCall.tracker
          (baroInitGroundAltitude altitudeFt)).Holds
        ((samplesIn state sample).foldl GroundCall.history (some samples)) ↔
      ∀ k : Fin groundAltitudeSamples, k ≠ 3 ∨ samplesIn state sample = [] →
        samples.get k = altitudeFt := by
  have hinit := GroundAltitudeTracker.holds_init altitudeFt
  unfold samplesIn
  cases hrecord : state.canStart with
  | false =>
    have heq := hinit.2.iff samples
    simpa [GroundAltitudeTracker.Holds, baroInitGroundAltitude, eq_comm] using heq
  | true =>
    cases sample with
    | none =>
      have heq := hinit.2.iff samples
      simpa [GroundAltitudeTracker.Holds, baroInitGroundAltitude, eq_comm] using heq
    | some m =>
      have hwrite : (baroRecordGroundAltitude (metresToFeet m)
          (baroInitGroundAltitude altitudeFt)).Holds
            (some ((Stream'.const altitudeFt).cons (metresToFeet m))) :=
        GroundCall.holds_record hinit (metresToFeet m)
      have heq := (hwrite.2.iff (samples.cons (metresToFeet m))).trans
        (RingBuffer.get_cons_eq_iff (metresToFeet m) (Stream'.const altitudeFt) samples 3)
      -- the slots after the sample are those of the first three before it
      have hslots : (∀ k : Fin 3, (Stream'.const altitudeFt).get k = samples.get k) ↔
          ∀ k : Fin groundAltitudeSamples, k ≠ 3 → samples.get k = altitudeFt := by
        constructor
        · intro hall k hk
          have hlt : k < Fin.last 3 := Fin.lt_last_iff_ne_last.mpr hk
          exact (hall ⟨k.val, hlt⟩).symm
        · intro hall k
          have hne : k.castSucc ≠ (3 : Fin groundAltitudeSamples) := (Fin.castSucc_lt_last k).ne
          exact (hall k.castSucc hne).symm
      simpa [GroundAltitudeTracker.Holds, GroundCall.tracker, GroundCall.history, hwrite.1] using
        heq.trans hslots

theorem holds_armCalls_iff (hg : g.Holds h) (e : ArmEnv) (state : LoggerState) :
    ((armCalls e state).foldl GroundCall.tracker g).Holds
        ((armCalls e state).foldl GroundCall.history h) ↔
      ArmKeeps e state g := by
  unfold armCalls ArmKeeps
  cases hsample : e.initSample with
  | none =>
    have hkept := holds_samplesIn hg state e.groundSample
    simpa using hkept
  | some m =>
    rw [List.foldl_append, List.foldl_append]
    cases h with
    | none =>
      -- the first altitude of all
      have hfirst := holds_samplesIn (GroundAltitudeTracker.holds_init (metresToFeet m)) state
        e.groundSample
      have hinit : g.initialized = false := hg
      simpa [hinit, GroundCall.tracker, GroundCall.history] using hfirst
    | some samples =>
      obtain ⟨hinit, hring⟩ := hg
      have hcapture := @holds_capture_iff samples (metresToFeet m) state
        e.groundSample
      simpa [hinit, hring _, GroundCall.tracker, GroundCall.history] using hcapture

end History

/-! ## Runs -/

/-- The device, and the ground samples that should be there, none before the first
initialisation. -/
structure GroundRun where
  device : Device
  samples : Option (Stream' ℚ)

def groundStep (s : GroundRun) (op : LoggerOp) : GroundRun × Int :=
  ({ device := (loggerStep s.device op).1
     samples := (groundCalls s.device op).foldl GroundCall.history s.samples },
    (loggerStep s.device op).2)

def GroundRun.initial (config : LoggerConfig) (usbEnabled : Bool) (version : AppVersion)
    (first second : Option ℚ) : GroundRun where
  device := loggerInit config usbEnabled version first second
  samples :=
    first.elim none fun m =>
      (samplesIn .idle second).foldl GroundCall.history (some (Stream'.const (metresToFeet m)))

/-- The operation starts a session. -/
def BeginsSession (d : Device) (op : LoggerOp) : Prop :=
  d.logger.state.canStart = true ∧ (loggerStep d op).1.logger.state = .logging

/-- A session starts with the third most recent sample, and an arming leaves the samples
that were there. -/
structure KeepsGroundHistory (s : GroundRun) (op : LoggerOp) (s' : GroundRun) : Prop where
  psfc : BeginsSession s.device op → ∀ samples ∈ s.samples,
    baroGetGroundAltitudePsfc s.device.groundAltitude = samples.get 2
  arming : (armingIn s.device op).isSome → s'.device.groundAltitude.Holds s'.samples

/-- An arming of the operation, if there is one, keeps the samples. -/
def ArmingKeeps (s : GroundRun) (op : LoggerOp) : Prop :=
  ∀ arming ∈ armingIn s.device op,
    ArmKeeps arming.1 arming.2.logger.state arming.2.groundAltitude

theorem holds_initial (config : LoggerConfig) (usbEnabled : Bool) (version : AppVersion)
    (first second : Option ℚ) :
    let s := GroundRun.initial config usbEnabled version first second
    s.device.groundAltitude.Holds s.samples := by
  cases first with
  | none => rfl
  | some m =>
    have hsampled := holds_samplesIn (GroundAltitudeTracker.holds_init (metresToFeet m)) .idle
      second
    simp only [GroundRun.initial, loggerInit, Option.elim,
      Device.startGroundAltitudeSampling_groundAltitude]
    exact hsampled

/-- After a step the tracker holds the samples exactly where an arming in it keeps them. -/
theorem holds_groundStep_iff {s : GroundRun} (hs : s.device.groundAltitude.Holds s.samples)
    (op : LoggerOp) :
    (groundStep s op).1.device.groundAltitude.Holds (groundStep s op).1.samples ↔
      ArmingKeeps s op := by
  have hsampled := holds_samplingIn hs s.device op
  simp only [groundStep, loggerStep_groundAltitude, groundCalls, List.foldl_append, ArmingKeeps]
  cases harming : armingIn s.device op with
  | none => simpa using hsampled
  | some arming =>
    have hfound := armingIn_groundAltitude s.device harming
    rw [← hfound] at hsampled ⊢
    simpa using holds_armCalls_iff hsampled arming.1 arming.2.logger.state

/-- `$PSFC` reports the third most recent ground sample at every start of a run, and
every arming keeps the samples, exactly when no arming of the run captures an altitude
over samples that differ from it. -/
theorem groundHistory_kept_iff (config : LoggerConfig) (usbEnabled : Bool) (version : AppVersion)
    (first second : Option ℚ) (ops : List LoggerOp) :
    Machine.Along groundStep KeepsGroundHistory
        (GroundRun.initial config usbEnabled version first second) ops ↔
      Machine.Guarded groundStep ArmingKeeps
        (GroundRun.initial config usbEnabled version first second) ops := by
  apply Machine.along_iff_guarded (I := fun s => s.device.groundAltitude.Holds s.samples)
  · intro s op hs hkeeps
    exact (holds_groundStep_iff hs op).mpr hkeeps
  · intro s op hs hkeeps
    refine ⟨fun _ samples hsamples => ?_, fun _ => (holds_groundStep_iff hs op).mpr hkeeps⟩
    rw [Option.mem_def.mp hsamples] at hs
    exact hs.psfc
  · intro s op hs hlost hkept
    have harming : (armingIn s.device op).isSome := by
      by_contra hnone
      have hnone' : armingIn s.device op = none := by simpa using hnone
      exact hlost (by simp [ArmingKeeps, hnone'])
    exact hlost ((holds_groundStep_iff hs op).mp (hkept.arming harming))
  · exact holds_initial config usbEnabled version first second

/-- A logger that has known the altitude of its field since it was switched on. -/
def landedLogger : GroundRun := .initial (loggerCfg false) true ⟨[], [], [], 0⟩ (some 0) (some 0)

/-- Arming it 100 m higher makes the next session report the altitude of the arming. -/
def armedHigher : List LoggerOp := [.arm ⟨some 100, some 100⟩, .start [] .working]

theorem not_groundHistory_kept_armedHigher :
    ¬ Machine.Along groundStep KeepsGroundHistory landedLogger armedHigher := by
  rintro ⟨-, hstart, -⟩
  have hthird := hstart.psfc ⟨by decide +kernel, by decide +kernel⟩ _ rfl
  have hpsfc : baroGetGroundAltitudePsfc
      (groundStep landedLogger (.arm ⟨some 100, some 100⟩)).1.device.groundAltitude =
        metresToFeet 100 := by decide +kernel
  have hfield : metresToFeet 100 ≠ metresToFeet 0 := by decide +kernel
  exact hfield (hpsfc.symm.trans hthird)

end TempoBt
