-- SUMMARY: The state-change records that a run of logger operations hands to the output callback, and the chain they form in every SD session.
import TempoBt.App.LogFields
import TempoBt.Services.Logger.Status
import Mathlib.Data.List.Count

/-!
# State records

A `$PST` line tells the state that the logger leaves and the state that it
enters. Read back from the lines handed to the output callback, the records of
one session on the SD card form a chain: from the state of the start through
LOGGING, perhaps JUMPED, to IDLE.
-/

namespace TempoBt

open Bytes Printf

/-! ## Records in lines -/

/-- The states left and entered, of a line that is a `$PST` record. -/
def stateRecord (line : Bytes) : Option (Bytes × Bytes) :=
  match line.splitOn comma with
  | tag :: _ :: oldState :: newState :: _ =>
    if tag = ascii "$PST" then some (oldState, newState) else none
  | _ => none

/-- The state records among the lines handed to an output callback. -/
def Device.stateRecords (d : Device) : List (Bytes × Bytes) :=
  d.handed.filterMap fun h => stateRecord h.2

/-- A line with another tag is no state record. -/
theorem stateRecord_of_tag {tag : Bytes} (htag : comma ∉ tag) (hne : tag ≠ ascii "$PST")
    (rest : Bytes) : stateRecord (tag ++ comma :: rest) = none := by
  rw [stateRecord, splitOn_field htag]
  match rest.splitOn comma with
  | [] | [_] | [_, _] => rfl
  | _ :: _ :: _ :: _ => simp [hne]

theorem comma_notMem_stateToString (s : LoggerState) : comma ∉ stateToString s := by
  cases s <;> decide

/-- What `aggregator_write_state_change` formats is read back. -/
theorem stateRecord_stateChange (timestampMs : Nat) (oldState newState : LoggerState)
    (trigger : Bytes) :
    stateRecord (ascii "$PST" ++ comma :: (decimal timestampMs ++ comma ::
      (stateToString oldState ++ comma :: (stateToString newState ++ comma :: trigger)))) =
      some (stateToString oldState, stateToString newState) := by
  rw [stateRecord, splitOn_field (by decide), splitOn_field (comma_notMem_decimal timestampMs),
    splitOn_field (comma_notMem_stateToString oldState),
    splitOn_field (comma_notMem_stateToString newState)]
  simp

/-- A state change whose texts fit the line buffer is one line, and its record is read
back from it. -/
theorem aggregatorWriteStateChange_of_fits (now : UInt64) {oldState newState : LoggerState}
    {trigger : Bytes}
    (hfit : (stateToString oldState).length + (stateToString newState).length + trigger.length ≤
      104)
    {a : Aggregator} (hcallback : a.outputCallback.isSome = true) :
    ∃ line, aggregatorWriteStateChange now (stateToString oldState) (stateToString newState) trigger
        a = [line] ∧
      stateRecord line = some (stateToString oldState, stateToString newState) := by
  have htext (ts : Nat) :
      format "$PST,%u,%s,%s,%s"
        [.uint ts, .str (stateToString oldState), .str (stateToString newState), .str trigger] =
        ascii "$PST" ++ comma :: (decimal ts ++ comma ::
          (stateToString oldState ++ comma :: (stateToString newState ++ comma ::
            (trigger ++ [])))) := rfl
  have hlen := decimal_length_le (logGetTimestampMs now a.config.sessionStartUs)
  unfold aggregatorWriteStateChange
  rw [if_neg (by simpa [Option.isSome_iff_ne_none] using hcallback), logLine, htext]
  rw [sentenceLine_eq (by simp [ascii]), if_pos]
  · refine ⟨_, rfl, ?_⟩
    simp only [withChecksum, List.append_nil, List.append_assoc, List.cons_append]
    exact stateRecord_stateChange _ oldState newState _
  · simp only [List.append_nil, List.length_append, List.length_cons]
    have htag : (ascii "$PST").length = 4 := by decide
    omega

/-! ## What the functions of the logger record -/

namespace Device

variable (d : Device)

theorem outputLine_records (line : Bytes) :
    (d.outputLine line).stateRecords =
      if d.flags.callback.isSome then d.stateRecords ++ (stateRecord line).toList
      else d.stateRecords := by
  have hhanded (callback : OutputCallback) :
      (d.handed ++ [(callback, line)]).filterMap (fun h => stateRecord h.2) =
        d.stateRecords ++ (stateRecord line).toList := by
    rw [List.filterMap_append, stateRecords]
    cases h : stateRecord line <;> simp [h]
  unfold outputLine flags
  cases hcallback : d.aggregator.outputCallback with
  | none => rfl
  | some callback => cases callback <;> exact hhanded _

/-- Lines that are no state records leave the records. -/
theorem outputLines_records {lines : List Bytes} (h : ∀ line ∈ lines, stateRecord line = none) :
    (d.outputLines lines).stateRecords = d.stateRecords := by
  induction lines generalizing d with
  | nil => rfl
  | cons line lines ih =>
    have hline : (d.outputLine line).stateRecords = d.stateRecords := by
      rw [outputLine_records, h line (by simp)]
      simp
    calc ((d.outputLine line).outputLines lines).stateRecords
        = (d.outputLine line).stateRecords := ih _ (fun l hl => h l (List.mem_cons_of_mem _ hl))
      _ = d.stateRecords := hline

@[simp] theorem writeSessionHeader_records :
    d.writeSessionHeader.stateRecords = d.stateRecords := by
  have htagged (tag rest : Bytes) (htag : comma ∉ tag) (hne : tag ≠ ascii "$PST")
      (hpos : 0 < tag.length) :
      ∀ line ∈ (sentenceLine (tag ++ comma :: rest)).toList, stateRecord line = none := by
    intro line hline
    rw [sentenceLine_eq (by simp)] at hline
    split at hline
    · simp only [Option.toList_some, List.mem_singleton] at hline
      rw [hline, withChecksum, List.append_assoc]
      exact stateRecord_of_tag htag hne _
    · simp at hline
  refine d.outputLines_records ?_
  intro line hline
  rcases List.mem_append.mp hline with hline | hline
  · unfold aggregatorWriteVersion at hline
    split at hline
    · simp at hline
    · exact htagged (ascii "$PVER") _ (by decide) (by decide) (by decide) line hline
  · unfold aggregatorWriteSurfaceAltitude at hline
    split at hline
    · simp at hline
    · exact htagged (ascii "$PSFC") _ (by decide) (by decide) (by decide) line hline

theorem writeStateChange_records (now : UInt64) {oldState newState : LoggerState}
    {trigger : Bytes}
    (hfit : (stateToString oldState).length + (stateToString newState).length + trigger.length ≤
      104)
    (hcallback : d.flags.callback.isSome = true) :
    (d.writeStateChange now oldState newState trigger).stateRecords =
      d.stateRecords ++ [(stateToString oldState, stateToString newState)] := by
  obtain ⟨line, hlines, hrecord⟩ :=
    aggregatorWriteStateChange_of_fits now hfit (a := d.aggregator) hcallback
  rw [writeStateChange, hlines]
  change (d.outputLine line).stateRecords = _
  rw [outputLine_records, if_pos hcallback, hrecord]
  rfl

@[simp] theorem gnssSetRate_records (rateHz : UInt8) :
    (d.gnssSetRate rateHz).stateRecords = d.stateRecords := by
  unfold gnssSetRate
  split <;> rfl

@[simp] theorem publish_records (evt : AppEvent) :
    (d.publish evt).stateRecords = d.stateRecords := rfl

@[simp] theorem publishSessionStart_records :
    d.publishSessionStart.stateRecords = d.stateRecords := rfl

@[simp] theorem publishSessionStop_records :
    d.publishSessionStop.stateRecords = d.stateRecords := rfl

@[simp] theorem executiveResetCounters_records :
    d.executiveResetCounters.stateRecords = d.stateRecords := rfl

@[simp] theorem enableAccelFilter_records :
    d.enableAccelFilter.stateRecords = d.stateRecords := rfl

@[simp] theorem disableAccelFilter_records :
    d.disableAccelFilter.stateRecords = d.stateRecords := rfl

@[simp] theorem stopAggregator_records : d.stopAggregator.stateRecords = d.stateRecords := rfl

@[simp] theorem closeFile_records (e : CloseEnv) :
    (d.closeFile e).stateRecords = d.stateRecords := rfl

@[simp] theorem closeTty_records : d.closeTty.stateRecords = d.stateRecords := rfl

@[simp] theorem registerDisconnectCallback_records (callback : Option DisconnectCallback) :
    (d.registerDisconnectCallback callback).stateRecords = d.stateRecords := rfl

@[simp] theorem setUsbMode_records (usbMode : Bool) :
    (d.setUsbMode usbMode).stateRecords = d.stateRecords := rfl

@[simp] theorem setState_records (state : LoggerState) :
    (d.setState state).stateRecords = d.stateRecords := rfl

@[simp] theorem bleMcumgrStop_records : d.bleMcumgrStop.stateRecords = d.stateRecords := rfl

@[simp] theorem bleMcumgrRestart_records : d.bleMcumgrRestart.stateRecords = d.stateRecords := rfl

@[simp] theorem newSession_records (rand : UInt32) (now : UInt64) :
    (d.newSession rand now).stateRecords = d.stateRecords := rfl

@[simp] theorem createSessionDirectory_records (e : StartEnv) :
    (createSessionDirectory e d).1.stateRecords = d.stateRecords := rfl

@[simp] theorem openFile_records (e : OpenEnv) :
    (d.openFile e).1.stateRecords = d.stateRecords := rfl

@[simp] theorem openTty_records (dtr : Option Bool) :
    (d.openTty dtr).1.stateRecords = d.stateRecords := rfl

@[simp] theorem startAggregator_records (now : UInt64) :
    (d.startAggregator now).1.stateRecords = d.stateRecords := rfl

@[simp] theorem groundAltitudeWorkHandler_records (sample : Option ℚ) :
    (d.groundAltitudeWorkHandler sample).stateRecords = d.stateRecords := by
  unfold groundAltitudeWorkHandler
  split <;> rfl

@[simp] theorem startGroundAltitudeSampling_records (sample : Option ℚ) :
    (d.startGroundAltitudeSampling sample).stateRecords = d.stateRecords :=
  groundAltitudeWorkHandler_records d sample

@[simp] theorem configureSession_records (callback : OutputCallback) :
    (d.configureSession callback).stateRecords = d.stateRecords := by
  rw [configureSession, writeSessionHeader_records]
  rfl

@[simp] theorem closeOutput_records (e : CloseEnv) :
    (d.closeOutput e).stateRecords = d.stateRecords := by
  unfold closeOutput
  split <;> rfl

@[simp] theorem sampleIfIdle_records (sample : Option ℚ) :
    (d.sampleIfIdle sample).stateRecords = d.stateRecords := by
  unfold sampleIfIdle
  split
  · exact startGroundAltitudeSampling_records d sample
  · rfl

@[simp] theorem executiveTick_records (currentState : LoggerState) :
    (d.executiveTick currentState).1.stateRecords = d.stateRecords := by
  unfold executiveTick
  split
  · rfl
  · cases currentState <;> rfl

end Device

section Functions

variable (d : Device)

@[simp] theorem takeoffDetection_records (climbRate agl : ℚ) :
    (takeoffDetection climbRate agl d).1.stateRecords = d.stateRecords := by
  unfold takeoffDetection
  split
  · split <;> rfl
  · rfl

@[simp] theorem baroHandlerUpdate_records (s : BaroReading) :
    (baroHandlerUpdate s d).1.stateRecords = d.stateRecords := by
  unfold baroHandlerUpdate
  split
  · rfl
  · simp only
    split
    · rfl
    · split
      · rfl
      · rw [takeoffDetection_records]
        rfl

@[simp] theorem loggerStartLocked_records (e : StartEnv) :
    (loggerStartLocked e d).1.stateRecords = d.stateRecords := by
  unfold loggerStartLocked
  split
  · rfl
  · simp only
    rw [if_neg (by simp [createSessionDirectory])]
    split
    · simp
    · split <;> simp

@[simp] theorem loggerStartUsbLocked_records (e : UsbStartEnv) :
    (loggerStartUsbLocked e d).1.stateRecords = d.stateRecords := by
  unfold loggerStartUsbLocked
  split
  · rfl
  · split
    · rfl
    · simp only
      split
      · simp
      · split <;> simp

/-- The longest reason of a start that fits its line. -/
def maxReason : Nat := 92

/-- A start fails without a record, or makes a session on the SD card, with one if
the reason fits the line. -/
theorem loggerStart_records (reason : Bytes) (e : StartEnv) :
    ((loggerStart reason e d).2 ≠ 0 ∧
      (loggerStart reason e d).1.stateRecords = d.stateRecords) ∨
    ((loggerStart reason e d).2 = 0 ∧ d.flags.state.canStart = true ∧ d.flags.running = false ∧
      (loggerStart reason e d).1.flags =
        { d.flags with
          state := .logging, running := true, callback := some .toFile, fileOpen := true
          accelFilter := true } ∧
      (reason.length ≤ maxReason →
        (loggerStart reason e d).1.stateRecords =
          d.stateRecords ++ [(stateToString d.flags.state, ascii "LOGGING")])) := by
  have hrecords := loggerStartLocked_records d e
  unfold loggerStart
  rcases loggerStartLocked_cases d e with
    ⟨-, hret, -⟩ | ⟨-, hret, -⟩ | ⟨hcan, hrun, hret, hflags⟩
  · exact .inl (by simp [hret, hrecords])
  · exact .inl (by simp [hret, hrecords])
  · right
    simp only [hret, ne_eq, not_true_eq_false, if_false, Device.bleMcumgrStop_flags,
      Device.enableAccelFilter_flags, Device.executiveResetCounters_flags, Device.gnssSetRate_flags,
      Device.publishSessionStart_flags, Device.writeStateChange_flags, hflags, true_and,
      Device.bleMcumgrStop_records, Device.enableAccelFilter_records,
      Device.executiveResetCounters_records, Device.gnssSetRate_records,
      Device.publishSessionStart_records]
    refine ⟨hcan, hrun, fun hreason => ?_⟩
    have hold : (stateToString d.flags.state).length ≤ 5 := by
      revert hcan
      cases d.flags.state <;> decide
    have hnew : (stateToString .logging).length = 7 := by decide
    rw [← hrecords]
    refine Device.writeStateChange_records _ _ ?_ (by rw [hflags]; rfl)
    have hstate : d.logger.state = d.flags.state := rfl
    rw [hstate]
    unfold maxReason at hreason
    omega

/-- A start over USB records nothing when it fails, and none succeeds while the
aggregator runs. -/
theorem loggerStartUsb_records (e : UsbStartEnv) :
    ((loggerStartUsb e d).2 ≠ 0 ∧
      (loggerStartUsb e d).1.stateRecords = d.stateRecords) ∨
    ((loggerStartUsb e d).2 = 0 ∧ d.flags.state.canStart = true ∧ d.flags.running = false) := by
  have hrecords := loggerStartUsbLocked_records d e
  unfold loggerStartUsb
  rcases loggerStartUsbLocked_cases d e with
    ⟨hret, -⟩ | ⟨-, hret, -⟩ | ⟨hcan, hrun, hret, -⟩
  · exact .inl (by simp [hret, hrecords])
  · exact .inl (by simp [hret, hrecords])
  · exact .inr ⟨by simp [hret], hcan, hrun⟩

theorem loggerJumped_records (now : UInt64) :
    ((loggerJumped now d).2 ≠ 0 ∧ d.flags.state ≠ .logging ∧ (loggerJumped now d).1 = d) ∨
    ((loggerJumped now d).2 = 0 ∧ d.flags.state = .logging ∧
      (loggerJumped now d).1.flags = { d.flags with state := .jumped } ∧
      (d.flags.callback.isSome = true →
        (loggerJumped now d).1.stateRecords =
          d.stateRecords ++ [(ascii "LOGGING", ascii "JUMPED")])) := by
  rw [loggerJumped_eq]
  split
  · rename_i hstate
    refine .inr ⟨rfl, hstate, by simp, fun hcallback => ?_⟩
    rw [Device.publish_records,
      Device.writeStateChange_records _ _ (by decide) (by simpa using hcallback)]
    simp [stateToString]
  · rename_i hstate
    exact .inl ⟨by simp [Errno.einval], hstate, rfl⟩

theorem loggerStop_records (e : StopEnv) :
    ((loggerStop e d).2 ≠ 0 ∧ d.flags.state.canStop = false ∧ (loggerStop e d).1 = d) ∨
    ((loggerStop e d).2 = 0 ∧ d.flags.state.canStop = true ∧
      (d.flags.callback.isSome = true →
        (loggerStop e d).1.stateRecords =
          d.stateRecords ++ [(stateToString d.flags.state, ascii "IDLE")])) := by
  rw [loggerStop_eq]
  split
  · rename_i hstate
    refine .inr ⟨rfl, hstate, fun hcallback => ?_⟩
    have hfit : (stateToString d.flags.state).length + (stateToString .idle).length +
        (ascii "manual_stop").length ≤ 104 := by
      cases d.flags.state <;> decide
    simp only [Device.bleMcumgrRestart_records, Device.sampleIfIdle_records,
      Device.publishSessionStop_records, Device.closeOutput_records,
      Device.stopAggregator_records]
    exact Device.writeStateChange_records _ _ hfit (by simpa using hcallback)
  · rename_i hstate
    exact .inl ⟨by simp [Errno.einval], Bool.eq_false_of_not_eq_true hstate, rfl⟩

@[simp] theorem loggerArm_records (e : ArmEnv) :
    (loggerArm e d).stateRecords = d.stateRecords := by
  rw [loggerArm, loggerArmLocked, Device.publish_records, Device.setState_records,
    Device.startGroundAltitudeSampling_records]
  rfl

@[simp] theorem loggerDisarm_records (groundSample : Option ℚ) :
    (loggerDisarm groundSample d).1.stateRecords = d.stateRecords := by
  rw [loggerDisarm_eq]
  split
  · simp
  · rfl

end Functions

/-- A call that returns an error records nothing. -/
structure FailuresSilent (d : Device) : Prop where
  start : ∀ reason e, (loggerStart reason e d).2 ≠ 0 →
    (loggerStart reason e d).1.stateRecords = d.stateRecords
  startUsb : ∀ e, (loggerStartUsb e d).2 ≠ 0 →
    (loggerStartUsb e d).1.stateRecords = d.stateRecords
  jumped : ∀ now, (loggerJumped now d).2 ≠ 0 →
    (loggerJumped now d).1.stateRecords = d.stateRecords
  stop : ∀ e, (loggerStop e d).2 ≠ 0 → (loggerStop e d).1.stateRecords = d.stateRecords
  disarm : ∀ groundSample, (loggerDisarm groundSample d).2 ≠ 0 →
    (loggerDisarm groundSample d).1.stateRecords = d.stateRecords

theorem failuresSilent (d : Device) : FailuresSilent d where
  start reason e h := by
    rcases loggerStart_records d reason e with ⟨-, hrecords⟩ | ⟨hret, -⟩
    · exact hrecords
    · exact absurd hret h
  startUsb e h := by
    rcases loggerStartUsb_records d e with ⟨-, hrecords⟩ | ⟨hret, -⟩
    · exact hrecords
    · exact absurd hret h
  jumped now h := by
    rcases loggerJumped_records d now with ⟨-, -, hsame⟩ | ⟨hret, -⟩
    · rw [hsame]
    · exact absurd hret h
  stop e h := by
    rcases loggerStop_records d e with ⟨-, -, hsame⟩ | ⟨hret, -⟩
    · rw [hsame]
    · exact absurd hret h
  disarm groundSample _ := loggerDisarm_records d groundSample

/-! ## Sessions -/

/-- The call of `logger_start` that an operation makes. -/
def Device.startCall (d : Device) : LoggerOp → Option (Device × Int)
  | .start reason e => some (loggerStart reason e d)
  | .executive e =>
    let tick := d.executiveTick d.logger.state
    if !d.logger.usbMode ∧ tick.2 = .start then
      some (loggerStart (ascii "takeoff_detected") e.start tick.1)
    else none
  | .baroSample s e =>
    let r := baroHandlerUpdate s d
    if r.2 then some (loggerStart (ascii "takeoff_detected") e r.1) else none
  | _ => none

/-- The call of `logger_stop` that an operation makes. -/
def Device.stopCall (d : Device) : LoggerOp → Option (Device × Int)
  | .stop e => some (loggerStop e d)
  | .usbDisconnect e => some (loggerStop e d)
  | .executive e =>
    let tick := d.executiveTick d.logger.state
    if !d.logger.usbMode ∧ tick.2 = .rearm then some (loggerStop e.stop tick.1) else none
  | _ => none

/-- The operation makes a `logger_start` that returns 0. -/
def StartsSession (d : Device) (op : LoggerOp) : Prop := (d.startCall op).any (·.2 == 0) = true

/-- The operation makes a `logger_stop` that returns 0. -/
def EndsSession (d : Device) (op : LoggerOp) : Prop := (d.stopCall op).any (·.2 == 0) = true

instance (d : Device) (op : LoggerOp) : Decidable (StartsSession d op) :=
  inferInstanceAs (Decidable (_ = true))

instance (d : Device) (op : LoggerOp) : Decidable (EndsSession d op) :=
  inferInstanceAs (Decidable (_ = true))

/-- The reason given by a caller of `logger_start` fits its line; all other reasons
are literals of the logger. -/
def LoggerOp.ReasonFits : LoggerOp → Prop
  | .start reason _ => reason.length ≤ maxReason
  | _ => True

/-- The reasons that the callers of `logger_start` give. -/
def startReasons : List Bytes :=
  [ascii "manual_start", ascii "takeoff_detected", ascii "test_alarm",
    ascii "ble_commanded_start", ascii "shell_commanded_start"]

/-- Every caller's reason fits. -/
theorem reasonFits_of_mem {reason : Bytes} (h : reason ∈ startReasons) (e : StartEnv) :
    (LoggerOp.start reason e).ReasonFits := by
  have hall : ∀ r ∈ startReasons, r.length ≤ maxReason := by decide
  exact hall reason h

/-- The records of a session, from the start to the stop. -/
structure StateChain (records : List (Bytes × Bytes)) : Prop where
  first : ∃ oldState, records.head? = some (oldState, ascii "LOGGING") ∧
    (oldState = ascii "IDLE" ∨ oldState = ascii "ARMED")
  linked : records.IsChain fun r r' => r'.1 = r.2
  jumpedOnce : records.countP (fun r => r.2 = ascii "JUMPED") ≤ 1
  jumpedFrom : ∀ r ∈ records, r.2 = ascii "JUMPED" → r.1 = ascii "LOGGING"
  last : ∃ oldState, records.getLast? = some (oldState, ascii "IDLE")

/-- The session that began after the records `before` is still open, or an arming has
taken its state away; then it can be neither stopped nor followed by another. -/
inductive OpenSession (before : List (Bytes × Bytes)) (d : Device) : Prop where
  | logging (oldState : Bytes) (hold : oldState = ascii "IDLE" ∨ oldState = ascii "ARMED")
      (hstate : d.flags.state = .logging) (hrun : d.flags.running = true)
      (hcallback : d.flags.callback = some .toFile)
      (hrecords : d.stateRecords = before ++ [(oldState, ascii "LOGGING")])
  | jumped (oldState : Bytes) (hold : oldState = ascii "IDLE" ∨ oldState = ascii "ARMED")
      (hstate : d.flags.state = .jumped) (hrun : d.flags.running = true)
      (hcallback : d.flags.callback = some .toFile)
      (hrecords : d.stateRecords =
        before ++ [(oldState, ascii "LOGGING"), (ascii "LOGGING", ascii "JUMPED")])
  | abandoned (hstate : d.flags.state.canStart = true) (hrun : d.flags.running = true)

namespace OpenSession

variable {before : List (Bytes × Bytes)} {d d' : Device}

theorem of_same (h : OpenSession before d) (hstate : d'.flags.state = d.flags.state)
    (hrun : d'.flags.running = d.flags.running) (hcallback : d'.flags.callback = d.flags.callback)
    (hrecords : d'.stateRecords = d.stateRecords) : OpenSession before d' := by
  cases h with
  | logging oldState hold hs hr hc hrec =>
    exact .logging oldState hold (hstate.trans hs) (hrun.trans hr) (hcallback.trans hc)
      (hrecords.trans hrec)
  | jumped oldState hold hs hr hc hrec =>
    exact .jumped oldState hold (hstate.trans hs) (hrun.trans hr) (hcallback.trans hc)
      (hrecords.trans hrec)
  | abandoned hs hr => exact .abandoned (by rw [hstate]; exact hs) (hrun.trans hr)

theorem running (h : OpenSession before d) : d.flags.running = true := by
  cases h with
  | logging _ _ _ hrun => exact hrun
  | jumped _ _ _ hrun => exact hrun
  | abandoned _ hrun => exact hrun

/-- A start that returns 0 opens a session. -/
theorem of_loggerStart {reason : Bytes} (hreason : reason.length ≤ maxReason) {e : StartEnv}
    (hret : (loggerStart reason e d).2 = 0) :
    OpenSession d.stateRecords (loggerStart reason e d).1 := by
  rcases loggerStart_records d reason e with ⟨hfail, -⟩ | ⟨-, hcan, -, hflags, hrecords⟩
  · exact absurd hret hfail
  · refine .logging (stateToString d.flags.state) ?_ (by rw [hflags]) (by rw [hflags])
      (by rw [hflags]) (hrecords hreason)
    revert hcan
    cases d.flags.state <;> simp [LoggerState.canStart, stateToString]

/-- No start succeeds in an open session. -/
theorem start (h : OpenSession before d) (reason : Bytes) (e : StartEnv) :
    OpenSession before (loggerStart reason e d).1 := by
  have hfirst (hret : (loggerStartLocked e d).2 ≠ 0) :
      loggerStart reason e d = loggerStartLocked e d := by
    simp [loggerStart, hret]
  rcases loggerStartLocked_cases d e with
    ⟨-, hret, hsame⟩ | ⟨hcan, hret, callback, hflags⟩ | ⟨-, hrun, -⟩
  · rw [hfirst hret, hsame]
    exact h
  · rw [hfirst hret]
    cases h with
    | logging _ _ hstate => simp [hstate, LoggerState.canStart] at hcan
    | jumped _ _ hstate => simp [hstate, LoggerState.canStart] at hcan
    | abandoned _ hrun => exact .abandoned (by rw [hflags]; exact hcan) (by rw [hflags]; exact hrun)
  · rw [h.running] at hrun
    contradiction

theorem startUsb (h : OpenSession before d) (e : UsbStartEnv) :
    OpenSession before (loggerStartUsb e d).1 := by
  have hfirst (hret : (loggerStartUsbLocked e d).2 ≠ 0) :
      loggerStartUsb e d = loggerStartUsbLocked e d := by
    simp [loggerStartUsb, hret]
  rcases loggerStartUsbLocked_cases d e with
    ⟨hret, hsame⟩ | ⟨hcan, hret, callback, ttyOpen, hflags⟩ | ⟨-, hrun, -⟩
  · rw [hfirst hret, hsame]
    exact h
  · rw [hfirst hret]
    cases h with
    | logging _ _ hstate => simp [hstate, LoggerState.canStart] at hcan
    | jumped _ _ hstate => simp [hstate, LoggerState.canStart] at hcan
    | abandoned _ hrun => exact .abandoned (by rw [hflags]; exact hcan) (by rw [hflags]; exact hrun)
  · rw [h.running] at hrun
    contradiction

theorem jump (h : OpenSession before d) (now : UInt64) :
    OpenSession before (loggerJumped now d).1 := by
  rcases loggerJumped_records d now with ⟨-, -, hsame⟩ | ⟨-, hstate, hflags, hrecords⟩
  · rw [hsame]
    exact h
  · cases h with
    | logging oldState hold _ hrun hcallback hrec =>
      refine .jumped oldState hold (by rw [hflags]) (by rw [hflags]; exact hrun)
        (by rw [hflags]; exact hcallback) ?_
      rw [hrecords (by rw [hcallback]; rfl), hrec, List.append_assoc]
      rfl
    | jumped _ _ hjumped =>
      rw [hstate] at hjumped
      contradiction
    | abandoned hcan =>
      rw [hstate] at hcan
      contradiction

theorem arm (h : OpenSession before d) (e : ArmEnv) : OpenSession before (loggerArm e d) :=
  .abandoned (by rw [loggerArm_flags]; rfl) (by rw [loggerArm_flags]; exact h.running)

theorem disarm (h : OpenSession before d) (groundSample : Option ℚ) :
    OpenSession before (loggerDisarm groundSample d).1 := by
  by_cases hstate : d.logger.state = .armed
  · have hflags : (loggerDisarm groundSample d).1.flags = { d.flags with state := .idle } := by
      simp [loggerDisarm_eq, hstate]
    exact .abandoned (by rw [hflags]; rfl) (by rw [hflags]; exact h.running)
  · have hsame : (loggerDisarm groundSample d).1 = d := by
      simp [loggerDisarm_eq, hstate]
    rw [hsame]
    exact h

/-- A stop that returns an error leaves the session open. -/
theorem stop (h : OpenSession before d) {e : StopEnv} (hret : (loggerStop e d).2 ≠ 0) :
    OpenSession before (loggerStop e d).1 := by
  rcases loggerStop_records d e with ⟨-, -, hsame⟩ | ⟨hzero, -⟩
  · rw [hsame]
    exact h
  · exact absurd hzero hret

theorem executive (h : OpenSession before d) (e : ExecutiveEnv)
    (hop : ¬ EndsSession d (.executive e)) : OpenSession before (loggerExecutive e d) := by
  unfold loggerExecutive
  split
  · exact h
  · rename_i husb
    simp only
    have hrearm := isActive_of_executiveTick_rearm d d.logger.state
    have hticked : OpenSession before (d.executiveTick d.logger.state).1 :=
      h.of_same (by simp) (by simp) (by simp) (by simp)
    cases haction : (d.executiveTick d.logger.state).2 with
    | none => exact hticked
    | start => exact hticked.start _ e.start
    | jumped => exact hticked.jump e.jumpedNow
    | rearm =>
      -- a tick rearms only in an active state, which its stop ends
      have hstop : (d.executiveTick d.logger.state).1.status.state.canStop = true := by
        rw [Device.executiveTick_status]
        have hactive := hrearm haction
        unfold Device.status
        revert hactive
        cases d.logger.state <;> simp [LoggerState.isActive, LoggerState.canStop]
      refine absurd ?_ hop
      simp [EndsSession, Device.stopCall, husb, haction, (loggerStop_ret _ e.stop).mpr hstop]

theorem baroHandler (h : OpenSession before d) (s : BaroReading) (e : StartEnv) :
    OpenSession before (loggerBaroHandler s e d) := by
  have hupdated : OpenSession before (baroHandlerUpdate s d).1 :=
    h.of_same (by simp) (by simp) (by simp) (by simp)
  unfold loggerBaroHandler
  simp only
  split
  · exact hupdated.start _ e
  · exact hupdated

/-- An operation that does not end the session leaves it open. -/
theorem step (h : OpenSession before d) {op : LoggerOp} (hop : ¬ EndsSession d op) :
    OpenSession before (loggerStep d op).1 := by
  cases op with
  | start reason e => exact h.start reason e
  | startUsb e => exact h.startUsb e
  | jumped now => exact h.jump now
  | stop e => exact h.stop (by simpa [EndsSession, Device.stopCall] using hop)
  | arm e => exact h.arm e
  | disarm groundSample => exact h.disarm groundSample
  | executive e => exact h.executive e hop
  | baroSample s e => exact h.baroHandler s e
  | usbDisconnect e => exact h.stop (by simpa [EndsSession, Device.stopCall] using hop)
  | groundAltitudeTimer sample =>
    exact h.of_same (by simp [loggerStep]) (by simp [loggerStep]) (by simp [loggerStep])
      (by simp [loggerStep])
  | accelSample magnitudeG => exact h.of_same rfl rfl rfl rfl

/-- The start of a session on the SD card. -/
theorem of_startsSession {op : LoggerOp} (hstart : StartsSession d op) (hreason : op.ReasonFits) :
    OpenSession d.stateRecords (loggerStep d op).1 := by
  have htakeoff : (ascii "takeoff_detected").length ≤ maxReason := by decide
  cases op with
  | start reason e =>
    exact of_loggerStart hreason (by simpa [StartsSession, Device.startCall] using hstart)
  | executive e =>
    simp only [StartsSession, Device.startCall, Bool.not_eq_true'] at hstart
    split at hstart
    · rename_i hcall
      have hstep : (loggerStep d (.executive e)).1 =
          (loggerStart (ascii "takeoff_detected") e.start
            (d.executiveTick d.logger.state).1).1 := by
        simp [loggerStep, loggerExecutive, executiveAct, hcall]
      rw [hstep, ← d.executiveTick_records d.logger.state]
      exact of_loggerStart htakeoff (by simpa using hstart)
    · simp at hstart
  | baroSample s e =>
    simp only [StartsSession, Device.startCall] at hstart
    split at hstart
    · rename_i hcall
      have hstep : (loggerStep d (.baroSample s e)).1 =
          (loggerStart (ascii "takeoff_detected") e (baroHandlerUpdate s d).1).1 := by
        simp [loggerStep, loggerBaroHandler, hcall]
      rw [hstep, ← baroHandlerUpdate_records d s]
      exact of_loggerStart htakeoff (by simpa using hstart)
    · simp at hstart
  | startUsb | jumped | stop | arm | disarm | usbDisconnect | groundAltitudeTimer | accelSample =>
    simp [StartsSession, Device.startCall] at hstart

/-- What a successful stop completes. -/
theorem chain_of_loggerStop (h : OpenSession before d) {e : StopEnv}
    (hret : (loggerStop e d).2 = 0) :
    ∃ records, (loggerStop e d).1.stateRecords = before ++ records ∧ StateChain records := by
  rcases loggerStop_records d e with ⟨hfail, -⟩ | ⟨-, hstop, hrecords⟩
  · exact absurd hret hfail
  · cases h with
    | logging oldState hold hstate _ hcallback hrec =>
      refine ⟨[(oldState, ascii "LOGGING"), (ascii "LOGGING", ascii "IDLE")], ?_, ?_⟩
      · rw [hrecords (by rw [hcallback]; rfl), hrec, hstate, List.append_assoc]
        rfl
      · exact
          { first := ⟨oldState, rfl, hold⟩
            linked := by simp
            jumpedOnce := by simp [ascii]
            jumpedFrom := by simp [ascii]
            last := ⟨ascii "LOGGING", rfl⟩ }
    | jumped oldState hold hstate _ hcallback hrec =>
      refine ⟨[(oldState, ascii "LOGGING"), (ascii "LOGGING", ascii "JUMPED"),
        (ascii "JUMPED", ascii "IDLE")], ?_, ?_⟩
      · rw [hrecords (by rw [hcallback]; rfl), hrec, hstate, List.append_assoc]
        rfl
      · exact
          { first := ⟨oldState, rfl, hold⟩
            linked := by simp
            jumpedOnce := by simp [ascii]
            jumpedFrom := by simp [ascii]
            last := ⟨ascii "JUMPED", rfl⟩ }
    | abandoned hcan =>
      revert hcan hstop
      cases d.flags.state <;> simp [LoggerState.canStart, LoggerState.canStop]

/-- The end of the session. -/
theorem chain_of_endsSession (h : OpenSession before d) {op : LoggerOp} (hend : EndsSession d op) :
    ∃ records, (loggerStep d op).1.stateRecords = before ++ records ∧ StateChain records := by
  cases op with
  | stop e => exact h.chain_of_loggerStop (by simpa [EndsSession, Device.stopCall] using hend)
  | usbDisconnect e =>
    exact h.chain_of_loggerStop (by simpa [EndsSession, Device.stopCall] using hend)
  | executive e =>
    simp only [EndsSession, Device.stopCall, Bool.not_eq_true'] at hend
    split at hend
    · rename_i hcall
      have hticked : OpenSession before (d.executiveTick d.logger.state).1 :=
        h.of_same (by simp) (by simp) (by simp) (by simp)
      obtain ⟨records, hrecords, hchain⟩ := hticked.chain_of_loggerStop (by simpa using hend)
      refine ⟨records, ?_, hchain⟩
      -- the arming after the stop records nothing
      have hstep : (loggerStep d (.executive e)).1.stateRecords =
          (loggerStop e.stop (d.executiveTick d.logger.state).1).1.stateRecords := by
        simp [loggerStep, loggerExecutive, executiveAct, hcall]
      rw [hstep, hrecords]
    · simp at hend
  | start | startUsb | jumped | arm | disarm | baroSample | groundAltitudeTimer | accelSample =>
    simp [EndsSession, Device.stopCall] at hend

end OpenSession

/-- **State records form a chain** in every session on the SD card, in every run, and
a call that fails records nothing. -/
theorem stateRecords_chain (config : LoggerConfig) (usbEnabled : Bool) (version : AppVersion)
    (first second : Option ℚ) (before during : List LoggerOp) (start stop : LoggerOp)
    (hreason : start.ReasonFits)
    (hstart : StartsSession
      (Machine.run loggerStep (loggerInit config usbEnabled version first second) before).1 start)
    (hduring : Machine.Guarded loggerStep (fun d op => ¬ EndsSession d op)
      (Machine.run loggerStep (loggerInit config usbEnabled version first second)
        (before ++ [start])).1 during)
    (hstop : EndsSession
      (Machine.run loggerStep (loggerInit config usbEnabled version first second)
        (before ++ start :: during)).1 stop) :
    (∃ records,
      (Machine.run loggerStep (loggerInit config usbEnabled version first second)
          (before ++ start :: during ++ [stop])).1.stateRecords =
        (Machine.run loggerStep (loggerInit config usbEnabled version first second)
          before).1.stateRecords ++ records ∧
      StateChain records) ∧
    ∀ d, FailuresSilent d := by
  refine ⟨?_, failuresSilent⟩
  simp only [Machine.run_append, Machine.run_cons_fst, Machine.run_nil] at hstart hduring hstop ⊢
  generalize (Machine.run loggerStep (loggerInit config usbEnabled version first second)
    before).1 = d at hstart hduring hstop ⊢
  have hopen : OpenSession d.stateRecords
      (Machine.run loggerStep (loggerStep d start).1 during).1 :=
    Machine.Guarded.invariant (fun _ _ h hop => h.step hop) (.of_startsSession hstart hreason)
      hduring
  exact hopen.chain_of_endsSession hstop

/-- A start that the card refuses, then a session that a button starts and the alarm
jumps, with one more start in it. -/
theorem stateRecords_chain_jump :
    (∃ records,
      (Machine.run loggerStep (loggerInit (loggerCfg false) true ⟨[], [], [], 0⟩ none none)
          ([.arm .working, .start [] { StartEnv.working with file.file := .error 4 }] ++
            .start (ascii "manual_start") .working :: [.jumped 5500000, .start [] .working] ++
            [.stop .working])).1.stateRecords =
        (Machine.run loggerStep (loggerInit (loggerCfg false) true ⟨[], [], [], 0⟩ none none)
          [.arm .working,
            .start [] { StartEnv.working with file.file := .error 4 }]).1.stateRecords ++ records ∧
      StateChain records) ∧
    ∀ d, FailuresSilent d :=
  stateRecords_chain (loggerCfg false) true ⟨[], [], [], 0⟩ none none
    [.arm .working, .start [] { StartEnv.working with file.file := .error 4 }]
    [.jumped 5500000, .start [] .working] (.start (ascii "manual_start") .working) (.stop .working)
    (reasonFits_of_mem (by decide) _) (by decide +kernel) (by decide +kernel) (by decide +kernel)

end TempoBt
