-- SUMMARY: What guards the active session against other features, and the states in which it is guarded.
import TempoBt.App.SystemStatus
import TempoBt.Lib.Machine
import TempoBt.Services.Logger.SessionData
import TempoBt.Services.Storage.Listing

/-!
# The active session

A firmware update, the deletion of a session and the stop over BLE each test the
state of the logger on their own. They hold the session on the SD card for active in
LOGGING, and not any more once it has jumped.
-/

namespace TempoBt

open CString

/-! ## Firmware updates -/

/-- The events of the image management that are told apart. -/
inductive MgmtEvent where
  | imgMgmtDfuChunk
  | other
  deriving DecidableEq

/-- `enum mgmt_cb_return` -/
inductive MgmtCbReturn where
  | ok
  | errorRc
  deriving DecidableEq

/-- `dfu_mgmt_action` -/
def dfuMgmtAction (event : MgmtEvent) (d : Device) : MgmtCbReturn :=
  if event = .imgMgmtDfuChunk then
    if d.logger.state = .logging then .errorRc else .ok
  else .ok

/-! ## Deleting a session -/

/-- `struct delete_context`, and the paths handed to `storage_delete` so far. -/
structure DeleteContext where
  error : Int
  filesDeleted : Int
  handed : List Bytes

/-- `delete_files_callback`; `delete` answers `storage_delete`. -/
def deleteFilesCallback (delete : Bytes → Int) (path : Bytes) (isDir : Bool) (_size : Nat)
    (ctx : DeleteContext) : DeleteContext × Int :=
  if isDir then (ctx, 0)
  else
    let ctx := { ctx with handed := ctx.handed ++ [path] }
    if delete path ≠ 0 ∧ delete path ≠ -Errno.enoent then ({ ctx with error := delete path }, -1)
    else ({ ctx with filesDeleted := ctx.filesDeleted + 1 }, 0)

/-- What the storage answers to one request to delete. -/
structure DeleteEnv where
  dirs : Bytes → DirListing
  delete : Bytes → Int

inductive SessionDeleteResponse where
  /-- `Session is currently active` -/
  | currentlyActive
  | deleted (filesDeleted : Int)

/-- The test whether `sessionPath` is being logged to. -/
def isCurrentSession (sessionPath : Bytes) (d : Device) : Bool :=
  d.logger.state == .logging &&
    match loggerGetSessionInfo 256 d with
    | .ok (_, _, currentSessionPath) => strstr currentSessionPath sessionPath
    | .error _ => false

/-- `tempo_mgmt_session_delete`: the paths handed to `storage_delete`, and the
reply. -/
def tempoMgmtSessionDelete (b : StorageBackend) (request : SmpRequest) (e : DeleteEnv)
    (d : Device) : Option (List Bytes × Except MgmtErr SessionDeleteResponse) :=
  match decodeMap (textField (ascii "session")) request none with
  | none | some none => some ([], .error .einval)
  | some (some sessionName) =>
    let sessionPath := copied 256 (ascii "/logs/" ++ cstr sessionName)
    if isCurrentSession sessionPath d then some ([], .ok .currentlyActive)
    else
      (storageListDir b e.dirs sessionPath (deleteFilesCallback e.delete) ⟨0, 0, []⟩).map fun r =>
        if r.1.error ≠ 0 then (r.1.handed, .error .eunknown)
        -- what the deletion of the directory returns is only logged
        else (r.1.handed ++ [sessionPath], .ok (.deleted r.1.filesDeleted))

/-! ## Protection -/

/-- A session on the SD card is active. -/
def System.SdActive (s : System) : Prop :=
  s.device.status.state.isActive = true ∧ s.device.status.usbMode = false

/-- The request names the session that leads to `sessionPath`. -/
def DeletesSession (request : SmpRequest) (sessionPath : Bytes) : Prop :=
  ∃ key, sessionPath = ascii "/logs/" ++ key ∧
    decodeMap (textField (ascii "session")) request none = some (some key)

/-- The request asks the logger control to stop. -/
def AsksToStop (request : SmpRequest) : Prop :=
  decodeMap (textField (ascii "action")) request none = some (some (ascii "stop"))

/-- The features around the logger treat the session of the device as active. -/
structure ActiveSessionProtected (d : Device) : Prop where
  dfuRefused : dfuMgmtAction .imgMgmtDfuChunk d = .errorRc
  deletable : ∃ request, DeletesSession request d.session.sessionPath
  deleteRefused : ∀ request, DeletesSession request d.session.sessionPath → ∀ b e,
    tempoMgmtSessionDelete b request e d = some ([], .ok .currentlyActive)
  info : ∀ pathSize, loggerGetSessionInfo pathSize d =
    .ok (d.session.sessionId, d.session.sessionStartUs, copied pathSize d.session.sessionPath)
  stops : ∀ request, AsksToStop request → ∀ e,
    (tempoMgmtLoggerControl request e d).1.status.state = .idle ∧
      ∃ response, (tempoMgmtLoggerControl request e d).2 = .ok response ∧ response.state = .idle

/-- A key is recognised in the path of its session, however much of both fits. -/
theorem strstr_session_key (size : Nat) (key : Bytes) :
    strstr (copied size (ascii "/logs/" ++ key)) (copied size (ascii "/logs/" ++ cstr key)) =
      true := by
  apply strstr_of_prefix
  have hkey : ascii "/logs/" ++ cstr key <+: ascii "/logs/" ++ key :=
    (List.prefix_append_right_inj _).mpr (List.takeWhile_prefix _)
  exact hkey.take (size - 1)

/-- In LOGGING everything guards the session. -/
theorem activeSessionProtected_of_logging {d : Device} (hstate : d.status.state = .logging)
    {key : Bytes} (hkey : d.session.sessionPath = ascii "/logs/" ++ key) :
    ActiveSessionProtected d := by
  have hlogging : d.logger.state = .logging := hstate
  have hinfo (pathSize : Nat) : loggerGetSessionInfo pathSize d =
      .ok (d.session.sessionId, d.session.sessionStartUs,
        copied pathSize d.session.sessionPath) := by
    rw [loggerGetSessionInfo, if_neg (by simp [hlogging])]
    rfl
  refine ⟨?_, ?_, ?_, hinfo, ?_⟩
  · rw [dfuMgmtAction, if_pos rfl, if_pos hlogging]
  · exact ⟨textRequest (ascii "session") key, key, hkey, decodeMap_textRequest _ key⟩
  · rintro request ⟨key', hkey', hrequest⟩ b e
    have hcurrent : isCurrentSession (copied 256 (ascii "/logs/" ++ cstr key')) d = true := by
      rw [isCurrentSession, hinfo, hkey', hlogging]
      exact strstr_session_key 256 key'
    rw [tempoMgmtSessionDelete, hrequest]
    simp only [hcurrent, if_true]
  · intro request hrequest e
    have hstop : (loggerStop e.stop d).2 = 0 := by
      rw [loggerStop_ret, hstate]
      rfl
    have hidle : (loggerStop e.stop d).1.status.state = .idle := by
      rw [loggerStop_status, if_pos (by rw [hstate]; rfl)]
    have hact : controlAct e d .stop = loggerStop e.stop d := by rw [controlAct, if_pos hlogging]
    have haction : controlAction (ascii "stop") = some .stop := by decide +kernel
    have hrequest : decodeMap (textField (ascii "action")) request none =
        some (some (ascii "stop")) := hrequest
    rw [tempoMgmtLoggerControl, hrequest]
    simp only [haction, hact, hstop]
    exact ⟨hidle, _, rfl, rfl⟩

/-! ## Reachable states -/

namespace System

/-- The logger makes its directories below `/logs`, and an active session on the SD
card has a key. -/
def HasKey (s : System) : Prop :=
  s.device.session.config.basePath = ascii "/logs" ∧
    (s.device.status.state.canStart = false → s.device.status.usbMode = false →
      ∃ key, s.device.session.HasKey key)

theorem HasKey.of_preservesSession {s s' : System} (h : s.HasKey)
    (hkeeps : PreservesSession s.device s'.device) : s'.HasKey := by
  refine ⟨by rw [hkeeps.config]; exact h.1, fun hcan' husb' => ?_⟩
  cases hcan : s.device.status.state.canStart with
  | true => exact hkeeps.named hcan hcan' husb'
  | false =>
    rw [hkeeps.kept hcan]
    exact h.2 hcan (by rw [← hkeeps.mode hcan hcan', husb'])

theorem controlAct_preservesSession (e : ControlEnv) (d : Device) (action : ControlAction) :
    PreservesSession d (controlAct e d action).1 := by
  cases action with
  | start =>
    rw [controlAct]
    cases hstate : d.logger.state with
    | armed => exact loggerStart_preservesSession d _ e.start
    | idle => exact loggerStart_loggerArm_preservesSession hstate e.arm _ e.start
    | logging => exact .refl d
    | jumped => exact .refl d
    | postflight => exact .refl d
    | error => exact .refl d
  | stop =>
    rw [controlAct]
    split
    · exact loggerStop_preservesSession d e.stop
    · exact .refl d
  | arm =>
    rw [controlAct]
    split
    · exact loggerArm_preservesSession d e.arm
    · exact .refl d
  | disarm =>
    rw [controlAct]
    split
    · exact loggerDisarm_preservesSession d e.groundSample
    · exact .refl d

theorem tempoMgmtLoggerControl_preservesSession (request : SmpRequest) (e : ControlEnv)
    (d : Device) :
    PreservesSession d (tempoMgmtLoggerControl request e d).1 := by
  unfold tempoMgmtLoggerControl
  split
  · exact .refl d
  · exact .refl d
  · split
    · exact .refl d
    · rename_i action _
      have hact := controlAct_preservesSession e d action
      simp only
      split
      · exact hact
      · split
        · exact hact.before (by simp) (by simp) (by simp)
        · exact hact

theorem testAlarmWorkHandler_preservesSession (e : AlarmEnv) (d : Device) :
    PreservesSession d (testAlarmWorkHandler e d).1 := by
  unfold testAlarmWorkHandler
  cases d.testAlarm.state with
  | idle => exact .refl d
  | waitingStart =>
    simp only
    split
    · exact .refl d
    · by_cases hidle : d.logger.state = .idle
      · rw [if_pos hidle]
        exact (loggerStart_loggerArm_preservesSession hidle e.arm _ e.start).before rfl rfl rfl
      · rw [if_neg hidle]
        exact (loggerStart_preservesSession d _ e.start).before rfl rfl rfl
  | waitingJump =>
    simp only
    split
    · exact .refl d
    · split
      · have hjumped : PreservesSession d
            (loggerJumped e.jumpedNow (d.setTestAlarm d.testAlarm.decrementCountdown)).1 :=
          (loggerJumped_preservesSession _ e.jumpedNow).after rfl rfl rfl
        exact hjumped.before rfl rfl rfl
      · exact (PreservesSession.refl d).before rfl rfl rfl

theorem button1ActionHandler_preservesSession (stop : StopEnv) (start : UsbStartEnv) (d : Device) :
    PreservesSession d (button1ActionHandler stop start d) := by
  unfold button1ActionHandler
  split
  · exact loggerStop_preservesSession d stop
  · split
    · exact loggerStartUsb_preservesSession d start
    · exact .refl d

theorem endStreaming_preservesSession (s : System) :
    PreservesSession s.device s.endStreaming.device :=
  (PreservesSession.refl s.device).before rfl rfl rfl

theorem button1ShortPress_preservesSession (magReady : Bool) (dtr : Option Bool) (s : System) :
    PreservesSession s.device (s.button1ShortPress magReady dtr).device := by
  have htty : PreservesSession s.device (s.device.openTty dtr).1 :=
    (PreservesSession.refl s.device).before rfl (by simp) (by simp)
  unfold button1ShortPress button1ShortPressHandler
  split
  · split
    · exact s.endStreaming_preservesSession
    · split
      · exact .refl s.device
      · simp only
        split
        · exact htty
        · exact htty.before rfl rfl rfl
  · exact .refl s.device

theorem disconnectWorkHandler_preservesSession (e : StopEnv) (s : System) :
    PreservesSession s.device (s.disconnectWorkHandler e).device := by
  unfold disconnectWorkHandler magCalDisconnectHandler
  split
  · exact .refl s.device
  · exact loggerStop_preservesSession s.device e
  · split
    · exact s.endStreaming_preservesSession
    · exact .refl s.device

theorem step_preservesSession (s : System) (op : SystemOp) :
    PreservesSession s.device (s.step op).device := by
  cases op with
  | control request e => exact tempoMgmtLoggerControl_preservesSession request e s.device
  | testLogging targetUtcMs jumpDelaySec =>
    exact (PreservesSession.refl s.device).before rfl rfl rfl
  | alarmTick e => exact testAlarmWorkHandler_preservesSession e s.device
  | button0Long e =>
    rw [step, onDevice, button0LongPress]
    split
    · exact loggerStart_preservesSession s.device _ e
    · exact .refl s.device
  | button1Long stop start => exact button1ActionHandler_preservesSession stop start s.device
  | button1Short magReady dtr => exact button1ShortPress_preservesSession magReady dtr s
  | usbDisconnect e => exact disconnectWorkHandler_preservesSession e s
  | bleStopWork =>
    rw [step, bleStopWorkHandler]
    split
    · exact (PreservesSession.refl s.device).before rfl rfl rfl
    · exact .refl s.device
  | executive e => exact loggerExecutive_preservesSession s.device e
  | baroSample r e => exact loggerBaroHandler_preservesSession s.device r e
  | groundAltitudeTimer sample =>
    exact (PreservesSession.refl s.device).before (by simp [step, onDevice])
      (by simp [step, onDevice]) (by simp [step, onDevice])
  | accelSample magnitudeG => exact (PreservesSession.refl s.device).before rfl rfl rfl

/-- An active session on the SD card has a key below `/logs` after every run. -/
theorem run_hasKey (enableMagnetometer usbEnabled : Bool) (version : AppVersion)
    (first second : Option ℚ) (arm : ArmEnv) (ops : List SystemOp) :
    (Machine.run systemStep (atBoot (loggerCfg enableMagnetometer) usbEnabled version first second
      arm) ops).1.HasKey := by
  refine Machine.run_invariant ?_ ?_ ops
  · exact fun s op h => h.of_preservesSession (s.step_preservesSession op)
  refine ⟨?_, fun hcan => ?_⟩
  · rw [atBoot, loggerArm_session]
    unfold loggerInit
    cases first with
    | none => rfl
    | some m => rw [Device.startGroundAltitudeSampling_session]; rfl
  · rw [atBoot_status] at hcan
    exact absurd hcan (by simp [LoggerState.canStart])

end System

/-- **The active session is protected** in LOGGING, and not in JUMPED, in every
reachable state. -/
theorem activeSessionProtected_iff (enableMagnetometer usbEnabled : Bool) (version : AppVersion)
    (first second : Option ℚ) (arm : ArmEnv) (ops : List SystemOp)
    (hactive : (Machine.run systemStep (System.atBoot (loggerCfg enableMagnetometer) usbEnabled
      version first second arm) ops).1.SdActive) :
    let d := (Machine.run systemStep (System.atBoot (loggerCfg enableMagnetometer) usbEnabled
      version first second arm) ops).1.device
    ActiveSessionProtected d ↔ d.status.state = .logging := by
  obtain ⟨hbase, hnamed⟩ :=
    System.run_hasKey enableMagnetometer usbEnabled version first second arm ops
  generalize (Machine.run systemStep (System.atBoot (loggerCfg enableMagnetometer) usbEnabled
    version first second arm) ops).1 = s at hactive hbase hnamed ⊢
  intro d
  constructor
  · intro h
    by_contra hstate
    have hstate : s.device.logger.state ≠ .logging := hstate
    have hrefused : dfuMgmtAction .imgMgmtDfuChunk s.device = .errorRc := h.dfuRefused
    rw [dfuMgmtAction, if_pos rfl, if_neg hstate] at hrefused
    exact absurd hrefused (by simp)
  · intro hstate
    have hcan : s.device.status.state.canStart = false := by
      have hstate : s.device.status.state = .logging := hstate
      rw [hstate]
      rfl
    obtain ⟨key, hkey⟩ := hnamed hcan hactive.2
    rw [SessionData.HasKey, hbase] at hkey
    exact activeSessionProtected_of_logging hstate hkey

/-- The session that button 0 starts after boot. -/
theorem activeSessionProtected_iff_button0 :
    let d := (Machine.run systemStep (System.atBoot (loggerCfg false) true ⟨[], [], [], 0⟩ none none
      .working) [.button0Long .working]).1.device
    ActiveSessionProtected d ↔ d.status.state = .logging :=
  activeSessionProtected_iff false true ⟨[], [], [], 0⟩ none none .working [.button0Long .working]
    (by unfold System.SdActive; decide +kernel)

/-- A card on which the session's directory holds its log file. -/
def DeleteEnv.oneLog : DeleteEnv where
  dirs := fun _ => { ret := 0, entries := [⟨ascii "flight.txt", false, 100⟩] }
  delete := fun _ => 0

/-- The alarm's session, once it has jumped: an update is accepted, the log is
deleted, and a stop is not carried out. -/
theorem not_activeSessionProtected_jumped :
    let s := (Machine.run systemStep (System.atBoot (loggerCfg false) true ⟨[], [], [], 0⟩ none none
      .working)
      [.testLogging 1000 1, .alarmTick (.working 1000), .alarmTick (.working 2000)]).1
    s.SdActive ∧ s.device.session.sessionPath = ascii "/logs/20250101/00000007" ∧
      dfuMgmtAction .imgMgmtDfuChunk s.device = .ok ∧
      (tempoMgmtSessionDelete .fatfs
          (textRequest (ascii "session") (ascii "20250101/00000007")) .oneLog s.device).map
          Prod.fst =
        some [ascii "/logs/20250101/00000007/flight.txt", ascii "/logs/20250101/00000007"] ∧
      (loggerGetSessionInfo 256 s.device).toOption.isNone ∧
      (tempoMgmtLoggerControl (textRequest (ascii "action") (ascii "stop")) .working
          s.device).1.status.state = .jumped ∧
      ¬ ActiveSessionProtected s.device := by
  refine ⟨by unfold System.SdActive; decide +kernel, by decide +kernel, by decide +kernel,
    by decide +kernel, by decide +kernel, by decide +kernel, fun h => ?_⟩
  exact absurd h.dfuRefused (by decide +kernel)

end TempoBt
