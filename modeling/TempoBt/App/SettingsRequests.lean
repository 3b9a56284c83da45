-- SUMMARY: The requests that change settings, over BLE and the USB command line, and when a request is all or nothing.
import TempoBt.App.Settings
import TempoBt.Lib.Assign
import TempoBt.Lib.Printf
import TempoBt.Lib.Scanf
import TempoBt.Util.NmeaChecksum
import Mathlib.Data.List.ReduceOption

/-!
# Settings requests

A handler collects the values of a request, ignores those that it cannot take, and then
calls the setters one after the other. Each value comes from the last pair of its key that
was taken.
-/

namespace TempoBt

open Bytes CString Errno Printf

/-- The name of a setting in a request; no request names the flag. -/
def SettingKey.name : SettingKey → Bytes
  | .bleName => ascii "ble_name"
  | .ppsEnabled => ascii "pps_enabled"
  | .pcbVariant => ascii "pcb_variant"
  | .logBackend => ascii "log_backend"
  | .magMode => ascii "mag_mode"
  | .offsetX => ascii "offset_x"
  | .offsetY => ascii "offset_y"
  | .offsetZ => ascii "offset_z"
  | .scaleX => ascii "scale_x"
  | .scaleY => ascii "scale_y"
  | .scaleZ => ascii "scale_z"
  | .calValid => ascii "valid"

@[simp] theorem SettingKey.name_inj {a b : SettingKey} : a.name = b.name ↔ a = b := by
  cases a <;> cases b <;> decide

/-- What a request meets: the saves to NVM, room for the response, whether USB commands
are enabled, and what `sscanf` stores for numbers out of range. -/
structure SettingsEnv where
  save : SettingsSave
  encodes : Bool
  cmdActive : Bool
  scanned : Int → UInt32

/-- The pairs of a response. -/
abbrev SmpResponse := List (Bytes × CborItem)

/-! ## `tempo_mgmt_settings_set` -/

/-- The `new_` variables, where the `has_` flag is set. -/
structure SettingsUpdate where
  bleName : Option Bytes := none
  ppsEnabled : Option Bool := none
  pcbVariant : Option UInt8 := none
  logBackend : Option Bytes := none
  magMode : Option UInt8 := none

/-- The body of the decoding loop; a value that does not fit is ignored. -/
def settingsField : Bytes → CborItem → SettingsUpdate → Option SettingsUpdate :=
  onField SettingKey.bleName.name CborItem.tstr? (fun text u =>
    if text.length < 32 then { u with bleName := some text } else u) <|
  onField SettingKey.ppsEnabled.name CborItem.bool? (fun enabled u =>
    { u with ppsEnabled := some enabled }) <|
  onField SettingKey.pcbVariant.name CborItem.uint32? (fun n u =>
    if n.toNat ≤ 255 then { u with pcbVariant := some n.toUInt8 } else u) <|
  onField SettingKey.logBackend.name CborItem.tstr? (fun text u =>
    if text.length < 12 then { u with logBackend := some text } else u) <|
  onField SettingKey.magMode.name CborItem.uint32? (fun n u =>
    if n.toNat ≤ 2 then { u with magMode := some n.toUInt8 } else u)
  skipField

/-- The setters in turn, those whose value is there, up to the first that fails. -/
def runSetters :
    List (Option (AppSettings → AppSettings × Int)) → AppSettings → AppSettings × Bool
  | [], s => (s, true)
  | none :: rest, s => runSetters rest s
  | some set :: rest, s =>
    if (set s).2 ≠ 0 then ((set s).1, false) else runSetters rest (set s).1

def SettingsUpdate.setters (save : SettingsSave) (u : SettingsUpdate) :
    List (Option (AppSettings → AppSettings × Int)) :=
  [u.bleName.map (appSettingsSetBleName save), u.ppsEnabled.map (appSettingsSetPpsEnabled save),
    u.pcbVariant.map (appSettingsSetPcbVariant save),
    u.logBackend.map (appSettingsSetLogBackend save), u.magMode.map (appSettingsSetMagMode save)]

def AppSettings.response (s : AppSettings) : SmpResponse :=
  [(ascii "ble_name", .tstr s.bleName.chars), (ascii "pps_enabled", .bool s.ppsEnabled),
    (ascii "pcb_variant", .int s.pcbVariant.toNat), (ascii "log_backend", .tstr s.logBackend.chars),
    (ascii "mag_mode", .int s.magMode.toNat)]

def tempoMgmtSettingsSet (env : SettingsEnv) (request : SmpRequest) (s : AppSettings) :
    AppSettings × Except MgmtErr SmpResponse :=
  match decodeMap settingsField request {} with
  | none => (s, .error .einval)
  | some u =>
    match runSetters (u.setters env.save) s with
    | (s, false) => (s, .error .eunknown)
    | (s, true) =>
      if env.encodes then
        (s, .ok (s.response ++ [(ascii "success", .bool true)] ++
          if u.bleName.isSome then
            [(ascii "note", .tstr (ascii "BLE name changes require reboot"))]
          else []))
      else (s, .error .emsgsize)

/-! ## `tempo_mgmt_mag_cal_set` -/

/-- The fields of `cal`, where the `has_` flag is set. -/
structure MagCalUpdate where
  offsetX : Option Int32 := none
  offsetY : Option Int32 := none
  offsetZ : Option Int32 := none
  scaleX : Option UInt16 := none
  scaleY : Option UInt16 := none
  scaleZ : Option UInt16 := none

/-- The body of the decoding loop; a scale that does not fit is ignored. -/
def magCalField : Bytes → CborItem → MagCalUpdate → Option MagCalUpdate :=
  onField SettingKey.offsetX.name CborItem.int32? (fun n u => { u with offsetX := some n }) <|
  onField SettingKey.offsetY.name CborItem.int32? (fun n u => { u with offsetY := some n }) <|
  onField SettingKey.offsetZ.name CborItem.int32? (fun n u => { u with offsetZ := some n }) <|
  onField SettingKey.scaleX.name CborItem.uint32? (fun n u =>
    if n.toNat ≤ 65535 then { u with scaleX := some n.toUInt16 } else u) <|
  onField SettingKey.scaleY.name CborItem.uint32? (fun n u =>
    if n.toNat ≤ 65535 then { u with scaleY := some n.toUInt16 } else u) <|
  onField SettingKey.scaleZ.name CborItem.uint32? (fun n u =>
    if n.toNat ≤ 65535 then { u with scaleZ := some n.toUInt16 } else u)
  skipField

/-- All six fields are required. -/
def MagCalUpdate.cal (u : MagCalUpdate) : Option MagCalibration := do
  let offsetX ← u.offsetX
  let offsetY ← u.offsetY
  let offsetZ ← u.offsetZ
  let scaleX ← u.scaleX
  let scaleY ← u.scaleY
  let scaleZ ← u.scaleZ
  return { offsetX, offsetY, offsetZ, scaleX, scaleY, scaleZ, valid := true }

/-- `mag_cal_set` and `mag_cal_save`, as both handlers call them. -/
def magCalSetAndSave (save : SettingsSave) (cal : MagCalibration) (m : Mag) : Mag × Int :=
  match magCalSet cal m with
  | (m, ret) => if ret ≠ 0 then (m, ret) else (m, magCalSave save m)

def MagCalibration.response (cal : MagCalibration) : SmpResponse :=
  [(ascii "offset_x", .int cal.offsetX.toInt), (ascii "offset_y", .int cal.offsetY.toInt),
    (ascii "offset_z", .int cal.offsetZ.toInt), (ascii "scale_x", .int cal.scaleX.toNat),
    (ascii "scale_y", .int cal.scaleY.toNat), (ascii "scale_z", .int cal.scaleZ.toNat)]

def tempoMgmtMagCalSet (env : SettingsEnv) (request : SmpRequest) (m : Mag) :
    Mag × Except MgmtErr SmpResponse :=
  match (decodeMap magCalField request {}).bind MagCalUpdate.cal with
  | none => (m, .error .einval)
  | some cal =>
    match magCalSetAndSave env.save cal m with
    | (m, ret) =>
      (m,
        if ret ≠ 0 then .error .eunknown
        else if env.encodes then .ok ((ascii "success", .bool true) :: cal.response)
        else .error .emsgsize)

/-! ## USB commands -/

/-- A line, as `usb_cmd_process_line` dispatches it. -/
inductive UsbCommand where
  | ignored
  | badChecksum
  | calGet
  | calSet (args : Bytes)
  | modeGet
  | modeSet (args : Bytes)
  | unknown

def usbCommand (line : Bytes) : UsbCommand :=
  if line.length < 6 ∨ startsWith (ascii "$PCMD,") line = false then .ignored
  else if nmeaVerifyChecksum line = false then .badChecksum
  else
    -- the string functions stop at a NUL in the line
    let cmdStart := cstr (line.drop 6)
    if star ∉ cmdStart then .ignored
    else
      let cmd := cmdStart.takeWhile (· != star)
      if cmd = ascii "CAL_GET" then .calGet
      else if 8 < cmd.length ∧ startsWith (ascii "CAL_SET,") cmd = true then
        .calSet (cmdStart.drop 8)
      else if cmd = ascii "MODE_GET" then .modeGet
      else if 9 < cmd.length ∧ startsWith (ascii "MODE_SET,") cmd = true then
        .modeSet (cmdStart.drop 9)
      else .unknown

/-- A `$PRSP` sentence. -/
inductive UsbReply where
  | checksum
  | unknown
  | calGet (cal : MagCalibration)
  | calSet (ret : Int)
  | modeGet (mode : UInt8)
  | modeSet (ret : Int)

/-- The sentence, before its checksum. -/
def UsbReply.sentence : UsbReply → Bytes
  | .checksum => ascii "$PRSP,ERR,CHECKSUM"
  | .unknown => ascii "$PRSP,ERR,UNKNOWN"
  | .calGet cal =>
    ascii "$PRSP,CAL_GET," ++ (if cal.valid then ascii "1" else ascii "0") ++
      ([cal.offsetX.toInt, cal.offsetY.toInt, cal.offsetZ.toInt, cal.scaleX.toNat,
        cal.scaleY.toNat, cal.scaleZ.toNat].flatMap fun n => ascii "," ++ decimalInt n)
  | .calSet ret =>
    ascii "$PRSP,CAL_SET," ++ if ret = 0 then ascii "OK" else ascii "ERR," ++ decimalInt ret
  | .modeGet mode => ascii "$PRSP,MODE_GET," ++ decimal mode.toNat
  | .modeSet ret =>
    ascii "$PRSP,MODE_SET," ++ if ret = 0 then ascii "OK" else ascii "ERR," ++ decimalInt ret

/-- `cmd_cal_set`, with the number in its reply. -/
def cmdCalSet (env : SettingsEnv) (args : Bytes) (m : Mag) : Mag × Int :=
  match scanNumbers 6 args with
  | [ox, oy, oz, sx, sy, sz] =>
    let sx := scanUInt32 env.scanned sx
    let sy := scanUInt32 env.scanned sy
    let sz := scanUInt32 env.scanned sz
    if 65535 < sx.toNat ∨ 65535 < sy.toNat ∨ 65535 < sz.toNat then (m, -erange)
    else
      magCalSetAndSave env.save
        { offsetX := scanInt32 env.scanned ox
          offsetY := scanInt32 env.scanned oy
          offsetZ := scanInt32 env.scanned oz
          scaleX := sx.toUInt16
          scaleY := sy.toUInt16
          scaleZ := sz.toUInt16
          valid := true } m
  | _ => (m, -einval)

/-- `cmd_mode_set`, with the number in its reply. -/
def cmdModeSet (env : SettingsEnv) (args : Bytes) (s : AppSettings) : AppSettings × Int :=
  match scanNumbers 1 args with
  | [mode] =>
    let mode := scanUInt32 env.scanned mode
    if 2 < mode.toNat then (s, -einval) else appSettingsSetMagMode env.save mode.toUInt8 s
  | _ => (s, -einval)

def usbCmdProcessLine (env : SettingsEnv) (line : Bytes) (s : SettingsRam) :
    SettingsRam × Option UsbReply :=
  if env.cmdActive then
    match usbCommand line with
    | .ignored => (s, none)
    | .badChecksum => (s, some .checksum)
    | .calGet => (s, some (.calGet s.mag.cal))
    | .calSet args =>
      let r := cmdCalSet env args s.mag
      ({ s with mag := r.1 }, some (.calSet r.2))
    | .modeGet => (s, some (.modeGet s.app.magMode))
    | .modeSet args =>
      let r := cmdModeSet env args s.app
      ({ s with app := r.1 }, some (.modeSet r.2))
    | .unknown => (s, some .unknown)
  else (s, none)

/-! ## Requests and replies -/

inductive SettingsRequest where
  | settingsSet (request : SmpRequest)
  | magCalSet (request : SmpRequest)
  | usbLine (line : Bytes)

inductive SettingsReply where
  | ignored
  | error
  | success
  deriving DecidableEq

def SettingsReply.ofSmp : Except MgmtErr SmpResponse → SettingsReply
  | .error _ => .error
  | .ok _ => .success

def SettingsReply.ofUsb : Option UsbReply → SettingsReply
  | none => .ignored
  | some .checksum | some .unknown => .error
  | some (.calSet ret) | some (.modeSet ret) => if ret = 0 then .success else .error
  | some (.calGet _) | some (.modeGet _) => .success

namespace SettingsRequest

def handle (env : SettingsEnv) (s : SettingsRam) : SettingsRequest → SettingsRam × SettingsReply
  | .settingsSet request =>
    let r := tempoMgmtSettingsSet env request s.app
    ({ s with app := r.1 }, .ofSmp r.2)
  | .magCalSet request =>
    let r := tempoMgmtMagCalSet env request s.mag
    ({ s with mag := r.1 }, .ofSmp r.2)
  | .usbLine line =>
    let r := usbCmdProcessLine env line s
    (r.1, .ofUsb r.2)

end SettingsRequest

/-- The keys of `tempo_mgmt_settings_set`, in the order of the setters. -/
def settingsSetKeys : List SettingKey :=
  [.bleName, .ppsEnabled, .pcbVariant, .logBackend, .magMode]

/-- The keys of `tempo_mgmt_mag_cal_set`, in the order of the numbers of `CAL_SET`. -/
def magCalKeys : List SettingKey := [.offsetX, .offsetY, .offsetZ, .scaleX, .scaleY, .scaleZ]

/-- The value that a request asks for under a recognised key: the last one given. -/
def SettingsRequest.asked : SettingsRequest → SettingKey → Option CborItem
  | .settingsSet request, key =>
    if key ∈ settingsSetKeys then
      request.bind fun pairs => (fieldValues key.name pairs).getLast?
    else none
  | .magCalSet request, key =>
    if key ∈ magCalKeys then
      request.bind fun pairs => (fieldValues key.name pairs).getLast?
    else none
  | .usbLine line, key =>
    match usbCommand line with
    | .calSet args => ((magCalKeys.zip (scanNumbers 6 args)).lookup key).map .int
    | .modeSet args => if key = .magMode then (scanNumbers 1 args).head?.map .int else none
    | .ignored | .badChecksum | .calGet | .modeGet | .unknown => none

namespace SettingsRequest

/-- With an error reply the settings in RAM are as before, and with a success reply every
recognised key of the request has the value asked for. -/
def AllOrNothing (env : SettingsEnv) (s : SettingsRam) (r : SettingsRequest) : Prop :=
  ((r.handle env s).2 = .error → (r.handle env s).1 = s) ∧
  ((r.handle env s).2 = .success →
    ∀ key v, r.asked key = some v → (r.handle env s).1.get key = v)

end SettingsRequest

/-! ## What a request assigns -/

/-- The last value under a key that the handler takes. -/
def lastTaken (pairs : List (CborItem × CborItem)) (key : SettingKey) : Option CborItem :=
  ((fieldValues key.name pairs).filterMap key.take).getLast?

def takenFrom (keys : List SettingKey) (pairs : List (CborItem × CborItem)) :
    List (SettingKey × CborItem) :=
  keys.filterMap fun key => (lastTaken pairs key).map (key, ·)

/-- Whether the save after a setting fails. The calibration is saved as a whole, after its
last part, and only a negative return value counts. -/
def SettingsEnv.fails (env : SettingsEnv) : SettingKey → Bool
  | .bleName => env.save (ascii "app/ble_name") ≠ 0
  | .ppsEnabled => env.save (ascii "app/pps") ≠ 0
  | .pcbVariant => env.save (ascii "app/pcb") ≠ 0
  | .logBackend => env.save (ascii "app/log") ≠ 0
  | .magMode => env.save (ascii "app/mag_mode") ≠ 0
  | .scaleZ => env.save (ascii "mag/cal") < 0
  | .offsetX | .offsetY | .offsetZ | .scaleX | .scaleY | .calValid => false

/-- The settings that a request assigns, and whether its reply is sent. -/
structure SettingsPlan where
  assigned : List (SettingKey × CborItem)
  replies : Bool

/-- What a request comes to; `none` when it is ignored or refused before any setter. -/
def SettingsRequest.plan (env : SettingsEnv) (initialized : Bool) :
    SettingsRequest → Option SettingsPlan
  | .settingsSet request => do
    let pairs ← request
    if (decodeMap settingsField request {}).isSome then
      return ⟨takenFrom settingsSetKeys pairs, env.encodes⟩
    else none
  | .magCalSet request => do
    let pairs ← request
    if (decodeMap magCalField request {}).isSome ∧ initialized ∧
        ∀ key ∈ magCalKeys, (lastTaken pairs key).isSome then
      return ⟨(.calValid, .bool true) :: takenFrom magCalKeys pairs, env.encodes⟩
    else none
  | .usbLine line =>
    if env.cmdActive then
      match usbCommand line with
      | .calSet args =>
        match scanNumbers 6 args with
        | [ox, oy, oz, sx, sy, sz] =>
          let scales := [sx, sy, sz].map (scanUInt32 env.scanned)
          if initialized ∧ scales.all (·.toNat ≤ 65535) then
            some ⟨(.calValid, .bool true) :: magCalKeys.zip
              (([ox, oy, oz].map fun n => .int (scanInt32 env.scanned n).toInt) ++
                scales.map fun n => .int n.toNat), true⟩
          else none
        | _ => none
      | .modeSet args =>
        match scanNumbers 1 args with
        | [mode] =>
          if (scanUInt32 env.scanned mode).toNat ≤ 2 then
            some ⟨[(.magMode, .int (scanUInt32 env.scanned mode).toNat)], true⟩
          else none
        | _ => none
      | .ignored | .badChecksum | .calGet | .modeGet | .unknown => none
    else none

/-- The request meets what it needs to be all or nothing. -/
def SettingsRequest.Kept (env : SettingsEnv) (s : SettingsRam) (r : SettingsRequest) : Prop :=
  ∀ p, r.plan env s.mag.initialized = some p →
    Assign.Kept s.get r.asked env.fails p.assigned (p.replies = true)

/-! ## The handlers carry out the assignments -/

/-- The outcome of a handler is that of the assignments of a plan. -/
structure FollowsPlan (env : SettingsEnv) (s : SettingsRam) (p : SettingsPlan)
    (outcome : SettingsRam × SettingsReply) : Prop where
  nodup : (p.assigned.map Prod.fst).Nodup
  initialized : outcome.1.mag.initialized = s.mag.initialized
  get : outcome.1.get = (Assign.assignAll env.fails p.assigned s.get).1
  success : outcome.2 = .success ↔
    (Assign.assignAll env.fails p.assigned s.get).2 = true ∧ p.replies = true
  error : outcome.2 = .error ↔ outcome.2 ≠ .success

section Taken

variable {pairs : List (CborItem × CborItem)} {keys : List SettingKey}

theorem takenFrom_keys : (takenFrom keys pairs).map Prod.fst =
    keys.filter fun key => (lastTaken pairs key).isSome := by
  induction keys with
  | nil => rfl
  | cons key keys ih =>
    cases hkey : lastTaken pairs key with
    | none => simpa [takenFrom, hkey] using ih
    | some v => simpa [takenFrom, hkey] using ih

theorem takenFrom_nodup (h : keys.Nodup) : ((takenFrom keys pairs).map Prod.fst).Nodup := by
  rw [takenFrom_keys]
  exact h.filter _

theorem take_of_lastTaken {key : SettingKey} {v : CborItem} (h : lastTaken pairs key = some v) :
    key.take v = some v := by
  obtain ⟨w, -, hw⟩ := List.mem_filterMap.mp (List.mem_of_getLast? h)
  exact SettingKey.take_take hw

end Taken

/-- A setter that puts `v` under a key and then saves it. -/
def SetsTo (env : SettingsEnv) (set : AppSettings → AppSettings × Int) (key : SettingKey)
    (v : CborItem) : Prop :=
  ∀ s : SettingsRam, { s with app := (set s.app).1 }.get = Function.update s.get key v ∧
    ((set s.app).2 ≠ 0 ↔ env.fails key = true)

/-- The setters of an update, and what they assign. -/
def SetterFor (env : SettingsEnv) (set : Option (AppSettings → AppSettings × Int))
    (a : Option (SettingKey × CborItem)) : Prop :=
  match set, a with
  | none, none => True
  | some set, some (key, v) => SetsTo env set key v
  | none, some _ | some _, none => False

theorem runSetters_assignAll {env : SettingsEnv}
    {sets : List (Option (AppSettings → AppSettings × Int))}
    {as : List (Option (SettingKey × CborItem))} (h : List.Forall₂ (SetterFor env) sets as)
    (s : SettingsRam) :
    { s with app := (runSetters sets s.app).1 }.get =
        (Assign.assignAll env.fails as.reduceOption s.get).1 ∧
      (runSetters sets s.app).2 = (Assign.assignAll env.fails as.reduceOption s.get).2 := by
  induction h generalizing s with
  | nil => exact ⟨rfl, rfl⟩
  | @cons set a sets as hset _ ih =>
    cases set with
    | none =>
      cases a with
      | none => exact ih s
      | some _ => exact hset.elim
    | some set =>
      cases a with
      | none => exact hset.elim
      | some p =>
        obtain ⟨key, v⟩ := p
        obtain ⟨hget, hret⟩ := hset s
        have ih := ih { s with app := (set s.app).1 }
        rw [hget] at ih
        rw [List.reduceOption_cons_of_some, runSetters, Assign.assignAll]
        by_cases hfails : env.fails key = true
        · rw [if_pos (hret.mpr hfails), if_pos hfails]
          exact ⟨hget, rfl⟩
        · rw [if_neg (fun hne => hfails (hret.mp hne)), if_neg hfails]
          exact ih

section Setters

variable {env : SettingsEnv}

theorem setsTo_bleName {name : Bytes} (h : (cstr name).length < 32) :
    SetsTo env (appSettingsSetBleName env.save name) .bleName (.tstr (cstr name)) := by
  intro s
  rw [appSettingsSetBleName, dif_pos h]
  refine ⟨?_, by simp [SettingsEnv.fails]⟩
  funext key
  cases key <;> simp [SettingsRam.get, Function.update]

theorem setsTo_ppsEnabled (enabled : Bool) :
    SetsTo env (appSettingsSetPpsEnabled env.save enabled) .ppsEnabled (.bool enabled) := by
  intro s
  refine ⟨?_, by simp [appSettingsSetPpsEnabled, SettingsEnv.fails]⟩
  funext key
  cases key <;> simp [appSettingsSetPpsEnabled, SettingsRam.get, Function.update]

theorem setsTo_pcbVariant (pcb : UInt8) :
    SetsTo env (appSettingsSetPcbVariant env.save pcb) .pcbVariant (.int pcb.toNat) := by
  intro s
  refine ⟨?_, by simp [appSettingsSetPcbVariant, SettingsEnv.fails]⟩
  funext key
  cases key <;> simp [appSettingsSetPcbVariant, SettingsRam.get, Function.update]

theorem setsTo_logBackend {backend : Bytes} (h : (cstr backend).length < 12) :
    SetsTo env (appSettingsSetLogBackend env.save backend) .logBackend (.tstr (cstr backend)) := by
  intro s
  rw [appSettingsSetLogBackend, dif_pos h]
  refine ⟨?_, by simp [SettingsEnv.fails]⟩
  funext key
  cases key <;> simp [SettingsRam.get, Function.update]

theorem setsTo_magMode {mode : UInt8} (h : mode.toNat ≤ 2) :
    SetsTo env (appSettingsSetMagMode env.save mode) .magMode (.int mode.toNat) := by
  intro s
  rw [appSettingsSetMagMode, if_neg (by simpa [UInt8.lt_iff_toNat_lt] using h)]
  refine ⟨?_, by simp [SettingsEnv.fails]⟩
  funext key
  cases key <;> simp [SettingsRam.get, Function.update]

end Setters

/-! ### Decoding -/

section Fields

variable {α : Type*} {get : α → SettingKey → Option CborItem} {keys : List SettingKey}
  {field : Bytes → CborItem → α → Option α}

/-- The body of a loop sets the value under each of `keys` to what the key takes, and
nothing else. -/
def TakesFields (get : α → SettingKey → Option CborItem) (keys : List SettingKey)
    (field : Bytes → CborItem → α → Option α) : Prop :=
  ∀ name v a a', field name v a = some a' → ∀ key, get a' key =
    if name = key.name ∧ key ∈ keys then (key.take v).or (get a key) else get a key

theorem TakesFields.skip : TakesFields get [] skipField := by
  intro name v a a' h key
  cases h
  simp

theorem TakesFields.onField {β : Type*} {decode : CborItem → Option β} {put : β → α → α}
    (h : TakesFields get keys field) (k : SettingKey)
    (hput : ∀ v x a, decode v = some x →
      get (put x a) = Function.update (get a) k ((k.take v).or (get a k))) :
    TakesFields get (k :: keys) (onField k.name decode put field) := by
  intro name v a a' ha key
  unfold TempoBt.onField at ha
  split at ha
  · rename_i hname
    obtain ⟨x, hx, rfl⟩ := Option.map_eq_some_iff.mp ha
    rw [hput v x a hx, hname]
    by_cases hkey : key = k
    · subst hkey
      simp
    · simp [Ne.symm hkey, hkey]
  · rename_i hname
    rw [h name v a a' ha key]
    have hmem : name = key.name → (key ∈ k :: keys ↔ key ∈ keys) := by
      rintro rfl
      rw [SettingKey.name_inj] at hname
      simp [hname]
    by_cases hkey : name = key.name
    · simp only [hkey, true_and, hmem hkey]
    · simp [hkey]

theorem TakesFields.lastTaken (h : TakesFields get keys field)
    {pairs : List (CborItem × CborItem)} {a a' : α} (ha : get a = fun _ => none)
    (hdecode : decodeFields field pairs a = some (a', [])) {key : SettingKey} (hkey : key ∈ keys) :
    get a' key = TempoBt.lastTaken pairs key := by
  rw [decodeFields_last (get · key) key.name key.take ?_ ?_ hdecode, ha, Option.or_none]
  · rfl
  · intro v a a' hfield
    rw [h key.name v a a' hfield key, if_pos ⟨rfl, hkey⟩]
  · intro name v a a' hname hfield
    rw [h name v a a' hfield key, if_neg fun hboth => hname hboth.1]

end Fields

/-! ### `tempo_mgmt_settings_set` -/

/-- The values of an update, as they are assigned. -/
def SettingsUpdate.get (u : SettingsUpdate) : SettingKey → Option CborItem
  | .bleName => u.bleName.map fun text => .tstr (cstr text)
  | .ppsEnabled => u.ppsEnabled.map .bool
  | .pcbVariant => u.pcbVariant.map fun n => .int n.toNat
  | .logBackend => u.logBackend.map fun text => .tstr (cstr text)
  | .magMode => u.magMode.map fun n => .int n.toNat
  | .offsetX | .offsetY | .offsetZ | .scaleX | .scaleY | .scaleZ | .calValid => none

theorem settingsField_takes : TakesFields SettingsUpdate.get settingsSetKeys settingsField := by
  refine .onField (.onField (.onField (.onField (.onField .skip _ ?mag) _ ?log) _ ?pcb) _ ?pps)
    _ ?name
  case name =>
    intro v text u htext
    funext key
    by_cases hfits : text.length < 32 <;> cases key <;>
      simp [SettingsUpdate.get, SettingKey.take, takeText, htext, hfits]
  case pps =>
    intro v enabled u henabled
    funext key
    cases key <;> simp [SettingsUpdate.get, SettingKey.take, henabled]
  case pcb =>
    intro v n u hn
    funext key
    by_cases hbound : n.toNat ≤ 255
    · have hmod : n.toNat % 256 = n.toNat := by omega
      cases key <;> simp [SettingsUpdate.get, SettingKey.take, takeUInt, hn, hbound, hmod]
    · cases key <;> simp [SettingsUpdate.get, SettingKey.take, takeUInt, hn, hbound]
  case log =>
    intro v text u htext
    funext key
    by_cases hfits : text.length < 12 <;> cases key <;>
      simp [SettingsUpdate.get, SettingKey.take, takeText, htext, hfits]
  case mag =>
    intro v n u hn
    funext key
    by_cases hbound : n.toNat ≤ 2
    · have hmod : n.toNat % 256 = n.toNat := by omega
      cases key <;> simp [SettingsUpdate.get, SettingKey.take, takeUInt, hn, hbound, hmod]
    · cases key <;> simp [SettingsUpdate.get, SettingKey.take, takeUInt, hn, hbound]

theorem SetterFor.of_option {env : SettingsEnv} {β : Type*} {o : Option β} {item : β → CborItem}
    {key : SettingKey} {taken : Option CborItem}
    {set : β → AppSettings → AppSettings × Int} (htaken : o.map item = taken)
    (hset : ∀ x, taken = some (item x) → SetsTo env (set x) key (item x)) :
    SetterFor env (o.map set) (taken.map (key, ·)) := by
  subst htaken
  cases o with
  | none => trivial
  | some x => exact hset x rfl

theorem settersFor_update {env : SettingsEnv} {pairs : List (CborItem × CborItem)}
    {u : SettingsUpdate} (h : ∀ key ∈ settingsSetKeys, u.get key = lastTaken pairs key) :
    List.Forall₂ (SetterFor env) (u.setters env.save)
      (settingsSetKeys.map fun key => (lastTaken pairs key).map (key, ·)) := by
  refine .cons (.of_option (h .bleName (by decide)) ?name) <|
    .cons (.of_option (h .ppsEnabled (by decide)) ?pps) <|
    .cons (.of_option (h .pcbVariant (by decide)) ?pcb) <|
    .cons (.of_option (h .logBackend (by decide)) ?log) <|
    .cons (.of_option (h .magMode (by decide)) ?mag) .nil
  case name =>
    intro text htaken
    exact setsTo_bleName (length_of_takeText (take_of_lastTaken htaken))
  case pps => exact fun enabled _ => setsTo_ppsEnabled enabled
  case pcb => exact fun pcb _ => setsTo_pcbVariant pcb
  case log =>
    intro text htaken
    exact setsTo_logBackend (length_of_takeText (take_of_lastTaken htaken))
  case mag =>
    intro mode htaken
    have htake := take_of_lastTaken htaken
    rw [SettingKey.take] at htake
    exact setsTo_magMode (le_of_takeUInt htake)

theorem takenFrom_eq_reduceOption (keys : List SettingKey) (pairs : List (CborItem × CborItem)) :
    takenFrom keys pairs =
      (keys.map fun key => (lastTaken pairs key).map (key, ·)).reduceOption := by
  rw [takenFrom, List.reduceOption, List.filterMap_map]
  rfl

theorem handle_settingsSet {env : SettingsEnv} (s : SettingsRam) {request : SmpRequest}
    {u : SettingsUpdate} (hu : decodeMap settingsField request {} = some u) :
    (SettingsRequest.settingsSet request).handle env s =
      ({ s with app := (runSetters (u.setters env.save) s.app).1 },
        if (runSetters (u.setters env.save) s.app).2 = true ∧ env.encodes = true then .success
        else .error) := by
  simp only [SettingsRequest.handle, tempoMgmtSettingsSet, hu]
  cases runSetters (u.setters env.save) s.app with
  | mk app ok => cases ok <;> cases env.encodes <;> rfl

theorem settingsSet_follows {env : SettingsEnv} {s : SettingsRam} {request : SmpRequest}
    {p : SettingsPlan}
    (hp : (SettingsRequest.settingsSet request).plan env s.mag.initialized = some p) :
    FollowsPlan env s p ((SettingsRequest.settingsSet request).handle env s) := by
  simp only [SettingsRequest.plan, Option.bind_eq_bind, Option.bind_eq_some_iff] at hp
  obtain ⟨pairs, rfl, hp⟩ := hp
  split at hp
  · rename_i hdecodes
    cases hp
    obtain ⟨u, hu⟩ := Option.isSome_iff_exists.mp hdecodes
    obtain ⟨_, ⟨⟩, hfields⟩ := decodeMap_eq_some hu
    have hempty : SettingsUpdate.get {} = fun _ => none := by
      funext key
      cases key <;> rfl
    have hsetters : List.Forall₂ (SetterFor env) (u.setters env.save)
        (settingsSetKeys.map fun key => (lastTaken pairs key).map (key, ·)) :=
      settersFor_update fun key => settingsField_takes.lastTaken hempty hfields
    obtain ⟨hget, hret⟩ := runSetters_assignAll hsetters s
    rw [← takenFrom_eq_reduceOption] at hget hret
    have hnodup := @takenFrom_nodup pairs settingsSetKeys (by decide)
    rw [handle_settingsSet s hu]
    refine ⟨hnodup, rfl, hget, ?_, ?_⟩
    · simp only [← hret, ite_eq_left_iff, reduceCtorEq, imp_false, not_not]
    · split <;> simp
  · cases hp

theorem settingsSet_refused {env : SettingsEnv} {s : SettingsRam} {request : SmpRequest}
    (hp : (SettingsRequest.settingsSet request).plan env s.mag.initialized = none) :
    (SettingsRequest.settingsSet request).handle env s = (s, .error) := by
  have hdecodes : decodeMap settingsField request {} = none := by
    cases request with
    | none => rfl
    | some pairs => simpa [SettingsRequest.plan] using hp
  simp [SettingsRequest.handle, tempoMgmtSettingsSet, hdecodes, SettingsReply.ofSmp]

/-! ### Calibration -/

/-- A calibration as assignments. -/
def MagCalibration.assigned (cal : MagCalibration) : List (SettingKey × CborItem) :=
  [(.calValid, .bool cal.valid), (.offsetX, .int cal.offsetX.toInt),
    (.offsetY, .int cal.offsetY.toInt), (.offsetZ, .int cal.offsetZ.toInt),
    (.scaleX, .int cal.scaleX.toNat), (.scaleY, .int cal.scaleY.toNat),
    (.scaleZ, .int cal.scaleZ.toNat)]

theorem MagCalibration.assigned_nodup (cal : MagCalibration) :
    (cal.assigned.map Prod.fst).Nodup := by
  simp [MagCalibration.assigned]

theorem magCalSetAndSave_assignAll (env : SettingsEnv) (s : SettingsRam) (cal : MagCalibration)
    (hvalid : cal.valid = true) (hinit : s.mag.initialized = true) :
    { s with mag := (magCalSetAndSave env.save cal s.mag).1 }.get =
        (Assign.assignAll env.fails cal.assigned s.get).1 ∧
      ((magCalSetAndSave env.save cal s.mag).2 = 0 ↔
        (Assign.assignAll env.fails cal.assigned s.get).2 = true) ∧
      (magCalSetAndSave env.save cal s.mag).1.initialized = s.mag.initialized := by
  have hset : magCalSetAndSave env.save cal s.mag =
      ({ s.mag with cal }, magCalSave env.save { s.mag with cal }) := by
    simp [magCalSetAndSave, magCalSet, hinit]
  rw [hset]
  refine ⟨?_, ?_, rfl⟩
  · funext key
    by_cases hsave : env.save (ascii "mag/cal") < 0 <;> cases key <;>
      simp [Assign.assignAll, MagCalibration.assigned, SettingsEnv.fails, hsave, SettingsRam.get]
  · by_cases hsave : env.save (ascii "mag/cal") < 0
    · simp [Assign.assignAll, MagCalibration.assigned, SettingsEnv.fails, hsave, magCalSave, hvalid]
      omega
    · simp [Assign.assignAll, MagCalibration.assigned, SettingsEnv.fails, hsave, magCalSave, hvalid]

/-- The values of an update, as they are assigned. -/
def MagCalUpdate.get (u : MagCalUpdate) : SettingKey → Option CborItem
  | .offsetX => u.offsetX.map fun n => .int n.toInt
  | .offsetY => u.offsetY.map fun n => .int n.toInt
  | .offsetZ => u.offsetZ.map fun n => .int n.toInt
  | .scaleX => u.scaleX.map fun n => .int n.toNat
  | .scaleY => u.scaleY.map fun n => .int n.toNat
  | .scaleZ => u.scaleZ.map fun n => .int n.toNat
  | .bleName | .ppsEnabled | .pcbVariant | .logBackend | .magMode | .calValid => none

theorem magCalField_takes : TakesFields MagCalUpdate.get magCalKeys magCalField := by
  have hscale {n : UInt32} (hbound : n.toNat ≤ 65535) : n.toNat % 65536 = n.toNat := by omega
  refine .onField (.onField (.onField (.onField (.onField (.onField .skip _ ?sz) _ ?sy) _ ?sx)
    _ ?oz) _ ?oy) _ ?ox
  case ox | oy | oz =>
    intro v n u hn
    funext key
    cases key <;> simp [MagCalUpdate.get, SettingKey.take, hn]
  case sx | sy | sz =>
    intro v n u hn
    funext key
    by_cases hbound : n.toNat ≤ 65535
    · cases key <;>
        simp [MagCalUpdate.get, SettingKey.take, takeUInt, hn, hbound, hscale hbound]
    · cases key <;> simp [MagCalUpdate.get, SettingKey.take, takeUInt, hn, hbound]

theorem MagCalUpdate.cal_eq_some {u : MagCalUpdate} {cal : MagCalibration}
    (h : u.cal = some cal) :
    cal.valid = true ∧ cal.assigned =
      (.calValid, .bool true) :: magCalKeys.filterMap fun key => (u.get key).map (key, ·) := by
  obtain ⟨ox, oy, oz, sx, sy, sz⟩ := u
  simp only [MagCalUpdate.cal, Option.bind_eq_bind, Option.bind_eq_some_iff, Option.pure_def,
    Option.some.injEq] at h
  obtain ⟨_, rfl, _, rfl, _, rfl, _, rfl, _, rfl, _, rfl, rfl⟩ := h
  exact ⟨rfl, rfl⟩

theorem MagCalUpdate.cal_isSome (u : MagCalUpdate) :
    u.cal.isSome ↔ ∀ key ∈ magCalKeys, (u.get key).isSome := by
  obtain ⟨ox, oy, oz, sx, sy, sz⟩ := u
  simp only [magCalKeys, List.forall_mem_cons, MagCalUpdate.get, Option.isSome_map]
  cases ox <;> cases oy <;> cases oz <;> cases sx <;> cases sy <;> cases sz <;>
    simp [MagCalUpdate.cal]

theorem magCalField_get {pairs : List (CborItem × CborItem)} {u : MagCalUpdate}
    (h : decodeMap magCalField (some pairs) {} = some u) :
    ∀ key ∈ magCalKeys, u.get key = lastTaken pairs key := by
  obtain ⟨_, ⟨⟩, hfields⟩ := decodeMap_eq_some h
  have hempty : MagCalUpdate.get {} = fun _ => none := by
    funext key
    cases key <;> rfl
  exact fun key => magCalField_takes.lastTaken hempty hfields

theorem handle_magCalSet (env : SettingsEnv) (s : SettingsRam) {request : SmpRequest}
    {cal : MagCalibration}
    (hcal : (decodeMap magCalField request {}).bind MagCalUpdate.cal = some cal) :
    (SettingsRequest.magCalSet request).handle env s =
      ({ s with mag := (magCalSetAndSave env.save cal s.mag).1 },
        if (magCalSetAndSave env.save cal s.mag).2 = 0 ∧ env.encodes = true then .success
        else .error) := by
  simp only [SettingsRequest.handle, tempoMgmtMagCalSet, hcal]
  by_cases hret : (magCalSetAndSave env.save cal s.mag).2 = 0
  · cases hencodes : env.encodes <;> simp [hret, SettingsReply.ofSmp]
  · simp [hret, SettingsReply.ofSmp]

theorem magCalSet_follows {env : SettingsEnv} {s : SettingsRam} {request : SmpRequest}
    {p : SettingsPlan}
    (hp : (SettingsRequest.magCalSet request).plan env s.mag.initialized = some p) :
    FollowsPlan env s p ((SettingsRequest.magCalSet request).handle env s) := by
  simp only [SettingsRequest.plan, Option.bind_eq_bind, Option.bind_eq_some_iff] at hp
  obtain ⟨pairs, rfl, hp⟩ := hp
  split at hp
  · rename_i hguard
    obtain ⟨hdecodes, hinit, htaken⟩ := hguard
    cases hp
    obtain ⟨u, hu⟩ := Option.isSome_iff_exists.mp hdecodes
    have hget := magCalField_get hu
    obtain ⟨cal, hcal⟩ := Option.isSome_iff_exists.mp <|
      u.cal_isSome.mpr fun key hkey => by rw [hget key hkey]; exact htaken key hkey
    obtain ⟨hvalid, hassigned⟩ := MagCalUpdate.cal_eq_some hcal
    have hplan : cal.assigned = (.calValid, .bool true) :: takenFrom magCalKeys pairs := by
      rw [hassigned, takenFrom]
      congr 1
      exact List.filterMap_congr fun key hkey => by rw [hget key hkey]
    obtain ⟨hram, hret, hsame⟩ := magCalSetAndSave_assignAll env s cal hvalid hinit
    rw [← hplan, handle_magCalSet env s (by rw [hu]; exact hcal)]
    refine ⟨cal.assigned_nodup, hsame, hram, ?_, ?_⟩
    · rw [← hret]
      simp
    · simp
  · cases hp

theorem magCalSet_refused {env : SettingsEnv} {s : SettingsRam} {request : SmpRequest}
    (hp : (SettingsRequest.magCalSet request).plan env s.mag.initialized = none) :
    (SettingsRequest.magCalSet request).handle env s = (s, .error) := by
  cases hcal : (decodeMap magCalField request {}).bind MagCalUpdate.cal with
  | none => simp [SettingsRequest.handle, tempoMgmtMagCalSet, hcal, SettingsReply.ofSmp]
  | some cal =>
    obtain ⟨u, hu, hucal⟩ := Option.bind_eq_some_iff.mp hcal
    obtain ⟨pairs, rfl, -⟩ := decodeMap_eq_some hu
    have htaken : ∀ key ∈ magCalKeys, (lastTaken pairs key).isSome := fun key hkey => by
      rw [← magCalField_get hu key hkey]
      exact u.cal_isSome.mp (by simp [hucal]) key hkey
    -- the magnetometer is what is missing
    have hinit : s.mag.initialized = false := by
      by_contra hinit
      simp only [SettingsRequest.plan, hu] at hp
      simp at hp
      obtain ⟨key, hkey, hnone⟩ := hp (by simpa using hinit)
      simpa [hnone] using htaken key hkey
    rw [handle_magCalSet env s hcal]
    simp [magCalSetAndSave, magCalSet, hinit, enodev]

/-! ### USB commands -/

section Usb

variable {env : SettingsEnv} {s : SettingsRam} {line args : Bytes} {p : SettingsPlan}

theorem handle_calSet (hactive : env.cmdActive = true) (hcommand : usbCommand line = .calSet args) :
    (SettingsRequest.usbLine line).handle env s =
      ({ s with mag := (cmdCalSet env args s.mag).1 },
        if (cmdCalSet env args s.mag).2 = 0 then .success else .error) := by
  simp [SettingsRequest.handle, usbCmdProcessLine, hactive, hcommand, SettingsReply.ofUsb]

theorem handle_modeSet (hactive : env.cmdActive = true)
    (hcommand : usbCommand line = .modeSet args) :
    (SettingsRequest.usbLine line).handle env s =
      ({ s with app := (cmdModeSet env args s.app).1 },
        if (cmdModeSet env args s.app).2 = 0 then .success else .error) := by
  simp [SettingsRequest.handle, usbCmdProcessLine, hactive, hcommand, SettingsReply.ofUsb]

theorem calSet_follows (hactive : env.cmdActive = true)
    (hcommand : usbCommand line = .calSet args)
    (hp : (SettingsRequest.usbLine line).plan env s.mag.initialized = some p) :
    FollowsPlan env s p ((SettingsRequest.usbLine line).handle env s) := by
  simp only [SettingsRequest.plan, hactive, if_true, hcommand] at hp
  split at hp
  · rename_i ox oy oz sx sy sz hscan
    split at hp
    · rename_i hguard
      obtain ⟨hinit, hscales⟩ := hguard
      cases hp
      simp only [List.map_cons, List.map_nil, List.all_eq_true, List.forall_mem_cons,
        decide_eq_true_eq] at hscales
      obtain ⟨hx, hy, hz, -⟩ := hscales
      have hword {n : UInt32} (hn : n.toNat ≤ 65535) : n.toUInt16.toNat = n.toNat := by
        rw [UInt32.toNat_toUInt16]
        omega
      rw [handle_calSet hactive hcommand]
      have hset : cmdCalSet env args s.mag = magCalSetAndSave env.save
          { offsetX := scanInt32 env.scanned ox
            offsetY := scanInt32 env.scanned oy
            offsetZ := scanInt32 env.scanned oz
            scaleX := (scanUInt32 env.scanned sx).toUInt16
            scaleY := (scanUInt32 env.scanned sy).toUInt16
            scaleZ := (scanUInt32 env.scanned sz).toUInt16
            valid := true } s.mag := by
        simp only [cmdCalSet, hscan]
        rw [if_neg (by omega)]
      rw [hset]
      obtain ⟨hram, hret, hsame⟩ := magCalSetAndSave_assignAll env s
        ⟨scanInt32 env.scanned ox, scanInt32 env.scanned oy, scanInt32 env.scanned oz,
          (scanUInt32 env.scanned sx).toUInt16, (scanUInt32 env.scanned sy).toUInt16,
          (scanUInt32 env.scanned sz).toUInt16, true⟩ rfl hinit
      simp only [MagCalibration.assigned, hword hx, hword hy, hword hz] at hram hret
      refine ⟨by simp [magCalKeys], hsame, hram, ?_, ?_⟩
      · simp [magCalKeys, ← hret]
      · split <;> simp
    · cases hp
  · cases hp

theorem modeSet_follows (hactive : env.cmdActive = true)
    (hcommand : usbCommand line = .modeSet args)
    (hp : (SettingsRequest.usbLine line).plan env s.mag.initialized = some p) :
    FollowsPlan env s p ((SettingsRequest.usbLine line).handle env s) := by
  simp only [SettingsRequest.plan, hactive, if_true, hcommand] at hp
  split at hp
  · rename_i mode hscan
    split at hp
    · rename_i hmode
      cases hp
      have hword : (scanUInt32 env.scanned mode).toUInt8.toNat =
          (scanUInt32 env.scanned mode).toNat := by
        rw [UInt32.toNat_toUInt8]
        omega
      have hset : cmdModeSet env args s.app =
          appSettingsSetMagMode env.save (scanUInt32 env.scanned mode).toUInt8 s.app := by
        simp only [cmdModeSet, hscan]
        rw [if_neg (by omega)]
      obtain ⟨hget, hret⟩ := @setsTo_magMode env _ (hword ▸ hmode) s
      rw [hword] at hget
      rw [handle_modeSet hactive hcommand, hset]
      refine ⟨by simp, rfl, ?_, ?_, ?_⟩
      · rw [hget, Assign.assignAll]
        split <;> rfl
      · have hsaved : (appSettingsSetMagMode env.save
            (scanUInt32 env.scanned mode).toUInt8 s.app).2 = 0 ↔ env.fails .magMode = false := by
          rw [← Bool.not_eq_true, ← hret, not_not]
        simp [Assign.assignAll_snd, hsaved]
      · split <;> simp
    · cases hp
  · cases hp

theorem calSet_refused (hactive : env.cmdActive = true)
    (hcommand : usbCommand line = .calSet args)
    (hp : (SettingsRequest.usbLine line).plan env s.mag.initialized = none) :
    (cmdCalSet env args s.mag).1 = s.mag ∧ (cmdCalSet env args s.mag).2 ≠ 0 := by
  simp only [SettingsRequest.plan, hactive, if_true, hcommand] at hp
  unfold cmdCalSet
  split
  · rename_i ox oy oz sx sy sz hscan
    simp only [hscan] at hp
    split at hp
    · cases hp
    · rename_i hguard
      simp only [List.map_cons, List.map_nil, List.all_eq_true, List.forall_mem_cons,
        decide_eq_true_eq] at hguard
      dsimp only
      split
      · exact ⟨rfl, by simp [erange]⟩
      · have hinit : s.mag.initialized = false := by
          by_contra hinit
          refine hguard ⟨by simpa using hinit, ?_, ?_, ?_, by simp⟩ <;> omega
        simp [magCalSetAndSave, magCalSet, hinit, enodev]
  · exact ⟨rfl, by simp [einval]⟩

theorem modeSet_refused (hactive : env.cmdActive = true)
    (hcommand : usbCommand line = .modeSet args)
    (hp : (SettingsRequest.usbLine line).plan env s.mag.initialized = none) :
    (cmdModeSet env args s.app).1 = s.app ∧ (cmdModeSet env args s.app).2 ≠ 0 := by
  simp only [SettingsRequest.plan, hactive, if_true, hcommand] at hp
  unfold cmdModeSet
  split
  · rename_i mode hscan
    simp only [hscan] at hp
    split at hp
    · cases hp
    · dsimp only
      rw [if_pos (by omega)]
      exact ⟨rfl, by simp [einval]⟩
  · exact ⟨rfl, by simp [einval]⟩

end Usb

theorem usbLine_follows {env : SettingsEnv} {s : SettingsRam} {line : Bytes} {p : SettingsPlan}
    (hp : (SettingsRequest.usbLine line).plan env s.mag.initialized = some p) :
    FollowsPlan env s p ((SettingsRequest.usbLine line).handle env s) := by
  cases hactive : env.cmdActive with
  | false => simp [SettingsRequest.plan, hactive] at hp
  | true =>
    cases hcommand : usbCommand line with
    | calSet args => exact calSet_follows hactive hcommand hp
    | modeSet args => exact modeSet_follows hactive hcommand hp
    | ignored | badChecksum | calGet | modeGet | unknown =>
      simp [SettingsRequest.plan, hcommand] at hp

/-- A line without a plan changes nothing, and where its reply is no error it asks for
nothing. -/
theorem usbLine_refused {env : SettingsEnv} {s : SettingsRam} {line : Bytes}
    (hp : (SettingsRequest.usbLine line).plan env s.mag.initialized = none) :
    ((SettingsRequest.usbLine line).handle env s).1 = s ∧
      (((SettingsRequest.usbLine line).handle env s).2 = .success →
        ∀ key, (SettingsRequest.usbLine line).asked key = none) := by
  cases hactive : env.cmdActive with
  | false => simp [SettingsRequest.handle, usbCmdProcessLine, hactive, SettingsReply.ofUsb]
  | true =>
    cases hcommand : usbCommand line with
    | ignored | badChecksum | calGet | modeGet | unknown =>
      simp [SettingsRequest.handle, usbCmdProcessLine, hactive, hcommand, SettingsRequest.asked]
    | calSet args =>
      obtain ⟨hsame, hret⟩ := calSet_refused hactive hcommand hp
      rw [handle_calSet hactive hcommand, hsame, if_neg hret]
      exact ⟨rfl, by simp⟩
    | modeSet args =>
      obtain ⟨hsame, hret⟩ := modeSet_refused hactive hcommand hp
      rw [handle_modeSet hactive hcommand, hsame, if_neg hret]
      exact ⟨rfl, by simp⟩

/-! ## Exactly when a request is all or nothing -/

theorem FollowsPlan.allOrNothing_iff {env : SettingsEnv} {s : SettingsRam} {p : SettingsPlan}
    {outcome : SettingsRam × SettingsReply} (h : FollowsPlan env s p outcome)
    (asked : SettingKey → Option CborItem) :
    (outcome.2 = .error → outcome.1 = s) ∧
        (outcome.2 = .success → ∀ key v, asked key = some v → outcome.1.get key = v) ↔
      Assign.Kept s.get asked env.fails p.assigned (p.replies = true) := by
  have hsame : outcome.1 = s ↔ outcome.1.get = s.get := by
    constructor
    · intro heq
      rw [heq]
    · exact SettingsRam.ext_get h.initialized
  rw [← Assign.allOrNothing_iff h.nodup, Assign.AllOrNothing, ← h.success, ← h.get, h.error, hsame]
  exact and_comm

theorem settings_allOrNothing_iff (env : SettingsEnv) (s : SettingsRam) (r : SettingsRequest) :
    r.AllOrNothing env s ↔ r.Kept env s := by
  cases hp : r.plan env s.mag.initialized with
  | none =>
    have hkept : r.Kept env s := fun p hplan => by
      rw [hp] at hplan
      cases hplan
    refine iff_of_true ?_ hkept
    cases r with
    | settingsSet request => simp [SettingsRequest.AllOrNothing, settingsSet_refused hp]
    | magCalSet request => simp [SettingsRequest.AllOrNothing, magCalSet_refused hp]
    | usbLine line =>
      obtain ⟨hsame, hasked⟩ := usbLine_refused hp
      refine ⟨fun _ => hsame, fun hsuccess key v hkey => ?_⟩
      rw [hasked hsuccess key] at hkey
      cases hkey
  | some p =>
    have hfollows : FollowsPlan env s p (r.handle env s) := by
      cases r with
      | settingsSet request => exact settingsSet_follows hp
      | magCalSet request => exact magCalSet_follows hp
      | usbLine line => exact usbLine_follows hp
    rw [SettingsRequest.AllOrNothing, hfollows.allOrNothing_iff]
    constructor
    · intro hkept p' hp'
      rw [hp] at hp'
      cases hp'
      exact hkept
    · exact fun hkept => hkept p hp

/-! ## A failing save -/

/-- A name and the PPS flag, where the flag cannot be saved. -/
theorem not_settings_allOrNothing_ppsUnsaved :
    ¬ (SettingsRequest.settingsSet (some [(.tstr (ascii "ble_name"), .tstr (ascii "Jumper")),
        (.tstr (ascii "pps_enabled"), .bool true)])).AllOrNothing
      ⟨fun name => if name = ascii "app/pps" then -eio else 0, true, false, fun _ => 0⟩
      ⟨.initial, true, .cleared⟩ := by
  intro h
  exact absurd (h.1 (by decide)) (by decide)

/-- A name of 40 characters is ignored, and the reply is a success. -/
example : ¬ (SettingsRequest.settingsSet (some [(.tstr (ascii "ble_name"),
        .tstr (List.replicate 40 65))])).AllOrNothing
      ⟨fun _ => 0, true, false, fun _ => 0⟩ ⟨.initial, true, .cleared⟩ := by
  intro h
  exact absurd (h.2 (by decide) .bleName _ rfl) (by decide)

end TempoBt
