-- SUMMARY: The settings in NVM: what the setters save, what a start loads, and the device UUID, over any number of restarts.
import TempoBt.App.Settings
import TempoBt.Lib.Durable
import TempoBt.Lib.Machine
import TempoBt.Lib.Words
import TempoBt.Services.MagCalibration

/-!
# Settings across restarts

NVM keeps bytes under names. A start gives every setting its default, loads what NVM has
through the handlers, and gives a device without a UUID a new one. A value that cannot be
read is not loaded.
-/

namespace TempoBt

open Bytes CString Durable Errno

abbrev Nvm := Store Bytes Bytes

/-- `settings_save_one`; an empty value takes the name out of NVM. -/
def Nvm.saveOne (o : Save) (name value : Bytes) (nvm : Nvm) : Nvm :=
  nvm.save o name (if value = [] then none else some value)

/-! ## The device UUID -/

abbrev Uuid := Vector UInt8 16

/-- `app_settings_generate_uuid`, with what `sys_rand_get` gives. -/
def appSettingsGenerateUuid (random : Uuid) : Uuid :=
  let val := random.set 6 ((random[6] &&& 0x0F) ||| 0x40)
  val.set 8 ((val[8] &&& 0x3F) ||| 0x80)

def isUuidEmpty (uuid : Uuid) : Bool := uuid.toList.all (· == 0)

/-- The UUID is marked as a random one. -/
def Uuid.IsRandom (uuid : Uuid) : Prop := uuid[6] &&& 0xF0 = 0x40 ∧ uuid[8] &&& 0xC0 = 0x80

theorem isRandom_generate (random : Uuid) : (appSettingsGenerateUuid random).IsRandom := by
  have hversion (b : UInt8) : ((b &&& 0x0F) ||| 0x40) &&& 0xF0 = 0x40 := by
    rw [← UInt8.toBitVec_inj]
    simp only [UInt8.toBitVec_and, UInt8.toBitVec_or, UInt8.toBitVec_ofNat]
    ext i hi
    interval_cases i <;> simp
  have hvariant (b : UInt8) : ((b &&& 0x3F) ||| 0x80) &&& 0xC0 = 0x80 := by
    rw [← UInt8.toBitVec_inj]
    simp only [UInt8.toBitVec_and, UInt8.toBitVec_or, UInt8.toBitVec_ofNat]
    ext i hi
    interval_cases i <;> simp
  constructor
  · simpa [appSettingsGenerateUuid, Vector.getElem_set] using hversion random[6]
  · simpa [appSettingsGenerateUuid, Vector.getElem_set] using hvariant random[8]

theorem Uuid.IsRandom.not_empty {uuid : Uuid} (h : uuid.IsRandom) : isUuidEmpty uuid = false := by
  by_contra hempty
  have hzero : uuid[6] = 0 := by
    have hall := List.all_eq_true.mp ((Bool.not_eq_false _).mp hempty) uuid[6] (by simp)
    exact beq_iff_eq.mp hall
  rw [Uuid.IsRandom, hzero] at h
  exact absurd h.1 (by decide)

/-! ## Bytes in NVM -/

/-- `mag_calibration_t` in memory, with its last byte, which no field uses. -/
def MagCalibration.toBytes (padding : UInt8) (cal : MagCalibration) : Bytes :=
  leBytes 4 cal.offsetX.toUInt32.toNat ++ leBytes 4 cal.offsetY.toUInt32.toNat ++
    leBytes 4 cal.offsetZ.toUInt32.toNat ++ leBytes 2 cal.scaleX.toNat ++
    leBytes 2 cal.scaleY.toNat ++ leBytes 2 cal.scaleZ.toNat ++
    [if cal.valid then 1 else 0, padding]

def MagCalibration.ofBytes (value : Bytes) : MagCalibration where
  offsetX := (UInt32.ofNat (leNat (value.take 4))).toInt32
  offsetY := (UInt32.ofNat (leNat ((value.drop 4).take 4))).toInt32
  offsetZ := (UInt32.ofNat (leNat ((value.drop 8).take 4))).toInt32
  scaleX := UInt16.ofNat (leNat ((value.drop 12).take 2))
  scaleY := UInt16.ofNat (leNat ((value.drop 14).take 2))
  scaleZ := UInt16.ofNat (leNat ((value.drop 16).take 2))
  valid := (value.drop 18).head? != some 0

theorem MagCalibration.length_toBytes (padding : UInt8) (cal : MagCalibration) :
    (cal.toBytes padding).length = 20 := by
  simp [MagCalibration.toBytes]

theorem MagCalibration.ofBytes_toBytes (padding : UInt8) (cal : MagCalibration) :
    ofBytes (cal.toBytes padding) = cal := by
  have hword (n : Int32) : (UInt32.ofNat (n.toUInt32.toNat % 256 ^ 4)).toInt32 = n := by
    have hlt := n.toUInt32.toNat_lt
    rw [Nat.mod_eq_of_lt (by omega), UInt32.ofNat_toNat, Int32.toInt32_toUInt32]
  have hhalf (n : UInt16) : UInt16.ofNat (n.toNat % 256 ^ 2) = n := by
    have hlt := n.toNat_lt
    rw [Nat.mod_eq_of_lt (by omega), UInt16.ofNat_toNat]
  have hflag : (some (if cal.valid then (1 : UInt8) else 0) != some 0) = cal.valid := by
    cases cal.valid <;> rfl
  simp only [ofBytes, toBytes, List.append_assoc, drop_leBytes_append, leNat_take_append, hword,
    hhalf, Nat.reduceLeDiff, Nat.reduceSub, List.drop_zero, List.head?_cons, hflag]

/-! ## Loading -/

/-- The settings in RAM, the device UUID included. -/
@[ext]
structure SettingsMemory where
  app : AppSettings
  deviceUuid : Uuid
  mag : Mag
  deriving DecidableEq

/-- The memory before `main`. -/
def SettingsMemory.initial : SettingsMemory where
  app := .initial
  deviceUuid := .replicate 16 0
  mag := MagService.zero.toMag

/-- The branch of a handler for one name: `read_cb` returns `read`, and stores the value
with `put` when that is no error. -/
def loadField (fits : Bool) (read : Int) (put : SettingsMemory → SettingsMemory)
    (s : SettingsMemory) : SettingsMemory × Int :=
  if fits then (if read < 0 then (s, read) else (put s, 0)) else (s, -einval)

def loadText (size : Nat) (read : Int) (value : Bytes)
    (put : CharArray size → SettingsMemory → SettingsMemory) (s : SettingsMemory) :
    SettingsMemory × Int :=
  if h : value.length < size then
    loadField true read
      (put ⟨cstr value, not_mem_cstr value, (length_cstr_le value).trans_lt h⟩) s
  else (s, -einval)

def settingsSetHandler (read : Int) (name value : Bytes) (s : SettingsMemory) :
    SettingsMemory × Int :=
  if name = ascii "ble_name" then
    loadText 32 read value (fun text s => { s with app.bleName := text }) s
  else if name = ascii "device_uuid" then
    if h : value.length = 16 then
      loadField true read (fun s => { s with deviceUuid := ⟨value.toArray, by simpa using h⟩ }) s
    else (s, -einval)
  else if name = ascii "pps" then
    loadField (value.length == 1) read (fun s => { s with app.ppsEnabled := value.head? != some 0 })
      s
  else if name = ascii "pcb" then
    loadField (value.length == 1) read (fun s => { s with app.pcbVariant := value.headD 0 }) s
  else if name = ascii "log" then
    loadText 12 read value (fun text s => { s with app.logBackend := text }) s
  else if name = ascii "mag_mode" then
    loadField (value.length == 1) read (fun s => { s with app.magMode := value.headD 0 }) s
  else (s, -enoent)

def magSettingsSet (read : Int) (name value : Bytes) (s : SettingsMemory) :
    SettingsMemory × Int :=
  if name = ascii "cal" then
    loadField (value.length == 20) read (fun s => { s with mag.cal := .ofBytes value }) s
  else (s, -enoent)

/-- The rest of a name below a handler's own. -/
def below (handler name : Bytes) : Option Bytes :=
  if (handler ++ ascii "/").isPrefixOf name then some (name.drop (handler.length + 1)) else none

/-- `settings_load` for one value: the handler that the name belongs to gets it, and an
error of a handler ends nothing. -/
def loadEntry (read : Bytes → Int) (name value : Bytes) (s : SettingsMemory) : SettingsMemory :=
  match below (ascii "app") name, below (ascii "mag") name with
  | some rest, _ => (settingsSetHandler (read name) rest value s).1
  | none, some rest => (magSettingsSet (read name) rest value s).1
  | none, none => s

/-- `settings_load_subtree("mag")` for one value. -/
def loadMagEntry (read : Bytes → Int) (name value : Bytes) (s : SettingsMemory) :
    SettingsMemory :=
  match below (ascii "mag") name with
  | some rest => (magSettingsSet (read name) rest value s).1
  | none => s

/-! ## The device -/

/-- What a start meets: the return values of the settings subsystem, the reads from NVM,
random bytes, the save of a new UUID, and whether the magnetometer answers. -/
structure BootEnv where
  subsysInit : Int
  register : Int
  load : Int
  read : Bytes → Int
  random : Uuid
  uuidSave : Save
  magReady : Bool

structure SettingsDevice where
  ram : SettingsMemory
  nvm : Nvm

namespace SettingsDevice

/-- A device that has never been started. -/
def factory : SettingsDevice := ⟨.initial, ∅⟩

/-- The end of `app_settings_init`. -/
def assignUuid (env : BootEnv) (d : SettingsDevice) : SettingsDevice :=
  if isUuidEmpty d.ram.deviceUuid then
    let uuid := appSettingsGenerateUuid env.random
    { ram := { d.ram with deviceUuid := uuid }
      nvm := d.nvm.saveOne env.uuidSave (ascii "app/device_uuid") uuid.toList }
  else d

def appSettingsInit (env : BootEnv) (d : SettingsDevice) : SettingsDevice × Int :=
  if env.subsysInit ≠ 0 then (d, env.subsysInit)
  else if env.register ≠ 0 then (d, env.register)
  else
    let d := { d with ram := load (loadEntry env.read) d.nvm d.ram }
    if env.load ≠ 0 then (d, env.load) else (d.assignUuid env, 0)

/-- `mag_init`, and what `main` makes of the mode after it. -/
def magStart (env : BootEnv) (d : SettingsDevice) : SettingsDevice :=
  if env.magReady then
    let ram := load (loadMagEntry env.read) d.nvm { d.ram with mag := ⟨false, .cleared⟩ }
    let ram := { ram with mag.initialized := true }
    if ram.app.magMode = 1 then { d with ram := { ram with mag.cal := .cleared } }
    else { d with ram }
  else d

/-- The device starts: the memory gets its initial values, and NVM keeps its own. -/
def boot (env : BootEnv) (d : SettingsDevice) : SettingsDevice :=
  (({ d with ram := .initial } : SettingsDevice).appSettingsInit env).1.magStart env

/-- A setter: RAM first, and then NVM, when the value is accepted. -/
def setApp (o : Save) (set : SettingsSave → AppSettings → AppSettings × Int) (accepted : Bool)
    (name value : Bytes) (d : SettingsDevice) : SettingsDevice :=
  { ram := { d.ram with app := (set (fun _ => o.ret) d.ram.app).1 }
    nvm := if accepted then d.nvm.saveOne o name value else d.nvm }

def setBleName (o : Save) (name : Bytes) : SettingsDevice → SettingsDevice :=
  setApp o (fun save => appSettingsSetBleName save name) ((cstr name).length < 32)
    (ascii "app/ble_name") (cstr name)

def setPpsEnabled (o : Save) (enabled : Bool) : SettingsDevice → SettingsDevice :=
  setApp o (fun save => appSettingsSetPpsEnabled save enabled) true (ascii "app/pps")
    [if enabled then 1 else 0]

def setPcbVariant (o : Save) (pcb : UInt8) : SettingsDevice → SettingsDevice :=
  setApp o (fun save => appSettingsSetPcbVariant save pcb) true (ascii "app/pcb") [pcb]

def setLogBackend (o : Save) (backend : Bytes) : SettingsDevice → SettingsDevice :=
  setApp o (fun save => appSettingsSetLogBackend save backend) ((cstr backend).length < 12)
    (ascii "app/log") (cstr backend)

def setMagMode (o : Save) (mode : UInt8) : SettingsDevice → SettingsDevice :=
  setApp o (fun save => appSettingsSetMagMode save mode) (mode ≤ 2) (ascii "app/mag_mode") [mode]

def calSet (cal : MagCalibration) (d : SettingsDevice) : SettingsDevice :=
  { d with ram := { d.ram with mag := (magCalSet cal d.ram.mag).1 } }

/-- `mag_cal_save` -/
def calSave (o : Save) (padding : UInt8) (d : SettingsDevice) : SettingsDevice :=
  if d.ram.mag.cal.valid then
    { d with nvm := d.nvm.saveOne o (ascii "mag/cal") (d.ram.mag.cal.toBytes padding) }
  else d

end SettingsDevice

/-- A start of the device, or a call that changes or saves a setting. -/
inductive SettingsOp where
  | boot (env : BootEnv)
  | setBleName (o : Save) (name : Bytes)
  | setPpsEnabled (o : Save) (enabled : Bool)
  | setPcbVariant (o : Save) (pcb : UInt8)
  | setLogBackend (o : Save) (backend : Bytes)
  | setMagMode (o : Save) (mode : UInt8)
  | calSet (cal : MagCalibration)
  | calSave (o : Save) (padding : UInt8)

def SettingsDevice.after (d : SettingsDevice) : SettingsOp → SettingsDevice
  | .boot env => d.boot env
  | .setBleName o name => d.setBleName o name
  | .setPpsEnabled o enabled => d.setPpsEnabled o enabled
  | .setPcbVariant o pcb => d.setPcbVariant o pcb
  | .setLogBackend o backend => d.setLogBackend o backend
  | .setMagMode o mode => d.setMagMode o mode
  | .calSet cal => d.calSet cal
  | .calSave o padding => d.calSave o padding

/-! ## What has been saved -/

/-- The names that the firmware saves values under. -/
inductive SavedName where
  | bleName
  | ppsEnabled
  | pcbVariant
  | logBackend
  | magMode
  | deviceUuid
  | cal
  deriving DecidableEq

def SavedName.bytes : SavedName → Bytes
  | .bleName => ascii "app/ble_name"
  | .ppsEnabled => ascii "app/pps"
  | .pcbVariant => ascii "app/pcb"
  | .logBackend => ascii "app/log"
  | .magMode => ascii "app/mag_mode"
  | .deviceUuid => ascii "app/device_uuid"
  | .cal => ascii "mag/cal"

@[simp] theorem SavedName.bytes_inj {a b : SavedName} : a.bytes = b.bytes ↔ a = b := by
  cases a <;> cases b <;> decide

/-- What is saved under a name. -/
abbrev SavedName.Value : SavedName → Type
  | .bleName => CharArray 32
  | .ppsEnabled => Bool
  | .pcbVariant => UInt8
  | .logBackend => CharArray 12
  | .magMode => UInt8
  | .deviceUuid => Uuid
  | .cal => MagCalibration

/-- The bytes that are saved for a value. -/
def SavedName.encode (padding : UInt8) : (name : SavedName) → name.Value → Bytes
  | .bleName, text => text.chars
  | .ppsEnabled, enabled => [if enabled then 1 else 0]
  | .pcbVariant, pcb => [pcb]
  | .logBackend, text => text.chars
  | .magMode, mode => [mode]
  | .deviceUuid, uuid => uuid.toList
  | .cal, value => value.toBytes padding

def SettingsMemory.get (s : SettingsMemory) : (name : SavedName) → name.Value
  | .bleName => s.app.bleName
  | .ppsEnabled => s.app.ppsEnabled
  | .pcbVariant => s.app.pcbVariant
  | .logBackend => s.app.logBackend
  | .magMode => s.app.magMode
  | .deviceUuid => s.deviceUuid
  | .cal => s.mag.cal

def SettingsMemory.put (s : SettingsMemory) : (name : SavedName) → name.Value → SettingsMemory
  | .bleName, text => { s with app.bleName := text }
  | .ppsEnabled, enabled => { s with app.ppsEnabled := enabled }
  | .pcbVariant, pcb => { s with app.pcbVariant := pcb }
  | .logBackend, text => { s with app.logBackend := text }
  | .magMode, mode => { s with app.magMode := mode }
  | .deviceUuid, uuid => { s with deviceUuid := uuid }
  | .cal, value => { s with mag.cal := value }

theorem SettingsMemory.get_put_of_ne {name name' : SavedName} (h : name' ≠ name)
    (v : name.Value) (s : SettingsMemory) : (s.put name v).get name' = s.get name' := by
  cases name <;> cases name' <;> trivial

@[simp] theorem SettingsMemory.put_initialized (name : SavedName) (v : name.Value)
    (s : SettingsMemory) : (s.put name v).mag.initialized = s.mag.initialized := by
  cases name <;> rfl

/-- The values that were last written to NVM. -/
abbrev Saved := (name : SavedName) → Option name.Value

/-- What a start finds of a value that was written. -/
def BootEnv.found {α : Type*} (env : BootEnv) (name : SavedName) (v : Option α) : Option α :=
  if env.read name.bytes < 0 then none else v

/-- The settings subsystem starts, and reports no error for its load. -/
def BootEnv.Starts (env : BootEnv) : Prop := env.subsysInit = 0 ∧ env.register = 0 ∧ env.load = 0

instance (env : BootEnv) : Decidable env.Starts := inferInstanceAs (Decidable (_ ∧ _ ∧ _))

/-- A text that is set to nothing is one that is not saved. -/
def savedText {size : Nat} (text : Bytes) (h : (cstr text).length < size) :
    Option (CharArray size) :=
  if cstr text = [] then none else some ⟨cstr text, not_mem_cstr text, h⟩

/-- A value that is written when the save writes. -/
def Saved.put (saved : Saved) (o : Save) (name : SavedName) (v : Option name.Value) : Saved :=
  if o.written then Function.update saved name v else saved

/-- The values that were last written, after an operation on `d`. -/
def Saved.after (d : SettingsDevice) (saved : Saved) : SettingsOp → Saved
  | .boot env =>
    if env.Starts ∧ env.found .deviceUuid (saved .deviceUuid) = none then
      saved.put env.uuidSave .deviceUuid (some (appSettingsGenerateUuid env.random))
    else saved
  | .setBleName o name =>
    if h : (cstr name).length < 32 then saved.put o .bleName (savedText name h) else saved
  | .setPpsEnabled o enabled => saved.put o .ppsEnabled (some enabled)
  | .setPcbVariant o pcb => saved.put o .pcbVariant (some pcb)
  | .setLogBackend o backend =>
    if h : (cstr backend).length < 12 then saved.put o .logBackend (savedText backend h) else saved
  | .setMagMode o mode => if mode ≤ 2 then saved.put o .magMode (some mode) else saved
  | .calSet _ => saved
  | .calSave o _ =>
    if d.ram.mag.cal.valid then saved.put o .cal (some d.ram.mag.cal) else saved

/-- What a start makes of the saved values, where there are none the defaults `s`. -/
def Saved.restored (env : BootEnv) (saved : Saved) (s : SettingsMemory) (name : SavedName) :
    name.Value :=
  (env.found name (saved name)).getD (s.get name)

/-- What every saved value meets. -/
def SavedName.Valid : (name : SavedName) → name.Value → Prop
  | .deviceUuid, uuid => uuid.IsRandom
  | .magMode, mode => mode ≤ 2
  | _, _ => True

/-- NVM holds exactly the saved values. -/
structure Nvm.Holds (nvm : Nvm) (saved : Saved) : Prop where
  bytes : ∀ name : SavedName,
    ∃ padding, nvm.lookup name.bytes = (saved name).map (name.encode padding)
  valid : ∀ name, ∀ v ∈ saved name, name.Valid v

theorem Nvm.holds_empty : Nvm.Holds ∅ fun _ => none where
  bytes _ := ⟨0, rfl⟩
  valid _ _ h := by cases h

section Holds

variable {nvm : Nvm} {saved : Saved}

/-- A save of a value's bytes, or of no bytes for no value. -/
theorem Nvm.Holds.saveOne (h : nvm.Holds saved) (o : Save) (name : SavedName) (padding : UInt8)
    {value : Bytes} {v : Option name.Value}
    (hvalue : (if value = [] then none else some value) = v.map (name.encode padding))
    (hvalid : ∀ w ∈ v, name.Valid w) :
    Nvm.Holds (nvm.saveOne o name.bytes value) (saved.put o name v) := by
  unfold Nvm.saveOne Saved.put
  rw [hvalue]
  by_cases hwritten : o.written = true
  · rw [if_pos hwritten]
    constructor
    · intro n
      by_cases hn : n = name
      · subst hn
        refine ⟨padding, ?_⟩
        rw [Store.lookup_save_self, if_pos hwritten, Function.update_self]
      · obtain ⟨padding', hbytes⟩ := h.bytes n
        refine ⟨padding', ?_⟩
        rw [Store.lookup_save_ne o (by simpa using hn), hbytes, Function.update_of_ne hn]
    · intro n w hw
      by_cases hn : n = name
      · subst hn
        rw [Function.update_self] at hw
        exact hvalid w hw
      · rw [Function.update_of_ne hn] at hw
        exact h.valid n w hw
  · rw [if_neg hwritten, Store.save, if_neg hwritten]
    exact h

end Holds

/-! ## What a start loads -/

section Load

variable {read : Bytes → Int}

/-- The branch of the handlers for a name. -/
def SavedName.load (read : Bytes → Int) (value : Bytes) (s : SettingsMemory) :
    SavedName → SettingsMemory
  | .bleName =>
    (loadText 32 (read SavedName.bleName.bytes) value (fun text s => { s with app.bleName := text })
      s).1
  | .ppsEnabled =>
    (loadField (value.length == 1) (read SavedName.ppsEnabled.bytes)
      (fun s => { s with app.ppsEnabled := value.head? != some 0 }) s).1
  | .pcbVariant =>
    (loadField (value.length == 1) (read SavedName.pcbVariant.bytes)
      (fun s => { s with app.pcbVariant := value.headD 0 }) s).1
  | .logBackend =>
    (loadText 12 (read SavedName.logBackend.bytes) value
      (fun text s => { s with app.logBackend := text }) s).1
  | .magMode =>
    (loadField (value.length == 1) (read SavedName.magMode.bytes)
      (fun s => { s with app.magMode := value.headD 0 }) s).1
  | .deviceUuid =>
    if h : value.length = 16 then
      (loadField true (read SavedName.deviceUuid.bytes)
        (fun s => { s with deviceUuid := ⟨value.toArray, by simpa using h⟩ }) s).1
    else s
  | .cal =>
    (loadField (value.length == 20) (read SavedName.cal.bytes)
      (fun s => { s with mag.cal := .ofBytes value }) s).1

theorem below_eq_some {handler name rest : Bytes} :
    below handler name = some rest ↔ name = handler ++ ascii "/" ++ rest := by
  unfold below
  constructor
  · intro h
    split at h
    · rename_i hprefix
      obtain ⟨t, rfl⟩ := List.isPrefixOf_iff_prefix.mp hprefix
      cases h
      simp [ascii]
    · cases h
  · rintro rfl
    simp [ascii]

theorem loadEntry_bytes (name : SavedName) (value : Bytes) (s : SettingsMemory) :
    loadEntry read name.bytes value s = name.load read value s := by
  cases name with
  | bleName => rfl
  | ppsEnabled => rfl
  | pcbVariant => rfl
  | logBackend => rfl
  | magMode => rfl
  | deviceUuid =>
    show (settingsSetHandler _ (ascii "device_uuid") value s).1 = _
    rw [settingsSetHandler, if_neg (by decide), if_pos rfl, SavedName.load]
    split <;> rfl
  | cal => rfl

theorem loadEntry_other {name : Bytes} (h : ∀ n : SavedName, name ≠ n.bytes) (value : Bytes)
    (s : SettingsMemory) : loadEntry read name value s = s := by
  unfold loadEntry
  split
  · rename_i rest hrest
    have hname := below_eq_some.mp hrest
    have hne (n : SavedName) (short : Bytes) (hn : n.bytes = ascii "app" ++ ascii "/" ++ short) :
        rest ≠ short := by
      rintro rfl
      exact h n (hname.trans hn.symm)
    simp [settingsSetHandler, hne .bleName (ascii "ble_name") rfl,
      hne .deviceUuid (ascii "device_uuid") rfl, hne .ppsEnabled (ascii "pps") rfl,
      hne .pcbVariant (ascii "pcb") rfl, hne .logBackend (ascii "log") rfl,
      hne .magMode (ascii "mag_mode") rfl]
  · rename_i rest _ hrest
    have hname := below_eq_some.mp hrest
    have hne : rest ≠ ascii "cal" := by
      rintro rfl
      exact h .cal hname
    simp [magSettingsSet, hne]
  · rfl

theorem loadField_cases (fits : Bool) (read : Int) (put : SettingsMemory → SettingsMemory)
    (s : SettingsMemory) :
    (loadField fits read put s).1 = s ∨ (loadField fits read put s).1 = put s := by
  unfold loadField
  split_ifs <;> simp

theorem loadText_cases (size : Nat) (read : Int) (value : Bytes)
    (put : CharArray size → SettingsMemory → SettingsMemory) (s : SettingsMemory) :
    (loadText size read value put s).1 = s ∨
      ∃ text, (loadText size read value put s).1 = put text s := by
  unfold loadText
  split
  · exact (loadField_cases true read _ s).imp_right fun h => ⟨_, h⟩
  · exact .inl rfl

/-- A value is not taken, or it changes its setting and no more. -/
theorem load_cases (name : SavedName) (value : Bytes) (s : SettingsMemory) :
    name.load read value s = s ∨ ∃ v : name.Value, name.load read value s = s.put name v := by
  cases name with
  | bleName => exact loadText_cases 32 _ value _ s
  | ppsEnabled => exact (loadField_cases _ _ _ s).imp_right fun h => ⟨_, h⟩
  | pcbVariant => exact (loadField_cases _ _ _ s).imp_right fun h => ⟨_, h⟩
  | logBackend => exact loadText_cases 12 _ value _ s
  | magMode => exact (loadField_cases _ _ _ s).imp_right fun h => ⟨_, h⟩
  | deviceUuid =>
    rw [SavedName.load]
    split
    · exact (loadField_cases _ _ _ s).imp_right fun h => ⟨_, h⟩
    · exact .inl rfl
  | cal => exact (loadField_cases _ _ _ s).imp_right fun h => ⟨_, h⟩

theorem get_load_of_ne {name name' : SavedName} (h : name' ≠ name) (value : Bytes)
    (s : SettingsMemory) : (name.load read value s).get name' = s.get name' := by
  rcases load_cases name value s with hload | ⟨v, hload⟩
  · rw [hload]
  · rw [hload, SettingsMemory.get_put_of_ne h]

theorem get_loadField_fits {name : SavedName} {put : SettingsMemory → SettingsMemory}
    {s : SettingsMemory} {v : name.Value} (h : (put s).get name = v) (read : Int) :
    (loadField true read put s).1.get name = if read < 0 then s.get name else v := by
  rw [loadField, if_pos rfl]
  split
  · rfl
  · exact h

theorem get_loadText_fits {name : SavedName} {size : Nat} {text : CharArray size}
    {put : CharArray size → SettingsMemory → SettingsMemory} {s : SettingsMemory} {v : name.Value}
    (h : (put text s).get name = v) (read : Int) :
    (loadText size read text.chars put s).1.get name = if read < 0 then s.get name else v := by
  have htext : (⟨cstr text.chars, not_mem_cstr _, (length_cstr_le _).trans_lt text.fits⟩ :
      CharArray size) = text := CharArray.ext (cstr_of_no_nul text.no_nul)
  rw [loadText, dif_pos text.fits, htext]
  exact get_loadField_fits h read

/-- A value that was saved is taken as it was, unless it cannot be read. -/
theorem get_load_encode (name : SavedName) (padding : UInt8) (v : name.Value)
    (s : SettingsMemory) :
    (name.load read (name.encode padding v) s).get name =
      if read name.bytes < 0 then s.get name else v := by
  cases name with
  | bleName => exact get_loadText_fits rfl _
  | ppsEnabled => exact get_loadField_fits (by cases v <;> rfl) _
  | pcbVariant => exact get_loadField_fits rfl _
  | logBackend => exact get_loadText_fits rfl _
  | magMode => exact get_loadField_fits rfl _
  | deviceUuid =>
    have hlen : (SavedName.deviceUuid.encode padding v).length = 16 := Vector.length_toList
    rw [SavedName.load, dif_pos hlen]
    exact get_loadField_fits (by simp [SettingsMemory.get, SavedName.encode, Vector.toList]) _
  | cal =>
    have hlen : ((SavedName.cal.encode padding v).length == 20) = true :=
      beq_iff_eq.mpr (MagCalibration.length_toBytes padding v)
    have hput : SettingsMemory.get { s with mag.cal := .ofBytes (SavedName.cal.encode padding v) }
        .cal = v := MagCalibration.ofBytes_toBytes padding v
    rw [SavedName.load, hlen]
    exact get_loadField_fits hput _

theorem owns_loadEntry (read : Bytes → Int) (name : SavedName) :
    Owns (loadEntry read) (fun s => s.get name) name.bytes := by
  intro k value s hk
  by_cases hn : ∃ n : SavedName, k = n.bytes
  · obtain ⟨n, rfl⟩ := hn
    dsimp only
    rw [loadEntry_bytes]
    exact get_load_of_ne (fun h => hk (congrArg SavedName.bytes h.symm)) value s
  · dsimp only
    rw [loadEntry_other (fun n hk => hn ⟨n, hk⟩)]

end Load

/-- A load gives a setting its saved value, where there is one that can be read. -/
theorem get_load_restored {env : BootEnv} {name : SavedName}
    {handler : Bytes → Bytes → SettingsMemory → SettingsMemory}
    (howns : Owns handler (fun s => s.get name) name.bytes)
    (hself : ∀ value s, handler name.bytes value s = name.load env.read value s)
    {nvm : Nvm} {saved : Saved} (h : nvm.Holds saved) (s : SettingsMemory) :
    (load handler nvm s).get name = saved.restored env s name := by
  obtain ⟨padding, hname⟩ := h.bytes name
  unfold Saved.restored BootEnv.found
  cases hsaved : saved name with
  | none =>
    rw [hsaved, Option.map_none] at hname
    rw [howns.load_none hname, ite_self, Option.getD_none]
  | some v =>
    rw [hsaved, Option.map_some] at hname
    obtain ⟨s', hs', hload⟩ := howns.load_some hname s
    rw [hload, hself, get_load_encode, hs']
    split <;> rfl

/-! ## A start -/

section Boot

variable {env : BootEnv} {saved : Saved} {nvm : Nvm}

theorem loadMagEntry_eq (read : Bytes → Int) (name value : Bytes) (s : SettingsMemory) :
    loadMagEntry read name value s =
      if name = SavedName.cal.bytes then SavedName.cal.load read value s else s := by
  unfold loadMagEntry
  split
  · rename_i rest hrest
    obtain rfl := below_eq_some.mp hrest
    unfold magSettingsSet
    by_cases hcal : rest = ascii "cal"
    · subst hcal
      rfl
    · have hname : ascii "mag" ++ ascii "/" ++ rest ≠ SavedName.cal.bytes :=
        fun h => hcal (List.append_cancel_left (h.trans (by rfl : _ = ascii "mag/" ++ ascii "cal")))
      rw [if_neg hcal, if_neg hname]
  · rename_i hrest
    rw [if_neg]
    rintro rfl
    cases hrest

/-- The second load of the calibration is that of the first one. -/
theorem load_loadMagEntry (h : nvm.Holds saved) (s : SettingsMemory) :
    load (loadMagEntry env.read) nvm s =
      { s with mag.cal := saved.restored env s .cal } := by
  have hcal : (load (loadMagEntry env.read) nvm s).get .cal = saved.restored env s .cal := by
    refine get_load_restored (fun name value s hname => ?_) (fun value s => ?_) h s
    · dsimp only
      rw [loadMagEntry_eq, if_neg hname]
    · rw [loadMagEntry_eq, if_pos rfl]
  let others (s : SettingsMemory) := (s.app, s.deviceUuid, s.mag.initialized)
  have hstep (name value : Bytes) (s : SettingsMemory) :
      others (loadMagEntry env.read name value s) = others s := by
    rw [loadMagEntry_eq]
    split
    · rw [SavedName.load, loadField]
      split_ifs <;> rfl
    · rfl
  have hrest := get_load others hstep nvm s
  simp only [others, Prod.mk.injEq] at hrest
  exact SettingsMemory.ext hrest.1 hrest.2.1 (Mag.ext hrest.2.2 hcal)

/-- The memory that a start makes of the saved values. -/
def Saved.memory (env : BootEnv) (saved : Saved) : SettingsMemory where
  app :=
    { bleName := saved.restored env .initial .bleName
      ppsEnabled := saved.restored env .initial .ppsEnabled
      pcbVariant := saved.restored env .initial .pcbVariant
      logBackend := saved.restored env .initial .logBackend
      magMode := saved.restored env .initial .magMode }
  deviceUuid :=
    if env.load = 0 then
      (env.found .deviceUuid (saved .deviceUuid)).getD (appSettingsGenerateUuid env.random)
    else saved.restored env .initial .deviceUuid
  mag :=
    { initialized := env.magReady
      cal :=
        if env.magReady then
          if saved.restored env .initial .magMode = 1 then .cleared
          else (env.found .cal (saved .cal)).getD .cleared
        else saved.restored env .initial .cal }

theorem loadEntry_initialized (read : Bytes → Int) (name value : Bytes) (s : SettingsMemory) :
    (loadEntry read name value s).mag.initialized = s.mag.initialized := by
  by_cases hn : ∃ n : SavedName, name = n.bytes
  · obtain ⟨n, rfl⟩ := hn
    rw [loadEntry_bytes]
    rcases load_cases n value s with hload | ⟨v, hload⟩
    · rw [hload]
    · rw [hload, SettingsMemory.put_initialized]
  · rw [loadEntry_other (fun n hname => hn ⟨n, hname⟩)]

/-- The memory after the load of all settings. -/
theorem load_loadEntry (h : nvm.Holds saved) :
    load (loadEntry env.read) nvm .initial =
      { app := (saved.memory env).app
        deviceUuid := saved.restored env .initial .deviceUuid
        mag := ⟨false, saved.restored env .initial .cal⟩ } := by
  have hget (name : SavedName) := get_load_restored (owns_loadEntry env.read name)
    (loadEntry_bytes name) h .initial
  have hinit := get_load (fun s : SettingsMemory => s.mag.initialized)
    (loadEntry_initialized env.read) nvm .initial
  exact SettingsMemory.ext (AppSettings.ext (hget .bleName) (hget .ppsEnabled) (hget .pcbVariant)
    (hget .logBackend) (hget .magMode)) (hget .deviceUuid) (Mag.ext hinit (hget .cal))

theorem isUuidEmpty_restored (h : nvm.Holds saved) :
    isUuidEmpty (saved.restored env .initial .deviceUuid) =
      (env.found .deviceUuid (saved .deviceUuid)).isNone := by
  unfold Saved.restored
  cases hfound : env.found .deviceUuid (saved .deviceUuid) with
  | none => decide
  | some uuid =>
    have hsaved : saved .deviceUuid = some uuid := by
      unfold BootEnv.found at hfound
      split at hfound
      · cases hfound
      · exact hfound
    exact Uuid.IsRandom.not_empty (h.valid .deviceUuid uuid hsaved)

/-- What `app_settings_init` does when the subsystem starts. -/
theorem appSettingsInit_eq (h : nvm.Holds saved) (hinit : env.subsysInit = 0)
    (hregister : env.register = 0) :
    (SettingsDevice.appSettingsInit env ⟨.initial, nvm⟩).1 =
      { ram :=
          { app := (saved.memory env).app
            deviceUuid := (saved.memory env).deviceUuid
            mag := ⟨false, saved.restored env .initial .cal⟩ }
        nvm :=
          if env.load = 0 ∧ env.found .deviceUuid (saved .deviceUuid) = none then
            nvm.saveOne env.uuidSave SavedName.deviceUuid.bytes
              (appSettingsGenerateUuid env.random).toList
          else nvm } := by
  simp only [SettingsDevice.appSettingsInit, hinit, hregister, ne_eq, not_true_eq_false,
    if_false, load_loadEntry h]
  by_cases hload : env.load = 0
  · simp only [hload, not_true_eq_false, if_false, SettingsDevice.assignUuid,
      isUuidEmpty_restored h, Saved.memory, true_and, if_true]
    cases hfound : env.found .deviceUuid (saved .deviceUuid) with
    | none => simp [SavedName.bytes]
    | some uuid => simp [Saved.restored, hfound]
  · simp [hload, Saved.memory]

theorem magStart_ram {d : SettingsDevice} (h : d.nvm.Holds saved) :
    (d.magStart env).ram =
      { d.ram with
        mag :=
          if env.magReady then
            { initialized := true
              cal :=
                if d.ram.app.magMode = 1 then .cleared
                else (env.found .cal (saved .cal)).getD .cleared }
          else d.ram.mag } := by
  unfold SettingsDevice.magStart
  split
  · rw [load_loadMagEntry h]
    dsimp only
    split
    · rfl
    · rfl
  · rfl

/-- After the settings are loaded, a new UUID is the only value that has been saved. -/
theorem appSettingsInit_holds {d : SettingsDevice} (h : nvm.Holds saved) :
    (SettingsDevice.appSettingsInit env ⟨.initial, nvm⟩).1.nvm.Holds
      (saved.after d (.boot env)) := by
  by_cases hstarts : env.subsysInit = 0 ∧ env.register = 0
  · rw [appSettingsInit_eq h hstarts.1 hstarts.2, Saved.after]
    by_cases hnew : env.load = 0 ∧ env.found .deviceUuid (saved .deviceUuid) = none
    · rw [if_pos hnew, if_pos ⟨⟨hstarts.1, hstarts.2, hnew.1⟩, hnew.2⟩]
      refine h.saveOne env.uuidSave .deviceUuid 0 ?_ ?_
      · rw [if_neg, Option.map_some]
        · rfl
        · intro hnil
          exact absurd (congrArg List.length hnil) (by simp)
      · rintro w ⟨⟩
        exact isRandom_generate env.random
    · rw [if_neg hnew, if_neg fun hall => hnew ⟨hall.1.2.2, hall.2⟩]
      exact h
  · rw [Saved.after, if_neg fun hall => hstarts ⟨hall.1.1, hall.1.2.1⟩]
    unfold SettingsDevice.appSettingsInit
    split
    · exact h
    · rename_i hinit
      rw [if_pos fun hregister => hstarts ⟨not_not.mp hinit, hregister⟩]
      exact h

theorem magStart_nvm (d : SettingsDevice) : (d.magStart env).nvm = d.nvm := by
  unfold SettingsDevice.magStart
  split
  · dsimp only
    split <;> rfl
  · rfl

/-- A start gives the memory that the saved values make. -/
theorem boot_ram (env : BootEnv) {d : SettingsDevice} (h : d.nvm.Holds saved)
    (hinit : env.subsysInit = 0) (hregister : env.register = 0) :
    (d.boot env).ram = saved.memory env := by
  have happ := appSettingsInit_eq h hinit hregister
  have hcal : (saved.after d (.boot env)) .cal = saved .cal := by
    simp only [Saved.after, Saved.put]
    split_ifs
    · exact Function.update_of_ne (by decide) _ _
    · rfl
    · rfl
  unfold SettingsDevice.boot
  rw [magStart_ram (appSettingsInit_holds (d := d) h), hcal, happ]
  unfold Saved.memory
  cases env.magReady <;> rfl

end Boot

/-- NVM and the saved values stay in step. -/
theorem holds_after {d : SettingsDevice} {saved : Saved} (h : d.nvm.Holds saved)
    (op : SettingsOp) : (d.after op).nvm.Holds (saved.after d op) := by
  have htext (text : Bytes) (size : Nat) (hfits : (cstr text).length < size) :
      (if cstr text = [] then none else some (cstr text)) =
        (savedText text hfits).map CharArray.chars := by
    unfold savedText
    split <;> rfl
  cases op with
  | boot env =>
    rw [SettingsDevice.after, SettingsDevice.boot, magStart_nvm]
    exact appSettingsInit_holds h
  | setBleName o name =>
    simp only [SettingsDevice.after, Saved.after, SettingsDevice.setBleName, SettingsDevice.setApp]
    by_cases hfits : (cstr name).length < 32
    · rw [dif_pos hfits]
      simp only [hfits, decide_true, if_true]
      exact h.saveOne o .bleName 0 (htext name 32 hfits) fun _ _ => trivial
    · rw [dif_neg hfits]
      simpa [hfits] using h
  | setPpsEnabled o enabled =>
    exact h.saveOne o .ppsEnabled 0 rfl fun _ _ => trivial
  | setPcbVariant o pcb =>
    exact h.saveOne o .pcbVariant 0 rfl fun _ _ => trivial
  | setLogBackend o backend =>
    simp only [SettingsDevice.after, Saved.after, SettingsDevice.setLogBackend,
      SettingsDevice.setApp]
    by_cases hfits : (cstr backend).length < 12
    · rw [dif_pos hfits]
      simp only [hfits, decide_true, if_true]
      exact h.saveOne o .logBackend 0 (htext backend 12 hfits)
        fun _ _ => trivial
    · rw [dif_neg hfits]
      simpa [hfits] using h
  | setMagMode o mode =>
    simp only [SettingsDevice.after, Saved.after, SettingsDevice.setMagMode, SettingsDevice.setApp]
    by_cases hmode : mode ≤ 2
    · simp only [hmode, decide_true, if_true]
      refine h.saveOne o .magMode 0 rfl ?_
      rintro w ⟨⟩
      exact hmode
    · simpa [hmode] using h
  | calSet cal => exact h
  | calSave o padding =>
    simp only [SettingsDevice.after, Saved.after, SettingsDevice.calSave]
    split
    · refine h.saveOne o .cal padding ?_ fun _ _ => trivial
      rw [if_neg, Option.map_some]
      · rfl
      · intro hnil
        exact absurd (congrArg List.length hnil) (by simp [MagCalibration.length_toBytes])
    · exact h

/-! ## Runs -/

/-- A start whose NVM answers every call. -/
def BootEnv.healthy (random : Uuid) : BootEnv where
  subsysInit := 0
  register := 0
  load := 0
  read _ := 0
  random := random
  uuidSave := ⟨0, true, fun _ => rfl⟩
  magReady := true

/-- The device, with the values that it last wrote. -/
def settingsStep (p : SettingsDevice × Saved) (op : SettingsOp) : SettingsDevice × Saved :=
  (p.1.after op, p.2.after p.1 op)

/-- The life of a device, from the factory. -/
def settingsRun (ops : List SettingsOp) : SettingsDevice × Saved :=
  ops.foldl settingsStep (.factory, fun _ => none)

theorem settingsRun_append (ops ops' : List SettingsOp) :
    settingsRun (ops ++ ops') = ops'.foldl settingsStep (settingsRun ops) :=
  List.foldl_append

theorem foldl_holds {p : SettingsDevice × Saved} (h : p.1.nvm.Holds p.2) (ops : List SettingsOp) :
    (ops.foldl settingsStep p).1.nvm.Holds (ops.foldl settingsStep p).2 := by
  induction ops generalizing p with
  | nil => exact h
  | cons op ops ih => exact ih (holds_after h op)

theorem settingsRun_holds (ops : List SettingsOp) :
    (settingsRun ops).1.nvm.Holds (settingsRun ops).2 :=
  foldl_holds Nvm.holds_empty ops

/-- Whatever happened before, a start gives every setting the value that was last written
for it, and its default where there is none or it cannot be read. -/
theorem settings_after_restart (ops : List SettingsOp) (env : BootEnv)
    (hinit : env.subsysInit = 0) (hregister : env.register = 0) :
    ((settingsRun ops).1.boot env).ram = (settingsRun ops).2.memory env :=
  boot_ram _ (settingsRun_holds ops) hinit hregister

/-- A life in which settings of all kinds are saved, and one save fails. -/
def savingLife : List SettingsOp :=
  let saved : Save := ⟨0, true, fun _ => rfl⟩
  [.boot (.healthy (.replicate 16 7)), .setBleName saved (ascii "Jumper"),
    .setPpsEnabled saved true, .setLogBackend saved (ascii "littlefs"),
    .setPcbVariant ⟨-5, false, by decide⟩ 9, .setMagMode saved 2,
    .calSet ⟨-120, 35, 7, 1010, 990, 1000, true⟩, .calSave saved 0]

/-- A start that cannot read whether PPS is enabled. -/
def BootEnv.withoutPps : BootEnv :=
  { BootEnv.healthy (.replicate 16 9) with
    read := fun name => if name = ascii "app/pps" then -5 else 0 }

theorem settings_after_savingLife :
    ((settingsRun savingLife).1.boot .withoutPps).ram =
        (settingsRun savingLife).2.memory .withoutPps ∧
      ((settingsRun savingLife).1.boot .withoutPps).ram =
        { app :=
            { AppSettings.initial with
              bleName := ⟨ascii "Jumper", by decide, by decide⟩
              logBackend := ⟨ascii "littlefs", by decide, by decide⟩
              magMode := 2 }
          deviceUuid := appSettingsGenerateUuid (.replicate 16 7)
          mag := ⟨true, ⟨-120, 35, 7, 1010, 990, 1000, true⟩⟩ } :=
  ⟨settings_after_restart savingLife .withoutPps rfl rfl, by decide +kernel⟩

/-! ## The UUID stays -/

/-- A start loads the UUID. -/
def BootEnv.ReadsUuid (env : BootEnv) : Prop :=
  env.subsysInit = 0 ∧ env.register = 0 ∧ 0 ≤ env.read SavedName.deviceUuid.bytes

/-- Every start of some operations loads the UUID. -/
def ReadUuid (ops : List SettingsOp) : Prop :=
  ∀ op ∈ ops, ∀ env, op = .boot env → env.ReadsUuid

theorem saved_uuid_after {d : SettingsDevice} {saved : Saved} {uuid : Uuid} {op : SettingsOp}
    (h : saved .deviceUuid = some uuid) (hreads : ∀ env, op = .boot env → env.ReadsUuid) :
    (saved.after d op) .deviceUuid = some uuid := by
  have hput (o : Save) (name : SavedName) (v : Option name.Value) (hne : .deviceUuid ≠ name) :
      saved.put o name v .deviceUuid = some uuid := by
    unfold Saved.put
    split
    · rw [Function.update_of_ne hne, h]
    · exact h
  cases op with
  | boot env =>
    have hread := (hreads env rfl).2.2
    rw [Saved.after, if_neg]
    · exact h
    · rintro ⟨-, hnone⟩
      rw [BootEnv.found, if_neg (not_lt.mpr hread), h] at hnone
      cases hnone
  | setBleName o name =>
    rw [Saved.after]
    split
    · exact hput o _ _ (by decide)
    · exact h
  | setPpsEnabled o enabled => exact hput o .ppsEnabled _ (by decide)
  | setPcbVariant o pcb => exact hput o .pcbVariant _ (by decide)
  | setLogBackend o backend =>
    rw [Saved.after]
    split
    · exact hput o _ _ (by decide)
    · exact h
  | setMagMode o mode =>
    rw [Saved.after]
    split
    · exact hput o _ _ (by decide)
    · exact h
  | calSet cal => exact h
  | calSave o padding =>
    rw [Saved.after]
    split
    · exact hput o _ _ (by decide)
    · exact h

theorem saved_uuid_foldl {p : SettingsDevice × Saved} {uuid : Uuid} {ops : List SettingsOp}
    (h : p.2 .deviceUuid = some uuid) (hreads : ReadUuid ops) :
    (ops.foldl settingsStep p).2 .deviceUuid = some uuid := by
  induction ops generalizing p with
  | nil => exact h
  | cons op ops ih =>
    apply ih (p := settingsStep p op)
    · exact saved_uuid_after h (hreads op (by simp))
    · exact fun op' hop' => hreads op' (List.mem_cons_of_mem op hop')

/-- A start that ends with its UUID in NVM. -/
theorem saved_uuid_boot {d : SettingsDevice} {saved : Saved} {env : BootEnv}
    (h : d.nvm.Holds saved) (hstarts : env.Starts)
    (hwritten : env.found .deviceUuid (saved .deviceUuid) = none → env.uuidSave.written = true) :
    (saved.after d (.boot env)) .deviceUuid = some (d.boot env).ram.deviceUuid ∧
      (d.boot env).ram.deviceUuid.IsRandom := by
  rw [boot_ram _ h hstarts.1 hstarts.2.1, Saved.after, Saved.memory, if_pos hstarts.2.2]
  cases hfound : env.found .deviceUuid (saved .deviceUuid) with
  | none =>
    rw [if_pos ⟨hstarts, rfl⟩, Saved.put, if_pos (hwritten hfound), Function.update_self]
    exact ⟨rfl, isRandom_generate env.random⟩
  | some uuid =>
    rw [if_neg (by simp), Option.getD_some]
    unfold BootEnv.found at hfound
    split at hfound
    · cases hfound
    · exact ⟨hfound, h.valid .deviceUuid uuid hfound⟩

theorem memory_deviceUuid {saved : Saved} {env : BootEnv} {uuid : Uuid}
    (h : saved .deviceUuid = some uuid) (hread : 0 ≤ env.read SavedName.deviceUuid.bytes) :
    (saved.memory env).deviceUuid = uuid := by
  have hfound : env.found .deviceUuid (saved .deviceUuid) = some uuid := by
    rw [BootEnv.found, if_neg (not_lt.mpr hread), h]
  simp only [Saved.memory, Saved.restored, hfound, Option.getD_some, ite_self]

/-- A start that reads its UUID from NVM, or saves a new one, gives the device its identity:
as long as every start reads the UUID from NVM it stays the same, whatever is set and saved
in between, and it is a random one. -/
theorem deviceUuid_after_restart (ops ops' : List SettingsOp) (env env' : BootEnv)
    (hstarts : env.Starts)
    (hwritten : env.found .deviceUuid ((settingsRun ops).2 .deviceUuid) = none →
      env.uuidSave.written = true)
    (hreads : ReadUuid ops') (henv' : env'.ReadsUuid) :
    (settingsRun (ops ++ .boot env :: ops' ++ [.boot env'])).1.ram.deviceUuid =
        (settingsRun (ops ++ [.boot env])).1.ram.deviceUuid ∧
      (settingsRun (ops ++ [.boot env])).1.ram.deviceUuid.IsRandom := by
  obtain ⟨hsaved, hrandom⟩ := saved_uuid_boot (settingsRun_holds ops) hstarts hwritten
  have hholds : (settingsStep (settingsRun ops) (.boot env)).1.nvm.Holds
      (settingsStep (settingsRun ops) (.boot env)).2 := holds_after (settingsRun_holds ops) _
  have hkept := saved_uuid_foldl (p := settingsStep (settingsRun ops) (.boot env)) hsaved hreads
  have hram := boot_ram env' (foldl_holds hholds ops') henv'.1 henv'.2.1
  rw [List.append_assoc, settingsRun_append, List.cons_append, List.foldl_cons, List.foldl_append,
    settingsRun_append]
  refine ⟨?_, hrandom⟩
  exact (congrArg SettingsMemory.deviceUuid hram).trans (memory_deviceUuid hkept henv'.2.2)

theorem deviceUuid_after_two_starts :
    (settingsRun [.boot (.healthy (.replicate 16 7)), .setPpsEnabled ⟨-5, false, by decide⟩ true,
        .boot (.healthy (.replicate 16 9))]).1.ram.deviceUuid =
        (settingsRun [.boot (.healthy (.replicate 16 7))]).1.ram.deviceUuid ∧
      (settingsRun [.boot (.healthy (.replicate 16 7))]).1.ram.deviceUuid.IsRandom :=
  deviceUuid_after_restart [] [.setPpsEnabled ⟨-5, false, by decide⟩ true]
    (.healthy (.replicate 16 7)) (.healthy (.replicate 16 9)) ⟨rfl, rfl, rfl⟩ (fun _ => rfl)
    (by simp [ReadUuid]) ⟨rfl, rfl, le_refl 0⟩

/-! ## A restart keeps what was saved -/

/-- The whole of NVM can be read, and a new UUID is saved. -/
def BootEnv.Healthy (env : BootEnv) : Prop :=
  env.Starts ∧ (∀ name, 0 ≤ env.read name) ∧ env.uuidSave.written = true

/-- Nothing that the operation puts in RAM stays out of NVM. -/
def SettingsOp.Saves : SettingsOp → Prop
  | .boot env => env.Healthy
  | .setBleName o text | .setLogBackend o text => o.written = true ∧ cstr text ≠ []
  | .setPpsEnabled o _ | .setPcbVariant o _ | .setMagMode o _ => o.written = true
  | .calSet _ | .calSave _ _ => True

/-- The application settings of a device that has saved all of them. -/
def Saved.kept (saved : Saved) : AppSettings where
  bleName := (saved .bleName).getD AppSettings.initial.bleName
  ppsEnabled := (saved .ppsEnabled).getD AppSettings.initial.ppsEnabled
  pcbVariant := (saved .pcbVariant).getD AppSettings.initial.pcbVariant
  logBackend := (saved .logBackend).getD AppSettings.initial.logBackend
  magMode := (saved .magMode).getD AppSettings.initial.magMode

theorem memory_app_of_healthy {env : BootEnv} (h : env.Healthy) (saved : Saved) :
    (saved.memory env).app = saved.kept := by
  have hfound {α : Type} (name : SavedName) (v : Option α) : env.found name v = v :=
    if_neg (not_lt.mpr (h.2.1 name.bytes))
  simp only [Saved.memory, Saved.restored, hfound]
  rfl

theorem kept_put_of_ne {saved : Saved} {o : Save} {name : SavedName} (v : Option name.Value)
    (h : name = .deviceUuid ∨ name = .cal) : (saved.put o name v).kept = saved.kept := by
  unfold Saved.put
  split
  · rcases h with rfl | rfl <;> rfl
  · rfl

/-- An operation that saves what it sets keeps RAM and the saved values in step. -/
theorem app_after {d : SettingsDevice} {saved : Saved} {op : SettingsOp}
    (hholds : d.nvm.Holds saved) (hsaves : op.Saves) (h : d.ram.app = saved.kept) :
    (d.after op).ram.app = (saved.after d op).kept := by
  have htext (text : Bytes) (size : Nat) (hfits : (cstr text).length < size)
      (hne : cstr text ≠ []) (default : CharArray size) :
      (⟨cstr text, not_mem_cstr text, hfits⟩ : CharArray size) =
        (savedText text hfits).getD default := by
    rw [savedText, if_neg hne, Option.getD_some]
  cases op with
  | boot env =>
    rw [SettingsDevice.after, boot_ram _ hholds hsaves.1.1 hsaves.1.2.1,
      memory_app_of_healthy hsaves, Saved.after]
    split
    · exact (kept_put_of_ne _ (.inl rfl)).symm
    · rfl
  | setBleName o name =>
    show (appSettingsSetBleName _ name d.ram.app).1 = _
    rw [appSettingsSetBleName, Saved.after, h]
    split
    · rename_i hfits
      rw [Saved.put, if_pos hsaves.1, htext name 32 hfits hsaves.2 AppSettings.initial.bleName]
      rfl
    · rfl
  | setPpsEnabled o enabled =>
    show (appSettingsSetPpsEnabled (fun _ => o.ret) enabled d.ram.app).1 = _
    have hwritten : o.written = true := hsaves
    rw [appSettingsSetPpsEnabled, Saved.after, h, Saved.put, if_pos hwritten]
    rfl
  | setPcbVariant o pcb =>
    show (appSettingsSetPcbVariant (fun _ => o.ret) pcb d.ram.app).1 = _
    have hwritten : o.written = true := hsaves
    rw [appSettingsSetPcbVariant, Saved.after, h, Saved.put, if_pos hwritten]
    rfl
  | setLogBackend o backend =>
    show (appSettingsSetLogBackend _ backend d.ram.app).1 = _
    rw [appSettingsSetLogBackend, Saved.after, h]
    split
    · rename_i hfits
      rw [Saved.put, if_pos hsaves.1,
        htext backend 12 hfits hsaves.2 AppSettings.initial.logBackend]
      rfl
    · rfl
  | setMagMode o mode =>
    show (appSettingsSetMagMode _ mode d.ram.app).1 = _
    rw [appSettingsSetMagMode, Saved.after, h]
    by_cases hmode : mode ≤ 2
    · have hwritten : o.written = true := hsaves
      rw [if_neg (UInt8.not_lt.mpr hmode), if_pos hmode, Saved.put, if_pos hwritten]
      rfl
    · rw [if_pos (UInt8.not_le.mp hmode), if_neg hmode]
  | calSet cal => exact h
  | calSave o padding =>
    have hram : (d.after (.calSave o padding)).ram = d.ram := by
      simp only [SettingsDevice.after, SettingsDevice.calSave]
      split <;> rfl
    rw [hram, Saved.after, h]
    split
    · exact (kept_put_of_ne _ (.inr rfl)).symm
    · rfl

theorem app_foldl {p : SettingsDevice × Saved} {ops : List SettingsOp}
    (hholds : p.1.nvm.Holds p.2) (hops : ∀ op ∈ ops, op.Saves) (h : p.1.ram.app = p.2.kept) :
    (ops.foldl settingsStep p).1.ram.app = (ops.foldl settingsStep p).2.kept := by
  induction ops generalizing p with
  | nil => exact h
  | cons op ops ih =>
    apply ih (p := settingsStep p op)
    · exact holds_after hholds op
    · exact fun op' hop' => hops op' (List.mem_cons_of_mem op hop')
    · exact app_after hholds (hops op (by simp)) h

/-- As long as every save is written and no text is set to nothing, a restart changes no
application setting. -/
theorem restart_keeps_settings (ops : List SettingsOp) (env : BootEnv)
    (hops : ∀ op ∈ ops, op.Saves) (henv : env.Healthy) :
    ((settingsRun ops).1.boot env).ram.app = (settingsRun ops).1.ram.app := by
  have hkept : (settingsRun ops).1.ram.app = (settingsRun ops).2.kept :=
    app_foldl Nvm.holds_empty hops rfl
  rw [boot_ram _ (settingsRun_holds ops) henv.1.1 henv.1.2.1, memory_app_of_healthy henv, hkept]

theorem restart_keeps_name :
    ((settingsRun [.boot (.healthy (.replicate 16 7)),
        .setBleName ⟨0, true, fun _ => rfl⟩ (ascii "Jumper")]).1.boot
          (.healthy (.replicate 16 9))).ram.app =
      (settingsRun [.boot (.healthy (.replicate 16 7)),
        .setBleName ⟨0, true, fun _ => rfl⟩ (ascii "Jumper")]).1.ram.app := by
  have hhealthy (random : Uuid) : (BootEnv.healthy random).Healthy :=
    ⟨⟨rfl, rfl, rfl⟩, fun _ => le_refl 0, rfl⟩
  refine restart_keeps_settings _ _ ?_ (hhealthy _)
  intro op hop
  rcases List.mem_pair.mp hop with rfl | rfl
  · exact hhealthy _
  · exact ⟨rfl, by decide⟩

end TempoBt
