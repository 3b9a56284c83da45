-- SUMMARY: The settings in RAM: the application settings and the magnetometer calibration, with their setters and the values they take from a request.
import TempoBt.App.Errno
import TempoBt.App.Mcumgr
import TempoBt.Lib.CString

/-!
# Settings

Each setter puts its value in RAM and then saves it to NVM with `settings_save_one`,
whose return value for each name is an input.
-/

namespace TempoBt

open CString Errno

/-- The return value of `settings_save_one` for a name. -/
abbrev SettingsSave := Bytes → Int

/-! ## Application settings -/

/-- `app_settings`, without the UUID, which no request sets. -/
@[ext]
structure AppSettings where
  bleName : CharArray 32
  ppsEnabled : Bool
  pcbVariant : UInt8
  logBackend : CharArray 12
  magMode : UInt8
  deriving DecidableEq

/-- The default values. -/
def AppSettings.initial : AppSettings where
  bleName := ⟨ascii "Tempo-BT", by decide, by decide⟩
  ppsEnabled := false
  pcbVariant := 1
  logBackend := ⟨ascii "littlefs", by decide, by decide⟩
  magMode := 0

section Setters

variable (save : SettingsSave)

def appSettingsSetBleName (name : Bytes) (s : AppSettings) : AppSettings × Int :=
  if h : (cstr name).length < 32 then
    ({ s with bleName := ⟨cstr name, not_mem_cstr name, h⟩ }, save (ascii "app/ble_name"))
  else (s, -einval)

def appSettingsSetPpsEnabled (enabled : Bool) (s : AppSettings) : AppSettings × Int :=
  ({ s with ppsEnabled := enabled }, save (ascii "app/pps"))

def appSettingsSetPcbVariant (pcb : UInt8) (s : AppSettings) : AppSettings × Int :=
  ({ s with pcbVariant := pcb }, save (ascii "app/pcb"))

def appSettingsSetLogBackend (backend : Bytes) (s : AppSettings) : AppSettings × Int :=
  if h : (cstr backend).length < 12 then
    ({ s with logBackend := ⟨cstr backend, not_mem_cstr backend, h⟩ }, save (ascii "app/log"))
  else (s, -einval)

def appSettingsSetMagMode (mode : UInt8) (s : AppSettings) : AppSettings × Int :=
  if 2 < mode then (s, -einval)
  else ({ s with magMode := mode }, save (ascii "app/mag_mode"))

end Setters

/-! ## Magnetometer calibration -/

/-- `mag_calibration_t` -/
@[ext]
structure MagCalibration where
  offsetX : Int32
  offsetY : Int32
  offsetZ : Int32
  scaleX : UInt16
  scaleY : UInt16
  scaleZ : UInt16
  valid : Bool
  deriving DecidableEq

/-- The calibration after `mag_cal_clear`. -/
def MagCalibration.cleared : MagCalibration := ⟨0, 0, 0, 32768, 32768, 32768, false⟩

/-- The parts of the magnetometer's `state` that calibration requests use. -/
@[ext]
structure Mag where
  initialized : Bool
  cal : MagCalibration
  deriving DecidableEq

def magCalSet (cal : MagCalibration) (m : Mag) : Mag × Int :=
  if m.initialized then ({ m with cal }, 0) else (m, -enodev)

def magCalSave (save : SettingsSave) (m : Mag) : Int :=
  if m.cal.valid then
    if save (ascii "mag/cal") < 0 then save (ascii "mag/cal") else 0
  else -einval

/-! ## All settings -/

@[ext]
structure SettingsRam where
  app : AppSettings
  mag : Mag
  deriving DecidableEq

/-- A setting that a request names, or the flag that the calibration is valid. -/
inductive SettingKey where
  | bleName
  | ppsEnabled
  | pcbVariant
  | logBackend
  | magMode
  | offsetX
  | offsetY
  | offsetZ
  | scaleX
  | scaleY
  | scaleZ
  | calValid
  deriving DecidableEq

/-- The value of a setting, as a request gives it. -/
def SettingsRam.get (s : SettingsRam) : SettingKey → CborItem
  | .bleName => .tstr s.app.bleName.chars
  | .ppsEnabled => .bool s.app.ppsEnabled
  | .pcbVariant => .int s.app.pcbVariant.toNat
  | .logBackend => .tstr s.app.logBackend.chars
  | .magMode => .int s.app.magMode.toNat
  | .offsetX => .int s.mag.cal.offsetX.toInt
  | .offsetY => .int s.mag.cal.offsetY.toInt
  | .offsetZ => .int s.mag.cal.offsetZ.toInt
  | .scaleX => .int s.mag.cal.scaleX.toNat
  | .scaleY => .int s.mag.cal.scaleY.toNat
  | .scaleZ => .int s.mag.cal.scaleZ.toNat
  | .calValid => .bool s.mag.cal.valid

theorem SettingsRam.ext_get {s s' : SettingsRam}
    (hinit : s.mag.initialized = s'.mag.initialized) (h : s.get = s'.get) : s = s' := by
  have hkey (key : SettingKey) : s.get key = s'.get key := congrFun h key
  refine SettingsRam.ext (AppSettings.ext (CharArray.ext ?_) ?_ ?_ (CharArray.ext ?_) ?_)
    (Mag.ext hinit (MagCalibration.ext ?_ ?_ ?_ ?_ ?_ ?_ ?_))
  · simpa [SettingsRam.get] using hkey .bleName
  · simpa [SettingsRam.get] using hkey .ppsEnabled
  · simpa [SettingsRam.get, UInt8.toNat_inj] using hkey .pcbVariant
  · simpa [SettingsRam.get] using hkey .logBackend
  · simpa [SettingsRam.get, UInt8.toNat_inj] using hkey .magMode
  · simpa [SettingsRam.get, Int32.toInt_inj] using hkey .offsetX
  · simpa [SettingsRam.get, Int32.toInt_inj] using hkey .offsetY
  · simpa [SettingsRam.get, Int32.toInt_inj] using hkey .offsetZ
  · simpa [SettingsRam.get, UInt16.toNat_inj] using hkey .scaleX
  · simpa [SettingsRam.get, UInt16.toNat_inj] using hkey .scaleY
  · simpa [SettingsRam.get, UInt16.toNat_inj] using hkey .scaleZ
  · simpa [SettingsRam.get] using hkey .calValid

/-! ## Values of requests -/

/-- The text that a `char` array of `size` bytes holds of a text of a request; a text that
does not fit is ignored. -/
def takeText (size : Nat) (v : CborItem) : Option CborItem :=
  v.tstr?.bind fun text => if text.length < size then some (.tstr (cstr text)) else none

/-- A number of a request, ignored above `bound`. -/
def takeUInt (bound : Nat) (v : CborItem) : Option CborItem :=
  v.uint32?.bind fun n => if n.toNat ≤ bound then some (.int n.toNat) else none

/-- What a setting becomes for a value of a request; `none` when the value is ignored. -/
def SettingKey.take : SettingKey → CborItem → Option CborItem
  | .bleName => takeText 32
  | .ppsEnabled | .calValid => fun v => v.bool?.map .bool
  | .pcbVariant => takeUInt 255
  | .logBackend => takeText 12
  | .magMode => takeUInt 2
  | .offsetX | .offsetY | .offsetZ => fun v => v.int32?.map fun n => .int n.toInt
  | .scaleX | .scaleY | .scaleZ => takeUInt 65535

theorem takeText_takeText {size : Nat} {v w : CborItem} (h : takeText size v = some w) :
    takeText size w = some w := by
  obtain ⟨text, -, h⟩ := Option.bind_eq_some_iff.mp h
  split at h
  · rename_i hfits
    cases h
    have hlen := length_cstr_le text
    simp [takeText, CborItem.tstr?, show (cstr text).length < size by omega]
  · cases h

theorem takeUInt_takeUInt {bound : Nat} {v w : CborItem} (h : takeUInt bound v = some w) :
    takeUInt bound w = some w := by
  obtain ⟨n, -, h⟩ := Option.bind_eq_some_iff.mp h
  split at h
  · rename_i hbound
    cases h
    have hread : (CborItem.int n.toNat).uint32? = some n := by
      have hlt := n.toNat_lt
      rw [CborItem.uint32?, if_pos (by omega), Int.toNat_natCast]
      exact congrArg some n.ofNat_toNat
    rw [takeUInt, hread, Option.bind_some, if_pos hbound]
  · cases h

theorem length_of_takeText {size : Nat} {text : Bytes} {w : CborItem}
    (h : takeText size (.tstr text) = some w) : text.length < size := by
  by_contra hfits
  simp [takeText, CborItem.tstr?, hfits] at h

theorem le_of_takeUInt {bound n : Nat} {w : CborItem} (h : takeUInt bound (.int n) = some w) :
    n ≤ bound := by
  obtain ⟨m, hm, h⟩ := Option.bind_eq_some_iff.mp h
  simp only [CborItem.uint32?] at hm
  split at hm
  · cases hm
    rename_i hlt
    have hnat : (n : Int).toNat.toUInt32.toNat = n := by
      rw [Int.toNat_natCast, Nat.toUInt32_eq, UInt32.toNat_ofNat_of_lt']
      simp only [UInt32.size]
      omega
    rw [hnat] at h
    by_contra hbound
    simp [hbound] at h
  · cases hm

/-- A value that has been taken is taken as it is. -/
theorem SettingKey.take_take {key : SettingKey} {v w : CborItem} (h : key.take v = some w) :
    key.take w = some w := by
  cases key with
  | bleName | logBackend => exact takeText_takeText h
  | pcbVariant | magMode | scaleX | scaleY | scaleZ => exact takeUInt_takeUInt h
  | ppsEnabled | calValid =>
    obtain ⟨b, -, rfl⟩ := Option.map_eq_some_iff.mp h
    rfl
  | offsetX | offsetY | offsetZ =>
    obtain ⟨n, -, rfl⟩ := Option.map_eq_some_iff.mp h
    have hlo := n.le_toInt
    have hhi := n.toInt_lt
    simp [SettingKey.take, CborItem.int32?, show -2147483648 ≤ n.toInt by omega,
      show n.toInt < 2147483648 by omega]

end TempoBt
