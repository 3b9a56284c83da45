-- SUMMARY: The USB terminal service: opening, closing, line output, and the events that lead to the disconnect callback.
import TempoBt.App.Errno
import TempoBt.Lib.Bytes
import TempoBt.Lib.Fifo

/-!
# USB terminal

The state of `usb_tty.c`, the functions that its users call, and the handlers. What
`uart_line_ctrl_get` answers for the DTR line is an argument; `none` is a failing
call.
-/

namespace TempoBt

open Errno

/-- `USB_TTY_RING_SIZE` -/
def usbTtyRingSize : Nat := 4096

/-- The functions registered as disconnect callback: `usb_disconnect_handler` of
the logger and `mag_cal_disconnect_handler` of the calibration streaming. -/
inductive DisconnectCallback where
  | usbDisconnectHandler
  | magCalDisconnectHandler
  deriving DecidableEq

/-- The static data of `usb_tty.c`. -/
structure UsbTty where
  usbEnabled : Bool
  usbConfigured : Bool
  ttyOpen : Bool
  dtrState : Bool
  disconnectCb : Option DisconnectCallback
  txRing : Fifo UInt8 usbTtyRingSize
  /-- `rx_line_buf` up to `rx_pos`. -/
  rxLine : Bytes
  /-- Whether `dtr_poll_work` is scheduled. -/
  dtrPollWork : Bool

/-- The static data after `usb_tty_init`. -/
def UsbTty.initial (usbEnabled : Bool) : UsbTty where
  usbEnabled
  usbConfigured := false
  ttyOpen := false
  dtrState := false
  disconnectCb := none
  txRing := .empty
  rxLine := []
  dtrPollWork := false

def usbTtyIsConnected (dtr : Option Bool) (u : UsbTty) : Bool :=
  u.usbEnabled && (dtr == some true || u.usbConfigured)

def usbTtyOpen (dtr : Option Bool) (u : UsbTty) : UsbTty × Int :=
  if !u.usbEnabled then (u, -enodev)
  -- the line is read again, after the caller has
  else if !usbTtyIsConnected dtr u then (u, -enotconn)
  else
    ({ u with
        txRing := .empty
        rxLine := []
        dtrState := true
        ttyOpen := true
        dtrPollWork := true }, 0)

/-- `usb_tty_output_line`: the part of the line that fits is queued. -/
def usbTtyOutputLine (line : Bytes) (u : UsbTty) : UsbTty :=
  if !u.ttyOpen || !u.dtrState then u
  else { u with txRing := (u.txRing.put line).1 }

def usbTtyClose (u : UsbTty) : UsbTty :=
  { u with ttyOpen := false, dtrPollWork := false, txRing := .empty, rxLine := [] }

def usbTtyRegisterDisconnectCallback (callback : Option DisconnectCallback) (u : UsbTty) :
    UsbTty :=
  { u with disconnectCb := callback }

/-! ## The host -/

/-- The codes that `usb_status_callback` tells apart. -/
inductive UsbDcStatus where
  | configured
  | disconnected
  | suspend
  | other
  deriving DecidableEq

/-- `usb_status_callback`; whether it submits `disconnect_work`. -/
def usbStatusCallback (status : UsbDcStatus) (u : UsbTty) : UsbTty × Bool :=
  match status with
  | .configured => ({ u with usbConfigured := true }, false)
  | .disconnected | .suspend => ({ u with usbConfigured := false }, u.usbConfigured && u.ttyOpen)
  | .other => (u, false)

/-- `dtr_poll_handler`, with the answer for the DTR line; whether it submits
`disconnect_work`. -/
def dtrPollHandler (dtr : Option Bool) (u : UsbTty) : UsbTty × Bool :=
  match dtr with
  | none => ({ u with dtrPollWork := u.ttyOpen }, false)
  | some newDtr =>
    if u.dtrState && !newDtr && u.ttyOpen then
      -- the polling ends with the connection
      ({ u with dtrState := false, dtrPollWork := false }, true)
    else ({ u with dtrState := newDtr, dtrPollWork := u.ttyOpen }, false)

/-- `disconnect_work_handler`: the callback that is called. -/
def disconnectWorkHandler (u : UsbTty) : Option DisconnectCallback := u.disconnectCb

@[simp] theorem usbTtyOutputLine_ttyOpen (line : Bytes) (u : UsbTty) :
    (usbTtyOutputLine line u).ttyOpen = u.ttyOpen := by
  unfold usbTtyOutputLine
  split <;> rfl

/-- An open that fails changes nothing; one that succeeds leaves the terminal open. -/
theorem usbTtyOpen_cases (dtr : Option Bool) (u : UsbTty) :
    ((usbTtyOpen dtr u).2 ≠ 0 ∧ (usbTtyOpen dtr u).1 = u) ∨
    ((usbTtyOpen dtr u).2 = 0 ∧ (usbTtyOpen dtr u).1.ttyOpen = true) := by
  unfold usbTtyOpen
  split
  · exact .inl ⟨by simp [enodev], rfl⟩
  · split
    · exact .inl ⟨by simp [enotconn], rfl⟩
    · exact .inr ⟨rfl, rfl⟩

theorem usbTtyOpen_ret (dtr : Option Bool) (u : UsbTty) :
    (usbTtyOpen dtr u).2 = 0 ↔ usbTtyIsConnected dtr u = true := by
  unfold usbTtyOpen
  split
  · rename_i h
    simp only [Bool.not_eq_true'] at h
    simp [usbTtyIsConnected, h, enodev]
  · split
    · rename_i h
      simp only [Bool.not_eq_true'] at h
      simp [h, enotconn]
    · rename_i h
      simpa using h

/-! The handlers neither open nor close the terminal, and leave its callback. -/

theorem usbStatusCallback_terminal (status : UsbDcStatus) (u : UsbTty) :
    (usbStatusCallback status u).1.ttyOpen = u.ttyOpen ∧
      (usbStatusCallback status u).1.disconnectCb = u.disconnectCb := by
  cases status <;> exact ⟨rfl, rfl⟩

theorem dtrPollHandler_terminal (dtr : Option Bool) (u : UsbTty) :
    (dtrPollHandler dtr u).1.ttyOpen = u.ttyOpen ∧
      (dtrPollHandler dtr u).1.disconnectCb = u.disconnectCb := by
  cases dtr with
  | none => exact ⟨rfl, rfl⟩
  | some newDtr =>
    rw [dtrPollHandler]
    split <;> exact ⟨rfl, rfl⟩

/-- A poll submits its report when it reads the line low while the service takes it for
asserted. -/
theorem dtrPollHandler_submits (dtr : Option Bool) (u : UsbTty) :
    (dtrPollHandler dtr u).2 = true ↔
      u.ttyOpen = true ∧ u.dtrState = true ∧ dtr = some false := by
  cases dtr with
  | none => simp [dtrPollHandler]
  | some newDtr =>
    rw [dtrPollHandler]
    split
    · rename_i h
      simp only [Bool.and_eq_true, Bool.not_eq_true'] at h
      simp [h]
    · rename_i h
      simp only [Bool.and_eq_true, Bool.not_eq_true', not_and] at h
      simp only [Bool.false_eq_true, false_iff, not_and, Option.some.injEq]
      exact fun hopen hstate hlow => h ⟨hstate, hlow⟩ hopen

end TempoBt
