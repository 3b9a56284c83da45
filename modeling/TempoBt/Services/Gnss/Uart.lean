-- SUMMARY: The UART callback of the receiver and the asynchronous driver under it: which buffers the callback hands out.
import Mathlib.Algebra.Group.Nat.Even
import TempoBt.Lib.Bytes
import TempoBt.Lib.Fifo
import TempoBt.Lib.Machine

/-!
# UART

The driver receives into one buffer and asks the callback for the next one. It switches to
that one when the first is full. The callback hands out its two buffers in turn and carries
on in turn when reception starts again, but reception always starts with the same buffer.
-/

namespace TempoBt

/-! ## Callback -/

inductive UartBuf where
  | uartRxBuf
  | uartRxBuf2
  deriving DecidableEq

/-- `UART_ERROR_OVERRUN`, as the callback spells it. -/
def uartErrorOverrun : Int := 4

inductive UartEvent where
  | txDone
  | txAborted
  | rxRdy (data : Bytes)
  | rxBufRequest
  | rxBufReleased
  | rxDisabled
  | rxStopped (reason : Int)
  deriving DecidableEq

/-- A call of the driver. -/
inductive UartCall where
  | rxBufRsp (buf : UartBuf)
  | rxEnable (buf : UartBuf)
  deriving DecidableEq

/-- What the callback reads and writes. The semaphores count to one. -/
structure UartRx where
  nextBuf : UartBuf
  rxRingBuf : Fifo UInt8 4096
  rxDataSem : Bool
  txDone : Bool
  txResult : Int

/-- `uart_cb`, with the calls it makes. -/
def uartCb (s : UartRx) : UartEvent → UartRx × List UartCall
  | .txDone => ({ s with txResult := 0, txDone := true }, [])
  | .txAborted => ({ s with txResult := -5, txDone := true }, [])
  | .rxRdy data =>
    if data = [] then (s, [])
    else ({ s with rxRingBuf := (s.rxRingBuf.put data).1, rxDataSem := true }, [])
  | .rxBufRequest =>
    ({ s with nextBuf := if s.nextBuf = .uartRxBuf then .uartRxBuf2 else .uartRxBuf },
      [.rxBufRsp s.nextBuf])
  | .rxBufReleased => (s, [])
  | .rxDisabled => (s, [.rxEnable .uartRxBuf])
  | .rxStopped reason =>
    (if reason = uartErrorOverrun then { s with rxRingBuf := .empty } else s,
      [.rxEnable .uartRxBuf])

/-! ## Driver -/

/-- The driver while it receives. -/
structure Receiver where
  current : UartBuf
  next : Option UartBuf
  /-- Whether it has yet to ask for the next buffer. -/
  due : Bool
  /-- How often it has asked since it was enabled. -/
  asked : Nat
  deriving DecidableEq

/-- The driver and the callback. -/
structure UartLink where
  callback : UartRx
  /-- `none` while reception is off. -/
  receiver : Option Receiver
  /-- How often the driver has asked for a buffer. -/
  requests : Nat

/-- A step of the driver. `off` says whether reception is off when the event is given, and
`ok` whether enabling it succeeds. -/
inductive UartStep where
  | transmitted (aborted : Bool)
  | received (data : Bytes)
  | request
  /-- The current buffer is full, and there is a next one. -/
  | full
  | disabled (off ok : Bool)
  | stopped (reason : Int) (off ok : Bool)

namespace UartLink

/-- The driver's side of a call. Reception that is on already is not enabled again. -/
def call (ok : Bool) (s : UartLink) : UartCall → UartLink
  | .rxBufRsp buf =>
    { s with receiver := s.receiver.map fun r => { r with next := some buf, due := false } }
  | .rxEnable buf =>
    if s.receiver.isNone && ok then { s with receiver := some ⟨buf, none, true, 0⟩ } else s

/-- The driver gives an event to the callback and serves its calls. -/
def give (event : UartEvent) (ok : Bool) (s : UartLink) : UartLink :=
  (uartCb s.callback event).2.foldl (call ok) { s with callback := (uartCb s.callback event).1 }

/-- All buffers are released when reception goes off. -/
def switchOff (off : Bool) (s : UartLink) : UartLink :=
  if off then { s with receiver := none } else s

/-- The event and the state of the driver in which a step gives it; `none` for a step that
the driver cannot take. -/
def event (s : UartLink) : UartStep → Option (UartEvent × Bool × UartLink)
  | .transmitted aborted => some (if aborted then .txAborted else .txDone, false, s)
  | .received data => if s.receiver.isSome then some (.rxRdy data, false, s) else none
  | .request =>
    match s.receiver with
    | some r =>
      if r.due then
        some (.rxBufRequest, false,
          { s with
            receiver := some { r with asked := r.asked + 1 }
            requests := s.requests + 1 })
      else none
    | none => none
  | .full =>
    match s.receiver with
    | some ⟨_, some next, _, asked⟩ =>
      some (.rxBufReleased, false, { s with receiver := some ⟨next, none, true, asked⟩ })
    | _ => none
  | .disabled off ok => some (.rxDisabled, ok, s.switchOff off)
  | .stopped reason off ok => some (.rxStopped reason, ok, s.switchOff off)

def step (s : UartLink) (a : UartStep) : UartLink × Unit :=
  match s.event a with
  | some (event, ok, s') => (s'.give event ok, ())
  | none => (s, ())

/-- After `gnss_init`. -/
def initial : UartLink where
  callback := ⟨.uartRxBuf2, .empty, false, false, 0⟩
  receiver := some ⟨.uartRxBuf, none, true, 0⟩
  requests := 0

/-! ## Answers -/

/-- A step in which every buffer that is handed out is not the one in use. -/
def HandsOutOther (s : UartLink) (a : UartStep) (_ : UartLink) : Prop :=
  ∀ e ∈ s.event a, ∀ buf, UartCall.rxBufRsp buf ∈ (uartCb e.2.2.callback e.1).2 →
    ∀ r ∈ e.2.2.receiver, buf ≠ r.current

/-- The first request after reception was enabled comes after an even number of requests. -/
def EvenStart (s : UartLink) : UartStep → Prop
  | .request => ∀ r ∈ s.receiver, r.due = true → r.asked = 0 → Even s.requests
  | _ => True

/-- The next buffer of the callback is never the one that it handed out last. -/
structure Inv (s : UartLink) : Prop where
  turn : s.callback.nextBuf = if Even s.requests then .uartRxBuf2 else .uartRxBuf
  due : ∀ r ∈ s.receiver, r.due = true → r.next = none
  enabled : ∀ r ∈ s.receiver, r.asked = 0 → r.current = .uartRxBuf ∧ r.next = none
  given : ∀ r ∈ s.receiver, ∀ buf ∈ r.next, s.callback.nextBuf ≠ buf
  switched : ∀ r ∈ s.receiver, 0 < r.asked → r.next = none → s.callback.nextBuf ≠ r.current

namespace Inv

variable {s : UartLink}

theorem initial : UartLink.initial.Inv where
  turn := by simp [UartLink.initial]
  due := by simp [UartLink.initial]
  enabled := by simp [UartLink.initial]
  given := by simp [UartLink.initial]
  switched := by simp [UartLink.initial]

/-- Only the buffers and the number of requests matter. -/
theorem congr (h : s.Inv) {s' : UartLink} (hbuf : s'.callback.nextBuf = s.callback.nextBuf)
    (hreceiver : s'.receiver = s.receiver) (hrequests : s'.requests = s.requests) : s'.Inv where
  turn := by rw [hbuf, hrequests]; exact h.turn
  due := by rw [hreceiver]; exact h.due
  enabled := by rw [hreceiver]; exact h.enabled
  given := by rw [hreceiver, hbuf]; exact h.given
  switched := by rw [hreceiver, hbuf]; exact h.switched

theorem switchOff (h : s.Inv) (off : Bool) : (s.switchOff off).Inv := by
  cases off with
  | false => exact h
  | true =>
    exact
      { turn := h.turn
        due := by simp [UartLink.switchOff]
        enabled := by simp [UartLink.switchOff]
        given := by simp [UartLink.switchOff]
        switched := by simp [UartLink.switchOff] }

theorem rxEnable (h : s.Inv) (ok : Bool) : (s.call ok (.rxEnable .uartRxBuf)).Inv := by
  unfold call
  simp only
  split
  · exact
      { turn := h.turn
        due := by simp
        enabled := by simp
        given := by simp
        switched := by simp }
  · exact h

/-- The callback's answer: the buffer handed out is the one that was next. -/
theorem request (h : s.Inv) (r : Receiver) :
    (UartLink.give .rxBufRequest false
      { s with
        receiver := some { r with asked := r.asked + 1 }
        requests := s.requests + 1 }).Inv where
  turn := by
    simp only [give, uartCb, List.foldl_cons, List.foldl_nil, call, h.turn, Nat.even_add_one]
    by_cases heven : Even s.requests <;> simp [heven]
  due := by simp [give, uartCb, call]
  enabled := by simp [give, uartCb, call]
  given := by
    simp only [give, uartCb, List.foldl_cons, List.foldl_nil, call]
    cases s.callback.nextBuf <;> simp
  switched := by simp [give, uartCb, call]

theorem full (h : s.Inv) {current next : UartBuf} {due : Bool} {asked : Nat}
    (hr : s.receiver = some ⟨current, some next, due, asked⟩) :
    (UartLink.give .rxBufReleased false
      { s with receiver := some ⟨next, none, true, asked⟩ }).Inv where
  turn := h.turn
  due := by simp [give, uartCb]
  enabled := by
    intro r hr' hasked
    obtain rfl : (⟨next, none, true, asked⟩ : Receiver) = r := by simpa [give, uartCb] using hr'
    have hnone := (h.enabled _ hr hasked).2
    simp at hnone
  given := by simp [give, uartCb]
  switched := by
    intro r hr' _ _
    obtain rfl : (⟨next, none, true, asked⟩ : Receiver) = r := by simpa [give, uartCb] using hr'
    exact h.given _ hr next rfl

theorem step (h : s.Inv) (a : UartStep) : (s.step a).1.Inv := by
  cases a with
  | transmitted aborted =>
    cases aborted <;> exact h.congr rfl rfl rfl
  | received data =>
    unfold UartLink.step UartLink.event
    cases hon : s.receiver.isSome with
    | false => exact h
    | true =>
      have hsame : (uartCb s.callback (.rxRdy data)).1.nextBuf = s.callback.nextBuf := by
        unfold uartCb
        simp only
        split <;> rfl
      have hcalls : (uartCb s.callback (.rxRdy data)).2 = [] := by
        unfold uartCb
        simp only
        split <;> rfl
      simp only [if_true, give, hcalls, List.foldl_nil]
      exact h.congr hsame rfl rfl
  | request =>
    unfold UartLink.step UartLink.event
    cases hr : s.receiver with
    | none => exact h
    | some r =>
      cases hdue : r.due with
      | false => simpa [hdue] using h
      | true => simpa [hdue] using h.request r
  | full =>
    unfold UartLink.step UartLink.event
    rcases hr : s.receiver with - | ⟨current, - | next, due, asked⟩
    · exact h
    · exact h
    · exact h.full hr
  | disabled off ok => exact (h.switchOff off).rxEnable ok
  | stopped reason off ok =>
    have hreset : UartLink.Inv { s.switchOff off with
        callback := (uartCb (s.switchOff off).callback (.rxStopped reason)).1 } := by
      refine (h.switchOff off).congr ?_ rfl rfl
      unfold uartCb
      simp only
      split <;> rfl
    exact hreset.rxEnable ok

/-- The buffer in use is handed out exactly when the turn is odd as reception starts. -/
theorem handsOutOther_iff (h : s.Inv) (a : UartStep) :
    s.HandsOutOther a (s.step a).1 ↔ s.EvenStart a := by
  cases a with
  | request =>
    unfold HandsOutOther EvenStart UartLink.event
    rcases hr : s.receiver with - | r
    · simp
    · cases hdue : r.due with
      | false => simp [hdue]
      | true =>
        have hnone := h.due r hr hdue
        rcases Nat.eq_zero_or_pos r.asked with hfirst | hlater
        · obtain ⟨hcurrent, -⟩ := h.enabled r hr hfirst
          have hturn := h.turn
          by_cases heven : Even s.requests <;>
            simp [uartCb, hdue, hfirst, hcurrent, hturn, heven]
        · have hne := h.switched r hr hlater hnone
          simp [uartCb, hdue, hne, Nat.pos_iff_ne_zero.mp hlater]
  | transmitted aborted => cases aborted <;> simp [HandsOutOther, EvenStart, UartLink.event, uartCb]
  | received data =>
    unfold HandsOutOther EvenStart UartLink.event uartCb
    cases s.receiver.isSome <;> by_cases hdata : data = [] <;> simp [hdata]
  | full =>
    unfold HandsOutOther EvenStart UartLink.event
    rcases s.receiver with - | ⟨current, - | next, due, asked⟩ <;> simp [uartCb]
  | disabled off ok => simp [HandsOutOther, EvenStart, UartLink.event, uartCb]
  | stopped reason off ok => simp [HandsOutOther, EvenStart, UartLink.event, uartCb]

end Inv

/-- **When the buffer in use is never handed out.** In every run of the driver, exactly when
each first request after reception was enabled comes after an even number of requests. -/
theorem handsOutOther_along_iff (as : List UartStep) :
    Machine.Along step HandsOutOther initial as ↔
      Machine.Guarded step EvenStart initial as :=
  Machine.along_iff_guarded (I := Inv) (fun _ a h _ => Inv.step h a)
    (fun _ a h hstart => (h.handsOutOther_iff a).mpr hstart)
    (fun _ a h hstart hother => hstart ((h.handsOutOther_iff a).mp hother)) Inv.initial as

/-- One request, reception goes off and on again, and the next request is answered with the
buffer in use. -/
theorem not_handsOutOther_restart :
    ¬ Machine.Along step HandsOutOther initial [.request, .disabled true true, .request] := by
  intro h
  have hlast := h.2.2.1
  exact hlast _ rfl .uartRxBuf (by decide) _ rfl rfl

end UartLink

end TempoBt
