-- SUMMARY: The buffers of the demultiplexer as memory: every store is in bounds, and every message handed over is a frame of the stream.
import TempoBt.Services.Gnss.Scan

/-!
# Buffers in memory

Here the line buffer is the array of the source with its index, and a store outside an array
is a failure. The failures never happen, and the arrays hold what the line and the payload of
the model above are.
-/

namespace TempoBt

open Bytes

/-! ## Model -/

/-- A store into an array; `none` outside of it. -/
def store {n : Nat} (buf : Vector UInt8 n) (i : Nat) (byte : UInt8) : Option (Vector UInt8 n) :=
  if h : i < n then some (buf.set i byte h) else none

/-- `ubx_process_byte` with its store into the payload. -/
def ubxProcessByteStored (rx : UbxRx) (byte : UInt8) : Option (UbxRx × Option UbxMessage) :=
  match rx.state with
  | .payload =>
    (store rx.payload rx.payloadIdx.toNat byte).map fun payload =>
      let rx := { ubxUpdateRxChecksum byte rx with payload, payloadIdx := rx.payloadIdx + 1 }
      (if rx.length ≤ rx.payloadIdx then { rx with state := .ckA } else rx, none)
  | _ => some (ubxProcessByte rx byte)

/-- The state of the receive path as the source has it. -/
structure GnssMemory where
  ubxRx : UbxRx
  ubxAckState : UbxAckState
  nmeaLineBuf : Vector UInt8 gnssUartBufferSize
  nmeaLinePos : Nat
  nmeaArrivalTimeUs : UInt64
  nmeaCallback : Bool

namespace GnssMemory

/-- The static variables at start, with a callback registered or not. -/
def initial (nmeaCallback : Bool) : GnssMemory where
  ubxRx := .zero
  ubxAckState := Demux.initial.ack
  nmeaLineBuf := Vector.replicate _ 0
  nmeaLinePos := 0
  nmeaArrivalTimeUs := 0
  nmeaCallback := nmeaCallback

/-- A byte for the UBX parser. -/
def ubxByte (byte : UInt8) (m : GnssMemory) : Option (GnssMemory × List GnssEvent) :=
  (ubxProcessByteStored m.ubxRx byte).map fun
    | (ubxRx, none) => ({ m with ubxRx }, [])
    | (ubxRx, some message) =>
      ({ m with ubxRx, ubxAckState := ubxHandleMessage message m.ubxAckState }, [.ubx message])

/-- A line terminator: NUL behind the line, and CR, LF and NUL for the callback. -/
def lineEnd (m : GnssMemory) : Option (GnssMemory × List GnssEvent) :=
  if m.nmeaLinePos = 0 then some (m, [])
  else do
    let buf ← store m.nmeaLineBuf m.nmeaLinePos 0
    let line := buf.toList.take m.nmeaLinePos
    if validateNmeaChecksum line then
      if m.nmeaCallback then
        let buf ← store buf m.nmeaLinePos cr
        let buf ← store buf (m.nmeaLinePos + 1) lf
        let buf ← store buf (m.nmeaLinePos + 2) 0
        some ({ m with nmeaLineBuf := buf, nmeaLinePos := 0 },
          [.sentence line, .callback (buf.toList.take (m.nmeaLinePos + 2))])
      else some ({ m with nmeaLineBuf := buf, nmeaLinePos := 0 }, [.sentence line])
    else some ({ m with nmeaLineBuf := buf, nmeaLinePos := 0 }, [])

/-- The body of the loop of `process_uart_data`, for one byte and the clock. -/
def processUartByte (m : GnssMemory) (input : UInt64 × UInt8) :
    Option (GnssMemory × List GnssEvent) :=
  let byte := input.2
  if m.ubxRx.state ≠ .syncSearch then m.ubxByte byte
  else if byte = ubxSync1 then m.ubxByte byte
  else if byte = dollar then
    (store m.nmeaLineBuf 0 byte).map fun nmeaLineBuf =>
      ({ m with nmeaArrivalTimeUs := input.1, nmeaLineBuf, nmeaLinePos := 1 }, [])
  else if byte = cr ∨ byte = lf then m.lineEnd
  else if 0 < m.nmeaLinePos then
    if m.nmeaLinePos < gnssUartBufferSize - 3 then
      (store m.nmeaLineBuf m.nmeaLinePos byte).map fun nmeaLineBuf =>
        ({ m with nmeaLineBuf, nmeaLinePos := m.nmeaLinePos + 1 }, [])
    else some ({ m with nmeaLinePos := 0 }, [])
  else some (m, [])

/-- `process_uart_data` over a stream; `none` as soon as a store fails. -/
def processUartData (m : GnssMemory) : List (UInt64 × UInt8) → Option (GnssMemory × List GnssEvent)
  | [] => some (m, [])
  | input :: inputs => do
    let first ← m.processUartByte input
    let rest ← first.1.processUartData inputs
    some (rest.1, first.2 ++ rest.2)

end GnssMemory

/-! ## Bounds -/

/-- The payload index is below the length of a frame that fits. -/
def UbxRx.Bounded (rx : UbxRx) : Prop :=
  rx.state = .payload → rx.payloadIdx.toNat < rx.length.toNat ∧ rx.length.toNat ≤ 64

theorem store_of_lt {n i : Nat} {buf : Vector UInt8 n} (h : i < n) (byte : UInt8) :
    store buf i byte = some (buf.set i byte h) := dif_pos h

theorem UbxRx.Bounded.stored {rx : UbxRx} (h : rx.Bounded) (byte : UInt8) :
    ubxProcessByteStored rx byte = some (ubxProcessByte rx byte) := by
  unfold ubxProcessByteStored
  split
  · rename_i hstate
    obtain ⟨hidx, hlength⟩ := h hstate
    have hbound : rx.payloadIdx.toNat < 64 := by omega
    have hset : rx.payload.setIfInBounds rx.payloadIdx.toNat byte =
        rx.payload.set rx.payloadIdx.toNat byte hbound := by
      rw [← Vector.toList_inj, Vector.toList_setIfInBounds, Vector.toList_set]
    rw [store_of_lt hbound, Option.map_some, ubxProcessByte, hstate]
    simp only [ubxUpdateRxChecksum, hset]
    rfl
  · rfl

theorem UbxRx.Bounded.next {rx : UbxRx} (h : rx.Bounded) (byte : UInt8) :
    (ubxProcessByte rx byte).1.Bounded := by
  unfold ubxProcessByte UbxRx.Bounded
  cases hstate : rx.state
  case syncSearch => simp only; split <;> simp [hstate]
  case sync2 =>
    simp only
    split
    · simp
    · split <;> simp [ubxResetParser]
  case msgClass => simp
  case msgId => simp
  case lenL => simp
  case lenH =>
    simp only [ubxUpdateRxChecksum]
    generalize rx.length ||| byte.toUInt16 <<< 8 = length
    split
    · simp [ubxResetParser]
    · rename_i hshort
      split
      · simp
      · rename_i hne
        intro _
        rw [UInt16.not_lt, UInt16.le_iff_toNat_le] at hshort
        rw [← UInt16.toNat_inj] at hne
        exact ⟨Nat.pos_of_ne_zero hne, hshort⟩
  case payload =>
    obtain ⟨hidx, hlength⟩ := h hstate
    simp only [ubxUpdateRxChecksum]
    by_cases hlast : rx.length ≤ rx.payloadIdx + 1
    · simp [hlast]
    · simp only [hlast, if_false]
      intro _
      rw [UInt16.not_le, UInt16.lt_iff_toNat_lt] at hlast
      exact ⟨hlast, hlength⟩
  case ckA => simp
  case ckB => simp only; simp [ubxResetParser]

/-! ## Refinement -/

namespace GnssMemory

/-- The memory holds the state of the model. -/
structure Models (m : GnssMemory) (d : Demux) : Prop where
  rx : m.ubxRx = d.rx
  ack : m.ubxAckState = d.ack
  arrivalUs : m.nmeaArrivalTimeUs = d.arrivalUs
  nmeaCallback : m.nmeaCallback = d.nmeaCallback
  pos : m.nmeaLinePos = d.line.chars.length
  chars : m.nmeaLineBuf.toList.take m.nmeaLinePos = d.line.chars

variable {m : GnssMemory} {d : Demux}

/-- The index never exceeds 1021. -/
theorem Models.pos_le (h : m.Models d) : m.nmeaLinePos ≤ 1021 := by
  rw [h.pos]
  exact d.line.fits

/-- Storing at the end of a prefix leaves the prefix alone and makes it longer by one. -/
theorem take_set_succ {n i : Nat} {buf : Vector UInt8 n} (h : i < n) (byte : UInt8) :
    (buf.set i byte h).toList.take i = buf.toList.take i ∧
      (buf.set i byte h).toList.take (i + 1) = buf.toList.take i ++ [byte] := by
  have hlength : i < buf.toList.length := by simpa using h
  have hsame : (buf.toList.set i byte).take i = buf.toList.take i := by
    rw [List.take_set]
    exact List.set_eq_of_length_le (by rw [List.length_take]; omega)
  rw [Vector.toList_set]
  constructor
  · exact hsame
  · rw [List.take_succ_eq_append_getElem (by simpa using hlength), hsame]
    simp

theorem Models.ubxByte (h : m.Models d) (hbounded : d.rx.Bounded) (byte : UInt8) :
    ∃ m', m.ubxByte byte = some (m', (demuxUbx byte d).2) ∧ m'.Models (demuxUbx byte d).1 := by
  unfold GnssMemory.ubxByte demuxUbx
  rw [h.rx, hbounded.stored, Option.map_some]
  rcases ubxProcessByte d.rx byte with ⟨rx, - | message⟩
  · exact ⟨_, rfl, ⟨rfl, h.ack, h.arrivalUs, h.nmeaCallback, h.pos, h.chars⟩⟩
  · exact ⟨_, rfl, ⟨rfl, by rw [h.ack], h.arrivalUs, h.nmeaCallback, h.pos, h.chars⟩⟩

/-- The terminators fit behind every line. -/
theorem Models.lineEnd (h : m.Models d) :
    ∃ m', m.lineEnd = some (m', (demuxLineEnd d).2) ∧ m'.Models (demuxLineEnd d).1 := by
  have hpos := h.pos_le
  have hchars := h.chars
  unfold GnssMemory.lineEnd demuxLineEnd
  by_cases hzero : m.nmeaLinePos = 0
  · rw [if_pos hzero, if_pos (h.pos ▸ hzero)]
    exact ⟨m, rfl, h⟩
  rw [if_neg hzero, if_neg (h.pos ▸ hzero), ← hchars]
  generalize m.nmeaLinePos = pos at hpos
  have hnul : pos < gnssUartBufferSize := by unfold gnssUartBufferSize; omega
  have hlf : pos + 1 < gnssUartBufferSize := by unfold gnssUartBufferSize; omega
  have hlast : pos + 2 < gnssUartBufferSize := by unfold gnssUartBufferSize; omega
  have hempty (buf : Vector UInt8 gnssUartBufferSize) :
      GnssMemory.Models { m with nmeaLineBuf := buf, nmeaLinePos := 0 } { d with line := .empty } :=
    ⟨h.rx, h.ack, h.arrivalUs, h.nmeaCallback, rfl, rfl⟩
  simp only [store_of_lt hnul, Option.bind_eq_bind, Option.bind_some, (take_set_succ hnul 0).1]
  by_cases hvalid : validateNmeaChecksum (m.nmeaLineBuf.toList.take pos) = true
  · rw [if_pos hvalid, if_pos hvalid]
    by_cases hcallback : m.nmeaCallback = true
    · rw [if_pos hcallback, if_pos (h.nmeaCallback ▸ hcallback), store_of_lt hlf,
        Option.bind_some, store_of_lt hlast, Option.bind_some, (take_set_succ hlast 0).1,
        (take_set_succ hlf lf).2, (take_set_succ hnul cr).2, (take_set_succ hnul 0).1,
        List.append_assoc]
      exact ⟨_, rfl, hempty _⟩
    · rw [if_neg hcallback, if_neg (h.nmeaCallback ▸ hcallback)]
      exact ⟨_, rfl, hempty _⟩
  · rw [if_neg hvalid, if_neg hvalid]
    exact ⟨_, rfl, hempty _⟩

/-- **One byte.** No store fails, and the memory follows the model. -/
theorem Models.processUartByte (h : m.Models d) (hbounded : d.rx.Bounded)
    (input : UInt64 × UInt8) :
    ∃ m', m.processUartByte input = some (m', (TempoBt.processUartByte d input).2) ∧
      m'.Models (TempoBt.processUartByte d input).1 := by
  have hpos := h.pos_le
  unfold GnssMemory.processUartByte TempoBt.processUartByte
  simp only [h.rx]
  split
  · exact h.ubxByte hbounded input.2
  · split
    · exact h.ubxByte hbounded input.2
    · split
      · rename_i hdollar
        have hfirst : 0 < gnssUartBufferSize := by decide
        rw [store_of_lt hfirst, Option.map_some]
        refine ⟨_, rfl, ⟨rfl, h.ack, rfl, h.nmeaCallback, rfl, ?_⟩⟩
        have htake : (m.nmeaLineBuf.set 0 input.2 hfirst).toList.take 1 = [input.2] :=
          (take_set_succ hfirst input.2).2
        rw [hdollar] at htake ⊢
        exact htake
      · split
        · exact h.lineEnd
        · rw [← h.pos]
          split
          · rename_i hline
            split
            · rename_i hfit
              have hroom : m.nmeaLinePos < gnssUartBufferSize := by omega
              have hpush : (d.line.push input.2).chars = d.line.chars ++ [input.2] := by
                rw [NmeaLine.push, dif_pos (by rw [← h.pos]; exact hfit)]
              rw [store_of_lt hroom, Option.map_some]
              refine ⟨_, rfl, ⟨rfl, h.ack, h.arrivalUs, h.nmeaCallback, ?_, ?_⟩⟩
              · rw [hpush, List.length_append, ← h.pos]
                rfl
              · rw [hpush, ← h.chars]
                exact (take_set_succ hroom input.2).2
            · rename_i hfull
              have hpush : (d.line.push input.2).chars = [] := by
                rw [NmeaLine.push, dif_neg (by rw [← h.pos]; exact hfull)]
                rfl
              exact ⟨_, rfl, ⟨rfl, h.ack, h.arrivalUs, h.nmeaCallback, by simp [hpush],
                by simp [hpush]⟩⟩
          · exact ⟨m, rfl, h⟩

theorem bounded_processUartByte (h : d.rx.Bounded) (input : UInt64 × UInt8) :
    (TempoBt.processUartByte d input).1.rx.Bounded := by
  rcases processUartByte_cases d input with
    ⟨-, hstep⟩ | ⟨-, -, hstep⟩ | ⟨-, -, hstep⟩ | ⟨-, -, line, -, hstep⟩
  · obtain ⟨ack, hubx⟩ := demuxUbx_eq input.2 d
    rw [hstep, hubx]
    exact h.next input.2
  · rw [hstep]
    exact h
  · rw [hstep]
    rcases demuxLineEnd_cases d with hempty | ⟨events, hline, -⟩
    · rw [hempty]
      exact h
    · rw [hline]
      exact h
  · rw [hstep]
    exact h

/-- **A stream.** By induction on its bytes. -/
theorem Models.processUartData (h : m.Models d) (hbounded : d.rx.Bounded)
    (inputs : List (UInt64 × UInt8)) :
    ∃ m', m.processUartData inputs = some (m', (TempoBt.processUartData d inputs).2) ∧
      m'.Models (TempoBt.processUartData d inputs).1 := by
  induction inputs generalizing m d with
  | nil => exact ⟨m, rfl, h⟩
  | cons input inputs ih =>
    obtain ⟨m₁, hfirst, hmodels⟩ := h.processUartByte hbounded input
    obtain ⟨m₂, hrest, hend⟩ := ih hmodels (bounded_processUartByte hbounded input)
    refine ⟨m₂, ?_, hend⟩
    rw [GnssMemory.processUartData, hfirst, Option.bind_eq_bind, Option.bind_some, hrest]
    rfl

theorem models_initial (nmeaCallback : Bool) :
    (initial nmeaCallback).Models { Demux.initial with nmeaCallback } :=
  ⟨rfl, rfl, rfl, rfl, rfl, rfl⟩

end GnssMemory

/-! ## Frames -/

/-- The frames stand in the stream one after the other. -/
inductive Carries : List UbxFrame → Bytes → Prop where
  | done : Carries [] []
  | skip (byte : UInt8) {fs : List UbxFrame} {bs : Bytes} (rest : Carries fs bs) :
      Carries fs (byte :: bs)
  | frame (f : UbxFrame) (hfits : f.payload.length ≤ 64) {fs : List UbxFrame} {bs : Bytes}
      (rest : Carries fs bs) : Carries (f :: fs) (f.bytes ++ bs)

/-- The messages among the calls. -/
def handledMessages (events : List GnssEvent) : List UbxMessage :=
  events.filterMap fun event =>
    match event with
    | .ubx message => some message
    | _ => none

theorem Carries.append_left {fs : List UbxFrame} {bs : Bytes} (h : Carries fs bs) (as : Bytes) :
    Carries fs (as ++ bs) := by
  induction as with
  | nil => exact h
  | cons a as ih => exact .skip a ih

theorem handledMessages_demuxText (callback : Bool) (line : NmeaLine) (byte : UInt8) :
    handledMessages (demuxText callback line byte).2 = [] := by
  unfold demuxText
  split
  · rfl
  · split
    · split
      · cases callback <;> rfl
      · rfl
    · split <;> rfl

/-- The frames of a division with a right checksum stand in the stream. -/
theorem Scan.carries {bs : Bytes} {items : List ScanItem} {e : ScanEnd} (hscan : Scan bs items e) :
    ∃ fs, Carries fs bs ∧ ∀ callback line,
      handledMessages (Machine.run (ScanItem.step callback) line items).2.flatten =
        fs.map UbxFrame.toUbxMessage := by
  induction hscan with
  | done => exact ⟨[], .done, fun _ _ => rfl⟩
  | sync => exact ⟨[], .skip _ .done, fun _ _ => rfl⟩
  | @opened part hpart =>
    refine ⟨[], ?_, fun _ _ => rfl⟩
    simpa using Carries.done.append_left (ubxSync1 :: ubxSync2 :: part)
  | text hbyte rest ih =>
    obtain ⟨fs, hcarries, hmessages⟩ := ih
    refine ⟨fs, .skip _ hcarries, fun callback line => ?_⟩
    have hquiet := handledMessages_demuxText callback line
    rw [Machine.run_cons, List.flatten_cons, handledMessages, List.filterMap_append]
    refine (congrArg (· ++ _) (hquiet _)).trans ?_
    exact hmessages callback _
  | again rest ih =>
    obtain ⟨fs, hcarries, hmessages⟩ := ih
    exact ⟨fs, .skip _ hcarries, hmessages⟩
  | falseSync hbyte hbyte' rest ih =>
    obtain ⟨fs, hcarries, hmessages⟩ := ih
    exact ⟨fs, .skip _ (.skip _ hcarries), hmessages⟩
  | oversized hlong rest ih =>
    obtain ⟨fs, hcarries, hmessages⟩ := ih
    exact ⟨fs, hcarries.append_left _, hmessages⟩
  | @frame f ckA ckB bs' items' e' hfits rest ih =>
    obtain ⟨fs, hcarries, hmessages⟩ := ih
    by_cases hsum : (ckA, ckB) = ubxChecksum (f.header ++ f.payload)
    · have hbytes : ubxSync1 :: ubxSync2 :: f.header ++ f.payload ++ [ckA, ckB] = f.bytes := by
        rw [UbxFrame.bytes, ← hsum]
      refine ⟨f :: fs, by rw [hbytes]; exact .frame f hfits hcarries, fun callback line => ?_⟩
      rw [Machine.run_cons, List.flatten_cons, handledMessages, List.filterMap_append,
        ScanItem.step, if_pos hsum]
      exact congrArg (_ :: ·) (hmessages callback line)
    · refine ⟨fs, hcarries.append_left _, fun callback line => ?_⟩
      rw [Machine.run_cons, List.flatten_cons, handledMessages, List.filterMap_append,
        ScanItem.step, if_neg hsum]
      exact hmessages callback line

/-- **The parsers are safe and sound on every stream.** No store is out of bounds, the index of
the line buffer is at most 1021, and the messages handed over are those of frames that stand in
the stream one after the other. -/
theorem GnssMemory.processUartData_safe (nmeaCallback : Bool) (inputs : List (UInt64 × UInt8)) :
    ∃ m events, (initial nmeaCallback).processUartData inputs = some (m, events) ∧
      m.nmeaLinePos ≤ 1021 ∧
      ∃ fs, Carries fs (inputs.map Prod.snd) ∧
        handledMessages events = fs.map UbxFrame.toUbxMessage := by
  obtain ⟨m, hrun, hmodels⟩ := (models_initial nmeaCallback).processUartData
    (fun h => by cases h) inputs
  obtain ⟨items, e, hscan⟩ := Scan.exists (inputs.map Prod.snd)
  obtain ⟨fs, hcarries, hmessages⟩ := hscan.carries
  refine ⟨m, _, hrun, hmodels.pos_le, fs, hcarries, ?_⟩
  obtain ⟨-, -, -, hout⟩ := hscan.run (d := { Demux.initial with nmeaCallback }) rfl rfl
  rw [TempoBt.processUartData, hout]
  exact hmessages _ _

end TempoBt
