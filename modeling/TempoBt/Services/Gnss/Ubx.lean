-- SUMMARY: The UBX receive parser: one byte at a time, and what it makes of a well-formed frame.
import TempoBt.Lib.Bytes
import TempoBt.Lib.Machine
import Mathlib.Data.List.ReduceOption

/-!
# UBX parser

The receive side of the UBX protocol in `gnss_m10q.c`. A frame is the two sync
bytes, class, id, the payload length low byte first, the payload, and the two
bytes of a Fletcher checksum over everything between sync bytes and checksum.
-/

namespace TempoBt

def ubxSync1 : UInt8 := 0xB5
def ubxSync2 : UInt8 := 0x62
def ubxClassAck : UInt8 := 0x05
def ubxIdAckNak : UInt8 := 0x00
def ubxIdAckAck : UInt8 := 0x01

/-! ## Frames -/

/-- One step of the checksum. -/
def ubxChecksumStep (ck : UInt8 × UInt8) (byte : UInt8) : UInt8 × UInt8 :=
  (ck.1 + byte, ck.2 + (ck.1 + byte))

/-- The checksum over a byte string. -/
def ubxChecksum (data : Bytes) : UInt8 × UInt8 := data.foldl ubxChecksumStep (0, 0)

/-- What a frame carries. -/
structure UbxMessage where
  msgClass : UInt8
  msgId : UInt8
  payload : Bytes
  deriving DecidableEq

/-- A message whose payload length fits the length field. -/
structure UbxFrame extends UbxMessage where
  payload_lt : payload.length < 65536

/-- The part of the frame under the checksum, up to the payload. -/
def UbxFrame.header (f : UbxFrame) : Bytes :=
  [f.msgClass, f.msgId, UInt8.ofNat (f.payload.length % 256),
    UInt8.ofNat (f.payload.length / 256)]

def UbxFrame.bytes (f : UbxFrame) : Bytes :=
  let ck := ubxChecksum (f.header ++ f.payload)
  ubxSync1 :: ubxSync2 :: f.header ++ f.payload ++ [ck.1, ck.2]

/-! ## Parser -/

/-- `ubx_parse_state_t` -/
inductive UbxParseState where
  | syncSearch
  | sync2
  | msgClass
  | msgId
  | lenL
  | lenH
  | payload
  | ckA
  | ckB
  deriving DecidableEq

/-- `ubx_rx` -/
structure UbxRx where
  state : UbxParseState
  msgClass : UInt8
  msgId : UInt8
  length : UInt16
  payload : Vector UInt8 64
  payloadIdx : UInt16
  ckA : UInt8
  ckB : UInt8
  calcCkA : UInt8
  calcCkB : UInt8
  deriving DecidableEq

/-- The static `ubx_rx` at start. -/
def UbxRx.zero : UbxRx where
  state := .syncSearch
  msgClass := 0
  msgId := 0
  length := 0
  payload := Vector.replicate 64 0
  payloadIdx := 0
  ckA := 0
  ckB := 0
  calcCkA := 0
  calcCkB := 0

def ubxResetParser (rx : UbxRx) : UbxRx :=
  { rx with state := .syncSearch, payloadIdx := 0, length := 0, calcCkA := 0, calcCkB := 0 }

def ubxUpdateRxChecksum (byte : UInt8) (rx : UbxRx) : UbxRx :=
  { rx with calcCkA := rx.calcCkA + byte, calcCkB := rx.calcCkB + (rx.calcCkA + byte) }

/-- The message in the parser when `ubx_handle_message` is called. -/
def UbxRx.message (rx : UbxRx) : UbxMessage where
  msgClass := rx.msgClass
  msgId := rx.msgId
  payload := rx.payload.toList.take rx.length.toNat

/-- `ubx_process_byte`, with the message for which it calls `ubx_handle_message`. -/
def ubxProcessByte (rx : UbxRx) (byte : UInt8) : UbxRx × Option UbxMessage :=
  match rx.state with
  | .syncSearch => (if byte = ubxSync1 then { rx with state := .sync2 } else rx, none)
  | .sync2 =>
    if byte = ubxSync2 then ({ rx with state := .msgClass, calcCkA := 0, calcCkB := 0 }, none)
    else if byte = ubxSync1 then ({ rx with state := .sync2 }, none)
    else (ubxResetParser rx, none)
  | .msgClass => ({ ubxUpdateRxChecksum byte rx with msgClass := byte, state := .msgId }, none)
  | .msgId => ({ ubxUpdateRxChecksum byte rx with msgId := byte, state := .lenL }, none)
  | .lenL =>
    ({ ubxUpdateRxChecksum byte rx with length := byte.toUInt16, state := .lenH }, none)
  | .lenH =>
    let rx := { ubxUpdateRxChecksum byte rx with length := rx.length ||| (byte.toUInt16 <<< 8) }
    -- an oversized frame is given up; its payload will be searched for sync bytes
    if 64 < rx.length then (ubxResetParser rx, none)
    else if rx.length = 0 then ({ rx with state := .ckA }, none)
    else ({ rx with payloadIdx := 0, state := .payload }, none)
  | .payload =>
    let rx :=
      { ubxUpdateRxChecksum byte rx with
        payload := rx.payload.setIfInBounds rx.payloadIdx.toNat byte
        payloadIdx := rx.payloadIdx + 1 }
    (if rx.length ≤ rx.payloadIdx then { rx with state := .ckA } else rx, none)
  | .ckA => ({ rx with ckA := byte, state := .ckB }, none)
  | .ckB =>
    let rx := { rx with ckB := byte }
    (ubxResetParser rx,
      if rx.ckA = rx.calcCkA ∧ rx.ckB = rx.calcCkB then some rx.message else none)

/-- The parser takes the byte even though it may look like NMEA. -/
def UbxTakes (rx : UbxRx) (byte : UInt8) : Prop := rx.state ≠ .syncSearch ∨ byte = ubxSync1

instance (rx : UbxRx) (byte : UInt8) : Decidable (UbxTakes rx byte) :=
  inferInstanceAs (Decidable (_ ∨ _))

/-! ## A well-formed frame

The parser takes every byte of the frame, hands the message over at the last
one, and is idle again.
-/

/-- The two length bytes give back the length. -/
theorem length_bytes {n : Nat} (hn : n < 65536) :
    (UInt8.ofNat (n % 256)).toUInt16 ||| ((UInt8.ofNat (n / 256)).toUInt16 <<< 8) =
      UInt16.ofNat n := by
  have hlo : n % 256 < 2 ^ 8 := Nat.mod_lt n (by decide)
  have hshift : (n / 256) <<< 8 < 2 ^ 16 := by rw [Nat.shiftLeft_eq]; omega
  apply UInt16.toNat_inj.mp
  simp only [UInt16.toNat_or, UInt16.toNat_shiftLeft, UInt8.toNat_toUInt16, UInt8.toNat_ofNat',
    UInt16.toNat_ofNat']
  rw [Nat.mod_eq_of_lt (by omega), Nat.mod_eq_of_lt (a := n / 256) (by omega)]
  have h8 : UInt16.toNat 8 % 16 = 8 := rfl
  rw [h8, Nat.mod_eq_of_lt hshift, Nat.mod_eq_of_lt hn, Nat.or_comm,
    ← Nat.shiftLeft_add_eq_or_of_lt hlo, Nat.shiftLeft_eq]
  omega

/-- The parser is past the header of `f` and `done` of its payload. -/
structure UbxRx.Received (rx : UbxRx) (f : UbxFrame) (done : Bytes) : Prop where
  msgClass : rx.msgClass = f.msgClass
  msgId : rx.msgId = f.msgId
  length : rx.length = UInt16.ofNat f.payload.length
  payload : rx.payload.toList.take done.length = done
  checksum : (rx.calcCkA, rx.calcCkB) = ubxChecksum (f.header ++ done)

theorem ubxChecksum_append (as bs : Bytes) :
    ubxChecksum (as ++ bs) = bs.foldl ubxChecksumStep (ubxChecksum as) :=
  List.foldl_append

/-- The parser takes the sync bytes and the header. -/
theorem ubx_run_header {rx : UbxRx} (hstate : rx.state = .syncSearch) {f : UbxFrame}
    (hf : f.payload.length ≤ 64) :
    ∃ rx', Machine.run ubxProcessByte rx (ubxSync1 :: ubxSync2 :: f.header) =
        (rx', List.replicate 6 none) ∧
      Machine.Guarded ubxProcessByte UbxTakes rx (ubxSync1 :: ubxSync2 :: f.header) ∧
      rx'.Received f [] ∧
      if f.payload = [] then rx'.state = .ckA else rx'.state = .payload ∧ rx'.payloadIdx = 0 := by
  have hlen : (UInt8.ofNat (f.payload.length % 256)).toUInt16 |||
      ((UInt8.ofNat (f.payload.length / 256)).toUInt16 <<< 8) = UInt16.ofNat f.payload.length :=
    length_bytes f.payload_lt
  have hshort : ¬ (64 : UInt16) < UInt16.ofNat f.payload.length := by
    rw [UInt16.lt_iff_toNat_lt, UInt16.toNat_ofNat', Nat.mod_eq_of_lt (by omega)]
    simpa using hf
  have hzero : UInt16.ofNat f.payload.length = 0 ↔ f.payload = [] := by
    rw [← UInt16.toNat_inj, UInt16.toNat_ofNat', Nat.mod_eq_of_lt (by omega)]
    simp
  simp only [UbxFrame.header, Machine.run_cons, Machine.run_nil, Machine.Guarded,
    Machine.along_cons, Machine.along_nil, ubxProcessByte, hstate, UbxTakes, if_true,
    ubxUpdateRxChecksum, hlen, hshort, if_false, hzero]
  by_cases hnil : f.payload = []
  · simp only [if_pos hnil]
    refine ⟨_, rfl, by simp, ⟨rfl, rfl, rfl, rfl, ?_⟩, rfl⟩
    simp [UbxFrame.header, ubxChecksum, ubxChecksumStep, hnil]
  · simp only [if_neg hnil]
    refine ⟨_, rfl, by simp, ⟨rfl, rfl, rfl, rfl, ?_⟩, rfl, rfl⟩
    simp [UbxFrame.header, ubxChecksum, ubxChecksumStep]

/-- One payload byte, with more than it still to come or not. -/
theorem ubx_payload_byte {rx : UbxRx} {f : UbxFrame} {done rest : Bytes} {byte : UInt8}
    (hf : f.payload.length ≤ 64) (hpayload : f.payload = done ++ byte :: rest)
    (hr : rx.Received f done) (hstate : rx.state = .payload)
    (hidx : rx.payloadIdx.toNat = done.length) :
    ∃ rx', ubxProcessByte rx byte = (rx', none) ∧ rx'.Received f (done ++ [byte]) ∧
      rx'.payloadIdx.toNat = (done ++ [byte]).length ∧
      rx'.state = if rest = [] then .ckA else .payload := by
  have hlen : f.payload.length = done.length + rest.length + 1 := by
    rw [hpayload, List.length_append, List.length_cons]
    omega
  -- at most 64 bytes, so the 16-bit index does not wrap
  have hnext : (rx.payloadIdx + 1).toNat = done.length + 1 := by
    rw [UInt16.toNat_add, hidx]
    exact Nat.mod_eq_of_lt (by have := hlen; simp; omega)
  have hlast : rx.length ≤ rx.payloadIdx + 1 ↔ rest = [] := by
    rw [UInt16.le_iff_toNat_le, hnext, hr.length, UInt16.toNat_ofNat',
      Nat.mod_eq_of_lt (by omega), ← List.length_eq_zero_iff]
    omega
  have hstored : (rx.payload.setIfInBounds rx.payloadIdx.toNat byte).toList.take
      (done ++ [byte]).length = done ++ [byte] := by
    rw [Vector.toList_setIfInBounds, hidx, List.length_append, List.length_singleton,
      List.set_eq_take_append_cons_drop, if_pos (by simp; omega), hr.payload,
      List.take_length_add_append]
    rfl
  have hsum : ubxChecksum (f.header ++ (done ++ [byte])) =
      (rx.calcCkA + byte, rx.calcCkB + (rx.calcCkA + byte)) := by
    rw [← List.append_assoc, ubxChecksum_append, ← hr.checksum]
    rfl
  simp only [ubxProcessByte, hstate, ubxUpdateRxChecksum, hlast]
  by_cases hrest : rest = []
  · simp only [if_pos hrest]
    refine ⟨_, rfl, ⟨hr.msgClass, hr.msgId, hr.length, hstored, hsum.symm⟩, ?_, rfl⟩
    simpa using hnext
  · simp only [if_neg hrest]
    refine ⟨_, rfl, ⟨hr.msgClass, hr.msgId, hr.length, hstored, hsum.symm⟩, ?_, rfl⟩
    simpa using hnext

/-- The parser takes the payload, by induction on what is still to come. -/
theorem ubx_run_payload {rx : UbxRx} {f : UbxFrame} {done rest : Bytes} (hrest : rest ≠ [])
    (hf : f.payload.length ≤ 64) (hpayload : f.payload = done ++ rest)
    (hr : rx.Received f done) (hstate : rx.state = .payload)
    (hidx : rx.payloadIdx.toNat = done.length) :
    ∃ rx', Machine.run ubxProcessByte rx rest = (rx', List.replicate rest.length none) ∧
      Machine.Guarded ubxProcessByte UbxTakes rx rest ∧
      rx'.Received f f.payload ∧ rx'.state = .ckA := by
  induction rest generalizing rx done with
  | nil => exact absurd rfl hrest
  | cons byte rest ih =>
    obtain ⟨rx₁, hbyte, hr₁, hidx₁, hstate₁⟩ :=
      ubx_payload_byte hf hpayload hr hstate hidx
    have htakes : UbxTakes rx byte := .inl (by simp [hstate])
    rw [Machine.run_cons, hbyte]
    by_cases hnil : rest = []
    · subst hnil
      rw [← hpayload] at hr₁
      exact ⟨rx₁, rfl, ⟨htakes, trivial⟩, hr₁, hstate₁⟩
    · rw [if_neg hnil] at hstate₁
      obtain ⟨rx₂, hrun, hguard, hr₂, hstate₂⟩ :=
        ih hnil (by rw [hpayload, List.append_assoc]; rfl) hr₁ hstate₁ hidx₁
      refine ⟨rx₂, ?_, ⟨htakes, ?_⟩, hr₂, hstate₂⟩
      · simp only [hrun]
        rfl
      · rw [hbyte]
        exact hguard

/-- The parser takes a part of the payload and waits for the rest of it. -/
theorem ubx_run_payload_part {rx : UbxRx} {f : UbxFrame} {done part rest : Bytes}
    (hrest : rest ≠ []) (hf : f.payload.length ≤ 64) (hpayload : f.payload = done ++ part ++ rest)
    (hr : rx.Received f done) (hstate : rx.state = .payload)
    (hidx : rx.payloadIdx.toNat = done.length) :
    ∃ rx', Machine.run ubxProcessByte rx part = (rx', List.replicate part.length none) ∧
      Machine.Guarded ubxProcessByte UbxTakes rx part ∧ rx'.state = .payload := by
  induction part generalizing rx done with
  | nil => exact ⟨rx, rfl, trivial, hstate⟩
  | cons byte part ih =>
    have hnext : f.payload = done ++ byte :: (part ++ rest) := by
      rw [hpayload]
      simp
    obtain ⟨rx₁, hbyte, hr₁, hidx₁, hstate₁⟩ := ubx_payload_byte hf hnext hr hstate hidx
    rw [if_neg (by simp [hrest])] at hstate₁
    obtain ⟨rx₂, hrun, hguard, hstate₂⟩ := ih (by rw [hpayload]; simp) hr₁ hstate₁ hidx₁
    refine ⟨rx₂, ?_, ⟨.inl (by simp [hstate]), ?_⟩, hstate₂⟩
    · rw [Machine.run_cons, hbyte, hrun]
      rfl
    · rw [hbyte]
      exact hguard

/-- The parser takes everything up to the checksum. -/
theorem ubx_run_body {rx : UbxRx} (hstate : rx.state = .syncSearch) {f : UbxFrame}
    (hf : f.payload.length ≤ 64) :
    ∃ rx', Machine.run ubxProcessByte rx (ubxSync1 :: ubxSync2 :: f.header ++ f.payload) =
        (rx', List.replicate (6 + f.payload.length) none) ∧
      Machine.Guarded ubxProcessByte UbxTakes rx
        (ubxSync1 :: ubxSync2 :: f.header ++ f.payload) ∧
      rx'.Received f f.payload ∧ rx'.state = .ckA := by
  obtain ⟨rx₁, hrun₁, hguard₁, hr₁, hnext⟩ := ubx_run_header hstate hf
  -- an empty payload is skipped by the parser
  have hbody : ∃ rx₂, Machine.run ubxProcessByte rx₁ f.payload =
        (rx₂, List.replicate f.payload.length none) ∧
      Machine.Guarded ubxProcessByte UbxTakes rx₁ f.payload ∧
      rx₂.Received f f.payload ∧ rx₂.state = .ckA := by
    by_cases hnil : f.payload = []
    · rw [if_pos hnil] at hnext
      rw [hnil]
      exact ⟨rx₁, rfl, trivial, hr₁, hnext⟩
    · rw [if_neg hnil] at hnext
      exact ubx_run_payload hnil hf rfl hr₁ hnext.1 (by rw [hnext.2]; rfl)
  obtain ⟨rx₂, hrun₂, hguard₂, hr₂, hstate₂⟩ := hbody
  refine ⟨rx₂, ?_, ?_, hr₂, hstate₂⟩
  · rw [Machine.run_append, hrun₁, hrun₂, List.replicate_append_replicate]
  · rw [Machine.guarded_append, hrun₁]
    exact ⟨hguard₁, hguard₂⟩

/-- The parser compares the checksum bytes, hands the message over if they are right, and is
idle. -/
theorem ubx_run_checksum {rx : UbxRx} {f : UbxFrame} (hr : rx.Received f f.payload)
    (hstate : rx.state = .ckA) (ckA ckB : UInt8) :
    ∃ rx', Machine.run ubxProcessByte rx [ckA, ckB] =
        (rx', [none, if (ckA, ckB) = ubxChecksum (f.header ++ f.payload) then
          some f.toUbxMessage else none]) ∧
      Machine.Guarded ubxProcessByte UbxTakes rx [ckA, ckB] ∧ rx'.state = .syncSearch := by
  have hmessage : rx.message = f.toUbxMessage := by
    have hlength : rx.length.toNat = f.payload.length := by
      rw [hr.length, UInt16.toNat_ofNat', Nat.mod_eq_of_lt f.payload_lt]
    rw [UbxRx.message, hlength, hr.payload, hr.msgClass, hr.msgId]
  have hmessage' (a : UInt8) (b : UInt8) (st : UbxParseState) :
      ({ rx with ckA := a, ckB := b, state := st } : UbxRx).message = f.toUbxMessage := hmessage
  rw [← hr.checksum]
  refine ⟨ubxResetParser { rx with state := .ckB, ckA := ckA, ckB := ckB }, ?_, ?_, rfl⟩
  · simp only [Machine.run_cons, Machine.run_nil, ubxProcessByte, hstate, hmessage', Prod.mk.injEq]
  · simp [Machine.Guarded, ubxProcessByte, hstate, UbxTakes]

/-- The idle parser takes every byte of a frame with a payload it can hold and is idle again.
It hands over the message if the checksum is right. -/
theorem ubx_run_framed {rx : UbxRx} (hstate : rx.state = .syncSearch) {f : UbxFrame}
    (hf : f.payload.length ≤ 64) (ckA ckB : UInt8) :
    (Machine.run ubxProcessByte rx
        (ubxSync1 :: ubxSync2 :: f.header ++ f.payload ++ [ckA, ckB])).1.state = .syncSearch ∧
      (Machine.run ubxProcessByte rx
        (ubxSync1 :: ubxSync2 :: f.header ++ f.payload ++ [ckA, ckB])).2.reduceOption =
          (if (ckA, ckB) = ubxChecksum (f.header ++ f.payload) then [f.toUbxMessage] else []) ∧
      Machine.Guarded ubxProcessByte UbxTakes rx
        (ubxSync1 :: ubxSync2 :: f.header ++ f.payload ++ [ckA, ckB]) := by
  obtain ⟨rx₂, hrun₂, hguard₂, hr₂, hstate₂⟩ := ubx_run_body hstate hf
  obtain ⟨rx₃, hrun₃, hguard₃, hstate₃⟩ := ubx_run_checksum hr₂ hstate₂ ckA ckB
  rw [Machine.run_append, hrun₂, hrun₃, Machine.guarded_append, hrun₂]
  refine ⟨hstate₃, ?_, hguard₂, hguard₃⟩
  split <;> simp [List.reduceOption_append]

/-- **A frame is one message.** The idle parser takes every byte of a frame with a
payload it can hold, hands over exactly its message, and is idle again. -/
theorem ubx_run_frame {rx : UbxRx} (hstate : rx.state = .syncSearch) {f : UbxFrame}
    (hf : f.payload.length ≤ 64) :
    (Machine.run ubxProcessByte rx f.bytes).1.state = .syncSearch ∧
      (Machine.run ubxProcessByte rx f.bytes).2.reduceOption = [f.toUbxMessage] ∧
      Machine.Guarded ubxProcessByte UbxTakes rx f.bytes := by
  obtain ⟨hidle, hmessages, htakes⟩ := ubx_run_framed hstate hf
    (ubxChecksum (f.header ++ f.payload)).1 (ubxChecksum (f.header ++ f.payload)).2
  rw [if_pos rfl] at hmessages
  exact ⟨hidle, hmessages, htakes⟩

/-! ## Other beginnings of a frame -/

/-- The two length bytes as a number. -/
theorem toNat_length_bytes (lenL lenH : UInt8) :
    (lenL.toUInt16 ||| (lenH.toUInt16 <<< 8)).toNat = lenL.toNat + 256 * lenH.toNat := by
  have hL := lenL.toNat_lt
  have hH := lenH.toNat_lt
  have hbytes := length_bytes (n := lenL.toNat + 256 * lenH.toNat) (by omega)
  have hlow : (lenL.toNat + 256 * lenH.toNat) % 256 = lenL.toNat := by omega
  have hhigh : (lenL.toNat + 256 * lenH.toNat) / 256 = lenH.toNat := by omega
  rw [hlow, hhigh, UInt8.ofNat_toNat, UInt8.ofNat_toNat] at hbytes
  rw [hbytes, UInt16.toNat_ofNat', Nat.mod_eq_of_lt (by omega)]

/-- The header of a frame whose payload has the length that two bytes say. -/
theorem UbxFrame.header_eq {f : UbxFrame} {lenL lenH : UInt8}
    (h : f.payload.length = lenL.toNat + 256 * lenH.toNat) :
    f.header = [f.msgClass, f.msgId, lenL, lenH] := by
  have hL := lenL.toNat_lt
  have hlow : f.payload.length % 256 = lenL.toNat := by omega
  have hhigh : f.payload.length / 256 = lenH.toNat := by omega
  rw [UbxFrame.header, hlow, hhigh, UInt8.ofNat_toNat, UInt8.ofNat_toNat]

/-- An oversized frame is given up at the end of its header. -/
theorem ubx_run_oversized {rx : UbxRx} (hstate : rx.state = .syncSearch)
    {msgClass msgId lenL lenH : UInt8} (hlong : 64 < lenL.toNat + 256 * lenH.toNat) :
    (Machine.run ubxProcessByte rx
        [ubxSync1, ubxSync2, msgClass, msgId, lenL, lenH]).1.state = .syncSearch ∧
      (Machine.run ubxProcessByte rx
        [ubxSync1, ubxSync2, msgClass, msgId, lenL, lenH]).2.reduceOption = [] ∧
      Machine.Guarded ubxProcessByte UbxTakes rx
        [ubxSync1, ubxSync2, msgClass, msgId, lenL, lenH] := by
  have hlength : (64 : UInt16) < lenL.toUInt16 ||| (lenH.toUInt16 <<< 8) := by
    rw [UInt16.lt_iff_toNat_lt, toNat_length_bytes]
    exact hlong
  simp only [Machine.run_cons, Machine.run_nil, Machine.Guarded, Machine.along_cons,
    Machine.along_nil, ubxProcessByte, hstate, UbxTakes, if_true, ubxUpdateRxChecksum, hlength]
  exact ⟨rfl, rfl, by simp⟩

/-- What may stand behind the sync bytes of a frame that is not at its end yet. -/
def Unfinished : Bytes → Prop
  | _ :: _ :: lenL :: lenH :: rest =>
    lenL.toNat + 256 * lenH.toNat ≤ 64 ∧ rest.length < lenL.toNat + 256 * lenH.toNat + 2
  | _ => True

/-- A sync byte before another byte is dropped with it. -/
theorem ubx_run_falseSync {rx : UbxRx} (hstate : rx.state = .syncSearch) {byte : UInt8}
    (hbyte : byte ≠ ubxSync1) (hbyte' : byte ≠ ubxSync2) :
    (Machine.run ubxProcessByte rx [ubxSync1, byte]).1.state = .syncSearch ∧
      (Machine.run ubxProcessByte rx [ubxSync1, byte]).2.reduceOption = [] ∧
      Machine.Guarded ubxProcessByte UbxTakes rx [ubxSync1, byte] := by
  simp [Machine.run_cons, Machine.Guarded, ubxProcessByte, hstate, UbxTakes, hbyte, hbyte',
    ubxResetParser]

section Unfinished

variable {rx : UbxRx} {msgClass msgId lenL lenH : UInt8} {rest : Bytes}

/-- Up to a byte of its payload a frame keeps the parser inside it. -/
theorem ubx_run_unfinished_payload (hstate : rx.state = .syncSearch)
    (hfit : lenL.toNat + 256 * lenH.toNat ≤ 64)
    (hpayload : rest.length < lenL.toNat + 256 * lenH.toNat) :
    (Machine.run ubxProcessByte rx
        (ubxSync1 :: ubxSync2 :: msgClass :: msgId :: lenL :: lenH :: rest)).1.state ∉
          [.syncSearch, .sync2] ∧
      (Machine.run ubxProcessByte rx
        (ubxSync1 :: ubxSync2 :: msgClass :: msgId :: lenL :: lenH :: rest)).2.reduceOption = [] ∧
      Machine.Guarded ubxProcessByte UbxTakes rx
        (ubxSync1 :: ubxSync2 :: msgClass :: msgId :: lenL :: lenH :: rest) := by
  -- a frame of which this is the beginning
  let f : UbxFrame :=
    { msgClass, msgId
      payload := rest ++ List.replicate (lenL.toNat + 256 * lenH.toNat - rest.length) 0
      payload_lt := by rw [List.length_append, List.length_replicate]; omega }
  have hlength : f.payload.length = lenL.toNat + 256 * lenH.toNat := by
    rw [List.length_append, List.length_replicate]
    omega
  have hmore : List.replicate (lenL.toNat + 256 * lenH.toNat - rest.length) (0 : UInt8) ≠ [] := by
    rw [Ne, List.replicate_eq_nil_iff]
    omega
  obtain ⟨rx₁, hrun₁, hguard₁, hr₁, hnext⟩ := ubx_run_header hstate (f := f) (by omega)
  rw [if_neg (by simp [f, hmore])] at hnext
  have hpart : f.payload = [] ++ rest ++
      List.replicate (lenL.toNat + 256 * lenH.toNat - rest.length) 0 := rfl
  obtain ⟨rx₂, hrun₂, hguard₂, hstate₂⟩ :=
    ubx_run_payload_part hmore (by omega) hpart hr₁ hnext.1 (by rw [hnext.2]; rfl)
  have hbytes : ubxSync1 :: ubxSync2 :: msgClass :: msgId :: lenL :: lenH :: rest =
      (ubxSync1 :: ubxSync2 :: f.header) ++ rest := by
    rw [f.header_eq hlength]
    rfl
  rw [hbytes, Machine.run_append, Machine.guarded_append, hrun₁, hrun₂]
  exact ⟨by simp [hstate₂], by simp, hguard₁, hguard₂⟩

/-- So does a frame whose second checksum byte is missing. -/
theorem ubx_run_unfinished_checksum (hstate : rx.state = .syncSearch)
    (hfit : lenL.toNat + 256 * lenH.toNat ≤ 64)
    (hwhole : lenL.toNat + 256 * lenH.toNat ≤ rest.length)
    (hshort : rest.length < lenL.toNat + 256 * lenH.toNat + 2) :
    (Machine.run ubxProcessByte rx
        (ubxSync1 :: ubxSync2 :: msgClass :: msgId :: lenL :: lenH :: rest)).1.state ∉
          [.syncSearch, .sync2] ∧
      (Machine.run ubxProcessByte rx
        (ubxSync1 :: ubxSync2 :: msgClass :: msgId :: lenL :: lenH :: rest)).2.reduceOption = [] ∧
      Machine.Guarded ubxProcessByte UbxTakes rx
        (ubxSync1 :: ubxSync2 :: msgClass :: msgId :: lenL :: lenH :: rest) := by
  let f : UbxFrame :=
    { msgClass, msgId
      payload := rest.take (lenL.toNat + 256 * lenH.toNat)
      payload_lt := by rw [List.length_take]; omega }
  have hlength : f.payload.length = lenL.toNat + 256 * lenH.toNat := by
    rw [List.length_take]
    omega
  obtain ⟨rx₁, hrun₁, hguard₁, -, hstate₁⟩ := ubx_run_body hstate (f := f) (by omega)
  have hbytes : ubxSync1 :: ubxSync2 :: msgClass :: msgId :: lenL :: lenH :: rest =
      (ubxSync1 :: ubxSync2 :: f.header ++ f.payload) ++
        rest.drop (lenL.toNat + 256 * lenH.toNat) := by
    rw [f.header_eq hlength, List.append_assoc, List.take_append_drop]
    rfl
  rw [hbytes, Machine.run_append, Machine.guarded_append, hrun₁]
  -- at most the first checksum byte is there
  have htail : (rest.drop (lenL.toNat + 256 * lenH.toNat)).length ≤ 1 := by
    rw [List.length_drop]
    omega
  rcases htail' : rest.drop (lenL.toNat + 256 * lenH.toNat) with - | ⟨ckA, - | ⟨ckB, more⟩⟩
  · exact ⟨by simp [hstate₁], by simp, hguard₁, trivial⟩
  · refine ⟨?_, ?_, hguard₁, .inl (by simp [hstate₁]), trivial⟩
    · simp [ubxProcessByte, hstate₁]
    · simp [Machine.run_cons, ubxProcessByte, hstate₁, List.reduceOption_append]
  · rw [htail'] at htail
    simp at htail

end Unfinished

/-- In an unfinished frame the parser is past the sync bytes. -/
theorem ubx_run_unfinished {rx : UbxRx} (hstate : rx.state = .syncSearch) {part : Bytes}
    (hpart : Unfinished part) :
    (Machine.run ubxProcessByte rx (ubxSync1 :: ubxSync2 :: part)).1.state ∉
        [.syncSearch, .sync2] ∧
      (Machine.run ubxProcessByte rx (ubxSync1 :: ubxSync2 :: part)).2.reduceOption = [] ∧
      Machine.Guarded ubxProcessByte UbxTakes rx (ubxSync1 :: ubxSync2 :: part) := by
  rcases part with - | ⟨msgClass, - | ⟨msgId, - | ⟨lenL, - | ⟨lenH, rest⟩⟩⟩⟩
  iterate 4
    simp [Machine.run_cons, Machine.Guarded, ubxProcessByte, hstate, UbxTakes, ubxUpdateRxChecksum]
  obtain ⟨hfit, hshort⟩ := hpart
  rcases Nat.lt_or_ge rest.length (lenL.toNat + 256 * lenH.toNat) with hpayload | hwhole
  · exact ubx_run_unfinished_payload hstate hfit hpayload
  · exact ubx_run_unfinished_checksum hstate hfit hwhole hshort

end TempoBt
