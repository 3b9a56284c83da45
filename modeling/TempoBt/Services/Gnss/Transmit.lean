-- SUMMARY: The UBX frames that the GNSS service sends, and which of them the UBX parser accepts.
import TempoBt.Services.Gnss.Ubx

/-!
# UBX frames to the module

Each place that sends a frame writes its header, length and checksum itself. A frame is
right when the parser of this service would accept it as one message.
-/

namespace TempoBt

def ubxClassCfg : UInt8 := 0x06
def ubxIdCfgNav5 : UInt8 := 0x24

/-! ## Encoders -/

/-- `buffer` of `ubx_send_with_ack`. -/
def ubxSendWithAckBuffer (msgClass msgId : UInt8) (payload : Bytes) : Bytes :=
  let buffer : Bytes :=
    [ubxSync1, ubxSync2, msgClass, msgId, UInt8.ofNat (payload.length &&& 0xFF),
      UInt8.ofNat ((payload.length >>> 8) &&& 0xFF)] ++ payload
  let ck := ubxChecksum (buffer.drop 2)
  buffer ++ [ck.1, ck.2]

/-- `ubx_cfg_rate` of `gnss_set_rate`. -/
def ubxCfgRate (periodMs : UInt16) : Bytes :=
  let message : Bytes :=
    [0xB5, 0x62, 0x06, 0x08, 0x06, 0x00,
      (periodMs &&& 0xFF).toUInt8, ((periodMs >>> 8) &&& 0xFF).toUInt8, 0x01, 0x00, 0x01, 0x00]
  let ck := ubxChecksum (message.drop 2)
  message ++ [ck.1, ck.2]

/-- `msg` of `send_ubx_baudrate_config`. -/
def sendUbxBaudrateConfigMsg (baudrate : UInt32) : Bytes :=
  let msg : Bytes :=
    [0xB5, 0x62, 0x06, 0x8A, 0x0C, 0x00, 0x00, 0x01, 0x00, 0x00, 0x01, 0x00, 0x52, 0x40,
      ((baudrate >>> 0) &&& 0xFF).toUInt8, ((baudrate >>> 8) &&& 0xFF).toUInt8,
      ((baudrate >>> 16) &&& 0xFF).toUInt8, ((baudrate >>> 24) &&& 0xFF).toUInt8]
  let ck := ubxChecksum (msg.drop 2)
  msg ++ [ck.1, ck.2]

/-- The poll of `gnss_get_nav5_config`, its checksum included. -/
def nav5Poll : Bytes := [ubxSync1, ubxSync2, ubxClassCfg, ubxIdCfgNav5, 0x00, 0x00, 0x48, 0x5A]

/-- `cmds` of `gnss_early_quiet`, their checksums included. -/
def quietCmds : Vector Bytes 6 := #v[
  [0xB5, 0x62, 0x06, 0x01, 0x08, 0x00, 0xF0, 0x00, 0x00, 0x00, 0x00, 0x00, 0x00, 0x00, 0xFF, 0x23],
  [0xB5, 0x62, 0x06, 0x01, 0x08, 0x00, 0xF0, 0x01, 0x00, 0x00, 0x00, 0x00, 0x00, 0x00, 0x00, 0x2A],
  [0xB5, 0x62, 0x06, 0x01, 0x08, 0x00, 0xF0, 0x02, 0x00, 0x00, 0x00, 0x00, 0x00, 0x00, 0x01, 0x31],
  [0xB5, 0x62, 0x06, 0x01, 0x08, 0x00, 0xF0, 0x03, 0x00, 0x00, 0x00, 0x00, 0x00, 0x00, 0x02, 0x38],
  [0xB5, 0x62, 0x06, 0x01, 0x08, 0x00, 0xF0, 0x04, 0x00, 0x00, 0x00, 0x00, 0x00, 0x00, 0x03, 0x3F],
  [0xB5, 0x62, 0x06, 0x01, 0x08, 0x00, 0xF0, 0x05, 0x00, 0x00, 0x00, 0x00, 0x00, 0x00, 0x04, 0x46]]

/-! ## Transmissions -/

/-- A frame that the service sends. Its own parser takes payloads of at most 64 bytes, and of
`ubx_send_with_ack` only those are here; `gnss_enable_timepulse` gives it 66. -/
inductive UbxTransmission where
  | sendWithAck (msgClass msgId : UInt8) (payload : Bytes) (fits : payload.length ≤ 64)
  | setRate (periodMs : UInt16)
  | baudrateConfig (baudrate : UInt32)
  | nav5Poll
  | quiet (cmd : Fin 6)
  deriving DecidableEq

namespace UbxTransmission

def bytes : UbxTransmission → Bytes
  | sendWithAck msgClass msgId payload _ => ubxSendWithAckBuffer msgClass msgId payload
  | setRate periodMs => ubxCfgRate periodMs
  | baudrateConfig baudrate => sendUbxBaudrateConfigMsg baudrate
  | nav5Poll => TempoBt.nav5Poll
  | quiet cmd => quietCmds[cmd]

/-- What the frame is to say. -/
def message : UbxTransmission → UbxMessage
  | sendWithAck msgClass msgId payload _ => { msgClass, msgId, payload }
  | setRate periodMs =>
    { msgClass := 0x06, msgId := 0x08
      payload := [periodMs.toUInt8, (periodMs >>> 8).toUInt8, 1, 0, 1, 0] }
  | baudrateConfig baudrate =>
    { msgClass := 0x06, msgId := 0x8A
      payload := [0, 1, 0, 0, 0x01, 0x00, 0x52, 0x40, baudrate.toUInt8, (baudrate >>> 8).toUInt8,
        (baudrate >>> 16).toUInt8, (baudrate >>> 24).toUInt8] }
  | nav5Poll => { msgClass := ubxClassCfg, msgId := ubxIdCfgNav5, payload := [] }
  | quiet cmd =>
    { msgClass := 0x06, msgId := 0x01, payload := [0xF0, UInt8.ofNat cmd, 0, 0, 0, 0, 0, 0] }

/-- The idle parser accepts the frame as exactly its message. -/
def WellFormed (t : UbxTransmission) : Prop :=
  ∀ rx : UbxRx, rx.state = .syncSearch →
    (Machine.run ubxProcessByte rx t.bytes).2.reduceOption = [t.message]

/-! ## Which are well formed -/

theorem length_message (t : UbxTransmission) : t.message.payload.length ≤ 64 := by
  cases t with
  | sendWithAck _ _ _ fits => exact fits
  | setRate | baudrateConfig | nav5Poll | quiet => exact Nat.le_of_ble_eq_true rfl

/-- The frame of the message. -/
def frame (t : UbxTransmission) : UbxFrame where
  toUbxMessage := t.message
  payload_lt := Nat.lt_of_le_of_lt t.length_message (by decide)

/-- A frame with the right header and payload is accepted exactly when its checksum is
right. -/
theorem wellFormed_iff {t : UbxTransmission} {ckA ckB : UInt8}
    (h : t.bytes = ubxSync1 :: ubxSync2 :: t.frame.header ++ t.frame.payload ++ [ckA, ckB]) :
    t.WellFormed ↔ (ckA, ckB) = ubxChecksum (t.frame.header ++ t.frame.payload) := by
  have hrun (rx : UbxRx) (hidle : rx.state = .syncSearch) :=
    (ubx_run_framed hidle (f := t.frame) t.length_message ckA ckB).2.1
  rw [← h] at hrun
  constructor
  · intro hwell
    by_contra hck
    have hnone := hrun .zero rfl
    rw [if_neg hck, hwell .zero rfl] at hnone
    exact List.cons_ne_nil _ _ hnone
  · intro hck rx hidle
    rw [hrun rx hidle, if_pos hck]
    rfl

/-- A transmission that is the frame of its message is accepted. -/
theorem WellFormed.of_bytes {t : UbxTransmission} (h : t.bytes = t.frame.bytes) :
    t.WellFormed :=
  (wellFormed_iff h).mpr rfl

theorem bytes_sendWithAck (msgClass msgId : UInt8) (payload : Bytes)
    (fits : payload.length ≤ 64) :
    (sendWithAck msgClass msgId payload fits).bytes =
      (sendWithAck msgClass msgId payload fits).frame.bytes := by
  have hlow : payload.length &&& 0xFF = payload.length % 256 :=
    Nat.and_two_pow_sub_one_eq_mod payload.length 8
  have hhigh : (payload.length >>> 8) &&& 0xFF = payload.length / 256 := by
    rw [Nat.shiftRight_eq_div_pow]
    exact (Nat.and_two_pow_sub_one_eq_mod (payload.length / 2 ^ 8) 8).trans
      (Nat.mod_eq_of_lt (by omega))
  simp only [bytes, ubxSendWithAckBuffer, hlow, hhigh]
  rfl

/-- The mask that the encoders put on a byte changes nothing. -/
theorem toUInt8_and_mask16 (n : UInt16) : (n &&& 0xFF).toUInt8 = n.toUInt8 := by
  rw [UInt16.toUInt8_and]
  exact UInt8.and_neg_one

theorem toUInt8_and_mask32 (n : UInt32) : (n &&& 0xFF).toUInt8 = n.toUInt8 := by
  rw [UInt32.toUInt8_and]
  exact UInt8.and_neg_one

theorem bytes_setRate (periodMs : UInt16) :
    (setRate periodMs).bytes = (setRate periodMs).frame.bytes := by
  have hheader : (setRate periodMs).frame.header = [0x06, 0x08, 0x06, 0x00] :=
    UbxFrame.header_eq rfl
  simp only [bytes, ubxCfgRate, toUInt8_and_mask16, UbxFrame.bytes, hheader]
  rfl

theorem bytes_baudrateConfig (baudrate : UInt32) :
    (baudrateConfig baudrate).bytes = (baudrateConfig baudrate).frame.bytes := by
  have hheader : (baudrateConfig baudrate).frame.header = [0x06, 0x8A, 0x0C, 0x00] :=
    UbxFrame.header_eq rfl
  simp only [bytes, sendUbxBaudrateConfigMsg, toUInt8_and_mask32, UInt32.shiftRight_zero,
    UbxFrame.bytes, hheader]
  rfl

/-- The checksum of the poll is not the one written down for it. -/
theorem not_wellFormed_nav5Poll : ¬ nav5Poll.WellFormed := by
  have hbytes : nav5Poll.bytes = ubxSync1 :: ubxSync2 :: nav5Poll.frame.header ++
      nav5Poll.frame.payload ++ [0x48, 0x5A] := rfl
  rw [wellFormed_iff hbytes]
  decide

end UbxTransmission

/-- Every frame is right but the poll. -/
theorem ubxTransmission_wellFormed_iff (t : UbxTransmission) :
    t.WellFormed ↔ t ≠ .nav5Poll := by
  constructor
  · rintro h rfl
    exact UbxTransmission.not_wellFormed_nav5Poll h
  · intro h
    apply UbxTransmission.WellFormed.of_bytes
    cases t with
    | sendWithAck msgClass msgId payload fits =>
      exact UbxTransmission.bytes_sendWithAck msgClass msgId payload fits
    | setRate periodMs => exact UbxTransmission.bytes_setRate periodMs
    | baudrateConfig baudrate => exact UbxTransmission.bytes_baudrateConfig baudrate
    | nav5Poll => exact absurd rfl h
    | quiet cmd =>
      revert cmd
      decide

theorem not_ubxTransmission_wellFormed : ¬ ∀ t : UbxTransmission, t.WellFormed :=
  fun h => by
    have hpoll := h .nav5Poll .zero rfl
    exact absurd hpoll (by decide)

end TempoBt
