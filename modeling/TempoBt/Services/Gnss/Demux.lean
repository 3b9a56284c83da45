-- SUMMARY: The GNSS byte demultiplexer: NMEA lines and UBX frames from one stream, and what it delivers for a stream of well-formed messages.
import TempoBt.Services.Gnss.Ubx
import TempoBt.Util.NmeaChecksum

/-!
# GNSS demultiplexer

`process_uart_data` routes each byte of the receive ring to the UBX parser or to
the NMEA line buffer. Its effects are the calls it makes, in order: for a valid
line `process_nmea_sentence` and the NMEA callback, for a valid frame
`ubx_handle_message`. The clock is read at the `$` of a sentence, so every byte
comes with the clock value at which it is processed.
-/

namespace TempoBt

open Bytes

/-! ## State -/

/-- `GNSS_UART_BUFFER_SIZE` -/
def gnssUartBufferSize : Nat := 1024

/-- The first `nmea_line_pos` bytes of `nmea_line_buf`. Room for CR, LF and NUL is
always left. -/
structure NmeaLine where
  chars : Bytes
  fits : chars.length ≤ gnssUartBufferSize - 3

def NmeaLine.empty : NmeaLine := ⟨[], Nat.zero_le _⟩

def NmeaLine.start : NmeaLine := ⟨[dollar], by decide⟩

/-- Append a byte; a line that is too long is discarded. -/
def NmeaLine.push (line : NmeaLine) (byte : UInt8) : NmeaLine :=
  if h : line.chars.length < gnssUartBufferSize - 3 then
    ⟨line.chars ++ [byte], by rw [List.length_append]; exact h⟩
  else .empty

/-- `ubx_ack_state`; the semaphore has limit 1. -/
structure UbxAckState where
  sem : Bool
  ackReceived : Bool
  nakReceived : Bool
  waitingClass : UInt8
  waitingId : UInt8
  deriving DecidableEq

/-- The state of the receive path. -/
structure Demux where
  rx : UbxRx
  ack : UbxAckState
  line : NmeaLine
  /-- `nmea_arrival_time_us` -/
  arrivalUs : UInt64
  /-- Whether an NMEA callback is registered. -/
  nmeaCallback : Bool

/-- A call the demultiplexer makes. -/
inductive GnssEvent where
  /-- `process_nmea_sentence`, with the line. -/
  | sentence (line : Bytes)
  /-- The NMEA callback, with the bytes it is given. -/
  | callback (bytes : Bytes)
  /-- `ubx_handle_message`, with the message in the parser. -/
  | ubx (message : UbxMessage)
  deriving DecidableEq

/-! ## Processing -/

/-- Whether an ACK or NAK is about the awaited class and id. -/
def UbxAckState.awaits (ack : UbxAckState) (m : UbxMessage) : Bool :=
  match m.payload with
  | ackClass :: ackId :: _ => ackClass = ack.waitingClass && ackId = ack.waitingId
  | _ => false

def ubxHandleMessage (m : UbxMessage) (ack : UbxAckState) : UbxAckState :=
  if m.msgClass = ubxClassAck then
    if m.msgId = ubxIdAckAck then
      if ack.awaits m then { ack with ackReceived := true, sem := true } else ack
    else if m.msgId = ubxIdAckNak then
      if ack.awaits m then { ack with nakReceived := true, sem := true } else ack
    else ack
  else ack

/-- A byte for the UBX parser. -/
def demuxUbx (byte : UInt8) (d : Demux) : Demux × List GnssEvent :=
  match ubxProcessByte d.rx byte with
  | (rx, none) => ({ d with rx }, [])
  | (rx, some m) => ({ d with rx, ack := ubxHandleMessage m d.ack }, [.ubx m])

/-- A line terminator. -/
def demuxLineEnd (d : Demux) : Demux × List GnssEvent :=
  if d.line.chars.length = 0 then (d, [])
  else
    ({ d with line := .empty },
      if validateNmeaChecksum d.line.chars then
        -- CR and LF are put back for the callback
        .sentence d.line.chars ::
          if d.nmeaCallback then [.callback (d.line.chars ++ [cr, lf])] else []
      else [])

/-- The body of the loop of `process_uart_data`, for one byte and the clock. -/
def processUartByte (d : Demux) (input : UInt64 × UInt8) : Demux × List GnssEvent :=
  let byte := input.2
  if d.rx.state ≠ .syncSearch then demuxUbx byte d
  -- a sync byte leaves the line buffer as it is
  else if byte = ubxSync1 then demuxUbx byte d
  else if byte = dollar then ({ d with arrivalUs := input.1, line := .start }, [])
  else if byte = cr ∨ byte = lf then demuxLineEnd d
  else if 0 < d.line.chars.length then ({ d with line := d.line.push byte }, [])
  else (d, [])

/-! What one byte can do. -/

theorem demuxUbx_eq (byte : UInt8) (d : Demux) :
    ∃ ack, demuxUbx byte d =
      ({ d with rx := (ubxProcessByte d.rx byte).1, ack },
        (ubxProcessByte d.rx byte).2.toList.map .ubx) := by
  unfold demuxUbx
  rcases ubxProcessByte d.rx byte with ⟨rx, - | m⟩
  · exact ⟨d.ack, rfl⟩
  · exact ⟨ubxHandleMessage m d.ack, rfl⟩

theorem demuxLineEnd_cases (d : Demux) :
    demuxLineEnd d = (d, []) ∨
      ∃ events, demuxLineEnd d = ({ d with line := .empty }, events) ∧
        ∀ bytes, .callback bytes ∈ events →
          validateNmeaChecksum d.line.chars = true ∧ bytes = d.line.chars ++ [cr, lf] := by
  unfold demuxLineEnd
  split
  · exact .inl rfl
  · refine .inr ⟨_, rfl, fun bytes hbytes => ?_⟩
    split at hbytes
    · rename_i hvalid
      refine ⟨hvalid, ?_⟩
      split at hbytes
      · simpa using hbytes
      · simp at hbytes
    · cases hbytes

/-- A byte goes to the UBX parser, begins a sentence, ends a line, or belongs to one. -/
theorem processUartByte_cases (d : Demux) (input : UInt64 × UInt8) :
    (d.rx.state ≠ .syncSearch ∨ input.2 = ubxSync1) ∧
        processUartByte d input = demuxUbx input.2 d ∨
    d.rx.state = .syncSearch ∧ input.2 = dollar ∧
        processUartByte d input = ({ d with arrivalUs := input.1, line := .start }, []) ∨
    d.rx.state = .syncSearch ∧ (input.2 = cr ∨ input.2 = lf) ∧
        processUartByte d input = demuxLineEnd d ∨
    d.rx.state = .syncSearch ∧ ¬ (input.2 = cr ∨ input.2 = lf) ∧
        ∃ line, (line = d.line ∨ line = d.line.push input.2) ∧
          processUartByte d input = ({ d with line }, []) := by
  unfold processUartByte
  simp only
  by_cases hidle : d.rx.state = .syncSearch
  · rw [if_neg (not_not.mpr hidle)]
    split
    · rename_i hsync
      exact .inl ⟨.inr hsync, rfl⟩
    · split
      · rename_i hdollar
        exact .inr (.inl ⟨hidle, hdollar, rfl⟩)
      · split
        · rename_i hend
          exact .inr (.inr (.inl ⟨hidle, hend, rfl⟩))
        · rename_i hend
          refine .inr (.inr (.inr ⟨hidle, hend, ?_⟩))
          split
          · exact ⟨_, .inr rfl, rfl⟩
          · exact ⟨_, .inl rfl, rfl⟩
  · rw [if_pos hidle]
    exact .inl ⟨.inl hidle, rfl⟩

/-- `process_uart_data`, for the bytes it finds in the ring. -/
def processUartData (d : Demux) (chunk : List (UInt64 × UInt8)) : Demux × List GnssEvent :=
  ((Machine.run processUartByte d chunk).1, (Machine.run processUartByte d chunk).2.flatten)

/-- The division of the stream into chunks does not matter. -/
theorem run_processUartData (d : Demux) (chunks : List (List (UInt64 × UInt8))) :
    (Machine.run processUartData d chunks).1 = (Machine.run processUartByte d chunks.flatten).1 ∧
      (Machine.run processUartData d chunks).2.flatten =
        (Machine.run processUartByte d chunks.flatten).2.flatten := by
  induction chunks generalizing d with
  | nil => exact ⟨rfl, rfl⟩
  | cons chunk chunks ih =>
    obtain ⟨hstate, hout⟩ := ih (processUartData d chunk).1
    simp only [Machine.run_cons, List.flatten_cons, Machine.run_append, List.flatten_append]
    exact ⟨hstate, by rw [hout]; rfl⟩

/-! ## Well-formed messages -/

/-- An NMEA sentence with the right checksum, of a length the line buffer holds. -/
structure NmeaSentence where
  body : Bytes
  hi : UInt8
  lo : UInt8
  plain : ∀ b ∈ body, b ∉ [dollar, star, cr, lf, 0, ubxSync1]
  checksum : IsHex hi lo (xorSum body)
  long : 8 ≤ body.length + 4
  short : body.length + 4 ≤ 1021

/-- The sentence without its line end. -/
def NmeaSentence.text (s : NmeaSentence) : Bytes := dollar :: s.body ++ [star, s.hi, s.lo]

/-- A message the receiver may send: a sentence, or a frame with a payload the
parser can hold. -/
inductive GnssMessage where
  | nmea (s : NmeaSentence)
  | ubx (f : UbxFrame) (fits : f.payload.length ≤ 64)

def GnssMessage.bytes : GnssMessage → Bytes
  | .nmea s => s.text ++ [cr, lf]
  | .ubx f _ => f.bytes

/-- The calls that deliver the message. -/
def GnssMessage.events : GnssMessage → List GnssEvent
  | .nmea s => [.sentence s.text, .callback (s.text ++ [cr, lf])]
  | .ubx f _ => [.ubx f.toUbxMessage]

/-- Both parsers wait for the beginning of a message. -/
structure Demux.Idle (d : Demux) : Prop where
  ubx : d.rx.state = .syncSearch
  nmea : d.line.chars = []

variable {d : Demux} {byte : UInt8}

/-! ## One message -/

theorem NmeaSentence.valid (s : NmeaSentence) : validateNmeaChecksum s.text = true := by
  have hstar : star ∉ s.body := fun h => s.plain star h (by simp)
  refine (checksumAccepts_iff _).mpr ⟨?_, s.body, s.hi, s.lo, [], rfl, hstar, ?_⟩
  · have := s.long
    simp only [NmeaSentence.text, List.length_append, List.length_cons, List.length_nil]
    omega
  · exact (strtolU8_isHex s.checksum).symm

/-- A byte that is not a sync byte, `$`, CR or LF. -/
def IsPlain (byte : UInt8) : Prop := byte ∉ [ubxSync1, dollar, cr, lf]

instance (byte : UInt8) : Decidable (IsPlain byte) := inferInstanceAs (Decidable (¬ _))

theorem isPlain_of_digitVal {b : UInt8} {n : Nat} (h : digitVal b = some n) : IsPlain b := by
  have hlow := digitVal_bounds h
  rintro hmem
  simp only [List.mem_cons, List.not_mem_nil, or_false] at hmem
  rcases hmem with rfl | rfl | rfl | rfl
  · have hnone : digitVal ubxSync1 = none := by decide
    rw [hnone] at h
    cases h
  · exact absurd hlow (by decide)
  · exact absurd hlow (by decide)
  · exact absurd hlow (by decide)

theorem NmeaSentence.isPlain_text_tail (s : NmeaSentence) : ∀ b ∈ s.text.tail, IsPlain b := by
  intro b hb
  simp only [NmeaSentence.text, List.cons_append, List.tail_cons, List.mem_append, List.mem_cons,
    List.not_mem_nil, or_false] at hb
  rcases hb with hbody | rfl | rfl | rfl
  · have hplain := s.plain b hbody
    simp only [List.mem_cons, List.not_mem_nil, or_false, not_or] at hplain
    simp [IsPlain, hplain]
  · decide
  · exact isPlain_of_digitVal s.checksum.1
  · exact isPlain_of_digitVal s.checksum.2

theorem processUartByte_dollar (now : UInt64) (h : d.rx.state = .syncSearch) :
    processUartByte d (now, dollar) = ({ d with arrivalUs := now, line := .start }, []) := by
  simp [processUartByte, h, dollar, ubxSync1]

theorem processUartByte_lineEnd (now : UInt64) (h : d.rx.state = .syncSearch)
    (hbyte : byte = cr ∨ byte = lf) :
    processUartByte d (now, byte) = demuxLineEnd d := by
  rcases hbyte with rfl | rfl
  · simp [processUartByte, h, cr, lf, dollar, ubxSync1]
  · simp [processUartByte, h, cr, lf, dollar, ubxSync1]

theorem processUartByte_plain (now : UInt64) (h : d.rx.state = .syncSearch) (hplain : IsPlain byte)
    (hline : d.line.chars ≠ []) :
    processUartByte d (now, byte) = ({ d with line := d.line.push byte }, []) := by
  simp only [IsPlain, List.mem_cons, List.not_mem_nil, or_false, not_or] at hplain
  simp [processUartByte, h, hplain, List.length_pos_iff.mpr hline]

theorem demuxLineEnd_empty (hline : d.line.chars = []) : demuxLineEnd d = (d, []) := by
  simp [demuxLineEnd, hline]

theorem demuxLineEnd_valid (hvalid : validateNmeaChecksum d.line.chars = true)
    (hline : d.line.chars ≠ []) (hcallback : d.nmeaCallback = true) :
    demuxLineEnd d = ({ d with line := .empty },
      [.sentence d.line.chars, .callback (d.line.chars ++ [cr, lf])]) := by
  simp [demuxLineEnd, hvalid, hline, hcallback]

/-- Plain bytes that fit are appended to a line. -/
theorem run_plain {inputs : List (UInt64 × UInt8)} (h : d.rx.state = .syncSearch)
    (hplain : ∀ p ∈ inputs, IsPlain p.2) (hline : d.line.chars ≠ [])
    (hfit : d.line.chars.length + inputs.length ≤ 1021) :
    ∃ line : NmeaLine, line.chars = d.line.chars ++ inputs.map Prod.snd ∧
      (Machine.run processUartByte d inputs).1 = { d with line } ∧
      (Machine.run processUartByte d inputs).2.flatten = [] := by
  induction inputs generalizing d with
  | nil => exact ⟨d.line, by simp, rfl, rfl⟩
  | cons p inputs ih =>
    have hpush : (d.line.push p.2).chars = d.line.chars ++ [p.2] := by
      simp only [List.length_cons] at hfit
      rw [NmeaLine.push, dif_pos (by rw [gnssUartBufferSize]; omega)]
    have hbyte : processUartByte d p = ({ d with line := d.line.push p.2 }, []) :=
      processUartByte_plain p.1 h (hplain p (by simp)) hline
    obtain ⟨line, hchars, hstate, hout⟩ :=
      ih (d := { d with line := d.line.push p.2 }) h (fun q hq => hplain q (by simp [hq]))
        (by simp [hpush]) (by simp [hpush] at hfit ⊢; omega)
    refine ⟨line, ?_, ?_, ?_⟩
    · rw [hchars, hpush]
      simp
    · rw [Machine.run_cons, hbyte, hstate]
    · rw [Machine.run_cons, hbyte]
      simpa using hout

/-- CR ends a sentence, the LF after it finds an empty line. -/
theorem run_crlf (s : NmeaSentence) (t₁ t₂ : UInt64) (h : d.rx.state = .syncSearch)
    (hline : d.line.chars = s.text) (hcallback : d.nmeaCallback = true) :
    Machine.run processUartByte d [(t₁, cr), (t₂, lf)] =
      ({ d with line := .empty }, [(GnssMessage.nmea s).events, []]) := by
  have hcr : processUartByte d (t₁, cr) =
      ({ d with line := .empty }, (GnssMessage.nmea s).events) := by
    rw [processUartByte_lineEnd t₁ h (.inl rfl),
      demuxLineEnd_valid (by rw [hline]; exact s.valid) (by simp [hline, NmeaSentence.text])
        hcallback,
      hline]
    rfl
  have hlf : processUartByte { d with line := .empty } (t₂, lf) =
      ({ d with line := .empty }, []) := by
    rw [processUartByte_lineEnd (d := { d with line := .empty }) t₂ h (.inr rfl),
      demuxLineEnd_empty rfl]
  simp only [Machine.run_cons, Machine.run_nil, hcr, hlf]

/-- A sentence whose `$` is in the line buffer is delivered with its line end. -/
theorem run_sentence_tail (s : NmeaSentence) {inputs : List (UInt64 × UInt8)}
    (hinputs : inputs.map Prod.snd = s.text.tail ++ [cr, lf]) (h : d.rx.state = .syncSearch)
    (hline : d.line.chars = [dollar]) (hcallback : d.nmeaCallback = true) :
    (Machine.run processUartByte d inputs).1 = { d with line := .empty } ∧
      (Machine.run processUartByte d inputs).2.flatten = (GnssMessage.nmea s).events := by
  -- the inputs are the rest of the sentence, CR and LF, each with its time
  obtain ⟨rest, lineEnd, rfl, hrest, hlineEnd⟩ := List.map_eq_append_iff.mp hinputs
  obtain ⟨⟨t₁, b₁⟩, tail₁, rfl, hb₁, htail₁⟩ := List.map_eq_cons_iff.mp hlineEnd
  obtain ⟨⟨t₂, b₂⟩, tail₂, rfl, hb₂, htail₂⟩ := List.map_eq_cons_iff.mp htail₁
  obtain rfl := List.map_eq_nil_iff.mp htail₂
  simp only at hb₁ hb₂
  subst hb₁ hb₂
  have hlength : rest.length = s.body.length + 3 := by
    have hlen := congrArg List.length hrest
    simpa [NmeaSentence.text] using hlen
  have hplain : ∀ p ∈ rest, IsPlain p.2 := by
    intro p hp
    refine s.isPlain_text_tail p.2 ?_
    have hmem : p.2 ∈ rest.map Prod.snd := List.mem_map_of_mem hp
    rwa [hrest] at hmem
  have hshort := s.short
  obtain ⟨line, hchars, hstate, hout⟩ :=
    run_plain h hplain (by simp [hline]) (by simp [hline]; omega)
  have htext : line.chars = s.text := by
    rw [hchars, hline, hrest]
    rfl
  have hend := run_crlf s t₁ t₂ (d := { d with line }) h htext hcallback
  rw [Machine.run_append, hstate, hend, List.flatten_append, hout]
  exact ⟨rfl, by simp⟩

/-- A sentence with its line end is delivered once, whatever was in the line buffer. -/
theorem run_sentence (s : NmeaSentence) {inputs : List (UInt64 × UInt8)}
    (hinputs : inputs.map Prod.snd = s.text ++ [cr, lf]) (h : d.rx.state = .syncSearch)
    (hcallback : d.nmeaCallback = true) :
    (Machine.run processUartByte d inputs).1.Idle ∧
      (Machine.run processUartByte d inputs).1.nmeaCallback = true ∧
      (Machine.run processUartByte d inputs).2.flatten = (GnssMessage.nmea s).events := by
  obtain ⟨⟨t₀, b₀⟩, rest, rfl, hb₀, hrest⟩ := List.map_eq_cons_iff.mp hinputs
  simp only at hb₀
  subst hb₀
  obtain ⟨hstate, hout⟩ :=
    run_sentence_tail (d := { d with arrivalUs := t₀, line := .start }) s hrest h rfl hcallback
  rw [Machine.run_cons, processUartByte_dollar t₀ h, hstate]
  exact ⟨⟨h, rfl⟩, hcallback, hout⟩

/-- Bytes the UBX parser takes do not touch the line buffer. -/
theorem run_ubx {inputs : List (UInt64 × UInt8)}
    (htakes : Machine.Guarded ubxProcessByte UbxTakes d.rx (inputs.map Prod.snd)) :
    ∃ ack, (Machine.run processUartByte d inputs).1 =
        { d with rx := (Machine.run ubxProcessByte d.rx (inputs.map Prod.snd)).1, ack } ∧
      (Machine.run processUartByte d inputs).2.flatten =
        (Machine.run ubxProcessByte d.rx (inputs.map Prod.snd)).2.reduceOption.map .ubx := by
  induction inputs generalizing d with
  | nil => exact ⟨d.ack, rfl, rfl⟩
  | cons p inputs ih =>
    obtain ⟨hp, hrest⟩ := htakes
    have hbyte : processUartByte d p = demuxUbx p.2 d := by
      unfold processUartByte
      rcases hp with hbusy | hsync
      · rw [if_pos hbusy]
      · split
        · rfl
        · rw [if_pos hsync]
    -- the byte goes to the parser, which is all that changes besides the ACK state
    obtain ⟨first, hfirst⟩ := demuxUbx_eq p.2 d
    obtain ⟨ack, hstate, hout⟩ :=
      ih (d := { d with rx := (ubxProcessByte d.rx p.2).1, ack := first }) hrest
    refine ⟨ack, ?_, ?_⟩
    · rw [Machine.run_cons_fst, hbyte, hfirst, hstate]
      rfl
    · rw [Machine.run_cons, hbyte, hfirst, List.flatten_cons, hout, List.map_cons,
        Machine.run_cons]
      cases (ubxProcessByte d.rx p.2).2 with
      | none => rfl
      | some m => rfl

/-- A frame is delivered once and leaves the line buffer alone. -/
theorem run_frame (f : UbxFrame) (hf : f.payload.length ≤ 64)
    {inputs : List (UInt64 × UInt8)} (hinputs : inputs.map Prod.snd = f.bytes)
    (h : d.rx.state = .syncSearch) :
    (Machine.run processUartByte d inputs).1.rx.state = .syncSearch ∧
      (Machine.run processUartByte d inputs).1.line = d.line ∧
      (Machine.run processUartByte d inputs).1.nmeaCallback = d.nmeaCallback ∧
      (Machine.run processUartByte d inputs).2.flatten = (GnssMessage.ubx f hf).events := by
  obtain ⟨hend, hmessages, htakes⟩ := ubx_run_frame h hf
  rw [← hinputs] at hend hmessages htakes
  obtain ⟨ack, hstate, hout⟩ := run_ubx htakes
  rw [hstate, hout, hmessages]
  exact ⟨hend, rfl, rfl, rfl⟩

/-! ## The stream -/

/-- Messages are delivered once each when the UBX parser is idle, whatever is in the line
buffer. -/
theorem run_messages (messages : List GnssMessage) {inputs : List (UInt64 × UInt8)}
    (hinputs : inputs.map Prod.snd = messages.flatMap GnssMessage.bytes)
    (h : d.rx.state = .syncSearch) (hcallback : d.nmeaCallback = true) :
    (Machine.run processUartByte d inputs).1.rx.state = .syncSearch ∧
      (d.line.chars = [] → (Machine.run processUartByte d inputs).1.line.chars = []) ∧
      (Machine.run processUartByte d inputs).2.flatten = messages.flatMap GnssMessage.events := by
  induction messages generalizing d inputs with
  | nil =>
    obtain rfl := List.map_eq_nil_iff.mp hinputs
    exact ⟨h, id, rfl⟩
  | cons m messages ih =>
    rw [List.flatMap_cons] at hinputs
    obtain ⟨first, later, rfl, hfirst, hlater⟩ := List.map_eq_append_iff.mp hinputs
    have hm : (Machine.run processUartByte d first).1.rx.state = .syncSearch ∧
        (d.line.chars = [] → (Machine.run processUartByte d first).1.line.chars = []) ∧
        (Machine.run processUartByte d first).1.nmeaCallback = true ∧
        (Machine.run processUartByte d first).2.flatten = m.events := by
      cases m with
      | nmea s =>
        obtain ⟨hidle, hcallback', hout⟩ := run_sentence s hfirst h hcallback
        exact ⟨hidle.ubx, fun _ => hidle.nmea, hcallback', hout⟩
      | ubx f hf =>
        obtain ⟨hstate, hline, hsame, hout⟩ := run_frame f hf hfirst h
        exact ⟨hstate, fun hnil => by rw [hline, hnil], by rw [hsame, hcallback], hout⟩
    obtain ⟨hstate, hline, hcallback', hout⟩ := hm
    obtain ⟨hstate', hline', houts⟩ := ih hlater hstate hcallback'
    rw [Machine.run_append]
    exact ⟨hstate', fun hnil => hline' (hline hnil),
      by rw [List.flatten_append, hout, houts, List.flatMap_cons]⟩

/-- **Demultiplexing.** A stream of well-formed messages, in any division into
chunks and at any times, is delivered message by message, and leaves both parsers
idle. -/
theorem processUartData_delivers (d : Demux) (messages : List GnssMessage)
    (chunks : List (List (UInt64 × UInt8))) (hidle : d.Idle) (hcallback : d.nmeaCallback = true)
    (hbytes : chunks.flatten.map Prod.snd = messages.flatMap GnssMessage.bytes) :
    (Machine.run processUartData d chunks).2.flatten = messages.flatMap GnssMessage.events ∧
      (Machine.run processUartData d chunks).1.Idle := by
  obtain ⟨hstate, hout⟩ := run_processUartData d chunks
  obtain ⟨hend, hline, houts⟩ := run_messages messages hbytes hidle.ubx hcallback
  rw [hstate, hout]
  exact ⟨houts, hend, hline hidle.nmea⟩

/-- The receive path after start, with a callback registered. -/
def Demux.initial : Demux where
  rx := .zero
  ack :=
    { sem := false, ackReceived := false, nakReceived := false, waitingClass := 0, waitingId := 0 }
  line := .empty
  arrivalUs := 0
  nmeaCallback := true

/-- An `$PTST` sentence and an acknowledgement whose payload looks like NMEA, in
two chunks cut inside the sentence. -/
theorem processUartData_delivers_two :
    let sentence : NmeaSentence :=
      { body := ascii "PTST", hi := 48, lo := 51, plain := by decide +kernel, checksum := by decide
        long := by decide, short := by decide }
    let frame : UbxFrame :=
      { msgClass := 5, msgId := 1, payload := ascii "$\r", payload_lt := by decide }
    let messages := [.nmea sentence, .ubx frame (by decide)]
    let bytes := (messages.flatMap GnssMessage.bytes).map fun b => ((0 : UInt64), b)
    let chunks := [bytes.take 3, bytes.drop 3]
    (Machine.run processUartData Demux.initial chunks).2.flatten =
        messages.flatMap GnssMessage.events ∧
      (Machine.run processUartData Demux.initial chunks).1.Idle :=
  processUartData_delivers Demux.initial _ _ ⟨rfl, rfl⟩ rfl (by decide)

end TempoBt
