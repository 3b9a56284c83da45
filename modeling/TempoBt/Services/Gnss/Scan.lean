-- SUMMARY: How the demultiplexer divides an arbitrary stream into text and UBX frames, and what it makes of the parts.
import Mathlib.Data.List.Induction
import TempoBt.Services.Gnss.Demux

/-!
# Scanning a stream

Every stream has a division into text, false beginnings of frames, and frames. The
demultiplexer follows it: the text goes to the line buffer as if nothing else were in the
stream, and a frame is delivered if its checksum is right.
-/

namespace TempoBt

open Bytes

/-! ## Division -/

/-- A byte outside UBX, or a frame of a size the parser can hold with the two bytes in the
place of its checksum. -/
inductive ScanItem where
  | text (byte : UInt8)
  | frame (f : UbxFrame) (ckA ckB : UInt8)

/-- Where a stream ends: between frames, after a sync byte, or inside a frame. -/
inductive ScanEnd where
  | done
  | sync
  | opened

/-- The division of a stream. -/
inductive Scan : Bytes → List ScanItem → ScanEnd → Prop where
  | done : Scan [] [] .done
  | sync : Scan [ubxSync1] [] .sync
  | opened {part : Bytes} (hpart : Unfinished part) :
      Scan (ubxSync1 :: ubxSync2 :: part) [] .opened
  | text {byte : UInt8} {bs : Bytes} {items : List ScanItem} {e : ScanEnd}
      (hbyte : byte ≠ ubxSync1) (rest : Scan bs items e) :
      Scan (byte :: bs) (.text byte :: items) e
  /-- Only the last of several sync bytes counts. -/
  | again {bs : Bytes} {items : List ScanItem} {e : ScanEnd}
    (rest : Scan (ubxSync1 :: bs) items e) :
      Scan (ubxSync1 :: ubxSync1 :: bs) items e
  /-- The byte after a sync byte is lost with it. -/
  | falseSync {byte : UInt8} {bs : Bytes} {items : List ScanItem} {e : ScanEnd}
      (hbyte : byte ≠ ubxSync1) (hbyte' : byte ≠ ubxSync2) (rest : Scan bs items e) :
      Scan (ubxSync1 :: byte :: bs) items e
  /-- Of an oversized frame only the header is skipped. -/
  | oversized {msgClass msgId lenL lenH : UInt8} {bs : Bytes} {items : List ScanItem} {e : ScanEnd}
      (hlong : 64 < lenL.toNat + 256 * lenH.toNat) (rest : Scan bs items e) :
      Scan ([ubxSync1, ubxSync2, msgClass, msgId, lenL, lenH] ++ bs) items e
  | frame {f : UbxFrame} {ckA ckB : UInt8} {bs : Bytes} {items : List ScanItem} {e : ScanEnd}
      (hfits : f.payload.length ≤ 64) (rest : Scan bs items e) :
      Scan (ubxSync1 :: ubxSync2 :: f.header ++ f.payload ++ [ckA, ckB] ++ bs)
        (.frame f ckA ckB :: items) e

/-- A header that enough bytes follow begins a frame. -/
theorem exists_frame (msgClass msgId : UInt8) {lenL lenH : UInt8} {bs : Bytes}
    (hfit : lenL.toNat + 256 * lenH.toNat ≤ 64)
    (hwhole : lenL.toNat + 256 * lenH.toNat + 2 ≤ bs.length) :
    ∃ (f : UbxFrame) (ckA ckB : UInt8) (bs' : Bytes), f.payload.length ≤ 64 ∧
      bs'.length < bs.length ∧
      ubxSync1 :: ubxSync2 :: msgClass :: msgId :: lenL :: lenH :: bs =
        ubxSync1 :: ubxSync2 :: f.header ++ f.payload ++ [ckA, ckB] ++ bs' := by
  generalize hn : lenL.toNat + 256 * lenH.toNat = n at hfit hwhole
  let f : UbxFrame :=
    { msgClass, msgId
      payload := bs.take n
      payload_lt := by rw [List.length_take]; omega }
  have hlength : f.payload.length = lenL.toNat + 256 * lenH.toNat := by
    rw [List.length_take]
    omega
  have hafter : 2 ≤ (bs.drop n).length := by
    rw [List.length_drop]
    omega
  have hsplit : bs.take n ++ bs.drop n = bs := List.take_append_drop n bs
  rcases hdrop : bs.drop n with - | ⟨ckA, - | ⟨ckB, bs'⟩⟩
  · rw [hdrop, List.length_nil] at hafter
    omega
  · rw [hdrop, List.length_singleton] at hafter
    omega
  · rw [hdrop] at hsplit
    have hlt := congrArg List.length hsplit
    simp only [List.length_append, List.length_cons] at hlt
    refine ⟨f, ckA, ckB, bs', by omega, by omega, ?_⟩
    rw [f.header_eq hlength]
    simp [f, hsplit]

/-- Every stream can be divided. -/
theorem Scan.exists (bs : Bytes) : ∃ items e, Scan bs items e := by
  induction hn : bs.length using Nat.strong_induction_on generalizing bs with
  | _ n ih =>
    subst hn
    rcases bs with - | ⟨b, bs⟩
    · exact ⟨_, _, .done⟩
    by_cases hb : b = ubxSync1
    · subst hb
      rcases bs with - | ⟨b, bs⟩
      · exact ⟨_, _, .sync⟩
      by_cases hsync : b = ubxSync1
      · subst hsync
        obtain ⟨items, e, hrest⟩ := ih _ (by simp) (ubxSync1 :: bs) rfl
        exact ⟨items, e, .again hrest⟩
      by_cases hsync2 : b = ubxSync2
      · subst hsync2
        rcases bs with - | ⟨msgClass, - | ⟨msgId, - | ⟨lenL, - | ⟨lenH, bs⟩⟩⟩⟩
        iterate 4 exact ⟨_, _, .opened trivial⟩
        rcases Nat.lt_or_ge 64 (lenL.toNat + 256 * lenH.toNat) with hlong | hfit
        · obtain ⟨items, e, hrest⟩ := ih bs.length (by simp only [List.length_cons]; omega) bs rfl
          exact ⟨items, e, .oversized hlong hrest⟩
        rcases Nat.lt_or_ge bs.length (lenL.toNat + 256 * lenH.toNat + 2) with hshort | hwhole
        · exact ⟨_, _, .opened ⟨hfit, hshort⟩⟩
        obtain ⟨f, ckA, ckB, bs', hfits, hlt, hbytes⟩ := exists_frame msgClass msgId hfit hwhole
        obtain ⟨items, e, hrest⟩ := ih bs'.length (by simp only [List.length_cons]; omega) bs' rfl
        rw [hbytes]
        exact ⟨_, e, .frame hfits hrest⟩
      obtain ⟨items, e, hrest⟩ := ih bs.length (by simp only [List.length_cons]; omega) bs rfl
      exact ⟨items, e, .falseSync hsync hsync2 hrest⟩
    · obtain ⟨items, e, hrest⟩ := ih bs.length (by simp) bs rfl
      exact ⟨_, e, .text hb hrest⟩

/-! ## Effect -/

/-- A byte for the line buffer, with a callback registered or not. -/
def demuxText (callback : Bool) (line : NmeaLine) (byte : UInt8) : NmeaLine × List GnssEvent :=
  if byte = dollar then (.start, [])
  else if byte = cr ∨ byte = lf then
    (.empty,
      if line.chars ≠ [] ∧ validateNmeaChecksum line.chars = true then
        .sentence line.chars :: if callback then [.callback (line.chars ++ [cr, lf])] else []
      else [])
  else if line.chars ≠ [] then (line.push byte, [])
  else (line, [])

/-- What an item does. -/
def ScanItem.step (callback : Bool) (line : NmeaLine) : ScanItem → NmeaLine × List GnssEvent
  | .text byte => demuxText callback line byte
  | .frame f ckA ckB =>
    (line,
      if (ckA, ckB) = ubxChecksum (f.header ++ f.payload) then [.ubx f.toUbxMessage] else [])

/-- The state of the UBX parser at the end of a stream. -/
def ScanEnd.Holds (rx : UbxRx) : ScanEnd → Prop
  | .done => rx.state = .syncSearch
  | .sync => rx.state = .sync2
  | .opened => rx.state ∉ [.syncSearch, .sync2]

section Effect

variable {d : Demux} {bs : Bytes} {items : List ScanItem} {e : ScanEnd}

theorem processUartByte_text (h : d.rx.state = .syncSearch) (now : UInt64) {byte : UInt8}
    (hbyte : byte ≠ ubxSync1) :
    ∃ arrivalUs, processUartByte d (now, byte) =
      ({ d with arrivalUs, line := (demuxText d.nmeaCallback d.line byte).1 },
        (demuxText d.nmeaCallback d.line byte).2) := by
  unfold processUartByte demuxText
  simp only [h, ne_eq, not_true_eq_false, if_false, hbyte]
  split
  · exact ⟨now, rfl⟩
  · refine ⟨d.arrivalUs, ?_⟩
    split
    · unfold demuxLineEnd
      by_cases hline : d.line.chars = []
      · have hempty : d.line = .empty := by
          cases hd : d.line
          simp_all [NmeaLine.empty]
        have hsame : ({ d with line := .empty } : Demux) = d := by rw [← hempty]
        simp [hline, hsame]
      · simp [hline]
    · by_cases hline : d.line.chars = []
      · simp [hline]
      · simp [hline, List.length_pos_iff.mpr hline]

theorem processUartByte_sync1 (h : d.rx.state = .syncSearch ∨ d.rx.state = .sync2) (now : UInt64) :
    processUartByte d (now, ubxSync1) = ({ d with rx := { d.rx with state := .sync2 } }, []) := by
  have hne : ¬ ubxSync1 = ubxSync2 := by decide
  rcases h with h | h
  · simp [processUartByte, demuxUbx, ubxProcessByte, h]
  · simp [processUartByte, demuxUbx, ubxProcessByte, h, hne]

/-- Bytes that the UBX parser takes and after which it is idle again are no text. -/
theorem run_ubx_idle {first : Bytes}
    (hend : (Machine.run ubxProcessByte d.rx first).1.state = .syncSearch)
    (htakes : Machine.Guarded ubxProcessByte UbxTakes d.rx first)
    {inputs : List (UInt64 × UInt8)} (hinputs : inputs.map Prod.snd = first ++ bs) :
    ∃ rx ack later, later.map Prod.snd = bs ∧ rx.state = .syncSearch ∧
      (Machine.run processUartByte d inputs).1 =
        (Machine.run processUartByte { d with rx, ack } later).1 ∧
      (Machine.run processUartByte d inputs).2.flatten =
        (Machine.run ubxProcessByte d.rx first).2.reduceOption.map .ubx ++
          (Machine.run processUartByte { d with rx, ack } later).2.flatten := by
  obtain ⟨now, later, rfl, hfirst, hlater⟩ := List.map_eq_append_iff.mp hinputs
  rw [← hfirst] at hend htakes ⊢
  obtain ⟨ack, hstate, hout⟩ := run_ubx htakes
  refine ⟨_, ack, later, hlater, hend, ?_, ?_⟩
  · rw [Machine.run_append, hstate]
  · rw [Machine.run_append, List.flatten_append, hstate, hout]

/-- **The demultiplexer follows the division.** From an idle UBX parser the state at the end
and the calls made are those of the items. -/
theorem Scan.run (hscan : Scan bs items e) (h : d.rx.state = .syncSearch)
    {inputs : List (UInt64 × UInt8)} (hinputs : inputs.map Prod.snd = bs) :
    e.Holds (Machine.run processUartByte d inputs).1.rx ∧
      (Machine.run processUartByte d inputs).1.line =
        (Machine.run (ScanItem.step d.nmeaCallback) d.line items).1 ∧
      (Machine.run processUartByte d inputs).1.nmeaCallback = d.nmeaCallback ∧
      (Machine.run processUartByte d inputs).2.flatten =
        (Machine.run (ScanItem.step d.nmeaCallback) d.line items).2.flatten := by
  induction hscan generalizing d inputs with
  | done =>
    obtain rfl := List.map_eq_nil_iff.mp hinputs
    exact ⟨h, rfl, rfl, rfl⟩
  | sync =>
    obtain ⟨⟨now, b⟩, later, rfl, hb, hlater⟩ := List.map_eq_cons_iff.mp hinputs
    obtain rfl := List.map_eq_nil_iff.mp hlater
    simp only at hb
    subst hb
    rw [Machine.run_cons, processUartByte_sync1 (.inl h)]
    exact ⟨rfl, rfl, rfl, rfl⟩
  | opened hpart =>
    obtain ⟨hstate, hquiet, htakes⟩ := ubx_run_unfinished h hpart
    rw [← hinputs] at hstate hquiet htakes
    obtain ⟨ack, hend, hout⟩ := run_ubx htakes
    rw [hend, hout, hquiet]
    exact ⟨hstate, rfl, rfl, rfl⟩
  | text hbyte rest ih =>
    obtain ⟨⟨now, b⟩, later, rfl, hb, hlater⟩ := List.map_eq_cons_iff.mp hinputs
    simp only at hb
    subst hb
    obtain ⟨arrivalUs, hstep⟩ := processUartByte_text h now hbyte
    rw [Machine.run_cons, hstep, Machine.run_cons]
    obtain ⟨hend, hline, hcallback, hout⟩ := ih (d := { d with
      arrivalUs, line := (demuxText d.nmeaCallback d.line b).1 }) h hlater
    exact ⟨hend, hline, hcallback, by rw [List.flatten_cons, List.flatten_cons, hout]; rfl⟩
  | again rest ih =>
    obtain ⟨⟨now, b⟩, later, rfl, hb, hlater⟩ := List.map_eq_cons_iff.mp hinputs
    obtain ⟨⟨now', b'⟩, later, rfl, hb', hlater'⟩ := List.map_eq_cons_iff.mp hlater
    simp only at hb hb'
    subst hb hb'
    -- the second sync byte finds the parser as the first one left it
    have hfirst := processUartByte_sync1 (d := d) (.inl h)
    have hsecond := processUartByte_sync1 (d := { d with rx := { d.rx with state := .sync2 } })
      (.inr rfl)
    have hrest := ih h hlater
    rw [Machine.run_cons, hfirst] at hrest
    rw [Machine.run_cons, hfirst, Machine.run_cons, hsecond]
    exact hrest
  | falseSync hbyte hbyte' rest ih =>
    rename_i byte bs' items' e'
    obtain ⟨hstate, hquiet, htakes⟩ := ubx_run_falseSync h hbyte hbyte'
    obtain ⟨rx, ack, later, hlater, hidle, hend, hout⟩ :=
      @run_ubx_idle d bs' [ubxSync1, byte] hstate htakes inputs hinputs
    rw [hend, hout, hquiet]
    exact ih (d := { d with rx, ack }) hidle hlater
  | oversized hlong rest ih =>
    obtain ⟨hstate, hquiet, htakes⟩ := ubx_run_oversized h hlong
    obtain ⟨rx, ack, later, hlater, hidle, hend, hout⟩ := run_ubx_idle hstate htakes hinputs
    rw [hend, hout, hquiet]
    exact ih (d := { d with rx, ack }) hidle hlater
  | @frame f ckA ckB bs' items' e' hfits rest ih =>
    obtain ⟨hstate, hmessages, htakes⟩ := ubx_run_framed h hfits ckA ckB
    obtain ⟨rx, ack, later, hlater, hidle, hend, hout⟩ := run_ubx_idle hstate htakes hinputs
    obtain ⟨hends, hline, hcallback, houts⟩ := ih (d := { d with rx, ack }) hidle hlater
    rw [hend, hout, hmessages, Machine.run_cons]
    refine ⟨hends, hline, hcallback, ?_⟩
    rw [houts, List.flatten_cons]
    simp only [ScanItem.step]
    split <;> rfl

end Effect

/-! ## Text -/

/-- The bytes outside UBX. -/
def scanText (items : List ScanItem) : Bytes :=
  items.filterMap fun item =>
    match item with
    | .text byte => some byte
    | .frame _ _ _ => none

/-- A frame in the stream whose checksum is right. -/
def HoldsFrame (items : List ScanItem) : Prop :=
  ∃ f ckA ckB, .frame f ckA ckB ∈ items ∧ (ckA, ckB) = ubxChecksum (f.header ++ f.payload)

/-- The text ends in a line that has begun with `$` and has not ended. -/
def OpenLine (text line : Bytes) : Prop :=
  ∃ before rest, text = before ++ dollar :: rest ∧ line = dollar :: rest ∧
    (∀ b ∈ rest, b ∉ [dollar, cr, lf]) ∧ line.length ≤ 1021

/-- A line of the text that passes as a sentence. -/
def HoldsSentence (text : Bytes) : Prop :=
  ∃ before line lineEnd after, text = before ++ lineEnd :: after ∧ OpenLine before line ∧
    (lineEnd = cr ∨ lineEnd = lf) ∧ validateNmeaChecksum line = true

section Text

variable {callback : Bool} {line : NmeaLine} {items : List ScanItem} {text : Bytes}

theorem holdsFrame_frame_cons {f : UbxFrame} {ckA ckB : UInt8} {items : List ScanItem} :
    HoldsFrame (.frame f ckA ckB :: items) ↔
      (ckA, ckB) = ubxChecksum (f.header ++ f.payload) ∨ HoldsFrame items := by
  constructor
  · rintro ⟨f', a, b, hmem, hsum⟩
    rcases List.mem_cons.mp hmem with heq | hmem
    · cases heq
      exact .inl hsum
    · exact .inr ⟨f', a, b, hmem, hsum⟩
  · rintro (hsum | ⟨f', a, b, hmem, hsum⟩)
    · exact ⟨f, ckA, ckB, List.mem_cons_self, hsum⟩
    · exact ⟨f', a, b, List.mem_cons_of_mem _ hmem, hsum⟩

theorem run_items (callback : Bool) (line : NmeaLine) (items : List ScanItem) :
    (Machine.run (ScanItem.step callback) line items).1 =
        (Machine.run (demuxText callback) line (scanText items)).1 ∧
      ((Machine.run (ScanItem.step callback) line items).2.flatten = [] ↔
        ¬ HoldsFrame items ∧
          (Machine.run (demuxText callback) line (scanText items)).2.flatten = []) := by
  induction items generalizing line with
  | nil => simp [scanText, HoldsFrame]
  | cons item items ih =>
    cases item with
    | text byte =>
      obtain ⟨hline, hquiet⟩ := ih (demuxText callback line byte).1
      refine ⟨hline, ?_⟩
      have hframe : HoldsFrame (.text byte :: items) ↔ HoldsFrame items := by
        simp [HoldsFrame]
      have htext : scanText (.text byte :: items) = byte :: scanText items := rfl
      rw [hframe, htext, Machine.run_cons, Machine.run_cons, List.flatten_cons, List.flatten_cons,
        List.append_eq_nil_iff, List.append_eq_nil_iff]
      constructor
      · rintro ⟨hfirst, hrest⟩
        obtain ⟨hnone, hrest⟩ := hquiet.mp hrest
        exact ⟨hnone, hfirst, hrest⟩
      · rintro ⟨hnone, hfirst, hrest⟩
        exact ⟨hfirst, hquiet.mpr ⟨hnone, hrest⟩⟩
    | frame f ckA ckB =>
      obtain ⟨hline, hquiet⟩ := ih line
      refine ⟨hline, ?_⟩
      have htext : scanText (.frame f ckA ckB :: items) = scanText items := rfl
      rw [holdsFrame_frame_cons, htext, Machine.run_cons, List.flatten_cons, List.append_eq_nil_iff]
      simp only [ScanItem.step]
      by_cases hsum : (ckA, ckB) = ubxChecksum (f.header ++ f.payload)
      · simp [hsum]
      · simp [hsum, hquiet]

theorem demuxText_plain (callback : Bool) {byte : UInt8} (hbyte : byte ∉ [dollar, cr, lf]) :
    demuxText callback line byte = (if line.chars ≠ [] then line.push byte else line, []) := by
  simp only [List.mem_cons, List.not_mem_nil, or_false, not_or] at hbyte
  unfold demuxText
  simp only [hbyte, if_false, or_self]
  split <;> rfl

theorem NmeaLine.push_chars (line : NmeaLine) (byte : UInt8) :
    (line.push byte).chars = if line.chars.length < 1021 then line.chars ++ [byte] else [] := by
  unfold NmeaLine.push gnssUartBufferSize
  split <;> rfl

/-- The last byte of a text with an open line: the `$`, or a byte of the line. -/
theorem openLine_append_singleton {byte : UInt8} {chars : Bytes} :
    OpenLine (text ++ [byte]) chars ↔
      byte = dollar ∧ chars = [dollar] ∨
        byte ∉ [dollar, cr, lf] ∧
          ∃ line, OpenLine text line ∧ line.length < 1021 ∧ chars = line ++ [byte] := by
  constructor
  · rintro ⟨before, rest, htext, rfl, hplain, hlen⟩
    rcases List.eq_nil_or_concat rest with rfl | ⟨rest, b, rfl⟩
    · obtain ⟨-, hb⟩ := List.append_inj' htext rfl
      exact .inl ⟨by simpa using hb, rfl⟩
    · have htext' : text ++ [byte] = (before ++ dollar :: rest) ++ [b] := by simpa using htext
      obtain ⟨rfl, hb⟩ := List.append_inj' htext' rfl
      simp only [List.cons.injEq, and_true] at hb
      subst hb
      simp only [List.length_cons, List.length_append, List.length_nil, List.concat_eq_append]
        at hlen
      refine .inr ⟨hplain byte (by simp), dollar :: rest, ⟨before, rest, rfl, rfl, ?_, ?_⟩, ?_, ?_⟩
      · exact fun b hb => hplain b (by simp [hb])
      · simp only [List.length_cons]
        omega
      · simp only [List.length_cons]
        omega
      · simp
  · rintro (⟨rfl, rfl⟩ | ⟨hbyte, line, ⟨before, rest, rfl, rfl, hplain, hlen⟩, hfit, rfl⟩)
    · exact ⟨text, [], rfl, rfl, by simp, by simp⟩
    · refine ⟨before, rest ++ [byte], by simp, rfl, ?_, ?_⟩
      · simp only [List.mem_append, List.mem_singleton]
        rintro b (hb | rfl)
        · exact hplain b hb
        · exact hbyte
      · simp only [List.length_append, List.length_singleton]
        omega

/-- The line buffer holds the line that the text has left open. -/
theorem run_demuxText_line (callback : Bool) (text : Bytes) {chars : Bytes} (hchars : chars ≠ []) :
    (Machine.run (demuxText callback) .empty text).1.chars = chars ↔ OpenLine text chars := by
  induction text using List.reverseRecOn generalizing chars with
  | nil => simp [OpenLine, NmeaLine.empty, hchars.symm]
  | append_singleton text byte ih =>
    rw [openLine_append_singleton, Machine.run_append, Machine.run_cons_fst, Machine.run_nil]
    generalize (Machine.run (demuxText callback) .empty text).1 = line at ih ⊢
    by_cases hbyte : byte ∉ [dollar, cr, lf]
    · have hne : byte ≠ dollar := fun h => hbyte (by simp [h])
      rw [demuxText_plain callback hbyte]
      constructor
      · intro h
        by_cases hline : line.chars = []
        · rw [if_neg (by simp [hline]), hline] at h
          exact absurd h.symm hchars
        · rw [if_pos hline, NmeaLine.push_chars] at h
          split at h
          · rename_i hfit
            exact .inr ⟨hbyte, line.chars, (ih hline).mp rfl, hfit, h.symm⟩
          · exact absurd h.symm hchars
      · rintro (⟨hdollar, -⟩ | ⟨-, open', hopen, hfit, rfl⟩)
        · exact absurd hdollar hne
        · have hne' : open' ≠ [] := by
            obtain ⟨-, rest, -, rfl, -⟩ := hopen
            simp
          obtain rfl := (ih hne').mpr hopen
          rw [if_pos hne', NmeaLine.push_chars, if_pos hfit]
    · have hend : byte ∈ [dollar, cr, lf] := not_not.mp hbyte
      simp only [hend, not_true_eq_false, false_and, or_false]
      by_cases hdollar : byte = dollar
      · subst hdollar
        simp [demuxText, NmeaLine.start, eq_comm]
      · have hcrlf : byte = cr ∨ byte = lf := by simpa [hdollar] using hend
        simp [demuxText, hdollar, hcrlf, NmeaLine.empty, hchars.symm]

/-- A sentence is in a text, or it is completed by the byte after it. -/
theorem holdsSentence_append_singleton {text : Bytes} {byte : UInt8} :
    HoldsSentence (text ++ [byte]) ↔
      HoldsSentence text ∨ (byte = cr ∨ byte = lf) ∧
        ∃ line, OpenLine text line ∧ validateNmeaChecksum line = true := by
  constructor
  · rintro ⟨before, line, lineEnd, after, htext, hopen, hend, hvalid⟩
    rcases List.eq_nil_or_concat after with rfl | ⟨after, b, rfl⟩
    · obtain ⟨rfl, hb⟩ := List.append_inj' htext rfl
      simp only [List.cons.injEq, and_true] at hb
      subst hb
      exact .inr ⟨hend, line, hopen, hvalid⟩
    · have htext' : text ++ [byte] = (before ++ lineEnd :: after) ++ [b] := by simpa using htext
      obtain ⟨rfl, -⟩ := List.append_inj' htext' rfl
      exact .inl ⟨before, line, lineEnd, after, rfl, hopen, hend, hvalid⟩
  · rintro (⟨before, line, lineEnd, after, rfl, hopen, hend, hvalid⟩ |
      ⟨hend, line, hopen, hvalid⟩)
    · exact ⟨before, line, lineEnd, after ++ [byte], by simp, hopen, hend, hvalid⟩
    · exact ⟨text, line, byte, [], rfl, hopen, hend, hvalid⟩

/-- The text is silent unless it holds a sentence. -/
theorem run_demuxText_eq_nil (callback : Bool) (text : Bytes) :
    (Machine.run (demuxText callback) .empty text).2.flatten = [] ↔ ¬ HoldsSentence text := by
  induction text using List.reverseRecOn with
  | nil => simp [HoldsSentence]
  | append_singleton text byte ih =>
    have hline := fun chars => @run_demuxText_line callback text chars
    rw [holdsSentence_append_singleton, Machine.run_append, List.flatten_append,
      List.append_eq_nil_iff, ih, not_or]
    refine and_congr_right fun _ => ?_
    rw [Machine.run_cons, Machine.run_nil, List.flatten_cons, List.flatten_nil, List.append_nil]
    generalize (Machine.run (demuxText callback) .empty text).1 = line at hline ⊢
    by_cases hend : byte = cr ∨ byte = lf
    · have hne : byte ≠ dollar := by rcases hend with rfl | rfl <;> decide
      have hexists : (∃ line, OpenLine text line ∧ validateNmeaChecksum line = true) ↔
          line.chars ≠ [] ∧ validateNmeaChecksum line.chars = true := by
        constructor
        · rintro ⟨open', hopen, hvalid⟩
          have hne' : open' ≠ [] := by
            obtain ⟨-, rest, -, rfl, -⟩ := hopen
            simp
          obtain rfl := (hline _ hne').mpr hopen
          exact ⟨hne', hvalid⟩
        · rintro ⟨hne', hvalid⟩
          exact ⟨_, (hline _ hne').mp rfl, hvalid⟩
      rw [hexists]
      simp only [demuxText, hne, if_false, hend, if_true, true_and]
      split <;> simp [*]
    · simp only [demuxText, hend, if_false, false_and, not_false_eq_true, iff_true]
      split
      · rfl
      · split <;> rfl

end Text

end TempoBt
