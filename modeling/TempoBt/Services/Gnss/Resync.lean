-- SUMMARY: What follows a stream that is not made of messages: when the next message is found again, after an oversized frame and after noise.
import TempoBt.Services.Gnss.Scan

/-!
# Resynchronisation

The messages after an arbitrary stream are read from their beginning when the stream ends
between frames. A sync byte at its end swallows the `$` of a sentence. That does no harm
only if the line buffer happens to hold a `$` and nothing else.
-/

namespace TempoBt

open Bytes

/-- The messages that follow the stream are read from their beginning. -/
def Resumes (items : List ScanItem) (e : ScanEnd) : Prop :=
  e = .done ∨ e = .sync ∧ (scanText items).getLast? = some dollar

variable {d : Demux} {inputs : List (UInt64 × UInt8)}

/-! ## After a sync byte -/

theorem processUartByte_falseSync (h : d.rx.state = .sync2) (now : UInt64) {byte : UInt8}
    (hbyte : byte ≠ ubxSync1) (hbyte' : byte ≠ ubxSync2) :
    processUartByte d (now, byte) = ({ d with rx := ubxResetParser d.rx }, []) := by
  simp [processUartByte, demuxUbx, ubxProcessByte, h, hbyte, hbyte']

/-- A stream without sync bytes is text. -/
theorem Scan.of_text {bs : Bytes} (h : ∀ b ∈ bs, b ≠ ubxSync1) :
    Scan bs (bs.map .text) .done := by
  induction bs with
  | nil => exact .done
  | cons b bs ih =>
    obtain ⟨hb, hbs⟩ := List.forall_mem_cons.mp h
    exact .text hb (ih hbs)

theorem run_map_text (callback : Bool) (line : NmeaLine) (bs : Bytes) :
    Machine.run (ScanItem.step callback) line (bs.map .text) =
      Machine.run (demuxText callback) line bs := by
  induction bs generalizing line with
  | nil => rfl
  | cons b bs ih => rw [List.map_cons, Machine.run_cons, Machine.run_cons, ScanItem.step, ih]

/-- Plain bytes are ignored while the buffer is empty. -/
theorem run_demuxText_ignored (callback : Bool) {line : NmeaLine} (hline : line.chars = [])
    {bs : Bytes} (hplain : ∀ b ∈ bs, b ∉ [dollar, cr, lf]) :
    (Machine.run (demuxText callback) line bs).1 = line ∧
      (Machine.run (demuxText callback) line bs).2.flatten = [] := by
  induction bs with
  | nil => exact ⟨rfl, rfl⟩
  | cons b bs ih =>
    obtain ⟨hb, hbs⟩ := List.forall_mem_cons.mp hplain
    rw [Machine.run_cons, demuxText_plain callback hb, if_neg (by simp [hline])]
    exact ih hbs

/-- Plain bytes are appended to what is in the buffer, or the buffer is empty after them. -/
theorem run_demuxText_plain (callback : Bool) (line : NmeaLine) {bs : Bytes}
    (hplain : ∀ b ∈ bs, b ∉ [dollar, cr, lf]) :
    ((Machine.run (demuxText callback) line bs).1.chars = line.chars ++ bs ∨
        (Machine.run (demuxText callback) line bs).1.chars = []) ∧
      (Machine.run (demuxText callback) line bs).2.flatten = [] := by
  induction bs generalizing line with
  | nil => exact ⟨.inl (by simp), rfl⟩
  | cons b bs ih =>
    by_cases hline : line.chars = []
    · obtain ⟨hsame, hout⟩ := run_demuxText_ignored callback hline hplain
      exact ⟨.inr (by rw [hsame, hline]), hout⟩
    · obtain ⟨hb, hbs⟩ := List.forall_mem_cons.mp hplain
      rw [Machine.run_cons, demuxText_plain callback hb, if_pos hline]
      obtain ⟨hchars, hout⟩ := ih (line.push b) hbs
      refine ⟨?_, hout⟩
      have hpush := line.push_chars b
      split at hpush
      · rw [hpush] at hchars
        simpa using hchars
      · obtain ⟨hsame, -⟩ := run_demuxText_ignored callback hpush hbs
        exact .inr (by simp only [hsame, hpush])

/-- The end of a sentence in an idle parser delivers the sentence only if its `$` is all there
is in the buffer. -/
theorem run_sentence_tail_ne (s : NmeaSentence) (h : d.rx.state = .syncSearch)
    (hinputs : inputs.map Prod.snd = s.text.tail ++ [cr, lf]) (hline : d.line.chars ≠ [dollar]) :
    (Machine.run processUartByte d inputs).2.flatten ≠ (GnssMessage.nmea s).events := by
  have hplain : ∀ b ∈ s.text.tail, b ∉ [dollar, cr, lf] := by
    intro b hb
    have hb := s.isPlain_text_tail b hb
    simp only [IsPlain, List.mem_cons, not_or] at hb ⊢
    exact hb.2
  have hscan : Scan (s.text.tail ++ [cr, lf]) ((s.text.tail ++ [cr, lf]).map .text) .done := by
    refine Scan.of_text fun b hb => ?_
    rcases List.mem_append.mp hb with hb | hb
    · exact fun hsync => s.isPlain_text_tail b hb (by simp [hsync])
    · intro hsync
      subst hsync
      simp [ubxSync1, cr, lf] at hb
  obtain ⟨-, -, -, hout⟩ := hscan.run h hinputs
  obtain ⟨hchars, hquiet⟩ := run_demuxText_plain d.nmeaCallback d.line hplain
  rw [hout, run_map_text, Machine.run_append, List.flatten_append, hquiet, List.nil_append]
  generalize (Machine.run (demuxText d.nmeaCallback) d.line s.text.tail).1 = line at hchars ⊢
  intro hevents
  have hcr : ¬ cr = dollar := by decide
  have hlf : ¬ lf = dollar := by decide
  -- the only call for a sentence is made at the CR
  have hsentence : GnssEvent.sentence s.text ∈
      (Machine.run (demuxText d.nmeaCallback) line [cr, lf]).2.flatten := by
    rw [hevents]
    exact List.mem_cons_self
  have htext : line.chars = s.text := by
    simp only [Machine.run_cons, Machine.run_nil, demuxText, hcr, hlf, if_false, true_or, or_true,
      if_true, NmeaLine.empty, ne_eq, not_true_eq_false, false_and, List.flatten_cons,
      List.flatten_nil, List.append_nil] at hsentence
    split at hsentence
    · rcases List.mem_cons.mp hsentence with heq | hmem
      · exact (GnssEvent.sentence.inj heq).symm
      · split at hmem <;> simp at hmem
    · simp at hsentence
  rcases hchars with hchars | hchars
  · rw [htext] at hchars
    have hsplit : s.text = [dollar] ++ s.text.tail := rfl
    exact hline (List.append_cancel_right (hchars.symm.trans hsplit))
  · rw [htext] at hchars
    simp [NmeaSentence.text] at hchars

theorem run_sentence_sync (s : NmeaSentence) (h : d.rx.state = .sync2)
    (hinputs : inputs.map Prod.snd = s.text ++ [cr, lf]) (hline : d.line.chars = [dollar])
    (hcallback : d.nmeaCallback = true) :
    (Machine.run processUartByte d inputs).1.Idle ∧
      (Machine.run processUartByte d inputs).1.nmeaCallback = true ∧
      (Machine.run processUartByte d inputs).2.flatten = (GnssMessage.nmea s).events := by
  obtain ⟨⟨now, b⟩, later, rfl, hb, hlater⟩ := List.map_eq_cons_iff.mp hinputs
  simp only at hb
  subst hb
  obtain ⟨hstate, hout⟩ := run_sentence_tail (d := { d with rx := ubxResetParser d.rx }) s hlater
    rfl hline hcallback
  rw [Machine.run_cons, processUartByte_falseSync h now (by decide) (by decide), hstate]
  exact ⟨⟨rfl, rfl⟩, hcallback, hout⟩

/-- After a sync byte a sentence is delivered exactly if there is a `$` and nothing else in the
buffer. -/
theorem run_sentence_sync_iff (s : NmeaSentence) (h : d.rx.state = .sync2)
    (hinputs : inputs.map Prod.snd = s.text ++ [cr, lf]) (hcallback : d.nmeaCallback = true) :
    (Machine.run processUartByte d inputs).2.flatten = (GnssMessage.nmea s).events ↔
      d.line.chars = [dollar] := by
  constructor
  · intro hevents
    by_contra hline
    obtain ⟨⟨now, b⟩, later, rfl, hb, hlater⟩ := List.map_eq_cons_iff.mp hinputs
    simp only at hb
    subst hb
    rw [Machine.run_cons, processUartByte_falseSync h now (by decide) (by decide)] at hevents
    exact run_sentence_tail_ne (d := { d with rx := ubxResetParser d.rx }) s rfl hlater hline
      hevents
  · intro hline
    exact (run_sentence_sync s h hinputs hline hcallback).2.2

/-- The sync byte before a frame is as good as none. -/
theorem run_sync1 (h : d.rx.state = .sync2) {bs : Bytes}
    (hinputs : inputs.map Prod.snd = ubxSync1 :: bs) :
    Machine.run processUartByte d inputs =
      Machine.run processUartByte { d with rx := { d.rx with state := .syncSearch } } inputs := by
  obtain ⟨⟨now, b⟩, later, rfl, hb, -⟩ := List.map_eq_cons_iff.mp hinputs
  simp only at hb
  subst hb
  rw [Machine.run_cons, Machine.run_cons, processUartByte_sync1 (.inr h),
    processUartByte_sync1 (d := { d with rx := { d.rx with state := .syncSearch } }) (.inl rfl)]

theorem run_messages_sync (messages : List GnssMessage) (h : d.rx.state = .sync2)
    (hinputs : inputs.map Prod.snd = messages.flatMap GnssMessage.bytes)
    (hline : d.line.chars = [dollar]) (hcallback : d.nmeaCallback = true) :
    (Machine.run processUartByte d inputs).2.flatten = messages.flatMap GnssMessage.events := by
  cases messages with
  | nil =>
    obtain rfl := List.map_eq_nil_iff.mp hinputs
    rfl
  | cons m messages =>
    cases m with
    | nmea s =>
      rw [List.flatMap_cons] at hinputs
      obtain ⟨first, later, rfl, hfirst, hlater⟩ := List.map_eq_append_iff.mp hinputs
      obtain ⟨hidle, hcallback', hout⟩ := run_sentence_sync s h hfirst hline hcallback
      obtain ⟨-, -, houts⟩ := run_messages messages hlater hidle.ubx hcallback'
      rw [Machine.run_append, List.flatten_append, hout, houts, List.flatMap_cons]
    | ubx f hf =>
      rw [run_sync1 h hinputs]
      exact (run_messages (d := { d with rx := { d.rx with state := .syncSearch } })
        (.ubx f hf :: messages) hinputs rfl hcallback).2.2

/-! ## Inside a frame -/

/-- The parser is idle or in a frame of class `c`, past the class. -/
def Pending (c : UInt8) (rx : UbxRx) : Prop :=
  rx.state = .syncSearch ∨ rx.state ∉ [.syncSearch, .sync2, .msgClass] ∧ rx.msgClass = c

/-- Inside a frame, past the class, any byte keeps to the frame or ends it. -/
theorem ubxProcessByte_pending {c : UInt8} {rx : UbxRx}
    (hstate : rx.state ∉ [.syncSearch, .sync2, .msgClass]) (hclass : rx.msgClass = c)
    (byte : UInt8) :
    Pending c (ubxProcessByte rx byte).1 ∧ ∀ m ∈ (ubxProcessByte rx byte).2, m.msgClass = c := by
  unfold ubxProcessByte
  cases hcases : rx.state
  case syncSearch => simp [hcases] at hstate
  case sync2 => simp [hcases] at hstate
  case msgClass => simp [hcases] at hstate
  case msgId => simp [Pending, ubxUpdateRxChecksum, hclass]
  case lenL => simp [Pending, ubxUpdateRxChecksum, hclass]
  case lenH =>
    simp only
    split
    · simp [Pending, ubxResetParser]
    · split <;> simp [Pending, ubxUpdateRxChecksum, hclass]
  case payload =>
    simp only
    split <;> simp [Pending, ubxUpdateRxChecksum, hclass, hcases]
  case ckA => simp [Pending, hclass]
  case ckB =>
    refine ⟨.inl rfl, ?_⟩
    simp only
    split <;> simp [UbxRx.message, hclass]

theorem ubx_notMem_demuxText (callback : Bool) (line : NmeaLine) (byte : UInt8) (m : UbxMessage) :
    GnssEvent.ubx m ∉ (demuxText callback line byte).2 := by
  unfold demuxText
  split
  · simp
  · split
    · split
      · cases callback <;> simp
      · simp
    · split <;> simp

theorem processUartByte_busy (h : d.rx.state ≠ .syncSearch) (now : UInt64) (byte : UInt8) :
    (processUartByte d (now, byte)).1.rx = (ubxProcessByte d.rx byte).1 ∧
      ∀ m, GnssEvent.ubx m ∈ (processUartByte d (now, byte)).2 →
        m ∈ (ubxProcessByte d.rx byte).2 := by
  obtain ⟨ack, hubx⟩ := demuxUbx_eq byte d
  rw [processUartByte, if_pos h, hubx]
  simp

/-- Bytes that are no sync bytes bring messages of the pending class only. -/
theorem Pending.run {c : UInt8} (h : Pending c d.rx) (hbytes : ∀ p ∈ inputs, p.2 ≠ ubxSync1) :
    ∀ m, GnssEvent.ubx m ∈ (Machine.run processUartByte d inputs).2.flatten → m.msgClass = c := by
  induction inputs generalizing d with
  | nil => simp
  | cons p inputs ih =>
    obtain ⟨now, byte⟩ := p
    obtain ⟨hbyte, hbytes⟩ := List.forall_mem_cons.mp hbytes
    have hstep : Pending c (processUartByte d (now, byte)).1.rx ∧
        ∀ m, GnssEvent.ubx m ∈ (processUartByte d (now, byte)).2 → m.msgClass = c := by
      rcases h with hidle | ⟨hstate, hclass⟩
      · obtain ⟨arrivalUs, htext⟩ := processUartByte_text hidle now hbyte
        rw [htext]
        exact ⟨.inl hidle, fun m hm => absurd hm (ubx_notMem_demuxText _ _ _ m)⟩
      · obtain ⟨hrx, hmessages⟩ := processUartByte_busy (d := d)
          (fun hidle => by simp [hidle] at hstate) now byte
        obtain ⟨hpending, hclasses⟩ := ubxProcessByte_pending hstate hclass byte
        rw [hrx]
        exact ⟨hpending, fun m hm => hclasses m (hmessages m hm)⟩
    intro m hm
    rw [Machine.run_cons, List.flatten_cons, List.mem_append] at hm
    rcases hm with hm | hm
    · exact hstep.2 m hm
    · exact ih hstep.1 hbytes m hm

/-- The frame of class `k` without a payload. -/
def emptyFrame (k : UInt8) : UbxFrame := ⟨⟨k, 0, []⟩, by simp⟩

theorem emptyFrame_bytes (k : UInt8) (hk : k = 1 ∨ k = 2) :
    ∃ bs, (emptyFrame k).bytes = ubxSync1 :: bs ∧ ubxSync1 ∉ bs := by
  rcases hk with rfl | rfl <;> exact ⟨_, rfl, by decide⟩

/-- Inside a frame, some frame that follows is not delivered. -/
theorem exists_frame_lost (h : d.rx.state ∉ [.syncSearch, .sync2]) :
    ∃ f : UbxFrame, f.payload.length ≤ 64 ∧ ∀ inputs : List (UInt64 × UInt8),
      inputs.map Prod.snd = f.bytes →
      (Machine.run processUartByte d inputs).2.flatten ≠ [.ubx f.toUbxMessage] := by
  -- the sync byte is taken for the class, or the class is known already
  obtain ⟨c, hfirst⟩ : ∃ c, Pending c (ubxProcessByte d.rx ubxSync1).1 ∧
      ∀ m ∈ (ubxProcessByte d.rx ubxSync1).2, m.msgClass = c := by
    by_cases hclass : d.rx.state = .msgClass
    · exact ⟨ubxSync1, by simp [ubxProcessByte, hclass, Pending]⟩
    · have hstate : d.rx.state ∉ [.syncSearch, .sync2, .msgClass] := by
        simp only [List.mem_cons, List.not_mem_nil, or_false, not_or] at h ⊢
        exact ⟨h.1, h.2, hclass⟩
      exact ⟨d.rx.msgClass, ubxProcessByte_pending hstate rfl ubxSync1⟩
  obtain ⟨k, hk, hne⟩ : ∃ k : UInt8, (k = 1 ∨ k = 2) ∧ k ≠ c := by
    by_cases hc : c = 1
    · exact ⟨2, .inr rfl, by simp [hc]⟩
    · exact ⟨1, .inl rfl, fun h1 => hc h1.symm⟩
  refine ⟨emptyFrame k, by simp [emptyFrame], fun inputs hinputs hevents => ?_⟩
  obtain ⟨bs, hbytes, hplain⟩ := emptyFrame_bytes k hk
  rw [hbytes] at hinputs
  obtain ⟨⟨now, b⟩, later, rfl, hb, rfl⟩ := List.map_eq_cons_iff.mp hinputs
  simp only at hb
  subst hb
  obtain ⟨hrx, hmessages⟩ := processUartByte_busy (d := d) (fun hidle => by simp [hidle] at h) now
    ubxSync1
  have hmem : GnssEvent.ubx (emptyFrame k).toUbxMessage ∈
      (Machine.run processUartByte d ((now, ubxSync1) :: later)).2.flatten := by
    rw [hevents]
    exact List.mem_singleton_self _
  rw [Machine.run_cons, List.flatten_cons, List.mem_append] at hmem
  rcases hmem with hmem | hmem
  · exact hne (hfirst.2 _ (hmessages _ hmem))
  · refine hne (Pending.run (by rw [hrx]; exact hfirst.1) (fun p hp => ?_) _ hmem)
    intro hsync
    exact hplain (hsync ▸ List.mem_map_of_mem hp)

/-! ## Oversized frames -/

/-- Every sequence of messages after the frame is delivered, and nothing else is. -/
def SkipsCleanly (d : Demux) (f : UbxFrame) : Prop :=
  ∀ (messages : List GnssMessage) (chunks : List (List (UInt64 × UInt8))),
    chunks.flatten.map Prod.snd = f.bytes ++ messages.flatMap GnssMessage.bytes →
    (Machine.run processUartData d chunks).2.flatten = messages.flatMap GnssMessage.events

/-- A stream that is silent and after which messages are read from their beginning. -/
def Skippable (bs : Bytes) : Prop :=
  ∃ items e, Scan bs items e ∧ ¬ HoldsFrame items ∧ ¬ HoldsSentence (scanText items) ∧
    Resumes items e

theorem openLine_dollar {text : Bytes} : OpenLine text [dollar] ↔ text.getLast? = some dollar := by
  constructor
  · rintro ⟨before, rest, rfl, hrest, -⟩
    simp only [List.cons.injEq, true_and] at hrest
    simp [← hrest]
  · intro hlast
    obtain ⟨before, rfl⟩ := List.getLast?_eq_some_iff.mp hlast
    exact ⟨before, [], rfl, rfl, by simp, by simp⟩

theorem Demux.Idle.line_eq (h : d.Idle) : d.line = .empty := by
  have hnmea := h.nmea
  cases hline : d.line
  simp_all [NmeaLine.empty]

/-- Where the line buffer stands at the end of a stream. -/
theorem Scan.line_eq_dollar_iff {bs : Bytes} {items : List ScanItem} {e : ScanEnd}
    (hscan : Scan bs items e) (hidle : d.Idle) (hinputs : inputs.map Prod.snd = bs) :
    (Machine.run processUartByte d inputs).1.line.chars = [dollar] ↔
      (scanText items).getLast? = some dollar := by
  obtain ⟨-, hline, -, -⟩ := hscan.run hidle.ubx hinputs
  rw [hline, (run_items _ _ _).1, hidle.line_eq, run_demuxText_line _ _ (by simp), openLine_dollar]

/-- When a stream brings no calls. -/
theorem Scan.silent_iff {bs : Bytes} {items : List ScanItem} {e : ScanEnd}
    (hscan : Scan bs items e) (hidle : d.Idle) (hinputs : inputs.map Prod.snd = bs) :
    (Machine.run processUartByte d inputs).2.flatten = [] ↔
      ¬ HoldsFrame items ∧ ¬ HoldsSentence (scanText items) := by
  obtain ⟨-, -, -, hout⟩ := hscan.run hidle.ubx hinputs
  rw [hout, (run_items _ _ _).2, hidle.line_eq, run_demuxText_eq_nil]

theorem UbxFrame.scan_oversized {f : UbxFrame} (hlong : 64 < f.payload.length)
    {items : List ScanItem} {e : ScanEnd}
    (hscan : Scan (f.payload ++ [(ubxChecksum (f.header ++ f.payload)).1,
      (ubxChecksum (f.header ++ f.payload)).2]) items e) : Scan f.bytes items e := by
  have hlt := f.payload_lt
  have hlength : (UInt8.ofNat (f.payload.length % 256)).toNat +
      256 * (UInt8.ofNat (f.payload.length / 256)).toNat = f.payload.length := by
    rw [UInt8.toNat_ofNat', UInt8.toNat_ofNat']
    omega
  have hbytes := @Scan.oversized f.msgClass f.msgId _ _ _ _ _ (hlength ▸ hlong) hscan
  simpa [UbxFrame.bytes, UbxFrame.header] using hbytes

theorem plain_ptst : ∀ b ∈ ascii "PTST", b ∉ [dollar, star, cr, lf, 0, ubxSync1] := by
  decide +kernel

/-- A sentence to follow. -/
def ptst : NmeaSentence where
  body := ascii "PTST"
  hi := 48
  lo := 51
  plain := plain_ptst
  checksum := by decide
  long := by decide
  short := by decide

/-- After a stream that does not end between messages some message is lost. -/
theorem resumes_of_delivers {bs : Bytes} {items : List ScanItem} {e : ScanEnd}
    (hscan : Scan bs items e) (hidle : d.Idle) (hcallback : d.nmeaCallback = true)
    (hinputs : inputs.map Prod.snd = bs)
    (hdelivers : ∀ (m : GnssMessage) (after : List (UInt64 × UInt8)),
      after.map Prod.snd = m.bytes →
      (Machine.run processUartByte (Machine.run processUartByte d inputs).1 after).2.flatten =
        m.events) :
    Resumes items e := by
  obtain ⟨hend, -, hsame, -⟩ := hscan.run hidle.ubx hinputs
  have htimed : ∀ bs : Bytes, (bs.map fun b => ((0 : UInt64), b)).map Prod.snd = bs := by
    intro bs
    simp
  cases e with
  | done => exact .inl rfl
  | sync =>
    refine .inr ⟨rfl, (hscan.line_eq_dollar_iff hidle hinputs).mp ?_⟩
    exact (run_sentence_sync_iff ptst hend (htimed _) (hsame.trans hcallback)).mp
      (hdelivers (.nmea ptst) _ (htimed _))
  | opened =>
    obtain ⟨f, hf, hlost⟩ := exists_frame_lost hend
    exact absurd (hdelivers (.ubx f hf) _ (htimed _)) (hlost _ (htimed _))

/-- After a stream that ends between messages all are delivered. -/
theorem run_messages_of_resumes {bs : Bytes} {items : List ScanItem} {e : ScanEnd}
    (hscan : Scan bs items e) (hresumes : Resumes items e) (hidle : d.Idle)
    (hcallback : d.nmeaCallback = true) (hinputs : inputs.map Prod.snd = bs)
    (messages : List GnssMessage) {after : List (UInt64 × UInt8)}
    (hafter : after.map Prod.snd = messages.flatMap GnssMessage.bytes) :
    (Machine.run processUartByte (Machine.run processUartByte d inputs).1 after).2.flatten =
      messages.flatMap GnssMessage.events := by
  obtain ⟨hend, -, hsame, -⟩ := hscan.run hidle.ubx hinputs
  rcases hresumes with rfl | ⟨rfl, hlast⟩
  · exact (run_messages messages hafter hend (hsame.trans hcallback)).2.2
  · have hdollar := (hscan.line_eq_dollar_iff hidle hinputs).mpr hlast
    exact run_messages_sync messages hend hafter hdollar
      (hsame.trans hcallback)

/-- **When an oversized frame is skipped cleanly.** Exactly when its payload and checksum,
read as a stream, are silent and end between messages. -/
theorem skipsCleanly_iff (f : UbxFrame) (hlong : 64 < f.payload.length) (d : Demux)
    (hidle : d.Idle) (hcallback : d.nmeaCallback = true) :
    SkipsCleanly d f ↔
      Skippable (f.payload ++ [(ubxChecksum (f.header ++ f.payload)).1,
        (ubxChecksum (f.header ++ f.payload)).2]) := by
  constructor
  · intro hclean
    obtain ⟨items, e, hrest⟩ := Scan.exists (f.payload ++
      [(ubxChecksum (f.header ++ f.payload)).1, (ubxChecksum (f.header ++ f.payload)).2])
    have hscan := UbxFrame.scan_oversized hlong hrest
    -- the frame at time 0
    let inputs := f.bytes.map fun b => ((0 : UInt64), b)
    have hinputs : inputs.map Prod.snd = f.bytes := by simp [inputs]
    have hsilent : (Machine.run processUartByte d inputs).2.flatten = [] := by
      have halone := hclean [] [inputs] (by simp [hinputs])
      rw [(run_processUartData d [inputs]).2] at halone
      simpa using halone
    obtain ⟨hframe, hsentence⟩ := (hscan.silent_iff hidle hinputs).mp hsilent
    refine ⟨items, e, hrest, hframe, hsentence,
      resumes_of_delivers hscan hidle hcallback hinputs fun m after hafter => ?_⟩
    have hfollowed := hclean [m] [inputs ++ after] (by simp [hinputs, hafter])
    rw [(run_processUartData d [inputs ++ after]).2] at hfollowed
    simpa [Machine.run_append, hsilent] using hfollowed
  · rintro ⟨items, e, hrest, hframe, hsentence, hresumes⟩ messages chunks hchunks
    have hscan := UbxFrame.scan_oversized hlong hrest
    obtain ⟨before, after, hsplit, hbefore, hafter⟩ := List.map_eq_append_iff.mp hchunks
    have hsilent := (hscan.silent_iff hidle hbefore).mpr ⟨hframe, hsentence⟩
    rw [(run_processUartData d chunks).2, hsplit, Machine.run_append, List.flatten_append, hsilent,
      List.nil_append]
    exact run_messages_of_resumes hscan hresumes hidle hcallback hbefore messages hafter

/-- A frame of the length that is one too many, with zeros for a payload. -/
theorem skipsCleanly_iff_zeros :
    let f : UbxFrame := ⟨⟨1, 0, List.replicate 65 0⟩, by decide⟩
    SkipsCleanly Demux.initial f ↔
      Skippable (f.payload ++ [(ubxChecksum (f.header ++ f.payload)).1,
        (ubxChecksum (f.header ++ f.payload)).2]) :=
  skipsCleanly_iff _ (by decide) Demux.initial ⟨rfl, rfl⟩ rfl

/-- A frame with a sentence in its payload: the sentence is delivered. -/
theorem not_skipsCleanly_sentence :
    let f : UbxFrame := ⟨⟨1, 0, ptst.text ++ [cr, lf] ++ List.replicate 60 0⟩, by decide⟩
    ¬ SkipsCleanly Demux.initial f := by
  intro f hclean
  have halone := hclean [] [f.bytes.map fun b => (0, b)] (by simp)
  exact absurd halone (by decide +kernel)

/-! ## Noise -/

/-- Without a pair of sync bytes there is no frame. -/
theorem Scan.noFrame {bs : Bytes} {items : List ScanItem} {e : ScanEnd} (hscan : Scan bs items e)
    (h : ¬ [ubxSync1, ubxSync2] <:+: bs) : e ≠ .opened := by
  induction hscan with
  | done => simp
  | sync => simp
  | opened hpart => exact absurd ⟨[], _, rfl⟩ h
  | text hbyte rest ih => exact ih fun hin => h (hin.trans (List.suffix_cons _ _).isInfix)
  | again rest ih => exact ih fun hin => h (hin.trans (List.suffix_cons _ _).isInfix)
  | falseSync hbyte hbyte' rest ih =>
    exact ih fun hin => h (hin.trans (List.suffix_append [_, _] _).isInfix)
  | oversized hlong rest ih => exact absurd ⟨[], _, rfl⟩ h
  | frame hfits rest ih => exact absurd ⟨[], _, rfl⟩ h

/-- **When a sentence after noise is delivered.** Exactly when the noise does not end in a sync
byte, or the last byte outside its false beginnings of frames is a `$`. -/
theorem sentence_after_noise_iff (noise : Bytes) (hnoise : ¬ [ubxSync1, ubxSync2] <:+: noise)
    (s : NmeaSentence) (d : Demux) (hidle : d.Idle) (hcallback : d.nmeaCallback = true)
    (before after : List (UInt64 × UInt8)) (chunks : List (List (UInt64 × UInt8)))
    (hchunks : chunks.flatten = before ++ after) (hbefore : before.map Prod.snd = noise)
    (hafter : after.map Prod.snd = s.text ++ [cr, lf]) :
    (Machine.run processUartData d chunks).2.flatten =
        (processUartData d before).2 ++ (GnssMessage.nmea s).events ↔
      ∃ items e, Scan noise items e ∧ Resumes items e := by
  rw [(run_processUartData d chunks).2, hchunks, Machine.run_append, List.flatten_append,
    processUartData, List.append_cancel_left_eq]
  constructor
  · intro hdelivered
    obtain ⟨items, e, hscan⟩ := Scan.exists noise
    obtain ⟨hend, -, hsame, -⟩ := hscan.run hidle.ubx hbefore
    refine ⟨items, e, hscan, ?_⟩
    cases e with
    | done => exact .inl rfl
    | sync =>
      exact .inr ⟨rfl, (hscan.line_eq_dollar_iff hidle hbefore).mp
        ((run_sentence_sync_iff s hend hafter (hsame.trans hcallback)).mp hdelivered)⟩
    | opened => exact absurd rfl (hscan.noFrame hnoise)
  · rintro ⟨items, e, hscan, hresumes⟩
    simpa using run_messages_of_resumes hscan hresumes hidle hcallback hbefore [.nmea s]
      (by simpa [GnssMessage.bytes] using hafter)

theorem sentence_after_noise_iff_letter :
    let noise := ascii "x"
    let before := noise.map fun b => ((0 : UInt64), b)
    let after := (ptst.text ++ [cr, lf]).map fun b => ((1 : UInt64), b)
    (Machine.run processUartData Demux.initial [before, after]).2.flatten =
        (processUartData Demux.initial before).2 ++ (GnssMessage.nmea ptst).events ↔
      ∃ items e, Scan noise items e ∧ Resumes items e :=
  sentence_after_noise_iff (ascii "x") (by decide) ptst Demux.initial ⟨rfl, rfl⟩ rfl _ _ _
    (by rw [List.flatten_cons, List.flatten_cons, List.flatten_nil, List.append_nil])
    (by simp) (by simp)

/-- A single sync byte takes the `$` of the sentence with it. -/
theorem not_sentence_after_sync :
    let before := [((0 : UInt64), ubxSync1)]
    let after := (ptst.text ++ [cr, lf]).map fun b => ((1 : UInt64), b)
    ¬ (Machine.run processUartData Demux.initial [before, after]).2.flatten =
        (processUartData Demux.initial before).2 ++ (GnssMessage.nmea ptst).events := by
  decide +kernel

end TempoBt
