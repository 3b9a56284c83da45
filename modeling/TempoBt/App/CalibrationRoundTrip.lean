-- SUMMARY: A calibration sent by the host over USB and read back: the sentences of both sides through the receive path and the commands.
import TempoBt.App.LogFormat
import TempoBt.App.SettingsRequests
import TempoBt.Services.UsbRx

/-!
# Calibration over USB

The host sends a calibration as the numbers of a `CAL_SET` sentence, and reads it back
from the response to `CAL_GET`. In between are the line buffers of the receive path, two
checksums, and the printing and reading of six numbers.
-/

namespace TempoBt

open Bytes CString Lines Printf

/-! ## The host -/

/-- The line of `send_command` of the host tool, without its line end. -/
def commandLine (cmdBody : Bytes) : Bytes :=
  let sentence := ascii "$PCMD," ++ cmdBody
  sentence ++ star :: hex2 (xorSum sentence.tail)

/-- What `send_command` of the host tool writes. -/
def sendCommand (cmdBody : Bytes) : Bytes := commandLine cmdBody ++ [cr, lf]

/-- The offsets and scales, in the order of the sentences. -/
def MagCalibration.numbers (cal : MagCalibration) : List Int :=
  [cal.offsetX.toInt, cal.offsetY.toInt, cal.offsetZ.toInt, cal.scaleX.toNat, cal.scaleY.toNat,
    cal.scaleZ.toNat]

/-- The command of `upload_calibration`. -/
def calSetCommand (cal : MagCalibration) : Bytes := ascii "CAL_SET," ++ separated cal.numbers

/-- The fields of a response, between the verb and the checksum. -/
def responseFields (verb response : Bytes) : List Bytes :=
  ((response.drop verb.length).takeWhile (· != star)).splitOn separator

/-! ## The device -/

/-- `send_response`, for the text that `vsnprintf` makes: the line that is put out. What
`buf` holds behind the text does not matter. -/
def sendResponse (text : Bytes) : Option Bytes :=
  let size := logMaxSentenceLen.toNat
  if text.length = 0 ∨ size ≤ text.length then none
  else
    match nmeaAppendChecksum (text ++ 0 :: List.replicate (size - text.length - 1) 0) size with
    | some (buf, 0) => some (cstr buf)
    | _ => none

/-- The receive path with the commands behind it. -/
structure Console where
  rx : UsbRx
  ram : SettingsRam
  /-- The lines handed to `usb_tty_output_line`. -/
  output : List Bytes

/-- What a callback does under which the buffer changes: to the settings in RAM, and the
lines that it puts out. -/
abbrev TornCall := List Bytes → SettingsRam → SettingsRam × List Bytes

namespace Console

/-- `usb_cmd_process_line`, with a line that stays as it is. -/
def processLine (env : SettingsEnv) (c : Console) (line : Bytes) : Console :=
  let r := usbCmdProcessLine env line c.ram
  { c with
    ram := r.1
    output := c.output ++ (r.2.bind fun reply => sendResponse reply.sentence).toList }

/-- The receive callback, with the texts that it found in the buffer. -/
def processCall (env : SettingsEnv) (torn : TornCall) (c : Console) (texts : List Bytes) :
    Console :=
  match texts with
  | [text] => processLine env c text.dropLast
  | _ => { c with ram := (torn texts c.ram).1, output := c.output ++ (torn texts c.ram).2 }

/-- A step of the receive path; a call that has returned has processed its line. -/
def step (env : SettingsEnv) (torn : TornCall) (c : Console) (a : RxAction) : Console × Unit :=
  let rx := (c.rx.step a).1
  ((rx.delivered.drop c.rx.delivered.length).foldl (processCall env torn) { c with rx }, ())

/-- The console between lines, on a magnetometer that is ready: `main.c` lets commands
through on no other. -/
structure Ready (c : Console) : Prop where
  atRest : c.rx.AtRest
  initialized : c.ram.mag.initialized = true

/-- However the interrupts bring the bytes, the handler comes to its end, and then `P`
holds. -/
def Handles (env : SettingsEnv) (torn : TornCall) (c : Console) (bytes : Bytes)
    (P : Console → Prop) : Prop :=
  ∀ as, UsbRx.stream as = bytes →
    (∃ n, (Machine.run (step env torn) c (as ++ List.replicate n .worker)).1.rx.Idle) ∧
      ((Machine.run (step env torn) c as).1.rx.Idle → P (Machine.run (step env torn) c as).1)

theorem Handles.mono {env : SettingsEnv} {torn : TornCall} {c : Console} {bytes : Bytes}
    {P Q : Console → Prop} (h : c.Handles env torn bytes P) (hPQ : ∀ c', P c' → Q c') :
    c.Handles env torn bytes Q :=
  fun as hstream => ⟨(h as hstream).1, fun hidle => hPQ _ ((h as hstream).2 hidle)⟩

/-- An uploaded calibration is the current one and valid, and a query that follows is
answered with a response that the verifier accepts and whose fields read as the flag and the
six numbers. -/
def RoundTrips (env : SettingsEnv) (torn : TornCall) (c : Console) (cal : MagCalibration) :
    Prop :=
  c.Handles env torn (sendCommand (calSetCommand cal)) fun uploaded =>
    uploaded.ram.mag.cal = { cal with valid := true } ∧
    uploaded.Handles env torn (sendCommand (ascii "CAL_GET")) fun queried =>
      ∃ response, queried.output = uploaded.output ++ [response] ∧
        nmeaVerifyChecksum response = true ∧
        startsWith (ascii "$PRSP,CAL_GET,") response = true ∧
        (responseFields (ascii "$PRSP,CAL_GET,") response).map scanNumber =
          (1 :: cal.numbers).map fun n => some (n, [])

end Console

/-! ## Command lines -/

/-- A command body has no control characters and no `*`. -/
def IsBody (cmdBody : Bytes) : Prop := ∀ b ∈ cmdBody, 32 ≤ b.toNat ∧ b ≠ star

section Line

variable {cmdBody : Bytes}

instance (cmdBody : Bytes) : Decidable (IsBody cmdBody) :=
  List.decidableBAll _ _

theorem IsBody.append {as bs : Bytes} (has : IsBody as) (hbs : IsBody bs) : IsBody (as ++ bs) :=
  fun b hb => (List.mem_append.mp hb).elim (has b) (hbs b)

theorem IsBody.prefixed (h : IsBody cmdBody) : IsBody (ascii "PCMD," ++ cmdBody) :=
  .append (by decide) h

theorem IsBody.star_notMem (h : IsBody cmdBody) : star ∉ cmdBody := fun hb => (h star hb).2 rfl

theorem commandLine_eq (cmdBody : Bytes) : commandLine cmdBody =
    dollar :: (ascii "PCMD," ++ cmdBody) ++ star :: hex2 (xorSum (ascii "PCMD," ++ cmdBody)) :=
  rfl

theorem IsBody.printable (h : IsBody cmdBody) {b : UInt8} (hb : b ∈ commandLine cmdBody) :
    32 ≤ b.toNat := by
  rw [commandLine_eq] at hb
  rcases List.mem_append.mp hb with hb | hb
  · rcases List.mem_cons.mp hb with rfl | hb
    · decide
    · exact (h.prefixed b hb).1
  · rcases List.mem_cons.mp hb with rfl | hb
    · decide
    · have hhex := le_of_mem_hex2 hb
      omega

theorem IsBody.nmeaVerifyChecksum (h : IsBody cmdBody) :
    nmeaVerifyChecksum (commandLine cmdBody) = true := by
  rw [TempoBt.nmeaVerifyChecksum, commandLine_eq, checksumAccepts_iff]
  refine ⟨by simp [hex2, ascii], ascii "PCMD," ++ cmdBody, _, _, [], rfl,
    h.prefixed.star_notMem, ?_⟩
  exact (strtolU8_isHex (isHex_hex2 _)).symm

/-- The command text that the dispatcher finds. -/
theorem IsBody.cmdStart (h : IsBody cmdBody) : cstr ((commandLine cmdBody).drop 6) =
    cmdBody ++ star :: hex2 (xorSum (ascii "PCMD," ++ cmdBody)) := by
  refine cstr_of_no_nul fun hnul => ?_
  have hprintable := h.printable (List.mem_of_mem_drop hnul)
  exact absurd hprintable (by decide)

theorem IsBody.takeWhile (h : IsBody cmdBody) (rest : Bytes) :
    (cmdBody ++ star :: rest).takeWhile (· != star) = cmdBody := by
  rw [List.takeWhile_append_of_pos (fun b hb => bne_iff_ne.mpr (h b hb).2),
    List.takeWhile_cons_of_neg (by simp), List.append_nil]

/-- Of a line of the host, the dispatcher looks at the verb only. -/
theorem usbCommand_commandLine (h : IsBody cmdBody) : usbCommand (commandLine cmdBody) =
    let cmdStart := cmdBody ++ star :: hex2 (xorSum (ascii "PCMD," ++ cmdBody))
    if cmdBody = ascii "CAL_GET" then .calGet
    else if 8 < cmdBody.length ∧ startsWith (ascii "CAL_SET,") cmdBody = true then
      .calSet (cmdStart.drop 8)
    else if cmdBody = ascii "MODE_GET" then .modeGet
    else if 9 < cmdBody.length ∧ startsWith (ascii "MODE_SET,") cmdBody = true then
      .modeSet (cmdStart.drop 9)
    else .unknown := by
  have hstart : startsWith (ascii "$PCMD,") (commandLine cmdBody) = true := by
    rw [commandLine]
    simp only [List.append_assoc]
    exact startsWith_append _ _
  have hlength : ¬ (commandLine cmdBody).length < 6 := by
    simp [commandLine, ascii]
  have hstar : ¬ star ∉ cstr ((commandLine cmdBody).drop 6) := by
    rw [h.cmdStart]
    simp
  unfold usbCommand
  rw [if_neg (by simp [hlength, hstart]), if_neg (by simp [h.nmeaVerifyChecksum])]
  simp only [if_neg hstar]
  rw [h.cmdStart, h.takeWhile]

/-- The host's line is delivered by the receive path without its line end. -/
theorem sendCommand_received (h : IsBody cmdBody) : sendCommand cmdBody =
    (commandLine cmdBody ++ [cr]) ++ [newline] ∧ newline ∉ commandLine cmdBody ++ [cr] ∧
      stripCr (commandLine cmdBody ++ [cr]) = commandLine cmdBody := by
  refine ⟨by simp [sendCommand, lf, newline], ?_, ?_⟩
  · intro hb
    rcases List.mem_append.mp hb with hb | hb
    · exact absurd (h.printable hb) (by decide)
    · exact absurd hb (by decide)
  · simp [stripCr, cr]

end Line

/-! ## The console's runs -/

namespace Console

variable (env : SettingsEnv) (torn : TornCall)

theorem processCall_withRx (texts : List Bytes) (c : Console) (rx : UsbRx) :
    processCall env torn { c with rx } texts = { processCall env torn c texts with rx } := by
  unfold processCall
  split <;> rfl

theorem foldl_processCall_withRx (calls : List (List Bytes)) (c : Console) (rx : UsbRx) :
    calls.foldl (processCall env torn) { c with rx } =
      { calls.foldl (processCall env torn) c with rx } := by
  induction calls generalizing c with
  | nil => rfl
  | cons texts calls ih =>
    rw [List.foldl_cons, processCall_withRx]
    exact ih (processCall env torn c texts)

/-- A run of the console is one of the receive path, and the calls that return in it are
processed in their order. -/
theorem run_eq (c : Console) (as : List RxAction) :
    ∃ calls, (Machine.run UsbRx.step c.rx as).1.delivered = c.rx.delivered ++ calls ∧
      (Machine.run (step env torn) c as).1 = calls.foldl (processCall env torn)
        { c with rx := (Machine.run UsbRx.step c.rx as).1 } := by
  induction as generalizing c with
  | nil => exact ⟨[], (List.append_nil _).symm, rfl⟩
  | cons a as ih =>
    obtain ⟨new, hnew⟩ := UsbRx.delivered_prefix c.rx a
    obtain ⟨calls, hcalls, hrun⟩ := ih (step env torn c a).1
    have hstep : (step env torn c a).1 =
        { new.foldl (processCall env torn) c with rx := (c.rx.step a).1 } := by
      rw [step, ← hnew, List.drop_left, foldl_processCall_withRx]
    rw [hstep] at hcalls hrun
    refine ⟨new ++ calls, ?_, ?_⟩
    · rw [Machine.run_cons_fst, hcalls, ← hnew, List.append_assoc]
    · rw [Machine.run_cons_fst, Machine.run_cons_fst, hstep, hrun, List.foldl_append]
      simp only [foldl_processCall_withRx]

variable {env torn}

theorem run_rx (c : Console) (as : List RxAction) :
    (Machine.run (step env torn) c as).1.rx = (Machine.run UsbRx.step c.rx as).1 := by
  obtain ⟨calls, -, hrun⟩ := run_eq env torn c as
  rw [hrun, foldl_processCall_withRx]

theorem processCall_call (c : Console) (line : Bytes) :
    processCall env torn c (UsbRx.call line) = processLine env c line := by
  simp only [UsbRx.call, processCall, List.dropLast_concat]

/-- A command of the host that fits is processed, and nothing else. -/
theorem Ready.handles {c : Console} {P : Console → Prop} (h : c.Ready) {cmdBody : Bytes}
    (hbody : IsBody cmdBody) (hlength : (commandLine cmdBody).length + 2 < usbTtyRxLineSize)
    (hP : ∀ rx : UsbRx, rx.AtRest → P (processLine env { c with rx } (commandLine cmdBody))) :
    c.Handles env torn (sendCommand cmdBody) P := by
  obtain ⟨hline, hnewline, hstrip⟩ := sendCommand_received hbody
  intro as hstream
  have hne : stripCr (commandLine cmdBody ++ [cr]) ≠ [] := by
    rw [hstrip, commandLine_eq]
    exact List.cons_ne_nil _ _
  obtain ⟨hends, hdone⟩ := h.atRest.receive hnewline (by simpa using hlength) hne
    (hstream.trans hline)
  simp only [run_rx]
  refine ⟨hends, fun hidle => ?_⟩
  obtain ⟨hdelivered, hrest⟩ := hdone hidle
  obtain ⟨calls, hcalls, hrun⟩ := run_eq env torn c as
  rw [hcalls, List.append_cancel_left_eq, hstrip] at hdelivered
  rw [hrun, hdelivered, List.foldl_cons, List.foldl_nil, processCall_call]
  exact hP _ hrest

end Console

/-! ## The calibration -/

namespace MagCalibration

variable (cal : MagCalibration)

theorem natAbs_numbers : ∀ n ∈ cal.numbers, n.natAbs < 10 ^ 10 := by
  have hx := cal.offsetX.toInt_lt
  have hx' := cal.offsetX.le_toInt
  have hy := cal.offsetY.toInt_lt
  have hy' := cal.offsetY.le_toInt
  have hz := cal.offsetZ.toInt_lt
  have hz' := cal.offsetZ.le_toInt
  have hsx := cal.scaleX.toNat_lt
  have hsy := cal.scaleY.toNat_lt
  have hsz := cal.scaleZ.toNat_lt
  simp only [numbers, List.mem_cons, List.not_mem_nil, or_false]
  rintro n (rfl | rfl | rfl | rfl | rfl | rfl) <;> omega

theorem isBody_separated (ns : List Int) : IsBody (separated ns) := by
  intro b hb
  rcases mem_separated hb with rfl | rfl | hdecimal
  · decide
  · decide
  · simp only [isDecimal, Bool.and_eq_true, decide_eq_true_eq, UInt8.le_iff_toNat_le] at hdecimal
    have hlow : 48 ≤ b.toNat := hdecimal.1
    refine ⟨by omega, ?_⟩
    rintro rfl
    exact absurd hlow (by decide)

theorem isBody_calSetCommand : IsBody (calSetCommand cal) :=
  .append (by decide) (isBody_separated cal.numbers)

theorem length_separated (ns : List Int) (hns : ∀ n ∈ ns, n.natAbs < 10 ^ 10) :
    (separated ns).length ≤ 12 * ns.length :=
  length_separated_le fun n hn => length_decimalInt_le (by decide) (hns n hn)

theorem length_commandLine : (commandLine (calSetCommand cal)).length + 2 < usbTtyRxLineSize := by
  have hnumbers := length_separated cal.numbers cal.natAbs_numbers
  have hsize : usbTtyRxLineSize = 128 := rfl
  have hcount : cal.numbers.length = 6 := rfl
  have hverb : (ascii "$PCMD,").length = 6 ∧ (ascii "CAL_SET,").length = 8 := ⟨rfl, rfl⟩
  simp only [commandLine, calSetCommand, List.length_append, List.length_cons, hex2,
    List.length_nil]
  omega

/-! ### Set -/

theorem usbCommand_calSet : ∃ rest : Bytes, Stops rest ∧ rest.head? ≠ some separator ∧
    usbCommand (commandLine (calSetCommand cal)) = .calSet (separated cal.numbers ++ rest) := by
  refine ⟨star :: hex2 (xorSum (ascii "PCMD," ++ calSetCommand cal)), ?_, ?_, ?_⟩
  · rintro b ⟨rfl⟩
    rfl
  · exact fun h => absurd (Option.some.inj h) (by decide)
  · have hlength : 8 < (calSetCommand cal).length := by
      have hfirst : decimalInt cal.offsetX.toInt ≠ [] := by
        unfold decimalInt
        split
        · exact List.cons_ne_nil _ _
        · exact decimal_ne_nil _
      have hpos := List.length_pos_iff.mpr hfirst
      rw [calSetCommand, numbers, separated_cons, List.length_append, List.length_append]
      have hverb : (ascii "CAL_SET,").length = 8 := rfl
      omega
    have hverb : calSetCommand cal ≠ ascii "CAL_GET" := by
      intro heq
      rw [heq] at hlength
      exact absurd hlength (by decide)
    rw [usbCommand_commandLine cal.isBody_calSetCommand, if_neg hverb,
      if_pos ⟨hlength, startsWith_append _ _⟩]
    rfl

theorem scanInt32_toInt (other : Int → UInt32) (x : Int32) : scanInt32 other x.toInt = x := by
  rw [scanInt32, if_pos ⟨x.le_toInt, x.toInt_lt⟩, Int32.ofInt_toInt]

theorem scanUInt32_toNat (other : Int → UInt32) (x : UInt16) :
    scanUInt32 other x.toNat = x.toUInt32 := by
  have hlt := x.toNat_lt
  rw [scanUInt32, if_pos (by omega)]
  apply UInt32.toNat_inj.mp
  simp

theorem cmdCalSet_numbers (env : SettingsEnv) (m : Mag) {rest : Bytes} (hrest : Stops rest)
    (hsep : rest.head? ≠ some separator) :
    cmdCalSet env (separated cal.numbers ++ rest) m =
      magCalSetAndSave env.save { cal with valid := true } m := by
  have hscan : scanNumbers 6 (separated cal.numbers ++ rest) = cal.numbers :=
    scanNumbers_separated cal.numbers hrest hsep
  have hfits (x : UInt16) : ¬ 65535 < x.toUInt32.toNat := by
    have hlt := x.toNat_lt
    rw [UInt16.toNat_toUInt32]
    omega
  rw [cmdCalSet, hscan]
  simp only [numbers, scanInt32_toInt, scanUInt32_toNat, hfits, or_self, if_false,
    UInt16.toUInt16_toUInt32]

/-- The calibration is set and saved, and the command acknowledged. -/
theorem usbCmdProcessLine_calSet {env : SettingsEnv} {ram : SettingsRam}
    (hactive : env.cmdActive = true) (hsave : 0 ≤ env.save (ascii "mag/cal"))
    (hinitialized : ram.mag.initialized = true) :
    usbCmdProcessLine env (commandLine (calSetCommand cal)) ram =
      ({ ram with mag := { ram.mag with cal := { cal with valid := true } } },
        some (.calSet 0)) := by
  obtain ⟨rest, hrest, hsep, hcommand⟩ := cal.usbCommand_calSet
  rw [usbCmdProcessLine, if_pos hactive, hcommand]
  simp only [cal.cmdCalSet_numbers env ram.mag hrest hsep, magCalSetAndSave, magCalSet,
    if_pos hinitialized, magCalSave, if_neg (Int.not_lt.mpr hsave)]
  rfl

/-! ### Get -/

theorem sentence_calGet (hvalid : cal.valid = true) :
    (UsbReply.calGet cal).sentence =
      dollar :: (ascii "PRSP,CAL_GET," ++ separated (1 :: cal.numbers)) := by
  have hstart : ascii "$PRSP,CAL_GET," = dollar :: ascii "PRSP,CAL_GET," := rfl
  have hone : decimalInt 1 = ascii "1" := by decide
  have hcomma : ascii "," = [separator] := by decide
  simp [UsbReply.sentence, hvalid, hstart, numbers, separated, List.intercalate, hone, hcomma]

end MagCalibration

theorem isBody_response (ns : List Int) : IsBody (ascii "PRSP,CAL_GET," ++ separated ns) :=
  .append (by decide) (MagCalibration.isBody_separated ns)

/-- A response that fits is sent with its checksum. -/
theorem sendResponse_of_fits {body : Bytes} (hbody : IsBody body) (hlength : body.length ≤ 121) :
    sendResponse (dollar :: body) = some (withChecksum (dollar :: body)) := by
  have hnul : 0 ∉ body := fun h => absurd (hbody 0 h).1 (by decide)
  have hsize : logMaxSentenceLen.toNat = 128 := rfl
  have hread (rest : Bytes) : cstr (withChecksum (dollar :: body) ++ 0 :: rest) =
      withChecksum (dollar :: body) := by
    refine cstr_append_nul ?_ rest
    simp only [withChecksum, checksumTail, List.mem_append, List.mem_cons, not_or]
    refine ⟨⟨by decide, hnul⟩, ⟨by decide, fun h => ?_⟩, by decide⟩
    exact absurd (le_of_mem_hex2 h) (by decide)
  simp only [sendResponse, hsize]
  rw [if_neg (by simp; omega), nmeaAppendChecksum_of_fits hbody.star_notMem hnul (by omega)
    (by simp; omega)]
  simp only [hread]

/-- The numbers of a response are read back from its fields. -/
theorem responseFields_separated (verb : Bytes) {ns : List Int} (hns : ns ≠ []) :
    (responseFields verb (withChecksum (verb ++ separated ns))).map scanNumber =
      ns.map fun n => some (n, []) := by
  have hbody := MagCalibration.isBody_separated ns
  have htext : ((withChecksum (verb ++ separated ns)).drop verb.length).takeWhile (· != star) =
      separated ns := by
    rw [withChecksum, List.append_assoc, List.drop_left, checksumTail, List.cons_append,
      hbody.takeWhile]
  rw [responseFields, htext, splitOn_separated hns, List.map_map]
  refine List.map_congr_left fun n _ => ?_
  have hend : Stops [] := fun b hb => absurd hb (by simp)
  simpa using scanNumber_decimalInt n hend

namespace Console

variable {env : SettingsEnv} {torn : TornCall} {c : Console}

/-- A line that is answered. -/
theorem processLine_reply {line body : Bytes} {ram : SettingsRam} {reply : UsbReply}
    (hline : usbCmdProcessLine env line c.ram = (ram, some reply))
    (hreply : reply.sentence = dollar :: body) (hbody : IsBody body) (hlength : body.length ≤ 121) :
    processLine env c line =
      { c with ram, output := c.output ++ [withChecksum (dollar :: body)] } := by
  rw [processLine, hline]
  simp only [Option.bind_some, hreply, sendResponse_of_fits hbody hlength, Option.toList_some]

variable (hactive : env.cmdActive = true)

include hactive

/-- An upload makes the calibration the current one and is acknowledged. -/
theorem Ready.handles_calSet (h : c.Ready) (cal : MagCalibration)
    (hsave : 0 ≤ env.save (ascii "mag/cal")) :
    c.Handles env torn (sendCommand (calSetCommand cal)) fun uploaded =>
      uploaded.Ready ∧ uploaded.ram.mag.cal = { cal with valid := true } ∧
        uploaded.output = c.output ++ [withChecksum (ascii "$PRSP,CAL_SET,OK")] := by
  refine h.handles cal.isBody_calSetCommand cal.length_commandLine fun rx hrest => ?_
  rw [processLine_reply (c := { c with rx })
    (cal.usbCmdProcessLine_calSet hactive hsave h.initialized) rfl (by decide) (by decide)]
  exact ⟨⟨hrest, h.initialized⟩, rfl, rfl⟩

/-- A query is answered with the current calibration, and changes nothing. -/
theorem Ready.handles_calGet (h : c.Ready) (hvalid : c.ram.mag.cal.valid = true) :
    c.Handles env torn (sendCommand (ascii "CAL_GET")) fun queried =>
      queried.ram = c.ram ∧ queried.output = c.output ++
        [withChecksum (dollar :: (ascii "PRSP,CAL_GET," ++
          separated (1 :: c.ram.mag.cal.numbers)))] := by
  have hcommand : usbCommand (commandLine (ascii "CAL_GET")) = .calGet := rfl
  have hline : usbCmdProcessLine env (commandLine (ascii "CAL_GET")) c.ram =
      (c.ram, some (.calGet c.ram.mag.cal)) := by
    rw [usbCmdProcessLine, if_pos hactive, hcommand]
  have hlength := MagCalibration.length_separated (1 :: c.ram.mag.cal.numbers)
    (by simpa using c.ram.mag.cal.natAbs_numbers)
  refine h.handles (by decide) (by decide) fun rx _ => ?_
  rw [processLine_reply (c := { c with rx }) hline (c.ram.mag.cal.sentence_calGet hvalid)]
  · exact ⟨rfl, rfl⟩
  · exact isBody_response _
  · have hcount : (1 :: c.ram.mag.cal.numbers).length = 7 := rfl
    have hstart : (ascii "PRSP,CAL_GET,").length = 13 := rfl
    rw [List.length_append, hstart]
    omega

end Console

/-- A calibration survives the way to the device and back: it becomes the current one, and
the answer to a query holds it. -/
theorem calibration_roundTrip {env : SettingsEnv} {torn : TornCall} {c : Console}
    (cal : MagCalibration) (hactive : env.cmdActive = true)
    (hsave : 0 ≤ env.save (ascii "mag/cal")) (hready : c.Ready) :
    c.RoundTrips env torn cal := by
  have hverb : ascii "$PRSP,CAL_GET," = dollar :: ascii "PRSP,CAL_GET," := rfl
  refine (hready.handles_calSet hactive cal hsave).mono fun uploaded huploaded => ?_
  obtain ⟨hready', hcal, -⟩ := huploaded
  refine ⟨hcal, (hready'.handles_calGet hactive (by rw [hcal])).mono fun queried hqueried => ?_⟩
  rw [hcal] at hqueried
  refine ⟨_, hqueried.2, ?_, ?_, ?_⟩
  · refine checksumAccepts_withChecksum ?_ (isBody_response _).star_notMem
    rw [List.length_append]
    exact Nat.le_add_right_of_le (by decide)
  · rw [hverb, withChecksum, ← List.cons_append, List.append_assoc]
    exact startsWith_append _ _
  · rw [hverb, ← List.cons_append]
    exact responseFields_separated _ (List.cons_ne_nil _ _)

/-- The longest sentences: all signs, and all numbers with as many digits as they can have. -/
def longestCalibration : MagCalibration where
  offsetX := -2147483648
  offsetY := -2147483648
  offsetZ := -2147483648
  scaleX := 65535
  scaleY := 65535
  scaleZ := 65535
  valid := true

/-- The default settings, and a magnetometer that has been initialised. -/
def Console.initial : Console where
  rx := .initial
  ram :=
    { app := .initial
      mag := { initialized := true, cal := ⟨0, 0, 0, 1000, 1000, 1000, false⟩ } }
  output := []

theorem calibration_roundTrip_longest : Console.initial.RoundTrips
    { save := fun _ => 0, encodes := true, cmdActive := true, scanned := fun _ => 0 }
    (fun _ ram => (ram, [])) longestCalibration :=
  calibration_roundTrip longestCalibration rfl (Int.le_refl 0) ⟨.initial, rfl⟩

end TempoBt
