-- SUMMARY: The names of session folders are made of the time, and the listing of the sessions is therefore by day, the newest first.
import TempoBt.App.SessionList
import TempoBt.Services.DateTime
import TempoBt.Services.Logger

/-!
# Days of sessions

`create_session_directory` names a folder for the day, and `tempo_mgmt_session_list` sorts
the names of folders as texts.
-/

namespace TempoBt

open Bytes CString Printf Calendar

/-! ## Names -/

/-- A session by the second in which it was started and the name of its folder. -/
structure RecordedSession where
  start : Nat
  folder : Bytes
  deriving DecidableEq

namespace RecordedSession

/-- The session that `create_session_directory` makes a path for, started at the time of
`CLOCK_REALTIME`, or else the uptime. -/
def created (e : StartEnv) (d : Device) : RecordedSession :=
  let now := e.realtime.getD (d.logger.sessionStartUs.toNat / 1000000)
  { start := now
    folder := if d.logger.config.useUuidNames then hex8 d.logger.sessionId else timeFolder now }

def day (s : RecordedSession) : Nat := s.start / 86400

/-- The names of its two folders. -/
def key (s : RecordedSession) : Bytes × Bytes := (dateFolder s.start, s.folder)

/-- By day, the newest first, and by name in a day. -/
def ListedBefore (s s' : RecordedSession) : Prop :=
  s'.day < s.day ∨ s.day = s'.day ∧ s.folder < s'.folder

end RecordedSession

/-- The path of a session in the folder of its day. -/
theorem createSessionDirectory_path (e : StartEnv) (d : Device)
    (hfolders : d.logger.config.useDateFolders = true) :
    (createSessionDirectory e d).1.logger.sessionPath =
      d.logger.config.basePath ++ ascii "/" ++ keyText (RecordedSession.created e d).key := by
  rw [createSessionDirectory, hfolders, if_pos rfl]
  simp only [keyText, RecordedSession.key, RecordedSession.created, List.append_assoc]
  rfl

/-! ## The order of the names -/

/-- The digits of a date in one number. -/
def dateNumber (d : Date) : Nat := (d.year * 100 + d.month) * 100 + d.day

theorem dateNumber_lt_iff (d e : Date) : dateNumber d < dateNumber e ↔ d.Before e := by
  have hd := d.month_lt
  have hd' := d.day_lt
  have he := e.month_lt
  have he' := e.day_lt
  unfold dateNumber Date.Before
  omega

theorem dateFolder_eq {sec : Nat} (hyear : (dateOf (sec / 86400)).year < 10000) :
    dateFolder sec = lowDigits 8 (dateNumber (dateOf (sec / 86400))) := by
  have hlow := (dateOf (sec / 86400)).year_le
  have hyear' : (gmtimeR sec).year + 1900 = (dateOf (sec / 86400)).year := Int.sub_add_cancel _ _
  have hmon : (gmtimeR sec).mon + 1 = (dateOf (sec / 86400)).month := Int.sub_add_cancel _ _
  have hmday : (gmtimeR sec).mday = (dateOf (sec / 86400)).day := rfl
  have hdecimal : decimalInt (dateOf (sec / 86400)).year =
      lowDigits 4 (dateOf (sec / 86400)).year := by
    rw [decimalInt, if_neg (Int.not_lt.mpr (Int.natCast_nonneg _)), Int.natAbs_natCast]
    exact decimal_eq_lowDigits (by omega) hyear
  unfold dateFolder
  dsimp only
  rw [hyear', hmon, hmday, hdecimal, zeroPadded_two (Date.month_lt _),
    zeroPadded_two (Date.day_lt _), lowDigits_append (Date.month_lt _),
    lowDigits_append (Date.day_lt _)]
  rfl

/-- The folders of days before the year 10000 are ordered as the days. -/
theorem dateFolder_lt_iff {sec sec' : Nat} (h : sec < 253402300800) (h' : sec' < 253402300800) :
    dateFolder sec < dateFolder sec' ↔ sec / 86400 < sec' / 86400 := by
  have hyear {sec : Nat} (h : sec < 253402300800) : (dateOf (sec / 86400)).year < 10000 := by
    rw [Date.year_lt_iff _ (by norm_num), dayNumber_dateOf]
    exact Nat.div_lt_of_lt_mul h
  have hnumber {sec : Nat} (h : sec < 253402300800) :
      dateNumber (dateOf (sec / 86400)) < 10 ^ 8 := by
    have := hyear h
    have := (dateOf (sec / 86400)).month_lt
    have := (dateOf (sec / 86400)).day_lt
    unfold dateNumber
    omega
  rw [dateFolder_eq (hyear h), dateFolder_eq (hyear h'), lowDigits_lt_iff (hnumber h) (hnumber h'),
    dateNumber_lt_iff, ← Date.dayNumber_lt_iff, dayNumber_dateOf, dayNumber_dateOf]

theorem dateFolder_inj {sec sec' : Nat} (h : sec < 253402300800) (h' : sec' < 253402300800) :
    dateFolder sec = dateFolder sec' ↔ sec / 86400 = sec' / 86400 := by
  have hlt := dateFolder_lt_iff h h'
  have hgt := dateFolder_lt_iff h' h
  constructor
  · intro heq
    have hirrefl := List.lt_irrefl (dateFolder sec')
    rw [heq] at hlt hgt
    have hnot := mt hlt.mpr hirrefl
    have hnot' := mt hgt.mpr hirrefl
    omega
  · intro heq
    unfold dateFolder gmtimeR dateTimeOf
    rw [heq]
    rfl

/-! ## The listing -/

/-- A list with the items of an image is the image of a list with the same items. -/
theorem exists_map_of_perm {α β : Type*} {f : α → β} {m : List α} {l : List β}
    (h : l.Perm (m.map f)) : ∃ m' : List α, m'.Perm m ∧ m'.map f = l := by
  induction m generalizing l with
  | nil => exact ⟨[], .nil, h.eq_nil.symm⟩
  | cons a m ih =>
    obtain ⟨front, back, rfl⟩ := List.append_of_mem (h.mem_iff.mpr List.mem_cons_self)
    obtain ⟨m', hperm, hmap⟩ := ih (List.perm_middle.symm.trans h).cons_inv
    obtain ⟨front', back', rfl, rfl, rfl⟩ := List.map_eq_append_iff.mp hmap
    exact ⟨front' ++ a :: back', List.perm_middle.trans (hperm.cons a), by simp⟩

/-- The tree holds these sessions. -/
structure Holds (t : SessionTree) (sessions : List RecordedSession) : Prop where
  keys : t.keys.Perm (sessions.map RecordedSession.key)
  start_lt : ∀ s ∈ sessions, s.start < 253402300800

theorem listedBefore_iff {s s' : RecordedSession} (h : s.start < 253402300800)
    (h' : s'.start < 253402300800) : TempoBt.ListedBefore s.key s'.key ↔ s.ListedBefore s' :=
  or_congr (dateFolder_lt_iff h' h) (and_congr (dateFolder_inj h h') Iff.rfl)

/-- The sessions of a tree are listed, over as many pages as the responses announce, by the
day in UTC on which they were started, the newest first, and by name in a day. -/
def ListedByDay (b : StorageBackend) (dirs : UInt32 → Bytes → DirListing)
    (sessions : List RecordedSession) : Prop :=
  ∃ (order : List RecordedSession) (responses : UInt32 → SessionListResponse) (pages : Nat),
    order.Perm sessions ∧ order.Pairwise RecordedSession.ListedBefore ∧
      (∀ page : UInt32, tempoMgmtSessionList b (dirs page) (pageRequest page.toNat) =
        some (.ok (responses page))) ∧
      (∀ page, (responses page).totalPages.toNat = pages) ∧
      (List.range pages).flatMap (fun page => (responses (UInt32.ofNat page)).sessions) =
        order.map fun s => keyText s.key

theorem listedByDay_of_holds {b : StorageBackend} {t : SessionTree}
    {sessions : List RecordedSession} (hholds : Holds t sessions)
    {dirs : UInt32 → Bytes → DirListing} (hanswers : ∀ page, Answers b (dirs page) t) :
    ListedByDay b dirs sessions := by
  obtain ⟨keys, hpages, hperm, hsorted, -⟩ := t.response_complete.complete
  obtain ⟨order, horder, rfl⟩ := exists_map_of_perm (hperm.trans hholds.keys)
  refine ⟨order, t.response, (t.listed.length + 63) / 64, horder, ?_, ?_,
    t.response_complete.totalPages, ?_⟩
  · rw [List.pairwise_map] at hsorted
    refine hsorted.imp_of_mem fun hs hs' hbefore => ?_
    have hstart := hholds.start_lt _ (horder.mem_iff.mp hs)
    have hstart' := hholds.start_lt _ (horder.mem_iff.mp hs')
    exact (listedBefore_iff hstart hstart').mp hbefore
  · exact fun page => tempoMgmtSessionList_eq (hanswers page) (asks_pageRequest page)
  · rw [hpages, List.map_map]
    rfl

/-- A session's path is that of its day and its name, and the sessions are listed by day. -/
theorem sessionList_by_day {b : StorageBackend} {t : SessionTree}
    {sessions : List RecordedSession} (hholds : Holds t sessions)
    {dirs : UInt32 → Bytes → DirListing} (hanswers : ∀ page, Answers b (dirs page) t)
    (e : StartEnv) (d : Device) (hfolders : d.logger.config.useDateFolders = true) :
    (createSessionDirectory e d).1.logger.sessionPath =
        d.logger.config.basePath ++ ascii "/" ++ keyText (RecordedSession.created e d).key ∧
      ListedByDay b dirs sessions :=
  ⟨createSessionDirectory_path e d hfolders, listedByDay_of_holds hholds hanswers⟩

/-- A device that is about to start a session. -/
def exampleDevice (id : UInt32) : Device :=
  (Device.initial (loggerCfg false) true ⟨[], [], [], 0⟩).newSession id 5000000

/-- The sessions of the tree, as they were started: at noon, a second before midnight, and
at midnight. -/
def exampleSessions : List RecordedSession :=
  [⟨1735732800, ascii "0000002A"⟩, ⟨1735775999, ascii "00000007"⟩, ⟨1735776000, ascii "000000FF"⟩]

theorem sessionList_by_day_exampleTree :
    (createSessionDirectory .working (exampleDevice 7)).1.logger.sessionPath =
        ascii "/logs/20250101/00000007" ∧
      ListedByDay .fatfs (fun _ => exampleDirs) exampleSessions := by
  have hholds : Holds exampleTree exampleSessions := ⟨by decide +kernel, by decide⟩
  have hanswers : Answers .fatfs exampleDirs exampleTree := by decide +kernel
  obtain ⟨hpath, hlisted⟩ :=
    sessionList_by_day hholds (fun _ => hanswers) .working (exampleDevice 7) rfl
  refine ⟨hpath.trans ?_, hlisted⟩
  decide +kernel

end TempoBt
