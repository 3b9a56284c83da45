-- SUMMARY: What the session listing loses to failing directories, long names and its limits, and the storage for which an incomplete listing is marked as truncated.
import TempoBt.App.SessionPages
import Mathlib.Data.List.Count

/-!
# Losses of the session list

A listing can lose sessions to a directory that does not open, to a read that fails, to a
name that is cut off, and to its limits. Only the limits are reported. The storage here is
any tree, and the answers of the file system are any part of it.
-/

namespace TempoBt

open CString

/-! ## Trees and failures -/

/-- The directories below `/logs`, without limits. -/
structure LogTree where
  dates : List Bytes
  sessions : Bytes → List Bytes
  dates_names : ∀ date ∈ dates, FileName date
  dates_nodup : dates.Nodup
  sessions_names : ∀ date, ∀ session ∈ sessions date, FileName session
  sessions_nodup : ∀ date, (sessions date).Nodup
  sessions_nil : ∀ date, date ∉ dates → sessions date = []

/-- The sessions, by the names of the date and the session directory. -/
def LogTree.keys (t : LogTree) : List (Bytes × Bytes) :=
  t.dates.flatMap fun date => (t.sessions date).map fun session => (date, session)

/-- A listing that fails, or that gives some of the subdirectories `names`. -/
structure GivesPart (names : List Bytes) (dir : DirListing) : Prop where
  part : dir.ret = 0 → (subdirNames dir.entries).Subperm names
  named : ∀ e ∈ dir.entries, e.name ≠ [] ∧ 47 ∉ e.name

/-- The file system answers every listing with some of what the tree has there, or with an
error. -/
structure Fails (b : StorageBackend) (dirs : Bytes → DirListing) (t : LogTree) : Prop where
  dates : ∀ physical ∈ physicalPath b (ascii "/logs") .listDir,
    GivesPart t.dates (dirs physical)
  sessions : ∀ date, DirName date →
    ∀ physical ∈ physicalPath b (ascii "/logs/" ++ date) .listDir,
      GivesPart (t.sessions date) (dirs physical)

/-- The subdirectories that the listing of a path gives. -/
def givenAt (b : StorageBackend) (dirs : Bytes → DirListing) (path : Bytes) : List Bytes :=
  match physicalPath b path .listDir with
  | some physical => if (dirs physical).ret = 0 then subdirNames (dirs physical).entries else []
  | none => []

/-- There are no more than `room` subdirectories among the entries, and all paths fit. -/
def EntriesWithin (b : StorageBackend) (path : Bytes) (room : Nat) (entries : List DirEntry) :
    Prop :=
  (subdirNames entries).length ≤ room ∧
    ∀ e ∈ entries, ¬ (e.name = ascii "." ∨ e.name = ascii "..") → PathFits b path e.name

/-- The listing of a path meets no limit. -/
def WithinLimits (b : StorageBackend) (dirs : Bytes → DirListing) (path : Bytes) : Prop :=
  ∀ physical ∈ physicalPath b path .listDir, (dirs physical).ret = 0 →
    EntriesWithin b path 64 (dirs physical).entries

/-- The part of a name that the listing keeps. -/
def keptName (name : Bytes) : Bytes := copied sessionNameLen name

/-- No listing of the walk meets a limit. -/
structure WalkWithin (b : StorageBackend) (dirs : Bytes → DirListing) : Prop where
  dates : WithinLimits b dirs (ascii "/logs")
  sessions : ∀ name ∈ givenAt b dirs (ascii "/logs"),
    WithinLimits b dirs (ascii "/logs/" ++ keptName name)

/-- Nothing is lost: each date with sessions is the kept part of one name that the listing
of the dates gives, and the listing of the date gives all its sessions, with short names. -/
def NothingLost (b : StorageBackend) (dirs : Bytes → DirListing) (t : LogTree) : Prop :=
  ∀ date ∈ t.dates, t.sessions date ≠ [] →
    List.count date ((givenAt b dirs (ascii "/logs")).map keptName) = 1 ∧
      ∀ session ∈ t.sessions date,
        session.length ≤ 15 ∧ session ∈ givenAt b dirs (ascii "/logs/" ++ date)

/-- Where all pages are answered and none is marked as truncated, they hold every key
once. -/
def SaysIncomplete (b : StorageBackend) (dirs : UInt32 → Bytes → DirListing) (t : LogTree) :
    Prop :=
  ∀ (requests : UInt32 → SmpRequest) (responses : UInt32 → SessionListResponse),
    (∀ page, Asks (requests page) page) →
    (∀ page, page = 0 ∨ page < (responses 0).totalPages →
      tempoMgmtSessionList b (dirs page) (requests page) = some (.ok (responses page)) ∧
        (responses page).truncated = false) →
    ∀ key ∈ t.keys,
      List.count (keyText key) ((List.range (responses 0).totalPages.toNat).flatMap fun page =>
        (responses (UInt32.ofNat page)).sessions) = 1

/-- The keys of one date directory that a walk without reports finds. -/
def dateKeys (b : StorageBackend) (dirs : Bytes → DirListing) (date : Bytes) : List Bytes :=
  (sortNames ((givenAt b dirs (ascii "/logs/" ++ date)).map keptName) false).map fun session =>
    keyText (date, session)

/-- All keys that a walk without reports finds. -/
def walkKeys (b : StorageBackend) (dirs : Bytes → DirListing) : List Bytes :=
  (sortNames ((givenAt b dirs (ascii "/logs")).map keptName) true).flatMap (dateKeys b dirs)

/-! ## One listing -/

/-- The last part of the path that a callback is handed, as far as it is kept. -/
theorem keptName_entryPath {b : StorageBackend} {path name fullPath : Bytes}
    (hpath : path.length ≤ 32) (hslash : path.getLast? ≠ some 47) (hname : 47 ∉ name)
    (h : entryPath b path name = some fullPath) :
    copied sessionNameLen (afterLast 47 fullPath) = keptName name := by
  cases b with
  | fatfs =>
    have hfat : fatEntryPath path name = path ++ 47 :: name := by simp [fatEntryPath, hslash]
    rw [entryPath, hfat] at h
    split at h
    · cases h
      rw [afterLast_append hname, keptName]
    · cases h
  | littlefs =>
    cases h
    have hcut : copied pathBufferSize (path ++ 47 :: name) =
        path ++ 47 :: name.take (254 - path.length) := by
      have hroom : 255 - path.length = (254 - path.length) + 1 := by omega
      rw [copied, pathBufferSize, List.take_append, List.take_of_length_le (by omega), hroom,
        List.take_succ_cons]
    rw [hcut, afterLast_append (fun h => hname (List.mem_of_mem_take h)), keptName, copied, copied,
      List.take_take, sessionNameLen, min_eq_left (by omega)]

section Callback

variable {fullPath : Bytes} {isDir : Bool} (hdir : isDir = true) {size : Nat}
  {nc : NameCollectContext}

include hdir

/-- The callback for a directory that there is room for. -/
theorem collectDirNamesCallback_room {name : Bytes}
    (hkept : copied sessionNameLen (afterLast 47 fullPath) = keptName name)
    (hroom : nc.names.length < nc.max) :
    collectDirNamesCallback fullPath isDir size nc =
      ({ nc with names := nc.names ++ [keptName name] }, 0) := by
  simp [collectDirNamesCallback, hdir, Nat.not_le.mpr hroom, hkept]

theorem collectDirNamesCallback_full (hfull : nc.max ≤ nc.names.length) :
    collectDirNamesCallback fullPath isDir size nc = ({ nc with overflow := true }, 1) := by
  simp [collectDirNamesCallback, hdir, hfull]

end Callback

theorem subdirNames_dir {e : DirEntry} (hdir : e.isDir = true)
    (hdot : ¬ (e.name = ascii "." ∨ e.name = ascii "..")) (entries : List DirEntry) :
    subdirNames (e :: entries) = e.name :: subdirNames entries := by
  rw [subdirNames_cons, if_pos ⟨hdir, not_or.mp hdot⟩]

theorem subdirNames_skip {e : DirEntry}
    (hskip : e.isDir = false ∨ e.name = ascii "." ∨ e.name = ascii "..")
    (entries : List DirEntry) : subdirNames (e :: entries) = subdirNames entries := by
  rw [subdirNames_cons, if_neg]
  rintro ⟨hdir, hdot, hdotdot⟩
  rcases hskip with hfile | hname | hname
  · rw [hdir] at hfile
    cases hfile
  · exact hdot hname
  · exact hdotdot hname

/-- The limits for the first entry, and for the others. -/
theorem entriesWithin_cons {b : StorageBackend} {path : Bytes} {room : Nat} {e : DirEntry}
    {entries : List DirEntry} :
    EntriesWithin b path room (e :: entries) ↔
      (¬ (e.name = ascii "." ∨ e.name = ascii "..") → PathFits b path e.name) ∧
      (subdirNames (e :: entries)).length ≤ room ∧
      ∀ e' ∈ entries, ¬ (e'.name = ascii "." ∨ e'.name = ascii "..") →
        PathFits b path e'.name := by
  rw [EntriesWithin, List.forall_mem_cons]
  exact and_left_comm

/-- The walk over the entries comes to its end without a report exactly when it meets no
limit, and has then collected what is kept of the names. -/
theorem listEntries_collect_iff {b : StorageBackend} {path : Bytes} (hpath : path.length ≤ 32)
    (hslash : path.getLast? ≠ some 47) {entries : List DirEntry}
    (hnamed : ∀ e ∈ entries, e.name ≠ [] ∧ 47 ∉ e.name) {nc nc' : NameCollectContext} {room : Nat}
    (hroom : nc.names.length + room = nc.max) (hoverflow : nc.overflow = false) :
    ((∃ ret, listEntries (entryPath b path) collectDirNamesCallback entries nc = some (nc', ret)) ∧
        nc'.overflow = false) ↔
      EntriesWithin b path room entries ∧
        nc' = { nc with names := nc.names ++ (subdirNames entries).map keptName } := by
  induction entries generalizing nc room with
  | nil =>
    rw [listEntries]
    constructor
    · rintro ⟨⟨ret, h⟩, -⟩
      cases h
      exact ⟨⟨Nat.zero_le room, by simp⟩, by simp [subdirNames]⟩
    · rintro ⟨-, rfl⟩
      exact ⟨⟨0, by simp [subdirNames]⟩, hoverflow⟩
  | cons e entries ih =>
    have hnamed' : ∀ e' ∈ entries, e'.name ≠ [] ∧ 47 ∉ e'.name :=
      fun e' he' => hnamed e' (List.mem_cons_of_mem e he')
    obtain ⟨hne, hnoslash⟩ := hnamed e List.mem_cons_self
    rw [entriesWithin_cons]
    by_cases hdot : e.name = ascii "." ∨ e.name = ascii ".."
    · have hfirst : ¬ (e.name = ascii "." ∨ e.name = ascii "..") → PathFits b path e.name :=
        fun h => absurd hdot h
      rw [listEntries_dots hdot, subdirNames_skip (.inr hdot), and_iff_right hfirst]
      exact ih hnamed' hroom hoverflow
    by_cases hfits : PathFits b path e.name
    · obtain ⟨fullPath, hfull⟩ := (entryPath_isSome hslash).mpr hfits
      have hkept := keptName_entryPath hpath hslash hnoslash hfull
      rw [and_iff_right (fun _ => hfits)]
      cases hdir : e.isDir with
      | true =>
        rw [subdirNames_dir hdir hdot, List.length_cons]
        cases room with
        | zero =>
          -- one directory too many: the flag is set
          have hcb := @collectDirNamesCallback_full fullPath e.isDir hdir e.size nc (by omega)
          rw [listEntries_stop hne hdot hfull hcb (by decide)]
          constructor
          · rintro ⟨⟨ret, h⟩, hclear⟩
            cases h
            cases hclear
          · rintro ⟨⟨hlength, -⟩, -⟩
            exact absurd hlength (by omega)
        | succ room =>
          have hcb := @collectDirNamesCallback_room fullPath e.isDir hdir e.size nc e.name hkept
            (by omega)
          have hrest := @ih hnamed' { nc with names := nc.names ++ [keptName e.name] } room
            (by simp only [List.length_append, List.length_singleton]; omega) hoverflow
          rw [listEntries_next hne hdot hfull hcb, hrest, EntriesWithin,
            Nat.add_le_add_iff_right, List.map_cons, List.append_assoc, List.singleton_append]
      | false =>
        have hcb : collectDirNamesCallback fullPath e.isDir e.size nc = (nc, 0) := by
          rw [hdir]
          exact collectDirNamesCallback_file fullPath e.size nc
        rw [listEntries_next hne hdot hfull hcb, subdirNames_skip (.inl hdir)]
        exact ih hnamed' hroom hoverflow
    · rw [listEntries_none hne hdot (entryPath_eq_none hslash hfits)]
      constructor
      · rintro ⟨⟨ret, h⟩, -⟩
        cases h
      · rintro ⟨⟨hfirst, -⟩, -⟩
        exact absurd (hfirst hdot) hfits

section Walk

variable {b : StorageBackend} {dirs : Bytes → DirListing} {t : LogTree}

/-- A listing with a fresh context is answered without a report exactly when it meets no
limit. -/
theorem collectDirNames_iff {path : Bytes} (hpath : path.length ≤ 32)
    (hmount : startsWith (ascii "/SD:/") path = false) (hslash : path.getLast? ≠ some 47)
    (hnamed : ∀ physical ∈ physicalPath b path .listDir,
      ∀ e ∈ (dirs physical).entries, e.name ≠ [] ∧ 47 ∉ e.name) {nc : NameCollectContext} :
    (collectDirNames b dirs path 64 = some nc ∧ nc.overflow = false) ↔
      WithinLimits b dirs path ∧ nc = ⟨(givenAt b dirs path).map keptName, 64, false⟩ := by
  obtain ⟨physical, hphysical⟩ := physicalPath_listDir (b := b) hmount
  have hnames := hnamed physical hphysical
  rw [collectDirNames, storageListDir, WithinLimits, givenAt, hphysical]
  simp only [Option.bind_some, Option.mem_some_iff, forall_eq']
  by_cases hret : (dirs physical).ret = 0
  · have hwalk := @listEntries_collect_iff b path hpath hslash _ hnames ⟨[], 64, false⟩ nc 64 rfl
      rfl
    simp only [hret, ne_eq, not_true_eq_false, if_false, if_true, true_implies]
    rw [List.nil_append] at hwalk
    rw [← hwalk, Option.map_eq_some_iff]
    simp
  · simp only [hret, ne_eq, not_false_eq_true, if_true, if_false, Option.map_some,
      Option.some.injEq, List.map_nil, false_implies, true_and]
    constructor
    · rintro ⟨rfl, -⟩
      rfl
    · rintro rfl
      exact ⟨rfl, rfl⟩

/-! ## The walk -/

/-- The kept part of a name is the name of a directory that the walk can ask for. -/
theorem dirName_keptName {name : Bytes} (h : FileName name) : DirName (keptName name) := by
  have hlength : (keptName name).length = min 15 name.length := by
    rw [keptName, copied, sessionNameLen, List.length_take]
  have hpos := List.length_pos_iff.mpr h.ne_nil
  have hshort (other : Bytes) (hother : other.length ≤ 2) (hne : name ≠ other) :
      keptName name ≠ other := by
    intro heq
    have hlen := congrArg List.length heq
    rw [hlength] at hlen
    have hfits : name.length < sessionNameLen := by
      rw [sessionNameLen]
      omega
    rw [keptName, copied_of_fits hfits] at heq
    exact hne heq
  refine ⟨?_, hshort _ (by decide) h.ne_dot, hshort _ (by decide) h.ne_dotdot, ?_, ?_, ?_⟩
  · rw [ne_eq, ← List.length_eq_zero_iff, hlength]
    omega
  · exact fun hmem => h.no_nul (List.mem_of_mem_take hmem)
  · exact fun hmem => h.no_slash (List.mem_of_mem_take hmem)
  · rw [hlength]
    omega

theorem keptName_of_le {name : Bytes} (h : name.length ≤ 15) : keptName name = name :=
  copied_of_fits (Nat.lt_succ_of_le h)

/-- What a listing gives is part of what the tree has there. -/
theorem GivesPart.givenAt {names : List Bytes} {path : Bytes}
    (h : ∀ physical ∈ physicalPath b path .listDir, GivesPart names (dirs physical)) :
    (givenAt b dirs path).Subperm names := by
  rw [TempoBt.givenAt]
  split
  · rename_i physical hphysical
    split
    · rename_i hret
      exact (h physical hphysical).part hret
    · exact List.nil_subperm
  · exact List.nil_subperm

theorem Fails.dirName (h : Fails b dirs t) {date : Bytes}
    (hdate : date ∈ (givenAt b dirs (ascii "/logs")).map keptName) : DirName date := by
  obtain ⟨name, hname, rfl⟩ := List.mem_map.mp hdate
  exact dirName_keptName (t.dates_names name ((GivesPart.givenAt h.dates).subset hname))

/-- The keys of one date, or a report. -/
theorem foundInDate_iff (h : Fails b dirs t) {date : Bytes} (hdate : DirName date)
    {part : FoundSessions} :
    (foundInDate b dirs date = some part ∧ part.overflow = false) ↔
      WithinLimits b dirs (ascii "/logs/" ++ date) ∧ part = ⟨dateKeys b dirs date, false⟩ := by
  have hlength := hdate.length_le
  have hlogs : (ascii "/logs/").length = 6 := rfl
  have hpath : datePath date = ascii "/logs/" ++ date := by
    apply copied_of_fits
    rw [List.length_append]
    omega
  have hslash : (ascii "/logs/" ++ date).getLast? ≠ some 47 := by
    rw [List.getLast?_append_of_ne_nil _ hdate.ne_nil]
    exact fun hlast => hdate.no_slash (List.mem_of_getLast? hlast)
  have hcollect (nc : NameCollectContext) := @collectDirNames_iff b dirs (ascii "/logs/" ++ date)
    (by rw [List.length_append]; omega) rfl hslash
    (fun physical hphysical => (h.sessions date hdate physical hphysical).named) nc
  have hkeys : (sortNames ((givenAt b dirs (ascii "/logs/" ++ date)).map keptName) false).map
      (sessionKey date) = dateKeys b dirs date := by
    apply List.map_congr_left
    intro session hsession
    obtain ⟨name, -, rfl⟩ := List.mem_map.mp ((sortNames_perm _ _).mem_iff.mp hsession)
    apply copied_of_fits
    simp only [keptName, copied, List.length_append, List.length_cons, List.length_take,
      sessionNameLen]
    omega
  rw [foundInDate, hpath, sessionListMaxPerDate]
  constructor
  · rintro ⟨hpart, hclear⟩
    obtain ⟨nc, hnc, rfl⟩ := Option.map_eq_some_iff.mp hpart
    obtain ⟨hwithin, rfl⟩ := (hcollect nc).mp ⟨hnc, hclear⟩
    exact ⟨hwithin, by rw [hkeys]⟩
  · rintro ⟨hwithin, rfl⟩
    obtain ⟨hnc, -⟩ := (hcollect _).mpr ⟨hwithin, rfl⟩
    rw [hnc, Option.map_some, hkeys]
    exact ⟨rfl, rfl⟩

/-- Rounds that each have one good result. -/
theorem mapM_iff_of_forall {α β : Type*} {f : α → Option β} {g : α → β} {P : β → Prop}
    {Q : α → Prop}
    {l : List α} (h : ∀ a ∈ l, ∀ r, (f a = some r ∧ P r) ↔ (Q a ∧ r = g a)) {rs : List β} :
    (l.mapM f = some rs ∧ ∀ r ∈ rs, P r) ↔ ((∀ a ∈ l, Q a) ∧ rs = l.map g) := by
  induction l generalizing rs with
  | nil =>
    constructor
    · rintro ⟨hrs, -⟩
      cases hrs
      simp
    · rintro ⟨-, rfl⟩
      simp
  | cons a l ih =>
    have hrest := fun rs => @ih (fun a' ha' => h a' (List.mem_cons_of_mem a ha')) rs
    have hfirst := h a List.mem_cons_self
    rw [List.mapM_cons, List.forall_mem_cons]
    constructor
    · rintro ⟨hrs, hgood⟩
      obtain ⟨r, hr, hrs⟩ := Option.bind_eq_some_iff.mp hrs
      obtain ⟨rs', hrs', hrs⟩ := Option.bind_eq_some_iff.mp hrs
      cases hrs
      rw [List.forall_mem_cons] at hgood
      obtain ⟨hQ, rfl⟩ := (hfirst r).mp ⟨hr, hgood.1⟩
      obtain ⟨hQs, rfl⟩ := (hrest rs').mp ⟨hrs', hgood.2⟩
      exact ⟨⟨hQ, hQs⟩, rfl⟩
    · rintro ⟨⟨hQ, hQs⟩, rfl⟩
      obtain ⟨hr, hP⟩ := (hfirst (g a)).mpr ⟨hQ, rfl⟩
      obtain ⟨hrs, hPs⟩ := (hrest (l.map g)).mpr ⟨hQs, rfl⟩
      rw [hr, hrs, List.map_cons, List.forall_mem_cons]
      exact ⟨rfl, hP, hPs⟩

/-- The walk is without a report exactly when it meets no limit. -/
theorem foundSessions_iff (h : Fails b dirs t) {found : FoundSessions} :
    (foundSessions b dirs = some found ∧ found.overflow = false) ↔
      WalkWithin b dirs ∧ found = ⟨walkKeys b dirs, false⟩ := by
  have hdates (nc : NameCollectContext) := @collectDirNames_iff b dirs (ascii "/logs")
    (by decide) rfl (by decide)
    (fun physical hphysical => (h.dates physical hphysical).named) nc
  have hrounds := fun parts => @mapM_iff_of_forall _ _ (foundInDate b dirs)
    (fun date => ⟨dateKeys b dirs date, false⟩) (fun part => part.overflow = false)
    (fun date => WithinLimits b dirs (ascii "/logs/" ++ date))
    (sortNames ((givenAt b dirs (ascii "/logs")).map keptName) true)
    (fun date hdate part => foundInDate_iff h (h.dirName ((sortNames_perm _ _).mem_iff.mp hdate)))
    parts
  have hwithin : (∀ date ∈ sortNames ((givenAt b dirs (ascii "/logs")).map keptName) true,
      WithinLimits b dirs (ascii "/logs/" ++ date)) ↔
      ∀ name ∈ givenAt b dirs (ascii "/logs"),
        WithinLimits b dirs (ascii "/logs/" ++ keptName name) := by
    simp only [(sortNames_perm _ _).mem_iff, List.forall_mem_map]
  rw [foundSessions, sessionListMaxDates]
  constructor
  · rintro ⟨hfound, hclear⟩
    obtain ⟨nc, hnc, hfound⟩ := Option.bind_eq_some_iff.mp hfound
    obtain ⟨parts, hparts, rfl⟩ := Option.map_eq_some_iff.mp hfound
    simp only [Bool.or_eq_false_iff, List.any_eq_false, Bool.not_eq_true] at hclear
    obtain ⟨hlogs, rfl⟩ := (hdates nc).mp ⟨hnc, hclear.1⟩
    obtain ⟨hsessions, rfl⟩ := (hrounds parts).mp ⟨hparts, hclear.2⟩
    refine ⟨⟨hlogs, hwithin.mp hsessions⟩, ?_⟩
    simp [walkKeys, List.flatMap_map]
  · rintro ⟨⟨hlogs, hsessions⟩, rfl⟩
    obtain ⟨hnc, -⟩ := (hdates _).mpr ⟨hlogs, rfl⟩
    obtain ⟨hparts, -⟩ := (hrounds _).mpr ⟨hwithin.mpr hsessions, rfl⟩
    rw [hnc, Option.bind_some, hparts]
    simp [walkKeys, List.flatMap_map]

/-! ## Counting keys -/

theorem keyText_inj {date date' session session' : Bytes} (hdate : 47 ∉ date)
    (hdate' : 47 ∉ date') :
    keyText (date, session) = keyText (date', session') ↔ date = date' ∧ session = session' := by
  constructor
  · exact fun heq => Bytes.append_sep_inj hdate hdate' heq
  · rintro ⟨rfl, rfl⟩
    rfl

/-- A key occurs among those of a date as often as the listing of the date gives it. -/
theorem count_dateKeys {date d : Bytes} (hdate : 47 ∉ date) (hd : 47 ∉ d) (session : Bytes) :
    (dateKeys b dirs d).count (keyText (date, session)) =
      if d = date then ((givenAt b dirs (ascii "/logs/" ++ date)).map keptName).count session
      else 0 := by
  split
  · rename_i heq
    subst heq
    have hinj : Function.Injective fun session => keyText (d, session) :=
      fun s s' heq => ((keyText_inj hd hd).mp heq).2
    rw [dateKeys, List.count_map_of_injective _ _ hinj, (sortNames_perm _ _).count_eq]
  · rename_i hne
    rw [List.count_eq_zero]
    intro hmem
    obtain ⟨session', -, heq⟩ := List.mem_map.mp hmem
    exact hne ((keyText_inj hd hdate).mp heq).1

theorem count_walkKeys (h : Fails b dirs t) {date : Bytes} (hdate : 47 ∉ date) (session : Bytes) :
    (walkKeys b dirs).count (keyText (date, session)) =
      ((givenAt b dirs (ascii "/logs")).map keptName).count date *
        ((givenAt b dirs (ascii "/logs/" ++ date)).map keptName).count session := by
  rw [walkKeys, List.count_flatMap, ← (sortNames_perm _ true).count_eq date]
  have hslash : ∀ d ∈ sortNames ((givenAt b dirs (ascii "/logs")).map keptName) true, 47 ∉ d :=
    fun d hd => (h.dirName ((sortNames_perm _ _).mem_iff.mp hd)).no_slash
  generalize sortNames ((givenAt b dirs (ascii "/logs")).map keptName) true = names at hslash
  induction names with
  | nil => simp
  | cons d names ih =>
    rw [List.forall_mem_cons] at hslash
    rw [List.map_cons, List.sum_cons, ih hslash.2, Function.comp_apply,
      count_dateKeys hdate hslash.1, List.count_cons, Nat.add_mul]
    by_cases hd : d = date
    · simp [hd, Nat.add_comm]
    · simp [hd]

/-- Each name is kept once, of those that the tree has, when all are given and short. -/
theorem count_kept_iff {names given : List Bytes} (hpart : given.Subperm names)
    (hnodup : names.Nodup) :
    (∀ name ∈ names, (given.map keptName).count name = 1) ↔
      ∀ name ∈ names, name.length ≤ 15 ∧ name ∈ given := by
  constructor
  · intro hcount name hname
    have hkept (name : Bytes) (hname : name ∈ names) : ∃ other ∈ given, keptName other = name := by
      have hmem : name ∈ given.map keptName := by
        rw [← List.count_pos_iff, hcount name hname]
        exact Nat.one_pos
      exact List.mem_map.mp hmem
    have hshort (name : Bytes) (hname : name ∈ names) : name.length ≤ 15 := by
      obtain ⟨other, -, rfl⟩ := hkept name hname
      rw [keptName, copied, List.length_take]
      exact min_le_left _ _
    obtain ⟨other, hother, rfl⟩ := hkept name hname
    -- the given name is one of the tree's, and so it is short
    rw [keptName_of_le (hshort other (hpart.subset hother))] at hname ⊢
    exact ⟨hshort other hname, hother⟩
  · intro hall name hname
    have hkept : ∀ other ∈ given, keptName other = id other :=
      fun other hother => keptName_of_le (hall other (hpart.subset hother)).1
    rw [List.map_congr_left hkept, List.map_id]
    have hgiven : given.Nodup := by
      obtain ⟨l, hperm, hsub⟩ := hpart
      exact hperm.nodup_iff.mp (hsub.nodup hnodup)
    exact List.count_eq_one_of_mem hgiven (hall name hname).2

/-- The walk finds every key once exactly when nothing is lost. -/
theorem count_walkKeys_iff (h : Fails b dirs t) :
    (∀ key ∈ t.keys, (walkKeys b dirs).count (keyText key) = 1) ↔ NothingLost b dirs t := by
  have hpart {date : Bytes} (hdate : DirName date) :
      (givenAt b dirs (ascii "/logs/" ++ date)).Subperm (t.sessions date) :=
    GivesPart.givenAt (h.sessions date hdate)
  constructor
  · intro hcount date hdate hne
    have hslash := (t.dates_names date hdate).no_slash
    have hboth (session : Bytes) (hsession : session ∈ t.sessions date) :
        ((givenAt b dirs (ascii "/logs")).map keptName).count date = 1 ∧
          ((givenAt b dirs (ascii "/logs/" ++ date)).map keptName).count session = 1 := by
      have hkey : (date, session) ∈ t.keys :=
        List.mem_flatMap.mpr ⟨date, hdate, List.mem_map.mpr ⟨session, hsession, rfl⟩⟩
      have hone := hcount _ hkey
      rw [count_walkKeys h hslash] at hone
      exact ⟨Nat.eq_one_of_mul_eq_one_right hone, Nat.eq_one_of_mul_eq_one_left hone⟩
    obtain ⟨first, hfirst⟩ := List.exists_mem_of_ne_nil _ hne
    have hkept : date ∈ (givenAt b dirs (ascii "/logs")).map keptName := by
      rw [← List.count_pos_iff, (hboth first hfirst).1]
      exact Nat.one_pos
    refine ⟨(hboth first hfirst).1, ?_⟩
    exact (count_kept_iff (hpart (h.dirName hkept)) (t.sessions_nodup date)).mp
      fun session hsession => (hboth session hsession).2
  · intro hlost key hkey
    obtain ⟨date, hdate, hkey⟩ := List.mem_flatMap.mp hkey
    obtain ⟨session, hsession, rfl⟩ := List.mem_map.mp hkey
    obtain ⟨hone, hsessions⟩ := hlost date hdate (List.ne_nil_of_mem hsession)
    have hkept : date ∈ (givenAt b dirs (ascii "/logs")).map keptName := by
      rw [← List.count_pos_iff, hone]
      exact Nat.one_pos
    have hcount := (count_kept_iff (hpart (h.dirName hkept)) (t.sessions_nodup date)).mpr hsessions
    rw [count_walkKeys h (t.dates_names date hdate).no_slash, hone, hcount session hsession]

/-! ## Walks that lose nothing -/

/-- The dates with sessions, newest first, as the walk comes to them. -/
def datesWalked (b : StorageBackend) (dirs : Bytes → DirListing) (t : LogTree) : List Bytes :=
  (sortNames ((givenAt b dirs (ascii "/logs")).map keptName) true).filter fun date =>
    t.sessions date ≠ []

theorem LogTree.mem_dates (t : LogTree) {date : Bytes} (h : t.sessions date ≠ []) :
    date ∈ t.dates := by
  by_contra hdate
  exact h (t.sessions_nil date hdate)

theorem mem_datesWalked (hlost : NothingLost b dirs t) {date : Bytes} :
    date ∈ datesWalked b dirs t ↔ t.sessions date ≠ [] := by
  rw [datesWalked, List.mem_filter, decide_eq_true_eq, (sortNames_perm _ _).mem_iff]
  constructor
  · exact And.right
  · intro hne
    refine ⟨?_, hne⟩
    rw [← List.count_pos_iff, (hlost date (t.mem_dates hne) hne).1]
    exact Nat.one_pos

theorem nodup_datesWalked (hlost : NothingLost b dirs t) : (datesWalked b dirs t).Nodup := by
  rw [List.nodup_iff_count_le_one]
  intro date
  by_cases hne : t.sessions date ≠ []
  · rw [datesWalked, List.count_filter (by simpa using hne), (sortNames_perm _ _).count_eq,
      (hlost date (t.mem_dates hne) hne).1]
  · rw [List.count_eq_zero.mpr]
    · exact Nat.zero_le 1
    · exact fun hmem => hne ((mem_datesWalked hlost).mp hmem)

theorem pairwise_datesWalked :
    (datesWalked b dirs t).Pairwise fun date date' => sortStops true date date' = true :=
  (InsertionSort.sort_sorted (sortStops_swap true) (sortStops_trans true) _).filter _

theorem sortStops_antisymm {date date' : Bytes} (hdate : 0 ∉ date) (hdate' : 0 ∉ date')
    (h : sortStops true date date' = true) (h' : sortStops true date' date = true) :
    date = date' := by
  simp only [sortStops, if_true, decide_eq_true_eq] at h h'
  rw [strcmp_swap] at h h'
  have hle : strcmp date date' ≤ 0 := by omega
  have hle' : strcmp date' date ≤ 0 := by omega
  rw [strcmp_nonpos_iff, cstr_of_no_nul hdate, cstr_of_no_nul hdate'] at hle
  rw [strcmp_nonpos_iff, cstr_of_no_nul hdate, cstr_of_no_nul hdate'] at hle'
  exact List.le_antisymm hle hle'

/-- The walk comes to the same dates whatever order it hears them in. -/
theorem datesWalked_eq {dirs' : Bytes → DirListing} (hlost : NothingLost b dirs t)
    (hlost' : NothingLost b dirs' t) : datesWalked b dirs t = datesWalked b dirs' t := by
  have hnul : ∀ date, t.sessions date ≠ [] → 0 ∉ date :=
    fun date hne => (t.dates_names date (t.mem_dates hne)).no_nul
  have hperm : (datesWalked b dirs t).Perm (datesWalked b dirs' t) := by
    rw [List.perm_ext_iff_of_nodup (nodup_datesWalked hlost) (nodup_datesWalked hlost')]
    intro date
    rw [mem_datesWalked hlost, mem_datesWalked hlost']
  refine List.Perm.eq_of_pairwise ?_ pairwise_datesWalked pairwise_datesWalked hperm
  intro date date' hdate hdate' h h'
  exact sortStops_antisymm (hnul date ((mem_datesWalked hlost).mp hdate))
    (hnul date' ((mem_datesWalked hlost').mp hdate')) h h'

/-- The keys of a date are those of the tree. -/
theorem dateKeys_eq (h : Fails b dirs t) (hwithin : WalkWithin b dirs)
    (hlost : NothingLost b dirs t)
    {date : Bytes} (hne : t.sessions date ≠ []) :
    dateKeys b dirs date =
      (sortNames (t.sessions date) false).map fun session => keyText (date, session) := by
  obtain ⟨hone, hsessions⟩ := hlost date (t.mem_dates hne) hne
  have hmem : date ∈ (givenAt b dirs (ascii "/logs")).map keptName := by
    rw [← List.count_pos_iff, hone]
    exact Nat.one_pos
  have hname := h.dirName hmem
  have hpart := GivesPart.givenAt (h.sessions date hname)
  have hgiven : (givenAt b dirs (ascii "/logs/" ++ date)).Nodup := by
    obtain ⟨l, hperm, hsub⟩ := hpart
    exact hperm.nodup_iff.mp (hsub.nodup (t.sessions_nodup date))
  have hperm : (givenAt b dirs (ascii "/logs/" ++ date)).Perm (t.sessions date) := by
    rw [List.perm_ext_iff_of_nodup hgiven (t.sessions_nodup date)]
    exact fun session => ⟨fun hs => hpart.subset hs, fun hs => (hsessions session hs).2⟩
  have hlength : (givenAt b dirs (ascii "/logs/" ++ date)).length ≤ 64 := by
    obtain ⟨name, hfrom, rfl⟩ := List.mem_map.mp hmem
    rw [TempoBt.givenAt]
    split
    · rename_i physical hphysical
      split
      · rename_i hret
        exact (hwithin.sessions name hfrom physical hphysical hret).1
      · exact Nat.zero_le 64
    · exact Nat.zero_le 64
  have hnames : DirNames (t.sessions date) := by
    refine ⟨?_, t.sessions_nodup date, hperm.length_eq ▸ hlength⟩
    intro session hsession
    have hkept := keptName_of_le (hsessions session hsession).1
    have hdir := dirName_keptName (t.sessions_names date session hsession)
    rwa [hkept] at hdir
  have hkept : ∀ session ∈ givenAt b dirs (ascii "/logs/" ++ date), keptName session = id session :=
    fun session hs => keptName_of_le (hsessions session (hpart.subset hs)).1
  rw [dateKeys, List.map_congr_left hkept, List.map_id, sortNames_eq_of_perm hnames hperm]

/-- A walk that loses nothing finds the keys of the tree in one order. -/
theorem walkKeys_eq (h : Fails b dirs t) (hwithin : WalkWithin b dirs)
    (hlost : NothingLost b dirs t) :
    walkKeys b dirs = (datesWalked b dirs t).flatMap fun date =>
      (sortNames (t.sessions date) false).map fun session => keyText (date, session) := by
  have hempty : ∀ date ∈ sortNames ((givenAt b dirs (ascii "/logs")).map keptName) true,
      t.sessions date = [] → dateKeys b dirs date = [] := by
    intro date hdate hnil
    have hname := h.dirName ((sortNames_perm _ _).mem_iff.mp hdate)
    have hpart := GivesPart.givenAt (h.sessions date hname)
    rw [hnil, List.subperm_nil] at hpart
    rw [dateKeys, hpart]
    rfl
  rw [walkKeys, datesWalked]
  generalize sortNames ((givenAt b dirs (ascii "/logs")).map keptName) true = names at hempty
  induction names with
  | nil => rfl
  | cons date names ih =>
    rw [List.forall_mem_cons] at hempty
    rw [List.flatMap_cons, ih hempty.2]
    by_cases hne : t.sessions date = []
    · rw [hempty.1 hne, List.filter_cons_of_neg (by simpa using hne), List.nil_append]
    · rw [dateKeys_eq h hwithin hlost hne, List.filter_cons_of_pos (by simpa using hne),
        List.flatMap_cons]

end Walk

/-! ## The pages together -/

section Pages

variable {b : StorageBackend} {t : LogTree}

/-- A page that is answered and not marked as truncated. -/
theorem answered_iff {dirs : Bytes → DirListing} (h : Fails b dirs t) {request : SmpRequest}
    {page : UInt32} (hasks : Asks request page) {response : SessionListResponse} :
    (tempoMgmtSessionList b dirs request = some (.ok response) ∧ response.truncated = false) ↔
      WalkWithin b dirs ∧ response = (FoundSessions.mk (walkKeys b dirs) false).response page := by
  rw [tempoMgmtSessionList_found hasks]
  constructor
  · rintro ⟨hresponse, hclear⟩
    obtain ⟨found, hfound, heq⟩ := Option.map_eq_some_iff.mp hresponse
    cases heq
    obtain ⟨hwithin, rfl⟩ := (foundSessions_iff h).mp ⟨hfound, hclear⟩
    exact ⟨hwithin, rfl⟩
  · rintro ⟨hwithin, rfl⟩
    obtain ⟨hfound, -⟩ := (foundSessions_iff h).mpr ⟨hwithin, rfl⟩
    rw [hfound, Option.map_some]
    exact ⟨rfl, rfl⟩

theorem length_walkKeys {dirs : Bytes → DirListing} (h : Fails b dirs t)
    (hwithin : WalkWithin b dirs) : (walkKeys b dirs).length ≤ 4096 :=
  foundSessions_length ((foundSessions_iff h).mpr ⟨hwithin, rfl⟩).1

/-- Walks that lose nothing, each with failures of its own. -/
theorem saysIncomplete_of_nothingLost {dirs : UInt32 → Bytes → DirListing}
    (h : ∀ page, Fails b (dirs page) t)
    (hlost : ∀ page, WalkWithin b (dirs page) → NothingLost b (dirs page) t) :
    SaysIncomplete b dirs t := by
  intro requests responses hasks hanswers key hkey
  have hpage (page : UInt32) (hpage : page = 0 ∨ page < (responses 0).totalPages) :=
    (answered_iff (h page) (hasks page)).mp (hanswers page hpage)
  obtain ⟨hwithin, hfirst⟩ := hpage 0 (.inl rfl)
  have hsame (page : UInt32) (hp : page = 0 ∨ page < (responses 0).totalPages) :
      responses page = (FoundSessions.mk (walkKeys b (dirs 0)) false).response page := by
    obtain ⟨hwithin', heq⟩ := hpage page hp
    have hdates := datesWalked_eq (hlost page hwithin') (hlost 0 hwithin)
    rw [heq, walkKeys_eq (h page) hwithin' (hlost page hwithin'), hdates,
      ← walkKeys_eq (h 0) hwithin (hlost 0 hwithin)]
  have hpages : ∀ page ∈ List.range (responses 0).totalPages.toNat,
      (responses (UInt32.ofNat page)).sessions =
        ((FoundSessions.mk (walkKeys b (dirs 0)) false).response (UInt32.ofNat page)).sessions := by
    intro page hmem
    have hlt : page < (responses 0).totalPages.toNat := List.mem_range.mp hmem
    have htoNat : (UInt32.ofNat page).toNat = page :=
      UInt32.toNat_ofNat_of_lt' (hlt.trans (UInt32.toNat_lt _))
    rw [hsame _ (.inr (by rw [UInt32.lt_iff_toNat_lt, htoNat]; exact hlt))]
  rw [List.flatMap_congr hpages, hfirst,
    FoundSessions.flatMap_response (length_walkKeys (h 0) hwithin)]
  exact (count_walkKeys_iff (h 0)).mpr (hlost 0 hwithin) key hkey

end Pages

/-- **Losses.** While failures stay the same from page to page, an incomplete listing is
marked as truncated exactly when a walk within its limits loses nothing; that is also
enough where the failures differ. -/
theorem sessionList_saysIncomplete_iff (b : StorageBackend) (t : LogTree) :
    (∀ dirs, Fails b dirs t →
      (SaysIncomplete b (fun _ => dirs) t ↔ (WalkWithin b dirs → NothingLost b dirs t))) ∧
    ∀ dirs : UInt32 → Bytes → DirListing, (∀ page, Fails b (dirs page) t) →
      (∀ page, WalkWithin b (dirs page) → NothingLost b (dirs page) t) →
        SaysIncomplete b dirs t := by
  refine ⟨fun dirs h => ⟨fun hsays hwithin => ?_, fun hlost => ?_⟩, fun dirs h hlost => ?_⟩
  · have hall := hsays (fun page => pageRequest page.toNat)
      (fun page => (FoundSessions.mk (walkKeys b dirs) false).response page) asks_pageRequest
      (fun page _ => (answered_iff h (asks_pageRequest page)).mpr ⟨hwithin, rfl⟩)
    rw [FoundSessions.flatMap_response (length_walkKeys h hwithin)] at hall
    exact (count_walkKeys_iff h).mp hall
  · exact saysIncomplete_of_nothingLost (fun _ => h) (fun _ => hlost)
  · exact saysIncomplete_of_nothingLost h hlost

/-- Two sessions of one date, and one of a later date. -/
def exampleLogs : LogTree where
  dates := [ascii "20250101", ascii "20250102"]
  sessions := fun date =>
    if date = ascii "20250101" then [ascii "00000007", ascii "0000002A"]
    else if date = ascii "20250102" then [ascii "000000FF"]
    else []
  dates_names := by decide +kernel
  dates_nodup := by decide +kernel
  sessions_names := by
    intro date
    split
    · decide +kernel
    · split
      · decide +kernel
      · simp
  sessions_nodup := by
    intro date
    split
    · decide +kernel
    · split
      · decide +kernel
      · exact List.nodup_nil
  sessions_nil := by
    intro date hdate
    simp only [List.mem_cons, List.not_mem_nil, or_false, not_or] at hdate
    rw [if_neg hdate.1, if_neg hdate.2]

/-- A card with these sessions; the earlier date can fail to open. -/
def cardDirs (broken : Bool) (physical : Bytes) : DirListing :=
  if physical = ascii "/SD:/logs" then
    ⟨0, [⟨ascii "20250101", true, 0⟩, ⟨ascii "20250102", true, 0⟩]⟩
  else if physical = ascii "/SD:/logs/" ++ ascii "20250101" then
    if broken then ⟨-5, []⟩
    else ⟨0, [⟨ascii "0000002A", true, 0⟩, ⟨ascii "00000007", true, 0⟩]⟩
  else if physical = ascii "/SD:/logs/" ++ ascii "20250102" then
    ⟨0, [⟨ascii "000000FF", true, 0⟩]⟩
  else ⟨-2, []⟩

theorem physicalPath_dateDir {date physical : Bytes} (hdate : date.length ≤ 15)
    (h : physical ∈ physicalPath .fatfs (ascii "/logs/" ++ date) .listDir) :
    physical = ascii "/SD:/logs/" ++ date := by
  have hfat : fatPath (ascii "/logs/" ++ date) = ascii "/SD:/logs/" ++ date := rfl
  rw [physicalPath, backendPath, fatfsTranslatePath_of_fits, hfat] at h
  · cases h
    rfl
  · have hmount : (ascii "/SD:/logs/").length = 10 := rfl
    rw [hfat, List.length_append, pathBufferSize]
    omega

theorem dateDir_ne_logs (date : Bytes) : ascii "/SD:/logs/" ++ date ≠ ascii "/SD:/logs" := by
  intro heq
  have hlength := congrArg List.length heq
  have hmount : (ascii "/SD:/logs/").length = 10 := rfl
  have hlogs : (ascii "/SD:/logs").length = 9 := rfl
  rw [List.length_append, hmount, hlogs] at hlength
  omega

theorem fails_cardDirs (broken : Bool) : Fails .fatfs (cardDirs broken) exampleLogs where
  dates := by
    have hpath : physicalPath .fatfs (ascii "/logs") .listDir = some (ascii "/SD:/logs") := by
      decide +kernel
    rw [hpath]
    rintro physical ⟨⟩
    refine ⟨fun _ => ?_, by cases broken <;> decide +kernel⟩
    exact List.Perm.subperm (List.Perm.refl _)
  sessions := by
    intro date hdate physical hphysical
    obtain rfl := physicalPath_dateDir hdate.length_le hphysical
    rw [cardDirs, if_neg (dateDir_ne_logs date)]
    simp only [List.append_cancel_left_eq]
    by_cases hfirst : date = ascii "20250101"
    · subst hfirst
      cases broken with
      | true => exact ⟨fun h => absurd h (by decide), by simp⟩
      | false =>
        refine ⟨fun _ => ?_, by decide +kernel⟩
        exact List.Perm.subperm (List.Perm.swap _ _ _)
    · rw [if_neg hfirst]
      split
      · rename_i hsecond
        subst hsecond
        refine ⟨fun _ => ?_, by decide +kernel⟩
        exact List.Perm.subperm (List.Perm.refl _)
      · exact ⟨fun h => absurd h (by decide), by simp⟩

theorem nothingLost_cardDirs : NothingLost .fatfs (cardDirs false) exampleLogs := by
  unfold NothingLost
  decide +kernel

theorem sessionList_saysIncomplete_iff_cardDirs :
    (SaysIncomplete .fatfs (fun _ => cardDirs true) exampleLogs ↔
      (WalkWithin .fatfs (cardDirs true) → NothingLost .fatfs (cardDirs true) exampleLogs)) ∧
    SaysIncomplete .fatfs (fun _ => cardDirs false) exampleLogs :=
  ⟨(sessionList_saysIncomplete_iff .fatfs exampleLogs).1 (cardDirs true) (fails_cardDirs true),
    (sessionList_saysIncomplete_iff .fatfs exampleLogs).2 (fun _ => cardDirs false)
      (fun _ => fails_cardDirs false) (fun _ _ => nothingLost_cardDirs)⟩

/-- The sessions of a date that does not open are left out, and nothing says so. -/
theorem not_saysIncomplete_broken :
    Fails .fatfs (cardDirs true) exampleLogs ∧
      ¬ SaysIncomplete .fatfs (fun _ => cardDirs true) exampleLogs := by
  refine ⟨fails_cardDirs true, fun hsays => ?_⟩
  have hfound : foundSessions .fatfs (cardDirs true) =
      some ⟨[ascii "20250102/000000FF"], false⟩ := rfl
  have hcount := hsays (fun page => pageRequest page.toNat)
    (fun page => (FoundSessions.mk [ascii "20250102/000000FF"] false).response page)
    asks_pageRequest
    (fun page _ => ⟨by rw [tempoMgmtSessionList_found (asks_pageRequest page), hfound]; rfl, rfl⟩)
    (ascii "20250101", ascii "00000007") (by decide +kernel)
  rw [FoundSessions.flatMap_response (by decide)] at hcount
  exact absurd hcount (by decide +kernel)

end TempoBt
