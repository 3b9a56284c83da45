-- SUMMARY: The paged listing of sessions over BLE, and that its pages together are the sorted keys of the storage tree.
import TempoBt.App.Mcumgr
import TempoBt.Lib.InsertionSort
import TempoBt.Lib.Paging
import TempoBt.Services.Storage.Listing
import Mathlib.Data.List.Nodup

/-!
# Session list

`tempo_mgmt_session_list` walks the whole tree for every page: it collects and
sorts the date directories, then for each of them the session directories, and
emits the keys that fall into the page. A key is the path of a session directory
below `/logs`.
-/

namespace TempoBt

open CString

/-! ## Collecting names -/

/-- `TEMPO_SESSION_LIST_PAGE_SIZE` -/
def sessionListPageSize : Nat := 64
/-- `TEMPO_SESSION_LIST_MAX_DATES` -/
def sessionListMaxDates : Nat := 64
/-- `TEMPO_SESSION_LIST_MAX_PER_DATE` -/
def sessionListMaxPerDate : Nat := 64
/-- `TEMPO_SESSION_NAME_LEN` -/
def sessionNameLen : Nat := 16

/-- `struct name_collect_context`; `count` is the number of names. -/
structure NameCollectContext where
  names : List Bytes
  max : Nat
  overflow : Bool

/-- `collect_dir_names_callback` -/
def collectDirNamesCallback (path : Bytes) (isDir : Bool) (_size : Nat) (nc : NameCollectContext) :
    NameCollectContext × Int :=
  if !isDir then (nc, 0)
  else if nc.max ≤ nc.names.length then ({ nc with overflow := true }, 1)
  else ({ nc with names := nc.names ++ [copied sessionNameLen (afterLast 47 path)] }, 0)

/-- The test that ends the inner loop of `sort_names`. -/
def sortStops (descending : Bool) (a tmp : Bytes) : Bool :=
  if descending then 0 ≤ strcmp a tmp else strcmp a tmp ≤ 0

/-- `sort_names` -/
def sortNames (names : List Bytes) (descending : Bool) : List Bytes :=
  InsertionSort.sort (sortStops descending) names

/-- A listing with the callback and a fresh context; its return value is not looked
at. -/
def collectDirNames (b : StorageBackend) (dirs : Bytes → DirListing) (path : Bytes) (max : Nat) :
    Option NameCollectContext :=
  (storageListDir b dirs path collectDirNamesCallback ⟨[], max, false⟩).map Prod.fst

/-! ## The request -/

/-- The running total and the keys emitted so far. -/
structure Emission where
  total : UInt32
  sessions : List Bytes

/-- The body of the innermost loop, for a page that begins at `first`. -/
def Emission.emit (first : UInt32) (r : Emission) (sessionKey : Bytes) : Emission where
  total := r.total + 1
  sessions :=
    if r.total < first ∨ sessionListPageSize ≤ r.sessions.length then r.sessions
    else r.sessions ++ [sessionKey]

/-- `session_key` -/
def sessionKey (date session : Bytes) : Bytes :=
  copied (2 * sessionNameLen) (date ++ 47 :: session)

/-- `date_path` -/
def datePath (date : Bytes) : Bytes := copied 32 (ascii "/logs/" ++ date)

/-- The round of pass 2 for one date directory, with `truncated`. -/
def listDate (b : StorageBackend) (dirs : Bytes → DirListing) (first : UInt32)
    (r : Emission × Bool) (date : Bytes) : Option (Emission × Bool) :=
  (collectDirNames b dirs (datePath date) sessionListMaxPerDate).map fun sess =>
    (((sortNames sess.names false).map (sessionKey date)).foldl (Emission.emit first) r.1,
      r.2 || sess.overflow)

structure SessionListResponse where
  sessions : List Bytes
  count : Int
  page : UInt32
  totalPages : UInt32
  totalSessions : UInt32
  truncated : Bool

/-- The field `page` of a request. -/
def pageField (key : Bytes) (value : CborItem) (page : UInt32) : Option UInt32 :=
  if key = ascii "page" then value.uint32? else some page

/-- `tempo_mgmt_session_list`, with a response that can be encoded. -/
def tempoMgmtSessionList (b : StorageBackend) (dirs : Bytes → DirListing) (request : SmpRequest) :
    Option (Except MgmtErr SessionListResponse) :=
  -- a request that is no map, and what follows a key that is no text, are ignored
  match decodeFields pageField (request.getD []) 0 with
  | none => some (.error .einval)
  | some (page, _) =>
    (collectDirNames b dirs (ascii "/logs") sessionListMaxDates).bind fun dates =>
      ((sortNames dates.names true).foldlM (listDate b dirs (page * 64))
        (⟨0, []⟩, dates.overflow)).map fun r =>
          .ok
            { sessions := r.1.sessions
              count := r.1.sessions.length
              page
              totalPages := (r.1.total + 64 - 1) / 64
              totalSessions := r.1.total
              truncated := r.2 }

/-! ## Storage trees -/

/-- A name of a directory that a listing gives whole. -/
structure DirName (name : Bytes) : Prop where
  ne_nil : name ≠ []
  ne_dot : name ≠ ascii "."
  ne_dotdot : name ≠ ascii ".."
  no_nul : (0 : UInt8) ∉ name
  no_slash : (47 : UInt8) ∉ name
  length_le : name.length ≤ 15

instance (name : Bytes) : Decidable (DirName name) :=
  decidable_of_iff
    (name ≠ [] ∧ name ≠ ascii "." ∧ name ≠ ascii ".." ∧ (0 : UInt8) ∉ name ∧ (47 : UInt8) ∉ name ∧
      name.length ≤ 15)
    ⟨fun ⟨h₁, h₂, h₃, h₄, h₅, h₆⟩ => ⟨h₁, h₂, h₃, h₄, h₅, h₆⟩,
      fun ⟨h₁, h₂, h₃, h₄, h₅, h₆⟩ => ⟨h₁, h₂, h₃, h₄, h₅, h₆⟩⟩

/-- At most 64 different names of directories. -/
structure DirNames (names : List Bytes) : Prop where
  valid : ∀ name ∈ names, DirName name
  nodup : names.Nodup
  length_le : names.length ≤ 64

instance (names : List Bytes) : Decidable (DirNames names) :=
  decidable_of_iff ((∀ name ∈ names, DirName name) ∧ names.Nodup ∧ names.length ≤ 64)
    ⟨fun ⟨h₁, h₂, h₃⟩ => ⟨h₁, h₂, h₃⟩, fun ⟨h₁, h₂, h₃⟩ => ⟨h₁, h₂, h₃⟩⟩

/-- The directories below `/logs`: the dates, and the sessions of each of them. -/
structure SessionTree where
  dates : List Bytes
  sessions : Bytes → List Bytes
  dates_names : DirNames dates
  sessions_names : ∀ date ∈ dates, DirNames (sessions date)

/-- The sessions, by the names of the date and the session directory. -/
def SessionTree.keys (t : SessionTree) : List (Bytes × Bytes) :=
  t.dates.flatMap fun date => (t.sessions date).map fun session => (date, session)

/-- The key of a session. -/
def keyText (key : Bytes × Bytes) : Bytes := key.1 ++ 47 :: key.2

/-- The order of the listing: the newest date first, and the sessions of a date in
ascending order. -/
def ListedBefore (a b : Bytes × Bytes) : Prop := b.1 < a.1 ∨ a.1 = b.1 ∧ a.2 < b.2

/-- The names of the subdirectories in a listing. -/
def subdirNames (entries : List DirEntry) : List Bytes :=
  (entries.filter fun e => e.isDir && e.name != ascii "." && e.name != ascii "..").map DirEntry.name

/-- The listing of a directory succeeds and gives the subdirectories `names` in some
order; there may be files, whose paths fit the path buffer. -/
structure Lists (path : Bytes) (names : List Bytes) (dir : DirListing) : Prop where
  succeeds : dir.ret = 0
  names_perm : (subdirNames dir.entries).Perm names
  named : ∀ e ∈ dir.entries, e.name ≠ []
  fits : ∀ e ∈ dir.entries, path.length + e.name.length + 1 < pathBufferSize

instance (path : Bytes) (names : List Bytes) (dir : DirListing) :
    Decidable (Lists path names dir) :=
  decidable_of_iff
    (dir.ret = 0 ∧ (subdirNames dir.entries).Perm names ∧ (∀ e ∈ dir.entries, e.name ≠ []) ∧
      ∀ e ∈ dir.entries, path.length + e.name.length + 1 < pathBufferSize)
    ⟨fun ⟨h₁, h₂, h₃, h₄⟩ => ⟨h₁, h₂, h₃, h₄⟩, fun ⟨h₁, h₂, h₃, h₄⟩ => ⟨h₁, h₂, h₃, h₄⟩⟩

/-- The file system answers every listing as the tree has it. -/
structure Answers (b : StorageBackend) (dirs : Bytes → DirListing) (t : SessionTree) : Prop where
  dates : ∀ physical ∈ physicalPath b (ascii "/logs") .listDir,
    Lists (ascii "/logs") t.dates (dirs physical)
  sessions : ∀ date ∈ t.dates,
    ∀ physical ∈ physicalPath b (ascii "/logs/" ++ date) .listDir,
      Lists (ascii "/logs/" ++ date) (t.sessions date) (dirs physical)

instance (b : StorageBackend) (dirs : Bytes → DirListing) (t : SessionTree) :
    Decidable (Answers b dirs t) :=
  decidable_of_iff
    ((∀ physical ∈ physicalPath b (ascii "/logs") .listDir,
        Lists (ascii "/logs") t.dates (dirs physical)) ∧
      ∀ date ∈ t.dates, ∀ physical ∈ physicalPath b (ascii "/logs/" ++ date) .listDir,
        Lists (ascii "/logs/" ++ date) (t.sessions date) (dirs physical))
    ⟨fun ⟨h₁, h₂⟩ => ⟨h₁, h₂⟩, fun ⟨h₁, h₂⟩ => ⟨h₁, h₂⟩⟩

/-! ## Sorting names -/

theorem sortStops_swap (descending : Bool) (a b : Bytes)
    (h : sortStops descending a b = false) : sortStops descending b a = true := by
  cases descending <;> simp only [sortStops, strcmp_swap a b] at h ⊢ <;> simp at h ⊢ <;> omega

theorem sortStops_trans (descending : Bool) (a b c : Bytes)
    (hab : sortStops descending a b = true) (hbc : sortStops descending b c = true) :
    sortStops descending a c = true := by
  cases descending with
  | false =>
    have hab : strcmp a b ≤ 0 := by simpa [sortStops] using hab
    have hbc : strcmp b c ≤ 0 := by simpa [sortStops] using hbc
    have hac : strcmp a c ≤ 0 := by
      rw [strcmp_nonpos_iff] at hab hbc ⊢
      exact List.le_trans hab hbc
    simpa [sortStops] using hac
  | true =>
    have hab : strcmp b a ≤ 0 := by
      have h : 0 ≤ strcmp a b := by simpa [sortStops] using hab
      rw [strcmp_swap]
      omega
    have hbc : strcmp c b ≤ 0 := by
      have h : 0 ≤ strcmp b c := by simpa [sortStops] using hbc
      rw [strcmp_swap]
      omega
    have hac : strcmp c a ≤ 0 := by
      rw [strcmp_nonpos_iff] at hab hbc ⊢
      exact List.le_trans hbc hab
    rw [strcmp_swap] at hac
    simpa [sortStops] using hac

theorem sortNames_perm (names : List Bytes) (descending : Bool) :
    (sortNames names descending).Perm names :=
  InsertionSort.sort_perm (sortStops_swap descending) (sortStops_trans descending) names

/-- Different names are sorted strictly. -/
theorem sortNames_sorted {names : List Bytes} (h : DirNames names) (descending : Bool) :
    (sortNames names descending).Pairwise
      (fun a b => if descending then b < a else a < b) := by
  have hperm := sortNames_perm names descending
  have hsorted := InsertionSort.sort_sorted (sortStops_swap descending)
    (sortStops_trans descending) names
  have hnodup : (sortNames names descending).Pairwise (· ≠ ·) := hperm.nodup_iff.mpr h.nodup
  refine (hsorted.and hnodup).imp_of_mem ?_
  rintro a b ha hb ⟨hstops, hne⟩
  have hcstr {name : Bytes} (hname : name ∈ sortNames names descending) : cstr name = name :=
    cstr_of_no_nul (h.valid name (hperm.mem_iff.mp hname)).no_nul
  cases descending with
  | false =>
    have hle : strcmp a b ≤ 0 := by simpa [sortStops] using hstops
    rw [strcmp_nonpos_iff, hcstr ha, hcstr hb] at hle
    exact (List.le_iff_lt_or_eq.mp hle).resolve_right hne
  | true =>
    have hle : strcmp b a ≤ 0 := by
      have h : 0 ≤ strcmp a b := by simpa [sortStops] using hstops
      rw [strcmp_swap]
      omega
    rw [strcmp_nonpos_iff, hcstr ha, hcstr hb] at hle
    exact (List.le_iff_lt_or_eq.mp hle).resolve_right hne.symm

/-- The sorted names do not depend on the order in which a listing gives them. -/
theorem sortNames_eq_of_perm {names names' : List Bytes} (h : DirNames names)
    (hperm : names'.Perm names) (descending : Bool) :
    sortNames names' descending = sortNames names descending := by
  have h' : DirNames names' :=
    ⟨fun name hname => h.valid name (hperm.mem_iff.mp hname), hperm.nodup_iff.mpr h.nodup,
      hperm.length_eq ▸ h.length_le⟩
  refine List.Perm.eq_of_pairwise ?_ (sortNames_sorted h' descending)
    (sortNames_sorted h descending)
    (((sortNames_perm names' descending).trans hperm).trans (sortNames_perm names descending).symm)
  intro a b _ _ hab hba
  cases descending <;> exact absurd hba (List.lt_asymm hab)

/-! ## One listing -/

theorem subdirNames_cons (e : DirEntry) (entries : List DirEntry) :
    subdirNames (e :: entries) =
      if e.isDir = true ∧ e.name ≠ ascii "." ∧ e.name ≠ ascii ".." then
        e.name :: subdirNames entries
      else subdirNames entries := by
  unfold subdirNames
  by_cases h : e.isDir = true ∧ e.name ≠ ascii "." ∧ e.name ≠ ascii ".."
  · rw [if_pos h, List.filter_cons_of_pos (by simp [h]), List.map_cons]
  · rw [if_neg h, List.filter_cons_of_neg (by simpa [not_and_or, or_assoc] using h)]

/-- A directory whose name there is room for is collected. -/
theorem collectDirNamesCallback_dir {name : Bytes} (hname : DirName name) (path : Bytes)
    (size : Nat) {nc : NameCollectContext} (hroom : nc.names.length < nc.max) :
    collectDirNamesCallback (path ++ 47 :: name) true size nc =
      ({ nc with names := nc.names ++ [name] }, 0) := by
  have hlt : ¬ nc.max ≤ nc.names.length := Nat.not_le.mpr hroom
  have hlen : name.length < sessionNameLen := Nat.lt_succ_of_le hname.length_le
  simp [collectDirNamesCallback, hlt, afterLast_append hname.no_slash, copied_of_fits hlen]

theorem collectDirNamesCallback_file (path : Bytes) (size : Nat) (nc : NameCollectContext) :
    collectDirNamesCallback path false size nc = (nc, 0) := by
  simp [collectDirNamesCallback]

/-- The walk collects the names of the subdirectories, while the context has room. -/
theorem listEntries_collect {b : StorageBackend} {path : Bytes} (hslash : path.getLast? ≠ some 47)
    {entries : List DirEntry} (hnamed : ∀ e ∈ entries, e.name ≠ [])
    (hfits : ∀ e ∈ entries, path.length + e.name.length + 1 < pathBufferSize)
    (hvalid : ∀ name ∈ subdirNames entries, DirName name) {nc : NameCollectContext}
    (hroom : nc.names.length + (subdirNames entries).length ≤ nc.max) :
    listEntries (entryPath b path) collectDirNamesCallback entries nc =
      some ({ nc with names := nc.names ++ subdirNames entries }, 0) := by
  induction entries generalizing nc with
  | nil => simp [listEntries, subdirNames]
  | cons e entries ih =>
    have hnamed' : ∀ e' ∈ entries, e'.name ≠ [] := fun e' he' => hnamed e' (by simp [he'])
    have hfits' : ∀ e' ∈ entries, path.length + e'.name.length + 1 < pathBufferSize :=
      fun e' he' => hfits e' (by simp [he'])
    have hpath := entryPath_of_fits (b := b) hslash (hfits e (by simp))
    rw [subdirNames_cons] at hvalid hroom ⊢
    rw [listEntries, if_neg (hnamed e (by simp))]
    by_cases hdot : e.name = ascii "." ∨ e.name = ascii ".."
    · have hskip : ¬ (e.isDir = true ∧ e.name ≠ ascii "." ∧ e.name ≠ ascii "..") := by
        rintro ⟨-, hne, hne'⟩
        exact hdot.elim hne hne'
      rw [if_neg hskip] at hvalid hroom ⊢
      rw [if_pos hdot]
      exact ih hnamed' hfits' hvalid hroom
    · rw [if_neg hdot, hpath, Option.bind_some]
      by_cases hdir : e.isDir = true
      · have hcollect : e.isDir = true ∧ e.name ≠ ascii "." ∧ e.name ≠ ascii ".." :=
          ⟨hdir, not_or.mp hdot⟩
        rw [if_pos hcollect] at hvalid hroom ⊢
        have hname := hvalid e.name (by simp)
        rw [List.length_cons] at hroom
        rw [hdir, collectDirNamesCallback_dir hname path e.size (by omega)]
        simp only [ne_eq, not_true_eq_false, if_false]
        rw [ih hnamed' hfits' (fun name h => hvalid name (by simp [h]))
          (by simp only [List.length_append, List.length_singleton]; omega)]
        simp
      · have hfile : ¬ (e.isDir = true ∧ e.name ≠ ascii "." ∧ e.name ≠ ascii "..") :=
          fun h => hdir h.1
        rw [if_neg hfile] at hvalid hroom ⊢
        rw [Bool.eq_false_of_not_eq_true hdir, collectDirNamesCallback_file]
        exact ih hnamed' hfits' hvalid hroom

/-- A directory that is not given by its mount point has a path. -/
theorem physicalPath_listDir {b : StorageBackend} {path : Bytes}
    (hmount : startsWith (ascii "/SD:/") path = false) :
    ∃ physical, physicalPath b path .listDir = some physical := by
  cases b with
  | littlefs => exact ⟨path, rfl⟩
  | fatfs =>
    refine ⟨copied pathBufferSize (fatPath path), ?_⟩
    rw [physicalPath, backendPath, fatfsTranslatePath, if_neg (by simp [hmount])]

/-- A listing that is answered as the tree has it fills the context. -/
theorem collectDirNames_eq {b : StorageBackend} {dirs : Bytes → DirListing} {path : Bytes}
    {names : List Bytes} (hnames : DirNames names) (max : Nat) (hmax : 64 ≤ max)
    (hmount : startsWith (ascii "/SD:/") path = false) (hslash : path.getLast? ≠ some 47)
    (hlists : ∀ physical ∈ physicalPath b path .listDir, Lists path names (dirs physical)) :
    ∃ found, found.Perm names ∧
      collectDirNames b dirs path max = some { names := found, max, overflow := false } := by
  obtain ⟨physical, hphysical⟩ := physicalPath_listDir (b := b) hmount
  obtain ⟨hret, hperm, hnamed, hfits⟩ := hlists physical hphysical
  refine ⟨subdirNames (dirs physical).entries, hperm, ?_⟩
  have hroom : (subdirNames (dirs physical).entries).length ≤ max := by
    rw [hperm.length_eq]
    exact hnames.length_le.trans hmax
  rw [collectDirNames, storageListDir, hphysical, Option.bind_some, if_neg (by simp [hret]),
    listEntries_collect hslash hnamed hfits
      (fun name h => hnames.valid name (hperm.mem_iff.mp h)) (by simpa using hroom)]
  simp

/-! ## Emitting a page -/

/-- A pass over the keys counts them and emits the page that begins at `first`. -/
theorem foldl_emit (first : UInt32) {keys : List Bytes} (hlen : keys.length < 4294967296) :
    keys.foldl (Emission.emit first) ⟨0, []⟩ =
      { total := UInt32.ofNat keys.length
        sessions := (keys.drop first.toNat).take sessionListPageSize } := by
  induction keys using List.reverseRecOn with
  | nil => simp
  | append_singleton keys key ih =>
    rw [List.length_append, List.length_singleton] at hlen
    rw [List.foldl_append, List.foldl_cons, List.foldl_nil, ih (by omega), Emission.emit]
    have htotal : (UInt32.ofNat keys.length).toNat = keys.length :=
      UInt32.toNat_ofNat_of_lt' (by exact Nat.lt_of_succ_lt hlen)
    have hbefore : UInt32.ofNat keys.length < first ↔ keys.length < first.toNat := by
      rw [UInt32.lt_iff_toNat_lt, htotal]
    simp only [Emission.mk.injEq]
    refine ⟨by simp [UInt32.ofNat_add], ?_⟩
    by_cases hfirst : keys.length < first.toNat
    · rw [if_pos (.inl (hbefore.mpr hfirst)), List.drop_of_length_le (by omega),
        List.drop_of_length_le (by simp; omega)]
    · rw [List.drop_append_of_le_length (by omega)]
      by_cases hfull : sessionListPageSize ≤ (keys.drop first.toNat).length
      · rw [if_pos (.inr (by rw [List.length_take]; omega)), List.take_append_of_le_length hfull]
      · rw [List.take_of_length_le (by omega), if_neg, List.take_of_length_le]
        · rw [List.length_append, List.length_singleton]
          omega
        · rw [hbefore, not_or]
          exact ⟨hfirst, hfull⟩

namespace SessionTree

variable (t : SessionTree)

/-- The sessions in the order of the listing. -/
def listed : List (Bytes × Bytes) :=
  (sortNames t.dates true).flatMap fun date =>
    (sortNames (t.sessions date) false).map fun session => (date, session)

theorem listed_perm : t.listed.Perm t.keys :=
  (sortNames_perm t.dates true).flatMap fun date _ => (sortNames_perm (t.sessions date) false).map _

theorem mem_listed {date session : Bytes} :
    (date, session) ∈ t.listed ↔ date ∈ t.dates ∧ session ∈ t.sessions date := by
  simp [t.listed_perm.mem_iff, keys]

theorem listed_pairwise : t.listed.Pairwise ListedBefore := by
  rw [listed, List.pairwise_flatMap]
  constructor
  · intro date hdate
    have hnames := t.sessions_names date ((sortNames_perm _ _).mem_iff.mp hdate)
    rw [List.pairwise_map]
    exact (sortNames_sorted hnames false).imp fun hlt => .inr ⟨rfl, hlt⟩
  · refine (sortNames_sorted t.dates_names true).imp ?_
    rintro date date' hlt ⟨d, session⟩ hkey ⟨d', session'⟩ hkey'
    obtain ⟨_, _, hd⟩ := List.mem_map.mp hkey
    obtain ⟨_, _, hd'⟩ := List.mem_map.mp hkey'
    cases hd
    cases hd'
    exact .inl hlt

theorem listed_length_le : t.listed.length ≤ 4096 := by
  have hdates (dates : List Bytes) (h : ∀ date ∈ dates, date ∈ t.dates) :
      (dates.flatMap fun date => (t.sessions date).map fun session => (date, session)).length ≤
        64 * dates.length := by
    induction dates with
    | nil => simp
    | cons date dates ih =>
      have hdate := (t.sessions_names date (h date (by simp))).length_le
      have hrest := ih fun d hd => h d (by simp [hd])
      rw [List.flatMap_cons, List.length_append, List.length_map, List.length_cons]
      omega
  have hkeys : t.keys.length ≤ 64 * t.dates.length := hdates t.dates fun _ h => h
  have := t.dates_names.length_le
  rw [t.listed_perm.length_eq]
  omega

/-- Different sessions have different keys. -/
theorem keyText_nodup : (t.listed.map keyText).Nodup := by
  have hnodup : t.listed.Nodup := by
    refine t.listed_pairwise.imp ?_
    rintro a _ hbefore rfl
    rcases hbefore with hlt | ⟨-, hlt⟩
    · exact List.lt_irrefl a.1 hlt
    · exact List.lt_irrefl a.2 hlt
  refine List.Nodup.map_on ?_ hnodup
  rintro ⟨date, session⟩ hkey ⟨date', session'⟩ _ heq
  obtain ⟨hdate, hsession⟩ := t.mem_listed.mp hkey
  have hslash := (t.dates_names.valid date hdate).no_slash
  have hslash' := ((t.sessions_names date hdate).valid session hsession).no_slash
  have heq : date ++ 47 :: session = date' ++ 47 :: session' := heq
  obtain ⟨rfl, -, rfl⟩ := (List.append_cons_inj_of_notMem hslash hslash').mp heq
  rfl

end SessionTree

/-- The keys of the sessions of one date, in the order of the listing. -/
theorem listDate_eq {b : StorageBackend} {dirs : Bytes → DirListing} {t : SessionTree}
    (h : Answers b dirs t) {date : Bytes} (hdate : date ∈ t.dates) (first : UInt32)
    (r : Emission) (truncated : Bool) :
    listDate b dirs first (r, truncated) date =
      some (((sortNames (t.sessions date) false).map (fun session => keyText (date, session))).foldl
        (Emission.emit first) r, truncated) := by
  have hname := t.dates_names.valid date hdate
  have hsessions := t.sessions_names date hdate
  have hpath : datePath date = ascii "/logs/" ++ date := by
    apply copied_of_fits
    have hlogs : (ascii "/logs/").length = 6 := rfl
    have := hname.length_le
    rw [List.length_append]
    omega
  have hslash : (ascii "/logs/" ++ date).getLast? ≠ some 47 := by
    rw [List.getLast?_append_of_ne_nil _ hname.ne_nil]
    exact fun hlast => hname.no_slash (List.mem_of_getLast? hlast)
  obtain ⟨found, hperm, hcollect⟩ := collectDirNames_eq hsessions sessionListMaxPerDate
    (by decide) rfl hslash (h.sessions date hdate)
  rw [listDate, hpath, hcollect, Option.map_some, sortNames_eq_of_perm hsessions hperm,
    Bool.or_false]
  have hkey : (sortNames (t.sessions date) false).map (sessionKey date) =
      (sortNames (t.sessions date) false).map (fun session => keyText (date, session)) := by
    apply List.map_congr_left
    intro session hsession
    have := (hsessions.valid session ((sortNames_perm _ _).mem_iff.mp hsession)).length_le
    have := hname.length_le
    apply copied_of_fits
    simp only [List.length_append, List.length_cons, sessionNameLen]
    omega
  rw [hkey]

/-- All rounds of pass 2. -/
theorem foldlM_listDate {b : StorageBackend} {dirs : Bytes → DirListing} {t : SessionTree}
    (h : Answers b dirs t) {dates : List Bytes} (hdates : ∀ date ∈ dates, date ∈ t.dates)
    (first : UInt32) (r : Emission) (truncated : Bool) :
    dates.foldlM (listDate b dirs first) (r, truncated) =
      some ((dates.flatMap fun date =>
        (sortNames (t.sessions date) false).map fun session => keyText (date, session)).foldl
          (Emission.emit first) r, truncated) := by
  induction dates generalizing r with
  | nil => rfl
  | cons date dates ih =>
    rw [List.foldlM_cons, listDate_eq h (hdates date (by simp)), List.flatMap_cons,
      List.foldl_append]
    exact ih (fun d hd => hdates d (by simp [hd])) _

/-! ## The pages together -/

/-- The request asks for the page. -/
def Asks (request : SmpRequest) (page : UInt32) : Prop :=
  ∃ rest, decodeFields pageField (request.getD []) 0 = some (page, rest)

def pageRequest (page : Nat) : SmpRequest := some [(.tstr (ascii "page"), .int page)]

theorem asks_pageRequest (page : UInt32) : Asks (pageRequest page.toNat) page := by
  refine ⟨[], ?_⟩
  have hrange : page.toNat < 4294967296 := page.toNat_lt
  simp [pageRequest, decodeFields, pageField, CborItem.uint32?, hrange]

theorem totalPages_toNat {n : Nat} (h : n ≤ 4096) :
    ((UInt32.ofNat n + 64 - 1) / 64).toNat = (n + 63) / 64 := by
  have hrange : n < 4294967296 := Nat.lt_of_le_of_lt h (by decide)
  have hn : (UInt32.ofNat n).toNat = n := UInt32.toNat_ofNat_of_lt' hrange
  have hadd : (UInt32.ofNat n + 64 - 1).toNat = n + 63 := by
    rw [UInt32.toNat_sub, UInt32.toNat_add, hn]
    simp
    omega
  rw [UInt32.toNat_div, hadd]
  rfl

/-- Responses that page by page list every session of the tree once, in order. -/
structure CompleteListing (t : SessionTree) (responses : UInt32 → SessionListResponse)
    (pages : Nat) : Prop where
  page : ∀ page, (responses page).page = page
  totalPages : ∀ page, (responses page).totalPages.toNat = pages
  totalSessions : ∀ page, (responses page).totalSessions.toNat = t.keys.length
  truncated : ∀ page, (responses page).truncated = false
  count : ∀ page, (responses page).count = (responses page).sessions.length
  full : ∀ page : UInt32, page.toNat + 1 < pages → (responses page).count = 64
  complete : ∃ keys : List (Bytes × Bytes),
    (List.range pages).flatMap (fun page => (responses (UInt32.ofNat page)).sessions) =
      keys.map keyText ∧
    keys.Perm t.keys ∧ keys.Pairwise ListedBefore ∧ (keys.map keyText).Nodup

/-- The response to a request for a page. -/
def SessionTree.response (t : SessionTree) (page : UInt32) : SessionListResponse where
  sessions := ((t.listed.map keyText).drop (page * 64).toNat).take sessionListPageSize
  count := (((t.listed.map keyText).drop (page * 64).toNat).take sessionListPageSize).length
  page
  totalPages := (UInt32.ofNat t.listed.length + 64 - 1) / 64
  totalSessions := UInt32.ofNat t.listed.length
  truncated := false

/-- The response to one request. -/
theorem tempoMgmtSessionList_eq {b : StorageBackend} {dirs : Bytes → DirListing} {t : SessionTree}
    (h : Answers b dirs t) {request : SmpRequest} {page : UInt32} (hasks : Asks request page) :
    tempoMgmtSessionList b dirs request =
      some (.ok (t.response page)) := by
  obtain ⟨rest, hdecode⟩ := hasks
  obtain ⟨found, hperm, hcollect⟩ := collectDirNames_eq t.dates_names sessionListMaxDates
    (by decide) rfl (by decide) h.dates
  have hkeys : ((sortNames t.dates true).flatMap fun date =>
      (sortNames (t.sessions date) false).map fun session => keyText (date, session)) =
      t.listed.map keyText := by
    rw [SessionTree.listed, List.map_flatMap]
    simp only [List.map_map]
    rfl
  have hlen : (t.listed.map keyText).length < 4294967296 := by
    rw [List.length_map]
    exact Nat.lt_of_le_of_lt t.listed_length_le (by decide)
  rw [tempoMgmtSessionList, hdecode]
  simp only [hcollect, Option.bind_some]
  rw [sortNames_eq_of_perm t.dates_names hperm,
    foldlM_listDate h fun date hdate => (sortNames_perm _ _).mem_iff.mp hdate, hkeys,
    foldl_emit _ hlen, List.length_map]
  rfl

/-- The pages that exist are the pages of the sorted keys. -/
theorem SessionTree.response_sessions (t : SessionTree) {page : UInt32}
    (h : page.toNat < (t.listed.length + 63) / 64) :
    (t.response page).sessions = (t.listed.map keyText).page 64 page.toNat := by
  have hlen := t.listed_length_le
  have hfirst : (page * 64).toNat = page.toNat * 64 := by
    rw [UInt32.toNat_mul]
    exact Nat.mod_eq_of_lt (by simp; omega)
  rw [response, hfirst]
  rfl

theorem SessionTree.response_complete (t : SessionTree) :
    CompleteListing t t.response ((t.listed.length + 63) / 64) where
  page := fun _ => rfl
  totalPages := fun _ => totalPages_toNat t.listed_length_le
  totalSessions := by
    intro _
    rw [← t.listed_perm.length_eq]
    exact UInt32.toNat_ofNat_of_lt' (Nat.lt_of_le_of_lt t.listed_length_le (by decide))
  truncated := fun _ => rfl
  count := fun _ => rfl
  full := by
    intro page hpage
    have hcount : (t.response page).count = (t.response page).sessions.length := rfl
    have hfull : ((t.listed.map keyText).page 64 page.toNat).length = 64 := by
      rw [List.page_length, List.length_map]
      omega
    rw [hcount, t.response_sessions (by omega), hfull]
    rfl
  complete := by
    have hlen := t.listed_length_le
    refine ⟨t.listed, ?_, t.listed_perm, t.listed_pairwise, t.keyText_nodup⟩
    have hpages : ∀ page ∈ List.range ((t.listed.length + 63) / 64),
        (t.response (UInt32.ofNat page)).sessions = (t.listed.map keyText).page 64 page := by
      intro page hpage
      have hpage : page < (t.listed.length + 63) / 64 := List.mem_range.mp hpage
      have hlt : page < 4294967296 := by omega
      have htoNat : (UInt32.ofNat page).toNat = page := UInt32.toNat_ofNat_of_lt' hlt
      rw [t.response_sessions (by rwa [htoNat]), htoNat]
    rw [List.flatMap_congr hpages, List.flatMap_page_all (by rw [List.length_map]; omega)]

/-- **The paged listing is complete and ordered**: while the tree stays, whatever the
order in which the file system enumerates it, the pages together are the sorted keys
of all sessions. -/
theorem sessionList_complete (b : StorageBackend) (t : SessionTree)
    (dirs : UInt32 → Bytes → DirListing) (requests : UInt32 → SmpRequest)
    (hanswers : ∀ page, Answers b (dirs page) t) (hasks : ∀ page, Asks (requests page) page) :
    ∃ (responses : UInt32 → SessionListResponse) (pages : Nat),
      (∀ page, tempoMgmtSessionList b (dirs page) (requests page) = some (.ok (responses page))) ∧
        CompleteListing t responses pages :=
  ⟨t.response, (t.listed.length + 63) / 64,
    fun page => tempoMgmtSessionList_eq (hanswers page) (hasks page), t.response_complete⟩

/-- Two sessions of one date, and one of a later date. -/
def exampleTree : SessionTree where
  dates := [ascii "20250101", ascii "20250102"]
  sessions := fun date =>
    if date = ascii "20250101" then [ascii "00000007", ascii "0000002A"] else [ascii "000000FF"]
  dates_names := by decide +kernel
  sessions_names := by decide +kernel

/-- A card with the tree, enumerated out of order, and with a file besides. -/
def exampleDirs (physical : Bytes) : DirListing where
  ret := 0
  entries :=
    if physical = ascii "/SD:/logs" then
      [⟨ascii "README.TXT", false, 12⟩, ⟨ascii "20250101", true, 0⟩, ⟨ascii "20250102", true, 0⟩]
    else if physical = ascii "/SD:/logs/20250101" then
      [⟨ascii "0000002A", true, 0⟩, ⟨ascii "00000007", true, 0⟩]
    else [⟨ascii "000000FF", true, 0⟩]

theorem sessionList_complete_exampleTree :
    ∃ (responses : UInt32 → SessionListResponse) (pages : Nat),
      (∀ page, tempoMgmtSessionList .fatfs exampleDirs (pageRequest page.toNat) =
        some (.ok (responses page))) ∧
        CompleteListing exampleTree responses pages :=
  sessionList_complete .fatfs exampleTree (fun _ => exampleDirs)
    (fun page => pageRequest page.toNat) (fun _ => by decide +kernel)
    (fun page => asks_pageRequest page)

end TempoBt
