-- SUMMARY: One pass of the session listing over any storage, the page that it returns, and the page numbers past the end whose page is empty.
import TempoBt.App.SessionList

/-!
# Pages of the session list

Whatever the file system answers, a request walks the whole storage, and its page is cut
from the keys that the walk finds. The first key of the page is a 32-bit product.
-/

namespace TempoBt

open CString

/-! ## The walk -/

/-- What the walk of one request finds: the keys in the order of the listing, and whether a
limit was met. -/
structure FoundSessions where
  keys : List Bytes
  overflow : Bool

/-- The keys of one date directory. -/
def foundInDate (b : StorageBackend) (dirs : Bytes → DirListing) (date : Bytes) :
    Option FoundSessions :=
  (collectDirNames b dirs (datePath date) sessionListMaxPerDate).map fun sess =>
    ⟨(sortNames sess.names false).map (sessionKey date), sess.overflow⟩

/-- The keys of all date directories. The result is `none` where the walk leaves a path
buffer. -/
def foundSessions (b : StorageBackend) (dirs : Bytes → DirListing) : Option FoundSessions :=
  (collectDirNames b dirs (ascii "/logs") sessionListMaxDates).bind fun dates =>
    ((sortNames dates.names true).mapM (foundInDate b dirs)).map fun found =>
      ⟨found.flatMap FoundSessions.keys, dates.overflow || found.any FoundSessions.overflow⟩

/-- The response that the keys make. -/
def FoundSessions.response (found : FoundSessions) (page : UInt32) : SessionListResponse where
  sessions := (found.keys.drop (page * 64).toNat).take sessionListPageSize
  count := ((found.keys.drop (page * 64).toNat).take sessionListPageSize).length
  page
  totalPages := (UInt32.ofNat found.keys.length + 64 - 1) / 64
  totalSessions := UInt32.ofNat found.keys.length
  truncated := found.overflow

variable {b : StorageBackend} {dirs : Bytes → DirListing}

/-! ## How much the walk finds -/

/-- A context never holds more names than it has room for. -/
theorem collectDirNames_length {path : Bytes} {max : Nat} {nc : NameCollectContext}
    (h : collectDirNames b dirs path max = some nc) : nc.names.length ≤ max := by
  obtain ⟨r, hr, rfl⟩ := Option.map_eq_some_iff.mp h
  suffices hroom : r.1.max = max ∧ r.1.names.length ≤ max from hroom.2
  apply storageListDir_invariant (I := fun nc => nc.max = max ∧ nc.names.length ≤ max) _ _ hr
  swap
  · exact ⟨rfl, Nat.zero_le max⟩
  rintro - - e - - - nc ⟨rfl, hlength⟩
  rw [collectDirNamesCallback]
  split
  · exact ⟨rfl, hlength⟩
  · split
    · exact ⟨rfl, hlength⟩
    · refine ⟨rfl, ?_⟩
      simp only [List.length_append, List.length_singleton]
      omega

theorem foundInDate_length {date : Bytes} {found : FoundSessions}
    (h : foundInDate b dirs date = some found) : found.keys.length ≤ 64 := by
  obtain ⟨sess, hsess, rfl⟩ := Option.map_eq_some_iff.mp h
  rw [List.length_map, (sortNames_perm _ _).length_eq]
  exact collectDirNames_length hsess

theorem foundSessions_length {found : FoundSessions} (h : foundSessions b dirs = some found) :
    found.keys.length ≤ 4096 := by
  obtain ⟨dates, hdates, h⟩ := Option.bind_eq_some_iff.mp h
  obtain ⟨parts, hparts, rfl⟩ := Option.map_eq_some_iff.mp h
  have hkeys : ∀ {names : List Bytes} {parts : List FoundSessions},
      names.mapM (foundInDate b dirs) = some parts →
      (parts.flatMap FoundSessions.keys).length ≤ 64 * names.length := by
    intro names
    induction names with
    | nil =>
      intro parts hparts
      cases hparts
      simp
    | cons date names ih =>
      intro parts hparts
      rw [List.mapM_cons] at hparts
      obtain ⟨part, hpart, hparts⟩ := Option.bind_eq_some_iff.mp hparts
      obtain ⟨rest, hrest, hparts⟩ := Option.bind_eq_some_iff.mp hparts
      cases hparts
      have := foundInDate_length hpart
      have := ih hrest
      rw [List.flatMap_cons, List.length_append, List.length_cons]
      omega
  have hall := hkeys hparts
  have hdates : (sortNames dates.names true).length ≤ 64 := by
    rw [(sortNames_perm _ _).length_eq]
    exact collectDirNames_length hdates
  simp only
  omega

/-! ## The response -/

/-- All rounds of pass 2 are one pass over the keys. -/
theorem foldlM_listDate_found (first : UInt32) (names : List Bytes) (r : Emission)
    (truncated : Bool) :
    names.foldlM (listDate b dirs first) (r, truncated) =
      (names.mapM (foundInDate b dirs)).map fun found =>
        ((found.flatMap FoundSessions.keys).foldl (Emission.emit first) r,
          truncated || found.any FoundSessions.overflow) := by
  induction names generalizing r truncated with
  | nil => simp
  | cons date names ih =>
    rw [List.foldlM_cons, List.mapM_cons, foundInDate, listDate]
    cases hdate : collectDirNames b dirs (datePath date) sessionListMaxPerDate with
    | none => rfl
    | some sess =>
      simp only [Option.map_some, Option.bind_eq_bind, Option.bind_some, ih]
      cases names.mapM (foundInDate b dirs) with
      | none => rfl
      | some rest => simp [List.flatMap_cons, List.foldl_append, Bool.or_assoc]

/-- A request is answered from what the walk finds. -/
theorem tempoMgmtSessionList_found {request : SmpRequest} {page : UInt32}
    (hasks : Asks request page) :
    tempoMgmtSessionList b dirs request =
      (foundSessions b dirs).map fun found => .ok (found.response page) := by
  obtain ⟨rest, hdecode⟩ := hasks
  cases hfound : foundSessions b dirs with
  | none =>
    rw [tempoMgmtSessionList, hdecode]
    simp only [foldlM_listDate_found, Option.map_map]
    rw [foundSessions] at hfound
    cases hdates : collectDirNames b dirs (ascii "/logs") sessionListMaxDates with
    | none => rfl
    | some dates =>
      rw [hdates, Option.bind_some, Option.map_eq_none_iff] at hfound
      rw [Option.bind_some, hfound]
      rfl
  | some found =>
    have hlength := foundSessions_length hfound
    obtain ⟨dates, hdates, hfound⟩ := Option.bind_eq_some_iff.mp hfound
    obtain ⟨parts, hparts, rfl⟩ := Option.map_eq_some_iff.mp hfound
    rw [tempoMgmtSessionList, hdecode]
    simp only [hdates, Option.bind_some, foldlM_listDate_found, hparts, Option.map_some]
    rw [foldl_emit _ (Nat.lt_of_le_of_lt hlength (by decide))]
    rfl

/-- The pages that exist are together the keys that the walk finds. -/
theorem FoundSessions.flatMap_response {found : FoundSessions}
    (hlength : found.keys.length ≤ 4096) :
    ((List.range (found.response 0).totalPages.toNat).flatMap fun page =>
      (found.response (UInt32.ofNat page)).sessions) = found.keys := by
  have hpages : (found.response 0).totalPages.toNat = (found.keys.length + 63) / 64 :=
    totalPages_toNat hlength
  have hpage : ∀ page ∈ List.range ((found.keys.length + 63) / 64),
      (found.response (UInt32.ofNat page)).sessions = found.keys.page 64 page := by
    intro page hpage
    have hpage : page < (found.keys.length + 63) / 64 := List.mem_range.mp hpage
    have hlt : page < 4294967296 := by omega
    have htoNat : (UInt32.ofNat page).toNat = page := UInt32.toNat_ofNat_of_lt' hlt
    have hfirst : (UInt32.ofNat page * 64).toNat = page * 64 := by
      rw [UInt32.toNat_mul, htoNat]
      exact Nat.mod_eq_of_lt (by simp; omega)
    rw [FoundSessions.response, hfirst]
    rfl
  rw [hpages, List.flatMap_congr hpage, List.flatMap_page_all (by omega)]

/-! ## Past the end -/

/-- **Pages past the end.** A page number at or above `total_pages` gets an empty page
exactly when it is below 2^26, or its product with the page size comes out past the last
session all the same. -/
theorem sessionList_pastEnd_iff {request : SmpRequest} {page : UInt32} {found : FoundSessions}
    (hasks : Asks request page) (hfound : foundSessions b dirs = some found) :
    ∃ response, tempoMgmtSessionList b dirs request = some (.ok response) ∧
      ((response.totalPages ≤ page → response.sessions = [] ∧ response.count = 0) ↔
        (page.toNat < 67108864 ∨ found.keys.length ≤ page.toNat * 64 % 4294967296)) := by
  refine ⟨found.response page, ?_, ?_⟩
  · rw [tempoMgmtSessionList_found hasks, hfound, Option.map_some]
  have hlength := foundSessions_length hfound
  have hpages : (found.response page).totalPages.toNat = (found.keys.length + 63) / 64 :=
    totalPages_toNat hlength
  have hfirst : (page * 64).toNat = page.toNat * 64 % 4294967296 := UInt32.toNat_mul page 64
  have hempty : (found.response page).sessions = [] ∧ (found.response page).count = 0 ↔
      found.keys.length ≤ page.toNat * 64 % 4294967296 := by
    have hcount : (found.response page).count = (found.response page).sessions.length := rfl
    have hsessions : (found.response page).sessions = [] ↔
        found.keys.length ≤ page.toNat * 64 % 4294967296 := by
      simp [FoundSessions.response, sessionListPageSize, hfirst]
    rw [hcount, ← hsessions]
    constructor
    · exact And.left
    · intro hnil
      exact ⟨hnil, by rw [hnil]; rfl⟩
  rw [hempty, UInt32.le_iff_toNat_le, hpages]
  constructor
  · intro h
    by_contra hcond
    rw [not_or] at hcond
    exact hcond.2 (h (by omega))
  · intro hcond hpast
    rcases hcond with hsmall | hproduct
    · omega
    · exact hproduct

theorem sessionList_pastEnd_iff_exampleTree :
    ∃ response,
      tempoMgmtSessionList .fatfs exampleDirs (pageRequest 7) = some (.ok response) ∧
      ((response.totalPages ≤ 7 → response.sessions = [] ∧ response.count = 0) ↔
        ((7 : UInt32).toNat < 67108864 ∨
          ([ascii "20250102/000000FF", ascii "20250101/00000007", ascii "20250101/0000002A"] :
            List Bytes).length ≤ (7 : UInt32).toNat * 64 % 4294967296)) :=
  have hfound : foundSessions .fatfs exampleDirs =
      some ⟨[ascii "20250102/000000FF", ascii "20250101/00000007", ascii "20250101/0000002A"],
        false⟩ := rfl
  sessionList_pastEnd_iff (asks_pageRequest 7) hfound

/-- Page 2^26 of three sessions is page 0 again. -/
theorem sessionList_pastEnd_wraps :
    ∃ response,
      tempoMgmtSessionList .fatfs exampleDirs (pageRequest 67108864) = some (.ok response) ∧
      ¬ (response.totalPages ≤ 67108864 → response.sessions = [] ∧ response.count = 0) := by
  refine ⟨(FoundSessions.mk [ascii "20250102/000000FF", ascii "20250101/00000007",
    ascii "20250101/0000002A"] false).response 67108864, ?_, by decide⟩
  have hasks : Asks (pageRequest 67108864) 67108864 := asks_pageRequest 67108864
  rw [tempoMgmtSessionList_found hasks]
  rfl

end TempoBt
