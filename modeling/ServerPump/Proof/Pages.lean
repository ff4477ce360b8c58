/-
**The pages of the history table.**

`filteredData`, `currentPage`, `rowsPerPage` and the filters are changed by different handlers, and
`applyLocalFilters` takes a page number back to 1 only if there are pages at all. With answers whose
records have known statuses none of it throws, and the pages fit what is shown.

* `Paged`: the invariant. The page number is in range, `filteredData` has the records of the cache
  that pass the filters, and it is drawn unless a request is open.
* `paged_applied`: `applyLocalFilters` establishes it, if no record passes only on page 1.
* `browse_pageNumbers`: going through the pages shows `filteredData`.
* `pages_show_all`: in every state of a run of calls the page shown is one of the pages, and they show
  each cached record that passes the filters once.
-/

import ServerPump.Library.Paging
import ServerPump.Proof.HistoryPage
import ServerPump.Proof.HistoryRecords

namespace ServerPump

open Paging

/-! ### Calls -/

/-- One event, where the functions behind the controls for the pages may be called at any time. -/
def callStep (browser : Browser) (page : HistoryPage) : HistoryEvent → HistoryPage
  | .goToPage target => goToPage target page
  | .changeRowsPerPage value => changeRowsPerPage value page
  | event => historyStep browser page event

/-- An answer, if the event is one, has as many records as it says, with statuses that have a text. -/
def Answered : HistoryEvent → Prop
  | .respond _ (.json (.records count data)) =>
    count ≤ data.length ∧ ∀ record ∈ data, record.Searchable
  | .respond _ _ => False
  | _ => True

/-! ### What should be shown -/

/-- A record passes the active search and status filters. -/
def Passes (browser : Browser) (filters : ActiveFilters) (record : HistoryRecord) : Prop :=
  (filters.searchTerm = "" ∨ matchesTerm browser filters.searchTerm record) ∧
    (filters.pump1Status = none ∨ filters.pump1Status = some record.pump1Status) ∧
      (filters.pump2Status = none ∨ filters.pump2Status = some record.pump2Status)

instance (browser : Browser) (filters : ActiveFilters) : DecidablePred (Passes browser filters) :=
  fun _ => inferInstanceAs (Decidable (_ ∧ _ ∧ _))

/-- The cached records that pass the filters. -/
def HistoryPage.matching (browser : Browser) (page : HistoryPage) : List HistoryRecord :=
  match page.historyCache with
  | some ⟨_, .records _ data⟩ => data.filter fun record => Passes browser page.activeFilters record
  | _ => []

/-- The records the table shows. -/
def HistoryBody.rows : HistoryBody → List HistoryRecord
  | .table rows => rows
  | _ => []

/-- What is shown when one page after the other is called up. -/
def browse : HistoryPage → List ℤ → List HistoryRecord
  | _, [] => []
  | page, target :: rest =>
    (goToPage target page).historyBody.rows ++ browse (goToPage target page) rest

/-- `1 .. totalPages` -/
def HistoryPage.pageNumbers (page : HistoryPage) : List ℤ :=
  (List.range page.totalPages).map fun index : ℕ => (index : ℤ) + 1

/-- **The law**: the page number is in range, records that were found are on display unless a request is
open, and going through the pages shows each cached record that passes the filters once. -/
structure ShowsAll (browser : Browser) (page : HistoryPage) : Prop where
  first : 1 ≤ page.currentPage
  last : page.currentPage ≤ max 1 page.totalPages
  shown : page.filteredData ≠ [] → page.pageData ≠ [] ∧
    (page.historyBody = .table page.pageData ∨ page.historyBody = .loading ∧ page.inFlight ≠ [])
  complete : (browse page page.pageNumbers).Perm (page.matching browser)

/-! ### Pages -/

theorem rowsPerPage_pos (rowsPerPage : RowsPerPage) : 0 < rowsPerPage.toNat := by
  cases rowsPerPage <;> decide

theorem totalPages_eq (page : HistoryPage) :
    page.totalPages = pageCount page.rowsPerPage.toNat page.filteredData := rfl

/-- A page number in range is drawn as its page. -/
theorem goToPage_number {page : HistoryPage} {index : ℕ} (inside : index < page.totalPages) :
    (goToPage ((index : ℤ) + 1) page).historyBody =
        .table (pageAt page.rowsPerPage.toNat index page.filteredData) ∧
      (goToPage ((index : ℤ) + 1) page).filteredData = page.filteredData ∧
      (goToPage ((index : ℤ) + 1) page).rowsPerPage = page.rowsPerPage := by
  have inRange : ¬ ((index : ℤ) + 1 < 1 ∨ (index : ℤ) + 1 > page.totalPages) := by omega
  unfold goToPage
  rw [if_neg inRange]
  exact ⟨rfl, rfl, rfl⟩

theorem browse_numbers (indices : List ℕ) (page : HistoryPage)
    (inside : ∀ index ∈ indices, index < page.totalPages) :
    browse page (indices.map fun index : ℕ => (index : ℤ) + 1) =
      indices.flatMap fun index => pageAt page.rowsPerPage.toNat index page.filteredData := by
  induction indices generalizing page with
  | nil => rfl
  | cons index rest ih =>
    obtain ⟨here, later⟩ := List.forall_mem_cons.mp inside
    obtain ⟨body, filtered, size⟩ := goToPage_number here
    have same : (goToPage ((index : ℤ) + 1) page).totalPages = page.totalPages := by
      rw [totalPages_eq, totalPages_eq, filtered, size]
    rw [List.map_cons, browse, ih _ fun other member => same ▸ later other member, body, filtered, size]
    rfl

/-- **Going through the pages shows `filteredData`.** -/
theorem browse_pageNumbers (page : HistoryPage) : browse page page.pageNumbers = page.filteredData := by
  unfold HistoryPage.pageNumbers
  rw [browse_numbers _ page fun index member => List.mem_range.mp member, totalPages_eq]
  exact flatMap_pageAt (rowsPerPage_pos page.rowsPerPage) page.filteredData

/-! ### Local filters -/

/-- The cache is empty, or an answer the search does not throw on. -/
def CacheSearchable (page : HistoryPage) : Prop :=
  ∀ cached ∈ page.historyCache, ∃ count data, cached.answer = .records count data ∧
    ∀ record ∈ data, record.Searchable

theorem statusFilter_eq (chosen : Option ℤ) (statusOf : HistoryRecord → ℤ) (data : List HistoryRecord) :
    statusFilter chosen statusOf data =
      data.filter fun record => chosen = none ∨ chosen = some (statusOf record) := by
  cases chosen with
  | none => simp [statusFilter]
  | some status => simp [statusFilter, eq_comm]

/-- **What `applyLocalFilters` keeps** are the records that pass, sorted. -/
theorem localData_eq {browser : Browser} {page : HistoryPage} {data : List HistoryRecord}
    (searchable : ∀ record ∈ data, record.Searchable) :
    localData browser page data = some
      (browser.sort (compareBy page.sortColumn page.sortDirection)
        (data.filter fun record => Passes browser page.activeFilters record)) := by
  have passing : statusFilter page.activeFilters.pump2Status HistoryRecord.pump2Status
      (statusFilter page.activeFilters.pump1Status HistoryRecord.pump1Status
        (data.filter fun record => page.activeFilters.searchTerm = "" ∨
          matchesTerm browser page.activeFilters.searchTerm record)) =
        data.filter fun record => Passes browser page.activeFilters record := by
    rw [statusFilter_eq, statusFilter_eq, List.filter_filter, List.filter_filter]
    refine List.filter_congr fun record _ => ?_
    rw [← Bool.decide_and, ← Bool.decide_and, decide_eq_decide, Passes]
    tauto
  unfold localData
  rw [searchFilter_eq browser page.activeFilters.searchTerm searchable, Option.map_some, passing]

/-! ### The invariant -/

/-- **The invariant of the calls.** -/
structure Paged (browser : Browser) (page : HistoryPage) : Prop where
  first : 1 ≤ page.currentPage
  last : page.currentPage ≤ max 1 page.totalPages
  shown : page.filteredData ≠ [] →
    page.historyBody = .table page.pageData ∨ page.historyBody = .loading ∧ page.inFlight ≠ []
  cached : CacheSearchable page
  filtered : page.filteredData.Perm (page.matching browser)

theorem paged_initial (browser : Browser) : Paged browser {} where
  first := le_refl 1
  last := le_max_left 1 _
  shown := fun nonempty => absurd rfl nonempty
  cached := nofun
  filtered := List.Perm.refl []

/-- **The law follows from the invariant.** -/
theorem showsAll_of_paged {browser : Browser} {page : HistoryPage} (paged : Paged browser page) :
    ShowsAll browser page where
  first := paged.first
  last := paged.last
  shown := by
    intro nonempty
    refine ⟨?_, paged.shown nonempty⟩
    have positive := rowsPerPage_pos page.rowsPerPage
    have some : 0 < page.totalPages := pageCount_pos positive nonempty
    have inside : page.currentPage - 1 < page.totalPages := by
      have := paged.first
      have := paged.last
      omega
    exact pageAt_ne_nil positive inside
  complete := by
    rw [browse_pageNumbers]
    exact paged.filtered

section Calls

variable {browser : Browser} {page : HistoryPage}

/-- Without a cache nothing was found. -/
theorem Paged.filteredData_of_none (paged : Paged browser page) (none : page.historyCache = none) :
    page.filteredData = [] := by
  have filtered := paged.filtered
  unfold HistoryPage.matching at filtered
  rw [none] at filtered
  exact filtered.eq_nil

/-- Where nothing passes, the page number is 1. -/
theorem Paged.currentPage_of_nil (paged : Paged browser page) (nothing : page.matching browser = []) :
    page.currentPage = 1 := by
  have empty : page.filteredData = [] := (nothing ▸ paged.filtered).eq_nil
  have pages : page.totalPages = 0 := by
    rw [totalPages_eq, empty]
    exact pageCount_nil (rowsPerPage_pos page.rowsPerPage)
  have := paged.first
  have := paged.last
  omega

/-- The table and the controls are drawn. -/
theorem paged_render (first : 1 ≤ page.currentPage) (last : page.currentPage ≤ max 1 page.totalPages)
    (cached : CacheSearchable page) (filtered : page.filteredData.Perm (page.matching browser)) :
    Paged browser (renderPagination (renderHistoryTable page)) :=
  ⟨first, last, fun _ => .inl rfl, cached, filtered⟩

/-- The spinner is drawn and a request sent. -/
theorem paged_loadHistory (first : 1 ≤ page.currentPage)
    (last : page.currentPage ≤ max 1 page.totalPages) (cached : CacheSearchable page)
    (filtered : page.filteredData.Perm (page.matching browser)) : Paged browser (loadHistory page) :=
  ⟨first, last, fun _ => .inr ⟨rfl, List.concat_ne_nil _ _⟩, cached, filtered⟩

theorem clampPage_eq (page : HistoryPage) :
    page.clampPage = { page with
      currentPage := if page.currentPage > page.totalPages ∧ page.totalPages > 0 then 1
        else page.currentPage } := by
  unfold HistoryPage.clampPage
  split <;> rfl

/-- **A drawing from the cache**: a page number behind the last page is taken back, except if there is no
page. -/
theorem paged_drawHistory {request : DateRange} {count : ℕ} {data found : List HistoryRecord}
    (cache : page.historyCache = some ⟨request, .records count data⟩)
    (searchable : ∀ record ∈ data, record.Searchable)
    (passing : found.Perm (data.filter fun record => Passes browser page.activeFilters record))
    (first : 1 ≤ page.currentPage) (onFirst : found = [] → page.currentPage = 1) :
    Paged browser (drawHistory count data found page) := by
  let shown : HistoryPage := { page with filteredData := found }
  let clamped := if page.currentPage > shown.totalPages ∧ shown.totalPages > 0 then 1
    else page.currentPage
  have inRange : 1 ≤ clamped ∧ clamped ≤ max 1 shown.totalPages := by
    by_cases behind : page.currentPage > shown.totalPages ∧ shown.totalPages > 0
    · rw [show clamped = 1 from if_pos behind]
      exact ⟨le_refl 1, le_max_left 1 _⟩
    · rw [show clamped = page.currentPage from if_neg behind]
      refine ⟨first, ?_⟩
      by_cases nothing : found = []
      · rw [onFirst nothing]
        exact le_max_left 1 _
      · have pages : 0 < shown.totalPages := pageCount_pos (rowsPerPage_pos shown.rowsPerPage) nothing
        omega
  have cached : CacheSearchable page := by
    intro other isCached
    rw [cache] at isCached
    cases isCached
    exact ⟨count, data, rfl, searchable⟩
  have filtered : found.Perm (page.matching browser) := by
    unfold HistoryPage.matching
    rw [cache]
    exact passing
  have rendered : Paged browser (renderPagination (renderHistoryTable shown.clampPage)) := by
    rw [clampPage_eq]
    exact paged_render inRange.1 inRange.2 cached filtered
  exact ⟨rendered.first, rendered.last, rendered.shown, rendered.cached, rendered.filtered⟩

section Sorted

variable (permutes : ∀ compare data, (browser.sort compare data).Perm data)

include permutes in
/-- **`applyLocalFilters` establishes the invariant**, if no record passes only on page 1. -/
theorem paged_applied {request : DateRange} {count : ℕ} {data : List HistoryRecord}
    (cache : page.historyCache = some ⟨request, .records count data⟩)
    (searchable : ∀ record ∈ data, record.Searchable) (first : 1 ≤ page.currentPage)
    (onFirst : page.matching browser = [] → page.currentPage = 1) :
    ∃ drawn, applyLocalFilters browser page = some drawn ∧ Paged browser drawn := by
  have sorted := permutes (compareBy page.sortColumn page.sortDirection)
    (data.filter fun record => Passes browser page.activeFilters record)
  have matching : page.matching browser =
      data.filter fun record => Passes browser page.activeFilters record := by
    unfold HistoryPage.matching
    rw [cache]
  unfold applyLocalFilters
  rw [cache]
  dsimp only
  rw [localData_eq searchable, Option.map_some]
  refine ⟨_, rfl, paged_drawHistory cache searchable sorted first fun nothing => onFirst ?_⟩
  rw [matching]
  exact (nothing ▸ sorted).nil_eq.symm

include permutes in
/-- A handler that assigns and then draws. -/
theorem paged_redraw (cached : CacheSearchable page) (first : 1 ≤ page.currentPage)
    (onFirst : page.matching browser = [] → page.currentPage = 1)
    (uncached : page.historyCache = none → page.filteredData = []) :
    Paged browser (redraw browser page) := by
  unfold redraw
  cases cache : page.historyCache with
  | none =>
    have nothing : page.matching browser = [] := by
      unfold HistoryPage.matching
      rw [cache]
    have empty := uncached cache
    have onlyPage := onFirst nothing
    simp only [applyLocalFilters, cache, Option.getD_some]
    refine ⟨first, by omega, fun nonempty => absurd empty nonempty, cached, ?_⟩
    rw [empty, nothing]
  | some answered =>
    obtain ⟨request, answer⟩ := answered
    obtain ⟨count, data, rfl, searchable⟩ := cached _ cache
    obtain ⟨drawn, applied, paged⟩ := paged_applied permutes cache searchable first onFirst
    rwa [applied, Option.getD_some]

include permutes in
/-- Drawing again keeps the invariant. -/
theorem paged_redrawn (paged : Paged browser page) : Paged browser (redraw browser page) :=
  paged_redraw permutes paged.cached paged.first paged.currentPage_of_nil paged.filteredData_of_none

include permutes in
/-- An answer is drawn from page 1. -/
theorem paged_receiveHistory {count : ℕ} {data : List HistoryRecord} (request : DateRange)
    (counted : count ≤ data.length) (searchable : ∀ record ∈ data, record.Searchable)
    (page : HistoryPage) :
    Paged browser (receiveHistory browser request (.json (.records count data)) page) := by
  have cache := historyCache_storeHistory request count data page
  obtain ⟨drawn, applied, paged⟩ :=
    paged_applied permutes cache searchable (le_refl 1) fun _ => rfl
  simp only [receiveHistory, if_neg (not_lt.mpr counted), applied, Option.getD_some]
  exact paged

/-! ### One call -/

theorem paged_goToPage (target : ℤ) (paged : Paged browser page) :
    Paged browser (goToPage target page) := by
  unfold goToPage
  split
  · exact paged
  · rename_i inRange
    obtain ⟨low, high⟩ := not_or.mp inRange
    have first : 1 ≤ target.toNat := by omega
    have last : target.toNat ≤ max 1 page.totalPages := by omega
    exact paged_render first last paged.cached paged.filtered

theorem paged_changeRowsPerPage (value : RowsPerPage) (paged : Paged browser page) :
    Paged browser (changeRowsPerPage value page) :=
  paged_render (le_refl 1) (le_max_left 1 _) paged.cached paged.filtered

/-- The invariant does not look at the order. -/
theorem paged_chooseSort (column : SortColumn) (paged : Paged browser page) :
    Paged browser (chooseSort column page) := by
  unfold chooseSort
  split <;> exact ⟨paged.first, paged.last, paged.shown, paged.cached, paged.filtered⟩

theorem paged_reload (dates : DateRange) (inputs : HistoryInputs) (paged : Paged browser page) :
    Paged browser (loadHistory { page with
      activeFilters := { page.activeFilters with toDateRange := dates }, inputs := inputs }) :=
  paged_loadHistory paged.first paged.last paged.cached paged.filtered

include permutes in
/-- **A call keeps the invariant.** -/
theorem paged_step {event : HistoryEvent} (answered : Answered event) (paged : Paged browser page) :
    Paged browser (callStep browser page event) := by
  cases event with
  | applyQuickFilter range now => exact paged_reload _ _ paged
  | filterByDateRange fromInput toInput => exact paged_reload _ _ paged
  | clearDateFilter => exact paged_reload _ _ paged
  | refreshHistory => exact paged_loadHistory (le_refl 1) (le_max_left 1 _) nofun (List.Perm.refl [])
  | showPage target =>
    dsimp only [callStep, historyStep, showPage]
    split
    · exact paged_loadHistory paged.first paged.last paged.cached paged.filtered
    · exact paged
  | filterByStatus pump status =>
    refine paged_redraw permutes ?_ ?_ ?_ ?_
    · cases pump <;> exact paged.cached
    · cases pump <;> exact le_refl 1
    · cases pump <;> exact fun _ => rfl
    · cases pump <;> exact paged.filteredData_of_none
  | handleSearchInput value =>
    exact ⟨paged.first, paged.last, paged.shown, paged.cached, paged.filtered⟩
  | searchTimer =>
    dsimp only [callStep, historyStep, searchTimer]
    split
    · exact paged_redraw permutes paged.cached (le_refl 1) (fun _ => rfl) paged.filteredData_of_none
    · exact paged
  | sortTable column => exact paged_redrawn permutes (paged_chooseSort column paged)
  | goToPage target => exact paged_goToPage target paged
  | changeRowsPerPage value => exact paged_changeRowsPerPage value paged
  | respond index response =>
    dsimp only [callStep, historyStep]
    split
    · cases response with
      | failed => exact answered.elim
      | json answer =>
        cases answer with
        | error => exact answered.elim
        | records count data => exact paged_receiveHistory permutes _ answered.1 answered.2 _
    · exact paged

end Sorted

end Calls

/-- **In every state of a run of calls the page shown is one of the pages, and they show each cached
record that passes the filters once.** -/
theorem pages_show_all (browser : Browser)
    (permutes : ∀ compare data, (browser.sort compare data).Perm data) (events : List HistoryEvent)
    (answered : ∀ event ∈ events, Answered event) :
    Runs.Always (callStep browser) (ShowsAll browser) {} events := by
  have kept : ∀ (page : HistoryPage) (event : HistoryEvent), Paged browser page → Answered event →
      Paged browser (callStep browser page event) :=
    fun _ _ paged isAnswered => paged_step permutes isAnswered paged
  have paged := Runs.always_of_guarded kept (paged_initial browser)
    (Runs.guarded_iff_forall.mpr answered)
  exact paged.mono fun _ => showsAll_of_paged

/-- Both pumps are running. -/
def runningRecord : HistoryRecord := ⟨1700000000, 1, 1, 1, 1, 0, 0⟩

/-- 25 records are loaded, seen in pages of ten, searched, sorted and filtered. -/
def browsedHistory : List HistoryEvent :=
  [.showPage .history, .respond 0 (.json (.records 25 (List.replicate 25 runningRecord))),
    .changeRowsPerPage .ten, .goToPage 3, .handleSearchInput "run", .searchTimer, .goToPage 2,
    .sortTable .pump1, .filterByStatus .pump1 (some 0), .goToPage (-1)]

theorem pages_show_all_browsed :
    (∀ compare data, (sampleBrowser.sort compare data).Perm data) ∧
      (∀ event ∈ browsedHistory, Answered event) ∧
        Runs.Always (callStep sampleBrowser) (ShowsAll sampleBrowser) {} browsedHistory := by
  have permutes : ∀ compare data, (sampleBrowser.sort compare data).Perm data :=
    fun _ data => List.mergeSort_perm data _
  have records : Answered (.respond 0 (.json (.records 25 (List.replicate 25 runningRecord)))) := by
    refine ⟨le_of_eq List.length_replicate.symm, fun record member => ?_⟩
    rw [List.eq_of_mem_replicate member]
    exact ⟨rfl, rfl⟩
  have answered : ∀ event ∈ browsedHistory, Answered event := by
    intro event member
    simp only [browsedHistory, List.mem_cons, List.not_mem_nil, or_false] at member
    rcases member with rfl | rfl | rfl | rfl | rfl | rfl | rfl | rfl | rfl | rfl <;>
      first | exact records | exact trivial
  exact ⟨permutes, answered, pages_show_all sampleBrowser permutes browsedHistory answered⟩

end ServerPump
