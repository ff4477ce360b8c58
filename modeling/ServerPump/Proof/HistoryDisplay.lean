/-
**What the history page displays is of one piece.**

Handlers change the filters, the order, the page number and the size of a page; answers come late, fail, or
report an error, and replace the cache. What is drawn stays until it is drawn again. Whenever a table is on
display all of it agrees: it is the current page of the cached records that pass the filters, in the chosen
order, with the numbers above it and the buttons below it.

* `coherent_event`, `coherent_receive`: the invariant, for one event.
* `leaf_eq`: what the buttons lead through.
* `table_coherent`: in every run of the page with the server.
-/

import ServerPump.Proof.HistoryShown
import ServerPump.Web.PageControls

namespace ServerPump

open Paging Runs

/-! ### The law -/

/-- What is shown when the third button is pressed, this many times or until it is disabled. -/
def HistoryPage.leaf : ℕ → HistoryPage → List HistoryRecord
  | 0, page => page.historyBody.rows
  | presses + 1, page =>
    page.historyBody.rows ++
      match page.buttons with
      | some buttons =>
        if buttons.chevronRight.disabled then []
        else HistoryPage.leaf presses (page.press buttons.chevronRight)
      | none => []

/-- The table and its controls are those of the current page. -/
structure PageShown (page : HistoryPage) : Prop where
  rows : page.historyBody = .table page.pageData
  first : 1 ≤ page.currentPage
  last : page.totalPages ≠ 0 → page.currentPage ≤ page.totalPages
  controls : page.pagination = if page.totalPages = 0 then none else some (page.currentPage, page.totalPages)

/-- The table shows what was found in these records, and the numbers above it are theirs. -/
structure Displays (browser : Browser) (page : HistoryPage) (data : List HistoryRecord) (total : ℕ) : Prop
    extends PageShown page where
  found : page.filteredData = browser.sort (compareBy page.sortColumn page.sortDirection)
    (data.filter fun record => Passes browser page.activeFilters record)
  stats : page.stats = some ⟨total, page.filteredData.length, dateRangeLabel page⟩

/-- **The buttons lead through what was found**: one that is not disabled leads to another page, and from
the first page on the third one shows each record once. -/
structure LeadsThrough (page : HistoryPage) : Prop where
  shown : page.buttons.isSome ↔ page.filteredData ≠ []
  leads : ∀ buttons ∈ page.buttons, ∀ button ∈ buttons.all, button.disabled = false →
    1 ≤ button.target ∧ button.target ≤ page.totalPages ∧ button.target ≠ page.currentPage
  leaf : ∀ buttons ∈ page.buttons, ∀ presses, page.totalPages ≤ presses →
    (page.press buttons.firstPage).leaf presses = page.filteredData

/-- **The law**: a table on display is of one piece, and shows what was found in the cache. -/
structure TableCoherent (browser : Browser) (page : HistoryPage) : Prop where
  displays : TableShown page → ∃ request data,
    page.historyCache = some ⟨request, .records data.length data⟩ ∧ Displays browser page data data.length
  leads : TableShown page → LeadsThrough page

/-! ### The buttons -/

section Buttons

variable {page : HistoryPage}

theorem PageShown.buttons (shown : PageShown page) : page.buttons =
    if page.totalPages = 0 then none else some (PageButtons.of page.currentPage page.totalPages) := by
  unfold HistoryPage.buttons
  rw [shown.controls]
  split_ifs <;> rfl

/-- A page in range is called up. -/
theorem pageShown_goToPage (page : HistoryPage) (target : ℕ) (first : 1 ≤ target)
    (last : target ≤ page.totalPages) :
    PageShown (goToPage target page) ∧ (goToPage target page).currentPage = target ∧
      (goToPage target page).filteredData = page.filteredData ∧
        (goToPage target page).rowsPerPage = page.rowsPerPage := by
  have inRange : ¬ ((target : ℤ) < 1 ∨ (target : ℤ) > page.totalPages) := by omega
  unfold goToPage
  rw [if_neg inRange]
  exact ⟨⟨rfl, first, fun _ => last, rfl⟩, rfl, rfl, rfl⟩

theorem PageShown.rows_eq (shown : PageShown page) : page.historyBody.rows =
    pageAt page.rowsPerPage.toNat (page.currentPage - 1) page.filteredData := by
  rw [shown.rows]
  rfl

/-- The last page shows all that is left. -/
theorem PageShown.rows_last (shown : PageShown page) (onLast : page.currentPage = page.totalPages) :
    page.historyBody.rows = page.filteredData.drop ((page.currentPage - 1) * page.rowsPerPage.toNat) := by
  rw [shown.rows_eq, pageAt_last (rowsPerPage_pos page.rowsPerPage)]
  rw [← totalPages_eq, ← onLast]
  exact Nat.sub_add_cancel shown.first

/-- The third button is pressed, unless it is disabled. -/
theorem leaf_succ (shown : PageShown page) (pages : page.totalPages ≠ 0) (presses : ℕ) :
    page.leaf (presses + 1) = page.historyBody.rows ++
      if page.currentPage = page.totalPages then []
      else (goToPage ((page.currentPage + 1 : ℕ) : ℤ) page).leaf presses := by
  rw [HistoryPage.leaf, shown.buttons, if_neg pages]
  by_cases onLast : page.currentPage = page.totalPages
  · simp [PageButtons.of, onLast]
  · simp [PageButtons.of, HistoryPage.press, onLast]

/-- **What the third button leads through**: the current page, and what is behind it. -/
theorem leaf_eq (shown : PageShown page) (pages : page.totalPages ≠ 0) {presses : ℕ}
    (enough : page.totalPages ≤ page.currentPage + presses) :
    page.leaf presses = page.filteredData.drop ((page.currentPage - 1) * page.rowsPerPage.toNat) := by
  have first := shown.first
  have last := shown.last pages
  induction presses generalizing page with
  | zero => exact shown.rows_last (Nat.le_antisymm last enough)
  | succ presses ih =>
    rw [leaf_succ shown pages]
    by_cases onLast : page.currentPage = page.totalPages
    · rw [if_pos onLast, List.append_nil]
      exact shown.rows_last onLast
    · have inside : page.currentPage + 1 ≤ page.totalPages := by omega
      obtain ⟨next, current, found, size⟩ := pageShown_goToPage page _ (Nat.le_add_left 1 _) inside
      have same : (goToPage ((page.currentPage + 1 : ℕ) : ℤ) page).totalPages = page.totalPages := by
        rw [totalPages_eq, totalPages_eq, found, size]
      have rest := ih next (by rwa [same]) (by omega) next.first (next.last (by rwa [same]))
      rw [if_neg onLast, rest, current, found, size, shown.rows_eq, Nat.add_sub_cancel]
      have behind := pageAt_append_drop page.rowsPerPage.toNat (page.currentPage - 1) page.filteredData
      rwa [Nat.sub_add_cancel first] at behind

/-- **The buttons of a page that is shown lead through what was found.** -/
theorem leadsThrough_of_pageShown (shown : PageShown page) : LeadsThrough page := by
  have positive := rowsPerPage_pos page.rowsPerPage
  by_cases pages : page.totalPages = 0
  · have none : page.buttons = none := by rw [shown.buttons, if_pos pages]
    have empty : page.filteredData = [] := by
      by_contra nonempty
      exact absurd pages (Nat.ne_of_gt (pageCount_pos positive nonempty))
    refine ⟨?_, ?_, ?_⟩
    · simp [none, empty]
    · simp [none]
    · simp [none]
  · have here : page.buttons = some (PageButtons.of page.currentPage page.totalPages) := by
      rw [shown.buttons, if_neg pages]
    have nonempty : page.filteredData ≠ [] := by
      intro empty
      refine pages ?_
      rw [totalPages_eq, empty, pageCount_nil positive]
    have first := shown.first
    have last := shown.last pages
    refine ⟨?_, ?_, ?_⟩
    · simp [here, nonempty]
    · intro buttons drawn button member enabled
      obtain rfl := Option.some.inj (here.symm.trans drawn)
      simp only [PageButtons.all, List.mem_cons, List.not_mem_nil, or_false] at member
      rcases member with rfl | rfl | rfl | rfl <;> simp [PageButtons.of] at enabled ⊢ <;> omega
    · intro buttons drawn presses enough
      obtain rfl := Option.some.inj (here.symm.trans drawn)
      have onFirst : ∀ page : HistoryPage, PageShown page → page.currentPage = 1 → page.totalPages ≠ 0 →
          page.totalPages ≤ presses → page.leaf presses = page.filteredData := by
        intro page shown current pages enough
        rw [leaf_eq shown pages (by omega), current]
        simp
      unfold HistoryPage.press
      split_ifs with disabled
      · exact onFirst page shown (of_decide_eq_true disabled) pages enough
      · obtain ⟨next, current, found, size⟩ := pageShown_goToPage page 1 (le_refl 1) (by omega)
        have same : (goToPage ((1 : ℕ) : ℤ) page).totalPages = page.totalPages := by
          rw [totalPages_eq, totalPages_eq, found, size]
        exact (onFirst _ next current (by rwa [same]) (by rwa [same])).trans found

end Buttons

/-! ### Drawing -/

section Coherent

variable {browser : Browser} {page : HistoryPage}

/-- The number that is shown above the table. -/
def shownTotal (count : ℕ) (data : List HistoryRecord) : ℕ := if count ≠ 0 then count else data.length

/-- The invariant: a table on display is that of the cache. -/
structure Coherent (browser : Browser) (page : HistoryPage) : Prop where
  first : 1 ≤ page.currentPage
  controls : ControlsBelowTable page
  displays : TableShown page → ∃ request count data,
    page.historyCache = some ⟨request, .records count data⟩ ∧
      Displays browser page data (shownTotal count data)

/-- **What `applyLocalFilters` draws** is of one piece. -/
theorem displays_drawHistory (browser : Browser) (page : HistoryPage) (count : ℕ) (data : List HistoryRecord)
    {found : List HistoryRecord} (first : 1 ≤ page.currentPage)
    (same : found = browser.sort (compareBy page.sortColumn page.sortDirection)
      (data.filter fun record => Passes browser page.activeFilters record)) :
    Displays browser (drawHistory count data found page) data (shownTotal count data) := by
  unfold drawHistory
  rw [clampPage_eq]
  refine ⟨⟨rfl, ?_, ?_, rfl⟩, same, rfl⟩
  · show 1 ≤ ite _ _ _
    split_ifs
    · exact le_refl 1
    · exact first
  · show ¬ HistoryPage.totalPages { page with filteredData := found } = 0 → ite _ _ _ ≤ _
    intro pages
    split_ifs with behind
    · exact Nat.pos_of_ne_zero pages
    · have := Nat.pos_of_ne_zero pages
      exact Nat.le_of_not_lt fun above => behind ⟨above, this⟩

/-- **`applyLocalFilters` establishes the invariant.** -/
theorem coherent_applied (browser : Browser) {request : DateRange} {count : ℕ} {data : List HistoryRecord}
    (cache : page.historyCache = some ⟨request, .records count data⟩)
    (searchable : ∀ record ∈ data, record.Searchable) (first : 1 ≤ page.currentPage) :
    ∃ drawn, applyLocalFilters browser page = some drawn ∧ Coherent browser drawn := by
  unfold applyLocalFilters
  rw [cache]
  dsimp only
  rw [localData_eq searchable, Option.map_some]
  have displays := displays_drawHistory browser page count data first rfl
  have source := (sameSource_drawHistory count data (browser.sort
    (compareBy page.sortColumn page.sortDirection)
      (data.filter fun record => Passes browser page.activeFilters record)) page).historyCache
  exact ⟨_, rfl, displays.first, fun _ => tableShown_drawHistory _ _ _ _,
    fun _ => ⟨request, count, data, source.trans cache, displays⟩⟩

/-- Where no table is, the invariant is about the page number. -/
theorem coherent_of_noTable (first : 1 ≤ page.currentPage) (controls : ControlsBelowTable page)
    (noTable : ¬ TableShown page) : Coherent browser page :=
  ⟨first, controls, fun shown => absurd shown noTable⟩

/-- **A handler that assigns and then draws.** -/
theorem coherent_redraw (coherent : Coherent browser page)
    (searchable : ∀ record ∈ page.records, record.Searchable) {edited : HistoryPage}
    (isEdited : Edited page edited) (first : 1 ≤ edited.currentPage) :
    Coherent browser (redraw browser edited) := by
  have controls := isEdited.controls coherent.controls
  have unchanged : (∀ request count data, edited.historyCache ≠ some ⟨request, .records count data⟩) →
      Coherent browser edited := by
    intro noRecords
    refine coherent_of_noTable first controls fun table => ?_
    obtain ⟨request, count, data, cache, -⟩ := coherent.displays (isEdited.tableShown.mp table)
    exact noRecords request count data (isEdited.historyCache.trans cache)
  cases cache : edited.historyCache with
  | none =>
    rw [redraw, applyLocalFilters_of_none cache, Option.getD_some]
    exact unchanged fun _ _ _ some => by cases cache.symm.trans some
  | some cached =>
    obtain ⟨request, answer⟩ := cached
    cases answer with
    | error =>
      rw [redraw, applyLocalFilters_of_not_drawable cache id, Option.getD_none]
      exact unchanged fun _ _ _ some => by cases cache.symm.trans some
    | records count data =>
      have inCache : ∀ record ∈ data, record.Searchable := fun record inData =>
        searchable record (mem_records.mpr (.inr (.inr
          ⟨⟨request, .records count data⟩, isEdited.historyCache.symm.trans cache, inData⟩)))
      obtain ⟨drawn, applied, coherent⟩ := coherent_applied browser cache inCache first
      rw [redraw, applied, Option.getD_some]
      exact coherent

/-! ### One event -/

theorem coherent_goToPage (coherent : Coherent browser page) (shown : page.pagination.isSome) (target : ℤ) :
    Coherent browser (goToPage target page) := by
  by_cases outside : target < 1 ∨ target > page.totalPages
  · rw [goToPage, if_pos outside]
    exact coherent
  · obtain ⟨request, count, data, cache, displays⟩ := coherent.displays (coherent.controls shown)
    obtain ⟨low, high⟩ := not_or.mp outside
    rw [goToPage, if_neg outside]
    refine ⟨?_, fun _ => ⟨_, rfl⟩, fun _ => ⟨request, count, data, cache, ⟨rfl, ?_, fun _ => ?_, rfl⟩,
      displays.found, displays.stats⟩⟩
    · show 1 ≤ target.toNat
      omega
    · show 1 ≤ target.toNat
      omega
    · show target.toNat ≤ page.totalPages
      omega

theorem coherent_changeRowsPerPage (coherent : Coherent browser page) (shown : page.pagination.isSome)
    (value : RowsPerPage) : Coherent browser (changeRowsPerPage value page) := by
  obtain ⟨request, count, data, cache, displays⟩ := coherent.displays (coherent.controls shown)
  refine ⟨le_refl 1, fun _ => ⟨_, rfl⟩, fun _ => ⟨request, count, data, cache, ⟨rfl, le_refl 1, ?_, rfl⟩,
    displays.found, displays.stats⟩⟩
  exact fun pages => Nat.pos_of_ne_zero pages

/-- What no drawing looks at. -/
theorem coherent_aside (coherent : Coherent browser page) (inputs : HistoryInputs) (pending : Option String)
    (inFlight : List DateRange) :
    Coherent browser { page with inputs := inputs, pendingSearch := pending, inFlight := inFlight } := by
  refine ⟨coherent.first, coherent.controls, fun shown => ?_⟩
  obtain ⟨request, count, data, cache, displays⟩ := coherent.displays shown
  exact ⟨request, count, data, cache,
    ⟨displays.rows, displays.first, displays.last, displays.controls⟩, displays.found, displays.stats⟩

theorem coherent_loadHistory {asked : HistoryPage} (first : 1 ≤ asked.currentPage) :
    Coherent browser (loadHistory asked) :=
  coherent_of_noTable first (controls_of_none rfl) (noTable_loadHistory asked)

theorem coherent_showHistoryError (page : HistoryPage) (first : 1 ≤ page.currentPage) :
    Coherent browser (showHistoryError page) :=
  coherent_of_noTable first (controls_of_none rfl) (noTable_showHistoryError page)

theorem coherent_receive (coherent : Coherent browser page) (request : DateRange) {response : Response}
    (given : ∀ record ∈ response.data, record.Searchable) :
    Coherent browser (receiveHistory browser request response page) := by
  cases response with
  | failed => exact coherent_showHistoryError _ coherent.first
  | json answer =>
    cases answer with
    | error => exact coherent_showHistoryError _ coherent.first
    | records count data =>
      rw [receiveHistory]
      split_ifs
      · exact coherent_showHistoryError _ coherent.first
      · have cache := historyCache_storeHistory request count data page
        obtain ⟨drawn, applied, drawnCoherent⟩ :=
          coherent_applied browser cache given (le_refl 1)
        dsimp only
        rw [applied, Option.getD_some]
        exact drawnCoherent

/-- **An event that is no answer** keeps the invariant. -/
theorem coherent_event (coherent : Coherent browser page)
    (searchable : ∀ record ∈ page.records, record.Searchable) {event : HistoryEvent}
    (own : event.isResponse = false) : Coherent browser (historyStep browser page event) := by
  have positive : ∀ current : ℕ, current = page.currentPage ∨ current = 1 → 1 ≤ current := by
    rintro current (rfl | rfl)
    · exact coherent.first
    · exact le_refl 1
  have shape := ownShape browser page own
  generalize historyStep browser page event = after at shape ⊢
  cases shape with
  | aside inputs pending => exact coherent_aside coherent inputs pending page.inFlight
  | loads memory current inFlight => exact coherent_loadHistory (positive _ current)
  | redraws isEdited found current => exact coherent_redraw coherent searchable isEdited (positive _ current)
  | turns shown target => exact coherent_goToPage coherent shown target
  | resizes shown value => exact coherent_changeRowsPerPage coherent shown value

end Coherent

/-! ### The session -/

section Session

variable {jsonC : JsonC} {sqlite : Sqlite} {browser : Browser} {labels : List SessionLabel}
  {session : HistorySession}

/-- **A step keeps the invariant.** -/
theorem coherent_next (backed : Backed jsonC sqlite browser labels session)
    (coherent : Coherent browser session.page) (label : SessionLabel) :
    Coherent browser (session.next jsonC sqlite browser label).page := by
  have moves := pageMoves_next jsonC sqlite browser backed.numbered label
  generalize session.next jsonC sqlite browser label = moved at moves ⊢
  cases moves with
  | server daemon => exact coherent
  | draws event own same => exact coherent_event coherent backed.searchable own
  | asks event own dates sends => exact coherent_event coherent backed.searchable own
  | responds index id dates response daemon opened comes =>
    exact coherent_receive (coherent_aside coherent session.page.inputs session.page.pendingSearch _) dates
      (searchable_of_comes backed opened comes)

/-- An answer has as many records as it says. -/
theorem count_of_read {id : ℕ} {dates : DateRange} {body : List UInt8}
    (read : ReadSince jsonC sqlite browser labels id dates body) {count : ℕ} {data : List HistoryRecord}
    (given : resJson body = .json (.records count data)) : count = data.length := by
  obtain ⟨before, -, -, prepared, rfl⟩ := read
  rcases resJson_handlePumpHistory sqlite prepared
    (sessionAfter jsonC sqlite browser before).daemon.snapshots (historyArguments dates) with
      failed | ⟨kept, -, answer⟩
  · cases failed.symm.trans given
  · cases answer.symm.trans given
    exact List.length_map _ |>.symm

/-- Both invariants, in every run. -/
theorem backed_coherent (jsonC : JsonC) (sqlite : Sqlite)
    (permutes : ∀ compare data, (browser.sort compare data).Perm data) (labels : List SessionLabel) :
    Backed jsonC sqlite browser labels (sessionAfter jsonC sqlite browser labels) ∧
      Coherent browser (sessionAfter jsonC sqlite browser labels).page := by
  have initial : Backed jsonC sqlite browser [] {} ∧ Coherent browser (HistorySession.page {}) :=
    ⟨backed_initial jsonC sqlite browser, coherent_of_noTable (le_refl 1) (controls_of_none rfl) nofun⟩
  have kept : ∀ before session label,
      Backed jsonC sqlite browser before session ∧ Coherent browser session.page →
        Backed jsonC sqlite browser (before ++ [label]) (session.next jsonC sqlite browser label) ∧
          Coherent browser (session.next jsonC sqlite browser label).page :=
    fun before session label ⟨backed, coherent⟩ =>
      ⟨backed_next permutes before session label backed, coherent_next backed coherent label⟩
  exact invariant_history kept initial labels

end Session

/-- **In every run of the history page with the server, a table on display is of one piece**: it shows the
current page of the cached records that pass the filters, in the chosen order, with the numbers above it,
and the buttons below it lead through all of them. -/
theorem table_coherent (jsonC : JsonC) (sqlite : Sqlite) (browser : Browser)
    (permutes : ∀ compare data, (browser.sort compare data).Perm data) (labels : List SessionLabel) :
    TableCoherent browser (sessionAfter jsonC sqlite browser labels).page := by
  obtain ⟨backed, coherent⟩ := backed_coherent jsonC sqlite permutes labels
  refine ⟨fun shown => ?_, fun shown => ?_⟩
  · obtain ⟨request, count, data, cache, displays⟩ := coherent.displays shown
    obtain ⟨id, body, read, given⟩ := backed.cached request _ cache
    obtain rfl := count_of_read read given
    refine ⟨request, data, cache, ?_⟩
    have total : shownTotal data.length data = data.length := ite_id _
    rwa [total] at displays
  · obtain ⟨request, count, data, -, displays⟩ := coherent.displays shown
    exact leadsThrough_of_pageShown displays.toPageShown

/-- The report of `loadedHistory` is searched for. Then a request fails, and the page is drawn again from the
cache. -/
def searchedHistory : List SessionLabel :=
  loadedHistory ++ [.event (.handleSearchInput "run"), .event .searchTimer, .event .clearDateFilter, .fail 0,
    .event (.sortTable .pump1), .event (.goToPage 7)]

theorem table_coherent_searched :
    (∀ compare data, (sampleBrowser.sort compare data).Perm data) ∧
      (sessionAfter JsonC.reference Sqlite.stable sampleBrowser searchedHistory).page.pagination = some (1, 1) ∧
      TableCoherent sampleBrowser
        (sessionAfter JsonC.reference Sqlite.stable sampleBrowser searchedHistory).page := by
  have permutes : ∀ compare data, (sampleBrowser.sort compare data).Perm data :=
    fun _ data => List.mergeSort_perm data _
  refine ⟨permutes, ?_, table_coherent JsonC.reference Sqlite.stable sampleBrowser permutes searchedHistory⟩
  decide +kernel

end ServerPump
