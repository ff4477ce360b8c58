/-
**The history page: whose answer the table shows.**

Every change of the dates starts a request, and what it brings is drawn whenever it arrives. Nothing
ties an answer to the dates that are chosen by then, and a request that fails leaves the cache of an
earlier one in place, from which the filters and the sorting draw again.

* `showsCurrent_redraw`, `showsCurrent_receive`: what one drawing does to the law that a table at
  rest is drawn from an answer for the chosen dates.
* `stepShape`: what an event leaves of a page, for the invariants of every step.
* `showsCurrent_step`: an event keeps the law exactly if it meets `OrderlyEvent`.
* `showsCurrent_iff`: the law holds throughout a run of events, in any order and with any answers,
  exactly if every event does.
-/

import ServerPump.Library.Runs
import ServerPump.Web.HistoryPage

namespace ServerPump

/-! ### The law -/

/-- A history table is rendered. -/
def TableShown (page : HistoryPage) : Prop := ∃ rows, page.historyBody = .table rows

/-- `historyCache` is the answer to a request made with the dates that are chosen now. -/
def AnswersCurrent (page : HistoryPage) : Prop :=
  ∃ cached ∈ page.historyCache, cached.request = page.activeFilters.toDateRange

/-- With no request in flight, a table that is shown answers the current dates. -/
def ShowsCurrent (page : HistoryPage) : Prop :=
  page.inFlight = [] → TableShown page → AnswersCurrent page

/-- The controls for the pages stand below a table. -/
def ControlsBelowTable (page : HistoryPage) : Prop := page.pagination.isSome → TableShown page

/-- `applyLocalFilters` can draw an answer: it has records, and the search does not throw. -/
def Drawable (browser : Browser) (term : String) : HistoryAnswer → Prop
  | .error => False
  | .records _ data => (searchFilter browser term data).isSome

/-- `loadHistory` draws a response: it is an answer that can be drawn, and the log finds the records
that `count` promises. -/
def Drawn (browser : Browser) (term : String) : Response → Prop
  | .failed => False
  | .json .error => False
  | .json (.records count data) => count ≤ data.length ∧ Drawable browser term (.records count data)

/-- A drawing from the cache with nothing in flight uses an answer for the current dates. -/
def DrawsCurrent (browser : Browser) (term : String) (page : HistoryPage) : Prop :=
  page.inFlight = [] → ∀ cached ∈ page.historyCache, Drawable browser term cached.answer →
    cached.request = page.activeFilters.toDateRange

/-- **The events that keep the law**: the last open request is not answered for other dates than
the current ones, and no filter, search or sorting draws from an answer for other dates while
nothing is in flight. -/
def OrderlyEvent (browser : Browser) (page : HistoryPage) : HistoryEvent → Prop
  | .respond index response =>
    page.inFlight.eraseIdx index = [] → Drawn browser page.activeFilters.searchTerm response →
      ∀ request ∈ page.inFlight[index]?, request = page.activeFilters.toDateRange
  | .filterByStatus _ _ => DrawsCurrent browser page.activeFilters.searchTerm page
  | .sortTable _ => DrawsCurrent browser page.activeFilters.searchTerm page
  | .searchTimer => ∀ term ∈ page.pendingSearch, DrawsCurrent browser term page
  | _ => True

/-! ### What the law depends on -/

/-- Two pages with one cache, one choice of dates and the same open requests. -/
structure SameSource (before after : HistoryPage) : Prop where
  historyCache : after.historyCache = before.historyCache
  dates : after.activeFilters.toDateRange = before.activeFilters.toDateRange
  inFlight : after.inFlight = before.inFlight

theorem SameSource.answersCurrent {before after : HistoryPage} (same : SameSource before after) :
    AnswersCurrent after ↔ AnswersCurrent before := by
  unfold AnswersCurrent
  rw [same.historyCache, same.dates]

theorem SameSource.drawsCurrent {before after : HistoryPage} (same : SameSource before after)
    (browser : Browser) (term : String) :
    DrawsCurrent browser term after ↔ DrawsCurrent browser term before := by
  unfold DrawsCurrent
  rw [same.historyCache, same.dates, same.inFlight]

/-- What only draws a table over a table, or none, keeps the law. -/
theorem SameSource.showsCurrent {before after : HistoryPage} (same : SameSource before after)
    (shown : TableShown after → TableShown before) (holds : ShowsCurrent before) :
    ShowsCurrent after := by
  intro quiet table
  exact same.answersCurrent.mpr (holds (same.inFlight ▸ quiet) (shown table))

/-- Assignments that come before a drawing: they also leave the document alone. -/
structure Edited (before after : HistoryPage) : Prop extends SameSource before after where
  historyBody : after.historyBody = before.historyBody
  pagination : after.pagination = before.pagination

theorem Edited.tableShown {before after : HistoryPage} (edited : Edited before after) :
    TableShown after ↔ TableShown before := by
  unfold TableShown
  rw [edited.historyBody]

theorem Edited.showsCurrent {before after : HistoryPage} (edited : Edited before after)
    (holds : ShowsCurrent before) : ShowsCurrent after :=
  edited.toSameSource.showsCurrent edited.tableShown.mp holds

theorem Edited.controls {before after : HistoryPage} (edited : Edited before after)
    (controls : ControlsBelowTable before) : ControlsBelowTable after := by
  intro shown
  exact edited.tableShown.mpr (controls (edited.pagination ▸ shown))

theorem showsCurrent_of_noTable {page : HistoryPage} (noTable : ¬ TableShown page) :
    ShowsCurrent page :=
  fun _ table => absurd table noTable

theorem controls_of_none {page : HistoryPage} (none : page.pagination = none) :
    ControlsBelowTable page := by
  intro controls
  rw [none] at controls
  cases controls

/-! ### Drawing -/

theorem sameSource_clampPage (page : HistoryPage) : SameSource page page.clampPage := by
  unfold HistoryPage.clampPage
  split <;> exact ⟨rfl, rfl, rfl⟩

section Drawing

variable {browser : Browser} {page : HistoryPage} {cached : CachedAnswer}

theorem sameSource_drawHistory (count : ℕ) (data found : List HistoryRecord) (page : HistoryPage) :
    SameSource page (drawHistory count data found page) := by
  have clamped := sameSource_clampPage { page with filteredData := found }
  unfold drawHistory
  generalize HistoryPage.clampPage _ = shown at clamped ⊢
  exact ⟨clamped.historyCache, clamped.dates, clamped.inFlight⟩

theorem tableShown_drawHistory (count : ℕ) (data found : List HistoryRecord) (page : HistoryPage) :
    TableShown (drawHistory count data found page) :=
  ⟨_, rfl⟩

/-- **What `applyLocalFilters` draws**: a table, from the cache. -/
theorem applyLocalFilters_of_drawable (cache : page.historyCache = some cached)
    (draws : Drawable browser page.activeFilters.searchTerm cached.answer) :
    ∃ drawn, applyLocalFilters browser page = some drawn ∧ SameSource page drawn ∧
      TableShown drawn := by
  obtain ⟨request, answer⟩ := cached
  cases answer with
  | error => exact draws.elim
  | records count data =>
    obtain ⟨found, search⟩ := Option.isSome_iff_exists.mp draws
    simp only [applyLocalFilters, cache, localData, search, Option.map_some]
    exact ⟨_, rfl, sameSource_drawHistory _ _ _ _, tableShown_drawHistory _ _ _ _⟩

theorem applyLocalFilters_of_not_drawable (cache : page.historyCache = some cached)
    (fails : ¬ Drawable browser page.activeFilters.searchTerm cached.answer) :
    applyLocalFilters browser page = none := by
  obtain ⟨request, answer⟩ := cached
  cases answer with
  | error => simp only [applyLocalFilters, cache]
  | records count data =>
    have search : searchFilter browser page.activeFilters.searchTerm data = none :=
      Option.not_isSome_iff_eq_none.mp fails
    simp only [applyLocalFilters, cache, localData, search, Option.map_none]

theorem applyLocalFilters_of_none (cache : page.historyCache = none) :
    applyLocalFilters browser page = some page := by
  simp only [applyLocalFilters, cache]

/-- A page that shows a table obeys the law exactly if the cache answers the current dates. -/
theorem showsCurrent_of_table (table : TableShown page) (cache : page.historyCache = some cached) :
    ShowsCurrent page ↔ (page.inFlight = [] → cached.request = page.activeFilters.toDateRange) := by
  unfold ShowsCurrent AnswersCurrent
  rw [cache]
  simp [table]

/-- **A handler that draws keeps the law exactly if it draws from a current answer.** -/
theorem showsCurrent_redraw (holds : ShowsCurrent page) :
    ShowsCurrent (redraw browser page) ↔
      DrawsCurrent browser page.activeFilters.searchTerm page := by
  unfold redraw DrawsCurrent
  cases cache : page.historyCache with
  | none =>
    rw [applyLocalFilters_of_none cache, Option.getD_some]
    exact iff_of_true holds fun _ cached member => by cases member
  | some cached =>
    simp only [Option.mem_some_iff, forall_eq']
    by_cases draws : Drawable browser page.activeFilters.searchTerm cached.answer
    · obtain ⟨drawn, applied, same, table⟩ := applyLocalFilters_of_drawable cache draws
      rw [applied, Option.getD_some,
        showsCurrent_of_table table (same.historyCache.trans cache), same.inFlight, same.dates]
      simp [draws]
    · rw [applyLocalFilters_of_not_drawable cache draws, Option.getD_none]
      exact iff_of_true holds fun _ drawable => absurd drawable draws

/-- **A handler that draws leaves the page as it is**, or with a table from the same cache. -/
theorem redraw_cases (browser : Browser) (page : HistoryPage) :
    redraw browser page = page ∨
      SameSource page (redraw browser page) ∧ TableShown (redraw browser page) := by
  unfold redraw
  cases cache : page.historyCache with
  | none =>
    rw [applyLocalFilters_of_none cache]
    exact .inl rfl
  | some cached =>
    by_cases draws : Drawable browser page.activeFilters.searchTerm cached.answer
    · obtain ⟨drawn, applied, same, table⟩ := applyLocalFilters_of_drawable cache draws
      rw [applied]
      exact .inr ⟨same, table⟩
    · rw [applyLocalFilters_of_not_drawable cache draws]
      exact .inl rfl

theorem controls_redraw (controls : ControlsBelowTable page) :
    ControlsBelowTable (redraw browser page) := by
  rcases redraw_cases browser page with unchanged | ⟨-, table⟩
  · rwa [unchanged]
  · exact fun _ => table

end Drawing

/-! ### Answers -/

section Answers

variable {browser : Browser}

theorem noTable_loadHistory (page : HistoryPage) : ¬ TableShown (loadHistory page) := by
  rintro ⟨rows, shown⟩
  cases shown

theorem noTable_showHistoryError (page : HistoryPage) : ¬ TableShown (showHistoryError page) := by
  rintro ⟨rows, shown⟩
  cases shown

theorem historyCache_storeHistory (request : DateRange) (count : ℕ) (data : List HistoryRecord)
    (page : HistoryPage) : (storeHistory request count data page).historyCache =
      some ⟨request, .records count data⟩ := rfl

/-- Records that can be drawn leave a table. -/
theorem receiveHistory_of_records {count : ℕ} {data : List HistoryRecord} {page : HistoryPage}
    (request : DateRange)
    (drawn : Drawn browser page.activeFilters.searchTerm (.json (.records count data))) :
    SameSource (storeHistory request count data page)
        (receiveHistory browser request (.json (.records count data)) page) ∧
      TableShown (receiveHistory browser request (.json (.records count data)) page) := by
  obtain ⟨logged, draws⟩ := drawn
  obtain ⟨shown, applied, same, table⟩ :=
    applyLocalFilters_of_drawable (historyCache_storeHistory request count data page) draws
  simp only [receiveHistory, if_neg (not_lt.mpr logged), applied, Option.getD_some]
  exact ⟨same, table⟩

/-- **What a drawn response leaves**: a table, from its own records. -/
theorem receiveHistory_of_drawn {response : Response} {page : HistoryPage} (request : DateRange)
    (drawn : Drawn browser page.activeFilters.searchTerm response) :
    ∃ count data, SameSource (storeHistory request count data page)
        (receiveHistory browser request response page) ∧
      TableShown (receiveHistory browser request response page) := by
  cases response with
  | failed => exact drawn.elim
  | json answer =>
    cases answer with
    | error => exact drawn.elim
    | records count data => exact ⟨count, data, receiveHistory_of_records request drawn⟩

/-- Any other response leaves the error. -/
theorem receiveHistory_of_not_drawn {response : Response} {page : HistoryPage} (request : DateRange)
    (refused : ¬ Drawn browser page.activeFilters.searchTerm response) :
    ∃ stored, receiveHistory browser request response page = showHistoryError stored := by
  cases response with
  | failed => exact ⟨_, rfl⟩
  | json answer =>
    cases answer with
    | error => exact ⟨_, rfl⟩
    | records count data =>
      by_cases logged : count ≤ data.length
      · have cache := historyCache_storeHistory request count data page
        have fails : ¬ Drawable browser page.activeFilters.searchTerm (.records count data) :=
          fun draws => refused ⟨logged, draws⟩
        simp only [receiveHistory, if_neg (not_lt.mpr logged),
          applyLocalFilters_of_not_drawable cache fails, Option.getD_none]
        exact ⟨_, rfl⟩
      · simp only [receiveHistory, if_pos (not_le.mp logged)]
        exact ⟨_, rfl⟩

/-- **A response keeps the law exactly if it is not drawn as the last one, or answers the current
dates.** -/
theorem showsCurrent_receive (request : DateRange) (response : Response) (page : HistoryPage) :
    ShowsCurrent (receiveHistory browser request response page) ↔
      (page.inFlight = [] → Drawn browser page.activeFilters.searchTerm response →
        request = page.activeFilters.toDateRange) := by
  by_cases drawn : Drawn browser page.activeFilters.searchTerm response
  · obtain ⟨count, data, same, table⟩ := receiveHistory_of_drawn request drawn
    rw [showsCurrent_of_table table same.historyCache, same.inFlight, same.dates]
    simp only [drawn, true_implies]
    exact Iff.rfl
  · obtain ⟨stored, shown⟩ := receiveHistory_of_not_drawn request drawn
    rw [shown]
    exact iff_of_true (showsCurrent_of_noTable (noTable_showHistoryError stored))
      fun _ refused => absurd refused drawn

theorem controls_receive (request : DateRange) (response : Response) (page : HistoryPage) :
    ControlsBelowTable (receiveHistory browser request response page) := by
  by_cases drawn : Drawn browser page.activeFilters.searchTerm response
  · obtain ⟨count, data, same, table⟩ := receiveHistory_of_drawn request drawn
    exact fun _ => table
  · obtain ⟨stored, shown⟩ := receiveHistory_of_not_drawn request drawn
    rw [shown]
    exact controls_of_none rfl

end Answers

/-! ### Events -/

section Events

variable {browser : Browser}

theorem edited_chooseStatus (pump : PumpSelect) (status : Option ℤ) (page : HistoryPage) :
    Edited page (chooseStatus pump status page) := by
  cases pump <;> exact ⟨⟨rfl, rfl, rfl⟩, rfl, rfl⟩

theorem edited_chooseSort (column : SortColumn) (page : HistoryPage) :
    Edited page (chooseSort column page) := by
  unfold chooseSort
  split <;> exact ⟨⟨rfl, rfl, rfl⟩, rfl, rfl⟩

theorem edited_takeSearch (value : String) (page : HistoryPage) : Edited page (takeSearch value page) :=
  ⟨⟨rfl, rfl, rfl⟩, rfl, rfl⟩

theorem edited_handleSearchInput (value : String) (page : HistoryPage) :
    Edited page (handleSearchInput value page) :=
  ⟨⟨rfl, rfl, rfl⟩, rfl, rfl⟩

/-- **A handler that assigns and then draws.** -/
theorem showsCurrent_edit {before after : HistoryPage} (edited : Edited before after)
    (holds : ShowsCurrent before) :
    ShowsCurrent (redraw browser after) ↔
      DrawsCurrent browser after.activeFilters.searchTerm before := by
  rw [showsCurrent_redraw (edited.showsCurrent holds), edited.toSameSource.drawsCurrent]

theorem searchTerm_chooseStatus (pump : PumpSelect) (status : Option ℤ) (page : HistoryPage) :
    (chooseStatus pump status page).activeFilters.searchTerm = page.activeFilters.searchTerm := by
  cases pump <;> rfl

theorem searchTerm_chooseSort (column : SortColumn) (page : HistoryPage) :
    (chooseSort column page).activeFilters.searchTerm = page.activeFilters.searchTerm := by
  unfold chooseSort
  split <;> rfl

/-- The controls for the pages draw a table where one is. -/
theorem drawn_goToPage (target : ℤ) (page : HistoryPage) :
    SameSource page (goToPage target page) ∧
      (goToPage target page = page ∨ TableShown (goToPage target page)) := by
  unfold goToPage
  split
  · exact ⟨⟨rfl, rfl, rfl⟩, .inl rfl⟩
  · exact ⟨⟨rfl, rfl, rfl⟩, .inr ⟨_, rfl⟩⟩

theorem edited_refl (page : HistoryPage) : Edited page page := ⟨⟨rfl, rfl, rfl⟩, rfl, rfl⟩

/-- **What an event leaves of a page**: an edited one, one that is drawn from the cache of the page or
turned to another of its tables, one that is loading with this cache or none, or one that has received an
answer. -/
inductive StepShape (browser : Browser) (page : HistoryPage) (event : HistoryEvent) : HistoryPage → Prop
  | edited {after : HistoryPage} (isEdited : Edited page after) : StepShape browser page event after
  | redrawn {after : HistoryPage} (isEdited : Edited page after) :
      StepShape browser page event (redraw browser after)
  | turned {after : HistoryPage} (same : SameSource page after) (table : TableShown after) :
      StepShape browser page event after
  | loading {asked : HistoryPage}
      (cache : asked.historyCache = page.historyCache ∨ asked.historyCache = none) :
      StepShape browser page event (loadHistory asked)
  | received {index : ℕ} {request : DateRange} {response : Response}
      (isEvent : event = .respond index response) (isOpen : page.inFlight[index]? = some request) :
      StepShape browser page event
        (receiveHistory browser request response
          { page with inFlight := page.inFlight.eraseIdx index })

theorem stepShape (browser : Browser) (page : HistoryPage) (event : HistoryEvent) :
    StepShape browser page event (historyStep browser page event) := by
  cases event with
  | applyQuickFilter range now => exact .loading (.inl rfl)
  | filterByDateRange fromInput toInput => exact .loading (.inl rfl)
  | clearDateFilter => exact .loading (.inl rfl)
  | refreshHistory => exact .loading (.inr rfl)
  | showPage target =>
    dsimp only [historyStep, showPage]
    split
    · exact .loading (.inl rfl)
    · exact .edited (edited_refl page)
  | filterByStatus pump status => exact .redrawn (edited_chooseStatus pump status page)
  | handleSearchInput value => exact .edited (edited_handleSearchInput value page)
  | searchTimer =>
    dsimp only [historyStep, searchTimer]
    split
    next value _ => exact .redrawn (edited_takeSearch value page)
    next => exact .edited (edited_refl page)
  | sortTable column => exact .redrawn (edited_chooseSort column page)
  | goToPage target =>
    dsimp only [historyStep]
    split
    · obtain ⟨same, unchanged | table⟩ := drawn_goToPage target page
      · rw [unchanged]
        exact .edited (edited_refl page)
      · exact .turned same table
    · exact .edited (edited_refl page)
  | changeRowsPerPage value =>
    dsimp only [historyStep]
    split
    · exact .turned ⟨rfl, rfl, rfl⟩ ⟨_, rfl⟩
    · exact .edited (edited_refl page)
  | respond index response =>
    dsimp only [historyStep]
    split
    next request isOpen => exact .received rfl isOpen
    next => exact .edited (edited_refl page)

/-- **The controls stand below a table in every reachable state.** -/
theorem controls_step (page : HistoryPage) (event : HistoryEvent) (controls : ControlsBelowTable page) :
    ControlsBelowTable (historyStep browser page event) := by
  have shape := stepShape browser page event
  generalize historyStep browser page event = after at shape ⊢
  cases shape with
  | edited isEdited => exact isEdited.controls controls
  | redrawn isEdited => exact controls_redraw (isEdited.controls controls)
  | turned same table => exact fun _ => table
  | loading cache => exact controls_of_none rfl
  | received isEvent isOpen => exact controls_receive _ _ _

/-- **An event keeps the law exactly if it is orderly.** -/
theorem showsCurrent_step (page : HistoryPage) (event : HistoryEvent)
    (controls : ControlsBelowTable page) (holds : ShowsCurrent page) :
    ShowsCurrent (historyStep browser page event) ↔ OrderlyEvent browser page event := by
  have loaded : ∀ asked, ShowsCurrent (loadHistory asked) :=
    fun asked => showsCurrent_of_noTable (noTable_loadHistory asked)
  cases event with
  | applyQuickFilter range now => exact iff_of_true (loaded _) trivial
  | filterByDateRange fromInput toInput => exact iff_of_true (loaded _) trivial
  | clearDateFilter => exact iff_of_true (loaded _) trivial
  | refreshHistory => exact iff_of_true (loaded _) trivial
  | showPage target =>
    refine iff_of_true ?_ trivial
    dsimp only [historyStep, showPage]
    split
    · exact loaded _
    · exact holds
  | filterByStatus pump status =>
    have drawn := @showsCurrent_edit browser _ _ (edited_chooseStatus pump status page) holds
    rwa [searchTerm_chooseStatus] at drawn
  | handleSearchInput value =>
    exact iff_of_true ((edited_handleSearchInput value page).showsCurrent holds) trivial
  | searchTimer =>
    dsimp only [historyStep, searchTimer, OrderlyEvent]
    cases page.pendingSearch with
    | none => exact iff_of_true holds fun _ member => by cases member
    | some value =>
      rw [showsCurrent_edit (edited_takeSearch value page) holds]
      simp only [Option.mem_some_iff, forall_eq']
      exact Iff.rfl
  | sortTable column =>
    have drawn := @showsCurrent_edit browser _ _ (edited_chooseSort column page) holds
    rwa [searchTerm_chooseSort] at drawn
  | goToPage target =>
    refine iff_of_true ?_ trivial
    dsimp only [historyStep]
    split
    next shown => exact (drawn_goToPage target page).1.showsCurrent (fun _ => controls shown) holds
    next => exact holds
  | changeRowsPerPage value =>
    refine iff_of_true ?_ trivial
    dsimp only [historyStep]
    split
    next shown =>
      have same : SameSource page (changeRowsPerPage value page) := ⟨rfl, rfl, rfl⟩
      exact same.showsCurrent (fun _ => controls shown) holds
    next => exact holds
  | respond index response =>
    dsimp only [historyStep, OrderlyEvent]
    cases page.inFlight[index]? with
    | none => exact iff_of_true holds fun _ _ _ member => by cases member
    | some request =>
      simp only [Option.mem_some_iff, forall_eq']
      exact showsCurrent_receive request response _

end Events

/-- **A table at rest shows an answer for the current dates throughout a run exactly if every event
of the run is orderly.** -/
theorem showsCurrent_iff (browser : Browser) (events : List HistoryEvent) :
    Runs.Always (historyStep browser) ShowsCurrent {} events ↔
      Runs.Guarded (historyStep browser) (OrderlyEvent browser) {} events := by
  have noTable : ¬ TableShown {} := by
    rintro ⟨rows, shown⟩
    cases shown
  exact Runs.always_iff_guarded controls_step showsCurrent_step (controls_of_none rfl)
    (showsCurrent_of_noTable noTable) events

/-- What the browser computes in the run below, in a time zone without offset. -/
def sampleBrowser : Browser where
  localDate now daysBack hours minutes seconds :=
    (now / 86400000 - daysBack) * 86400000 + (3600 * hours + 60 * minutes + seconds) * 1000
  parseDate text := if text = "2024-01-01T00:00" then some 1704067200000 else none
  getTimezoneOffset _ := 0
  toISOString _ := "2024-01-01T00:00:00.000Z"
  datetimeLocal text := if text.endsWith "Z" then "" else text
  toLocaleString _ := "1/1/2024, 12:00:00 AM"
  toLowerCase := String.toLower
  sort compare data := data.mergeSort fun a b => decide (compare a b ≤ 0)

/-- A start date is chosen and cleared again, and the two answers arrive the other way round. -/
def lateAnswer : List HistoryEvent :=
  [.filterByDateRange "2024-01-01T00:00" "", .clearDateFilter,
    .respond 1 (.json (.records 1 [⟨1700000000, 1, 1, 0, 2, 0, 0⟩])),
    .respond 0 (.json (.records 0 []))]

/-- The page says that there are no records, although no dates are chosen and the server has one. -/
theorem late_answer_shown :
    ¬ ∀ events, Runs.Always (historyStep sampleBrowser) ShowsCurrent {} events := by
  intro always
  have last := Runs.always_iff.mp (always lateAnswer) _ List.prefix_rfl
  have quiet : (Runs.run (historyStep sampleBrowser) {} lateAnswer).inFlight = [] := by
    decide +kernel
  have table : (Runs.run (historyStep sampleBrowser) {} lateAnswer).historyBody = .table [] := by
    decide +kernel
  have cache : (Runs.run (historyStep sampleBrowser) {} lateAnswer).historyCache =
      some ⟨⟨some (some 1704067200000), none⟩, .records 0 []⟩ := by
    decide +kernel
  have dates : (Runs.run (historyStep sampleBrowser) {} lateAnswer).activeFilters.toDateRange =
      {} := by
    decide +kernel
  obtain ⟨cached, member, current⟩ := last quiet ⟨_, table⟩
  rw [cache] at member
  obtain rfl := Option.mem_some_iff.mp member
  rw [dates] at current
  cases current

end ServerPump
