/-
**Loads that fail.**

The server answers a failed query with an error object and status 200. `loadHistory` assigns such an
object to `historyCache` before it is taken apart, which throws; the error is shown, but from then on
every filter, search and sorting throws too, until the next load that succeeds. The other ways to
fail come before the first assignment.

* `possible_resJson`: what the server answers from rows with known statuses, as the page reads it.
* `neverThrows_of_searchable`: with records in the cache no handler throws.
* `failsCleanly_iff`: a load that fails leaves what was loaded, except if it is the error object.
* `loads_safely_iff`: both laws hold throughout a run exactly if no open request of the run is answered
  by the error object.
-/

import ServerPump.Proof.Domain
import ServerPump.Proof.Pages

namespace ServerPump

/-! ### The law -/

/-- What a request can come to: nothing, the error object, or as many records as they are counted,
whose statuses have a text. -/
def Response.Possible : Response → Prop
  | .json (.records count data) => count ≤ data.length ∧ ∀ record ∈ data, record.Searchable
  | _ => True

/-- A response, if the event is one, is possible. -/
def Fetched : HistoryEvent → Prop
  | .respond _ response => response.Possible
  | _ => True

/-- **The state law**: the cache is empty or has a list of records, and no handler that draws from it
throws. -/
structure NeverThrows (browser : Browser) (page : HistoryPage) : Prop where
  cached : ∀ cached ∈ page.historyCache, ∃ count data, cached.answer = .records count data
  filterByStatus : ∀ pump status, (applyLocalFilters browser (chooseStatus pump status page)).isSome
  sortTable : ∀ column, (applyLocalFilters browser (chooseSort column page)).isSome
  searchTimer : ∀ value ∈ page.pendingSearch,
    (applyLocalFilters browser (takeSearch value page)).isSome

/-- The event is the end of a load, and the page shows the error. -/
def LoadFails (browser : Browser) (page : HistoryPage) : HistoryEvent → Prop
  | .respond index response => page.inFlight[index]?.isSome ∧
      (historyStep browser page (.respond index response)).historyBody = .error
  | _ => False

/-- **The step law**: a load that fails leaves what was loaded before. -/
def FailsCleanly (browser : Browser) (page : HistoryPage) (event : HistoryEvent) : Prop :=
  LoadFails browser page event →
    (historyStep browser page event).historyCache = page.historyCache ∧
      (historyStep browser page event).filteredData = page.filteredData ∧
      (historyStep browser page event).currentPage = page.currentPage

/-- No open request is answered by the error object. -/
def NoErrorAnswer (page : HistoryPage) : HistoryEvent → Prop
  | .respond index (.json .error) => page.inFlight[index]? = none
  | _ => True

/-- **What the server answers is possible**, if the rows of the table are in the domain of the fields. -/
theorem possible_resJson (sqlite : Sqlite) (prepared : Bool) (db : Option (List SnapshotRow))
    (arguments : List (String × Option (List UInt8)))
    (domain : ∀ table ∈ db, ∀ row ∈ table, InDomain row.fields) :
    (resJson (handlePumpHistory sqlite prepared db arguments)).Possible := by
  cases db with
  | none =>
    have failed : resJson (handlePumpHistory sqlite prepared none arguments) = .json .error := resJson_failed
    rw [failed]
    trivial
  | some table =>
    rcases resJson_handlePumpHistory sqlite prepared table arguments with failed | ⟨kept, loop, answer⟩
    · rw [failed]
      trivial
    · rw [answer]
      refine ⟨List.length_map _ |>.ge, fun record member => ?_⟩
      obtain ⟨row, inKept, rfl⟩ := List.mem_map.mp member
      have inTable := (of_mem_selectedRows (loop.isPrefix.subset inKept)).1
      rw [shown_eq]
      exact (readable_record (domain table rfl row inTable)).1

/-! ### Drawing from the cache -/

section Step

variable {browser : Browser} {page : HistoryPage}

theorem SameSource.cacheSearchable {before after : HistoryPage} (same : SameSource before after)
    (searchable : CacheSearchable before) : CacheSearchable after := by
  unfold CacheSearchable
  rw [same.historyCache]
  exact searchable

/-- With such a cache `applyLocalFilters` does not throw. -/
theorem isSome_applyLocalFilters (searchable : CacheSearchable page) :
    (applyLocalFilters browser page).isSome := by
  cases cache : page.historyCache with
  | none =>
    rw [applyLocalFilters_of_none cache]
    rfl
  | some cached =>
    obtain ⟨count, data, answer, known⟩ := searchable cached cache
    have draws : Drawable browser page.activeFilters.searchTerm cached.answer := by
      rw [answer, Drawable, searchFilter_eq browser _ known]
      rfl
    obtain ⟨drawn, applied, -, -⟩ := applyLocalFilters_of_drawable cache draws
    rw [applied]
    rfl

theorem neverThrows_of_searchable (searchable : CacheSearchable page) : NeverThrows browser page where
  cached := by
    intro cached isCached
    obtain ⟨count, data, answer, -⟩ := searchable cached isCached
    exact ⟨count, data, answer⟩
  filterByStatus pump status := by
    have same := (edited_chooseStatus pump status page).toSameSource
    exact isSome_applyLocalFilters (same.cacheSearchable searchable)
  sortTable column := by
    have same := (edited_chooseSort column page).toSameSource
    exact isSome_applyLocalFilters (same.cacheSearchable searchable)
  searchTimer value _ := by
    have same := (edited_takeSearch value page).toSameSource
    exact isSome_applyLocalFilters (same.cacheSearchable searchable)

/-- A handler that draws leaves the cache. -/
theorem historyCache_redraw : (redraw browser page).historyCache = page.historyCache := by
  rcases redraw_cases browser page with unchanged | ⟨same, -⟩
  · rw [unchanged]
  · exact same.historyCache

theorem cacheSearchable_redraw (searchable : CacheSearchable page) :
    CacheSearchable (redraw browser page) := by
  unfold CacheSearchable
  rw [historyCache_redraw]
  exact searchable

/-! ### One event -/

/-- Records that can be searched are drawn. -/
theorem drawn_of_searchable {count : ℕ} {data : List HistoryRecord} (counted : count ≤ data.length)
    (searchable : ∀ record ∈ data, record.Searchable) (term : String) :
    Drawn browser term (.json (.records count data)) := by
  refine ⟨counted, ?_⟩
  rw [Drawable, searchFilter_eq browser term searchable]
  rfl

/-- **A response leaves records in the cache**, if it is not the error object. -/
theorem cacheSearchable_receive {response : Response} (request : DateRange)
    (possible : response.Possible) (noError : response ≠ .json .error)
    (searchable : CacheSearchable page) :
    CacheSearchable (receiveHistory browser request response page) := by
  cases response with
  | failed => exact searchable
  | json answer =>
    cases answer with
    | error => exact absurd rfl noError
    | records count data =>
      have stored : CacheSearchable (storeHistory request count data page) := by
        intro cached isCached
        rw [historyCache_storeHistory] at isCached
        cases isCached
        exact ⟨count, data, rfl, possible.2⟩
      have drawn : Drawn browser page.activeFilters.searchTerm (.json (.records count data)) :=
        drawn_of_searchable possible.1 possible.2 _
      exact (receiveHistory_of_records request drawn).1.cacheSearchable stored

theorem cacheSearchable_step {event : HistoryEvent} (fetched : Fetched event)
    (searchable : CacheSearchable page) (noError : NoErrorAnswer page event) :
    CacheSearchable (historyStep browser page event) := by
  have shape := stepShape browser page event
  generalize historyStep browser page event = after at shape ⊢
  cases shape with
  | edited isEdited => exact isEdited.toSameSource.cacheSearchable searchable
  | redrawn isEdited =>
    exact cacheSearchable_redraw (isEdited.toSameSource.cacheSearchable searchable)
  | turned same table => exact same.cacheSearchable searchable
  | @loading asked cache =>
    show CacheSearchable asked
    unfold CacheSearchable
    rcases cache with kept | cleared
    · rw [kept]
      exact searchable
    · rw [cleared]
      exact nofun
  | @received index request response isEvent isOpen =>
    subst isEvent
    refine cacheSearchable_receive request fetched ?_ searchable
    rintro rfl
    rw [NoErrorAnswer, isOpen] at noError
    cases noError

theorem historyStep_respond {index : ℕ} {request : DateRange}
    (isOpen : page.inFlight[index]? = some request) (response : Response) :
    historyStep browser page (.respond index response) =
      receiveHistory browser request response
        { page with inFlight := page.inFlight.eraseIdx index } := by
  dsimp only [historyStep]
  rw [isOpen]

/-- **A load that fails leaves what was loaded, except if it is answered by the error object.** -/
theorem failsCleanly_iff {event : HistoryEvent} (fetched : Fetched event)
    (searchable : CacheSearchable page) :
    FailsCleanly browser page event ↔ NoErrorAnswer page event := by
  cases event with
  | respond index response =>
    unfold FailsCleanly
    dsimp only [LoadFails]
    cases isOpen : page.inFlight[index]? with
    | none =>
      refine iff_of_true (fun fails => absurd fails.1 Bool.false_ne_true) ?_
      cases response with
      | failed => trivial
      | json answer =>
        cases answer with
        | error => exact isOpen
        | records count data => trivial
    | some request =>
      rw [historyStep_respond isOpen]
      cases response with
      | failed => exact iff_of_true (fun _ => ⟨rfl, rfl, rfl⟩) trivial
      | json answer =>
        cases answer with
        | error =>
          -- the cache had records, and now it has the object
          refine iff_of_false (fun clean => ?_) fun noError => ?_
          · have kept : some ⟨request, .error⟩ = page.historyCache := (clean ⟨rfl, rfl⟩).1
            obtain ⟨count, data, answer, -⟩ := searchable _ kept.symm
            cases answer
          · rw [NoErrorAnswer, isOpen] at noError
            cases noError
        | records count data =>
          refine iff_of_true (fun fails => ?_) trivial
          have drawn : Drawn browser page.activeFilters.searchTerm (.json (.records count data)) :=
            drawn_of_searchable fetched.1 fetched.2 _
          obtain ⟨-, rows, table⟩ := @receiveHistory_of_records browser count data
            { page with inFlight := page.inFlight.eraseIdx index } request drawn
          rw [table] at fails
          cases fails.2
  | _ => exact iff_of_true False.elim trivial

end Step

/-! ### Runs -/

/-- **No handler throws and a load that fails leaves what was loaded, throughout a run, exactly if no
open request of the run is answered by the error object.** -/
theorem loads_safely_iff (browser : Browser) (events : List HistoryEvent)
    (fetched : ∀ event ∈ events, Fetched event) :
    (Runs.Always (historyStep browser) (NeverThrows browser) {} events ∧
        Runs.Guarded (historyStep browser) (FailsCleanly browser) {} events) ↔
      Runs.Guarded (historyStep browser) NoErrorAnswer {} events := by
  have initial : CacheSearchable {} := nofun
  have kept : ∀ (page : HistoryPage) (event : HistoryEvent), Fetched event → CacheSearchable page →
      NoErrorAnswer page event → CacheSearchable (historyStep browser page event) :=
    fun _ _ isFetched searchable noError => cacheSearchable_step isFetched searchable noError
  have sameGuard : Runs.Guarded (historyStep browser) NoErrorAnswer {} events ↔
      Runs.Guarded (historyStep browser) (FailsCleanly browser) {} events :=
    Runs.guarded_congr_of_kept kept
      (fun _ _ searchable isFetched => (failsCleanly_iff isFetched searchable).symm) initial fetched
  constructor
  · rintro ⟨-, clean⟩
    exact sameGuard.mpr clean
  · intro noError
    refine ⟨?_, sameGuard.mp noError⟩
    exact (Runs.always_of_guarded_of_mem kept initial fetched noError).mono fun _ searchable =>
      neverThrows_of_searchable searchable

/-- The history is loaded, and answered by the error object. -/
def unansweredLoad : List HistoryEvent := [.showPage .history, .respond 0 (.json .error)]

/-- The records are loaded, and the next load fails without an answer. -/
def failedReload : List HistoryEvent :=
  [.showPage .history, .respond 0 (.json (.records 1 [⟨1700000000, 1, 1, 0, 2, 0, 0⟩])),
    .clearDateFilter, .respond 0 .failed, .filterByStatus .pump1 (some 1)]

theorem loads_safely_failedReload :
    (∀ event ∈ failedReload, Fetched event) ∧
      ((Runs.Always (historyStep sampleBrowser) (NeverThrows sampleBrowser) {} failedReload ∧
          Runs.Guarded (historyStep sampleBrowser) (FailsCleanly sampleBrowser) {} failedReload) ↔
        Runs.Guarded (historyStep sampleBrowser) NoErrorAnswer {} failedReload) := by
  have fetched : ∀ event ∈ failedReload, Fetched event := by
    simp [failedReload, Fetched, Response.Possible, HistoryRecord.Searchable, statusText]
  exact ⟨fetched, loads_safely_iff sampleBrowser failedReload fetched⟩

/-- The next choice of a status throws, and so does every one until a load succeeds. -/
theorem error_answer_cached :
    ¬ ∀ events, (∀ event ∈ events, Fetched event) →
      Runs.Always (historyStep sampleBrowser) (NeverThrows sampleBrowser) {} events ∧
        Runs.Guarded (historyStep sampleBrowser) (FailsCleanly sampleBrowser) {} events := by
  intro always
  have fetched : ∀ event ∈ unansweredLoad, Fetched event := by
    simp [unansweredLoad, Fetched, Response.Possible]
  have last := Runs.always_iff.mp (always unansweredLoad fetched).1 _ List.prefix_rfl
  have throws := last.filterByStatus .pump1 (some 1)
  revert throws
  decide +kernel

end ServerPump
