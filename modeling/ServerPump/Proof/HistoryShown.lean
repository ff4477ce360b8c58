/-
**The history page shows rows of the table.**

Whatever the page shows came in an answer, and an answer is read from the table at one moment, when its
request was open. Nothing is ever removed from the table while the server runs, so that every record that
is shown or exported is a row that is still there, however late the answers come and in whatever order.

* `ownShape`: what an event leaves of the page, unless it is an answer. `records_event` and `records_receive`
  are for its records.
* `backed_next`: the invariant. An open request that is answered has the answer of a moment at which it was
  open, and so has the cache; the records are rows of the table.
* `history_shows_table`: in every run, with texts for the values that are shown.
-/

import ServerPump.Proof.Domain
import ServerPump.Proof.Gets
import ServerPump.Proof.Pages
import ServerPump.Proof.ShownState
import ServerPump.Web.HistorySession

namespace ServerPump

open CText Runs

/-! ### The law -/

/-- The rows in `pump_snapshots` at a moment. -/
def Daemon.snapshots (daemon : Daemon) : List SnapshotRow := daemon.world.machine.side.tables.pumpSnapshots

/-- The open requests of the page, with their numbers. -/
def HistorySession.openRequests (session : HistorySession) : List (DateRange × ℕ) :=
  session.page.inFlight.zip session.sent

section Law

variable (jsonC : JsonC) (sqlite : Sqlite) (browser : Browser)

/-- The session behind a run. -/
def sessionAfter (labels : List SessionLabel) : HistorySession :=
  run (HistorySession.next jsonC sqlite browser) {} labels

/-- The body was read from the table in the run, when the request with this number was open, for these
dates. -/
def ReadSince (labels : List SessionLabel) (id : ℕ) (dates : DateRange) (body : List UInt8) : Prop :=
  ∃ before, before <+: labels ∧ (dates, id) ∈ (sessionAfter jsonC sqlite browser before).openRequests ∧
    ∃ prepared, body = handlePumpHistory sqlite prepared
      (some (sessionAfter jsonC sqlite browser before).daemon.snapshots) (historyArguments dates)

/-- **The law**: what is cached is what one query found, when its request was open; what is shown or would
be exported are rows of the table, in the numbers of the page, with a text for each of their values. -/
structure ShowsTable (labels : List SessionLabel) : Prop where
  cached : ∀ dates answer, (sessionAfter jsonC sqlite browser labels).page.historyCache = some ⟨dates, answer⟩ →
    ∃ id body, ReadSince jsonC sqlite browser labels id dates body ∧ resJson body = .json answer
  shown : ∀ record, record ∈ (sessionAfter jsonC sqlite browser labels).page.historyBody.rows ∨
      record ∈ (sessionAfter jsonC sqlite browser labels).page.filteredData →
    record.Readable ∧ ∃ row ∈ (sessionAfter jsonC sqlite browser labels).daemon.snapshots, record = row.shown

end Law

/-! ### What the user does -/

/-- **What an event that is no answer leaves of a page**: the page with other texts in its controls; one that
is loading, with what it has in memory or without; one with other filters or another order, drawn again; or one
that is turned. -/
inductive OwnShape (browser : Browser) (page : HistoryPage) : HistoryPage → Prop
  | aside (inputs : HistoryInputs) (pending : Option String) :
      OwnShape browser page { page with inputs := inputs, pendingSearch := pending }
  | loads {asked : HistoryPage}
      (memory : asked.filteredData = page.filteredData ∧ asked.historyCache = page.historyCache ∨
        asked.filteredData = [] ∧ asked.historyCache = none)
      (current : asked.currentPage = page.currentPage ∨ asked.currentPage = 1)
      (inFlight : asked.inFlight = page.inFlight) : OwnShape browser page (loadHistory asked)
  | redraws {edited : HistoryPage} (isEdited : Edited page edited)
      (found : edited.filteredData = page.filteredData)
      (current : edited.currentPage = page.currentPage ∨ edited.currentPage = 1) :
      OwnShape browser page (redraw browser edited)
  | turns (shown : page.pagination.isSome) (target : ℤ) : OwnShape browser page (goToPage target page)
  | resizes (shown : page.pagination.isSome) (value : RowsPerPage) :
      OwnShape browser page (changeRowsPerPage value page)

theorem ownShape (browser : Browser) (page : HistoryPage) {event : HistoryEvent}
    (own : event.isResponse = false) : OwnShape browser page (historyStep browser page event) := by
  have unchanged : OwnShape browser page page := .aside page.inputs page.pendingSearch
  cases event with
  | applyQuickFilter range now => exact .loads (.inl ⟨rfl, rfl⟩) (.inl rfl) rfl
  | filterByDateRange fromInput toInput => exact .loads (.inl ⟨rfl, rfl⟩) (.inl rfl) rfl
  | clearDateFilter => exact .loads (.inl ⟨rfl, rfl⟩) (.inl rfl) rfl
  | refreshHistory => exact .loads (.inr ⟨rfl, rfl⟩) (.inr rfl) rfl
  | showPage target =>
    dsimp only [historyStep, showPage]
    split_ifs
    · exact .loads (.inl ⟨rfl, rfl⟩) (.inl rfl) rfl
    · exact unchanged
  | filterByStatus pump status =>
    refine .redraws (edited_chooseStatus pump status page) ?_ (.inr ?_)
    · cases pump <;> rfl
    · cases pump <;> rfl
  | handleSearchInput value => exact .aside _ _
  | searchTimer =>
    dsimp only [historyStep, searchTimer]
    split
    · exact .redraws (edited_takeSearch _ page) rfl (.inr rfl)
    · exact unchanged
  | sortTable column =>
    refine .redraws (edited_chooseSort column page) ?_ (.inl ?_)
    · unfold chooseSort
      split_ifs <;> rfl
    · unfold chooseSort
      split_ifs <;> rfl
  | goToPage target =>
    dsimp only [historyStep]
    split_ifs with shown
    · exact .turns shown target
    · exact unchanged
  | changeRowsPerPage value =>
    dsimp only [historyStep]
    split_ifs with shown
    · exact .resizes shown value
    · exact unchanged
  | respond index response => cases own

/-! ### The records of a page -/

/-- The records of an answer. -/
def HistoryAnswer.data : HistoryAnswer → List HistoryRecord
  | .error => []
  | .records _ data => data

/-- The records that are shown, found or cached. -/
def HistoryPage.records (page : HistoryPage) : List HistoryRecord :=
  page.historyBody.rows ++ (page.filteredData ++ page.historyCache.elim [] fun cached => cached.answer.data)

theorem mem_records {page : HistoryPage} {record : HistoryRecord} :
    record ∈ page.records ↔ record ∈ page.historyBody.rows ∨ record ∈ page.filteredData ∨
      ∃ cached ∈ page.historyCache, record ∈ cached.answer.data := by
  unfold HistoryPage.records
  cases page.historyCache <;> simp

/-- A page that has no records but those of another one. -/
theorem records_subset {before after : HistoryPage}
    (rows : ∀ record ∈ after.historyBody.rows, record ∈ before.records)
    (found : ∀ record ∈ after.filteredData, record ∈ before.records)
    (cache : after.historyCache = before.historyCache ∨ after.historyCache = none) :
    after.records ⊆ before.records := by
  intro record member
  rcases mem_records.mp member with shown | filtered | ⟨cached, inCache, inData⟩
  · exact rows record shown
  · exact found record filtered
  · rcases cache with same | empty
    · exact mem_records.mpr (.inr (.inr ⟨cached, same ▸ inCache, inData⟩))
    · rw [empty] at inCache
      cases inCache

theorem pageData_subset (page : HistoryPage) : page.pageData ⊆ page.filteredData :=
  fun _ member => List.mem_of_mem_drop (List.mem_of_mem_take member)

section Records

variable {browser : Browser} {page : HistoryPage}

/-- The table is drawn from what was found. -/
theorem records_render (page : HistoryPage) (pagination : Option (ℕ × ℕ)) (stats : Option HistoryStats) :
    HistoryPage.records { renderHistoryTable page with pagination := pagination, stats := stats } ⊆
      page.records :=
  records_subset (fun _ shown => mem_records.mpr (.inr (.inl (pageData_subset page shown))))
    (fun _ found => mem_records.mpr (.inr (.inl found))) (.inl rfl)

theorem records_drawHistory {count : ℕ} {data found : List HistoryRecord} (known : found ⊆ page.records) :
    (drawHistory count data found page).records ⊆ page.records := by
  have clamped : ∀ edited : HistoryPage, edited.clampPage.records ⊆ edited.records := by
    intro edited
    unfold HistoryPage.clampPage
    split_ifs
    · exact fun _ member => member
    · exact fun _ member => member
  have edited : HistoryPage.records { page with filteredData := found } ⊆ page.records :=
    records_subset (fun _ shown => mem_records.mpr (.inl shown)) (fun _ found => known found) (.inl rfl)
  exact fun _ member => edited (clamped _ (records_render _ _ _ member))

/-- **A drawing from the cache** adds no records. -/
theorem records_redraw (permutes : ∀ compare data, (browser.sort compare data).Perm data)
    (searchable : ∀ record ∈ page.records, record.Searchable) :
    (redraw browser page).records ⊆ page.records := by
  unfold redraw applyLocalFilters
  split
  · exact fun _ member => member
  · exact fun _ member => member
  · rename_i request count data cache
    have inCache : ∀ record ∈ data, record ∈ page.records := fun record inData =>
      mem_records.mpr (.inr (.inr ⟨⟨request, .records count data⟩, cache, inData⟩))
    rw [localData_eq fun record inData => searchable record (inCache record inData)]
    refine records_drawHistory fun record member => ?_
    exact inCache record (List.mem_filter.mp ((permutes _ _).subset member)).1

theorem records_loadHistory {asked : HistoryPage}
    (found : ∀ record ∈ asked.filteredData, record ∈ page.records)
    (cache : asked.historyCache = page.historyCache ∨ asked.historyCache = none) :
    (loadHistory asked).records ⊆ page.records :=
  records_subset (fun _ shown => by cases shown) found cache

theorem records_showHistoryError (page : HistoryPage) : (showHistoryError page).records ⊆ page.records := by
  refine records_subset (fun _ shown => ?_) (fun _ found => mem_records.mpr (.inr (.inl found))) (.inl rfl)
  cases shown

theorem records_goToPage (target : ℤ) (page : HistoryPage) : (goToPage target page).records ⊆ page.records := by
  unfold goToPage
  split_ifs
  · exact fun _ member => member
  · exact fun _ member => records_render { page with currentPage := target.toNat } _ _ member

/-- **An event that is no answer** adds no records. -/
theorem records_event (permutes : ∀ compare data, (browser.sort compare data).Perm data)
    (searchable : ∀ record ∈ page.records, record.Searchable) {event : HistoryEvent}
    (own : event.isResponse = false) : (historyStep browser page event).records ⊆ page.records := by
  have keep : ∀ record ∈ page.filteredData, record ∈ page.records :=
    fun _ found => mem_records.mpr (.inr (.inl found))
  have shape := ownShape browser page own
  generalize historyStep browser page event = after at shape ⊢
  cases shape with
  | aside inputs pending => exact fun _ member => member
  | loads memory current inFlight =>
    rcases memory with ⟨found, cache⟩ | ⟨found, cache⟩
    · exact records_loadHistory (found ▸ keep) (.inl cache)
    · exact records_loadHistory (found ▸ fun _ none_there => by cases none_there) (.inr cache)
  | redraws isEdited found current =>
    rename_i edited
    have same : edited.records = page.records := by
      rw [HistoryPage.records, HistoryPage.records, isEdited.historyBody, found, isEdited.historyCache]
    rw [← same] at searchable ⊢
    exact records_redraw permutes searchable
  | turns shown target => exact records_goToPage target page
  | resizes shown value =>
    exact fun _ member => records_render { page with rowsPerPage := value, currentPage := 1 } _ _ member

/-- The records of what a request comes to. -/
def Response.data : Response → List HistoryRecord
  | .failed => []
  | .json answer => answer.data

/-- A drawing is of the cache, and leaves the requests alone. -/
theorem sameSource_applyLocalFilters {drawn : HistoryPage}
    (draws : applyLocalFilters browser page = some drawn) : SameSource page drawn := by
  have same : redraw browser page = drawn := by rw [redraw, draws, Option.getD_some]
  rcases redraw_cases browser page with unchanged | ⟨source, -⟩
  · rw [← same, unchanged]
    exact ⟨rfl, rfl, rfl⟩
  · exact same ▸ source

/-- **An answer** brings its own records. -/
theorem records_receive (permutes : ∀ compare data, (browser.sort compare data).Perm data)
    (request : DateRange) {response : Response} (searchable : ∀ record ∈ page.records, record.Searchable)
    (given : ∀ record ∈ response.data, record.Searchable) {record : HistoryRecord}
    (member : record ∈ (receiveHistory browser request response page).records) :
    record ∈ page.records ∨ record ∈ response.data := by
  have failed := fun (page : HistoryPage) (record : HistoryRecord) => @records_showHistoryError page record
  unfold receiveHistory at member
  split at member
  · exact .inl (failed page record member)
  · -- the cache holds an answer without records
    rcases mem_records.mp member with shown | found | ⟨cached, inCache, inData⟩
    · cases shown
    · exact .inl (mem_records.mpr (.inr (.inl found)))
    · cases inCache
      cases inData
  · rename_i count data
    -- what is stored is the answer, below what is still shown
    have stored : ∀ record ∈ (storeHistory request count data page).records,
        record ∈ page.records ∨ record ∈ data := by
      intro record member
      rcases mem_records.mp member with shown | found | ⟨cached, inCache, inData⟩
      · exact .inl (mem_records.mpr (.inl shown))
      · exact .inr found
      · cases inCache
        exact .inr inData
    split_ifs at member with short
    · exact .inl (failed page record member)
    · have known : ∀ record ∈ (storeHistory request count data page).records, record.Searchable :=
        fun record inStored => (stored record inStored).elim (searchable record) (given record)
      have drawn := records_redraw permutes known
      unfold redraw at drawn
      dsimp only at member
      cases draws : applyLocalFilters browser (storeHistory request count data page) with
      | none =>
        rw [draws, Option.getD_none] at member
        exact stored record (failed _ record member)
      | some after =>
        rw [draws, Option.getD_some] at member drawn
        exact stored record (drawn member)

/-- What an answer does to the cache and to the open requests. -/
theorem source_receive (browser : Browser) (request : DateRange) (response : Response) (page : HistoryPage) :
    (receiveHistory browser request response page).inFlight = page.inFlight ∧
      ((receiveHistory browser request response page).historyCache = page.historyCache ∨
        ∃ answer, response = .json answer ∧
          (receiveHistory browser request response page).historyCache = some ⟨request, answer⟩) := by
  unfold receiveHistory
  split
  · exact ⟨rfl, .inl rfl⟩
  · exact ⟨rfl, .inr ⟨_, rfl, rfl⟩⟩
  · rename_i count data
    split_ifs
    · exact ⟨rfl, .inl rfl⟩
    · dsimp only
      cases draws : applyLocalFilters browser (storeHistory request count data page) with
      | none => exact ⟨rfl, .inr ⟨_, rfl, rfl⟩⟩
      | some drawn =>
        have same := sameSource_applyLocalFilters draws
        exact ⟨same.inFlight, .inr ⟨_, rfl, same.historyCache⟩⟩

/-- What any other event does to them: it sends a request at most. -/
theorem source_event (browser : Browser) (page : HistoryPage) {event : HistoryEvent}
    (own : event.isResponse = false) :
    ((historyStep browser page event).historyCache = page.historyCache ∨
        (historyStep browser page event).historyCache = none) ∧
      ((historyStep browser page event).inFlight = page.inFlight ∨
        ∃ dates, (historyStep browser page event).inFlight = page.inFlight ++ [dates]) := by
  have kept : ∀ after : HistoryPage, SameSource page after →
      (after.historyCache = page.historyCache ∨ after.historyCache = none) ∧
        (after.inFlight = page.inFlight ∨ ∃ dates, after.inFlight = page.inFlight ++ [dates]) :=
    fun after same => ⟨.inl same.historyCache, .inl same.inFlight⟩
  have shape := ownShape browser page own
  generalize historyStep browser page event = after at shape ⊢
  cases shape with
  | aside inputs pending => exact kept _ ⟨rfl, rfl, rfl⟩
  | loads memory current inFlight =>
    rename_i asked
    exact ⟨memory.imp And.right And.right, .inr ⟨asked.activeFilters.toDateRange, by rw [← inFlight]; rfl⟩⟩
  | redraws isEdited found current =>
    rename_i edited
    rcases redraw_cases browser edited with unchanged | ⟨drawn, -⟩
    · rw [unchanged]
      exact kept edited isEdited.toSameSource
    · exact kept _ ⟨drawn.historyCache.trans isEdited.historyCache, drawn.dates.trans isEdited.dates,
        drawn.inFlight.trans isEdited.inFlight⟩
  | turns shown target => exact kept _ (drawn_goToPage target page).1
  | resizes shown value => exact kept _ ⟨rfl, rfl, rfl⟩

end Records

/-! ### The table -/

section Tables

variable {jsonC : JsonC}

/-- Nothing is removed from the table. -/
theorem snapshots_turn (machine : Machine) (turn : Turn) :
    machine.side.tables.pumpSnapshots ⊆ (machine.turn jsonC turn).side.tables.pumpSnapshots := by
  have moves := moves_turn jsonC machine turn
  generalize machine.turn jsonC turn = moved at moves ⊢
  cases moves with
  | take input takes waiting => exact fun _ member => member
  | stay takes => exact fun _ member => member
  | inside thread side branch takes busy current logged =>
    obtain ⟨rows, grown, -⟩ := logged.snapshots
    intro row member
    show row ∈ side.tables.pumpSnapshots
    rw [grown]
    exact List.mem_append_left _ member
  | opens thread now update calls here => exact fun _ member => member
  | fills thread busy alarm calls takes here => exact fun _ member => member

theorem snapshots_worlds (world : World) (labels : List WorldLabel) :
    world.machine.side.tables.pumpSnapshots ⊆
      (run (World.next jsonC) world labels).machine.side.tables.pumpSnapshots := by
  induction labels generalizing world with
  | nil => exact fun _ member => member
  | cons label rest ih =>
    refine List.Subset.trans ?_ (ih (world.next jsonC label))
    rcases machine_world world label with same | ⟨turn, moved⟩
    · rw [same]
      exact fun _ member => member
    · rw [moved]
      exact snapshots_turn world.machine turn

variable (jsonC) in
/-- What the daemon does in the world. -/
theorem world_daemon (sqlite : Sqlite) (daemon : Daemon) (label : DaemonLabel) :
    ∃ labels, (daemon.next jsonC sqlite label).world = run (World.next jsonC) daemon.world labels := by
  cases label with
  | world label =>
    unfold Daemon.next
    dsimp only
    split_ifs
    · exact ⟨[label], rfl⟩
    · exact ⟨[], rfl⟩
  | openRequest request => exact ⟨[], openRequest_world request daemon⟩
  | call id size io =>
    have called := called_call jsonC daemon id size io
    revert called
    show _ → ∃ labels, (daemon.call jsonC id size io).world = _
    generalize daemon.call jsonC id size io = after
    generalize daemon.reaches id size io = reached
    intro called
    cases called with
    | idle => exact ⟨[], rfl⟩
    | refused here outcome => exact ⟨[], rfl⟩
    | passed here outcome => exact ⟨[], rfl⟩
    | ended here free outcome => exact ⟨_, rfl⟩
  | finish io =>
    have finished := finished_finish jsonC sqlite daemon io
    revert finished
    show _ → ∃ labels, (daemon.finish jsonC sqlite io).world = _
    generalize daemon.finish jsonC sqlite io = after
    intro finished
    cases finished with
    | idle => exact ⟨[], rfl⟩
    | returned inside here waiting => exact ⟨[], rfl⟩
  | receive id =>
    unfold Daemon.next Daemon.receive
    dsimp only
    split <;> exact ⟨[], rfl⟩
  | abort id =>
    unfold Daemon.next Daemon.abort
    dsimp only
    split <;> exact ⟨[], rfl⟩

theorem snapshots_daemon (sqlite : Sqlite) (daemon : Daemon) (label : DaemonLabel) :
    daemon.snapshots ⊆ (daemon.next jsonC sqlite label).snapshots := by
  obtain ⟨labels, moved⟩ := world_daemon jsonC sqlite daemon label
  unfold Daemon.snapshots
  rw [moved]
  exact snapshots_worlds daemon.world labels

end Tables

/-! ### The session -/

namespace HistorySession

/-- What a label of the session does to the server. -/
def passes (browser : Browser) (session : HistorySession) : SessionLabel → Option DaemonLabel
  | .daemon label => some label
  | .event event =>
    if event.isResponse then none
    else
      (asked session.page (historyStep browser session.page event)).map fun dates =>
        .openRequest (historyRequest dates)
  | .arrive index =>
    match session.sent[index]? with
    | some id =>
      match session.daemon.requests id with
      | .answered _ => some (.receive id)
      | _ => none
    | none => none
  | .fail _ => none

end HistorySession

section Session

variable (jsonC : JsonC) (sqlite : Sqlite) (browser : Browser)

theorem session_daemon_next (session : HistorySession) (label : SessionLabel) :
    (session.next jsonC sqlite browser label).daemon =
      run (Daemon.next jsonC sqlite) session.daemon (session.passes browser label).toList := by
  cases label with
  | daemon label => rfl
  | event event =>
    unfold HistorySession.next HistorySession.passes
    dsimp only
    split_ifs
    · rfl
    · unfold HistorySession.event
      dsimp only
      cases HistorySession.asked session.page (historyStep browser session.page event) <;> rfl
  | arrive index =>
    unfold HistorySession.passes
    show (session.arrive browser index).daemon = _
    unfold HistorySession.arrive
    dsimp only
    cases session.sent[index]? with
    | none => rfl
    | some id =>
      dsimp only
      cases session.daemon.requests id <;> rfl
  | fail index =>
    unfold HistorySession.next HistorySession.passes
    dsimp only
    split_ifs <;> rfl

/-- **The server behind the session** runs as the daemon does. -/
theorem daemon_sessionAfter (labels : List SessionLabel) :
    (sessionAfter jsonC sqlite browser labels).daemon = run (Daemon.next jsonC sqlite) {}
      (emitted (HistorySession.next jsonC sqlite browser)
        (fun session label => (session.passes browser label).toList) {} labels) :=
  run_emitted (session_daemon_next jsonC sqlite browser) {} labels

theorem sessionAfter_concat (labels : List SessionLabel) (label : SessionLabel) :
    sessionAfter jsonC sqlite browser (labels ++ [label]) =
      (sessionAfter jsonC sqlite browser labels).next jsonC sqlite browser label := by
  rw [sessionAfter, run_append]
  rfl

variable {jsonC sqlite browser}

theorem ReadSince.mono {labels more : List SessionLabel} (isPrefix : labels <+: more) {id : ℕ}
    {dates : DateRange} {body : List UInt8} (read : ReadSince jsonC sqlite browser labels id dates body) :
    ReadSince jsonC sqlite browser more id dates body := by
  obtain ⟨before, within, since⟩ := read
  exact ⟨before, within.trans isPrefix, since⟩

/-- The only call for the request answers it. -/
theorem historyRequest_answeredAtOnce (dates : DateRange) :
    (historyRequest dates).AnsweredAtOnce .pumpHistory where
  fresh := ⟨rfl, fun post => absurd post (show "GET" ≠ "POST" by decide)⟩
  selects allocated size := by
    show handleRequest allocated "GET" "/api/pump/history" [] none = _
    rfl

/-- The table is grown by a step, if it is changed at all. -/
theorem snapshots_next (session : HistorySession) (label : SessionLabel) :
    session.daemon.snapshots ⊆ (session.next jsonC sqlite browser label).daemon.snapshots := by
  rw [session_daemon_next]
  cases session.passes browser label with
  | none => exact fun _ member => member
  | some passed => exact snapshots_daemon sqlite session.daemon passed

/-- The invariant: an open request that is answered has the answer of a moment at which it was open, and so
has the cache; the records of the page are rows of the table. -/
structure Backed (jsonC : JsonC) (sqlite : Sqlite) (browser : Browser) (labels : List SessionLabel)
    (session : HistorySession) : Prop where
  reached : session = sessionAfter jsonC sqlite browser labels
  numbered : session.page.inFlight.length = session.sent.length
  requests : ∀ dates id, (dates, id) ∈ session.openRequests →
    GetState (historyRequest dates) .pumpHistory
      (fun answer => ReadSince jsonC sqlite browser labels id dates answer.body) (session.daemon.requests id)
  cached : ∀ dates answer, session.page.historyCache = some ⟨dates, answer⟩ →
    ∃ id body, ReadSince jsonC sqlite browser labels id dates body ∧ resJson body = .json answer
  rows : ∀ record ∈ session.page.records, ∃ row ∈ session.daemon.snapshots, record = row.shown

variable {labels : List SessionLabel} {session : HistorySession}

/-- The rows of the table are readable, whatever becomes of their times. -/
theorem readable_of_row (reached : session = sessionAfter jsonC sqlite browser labels) {row : SnapshotRow}
    (inTable : row ∈ session.daemon.snapshots) : row.shown.Readable := by
  have safe : DomainSafe (sessionAfter jsonC sqlite browser labels).daemon.world.machine.reading := by
    rw [daemon_sessionAfter]
    exact domainSafe_daemon sqlite _
  rw [← reached] at safe
  have readable : row.record.Readable := readable_record (safe.rows.snapshots row inTable)
  rw [shown_eq]
  exact readable

theorem Backed.searchable (backed : Backed jsonC sqlite browser labels session) :
    ∀ record ∈ session.page.records, record.Searchable := by
  intro record member
  obtain ⟨row, inTable, rfl⟩ := backed.rows record member
  exact (readable_of_row backed.reached inTable).1

theorem backed_initial (jsonC : JsonC) (sqlite : Sqlite) (browser : Browser) :
    Backed jsonC sqlite browser [] {} where
  reached := rfl
  numbered := rfl
  requests _ _ opened := absurd opened List.not_mem_nil
  cached _ _ cache := absurd cache.symm (Option.some_ne_none _)
  rows _ member := absurd member List.not_mem_nil

/-- **An open request**, behind one more step. -/
theorem requests_next (backed : Backed jsonC sqlite browser labels session) (label : SessionLabel)
    {dates : DateRange} {id : ℕ} (opened : (dates, id) ∈ session.openRequests) :
    GetState (historyRequest dates) .pumpHistory
      (fun answer => ReadSince jsonC sqlite browser (labels ++ [label]) id dates answer.body)
      ((session.next jsonC sqlite browser label).daemon.requests id) := by
  have unused : ∀ id, session.daemon.opened ≤ id → session.daemon.requests id = .unused := by
    intro id le
    rw [backed.reached, daemon_sessionAfter] at le ⊢
    exact ((tracked_run jsonC sqlite _).unused id le).1
  have before := backed.requests dates id opened
  have grown : labels <+: labels ++ [label] := List.prefix_append labels [label]
  rw [session_daemon_next]
  cases session.passes browser label with
  | none => exact before.mono fun _ => ReadSince.mono grown
  | some passed =>
    refine (get_next sqlite unused (historyRequest_answeredAtOnce dates) before passed).mono fun answer => ?_
    rintro (read | ⟨io, published, rfl⟩)
    · exact read.mono grown
    · exact ⟨labels, grown, backed.reached ▸ opened, io.prepared, backed.reached ▸ rfl⟩

/-- What a step does to the page. -/
inductive PageMoves (browser : Browser) (session : HistorySession) : HistorySession → Prop
  | server (daemon : Daemon) : PageMoves browser session { session with daemon := daemon }
  | draws (event : HistoryEvent) (own : event.isResponse = false)
      (same : (historyStep browser session.page event).inFlight = session.page.inFlight) :
      PageMoves browser session { session with page := historyStep browser session.page event }
  | asks (event : HistoryEvent) (own : event.isResponse = false) (dates : DateRange)
      (sends : (historyStep browser session.page event).inFlight = session.page.inFlight ++ [dates]) :
      PageMoves browser session
        { page := historyStep browser session.page event
          daemon := session.daemon.openRequest (historyRequest dates)
          sent := session.sent ++ [session.daemon.opened] }
  | responds (index id : ℕ) (dates : DateRange) (response : Response) (daemon : Daemon)
      (opened : session.openRequests[index]? = some (dates, id))
      (comes : response = .failed ∨
        ∃ answer, session.daemon.requests id = .answered answer ∧ response = resJson answer.body) :
      PageMoves browser session
        { page := receiveHistory browser dates response
            { session.page with inFlight := session.page.inFlight.eraseIdx index }
          daemon := daemon
          sent := session.sent.eraseIdx index }

theorem pageMoves_event {event : HistoryEvent} (own : event.isResponse = false) :
    PageMoves browser session (session.event browser event) := by
  unfold HistorySession.event
  rcases (source_event browser session.page own).2 with same | ⟨dates, sends⟩
  · have nothing : HistorySession.asked session.page (historyStep browser session.page event) = none := by
      rw [HistorySession.asked, same, List.drop_length, List.head?_nil]
    dsimp only
    rw [nothing]
    exact .draws event own same
  · have asked : HistorySession.asked session.page (historyStep browser session.page event) = some dates := by
      rw [HistorySession.asked, sends, List.drop_left, List.head?_cons]
    dsimp only
    rw [asked]
    exact .asks event own dates sends

/-- The answer to an open request is the next event of the page. -/
theorem page_respond {index id : ℕ} {dates : DateRange}
    (opened : session.openRequests[index]? = some (dates, id)) (response : Response) :
    historyStep browser session.page (.respond index response) =
      receiveHistory browser dates response
        { session.page with inFlight := session.page.inFlight.eraseIdx index } := by
  have here : session.page.inFlight[index]? = some dates := (List.getElem?_zip_eq_some.mp opened).1
  unfold historyStep
  dsimp only
  rw [here]

/-- A number that is there is that of an open request. -/
theorem exists_opened (numbered : session.page.inFlight.length = session.sent.length) {index : ℕ}
    (inside : index < session.sent.length) :
    ∃ dates id, session.openRequests[index]? = some (dates, id) ∧
      session.sent[index]? = some id := by
  have within : index < session.page.inFlight.length := numbered ▸ inside
  refine ⟨session.page.inFlight[index], session.sent[index], ?_, List.getElem?_eq_getElem inside⟩
  exact List.getElem?_zip_eq_some.mpr ⟨List.getElem?_eq_getElem within, List.getElem?_eq_getElem inside⟩

variable (jsonC sqlite browser) in
/-- **What a step can do to the page.** -/
theorem pageMoves_next (numbered : session.page.inFlight.length = session.sent.length)
    (label : SessionLabel) : PageMoves browser session (session.next jsonC sqlite browser label) := by
  cases label with
  | daemon label => exact .server _
  | event event =>
    show PageMoves browser session (if event.isResponse then session else session.event browser event)
    cases own : event.isResponse with
    | true => exact .server session.daemon
    | false => exact pageMoves_event own
  | arrive index =>
    show PageMoves browser session (session.arrive browser index)
    by_cases inside : index < session.sent.length
    · obtain ⟨dates, id, opened, here⟩ := exists_opened numbered inside
      unfold HistorySession.arrive
      rw [here]
      dsimp only
      cases answered : session.daemon.requests id with
      | answered answer =>
        dsimp only
        unfold HistorySession.respond
        rw [page_respond opened]
        exact .responds index id dates _ _ opened (.inr ⟨answer, answered, rfl⟩)
      | unused | reading | handling | closed => exact .server session.daemon
    · unfold HistorySession.arrive
      rw [List.getElem?_eq_none (Nat.le_of_not_lt inside)]
      exact .server session.daemon
  | fail index =>
    show PageMoves browser session
      (if index < session.sent.length then session.respond browser index .failed else session)
    split_ifs with inside
    · obtain ⟨dates, id, opened, -⟩ := exists_opened numbered inside
      unfold HistorySession.respond
      rw [page_respond opened]
      exact .responds index id dates .failed session.daemon opened (.inl rfl)
    · exact .server session.daemon

/-- An open request was open before, or has just been sent. -/
theorem openRequests_next (numbered : session.page.inFlight.length = session.sent.length)
    {label : SessionLabel} {dates : DateRange} {id : ℕ}
    (opened : (dates, id) ∈ (session.next jsonC sqlite browser label).openRequests) :
    (dates, id) ∈ session.openRequests ∨ id = session.daemon.opened ∧
      (session.next jsonC sqlite browser label).daemon = session.daemon.openRequest (historyRequest dates) := by
  have moves := pageMoves_next jsonC sqlite browser numbered label
  generalize session.next jsonC sqlite browser label = moved at moves opened ⊢
  cases moves with
  | server daemon => exact .inl opened
  | draws event own same =>
    left
    rw [HistorySession.openRequests, same] at opened
    exact opened
  | asks event own asked sends =>
    rw [HistorySession.openRequests, sends, List.zip_append numbered] at opened
    rcases List.mem_append.mp opened with old | new
    · exact .inl old
    · cases List.mem_singleton.mp new
      exact .inr ⟨rfl, rfl⟩
  | responds index answered of response daemon here comes =>
    left
    have flight : (receiveHistory browser of response
        { session.page with inFlight := session.page.inFlight.eraseIdx index }).inFlight =
          session.page.inFlight.eraseIdx index := (source_receive browser of response _).1
    rw [HistorySession.openRequests, flight] at opened
    obtain ⟨place, found⟩ := List.mem_iff_getElem?.mp opened
    obtain ⟨foundDates, foundId⟩ := List.getElem?_zip_eq_some.mp found
    rw [List.getElem?_eraseIdx] at foundDates foundId
    split_ifs at foundDates foundId
    · exact List.mem_iff_getElem?.mpr ⟨place, List.getElem?_zip_eq_some.mpr ⟨foundDates, foundId⟩⟩
    · exact List.mem_iff_getElem?.mpr ⟨place + 1, List.getElem?_zip_eq_some.mpr ⟨foundDates, foundId⟩⟩

theorem numbered_next (numbered : session.page.inFlight.length = session.sent.length)
    (label : SessionLabel) :
    (session.next jsonC sqlite browser label).page.inFlight.length =
      (session.next jsonC sqlite browser label).sent.length := by
  have moves := pageMoves_next jsonC sqlite browser numbered label
  generalize session.next jsonC sqlite browser label = moved at moves ⊢
  cases moves with
  | server daemon => exact numbered
  | draws event own same =>
    show (historyStep browser session.page event).inFlight.length = _
    rw [same]
    exact numbered
  | asks event own dates sends =>
    show (historyStep browser session.page event).inFlight.length = _
    rw [sends, List.length_append, List.length_append, numbered]
    rfl
  | responds index id dates response daemon opened comes =>
    show (receiveHistory browser dates response _).inFlight.length = _
    rw [(source_receive browser dates response _).1, List.length_eraseIdx, List.length_eraseIdx, numbered]

/-- **The answer that is read** was read from the table when its request was open. -/
theorem read_of_comes (backed : Backed jsonC sqlite browser labels session) {index id : ℕ}
    {dates : DateRange} (opened : session.openRequests[index]? = some (dates, id)) {response : Response}
    (comes : response = .failed ∨
      ∃ answer, session.daemon.requests id = .answered answer ∧ response = resJson answer.body)
    {answer : HistoryAnswer} (given : response = .json answer) :
    ∃ body, ReadSince jsonC sqlite browser labels id dates body ∧ resJson body = .json answer := by
  rcases comes with rfl | ⟨sent, answered, rfl⟩
  · cases given
  · have read := backed.requests dates id (List.mem_of_getElem? opened)
    rw [answered] at read
    exact ⟨sent.body, read, given⟩

/-- The rows of an earlier table are there. -/
theorem snapshots_prefix {before : List SessionLabel} (isPrefix : before <+: labels) :
    (sessionAfter jsonC sqlite browser before).daemon.snapshots ⊆
      (sessionAfter jsonC sqlite browser labels).daemon.snapshots := by
  obtain ⟨more, rfl⟩ := isPrefix
  induction more using List.reverseRecOn with
  | nil =>
    rw [List.append_nil]
    exact fun _ member => member
  | append_singleton more label ih =>
    rw [← List.append_assoc, sessionAfter_concat]
    exact List.Subset.trans ih (snapshots_next _ label)

/-- **The records of an answer** are rows of the table. -/
theorem rows_of_read {id : ℕ} {dates : DateRange} {body : List UInt8}
    (read : ReadSince jsonC sqlite browser labels id dates body) {answer : HistoryAnswer}
    (given : resJson body = .json answer) {record : HistoryRecord} (member : record ∈ answer.data) :
    ∃ row ∈ (sessionAfter jsonC sqlite browser labels).daemon.snapshots, record = row.shown := by
  obtain ⟨before, isPrefix, -, prepared, rfl⟩ := read
  cases answer with
  | error => cases member
  | records count data =>
    rcases resJson_handlePumpHistory sqlite prepared
      (sessionAfter jsonC sqlite browser before).daemon.snapshots (historyArguments dates) with
        failed | ⟨kept, loop, answered⟩
    · cases failed.symm.trans given
    · cases answered.symm.trans given
      obtain ⟨row, inKept, rfl⟩ := List.mem_map.mp member
      have inTable := (of_mem_selectedRows (loop.isPrefix.subset inKept)).1
      exact ⟨row, snapshots_prefix isPrefix inTable, rfl⟩

theorem rows_of_comes (backed : Backed jsonC sqlite browser labels session) {index id : ℕ}
    {dates : DateRange} (opened : session.openRequests[index]? = some (dates, id)) {response : Response}
    (comes : response = .failed ∨
      ∃ answer, session.daemon.requests id = .answered answer ∧ response = resJson answer.body)
    {record : HistoryRecord} (member : record ∈ response.data) :
    ∃ row ∈ session.daemon.snapshots, record = row.shown := by
  cases response with
  | failed => cases member
  | json answer =>
    obtain ⟨body, read, given⟩ := read_of_comes backed opened comes rfl
    rw [backed.reached]
    exact rows_of_read read given member

theorem searchable_of_comes (backed : Backed jsonC sqlite browser labels session) {index id : ℕ}
    {dates : DateRange} (opened : session.openRequests[index]? = some (dates, id)) {response : Response}
    (comes : response = .failed ∨
      ∃ answer, session.daemon.requests id = .answered answer ∧ response = resJson answer.body) :
    ∀ record ∈ response.data, record.Searchable := by
  intro record member
  obtain ⟨row, inTable, rfl⟩ := rows_of_comes backed opened comes member
  exact (readable_of_row backed.reached inTable).1

/-- The records behind a step: those of the page, or those of an answer to it. -/
theorem records_next (permutes : ∀ compare data, (browser.sort compare data).Perm data)
    (backed : Backed jsonC sqlite browser labels session) (label : SessionLabel) {record : HistoryRecord}
    (member : record ∈ (session.next jsonC sqlite browser label).page.records) :
    ∃ row ∈ (session.next jsonC sqlite browser label).daemon.snapshots, record = row.shown := by
  have later : ∀ record, (∃ row ∈ session.daemon.snapshots, record = row.shown) →
      ∃ row ∈ (session.next jsonC sqlite browser label).daemon.snapshots, record = row.shown :=
    fun _ ⟨row, inTable, same⟩ => ⟨row, snapshots_next session label inTable, same⟩
  refine later record ?_
  have moves := pageMoves_next jsonC sqlite browser backed.numbered label
  generalize session.next jsonC sqlite browser label = moved at moves member
  cases moves with
  | server daemon => exact backed.rows record member
  | draws event own same => exact backed.rows record (records_event permutes backed.searchable own member)
  | asks event own dates sends =>
    exact backed.rows record (records_event permutes backed.searchable own member)
  | responds index id dates response daemon opened comes =>
    have searchable : ∀ record ∈ HistoryPage.records
        { session.page with inFlight := session.page.inFlight.eraseIdx index }, record.Searchable :=
      backed.searchable
    rcases records_receive permutes dates searchable (searchable_of_comes backed opened comes) member with
      old | new
    · exact backed.rows record old
    · exact rows_of_comes backed opened comes new

/-- The cache behind a step. -/
theorem cached_next (backed : Backed jsonC sqlite browser labels session) (label : SessionLabel)
    {dates : DateRange} {answer : HistoryAnswer}
    (cache : (session.next jsonC sqlite browser label).page.historyCache = some ⟨dates, answer⟩) :
    ∃ id body, ReadSince jsonC sqlite browser labels id dates body ∧ resJson body = .json answer := by
  have kept : ∀ page : HistoryPage,
      page.historyCache = session.page.historyCache ∨ page.historyCache = none →
        page.historyCache = some ⟨dates, answer⟩ →
          ∃ id body, ReadSince jsonC sqlite browser labels id dates body ∧ resJson body = .json answer := by
    rintro page (same | empty) cache
    · exact backed.cached dates answer (same ▸ cache)
    · rw [empty] at cache
      cases cache
  have moves := pageMoves_next jsonC sqlite browser backed.numbered label
  generalize session.next jsonC sqlite browser label = moved at moves cache
  cases moves with
  | server daemon => exact backed.cached dates answer cache
  | draws event own same => exact kept _ (source_event browser session.page own).1 cache
  | asks event own asked sends => exact kept _ (source_event browser session.page own).1 cache
  | responds index id request response daemon opened comes =>
    rcases (source_receive browser request response
      { session.page with inFlight := session.page.inFlight.eraseIdx index }).2 with same | ⟨given, json, stored⟩
    · exact kept _ (.inl same) cache
    · cases stored.symm.trans cache
      obtain ⟨body, read, same⟩ := read_of_comes backed opened comes json
      exact ⟨id, body, read, same⟩

/-- **The invariant is kept by every step.** -/
theorem backed_next (permutes : ∀ compare data, (browser.sort compare data).Perm data)
    (labels : List SessionLabel) (session : HistorySession) (label : SessionLabel)
    (backed : Backed jsonC sqlite browser labels session) :
    Backed jsonC sqlite browser (labels ++ [label]) (session.next jsonC sqlite browser label) where
  reached := by rw [sessionAfter_concat, ← backed.reached]
  numbered := numbered_next backed.numbered label
  requests dates id opened := by
    rcases openRequests_next backed.numbered opened with old | ⟨rfl, sent⟩
    · exact requests_next backed label old
    · rw [sent]
      exact getState_openRequest (historyRequest_answeredAtOnce dates).fresh session.daemon
  cached dates answer cache := by
    obtain ⟨id, body, read, given⟩ := cached_next backed label cache
    exact ⟨id, body, read.mono (List.prefix_append labels [label]), given⟩
  rows _ member := records_next permutes backed label member

end Session

/-- **In every run, the history page shows and exports rows of the table**, each with a text for its values,
and its cache is what one query found when its request was open. -/
theorem history_shows_table (jsonC : JsonC) (sqlite : Sqlite) (browser : Browser)
    (permutes : ∀ compare data, (browser.sort compare data).Perm data) (labels : List SessionLabel) :
    ShowsTable jsonC sqlite browser labels := by
  have backed : Backed jsonC sqlite browser labels (sessionAfter jsonC sqlite browser labels) :=
    invariant_history (backed_next permutes) (backed_initial jsonC sqlite browser) labels
  refine ⟨backed.cached, fun record shown => ?_⟩
  have member : record ∈ (sessionAfter jsonC sqlite browser labels).page.records :=
    mem_records.mpr (shown.imp_right .inl)
  obtain ⟨row, inTable, rfl⟩ := backed.rows record member
  exact ⟨readable_of_row rfl inTable, row, inTable, rfl⟩

/-- A report of pump 1 is delivered while the history is being loaded. The page is called up again, the two
answers arrive the other way round, and the page is called up once more. -/
def loadedHistory : List SessionLabel :=
  [.event (.showPage .history), .daemon (.call 0 0 {}),
    .daemon (.world (.publish .feedback (ascii "\x7b\"pump_id\":1,\"status\":1\x7d"))),
    .daemon (.world (.deliver .feedback)), .daemon (.finish {})] ++
  List.replicate 5 (.daemon (.world (.step .mqtt 100 true))) ++
  [.event (.showPage .history), .daemon (.call 1 0 {}), .daemon (.finish {}), .arrive 1, .arrive 0,
    .event (.showPage .history), .daemon (.call 2 0 {}), .daemon (.finish {}), .arrive 0]

theorem history_shows_table_loaded :
    (∀ compare data, (sampleBrowser.sort compare data).Perm data) ∧
      (sessionAfter JsonC.reference Sqlite.stable sampleBrowser loadedHistory).page.historyBody =
        .table [⟨100, 0, 1, 0, 0, 0, 0⟩] ∧
      ShowsTable JsonC.reference Sqlite.stable sampleBrowser loadedHistory := by
  have permutes : ∀ compare data, (sampleBrowser.sort compare data).Perm data :=
    fun _ data => List.mergeSort_perm data _
  refine ⟨permutes, ?_, history_shows_table JsonC.reference Sqlite.stable sampleBrowser permutes loadedHistory⟩
  decide +kernel

end ServerPump
