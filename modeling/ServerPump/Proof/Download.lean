/-
**A downloaded file tells what one query found.**

`exportToCSV` takes the records that are in memory, whatever the page shows at the time: it may be loading, or
show an error. Still the file has one line for each row that a query found and that passed the filters, as of
the last time a table was drawn. While a table is on display, that time is now.

* `found_event`, `found_receive`: the records in memory are replaced as a table is drawn, and forgotten by a
  reload.
* `queriedSince_of_read`: what is cached are the rows that a query has written.
* `download_tells_query`: in every run, with the export read back.
-/

import ServerPump.Proof.CsvExport
import ServerPump.Proof.HistoryDisplay

namespace ServerPump

open CText Csv Runs

/-! ### The law -/

section Law

variable (jsonC : JsonC) (sqlite : Sqlite) (browser : Browser)

/-- The query for these dates has written these rows, at a moment of the run when its request was open. -/
def QueriedSince (labels : List SessionLabel) (dates : DateRange) (kept : List SnapshotRow) : Prop :=
  ∃ before id, before <+: labels ∧ (dates, id) ∈ (sessionAfter jsonC sqlite browser before).openRequests ∧
    Kept (selectedRows sqlite (queryParams (historyArguments dates))
      (sessionAfter jsonC sqlite browser before).daemon.snapshots) kept

/-- What the page finds in these rows, in its numbers. -/
def HistoryPage.foundIn (page : HistoryPage) (kept : List SnapshotRow) : List HistoryRecord :=
  browser.sort (compareBy page.sortColumn page.sortDirection)
    ((kept.map SnapshotRow.shown).filter fun record => Passes browser page.activeFilters record)

/-- The last moment of the run at which a table was on display. -/
structure LastTable (labels drawn : List SessionLabel) : Prop where
  isPrefix : drawn <+: labels
  shown : TableShown (sessionAfter jsonC sqlite browser drawn).page
  latest : ∀ later, drawn <+: later → later <+: labels →
    TableShown (sessionAfter jsonC sqlite browser later).page → later = drawn

/-- The cache held these rows at that moment, which a query has written. -/
structure Told (drawn : List SessionLabel) (kept : List SnapshotRow) : Prop where
  queried : ∃ dates, QueriedSince jsonC sqlite browser drawn dates kept ∧
    (sessionAfter jsonC sqlite browser drawn).page.historyCache =
      some ⟨dates, .records kept.length (kept.map SnapshotRow.shown)⟩
  readable : ∀ row ∈ kept, row.shown.Readable

/-- **The law**: whatever is downloaded is read back as the headers, and a line of texts for each record that
was found at the last moment at which a table was on display. -/
def DownloadTells (labels : List SessionLabel) : Prop :=
  ∀ dateNow name type text,
    exportToCSV browser dateNow (sessionAfter jsonC sqlite browser labels).page = .download name type text →
      ∃ drawn kept found, LastTable jsonC sqlite browser labels drawn ∧ Told jsonC sqlite browser drawn kept ∧
        found = (sessionAfter jsonC sqlite browser drawn).page.foundIn browser kept ∧
        Csv.read .lf text.toList =
          some ((csvHeaders :: found.map (shownTexts browser)).map (List.map String.toList))

end Law

/-! ### The records in memory -/

section Page

variable {browser : Browser} {page : HistoryPage}

/-- **An event that is no answer** keeps the records, or draws a table; a reload forgets them. -/
theorem found_event (browser : Browser) (page : HistoryPage) {event : HistoryEvent}
    (own : event.isResponse = false) :
    (historyStep browser page event).filteredData = page.filteredData ∨
      (historyStep browser page event).filteredData = [] ∨ TableShown (historyStep browser page event) := by
  have shape := ownShape browser page own
  generalize historyStep browser page event = after at shape ⊢
  cases shape with
  | aside inputs pending => exact .inl rfl
  | loads memory current inFlight => exact memory.imp And.left fun forgotten => .inl forgotten.1
  | redraws isEdited found current =>
    rename_i edited
    rcases redraw_cases browser edited with unchanged | ⟨-, table⟩
    · exact .inl (by rw [unchanged, found])
    · exact .inr (.inr table)
  | turns shown target =>
    unfold goToPage
    split_ifs
    · exact .inl rfl
    · exact .inl rfl
  | resizes shown value => exact .inl rfl

/-- **An answer** keeps the records, or draws a table. -/
theorem found_receive (request : DateRange) {response : Response}
    (given : ∀ record ∈ response.data, record.Searchable) :
    (receiveHistory browser request response page).filteredData = page.filteredData ∨
      TableShown (receiveHistory browser request response page) := by
  cases response with
  | failed => exact .inl rfl
  | json answer =>
    cases answer with
    | error => exact .inl rfl
    | records count data =>
      have searchable : ∀ record ∈ data, record.Searchable := given
      rw [receiveHistory]
      split_ifs
      · exact .inl rfl
      · right
        unfold applyLocalFilters
        dsimp only
        rw [historyCache_storeHistory]
        dsimp only
        rw [localData_eq searchable, Option.map_some, Option.getD_some]
        exact tableShown_drawHistory _ _ _ _

end Page

/-! ### The session -/

section Session

variable {jsonC : JsonC} {sqlite : Sqlite} {browser : Browser} {labels : List SessionLabel}
  {session : HistorySession}

/-- **What a step does to the records in memory.** -/
theorem found_next (backed : Backed jsonC sqlite browser labels session) (label : SessionLabel) :
    (session.next jsonC sqlite browser label).page.filteredData = session.page.filteredData ∨
      (session.next jsonC sqlite browser label).page.filteredData = [] ∨
        TableShown (session.next jsonC sqlite browser label).page := by
  have moves := pageMoves_next jsonC sqlite browser backed.numbered label
  generalize session.next jsonC sqlite browser label = moved at moves ⊢
  cases moves with
  | server daemon => exact .inl rfl
  | draws event own same => exact found_event browser session.page own
  | asks event own dates sends => exact found_event browser session.page own
  | responds index id dates response daemon opened comes =>
    exact (found_receive dates (searchable_of_comes backed opened comes)).imp_right .inr

/-- The records in memory are those of the last table, unless there are none. -/
def FromTable (jsonC : JsonC) (sqlite : Sqlite) (browser : Browser) (labels : List SessionLabel)
    (session : HistorySession) : Prop :=
  session.page.filteredData = [] ∨ ∃ drawn, LastTable jsonC sqlite browser labels drawn ∧
    (sessionAfter jsonC sqlite browser drawn).page.filteredData = session.page.filteredData

/-- A step behind which no table is on display. -/
theorem LastTable.concat {drawn : List SessionLabel} (last : LastTable jsonC sqlite browser labels drawn)
    {label : SessionLabel}
    (noTable : ¬ TableShown (sessionAfter jsonC sqlite browser (labels ++ [label])).page) :
    LastTable jsonC sqlite browser (labels ++ [label]) drawn where
  isPrefix := last.isPrefix.trans (List.prefix_append labels [label])
  shown := last.shown
  latest later behind within table := by
    rcases List.prefix_concat_iff.mp within with rfl | before
    · exact absurd table noTable
    · exact last.latest later behind before table

theorem fromTable_next (backed : Backed jsonC sqlite browser labels session)
    (fromTable : FromTable jsonC sqlite browser labels session) (label : SessionLabel) :
    FromTable jsonC sqlite browser (labels ++ [label]) (session.next jsonC sqlite browser label) := by
  have reached : sessionAfter jsonC sqlite browser (labels ++ [label]) =
      session.next jsonC sqlite browser label := by
    rw [sessionAfter_concat, ← backed.reached]
  by_cases table : TableShown (session.next jsonC sqlite browser label).page
  · refine .inr ⟨labels ++ [label], ⟨List.prefix_rfl, reached ▸ table, ?_⟩, by rw [reached]⟩
    exact fun later behind within _ => within.eq_of_length_le behind.length_le
  · rcases found_next backed label with kept | empty | shown
    · rcases fromTable with nothing | ⟨drawn, last, same⟩
      · exact .inl (kept.trans nothing)
      · exact .inr ⟨drawn, last.concat (reached ▸ table), same.trans kept.symm⟩
    · exact .inl empty
    · exact absurd shown table

/-- **What is read out of an answer** are the rows its query has written. -/
theorem queriedSince_of_read {id : ℕ} {dates : DateRange} {body : List UInt8}
    (read : ReadSince jsonC sqlite browser labels id dates body) {count : ℕ} {data : List HistoryRecord}
    (given : resJson body = .json (.records count data)) :
    ∃ kept, QueriedSince jsonC sqlite browser labels dates kept ∧ count = kept.length ∧
      data = kept.map SnapshotRow.shown := by
  obtain ⟨before, isPrefix, opened, prepared, rfl⟩ := read
  rcases resJson_handlePumpHistory sqlite prepared
    (sessionAfter jsonC sqlite browser before).daemon.snapshots (historyArguments dates) with
      failed | ⟨kept, loop, answer⟩
  · cases failed.symm.trans given
  · cases answer.symm.trans given
    exact ⟨kept, ⟨before, id, isPrefix, opened, loop⟩, rfl, rfl⟩

/-- **A table on display** shows what was found in rows that a query has written. -/
theorem told_of_table (backed : Backed jsonC sqlite browser labels (sessionAfter jsonC sqlite browser labels))
    (coherent : Coherent browser (sessionAfter jsonC sqlite browser labels).page)
    (shown : TableShown (sessionAfter jsonC sqlite browser labels).page) :
    ∃ kept, Told jsonC sqlite browser labels kept ∧
      (sessionAfter jsonC sqlite browser labels).page.filteredData =
        (sessionAfter jsonC sqlite browser labels).page.foundIn browser kept := by
  obtain ⟨request, count, data, cache, displays⟩ := coherent.displays shown
  obtain ⟨id, body, read, given⟩ := backed.cached request _ cache
  obtain ⟨kept, queried, rfl, rfl⟩ := queriedSince_of_read read given
  refine ⟨kept, ⟨⟨request, queried, cache⟩, fun row member => ?_⟩, displays.found⟩
  have inPage : row.shown ∈ (sessionAfter jsonC sqlite browser labels).page.records :=
    mem_records.mpr (.inr (.inr ⟨_, cache, List.mem_map_of_mem member⟩))
  obtain ⟨inTable, isRow, same⟩ := backed.rows _ inPage
  rw [same]
  exact readable_of_row backed.reached isRow

end Session

/-- **In every run of the history page with the server, a downloaded file tells what one query found**: read
back, it has the headers and one line for each row that the query had written and that passed the filters, in
the chosen order, when a table was drawn last. -/
theorem download_tells_query (jsonC : JsonC) (sqlite : Sqlite) (browser : Browser)
    (permutes : ∀ compare data, (browser.sort compare data).Perm data)
    (unquoted : ∀ time, '"' ∉ (browser.toLocaleString time).toList) (labels : List SessionLabel) :
    DownloadTells jsonC sqlite browser labels := by
  have fromTable : FromTable jsonC sqlite browser labels (sessionAfter jsonC sqlite browser labels) :=
    (invariant_history
      (fun before session label (inv : Backed jsonC sqlite browser before session ∧
          FromTable jsonC sqlite browser before session) =>
        ⟨backed_next permutes before session label inv.1, fromTable_next inv.1 inv.2 label⟩)
      ⟨backed_initial jsonC sqlite browser, .inl rfl⟩ labels).2
  intro dateNow name type text download
  have nonempty : (sessionAfter jsonC sqlite browser labels).page.filteredData ≠ [] := by
    intro empty
    rw [exportToCSV, if_pos empty] at download
    cases download
  rw [exportToCSV_of_ne_nil nonempty] at download
  cases download
  have times : TimesUnquoted browser (sessionAfter jsonC sqlite browser labels).page :=
    fun item _ => unquoted (item.timestamp * 1000)
  obtain ⟨drawn, last, same⟩ := fromTable.resolve_left nonempty
  obtain ⟨backed, coherent⟩ := backed_coherent jsonC sqlite permutes drawn
  obtain ⟨kept, told, found⟩ := told_of_table backed coherent last.shown
  refine ⟨drawn, kept, _, last, told, rfl, ?_⟩
  rw [read_lf_csvText times, exportedRows, ← same, found]

/-- A report of pump 1 is stored and shown. The dates are cleared, and while the history is being loaded it is
exported. -/
def exportedLoading : List SessionLabel :=
  [.daemon (.world (.publish .feedback (ascii "\x7b\"pump_id\":1,\"status\":1\x7d"))),
    .daemon (.world (.deliver .feedback))] ++
  List.replicate 5 (.daemon (.world (.step .mqtt 1704067200 true))) ++
  [.event (.showPage .history), .daemon (.call 0 0 {}), .daemon (.finish {}), .arrive 0,
    .event .clearDateFilter]

theorem download_tells_loading :
    ((∀ compare data, (sampleBrowser.sort compare data).Perm data) ∧
        ∀ time, '"' ∉ (sampleBrowser.toLocaleString time).toList) ∧
      (sessionAfter JsonC.reference Sqlite.stable sampleBrowser exportedLoading).page.historyBody = .loading ∧
      (sessionAfter JsonC.reference Sqlite.stable sampleBrowser exportedLoading).page.filteredData =
        [⟨1704067200, 0, 1, 0, 0, 0, 0⟩] ∧
      DownloadTells JsonC.reference Sqlite.stable sampleBrowser exportedLoading := by
  have permutes : ∀ compare data, (sampleBrowser.sort compare data).Perm data :=
    fun _ data => List.mergeSort_perm data _
  have unquoted : ∀ time, '"' ∉ (sampleBrowser.toLocaleString time).toList := by
    intro time
    show '"' ∉ "1/1/2024, 12:00:00 AM".toList
    decide
  refine ⟨⟨permutes, unquoted⟩, ?_, ?_,
    download_tells_query JsonC.reference Sqlite.stable sampleBrowser permutes unquoted exportedLoading⟩
  · decide +kernel
  · decide +kernel

end ServerPump
