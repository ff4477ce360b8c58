/-
**The table lists the rows the user asks for.**

The user chooses dates, statuses and a text. The dates go through the query into the `WHERE` clause, and
what comes back goes through the two buffers of the server; the rest is filtered in the page, sorted and cut
into pages. As long as the cached answer is one for the dates that are chosen, the pages list rows in these
dates that pass the filters, once each, and nothing else. Older rows may be missing, but only where there are
more than 2437 rows in the dates.

* `matchingRows_eq`: positive dates select what they say.
* `kept_of_few`: so many rows always fit.
* `newest_of_kept`: what a query writes are the newest rows in the dates.
* `table_lists_chosen`: in every run of the page with the server.
-/

import ServerPump.Proof.DateBounds
import ServerPump.Proof.Download
import ServerPump.Proof.PastStates

namespace ServerPump

open CText

/-! ### The law -/

instance (dates : DateRange) : DecidablePred (RespectsDates dates) :=
  fun _ => inferInstanceAs (Decidable (_ ∧ _))

/-- What a user sees who calls up the first page, and then the next one until there is none. -/
def HistoryPage.listing (page : HistoryPage) : List HistoryRecord :=
  match page.buttons with
  | some buttons => (page.press buttons.firstPage).leaf page.totalPages
  | none => page.historyBody.rows

/-- The rows of a table in the dates. -/
def rowsWithin (dates : DateRange) (table : List SnapshotRow) : List SnapshotRow :=
  table.filter fun row => RespectsDates dates row.record

/-- Each date that is set is valid, and behind the first second of 1970. -/
structure PositiveDates (dates : DateRange) : Prop where
  validFrom : ValidDate dates.dateFrom
  validTo : ValidDate dates.dateTo
  fromPositive : ∀ first ∈ secondsOf dates.dateFrom, 0 < first
  toPositive : ∀ last ∈ secondsOf dates.dateTo, 0 < last

/-- The newest of these rows, and all of them if there are few. -/
structure Newest (rows kept dropped : List SnapshotRow) : Prop where
  split : (kept ++ dropped).Perm rows
  newest : ∀ row ∈ kept, ∀ older ∈ dropped, older.timestamp ≤ row.timestamp
  few : rows.length ≤ 2437 → dropped = []

/-- **The law**: the pages list the newest rows in the chosen dates, as of a moment at which the request was
open, as far as they pass the filters. -/
def ListsChosen (jsonC : JsonC) (sqlite : Sqlite) (browser : Browser) (labels : List SessionLabel) : Prop :=
  let page := (sessionAfter jsonC sqlite browser labels).page
  let dates := page.activeFilters.toDateRange
  ∃ before id kept dropped, before <+: labels ∧
    (dates, id) ∈ (sessionAfter jsonC sqlite browser before).openRequests ∧
    Newest (rowsWithin dates (sessionAfter jsonC sqlite browser before).daemon.snapshots) kept dropped ∧
    page.listing.Perm ((kept.map SnapshotRow.shown).filter fun record =>
      Passes browser page.activeFilters record)

/-! ### The query -/

section Query

variable {dates : DateRange}

/-- **Positive dates select what they say.** -/
theorem matchingRows_eq (positive : PositiveDates dates) (table : List SnapshotRow) :
    matchingRows (queryParams (historyArguments dates)) table = rowsWithin dates table := by
  refine List.filter_congr fun row _ => decide_eq_decide.mpr ?_
  refine (inBounds_iff positive.validFrom positive.validTo row).trans ?_
  constructor
  · rintro ⟨notBefore, notBehind⟩
    exact ⟨fun first isFirst => notBefore first isFirst (positive.fromPositive first isFirst),
      fun last isLast => notBehind last isLast (positive.toPositive last isLast)⟩
  · rintro ⟨notBefore, notBehind⟩
    exact ⟨fun first isFirst _ => notBefore first isFirst, fun last isLast _ => notBehind last isLast⟩

theorem historyLimit_historyArguments (dates : DateRange) :
    historyLimit (queryParams (historyArguments dates)) = 5000 := by
  have limit : atoi (ascii "5000") = 5000 := by decide +kernel
  rw [queryParams_historyArguments]
  simp only [historyLimit, limit]
  decide

/-- Each row takes at most 168 bytes. -/
theorem length_rowTexts_le (rows : List SnapshotRow) : (rowTexts rows).length ≤ 168 * rows.length := by
  induction rows using List.reverseRecOn with
  | nil => exact Nat.zero_le _
  | append_singleton rows row ih =>
    have entry := length_entryText_le rows.length row
    rw [length_rowTexts_concat, List.length_append, List.length_singleton]
    omega

/-- **So many rows always fit.** -/
theorem kept_of_few {rows kept : List SnapshotRow} (loop : Kept rows kept) (few : rows.length ≤ 2437) :
    kept = rows := by
  rw [loop.complete_iff]
  have texts := length_rowTexts_le rows.dropLast
  rw [List.length_dropLast] at texts
  unfold Spacious tempSize
  omega

/-- **What a query writes are the newest rows in the dates.** -/
theorem newest_of_kept (positive : PositiveDates dates) {sqlite : Sqlite} {table kept : List SnapshotRow}
    (loop : Kept (selectedRows sqlite (queryParams (historyArguments dates)) table) kept) :
    ∃ dropped, Newest (rowsWithin dates table) kept dropped := by
  have taken := selectedRows_take sqlite (queryParams (historyArguments dates)) table
  rw [historyLimit_historyArguments, matchingRows_eq positive] at taken
  have perm := sqlite.perm (rowsWithin dates table)
  have sorted := sqlite.sorted (rowsWithin dates table)
  obtain ⟨dropped, split⟩ : kept <+: sqlite.descending (rowsWithin dates table) := by
    refine loop.isPrefix.trans ?_
    rw [taken]
    exact List.take_prefix _ _
  refine ⟨dropped, split ▸ perm, ?_, fun few => ?_⟩
  · rw [← split] at sorted
    exact fun row isKept older isDropped => (List.pairwise_append.mp sorted).2.2 row isKept older isDropped
  · have limit : (5000 : Int32).toInt.toNat = 5000 := by decide
    have all : selectedRows sqlite (queryParams (historyArguments dates)) table =
        sqlite.descending (rowsWithin dates table) := by
      rw [taken, limit]
      exact List.take_of_length_le (by rw [perm.length_eq]; omega)
    have complete := kept_of_few loop (by rw [all, perm.length_eq]; exact few)
    rw [all, ← split] at complete
    exact List.append_right_eq_self.mp complete.symm

end Query

/-! ### The pages -/

/-- **What is listed is what was found.** -/
theorem listing_eq {page : HistoryPage} (shown : PageShown page) : page.listing = page.filteredData := by
  have leads := leadsThrough_of_pageShown shown
  unfold HistoryPage.listing
  cases drawn : page.buttons with
  | some buttons => exact leads.leaf buttons drawn page.totalPages (le_refl _)
  | none =>
    have empty : page.filteredData = [] := by
      by_contra nonempty
      exact absurd (leads.shown.mpr nonempty) (by simp [drawn])
    have rows : page.historyBody.rows ⊆ page.filteredData := by
      rw [shown.rows]
      exact pageData_subset page
    rw [empty] at rows ⊢
    exact List.subset_nil.mp rows

/-- **In every run of the history page with the server, the table lists the rows the user asks for**, while
the cached answer is one for the dates that are chosen. -/
theorem table_lists_chosen (jsonC : JsonC) (sqlite : Sqlite) (browser : Browser)
    (permutes : ∀ compare data, (browser.sort compare data).Perm data) (labels : List SessionLabel)
    (shown : TableShown (sessionAfter jsonC sqlite browser labels).page)
    (current : AnswersCurrent (sessionAfter jsonC sqlite browser labels).page)
    (positive : PositiveDates (sessionAfter jsonC sqlite browser labels).page.activeFilters.toDateRange) :
    ListsChosen jsonC sqlite browser labels := by
  obtain ⟨backed, coherent⟩ := backed_coherent jsonC sqlite permutes labels
  obtain ⟨kept, ⟨⟨dates, queried, cache⟩, -⟩, found⟩ := told_of_table backed coherent shown
  obtain ⟨cached, isCached, same⟩ := current
  obtain rfl : cached = ⟨dates, .records kept.length (kept.map SnapshotRow.shown)⟩ :=
    Option.some.inj (isCached.symm.trans cache)
  obtain ⟨request, count, data, -, displays⟩ := coherent.displays shown
  obtain ⟨before, id, isPrefix, opened, loop⟩ := queried
  obtain rfl : dates = _ := same
  obtain ⟨dropped, newest⟩ := newest_of_kept positive loop
  refine ⟨before, id, kept, dropped, isPrefix, opened, newest, ?_⟩
  rw [listing_eq displays.toPageShown, found]
  exact permutes _ _

/-- Pump 1 reports before the year 2024, and pump 2 in it. The user asks for everything from 2024 on. -/
def chosenHistory : List SessionLabel :=
  let report (payload : List UInt8) (now : Int64) : List SessionLabel :=
    [.daemon (.world (.publish .feedback payload)), .daemon (.world (.deliver .feedback))] ++
    List.replicate 5 (.daemon (.world (.step .mqtt now true)))
  report (ascii "\x7b\"pump_id\":1,\"status\":1\x7d") 1704067100 ++
  report (ascii "\x7b\"pump_id\":2,\"status\":1\x7d") 1704067300 ++
  [.event (.filterByDateRange "2024-01-01T00:00" ""), .daemon (.call 0 0 {}), .daemon (.finish {}),
    .arrive 0]

theorem table_lists_chosen_reported :
    (sessionAfter JsonC.reference Sqlite.stable sampleBrowser chosenHistory).page.listing =
        [⟨1704067300, 0, 1, 0, 1, 0, 0⟩] ∧
      ListsChosen JsonC.reference Sqlite.stable sampleBrowser chosenHistory := by
  have permutes : ∀ compare data, (sampleBrowser.sort compare data).Perm data :=
    fun _ data => List.mergeSort_perm data _
  have table : (sessionAfter JsonC.reference Sqlite.stable sampleBrowser chosenHistory).page.historyBody =
      .table [⟨1704067300, 0, 1, 0, 1, 0, 0⟩] := by
    decide +kernel
  have dates : (sessionAfter JsonC.reference Sqlite.stable sampleBrowser
      chosenHistory).page.activeFilters.toDateRange = ⟨some (some 1704067200000), none⟩ := by
    decide +kernel
  have cached : (sessionAfter JsonC.reference Sqlite.stable sampleBrowser chosenHistory).page.historyCache =
      some ⟨⟨some (some 1704067200000), none⟩, .records 1 [⟨1704067300, 0, 1, 0, 1, 0, 0⟩]⟩ := by
    decide +kernel
  refine ⟨by decide +kernel,
    table_lists_chosen JsonC.reference Sqlite.stable sampleBrowser permutes chosenHistory ⟨_, table⟩
      ⟨_, cached, dates.symm⟩ ?_⟩
  rw [dates]
  refine ⟨?_, ?_, ?_, ?_⟩
  · rintro _ ⟨⟩
    exact ⟨1704067200000, rfl, by decide⟩
  · rintro _ ⟨⟩
  · rintro _ ⟨⟩
    decide
  · rintro _ ⟨⟩

end ServerPump
