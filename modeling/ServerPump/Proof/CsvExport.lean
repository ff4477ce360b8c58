/-
**The CSV export, read back.**

`exportToCSV` puts each text of a record between quotes, and makes the texts once more, apart from the
table. Read back, they are those of the table, cell by cell, as long as no text has a quote. The lines end
in a line feed alone: a reader that insists on the CRLF of the format takes none of it.

* `csvRow_eq`: the export and the table make the same texts.
* `toList_csvText`: the text of the export is one of lines.
* `read_crlf_csvText`: with CRLF for the line break it is never well formed.
* `export_readsBack`: with a line feed it is read back as the headers and the rows of the table.
-/

import ServerPump.Library.Csv
import ServerPump.Proof.HistoryPage
import ServerPump.Web.HistoryExport

namespace ServerPump

open Csv

/-! ### The law -/

/-- What the table shows of a record. -/
def shownTexts (browser : Browser) (item : HistoryRecord) : List String :=
  (tableRow browser item).map TableCell.text

/-- The headers, and for each record what the table shows of it. -/
def exportedRows (browser : Browser) (page : HistoryPage) : List (List String) :=
  csvHeaders :: page.filteredData.map (shownTexts browser)

/-- **The law**: what is downloaded is read back as these rows, of seven cells each. -/
def ExportReadsBack (lineBreak : LineBreak) (browser : Browser) (dateNow : ℤ) (page : HistoryPage) :
    Prop :=
  ∃ name type text, exportToCSV browser dateNow page = .download name type text ∧
    Csv.read lineBreak text.toList = some ((exportedRows browser page).map (List.map String.toList)) ∧
      ∀ row ∈ exportedRows browser page, row.length = 7

/-- No time of the records is shown with a quote. -/
def TimesUnquoted (browser : Browser) (page : HistoryPage) : Prop :=
  ∀ item ∈ page.filteredData, '"' ∉ (browser.toLocaleString (item.timestamp * 1000)).toList

section Export

variable {browser : Browser}

/-! ### The cells -/

/-- **The export and the table make the same texts of a record.** -/
theorem csvRow_eq (item : HistoryRecord) :
    (csvRow browser item).map printed = shownTexts browser item := rfl

/-- A text of an array without quotes, or `undefined`. -/
theorem notMem_printed {texts : List String} (noQuotes : ∀ text ∈ texts, '"' ∉ text.toList) (index : ℤ) :
    '"' ∉ (printed (if 0 ≤ index then texts[index.toNat]? else none)).toList := by
  cases element : (if 0 ≤ index then texts[index.toNat]? else none) with
  | none => decide
  | some text =>
    obtain ⟨-, isElement⟩ := Option.ite_none_right_eq_some.mp element
    exact noQuotes text (List.mem_of_getElem? isElement)

/-- Where the time has no quote, no text of the record has one. -/
theorem notMem_shownTexts {item : HistoryRecord}
    (time : '"' ∉ (browser.toLocaleString (item.timestamp * 1000)).toList) :
    ∀ text ∈ shownTexts browser item, '"' ∉ text.toList := by
  have status : ∀ status, '"' ∉ (printed (statusText status)).toList :=
    notMem_printed (by decide)
  have busy : ∀ busy, '"' ∉ (printed (busyText busy)).toList := notMem_printed (by decide)
  have switched : ∀ (value : ℤ) (first second : String), '"' ∉ first.toList → '"' ∉ second.toList →
      '"' ∉ (if value ≠ 0 then first else second).toList := by
    intro value first second noFirst noSecond
    split
    · exact noFirst
    · exact noSecond
  simp only [shownTexts, tableRow, List.map_cons, List.map_nil, List.forall_mem_cons]
  refine ⟨time, switched _ _ _ (by decide) (by decide), status _, switched _ _ _ (by decide) (by decide),
    status _, busy _, switched _ _ _ (by decide) (by decide), nofun⟩

/-! ### The lines -/

theorem toList_csvCell (cell : Option String) :
    (csvCell cell).toList = '"' :: (printed cell).toList ++ ['"'] := by
  rw [csvCell, String.toList_append, String.toList_append]
  rfl

/-- The text of a row. -/
def rowCells (row : List (Option String)) : List (List Char) :=
  row.map fun cell => (csvCell cell).toList

theorem toList_joined (cells : List String) :
    (String.intercalate "," cells ++ "\n").toList = line .lf (cells.map String.toList) := by
  rw [String.toList_append, String.toList_intercalate]
  rfl

theorem toList_csvLine (row : List (Option String)) :
    (csvLine row).toList = line .lf (rowCells row) := by
  rw [csvLine, toList_joined, List.map_map]
  rfl

/-- **The text of the export is one of lines.** -/
theorem toList_csvText (data : List HistoryRecord) :
    (csvText browser data).toList =
      (csvHeaders.map String.toList :: data.map fun item => rowCells (csvRow browser item)).flatMap
        (line .lf) := by
  have appended : ∀ (rows : List (List (Option String))) (start : String),
      (rows.foldl (fun csv row => csv ++ csvLine row) start).toList =
        start.toList ++ (rows.map rowCells).flatMap (line .lf) := by
    intro rows
    induction rows with
    | nil => exact fun start => (List.append_nil _).symm
    | cons row rest ih =>
      intro start
      rw [List.foldl_cons, ih, String.toList_append, toList_csvLine, List.append_assoc, List.map_cons,
        List.flatMap_cons]
  rw [csvText, appended, toList_joined, List.flatMap_cons, List.map_map]
  rfl

theorem writtenLine_headers :
    WrittenLine (csvHeaders.map String.toList) (csvHeaders.map String.toList) := by
  have plain : ∀ header ∈ csvHeaders.map String.toList, header.all (IsPlain ·) := by decide
  refine ⟨List.cons_ne_nil _ _, List.forall₂_same.mpr fun header member => .plain ?_⟩
  exact fun char inside => of_decide_eq_true (List.all_eq_true.mp (plain header member) char inside)

/-- A cell without a quote is written as the text between the quotes. -/
theorem written_csvCell {cell : Option String} (noQuote : '"' ∉ (printed cell).toList) :
    Written (csvCell cell).toList (printed cell).toList := by
  rw [toList_csvCell, ← quoted_of_notMem noQuote]
  exact .quoted _

/-- **A row is written from the texts of the table.** -/
theorem writtenLine_csvRow {item : HistoryRecord}
    (time : '"' ∉ (browser.toLocaleString (item.timestamp * 1000)).toList) :
    WrittenLine (rowCells (csvRow browser item)) ((shownTexts browser item).map String.toList) := by
  refine ⟨List.cons_ne_nil _ _, ?_⟩
  rw [← csvRow_eq, List.map_map, rowCells, List.forall₂_map_left_iff, List.forall₂_map_right_iff,
    List.forall₂_same]
  intro cell member
  have noQuotes := notMem_shownTexts time
  rw [← csvRow_eq] at noQuotes
  exact written_csvCell (noQuotes _ (List.mem_map_of_mem member))

/-! ### Reading back -/

/-- **With CRLF for the line break the export is never well formed**: the headers are plain cells, and the
line feed behind them is none of their characters. -/
theorem read_crlf_csvText (data : List HistoryRecord) :
    Csv.read .crlf (csvText browser data).toList = none := by
  have stuck : Reader.feed .crlf {} (line .lf (csvHeaders.map String.toList)) = none := by
    decide +kernel
  rw [toList_csvText, List.flatMap_cons, Csv.read, feed_append, stuck]
  rfl

/-- With a line feed it is read back. -/
theorem read_lf_csvText {page : HistoryPage} (unquoted : TimesUnquoted browser page) :
    Csv.read .lf (csvText browser page.filteredData).toList =
      some ((exportedRows browser page).map (List.map String.toList)) := by
  rw [toList_csvText]
  refine read_lines (.cons writtenLine_headers ?_)
  rw [List.map_map, List.forall₂_map_left_iff, List.forall₂_map_right_iff, List.forall₂_same]
  exact fun item member => writtenLine_csvRow (unquoted item member)

theorem exportToCSV_of_ne_nil {page : HistoryPage} (nonempty : page.filteredData ≠ []) (dateNow : ℤ) :
    exportToCSV browser dateNow page =
      .download ("pump_history_" ++ toString dateNow ++ ".csv") "text/csv;charset=utf-8;"
        (csvText browser page.filteredData) :=
  if_neg nonempty

theorem length_of_mem_exportedRows {page : HistoryPage} {row : List String}
    (member : row ∈ exportedRows browser page) : row.length = 7 := by
  rcases List.mem_cons.mp member with rfl | member
  · rfl
  · obtain ⟨item, -, rfl⟩ := List.mem_map.mp member
    rfl

end Export

/-- **With a line feed for the line break, the export is read back as the headers and what the table
shows of each record**, if no time has a quote. -/
theorem export_readsBack (browser : Browser) (dateNow : ℤ) {page : HistoryPage}
    (nonempty : page.filteredData ≠ []) (unquoted : TimesUnquoted browser page) :
    ExportReadsBack .lf browser dateNow page :=
  ⟨_, _, _, exportToCSV_of_ne_nil nonempty dateNow, read_lf_csvText unquoted,
    fun _ member => length_of_mem_exportedRows member⟩

/-- Two records are shown. -/
def exportedPage : HistoryPage :=
  { filteredData := [⟨1704067260, 1, 1, 0, 2, 1, 0⟩, ⟨1704067200, 0, 2, 0, 0, 0, 1⟩] }

theorem timesUnquoted_sample (page : HistoryPage) : TimesUnquoted sampleBrowser page := by
  intro item _
  show '"' ∉ "1/1/2024, 12:00:00 AM".toList
  decide

theorem export_readsBack_twoRecords :
    (exportedPage.filteredData ≠ [] ∧ TimesUnquoted sampleBrowser exportedPage) ∧
      ExportReadsBack .lf sampleBrowser 1704070800000 exportedPage := by
  have nonempty : exportedPage.filteredData ≠ [] := List.cons_ne_nil _ _
  have unquoted : TimesUnquoted sampleBrowser exportedPage := timesUnquoted_sample exportedPage
  exact ⟨⟨nonempty, unquoted⟩, export_readsBack sampleBrowser 1704070800000 nonempty unquoted⟩

/-- With CRLF it is not. -/
theorem export_lacks_crlf :
    ¬ ∀ (browser : Browser) (dateNow : ℤ) (page : HistoryPage), page.filteredData ≠ [] →
      (∀ item ∈ page.filteredData, (0 ≤ item.pump1Status ∧ item.pump1Status ≤ 3) ∧
        (0 ≤ item.pump2Status ∧ item.pump2Status ≤ 3) ∧ 0 ≤ item.busy ∧ item.busy ≤ 2) →
      TimesUnquoted browser page → ExportReadsBack .crlf browser dateNow page := by
  intro always
  have nonempty : exportedPage.filteredData ≠ [] := List.cons_ne_nil _ _
  obtain ⟨name, type, text, downloaded, cells, -⟩ :=
    always sampleBrowser 1704070800000 exportedPage nonempty (by decide) (timesUnquoted_sample _)
  rw [exportToCSV_of_ne_nil nonempty] at downloaded
  cases downloaded
  rw [read_crlf_csvText] at cells
  cases cells

end ServerPump
