/-
**The rows of the history table, and their export (`script.js`).**

`renderHistoryTable` and `exportToCSV` each make seven texts of a record. The table shows each with an
icon, in a style that depends on the value; the export puts each between quotes.

A text that an array does not have is `undefined`, and a template string prints it so.
-/

import ServerPump.Web.HistoryAnswer

namespace ServerPump

/-! ### The table -/

/-- The element at an index of an array of texts, in a template string. -/
def printed (text : Option String) : String := text.getD "undefined"

/-- `STATUS_ICONS[status]` -/
def statusIcon (status : ℤ) : Option String :=
  if 0 ≤ status then ["help", "play_circle", "stop_circle", "error"][status.toNat]? else none

/-- `BUSY_ICONS[busy]` -/
def busyIcon (busy : ℤ) : Option String :=
  if 0 ≤ busy then ["check_circle", "sync", "sync"][busy.toNat]? else none

def getBadgeClass (status : ℤ) : String :=
  (if 0 ≤ status then
    ["badge-warning", "badge-success", "badge-secondary", "badge-danger"][status.toNat]?
    else none).getD "badge-secondary"

/-- A cell of the table: the class of its box, the name of its icon, and its text. -/
structure TableCell where
  style : String
  icon : String
  text : String
  deriving DecidableEq

section Cells

variable (browser : Browser)

def commandCell (command : ℤ) : TableCell :=
  ⟨if command ≠ 0 then "badge-success" else "badge-secondary",
    if command ≠ 0 then "toggle_on" else "toggle_off", if command ≠ 0 then "ON" else "OFF"⟩

def statusCell (status : ℤ) : TableCell :=
  ⟨getBadgeClass status, printed (statusIcon status), printed (statusText status)⟩

/-- The cells of a row of the table. -/
def tableRow (item : HistoryRecord) : List TableCell :=
  [⟨"status-cell", "event", browser.toLocaleString (item.timestamp * 1000)⟩,
    commandCell item.pump1, statusCell item.pump1Status,
    commandCell item.pump2, statusCell item.pump2Status,
    ⟨if item.busy > 0 then "badge-warning" else "badge-success", printed (busyIcon item.busy),
      printed (busyText item.busy)⟩,
    ⟨if item.alarm ≠ 0 then "badge-danger" else "badge-success",
      if item.alarm ≠ 0 then "warning" else "check_circle",
      if item.alarm ≠ 0 then "ACTIVE" else "OK"⟩]

/-! ### The export -/

def csvHeaders : List String :=
  ["Timestamp", "P1 Command", "P1 Status", "P2 Command", "P2 Status", "Inverter", "Alarm"]

/-- The cells of a row of the export. -/
def csvRow (item : HistoryRecord) : List (Option String) :=
  [some (browser.toLocaleString (item.timestamp * 1000)),
    some (if item.pump1 ≠ 0 then "ON" else "OFF"),
    statusText item.pump1Status,
    some (if item.pump2 ≠ 0 then "ON" else "OFF"),
    statusText item.pump2Status,
    busyText item.busy,
    some (if item.alarm ≠ 0 then "ACTIVE" else "OK")]

/-- A cell between quotes; a quote in it is not doubled. -/
def csvCell (cell : Option String) : String := "\"" ++ printed cell ++ "\""

/-- A line of the export; its line break is a line feed. -/
def csvLine (row : List (Option String)) : String :=
  String.intercalate "," (row.map csvCell) ++ "\n"

def csvText (data : List HistoryRecord) : String :=
  (data.map (csvRow browser)).foldl (fun csv row => csv ++ csvLine row)
    (String.intercalate "," csvHeaders ++ "\n")

/-- What a click on the button leads to. -/
inductive ExportOutcome
  | alert (message : String)
  | download (name type text : String)
  deriving DecidableEq

/-- `dateNow` is `Date.now()`. -/
def exportToCSV (dateNow : ℤ) (page : HistoryPage) : ExportOutcome :=
  if page.filteredData = [] then .alert "No data to export"
  else .download ("pump_history_" ++ toString dateNow ++ ".csv") "text/csv;charset=utf-8;"
    (csvText browser page.filteredData)

end Cells

end ServerPump
