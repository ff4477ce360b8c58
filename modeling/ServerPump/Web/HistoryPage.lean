/-
**The history page (`script.js`).**

The globals of the page, the parts of the document its functions read or write, and the requests
that have been sent and not been answered yet. `loadHistory` is two steps: up to its first `await`
it shows the spinner and sends the request (`loadHistory`); when the answer is there, or the request
has failed, the rest of it runs (`receiveHistory`). Any number of requests may be open, and they may
be answered in any order.

`applyLocalFilters` may throw, which is `none`: `loadHistory` catches that and shows the error, the
handlers of the other events do not, so that they end where they are.

What belongs to the browser is in `Browser`: local time, texts, the order `sort` leaves equal
elements in. Left out are the highlighted quick filter, the arrow at the sorted column and the
layout of the rows.
-/

import Mathlib.Data.List.Infix
import ServerPump.Library.CText

namespace ServerPump

open CText

/-! ### Records, dates and answers -/

structure HistoryRecord where
  timestamp : ℤ
  pump1 : ℤ
  pump1Status : ℤ
  pump2 : ℤ
  pump2Status : ℤ
  busy : ℤ
  alarm : ℤ
  deriving DecidableEq

/-- A `Date`: its milliseconds, or none if it is invalid. -/
abbrev JsDate := Option ℤ

/-- The dates a request is made with. -/
structure DateRange where
  dateFrom : Option JsDate := none
  dateTo : Option JsDate := none
  deriving DecidableEq

/-- The answers of the server: an object with `count` and `data`, or one with neither. -/
inductive HistoryAnswer
  | error
  | records (count : ℕ) (data : List HistoryRecord)
  deriving DecidableEq

/-- What a request comes to; it fails without a connection, or if the body is not JSON. -/
inductive Response
  | failed
  | json (answer : HistoryAnswer)
  deriving DecidableEq

/-- `Math.floor(date.getTime() / 1000)` in a template string. -/
def timestampText : JsDate → List UInt8
  | some time => printInt (time / 1000)
  | none => ascii "NaN"

/-- The query of `apiUrl`. -/
def historyArguments (dates : DateRange) : List (String × Option (List UInt8)) :=
  ("limit", some (ascii "5000")) ::
    ((dates.dateFrom.map fun date => ("from", some (timestampText date))).toList ++
      (dates.dateTo.map fun date => ("to", some (timestampText date))).toList)

/-! ### The state of the page -/

inductive SortColumn
  | timestamp
  | pump1
  | pump1Status
  | pump2
  | pump2Status
  | busy
  | alarm
  deriving DecidableEq

inductive SortDirection
  | asc
  | desc
  deriving DecidableEq

/-- The sizes the page offers. -/
inductive RowsPerPage
  | ten
  | twenty
  | fifty
  | hundred
  deriving DecidableEq

def RowsPerPage.toNat : RowsPerPage → ℕ
  | .ten => 10
  | .twenty => 20
  | .fifty => 50
  | .hundred => 100

/-- `activeFilters`. A status filter is `none` for `'all'`. -/
structure ActiveFilters extends DateRange where
  pump1Status : Option ℤ := none
  pump2Status : Option ℤ := none
  searchTerm : String := ""
  deriving DecidableEq

/-- What the controls show. -/
structure HistoryInputs where
  filterP1 : Option ℤ := none
  filterP2 : Option ℤ := none
  searchInput : String := ""
  datetimeFrom : String := ""
  datetimeTo : String := ""
  deriving DecidableEq

/-- The content of `historyBody`; a table without rows says that there are no records. -/
inductive HistoryBody
  | initial
  | loading
  | error
  | table (rows : List HistoryRecord)
  deriving DecidableEq

/-- What `dateRange` shows: the chosen dates, the range of the records shown, or `'--'`. -/
inductive DateRangeLabel
  | chosen (dates : DateRange)
  | ofData (first last : ℤ)
  | nothing
  deriving DecidableEq

structure HistoryStats where
  totalRecords : ℕ
  filteredRecords : ℕ
  dateRange : DateRangeLabel
  deriving DecidableEq

/-- `historyCache`, with the dates of the request it answers. -/
structure CachedAnswer where
  request : DateRange
  answer : HistoryAnswer
  deriving DecidableEq

structure HistoryPage where
  historyCache : Option CachedAnswer := none
  filteredData : List HistoryRecord := []
  currentPage : ℕ := 1
  rowsPerPage : RowsPerPage := .twenty
  sortColumn : SortColumn := .timestamp
  sortDirection : SortDirection := .desc
  activeFilters : ActiveFilters := {}
  inputs : HistoryInputs := {}
  /-- the text the timer of `handleSearchInput` will search for -/
  pendingSearch : Option String := none
  historyBody : HistoryBody := .initial
  /-- the current page and the number of pages -/
  pagination : Option (ℕ × ℕ) := none
  stats : Option HistoryStats := none
  inFlight : List DateRange := []
  deriving DecidableEq

/-- What the browser computes. -/
structure Browser where
  /-- `new Date(year, month, day - daysBack, hours, minutes, seconds)` on the day of a time -/
  localDate : (now : ℤ) → (daysBack hours minutes seconds : ℕ) → ℤ
  /-- `new Date(text)` -/
  parseDate : String → JsDate
  getTimezoneOffset : ℤ → ℤ
  toISOString : ℤ → String
  /-- what an input of type `datetime-local` keeps of a text -/
  datetimeLocal : String → String
  toLocaleString : ℤ → String
  toLowerCase : String → String
  sort : (HistoryRecord → HistoryRecord → ℤ) → List HistoryRecord → List HistoryRecord

/-! ### Filters and order -/

section Local

variable (browser : Browser)

/-- `STATUS_TEXT[status]` -/
def statusText (status : ℤ) : Option String :=
  if 0 ≤ status then ["Unknown", "Running", "Stopped", "Error"][status.toNat]? else none

/-- Whether a record matches the search; reading an unknown status throws. -/
def matchesSearch (term : String) (item : HistoryRecord) : Option Bool := do
  let timestamp := browser.toLowerCase (browser.toLocaleString (item.timestamp * 1000))
  let p1Status ← statusText item.pump1Status
  let p2Status ← statusText item.pump2Status
  let texts := [timestamp, browser.toLowerCase p1Status, browser.toLowerCase p2Status]
  return texts.any fun text => (browser.toLowerCase term).toList <:+: text.toList

def searchFilter (term : String) (data : List HistoryRecord) : Option (List HistoryRecord) :=
  if term = "" then some data else data.filterM (matchesSearch browser term)

def statusFilter (chosen : Option ℤ) (statusOf : HistoryRecord → ℤ) (data : List HistoryRecord) :
    List HistoryRecord :=
  match chosen with
  | some status => data.filter fun item => statusOf item = status
  | none => data

/-- `item[column] || 0` -/
def SortColumn.valueOf : SortColumn → HistoryRecord → ℤ
  | .timestamp => HistoryRecord.timestamp
  | .pump1 => HistoryRecord.pump1
  | .pump1Status => HistoryRecord.pump1Status
  | .pump2 => HistoryRecord.pump2
  | .pump2Status => HistoryRecord.pump2Status
  | .busy => HistoryRecord.busy
  | .alarm => HistoryRecord.alarm

/-- The comparison passed to `sort`. -/
def compareBy (column : SortColumn) (direction : SortDirection) (a b : HistoryRecord) : ℤ :=
  match direction with
  | .asc => if column.valueOf a > column.valueOf b then 1 else -1
  | .desc => if column.valueOf a < column.valueOf b then 1 else -1

/-- The records `applyLocalFilters` keeps of the cached ones, in order. -/
def localData (page : HistoryPage) (data : List HistoryRecord) : Option (List HistoryRecord) :=
  (searchFilter browser page.activeFilters.searchTerm data).map fun data =>
    browser.sort (compareBy page.sortColumn page.sortDirection) <|
      statusFilter page.activeFilters.pump2Status HistoryRecord.pump2Status <|
        statusFilter page.activeFilters.pump1Status HistoryRecord.pump1Status data

/-! ### Drawing -/

/-- `Math.ceil(filteredData.length / rowsPerPage)` -/
def HistoryPage.totalPages (page : HistoryPage) : ℕ :=
  (page.filteredData.length + page.rowsPerPage.toNat - 1) / page.rowsPerPage.toNat

/-- The slice of the current page. -/
def HistoryPage.pageData (page : HistoryPage) : List HistoryRecord :=
  (page.filteredData.drop ((page.currentPage - 1) * page.rowsPerPage.toNat)).take page.rowsPerPage.toNat

def renderHistoryTable (page : HistoryPage) : HistoryPage :=
  { page with historyBody := .table page.pageData }

def renderPagination (page : HistoryPage) : HistoryPage :=
  { page with
    pagination := if page.totalPages = 0 then none else some (page.currentPage, page.totalPages) }

def dateRangeLabel (page : HistoryPage) : DateRangeLabel :=
  if page.activeFilters.dateFrom.isSome ∨ page.activeFilters.dateTo.isSome then
    .chosen page.activeFilters.toDateRange
  else
    match (page.filteredData.map HistoryRecord.timestamp).min?,
      (page.filteredData.map HistoryRecord.timestamp).max? with
    | some first, some last => .ofData first last
    | _, _ => .nothing

def updateHistoryStats (count : ℕ) (data : List HistoryRecord) (page : HistoryPage) : HistoryPage :=
  { page with
    stats := some
      { totalRecords := if count ≠ 0 then count else data.length
        filteredRecords := page.filteredData.length
        dateRange := dateRangeLabel page } }

/-- A page number behind the last page goes back to the first one. -/
def HistoryPage.clampPage (page : HistoryPage) : HistoryPage :=
  if page.currentPage > page.totalPages ∧ page.totalPages > 0 then { page with currentPage := 1 }
  else page

/-- The second half of `applyLocalFilters`: the records found are shown. -/
def drawHistory (count : ℕ) (data found : List HistoryRecord) (page : HistoryPage) : HistoryPage :=
  updateHistoryStats count data <| renderPagination <| renderHistoryTable <|
    HistoryPage.clampPage { page with filteredData := found }

def applyLocalFilters (page : HistoryPage) : Option HistoryPage :=
  match page.historyCache with
  | none => some page
  | some ⟨_, .error⟩ => none
  | some ⟨_, .records count data⟩ =>
    (localData browser page data).map fun found => drawHistory count data found page

/-- An event handler that ends with `applyLocalFilters`. -/
def redraw (page : HistoryPage) : HistoryPage := (applyLocalFilters browser page).getD page

end Local

/-! ### Loading -/

def showHistoryLoading (page : HistoryPage) : HistoryPage :=
  { page with historyBody := .loading, pagination := none }

def showHistoryError (page : HistoryPage) : HistoryPage :=
  { page with historyBody := .error, pagination := none }

/-- `loadHistory` up to its first `await`. -/
def loadHistory (page : HistoryPage) : HistoryPage :=
  let page := showHistoryLoading page
  { page with inFlight := page.inFlight ++ [page.activeFilters.toDateRange] }

/-- The assignments to the globals when an answer with records is there. -/
def storeHistory (request : DateRange) (count : ℕ) (data : List HistoryRecord) (page : HistoryPage) :
    HistoryPage :=
  { page with
    historyCache := some ⟨request, .records count data⟩, filteredData := data, currentPage := 1 }

/-- The rest of `loadHistory`. The log reads the first record and the one at `count - 1`; an object
without `data` is stored before it is taken apart. -/
def receiveHistory (browser : Browser) (request : DateRange) (response : Response)
    (page : HistoryPage) : HistoryPage :=
  match response with
  | .failed => showHistoryError page
  | .json .error => showHistoryError { page with historyCache := some ⟨request, .error⟩ }
  | .json (.records count data) =>
    if data.length < count then showHistoryError page
    else
      let page := storeHistory request count data page
      (applyLocalFilters browser page).getD (showHistoryError page)

/-! ### The events -/

inductive QuickRange
  | all
  | today
  | yesterday
  | week
  | month
  deriving DecidableEq

inductive PumpSelect
  | pump1
  | pump2
  deriving DecidableEq

inductive NavPage
  | dashboard
  | history
  | settings
  deriving DecidableEq

section Events

variable (browser : Browser)

/-- The dates of a quick filter: from the start of one day to the end of another. -/
def quickDates (now : ℤ) : QuickRange → DateRange
  | .all => {}
  | .today => ⟨some (browser.localDate now 0 0 0 0), some (browser.localDate now 0 23 59 59)⟩
  | .yesterday => ⟨some (browser.localDate now 1 0 0 0), some (browser.localDate now 1 23 59 59)⟩
  | .week => ⟨some (browser.localDate now 7 0 0 0), some (browser.localDate now 0 23 59 59)⟩
  | .month => ⟨some (browser.localDate now 30 0 0 0), some (browser.localDate now 0 23 59 59)⟩

def toISOLocal (time : ℤ) : String :=
  browser.toISOString (time - browser.getTimezoneOffset time * 60000)

/-- What an input shows after `toISOLocal` of a date was assigned to it; there is none to assign
for an invalid date. -/
def shownDate : Option JsDate → String
  | some (some time) => browser.datetimeLocal (toISOLocal browser time)
  | _ => ""

def applyQuickFilter (range : QuickRange) (now : ℤ) (page : HistoryPage) : HistoryPage :=
  let dates := quickDates browser now range
  loadHistory
    { page with
      activeFilters := { page.activeFilters with toDateRange := dates }
      inputs := { page.inputs with
        datetimeFrom := shownDate browser dates.dateFrom
        datetimeTo := shownDate browser dates.dateTo } }

/-- `input ? new Date(input) : null` -/
def inputDate (input : String) : Option JsDate :=
  if input = "" then none else some (browser.parseDate input)

/-- One of the date inputs was changed; now they show these texts. -/
def filterByDateRange (fromInput toInput : String) (page : HistoryPage) : HistoryPage :=
  loadHistory
    { page with
      activeFilters := { page.activeFilters with
        dateFrom := inputDate browser fromInput
        dateTo := inputDate browser toInput }
      inputs := { page.inputs with datetimeFrom := fromInput, datetimeTo := toInput } }

def clearDateFilter (page : HistoryPage) : HistoryPage :=
  loadHistory
    { page with
      activeFilters := { page.activeFilters with dateFrom := none, dateTo := none }
      inputs := { page.inputs with datetimeFrom := "", datetimeTo := "" } }

def refreshHistory (page : HistoryPage) : HistoryPage :=
  loadHistory
    { page with
      historyCache := none, filteredData := [], currentPage := 1, activeFilters := {}, inputs := {} }

def showPage (target : NavPage) (page : HistoryPage) : HistoryPage :=
  if target = .history then loadHistory page else page

/-- The select of a pump was set. -/
def chooseStatus (pump : PumpSelect) (status : Option ℤ) (page : HistoryPage) : HistoryPage :=
  match pump with
  | .pump1 =>
    { page with
      activeFilters := { page.activeFilters with pump1Status := status }
      inputs := { page.inputs with filterP1 := status }
      currentPage := 1 }
  | .pump2 =>
    { page with
      activeFilters := { page.activeFilters with pump2Status := status }
      inputs := { page.inputs with filterP2 := status }
      currentPage := 1 }

def filterByStatus (pump : PumpSelect) (status : Option ℤ) (page : HistoryPage) : HistoryPage :=
  redraw browser (chooseStatus pump status page)

/-- Typing starts the timer of `debounce` again. -/
def handleSearchInput (value : String) (page : HistoryPage) : HistoryPage :=
  { page with inputs := { page.inputs with searchInput := value }, pendingSearch := some value }

/-- The assignments of the timer. -/
def takeSearch (value : String) (page : HistoryPage) : HistoryPage :=
  { page with
    activeFilters := { page.activeFilters with searchTerm := value }
    pendingSearch := none
    currentPage := 1 }

def searchTimer (page : HistoryPage) : HistoryPage :=
  match page.pendingSearch with
  | some value => redraw browser (takeSearch value page)
  | none => page

/-- The same column again turns the order around. -/
def chooseSort (column : SortColumn) (page : HistoryPage) : HistoryPage :=
  if page.sortColumn = column then
    { page with sortDirection := if page.sortDirection = .asc then .desc else .asc }
  else { page with sortColumn := column, sortDirection := .desc }

def sortTable (column : SortColumn) (page : HistoryPage) : HistoryPage :=
  redraw browser (chooseSort column page)

def goToPage (target : ℤ) (page : HistoryPage) : HistoryPage :=
  if target < 1 ∨ target > page.totalPages then page
  else renderPagination (renderHistoryTable { page with currentPage := target.toNat })

def changeRowsPerPage (value : RowsPerPage) (page : HistoryPage) : HistoryPage :=
  renderPagination (renderHistoryTable { page with rowsPerPage := value, currentPage := 1 })

inductive HistoryEvent
  | applyQuickFilter (range : QuickRange) (now : ℤ)
  | filterByDateRange (fromInput toInput : String)
  | clearDateFilter
  | refreshHistory
  | showPage (target : NavPage)
  | filterByStatus (pump : PumpSelect) (status : Option ℤ)
  | handleSearchInput (value : String)
  | searchTimer
  | sortTable (column : SortColumn)
  | goToPage (target : ℤ)
  | changeRowsPerPage (value : RowsPerPage)
  | respond (index : ℕ) (response : Response)
  deriving DecidableEq

/-- One event. The controls for the pages are there only while the pagination is shown; an index
that no open request has is no event. -/
def historyStep (page : HistoryPage) : HistoryEvent → HistoryPage
  | .applyQuickFilter range now => applyQuickFilter browser range now page
  | .filterByDateRange fromInput toInput => filterByDateRange browser fromInput toInput page
  | .clearDateFilter => clearDateFilter page
  | .refreshHistory => refreshHistory page
  | .showPage target => showPage target page
  | .filterByStatus pump status => filterByStatus browser pump status page
  | .handleSearchInput value => handleSearchInput value page
  | .searchTimer => searchTimer browser page
  | .sortTable column => sortTable browser column page
  | .goToPage target => if page.pagination.isSome then goToPage target page else page
  | .changeRowsPerPage value => if page.pagination.isSome then changeRowsPerPage value page else page
  | .respond index response =>
    match page.inFlight[index]? with
    | some request =>
      receiveHistory browser request response
        { page with inFlight := page.inFlight.eraseIdx index }
    | none => page

end Events

end ServerPump
