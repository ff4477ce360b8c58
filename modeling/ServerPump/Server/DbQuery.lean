/-
**The history queries (`db_get_history_filtered` and `db_get_history` in `db.c`).**

The first function chooses one of four SQL texts, binds its parameters by position, and serialises the
rows into a local buffer until the rows or the room run out.

* `Select` is a query of the one form the function uses; `historySelect` and `historyBindings` are
  the two four-way choices, made separately as in the source. Every text fits the buffer of 512
  bytes it is printed into.
* `Sqlite` is what the function relies on in SQLite: an order of the rows with the timestamps
  descending, the order of equal timestamps left open. `Sqlite.rows` evaluates a query.
* `Cursor` is the state of the serialisation loop: the C string in the buffer, the write position,
  the bytes that remain, and the number of rows written.

`db_get_history` is the older form of the query: it takes no dates, has texts of its own for its errors, and a
local buffer of a quarter of the size.
-/

import ServerPump.Server.Db

namespace ServerPump

open CText

/-! ### The query -/

/-- `timestamp >= ?` and `timestamp <= ?`. -/
inductive Comparison
  | ge
  | le
  deriving DecidableEq

def Comparison.text : Comparison → String
  | .ge => "timestamp >= ?"
  | .le => "timestamp <= ?"

/-- `SELECT * FROM pump_snapshots [WHERE ...] ORDER BY timestamp DESC LIMIT ?` -/
structure Select where
  conditions : List Comparison
  deriving DecidableEq

def Select.text (select : Select) : String :=
  "SELECT * FROM pump_snapshots" ++
    (if select.conditions = [] then "" else
      " WHERE " ++ String.intercalate " AND " (select.conditions.map Comparison.text)) ++
    " ORDER BY timestamp DESC LIMIT ?"

def historySelect (dateFrom dateTo : Int64) : Select :=
  if dateFrom > 0 ∧ dateTo > 0 then ⟨[.ge, .le]⟩
  else if dateFrom > 0 then ⟨[.ge]⟩
  else if dateTo > 0 then ⟨[.le]⟩
  else ⟨[]⟩

example : (historySelect 5 9).text =
    "SELECT * FROM pump_snapshots WHERE timestamp >= ? AND timestamp <= ? ORDER BY timestamp DESC LIMIT ?" := by
  decide +kernel

/-- The calls of `sqlite3_bind_*`: position and value. -/
def historyBindings (limit : Int32) (dateFrom dateTo : Int64) : List (ℕ × Int64) :=
  if dateFrom > 0 ∧ dateTo > 0 then [(1, dateFrom), (2, dateTo), (3, limit.toInt64)]
  else if dateFrom > 0 then [(1, dateFrom), (2, limit.toInt64)]
  else if dateTo > 0 then [(1, dateTo), (2, limit.toInt64)]
  else [(1, limit.toInt64)]

/-- The value of a parameter; a parameter that was not bound is `NULL`. -/
def boundValue (bindings : List (ℕ × Int64)) (position : ℕ) : Option Int64 :=
  (bindings.find? fun binding => binding.1 = position).map Prod.snd

/-- A comparison with `NULL` is not true. -/
def Comparison.holds (bound : Option Int64) (row : SnapshotRow) : Comparison → Bool
  | .ge => match bound with
    | some value => value ≤ row.timestamp
    | none => false
  | .le => match bound with
    | some value => row.timestamp ≤ value
    | none => false

/-- The `WHERE` clause; its parameters are numbered from `position` on. -/
def meetsAll (bindings : List (ℕ × Int64)) (row : SnapshotRow) : ℕ → List Comparison → Bool
  | _, [] => true
  | position, condition :: rest =>
    condition.holds (boundValue bindings position) row && meetsAll bindings row (position + 1) rest

/-- `ORDER BY timestamp DESC`, as SQLite documents it. -/
structure Sqlite where
  descending : List SnapshotRow → List SnapshotRow
  perm : ∀ rows, (descending rows).Perm rows
  sorted : ∀ rows, (descending rows).Pairwise fun newer older => older.timestamp ≤ newer.timestamp

/-- `LIMIT`: a negative limit is none. -/
def limited (limit : Option Int64) (rows : List SnapshotRow) : List SnapshotRow :=
  match limit with
  | some number => if number < 0 then rows else rows.take number.toInt.toNat
  | none => []

/-- The rows of a prepared query, in the order `sqlite3_step` returns them. The limit is the
parameter behind those of the `WHERE` clause. -/
def Sqlite.rows (sqlite : Sqlite) (select : Select) (bindings : List (ℕ × Int64))
    (table : List SnapshotRow) : List SnapshotRow :=
  limited (boundValue bindings (select.conditions.length + 1))
    (sqlite.descending (table.filter fun row => meetsAll bindings row 1 select.conditions))

/-- `newer.timestamp >= older.timestamp` -/
def newerFirst (newer older : SnapshotRow) : Bool := older.timestamp ≤ newer.timestamp

/-- The stable order by descending timestamp. -/
def Sqlite.stable : Sqlite where
  descending rows := rows.mergeSort newerFirst
  perm rows := List.mergeSort_perm rows newerFirst
  sorted rows := by
    have transitive : ∀ a b c, newerFirst a b → newerFirst b c → newerFirst a c := by
      intro a b c first second
      exact decide_eq_true (Int64.le_trans (of_decide_eq_true second) (of_decide_eq_true first))
    have total : ∀ a b, newerFirst a b || newerFirst b a := by
      intro a b
      rcases Int64.le_total a.timestamp b.timestamp with le | le
      · simp [newerFirst, le]
      · simp [newerFirst, le]
    exact (List.pairwise_mergeSort transitive total rows).imp of_decide_eq_true

/-! ### The serialisation loop -/

/-- The object written for a row. -/
def rowText (row : SnapshotRow) : List UInt8 :=
  ascii "\x7b\"pump1\":" ++ printInt row.pump1Cmd.toInt ++
  ascii ",\"pump1_status\":" ++ printInt row.pump1Status.toInt ++
  ascii ",\"pump2\":" ++ printInt row.pump2Cmd.toInt ++
  ascii ",\"pump2_status\":" ++ printInt row.pump2Status.toInt ++
  ascii ",\"busy\":" ++ printInt row.busy.toInt ++
  ascii ",\"alarm\":" ++ printInt row.alarm.toInt ++
  ascii ",\"timestamp\":" ++ printInt row.timestamp.toInt ++ ascii "\x7d"

/-- `sizeof(temp)` -/
def tempSize : ℤ := 409600

/-- The variables of the loop. `temp` is the C string in the buffer. -/
structure Cursor where
  temp : List UInt8 := []
  ptr : ℕ := 0
  remaining : ℤ := tempSize
  count : ℕ := 0
  deriving DecidableEq

/-- The C string of a buffer after a text was stored at an offset: bytes stored behind its end do
not belong to it. -/
def storeAt (offset : ℕ) (stored text : List UInt8) : List UInt8 :=
  if offset ≤ text.length then text.take offset ++ stored else text

/-- The formatted text of one iteration. -/
def entryText (count : ℕ) (row : SnapshotRow) : List UInt8 :=
  (if count > 0 then ascii "," else ascii "") ++ rowText row

/-- The body of the loop; `written` is the length `snprintf` returns. -/
def writeRow (cursor : Cursor) (row : SnapshotRow) : Cursor :=
  let entry := entryText cursor.count row
  let written := entry.length
  { temp := storeAt cursor.ptr (snprintf cursor.remaining.toNat entry) cursor.temp
    ptr := cursor.ptr + written
    remaining := cursor.remaining - written
    count := cursor.count + 1 }

/-- `while (sqlite3_step(stmt) == SQLITE_ROW && remaining > 200)` -/
def fillHistory : Cursor → List SnapshotRow → Cursor
  | cursor, [] => cursor
  | cursor, row :: rest =>
    if cursor.remaining > 200 then fillHistory (writeRow cursor row) rest else cursor

/-- The text printed into the output once the loop has ended. -/
def historyAnswer (cursor : Cursor) : List UInt8 :=
  ascii "\x7b\"count\":" ++ printInt cursor.count ++ ascii ",\"data\":[" ++ cursor.temp ++ ascii "]\x7d"

/-- The return code and the C string in the output. `db` is `none` before `db_init`; `prepared` is
the outcome of `sqlite3_prepare_v2`. -/
def dbGetHistoryFiltered (sqlite : Sqlite) (prepared : Bool) (db : Option (List SnapshotRow))
    (maxSize : ℕ) (limit : Int32) (dateFrom dateTo : Int64) : ℤ × List UInt8 :=
  match db with
  | none => (-1, ascii "\x7b\"error\":\"DB not init\"\x7d")
  | some table =>
    if prepared then
      let rows := sqlite.rows (historySelect dateFrom dateTo) (historyBindings limit dateFrom dateTo) table
      (0, snprintf maxSize (historyAnswer (fillHistory {} rows)))
    else (-1, ascii "\x7b\"error\":\"Prepare failed\"\x7d")

/-! ### The query without bounds -/

/-- `sizeof(temp)` in `db_get_history` -/
def plainTempSize : ℤ := 102400

/-- The return code and the C string in the output. -/
def dbGetHistory (sqlite : Sqlite) (prepared : Bool) (db : Option (List SnapshotRow)) (maxSize : ℕ)
    (limit : Int32) : ℤ × List UInt8 :=
  match db with
  | none => (-1, ascii "\x7b\"error\":\"DB not init\"\x7d")
  | some table =>
    if prepared then
      let rows := sqlite.rows ⟨[]⟩ [(1, limit.toInt64)] table
      (0, snprintf maxSize (historyAnswer (fillHistory { remaining := plainTempSize } rows)))
    else (-1, ascii "\x7b\"error\":\"Query failed\"\x7d")

end ServerPump
