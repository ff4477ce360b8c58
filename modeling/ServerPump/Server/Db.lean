/-
**The tables, the insertions, and the deletion of old snapshots (`db.c`).**

A table is the list of its rows in the order of their ids, oldest first; the id itself is the
position. Every `db_insert_*` takes the outcome of its SQLite calls as `inserted`: when it is
`false` (the function returns `-1`) the table keeps its rows.

`db_cleanup_old_records` prints its cutoff into a `DELETE FROM pump_snapshots WHERE timestamp < %ld`. The
number of seconds is a product of two `int`, which wraps at 32 bits, and is widened only when it is
subtracted from the time.
-/

import ServerPump.Library.CText

namespace ServerPump

open CText

/-- A row of `pump_commands`. -/
structure CommandRow where
  pumpId : Int32
  command : Int32
  timestamp : Int64
  source : String
  deriving DecidableEq

/-- A row of `pump_feedback`. -/
structure FeedbackRow where
  pumpId : Int32
  status : Int32
  timestamp : Int64
  deriving DecidableEq

/-- A row of `pump_snapshots`. -/
structure SnapshotRow where
  pump1Cmd : Int32
  pump1Status : Int32
  pump2Cmd : Int32
  pump2Status : Int32
  busy : Int32
  alarm : Int32
  timestamp : Int64
  deriving DecidableEq

/-- A row of `gateway_history`. -/
structure GatewayRow where
  isOnline : Int32
  deviceId : List UInt8
  firmware : List UInt8
  timestamp : Int64
  deriving DecidableEq

/-- The three tables of the pumps. -/
structure PumpTables where
  pumpCommands : List CommandRow := []
  pumpFeedback : List FeedbackRow := []
  pumpSnapshots : List SnapshotRow := []
  deriving DecidableEq

def dbInsertCommand (inserted : Bool) (pumpId command : Int32) (timestamp : Int64) (source : String)
    (tables : PumpTables) : PumpTables :=
  if inserted then
    { tables with pumpCommands := tables.pumpCommands ++ [⟨pumpId, command, timestamp, source⟩] }
  else tables

def dbInsertFeedback (inserted : Bool) (pumpId status : Int32) (timestamp : Int64)
    (tables : PumpTables) : PumpTables :=
  if inserted then
    { tables with pumpFeedback := tables.pumpFeedback ++ [⟨pumpId, status, timestamp⟩] }
  else tables

def dbInsertSnapshot (inserted : Bool) (p1Cmd p1St p2Cmd p2St busy alarm : Int32) (timestamp : Int64)
    (tables : PumpTables) : PumpTables :=
  if inserted then
    { tables with
      pumpSnapshots := tables.pumpSnapshots ++ [⟨p1Cmd, p1St, p2Cmd, p2St, busy, alarm, timestamp⟩] }
  else tables

/-- An absent text is stored as the empty string. -/
def dbInsertGatewayStatus (inserted : Bool) (isOnline : Int32) (deviceId firmware : Option CStr)
    (timestamp : Int64) (history : List GatewayRow) : List GatewayRow :=
  if inserted then
    history ++ [⟨isOnline, (deviceId.map CStr.text).getD [], (firmware.map CStr.text).getD [], timestamp⟩]
  else history

/-- `time(NULL) - (days * 86400)` -/
def cleanupCutoff (now : Int64) (days : Int32) : Int64 := now - (days * 86400).toInt64

/-- The return code and the table. `db` is `none` before `db_init`; `executed` is the outcome of
`sqlite3_exec`. -/
def dbCleanupOldRecords (executed : Bool) (now : Int64) (days : Int32)
    (db : Option (List SnapshotRow)) : ℤ × Option (List SnapshotRow) :=
  match db with
  | none => (-1, none)
  | some table =>
    if executed then (0, some (table.filter fun row => ¬ row.timestamp < cleanupCutoff now days))
    else (-1, some table)

example : cleanupCutoff 1700000000 7 = 1699395200 := by decide

end ServerPump
