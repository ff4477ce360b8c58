/-
**The three pump updates as one.**

`update_pump_status`, `update_pump_feedback` and `update_system_status` differ in the fields they
write, in the previous fields they compare, and in what the change branch does before it inserts the
snapshot. `Update` names these differences and `applyUpdate` is the shared shape;
`updatePumpStatus_eq`, `updatePumpFeedback_eq` and `updateSystemStatus_eq` identify the functions of
the source with it.
-/

import ServerPump.Server.Shared

namespace ServerPump

/-- An update of the pumps. The status of a feedback is the validated one. -/
inductive Update
  | command (pumpId state : Int32)
  | feedback (pumpId status : Int32)
  | system (busy alarm : Int32)
  deriving DecidableEq

namespace Update

/-- The fields the update writes, in the live and later in the previous state. -/
def write : Update → PumpFields → PumpFields
  | command pumpId state => PumpFields.setCommand pumpId state
  | feedback pumpId status => PumpFields.setStatus pumpId status
  | system busy alarm => PumpFields.setSystem busy alarm

/-- The comparison with the previous fields. -/
def detects (previous : PumpFields) : Update → Bool
  | command pumpId state => previous.commandOf pumpId ≠ state
  | feedback pumpId status => previous.statusOf pumpId ≠ status
  | system busy alarm => previous.busy ≠ busy ∨ previous.alarm ≠ alarm

/-- What the change branch does before it inserts the snapshot. -/
def insertRow (inserted : Bool) (side : PumpSide) : Update → PumpSide
  | command pumpId state => insertCommand inserted pumpId state (addPumpHistory side.current side)
  | feedback pumpId status => insertFeedback inserted pumpId status side
  | system _ _ => side

end Update

def applyUpdate (io : UpdateIo) (update : Update) (side : PumpSide) : PumpSide :=
  let changed := update.detects side.previous.toPumpFields
  let side := side.stamp io.now update.write
  if changed then
    let side := update.insertRow io.rowInserted side
    let side := insertSnapshot io.snapshotInserted side
    side.remember update.write
  else side

theorem updatePumpStatus_eq (io : UpdateIo) (pumpId state : Int32) (side : PumpSide) :
    updatePumpStatus io pumpId state side = applyUpdate io (.command pumpId state) side := by
  simp [updatePumpStatus, applyUpdate, Update.detects, Update.write, Update.insertRow]

theorem updatePumpFeedback_eq (io : UpdateIo) (pumpId status : Int32) (side : PumpSide) :
    updatePumpFeedback io pumpId status side =
      applyUpdate io (.feedback pumpId (validStatus status)) side := by
  simp [updatePumpFeedback, applyUpdate, Update.detects, Update.write, Update.insertRow]

theorem updateSystemStatus_eq (io : UpdateIo) (busy alarm : Int32) (side : PumpSide) :
    updateSystemStatus io busy alarm side = applyUpdate io (.system busy alarm) side := by
  simp [updateSystemStatus, applyUpdate, Update.detects, Update.write, Update.insertRow]

end ServerPump
