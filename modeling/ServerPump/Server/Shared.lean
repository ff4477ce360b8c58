/-
**The shared state and its update functions (`shared.h`, `shared.c`).**

The globals of the pumps are one record, `PumpSide`, those of the gateway another, `GatewaySide`;
no function of the source touches both. A call of an update function is given what its environment
answers: the clock reading of `time(NULL)` and the outcomes of its insertions (`UpdateIo`).

The three pump updates share one shape. Under the lock the live field is set and compared with the
previous value; if they differ, rows are written outside the lock, each insertion reading the live
state as it stands, and a second locked section stores the previous value. `updatePumpStatus` and
`updatePumpFeedback` select the field by the pump id: any id but `1` compares with pump 2, and an
id other than `1` and `2` writes no field.
-/

import ServerPump.Server.Db

namespace ServerPump

open CText

/-! ### The pumps -/

def maxHistory : ℕ := 100

def statusUnknown : Int32 := 0

/-- The fields of `PumpStatus` other than the time. -/
structure PumpFields where
  pump1 : Int32 := 0
  pump2 : Int32 := 0
  pump1Status : Int32 := 0
  pump2Status : Int32 := 0
  busy : Int32 := 0
  alarm : Int32 := 0
  deriving DecidableEq

structure PumpStatus extends PumpFields where
  timestamp : Int64 := 0
  deriving DecidableEq

/-- The ring of the last states. -/
structure PumpHistory where
  items : List PumpStatus := List.replicate maxHistory {}
  count : ℕ := 0
  index : ℕ := 0
  deriving DecidableEq

/-- `current_pump_status`, `previous_pump_status`, `pump_history` and the pump tables. -/
structure PumpSide where
  current : PumpStatus := {}
  previous : PumpStatus := {}
  history : PumpHistory := {}
  tables : PumpTables := {}
  deriving DecidableEq

/-- `(pump_id == 1) ? fields.pump1 : fields.pump2` -/
def PumpFields.commandOf (pumpId : Int32) (fields : PumpFields) : Int32 :=
  if pumpId = 1 then fields.pump1 else fields.pump2

/-- `(pump_id == 1) ? fields.pump1_status : fields.pump2_status` -/
def PumpFields.statusOf (pumpId : Int32) (fields : PumpFields) : Int32 :=
  if pumpId = 1 then fields.pump1Status else fields.pump2Status

/-- The `switch` that stores a command. -/
def PumpFields.setCommand (pumpId state : Int32) (fields : PumpFields) : PumpFields :=
  if pumpId = 1 then { fields with pump1 := state }
  else if pumpId = 2 then { fields with pump2 := state }
  else fields

/-- The `switch` that stores a hardware status. -/
def PumpFields.setStatus (pumpId status : Int32) (fields : PumpFields) : PumpFields :=
  if pumpId = 1 then { fields with pump1Status := status }
  else if pumpId = 2 then { fields with pump2Status := status }
  else fields

/-- The two fields of a system report. -/
def PumpFields.setSystem (busy alarm : Int32) (fields : PumpFields) : PumpFields :=
  { fields with busy := busy, alarm := alarm }

/-- What the environment answers to one update: the clock, and the outcomes of its insertions. -/
structure UpdateIo where
  now : Int64
  rowInserted : Bool := true
  snapshotInserted : Bool := true
  deriving DecidableEq

/-- The live fields are replaced and stamped with the time. -/
def PumpSide.stamp (now : Int64) (write : PumpFields → PumpFields) (side : PumpSide) : PumpSide :=
  { side with current := { toPumpFields := write side.current.toPumpFields, timestamp := now } }

/-- The previous fields are replaced; their time is never set. -/
def PumpSide.remember (write : PumpFields → PumpFields) (side : PumpSide) : PumpSide :=
  { side with previous := { side.previous with toPumpFields := write side.previous.toPumpFields } }

/-- The call of `db_insert_snapshot` that the three updates make: it reads the live state. -/
def insertSnapshot (inserted : Bool) (side : PumpSide) : PumpSide :=
  { side with
    tables := dbInsertSnapshot inserted side.current.pump1 side.current.pump1Status
      side.current.pump2 side.current.pump2Status side.current.busy side.current.alarm
      side.current.timestamp side.tables }

def addPumpHistory (status : PumpStatus) (side : PumpSide) : PumpSide :=
  { side with
    history :=
      { items := side.history.items.set side.history.index status
        index := (side.history.index + 1) % maxHistory
        count := if side.history.count < maxHistory then side.history.count + 1
          else side.history.count } }

/-- The call of `db_insert_command`, stamped with the live time. -/
def insertCommand (inserted : Bool) (pumpId state : Int32) (side : PumpSide) : PumpSide :=
  { side with
    tables := dbInsertCommand inserted pumpId state side.current.timestamp "api" side.tables }

/-- The call of `db_insert_feedback`, stamped with the live time. -/
def insertFeedback (inserted : Bool) (pumpId status : Int32) (side : PumpSide) : PumpSide :=
  { side with
    tables := dbInsertFeedback inserted pumpId status side.current.timestamp side.tables }

def updatePumpStatus (io : UpdateIo) (pumpId state : Int32) (side : PumpSide) : PumpSide :=
  let previousState := side.previous.commandOf pumpId
  let side := side.stamp io.now (PumpFields.setCommand pumpId state)
  if previousState ≠ state then
    let side := addPumpHistory side.current side
    let side := insertCommand io.rowInserted pumpId state side
    let side := insertSnapshot io.snapshotInserted side
    side.remember (PumpFields.setCommand pumpId state)
  else side

/-- A hardware status outside `0..3` counts as unknown. -/
def validStatus (status : Int32) : Int32 :=
  if status < 0 ∨ status > 3 then statusUnknown else status

def updatePumpFeedback (io : UpdateIo) (pumpId status : Int32) (side : PumpSide) : PumpSide :=
  let status := validStatus status
  let previousStatus := side.previous.statusOf pumpId
  let side := side.stamp io.now (PumpFields.setStatus pumpId status)
  if previousStatus ≠ status then
    let side := insertFeedback io.rowInserted pumpId status side
    let side := insertSnapshot io.snapshotInserted side
    side.remember (PumpFields.setStatus pumpId status)
  else side

def updateSystemStatus (io : UpdateIo) (busy alarm : Int32) (side : PumpSide) : PumpSide :=
  let busyChanged := side.previous.busy ≠ busy
  let alarmChanged := side.previous.alarm ≠ alarm
  let side := side.stamp io.now (PumpFields.setSystem busy alarm)
  if busyChanged ∨ alarmChanged then
    let side := insertSnapshot io.snapshotInserted side
    side.remember (PumpFields.setSystem busy alarm)
  else side

/-! ### The gateway -/

structure GatewayHardwareStatus where
  isOnline : Int32 := 0
  gatewayReportedStatus : Int32 := 0
  lastSeenAt : Int64 := 0
  deviceId : CharArray 64 := CharArray.zero 64
  firmwareVersion : CharArray 32 := CharArray.zero 32
  deriving DecidableEq

/-- `gateway_hw_status`, `previous_gateway_status` and the table `gateway_history`. -/
structure GatewaySide where
  status : GatewayHardwareStatus := {}
  previous : GatewayHardwareStatus := {}
  gatewayHistory : List GatewayRow := []
  deriving DecidableEq

/-- `if (device_id) strncpy(device_id, ..., sizeof - 1)`, and the same for the firmware. -/
def GatewayHardwareStatus.copyTexts (deviceId firmware : Option CStr)
    (status : GatewayHardwareStatus) : GatewayHardwareStatus :=
  { status with
    deviceId := match deviceId with
      | some text => strncpy status.deviceId text.text 63 (by decide)
      | none => status.deviceId
    firmwareVersion := match firmware with
      | some text => strncpy status.firmwareVersion text.text 31 (by decide)
      | none => status.firmwareVersion }

/-- `strcmp` of the stored firmware with the reported one. -/
def firmwareChanged (firmware : Option CStr) (status : GatewayHardwareStatus) : Prop :=
  ∃ text ∈ firmware, status.firmwareVersion.text ≠ text.text

instance (firmware : Option CStr) (status : GatewayHardwareStatus) :
    Decidable (firmwareChanged firmware status) :=
  match firmware with
  | none => isFalse fun ⟨_, member, _⟩ => by cases member
  | some text => decidable_of_iff (status.firmwareVersion.text ≠ text.text)
      ⟨fun differs => ⟨text, rfl, differs⟩, fun ⟨_, member, differs⟩ => Option.some.inj member ▸ differs⟩

def updateGatewayHeartbeat (now : Int64) (inserted : Bool) (deviceId firmware : Option CStr)
    (status : Int32) (side : GatewaySide) : GatewaySide :=
  let isFirstHeartbeat := side.status.lastSeenAt = 0
  let statusChanged := side.status.gatewayReportedStatus ≠ status
  let onlineStateChanged := side.status.isOnline ≠ 1
  let firmwareDiffers := firmwareChanged firmware side.status
  let stored : GatewayHardwareStatus :=
    { side.status with isOnline := 1, gatewayReportedStatus := status, lastSeenAt := now }
  let updated := { side with status := stored.copyTexts deviceId firmware }
  if isFirstHeartbeat ∨ statusChanged ∨ onlineStateChanged ∨ firmwareDiffers then
    let logged := { updated with
      gatewayHistory := dbInsertGatewayStatus inserted 1 deviceId firmware
        updated.status.lastSeenAt updated.gatewayHistory }
    let remembered : GatewayHardwareStatus :=
      { logged.previous with isOnline := 1, gatewayReportedStatus := status }
    { logged with previous := remembered.copyTexts deviceId firmware }
  else updated

end ServerPump
