/-
**The status panel of the dashboard (`loadStatus`, `createPumpCard` and `control` in `script.js`).**

Every two seconds, and behind each command, the page asks for `/api/pump/status` and draws the panel
anew: `busy`, the alarm, a card for each pump and the time. A card has two buttons, each with the call of
`control` it makes.

The layout of the panel is left out, and so is an answer the server never sends, one that lacks one of
the seven numbers: it counts as failed here, and nothing is drawn.
-/

import ServerPump.Web.HistoryExport

namespace ServerPump

open CText JsonText

/-- `control(pumpId, state)` -/
structure PumpControl where
  pumpId : ℤ
  state : ℤ
  deriving DecidableEq

/-- `['unknown', 'running', 'stopped', 'error'][status]` -/
def statusClass (status : ℤ) : Option String :=
  if 0 ≤ status then ["unknown", "running", "stopped", "error"][status.toNat]? else none

structure PumpCard where
  statusClass : String
  title : String
  statusIcon : String
  statusText : String
  commandIcon : String
  command : String
  turnOn : PumpControl
  turnOff : PumpControl
  deriving DecidableEq

def createPumpCard (id cmd status : ℤ) : PumpCard where
  statusClass := (ServerPump.statusClass status).getD "unknown"
  title := "Pump " ++ toString id
  statusIcon := (ServerPump.statusIcon status).getD "help"
  statusText := printed (ServerPump.statusText status)
  commandIcon := if cmd ≠ 0 then "toggle_on" else "toggle_off"
  command := if cmd ≠ 0 then "ON" else "OFF"
  turnOn := ⟨id, 1⟩
  turnOff := ⟨id, 0⟩

structure StatusPanel where
  busyIcon : String
  busyText : String
  alarmIcon : String
  alarm : String
  pump1 : PumpCard
  pump2 : PumpCard
  lastUpdate : ℤ
  deriving DecidableEq

/-- What an answer draws at a time. -/
def statusPanel (now : ℤ) (data : HistoryRecord) : StatusPanel where
  busyIcon := printed (ServerPump.busyIcon data.busy)
  busyText := (ServerPump.busyText data.busy).getD "--"
  alarmIcon := if data.alarm ≠ 0 then "warning" else "check_circle"
  alarm := if data.alarm ≠ 0 then "ACTIVE" else "OK"
  pump1 := createPumpCard 1 data.pump1 data.pump1Status
  pump2 := createPumpCard 2 data.pump2 data.pump2Status
  lastUpdate := now

/-- What the body of an answer draws. -/
def drawStatus (now : ℤ) (body : List UInt8) : Option StatusPanel :=
  ((parse false body).bind HistoryRecord.ofJson).map (statusPanel now)

/-- `JSON.stringify({pump_id: pumpId, state: state})` -/
def controlBody (control : PumpControl) : List UInt8 :=
  ascii "\x7b\"pump_id\":" ++ printInt control.pumpId ++ ascii ",\"state\":" ++
    printInt control.state ++ ascii "\x7d"

end ServerPump
