/-
**The MQTT callback and the publisher (`mqtt.c`).**

In `mqtt_message_arrived` the payload is copied into a buffer of 1024 bytes, so that what is parsed is
its C string, cut at 1023 bytes. The topic selects one of three branches; a message of any other topic
changes nothing.

The feedback branch applies up to two updates, the pump's hardware status and the system status.
The latter takes the member that is absent or out of range from the live state. In the source the
pair `busy_updated`, `new_busy` starts as `0`, `-1`; here it is `none`.

`mqtt_publisher_thread` prints the live state into a buffer of 256 bytes every five seconds, and
publishes the C string in it under `pump/status`.
-/

import ServerPump.Server.JsonC
import ServerPump.Server.Shared

namespace ServerPump

open CText

/-- What the environment answers while one message is handled: to the update its topic names, and
to the update of the system status behind a feedback. -/
structure MessageIo where
  report : UpdateIo
  system : UpdateIo

/-- The whole server. -/
structure ServerState where
  pumps : PumpSide := {}
  gateway : GatewaySide := {}
  deriving DecidableEq

/-- `snprintf(payload, sizeof(payload), "%.*s", ...)` -/
def mqttPayload (payload : List UInt8) : List UInt8 := snprintf 1024 (cstr payload)

section Branches

variable (jsonC : JsonC)

/-- The topic `gateway/heartbeat`. A missing `status` counts as `1`. -/
def gatewayHeartbeat (io : UpdateIo) (payload : List UInt8) (side : GatewaySide) : GatewaySide :=
  match jsonC.tokenerParse payload with
  | none => side
  | some parsed =>
    let deviceId := (jsonC.objectGetEx parsed "device_id").bind jsonC.getString
    let firmware := (jsonC.objectGetEx parsed "firmware").bind jsonC.getString
    let status := match jsonC.objectGetEx parsed "status" with
      | some value => jsonC.getInt value
      | none => 1
    updateGatewayHeartbeat io.now io.rowInserted deviceId firmware status side

/-- The topic `pump/control`. -/
def pumpControl (io : UpdateIo) (payload : List UInt8) (side : PumpSide) : PumpSide :=
  match jsonC.tokenerParse payload with
  | none => side
  | some parsed =>
    match jsonC.objectGetEx parsed "pump_id", jsonC.objectGetEx parsed "state" with
    | some pumpId, some state => updatePumpStatus io (jsonC.getInt pumpId) (jsonC.getInt state) side
    | _, _ => side

/-- The member `busy` of a feedback, if it is present and in `0..2`. -/
def newBusy (parsed : jsonC.Value) : Option Int32 :=
  match jsonC.objectGetEx parsed "busy" with
  | some value => if 0 ≤ jsonC.getInt value ∧ jsonC.getInt value ≤ 2 then some (jsonC.getInt value) else none
  | none => none

/-- The member `alarm` of a feedback, if it is present and `0` or `1`. -/
def newAlarm (parsed : jsonC.Value) : Option Int32 :=
  match jsonC.objectGetEx parsed "alarm" with
  | some value => if jsonC.getInt value = 0 ∨ jsonC.getInt value = 1 then some (jsonC.getInt value) else none
  | none => none

/-- The first half of a feedback: the hardware status, if both members are present and the status
is in `0..3`. -/
def feedbackStatus (io : UpdateIo) (parsed : jsonC.Value) (side : PumpSide) : PumpSide :=
  match jsonC.objectGetEx parsed "pump_id", jsonC.objectGetEx parsed "status" with
  | some pumpId, some status =>
    if 0 ≤ jsonC.getInt status ∧ jsonC.getInt status ≤ 3 then
      updatePumpFeedback io (jsonC.getInt pumpId) (jsonC.getInt status) side
    else side
  | _, _ => side

/-- The second half of a feedback: the system status, if `busy` or `alarm` is valid. -/
def feedbackSystem (io : UpdateIo) (parsed : jsonC.Value) (side : PumpSide) : PumpSide :=
  let busy := newBusy jsonC parsed
  let alarm := newAlarm jsonC parsed
  if busy.isSome ∨ alarm.isSome then
    updateSystemStatus io (busy.getD side.current.busy) (alarm.getD side.current.alarm) side
  else side

/-- The topic `pump/feedback`. -/
def pumpFeedback (io : MessageIo) (payload : List UInt8) (side : PumpSide) : PumpSide :=
  match jsonC.tokenerParse payload with
  | none => side
  | some parsed => feedbackSystem jsonC io.system parsed (feedbackStatus jsonC io.report parsed side)

def mqttMessageArrived (io : MessageIo) (topicName : String) (payload : List UInt8)
    (server : ServerState) : ServerState :=
  if topicName = "gateway/heartbeat" then
    { server with gateway := gatewayHeartbeat jsonC io.report (mqttPayload payload) server.gateway }
  else if topicName = "pump/control" then
    { server with pumps := pumpControl jsonC io.report (mqttPayload payload) server.pumps }
  else if topicName = "pump/feedback" then
    { server with pumps := pumpFeedback jsonC io (mqttPayload payload) server.pumps }
  else server

end Branches

/-! ### The publisher -/

/-- The text `mqtt_publisher_thread` prints. -/
def publisherText (status : PumpStatus) : List UInt8 :=
  ascii "\x7b\"pump1\":" ++ printInt status.pump1.toInt ++
  ascii ",\"pump1_status\":" ++ printInt status.pump1Status.toInt ++
  ascii ",\"pump2\":" ++ printInt status.pump2.toInt ++
  ascii ",\"pump2_status\":" ++ printInt status.pump2Status.toInt ++
  ascii ",\"busy\":" ++ printInt status.busy.toInt ++
  ascii ",\"alarm\":" ++ printInt status.alarm.toInt ++
  ascii ",\"timestamp\":" ++ printInt status.timestamp.toInt ++ ascii "\x7d"

/-- The payload it publishes. -/
def publisherPayload (status : PumpStatus) : List UInt8 := snprintf 256 (publisherText status)

end ServerPump
