/-
**The HTTP interface (`http_api.c`).**

`libmicrohttpd` calls `handle_request` once when a request arrives and, for a POST, once more for
every chunk of the body and a last time at its end. `*con_cls` keeps the body between the calls: a
buffer of 1024 bytes, which the model gives as the C string in it. `handleRequest` is one such call;
`Endpoint` is the handler it selects, with the payload it passes.
-/

import ServerPump.Server.DbQuery
import ServerPump.Server.Mqtt

namespace ServerPump

open CText

/-! ### Routing and the body of a POST -/

/-- `malloc(1024)` -/
def postBufferSize : ℕ := 1024

/-- The handler of a request. -/
inductive Endpoint
  | options
  | control (payload : List UInt8)
  | feedback (payload : List UInt8)
  | pumpStatus
  | pumpHistory
  | gatewayStatus
  | notFound
  | notAllowed
  deriving DecidableEq

/-- What one call does: `MHD_NO`, `MHD_YES` with `*con_cls` set and nothing answered, or an answer
from a handler. -/
inductive Outcome
  | refuse
  | proceed (postBuffer : List UInt8)
  | answer (endpoint : Endpoint)
  deriving DecidableEq

/-- One call of `handle_request`. `uploadData` has the `*upload_data_size` bytes of this call's
chunk; `allocated` is the outcome of `malloc`. -/
def handleRequest (allocated : Bool) (method url : String) (uploadData : List UInt8)
    (conCls : Option (List UInt8)) : Outcome :=
  if method = "OPTIONS" then .answer .options
  else if method = "POST" then
    match conCls with
    | none => if allocated then .proceed [] else .refuse
    | some postBuffer =>
      if uploadData.length ≠ 0 then .proceed (strncat postBuffer uploadData uploadData.length)
      else if url = "/api/pump/control" then .answer (.control postBuffer)
      else if url = "/api/pump/feedback" then .answer (.feedback postBuffer)
      else .answer .notFound
  else if method = "GET" then
    if url = "/api/pump/status" then .answer .pumpStatus
    else if "/api/pump/history".toList <+: url.toList then .answer .pumpHistory
    else if url = "/api/gateway/status" then .answer .gatewayStatus
    else .answer .notFound
  else .answer .notAllowed

/-- The next call of the same request. Only an outcome that keeps the request open has one. -/
def Outcome.next (method url : String) (uploadData : List UInt8) : Outcome → Outcome
  | .proceed postBuffer => handleRequest true method url uploadData (some postBuffer)
  | ended => ended

/-! ### The handlers -/

/-- The body `handle_pump_control` answers with. `published` is the outcome of
`MQTTClient_publishMessage`, `status` the live state a tenth of a second later. -/
def handlePumpControl (published : Bool) (status : PumpStatus) : List UInt8 :=
  if published then
    snprintf 1024 <|
      ascii "\x7b\"status\":\"sent\",\"current_state\":\x7b\"pump1\":" ++ printInt status.pump1.toInt ++
      ascii ",\"pump2\":" ++ printInt status.pump2.toInt ++ ascii "\x7d\x7d"
  else ascii "\x7b\"status\":\"error\"\x7d"

/-- The status code and the pumps after `handle_pump_feedback`. -/
def handlePumpFeedback (jsonC : JsonC) (io : UpdateIo) (payload : List UInt8) (side : PumpSide) :
    ℕ × PumpSide :=
  match jsonC.tokenerParse payload with
  | none => (400, side)
  | some parsed =>
    match jsonC.objectGetEx parsed "pump_id", jsonC.objectGetEx parsed "status" with
    | some pumpId, some status =>
      (200, updatePumpFeedback io (jsonC.getInt pumpId) (jsonC.getInt status) side)
    | _, _ => (400, side)

/-- `is_online` as `handle_gateway_status` computes it from the clock. -/
def gatewayOnline (now : Int64) (status : GatewayHardwareStatus) : Bool :=
  now - status.lastSeenAt < 30 && status.isOnline ≠ 0

def handleGatewayStatus (now : Int64) (status : GatewayHardwareStatus) : List UInt8 :=
  snprintf 1024 <|
    ascii "\x7b\"status\":" ++ printInt status.gatewayReportedStatus.toInt ++
    ascii ",\"is_online\":" ++ printInt (if gatewayOnline now status then 1 else 0) ++
    ascii ",\"device_id\":\"" ++ status.deviceId.text ++
    ascii "\",\"firmware\":\"" ++ status.firmwareVersion.text ++
    ascii "\",\"last_seen\":" ++ printInt status.lastSeenAt.toInt ++ ascii "\x7d"

/-- The text `handle_pump_status` prints. -/
def pumpStatusText (status : PumpStatus) : List UInt8 :=
  ascii "\x7b\"pump1\":" ++ printInt status.pump1.toInt ++
  ascii ",\"pump1_status\":" ++ printInt status.pump1Status.toInt ++
  ascii ",\"pump2\":" ++ printInt status.pump2.toInt ++
  ascii ",\"pump2_status\":" ++ printInt status.pump2Status.toInt ++
  ascii ",\"busy\":" ++ printInt status.busy.toInt ++
  ascii ",\"alarm\":" ++ printInt status.alarm.toInt ++
  ascii ",\"timestamp\":" ++ printInt status.timestamp.toInt ++ ascii "\x7d"

def handlePumpStatus (status : PumpStatus) : List UInt8 := snprintf 1024 (pumpStatusText status)

/-- The query parameters the history handler looks at. -/
structure QueryParams where
  limitStr : Option (List UInt8) := none
  fromStr : Option (List UInt8) := none
  toStr : Option (List UInt8) := none

/-- Called for every argument of the query; a key without `=` has no value. -/
def getQueryIterator (params : QueryParams) (argument : String × Option (List UInt8)) : QueryParams :=
  if argument.1 = "limit" then { params with limitStr := argument.2 }
  else if argument.1 = "from" then { params with fromStr := argument.2 }
  else if argument.1 = "to" then { params with toStr := argument.2 }
  else params

/-- `MHD_get_connection_values` over the arguments of a GET. -/
def queryParams (arguments : List (String × Option (List UInt8))) : QueryParams :=
  arguments.foldl getQueryIterator {}

/-- The clamped limit. -/
def historyLimit (params : QueryParams) : Int32 :=
  let limit := match params.limitStr with
    | some text => atoi text
    | none => 1000
  let limit := if limit > 5000 then 5000 else limit
  if limit < 1 then 1000 else limit

def historyFrom (params : QueryParams) : Int64 :=
  match params.fromStr with
  | some text => atoll text
  | none => 0

def historyTo (params : QueryParams) : Int64 :=
  match params.toStr with
  | some text => atoll text
  | none => 0

/-- `sizeof(response)` of `handle_pump_history` -/
def responseSize : ℕ := 512000

def handlePumpHistory (sqlite : Sqlite) (prepared : Bool) (db : Option (List SnapshotRow))
    (arguments : List (String × Option (List UInt8))) : List UInt8 :=
  let params := queryParams arguments
  let result := dbGetHistoryFiltered sqlite prepared db responseSize (historyLimit params)
    (historyFrom params) (historyTo params)
  if result.1 ≠ 0 then ascii "\x7b\"error\":\"Database failed\"\x7d" else result.2

end ServerPump
