/-
**The running server.**

The state changes on two occasions: `paho` delivers a message (`mqtt_message_arrived`), or the end
of a POST to `/api/pump/feedback` is reached (`handle_pump_feedback`). `handle` is one of these from
its beginning to its end; a list of deliveries is a process lifetime in which they come one after
the other.

`restart` is what a new process starts from: `db_init` creates the tables only if they do not exist,
everything else is initialised to zero.
-/

import ServerPump.Server.HttpApi

namespace ServerPump

/-- A message, or the body of a POST to `/api/pump/feedback`. -/
inductive Input
  | mqtt (topicName : String) (payload : List UInt8)
  | feedbackPost (payload : List UInt8)
  deriving DecidableEq

/-- An input, with what the environment answers while it is handled. -/
structure Delivery where
  input : Input
  io : MessageIo

/-- Both insertions of an update succeed. -/
def UpdateIo.Succeeds (io : UpdateIo) : Prop := io.rowInserted = true ∧ io.snapshotInserted = true

instance (io : UpdateIo) : Decidable io.Succeeds :=
  inferInstanceAs (Decidable (io.rowInserted = true ∧ io.snapshotInserted = true))

/-- Every insertion made while the input is handled succeeds. -/
def Delivery.Succeeds (delivery : Delivery) : Prop :=
  delivery.io.report.Succeeds ∧ delivery.io.system.Succeeds

instance (delivery : Delivery) : Decidable delivery.Succeeds :=
  inferInstanceAs (Decidable (delivery.io.report.Succeeds ∧ delivery.io.system.Succeeds))

/-- An environment in which every insertion succeeds. -/
def MessageIo.at (now : Int64) : MessageIo := ⟨{ now := now }, { now := now }⟩

/-- One input, from beginning to end. -/
def handle (jsonC : JsonC) (server : ServerState) (delivery : Delivery) : ServerState :=
  match delivery.input with
  | .mqtt topicName payload => mqttMessageArrived jsonC delivery.io topicName payload server
  | .feedbackPost payload =>
    { server with pumps := (handlePumpFeedback jsonC delivery.io.report payload server.pumps).2 }

/-- A new process over the same tables. -/
def restart (server : ServerState) : ServerState where
  pumps := { tables := server.pumps.tables }
  gateway := { gatewayHistory := server.gateway.gatewayHistory }

end ServerPump
