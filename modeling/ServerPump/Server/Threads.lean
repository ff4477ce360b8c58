/-
**The two threads that update the pumps.**

The MQTT callback and the HTTP thread call the update functions of `shared.c` without a common lock
around a call: each section between `pthread_mutex_lock` and `pthread_mutex_unlock`, each insertion
and each `add_pump_history` is a step of its own, and the steps of the two threads interleave. The
insertions read the live state as it is at their step. All insertions succeed here.

A thread is between its calls, or inside a change branch at a `Stage`. A feedback message with a
system status makes three calls: the hardware status, the locked section that fills in the missing
half from the live state, and the system status.
-/

import Mathlib.Logic.Function.Basic
import ServerPump.Server.Mqtt
import ServerPump.Server.Update

namespace ServerPump

/-- The thread of the MQTT callback, and the one that answers HTTP requests. -/
inductive Thread
  | mqtt
  | http
  deriving DecidableEq

def Thread.other : Thread → Thread
  | mqtt => http
  | http => mqtt

/-- The next step of a change branch. -/
inductive Stage
  | addHistory
  | insertRow
  | insertSnapshot
  | remember
  deriving DecidableEq

/-- A call a thread still has to make. -/
inductive Call
  | update (update : Update)
  | fillSystem (busy alarm : Option Int32)
  deriving DecidableEq

/-- A thread: the change branch it is inside, and the calls it has still to make. -/
structure ThreadState where
  inside : Option (Update × Stage) := none
  calls : List Call := []
  deriving DecidableEq

structure Machine where
  side : PumpSide := {}
  threads : Thread → ThreadState := fun _ => {}

/-- A message arrives, a POST has been read, or a thread takes its next step. -/
inductive Label
  | message (topicName : String) (payload : List UInt8)
  | post (payload : List UInt8)
  | step (thread : Thread) (now : Int64)
  deriving DecidableEq

/-- The first step of the change branch of an update. -/
def Update.firstStage : Update → Stage
  | command _ _ => .addHistory
  | feedback _ _ => .insertRow
  | system _ _ => .insertSnapshot

/-- The insertion of an update's own row. -/
def Update.insertOwnRow (side : PumpSide) : Update → PumpSide
  | command pumpId state => insertCommand true pumpId state side
  | feedback pumpId status => insertFeedback true pumpId status side
  | system _ _ => side

section Calls

variable (jsonC : JsonC)

/-- The calls of a control message. -/
def controlCalls (payload : List UInt8) : List Call :=
  match jsonC.tokenerParse payload with
  | none => []
  | some parsed =>
    match jsonC.objectGetEx parsed "pump_id", jsonC.objectGetEx parsed "state" with
    | some pumpId, some state => [.update (.command (jsonC.getInt pumpId) (jsonC.getInt state))]
    | _, _ => []

/-- The call for the hardware status in a feedback message. -/
def statusCalls (parsed : jsonC.Value) : List Call :=
  match jsonC.objectGetEx parsed "pump_id", jsonC.objectGetEx parsed "status" with
  | some pumpId, some status =>
    if 0 ≤ jsonC.getInt status ∧ jsonC.getInt status ≤ 3 then
      [.update (.feedback (jsonC.getInt pumpId) (validStatus (jsonC.getInt status)))]
    else []
  | _, _ => []

/-- The call for the system status in a feedback message. -/
def systemCalls (parsed : jsonC.Value) : List Call :=
  if (newBusy jsonC parsed).isSome ∨ (newAlarm jsonC parsed).isSome then
    [.fillSystem (newBusy jsonC parsed) (newAlarm jsonC parsed)]
  else []

/-- The calls of `mqtt_message_arrived`. -/
def messageCalls (topicName : String) (payload : List UInt8) : List Call :=
  if topicName = "gateway/heartbeat" then []
  else if topicName = "pump/control" then controlCalls jsonC (mqttPayload payload)
  else if topicName = "pump/feedback" then
    match jsonC.tokenerParse (mqttPayload payload) with
    | none => []
    | some parsed => statusCalls jsonC parsed ++ systemCalls jsonC parsed
  else []

/-- The call of `handle_pump_feedback`. -/
def postCalls (payload : List UInt8) : List Call :=
  match jsonC.tokenerParse payload with
  | none => []
  | some parsed =>
    match jsonC.objectGetEx parsed "pump_id", jsonC.objectGetEx parsed "status" with
    | some pumpId, some status =>
      [.update (.feedback (jsonC.getInt pumpId) (validStatus (jsonC.getInt status)))]
    | _, _ => []

end Calls

namespace Machine

/-- The pumps and one thread move on. -/
def become (thread : Thread) (side : PumpSide) (state : ThreadState) (machine : Machine) : Machine where
  side := side
  threads := Function.update machine.threads thread state

/-- The thread is between two messages. -/
def Waiting (thread : Thread) (machine : Machine) : Prop := machine.threads thread = {}

instance (thread : Thread) (machine : Machine) : Decidable (machine.Waiting thread) :=
  inferInstanceAs (Decidable (machine.threads thread = {}))

/-- One step inside a change branch. -/
def branchStep (thread : Thread) (update : Update) (calls : List Call) (machine : Machine) :
    Stage → Machine
  | .addHistory =>
    machine.become thread (addPumpHistory machine.side.current machine.side)
      ⟨some (update, .insertRow), calls⟩
  | .insertRow =>
    machine.become thread (update.insertOwnRow machine.side) ⟨some (update, .insertSnapshot), calls⟩
  | .insertSnapshot =>
    machine.become thread (ServerPump.insertSnapshot true machine.side) ⟨some (update, .remember), calls⟩
  | .remember => machine.become thread (machine.side.remember update.write) ⟨none, calls⟩

/-- The first locked section of an update. -/
def openUpdate (thread : Thread) (now : Int64) (update : Update) (calls : List Call)
    (machine : Machine) : Machine :=
  machine.become thread (machine.side.stamp now update.write)
    ⟨if update.detects machine.side.previous.toPumpFields then some (update, update.firstStage)
      else none, calls⟩

/-- The locked section of a feedback message that completes the system status. -/
def fillSystem (thread : Thread) (busy alarm : Option Int32) (calls : List Call)
    (machine : Machine) : Machine :=
  machine.become thread machine.side
    ⟨none, .update (.system (busy.getD machine.side.current.busy)
      (alarm.getD machine.side.current.alarm)) :: calls⟩

/-- The next step of a thread. -/
def advance (thread : Thread) (now : Int64) (machine : Machine) : Machine :=
  match machine.threads thread with
  | ⟨some (update, stage), calls⟩ => machine.branchStep thread update calls stage
  | ⟨none, .update update :: calls⟩ => machine.openUpdate thread now update calls
  | ⟨none, .fillSystem busy alarm :: calls⟩ => machine.fillSystem thread busy alarm calls
  | ⟨none, []⟩ => machine

/-- A label. A thread takes its next message only when it has finished the last one. -/
def next (jsonC : JsonC) (machine : Machine) : Label → Machine
  | .message topicName payload =>
    if machine.Waiting .mqtt then
      machine.become .mqtt machine.side ⟨none, messageCalls jsonC topicName payload⟩
    else machine
  | .post payload =>
    if machine.Waiting .http then
      machine.become .http machine.side ⟨none, postCalls jsonC payload⟩
    else machine
  | .step thread now => machine.advance thread now

end Machine

end ServerPump
