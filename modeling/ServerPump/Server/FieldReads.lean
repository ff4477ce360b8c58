/-
**The two threads, reading one field at a time.**

Outside the lock a change branch reads `current_pump_status` field by field: all seven fields for the
copy that `add_pump_history` takes and for the arguments of `db_insert_snapshot`, the time alone for
those of `db_insert_command` and `db_insert_feedback`. C leaves the order of the reads open, and the
other thread may write between any two of them. `ReadingMachine` has a step for each read; the locked
sections and the calls stay steps of their own, as in `Machine`.
-/

import ServerPump.Server.Lifetimes

namespace ServerPump

/-- A field of `current_pump_status`. -/
inductive StatusField
  | pump1
  | pump1Status
  | pump2
  | pump2Status
  | busy
  | alarm
  | timestamp
  deriving DecidableEq

/-- One field is read. -/
def StatusField.copy (source target : PumpStatus) : StatusField → PumpStatus
  | pump1 => { target with pump1 := source.pump1 }
  | pump1Status => { target with pump1Status := source.pump1Status }
  | pump2 => { target with pump2 := source.pump2 }
  | pump2Status => { target with pump2Status := source.pump2Status }
  | busy => { target with busy := source.busy }
  | alarm => { target with alarm := source.alarm }
  | timestamp => { target with timestamp := source.timestamp }

/-- The fields read for the call of a stage. -/
def Stage.reads : Stage → List StatusField
  | addHistory => [.pump1, .pump1Status, .pump2, .pump2Status, .busy, .alarm, .timestamp]
  | insertRow => [.timestamp]
  | insertSnapshot => [.pump1, .pump1Status, .pump2, .pump2Status, .busy, .alarm, .timestamp]
  | remember => []

/-- A change branch before the call of a stage: the fields still to be read, and the values read. -/
structure Branch where
  update : Update
  stage : Stage
  unread : List StatusField
  values : PumpStatus
  deriving DecidableEq

def Branch.enter (update : Update) (stage : Stage) : Branch := ⟨update, stage, stage.reads, {}⟩

structure ReadingThread where
  inside : Option Branch := none
  calls : List Call := []
  deriving DecidableEq

structure ReadingMachine where
  side : PumpSide := {}
  threads : Thread → ReadingThread := fun _ => {}

/-- An input arrives, a thread reads a field or takes its next step, or the process is restarted. -/
inductive ReadingLabel
  | arrive (input : Input)
  | read (thread : Thread) (field : StatusField)
  | step (thread : Thread) (now : Int64) (inserted : Bool)
  | restart
  deriving DecidableEq

/-- The call that inserts an update's own row, with the time that was read. -/
def Update.insertAt (inserted : Bool) (timestamp : Int64) (tables : PumpTables) : Update → PumpTables
  | command pumpId state => dbInsertCommand inserted pumpId state timestamp "api" tables
  | feedback pumpId status => dbInsertFeedback inserted pumpId status timestamp tables
  | system _ _ => tables

namespace ReadingMachine

/-- The pumps and one thread move on. -/
def become (thread : Thread) (side : PumpSide) (state : ReadingThread) (machine : ReadingMachine) :
    ReadingMachine where
  side := side
  threads := Function.update machine.threads thread state

/-- The call of a stage, whose fields have been read. -/
def callStage (thread : Thread) (inserted : Bool) (update : Update) (values : PumpStatus)
    (calls : List Call) (machine : ReadingMachine) : Stage → ReadingMachine
  | .addHistory =>
    machine.become thread (addPumpHistory values machine.side)
      ⟨some (.enter update .insertRow), calls⟩
  | .insertRow =>
    machine.become thread
      { machine.side with tables := update.insertAt inserted values.timestamp machine.side.tables }
      ⟨some (.enter update .insertSnapshot), calls⟩
  | .insertSnapshot =>
    machine.become thread
      { machine.side with
        tables := dbInsertSnapshot inserted values.pump1 values.pump1Status values.pump2
          values.pump2Status values.busy values.alarm values.timestamp machine.side.tables }
      ⟨some (.enter update .remember), calls⟩
  | .remember => machine.become thread (machine.side.remember update.write) ⟨none, calls⟩

/-- The next step of a thread. A call waits until its fields have been read. -/
def advance (thread : Thread) (now : Int64) (inserted : Bool) (machine : ReadingMachine) :
    ReadingMachine :=
  match machine.threads thread with
  | ⟨some ⟨update, stage, [], values⟩, calls⟩ =>
    machine.callStage thread inserted update values calls stage
  | ⟨some ⟨_, _, _ :: _, _⟩, _⟩ => machine
  | ⟨none, .update update :: calls⟩ =>
    machine.become thread (machine.side.stamp now update.write)
      ⟨if update.detects machine.side.previous.toPumpFields then
          some (.enter update update.firstStage)
        else none, calls⟩
  | ⟨none, .fillSystem busy alarm :: calls⟩ =>
    machine.become thread machine.side
      ⟨none, .update (.system (busy.getD machine.side.current.busy)
        (alarm.getD machine.side.current.alarm)) :: calls⟩
  | ⟨none, []⟩ => machine

/-- A field that is still to be read is read. -/
def readField (thread : Thread) (field : StatusField) (machine : ReadingMachine) : ReadingMachine :=
  match machine.threads thread with
  | ⟨some branch, calls⟩ =>
    if field ∈ branch.unread then
      machine.become thread machine.side
        ⟨some { branch with
          unread := branch.unread.erase field
          values := field.copy machine.side.current branch.values }, calls⟩
    else machine
  | ⟨none, _⟩ => machine

def next (jsonC : JsonC) (machine : ReadingMachine) : ReadingLabel → ReadingMachine
  | .arrive input =>
    if machine.threads input.thread = {} then
      machine.become input.thread machine.side ⟨none, input.calls jsonC⟩
    else machine
  | .read thread field => machine.readField thread field
  | .step thread now inserted => machine.advance thread now inserted
  | .restart => { side := (ServerPump.restart { pumps := machine.side }).pumps }

end ReadingMachine

end ServerPump
