/-
**Insertions that fail, and restarts.**

`Machine.next` lets every insertion succeed. A `Turn` is a label with the outcome of the insertion
its step makes: a `db_insert_*` that fails leaves the tables as they are, and no caller looks at its
result. The process may end after any turn; the next one finds the same tables and everything else
initialised.
-/

import ServerPump.Server.System
import ServerPump.Server.Threads

namespace ServerPump

/-- A label, with the outcome of the insertion its step makes, if it makes one. -/
structure Turn where
  label : Label
  inserted : Bool := true
  deriving DecidableEq

/-- What happens over the lifetimes of several processes. -/
inductive Occurrence
  | turn (turn : Turn)
  | restart
  deriving DecidableEq

/-- The thread that handles an input. -/
def Input.thread : Input → Thread
  | .mqtt _ _ => .mqtt
  | .feedbackPost _ => .http

/-- The calls of an input. -/
def Input.calls (jsonC : JsonC) : Input → List Call
  | .mqtt topicName payload => messageCalls jsonC topicName payload
  | .feedbackPost payload => postCalls jsonC payload

/-- The input that arrives. -/
def Label.input? : Label → Option Input
  | message topicName payload => some (.mqtt topicName payload)
  | post payload => some (.feedbackPost payload)
  | step _ _ => none

namespace Machine

/-- One step, whose insertion may fail. -/
def turn (jsonC : JsonC) (machine : Machine) (turn : Turn) : Machine :=
  let moved := machine.next jsonC turn.label
  if turn.inserted then moved
  else { moved with side := { moved.side with tables := machine.side.tables } }

/-- A new process over the same tables. -/
def restart (machine : Machine) : Machine where
  side := (ServerPump.restart { pumps := machine.side }).pumps

def occur (jsonC : JsonC) (machine : Machine) : Occurrence → Machine
  | .turn turn => machine.turn jsonC turn
  | .restart => machine.restart

end Machine

section Taken

variable (jsonC : JsonC)

/-- The input a machine takes: one that arrives while its thread is busy is not taken. -/
def Machine.takes (machine : Machine) (label : Label) : Option Input :=
  label.input?.filter fun input => machine.Waiting input.thread

/-- **The inputs taken in a run**, in this order. -/
def taken : Machine → List Turn → List Input
  | _, [] => []
  | machine, turn :: rest => (machine.takes turn.label).toList ++ taken (machine.turn jsonC turn) rest

end Taken

end ServerPump
