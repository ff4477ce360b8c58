/-
**The process and its threads (`main.c`).**

`main` creates the mutex and opens the database, starts three threads and waits for them in the same order,
and then closes the one and destroys the other. Each thread connects to the broker, or starts the HTTP
daemon; it ends at once if that fails, and otherwise when it finds `running` reset. In between paho and
libmicrohttpd call the handlers, in threads of their own. `MHD_stop_daemon` waits for its thread.
`MQTTClient_disconnect` waits for the thread that runs the callbacks only if no other client is connected, and
no longer than ten seconds: while the publisher is connected the subscriber's does not wait at all, and a
callback may go on behind it.

A signal that comes before its handler is installed is left out, and so is what `db_init` has opened when it
fails.
-/

import ServerPump.Server.Daemon

namespace ServerPump

inductive Service
  | publisher
  | subscriber
  | http
  deriving DecidableEq

/-- Where a thread is. -/
inductive ServiceState
  | notCreated
  /-- in front of `MQTTClient_connect`, or of `MHD_start_daemon` -/
  | starting
  /-- in its loop -/
  | serving
  | ended
  deriving DecidableEq

/-- What `main` does next. -/
inductive MainPhase
  | mutexInit
  | dbInit
  | create (service : Service)
  | join (service : Service)
  | dbClose
  | mutexDestroy
  /-- `return 1` -/
  | failed
  /-- `return 0` -/
  | finished
  deriving DecidableEq

/-- The mutex, or the database. -/
inductive Resource
  | absent
  | ready
  | gone
  deriving DecidableEq

structure Process where
  main : MainPhase := .mutexInit
  running : Bool := true
  services : Service → ServiceState := fun _ => .notCreated
  lock : Resource := .absent
  db : Resource := .absent
  daemon : Daemon := {}

inductive ProcessLabel
  /-- the next step of `main`, with the outcome of `db_init` -/
  | main (ok : Bool)
  /-- `signal_handler` -/
  | signal
  | start (service : Service) (ok : Bool)
  /-- a thread leaves its loop, and what it has started is stopped -/
  | stop (service : Service)
  /-- the disconnect of the subscriber returns, whether a callback still runs or not -/
  | giveUp
  | daemon (label : DaemonLabel)

namespace Service

def afterCreate : Service → MainPhase
  | publisher => .create .subscriber
  | subscriber => .create .http
  | http => .join .publisher

def afterJoin : Service → MainPhase
  | publisher => .join .subscriber
  | subscriber => .join .http
  | http => .dbClose

end Service

namespace Process

def become (service : Service) (state : ServiceState) (process : Process) : Process :=
  { process with services := Function.update process.services service state }

def mainStep (ok : Bool) (process : Process) : Process :=
  match process.main with
  | .mutexInit => { process with lock := .ready, main := .dbInit }
  | .dbInit =>
    if ok then { process with db := .ready, main := .create .publisher }
    else { process with main := .failed }
  | .create service => { process.become service .starting with main := service.afterCreate }
  | .join service =>
    if process.services service = .ended then { process with main := service.afterJoin } else process
  | .dbClose => { process with db := .gone, main := .mutexDestroy }
  | .mutexDestroy => { process with lock := .gone, main := .finished }
  | .failed => process
  | .finished => process

/-- What a thread has started may be stopped. -/
def CanStop (process : Process) : Service → Prop
  | .publisher => True
  | .subscriber => process.daemon.world.machine.Waiting .mqtt
  | .http => process.daemon.Free

instance (process : Process) (service : Service) : Decidable (process.CanStop service) :=
  match service with
  | .publisher => .isTrue trivial
  | .subscriber => inferInstanceAs (Decidable (process.daemon.world.machine.Waiting .mqtt))
  | .http => inferInstanceAs (Decidable process.daemon.Free)

/-- Whether something of the server can happen now. The control handler publishes through the client of the
subscriber; the broker and the clients go on by themselves. -/
def Serves (process : Process) : DaemonLabel → Prop
  | .world (.deliver _) => process.services .subscriber = .serving
  | .world .publishStatus => process.services .publisher = .serving
  -- a callback that was not waited for goes on, as long as there is a process
  | .world (.step .mqtt _ _) => process.main ≠ .finished
  | .world (.step .http _ _) => process.services .http = .serving
  | .openRequest _ => process.services .http = .serving
  | .call _ _ io =>
    process.services .http = .serving ∧ (io.published → process.services .subscriber = .serving)
  | .finish _ => process.services .http = .serving
  | _ => True

instance (process : Process) (label : DaemonLabel) : Decidable (process.Serves label) :=
  match label with
  | .world (.deliver _) => inferInstanceAs (Decidable (_ = _))
  | .world .publishStatus => inferInstanceAs (Decidable (_ = _))
  | .world (.step .mqtt _ _) => inferInstanceAs (Decidable (_ ≠ _))
  | .world (.step .http _ _) => inferInstanceAs (Decidable (_ = _))
  | .world (.publish _ _) => .isTrue trivial
  | .world (.controlPost _ _) => .isTrue trivial
  | .world (.feedbackPost _) => .isTrue trivial
  | .world (.acknowledge _) => .isTrue trivial
  | .world (.resend _) => .isTrue trivial
  | .openRequest _ => inferInstanceAs (Decidable (_ = _))
  | .call _ _ io => inferInstanceAs (Decidable (_ = _ ∧ (io.published → _ = _)))
  | .finish _ => inferInstanceAs (Decidable (_ = _))
  | .receive _ => .isTrue trivial
  | .abort _ => .isTrue trivial

def next (jsonC : JsonC) (sqlite : Sqlite) (process : Process) : ProcessLabel → Process
  | .main ok => process.mainStep ok
  | .signal => if process.main = .mutexInit then process else { process with running := false }
  | .start service ok =>
    if process.services service = .starting then
      process.become service (if ok then .serving else .ended)
    else process
  | .stop service =>
    if process.services service = .serving ∧ process.running = false ∧ process.CanStop service then
      process.become service .ended
    else process
  | .giveUp =>
    if process.services .subscriber = .serving ∧ process.running = false then
      process.become .subscriber .ended
    else process
  | .daemon label =>
    if process.Serves label then { process with daemon := process.daemon.next jsonC sqlite label }
    else process

end Process

end ServerPump
