/-
**The HTTP daemon (`http_api_thread` and `handle_request` in `http_api.c`).**

`MHD_start_daemon` with `MHD_USE_SELECT_INTERNALLY` serves all connections on one thread. Many requests
may be open. The thread calls `handle_request` for one of them at a time, in any order: first without
data, then for the chunks of its body, and last at the end of it. A handler that is called runs to its end
before the next call, while the other threads go on.

Every request has a number. A client may go away before it has sent all of its body; nothing then frees
the buffer, which only the last call of a POST does.

The body of a POST is copied into a buffer of 1024 bytes. A longer one may overrun it, into what is next to it
in memory; POSTs with a body of 1024 bytes or more are left out (`Request.Fresh`). No other method has a buffer.
-/

import ServerPump.Server.Broker

namespace ServerPump

open CText

/-! ### Requests and answers -/

/-- A request, as far as it has been read. -/
structure Request where
  method : String
  url : String
  /-- the arguments of the query -/
  arguments : List (String × Option (List UInt8)) := []
  /-- the bytes of the body that have not been passed yet -/
  upload : List UInt8 := []
  /-- `*con_cls` -/
  conCls : Option (List UInt8) := none
  deriving DecidableEq

/-- What `MHD_queue_response` is given. -/
structure Answer where
  statusCode : ℕ
  headers : List (String × String)
  body : List UInt8
  deriving DecidableEq

/-- What the environment answers while a request is handled. -/
structure RequestIo where
  allocated : Bool := true
  published : Bool := true
  prepared : Bool := true
  now : Int64 := 0
  gateway : GatewayHardwareStatus := {}

/-- Where a request is. -/
inductive RequestState
  | unused
  | reading (request : Request)
  | handling (request : Request) (endpoint : Endpoint) (published : Bool)
  | answered (answer : Answer)
  /-- over, and whether its buffer is left behind -/
  | closed (leaked : Bool)

/-- The end of `handle_request`. -/
def jsonAnswer (statusCode : ℕ) (body : List UInt8) : Answer where
  statusCode := statusCode
  headers := [("Access-Control-Allow-Origin", "*"), ("Content-Type", "application/json")]
  body := body

/-- The answer of an endpoint, from the state its handler reads. -/
def answerOf (jsonC : JsonC) (sqlite : Sqlite) (io : RequestIo) (published : Bool) (request : Request)
    (side : PumpSide) : Endpoint → Answer
  | .options =>
    { statusCode := 204
      headers := [("Access-Control-Allow-Origin", "*"),
        ("Access-Control-Allow-Methods", "GET, POST, OPTIONS"),
        ("Access-Control-Allow-Headers", "Content-Type")]
      body := [] }
  | .control _ => jsonAnswer 200 (handlePumpControl published side.current)
  | .feedback payload =>
    -- the code depends on the payload alone
    jsonAnswer (handlePumpFeedback jsonC { now := io.now } payload side).1
      (ascii "\x7b\"status\":\"ok\"\x7d")
  | .pumpStatus => jsonAnswer 200 (handlePumpStatus side.current)
  | .pumpHistory =>
    jsonAnswer 200
      (handlePumpHistory sqlite io.prepared (some side.tables.pumpSnapshots) request.arguments)
  | .gatewayStatus => jsonAnswer 200 (handleGatewayStatus io.now io.gateway)
  | .notFound => jsonAnswer 404 (ascii "\x7b\"error\":\"Not found\"\x7d")
  | .notAllowed => jsonAnswer 405 (ascii "\x7b\"error\":\"Not allowed\"\x7d")

/-! ### The thread -/

structure Daemon where
  world : World := {}
  requests : ℕ → RequestState := fun _ => .unused
  /-- the number of the next request -/
  opened : ℕ := 0
  /-- the request whose handler the thread is in -/
  inside : Option ℕ := none
  /-- the buffers allocated and not freed -/
  buffers : ℕ := 0

/-- What happens next. -/
inductive DaemonLabel
  /-- the threads that are not the daemon's, or a step of a handler -/
  | world (label : WorldLabel)
  | openRequest (request : Request)
  /-- `handle_request` is called, with so many bytes and one more if there are any left -/
  | call (id size : ℕ) (io : RequestIo)
  /-- the handler returns -/
  | finish (io : RequestIo)
  /-- the client has its answer -/
  | receive (id : ℕ)
  /-- the client goes away -/
  | abort (id : ℕ)

/-- What happens outside of the daemon's thread; the ends of POSTs are its own. -/
def WorldLabel.Outside : WorldLabel → Prop
  | .controlPost _ _ => False
  | .feedbackPost _ => False
  | _ => True

instance : DecidablePred WorldLabel.Outside
  | .controlPost _ _ | .feedbackPost _ => .isFalse not_false
  | .publish _ _ | .deliver _ | .acknowledge _ | .resend _ | .step _ _ _ | .publishStatus => .isTrue trivial

namespace Request

/-- The bytes of the next call: none at the first. -/
def chunk (size : ℕ) (request : Request) : List UInt8 :=
  if request.conCls.isSome then request.upload.take (size + 1) else []

/-- The call of `handle_request`. -/
def outcome (allocated : Bool) (size : ℕ) (request : Request) : Outcome :=
  handleRequest allocated request.method request.url (request.chunk size) request.conCls

/-- The request, when the call has not answered it. -/
def proceed (size : ℕ) (postBuffer : List UInt8) (request : Request) : Request :=
  { request with upload := request.upload.drop (request.chunk size).length, conCls := some postBuffer }

/-- A request that arrives: it has no buffer yet, and if it is a POST its body will fit into one. -/
def Fresh (request : Request) : Prop :=
  request.conCls = none ∧ (request.method = "POST" → request.upload.length < postBufferSize)

instance (request : Request) : Decidable request.Fresh :=
  inferInstanceAs (Decidable (_ ∧ (_ → _)))

/-- The number of its buffers. -/
def held (request : Request) : ℕ := if request.conCls.isSome then 1 else 0

end Request

/-- What an endpoint does to the pumps and the broker before its handler reads the state. -/
def Endpoint.effect (published : Bool) : Endpoint → Option WorldLabel
  | .control payload => some (.controlPost payload published)
  | .feedback payload => some (.feedbackPost payload)
  | _ => none

namespace Daemon

def become (id : ℕ) (state : RequestState) (daemon : Daemon) : Daemon :=
  { daemon with requests := Function.update daemon.requests id state }

/-- The thread is in no handler. -/
def Free (daemon : Daemon) : Prop := daemon.inside = none ∧ daemon.world.machine.Waiting .http

instance (daemon : Daemon) : Decidable daemon.Free :=
  inferInstanceAs (Decidable (daemon.inside = none ∧ daemon.world.machine.Waiting .http))

def onWorld (jsonC : JsonC) (label : Option WorldLabel) (daemon : Daemon) : Daemon :=
  { daemon with world := Runs.run (World.next jsonC) daemon.world label.toList }

/-- `handle_request` is called for a request. -/
def call (jsonC : JsonC) (id size : ℕ) (io : RequestIo) (daemon : Daemon) : Daemon :=
  match daemon.requests id with
  | .reading request =>
    if daemon.Free then
      match request.outcome io.allocated size with
      | .refuse => daemon.become id (.closed false)
      | .proceed postBuffer =>
        { daemon.become id (.reading (request.proceed size postBuffer)) with
          buffers := daemon.buffers + (1 - request.held) }
      | .answer endpoint =>
        { (daemon.become id (.handling request endpoint io.published)).onWorld jsonC
            (endpoint.effect io.published) with
          inside := some id }
    else daemon
  | _ => daemon

/-- The handler returns, and the buffer is freed. -/
def finish (jsonC : JsonC) (sqlite : Sqlite) (io : RequestIo) (daemon : Daemon) : Daemon :=
  match daemon.inside with
  | some id =>
    match daemon.requests id with
    | .handling request endpoint published =>
      if daemon.world.machine.Waiting .http then
        { daemon.become id
            (.answered (answerOf jsonC sqlite io published request daemon.world.machine.side endpoint)) with
          inside := none
          buffers := daemon.buffers - request.held }
      else daemon
    | _ => daemon
  | none => daemon

def receive (id : ℕ) (daemon : Daemon) : Daemon :=
  match daemon.requests id with
  | .answered _ => daemon.become id (.closed false)
  | _ => daemon

def abort (id : ℕ) (daemon : Daemon) : Daemon :=
  match daemon.requests id with
  | .reading request => daemon.become id (.closed request.conCls.isSome)
  | _ => daemon

/-- A new request, of which nothing has been read. One that is not `Fresh` is left out. -/
def openRequest (request : Request) (daemon : Daemon) : Daemon :=
  if request.Fresh then
    { daemon.become daemon.opened (.reading request) with opened := daemon.opened + 1 }
  else daemon

def next (jsonC : JsonC) (sqlite : Sqlite) (daemon : Daemon) : DaemonLabel → Daemon
  | .world label => if label.Outside then daemon.onWorld jsonC (some label) else daemon
  | .openRequest request => daemon.openRequest request
  | .call id size io => daemon.call jsonC id size io
  | .finish io => daemon.finish jsonC sqlite io
  | .receive id => daemon.receive id
  | .abort id => daemon.abort id

end Daemon

end ServerPump
