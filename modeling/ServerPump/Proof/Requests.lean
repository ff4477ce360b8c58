/-
**Requests on one thread: each is handled as if it were the only one.**

The calls of `handle_request` for the open requests come in any order, and what a request keeps between
its calls is in its own buffer. So the handlers are called with what their own requests have sent, and the
pumps and the broker see one request after the other.

* `progress_call`: one call, for its own request.
* `tracked_next`: the invariant, with what the run has given off.
* `openings_eq`: the requests that are opened are those the clients send, if their bodies fit.
* `requests_isolated`: in every run with such bodies, each POST calls its handler at most once, exactly as the
  request does on its own, and the state of the pumps is that of these calls.
-/

import ServerPump.Proof.PostChunks
import ServerPump.Server.Daemon

namespace ServerPump

open Runs

/-! ### The law -/

/-- What a run gives off: requests that are opened, handlers that are called, and what happens outside. -/
inductive DaemonEvent
  | opened (request : Request)
  | called (id : ℕ) (endpoint : Endpoint) (published : Bool)
  | outside (label : WorldLabel)
  deriving DecidableEq

/-- What it does to the pumps and the broker. -/
def DaemonEvent.onWorld : DaemonEvent → Option WorldLabel
  | opened _ => none
  | called _ endpoint published => endpoint.effect published
  | outside label => some label

def DaemonEvent.request? : DaemonEvent → Option Request
  | opened request => some request
  | _ => none

/-- The request a client sends. -/
def DaemonLabel.request? : DaemonLabel → Option Request
  | openRequest request => some request
  | _ => none

/-- The handler called for a request. -/
def DaemonEvent.callOf (id : ℕ) : DaemonEvent → Option Endpoint
  | called other endpoint _ => if other = id then some endpoint else none
  | _ => none

/-- The handler that a call of `handle_request` reaches. -/
def Daemon.reaches (id size : ℕ) (io : RequestIo) (daemon : Daemon) : Option DaemonEvent :=
  match daemon.requests id with
  | .reading request =>
    if daemon.Free then
      match request.outcome io.allocated size with
      | .answer endpoint => some (.called id endpoint io.published)
      | _ => none
    else none
  | _ => none

/-- What a step gives off. -/
def Daemon.emits (daemon : Daemon) : DaemonLabel → List DaemonEvent
  | .world label => if label.Outside then [.outside label] else []
  | .openRequest request => if request.Fresh then [.opened request] else []
  | .call id size io => (daemon.reaches id size io).toList
  | _ => []

section Isolated

variable (jsonC : JsonC) (sqlite : Sqlite)

/-- What a run gives off, from the start of the server. -/
def daemonEvents (labels : List DaemonLabel) : List DaemonEvent :=
  emitted (Daemon.next jsonC sqlite) Daemon.emits {} labels

/-- The requests that are opened, by their numbers. -/
def openings (events : List DaemonEvent) : List Request := events.filterMap DaemonEvent.request?

/-- The handlers called for a request. -/
def callsOf (id : ℕ) (events : List DaemonEvent) : List Endpoint :=
  events.filterMap (DaemonEvent.callOf id)

/-- The handlers called for a POST are those of the request on its own. -/
def AsAlone (request : Request) (target : PostTarget) (calls : List Endpoint) : Prop :=
  ∃ chunks : List Chunk, bodyOf chunks = request.upload ∧ calls = handlerCalls target.url chunks

/-- The request has been handled. -/
def RequestState.Handled : RequestState → Prop
  | .handling _ _ _ => True
  | .answered _ => True
  | _ => False

/-- **The law** for the requests that were sent: the handler of a POST is called once with what the request has
sent, or it has not been called, and then the request has no answer. -/
structure Isolated (sent : List Request) (events : List DaemonEvent) (daemon : Daemon) : Prop where
  world : daemon.world = run (World.next jsonC) {} (events.filterMap DaemonEvent.onWorld)
  posts : ∀ (id : ℕ) (request : Request) (target : PostTarget), sent[id]? = some request →
    request.method = "POST" → request.url = target.url →
      AsAlone request target (callsOf id events) ∨
        (callsOf id events = [] ∧ ¬ (daemon.requests id).Handled)

end Isolated

/-! ### One request -/

/-- What has been read of a request: nothing, or some chunks of a POST. -/
structure Partial (request now : Request) : Prop where
  method : now.method = request.method
  url : now.url = request.url
  arguments : now.arguments = request.arguments
  body : (now.conCls = none ∧ now.upload = request.upload) ∨
    (request.method = "POST" ∧ ∃ chunks : List Chunk, bodyOf chunks ++ now.upload = request.upload ∧
      now.conCls = some (chunks.flatMap fun chunk => CText.cstr chunk.bytes))

/-- The endpoint is that of a request all of which has been read. -/
structure Selected (request : Request) (endpoint : Endpoint) : Prop where
  post : request.method = "POST" → ∃ chunks : List Chunk, bodyOf chunks = request.upload ∧
    handleRequest true "POST" request.url [] (some (chunks.flatMap fun chunk => CText.cstr chunk.bytes)) =
      .answer endpoint
  other : request.method ≠ "POST" → handleRequest true request.method request.url [] none = .answer endpoint

/-- Where a request is, and the handlers called for it so far. -/
def Progress (request : Request) (calls : List Endpoint) : RequestState → Prop
  | .unused => False
  | .reading now => Partial request now ∧ calls = []
  | .handling now endpoint _ => (Partial request now ∧ Selected request endpoint) ∧ calls = [endpoint]
  | .answered _ => ∃ endpoint, Selected request endpoint ∧ calls = [endpoint]
  | .closed _ => calls = [] ∨ ∃ endpoint, Selected request endpoint ∧ calls = [endpoint]

theorem partial_fresh {request : Request} (fresh : request.Fresh) : Partial request request where
  method := rfl
  url := rfl
  arguments := rfl
  body := .inl ⟨fresh.1, rfl⟩

section Call

variable {request now : Request}

/-- The first call of a POST. -/
theorem handleRequest_first (allocated : Bool) (url : String) (data : List UInt8) :
    handleRequest allocated "POST" url data none = if allocated then .proceed [] else .refuse := by
  cases allocated <;> rfl

/-- A call for a chunk. -/
theorem handleRequest_chunk (allocated : Bool) (url : String) (postBuffer : List UInt8) (chunk : Chunk) :
    handleRequest allocated "POST" url chunk.bytes (some postBuffer) =
      .proceed (postBuffer ++ CText.cstr chunk.bytes) :=
  uploadStep_proceed url postBuffer chunk

/-- Only a POST has more than one call. -/
theorem handleRequest_other {method : String} (other : method ≠ "POST") (allocated : Bool) (url : String)
    (data : List UInt8) (conCls : Option (List UInt8)) :
    ∃ endpoint, handleRequest allocated method url data conCls = .answer endpoint ∧
      handleRequest true method url [] none = .answer endpoint := by
  unfold handleRequest
  rw [if_neg other]
  split_ifs <;> exact ⟨_, rfl, rfl⟩

/-- **One call for a request**, of which some has been read. -/
theorem outcome_cases (so : Partial request now) (allocated : Bool) (size : ℕ) :
    now.outcome allocated size = .refuse ∨
      (∃ postBuffer, now.outcome allocated size = .proceed postBuffer ∧
        Partial request (now.proceed size postBuffer)) ∨
      ∃ endpoint, now.outcome allocated size = .answer endpoint ∧ Selected request endpoint := by
  unfold Request.outcome
  rw [so.method, so.url]
  by_cases post : request.method = "POST"
  · rw [post]
    rcases so.body with ⟨first, whole⟩ | ⟨-, chunks, rest, begun⟩
    · -- the first call
      have nothing : now.chunk size = [] := by rw [Request.chunk, first]; rfl
      rw [first, handleRequest_first]
      cases allocated
      · exact .inl rfl
      · refine .inr (.inl ⟨[], rfl, so.method, so.url, so.arguments, .inr ⟨post, [], ?_, rfl⟩⟩)
        rw [Request.proceed, nothing]
        exact whole
    · have passed : now.chunk size = now.upload.take (size + 1) := by rw [Request.chunk, begun]; rfl
      rw [begun]
      by_cases empty : now.upload = []
      · -- the end of the body
        rw [passed, empty, List.take_nil]
        rw [empty, List.append_nil] at rest
        have selected : ∃ endpoint, handleRequest allocated "POST" request.url []
            (some (chunks.flatMap fun chunk => CText.cstr chunk.bytes)) = .answer endpoint := by
          unfold handleRequest
          split_ifs <;> first | exact ⟨_, rfl⟩ | contradiction
        obtain ⟨endpoint, answers⟩ := selected
        exact .inr (.inr ⟨endpoint, answers, fun _ => ⟨chunks, rest, answers⟩, fun other => absurd post other⟩)
      · -- a chunk
        have some_byte : now.chunk size ≠ [] := by
          rw [passed, ne_eq, List.take_eq_nil_iff]
          exact not_or.mpr ⟨Nat.succ_ne_zero size, empty⟩
        let chunk : Chunk := ⟨now.chunk size, some_byte⟩
        refine .inr (.inl ⟨_, handleRequest_chunk allocated request.url _ chunk, so.method, so.url,
          so.arguments, .inr ⟨post, chunks ++ [chunk], ?_, ?_⟩⟩)
        · rw [← rest, bodyOf, List.flatMap_append, List.flatMap_singleton, List.append_assoc]
          refine congrArg (bodyOf chunks ++ ·) ?_
          show now.chunk size ++ now.upload.drop (now.chunk size).length = now.upload
          rw [passed, List.length_take]
          rcases Nat.le_total (size + 1) now.upload.length with le | le
          · rw [Nat.min_eq_left le, List.take_append_drop]
          · rw [Nat.min_eq_right le, List.take_of_length_le le, List.drop_length, List.append_nil]
        · rw [List.flatMap_append, List.flatMap_singleton]
          rfl
  · obtain ⟨endpoint, answers, alone⟩ :=
      handleRequest_other post allocated request.url (now.chunk size) now.conCls
    exact .inr (.inr ⟨endpoint, answers, fun is_post => absurd is_post post, fun _ => alone⟩)

theorem partial_of_proceed (so : Partial request now) {allocated : Bool} {size : ℕ}
    {postBuffer : List UInt8} (outcome : now.outcome allocated size = .proceed postBuffer) :
    Partial request (now.proceed size postBuffer) := by
  rcases outcome_cases so allocated size with refused | ⟨_, goes_on, more⟩ | ⟨_, ends, -⟩
  · cases outcome.symm.trans refused
  · cases outcome.symm.trans goes_on
    exact more
  · cases outcome.symm.trans ends

theorem selected_of_answer (so : Partial request now) {allocated : Bool} {size : ℕ}
    {endpoint : Endpoint} (outcome : now.outcome allocated size = .answer endpoint) :
    Selected request endpoint := by
  rcases outcome_cases so allocated size with refused | ⟨_, goes_on, -⟩ | ⟨_, ends, selected⟩
  · cases outcome.symm.trans refused
  · cases outcome.symm.trans goes_on
  · cases outcome.symm.trans ends
    exact selected

end Call

/-! ### What a step does -/

section Steps

variable (jsonC : JsonC) (sqlite : Sqlite) (daemon : Daemon) (id size : ℕ) (io : RequestIo)

/-- What a call of `handle_request` does, and what it reaches. -/
inductive Called : Daemon → Option DaemonEvent → Prop
  | idle : Called daemon none
  | refused {now : Request} (here : daemon.requests id = .reading now)
      (outcome : now.outcome io.allocated size = .refuse) : Called (daemon.become id (.closed false)) none
  | passed {now : Request} {postBuffer : List UInt8} (here : daemon.requests id = .reading now)
      (outcome : now.outcome io.allocated size = .proceed postBuffer) :
      Called
        { daemon.become id (.reading (now.proceed size postBuffer)) with
          buffers := daemon.buffers + (1 - now.held) } none
  | ended {now : Request} {endpoint : Endpoint} (here : daemon.requests id = .reading now)
      (free : daemon.Free) (outcome : now.outcome io.allocated size = .answer endpoint) :
      Called
        { (daemon.become id (.handling now endpoint io.published)).onWorld jsonC
            (endpoint.effect io.published) with
          inside := some id }
        (some (.called id endpoint io.published))

theorem called_call :
    Called jsonC daemon id size io (daemon.call jsonC id size io) (daemon.reaches id size io) := by
  unfold Daemon.call Daemon.reaches
  cases here : daemon.requests id with
  | reading now =>
    dsimp only
    by_cases free : daemon.Free
    · rw [if_pos free, if_pos free]
      cases outcome : now.outcome io.allocated size with
      | refuse => exact .refused here outcome
      | proceed postBuffer => exact .passed here outcome
      | answer endpoint => exact .ended here free outcome
    · rw [if_neg free, if_neg free]
      exact .idle
  | unused | handling | answered | closed => exact .idle

/-- What the return of a handler does. -/
inductive Finished : Daemon → Prop
  | idle : Finished daemon
  | returned {id : ℕ} {now : Request} {endpoint : Endpoint} {published : Bool}
      (inside : daemon.inside = some id) (here : daemon.requests id = .handling now endpoint published)
      (waiting : daemon.world.machine.Waiting .http) :
      Finished
        { daemon.become id
            (.answered (answerOf jsonC sqlite io published now daemon.world.machine.side endpoint)) with
          inside := none
          buffers := daemon.buffers - now.held }

theorem finished_finish : Finished jsonC sqlite daemon io (daemon.finish jsonC sqlite io) := by
  unfold Daemon.finish
  split
  · rename_i id inside
    split
    · rename_i now endpoint published here
      split_ifs with waiting
      · exact .returned inside here waiting
      · exact .idle
    · exact .idle
  · exact .idle

/-- What happens when a client leaves, with or without its answer. -/
inductive Left : Daemon → Prop
  | idle : Left daemon
  | received {answer : Answer} (here : daemon.requests id = .answered answer) :
      Left (daemon.become id (.closed false))
  | aborted {now : Request} (here : daemon.requests id = .reading now) :
      Left (daemon.become id (.closed now.conCls.isSome))

theorem left_receive : Left daemon id (daemon.receive id) := by
  unfold Daemon.receive
  split
  · rename_i answer here
    exact .received here
  · exact .idle

theorem left_abort : Left daemon id (daemon.abort id) := by
  unfold Daemon.abort
  split
  · rename_i now here
    exact .aborted here
  · exact .idle

end Steps

/-! ### All requests -/

/-- The invariant: every request is where it would be on its own. -/
structure Tracked (jsonC : JsonC) (events : List DaemonEvent) (daemon : Daemon) : Prop where
  world : daemon.world = run (World.next jsonC) {} (events.filterMap DaemonEvent.onWorld)
  opened : daemon.opened = (openings events).length
  unused : ∀ id, daemon.opened ≤ id → daemon.requests id = .unused ∧ callsOf id events = []
  each : ∀ (id : ℕ) (request : Request), (openings events)[id]? = some request →
    Progress request (callsOf id events) (daemon.requests id)

section Tracked

variable {jsonC : JsonC} {events : List DaemonEvent} {daemon : Daemon}

theorem tracked_initial (jsonC : JsonC) : Tracked jsonC [] {} where
  world := rfl
  opened := rfl
  unused _ _ := ⟨rfl, rfl⟩
  each _ _ found := by cases found

theorem become_requests (daemon : Daemon) (id other : ℕ) (state : RequestState) :
    (daemon.become id state).requests other = if other = id then state else daemon.requests other :=
  Function.update_apply ..

/-- A number is that of a request as soon as something has happened to it. -/
theorem used_of_tracked (tracked : Tracked jsonC events daemon) {id : ℕ}
    (used : daemon.requests id ≠ .unused) : id < daemon.opened :=
  Nat.lt_of_not_le fun le => used (tracked.unused id le).1

/-- **One request moves on**, and its handler is not called. -/
theorem tracked_become (tracked : Tracked jsonC events daemon) {id : ℕ} (state : RequestState)
    (used : daemon.requests id ≠ .unused)
    (moves : ∀ request, Progress request (callsOf id events) (daemon.requests id) →
      Progress request (callsOf id events) state) : Tracked jsonC events (daemon.become id state) where
  world := tracked.world
  opened := tracked.opened
  unused other le := by
    have different : other ≠ id := by
      rintro rfl
      exact absurd (used_of_tracked tracked used) (Nat.not_lt.mpr le)
    rw [become_requests, if_neg different]
    exact tracked.unused other le
  each other request found := by
    rw [become_requests]
    split_ifs with same
    · subst same
      exact moves request (tracked.each other request found)
    · exact tracked.each other request found

/-- One more event, that opens no request. -/
theorem openings_concat {event : DaemonEvent} (other : event.request? = none) (events : List DaemonEvent) :
    openings (events ++ [event]) = openings events := by
  rw [openings, List.filterMap_append, List.filterMap_cons_none other, List.filterMap_nil, List.append_nil]
  rfl

theorem openings_opened (events : List DaemonEvent) (request : Request) :
    openings (events ++ [.opened request]) = openings events ++ [request] := List.filterMap_append

/-- One more event, that is no call for the request. -/
theorem callsOf_concat {id : ℕ} {event : DaemonEvent} (other : event.callOf id = none)
    (events : List DaemonEvent) : callsOf id (events ++ [event]) = callsOf id events := by
  rw [callsOf, List.filterMap_append, List.filterMap_cons_none other, List.filterMap_nil, List.append_nil]
  rfl

theorem callsOf_other {id other : ℕ} (different : id ≠ other) (events : List DaemonEvent)
    (endpoint : Endpoint) (published : Bool) :
    callsOf other (events ++ [.called id endpoint published]) = callsOf other events := by
  have another : (DaemonEvent.called id endpoint published).callOf other = none := if_neg different
  exact callsOf_concat another events

theorem callsOf_called (id : ℕ) (events : List DaemonEvent) (endpoint : Endpoint) (published : Bool) :
    callsOf id (events ++ [.called id endpoint published]) = callsOf id events ++ [endpoint] := by
  have called : (DaemonEvent.called id endpoint published).callOf id = some endpoint := if_pos rfl
  rw [callsOf, List.filterMap_append, List.filterMap_cons_some called]
  rfl

theorem run_onWorld_concat (jsonC : JsonC) (events : List DaemonEvent) (event : DaemonEvent) :
    run (World.next jsonC) {} ((events ++ [event]).filterMap DaemonEvent.onWorld) =
      run (World.next jsonC) (run (World.next jsonC) {} (events.filterMap DaemonEvent.onWorld))
        event.onWorld.toList := by
  rw [List.filterMap_append, run_append]
  cases event with
  | opened request => rfl
  | called id endpoint published => cases endpoint <;> rfl
  | outside label => rfl

theorem tracked_outside (tracked : Tracked jsonC events daemon) (label : WorldLabel) :
    Tracked jsonC (events ++ [.outside label]) (daemon.onWorld jsonC (some label)) where
  world := by
    rw [run_onWorld_concat, ← tracked.world]
    rfl
  opened := tracked.opened.trans (by rw [openings_concat rfl])
  unused id le := by
    rw [callsOf_concat rfl]
    exact tracked.unused id le
  each id request found := by
    rw [callsOf_concat rfl]
    rw [openings_concat rfl] at found
    exact tracked.each id request found

theorem openRequest_requests {request : Request} (fresh : request.Fresh) (daemon : Daemon) (id : ℕ) :
    (daemon.openRequest request).requests id =
      if id = daemon.opened then .reading request else daemon.requests id := by
  rw [Daemon.openRequest, if_pos fresh]
  exact become_requests ..

theorem openRequest_opened {request : Request} (fresh : request.Fresh) (daemon : Daemon) :
    (daemon.openRequest request).opened = daemon.opened + 1 := by
  rw [Daemon.openRequest, if_pos fresh]

theorem openRequest_world (request : Request) (daemon : Daemon) :
    (daemon.openRequest request).world = daemon.world := by
  unfold Daemon.openRequest
  split_ifs <;> rfl

/-- **A new request** has the next number. -/
theorem tracked_openRequest (tracked : Tracked jsonC events daemon) {request : Request}
    (fresh : request.Fresh) :
    Tracked jsonC (events ++ [.opened request]) (daemon.openRequest request) where
  world := by
    rw [run_onWorld_concat, ← tracked.world, openRequest_world]
    rfl
  opened := by
    rw [openings_opened, List.length_append, ← tracked.opened, openRequest_opened fresh]
    rfl
  unused id le := by
    rw [openRequest_opened fresh] at le
    rw [callsOf_concat rfl, openRequest_requests fresh, if_neg (Nat.ne_of_gt le)]
    exact tracked.unused id (Nat.le_of_lt le)
  each id other found := by
    rw [callsOf_concat rfl, openRequest_requests fresh]
    rw [openings_opened, List.getElem?_append, ← tracked.opened] at found
    split_ifs at found with before
    · rw [if_neg (Nat.ne_of_lt before)]
      exact tracked.each id other found
    · rw [List.getElem?_singleton] at found
      split_ifs at found with last
      cases found
      have same : id = daemon.opened := by omega
      rw [if_pos same]
      exact ⟨partial_fresh fresh, (tracked.unused id (Nat.not_lt.mp before)).2⟩

/-- The handler of a request is called. -/
theorem tracked_called (tracked : Tracked jsonC events daemon) {id : ℕ} {now : Request}
    {endpoint : Endpoint} (published : Bool) (here : daemon.requests id = .reading now)
    (selected : ∀ request, Partial request now → Selected request endpoint) :
    Tracked jsonC (events ++ [.called id endpoint published])
      ((daemon.become id (.handling now endpoint published)).onWorld jsonC
        (endpoint.effect published)) where
  world := by
    rw [run_onWorld_concat, ← tracked.world]
    rfl
  opened := tracked.opened.trans (by rw [openings_concat rfl])
  unused other le := by
    have used : id < daemon.opened := used_of_tracked tracked (by rw [here]; nofun)
    have different : id ≠ other := Nat.ne_of_lt (Nat.lt_of_lt_of_le used le)
    rw [callsOf_other different]
    exact ⟨(Function.update_of_ne different.symm ..).trans (tracked.unused other le).1,
      (tracked.unused other le).2⟩
  each other request found := by
    rw [openings_concat rfl] at found
    have before := tracked.each other request found
    show Progress request _ ((daemon.become id _).requests other)
    rw [become_requests]
    split_ifs with same
    · subst same
      rw [here] at before
      rw [callsOf_called, before.2]
      exact ⟨⟨before.1, selected request before.1⟩, rfl⟩
    · rw [callsOf_other (Ne.symm same)]
      exact before

/-- **`handle_request` is called.** -/
theorem tracked_call (tracked : Tracked jsonC events daemon) (id size : ℕ) (io : RequestIo) :
    Tracked jsonC (events ++ (daemon.reaches id size io).toList) (daemon.call jsonC id size io) := by
  have called := called_call jsonC daemon id size io
  revert called
  generalize daemon.call jsonC id size io = after
  generalize daemon.reaches id size io = reached
  intro called
  cases called with
  | idle =>
    rw [Option.toList_none, List.append_nil]
    exact tracked
  | refused here outcome =>
    rw [Option.toList_none, List.append_nil]
    refine tracked_become tracked (.closed _) (by rw [here]; nofun) fun request before => ?_
    rw [here] at before
    exact .inl before.2
  | @passed now postBuffer here outcome =>
    rw [Option.toList_none, List.append_nil]
    have moved := tracked_become tracked (.reading (now.proceed size postBuffer))
      (show daemon.requests id ≠ .unused by rw [here]; nofun) fun request before => by
        rw [here] at before
        exact ⟨partial_of_proceed before.1 outcome, before.2⟩
    exact ⟨moved.world, moved.opened, moved.unused, moved.each⟩
  | ended here free outcome =>
    have moved := tracked_called tracked io.published here fun request before => selected_of_answer before outcome
    exact ⟨moved.world, moved.opened, moved.unused, moved.each⟩

theorem tracked_finish (tracked : Tracked jsonC events daemon) (sqlite : Sqlite) (io : RequestIo) :
    Tracked jsonC events (daemon.finish jsonC sqlite io) := by
  have finished := finished_finish jsonC sqlite daemon io
  revert finished
  generalize daemon.finish jsonC sqlite io = after
  intro finished
  cases finished with
  | idle => exact tracked
  | @returned id now endpoint published inside here waiting =>
    have moved := tracked_become tracked
      (.answered (answerOf jsonC sqlite io published now daemon.world.machine.side endpoint))
      (show daemon.requests id ≠ .unused by rw [here]; nofun) fun request before => by
        rw [here] at before
        exact ⟨endpoint, before.1.2, before.2⟩
    exact ⟨moved.world, moved.opened, moved.unused, moved.each⟩

theorem tracked_left (tracked : Tracked jsonC events daemon) {id : ℕ} {after : Daemon}
    (left : Left daemon id after) : Tracked jsonC events after := by
  cases left with
  | idle => exact tracked
  | received here =>
    refine tracked_become tracked (.closed _) (by rw [here]; nofun) fun request before => ?_
    rw [here] at before
    exact .inr before
  | aborted here =>
    refine tracked_become tracked (.closed _) (by rw [here]; nofun) fun request before => ?_
    rw [here] at before
    exact .inl before.2

/-- **The invariant is kept by every step.** -/
theorem tracked_next (jsonC : JsonC) (sqlite : Sqlite) (events : List DaemonEvent) (daemon : Daemon)
    (label : DaemonLabel) (tracked : Tracked jsonC events daemon) :
    Tracked jsonC (events ++ daemon.emits label) (daemon.next jsonC sqlite label) := by
  cases label with
  | world label =>
    show Tracked jsonC (events ++ if label.Outside then [.outside label] else [])
      (if label.Outside then daemon.onWorld jsonC (some label) else daemon)
    split_ifs with outside
    · exact tracked_outside tracked label
    · rw [List.append_nil]
      exact tracked
  | openRequest request =>
    show Tracked jsonC (events ++ if request.Fresh then [.opened request] else [])
      (daemon.openRequest request)
    split_ifs with fresh
    · exact tracked_openRequest tracked fresh
    · rw [List.append_nil, Daemon.openRequest, if_neg fresh]
      exact tracked
  | call id size io => exact tracked_call tracked id size io
  | finish io => exact (List.append_nil events).symm ▸ tracked_finish tracked sqlite io
  | receive id => exact (List.append_nil events).symm ▸ tracked_left tracked (left_receive daemon id)
  | abort id => exact (List.append_nil events).symm ▸ tracked_left tracked (left_abort daemon id)

/-- **The invariant, in every run.** -/
theorem tracked_run (jsonC : JsonC) (sqlite : Sqlite) (labels : List DaemonLabel) :
    Tracked jsonC (daemonEvents jsonC sqlite labels) (run (Daemon.next jsonC sqlite) {} labels) :=
  invariant_emitted (tracked_next jsonC sqlite) (tracked_initial jsonC) labels

end Tracked

/-! ### The handlers -/

theorem handleRequest_target (target : PostTarget) (postBuffer : List UInt8) :
    handleRequest true "POST" target.url [] (some postBuffer) = .answer (target.endpoint postBuffer) := by
  cases target <;> rfl

/-- The handler selected for a POST to one of the two URLs is that of the request on its own. -/
theorem asAlone_of_selected {request : Request} {endpoint : Endpoint} {target : PostTarget}
    (post : request.method = "POST") (url : request.url = target.url)
    (selected : Selected request endpoint) : AsAlone request target [endpoint] := by
  obtain ⟨chunks, whole, answers⟩ := selected.post post
  rw [url, handleRequest_target] at answers
  cases answers
  exact ⟨chunks, whole, (handlerCalls_eq target chunks).symm⟩

/-- Where every request is as it would be on its own, each POST is handled as if it were the only one. -/
theorem isolated_of_tracked {jsonC : JsonC} {events : List DaemonEvent} {daemon : Daemon}
    (tracked : Tracked jsonC events daemon) : Isolated jsonC (openings events) events daemon where
  world := tracked.world
  posts id request target found post url := by
    have progress := tracked.each id request found
    revert progress
    cases daemon.requests id with
    | unused => exact False.elim
    | reading now => exact fun progress => .inr ⟨progress.2, fun handled => handled⟩
    | handling now endpoint published =>
      intro progress
      rw [progress.2]
      exact .inl (asAlone_of_selected post url progress.1.2)
    | answered answer =>
      rintro ⟨endpoint, selected, called⟩
      rw [called]
      exact .inl (asAlone_of_selected post url selected)
    | closed leaked =>
      rintro (none_called | ⟨endpoint, selected, called⟩)
      · exact .inr ⟨none_called, fun handled => handled⟩
      · rw [called]
        exact .inl (asAlone_of_selected post url selected)

/-- **Every request that a client sends is opened**, in its place, if the bodies of the POSTs fit. -/
theorem openings_eq (jsonC : JsonC) (sqlite : Sqlite) {labels : List DaemonLabel}
    (fit : ∀ request ∈ labels.filterMap DaemonLabel.request?, request.Fresh) :
    openings (daemonEvents jsonC sqlite labels) = labels.filterMap DaemonLabel.request? := by
  unfold daemonEvents
  generalize ({} : Daemon) = daemon
  induction labels generalizing daemon with
  | nil => rfl
  | cons label rest ih =>
    have given : openings (daemon.emits label) = label.request?.toList := by
      cases label with
      | openRequest request =>
        have fresh : request.Fresh := fit request List.mem_cons_self
        rw [Daemon.emits, if_pos fresh]
        rfl
      | world label =>
        unfold Daemon.emits
        dsimp only
        split_ifs <;> rfl
      | call id size io =>
        show openings (daemon.reaches id size io).toList = []
        have called := called_call jsonC daemon id size io
        revert called
        generalize daemon.call jsonC id size io = after
        generalize daemon.reaches id size io = reached
        intro called
        cases called <;> rfl
      | finish | receive | abort => rfl
    have later := ih (fun request inside => fit request ?_) (daemon.next jsonC sqlite label)
    · rw [emitted, openings, List.filterMap_append]
      show openings (daemon.emits label) ++ openings _ = _
      rw [given, later, List.filterMap_cons]
      cases label.request? <;> rfl
    · rw [List.filterMap_cons]
      cases label.request? with
      | none => exact inside
      | some _ => exact List.mem_cons_of_mem _ inside

/-- **Each request is handled as if it were the only one**, in every run in which the bodies of all POSTs fit
into their buffers. -/
theorem requests_isolated (jsonC : JsonC) (sqlite : Sqlite) (labels : List DaemonLabel)
    (fit : ∀ request ∈ labels.filterMap DaemonLabel.request?, request.Fresh) :
    Isolated jsonC (labels.filterMap DaemonLabel.request?) (daemonEvents jsonC sqlite labels)
      (run (Daemon.next jsonC sqlite) {} labels) := by
  rw [← openings_eq jsonC sqlite fit]
  exact isolated_of_tracked (tracked_run jsonC sqlite labels)

/-- A command and a report are posted at the same time, in two chunks and in one. -/
def postedTogether : List DaemonLabel :=
  let command : Request :=
    { method := "POST", url := "/api/pump/control", upload := CText.ascii "\x7b\"pump_id\":1,\"state\":1\x7d" }
  let report : Request :=
    { method := "POST", url := "/api/pump/feedback", upload := CText.ascii "\x7b\"pump_id\":2,\"status\":1\x7d" }
  [.openRequest command, .call 0 0 {}, .openRequest report, .call 1 0 {}, .call 0 9 {}, .call 1 99 {},
    .call 0 99 {}, .call 0 0 {}, .finish {}, .call 1 0 {}]

theorem requests_isolated_postedTogether :
    callsOf 1 (daemonEvents JsonC.reference Sqlite.stable postedTogether) =
        [.feedback (CText.ascii "\x7b\"pump_id\":2,\"status\":1\x7d")] ∧
      Isolated JsonC.reference (postedTogether.filterMap DaemonLabel.request?)
        (daemonEvents JsonC.reference Sqlite.stable postedTogether)
        (run (Daemon.next JsonC.reference Sqlite.stable) {} postedTogether) := by
  refine ⟨by decide +kernel, requests_isolated JsonC.reference Sqlite.stable postedTogether ?_⟩
  decide +kernel

end ServerPump
