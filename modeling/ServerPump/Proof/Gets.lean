/-
**A GET is answered from one state.**

The first call of `handle_request` for a GET selects its handler, which the daemon's thread is in until it
returns. The handler reads the state once, under the lock or in one query, so that the answer is that of
one moment at which the request was open.

* `get_next`: one step of the server, for one such request.
-/

import ServerPump.Proof.Requests

namespace ServerPump

/-- The first call for the request selects the endpoint. -/
structure Request.AnsweredAtOnce (request : Request) (endpoint : Endpoint) : Prop where
  fresh : request.Fresh
  selects : ∀ allocated size, request.outcome allocated size = .answer endpoint

/-- Where such a request is. Once it is answered, its answer has a property. -/
def GetState (request : Request) (endpoint : Endpoint) (given : Answer → Prop) : RequestState → Prop
  | .unused => False
  | .reading now => now = request
  | .handling now selected _ => now = request ∧ selected = endpoint
  | .answered answer => given answer
  | .closed _ => True

section Get

variable {jsonC : JsonC} {sqlite : Sqlite} {daemon : Daemon} {request : Request} {endpoint : Endpoint}
  {given after : Answer → Prop} {id : ℕ}

theorem GetState.mono (weaken : ∀ answer, given answer → after answer) {state : RequestState}
    (get : GetState request endpoint given state) : GetState request endpoint after state := by
  cases state with
  | answered answer => exact weaken answer get
  | unused | reading | handling | closed => exact get

theorem used_of_get (unused : ∀ id, daemon.opened ≤ id → daemon.requests id = .unused)
    (get : GetState request endpoint given (daemon.requests id)) : id < daemon.opened := by
  refine Nat.lt_of_not_le fun le => ?_
  rw [unused id le] at get
  exact get

/-- A request that has just been sent. -/
theorem getState_openRequest (fresh : request.Fresh) (daemon : Daemon) :
    GetState request endpoint given ((daemon.openRequest request).requests daemon.opened) := by
  rw [openRequest_requests fresh, if_pos rfl]
  exact rfl

/-- A request moves on. -/
theorem getState_become {other : ℕ} {state : RequestState}
    (get : GetState request endpoint given (daemon.requests id))
    (moves : id = other → GetState request endpoint given state) :
    GetState request endpoint given ((daemon.become other state).requests id) := by
  rw [become_requests]
  split_ifs with same
  · exact moves same
  · exact get

theorem getState_left {other : ℕ} {moved : Daemon} (get : GetState request endpoint given (daemon.requests id))
    (left : Left daemon other moved) : GetState request endpoint given (moved.requests id) := by
  cases left with
  | idle => exact get
  | received here => exact getState_become get fun _ => trivial
  | aborted here => exact getState_become get fun _ => trivial

/-- `handle_request` is called, for this request or for another one. -/
theorem getState_call (once : request.AnsweredAtOnce endpoint)
    (get : GetState request endpoint given (daemon.requests id)) (other size : ℕ) (io : RequestIo) :
    GetState request endpoint given ((daemon.call jsonC other size io).requests id) := by
  have called := called_call jsonC daemon other size io
  revert called
  generalize daemon.call jsonC other size io = moved
  generalize daemon.reaches other size io = reached
  intro called
  cases called with
  | idle => exact get
  | @refused now here outcome =>
    refine getState_become get fun same => ?_
    subst same
    rw [here] at get
    obtain rfl : now = request := get
    cases (once.selects _ _).symm.trans outcome
  | @passed now postBuffer here outcome =>
    refine getState_become get fun same => ?_
    subst same
    rw [here] at get
    obtain rfl : now = request := get
    cases (once.selects _ _).symm.trans outcome
  | @ended now selected here free outcome =>
    refine getState_become get fun same => ?_
    subst same
    rw [here] at get
    obtain rfl : now = request := get
    cases (once.selects _ _).symm.trans outcome
    exact ⟨rfl, rfl⟩

/-- **One step of the server**, for one request: an answer is that of the state it finds. -/
theorem get_next (sqlite : Sqlite) (unused : ∀ id, daemon.opened ≤ id → daemon.requests id = .unused)
    (once : request.AnsweredAtOnce endpoint) (get : GetState request endpoint given (daemon.requests id))
    (label : DaemonLabel) :
    GetState request endpoint
      (fun answer => given answer ∨ ∃ io published,
        answer = answerOf jsonC sqlite io published request daemon.world.machine.side endpoint)
      ((daemon.next jsonC sqlite label).requests id) := by
  have later : GetState request endpoint (fun answer => given answer ∨ ∃ io published,
      answer = answerOf jsonC sqlite io published request daemon.world.machine.side endpoint)
        (daemon.requests id) := get.mono fun _ => .inl
  cases label with
  | world label =>
    show GetState _ _ _ ((if label.Outside then daemon.onWorld jsonC (some label) else daemon).requests id)
    split_ifs <;> exact later
  | openRequest opened =>
    show GetState _ _ _ ((daemon.openRequest opened).requests id)
    unfold Daemon.openRequest
    split_ifs
    · exact getState_become later fun same => absurd same (Nat.ne_of_lt (used_of_get unused get))
    · exact later
  | call other size io => exact getState_call once later other size io
  | finish io =>
    show GetState _ _ _ ((daemon.finish jsonC sqlite io).requests id)
    have finished := finished_finish jsonC sqlite daemon io
    revert finished
    generalize daemon.finish jsonC sqlite io = moved
    intro finished
    cases finished with
    | idle => exact later
    | @returned other now selected published inside here waiting =>
      refine getState_become later fun same => ?_
      subst same
      rw [here] at get
      obtain ⟨rfl, rfl⟩ := get
      exact .inr ⟨io, published, rfl⟩
  | receive other => exact getState_left later (left_receive daemon other)
  | abort other => exact getState_left later (left_abort daemon other)

end Get

end ServerPump
