/-
**The server comes to rest.**

Inside the server nothing waits for anything that does not come: a thread inside an update takes its next
step, the callback takes the next message when it has finished the one before it, and the daemon's thread goes
on with any request that is open. Each of these steps leaves less to do, though the handler of a POST may
publish a message, and a message may call two updates.

Only a client can keep a request open, and only a POST. The daemon is started without a timeout for
connections, so that it waits for ever for a body whose client sends neither the rest nor the end of it and does
not go away.

* `work_turn`, `work_next`: what is left to do for the threads, and for the two of them with the broker.
* `work_call`, `work_finish`: the same, with the requests.
* `daemon_settles`: whatever has happened, once nothing new is sent the server is at rest after a bounded
  number of steps, in any order. Then each message is handled, and each request answered or closed but for those
  that wait for a silent client, which hold up nothing else.
-/

import ServerPump.Proof.ControlLoop
import ServerPump.Proof.PostBuffers

namespace ServerPump

open Redelivery Runs

/-! ### What is left to do -/

/-- The steps of a change branch from a stage on. -/
def Stage.work : Stage → ℕ
  | .addHistory => 4
  | .insertRow => 3
  | .insertSnapshot => 2
  | .remember => 1

/-- The steps of a call. -/
def Call.work : Call → ℕ
  | .update _ => 5
  | .fillSystem _ _ => 6

def ThreadState.work (state : ThreadState) : ℕ :=
  (state.inside.elim 0 fun inside => inside.2.work) + (state.calls.map Call.work).sum

def Machine.work (machine : Machine) : ℕ := (machine.threads .mqtt).work + (machine.threads .http).work

/-- The steps of a message that waits in the broker, at most. -/
def messageWork : ℕ := 12

def World.work (world : World) : ℕ :=
  world.machine.work + messageWork * ((world.channels .heartbeat).backlog +
    (world.channels .control).backlog + (world.channels .feedback).backlog)

/-- The steps of a request, with those of its handler and of the message this publishes. -/
def RequestState.work : RequestState → ℕ
  | .reading now => 14 + now.upload.length + (if now.conCls.isSome then 0 else 1)
  | .handling _ _ _ => 1
  | _ => 0

def Daemon.work (daemon : Daemon) : ℕ :=
  daemon.world.work + ∑ id ∈ Finset.range daemon.opened, (daemon.requests id).work

/-! ### The law -/

/-- The steps for the server and the broker to take. What a call waits for is there, or its client sends it. -/
def Daemon.Enabled (daemon : Daemon) : DaemonLabel → Prop
  | .world (.step thread _ _) => ¬ daemon.world.machine.Waiting thread
  | .world (.deliver topic) =>
    daemon.world.machine.Waiting .mqtt ∧ (daemon.world.channels topic).next? ≠ none
  | .call id _ _ => daemon.Free ∧ ∃ request, daemon.requests id = .reading request
  | .finish _ => daemon.world.machine.Waiting .http ∧ daemon.inside ≠ none
  | _ => False

/-- These, and clients that go away in the middle of their requests. -/
def Daemon.Goes (daemon : Daemon) : DaemonLabel → Prop
  | .abort id => ∃ request, daemon.requests id = .reading request
  | label => daemon.Enabled label

/-- The next call waits for more of the body, or for its end: a POST, behind its first call. Every other request
is answered with the first one. -/
def RequestState.Lacking : RequestState → Prop
  | .reading request => request.method = "POST" ∧ request.conCls.isSome
  | _ => False

/-- A call that there cannot be while the clients of these requests send nothing. -/
def Daemon.Awaits (silent : Set ℕ) (daemon : Daemon) : DaemonLabel → Prop
  | .call id _ _ => id ∈ silent ∧ (daemon.requests id).Lacking
  | _ => False

/-- A request is over, or it waits for its client to take the answer. -/
def RequestState.Done : RequestState → Prop
  | .answered _ => True
  | .closed _ => True
  | _ => False

/-- Nothing is left to do, as long as the clients of these requests are silent. -/
structure Daemon.AtRest (silent : Set ℕ) (daemon : Daemon) : Prop where
  threads : ∀ thread, daemon.world.machine.Waiting thread
  channels : ∀ topic, (daemon.world.channels topic).CaughtUp
  requests : ∀ id < daemon.opened, (daemon.requests id).Done ∨ id ∈ silent ∧ (daemon.requests id).Lacking

/-- **The law**: however the steps to take are ordered, they come to an end. Whichever clients are silent, nothing
is left but what waits for them where there is no other step, and the server gets there without them. -/
structure Settles (jsonC : JsonC) (sqlite : Sqlite) (daemon : Daemon) : Prop where
  bounded : ∀ more, Guarded (Daemon.next jsonC sqlite) Daemon.Goes daemon more → more.length ≤ daemon.work
  rests : ∀ silent more, Guarded (Daemon.next jsonC sqlite) Daemon.Goes daemon more →
    (∀ label, (run (Daemon.next jsonC sqlite) daemon more).Enabled label →
      (run (Daemon.next jsonC sqlite) daemon more).Awaits silent label) →
        (run (Daemon.next jsonC sqlite) daemon more).AtRest silent
  reaches : ∀ silent, ∃ more, Guarded (Daemon.next jsonC sqlite)
      (fun daemon label => daemon.Enabled label ∧ ¬ daemon.Awaits silent label) daemon more ∧
    (run (Daemon.next jsonC sqlite) daemon more).AtRest silent

/-! ### The threads -/

section Machines

variable (jsonC : JsonC)

theorem work_controlCalls (payload : List UInt8) : ((controlCalls jsonC payload).map Call.work).sum ≤ 5 := by
  unfold controlCalls
  split
  · simp
  · split <;> simp [Call.work]

theorem work_statusCalls (parsed : jsonC.Value) : ((statusCalls jsonC parsed).map Call.work).sum ≤ 5 := by
  unfold statusCalls
  split
  · split <;> simp [Call.work]
  · simp

theorem work_systemCalls (parsed : jsonC.Value) : ((systemCalls jsonC parsed).map Call.work).sum ≤ 6 := by
  unfold systemCalls
  split <;> simp [Call.work]

/-- **The calls of a message** are fewer steps than a message counts for. -/
theorem work_messageCalls (topicName : String) (payload : List UInt8) :
    ((messageCalls jsonC topicName payload).map Call.work).sum < messageWork := by
  have control := work_controlCalls jsonC (mqttPayload payload)
  unfold messageCalls messageWork
  split_ifs
  · simp
  · omega
  · split
    · simp
    · rename_i parsed _
      have status := work_statusCalls jsonC parsed
      have system := work_systemCalls jsonC parsed
      rw [List.map_append, List.sum_append]
      omega
  · simp

theorem work_postCalls (payload : List UInt8) : ((postCalls jsonC payload).map Call.work).sum ≤ 5 := by
  unfold postCalls
  split
  · simp
  · split <;> simp [Call.work]

variable {jsonC} {machine : Machine}

theorem work_become (machine : Machine) (thread : Thread) (side : PumpSide) (state : ThreadState) :
    (machine.become thread side state).work + (machine.threads thread).work = machine.work + state.work := by
  have own := Machine.become_self thread side state machine
  have other := Machine.become_other thread side state machine
  cases thread with
  | mqtt =>
    rw [Machine.work, Machine.work, own, show (machine.become .mqtt side state).threads .http =
      machine.threads .http from other]
    omega
  | http =>
    rw [Machine.work, Machine.work, own, show (machine.become .http side state).threads .mqtt =
      machine.threads .mqtt from other]
    omega

theorem work_of_waiting {thread : Thread} (waiting : machine.Waiting thread) :
    (machine.threads thread).work = 0 := by
  rw [show machine.threads thread = {} from waiting]
  rfl

theorem work_firstStage (update : Update) : update.firstStage.work ≤ 4 := by
  cases update <;> simp [Update.firstStage, Stage.work]

/-- A step inside a change branch leads to the next stage, or out of it. -/
theorem branchStep_eq (thread : Thread) (update : Update) (calls : List Call) (machine : Machine)
    (stage : Stage) : ∃ side branch, machine.branchStep thread update calls stage =
      machine.become thread side ⟨branch, calls⟩ ∧
        (branch.elim 0 fun inside => inside.2.work) + 1 = stage.work := by
  cases stage <;> exact ⟨_, _, rfl, rfl⟩

/-- **A thread takes a step.** -/
theorem work_advance {thread : Thread} (busy : ¬ machine.Waiting thread) (now : Int64) :
    (machine.advance thread now).work < machine.work := by
  have become : ∀ side state, (machine.become thread side state).work + (machine.threads thread).work =
      machine.work + state.work := work_become machine thread
  unfold Machine.advance
  split
  · rename_i update stage calls here
    obtain ⟨side, branch, step, less⟩ := branchStep_eq thread update calls machine stage
    have moved := become side ⟨branch, calls⟩
    rw [here] at moved
    simp only [ThreadState.work, Option.elim_some] at moved
    rw [step]
    omega
  · rename_i update calls here
    rw [here] at become
    have first := work_firstStage update
    unfold Machine.openUpdate
    split_ifs
    · have moved := become (machine.side.stamp now update.write) ⟨some (update, update.firstStage), calls⟩
      simp only [ThreadState.work, Option.elim_some, Option.elim_none, List.map_cons, List.sum_cons,
        Call.work] at moved
      omega
    · have moved := become (machine.side.stamp now update.write) ⟨none, calls⟩
      simp only [ThreadState.work, Option.elim_none, List.map_cons, List.sum_cons, Call.work] at moved
      omega
  · rename_i busyHalf alarmHalf calls here
    rw [here] at become
    have moved := become machine.side ⟨none, .update (.system (busyHalf.getD machine.side.current.busy)
      (alarmHalf.getD machine.side.current.alarm)) :: calls⟩
    simp only [ThreadState.work, Option.elim_none, List.map_cons, List.sum_cons, Call.work] at moved
    unfold Machine.fillSystem
    omega
  · rename_i here
    exact absurd here busy

/-- Whether its insertion fails makes no difference. -/
theorem work_turn (jsonC : JsonC) (machine : Machine) (turn : Turn) :
    (machine.turn jsonC turn).work = (machine.next jsonC turn.label).work := by
  unfold Machine.turn
  dsimp only
  split_ifs <;> rfl

end Machines

/-! ### The broker -/

section Worlds

variable {jsonC : JsonC} {world : World}

/-- A turn of the machine leaves the channels alone. -/
theorem work_onMachine (jsonC : JsonC) (turn : Turn) (world : World) :
    (world.onMachine jsonC turn).work + world.machine.work =
      world.work + (world.machine.turn jsonC turn).work := by
  show (world.machine.turn jsonC turn).work + messageWork * ((world.channels .heartbeat).backlog +
    (world.channels .control).backlog + (world.channels .feedback).backlog) + _ = _
  unfold World.work
  omega

/-- **A thread takes a step.** -/
theorem work_step {thread : Thread} (busy : ¬ world.machine.Waiting thread) (now : Int64)
    (inserted : Bool) : (world.next jsonC (.step thread now inserted)).work < world.work := by
  have moved := work_advance busy now
  have counted := work_onMachine jsonC ⟨.step thread now, inserted⟩ world
  rw [work_turn] at counted
  show (world.onMachine jsonC ⟨.step thread now, inserted⟩).work < _
  change _ = _ + (world.machine.advance thread now).work at counted
  omega

theorem work_onChannel (topic : Topic) (change : Channel (List UInt8) → Channel (List UInt8))
    (world : World) :
    (world.onChannel topic change).work + messageWork * (world.channels topic).backlog =
      world.work + messageWork * (change (world.channels topic)).backlog := by
  unfold World.work messageWork
  cases topic <;> simp [World.onChannel, Function.update] <;> omega

/-- The callback takes a message. -/
theorem work_message (jsonC : JsonC) (waiting : world.machine.Waiting .mqtt) (topicName : String)
    (payload : List UInt8) :
    (world.machine.turn jsonC ⟨.message topicName payload, true⟩).work <
      world.machine.work + messageWork := by
  have moved := work_become world.machine .mqtt world.machine.side
    ⟨none, messageCalls jsonC topicName payload⟩
  have few := work_messageCalls jsonC topicName payload
  rw [work_of_waiting waiting] at moved
  simp only [ThreadState.work, Option.elim_none] at moved
  rw [work_turn, Machine.next, if_pos waiting]
  omega

/-- A POST has been read. -/
theorem work_post (jsonC : JsonC) (machine : Machine) (payload : List UInt8) :
    (machine.turn jsonC ⟨.post payload, true⟩).work ≤ machine.work + 5 := by
  rw [work_turn, Machine.next]
  split_ifs with waiting
  · have moved := work_become machine .http machine.side ⟨none, postCalls jsonC payload⟩
    have few := work_postCalls jsonC payload
    rw [work_of_waiting waiting] at moved
    simp only [ThreadState.work, Option.elim_none] at moved
    omega
  · exact Nat.le_add_right _ _

/-- **A message is delivered.** -/
theorem work_deliver {topic : Topic} (waiting : world.machine.Waiting .mqtt)
    (some_left : (world.channels topic).next? ≠ none) :
    (world.next jsonC (.deliver topic)).work < world.work := by
  obtain ⟨payload, next⟩ := Option.ne_none_iff_exists'.mp some_left
  have taken := work_message jsonC waiting topic.name payload
  have turned := work_onMachine jsonC ⟨.message topic.name payload, true⟩ world
  have advanced := Channel.backlog_advance next
  have counted := work_onChannel topic Channel.advance
    (world.onMachine jsonC ⟨.message topic.name payload, true⟩)
  rw [World.next, World.deliver, next]
  dsimp only
  rw [if_pos waiting]
  show (World.onChannel topic Channel.advance _).work < _
  rw [show (world.onMachine jsonC ⟨.message topic.name payload, true⟩).channels = world.channels
    from rfl] at counted
  unfold messageWork at counted taken
  omega

/-- A message is published. -/
theorem work_publish_le (topic : Topic) (payload : List UInt8) (world : World) :
    (world.onChannel topic (Channel.publish payload)).work ≤ world.work + messageWork := by
  have counted := work_onChannel topic (Channel.publish payload) world
  have one := Channel.backlog_publish_le (world.channels topic) payload
  unfold messageWork at counted ⊢
  omega

/-- **The end of a POST**, before its handler reads the state. -/
theorem work_effect_le (jsonC : JsonC) (endpoint : Endpoint) (published : Bool) (world : World) :
    (run (World.next jsonC) world (endpoint.effect published).toList).work ≤ world.work + messageWork := by
  cases endpoint with
  | control payload =>
    show (if world.machine.Waiting .http ∧ published then
      world.onChannel .control (Channel.publish payload) else world).work ≤ _
    split_ifs
    · exact work_publish_le .control payload world
    · exact Nat.le_add_right _ _
  | feedback payload =>
    have counted := work_onMachine jsonC ⟨.post payload, true⟩ world
    have taken := work_post jsonC world.machine payload
    show (world.onMachine jsonC ⟨.post payload, true⟩).work ≤ _
    unfold messageWork
    omega
  | options | pumpStatus | pumpHistory | gatewayStatus | notFound | notAllowed =>
    exact Nat.le_add_right _ _

/-- **The positions of every channel are in order**, in every run. -/
theorem ordered_next (jsonC : JsonC) (world : World) (label : WorldLabel)
    (ordered : ∀ topic, (world.channels topic).Ordered) (topic : Topic) :
    ((world.next jsonC label).channels topic).Ordered := by
  have changed : ∀ (other : Topic) (change : Channel (List UInt8) → Channel (List UInt8)) (before : World),
      before.channels = world.channels → (change (world.channels other)).Ordered →
        ((before.onChannel other change).channels topic).Ordered := by
    intro other change before same kept
    rw [channels_onChannel, same]
    split_ifs with equal
    · exact equal ▸ kept
    · exact ordered topic
  cases label with
  | publish other payload => exact changed other _ world rfl ((ordered other).publish payload)
  | controlPost payload published =>
    show ((if _ then _ else world).channels topic).Ordered
    split_ifs
    · exact changed .control _ world rfl ((ordered .control).publish payload)
    · exact ordered topic
  | feedbackPost payload => exact ordered topic
  | deliver other =>
    unfold World.next World.deliver
    dsimp only
    split
    · rename_i payload next
      split_ifs
      · exact changed other _ (world.onMachine jsonC _) rfl ((ordered other).advance next)
      · exact ordered topic
    · exact ordered topic
  | acknowledge other => exact changed other _ world rfl (ordered other).acknowledge
  | resend other => exact changed other _ world rfl (ordered other).resend
  | step thread now inserted => exact ordered topic
  | publishStatus => exact ordered topic

end Worlds

/-! ### The requests -/

/-- The daemon's thread is in the handler of the only request that is being handled. -/
def Daemon.OneHandler (daemon : Daemon) : Prop :=
  ∀ id, daemon.inside = some id ↔
    ∃ now endpoint published, daemon.requests id = .handling now endpoint published

section Requests

variable {jsonC : JsonC} {sqlite : Sqlite} {daemon : Daemon}

theorem oneHandler_initial : Daemon.OneHandler {} := by
  intro id
  exact ⟨nofun, fun ⟨_, _, _, here⟩ => by cases here⟩

/-- A request that is not being handled moves on. -/
theorem oneHandler_become (one : daemon.OneHandler) {id : ℕ} {state : RequestState}
    (before : ∀ now endpoint published, daemon.requests id ≠ .handling now endpoint published)
    (after : ∀ now endpoint published, state ≠ .handling now endpoint published) :
    (daemon.become id state).OneHandler := by
  intro other
  rw [become_requests]
  show daemon.inside = some other ↔ _
  rw [one other]
  by_cases same : other = id
  · subst same
    rw [if_pos rfl]
    constructor
    · rintro ⟨now, endpoint, published, here⟩
      exact absurd here (before now endpoint published)
    · rintro ⟨now, endpoint, published, here⟩
      exact absurd here (after now endpoint published)
  · rw [if_neg same]

theorem oneHandler_call (one : daemon.OneHandler) (id size : ℕ) (io : RequestIo) :
    (daemon.call jsonC id size io).OneHandler := by
  have called := called_call jsonC daemon id size io
  revert called
  generalize daemon.call jsonC id size io = after
  generalize daemon.reaches id size io = reached
  intro called
  cases called with
  | idle => exact one
  | refused here outcome => exact oneHandler_become one (by simp [here]) (by simp)
  | passed here outcome => exact oneHandler_become one (by simp [here]) (by simp)
  | @ended now endpoint here free outcome =>
    intro other
    show some id = some other ↔ ∃ now' endpoint' published',
      (daemon.become id (.handling now endpoint io.published)).requests other =
        .handling now' endpoint' published'
    rw [become_requests]
    by_cases same : other = id
    · subst same
      simp
    · rw [if_neg same, ← one other, free.1]
      simp [Ne.symm same]

theorem oneHandler_finish (one : daemon.OneHandler) (io : RequestIo) :
    (daemon.finish jsonC sqlite io).OneHandler := by
  have finished := finished_finish jsonC sqlite daemon io
  revert finished
  generalize daemon.finish jsonC sqlite io = after
  intro finished
  cases finished with
  | idle => exact one
  | @returned id now endpoint published inside here waiting =>
    intro other
    show none = some other ↔ ∃ now' endpoint' published',
      (daemon.become id (.answered _)).requests other = .handling now' endpoint' published'
    rw [become_requests]
    by_cases same : other = id
    · simp [same]
    · rw [if_neg same, ← one other, inside]
      simp [Ne.symm same]

theorem oneHandler_left (one : daemon.OneHandler) {id : ℕ} {after : Daemon}
    (left : Left daemon id after) : after.OneHandler := by
  cases left with
  | idle => exact one
  | received here => exact oneHandler_become one (by simp [here]) (by simp)
  | aborted here => exact oneHandler_become one (by simp [here]) (by simp)

/-- What every run keeps. -/
structure Sound (jsonC : JsonC) (daemon : Daemon) : Prop where
  tracked : ∃ events, Tracked jsonC events daemon
  one : daemon.OneHandler

theorem sound_next (jsonC : JsonC) (sqlite : Sqlite) (daemon : Daemon) (label : DaemonLabel)
    (sound : Sound jsonC daemon) : Sound jsonC (daemon.next jsonC sqlite label) := by
  obtain ⟨events, tracked⟩ := sound.tracked
  refine ⟨⟨_, tracked_next jsonC sqlite events daemon label tracked⟩, ?_⟩
  cases label with
  | world label =>
    show (if label.Outside then daemon.onWorld jsonC (some label) else daemon).OneHandler
    split_ifs
    · exact sound.one
    · exact sound.one
  | openRequest request =>
    show (if request.Fresh then _ else daemon).OneHandler
    split_ifs
    · have unused := (tracked.unused daemon.opened (Nat.le_refl _)).1
      exact oneHandler_become sound.one (by simp [unused]) (by simp)
    · exact sound.one
  | call id size io => exact oneHandler_call sound.one id size io
  | finish io => exact oneHandler_finish sound.one io
  | receive id => exact oneHandler_left sound.one (left_receive daemon id)
  | abort id => exact oneHandler_left sound.one (left_abort daemon id)

theorem sound_run (jsonC : JsonC) (sqlite : Sqlite) (labels : List DaemonLabel) :
    Sound jsonC (run (Daemon.next jsonC sqlite) {} labels) :=
  invariant_run (sound_next jsonC sqlite) ⟨⟨[], tracked_initial jsonC⟩, oneHandler_initial⟩ labels

theorem Sound.used (sound : Sound jsonC daemon) {id : ℕ} (used : daemon.requests id ≠ .unused) :
    id < daemon.opened := by
  obtain ⟨events, tracked⟩ := sound.tracked
  exact used_of_tracked tracked used

/-- A request that was opened is somewhere. -/
theorem Sound.opened (sound : Sound jsonC daemon) {id : ℕ} (used : id < daemon.opened) :
    daemon.requests id ≠ .unused := by
  intro unused
  obtain ⟨events, tracked⟩ := sound.tracked
  have inside : id < (openings events).length := tracked.opened ▸ used
  have progress := tracked.each id _ (List.getElem?_eq_getElem inside)
  rw [unused] at progress
  exact progress

/-- **One request moves on**, and what it has done is no longer to do. -/
theorem work_become_lt {id : ℕ} (used : id < daemon.opened) {state : RequestState} {after : Daemon}
    (requests : after.requests = (daemon.become id state).requests) (opened : after.opened = daemon.opened)
    (less : after.world.work + state.work < daemon.world.work + (daemon.requests id).work) :
    after.work < daemon.work := by
  have moved := sum_become RequestState.work used state
  unfold Daemon.work
  rw [requests, opened]
  omega

/-- A call that does not answer the request takes a chunk of it, unless it is the first one. -/
theorem work_proceed {now : Request} {allocated : Bool} {size : ℕ} {postBuffer : List UInt8}
    (outcome : now.outcome allocated size = .proceed postBuffer) :
    (RequestState.reading (now.proceed size postBuffer)).work < (RequestState.reading now).work := by
  unfold RequestState.work Request.proceed
  dsimp only
  rw [List.length_drop, if_pos (show (some postBuffer).isSome from rfl)]
  cases begun : now.conCls with
  | none =>
    rw [if_neg (by simp)]
    omega
  | some before =>
    rw [if_pos (show (some before).isSome from rfl)]
    -- the buffer is there: only a chunk with bytes keeps the request open
    have bytes : (now.chunk size).length ≠ 0 := by
      intro empty
      rw [Request.outcome, begun] at outcome
      unfold handleRequest at outcome
      dsimp only at outcome
      rw [if_neg (not_not.mpr empty)] at outcome
      split_ifs at outcome
    have inside : (now.chunk size).length ≤ now.upload.length := by
      rw [Request.chunk, if_pos (by simp [begun]), List.length_take]
      exact min_le_right _ _
    omega

/-- **`handle_request` is called** for a request that is open. -/
theorem work_call (sound : Sound jsonC daemon) {id : ℕ} {now : Request} (free : daemon.Free)
    (here : daemon.requests id = .reading now) (size : ℕ) (io : RequestIo) :
    (daemon.call jsonC id size io).work < daemon.work := by
  have used : id < daemon.opened := sound.used (by simp [here])
  unfold Daemon.call
  rw [here]
  dsimp only
  rw [if_pos free]
  split
  · refine work_become_lt used rfl rfl ?_
    rw [here]
    exact Nat.add_lt_add_left (show 0 < 14 + _ + _ by omega) _
  · rename_i postBuffer outcome
    refine work_become_lt used rfl rfl ?_
    rw [here]
    exact Nat.add_lt_add_left (work_proceed outcome) _
  · rename_i endpoint outcome
    refine @work_become_lt daemon id used (.handling now endpoint io.published) _ rfl rfl ?_
    have most := work_effect_le jsonC endpoint io.published daemon.world
    rw [here]
    show (run (World.next jsonC) daemon.world (endpoint.effect io.published).toList).work + 1 <
      daemon.world.work + (14 + now.upload.length + _)
    unfold messageWork at most
    omega

/-- **The handler returns.** -/
theorem work_finish (sound : Sound jsonC daemon) (waiting : daemon.world.machine.Waiting .http)
    (inside : daemon.inside ≠ none) (io : RequestIo) :
    (daemon.finish jsonC sqlite io).work < daemon.work := by
  obtain ⟨id, inside⟩ := Option.ne_none_iff_exists'.mp inside
  obtain ⟨now, endpoint, published, here⟩ := (sound.one id).mp inside
  have used : id < daemon.opened := sound.used (by simp [here])
  unfold Daemon.finish
  rw [inside]
  dsimp only
  rw [here]
  dsimp only
  rw [if_pos waiting]
  refine work_become_lt used rfl rfl ?_
  rw [here]
  exact Nat.lt_succ_self _

/-- **Every step there is to take leaves less to do.** -/
theorem work_next (sqlite : Sqlite) (sound : Sound jsonC daemon) {label : DaemonLabel}
    (enabled : daemon.Enabled label) : (daemon.next jsonC sqlite label).work < daemon.work := by
  cases label with
  | world label =>
    cases label with
    | step thread now inserted => exact Nat.add_lt_add_right (work_step enabled now inserted) _
    | deliver topic => exact Nat.add_lt_add_right (work_deliver enabled.1 enabled.2) _
    | publish | controlPost | feedbackPost | acknowledge | resend | publishStatus => exact enabled.elim
  | call id size io =>
    obtain ⟨free, now, here⟩ := enabled
    exact work_call sound free here size io
  | finish io => exact work_finish sound enabled.1 enabled.2 io
  | openRequest | receive | abort => exact enabled.elim

/-- **A client goes away.** -/
theorem work_abort (sound : Sound jsonC daemon) {id : ℕ} {now : Request}
    (here : daemon.requests id = .reading now) : (daemon.abort id).work < daemon.work := by
  have used : id < daemon.opened := sound.used (by simp [here])
  rw [(abort_reading here).1]
  refine work_become_lt used rfl rfl ?_
  rw [here]
  exact Nat.add_lt_add_left (show 0 < 14 + _ + _ by omega) _

theorem work_goes (sqlite : Sqlite) (sound : Sound jsonC daemon) {label : DaemonLabel}
    (goes : daemon.Goes label) : (daemon.next jsonC sqlite label).work < daemon.work := by
  cases label with
  | abort id =>
    obtain ⟨now, here⟩ := goes
    exact work_abort sound here
  | world | openRequest | call | finish | receive => exact work_next sqlite sound goes

/-- **When there is no step to take but for silent clients, nothing else is left to do.** -/
theorem atRest_of_sound (sound : Sound jsonC daemon) {silent : Set ℕ}
    (still : ∀ label, daemon.Enabled label → daemon.Awaits silent label) : daemon.AtRest silent := by
  have threads : ∀ thread, daemon.world.machine.Waiting thread :=
    fun thread => not_not.mp fun busy => still (.world (.step thread 0 true)) busy
  have ordered : ∀ topic, (daemon.world.channels topic).Ordered := by
    obtain ⟨events, tracked⟩ := sound.tracked
    rw [tracked.world]
    exact invariant_run (ordered_next jsonC) (fun _ => ⟨Nat.le_refl 0, Nat.le_refl 0⟩) _
  have outside : daemon.inside = none :=
    not_not.mp fun inside => still (.finish {}) ⟨threads .http, inside⟩
  refine ⟨threads, fun topic => ?_, fun id used => ?_⟩
  · exact Channel.caughtUp_of_next? (ordered topic)
      (not_not.mp fun left => still (.world (.deliver topic)) ⟨threads .mqtt, left⟩)
  · cases here : daemon.requests id with
    | unused => exact (sound.opened used here).elim
    | reading now =>
      have awaits := still (.call id 0 {}) ⟨⟨outside, threads .http⟩, now, here⟩
      exact .inr (here ▸ awaits)
    | handling now endpoint published =>
      have inside := (sound.one id).mpr ⟨now, endpoint, published, here⟩
      rw [outside] at inside
      cases inside
    | answered answer => exact .inl trivial
    | closed leaked => exact .inl trivial

end Requests

/-- **The server comes to rest**, from whatever state it has got into. -/
theorem daemon_settles (jsonC : JsonC) (sqlite : Sqlite) (labels : List DaemonLabel) :
    Settles jsonC sqlite (run (Daemon.next jsonC sqlite) {} labels) := by
  have sound := sound_run jsonC sqlite labels
  have rests : ∀ silent more,
      (∀ label, (run (Daemon.next jsonC sqlite) (run (Daemon.next jsonC sqlite) {} labels) more).Enabled label →
        (run (Daemon.next jsonC sqlite) (run (Daemon.next jsonC sqlite) {} labels) more).Awaits silent label) →
      (run (Daemon.next jsonC sqlite) (run (Daemon.next jsonC sqlite) {} labels) more).AtRest silent :=
    fun _ more still => atRest_of_sound (invariant_run (sound_next jsonC sqlite) sound more) still
  refine ⟨fun more guarded => ?_, fun silent more _ still => rests silent more still, fun silent => ?_⟩
  · have kept : ∀ daemon label, Sound jsonC daemon → daemon.Goes label →
        Sound jsonC (daemon.next jsonC sqlite label) :=
      fun daemon label sound _ => sound_next jsonC sqlite daemon label sound
    have less : ∀ daemon label, Sound jsonC daemon → daemon.Goes label →
        (daemon.next jsonC sqlite label).work < daemon.work :=
      fun daemon label sound goes => work_goes sqlite sound goes
    exact Nat.le_of_add_right_le (length_add_work_le kept less sound guarded)
  · -- the silent clients take no part
    have kept : ∀ daemon label, Sound jsonC daemon → daemon.Enabled label ∧ ¬ daemon.Awaits silent label →
        Sound jsonC (daemon.next jsonC sqlite label) :=
      fun daemon label sound _ => sound_next jsonC sqlite daemon label sound
    have less : ∀ daemon label, Sound jsonC daemon → daemon.Enabled label ∧ ¬ daemon.Awaits silent label →
        (daemon.next jsonC sqlite label).work < daemon.work :=
      fun daemon label sound step => work_next sqlite sound step.1
    obtain ⟨more, guarded, last⟩ := exists_rest kept less sound
    refine ⟨more, guarded, rests silent more fun label enabled => ?_⟩
    exact not_not.mp fun waits => last label ⟨enabled, waits⟩

end ServerPump
