/-
**The process shuts down in order.**

The handlers use the mutex and the database, and `main` takes both away once its threads have ended. No
handler is left then, because a thread ends only when what it has started is stopped; the one exception is
a disconnect that leaves a callback behind.

* `daemon_process`: the server in the process runs as the daemon does.
* `staged_next`: the invariant. Which threads there are, and what they may use, follows from where `main` is.
* `process_shuts_down`: in every run nothing is used before it is there or after it is gone, and once
  `running` is reset the process ends after a bounded number of its own steps, in any order and whether its
  clients send anything or not.
-/

import ServerPump.Proof.Settling
import ServerPump.Server.Process

namespace ServerPump

open CText Runs

/-! ### Where `main` is -/

def Service.rank : Service → ℕ
  | .publisher => 0
  | .subscriber => 1
  | .http => 2

namespace MainPhase

/-- The number of threads that are created. -/
def created : MainPhase → ℕ
  | .create service => service.rank
  | .mutexInit | .dbInit | .failed => 0
  | .join _ | .dbClose | .mutexDestroy | .finished => 3

/-- The number of threads that are joined. -/
def joined : MainPhase → ℕ
  | .join service => service.rank
  | .dbClose | .mutexDestroy | .finished => 3
  | .mutexInit | .dbInit | .failed | .create _ => 0

def lock : MainPhase → Resource
  | .mutexInit => .absent
  | .finished => .gone
  | .dbInit | .failed | .create _ | .join _ | .dbClose | .mutexDestroy => .ready

def db : MainPhase → Resource
  | .mutexInit | .dbInit | .failed => .absent
  | .mutexDestroy | .finished => .gone
  | .create _ | .join _ | .dbClose => .ready

/-- The steps of `main` that are left. -/
def work : MainPhase → ℕ
  | .mutexInit => 10
  | .dbInit => 9
  | .create service => 8 - service.rank
  | .join service => 5 - service.rank
  | .dbClose => 2
  | .mutexDestroy => 1
  | .failed | .finished => 0

/-- `main` has returned. -/
def Returned (phase : MainPhase) : Prop := phase = .failed ∨ phase = .finished

end MainPhase

/-! ### The law -/

namespace Process

/-- The server itself does something, with the mutex or the database. -/
def Uses (process : Process) : DaemonLabel → Prop
  | .world (.deliver _) => True
  | .world .publishStatus => True
  | .world (.step thread _ _) => ¬ process.daemon.world.machine.Waiting thread
  | .call _ _ _ => True
  | .finish _ => True
  | _ => False

/-- The steps the process can take. The bytes of a call are there, or its client sends them. -/
def Enabled (process : Process) : ProcessLabel → Prop
  | .main _ =>
    match process.main with
    | .join service => process.services service = .ended
    | .failed => False
    | .finished => False
    | _ => True
  | .start service _ => process.services service = .starting
  | .stop service =>
    process.services service = .serving ∧ process.running = false ∧ process.CanStop service
  | .daemon label => process.Serves label ∧ process.daemon.Enabled label
  | _ => False

end Process

/-- The daemon calls a handler, for which it may need more bytes of a client. -/
def ProcessLabel.IsCall : ProcessLabel → Prop
  | .daemon (.call _ _ _) => True
  | _ => False

def ServiceState.work : ServiceState → ℕ
  | .notCreated => 2
  | .starting => 2
  | .serving => 1
  | .ended => 0

/-- What is left to do, for `main`, the threads and the server. -/
def Process.work (process : Process) : ℕ :=
  process.main.work + ((process.services .publisher).work + (process.services .subscriber).work +
    (process.services .http).work) + process.daemon.work

section Law

variable (jsonC : JsonC) (sqlite : Sqlite)

/-- However the steps of the process are ordered, they come to an end, and `main` has returned then. It does not
need a client for that. -/
structure ShutsDown (process : Process) : Prop where
  bounded : ∀ more, Guarded (Process.next jsonC sqlite) Process.Enabled process more →
    more.length ≤ process.work
  returns : ∀ more, Guarded (Process.next jsonC sqlite) Process.Enabled process more →
    (∀ label, (run (Process.next jsonC sqlite) process more).Enabled label → label.IsCall) →
      (run (Process.next jsonC sqlite) process more).main.Returned
  reaches : ∃ more, Guarded (Process.next jsonC sqlite)
      (fun process label => process.Enabled label ∧ ¬ label.IsCall) process more ∧
    (run (Process.next jsonC sqlite) process more).main.Returned

/-- **The law** of the process: the mutex and the database are there whenever they are used, nothing runs
when `main` has returned, and it returns once `running` is reset. -/
structure LivesInOrder (process : Process) : Prop where
  resources : ∀ label, process.Serves label → process.Uses label →
    process.lock = .ready ∧ process.db = .ready
  failed : process.main = .failed → ∀ service, process.services service = .notCreated
  finished : process.main = .finished → (∀ service, process.services service = .ended) ∧
    process.lock = .gone ∧ process.db = .gone ∧
      (∀ thread, process.daemon.world.machine.Waiting thread) ∧ process.daemon.inside = none
  shutsDown : process.running = false → ShutsDown jsonC sqlite process

end Law

/-! ### The server in the process -/

section Server

variable (jsonC : JsonC) (sqlite : Sqlite)

/-- What a label of the process does to the server. -/
def Process.passes (process : Process) : ProcessLabel → Option DaemonLabel
  | .daemon label => if process.Serves label then some label else none
  | _ => none

theorem mainStep_daemon (ok : Bool) (process : Process) : (process.mainStep ok).daemon = process.daemon := by
  unfold Process.mainStep
  split <;> try rfl
  · split_ifs <;> rfl
  · split_ifs <;> rfl

theorem process_daemon_next (process : Process) (label : ProcessLabel) :
    (process.next jsonC sqlite label).daemon =
      run (Daemon.next jsonC sqlite) process.daemon (process.passes label).toList := by
  cases label with
  | main ok => exact mainStep_daemon ok process
  | daemon label =>
    unfold Process.next Process.passes
    dsimp only
    split_ifs <;> rfl
  | signal | start | stop | giveUp =>
    unfold Process.next
    dsimp only
    split_ifs <;> rfl

/-- **The server in the process** runs as the daemon does. -/
theorem daemon_process (labels : List ProcessLabel) :
    (run (Process.next jsonC sqlite) {} labels).daemon = run (Daemon.next jsonC sqlite) {}
      (emitted (Process.next jsonC sqlite) (fun process label => (process.passes label).toList) {} labels) :=
  run_emitted (process_daemon_next jsonC sqlite) {} labels

end Server

/-! ### A thread at rest -/

section Rest

variable {jsonC : JsonC} {thread : Thread}

/-- A thread that waits is left alone, except by an input of its own. -/
theorem waits_turn {machine : Machine} {turn : Turn} (waiting : machine.Waiting thread)
    (foreign : ∀ input, turn.label.input? = some input → input.thread ≠ thread) :
    (machine.turn jsonC turn).Waiting thread := by
  have other : ∀ (mover : Thread) (side : PumpSide) (state : ThreadState), mover ≠ thread →
      (machine.become mover side state).Waiting thread := by
    intro mover side state different
    show Function.update machine.threads mover state thread = {}
    rw [Function.update_of_ne different.symm]
    exact waiting
  have idle : machine.threads thread = {} := waiting
  have moves := moves_turn jsonC machine turn
  generalize machine.turn jsonC turn = moved at moves ⊢
  cases moves with
  | take input takes waits => exact other _ _ _ (foreign input (Option.filter_eq_some_iff.mp takes).1)
  | stay takes => exact waiting
  | inside mover side branch takes busy current logged =>
    refine other _ _ _ ?_
    rintro rfl
    exact busy (by rw [idle])
  | opens mover now update calls here =>
    refine other _ _ _ ?_
    rintro rfl
    cases here.symm.trans idle
  | fills mover busy alarm calls takes here =>
    refine other _ _ _ ?_
    rintro rfl
    cases here.symm.trans idle

/-- The callback waits until a message is delivered. -/
theorem waits_world_mqtt {world : World} (waiting : world.machine.Waiting .mqtt) {label : WorldLabel}
    (undelivered : ∀ topic, label ≠ .deliver topic) : (world.next jsonC label).machine.Waiting .mqtt := by
  cases label with
  | publish | acknowledge | resend | publishStatus => exact waiting
  | controlPost payload published =>
    show (ite _ _ _ : World).machine.Waiting .mqtt
    split_ifs <;> exact waiting
  | feedbackPost payload => exact waits_turn waiting fun input posts => by cases posts; simp [Input.thread]
  | deliver topic => exact absurd rfl (undelivered topic)
  | step mover now inserted => exact waits_turn waiting fun input none => by cases none

/-- The daemon's thread is in no update until a POST ends. -/
theorem waits_world_http {world : World} (waiting : world.machine.Waiting .http) {label : WorldLabel}
    (outside : label.Outside) : (world.next jsonC label).machine.Waiting .http := by
  cases label with
  | publish | acknowledge | resend | publishStatus => exact waiting
  | controlPost | feedbackPost => exact outside.elim
  | deliver topic =>
    show (world.deliver jsonC topic).machine.Waiting .http
    unfold World.deliver
    split
    · split_ifs
      · exact waits_turn waiting fun input delivered => by cases delivered; simp [Input.thread]
      · exact waiting
    · exact waiting
  | step mover now inserted => exact waits_turn waiting fun input none => by cases none

/-- The callback waits until a message is delivered, whatever the daemon does. -/
theorem waits_daemon (sqlite : Sqlite) {daemon : Daemon} (waiting : daemon.world.machine.Waiting .mqtt)
    {label : DaemonLabel} (undelivered : ∀ topic, label ≠ .world (.deliver topic)) :
    (daemon.next jsonC sqlite label).world.machine.Waiting .mqtt := by
  cases label with
  | world label =>
    unfold Daemon.next
    dsimp only
    split_ifs
    · refine waits_world_mqtt waiting fun topic same => undelivered topic ?_
      rw [same]
    · exact waiting
  | openRequest request =>
    show (daemon.openRequest request).world.machine.Waiting .mqtt
    rwa [openRequest_world]
  | call id size io =>
    have called := called_call jsonC daemon id size io
    revert called
    show _ → (daemon.call jsonC id size io).world.machine.Waiting .mqtt
    generalize daemon.call jsonC id size io = after
    generalize daemon.reaches id size io = reached
    intro called
    cases called with
    | idle | refused | passed => exact waiting
    | @ended now endpoint here free outcome =>
      show (run (World.next jsonC) daemon.world (endpoint.effect io.published).toList).machine.Waiting .mqtt
      cases effect : endpoint.effect io.published with
      | none => exact waiting
      | some label =>
        refine waits_world_mqtt waiting fun topic same => ?_
        rw [same] at effect
        cases endpoint <;> cases effect
  | finish io =>
    have finished := finished_finish jsonC sqlite daemon io
    revert finished
    show _ → (daemon.finish jsonC sqlite io).world.machine.Waiting .mqtt
    generalize daemon.finish jsonC sqlite io = after
    intro finished
    cases finished with
    | idle | returned => exact waiting
  | receive id =>
    unfold Daemon.next Daemon.receive
    dsimp only
    split <;> exact waiting
  | abort id =>
    unfold Daemon.next Daemon.abort
    dsimp only
    split <;> exact waiting

/-- The daemon's thread is in no handler until `handle_request` is called. -/
theorem free_daemon (sqlite : Sqlite) {daemon : Daemon} (free : daemon.Free) {label : DaemonLabel}
    (uncalled : ∀ id size io, label ≠ .call id size io) : (daemon.next jsonC sqlite label).Free := by
  cases label with
  | world label =>
    unfold Daemon.next
    dsimp only
    split_ifs with outside
    · exact ⟨free.1, waits_world_http free.2 outside⟩
    · exact free
  | openRequest request =>
    unfold Daemon.next Daemon.openRequest
    dsimp only
    split_ifs <;> exact free
  | call id size io => exact absurd rfl (uncalled id size io)
  | finish io =>
    unfold Daemon.next Daemon.finish
    dsimp only
    rw [free.1]
    exact free
  | receive id =>
    unfold Daemon.next Daemon.receive
    dsimp only
    split <;> exact free
  | abort id =>
    unfold Daemon.next Daemon.abort
    dsimp only
    split <;> exact free

end Rest

/-! ### The invariant -/

/-- The invariant: what there is follows from where `main` is, and a thread that does not serve has left
nothing running. -/
structure Staged (process : Process) : Prop where
  created : ∀ service, process.services service = .notCreated ↔ process.main.created ≤ service.rank
  joined : ∀ service, service.rank < process.main.joined → process.services service = .ended
  lock : process.lock = process.main.lock
  db : process.db = process.main.db
  subscriber : process.services .subscriber ≠ .serving → process.daemon.world.machine.Waiting .mqtt
  http : process.services .http ≠ .serving → process.daemon.Free

theorem rank_lt (service : Service) : service.rank < 3 := by
  cases service <;> decide

theorem rank_injective {first second : Service} (same : first.rank = second.rank) : first = second := by
  cases first <;> cases second <;> first | rfl | cases same

theorem created_afterCreate (service : Service) : service.afterCreate.created = service.rank + 1 := by
  cases service <;> rfl

theorem joined_afterCreate (service : Service) : service.afterCreate.joined = 0 := by
  cases service <;> rfl

theorem resources_afterCreate (service : Service) :
    service.afterCreate.lock = .ready ∧ service.afterCreate.db = .ready := by
  cases service <;> exact ⟨rfl, rfl⟩

theorem joined_afterJoin (service : Service) : service.afterJoin.joined = service.rank + 1 := by
  cases service <;> rfl

theorem resources_afterJoin (service : Service) :
    service.afterJoin.created = 3 ∧ service.afterJoin.lock = .ready ∧ service.afterJoin.db = .ready := by
  cases service <;> exact ⟨rfl, rfl, rfl⟩

section Stages

variable {jsonC : JsonC} {sqlite : Sqlite} {process : Process}

theorem staged_initial : Staged {} where
  created _ := iff_of_true rfl (Nat.zero_le _)
  joined _ before := absurd before (Nat.not_lt_zero _)
  lock := rfl
  db := rfl
  subscriber _ := rfl
  http _ := ⟨rfl, rfl⟩

theorem become_services (process : Process) (service : Service) (state : ServiceState) (other : Service) :
    (process.become service state).services other =
      if other = service then state else process.services other := by
  by_cases same : other = service
  · rw [same, if_pos rfl]
    exact Function.update_self ..
  · rw [if_neg same]
    exact Function.update_of_ne same ..

/-- **A thread moves on** that is there, and has not ended. -/
theorem staged_become (staged : Staged process) {service : Service} {state : ServiceState}
    (there : process.services service ≠ .notCreated) (going : process.services service ≠ .ended)
    (stays : state ≠ .notCreated)
    (stopped : state ≠ .serving → process.services service = .serving → process.CanStop service) :
    Staged (process.become service state) where
  created other := by
    rw [become_services]
    split_ifs with same
    · subst same
      exact iff_of_false stays fun before => there ((staged.created other).mpr before)
    · exact staged.created other
  joined other before := by
    rw [become_services]
    split_ifs with same
    · subst same
      exact absurd (staged.joined other before) going
    · exact staged.joined other before
  lock := staged.lock
  db := staged.db
  subscriber := by
    rw [become_services]
    split_ifs with same
    · subst same
      intro other
      by_cases serving : process.services .subscriber = .serving
      · exact stopped other serving
      · exact staged.subscriber serving
    · exact staged.subscriber
  http := by
    rw [become_services]
    split_ifs with same
    · subst same
      intro other
      by_cases serving : process.services .http = .serving
      · exact stopped other serving
      · exact staged.http serving
    · exact staged.http

/-- **A step of `main`.** -/
theorem staged_mainStep (staged : Staged process) (ok : Bool) : Staged (process.mainStep ok) := by
  have created := staged.created
  have joined := staged.joined
  have lock := staged.lock
  have db := staged.db
  unfold Process.mainStep
  cases here : process.main with
  | mutexInit =>
    rw [here] at created joined lock db
    exact ⟨created, joined, rfl, db, staged.subscriber, staged.http⟩
  | dbInit =>
    rw [here] at created joined lock db
    cases ok with
    | true => exact ⟨created, joined, lock, rfl, staged.subscriber, staged.http⟩
    | false => exact ⟨created, joined, lock, db, staged.subscriber, staged.http⟩
  | create service =>
    rw [here] at created joined lock db
    obtain ⟨lockReady, dbReady⟩ := resources_afterCreate service
    have fresh : process.services service = .notCreated := (created service).mpr (Nat.le_refl _)
    have idle : ∀ other, (process.become service .starting).services other ≠ .serving →
        process.services other ≠ .serving := by
      intro other
      rw [become_services]
      split_ifs with same
      · subst same
        simp [fresh]
      · exact id
    refine ⟨?_, ?_, lock.trans lockReady.symm, db.trans dbReady.symm,
      fun other => staged.subscriber (idle _ other), fun other => staged.http (idle _ other)⟩
    · intro other
      show (process.become service .starting).services other = .notCreated ↔
        service.afterCreate.created ≤ other.rank
      rw [created_afterCreate, become_services]
      split_ifs with same
      · subst same
        simp
      · rw [created other]
        have different : service.rank ≠ other.rank := fun equal => same (rank_injective equal).symm
        exact ⟨fun le => Nat.lt_of_le_of_ne le different, Nat.le_of_succ_le⟩
    · intro other before
      have none : other.rank < service.afterCreate.joined := before
      rw [joined_afterCreate] at none
      exact absurd none (Nat.not_lt_zero _)
  | join service =>
    rw [here] at created joined lock db
    obtain ⟨all, ready⟩ := resources_afterJoin service
    dsimp only
    split_ifs with ended
    · refine ⟨?_, ?_, lock.trans ready.1.symm, db.trans ready.2.symm, staged.subscriber, staged.http⟩
      · intro other
        show process.services other = .notCreated ↔ service.afterJoin.created ≤ other.rank
        rw [all]
        exact created other
      · intro other before
        rcases Nat.lt_succ_iff_lt_or_eq.mp ((joined_afterJoin service) ▸ before) with earlier | same
        · exact joined other earlier
        · exact rank_injective same ▸ ended
    · exact staged
  | dbClose =>
    rw [here] at created joined lock db
    exact ⟨created, joined, lock, rfl, staged.subscriber, staged.http⟩
  | mutexDestroy =>
    rw [here] at created joined lock db
    exact ⟨created, joined, rfl, db, staged.subscriber, staged.http⟩
  | failed => exact staged
  | finished => exact staged

/-- **The invariant is kept by every step**, unless a disconnect does not wait. -/
theorem staged_next (staged : Staged process) {label : ProcessLabel} (patient : label ≠ .giveUp) :
    Staged (process.next jsonC sqlite label) := by
  cases label with
  | main ok => exact staged_mainStep staged ok
  | signal =>
    unfold Process.next
    dsimp only
    split_ifs
    · exact staged
    · exact ⟨staged.created, staged.joined, staged.lock, staged.db, staged.subscriber, staged.http⟩
  | start service ok =>
    show Staged (ite _ _ _)
    by_cases starting : process.services service = .starting
    · rw [if_pos starting]
      refine staged_become staged ?_ ?_ ?_ ?_
      · simp [starting]
      · simp [starting]
      · cases ok <;> simp
      · intro other serving
        cases starting.symm.trans serving
    · rw [if_neg starting]
      exact staged
  | stop service =>
    unfold Process.next
    dsimp only
    split_ifs with stops
    · obtain ⟨serving, -, canStop⟩ := stops
      refine staged_become staged ?_ ?_ ?_ fun _ _ => canStop
      · simp [serving]
      · simp [serving]
      · simp
    · exact staged
  | giveUp => exact absurd rfl patient
  | daemon label =>
    unfold Process.next
    dsimp only
    split_ifs with serves
    · refine ⟨staged.created, staged.joined, staged.lock, staged.db, fun idle => ?_, fun idle => ?_⟩
      · refine waits_daemon sqlite (staged.subscriber idle) ?_
        rintro topic rfl
        exact idle serves
      · refine free_daemon sqlite (staged.http idle) ?_
        rintro id size io rfl
        exact idle serves.1
    · exact staged

theorem staged_run (jsonC : JsonC) (sqlite : Sqlite) {labels : List ProcessLabel}
    (patient : ProcessLabel.giveUp ∉ labels) : Staged (run (Process.next jsonC sqlite) {} labels) := by
  have kept : ∀ (process : Process) (label : ProcessLabel), label ≠ .giveUp → Staged process →
      Staged (process.next jsonC sqlite label) := fun _ _ patient staged => staged_next staged patient
  exact invariant_run_of_mem kept staged_initial labels fun label member same => patient (same ▸ member)

/-! ### What is used -/

/-- A thread that serves is created and not joined, so that both resources are there. -/
theorem resources_of_serving (staged : Staged process) {service : Service}
    (serving : process.services service = .serving) : process.lock = .ready ∧ process.db = .ready := by
  have created : ¬ process.main.created ≤ service.rank := by
    rw [← staged.created service]
    simp [serving]
  have joined : ¬ service.rank < process.main.joined := by
    intro before
    cases serving.symm.trans (staged.joined service before)
  have few := rank_lt service
  rw [staged.lock, staged.db]
  cases here : process.main <;> rw [here] at created joined
  case create | join => exact ⟨rfl, rfl⟩
  case mutexInit | dbInit | failed => exact absurd (Nat.zero_le _) created
  case dbClose | mutexDestroy | finished => exact absurd few joined

/-- What is used belongs to a thread that serves. -/
theorem serving_of_uses (staged : Staged process) {label : DaemonLabel} (serves : process.Serves label)
    (uses : process.Uses label) : ∃ service, process.services service = .serving := by
  cases label with
  | world label =>
    cases label with
    | deliver topic => exact ⟨_, serves⟩
    | publishStatus => exact ⟨_, serves⟩
    | step thread now inserted =>
      cases thread with
      | mqtt =>
        by_contra none
        exact uses (staged.subscriber fun serving => none ⟨_, serving⟩)
      | http => exact ⟨_, serves⟩
    | publish | controlPost | feedbackPost | acknowledge | resend => exact uses.elim
  | call id size io => exact ⟨_, serves.1⟩
  | finish io => exact ⟨_, serves⟩
  | openRequest | receive | abort => exact uses.elim

/-! ### What is left to do -/

/-- A thread moves on, and the rest stays. -/
theorem work_become_service {service : Service} {state : ServiceState}
    (less : state.work < (process.services service).work) :
    (process.become service state).work < process.work := by
  have pub := become_services process service state .publisher
  have sub := become_services process service state .subscriber
  have web := become_services process service state .http
  show process.main.work + _ + process.daemon.work < _
  unfold Process.work
  rw [pub, sub, web]
  cases service <;> simp <;> omega

theorem work_afterCreate (service : Service) :
    service.afterCreate.work < (MainPhase.create service).work := by
  cases service <;> decide

theorem work_afterJoin (service : Service) : service.afterJoin.work < (MainPhase.join service).work := by
  cases service <;> decide

/-- `main` moves on, and the threads have no more to do than before. -/
theorem work_main_lt {moved : Process} (main : moved.main.work < process.main.work)
    (services : ∀ service, (moved.services service).work = (process.services service).work)
    (daemon : moved.daemon = process.daemon) : moved.work < process.work := by
  unfold Process.work
  rw [services, services, services, daemon]
  omega

/-- **A step of `main`** leaves less to do. -/
theorem work_mainStep (staged : Staged process) {ok : Bool} (enabled : process.Enabled (.main ok)) :
    (process.mainStep ok).work < process.work := by
  refine work_main_lt ?_ (fun other => ?_) (mainStep_daemon ok process)
  · unfold Process.Enabled at enabled
    unfold Process.mainStep
    cases here : process.main with
    | mutexInit => exact Nat.lt_succ_self 9
    | dbInit =>
      cases ok with
      | true => exact Nat.lt_succ_self 8
      | false => exact Nat.succ_pos 8
    | create service => exact work_afterCreate service
    | join service =>
      rw [here] at enabled
      dsimp only
      rw [if_pos enabled]
      exact work_afterJoin service
    | dbClose => exact Nat.lt_succ_self 1
    | mutexDestroy => exact Nat.lt_succ_self 0
    | failed | finished =>
      rw [here] at enabled
      exact enabled.elim
  · unfold Process.mainStep
    cases here : process.main with
    | create service =>
      have created := (staged.created service).mpr (by rw [here]; exact Nat.le_refl _)
      show ((process.become service .starting).services other).work = _
      rw [become_services]
      split_ifs with same
      · subst same
        rw [created]
        rfl
      · rfl
    | dbInit => cases ok <;> rfl
    | join service =>
      dsimp only
      split_ifs <;> rfl
    | mutexInit | dbClose | mutexDestroy | failed | finished => rfl

/-- **Every step the process can take leaves less to do.** -/
theorem work_process (sqlite : Sqlite) (staged : Staged process) (sound : Sound jsonC process.daemon)
    {label : ProcessLabel} (enabled : process.Enabled label) :
    (process.next jsonC sqlite label).work < process.work := by
  cases label with
  | main ok => exact work_mainStep staged enabled
  | start service ok =>
    have starting : process.services service = .starting := enabled
    show (ite _ _ _ : Process).work < _
    rw [if_pos starting]
    refine work_become_service ?_
    rw [starting]
    cases ok <;> decide
  | stop service =>
    obtain ⟨serving, quit, canStop⟩ := enabled
    show (ite _ _ _ : Process).work < _
    rw [if_pos ⟨serving, quit, canStop⟩]
    refine work_become_service ?_
    rw [serving]
    decide
  | daemon label =>
    obtain ⟨serves, enabled⟩ := enabled
    show (ite _ _ _ : Process).work < _
    rw [if_pos serves]
    exact Nat.add_lt_add_left (work_next sqlite sound enabled) _
  | signal | giveUp => exact enabled.elim

/-! ### The end -/

/-- A thread that is there and has not ended has a step to take, once `running` is reset. -/
theorem exists_step_of_going (quit : process.running = false) (unfinished : process.main ≠ .finished)
    {service : Service} (there : process.services service ≠ .notCreated)
    (going : process.services service ≠ .ended) :
    ∃ label, process.Enabled label ∧ ¬ label.IsCall := by
  cases state : process.services service with
  | notCreated => exact absurd state there
  | starting => exact ⟨.start service true, state, id⟩
  | ended => exact absurd state going
  | serving =>
    by_cases canStop : process.CanStop service
    · exact ⟨.stop service, ⟨state, quit, canStop⟩, id⟩
    · -- what the thread has started is in the middle of something
      cases service with
      | publisher => exact absurd trivial canStop
      | subscriber => exact ⟨.daemon (.world (.step .mqtt 0 true)), ⟨unfinished, canStop⟩, id⟩
      | http =>
        by_cases waiting : process.daemon.world.machine.Waiting .http
        · have inside : process.daemon.inside ≠ none := fun outside => canStop ⟨outside, waiting⟩
          exact ⟨.daemon (.finish {}), ⟨state, waiting, inside⟩, id⟩
        · exact ⟨.daemon (.world (.step .http 0 true)), ⟨state, waiting⟩, id⟩

/-- **When there is no step to take but for calls, `main` has returned.** -/
theorem returned_of_still (staged : Staged process) (quit : process.running = false)
    (still : ∀ label, process.Enabled label → label.IsCall) :
    process.main.Returned := by
  cases here : process.main with
  | failed => exact .inl rfl
  | finished => exact .inr rfl
  | join service =>
    exfalso
    have there : process.services service ≠ .notCreated := by
      rw [Ne, staged.created service, here]
      exact Nat.not_le_of_lt (rank_lt service)
    by_cases ended : process.services service = .ended
    · refine still (.main true) ?_
      unfold Process.Enabled
      dsimp only
      rw [here]
      exact ended
    · obtain ⟨label, enabled, other⟩ := exists_step_of_going quit (by simp [here]) there ended
      exact other (still label enabled)
  | mutexInit | dbInit | create | dbClose | mutexDestroy =>
    exfalso
    refine still (.main true) ?_
    unfold Process.Enabled
    dsimp only
    rw [here]
    trivial

theorem mainStep_running (ok : Bool) (process : Process) : (process.mainStep ok).running = process.running := by
  unfold Process.mainStep
  split <;> try rfl
  · split_ifs <;> rfl
  · split_ifs <;> rfl

/-- `running` is not set again. -/
theorem running_next (quit : process.running = false) (label : ProcessLabel) :
    (process.next jsonC sqlite label).running = false := by
  cases label with
  | main ok => exact (mainStep_running ok process).trans quit
  | signal | start | stop | giveUp | daemon =>
    unfold Process.next
    dsimp only
    split_ifs <;> first | exact quit | rfl

theorem sound_process (sound : Sound jsonC process.daemon) (label : ProcessLabel) :
    Sound jsonC (process.next jsonC sqlite label).daemon := by
  rw [process_daemon_next]
  exact invariant_run (sound_next jsonC sqlite) sound _

/-- What the process has to do comes to an end, from every state in which `running` is reset. -/
theorem shutsDown_of_staged (staged : Staged process) (sound : Sound jsonC process.daemon)
    (quit : process.running = false) : ShutsDown jsonC sqlite process := by
  have kept : ∀ process label,
      (Staged process ∧ Sound jsonC process.daemon ∧ process.running = false) → process.Enabled label →
        Staged (process.next jsonC sqlite label) ∧ Sound jsonC (process.next jsonC sqlite label).daemon ∧
          (process.next jsonC sqlite label).running = false := by
    rintro process label ⟨staged, sound, quit⟩ enabled
    refine ⟨staged_next staged ?_, sound_process sound label, running_next quit label⟩
    rintro rfl
    exact enabled
  have less : ∀ process label,
      (Staged process ∧ Sound jsonC process.daemon ∧ process.running = false) → process.Enabled label →
        (process.next jsonC sqlite label).work < process.work :=
    fun process label ⟨staged, sound, _⟩ enabled => work_process sqlite staged sound enabled
  have returns : ∀ more, Guarded (Process.next jsonC sqlite) Process.Enabled process more →
      (∀ label, (run (Process.next jsonC sqlite) process more).Enabled label → label.IsCall) →
        (run (Process.next jsonC sqlite) process more).main.Returned := by
    intro more guarded still
    have always := always_of_guarded kept ⟨staged, sound, quit⟩ guarded
    obtain ⟨stagedAfter, -, quitAfter⟩ := always_iff.mp always more List.prefix_rfl
    exact returned_of_still stagedAfter quitAfter still
  refine ⟨fun more guarded => ?_, returns, ?_⟩
  · exact Nat.le_of_add_right_le (length_add_work_le kept less ⟨staged, sound, quit⟩ guarded)
  · -- the clients take no part
    obtain ⟨more, guarded, last⟩ := exists_rest
      (fun process label inv (step : process.Enabled label ∧ ¬ label.IsCall) => kept process label inv step.1)
      (fun process label inv step => less process label inv step.1) ⟨staged, sound, quit⟩
    have own : Guarded (Process.next jsonC sqlite) Process.Enabled process more :=
      guarded.mono fun _ _ step => step.1
    refine ⟨more, guarded, returns more own fun label enabled => ?_⟩
    exact not_not.mp fun other => last label ⟨enabled, other⟩

end Stages

/-- **In every run in which no disconnect leaves a callback behind, the process lives in order**: the mutex and
the database are there whenever the server uses them, nothing of it runs when `main` has returned, and once
`running` is reset it returns after a bounded number of steps, in any order. -/
theorem process_shuts_down (jsonC : JsonC) (sqlite : Sqlite) (labels : List ProcessLabel)
    (patient : ProcessLabel.giveUp ∉ labels) :
    LivesInOrder jsonC sqlite (run (Process.next jsonC sqlite) {} labels) := by
  have staged := staged_run jsonC sqlite patient
  have sound : Sound jsonC (run (Process.next jsonC sqlite) {} labels).daemon := by
    rw [daemon_process]
    exact sound_run jsonC sqlite _
  generalize run (Process.next jsonC sqlite) {} labels = process at staged sound ⊢
  refine ⟨fun label serves uses => ?_, fun failed service => ?_, fun finished => ?_,
    fun quit => shutsDown_of_staged staged sound quit⟩
  · obtain ⟨service, serving⟩ := serving_of_uses staged serves uses
    exact resources_of_serving staged serving
  · rw [staged.created service, failed]
    exact Nat.zero_le _
  · have ended : ∀ service, process.services service = .ended := by
      intro service
      refine staged.joined service ?_
      rw [finished]
      exact rank_lt service
    have free := staged.http (by simp [ended])
    refine ⟨ended, ?_, ?_, fun thread => ?_, free.1⟩
    · rw [staged.lock, finished]
      rfl
    · rw [staged.db, finished]
      rfl
    · cases thread with
      | mqtt => exact staged.subscriber (by simp [ended])
      | http => exact free.2

/-- The process starts, a command is delivered, and `running` is reset while the callback is in the middle of
it. -/
def stoppedProcess : List ProcessLabel :=
  [.main true, .main true, .main true, .main true, .main true, .start .subscriber true, .start .publisher false,
    .start .http true,
    .daemon (.world (.publish .control (ascii "\x7b\"pump_id\":1,\"state\":1\x7d"))),
    .daemon (.world (.deliver .control)), .daemon (.world (.step .mqtt 100 true)), .signal, .stop .subscriber,
    .main true, .stop .http]

theorem process_shuts_down_stopped :
    (run (Process.next JsonC.reference Sqlite.stable) {} stoppedProcess).services .subscriber = .serving ∧
      LivesInOrder JsonC.reference Sqlite.stable
        (run (Process.next JsonC.reference Sqlite.stable) {} stoppedProcess) := by
  refine ⟨by decide +kernel, process_shuts_down JsonC.reference Sqlite.stable stoppedProcess ?_⟩
  simp [stoppedProcess]

end ServerPump
