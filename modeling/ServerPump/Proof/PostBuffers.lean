/-
**The buffers of the POSTs.**

The first call of a POST allocates a buffer, and its last call frees it. A client that goes away in between
leaves the buffer behind: the daemon is started without a callback for requests that are over.

* `buffers_next`: what each step allocates and frees.
* `buffers_accounted`: in every run, the buffers allocated and not freed are those of the requests in
  progress and one for each request that was abandoned after its first call.
-/

import Mathlib.Algebra.Order.BigOperators.Group.Finset
import ServerPump.Proof.Requests

namespace ServerPump

open Runs

/-! ### The law -/

/-- The buffers of a request in progress. -/
def RequestState.inUse : RequestState → ℕ
  | .reading now => now.held
  | .handling now _ _ => now.held
  | _ => 0

/-- A request that is abandoned behind its first call. -/
def Daemon.abandons (daemon : Daemon) : DaemonLabel → List ℕ
  | .abort id =>
    match daemon.requests id with
    | .reading now => if now.conCls.isSome then [id] else []
    | _ => []
  | _ => []

/-- The requests abandoned in a run. -/
def abandoned (jsonC : JsonC) (sqlite : Sqlite) (labels : List DaemonLabel) : List ℕ :=
  emitted (Daemon.next jsonC sqlite) Daemon.abandons {} labels

/-- The buffers of all requests in progress. -/
def Daemon.inUse (daemon : Daemon) : ℕ :=
  ∑ id ∈ Finset.range daemon.opened, (daemon.requests id).inUse

/-- **The law**: the buffers are those in use, and one for each request that was abandoned. -/
structure BuffersAccounted (abandoned : List ℕ) (daemon : Daemon) : Prop where
  buffers : daemon.buffers = daemon.inUse + abandoned.length
  once : abandoned.Nodup
  left : ∀ id ∈ abandoned, ∃ leaked, daemon.requests id = .closed leaked

/-! ### One request -/

section Steps

variable {daemon : Daemon} {given : List ℕ}

theorem held_proceed (now : Request) (size : ℕ) (postBuffer : List UInt8) :
    (now.proceed size postBuffer).held = 1 := rfl

theorem held_le (now : Request) : now.held ≤ 1 := by
  unfold Request.held
  split_ifs <;> decide

/-- Only the first call is refused. -/
theorem held_of_refuse {now : Request} {allocated : Bool} {size : ℕ}
    (outcome : now.outcome allocated size = .refuse) : now.held = 0 := by
  refine if_neg fun begun => ?_
  obtain ⟨postBuffer, begun⟩ := Option.isSome_iff_exists.mp begun
  rw [Request.outcome, begun] at outcome
  unfold handleRequest at outcome
  dsimp only at outcome
  split_ifs at outcome

/-- **One request moves on**: a sum over the requests changes in its summand. -/
theorem sum_become (count : RequestState → ℕ) {id : ℕ} (used : id < daemon.opened) (state : RequestState) :
    ∑ other ∈ Finset.range daemon.opened, count ((daemon.become id state).requests other) +
        count (daemon.requests id) =
      ∑ other ∈ Finset.range daemon.opened, count (daemon.requests other) + count state := by
  have member : id ∈ Finset.range daemon.opened := Finset.mem_range.mpr used
  have others : ∑ other ∈ (Finset.range daemon.opened).erase id,
      count ((daemon.become id state).requests other) =
        ∑ other ∈ (Finset.range daemon.opened).erase id, count (daemon.requests other) := by
    refine Finset.sum_congr rfl fun other inside => ?_
    rw [become_requests, if_neg (Finset.ne_of_mem_erase inside)]
  have before := Finset.add_sum_erase _ (fun other => count (daemon.requests other)) member
  have after := Finset.add_sum_erase _ (fun other => count ((daemon.become id state).requests other)) member
  rw [others] at after
  rw [← before, ← after, become_requests, if_pos rfl]
  omega

/-- One request moves on. -/
theorem inUse_become {id : ℕ} (used : id < daemon.opened) (state : RequestState) :
    (daemon.become id state).inUse + (daemon.requests id).inUse = daemon.inUse + state.inUse :=
  sum_become RequestState.inUse used state

theorem inUse_openRequest {request : Request} (fresh : request.Fresh) (daemon : Daemon) :
    (daemon.openRequest request).inUse = daemon.inUse := by
  have earlier : ∑ id ∈ Finset.range daemon.opened, ((daemon.openRequest request).requests id).inUse =
      daemon.inUse := by
    refine Finset.sum_congr rfl fun id inside => ?_
    rw [openRequest_requests fresh, if_neg (Nat.ne_of_lt (Finset.mem_range.mp inside))]
  have empty : request.held = 0 := by rw [Request.held, fresh.1]; rfl
  unfold Daemon.inUse
  rw [openRequest_opened fresh, Finset.sum_range_succ, earlier, openRequest_requests fresh, if_pos rfl]
  exact congrArg (daemon.inUse + ·) empty

/-- A request in progress is counted. -/
theorem inUse_le {id : ℕ} (used : id < daemon.opened) : (daemon.requests id).inUse ≤ daemon.inUse :=
  Finset.single_le_sum (f := fun id => (daemon.requests id).inUse) (fun _ _ => Nat.zero_le _)
    (Finset.mem_range.mpr used)

theorem accounted_initial : BuffersAccounted [] {} := ⟨rfl, List.nodup_nil, nofun⟩

/-- **One request moves on**, and is not abandoned. -/
theorem accounted_become (accounted : BuffersAccounted given daemon) {id : ℕ} (state : RequestState)
    (used : id < daemon.opened) (going : ∀ leaked, daemon.requests id ≠ .closed leaked)
    {after : Daemon} (requests : after.requests = (daemon.become id state).requests)
    (opened : after.opened = daemon.opened)
    (buffers : after.buffers + (daemon.requests id).inUse = daemon.buffers + state.inUse) :
    BuffersAccounted given after where
  buffers := by
    have same : after.inUse = (daemon.become id state).inUse := by
      unfold Daemon.inUse
      rw [requests, opened]
      rfl
    have moved := inUse_become used state
    have counted := accounted.buffers
    have le := inUse_le used
    omega
  once := accounted.once
  left other inside := by
    obtain ⟨leaked, closed⟩ := accounted.left other inside
    refine ⟨leaked, ?_⟩
    rw [requests, become_requests, if_neg, closed]
    rintro rfl
    exact going leaked closed

theorem accounted_call (accounted : BuffersAccounted given daemon) {jsonC : JsonC}
    {events : List DaemonEvent} (tracked : Tracked jsonC events daemon) (id size : ℕ) (io : RequestIo) :
    BuffersAccounted given (daemon.call jsonC id size io) := by
  have called := called_call jsonC daemon id size io
  revert called
  generalize daemon.call jsonC id size io = after
  generalize daemon.reaches id size io = reached
  intro called
  cases called with
  | idle => exact accounted
  | refused here outcome =>
    refine accounted_become accounted (.closed false)
      (used_of_tracked tracked (by simp [here])) (by simp [here]) rfl rfl ?_
    rw [here]
    exact congrArg (daemon.buffers + ·) (held_of_refuse outcome)
  | @passed now postBuffer here outcome =>
    refine accounted_become accounted (.reading (now.proceed size postBuffer))
      (used_of_tracked tracked (by simp [here])) (by simp [here]) rfl rfl ?_
    rw [here]
    show daemon.buffers + (1 - now.held) + now.held = daemon.buffers + (now.proceed size postBuffer).held
    have one := held_le now
    rw [held_proceed]
    omega
  | @ended now endpoint here free outcome =>
    refine accounted_become accounted (.handling now endpoint io.published)
      (used_of_tracked tracked (by simp [here])) (by simp [here]) rfl rfl ?_
    rw [here]
    rfl

theorem accounted_finish (accounted : BuffersAccounted given daemon) {jsonC : JsonC}
    {events : List DaemonEvent} (tracked : Tracked jsonC events daemon) (sqlite : Sqlite)
    (io : RequestIo) : BuffersAccounted given (daemon.finish jsonC sqlite io) := by
  have finished := finished_finish jsonC sqlite daemon io
  revert finished
  generalize daemon.finish jsonC sqlite io = after
  intro finished
  cases finished with
  | idle => exact accounted
  | @returned id now endpoint published inside here waiting =>
    have used : id < daemon.opened := used_of_tracked tracked (by simp [here])
    refine accounted_become accounted (.answered _) used (by simp [here]) rfl rfl ?_
    -- the buffer that is freed is one of those in use
    have counted := accounted.buffers
    have le := inUse_le used
    rw [here] at le ⊢
    show daemon.buffers - now.held + now.held = daemon.buffers
    have le : now.held ≤ daemon.inUse := le
    omega

/-- The client of a request that is being read leaves. -/
theorem abort_reading {id : ℕ} {now : Request} (here : daemon.requests id = .reading now) :
    daemon.abort id = daemon.become id (.closed now.conCls.isSome) ∧
      daemon.abandons (.abort id) = if now.conCls.isSome then [id] else [] := by
  unfold Daemon.abort Daemon.abandons
  dsimp only
  rw [here]
  exact ⟨rfl, rfl⟩

/-- At any other time it changes nothing. -/
theorem abort_other {id : ℕ} (other : ∀ now, daemon.requests id ≠ .reading now) :
    daemon.abort id = daemon ∧ daemon.abandons (.abort id) = [] := by
  unfold Daemon.abort Daemon.abandons
  dsimp only
  cases here : daemon.requests id with
  | reading now => exact absurd here (other now)
  | unused | handling | answered | closed => exact ⟨rfl, rfl⟩

/-- **A client leaves**; a buffer in use is then left behind. -/
theorem accounted_abort (accounted : BuffersAccounted given daemon) {jsonC : JsonC}
    {events : List DaemonEvent} (tracked : Tracked jsonC events daemon) (id : ℕ) :
    BuffersAccounted (given ++ daemon.abandons (.abort id)) (daemon.abort id) := by
  by_cases reading : ∃ now, daemon.requests id = .reading now
  · obtain ⟨now, here⟩ := reading
    obtain ⟨aborted, gone⟩ := abort_reading here
    have used : id < daemon.opened := used_of_tracked tracked (by simp [here])
    have moved : (daemon.become id (.closed now.conCls.isSome)).inUse + now.held = daemon.inUse := by
      have moved := inUse_become used (.closed now.conCls.isSome)
      rwa [here] at moved
    have counted := accounted.buffers
    have elsewhere : ∀ other ∈ given, other ≠ id := by
      rintro other inside rfl
      obtain ⟨leaked, closed⟩ := accounted.left other inside
      cases here.symm.trans closed
    rw [aborted, gone]
    by_cases begun : now.conCls.isSome
    · rw [if_pos begun]
      rw [Request.held, if_pos begun] at moved
      refine ⟨?_, ?_, fun other inside => ?_⟩
      · rw [List.length_append, List.length_singleton]
        show daemon.buffers = _
        omega
      · refine List.nodup_append.mpr ⟨accounted.once, List.nodup_singleton id, fun other inside _ last => ?_⟩
        rw [List.mem_singleton.mp last]
        exact elsewhere other inside
      · rw [become_requests]
        rcases List.mem_append.mp inside with before | last
        · rw [if_neg (elsewhere other before)]
          exact accounted.left other before
        · rw [if_pos (List.mem_singleton.mp last)]
          exact ⟨_, rfl⟩
    · rw [if_neg begun, List.append_nil]
      rw [Request.held, if_neg begun] at moved
      refine ⟨?_, accounted.once, fun other inside => ?_⟩
      · show daemon.buffers = _
        omega
      · rw [become_requests, if_neg (elsewhere other inside)]
        exact accounted.left other inside
  · obtain ⟨same, gone⟩ := abort_other fun now here => reading ⟨now, here⟩
    rw [same, gone, List.append_nil]
    exact accounted

theorem accounted_receive (accounted : BuffersAccounted given daemon) {jsonC : JsonC}
    {events : List DaemonEvent} (tracked : Tracked jsonC events daemon) (id : ℕ) :
    BuffersAccounted given (daemon.receive id) := by
  unfold Daemon.receive
  split
  · rename_i answer here
    refine accounted_become accounted (.closed false)
      (used_of_tracked tracked (by simp [here])) (by simp [here]) rfl rfl ?_
    rw [here]
    rfl
  · exact accounted

theorem accounted_openRequest (accounted : BuffersAccounted given daemon) {jsonC : JsonC}
    {events : List DaemonEvent} (tracked : Tracked jsonC events daemon) (request : Request) :
    BuffersAccounted given (daemon.openRequest request) := by
  by_cases fresh : request.Fresh
  · refine ⟨?_, accounted.once, fun id inside => ?_⟩
    · rw [inUse_openRequest fresh, Daemon.openRequest, if_pos fresh]
      exact accounted.buffers
    · obtain ⟨leaked, closed⟩ := accounted.left id inside
      have used : id < daemon.opened := used_of_tracked tracked (by simp [closed])
      rw [openRequest_requests fresh, if_neg (Nat.ne_of_lt used)]
      exact ⟨leaked, closed⟩
  · rw [Daemon.openRequest, if_neg fresh]
    exact accounted

/-- **The invariant is kept by every step.** -/
theorem buffers_next (jsonC : JsonC) (sqlite : Sqlite) (given : List ℕ) (daemon : Daemon)
    (label : DaemonLabel)
    (holds : (∃ events, Tracked jsonC events daemon) ∧ BuffersAccounted given daemon) :
    (∃ events, Tracked jsonC events (daemon.next jsonC sqlite label)) ∧
      BuffersAccounted (given ++ daemon.abandons label) (daemon.next jsonC sqlite label) := by
  obtain ⟨⟨events, tracked⟩, accounted⟩ := holds
  refine ⟨⟨_, tracked_next jsonC sqlite events daemon label tracked⟩, ?_⟩
  cases label with
  | world label =>
    rw [show daemon.abandons (.world label) = [] from rfl, List.append_nil]
    show BuffersAccounted given (if label.Outside then daemon.onWorld jsonC (some label) else daemon)
    split_ifs
    · exact ⟨accounted.buffers, accounted.once, accounted.left⟩
    · exact accounted
  | openRequest request =>
    exact (List.append_nil given).symm ▸ accounted_openRequest accounted tracked request
  | call id size io => exact (List.append_nil given).symm ▸ accounted_call accounted tracked id size io
  | finish io => exact (List.append_nil given).symm ▸ accounted_finish accounted tracked sqlite io
  | receive id => exact (List.append_nil given).symm ▸ accounted_receive accounted tracked id
  | abort id => exact accounted_abort accounted tracked id

end Steps

/-- **Every buffer is accounted for.** -/
theorem buffers_accounted (jsonC : JsonC) (sqlite : Sqlite) (labels : List DaemonLabel) :
    BuffersAccounted (abandoned jsonC sqlite labels) (run (Daemon.next jsonC sqlite) {} labels) := by
  have initial : (∃ events, Tracked jsonC events {}) ∧ BuffersAccounted [] {} :=
    ⟨⟨[], tracked_initial jsonC⟩, accounted_initial⟩
  exact (invariant_emitted (buffers_next jsonC sqlite) initial labels).2

end ServerPump
