/-
**Interleaved updates: when the change detector keeps in step.**

A thread inside a change branch *holds* the registers of its update: it will store its values as the
previous ones when it leaves the branch. Between two updates of one status the lock is free, so a
second thread may write the status in the meantime; if that thread has left its branch first, or was
inside none, the last store brings back an outdated value.

`Orderly` is the condition on a step that excludes this: a thread leaves the branch of a feedback
only while the live status is still its own, or while the other thread is inside a branch of the same
status.

* `consistent_next`: an orderly step keeps `Consistent`, which says for each register that a thread
  holds its live value, or else its previous value is the live one.
* `agreement_always`: in a run of orderly steps, the previous fields and the newest snapshot are the
  live fields whenever neither thread is inside an update.
* `not_agreement_of_not_orderly`: a step that is not orderly breaks the law.
* `solo_message`, `solo_post`: what no other thread interrupts is handled as by the sequential server.
-/

import ServerPump.Library.Runs
import ServerPump.Proof.Update
import ServerPump.Server.Threads

namespace ServerPump

open CText

theorem other_ne (thread : Thread) : thread.other ≠ thread := by
  cases thread <;> exact nofun

theorem other_other (thread : Thread) : thread.other.other = thread := by
  cases thread <;> rfl

theorem eq_or_eq_other (first second : Thread) : first = second ∨ first = second.other := by
  cases first <;> cases second <;> simp [Thread.other]

/-- The value a thread inside a change branch will store as the previous one of a register. -/
def ThreadState.holds (state : ThreadState) (register : Register) : Option Int32 :=
  state.inside.bind fun branch => branch.1.puts register

/-- The thread has still to insert the snapshot of its change. -/
def ThreadState.Owes (state : ThreadState) : Prop :=
  ∃ update stage, state.inside = some (update, stage) ∧ stage ≠ .remember

namespace Machine

variable (thread : Thread) (side : PumpSide) (state : ThreadState) (machine : Machine)

@[simp]
theorem become_side : (machine.become thread side state).side = side := rfl

@[simp]
theorem become_self : (machine.become thread side state).threads thread = state :=
  Function.update_self _ _ _

@[simp]
theorem become_other :
    (machine.become thread side state).threads thread.other = machine.threads thread.other :=
  Function.update_of_ne (other_ne thread) _ _

end Machine

/-! ### The invariant -/

/-- The thread makes no updates but feedbacks, as the one that answers HTTP requests. -/
def FeedbackOnly (state : ThreadState) : Prop :=
  (∀ update stage, state.inside = some (update, stage) →
      ∃ pumpId status, update = .feedback pumpId status) ∧
    ∀ call ∈ state.calls, ∃ pumpId status, call = .update (.feedback pumpId status)

/-- A thread will store an outdated value, and the other thread will not repair it. -/
def Machine.Stale (machine : Machine) (thread : Thread) (register : Register) : Prop :=
  ∃ value, (machine.threads thread).holds register = some value ∧
    value ≠ register.value machine.side.current.toPumpFields ∧
    (machine.threads thread.other).holds register = none

/-- The invariant of the interleaved updates. -/
structure Consistent (machine : Machine) : Prop where
  http : FeedbackOnly (machine.threads .http)
  /-- What only the MQTT thread writes is live as long as that thread holds it. -/
  own : ∀ register value, (∀ pump, register ≠ .of .feedback pump) →
    (machine.threads .mqtt).holds register = some value →
      value = register.value machine.side.current.toPumpFields
  registers : ∀ register : Register,
    (∃ thread, (machine.threads thread).holds register =
      some (register.value machine.side.current.toPumpFields)) ∨
    (register.value machine.side.previous.toPumpFields =
        register.value machine.side.current.toPumpFields ∧
      ∃ thread, (machine.threads thread).holds register = none)
  snapshot : (newestSnapshot machine.side.tables).getD {} = machine.side.current.toPumpFields ∨
    (∃ thread, (machine.threads thread).Owes) ∨ ∃ thread register, machine.Stale thread register

/-- **The law**: when neither thread is inside an update, the previous fields and the newest snapshot
are the live fields. -/
def Agreement (machine : Machine) : Prop :=
  (∀ thread, (machine.threads thread).inside = none) →
    machine.side.previous.toPumpFields = machine.side.current.toPumpFields ∧
      (newestSnapshot machine.side.tables).getD {} = machine.side.current.toPumpFields

theorem agreement_of_consistent {machine : Machine} (consistent : Consistent machine) :
    Agreement machine := by
  intro idle
  have nothing : ∀ thread register, (machine.threads thread).holds register = none := by
    intro thread register
    rw [ThreadState.holds, idle thread]
    rfl
  constructor
  · refine fields_ext fun register => ?_
    rcases consistent.registers register with ⟨thread, held⟩ | ⟨same, -⟩
    · rw [nothing] at held
      cases held
    · exact same
  · rcases consistent.snapshot with current | ⟨thread, update, stage, inside, -⟩ |
      ⟨thread, register, value, held, -⟩
    · exact current
    · rw [idle thread] at inside
      cases inside
    · rw [nothing] at held
      cases held

theorem consistent_initial : Consistent {} where
  http := ⟨nofun, nofun⟩
  own := nofun
  registers _ := .inr ⟨rfl, .mqtt, rfl⟩
  snapshot := .inl rfl

/-! ### The steps -/

section Steps

variable {machine : Machine} {thread : Thread} {side : PumpSide} {state : ThreadState}

theorem http_become (consistent : Consistent machine)
    (http : thread = .http → FeedbackOnly state) :
    FeedbackOnly ((machine.become thread side state).threads .http) := by
  rcases eq_or_eq_other .http thread with rfl | isOther
  · rw [Machine.become_self]
    exact http rfl
  · rw [isOther, Machine.become_other, ← isOther]
    exact consistent.http

/-- A step that leaves the live and the previous fields and the held registers as they are, and
inserts the snapshot or leaves it owed. -/
theorem consistent_quiet (consistent : Consistent machine)
    (current : side.current.toPumpFields = machine.side.current.toPumpFields)
    (previous : side.previous.toPumpFields = machine.side.previous.toPumpFields)
    (held : state.holds = (machine.threads thread).holds)
    (http : thread = .http → FeedbackOnly state)
    (snapshot : (newestSnapshot side.tables).getD {} = side.current.toPumpFields ∨
      (newestSnapshot side.tables = newestSnapshot machine.side.tables ∧
        ((machine.threads thread).Owes → state.Owes))) :
    Consistent (machine.become thread side state) := by
  have holdsSame : ∀ any, ((machine.become thread side state).threads any).holds =
      (machine.threads any).holds := by
    intro any
    rcases eq_or_eq_other any thread with rfl | rfl
    · rw [Machine.become_self, held]
    · rw [Machine.become_other]
  refine ⟨http_become consistent http, ?_, ?_, ?_⟩
  · simp only [holdsSame, Machine.become_side, current]
    exact consistent.own
  · simp only [holdsSame, Machine.become_side, current, previous]
    exact consistent.registers
  · rcases snapshot with inserted | ⟨same, owed⟩
    · exact .inl inserted
    · simp only [Machine.Stale, holdsSame, Machine.become_side, current, same]
      rcases consistent.snapshot with isCurrent | ⟨any, owes⟩ | stale
      · exact .inl isCurrent
      · refine .inr (.inl ⟨any, ?_⟩)
        rcases eq_or_eq_other any thread with rfl | rfl
        · rw [Machine.become_self]
          exact owed owes
        · rw [Machine.become_other]
          exact owes
      · exact .inr (.inr stale)

/-- A feedback writes no register but those of hardware statuses. -/
theorem puts_feedback {pumpId status : Int32} {register : Register}
    (notStatus : ∀ pump, register ≠ .of .feedback pump) :
    (Update.feedback pumpId status).puts register = none := by
  cases register with
  | of table pump =>
    cases table with
    | commands => rfl
    | feedback => exact absurd rfl (notStatus pump)
  | busy => rfl
  | alarm => rfl

/-- A write keeps what only the MQTT thread writes: it is that thread's own write, or a feedback. -/
theorem own_become (consistent : Consistent machine) {update : Update}
    (current : side.current.toPumpFields = update.write machine.side.current.toPumpFields)
    (held : ∀ register value, state.holds register = some value → update.puts register = some value)
    (isFeedback : thread = .http → ∃ pumpId status, update = .feedback pumpId status)
    (register : Register) (value : Int32) (notStatus : ∀ pump, register ≠ .of .feedback pump)
    (holds : ((machine.become thread side state).threads .mqtt).holds register = some value) :
    value = register.value (machine.become thread side state).side.current.toPumpFields := by
  rw [Machine.become_side, current, value_write]
  rcases eq_or_eq_other .mqtt thread with rfl | isOther
  · rw [Machine.become_self] at holds
    rw [held register value holds]
    rfl
  · have isHttp : thread = .http := by
      rw [← other_other thread, ← isOther]
      rfl
    obtain ⟨pumpId, status, rfl⟩ := isFeedback isHttp
    rw [isOther, Machine.become_other, ← isOther] at holds
    rw [puts_feedback notStatus]
    exact consistent.own register value notStatus holds

/-- A thread between two updates holds nothing, so a register that is held is held by the other. -/
theorem holder_eq_other (idle : (machine.threads thread).inside = none) {any : Thread}
    {register : Register} {value : Int32}
    (held : (machine.threads any).holds register = some value) : any = thread.other := by
  rcases eq_or_eq_other any thread with rfl | other
  · rw [ThreadState.holds, idle] at held
    cases held
  · exact other

/-- A thread that has left its update holds nothing. -/
theorem free_become (machine : Machine) (thread : Thread) (side : PumpSide) (calls : List Call)
    (register : Register) :
    ((machine.become thread side ⟨none, calls⟩).threads thread).holds register = none := by
  rw [Machine.become_self]
  rfl

/-- The first locked section of an update that finds a change. -/
theorem consistent_change (consistent : Consistent machine) {update : Update} {stage : Stage}
    {calls : List Call} (idle : (machine.threads thread).inside = none)
    (current : side.current.toPumpFields = update.write machine.side.current.toPumpFields)
    (previous : side.previous.toPumpFields = machine.side.previous.toPumpFields)
    (http : thread = .http → FeedbackOnly ⟨some (update, stage), calls⟩)
    (early : stage ≠ .remember) :
    Consistent (machine.become thread side ⟨some (update, stage), calls⟩) := by
  have live : ∀ register : Register, register.value side.current.toPumpFields =
      (update.puts register).getD (register.value machine.side.current.toPumpFields) := by
    intro register
    rw [current, value_write]
  refine ⟨http_become consistent http, own_become consistent current (fun _ _ => id) fun isHttp =>
    (http isHttp).1 update stage rfl, fun register => ?_, ?_⟩
  · rw [Machine.become_side, live]
    cases puts : update.puts register with
    | some value =>
      refine .inl ⟨thread, ?_⟩
      rw [Machine.become_self]
      exact puts
    | none =>
      rcases consistent.registers register with ⟨any, held⟩ | ⟨same, -⟩
      · obtain rfl := holder_eq_other idle held
        refine .inl ⟨thread.other, ?_⟩
        rw [Machine.become_other]
        exact held
      · refine .inr ⟨by rw [previous]; exact same, thread, ?_⟩
        rw [Machine.become_self]
        exact puts
  · refine .inr (.inl ⟨thread, update, stage, ?_, early⟩)
    rw [Machine.become_self]

/-- A thread that is outside afterwards, owed no snapshot and was not stale, leaves the snapshot as
recorded, owed or stale as it was. -/
theorem snapshot_outside (consistent : Consistent machine) {calls : List Call}
    (unmoved : side.current.toPumpFields = machine.side.current.toPumpFields)
    (snapshots : newestSnapshot side.tables = newestSnapshot machine.side.tables)
    (paid : ¬ (machine.threads thread).Owes) (fresh : ∀ register, ¬ machine.Stale thread register) :
    (newestSnapshot side.tables).getD {} = side.current.toPumpFields ∨
      (∃ any, ((machine.become thread side ⟨none, calls⟩).threads any).Owes) ∨
        ∃ any register, (machine.become thread side ⟨none, calls⟩).Stale any register := by
  rw [snapshots, unmoved]
  rcases consistent.snapshot with isCurrent | ⟨any, owes⟩ | ⟨any, register, stale⟩
  · exact .inl isCurrent
  · obtain rfl := (eq_or_eq_other any thread).resolve_left fun isOwn => paid (isOwn ▸ owes)
    refine .inr (.inl ⟨thread.other, ?_⟩)
    rw [Machine.become_other]
    exact owes
  · obtain rfl := (eq_or_eq_other any thread).resolve_left fun isOwn => fresh register (isOwn ▸ stale)
    obtain ⟨value, held, differs, -⟩ := stale
    refine .inr (.inr ⟨thread.other, register, value, ?_, ?_, ?_⟩)
    · rw [Machine.become_other]
      exact held
    · rw [Machine.become_side, unmoved]
      exact differs
    · rw [other_other]
      exact free_become machine thread side calls register

/-- What a first locked section that finds no change does to a register: a value it writes is the
previous one. -/
theorem registers_noChange (consistent : Consistent machine) {update : Update} {calls : List Call}
    (idle : (machine.threads thread).inside = none)
    (same : update.detects machine.side.previous.toPumpFields = false)
    (current : side.current.toPumpFields = update.write machine.side.current.toPumpFields)
    (previous : side.previous.toPumpFields = machine.side.previous.toPumpFields) (register : Register) :
    let left := machine.become thread side ⟨none, calls⟩
    (∃ any, (left.threads any).holds register = some (register.value side.current.toPumpFields)) ∨
    (register.value left.side.previous.toPumpFields = register.value side.current.toPumpFields ∧
      ∃ any, (left.threads any).holds register = none) := by
  intro left
  have free : (left.threads thread).holds register = none := free_become machine thread side calls register
  show _ ∨ register.value side.previous.toPumpFields = _ ∧ _
  rw [current, value_write, previous]
  cases puts : update.puts register with
  | some value =>
    refine .inr ⟨?_, thread, free⟩
    rw [value_eq_of_not_detects same puts, Option.getD_some]
  | none =>
    rcases consistent.registers register with ⟨any, held⟩ | ⟨agree, -⟩
    · obtain rfl := holder_eq_other idle held
      refine .inl ⟨thread.other, ?_⟩
      rw [Machine.become_other]
      exact held
    · exact .inr ⟨agree, thread, free⟩

/-- The first locked section of an update that finds no change. -/
theorem consistent_noChange (consistent : Consistent machine) {update : Update} {calls : List Call}
    (idle : (machine.threads thread).inside = none)
    (same : update.detects machine.side.previous.toPumpFields = false)
    (current : side.current.toPumpFields = update.write machine.side.current.toPumpFields)
    (previous : side.previous.toPumpFields = machine.side.previous.toPumpFields)
    (snapshots : newestSnapshot side.tables = newestSnapshot machine.side.tables)
    (http : thread = .http → FeedbackOnly ⟨none, calls⟩)
    (isFeedback : thread = .http → ∃ pumpId status, update = .feedback pumpId status) :
    Consistent (machine.become thread side ⟨none, calls⟩) := by
  have live : ∀ register : Register, register.value side.current.toPumpFields =
      (update.puts register).getD (register.value machine.side.current.toPumpFields) := by
    intro register
    rw [current, value_write]
  refine ⟨http_become consistent http, own_become consistent current nofun isFeedback,
    fun register => registers_noChange consistent idle same current previous register, ?_⟩
  by_cases moved : ∃ register value, update.puts register = some value ∧
    value ≠ register.value machine.side.current.toPumpFields
  · -- the write brings back the previous value, so the other thread holds the live one
    obtain ⟨register, value, puts, differs⟩ := moved
    rcases consistent.registers register with ⟨any, held⟩ | ⟨agree, -⟩
    · obtain rfl := holder_eq_other idle held
      refine .inr (.inr ⟨thread.other, register,
        register.value machine.side.current.toPumpFields, ?_, ?_, ?_⟩)
      · rw [Machine.become_other]
        exact held
      · rw [Machine.become_side, live, puts]
        exact differs.symm
      · rw [other_other]
        exact free_become machine thread side calls register
    · exact absurd ((value_eq_of_not_detects same puts).symm.trans agree) differs
  · have unmoved : side.current.toPumpFields = machine.side.current.toPumpFields := by
      refine fields_ext fun register => ?_
      rw [live]
      cases puts : update.puts register with
      | none => rfl
      | some value => exact not_not.mp fun differs => moved ⟨register, value, puts, differs⟩
    refine snapshot_outside consistent unmoved snapshots ?_ ?_
    · rintro ⟨owedUpdate, stage, inside, -⟩
      rw [idle] at inside
      cases inside
    · rintro register ⟨value, held, -⟩
      exact other_ne thread (holder_eq_other idle held).symm

/-- What the second locked section of an update does to a register: it is held by the other thread, or
stored as it is live. -/
theorem registers_remember (consistent : Consistent machine) {update : Update} {calls : List Call}
    (held : ∀ register, (machine.threads thread).holds register = update.puts register)
    (orderly : ∀ register value, update.puts register = some value →
      value = register.value machine.side.current.toPumpFields ∨
        (machine.threads thread.other).holds register ≠ none) (register : Register) :
    let left := machine.become thread (machine.side.remember update.write) ⟨none, calls⟩
    (∃ any, (left.threads any).holds register =
      some (register.value machine.side.current.toPumpFields)) ∨
    (register.value left.side.previous.toPumpFields =
        register.value machine.side.current.toPumpFields ∧
      ∃ any, (left.threads any).holds register = none) := by
  intro left
  have free : (left.threads thread).holds register = none := free_become machine thread _ calls register
  have byOther : (∃ any, (machine.threads any).holds register =
        some (register.value machine.side.current.toPumpFields)) →
      update.puts register ≠ some (register.value machine.side.current.toPumpFields) →
        ∃ any, (left.threads any).holds register =
          some (register.value machine.side.current.toPumpFields) := by
    rintro ⟨any, holds⟩ notOwn
    rcases eq_or_eq_other any thread with rfl | rfl
    · exact absurd ((held register).symm.trans holds) notOwn
    · refine ⟨thread.other, ?_⟩
      rw [Machine.become_other]
      exact holds
  have stored : register.value left.side.previous.toPumpFields =
      (update.puts register).getD (register.value machine.side.previous.toPumpFields) :=
    value_write update machine.side.previous.toPumpFields register
  rw [stored]
  cases puts : update.puts register with
  | none =>
    rw [puts] at byOther
    rcases consistent.registers register with isHeld | ⟨same, -⟩
    · exact .inl (byOther isHeld nofun)
    · exact .inr ⟨same, thread, free⟩
  | some value =>
    rw [puts] at byOther
    by_cases isLive : value = register.value machine.side.current.toPumpFields
    · exact .inr ⟨isLive, thread, free⟩
    · -- the value is outdated, so the other thread is inside and holds the live one
      have otherHolds := (orderly register value puts).resolve_left isLive
      rcases consistent.registers register with isHeld | ⟨-, any, nobody⟩
      · exact .inl (byOther isHeld fun same => isLive (Option.some.inj same))
      · rcases eq_or_eq_other any thread with rfl | rfl
        · rw [held, puts] at nobody
          cases nobody
        · exact absurd nobody otherHolds

/-- The second locked section of an update, which stores what the thread held. -/
theorem consistent_remember (consistent : Consistent machine) {update : Update} {calls : List Call}
    (inside : (machine.threads thread).inside = some (update, .remember))
    (http : thread = .http → FeedbackOnly ⟨none, calls⟩)
    (orderly : ∀ register value, update.puts register = some value →
      value = register.value machine.side.current.toPumpFields ∨
        (machine.threads thread.other).holds register ≠ none) :
    Consistent (machine.become thread (machine.side.remember update.write) ⟨none, calls⟩) := by
  have held : ∀ register, (machine.threads thread).holds register = update.puts register := by
    intro register
    rw [ThreadState.holds, inside]
    rfl
  refine ⟨http_become consistent http, fun register value notStatus holds => ?_,
    fun register => registers_remember consistent held orderly register, ?_⟩
  · rcases eq_or_eq_other .mqtt thread with rfl | isOther
    · rw [free_become] at holds
      cases holds
    · rw [isOther, Machine.become_other, ← isOther] at holds
      exact consistent.own register value notStatus holds
  · refine snapshot_outside consistent rfl rfl ?_ ?_
    · rintro ⟨owedUpdate, stage, owed, early⟩
      rw [inside] at owed
      cases owed
      exact early rfl
    · rintro register ⟨value, holds, differs, nobody⟩
      rw [held] at holds
      rcases orderly register value holds with isLive | otherHolds
      · exact differs isLive
      · exact otherHolds nobody

end Steps

/-! ### Orderly runs -/

/-- The thread is inside a change branch for the status of a pump. -/
def ThreadState.InFeedback (pumpId : Int32) (state : ThreadState) : Prop :=
  match state.inside with
  | some (.feedback own _, _) => own = pumpId
  | _ => False

instance (pumpId : Int32) (state : ThreadState) : Decidable (state.InFeedback pumpId) := by
  unfold ThreadState.InFeedback
  split <;> infer_instance

/-- A thread leaves the branch of a feedback only while the live status is still its own, or while
the other thread is inside a branch of the same status. -/
def Orderly (machine : Machine) : Label → Prop
  | .step thread _ =>
    match (machine.threads thread).inside with
    | some (.feedback pumpId status, .remember) =>
      machine.side.current.setStatus pumpId status = machine.side.current.toPumpFields ∨
        (machine.threads thread.other).InFeedback pumpId
    | _ => True
  | _ => True

instance (machine : Machine) (label : Label) : Decidable (Orderly machine label) := by
  unfold Orderly
  split
  · split <;> infer_instance
  · infer_instance

theorem inside_of_inFeedback {pumpId : Int32} {state : ThreadState}
    (inFeedback : state.InFeedback pumpId) :
    ∃ status stage, state.inside = some (.feedback pumpId status, stage) := by
  unfold ThreadState.InFeedback at inFeedback
  split at inFeedback
  · rename_i own status stage inside
    exact ⟨status, stage, inFeedback ▸ inside⟩
  · cases inFeedback

/-- What an orderly step stores is live, or the other thread is inside and will store in turn. -/
theorem restores_of_orderly {machine : Machine} (consistent : Consistent machine) {thread : Thread}
    {now : Int64} (orderly : Orderly machine (.step thread now)) {update : Update}
    (inside : (machine.threads thread).inside = some (update, .remember))
    (register : Register) (value : Int32) (puts : update.puts register = some value) :
    value = register.value machine.side.current.toPumpFields ∨
      (machine.threads thread.other).holds register ≠ none := by
  have isOwn : (∀ pump, register ≠ .of .feedback pump) → (∀ pumpId status,
      update ≠ .feedback pumpId status) →
        value = register.value machine.side.current.toPumpFields := by
    intro notStatus notFeedback
    have isMqtt : thread = .mqtt := by
      rcases eq_or_eq_other thread .mqtt with isMqtt | isHttp
      · exact isMqtt
      · obtain rfl : thread = .http := isHttp
        obtain ⟨pumpId, status, isFeedback⟩ := consistent.http.1 update .remember inside
        exact absurd isFeedback (notFeedback pumpId status)
    subst isMqtt
    refine consistent.own register value notStatus ?_
    rw [ThreadState.holds, inside]
    exact puts
  cases update with
  | command pumpId state =>
    refine .inl (isOwn (fun pump => ?_) nofun)
    rintro rfl
    cases puts
  | system busy alarm =>
    refine .inl (isOwn (fun pump => ?_) nofun)
    rintro rfl
    cases puts
  | feedback pumpId status =>
    unfold Orderly at orderly
    dsimp only at orderly
    rw [inside] at orderly
    rcases orderly with unchanged | inFeedback
    · have written := value_write (.feedback pumpId status) machine.side.current.toPumpFields register
      rw [puts] at written
      exact .inl (written.symm.trans (congrArg (fun fields => register.value fields) unchanged))
    · right
      obtain ⟨otherStatus, stage, otherInside⟩ := inside_of_inFeedback inFeedback
      rw [ThreadState.holds, otherInside]
      show (Update.feedback pumpId otherStatus).puts register ≠ none
      cases register with
      | of table pump =>
        cases table with
        | commands => cases puts
        | feedback =>
          have own : pumpId = pump.id := by
            by_contra other
            simp [Update.puts, other] at puts
          simp [Update.puts, own]
      | busy => cases puts
      | alarm => cases puts

/-- The POST of a feedback makes no other update. -/
theorem feedbackOnly_postCalls (jsonC : JsonC) (payload : List UInt8) :
    FeedbackOnly ⟨none, postCalls jsonC payload⟩ := by
  refine ⟨nofun, fun call member => ?_⟩
  unfold postCalls at member
  split at member
  · cases member
  · split at member
    · exact ⟨_, _, List.mem_singleton.mp member⟩
    · cases member

theorem insertOwnRow_current (update : Update) (side : PumpSide) :
    (update.insertOwnRow side).current = side.current := by
  cases update with
  | command pumpId state => rfl
  | feedback pumpId status => rfl
  | system busy alarm => rfl

theorem insertOwnRow_previous (update : Update) (side : PumpSide) :
    (update.insertOwnRow side).previous = side.previous := by
  cases update with
  | command pumpId state => rfl
  | feedback pumpId status => rfl
  | system busy alarm => rfl

theorem insertOwnRow_newestSnapshot (update : Update) (side : PumpSide) :
    newestSnapshot (update.insertOwnRow side).tables = newestSnapshot side.tables := by
  cases update with
  | command pumpId state => rfl
  | feedback pumpId status => rfl
  | system busy alarm => rfl

theorem newestSnapshot_insertSnapshot (side : PumpSide) :
    newestSnapshot (insertSnapshot true side).tables = some side.current.toPumpFields := by
  unfold newestSnapshot
  rw [insertSnapshot_pumpSnapshots, if_pos rfl, List.getLast?_concat]
  rfl

/-- A thread that waits for its next message takes it. -/
theorem consistent_take {machine : Machine} (consistent : Consistent machine) {thread : Thread}
    (waiting : machine.Waiting thread) {calls : List Call}
    (http : thread = .http → FeedbackOnly ⟨none, calls⟩) :
    Consistent (machine.become thread machine.side ⟨none, calls⟩) := by
  have idle : (machine.threads thread).inside = none := by rw [show machine.threads thread = {} from waiting]
  refine consistent_quiet consistent rfl rfl ?_ http (.inr ⟨rfl, ?_⟩)
  · funext register
    rw [ThreadState.holds, ThreadState.holds, idle]
  · rintro ⟨update, stage, inside, -⟩
    rw [idle] at inside
    cases inside

/-- A step inside a change branch. -/
theorem consistent_branchStep {machine : Machine} (consistent : Consistent machine) {thread : Thread}
    {now : Int64} (orderly : Orderly machine (.step thread now)) {update : Update} {stage : Stage}
    {calls : List Call} (at_ : machine.threads thread = ⟨some (update, stage), calls⟩) :
    Consistent (machine.branchStep thread update calls stage) := by
  have inside : (machine.threads thread).inside = some (update, stage) := by rw [at_]
  have http : ∀ later, thread = .http → FeedbackOnly ⟨some (update, later), calls⟩ := by
    rintro later rfl
    have feedbackOnly := consistent.http
    rw [at_] at feedbackOnly
    refine ⟨?_, feedbackOnly.2⟩
    rintro other otherStage ⟨⟩
    exact feedbackOnly.1 update stage rfl
  have held : ∀ later, ThreadState.holds ⟨some (update, later), calls⟩ =
      (machine.threads thread).holds := by
    intro later
    rw [at_]
    rfl
  cases stage with
  | addHistory =>
    exact consistent_quiet consistent rfl rfl (held _) (http _)
      (.inr ⟨rfl, fun _ => ⟨update, .insertRow, rfl, nofun⟩⟩)
  | insertRow =>
    refine consistent_quiet consistent ?_ ?_ (held _) (http _)
      (.inr ⟨insertOwnRow_newestSnapshot update machine.side,
        fun _ => ⟨update, .insertSnapshot, rfl, nofun⟩⟩)
    · rw [insertOwnRow_current]
    · rw [insertOwnRow_previous]
  | insertSnapshot =>
    refine consistent_quiet consistent rfl rfl (held _) (http _) (.inl ?_)
    rw [newestSnapshot_insertSnapshot]
    rfl
  | remember =>
    have later : thread = .http → FeedbackOnly ⟨none, calls⟩ :=
      fun isHttp => ⟨nofun, (http .remember isHttp).2⟩
    exact consistent_remember consistent inside later (restores_of_orderly consistent orderly inside)

/-- The first locked section of an update. -/
theorem consistent_openUpdate {machine : Machine} (consistent : Consistent machine)
    {thread : Thread} (now : Int64) {update : Update} {calls : List Call}
    (idle : (machine.threads thread).inside = none)
    (own : thread = .http → ∃ pumpId status, update = .feedback pumpId status)
    (others : thread = .http →
      ∀ call ∈ calls, ∃ pumpId status, call = .update (.feedback pumpId status)) :
    Consistent (machine.openUpdate thread now update calls) := by
  let side := machine.side.stamp now update.write
  have current : side.current.toPumpFields = update.write machine.side.current.toPumpFields := rfl
  have previous : side.previous.toPumpFields = machine.side.previous.toPumpFields := rfl
  cases detected : update.detects machine.side.previous.toPumpFields with
  | false =>
    have step : machine.openUpdate thread now update calls = machine.become thread side ⟨none, calls⟩ := by
      rw [Machine.openUpdate, if_neg (Bool.eq_false_iff.mp detected)]
    rw [step]
    exact consistent_noChange consistent idle detected current previous rfl
      (fun isHttp => ⟨nofun, others isHttp⟩) own
  | true =>
    have step : machine.openUpdate thread now update calls =
        machine.become thread side ⟨some (update, update.firstStage), calls⟩ := by
      rw [Machine.openUpdate, if_pos detected]
    rw [step]
    refine consistent_change consistent idle current previous (fun isHttp => ⟨?_, others isHttp⟩) ?_
    · rintro other stage ⟨⟩
      exact own isHttp
    · cases update <;> exact nofun

/-- **An orderly step keeps the invariant.** -/
theorem consistent_next (jsonC : JsonC) (machine : Machine) (label : Label)
    (consistent : Consistent machine) (orderly : Orderly machine label) :
    Consistent (machine.next jsonC label) := by
  cases label with
  | message topicName payload =>
    unfold Machine.next
    dsimp only
    split
    · rename_i waiting
      exact consistent_take consistent waiting nofun
    · exact consistent
  | post payload =>
    unfold Machine.next
    dsimp only
    split
    · rename_i waiting
      exact consistent_take consistent waiting fun _ => feedbackOnly_postCalls jsonC payload
    · exact consistent
  | step thread now =>
    show Consistent (machine.advance thread now)
    unfold Machine.advance
    rcases at_ : machine.threads thread with ⟨_ | ⟨update, stage⟩, calls⟩
    · have idle : (machine.threads thread).inside = none := by rw [at_]
      have feedbackCalls : thread = .http → ∀ call ∈ calls, ∃ pumpId status,
          call = .update (.feedback pumpId status) := by
        rintro rfl
        have feedbackOnly := consistent.http
        rw [at_] at feedbackOnly
        exact feedbackOnly.2
      rcases calls with _ | ⟨update | ⟨busy, alarm⟩, calls⟩
      · exact consistent
      · have others : thread = .http → ∀ call ∈ calls, ∃ pumpId status,
            call = .update (.feedback pumpId status) :=
          fun isHttp call member => feedbackCalls isHttp call (List.mem_cons_of_mem _ member)
        have own : thread = .http → ∃ pumpId status, update = .feedback pumpId status := by
          intro isHttp
          obtain ⟨pumpId, status, same⟩ := feedbackCalls isHttp (.update update) List.mem_cons_self
          exact ⟨pumpId, status, Call.update.inj same⟩
        exact consistent_openUpdate consistent now idle own others
      · refine consistent_quiet consistent rfl rfl ?_ ?_ (.inr ⟨rfl, ?_⟩)
        · funext register
          rw [at_]
          rfl
        · intro isHttp
          obtain ⟨pumpId, status, same⟩ :=
            feedbackCalls isHttp (.fillSystem busy alarm) List.mem_cons_self
          cases same
        · rintro ⟨update, stage, inside, -⟩
          rw [idle] at inside
          cases inside
    · exact consistent_branchStep consistent orderly at_

/-- **In a run of orderly steps the law holds in every state.** -/
theorem agreement_always (jsonC : JsonC) (labels : List Label)
    (orderly : Runs.Guarded (Machine.next jsonC) Orderly {} labels) :
    Runs.Always (Machine.next jsonC) Agreement {} labels := by
  have consistent := Runs.always_of_guarded (consistent_next jsonC) consistent_initial orderly
  exact consistent.mono fun _ => agreement_of_consistent

/-- **A step that is not orderly breaks the law.** It stores an outdated status while no thread is
inside a branch that would store the live one. -/
theorem not_agreement_of_not_orderly (jsonC : JsonC) {machine : Machine} {thread : Thread}
    {now : Int64} (disorderly : ¬ Orderly machine (.step thread now))
    (otherIdle : (machine.threads thread.other).inside = none) :
    ¬ Agreement (machine.next jsonC (.step thread now)) := by
  unfold Orderly at disorderly
  dsimp only at disorderly
  split at disorderly
  · rename_i pumpId status inside
    have changes := (not_or.mp disorderly).1
    have at_ : machine.threads thread =
        ⟨some (.feedback pumpId status, .remember), (machine.threads thread).calls⟩ := by
      rw [← inside]
    have step : machine.next jsonC (.step thread now) =
        machine.become thread (machine.side.remember (PumpFields.setStatus pumpId status))
          ⟨none, (machine.threads thread).calls⟩ := by
      show machine.advance thread now = _
      unfold Machine.advance
      rw [at_]
      rfl
    rw [step]
    intro agreement
    have same := (agreement fun any => by
      rcases eq_or_eq_other any thread with rfl | rfl
      · rw [Machine.become_self]
      · rw [Machine.become_other]
        exact otherIdle).1
    have stored : machine.side.previous.setStatus pumpId status = machine.side.current.toPumpFields :=
      same
    -- the stored status is the live one after all, so writing it changes nothing
    have again := write_write (.feedback pumpId status) machine.side.previous.toPumpFields
    exact changes (stored ▸ again)
  · exact absurd trivial disorderly

/-! ### Uninterrupted threads -/

section Solo

variable (jsonC : JsonC)

/-- What a call does when no other thread interrupts it. -/
def callAlone (now : Int64) (side : PumpSide) : Call → PumpSide
  | .update update => applyUpdate { now := now } update side
  | .fillSystem busy alarm =>
    applyUpdate { now := now }
      (.system (busy.getD side.current.busy) (alarm.getD side.current.alarm)) side

@[simp]
theorem become_become (machine : Machine) (thread : Thread) (first second : PumpSide)
    (firstState secondState : ThreadState) :
    (machine.become thread first firstState).become thread second secondState =
      machine.become thread second secondState := by
  unfold Machine.become
  simp only [Function.update_idem]

/-- The steps of one thread. -/
def steps (thread : Thread) (now : Int64) (count : ℕ) : List Label :=
  List.replicate count (.step thread now)

theorem advance_update (machine : Machine) (thread : Thread) (now : Int64) (side : PumpSide)
    (update : Update) (calls : List Call) :
    (machine.become thread side ⟨none, .update update :: calls⟩).advance thread now =
      machine.become thread (side.stamp now update.write)
        ⟨if update.detects side.previous.toPumpFields then some (update, update.firstStage) else none,
          calls⟩ := by
  unfold Machine.advance
  rw [Machine.become_self]
  show Machine.openUpdate thread now update calls _ = _
  rw [Machine.openUpdate, become_become]
  rfl

theorem advance_branch (machine : Machine) (thread : Thread) (now : Int64) (side : PumpSide)
    (update : Update) (stage : Stage) (calls : List Call) :
    (machine.become thread side ⟨some (update, stage), calls⟩).advance thread now =
      match stage with
      | .addHistory =>
        machine.become thread (addPumpHistory side.current side) ⟨some (update, .insertRow), calls⟩
      | .insertRow =>
        machine.become thread (update.insertOwnRow side) ⟨some (update, .insertSnapshot), calls⟩
      | .insertSnapshot =>
        machine.become thread (insertSnapshot true side) ⟨some (update, .remember), calls⟩
      | .remember => machine.become thread (side.remember update.write) ⟨none, calls⟩ := by
  unfold Machine.advance
  rw [Machine.become_self]
  show Machine.branchStep thread update calls _ stage = _
  cases stage with
  | addHistory => exact become_become machine thread _ _ _ _
  | insertRow => exact become_become machine thread _ _ _ _
  | insertSnapshot => exact become_become machine thread _ _ _ _
  | remember => exact become_become machine thread _ _ _ _

/-- **The steps of an update that is not interrupted are the update function.** -/
theorem solo_update (machine : Machine) (thread : Thread) (now : Int64) (side : PumpSide)
    (update : Update) (calls : List Call) :
    ∃ count, Runs.run (Machine.next jsonC)
        (machine.become thread side ⟨none, .update update :: calls⟩) (steps thread now count) =
      machine.become thread (applyUpdate { now := now } update side) ⟨none, calls⟩ := by
  cases detected : update.detects side.previous.toPumpFields with
  | false =>
    refine ⟨1, ?_⟩
    show (machine.become thread side _).advance thread now = _
    rw [advance_update, applyUpdate, detected]
    rfl
  | true =>
    cases update with
    | command pumpId state =>
      refine ⟨5, ?_⟩
      show (((((machine.become thread side _).advance thread now).advance thread now).advance
        thread now).advance thread now).advance thread now = _
      rw [advance_update, detected, applyUpdate, detected]
      simp only [if_true, Update.firstStage, advance_branch]
      rfl
    | feedback pumpId status =>
      refine ⟨4, ?_⟩
      show ((((machine.become thread side _).advance thread now).advance thread now).advance
        thread now).advance thread now = _
      rw [advance_update, detected, applyUpdate, detected]
      simp only [if_true, Update.firstStage, advance_branch]
      rfl
    | system busy alarm =>
      refine ⟨3, ?_⟩
      show (((machine.become thread side _).advance thread now).advance thread now).advance
        thread now = _
      rw [advance_update, detected, applyUpdate, detected]
      simp only [if_true, Update.firstStage, advance_branch]
      rfl

/-- The calls of a thread that is not interrupted. -/
theorem solo_calls (machine : Machine) (thread : Thread) (now : Int64) (side : PumpSide)
    (calls : List Call) :
    ∃ count, Runs.run (Machine.next jsonC) (machine.become thread side ⟨none, calls⟩)
        (steps thread now count) =
      machine.become thread (calls.foldl (callAlone now) side) {} := by
  induction calls generalizing side with
  | nil => exact ⟨0, rfl⟩
  | cons call rest ih =>
    obtain ⟨later, runLater⟩ := ih (callAlone now side call)
    cases call with
    | update update =>
      obtain ⟨count, runUpdate⟩ := solo_update jsonC machine thread now side update rest
      refine ⟨count + later, ?_⟩
      rw [steps, List.replicate_add, Runs.run_append]
      rw [steps] at runUpdate
      rw [runUpdate]
      exact runLater
    | fillSystem busy alarm =>
      obtain ⟨count, runUpdate⟩ := solo_update jsonC machine thread now side
        (.system (busy.getD side.current.busy) (alarm.getD side.current.alarm)) rest
      have filled : (machine.become thread side ⟨none, .fillSystem busy alarm :: rest⟩).advance
          thread now = machine.become thread side ⟨none, .update (.system
            (busy.getD side.current.busy) (alarm.getD side.current.alarm)) :: rest⟩ := by
        unfold Machine.advance
        rw [Machine.become_self]
        exact become_become machine thread _ _ _ _
      refine ⟨1 + (count + later), ?_⟩
      rw [steps, List.replicate_add, Runs.run_append]
      show Runs.run _ ((machine.become thread side _).advance thread now) _ = _
      rw [filled, List.replicate_add, Runs.run_append]
      rw [steps] at runUpdate
      rw [runUpdate]
      exact runLater

theorem foldl_controlCalls (now : Int64) (payload : List UInt8) (side : PumpSide) :
    (controlCalls jsonC payload).foldl (callAlone now) side =
      pumpControl jsonC { now := now } payload side := by
  unfold controlCalls pumpControl
  cases jsonC.tokenerParse payload with
  | none => rfl
  | some parsed =>
    dsimp only
    cases jsonC.objectGetEx parsed "pump_id" <;> cases jsonC.objectGetEx parsed "state"
    · rfl
    · rfl
    · rfl
    · exact (updatePumpStatus_eq _ _ _ side).symm

theorem foldl_statusCalls (now : Int64) (parsed : jsonC.Value) (side : PumpSide) :
    (statusCalls jsonC parsed).foldl (callAlone now) side =
      feedbackStatus jsonC { now := now } parsed side := by
  unfold statusCalls feedbackStatus
  cases jsonC.objectGetEx parsed "pump_id" <;> cases jsonC.objectGetEx parsed "status"
  · rfl
  · rfl
  · rfl
  · rename_i pumpId status
    by_cases range : 0 ≤ jsonC.getInt status ∧ jsonC.getInt status ≤ 3
    · simp only [if_pos range]
      exact (updatePumpFeedback_eq _ _ _ side).symm
    · simp only [if_neg range]
      rfl

theorem foldl_systemCalls (now : Int64) (parsed : jsonC.Value) (side : PumpSide) :
    (systemCalls jsonC parsed).foldl (callAlone now) side =
      feedbackSystem jsonC { now := now } parsed side := by
  unfold systemCalls feedbackSystem
  by_cases some : (newBusy jsonC parsed).isSome ∨ (newAlarm jsonC parsed).isSome
  · simp only [if_pos some]
    exact (updateSystemStatus_eq _ _ _ side).symm
  · simp only [if_neg some]
    rfl

theorem foldl_messageCalls (topicName : String) (payload : List UInt8) (now : Int64)
    (server : ServerState) :
    (messageCalls jsonC topicName payload).foldl (callAlone now) server.pumps =
      (mqttMessageArrived jsonC (.at now) topicName payload server).pumps := by
  unfold messageCalls mqttMessageArrived
  by_cases heartbeat : topicName = "gateway/heartbeat"
  · rw [if_pos heartbeat, if_pos heartbeat]
    rfl
  · rw [if_neg heartbeat, if_neg heartbeat]
    by_cases control : topicName = "pump/control"
    · rw [if_pos control, if_pos control]
      exact foldl_controlCalls jsonC now _ server.pumps
    · rw [if_neg control, if_neg control]
      by_cases feedback : topicName = "pump/feedback"
      · rw [if_pos feedback, if_pos feedback]
        show List.foldl _ _ _ = pumpFeedback jsonC (.at now) (mqttPayload payload) server.pumps
        unfold pumpFeedback
        cases jsonC.tokenerParse (mqttPayload payload) with
        | none => rfl
        | some parsed =>
          dsimp only
          rw [List.foldl_append, foldl_statusCalls, foldl_systemCalls]
          rfl
      · rw [if_neg feedback, if_neg feedback]
        rfl

/-- **A message that is not interrupted is handled as by the sequential server.** -/
theorem solo_message {machine : Machine} (waiting : machine.Waiting .mqtt) (topicName : String)
    (payload : List UInt8) (now : Int64) (gateway : GatewaySide) :
    ∃ count, Runs.run (Machine.next jsonC) machine
        (.message topicName payload :: steps .mqtt now count) =
      machine.become .mqtt
        (mqttMessageArrived jsonC (.at now) topicName payload ⟨machine.side, gateway⟩).pumps {} := by
  obtain ⟨count, ran⟩ := solo_calls jsonC machine .mqtt now machine.side
    (messageCalls jsonC topicName payload)
  refine ⟨count, ?_⟩
  rw [Runs.run_cons]
  have taken : machine.next jsonC (.message topicName payload) =
      machine.become .mqtt machine.side ⟨none, messageCalls jsonC topicName payload⟩ :=
    if_pos waiting
  rw [taken, ran, ← foldl_messageCalls]

theorem foldl_postCalls (now : Int64) (payload : List UInt8) (side : PumpSide) :
    (postCalls jsonC payload).foldl (callAlone now) side =
      (handlePumpFeedback jsonC { now := now } payload side).2 := by
  unfold postCalls handlePumpFeedback
  cases jsonC.tokenerParse payload with
  | none => rfl
  | some parsed =>
    dsimp only
    cases jsonC.objectGetEx parsed "pump_id" <;> cases jsonC.objectGetEx parsed "status"
    · rfl
    · rfl
    · rfl
    · exact (updatePumpFeedback_eq _ _ _ side).symm

/-- **So is a POST.** -/
theorem solo_post {machine : Machine} (waiting : machine.Waiting .http) (payload : List UInt8)
    (now : Int64) :
    ∃ count, Runs.run (Machine.next jsonC) machine (.post payload :: steps .http now count) =
      machine.become .http (handlePumpFeedback jsonC { now := now } payload machine.side).2 {} := by
  obtain ⟨count, ran⟩ := solo_calls jsonC machine .http now machine.side (postCalls jsonC payload)
  refine ⟨count, ?_⟩
  rw [Runs.run_cons]
  have taken : machine.next jsonC (.post payload) =
      machine.become .http machine.side ⟨none, postCalls jsonC payload⟩ := if_pos waiting
  rw [taken, ran, ← foldl_postCalls]

end Solo

/-- Both threads find that pump 1 has changed; the status the POST reports is the older one. -/
def overlappingRun (posted : String) : List Label :=
  [.post (ascii posted), .step .http 100,
    .message "pump/feedback" (ascii "\x7b\"pump_id\":1,\"status\":2\x7d"),
    .step .mqtt 101, .step .mqtt 101, .step .mqtt 101, .step .mqtt 101,
    .step .http 102, .step .http 102, .step .http 102]

/-- Two reports of the same status overlap, and the law holds throughout. -/
theorem agreement_overlappingRun :
    Runs.Guarded (Machine.next JsonC.reference) Orderly {}
        (overlappingRun "\x7b\"pump_id\":1,\"status\":2\x7d") ∧
      Runs.Always (Machine.next JsonC.reference) Agreement {}
        (overlappingRun "\x7b\"pump_id\":1,\"status\":2\x7d") := by
  have orderly : Runs.Guarded (Machine.next JsonC.reference) Orderly {}
      (overlappingRun "\x7b\"pump_id\":1,\"status\":2\x7d") := by decide +kernel
  exact ⟨orderly, agreement_always JsonC.reference _ orderly⟩

/-- The older report is stored last: the previous status is 1, the live one 2. -/
theorem overlapping_disagree :
    ¬ ∀ labels : List Label, Runs.Always (Machine.next JsonC.reference) Agreement {} labels := by
  intro always
  have agreement := Runs.always_iff.mp (always (overlappingRun "\x7b\"pump_id\":1,\"status\":1\x7d"))
    _ List.prefix_rfl
  have idle : ∀ thread, ((Runs.run (Machine.next JsonC.reference) {}
      (overlappingRun "\x7b\"pump_id\":1,\"status\":1\x7d")).threads thread).inside = none := by
    intro thread
    cases thread with
    | mqtt => decide +kernel
    | http => decide +kernel
  exact absurd (agreement idle).1 (by decide +kernel)

end ServerPump
