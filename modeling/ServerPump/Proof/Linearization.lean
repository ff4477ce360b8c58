/-
**The live state under two threads is that of a sequential order.**

A feedback message is up to three locked sections, and the sections of a POST fall between them. Still
each input takes effect at one of its steps: one that begins with a hardware status when that status
is written, any other when it is taken. What the MQTT thread has left to do then, commands and system
statuses, commutes with the statuses the HTTP thread writes.

* `moves_turn`: what one turn can do.
* `settle`: the fields some calls lead to; `handle_fields` says that handling an input settles its calls.
* `linear_turn`: the invariant. Each thread's inputs taken so far are those in the order, except for at
  most one that has not written its status yet, and handling the order one by one gives the live
  fields with the calls left over settled.
* `fields_linearizable`: when no input is being handled, the live fields are those of an order that
  keeps each thread's own order.
-/

import Mathlib.Data.List.Induction
import ServerPump.Proof.FailedInsert
import ServerPump.Proof.Interleaving
import ServerPump.Server.Lifetimes

namespace ServerPump

open CText

/-! ### What a turn can do -/

/-- What the tables gain in one step: rows with the live time, and snapshots of the live state. -/
structure Logged (status : PumpStatus) (before after : PumpTables) : Prop where
  commands : ∃ rows, after.pumpCommands = before.pumpCommands ++ rows ∧
    ∀ row ∈ rows, row.timestamp = status.timestamp
  feedback : ∃ rows, after.pumpFeedback = before.pumpFeedback ++ rows ∧
    ∀ row ∈ rows, row.timestamp = status.timestamp
  snapshots : ∃ rows, after.pumpSnapshots = before.pumpSnapshots ++ rows ∧
    ∀ row ∈ rows, row = snapshotOf status.toPumpFields status.timestamp

/-- The ways a machine moves in one turn. -/
inductive Machine.Moves (jsonC : JsonC) (machine : Machine) : Turn → Machine → Prop
  /-- An input is taken by its thread. -/
  | take {turn : Turn} (input : Input) (takes : machine.takes turn.label = some input)
      (waiting : machine.Waiting input.thread) :
      Moves jsonC machine turn
        (machine.become input.thread machine.side ⟨none, input.calls jsonC⟩)
  /-- Nothing happens. -/
  | stay {turn : Turn} (takes : machine.takes turn.label = none) : Moves jsonC machine turn machine
  /-- A step inside a change branch: the live state and the calls left are as before. -/
  | inside {turn : Turn} (thread : Thread) (side : PumpSide) (branch : Option (Update × Stage))
      (takes : machine.takes turn.label = none)
      (busy : (machine.threads thread).inside ≠ none)
      (current : side.current = machine.side.current)
      (logged : Logged machine.side.current machine.side.tables side.tables) :
      Moves jsonC machine turn (machine.become thread side ⟨branch, (machine.threads thread).calls⟩)
  /-- The first locked section of an update. -/
  | opens {inserted : Bool} (thread : Thread) (now : Int64) (update : Update) (calls : List Call)
      (here : machine.threads thread = ⟨none, .update update :: calls⟩) :
      Moves jsonC machine ⟨.step thread now, inserted⟩ (machine.openUpdate thread now update calls)
  /-- The missing half of a system status is read. -/
  | fills {turn : Turn} (thread : Thread) (busy alarm : Option Int32) (calls : List Call)
      (takes : machine.takes turn.label = none)
      (here : machine.threads thread = ⟨none, .fillSystem busy alarm :: calls⟩) :
      Moves jsonC machine turn (machine.fillSystem thread busy alarm calls)

theorem logged_refl (status : PumpStatus) (tables : PumpTables) : Logged status tables tables where
  commands := ⟨[], (List.append_nil _).symm, nofun⟩
  feedback := ⟨[], (List.append_nil _).symm, nofun⟩
  snapshots := ⟨[], (List.append_nil _).symm, nofun⟩

theorem logged_insertOwnRow (update : Update) (side : PumpSide) :
    Logged side.current side.tables (update.insertOwnRow side).tables := by
  cases update with
  | command pumpId state =>
    refine ⟨⟨[⟨pumpId, state, side.current.timestamp, "api"⟩], rfl, ?_⟩,
      ⟨[], (List.append_nil _).symm, nofun⟩, ⟨[], (List.append_nil _).symm, nofun⟩⟩
    intro row member
    rw [List.mem_singleton.mp member]
  | feedback pumpId status =>
    refine ⟨⟨[], (List.append_nil _).symm, nofun⟩,
      ⟨[⟨pumpId, status, side.current.timestamp⟩], rfl, ?_⟩, ⟨[], (List.append_nil _).symm, nofun⟩⟩
    intro row member
    rw [List.mem_singleton.mp member]
  | system busy alarm => exact logged_refl _ _

theorem logged_insertSnapshot (side : PumpSide) :
    Logged side.current side.tables (insertSnapshot true side).tables where
  commands := ⟨[], (List.append_nil _).symm, nofun⟩
  feedback := ⟨[], (List.append_nil _).symm, nofun⟩
  snapshots := ⟨[snapshotOf side.current.toPumpFields side.current.timestamp], rfl,
    fun _ member => List.mem_singleton.mp member⟩

section Turns

variable (jsonC : JsonC) (machine : Machine)

theorem moves_branchStep (turn : Turn) {thread : Thread} {update : Update} {calls : List Call}
    (stage : Stage) (takes : machine.takes turn.label = none)
    (here : machine.threads thread = ⟨some (update, stage), calls⟩)
    (next : machine.next jsonC turn.label = machine.branchStep thread update calls stage) :
    machine.Moves jsonC turn (machine.turn jsonC turn) := by
  have busy : (machine.threads thread).inside ≠ none := by
    rw [here]
    exact nofun
  obtain rfl : (machine.threads thread).calls = calls := by rw [here]
  obtain ⟨side, branch, moved, current, logged⟩ : ∃ side branch,
      machine.branchStep thread update (machine.threads thread).calls stage =
        machine.become thread side ⟨branch, (machine.threads thread).calls⟩ ∧
      side.current = machine.side.current ∧
      Logged machine.side.current machine.side.tables side.tables := by
    cases stage with
    | addHistory => exact ⟨_, _, rfl, rfl, logged_refl _ _⟩
    | insertRow =>
      exact ⟨_, _, rfl, insertOwnRow_current update _, logged_insertOwnRow update machine.side⟩
    | insertSnapshot => exact ⟨_, _, rfl, rfl, logged_insertSnapshot machine.side⟩
    | remember => exact ⟨_, _, rfl, rfl, logged_refl _ _⟩
  unfold Machine.turn
  rw [next, moved]
  cases turn.inserted with
  | true => exact .inside thread side branch takes busy current logged
  | false =>
    exact .inside thread { side with tables := machine.side.tables } branch takes busy current
      (logged_refl _ _)

theorem takes_step (thread : Thread) (now : Int64) : machine.takes (.step thread now) = none := rfl

/-- Where a step inserts nothing, the outcome of its insertion has no effect. -/
theorem turn_of_next {label : Label} {moved : Machine} (next : machine.next jsonC label = moved)
    (unlogged : moved.side.tables = machine.side.tables) (inserted : Bool) :
    machine.turn jsonC ⟨label, inserted⟩ = moved := by
  unfold Machine.turn
  dsimp only
  rw [next]
  cases inserted with
  | true => rfl
  | false => rw [if_neg nofun, ← unlogged]

/-- An input that arrives is taken, or the thread is busy. -/
theorem turn_input {label : Label} {input : Input} (arrives : label.input? = some input)
    (inserted : Bool) :
    machine.turn jsonC ⟨label, inserted⟩ =
      if machine.Waiting input.thread then
        machine.become input.thread machine.side ⟨none, input.calls jsonC⟩
      else machine := by
  refine turn_of_next jsonC machine ?_ ?_ inserted
  · cases label with
    | message topicName payload =>
      cases arrives
      rfl
    | post payload =>
      cases arrives
      rfl
    | step thread now => cases arrives
  · split <;> rfl

theorem moves_input {label : Label} {input : Input} (arrives : label.input? = some input)
    (inserted : Bool) : machine.Moves jsonC ⟨label, inserted⟩ (machine.turn jsonC ⟨label, inserted⟩) := by
  have takes : machine.takes label = if machine.Waiting input.thread then some input else none := by
    rw [Machine.takes, arrives, Option.filter_some]
    simp only [decide_eq_true_eq]
  rw [turn_input jsonC machine arrives]
  by_cases waiting : machine.Waiting input.thread
  · rw [if_pos waiting] at takes ⊢
    exact .take input takes waiting
  · rw [if_neg waiting] at takes ⊢
    exact .stay takes

section Steps

variable {machine} {thread : Thread} {calls : List Call}

/-- A thread that stands before an update opens it. -/
theorem turn_opens {update : Update} (here : machine.threads thread = ⟨none, .update update :: calls⟩)
    (now : Int64) (inserted : Bool) :
    machine.turn jsonC ⟨.step thread now, inserted⟩ = machine.openUpdate thread now update calls := by
  refine turn_of_next jsonC machine ?_ ?_ inserted
  · show machine.advance thread now = _
    unfold Machine.advance
    rw [here]
  · rfl

theorem turn_fills {busy alarm : Option Int32}
    (here : machine.threads thread = ⟨none, .fillSystem busy alarm :: calls⟩) (now : Int64)
    (inserted : Bool) :
    machine.turn jsonC ⟨.step thread now, inserted⟩ = machine.fillSystem thread busy alarm calls := by
  refine turn_of_next jsonC machine ?_ ?_ inserted
  · show machine.advance thread now = _
    unfold Machine.advance
    rw [here]
  · rfl

theorem turn_waits (here : machine.threads thread = ⟨none, []⟩) (now : Int64) (inserted : Bool) :
    machine.turn jsonC ⟨.step thread now, inserted⟩ = machine := by
  refine turn_of_next jsonC machine ?_ ?_ inserted
  · show machine.advance thread now = _
    unfold Machine.advance
    rw [here]
  · rfl

end Steps

/-- **What one turn can do.** -/
theorem moves_turn (turn : Turn) : machine.Moves jsonC turn (machine.turn jsonC turn) := by
  obtain ⟨label, inserted⟩ := turn
  cases label with
  | message topicName payload =>
    exact moves_input jsonC machine (show _ = some (Input.mqtt topicName payload) from rfl) inserted
  | post payload => exact moves_input jsonC machine (show _ = some (Input.feedbackPost payload) from rfl) inserted
  | step thread now =>
    rcases here : machine.threads thread with ⟨_ | ⟨update, stage⟩, calls⟩
    · rcases calls with _ | ⟨update | ⟨busy, alarm⟩, calls⟩
      · rw [turn_waits jsonC here]
        exact .stay rfl
      · rw [turn_opens jsonC here]
        exact .opens thread now update calls here
      · rw [turn_fills jsonC here]
        exact .fills thread busy alarm calls rfl here
    · have next : machine.next jsonC (.step thread now) = machine.advance thread now := rfl
      unfold Machine.advance at next
      rw [here] at next
      exact moves_branchStep jsonC machine _ stage rfl here next

end Turns

/-! ### The fields some calls lead to -/

/-- What a call writes. -/
def Call.settle (fields : PumpFields) : Call → PumpFields
  | .update made => made.write fields
  | .fillSystem busy alarm => fields.setSystem (busy.getD fields.busy) (alarm.getD fields.alarm)

/-- The fields after all of the calls. -/
def settle (calls : List Call) (fields : PumpFields) : PumpFields := calls.foldl Call.settle fields

theorem settle_append (first second : List Call) (fields : PumpFields) :
    settle (first ++ second) fields = settle second (settle first fields) := List.foldl_append

section Settle

variable (jsonC : JsonC)

theorem written_controlReports (io : UpdateIo) (payload : List UInt8) (fields : PumpFields) :
    written fields (controlReports jsonC io payload) = settle (controlCalls jsonC payload) fields := by
  unfold controlReports controlCalls
  cases jsonC.tokenerParse payload with
  | none => rfl
  | some parsed =>
    dsimp only
    cases jsonC.objectGetEx parsed "pump_id" <;> cases jsonC.objectGetEx parsed "state" <;> rfl

theorem written_postReports (io : UpdateIo) (payload : List UInt8) (fields : PumpFields) :
    written fields (postReports jsonC io payload) = settle (postCalls jsonC payload) fields := by
  unfold postReports postCalls
  cases jsonC.tokenerParse payload with
  | none => rfl
  | some parsed =>
    dsimp only
    cases jsonC.objectGetEx parsed "pump_id" <;> cases jsonC.objectGetEx parsed "status" <;> rfl

theorem written_statusReports (io : UpdateIo) (parsed : jsonC.Value) (fields : PumpFields) :
    written fields (statusReports jsonC io parsed) = settle (statusCalls jsonC parsed) fields := by
  unfold statusReports statusCalls
  cases jsonC.objectGetEx parsed "pump_id" <;> cases jsonC.objectGetEx parsed "status"
  · rfl
  · rfl
  · rfl
  · rename_i pumpId status
    by_cases range : 0 ≤ jsonC.getInt status ∧ jsonC.getInt status ≤ 3
    · simp only [if_pos range, validStatus_of_range range]
      rfl
    · simp only [if_neg range]
      rfl

theorem written_systemReports (io : UpdateIo) (parsed : jsonC.Value) (fields : PumpFields) :
    written fields (systemReports jsonC io parsed fields) =
      settle (systemCalls jsonC parsed) fields := by
  unfold systemReports systemCalls
  by_cases some : (newBusy jsonC parsed).isSome ∨ (newAlarm jsonC parsed).isSome
  · simp only [if_pos some]
    rfl
  · simp only [if_neg some]
    rfl

/-- A feedback message carries at most one hardware status. -/
theorem statusCalls_cases (parsed : jsonC.Value) :
    statusCalls jsonC parsed = [] ∨
      ∃ pumpId status, statusCalls jsonC parsed = [.update (.feedback pumpId status)] := by
  unfold statusCalls
  split
  · split
    · exact .inr ⟨_, _, rfl⟩
    · exact .inl rfl
  · exact .inl rfl

/-- The hardware status leaves `busy` and `alarm` alone. -/
theorem settle_statusCalls_system (parsed : jsonC.Value) (fields : PumpFields) :
    (settle (statusCalls jsonC parsed) fields).busy = fields.busy ∧
      (settle (statusCalls jsonC parsed) fields).alarm = fields.alarm := by
  rcases statusCalls_cases jsonC parsed with nothing | ⟨pumpId, status, one⟩
  · rw [nothing]
    exact ⟨rfl, rfl⟩
  · rw [one]
    exact ⟨setStatus_busy pumpId status fields, setStatus_alarm pumpId status fields⟩

theorem written_feedbackReports (io : MessageIo) (parsed : jsonC.Value) (fields : PumpFields) :
    written fields (statusReports jsonC io.report parsed ++ systemReports jsonC io.system parsed fields) =
      settle (statusCalls jsonC parsed ++ systemCalls jsonC parsed) fields := by
  obtain ⟨busy, alarm⟩ := settle_statusCalls_system jsonC parsed fields
  have middle := written_statusReports jsonC io.report parsed fields
  calc written fields (statusReports jsonC io.report parsed ++ systemReports jsonC io.system parsed fields)
      = written (written fields (statusReports jsonC io.report parsed))
          (systemReports jsonC io.system parsed fields) := Runs.run_append _ _ _ _
    _ = written (settle (statusCalls jsonC parsed) fields) (systemReports jsonC io.system parsed
          (settle (statusCalls jsonC parsed) fields)) := by
        rw [middle, systemReports_congr jsonC io.system parsed busy alarm]
    _ = settle (systemCalls jsonC parsed) (settle (statusCalls jsonC parsed) fields) :=
        written_systemReports jsonC io.system parsed _
    _ = settle (statusCalls jsonC parsed ++ systemCalls jsonC parsed) fields :=
        (settle_append _ _ fields).symm

/-- **Handling an input settles its calls**, whatever the outcomes of its insertions. -/
theorem handle_fields (server : ServerState) (delivery : Delivery) :
    (handle jsonC server delivery).pumps.current.toPumpFields =
      settle (delivery.input.calls jsonC) server.pumps.current.toPumpFields := by
  rw [handle_pumps, run_current]
  obtain ⟨input, io⟩ := delivery
  cases input with
  | feedbackPost payload => exact written_postReports jsonC io.report payload _
  | mqtt topicName payload =>
    simp only [reports, Input.calls, messageCalls]
    by_cases heartbeat : topicName = "gateway/heartbeat"
    · simp only [if_pos heartbeat]
      rfl
    · by_cases control : topicName = "pump/control"
      · simp only [if_neg heartbeat, if_pos control]
        exact written_controlReports jsonC io.report _ _
      · by_cases feedback : topicName = "pump/feedback"
        · simp only [if_neg heartbeat, if_neg control, if_pos feedback]
          unfold feedbackReports
          cases jsonC.tokenerParse (mqttPayload payload) with
          | none => rfl
          | some parsed => exact written_feedbackReports jsonC io parsed _
        · simp only [if_neg heartbeat, if_neg control, if_neg feedback]
          rfl

end Settle

/-! ### Calls that write no hardware status -/

def Call.Quiet : Call → Prop
  | .update (.feedback _ _) => False
  | _ => True

theorem setCommand_setStatus (pumpId state otherId status : Int32) (fields : PumpFields) :
    (fields.setStatus otherId status).setCommand pumpId state =
      (fields.setCommand pumpId state).setStatus otherId status := by
  unfold PumpFields.setCommand PumpFields.setStatus
  split_ifs <;> rfl

theorem settle_call_setStatus {call : Call} (quiet : call.Quiet) (pumpId status : Int32)
    (fields : PumpFields) :
    call.settle (fields.setStatus pumpId status) = (call.settle fields).setStatus pumpId status := by
  have names : (Update.feedback pumpId status).entry ≠ none := nofun
  have moved : ∀ busy alarm, (fields.setStatus pumpId status).setSystem busy alarm =
      (fields.setSystem busy alarm).setStatus pumpId status :=
    fun busy alarm => (setSystem_comm names busy alarm fields).symm
  cases call with
  | fillSystem busy alarm =>
    show (fields.setStatus pumpId status).setSystem _ _ = _
    rw [setStatus_busy, setStatus_alarm, moved]
    rfl
  | update made =>
    cases made with
    | command otherId state => exact setCommand_setStatus otherId state pumpId status fields
    | feedback otherId other => exact absurd quiet id
    | system busy alarm => exact moved busy alarm

/-- **Calls that write no status commute with one that does.** -/
theorem settle_setStatus {calls : List Call} (quiet : ∀ call ∈ calls, call.Quiet)
    (pumpId status : Int32) (fields : PumpFields) :
    settle calls (fields.setStatus pumpId status) = (settle calls fields).setStatus pumpId status := by
  induction calls generalizing fields with
  | nil => rfl
  | cons call rest ih =>
    show settle rest (call.settle _) = (settle rest (call.settle fields)).setStatus pumpId status
    rw [settle_call_setStatus (quiet call List.mem_cons_self)]
    exact ih (fun other member => quiet other (List.mem_cons_of_mem _ member)) _

/-- What a thread can have left to do once its status is written: no other status, and on the HTTP
thread nothing at all. -/
def LeftOver (thread : Thread) (calls : List Call) : Prop :=
  (∀ call ∈ calls, call.Quiet) ∧ (thread = .http → calls = [])

theorem leftOver_nil (thread : Thread) : LeftOver thread [] := ⟨nofun, fun _ => rfl⟩

section Shape

variable (jsonC : JsonC)

theorem leftOver_systemCalls (parsed : jsonC.Value) : LeftOver .mqtt (systemCalls jsonC parsed) := by
  unfold systemCalls
  refine ⟨?_, nofun⟩
  split
  · rintro call (_ | _)
    · trivial
    · contradiction
  · exact nofun

theorem leftOver_controlCalls (payload : List UInt8) : LeftOver .mqtt (controlCalls jsonC payload) := by
  unfold controlCalls
  refine ⟨?_, nofun⟩
  split
  · exact nofun
  · split
    · rintro call (_ | _)
      · trivial
      · contradiction
    · exact nofun

/-- The calls begin with a hardware status, and what is left behind it writes none. -/
def BeginsWithStatus (thread : Thread) (calls : List Call) : Prop :=
  ∃ pumpId status rest, calls = .update (.feedback pumpId status) :: rest ∧ LeftOver thread rest

/-- **The calls of an input** write at most one hardware status, and write it first. -/
theorem calls_shape (input : Input) :
    BeginsWithStatus input.thread (input.calls jsonC) ∨ LeftOver input.thread (input.calls jsonC) := by
  cases input with
  | feedbackPost payload =>
    show BeginsWithStatus .http (postCalls jsonC payload) ∨ LeftOver .http (postCalls jsonC payload)
    unfold postCalls
    split
    · exact .inr (leftOver_nil _)
    · split
      · exact .inl ⟨_, _, [], rfl, leftOver_nil _⟩
      · exact .inr (leftOver_nil _)
  | mqtt topicName payload =>
    show BeginsWithStatus .mqtt (messageCalls jsonC topicName payload) ∨
      LeftOver .mqtt (messageCalls jsonC topicName payload)
    unfold messageCalls
    split
    · exact .inr (leftOver_nil _)
    · split
      · exact .inr (leftOver_controlCalls jsonC _)
      · split
        · split
          · exact .inr (leftOver_nil _)
          · rename_i parsed _
            have system := leftOver_systemCalls jsonC parsed
            rcases statusCalls_cases jsonC parsed with nothing | ⟨pumpId, status, one⟩
            · rw [nothing]
              exact .inr system
            · rw [one]
              exact .inl ⟨pumpId, status, _, rfl, system⟩
        · exact .inr (leftOver_nil _)

end Shape

/-! ### The order -/

section Order

variable (jsonC : JsonC)

/-- The inputs of one thread. -/
def ownInputs (thread : Thread) (inputs : List Input) : List Input :=
  inputs.filter fun input => input.thread = thread

theorem ownInputs_append (thread : Thread) (first second : List Input) :
    ownInputs thread (first ++ second) = ownInputs thread first ++ ownInputs thread second :=
  List.filter_append first second

theorem ownInputs_own (input : Input) : ownInputs input.thread [input] = [input] :=
  List.filter_cons_of_pos (decide_eq_true rfl)

theorem ownInputs_other (input : Input) : ownInputs input.thread.other [input] = [] :=
  List.filter_cons_of_neg fun own => other_ne input.thread (of_decide_eq_true own).symm

/-- The fields after the inputs, handled one at a time. -/
def sequential (order : List Input) : PumpFields :=
  Runs.run (fun fields (input : Input) => settle (input.calls jsonC) fields) {} order

theorem sequential_append (order : List Input) (input : Input) :
    sequential jsonC (order ++ [input]) = settle (input.calls jsonC) (sequential jsonC order) :=
  Runs.run_append _ _ _ _

/-- A thread has taken an input and not yet written its status, or what it has left to do belongs to
an input in the order. -/
def Stands (thread : Thread) (state : ThreadState) (unlisted : List Input) : Prop :=
  (unlisted = [] ∧ LeftOver thread state.calls) ∨
    ∃ input, unlisted = [input] ∧ input.thread = thread ∧ state = ⟨none, input.calls jsonC⟩ ∧
      BeginsWithStatus thread (input.calls jsonC)

/-- The calls left to do for the inputs in the order. -/
def listedCalls : List Call → List Call
  | .update (.feedback _ _) :: _ => []
  | calls => calls

theorem listedCalls_of_leftOver {thread : Thread} {calls : List Call} (left : LeftOver thread calls) :
    listedCalls calls = calls := by
  unfold listedCalls
  split
  · exact absurd (left.1 _ List.mem_cons_self) id
  · rfl

theorem listedCalls_of_beginsWithStatus {thread : Thread} {calls : List Call}
    (begins : BeginsWithStatus thread calls) : listedCalls calls = [] := by
  obtain ⟨pumpId, status, rest, rfl, -⟩ := begins
  rfl

/-- The invariant: `seen` are the inputs taken so far. -/
structure Linear (machine : Machine) (seen order : List Input) : Prop where
  program : ∀ thread, ∃ unlisted, Stands jsonC thread (machine.threads thread) unlisted ∧
    ownInputs thread seen = ownInputs thread order ++ unlisted
  fields : sequential jsonC order =
    settle (listedCalls (machine.threads .mqtt).calls) machine.side.current.toPumpFields

theorem linear_initial : Linear jsonC {} [] [] where
  program thread := ⟨[], .inl ⟨rfl, leftOver_nil thread⟩, rfl⟩
  fields := rfl

variable {jsonC} {machine : Machine} {seen order : List Input}

/-- One thread moves on; the inputs of the other are as before. -/
theorem program_become (linear : Linear jsonC machine seen order) {thread : Thread} {side : PumpSide}
    {state : ThreadState} {newSeen newOrder unlisted : List Input}
    (stands : Stands jsonC thread state unlisted)
    (own : ownInputs thread newSeen = ownInputs thread newOrder ++ unlisted)
    (seenOther : ownInputs thread.other newSeen = ownInputs thread.other seen)
    (orderOther : ownInputs thread.other newOrder = ownInputs thread.other order) (any : Thread) :
    ∃ unlisted, Stands jsonC any ((machine.become thread side state).threads any) unlisted ∧
      ownInputs any newSeen = ownInputs any newOrder ++ unlisted := by
  rcases eq_or_eq_other any thread with rfl | rfl
  · rw [Machine.become_self]
    exact ⟨unlisted, stands, own⟩
  · rw [Machine.become_other, seenOther, orderOther]
    exact linear.program thread.other

/-- A thread that stands at a call that writes no status, or inside a branch, has none unlisted. -/
theorem listed_of_stands {thread : Thread} {state : ThreadState} {unlisted : List Input}
    (stands : Stands jsonC thread state unlisted)
    (quiet : state.inside ≠ none ∨ ∀ pumpId status rest,
      state.calls ≠ .update (.feedback pumpId status) :: rest) :
    unlisted = [] ∧ LeftOver thread state.calls := by
  rcases stands with listed | ⟨input, -, -, rfl, pumpId, status, rest, begins, -⟩
  · exact listed
  · rcases quiet with inside | other
    · exact absurd rfl inside
    · exact absurd begins (other pumpId status rest)

/-- **An input is taken.** One that begins with a status joins the order later. -/
theorem linear_take (linear : Linear jsonC machine seen order) {input : Input}
    (waiting : machine.Waiting input.thread) :
    ∃ newOrder, Linear jsonC (machine.become input.thread machine.side ⟨none, input.calls jsonC⟩)
      (seen ++ [input]) newOrder := by
  obtain ⟨unlisted, stands, same⟩ := linear.program input.thread
  have idle : machine.threads input.thread = {} := waiting
  rw [idle] at stands
  obtain ⟨rfl, -⟩ := listed_of_stands stands (.inr fun _ _ _ => nofun)
  rw [List.append_nil] at same
  have seenOther : ownInputs input.thread.other (seen ++ [input]) = ownInputs input.thread.other seen := by
    rw [ownInputs_append, ownInputs_other, List.append_nil]
  rcases calls_shape jsonC input with begins | left
  · refine ⟨order, program_become linear (.inr ⟨input, rfl, rfl, rfl, begins⟩) ?_ seenOther rfl, ?_⟩
    · rw [ownInputs_append, ownInputs_own, same]
    · show sequential jsonC order = settle _ machine.side.current.toPumpFields
      rw [linear.fields]
      rcases eq_or_eq_other .mqtt input.thread with own | other
      · rw [own, Machine.become_self, idle, listedCalls_of_beginsWithStatus begins]
        rfl
      · rw [other, Machine.become_other]
  · refine ⟨order ++ [input], program_become linear (.inl ⟨rfl, left⟩) ?_ seenOther ?_, ?_⟩
    · rw [ownInputs_append, ownInputs_append, same, List.append_nil]
    · rw [ownInputs_append, ownInputs_other, List.append_nil]
    · show sequential jsonC (order ++ [input]) = settle _ machine.side.current.toPumpFields
      rw [sequential_append, linear.fields]
      rcases eq_or_eq_other .mqtt input.thread with own | other
      · rw [own, Machine.become_self, idle, listedCalls_of_leftOver left]
        rfl
      · have isHttp : input.thread = .http := by
          rw [← other_other input.thread, ← other]
          rfl
        rw [other, Machine.become_other, left.2 isHttp]
        rfl

/-- What the MQTT thread has left to do for the inputs in the order writes no status. -/
theorem quiet_listedCalls (linear : Linear jsonC machine seen order) :
    ∀ call ∈ listedCalls (machine.threads .mqtt).calls, call.Quiet := by
  obtain ⟨unlisted, ⟨-, left⟩ | ⟨input, -, -, here, begins⟩, -⟩ := linear.program .mqtt
  · rw [listedCalls_of_leftOver left]
    exact left.1
  · rw [here, listedCalls_of_beginsWithStatus begins]
    exact nofun

theorem leftOver_tail {thread : Thread} {call : Call} {calls : List Call}
    (left : LeftOver thread (call :: calls)) : thread = .mqtt ∧ LeftOver thread calls := by
  have isMqtt : thread = .mqtt := by
    cases thread with
    | mqtt => rfl
    | http => cases left.2 rfl
  refine ⟨isMqtt, fun other member => left.1 other (List.mem_cons_of_mem _ member), ?_⟩
  rw [isMqtt]
  exact nofun

/-- **The first locked section of an update.** A status is written for an input that joins the order
here; it passes by what the MQTT thread has left to do. -/
theorem linear_opens (linear : Linear jsonC machine seen order) {thread : Thread} (now : Int64)
    {update : Update} {calls : List Call}
    (here : machine.threads thread = ⟨none, .update update :: calls⟩) :
    ∃ newOrder, Linear jsonC (machine.openUpdate thread now update calls) seen newOrder := by
  obtain ⟨unlisted, stands, same⟩ := linear.program thread
  rw [here] at stands
  rcases stands with ⟨rfl, left⟩ | ⟨input, rfl, rfl, state, pumpId, status, rest, begins, left⟩
  · obtain ⟨rfl, leftCalls⟩ := leftOver_tail left
    refine ⟨order, program_become linear (.inl ⟨rfl, leftCalls⟩) same rfl rfl, ?_⟩
    rw [Machine.openUpdate, Machine.become_self, linear.fields, here, listedCalls_of_leftOver left,
      listedCalls_of_leftOver leftCalls]
    rfl
  · have callsOf : input.calls jsonC = .update update :: calls := (ThreadState.mk.inj state).2.symm
    obtain ⟨made, rfl⟩ := List.cons.inj (callsOf.symm.trans begins)
    obtain rfl := Call.update.inj made
    refine ⟨order ++ [input], program_become linear (.inl ⟨rfl, left⟩) ?_ rfl ?_, ?_⟩
    · rw [same, ownInputs_append, ownInputs_own, List.append_nil]
    · rw [ownInputs_append, ownInputs_other, List.append_nil]
    · rw [sequential_append, linear.fields, begins]
      show settle calls (PumpFields.setStatus pumpId status _) =
        settle _ (PumpFields.setStatus pumpId status machine.side.current.toPumpFields)
      rcases eq_or_eq_other .mqtt input.thread with own | other
      · rw [own, Machine.openUpdate, Machine.become_self, here, listedCalls_of_leftOver left]
        rfl
      · have isHttp : input.thread = .http := by
          rw [← other_other input.thread, ← other]
          rfl
        have quiet := quiet_listedCalls linear
        rw [other] at quiet
        rw [other, Machine.openUpdate, Machine.become_other, left.2 isHttp,
          settle_setStatus quiet pumpId status]
        rfl

/-- **The invariant is kept by every turn.** -/
theorem linear_turn (linear : Linear jsonC machine seen order) (turn : Turn) :
    ∃ newOrder, Linear jsonC (machine.turn jsonC turn)
      (seen ++ (machine.takes turn.label).toList) newOrder := by
  have moves := moves_turn jsonC machine turn
  generalize machine.turn jsonC turn = moved at moves ⊢
  cases moves with
  | take input takes waiting =>
    rw [takes]
    exact linear_take linear waiting
  | stay takes =>
    rw [takes, Option.toList_none, List.append_nil]
    exact ⟨order, linear⟩
  | inside thread side branch takes busy current logged =>
    rw [takes, Option.toList_none, List.append_nil]
    obtain ⟨unlisted, stands, same⟩ := linear.program thread
    obtain ⟨rfl, left⟩ := listed_of_stands stands (.inl busy)
    refine ⟨order, program_become linear (.inl ⟨rfl, left⟩) same rfl rfl, ?_⟩
    rw [Machine.become_side, current, linear.fields]
    rcases eq_or_eq_other .mqtt thread with rfl | other
    · rw [Machine.become_self]
    · rw [other, Machine.become_other]
  | opens thread now update calls here =>
    rw [takes_step, Option.toList_none, List.append_nil]
    exact linear_opens linear now here
  | fills thread busy alarm calls takes here =>
    rw [takes, Option.toList_none, List.append_nil]
    obtain ⟨unlisted, stands, same⟩ := linear.program thread
    rw [here] at stands
    obtain ⟨rfl, left⟩ := listed_of_stands stands (.inr fun _ _ _ => nofun)
    obtain ⟨rfl, leftCalls⟩ := leftOver_tail left
    have filled : LeftOver .mqtt (.update (.system (busy.getD machine.side.current.busy)
        (alarm.getD machine.side.current.alarm)) :: calls) :=
      ⟨List.forall_mem_cons.mpr ⟨trivial, leftCalls.1⟩, nofun⟩
    refine ⟨order, program_become linear (.inl ⟨rfl, filled⟩) same rfl rfl, ?_⟩
    rw [Machine.fillSystem, Machine.become_self, linear.fields, here, listedCalls_of_leftOver left,
      listedCalls_of_leftOver filled]
    rfl

theorem linear_run (turns : List Turn) (linear : Linear jsonC machine seen order) :
    ∃ newOrder, Linear jsonC (Runs.run (Machine.turn jsonC) machine turns)
      (seen ++ taken jsonC machine turns) newOrder := by
  induction turns generalizing machine seen order with
  | nil => exact ⟨order, by rw [taken, List.append_nil]; exact linear⟩
  | cons turn rest ih =>
    obtain ⟨newOrder, next⟩ := linear_turn linear turn
    rw [taken, ← List.append_assoc]
    exact ih next

end Order

section Main

variable (jsonC : JsonC)

theorem run_sequential (deliveries : List Delivery) :
    (Runs.run (handle jsonC) {} deliveries).pumps.current.toPumpFields =
      sequential jsonC (deliveries.map Delivery.input) := by
  induction deliveries using List.reverseRecOn with
  | nil => rfl
  | append_singleton deliveries delivery ih =>
    rw [Runs.run_append, List.map_append, List.map_singleton, sequential_append, ← ih]
    exact handle_fields jsonC _ delivery

/-- **When no input is being handled, the live fields are those of a sequential order.** Each thread's
inputs stand in the order they were taken in, and the insertions made on either side, and their
outcomes, play no part. -/
theorem fields_linearizable (turns : List Turn)
    (quiescent : ∀ thread, (Runs.run (Machine.turn jsonC) {} turns).Waiting thread) :
    ∃ order : List Input,
      (∀ thread, ownInputs thread order = ownInputs thread (taken jsonC {} turns)) ∧
      ∀ deliveries : List Delivery, deliveries.map Delivery.input = order →
        (Runs.run (handle jsonC) {} deliveries).pumps.current.toPumpFields =
          (Runs.run (Machine.turn jsonC) {} turns).side.current.toPumpFields := by
  obtain ⟨order, linear⟩ := linear_run turns (linear_initial jsonC)
  have idle : ∀ thread, (Runs.run (Machine.turn jsonC) {} turns).threads thread = {} := quiescent
  refine ⟨order, fun thread => ?_, fun deliveries inOrder => ?_⟩
  · obtain ⟨unlisted, stands, same⟩ := linear.program thread
    rw [idle] at stands
    obtain ⟨rfl, -⟩ := listed_of_stands stands (.inr fun _ _ _ => nofun)
    rw [List.nil_append, List.append_nil] at same
    exact same.symm
  · rw [run_sequential, inOrder, linear.fields, idle]
    rfl

end Main

/-- A feedback message with both halves, and a POST about the other pump behind its hardware status.
The snapshot of the POST is not inserted. -/
def sharedTurns : List Turn :=
  [⟨.message "pump/feedback" (ascii "\x7b\"pump_id\":1,\"status\":1,\"busy\":1\x7d"), true⟩,
    ⟨.step .mqtt 100, true⟩, ⟨.post (ascii "\x7b\"pump_id\":2,\"status\":3\x7d"), true⟩,
    ⟨.step .mqtt 100, true⟩, ⟨.step .http 101, true⟩, ⟨.step .mqtt 101, true⟩,
    ⟨.step .http 101, true⟩, ⟨.step .http 102, false⟩, ⟨.step .mqtt 102, true⟩,
    ⟨.step .mqtt 102, true⟩, ⟨.step .http 102, true⟩, ⟨.step .mqtt 102, true⟩,
    ⟨.step .mqtt 103, true⟩, ⟨.step .mqtt 103, true⟩]

theorem fields_sharedTurns :
    (∀ thread, (Runs.run (Machine.turn JsonC.reference) {} sharedTurns).Waiting thread) ∧
      ∃ order : List Input,
        (∀ thread, ownInputs thread order =
          ownInputs thread (taken JsonC.reference {} sharedTurns)) ∧
        ∀ deliveries : List Delivery, deliveries.map Delivery.input = order →
          (Runs.run (handle JsonC.reference) {} deliveries).pumps.current.toPumpFields =
            (Runs.run (Machine.turn JsonC.reference) {} sharedTurns).side.current.toPumpFields := by
  have quiescent : ∀ thread,
      (Runs.run (Machine.turn JsonC.reference) {} sharedTurns).Waiting thread := by
    intro thread
    cases thread with
    | mqtt => decide +kernel
    | http => decide +kernel
  exact ⟨quiescent, fields_linearizable JsonC.reference sharedTurns quiescent⟩

end ServerPump
