/-
**Every value the page looks up is one it has a text for.**

The three sources of a status, the MQTT branch, `update_pump_feedback` and the value a feedback
message takes from the live state, each give a value in range, and an argument read field by field
mixes values that were live at different moments. So the ranges are an invariant of the live state,
of the arguments read so far, of the updates a thread has still to make, and of the tables.

* `domain_next`: the invariant, for single field reads, failing insertions and restarts.
* `covers_turn`: the machine with a step for each read has the steps of `Machine`.
* `values_inDomain`: the ranges hold in every state of every run, and in no history does the page
  look up a text that is not there.
-/

import ServerPump.Proof.HistoryRecords
import ServerPump.Proof.Linearization
import ServerPump.Server.FieldReads

namespace ServerPump

open CText

/-! ### The ranges -/

/-- The ranges of the four validated fields. -/
structure InDomain (fields : PumpFields) : Prop where
  pump1Status : 0 ≤ fields.pump1Status ∧ fields.pump1Status ≤ 3
  pump2Status : 0 ≤ fields.pump2Status ∧ fields.pump2Status ≤ 3
  busy : 0 ≤ fields.busy ∧ fields.busy ≤ 2
  alarm : 0 ≤ fields.alarm ∧ fields.alarm ≤ 1

instance (fields : PumpFields) : Decidable (InDomain fields) :=
  decidable_of_iff
    ((0 ≤ fields.pump1Status ∧ fields.pump1Status ≤ 3) ∧
      (0 ≤ fields.pump2Status ∧ fields.pump2Status ≤ 3) ∧
      (0 ≤ fields.busy ∧ fields.busy ≤ 2) ∧ 0 ≤ fields.alarm ∧ fields.alarm ≤ 1)
    ⟨fun ⟨first, second, busy, alarm⟩ => ⟨first, second, busy, alarm⟩,
      fun ⟨first, second, busy, alarm⟩ => ⟨first, second, busy, alarm⟩⟩

/-- The values an update writes are in range. A command may be any integer. -/
def Update.Valid : Update → Prop
  | command _ _ => True
  | feedback _ status => 0 ≤ status ∧ status ≤ 3
  | system busy alarm => (0 ≤ busy ∧ busy ≤ 2) ∧ 0 ≤ alarm ∧ alarm ≤ 1

/-- A value to be filled in is in range once it is. -/
def Call.Valid : Call → Prop
  | .update made => made.Valid
  | .fillSystem busy alarm =>
    (∀ value ∈ busy, 0 ≤ value ∧ value ≤ 2) ∧ ∀ value ∈ alarm, 0 ≤ value ∧ value ≤ 1

theorem inDomain_initial : InDomain {} := by decide

theorem inDomain_write {update : Update} (valid : update.Valid) {fields : PumpFields}
    (domain : InDomain fields) : InDomain (update.write fields) := by
  cases update with
  | command pumpId state =>
    simp only [Update.write, PumpFields.setCommand]
    split
    · exact ⟨domain.pump1Status, domain.pump2Status, domain.busy, domain.alarm⟩
    · split
      · exact ⟨domain.pump1Status, domain.pump2Status, domain.busy, domain.alarm⟩
      · exact domain
  | feedback pumpId status =>
    simp only [Update.write, PumpFields.setStatus]
    split
    · exact ⟨valid, domain.pump2Status, domain.busy, domain.alarm⟩
    · split
      · exact ⟨domain.pump1Status, valid, domain.busy, domain.alarm⟩
      · exact domain
  | system busy alarm => exact ⟨domain.pump1Status, domain.pump2Status, valid.1, valid.2⟩

/-- Reading one more field keeps the values read in range. -/
theorem inDomain_copy {source target : PumpStatus} (live : InDomain source.toPumpFields)
    (read : InDomain target.toPumpFields) (field : StatusField) :
    InDomain (field.copy source target).toPumpFields := by
  cases field with
  | pump1 => exact ⟨read.pump1Status, read.pump2Status, read.busy, read.alarm⟩
  | pump1Status => exact ⟨live.pump1Status, read.pump2Status, read.busy, read.alarm⟩
  | pump2 => exact ⟨read.pump1Status, read.pump2Status, read.busy, read.alarm⟩
  | pump2Status => exact ⟨read.pump1Status, live.pump2Status, read.busy, read.alarm⟩
  | busy => exact ⟨read.pump1Status, read.pump2Status, live.busy, read.alarm⟩
  | alarm => exact ⟨read.pump1Status, read.pump2Status, read.busy, live.alarm⟩
  | timestamp => exact read

/-! ### What the inputs let through -/

theorem validStatus_range (status : Int32) : 0 ≤ validStatus status ∧ validStatus status ≤ 3 := by
  unfold validStatus
  split
  · decide
  · rename_i inRange
    obtain ⟨low, high⟩ := not_or.mp inRange
    exact ⟨Int32.not_lt.mp low, Int32.not_lt.mp high⟩

section Inputs

variable (jsonC : JsonC)

theorem newBusy_range (parsed : jsonC.Value) : ∀ value ∈ newBusy jsonC parsed, 0 ≤ value ∧ value ≤ 2 := by
  intro value member
  unfold newBusy at member
  split at member
  · split at member
    · rename_i range
      cases member
      exact range
    · cases member
  · cases member

theorem newAlarm_range (parsed : jsonC.Value) :
    ∀ value ∈ newAlarm jsonC parsed, 0 ≤ value ∧ value ≤ 1 := by
  intro value member
  unfold newAlarm at member
  split at member
  · split at member
    · rename_i zeroOrOne
      cases member
      rcases zeroOrOne with zero | one
      · rw [zero]
        decide
      · rw [one]
        decide
    · cases member
  · cases member

theorem statusCalls_valid (parsed : jsonC.Value) :
    ∀ call ∈ statusCalls jsonC parsed, call.Valid := by
  unfold statusCalls
  split
  · split
    · exact List.forall_mem_singleton.mpr (validStatus_range _)
    · exact nofun
  · exact nofun

theorem systemCalls_valid (parsed : jsonC.Value) :
    ∀ call ∈ systemCalls jsonC parsed, call.Valid := by
  unfold systemCalls
  split
  · exact List.forall_mem_singleton.mpr ⟨newBusy_range jsonC parsed, newAlarm_range jsonC parsed⟩
  · exact nofun

theorem controlCalls_valid (payload : List UInt8) :
    ∀ call ∈ controlCalls jsonC payload, call.Valid := by
  unfold controlCalls
  split
  · exact nofun
  · split
    · exact List.forall_mem_singleton.mpr trivial
    · exact nofun

/-- **The calls of an input are valid**, whatever its integers. -/
theorem calls_valid (input : Input) : ∀ call ∈ input.calls jsonC, call.Valid := by
  cases input with
  | feedbackPost payload =>
    show ∀ call ∈ postCalls jsonC payload, call.Valid
    unfold postCalls
    split
    · exact nofun
    · split
      · exact List.forall_mem_singleton.mpr (validStatus_range _)
      · exact nofun
  | mqtt topicName payload =>
    show ∀ call ∈ messageCalls jsonC topicName payload, call.Valid
    unfold messageCalls
    split
    · exact nofun
    · split
      · exact controlCalls_valid jsonC _
      · split
        · split
          · exact nofun
          · rename_i parsed _
            exact List.forall_mem_append.mpr
              ⟨statusCalls_valid jsonC parsed, systemCalls_valid jsonC parsed⟩
        · exact nofun

end Inputs

/-! ### The invariant -/

/-- The rows of the tables are in range. -/
structure RowsInDomain (tables : PumpTables) : Prop where
  snapshots : ∀ row ∈ tables.pumpSnapshots, InDomain row.fields
  feedback : ∀ row ∈ tables.pumpFeedback, 0 ≤ row.status ∧ row.status ≤ 3

/-- A thread inside a branch: its update, and the values it has read. -/
def Branch.Valid (branch : Branch) : Prop :=
  branch.update.Valid ∧ InDomain branch.values.toPumpFields

structure DomainSafe (machine : ReadingMachine) : Prop where
  live : InDomain machine.side.current.toPumpFields
  rows : RowsInDomain machine.side.tables
  inside : ∀ thread, ∀ branch ∈ (machine.threads thread).inside, branch.Valid
  calls : ∀ thread, ∀ call ∈ (machine.threads thread).calls, call.Valid

/-- A thread outside of a change branch. -/
theorem noBranch_valid : ∀ branch ∈ (none : Option Branch), branch.Valid :=
  fun _ member => absurd member (Option.not_mem_none _)

theorem domainSafe_initial : DomainSafe {} where
  live := inDomain_initial
  rows := ⟨nofun, nofun⟩
  inside _ := noBranch_valid
  calls _ := nofun

namespace ReadingMachine

variable (thread : Thread) (side : PumpSide) (state : ReadingThread) (machine : ReadingMachine)

@[simp]
theorem reading_become_self : (machine.become thread side state).threads thread = state :=
  Function.update_self _ _ _

@[simp]
theorem reading_become_other :
    (machine.become thread side state).threads thread.other = machine.threads thread.other :=
  Function.update_of_ne (other_ne thread) _ _

end ReadingMachine

section Steps

open ReadingMachine

variable {machine : ReadingMachine} {thread : Thread} {side : PumpSide} {state : ReadingThread}

/-- One thread moves on. -/
theorem domainSafe_become (safe : DomainSafe machine) (live : InDomain side.current.toPumpFields)
    (rows : RowsInDomain side.tables) (inside : ∀ branch ∈ state.inside, branch.Valid)
    (calls : ∀ call ∈ state.calls, call.Valid) : DomainSafe (machine.become thread side state) := by
  refine ⟨live, rows, fun any => ?_, fun any => ?_⟩
  · rcases eq_or_eq_other any thread with rfl | rfl
    · rw [reading_become_self]
      exact inside
    · rw [reading_become_other]
      exact safe.inside _
  · rcases eq_or_eq_other any thread with rfl | rfl
    · rw [reading_become_self]
      exact calls
    · rw [reading_become_other]
      exact safe.calls _

theorem rowsInDomain_insertAt {tables : PumpTables} (rows : RowsInDomain tables) {update : Update}
    (valid : update.Valid) (inserted : Bool) (timestamp : Int64) :
    RowsInDomain (update.insertAt inserted timestamp tables) := by
  cases inserted with
  | false => cases update <;> exact rows
  | true =>
    cases update with
    | command pumpId state => exact ⟨rows.snapshots, rows.feedback⟩
    | feedback pumpId status =>
      refine ⟨rows.snapshots, List.forall_mem_append.mpr ⟨rows.feedback, ?_⟩⟩
      exact List.forall_mem_singleton.mpr valid
    | system busy alarm => exact rows

theorem rowsInDomain_insertSnapshot {tables : PumpTables} (rows : RowsInDomain tables)
    {values : PumpStatus} (domain : InDomain values.toPumpFields) (inserted : Bool) :
    RowsInDomain (dbInsertSnapshot inserted values.pump1 values.pump1Status values.pump2
      values.pump2Status values.busy values.alarm values.timestamp tables) := by
  cases inserted with
  | false => exact rows
  | true =>
    refine ⟨List.forall_mem_append.mpr ⟨rows.snapshots, ?_⟩, rows.feedback⟩
    exact List.forall_mem_singleton.mpr domain

theorem branch_enter_valid {update : Update} (valid : update.Valid) (stage : Stage) :
    (Branch.enter update stage).Valid := ⟨valid, inDomain_initial⟩

/-- The call of a stage. -/
theorem domainSafe_callStage (safe : DomainSafe machine) {update : Update} {values : PumpStatus}
    {calls : List Call} (valid : update.Valid) (read : InDomain values.toPumpFields)
    (validCalls : ∀ call ∈ calls, call.Valid) (inserted : Bool) (stage : Stage) :
    DomainSafe (machine.callStage thread inserted update values calls stage) := by
  have enters : ∀ next, ∀ branch ∈ some (Branch.enter update next), branch.Valid := by
    rintro next branch ⟨⟩
    exact branch_enter_valid valid next
  cases stage with
  | addHistory => exact domainSafe_become safe safe.live safe.rows (enters _) validCalls
  | insertRow =>
    exact domainSafe_become safe safe.live (rowsInDomain_insertAt safe.rows valid inserted _)
      (enters _) validCalls
  | insertSnapshot =>
    exact domainSafe_become safe safe.live (rowsInDomain_insertSnapshot safe.rows read inserted)
      (enters _) validCalls
  | remember => exact domainSafe_become safe safe.live safe.rows noBranch_valid validCalls

/-- The next step of a thread. -/
theorem domainSafe_advance (safe : DomainSafe machine) (thread : Thread) (now : Int64)
    (inserted : Bool) : DomainSafe (machine.advance thread now inserted) := by
  have inside := safe.inside thread
  have calls := safe.calls thread
  unfold ReadingMachine.advance
  rcases here : machine.threads thread with ⟨_ | ⟨update, stage, _ | ⟨field, rest⟩, values⟩, left⟩
  · rw [here] at calls
    rcases left with _ | ⟨update | ⟨busy, alarm⟩, left⟩
    · exact safe
    · obtain ⟨valid, others⟩ := List.forall_mem_cons.mp calls
      refine domainSafe_become safe (inDomain_write valid safe.live) safe.rows ?_ others
      dsimp only
      split
      · rintro branch ⟨⟩
        exact branch_enter_valid valid _
      · exact noBranch_valid
    · obtain ⟨valid, others⟩ := List.forall_mem_cons.mp calls
      refine domainSafe_become safe safe.live safe.rows noBranch_valid
        (List.forall_mem_cons.mpr ⟨⟨?_, ?_⟩, others⟩)
      · cases busy with
        | none => exact safe.live.busy
        | some value => exact valid.1 value rfl
      · cases alarm with
        | none => exact safe.live.alarm
        | some value => exact valid.2 value rfl
  · rw [here] at inside calls
    obtain ⟨valid, read⟩ := inside _ rfl
    exact domainSafe_callStage safe valid read calls inserted stage
  · exact safe

/-- A field is read. -/
theorem domainSafe_readField (safe : DomainSafe machine) (thread : Thread) (field : StatusField) :
    DomainSafe (machine.readField thread field) := by
  have inside := safe.inside thread
  have calls := safe.calls thread
  unfold ReadingMachine.readField
  rcases here : machine.threads thread with ⟨_ | branch, left⟩
  · exact safe
  · rw [here] at inside calls
    obtain ⟨valid, read⟩ := inside branch rfl
    dsimp only
    split
    · refine domainSafe_become safe safe.live safe.rows ?_ calls
      rintro next ⟨⟩
      exact ⟨valid, inDomain_copy safe.live read field⟩
    · exact safe

/-- **The invariant is kept by every step.** -/
theorem domainSafe_next (jsonC : JsonC) (machine : ReadingMachine) (label : ReadingLabel)
    (safe : DomainSafe machine) : DomainSafe (machine.next jsonC label) := by
  cases label with
  | arrive input =>
    unfold ReadingMachine.next
    dsimp only
    split
    · exact domainSafe_become safe safe.live safe.rows noBranch_valid (calls_valid jsonC input)
    · exact safe
  | read thread field => exact domainSafe_readField safe thread field
  | step thread now inserted => exact domainSafe_advance safe thread now inserted
  | restart => exact ⟨inDomain_initial, safe.rows, fun _ => noBranch_valid, fun _ => nofun⟩

end Steps

/-! ### The steps of `Machine` -/

section Cover

open ReadingMachine

/-- The machine as one with a step for each read, at a moment when no thread has begun to read. -/
def Machine.reading (machine : Machine) : ReadingMachine where
  side := machine.side
  threads thread :=
    ⟨(machine.threads thread).inside.map fun branch => .enter branch.1 branch.2,
      (machine.threads thread).calls⟩

/-- A turn, its reads made one after the other. -/
def Turn.spelled (machine : Machine) (turn : Turn) : List ReadingLabel :=
  match turn.label with
  | .message topicName payload => [.arrive (.mqtt topicName payload)]
  | .post payload => [.arrive (.feedbackPost payload)]
  | .step thread now =>
    (match (machine.threads thread).inside with
      | some (_, stage) => stage.reads.map (.read thread)
      | none => []) ++ [.step thread now turn.inserted]

theorem reading_become (machine : Machine) (thread : Thread) (side : PumpSide) (state : ThreadState) :
    (machine.become thread side state).reading =
      machine.reading.become thread side
        ⟨state.inside.map fun branch => .enter branch.1 branch.2, state.calls⟩ := by
  refine ReadingMachine.mk.injEq .. |>.mpr ⟨rfl, funext fun any => ?_⟩
  rcases eq_or_eq_other any thread with rfl | rfl
  · rw [Machine.become_self, Function.update_self]
  · rw [Machine.become_other, Function.update_of_ne (other_ne thread)]
    rfl

theorem reading_become_become (machine : ReadingMachine) (thread : Thread) (first second : PumpSide)
    (firstState secondState : ReadingThread) :
    (machine.become thread first firstState).become thread second secondState =
      machine.become thread second secondState := by
  unfold ReadingMachine.become
  simp only [Function.update_idem]

/-- **Fields that are read one after the other** come from one state. -/
theorem run_reads (jsonC : JsonC) (machine : ReadingMachine) (thread : Thread) (side : PumpSide)
    (update : Update) (stage : Stage) (fields : List StatusField) (values : PumpStatus)
    (calls : List Call) :
    Runs.run (ReadingMachine.next jsonC)
        (machine.become thread side ⟨some ⟨update, stage, fields, values⟩, calls⟩)
        (fields.map (.read thread)) =
      machine.become thread side
        ⟨some ⟨update, stage, [], fields.foldl (fun read field => field.copy side.current read) values⟩,
          calls⟩ := by
  induction fields generalizing values with
  | nil => rfl
  | cons field rest ih =>
    rw [List.map_cons, Runs.run_cons, List.foldl_cons, ← ih]
    congr 1
    show ReadingMachine.readField thread field _ = _
    unfold ReadingMachine.readField
    rw [reading_become_self]
    dsimp only
    rw [if_pos List.mem_cons_self, List.erase_cons_head, reading_become_become]
    rfl

/-- All seven fields, read from one state, are that state. -/
theorem read_all (source : PumpStatus) :
    Stage.insertSnapshot.reads.foldl (fun read field => field.copy source read) {} = source := by
  simp only [Stage.reads, List.foldl_cons, List.foldl_nil, StatusField.copy]

/-- The call of a stage, its arguments read from one state, is the step of `Machine`. -/
theorem callStage_eq (machine : Machine) (thread : Thread) (update : Update) (calls : List Call)
    (stage : Stage) (inserted : Bool) :
    let moved := machine.branchStep thread update calls stage
    machine.reading.callStage thread inserted update
        (stage.reads.foldl (fun read field => field.copy machine.side.current read) {}) calls stage =
      (if inserted then moved
        else { moved with side := { moved.side with tables := machine.side.tables } }).reading := by
  intro moved
  have become : ∀ side state, moved = machine.become thread side state →
      (if inserted then moved
        else { moved with side := { moved.side with tables := machine.side.tables } }).reading =
        machine.reading.become thread
          (if inserted then side else { side with tables := machine.side.tables })
          ⟨state.inside.map fun branch => .enter branch.1 branch.2, state.calls⟩ := by
    intro side state isMoved
    rw [← reading_become, isMoved]
    cases inserted <;> rfl
  cases stage with
  | addHistory =>
    rw [become _ _ rfl, show Stage.addHistory.reads = Stage.insertSnapshot.reads from rfl, read_all]
    cases inserted <;> rfl
  | insertRow =>
    rw [become _ _ rfl]
    cases inserted <;> cases update <;> rfl
  | insertSnapshot =>
    rw [become _ _ rfl, read_all]
    cases inserted <;> rfl
  | remember =>
    rw [become _ _ rfl]
    cases inserted <;> rfl

theorem reading_threads {machine : Machine} {thread : Thread} {state : ThreadState}
    (here : machine.threads thread = state) :
    machine.reading.threads thread =
      ⟨state.inside.map fun branch => .enter branch.1 branch.2, state.calls⟩ := by
  subst here
  rfl

theorem become_threads (machine : ReadingMachine) (thread : Thread) :
    machine.become thread machine.side (machine.threads thread) = machine := by
  refine ReadingMachine.mk.injEq .. |>.mpr ⟨rfl, ?_⟩
  exact Function.update_eq_self thread machine.threads

theorem advance_called (machine : ReadingMachine) (thread : Thread) (now : Int64) (inserted : Bool)
    (update : Update) (stage : Stage) (values : PumpStatus) (calls : List Call) :
    (machine.become thread machine.side ⟨some ⟨update, stage, [], values⟩, calls⟩).advance thread now
        inserted = machine.callStage thread inserted update values calls stage := by
  unfold ReadingMachine.advance
  rw [reading_become_self]
  cases stage with
  | addHistory => exact reading_become_become machine thread _ _ _ _
  | insertRow => exact reading_become_become machine thread _ _ _ _
  | insertSnapshot => exact reading_become_become machine thread _ _ _ _
  | remember => exact reading_become_become machine thread _ _ _ _

theorem covers_input (jsonC : JsonC) (machine : Machine) (input : Input) :
    machine.reading.next jsonC (.arrive input) =
      (if machine.Waiting input.thread then
        machine.become input.thread machine.side ⟨none, input.calls jsonC⟩
      else machine).reading := by
  have waiting : machine.reading.threads input.thread = {} ↔ machine.Waiting input.thread := by
    show ReadingThread.mk _ _ = ReadingThread.mk none [] ↔ machine.threads input.thread = ⟨none, []⟩
    rcases machine.threads input.thread with ⟨_ | branch, calls⟩ <;> simp
  unfold ReadingMachine.next
  dsimp only
  by_cases rest : machine.Waiting input.thread
  · rw [if_pos rest, if_pos (waiting.mpr rest), reading_become]
    rfl
  · rw [if_neg rest, if_neg fun idle => rest (waiting.mp idle)]

/-- A step of a thread outside of a change branch reads nothing. -/
theorem covers_outside (jsonC : JsonC) {machine : Machine} {thread : Thread} {calls : List Call}
    (here : machine.threads thread = ⟨none, calls⟩) (now : Int64) (inserted : Bool) :
    machine.reading.advance thread now inserted =
      (machine.turn jsonC ⟨.step thread now, inserted⟩).reading := by
  unfold ReadingMachine.advance
  rw [reading_threads here]
  rcases calls with _ | ⟨update | ⟨busy, alarm⟩, calls⟩
  · rw [turn_waits jsonC here]
    rfl
  · rw [turn_opens jsonC here, Machine.openUpdate, reading_become]
    show machine.reading.become thread (machine.side.stamp now update.write)
      ⟨if update.detects machine.side.previous.toPumpFields then _ else none, calls⟩ = _
    congr 2
    split <;> rfl
  · rw [turn_fills jsonC here, Machine.fillSystem, reading_become]
    rfl

/-- The call of a change branch comes behind the reads of its arguments. -/
theorem covers_inside (jsonC : JsonC) {machine : Machine} {thread : Thread} {update : Update}
    {stage : Stage} {calls : List Call} (here : machine.threads thread = ⟨some (update, stage), calls⟩)
    (now : Int64) (inserted : Bool) :
    (Runs.run (ReadingMachine.next jsonC) machine.reading (stage.reads.map (.read thread))).advance thread
        now inserted = (machine.turn jsonC ⟨.step thread now, inserted⟩).reading := by
  have reads := run_reads jsonC machine.reading thread machine.side update stage stage.reads {} calls
  have readingHere : machine.reading.threads thread =
      ⟨some ⟨update, stage, stage.reads, {}⟩, calls⟩ := reading_threads here
  have start := become_threads machine.reading thread
  rw [readingHere, show machine.reading.side = machine.side from rfl] at start
  rw [start] at reads
  rw [reads]
  refine (advance_called machine.reading thread now inserted update stage _ calls).trans ?_
  refine (callStage_eq machine thread update calls stage inserted).trans ?_
  have next : machine.next jsonC (.step thread now) =
      machine.branchStep thread update calls stage := by
    show machine.advance thread now = _
    unfold Machine.advance
    rw [here]
  unfold Machine.turn
  dsimp only
  rw [next]

/-- **A turn of `Machine` is a run of single reads and steps.** -/
theorem covers_turn (jsonC : JsonC) (machine : Machine) (turn : Turn) :
    Runs.run (ReadingMachine.next jsonC) machine.reading (turn.spelled machine) =
      (machine.turn jsonC turn).reading := by
  obtain ⟨label, inserted⟩ := turn
  cases label with
  | message topicName payload =>
    have arrives : (Label.message topicName payload).input? = some (.mqtt topicName payload) := rfl
    rw [turn_input jsonC machine arrives]
    exact covers_input jsonC machine (.mqtt topicName payload)
  | post payload =>
    have arrives : (Label.post payload).input? = some (.feedbackPost payload) := rfl
    rw [turn_input jsonC machine arrives]
    exact covers_input jsonC machine (.feedbackPost payload)
  | step thread now =>
    rcases here : machine.threads thread with ⟨_ | ⟨update, stage⟩, calls⟩
    · simp only [Turn.spelled, here]
      exact covers_outside jsonC here now inserted
    · simp only [Turn.spelled, here, Runs.run_append]
      exact covers_inside jsonC here now inserted

/-- **What a run of `Machine` reaches is reached by single reads and steps.** -/
theorem covers_run (jsonC : JsonC) (machine : Machine) (turns : List Turn) :
    ∃ labels, Runs.run (ReadingMachine.next jsonC) machine.reading labels =
      (Runs.run (Machine.turn jsonC) machine turns).reading := by
  induction turns generalizing machine with
  | nil => exact ⟨[], rfl⟩
  | cons turn rest ih =>
    obtain ⟨later, ran⟩ := ih (machine.turn jsonC turn)
    refine ⟨turn.spelled machine ++ later, ?_⟩
    rw [Runs.run_append, covers_turn, ran, Runs.run_cons]

end Cover

/-! ### The answers -/

theorem readable_record {row : SnapshotRow} (domain : InDomain row.fields) : row.record.Readable :=
  ⟨⟨statusText_isSome domain.pump1Status, statusText_isSome domain.pump2Status⟩,
    busyText_isSome domain.busy⟩

/-- **The ranges hold in every run**, at the granularity of single field reads: of the live state, of
every row of `pump_snapshots` and of every row of `pump_feedback`. So the page finds a text for each
status and each `busy` of any history the server returns, and the search never throws on it. -/
theorem values_inDomain (jsonC : JsonC) (labels : List ReadingLabel) :
    Runs.Always (ReadingMachine.next jsonC)
      (fun machine => InDomain machine.side.current.toPumpFields ∧ RowsInDomain machine.side.tables)
      {} labels ∧
    ∀ (sqlite : Sqlite) (prepared : Bool) (arguments : List (String × Option (List UInt8)))
      (count : ℕ) (data : List HistoryRecord),
      readHistory (handlePumpHistory sqlite prepared
          (some (Runs.run (ReadingMachine.next jsonC) {} labels).side.tables.pumpSnapshots) arguments) =
        .json (.records count data) →
      (∀ record ∈ data, record.Readable) ∧
        ∀ (browser : Browser) (term : String), (searchFilter browser term data).isSome := by
  constructor
  · refine Runs.always_iff.mpr fun before _ => ?_
    have safe := Runs.invariant_run (domainSafe_next jsonC) domainSafe_initial before
    exact ⟨safe.live, safe.rows⟩
  · intro sqlite prepared arguments count data read
    have safe := Runs.invariant_run (domainSafe_next jsonC) domainSafe_initial labels
    have readable : ∀ record ∈ data, record.Readable := by
      intro record member
      obtain ⟨table, row, isTable, inTable, rfl, -⟩ := exists_row_of_readHistory read member
      obtain rfl := Option.some.inj isTable
      exact readable_record (safe.rows.snapshots row inTable)
    refine ⟨readable, fun browser term => ?_⟩
    rw [searchFilter_eq browser term fun record member => (readable record member).1]
    rfl

/-- A POST writes a status while the MQTT thread reads the arguments of its snapshot. -/
def tornSnapshot : List ReadingLabel :=
  [.arrive (.mqtt "pump/feedback" (ascii "\x7b\"pump_id\":1,\"status\":1\x7d")),
    .step .mqtt 100 true, .read .mqtt .timestamp, .step .mqtt 100 true,
    .read .mqtt .alarm, .read .mqtt .busy, .read .mqtt .pump2Status, .read .mqtt .pump2,
    .arrive (.feedbackPost (ascii "\x7b\"pump_id\":2,\"status\":3\x7d")), .step .http 101 true,
    .read .mqtt .timestamp, .read .mqtt .pump1Status, .read .mqtt .pump1, .step .mqtt 101 true]

theorem values_tornSnapshot :
    readHistory (handlePumpHistory Sqlite.stable true
        (some (Runs.run (ReadingMachine.next JsonC.reference) {} tornSnapshot).side.tables.pumpSnapshots)
        []) = .json (.records 1 [⟨101, 0, 1, 0, 0, 0, 0⟩]) ∧
      HistoryRecord.Readable ⟨101, 0, 1, 0, 0, 0, 0⟩ := by
  have answer : readHistory (handlePumpHistory Sqlite.stable true
      (some (Runs.run (ReadingMachine.next JsonC.reference) {} tornSnapshot).side.tables.pumpSnapshots)
      []) = .json (.records 1 [⟨101, 0, 1, 0, 0, 0, 0⟩]) := by decide +kernel
  have inDomain := values_inDomain JsonC.reference tornSnapshot
  exact ⟨answer, (inDomain.2 Sqlite.stable true [] _ _ answer).1 _ (List.mem_singleton_self _)⟩

end ServerPump
