/-
**What only messages write stays recorded, whatever the other thread does.**

The hardware statuses are written by both threads, and their record can go wrong between them
(`Proof/Interleaving.lean`). The commands, `busy` and `alarm` are written by the MQTT thread alone. The
POSTs that are handled in the meantime read them for their snapshots, but change none of them.

The snapshots are no such record: a POST may read a field for one, and insert it behind that of a newer
message. What is remembered and the command log take nothing from such reads.

* `OwnRecorded`: the invariant, with the commands opened so far. A register of the MQTT thread is held
  at its live value or remembered at it; the rows of a pump in `pump_commands`, and the one the thread has
  still to insert, are the changes among the commands.
* `ownRecorded_next`: every step of either thread keeps it, in any order.
* `agrees_next`: the machine that reads field by field does what the other one does, but for the rows that
  carry what was read.
* `own_registers_recorded`: whenever the MQTT thread is inside no update, the detector and the command log
  agree with the live state.
-/

import ServerPump.Proof.Interleaving
import ServerPump.Proof.Ledger
import ServerPump.Server.FieldReads

namespace ServerPump

open CText ChangeLog

/-! ### The invariant -/

/-- A register that no POST writes. -/
def Register.MqttOnly (register : Register) : Prop := ∀ pump, register ≠ .of .feedback pump

/-- The command whose row the thread has still to insert. -/
def ThreadState.unlogged (pump : Pump) (state : ThreadState) : List Int32 :=
  match state.inside with
  | some (.command pumpId command, .addHistory) => if pumpId = pump.id then [command] else []
  | some (.command pumpId command, .insertRow) => if pumpId = pump.id then [command] else []
  | _ => []

/-- The invariant, with the pump ids and commands of the updates opened so far. -/
structure OwnRecorded (opened : List (Int32 × Int32)) (machine : Machine) : Prop where
  http : FeedbackOnly (machine.threads .http)
  registers : ∀ register : Register, register.MqttOnly →
    (machine.threads .mqtt).holds register = some (register.value machine.side.current.toPumpFields) ∨
      ((machine.threads .mqtt).holds register = none ∧
        register.value machine.side.previous.toPumpFields =
          register.value machine.side.current.toPumpFields)
  live : ∀ pump : Pump,
    replay 0 (valuesOf pump opened) = machine.side.current.commandOf pump.id
  rows : ∀ pump : Pump, valuesOf pump (Table.commands.rows machine.side.tables) ++
    (machine.threads .mqtt).unlogged pump = changes 0 (valuesOf pump opened)

theorem ownRecorded_initial : OwnRecorded [] {} where
  http := ⟨nofun, nofun⟩
  registers _ _ := .inr ⟨rfl, rfl⟩
  live pump := by cases pump <;> rfl
  rows _ := rfl

theorem mqttOnly_commands (pump : Pump) : (Register.of .commands pump).MqttOnly := by
  rintro other ⟨⟩

theorem mqttOnly_busy : Register.MqttOnly .busy := by
  rintro other ⟨⟩

theorem mqttOnly_alarm : Register.MqttOnly .alarm := by
  rintro other ⟨⟩

/-! ### The steps of the other thread -/

section Steps

variable {opened : List (Int32 × Int32)} {machine : Machine}

/-- A feedback leaves the registers of the MQTT thread alone. -/
theorem value_setStatus (pumpId status : Int32) (fields : PumpFields) {register : Register}
    (own : register.MqttOnly) :
    register.value (fields.setStatus pumpId status) = register.value fields := by
  have written := value_write (.feedback pumpId status) fields register
  rw [puts_feedback own, Option.getD_none] at written
  exact written

/-- What the HTTP thread does. -/
theorem ownRecorded_http (recorded : OwnRecorded opened machine) {side : PumpSide} {state : ThreadState}
    (http : FeedbackOnly state)
    (current : ∀ register : Register, register.MqttOnly →
      register.value side.current.toPumpFields = register.value machine.side.current.toPumpFields)
    (previous : ∀ register : Register, register.MqttOnly →
      register.value side.previous.toPumpFields = register.value machine.side.previous.toPumpFields)
    (rows : Table.commands.rows side.tables = Table.commands.rows machine.side.tables) :
    OwnRecorded opened (machine.become .http side state) := by
  have mqtt : (machine.become .http side state).threads .mqtt = machine.threads .mqtt :=
    Machine.become_other .http side state machine
  refine ⟨?_, fun register own => ?_, fun pump => ?_, fun pump => ?_⟩
  · rw [Machine.become_self]
    exact http
  · rw [mqtt, Machine.become_side, current register own, previous register own]
    exact recorded.registers register own
  · exact (recorded.live pump).trans (current _ (mqttOnly_commands pump)).symm
  · rw [mqtt, Machine.become_side, rows]
    exact recorded.rows pump

/-! ### The steps of the MQTT thread -/

/-- A step that writes no field of the live or the previous state. -/
theorem ownRecorded_quiet (recorded : OwnRecorded opened machine) {side : PumpSide} {state : ThreadState}
    (current : side.current = machine.side.current) (previous : side.previous = machine.side.previous)
    (held : state.holds = (machine.threads .mqtt).holds)
    (rows : ∀ pump, valuesOf pump (Table.commands.rows side.tables) ++ state.unlogged pump =
      valuesOf pump (Table.commands.rows machine.side.tables) ++
        (machine.threads .mqtt).unlogged pump) :
    OwnRecorded opened (machine.become .mqtt side state) := by
  refine ⟨?_, fun register own => ?_, fun pump => ?_, fun pump => ?_⟩
  · rw [show (machine.become .mqtt side state).threads .http = machine.threads .http from
      Machine.become_other .mqtt side state machine]
    exact recorded.http
  · rw [Machine.become_self, held, Machine.become_side, current, previous]
    exact recorded.registers register own
  · rw [Machine.become_side, current]
    exact recorded.live pump
  · rw [Machine.become_self, Machine.become_side, rows]
    exact recorded.rows pump

/-- A thread outside of its change branches holds nothing and has no row to insert. -/
theorem outside_mqtt (idle : (machine.threads .mqtt).inside = none) :
    (machine.threads .mqtt).holds = (fun _ => none) ∧
      ∀ pump, (machine.threads .mqtt).unlogged pump = [] := by
  refine ⟨?_, fun pump => ?_⟩
  · funext register
    rw [ThreadState.holds, idle]
    rfl
  · rw [ThreadState.unlogged, idle]

/-- The thread moves on between two updates. -/
theorem ownRecorded_between (recorded : OwnRecorded opened machine)
    (idle : (machine.threads .mqtt).inside = none) (calls : List Call) :
    OwnRecorded opened (machine.become .mqtt machine.side ⟨none, calls⟩) := by
  obtain ⟨held, unlogged⟩ := outside_mqtt idle
  refine ownRecorded_quiet recorded rfl rfl ?_ fun pump => ?_
  · rw [held]
    rfl
  · rw [unlogged]
    rfl

theorem rows_insertOwnRow (update : Update) (side : PumpSide) (pump : Pump) :
    valuesOf pump (Table.commands.rows (update.insertOwnRow side).tables) =
      valuesOf pump (Table.commands.rows side.tables) ++
        ThreadState.unlogged pump ⟨some (update, .insertRow), []⟩ := by
  cases update with
  | command pumpId command =>
    have added : Table.commands.rows ((Update.command pumpId command).insertOwnRow side).tables =
        Table.commands.rows side.tables ++ [(pumpId, command)] := List.map_append
    rw [added, valuesOf_append]
    by_cases own : pumpId = pump.id <;> simp [valuesOf, ThreadState.unlogged, own]
  | feedback pumpId status => exact (List.append_nil _).symm
  | system busy alarm => exact (List.append_nil _).symm

/-- The second locked section of an update. -/
theorem ownRecorded_remember (recorded : OwnRecorded opened machine) {update : Update}
    {calls : List Call} (here : machine.threads .mqtt = ⟨some (update, .remember), calls⟩) :
    OwnRecorded opened (machine.become .mqtt (machine.side.remember update.write) ⟨none, calls⟩) := by
  have holds : ∀ register, (machine.threads .mqtt).holds register = update.puts register := by
    intro register
    rw [here]
    rfl
  refine ⟨?_, fun register own => .inr ⟨?_, ?_⟩, recorded.live, fun pump => ?_⟩
  · rw [show (machine.become .mqtt _ ⟨none, calls⟩).threads .http = machine.threads .http from
      Machine.become_other .mqtt _ _ machine]
    exact recorded.http
  · rw [Machine.become_self]
    rfl
  · show register.value (update.write machine.side.previous.toPumpFields) =
      register.value machine.side.current.toPumpFields
    rw [value_write]
    rcases recorded.registers register own with held | ⟨free, same⟩
    · rw [← holds, held, Option.getD_some]
    · rw [← holds, free, Option.getD_none, same]
  · have rows := recorded.rows pump
    rw [here] at rows
    rw [Machine.become_self]
    cases update <;> exact rows

/-- A step inside a change branch. -/
theorem ownRecorded_branchStep (recorded : OwnRecorded opened machine) {update : Update}
    {stage : Stage} {calls : List Call}
    (here : machine.threads .mqtt = ⟨some (update, stage), calls⟩) :
    OwnRecorded opened (machine.branchStep .mqtt update calls stage) := by
  have held : ∀ later, ThreadState.holds ⟨some (update, later), calls⟩ =
      (machine.threads .mqtt).holds := by
    intro later
    rw [here]
    rfl
  cases stage with
  | addHistory =>
    refine ownRecorded_quiet recorded rfl rfl (held _) fun pump => ?_
    rw [here]
    cases update <;> rfl
  | insertRow =>
    refine ownRecorded_quiet recorded (insertOwnRow_current update machine.side)
      (insertOwnRow_previous update machine.side) (held _) fun pump => ?_
    rw [rows_insertOwnRow, here, List.append_assoc]
    cases update <;> exact congrArg _ (List.append_nil _)
  | insertSnapshot =>
    refine ownRecorded_quiet recorded rfl rfl (held _) fun pump => ?_
    rw [here]
    cases update <;> rfl
  | remember => exact ownRecorded_remember recorded here

/-- The command an update opens. -/
def Update.command? : Update → Option (Int32 × Int32)
  | command pumpId state => some (pumpId, state)
  | _ => none

theorem valuesOf_command (pump : Pump) (update : Update) :
    valuesOf pump update.command?.toList = (update.puts (.of .commands pump)).toList := by
  cases update with
  | command pumpId command =>
    by_cases own : pumpId = pump.id <;> simp [valuesOf, Update.command?, Update.puts, own]
  | feedback pumpId status => rfl
  | system busy alarm => rfl

theorem replay_optional {initial : Int32} (log : List Int32) (value : Option Int32) :
    replay initial (log ++ value.toList) = value.getD (replay initial log) := by
  cases value with
  | none => rw [Option.toList_none, List.append_nil, Option.getD_none]
  | some value => rw [Option.toList_some, replay_concat, Option.getD_some]

/-- What the first stage of a change branch has still to insert. -/
theorem unlogged_firstStage (pump : Pump) (update : Update) (calls : List Call) :
    ThreadState.unlogged pump ⟨some (update, update.firstStage), calls⟩ =
      (update.puts (.of .commands pump)).toList := by
  cases update with
  | command pumpId command =>
    by_cases own : pumpId = pump.id <;>
      simp [ThreadState.unlogged, Update.firstStage, Update.puts, own]
  | feedback pumpId status => rfl
  | system busy alarm => rfl

/-- The commands of a pump lead to its live command, also with those of an update that is opened. -/
theorem live_openUpdate (recorded : OwnRecorded opened machine) (update : Update) (pump : Pump) :
    replay 0 (valuesOf pump (opened ++ update.command?.toList)) =
      (update.write machine.side.current.toPumpFields).commandOf pump.id := by
  have written := value_write update machine.side.current.toPumpFields (.of .commands pump)
  have before : Register.value machine.side.current.toPumpFields (.of .commands pump) =
      replay 0 (valuesOf pump opened) := (recorded.live pump).symm
  rw [valuesOf_append, valuesOf_command, replay_optional, ← before, ← written]
  rfl

/-- The changes among the commands, once an update is opened. -/
theorem changes_openUpdate (recorded : OwnRecorded opened machine) (update : Update) (pump : Pump) :
    changes 0 (valuesOf pump (opened ++ update.command?.toList)) = changes 0 (valuesOf pump opened) ++
      match update.puts (.of .commands pump) with
      | some value => if machine.side.current.commandOf pump.id ≠ value then [value] else []
      | none => [] := by
  rw [valuesOf_append, valuesOf_command]
  cases update.puts (.of .commands pump) with
  | none => rw [Option.toList_none, List.append_nil, List.append_nil]
  | some value => rw [Option.toList_some, changes_concat, recorded.live pump]

/-- A command that is detected differs from the one remembered. -/
theorem ne_of_detects {update : Update} {previous : PumpFields} {pump : Pump} {value : Int32}
    (detected : update.detects previous = true) (puts : update.puts (.of .commands pump) = some value) :
    previous.commandOf pump.id ≠ value := by
  cases update with
  | command pumpId command =>
    by_cases own : pumpId = pump.id
    · rw [Update.puts, if_pos own, Option.some.injEq] at puts
      exact own ▸ puts ▸ of_decide_eq_true detected
    · rw [Update.puts, if_neg own] at puts
      cases puts
  | feedback pumpId status => cases puts
  | system busy alarm => cases puts

/-- The first locked section of an update of the MQTT thread. -/
theorem ownRecorded_openUpdate (recorded : OwnRecorded opened machine)
    (idle : (machine.threads .mqtt).inside = none) (now : Int64) (update : Update) (calls : List Call) :
    OwnRecorded (opened ++ update.command?.toList) (machine.openUpdate .mqtt now update calls) := by
  obtain ⟨held, unlogged⟩ := outside_mqtt idle
  have remembered : ∀ register : Register, register.MqttOnly →
      register.value machine.side.previous.toPumpFields =
        register.value machine.side.current.toPumpFields := by
    intro register own
    rcases recorded.registers register own with holds | ⟨-, same⟩
    · rw [held] at holds
      cases holds
    · exact same
  have http : ∀ state, (machine.become .mqtt (machine.side.stamp now update.write) state).threads .http =
      machine.threads .http := fun state => Machine.become_other .mqtt _ state machine
  have rows : ∀ pump, valuesOf pump (Table.commands.rows machine.side.tables) =
      changes 0 (valuesOf pump opened) := by
    intro pump
    rw [← recorded.rows pump, unlogged, List.append_nil]
  have writes := value_write update machine.side.current.toPumpFields
  cases detected : update.detects machine.side.previous.toPumpFields with
  | true =>
    have opens : machine.openUpdate .mqtt now update calls =
        machine.become .mqtt (machine.side.stamp now update.write)
          ⟨some (update, update.firstStage), calls⟩ := by
      rw [Machine.openUpdate, if_pos detected]
    rw [opens]
    refine ⟨by rw [http]; exact recorded.http, fun register own => ?_,
      fun pump => live_openUpdate recorded update pump, fun pump => ?_⟩
    · rw [Machine.become_self]
      show update.puts register = some (register.value (update.write machine.side.current.toPumpFields)) ∨
        (update.puts register = none ∧ register.value machine.side.previous.toPumpFields =
          register.value (update.write machine.side.current.toPumpFields))
      rw [writes register]
      cases update.puts register with
      | none => exact .inr ⟨rfl, remembered register own⟩
      | some value => exact .inl rfl
    · rw [Machine.become_self, unlogged_firstStage, changes_openUpdate recorded, ← rows]
      show valuesOf pump (Table.commands.rows machine.side.tables) ++ _ = _
      congr 1
      cases puts : update.puts (.of .commands pump) with
      | none => rfl
      | some value =>
        have differs := ne_of_detects detected puts
        have same : machine.side.previous.commandOf pump.id = machine.side.current.commandOf pump.id :=
          remembered _ (mqttOnly_commands pump)
        exact (if_pos (same ▸ differs)).symm
  | false =>
    have opens : machine.openUpdate .mqtt now update calls =
        machine.become .mqtt (machine.side.stamp now update.write) ⟨none, calls⟩ := by
      rw [Machine.openUpdate, if_neg (Bool.eq_false_iff.mp detected)]
    have unchanged : ∀ register : Register, register.MqttOnly →
        register.value (update.write machine.side.current.toPumpFields) =
          register.value machine.side.current.toPumpFields := by
      intro register own
      rw [writes register]
      cases puts : update.puts register with
      | none => rfl
      | some value => rw [Option.getD_some, ← value_eq_of_not_detects detected puts, remembered register own]
    rw [opens]
    refine ⟨by rw [http]; exact recorded.http, fun register own => .inr ⟨?_, ?_⟩,
      fun pump => live_openUpdate recorded update pump, fun pump => ?_⟩
    · rw [Machine.become_self]
      rfl
    · exact (remembered register own).trans (unchanged register own).symm
    · rw [Machine.become_self, changes_openUpdate recorded, ← rows]
      show valuesOf pump (Table.commands.rows machine.side.tables) ++ [] = _
      congr 1
      cases puts : update.puts (.of .commands pump) with
      | none => rfl
      | some value =>
        have repeats := value_eq_of_not_detects detected puts
        rw [remembered _ (mqttOnly_commands pump)] at repeats
        exact (if_neg (not_not.mpr repeats)).symm

/-! ### Every step -/

/-- A step of the HTTP thread inside a change branch. -/
theorem ownRecorded_httpBranch (recorded : OwnRecorded opened machine) {update : Update}
    {stage : Stage} {calls : List Call}
    (here : machine.threads .http = ⟨some (update, stage), calls⟩) :
    OwnRecorded opened (machine.branchStep .http update calls stage) := by
  have http := recorded.http
  rw [here] at http
  obtain ⟨pumpId, status, rfl⟩ := http.1 update stage rfl
  have inside : ∀ later, FeedbackOnly ⟨some (Update.feedback pumpId status, later), calls⟩ := by
    intro later
    refine ⟨?_, http.2⟩
    rintro other otherStage ⟨⟩
    exact ⟨pumpId, status, rfl⟩
  cases stage with
  | addHistory =>
    exact ownRecorded_http recorded (inside _) (fun _ _ => rfl) (fun _ _ => rfl) rfl
  | insertRow =>
    exact ownRecorded_http recorded (inside _) (fun _ _ => rfl) (fun _ _ => rfl) rfl
  | insertSnapshot =>
    exact ownRecorded_http recorded (inside _) (fun _ _ => rfl) (fun _ _ => rfl) rfl
  | remember =>
    exact ownRecorded_http recorded ⟨nofun, http.2⟩ (fun _ _ => rfl)
      (fun _ own => value_setStatus pumpId status machine.side.previous.toPumpFields own) rfl

/-- The first locked section of an update of the HTTP thread. -/
theorem ownRecorded_httpOpen (recorded : OwnRecorded opened machine) (now : Int64) {update : Update}
    {calls : List Call} (here : machine.threads .http = ⟨none, .update update :: calls⟩) :
    OwnRecorded opened (machine.openUpdate .http now update calls) := by
  have http := recorded.http
  rw [here] at http
  obtain ⟨pumpId, status, isFeedback⟩ := http.2 (.update update) List.mem_cons_self
  cases isFeedback
  refine ownRecorded_http recorded ⟨?_, fun call member => http.2 call (List.mem_cons_of_mem _ member)⟩
    (fun _ own => value_setStatus pumpId status machine.side.current.toPumpFields own)
    (fun _ _ => rfl) rfl
  intro other stage inside
  split at inside
  · cases inside
    exact ⟨pumpId, status, rfl⟩
  · cases inside

theorem ownRecorded_httpStep (recorded : OwnRecorded opened machine) (now : Int64) :
    OwnRecorded opened (machine.advance .http now) := by
  unfold Machine.advance
  rcases here : machine.threads .http with ⟨_ | ⟨update, stage⟩, calls⟩
  · rcases calls with _ | ⟨update | ⟨busy, alarm⟩, calls⟩
    · exact recorded
    · exact ownRecorded_httpOpen recorded now here
    · have http := recorded.http
      rw [here] at http
      obtain ⟨pumpId, status, same⟩ := http.2 (.fillSystem busy alarm) List.mem_cons_self
      cases same
  · exact ownRecorded_httpBranch recorded here

/-- The command that a step opens. -/
def Machine.opening (machine : Machine) : Label → Option (Int32 × Int32)
  | .step .mqtt _ =>
    match machine.threads .mqtt with
    | ⟨none, .update update :: _⟩ => update.command?
    | _ => none
  | _ => none

theorem ownRecorded_mqttStep (recorded : OwnRecorded opened machine) (now : Int64) :
    OwnRecorded (opened ++ (machine.opening (.step .mqtt now)).toList) (machine.advance .mqtt now) := by
  unfold Machine.advance Machine.opening
  rcases here : machine.threads .mqtt with ⟨_ | ⟨update, stage⟩, calls⟩
  · have idle : (machine.threads .mqtt).inside = none := by rw [here]
    rcases calls with _ | ⟨update | ⟨busy, alarm⟩, calls⟩
    · exact (List.append_nil opened).symm ▸ recorded
    · exact ownRecorded_openUpdate recorded idle now update calls
    · exact (List.append_nil opened).symm ▸ ownRecorded_between recorded idle _
  · exact (List.append_nil opened).symm ▸ ownRecorded_branchStep recorded here

/-- **Every step keeps the invariant**, of either thread and in any order. -/
theorem ownRecorded_next (jsonC : JsonC) (recorded : OwnRecorded opened machine) (label : Label) :
    OwnRecorded (opened ++ (machine.opening label).toList) (machine.next jsonC label) := by
  cases label with
  | message topicName payload =>
    rw [show machine.opening (.message topicName payload) = none from rfl, Option.toList_none,
      List.append_nil]
    unfold Machine.next
    dsimp only
    split
    · rename_i waiting
      have idle : (machine.threads .mqtt).inside = none := by
        rw [show machine.threads .mqtt = {} from waiting]
      exact ownRecorded_between recorded idle _
    · exact recorded
  | post payload =>
    rw [show machine.opening (.post payload) = none from rfl, Option.toList_none, List.append_nil]
    unfold Machine.next
    dsimp only
    split
    · exact ownRecorded_http recorded (feedbackOnly_postCalls jsonC payload) (fun _ _ => rfl)
        (fun _ _ => rfl) rfl
    · exact recorded
  | step thread now =>
    cases thread with
    | mqtt => exact ownRecorded_mqttStep recorded now
    | http =>
      rw [show machine.opening (.step .http now) = none from rfl, Option.toList_none, List.append_nil]
      exact ownRecorded_httpStep recorded now

end Steps

/-! ### The law -/

/-- The fields that no POST writes: both commands, `busy` and `alarm`. -/
def PumpFields.mqttOnly (fields : PumpFields) : Int32 × Int32 × Int32 × Int32 :=
  (fields.pump1, fields.pump2, fields.busy, fields.alarm)

/-- **The law**: while the MQTT thread is inside no update, the change detector has the live commands and the
live system status, and the rows of each pump in `pump_commands` lead to its live command without a
repetition. -/
def OwnAgreement (machine : ReadingMachine) : Prop :=
  (machine.threads .mqtt).inside = none →
    machine.side.previous.mqttOnly = machine.side.current.mqttOnly ∧
    ∀ pump : Pump,
      replay 0 (valuesOf pump (Table.commands.rows machine.side.tables)) =
        machine.side.current.commandOf pump.id ∧
      Changing 0 (valuesOf pump (Table.commands.rows machine.side.tables))

/-- The process goes on, and no insertion fails. -/
def ReadingLabel.Succeeds : ReadingLabel → Prop
  | .step _ _ inserted => inserted = true
  | .restart => False
  | _ => True

instance : DecidablePred ReadingLabel.Succeeds
  | .arrive _ | .read _ _ => .isTrue trivial
  | .step _ _ inserted => inferInstanceAs (Decidable (inserted = true))
  | .restart => .isFalse not_false

/-- The registers, by name. -/
theorem mqttOnly_eq {first second : PumpFields}
    (same : ∀ register : Register, register.MqttOnly → register.value first = register.value second) :
    first.mqttOnly = second.mqttOnly := by
  have command1 := same (.of .commands .one) (mqttOnly_commands .one)
  have command2 := same (.of .commands .two) (mqttOnly_commands .two)
  have busy := same .busy mqttOnly_busy
  have alarm := same .alarm mqttOnly_alarm
  show (first.pump1, first.pump2, first.busy, first.alarm) = _
  rw [show first.pump1 = second.pump1 from command1, show first.pump2 = second.pump2 from command2,
    show first.busy = second.busy from busy, show first.alarm = second.alarm from alarm]
  rfl

/-! ### Field by field -/

/-- Where a thread is, whatever it has read. -/
def ReadingThread.state (thread : ReadingThread) : ThreadState where
  inside := thread.inside.map fun branch => (branch.update, branch.stage)
  calls := thread.calls

/-- The two machines agree, but for the rows that carry what was read: the snapshots, and the times of the
others. -/
structure Agrees (reading : ReadingMachine) (machine : Machine) : Prop where
  threads : ∀ thread, (reading.threads thread).state = machine.threads thread
  current : reading.side.current = machine.side.current
  previous : reading.side.previous = machine.side.previous
  rows : Table.commands.rows reading.side.tables = Table.commands.rows machine.side.tables

section Agrees

variable {reading : ReadingMachine} {machine : Machine}

/-- Both machines move on. -/
theorem Agrees.become (agrees : Agrees reading machine) (thread : Thread) {first second : PumpSide}
    (current : first.current = second.current) (previous : first.previous = second.previous)
    (rows : Table.commands.rows first.tables = Table.commands.rows second.tables) (state : ReadingThread) :
    Agrees (reading.become thread first state) (machine.become thread second state.state) where
  threads any := by
    show (Function.update reading.threads thread state any).state =
      Function.update machine.threads thread state.state any
    by_cases same : any = thread
    · subst same
      rw [Function.update_self, Function.update_self]
    · rw [Function.update_of_ne same, Function.update_of_ne same, agrees.threads]
  current := current
  previous := previous
  rows := rows

theorem state_eq_iff {thread : ReadingThread} : thread.state = {} ↔ thread = {} := by
  rcases thread with ⟨_ | branch, calls⟩
  · simp [ReadingThread.state]
  · simp [ReadingThread.state]

/-- An input arrives. -/
theorem agrees_arrive (jsonC : JsonC) (agrees : Agrees reading machine) (input : Input) :
    ∃ label, Agrees (reading.next jsonC (.arrive input)) (machine.next jsonC label) := by
  have free : reading.threads input.thread = {} ↔ machine.Waiting input.thread := by
    rw [Machine.Waiting, ← agrees.threads, state_eq_iff]
  have taken := agrees.become input.thread agrees.current agrees.previous agrees.rows
    ⟨none, input.calls jsonC⟩
  unfold ReadingMachine.next
  dsimp only
  cases input with
  | mqtt topicName payload =>
    refine ⟨.message topicName payload, ?_⟩
    rw [Machine.next]
    by_cases waiting : machine.Waiting .mqtt
    · rw [if_pos waiting, if_pos (free.mpr waiting)]
      exact taken
    · rw [if_neg waiting, if_neg (free.not.mpr waiting)]
      exact agrees
  | feedbackPost payload =>
    refine ⟨.post payload, ?_⟩
    rw [Machine.next]
    by_cases waiting : machine.Waiting .http
    · rw [if_pos waiting, if_pos (free.mpr waiting)]
      exact taken
    · rw [if_neg waiting, if_neg (free.not.mpr waiting)]
      exact agrees

/-- A field is read. -/
theorem agrees_readField (agrees : Agrees reading machine) (thread : Thread) (field : StatusField) :
    Agrees (reading.readField thread field) machine := by
  have here := agrees.threads thread
  have unmoved : machine.become thread machine.side (reading.threads thread).state = machine := by
    rw [here]
    exact congrArg (Machine.mk machine.side) (Function.update_eq_self ..)
  unfold ReadingMachine.readField
  split
  · rename_i branch calls isInside
    split_ifs with unread
    · rw [← unmoved, isInside]
      exact agrees.become thread agrees.current agrees.previous agrees.rows _
    · exact agrees
  · exact agrees

/-- The call of a stage. -/
theorem agrees_callStage (agrees : Agrees reading machine) (thread : Thread) (update : Update)
    (values : PumpStatus) (calls : List Call) (stage : Stage) :
    Agrees (reading.callStage thread true update values calls stage)
      (machine.branchStep thread update calls stage) := by
  cases stage with
  | addHistory =>
    refine agrees.become thread ?_ ?_ ?_ ⟨some (.enter update .insertRow), calls⟩
    · exact agrees.current
    · exact agrees.previous
    · exact agrees.rows
  | insertRow =>
    refine agrees.become thread ?_ ?_ ?_ ⟨some (.enter update .insertSnapshot), calls⟩
    · exact agrees.current.trans (insertOwnRow_current update machine.side).symm
    · exact agrees.previous.trans (insertOwnRow_previous update machine.side).symm
    · cases update with
      | command pumpId state =>
        show (reading.side.tables.pumpCommands ++ [_]).map _ = (machine.side.tables.pumpCommands ++ [_]).map _
        rw [List.map_append, List.map_append]
        exact congrArg (· ++ _) agrees.rows
      | feedback pumpId status => exact agrees.rows
      | system busy alarm => exact agrees.rows
  | insertSnapshot =>
    refine agrees.become thread ?_ ?_ ?_ ⟨some (.enter update .remember), calls⟩
    · exact agrees.current
    · exact agrees.previous
    · exact agrees.rows
  | remember =>
    refine agrees.become thread ?_ ?_ ?_ ⟨none, calls⟩
    · exact agrees.current
    · unfold PumpSide.remember
      rw [agrees.previous]
    · exact agrees.rows

/-- The next step of a thread: a call waits until its fields have been read. -/
theorem agrees_advance (agrees : Agrees reading machine) (thread : Thread) (now : Int64) :
    Agrees (reading.advance thread now true) machine ∨
      Agrees (reading.advance thread now true) (machine.advance thread now) := by
  have here := agrees.threads thread
  unfold ReadingMachine.advance Machine.advance
  rw [← here]
  rcases reading.threads thread with ⟨_ | ⟨update, stage, unread, values⟩, calls⟩
  · rcases calls with _ | ⟨update | ⟨busy, alarm⟩, calls⟩
    · exact .inl agrees
    · right
      dsimp only [ReadingThread.state, Option.map_none]
      unfold Machine.openUpdate
      rw [agrees.previous]
      have stamped : (reading.side.stamp now update.write).current =
          (machine.side.stamp now update.write).current := by
        unfold PumpSide.stamp
        rw [agrees.current]
      by_cases detected : update.detects machine.side.previous.toPumpFields
      · rw [if_pos detected, if_pos detected]
        exact agrees.become thread stamped agrees.previous agrees.rows
          ⟨some (.enter update update.firstStage), calls⟩
      · rw [if_neg detected, if_neg detected]
        exact agrees.become thread stamped agrees.previous agrees.rows ⟨none, calls⟩
    · right
      dsimp only [ReadingThread.state, Option.map_none]
      unfold Machine.fillSystem
      rw [agrees.current]
      exact agrees.become thread agrees.current agrees.previous agrees.rows ⟨none, _⟩
  · cases unread with
    | nil => exact .inr (agrees_callStage agrees thread update values calls stage)
    | cons field rest => exact .inl agrees

/-- **The machine that reads field by field does what the other one does**, but for the rows that carry what was
read. -/
theorem agrees_next (jsonC : JsonC) (agrees : Agrees reading machine) {label : ReadingLabel}
    (succeeds : label.Succeeds) :
    ∃ labels, Agrees (reading.next jsonC label) (Runs.run (Machine.next jsonC) machine labels) := by
  cases label with
  | arrive input =>
    obtain ⟨label, agreesNext⟩ := agrees_arrive jsonC agrees input
    exact ⟨[label], agreesNext⟩
  | read thread field => exact ⟨[], agrees_readField agrees thread field⟩
  | step thread now inserted =>
    obtain rfl : inserted = true := succeeds
    rcases agrees_advance agrees thread now with waits | moves
    · exact ⟨[], waits⟩
    · exact ⟨[.step thread now], moves⟩
  | restart => exact succeeds.elim

end Agrees

/-- **The law holds where the other machine keeps the invariant.** -/
theorem ownAgreement_of_recorded {opened : List (Int32 × Int32)} {reading : ReadingMachine}
    {machine : Machine} (agrees : Agrees reading machine) (recorded : OwnRecorded opened machine) :
    OwnAgreement reading := by
  intro outside
  have idle : (machine.threads .mqtt).inside = none := by
    rw [← agrees.threads, ReadingThread.state, outside]
    rfl
  obtain ⟨held, unlogged⟩ := outside_mqtt idle
  rw [agrees.current, agrees.previous, agrees.rows]
  refine ⟨mqttOnly_eq fun register own => ?_, fun pump => ?_⟩
  · rcases recorded.registers register own with holds | ⟨-, same⟩
    · rw [held] at holds
      cases holds
    · exact same
  · have rows := recorded.rows pump
    rw [unlogged, List.append_nil] at rows
    rw [rows, replay_changes]
    exact ⟨recorded.live pump, changing_changes 0 _⟩

/-- **What only messages write stays recorded**, in every interleaving with the POSTs, however the reads of the
single fields lie between. -/
theorem own_registers_recorded (jsonC : JsonC) (labels : List ReadingLabel)
    (succeeds : ∀ label ∈ labels, label.Succeeds) :
    Runs.Always (ReadingMachine.next jsonC) OwnAgreement {} labels := by
  have kept : ∀ (reading : ReadingMachine) (label : ReadingLabel), label.Succeeds →
      (∃ before, Agrees reading (Runs.run (Machine.next jsonC) {} before)) →
        ∃ before, Agrees (reading.next jsonC label) (Runs.run (Machine.next jsonC) {} before) := by
    rintro reading label succeeds ⟨before, agrees⟩
    obtain ⟨more, agreesNext⟩ := agrees_next jsonC agrees succeeds
    exact ⟨before ++ more, by rwa [Runs.run_append]⟩
  have initial : ∃ before, Agrees {} (Runs.run (Machine.next jsonC) {} before) := ⟨[], fun _ => rfl, rfl, rfl, rfl⟩
  rw [Runs.always_iff]
  intro before isPrefix
  obtain ⟨coarse, agrees⟩ := Runs.invariant_run_of_mem kept initial before
    fun label inside => succeeds label (isPrefix.subset inside)
  have recordedNext : ∀ (machine : Machine) (label : Label), (∃ opened, OwnRecorded opened machine) →
      ∃ opened, OwnRecorded opened (machine.next jsonC label) :=
    fun _ label ⟨_, recorded⟩ => ⟨_, ownRecorded_next jsonC recorded label⟩
  obtain ⟨opened, recorded⟩ : ∃ opened, OwnRecorded opened (Runs.run (Machine.next jsonC) {} coarse) :=
    Runs.invariant_run recordedNext (⟨[], ownRecorded_initial⟩ : ∃ opened, OwnRecorded opened {}) coarse
  exact ownAgreement_of_recorded agrees recorded

/-- Pump 1 is switched on, and a POST reports it in the meantime. -/
def reportedMeanwhile : List ReadingLabel :=
  let reads (thread : Thread) (stage : Stage) : List ReadingLabel := stage.reads.map (.read thread)
  [.arrive (.mqtt "pump/control" (ascii "\x7b\"pump_id\":1,\"state\":1\x7d")), .step .mqtt 100 true,
    .arrive (.feedbackPost (ascii "\x7b\"pump_id\":1,\"status\":1\x7d")), .step .http 100 true] ++
  reads .mqtt .addHistory ++ [.step .mqtt 100 true] ++ reads .http .insertRow ++ reads .mqtt .insertRow ++
  [.step .http 100 true, .step .mqtt 100 true] ++ reads .http .insertSnapshot ++ reads .mqtt .insertSnapshot ++
  [.step .mqtt 101 true, .step .mqtt 101 true]

theorem own_registers_recorded_reportedMeanwhile :
    let machine := Runs.run (ReadingMachine.next JsonC.reference) {} reportedMeanwhile
    ((machine.threads .mqtt).inside = none ∧ (machine.threads .http).inside ≠ none ∧
        Table.commands.rows machine.side.tables = [(1, 1)]) ∧
      Runs.Always (ReadingMachine.next JsonC.reference) OwnAgreement {} reportedMeanwhile := by
  refine ⟨by decide +kernel, own_registers_recorded JsonC.reference reportedMeanwhile ?_⟩
  decide +kernel

end ServerPump
