/-
**What an update changes, and the updates of a delivery.**

Frame lemmas for one `applyUpdate`: the live fields, the previous fields, the rows of a table and
the newest snapshot behind it. `reports` lists the updates a delivery makes, and `handle_pumps` says
that handling the delivery is applying them in order, so that what is proved for one `Update` is
lifted along it.
-/

import ServerPump.Library.Runs
import ServerPump.Server.System
import ServerPump.Server.Update

namespace ServerPump

/-! ### Pumps, tables and fields -/

/-- The two pumps. -/
inductive Pump
  | one
  | two
  deriving DecidableEq

def Pump.id : Pump → Int32
  | .one => 1
  | .two => 2

/-- The pump of an id, if there is one. -/
def Pump.ofId (pumpId : Int32) : Option Pump :=
  if pumpId = 1 then some .one else if pumpId = 2 then some .two else none

theorem ofId_eq_some_iff {pumpId : Int32} {pump : Pump} :
    Pump.ofId pumpId = some pump ↔ pumpId = pump.id := by
  unfold Pump.ofId
  by_cases first : pumpId = 1
  · cases pump <;> simp [first, Pump.id]
  · by_cases second : pumpId = 2
    · cases pump <;> simp [second, Pump.id]
    · cases pump <;> simp [first, second, Pump.id]

/-- The two tables with a row for each change of a pump. -/
inductive Table
  | commands
  | feedback
  deriving DecidableEq

/-- The rows of a table, as pump id and value. -/
def Table.rows (tables : PumpTables) : Table → List (Int32 × Int32)
  | commands => tables.pumpCommands.map fun row => (row.pumpId, row.command)
  | feedback => tables.pumpFeedback.map fun row => (row.pumpId, row.status)

/-- The field a table records. -/
def Table.valueOf (pumpId : Int32) (fields : PumpFields) : Table → Int32
  | commands => fields.commandOf pumpId
  | feedback => fields.statusOf pumpId

/-- The table of an update, with the pump id and the value of its row. -/
def Update.entry : Update → Option (Table × Int32 × Int32)
  | command pumpId state => some (.commands, pumpId, state)
  | feedback pumpId status => some (.feedback, pumpId, status)
  | system _ _ => none

theorem detects_eq_of_entry {update : Update} {table : Table} {pumpId value : Int32}
    (shape : update.entry = some (table, pumpId, value)) (previous : PumpFields) :
    update.detects previous = decide (table.valueOf pumpId previous ≠ value) := by
  cases update with
  | command pumpId state =>
    cases shape
    rfl
  | feedback pumpId status =>
    cases shape
    rfl
  | system busy alarm => cases shape

/-- The six values of the pump side: for each pump one that is recorded in either table, and the
system status. -/
inductive Register
  | of (table : Table) (pump : Pump)
  | busy
  | alarm
  deriving DecidableEq

/-- The value of a register among the fields. -/
def Register.value (fields : PumpFields) : Register → Int32
  | of table pump => table.valueOf pump.id fields
  | busy => fields.busy
  | alarm => fields.alarm

theorem fields_ext {first second : PumpFields}
    (same : ∀ register : Register, register.value first = register.value second) :
    first = second := by
  have command1 := same (.of .commands .one)
  have command2 := same (.of .commands .two)
  have status1 := same (.of .feedback .one)
  have status2 := same (.of .feedback .two)
  have busy := same .busy
  have alarm := same .alarm
  cases first
  cases second
  exact PumpFields.mk.injEq .. |>.mpr ⟨command1, command2, status1, status2, busy, alarm⟩

/-- The value an update writes into a register, if it writes there. -/
def Update.puts : Update → Register → Option Int32
  | command pumpId state, .of .commands pump => if pumpId = pump.id then some state else none
  | feedback pumpId status, .of .feedback pump => if pumpId = pump.id then some status else none
  | system busy _, .busy => some busy
  | system _ alarm, .alarm => some alarm
  | _, _ => none

/-! ### What an update changes -/

/-- The snapshot of these fields. -/
def snapshotOf (fields : PumpFields) (timestamp : Int64) : SnapshotRow :=
  ⟨fields.pump1, fields.pump1Status, fields.pump2, fields.pump2Status, fields.busy, fields.alarm,
    timestamp⟩

@[simp]
theorem insertRow_current (update : Update) (inserted : Bool) (side : PumpSide) :
    (update.insertRow inserted side).current = side.current := by
  cases update with
  | command pumpId state => rfl
  | feedback pumpId status => rfl
  | system busy alarm => rfl

@[simp]
theorem insertRow_previous (update : Update) (inserted : Bool) (side : PumpSide) :
    (update.insertRow inserted side).previous = side.previous := by
  cases update with
  | command pumpId state => rfl
  | feedback pumpId status => rfl
  | system busy alarm => rfl

@[simp]
theorem insertRow_pumpSnapshots (update : Update) (inserted : Bool) (side : PumpSide) :
    (update.insertRow inserted side).tables.pumpSnapshots = side.tables.pumpSnapshots := by
  cases update with
  | command pumpId state =>
    simp only [Update.insertRow, insertCommand, addPumpHistory, dbInsertCommand]
    split <;> rfl
  | feedback pumpId status =>
    simp only [Update.insertRow, insertFeedback, dbInsertFeedback]
    split <;> rfl
  | system busy alarm => rfl

theorem insertSnapshot_pumpSnapshots (inserted : Bool) (side : PumpSide) :
    (insertSnapshot inserted side).tables.pumpSnapshots = side.tables.pumpSnapshots ++
      if inserted then [snapshotOf side.current.toPumpFields side.current.timestamp] else [] := by
  cases inserted with
  | false => exact (List.append_nil _).symm
  | true => rfl

theorem rows_insertSnapshot (table : Table) (inserted : Bool) (side : PumpSide) :
    table.rows (insertSnapshot inserted side).tables = table.rows side.tables := by
  cases inserted with
  | false => rfl
  | true => cases table <;> rfl

theorem rows_insertRow (table : Table) (update : Update) (inserted : Bool) (side : PumpSide) :
    table.rows (update.insertRow inserted side).tables = table.rows side.tables ++
      match update.entry with
      | some (own, row) => if own = table ∧ inserted then [row] else []
      | none => [] := by
  cases update with
  | command pumpId state =>
    cases inserted <;> cases table <;>
      simp [Update.insertRow, insertCommand, dbInsertCommand, addPumpHistory, Update.entry, Table.rows]
  | feedback pumpId status =>
    cases inserted <;> cases table <;>
      simp [Update.insertRow, insertFeedback, dbInsertFeedback, Update.entry, Table.rows]
  | system busy alarm => simp [Update.insertRow, Update.entry]

/-- **The live fields after an update.** -/
@[simp]
theorem applyUpdate_current (io : UpdateIo) (update : Update) (side : PumpSide) :
    (applyUpdate io update side).current.toPumpFields = update.write side.current.toPumpFields := by
  unfold applyUpdate
  cases update.detects side.previous.toPumpFields with
  | false => rfl
  | true =>
    show (update.insertRow io.rowInserted _).current.toPumpFields = _
    rw [insertRow_current]
    rfl

/-- **The previous fields after an update**, whatever the outcomes of its insertions. -/
theorem applyUpdate_previous (io : UpdateIo) (update : Update) (side : PumpSide) :
    (applyUpdate io update side).previous.toPumpFields =
      if update.detects side.previous.toPumpFields then update.write side.previous.toPumpFields
      else side.previous.toPumpFields := by
  unfold applyUpdate
  cases update.detects side.previous.toPumpFields with
  | false => rfl
  | true =>
    show update.write (update.insertRow io.rowInserted _).previous.toPumpFields = _
    rw [insertRow_previous]
    rfl

/-- **The snapshots after an update.** -/
theorem applyUpdate_pumpSnapshots (io : UpdateIo) (update : Update) (side : PumpSide) :
    (applyUpdate io update side).tables.pumpSnapshots = side.tables.pumpSnapshots ++
      if update.detects side.previous.toPumpFields ∧ io.snapshotInserted then
        [snapshotOf (update.write side.current.toPumpFields) io.now] else [] := by
  unfold applyUpdate
  cases update.detects side.previous.toPumpFields with
  | false => simp [PumpSide.stamp]
  | true =>
    show (insertSnapshot io.snapshotInserted _).tables.pumpSnapshots = _
    rw [insertSnapshot_pumpSnapshots, insertRow_pumpSnapshots, insertRow_current]
    simp [PumpSide.stamp]

/-- The six values of a snapshot. -/
def SnapshotRow.fields (row : SnapshotRow) : PumpFields :=
  ⟨row.pump1Cmd, row.pump2Cmd, row.pump1Status, row.pump2Status, row.busy, row.alarm⟩

/-- The newest snapshot. -/
def newestSnapshot (tables : PumpTables) : Option PumpFields :=
  tables.pumpSnapshots.getLast?.map SnapshotRow.fields

theorem newestSnapshot_applyUpdate (io : UpdateIo) (update : Update) (side : PumpSide) :
    newestSnapshot (applyUpdate io update side).tables =
      if update.detects side.previous.toPumpFields ∧ io.snapshotInserted then
        some (update.write side.current.toPumpFields)
      else newestSnapshot side.tables := by
  unfold newestSnapshot
  rw [applyUpdate_pumpSnapshots]
  by_cases inserted : update.detects side.previous.toPumpFields ∧ io.snapshotInserted
  · rw [if_pos inserted, if_pos inserted, List.getLast?_concat]
    rfl
  · rw [if_neg inserted, if_neg inserted, List.append_nil]

theorem write_write (update : Update) (fields : PumpFields) :
    update.write (update.write fields) = update.write fields := by
  cases update with
  | command pumpId state =>
    simp only [Update.write, PumpFields.setCommand]
    split
    · rfl
    · split <;> rfl
  | feedback pumpId status =>
    simp only [Update.write, PumpFields.setStatus]
    split
    · rfl
    · split <;> rfl
  | system busy alarm => rfl

/-- A report that is not detected writes nothing new. -/
theorem write_eq_of_not_detects {update : Update} {fields : PumpFields}
    (same : update.detects fields = false) : update.write fields = fields := by
  cases update with
  | command pumpId state =>
    have value : fields.commandOf pumpId = state := not_not.mp (of_decide_eq_false same)
    show fields.setCommand pumpId state = fields
    rw [PumpFields.setCommand, ← value, PumpFields.commandOf]
    by_cases first : pumpId = 1
    · rw [if_pos first, if_pos first]
    · rw [if_neg first, if_neg first, ite_self]
  | feedback pumpId status =>
    have value : fields.statusOf pumpId = status := not_not.mp (of_decide_eq_false same)
    show fields.setStatus pumpId status = fields
    rw [PumpFields.setStatus, ← value, PumpFields.statusOf]
    by_cases first : pumpId = 1
    · rw [if_pos first, if_pos first]
    · rw [if_neg first, if_neg first, ite_self]
  | system busy alarm =>
    have values := of_decide_eq_false same
    rw [not_or, not_not, not_not] at values
    show fields.setSystem busy alarm = fields
    rw [PumpFields.setSystem, ← values.1, ← values.2]

/-- The previous fields are the live ones. -/
def Remembered (side : PumpSide) : Prop :=
  side.previous.toPumpFields = side.current.toPumpFields

/-- **The live fields are remembered**, whatever the outcomes of the insertions. -/
theorem remembered_applyUpdate (io : UpdateIo) (update : Update) {side : PumpSide}
    (remembered : Remembered side) : Remembered (applyUpdate io update side) := by
  unfold Remembered at remembered ⊢
  rw [applyUpdate_previous, applyUpdate_current, remembered]
  cases detected : update.detects side.current.toPumpFields with
  | false => exact (write_eq_of_not_detects detected).symm
  | true => rfl

theorem setStatus_busy (pumpId status : Int32) (fields : PumpFields) :
    (fields.setStatus pumpId status).busy = fields.busy := by
  unfold PumpFields.setStatus
  split
  · rfl
  · split <;> rfl

theorem setStatus_alarm (pumpId status : Int32) (fields : PumpFields) :
    (fields.setStatus pumpId status).alarm = fields.alarm := by
  unfold PumpFields.setStatus
  split
  · rfl
  · split <;> rfl

/-- The value of a pump in the fields an update writes. -/
theorem valueOf_write (update : Update) (fields : PumpFields) (table : Table) (pump : Pump) :
    table.valueOf pump.id (update.write fields) =
      match update.entry with
      | some (own, pumpId, value) =>
        if own = table ∧ pumpId = pump.id then value else table.valueOf pump.id fields
      | none => table.valueOf pump.id fields := by
  have distinct : ¬ (2 : Int32) = 1 := by decide
  cases update with
  | command pumpId state =>
    cases table <;> cases pump <;> by_cases first : pumpId = 1 <;> by_cases second : pumpId = 2 <;>
      simp_all [Update.write, Update.entry, Table.valueOf, PumpFields.setCommand,
        PumpFields.commandOf, PumpFields.statusOf, Pump.id]
  | feedback pumpId status =>
    cases table <;> cases pump <;> by_cases first : pumpId = 1 <;> by_cases second : pumpId = 2 <;>
      simp_all [Update.write, Update.entry, Table.valueOf, PumpFields.setStatus,
        PumpFields.commandOf, PumpFields.statusOf, Pump.id]
  | system busy alarm => cases table <;> rfl

theorem value_write (update : Update) (fields : PumpFields) (register : Register) :
    register.value (update.write fields) = (update.puts register).getD (register.value fields) := by
  cases register with
  | of table pump =>
    rw [Register.value, valueOf_write]
    cases update with
    | command pumpId state =>
      cases table with
      | commands => by_cases own : pumpId = pump.id <;> simp [Update.entry, Update.puts, own, Register.value]
      | feedback => simp [Update.entry, Update.puts, Register.value]
    | feedback pumpId status =>
      cases table with
      | commands => simp [Update.entry, Update.puts, Register.value]
      | feedback => by_cases own : pumpId = pump.id <;> simp [Update.entry, Update.puts, own, Register.value]
    | system busy alarm => simp [Update.entry, Update.puts, Register.value]
  | busy =>
    cases update with
    | command pumpId state =>
      simp only [Update.write, PumpFields.setCommand]
      split
      · rfl
      · split <;> rfl
    | feedback pumpId status => exact setStatus_busy pumpId status fields
    | system busy alarm => rfl
  | alarm =>
    cases update with
    | command pumpId state =>
      simp only [Update.write, PumpFields.setCommand]
      split
      · rfl
      · split <;> rfl
    | feedback pumpId status => exact setStatus_alarm pumpId status fields
    | system busy alarm => rfl

/-- A report that is not detected repeats what the previous fields hold. -/
theorem value_eq_of_not_detects {update : Update} {previous : PumpFields}
    (same : update.detects previous = false) {register : Register} {value : Int32}
    (puts : update.puts register = some value) : register.value previous = value := by
  have written := value_write update previous register
  rw [write_eq_of_not_detects same, puts] at written
  exact written

/-- **The rows after an update.** -/
theorem rows_applyUpdate (table : Table) (io : UpdateIo) (update : Update) (side : PumpSide) :
    table.rows (applyUpdate io update side).tables = table.rows side.tables ++
      match update.entry with
      | some (own, pumpId, value) =>
        if own = table ∧ table.valueOf pumpId side.previous.toPumpFields ≠ value ∧ io.rowInserted then
          [(pumpId, value)]
        else []
      | none => [] := by
  unfold applyUpdate
  cases detected : update.detects side.previous.toPumpFields with
  | false =>
    show table.rows side.tables = _
    cases shape : update.entry with
    | none => exact (List.append_nil _).symm
    | some entry =>
      obtain ⟨own, pumpId, value⟩ := entry
      have same := (detects_eq_of_entry shape side.previous.toPumpFields).symm.trans detected
      dsimp only
      rw [if_neg, List.append_nil]
      rintro ⟨rfl, differs, -⟩
      exact of_decide_eq_false same differs
  | true =>
    show table.rows (insertSnapshot io.snapshotInserted _).tables = _
    rw [rows_insertSnapshot, rows_insertRow]
    congr 1
    cases shape : update.entry with
    | none => rfl
    | some entry =>
      obtain ⟨own, pumpId, value⟩ := entry
      have differs := of_decide_eq_true
        ((detects_eq_of_entry shape side.previous.toPumpFields).symm.trans detected)
      dsimp only
      by_cases here : own = table
      · subst here
        simp [differs]
      · rw [if_neg fun both => here both.1, if_neg fun all => here all.1]

/-! ### The updates of a delivery -/

section Reports

variable (jsonC : JsonC)

/-- The update of a control message. -/
def controlReports (io : UpdateIo) (payload : List UInt8) : List (Update × UpdateIo) :=
  match jsonC.tokenerParse payload with
  | none => []
  | some parsed =>
    match jsonC.objectGetEx parsed "pump_id", jsonC.objectGetEx parsed "state" with
    | some pumpId, some state => [(.command (jsonC.getInt pumpId) (jsonC.getInt state), io)]
    | _, _ => []

/-- The hardware status in a feedback message. -/
def statusReports (io : UpdateIo) (parsed : jsonC.Value) : List (Update × UpdateIo) :=
  match jsonC.objectGetEx parsed "pump_id", jsonC.objectGetEx parsed "status" with
  | some pumpId, some status =>
    if 0 ≤ jsonC.getInt status ∧ jsonC.getInt status ≤ 3 then
      [(.feedback (jsonC.getInt pumpId) (jsonC.getInt status), io)]
    else []
  | _, _ => []

/-- The system status in a feedback message; a missing half is the live one. -/
def systemReports (io : UpdateIo) (parsed : jsonC.Value) (fields : PumpFields) :
    List (Update × UpdateIo) :=
  let busy := newBusy jsonC parsed
  let alarm := newAlarm jsonC parsed
  if busy.isSome ∨ alarm.isSome then
    [(.system (busy.getD fields.busy) (alarm.getD fields.alarm), io)]
  else []

/-- Both halves of a feedback message. -/
def feedbackReports (io : MessageIo) (payload : List UInt8) (fields : PumpFields) :
    List (Update × UpdateIo) :=
  match jsonC.tokenerParse payload with
  | none => []
  | some parsed => statusReports jsonC io.report parsed ++ systemReports jsonC io.system parsed fields

/-- The body of a POST; its status is validated by the update. -/
def postReports (io : UpdateIo) (payload : List UInt8) : List (Update × UpdateIo) :=
  match jsonC.tokenerParse payload with
  | none => []
  | some parsed =>
    match jsonC.objectGetEx parsed "pump_id", jsonC.objectGetEx parsed "status" with
    | some pumpId, some status =>
      [(.feedback (jsonC.getInt pumpId) (validStatus (jsonC.getInt status)), io)]
    | _, _ => []

/-- **The updates a delivery makes**, when the live fields are `fields`. -/
def reports (delivery : Delivery) (fields : PumpFields) : List (Update × UpdateIo) :=
  match delivery.input with
  | .mqtt topicName payload =>
    if topicName = "gateway/heartbeat" then []
    else if topicName = "pump/control" then
      controlReports jsonC delivery.io.report (mqttPayload payload)
    else if topicName = "pump/feedback" then
      feedbackReports jsonC delivery.io (mqttPayload payload) fields
    else []
  | .feedbackPost payload => postReports jsonC delivery.io.report payload

/-- One reported update. -/
def applyReport (side : PumpSide) (report : Update × UpdateIo) : PumpSide :=
  applyUpdate report.2 report.1 side

/-- A status in `0..3` is valid as it is. -/
theorem validStatus_of_range {status : Int32} (range : 0 ≤ status ∧ status ≤ 3) :
    validStatus status = status := by
  unfold validStatus
  rw [if_neg]
  rintro (negative | large)
  · exact absurd range.1 (Int32.not_le.mpr negative)
  · exact absurd range.2 (Int32.not_le.mpr large)

theorem pumpControl_eq (io : UpdateIo) (payload : List UInt8) (side : PumpSide) :
    pumpControl jsonC io payload side = Runs.run applyReport side (controlReports jsonC io payload) := by
  unfold pumpControl controlReports
  cases jsonC.tokenerParse payload with
  | none => rfl
  | some parsed =>
    dsimp only
    cases jsonC.objectGetEx parsed "pump_id" <;> cases jsonC.objectGetEx parsed "state"
    · rfl
    · rfl
    · rfl
    · exact updatePumpStatus_eq io _ _ side

theorem feedbackStatus_eq (io : UpdateIo) (parsed : jsonC.Value) (side : PumpSide) :
    feedbackStatus jsonC io parsed side =
      Runs.run applyReport side (statusReports jsonC io parsed) := by
  unfold feedbackStatus statusReports
  cases jsonC.objectGetEx parsed "pump_id" <;> cases jsonC.objectGetEx parsed "status"
  · rfl
  · rfl
  · rfl
  · rename_i pumpId status
    by_cases range : 0 ≤ jsonC.getInt status ∧ jsonC.getInt status ≤ 3
    · simp only [if_pos range]
      rw [updatePumpFeedback_eq, validStatus_of_range range]
      rfl
    · simp only [if_neg range]
      rfl

theorem feedbackSystem_eq (io : UpdateIo) (parsed : jsonC.Value) (side : PumpSide) :
    feedbackSystem jsonC io parsed side =
      Runs.run applyReport side (systemReports jsonC io parsed side.current.toPumpFields) := by
  unfold feedbackSystem systemReports
  by_cases some : (newBusy jsonC parsed).isSome ∨ (newAlarm jsonC parsed).isSome
  · simp only [if_pos some]
    exact updateSystemStatus_eq io _ _ side
  · simp only [if_neg some]
    rfl

/-- The hardware status leaves the system status alone. -/
theorem systemReports_congr (io : UpdateIo) (parsed : jsonC.Value) {first second : PumpFields}
    (busy : first.busy = second.busy) (alarm : first.alarm = second.alarm) :
    systemReports jsonC io parsed first = systemReports jsonC io parsed second := by
  unfold systemReports
  rw [busy, alarm]

/-- A feedback message reports at most one hardware status. -/
theorem statusReports_cases (io : UpdateIo) (parsed : jsonC.Value) :
    statusReports jsonC io parsed = [] ∨
      ∃ pumpId status, statusReports jsonC io parsed = [(.feedback pumpId status, io)] := by
  unfold statusReports
  split
  · split
    · exact .inr ⟨_, _, rfl⟩
    · exact .inl rfl
  · exact .inl rfl

theorem pumpFeedback_eq (io : MessageIo) (payload : List UInt8) (side : PumpSide) :
    pumpFeedback jsonC io payload side =
      Runs.run applyReport side (feedbackReports jsonC io payload side.current.toPumpFields) := by
  unfold pumpFeedback feedbackReports
  cases jsonC.tokenerParse payload with
  | none => rfl
  | some parsed =>
    simp only [feedbackSystem_eq, feedbackStatus_eq, Runs.run_append]
    congr 1
    rcases statusReports_cases jsonC io.report parsed with none | ⟨pumpId, status, one⟩
    · rw [none, Runs.run_nil]
    · rw [one, Runs.run_cons, Runs.run_nil, applyReport]
      apply systemReports_congr
      · rw [applyUpdate_current]
        exact setStatus_busy pumpId status _
      · rw [applyUpdate_current]
        exact setStatus_alarm pumpId status _

theorem handlePumpFeedback_eq (io : UpdateIo) (payload : List UInt8) (side : PumpSide) :
    (handlePumpFeedback jsonC io payload side).2 =
      Runs.run applyReport side (postReports jsonC io payload) := by
  unfold handlePumpFeedback postReports
  cases jsonC.tokenerParse payload with
  | none => rfl
  | some parsed =>
    dsimp only
    cases jsonC.objectGetEx parsed "pump_id" <;> cases jsonC.objectGetEx parsed "status"
    · rfl
    · rfl
    · rfl
    · exact updatePumpFeedback_eq io _ _ side

/-- Every update of a delivery is answered by one of its two environments. -/
theorem io_of_mem_reports {delivery : Delivery} {fields : PumpFields} {report : Update × UpdateIo}
    (member : report ∈ reports jsonC delivery fields) :
    report.2 = delivery.io.report ∨ report.2 = delivery.io.system := by
  obtain ⟨input, io⟩ := delivery
  cases input with
  | mqtt topicName payload =>
    simp only [reports, controlReports, feedbackReports, statusReports, systemReports] at member
    grind
  | feedbackPost payload =>
    simp only [reports, postReports] at member
    grind

/-- **Where every insertion of a delivery succeeds, those of its updates do.** -/
theorem succeeds_of_mem_reports {delivery : Delivery} {fields : PumpFields}
    {report : Update × UpdateIo} (succeeds : delivery.Succeeds)
    (member : report ∈ reports jsonC delivery fields) : report.2.Succeeds := by
  rcases io_of_mem_reports jsonC member with own | own
  · rw [own]
    exact succeeds.1
  · rw [own]
    exact succeeds.2

/-- A feedback message reports at most one system status. -/
theorem systemReports_cases (io : UpdateIo) (parsed : jsonC.Value) (fields : PumpFields) :
    systemReports jsonC io parsed fields = [] ∨
      ∃ busy alarm, systemReports jsonC io parsed fields = [(.system busy alarm, io)] := by
  unfold systemReports
  dsimp only
  split
  · exact .inr ⟨_, _, rfl⟩
  · exact .inl rfl

/-- A control message makes at most one update. -/
theorem controlReports_cases (io : UpdateIo) (payload : List UInt8) :
    controlReports jsonC io payload = [] ∨
      ∃ pumpId state, controlReports jsonC io payload = [(.command pumpId state, io)] := by
  unfold controlReports
  split
  · exact .inl rfl
  · split
    · exact .inr ⟨_, _, rfl⟩
    · exact .inl rfl

/-- A POST makes at most one update. -/
theorem postReports_cases (io : UpdateIo) (payload : List UInt8) :
    postReports jsonC io payload = [] ∨
      ∃ pumpId status, postReports jsonC io payload = [(.feedback pumpId status, io)] := by
  unfold postReports
  split
  · exact .inl rfl
  · split
    · exact .inr ⟨_, _, rfl⟩
    · exact .inl rfl

/-- The reports are at most one update of a pump, and behind it at most one of the system. -/
def PumpThenSystem (reports : List (Update × UpdateIo)) : Prop :=
  ∃ pump system : Option (Update × UpdateIo), reports = pump.toList ++ system.toList ∧
    (∀ report ∈ pump, report.1.entry ≠ none) ∧
    ∀ report ∈ system, ∃ busy alarm, report.1 = .system busy alarm

theorem pumpThenSystem_nil : PumpThenSystem [] := ⟨none, none, rfl, nofun, nofun⟩

theorem pumpThenSystem_singleton {report : Update × UpdateIo} (names : report.1.entry ≠ none) :
    PumpThenSystem [report] := by
  refine ⟨some report, none, rfl, ?_, nofun⟩
  rintro other ⟨⟩
  exact names

theorem feedbackReports_shape (io : MessageIo) (payload : List UInt8) (fields : PumpFields) :
    PumpThenSystem (feedbackReports jsonC io payload fields) := by
  unfold feedbackReports
  cases jsonC.tokenerParse payload with
  | none => exact pumpThenSystem_nil
  | some parsed =>
    dsimp only
    obtain ⟨pump, pumpEq, names⟩ : ∃ pump : Option (Update × UpdateIo),
        statusReports jsonC io.report parsed = pump.toList ∧
        ∀ report ∈ pump, report.1.entry ≠ none := by
      rcases statusReports_cases jsonC io.report parsed with nothing | ⟨pumpId, status, one⟩
      · exact ⟨none, nothing, nofun⟩
      · refine ⟨some (.feedback pumpId status, io.report), one, ?_⟩
        rintro report ⟨⟩
        exact nofun
    rcases systemReports_cases jsonC io.system parsed fields with nothing | ⟨busy, alarm, one⟩
    · exact ⟨pump, none, by rw [pumpEq, nothing]; rfl, names, nofun⟩
    · refine ⟨pump, some (.system busy alarm, io.system), by rw [pumpEq, one]; rfl, names, ?_⟩
      rintro report ⟨⟩
      exact ⟨busy, alarm, rfl⟩

theorem reports_shape (delivery : Delivery) (fields : PumpFields) :
    PumpThenSystem (reports jsonC delivery fields) := by
  obtain ⟨input, io⟩ := delivery
  cases input with
  | feedbackPost payload =>
    show PumpThenSystem (postReports jsonC io.report payload)
    rcases postReports_cases jsonC io.report payload with nothing | ⟨pumpId, status, one⟩
    · exact nothing ▸ pumpThenSystem_nil
    · exact one ▸ pumpThenSystem_singleton nofun
  | mqtt topicName payload =>
    simp only [reports]
    split
    · exact pumpThenSystem_nil
    · split
      · rcases controlReports_cases jsonC io.report (mqttPayload payload) with
          nothing | ⟨pumpId, state, one⟩
        · exact nothing ▸ pumpThenSystem_nil
        · exact one ▸ pumpThenSystem_singleton nofun
      · split
        · exact feedbackReports_shape jsonC io _ fields
        · exact pumpThenSystem_nil

/-- **Handling a delivery applies its updates in order.** -/
theorem handle_pumps (server : ServerState) (delivery : Delivery) :
    (handle jsonC server delivery).pumps = Runs.run applyReport server.pumps
      (reports jsonC delivery server.pumps.current.toPumpFields) := by
  obtain ⟨input, io⟩ := delivery
  cases input with
  | mqtt topicName payload =>
    simp only [handle, reports, mqttMessageArrived]
    by_cases heartbeat : topicName = "gateway/heartbeat"
    · simp only [if_pos heartbeat]
      rfl
    · by_cases control : topicName = "pump/control"
      · simp only [if_neg heartbeat, if_pos control]
        exact pumpControl_eq jsonC io.report _ server.pumps
      · by_cases feedback : topicName = "pump/feedback"
        · simp only [if_neg heartbeat, if_neg control, if_pos feedback]
          exact pumpFeedback_eq jsonC io _ server.pumps
        · simp only [if_neg heartbeat, if_neg control, if_neg feedback]
          rfl
  | feedbackPost payload => exact handlePumpFeedback_eq jsonC io.report payload server.pumps

theorem remembered_reports {side : PumpSide} (remembered : Remembered side)
    (reported : List (Update × UpdateIo)) : Remembered (Runs.run applyReport side reported) := by
  have kept : ∀ (side : PumpSide) (report : Update × UpdateIo), Remembered side →
      Remembered (applyReport side report) :=
    fun _ report same => remembered_applyUpdate report.2 report.1 same
  exact Runs.invariant_run kept remembered reported

theorem remembered_handle {server : ServerState} (delivery : Delivery)
    (remembered : Remembered server.pumps) : Remembered (handle jsonC server delivery).pumps := by
  rw [handle_pumps]
  exact remembered_reports remembered _

end Reports

end ServerPump
