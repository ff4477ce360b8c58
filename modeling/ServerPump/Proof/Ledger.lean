/-
**One process lifetime: the tables record the live state.**

What the pump side is for is a `Ledger`: each of its six values is a register that is logged on
change (`ChangeLog.Journal`), and an update is a report to the registers it names. The ledger has no
previous state, no tables and no clock.

* `follows_applyUpdate` (one update) and `follows_run` (a whole lifetime): when every insertion
  succeeds, the server *follows* the ledger. Its live and its previous fields are both the current
  values, the rows of a pump are the log of its register, and the newest snapshot carries all six
  values.
* `tables_record_state` reads the laws of the tables off the ledger: the rows of `pump_commands` and
  `pump_feedback` replay to the live values, the newest snapshot is the live state, and the rows of
  one pump never repeat a value.
-/

import Mathlib.Logic.Function.Basic
import ServerPump.Library.ChangeLog
import ServerPump.Proof.Update

namespace ServerPump

open ChangeLog CText

/-! ### The ledger -/

/-- A change log for each register. -/
abbrev Ledger := Register → Journal (0 : Int32)

namespace Ledger

def empty : Ledger := fun _ => Journal.empty 0

/-- The current values. -/
def fields (ledger : Ledger) : PumpFields where
  pump1 := (ledger (.of .commands .one)).value
  pump2 := (ledger (.of .commands .two)).value
  pump1Status := (ledger (.of .feedback .one)).value
  pump2Status := (ledger (.of .feedback .two)).value
  busy := (ledger .busy).value
  alarm := (ledger .alarm).value

/-- A report to one register. -/
def report (ledger : Ledger) (register : Register) (value : Int32) : Ledger :=
  Function.update ledger register ((ledger register).report value)

/-- A report about a pump; an unknown pump has no register. -/
def reportPump (ledger : Ledger) (table : Table) (pumpId value : Int32) : Ledger :=
  match Pump.ofId pumpId with
  | some pump => ledger.report (.of table pump) value
  | none => ledger

/-- An update reports to the registers it names. -/
def apply (ledger : Ledger) : Update → Ledger
  | .command pumpId state => ledger.reportPump .commands pumpId state
  | .feedback pumpId status => ledger.reportPump .feedback pumpId status
  | .system busy alarm => (ledger.report .busy busy).report .alarm alarm

end Ledger

@[simp]
theorem value_ledgerReport (ledger : Ledger) (register other : Register) (value : Int32) :
    (ledger.report register value other).value =
      if other = register then value else (ledger other).value := by
  by_cases same : other = register
  · subst same
    rw [if_pos rfl, Ledger.report, Function.update_self, Journal.value_report]
  · rw [if_neg same, Ledger.report, Function.update_of_ne same]

@[simp]
theorem log_ledgerReport (ledger : Ledger) (register other : Register) (value : Int32) :
    (ledger.report register value other).log = (ledger other).log ++
      if other = register ∧ (ledger other).value ≠ value then [value] else [] := by
  by_cases same : other = register
  · subst same
    rw [Ledger.report, Function.update_self, Journal.log_report]
    by_cases differs : (ledger other).value ≠ value
    · rw [if_pos differs, if_pos ⟨rfl, differs⟩]
    · rw [if_neg differs, if_neg fun both => differs both.2, List.append_nil]
  · rw [Ledger.report, Function.update_of_ne same, if_neg fun both => same both.1, List.append_nil]

/-- The ledger takes the values the update writes. -/
theorem fields_apply (ledger : Ledger) (update : Update) :
    (ledger.apply update).fields = update.write ledger.fields := by
  cases update with
  | command pumpId state =>
    simp only [Ledger.apply, Ledger.reportPump, Update.write, PumpFields.setCommand, Pump.ofId]
    by_cases first : pumpId = 1
    · simp [first, Ledger.fields]
    · by_cases second : pumpId = 2
      · simp [second, Ledger.fields]
      · simp [first, second]
  | feedback pumpId status =>
    simp only [Ledger.apply, Ledger.reportPump, Update.write, PumpFields.setStatus, Pump.ofId]
    by_cases first : pumpId = 1
    · simp [first, Ledger.fields]
    · by_cases second : pumpId = 2
      · simp [second, Ledger.fields]
      · simp [first, second]
  | system busy alarm => simp [Ledger.apply, Update.write, PumpFields.setSystem, Ledger.fields]

theorem log_reportPump (ledger : Ledger) (own table : Table) (pumpId value : Int32) (pump : Pump) :
    (ledger.reportPump own pumpId value (.of table pump)).log = (ledger (.of table pump)).log ++
      if own = table ∧ pumpId = pump.id ∧ (ledger (.of table pump)).value ≠ value then [value]
      else [] := by
  unfold Ledger.reportPump
  cases named : Pump.ofId pumpId with
  | none =>
    have unknown : ¬ pumpId = pump.id := by
      rw [← ofId_eq_some_iff, named]
      exact nofun
    simp [unknown]
  | some known =>
    have samePump : pumpId = pump.id ↔ pump = known := by
      rw [← ofId_eq_some_iff, named, Option.some.injEq, eq_comm]
    simp [samePump, and_assoc, eq_comm (a := table)]

/-- What the log of a pump's register gains. -/
theorem log_apply (ledger : Ledger) (update : Update) (table : Table) (pump : Pump) :
    (ledger.apply update (.of table pump)).log = (ledger (.of table pump)).log ++
      match update.entry with
      | some (own, pumpId, value) =>
        if own = table ∧ pumpId = pump.id ∧ (ledger (.of table pump)).value ≠ value then [value]
        else []
      | none => [] := by
  cases update with
  | command pumpId state => exact log_reportPump ledger .commands table pumpId state pump
  | feedback pumpId status => exact log_reportPump ledger .feedback table pumpId status pump
  | system busy alarm => simp [Ledger.apply, Update.entry]

/-! ### The server follows the ledger -/

/-- The values in the rows of one pump, oldest first. -/
def valuesOf (pump : Pump) (rows : List (Int32 × Int32)) : List Int32 :=
  (rows.filter fun row => row.1 = pump.id).map Prod.snd

theorem valuesOf_append (pump : Pump) (first second : List (Int32 × Int32)) :
    valuesOf pump (first ++ second) = valuesOf pump first ++ valuesOf pump second := by
  simp [valuesOf]

theorem valueOf_id (table : Table) (ledger : Ledger) (pump : Pump) :
    table.valueOf pump.id ledger.fields = (ledger (.of table pump)).value := by
  cases table <;> cases pump <;> rfl

/-- The server follows the ledger. -/
structure Follows (side : PumpSide) (ledger : Ledger) : Prop where
  current : side.current.toPumpFields = ledger.fields
  previous : side.previous.toPumpFields = ledger.fields
  values : ∀ table pump, valuesOf pump (table.rows side.tables) = (ledger (.of table pump)).log
  snapshot : (newestSnapshot side.tables).getD {} = ledger.fields

theorem follows_empty : Follows {} Ledger.empty where
  current := rfl
  previous := rfl
  values table pump := by cases table <;> rfl
  snapshot := rfl

/-- **One update keeps the server on the ledger.** -/
theorem follows_applyUpdate {side : PumpSide} {ledger : Ledger} {io : UpdateIo}
    (succeeds : io.Succeeds) (follows : Follows side ledger) (update : Update) :
    Follows (applyUpdate io update side) (ledger.apply update) := by
  obtain ⟨current, previous, values, snapshot⟩ := follows
  obtain ⟨rowInserted, snapshotInserted⟩ := succeeds
  refine ⟨?_, ?_, fun table pump => ?_, ?_⟩
  · rw [applyUpdate_current, current, fields_apply]
  · rw [applyUpdate_previous, previous, fields_apply]
    cases detected : update.detects ledger.fields with
    | false => exact (write_eq_of_not_detects detected).symm
    | true => rfl
  · rw [log_apply, ← values table pump, rows_applyUpdate, valuesOf_append]
    congr 1
    cases update.entry with
    | none => rfl
    | some entry =>
      obtain ⟨own, pumpId, value⟩ := entry
      simp only [previous, rowInserted, and_true]
      by_cases named : pumpId = pump.id
      · subst named
        rw [valueOf_id]
        split <;> simp_all [valuesOf]
      · split <;> simp [valuesOf, named]
  · rw [newestSnapshot_applyUpdate, previous, current, fields_apply]
    cases detected : update.detects ledger.fields with
    | false =>
      rw [if_neg (by simp), snapshot]
      exact (write_eq_of_not_detects detected).symm
    | true =>
      rw [if_pos ⟨rfl, snapshotInserted⟩]
      rfl

/-- A delivery, in the ledger: its updates in order. -/
def Ledger.deliver (jsonC : JsonC) (ledger : Ledger) (delivery : Delivery) : Ledger :=
  Runs.run (fun ledger report => ledger.apply report.1) ledger (reports jsonC delivery ledger.fields)

/-- **A delivery keeps the server on the ledger.** -/
theorem follows_handle (jsonC : JsonC) (server : ServerState) (ledger : Ledger)
    (delivery : Delivery) (succeeds : delivery.Succeeds) (follows : Follows server.pumps ledger) :
    Follows (handle jsonC server delivery).pumps (ledger.deliver jsonC delivery) := by
  rw [handle_pumps, follows.current]
  have kept : ∀ (side : PumpSide) (ledger : Ledger) (report : Update × UpdateIo),
      report.2.Succeeds → Follows side ledger →
        Follows (applyReport side report) (ledger.apply report.1) :=
    fun _ _ report succeeds follows => follows_applyUpdate succeeds follows report.1
  exact Runs.simulation_run kept follows _ fun _ => succeeds_of_mem_reports jsonC succeeds

/-- **A process lifetime keeps the server on the ledger.** -/
theorem follows_run (jsonC : JsonC) (deliveries : List Delivery)
    (succeeds : ∀ delivery ∈ deliveries, delivery.Succeeds) :
    Follows (Runs.run (handle jsonC) {} deliveries).pumps
      (Runs.run (Ledger.deliver jsonC) Ledger.empty deliveries) :=
  Runs.simulation_run (follows_handle jsonC) follows_empty deliveries succeeds

/-! ### The laws of the tables -/

/-- The two values the rows of a table lead to from zero. Rows of other pumps are passed over. -/
def foldRows (rows : List (Int32 × Int32)) : Int32 × Int32 :=
  rows.foldl
    (fun values row =>
      if row.1 = 1 then (row.2, values.2) else if row.1 = 2 then (values.1, row.2) else values)
    (0, 0)

/-- Folding all rows is replaying those of each pump. -/
theorem foldRows_eq (rows : List (Int32 × Int32)) :
    foldRows rows = (replay 0 (valuesOf .one rows), replay 0 (valuesOf .two rows)) := by
  induction rows using List.reverseRecOn with
  | nil => rfl
  | append_singleton rows row ih =>
    have newest : ∀ pump, valuesOf pump (rows ++ [row]) =
        valuesOf pump rows ++ if row.1 = pump.id then [row.2] else [] := by
      intro pump
      rw [valuesOf_append]
      congr 1
      by_cases own : row.1 = pump.id
      · simp [valuesOf, own]
      · simp [valuesOf, own]
    have folded : foldRows (rows ++ [row]) = if row.1 = 1 then (row.2, (foldRows rows).2)
        else if row.1 = 2 then ((foldRows rows).1, row.2) else foldRows rows :=
      List.foldl_concat _ _ _ _
    rw [folded, ih, newest, newest]
    by_cases first : row.1 = 1
    · simp [first, Pump.id]
    · by_cases second : row.1 = 2
      · simp [second, Pump.id]
      · simp [first, second, Pump.id]

/-- **The tables record the live state**, after any deliveries whose insertions succeed. -/
theorem tables_record_state (jsonC : JsonC) (deliveries : List Delivery)
    (succeeds : ∀ delivery ∈ deliveries, delivery.Succeeds) :
    let side := (Runs.run (handle jsonC) {} deliveries).pumps
    foldRows (Table.rows side.tables .commands) = (side.current.pump1, side.current.pump2) ∧
    foldRows (Table.rows side.tables .feedback) = (side.current.pump1Status, side.current.pump2Status) ∧
    (newestSnapshot side.tables).getD {} = side.current.toPumpFields ∧
    ∀ (table : Table) (pump : Pump), Changing 0 (valuesOf pump (table.rows side.tables)) := by
  intro side
  obtain ⟨current, -, values, snapshot⟩ := follows_run jsonC deliveries succeeds
  refine ⟨?_, ?_, snapshot.trans current.symm, fun table pump => ?_⟩
  · rw [foldRows_eq, values, values, current]
    rfl
  · rw [foldRows_eq, values, values, current]
    rfl
  · rw [values]
    exact Journal.changing _

/-- A command, its repetition, a feedback with a system status, and a POST. -/
def sampleLifetime : List Delivery :=
  [⟨.mqtt "pump/control" (ascii "\x7b\"pump_id\":1,\"state\":1\x7d"), .at 100⟩,
    ⟨.mqtt "pump/control" (ascii "\x7b\"pump_id\":1,\"state\":1\x7d"), .at 101⟩,
    ⟨.mqtt "pump/feedback" (ascii "\x7b\"pump_id\":1,\"status\":1,\"busy\":2\x7d"), .at 102⟩,
    ⟨.feedbackPost (ascii "\x7b\"pump_id\":2,\"status\":3\x7d"), .at 103⟩]

theorem tables_record_sampleLifetime :
    let side := (Runs.run (handle JsonC.reference) {} sampleLifetime).pumps
    side.current.toPumpFields = ⟨1, 0, 1, 3, 2, 0⟩ ∧
    (foldRows (Table.rows side.tables .commands) = (side.current.pump1, side.current.pump2) ∧
    foldRows (Table.rows side.tables .feedback) = (side.current.pump1Status, side.current.pump2Status) ∧
    (newestSnapshot side.tables).getD {} = side.current.toPumpFields ∧
    ∀ (table : Table) (pump : Pump), Changing 0 (valuesOf pump (table.rows side.tables))) := by
  refine ⟨by decide +kernel, tables_record_state JsonC.reference sampleLifetime ?_⟩
  decide

end ServerPump
