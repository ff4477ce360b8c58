/-
**Restarts: the change detector forgets, the tables do not.**

A run is made of deliveries and restarts. `Recorded` is what a reader of the tables expects right
after a delivery that reports a value of a pump: the newest row of the pump carries the live value.

The detector compares with the memory of the process, so the law fails in one case: the value `0` is
reported, the memory holds `0` because the process started with it, and an earlier process left
another value in the newest row. `Unmasked` excludes this case.

* `recorded_iff_unmasked`: for one delivery, under the invariant `Detector`.
* `recorded_run_iff`: for a run, the law holds after every delivery exactly if no report is masked.
-/

import ServerPump.Proof.Ledger

namespace ServerPump

open ChangeLog CText

/-! ### Runs with restarts -/

/-- A delivery, or the end of a process and the start of the next. -/
inductive Event
  | delivery (delivery : Delivery)
  | restart

def Event.Succeeds : Event → Prop
  | .delivery arrived => arrived.Succeeds
  | .restart => True

instance : DecidablePred Event.Succeeds
  | .delivery arrived => inferInstanceAs (Decidable arrived.Succeeds)
  | .restart => isTrue trivial

def serve (jsonC : JsonC) (server : ServerState) : Event → ServerState
  | .delivery delivery => handle jsonC server delivery
  | .restart => restart server

/-- The value in the newest row of a pump, `0` if there is none. -/
def newestValue (table : Table) (pump : Pump) (tables : PumpTables) : Int32 :=
  replay 0 (valuesOf pump (table.rows tables))

/-- The newest row of a pump carries its live value. -/
def Current (table : Table) (pump : Pump) (side : PumpSide) : Prop :=
  newestValue table pump side.tables = table.valueOf pump.id side.current.toPumpFields

/-- After an event that reports a value of a pump, the newest row of the pump is current. -/
def Recorded (jsonC : JsonC) (server : ServerState) : Event → Prop
  | .delivery delivery =>
    ∀ report ∈ reports jsonC delivery server.pumps.current.toPumpFields, ∀ table pump value,
      report.1.entry = some (table, Pump.id pump, value) →
        Current table pump (handle jsonC server delivery).pumps
  | .restart => True

/-- The value `0` is reported to a memory that already holds it, while the newest row of the pump
carries another value. -/
def Masked (table : Table) (pump : Pump) (value : Int32) (side : PumpSide) : Prop :=
  value = 0 ∧ table.valueOf pump.id side.previous.toPumpFields = 0 ∧
    newestValue table pump side.tables ≠ 0

/-- No value the event reports is masked. -/
def Unmasked (jsonC : JsonC) (server : ServerState) : Event → Prop
  | .delivery delivery =>
    ∀ report ∈ reports jsonC delivery server.pumps.current.toPumpFields, ∀ table pump value,
      report.1.entry = some (table, Pump.id pump, value) → ¬ Masked table pump value server.pumps
  | .restart => True

/-! ### The newest row -/

theorem newestValue_applyUpdate {io : UpdateIo} (succeeds : io.Succeeds) (update : Update)
    (side : PumpSide) (table : Table) (pump : Pump) :
    newestValue table pump (applyUpdate io update side).tables =
      match update.entry with
      | some (own, pumpId, value) =>
        if own = table ∧ pumpId = pump.id ∧
            table.valueOf pump.id side.previous.toPumpFields ≠ value then value
        else newestValue table pump side.tables
      | none => newestValue table pump side.tables := by
  unfold newestValue
  rw [rows_applyUpdate, valuesOf_append]
  cases update.entry with
  | none => simp [valuesOf]
  | some entry =>
    obtain ⟨own, pumpId, value⟩ := entry
    simp only [succeeds.1, and_true]
    by_cases named : pumpId = pump.id
    · subst named
      simp only [true_and]
      split
      · simp [valuesOf]
      · simp [valuesOf]
    · have unnamed : ¬ (own = table ∧ pumpId = pump.id ∧
          table.valueOf pump.id side.previous.toPumpFields ≠ value) := fun all => named all.2.1
      rw [if_neg unnamed]
      split
      · simp [valuesOf, named]
      · simp [valuesOf]

/-! ### The detector -/

/-- The memory of the detector is the live state, and a pump whose newest row is not current is at
the `0` its process started with. -/
structure Detector (side : PumpSide) : Prop where
  previous : side.previous.toPumpFields = side.current.toPumpFields
  newest : ∀ table pump, Current table pump side ∨ table.valueOf pump.id side.current.toPumpFields = 0

/-- A new process remembers zeros, which is what its live fields are. -/
theorem remembered_serve (jsonC : JsonC) {server : ServerState} (event : Event)
    (remembered : Remembered server.pumps) : Remembered (serve jsonC server event).pumps := by
  cases event with
  | restart => rfl
  | delivery delivery => exact remembered_handle jsonC delivery remembered

theorem remembered_run (jsonC : JsonC) (events : List Event) :
    Remembered (Runs.run (serve jsonC) {} events).pumps := by
  have kept : ∀ (server : ServerState) (event : Event), Remembered server.pumps →
      Remembered (serve jsonC server event).pumps :=
    fun _ event remembered => remembered_serve jsonC event remembered
  have initial : Remembered ({} : ServerState).pumps := rfl
  exact Runs.invariant_run kept initial events

theorem detector_applyUpdate {io : UpdateIo} (succeeds : io.Succeeds) (update : Update)
    {side : PumpSide} (detector : Detector side) : Detector (applyUpdate io update side) := by
  obtain ⟨previous, newest⟩ := detector
  refine ⟨remembered_applyUpdate io update previous, fun table pump => ?_⟩
  unfold Current
  rw [newestValue_applyUpdate succeeds, applyUpdate_current, valueOf_write, previous]
  cases update.entry with
  | none => exact newest table pump
  | some entry =>
    obtain ⟨own, pumpId, value⟩ := entry
    by_cases named : own = table ∧ pumpId = pump.id
    · obtain ⟨rfl, rfl⟩ := named
      by_cases differs : own.valueOf pump.id side.current.toPumpFields = value
      · subst differs
        simp only [true_and, ne_eq, not_true_eq_false, if_false, if_true, and_self]
        exact newest own pump
      · simp [differs]
    · have other : ¬ (own = table ∧ pumpId = pump.id ∧
          table.valueOf pump.id side.current.toPumpFields ≠ value) :=
        fun all => named ⟨all.1, all.2.1⟩
      simp only [if_neg named, if_neg other]
      exact newest table pump

theorem detector_serve (jsonC : JsonC) (server : ServerState) (event : Event)
    (succeeds : event.Succeeds) (detector : Detector server.pumps) :
    Detector (serve jsonC server event).pumps := by
  cases event with
  | restart => exact ⟨rfl, fun table pump => .inr (by cases table <;> cases pump <;> rfl)⟩
  | delivery delivery =>
    show Detector (handle jsonC server delivery).pumps
    rw [handle_pumps]
    have kept : ∀ (side : PumpSide) (report : Update × UpdateIo), report.2.Succeeds →
        Detector side → Detector (applyReport side report) :=
      fun _ report succeeds detector => detector_applyUpdate succeeds report.1 detector
    exact Runs.invariant_run_of_mem kept detector _ fun _ => succeeds_of_mem_reports jsonC succeeds

/-! ### The law -/

/-- A system status touches no row of a pump and no value of one. -/
theorem current_applyUpdate_system {io : UpdateIo} (succeeds : io.Succeeds) (busy alarm : Int32)
    (side : PumpSide) (table : Table) (pump : Pump) :
    Current table pump (applyUpdate io (.system busy alarm) side) ↔ Current table pump side := by
  unfold Current
  rw [newestValue_applyUpdate succeeds, applyUpdate_current, valueOf_write]
  rfl

/-- **A report is recorded exactly if it is not masked.** -/
theorem current_applyUpdate_iff {io : UpdateIo} (succeeds : io.Succeeds) {update : Update}
    {side : PumpSide} (detector : Detector side) {table : Table} {pump : Pump} {value : Int32}
    (shape : update.entry = some (table, pump.id, value)) :
    Current table pump (applyUpdate io update side) ↔ ¬ Masked table pump value side := by
  unfold Current Masked
  rw [newestValue_applyUpdate succeeds, applyUpdate_current, valueOf_write, shape, detector.previous]
  simp only [true_and, if_pos]
  by_cases differs : table.valueOf pump.id side.current.toPumpFields = value
  · subst differs
    rw [if_neg (not_not.mpr rfl)]
    rcases detector.newest table pump with current | zero
    · rw [show newestValue table pump side.tables = _ from current]
      simp
    · rw [zero]
      simp
  · rw [if_pos differs]
    refine ⟨fun _ masked => ?_, fun _ => rfl⟩
    exact differs (masked.2.1.trans masked.1.symm)

/-- **A delivery is recorded exactly if none of its reports is masked.** -/
theorem recorded_iff_unmasked (jsonC : JsonC) (server : ServerState) (event : Event)
    (detector : Detector server.pumps) (succeeds : event.Succeeds) :
    Recorded jsonC server event ↔ Unmasked jsonC server event := by
  cases event with
  | restart => exact Iff.rfl
  | delivery delivery =>
    refine forall₂_congr fun report member => forall_congr' fun table => forall_congr' fun pump =>
      forall_congr' fun value => forall_congr' fun shape => ?_
    have reportSucceeds : ∀ report ∈ reports jsonC delivery server.pumps.current.toPumpFields,
        report.2.Succeeds := fun _ => succeeds_of_mem_reports jsonC succeeds
    obtain ⟨named, system, reportsEq, -, isSystem⟩ :=
      reports_shape jsonC delivery server.pumps.current.toPumpFields
    rw [handle_pumps, reportsEq, Runs.run_append]
    rw [reportsEq] at member reportSucceeds
    -- a report with an entry is the pump's own, so it is the first one
    have isNamed : named = some report := by
      rcases List.mem_append.mp member with inNamed | inSystem
      · exact Option.mem_toList.mp inNamed
      · obtain ⟨busy, alarm, isSystemUpdate⟩ := isSystem report (Option.mem_toList.mp inSystem)
        rw [isSystemUpdate] at shape
        cases shape
    subst isNamed
    have recorded := current_applyUpdate_iff (reportSucceeds report member) detector shape
    cases system with
    | none => exact recorded
    | some behind =>
      obtain ⟨busy, alarm, isSystemUpdate⟩ := isSystem behind rfl
      have behindSucceeds := reportSucceeds behind (by simp)
      refine Iff.trans ?_ recorded
      show Current table pump (applyUpdate behind.2 behind.1 _) ↔ _
      rw [isSystemUpdate]
      exact current_applyUpdate_system behindSucceeds busy alarm _ table pump

/-- **The law holds after every delivery of a run exactly if no report of the run is masked.** -/
theorem recorded_run_iff (jsonC : JsonC) (events : List Event)
    (succeeds : ∀ event ∈ events, event.Succeeds) :
    Runs.Guarded (serve jsonC) (Recorded jsonC) {} events ↔
      Runs.Guarded (serve jsonC) (Unmasked jsonC) {} events := by
  have initial : Detector ({} : ServerState).pumps :=
    ⟨rfl, fun table pump => .inr (by cases table <;> cases pump <;> rfl)⟩
  exact Runs.guarded_congr (detector_serve jsonC)
    (fun server event detector succeeds => recorded_iff_unmasked jsonC server event detector succeeds)
    initial succeeds

/-- Pump 1 is started; after a restart it is stopped. -/
def stoppedAfterRestart : List Event :=
  [.delivery ⟨.mqtt "pump/control" (ascii "\x7b\"pump_id\":1,\"state\":1\x7d"), .at 100⟩, .restart,
    .delivery ⟨.mqtt "pump/control" (ascii "\x7b\"pump_id\":1,\"state\":0\x7d"), .at 200⟩]

theorem recorded_stoppedAfterRestart_iff :
    (∀ event ∈ stoppedAfterRestart, event.Succeeds) ∧
      (Runs.Guarded (serve JsonC.reference) (Recorded JsonC.reference) {} stoppedAfterRestart ↔
        Runs.Guarded (serve JsonC.reference) (Unmasked JsonC.reference) {} stoppedAfterRestart) := by
  have succeeds : ∀ event ∈ stoppedAfterRestart, event.Succeeds := by decide
  exact ⟨succeeds, recorded_run_iff JsonC.reference stoppedAfterRestart succeeds⟩

/-- The newest row still says that pump 1 runs. -/
theorem stop_unrecorded :
    ¬ ∀ events : List Event, (∀ event ∈ events, event.Succeeds) →
      Runs.Guarded (serve JsonC.reference) (Recorded JsonC.reference) {} events := by
  intro always
  obtain ⟨-, -, recorded, -⟩ := always stoppedAfterRestart (by decide)
  have current := recorded (.command 1 0, { now := 200 }) (by decide +kernel) .commands .one 0 rfl
  exact absurd current (by unfold Current; decide +kernel)

end ServerPump
