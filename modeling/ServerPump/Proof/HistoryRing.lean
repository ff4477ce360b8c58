/-
**The ring of the last commands.**

`add_pump_history` keeps the last hundred states in memory. A command that is a change pushes the live
state, and then logs the command and a snapshot, which reads the live state again.

* `ring_addPumpHistory`: a push is one of a ring buffer.
* `logged_command`: a command pushes exactly what it logs.
* `ring_holds_newest`: behind any run of control messages the ring has the last snapshots of the run.
-/

import ServerPump.Library.RingBuffer
import ServerPump.Proof.History

namespace ServerPump

open RingBuffer

/-! ### The law -/

/-- `pump_history` as a ring buffer. -/
def PumpHistory.ring (history : PumpHistory) : RingState PumpStatus :=
  ⟨history.items, history.count, history.index⟩

/-- The row a state is logged as. -/
def PumpStatus.row (status : PumpStatus) : SnapshotRow :=
  snapshotOf status.toPumpFields status.timestamp

/-- The commands logged since the tables had these rows. -/
def commandsSince (before : PumpTables) (side : PumpSide) : List CommandRow :=
  side.tables.pumpCommands.drop before.pumpCommands.length

/-- The snapshots logged since the tables had these rows. -/
def snapshotsSince (before : PumpTables) (side : PumpSide) : List SnapshotRow :=
  side.tables.pumpSnapshots.drop before.pumpSnapshots.length

/-- **The law**: behind `n` logged commands the ring has `min n 100` entries and its next cell is
`n % 100`; from the oldest entry to the newest they are the last snapshots. -/
structure RingHoldsNewest (before : PumpTables) (side : PumpSide) : Prop where
  appended : before.pumpCommands <+: side.tables.pumpCommands ∧
    before.pumpSnapshots <+: side.tables.pumpSnapshots
  count : side.history.count = min (commandsSince before side).length maxHistory
  index : side.history.index = (commandsSince before side).length % maxHistory
  entries : (side.history.ring.oldestFirst maxHistory).map PumpStatus.row =
    (snapshotsSince before side).rtake (min (commandsSince before side).length maxHistory)

/-- The delivery is a control message. -/
def Delivery.IsControl (delivery : Delivery) : Prop :=
  ∃ payload, delivery.input = .mqtt "pump/control" payload

/-! ### Commands -/

/-- These states were pushed and logged since the tables had these rows. -/
structure RingLogged (before : PumpTables) (statuses : List PumpStatus) (side : PumpSide) : Prop where
  commands : ∃ rows, side.tables.pumpCommands = before.pumpCommands ++ rows ∧
    rows.length = statuses.length
  snapshots : side.tables.pumpSnapshots = before.pumpSnapshots ++ statuses.map PumpStatus.row
  ring : Holds maxHistory statuses side.history.ring

theorem ring_addPumpHistory (status : PumpStatus) (side : PumpSide) :
    (addPumpHistory status side).history.ring = side.history.ring.push maxHistory status := rfl

theorem logged_initial (tables : PumpTables) : RingLogged tables [] { tables := tables } where
  commands := ⟨[], (List.append_nil _).symm, rfl⟩
  snapshots := (List.append_nil _).symm
  ring := holds_nil List.length_replicate

/-- **A command pushes exactly what it logs.** -/
theorem logged_command {io : UpdateIo} (succeeds : io.Succeeds) (pumpId state : Int32)
    {before : PumpTables} {statuses : List PumpStatus} {side : PumpSide}
    (logged : RingLogged before statuses side) :
    ∃ more, RingLogged before more (updatePumpStatus io pumpId state side) := by
  unfold updatePumpStatus
  dsimp only
  split
  · obtain ⟨rows, commands, sameLength⟩ := logged.commands
    let pushed := (side.stamp io.now (PumpFields.setCommand pumpId state)).current
    refine ⟨statuses ++ [pushed], ⟨rows ++ [⟨pumpId, state, pushed.timestamp, "api"⟩], ?_, ?_⟩, ?_, ?_⟩
    · rw [succeeds.1, succeeds.2, ← List.append_assoc, ← commands]
      rfl
    · rw [List.length_append, List.length_append, sameLength]
      rfl
    · rw [succeeds.1, succeeds.2, List.map_append, ← List.append_assoc, ← logged.snapshots]
      rfl
    · show Holds maxHistory (statuses ++ [pushed]) (addPumpHistory pushed _).history.ring
      rw [ring_addPumpHistory]
      exact holds_push (by decide) logged.ring pushed
  · exact ⟨statuses, logged.commands, logged.snapshots, logged.ring⟩

theorem logged_handle (jsonC : JsonC) {server : ServerState} {delivery : Delivery}
    (allowed : delivery.IsControl ∧ delivery.Succeeds) {before : PumpTables}
    (logged : ∃ statuses, RingLogged before statuses server.pumps) :
    ∃ statuses, RingLogged before statuses (handle jsonC server delivery).pumps := by
  obtain ⟨⟨payload, isControl⟩, succeeds⟩ := allowed
  obtain ⟨statuses, logged⟩ := logged
  have handled : (handle jsonC server delivery).pumps =
      Runs.run applyReport server.pumps
        (controlReports jsonC delivery.io.report (mqttPayload payload)) := by
    rw [handle_pumps, reports, isControl]
    rfl
  rw [handled]
  rcases controlReports_cases jsonC delivery.io.report (mqttPayload payload) with
    nothing | ⟨pumpId, state, one⟩
  · rw [nothing]
    exact ⟨statuses, logged⟩
  · rw [one]
    show ∃ statuses, RingLogged before statuses (applyUpdate delivery.io.report _ server.pumps)
    rw [← updatePumpStatus_eq]
    exact logged_command succeeds.1 pumpId state logged

/-! ### Runs -/

/-- **The law follows** from what was pushed and logged. -/
theorem holdsNewest_of_logged {before : PumpTables} {statuses : List PumpStatus} {side : PumpSide}
    (logged : RingLogged before statuses side) : RingHoldsNewest before side := by
  obtain ⟨⟨rows, commands, sameLength⟩, snapshots, ring⟩ := logged
  have commandCount : (commandsSince before side).length = statuses.length := by
    rw [commandsSince, commands, List.drop_left, sameLength]
  have since : snapshotsSince before side = statuses.map PumpStatus.row := by
    rw [snapshotsSince, snapshots, List.drop_left]
  refine ⟨⟨⟨rows, commands.symm⟩, ⟨_, snapshots.symm⟩⟩, ?_, ?_, ?_⟩
  · rw [commandCount]
    exact ring.count
  · rw [commandCount]
    exact ring.index
  · rw [commandCount, since, oldestFirst_of_holds ring]
    unfold List.rtake
    rw [List.map_drop, List.length_map]

/-- **Behind any run of control messages the ring has the last snapshots of the run**, whatever the
tables had when the process started. -/
theorem ring_holds_newest (jsonC : JsonC) (tables : PumpTables) (gateway : GatewaySide)
    (deliveries : List Delivery)
    (allowed : ∀ delivery ∈ deliveries, delivery.IsControl ∧ delivery.Succeeds) :
    RingHoldsNewest tables
      (Runs.run (handle jsonC) { pumps := { tables := tables }, gateway := gateway }
        deliveries).pumps := by
  have kept : ∀ (server : ServerState) (delivery : Delivery), delivery.IsControl ∧ delivery.Succeeds →
      (∃ statuses, RingLogged tables statuses server.pumps) →
        ∃ statuses, RingLogged tables statuses (handle jsonC server delivery).pumps :=
    fun _ _ allowed logged => logged_handle jsonC allowed logged
  have initial : ∃ statuses, RingLogged tables statuses
      ({ pumps := { tables := tables }, gateway := gateway } : ServerState).pumps :=
    ⟨[], logged_initial tables⟩
  obtain ⟨statuses, logged⟩ := Runs.invariant_run_of_mem kept initial deliveries allowed
  exact holdsNewest_of_logged logged

theorem isControl_of_mem_toggles {count : ℕ} {delivery : Delivery} (member : delivery ∈ toggles count) :
    delivery.IsControl := by
  induction count with
  | zero => cases member
  | succ count ih =>
    rcases List.mem_cons.mp member with rfl | member
    · exact ⟨_, rfl⟩
    · rcases List.mem_cons.mp member with rfl | member
      · exact ⟨_, rfl⟩
      · exact ih member

/-- 120 commands go once around the ring. -/
theorem ring_holds_newest_toggles :
    (∀ delivery ∈ toggles 60, delivery.IsControl ∧ delivery.Succeeds) ∧
      RingHoldsNewest {} (Runs.run (handle JsonC.reference) {} (toggles 60)).pumps := by
  have allowed : ∀ delivery ∈ toggles 60, delivery.IsControl ∧ delivery.Succeeds :=
    fun _ member => ⟨isControl_of_mem_toggles member, succeeds_of_mem_toggles member⟩
  exact ⟨allowed, ring_holds_newest JsonC.reference {} {} (toggles 60) allowed⟩

end ServerPump
